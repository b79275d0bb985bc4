import DirectTestMode.Transport.Outcome

/-!
# The responses of the shared core

`Outcome.Told` is the event format of the two-wire interface: what a tester reads off the response.
The shared core defines its two status events the other way round, so no status is told as it is
(`not_told_status`), and a packet report is told exactly when the count fits the fifteen bits it is
merged into (`told_report_iff`).

* The **outcome** of a word is what the decoder's run came to, a status with its data or a packet
  count (`Decoder.outcome` of `Transport.Outcome`); the **response** is the word it is encoded as.
  The two are separated in the model so that the encoding can be compared with the format for any
  outcome, without a case for each command.
* `Told` reads the response as a tester does. It relates a word to an outcome, so that "told as it
  is" is a statement about the pair: either of the core's two status words tells an outcome, and it
  is the one that the other word is sent for.
* Which words have which outcome is a fact about the decoder's text (`outcome_status`): an accepted
  Test End reports the counter, and every other word has a status.

So `response_told_iff` has a condition on the word and the counter before it, for all words and
states at once. The UART decoder, which defines the two events as the format has them, is the
sibling that shows the intention.
-/

namespace DirectTestMode

open Fallible

variable {b : Build} {q : ℕ}

/-! ### The event format -/

/-- The response tells the outcome. A packet report has bit 15 set and the count below it. A status
has bit 15 clear, bit 0 clear exactly on success, the response data between them, and is `0x0001`
on an error. -/
def Outcome.Told (response : UInt16) : Outcome → Prop
  | .report cnt => response &&& 0x8000 ≠ 0 ∧ response &&& 0x7FFF = cnt
  | .status err ret =>
    response &&& 0x8000 = 0 ∧ (response &&& 0x0001 = 0 ↔ err = .ok) ∧
      (err = .ok → response &&& 0x7FFE = ret) ∧ (err ≠ .ok → response = 0x0001)

/-- Masks distribute over merged bits. -/
theorem or_and_right (a c m : UInt16) : (a ||| c) &&& m = (a &&& m) ||| (c &&& m) :=
  UInt16.toBitVec_inj.1 BitVec.and_or_distrib_right

/-- The low bits of a packet report are the count modulo `2 ^ 15`. -/
theorem packetReport_low (cnt : UInt16) :
    ((Decoder.packetReportingEvent ||| cnt) &&& 0x7FFF).toNat = cnt.toNat % 2 ^ 15 := by
  have h : (Decoder.packetReportingEvent ||| cnt) &&& 0x7FFF = cnt &&& 0x7FFF := by
    rw [or_and_right]
    exact UInt16.zero_or
  rw [h, UInt16.toNat_and]
  exact Nat.and_two_pow_sub_one_eq_mod _ 15

/-- A count is merged into fifteen bits, and bit 15 is the one that marks a packet report. -/
theorem told_report_iff (cnt : UInt16) :
    (Outcome.report cnt).Told (CmdCore.decoder.event (.report cnt)) ↔ cnt.toNat < 0x8000 := by
  have hbit : (Decoder.packetReportingEvent ||| cnt) &&& 0x8000 ≠ 0 := by
    intro h
    have hnat := congrArg (fun w : UInt16 ↦ w.toNat.testBit 15) h
    simp [Decoder.packetReportingEvent, UInt16.toNat_and, UInt16.toNat_or, Nat.testBit_and,
      Nat.testBit_or] at hnat
    exact absurd (hnat (.inl (by decide))) (by decide)
  rw [Outcome.Told, Decoder.event, ← UInt16.toNat_inj, packetReport_low, and_iff_right hbit]
  omega

/-- **No status is told**: success has bit 0 set, and an error is `0x0000`. -/
theorem not_told_status (err : Ret) (ret : UInt16) :
    ¬ (Outcome.status err ret).Told (CmdCore.decoder.event (.status err ret)) := by
  rintro ⟨-, hbit, -, herr⟩
  cases err with
  | ok =>
    have h : (0x0001 ||| ret) &&& 0x0001 = 0 := hbit.2 rfl
    have hnat := congrArg (fun w : UInt16 ↦ w.toNat.testBit 0) h
    simp [UInt16.toNat_and, UInt16.toNat_or] at hnat
  | err e =>
    exact absurd (herr (by simp)) (by simp [Decoder.event, Decoder.statusEvent, CmdCore.decoder])

/-! ### The outcomes of the words -/

/-- A word on the shared core with its outcome in place of the response. -/
def Firmware.putOutcome (b : Build) (q : ℕ) (f : Firmware) (cmd : UInt16) :
    Except Fault (Outcome × Firmware) := do
  let x ← (CmdCore.decoder.outcome cmd f.upperLen).run (hostHandler b q) f.host
  pure (x.1.1, { f with host := x.2, upperLen := x.1.2 })

/-- The response is the outcome, encoded. -/
theorem Firmware.put_eq (f : Firmware) (cmd : UInt16) :
    f.put b q cmd = f.putOutcome b q cmd >>= fun x ↦
      .ok (CmdCore.decoder.event x.1, x.2) := by
  rw [put, putOutcome, CmdCore.dtmCmdPut, Decoder.dtmCmdPut_eq_outcome, Prog.run_bind]
  cases (CmdCore.decoder.outcome cmd f.upperLen).run (hostHandler b q) f.host <;> rfl

/-- The word ends the test: its code is Test End, its control zero and its parameter in range. -/
def acceptedTestEnd (cmd : UInt16) : Prop :=
  cmdCode cmd = 3 ∧ cmdControl cmd = 0 ∧ (cmdParameter cmd).toNat ≤ 10

instance (cmd : UInt16) : Decidable (acceptedTestEnd cmd) :=
  inferInstanceAs (Decidable (_ ∧ _))

/-- Every other word has a status for its outcome. -/
theorem outcome_status {cmd : UInt16} (h : ¬ acceptedTestEnd cmd) (upperLen : UInt8) :
    (CmdCore.decoder.outcome cmd upperLen).Returns fun x ↦ ∃ err ret, x.1 = .status err ret := by
  rcases Decoder.cmdCode_cases cmd with hcode | hcode | hcode | hcode
  · rw [Decoder.outcome_testSetup _ _ hcode]
    exact (Prog.returns_true _).bind fun x _ ↦ ⟨_, _, rfl⟩
  · rw [Decoder.outcome_receiverTest _ _ hcode]
    exact (Prog.returns_true _).bind fun x _ ↦ ⟨_, _, rfl⟩
  · obtain ⟨type, htype⟩ := Decoder.cmdType_cases cmd
    rw [Decoder.outcome_transmitterTest _ _ hcode htype]
    exact (Prog.returns_true _).bind fun x _ ↦ ⟨_, _, rfl⟩
  · rw [Decoder.outcome_testEnd _ _ hcode, if_pos]
    · exact ⟨_, _, rfl⟩
    · by_contra hrange
      simp only [not_or, not_not, Nat.not_lt] at hrange
      exact h ⟨hcode, hrange⟩

/-- **An accepted Test End reports the packet counter** and leaves the device idle. -/
theorem Firmware.putOutcome_testEnd {f : Firmware} {cmd : UInt16} (h : acceptedTestEnd cmd) :
    f.putOutcome b q cmd =
      .ok (.report f.device.rxPktCount, f.withDevice (dtmTestDone b f.device)) := by
  obtain ⟨hcode, hcontrol, hparameter⟩ := h
  rw [putOutcome, Decoder.outcome_testEnd _ _ hcode, if_neg]
  · rfl
  · rw [not_or, not_not, Nat.not_lt]
    exact ⟨hcontrol, hparameter⟩

/-- **A response of the shared core tells the truth exactly for an accepted Test End whose packet
count fits fifteen bits.** -/
theorem response_told_iff (b : Build) (q : ℕ) (f : Firmware) (cmd : UInt16) :
    (∃ outcome response f', f.putOutcome b q cmd = .ok (outcome, f') ∧
      f.put b q cmd = .ok (response, f') ∧ outcome.Told response) ↔
    cmdCode cmd = 3 ∧ cmdControl cmd = 0 ∧ (cmdParameter cmd).toNat ≤ 10 ∧
      f.device.rxPktCount.toNat < 0x8000 := by
  constructor
  · rintro ⟨outcome, response, f', houtcome, hput, htold⟩
    rw [Firmware.put_eq, houtcome] at hput
    obtain rfl : CmdCore.decoder.event outcome = response :=
      (Prod.mk.inj (Except.ok.inj hput)).1
    by_cases hend : acceptedTestEnd cmd
    · rw [Firmware.putOutcome_testEnd hend] at houtcome
      cases houtcome
      exact ⟨hend.1, hend.2.1, hend.2.2, (told_report_iff _).1 htold⟩
    -- every other word has a status, and no status is told
    · obtain ⟨x, hx, houtcome⟩ := bind_eq_ok.1 houtcome
      obtain ⟨err, ret, hstatus⟩ := (outcome_status hend f.upperLen).run hx
      cases houtcome
      rw [hstatus] at htold
      exact absurd htold (not_told_status err ret)
  · rintro ⟨hcode, hcontrol, hparameter, hcnt⟩
    have houtcome := Firmware.putOutcome_testEnd (b := b) (q := q) (f := f)
      ⟨hcode, hcontrol, hparameter⟩
    refine ⟨_, _, _, houtcome, ?_, (told_report_iff _).2 hcnt⟩
    rw [Firmware.put_eq, houtcome]
    rfl

/-- A Reset in the state after the initialisation succeeds and is answered with `0x0001`. -/
theorem reset_response_inverted :
    ∃ f f', Firmware.Reachable (.nrf5340 true false) 1024 f ∧
      Firmware.putOutcome (.nrf5340 true false) 1024 f 0x0000 = .ok (.status .ok 0, f') ∧
      Firmware.put (.nrf5340 true false) 1024 f 0x0000 = .ok (0x0001, f') ∧
      ¬ (Outcome.status .ok 0).Told 0x0001 := by
  refine ⟨.ofDevice .nrf5340, _,
    Firmware.ofDevice_reachable (Device.nrf5340_initialised true false), rfl, rfl, ?_⟩
  rintro ⟨-, hbit, -⟩
  exact absurd (hbit.2 rfl) (by decide)

end DirectTestMode
