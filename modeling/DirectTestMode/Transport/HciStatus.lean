import DirectTestMode.Dtm.Channel
import DirectTestMode.Transport.Hci

/-!
# What an HCI test command is refused for

A test command of `dtm_hci.c` is a chain of settings with an early return at each. `attempt_run` is
the rule for one link: the setting is accepted and the chain goes on, or the command ends there with
an error status. Whether a setting is accepted is decided by its parameters, the build and the power
level (`Settles`), so the whole chain comes to a predicate on the parameters, `TxParams.Accepted`.

Both test commands look at the channel last. A reception is then refused by the library, a
transmission has handed it to the power request by then: `rxTestStatus_refused`,
`txTestStatus_refused` and `txTestStatus_fault`.

## Settling

`Settles` is the specification of a setting: from every host whose device satisfies an invariant it
comes to an end, in a host that does too, and it succeeds exactly under a condition on its
parameters. The condition is an equivalence, which is what lets a chain be decided from outside: a
link that is not accepted refuses, and one that is accepted does not.

The invariant is a device between two tests on a legal channel, at the power level that the command
found (`Waiting`). The legal channel is needed under automatic power control, where a change of PHY
asks for the frequency of the channel that is stored; the power level is needed because whether the
radio takes a PHY depends on it. No setting of the extension touches any of this (`CteIndependent`),
so their lemmas hold for every such invariant.

## What follows

The rule is used from both ends. `attempt_refuses` goes through a chain that ends in an error, and
`attempt_run` through one that stops the device in its last link.
-/

namespace DirectTestMode.Hci

open Fallible

variable {b : Build} {q : ℕ}

/-! ### One link of the chain -/

/-- The status lets success through, and turns every error into an error. -/
def Refusing (status : Ret → Option UInt8) : Prop :=
  status .ok = none ∧ ∀ e, ∃ code, status (.err e) = some code ∧ code ≠ errSuccess

/-- Each of the four translations of an error number is one. -/
theorem refusing_unsupportedOn : Refusing unsupportedOn :=
  ⟨rfl, fun _ ↦ ⟨_, rfl, by decide⟩⟩

theorem refusing_settingStatus : Refusing settingStatus :=
  ⟨rfl, fun e ↦ by cases e <;> exact ⟨_, rfl, by decide⟩⟩

theorem refusing_slotStatus : Refusing slotStatus :=
  ⟨rfl, fun e ↦ by cases e <;> exact ⟨_, rfl, by decide⟩⟩

theorem refusing_testStatus : Refusing testStatus :=
  ⟨rfl, fun e ↦ by cases e <;> exact ⟨_, rfl, by decide⟩⟩

/-- From every host whose device satisfies `J` the call comes to an end in one that does, and it
succeeds exactly when `pass` holds. -/
def Settles (b : Build) (q : ℕ) (J : Device → Prop) (p : Prog transport Ret)
    (pass : Prop) : Prop :=
  ∀ h : Host, J h.device → ∃ r h', p.run (hostHandler b q) h = .ok (r, h') ∧
    J h'.device ∧ (r = .ok ↔ pass)

/-- The command ends with an error status, in a host whose device satisfies `J`. -/
def Refuses (b : Build) (q : ℕ) (J : Device → Prop) (p : Prog transport UInt8)
    (h : Host) : Prop :=
  ∃ code h', p.run (hostHandler b q) h = .ok (code, h') ∧ code ≠ errSuccess ∧ J h'.device

variable {J : Device → Prop} {pass : Prop}

/-- A link that passes goes on with the rest of the chain, in the host it has left. -/
theorem attempt_next {p : Prog transport Ret} {status : Ret → Option UInt8}
    (next : Prog transport UInt8) {h h' : Host} {r : Ret}
    (hrun : p.run (hostHandler b q) h = .ok (r, h')) (hr : status r = none) :
    (attempt p status next).run (hostHandler b q) h = next.run (hostHandler b q) h' := by
  rw [attempt, Prog.run_bind, hrun]
  simp only [ok_bind, hr]

/-- A link that fails ends the chain with its status. -/
theorem attempt_stop {p : Prog transport Ret} {status : Ret → Option UInt8}
    (next : Prog transport UInt8) {h h' : Host} {r : Ret} {code : UInt8}
    (hrun : p.run (hostHandler b q) h = .ok (r, h')) (hr : status r = some code) :
    (attempt p status next).run (hostHandler b q) h = .ok (code, h') := by
  rw [attempt, Prog.run_bind, hrun]
  simp only [ok_bind, hr, Prog.run_pure]

/-- **One link**: the chain goes on, or it ends with an error status. Which of the two is decided
by the condition of the setting, and the invariant holds in either case. -/
theorem attempt_run {p : Prog transport Ret} (hp : Settles b q J p pass)
    {status : Ret → Option UInt8} (hstatus : Refusing status) (next : Prog transport UInt8)
    {h : Host} (hh : J h.device) :
    (pass ∧ ∃ h', J h'.device ∧
      (attempt p status next).run (hostHandler b q) h =
        next.run (hostHandler b q) h') ∨
    (¬ pass ∧ Refuses b q J (attempt p status next) h) := by
  obtain ⟨r, h', hrun, hh', hpass⟩ := hp h hh
  cases r with
  | ok => exact .inl ⟨hpass.1 rfl, h', hh', attempt_next next hrun hstatus.1⟩
  | err e =>
    obtain ⟨code, hcode, hne⟩ := hstatus.2 e
    have hfail : ¬ pass := fun hp ↦ by cases hpass.2 hp
    exact .inr ⟨hfail, code, h', attempt_stop next hrun hcode, hne, hh'⟩

/-- A chain whose rest refuses refuses. The link may refuse itself, or pass and leave it to the
rest. -/
theorem attempt_refuses {p : Prog transport Ret} (hp : Settles b q J p pass)
    {status : Ret → Option UInt8} (hstatus : Refusing status) {next : Prog transport UInt8}
    (hnext : pass → ∀ h : Host, J h.device → Refuses b q J next h) {h : Host}
    (hh : J h.device) : Refuses b q J (attempt p status next) h := by
  rcases attempt_run hp hstatus next hh with ⟨hpass, h', hh', hrun⟩ | ⟨-, hrefuses⟩
  · obtain ⟨code, h'', hnext, hne, hh''⟩ := hnext hpass h' hh'
    exact ⟨code, h'', hrun.trans hnext, hne, hh''⟩
  · exact hrefuses

/-- An error that is returned without a call. -/
theorem settles_pure_err (e : Errno) : Settles b q J (pure (.err e)) False :=
  fun h hh ↦ ⟨.err e, h, rfl, hh, by simp⟩

/-! ### The settings -/

/-- A device between tests, on a legal channel and at a power level. -/
structure Waiting (txpower : UInt8) (s : Device) : Prop where
  onChannel : s.OnChannel
  idle : s.state = .idle
  txpower : s.txpower = txpower

variable {t : UInt8}

/-- The PHY code names a PHY that the build has, in a mode the power level is valid for. -/
def phyAccepted (b : Build) (txpower phy : UInt8) : Prop :=
  ∃ p, phyOf phy = some p ∧ dtmPhyAccepted b txpower p = true

/-- **A PHY is accepted** when its code names one that the build has, in a mode that the power
level is valid for. That the channel is legal keeps the automatic power control from stopping the
device. -/
theorem settles_phySet (phy : UInt8) :
    Settles b q (Waiting t) (phySet phy) (phyAccepted b t phy) := by
  intro h hh
  rw [phySet, phyAccepted]
  rcases phyOf phy with - | p
  · exact ⟨_, h, rfl, hh, by simp⟩
  · rcases hx : dtmSetupSetPhy b p h.device with e | x
    · exact absurd (dtmSetupSetPhy_error hx) (Nat.not_lt.2 hh.onChannel.octet)
    · obtain ⟨hret, htxpower⟩ := dtmSetupSetPhy_ret hx
      have hkeeps := dtmSetupSetPhy_keepsTest hx
      refine ⟨x.1, { h with device := x.2 }, ?_, ⟨⟨?_, ?_⟩, ?_, ?_⟩, ?_⟩
      · show (dtmSetupSetPhy b p h.device >>= _) >>= _ = _
        rw [hx]
        rfl
      · exact hkeeps.timerInit.trans hh.onChannel.timerInit
      · rw [hkeeps.physCh]
        exact hh.onChannel.physCh
      · exact hkeeps.state.trans hh.idle
      · exact htxpower.trans hh.txpower
      · rw [hret, hh.txpower]
        simp

/-- A property that no setting of the CTE touches. -/
def CteIndependent (J : Device → Prop) : Prop :=
  ∀ s cteInfo patterns, J s → J { s with cteInfo := cteInfo, patterns := patterns }

/-- A device between two tests stays one. -/
theorem cteIndependent_waiting : CteIndependent (Waiting t) :=
  fun _ _ _ hs ↦ ⟨⟨hs.onChannel.timerInit, hs.onChannel.physCh⟩, hs.idle, hs.txpower⟩

/-- The CTE type and length are ones that the library takes. -/
def cteModeAccepted (b : Build) (cteLen cteType : UInt8) : Prop :=
  (cteTypeOf cteType).isSome = true ∧ b.directionFinding = true ∧
    cteLengthMin ≤ cteLen.toNat ∧ cteLen.toNat ≤ cteLengthMax

theorem cteTypeOf_ne_none {cteType : UInt8} {type : DtmCteType}
    (h : cteTypeOf cteType = some type) :
    type ≠ .none := by
  rw [cteTypeOf] at h
  split_ifs at h <;> cases h <;> decide

/-- The mode of an extension is accepted when the library takes its type and length. -/
theorem settles_cteModeSet (hJ : CteIndependent J) (cteLen cteType : UInt8) :
    Settles b q J (cteModeSet cteLen cteType) (cteModeAccepted b cteLen cteType) := by
  intro h hh
  rw [cteModeSet, cteModeAccepted]
  rcases htype : cteTypeOf cteType with - | type
  · exact ⟨_, h, rfl, hh, by simp⟩
  · refine ⟨(dtmSetupSetCteMode b type cteLen h.device).1,
      { h with device := (dtmSetupSetCteMode b type cteLen h.device).2 }, rfl, ?_, ?_⟩
    · rw [dtmSetupSetCteMode]
      split_ifs <;> first | exact hh | exact hJ _ _ h.device.patterns hh
    · rw [dtmSetupSetCteMode]
      cases hdf : b.directionFinding with
      | false => simp [cteTypeOf_ne_none htype]
      | true =>
        simp only [Bool.not_true, Bool.false_eq_true, if_false,
          if_neg (cteTypeOf_ne_none htype)]
        split <;> simp <;> omega

/-- The CTE parameters of a test command: none, or ones that the library takes, with a pattern that
fits the buffer. -/
def cteAccepted (b : Build) (cteLen cteType patternLen : UInt8) : Prop :=
  cteLen = 0 ∨ (cteModeAccepted b cteLen cteType ∧ patternLen ≠ 0 ∧ patternLen.toNat ≤ 0x4B)

/-- The antenna pattern is stored and handed to the library. -/
theorem settles_patternSet (hJ : CteIndependent J) (hdf : b.directionFinding = true)
    {patternLen : UInt8} (hlen : patternLen.toNat ≤ 0x4B) (pattern : ℕ → UInt8) :
    Settles b q J (do
      Transport.storePattern .hci ((List.range patternLen.toNat).map pattern)
      Transport.setupSetAntennaParams 0 .hci patternLen) (patternLen ≠ 0) := by
  intro h hh
  obtain ⟨hci, hhci⟩ : ∃ hci, h.device.patterns.hci.memcpy 0
      ((List.range patternLen.toNat).map pattern)
      ((List.range patternLen.toNat).map pattern).length = some hci :=
    ⟨_, Buffer.memcpy_eq _ (by simpa using hlen) le_rfl⟩
  let s : Device := { h.device with patterns := { h.device.patterns with hci := hci } }
  have hs : J s := hJ _ h.device.cteInfo _ hh
  refine ⟨(dtmSetupSetAntennaParams b 0 .hci patternLen s).1,
    { h with device := (dtmSetupSetAntennaParams b 0 .hci patternLen s).2 }, ?_, ?_, ?_⟩
  · show (patternStore .hci _ h.device.patterns >>= _) >>= _ = _
    rw [patternStore, hhci]
    rfl
  · rw [dtmSetupSetAntennaParams]
    split_ifs <;> first | exact hs | exact hJ _ _ s.patterns hs
  · rw [dtmSetupSetAntennaParams]
    by_cases hzero : patternLen = 0 <;> simp [hdf, hzero]

/-- **The extension is accepted** when there is none, or when the library takes it and the
pattern fits the buffer. The pattern is stored in the second case only. -/
theorem settles_cteSet (hJ : CteIndependent J) (cteLen cteType patternLen : UInt8)
    (pattern : ℕ → UInt8) :
    Settles b q J (cteSet cteLen cteType patternLen pattern)
      (cteAccepted b cteLen cteType patternLen) := by
  intro h hh
  rw [cteSet, cteAccepted]
  by_cases hnone : cteLen = 0
  · refine ⟨(dtmSetupSetCteMode b .none 0 h.device).1,
      { h with device := (dtmSetupSetCteMode b .none 0 h.device).2 }, ?_, ?_, ?_⟩
    · rw [if_pos hnone]
      rfl
    · rw [dtmSetupSetCteMode]
      cases b.directionFinding with
      | false => exact hh
      | true => exact hJ _ _ h.device.patterns hh
    · rw [dtmSetupSetCteMode]
      cases b.directionFinding <;> simp [hnone]
  · rw [if_neg hnone]
    by_cases hlong : 0x4B < patternLen.toNat
    · rw [if_pos hlong]
      exact ⟨_, h, rfl, hh, by simp [hnone]; omega⟩
    · rw [if_neg hlong]
      obtain ⟨r, h', hrun, hh', hr⟩ :=
        settles_cteModeSet (q := q) hJ cteLen cteType h hh
      by_cases hok : r = .ok
      -- the mode is set, so direction finding is built in
      · obtain ⟨r', h'', hrun', hh'', hr'⟩ := settles_patternSet (q := q) hJ
          (hr.1 hok).2.1 (Nat.not_lt.1 hlong) pattern h' hh'
        refine ⟨r', h'', ?_, hh'', ?_⟩
        · rw [Prog.run_bind, hrun, ok_bind, if_neg (not_not.2 hok)]
          exact hrun'
        · rw [hr']
          simp [hnone, hr.1 hok, Nat.not_lt.1 hlong]
      · refine ⟨r, h', ?_, hh', ?_⟩
        · rw [Prog.run_bind, hrun, ok_bind, if_pos hok]
          rfl
        · simp [hok, hnone, mt hr.2 hok]

/-- Only the standard modulation index is accepted. The stable one is an error of the library,
and any other one of the handler. -/
theorem settles_modSet (mod : UInt8) :
    Settles b q J (modSet mod) (mod = 0) := by
  intro h hh
  rw [modSet]
  by_cases hstandard : mod = 0x00
  · rw [if_pos hstandard]
    exact ⟨.ok, h, rfl, hh, by simp [hstandard]⟩
  · rw [if_neg hstandard]
    split
    · exact ⟨.err .enotsup, h, rfl, hh, by simp [hstandard]⟩
    · exact ⟨.err .einval, h, rfl, hh, by simp [hstandard]⟩

/-- The slot of a reception: only one with a CTE has one. -/
def slotAccepted (b : Build) (cteLen slotDurations : UInt8) : Prop :=
  cteLen = 0 ∨ (b.directionFinding = true ∧ (DtmCteSlotDuration.ofCode slotDurations).isSome = true)

/-- The slot of a reception is looked at only with an extension. -/
theorem settles_cteSlotSet (hJ : CteIndependent J) (cteLen slotDurations : UInt8) :
    Settles b q J (cteSlotSet cteLen slotDurations) (slotAccepted b cteLen slotDurations) := by
  intro h hh
  rw [cteSlotSet, slotAccepted]
  by_cases hnone : cteLen = 0
  · rw [if_neg (not_not.2 hnone)]
    exact ⟨.ok, h, rfl, hh, by simp [hnone]⟩
  · rw [if_pos hnone]
    refine ⟨(dtmSetupSetCteSlot b slotDurations h.device).1,
      { h with device := (dtmSetupSetCteSlot b slotDurations h.device).2 }, rfl, ?_, ?_⟩
    · rw [dtmSetupSetCteSlot]
      split
      · exact hh
      · split <;> first | exact hh | exact hJ _ _ h.device.patterns hh
    · rw [dtmSetupSetCteSlot]
      cases b.directionFinding with
      | false => simp [hnone]
      | true =>
        rcases DtmCteSlotDuration.ofCode slotDurations with - | ⟨- | -⟩ <;> simp [hnone]

/-! ### A channel above the range -/

/-- The library refuses a channel above the range. -/
theorem settles_testReceive {channel : UInt8} (hc : physChMax < channel.toNat) :
    Settles b q J (Transport.testReceive channel) False := by
  intro h hh
  refine ⟨.err .einval, h, ?_, hh, by simp⟩
  show (dtmTestReceive b channel h.device >>= _) >>= _ = _
  rw [dtmTestReceive_illegal b _ hc]
  rfl

/-- The device that `dtm_setup_prepare` leaves behind. -/
theorem waiting_prepare {h : Host} (hh : h.device.OnChannel) :
    Waiting h.device.txpower (dtmSetupPrepare b h.device) :=
  ⟨⟨hh.timerInit, hh.physCh⟩, rfl, rfl⟩

/-- **A reception on a channel above the range is refused**, whatever the other parameters. An
earlier link may refuse it for another reason; none stops the device. -/
theorem rxTestStatus_refused {p : RxParams} (hc : physChMax < p.chan.toNat) {h : Host}
    (hh : h.device.OnChannel) :
    Refuses b q (Waiting h.device.txpower) (rxTestStatus p) h := by
  refine attempt_refuses (J := Waiting h.device.txpower)
    (h := { h with device := dtmSetupPrepare b h.device }) (settles_phySet p.phy)
    refusing_unsupportedOn (fun _ h hh ↦ ?_) (waiting_prepare hh)
  refine attempt_refuses (settles_modSet p.mod) refusing_settingStatus (fun _ h hh ↦ ?_) hh
  split
  · exact ⟨_, h, rfl, by decide, hh⟩
  · refine attempt_refuses (settles_cteSet cteIndependent_waiting _ _ _ _)
      refusing_settingStatus (fun _ h hh ↦ ?_) hh
    refine attempt_refuses (settles_cteSlotSet cteIndependent_waiting _ _)
      refusing_slotStatus (fun _ h hh ↦ ?_) hh
    exact attempt_refuses (settles_testReceive hc) refusing_testStatus (fun h ↦ h.elim) hh

/-- The parameters of a Transmitter Test that are looked at before its channel. -/
structure TxParams.Accepted (b : Build) (txpower : UInt8) (p : TxParams) : Prop where
  payload : ∃ pld, hciToDtmPayload p.payload = .ok pld
  phy : phyAccepted b txpower p.phy
  allowed : cteDisallowed p.cteLen p.phy = false
  cte : cteAccepted b p.cteLen p.cteType p.patternLen
  power : (txPowerRequestOf p.power).isSome = true

/-- A power request for a level out of range. -/
theorem settles_txPowerSet {power : Int8} (hpower : txPowerRequestOf power = none)
    (channel : UInt8) :
    Settles b q J (txPowerSet power channel) False := by
  rw [txPowerSet, hpower]
  exact settles_pure_err .einval

/-- A transmission with an unknown payload is refused after the running test is ended. -/
theorem txTestStatus_unknown {p : TxParams} (h : Host) {e : Errno}
    (hpayload : hciToDtmPayload p.payload = .error e) :
    (txTestStatus p).run (hostHandler b q) h =
      .ok (errUnsuppFeatureParamVal, { h with device := dtmSetupPrepare b h.device }) := by
  rw [txTestStatus, hpayload]
  rfl

/-- Once the payload is known, the rest of the handler is run on the device that has ended its
test. -/
theorem txTestStatus_known {p : TxParams} (h : Host) {pld : DtmPacket}
    (hpayload : hciToDtmPayload p.payload = .ok pld) :
    (txTestStatus p).run (hostHandler b q) h =
      (txTestStart p pld).run (hostHandler b q)
        { h with device := dtmSetupPrepare b h.device } := by
  rw [txTestStatus, hpayload]
  rfl

/-- **A transmission with another parameter out of range is refused** before its channel is looked
at. -/
theorem txTestStatus_refused {p : TxParams} {h : Host} (hh : h.device.OnChannel)
    (hp : ¬ p.Accepted b h.device.txpower) :
    Refuses b q (Waiting h.device.txpower) (txTestStatus p) h := by
  have hw := waiting_prepare (b := b) hh
  rcases hpayload : hciToDtmPayload p.payload with e | pld
  · exact ⟨_, _, txTestStatus_unknown h hpayload, by decide, hw⟩
  · rw [Refuses, txTestStatus_known h hpayload]
    refine attempt_refuses (J := Waiting h.device.txpower)
      (h := { h with device := dtmSetupPrepare b h.device }) (settles_phySet p.phy)
      refusing_unsupportedOn (fun hphy h hh ↦ ?_) hw
    split
    · exact ⟨_, h, rfl, by decide, hh⟩
    · refine attempt_refuses (settles_cteSet cteIndependent_waiting _ _ _ _) refusing_settingStatus
        (fun hcte h hh ↦ ?_) hh
      have hpower : txPowerRequestOf p.power = none := by
        by_contra hpower
        exact hp ⟨⟨pld, hpayload⟩, hphy, Bool.eq_false_iff.2 ‹_›, hcte,
          Option.isSome_iff_ne_none.2 hpower⟩
      exact attempt_refuses (settles_txPowerSet hpower p.chan) refusing_unsupportedOn
        (fun h ↦ h.elim) hh

/-- **A transmission on a channel above the range stops the device** when nothing else is wrong
with it: the channel reaches the power request first. -/
theorem txTestStatus_fault {p : TxParams} {h : Host} (hh : h.device.OnChannel)
    (hp : p.Accepted b h.device.txpower) (hc : physChMax < p.chan.toNat) :
    (txTestStatus p).run (hostHandler b q) h = .error .channel := by
  obtain ⟨pld, hpld⟩ := hp.payload
  rw [txTestStatus_known h hpld, txTestStart]
  rcases attempt_run (settles_phySet (b := b) (q := q) p.phy)
    refusing_unsupportedOn _ (h := { h with device := dtmSetupPrepare b h.device })
    (waiting_prepare hh) with ⟨-, h', hh', hrun⟩ | ⟨hphy, -⟩
  · rw [hrun, hp.allowed, if_neg (by decide)]
    rcases attempt_run (settles_cteSet (b := b) (q := q) cteIndependent_waiting _ _ _ p.pattern)
      refusing_settingStatus _ hh' with ⟨-, h'', hh'', hrun⟩ | ⟨hcte, -⟩
    -- every earlier link passed: the power request asks for the frequency
    · rw [hrun, attempt, Prog.run_bind, txPowerSet]
      obtain ⟨request, hrequest⟩ := Option.isSome_iff_exists.1 hp.power
      rw [hrequest]
      show ((dtmSetupSetTransmitPower b request.1 request.2 p.chan h''.device >>= _) >>= _) >>=
        _ = _
      rw [dtmSetupSetTransmitPower, radioFrequencyGet_fault hc]
      rfl
    · exact absurd hp.cte hcte
  · exact absurd hp.phy hphy

end DirectTestMode.Hci
