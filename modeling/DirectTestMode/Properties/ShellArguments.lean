import DirectTestMode.Properties.ShellCommands

/-!
# The arguments of the shell

`dtm rx_test`, `dtm tx_carrier` and `dtm tx_test` narrow an argument to eight bits and check what is
left of it. So an argument is accepted by its residue modulo 256: a command checks its arguments
exactly when they are in range, or when the residue of one of them is out of it
(`shell_arguments_checked_iff`).

* An argument is an `int`, as `atoi` gives it, and `octetOf` is the narrowing; `toNat_octetOf` is
  the only fact about it, for negative numbers as well as for large ones.
* The three handlers have one shape, a check and a word, and are settled by one lemma
  (`checksArguments_iff`). It needs that the words that are sent issue an operation at all, which is
  a matter of their class and not of their channel.
* `ChecksArguments` has three clauses. For an argument in range the word must encode **this
  argument**; out of range nothing may be issued, and the handler must return `-EINVAL` with
  everything as it was.

The clause on the encoding is about the number and not about the bits it is put in. Where the shell
puts the channel in the wrong bits is another matter, in `Properties.Decoding`.

That a number is in range is stated of the number that was typed, in integers, so that nothing of
the narrowing is in the specification.
-/

namespace DirectTestMode

open Fallible

variable {b : Build} {q : ℕ}

/-! ### What the check is to do -/

/-- A command on arguments that are in range or not: only in range a DTM command is issued, and then
its word encodes the arguments as they are; out of range the command returns `-EINVAL`, and nothing
has changed. -/
structure ChecksArguments (b : Build) (q : ℕ) (f : Firmware)
    (handler : UInt8 → Prog transport (Ret × UInt8)) (inRange : Prop) (encodes : UInt16 → Prop) :
    Prop where
  issued : f.issues b q (handler f.upperLen) ≠ [] → inRange
  encoded : f.issues b q (handler f.upperLen) ≠ [] →
    ∃ cmd, handler f.upperLen = Shell.send cmd f.upperLen ∧ encodes cmd
  refused : ¬ inRange → (handler f.upperLen).run (hostHandler b q) f.host =
    .ok ((.err .einval, f.upperLen), f.host)

/-- A channel of the command line. -/
def LegalChannel (n : ℤ) : Prop := 0 ≤ n ∧ n ≤ 39

/-- A length of the command line. -/
def LegalLength (n : ℤ) : Prop := 0 ≤ n ∧ n ≤ 37

/-- The word has `n` for its channel. -/
def EncodesChannel (word : UInt8 → UInt16) (n : ℤ) (cmd : UInt16) : Prop :=
  ∃ channel : UInt8, (channel.toNat : ℤ) = n ∧ cmd = word channel

/-- The word of `tx_test` has `n` for its channel and `m` for its length. -/
def EncodesTest (n m : ℤ) (cmd : UInt16) : Prop :=
  ∃ channel length : UInt8, (channel.toNat : ℤ) = n ∧ (length.toNat : ℤ) = m ∧
    cmd = Shell.txTestWord channel length

/-! ### The narrowing -/

/-- What is left of an argument is its residue. -/
theorem toNat_octetOf (n : Int32) : ((Shell.octetOf n).toNat : ℤ) = n.toInt % 256 := by
  have hint : n.toInt = n.toBitVec.toInt := rfl
  have hnat : (Shell.octetOf n).toNat = n.toBitVec.toNat % 2 ^ 8 := by
    rw [Shell.octetOf, UInt32.toNat_toUInt8]
    rfl
  rw [hint, hnat, BitVec.toInt_eq_toNat_cond]
  split <;> omega

/-- A channel in range is accepted. -/
theorem LegalChannel.octetOf {n : Int32} (h : LegalChannel n.toInt) :
    ((Shell.octetOf n).toNat : ℤ) = n.toInt ∧ ¬ 39 < (Shell.octetOf n).toNat := by
  have hoctet := toNat_octetOf n
  obtain ⟨h0, h39⟩ := h
  omega

/-- So is a length in range. -/
theorem LegalLength.octetOf {n : Int32} (h : LegalLength n.toInt) :
    ((Shell.octetOf n).toNat : ℤ) = n.toInt ∧ ¬ 37 < (Shell.octetOf n).toNat := by
  have hoctet := toNat_octetOf n
  obtain ⟨h0, h37⟩ := h
  omega

/-! ### The handlers -/

/-- A word of one of the two tests issues an operation of the library. -/
theorem Firmware.issues_send_test (f : Firmware) {cmd : UInt16}
    (h : cmdCode cmd = 1 ∨ cmdCode cmd = 2) : f.issues b q (Shell.send cmd f.upperLen) ≠ [] := by
  rw [issues_send, CmdCore.dtmCmdPut]
  rcases h with hcode | hcode
  · rw [Decoder.dtmCmdPut_receiverTest _ _ hcode]
    exact ne_of_eq_of_ne ((Prog.calls_bind_pure _ _ _ _).trans (Prog.calls_perform _ _ _))
      (List.cons_ne_nil _ _)
  · obtain ⟨type, htype⟩ := Decoder.cmdType_cases cmd
    rw [Decoder.dtmCmdPut_transmitterTest _ _ hcode htype]
    exact ne_of_eq_of_ne ((Prog.calls_bind_pure _ _ _ _).trans (Prog.calls_perform _ _ _))
      (List.cons_ne_nil _ _)

/-- **A check and a word.** The check does its work exactly on the arguments that it refuses and on
those in range. -/
theorem checksArguments_iff {f : Firmware} {handler : UInt8 → Prog transport (Ret × UInt8)}
    {inRange refuses : Prop} [Decidable refuses] {encodes : UInt16 → Prop} {cmd : UInt16}
    (hhandler : handler f.upperLen =
      if refuses then pure (.err .einval, f.upperLen) else Shell.send cmd f.upperLen)
    (htest : ¬ refuses → cmdCode cmd = 1 ∨ cmdCode cmd = 2) (hencodes : inRange → encodes cmd) :
    ChecksArguments b q f handler inRange encodes ↔ refuses ∨ inRange := by
  by_cases hrefuses : refuses
  · rw [if_pos hrefuses] at hhandler
    have hnone : ¬ f.issues b q (handler f.upperLen) ≠ [] := by
      rw [hhandler]
      exact not_not.2 rfl
    refine iff_of_true ⟨fun h ↦ absurd h hnone, fun h ↦ absurd h hnone, fun _ ↦ ?_⟩ (.inl hrefuses)
    rw [hhandler]
    rfl
  · rw [if_neg hrefuses] at hhandler
    have hissues : f.issues b q (handler f.upperLen) ≠ [] := by
      rw [hhandler]
      exact f.issues_send_test (htest hrefuses)
    constructor
    · exact fun h ↦ .inr (h.issued hissues)
    · intro h
      have hrange := h.resolve_left hrefuses
      exact ⟨fun _ ↦ hrange, fun _ ↦ ⟨cmd, hhandler, hencodes hrange⟩,
        fun hout ↦ absurd hrange hout⟩

/-- The word of `rx_test` is a Receiver Test. -/
theorem rxTestWord_code {channel : UInt8} (h : ¬ 39 < channel.toNat) :
    cmdCode (Shell.rxTestWord channel) = 1 := by
  have hcode := (rxTestWord_fields channel.toNat (by omega)).1
  rwa [UInt8.ofNat_toNat] at hcode

theorem txCarrierWord_code {channel : UInt8} (h : ¬ 39 < channel.toNat) :
    cmdCode (Shell.txCarrierWord channel) = 2 := by
  have hcode := (txCarrierWord_fields channel.toNat (by omega)).1
  rwa [UInt8.ofNat_toNat] at hcode

theorem txTestWord_code {channel length : UInt8} (hc : ¬ 39 < channel.toNat)
    (hl : ¬ 37 < length.toNat) : cmdCode (Shell.txTestWord channel length) = 2 := by
  have hcode := (txTestWord_fields channel.toNat (by omega) length.toNat (by omega)).1
  rwa [UInt8.ofNat_toNat, UInt8.ofNat_toNat] at hcode

/-- **The commands check their arguments exactly when these are in range, or when a residue modulo
256 is out of it.** -/
theorem shell_arguments_checked_iff (b : Build) (q : ℕ) (f : Firmware) (n m : Int32) :
    (ChecksArguments b q f (Shell.cmdDtmRxTest [n]) (LegalChannel n.toInt)
        (EncodesChannel Shell.rxTestWord n.toInt) ↔
      39 < n.toInt % 256 ∨ LegalChannel n.toInt) ∧
    (ChecksArguments b q f (Shell.cmdDtmTxCarrier [n]) (LegalChannel n.toInt)
        (EncodesChannel Shell.txCarrierWord n.toInt) ↔
      39 < n.toInt % 256 ∨ LegalChannel n.toInt) ∧
    (ChecksArguments b q f (Shell.cmdDtmTxTest [n, m]) (LegalChannel n.toInt ∧ LegalLength m.toInt)
        (EncodesTest n.toInt m.toInt) ↔
      (39 < n.toInt % 256 ∨ 37 < m.toInt % 256) ∨ LegalChannel n.toInt ∧ LegalLength m.toInt) := by
  -- `atoi` gives an int, and the handlers cast it to an octet
  have hn : 39 < n.toInt % 256 ↔ 39 < (Shell.octetOf n).toNat := by
    rw [← toNat_octetOf]
    omega
  have hm : 37 < m.toInt % 256 ↔ 37 < (Shell.octetOf m).toNat := by
    rw [← toNat_octetOf]
    omega
  rw [hn, hm]
  refine ⟨?_, ?_, ?_⟩
  · exact checksArguments_iff rfl (fun h ↦ .inl (rxTestWord_code h))
      fun h ↦ ⟨_, h.octetOf.1, rfl⟩
  · exact checksArguments_iff rfl (fun h ↦ .inr (txCarrierWord_code h))
      fun h ↦ ⟨_, h.octetOf.1, rfl⟩
  · have hhandler : Shell.cmdDtmTxTest [n, m] f.upperLen =
        if 39 < (Shell.octetOf n).toNat ∨ 37 < (Shell.octetOf m).toNat then
          pure (.err .einval, f.upperLen)
        else Shell.send (Shell.txTestWord (Shell.octetOf n) (Shell.octetOf m)) f.upperLen := by
      rw [Shell.cmdDtmTxTest, Shell.txTest]
      by_cases hchannel : 39 < (Shell.octetOf n).toNat
      · rw [if_pos hchannel, if_pos (.inl hchannel)]
      · rw [if_neg hchannel]
        simp only [hchannel, false_or]
    exact checksArguments_iff hhandler
      (fun h ↦ .inr (txTestWord_code (not_or.1 h).1 (not_or.1 h).2))
      fun h ↦ ⟨_, _, h.1.octetOf.1, h.2.octetOf.1, rfl⟩

/-- `dtm rx_test 261` is taken for channel 5, and `dtm rx_test -251` too. -/
theorem rxTest_261_accepted :
    (Firmware.ofDevice .nrf5340).Reachable (.nrf5340 true false) 1024 ∧
    ¬ ChecksArguments (.nrf5340 true false) 1024 (.ofDevice .nrf5340) (Shell.cmdDtmRxTest [261])
        (LegalChannel (Int32.toInt 261)) (EncodesChannel Shell.rxTestWord (Int32.toInt 261)) ∧
    Shell.cmdDtmRxTest [261] = Shell.cmdDtmRxTest [5] ∧
    Shell.cmdDtmRxTest [-251] = Shell.cmdDtmRxTest [5] := by
  refine ⟨Firmware.ofDevice_reachable (Device.nrf5340_initialised true false), fun h ↦ ?_, rfl, rfl⟩
  have hissues : (Firmware.ofDevice .nrf5340).issues (.nrf5340 true false) 1024
      (Shell.cmdDtmRxTest [261] (Firmware.ofDevice .nrf5340).upperLen) ≠ [] :=
    Firmware.issues_send_test _ (.inl (rxTestWord_code (by decide : ¬ 39 < (5 : UInt8).toNat)))
  exact absurd (h.issued hissues).2 (by decide)

end DirectTestMode
