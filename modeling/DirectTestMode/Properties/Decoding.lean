import DirectTestMode.Transport.Shell
import DirectTestMode.Transport.Firmware

/-!
# Command words built inside the firmware

The shell and the auto-start build command words themselves and hand them to the shared core. They
put the channel where the decoder reads the length, and the length where it reads the channel.
`rxTestWord_fields` and `txTestWord_fields` are the words field by field; what they decode to
follows from the class of a word.

* A reception is started on channel zero whatever the channel: bits 13 to 8 of its word are clear.
* A transmission has the two exchanged, so it is the one asked for exactly on the diagonal, where
  channel and length are equal. Its six bits of length also take the stored upper bits in
  (`withUpperLen`), which is why the result speaks of the length **in its lower six bits**.

## What is compared

`Firmware.issues` is the list of operations that a program asks the library for. The result is about
this list and not about the device afterwards: a call that is refused and one that is not are told
apart by the library and not by the decoding.

The auto-start of `main` appears twice, as its word alone and as the sequence that is run, a Reset
and then the word. The word of the Reset has to come back for the second to be sent, which is the
premise of that clause.

The fields are found by evaluation over the 40 channels and the 38 lengths, once. Nothing else in
this module computes: the class of a word decides what the decoder runs, and the fields say what it
runs it with.
-/

namespace DirectTestMode

open Fallible

variable {b : Build} {q : ℕ}

/-! ### The words -/

/-- A Receiver Test word of the shell is one on channel zero. -/
theorem rxTestWord_fields : ∀ c < 40,
    cmdCode (Shell.rxTestWord (UInt8.ofNat c)) = 1 ∧
    cmdChan (Shell.rxTestWord (UInt8.ofNat c)) = 0 := by
  decide

/-- A Transmitter Test word of the shell has its channel and its length exchanged. -/
theorem txTestWord_fields : ∀ c < 40, ∀ l < 38,
    cmdCode (Shell.txTestWord (UInt8.ofNat c) (UInt8.ofNat l)) = 2 ∧
    cmdChan (Shell.txTestWord (UInt8.ofNat c) (UInt8.ofNat l)) = UInt8.ofNat l ∧
    cmdLength (Shell.txTestWord (UInt8.ofNat c) (UInt8.ofNat l)) = UInt8.ofNat c ∧
    cmdType (Shell.txTestWord (UInt8.ofNat c) (UInt8.ofNat l)) = 0 := by
  decide

/-- An argument in range is narrowed without change. -/
theorem octetOf_ofNat : ∀ c < 40, Shell.octetOf (Int32.ofNat c) = UInt8.ofNat c := by
  decide

/-! ### What they run -/

/-- The shell's `send` runs what the decoder runs. -/
theorem Firmware.issues_send (f : Firmware) (cmd : UInt16) :
    f.issues b q (Shell.send cmd f.upperLen) =
      f.issues b q (CmdCore.dtmCmdPut cmd f.upperLen) :=
  Prog.calls_bind_pure _ _ _ _

/-- **What the reception's word runs**: a Receiver Test on channel zero. -/
theorem Firmware.issues_rxTestWord (f : Firmware) {c : ℕ} (hc : c < 40) (upperLen : UInt8) :
    f.issues b q (CmdCore.dtmCmdPut (Shell.rxTestWord (UInt8.ofNat c)) upperLen) =
      [.dtm (.testReceive 0)] := by
  obtain ⟨hcode, hchan⟩ := rxTestWord_fields c hc
  rw [CmdCore.dtmCmdPut, Decoder.dtmCmdPut_receiverTest _ _ hcode, hchan]
  exact (Prog.calls_bind_pure _ _ _ _).trans (Prog.calls_perform _ _ _)

/-- **What the transmission's word runs**: a Transmitter Test with channel and length exchanged. -/
theorem Firmware.issues_txTestWord (f : Firmware) {c l : ℕ} (hc : c < 40) (hl : l < 38) :
    f.issues b q
        (CmdCore.dtmCmdPut (Shell.txTestWord (UInt8.ofNat c) (UInt8.ofNat l)) f.upperLen) =
      [.dtm (.testTransmit (UInt8.ofNat l) (withUpperLen (UInt8.ofNat c) f.upperLen) .prbs9)] := by
  obtain ⟨hcode, hchan, hlength, htype⟩ := txTestWord_fields c hc l hl
  have htype : DtmPktType.ofCode (cmdType
      (Shell.txTestWord (UInt8.ofNat c) (UInt8.ofNat l))) = some .prbs9 := by
    rw [htype]
    rfl
  rw [CmdCore.dtmCmdPut, Decoder.dtmCmdPut_transmitterTest _ _ hcode htype, hchan, hlength]
  exact (Prog.calls_bind_pure _ _ _ _).trans (Prog.calls_perform _ _ _)

theorem ofNat_inj_of_lt {m n : ℕ} (hm : m < 256) (hn : n < 256) :
    UInt8.ofNat m = UInt8.ofNat n ↔ m = n := by
  rw [← UInt8.toNat_inj, UInt8.toNat_ofNat_of_lt' hm, UInt8.toNat_ofNat_of_lt' hn]

theorem low_six_ofNat : ∀ c < 40, UInt8.ofNat c &&& 0x3F = UInt8.ofNat c := by
  decide

theorem Firmware.issues_cmdDtmRxTest (f : Firmware) {c : ℕ} (hc : c < 40) :
    f.issues b q (Shell.cmdDtmRxTest [Int32.ofNat c] f.upperLen) =
      [.dtm (.testReceive 0)] := by
  have hle : ¬ 39 < (UInt8.ofNat c).toNat := by
    rw [UInt8.toNat_ofNat_of_lt' (hc.trans (by decide))]
    omega
  rw [Shell.cmdDtmRxTest, octetOf_ofNat c hc, if_neg hle, issues_send,
    issues_rxTestWord f hc f.upperLen]

/-- The auto-start is a Reset and, when that comes back, the reception of its word. The length
bits that the Reset leaves do not matter to a Receiver Test. -/
theorem Firmware.issues_autoStart {f f' : Firmware} (hreset : f.step b q (.word 0x0000) = .ok f')
    {c : ℕ} (hc : c < 40) :
    f.issues b q (Shell.autoStart (UInt8.ofNat c) f.upperLen) =
      [.dtm .setupReset, .dtm (.testReceive 0)] := by
  rw [f.step_word] at hreset
  obtain ⟨x, hx, -⟩ := bind_eq_ok.1 hreset
  have hfirst : (CmdCore.dtmCmdPut 0x0000 f.upperLen).calls (hostHandler b q) f.host =
      [.dtm .setupReset] := by
    refine (Prog.calls_bind_pure _ _ _ _).trans ?_
    refine (Prog.calls_bind_pure _ _ _ _).trans ?_
    exact (Prog.calls_bind_pure _ _ _ _).trans (Prog.calls_perform _ _ _)
  have hsecond : (CmdCore.dtmCmdPut (Shell.rxTestWord (UInt8.ofNat c)) x.1.2).calls
      (hostHandler b q) x.2 = [.dtm (.testReceive 0)] :=
    issues_rxTestWord { f with host := x.2 } hc x.1.2
  rw [issues, Shell.autoStart, Prog.calls_bind, hx, hfirst]
  exact congrArg ([TransportOp.dtm .setupReset] ++ ·) hsecond

theorem Firmware.issues_cmdDtmTxTest (f : Firmware) {c l : ℕ} (hc : c < 40) (hl : l < 38) :
    f.issues b q (Shell.cmdDtmTxTest [Int32.ofNat c, Int32.ofNat l] f.upperLen) =
      [.dtm (.testTransmit (UInt8.ofNat l) (withUpperLen (UInt8.ofNat c) f.upperLen) .prbs9)] := by
  have hlec : ¬ 39 < (UInt8.ofNat c).toNat := by
    rw [UInt8.toNat_ofNat_of_lt' (hc.trans (by decide))]
    omega
  have hlel : ¬ 37 < (UInt8.ofNat l).toNat := by
    rw [UInt8.toNat_ofNat_of_lt' (hl.trans (by decide))]
    omega
  rw [Shell.cmdDtmTxTest, octetOf_ofNat c hc, octetOf_ofNat l (hl.trans (by decide)),
    Shell.txTest, if_neg hlec, if_neg hlel, issues_send, issues_txTestWord f hc hl]

/-- **The words of the shell and of the auto-start run what was asked for on the diagonal only**:
a reception is started on channel zero whatever the channel, and a transmission with channel and
length exchanged. The auto-start of `main` is stated for its word and for the whole sequence, a
Reset that comes back and the Receiver Test after it. -/
theorem shell_words_decode_iff {f : Firmware} (hf : f.Reachable b q) {c l : ℕ}
    (hc : c ≤ 39) (hl : l ≤ 37) :
    (f.issues b q (Shell.cmdDtmRxTest [Int32.ofNat c] f.upperLen) =
      [.dtm (.testReceive (UInt8.ofNat c))] ↔ c = 0) ∧
    (f.issues b q (CmdCore.dtmCmdPut (Shell.rxTestWord (UInt8.ofNat c)) f.upperLen) =
      [.dtm (.testReceive (UInt8.ofNat c))] ↔ c = 0) ∧
    (∀ f', f.step b q (.word 0x0000) = .ok f' →
      (f.issues b q (Shell.autoStart (UInt8.ofNat c) f.upperLen) =
        [.dtm .setupReset, .dtm (.testReceive (UInt8.ofNat c))] ↔ c = 0)) ∧
    ((∃ length, f.issues b q
        (Shell.cmdDtmTxTest [Int32.ofNat c, Int32.ofNat l] f.upperLen) =
          [.dtm (.testTransmit (UInt8.ofNat c) length .prbs9)] ∧
        length &&& 0x3F = UInt8.ofNat l) ↔ c = l) := by
  have hc : c < 40 := by omega
  have hl : l < 38 := by omega
  have hrx : ([.dtm (.testReceive 0)] : List TransportOp) =
      [.dtm (.testReceive (UInt8.ofNat c))] ↔ c = 0 := by
    rw [List.cons.injEq, TransportOp.dtm.injEq, Call.testReceive.injEq,
      show (0 : UInt8) = UInt8.ofNat 0 from rfl, ofNat_inj_of_lt (by decide) (by omega)]
    simp [eq_comm]
  refine ⟨?_, ?_, fun f' hreset ↦ ?_, ?_⟩
  · rw [f.issues_cmdDtmRxTest hc, hrx]
  · rw [f.issues_rxTestWord hc, hrx]
  · rw [Firmware.issues_autoStart hreset hc, List.cons.injEq, hrx]
    exact and_iff_right rfl
  · rw [f.issues_cmdDtmTxTest hc hl]
    constructor
    · rintro ⟨length, hop, -⟩
      simp only [List.cons.injEq, TransportOp.dtm.injEq, Call.testTransmit.injEq] at hop
      exact ((ofNat_inj_of_lt (by omega) (by omega)).1 hop.1.1).symm
    · rintro rfl
      refine ⟨_, rfl, ?_⟩
      rw [withUpperLen_low _ hf.upperOnly, low_six_ofNat c hc]

/-- On channel and length 7 the transmission is the one asked for, and neither the reception of the
command nor that of the auto-start is. -/
theorem shell_words_decode_iff_seven :
    (∃ length, Firmware.issues (.nrf5340 true false) 1024 (.ofDevice .nrf5340)
        (Shell.cmdDtmTxTest [Int32.ofNat 7, Int32.ofNat 7] 0) =
          [.dtm (.testTransmit (UInt8.ofNat 7) length .prbs9)] ∧
        length &&& 0x3F = UInt8.ofNat 7) ∧
    Firmware.issues (.nrf5340 true false) 1024 (.ofDevice .nrf5340)
        (Shell.cmdDtmRxTest [Int32.ofNat 7] 0) ≠ [.dtm (.testReceive (UInt8.ofNat 7))] ∧
    Firmware.issues (.nrf5340 true false) 1024 (.ofDevice .nrf5340)
        (Shell.autoStart (UInt8.ofNat 7) 0) ≠
      [.dtm .setupReset, .dtm (.testReceive (UInt8.ofNat 7))] := by
  have h := shell_words_decode_iff (q := 1024) (c := 7) (l := 7)
    (Firmware.ofDevice_reachable (Device.nrf5340_initialised true false)) (by decide) (by decide)
  obtain ⟨f', hreset⟩ : ∃ f', (Firmware.ofDevice .nrf5340).step (.nrf5340 true false) 1024
      (.word 0x0000) = .ok f' := ⟨_, rfl⟩
  exact ⟨h.2.2.2.2 rfl, fun heq ↦ absurd (h.1.1 heq) (by decide),
    fun heq ↦ absurd ((h.2.2.1 f' hreset).1 heq) (by decide)⟩

/-- `dtm rx_test 5` starts no reception on channel 5, in a state after the initialisation. -/
theorem rxTest_five_decodes_elsewhere :
    ∃ f, Firmware.Reachable (.nrf5340 true false) 1024 f ∧
      Firmware.issues (.nrf5340 true false) 1024 f
        (Shell.cmdDtmRxTest [Int32.ofNat 5] f.upperLen) ≠
          [.dtm (.testReceive (UInt8.ofNat 5))] := by
  refine ⟨.ofDevice .nrf5340,
    Firmware.ofDevice_reachable (Device.nrf5340_initialised true false), ?_⟩
  rw [Firmware.issues_cmdDtmRxTest _ (by decide)]
  simp only [ne_eq, List.cons.injEq, TransportOp.dtm.injEq, Call.testReceive.injEq, and_true]
  decide

end DirectTestMode
