import DirectTestMode.Transport.Firmware

/-!
# What a command word did

The two-wire interface answers a command word with an event. `Outcome` is what the event is to tell:
the error of the operation the word selected, with the response data, or the packet count of a test
that was ended. `Decoder.outcome` is the decoder without the events, and
`Decoder.dtmCmdPut_eq_outcome` puts them back: the response is a function of the outcome.

The split is there to have something to compare a response with. What a word did is fixed by the
library and by the word, and it is the same in both decoders as far as their switches are; how it is
told is fixed by the three event constants of each decoder. So a statement that the tester is told
the truth has a left side that does not mention the events and a right side that mentions nothing
else.

A rejected word and a failed operation have the same outcome up to the error number, on purpose: the
interface has one error event, and a tester cannot tell them apart.
-/

namespace DirectTestMode

open Fallible

/-- What a command word did: a status with the response data, or a packet report. -/
inductive Outcome
  | status (err : Ret) (ret : UInt16)
  | report (cnt : UInt16)
  deriving DecidableEq

/-- The outcome of `dtm_test_end`. -/
def Outcome.ofTestEnd : Except Errno UInt16 → Outcome
  | .ok cnt => .report cnt
  | .error e => .status (.err e) 0

/-- A word that is rejected without an operation. -/
def Outcome.rejected : Outcome := .status (.err .einval) 0

namespace Decoder

variable (d : Decoder)

/-- The event of an outcome. -/
def event : Outcome → UInt16
  | .status err ret => d.statusEvent err ret
  | .report cnt => packetReportingEvent ||| cnt

/-- The outcome of a command word, and the new `upper_len`. -/
def outcome (cmd : UInt16) (upperLen : UInt8) : Prog transport (Outcome × UInt8) :=
  match DtmCmdCode.ofCode (cmdCode cmd) with
  | some .testSetup =>
    d.setupCmd (cmdControl cmd) (cmdParameter cmd) upperLen >>= fun x ↦
      pure (.status x.1 x.2.1, x.2.2)
  | some .testEnd =>
    if cmdControl cmd ≠ 0 ∨ d.testEndMaxRange < (cmdParameter cmd).toNat then
      pure (.rejected, upperLen)
    else Transport.testEnd >>= fun cnt ↦ pure (.ofTestEnd cnt, upperLen)
  | some .receiverTest =>
    Transport.testReceive (cmdChan cmd) >>= fun err ↦ pure (.status err 0, upperLen)
  | some .transmitterTest =>
    match DtmPktType.ofCode (cmdType cmd) with
    | none => pure (.rejected, upperLen)
    | some type =>
      Transport.testTransmit (cmdChan cmd) (withUpperLen (cmdLength cmd) upperLen) type.packet >>=
        fun err ↦ pure (.status err 0, upperLen)
  | none => pure (.rejected, upperLen)

section

variable {cmd : UInt16} (upperLen : UInt8)

/-- The four classes of words, as for the decoder itself. -/
theorem outcome_testSetup (h : cmdCode cmd = 0) :
    d.outcome cmd upperLen =
      (d.setupCmd (cmdControl cmd) (cmdParameter cmd) upperLen >>= fun x ↦
        pure (.status x.1 x.2.1, x.2.2)) := by
  rw [outcome, h]
  rfl

theorem outcome_receiverTest (h : cmdCode cmd = 1) :
    d.outcome cmd upperLen =
      (Transport.testReceive (cmdChan cmd) >>= fun err ↦ pure (.status err 0, upperLen)) := by
  rw [outcome, h]
  rfl

/-- The packet type is one of four, so the rejected branch is not reached. -/
theorem outcome_transmitterTest (h : cmdCode cmd = 2) {type : DtmPktType}
    (htype : DtmPktType.ofCode (cmdType cmd) = some type) :
    d.outcome cmd upperLen =
      (Transport.testTransmit (cmdChan cmd) (withUpperLen (cmdLength cmd) upperLen) type.packet >>=
        fun err ↦ pure (.status err 0, upperLen)) := by
  rw [outcome, h, htype]
  rfl

theorem outcome_testEnd (h : cmdCode cmd = 3) :
    d.outcome cmd upperLen =
      if cmdControl cmd ≠ 0 ∨ d.testEndMaxRange < (cmdParameter cmd).toNat then
        pure (.rejected, upperLen)
      else Transport.testEnd >>= fun cnt ↦ pure (.ofTestEnd cnt, upperLen) := by
  rw [outcome, h]
  rfl

end

/-- **The response is the event of the outcome.** One case for each class of words, and in each
the two programs issue the same operation before they differ in what they return. -/
theorem dtmCmdPut_eq_outcome (cmd : UInt16) (upperLen : UInt8) :
    d.dtmCmdPut cmd upperLen =
      d.outcome cmd upperLen >>= fun x ↦ pure (d.event x.1, x.2) := by
  rcases cmdCode_cases cmd with h | h | h | h
  · rw [dtmCmdPut_testSetup d upperLen h, outcome_testSetup d upperLen h, Prog.bind_assoc]
    rfl
  · rw [dtmCmdPut_receiverTest d upperLen h, outcome_receiverTest d upperLen h, Prog.bind_assoc]
    rfl
  · obtain ⟨type, htype⟩ := cmdType_cases cmd
    rw [dtmCmdPut_transmitterTest d upperLen h htype, outcome_transmitterTest d upperLen h htype,
      Prog.bind_assoc]
    rfl
  · rw [dtmCmdPut_testEnd d upperLen h, outcome_testEnd d upperLen h]
    split
    · rfl
    · rw [Prog.bind_assoc]
      refine congrArg _ (funext fun cnt ↦ ?_)
      cases cnt <;> rfl

end Decoder

end DirectTestMode
