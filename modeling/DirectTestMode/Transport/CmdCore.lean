import DirectTestMode.Transport.Twowire

/-!
# The shared command core (`dtm_cmd_core.c`)

The decoder behind the shell and the auto-start of `main.c`. Its switch knows four of the ten
controls of a Test Setup word: the reset, the upper length bits, the features and the limits. A word
with another control is answered with the error event and changes nothing.

Two differences to the decoder of `dtm_uart_twowire.c` are in the functions here and not in the
fields of the `Decoder`. The reset and the upper bits take any parameter, where the other decoder
refuses a range; and no word ends the running test before it is handled. The status events and the
range of Test End are the third and the fourth, and they are fields.

`upper_len` is written by the reset and by the upper bits only, and what is written holds nothing
but upper bits (`dtmCmdPut_returns`). This is what the results about the length of a packet rest on.
-/

namespace DirectTestMode.CmdCore

/-- A reset of the library; `upper_len` is zero whether it succeeds or not. -/
def resetDtm (_parameter : UInt8) : Prog transport (Ret × UInt8) := do
  -- no range check on the parameter, no `dtm_setup_prepare`
  let err ← Transport.setupReset
  pure (err, 0)

/-- The upper bits are taken from any parameter. -/
def upperSet (parameter : UInt8) : Ret × UInt8 := (.ok, upperBits parameter)

/-- The switch of `on_test_setup_cmd`. -/
def setupCmd (control parameter upperLen : UInt8) : Prog transport (Ret × UInt16 × UInt8) :=
  match DtmCtrlCode.ofCode control with
  | some .reset => do
    let x ← resetDtm parameter
    pure (x.1, 0, x.2)
  | some .setUpper => pure ((upperSet parameter).1, 0, (upperSet parameter).2)
  | some .readSupported => do
    let x ← featuresRead parameter
    pure (x.1, x.2, upperLen)
  | some .readMax => do
    let x ← readMax parameter
    pure (x.1, x.2, upperLen)
  | _ => pure (.err .einval, 0, upperLen)

/-- The decoder of `dtm_cmd_core.c`, with the status events as that file defines them. -/
def decoder : Decoder where
  success := 0x0001
  error := 0x0000
  testEndMaxRange := 10
  setupCmd := setupCmd

/-- `dtm_cmd_put` of `dtm_cmd_core.c`. -/
def dtmCmdPut (cmd : UInt16) (upperLen : UInt8) : Prog transport (UInt16 × UInt8) :=
  decoder.dtmCmdPut cmd upperLen

/-- Every control leaves `upper_len` with upper bits only. -/
theorem setupCmd_returns (control parameter : UInt8) {upperLen : UInt8} (h : UpperOnly upperLen) :
    (setupCmd control parameter upperLen).Returns fun x ↦ UpperOnly x.2.2 := by
  have hreset : (resetDtm parameter).Returns fun x ↦ x.2 = 0 :=
    (Prog.returns_true _).bind fun _ _ ↦ rfl
  rw [setupCmd]
  split
  · refine hreset.bind fun x hx ↦ ?_
    rw [Prog.returns_pure, hx]
    rfl
  · exact upperBits_upperOnly parameter
  · exact (Prog.returns_true _).bind fun _ _ ↦ h
  · exact (Prog.returns_true _).bind fun _ _ ↦ h
  · exact h

/-- **So does every word.** The other three classes of words do not write it. -/
theorem dtmCmdPut_returns (cmd : UInt16) {upperLen : UInt8} (h : UpperOnly upperLen) :
    (dtmCmdPut cmd upperLen).Returns fun x ↦ UpperOnly x.2 :=
  decoder.dtmCmdPut_returns h (fun control parameter ↦ setupCmd_returns control parameter h) cmd

end DirectTestMode.CmdCore
