import DirectTestMode.Transport.CmdCore

/-!
# The shell commands and the auto-start

The command words that `dtm_shell_commands.c` and `main.c` build, and the shell handlers that send
them. An argument is the `int` that `atoi` makes of it; the handlers narrow it to eight bits before
they look at it.

The words are built by the shifts of the source, and each builder is a definition of its own, so
that it can be compared with the fields that the decoder reads. They are not the same fields: the
shell puts a channel at bit 2 and the decoder reads one at bit 8. Nothing here repairs that, and
nothing hides it.

This is the shell without its text. The arguments are numbers and the lines a handler prints are
left out, which is the form that statements about what a command does are made in. `ShellNode` has
the same handlers with their text, and shows that apart from the lines they agree.

A handler returns an error before it sends anything, so the `upper_len` of the decoder changes only
through a word.
-/

namespace DirectTestMode.Shell

/-- `atoi` into a `uint8_t`. -/
def octetOf (arg : Int32) : UInt8 := arg.toUInt32.toUInt8

/-- The word of `rx_test`, and of the auto-start. -/
def rxTestWord (channel : UInt8) : UInt16 := (0x4000 : UInt16) ||| channel.toUInt16 <<< 2

/-- The word of `tx_carrier`. -/
def txCarrierWord (channel : UInt8) : UInt16 := (0x8000 : UInt16) ||| channel.toUInt16 <<< 2

/-- The word of `tx_test`. -/
def txTestWord (channel length : UInt8) : UInt16 :=
  -- the decoder reads the channel from bit 8 and the length from bit 2
  (0x8000 : UInt16) ||| length.toUInt16 <<< 8 ||| channel.toUInt16 <<< 2 ||| 0x00

/-- The word of `tx_power`. -/
def txPowerWord (power : Int8) : UInt16 :=
  (0x0200 : UInt16) ||| (power.toInt16.toUInt16 &&& 0x3F) <<< 2

/-- Send one word and print its response. -/
def send (cmd : UInt16) (upperLen : UInt8) : Prog transport (Ret × UInt8) := do
  let x ← CmdCore.dtmCmdPut cmd upperLen
  pure (.ok, x.2)

/-- `reset` sends the word zero. -/
def cmdDtmReset (upperLen : UInt8) : Prog transport (Ret × UInt8) := send 0x0000 upperLen

/-- The handlers take the arguments after the command itself, so that `argc` is one more. -/
def cmdDtmRxTest (args : List Int32) (upperLen : UInt8) : Prog transport (Ret × UInt8) :=
  match args with
  | [channel] =>
    if 39 < (octetOf channel).toNat then pure (.err .einval, upperLen)
    else send (rxTestWord (octetOf channel)) upperLen
  | _ => pure (.err .einval, upperLen)

/-- `tx_carrier` sends a Transmitter Test word whose other fields are zero. -/
def cmdDtmTxCarrier (args : List Int32) (upperLen : UInt8) : Prog transport (Ret × UInt8) :=
  match args with
  | [channel] =>
    if 39 < (octetOf channel).toNat then pure (.err .einval, upperLen)
    else send (txCarrierWord (octetOf channel)) upperLen
  | _ => pure (.err .einval, upperLen)

/-- `cmd_dtm_tx_test` on its channel and length. -/
def txTest (channel length upperLen : UInt8) : Prog transport (Ret × UInt8) :=
  if 39 < channel.toNat then pure (.err .einval, upperLen)
  else if 37 < length.toNat then pure (.err .einval, upperLen)
  else send (txTestWord channel length) upperLen

/-- `tx_test`, with 37 octets when no length is given. -/
def cmdDtmTxTest (args : List Int32) (upperLen : UInt8) : Prog transport (Ret × UInt8) :=
  match args with
  | [channel] => txTest (octetOf channel) 37 upperLen
  | [channel, length] => txTest (octetOf channel) (octetOf length) upperLen
  | _ => pure (.err .einval, upperLen)

/-- `tx_power`. Its argument has no range check. -/
def cmdDtmTxPower (args : List Int32) (upperLen : UInt8) : Prog transport (Ret × UInt8) :=
  match args with
  | [power] => send (txPowerWord (octetOf power).toInt8) upperLen
  | _ => pure (.err .einval, upperLen)

/-- `end` sends the Test End word. -/
def cmdDtmEndTest (upperLen : UInt8) : Prog transport (Ret × UInt8) := send 0xC000 upperLen

/-- The auto-start of `main` with `AUTO_START_CHANNEL`: a Reset and a Receiver Test. -/
def autoStart (autoStartChannel : UInt8) (upperLen : UInt8) :
    Prog transport (UInt16 × UInt8) := do
  let x ← CmdCore.dtmCmdPut 0x0000 upperLen
  CmdCore.dtmCmdPut (rxTestWord autoStartChannel) x.2

end DirectTestMode.Shell
