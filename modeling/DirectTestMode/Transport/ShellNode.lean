import DirectTestMode.Machine.Numeral
import DirectTestMode.Transport.Firmware
import DirectTestMode.Transport.Shell

/-!
# The shell of the firmware

The handlers of `dtm_shell_commands.c` with the text they take and the lines they print. `ShellNode`
is the firmware behind its shell: commands are typed, and the interrupts of the radio and the
anomaly timer come between them.

Apart from the lines, a handler is the one on the numbers that its arguments stand for
(`ShellCommand.handler_quiet`). `ShellCommand.word` is the word that it sends to the shared core, if
it takes the arguments.

## Text

A line is a list of characters, and what is printed is a list of lines. Arguments are read by
`strtol` and `atoi` of the C library, which are written out here with their leading blanks, their
sign, their prefix and their saturation, because a tester types text: two spellings of one number
have to reach the same handler, and a number that does not fit is not an error of the shell. Numbers
are printed by `Numeral`, of the machine library, and the format directives are the two that occur.

## The log

A handler appends what it returns and prints to the log of the node, which nothing reads. A
statement about what a tester sees is one about the log; a statement about the device is one about
the firmware, and by `handler_quiet` the two can be made of the same run.

The shell itself, which splits a line into words and finds the handler, is not part of the
repository. A command arrives here with its arguments split.
-/

namespace DirectTestMode

open Fallible

/-! ### Text and numbers -/

/-- The characters that `isspace` holds for: the blank, and those from the tab to the carriage
return. -/
def isSpace (c : Char) : Bool :=
  c == ' ' || (decide ('\t'.toNat ≤ c.toNat) && decide (c.toNat ≤ '\r'.toNat))

/-- The sign of a numeral, and the text behind it. -/
def takeSign : List Char → ℤ × List Char
  | '-' :: text => (-1, text)
  | '+' :: text => (1, text)
  | text => (1, text)

/-- The prefix of a hexadecimal numeral is one only before a digit. -/
def skipPrefix (base : ℕ) (text : List Char) : List Char :=
  match text with
  | '0' :: x :: d :: rest =>
    if base = 16 ∧ (x = 'x' ∨ x = 'X') ∧ (Numeral.digit 16 d).isSome then d :: rest else text
  | _ => text

/-- `strtol`, for a `long` of 32 bits. -/
def strtol (base : ℕ) (text : List Char) : ℤ :=
  let x := takeSign (text.dropWhile isSpace)
  max (-2147483648) (min 2147483647 (x.1 * (Numeral.scan base 0 (skipPrefix base x.2)).1))

/-- `atoi`, as the conversion of the `long` that `strtol` returns. -/
def atoi (text : List Char) : Int32 := Int32.ofInt (strtol 10 text)

/-- `%04X` of a `uint16_t`. -/
def hex4 (w : UInt16) : List Char := Numeral.pad 16 4 w.toNat

/-- `%d`. -/
def dec (n : ℤ) : List Char :=
  if n < 0 then '-' :: Numeral.print 10 n.natAbs else Numeral.print 10 n.natAbs

/-! ### The handlers -/

/-- What a handler returns and prints, with the `upper_len` it leaves. -/
structure ShellOutcome where
  ret : Ret
  upperLen : UInt8
  lines : List (List Char)

namespace ShellNode

/-- The text between a line and its response. -/
def responseLabel : List Char := " - Response: 0x".toList

/-- The end of a line that shows a response. -/
def response (w : UInt16) : List Char := responseLabel ++ hex4 w

/-- Send one word and print what there is to say about its response. -/
def sendPrint (cmd : UInt16) (lines : UInt16 → List (List Char)) (upperLen : UInt8) :
    Prog transport ShellOutcome := do
  let x ← CmdCore.dtmCmdPut cmd upperLen
  pure ⟨.ok, x.2, lines x.1⟩

/-- Print why the arguments are not taken. -/
def reject (lines : List String) (upperLen : UInt8) : Prog transport ShellOutcome :=
  pure ⟨.err .einval, upperLen, lines.map String.toList⟩

/-- A channel with its frequency, as the lines of a reception and of a carrier have it. -/
def channelText (channel : UInt8) : List Char :=
  dec channel.toNat ++ " (".toList ++ dec (2404 + channel.toNat * 2) ++ " MHz)".toList

/-- What is printed for a channel or a length out of range. -/
def channelError : String := "Error: Channel must be 0-39"
def lengthError : String := "Error: Length must be 0-37"

/-- The lines, up to the response. -/
def resetLabel : List Char := "DTM Reset".toList
def endLabel : List Char := "End Test".toList

def rxTestLabel (channel : UInt8) : List Char :=
  "RX Test on channel ".toList ++ channelText channel

def txCarrierLabel (channel : UInt8) : List Char :=
  "TX Carrier on channel ".toList ++ channelText channel

def txTestLabel (channel length : UInt8) : List Char :=
  "TX Test on channel ".toList ++ dec channel.toNat ++ ", length ".toList ++ dec length.toNat

def txPowerLabel (power : Int8) : List Char :=
  "Set TX Power to ".toList ++ dec power.toInt ++ " dBm".toList

def rawLabel (cmd : UInt16) : List Char := "Sent 0x".toList ++ hex4 cmd

/-- `reset`, which looks at no argument. -/
def cmdDtmReset (upperLen : UInt8) : Prog transport ShellOutcome :=
  sendPrint 0x0000 (fun w ↦ [resetLabel ++ response w]) upperLen

/-- The handlers take the arguments after the command itself, so that `argc` is one more. -/
def cmdDtmRxTest (args : List (List Char)) (upperLen : UInt8) : Prog transport ShellOutcome :=
  match args with
  | [arg] =>
    let channel := Shell.octetOf (atoi arg)
    if 39 < channel.toNat then reject [channelError] upperLen
    else sendPrint (Shell.rxTestWord channel) (fun w ↦ [rxTestLabel channel ++ response w]) upperLen
  | _ => reject ["Usage: rx_test <channel>", "  channel: 0-39 (2404-2482 MHz)"] upperLen

/-- `tx_carrier`, with the channel as the reception has it. -/
def cmdDtmTxCarrier (args : List (List Char)) (upperLen : UInt8) : Prog transport ShellOutcome :=
  match args with
  | [arg] =>
    let channel := Shell.octetOf (atoi arg)
    if 39 < channel.toNat then reject [channelError] upperLen
    else sendPrint (Shell.txCarrierWord channel)
      (fun w ↦ [txCarrierLabel channel ++ response w]) upperLen
  | _ => reject ["Usage: tx_carrier <channel>", "  channel: 0-39 (2404-2482 MHz)"] upperLen

/-- `cmd_dtm_tx_test` on its channel and length. -/
def txTest (channel length : UInt8) (upperLen : UInt8) : Prog transport ShellOutcome :=
  if 39 < channel.toNat then reject [channelError] upperLen
  else if 37 < length.toNat then reject [lengthError] upperLen
  else sendPrint (Shell.txTestWord channel length)
    (fun w ↦ [txTestLabel channel length ++ response w]) upperLen

/-- `tx_test`, with 37 octets when no length is given. -/
def cmdDtmTxTest (args : List (List Char)) (upperLen : UInt8) : Prog transport ShellOutcome :=
  match args with
  | [channel] => txTest (Shell.octetOf (atoi channel)) 37 upperLen
  | [channel, length] =>
    txTest (Shell.octetOf (atoi channel)) (Shell.octetOf (atoi length)) upperLen
  | _ => reject ["Usage: tx_test <channel> [length]", "  channel: 0-39 (2404-2482 MHz)",
      "  length: packet length 0-37 (default 37)"] upperLen

/-- `tx_power`. The power is printed as it was narrowed to eight bits. -/
def cmdDtmTxPower (args : List (List Char)) (upperLen : UInt8) : Prog transport ShellOutcome :=
  match args with
  | [arg] =>
    let power := (Shell.octetOf (atoi arg)).toInt8
    sendPrint (Shell.txPowerWord power) (fun w ↦ [txPowerLabel power ++ response w]) upperLen
  | _ => reject ["Usage: tx_power <power_dbm>", "  power_dbm: TX power in dBm (e.g., 0, 4, 8)"]
      upperLen

def countLabel : List Char := "  Packets received: ".toList

/-- The second line of `cmd_dtm_end_test`, for a packet report. -/
def countLines (w : UInt16) : List (List Char) :=
  if w &&& 0x8000 ≠ 0 then [countLabel ++ dec (w &&& 0x7FFF).toNat] else []

/-- `end`, with a second line when the response is a packet report. -/
def cmdDtmEndTest (upperLen : UInt8) : Prog transport ShellOutcome :=
  sendPrint 0xC000 (fun w ↦ (endLabel ++ response w) :: countLines w) upperLen

/-- `raw` sends the word it is given. What does not fit sixteen bits is cut off. -/
def cmdDtmRaw (args : List (List Char)) (upperLen : UInt8) : Prog transport ShellOutcome :=
  match args with
  | [arg] =>
    let cmd := UInt16.ofInt (strtol 16 arg)
    sendPrint cmd (fun w ↦ [rawLabel cmd ++ response w]) upperLen
  | _ => reject ["Usage: dtm_raw <hex_value>", "  hex_value: 4-digit hex (e.g., 8014 for RX ch 20)"]
      upperLen

end ShellNode

/-- The subcommands of `dtm`: `reset`, `rx_test`, `tx_carrier`, `tx_test`, `tx_power`, `end` and
`raw`. -/
inductive ShellCommand
  | reset | rxTest | txCarrier | txTest | txPower | endTest | raw
  deriving DecidableEq

namespace ShellCommand

/-- `dtm_cmds`. -/
def handler (c : ShellCommand) (args : List (List Char)) : UInt8 → Prog transport ShellOutcome :=
  match c with
  | reset => ShellNode.cmdDtmReset
  | rxTest => ShellNode.cmdDtmRxTest args
  | txCarrier => ShellNode.cmdDtmTxCarrier args
  | txTest => ShellNode.cmdDtmTxTest args
  | txPower => ShellNode.cmdDtmTxPower args
  | endTest => ShellNode.cmdDtmEndTest
  | raw => ShellNode.cmdDtmRaw args

end ShellCommand

/-! ### The handlers without their text -/

namespace ShellOutcome

/-- What a handler returns, with the `upper_len` it leaves. -/
def quiet (x : ShellOutcome) : Ret × UInt8 := (x.ret, x.upperLen)

/-- Sending and printing is sending. -/
theorem quiet_sendPrint (cmd : UInt16) (lines : UInt16 → List (List Char)) (upperLen : UInt8) :
    (ShellNode.sendPrint cmd lines upperLen >>= fun x ↦ pure x.quiet) =
      Shell.send cmd upperLen := by
  rw [ShellNode.sendPrint, Shell.send, Prog.bind_assoc]
  rfl

/-- A handler that looks at its channel. -/
theorem quiet_channel (channel : UInt8) {lines : List String} {upperLen : UInt8}
    {p : Prog transport ShellOutcome} {p' : Prog transport (Ret × UInt8)}
    (h : (p >>= fun x ↦ pure x.quiet) = p') :
    ((if 39 < channel.toNat then ShellNode.reject lines upperLen else p) >>= fun x ↦ pure x.quiet) =
      if 39 < channel.toNat then pure (.err .einval, upperLen) else p' := by
  split_ifs
  · rfl
  · exact h

/-- The two checks of `tx_test` are the same on both sides. -/
theorem quiet_txTest (channel length upperLen : UInt8) :
    (ShellNode.txTest channel length upperLen >>= fun x ↦ pure x.quiet) =
      Shell.txTest channel length upperLen := by
  refine quiet_channel channel ?_
  split_ifs
  · rfl
  · exact quiet_sendPrint _ _ upperLen

end ShellOutcome

/-- **The handlers on text and on numbers.** Without their lines, the handlers of the shell are
those of `Shell` on what `atoi` makes of the arguments. -/
theorem ShellCommand.handler_quiet (c : ShellCommand) (args : List (List Char)) (upperLen : UInt8) :
    (c.handler args upperLen >>= fun x ↦ pure x.quiet) =
      match c with
      | reset => Shell.cmdDtmReset upperLen
      | rxTest => Shell.cmdDtmRxTest (args.map atoi) upperLen
      | txCarrier => Shell.cmdDtmTxCarrier (args.map atoi) upperLen
      | txTest => Shell.cmdDtmTxTest (args.map atoi) upperLen
      | txPower => Shell.cmdDtmTxPower (args.map atoi) upperLen
      | endTest => Shell.cmdDtmEndTest upperLen
      | raw => ShellNode.cmdDtmRaw args upperLen >>= fun x ↦ pure x.quiet := by
  cases c with
  | raw => rfl
  | reset =>
    exact ShellOutcome.quiet_sendPrint 0x0000
      (fun w ↦ [ShellNode.resetLabel ++ ShellNode.response w]) upperLen
  | endTest =>
    exact ShellOutcome.quiet_sendPrint 0xC000
      (fun w ↦ (ShellNode.endLabel ++ ShellNode.response w) :: ShellNode.countLines w) upperLen
  | rxTest | txCarrier =>
    rcases args with - | ⟨arg, - | ⟨arg', args⟩⟩
    · rfl
    · exact ShellOutcome.quiet_channel _ (ShellOutcome.quiet_sendPrint _ _ upperLen)
    · rfl
  | txTest =>
    rcases args with - | ⟨arg, - | ⟨length, - | ⟨arg', args⟩⟩⟩
    · rfl
    · exact ShellOutcome.quiet_txTest _ _ upperLen
    · exact ShellOutcome.quiet_txTest _ _ upperLen
    · rfl
  | txPower =>
    rcases args with - | ⟨arg, - | ⟨arg', args⟩⟩
    · rfl
    · let power := (Shell.octetOf (atoi arg)).toInt8
      exact ShellOutcome.quiet_sendPrint (Shell.txPowerWord power)
        (fun w ↦ [ShellNode.txPowerLabel power ++ ShellNode.response w]) upperLen
    · rfl

/-! ### The machine -/

/-- The firmware behind its shell, and what the handlers have returned and printed. -/
structure ShellNode where
  firmware : Firmware
  log : List (Ret × List (List Char))

/-- What can happen to the shell. -/
inductive ShellInput
  | command (c : ShellCommand) (args : List (List Char))
  | radio (ev : RadioEvent)
  | anomaly (ev : AnomalyEvent)

namespace ShellNode

variable (b : Build) (q : ℕ)

/-- A command: its handler is run, and what it returns and prints is logged. -/
def command (s : ShellNode) (c : ShellCommand) (args : List (List Char)) :
    Except Fault ShellNode := do
  let x ← (c.handler args s.firmware.upperLen).run (hostHandler b q) s.firmware.host
  pure
    { firmware := { s.firmware with host := x.2, upperLen := x.1.upperLen }
      log := s.log ++ [(x.1.ret, x.1.lines)] }

/-- An interrupt. -/
def irq (s : ShellNode) (i : FirmwareInput) : Except Fault ShellNode := do
  let f ← s.firmware.step b q i
  pure { s with firmware := f }

/-- One command or interrupt. -/
def step (s : ShellNode) : ShellInput → Except Fault ShellNode
  | .command c args => s.command b q c args
  | .radio ev => s.irq b q (.radio ev)
  | .anomaly ev => s.irq b q (.anomaly ev)

/-- The shell after the initialisation of the library. -/
structure Initial (s : ShellNode) : Prop where
  firmware : s.firmware.Initial b
  log : s.log = []

end ShellNode

/-! ### The word of a command -/

namespace ShellCommand

/-- A word for a channel that is legal. -/
def wordOn (word : UInt8 → UInt16) (channel : UInt8) : Option UInt16 :=
  if 39 < channel.toNat then none else some (word channel)

/-- The word that a command sends, if its arguments are taken. -/
def word (c : ShellCommand) (args : List (List Char)) : Option UInt16 :=
  match c, args with
  | reset, _ => some 0x0000
  | rxTest, [arg] => wordOn Shell.rxTestWord (Shell.octetOf (atoi arg))
  | txCarrier, [arg] => wordOn Shell.txCarrierWord (Shell.octetOf (atoi arg))
  | txTest, [arg] => wordOn (Shell.txTestWord · 37) (Shell.octetOf (atoi arg))
  | txTest, [arg, length] =>
    if 37 < (Shell.octetOf (atoi length)).toNat then none
    else wordOn (Shell.txTestWord · (Shell.octetOf (atoi length))) (Shell.octetOf (atoi arg))
  | txPower, [arg] => some (Shell.txPowerWord (Shell.octetOf (atoi arg)).toInt8)
  | endTest, _ => some 0xC000
  | raw, [arg] => some (UInt16.ofInt (strtol 16 arg))
  | _, _ => none

end ShellCommand

end DirectTestMode
