import DirectTestMode.Transport.Firmware
import DirectTestMode.Transport.TwowireRx

/-!
# The two-wire transports from wire to wire

`dtm_tr_get` and `dtm_tr_process` in turn, with the interrupts of the library between them. A pass
through the loop of `dtm_tr_get` that ends with a command is followed by its processing, which
writes two octets.

The receiver is the one of the UART or the one of RTT, and the decoder is the shared core or the one
in `dtm_uart_twowire.c`, which the build leaves out if the core is there. Both are parameters of the
step, so a result about the node is about all four combinations.

The main loop is sequential, and the node says so: between a command and its response no poll is
made, and octets that arrive meanwhile are in the list of the next poll. An interrupt may come
between any two passes. What was written is recorded and never read back, so the record has no
influence on the run; it is the observation that a tester makes.
-/

namespace DirectTestMode

open Fallible

/-- The version of `dtm_tr_get`. -/
inductive TwowireReceiver
  | uart
  | rtt

/-- The loop body of a receiver. -/
def TwowireReceiver.poll : TwowireReceiver → Rx → Poll → Rx × Option RxCommand
  | .uart => UartTwowire.poll
  | .rtt => RttTwowire.poll

/-- The version of `dtm_cmd_put`. -/
inductive TwowireDecoder
  | core
  | uart

/-- A word for the decoder. -/
def TwowireDecoder.input : TwowireDecoder → UInt16 → FirmwareInput
  | .core => .word
  | .uart => .uartWord

/-- The response of a decoder to a word, and the firmware after it. -/
def TwowireDecoder.put : TwowireDecoder → Build → ℕ → Firmware → UInt16 →
    Except Fault (UInt16 × Firmware)
  | .core, b, q, f => f.put b q
  | .uart, b, q, f => f.uartPut b q

/-- The receiver, the firmware, and what was written. -/
structure TwowireNode where
  rx : Rx
  firmware : Firmware
  /-- The octets for the tester, which are not part of the state: it records what was written. -/
  written : List UInt8

/-- What can happen to the node. -/
inductive TwowireNodeInput
  /-- A pass through the loop of `dtm_tr_get`. -/
  | poll (p : Poll)
  | radio (ev : RadioEvent)
  | anomaly (ev : AnomalyEvent)

/-- What `dtm_tr_process` writes of a response. -/
def responseOctets (ret : UInt16) : List UInt8 :=
  [((ret >>> 8) &&& 0xFF).toUInt8, (ret &&& 0xFF).toUInt8]

namespace TwowireNode

/-- `dtm_tr_process`. -/
def dtmTrProcess (d : TwowireDecoder) (b : Build) (q : ℕ) (s : TwowireNode) (cmd : UInt16) :
    Except Fault TwowireNode := do
  let x ← d.put b q s.firmware cmd
  pure { s with firmware := x.2, written := s.written ++ responseOctets x.1 }

/-- An interrupt of the library. -/
def irq (b : Build) (q : ℕ) (s : TwowireNode) (i : FirmwareInput) : Except Fault TwowireNode := do
  let firmware ← s.firmware.step b q i
  pure { s with firmware := firmware }

/-- A pass without a command only moves octets; a pass with one also processes it. -/
def step (r : TwowireReceiver) (d : TwowireDecoder) (b : Build) (q : ℕ) (s : TwowireNode) :
    TwowireNodeInput → Except Fault TwowireNode
  | .poll p =>
    match r.poll s.rx p with
    | (rx, none) => .ok { s with rx := rx }
    | (rx, some cmd) => dtmTrProcess d b q { s with rx := rx } cmd.twowire
  | .radio ev => s.irq b q (.radio ev)
  | .anomaly ev => s.irq b q (.anomaly ev)

/-- The node in which the transport starts. -/
structure Initial (b : Build) (s : TwowireNode) : Prop where
  rx : s.rx = .start
  firmware : s.firmware.Initial b
  written : s.written = []

end TwowireNode

end DirectTestMode
