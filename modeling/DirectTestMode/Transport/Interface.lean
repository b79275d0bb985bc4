import DirectTestMode.Dtm.Control

/-!
# What the transports are written against

A transport handles a command by calling the DTM library, by filling its static antenna pattern
buffer and, over HCI, by queueing a packet for the UART. `transport` is that interface and a handler
of a transport is a `Prog transport`; `hostHandler` gives the operations their meaning on a `Host`,
the device with the transmit queue.

`Prog.calls` on such a program is the list of operations it issues, so a statement like *the word is
decoded into a receiver test on channel c* is one about `calls`. A statement about what the tester
gets is one about `run`. Both are about the same program, and neither needs the other.

The antenna pattern is an operation of its own and not a part of the call that hands it to the
library, because the source copies it first: the buffer is static, the library keeps a pointer to
it, and a later command overwrites what an earlier one has set. The copy is checked against the size
of the buffer, and a copy beyond it is the fault `bounds`.

The transmit queue is kept as simple as a writer sees it: how many buffers are free, and which
packets wait. That the UART driver below behaves so is proved where its buffers and threads are
modelled, not assumed here.

The operations are then given once more as programs, under the names of the library's functions, so
that a handler reads like its source.
-/

namespace DirectTestMode

open Fallible

/-! ### The transmit queue of the HCI UART -/

/-- The buffer pool and the queue that `hci_uart_write` fills, one octet sequence a packet. -/
structure TxQueue where
  free : ℕ
  queue : List (List UInt8)

/-- `hci_uart_write`. A buffer also holds the pointer to itself, of four octets. -/
def hciUartWrite (queueSize : ℕ) (type : UInt8) (hdr pld : List UInt8) (tx : TxQueue) :
    Ret × TxQueue :=
  if tx.free = 0 then (.err .enomem, tx)
  else if queueSize < pld.length + hdr.length + 1 + 4 then (.err .enomem, tx)
  else (.ok, ⟨tx.free - 1, tx.queue ++ [type :: (hdr ++ pld)]⟩)

/-! ### The interface -/

/-- An operation of a transport. -/
inductive TransportOp
  | dtm (c : Call)
  /-- Copy octets to the start of an antenna pattern buffer. -/
  | patternStore (pattern : PatternPtr) (src : List UInt8)
  | uartWrite (type : UInt8) (hdr pld : List UInt8)

/-- What an operation returns. -/
def TransportOp.Res : TransportOp → Type
  | dtm c => c.Res
  | patternStore _ _ => Unit
  | uartWrite _ _ _ => Ret

/-- The interface of the transports. -/
def transport : Interface := ⟨TransportOp, TransportOp.Res⟩

/-- The device and the transmit queue. -/
structure Host where
  device : Device
  tx : TxQueue

/-- Copy octets to the start of an antenna pattern buffer. -/
def patternStore (pattern : PatternPtr) (src : List UInt8) (p : PatternMemory) :
    Except Fault PatternMemory :=
  match pattern with
  | .null => .error .bounds
  | .uart => do
    let uart ← inBounds (p.uart.memcpy 0 src src.length)
    pure { p with uart := uart }
  | .hci => do
    let hci ← inBounds (p.hci.memcpy 0 src src.length)
    pure { p with hci := hci }

/-- The meaning of the operations on a host whose transmit buffers hold `queueSize` octets. -/
def hostHandler (b : Build) (queueSize : ℕ) : transport.Handler Host Fault
  | .dtm c, h => do
    let x ← api b c h.device
    pure (x.1, { h with device := x.2 })
  | .patternStore pattern src, h => do
    let patterns ← patternStore pattern src h.device.patterns
    pure ((), { h with device := { h.device with patterns := patterns } })
  | .uartWrite type hdr pld, h =>
    let x := hciUartWrite queueSize type hdr pld h.tx
    .ok (x.1, { h with tx := x.2 })

/-! ### The operations as programs -/

namespace Transport

/-- The functions of the library, as programs of one operation each. -/
def setupPrepare : Prog transport Unit := Prog.perform (I := transport) (.dtm .setupPrepare)

def setupReset : Prog transport Ret := Prog.perform (I := transport) (.dtm .setupReset)

def setupSetPhy (phy : DtmPhy) : Prog transport Ret :=
  Prog.perform (I := transport) (.dtm (.setupSetPhy phy))

def setupSetModulation (modulation : DtmModulation) : Prog transport Ret :=
  Prog.perform (I := transport) (.dtm (.setupSetModulation modulation))

def setupReadFeatures : Prog transport DtmSuppFeatures :=
  Prog.perform (I := transport) (.dtm .setupReadFeatures)

/-- The transports pass the address of a variable, so the pointer is never null. -/
def setupReadMaxSupportedValue (parameter : DtmMaxSupported) :
    Prog transport (Except Errno UInt16) :=
  Prog.perform (I := transport) (.dtm (.setupReadMaxSupportedValue parameter true))

def setupSetCteMode (type : DtmCteType) (time : UInt8) : Prog transport Ret :=
  Prog.perform (I := transport) (.dtm (.setupSetCteMode type time))

def setupSetCteSlot (slot : UInt8) : Prog transport Ret :=
  Prog.perform (I := transport) (.dtm (.setupSetCteSlot slot))

def setupSetAntennaParams (count : UInt8) (pattern : PatternPtr) (patternLen : UInt8) :
    Prog transport Ret :=
  Prog.perform (I := transport) (.dtm (.setupSetAntennaParams count pattern patternLen))

def setupSetTransmitPower (power : DtmTxPowerRequest) (val : Int8) (channel : UInt8) :
    Prog transport DtmTxPower :=
  Prog.perform (I := transport) (.dtm (.setupSetTransmitPower power val channel))

def testReceive (channel : UInt8) : Prog transport Ret :=
  Prog.perform (I := transport) (.dtm (.testReceive channel))

def testTransmit (channel length : UInt8) (pkt : DtmPacket) : Prog transport Ret :=
  Prog.perform (I := transport) (.dtm (.testTransmit channel length pkt))

/-- Likewise for the packet count. -/
def testEnd : Prog transport (Except Errno UInt16) :=
  Prog.perform (I := transport) (.dtm (.testEnd true))

/-- The copy into an antenna pattern buffer. -/
def storePattern (pattern : PatternPtr) (src : List UInt8) : Prog transport Unit :=
  Prog.perform (I := transport) (.patternStore pattern src)

/-- `hci_uart_write`: the packet type, the header and the payload. -/
def uartWrite (type : UInt8) (hdr pld : List UInt8) : Prog transport Ret :=
  Prog.perform (I := transport) (.uartWrite type hdr pld)

end Transport

end DirectTestMode
