import DirectTestMode.Dtm.Api

/-!
# Two devices and the air between them

One device transmits and another one receives. `RadioLink.step` is the machine of both: an interrupt
of either, or a packet of the transmitter that arrives. What arrives is what the radio of the
transmitter reads at its packet pointer, as long as the length octet says; the rest of the
receiver's buffer is whatever it was.

The air is given, not modelled: which packets arrive, and when, is part of the input, so a lost
packet is one that is not delivered and a late one is delivered after other things have happened. A
packet arrives with a good CRC and unchanged. What the air may do to it beyond that is covered by
the events of the receiver alone, which are not restricted to what a transmitter sends.

Nothing here says that the two devices are tuned alike. A packet is delivered whatever their PHYs
are, so a statement about a link has to ask for the same one, as the report of a link test does.
-/

namespace DirectTestMode

open Fallible

/-- The transmitter and the receiver. -/
structure RadioLink where
  tx : Device
  rx : Device

/-- What can happen to the pair. -/
inductive LinkInput
  /-- Something happens to the transmitter. -/
  | tx (i : Input)
  /-- Something happens to the receiver. -/
  | rx (i : Input)
  /-- A packet of the transmitter arrives with a good CRC. -/
  | deliver (ev : RadioEvent)

/-- The PDU that the radio sends. -/
def Device.onAir (s : Device) : Option DtmPdu := s.radio.packetPtr.map s.pdu

/-- A buffer after the PDU has been received into it. -/
def DtmPdu.receivedInto (sent buf : DtmPdu) : DtmPdu :=
  fun i ↦ if (i : ℕ) < 2 + (sent 1).toNat then sent i else buf i

/-- The interrupt of the receiver for a PDU that has arrived. -/
def RadioEvent.delivers (ev : RadioEvent) (sent : DtmPdu) : RadioEvent :=
  { ev with ended := true, crcOk := true, content := sent.receivedInto ev.content }

/-- One thing happens. A delivery without a packet pointer delivers nothing. -/
def RadioLink.step (bt br : Build) (l : RadioLink) : LinkInput → Except Fault RadioLink
  | .tx i => do
    let tx ← l.tx.step bt i
    pure { l with tx := tx }
  | .rx i => do
    let rx ← l.rx.step br i
    pure { l with rx := rx }
  | .deliver ev =>
    match l.tx.onAir with
    | none => .ok l
    | some sent => do
      let rx ← l.rx.step br (.radio (ev.delivers sent))
      pure { l with rx := rx }

end DirectTestMode
