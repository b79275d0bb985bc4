import DirectTestMode.Dtm.Link
import DirectTestMode.Machine.Lfsr
import DirectTestMode.Properties.Loopback

/-!
# The pseudo-random payloads

The tables `dtm_prbs9_content` and `dtm_prbs15_content` are the outputs of two shift registers, with
the bits of each octet in the order in which the radio sends them. So a transmitter sends the
register's outputs (`prbs_sent`), for every length. A receiver compares with the same tables, and
what it accepts are the payloads that start with ones and obey the recurrence of the register
(`prbs_accepted_iff`).

* A register is an `Lfsr` of `Machine.Lfsr`, a length and one tap; its state is a number, and its
  output the lowest bit. There `Obeys` is the recurrence, a property of any sequence of bits, and
  the two are tied by the fact that the outputs are the only sequence that begins with the state and
  obeys it.
* That the tables are the outputs is evaluated once for each of them, over all 255 octets. Every
  shorter payload is a prefix, so the length is no longer part of the computation.
* What is on the air is a fact about the transmitter (`Properties.Loopback`), and what is accepted
  one about the checker; the register connects the two without either being mentioned in the other.

A table of 255 octets holds about four periods of the first register, and a sixteenth of one of the
second. A sequence that is accepted is determined by its first nine or fifteen bits, all of them
ones.
-/

namespace DirectTestMode

open Fallible

variable {b : Build}

/-! ### The registers -/

/-- `b[i + 9] = b[i] + b[i + 4]`. -/
def prbs9 : Lfsr := ⟨9, 4, by decide⟩

/-- `b[i + 15] = b[i] + b[i + 1]`. -/
def prbs15 : Lfsr := ⟨15, 1, by decide⟩

/-- The register of a payload type. -/
def DtmPduType.prbs : DtmPduType → Option Lfsr
  | prbs9 => some DirectTestMode.prbs9
  | prbs15 => some DirectTestMode.prbs15
  | pkt0F | pkt55 | ff | pkt00 | pktF0 | pktAA => none

/-- The table of PRBS9, octet by octet. -/
theorem dtmPrbs9Content_eq : dtmPrbs9Content = prbs9.octets prbs9.ones 255 := by
  decide +kernel

/-- The table of PRBS15. -/
theorem dtmPrbs15Content_eq : dtmPrbs15Content = prbs15.octets prbs15.ones 255 := by
  decide +kernel

/-- **The reference payload is what the register puts out.** -/
theorem octets_reference {type : DtmPduType} {g : Lfsr} (hg : type.prbs = some g)
    (length : UInt8) :
    Lfsr.bits (type.reference.octets length.toNat) =
      (List.range (8 * length.toNat)).map (g.out g.ones) := by
  have hlength : length.toNat ≤ 255 := Nat.le_of_lt_succ length.toNat_lt
  cases type with
  | prbs9 =>
    cases hg
    rw [DtmPduType.reference, PduReference.octets, dtmPrbs9Content_eq, Lfsr.take_octets _ hlength]
    exact Lfsr.bits_octets (by decide) _ _
  | prbs15 =>
    cases hg
    rw [DtmPduType.reference, PduReference.octets, dtmPrbs15Content_eq, Lfsr.take_octets _ hlength]
    exact Lfsr.bits_octets (by decide) _ _
  | pkt0F | pkt55 | ff | pkt00 | pktF0 | pktAA => cases hg

/-! ### On the air -/

/-- **A transmitter sends the register's outputs**, as many as the length asks for, and with them
nothing of what was tested before. -/
theorem prbs_sent {channel length : UInt8} {pkt : DtmPacket} {s s' : Device}
    (h : dtmTestTransmit b channel length pkt s = .ok (.ok, s')) (hs' : s'.state = .transmitterTest)
    {g : Lfsr} (hg : (resolvePacket s.radioMode pkt).pduType.bind DtmPduType.prbs = some g) :
    ∃ sent octets, s'.onAir = some sent ∧
      sent.slice (headerLen s.cteInfo.mode) length.toNat = some octets ∧
      Lfsr.bits octets = (List.range (8 * length.toNat)).map (g.out g.ones) := by
  obtain ⟨type, htype, hholds, -⟩ := dtmTestTransmit_holds h hs'
  have hv : resolvePacket s.radioMode pkt ≠ .vendor := by
    intro hv
    rw [hv] at htype
    cases htype
  rw [htype] at hg
  refine ⟨s'.pdu 0, _, ?_, hholds.payload, octets_reference hg length⟩
  rw [Device.onAir, dtmTestTransmit_packetPtr hv h]
  rfl

/-- The longest packet has 2040 bits, about four periods of the register. -/
theorem prbs_sent_prbs9 :
    ∃ s' sent octets,
      dtmTestTransmit (.nrf5340 true false) 0 255 .prbs9 .nrf5340 = .ok (.ok, s') ∧
      s'.onAir = some sent ∧ sent.slice 2 255 = some octets ∧
      Lfsr.bits octets = (List.range 2040).map (prbs9.out 511) := by
  obtain ⟨pdu, radio, anomalyTimer, timer, -, h⟩ := dtmTestTransmit_modulated
    (b := .nrf5340 true false) (s := .nrf5340) 0 255 rfl
    (show resolvePacket .ble1Mbit .prbs9 ≠ .vendor by decide) (by decide) rfl
  obtain ⟨sent, octets, hsent, hslice, hbits⟩ := prbs_sent h rfl (g := prbs9) rfl
  exact ⟨_, sent, octets, h, hsent, hslice, hbits⟩

/-- **A receiver accepts what obeys the recurrence.** Without a constant tone extension, the PDU of
a pseudo-random type that the PHY admits is accepted exactly if its payload starts with ones and
goes on as the register does. -/
theorem prbs_accepted_iff (phy : DtmPhy) (hphy : phy.supported b = true) {r : Device}
    (hmode : r.radioMode = phy.radioMode) (hoff : r.cteInfo.mode = .off) {type : DtmPduType}
    {g : Lfsr} (hg : type.prbs = some g) {pdu : DtmPdu} (htype : pdu 0 &&& 0x0F = type.code)
    (ev : RadioEvent) :
    ∃ octets, pdu.slice 2 (pdu 1).toNat = some octets ∧
      (checkPdu b ev pdu r = .ok (true, r) ↔
        type.code ≤ phy.lastPduType.code ∧
          g.Obeys g.ones (8 * (pdu 1).toNat) fun k ↦ (Lfsr.bits octets).getD k false) := by
  have hlength : (pdu 1).toNat ≤ 255 := Nat.le_of_lt_succ (pdu 1).toNat_lt
  obtain ⟨octets, hslice⟩ : ∃ octets, pdu.slice 2 (pdu 1).toNat = some octets :=
    ⟨_, Buffer.slice_eq pdu (by omega)⟩
  refine ⟨octets, hslice, ?_⟩
  have hpayload : octets = type.reference.octets (pdu 1).toNat ↔
      g.Obeys g.ones (8 * (pdu 1).toNat) fun k ↦ (Lfsr.bits octets).getD k false := by
    rw [Lfsr.obeys_iff Lfsr.ones_lt, ← Lfsr.bits_injective.eq_iff, octets_reference hg,
      Lfsr.bits_eq_iff (Buffer.length_slice hslice)]
  have hverdict := checkPayload_verdict (b := b) hoff type (pdu 1) pdu ev
  rw [hslice] at hverdict
  rw [checkPdu]
  simp only [htype, show ¬dtmPayloadMaxSize < (pdu 1).toNat from Nat.not_lt.2 hlength, if_false,
    DtmPduType.ofCode_code, hmode, pduTypeRefused_radioMode hphy, decide_eq_true_eq]
  by_cases hle : type.code ≤ phy.lastPduType.code
  · rw [if_neg (UInt8.not_lt.2 hle), hverdict, ← hpayload]
    simp [hle]
  · rw [if_pos (UInt8.not_le.1 hle)]
    simp [hle]

/-- The PRBS9 packet of 37 octets is accepted, so its 296 bits obey the recurrence: nine ones, and
287 bits that follow from them. Two octets that break off at the fifteenth bit are not accepted. -/
theorem prbs_accepted_iff_prbs9 :
    (∃ octets, (DtmPdu.ofOctets (testPacket .prbs9 37)).slice 2 37 = some octets ∧
      prbs9.Obeys prbs9.ones 296 fun k ↦ (Lfsr.bits octets).getD k false) ∧
    checkPdu (.nrf5340 true false) (.ofOctets [0, 2, 0xFF, 0x01]) (.ofOctets [0, 2, 0xFF, 0x01])
      .nrf5340 ≠ .ok (true, .nrf5340) := by
  constructor
  · have hholds := pduHolds_testPacket .prbs9 37
    obtain ⟨octets, hslice, hiff⟩ := prbs_accepted_iff (b := .nrf5340 true false) .phy1m rfl
      (r := .nrf5340) rfl rfl (g := prbs9) rfl hholds.typeOctet
      (.ofOctets (testPacket .prbs9 37))
    have haccepted := checkPdu_off (b := .nrf5340 true false) .phy1m rfl (r := .nrf5340) rfl rfl
      hholds (.ofOctets (testPacket .prbs9 37))
    exact ⟨octets, hslice, (hiff.1 haccepted).2⟩
  · have htype : DtmPdu.ofOctets [0, 2, 0xFF, 0x01] 0 &&& 0x0F = DtmPduType.prbs9.code := rfl
    obtain ⟨octets, hslice, hiff⟩ := prbs_accepted_iff (b := .nrf5340 true false) .phy1m rfl
      (r := .nrf5340) rfl rfl (g := prbs9) rfl htype (.ofOctets [0, 2, 0xFF, 0x01])
    cases hslice
    intro haccepted
    -- bit 14 is to be the sum of bits 5 and 9
    have hbit := (hiff.1 haccepted).2.recurrence 5 (by decide)
    exact absurd hbit (by decide)

end DirectTestMode
