import DirectTestMode.Properties.PacketReport

/-!
# What is in a test packet

The octets of a test packet, on either end of the air.

* `checkPdu_iff`: with CTE off `check_pdu` accepts a buffer exactly if it holds a legal test packet
  (`DtmPhy.Legal`), a payload code that the PHY admits and then the reference payload of that code.
* `dtmTestTransmit_content`: the PDU of a transmitter test is `transmittedPdu`, which only looks at
  the command and the CTE settings. The buffer may hold anything before, so nothing of an earlier
  test is left in it.

Neither stops with a fault, so all accesses stay inside the buffer and the tables.

## Stated without the code's types

`DtmPhy.Legal` and `transmittedPdu` are statements of what a test packet is, in numbers and lists.
`Legal` counts codes from 0 and says which payload belongs to each, where the code has an
enumeration and a switch, and `transmittedPdu` is the packet as a list, where the code fills a
buffer and patches it afterwards. The lemmas in between carry over: `ofCode_of_le` from numbers to
the enumeration, `slice_pduCte` from the patched buffer to the list.

What the checker does comes from `checkPayload_verdict` of `Properties.Loopback`, which is the check
with CTE off for any buffer and not only for one that a transmitter has filled. What the transmitter
does comes from the outcomes of `dtm_test_transmit`, of which only one leaves a test of packets
running, with the buffer that was filled and patched.

A buffer has 258 octets, a header of three and the longest payload of 255. So the bounds hold with
nothing to spare, and every length of the octet is covered.
-/

namespace DirectTestMode

open Fallible

variable {b : Build}

/-! ### Accepted packets -/

/-- The last payload code of a PHY. -/
def DtmPhy.lastCode : DtmPhy → ℕ
  | phy1m => 2 | phy2m => 2 | codedS8 => 4 | codedS2 => 4

/-- The first `n` octets of the reference payload of a code. -/
def referencePayload (n : ℕ) : ℕ → List UInt8
  | 0 => dtmPrbs9Content.take n
  | 1 => List.replicate n 0x0F
  | 2 => List.replicate n 0x55
  | 3 => dtmPrbs15Content.take n
  | 4 => List.replicate n 0xFF
  | _ => []

/-- A legal test packet of a PHY: the code in the low four bits of octet 0 is one of the PHY's, and
with `n` the value of octet 1, the octets from 2 to `n + 1` are its reference payload. -/
structure DtmPhy.Legal (phy : DtmPhy) (pdu : DtmPdu) : Prop where
  code : (pdu 0 &&& 0x0F).toNat ≤ phy.lastCode
  payload : pdu.slice 2 (pdu 1).toNat =
    some (referencePayload (pdu 1).toNat (pdu 0 &&& 0x0F).toNat)

theorem DtmPhy.lastCode_eq (phy : DtmPhy) : phy.lastCode = phy.lastPduType.code.toNat := by
  cases phy <;> rfl

/-- A code that some PHY admits is one of the first five payload types, with its payload. -/
theorem ofCode_of_le {code : UInt8} (h : code.toNat ≤ 4) :
    ∃ type, DtmPduType.ofCode code = some type ∧
      ∀ n, type.reference.octets n = referencePayload n code.toNat := by
  have hcode : code = 0 ∨ code = 1 ∨ code = 2 ∨ code = 3 ∨ code = 4 := by
    simp only [← UInt8.toNat_inj, UInt8.reduceToNat]
    omega
  rcases hcode with rfl | rfl | rfl | rfl | rfl
  · exact ⟨.prbs9, rfl, fun _ ↦ rfl⟩
  · exact ⟨.pkt0F, rfl, fun _ ↦ rfl⟩
  · exact ⟨.pkt55, rfl, fun _ ↦ rfl⟩
  · exact ⟨.prbs15, rfl, fun _ ↦ rfl⟩
  · exact ⟨.ff, rfl, fun _ ↦ rfl⟩

/-- **Accepted packets.** With CTE off `check_pdu` always comes to a verdict, leaves the device as
it is, and accepts exactly the legal test packets of the PHY. -/
theorem checkPdu_iff (b : Build) (ev : RadioEvent) (phy : DtmPhy) (hphy : phy.supported b = true)
    (s : Device) (hmode : s.radioMode = phy.radioMode) (hoff : s.cteInfo.mode = .off)
    (pdu : DtmPdu) :
    ∃ accepted, checkPdu b ev pdu s = .ok (accepted, s) ∧ (accepted = true ↔ phy.Legal pdu) := by
  have hlength : ¬ dtmPayloadMaxSize < (pdu 1).toNat :=
    Nat.not_lt.2 (Nat.le_of_lt_succ (pdu 1).toNat_lt)
  have hrefused : pduTypeRefused b s.radioMode (pdu 0 &&& 0x0F) = true ↔
      phy.lastCode < (pdu 0 &&& 0x0F).toNat := by
    rw [hmode, pduTypeRefused_radioMode hphy, decide_eq_true_eq, UInt8.lt_iff_toNat_lt,
      phy.lastCode_eq]
  rw [checkPdu]
  simp only [hlength, if_false]
  by_cases hcode : (pdu 0 &&& 0x0F).toNat ≤ phy.lastCode
  · have hle : (pdu 0 &&& 0x0F).toNat ≤ 4 := hcode.trans (by cases phy <;> decide)
    obtain ⟨type, htype, hreference⟩ := ofCode_of_le hle
    rw [if_neg (mt hrefused.1 (Nat.not_lt.2 hcode)), htype]
    refine ⟨_, checkPayload_verdict hoff type (pdu 1) pdu ev, ?_⟩
    rw [decide_eq_true_eq, hreference]
    exact ⟨fun h ↦ ⟨hcode, h⟩, DtmPhy.Legal.payload⟩
  · rw [if_pos (hrefused.2 (Nat.not_le.1 hcode))]
    exact ⟨false, rfl, iff_of_false (by decide) fun h ↦ hcode h.code⟩

/-- The PDU of a payload type is legal exactly on the PHYs that admit the type. -/
theorem PduHolds.legal_iff {type : DtmPduType} {length : UInt8} {pdu : DtmPdu}
    (h : PduHolds type length 2 pdu) (phy : DtmPhy) :
    phy.Legal pdu ↔ type.code.toNat ≤ phy.lastCode := by
  constructor
  · intro hlegal
    have hle := hlegal.code
    rwa [h.typeOctet] at hle
  · intro hle
    obtain ⟨type', htype', hreference⟩ := ofCode_of_le (hle.trans (by cases phy <;> decide))
    rw [DtmPduType.ofCode_code] at htype'
    cases htype'
    refine ⟨by rwa [h.typeOctet], ?_⟩
    rw [h.lengthOctet, h.typeOctet, ← hreference]
    exact h.payload

/-- A PRBS15 packet of 20 octets is accepted on the coded PHY, with all its octets compared. On the
1 Mbit PHY the same octets are refused for their type. -/
theorem checkPdu_iff_prbs15 :
    checkPdu (.nrf5340 true false) (.ofOctets (testPacket .prbs15 20))
        (.ofOctets (testPacket .prbs15 20)) { Device.nrf5340 with radioMode := .bleLr125Kbit } =
      .ok (true, { Device.nrf5340 with radioMode := .bleLr125Kbit }) ∧
    checkPdu (.nrf5340 true false) (.ofOctets (testPacket .prbs15 20))
        (.ofOctets (testPacket .prbs15 20)) .nrf5340 = .ok (false, .nrf5340) := by
  have hholds := pduHolds_testPacket .prbs15 20
  obtain ⟨coded, hcoded, hlegal⟩ := checkPdu_iff (.nrf5340 true false)
    (.ofOctets (testPacket .prbs15 20)) .codedS8 rfl
    { Device.nrf5340 with radioMode := .bleLr125Kbit } rfl rfl (.ofOctets (testPacket .prbs15 20))
  obtain ⟨uncoded, huncoded, hillegal⟩ := checkPdu_iff (.nrf5340 true false)
    (.ofOctets (testPacket .prbs15 20)) .phy1m rfl .nrf5340 rfl rfl
    (.ofOctets (testPacket .prbs15 20))
  rw [hholds.legal_iff] at hlegal hillegal
  rw [hcoded, huncoded, hlegal.2 (by decide), Bool.eq_false_iff.2 (mt hillegal.1 (by decide))]
  exact ⟨rfl, rfl⟩

/-! ### Transmitted packets -/

/-- The PDU of a transmitter test: a header of two octets, or of three with CTE on, and the
reference payload. -/
def transmittedPdu (type : DtmPduType) (length : UInt8) (cte : DtmCteInfo) : List UInt8 :=
  (if cte.mode = .off then [type.code, length] else [type.code ||| 0x20, length, cte.info]) ++
    type.reference.octets length.toNat

/-- The first octets of a buffer. -/
theorem slice_header {pdu : DtmPdu} :
    pdu.slice 0 2 = some [pdu 0, pdu 1] ∧ pdu.slice 0 3 = some [pdu 0, pdu 1, pdu 2] := by
  rw [Buffer.slice_eq pdu (by omega), Buffer.slice_eq pdu (by omega)]
  exact ⟨rfl, rfl⟩

/-- What is filled and then patched with the CTE is the transmitted PDU. -/
theorem slice_pduCte {pkt : DtmPacket} {type : DtmPduType} (hpkt : pkt.pduType = some type)
    {length : UInt8} {cte : DtmCteInfo} {pdu pdu' : DtmPdu} (hlength : pdu 1 = length)
    (hfill : pduFill pkt (headerLen cte.mode) length.toNat pdu = some pdu') :
    (pduCte cte pdu').slice 0 (headerLen cte.mode + length.toNat) =
      some (transmittedPdu type length cte) := by
  have hoff : 2 ≤ headerLen cte.mode := by
    rw [headerLen]
    split <;> decide
  obtain ⟨hcode, hlen, hpayload⟩ := pduFill_holds hpkt hoff hfill
  rw [hlength] at hlen
  have hholds : PduHolds type length (headerLen cte.mode) (pduCte cte pdu') :=
    .cte hcode hlen hpayload
  have hheader : (pduCte cte pdu').slice 0 (headerLen cte.mode) =
      some (if cte.mode = .off then [type.code, length]
        else [type.code ||| 0x20, length, cte.info]) := by
    by_cases hmode : cte.mode = .off
    · rw [pduCte, if_neg (not_not.2 hmode), headerLen, if_neg (not_not.2 hmode), if_pos hmode,
        slice_header.1, hcode, hlen]
    · have h0 : pduCte cte pdu' 0 = type.code ||| 0x20 := by
        rw [pduCte, if_pos hmode, ← hcode]
        rfl
      have h2 : pduCte cte pdu' 2 = cte.info := by
        rw [pduCte, if_pos hmode]
        rfl
      rw [headerLen, if_pos hmode, if_neg hmode, slice_header.2, h0, hholds.lengthOctet, h2]
  have hzero := hholds.payload
  rw [← Nat.zero_add (headerLen cte.mode)] at hzero
  exact Buffer.slice_append hheader hzero

/-- A packet type that is not the vendor's has a PDU. -/
theorem exists_pduType {radioMode : RadioMode} {pkt : DtmPacket}
    (hv : resolvePacket radioMode pkt ≠ .vendor) :
    ∃ type, (resolvePacket radioMode pkt).pduType = some type := by
  have hff := resolvePacket_ne radioMode pkt
  generalize resolvePacket radioMode pkt = p at hv hff
  cases p with
  | ffOrVendor => exact absurd rfl hff
  | vendor => exact absurd rfl hv
  | prbs9 | pkt0F | pkt55 | prbs15 | ff | pkt00 | pktF0 | pktAA => exact ⟨_, rfl⟩

/-- **Transmitted packets.** A transmitter test on a legal channel starts on an idle device unless
the front-end module refuses the gain. Whenever it starts, the current PDU begins with
`transmittedPdu` of its type, its length and the CTE settings, whatever the buffers held before. -/
theorem dtmTestTransmit_content (b : Build) (s : Device) (channel length : UInt8) (pkt : DtmPacket)
    (hv : resolvePacket s.radioMode pkt ≠ .vendor) :
    ∃ type x, (resolvePacket s.radioMode pkt).pduType = some type ∧
      dtmTestTransmit b channel length pkt s = .ok x ∧
      (s.state = .idle → channel.toNat ≤ physChMax → femGainRefused b s = false → x.1 = .ok) ∧
      (x.1 = .ok → x.2.state = .transmitterTest ∧ ∃ i, x.2.currentPdu = some i ∧
        (x.2.pdu i).slice 0 (headerLen s.cteInfo.mode + length.toNat) =
          some (transmittedPdu type length s.cteInfo)) := by
  obtain ⟨type, htype⟩ := exists_pduType hv
  rcases hx : dtmTestTransmit b channel length pkt s with e | x
  · exact absurd (dtmTestTransmit_error.1 hx).2.2.1 hv
  refine ⟨type, x, htype, rfl, fun hs hc hgain ↦ ?_, fun hret ↦ ?_⟩
  · obtain ⟨pdu, radio, anomalyTimer, timer, -, hok⟩ :=
      dtmTestTransmit_modulated channel length hs hv hc hgain
    rw [← Except.ok.inj (hok.symm.trans hx)]
  · cases dtmTestTransmit_ok hx with
    | busy | channel | refused => cases hret
    | setting _ hv' | carrier _ hv' => exact absurd hv' hv
    | modulated _ _ _ _ pdu hpdu =>
      have hlength : (transmitState channel length pkt s).pdu 0 1 = length :=
        UInt8.toUInt8_toUInt32 length
      exact ⟨rfl, 0, rfl, slice_pduCte htype hlength hpdu⟩

/-- The longest packet of the last type, over a buffer that is full of something else. -/
theorem dtmTestTransmit_content_AA :
    ∃ type x, (resolvePacket .ble1Mbit .pktAA).pduType = some type ∧
      dtmTestTransmit (.nrf5340 true false) 39 255 .pktAA
        { Device.nrf5340 with pdu := fun _ _ ↦ 0x99 } = .ok x ∧
      (Device.nrf5340.state = .idle → (39 : UInt8).toNat ≤ physChMax →
        femGainRefused (.nrf5340 true false) { Device.nrf5340 with pdu := fun _ _ ↦ 0x99 } = false →
        x.1 = .ok) ∧
      (x.1 = .ok → x.2.state = .transmitterTest ∧ ∃ i, x.2.currentPdu = some i ∧
        (x.2.pdu i).slice 0 (headerLen .off + (255 : UInt8).toNat) =
          some (transmittedPdu type 255 Device.nrf5340.cteInfo)) :=
  dtmTestTransmit_content (.nrf5340 true false) { Device.nrf5340 with pdu := fun _ _ ↦ 0x99 } 39 255
    .pktAA (by decide)

end DirectTestMode
