import DirectTestMode.Dtm.Channel

/-!
# What one device transmits, another one checks

The PDU that `dtm_test_transmit` builds against `check_pdu`. `PduHolds` is the PDU of a payload type
and a length, by the octets it consists of; `dtmTestTransmit_holds` says that the transmitter builds
it, and `checkPdu_holds` what the checker makes of it.

Without a constant tone extension the two agree on every type that the checker admits in the radio
mode (`loopback_cte_off`). With one they agree on PRBS9 only, since a repeated pattern is looked for
from the CTEInfo octet on (`loopback_cte_on_iff`).

## Two functions, one description

The transmitter and the checker share nothing but the tables of reference payloads, so they are
proved against `PduHolds` and not against each other. It speaks of three things: the low four bits
of octet 0, the length octet, and the payload at an offset. The offset is a parameter because it is
where the two may differ, two octets without an extension and three with one.

* The transmitter writes the payload at the offset of its header, and the CP bit and the CTEInfo
  octet afterwards; neither touches what `PduHolds` looks at (`PduHolds.cte`).
* The checker compares a **table** at the offset of its header, which follows the CTE mode as the
  transmitter's does (`checkPayload_content`). A **repeated octet** it looks for from offset 2 on,
  always; with an extension that is the CTEInfo octet (`checkPayload_on`).

That the types the checker admits depend on the radio mode is a deliberate guard of it, with
comments that count the types. The transmitter has no such guard, so it sends types that no receiver
in the same mode counts; `DtmPhy.lastPduType` names the last one that is counted.

The results of this module are about one packet. `Properties.Accounting` counts them.
-/

namespace DirectTestMode

open Fallible

variable {b : Build}

/-! ### The PDU of a payload type -/

/-- The payload type of a packet. -/
def DtmPacket.pduType : DtmPacket → Option DtmPduType
  | prbs9 => some .prbs9 | pkt0F => some .pkt0F | pkt55 => some .pkt55 | prbs15 => some .prbs15
  | ff => some .ff | pkt00 => some .pkt00 | pktF0 => some .pktF0 | pktAA => some .pktAA
  | ffOrVendor => none | vendor => none

/-- The first `len` octets of a reference payload. -/
def PduReference.octets (len : ℕ) : PduReference → List UInt8
  | content src => src.take len
  | pattern octet => List.replicate len octet

/-- The buffer holds the PDU of a payload type and a length, with a header of `off` octets. -/
structure PduHolds (type : DtmPduType) (length : UInt8) (off : ℕ) (pdu : DtmPdu) : Prop where
  typeOctet : pdu 0 &&& 0x0F = type.code
  lengthOctet : pdu 1 = length
  payload : pdu.slice off length.toNat = some (type.reference.octets length.toNat)

/-- Only the header and the payload count. -/
theorem PduHolds.congr {type : DtmPduType} {length : UInt8} {off : ℕ} {pdu pdu' : DtmPdu}
    (h : PduHolds type length off pdu) (hoff : 2 ≤ off)
    (hpdu : ∀ i : Fin 258, i < off + length.toNat → pdu' i = pdu i) :
    PduHolds type length off pdu' where
  typeOctet := by
    rw [hpdu 0 (by simp; omega)]
    exact h.typeOctet
  lengthOctet := by
    rw [hpdu 1 (by simp; omega)]
    exact h.lengthOctet
  payload := by
    rw [← h.payload]
    exact Buffer.slice_congr fun i _ hi ↦ hpdu i hi

/-- A reference payload has as many octets as are asked for: no table is shorter than a packet. -/
theorem length_referenceOctets (type : DtmPduType) (length : UInt8) :
    (type.reference.octets length.toNat).length = length.toNat := by
  rcases hreference : type.reference with src | octet
  · rw [PduReference.octets, List.length_take]
    exact Nat.min_eq_left (length_reference hreference length)
  · rw [PduReference.octets, List.length_replicate]

/-- The buffer that begins with these octets and is zero behind them. -/
def DtmPdu.ofOctets (octets : List UInt8) : DtmPdu := fun i ↦ octets.getD i 0

/-- The interrupt at the end of a packet of these octets, received with a good CRC. The address, the
end and the ready event are all pending, so every branch of the handler is taken. -/
def RadioEvent.ofOctets (octets : List UInt8) : RadioEvent where
  address := true
  ended := true
  ready := true
  content := .ofOctets octets
  iqSamples := IqSamples.zero
  crcOk := true
  dfeAmount := 0
  rssiSample := 0

/-- A test packet by its octets: the type, the length and the reference payload. -/
def testPacket (type : DtmPduType) (length : UInt8) : List UInt8 :=
  [type.code, length] ++ type.reference.octets length.toNat

/-- The octets of a test packet make its PDU. -/
theorem pduHolds_testPacket (type : DtmPduType) (length : UInt8) :
    PduHolds type length 2 (.ofOctets (testPacket type length)) where
  typeOctet := by
    show type.code &&& 0x0F = type.code
    cases type <;> rfl
  lengthOctet := rfl
  payload := by
    have hlength : (type.reference.octets length.toNat).length = length.toNat :=
      length_referenceOctets type length
    rw [Buffer.slice_eq _ (by have := length.toNat_lt; omega)]
    refine congrArg some (List.ext_getElem (by simp [hlength]) fun i hi hi' ↦ ?_)
    rw [List.getElem_ofFn]
    show ([type.code, length] ++ type.reference.octets length.toNat).getD (2 + i) 0 = _
    rw [Nat.add_comm]
    show (type.reference.octets length.toNat).getD i 0 = _
    rw [List.getD_eq_getElem?_getD, List.getElem?_eq_getElem hi', Option.getD_some]

/-! ### What the transmitter builds -/

/-- The type octet and the payload are written, the rest of the header is left alone. -/
theorem pduFill_holds {pkt : DtmPacket} {type : DtmPduType} (hpkt : pkt.pduType = some type)
    {off len : ℕ} (hoff : 2 ≤ off) {pdu pdu' : DtmPdu} (h : pduFill pkt off len pdu = some pdu') :
    pdu' 0 = type.code ∧ pdu' 1 = pdu 1 ∧
      pdu'.slice off len = some (type.reference.octets len) := by
  have hset : ∀ i : Fin 258, i ≠ 0 → pdu.set 0 type.code i = pdu i :=
    fun i hi ↦ Function.update_of_ne hi _ _
  -- a PRBS type copies its content
  have hcontent {src : List UInt8} (hsrc : type.reference = .content src)
      (h : (pdu.set 0 type.code).memcpy off src len = some pdu') :
      pdu' 0 = type.code ∧ pdu' 1 = pdu 1 ∧
        pdu'.slice off len = some (type.reference.octets len) := by
    refine ⟨?_, ?_, ?_⟩
    · rw [Buffer.memcpy_below h (by simp; omega)]
      exact Function.update_self _ _ _
    · rw [Buffer.memcpy_below h (by simp; omega)]
      exact hset 1 (by decide)
    · rw [Buffer.slice_memcpy h, hsrc]
      rfl
  -- the others set every octet to the pattern
  have hpattern {v : UInt8} (hv : type.reference = .pattern v)
      (h : (pdu.set 0 type.code).memset off v len = some pdu') :
      pdu' 0 = type.code ∧ pdu' 1 = pdu 1 ∧
        pdu'.slice off len = some (type.reference.octets len) := by
    refine ⟨?_, ?_, ?_⟩
    · rw [Buffer.memset_below h (by simp; omega)]
      exact Function.update_self _ _ _
    · rw [Buffer.memset_below h (by simp; omega)]
      exact hset 1 (by decide)
    · rw [Buffer.slice_memset h, hv]
      rfl
  cases pkt with
  | prbs9 | prbs15 =>
    cases hpkt
    exact hcontent rfl h
  | pkt0F | pkt55 | ff | pkt00 | pktF0 | pktAA =>
    cases hpkt
    exact hpattern rfl h
  | ffOrVendor | vendor => cases hpkt

/-- The CTEInfo octet and the CP bit change neither the type nor the payload. -/
theorem PduHolds.cte {type : DtmPduType} {length : UInt8} {cte : DtmCteInfo} {pdu : DtmPdu}
    (hcode : pdu 0 = type.code) (hlength : pdu 1 = length)
    (hpayload : pdu.slice (headerLen cte.mode) length.toNat =
      some (type.reference.octets length.toNat)) :
    PduHolds type length (headerLen cte.mode) (pduCte cte pdu) := by
  rw [pduCte]
  by_cases hmode : cte.mode = .off
  · rw [if_neg (not_not.2 hmode)]
    refine ⟨?_, hlength, hpayload⟩
    rw [hcode]
    cases type <;> rfl
  · rw [if_pos hmode]
    refine ⟨?_, hlength, ?_⟩
    · show (pdu 0 ||| 0x20) &&& 0x0F = type.code
      rw [hcode]
      cases type <;> rfl
    · rw [← hpayload]
      refine Buffer.slice_congr fun i hi _ ↦ ?_
      have hi : 3 ≤ (i : ℕ) := by
        rwa [headerLen, if_pos hmode] at hi
      have h2 : i ≠ 2 := fun h ↦ by
        rw [h] at hi
        exact absurd hi (by decide)
      have h0 : i ≠ 0 := fun h ↦ by
        rw [h] at hi
        exact absurd hi (by decide)
      rw [DtmPdu.set, Function.update_of_ne h2, DtmPdu.set, Function.update_of_ne h0]

/-- A modulated test was started with this PDU. -/
theorem dtmTestTransmit_started {channel length : UInt8} {pkt : DtmPacket} {s s' : Device}
    (h : dtmTestTransmit b channel length pkt s = .ok (.ok, s'))
    (hs' : s'.state = .transmitterTest) :
    ∃ pdu, pduFill (resolvePacket s.radioMode pkt) (headerLen s.cteInfo.mode) length.toNat
        ((transmitState channel length pkt s).pdu 0) = some pdu ∧
      s'.pdu 0 = pduCte s.cteInfo pdu := by
  generalize hx : (Ret.ok, s') = x at h
  cases dtmTestTransmit_ok h with
  | busy | channel | refused => cases hx
  | setting hs =>
    cases hx
    cases hs.symm.trans hs'
  | carrier =>
    cases hx
    cases hs'
  | modulated hs hv hc hgain pdu hpdu =>
    cases hx
    exact ⟨pdu, hpdu, rfl⟩

/-- **The transmitter builds the PDU of its payload type.** -/
theorem dtmTestTransmit_holds {channel length : UInt8} {pkt : DtmPacket} {s s' : Device}
    (h : dtmTestTransmit b channel length pkt s = .ok (.ok, s'))
    (hs' : s'.state = .transmitterTest) :
    ∃ type, (resolvePacket s.radioMode pkt).pduType = some type ∧
      PduHolds type length (headerLen s.cteInfo.mode) (s'.pdu 0) ∧
      (s.cteInfo.mode ≠ .off → s'.pdu 0 2 = s.cteInfo.info) := by
  obtain ⟨pdu, hfill, hpdu⟩ := dtmTestTransmit_started h hs'
  have hoff : 2 ≤ headerLen s.cteInfo.mode := by
    rw [headerLen]
    split <;> decide
  obtain ⟨type, htype⟩ : ∃ type, (resolvePacket s.radioMode pkt).pduType = some type := by
    generalize resolvePacket s.radioMode pkt = p at hfill
    cases p with
    | ffOrVendor | vendor => cases hfill
    | prbs9 | pkt0F | pkt55 | prbs15 | ff | pkt00 | pktF0 | pktAA => exact ⟨_, rfl⟩
  obtain ⟨hcode, hlength, hpayload⟩ := pduFill_holds htype hoff hfill
  refine ⟨type, htype, ?_, fun hmode ↦ ?_⟩
  · rw [hpdu]
    refine .cte hcode (hlength.trans ?_) hpayload
    exact UInt8.toUInt8_toUInt32 length
  · rw [hpdu, pduCte, if_pos hmode]
    exact Function.update_self _ _ _

/-! ### What the checker makes of it -/

/-- **The PDU of a payload type** is refused by its type, or its payload is checked. -/
theorem checkPdu_holds {type : DtmPduType} {length : UInt8} {off : ℕ} {pdu : DtmPdu}
    (h : PduHolds type length off pdu) (ev : RadioEvent) (r : Device) :
    checkPdu b ev pdu r =
      if pduTypeRefused b r.radioMode type.code then .ok (false, r)
      else checkPayload b ev type.reference length.toNat pdu r := by
  have hlength : ¬ dtmPayloadMaxSize < length.toNat :=
    Nat.not_lt.2 (Nat.le_of_lt_succ length.toNat_lt)
  rw [checkPdu]
  simp only [h.typeOctet, h.lengthOctet, hlength, if_false, DtmPduType.ofCode_code]

/-- A reference table is compared at the payload, with a constant tone extension or without. -/
theorem checkPayload_content {type : DtmPduType} {length : UInt8} {pdu : DtmPdu} {r : Device}
    (h : PduHolds type length (headerLen r.cteInfo.mode) pdu) {src : List UInt8}
    (hsrc : type.reference = .content src) (ev : RadioEvent) :
    checkPayload b ev type.reference length.toNat pdu r = .ok (true, r) := by
  have hpayload := h.payload
  rw [hsrc] at hpayload ⊢
  rw [checkPayload, hpayload, Buffer.firstOf_eq (length_reference hsrc length), inBounds_some,
    inBounds_some, ok_bind, ok_bind]
  simp [PduReference.octets]

/-- **Without a constant tone extension** the check compares what follows the header with the
reference payload, whether that is a table or a repeated octet. -/
theorem checkPayload_verdict {r : Device} (hoff : r.cteInfo.mode = .off) (type : DtmPduType)
    (length : UInt8) (pdu : DtmPdu) (ev : RadioEvent) :
    checkPayload b ev type.reference length.toNat pdu r =
      .ok (decide (pdu.slice 2 length.toNat = some (type.reference.octets length.toNat)), r) := by
  have hlength : length.toNat ≤ 255 := Nat.le_of_lt_succ length.toNat_lt
  obtain ⟨octets, hslice⟩ : ∃ octets, pdu.slice 2 length.toNat = some octets :=
    ⟨_, Buffer.slice_eq pdu (by omega)⟩
  rcases hreference : type.reference with src | octet
  · have hheader : headerLen r.cteInfo.mode = 2 := by
      rw [hoff]
      rfl
    simp only [checkPayload, hheader, hslice,
      Buffer.firstOf_eq (length_reference hreference length),
      inBounds_some, ok_bind, PduReference.octets, Option.some.injEq, beq_eq_decide, pure_eq_ok]
  · have hcount : octets.length = length.toNat := Buffer.length_slice hslice
    have hall : octets.all (· == octet) = true ↔ octets = List.replicate length.toNat octet := by
      rw [List.eq_replicate_iff, List.all_eq_true]
      simp [hcount]
    simp only [checkPayload, hslice, inBounds_some, ok_bind, PduReference.octets,
      Option.some.injEq]
    split
    · rw [decide_eq_true (hall.1 ‹_›), checkCte, hoff, if_neg (by simp)]
    · rw [decide_eq_false (mt hall.2 ‹_›)]
      rfl

/-- A payload that the transmitter wrote is accepted. -/
theorem checkPayload_off {type : DtmPduType} {length : UInt8} {pdu : DtmPdu} {r : Device}
    (hoff : r.cteInfo.mode = .off) (h : PduHolds type length (headerLen r.cteInfo.mode) pdu)
    (ev : RadioEvent) :
    checkPayload b ev type.reference length.toNat pdu r = .ok (true, r) := by
  have hpayload : pdu.slice 2 length.toNat = some (type.reference.octets length.toNat) := by
    rw [← h.payload, hoff]
    rfl
  rw [checkPayload_verdict hoff, decide_eq_true hpayload]

/-- **With a constant tone extension a repeated octet is never accepted**: the CTEInfo octet would
have to be the number of the CTE mode. -/
theorem checkPayload_on {type : DtmPduType} {length : UInt8} {pdu : DtmPdu} {r : Device}
    {octet : UInt8} (hreference : type.reference = .pattern octet)
    (hdf : b.directionFinding = true) (hon : r.cteInfo.mode ≠ .off)
    (hinfo : pdu 2 ≠ r.cteInfo.mode.code) (ev : RadioEvent) (r' : Device) :
    checkPayload b ev type.reference length.toNat pdu r ≠ .ok (true, r') := by
  rw [hreference, checkPayload]
  intro h
  obtain ⟨octets, -, h⟩ := bind_eq_ok.1 h
  split at h
  · rw [checkCte, hdf, Bool.true_and, if_pos (by simpa using hon)] at h
    obtain ⟨t, ht, h⟩ := bind_eq_ok.1 h
    have hmode : t.cteInfo.mode = r.cteInfo.mode := by
      rw [reportIqTo_ok ht]
    have htrue := (Prod.mk.inj (Except.ok.inj h)).1
    simp only [Bool.and_eq_true, decide_eq_true_eq] at htrue
    exact hinfo (htrue.1.trans (congrArg DtmCteMode.code hmode))
  · cases h

/-! ### Without a constant tone extension -/

/-- The last payload type that a PHY admits. -/
def DtmPhy.lastPduType : DtmPhy → DtmPduType
  | phy1m => .pkt55 | phy2m => .pkt55 | codedS8 => .ff | codedS2 => .ff

/-- The guard of the checker, in terms of the PHY that its radio mode comes from. -/
theorem pduTypeRefused_radioMode {phy : DtmPhy} (hphy : phy.supported b = true) (code : UInt8) :
    pduTypeRefused b phy.radioMode code = decide (phy.lastPduType.code < code) := by
  rw [pduTypeRefused, dtmHwRadioLrCheck]
  cases phy with
  | phy1m | phy2m => cases b.hasBleCoded <;> exact Bool.or_false _
  | codedS8 | codedS2 =>
    rw [show b.hasBleCoded = true from hphy]
    rfl

/-- The checker's verdict on the PDU of a payload type, with the extension off. -/
theorem checkPdu_off (phy : DtmPhy) (hphy : phy.supported b = true) {type : DtmPduType}
    {length : UInt8} {pdu : DtmPdu} {r : Device} (hr : r.radioMode = phy.radioMode)
    (hoff : r.cteInfo.mode = .off) (h : PduHolds type length (headerLen r.cteInfo.mode) pdu)
    (ev : RadioEvent) :
    checkPdu b ev pdu r = .ok (decide (type.code ≤ phy.lastPduType.code), r) := by
  rw [checkPdu_holds h, hr, pduTypeRefused_radioMode hphy, checkPayload_off hoff h]
  rcases Nat.lt_or_ge phy.lastPduType.code.toNat type.code.toNat with hlt | hle
  · rw [if_pos (decide_eq_true (UInt8.lt_iff_toNat_lt.2 hlt)),
      decide_eq_false (UInt8.not_le.2 (UInt8.lt_iff_toNat_lt.2 hlt))]
  · rw [if_neg (by simpa using UInt8.le_iff_toNat_le.2 hle),
      decide_eq_true (UInt8.le_iff_toNat_le.2 hle)]

/-- **What one device transmits, another counts, when the checker admits the payload type in the
radio mode**, and not otherwise. -/
theorem loopback_cte_off (phy : DtmPhy) (hphy : phy.supported b = true) {s s' : Device}
    (hmode : s.radioMode = phy.radioMode) (hoff : s.cteInfo.mode = .off)
    {channel length : UInt8} {pkt : DtmPacket}
    (h : dtmTestTransmit b channel length pkt s = .ok (.ok, s'))
    (hs' : s'.state = .transmitterTest) {r : Device} (hrmode : r.radioMode = phy.radioMode)
    (hroff : r.cteInfo.mode = .off) {pdu : DtmPdu}
    (hpdu : ∀ i : Fin 258, i < 2 + length.toNat → pdu i = s'.pdu 0 i) (ev : RadioEvent) :
    ∃ type, (resolvePacket phy.radioMode pkt).pduType = some type ∧
      checkPdu b ev pdu r = .ok (decide (type.code ≤ phy.lastPduType.code), r) := by
  obtain ⟨type, htype, hholds, -⟩ := dtmTestTransmit_holds h hs'
  rw [hmode] at htype
  rw [hoff] at hholds
  have hholds := hholds.congr (by decide) hpdu
  rw [← hroff] at hholds
  exact ⟨type, htype, checkPdu_off phy hphy hrmode hroff hholds ev⟩

/-- PRBS9 on the 1 Mbit PHY is counted. -/
theorem loopback_cte_off_prbs9 :
    ∃ s', dtmTestTransmit (.nrf5340 true false) 0 37 .prbs9 .nrf5340 = .ok (.ok, s') ∧
      ∀ ev, checkPdu (.nrf5340 true false) ev (s'.pdu 0) .nrf5340 = .ok (true, .nrf5340) := by
  obtain ⟨pdu, radio, anomalyTimer, timer, -, h⟩ := dtmTestTransmit_modulated
    (b := .nrf5340 true false) (s := .nrf5340) 0 37 rfl
    (show resolvePacket .ble1Mbit .prbs9 ≠ .vendor by decide) (by decide) rfl
  refine ⟨_, h, fun ev ↦ ?_⟩
  obtain ⟨type, htype, hcheck⟩ := loopback_cte_off .phy1m (r := .nrf5340)
    rfl rfl rfl h rfl rfl rfl (fun _ _ ↦ rfl) ev
  cases htype
  exact hcheck

/-- PRBS15 is sent on the 1 Mbit PHY, and refused there. -/
theorem prbs15_refused_uncoded :
    ∃ s', dtmTestTransmit (.nrf5340 true false) 0 37 .prbs15 .nrf5340 = .ok (.ok, s') ∧
      s'.state = .transmitterTest ∧
      ∀ ev, checkPdu (.nrf5340 true false) ev (s'.pdu 0) .nrf5340 = .ok (false, .nrf5340) := by
  obtain ⟨pdu, radio, anomalyTimer, timer, -, h⟩ := dtmTestTransmit_modulated
    (b := .nrf5340 true false) (s := .nrf5340) 0 37 rfl
    (show resolvePacket .ble1Mbit .prbs15 ≠ .vendor by decide) (by decide) rfl
  refine ⟨_, h, rfl, fun ev ↦ ?_⟩
  obtain ⟨type, htype, hholds, -⟩ := dtmTestTransmit_holds h rfl
  cases htype
  exact checkPdu_off .phy1m rfl rfl rfl hholds ev

/-! ### With a constant tone extension -/

/-- Two devices have the same CTE configuration. -/
structure SameCte (cte cte' : DtmCteInfo) : Prop where
  mode : cte'.mode = cte.mode
  slot : cte'.slot = cte.slot
  time : cte'.time = cte.time
  info : cte'.info = cte.info

/-- The CTEInfo octet of a transmitter is not the number of a CTE mode. -/
theorem info_ne_code {type : DtmCteType} (htype : type ≠ .none) {time : UInt8}
    (htime : time.toNat ≤ cteLengthMax) : type.info time ≠ type.mode.code := by
  have hall : ∀ t < 21, type.info (UInt8.ofNat t) ≠ type.mode.code := by
    cases type with
    | none => exact absurd rfl htype
    | aoa | aod1us | aod2us => decide
  have h := hall time.toNat (Nat.lt_succ_of_le htime)
  rwa [UInt8.ofNat_toNat] at h

/-- **With a constant tone extension the checker accepts what was transmitted exactly when it is
PRBS9**, however many samples the radio reports. -/
theorem loopback_cte_on_iff {type : DtmCteType} (htype : type ≠ .none) {time : UInt8}
    {s₀ s₁ : Device} (hset : dtmSetupSetCteMode b type time s₀ = (.ok, s₁)) (slot : DtmCteSlot)
    {s s' : Device} (hcte : s.cteInfo = { s₁.cteInfo with slot := slot })
    (hmode : s.radioMode = .ble1Mbit ∨ s.radioMode = .ble2Mbit) {channel length : UInt8}
    {pkt : DtmPacket} (hpkt : pkt = .prbs9 ∨ pkt = .pkt0F ∨ pkt = .pkt55)
    (h : dtmTestTransmit b channel length pkt s = .ok (.ok, s'))
    (hs' : s'.state = .transmitterTest) {r : Device} (hrmode : r.radioMode = s.radioMode)
    (hrcte : SameCte s.cteInfo r.cteInfo) {pdu : DtmPdu}
    (hpdu : ∀ i : Fin 258, i < 3 + length.toNat → pdu i = s'.pdu 0 i) (ev : RadioEvent) :
    (∃ r', checkPdu b ev pdu r = .ok (true, r')) ↔ pkt = .prbs9 := by
  obtain ⟨hdf, -, htime, hs₁⟩ := dtmSetupSetCteMode_ok htype hset
  have hon : s.cteInfo.mode = type.mode := by rw [hcte, hs₁]
  have hinfo : s.cteInfo.info = type.info time := by rw [hcte, hs₁]
  have hne : s.cteInfo.mode ≠ .off := by
    rw [hon]
    cases type with
    | none => exact absurd rfl htype
    | aoa | aod1us | aod2us => decide
  have hresolve : resolvePacket s.radioMode pkt = pkt := by
    rcases hpkt with rfl | rfl | rfl <;> rfl
  obtain ⟨pduType, hpduType, hholds, hoctet⟩ := dtmTestTransmit_holds h hs'
  have hlen : headerLen s.cteInfo.mode = 3 := if_pos hne
  have hreceived := hholds.congr (by rw [hlen]; decide) (by rwa [hlen])
  rw [← hrcte.mode] at hreceived
  rw [hresolve] at hpduType
  -- the three types are within the limit of the uncoded PHYs
  have hadmitted : pduTypeRefused b r.radioMode pduType.code = false := by
    have hrefused {phy : DtmPhy} (hphy : phy = .phy1m ∨ phy = .phy2m) :
        pduTypeRefused b phy.radioMode pduType.code = false := by
      rw [pduTypeRefused_radioMode (by rcases hphy with rfl | rfl <;> rfl)]
      rcases hpkt with rfl | rfl | rfl <;> cases hpduType <;> rcases hphy with rfl | rfl <;> rfl
    rw [hrmode]
    rcases hmode with hmode | hmode <;> rw [hmode]
    · exact hrefused (.inl rfl)
    · exact hrefused (.inr rfl)
  rw [checkPdu_holds hreceived, hadmitted, if_neg (by decide)]
  constructor
  · rintro ⟨r', hcheck⟩
    by_contra hprbs9
    -- octet 2 is the CTEInfo of the transmitter, compared with the bare mode
    have hoctet2 : pdu 2 ≠ r.cteInfo.mode.code := by
      rw [hpdu 2 (by simp; omega), hoctet hne, hinfo, hrcte.mode, hon]
      exact info_ne_code htype htime
    have hpattern : ∃ octet, pduType.reference = .pattern octet := by
      rcases hpkt with rfl | rfl | rfl
      · exact absurd rfl hprbs9
      · cases hpduType
        exact ⟨_, rfl⟩
      · cases hpduType
        exact ⟨_, rfl⟩
    obtain ⟨octet, hreference⟩ := hpattern
    exact checkPayload_on hreference hdf (by rwa [hrcte.mode]) hoctet2 ev r' hcheck
  · rintro rfl
    cases hpduType
    exact ⟨r, checkPayload_content hreceived rfl ev⟩

/-- A device that sends and receives with an AoD extension of the shortest length. -/
def Device.nrf5340Aod : Device := (dtmSetupSetCteMode (.nrf5340 true false) .aod1us 2 .nrf5340).2

/-- PRBS9 with an extension is counted. -/
theorem loopback_cte_on_iff_prbs9 :
    ∃ s', dtmTestTransmit (.nrf5340 true false) 0 37 .prbs9 .nrf5340Aod = .ok (.ok, s') ∧
      ∀ ev, ∃ r', checkPdu (.nrf5340 true false) ev (s'.pdu 0) .nrf5340Aod = .ok (true, r') := by
  obtain ⟨pdu, radio, anomalyTimer, timer, -, h⟩ := dtmTestTransmit_modulated
    (b := .nrf5340 true false) (s := .nrf5340Aod) 0 37 rfl
    (show resolvePacket .ble1Mbit .prbs9 ≠ .vendor by decide) (by decide) rfl
  refine ⟨_, h, fun ev ↦ ?_⟩
  have hset : dtmSetupSetCteMode (.nrf5340 true false) .aod1us 2 .nrf5340 = (.ok, .nrf5340Aod) :=
    rfl
  exact (loopback_cte_on_iff (by decide) hset .us1 (r := .nrf5340Aod) rfl (.inl rfl) (.inl rfl) h
    rfl rfl ⟨rfl, rfl, rfl, rfl⟩ (fun _ _ ↦ rfl) ev).2 rfl

/-- `0x0F` with an extension is sent, and not counted by the device that has the same setting. -/
theorem pkt0F_refused_with_cte :
    ∃ s', dtmTestTransmit (.nrf5340 true false) 0 37 .pkt0F .nrf5340Aod = .ok (.ok, s') ∧
      s'.state = .transmitterTest ∧
      ∀ ev, ev.dfeAmount = expectedSampleCnt Device.nrf5340Aod.cteInfo →
        ∀ r', checkPdu (.nrf5340 true false) ev (s'.pdu 0) .nrf5340Aod ≠ .ok (true, r') := by
  obtain ⟨pdu, radio, anomalyTimer, timer, -, h⟩ := dtmTestTransmit_modulated
    (b := .nrf5340 true false) (s := .nrf5340Aod) 0 37 rfl
    (show resolvePacket .ble1Mbit .pkt0F ≠ .vendor by decide) (by decide) rfl
  refine ⟨_, h, rfl, fun ev _ r' ↦ ?_⟩
  obtain ⟨type, htype, hholds, hoctet⟩ := dtmTestTransmit_holds h rfl
  cases htype
  rw [checkPdu_holds hholds, if_neg (by decide)]
  refine checkPayload_on rfl rfl (by decide) ?_ ev r'
  rw [hoctet (by decide)]
  decide

end DirectTestMode
