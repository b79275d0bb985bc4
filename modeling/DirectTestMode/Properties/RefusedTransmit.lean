import DirectTestMode.Properties.PduContent

/-!
# A refused transmitter test

`dtm_test_transmit` promises that an ongoing test is not affected by a parameter error, and a busy
device does return at once. An idle one has assigned the packet type, the length, the channel and
the current buffer before it looks at the channel, and when a vendor command or the front-end module
refuses, the packet counter, the buffer and the parameters of the front-end module are written as
well. `dtmTestTransmit_refused_iff` says what has to be there already for a refused call to change
nothing: exactly what it writes.

## How a condition on the state comes about

A refused call changes nothing if each value that it writes is the one that stands there. So the
condition has a clause for each write, and they come in the order of the function:

* `Assigned`, the four assignments at the top, of any call on an idle device;
* the counter and `PduWritten`, if the call gets past the check of the channel, as a vendor packet
  always does. A vendor packet writes its length octet alone, any other its whole PDU, which is the
  octets of `Properties.PduContent`;
* `FemWritten`, the ramp-up time of a preparation, or the defaults that one vendor setting restores.

Each is stated of the state before the call and the arguments. That the buffer is the same exactly
if it **began with the transmitted PDU** needs both that nothing behind the payload is written
(`pduFill_above`) and that what is written is this PDU.

`SameInst` lists the fields of `dtm_inst` and leaves the peripherals out: the radio's registers and
the timers are written by a preparation that is refused, and the comment in the source speaks of the
state.
-/

namespace DirectTestMode

open Fallible

variable {b : Build} {channel length : UInt8} {pkt : DtmPacket} {s : Device}

/-- The fields of `dtm_inst` are the same. The registers of the peripherals are not part of it. -/
structure SameInst (s s' : Device) : Prop where
  state : s'.state = s.state
  rxPktCount : s'.rxPktCount = s.rxPktCount
  crcErrorCount : s'.crcErrorCount = s.crcErrorCount
  pdu : s'.pdu = s.pdu
  currentPdu : s'.currentPdu = s.currentPdu
  packetLen : s'.packetLen = s.packetLen
  packetType : s'.packetType = s.packetType
  physCh : s'.physCh = s.physCh
  packetHdrPlen : s'.packetHdrPlen = s.packetHdrPlen
  anomaly172WaEnabled : s'.anomaly172WaEnabled = s.anomaly172WaEnabled
  strictMode : s'.strictMode = s.strictMode
  radioMode : s'.radioMode = s.radioMode
  txpower : s'.txpower = s.txpower
  cteInfo : s'.cteInfo = s.cteInfo
  fem : s'.fem = s.fem
  ppiRadioStart : s'.ppiRadioStart = s.ppiRadioStart

theorem SameInst.refl (s : Device) : SameInst s s := by
  constructor <;> rfl

/-! ### What is written before a refusal -/

/-- What is assigned before the channel is checked is there already. -/
structure Assigned (channel length : UInt8) (pkt : DtmPacket) (s : Device) : Prop where
  packetType : s.packetType = resolvePacket s.radioMode pkt
  packetLen : s.packetLen = length.toUInt32
  physCh : s.physCh = channel.toUInt32
  currentPdu : s.currentPdu = some 0

/-- The first buffer holds what the call writes to it: the length octet of a vendor packet, and the
whole PDU of any other. -/
def PduWritten (length : UInt8) (pkt : DtmPacket) (s : Device) : Prop :=
  match (resolvePacket s.radioMode pkt).pduType with
  | none => s.pdu 0 1 = length
  | some type => (s.pdu 0).slice 0 (headerLen s.cteInfo.mode + length.toNat) =
      some (transmittedPdu type length s.cteInfo)

/-- The parameters of the front-end module are what the call makes them. A vendor setting only
writes them if it is the one that restores the defaults, with length octet 6; a test that is
prepared sets the ramp-up time. -/
def FemWritten (b : Build) (length : UInt8) (pkt : DtmPacket) (s : Device) : Prop :=
  if resolvePacket s.radioMode pkt = .vendor ∧ carrierLength length = false then
    b.fem = true → length = 6 → s.fem.gain = femUseDefaultGain ∧ s.fem.vendorRampUpTime = 0
  else femRampUp b false s = s.fem

/-- **What a refused call writes is there already.** An illegal channel is refused right after the
assignments, unless the packet is the vendor's. -/
structure Written (b : Build) (channel length : UInt8) (pkt : DtmPacket) (s : Device) : Prop where
  assigned : Assigned channel length pkt s
  prepared : resolvePacket s.radioMode pkt = .vendor ∨ channel.toNat ≤ physChMax →
    s.rxPktCount = 0 ∧ PduWritten length pkt s ∧ FemWritten b length pkt s

/-! ### The stages of a refusal -/

/-- The four assignments change nothing exactly if they are there. -/
theorem transmitAssign_sameInst :
    SameInst s (transmitAssign channel length pkt s) ↔ Assigned channel length pkt s := by
  constructor
  · intro h
    exact ⟨h.packetType.symm, h.packetLen.symm, h.physCh.symm, h.currentPdu.symm⟩
  · rintro ⟨htype, hlen, hch, hcur⟩
    constructor <;> first | rfl | exact Eq.symm ‹_›

/-- A call that gets past its checks and is refused after that. -/
theorem transmitState_sameInst (pdu : Fin 2 → DtmPdu) (fem : FemParameters) (radio : Radio)
    (anomalyTimer : AnomalyTimer) (timer : PacketTimer) :
    SameInst s { transmitState channel length pkt s with
        pdu := pdu
        radio := radio
        fem := fem
        anomalyTimer := anomalyTimer
        timer := timer } ↔
      Assigned channel length pkt s ∧ s.rxPktCount = 0 ∧ pdu = s.pdu ∧ fem = s.fem := by
  constructor
  · intro h
    exact ⟨⟨h.packetType.symm, h.packetLen.symm, h.physCh.symm, h.currentPdu.symm⟩,
      h.rxPktCount.symm, h.pdu, h.fem⟩
  · rintro ⟨⟨htype, hlen, hch, hcur⟩, hcount, hpdu, hfem⟩
    constructor <;> first | rfl | exact Eq.symm ‹_› | assumption

/-- The length octet alone. -/
theorem transmitState_pdu_eq :
    (transmitState channel length pkt s).pdu = s.pdu ↔ s.pdu 0 1 = length := by
  show Function.update s.pdu 0 ((s.pdu 0).set 1 length.toUInt32.toUInt8) = s.pdu ↔ _
  rw [UInt8.toUInt8_toUInt32, Function.update_eq_self_iff, DtmPdu.set,
    Function.update_eq_self_iff, eq_comm]

/-- Outside the header and the payload nothing is written. -/
theorem pduFill_above {pkt : DtmPacket} {off len : ℕ} {pdu pdu' : DtmPdu}
    (h : pduFill pkt off len pdu = some pdu') {i : Fin 258} (h0 : i ≠ 0) (hi : off + len ≤ i) :
    pdu' i = pdu i := by
  have hset (code : UInt8) : pdu.set 0 code i = pdu i := Function.update_of_ne h0 _ _
  cases pkt with
  | prbs9 | prbs15 => rw [Buffer.memcpy_above h hi, hset]
  | pkt0F | pkt55 | ff | pkt00 | pktF0 | pktAA => rw [Buffer.memset_above h hi, hset]
  | ffOrVendor | vendor => cases h

/-- The CTEInfo octet is the last one of the header. -/
theorem pduCte_above (cte : DtmCteInfo) (pdu : DtmPdu) {i : Fin 258}
    (hi : headerLen cte.mode ≤ i) : pduCte cte pdu i = pdu i := by
  have hoff : 2 ≤ headerLen cte.mode := by
    rw [headerLen]
    split <;> decide
  have h0 : i ≠ 0 := fun h ↦ by
    rw [h] at hi
    exact absurd (hoff.trans hi) (by decide)
  rw [pduCte]
  split
  · next hmode =>
    have h2 : i ≠ 2 := fun h ↦ by
      rw [h, headerLen, if_pos hmode] at hi
      exact absurd hi (by decide)
    rw [DtmPdu.set, Function.update_of_ne h2, DtmPdu.set, Function.update_of_ne h0]
  · rfl

/-- The buffer is the same exactly if it began with the transmitted PDU. -/
theorem pduCte_eq_iff {pkt : DtmPacket} {type : DtmPduType} (hpkt : pkt.pduType = some type)
    {cte : DtmCteInfo} {pdu pdu' : DtmPdu}
    (hfill : pduFill pkt (headerLen cte.mode) length.toNat (pdu.set 1 length) = some pdu') :
    pduCte cte pdu' = pdu ↔
      pdu.slice 0 (headerLen cte.mode + length.toNat) = some (transmittedPdu type length cte) := by
  have hslice := slice_pduCte hpkt (Function.update_self _ _ _) hfill
  constructor
  · intro h
    rwa [h] at hslice
  · intro h
    funext i
    by_cases hi : (i : ℕ) < headerLen cte.mode + length.toNat
    · exact Buffer.eq_of_slice hslice h (Nat.zero_le _) (by omega)
    · have hoff : 2 ≤ headerLen cte.mode := by
        rw [headerLen]
        split <;> decide
      have h0 : i ≠ 0 := fun h0 ↦ by
        rw [h0] at hi
        exact hi (by simp; omega)
      have h1 : i ≠ 1 := fun h1 ↦ by
        rw [h1] at hi
        exact hi (by simp; omega)
      rw [pduCte_above cte pdu' (by omega), pduFill_above hfill h0 (by omega), DtmPdu.set,
        Function.update_of_ne h1]

/-- A power level that is refused is not stored. -/
theorem dtmSetTxpower_refused {newTxPower : UInt32} {t : Device}
    (h : dtmSetTxpower b newTxPower s = (false, t)) : t = s := by
  rw [dtmSetTxpower] at h
  split_ifs at h
  · cases h
    rfl
  · cases h
    rfl
  · cases h

/-- A vendor setting that is refused writes nothing, except for the one that restores the
defaults. -/
theorem vendorSetting_refused {cmd : DtmVsSubcmd} {vendorOption : UInt32}
    (hcmd : cmd ≠ .femDefaultParamsSet) (hret : (vendorSetting b cmd vendorOption s).1 ≠ .ok) :
    (vendorSetting b cmd vendorOption s).2 = s := by
  cases cmd with
  | carrierTest | carrierTestStudio => rfl
  | setTxPower =>
    rcases heq : dtmSetTxpower b vendorOption s with ⟨accepted, t⟩
    rw [vendorSetting, heq] at hret ⊢
    split at hret
    · rw [if_pos ‹_›]
    · rw [if_neg ‹_›]
      cases accepted with
      | true => exact absurd rfl hret
      | false => exact dtmSetTxpower_refused heq
  | femAntennaSelect =>
    simp only [vendorSetting]
    split <;> rfl
  | femGainSet | femRampUpSet =>
    simp only [vendorSetting] at hret ⊢
    split at hret
    · rw [if_pos ‹_›]
    · exact absurd rfl hret
  | femDefaultParamsSet => exact absurd rfl hcmd

/-- The length octet of that setting. -/
theorem ofCode_femDefaultParamsSet {length : UInt8} :
    DtmVsSubcmd.ofCode length.toUInt32 = some .femDefaultParamsSet ↔ length = 6 := by
  constructor
  · intro h
    by_contra h6
    have hcode : length.toUInt32 ≠ 6 := fun heq ↦ h6 (UInt8.toUInt32_inj.1 heq)
    rw [DtmVsSubcmd.ofCode, if_neg hcode] at h
    split_ifs at h <;> cases h
  · rintro rfl
    rfl

/-- **A refused vendor setting** has at most restored the defaults of the front-end module. -/
theorem dtmVendorSpecificPkt_refused {vendorOption : UInt32} {x : Ret × Device}
    (hl : carrierLength length = false)
    (h : dtmVendorSpecificPkt b length.toUInt32 vendorOption s = .ok x) (hret : x.1 ≠ .ok) :
    x.2 = { s with fem :=
      if b.fem = true ∧ length = 6 then
        { s.fem with gain := femUseDefaultGain, vendorRampUpTime := 0 }
      else s.fem } := by
  rw [dtmVendorSpecificPkt_other b vendorOption s hl] at h
  have hx := Except.ok.inj h
  by_cases h6 : length = 6
  · rw [ofCode_femDefaultParamsSet.2 h6] at hx
    rw [← hx, Option.elim_some, vendorSetting]
    cases hfem : b.fem with
    | false => simp
    | true => simp [h6]
  · rw [if_neg fun h ↦ h6 h.2]
    rcases hcmd : DtmVsSubcmd.ofCode length.toUInt32 with - | cmd
    · rw [hcmd] at hx
      rw [← hx]
      rfl
    · rw [hcmd, Option.elim_some] at hx
      have hne : cmd ≠ .femDefaultParamsSet := fun heq ↦
        h6 (ofCode_femDefaultParamsSet.1 (heq ▸ hcmd))
      rw [← hx] at hret ⊢
      exact vendorSetting_refused hne hret

/-! ### The refusals -/

/-- The defaults are restored to themselves, or the setting is another one. -/
theorem restored_eq_iff (b : Build) (length : UInt8) (fem : FemParameters) :
    (if b.fem = true ∧ length = 6 then
        { fem with gain := femUseDefaultGain, vendorRampUpTime := 0 } else fem) = fem ↔
      (b.fem = true → length = 6 → fem.gain = femUseDefaultGain ∧ fem.vendorRampUpTime = 0) := by
  split
  · next h =>
    simp only [h.1, h.2, true_imp_iff]
    constructor
    · intro heq
      exact ⟨(congrArg FemParameters.gain heq).symm,
        (congrArg FemParameters.vendorRampUpTime heq).symm⟩
    · rintro ⟨hgain, hramp⟩
      rw [← hgain, ← hramp]
  · next h => exact iff_of_true rfl fun hf h6 ↦ absurd ⟨hf, h6⟩ h

/-- Past the channel check all that is written counts. -/
theorem written_iff
    (hpast : resolvePacket s.radioMode pkt = .vendor ∨ channel.toNat ≤ physChMax) :
    Written b channel length pkt s ↔ Assigned channel length pkt s ∧ s.rxPktCount = 0 ∧
      PduWritten length pkt s ∧ FemWritten b length pkt s :=
  ⟨fun h ↦ ⟨h.assigned, h.prepared hpast⟩, fun h ↦ ⟨h.1, fun _ ↦ h.2⟩⟩

/-- **A refused transmitter test.** Whenever `dtm_test_transmit` returns an error, the fields of
`dtm_inst` are what they were exactly if the device is not idle or all that the call writes is there
already. -/
theorem dtmTestTransmit_refused_iff (b : Build) (channel length : UInt8) (pkt : DtmPacket)
    (s : Device) (x : Ret × Device) (h : dtmTestTransmit b channel length pkt s = .ok x)
    (hret : x.1 ≠ .ok) :
    SameInst s x.2 ↔ s.state ≠ .idle ∨ Written b channel length pkt s := by
  have hresult := dtmTestTransmit_result b channel length pkt s
  generalize dtmTestTransmit b channel length pkt s = r at h hresult
  cases hresult with
  | busy hs =>
    cases h
    exact iff_of_true (.refl s) (.inl hs)
  -- the four fields are stored, and nothing after the check is reached
  | channel hs hv hc =>
    cases h
    rw [transmitAssign_sameInst]
    constructor
    · exact fun h ↦ .inr ⟨h, fun hpast ↦ absurd hpast (not_or.2 ⟨hv, Nat.not_le.2 hc⟩)⟩
    · rintro (hbusy | hwritten)
      · exact absurd hs hbusy
      · exact hwritten.assigned
  | vendor hs hv =>
    have hpdu : PduWritten length pkt s ↔ (transmitState channel length pkt s).pdu = s.pdu := by
      rw [PduWritten, hv, transmitState_pdu_eq]
      rfl
    rw [or_iff_right (not_not.2 hs), written_iff (.inl hv), hpdu]
    -- a setting is refused with its fields stored; a carrier fails only by the gain
    cases hl : carrierLength length with
    | false =>
      rw [FemWritten, if_pos ⟨hv, hl⟩, dtmVendorSpecificPkt_refused hl h hret, ← restored_eq_iff]
      exact transmitState_sameInst (transmitState channel length pkt s).pdu _ s.radio
        s.anomalyTimer s.timer
    | true =>
      rw [dtmVendorSpecificPkt_carrier b _ _ hl] at h
      have hx := carrierTest_ok h
      split at hx
      · rw [FemWritten, if_neg (by simp [hl]), hx]
        exact transmitState_sameInst (transmitState channel length pkt s).pdu _ x.2.radio
          x.2.anomalyTimer s.timer
      · exact absurd (by rw [hx]) hret
  | modulated hs hv hc pdu hpdu =>
    obtain ⟨type, htype⟩ := exists_pduType hv
    -- the buffer is written before the gain is refused, so it counts as well
    have hbuffer : (transmitState channel length pkt s).pdu 0 = (s.pdu 0).set 1 length := by
      show (s.pdu 0).set 1 length.toUInt32.toUInt8 = _
      rw [UInt8.toUInt8_toUInt32]
    rw [hbuffer] at hpdu
    have hwritten : PduWritten length pkt s ↔
        (transmitPdu pdu (transmitState channel length pkt s)).pdu = s.pdu := by
      rw [PduWritten, htype]
      refine (pduCte_eq_iff htype hpdu).symm.trans ?_
      show _ ↔ Function.update (Function.update s.pdu 0 _) 0 (pduCte s.cteInfo pdu) = s.pdu
      rw [Function.update_idem, Function.update_eq_self_iff]
    rw [or_iff_right (not_not.2 hs), written_iff (.inr hc), hwritten, FemWritten,
      if_neg fun h ↦ hv h.1]
    have hx := modulatedTest_ok h
    split at hx
    · rw [hx]
      exact transmitState_sameInst (transmitPdu pdu (transmitState channel length pkt s)).pdu _
        x.2.radio x.2.anomalyTimer x.2.timer
    · exact absurd (by rw [hx]) hret

/-- Channel 40 right after the initialisation. -/
theorem dtmTestTransmit_refused_iff_40 :
    SameInst .nrf5340 (transmitAssign 40 37 .prbs9 .nrf5340) ↔
      Device.nrf5340.state ≠ .idle ∨ Written (.nrf5340 true false) 40 37 .prbs9 .nrf5340 :=
  dtmTestTransmit_refused_iff (.nrf5340 true false) 40 37 .prbs9 .nrf5340
    (.err .einval, transmitAssign 40 37 .prbs9 .nrf5340) rfl (by decide)

/-- The channel is stored although the test is refused. -/
theorem dtmTestTransmit_40 :
    dtmTestTransmit (.nrf5340 true false) 40 37 .prbs9 .nrf5340 =
        .ok (.err .einval, transmitAssign 40 37 .prbs9 .nrf5340) ∧
      ¬ SameInst .nrf5340 (transmitAssign 40 37 .prbs9 .nrf5340) :=
  ⟨rfl, fun h ↦ absurd h.physCh (by decide)⟩

end DirectTestMode
