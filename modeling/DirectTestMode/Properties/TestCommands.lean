import DirectTestMode.Properties.Loopback
import DirectTestMode.Properties.Session
import DirectTestMode.Transport.HciRun

/-!
# What a test command asks for, and what runs

A test command over HCI names a channel, a PHY, a constant tone extension and, for a Transmitter
Test, a payload. `RxAsAsked` and `TxAsAsked` say of the device that it does what the parameters ask
for; they are about the codes of the commands and know nothing of the enumerations of the library.

A command that is answered with success leaves such a device behind, but for two numberings that the
transport hands through as if they were the library's own: the slot durations of a reception, and
the CTE type on the air.

## Codes against numbers

`askedMode` and `askedCteMode` give the meaning of a code as the commands define it, and the lemmas
beside them say that the transport's own tables agree. Where it has no table it casts:

* the slot durations of a command are 1 and 2, and the library's enumeration of slots begins with 0.
  So a command for slots of 1 us sets those of 2 us, and is answered with success; one for 2 us
  names no enumerator and is refused, so that it is not among the commands of the result;
* the CTEInfo octet is made from the number of the library's mode, which agrees with the code of the
  command for one of the three (`info_eq_iff`).

## What it rests on

A successful run of a handler has passed each link of its chain, and `RxLinks` and `TxLinks` of
`Transport.HciRun` are the states in between. `rxLinks_asAsked_iff` and `txLinks_asAsked_iff` go
through them, so that the result holds of all versions at once: a version is only a way to fill in
the parameters. The octets that are sent come from `Properties.Loopback`, and the CP bit, which
tells a receiver that there is an extension, from the buffer that is patched (`pduFill_cpBit`).
-/

namespace DirectTestMode

open Fallible Hci

variable {b : Build} {q : ℕ}

/-! ### The codes -/

/-- The radio mode of a PHY code. -/
def askedMode (phy : UInt8) : Option RadioMode :=
  if phy = 0x01 then some .ble1Mbit
  else if phy = 0x02 then some .ble2Mbit
  else if phy = 0x03 then some .bleLr125Kbit
  else if phy = 0x04 then some .bleLr500Kbit
  else none

/-- The kind of extension of a CTE type code. -/
def askedCteMode (cteType : UInt8) : Option DtmCteMode :=
  if cteType = 0x00 then some .aoa
  else if cteType = 0x01 then some .aod
  else if cteType = 0x02 then some .aod
  else none

/-- The transport's table of PHYs is that of the commands. -/
theorem askedMode_eq {phy : UInt8} {p : DtmPhy} (h : phyOf phy = some p) :
    askedMode phy = some p.radioMode := by
  rw [phyOf] at h
  split_ifs at h with h1 h2 h3 h4
  all_goals
    cases h
    first | rw [h1] | rw [h2] | rw [h3] | rw [h4]
    rfl

/-- So is its table of extensions, up to the kind. -/
theorem askedCteMode_eq {cteType : UInt8} {type : DtmCteType} (h : cteTypeOf cteType = some type) :
    askedCteMode cteType = some type.mode := by
  rw [cteTypeOf] at h
  split_ifs at h with h0 h1 h2
  all_goals
    cases h
    first | rw [h0] | rw [h1] | rw [h2]
    rfl

/-! ### Receiver Test -/

/-- The device receives as the parameters ask for. -/
structure RxAsAsked (p : RxParams) (s : Device) : Prop where
  state : s.state = .receiverTest
  channel : s.physCh = p.chan.toUInt32
  radioMode : askedMode p.phy = some s.radioMode
  cteOff : p.cteLen = 0 → s.cteInfo.mode = .off
  cteMode : p.cteLen ≠ 0 → askedCteMode p.cteType = some s.cteInfo.mode
  cteTime : p.cteLen ≠ 0 → s.cteInfo.time = p.cteLen
  slot1us : p.cteLen ≠ 0 → p.slotDurations = 1 → s.cteInfo.slot = .us1
  slot2us : p.cteLen ≠ 0 → p.slotDurations = 2 → s.cteInfo.slot = .us2
  pattern : p.cteLen ≠ 0 → s.cteInfo.antennaPattern = .hci ∧
    s.cteInfo.antennaPatternLen = p.patternLen ∧
    s.patterns.hci.slice 0 p.patternLen.toNat = some ((List.range p.patternLen.toNat).map p.pattern)

/-- The settings that a test has are those it was started with. -/
theorem dtmTestReceive_started {channel : UInt8} {s s' : Device}
    (h : dtmTestReceive b channel s = .ok (.ok, s')) :
    s'.state = .receiverTest ∧ s'.physCh = channel.toUInt32 ∧ KeepsSettings s s' := by
  have hkeeps := dtmTestReceive_keepsSettings h
  rcases Nat.lt_or_ge physChMax channel.toNat with hc | hc
  · cases (dtmTestReceive_illegal b s hc).symm.trans h
  · obtain ⟨radio, -, heq⟩ := dtmTestReceive_legal b s hc
    cases heq.symm.trans h
    exact ⟨rfl, rfl, hkeeps⟩

/-- A command without an extension leaves none on. -/
theorem cteSet_mode_eq_off {s s₁ s₂ : Device} (hs : s.Inv b) {phy : DtmPhy}
    (hset : dtmSetupSetPhy b phy (dtmSetupPrepare b s) = .ok (.ok, s₁))
    {cteLen cteType patternLen : UInt8} {pattern : ℕ → UInt8}
    (hcte : CteSet b cteLen cteType patternLen pattern s₁ s₂) :
    s₂.cteInfo.mode = .off ↔ cteLen = 0 := by
  constructor
  · intro hoff
    by_contra hon
    obtain ⟨type, htype, -, hmode, -⟩ := hcte.on hon
    have hne := cteTypeOf_ne_none htype
    rw [hoff] at hmode
    cases type with
    | none => exact hne rfl
    | aoa | aod1us | aod2us => cases hmode
  · intro hnone
    rw [hcte.off hnone, dtmSetupSetPhy_cteInfo hset]
    cases hdf : b.directionFinding with
    | false => exact hs.cteOff hdf
    | true => rfl

/-- **A Receiver Test receives as asked exactly when its slots are not of 1 us.** -/
theorem rxLinks_asAsked_iff {p : RxParams} {s s' : Device} (hs : s.Inv b)
    (h : RxLinks b p s s') : RxAsAsked p s' ↔ p.cteLen = 0 ∨ p.slotDurations ≠ 1 := by
  obtain @⟨phy, s₁, s₂, s₃, hphy, hset, -, -, hcte, hslot, hreceive⟩ := h
  obtain ⟨hstate, hchannel, hkeeps⟩ := dtmTestReceive_started hreceive
  have hmode₂ : askedMode p.phy = some s₂.radioMode := by
    rw [hcte.keeps, askedMode_eq hphy]
    exact congrArg some (dtmSetupSetPhy_radioMode hset).symm
  rcases hslot with ⟨hnone, hsame⟩ | ⟨hon, slot, hcode, hs₃⟩
  · refine iff_of_true ⟨hstate, hchannel, ?_, fun _ ↦ ?_, ?_, ?_, ?_, ?_, ?_⟩ (.inl hnone)
    · rw [hkeeps.radioMode, hsame, hmode₂]
    · rw [hkeeps.cteInfo, hsame]
      exact (cteSet_mode_eq_off hs hset hcte).2 hnone
    all_goals exact fun hon ↦ absurd hnone hon
  · obtain ⟨type, htype, -, hmode, htime, -, hptr, hlen, hslice⟩ := hcte.on hon
    have hcteInfo : s'.cteInfo = { s₂.cteInfo with slot := slot } := by rw [hkeeps.cteInfo, hs₃]
    have hslot : s'.cteInfo.slot = slot := by rw [hcteInfo]
    constructor
    -- the code of 1 us is the number of the library's 2 us
    · refine fun hasked ↦ .inr fun hone ↦ ?_
      rcases hcode with ⟨hzero, -⟩ | ⟨-, hus2⟩
      · cases hzero.symm.trans hone
      · cases hus2.symm.trans (hslot.symm.trans (hasked.slot1us hon hone))
    · intro hcond
      have hne : p.slotDurations ≠ 1 := hcond.resolve_left hon
      have hzero : p.slotDurations = 0 := (hcode.resolve_right fun h ↦ hne h.1).1
      refine ⟨hstate, hchannel, ?_, fun h ↦ absurd h hon, fun _ ↦ ?_, fun _ ↦ ?_, ?_, ?_,
        fun _ ↦ ?_⟩
      · rw [hkeeps.radioMode, hs₃, hmode₂]
      · rw [askedCteMode_eq htype, hcteInfo, ← hmode]
      · rw [hcteInfo]
        exact htime
      · exact fun _ hone ↦ absurd hone hne
      · intro _ htwo
        cases hzero.symm.trans htwo
      · rw [hcteInfo, hkeeps.patterns, hs₃]
        exact ⟨hptr, hlen, hslice⟩

/-- **A Receiver Test that is answered with success**, of any version and in any state of the
firmware. -/
theorem rx_test_as_asked_iff {f f' : Firmware} (hf : f.Reachable b q) {buf : ℕ → UInt8} {op : HciOp}
    (hop : cmdOpcode buf = op.code) {p : RxParams} (hp : rxParams op (fun i ↦ buf (3 + i)) = some p)
    {ret : Ret} (hrun : f.process b q h4TypeCmd buf = .ok (ret, f'))
    (hanswer : Answers b q f buf errSuccess) :
    RxAsAsked p f'.device ↔ p.cteLen = 0 ∨ p.slotDurations ≠ 1 := by
  have hprocess := dtmTrProcess_rx hop hp
  obtain ⟨h', hstatus⟩ := (answers_iff (rxTestStatus_silent p) hprocess).1 hanswer
  rw [process_device hprocess hstatus hrun]
  exact rxLinks_asAsked_iff hf.inv (rxTestStatus_ok hstatus)

/-- A Receiver Test, version 1, on channel 5. -/
def rxTestV1 : List UInt8 := [0x1D, 0x20, 0x01, 0x05]

/-- A Receiver Test, version 3, on the coded PHY, with an AoA extension of 16 us, slots of 1 us and
two antennas. -/
def rxTestV3 : List UInt8 :=
  [0x4F, 0x20, 0x09, 0x05, 0x03, 0x00, 0x02, 0x00, 0x01, 0x02, 0x01, 0x02]

/-- The same command with zero for the slots, which is the library's number of 1 us. -/
def rxTestV3Slots : List UInt8 :=
  [0x4F, 0x20, 0x09, 0x05, 0x03, 0x00, 0x02, 0x00, 0x00, 0x02, 0x01, 0x02]

/-- A Receiver Test with an extension, inside the condition: the coded PHY, AoA of 16 us and a
pattern of two antennas, all set as asked. -/
theorem rx_test_as_asked_iff_v3 :
    ∃ p ret f', rxParams .leRxTestV3 (fun i ↦ rxTestV3Slots.getD (3 + i) 0) = some p ∧
      (Firmware.ofDevice .nrf5340).process (.nrf5340 true false) 1024 h4TypeCmd
        (rxTestV3Slots.getD · 0) = .ok (ret, f') ∧
      p.cteLen ≠ 0 ∧ RxAsAsked p f'.device ∧ f'.device.cteInfo.mode = .aoa ∧
      f'.device.cteInfo.antennaPatternLen = 2 := by
  have hop : cmdOpcode (rxTestV3Slots.getD · 0) = HciOp.leRxTestV3.code := by decide
  refine ⟨_, _, _, rfl, rfl, by decide, ?_, rfl, rfl⟩
  refine (rx_test_as_asked_iff (q := 1024)
    (Firmware.ofDevice_reachable (Device.nrf5340_initialised true false)) hop rfl rfl ?_).2
    (.inr (by decide))
  exact (answers_iff (rxTestStatus_silent _) (dtmTrProcess_rx hop rfl)).2 ⟨_, rfl⟩

/-- **Slots of 1 us are set to 2 us.** -/
theorem rx_test_slots_doubled :
    (Firmware.ofDevice .nrf5340).Reachable (.nrf5340 true false) 1024 ∧
    ∃ p ret f', rxParams .leRxTestV3 (fun i ↦ rxTestV3.getD (3 + i) 0) = some p ∧
      (Firmware.ofDevice .nrf5340).process (.nrf5340 true false) 1024 h4TypeCmd
        (rxTestV3.getD · 0) = .ok (ret, f') ∧
      Answers (.nrf5340 true false) 1024 (.ofDevice .nrf5340) (rxTestV3.getD · 0) errSuccess ∧
      p.slotDurations = 1 ∧ f'.device.cteInfo.slot = .us2 ∧ ¬ RxAsAsked p f'.device := by
  have hop : cmdOpcode (rxTestV3.getD · 0) = HciOp.leRxTestV3.code := by decide
  refine ⟨Firmware.ofDevice_reachable (Device.nrf5340_initialised true false), _, _, _, rfl, rfl,
    ?_,
    rfl, rfl, fun hasked ↦ ?_⟩
  · exact (answers_iff (rxTestStatus_silent _) (dtmTrProcess_rx hop rfl)).2 ⟨_, rfl⟩
  · have hslot := hasked.slot1us (by decide) rfl
    cases hslot

/-! ### Transmitter Test -/

/-- The device transmits as the parameters ask for; `pdu` is what the radio sends. -/
structure TxAsAsked (p : TxParams) (s : Device) (pdu : DtmPdu) : Prop where
  state : s.state = .transmitterTest
  channel : s.physCh = p.chan.toUInt32
  radioMode : askedMode p.phy = some s.radioMode
  sent : s.radio.packetPtr.map s.pdu = some pdu
  payload : ∃ type : DtmPduType, type.code = p.payload ∧
    PduHolds type p.dataLen (if p.cteLen = 0 then 2 else 3) pdu
  cpBit : pdu 0 &&& 0x20 = if p.cteLen = 0 then 0 else 0x20
  cteInfo : p.cteLen ≠ 0 → pdu 2 = p.cteLen ||| (p.cteType <<< 6)

/-- The payload of a code is a packet type of its own, never one that the radio mode decides. -/
theorem hciToDtmPayload_ok {code : UInt8} {pld : DtmPacket} (h : hciToDtmPayload code = .ok pld) :
    ∃ type, pld.pduType = some type ∧ type.code = code := by
  rw [hciToDtmPayload] at h
  split_ifs at h with h0 h1 h2 h3 h4 h5 h6 h7
  all_goals
    cases h
    exact ⟨_, rfl, Eq.symm ‹_›⟩

/-- Such a packet is not resolved again, and no vendor packet. -/
theorem resolvePacket_of_pduType {pkt : DtmPacket} {type : DtmPduType}
    (h : pkt.pduType = some type) (radioMode : RadioMode) :
    resolvePacket radioMode pkt = pkt ∧ pkt ≠ .vendor := by
  cases pkt with
  | ffOrVendor | vendor => cases h
  | prbs9 | pkt0F | pkt55 | prbs15 | ff | pkt00 | pktF0 | pktAA => exact ⟨rfl, by decide⟩

/-- A test packet is on the air, and the front-end module took the gain. -/
theorem dtmTestTransmit_transmitting {channel length : UInt8} {pkt : DtmPacket} {s s' : Device}
    (hv : resolvePacket s.radioMode pkt ≠ .vendor)
    (h : dtmTestTransmit b channel length pkt s = .ok (.ok, s')) :
    s'.state = .transmitterTest ∧ s'.physCh = channel.toUInt32 ∧ femGainRefused b s = false := by
  generalize hx : (Ret.ok, s') = x at h
  cases dtmTestTransmit_ok h with
  | busy | channel | refused => cases hx
  | setting hs hv' | carrier hs hv' => exact absurd hv' hv
  | modulated hs hv hc hgain =>
    cases hx
    exact ⟨rfl, rfl, hgain⟩

/-- The CP bit tells whether there is an extension. -/
theorem pduFill_cpBit {pkt : DtmPacket} {type : DtmPduType} (hpkt : pkt.pduType = some type)
    {off len : ℕ} (hoff : 2 ≤ off) {pdu pdu' : DtmPdu} (h : pduFill pkt off len pdu = some pdu')
    (cte : DtmCteInfo) :
    pduCte cte pdu' 0 &&& 0x20 = if cte.mode = .off then 0 else 0x20 := by
  obtain ⟨hcode, -, -⟩ := pduFill_holds hpkt hoff h
  rw [pduCte]
  by_cases hmode : cte.mode = .off
  · rw [if_neg (not_not.2 hmode), if_pos hmode, hcode]
    cases type <;> rfl
  · rw [if_pos hmode, if_neg hmode]
    show (pdu' 0 ||| 0x20) &&& 0x20 = 0x20
    rw [hcode]
    cases type <;> rfl

/-- The CTEInfo octet has the number of the CTE mode where the command has that of the type. -/
theorem info_eq_iff {cteType : UInt8} {type : DtmCteType} (htype : cteTypeOf cteType = some type)
    {time : UInt8} (htime : time.toNat ≤ cteLengthMax) :
    type.info time = time ||| (cteType <<< 6) ↔ cteType = 2 := by
  have hall {type : DtmCteType} {cteType : UInt8} (h : ∀ t < 21,
      (type.info (UInt8.ofNat t) = UInt8.ofNat t ||| (cteType <<< 6) ↔ cteType = 2)) :
      type.info time = time ||| (cteType <<< 6) ↔ cteType = 2 := by
    have ht := h time.toNat (Nat.lt_succ_of_le htime)
    rwa [UInt8.ofNat_toNat] at ht
  rw [cteTypeOf] at htype
  split_ifs at htype with h0 h1 h2
  · cases htype
    rw [h0]
    exact hall (by decide)
  · cases htype
    rw [h1]
    exact hall (by decide)
  · cases htype
    rw [h2]
    exact hall (by decide)

/-- **A Transmitter Test sends what was asked for exactly when its extension is of the one type that
both sides number alike.** -/
theorem txLinks_asAsked_iff {p : TxParams} {s s' : Device} (hs : s.Inv b) (h : TxLinks b p s s') :
    (∃ pdu, TxAsAsked p s' pdu) ↔ p.cteLen = 0 ∨ p.cteType = 2 := by
  obtain @⟨pld, phy, request, answer, s₁, s₂, s₃, hpayload, hphy, hset, -, hcte, -, hpower,
    htransmit⟩ := h
  obtain ⟨type, htype, hcode⟩ := hciToDtmPayload_ok hpayload
  obtain ⟨hresolve, hv⟩ := resolvePacket_of_pduType htype s₃.radioMode
  rw [← hresolve] at hv
  obtain ⟨hstate, hchannel, -⟩ := dtmTestTransmit_transmitting hv htransmit
  have hptr := dtmTestTransmit_packetPtr hv htransmit
  have hkeeps := dtmTestTransmit_keepsSettings htransmit
  have hs₃ : s₃ = { s₂ with txpower := s₃.txpower } := dtmSetupSetTransmitPower_ok hpower
  have hcteInfo : s₃.cteInfo = s₂.cteInfo := by rw [hs₃]
  have hradioMode : s₃.radioMode = s₂.radioMode := by rw [hs₃]
  have hmode : askedMode p.phy = some s'.radioMode := by
    rw [hkeeps.radioMode, hradioMode, hcte.keeps, askedMode_eq hphy]
    exact congrArg some (dtmSetupSetPhy_radioMode hset).symm
  obtain ⟨pdu, hfill, hpdu⟩ := dtmTestTransmit_started htransmit hstate
  obtain ⟨type', htype', hholds, hinfo⟩ := dtmTestTransmit_holds htransmit hstate
  rw [hresolve] at hfill htype'
  cases htype.symm.trans htype'
  rw [hcteInfo] at hfill hpdu hholds hinfo
  have hoff : s₂.cteInfo.mode = .off ↔ p.cteLen = 0 := cteSet_mode_eq_off hs hset hcte
  have hlen : headerLen s₂.cteInfo.mode = if p.cteLen = 0 then 2 else 3 := by
    rw [headerLen, ite_not, if_congr hoff rfl rfl]
  -- all but the CTEInfo octet is as asked
  have hasked : (∃ pdu, TxAsAsked p s' pdu) ↔
      (p.cteLen ≠ 0 → s'.pdu 0 2 = p.cteLen ||| (p.cteType <<< 6)) := by
    have hsent : s'.radio.packetPtr.map s'.pdu = some (s'.pdu 0) := by rw [hptr, Option.map_some]
    constructor
    · rintro ⟨pdu', hasked⟩
      cases hsent.symm.trans hasked.sent
      exact hasked.cteInfo
    · intro hoctet
      refine ⟨s'.pdu 0, hstate, hchannel, hmode, hsent, ⟨type, hcode, hlen ▸ hholds⟩, ?_, hoctet⟩
      rw [hpdu, pduFill_cpBit htype (by rw [headerLen]; split <;> decide) hfill,
        if_congr hoff rfl rfl]
  rw [hasked]
  by_cases hnone : p.cteLen = 0
  · exact iff_of_true (fun hon ↦ absurd hnone hon) (.inl hnone)
  · obtain ⟨cteType, hcteType, hmax, -, -, hoctet, -⟩ := hcte.on hnone
    have hon : s₂.cteInfo.mode ≠ .off := mt hoff.1 hnone
    rw [hinfo hon, hoctet]
    simp only [hnone, ne_eq, not_false_iff, forall_true_left, false_or]
    exact info_eq_iff hcteType hmax

/-- **A Transmitter Test that is answered with success**, of any version and in any state of the
firmware. -/
theorem tx_test_as_asked_iff {f f' : Firmware} (hf : f.Reachable b q) {buf : ℕ → UInt8} {op : HciOp}
    (hop : cmdOpcode buf = op.code) {p : TxParams} (hp : txParams op (fun i ↦ buf (3 + i)) = some p)
    {ret : Ret} (hrun : f.process b q h4TypeCmd buf = .ok (ret, f'))
    (hanswer : Answers b q f buf errSuccess) :
    (∃ pdu, TxAsAsked p f'.device pdu) ↔ p.cteLen = 0 ∨ p.cteType = 2 := by
  have hprocess := dtmTrProcess_tx hop hp
  obtain ⟨h', hstatus⟩ := (answers_iff (txTestStatus_silent p) hprocess).1 hanswer
  rw [process_device hprocess hstatus hrun]
  exact txLinks_asAsked_iff hf.inv (txTestStatus_ok hstatus)

/-- A Transmitter Test, version 3, of four octets `0x0F` on the coded PHY, with an AoA extension of
16 us and two antennas. -/
def txTestV3 : List UInt8 :=
  [0x50, 0x20, 0x09, 0x05, 0x04, 0x01, 0x03, 0x02, 0x00, 0x02, 0x01, 0x02]

/-- The same command with the CTE type 2, AoD with slots of 2 us. -/
def txTestV3Aod2 : List UInt8 :=
  [0x50, 0x20, 0x09, 0x05, 0x04, 0x01, 0x03, 0x02, 0x02, 0x02, 0x01, 0x02]

/-- A Transmitter Test with an extension, inside the condition: the PDU announces the extension that
the command asked for, with its octet in place. -/
theorem tx_test_as_asked_iff_v3 :
    ∃ p ret f', txParams .leTxTestV3 (fun i ↦ txTestV3Aod2.getD (3 + i) 0) = some p ∧
      (Firmware.ofDevice .nrf5340).process (.nrf5340 true false) 1024 h4TypeCmd
        (txTestV3Aod2.getD · 0) = .ok (ret, f') ∧
      p.cteLen ≠ 0 ∧ (∃ pdu, TxAsAsked p f'.device pdu) ∧ f'.device.pdu 0 2 = 0x82 := by
  have hop : cmdOpcode (txTestV3Aod2.getD · 0) = HciOp.leTxTestV3.code := by decide
  refine ⟨_, _, _, rfl, rfl, by decide, ?_, rfl⟩
  refine (tx_test_as_asked_iff (q := 1024)
    (Firmware.ofDevice_reachable (Device.nrf5340_initialised true false)) hop rfl rfl ?_).2
    (.inr rfl)
  exact (answers_iff (txTestStatus_silent _) (dtmTrProcess_tx hop rfl)).2 ⟨_, rfl⟩

/-- **AoA is announced as the CTE type 3**, which the command has no code for. -/
theorem tx_test_aoa_renumbered :
    (Firmware.ofDevice .nrf5340).Reachable (.nrf5340 true false) 1024 ∧
    ∃ p ret f', txParams .leTxTestV3 (fun i ↦ txTestV3.getD (3 + i) 0) = some p ∧
      (Firmware.ofDevice .nrf5340).process (.nrf5340 true false) 1024 h4TypeCmd
        (txTestV3.getD · 0) = .ok (ret, f') ∧
      Answers (.nrf5340 true false) 1024 (.ofDevice .nrf5340) (txTestV3.getD · 0) errSuccess ∧
      p.cteLen ||| (p.cteType <<< 6) = 0x02 ∧ f'.device.pdu 0 2 = 0xC2 ∧
      ¬ ∃ pdu, TxAsAsked p f'.device pdu := by
  have hop : cmdOpcode (txTestV3.getD · 0) = HciOp.leTxTestV3.code := by decide
  refine ⟨Firmware.ofDevice_reachable (Device.nrf5340_initialised true false), _, _, _, rfl, rfl,
    ?_,
    rfl, rfl, ?_⟩
  · exact (answers_iff (txTestStatus_silent _) (dtmTrProcess_tx hop rfl)).2 ⟨_, rfl⟩
  · rintro ⟨pdu, hasked⟩
    have hptr := hasked.sent
    have hoctet := hasked.cteInfo (by decide)
    cases hptr
    cases hoctet

end DirectTestMode
