import DirectTestMode.Dtm.Channel

/-!
# The settings machine

What a sequence of calls leaves in the library that a tester can ask about: the machine state, the
radio mode, the constant tone extension and antennas, the power, the channel and the length of a
packet, and the gain of the front-end module, which decides whether a test starts. `Settings` holds
these and `Settings.act` says what a call does to them, without the radio, the timers and the PDU.

`api_settings` says that the library refines this machine, fault for fault. Two sequences of calls
are then compared by running them on `Settings`.

## What is forgotten

A tester cannot ask for the registers, and two devices with the same settings may differ in them:
the same test may have been reached along different ways. So the comparison of two runs is one of
their settings, and whatever a test then sends is a function of these. The sample memory and the
callback of `struct dtm_cte_info` are set to fixed values in the abstraction, which keeps the
structure and forgets the two fields.

## What the machine says

Its definitions state what a command is for and not how it gets there: a reset gives the defaults, a
PHY is a radio mode, a refused setting changes nothing. Three kinds of fact about the library are
visible only in the refinement proof, and there is one lemma for each: that switching the
workarounds changes no setting, that the radio is initialised after the settings have been written,
and that a refused gain ends a test half-way without changing a setting.

The machine has the one fault that a setting can cause, the assertion on a channel, and the fault of
a power request without an answer.
-/

namespace DirectTestMode

open Fallible

/-! ### The abstract machine -/

/-- The settings in `struct dtm_cte_info`: all of it but the callback and the sample memory. -/
def DtmCteInfo.settings (c : DtmCteInfo) : DtmCteInfo :=
  { c with data := IqSamples.zero, iqRepCb := none }

/-- The settings of the library. -/
@[ext]
structure Settings where
  state : DtmState
  radioMode : RadioMode
  cte : DtmCteInfo
  txpower : UInt8
  physCh : UInt32
  packetLen : UInt32
  gain : UInt32

/-- The settings of a device. -/
def Device.settings (s : Device) : Settings where
  state := s.state
  radioMode := s.radioMode
  cte := s.cteInfo.settings
  txpower := s.txpower
  physCh := s.physCh
  packetLen := s.packetLen
  gain := s.fem.gain

namespace Settings

/-- The initialisation of the radio meets the assertion on the channel. -/
def InitFaults (b : Build) (v : Settings) : Prop :=
  b.powerControlAutomatic = true ∧ physChMax < v.physCh.toUInt8.toNat

instance (b : Build) (v : Settings) : Decidable (v.InitFaults b) :=
  inferInstanceAs (Decidable (_ ∧ _))

/-- An initialisation of the radio with new settings. -/
def init (b : Build) (v v' : Settings) : Except Fault Settings :=
  if v.InitFaults b then .error .channel else .ok v'

/-- A CTE type and a time, as `dtm_setup_set_cte_mode` takes them. -/
def setCteMode (b : Build) (type : DtmCteType) (time : UInt8) (c : DtmCteInfo) : DtmCteInfo :=
  if !b.directionFinding then c
  else if type = .none then { c with mode := .off }
  else if time.toNat < cteLengthMin ∨ cteLengthMax < time.toNat then c
  else { c with
    time := time
    mode := type.mode
    slot := type.slotAfter c.slot
    info := type.info time }

/-- A slot, by its number. -/
def setCteSlot (b : Build) (slot : UInt8) (c : DtmCteInfo) : DtmCteInfo :=
  if !b.directionFinding then c
  else match DtmCteSlotDuration.ofCode slot with
    | some .us1 => { c with slot := .us1 }
    | some .us2 => { c with slot := .us2 }
    | none => c

/-- The antennas, when the build has them. -/
def setAntennaParams (b : Build) (count : UInt8) (pattern : PatternPtr) (patternLen : UInt8)
    (c : DtmCteInfo) : DtmCteInfo :=
  if !b.directionFinding then c
  else if b.antNum.toNat < count.toNat then c
  else if pattern = .null then c
  else if patternLen = 0 then c
  else { c with
    antennaNumber := count
    antennaPattern := pattern
    antennaPatternLen := patternLen }

/-- The front-end module refuses the gain. -/
def gainRefused (b : Build) (gain : UInt32) : Bool :=
  b.fem && gain != femUseDefaultGain && !b.powerControlAutomatic && b.femLib.txGainSet gain != .ok

/-- A vendor command other than the carrier test. -/
def vendor (b : Build) (vendorCmd : DtmVsSubcmd) (vendorOption : UInt32) (v : Settings) :
    Settings :=
  match vendorCmd with
  | .setTxPower =>
    if b.powerControlAutomatic || v.state.testing ||
        !dtmHwRadioValidate b (txpowerOctet vendorOption) v.radioMode then v
    else { v with txpower := txpowerOctet vendorOption }
  | .femGainSet =>
    if !b.fem || b.powerControlAutomatic then v else { v with gain := vendorOption }
  | .femDefaultParamsSet => if !b.fem then v else { v with gain := femUseDefaultGain }
  | _ => v

/-- `dtm_test_transmit` from idle, its channel and length stored. -/
def transmit (b : Build) (channel length : UInt8) (packet : DtmPacket) (v : Settings) :
    Except Fault Settings :=
  if packet = .vendor then
    if carrierLength length then
      if physChMax < channel.toNat then .error .channel
      else if gainRefused b v.gain then .ok v
      else .ok { v with state := .carrierTest }
    else
      .ok ((DtmVsSubcmd.ofCode length.toUInt32).elim v fun cmd ↦ v.vendor b cmd channel.toUInt32)
  else if physChMax < channel.toNat || gainRefused b v.gain then .ok v
  else .ok { v with state := .transmitterTest }

/-- The effect of a call. -/
def act (b : Build) (v : Settings) : Call → Except Fault Settings
  | .setupPrepare => .ok { v with state := .idle }
  | .setupReset =>
    v.init b { v with
      packetLen := 0
      radioMode := .ble1Mbit
      cte := if b.directionFinding then DtmCteInfo.zero else v.cte }
  | .setupSetPhy phy =>
    if phy.supported b then v.init b { v with radioMode := phy.radioMode } else .ok v
  | .setupSetCteMode type time => .ok { v with cte := setCteMode b type time v.cte }
  | .setupSetCteSlot slot => .ok { v with cte := setCteSlot b slot v.cte }
  | .setupSetAntennaParams count pattern patternLen =>
    .ok { v with cte := setAntennaParams b count pattern patternLen v.cte }
  | .setupSetTransmitPower power val channel => do
    let frequency ← radioFrequencyGet channel
    let txpower ← txPowerRequested b power val frequency
    pure { v with txpower := txpower }
  | .testReceive channel =>
    if physChMax < channel.toNat then .ok v
    else .ok { v with physCh := channel.toUInt32, state := .receiverTest }
  | .testTransmit channel length pkt =>
    if v.state ≠ .idle then .ok v
    else
      { v with physCh := channel.toUInt32, packetLen := length.toUInt32 }.transmit b channel length
        (resolvePacket v.radioMode pkt)
  | .testEnd packCnt => if packCnt then .ok { v with state := .idle } else .ok v
  | .init _ _ | .setupSetModulation _ | .setupReadFeatures
  | .setupReadMaxSupportedValue _ _ => .ok v

end Settings

/-! ### What the calls keep -/

theorem Settings.vendor_eq (b : Build) (vendorCmd : DtmVsSubcmd) (vendorOption : UInt32)
    (v : Settings) :
    ∃ txpower gain, v.vendor b vendorCmd vendorOption =
      { v with txpower := txpower, gain := gain } := by
  unfold vendor
  cases vendorCmd <;> simp only <;> (repeat' split) <;> exact ⟨_, _, rfl⟩

/-- The set-up calls leave the machine state. -/
theorem Settings.act_state {b : Build} {v v' : Settings} {c : Call} (hc : c.isSetup = true)
    (h : v.act b c = .ok v') : v'.state = v.state := by
  cases c with
  | setupReset =>
    simp only [Settings.act, Settings.init] at h
    split at h
    · cases h
    · cases h
      rfl
  | setupSetPhy phy =>
    simp only [Settings.act, Settings.init] at h
    split_ifs at h
    · cases h
      rfl
    · cases h
      rfl
  | setupSetTransmitPower power val channel =>
    obtain ⟨frequency, -, h⟩ := bind_eq_ok.1 h
    obtain ⟨level, -, h⟩ := bind_eq_ok.1 h
    cases h
    rfl
  | init | setupSetModulation | setupReadFeatures | setupReadMaxSupportedValue
  | setupSetCteMode | setupSetCteSlot | setupSetAntennaParams =>
    cases h
    rfl
  | setupPrepare | testReceive | testTransmit | testEnd => cases hc

/-! ### The refinement -/

theorem errataHandle_settings (b : Build) (e191 e172 e117 : Bool) (s : Device) :
    (errataHandle b e191 e172 e117 s).settings = s.settings := by
  rw [errataHandle_eq]
  rfl

/-- The initialisation of the radio changes no setting. -/
theorem radioInit_settings (b : Build) {s : Device} {v : Settings} (hv : v.physCh = s.physCh) :
    (radioInit b s).map (fun x ↦ x.2.settings) = v.init b s.settings := by
  rcases h : radioInit b s with e | x
  · obtain ⟨rfl, hfault⟩ := radioInit_error.1 h
    rw [← hv] at hfault
    exact (if_pos hfault).symm
  · have hfault : ¬ v.InitFaults b := fun hfault ↦ by
      rw [Settings.InitFaults, hv] at hfault
      exact nomatch (radioInit_error.2 ⟨rfl, hfault⟩).symm.trans h
    rw [Settings.init, if_neg hfault]
    rcases radioInit_cases h with rfl | ⟨-, hx, -⟩
    · rfl
    · rw [Except.map, hx]
      rfl

/-- The shape of `dtm_setup_reset` and `dtm_setup_set_phy`, on the settings. -/
theorem setupInit_settings (b : Build) (e191 e172 e117 : Bool) {s t : Device}
    (ht : t.physCh = s.physCh) :
    (radioInit b (errataHandle b e191 e172 e117 t)).map (fun x ↦ x.2.settings) =
      s.settings.init b t.settings := by
  have hphysCh : s.settings.physCh = (errataHandle b e191 e172 e117 t).physCh :=
    (((errataHandle_keepsTest b e191 e172 e117 t).physCh).trans ht).symm
  rw [radioInit_settings b hphysCh, errataHandle_settings]

theorem dtmSetupReset_settings (b : Build) (s : Device) :
    (dtmSetupReset b s).map (fun x ↦ x.2.settings) = s.settings.act b .setupReset := by
  rw [dtmSetupReset, setupInit_settings (s := s) b false false false (by rfl), Settings.act]
  refine congrArg (s.settings.init b) ?_
  rw [Device.settings]
  cases b.directionFinding <;> rfl

/-- A change of PHY, refined. A PHY that the chip lacks changes nothing. -/
theorem dtmSetupSetPhy_settings (b : Build) (phy : DtmPhy) (s : Device) :
    (dtmSetupSetPhy b phy s).map (fun x ↦ x.2.settings) = s.settings.act b (.setupSetPhy phy) := by
  rw [Settings.act]
  cases phy with
  | phy1m | phy2m =>
    rw [dtmSetupSetPhy, setupInit_settings (s := s) b _ _ _ (by rfl), DtmPhy.supported, if_pos rfl]
    rfl
  | codedS8 | codedS2 =>
    rw [dtmSetupSetPhy, DtmPhy.supported]
    split
    · rw [setupInit_settings (s := s) b _ _ _ (by rfl)]
      rfl
    · rfl

theorem dtmSetupSetCteMode_settings (b : Build) (type : DtmCteType) (time : UInt8) (s : Device) :
    (dtmSetupSetCteMode b type time s).2.settings =
      { s.settings with cte := Settings.setCteMode b type time s.settings.cte } := by
  rw [dtmSetupSetCteMode, Settings.setCteMode]
  split_ifs <;> rfl

theorem dtmSetupSetCteSlot_settings (b : Build) (slot : UInt8) (s : Device) :
    (dtmSetupSetCteSlot b slot s).2.settings =
      { s.settings with cte := Settings.setCteSlot b slot s.settings.cte } := by
  rw [dtmSetupSetCteSlot, Settings.setCteSlot]
  split
  · rfl
  · rcases DtmCteSlotDuration.ofCode slot with - | - | - <;> rfl

theorem dtmSetupSetAntennaParams_settings (b : Build) (count : UInt8) (pattern : PatternPtr)
    (patternLen : UInt8) (s : Device) :
    (dtmSetupSetAntennaParams b count pattern patternLen s).2.settings =
      { s.settings with
        cte := Settings.setAntennaParams b count pattern patternLen s.settings.cte } := by
  rw [dtmSetupSetAntennaParams, Settings.setAntennaParams]
  split_ifs <;> rfl

/-- A power request, refined: both sides ask for the same frequency and the same level, so both
fail alike. -/
theorem dtmSetupSetTransmitPower_settings (b : Build) (power : DtmTxPowerRequest) (val : Int8)
    (channel : UInt8) (s : Device) :
    (dtmSetupSetTransmitPower b power val channel s).map (fun x ↦ x.2.settings) =
      s.settings.act b (.setupSetTransmitPower power val channel) := by
  rw [dtmSetupSetTransmitPower, Settings.act]
  rcases radioFrequencyGet channel with e | frequency
  · rfl
  · rw [ok_bind, ok_bind]
    cases txPowerRequested b power val frequency <;> rfl

/-- A receiver test, refined. It stores its channel only when it starts. -/
theorem dtmTestReceive_settings (b : Build) (channel : UInt8) (s : Device) :
    (dtmTestReceive b channel s).map (fun x ↦ x.2.settings) =
      s.settings.act b (.testReceive channel) := by
  rcases Nat.lt_or_ge physChMax channel.toNat with hc | hc
  · rw [dtmTestReceive_illegal b s hc, Settings.act, if_pos hc]
    rfl
  · obtain ⟨radio, -, heq⟩ := dtmTestReceive_legal b s hc
    rw [heq, Settings.act, if_neg (Nat.not_lt.2 hc), Except.map, receiveState, Device.settings]
    simp only [femRampUp_gain]
    rfl

/-- The vendor commands but the carrier test. Selecting an antenna and a ramp-up time are no
settings: a tester cannot tell them. -/
theorem vendorSetting_settings (b : Build) (vendorCmd : DtmVsSubcmd) (vendorOption : UInt32)
    (s : Device) :
    (vendorSetting b vendorCmd vendorOption s).2.settings =
      s.settings.vendor b vendorCmd vendorOption := by
  cases vendorCmd with
  | carrierTest | carrierTestStudio => rfl
  | setTxPower =>
    rw [vendorSetting, dtmSetTxpower]
    show _ = if b.powerControlAutomatic || s.state.testing ||
        !dtmHwRadioValidate b (txpowerOctet vendorOption) s.radioMode then s.settings
      else { s.settings with txpower := txpowerOctet vendorOption }
    cases b.powerControlAutomatic <;> cases s.state.testing <;>
      cases dtmHwRadioValidate b (txpowerOctet vendorOption) s.radioMode <;> rfl
  | femGainSet =>
    rw [vendorSetting, Settings.vendor]
    cases b.fem <;> cases b.powerControlAutomatic <;> rfl
  | femAntennaSelect | femRampUpSet =>
    rw [vendorSetting]
    cases b.fem <;> rfl
  | femDefaultParamsSet =>
    rw [vendorSetting, Settings.vendor]
    cases b.fem <;> rfl

/-- A carrier test, refined. The refused gain leaves the machine idle. -/
theorem carrierTest_settings (b : Build) {channel length : UInt8} {s : Device}
    (hs : s.physCh = channel.toUInt32) (hl : carrierLength length = true) :
    (carrierTest b s).map (fun x ↦ x.2.settings) =
      s.settings.transmit b channel length .vendor := by
  have hchannel : s.physCh.toUInt8.toNat = channel.toNat := by
    rw [hs, UInt8.toUInt8_toUInt32]
  rw [Settings.transmit, if_pos rfl, if_pos hl]
  rcases h : carrierTest b s with e | x
  · obtain ⟨rfl, hc⟩ := carrierTest_error.1 h
    rw [hchannel] at hc
    exact (if_pos hc).symm
  · have hc : ¬ physChMax < channel.toNat := fun hc ↦ by
      rw [← hchannel] at hc
      exact nomatch (carrierTest_error.2 ⟨rfl, hc⟩).symm.trans h
    rw [if_neg hc, Except.map, carrierTest_ok h]
    show _ = if femGainRefused b s then _ else _
    split
    · simp only [Device.settings, femRampUp_gain]
    · simp only [Device.settings, femRampUp_gain]

/-- A modulated test, refined. Its interval is always found, so the only fault left is the
channel, which has been checked. -/
theorem modulatedTest_settings (b : Build) {channel length : UInt8} {packet : DtmPacket}
    {s : Device} (hs : s.physCh = channel.toUInt32) (hlen : s.packetLen.toNat ≤ 255)
    (hc : channel.toNat ≤ physChMax) (hv : packet ≠ .vendor) :
    (modulatedTest b s).map (fun x ↦ x.2.settings) =
      s.settings.transmit b channel length packet := by
  rw [Settings.transmit, if_neg hv, decide_eq_false (Nat.not_lt.2 hc), Bool.false_or]
  rcases h : modulatedTest b s with e | x
  · have hlt := ((modulatedTest_error hlen).1 h).2
    rw [hs, UInt8.toUInt8_toUInt32] at hlt
    exact absurd hc (Nat.not_le.2 hlt)
  · rw [Except.map, modulatedTest_ok h]
    show _ = if femGainRefused b s then _ else _
    split
    · simp only [Device.settings, femRampUp_gain]
    · simp only [Device.settings, femRampUp_gain]

/-- A transmit call, refined: one case for each of its four ways. -/
theorem dtmTestTransmit_settings (b : Build) (channel length : UInt8) (pkt : DtmPacket)
    (s : Device) :
    (dtmTestTransmit b channel length pkt s).map (fun x ↦ x.2.settings) =
      s.settings.act b (.testTransmit channel length pkt) := by
  have hresult := dtmTestTransmit_result b channel length pkt s
  generalize dtmTestTransmit b channel length pkt s = r at hresult ⊢
  show _ = if s.state ≠ .idle then .ok s.settings else
    (transmitState channel length pkt s).settings.transmit b channel length
      (resolvePacket s.radioMode pkt)
  cases hresult with
  | busy hs =>
    rw [if_pos hs]
    rfl
  | channel hs hv hc =>
    rw [if_neg (not_not.2 hs), Settings.transmit, if_neg hv, decide_eq_true hc]
    rfl
  | vendor hs hv =>
    rw [if_neg (not_not.2 hs), hv]
    cases hl : carrierLength length with
    | true =>
      rw [dtmVendorSpecificPkt_carrier b _ _ hl]
      exact carrierTest_settings b rfl hl
    | false =>
      rw [dtmVendorSpecificPkt_other b _ _ hl, Settings.transmit, if_pos rfl, hl]
      cases DtmVsSubcmd.ofCode length.toUInt32 with
      | none => rfl
      | some cmd => exact congrArg Except.ok (vendorSetting_settings b cmd channel.toUInt32
          (transmitState channel length pkt s))
  -- the PDU is no setting, so its contents do not matter here
  | modulated hs hv hc pdu hpdu =>
    rw [if_neg (not_not.2 hs)]
    exact modulatedTest_settings (s := transmitPdu pdu (transmitState channel length pkt s)) b rfl
      (toNat_toUInt32_le length) hc hv

/-- **The library refines the settings machine**, fault for fault. -/
theorem api_settings {b : Build} {c : Call} {s : Device}
    (hinit : ∀ env callback, c = .init env callback → s.timerInit = true) :
    (api b c s).map (fun x ↦ x.2.settings) = s.settings.act b c := by
  cases c with
  | init env callback =>
    obtain ⟨e, he⟩ := dtmInit_again b env callback (hinit env callback rfl)
    rw [api, he]
    rfl
  | setupPrepare | setupSetModulation | setupReadFeatures | setupReadMaxSupportedValue => rfl
  | setupReset => exact dtmSetupReset_settings b s
  | setupSetPhy phy => exact dtmSetupSetPhy_settings b phy s
  | setupSetCteMode type time =>
    exact congrArg Except.ok (dtmSetupSetCteMode_settings b type time s)
  | setupSetCteSlot slot => exact congrArg Except.ok (dtmSetupSetCteSlot_settings b slot s)
  | setupSetAntennaParams count pattern patternLen =>
    exact congrArg Except.ok (dtmSetupSetAntennaParams_settings b count pattern patternLen s)
  | setupSetTransmitPower power val channel =>
    exact dtmSetupSetTransmitPower_settings b power val channel s
  | testReceive channel => exact dtmTestReceive_settings b channel s
  | testTransmit channel length pkt => exact dtmTestTransmit_settings b channel length pkt s
  | testEnd packCnt => cases packCnt <;> rfl

end DirectTestMode
