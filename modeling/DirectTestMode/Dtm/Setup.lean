import DirectTestMode.Dtm.Radio

/-!
# Initialisation and the set-up functions

`dtm_init` and the `dtm_setup_*` functions. A function that returns a value through a pointer
returns an `Except Errno` of that value; the pointer itself is a `Bool`, true when it is not null.
The answers of the drivers and libraries that `dtm_init` calls are an argument of it, `InitEnv`, so
a statement about an initialisation holds whichever driver fails.

## The frame

None of the set-up functions but `dtm_setup_prepare` looks at the machine state, and none touches
the running test: `KeepsTest` says which fields survive, and each function has its frame lemma. That
a set-up command may come in the middle of a test and change what its next packet looks like is thus
visible in the model: the fields that `KeepsTest` leaves out are those that such a command can
change.

## Inversion

`radio_init` ends most of the functions, and it either refuses and changes nothing or resets the
radio and the packet counter (`radioInit_cases`). It also fails, on an illegal channel under
automatic power control (`radioInit_error`). The channel it looks at is the one of the last test, so
a reset and a change of PHY can stop the device for what an earlier call has left behind.

`dtmInit_ok` and `dtmInit_again` are what reachability starts from: the first initialisation gives a
device in a known state, and a second one changes nothing.
-/

namespace DirectTestMode

open Fallible

/-! ### Initialisation -/

/-- What the drivers and libraries that `dtm_init` calls answer. -/
structure InitEnv where
  clock : Ret
  timer : Bool
  anomalyTimer : Bool
  gppiChannelAlloc : Bool
  fem : Ret

/-- The timer driver is brought up once; a second attempt is refused. -/
def timerInit (env : InitEnv) (s : Device) : Ret × Device :=
  if s.timerInit || !env.timer then (.err .eagain, s) else (.ok, { s with timerInit := true })

/-- The tail of `dtm_init`, once every driver is up. -/
def dtmInitRadio (b : Build) (callback : Option CodePtr) (s : Device) :
    Except Fault (Ret × Device) := do
  let s := { s with
    txpower := if b.powerControlAutomatic then b.femLib.defaultTxGainGet else s.txpower }
  let (err, s) ← radioInit b s
  if err ≠ .ok then pure (err, s)
  else pure (.ok, { s with
    state := .idle
    packetLen := 0
    cteInfo := { s.cteInfo with iqRepCb := callback } })

/-- The drivers are brought up in the source's order, and the first one that fails ends the
initialisation with its error. -/
def dtmInit (b : Build) (env : InitEnv) (callback : Option CodePtr) (s : Device) :
    Except Fault (Ret × Device) :=
  if env.clock ≠ .ok then .ok (env.clock, s)
  else
    let (err, s) := timerInit env s
    if err ≠ .ok then .ok (err, s)
    -- the timer driver is up from here on, also when a later driver fails
    else if b.errata172Present && !env.anomalyTimer then .ok (.err .eagain, s)
    else if !env.gppiChannelAlloc then .ok (.err .eagain, s)
    else if b.fem && env.fem != .ok then .ok (env.fem, s)
    else dtmInitRadio b callback s

/-- The device that a first `dtm_init` leaves behind when it succeeds. -/
def Initialised (b : Build) (s : Device) : Prop :=
  ∃ env callback, dtmInit b env callback Device.powerOn = .ok (.ok, s)

/-- **A second initialisation changes nothing**: the timer driver is already running. -/
theorem dtmInit_again (b : Build) (env : InitEnv) (callback : Option CodePtr) {s : Device}
    (h : s.timerInit = true) : ∃ e, dtmInit b env callback s = .ok (.err e, s) := by
  rw [dtmInit, timerInit]
  rcases hc : env.clock with - | e
  · exact ⟨.eagain, by simp [h]⟩
  · exact ⟨e, by simp⟩

/-- Every driver answers. -/
def InitEnv.ready : InitEnv := ⟨.ok, true, true, true, .ok⟩

/-- An nRF5340 device after its initialisation. -/
def Device.nrf5340 : Device where
  __ := Device.powerOn
  state := .idle
  timerInit := true
  radio := { Radio.reset with mode := .ble1Mbit, packetConf := radioPacketConf Device.powerOn }

/-- The device above is what a first initialisation leaves behind. -/
theorem Device.nrf5340_initialised (directionFinding fem : Bool) :
    Initialised (.nrf5340 directionFinding fem) .nrf5340 := by
  refine ⟨.ready, none, ?_⟩
  cases fem <;> rfl

/-! ### Ending and resetting -/

/-- `dtm_setup_prepare` ends whatever test runs. It does so from the idle state too. -/
def dtmSetupPrepare (b : Build) (s : Device) : Device := dtmTestDone b s

/-- The three errata workarounds, in the order the set-up functions switch them. -/
def errataHandle (b : Build) (e191 e172 e117 : Bool) (s : Device) : Device :=
  errata117Handle b e117 (errata172Handle b e172 (errata191Handle b e191 s))

/-- The defaults of a reset: the 1M PHY, no upper length bits, no constant tone extension, the
workarounds off. Where direction finding is built in, the whole `struct dtm_cte_info` is zeroed. -/
def dtmSetupReset (b : Build) (s : Device) : Except Fault (Ret × Device) :=
  let s := { s with
    packetLen := 0
    radioMode := .ble1Mbit
    packetHdrPlen := .bit8
    cteInfo := if b.directionFinding then DtmCteInfo.zero else s.cteInfo }
  radioInit b (errataHandle b false false false s)

/-! ### PHY, modulation and features -/

/-- A PHY is stored with its preamble, the workarounds are switched for it, and the radio is
initialised. The coded PHYs are refused on a chip without them. -/
def dtmSetupSetPhy (b : Build) (phy : DtmPhy) (s : Device) : Except Fault (Ret × Device) :=
  match phy with
  | .phy1m =>
    let s := { s with radioMode := .ble1Mbit, packetHdrPlen := .bit8 }
    radioInit b (errataHandle b false false false s)
  | .phy2m =>
    let s := { s with radioMode := .ble2Mbit, packetHdrPlen := .bit16 }
    radioInit b (errataHandle b false false true s)
  | .codedS8 =>
    if b.hasBleCoded then
      let s := { s with radioMode := .bleLr125Kbit, packetHdrPlen := .longRange }
      radioInit b (errataHandle b true true false s)
    else .ok (.err .enotsup, s)
  | .codedS2 =>
    if b.hasBleCoded then
      let s := { s with radioMode := .bleLr500Kbit, packetHdrPlen := .longRange }
      radioInit b (errataHandle b true true false s)
    else .ok (.err .enotsup, s)

/-- Only the standard modulation index is supported. -/
def dtmSetupSetModulation (modulation : DtmModulation) : Ret :=
  if modulation ≠ .standard then .err .enotsup else .ok

/-- The features follow from the build alone. -/
def dtmSetupReadFeatures (b : Build) : DtmSuppFeatures where
  dataLenExt := true
  phy2m := true
  stableMod := false
  codedPhy := b.hasBleCoded
  cte := b.directionFinding
  antSwitching := b.directionFinding
  aod1usTx := b.directionFinding
  aod1usRx := b.directionFinding
  aoa1usRx := b.directionFinding

/-- `NRF_MAX_PAYLOAD_OCTETS`. -/
def nrfMaxPayloadOctets : UInt16 := 0x00FF

/-- `NRF_CTE_MAX_LENGTH`. -/
def nrfCteMaxLength : UInt16 := 0x0014

/-- The limits follow from the build alone. -/
def dtmSetupReadMaxSupportedValue (b : Build) (parameter : DtmMaxSupported) (maxVal : Bool) :
    Except Errno UInt16 :=
  if !maxVal then .error .einval
  else match parameter with
    | .txOctets => .ok nrfMaxPayloadOctets
    | .txTime => .ok b.maxRxTxTime
    | .rxOctets => .ok nrfMaxPayloadOctets
    | .rxTime => .ok b.maxRxTxTime
    | .cteLength => if b.directionFinding then .ok nrfCteMaxLength else .error .enotsup

/-! ### Constant tone extension -/

/-- `CTE_LENGTH_MIN`, in units of 8 us. -/
def cteLengthMin : ℕ := 0x02
/-- `CTE_LENGTH_MAX`. -/
def cteLengthMax : ℕ := 0x14

/-- The CTE mode that a type other than none selects. -/
def DtmCteType.mode : DtmCteType → DtmCteMode
  | .none => .off | .aoa => .aoa | .aod1us => .aod | .aod2us => .aod

/-- The sample slot after a CTE type is set: only the AoD types carry one. -/
def DtmCteType.slotAfter (type : DtmCteType) (slot : DtmCteSlot) : DtmCteSlot :=
  match type with
  | .none => slot | .aoa => slot | .aod1us => .us1 | .aod2us => .us2

/-- The CTEInfo octet of a CTE type and a time. -/
def DtmCteType.info (type : DtmCteType) (time : UInt8) : UInt8 :=
  (time &&& (0x1F : UInt8)) ||| ((type.mode.code &&& (0x03 : UInt8)) <<< (6 : UInt8))

/-- A CTE type other than none is stored with its time, its slot and its CTEInfo octet, when the
time is a legal one. The type none turns the mode off and leaves the rest. -/
def dtmSetupSetCteMode (b : Build) (type : DtmCteType) (time : UInt8) (s : Device) :
    Ret × Device :=
  if !b.directionFinding then
    if type ≠ .none then (.err .enotsup, s) else (.ok, s)
  else if type = .none then (.ok, { s with cteInfo := { s.cteInfo with mode := .off } })
  else if time.toNat < cteLengthMin ∨ cteLengthMax < time.toNat then (.err .einval, s)
  else (.ok, { s with cteInfo := { s.cteInfo with
    time := time
    mode := type.mode
    slot := type.slotAfter s.cteInfo.slot
    info := type.info time } })

/-- `slot` is the number of an `enum dtm_cte_slot_duration`. -/
def dtmSetupSetCteSlot (b : Build) (slot : UInt8) (s : Device) : Ret × Device :=
  if !b.directionFinding then (.err .enotsup, s)
  else match DtmCteSlotDuration.ofCode slot with
    | some .us1 => (.ok, { s with cteInfo := { s.cteInfo with slot := .us1 } })
    | some .us2 => (.ok, { s with cteInfo := { s.cteInfo with slot := .us2 } })
    | none => (.err .einval, s)

/-- The antenna parameters are stored when the build has that many antennas and the pattern is
one. -/
def dtmSetupSetAntennaParams (b : Build) (count : UInt8) (pattern : PatternPtr)
    (patternLen : UInt8) (s : Device) : Ret × Device :=
  if !b.directionFinding then (.err .enotsup, s)
  else if b.antNum.toNat < count.toNat then (.err .enotsup, s)
  else if pattern = .null then (.err .einval, s)
  else if patternLen = 0 then (.err .einval, s)
  else (.ok, { s with cteInfo := { s.cteInfo with
    antennaNumber := count
    antennaPattern := pattern
    antennaPatternLen := patternLen } })

/-! ### Transmit power -/

/-- The level a power request selects. -/
def txPowerRequested (b : Build) (power : DtmTxPowerRequest) (val : Int8) (frequency : UInt16) :
    Except Fault UInt8 :=
  let txPowerMin := dtmRadioMinPowerGet b frequency
  let txPowerMax := dtmRadioMaxPowerGet b frequency
  match power with
  | .min => .ok txPowerMin.toUInt8
  | .max => .ok txPowerMax.toUInt8
  | .val =>
    if val.toInt ≤ txPowerMin.toInt then .ok txPowerMin.toUInt8
    else if txPowerMax.toInt ≤ val.toInt then .ok txPowerMax.toUInt8
    else do
      let level ← dtmRadioNearestPowerGet b val frequency
      pure level.toUInt8

/-- The answer to a request. A request for a value falls through to the empty answer; the two
others compare the stored level, which is unsigned, with the signed limits. -/
def txPowerAnswer (b : Build) (power : DtmTxPowerRequest) (txpower : UInt8)
    (frequency : UInt16) : DtmTxPower :=
  match power with
  | .val => ⟨0, false, false⟩
  | _ =>
    if (txpower.toNat : ℤ) = (dtmRadioMinPowerGet b frequency).toInt then
      ⟨txpower.toInt8, true, false⟩
    else if (txpower.toNat : ℤ) = (dtmRadioMaxPowerGet b frequency).toInt then
      ⟨txpower.toInt8, false, true⟩
    else ⟨txpower.toInt8, false, false⟩

/-- The level a request selects is stored and the answer computed from it. The channel gives the
frequency that the front-end module is asked about. -/
def dtmSetupSetTransmitPower (b : Build) (power : DtmTxPowerRequest) (val : Int8)
    (channel : UInt8) (s : Device) : Except Fault (DtmTxPower × Device) := do
  let frequency ← radioFrequencyGet channel
  let txpower ← txPowerRequested b power val frequency
  pure (txPowerAnswer b power txpower frequency, { s with txpower := txpower })

/-! ### The frame of the set-up functions -/

/-- The fields that every set-up function leaves alone: the machine state, the channel, the
buffers and counters of the test, and what the radio is triggered by. -/
structure KeepsTest (s s' : Device) : Prop where
  state : s'.state = s.state
  crcErrorCount : s'.crcErrorCount = s.crcErrorCount
  pdu : s'.pdu = s.pdu
  currentPdu : s'.currentPdu = s.currentPdu
  packetType : s'.packetType = s.packetType
  physCh : s'.physCh = s.physCh
  fem : s'.fem = s.fem
  ppiRadioStart : s'.ppiRadioStart = s.ppiRadioStart
  timer : s'.timer = s.timer
  timerInit : s'.timerInit = s.timerInit
  patterns : s'.patterns = s.patterns
  iqReports : s'.iqReports = s.iqReports

namespace KeepsTest

theorem refl (s : Device) : KeepsTest s s := by
  constructor <;> rfl

theorem trans {s s' s'' : Device} (h : KeepsTest s s') (h' : KeepsTest s' s'') :
    KeepsTest s s'' where
  state := h'.state.trans h.state
  crcErrorCount := h'.crcErrorCount.trans h.crcErrorCount
  pdu := h'.pdu.trans h.pdu
  currentPdu := h'.currentPdu.trans h.currentPdu
  packetType := h'.packetType.trans h.packetType
  physCh := h'.physCh.trans h.physCh
  fem := h'.fem.trans h.fem
  ppiRadioStart := h'.ppiRadioStart.trans h.ppiRadioStart
  timer := h'.timer.trans h.timer
  timerInit := h'.timerInit.trans h.timerInit
  patterns := h'.patterns.trans h.patterns
  iqReports := h'.iqReports.trans h.iqReports

end KeepsTest

/-- `errataHandle` writes the trim registers and the anomaly 172 fields only. -/
theorem errataHandle_eq (b : Build) (e191 e172 e117 : Bool) (s : Device) :
    errataHandle b e191 e172 e117 s = { s with
      strictMode := (errataHandle b e191 e172 e117 s).strictMode
      anomalyTimer := (errataHandle b e191 e172 e117 s).anomalyTimer
      anomaly172WaEnabled := (errataHandle b e191 e172 e117 s).anomaly172WaEnabled
      radio := { s.radio with
        trim117 := (errataHandle b e191 e172 e117 s).radio.trim117
        trim191 := (errataHandle b e191 e172 e117 s).radio.trim191 } } := by
  rw [errataHandle, errata117Handle, errata172Handle, errata191Handle, anomaly172StrictModeSet]
  repeat' split
  all_goals rfl

/-- **What `radio_init` leaves behind**: it refuses and changes nothing, or it resets the radio and
the packet counter. -/
theorem radioInit_cases {b : Build} {s : Device} {x : Ret × Device} (h : radioInit b s = .ok x) :
    x = (.err .einval, s) ∨
      (x.1 = .ok ∧ x.2 = { s with rxPktCount := 0, radio := x.2.radio } ∧
        x.2.radio.mode = s.radioMode) := by
  rw [radioInit] at h
  split at h
  · cases h
    exact .inl rfl
  · obtain ⟨radio, -, h⟩ := bind_eq_ok.1 h
    cases h
    exact .inr ⟨rfl, rfl, rfl⟩

/-- The radio is initialised, or refused, unless the automatic power control asks for the frequency
of an illegal channel. -/
theorem radioInit_error {b : Build} {s : Device} {e : Fault} :
    radioInit b s = .error e ↔
      .channel = e ∧ b.powerControlAutomatic = true ∧ physChMax < s.physCh.toUInt8.toNat := by
  rw [radioInit]
  split
  · rename_i h
    simp only [Bool.and_eq_true, Bool.not_eq_true'] at h
    simp [h.2]
  · rw [bind_eq_error, radioTxPowerSet_error]
    simp [radioReset]

/-- Initialising the radio keeps the test. It does reset the packet counter, which is why the
counter is not in the frame. -/
theorem radioInit_keepsTest {b : Build} {s : Device} {x : Ret × Device}
    (h : radioInit b s = .ok x) : KeepsTest s x.2 := by
  rcases radioInit_cases h with rfl | ⟨-, hx, -⟩
  · exact .refl s
  · rw [hx]
    constructor <;> rfl

theorem errataHandle_keepsTest (b : Build) (e191 e172 e117 : Bool) (s : Device) :
    KeepsTest s (errataHandle b e191 e172 e117 s) := by
  rw [errataHandle_eq]
  constructor <;> rfl

/-- The shape of `dtm_setup_reset` and `dtm_setup_set_phy`: the settings are written, the
workarounds switched and the radio initialised. -/
theorem setupInit_keepsTest {b : Build} {e191 e172 e117 : Bool} {s s' : Device}
    {x : Ret × Device} (hs : KeepsTest s s')
    (h : radioInit b (errataHandle b e191 e172 e117 s') = .ok x) : KeepsTest s x.2 :=
  hs.trans ((errataHandle_keepsTest b e191 e172 e117 s').trans (radioInit_keepsTest h))

theorem dtmSetupReset_keepsTest {b : Build} {s : Device} {x : Ret × Device}
    (h : dtmSetupReset b s = .ok x) : KeepsTest s x.2 :=
  setupInit_keepsTest (by constructor <;> rfl) h

theorem errataHandle_radioMode (b : Build) (e191 e172 e117 : Bool) (s : Device) :
    (errataHandle b e191 e172 e117 s).radioMode = s.radioMode := by
  rw [errataHandle_eq]

/-- A reset selects the 1M PHY, also when the radio refuses it. -/
theorem dtmSetupReset_radioMode {b : Build} {s : Device} {x : Ret × Device}
    (h : dtmSetupReset b s = .ok x) : x.2.radioMode = .ble1Mbit := by
  have hmode := errataHandle_radioMode b false false false { s with
    packetLen := 0
    radioMode := .ble1Mbit
    packetHdrPlen := .bit8
    cteInfo := if b.directionFinding then DtmCteInfo.zero else s.cteInfo }
  rcases radioInit_cases h with rfl | ⟨-, hx, -⟩
  · exact hmode
  · rw [hx]
    exact hmode

theorem dtmSetupReset_error {b : Build} {s : Device} {e : Fault} :
    dtmSetupReset b s = .error e ↔
      .channel = e ∧ b.powerControlAutomatic = true ∧ physChMax < s.physCh.toUInt8.toNat := by
  rw [dtmSetupReset]
  rw [radioInit_error, (errataHandle_keepsTest b _ _ _ _).physCh]

theorem dtmSetupSetPhy_keepsTest {b : Build} {phy : DtmPhy} {s : Device} {x : Ret × Device}
    (h : dtmSetupSetPhy b phy s = .ok x) : KeepsTest s x.2 := by
  cases phy with
  | phy1m => exact setupInit_keepsTest (by constructor <;> rfl) h
  | phy2m => exact setupInit_keepsTest (by constructor <;> rfl) h
  | codedS8 | codedS2 =>
    simp only [dtmSetupSetPhy] at h
    split at h
    · exact setupInit_keepsTest (by constructor <;> rfl) h
    · cases h
      exact .refl s

/-- **What a CTE type other than none writes** when the library takes it. -/
theorem dtmSetupSetCteMode_ok {b : Build} {type : DtmCteType} (htype : type ≠ .none) {time : UInt8}
    {s s' : Device} (h : dtmSetupSetCteMode b type time s = (.ok, s')) :
    b.directionFinding = true ∧ cteLengthMin ≤ time.toNat ∧ time.toNat ≤ cteLengthMax ∧
      s' = { s with cteInfo := { s.cteInfo with
        time := time
        mode := type.mode
        slot := type.slotAfter s.cteInfo.slot
        info := type.info time } } := by
  rw [dtmSetupSetCteMode] at h
  split_ifs at h with hdf htime
  · cases h
  · cases h
  · cases h
    simp only [Bool.not_eq_true', Bool.not_eq_false] at hdf
    exact ⟨hdf, by omega, by omega, rfl⟩

/-- A power request writes the power level. -/
theorem dtmSetupSetTransmitPower_ok {b : Build} {power : DtmTxPowerRequest} {val : Int8}
    {channel : UInt8} {s : Device} {x : DtmTxPower × Device}
    (h : dtmSetupSetTransmitPower b power val channel s = .ok x) :
    x.2 = { s with txpower := x.2.txpower } := by
  obtain ⟨frequency, -, h⟩ := bind_eq_ok.1 h
  obtain ⟨level, -, h⟩ := bind_eq_ok.1 h
  cases h
  rfl

/-! ### Which radio modes are accepted -/

/-- The radio mode of a PHY. -/
def DtmPhy.radioMode : DtmPhy → RadioMode
  | phy1m => .ble1Mbit | phy2m => .ble2Mbit | codedS8 => .bleLr125Kbit | codedS2 => .bleLr500Kbit

/-- The PHYs of a build. -/
def DtmPhy.supported (b : Build) : DtmPhy → Bool
  | phy1m => true | phy2m => true | codedS8 => b.hasBleCoded | codedS2 => b.hasBleCoded

/-- A PHY that `dtm_setup_set_phy` takes at a power level. -/
def dtmPhyAccepted (b : Build) (txpower : UInt8) (phy : DtmPhy) : Bool :=
  phy.supported b && (dtmHwRadioValidate b txpower phy.radioMode || b.powerControlAutomatic)

/-- The radio is initialised exactly when the chip has the mode and the level, or the power
control is automatic. -/
theorem radioInit_ret {b : Build} {s : Device} {x : Ret × Device} (h : radioInit b s = .ok x) :
    x.1 = .ok ↔
      (dtmHwRadioValidate b s.txpower s.radioMode || b.powerControlAutomatic) = true := by
  rw [radioInit] at h
  split at h
  · rename_i hv
    cases h
    simp only [Bool.and_eq_true, Bool.not_eq_true'] at hv
    simp [hv]
  · rename_i hv
    obtain ⟨radio, -, h⟩ := bind_eq_ok.1 h
    cases h
    simp only [Bool.and_eq_true, Bool.not_eq_true', not_and, Bool.not_eq_false] at hv
    cases hmode : dtmHwRadioValidate b s.txpower s.radioMode with
    | true => simp
    | false => simp [hv hmode]

/-- **A PHY is set exactly when it is accepted**, and the power level stays. -/
theorem dtmSetupSetPhy_ret {b : Build} {phy : DtmPhy} {s : Device} {x : Ret × Device}
    (h : dtmSetupSetPhy b phy s = .ok x) :
    (x.1 = .ok ↔ dtmPhyAccepted b s.txpower phy = true) ∧ x.2.txpower = s.txpower := by
  have hinit {t : Device} {e191 e172 e117 : Bool}
      (h : radioInit b (errataHandle b e191 e172 e117 t) = .ok x) (hphy : phy.supported b = true)
      (ht : t.txpower = s.txpower ∧ t.radioMode = phy.radioMode) :
      (x.1 = .ok ↔ dtmPhyAccepted b s.txpower phy = true) ∧ x.2.txpower = s.txpower := by
    have herrata : (errataHandle b e191 e172 e117 t).txpower = t.txpower := by
      rw [errataHandle_eq]
    refine ⟨?_, ?_⟩
    · rw [radioInit_ret h, errataHandle_radioMode, herrata, ht.1, ht.2, dtmPhyAccepted, hphy,
        Bool.true_and]
    · rcases radioInit_cases h with rfl | ⟨-, hx, -⟩
      · exact herrata.trans ht.1
      · rw [hx]
        exact herrata.trans ht.1
  cases phy with
  | phy1m => exact hinit h rfl ⟨rfl, rfl⟩
  | phy2m => exact hinit h rfl ⟨rfl, rfl⟩
  | codedS8 | codedS2 =>
    simp only [dtmSetupSetPhy] at h
    split at h
    · exact hinit h ‹_› ⟨rfl, rfl⟩
    · rename_i hcoded
      cases h
      simp [dtmPhyAccepted, DtmPhy.supported, Bool.eq_false_iff.2 hcoded]

theorem dtmInitRadio_ok {b : Build} {callback : Option CodePtr} {s s' : Device}
    (h : dtmInitRadio b callback s = .ok (.ok, s')) :
    ∃ radio, s' = { s with
      state := .idle
      rxPktCount := 0
      packetLen := 0
      txpower := if b.powerControlAutomatic then b.femLib.defaultTxGainGet else s.txpower
      radio := radio
      cteInfo := { s.cteInfo with iqRepCb := callback } } := by
  obtain ⟨⟨err, t⟩, ht, h⟩ := bind_eq_ok.1 h
  rcases radioInit_cases ht with ht | ⟨hok, ht, -⟩
  · cases ht
    cases h
  · generalize t.radio = radio at ht
    cases hok
    cases ht
    cases h
    exact ⟨radio, rfl⟩

/-- An initialisation leaves the machine state alone or makes the machine idle. It needs no
assumption on the drivers. -/
theorem dtmInit_state {b : Build} {env : InitEnv} {callback : Option CodePtr} {s : Device}
    {x : Ret × Device} (h : dtmInit b env callback s = .ok x) :
    x.2.state = s.state ∨ x.2.state = .idle := by
  have htimer : (timerInit env s).2.state = s.state := by
    rw [timerInit]
    split <;> rfl
  rw [dtmInit] at h
  simp only at h
  split_ifs at h
  all_goals first | (cases h; exact .inl rfl) | (cases h; exact .inl htimer) | skip
  obtain ⟨⟨err, t⟩, ht, h⟩ := bind_eq_ok.1 h
  have hstate : t.state = s.state := (radioInit_keepsTest ht).state.trans htimer
  simp only at h
  split at h
  · cases h
    exact .inl hstate
  · cases h
    exact .inr rfl

/-- Every driver is up when the initialisation of the radio decides. -/
theorem dtmInit_ok_radio {b : Build} {env : InitEnv} {callback : Option CodePtr} {s s' : Device}
    (h : dtmInit b env callback s = .ok (.ok, s')) :
    dtmInitRadio b callback { s with timerInit := true } = .ok (.ok, s') := by
  have hret {r : Ret} {t : Device}
      (h : (.ok (r, t) : Except Fault (Ret × Device)) = .ok (.ok, s')) :
      r = .ok := (Prod.mk.inj (Except.ok.inj h)).1
  rw [dtmInit, timerInit] at h
  simp only at h
  split at h
  · exact absurd (hret h) ‹_›
  · split at h
    · cases h
    · simp only [ne_eq, not_true_eq_false, if_false] at h
      split_ifs at h with h1 h2 h3
      · cases h
      · cases h
      · simp [hret h] at h3
      · exact h

/-- The device after a successful initialisation. -/
theorem dtmInit_ok {b : Build} {env : InitEnv} {callback : Option CodePtr} {s s' : Device}
    (h : dtmInit b env callback s = .ok (.ok, s')) :
    ∃ radio, s' = { s with
      state := .idle
      timerInit := true
      rxPktCount := 0
      packetLen := 0
      txpower := if b.powerControlAutomatic then b.femLib.defaultTxGainGet else s.txpower
      radio := radio
      cteInfo := { s.cteInfo with iqRepCb := callback } } :=
  dtmInitRadio_ok (dtmInit_ok_radio h)

end DirectTestMode
