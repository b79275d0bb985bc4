import DirectTestMode.Dtm.Types

/-!
# The radio, the PPI channel and the errata workarounds

The static functions of `dtm.c` that drive the registers, and the table functions of `dtm_hw.c`.
Each one is written as the source computes it, with the source's order of writes where a later write
overrides an earlier one.

## Faults

Two assertions are reached from here. `radio_frequency_get` stops the device on a channel above
`physChMax`, and the search for a power level stops it when it finds none. So a function that tunes
the radio or sets its power returns `Except Fault`, and everything else is total.

## What the proofs rewrite with

Preparing the radio is the longest function here, and most invariants of the device have to pass it.
No later proof unfolds it: next to it stand the lemmas that say when it fails (`radioPrepare_error`)
and which record update it amounts to (`radioPrepare_tx`, `radioPrepare_rx`, `radioPrepare_radio`).
The right-hand sides of those equations mention the new state's own registers where a proof does not
care for their values, so that a change of the power control leaves the lemmas as they are.

## The PPI channel

`radio_ppi_clear`, `radio_ppi_configure` and `radio_tx_ppi_reconfigure` are written over the
endpoint operations of `nrfx_gppi`: a set-up attaches exactly the endpoints it names and a clear
detaches exactly the one it names. The channel is a set of endpoints on purpose: whether a test
leaves one attached is a question about the sets, and it has no answer in a model that only keeps
whether the channel is on.
-/

namespace DirectTestMode

open Fallible

/-! ### Tables of the chip (`dtm_hw.c`) -/

/-- Whether a mode is one of the coded ones of a chip that has them. -/
def dtmHwRadioLrCheck (b : Build) (radioMode : RadioMode) : Bool :=
  b.hasBleCoded && (radioMode == .bleLr125Kbit || radioMode == .bleLr500Kbit)

/-- Whether the chip has the mode, and the power level is one of its table. The level is compared
as an unsigned number, as the table holds it. -/
def dtmHwRadioValidate (b : Build) (txPower : UInt8) (radioMode : RadioMode) : Bool :=
  ((b.hasBleCoded && (radioMode == .bleLr125Kbit || radioMode == .bleLr500Kbit)) ||
    radioMode == .ble1Mbit || radioMode == .ble2Mbit) &&
  b.nrfPowerValue.any fun p ↦ txPower.toUInt32 == p

/-- The first entry of the table; the tables of the chips are ascending. -/
def dtmHwRadioMinPowerGet (b : Build) : UInt32 := b.nrfPowerValue.headD 0

/-- The last entry of the table. -/
def dtmHwRadioMaxPowerGet (b : Build) : UInt32 := b.nrfPowerValue.getLastD 0

/-! ### Power levels -/

/-- The conversion of a `uint32_t` to an `int8_t`. -/
def int8OfUInt32 (p : UInt32) : Int8 := p.toUInt8.toInt8

/-- The lowest level: of the front-end module under automatic control, of the chip otherwise. -/
def dtmRadioMinPowerGet (b : Build) (frequency : UInt16) : Int8 :=
  if b.powerControlAutomatic then b.femLib.txOutputPowerMinGet frequency
  else int8OfUInt32 (dtmHwRadioMinPowerGet b)

/-- The highest level, likewise. -/
def dtmRadioMaxPowerGet (b : Build) (frequency : UInt16) : Int8 :=
  if b.powerControlAutomatic then b.femLib.txOutputPowerMaxGet frequency
  else int8OfUInt32 (dtmHwRadioMaxPowerGet b)

/-- The loop of `dtm_radio_nearest_power_get`: the first level above `txPower` is compared with
its predecessor `prev`. The distance to the upper level is kept in an `int8_t`. -/
def nearestPowerScan (txPower : Int8) : UInt32 → List UInt32 → Option Int8
  | _, [] => none
  | prev, p :: rest =>
    if txPower.toInt < (int8OfUInt32 p).toInt then
      -- `abs` into an `int8_t`: a distance of 128 comes out negative
      let diff : Int8 := Int8.ofNat ((int8OfUInt32 p).toInt - txPower.toInt).natAbs
      if diff.toInt < ((int8OfUInt32 prev).toInt - txPower.toInt).natAbs then
        some (int8OfUInt32 p)
      else some (int8OfUInt32 prev)
    else nearestPowerScan txPower p rest

/-- The search over a table; `127` is the `INT8_MAX` it starts from. -/
def nearestPowerOf (power : List UInt32) (txPower : Int8) : Except Fault Int8 :=
  let outputPower := match power with
    | [] => 127
    | p :: rest => (nearestPowerScan txPower p rest).getD 127
  if outputPower ≠ 127 then .ok outputPower else .error .nearestPower

/-- The level nearest to `txPower`. Under automatic control the front-end module names its
neighbours on both sides and the lower one wins a tie; otherwise the chip's table is searched. -/
def dtmRadioNearestPowerGet (b : Build) (txPower : Int8) (frequency : UInt16) :
    Except Fault Int8 :=
  if b.powerControlAutomatic then
    let floor := b.femLib.txOutputPowerCheck txPower frequency false
    let ceiling := b.femLib.txOutputPowerCheck txPower frequency true
    if (floor.toInt - txPower.toInt).natAbs > (ceiling.toInt - txPower.toInt).natAbs then
      .ok ceiling
    else .ok floor
  else nearestPowerOf b.nrfPowerValue txPower

/-! ### Frequency and power -/

/-- The frequency of a channel in MHz, under the assertion on the channel. -/
def radioFrequencyGet (channel : UInt8) : Except Fault UInt16 :=
  if channel.toNat ≤ physChMax then .ok ((channel.toUInt16 <<< 1) + 2402) else .error .channel

theorem radioFrequencyGet_ok {channel : UInt8} (h : channel.toNat ≤ physChMax) :
    radioFrequencyGet channel = .ok ((channel.toUInt16 <<< 1) + 2402) :=
  if_pos h

theorem radioFrequencyGet_fault {channel : UInt8} (h : physChMax < channel.toNat) :
    radioFrequencyGet channel = .error .channel :=
  if_neg (Nat.not_le.2 h)

/-- The power `radio_tx_power_set` gives to the radio: the automatic control adjusts it to the
front-end module at the frequency of the channel. -/
def radioPower (b : Build) (channel : UInt8) (txPower : Int8) : Except Fault Int8 :=
  if b.fem && b.powerControlAutomatic then do
    let frequency ← radioFrequencyGet channel
    let txPower ← dtmRadioNearestPowerGet b txPower frequency
    pure (b.femLib.txOutputPowerPrepare txPower frequency)
  else .ok txPower

/-- The register half of `radio_tx_power_set`. -/
def radioPowerWrite (b : Build) (radioPower : Int8) (r : Radio) : Radio :=
  if b.nrf53Series then
    if 0 < radioPower.toInt then
      -- the raised voltage gives the other 3 dB
      { r with highVoltage := true, txpower := (radioPower - 3).toUInt8 }
    else
      { r with highVoltage := false, txpower := radioPower.toUInt8 }
  else
    { r with txpower := radioPower.toUInt8 }

/-- The transmit power is adjusted, then written. -/
def radioTxPowerSet (b : Build) (channel : UInt8) (txPower : Int8) (r : Radio) :
    Except Fault Radio := do
  let radioPower ← radioPower b channel txPower
  pure (radioPowerWrite b radioPower r)

/-- The power is set unless the automatic control asks for the frequency of an illegal channel. -/
theorem radioTxPowerSet_error {b : Build} {channel : UInt8} {txPower : Int8} {r : Radio}
    {e : Fault} :
    radioTxPowerSet b channel txPower r = .error e ↔
      .channel = e ∧ b.powerControlAutomatic = true ∧ physChMax < channel.toNat := by
  rw [radioTxPowerSet, radioPower]
  by_cases ha : b.powerControlAutomatic = true
  · have hf := b.automatic_fem ha
    rcases Nat.lt_or_ge physChMax channel.toNat with hc | hc
    · simp [ha, hf, hc, radioFrequencyGet_fault]
    · have hlt : ¬ physChMax < channel.toNat := Nat.not_lt.2 hc
      simp only [ha, hf, Bool.and_self, if_true, radioFrequencyGet_ok hc, ok_bind,
        dtmRadioNearestPowerGet, hlt, and_false, iff_false]
      split_ifs <;> simp
  · simp [ha]

/-- Setting the power writes the power registers only. -/
theorem radioTxPowerSet_eq {b : Build} {channel : UInt8} {txPower : Int8} {r r' : Radio}
    (h : radioTxPowerSet b channel txPower r = .ok r') :
    r' = { r with highVoltage := r'.highVoltage, txpower := r'.txpower } := by
  obtain ⟨power, -, h⟩ := bind_eq_ok.1 h
  cases h
  rw [radioPowerWrite]
  split_ifs <;> rfl

/-! ### Reset and initialisation of the radio -/

/-- The radio is disabled with its shortcuts and interrupts off, and the packet counter is
zeroed. The counter of reports with a wrong CRC stays. -/
def radioReset (s : Device) : Device :=
  { s with
    radio := { s.radio with
      shorts := ⟨false, false, false, false⟩
      trigger := none
      interrupts := false }
    rxPktCount := 0 }

/-- The packet configuration `radio_init` writes. -/
def radioPacketConf (s : Device) : PacketConf where
  s0len := 1
  s1len := 0
  lflen := 8
  plen := s.packetHdrPlen
  termlen := if s.radioMode ≠ .ble1Mbit ∧ s.radioMode ≠ .ble2Mbit then 3 else 0
  cilen := if s.radioMode ≠ .ble1Mbit ∧ s.radioMode ≠ .ble2Mbit then 2 else 0
  balen := 3
  statlen := 0
  maxlen := 255

/-- The radio takes the mode, the power and the packet format that are stored, unless the chip
lacks the mode or the level. The check is skipped under automatic power control. -/
def radioInit (b : Build) (s : Device) : Except Fault (Ret × Device) :=
  if !dtmHwRadioValidate b s.txpower s.radioMode && !b.powerControlAutomatic then
    .ok (.err .einval, s)
  else do
    let s := radioReset s
    let radio ← radioTxPowerSet b s.physCh.toUInt8 s.txpower.toInt8 s.radio
    pure (.ok, { s with
      radio := { radio with mode := s.radioMode, packetConf := radioPacketConf s } })

/-! ### Constant tone extension -/

/-- The byte `antenna_pattern[i]`. -/
def Device.antennaPatternAt (b : Build) (s : Device) (i : ℕ) : UInt8 :=
  match s.cteInfo.antennaPattern with
  | .null => b.strayByte .null i
  | .uart => if h : i < 150 then s.patterns.uart ⟨i, h⟩ else b.strayByte .uart i
  | .hci => if h : i < 75 then s.patterns.hci ⟨i, h⟩ else b.strayByte .hci i

/-- The values `switch_pattern_set` writes to `SWITCHPATTERN`, in order. -/
def switchPatternSet (b : Build) (s : Device) : List UInt8 :=
  b.pduAntenna :: b.pduAntenna ::
    (List.range (s.cteInfo.antennaPatternLen.toNat + 1)).map (s.antennaPatternAt b)

/-- The registers of the constant tone extension after a test without one. `S1LEN` is in the
packet format, which this leaves alone. -/
def radioCteReset (r : Radio) : Radio :=
  { r with dfeMode := 0, cteInline := false, switchPattern := [] }

/-- The registers of the constant tone extension. The length of `S1` is OR-ed into the packet
format, and the switch pattern is written for the side that switches antennas only. -/
def radioCtePrepare (b : Build) (rx : Bool) (s : Device) : Radio :=
  let r := s.radio
  let r :=
    if (rx && s.cteInfo.mode == .aoa) || (!rx && s.cteInfo.mode == .aod) then
      { r with
        switchPattern := r.switchPattern ++ switchPatternSet b s
        switchSpacing := s.cteInfo.slot.code }
    else r
  let r := { r with
    dfeMode := s.cteInfo.mode.code
    packetConf := { r.packetConf with s1len := r.packetConf.s1len ||| 8 } }
  if rx then { r with cteInline := true }
  else { r with cteInline := false, numberOf8us := s.cteInfo.time }

/-! ### The PPI channel -/

namespace PpiChannel

def channelsEnable (c : PpiChannel) : PpiChannel := { c with enabled := true }

def channelsDisable (c : PpiChannel) : PpiChannel := { c with enabled := false }

def eventEndpointSetup (c : PpiChannel) (e : PpiEvent) : PpiChannel :=
  { c with events := insert e c.events }

def eventEndpointClear (c : PpiChannel) (e : PpiEvent) : PpiChannel :=
  { c with events := c.events.erase e }

def taskEndpointClear (c : PpiChannel) (t : PpiTask) : PpiChannel :=
  { c with tasks := c.tasks.erase t }

def channelEndpointsSetup (c : PpiChannel) (e : PpiEvent) (t : PpiTask) : PpiChannel :=
  { c with events := insert e c.events, tasks := insert t c.tasks }

def forkEndpointSetup (c : PpiChannel) (t : PpiTask) : PpiChannel :=
  { c with tasks := insert t c.tasks }

def forkEndpointClear (c : PpiChannel) (t : PpiTask) : PpiChannel :=
  { c with tasks := c.tasks.erase t }

end PpiChannel

/-- What the end of a test detaches, by the kind of test. -/
def radioPpiClear (state : DtmState) (c : PpiChannel) : PpiChannel :=
  let c := c.channelsDisable
  let c := c.eventEndpointClear .timerCompare0
  let c :=
    -- a carrier test has no branch: what it attached stays
    if state = .transmitterTest then c.taskEndpointClear .radioTxen
    else if state = .receiverTest then c.taskEndpointClear .radioRxen
    else c
  let c := c.eventEndpointClear .egu
  c.forkEndpointClear .timerStart

/-- The radio task and the timer start hang on the EGU event. A transmission always goes this
way; a reception and a carrier only with a front-end module, which has to be up before the radio
starts. -/
def radioPpiConfigure (rx : Bool) (c : PpiChannel) : PpiChannel :=
  let c := c.channelEndpointsSetup .egu (if rx then .radioRxen else .radioTxen)
  let c := c.forkEndpointSetup .timerStart
  c.channelsEnable

/-- The timer half of `radio_ppi_configure`. -/
def timerShortsSet (timerShortMask : Finset TimerShort) (t : PacketTimer) : PacketTimer :=
  if timerShortMask ≠ ∅ then { t with shorts := timerShortMask } else t

/-- From the second packet of a transmitter test on the timer starts the radio. -/
def radioTxPpiReconfigure (c : PpiChannel) : PpiChannel :=
  let c := c.channelsDisable
  let c := c.forkEndpointClear .timerStart
  let c := c.eventEndpointClear .egu
  let c := c.eventEndpointSetup .timerCompare0
  let c := c.channelEndpointsSetup .timerCompare0 .radioTxen
  c.channelsEnable

/-! ### Starting and ending a test -/

/-- The end of a test: the PPI channel is cleared for the kind of test that ran, the timers are
stopped, the radio is reset and the machine is idle. -/
def dtmTestDone (b : Build) (s : Device) : Device :=
  let s := { s with
    ppiRadioStart := radioPpiClear s.state s.ppiRadioStart
    timer := { s.timer with shorts := ∅ }
    anomalyTimer :=
      if b.errata172Present then { s.anomalyTimer with enabled := false } else s.anomalyTimer }
  { radioReset s with state := .idle }

/-- The radio is started through the EGU event, or by its own task when nothing has to come
first. -/
def radioStart (b : Build) (rx forceEgu : Bool) (r : Radio) : Radio :=
  if b.fem || forceEgu then { r with trigger := some .egu }
  else { r with trigger := some (if rx then .rxen else .txen) }

/-- Starting the radio selects its trigger only. -/
theorem radioStart_eq (b : Build) (rx forceEgu : Bool) (r : Radio) :
    radioStart b rx forceEgu r = { r with trigger := (radioStart b rx forceEgu r).trigger } := by
  rw [radioStart]
  split <;> rfl

/-- The trigger is apart from the buffer pointer, on which the ownership of the two buffers
rests. -/
@[simp] theorem radioStart_packetPtr (b : Build) (rx forceEgu : Bool) (r : Radio) :
    (radioStart b rx forceEgu r).packetPtr = r.packetPtr := by
  rw [radioStart_eq]

/-- The ramp-up time `radio_prepare` selects when there is a front-end module. -/
def femRampUp (b : Build) (rx : Bool) (s : Device) : FemParameters :=
  if b.fem then
    if s.fem.vendorRampUpTime = 0 then
      { s.fem with rampUpTime := b.femLib.defaultRampUpTimeGet rx s.radioMode }
    else { s.fem with rampUpTime := s.fem.vendorRampUpTime }
  else s.fem

/-- The shortcuts `radio_prepare` sets. -/
def radioPrepareShorts (b : Build) (s : Device) : RadioShorts where
  readyStart := true
  addressRssistart := b.directionFinding && s.cteInfo.iqRepCb.isSome
  endDisable := !b.directionFinding || s.cteInfo.mode == .off
  phyendDisable := b.directionFinding && s.cteInfo.mode != .off

/-- The shortcuts of the packet timer that stop it once the front-end module is up. -/
def femTimerShorts : Finset TimerShort := {.compare1Stop, .compare1Clear}

/-- The part of `radio_prepare` common to both directions. -/
def radioPrepareCommon (b : Build) (rx : Bool) (s : Device) : Except Fault Device := do
  let radio :=
    if b.directionFinding then
      if s.cteInfo.mode ≠ .off then radioCtePrepare b rx s else radioCteReset s.radio
    else s.radio
  let frequency ← radioFrequencyGet s.physCh.toUInt8
  pure { s with
    radio := { radio with
      frequency := frequency
      packetPtr := s.currentPdu
      shorts := radioPrepareShorts b s
      interrupts := true }
    fem := femRampUp b rx s }

/-- The reception half of `radio_prepare`. -/
def radioPrepareRx (b : Build) (s : Device) : Device :=
  let s := { s with strictMode := (b.errata172Present && s.anomaly172WaEnabled) || s.strictMode }
  let s := { s with
    ppiRadioStart := if b.fem then radioPpiConfigure true s.ppiRadioStart else s.ppiRadioStart
    timer := if b.fem then timerShortsSet femTimerShorts s.timer else s.timer }
  { s with radio := radioStart b true false s.radio }

/-- The transmission half of `radio_prepare`. -/
def radioPrepareTx (b : Build) (s : Device) : Except Fault Device := do
  let radio ← radioTxPowerSet b s.physCh.toUInt8 s.txpower.toInt8 s.radio
  pure { s with
    radio := radio
    anomalyTimer :=
      if b.errata172Present && s.anomaly172WaEnabled then
        { s.anomalyTimer with enabled := false }
      else s.anomalyTimer }

/-- The radio is set up for one direction: the common part first, which fails on an illegal
channel. -/
def radioPrepare (b : Build) (rx : Bool) (s : Device) : Except Fault Device := do
  let s ← radioPrepareCommon b rx s
  if rx then pure (radioPrepareRx b s) else radioPrepareTx b s

/-- **The radio is prepared exactly on a legal channel.** -/
theorem radioPrepare_error {b : Build} (rx : Bool) {s : Device} {e : Fault} :
    radioPrepare b rx s = .error e ↔ .channel = e ∧ physChMax < s.physCh.toUInt8.toNat := by
  rw [radioPrepare, radioPrepareCommon]
  rcases Nat.lt_or_ge physChMax s.physCh.toUInt8.toNat with hc | hc
  · simp only [radioFrequencyGet_fault hc, error_bind, Except.error.injEq, hc, and_true]
  · have hlt : ¬ physChMax < s.physCh.toUInt8.toNat := Nat.not_lt.2 hc
    simp only [radioFrequencyGet_ok hc, ok_bind, pure_eq_ok, hlt, and_false, iff_false]
    cases rx with
    | true => simp
    | false =>
      intro h
      rcases bind_eq_error.1 h with h | ⟨r, -, h⟩
      · exact hlt (radioTxPowerSet_error.1 h).2.2
      · cases h

/-- Preparing a transmission writes the radio, the ramp-up time and the anomaly timer only. -/
theorem radioPrepare_tx {b : Build} {s s' : Device} (h : radioPrepare b false s = .ok s') :
    s' = { s with
      radio := s'.radio
      fem := femRampUp b false s
      anomalyTimer := s'.anomalyTimer } := by
  obtain ⟨t, ht, h⟩ := bind_eq_ok.1 h
  obtain ⟨frequency, -, ht⟩ := bind_eq_ok.1 ht
  obtain ⟨radio, -, h⟩ := bind_eq_ok.1 h
  cases ht
  cases h
  rfl

/-- **What preparing a test makes of the radio**: the CTE registers by the CTE mode, and on top the
frequency, the current buffer, the shortcuts and the power or the trigger. -/
theorem radioPrepare_radio {b : Build} {rx : Bool} {s s' : Device}
    (h : radioPrepare b rx s = .ok s') :
    s'.radio =
      { (if b.directionFinding then
          if s.cteInfo.mode ≠ .off then radioCtePrepare b rx s else radioCteReset s.radio
        else s.radio) with
        frequency := s'.radio.frequency
        txpower := s'.radio.txpower
        highVoltage := s'.radio.highVoltage
        packetPtr := s.currentPdu
        shorts := radioPrepareShorts b s
        interrupts := true
        trigger := s'.radio.trigger } := by
  obtain ⟨t, ht, h⟩ := bind_eq_ok.1 h
  obtain ⟨frequency, -, ht⟩ := bind_eq_ok.1 ht
  cases ht
  cases rx with
  | true =>
    cases h
    simp only [radioPrepareRx]
    rw [radioStart_eq]
  | false =>
    obtain ⟨radio, hradio, h⟩ := bind_eq_ok.1 h
    cases h
    simp only
    rw [radioTxPowerSet_eq hradio]

/-- **The radio works on the current buffer** once it is prepared. -/
theorem radioPrepare_packetPtr {b : Build} {rx : Bool} {s s' : Device}
    (h : radioPrepare b rx s = .ok s') : s'.radio.packetPtr = s.currentPdu := by
  rw [radioPrepare_radio h]

/-- Preparing a reception also configures the PPI channel, when there is a front-end module, and
hands the current buffer to the radio. -/
theorem radioPrepare_rx {b : Build} {s s' : Device} (h : radioPrepare b true s = .ok s') :
    s'.radio.packetPtr = s.currentPdu ∧ s' = { s with
      radio := s'.radio
      fem := femRampUp b true s
      strictMode := (b.errata172Present && s.anomaly172WaEnabled) || s.strictMode
      ppiRadioStart := if b.fem then radioPpiConfigure true s.ppiRadioStart else s.ppiRadioStart
      timer := if b.fem then timerShortsSet femTimerShorts s.timer else s.timer } := by
  refine ⟨radioPrepare_packetPtr h, ?_⟩
  obtain ⟨t, ht, h⟩ := bind_eq_ok.1 h
  obtain ⟨frequency, -, ht⟩ := bind_eq_ok.1 ht
  cases ht
  cases h
  rfl

/-! ### Errata workarounds -/

/-- The strict mode of the receiver, which the workaround switches on and off by what it hears. -/
def anomaly172StrictModeSet (enable : Bool) (s : Device) : Device :=
  { s with strictMode := enable }

/-- The workaround for anomaly 172. It is armed only on a chip that has the anomaly and is
trimmed, and disarming it also stops its timer and leaves the strict mode. -/
def errata172Handle (b : Build) (enable : Bool) (s : Device) : Device :=
  if !(b.errata172Present && b.errata172) then s
  else if enable then
    if b.errata172Trimmed then { s with anomaly172WaEnabled := true } else s
  else
    { anomaly172StrictModeSet false s with
      anomalyTimer := { s.anomalyTimer with enabled := false }
      anomaly172WaEnabled := false }

/-- The trim register of erratum 117. -/
def errata117Handle (b : Build) (enable : Bool) (s : Device) : Device :=
  if !b.errata117 then s
  else { s with radio := { s.radio with trim117 := enable } }

/-- The trim register of erratum 191. -/
def errata191Handle (b : Build) (enable : Bool) (s : Device) : Device :=
  if !b.errata191 then s
  else { s with radio := { s.radio with trim191 := enable } }

end DirectTestMode
