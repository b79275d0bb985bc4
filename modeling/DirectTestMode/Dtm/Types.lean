import Mathlib.Algebra.Ring.Nat
import Mathlib.Data.Finset.Insert
import DirectTestMode.Machine.Run
import DirectTestMode.Machine.Buffer

/-!
# The data of the DTM library

The enumerations of `dtm.h` and `dtm.c`, the build configuration, the registers that the library
drives, and `Device`: the static `dtm_inst` together with those registers and with the memory that
`dtm_inst` points into.

Fields keep the source's widths. An enumeration is an inductive type; where the source uses the
number of an enumerator, a `code` function gives it. A pointer is a name for what it points to:
`current_pdu` is an index into `dtm_inst.pdu`, or `none` for the null pointer it starts as, and
`antenna_pattern` names the transport buffer it was set to.

## What can stop the device

The build configuration has assertions on, so a failed one halts the device. `Fault` names each of
them; an access outside a buffer and a wait that never ends are faults too. A function that can
reach one returns `Except Fault`.

## What is left out

Fields that only the debug output reads (`last_report_time`, `last_report_count`) and registers
that are written with constants and never read (CRC, addresses, whitening, fast ramp-up, the pins
of the antenna switches).
-/

namespace DirectTestMode

/-! ### Error codes and faults -/

/-- The error numbers the library and the transports return, without their sign. -/
inductive Errno
  | eagain | ebusy | einval | eio | enomem | enotsup | enxio
  deriving DecidableEq, Repr

/-- An `int` return value: zero, or a negative error number. -/
inductive Ret
  | ok
  | err (e : Errno)
  deriving DecidableEq, Repr

/-- What stops the device. -/
inductive Fault
  /-- The assertion on the channel in `radio_frequency_get`. -/
  | channel
  /-- The assertion in `dtm_radio_nearest_power_get`. -/
  | nearestPower
  /-- The assertions on the CTE mode and slot in `report_iq`. -/
  | cteMode
  | cteSlot
  /-- An access outside a buffer, or through a null pointer. -/
  | bounds
  /-- A wait that never ends. -/
  | hang
  deriving DecidableEq, Repr

/-- An access that must stay inside its buffer. -/
def inBounds {α : Type} : Option α → Except Fault α
  | some a => .ok a
  | none => .error .bounds

@[simp] theorem inBounds_some {α : Type} (a : α) : inBounds (some a) = .ok a := rfl

@[simp] theorem inBounds_none {α : Type} : inBounds (none : Option α) = .error .bounds := rfl

/-- An access that went through read a value of the buffer. -/
theorem inBounds_eq_ok {α : Type} {o : Option α} {a : α} : inBounds o = .ok a ↔ o = some a := by
  cases o <;> simp

/-! ### Enumerations of the interface (`dtm.h`) -/

/-- `enum dtm_phy`: the PHYs a tester can ask for. -/
inductive DtmPhy
  | phy1m | phy2m | codedS8 | codedS2
  deriving DecidableEq, Repr

/-- `enum dtm_modulation`: the modulation index a tester can ask for. -/
inductive DtmModulation
  | standard | stable
  deriving DecidableEq, Repr

/-- `enum dtm_max_supported`: the limits a tester can ask for. -/
inductive DtmMaxSupported
  | txOctets | txTime | rxOctets | rxTime | cteLength
  deriving DecidableEq, Repr

/-- `enum dtm_cte_type`: the constant tone extensions a tester can ask for. -/
inductive DtmCteType
  | none | aoa | aod1us | aod2us
  deriving DecidableEq, Repr

/-- `enum dtm_cte_slot_duration`, in microseconds. -/
inductive DtmCteSlotDuration
  | us1 | us2
  deriving DecidableEq, Repr

/-- The enumerator with a given number; a transport passes the number it received. -/
def DtmCteSlotDuration.ofCode (code : UInt8) : Option DtmCteSlotDuration :=
  if code = 0 then some us1 else if code = 1 then some us2 else none

/-- `enum dtm_tx_power_request`: a limit of the chip, or the level nearest to a value. -/
inductive DtmTxPowerRequest
  | min | max | val
  deriving DecidableEq, Repr

/-- `enum dtm_packet`: what a transmitter test is asked to send. The fifth one means all ones on
a coded PHY and a vendor command otherwise, which the library decides and not the transport. -/
inductive DtmPacket
  | prbs9 | pkt0F | pkt55 | prbs15 | ffOrVendor | ff | pkt00 | pktF0 | pktAA | vendor
  deriving DecidableEq, Repr

/-- The number of an enumerator of `enum dtm_packet`. -/
def DtmPacket.code : DtmPacket → ℕ
  | prbs9 => 0 | pkt0F => 1 | pkt55 => 2 | prbs15 => 3 | ffOrVendor => 4
  | ff => 5 | pkt00 => 6 | pktF0 => 7 | pktAA => 8 | vendor => 9

/-- The supported features of a build. -/
structure DtmSuppFeatures where
  dataLenExt : Bool
  phy2m : Bool
  stableMod : Bool
  codedPhy : Bool
  cte : Bool
  antSwitching : Bool
  aod1usTx : Bool
  aod1usRx : Bool
  aoa1usRx : Bool
  deriving DecidableEq, Repr

/-- The answer to a transmit power request. -/
structure DtmTxPower where
  power : Int8
  min : Bool
  max : Bool
  deriving DecidableEq

/-- `enum dtm_packet_status`: whether a sampled packet was received well. -/
inductive DtmPacketStatus
  | crcOk | crcErrTime | crcErrOther | crcErrInsufficient
  deriving DecidableEq, Repr

/-! ### Enumerations of the implementation (`dtm.c`, `nrf_radio.h`) -/

/-- The machine states. -/
inductive DtmState
  | uninitialized | idle | transmitterTest | carrierTest | receiverTest
  deriving DecidableEq, Repr

/-- `enum dtm_cte_mode`: the CTE mode the radio is set to. -/
inductive DtmCteMode
  | off | aod | aoa
  deriving DecidableEq, Repr

/-- The number of an enumerator of `enum dtm_cte_mode`, which is also what `DFEMODE` takes. -/
def DtmCteMode.code : DtmCteMode → UInt8
  | off => 0x00 | aod => 0x02 | aoa => 0x03

/-- The sample slot. `zero` is what a cleared structure holds, which is no enumerator. -/
inductive DtmCteSlot
  | zero | us2 | us1
  deriving DecidableEq, Repr

/-- The number of an enumerator of `enum dtm_cte_slot`. -/
def DtmCteSlot.code : DtmCteSlot → UInt8
  | zero => 0x00 | us2 => 0x01 | us1 => 0x02

/-- The payload types of a PDU. -/
inductive DtmPduType
  | prbs9 | pkt0F | pkt55 | prbs15 | ff | pkt00 | pktF0 | pktAA
  deriving DecidableEq, Repr

/-- The number of an enumerator of `enum dtm_pdu_type`. -/
def DtmPduType.code : DtmPduType → UInt8
  | prbs9 => 0x00 | pkt0F => 0x01 | pkt55 => 0x02 | prbs15 => 0x03
  | ff => 0x04 | pkt00 => 0x05 | pktF0 => 0x06 | pktAA => 0x07

/-- The enumerator with a given number. -/
def DtmPduType.ofCode (code : UInt8) : Option DtmPduType :=
  [prbs9, pkt0F, pkt55, prbs15, ff, pkt00, pktF0, pktAA].find? (DtmPduType.code · == code)

@[simp] theorem DtmPduType.ofCode_code (type : DtmPduType) : ofCode type.code = some type := by
  cases type <;> rfl

/-- The radio modes the library names. -/
inductive RadioMode
  | nrf1Mbit | ble1Mbit | ble2Mbit | bleLr125Kbit | bleLr500Kbit
  deriving DecidableEq, Repr

/-- The value of a radio mode in the `MODE` register. -/
def RadioMode.code : RadioMode → UInt32
  | nrf1Mbit => 0 | ble1Mbit => 3 | ble2Mbit => 4 | bleLr125Kbit => 5 | bleLr500Kbit => 6

/-- The preamble lengths of `PCNF0`. -/
inductive PreambleLength
  | bit8 | bit16 | longRange
  deriving DecidableEq, Repr

/-! ### The build -/

/-- The front-end module library, which is not part of the repository. -/
structure FemLibrary where
  txGainSet : UInt32 → Ret
  antennaSelect : UInt32 → Ret
  /-- `FEM_ANTENNA_1`. -/
  antenna1 : UInt32
  defaultRampUpTimeGet : Bool → RadioMode → UInt32
  defaultTxGainGet : UInt8
  txOutputPowerMinGet : UInt16 → Int8
  txOutputPowerMaxGet : UInt16 → Int8
  txOutputPowerCheck : Int8 → UInt16 → Bool → Int8
  txOutputPowerPrepare : Int8 → UInt16 → Int8

/-- The transport buffer that an antenna pattern pointer was set to. -/
inductive PatternPtr
  | null | uart | hci
  deriving DecidableEq, Repr

/-- A build of the firmware for a chip: the configuration symbols, the chip's errata, and the
tables and libraries that the chip's and the front-end's headers supply. -/
structure Build where
  /-- `DIRECTION_FINDING_SUPPORTED`. -/
  directionFinding : Bool
  /-- `CONFIG_FEM`. -/
  fem : Bool
  /-- `CONFIG_DTM_POWER_CONTROL_AUTOMATIC`. -/
  powerControlAutomatic : Bool
  /-- `CONFIG_HAS_HW_NRF_RADIO_BLE_CODED`. -/
  hasBleCoded : Bool
  /-- `NRF53_SERIES`. -/
  nrf53Series : Bool
  /-- `NRF52_ERRATA_172_PRESENT`, and what `nrf52_errata_172` answers on the chip. -/
  errata172Present : Bool
  errata172 : Bool
  /-- The register at `0x40001788` reads zero. -/
  errata172Trimmed : Bool
  errata117 : Bool
  errata191 : Bool
  /-- `NRF_MAX_RX_TX_TIME`. -/
  maxRxTxTime : UInt16
  /-- `nrf_power_value`. -/
  nrfPowerValue : List UInt32
  /-- `ant_cfg.ant_num` and the PDU antenna. -/
  antNum : UInt8
  pduAntenna : UInt8
  /-- What memory holds where an antenna pattern is read outside the buffer it points to. -/
  strayByte : PatternPtr → ℕ → UInt8
  femLib : FemLibrary
  /-- The automatic power control depends on the front-end module. -/
  automatic_fem : powerControlAutomatic = true → fem = true

/-- A front-end module that takes every setting and passes every level through. -/
def FemLibrary.passive : FemLibrary where
  txGainSet := fun _ ↦ .ok
  antennaSelect := fun _ ↦ .ok
  antenna1 := 0
  defaultRampUpTimeGet := fun _ _ ↦ 40
  defaultTxGainGet := 0
  txOutputPowerMinGet := fun _ ↦ -40
  txOutputPowerMaxGet := fun _ ↦ 3
  txOutputPowerCheck := fun power _ _ ↦ power
  txOutputPowerPrepare := fun power _ ↦ power

/-- A build for the nRF5340, with or without direction finding and a front-end module. -/
def Build.nrf5340 (directionFinding fem : Bool) : Build where
  directionFinding := directionFinding
  fem := fem
  powerControlAutomatic := false
  hasBleCoded := true
  nrf53Series := true
  errata172Present := false
  errata172 := false
  errata172Trimmed := false
  errata117 := true
  errata191 := false
  maxRxTxTime := 0x424
  nrfPowerValue := [0xD8, 0xD8, 0xEC, 0xF0, 0xF4, 0xF8, 0xF9, 0xFA, 0xFB, 0xFC, 0xFD, 0xFE, 0xFF,
    0x00, 0x01, 0x02, 0x03]
  antNum := 12
  pduAntenna := 0
  strayByte := fun _ _ ↦ 0
  femLib := .passive
  automatic_fem := by simp

/-! ### Registers -/

/-- The events published on the channel `ppi_radio_start`. -/
inductive PpiEvent
  | egu | timerCompare0
  deriving DecidableEq, Repr

/-- The tasks subscribed to the channel `ppi_radio_start`. -/
inductive PpiTask
  | radioTxen | radioRxen | timerStart
  deriving DecidableEq, Repr

/-- A (D)PPI channel: whether it is enabled and the endpoints attached to it. -/
structure PpiChannel where
  enabled : Bool
  events : Finset PpiEvent
  tasks : Finset PpiTask
  deriving DecidableEq

/-- The fields of `PCNF0` and `PCNF1`. -/
structure PacketConf where
  s0len : UInt8
  s1len : UInt8
  lflen : UInt8
  plen : PreambleLength
  termlen : UInt8
  cilen : UInt8
  balen : UInt8
  statlen : UInt8
  maxlen : UInt8
  deriving DecidableEq

/-- The radio shortcuts the library uses. -/
structure RadioShorts where
  readyStart : Bool
  addressRssistart : Bool
  endDisable : Bool
  phyendDisable : Bool
  deriving DecidableEq

/-- What last started the radio: the EGU event through the PPI channel, or a task. -/
inductive RadioTrigger
  | egu | rxen | txen
  deriving DecidableEq, Repr

/-- The radio peripheral, with the trim registers of the errata workarounds. -/
structure Radio where
  mode : RadioMode
  frequency : UInt16
  txpower : UInt8
  /-- The high voltage request of the nRF53 series. -/
  highVoltage : Bool
  packetConf : PacketConf
  packetPtr : Option (Fin 2)
  shorts : RadioShorts
  interrupts : Bool
  trigger : Option RadioTrigger
  dfeMode : UInt8
  cteInline : Bool
  numberOf8us : UInt8
  switchSpacing : UInt8
  /-- The values written to `SWITCHPATTERN` since it was last cleared. -/
  switchPattern : List UInt8
  trim117 : Bool
  trim191 : Bool

/-- The shortcuts of the packet timer that the library sets. -/
inductive TimerShort
  | compare0Clear | compare1Stop | compare1Clear
  deriving DecidableEq, Repr

/-- The packet timer: its first compare value and its shortcuts. -/
structure PacketTimer where
  cc0 : UInt32
  shorts : Finset TimerShort

/-- The timer of the anomaly 172 workaround. -/
structure AnomalyTimer where
  enabled : Bool
  /-- The second compare channel raises an interrupt. -/
  compare1 : Bool
  deriving DecidableEq

/-! ### The state -/

/-- A code pointer, such as a callback. -/
abbrev CodePtr : Type := ℕ

/-- The IQ samples a report refers to, one register word each. -/
abbrev IqSamples : Type := Buffer 0x52 UInt32

/-- The PDU buffer: the header with its CTEInfo octet, and the largest payload. -/
abbrev DtmPdu : Type := Buffer 258 UInt8

/-- The octets of a PDU are named by numerals. -/
instance neZeroPduSize : NeZero 258 := ⟨by decide⟩

/-- So are the two PDU buffers. -/
instance neZeroPduBuffers : NeZero 2 := ⟨by decide⟩

/-- The data handed to the IQ report callback. -/
structure DtmIqData where
  channel : UInt8
  rssi : Int16
  rssiAnt : UInt8
  type : DtmCteType
  slot : DtmCteSlotDuration
  status : DtmPacketStatus
  sampleCnt : UInt8
  samples : IqSamples

/-- `struct dtm_cte_info`. -/
structure DtmCteInfo where
  mode : DtmCteMode
  slot : DtmCteSlot
  antennaPattern : PatternPtr
  antennaPatternLen : UInt8
  data : IqSamples
  time : UInt8
  antennaNumber : UInt8
  info : UInt8
  iqRepCb : Option CodePtr

/-- `struct fem_parameters`. -/
structure FemParameters where
  rampUpTime : UInt32
  vendorRampUpTime : UInt32
  gain : UInt32
  deriving DecidableEq

/-- The static antenna pattern buffers of the two transports. -/
structure PatternMemory where
  uart : Buffer 150 UInt8
  hci : Buffer 75 UInt8

/-- `dtm_inst`, the registers the library drives, and the memory around them. -/
structure Device where
  state : DtmState
  rxPktCount : UInt16
  crcErrorCount : UInt32
  pdu : Fin 2 → DtmPdu
  currentPdu : Option (Fin 2)
  packetLen : UInt32
  packetType : DtmPacket
  physCh : UInt32
  packetHdrPlen : PreambleLength
  anomaly172WaEnabled : Bool
  strictMode : Bool
  radioMode : RadioMode
  txpower : UInt8
  cteInfo : DtmCteInfo
  fem : FemParameters
  ppiRadioStart : PpiChannel
  radio : Radio
  timer : PacketTimer
  anomalyTimer : AnomalyTimer
  /-- The timer driver refuses a second initialisation. -/
  timerInit : Bool
  patterns : PatternMemory
  /-- The IQ reports made, with the callback each was made through. -/
  iqReports : List (CodePtr × DtmIqData)

/-! ### Constants -/

/-- `PHYS_CH_MAX`. -/
def physChMax : ℕ := 39

/-- `DTM_PAYLOAD_MAX_SIZE`. -/
def dtmPayloadMaxSize : ℕ := 255

/-- `DTM_PKT_TYPE_VENDORSPECIFIC`. -/
def dtmPktTypeVendorspecific : ℕ := 0xFE

/-- `FEM_USE_DEFAULT_GAIN`. -/
def femUseDefaultGain : UInt32 := 0xFF

/-! ### Power-on -/

/-- The IQ sample memory after a `memset` with zero. -/
def IqSamples.zero : IqSamples := fun _ ↦ 0

/-- `struct dtm_cte_info` after a `memset` with zero. -/
def DtmCteInfo.zero : DtmCteInfo where
  mode := .off
  slot := .zero
  antennaPattern := .null
  antennaPatternLen := 0
  data := IqSamples.zero
  time := 0
  antennaNumber := 0
  info := 0
  iqRepCb := none

/-- A PDU buffer after a `memset` with zero. -/
def DtmPdu.zero : DtmPdu := fun _ ↦ 0

/-- The radio after a chip reset. -/
def Radio.reset : Radio where
  mode := .nrf1Mbit
  frequency := 2402
  txpower := 0
  highVoltage := false
  packetConf := ⟨0, 0, 0, .bit8, 0, 0, 0, 0, 0⟩
  packetPtr := none
  shorts := ⟨false, false, false, false⟩
  interrupts := false
  trigger := none
  dfeMode := 0
  cteInline := false
  numberOf8us := 0
  switchSpacing := 0
  switchPattern := []
  trim117 := false
  trim191 := false

/-- The device at power-on: the initialiser of `dtm_inst`, zero elsewhere. -/
def Device.powerOn : Device where
  state := .uninitialized
  rxPktCount := 0
  crcErrorCount := 0
  pdu := fun _ ↦ DtmPdu.zero
  currentPdu := none
  packetLen := 0
  packetType := .prbs9
  physCh := 0
  packetHdrPlen := .bit8
  anomaly172WaEnabled := false
  strictMode := false
  radioMode := .ble1Mbit
  txpower := 0
  cteInfo := DtmCteInfo.zero
  fem := ⟨0, 0, femUseDefaultGain⟩
  ppiRadioStart := ⟨false, ∅, ∅⟩
  radio := Radio.reset
  timer := ⟨0, ∅⟩
  anomalyTimer := ⟨false, false⟩
  timerInit := false
  patterns := ⟨fun _ ↦ 0, fun _ ↦ 0⟩
  iqReports := []

end DirectTestMode
