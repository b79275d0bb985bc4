import DirectTestMode.Dtm.Tables
import DirectTestMode.Dtm.Setup

/-!
# Starting and ending a test

`dtm_test_receive`, `dtm_test_transmit` with the vendor commands behind it, and `dtm_test_end`.

## The stages of a transmitter test

A transmitter test is built in three stages, one function each: the checks and the assignments of
`dtm_test_transmit` itself, the payload of the PDU (`pduFill`), and the start of the modulated test
(`modulatedTest`). The vendor commands branch off after the first stage. The assignments come before
the checks, as in the source: a refused call has already stored its channel, its length and its
packet type, and `transmitAssign` is the name of that state.

## Inversion

`TransmitResult` lists the four ways through `dtm_test_transmit` with what each returns, a fault
included, and `TransmitOk` the ways to come to an end, with the whole device that is left behind.
Every invariant that has to pass a transmit call is proved by cases on the second one; what the
radio looks like afterwards is `dtmTestTransmit_prepared`, and it is stated apart because few proofs
need it.

## Termination

The packet interval is found by a `do`-`while` loop over wrapping arithmetic. It is modelled with
fuel and the fuel is then shown to be enough: no payload length that the API takes comes near the
wrap, so `dtmPacketIntervalCalculate_ok` gives the interval outright, and the fault `hang` is never
raised. `modulatedTest_error` rests on it.

## The receiver test

A receiver test looks at its channel and at nothing else. `dtmTestReceive_legal` says so, and
`dtmTestReceive_over_transmit` what it means on a device that is transmitting.
-/

namespace DirectTestMode

open Fallible

/-! ### Vendor commands -/

/-- `dtm_inst.state > STATE_IDLE`. -/
def DtmState.testing : DtmState → Bool
  | .uninitialized => false
  | .idle => false
  | .transmitterTest => true
  | .carrierTest => true
  | .receiverTest => true

/-- The power octet of a vendor command: the two top bits follow bits 4 and 5. -/
def txpowerOctet (newTxPower : UInt32) : UInt8 :=
  let newPower8 := (newTxPower &&& 0xFF).toUInt8
  if newPower8 &&& 0x30 ≠ 0 then newPower8 ||| 0xC0 else newPower8

/-- The power of a vendor command is stored when no test runs and the chip has the level. -/
def dtmSetTxpower (b : Build) (newTxPower : UInt32) (s : Device) : Bool × Device :=
  if s.state.testing then (false, s)
  else if !dtmHwRadioValidate b (txpowerOctet newTxPower) s.radioMode then (false, s)
  else (true, { s with txpower := txpowerOctet newTxPower })

/-- The front-end module refuses the gain it was given. -/
def femGainRefused (b : Build) (s : Device) : Bool :=
  b.fem && s.fem.gain != femUseDefaultGain && !b.powerControlAutomatic &&
    b.femLib.txGainSet s.fem.gain != .ok

/-- The case `CARRIER_TEST` of `dtm_vendor_specific_pkt`. -/
def carrierTest (b : Build) (s : Device) : Except Fault (Ret × Device) := do
  let s ← radioPrepare b false s
  let s := { s with radio := { s.radio with shorts := ⟨true, false, false, false⟩ } }
  if femGainRefused b s then pure (.err .einval, s)
  else
    let s := { s with
      ppiRadioStart := if b.fem then radioPpiConfigure false s.ppiRadioStart else s.ppiRadioStart
      timer := if b.fem then timerShortsSet femTimerShorts s.timer else s.timer }
    pure (.ok, { s with
      radio := radioStart b false false s.radio
      state := .carrierTest })

/-- The `enum dtm_vs_subcmd`. -/
inductive DtmVsSubcmd
  | carrierTest | carrierTestStudio | setTxPower
  | femAntennaSelect | femGainSet | femRampUpSet | femDefaultParamsSet
  deriving DecidableEq, Repr

/-- The vendor command with a given number; there are seven. -/
def DtmVsSubcmd.ofCode (vendorCmd : UInt32) : Option DtmVsSubcmd :=
  if vendorCmd = 0 then some .carrierTest
  else if vendorCmd = 1 then some .carrierTestStudio
  else if vendorCmd = 2 then some .setTxPower
  else if vendorCmd = 3 then some .femAntennaSelect
  else if vendorCmd = 4 then some .femGainSet
  else if vendorCmd = 5 then some .femRampUpSet
  else if vendorCmd = 6 then some .femDefaultParamsSet
  else none

/-- Turn the zero or non-zero answer of a library into `0` or `-EINVAL`. -/
def Ret.orEinval : Ret → Ret
  | .ok => .ok
  | .err _ => .err .einval

/-- Success or `-EINVAL`. -/
def Ret.OkOrEinval (r : Ret) : Prop := r = .ok ∨ r = .err .einval

theorem Ret.orEinval_okOrEinval (r : Ret) : r.orEinval.OkOrEinval := by
  cases r with
  | ok => exact .inl rfl
  | err e => exact .inr rfl

/-- The vendor commands other than the carrier test; none of them starts a test. -/
def vendorSetting (b : Build) (vendorCmd : DtmVsSubcmd) (vendorOption : UInt32) (s : Device) :
    Ret × Device :=
  match vendorCmd with
  | .setTxPower =>
    if b.powerControlAutomatic then (.err .einval, s)
    else
      let (accepted, s) := dtmSetTxpower b vendorOption s
      (if accepted then .ok else .err .einval, s)
  | .femAntennaSelect =>
    if !b.fem then (.err .einval, s)
    else ((b.femLib.antennaSelect vendorOption).orEinval, s)
  | .femGainSet =>
    if !b.fem || b.powerControlAutomatic then (.err .einval, s)
    else (.ok, { s with fem := { s.fem with gain := vendorOption } })
  | .femRampUpSet =>
    if !b.fem then (.err .einval, s)
    else (.ok, { s with fem := { s.fem with vendorRampUpTime := vendorOption } })
  | .femDefaultParamsSet =>
    if !b.fem then (.err .einval, s)
    else ((b.femLib.antennaSelect b.femLib.antenna1).orEinval,
      { s with fem := { s.fem with gain := femUseDefaultGain, vendorRampUpTime := 0 } })
  -- not reached: `dtm_vendor_specific_pkt` starts the carrier test itself
  | .carrierTest | .carrierTestStudio => (.err .einval, s)

/-- A vendor command: its number is the length of the packet, its option the channel. -/
def dtmVendorSpecificPkt (b : Build) (vendorCmd vendorOption : UInt32) (s : Device) :
    Except Fault (Ret × Device) :=
  match DtmVsSubcmd.ofCode vendorCmd with
  | none => .ok (.err .einval, s)
  | some .carrierTest => carrierTest b s
  | some .carrierTestStudio => carrierTest b s
  | some cmd => .ok (vendorSetting b cmd vendorOption s)

/-- The length octet names one of the two carrier tests. -/
def carrierLength (length : UInt8) : Bool := length.toNat ≤ 1

/-- A length octet above one names no carrier test. -/
theorem dtmVendorSpecificPkt_other (b : Build) {length : UInt8} (vendorOption : UInt32)
    (s : Device) (h : carrierLength length = false) :
    dtmVendorSpecificPkt b length.toUInt32 vendorOption s =
      .ok ((DtmVsSubcmd.ofCode length.toUInt32).elim (.err .einval, s) fun cmd ↦
        vendorSetting b cmd vendorOption s) := by
  have hlt : 1 < length.toUInt32.toNat := by
    rw [UInt8.toNat_toUInt32]
    simpa [carrierLength] using h
  rw [dtmVendorSpecificPkt]
  rcases hcmd : DtmVsSubcmd.ofCode length.toUInt32 with - | cmd
  · rfl
  · cases cmd with
    | carrierTest | carrierTestStudio =>
      rw [DtmVsSubcmd.ofCode] at hcmd
      simp only [← UInt32.toNat_inj] at hcmd
      split_ifs at hcmd <;> simp_all
    | setTxPower | femAntennaSelect | femGainSet | femRampUpSet | femDefaultParamsSet => rfl

theorem dtmSetTxpower_eq (b : Build) (newTxPower : UInt32) (s : Device) :
    ∃ accepted txpower,
      dtmSetTxpower b newTxPower s = (accepted, { s with txpower := txpower }) := by
  rw [dtmSetTxpower]
  split_ifs
  · exact ⟨_, s.txpower, rfl⟩
  · exact ⟨_, s.txpower, rfl⟩
  · exact ⟨_, _, rfl⟩

/-- A vendor setting writes the power and the front-end module parameters only. -/
theorem vendorSetting_eq (b : Build) (vendorCmd : DtmVsSubcmd) (vendorOption : UInt32)
    (s : Device) :
    ∃ ret txpower fem, ret.OkOrEinval ∧ vendorSetting b vendorCmd vendorOption s =
      (ret, { s with txpower := txpower, fem := fem }) := by
  cases vendorCmd with
  | carrierTest | carrierTestStudio => exact ⟨_, _, _, .inr rfl, rfl⟩
  | setTxPower =>
    obtain ⟨accepted, txpower, heq⟩ := dtmSetTxpower_eq b vendorOption s
    rw [vendorSetting, heq]
    split
    · exact ⟨_, _, _, .inr rfl, rfl⟩
    · cases accepted with
      | false => exact ⟨_, _, _, .inr rfl, rfl⟩
      | true => exact ⟨_, _, _, .inl rfl, rfl⟩
  | femAntennaSelect | femDefaultParamsSet =>
    rw [vendorSetting]
    split
    · exact ⟨_, _, _, .inr rfl, rfl⟩
    · exact ⟨_, _, _, Ret.orEinval_okOrEinval _, rfl⟩
  | femGainSet | femRampUpSet =>
    rw [vendorSetting]
    split
    · exact ⟨_, _, _, .inr rfl, rfl⟩
    · exact ⟨_, _, _, .inl rfl, rfl⟩

/-- **A length octet above one is a setting**, and starts nothing. -/
theorem dtmVendorSpecificPkt_setting (b : Build) {length : UInt8} (vendorOption : UInt32)
    (s : Device) (h : carrierLength length = false) :
    ∃ ret txpower fem, ret.OkOrEinval ∧
      dtmVendorSpecificPkt b length.toUInt32 vendorOption s =
        .ok (ret, { s with txpower := txpower, fem := fem }) := by
  rw [dtmVendorSpecificPkt_other b vendorOption s h]
  cases DtmVsSubcmd.ofCode length.toUInt32 with
  | none => exact ⟨_, s.txpower, s.fem, .inr rfl, rfl⟩
  | some cmd =>
    obtain ⟨ret, txpower, fem, hret, heq⟩ := vendorSetting_eq b cmd vendorOption s
    exact ⟨ret, txpower, fem, hret, congrArg Except.ok heq⟩

/-- **The other two lengths start a carrier test.** The option is not looked at: the carrier goes
out on the channel that the call has stored. -/
theorem dtmVendorSpecificPkt_carrier (b : Build) {length : UInt8} (vendorOption : UInt32)
    (s : Device) (h : carrierLength length = true) :
    dtmVendorSpecificPkt b length.toUInt32 vendorOption s = carrierTest b s := by
  have hle : length.toUInt32.toNat ≤ 1 := by
    rw [UInt8.toNat_toUInt32]
    simpa [carrierLength] using h
  have hcode : length.toUInt32 = 0 ∨ length.toUInt32 = 1 := by
    simp only [← UInt32.toNat_inj]
    simp only [UInt32.toNat_ofNat]
    omega
  rcases hcode with h | h <;> rw [h] <;> rfl

/-! ### The packet interval -/

/-- The overhead of a packet, in bits. The uncoded 1 Mbit overhead is tested against the
proprietary 1 Mbit mode, so `ble1Mbit` has none. -/
def overheadBits (b : Build) (mode : RadioMode) : UInt32 :=
  match mode with
  | .ble2Mbit => 88
  | .nrf1Mbit => 80
  | .bleLr125Kbit => if b.hasBleCoded then 720 else 0
  | .bleLr500Kbit => if b.hasBleCoded then 462 else 0
  | .ble1Mbit => 0

/-- The payload in bits, after the coding of the PHY. -/
def payloadBits (b : Build) (testPayloadLength : UInt32) (mode : RadioMode) : UInt32 :=
  let bits := testPayloadLength * 8
  let bits := if b.hasBleCoded && mode == .bleLr125Kbit then bits * 8 else bits
  if b.hasBleCoded && mode == .bleLr500Kbit then bits * 2 else bits

/-- `test_packet_length`. With CTE on, the mode number is added where the length of the CTEInfo
field was meant to be: the conditional that selects it is computed and dropped. -/
def testPacketLength (b : Build) (testPayloadLength : UInt32) (mode : RadioMode)
    (cte : DtmCteInfo) : UInt32 :=
  let bits := payloadBits b testPayloadLength mode + overheadBits b mode
  let bits := if mode = .ble2Mbit then bits / 2 else bits
  if cte.mode ≠ .off then bits + mode.code + cte.time.toUInt32 * 8 else bits

/-- The `do`-`while` loop of `dtm_packet_interval_calculate`, with `fuel` iterations at most. -/
def packetIntervalLoop (testPacketLength : UInt32) : ℕ → UInt32 → Option UInt32
  | 0, _ => none
  | fuel + 1, i =>
    let i := i + 1
    let timeout := i * 625
    if timeout < testPacketLength + 249 then packetIntervalLoop testPacketLength fuel i
    else some (i * 625)

/-- The time between two packets of a test, in microseconds. Running out of fuel is the wait that
never ends. -/
def dtmPacketIntervalCalculate (b : Build) (testPayloadLength : UInt32) (mode : RadioMode)
    (cte : DtmCteInfo) : Except Fault UInt32 :=
  match packetIntervalLoop (testPacketLength b testPayloadLength mode cte) (2 ^ 32) 0 with
  | some packetInterval => .ok packetInterval
  | none => .error .hang

/-- The number of 625 us units that `test_packet_length + 249` needs, and at least one. -/
def packetIntervalUnits (testPacketLength : ℕ) : ℕ := max 1 ((testPacketLength + 249 + 624) / 625)

/-- A pass before the last unit does not wrap: `hl` keeps every sum and product below 2^32. -/
theorem packetIntervalPass_toNat {l i : UInt32} (hl : l.toNat + 249 + 625 < 2 ^ 32)
    (hi : i.toNat < packetIntervalUnits l.toNat) :
    (i + 1).toNat = i.toNat + 1 ∧ ((i + 1) * 625).toNat = (i.toNat + 1) * 625 ∧
      (l + 249).toNat = l.toNat + 249 := by
  unfold packetIntervalUnits at hi
  have hsucc : (i + 1).toNat = i.toNat + 1 := by
    rw [UInt32.toNat_add]; simp; omega
  refine ⟨hsucc, ?_, ?_⟩
  · rw [UInt32.toNat_mul, hsucc]; simp; omega
  · rw [UInt32.toNat_add]; simp; omega

/-- **The loop counts the units.** The induction is on the fuel that is left; `i` units are done. -/
theorem packetIntervalLoop_eq {l : UInt32} (hl : l.toNat + 249 + 625 < 2 ^ 32) {fuel : ℕ}
    {i : UInt32} (hi : i.toNat < packetIntervalUnits l.toNat)
    (hfuel : packetIntervalUnits l.toNat ≤ i.toNat + fuel) :
    packetIntervalLoop l fuel i = some (UInt32.ofNat (packetIntervalUnits l.toNat * 625)) := by
  induction fuel generalizing i with
  | zero => omega
  | succ fuel ih =>
    obtain ⟨hsucc, htime, hlen⟩ := packetIntervalPass_toNat hl hi
    unfold packetIntervalUnits at *
    rw [packetIntervalLoop]
    simp only [UInt32.lt_iff_toNat_lt, htime, hlen]
    split
    · exact ih (by omega) (by omega)
    · refine congrArg some (UInt32.toNat_inj.1 ?_)
      rw [htime, UInt32.toNat_ofNat_of_lt' (by simp [UInt32.size]; omega)]
      omega

/-- The largest packet there is: 255 octets on the slowest coded PHY, with the longest extension.
The bound is far from tight and needs not be. -/
theorem testPacketLength_le (b : Build) {n : UInt32} (hn : n.toNat ≤ 255) (mode : RadioMode)
    (cte : DtmCteInfo) : (testPacketLength b n mode cte).toNat ≤ 19086 := by
  have hbits : (payloadBits b n mode).toNat ≤ 16320 := by
    rw [payloadBits]
    simp
    cases b.hasBleCoded <;> cases mode <;> simp <;> omega
  have hover : (overheadBits b mode).toNat ≤ 720 := by
    unfold overheadBits
    cases mode <;> simp <;> split_ifs <;> simp 
  have hcte : cte.time.toNat < 256 := cte.time.toNat_lt
  have hmode : mode.code.toNat ≤ 6 := by
    cases mode <;> decide
  have hsum : (payloadBits b n mode + overheadBits b mode).toNat ≤ 17040 := by
    rw [UInt32.toNat_add]
    omega
  simp only [testPacketLength]
  have hhalf (h : UInt32) (hh : h.toNat ≤ 17040) :
      (if mode = .ble2Mbit then h / 2 else h).toNat ≤ 17040 := by
    split
    · rw [UInt32.toNat_div]
      exact (Nat.div_le_self _ _).trans hh
    · exact hh
  have hb := hhalf _ hsum
  generalize (if mode = .ble2Mbit then _ else _ : UInt32) = bits at hb ⊢
  split
  · simp
    omega
  · omega

/-- **The packet interval is always found**: every payload length the API takes is far below the
wrap of the loop's arithmetic. -/
theorem dtmPacketIntervalCalculate_ok (b : Build) {n : UInt32} (hn : n.toNat ≤ 255)
    (mode : RadioMode) (cte : DtmCteInfo) :
    dtmPacketIntervalCalculate b n mode cte =
      .ok (UInt32.ofNat (packetIntervalUnits (testPacketLength b n mode cte).toNat * 625)) := by
  have hl := testPacketLength_le b hn mode cte
  rw [dtmPacketIntervalCalculate]
  rw [packetIntervalLoop_eq (by omega)]
  · rw [packetIntervalUnits]
    simp
  · rw [packetIntervalUnits]
    simp
    omega

/-! ### The transmitted PDU -/

/-- Write one octet of a PDU. -/
def DtmPdu.set (pdu : DtmPdu) (i : Fin 258) (v : UInt8) : DtmPdu := Function.update pdu i v

/-- `DTM_HEADER_SIZE` or `DTM_HEADER_WITH_CTE_SIZE`. -/
def headerLen (mode : DtmCteMode) : ℕ := if mode ≠ .off then 3 else 2

/-- The switch of `dtm_test_transmit`: the PDU type in the header and the reference payload. The
two selectors that are not packet types have no PDU; the switch never gets here with them. -/
def pduFill (packetType : DtmPacket) (headerLen packetLen : ℕ) (pdu : DtmPdu) : Option DtmPdu :=
  match packetType with
  | .prbs9 => (pdu.set 0 DtmPduType.prbs9.code).memcpy headerLen dtmPrbs9Content packetLen
  | .pkt0F => (pdu.set 0 DtmPduType.pkt0F.code).memset headerLen rfphyTest0x0FRefPattern packetLen
  | .pkt55 => (pdu.set 0 DtmPduType.pkt55.code).memset headerLen rfphyTest0x55RefPattern packetLen
  | .prbs15 => (pdu.set 0 DtmPduType.prbs15.code).memcpy headerLen dtmPrbs15Content packetLen
  | .ff => (pdu.set 0 DtmPduType.ff.code).memset headerLen rfphyTest0xFFRefPattern packetLen
  | .pkt00 => (pdu.set 0 DtmPduType.pkt00.code).memset headerLen rfphyTest0x00RefPattern packetLen
  | .pktF0 => (pdu.set 0 DtmPduType.pktF0.code).memset headerLen rfphyTest0xF0RefPattern packetLen
  | .pktAA => (pdu.set 0 DtmPduType.pktAA.code).memset headerLen rfphyTest0xAARefPattern packetLen
  | .ffOrVendor | .vendor => none

/-- With CTE on, the CP bit of the header and the CTEInfo octet. -/
def pduCte (cte : DtmCteInfo) (pdu : DtmPdu) : DtmPdu :=
  if cte.mode ≠ .off then (pdu.set 0 (pdu 0 ||| 0x20)).set 2 cte.info else pdu

/-! ### The transmitter test -/

/-- The last part of `dtm_test_transmit`, from the preparation of the radio on. -/
def modulatedTest (b : Build) (s : Device) : Except Fault (Ret × Device) := do
  let s ← radioPrepare b false s
  let packetInterval ← dtmPacketIntervalCalculate b s.packetLen s.radioMode s.cteInfo
  let s := { s with timer := ⟨packetInterval, insert .compare0Clear s.timer.shorts⟩ }
  if femGainRefused b s then pure (.err .einval, s)
  else
    let s := { s with ppiRadioStart := radioPpiConfigure false s.ppiRadioStart }
    let s := { s with radio := radioStart b false true s.radio }
    let s := { s with ppiRadioStart := radioTxPpiReconfigure s.ppiRadioStart }
    pure (.ok, { s with state := .transmitterTest })

/-- The two readings of the packet type binary 11, by the radio mode. -/
def resolvePacket (radioMode : RadioMode) (pkt : DtmPacket) : DtmPacket :=
  if pkt = .ffOrVendor then
    if radioMode = .ble1Mbit ∨ radioMode = .ble2Mbit then .vendor else .ff
  else pkt

/-- The assignments that `dtm_test_transmit` makes before it checks its arguments. -/
def transmitAssign (channel length : UInt8) (pkt : DtmPacket) (s : Device) : Device :=
  { s with
    packetType := resolvePacket s.radioMode pkt
    packetLen := length.toUInt32
    physCh := channel.toUInt32
    currentPdu := some 0 }

/-- The counter and the length octet, which `dtm_test_transmit` writes after its checks. -/
def transmitReset (s : Device) : Device :=
  { s with
    rxPktCount := 0
    pdu := Function.update s.pdu 0 ((s.pdu 0).set 1 s.packetLen.toUInt8) }

/-- The PDU of a modulated test in place. -/
def transmitPdu (pdu : DtmPdu) (s : Device) : Device :=
  { s with pdu := Function.update s.pdu 0 (pduCte s.cteInfo pdu) }

/-- `dtm_test_transmit` after its checks. -/
def transmitAccepted (b : Build) (channel length : UInt8) (s : Device) :
    Except Fault (Ret × Device) :=
  match s.packetType with
  | .vendor => dtmVendorSpecificPkt b length.toUInt32 channel.toUInt32 s
  | .ffOrVendor => .ok (.err .einval, s)
  | packetType => do
    let pdu ← inBounds
      (pduFill packetType (headerLen s.cteInfo.mode) s.packetLen.toNat (s.pdu 0))
    modulatedTest b (transmitPdu pdu s)

/-- The guards, in the source's order: the state, the channel, the length. -/
def dtmTestTransmit (b : Build) (channel length : UInt8) (pkt : DtmPacket) (s : Device) :
    Except Fault (Ret × Device) :=
  if s.state ≠ .idle then .ok (.err .ebusy, s)
  else
    let s := transmitAssign channel length pkt s
    -- the channel is stored by now, and the vendor packet skips the check
    if s.packetType ≠ .vendor ∧ physChMax < s.physCh.toNat then .ok (.err .einval, s)
    else if s.packetType.code ≠ dtmPktTypeVendorspecific ∧
        dtmPayloadMaxSize < s.packetLen.toNat then .ok (.err .einval, s)
    else transmitAccepted b channel length (transmitReset s)

/-! ### The receiver test and the end of a test -/

/-- The assignments of `dtm_test_receive`. -/
def receiveAssign (channel : UInt8) (s : Device) : Device :=
  { s with
    currentPdu := some 0
    physCh := channel.toUInt32
    rxPktCount := 0
    crcErrorCount := 0
    pdu := fun _ ↦ DtmPdu.zero }

/-- The one guard is the channel. The machine state is not looked at, so a running test is
started over. -/
def dtmTestReceive (b : Build) (channel : UInt8) (s : Device) : Except Fault (Ret × Device) :=
  if physChMax < channel.toNat then .ok (.err .einval, s)
  else do
    let s ← radioPrepare b true (receiveAssign channel s)
    pure (.ok, { s with state := .receiverTest })

/-- A test is ended where there is room for the count, and otherwise goes on. -/
def dtmTestEnd (b : Build) (packCnt : Bool) (s : Device) : Except Errno UInt16 × Device :=
  if !packCnt then (.error .einval, s)
  else (.ok s.rxPktCount, dtmTestDone b s)

/-! ### What the start of a test does -/

theorem toNat_toUInt32_le (v : UInt8) : v.toUInt32.toNat ≤ 255 := by
  rw [UInt8.toNat_toUInt32]
  exact Nat.le_of_lt_succ v.toNat_lt

/-- A refused gain is refused whatever the ramp-up time is. -/
theorem femGainRefused_congr {b : Build} {s s' : Device} (h : s'.fem.gain = s.fem.gain) :
    femGainRefused b s' = femGainRefused b s := by
  rw [femGainRefused, femGainRefused, h]

@[simp] theorem femRampUp_gain (b : Build) (rx : Bool) (s : Device) :
    (femRampUp b rx s).gain = s.fem.gain := by
  rw [femRampUp]
  split_ifs <;> rfl

/-- **The carrier test.** It stops half-way when the front-end module refuses the gain. -/
theorem carrierTest_ok {b : Build} {s : Device} {x : Ret × Device}
    (h : carrierTest b s = .ok x) :
    x = if femGainRefused b s then
        (.err .einval, { s with
          radio := x.2.radio
          fem := femRampUp b false s
          anomalyTimer := x.2.anomalyTimer })
      else
        (.ok, { s with
          radio := x.2.radio
          fem := femRampUp b false s
          anomalyTimer := x.2.anomalyTimer
          ppiRadioStart :=
            if b.fem then radioPpiConfigure false s.ppiRadioStart else s.ppiRadioStart
          timer := if b.fem then timerShortsSet femTimerShorts s.timer else s.timer
          state := .carrierTest }) := by
  obtain ⟨t, ht, h⟩ := bind_eq_ok.1 h
  have ht := radioPrepare_tx ht
  have hgain : femGainRefused b { t with radio := { t.radio with
      shorts := ⟨true, false, false, false⟩ } } = femGainRefused b s :=
    femGainRefused_congr (by rw [ht]; exact femRampUp_gain b false s)
  simp only [hgain] at h
  split at h
  · rename_i hr
    cases h
    rw [if_pos hr, ht]
  · rename_i hr
    cases h
    rw [if_neg hr, ht]

/-- A carrier test stops the device on an illegal channel: the vendor packet skips the check that
protects the modulated test from it. -/
theorem carrierTest_error {b : Build} {s : Device} {e : Fault} :
    carrierTest b s = .error e ↔ .channel = e ∧ physChMax < s.physCh.toUInt8.toNat := by
  rw [← radioPrepare_error false, carrierTest, bind_eq_error]
  refine ⟨fun h ↦ h.resolve_right ?_, .inl⟩
  rintro ⟨t, -, h⟩
  simp only [pure_eq_ok] at h
  split at h <;> cases h

/-- **The modulated test**, the same way; a refused gain leaves the packet timer set. -/
theorem modulatedTest_ok {b : Build} {s : Device} {x : Ret × Device}
    (h : modulatedTest b s = .ok x) :
    x = if femGainRefused b s then
        (.err .einval, { s with
          radio := x.2.radio
          fem := femRampUp b false s
          anomalyTimer := x.2.anomalyTimer
          timer := x.2.timer })
      else
        (.ok, { s with
          radio := x.2.radio
          fem := femRampUp b false s
          anomalyTimer := x.2.anomalyTimer
          timer := x.2.timer
          ppiRadioStart := radioTxPpiReconfigure (radioPpiConfigure false s.ppiRadioStart)
          state := .transmitterTest }) := by
  obtain ⟨t, ht, h⟩ := bind_eq_ok.1 h
  obtain ⟨interval, -, h⟩ := bind_eq_ok.1 h
  have ht := radioPrepare_tx ht
  have hgain : femGainRefused b { t with
      timer := ⟨interval, insert .compare0Clear t.timer.shorts⟩ } = femGainRefused b s :=
    femGainRefused_congr (by rw [ht]; exact femRampUp_gain b false s)
  simp only [hgain] at h
  split at h
  · rename_i hr
    cases h
    rw [if_pos hr, ht]
  · rename_i hr
    cases h
    rw [if_neg hr, ht]

/-- The modulated test has the same fault. Its callers have checked the channel by then. -/
theorem modulatedTest_error {b : Build} {s : Device} {e : Fault} (hlen : s.packetLen.toNat ≤ 255) :
    modulatedTest b s = .error e ↔ .channel = e ∧ physChMax < s.physCh.toUInt8.toNat := by
  rw [← radioPrepare_error false, modulatedTest, bind_eq_error]
  refine ⟨fun h ↦ h.resolve_right ?_, .inl⟩
  rintro ⟨t, ht, h⟩
  have hlen : t.packetLen.toNat ≤ 255 := by
    rw [radioPrepare_tx ht]
    exact hlen
  rw [dtmPacketIntervalCalculate_ok b hlen, ok_bind] at h
  simp only [pure_eq_ok] at h
  split at h <;> cases h

/-- **The payload always fits**: a header of three octets and 255 octets of payload fill the
buffer exactly. -/
theorem pduFill_isSome {pkt : DtmPacket} (hff : pkt ≠ .ffOrVendor) (hv : pkt ≠ .vendor)
    {off len : ℕ} (hoff : off ≤ 3) (hlen : len ≤ 255) (pdu : DtmPdu) :
    ∃ pdu', pduFill pkt off len pdu = some pdu' := by
  have hin : off + len ≤ 258 := by omega
  cases pkt with
  | ffOrVendor => exact absurd rfl hff
  | vendor => exact absurd rfl hv
  | prbs9 => exact ⟨_, Buffer.memcpy_eq _ hin (by rw [length_dtmPrbs9Content]; exact hlen)⟩
  | prbs15 => exact ⟨_, Buffer.memcpy_eq _ hin (by rw [length_dtmPrbs15Content]; exact hlen)⟩
  | pkt0F | pkt55 | ff | pkt00 | pktF0 | pktAA => exact ⟨_, Buffer.memset_eq _ _ hin⟩

theorem headerLen_le (mode : DtmCteMode) : headerLen mode ≤ 3 := by
  rw [headerLen]
  split_ifs <;> decide

theorem resolvePacket_ne (radioMode : RadioMode) (pkt : DtmPacket) :
    resolvePacket radioMode pkt ≠ .ffOrVendor := by
  rw [resolvePacket]
  split_ifs with hp hm
  · decide
  · decide
  · exact hp

/-- The state in which an accepted test is prepared. -/
def transmitState (channel length : UInt8) (pkt : DtmPacket) (s : Device) : Device :=
  transmitReset (transmitAssign channel length pkt s)

/-- The four ways through `dtm_test_transmit`, with what each one returns. -/
inductive TransmitResult (b : Build) (channel length : UInt8) (pkt : DtmPacket) (s : Device) :
    Except Fault (Ret × Device) → Prop
  | busy (hs : s.state ≠ .idle) : TransmitResult b channel length pkt s (.ok (.err .ebusy, s))
  | channel (hs : s.state = .idle) (hv : resolvePacket s.radioMode pkt ≠ .vendor)
      (hc : physChMax < channel.toNat) :
      TransmitResult b channel length pkt s
        (.ok (.err .einval, transmitAssign channel length pkt s))
  | vendor (hs : s.state = .idle) (hv : resolvePacket s.radioMode pkt = .vendor) :
      TransmitResult b channel length pkt s (dtmVendorSpecificPkt b length.toUInt32
        channel.toUInt32 (transmitState channel length pkt s))
  | modulated (hs : s.state = .idle) (hv : resolvePacket s.radioMode pkt ≠ .vendor)
      (hc : channel.toNat ≤ physChMax) (pdu : DtmPdu)
      (hpdu : pduFill (resolvePacket s.radioMode pkt) (headerLen s.cteInfo.mode) length.toNat
        ((transmitState channel length pkt s).pdu 0) = some pdu) :
      TransmitResult b channel length pkt s
        (modulatedTest b (transmitPdu pdu (transmitState channel length pkt s)))

theorem transmitAccepted_vendor {b : Build} {channel length : UInt8} {s : Device}
    (hv : s.packetType = .vendor) :
    transmitAccepted b channel length s =
      dtmVendorSpecificPkt b length.toUInt32 channel.toUInt32 s := by
  rw [transmitAccepted, hv]

/-- A test packet that passed the checks: its payload fits, so the access is inside the buffer. -/
theorem transmitAccepted_packet {b : Build} {channel length : UInt8} {s : Device} {pdu : DtmPdu}
    (hv : s.packetType ≠ .vendor) (hff : s.packetType ≠ .ffOrVendor)
    (hpdu : pduFill s.packetType (headerLen s.cteInfo.mode) s.packetLen.toNat (s.pdu 0) =
      some pdu) :
    transmitAccepted b channel length s =
      modulatedTest b (transmitPdu pdu s) := by
  rw [transmitAccepted]
  split
  · exact absurd ‹_› hv
  · exact absurd ‹_› hff
  · rw [hpdu, inBounds_some, ok_bind]

/-- **`dtm_test_transmit` goes one of the four ways.** The check of the length is dead code,
since the length is an octet. -/
theorem dtmTestTransmit_result (b : Build) (channel length : UInt8) (pkt : DtmPacket)
    (s : Device) :
    TransmitResult b channel length pkt s (dtmTestTransmit b channel length pkt s) := by
  rw [dtmTestTransmit]
  by_cases hs : s.state = .idle
  · rw [if_neg (not_not.2 hs)]
    by_cases hc : (transmitAssign channel length pkt s).packetType ≠ .vendor ∧
        physChMax < (transmitAssign channel length pkt s).physCh.toNat
    · simp only [if_pos hc]
      refine .channel hs hc.1 ?_
      rw [← UInt8.toNat_toUInt32]
      exact hc.2
    -- the length check cannot fail: the length is an octet
    · have hlen : ¬ dtmPayloadMaxSize < (transmitAssign channel length pkt s).packetLen.toNat :=
        Nat.not_lt.2 (toNat_toUInt32_le length)
      simp only [if_neg hc, hlen, and_false, if_false]
      by_cases hv : resolvePacket s.radioMode pkt = .vendor
      · rw [transmitAccepted_vendor hv]
        exact .vendor hs hv
      · have hlegal : channel.toNat ≤ physChMax := by
          rw [← UInt8.toNat_toUInt32]
          exact Nat.not_lt.1 fun h ↦ hc ⟨hv, h⟩
        obtain ⟨pdu, hpdu⟩ := pduFill_isSome (resolvePacket_ne s.radioMode pkt) hv
          (headerLen_le s.cteInfo.mode) (toNat_toUInt32_le length)
          ((transmitState channel length pkt s).pdu 0)
        rw [transmitAccepted_packet hv (resolvePacket_ne s.radioMode pkt) hpdu]
        exact .modulated hs hv hlegal pdu (by rwa [UInt8.toNat_toUInt32] at hpdu)
  · rw [if_pos hs]
    exact .busy hs

/-- **A packet on a legal channel goes out from an idle device** unless the front-end module refuses
the gain. -/
theorem dtmTestTransmit_modulated {b : Build} (channel length : UInt8) {pkt : DtmPacket}
    {s : Device} (hs : s.state = .idle) (hv : resolvePacket s.radioMode pkt ≠ .vendor)
    (hc : channel.toNat ≤ physChMax) (hgain : femGainRefused b s = false) :
    ∃ pdu radio anomalyTimer timer,
      pduFill (resolvePacket s.radioMode pkt) (headerLen s.cteInfo.mode) length.toNat
        ((transmitState channel length pkt s).pdu 0) = some pdu ∧
      dtmTestTransmit b channel length pkt s =
        .ok (.ok, { transmitPdu pdu (transmitState channel length pkt s) with
          radio := radio
          fem := femRampUp b false s
          anomalyTimer := anomalyTimer
          timer := timer
          ppiRadioStart := radioTxPpiReconfigure (radioPpiConfigure false s.ppiRadioStart)
          state := .transmitterTest }) := by
  have hresult := dtmTestTransmit_result b channel length pkt s
  generalize hr : dtmTestTransmit b channel length pkt s = r at hresult
  cases hresult with
  | busy hbusy => exact absurd hs hbusy
  | channel hs hv hc' => omega
  | vendor hs hv' => exact absurd hv' hv
  | modulated hs hv hc pdu hpdu =>
    rcases hx : modulatedTest b (transmitPdu pdu (transmitState channel length pkt s)) with e | x
    -- the only assertion on the way is the one on the channel
    · have hch := ((modulatedTest_error (toNat_toUInt32_le length)).1 hx).2
      rw [show (transmitPdu pdu (transmitState channel length pkt s)).physCh = channel.toUInt32
        from rfl, UInt8.toUInt8_toUInt32] at hch
      omega
    · have hok := modulatedTest_ok hx
      have hsame : femGainRefused b (transmitPdu pdu (transmitState channel length pkt s)) =
          femGainRefused b s := femGainRefused_congr rfl
      rw [hsame, hgain] at hok
      exact ⟨pdu, x.2.radio, x.2.anomalyTimer, x.2.timer, hpdu, congrArg Except.ok hok⟩

/-! ### What a transmit call leaves behind -/

/-- **What `dtm_test_transmit` can do** when it comes to an end: its guards, what it returns and the
device it leaves behind. A refused gain stops either kind of test half-way. -/
inductive TransmitOk (b : Build) (channel length : UInt8) (pkt : DtmPacket) (s : Device) :
    Ret × Device → Prop
  | busy (hs : s.state ≠ .idle) : TransmitOk b channel length pkt s (.err .ebusy, s)
  | channel (hs : s.state = .idle) (hv : resolvePacket s.radioMode pkt ≠ .vendor)
      (hc : physChMax < channel.toNat) :
      TransmitOk b channel length pkt s (.err .einval, transmitAssign channel length pkt s)
  | setting (hs : s.state = .idle) (hv : resolvePacket s.radioMode pkt = .vendor)
      (hl : carrierLength length = false) {ret : Ret} (hret : ret.OkOrEinval) (txpower : UInt8)
      (fem : FemParameters) :
      TransmitOk b channel length pkt s
        (ret, { transmitState channel length pkt s with txpower := txpower, fem := fem })
  | refused (hs : s.state = .idle) (hgain : femGainRefused b s = true) (pdu : Fin 2 → DtmPdu)
      (radio : Radio) (anomalyTimer : AnomalyTimer) (timer : PacketTimer) :
      TransmitOk b channel length pkt s
        (.err .einval, { transmitState channel length pkt s with
          pdu := pdu
          radio := radio
          fem := femRampUp b false s
          anomalyTimer := anomalyTimer
          timer := timer })
  | carrier (hs : s.state = .idle) (hv : resolvePacket s.radioMode pkt = .vendor)
      (hl : carrierLength length = true) (hgain : femGainRefused b s = false) (radio : Radio)
      (anomalyTimer : AnomalyTimer) :
      TransmitOk b channel length pkt s
        (.ok, { transmitState channel length pkt s with
          radio := radio
          fem := femRampUp b false s
          anomalyTimer := anomalyTimer
          ppiRadioStart :=
            if b.fem then radioPpiConfigure false s.ppiRadioStart else s.ppiRadioStart
          timer := if b.fem then timerShortsSet femTimerShorts s.timer else s.timer
          state := .carrierTest })
  | modulated (hs : s.state = .idle) (hv : resolvePacket s.radioMode pkt ≠ .vendor)
      (hc : channel.toNat ≤ physChMax) (hgain : femGainRefused b s = false) (pdu : DtmPdu)
      (hpdu : pduFill (resolvePacket s.radioMode pkt) (headerLen s.cteInfo.mode) length.toNat
        ((transmitState channel length pkt s).pdu 0) = some pdu)
      (radio : Radio) (anomalyTimer : AnomalyTimer) (timer : PacketTimer) :
      TransmitOk b channel length pkt s
        (.ok, { transmitPdu pdu (transmitState channel length pkt s) with
          radio := radio
          fem := femRampUp b false s
          anomalyTimer := anomalyTimer
          timer := timer
          ppiRadioStart := radioTxPpiReconfigure (radioPpiConfigure false s.ppiRadioStart)
          state := .transmitterTest })

/-- **The inversion of a transmit call.** It is `dtmTestTransmit_result` with the vendor commands
and the start of the test spelled out, and without their faults. -/
theorem dtmTestTransmit_ok {b : Build} {channel length : UInt8} {pkt : DtmPacket} {s : Device}
    {x : Ret × Device} (h : dtmTestTransmit b channel length pkt s = .ok x) :
    TransmitOk b channel length pkt s x := by
  have hresult := dtmTestTransmit_result b channel length pkt s
  generalize dtmTestTransmit b channel length pkt s = r at h hresult
  cases hresult with
  | busy hs =>
    cases h
    exact .busy hs
  | channel hs hv hc =>
    cases h
    exact .channel hs hv hc
  | vendor hs hv =>
    -- the length octet tells the carrier test from the settings
    cases hl : carrierLength length with
    | false =>
      obtain ⟨ret, txpower, fem, hret, heq⟩ := dtmVendorSpecificPkt_setting b channel.toUInt32
        (transmitState channel length pkt s) hl
      cases heq.symm.trans h
      exact .setting hs hv hl hret txpower fem
    | true =>
      rw [dtmVendorSpecificPkt_carrier b _ _ hl] at h
      have hgain : femGainRefused b (transmitState channel length pkt s) = femGainRefused b s :=
        femGainRefused_congr rfl
      rw [carrierTest_ok h, hgain]
      split
      case isTrue hr => exact .refused hs hr _ _ _ _
      case isFalse hr => exact .carrier hs hv hl (Bool.eq_false_iff.2 hr) _ _
  | modulated hs hv hc pdu hpdu =>
    have hgain : femGainRefused b (transmitPdu pdu (transmitState channel length pkt s)) =
        femGainRefused b s := femGainRefused_congr rfl
    rw [modulatedTest_ok h, hgain]
    split
    case isTrue hr => exact .refused hs hr _ _ _ _
    case isFalse hr => exact .modulated hs hv hc (Bool.eq_false_iff.2 hr) pdu hpdu _ _ _

/-- **An idle device is never busy.** -/
theorem dtmTestTransmit_ret {b : Build} {channel length : UInt8} {pkt : DtmPacket} {s : Device}
    {x : Ret × Device} (hs : s.state = .idle)
    (h : dtmTestTransmit b channel length pkt s = .ok x) : x.1.OkOrEinval := by
  cases dtmTestTransmit_ok h with
  | busy hbusy => exact absurd hs hbusy
  | channel | refused => exact .inr rfl
  | setting _ _ _ hret => exact hret
  | carrier | modulated => exact .inl rfl

/-! ### What is left of the preparation -/

/-- The radio and the anomaly timer are as a preparation left them: starting the radio writes its
shortcuts and its trigger only. -/
structure StartedFrom (t s' : Device) : Prop where
  radio : s'.radio = { t.radio with shorts := s'.radio.shorts, trigger := s'.radio.trigger }
  anomalyTimer : s'.anomalyTimer = t.anomalyTimer

theorem carrierTest_prepared {b : Build} {s : Device} {x : Ret × Device}
    (h : carrierTest b s = .ok x) : ∃ t, radioPrepare b false s = .ok t ∧ StartedFrom t x.2 := by
  obtain ⟨t, ht, h⟩ := bind_eq_ok.1 h
  refine ⟨t, ht, ?_⟩
  simp only [pure_eq_ok] at h
  split at h
  · cases h
    exact ⟨rfl, rfl⟩
  · cases h
    refine ⟨?_, rfl⟩
    simp only
    rw [radioStart_eq]

/-- The radio and the anomaly timer of a modulated test are those of the preparation, also where
the gain is then refused. Starting the radio comes after and adds the trigger. -/
theorem modulatedTest_prepared {b : Build} {s : Device} {x : Ret × Device}
    (h : modulatedTest b s = .ok x) : ∃ t, radioPrepare b false s = .ok t ∧ StartedFrom t x.2 := by
  obtain ⟨t, ht, h⟩ := bind_eq_ok.1 h
  obtain ⟨interval, -, h⟩ := bind_eq_ok.1 h
  refine ⟨t, ht, ?_⟩
  simp only [pure_eq_ok] at h
  split at h
  · cases h
    exact ⟨rfl, rfl⟩
  · cases h
    refine ⟨?_, rfl⟩
    simp only
    rw [radioStart_eq]

/-- The call prepares the radio. So does one whose gain is refused, and so does a carrier test. -/
def transmitPrepares (channel length : UInt8) (pkt : DtmPacket) (s : Device) : Bool :=
  s.state == .idle && if resolvePacket s.radioMode pkt = .vendor then carrierLength length
    else decide (channel.toNat ≤ physChMax)

/-- **What a transmit call makes of the radio**: what the preparation makes of it, with a PDU in
place, or nothing. -/
theorem dtmTestTransmit_prepared {b : Build} {channel length : UInt8} {pkt : DtmPacket}
    {s : Device} {x : Ret × Device} (h : dtmTestTransmit b channel length pkt s = .ok x) :
    (transmitPrepares channel length pkt s = true ∧ ∃ pdu t,
      radioPrepare b false { transmitState channel length pkt s with pdu := pdu } = .ok t ∧
        StartedFrom t x.2) ∨
      transmitPrepares channel length pkt s = false ∧ x.2.radio = s.radio ∧
        x.2.anomalyTimer = s.anomalyTimer := by
  rw [transmitPrepares]
  have hresult := dtmTestTransmit_result b channel length pkt s
  generalize dtmTestTransmit b channel length pkt s = r at h hresult
  cases hresult with
  | busy hbusy =>
    cases h
    exact .inr ⟨by rw [beq_false_of_ne hbusy]; rfl, rfl, rfl⟩
  | channel hidle hv hc =>
    cases h
    refine .inr ⟨?_, rfl, rfl⟩
    rw [if_neg hv, decide_eq_false (Nat.not_le.2 hc), Bool.and_false]
  -- a carrier prepares the radio, a setting does not
  | vendor hidle hv =>
    rw [if_pos hv, hidle]
    cases hl : carrierLength length with
    | false =>
      obtain ⟨ret, txpower, fem, -, heq⟩ := dtmVendorSpecificPkt_setting b channel.toUInt32
        (transmitState channel length pkt s) hl
      cases heq.symm.trans h
      exact .inr ⟨rfl, rfl, rfl⟩
    | true =>
      rw [dtmVendorSpecificPkt_carrier b _ _ hl] at h
      exact .inl ⟨rfl, (transmitState channel length pkt s).pdu, carrierTest_prepared h⟩
  | modulated hidle hv hc pdu hpdu =>
    refine .inl ⟨?_, _, modulatedTest_prepared h⟩
    rw [hidle, if_neg hv, decide_eq_true hc]
    rfl

/-- The radio is handed the current buffer. -/
theorem modulatedTest_packetPtr {b : Build} {s : Device} {x : Ret × Device}
    (h : modulatedTest b s = .ok x) : x.2.radio.packetPtr = s.currentPdu := by
  obtain ⟨t, ht, hstarted⟩ := modulatedTest_prepared h
  rw [hstarted.radio]
  exact radioPrepare_packetPtr ht

/-- **A test packet is sent from the first buffer.** -/
theorem dtmTestTransmit_packetPtr {b : Build} {channel length : UInt8} {pkt : DtmPacket}
    {s s' : Device} (hv : resolvePacket s.radioMode pkt ≠ .vendor)
    (h : dtmTestTransmit b channel length pkt s = .ok (.ok, s')) :
    s'.radio.packetPtr = some 0 := by
  have hresult := dtmTestTransmit_result b channel length pkt s
  generalize dtmTestTransmit b channel length pkt s = r at h hresult
  cases hresult with
  | busy | channel => cases h
  | vendor hs hv' => exact absurd hv' hv
  | modulated => exact modulatedTest_packetPtr h

/-! ### The receiver test -/

/-- The device after an accepted receiver test, up to the radio registers. -/
def receiveState (b : Build) (channel : UInt8) (radio : Radio) (s : Device) : Device :=
  { receiveAssign channel s with
    state := .receiverTest
    radio := radio
    fem := femRampUp b true s
    strictMode := (b.errata172Present && s.anomaly172WaEnabled) || s.strictMode
    ppiRadioStart := if b.fem then radioPpiConfigure true s.ppiRadioStart else s.ppiRadioStart
    timer := if b.fem then timerShortsSet femTimerShorts s.timer else s.timer }

/-- **A receiver test on a legal channel starts in every state.** -/
theorem dtmTestReceive_legal (b : Build) {channel : UInt8} (s : Device)
    (hc : channel.toNat ≤ physChMax) :
    ∃ radio, radio.packetPtr = some 0 ∧
      dtmTestReceive b channel s = .ok (.ok, receiveState b channel radio s) := by
  rw [dtmTestReceive, if_neg (Nat.not_lt.2 hc)]
  rcases h : radioPrepare b true (receiveAssign channel s) with e | t
  · have hch := ((radioPrepare_error true).1 h).2
    rw [show (receiveAssign channel s).physCh = channel.toUInt32 from rfl,
      UInt8.toUInt8_toUInt32] at hch
    omega
  · obtain ⟨hptr, ht⟩ := radioPrepare_rx h
    refine ⟨t.radio, hptr, ?_⟩
    rw [ok_bind, pure_eq_ok, ht]
    rfl

/-- A receiver test starts over a Transmitter Test, and the transmit task stays on the channel. -/
theorem dtmTestReceive_over_transmit {b : Build} (channel length channel' : UInt8)
    {pkt : DtmPacket} {s : Device} (hs : s.state = .idle)
    (hv : resolvePacket s.radioMode pkt ≠ .vendor) (hc : channel.toNat ≤ physChMax)
    (hgain : femGainRefused b s = false) (hc' : channel'.toNat ≤ physChMax) :
    ∃ s₁ s₂, dtmTestTransmit b channel length pkt s = .ok (.ok, s₁) ∧
      s₁.state = .transmitterTest ∧ s₁.physCh = channel.toUInt32 ∧
      dtmTestReceive b channel' s₁ = .ok (.ok, s₂) ∧
      s₂.state = .receiverTest ∧ s₂.physCh = channel'.toUInt32 ∧
      .radioTxen ∈ s₂.ppiRadioStart.tasks := by
  obtain ⟨pdu, radio, anomalyTimer, timer, -, htx⟩ :=
    dtmTestTransmit_modulated (b := b) channel length hs hv hc hgain
  obtain ⟨radio', -, hrx⟩ := dtmTestReceive_legal b
    { transmitPdu pdu (transmitState channel length pkt s) with
      radio := radio
      fem := femRampUp b false s
      anomalyTimer := anomalyTimer
      timer := timer
      ppiRadioStart := radioTxPpiReconfigure (radioPpiConfigure false s.ppiRadioStart)
      state := .transmitterTest } hc'
  refine ⟨_, _, htx, rfl, rfl, hrx, rfl, rfl, ?_⟩
  have htxen : .radioTxen ∈
      (radioTxPpiReconfigure (radioPpiConfigure false s.ppiRadioStart)).tasks :=
    Finset.mem_insert_self _ _
  rw [receiveState]
  split
  · exact Finset.mem_insert_of_mem (Finset.mem_insert_of_mem htxen)
  · exact htxen

/-- **An illegal channel is refused before anything is written.** The transmitter test does not
share this. -/
theorem dtmTestReceive_illegal (b : Build) {channel : UInt8} (s : Device)
    (hc : physChMax < channel.toNat) : dtmTestReceive b channel s = .ok (.err .einval, s) :=
  if_pos hc

/-! ### The frame of starting and ending a test -/

/-- The fields that starting and ending a test leave alone. -/
structure KeepsSettings (s s' : Device) : Prop where
  packetHdrPlen : s'.packetHdrPlen = s.packetHdrPlen
  anomaly172WaEnabled : s'.anomaly172WaEnabled = s.anomaly172WaEnabled
  radioMode : s'.radioMode = s.radioMode
  cteInfo : s'.cteInfo = s.cteInfo
  timerInit : s'.timerInit = s.timerInit
  patterns : s'.patterns = s.patterns
  iqReports : s'.iqReports = s.iqReports

theorem KeepsSettings.refl (s : Device) : KeepsSettings s s := by
  constructor <;> rfl

theorem dtmTestDone_keepsSettings (b : Build) (s : Device) : KeepsSettings s (dtmTestDone b s) := by
  constructor <;> rfl

/-- A transmit call keeps the settings, whether it is refused or not. The channel and the length
are not among them. -/
theorem dtmTestTransmit_keepsSettings {b : Build} {channel length : UInt8} {pkt : DtmPacket}
    {s : Device} {x : Ret × Device} (h : dtmTestTransmit b channel length pkt s = .ok x) :
    KeepsSettings s x.2 := by
  cases dtmTestTransmit_ok h with
  | busy => exact .refl s
  | channel | setting | refused | carrier | modulated => constructor <;> rfl

theorem dtmTestReceive_keepsSettings {b : Build} {channel : UInt8} {s : Device}
    {x : Ret × Device} (h : dtmTestReceive b channel s = .ok x) : KeepsSettings s x.2 := by
  rcases Nat.lt_or_ge physChMax channel.toNat with hc | hc
  · cases (dtmTestReceive_illegal b s hc).symm.trans h
    exact .refl s
  · obtain ⟨radio, -, heq⟩ := dtmTestReceive_legal b s hc
    cases heq.symm.trans h
    constructor <;> rfl

theorem dtmTestEnd_keepsSettings (b : Build) (packCnt : Bool) (s : Device) :
    KeepsSettings s (dtmTestEnd b packCnt s).2 := by
  cases packCnt
  · exact .refl s
  · exact dtmTestDone_keepsSettings b s

end DirectTestMode
