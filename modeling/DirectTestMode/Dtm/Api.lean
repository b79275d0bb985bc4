import DirectTestMode.Machine.Prog
import DirectTestMode.Dtm.Receive

/-!
# The library as a machine

`dtm` is the interface of `dtm.h` and `api` its meaning on a `Device`. A device takes a `Call`, or
an interrupt; `Device.step` is that machine, and its runs are `Fallible.run (Device.step b)`.

The calls are data, with the type of each answer computed from the call. So the transports are
written once, as programs over the interface: they are run on a device by `Prog.run (api b)`, and
what they can call is visible in their type. The same calls are the inputs of the machine, which is
how a statement over every order of calls and interrupts is one about lists of inputs.

An interrupt is taken between two calls and never within one. The handlers have a higher priority
than the command loop, so on the chip one may also come in the middle of a call; those interleavings
are left out.

The calls fall into two kinds with a frame lemma each. A set-up call leaves the running test alone
(`api_keepsTest`), and the other four leave the settings alone (`api_keepsSettings`). Between them
they say of every field which calls can write it, and the invariants of the device are proved from
the two instead of from fourteen functions.
-/

namespace DirectTestMode

open Fallible

/-- A call of the API, arguments included. -/
inductive Call
  | init (env : InitEnv) (callback : Option CodePtr)
  | setupPrepare
  | setupReset
  | setupSetPhy (phy : DtmPhy)
  | setupSetModulation (modulation : DtmModulation)
  | setupReadFeatures
  | setupReadMaxSupportedValue (parameter : DtmMaxSupported) (maxVal : Bool)
  | setupSetCteMode (type : DtmCteType) (time : UInt8)
  | setupSetCteSlot (slot : UInt8)
  | setupSetAntennaParams (count : UInt8) (pattern : PatternPtr) (patternLen : UInt8)
  | setupSetTransmitPower (power : DtmTxPowerRequest) (val : Int8) (channel : UInt8)
  | testReceive (channel : UInt8)
  | testTransmit (channel length : UInt8) (pkt : DtmPacket)
  | testEnd (packCnt : Bool)

/-- What a call returns. -/
def Call.Res : Call → Type
  | setupPrepare => Unit
  | setupReadFeatures => DtmSuppFeatures
  | setupReadMaxSupportedValue _ _ => Except Errno UInt16
  | setupSetTransmitPower _ _ _ => DtmTxPower
  | testEnd _ => Except Errno UInt16
  | init _ _ | setupReset | setupSetPhy _ | setupSetModulation _ | setupSetCteMode _ _
  | setupSetCteSlot _ | setupSetAntennaParams _ _ _ | testReceive _ | testTransmit _ _ _ => Ret

/-- The interface of `dtm.h`. -/
def dtm : Interface := ⟨Call, Call.Res⟩

/-- The meaning of the calls. -/
def api (b : Build) : dtm.Handler Device Fault
  | .init env callback, s => dtmInit b env callback s
  | .setupPrepare, s => .ok ((), dtmSetupPrepare b s)
  | .setupReset, s => dtmSetupReset b s
  | .setupSetPhy phy, s => dtmSetupSetPhy b phy s
  | .setupSetModulation modulation, s => .ok (dtmSetupSetModulation modulation, s)
  | .setupReadFeatures, s => .ok (dtmSetupReadFeatures b, s)
  | .setupReadMaxSupportedValue parameter maxVal, s =>
    .ok (dtmSetupReadMaxSupportedValue b parameter maxVal, s)
  | .setupSetCteMode type time, s => .ok (dtmSetupSetCteMode b type time s)
  | .setupSetCteSlot slot, s => .ok (dtmSetupSetCteSlot b slot s)
  | .setupSetAntennaParams count pattern patternLen, s =>
    .ok (dtmSetupSetAntennaParams b count pattern patternLen s)
  | .setupSetTransmitPower power val channel, s => dtmSetupSetTransmitPower b power val channel s
  | .testReceive channel, s => dtmTestReceive b channel s
  | .testTransmit channel length pkt, s => dtmTestTransmit b channel length pkt s
  | .testEnd packCnt, s => .ok (dtmTestEnd b packCnt s)

/-- What can happen to a device. -/
inductive Input
  | call (c : Call)
  | radio (ev : RadioEvent)
  | anomaly (ev : AnomalyEvent)

/-- One call or interrupt. -/
def Device.step (b : Build) (s : Device) : Input → Except Fault Device
  | .call c => Prog.opStep (I := dtm) (api b) s c
  | .radio ev => radioIrq b ev s
  | .anomaly ev => .ok (if b.errata172Present then anomalyTimerHandler ev s else s)

/-! ### The two kinds of calls -/

/-- The set-up calls: all but the four that start or end a test. -/
def Call.isSetup : Call → Bool
  | setupPrepare | testReceive _ | testTransmit _ _ _ | testEnd _ => false
  | _ => true

/-- The set-up calls that go through the initialisation of the radio. -/
def Call.initialises : Call → Bool
  | init _ _ | setupReset | setupSetPhy _ => true
  | _ => false

/-- **Any other set-up call is a setting**: it writes the settings of the constant tone extension
and the power level. -/
theorem api_setting {b : Build} {c : Call} {s : Device} {x : dtm.Res c × Device}
    (hc : c.isSetup = true) (hinit : c.initialises = false) (h : api b c s = .ok x) :
    x.2 = { s with
      cteInfo := { x.2.cteInfo with data := s.cteInfo.data, iqRepCb := s.cteInfo.iqRepCb }
      txpower := x.2.txpower } := by
  cases c with
  | setupSetModulation | setupReadFeatures | setupReadMaxSupportedValue =>
    cases h
    rfl
  | setupSetCteMode type time =>
    cases h
    rw [dtmSetupSetCteMode]
    split_ifs <;> rfl
  | setupSetCteSlot slot =>
    cases h
    rw [dtmSetupSetCteSlot]
    split
    · rfl
    · split <;> rfl
  | setupSetAntennaParams count pattern patternLen =>
    cases h
    rw [dtmSetupSetAntennaParams]
    split_ifs <;> rfl
  | setupSetTransmitPower power val channel => rw [dtmSetupSetTransmitPower_ok h]
  | init | setupReset | setupSetPhy => cases hinit
  | setupPrepare | testReceive | testTransmit | testEnd => cases hc

/-- **A set-up call leaves the test alone**, unless it is the first initialisation. -/
theorem api_keepsTest {b : Build} {c : Call} {s : Device} {x : dtm.Res c × Device}
    (hinit : ∀ env callback, c = .init env callback → s.timerInit = true)
    (hc : c.isSetup = true) (h : api b c s = .ok x) : KeepsTest s x.2 := by
  cases c with
  | init env callback =>
    obtain ⟨e, he⟩ := dtmInit_again b env callback (hinit env callback rfl)
    cases he.symm.trans h
    exact .refl s
  | setupReset => exact dtmSetupReset_keepsTest h
  | setupSetPhy phy => exact dtmSetupSetPhy_keepsTest h
  | setupSetModulation | setupReadFeatures | setupReadMaxSupportedValue | setupSetCteMode
  | setupSetCteSlot | setupSetAntennaParams | setupSetTransmitPower =>
    rw [api_setting hc rfl h]
    constructor <;> rfl
  | setupPrepare | testReceive | testTransmit | testEnd => cases hc

/-- **The other calls leave the settings alone.** -/
theorem api_keepsSettings {b : Build} {c : Call} {s : Device} {x : dtm.Res c × Device}
    (hc : c.isSetup = false) (h : api b c s = .ok x) : KeepsSettings s x.2 := by
  cases c with
  | setupPrepare =>
    cases h
    exact dtmTestDone_keepsSettings b s
  | testReceive channel => exact dtmTestReceive_keepsSettings h
  | testTransmit channel length pkt => exact dtmTestTransmit_keepsSettings h
  | testEnd packCnt =>
    cases h
    exact dtmTestEnd_keepsSettings b packCnt s
  | init | setupReset | setupSetPhy | setupSetModulation | setupReadFeatures
  | setupReadMaxSupportedValue | setupSetCteMode | setupSetCteSlot | setupSetAntennaParams
  | setupSetTransmitPower => cases hc

theorem Device.step_anomaly_keepsSetup {b : Build} {ev : AnomalyEvent} {s s' : Device}
    (h : s.step b (.anomaly ev) = .ok s') : KeepsSetup s s' := by
  cases h
  split
  · exact anomalyTimerHandler_keepsSetup ev s
  · exact .refl s

end DirectTestMode
