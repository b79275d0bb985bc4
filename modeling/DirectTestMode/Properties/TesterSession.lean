import DirectTestMode.Properties.Accounting
import DirectTestMode.Properties.PduContent
import DirectTestMode.Properties.Tuned
import DirectTestMode.Properties.TwowireLink

/-!
# What a tester talks to

Behind the shared command core is a library with buffers, registers, power tables and errata. A
tester sees four phases and a number. `Session` is that machine: what runs and how many packets have
been counted, the channel last given, the upper bits of the length and the gain of the front-end
module. `Session.put` is its answer to a command word and `Session.hears` what a packet on the air
does to it. There is no PHY and no constant tone extension in it, since the core has no command for
either.

The firmware is this machine, word for word, interrupt for interrupt, and assertion for assertion
(`session_refined`). So what the tester reads on the wire are the answers of a session
(`TwowireNode.reads_session`).

## What had to stay in it

The machine is as small as the firmware allows, and three of its fields are there for a defect or a
corner.

* The **channel** is stored by a refused transmission, and a carrier and an initialisation of the
  radio under the automatic power control look at it later, under an assertion.
* The **upper bits** change what a vendor command means.
* The **gain** decides whether a transmission starts, and a vendor command sets it.

Everything else that the library keeps is a function of these and of the build, or never comes back
to the tester.

## The refinement

`Session.Shows` is the relation. Its part about the device is `Session.Fits`, six equations, and the
invariant `Device.Tuned`, from which the power level is known to be one of the chip's and the
buffers of a reception to be in place. Each call of the library is one lemma (`Session.reset_agrees`
and those after it) with `SameOutcome` for a conclusion: both sides stop with one fault, or both go
on and agree. A word is a case of its class (`Session.put_told`), an interrupt one of two
(`Session.hears_agrees`), and the run lemma needs nothing more.

An answer is abstract, `Answer`, and its word is the encoding of the shared core with all that is
wrong with it: a success is `0x0001`, and a count loses its sixteenth bit.
-/

namespace DirectTestMode

open Fallible

/-! ### The machine -/

/-- What is running. A reception has counted some packets. -/
inductive Phase
  | idle
  | receiving (count : ℕ)
  | transmitting
  | carrier
  deriving DecidableEq

/-- What the tester is told. -/
inductive Answer
  | done (data : UInt16)
  | refused
  | packets (count : ℕ)
  deriving DecidableEq

def Answer.ofBool (done : Bool) : Answer := if done then .done 0 else .refused

/-- The word of an answer. -/
def Answer.word : Answer → UInt16
  | done data => 0x0001 ||| data
  | refused => 0x0000
  | packets count => 0x8000 ||| UInt16.ofNat count

structure Session where
  phase : Phase
  /-- The channel that was given last. -/
  channel : UInt8
  /-- The upper bits of the length. -/
  upper : UInt8
  /-- The gain of the front-end module. -/
  gain : UInt32
  deriving DecidableEq

namespace Phase

def count : Phase → ℕ
  | receiving count => count
  | idle | transmitting | carrier => 0

/-- A reset does not end what is running. A reception starts to count again. -/
def restart : Phase → Phase
  | receiving _ => receiving 0
  | phase => phase

end Phase

instance (phy : DtmPhy) (pdu : DtmPdu) : Decidable (phy.Legal pdu) :=
  decidable_of_iff ((pdu 0 &&& 0x0F).toNat ≤ phy.lastCode ∧ pdu.slice 2 (pdu 1).toNat =
    some (referencePayload (pdu 1).toNat (pdu 0 &&& 0x0F).toNat))
    ⟨fun h ↦ ⟨h.1, h.2⟩, fun h ↦ ⟨h.code, h.payload⟩⟩

/-- The end of a legal test packet of the 1M PHY. -/
def RadioEvent.IsTestPacket (ev : RadioEvent) : Prop :=
  ev.ended = true ∧ ev.crcOk = true ∧ DtmPhy.phy1m.Legal ev.content

instance (ev : RadioEvent) : Decidable ev.IsTestPacket :=
  inferInstanceAs (Decidable (_ ∧ _))

namespace Session

variable (b : Build)

/-- After the initialisation. -/
def initial : Session := ⟨.idle, 0, 0, femUseDefaultGain⟩

/-- With the automatic power control a reset looks at the channel. -/
def reset (v : Session) : Except Fault (Answer × Session) :=
  if b.powerControlAutomatic = true ∧ physChMax < v.channel.toNat then .error .channel
  else .ok (.done 0, { v with phase := v.phase.restart, upper := 0 })

/-- The largest value of a parameter. -/
def maximum : DtmMaxSupported → Answer
  | .txOctets | .rxOctets => .done (nrfMaxPayloadOctets <<< 1)
  | .txTime | .rxTime => .done (b.maxRxTxTime <<< 1)
  | .cteLength => if b.directionFinding then .done (nrfCteMaxLength <<< 1) else .refused

def setup (v : Session) (control parameter : UInt8) : Except Fault (Answer × Session) :=
  match DtmCtrlCode.ofCode control with
  | some .reset => v.reset b
  | some .setUpper => .ok (.done 0, { v with upper := upperBits parameter })
  | some .readSupported =>
    .ok (if parameter.toNat ≤ 3 then .done (featureBits (dtmSetupReadFeatures b)) else .refused, v)
  | some .readMax => .ok ((maxSupportedOf parameter).elim .refused (maximum b), v)
  | _ => .ok (.refused, v)

/-- A reception starts whatever runs. -/
def receive (v : Session) (channel : UInt8) : Answer × Session :=
  if channel.toNat ≤ physChMax then
    (.done 0, { v with phase := .receiving 0, channel := channel })
  else (.refused, v)

/-- A vendor command other than the carrier test. Its option is the channel. -/
def setting (v : Session) : DtmVsSubcmd → Answer × Session
  | .setTxPower =>
    (.ofBool (!b.powerControlAutomatic &&
      decide ((txpowerOctet v.channel.toUInt32).toUInt32 ∈ b.nrfPowerValue)), v)
  | .femAntennaSelect =>
    (.ofBool (b.fem && b.femLib.antennaSelect v.channel.toUInt32 == .ok), v)
  | .femGainSet =>
    if b.fem && !b.powerControlAutomatic then (.done 0, { v with gain := v.channel.toUInt32 })
    else (.refused, v)
  | .femRampUpSet => (.ofBool b.fem, v)
  | .femDefaultParamsSet =>
    if b.fem then
      (.ofBool (b.femLib.antennaSelect b.femLib.antenna1 == .ok),
        { v with gain := femUseDefaultGain })
    else (.refused, v)
  | .carrierTest | .carrierTestStudio => (.refused, v)

/-- A carrier test does not check its channel. -/
def carrier (v : Session) : Except Fault (Answer × Session) :=
  if physChMax < v.channel.toNat then .error .channel
  else if Settings.gainRefused b v.gain then .ok (.refused, v)
  else .ok (.done 0, { v with phase := .carrier })

/-- The length selects a vendor command. -/
def vendor (v : Session) (length : UInt8) : Except Fault (Answer × Session) :=
  match DtmVsSubcmd.ofCode length.toUInt32 with
  | none => .ok (.refused, v)
  | some .carrierTest | some .carrierTestStudio => v.carrier b
  | some cmd => .ok (v.setting b cmd)

/-- A transmission starts from idle only. Its channel is taken note of before it is looked at. -/
def transmit (v : Session) (channel length : UInt8) (type : DtmPktType) :
    Except Fault (Answer × Session) :=
  if v.phase ≠ .idle then .ok (.refused, v)
  else if type = .pkt0xFFOrVs then vendor b { v with channel := channel } length
  else if channel.toNat ≤ physChMax && !Settings.gainRefused b v.gain then
    .ok (.done 0, { v with phase := .transmitting, channel := channel })
  else .ok (.refused, { v with channel := channel })

def testEnd (v : Session) (control parameter : UInt8) : Answer × Session :=
  if control = 0 ∧ parameter.toNat ≤ 10 then
    (.packets v.phase.count, { v with phase := .idle })
  else (.refused, v)

/-- The answer to a command word. -/
def put (v : Session) (cmd : UInt16) : Except Fault (Answer × Session) :=
  match DtmCmdCode.ofCode (cmdCode cmd), DtmPktType.ofCode (cmdType cmd) with
  | some .testSetup, _ => v.setup b (cmdControl cmd) (cmdParameter cmd)
  | some .receiverTest, _ => .ok (v.receive (cmdChan cmd))
  | some .transmitterTest, some type =>
    v.transmit b (cmdChan cmd) (withUpperLen (cmdLength cmd) v.upper) type
  | some .testEnd, _ => .ok (v.testEnd (cmdControl cmd) (cmdParameter cmd))
  | _, _ => .ok (.refused, v)

/-- A reception counts test packets. -/
def hears (v : Session) (ev : RadioEvent) : Session :=
  match v.phase with
  | .receiving count => if ev.IsTestPacket then { v with phase := .receiving (count + 1) } else v
  | _ => v

/-- The machine with its answers so far. -/
def noted (t : Session × List Answer) : FirmwareInput → Except Fault (Session × List Answer)
  | .word cmd => do
    let x ← t.1.put b cmd
    pure (x.2, t.2 ++ [x.1])
  | .radio ev => .ok (t.1.hears ev, t.2)
  | .uartWord _ | .hci _ _ | .anomaly _ | .txDone => .ok t

end Session

/-! ### What a session shows of a device -/

variable {b : Build} {q : ℕ}

/-- The machine state of a phase. -/
def Phase.state : Phase → DtmState
  | idle => .idle
  | receiving _ => .receiverTest
  | transmitting => .transmitterTest
  | carrier => .carrierTest

/-- The device is in the phase, with its PHY and its CTE mode as they are without a command for
them. -/
structure Session.Fits (v : Session) (s : Device) : Prop where
  state : s.state = v.phase.state
  count : s.rxPktCount = UInt16.ofNat v.phase.count
  channel : s.physCh = v.channel.toUInt32
  phy : s.radioMode = .ble1Mbit
  cteOff : s.cteInfo.mode = .off
  gain : s.fem.gain = v.gain

/-- The session shows the firmware. -/
structure Session.Shows (b : Build) (v : Session) (f : Firmware) : Prop where
  tuned : f.device.Tuned b
  fits : v.Fits f.device
  upper : f.upperLen = v.upper

/-- The answer that a return value stands for. -/
def Answer.ofRet : Ret → Answer
  | .ok => .done 0
  | .err _ => .refused

/-- An outcome of the library and one of the session, which has these upper bits. -/
structure Session.Agrees (upper : UInt8) (x : Ret × Device) (y : Answer × Session) : Prop where
  answer : y.1 = Answer.ofRet x.1
  fits : y.2.Fits x.2
  upper : y.2.upper = upper

/-! ### The calls of the library -/

variable {v : Session} {s : Device}

theorem Phase.restart_state (p : Phase) : p.restart.state = p.state := by
  cases p <;> rfl

theorem Phase.restart_count (p : Phase) : p.restart.count = 0 := by
  cases p <;> rfl

/-- The stored channel, as the octet that it came from. -/
theorem Session.Fits.channel_toNat (hv : v.Fits s) : s.physCh.toUInt8.toNat = v.channel.toNat := by
  rw [hv.channel, UInt8.toUInt8_toUInt32]

/-- The gain is refused on both sides or on neither. -/
theorem Session.Fits.gainRefused (hv : v.Fits s) :
    femGainRefused b s = Settings.gainRefused b v.gain :=
  congrArg (Settings.gainRefused b) hv.gain

/-- **A reset** is never refused, and stops where the assertion on the channel does. -/
theorem Session.reset_agrees (hs : s.Tuned b) (hv : v.Fits s) :
    SameOutcome (Session.Agrees 0) (dtmSetupReset b s) (v.reset b) := by
  rw [Session.reset, ← hv.channel_toNat]
  rcases h : dtmSetupReset b s with e | x
  · obtain ⟨rfl, hfault⟩ := dtmSetupReset_error.1 h
    rw [if_pos hfault]
    exact rfl
  · have hlegal : ¬(b.powerControlAutomatic = true ∧ physChMax < s.physCh.toUInt8.toNat) :=
      fun hfault ↦ nomatch (dtmSetupReset_error.2 ⟨rfl, hfault⟩).symm.trans h
    have hkeeps := dtmSetupReset_keepsTest h
    obtain ⟨hok, hset⟩ := dtmSetupReset_programs hs h
    rw [if_neg hlegal]
    refine ⟨by rw [hok]; rfl, ⟨?_, ?_, ?_, ?_, ?_, ?_⟩, rfl⟩
    · rw [hkeeps.state, hv.state]
      exact v.phase.restart_state.symm
    · rw [hset.count]
      exact (congrArg UInt16.ofNat v.phase.restart_count).symm
    · rw [hkeeps.physCh, hv.channel]
    · exact dtmSetupReset_radioMode h
    · rw [dtmSetupReset_cteInfo h]
      split
      · rfl
      · exact hv.cteOff
    · rw [hkeeps.fem, hv.gain]

/-- **A receiver test** starts in every phase. -/
theorem Session.receive_agrees (channel : UInt8) (hv : v.Fits s) :
    SameOutcome (Session.Agrees v.upper) (dtmTestReceive b channel s)
      (.ok (v.receive channel)) := by
  rw [Session.receive]
  rcases Nat.lt_or_ge physChMax channel.toNat with hc | hc
  · rw [dtmTestReceive_illegal b s hc, if_neg (Nat.not_le.2 hc)]
    exact ⟨rfl, hv, rfl⟩
  · obtain ⟨radio, -, heq⟩ := dtmTestReceive_legal b s hc
    rw [heq, if_pos hc]
    exact ⟨rfl, ⟨rfl, rfl, rfl, hv.phy, hv.cteOff, (femRampUp_gain b true s).trans hv.gain⟩, rfl⟩

/-- The assignments of a transmitter test. -/
theorem Session.Fits.assign (hv : v.Fits s) (hidle : v.phase = .idle) (channel length : UInt8)
    (pkt : DtmPacket) :
    Session.Fits { v with channel := channel } (transmitState channel length pkt s) :=
  ⟨hv.state, (congrArg (fun p ↦ UInt16.ofNat (Phase.count p)) hidle).symm, rfl, hv.phy, hv.cteOff,
    hv.gain⟩

/-- The vendor settings. -/
theorem Session.setting_agrees (hv : v.Fits s) (hidle : v.phase = .idle) (cmd : DtmVsSubcmd) :
    Session.Agrees v.upper (vendorSetting b cmd v.channel.toUInt32 s) (v.setting b cmd) := by
  have hgain (gain : UInt32) (fem : FemParameters) (h : fem.gain = gain) :
      Session.Fits { v with gain := gain } { s with fem := fem } :=
    ⟨hv.state, hv.count, hv.channel, hv.phy, hv.cteOff, h⟩
  cases cmd with
  | carrierTest | carrierTestStudio => exact ⟨rfl, hv, rfl⟩
  | setTxPower =>
    have hnot : s.state.testing = false := by
      rw [hv.state, hidle]
      rfl
    -- a session is on the 1 Mbit PHY, where the whole table is valid
    have hvalid : dtmHwRadioValidate b (txpowerOctet v.channel.toUInt32) s.radioMode =
        decide ((txpowerOctet v.channel.toUInt32).toUInt32 ∈ b.nrfPowerValue) := by
      rw [dtmHwRadioValidate, hv.phy, List.any_beq]
      cases b.hasBleCoded <;> simp
    rw [vendorSetting, Session.setting, dtmSetTxpower, hnot, hvalid]
    cases b.powerControlAutomatic with
    | true => exact ⟨rfl, hv, rfl⟩
    | false =>
      cases decide ((txpowerOctet v.channel.toUInt32).toUInt32 ∈ b.nrfPowerValue) with
      | true => exact ⟨rfl, ⟨hv.state, hv.count, hv.channel, hv.phy, hv.cteOff, hv.gain⟩, rfl⟩
      | false => exact ⟨rfl, hv, rfl⟩
  | femAntennaSelect =>
    rw [vendorSetting, Session.setting]
    cases b.fem with
    | false => exact ⟨rfl, hv, rfl⟩
    | true => cases b.femLib.antennaSelect v.channel.toUInt32 <;> exact ⟨rfl, hv, rfl⟩
  | femGainSet =>
    rw [vendorSetting, Session.setting]
    cases b.fem with
    | false => exact ⟨rfl, hv, rfl⟩
    | true =>
      cases b.powerControlAutomatic with
      | true => exact ⟨rfl, hv, rfl⟩
      | false => exact ⟨rfl, hgain _ _ rfl, rfl⟩
  | femRampUpSet =>
    rw [vendorSetting, Session.setting]
    cases b.fem with
    | false => exact ⟨rfl, hv, rfl⟩
    | true => exact ⟨rfl, hgain v.gain _ hv.gain, rfl⟩
  | femDefaultParamsSet =>
    rw [vendorSetting, Session.setting]
    cases b.fem with
    | false => exact ⟨rfl, hv, rfl⟩
    | true =>
      cases b.femLib.antennaSelect b.femLib.antenna1 <;> exact ⟨rfl, hgain _ _ rfl, rfl⟩

/-- **The carrier test** stops at the assertion on the channel. -/
theorem Session.carrier_agrees (hv : v.Fits s) (hidle : v.phase = .idle) :
    SameOutcome (Session.Agrees v.upper) (carrierTest b s) (v.carrier b) := by
  have hcount : s.rxPktCount = UInt16.ofNat 0 := by
    rw [hv.count, hidle]
    rfl
  have hgain := (femRampUp_gain b false s).trans hv.gain
  rw [Session.carrier, ← hv.channel_toNat, ← hv.gainRefused]
  rcases h : carrierTest b s with e | x
  · obtain ⟨rfl, hc⟩ := carrierTest_error.1 h
    rw [if_pos hc]
    exact rfl
  · have hc : ¬physChMax < s.physCh.toUInt8.toNat :=
      fun hc ↦ nomatch (carrierTest_error.2 ⟨rfl, hc⟩).symm.trans h
    rw [if_neg hc, carrierTest_ok h]
    split
    · exact ⟨rfl, ⟨hv.state, hv.count, hv.channel, hv.phy, hv.cteOff, hgain⟩, rfl⟩
    · exact ⟨rfl, ⟨rfl, hcount, hv.channel, hv.phy, hv.cteOff, hgain⟩, rfl⟩

/-- **The vendor packet**: its length selects one of these. -/
theorem Session.vendor_agrees (hv : v.Fits s) (hidle : v.phase = .idle) (length : UInt8) :
    SameOutcome (Session.Agrees v.upper)
      (dtmVendorSpecificPkt b length.toUInt32 v.channel.toUInt32 s) (v.vendor b length) := by
  rw [dtmVendorSpecificPkt, Session.vendor]
  cases DtmVsSubcmd.ofCode length.toUInt32 with
  | none => exact ⟨rfl, hv, rfl⟩
  | some cmd =>
    cases cmd with
    | carrierTest | carrierTestStudio => exact Session.carrier_agrees hv hidle
    | setTxPower | femAntennaSelect | femGainSet | femRampUpSet | femDefaultParamsSet =>
      exact Session.setting_agrees hv hidle _

/-- The modulated test, on a channel that has been checked. -/
theorem Session.modulated_agrees (hv : v.Fits s) (hidle : v.phase = .idle)
    (hlen : s.packetLen.toNat ≤ 255) (hc : v.channel.toNat ≤ physChMax) :
    SameOutcome (Session.Agrees v.upper) (modulatedTest b s)
      (.ok (if Settings.gainRefused b v.gain then (.refused, v)
        else (.done 0, { v with phase := .transmitting }))) := by
  have hcount : s.rxPktCount = UInt16.ofNat 0 := by
    rw [hv.count, hidle]
    rfl
  have hgain := (femRampUp_gain b false s).trans hv.gain
  rw [← hv.gainRefused]
  rcases h : modulatedTest b s with e | x
  · have hlt := ((modulatedTest_error hlen).1 h).2
    rw [hv.channel_toNat] at hlt
    omega
  · rw [modulatedTest_ok h]
    split
    · exact ⟨rfl, ⟨hv.state, hv.count, hv.channel, hv.phy, hv.cteOff, hgain⟩, rfl⟩
    · exact ⟨rfl, ⟨rfl, hcount, hv.channel, hv.phy, hv.cteOff, hgain⟩, rfl⟩

theorem Phase.state_eq_idle {p : Phase} : p.state = .idle ↔ p = .idle := by
  cases p <;> simp [Phase.state]

/-- On the 1M PHY the packet type binary 11 is a vendor packet. -/
theorem Session.Fits.resolve (hv : v.Fits s) (type : DtmPktType) :
    resolvePacket s.radioMode type.packet = .vendor ↔ type = .pkt0xFFOrVs := by
  rw [hv.phy]
  cases type <;> decide

/-- **A transmitter test** of the two-wire interface. -/
theorem Session.transmit_agrees (hv : v.Fits s) (channel length : UInt8) (type : DtmPktType) :
    SameOutcome (Session.Agrees v.upper) (dtmTestTransmit b channel length type.packet s)
      (v.transmit b channel length type) := by
  have hresult := dtmTestTransmit_result b channel length type.packet s
  generalize dtmTestTransmit b channel length type.packet s = r at hresult ⊢
  rw [Session.transmit]
  cases hresult with
  | busy hs =>
    rw [hv.state, ne_eq, Phase.state_eq_idle] at hs
    rw [if_pos hs]
    exact ⟨rfl, hv, rfl⟩
  | channel hs hvendor hc =>
    rw [hv.state, Phase.state_eq_idle] at hs
    rw [if_neg (not_not.2 hs), if_neg (mt (hv.resolve type).2 hvendor),
      decide_eq_false (Nat.not_le.2 hc), Bool.false_and, if_neg Bool.false_ne_true]
    exact ⟨rfl, ⟨hv.state, hv.count, rfl, hv.phy, hv.cteOff, hv.gain⟩, rfl⟩
  | vendor hs hvendor =>
    rw [hv.state, Phase.state_eq_idle] at hs
    rw [if_neg (not_not.2 hs), if_pos ((hv.resolve type).1 hvendor)]
    exact Session.vendor_agrees (hv.assign hs channel length type.packet) hs length
  | modulated hs hvendor hc pdu hpdu =>
    rw [hv.state, Phase.state_eq_idle] at hs
    have hassigned := hv.assign hs channel length type.packet
    -- the PDU is nothing that a session sees
    have hfits : Session.Fits { v with channel := channel }
        (transmitPdu pdu (transmitState channel length type.packet s)) :=
      ⟨hassigned.state, hassigned.count, hassigned.channel, hassigned.phy, hassigned.cteOff,
        hassigned.gain⟩
    have h := Session.modulated_agrees (b := b) hfits hs (toNat_toUInt32_le length) hc
    rw [if_neg (not_not.2 hs), if_neg (mt (hv.resolve type).2 hvendor), decide_eq_true hc,
      Bool.true_and]
    cases hgain : Settings.gainRefused b v.gain with
    | true => simpa only [hgain, if_true, Bool.not_true, Bool.false_eq_true, if_false] using h
    | false => simpa only [hgain, if_true, Bool.not_false, Bool.false_eq_true, if_false] using h

/-! ### The interrupts -/

/-- An interrupt keeps the settings, so the phase is all that can change. -/
theorem Session.Fits.irq {s' : Device} (hv : v.Fits s) (hkeeps : KeepsSetup s s') {p : Phase}
    (hstate : p.state = v.phase.state) (hcount : s'.rxPktCount = UInt16.ofNat p.count) :
    Session.Fits { v with phase := p } s' where
  state := by
    rw [hkeeps.state, hv.state]
    exact hstate.symm
  count := hcount
  channel := hkeeps.physCh.trans hv.channel
  phy := hkeeps.radioMode.trans hv.phy
  cteOff := by
    rw [hkeeps.cteInfo]
    exact hv.cteOff
  gain := by
    rw [hkeeps.fem, hv.gain]

/-- A reception has been counting. -/
theorem Session.Fits.receiving (hs : s.Tuned b) (hv : v.Fits s) {n : ℕ}
    (hphase : v.phase = .receiving n) : Receiving s n s := by
  have hstate : s.state = .receiverTest := by
    rw [hv.state, hphase]
    rfl
  refine ⟨hstate, ⟨rfl, rfl⟩, (hs.placed ?_).buffer, ?_⟩
  · rw [hstate]
    rfl
  · rw [hv.count, hphase]
    rfl

theorem Session.Fits.accepted_iff (hv : v.Fits s) {ev : RadioEvent} (hended : ev.ended = true) :
    packetAccepted b s ev = true ↔ ev.IsTestPacket := by
  obtain ⟨accepted, hcheck, hlegal⟩ := checkPdu_iff b ev .phy1m rfl s hv.phy hv.cteOff ev.content
  have hverdict : verdict (checkPdu b ev ev.content s) = .ok accepted := by
    rw [hcheck]
    rfl
  rw [packetAccepted, Bool.and_eq_true, hverdict, decide_eq_true_eq, Except.ok.injEq, hlegal]
  exact ⟨fun h ↦ ⟨hended, h⟩, And.right⟩

/-- Before the end of a packet the counter stays. -/
theorem radioIrq_not_ended_count {s' : Device} {ev : RadioEvent} (hended : ev.ended = false)
    (h : radioIrq b ev s = .ok s') : s'.rxPktCount = s.rxPktCount := by
  have htimer (enabled : Bool) (t : Device) :
      (anomalyTimerSet b enabled t).rxPktCount = t.rxPktCount := by
    rw [anomalyTimerSet_eq]
  rw [← (radioDma_pointers b ev s).2.2]
  rw [radioIrq, radioHandler, radioHandlerEnd, hended, if_neg (by decide), ok_bind] at h
  cases h
  split_ifs
  · rw [htimer, htimer]
  · rw [htimer]
  · rw [htimer]
  · rfl

/-- **A packet on the air** never stops the device, and is counted in a reception. -/
theorem Session.hears_agrees (hs : s.Tuned b) (hv : v.Fits s) (ev : RadioEvent) :
    ∃ s', radioIrq b ev s = .ok s' ∧ (v.hears ev).Fits s' := by
  -- outside a reception the handler does nothing
  have hother (hphase : v.phase.state ≠ .receiverTest) : radioIrq b ev s = .ok s := by
    rw [← hv.state] at hphase
    exact radioIrq_idle ev hphase
  rw [Session.hears]
  cases hphase : v.phase with
  | idle | transmitting | carrier =>
    refine ⟨s, hother ?_, hv⟩
    rw [hphase]
    nofun
  | receiving n =>
    have hrx := hv.receiving hs hphase
    have hkept {s' : Device} (h : radioIrq b ev s = .ok s')
        (hcount : s'.rxPktCount = UInt16.ofNat n) : v.Fits s' := by
      have hfits := hv.irq (radioIrq_keepsSetup h) (p := v.phase) rfl (by rw [hphase]; exact hcount)
      exact hfits
    cases hended : ev.ended with
    | true =>
      -- in a reception `END` is accounted for: the counter moves for a test packet and for no other
      obtain ⟨t, hrun⟩ := hrx.run_ok (b := b) hv.cteOff [ev] (List.forall_mem_singleton.2 hended)
      obtain ⟨s', hs', -⟩ := bind_eq_ok.1 hrun
      have hcount := (hrx.step hended hs').count
      refine ⟨s', hs', ?_⟩
      by_cases hpacket : ev.IsTestPacket
      · rw [(hv.accepted_iff hended).2 hpacket] at hcount
        simp only [if_pos hpacket]
        exact hv.irq (radioIrq_keepsSetup hs') (by rw [hphase]; rfl) hcount
      · rw [if_neg (mt (hv.accepted_iff hended).1 hpacket), Nat.add_zero] at hcount
        simp only [if_neg hpacket]
        exact hkept hs' hcount
    | false =>
      have hpacket : ¬ev.IsTestPacket := fun h ↦ nomatch hended.symm.trans h.1
      obtain ⟨s', hs'⟩ : ∃ s', radioIrq b ev s = .ok s' := by
        rw [radioIrq, radioHandler, radioHandlerEnd, hended, if_neg (by decide), ok_bind]
        exact ⟨_, rfl⟩
      refine ⟨s', hs', ?_⟩
      simp only [if_neg hpacket]
      exact hkept hs' ((radioIrq_not_ended_count hended hs').trans hrx.count)

/-- The anomaly timer is nothing that a tester sees. -/
theorem Session.Fits.anomaly {s' : Device} (hv : v.Fits s) {ev : AnomalyEvent}
    (h : s.step b (.anomaly ev) = .ok s') : v.Fits s' := by
  have hcount : s'.rxPktCount = s.rxPktCount := by
    cases h
    split
    · rw [anomalyTimerHandler]
      simp only
      split_ifs <;> rfl
    · rfl
  exact hv.irq (Device.step_anomaly_keepsSetup h) (p := v.phase) rfl (hcount.trans hv.count)

/-! ### The words -/

/-- A response and the firmware after it, and an answer and the session after it. -/
structure Session.Told (x : UInt16 × Firmware) (y : Answer × Session) : Prop where
  word : x.1 = y.1.word
  fits : y.2.Fits x.2.device
  upper : x.2.upperLen = y.2.upper

variable {f : Firmware}

/-- A status of the library, as the word of its answer. -/
theorem Answer.word_ofRet (ret : Ret) :
    CmdCore.decoder.statusEvent ret 0 = (Answer.ofRet ret).word := by
  cases ret <;> rfl

/-- The status event of a call. -/
theorem Session.told_status {upper : UInt8} {r : Except Fault (Ret × Device)}
    {y : Except Fault (Answer × Session)} (h : SameOutcome (Session.Agrees upper) r y)
    (f : Firmware) :
    SameOutcome Session.Told (r >>= fun x ↦ .ok (CmdCore.decoder.statusEvent x.1 0,
      { f.withDevice x.2 with upperLen := upper })) y := by
  rcases r with e | x <;> rcases y with e' | y
  · exact h
  · exact h.elim
  · exact h.elim
  · have h : Session.Agrees upper x y := h
    refine ⟨?_, h.fits, h.upper.symm⟩
    rw [h.answer]
    exact Answer.word_ofRet x.1

/-- A Test Setup word. -/
theorem Session.setup_told (hf : v.Shows b f) {cmd : UInt16} (hcode : cmdCode cmd = 0) :
    SameOutcome Session.Told (f.put b q cmd)
      (v.setup b (cmdControl cmd) (cmdParameter cmd)) := by
  -- the word is for the switch of the control, which leaves `upper_len` beside its answer
  have hput : f.put b q cmd =
      (CmdCore.setupCmd (cmdControl cmd) (cmdParameter cmd) f.upperLen).run (hostHandler b q)
        f.host >>= fun x ↦
          .ok (CmdCore.decoder.statusEvent x.1.1 x.1.2.1,
            { f with host := x.2, upperLen := x.1.2.2 }) := by
    rw [Firmware.put, CmdCore.dtmCmdPut, Decoder.dtmCmdPut_testSetup _ _ hcode,
      Decoder.onTestSetupCmd, Prog.run_bind]
    let r := (CmdCore.setupCmd (cmdControl cmd) (cmdParameter cmd) f.upperLen).run
      (hostHandler b q) f.host
    show ((r >>= _) >>= _) = r >>= _
    cases r <;> rfl
  -- a control that is refused changes neither side
  have hrefused : SameOutcome Session.Told (.ok (CmdCore.decoder.statusEvent (.err .einval) 0, f))
      (.ok (.refused, v) : Except Fault _) := ⟨rfl, hf.fits, hf.upper⟩
  rw [hput, CmdCore.setupCmd, Session.setup]
  generalize DtmCtrlCode.ofCode (cmdControl cmd) = control
  cases control with
  | none => exact hrefused
  | some control =>
    cases control with
    | reset =>
      have h := Session.told_status (Session.reset_agrees hf.tuned hf.fits) f
      revert h
      show SameOutcome _ (dtmSetupReset b f.device >>= _) _ →
        SameOutcome _ (((dtmSetupReset b f.device >>= _) >>= _) >>= _) _
      cases dtmSetupReset b f.device <;> exact id
    | setUpper =>
      exact ⟨rfl, ⟨hf.fits.state, hf.fits.count, hf.fits.channel, hf.fits.phy, hf.fits.cteOff,
        hf.fits.gain⟩, rfl⟩
    | readSupported =>
      rw [featuresRead]
      by_cases hparameter : (cmdParameter cmd).toNat ≤ 3
      · rw [if_neg (Nat.not_lt.2 hparameter)]
        simp only [if_pos hparameter]
        exact ⟨rfl, hf.fits, hf.upper⟩
      · rw [if_pos (Nat.not_le.1 hparameter)]
        simp only [if_neg hparameter]
        exact hrefused
    | readMax =>
      rw [readMax]
      cases maxSupportedOf (cmdParameter cmd) with
      | none => exact hrefused
      | some parameter =>
        cases parameter with
        | txOctets | rxOctets | txTime | rxTime => exact ⟨rfl, hf.fits, hf.upper⟩
        | cteLength =>
          refine ⟨?_, hf.fits, hf.upper⟩
          show CmdCore.decoder.statusEvent (.ofExcept (dtmSetupReadMaxSupportedValue b .cteLength
            true)) ((dtmSetupReadMaxSupportedValue b .cteLength true).toOption.getD 0 <<< 1) =
              (Session.maximum b .cteLength).word
          rw [dtmSetupReadMaxSupportedValue, Session.maximum]
          cases b.directionFinding <;> rfl
    -- the shared core knows these controls and has no code for them
    | setPhy | selectModulation | constantToneExtension | constantToneExtensionSlot
    | antennaArray | transmitPower => exact hrefused

/-- **One word.** -/
theorem Session.put_told (hf : v.Shows b f) (cmd : UInt16) :
    SameOutcome Session.Told (f.put b q cmd) (v.put b cmd) := by
  obtain ⟨type, htype⟩ := Decoder.cmdType_cases cmd
  rw [Session.put, htype]
  rcases Decoder.cmdCode_cases cmd with hcode | hcode | hcode | hcode
  · rw [hcode]
    exact Session.setup_told hf hcode
  · rw [hcode]
    have h := Session.told_status (Session.receive_agrees (b := b) (cmdChan cmd) hf.fits) f
    rw [← hf.upper] at h
    revert h
    rw [Firmware.put, CmdCore.dtmCmdPut, Decoder.dtmCmdPut_receiverTest _ _ hcode]
    show SameOutcome _ (dtmTestReceive b (cmdChan cmd) f.device >>= _) _ →
      SameOutcome _ (((dtmTestReceive b (cmdChan cmd) f.device >>= _) >>= _) >>= _) _
    cases dtmTestReceive b (cmdChan cmd) f.device <;> exact id
  · rw [hcode]
    have h := Session.told_status (Session.transmit_agrees (b := b) hf.fits (cmdChan cmd)
      (withUpperLen (cmdLength cmd) v.upper) type) f
    rw [f.put_transmit hcode htype]
    show SameOutcome _ _
      (v.transmit b (cmdChan cmd) (withUpperLen (cmdLength cmd) v.upper) type)
    rw [← hf.upper] at h ⊢
    exact h
  · rw [hcode]
    rw [Firmware.put, CmdCore.dtmCmdPut, Decoder.dtmCmdPut_testEnd _ _ hcode]
    show SameOutcome _ _ (.ok (v.testEnd (cmdControl cmd) (cmdParameter cmd)))
    rw [Session.testEnd]
    -- the report is the counter with its top bit set, as `Answer.word` has it
    by_cases hend : cmdControl cmd = 0 ∧ (cmdParameter cmd).toNat ≤ 10
    · rw [if_neg (by rw [not_or, not_not, Nat.not_lt]; exact hend), if_pos hend]
      refine ⟨?_, ⟨rfl, rfl, hf.fits.channel, hf.fits.phy, hf.fits.cteOff, hf.fits.gain⟩, hf.upper⟩
      show Decoder.packetReportingEvent ||| f.device.rxPktCount = _
      rw [hf.fits.count]
      rfl
    · rw [if_pos (by rwa [← not_and_or.trans (or_congr_right Nat.not_le)]), if_neg hend]
      exact ⟨rfl, hf.fits, hf.upper⟩

/-! ### Runs -/

/-- The words for the shared core and the interrupts. -/
def FirmwareInput.isCore : FirmwareInput → Bool
  | .word _ | .radio _ | .anomaly _ | .txDone => true
  | .uartWord _ | .hci .. => false

/-- The device stays tuned through everything that the firmware does. -/
theorem deviceInvariant_tuned (hb : b.PowerTable) : DeviceInvariant b (Device.Tuned b) where
  step _ _ _ hs h := hs.step hb h
  patterns _ _ hs := hs.same ⟨hs.onTable.timerInit, hs.onTable.txpower⟩ ⟨rfl, rfl⟩ rfl rfl
    fun htesting ↦ ⟨(hs.placed htesting).channel, (hs.placed htesting).frequency,
      (hs.placed htesting).buffer⟩

/-- The firmware with its responses, and the session with its answers. -/
structure Session.Follows (b : Build) (x : Firmware × List UInt16) (y : Session × List Answer) :
    Prop where
  shows : y.1.Shows b x.1
  words : x.2 = y.2.map Answer.word

/-- **One input.** -/
theorem Session.step_follows (hb : b.PowerTable) {x : Firmware × List UInt16}
    {y : Session × List Answer} (h : Session.Follows b x y) {i : FirmwareInput}
    (hi : i.isCore = true) :
    SameOutcome (Session.Follows b) (Firmware.noted b q x i) (Session.noted b y i) := by
  obtain ⟨f, log⟩ := x
  obtain ⟨v, answers⟩ := y
  obtain ⟨hshows, rfl⟩ : v.Shows b f ∧ log = answers.map Answer.word := ⟨h.shows, h.words⟩
  have htuned {f' : Firmware} (hf' : f.step b q i = .ok f') : f'.device.Tuned b :=
    (deviceInvariant_tuned hb).firmware hshows.tuned hf'
  cases i with
  | uartWord cmd | hci type buf => cases hi
  | word cmd =>
    have htold := Session.put_told (q := q) hshows cmd
    rw [Session.noted]
    rcases hput : f.put b q cmd with e | ⟨w, f'⟩ <;> rcases hv : v.put b cmd with e' | ⟨a, v'⟩ <;>
      rw [hput, hv] at htold
    -- both stop, with the same fault
    · have hstep : Firmware.noted b q (f, answers.map Answer.word) (.word cmd) = .error e := by
        rw [Firmware.noted, noteStep, Firmware.step, hput]
        rfl
      rw [hstep]
      exact htold
    · exact htold.elim
    · exact htold.elim
    · have hstep : f.step b q (.word cmd) = .ok f' := bind_eq_ok.2 ⟨_, hput, rfl⟩
      have htold : Session.Told (w, f') (a, v') := htold
      have hnoted : Firmware.noted b q (f, answers.map Answer.word) (.word cmd) =
          .ok (f', answers.map Answer.word ++ [w]) := Firmware.noted_put (d := .core) hput _
      rw [hnoted]
      refine ⟨⟨htuned hstep, htold.fits, htold.upper⟩, ?_⟩
      rw [List.map_append, List.map_singleton, ← htold.word]
  | radio ev =>
    obtain ⟨s', hs', hfits⟩ := Session.hears_agrees hshows.tuned hshows.fits ev
    have hstep : f.step b q (.radio ev) = .ok (f.withDevice s') := bind_eq_ok.2 ⟨s', hs', rfl⟩
    -- no interrupt reaches the upper bits
    have hupper : (v.hears ev).upper = v.upper := by
      rw [Session.hears]
      split
      · split <;> rfl
      · rfl
    rw [Firmware.noted, noteStep, hstep, ok_bind]
    refine ⟨⟨htuned hstep, hfits, hshows.upper.trans hupper.symm⟩, ?_⟩
    exact List.append_nil _
  | anomaly ev =>
    obtain ⟨s', hs'⟩ : ∃ s', f.device.step b (.anomaly ev) = .ok s' := ⟨_, rfl⟩
    have hstep : f.step b q (.anomaly ev) = .ok (f.withDevice s') := bind_eq_ok.2 ⟨s', hs', rfl⟩
    rw [Firmware.noted, noteStep, hstep, ok_bind]
    refine ⟨⟨htuned hstep, hshows.fits.anomaly hs', hshows.upper⟩, ?_⟩
    exact List.append_nil _
  | txDone =>
    refine ⟨⟨htuned rfl, hshows.fits, hshows.upper⟩, ?_⟩
    exact List.append_nil _

/-- The initialisation of the library is the start of a session. -/
theorem Session.initial_shows (hb : b.PowerTable) (hf : f.Initial b) :
    Session.initial.Shows b f := by
  refine ⟨hf.1.tuned hb, ?_, hf.2.1⟩
  obtain ⟨env, callback, h⟩ := hf.1
  obtain ⟨radio, hs⟩ := dtmInit_ok h
  rw [hs]
  exact ⟨rfl, rfl, rfl, rfl, rfl, rfl⟩

/-- **A run**, by the rule for machines that go side by side. -/
theorem Session.run_follows (hb : b.PowerTable) (hf : f.Initial b) {is : List FirmwareInput}
    (his : ∀ i ∈ is, i.isCore = true) :
    SameOutcome (Session.Follows b) (run (Firmware.noted b q) (f, []) is)
      (run (Session.noted b) (.initial, []) is) := by
  have hguard : Guarded (Firmware.noted b q) (fun _ i ↦ i.isCore = true) (f, []) is :=
    .of_forall his
  refine SameOutcome.run (C := fun _ i ↦ i.isCore = true) (R := Session.Follows b) ?_ hguard ?_
  · intro x y i h hi
    exact Session.step_follows hb h hi
  · exact ⟨Session.initial_shows hb hf, rfl⟩

/-- **The firmware is the session**, in every run of words for the shared core and interrupts. Both
stop with the same assertion or neither does, and then the responses are the words of the answers
and the session shows the firmware. -/
theorem session_refined (hb : b.PowerTable) (hf : f.Initial b) {is : List FirmwareInput}
    (his : ∀ i ∈ is, i.isCore = true) :
    (∀ e, run (Firmware.noted b q) (f, []) is = .error e ↔
        run (Session.noted b) (.initial, []) is = .error e) ∧
      ∀ f' ws, run (Firmware.noted b q) (f, []) is = .ok (f', ws) →
        ∃ v answers, run (Session.noted b) (.initial, []) is = .ok (v, answers) ∧
          ws = answers.map Answer.word ∧ v.Shows b f' := by
  have h := Session.run_follows (q := q) hb hf his
  refine ⟨fun e ↦ h.error_iff, fun f' ws hrun ↦ ?_⟩
  obtain ⟨⟨v, answers⟩, hsession, hfollows⟩ := h.of_ok hrun
  exact ⟨v, answers, hsession, hfollows.words, hfollows.shows⟩

/-- A reception of one packet, in which a transmission is refused. -/
def receptionInputs : List FirmwareInput :=
  [.word 0x4C00, .radio goodPacket, .word 0x8C94, .word 0xC000]

/-- The responses are those of a reception, a refusal and a count. -/
theorem session_refined_reception :
    ∃ f, run (Firmware.noted (.nrf5340 true false) 1024) (.ofDevice .nrf5340, [])
      receptionInputs = .ok (f, [0x0001, 0x0000, 0x8001]) := by
  have hsession : run (Session.noted (.nrf5340 true false)) (.initial, []) receptionInputs =
      .ok (⟨.idle, 12, 0, femUseDefaultGain⟩, [.done 0, .refused, .packets 1]) := rfl
  have hcore : ∀ i ∈ receptionInputs, i.isCore = true := by
    simp [receptionInputs, FirmwareInput.isCore]
  obtain ⟨hfault, hok⟩ := session_refined (q := 1024) (f := .ofDevice .nrf5340)
    (Build.nrf5340_powerTable true false) ⟨Device.nrf5340_initialised true false, rfl, rfl⟩ hcore
  rw [hsession] at hfault hok
  rcases hrun : run (Firmware.noted (.nrf5340 true false) 1024) (.ofDevice .nrf5340, [])
    receptionInputs with e | ⟨f, ws⟩
  · cases (hfault e).1 hrun
  · obtain ⟨v, answers, hv, hwords, -⟩ := hok f ws hrun
    cases hv
    exact ⟨f, congrArg (fun ws ↦ Except.ok (f, ws)) hwords⟩

/-- The core is given words and interrupts. -/
theorem TwowireNode.isCore_front {r : TwowireReceiver} (rx : Rx) (is : List TwowireNodeInput) :
    ∀ i ∈ Transducer.outputs (TwowireNode.front r .core) rx is, i.isCore = true := by
  induction is generalizing rx with
  | nil => nofun
  | cons j is ih =>
    intro i hi
    rw [Transducer.outputs_cons, List.mem_append] at hi
    refine hi.elim (fun hi ↦ ?_) (ih _ i)
    cases j with
    | poll p =>
      obtain ⟨cmd, -, rfl⟩ := Option.mem_map.1 (Option.mem_toList.1 hi)
      rfl
    | radio ev | anomaly ev =>
      rw [List.mem_singleton.1 hi]
      rfl

/-- **What the tester reads are the answers of a session** on the commands that were paired, with
the interrupts where they came. -/
theorem TwowireNode.reads_session (hb : b.PowerTable) {r : TwowireReceiver} {s s' : TwowireNode}
    (hs : s.Initial b) {is : List TwowireNodeInput}
    (h : run (TwowireNode.step r .core b q) s is = .ok s') :
    ∃ v answers,
      run (Session.noted b) (.initial, [])
          (Transducer.outputs (TwowireNode.front r .core) .start is) = .ok (v, answers) ∧
        wordReader.read s'.written = (answers.map Answer.word, []) ∧
        v.Shows b s'.firmware := by
  obtain ⟨ws, hread, hrun, -⟩ := TwowireNode.read_written hs h
  have hcore : ∀ i ∈ Transducer.outputs (TwowireNode.front r .core) .start is,
      i.isCore = true := TwowireNode.isCore_front .start is
  obtain ⟨⟨v, answers⟩, hsession, hfollows⟩ :=
    (Session.run_follows (q := q) hb hs.firmware hcore).of_ok hrun
  have hwords : ws = answers.map Answer.word := hfollows.words
  exact ⟨v, answers, hsession, by rw [hread, hwords], hfollows.shows⟩

/-- The same reception on the UART, with the transmission left out. -/
def receptionPolls : List TwowireNodeInput :=
  [.poll ⟨0, [0x4C]⟩, .poll ⟨1, [0x00]⟩, .radio goodPacket, .poll ⟨20, [0xC0]⟩, .poll ⟨21, [0x00]⟩]

set_option maxRecDepth 4096 in
theorem TwowireNode.reads_session_reception :
    ∃ s', run (TwowireNode.step .uart .core (.nrf5340 true false) 1024) .nrf5340 receptionPolls =
        .ok s' ∧
      wordReader.read s'.written = ([0x0001, 0x8001], []) := by
  obtain ⟨s', hs'⟩ : ∃ s', run (TwowireNode.step .uart .core (.nrf5340 true false) 1024) .nrf5340
      receptionPolls = .ok s' := ⟨_, rfl⟩
  obtain ⟨v, answers, hsession, hread, -⟩ := TwowireNode.reads_session
    (Build.nrf5340_powerTable true false) TwowireNode.nrf5340_initial hs'
  have hanswers : run (Session.noted (.nrf5340 true false)) (.initial, [])
      (Transducer.outputs (TwowireNode.front .uart .core) .start receptionPolls) =
      .ok (⟨.idle, 12, 0, femUseDefaultGain⟩, [.done 0, .packets 1]) := rfl
  cases hsession.symm.trans hanswers
  exact ⟨s', hs', hread⟩

end DirectTestMode
