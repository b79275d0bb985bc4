import DirectTestMode.Dtm.PacketCount
import DirectTestMode.Dtm.Settings

/-!
# IQ reports

`dtm_init` registers the callback that receives the IQ samples, once and for all. It is a field of
`struct dtm_cte_info`, next to the settings of the constant tone extension, and `dtm_setup_reset`
clears the structure as a whole: the extension is switched off, and the callback is gone with it.
Nothing registers it again.

The report itself asserts that a sample slot is set. A mode of arrival sets none, so the first
packet of a test that was set up without one stops the device.

`iq_reporting_iff` says on which runs the reporting survives: those that carry out no reset, and
that set a slot before the first packet there is to report.

## Which packets there are to report

The handler reports from within `check_pdu`, after the type and the payload were compared and before
the CTEInfo octet decides whether the packet counts. `PatternReceived` describes a packet that gets
that far, by what comes in and the state it finds: an intact packet in a reception with CTE, whose
payload repeats the octet of its type. Of these the slot alone decides
(`PatternReceived.reports_iff`), by an assertion; a packet that fails the comparison is not
reported, and is not one of them.

## The two halves of the condition

They are independent, which is why the condition is a conjunction. `Device.Registered.step_iff` is
about the calls: none but a reset writes the field, and a reset that comes back has written it. A
reset that stops at the assertion of the radio's initialisation has no state after it, and is
allowed for by `NoReset`. `Device.Registered.reported_iff` is about the interrupts. Both are
equivalences for one input, and the rule for guarded runs makes one of them for a run.
-/

namespace DirectTestMode

open Fallible

variable {b : Build} {ev : RadioEvent}

/-! ### The packets there are to report -/

/-- A PDU whose payload repeats the octet of its type. The type is one that `check_pdu` takes in
the radio mode. -/
def PatternPdu (b : Build) (radioMode : RadioMode) (pdu : DtmPdu) : Prop :=
  pduTypeRefused b radioMode (pdu 0 &&& 0x0F) = false ∧
    ∃ type pattern octets, DtmPduType.ofCode (pdu 0 &&& 0x0F) = some type ∧
      type.reference = .pattern pattern ∧ pdu.slice 2 (pdu 1).toNat = some octets ∧
      (octets.all fun octet ↦ octet == pattern) = true

/-- An `END` event of a receiver test with CTE on, whose PDU passes the comparison of its repeated
octet. -/
structure PatternReceived (b : Build) (ev : RadioEvent) (s : Device) : Prop where
  ended : ev.ended = true
  receiving : s.state = .receiverTest
  cteOn : s.cteInfo.mode ≠ .off
  crcOk : ev.crcOk = true
  pdu : ∃ received, s.currentPdu = some received ∧
    PatternPdu b s.radioMode ((radioDma b ev s).pdu received)

/-- A step of the device that hands the samples of the event to the callback `cb`, and makes no
other report. -/
def Reports (ev : RadioEvent) (cb : CodePtr) (s s' : Device) : Prop :=
  ∃ iqData : DtmIqData, s'.iqReports = s.iqReports ++ [(cb, iqData)] ∧
    iqData.samples = ev.iqSamples ∧ iqData.sampleCnt = ev.dfeAmount

/-! ### The report -/

/-- A packet of the pattern is as good as its CTEInfo. -/
theorem checkPdu_pattern {s : Device} {pdu : DtmPdu} (h : PatternPdu b s.radioMode pdu) :
    checkPdu b ev pdu s = checkCte b ev pdu s := by
  obtain ⟨hrefused, type, pattern, octets, htype, hreference, hslice, hall⟩ := h
  have hlength : ¬ dtmPayloadMaxSize < (pdu 1).toNat :=
    Nat.not_lt.2 (Nat.le_of_lt_succ (pdu 1).toNat_lt)
  unfold checkPdu
  simp only [hlength, if_false, hrefused, Bool.false_eq_true, htype]
  unfold checkPayload
  simp only [hreference, hslice, inBounds_some, ok_bind, hall, if_true]

/-- **The report is made exactly when a sample slot is set.** -/
theorem reportIq_iff (b : Build) (ev : RadioEvent) (cb : CodePtr) {s : Device}
    (hmode : s.cteInfo.mode ≠ .off) :
    (∃ t iqData, reportIq b ev cb s = .ok t ∧ t.iqReports = s.iqReports ++ [(cb, iqData)] ∧
      iqData.samples = s.cteInfo.data ∧ iqData.sampleCnt = ev.dfeAmount) ↔
    s.cteInfo.slot ≠ .zero := by
  rw [reportIq, iqReportType, iqReportSlot]
  cases hslot : s.cteInfo.slot with
  | zero => cases hm : s.cteInfo.mode <;> simp
  | us1 | us2 =>
    cases hm : s.cteInfo.mode with
    | off => exact absurd hm hmode
    | aod | aoa => exact iff_of_true ⟨_, _, rfl, rfl, rfl, rfl⟩ (by simp)

theorem checkCte_iff (hdf : b.directionFinding = true) (ev : RadioEvent) {cb : CodePtr}
    {s : Device} (hcb : s.cteInfo.iqRepCb = some cb) (hmode : s.cteInfo.mode ≠ .off)
    (pdu : DtmPdu) :
    (∃ x iqData, checkCte b ev pdu s = .ok x ∧
      x.2.iqReports = s.iqReports ++ [(cb, iqData)] ∧ iqData.samples = s.cteInfo.data ∧
      iqData.sampleCnt = ev.dfeAmount) ↔ s.cteInfo.slot ≠ .zero := by
  have hon : (b.directionFinding && s.cteInfo.mode != .off) = true := by simp [hdf, hmode]
  rw [← reportIq_iff b ev cb hmode, checkCte, if_pos hon, reportIqTo, hcb]
  constructor
  · rintro ⟨x, iqData, h, hreport⟩
    obtain ⟨t, ht, h⟩ := bind_eq_ok.1 h
    cases h
    exact ⟨t, iqData, ht, hreport⟩
  · rintro ⟨t, iqData, ht, hreport⟩
    exact ⟨_, iqData, bind_eq_ok.2 ⟨t, ht, rfl⟩, hreport⟩

/-- The counters come after the report, and change none. -/
theorem countPacket_iqReports (crcOk pduOk : Bool) (s : Device) :
    (countPacket crcOk pduOk s).iqReports = s.iqReports := by
  rw [countPacket]
  split_ifs <;> rfl

theorem receivedPdu_iff (hdf : b.directionFinding = true) {cb : CodePtr} (received : Fin 2)
    {s : Device} (hcb : s.cteInfo.iqRepCb = some cb) (hmode : s.cteInfo.mode ≠ .off)
    (hcrc : ev.crcOk = true) (hpdu : PatternPdu b s.radioMode (s.pdu received)) :
    (∃ t iqData, receivedPdu b ev received s = .ok t ∧
      t.iqReports = s.iqReports ++ [(cb, iqData)] ∧ iqData.samples = s.cteInfo.data ∧
      iqData.sampleCnt = ev.dfeAmount) ↔ s.cteInfo.slot ≠ .zero := by
  have hcheck : checkReceived b ev (s.pdu received) (radioRestart b received s) =
      checkCte b ev (s.pdu received) (radioRestart b received s) := by
    rw [checkReceived, if_pos hcrc]
    exact checkPdu_pattern hpdu
  have hiff := checkCte_iff hdf ev (s := radioRestart b received s) hcb hmode (s.pdu received)
  refine Iff.trans ?_ hiff
  constructor
  · rintro ⟨t, iqData, h, hreport⟩
    obtain ⟨x, hx, h⟩ := bind_eq_ok.1 h
    cases h
    refine ⟨x, iqData, hcheck.symm.trans hx, ?_⟩
    rwa [← countPacket_iqReports ev.crcOk x.1]
  · rintro ⟨x, iqData, hx, hreport⟩
    refine ⟨_, iqData, bind_eq_ok.2 ⟨x, hcheck.trans hx, rfl⟩, ?_⟩
    rwa [← countPacket_iqReports ev.crcOk x.1] at hreport

theorem radioDma_data {s : Device} (hdf : b.directionFinding = true)
    (hrx : s.state = .receiverTest) (hmode : s.cteInfo.mode ≠ .off) :
    (radioDma b ev s).cteInfo.data = ev.iqSamples := by
  have hon : (b.directionFinding && s.cteInfo.mode != .off) = true := by simp [hdf, hmode]
  rw [radioDma, if_pos hrx]
  simp only [hon, if_true]

/-- The samples are in memory before the handler runs, and nothing is reported by that. -/
theorem radioDma_iqReports (b : Build) (ev : RadioEvent) (s : Device) :
    (radioDma b ev s).iqReports = s.iqReports := by
  rw [radioDma]
  split <;> rfl

/-- **A packet is reported exactly when a sample slot is set**, as long as the callback is. -/
theorem PatternReceived.reports_iff (hdf : b.directionFinding = true) {cb : CodePtr} {s : Device}
    (hcb : s.cteInfo.iqRepCb = some cb) (h : PatternReceived b ev s) :
    (∃ s', radioIrq b ev s = .ok s' ∧ Reports ev cb s s') ↔ s.cteInfo.slot ≠ .zero := by
  obtain ⟨received, hcur, hpdu⟩ := h.pdu
  obtain ⟨timer, heq⟩ := radioIrq_receiving (b := b) h.ended h.receiving hcur
  have hkeeps := radioDma_keepsSetup b ev s
  have hcte : (radioDma b ev s).cteInfo = { s.cteInfo with data := ev.iqSamples } := by
    rw [hkeeps.cteInfo, radioDma_data hdf h.receiving h.cteOn]
  rw [← hkeeps.radioMode] at hpdu
  have hiff := receivedPdu_iff hdf received (s := { radioDma b ev s with anomalyTimer := timer })
    (by rw [hcte]; exact hcb) (by rw [hcte]; exact h.cteOn) h.crcOk hpdu
  rw [hcte, radioDma_iqReports] at hiff
  refine Iff.trans ?_ hiff
  -- a `READY` event in the same interrupt reports nothing
  have hready (u : Device) :
      (if ev.ready then anomalyTimerSet b true u else u : Device).iqReports = u.iqReports := by
    split
    · rw [anomalyTimerSet_eq]
    · rfl
  rw [heq]
  constructor
  · rintro ⟨s', hs', iqData, hreport⟩
    obtain ⟨u, hu, hs'⟩ := bind_eq_ok.1 hs'
    cases hs'
    rw [hready] at hreport
    exact ⟨u, iqData, hu, hreport⟩
  · rintro ⟨u, iqData, hu, hreport⟩
    refine ⟨_, bind_eq_ok.2 ⟨u, hu, rfl⟩, iqData, ?_⟩
    rwa [hready]

/-! ### The callback -/

/-- **Only a reset loses the callback** of an initialised device. -/
theorem api_iqRepCb {c : Call} {s : Device} {x : dtm.Res c × Device} (hinit : s.timerInit = true)
    (hc : c ≠ .setupReset) (h : api b c s = .ok x) :
    x.2.cteInfo.iqRepCb = s.cteInfo.iqRepCb := by
  cases hsetup : c.isSetup with
  | false => rw [(api_keepsSettings hsetup h).cteInfo]
  | true =>
    cases c with
    | init env callback =>
      obtain ⟨e, he⟩ := dtmInit_again b env callback hinit
      cases he.symm.trans h
      rfl
    | setupReset => exact absurd rfl hc
    | setupSetPhy phy => rw [dtmSetupSetPhy_cteInfo h]
    | setupSetModulation | setupReadFeatures | setupReadMaxSupportedValue | setupSetCteMode
    | setupSetCteSlot | setupSetAntennaParams | setupSetTransmitPower =>
      rw [api_setting hsetup rfl h]
    | setupPrepare | testReceive | testTransmit | testEnd => cases hsetup

/-- A reset that is carried out loses it. -/
theorem dtmSetupReset_iqRepCb (hdf : b.directionFinding = true) {s : Device} {x : Ret × Device}
    (h : dtmSetupReset b s = .ok x) : x.2.cteInfo.iqRepCb = none := by
  rw [dtmSetupReset_cteInfo h, if_pos hdf]
  rfl

/-- The callback `cb` is registered on a device whose timer driver is up. -/
structure Device.Registered (cb : CodePtr) (s : Device) : Prop where
  timerInit : s.timerInit = true
  iqRepCb : s.cteInfo.iqRepCb = some cb

/-- The input is no reset, or one that stops at the assertion on the channel. -/
def NoReset (b : Build) (s : Device) : Input → Prop
  | .call .setupReset => s.settings.InitFaults b
  | _ => True

/-- **The callback stays registered exactly when the input is no reset.** -/
theorem Device.Registered.step_iff (hdf : b.directionFinding = true) {cb : CodePtr} {s : Device}
    (hs : s.Registered cb) (i : Input) :
    (∀ s', s.step b i = .ok s' → s'.cteInfo.iqRepCb = some cb) ↔ NoReset b s i := by
  by_cases hi : i = .call .setupReset
  · subst hi
    constructor
    · intro h
      -- a reset that comes back has cleared the callback, so it must stop at its assertion
      by_contra hfault
      rcases hx : dtmSetupReset b s with e | x
      · exact hfault (dtmSetupReset_error.1 hx).2
      · have hcb := h x.2 (bind_eq_ok.2 ⟨x, hx, rfl⟩)
        cases (dtmSetupReset_iqRepCb hdf hx).symm.trans hcb
    · intro hfault s' h
      obtain ⟨x, hx, -⟩ := bind_eq_ok.1 h
      cases (dtmSetupReset_error.2 ⟨rfl, hfault⟩).symm.trans hx
  · refine iff_of_true (fun s' h ↦ ?_) ?_
    · cases i with
      | call c =>
        obtain ⟨x, hx, h⟩ := bind_eq_ok.1 h
        cases h
        have hc : c ≠ .setupReset := fun hc ↦ hi (congrArg Input.call hc)
        exact (api_iqRepCb hs.timerInit hc hx).trans hs.iqRepCb
      | radio ev =>
        rw [(radioIrq_keepsSetup h).cteInfo]
        exact hs.iqRepCb
      | anomaly ev =>
        rw [(Device.step_anomaly_keepsSetup h).cteInfo]
        exact hs.iqRepCb
    · unfold NoReset
      split
      · exact absurd rfl hi
      · trivial

/-! ### Runs -/

/-- A packet that there is to report is reported through `cb`. -/
def IqReported (b : Build) (cb : CodePtr) (s : Device) : Input → Prop
  | .radio ev => PatternReceived b ev s → ∃ s', s.step b (.radio ev) = .ok s' ∧ Reports ev cb s s'
  | _ => True

/-- A sample slot is set when there is a packet to report. -/
def SlotSet (b : Build) (s : Device) : Input → Prop
  | .radio ev => PatternReceived b ev s → s.cteInfo.slot ≠ .zero
  | _ => True

theorem Device.Registered.reported_iff (hdf : b.directionFinding = true) {cb : CodePtr}
    {s : Device} (hs : s.Registered cb) (i : Input) : IqReported b cb s i ↔ SlotSet b s i := by
  cases i with
  | call c => exact Iff.rfl
  | radio ev => exact imp_congr_right fun h ↦ h.reports_iff hdf hs.iqRepCb
  | anomaly ev => exact Iff.rfl

/-- **IQ reporting survives exactly the runs without a reset** in which a sample slot is set before
the first packet there is to report. -/
theorem iq_reporting_iff (hdf : b.directionFinding = true) {env : InitEnv} {cb : CodePtr}
    {s₀ s : Device} (hinit : dtmInit b env (some cb) s₀ = .ok (.ok, s)) (is : List Input) :
    ((∀ n s', run (Device.step b) s (is.take n) = .ok s' → s'.cteInfo.iqRepCb = some cb) ∧
      Guarded (Device.step b) (IqReported b cb) s is) ↔
    Guarded (Device.step b) (fun s i ↦ NoReset b s i ∧ SlotSet b s i) s is := by
  have hs : s.Registered cb := by
    obtain ⟨radio, rfl⟩ := dtmInit_ok hinit
    exact ⟨rfl, rfl⟩
  have hstep (s : Device) (i : Input) (s' : Device) (hs : s.Registered cb)
      (hi : NoReset b s i ∧ SlotSet b s i) (h : s.step b i = .ok s') : s'.Registered cb :=
    ⟨Device.step_timerInit hs.timerInit h, (hs.step_iff hdf i).2 hi.1 s' h⟩
  rw [Guarded.forall_take_iff, ← Guarded.congr hstep
    (fun s i hs ↦ and_congr (hs.step_iff hdf i) (hs.reported_iff hdf i)) hs]
  constructor
  · rintro ⟨⟨-, hkept⟩, hreported⟩
    exact hkept.and hreported
  · exact fun h ↦ ⟨⟨hs.iqRepCb, h.mono fun _ _ h ↦ h.1⟩, h.mono fun _ _ h ↦ h.2⟩

/-- An event with one octet of the pattern `0x0F`. -/
def RadioEvent.pattern0F : RadioEvent where
  address := true
  ended := true
  ready := false
  content := fun i ↦ if i = 0 ∨ i = 1 then 0x01 else 0x0F
  iqSamples := fun _ ↦ 0x00010002
  crcOk := true
  dfeAmount := 16
  rssiSample := 60

theorem patternPdu_pattern0F {b : Build} :
    PatternPdu b .ble1Mbit RadioEvent.pattern0F.content := by
  refine ⟨?_, .pkt0F, 0x0F, [0x0F], rfl, rfl, rfl, rfl⟩
  have htype : RadioEvent.pattern0F.content 0 &&& 0x0F = 0x01 := rfl
  rw [pduTypeRefused, dtmHwRadioLrCheck, htype]
  simp [DtmPduType.code]

/-- A packet of the pattern in a reception with CTE on that has just started. -/
theorem patternReceived_pattern0F {s : Device} (hrx : s.state = .receiverTest)
    (hmode : s.cteInfo.mode ≠ .off) (hradio : s.radioMode = .ble1Mbit)
    (hcur : s.currentPdu = some 0) (hptr : s.radio.packetPtr = some 0) :
    PatternReceived b .pattern0F s where
  ended := rfl
  receiving := hrx
  cteOn := hmode
  crcOk := rfl
  pdu := by
    have hpdu : (radioDma b .pattern0F s).pdu 0 = RadioEvent.pattern0F.content := by
      rw [radioDma, if_pos hrx]
      exact if_pos hptr
    refine ⟨0, hcur, ?_⟩
    rw [hpdu, hradio]
    exact patternPdu_pattern0F

/-- A reception with a mode of arrival, set up with its slot, and one packet. -/
def iqReception : List Input :=
  [.call (.setupSetCteMode .aoa 2), .call (.setupSetCteSlot 1), .call (.testReceive 5),
    .radio .pattern0F]

/-- The run has a packet to report, and the report is made. -/
theorem iq_reporting_iff_reception :
    ∃ s s', dtmInit (.nrf5340 true false) .ready (some 7) .powerOn = .ok (.ok, s) ∧
      run (Device.step (.nrf5340 true false)) s iqReception = .ok s' ∧
      s'.cteInfo.iqRepCb = some 7 ∧ s'.iqReports.length = 1 := by
  obtain ⟨s, hs⟩ : ∃ s, dtmInit (.nrf5340 true false) .ready (some 7) .powerOn = .ok (.ok, s) :=
    ⟨_, rfl⟩
  have hiff := iq_reporting_iff rfl hs iqReception
  cases hs
  refine ⟨_, _, rfl, rfl, (hiff.2 ?_).1 4 _ rfl, rfl⟩
  -- the slot is set before the packet comes
  refine ⟨⟨trivial, trivial⟩, fun s₁ h₁ ↦ ?_⟩
  cases h₁
  refine ⟨⟨trivial, trivial⟩, fun s₂ h₂ ↦ ?_⟩
  cases h₂
  refine ⟨⟨trivial, trivial⟩, fun s₃ h₃ ↦ ?_⟩
  cases h₃
  exact ⟨⟨trivial, fun _ h ↦ (nomatch h)⟩, fun s₄ _ ↦ trivial⟩

/-- The same reception after a reset. -/
def resetReception : List Input := .call .setupReset :: iqReception

/-- **A reset loses the callback**, and the reception after it reports nothing. -/
theorem iq_reporting_lost :
    ∃ s s₁ s', dtmInit (.nrf5340 true false) .ready (some 7) .powerOn = .ok (.ok, s) ∧
      run (Device.step (.nrf5340 true false)) s (resetReception.take 1) = .ok s₁ ∧
      s₁.cteInfo.iqRepCb = none ∧
      run (Device.step (.nrf5340 true false)) s resetReception = .ok s' ∧ s'.iqReports = [] ∧
      ¬ Guarded (Device.step (.nrf5340 true false)) (IqReported (.nrf5340 true false) 7) s
        resetReception := by
  refine ⟨_, _, _, rfl, rfl, rfl, rfl, rfl, fun hg ↦ ?_⟩
  -- the last input is a packet there is to report
  have hlast := ((((hg.2 _ rfl).2 _ rfl).2 _ rfl).2 _ rfl).1
  obtain ⟨s', hs', iqData, hreport, -⟩ := hlast
    (patternReceived_pattern0F rfl (fun h ↦ (nomatch h)) rfl rfl rfl)
  cases hs'
  cases hreport

end DirectTestMode
