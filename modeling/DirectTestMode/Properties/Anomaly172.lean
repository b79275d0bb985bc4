import DirectTestMode.Dtm.Invariant

/-!
# The erratum 172 workaround

Three flags and a timer. `anomaly_172_wa_enabled` says that the workaround is in use, `strict_mode`
what the correlator is set to, and the anomaly timer looks at the received signal while a reception
waits for a packet. The command thread, the interrupt of the radio and that of the timer all write
them, and the timer arms itself again.

`Device.Confined` is the conjunction that holds between any two of these: strict mode only with the
workaround in use, the workaround only on a coded PHY, the timer only in a reception with the
workaround in use. It is inductive as a whole and not clause by clause: the timer's handler may set
strict mode, and keeps the first clause because the third held before; the third is kept by a PHY
change because the errata are handled with it.

## The shape of the argument

* `KeepsAnomaly` covers the calls that write none of these fields, which are most of them;
* `ModeWritten` is the state between the two halves of a set-up call, where the radio mode is
  already the new one and the errata are not handled yet: the one place at which the invariant is
  broken. `errata172Handle_off` and `errata172Handle_on` repair it, from either value of the flag;
* `AnomalyArmed` says what an interrupt of the radio may do to the timer, **relative to the state
  before it**, so that two parts of the handler compose (`AnomalyArmed.trans`) as long as the
  settings are kept along the way;
* `Device.Anomaly172.step` collects the calls and the interrupts, and `anomaly172_confined` is the
  invariant rule for runs (`Guarded.invariant`) applied to it.

## The two hypotheses

The interrupt of the timer is one of an enabled timer (`TimerRuns`); a disabled timer raises none,
and the handler of a stray one would arm it outside a reception. The chip has the erratum compiled
in (`errata172Present`): on a build without it `errata_172_handle` is empty and the flags are never
written. Whether the chip at hand has the erratum, and its trim asks for the workaround, is left
open on purpose, which is what `Device.Anomaly172.affected` is for.
-/

namespace DirectTestMode

open Fallible

variable {b : Build}

/-! ### The invariant -/

/-- A radio mode of the coded PHYs. -/
def RadioMode.Coded (mode : RadioMode) : Prop := mode = .bleLr125Kbit ∨ mode = .bleLr500Kbit

/-- The workaround keeps to receptions on the coded PHYs. -/
structure Device.Confined (s : Device) : Prop where
  strictMode : s.strictMode = true → s.anomaly172WaEnabled = true
  waEnabled : s.anomaly172WaEnabled = true → s.radioMode.Coded
  timer : s.anomalyTimer.enabled = true → s.anomaly172WaEnabled = true ∧ s.state = .receiverTest

/-- The invariant of a run: a chip without the erratum never takes the workaround into use. -/
structure Device.Anomaly172 (b : Build) (s : Device) : Prop where
  timerInit : s.timerInit = true
  affected : s.anomaly172WaEnabled = true → b.errata172 = true
  confined : s.Confined

/-- The fields that the invariant is about are the same. -/
structure KeepsAnomaly (s s' : Device) : Prop where
  timerInit : s'.timerInit = s.timerInit
  anomaly172WaEnabled : s'.anomaly172WaEnabled = s.anomaly172WaEnabled
  strictMode : s'.strictMode = s.strictMode
  anomalyTimer : s'.anomalyTimer = s.anomalyTimer
  radioMode : s'.radioMode = s.radioMode
  state : s'.state = s.state

theorem KeepsAnomaly.refl (s : Device) : KeepsAnomaly s s := by
  constructor <;> rfl

namespace Device.Anomaly172

variable {s s' : Device}

/-- The invariant goes along with its fields. -/
theorem keep (hs : s.Anomaly172 b) (h : KeepsAnomaly s s') : s'.Anomaly172 b where
  timerInit := h.timerInit.trans hs.timerInit
  affected := by
    rw [h.anomaly172WaEnabled]
    exact hs.affected
  confined := by
    refine ⟨?_, ?_, ?_⟩
    · rw [h.strictMode, h.anomaly172WaEnabled]
      exact hs.confined.strictMode
    · rw [h.anomaly172WaEnabled, h.radioMode]
      exact hs.confined.waEnabled
    · rw [h.anomalyTimer, h.anomaly172WaEnabled, h.state]
      exact hs.confined.timer

/-- A device out of a reception has its timer stopped. -/
theorem stopped (hs : s.Anomaly172 b) (hstate : s.state ≠ .receiverTest) :
    s.anomalyTimer.enabled = false := by
  refine Bool.eq_false_iff.2 fun h ↦ ?_
  exact hstate (hs.confined.timer h).2

/-- Stopping the timer is always safe. -/
theorem stop (hs : s.Anomaly172 b) (hinit : s'.timerInit = s.timerInit)
    (hwa : s'.anomaly172WaEnabled = s.anomaly172WaEnabled) (hstrict : s'.strictMode = s.strictMode)
    (hmode : s'.radioMode = s.radioMode) (htimer : s'.anomalyTimer.enabled = false) :
    s'.Anomaly172 b where
  timerInit := hinit.trans hs.timerInit
  affected := by
    rw [hwa]
    exact hs.affected
  confined := by
    refine ⟨?_, ?_, fun h ↦ ?_⟩
    · rw [hstrict, hwa]
      exact hs.confined.strictMode
    · rw [hwa, hmode]
      exact hs.confined.waEnabled
    · cases htimer.symm.trans h

end Device.Anomaly172

/-! ### The set-up calls -/

/-- The errata are handled on a device whose radio mode has just been written. -/
structure ModeWritten (s t : Device) : Prop where
  timerInit : t.timerInit = s.timerInit
  anomaly172WaEnabled : t.anomaly172WaEnabled = s.anomaly172WaEnabled
  strictMode : t.strictMode = s.strictMode
  anomalyTimer : t.anomalyTimer = s.anomalyTimer
  state : t.state = s.state

theorem errataHandle_anomaly (b : Build) (e191 e172 e117 : Bool) (t : Device) :
    KeepsAnomaly (errata172Handle b e172 t) (errataHandle b e191 e172 e117 t) := by
  rw [errataHandle, errata117Handle, errata191Handle, errata172Handle, errata172Handle,
    anomaly172StrictModeSet]
  repeat' split
  all_goals constructor <;> rfl

/-- **The workaround is taken out of use with a PHY that needs none.** A chip with the erratum
clears all three flags; on any other they were clear, which is `affected`. -/
theorem errata172Handle_off {s t : Device} (hb : b.errata172Present = true) (hs : s.Anomaly172 b)
    (ht : ModeWritten s t) : (errata172Handle b false t).Anomaly172 b := by
  have hinit : t.timerInit = true := ht.timerInit.trans hs.timerInit
  rw [errata172Handle, hb, Bool.true_and]
  cases haffected : b.errata172 with
  | true =>
    refine ⟨hinit, ?_, ?_, ?_, ?_⟩
    all_goals
      intro h
      cases h
  | false =>
    have hunused : s.anomaly172WaEnabled ≠ true := fun h ↦ by
      cases haffected.symm.trans (hs.affected h)
    refine ⟨hinit, fun h ↦ absurd (ht.anomaly172WaEnabled.symm.trans h) hunused, ?_, ?_, ?_⟩
    · exact fun h ↦ absurd (hs.confined.strictMode (ht.strictMode.symm.trans h)) hunused
    · exact fun h ↦ absurd (ht.anomaly172WaEnabled.symm.trans h) hunused
    · intro h
      rw [show (if !false then t else _ : Device) = t from rfl, ht.anomalyTimer] at h
      exact absurd (hs.confined.timer h).1 hunused

/-- **It is taken into use with a coded PHY only.** -/
theorem errata172Handle_on {s t : Device} (hb : b.errata172Present = true) (hs : s.Anomaly172 b)
    (ht : ModeWritten s t) (hmode : t.radioMode.Coded) :
    (errata172Handle b true t).Anomaly172 b := by
  have hinit : t.timerInit = true := ht.timerInit.trans hs.timerInit
  have hkept : t.Anomaly172 b := by
    refine ⟨hinit, ?_, ?_, fun _ ↦ hmode, ?_⟩
    · rw [ht.anomaly172WaEnabled]
      exact hs.affected
    · rw [ht.strictMode, ht.anomaly172WaEnabled]
      exact hs.confined.strictMode
    · rw [ht.anomalyTimer, ht.anomaly172WaEnabled, ht.state]
      exact hs.confined.timer
  rw [errata172Handle, hb, Bool.true_and]
  cases haffected : b.errata172 with
  | false => exact hkept
  | true =>
    cases b.errata172Trimmed with
    | false => exact hkept
    | true =>
      exact ⟨hinit, fun _ ↦ haffected, fun _ ↦ rfl, fun _ ↦ hmode,
        fun h ↦ ⟨rfl, (hkept.confined.timer h).2⟩⟩

/-- The radio's set-up writes registers, and none of these fields. -/
theorem radioInit_anomaly {s : Device} {x : Ret × Device} (h : radioInit b s = .ok x) :
    KeepsAnomaly s x.2 := by
  rcases radioInit_cases h with rfl | ⟨-, hx, -⟩
  · exact .refl s
  · rw [hx]
    constructor <;> rfl

/-- The shape of `dtm_setup_reset` and `dtm_setup_set_phy`. -/
theorem setupInit_anomaly {e191 e172 e117 : Bool} {t : Device} {x : Ret × Device}
    (ht : (errata172Handle b e172 t).Anomaly172 b)
    (h : radioInit b (errataHandle b e191 e172 e117 t) = .ok x) : x.2.Anomaly172 b :=
  (ht.keep (errataHandle_anomaly b e191 e172 e117 t)).keep (radioInit_anomaly h)

theorem dtmSetupReset_anomaly {s : Device} (hb : b.errata172Present = true)
    (hs : s.Anomaly172 b) {x : Ret × Device} (h : dtmSetupReset b s = .ok x) :
    x.2.Anomaly172 b :=
  setupInit_anomaly (errata172Handle_off hb hs (by constructor <;> rfl)) h

/-- A PHY change handles the errata for the new PHY, so the flag and the radio mode change
together. -/
theorem dtmSetupSetPhy_anomaly {s : Device} (hb : b.errata172Present = true)
    (hs : s.Anomaly172 b) {phy : DtmPhy} {x : Ret × Device} (h : dtmSetupSetPhy b phy s = .ok x) :
    x.2.Anomaly172 b := by
  cases phy with
  | phy1m | phy2m =>
    exact setupInit_anomaly (errata172Handle_off hb hs (by constructor <;> rfl)) h
  | codedS8 =>
    simp only [dtmSetupSetPhy] at h
    split at h
    · exact setupInit_anomaly (errata172Handle_on hb hs (by constructor <;> rfl) (.inl rfl)) h
    · cases h
      exact hs
  | codedS2 =>
    simp only [dtmSetupSetPhy] at h
    split at h
    · exact setupInit_anomaly (errata172Handle_on hb hs (by constructor <;> rfl) (.inr rfl)) h
    · cases h
      exact hs

/-! ### The tests -/

/-- Preparing a transmission starts no timer. -/
theorem radioPrepare_tx_anomalyTimer {s s' : Device} (h : radioPrepare b false s = .ok s')
    (hs : s.anomalyTimer.enabled = false) : s'.anomalyTimer.enabled = false := by
  obtain ⟨t, ht, h⟩ := bind_eq_ok.1 h
  obtain ⟨frequency, -, ht⟩ := bind_eq_ok.1 ht
  obtain ⟨radio, -, h⟩ := bind_eq_ok.1 h
  cases ht
  cases h
  show (if b.errata172Present && s.anomaly172WaEnabled then _ else _ : AnomalyTimer).enabled = false
  split
  · rfl
  · exact hs

/-- **A transmission starts no timer.** -/
theorem dtmTestTransmit_anomalyTimer {channel length : UInt8} {pkt : DtmPacket} {s : Device}
    {x : Ret × Device} (h : dtmTestTransmit b channel length pkt s = .ok x)
    (hs : s.anomalyTimer.enabled = false) : x.2.anomalyTimer.enabled = false := by
  rcases dtmTestTransmit_prepared h with ⟨-, pdu, t, ht, hstarted⟩ | ⟨-, -, htimer⟩
  · rw [hstarted.anomalyTimer]
    exact radioPrepare_tx_anomalyTimer ht hs
  · rw [htimer]
    exact hs

/-- The end of a test stops the timer: the clause about it asks nothing of an idle device. -/
theorem dtmTestDone_anomaly {s : Device} (hb : b.errata172Present = true)
    (hs : s.Anomaly172 b) : (dtmTestDone b s).Anomaly172 b := by
  refine hs.stop rfl rfl rfl rfl ?_
  show (if b.errata172Present then _ else _ : AnomalyTimer).enabled = false
  rw [if_pos hb]

theorem dtmTestTransmit_anomaly {channel length : UInt8} {pkt : DtmPacket} {s : Device}
    (hs : s.Anomaly172 b) {x : Ret × Device}
    (h : dtmTestTransmit b channel length pkt s = .ok x) : x.2.Anomaly172 b := by
  have hsettings := dtmTestTransmit_keepsSettings h
  have hstop (hidle : s.state = .idle) (hstrict : x.2.strictMode = s.strictMode) :
      x.2.Anomaly172 b :=
    hs.stop hsettings.timerInit hsettings.anomaly172WaEnabled hstrict hsettings.radioMode
      (dtmTestTransmit_anomalyTimer h (hs.stopped (by simp [hidle])))
  cases dtmTestTransmit_ok h with
  | busy => exact hs
  | channel | setting | refused | carrier | modulated => exact hstop ‹_› rfl

/-- A start of a reception may set strict mode, with the workaround in use; the timer stays as it
was. -/
theorem dtmTestReceive_anomaly {channel : UInt8} {s : Device} (hs : s.Anomaly172 b)
    {x : Ret × Device} (h : dtmTestReceive b channel s = .ok x) : x.2.Anomaly172 b := by
  rcases Nat.lt_or_ge physChMax channel.toNat with hc | hc
  · cases (dtmTestReceive_illegal b s hc).symm.trans h
    exact hs
  · obtain ⟨radio, -, heq⟩ := dtmTestReceive_legal b s hc
    cases heq.symm.trans h
    refine ⟨hs.timerInit, hs.affected, fun hstrict ↦ ?_, hs.confined.waEnabled, fun ht ↦ ?_⟩
    -- strict mode is switched on with the workaround in use, else it stays
    · rcases (Bool.or_eq_true _ _).mp hstrict with hwa | hstrict
      · exact ((Bool.and_eq_true _ _).mp hwa).2
      · exact hs.confined.strictMode hstrict
    · exact ⟨(hs.confined.timer ht).1, rfl⟩

/-! ### The interrupts -/

/-- What an interrupt of the radio may do: the timer is enabled in a reception with the workaround
in use, or it was before. -/
structure AnomalyArmed (s s' : Device) : Prop where
  strictMode : s'.strictMode = s.strictMode
  timer : s'.anomalyTimer.enabled = true → s.anomalyTimer.enabled = true ∨
    (s.anomaly172WaEnabled = true ∧ s.state = .receiverTest)

namespace AnomalyArmed

theorem of_eq {s s' : Device} (hstrict : s'.strictMode = s.strictMode)
    (htimer : s'.anomalyTimer = s.anomalyTimer) : AnomalyArmed s s' :=
  ⟨hstrict, fun h ↦ .inl (htimer ▸ h)⟩

theorem trans {s s' s'' : Device} (hkeeps : KeepsSetup s s') (h : AnomalyArmed s s')
    (h' : AnomalyArmed s' s'') : AnomalyArmed s s'' where
  strictMode := h'.strictMode.trans h.strictMode
  timer ht := by
    rcases h'.timer ht with ht | hrx
    · exact h.timer ht
    · rw [hkeeps.anomaly172WaEnabled, hkeeps.state] at hrx
      exact .inr hrx

end AnomalyArmed

theorem anomalyTimerSet_armed (b : Build) (enabled : Bool) (s : Device) :
    AnomalyArmed s (anomalyTimerSet b enabled s) := by
  rw [anomalyTimerSet]
  split
  · rename_i h
    simp only [Bool.and_eq_true, beq_iff_eq] at h
    exact ⟨rfl, fun _ ↦ .inr ⟨h.2, h.1.2⟩⟩
  · exact .of_eq rfl rfl

/-- The restart after a packet arms the timer, and only with the workaround in use. -/
theorem receivedPdu_armed {ev : RadioEvent} {received : Fin 2} {s s' : Device}
    (hrx : s.state = .receiverTest) (h : receivedPdu b ev received s = .ok s') :
    AnomalyArmed s s' := by
  rw [receivedPdu_ok h]
  refine ⟨rfl, fun ht ↦ ?_⟩
  -- neither the check nor the counters touch the timer that the restart arms
  have ht : (if b.errata172Present && s.anomaly172WaEnabled then ⟨true, true⟩
      else s.anomalyTimer : AnomalyTimer).enabled = true := ht
  split at ht
  · exact .inr ⟨((Bool.and_eq_true _ _).mp ‹_›).2, hrx⟩
  · exact .inl ht

theorem onRadioEndEvent_armed {ev : RadioEvent} {s s' : Device}
    (h : onRadioEndEvent b ev s = .ok s') : AnomalyArmed s s' := by
  rw [onRadioEndEvent] at h
  split at h
  · cases h
    exact .of_eq rfl rfl
  · rename_i hrx
    split at h
    · cases h
    · exact receivedPdu_armed (not_not.1 hrx) h

theorem radioDma_armed (b : Build) (ev : RadioEvent) (s : Device) :
    AnomalyArmed s (radioDma b ev s) := by
  rw [radioDma]
  split <;> exact .of_eq rfl rfl

theorem radioIrq_armed {ev : RadioEvent} {s s' : Device} (h : radioIrq b ev s = .ok s') :
    AnomalyArmed s s' := by
  -- the frame goes along, since arming is said of the settings before
  have hboth : KeepsSetup s s' ∧ AnomalyArmed s s' :=
    radioIrq_rule (R := fun s s' ↦ KeepsSetup s s' ∧ AnomalyArmed s s')
      (fun s ↦ ⟨.refl s, .of_eq rfl rfl⟩) (fun h h' ↦ ⟨h.1.trans h'.1, h.2.trans h.1 h'.2⟩)
      (fun s ↦ ⟨radioDma_keepsSetup b ev s, radioDma_armed b ev s⟩)
      (fun enabled s ↦ ⟨anomalyTimerSet_keepsSetup b enabled s, anomalyTimerSet_armed b enabled s⟩)
      (fun h ↦ ⟨onRadioEndEvent_keepsSetup h, onRadioEndEvent_armed h⟩) h
  exact hboth.2

/-- An interrupt of the anomaly timer is one of an enabled timer. -/
def TimerRuns (s : Device) : Input → Prop
  | .anomaly _ => s.anomalyTimer.enabled = true
  | _ => True

/-! ### Runs -/

/-- An interrupt of the radio arms the timer, in a reception with the workaround in use. -/
theorem Device.Anomaly172.radio {s s' : Device} {ev : RadioEvent} (hs : s.Anomaly172 b)
    (h : radioIrq b ev s = .ok s') : s'.Anomaly172 b := by
  have hkeeps := radioIrq_keepsSetup h
  have harmed := radioIrq_armed h
  refine ⟨hkeeps.timerInit.trans hs.timerInit, ?_, ?_, ?_, fun ht ↦ ?_⟩
  · rw [hkeeps.anomaly172WaEnabled]
    exact hs.affected
  · rw [harmed.strictMode, hkeeps.anomaly172WaEnabled]
    exact hs.confined.strictMode
  · rw [hkeeps.anomaly172WaEnabled, hkeeps.radioMode]
    exact hs.confined.waEnabled
  · rw [hkeeps.anomaly172WaEnabled, hkeeps.state]
    exact (harmed.timer ht).elim hs.confined.timer id

/-- The timer was running, so a reception with the workaround in use is: its handler may decide
as it likes. -/
theorem Device.Anomaly172.timer {s s' : Device} {ev : AnomalyEvent} (hs : s.Anomaly172 b)
    (hi : s.anomalyTimer.enabled = true) (h : s.step b (.anomaly ev) = .ok s') :
    s'.Anomaly172 b := by
  obtain ⟨hwa, hrx⟩ := hs.confined.timer hi
  have hkeeps := Device.step_anomaly_keepsSetup h
  have hwa' : s'.anomaly172WaEnabled = true := hkeeps.anomaly172WaEnabled.trans hwa
  refine ⟨hkeeps.timerInit.trans hs.timerInit, fun _ ↦ hs.affected hwa, fun _ ↦ hwa', fun _ ↦ ?_,
    fun _ ↦ ⟨hwa', hkeeps.state.trans hrx⟩⟩
  rw [hkeeps.radioMode]
  exact hs.confined.waEnabled hwa

/-- **Every call and interrupt keeps the workaround confined.** Of the calls only the two that
set a PHY write the flag, and only the starts and ends of tests change what the timer's clause
asks. -/
theorem Device.Anomaly172.step {s s' : Device} {i : Input} (hb : b.errata172Present = true)
    (hs : s.Anomaly172 b) (hi : TimerRuns s i) (h : s.step b i = .ok s') : s'.Anomaly172 b := by
  cases i with
  | call c =>
    obtain ⟨x, hx, h⟩ := bind_eq_ok.1 h
    cases h
    cases c with
    | init env callback =>
      obtain ⟨e, he⟩ := dtmInit_again b env callback hs.timerInit
      cases he.symm.trans hx
      exact hs
    | setupPrepare =>
      cases hx
      exact dtmTestDone_anomaly hb hs
    | setupReset => exact dtmSetupReset_anomaly hb hs hx
    | setupSetPhy phy => exact dtmSetupSetPhy_anomaly hb hs hx
    | setupSetModulation | setupReadFeatures | setupReadMaxSupportedValue | setupSetCteMode
    | setupSetCteSlot | setupSetAntennaParams | setupSetTransmitPower =>
      refine hs.keep ?_
      rw [api_setting rfl rfl hx]
      constructor <;> rfl
    | testReceive channel => exact dtmTestReceive_anomaly hs hx
    | testTransmit channel length pkt => exact dtmTestTransmit_anomaly hs hx
    | testEnd packCnt =>
      cases hx
      cases packCnt with
      | false => exact hs
      | true => exact dtmTestDone_anomaly hb hs
  | radio ev => exact hs.radio h
  | anomaly ev => exact hs.timer hi h

theorem Initialised.anomaly172 {s : Device} (h : Initialised b s) : s.Anomaly172 b := by
  obtain ⟨env, callback, h⟩ := h
  obtain ⟨radio, rfl⟩ := dtmInit_ok h
  refine ⟨rfl, ?_, ?_, ?_, ?_⟩
  all_goals
    intro h
    cases h

/-- **The erratum 172 workaround stays confined** in every run of calls and interrupts, in
whatever order they come, as long as the timer's interrupts are those of an enabled timer. -/
theorem anomaly172_confined (hb : b.errata172Present = true) {s s' : Device} (hs : Initialised b s)
    {is : List Input} (hg : Guarded (Device.step b) TimerRuns s is)
    (hrun : run (Device.step b) s is = .ok s') : s'.Confined :=
  (hg.invariant (fun _ _ _ hs hi h ↦ hs.step hb hi h) hs.anomaly172 hrun).confined

/-- A build for the nRF52840, on a chip whose trim asks for the workaround. -/
def Build.nrf52840 : Build where
  __ := Build.nrf5340 false false
  nrf53Series := false
  errata172Present := true
  errata172 := true
  errata172Trimmed := true
  errata117 := false
  errata191 := true
  maxRxTxTime := 0x2148
  nrfPowerValue := [0xD8, 0xE2, 0xEC, 0xF0, 0xF4, 0xF8, 0xFC, 0x00, 0x02, 0x03, 0x04, 0x05, 0x06,
    0x07, 0x08]

/-- A packet with a bad CRC is received. -/
def RadioEvent.crcError : RadioEvent where
  address := true
  ended := true
  ready := false
  content := DtmPdu.zero
  iqSamples := IqSamples.zero
  crcOk := false
  dfeAmount := 0
  rssiSample := 60

/-- A reception on a coded PHY, its first packet, and the compare interrupt that it armed. -/
def codedReception : List Input :=
  [.call (.setupSetPhy .codedS8), .call (.testReceive 5), .radio .crcError,
    .anomaly ⟨false, 60, 0, 0⟩]

/-- The run reaches strict mode with the timer enabled again, so no clause holds for want of a
premise. -/
theorem anomaly172_confined_nrf52840 :
    ∃ s s', Initialised .nrf52840 s ∧ run (Device.step .nrf52840) s codedReception = .ok s' ∧
      s'.strictMode = true ∧ s'.anomalyTimer.enabled = true ∧ s'.Confined := by
  have hs : Initialised .nrf52840 .nrf5340 := ⟨.ready, none, rfl⟩
  refine ⟨_, _, hs, rfl, rfl, rfl, anomaly172_confined rfl hs
    (show Guarded (Device.step .nrf52840) TimerRuns _ codedReception from ?_) rfl⟩
  -- the timer runs when its interrupt comes
  refine ⟨trivial, fun s₁ h₁ ↦ ?_⟩
  cases h₁
  refine ⟨trivial, fun s₂ h₂ ↦ ?_⟩
  cases h₂
  refine ⟨trivial, fun s₃ h₃ ↦ ?_⟩
  cases h₃
  exact ⟨rfl, fun s₄ _ ↦ trivial⟩

end DirectTestMode
