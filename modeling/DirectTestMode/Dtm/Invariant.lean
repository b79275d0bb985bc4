import DirectTestMode.Dtm.Control

/-!
# What holds of every device in use

`Device.Inv` collects what the library keeps from its initialisation on: it stays initialised, an
idle device has its PPI channel switched off, and a build without direction finding never turns the
constant tone extension on. `Device.Inv.step` is the step lemma; everything a step can do to the
fields involved comes from the frame lemmas of the functions and from `Device.step_control`.

The clauses are of two kinds. That the machine has left its first state and that an idle one is
quiet are facts about the control machine, proved of its five actions and carried over by the
refinement. That the extension stays off is a fact about the settings: without direction finding no
call writes `struct dtm_cte_info` at all (`api_cteInfo`), and an interrupt writes its sample memory
only.

`Control.Quiet` asks for an empty set of events and says nothing of the tasks. It could not: the end
of a carrier test leaves the transmit task attached, and the channel is quiet all the same, because
nothing on it can fire.
-/

namespace DirectTestMode

open Fallible

/-! ### The CTE mode without direction finding -/

theorem radioInit_cteInfo {b : Build} {s : Device} {x : Ret × Device}
    (h : radioInit b s = .ok x) : x.2.cteInfo = s.cteInfo := by
  rcases radioInit_cases h with rfl | ⟨-, hx, -⟩
  · rfl
  · rw [hx]

theorem errataHandle_cteInfo (b : Build) (e191 e172 e117 : Bool) (s : Device) :
    (errataHandle b e191 e172 e117 s).cteInfo = s.cteInfo := by
  rw [errataHandle_eq]

/-- A reset clears the whole structure, or on a build without direction finding none of it. -/
theorem dtmSetupReset_cteInfo {b : Build} {s : Device} {x : Ret × Device}
    (h : dtmSetupReset b s = .ok x) :
    x.2.cteInfo = if b.directionFinding then DtmCteInfo.zero else s.cteInfo :=
  (radioInit_cteInfo h).trans (errataHandle_cteInfo b _ _ _ _)

theorem dtmSetupSetPhy_cteInfo {b : Build} {phy : DtmPhy} {s : Device} {x : Ret × Device}
    (h : dtmSetupSetPhy b phy s = .ok x) : x.2.cteInfo = s.cteInfo := by
  cases phy with
  | phy1m | phy2m => exact (radioInit_cteInfo h).trans (errataHandle_cteInfo b _ _ _ _)
  | codedS8 | codedS2 =>
    simp only [dtmSetupSetPhy] at h
    split at h
    · exact (radioInit_cteInfo h).trans (errataHandle_cteInfo b _ _ _ _)
    · cases h
      rfl

/-- Without direction finding no call changes the CTE settings of an initialised device. -/
theorem api_cteInfo {b : Build} {c : Call} {s : Device} {x : dtm.Res c × Device}
    (hdf : b.directionFinding = false) (hinit : s.timerInit = true) (h : api b c s = .ok x) :
    x.2.cteInfo = s.cteInfo := by
  cases hc : c.isSetup with
  | false => exact (api_keepsSettings hc h).cteInfo
  | true =>
    cases c with
    | init env callback =>
      obtain ⟨e, he⟩ := dtmInit_again b env callback hinit
      cases he.symm.trans h
      rfl
    | setupReset =>
      rw [dtmSetupReset_cteInfo h, hdf]
      rfl
    | setupSetPhy phy => exact dtmSetupSetPhy_cteInfo h
    | setupSetModulation | setupReadFeatures | setupReadMaxSupportedValue =>
      cases h
      rfl
    | setupSetCteMode type time =>
      cases h
      rw [dtmSetupSetCteMode, hdf, Bool.not_false, if_pos rfl]
      split <;> rfl
    | setupSetCteSlot slot =>
      cases h
      rw [dtmSetupSetCteSlot, hdf, Bool.not_false, if_pos rfl]
    | setupSetAntennaParams count pattern patternLen =>
      cases h
      rw [dtmSetupSetAntennaParams, hdf, Bool.not_false, if_pos rfl]
    | setupSetTransmitPower power val channel =>
      obtain ⟨frequency, -, h⟩ := bind_eq_ok.1 h
      obtain ⟨level, -, h⟩ := bind_eq_ok.1 h
      cases h
      rfl
    | setupPrepare | testReceive | testTransmit | testEnd => cases hc

/-- An initialised device stays initialised. -/
theorem api_timerInit {b : Build} {c : Call} {s : Device} {x : dtm.Res c × Device}
    (hinit : s.timerInit = true) (h : api b c s = .ok x) : x.2.timerInit = true := by
  cases hc : c.isSetup with
  | true => exact (api_keepsTest (fun _ _ _ ↦ hinit) hc h).timerInit.trans hinit
  | false => exact (api_keepsSettings hc h).timerInit.trans hinit

/-- The timer driver stays up. -/
theorem Device.step_timerInit {b : Build} {s s' : Device} {i : Input} (hinit : s.timerInit = true)
    (h : s.step b i = .ok s') : s'.timerInit = true := by
  cases i with
  | call c =>
    obtain ⟨x, hx, h⟩ := bind_eq_ok.1 h
    cases h
    exact api_timerInit hinit hx
  | radio ev => exact (radioIrq_keepsSetup h).timerInit.trans hinit
  | anomaly ev => exact (Device.step_anomaly_keepsSetup h).timerInit.trans hinit

/-! ### The invariant -/

/-- An idle machine has its PPI channel switched off and no event on it. -/
def Control.Quiet (c : Control) : Prop :=
  c.state = .idle → c.ppi.enabled = false ∧ c.ppi.events = ∅

theorem radioPpiClear_enabled (state : DtmState) (c : PpiChannel) :
    (radioPpiClear state c).enabled = false := by
  rw [radioPpiClear]
  cases state <;> rfl

/-- Clearing the channel detaches both events, whatever test ran. The tasks depend on the test. -/
theorem radioPpiClear_events (state : DtmState) (c : PpiChannel) :
    (radioPpiClear state c).events = ∅ := by
  refine Finset.eq_empty_of_forall_notMem fun e ↦ ?_
  cases state <;> cases e <;>
    simp [radioPpiClear, PpiChannel.channelsDisable, PpiChannel.eventEndpointClear,
      PpiChannel.taskEndpointClear, PpiChannel.forkEndpointClear]

/-- **Every action leaves an idle machine quiet.** Only `done` leads to the idle state. -/
theorem Control.Quiet.act {fem : Bool} {c : Control} (h : c.Quiet) (a : ControlAction) :
    (c.act fem a).Quiet := by
  cases a with
  | keep => exact h
  | done => exact fun _ ↦ ⟨radioPpiClear_enabled _ _, radioPpiClear_events _ _⟩
  | receive | carrier | transmit => exact fun h ↦ by cases h

/-- No action leads back to the state before the initialisation. -/
theorem Control.act_booted {fem : Bool} {c : Control} (h : c.state ≠ .uninitialized)
    (a : ControlAction) : (c.act fem a).state ≠ .uninitialized := by
  cases a with
  | keep => exact h
  | done | receive | carrier | transmit => exact fun h ↦ by cases h

/-- The invariant of a device in use. -/
structure Device.Inv (b : Build) (s : Device) : Prop where
  timerInit : s.timerInit = true
  booted : s.state ≠ .uninitialized
  quiet : s.control.Quiet
  cteOff : b.directionFinding = false → s.cteInfo.mode = .off

theorem Initialised.inv {b : Build} {s : Device} (h : Initialised b s) : s.Inv b := by
  obtain ⟨env, callback, h⟩ := h
  obtain ⟨radio, rfl⟩ := dtmInit_ok h
  exact ⟨rfl, by simp, fun _ ↦ ⟨rfl, rfl⟩, fun _ ↦ rfl⟩

/-- **The invariant is kept by every call and interrupt.** -/
theorem Device.Inv.step {b : Build} {s s' : Device} {i : Input} (hs : s.Inv b)
    (h : s.step b i = .ok s') : s'.Inv b := by
  have hcontrol := Device.step_control hs.timerInit h
  have hstate : s'.state = (s.control.act b.fem (i.action b s)).state :=
    congrArg Control.state hcontrol
  refine ⟨Device.step_timerInit hs.timerInit h, ?_, ?_, fun hdf ↦ ?_⟩
  -- the machine state and the channel are those of the control machine
  · rw [hstate]
    exact Control.act_booted hs.booted _
  · rw [hcontrol]
    exact hs.quiet.act _
  · cases i with
    | call c =>
      obtain ⟨x, hx, h⟩ := bind_eq_ok.1 h
      cases h
      rw [api_cteInfo hdf hs.timerInit hx]
      exact hs.cteOff hdf
    | radio ev =>
      rw [(radioIrq_keepsSetup h).cteInfo]
      exact hs.cteOff hdf
    | anomaly ev =>
      rw [(Device.step_anomaly_keepsSetup h).cteInfo]
      exact hs.cteOff hdf

end DirectTestMode
