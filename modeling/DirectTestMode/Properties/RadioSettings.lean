import DirectTestMode.Dtm.Power

/-!
# The settings of the radio

`radio_init` refuses a power level that the chip does not have and a mode that the build does not
have. Without the automatic power control neither is ever stored: `Device.RadioSettings` says so of
a device, from power-on and before the initialisation as well, and `Device.RadioSettings.step` is
its step lemma. The level comes from the settings machine (`Settings.OnTable.act`); the mode and the
preamble are written together, by the two functions that initialise the radio.

## Before and after the initialisation

The invariants of `Dtm.Invariant` are those of an initialised device. This one is not: a call may
come before `dtm_init`, and a power request is carried out then as it is later. So the run starts at
power-on, where the level is 0 dBm and the mode is 1 Mbit with its short preamble, and the step
lemma asks nothing of the timer driver. `api_onTable` has two cases, the initialisation, which
leaves the level alone, and every other call, which acts on the settings machine.

## What follows from it

`radio_settings_validate` states the invariant with its consequences: the stored level validates
with the mode of every PHY of the build, and none of the three functions that initialise the radio
is refused, the initialisation of the library, a reset and a change of PHY. Each needs that the
level is on the table, and the mode is the stored one or the one that the function has just written.
With the automatic power control the level is chosen by the front-end module, and nothing of this
can be said; the hypothesis is on the build.
-/

namespace DirectTestMode

open Fallible

variable {b : Build}

/-! ### The pairs of a mode and a preamble -/

/-- The preamble of a PHY. -/
def DtmPhy.packetHdrPlen : DtmPhy → PreambleLength
  | phy1m => .bit8 | phy2m => .bit16 | codedS8 => .longRange | codedS2 => .longRange

/-- The radio mode and the preamble are those of a PHY of the build. -/
def Device.OnPhy (b : Build) (s : Device) : Prop :=
  ∃ phy : DtmPhy, phy.supported b = true ∧ s.radioMode = phy.radioMode ∧
    s.packetHdrPlen = phy.packetHdrPlen

/-- The pair goes along with its two fields. -/
theorem Device.OnPhy.congr {s s' : Device} (hs : s.OnPhy b) (hmode : s'.radioMode = s.radioMode)
    (hplen : s'.packetHdrPlen = s.packetHdrPlen) : s'.OnPhy b := by
  obtain ⟨phy, hphy, hm, hp⟩ := hs
  exact ⟨phy, hphy, hmode.trans hm, hplen.trans hp⟩

/-- The initialisation of the radio and the workarounds leave the pair. -/
theorem setupInit_pair {e191 e172 e117 : Bool} {t : Device} {x : Ret × Device}
    (h : radioInit b (errataHandle b e191 e172 e117 t) = .ok x) :
    x.2.radioMode = t.radioMode ∧ x.2.packetHdrPlen = t.packetHdrPlen := by
  have herrata : (errataHandle b e191 e172 e117 t).radioMode = t.radioMode ∧
      (errataHandle b e191 e172 e117 t).packetHdrPlen = t.packetHdrPlen := by
    rw [errataHandle_eq]
    exact ⟨rfl, rfl⟩
  rcases radioInit_cases h with rfl | ⟨-, hx, -⟩
  · exact herrata
  · rw [hx]
    exact herrata

/-- **A PHY of the build is set with its preamble**, any other is not set at all. -/
theorem dtmSetupSetPhy_pair {phy : DtmPhy} {s : Device} {x : Ret × Device}
    (h : dtmSetupSetPhy b phy s = .ok x) :
    (phy.supported b = true ∧ x.2.radioMode = phy.radioMode ∧
      x.2.packetHdrPlen = phy.packetHdrPlen) ∨
    (phy.supported b = false ∧ x = (.err .enotsup, s)) := by
  cases phy with
  | phy1m | phy2m => exact .inl ⟨rfl, setupInit_pair h⟩
  | codedS8 | codedS2 =>
    simp only [dtmSetupSetPhy] at h
    split at h
    · exact .inl ⟨‹_›, setupInit_pair h⟩
    · cases h
      exact .inr ⟨Bool.eq_false_iff.2 ‹_›, rfl⟩

/-! ### The initialisation -/

/-- Without the automatic power control, `dtm_init` writes none of these, however it ends. -/
theorem dtmInit_radioSettings (hauto : b.powerControlAutomatic = false) {env : InitEnv}
    {callback : Option CodePtr} {s : Device} {x : Ret × Device}
    (h : dtmInit b env callback s = .ok x) :
    x.2.txpower = s.txpower ∧ x.2.radioMode = s.radioMode ∧
      x.2.packetHdrPlen = s.packetHdrPlen := by
  have htimer : (timerInit env s).2.txpower = s.txpower ∧
      (timerInit env s).2.radioMode = s.radioMode ∧
      (timerInit env s).2.packetHdrPlen = s.packetHdrPlen := by
    rw [timerInit]
    split <;> exact ⟨rfl, rfl, rfl⟩
  rw [dtmInit] at h
  simp only at h
  split_ifs at h
  all_goals first | (cases h; exact ⟨rfl, rfl, rfl⟩) | (cases h; exact htimer) | skip
  -- every driver is up
  obtain ⟨⟨err, t⟩, ht, h⟩ := bind_eq_ok.1 h
  have hinit : t.txpower = s.txpower ∧ t.radioMode = s.radioMode ∧
      t.packetHdrPlen = s.packetHdrPlen := by
    rw [hauto] at ht
    rcases radioInit_cases ht with hx | ⟨-, hx, -⟩
    · cases hx
      exact htimer
    · rw [show t = _ from hx]
      exact htimer
  simp only at h
  split at h
  · cases h
    exact hinit
  · cases h
    exact hinit

/-! ### The invariant -/

/-- The radio takes the settings that are stored. -/
structure Device.RadioSettings (b : Build) (s : Device) : Prop where
  txpower : s.txpower.toUInt32 ∈ b.nrfPowerValue
  onPhy : s.OnPhy b

/-- At power-on the level is 0 dBm and the PHY is 1 Mbit. -/
theorem Device.RadioSettings.powerOn (hb : b.PowerTable) : Device.powerOn.RadioSettings b where
  txpower := hb.zero
  onPhy := ⟨.phy1m, rfl, rfl, rfl⟩

/-- The mode and the preamble after a call. -/
theorem Device.OnPhy.call {c : Call} {s : Device} (hauto : b.powerControlAutomatic = false)
    (hs : s.OnPhy b) {x : dtm.Res c × Device} (h : api b c s = .ok x) : x.2.OnPhy b := by
  cases hc : c.isSetup with
  | false =>
    have hkeeps := api_keepsSettings hc h
    exact hs.congr hkeeps.radioMode hkeeps.packetHdrPlen
  | true =>
    cases c with
    | init env callback =>
      obtain ⟨-, hmode, hplen⟩ := dtmInit_radioSettings hauto h
      exact hs.congr hmode hplen
    | setupReset => exact ⟨.phy1m, rfl, setupInit_pair h⟩
    | setupSetPhy phy =>
      rcases dtmSetupSetPhy_pair h with ⟨hphy, hpair⟩ | ⟨-, hx⟩
      · exact ⟨phy, hphy, hpair⟩
      · cases hx
        exact hs
    | setupSetModulation | setupReadFeatures | setupReadMaxSupportedValue | setupSetCteMode
    | setupSetCteSlot | setupSetAntennaParams | setupSetTransmitPower =>
      rw [api_setting hc rfl h]
      exact hs
    | setupPrepare | testReceive | testTransmit | testEnd => cases hc

/-- **The level after a call** is one of the chip's, whether or not the device is in use. -/
theorem api_onTable (hb : b.PowerTable) (hauto : b.powerControlAutomatic = false) {c : Call}
    {s : Device} (hs : s.txpower.toUInt32 ∈ b.nrfPowerValue) {x : dtm.Res c × Device}
    (h : api b c s = .ok x) : x.2.txpower.toUInt32 ∈ b.nrfPowerValue := by
  have hact (hinit : ∀ env callback, c = .init env callback → s.timerInit = true) :
      x.2.txpower.toUInt32 ∈ b.nrfPowerValue := by
    have hs : s.settings.OnTable b := hs
    have hact : s.settings.act b c = .ok x.2.settings := by
      rw [← api_settings hinit, h]
      rfl
    exact hs.act hb hauto hact
  cases c with
  | init env callback =>
    rw [(dtmInit_radioSettings hauto h).1]
    exact hs
  | setupPrepare | setupReset | setupSetPhy | setupSetModulation | setupReadFeatures
  | setupReadMaxSupportedValue | setupSetCteMode | setupSetCteSlot | setupSetAntennaParams
  | setupSetTransmitPower | testReceive | testTransmit | testEnd => exact hact (by simp)

/-- **Every call and interrupt leaves settings that the radio takes.** -/
theorem Device.RadioSettings.step (hb : b.PowerTable) (hauto : b.powerControlAutomatic = false)
    {s s' : Device} {i : Input} (hs : s.RadioSettings b) (h : s.step b i = .ok s') :
    s'.RadioSettings b := by
  have hkeeps (h : KeepsSetup s s') : s'.RadioSettings b := by
    refine ⟨?_, hs.onPhy.congr h.radioMode h.packetHdrPlen⟩
    rw [h.txpower]
    exact hs.txpower
  cases i with
  | call c =>
    obtain ⟨x, hx, h⟩ := bind_eq_ok.1 h
    cases h
    exact ⟨api_onTable hb hauto hs.txpower hx, hs.onPhy.call hauto hx⟩
  | radio ev => exact hkeeps (radioIrq_keepsSetup h)
  | anomaly ev => exact hkeeps (Device.step_anomaly_keepsSetup h)

/-! ### The initialisations of the radio -/

/-- The radio is initialised with settings that it takes. -/
theorem radioInit_validated (hauto : b.powerControlAutomatic = false) {t : Device}
    (h : dtmHwRadioValidate b t.txpower t.radioMode = true) :
    ∃ t', radioInit b t = .ok (.ok, t') := by
  rcases hx : radioInit b t with e | ⟨r, t'⟩
  · cases hauto.symm.trans (radioInit_error.1 hx).2.1
  · cases (radioInit_ret hx).2 (by rw [h, Bool.true_or])
    exact ⟨t', rfl⟩

/-- So is the library, with whatever callback. -/
theorem dtmInitRadio_validated (hauto : b.powerControlAutomatic = false)
    (callback : Option CodePtr) {s : Device}
    (h : dtmHwRadioValidate b s.txpower s.radioMode = true) :
    ∃ s', dtmInitRadio b callback s = .ok (.ok, s') := by
  rw [dtmInitRadio, hauto]
  obtain ⟨t, ht⟩ := radioInit_validated hauto (t := { s with txpower := s.txpower }) h
  exact ⟨_, bind_eq_ok.2 ⟨_, ht, rfl⟩⟩

/-- **The radio settings always validate**, in every state of every run from power-on: the three
functions that initialise the radio are never refused. -/
theorem radio_settings_validate (hb : b.PowerTable) (hauto : b.powerControlAutomatic = false)
    {s : Device} (hs : Reachable (Device.step b) (· = .powerOn) s) :
    s.RadioSettings b ∧
    (∀ phy : DtmPhy, phy.supported b = true →
      dtmHwRadioValidate b s.txpower phy.radioMode = true) ∧
    (∀ callback, ∃ s', dtmInitRadio b callback { s with timerInit := true } = .ok (.ok, s')) ∧
    (∃ s', dtmSetupReset b s = .ok (.ok, s')) ∧
    ∀ phy : DtmPhy, phy.supported b = true → ∃ s', dtmSetupSetPhy b phy s = .ok (.ok, s') := by
  have hsettings : s.RadioSettings b := by
    refine hs.invariant ?_ fun _ _ _ hs h ↦ hs.step hb hauto h
    rintro s rfl
    exact .powerOn hb
  have hvalidate (phy : DtmPhy) (hphy : phy.supported b = true) :
      dtmHwRadioValidate b s.txpower phy.radioMode = true :=
    dtmHwRadioValidate_onTable hsettings.txpower hphy
  refine ⟨hsettings, hvalidate, fun callback ↦ ?_, ?_, fun phy hphy ↦ ?_⟩
  · obtain ⟨phy, hphy, hmode, -⟩ := hsettings.onPhy
    refine dtmInitRadio_validated hauto callback ?_
    show dtmHwRadioValidate b s.txpower s.radioMode = true
    rw [hmode]
    exact hvalidate phy hphy
  · refine radioInit_validated hauto ?_
    rw [errataHandle_radioMode, errataHandle_eq]
    exact hvalidate .phy1m rfl
  · refine dtmSetupSetPhy_ok_iff.2 ⟨?_, fun h ↦ ?_⟩
    · rw [dtmPhyAccepted_onTable fun _ ↦ hsettings.txpower, hphy]
    · cases hauto.symm.trans h.1

/-- The settings are changed before the initialisation and after it, and the coded PHY can be
set. -/
theorem radio_settings_validate_nrf5340 :
    ∃ s, run (Device.step (.nrf5340 true false)) .powerOn
        [.call (.setupSetTransmitPower .val (-15) 0), .call (.init .ready none),
          .call (.testTransmit 0x3E 2 .ffOrVendor)] = .ok s ∧
      s.txpower = 0xFE ∧ s.RadioSettings (.nrf5340 true false) ∧
      ∃ s', dtmSetupSetPhy (.nrf5340 true false) .codedS2 s = .ok (.ok, s') := by
  have hs : Reachable (Device.step (.nrf5340 true false)) (· = .powerOn) _ :=
    .next (i := .call (.testTransmit 0x3E 2 .ffOrVendor))
      (.next (i := .call (.init .ready none))
        (.next (i := .call (.setupSetTransmitPower .val (-15) 0)) (.start rfl) rfl) rfl) rfl
  have h := radio_settings_validate (Build.nrf5340_powerTable true false) rfl hs
  exact ⟨_, rfl, rfl, h.1, h.2.2.2.2 .codedS2 rfl⟩

end DirectTestMode
