import DirectTestMode.Dtm.Settings

/-!
# The power levels

`nrf_power_value` holds the power levels of the chip. Without the automatic power control the stored
level is always one of them (`Settings.OnTable.act`), so an initialisation of the radio takes it
(`dtmPhyAccepted_onTable`); and every power request finds a level (`txPowerRequested_ok`), so the
assertion of the search is never met.

The table comes from the chip's headers, which are not part of the repository. `Build.PowerTable` is
what is assumed of it: that 0 dBm is a level, since the library starts with it; that a level fits
the octet of the power register, so that writing and reading it back give the same level; and that
no level is the `INT8_MAX` from which the search starts, because the search would take it for no
answer. The order of the table is not assumed here. The results about the nearest level need it and
assume it there; that a request finds some level does not.

The search compares a level with its predecessor, so it answers only between two levels. The limits
are answered before the search, which is what closes the gap at both ends.
-/

namespace DirectTestMode

open Fallible

/-- What the headers of a chip say of `nrf_power_value`: 0 dBm is a level, each level is an octet of
the power register, and none is the `INT8_MAX` that a search starts from. -/
structure Build.PowerTable (b : Build) : Prop where
  zero : (0 : UInt32) ∈ b.nrfPowerValue
  octet : ∀ p ∈ b.nrfPowerValue, p.toUInt8.toUInt32 = p
  level : ∀ p ∈ b.nrfPowerValue, int8OfUInt32 p ≠ 127

theorem Build.nrf5340_powerTable (directionFinding fem : Bool) :
    (Build.nrf5340 directionFinding fem).PowerTable := by
  have hall : ((nrf5340 true true).nrfPowerValue.all fun p ↦
      p.toUInt8.toUInt32 == p && int8OfUInt32 p != 127) = true := by decide
  have hlevel {p : UInt32} (hp : p ∈ (nrf5340 directionFinding fem).nrfPowerValue) :
      p.toUInt8.toUInt32 = p ∧ int8OfUInt32 p ≠ 127 := by
    simpa using List.all_eq_true.1 hall p hp
  exact ⟨(by decide : (0 : UInt32) ∈ (nrf5340 true true).nrfPowerValue), fun _ hp ↦ (hlevel hp).1,
    fun _ hp ↦ (hlevel hp).2⟩

variable {b : Build}

namespace Build.PowerTable

theorem ne_nil (hb : b.PowerTable) : b.nrfPowerValue ≠ [] :=
  List.ne_nil_of_mem hb.zero

/-- A level that went through an `int8_t` is still the level. -/
theorem mem (hb : b.PowerTable) {p : UInt32} (hp : p ∈ b.nrfPowerValue) :
    (int8OfUInt32 p).toUInt8.toUInt32 ∈ b.nrfPowerValue := by
  rw [int8OfUInt32, UInt8.toUInt8_toInt8, hb.octet p hp]
  exact hp

theorem min_mem (hb : b.PowerTable) : dtmHwRadioMinPowerGet b ∈ b.nrfPowerValue := by
  rw [dtmHwRadioMinPowerGet, List.headD_eq_head?_getD, List.head?_eq_some_head hb.ne_nil]
  exact List.head_mem hb.ne_nil

theorem max_mem (hb : b.PowerTable) : dtmHwRadioMaxPowerGet b ∈ b.nrfPowerValue := by
  rw [dtmHwRadioMaxPowerGet, List.getLastD_eq_getLast?, List.getLast?_eq_some_getLast hb.ne_nil]
  exact List.getLast_mem hb.ne_nil

end Build.PowerTable

/-! ### The search for the nearest level -/

/-- The search answers with a level of the table. -/
theorem nearestPowerScan_mem {txPower level : Int8} {prev : UInt32} {power : List UInt32}
    (h : nearestPowerScan txPower prev power = some level) :
    ∃ p ∈ prev :: power, int8OfUInt32 p = level := by
  induction power generalizing prev with
  | nil => cases h
  | cons p power ih =>
    rw [nearestPowerScan] at h
    split at h
    · simp only at h
      split at h
      · exact ⟨p, by simp, Option.some.inj h⟩
      · exact ⟨prev, by simp, Option.some.inj h⟩
    · obtain ⟨p', hp', heq⟩ := ih h
      exact ⟨p', List.mem_cons_of_mem prev hp', heq⟩

/-- The search ends where a level is above the power asked for. -/
theorem nearestPowerScan_isSome {txPower : Int8} {prev p : UInt32} {power : List UInt32}
    (hp : p ∈ power) (habove : txPower.toInt < (int8OfUInt32 p).toInt) :
    ∃ level, nearestPowerScan txPower prev power = some level := by
  induction power generalizing prev with
  | nil => cases hp
  | cons p' power ih =>
    rw [nearestPowerScan]
    split
    · simp only
      split
      · exact ⟨_, rfl⟩
      · exact ⟨_, rfl⟩
    · rename_i hbelow
      rcases List.mem_cons.1 hp with rfl | hp
      · exact absurd habove hbelow
      · exact ih hp

/-- **Between the limits of the chip the search finds a level.** -/
theorem nearestPowerOf_ok (hb : b.PowerTable) {txPower : Int8}
    (hmin : (int8OfUInt32 (dtmHwRadioMinPowerGet b)).toInt < txPower.toInt)
    (hmax : txPower.toInt < (int8OfUInt32 (dtmHwRadioMaxPowerGet b)).toInt) :
    ∃ p ∈ b.nrfPowerValue, nearestPowerOf b.nrfPowerValue txPower = .ok (int8OfUInt32 p) := by
  have hlast := hb.max_mem
  have hlevel := hb.level
  revert hmin hmax hlast hlevel
  rw [dtmHwRadioMinPowerGet]
  generalize dtmHwRadioMaxPowerGet b = last
  cases b.nrfPowerValue with
  | nil =>
    intro _ _ hlast
    cases hlast
  | cons first rest =>
    intro hmin hmax hlast hlevel
    rcases List.mem_cons.1 hlast with rfl | hlast
    · exact absurd hmax (Int.not_lt.2 hmin.le)
    · obtain ⟨level, hscan⟩ : ∃ level, nearestPowerScan txPower first rest = some level :=
        nearestPowerScan_isSome hlast hmax
      obtain ⟨p, hp, rfl⟩ := nearestPowerScan_mem hscan
      refine ⟨p, hp, ?_⟩
      rw [nearestPowerOf]
      simp only [hscan, Option.getD_some]
      exact if_pos (hlevel p hp)

/-- The automatic power control answers every request. -/
theorem txPowerRequested_automatic (hauto : b.powerControlAutomatic = true)
    (power : DtmTxPowerRequest) (val : Int8) (frequency : UInt16) :
    ∃ level, txPowerRequested b power val frequency = .ok level := by
  unfold txPowerRequested dtmRadioNearestPowerGet
  simp only [hauto, if_true]
  cases power with
  | min | max => exact ⟨_, rfl⟩
  | val => split_ifs <;> exact ⟨_, rfl⟩

/-- Without it a request is answered from the table. -/
theorem txPowerRequested_manual (hb : b.PowerTable) (hauto : b.powerControlAutomatic = false)
    (power : DtmTxPowerRequest) (val : Int8) (frequency : UInt16) :
    ∃ p ∈ b.nrfPowerValue,
      txPowerRequested b power val frequency = .ok (int8OfUInt32 p).toUInt8 := by
  unfold txPowerRequested dtmRadioMinPowerGet dtmRadioMaxPowerGet dtmRadioNearestPowerGet
  simp only [hauto, Bool.false_eq_true, if_false]
  cases power with
  | min => exact ⟨_, hb.min_mem, rfl⟩
  | max => exact ⟨_, hb.max_mem, rfl⟩
  | val =>
    simp only
    split_ifs with hmin hmax
    · exact ⟨_, hb.min_mem, rfl⟩
    · exact ⟨_, hb.max_mem, rfl⟩
    · obtain ⟨p, hp, hlevel⟩ := nearestPowerOf_ok hb (Int.not_le.1 hmin) (Int.not_le.1 hmax)
      refine ⟨p, hp, ?_⟩
      rw [hlevel]
      rfl

/-- **Every power request finds a level.** -/
theorem txPowerRequested_ok (hb : b.PowerTable) (power : DtmTxPowerRequest) (val : Int8)
    (frequency : UInt16) : ∃ level, txPowerRequested b power val frequency = .ok level := by
  cases hauto : b.powerControlAutomatic with
  | true => exact txPowerRequested_automatic hauto power val frequency
  | false =>
    obtain ⟨p, -, h⟩ := txPowerRequested_manual hb hauto power val frequency
    exact ⟨_, h⟩

/-! ### The stored level -/

/-- The stored level is one of the chip's. -/
def Settings.OnTable (b : Build) (v : Settings) : Prop :=
  v.txpower.toUInt32 ∈ b.nrfPowerValue

/-- The radio takes a level of the chip in every mode that the build has. -/
theorem dtmHwRadioValidate_onTable {txpower : UInt8} (h : txpower.toUInt32 ∈ b.nrfPowerValue)
    {phy : DtmPhy} (hphy : phy.supported b = true) :
    dtmHwRadioValidate b txpower phy.radioMode = true := by
  have hany : (b.nrfPowerValue.any fun p ↦ txpower.toUInt32 == p) = true :=
    List.any_eq_true.2 ⟨_, h, beq_self_eq_true _⟩
  rw [dtmHwRadioValidate, hany, Bool.and_true]
  cases phy with
  | phy1m | phy2m => simp [DtmPhy.radioMode]
  | codedS8 | codedS2 => simp [DtmPhy.radioMode, show b.hasBleCoded = true from hphy]

/-- **A power level on the chip's table is never what a PHY is refused for.** -/
theorem dtmPhyAccepted_onTable {txpower : UInt8} {phy : DtmPhy}
    (h : b.powerControlAutomatic = false → txpower.toUInt32 ∈ b.nrfPowerValue) :
    dtmPhyAccepted b txpower phy = phy.supported b := by
  rw [dtmPhyAccepted]
  cases hphy : phy.supported b with
  | false => rfl
  | true =>
    cases hauto : b.powerControlAutomatic with
    | true => simp
    | false => simp [dtmHwRadioValidate_onTable (h hauto) hphy]

namespace Settings.OnTable

/-- A vendor command sets a level that the radio takes. -/
theorem vendor {v : Settings} (hv : v.OnTable b) (vendorCmd : DtmVsSubcmd) (vendorOption : UInt32) :
    (v.vendor b vendorCmd vendorOption).OnTable b := by
  unfold Settings.vendor
  cases vendorCmd with
  | setTxPower =>
    simp only
    split
    · exact hv
    · rename_i haccepted
      simp only [Bool.or_eq_true, not_or, Bool.not_eq_true', Bool.not_eq_false] at haccepted
      have hvalid := haccepted.2
      rw [dtmHwRadioValidate, Bool.and_eq_true, List.any_eq_true] at hvalid
      obtain ⟨-, p, hp, heq⟩ := hvalid
      rw [OnTable, beq_iff_eq.1 heq]
      exact hp
  | femGainSet | femDefaultParamsSet =>
    simp only
    split
    · exact hv
    · exact hv
  | carrierTest | carrierTestStudio | femAntennaSelect | femRampUpSet => exact hv

/-- A transmit call sets a level through its vendor commands only. -/
theorem transmit {v v' : Settings} (hv : v.OnTable b) {channel length : UInt8}
    {packet : DtmPacket} (h : v.transmit b channel length packet = .ok v') : v'.OnTable b := by
  rw [Settings.transmit] at h
  split_ifs at h
  all_goals cases h
  any_goals exact hv
  cases DtmVsSubcmd.ofCode length.toUInt32 with
  | none => exact hv
  | some cmd => exact hv.vendor cmd channel.toUInt32

/-- **Without the automatic power control every call leaves a level of the chip.** -/
theorem act {v v' : Settings} (hb : b.PowerTable) (hauto : b.powerControlAutomatic = false)
    (hv : v.OnTable b) {c : Call} (h : v.act b c = .ok v') : v'.OnTable b := by
  cases c with
  | setupReset =>
    rw [Settings.act, init] at h
    split at h
    · cases h
    · cases h
      exact hv
  | setupSetPhy phy =>
    rw [Settings.act, init] at h
    split_ifs at h
    · cases h
      exact hv
    · cases h
      exact hv
  | setupSetTransmitPower power val channel =>
    obtain ⟨frequency, -, h⟩ := bind_eq_ok.1 h
    obtain ⟨level, hlevel, h⟩ := bind_eq_ok.1 h
    -- a request is met by a level of the table, whatever it asks for
    obtain ⟨p, hp, hrequested⟩ := txPowerRequested_manual hb hauto power val frequency
    cases hlevel.symm.trans hrequested
    cases h
    exact hb.mem hp
  | testTransmit channel length pkt =>
    rw [Settings.act] at h
    split at h
    · cases h
      exact hv
    · let t : Settings := { v with physCh := channel.toUInt32, packetLen := length.toUInt32 }
      exact OnTable.transmit (v := t) hv h
  | testReceive channel =>
    rw [Settings.act] at h
    split at h
    · cases h
      exact hv
    · cases h
      exact hv
  | testEnd packCnt =>
    cases packCnt <;> cases h <;> exact hv
  -- the level is in none of these
  | setupPrepare | init | setupSetModulation | setupReadFeatures | setupReadMaxSupportedValue
  | setupSetCteMode | setupSetCteSlot | setupSetAntennaParams =>
    cases h
    exact hv

end Settings.OnTable

/-! ### The device -/

/-- The device is in use, and its level is one of the chip's unless the automatic power control
chooses it. -/
structure Device.OnTable (b : Build) (s : Device) : Prop where
  timerInit : s.timerInit = true
  txpower : b.powerControlAutomatic = false → s.settings.OnTable b

/-- The level after the initialisation is 0 dBm, or one of the front-end module. -/
theorem Initialised.onTable (hb : b.PowerTable) {s : Device} (h : Initialised b s) :
    s.OnTable b := by
  obtain ⟨env, callback, h⟩ := h
  obtain ⟨radio, rfl⟩ := dtmInit_ok h
  refine ⟨rfl, fun hauto ↦ ?_⟩
  show (if b.powerControlAutomatic then b.femLib.defaultTxGainGet else 0).toUInt32 ∈ b.nrfPowerValue
  rw [hauto]
  exact hb.zero

/-- **The level stays on the table** through every call and interrupt. For the calls it is a fact
about the settings machine. -/
theorem Device.OnTable.step (hb : b.PowerTable) {s s' : Device} {i : Input} (hs : s.OnTable b)
    (h : s.step b i = .ok s') : s'.OnTable b := by
  have hkeeps (h : KeepsSetup s s') : s'.OnTable b := by
    refine ⟨h.timerInit.trans hs.timerInit, fun hauto ↦ ?_⟩
    show s'.txpower.toUInt32 ∈ b.nrfPowerValue
    rw [h.txpower]
    exact hs.txpower hauto
  cases i with
  | call c =>
    obtain ⟨x, hx, h⟩ := bind_eq_ok.1 h
    cases h
    refine ⟨api_timerInit hs.timerInit hx, fun hauto ↦ (hs.txpower hauto).act hb hauto (c := c) ?_⟩
    rw [← api_settings fun _ _ _ ↦ hs.timerInit, hx]
    rfl
  | radio ev => exact hkeeps (radioIrq_keepsSetup h)
  | anomaly ev => exact hkeeps (Device.step_anomaly_keepsSetup h)

end DirectTestMode
