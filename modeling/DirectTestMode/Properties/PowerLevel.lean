import DirectTestMode.Dtm.Power
import DirectTestMode.Machine.Nearest
import DirectTestMode.Transport.Effect
import DirectTestMode.Transport.HciRun
import Mathlib.Algebra.Order.Group.Unbundled.Int
import Mathlib.Data.List.Pairwise

/-!
# The power that is set and the power that is reported

`nrf_power_value` is documented as ascending. Over every such table a request without the automatic
power control stores the level it asks for (`txPowerRequested_level`): the lowest one, the highest
one, or the one nearest to the value (`dtmSetupSetTransmitPower_nearest`).

What is returned about it is another matter. The switch over the requests has no `break` after a
request for a value, which so falls through to the answer that is still empty; and the two other
requests compare the stored level, an unsigned octet, with limits that are signed, so that a level
below 0 dBm is never seen to be one of them. `dtmSetupSetTransmitPower_reports_iff` says when the
answer is right all the same.

## The level that is stored

"Nearest" is `Nearest` of `Machine.Nearest`, the closest element of a set of integers, the lower one
of two. The search of the source is a loop over neighbours, and its invariant is that no level is
lost between the one before and the rest (`nearestPowerScan_nearest`); the limits of the table are
answered before the loop starts. Distances are computed in `int8_t`, and the range of the table is
what keeps them from wrapping.

The table is a parameter. `AscendingTable` is its documented form, and the range in it, -40 to 8
dBm, is that of the entries the source names.

## The answer

`DtmTxPower.Reports` is what the header file promises of an answer, the level and two flags, each an
equivalence with a fact about the table. `Reported` is the condition on the **request** under which
it is kept. The answer also travels in the response word of the UART transport, and
`responsePower_txPowerBits` says that nothing is lost there, so the condition is the same on both
sides of the wire.
-/

namespace DirectTestMode

open Fallible

/-- The level of a table entry in dBm. -/
def dBm (p : UInt32) : ℤ := (int8OfUInt32 p).toInt

/-- The levels of the chip in dBm. -/
def Build.levels (b : Build) : Set ℤ := {l | ∃ p ∈ b.nrfPowerValue, dBm p = l}

/-- The documented form of `nrf_power_value`: at least two levels in ascending order, where a level
may stand more than once, and all of them from -40 to 8 dBm. -/
structure Build.AscendingTable (b : Build) : Prop where
  size : 2 ≤ b.nrfPowerValue.length
  ascending : b.nrfPowerValue.Pairwise (dBm · ≤ dBm ·)
  range : ∀ p ∈ b.nrfPowerValue, -40 ≤ dBm p ∧ dBm p ≤ 8

theorem Build.nrf5340_ascendingTable (directionFinding fem : Bool) :
    (Build.nrf5340 directionFinding fem).AscendingTable := by
  have hall : ((nrf5340 true true).nrfPowerValue.all fun p ↦
      decide (-40 ≤ dBm p) && decide (dBm p ≤ 8)) = true := by decide
  refine ⟨(by decide : 2 ≤ (nrf5340 true true).nrfPowerValue.length),
    (by decide : (nrf5340 true true).nrfPowerValue.Pairwise (dBm · ≤ dBm ·)), fun p hp ↦ ?_⟩
  simpa using List.all_eq_true.1 hall p hp

variable {b : Build}

namespace Build.AscendingTable

theorem ne_nil (ht : b.AscendingTable) : b.nrfPowerValue ≠ [] :=
  List.ne_nil_of_length_pos (Nat.zero_lt_of_lt ht.size)

/-- The first level is the lowest. -/
theorem isLeast (ht : b.AscendingTable) : IsLeast b.levels (dBm (dtmHwRadioMinPowerGet b)) := by
  have hascending := ht.ascending
  have hne := ht.ne_nil
  rw [dtmHwRadioMinPowerGet, levels]
  cases hpower : b.nrfPowerValue with
  | nil => exact absurd hpower hne
  | cons first rest =>
    rw [hpower, List.pairwise_cons] at hascending
    refine ⟨⟨first, List.mem_cons_self, rfl⟩, ?_⟩
    rintro l ⟨p, hp, rfl⟩
    rcases List.mem_cons.1 hp with rfl | hp
    · exact le_rfl
    · exact hascending.1 p hp

/-- The last level is the highest. -/
theorem isGreatest (ht : b.AscendingTable) :
    IsGreatest b.levels (dBm (dtmHwRadioMaxPowerGet b)) := by
  have hlast : dtmHwRadioMaxPowerGet b = b.nrfPowerValue.getLast ht.ne_nil := by
    rw [dtmHwRadioMaxPowerGet, List.getLastD_eq_getLast?,
      List.getLast?_eq_some_getLast ht.ne_nil, Option.getD_some]
  rw [hlast]
  refine ⟨⟨_, List.getLast_mem ht.ne_nil, rfl⟩, ?_⟩
  rintro l ⟨p, hp, rfl⟩
  exact ht.ascending.rel_getLast_of_rel_getLast_getLast hp le_rfl

end Build.AscendingTable

/-! ### The search for the nearest level -/

/-- The loop where the distance to the upper level fits an `int8_t`. -/
theorem nearestPowerScan_cons {v : Int8} {prev p : UInt32} {rest : List UInt32}
    (hdist : dBm p - v.toInt ≤ 127) :
    nearestPowerScan v prev (p :: rest) =
      if v.toInt < dBm p then
        some (if dBm p - v.toInt < |dBm prev - v.toInt| then int8OfUInt32 p else int8OfUInt32 prev)
      else nearestPowerScan v p rest := by
  have hdiff (hp : v.toInt < dBm p) : (Int8.ofNat (dBm p - v.toInt).natAbs).toInt =
      dBm p - v.toInt := by
    rw [Int8.toInt_ofNat_of_lt (by omega)]
    omega
  rw [nearestPowerScan]
  simp only [← dBm.eq_1, ← Int.abs_eq_natAbs]
  by_cases hp : v.toInt < dBm p
  · rw [if_pos hp, if_pos hp, hdiff hp, apply_ite some]
  · rw [if_neg hp, if_neg hp]

/-- **The search.** The invariant of the loop: every level is at most the one before the rest of the
table, or is in the rest. -/
theorem nearestPowerScan_nearest {v : Int8} {levels : Set ℤ} (hrange : ∀ l ∈ levels, l ≤ 8)
    (hv : -40 ≤ v.toInt) {prev : UInt32} {rest : List UInt32}
    (hascending : (prev :: rest).Pairwise (dBm · ≤ dBm ·))
    (hmem : ∀ p ∈ prev :: rest, dBm p ∈ levels)
    (hcover : ∀ l ∈ levels, l ≤ dBm prev ∨ ∃ p ∈ rest, dBm p = l) (hbelow : dBm prev ≤ v.toInt)
    (habove : ∃ p ∈ rest, v.toInt < dBm p) :
    ∃ level, nearestPowerScan v prev rest = some level ∧
      Nearest levels v.toInt level.toInt := by
  induction rest generalizing prev with
  | nil =>
    obtain ⟨p, hp, -⟩ := habove
    cases hp
  | cons p rest ih =>
    rw [List.pairwise_cons] at hascending
    have hle : dBm prev ≤ dBm p := hascending.1 p List.mem_cons_self
    have hlevel : dBm p ∈ levels := hmem p (List.mem_cons_of_mem prev List.mem_cons_self)
    have htop : dBm p ≤ 8 := hrange _ hlevel
    rw [nearestPowerScan_cons (by omega)]
    by_cases hp : v.toInt < dBm p
    · -- the first level above the value, and no level lies between it and the one before
      have hgap : ∀ l ∈ levels, l ≤ dBm prev ∨ dBm p ≤ l := by
        intro l hl
        rcases hcover l hl with h | ⟨q, hq, rfl⟩
        · exact .inl h
        · rcases List.mem_cons.1 hq with rfl | hq
          · exact .inr le_rfl
          · exact .inr ((List.pairwise_cons.1 hascending.2).1 q hq)
      have hnear := nearest_between (hmem prev List.mem_cons_self) hlevel hgap hbelow hp
      rw [if_pos hp]
      refine ⟨_, rfl, ?_⟩
      rw [apply_ite Int8.toInt]
      exact hnear
    · rw [if_neg hp]
      refine ih hascending.2 (fun q hq ↦ hmem q (List.mem_cons_of_mem prev hq)) ?_
        (Int.not_lt.1 hp) ?_
      · intro l hl
        rcases hcover l hl with h | ⟨q, hq, rfl⟩
        · exact .inl (h.trans hle)
        · rcases List.mem_cons.1 hq with rfl | hq
          · exact .inl le_rfl
          · exact .inr ⟨q, hq, rfl⟩
      · obtain ⟨q, hq, hqv⟩ := habove
        rcases List.mem_cons.1 hq with rfl | hq
        · exact absurd hqv hp
        · exact ⟨q, hq, hqv⟩

/-- Between the limits of the chip the search ends at the nearest level. -/
theorem nearestPowerOf_nearest (ht : b.AscendingTable) {v : Int8}
    (hmin : dBm (dtmHwRadioMinPowerGet b) < v.toInt)
    (hmax : v.toInt < dBm (dtmHwRadioMaxPowerGet b)) :
    ∃ level, nearestPowerOf b.nrfPowerValue v = .ok level ∧
      Nearest b.levels v.toInt level.toInt := by
  have htop : ∀ l ∈ b.levels, -40 ≤ l ∧ l ≤ 8 := by
    rintro l ⟨p, hp, rfl⟩
    exact ht.range p hp
  obtain ⟨last, hlast, hlastLevel⟩ := ht.isGreatest.1
  have hfirst := (htop _ ht.isLeast.1).1
  have hascending := ht.ascending
  revert hmin
  rw [dtmHwRadioMinPowerGet] at hfirst ⊢
  cases hpower : b.nrfPowerValue with
  | nil => exact absurd hpower ht.ne_nil
  | cons first rest =>
    intro hmin
    rw [hpower] at hlast hascending hfirst
    have hmem : ∀ p ∈ first :: rest, dBm p ∈ b.levels := fun p hp ↦ ⟨p, hpower ▸ hp, rfl⟩
    have hcover : ∀ l ∈ b.levels, l ≤ dBm first ∨ ∃ p ∈ rest, dBm p = l := by
      rintro l ⟨p, hp, rfl⟩
      rw [hpower] at hp
      rcases List.mem_cons.1 hp with rfl | hp
      · exact .inl le_rfl
      · exact .inr ⟨p, hp, rfl⟩
    -- the loop ends at a level above the request, and the last one is such
    have habove : ∃ p ∈ rest, v.toInt < dBm p := by
      rcases List.mem_cons.1 hlast with rfl | hlast
      · exact absurd (hlastLevel ▸ hmax) (Int.not_lt.2 hmin.le)
      · exact ⟨last, hlast, hlastLevel ▸ hmax⟩
    obtain ⟨level, hscan, hnear⟩ := nearestPowerScan_nearest (fun l hl ↦ (htop l hl).2)
      (hfirst.trans hmin.le) hascending hmem hcover hmin.le habove
    -- 127 is the loop's mark for nothing found, and no level of the chip
    have hne : level ≠ 127 := by
      rintro rfl
      exact absurd (htop _ hnear.mem).2 (by decide)
    refine ⟨level, ?_, hnear⟩
    rw [nearestPowerOf]
    simp only [hscan, Option.getD_some]
    exact if_pos hne

/-! ### What a request stores -/

/-- The level that a request asks for. -/
def DtmTxPowerRequest.AsksFor (b : Build) : DtmTxPowerRequest → Int8 → ℤ → Prop
  | min, _ => IsLeast b.levels
  | max, _ => IsGreatest b.levels
  | val, v => Nearest b.levels v.toInt

/-- **Every request stores the level it asks for.** -/
theorem txPowerRequested_level (ht : b.AscendingTable) (hauto : b.powerControlAutomatic = false)
    (power : DtmTxPowerRequest) (val : Int8) (frequency : UInt16) :
    ∃ level : Int8, txPowerRequested b power val frequency = .ok level.toUInt8 ∧
      power.AsksFor b val level.toInt := by
  unfold txPowerRequested dtmRadioMinPowerGet dtmRadioMaxPowerGet dtmRadioNearestPowerGet
  simp only [hauto, Bool.false_eq_true, if_false]
  cases power with
  | min => exact ⟨_, rfl, ht.isLeast⟩
  | max => exact ⟨_, rfl, ht.isGreatest⟩
  | val =>
    simp only
    split_ifs with hmin hmax
    · exact ⟨_, rfl, ht.isLeast.nearest hmin⟩
    · exact ⟨_, rfl, ht.isGreatest.nearest hmax⟩
    · obtain ⟨level, hlevel, hnear⟩ :=
        nearestPowerOf_nearest ht (Int.not_le.1 hmin) (Int.not_le.1 hmax)
      refine ⟨level, ?_, hnear⟩
      rw [hlevel]
      rfl

/-- On a legal channel the call stores the level and gives the answer of the switch for it. -/
theorem dtmSetupSetTransmitPower_level (ht : b.AscendingTable)
    (hauto : b.powerControlAutomatic = false) (power : DtmTxPowerRequest) (val : Int8)
    {channel : UInt8} (hchannel : channel.toNat ≤ physChMax) (s : Device) :
    ∃ level : Int8, dtmSetupSetTransmitPower b power val channel s =
        .ok (txPowerAnswer b power level.toUInt8 ((channel.toUInt16 <<< 1) + 2402),
          { s with txpower := level.toUInt8 }) ∧
      power.AsksFor b val level.toInt := by
  obtain ⟨level, hlevel, hasks⟩ :=
    txPowerRequested_level ht hauto power val ((channel.toUInt16 <<< 1) + 2402)
  refine ⟨level, ?_, hasks⟩
  rw [dtmSetupSetTransmitPower, radioFrequencyGet_ok hchannel, ok_bind, hlevel]
  rfl

/-- **The nearest supported power.** A request for a value stores the entry of the table nearest to
it, the lower one of two; on a legal channel no assertion fails, and that of the search on none. -/
theorem dtmSetupSetTransmitPower_nearest (b : Build) (hauto : b.powerControlAutomatic = false)
    (ht : b.AscendingTable) (v : Int8) (channel : UInt8) (s : Device) :
    dtmSetupSetTransmitPower b .val v channel s ≠ .error .nearestPower ∧
    (channel.toNat ≤ physChMax → ∃ x, dtmSetupSetTransmitPower b .val v channel s = .ok x) ∧
    ∀ x, dtmSetupSetTransmitPower b .val v channel s = .ok x →
      ∃ p ∈ b.nrfPowerValue, x.2.txpower = p.toUInt8 ∧ Nearest b.levels v.toInt (dBm p) := by
  by_cases hchannel : channel.toNat ≤ physChMax
  · obtain ⟨level, hrun, hnear⟩ := dtmSetupSetTransmitPower_level ht hauto .val v hchannel s
    rw [hrun]
    refine ⟨by simp, fun _ ↦ ⟨_, rfl⟩, ?_⟩
    intro x hx
    cases hx
    obtain ⟨p, hp, heq⟩ := hnear.mem
    have hentry : int8OfUInt32 p = level := Int8.toInt_inj.1 heq
    refine ⟨p, hp, ?_, ?_⟩
    · rw [← hentry]
      rfl
    · rw [heq]
      exact hnear
  · rw [dtmSetupSetTransmitPower, radioFrequencyGet_fault (Nat.not_le.1 hchannel), error_bind]
    refine ⟨by simp, fun h ↦ absurd h hchannel, ?_⟩
    intro x hx
    cases hx

/-- A request for -6 dBm on the nRF5340, whose levels are closer together around 0 dBm. -/
theorem dtmSetupSetTransmitPower_nearest_minus6 :
    dtmSetupSetTransmitPower (.nrf5340 true false) .val (-6) 0 .nrf5340 ≠ .error .nearestPower ∧
    ((0 : UInt8).toNat ≤ physChMax →
      ∃ x, dtmSetupSetTransmitPower (.nrf5340 true false) .val (-6) 0 .nrf5340 = .ok x) ∧
    ∀ x, dtmSetupSetTransmitPower (.nrf5340 true false) .val (-6) 0 .nrf5340 = .ok x →
      ∃ p ∈ (Build.nrf5340 true false).nrfPowerValue, x.2.txpower = p.toUInt8 ∧
        Nearest (Build.nrf5340 true false).levels (-6 : Int8).toInt (dBm p) :=
  dtmSetupSetTransmitPower_nearest (.nrf5340 true false) rfl
    (Build.nrf5340_ascendingTable true false) (-6) 0 .nrf5340

/-! ### What is reported of it -/

/-- The power that a response word stands for: a signed octet in the bits 1 to 8, and above it the
flags of the lowest and of the highest level. -/
def responsePower (w : UInt16) : DtmTxPower :=
  ⟨(w >>> 1).toUInt8.toInt8, w &&& 0x0200 != 0, w &&& 0x0400 != 0⟩

/-- The response keeps everything of the answer. -/
theorem responsePower_txPowerBits (answer : DtmTxPower) :
    responsePower (UartTwowire.txPowerBits answer) = answer := by
  have hall : ∀ (power : BitVec 8) (min max : Bool),
      responsePower (UartTwowire.txPowerBits ⟨⟨⟨power⟩⟩, min, max⟩) = ⟨⟨⟨power⟩⟩, min, max⟩ := by
    decide
  exact hall answer.power.toBitVec answer.min answer.max

/-- The command stores what the request stores, and its response is the answer in bits. -/
theorem UartTwowire.txPowerSet_run {parameter : Int8} {power : DtmTxPowerRequest} {val : Int8}
    (hrequest : txPowerRequest parameter = some (power, val)) {q : ℕ} {h : Host}
    {x : DtmTxPower × Device}
    (hx : dtmSetupSetTransmitPower b power val 0 h.device = .ok x) :
    (txPowerSet parameter).run (hostHandler b q) h =
      .ok ((.ok, txPowerBits x.1), { h with device := x.2 }) := by
  have hcall : (do
      let answer ← Transport.setupSetTransmitPower power val 0
      pure (Ret.ok, txPowerBits answer)).run (hostHandler b q) h =
      .ok ((.ok, txPowerBits x.1), { h with device := x.2 }) := by
    have hrun := Hci.perform_dtm_run (q := q) (c := .setupSetTransmitPower power val 0) hx
    rw [Prog.run_bind]
    exact congrArg (· >>= _) hrun
  rw [txPowerRequest] at hrequest
  rw [txPowerSet]
  split_ifs at hrequest ⊢
  all_goals
    cases hrequest
    exact hcall

/-- `answer` is right about the stored level: it gives the level and says whether it is the lowest
and whether it is the highest one. -/
structure DtmTxPower.Reports (b : Build) (answer : DtmTxPower) (txpower : UInt8) : Prop where
  power : answer.power = txpower.toInt8
  min : answer.min = true ↔ IsLeast b.levels txpower.toInt8.toInt
  max : answer.max = true ↔ IsGreatest b.levels txpower.toInt8.toInt

/-- The requests that are answered right. One for the lowest or the highest level is if that level
is not below 0 dBm and the chip has another one; one for a value is if the nearest level is 0 dBm
and is neither of the two. -/
def DtmTxPowerRequest.Reported (b : Build) : DtmTxPowerRequest → Int8 → Prop
  | min, _ => ∃ l, IsLeast b.levels l ∧ 0 ≤ l ∧ ¬ IsGreatest b.levels l
  | max, _ => ∃ l, IsGreatest b.levels l ∧ 0 ≤ l ∧ ¬ IsLeast b.levels l
  | val, v => Nearest b.levels v.toInt 0 ∧ ¬ IsLeast b.levels 0 ∧ ¬ IsGreatest b.levels 0

/-- A stored level that is compared with a limit: equal are only levels from 0 dBm up. -/
theorem toNat_toUInt8_eq_toInt {level limit : Int8} :
    (level.toUInt8.toNat : ℤ) = limit.toInt ↔ 0 ≤ level.toInt ∧ level.toInt = limit.toInt := by
  have hlevel : level.toInt = if 2 * level.toUInt8.toNat < 256 then (level.toUInt8.toNat : ℤ)
      else (level.toUInt8.toNat : ℤ) - 256 :=
    BitVec.toInt_eq_toNat_cond level.toBitVec
  have hlimit : limit.toInt < 2 ^ 7 := limit.toInt_lt
  have hoctet : level.toUInt8.toNat < 256 := level.toUInt8.toNat_lt
  split at hlevel
  · rw [hlevel]
    simp
  · constructor
    · intro h
      omega
    · rintro ⟨h, -⟩
      omega

/-- The answer to a request for a limit, with the level that it stored. -/
theorem txPowerAnswer_limit (ht : b.AscendingTable) (hauto : b.powerControlAutomatic = false)
    {power : DtmTxPowerRequest} (hpower : power ≠ .val) (level : Int8) (frequency : UInt16) :
    (txPowerAnswer b power level.toUInt8 frequency).power = level ∧
    ((txPowerAnswer b power level.toUInt8 frequency).min = true ↔
      0 ≤ level.toInt ∧ IsLeast b.levels level.toInt) ∧
    ((txPowerAnswer b power level.toUInt8 frequency).max = true ↔
      0 ≤ level.toInt ∧ IsGreatest b.levels level.toInt ∧ ¬ IsLeast b.levels level.toInt) := by
  have hmin : (level.toUInt8.toNat : ℤ) = (dtmRadioMinPowerGet b frequency).toInt ↔
      0 ≤ level.toInt ∧ IsLeast b.levels level.toInt := by
    rw [toNat_toUInt8_eq_toInt, dtmRadioMinPowerGet, if_neg (by simp [hauto])]
    refine and_congr_right fun _ ↦ ⟨fun h ↦ h ▸ ht.isLeast, fun h ↦ h.unique ht.isLeast⟩
  have hmax : (level.toUInt8.toNat : ℤ) = (dtmRadioMaxPowerGet b frequency).toInt ↔
      0 ≤ level.toInt ∧ IsGreatest b.levels level.toInt := by
    rw [toNat_toUInt8_eq_toInt, dtmRadioMaxPowerGet, if_neg (by simp [hauto])]
    refine and_congr_right fun _ ↦ ⟨fun h ↦ h ▸ ht.isGreatest, fun h ↦ h.unique ht.isGreatest⟩
  -- the flags compare the octet with the level, so a negative level never has one
  have hanswer : txPowerAnswer b power level.toUInt8 frequency =
      if (level.toUInt8.toNat : ℤ) = (dtmRadioMinPowerGet b frequency).toInt then
        ⟨level, true, false⟩
      else if (level.toUInt8.toNat : ℤ) = (dtmRadioMaxPowerGet b frequency).toInt then
        ⟨level, false, true⟩
      else ⟨level, false, false⟩ := by
    cases power with
    | val => exact absurd rfl hpower
    | min | max => rfl
  rw [hanswer]
  split_ifs with h h'
  · have hleast := hmin.1 h
    simp [hleast]
  · have hgreatest := hmax.1 h'
    have hnot := mt hmin.2 h
    simp_all
  · have hnot := mt hmin.2 h
    have hnot' := mt hmax.2 h'
    simp_all

/-- **Which answers are right.** -/
theorem txPowerAnswer_reports_iff (ht : b.AscendingTable) (hauto : b.powerControlAutomatic = false)
    {power : DtmTxPowerRequest} {val level : Int8} (hlevel : power.AsksFor b val level.toInt)
    (frequency : UInt16) :
    (txPowerAnswer b power level.toUInt8 frequency).Reports b level.toUInt8 ↔
      power.Reported b val := by
  have hlimit (hpower : power ≠ .val) := txPowerAnswer_limit ht hauto hpower level frequency
  cases power with
  | min =>
    obtain ⟨hpower, hmin, hmax⟩ := hlimit (by simp)
    constructor
    · intro h
      refine ⟨_, hlevel, (hmin.1 (h.min.2 hlevel)).1, fun hgreatest ↦ ?_⟩
      exact (hmax.1 (h.max.2 hgreatest)).2.2 hlevel
    · rintro ⟨l, hl, hl0, hgreatest⟩
      cases hl.unique hlevel
      refine ⟨hpower, hmin.trans ?_, hmax.trans ?_⟩
      · simp [hl0]
      · simp [hgreatest]
  | max =>
    obtain ⟨hpower, hmin, hmax⟩ := hlimit (by simp)
    constructor
    · intro h
      have hflag := hmax.1 (h.max.2 hlevel)
      exact ⟨_, hlevel, hflag.1, hflag.2.2⟩
    · rintro ⟨l, hl, hl0, hleast⟩
      cases hl.unique hlevel
      refine ⟨hpower, hmin.trans ?_, hmax.trans ?_⟩
      · simp [hleast]
      · simp [hl0, hleast]
  | val =>
    constructor
    · intro h
      -- the answer to a request for a value is always that of level 0
      have hzero : level = 0 := h.power.symm
      subst hzero
      exact ⟨hlevel, fun hleast ↦ Bool.false_ne_true (h.min.2 hleast),
        fun hgreatest ↦ Bool.false_ne_true (h.max.2 hgreatest)⟩
    · rintro ⟨hnear, hleast, hgreatest⟩
      have hzero : level.toInt = 0 := Nearest.unique hlevel hnear
      have hzero : level = 0 := Int8.toInt_inj.1 hzero
      subst hzero
      exact ⟨rfl, iff_of_false Bool.false_ne_true hleast, iff_of_false Bool.false_ne_true hgreatest⟩

/-- **When the power reported is the power set**: exactly for the requests of `Reported`, in the
answer of the call on every legal channel and in the response word of the command. -/
theorem dtmSetupSetTransmitPower_reports_iff (b : Build) (hauto : b.powerControlAutomatic = false)
    (ht : b.AscendingTable) (power : DtmTxPowerRequest) (val : Int8) (s : Device) :
    (∀ channel : UInt8, channel.toNat ≤ physChMax →
      ∃ x, dtmSetupSetTransmitPower b power val channel s = .ok x ∧
        (x.1.Reports b x.2.txpower ↔ power.Reported b val)) ∧
    ∀ (q : ℕ) (tx : TxQueue) (parameter : Int8),
      UartTwowire.txPowerRequest parameter = some (power, val) →
      ∃ w h, (UartTwowire.txPowerSet parameter).run (hostHandler b q) ⟨s, tx⟩ = .ok ((.ok, w), h) ∧
        ((responsePower w).Reports b h.device.txpower ↔ power.Reported b val) := by
  have hset (channel : UInt8) (hchannel : channel.toNat ≤ physChMax) :
      ∃ x, dtmSetupSetTransmitPower b power val channel s = .ok x ∧
        (x.1.Reports b x.2.txpower ↔ power.Reported b val) := by
    obtain ⟨level, hrun, hasks⟩ := dtmSetupSetTransmitPower_level ht hauto power val hchannel s
    exact ⟨_, hrun, txPowerAnswer_reports_iff ht hauto hasks _⟩
  refine ⟨hset, fun q tx parameter hrequest ↦ ?_⟩
  obtain ⟨x, hx, hreports⟩ := hset 0 (Nat.zero_le _)
  refine ⟨_, _, UartTwowire.txPowerSet_run hrequest hx, ?_⟩
  rw [responsePower_txPowerBits]
  exact hreports

/-- The highest level of the nRF5340 is above 0 dBm, and reported as it should be. -/
theorem dtmSetupSetTransmitPower_reports_iff_max :
    ∃ x, dtmSetupSetTransmitPower (.nrf5340 true false) .max 0 0 .nrf5340 = .ok x ∧
      x.1.Reports (.nrf5340 true false) x.2.txpower := by
  have ht := Build.nrf5340_ascendingTable true false
  obtain ⟨x, hx, hreports⟩ := (dtmSetupSetTransmitPower_reports_iff (.nrf5340 true false) rfl ht
    .max 0 .nrf5340).1 0 (by decide)
  refine ⟨x, hx, hreports.2 ⟨_, ht.isGreatest, by decide, fun hleast ↦ ?_⟩⟩
  exact absurd (hleast.unique ht.isLeast) (by decide)

/-- **The lowest level is not flagged as the lowest**, since it is below 0 dBm. -/
theorem minPower_unflagged :
    dtmSetupSetTransmitPower (.nrf5340 true false) .min 0 0 .nrf5340 =
        .ok (⟨-40, false, false⟩, { Device.nrf5340 with txpower := 0xD8 }) ∧
      ¬ DtmTxPower.Reports (.nrf5340 true false) ⟨-40, false, false⟩ 0xD8 :=
  ⟨rfl, fun h ↦ Bool.false_ne_true (h.min.2 (Build.nrf5340_ascendingTable true false).isLeast)⟩

end DirectTestMode
