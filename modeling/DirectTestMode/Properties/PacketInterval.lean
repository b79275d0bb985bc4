import DirectTestMode.Dtm.Test
import Mathlib

/-!
# The transmit interval

The interval that `dtm_packet_interval_calculate` computes against the one of the standard, the
least positive multiple of 625 us that is at least 249 us longer than the packet.

The function counts the time on air of a packet (`DtmPhy.counted`), and on three of the PHYs it does
not count what its comments lay out (`DtmPhy.timeOnAir`): a 1 Mbit packet has no overhead, since the
overhead is tested against the proprietary 1 Mbit mode, and with CTE on the number of the radio mode
stands in for the CTEInfo octet and the CTE is counted on the coded PHYs too. The interval is right
all the same as long as the missing or extra microseconds do not cross a multiple of 625:
`dtmPacketIntervalCalculate_isLeast_iff` says for which packets that is.

Whatever length was counted, the loop computes the ceiling of the function's comment on it
(`packetInterval_ceiling`), without a wrap and in the bits that the packet timer has.

## The condition is on the packet

An interval is a number of units of 625 us, and two packets have the same interval exactly if they
need the same number (`isLeast_intervals_iff`). `SameUnit t d` is the arithmetic of one packet that
is `d` us longer than another: the sum with the gap does not cross a multiple. `IntervalRight` is
then a table with one line for each PHY, in terms of the payload length and the CTE time, and no
function of the source occurs in it.

## The loop

The loop is modelled with fuel, and its passes once more as a list, the values of `i` and `timeout`
that a debugger would show. `packetIntervalPasses_toNat` runs it: in every pass both are what they
would be in the natural numbers, so that no multiplication and no addition wraps. The bound on the
length is what that needs, 249 and one unit below the end of the type, and every packet of the API
is far below it (`packetIntervalUnits_le`).
-/

namespace DirectTestMode

open Fallible

/-- The intervals that the standard allows for a packet of `t` us. -/
def Intervals (t : ℕ) : Set ℕ := {i | 0 < i ∧ 625 ∣ i ∧ t + 249 ≤ i}

/-- The time on air in microseconds of a packet with `n` octets of payload. -/
def DtmPhy.timeOnAir (n : ℕ) (cte : DtmCteInfo) : DtmPhy → ℕ
  | phy1m => 80 + 8 * n + if cte.mode ≠ .off then 8 + 8 * cte.time.toNat else 0
  | phy2m => (88 + 8 * n) / 2 + if cte.mode ≠ .off then 4 + 8 * cte.time.toNat else 0
  | codedS8 => 720 + 64 * n
  | codedS2 => 462 + 16 * n

/-- What the function counts with CTE off. -/
def DtmPhy.countedOff (n : ℕ) : DtmPhy → ℕ
  | phy1m => 8 * n
  | phy2m => (88 + 8 * n) / 2
  | codedS8 => 720 + 64 * n
  | codedS2 => 462 + 16 * n

/-- What the function counts. -/
def DtmPhy.counted (n : ℕ) (cte : DtmCteInfo) (phy : DtmPhy) : ℕ :=
  phy.countedOff n + if cte.mode ≠ .off then phy.radioMode.code.toNat + 8 * cte.time.toNat else 0

/-- The packet before the CTE is added. -/
def packetBits (b : Build) (n : UInt32) (mode : RadioMode) : UInt32 :=
  let bits := payloadBits b n mode + overheadBits b mode
  if mode = .ble2Mbit then bits / 2 else bits

/-- The sum before the CTE, with no wrap on the way. -/
theorem toNat_packetBits {b : Build} {phy : DtmPhy} (hphy : phy.supported b = true) {n : UInt32}
    (hn : n.toNat ≤ 255) : (packetBits b n phy.radioMode).toNat = phy.countedOff n.toNat := by
  cases phy with
  | phy1m | phy2m =>
    simp [packetBits, payloadBits, overheadBits, DtmPhy.radioMode, DtmPhy.countedOff]
    omega
  | codedS8 | codedS2 =>
    have hcoded : b.hasBleCoded = true := hphy
    simp [packetBits, payloadBits, overheadBits, DtmPhy.radioMode, DtmPhy.countedOff, hcoded]
    omega

/-- **What the function counts**, PHY by PHY. -/
theorem toNat_testPacketLength {b : Build} {phy : DtmPhy} (hphy : phy.supported b = true)
    {n : UInt32} (hn : n.toNat ≤ 255) (cte : DtmCteInfo) :
    (testPacketLength b n phy.radioMode cte).toNat = phy.counted n.toNat cte := by
  have hbits := toNat_packetBits hphy hn
  have hoff : phy.countedOff n.toNat ≤ 17040 := by
    cases phy <;> simp only [DtmPhy.countedOff] <;> omega
  have hcode : phy.radioMode.code.toNat ≤ 6 := by
    cases phy <;> decide
  have htime : cte.time.toNat < 256 := cte.time.toNat_lt
  change (if cte.mode ≠ .off then packetBits b n phy.radioMode + phy.radioMode.code +
    cte.time.toUInt32 * 8 else packetBits b n phy.radioMode).toNat = _
  rw [DtmPhy.counted]
  split
  · simp only [UInt32.toNat_add, UInt32.toNat_mul, UInt8.toNat_toUInt32, UInt32.reduceToNat]
    omega
  · rw [hbits, Nat.add_zero]

/-- The standard's interval is the number of units that the loop counts to. -/
theorem isLeast_intervals (t : ℕ) : IsLeast (Intervals t) (packetIntervalUnits t * 625) := by
  unfold packetIntervalUnits
  refine ⟨⟨by omega, Nat.dvd_mul_left _ _, by omega⟩, ?_⟩
  rintro i ⟨hpos, ⟨k, rfl⟩, hlen⟩
  omega

/-- Two packets have the same interval if they need the same number of units. -/
theorem isLeast_intervals_iff (t u : ℕ) :
    IsLeast (Intervals t) (packetIntervalUnits u * 625) ↔
      packetIntervalUnits u = packetIntervalUnits t := by
  constructor
  · intro h
    have heq := h.unique (isLeast_intervals t)
    omega
  · intro h
    rw [h]
    exact isLeast_intervals t

/-- The packets whose interval is right: `d` microseconds that are not counted, or counted too
much, do not take the sum across a multiple of 625. -/
def SameUnit (t d : ℕ) : Prop := (t + 248) % 625 + d < 625

/-- A packet that is longer by `d` needs the same number of units as long as no multiple is
crossed. -/
theorem packetIntervalUnits_add (t d : ℕ) :
    packetIntervalUnits (t + d) = packetIntervalUnits t ↔ SameUnit t d := by
  unfold packetIntervalUnits SameUnit
  omega

/-- Where the count and the time on air need the same number of units. A 1 Mbit packet lacks its 80
bits, and with CTE on 5 of the 8 bits of the CTEInfo octet; a coded packet has the number of the
mode and the CTE on top. -/
def DtmPhy.IntervalRight (n : ℕ) (cte : DtmCteInfo) : DtmPhy → Prop
  | phy1m =>
    if cte.mode ≠ .off then SameUnit (8 * n + 3 + 8 * cte.time.toNat) 85 else SameUnit (8 * n) 80
  | phy2m => True
  | codedS8 => cte.mode ≠ .off → SameUnit (720 + 64 * n) (5 + 8 * cte.time.toNat)
  | codedS2 => cte.mode ≠ .off → SameUnit (462 + 16 * n) (6 + 8 * cte.time.toNat)

/-- **Where the count is as good as the time on air**: one line of the table for each PHY. -/
theorem packetIntervalUnits_counted (n : ℕ) (cte : DtmCteInfo) (phy : DtmPhy) :
    packetIntervalUnits (phy.counted n cte) = packetIntervalUnits (phy.timeOnAir n cte) ↔
      phy.IntervalRight n cte := by
  by_cases hcte : cte.mode ≠ .off
  · cases phy with
    | phy1m =>
      have h := packetIntervalUnits_add (8 * n + 3 + 8 * cte.time.toNat) 85
      have hcounted : DtmPhy.counted n cte .phy1m = 8 * n + 3 + 8 * cte.time.toNat := by
        simp [DtmPhy.counted, hcte, DtmPhy.countedOff, DtmPhy.radioMode, RadioMode.code]
        omega
      have htime : DtmPhy.timeOnAir n cte .phy1m = 8 * n + 3 + 8 * cte.time.toNat + 85 := by
        simp [DtmPhy.timeOnAir, hcte]
        omega
      rw [hcounted, htime, eq_comm, h, DtmPhy.IntervalRight, if_pos hcte]
    | phy2m =>
      have hcounted : DtmPhy.counted n cte .phy2m = DtmPhy.timeOnAir n cte .phy2m := by
        simp [DtmPhy.counted, DtmPhy.timeOnAir, DtmPhy.countedOff, DtmPhy.radioMode,
          RadioMode.code]
      exact iff_of_true (congrArg _ hcounted) trivial
    | codedS8 =>
      have h := packetIntervalUnits_add (720 + 64 * n) (5 + 8 * cte.time.toNat)
      simpa [DtmPhy.counted, DtmPhy.timeOnAir, DtmPhy.IntervalRight, hcte, DtmPhy.countedOff,
        DtmPhy.radioMode, RadioMode.code] using h
    | codedS2 =>
      have h := packetIntervalUnits_add (462 + 16 * n) (6 + 8 * cte.time.toNat)
      simpa [DtmPhy.counted, DtmPhy.timeOnAir, DtmPhy.IntervalRight, hcte, DtmPhy.countedOff,
        DtmPhy.radioMode, RadioMode.code] using h
  · cases phy with
    | phy1m =>
      have h := packetIntervalUnits_add (8 * n) 80
      rw [eq_comm] at h
      simpa [DtmPhy.counted, DtmPhy.timeOnAir, DtmPhy.IntervalRight, hcte, DtmPhy.countedOff,
        Nat.add_comm] using h
    | phy2m | codedS8 | codedS2 =>
      simp [DtmPhy.counted, DtmPhy.timeOnAir, DtmPhy.IntervalRight, hcte, DtmPhy.countedOff]

/-- **The transmit interval.** On every PHY of the build, for every payload length and CTE, the
interval is the standard's exactly for the packets of `IntervalRight`. -/
theorem dtmPacketIntervalCalculate_isLeast_iff (b : Build) (phy : DtmPhy)
    (hphy : phy.supported b = true) (n : UInt32) (hn : n.toNat ≤ 255) (cte : DtmCteInfo) :
    (∃ i, dtmPacketIntervalCalculate b n phy.radioMode cte = .ok i ∧
        IsLeast (Intervals (phy.timeOnAir n.toNat cte)) i.toNat) ↔
      phy.IntervalRight n.toNat cte := by
  have hlen := testPacketLength_le b hn phy.radioMode cte
  have hvalue : (UInt32.ofNat (packetIntervalUnits
      (testPacketLength b n phy.radioMode cte).toNat * 625)).toNat =
      packetIntervalUnits (phy.counted n.toNat cte) * 625 := by
    rw [← toNat_testPacketLength hphy hn cte, UInt32.toNat_ofNat_of_lt']
    unfold packetIntervalUnits
    simp only [UInt32.size]
    omega
  rw [dtmPacketIntervalCalculate_ok b hn, ← packetIntervalUnits_counted,
    ← isLeast_intervals_iff, ← hvalue]
  constructor
  · rintro ⟨i, hi, hleast⟩
    cases hi
    exact hleast
  · exact fun h ↦ ⟨_, rfl, h⟩

/-- The longest CTE. -/
def longCte : DtmCteInfo := { DtmCteInfo.zero with mode := .aoa, time := 20 }

theorem dtmPacketIntervalCalculate_isLeast_iff_longCte :
    (∃ i, dtmPacketIntervalCalculate (.nrf5340 true false) 255 DtmPhy.codedS8.radioMode longCte =
        .ok i ∧
        IsLeast (Intervals (DtmPhy.timeOnAir (255 : UInt32).toNat longCte .codedS8)) i.toNat) ↔
      DtmPhy.IntervalRight (255 : UInt32).toNat longCte .codedS8 :=
  dtmPacketIntervalCalculate_isLeast_iff (.nrf5340 true false) .codedS8 rfl 255 (by simp) longCte

/-- A packet of 38 octets at 1 Mbit takes 384 us, which is 633 with the gap, but is sent every
625 us. -/
theorem packetInterval_38 :
    ¬ ∃ i, dtmPacketIntervalCalculate (.nrf5340 true false) 38 DtmPhy.phy1m.radioMode
        DtmCteInfo.zero = .ok i ∧
      IsLeast (Intervals (DtmPhy.timeOnAir 38 DtmCteInfo.zero .phy1m)) i.toNat := by
  rintro ⟨i, hi, hleast⟩
  rw [dtmPacketIntervalCalculate_ok _ (by decide)] at hi
  rw [← Except.ok.inj hi] at hleast
  exact absurd hleast.1.2.2 (by decide)

/-! ### The loop and the ceiling -/

/-- The values of `i` and `timeout`, pass by pass. -/
def packetIntervalPasses (testPacketLength : UInt32) : ℕ → UInt32 → List (UInt32 × UInt32)
  | 0, _ => []
  | fuel + 1, i =>
    let i := i + 1
    let timeout := i * 625
    (i, timeout) :: if timeout < testPacketLength + 249 then
      packetIntervalPasses testPacketLength fuel i else []

/-- The loop returns the `timeout` of its last pass. -/
theorem packetIntervalLoop_getLast {l i r : UInt32} {fuel : ℕ}
    (h : packetIntervalLoop l fuel i = some r) :
    (packetIntervalPasses l fuel i).getLast?.map Prod.snd = some r := by
  induction fuel generalizing i with
  | zero => cases h
  | succ fuel ih =>
    rw [packetIntervalLoop] at h
    rw [packetIntervalPasses]
    split at h
    · rename_i hlt
      have hlast := ih h
      rw [if_pos hlt, List.getLast?_cons]
      rcases hpasses : (packetIntervalPasses l fuel (i + 1)).getLast? with - | p
      · rw [hpasses] at hlast
        cases hlast
      · rw [hpasses] at hlast
        exact hlast
    · rename_i hlt
      rw [if_neg hlt]
      exact h

/-- **No pass wraps.** The induction is on the fuel that is left; `i` passes are done. -/
theorem packetIntervalPasses_toNat {l : UInt32} (hl : l.toNat + 249 + 625 < 2 ^ 32) {fuel : ℕ}
    {i : UInt32} (hi : i.toNat < packetIntervalUnits l.toNat)
    (hfuel : packetIntervalUnits l.toNat ≤ i.toNat + fuel) :
    (packetIntervalPasses l fuel i).map (fun p ↦ (p.1.toNat, p.2.toNat)) =
      (List.range' (i.toNat + 1) (packetIntervalUnits l.toNat - i.toNat)).map
        fun k ↦ (k, k * 625) := by
  induction fuel generalizing i with
  | zero => omega
  | succ fuel ih =>
    obtain ⟨left, hleft⟩ : ∃ left, packetIntervalUnits l.toNat - i.toNat = left + 1 :=
      ⟨packetIntervalUnits l.toNat - i.toNat - 1, by omega⟩
    obtain ⟨hsucc, htime, hlen⟩ := packetIntervalPass_toNat hl hi
    rw [packetIntervalPasses, hleft, List.range'_succ]
    simp only [List.map_cons, hsucc, htime, UInt32.lt_iff_toNat_lt, hlen]
    refine congrArg _ ?_
    split
    · rw [ih (by unfold packetIntervalUnits at *; omega) (by omega), hsucc]
      exact congrArg (fun m ↦ (List.range' (i.toNat + 1 + 1) m).map _) (by omega)
    · have hdone : left = 0 := by
        unfold packetIntervalUnits at *
        omega
      rw [hdone]
      rfl

/-- The number of units is the ceiling of the comment. -/
theorem packetIntervalUnits_eq_ceilDiv (t : ℕ) :
    packetIntervalUnits t = max 1 ((t + 249) ⌈/⌉ 625) := by
  rw [packetIntervalUnits, Nat.ceilDiv_eq_add_pred_div]
  rfl

/-- The calculated interval is what the packet timer counts to. -/
theorem dtmTestTransmit_timer {b : Build} {channel length : UInt8} {pkt : DtmPacket}
    {s s' : Device} (h : dtmTestTransmit b channel length pkt s = .ok (.ok, s'))
    (hstate : s'.state = .transmitterTest) :
    dtmPacketIntervalCalculate b s'.packetLen s'.radioMode s'.cteInfo = .ok s'.timer.cc0 ∧
      s'.packetLen = length.toUInt32 := by
  have hresult := dtmTestTransmit_result b channel length pkt s
  generalize hx : (Ret.ok, s') = x at h
  generalize dtmTestTransmit b channel length pkt s = r at h hresult
  cases hresult with
  | busy hs =>
    cases h
    cases hx
  | channel hs hv hc =>
    cases h
    cases hx
  | vendor hs hv =>
    cases hl : carrierLength length with
    | false =>
      obtain ⟨ret, txpower, fem, -, heq⟩ := dtmVendorSpecificPkt_setting b channel.toUInt32
        (transmitState channel length pkt s) hl
      cases hx.trans (Except.ok.inj (h.symm.trans heq))
      -- a setting starts no transmission
      cases hs.symm.trans hstate
    | true =>
      rw [dtmVendorSpecificPkt_carrier b _ _ hl] at h
      have hcarrier := carrierTest_ok h
      split at hcarrier
      · cases hx.trans hcarrier
      · have hcarrier := congrArg (fun y ↦ y.2.state) (hx.trans hcarrier)
        cases hstate.symm.trans hcarrier
  | modulated hs hv hc pdu hpdu =>
    obtain ⟨t, ht, h⟩ := bind_eq_ok.1 h
    -- the interval is calculated before the gain is looked at, and programmed after it
    obtain ⟨interval, hinterval, h⟩ := bind_eq_ok.1 h
    rw [radioPrepare_tx ht] at hinterval
    simp only [pure_eq_ok] at h
    split at h
    · cases hx.trans (Except.ok.inj h).symm
    · cases hx.trans (Except.ok.inj h).symm
      rw [radioPrepare_tx ht]
      exact ⟨hinterval, rfl⟩

/-- The longest packet is counted as 19086 us, and sent every 19375 us. -/
theorem packetIntervalUnits_le {l : ℕ} (hl : l ≤ 19086) : packetIntervalUnits l * 625 ≤ 19375 := by
  unfold packetIntervalUnits
  omega

/-- **The loop is the ceiling.** For every packet length below the wrap, the passes count up to the
ceiling without one, and the last one gives the interval; every packet of the API is that short, and
its interval fits the 16 bits of the timer that it is programmed into. -/
theorem packetInterval_ceiling (l : UInt32) (hl : l.toNat + 249 + 625 ≤ 2 ^ 32 - 1) (b : Build)
    (n : UInt32) (hn : n.toNat ≤ 255) (mode : RadioMode) (cte : DtmCteInfo) :
    ((∃ i, packetIntervalLoop l (2 ^ 32) 0 = some i ∧
          i.toNat = max 1 ((l.toNat + 249) ⌈/⌉ 625) * 625 ∧
          (packetIntervalPasses l (2 ^ 32) 0).getLast?.map Prod.snd = some i) ∧
        (l + 249).toNat = l.toNat + 249 ∧
        (packetIntervalPasses l (2 ^ 32) 0).map (fun p ↦ (p.1.toNat, p.2.toNat)) =
          (List.range' 1 (max 1 ((l.toNat + 249) ⌈/⌉ 625))).map fun k ↦ (k, k * 625)) ∧
      ((testPacketLength b n mode cte).toNat + 249 + 625 ≤ 2 ^ 32 - 1 ∧
        ∃ i, dtmPacketIntervalCalculate b n mode cte = .ok i ∧ i.toNat < 2 ^ 16) ∧
      ∀ channel length pkt s s', dtmTestTransmit b channel length pkt s = .ok (.ok, s') →
        s'.state = .transmitterTest → s'.timer.cc0.toNat < 2 ^ 16 := by
  have hfits (n : UInt32) (hn : n.toNat ≤ 255) (mode : RadioMode) (cte : DtmCteInfo) :
      ∃ i, dtmPacketIntervalCalculate b n mode cte = .ok i ∧ i.toNat < 2 ^ 16 := by
    refine ⟨_, dtmPacketIntervalCalculate_ok b hn mode cte, ?_⟩
    have hle := packetIntervalUnits_le (testPacketLength_le b hn mode cte)
    rw [UInt32.toNat_ofNat_of_lt' (hle.trans_lt (by decide))]
    omega
  have hl : l.toNat + 249 + 625 < 2 ^ 32 := by omega
  have hfirst : (0 : UInt32).toNat < packetIntervalUnits l.toNat := Nat.le_max_left _ _
  have hfuel : packetIntervalUnits l.toNat ≤ (0 : UInt32).toNat + 2 ^ 32 := by
    rw [packetIntervalUnits, UInt32.toNat_zero]
    omega
  -- with 2 ^ 32 passes of fuel the loop ends before they are used up
  have hloop := packetIntervalLoop_eq hl hfirst hfuel
  have hpasses := packetIntervalPasses_toNat hl hfirst hfuel
  rw [← packetIntervalUnits_eq_ceilDiv]
  refine ⟨⟨⟨_, hloop, ?_, packetIntervalLoop_getLast hloop⟩, ?_, hpasses⟩,
    ⟨?_, hfits n hn mode cte⟩,
    fun channel length pkt s s' h hstate ↦ ?_⟩
  · refine UInt32.toNat_ofNat_of_lt' ?_
    unfold packetIntervalUnits
    simp only [UInt32.size]
    omega
  · exact (packetIntervalPass_toNat hl hfirst).2.2
  · have hle := testPacketLength_le b hn mode cte
    omega
  · obtain ⟨hinterval, hlen⟩ := dtmTestTransmit_timer h hstate
    obtain ⟨i, hi, hlt⟩ := hfits s'.packetLen (by rw [hlen]; exact toNat_toUInt32_le length)
      s'.radioMode s'.cteInfo
    cases hi.symm.trans hinterval
    exact hlt

/-- 1500 us, and the longest coded packet with CTE. -/
theorem packetInterval_ceiling_longCte :
    ∃ i, packetIntervalLoop 1500 (2 ^ 32) 0 = some i ∧ i.toNat = 1875 := by
  obtain ⟨⟨⟨i, hloop, hi, -⟩, -, -⟩, -, -⟩ := packetInterval_ceiling 1500 (by decide)
    (.nrf5340 true false) 255 (by decide) .bleLr125Kbit longCte
  exact ⟨i, hloop, hi⟩

end DirectTestMode
