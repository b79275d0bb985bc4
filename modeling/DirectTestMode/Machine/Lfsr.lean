import Mathlib.Algebra.Order.Ring.Nat
import Mathlib.Data.List.GetD
import Mathlib.Data.Nat.Init
import Mathlib.Logic.Function.Iterate
import Mathlib.Order.Basic

/-!
# Shift registers with linear feedback

A register of `width` bits moves down by one bit and takes the sum of two of its bits in at the top.
Its lowest bit is the output.

* `Lfsr.out_recurrence` is the recurrence that the outputs obey, which is the usual definition of
  such a sequence by its polynomial.
* `testBit_register` says that the register is a window of `width` outputs, so that octets can be
  taken from it as they are, eight steps apart: `bits_octets`.
* `obeys_iff` is rigidity: only the outputs of a register obey its recurrence. So a receiver that
  compares with a table and one that checks the recurrence accept the same octets.

The register is a natural number below `2 ^ width` and its steps are shifts, as a program has them.
What is proved of it is about bits, one by one, since the sum of two bits is no operation on
numbers.
-/

/-- A register: its length, and the bit that is added to the lowest one. The other bit of the sum
is the output itself. -/
structure Lfsr where
  /-- The number of its bits. -/
  width : ℕ
  /-- The bit that is added to the lowest one. -/
  tap : ℕ
  tap_lt : tap < width

namespace Lfsr

variable (g : Lfsr)

/-- The sum of the two bits. -/
def feedback (r : ℕ) : Bool := (r.testBit 0).xor (r.testBit g.tap)

/-- One step. -/
def next (r : ℕ) : ℕ := (r >>> 1) ||| ((g.feedback r).toNat <<< (g.width - 1))

/-- The register after `k` steps. -/
def register (seed k : ℕ) : ℕ := g.next^[k] seed

/-- The outputs. -/
def out (seed k : ℕ) : Bool := (g.register seed k).testBit 0

variable {g} {r seed : ℕ}

/-- A register has a bit. -/
theorem width_pos : 0 < g.width := Nat.lt_of_le_of_lt (Nat.zero_le _) g.tap_lt

/-- The bits move down by one place. -/
theorem testBit_next (r : ℕ) {j : ℕ} (hj : j + 1 < g.width) :
    (g.next r).testBit j = r.testBit (j + 1) := by
  have hlow : ¬g.width - 1 ≤ j := by omega
  rw [next, Nat.testBit_or, Nat.testBit_shiftRight, Nat.testBit_shiftLeft, Nat.add_comm 1 j]
  simp [hlow]

/-- A truth value as a number of one bit. -/
theorem testBit_toNat_zero (b : Bool) : b.toNat.testBit 0 = b := by
  cases b <;> rfl

/-- The sum comes in at the top, if there is nothing above it. -/
theorem testBit_next_top (hr : r < 2 ^ g.width) :
    (g.next r).testBit (g.width - 1) = g.feedback r := by
  have hpos := g.width_pos
  have htop : 1 + (g.width - 1) = g.width := by omega
  rw [next, Nat.testBit_or, Nat.testBit_shiftRight, Nat.testBit_shiftLeft, htop,
    Nat.testBit_lt_two_pow hr, Bool.false_or, Nat.sub_self, testBit_toNat_zero]
  simp

/-- The register keeps its width. -/
theorem next_lt (hr : r < 2 ^ g.width) : g.next r < 2 ^ g.width := by
  have hpos := g.width_pos
  refine Nat.or_lt_two_pow ?_ ?_
  · exact Nat.lt_of_le_of_lt (Nat.shiftRight_le r 1) hr
  · have hbit : (g.feedback r).toNat ≤ 1 := Bool.toNat_le _
    rw [Nat.shiftLeft_eq]
    calc (g.feedback r).toNat * 2 ^ (g.width - 1)
        ≤ 1 * 2 ^ (g.width - 1) := Nat.mul_le_mul_right _ hbit
      _ = 2 ^ (g.width - 1) := Nat.one_mul _
      _ < 2 ^ g.width := Nat.pow_lt_pow_right (by decide) (by omega)

theorem register_succ (seed k : ℕ) : g.register seed (k + 1) = g.next (g.register seed k) :=
  Function.iterate_succ_apply' g.next k seed

/-- The register keeps its width in every step. -/
theorem register_lt (hseed : seed < 2 ^ g.width) (k : ℕ) : g.register seed k < 2 ^ g.width := by
  induction k with
  | zero => exact hseed
  | succ k ih =>
    rw [register_succ]
    exact next_lt ih

/-- **The register is a window of the outputs**, since a bit of it is the output of as many steps
later. -/
theorem testBit_register (seed k : ℕ) {j : ℕ} (hj : j < g.width) :
    (g.register seed k).testBit j = g.out seed (k + j) := by
  induction j generalizing k with
  | zero => rfl
  | succ j ih =>
    rw [← testBit_next _ hj, ← register_succ, ih (k + 1) (by omega), Nat.add_right_comm]
    rfl

/-- **The recurrence.** The bit that comes in at the top is the output of `width` steps later. -/
theorem out_recurrence (hseed : seed < 2 ^ g.width) (k : ℕ) :
    g.out seed (k + g.width) = (g.out seed k).xor (g.out seed (k + g.tap)) := by
  have hpos := g.width_pos
  have htop := testBit_next_top (register_lt hseed k)
  rw [← register_succ, testBit_register _ _ (by omega)] at htop
  rw [show k + g.width = k + 1 + (g.width - 1) by omega, htop, feedback,
    testBit_register _ _ g.tap_lt]
  rfl

/-- What obeys the recurrence, among the first `n` bits of a sequence. -/
structure Obeys (g : Lfsr) (seed n : ℕ) (x : ℕ → Bool) : Prop where
  start : ∀ k, k < g.width → k < n → x k = seed.testBit k
  recurrence : ∀ k, k + g.width < n → x (k + g.width) = (x k).xor (x (k + g.tap))

/-- **Rigidity.** The outputs are what obeys the recurrence. The induction is strong, because a
bit depends on the two that are `width` and `width - tap` places before it. -/
theorem obeys_iff (hseed : seed < 2 ^ g.width) {n : ℕ} {x : ℕ → Bool} :
    g.Obeys seed n x ↔ ∀ k < n, x k = g.out seed k := by
  have hwindow (k : ℕ) (hk : k < g.width) : seed.testBit k = g.out seed k := by
    rw [← Nat.zero_add k, ← testBit_register seed 0 (by omega), Nat.zero_add]
    rfl
  have htap := g.tap_lt
  constructor
  · intro h k
    induction k using Nat.strong_induction_on with
    | h k ih =>
      intro hn
      rcases Nat.lt_or_ge k g.width with hk | hk
      · rw [h.start k hk hn, hwindow k hk]
      · obtain ⟨m, rfl⟩ := Nat.exists_eq_add_of_le' hk
        rw [h.recurrence m hn, out_recurrence hseed, ih m (by omega) (by omega),
          ih (m + g.tap) (by omega) (by omega)]
  · intro h
    refine ⟨fun k hk hn ↦ ?_, fun k hn ↦ ?_⟩
    · rw [h k hn, hwindow k hk]
    · rw [h _ hn, h k (by omega), h (k + g.tap) (by omega), out_recurrence hseed]

/-- The register with all bits set. -/
def ones (g : Lfsr) : ℕ := 2 ^ g.width - 1

/-- It has the width of the register. -/
theorem ones_lt : g.ones < 2 ^ g.width := Nat.sub_lt (Nat.two_pow_pos _) Nat.one_pos

/-! ### Octets -/

/-- The bits of some octets, of each the least significant one first. -/
def bits (octets : List UInt8) : List Bool :=
  octets.flatMap fun octet ↦ (List.range 8).map octet.toNat.testBit

/-- Eight bits for an octet. -/
@[simp] theorem length_bits (octets : List UInt8) : (bits octets).length = 8 * octets.length := by
  induction octets with
  | nil => rfl
  | cons octet octets ih =>
    rw [bits, List.flatMap_cons, List.length_append, ← bits, ih, List.length_map,
      List.length_range, List.length_cons, Nat.mul_succ, Nat.add_comm]

/-- The bits, one by one. -/
theorem bits_eq_iff {octets : List UInt8} {n : ℕ} (h : octets.length = n) {x : ℕ → Bool} :
    bits octets = (List.range (8 * n)).map x ↔ ∀ k < 8 * n, (bits octets).getD k false = x k := by
  constructor
  · intro hbits k hk
    rw [hbits, List.getD_eq_getElem _ _ (by simpa using hk)]
    simp
  · intro hbits
    refine List.ext_getElem (by simp [h]) fun k hk hk' ↦ ?_
    rw [length_bits, h] at hk
    rw [← List.getD_eq_getElem _ false, hbits k hk]
    simp

/-- The outputs as `n` octets, eight steps for each. -/
def octets (g : Lfsr) : ℕ → ℕ → List UInt8
  | _, 0 => []
  | seed, n + 1 => UInt8.ofNat seed :: g.octets (g.register seed 8) n

@[simp] theorem length_octets (seed n : ℕ) : (g.octets seed n).length = n := by
  induction n generalizing seed with
  | zero => rfl
  | succ n ih => rw [octets, List.length_cons, ih]

/-- A shorter packet is the beginning of a longer one. -/
theorem take_octets (seed : ℕ) {m n : ℕ} (h : m ≤ n) :
    (g.octets seed n).take m = g.octets seed m := by
  induction m generalizing seed n with
  | zero => rfl
  | succ m ih =>
    obtain ⟨k, rfl⟩ := Nat.exists_eq_succ_of_ne_zero (show n ≠ 0 by omega)
    rw [octets, octets, List.take_succ_cons, ih _ (by omega)]

/-- **The octets are the outputs.** A register of at least eight bits shows its next eight
outputs, and an octet is these. -/
theorem bits_octets (hwidth : 8 ≤ g.width) (seed n : ℕ) :
    bits (g.octets seed n) = (List.range (8 * n)).map (g.out seed) := by
  induction n generalizing seed with
  | zero => rfl
  | succ n ih =>
    have hoctet : (List.range 8).map (UInt8.ofNat seed).toNat.testBit =
        (List.range 8).map (g.out seed) := by
      refine List.map_congr_left fun j hj ↦ ?_
      have hj := List.mem_range.1 hj
      have hwindow := testBit_register (g := g) seed 0 (show j < g.width by omega)
      rw [Nat.zero_add] at hwindow
      rw [← hwindow, UInt8.toNat_ofNat', Nat.testBit_mod_two_pow]
      simp [hj, register]
    have hlater (k : ℕ) : g.out (g.register seed 8) k = g.out seed (8 + k) := by
      rw [out, out, register, register, register, Nat.add_comm, Function.iterate_add_apply]
    have hsplit : (List.range (8 * (n + 1))).map (g.out seed) =
        (List.range 8).map (g.out seed) ++
          (List.range (8 * n)).map (g.out (g.register seed 8)) := by
      rw [Nat.mul_succ, Nat.add_comm, List.range_add, List.map_append, List.map_map]
      exact congrArg _ (List.map_congr_left fun k _ ↦ (hlater k).symm)
    rw [hsplit, ← ih, ← hoctet]
    rfl

/-- An octet is its eight bits. -/
theorem octet_ext {x y : UInt8} (h : ∀ j < 8, x.toNat.testBit j = y.toNat.testBit j) : x = y := by
  refine UInt8.toNat_inj.1 (Nat.eq_of_testBit_eq fun j ↦ ?_)
  rcases Nat.lt_or_ge j 8 with hj | hj
  · exact h j hj
  · have hpow : 2 ^ 8 ≤ 2 ^ j := Nat.pow_le_pow_right (by decide) hj
    rw [Nat.testBit_lt_two_pow (Nat.lt_of_lt_of_le x.toNat_lt hpow),
      Nat.testBit_lt_two_pow (Nat.lt_of_lt_of_le y.toNat_lt hpow)]

/-- Octets with the same bits are the same. -/
theorem bits_injective : Function.Injective bits := by
  intro xs ys h
  induction xs generalizing ys with
  | nil =>
    cases ys with
    | nil => rfl
    | cons y ys => cases h
  | cons x xs ih =>
    cases ys with
    | nil => cases h
    | cons y ys =>
      obtain ⟨hhead, htail⟩ := List.append_inj h (by rw [List.length_map, List.length_map])
      have hxy : x = y := octet_ext fun j hj ↦ List.map_inj_left.1 hhead j (List.mem_range.2 hj)
      rw [hxy, ih htail]

end Lfsr
