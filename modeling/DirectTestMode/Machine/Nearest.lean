import Mathlib.Algebra.Order.Group.Abs
import Mathlib.Algebra.Order.Group.Int
import Mathlib.Order.Bounds.Basic

/-!
# The nearest of some levels

`Nearest levels v p` says that `p` is one of the levels and no other is nearer to `v`; of two that
are equally near it is the lower one, so there is at most one (`Nearest.unique`). The levels are a
set in an ordered group, and no order in which they are listed or searched appears.

Where the levels are known around `v` the nearest one is known: below all levels it is the least one
(`IsLeast.nearest`), above all it is the greatest one (`IsGreatest.nearest`), and between two
neighbours it is the upper one only if that is strictly nearer (`nearest_between`).

A search through a sorted table meets exactly these three cases, and by uniqueness whatever it
returns in them is the nearest level. The test in `nearest_between` is written as a program writes
it, with the distance to the lower neighbour on the right, so that a tie goes down.
-/

variable {α : Type*} [AddCommGroup α] [LinearOrder α]

/-- `p` is the level nearest to `v`, and the lower one of two that are. -/
structure Nearest (levels : Set α) (v p : α) : Prop where
  /-- It is one of the levels. -/
  mem : p ∈ levels
  /-- No level is nearer. -/
  nearest : ∀ q ∈ levels, |p - v| ≤ |q - v|
  /-- Of those that are equally near it is the lowest. -/
  lower : ∀ q ∈ levels, |q - v| = |p - v| → p ≤ q

/-- **There is one nearest level at most.** Two of them are equally near, and each is then the
lower one. -/
theorem Nearest.unique {levels : Set α} {v p q : α} (hp : Nearest levels v p)
    (hq : Nearest levels v q) : p = q := by
  have hdist : |p - v| = |q - v| := le_antisymm (hp.nearest q hq.mem) (hq.nearest p hp.mem)
  exact le_antisymm (hp.lower q hq.mem hdist.symm) (hq.lower p hp.mem hdist)

variable [IsOrderedAddMonoid α]

/-- The nearest level to a value below them all. -/
theorem IsLeast.nearest {levels : Set α} {v p : α} (h : IsLeast levels p) (hv : v ≤ p) :
    Nearest levels v p where
  mem := h.1
  nearest q hq := by
    rw [abs_of_nonneg (sub_nonneg.2 hv), abs_of_nonneg (sub_nonneg.2 (hv.trans (h.2 hq)))]
    exact sub_le_sub_right (h.2 hq) v
  lower _ hq _ := h.2 hq

/-- The nearest level to a value above them all. -/
theorem IsGreatest.nearest {levels : Set α} {v p : α} (h : IsGreatest levels p) (hv : p ≤ v) :
    Nearest levels v p where
  mem := h.1
  nearest q hq := by
    rw [abs_of_nonpos (sub_nonpos.2 hv), abs_of_nonpos (sub_nonpos.2 ((h.2 hq).trans hv))]
    exact neg_le_neg (sub_le_sub_right (h.2 hq) v)
  lower q hq hdist := by
    rw [abs_of_nonpos (sub_nonpos.2 hv), abs_of_nonpos (sub_nonpos.2 ((h.2 hq).trans hv)),
      neg_inj, sub_left_inj] at hdist
    exact hdist.ge

/-- **Between two neighbours.** No level lies strictly between `lo` and `hi`, and `v` does. Any
other level is at least as far as the neighbour on its side. -/
theorem nearest_between {levels : Set α} {v lo hi : α} (hlo : lo ∈ levels) (hhi : hi ∈ levels)
    (hgap : ∀ q ∈ levels, q ≤ lo ∨ hi ≤ q) (hlov : lo ≤ v) (hvhi : v < hi) :
    Nearest levels v (if hi - v < |lo - v| then hi else lo) := by
  have habs : |lo - v| = v - lo := by
    rw [abs_of_nonpos (sub_nonpos.2 hlov), neg_sub]
  -- the distance of a level below is at least that of `lo`, and of one above that of `hi`
  have hbelow : ∀ q ≤ lo, |q - v| = v - q ∧ v - lo ≤ v - q := fun q hq ↦
    ⟨by rw [abs_of_nonpos (sub_nonpos.2 (hq.trans hlov)), neg_sub], sub_le_sub_left hq v⟩
  have habove : ∀ q, hi ≤ q → |q - v| = q - v ∧ hi - v ≤ q - v := fun q hq ↦
    ⟨abs_of_nonneg (sub_nonneg.2 (hvhi.le.trans hq)), sub_le_sub_right hq v⟩
  rw [habs]
  split
  · next hnear =>
    refine ⟨hhi, fun q hq ↦ ?_, fun q hq hdist ↦ ?_⟩
    · rw [(habove hi le_rfl).1]
      rcases hgap q hq with h | h
      · rw [(hbelow q h).1]
        exact hnear.le.trans (hbelow q h).2
      · rw [(habove q h).1]
        exact (habove q h).2
    · rcases hgap q hq with h | h
      · rw [(habove hi le_rfl).1, (hbelow q h).1] at hdist
        exact absurd hnear (not_lt.2 (hdist ▸ (hbelow q h).2))
      · exact h
  · next hnear =>
    refine ⟨hlo, fun q hq ↦ ?_, fun q hq hdist ↦ ?_⟩
    · rw [(hbelow lo le_rfl).1]
      rcases hgap q hq with h | h
      · rw [(hbelow q h).1]
        exact (hbelow q h).2
      · rw [(habove q h).1]
        exact (not_lt.1 hnear).trans (habove q h).2
    · rcases hgap q hq with h | h
      · rw [(hbelow lo le_rfl).1, (hbelow q h).1, sub_right_inj] at hdist
        exact hdist.ge
      · exact hlov.trans (hvhi.le.trans h)
