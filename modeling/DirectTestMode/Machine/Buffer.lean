import Mathlib.Data.List.OfFn
import Mathlib.Data.Fintype.Basic
import Mathlib.Logic.Function.Basic

/-!
# Fixed-size buffers

A buffer of `n` cells with the three block operations of a C string library. Each operation is
partial: it is `none` when the cells it names do not all lie inside the buffer (or, for a copy,
inside the source), so that a program that uses it in bounds is one whose operations are `some`.
What a C program does outside its buffers is not defined, and so it has no value here.

The lemmas are the ones a reader of a buffer needs:

* an operation in bounds succeeds (`memset_eq`, `memcpy_eq`, `slice_eq`);
* a slice depends on its own cells only (`slice_congr`);
* the cells on either side of a written block are unchanged (`memset_below`, `memset_above` and the
  same for `memcpy`), and those of a copied one hold the source (`memcpy_within`);
* a slice of what was just written is what was written (`slice_memset`, `slice_memcpy`);
* slices that meet are one (`slice_append`, `slice_memcpy_append`);
* a slice from the start is what a loop over its cells reads (`map_range_of_slice`);
* buffers with the same slice agree on its cells (`eq_of_slice`, `slice_eq_slice_iff`).

None of them unfolds to positions, so a proof about a packet speaks of its header and its payload as
slices and never of a cell in between.
-/

/-- A buffer of `n` cells. -/
abbrev Buffer (n : ℕ) (α : Type) : Type := Fin n → α

namespace Buffer

variable {n : ℕ} {α : Type}

/-- Set `len` cells from `off` on to `v`. -/
def memset (b : Buffer n α) (off : ℕ) (v : α) (len : ℕ) : Option (Buffer n α) :=
  if off + len ≤ n then
    some fun i ↦ if off ≤ i ∧ i < off + len then v else b i
  else none

/-- Copy the first `len` elements of `src` to the cells from `off` on. -/
def memcpy (b : Buffer n α) (off : ℕ) (src : List α) (len : ℕ) : Option (Buffer n α) :=
  if off + len ≤ n ∧ len ≤ src.length then
    some fun i ↦ if off ≤ i ∧ i < off + len then src.getD (i - off) (b i) else b i
  else none

/-- The `len` cells from `off` on. -/
def slice (b : Buffer n α) (off len : ℕ) : Option (List α) :=
  if h : off + len ≤ n then
    some (List.ofFn fun k : Fin len ↦ b ⟨off + k, by omega⟩)
  else none

/-- The first `len` elements of a table. -/
def firstOf (src : List α) (len : ℕ) : Option (List α) :=
  if len ≤ src.length then some (src.take len) else none

/-! ### Operations in bounds -/

/-- A block inside the buffer can be set. -/
theorem memset_eq (b : Buffer n α) {off len : ℕ} (v : α) (h : off + len ≤ n) :
    b.memset off v len = some fun i : Fin n ↦ if off ≤ i ∧ i < off + len then v else b i :=
  if_pos h

/-- A block inside the buffer can be copied to, from a source that is long enough. -/
theorem memcpy_eq (b : Buffer n α) {off len : ℕ} {src : List α} (h : off + len ≤ n)
    (hsrc : len ≤ src.length) :
    b.memcpy off src len =
      some fun i : Fin n ↦
        if off ≤ i ∧ i < off + len then src.getD (i - off) (b i) else b i :=
  if_pos ⟨h, hsrc⟩

/-- A copy of one element to the first cell, if there is one. -/
theorem memcpy_singleton (b : Buffer n α) (v : α) :
    b.memcpy 0 [v] 1 = if h : 0 < n then some (Function.update b ⟨0, h⟩ v) else none := by
  split
  · rw [memcpy_eq b (by omega) (by simp)]
    refine congrArg some (funext fun i ↦ ?_)
    rcases i with ⟨- | i, hi⟩
    · simp
    · rw [if_neg (by simp), Function.update_of_ne (by simp)]
  · rw [memcpy, if_neg (by omega)]

/-- A block inside the buffer can be read. -/
theorem slice_eq (b : Buffer n α) {off len : ℕ} (h : off + len ≤ n) :
    b.slice off len = some (List.ofFn fun k : Fin len ↦ b ⟨off + k, by omega⟩) :=
  dif_pos h

/-- A table that is long enough has its first elements. -/
theorem firstOf_eq {src : List α} {len : ℕ} (h : len ≤ src.length) :
    firstOf src len = some (src.take len) :=
  if_pos h

/-! ### Reading back -/

/-- A slice has the length it was asked for. -/
theorem length_slice {b : Buffer n α} {off len : ℕ} {l : List α} (h : b.slice off len = some l) :
    l.length = len := by
  rw [slice] at h
  split at h
  · cases h
    exact List.length_ofFn
  · cases h

/-- **A slice depends on its own cells only.** -/
theorem slice_congr {b b' : Buffer n α} {off len : ℕ}
    (h : ∀ i : Fin n, off ≤ i → i < off + len → b i = b' i) :
    b.slice off len = b'.slice off len := by
  unfold slice
  split
  · congr 1
    refine congrArg _ (funext fun k ↦ ?_)
    exact h _ (Nat.le_add_right _ _) (Nat.add_lt_add_left k.2 off)
  · rfl

/-- The cells below a block that is set keep their values. -/
theorem memset_below {b b' : Buffer n α} {off len : ℕ} {v : α} (h : b.memset off v len = some b')
    {i : Fin n} (hi : i < off) : b' i = b i := by
  rw [memset] at h
  split at h
  · cases h
    exact if_neg fun hle ↦ Nat.not_lt.2 hle.1 hi
  · cases h

/-- The cells below a block that is copied to keep their values. -/
theorem memcpy_below {b b' : Buffer n α} {off len : ℕ} {src : List α}
    (h : b.memcpy off src len = some b') {i : Fin n} (hi : i < off) : b' i = b i := by
  rw [memcpy] at h
  split at h
  · cases h
    exact if_neg fun hle ↦ Nat.not_lt.2 hle.1 hi
  · cases h

/-- A cell of a written block. -/
theorem memcpy_within {b b' : Buffer n α} {off len : ℕ} {src : List α}
    (h : b.memcpy off src len = some b') {i : Fin n} (hoff : off ≤ i)
    (hlen : (i : ℕ) < off + len) : b' i = src.getD (i - off) (b i) := by
  rw [memcpy] at h
  split at h
  · cases h
    exact if_pos ⟨hoff, hlen⟩
  · cases h

/-- The cells above a block that is set keep their values. -/
theorem memset_above {b b' : Buffer n α} {off len : ℕ} {v : α} (h : b.memset off v len = some b')
    {i : Fin n} (hi : off + len ≤ i) : b' i = b i := by
  rw [memset] at h
  split at h
  · cases h
    exact if_neg fun hlt ↦ Nat.not_lt.2 hi hlt.2
  · cases h

/-- The cells above a block that is copied to keep their values. -/
theorem memcpy_above {b b' : Buffer n α} {off len : ℕ} {src : List α}
    (h : b.memcpy off src len = some b') {i : Fin n} (hi : off + len ≤ i) : b' i = b i := by
  rw [memcpy] at h
  split at h
  · cases h
    exact if_neg fun hlt ↦ Nat.not_lt.2 hi hlt.2
  · cases h

/-- **What was set is read back**, over all of its length. -/
theorem slice_memset {b b' : Buffer n α} {off len : ℕ} {v : α}
    (h : b.memset off v len = some b') : b'.slice off len = some (List.replicate len v) := by
  rw [memset] at h
  split at h
  · rename_i hle
    cases h
    rw [slice_eq _ hle]
    congr 1
    refine List.ext_getElem (by simp) fun k _ _ ↦ ?_
    simp
  · cases h

/-- **What was copied is read back**, as far as it was asked for. -/
theorem slice_memcpy {b b' : Buffer n α} {off len : ℕ} {src : List α}
    (h : b.memcpy off src len = some b') : b'.slice off len = some (src.take len) := by
  rw [memcpy] at h
  split at h
  · rename_i hle
    cases h
    rw [slice_eq _ hle.1]
    congr 1
    refine List.ext_getElem (by simpa using hle.2) fun k hk hk' ↦ ?_
    have hlt : k < len := by simpa using hk
    have hsrc : k < src.length := by omega
    simp [hsrc]
  · cases h

/-- Two slices that meet are one. A packet is read in this way, its header first and its payload
behind. -/
theorem slice_append {b : Buffer n α} {off k len : ℕ} {front rest : List α}
    (hfront : b.slice off k = some front) (hrest : b.slice (off + k) len = some rest) :
    b.slice off (k + len) = some (front ++ rest) := by
  rw [slice] at hfront hrest
  split at hfront
  · split at hrest
    · cases hfront
      cases hrest
      rw [slice_eq b (by omega)]
      refine congrArg some (List.ext_getElem (by simp) fun i hi _ ↦ ?_)
      rw [List.getElem_append]
      split
      · simp
      · rename_i hk
        have hk : k ≤ i := by simpa using hk
        simp [Nat.add_assoc, Nat.add_sub_cancel' hk]
    · cases hrest
  · cases hfront

/-- What is written behind a slice extends it. -/
theorem slice_memcpy_append {b b' : Buffer n α} {off : ℕ} {front src : List α}
    (hfront : b.slice 0 off = some front) (h : b.memcpy off src src.length = some b') :
    b'.slice 0 (off + src.length) = some (front ++ src) := by
  have hbelow : b'.slice 0 off = some front := by
    rw [← hfront]
    refine slice_congr fun i _ hi ↦ memcpy_below h ?_
    omega
  have hsrc := slice_memcpy h
  rw [List.take_length] at hsrc
  exact slice_append hbelow (by rwa [Nat.zero_add])

/-- The cells of a slice from the start, read one by one. -/
theorem map_range_of_slice {b : Buffer n α} {l : List α} (h : b.slice 0 l.length = some l)
    {f : ℕ → α} (hf : ∀ i : Fin n, f i = b i) : (List.range l.length).map f = l := by
  rw [slice] at h
  split at h
  · have hcells := Option.some.inj h
    refine Eq.trans (List.ext_getElem (by simp) fun i hi hi' ↦ ?_) hcells
    rw [List.getElem_map, List.getElem_range, List.getElem_ofFn]
    simp only [Nat.zero_add]
    exact hf ⟨i, _⟩
  · cases h

/-- **Buffers with the same slice** agree on its cells. -/
theorem eq_of_slice {b b' : Buffer n α} {off len : ℕ} {l : List α} (h : b.slice off len = some l)
    (h' : b'.slice off len = some l) {i : Fin n} (hoff : off ≤ i) (hlen : (i : ℕ) < off + len) :
    b i = b' i := by
  unfold slice at h h'
  split at h
  · rw [dif_pos ‹_›] at h'
    have hcells := List.ofFn_injective (Option.some.inj (h.trans h'.symm))
    have hcell := congrFun hcells ⟨i - off, by omega⟩
    simpa [Nat.add_sub_cancel' hoff] using hcell
  · cases h

/-- The two together, for a slice in bounds. -/
theorem slice_eq_slice_iff {b b' : Buffer n α} {off len : ℕ} (h : off + len ≤ n) :
    b.slice off len = b'.slice off len ↔
      ∀ i : Fin n, off ≤ i → i < off + len → b i = b' i :=
  ⟨fun hslice _ hoff hlen ↦
    eq_of_slice (hslice.trans (slice_eq b' h)) (slice_eq b' h) hoff hlen, slice_congr⟩

end Buffer
