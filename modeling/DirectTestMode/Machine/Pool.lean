import Mathlib.Data.List.Perm.Basic
import Mathlib.Data.Fintype.Card
import Mathlib.Logic.Function.Basic

/-!
# Buffer pools

A pool owns a fixed set of buffers. A buffer is named by an `ι`, so that a pointer to it can be
stored anywhere; its content is a `β` and stays what it is when the buffer is released and handed
out again. Freed buffers are handed out in last-in, first-out order, as a free list gives them.

Nothing stops a program from losing a buffer or from releasing one twice, and this is on purpose:
the pool is a data structure with two operations, and whether its owner uses them well is a property
of the owner.

## Conservation

`Conserved p held` says that the owner did: with `held` the buffers that somebody has, every buffer
is free or held, and only once. It is stated by counting, which has the two halves of the property
in one equation, and makes each rule a fact about permutations of the free buffers and the held ones
together.

* `conserved_alloc` and `conserved_release` are equivalences: an owner who takes a buffer has to
  hold it, and one who gives it back has to have held it.
* `Conserved.perm`: handing a buffer from one holder to another changes nothing.
* `Conserved.not_lost` is the other direction, that dropping a buffer breaks conservation. It is
  what a proof that a buffer is lost ends with.
-/

universe u v

/-- The content of every buffer, and the free ones in the order they will be handed out. -/
structure Pool (ι : Type u) (β : Type v) where
  /-- What is in each buffer, free or not. -/
  block : ι → β
  /-- The free buffers. The first one is handed out next. -/
  free : List ι

namespace Pool

variable {ι : Type u} {β : Type v}

/-- Take a free buffer. -/
def alloc (p : Pool ι β) : Option (ι × Pool ι β) :=
  match p.free with
  | [] => none
  | i :: free => some (i, { p with free := free })

/-- Give a buffer back. -/
def release (p : Pool ι β) (i : ι) : Pool ι β := { p with free := i :: p.free }

@[simp] theorem release_free (p : Pool ι β) (i : ι) : (p.release i).free = i :: p.free := rfl

@[simp] theorem release_block (p : Pool ι β) (i : ι) : (p.release i).block = p.block := rfl

/-- An empty free list is the only reason to hand out nothing. -/
theorem alloc_eq_none {p : Pool ι β} : p.alloc = none ↔ p.free = [] := by
  rw [alloc]
  cases p.free with
  | nil => simp
  | cons i free => simp

/-- **What an allocation does**: the first free buffer leaves the list, and no content changes. -/
theorem alloc_eq_some {p p' : Pool ι β} {i : ι} :
    p.alloc = some (i, p') ↔ p.free = i :: p'.free ∧ p'.block = p.block := by
  rw [alloc]
  cases hfree : p.free with
  | nil => simp
  | cons j free =>
    constructor
    · intro h
      cases h
      exact ⟨rfl, rfl⟩
    · rintro ⟨hcons, hblock⟩
      cases hcons
      rw [← hblock]

variable [DecidableEq ι]

/-- Replace the content of a buffer. -/
def write (p : Pool ι β) (i : ι) (c : β) : Pool ι β :=
  { p with block := Function.update p.block i c }

@[simp] theorem write_free (p : Pool ι β) (i : ι) (c : β) : (p.write i c).free = p.free := rfl

/-- What was written is there. -/
@[simp] theorem write_block_self (p : Pool ι β) (i : ι) (c : β) : (p.write i c).block i = c := by
  simp [write]

/-- The other buffers keep their content. -/
theorem write_block_of_ne (p : Pool ι β) {i j : ι} (c : β) (h : j ≠ i) :
    (p.write i c).block j = p.block j := by
  simp [write, h]

/-- The last write stays. -/
@[simp] theorem write_write (p : Pool ι β) (i : ι) (c d : β) :
    (p.write i c).write i d = p.write i d := by
  simp [write]

/-! ### Conservation -/

/-- Every buffer is free or in `held`, and only once. -/
def Conserved (p : Pool ι β) (held : List ι) : Prop := ∀ i, (p.free ++ held).count i = 1

variable {p p' : Pool ι β} {held held' : List ι} {i : ι}

/-- Conservation is about the free buffers and the held ones only. -/
theorem conserved_congr (h : (p'.free ++ held').Perm (p.free ++ held)) :
    p'.Conserved held' ↔ p.Conserved held :=
  forall_congr' fun i ↦ by rw [h.count_eq i]

/-- The order in which buffers are held does not matter. -/
theorem Conserved.perm (h : p.Conserved held) (hperm : held'.Perm held) : p.Conserved held' :=
  (conserved_congr (hperm.append_left p.free)).2 h

/-- What is in a buffer does not matter for who has it. -/
@[simp] theorem conserved_write (c : β) : (p.write i c).Conserved held ↔ p.Conserved held :=
  Iff.rfl

/-- **Whoever takes a buffer holds it.** -/
theorem conserved_alloc (h : p.alloc = some (i, p')) :
    p'.Conserved (i :: held) ↔ p.Conserved held := by
  refine conserved_congr ?_
  rw [(alloc_eq_some.1 h).1, List.cons_append]
  exact List.perm_middle

/-- **Whoever gives a buffer back held it.** -/
theorem conserved_release : (p.release i).Conserved held ↔ p.Conserved (i :: held) := by
  refine conserved_congr ?_
  rw [release_free, List.cons_append]
  exact List.perm_middle.symm

/-- **A buffer that is neither released nor held is lost.** -/
theorem Conserved.not_lost (h : p.Conserved (i :: held)) : ¬ p.Conserved held := by
  intro hlost
  have h := h i
  have hlost := hlost i
  rw [List.count_append] at h hlost
  rw [List.count_cons_self] at h
  omega

/-- No buffer is in two places. -/
theorem Conserved.nodup (h : p.Conserved held) : (p.free ++ held).Nodup :=
  List.nodup_iff_count_le_one.2 fun i ↦ (h i).le

/-- **The free buffers and the held ones are all the buffers there are**, if there are finitely
many. -/
theorem Conserved.length [Fintype ι] (h : p.Conserved held) :
    p.free.length + held.length = Fintype.card ι := by
  rw [← List.length_append, ← List.toFinset_card_of_nodup h.nodup, ← Finset.card_univ]
  congr 1
  refine Finset.eq_univ_of_forall fun i ↦ ?_
  rw [List.mem_toFinset, ← List.count_pos_iff, h i]
  exact Nat.one_pos

end Pool
