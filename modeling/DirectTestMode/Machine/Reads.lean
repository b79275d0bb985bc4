import DirectTestMode.Machine.Prog

/-!
# Programs that read a memory

A component that gets a memory as a function `ℕ → β` can be executed, but one cannot ask it which
cells it has looked at: two functions that agree everywhere are the same function.
`Interface.withReads` adds to an interface the operation that reads a cell, and a program over it
says where it reads.

* `Prog.erase` answers the reads from a memory and leaves a program over the interface alone, and
  `Prog.lift` is the other direction, a program that reads nothing.
* `Prog.reads` are the cells that a run reads, in order. Where a run reads may depend on what it has
  read before and on the answers of the operations, so it is a function of the memory and of the
  handler.

## What the reads are for

`run_erase_congr`: a run depends on the memory only where it reads. The erased program is the one
that is executed, so a model written without reads is compared with one that has them by an equation
between erased programs, and the reads are then a property of the program and no longer of the
model's author.

The rules follow the syntax. `erase_bind` and `reads_bind` take a sequence apart, and `readBlock` is
the loop that copies a block, with its cells in closed form (`reads_readBlock`).
-/

/-- The operations of an interface, and the read of a cell. -/
inductive ReadOp (Op : Type) : Type
  /-- Read the cell `k`. -/
  | read (k : ℕ)
  /-- An operation of the interface itself. -/
  | op (o : Op)

/-- An interface with a memory of cells `β`. -/
def Interface.withReads (I : Interface) (β : Type) : Interface where
  Op := ReadOp I.Op
  Res
    | .read _ => β
    | .op o => I.Res o

namespace Prog

open Fallible

variable {I : Interface} {α γ β : Type} {σ ε : Type}

/-- Read a cell. -/
def read (k : ℕ) : Prog (I.withReads β) β := .call (I := I.withReads β) (.read k) .ret

/-- A program that reads nothing. -/
def lift : Prog I α → Prog (I.withReads β) α
  | ret a => ret a
  | call o k => .call (I := I.withReads β) (.op o) fun r ↦ (k r).lift

/-- Answer the reads from a memory. -/
def erase (mem : ℕ → β) : Prog (I.withReads β) α → Prog I α
  | ret a => ret a
  | call (.read k) f => (f (mem k)).erase mem
  | call (.op o) f => call o fun r ↦ (f r).erase mem

/-- The cells that a run reads. -/
def reads (mem : ℕ → β) (h : I.Handler σ ε) : Prog (I.withReads β) α → σ → List ℕ
  | ret _, _ => []
  | call (.read k) f, s => k :: (f (mem k)).reads mem h s
  | call (.op o) f, s =>
    match h o s with
    | .ok x => (f x.1).reads mem h x.2
    | .error _ => []

variable {mem mem' : ℕ → β} {h : I.Handler σ ε}

/-! ### The program that is left -/

/-- A program that only returns is left as it is. -/
@[simp] theorem erase_pure (a : α) : (pure a : Prog (I.withReads β) α).erase mem = pure a := rfl

@[simp] theorem erase_read (k : ℕ) : (read k : Prog (I.withReads β) β).erase mem = pure (mem k) :=
  rfl

/-- Lifting and erasing undo each other, whatever the memory holds. -/
@[simp] theorem erase_lift (p : Prog I α) : (p.lift : Prog (I.withReads β) α).erase mem = p := by
  induction p with
  | ret a => rfl
  | call o k ih => exact congrArg (call o) (funext ih)

/-- **Erasing goes through a sequence**, so it may be done step by step along a program. -/
@[simp] theorem erase_bind (p : Prog (I.withReads β) α) (f : α → Prog (I.withReads β) γ) :
    (p >>= f).erase mem = p.erase mem >>= fun a ↦ (f a).erase mem := by
  induction p with
  | ret a => rfl
  | call o k ih =>
    cases o with
    | read j => exact ih (mem j)
    | op o => exact congrArg (call o) (funext ih)

/-! ### The reads -/

@[simp] theorem reads_pure (a : α) (s : σ) :
    (pure a : Prog (I.withReads β) α).reads mem h s = [] := rfl

@[simp] theorem reads_read (k : ℕ) (s : σ) :
    (read k : Prog (I.withReads β) β).reads mem h s = [k] := rfl

/-- A lifted program reads nothing. -/
@[simp] theorem reads_lift (p : Prog I α) (s : σ) :
    (p.lift : Prog (I.withReads β) α).reads mem h s = [] := by
  induction p generalizing s with
  | ret a => rfl
  | call o k ih =>
    rw [lift, reads]
    cases h o s with
    | error e => rfl
    | ok x => exact ih x.1 x.2

/-- The reads of a sequence: those of the first half, and those of the second from the state and
with the value that the first half ends with. -/
theorem reads_bind (p : Prog (I.withReads β) α) (f : α → Prog (I.withReads β) γ) (s : σ) :
    (p >>= f).reads mem h s = p.reads mem h s ++ match (p.erase mem).run h s with
      | .ok x => (f x.1).reads mem h x.2
      | .error _ => [] := by
  induction p generalizing s with
  | ret a => rfl
  | call o k ih =>
    cases o with
    | read j => exact congrArg (j :: ·) (ih (mem j) s)
    | op o =>
      rw [show (call (I := I.withReads β) (.op o) k >>= f) =
        call (I := I.withReads β) (.op o) fun r ↦ k r >>= f from rfl, reads, reads, erase, run_call]
      cases h o s with
      | error e => rfl
      | ok x => exact ih x.1 x.2

/-- A continuation that reads nothing adds no reads. -/
theorem reads_bind_lift (p : Prog (I.withReads β) α) (g : α → Prog I γ) (s : σ) :
    (p >>= fun a ↦ (g a).lift).reads mem h s = p.reads mem h s := by
  rw [reads_bind]
  cases (p.erase mem).run h s <;> simp

/-! ### Blocks -/

/-- Copy `len` cells from `off` on. -/
def readBlock (off : ℕ) : ℕ → Prog (I.withReads β) (List β)
  | 0 => pure []
  | len + 1 => do
    let v ← read off
    let vs ← readBlock (off + 1) len
    pure (v :: vs)

/-- The first cell of a block, and the rest of it. -/
theorem map_range_succ (f : ℕ → γ) (len : ℕ) :
    (List.range (len + 1)).map f = f 0 :: (List.range len).map fun i ↦ f (i + 1) := by
  rw [List.range_succ_eq_map, List.map_cons, List.map_map]
  rfl

/-- A block is read from the memory cell by cell. -/
@[simp] theorem erase_readBlock (off len : ℕ) :
    (readBlock off len : Prog (I.withReads β) (List β)).erase mem =
      pure ((List.range len).map fun i ↦ mem (off + i)) := by
  induction len generalizing off with
  | zero => rfl
  | succ len ih =>
    rw [readBlock, erase_bind, map_range_succ]
    simp only [erase_bind, ih, Nat.add_right_comm off 1]
    rfl

/-- The loop reads the cells of the block, each once and in order. -/
@[simp] theorem reads_readBlock (off len : ℕ) (s : σ) :
    (readBlock off len : Prog (I.withReads β) (List β)).reads mem h s =
      (List.range len).map fun i ↦ off + i := by
  induction len generalizing off with
  | zero => rfl
  | succ len ih =>
    rw [readBlock, reads_bind, map_range_succ]
    simp only [erase_read, run_pure, reads_bind, ih, erase_readBlock, reads_pure, List.append_nil,
      Nat.add_right_comm off 1]
    rfl

/-- **A run depends on the memory only where it reads.** The induction is on the program; a
memory that agrees on the first cell leaves the same rest of the program, with the same reads. -/
theorem run_erase_congr {p : Prog (I.withReads β) α} {s : σ}
    (hmem : ∀ k ∈ p.reads mem h s, mem' k = mem k) :
    (p.erase mem').run h s = (p.erase mem).run h s := by
  induction p generalizing s with
  | ret a => rfl
  | call o k ih =>
    cases o with
    | read j =>
      have hj : mem' j = mem j := hmem j List.mem_cons_self
      show ((k (mem' j)).erase mem').run h s = ((k (mem j)).erase mem).run h s
      rw [hj]
      exact ih (mem j) fun i hi ↦ hmem i (List.mem_cons_of_mem j hi)
    | op o =>
      rw [reads] at hmem
      rw [erase, erase, run_call, run_call]
      rcases hx : h o s with e | x
      · rfl
      · rw [hx] at hmem
        exact ih x.1 hmem

end Prog
