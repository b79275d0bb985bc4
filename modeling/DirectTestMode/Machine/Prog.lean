import DirectTestMode.Machine.Run

/-!
# Programs over an interface

A component written against a library's interface is a program that issues operations and branches
on their results. `Prog I α` is that syntax for an interface `I`, and a `Handler` gives the
operations a meaning over a state: each one returns a result and a new state, or faults.

Keeping the program apart from the handler makes two questions separate statements. *What does the
program ask of the library* is `Prog.calls`, the list of operations a run issues, with their
arguments. *What does the run do* is `Prog.run`.

## The rules

* `run_pure`, `run_call` and `run_bind` execute a program symbolically; `calls_*` do the same for
  the operations issued. `run_map` takes a program from one handler to another.
* `Prog.Returns` bounds the values a program can return, over all answers of the operations, and
  `Prog.Issues` the operations it can issue. A `Prog.Straight` program issues one list of operations
  whatever they answer, and is the run of that list (`Straight.run_eq`).
* `Prog.run_invariant`: what every operation preserves, every program preserves.
* `Prog.Issues.run_invariant` is the same for the operations a program can issue, and
  `Prog.Issues.run_safe` for these and a fault that none of them raises.
* `Prog.Uniform` is a property of two runs: the answer of the program is the same from all states
  that satisfy a predicate. It is proved along the program, with `uniform_pure`, `uniform_perform`
  and `Uniform.bind`.
-/

/-- An interface: its operations, and for each of them the type of its result. -/
structure Interface where
  /-- The operations, arguments included. -/
  Op : Type
  /-- The result an operation returns. -/
  Res : Op → Type

/-- A program over an interface that returns an `α`. -/
inductive Prog (I : Interface) (α : Type) : Type
  /-- Return without issuing an operation. -/
  | ret (a : α) : Prog I α
  /-- Issue an operation and continue with its result. -/
  | call (op : I.Op) (k : I.Res op → Prog I α) : Prog I α

/-- A meaning for the operations of an interface over the states `σ`, with faults `ε`. -/
abbrev Interface.Handler (I : Interface) (σ ε : Type) : Type :=
  (op : I.Op) → σ → Except ε (I.Res op × σ)

namespace Prog

open Fallible

variable {I : Interface} {α β : Type} {σ ε : Type}

/-- Sequencing: continue with `f` at every return. -/
def bind : Prog I α → (α → Prog I β) → Prog I β
  | ret a, f => f a
  | call op k, f => call op fun r ↦ (k r).bind f

instance : Monad (Prog I) where
  pure := ret
  bind := bind

/-- The monad law that programs are rewritten with. The other two hold by definition. -/
theorem bind_assoc {γ : Type} (p : Prog I α) (f : α → Prog I β) (g : β → Prog I γ) :
    (p >>= f) >>= g = p >>= fun a ↦ f a >>= g := by
  induction p with
  | ret a => rfl
  | call op k ih => exact congrArg (call op) (funext ih)

/-- The program that issues one operation and returns its result. -/
def perform (op : I.Op) : Prog I (I.Res op) := call op ret

/-! ### Running -/

/-- Run a program from a state, stopping at the first fault. -/
def run (h : I.Handler σ ε) : Prog I α → σ → Except ε (α × σ)
  | ret a, s => .ok (a, s)
  | call op k, s => h op s >>= fun x ↦ (k x.1).run h x.2

/-- The operations a run issues, in order; a run that faults issued the faulting one last. -/
def calls (h : I.Handler σ ε) : Prog I α → σ → List I.Op
  | ret _, _ => []
  | call op k, s => op :: match h op s with
    | .ok x => (k x.1).calls h x.2
    | .error _ => []

variable (h : I.Handler σ ε)

@[simp] theorem run_pure (a : α) (s : σ) : (pure a : Prog I α).run h s = .ok (a, s) := rfl

/-- One operation, and then the rest with its result. -/
theorem run_call (op : I.Op) (k : I.Res op → Prog I α) (s : σ) :
    (call op k).run h s = h op s >>= fun x ↦ (k x.1).run h x.2 := rfl

/-- **A sequence is run by running its halves.** The fault of the first half is the fault of the
whole, and the second half starts in the state the first one leaves. -/
@[simp] theorem run_bind (p : Prog I α) (f : α → Prog I β) (s : σ) :
    (p >>= f).run h s = p.run h s >>= fun x ↦ (f x.1).run h x.2 := by
  induction p generalizing s with
  | ret a => rfl
  | call op k ih =>
    rw [run_call, show (call op k >>= f) = call op fun r ↦ k r >>= f from rfl, run_call]
    cases h op s with
    | error e => rfl
    | ok x => exact ih x.1 x.2

/-- **The abstraction rule for programs.** If a map takes what each operation does to what it does
in another handler, it takes the runs of programs to each other. -/
theorem run_map {τ : Type} {φ : σ → τ} {h : I.Handler σ ε} {h' : I.Handler τ ε}
    (hop : ∀ op s, (h op s).map (fun x ↦ (x.1, φ x.2)) = h' op (φ s)) (p : Prog I α) (s : σ) :
    (p.run h s).map (fun x ↦ (x.1, φ x.2)) = p.run h' (φ s) := by
  induction p generalizing s with
  | ret a => rfl
  | call op k ih =>
    rw [run_call, run_call, ← hop]
    rcases h op s with e | x
    · rfl
    · exact ih x.1 x.2

/-! ### Operations issued -/

@[simp] theorem calls_pure (a : α) (s : σ) : (pure a : Prog I α).calls h s = [] := rfl

/-- An operation is issued before its answer is known, so it is in the list even if it faults. -/
theorem calls_call (op : I.Op) (k : I.Res op → Prog I α) (s : σ) :
    (call op k).calls h s = op :: match h op s with
      | .ok x => (k x.1).calls h x.2
      | .error _ => [] := by
  rw [calls]

/-- A single operation. -/
@[simp] theorem calls_perform (op : I.Op) (s : σ) : (perform op).calls h s = [op] := by
  rw [perform, calls_call]
  cases h op s <;> rfl

/-- The operations of a sequence: those of the first half and, if it comes to its end, those of
the second from where it ends. -/
theorem calls_bind (p : Prog I α) (f : α → Prog I β) (s : σ) :
    (p >>= f).calls h s = p.calls h s ++ match p.run h s with
      | .ok x => (f x.1).calls h x.2
      | .error _ => [] := by
  induction p generalizing s with
  | ret a => rfl
  | call op k ih =>
    rw [calls_call, run_call, show (call op k >>= f) = call op fun r ↦ k r >>= f from rfl,
      calls_call]
    cases h op s with
    | error e => rfl
    | ok x => exact congrArg (op :: ·) (ih x.1 x.2)

/-- A continuation that issues nothing adds nothing to the operations issued. -/
theorem calls_bind_pure (p : Prog I α) (g : α → β) (s : σ) :
    (p >>= fun a ↦ pure (g a)).calls h s = p.calls h s := by
  rw [calls_bind]
  cases p.run h s <;> simp

/-- **What the operations leave behind.** If each of them changes what is observed of the state in a
way of its own, a run leaves behind what its operations do, in order. -/
theorem calls_foldl {τ : Type} {φ : σ → τ} {g : τ → I.Op → τ} {h : I.Handler σ ε}
    (hop : ∀ op s x, h op s = .ok x → φ x.2 = g (φ s) op) {p : Prog I α} {s : σ} {x : α × σ}
    (hrun : p.run h s = .ok x) : φ x.2 = (p.calls h s).foldl g (φ s) := by
  induction p generalizing s with
  | ret a =>
    cases hrun
    rfl
  | call op k ih =>
    obtain ⟨y, hy, hrun⟩ := bind_eq_ok.1 hrun
    rw [calls_call, hy, List.foldl_cons, ← hop op s y hy]
    exact ih y.1 hrun

/-! ### Results -/

/-- Every value the program can return satisfies `P`, whatever the operations answer. -/
def Returns (P : α → Prop) : Prog I α → Prop
  | ret a => P a
  | call _ k => ∀ r, (k r).Returns P

@[simp] theorem returns_pure {P : α → Prop} {a : α} : (pure a : Prog I α).Returns P ↔ P a :=
  Iff.rfl

/-- Nothing is claimed of the result. -/
theorem returns_true (p : Prog I α) : p.Returns fun _ ↦ True := by
  induction p with
  | ret a => trivial
  | call op k ih => exact ih

/-- **The rule of sequence for results.** What the first program can return is all that is known
of it. -/
theorem Returns.bind {P : α → Prop} {Q : β → Prop} {p : Prog I α} {f : α → Prog I β}
    (hp : p.Returns P) (hf : ∀ a, P a → (f a).Returns Q) : (p >>= f).Returns Q := by
  induction p with
  | ret a => exact hf a hp
  | call op k ih => exact fun r ↦ ih r (hp r)

variable {h}

/-- A run returns only what the program can return. -/
theorem Returns.run {P : α → Prop} {p : Prog I α} (hp : p.Returns P) {s : σ} {x : α × σ}
    (hrun : p.run h s = .ok x) : P x.1 := by
  induction p generalizing s with
  | ret a =>
    cases hrun
    exact hp
  | call op k ih =>
    obtain ⟨y, -, hrun⟩ := bind_eq_ok.1 hrun
    exact ih y.1 (hp y.1) hrun

/-! ### Operations that may be issued -/

/-- Every operation the program can issue satisfies `G`, whatever the earlier ones answer. -/
def Issues (G : I.Op → Prop) : Prog I α → Prop
  | ret _ => True
  | call op k => G op ∧ ∀ r, (k r).Issues G

@[simp] theorem issues_pure {G : I.Op → Prop} (a : α) : (pure a : Prog I α).Issues G := trivial

@[simp] theorem issues_perform {G : I.Op → Prop} {op : I.Op} : (perform op).Issues G ↔ G op :=
  ⟨fun h ↦ h.1, fun h ↦ ⟨h, fun _ ↦ trivial⟩⟩

/-- The rule of sequence for the operations. No use is made of what the first program returns. -/
theorem Issues.bind {G : I.Op → Prop} {p : Prog I α} {f : α → Prog I β} (hp : p.Issues G)
    (hf : ∀ a, (f a).Issues G) : (p >>= f).Issues G := by
  induction p with
  | ret a => exact hf a
  | call op k ih => exact ⟨hp.1, fun r ↦ ih r (hp.2 r)⟩

/-- A weaker property of the operations. -/
theorem Issues.mono {G G' : I.Op → Prop} (h : ∀ op, G op → G' op) {p : Prog I α}
    (hp : p.Issues G) : p.Issues G' := by
  induction p with
  | ret a => trivial
  | call op k ih => exact ⟨h op hp.1, fun r ↦ ih r (hp.2 r)⟩

/-- Nothing is claimed of the operations. -/
theorem issues_true (p : Prog I α) : p.Issues fun _ ↦ True := by
  induction p with
  | ret a => trivial
  | call op k ih => exact ⟨trivial, ih⟩

/-- Both branches of a test. -/
theorem issues_ite {c : Prop} [Decidable c] {G : I.Op → Prop} {p p' : Prog I α}
    (hp : p.Issues G) (hp' : p'.Issues G) : (if c then p else p').Issues G := by
  split_ifs
  · exact hp
  · exact hp'

/-- A run issues only what the program can issue. -/
theorem Issues.calls {G : I.Op → Prop} {p : Prog I α} (hp : p.Issues G) {s : σ} :
    ∀ op ∈ p.calls h s, G op := by
  induction p generalizing s with
  | ret a => exact fun op hop ↦ absurd hop List.not_mem_nil
  | call op k ih =>
    rw [calls_call]
    intro op' hop'
    rcases List.mem_cons.1 hop' with rfl | hop'
    · exact hp.1
    · rcases hs : h op s with e | x
      · rw [hs] at hop'
        exact absurd hop' List.not_mem_nil
      · rw [hs] at hop'
        exact ih x.1 (hp.2 x.1) op' hop'

/-! ### Straight-line programs -/

/-- The program issues exactly the operations `ops`, whatever they answer, and returns a value that
satisfies `P`. -/
def Straight (P : α → Prop) : Prog I α → List I.Op → Prop
  | ret a, ops => ops = [] ∧ P a
  | call op k, ops => ∃ rest, ops = op :: rest ∧ ∀ r, (k r).Straight P rest

@[simp] theorem straight_pure {P : α → Prop} {a : α} : (pure a : Prog I α).Straight P [] ↔ P a :=
  and_iff_right rfl

/-- One operation is a list of one. -/
theorem straight_perform (op : I.Op) : (perform op).Straight (fun _ ↦ True) [op] :=
  ⟨[], rfl, fun _ ↦ ⟨rfl, trivial⟩⟩

/-- **The rule of sequence for straight-line programs.** The second half may depend on what the
first returns, as long as its operations do not. -/
theorem Straight.bind {P : α → Prop} {Q : β → Prop} {p : Prog I α} {f : α → Prog I β}
    {ops rest : List I.Op} (hp : p.Straight P ops) (hf : ∀ a, P a → (f a).Straight Q rest) :
    (p >>= f).Straight Q (ops ++ rest) := by
  induction p generalizing ops with
  | ret a =>
    obtain ⟨rfl, ha⟩ := hp
    exact hf a ha
  | call op k ih =>
    obtain ⟨tail, rfl, hk⟩ := hp
    exact ⟨tail ++ rest, rfl, fun r ↦ ih r (hk r)⟩

/-- A continuation that only computes adds nothing to the operations. -/
theorem Straight.map {P : α → Prop} {Q : β → Prop} {p : Prog I α} {g : α → β} {ops : List I.Op}
    (hp : p.Straight P ops) (hg : ∀ a, P a → Q (g a)) :
    (p >>= fun a ↦ pure (g a)).Straight Q ops := by
  rw [← List.append_nil ops]
  exact hp.bind fun a ha ↦ straight_pure.2 (hg a ha)

/-- A straight-line program issues nothing but its operations. -/
theorem Straight.issues {P : α → Prop} {G : I.Op → Prop} {p : Prog I α} {ops : List I.Op}
    (hp : p.Straight P ops) (hops : ∀ op ∈ ops, G op) : p.Issues G := by
  induction p generalizing ops with
  | ret a => trivial
  | call op k ih =>
    obtain ⟨rest, rfl, hk⟩ := hp
    exact ⟨hops op List.mem_cons_self, fun r ↦
      ih r (hk r) fun op hop ↦ hops op (List.mem_cons_of_mem _ hop)⟩

/-- Where every operation has an answer, a program is straight-line in one way only. Without
answers a program could stop at its first operation, and anything could be said to follow. -/
theorem Straight.ops_eq (hres : ∀ op, Nonempty (I.Res op)) {P Q : α → Prop} {p : Prog I α}
    {ops ops' : List I.Op} (hp : p.Straight P ops) (hq : p.Straight Q ops') : ops = ops' := by
  induction p generalizing ops ops' with
  | ret a => exact hp.1.trans hq.1.symm
  | call op k ih =>
    obtain ⟨rest, rfl, hk⟩ := hp
    obtain ⟨rest', rfl, hk'⟩ := hq
    obtain ⟨r⟩ := hres op
    exact congrArg (op :: ·) (ih r (hk r) (hk' r))

/-! ### Rules -/

/-- What the operations that satisfy `G` preserve, a program that issues no others preserves. -/
theorem Issues.run_invariant {J : σ → Prop} {G : I.Op → Prop}
    (hop : ∀ op s x, G op → J s → h op s = .ok x → J x.2) {p : Prog I α} (hp : p.Issues G)
    {s : σ} {x : α × σ} (hJ : J s) (hrun : p.run h s = .ok x) : J x.2 := by
  induction p generalizing s with
  | ret a =>
    cases hrun
    exact hJ
  | call op k ih =>
    obtain ⟨y, hy, hrun⟩ := bind_eq_ok.1 hrun
    exact ih y.1 (hp.2 y.1) (hop op s y hp.1 hJ hy) hrun

/-- **The invariant rule.** What every operation preserves, every program preserves. -/
theorem run_invariant {J : σ → Prop}
    (hop : ∀ op s x, J s → h op s = .ok x → J x.2) (p : Prog I α) {s : σ} {x : α × σ}
    (hJ : J s) (hrun : p.run h s = .ok x) : J x.2 :=
  (issues_true p).run_invariant (fun op s x _ ↦ hop op s x) hJ hrun

/-- **The safety rule.** If the operations that satisfy `G` raise no fault `e` under `J` and
preserve it, then neither does a program that issues no others. -/
theorem Issues.run_safe {J : σ → Prop} {G : I.Op → Prop} {e : ε}
    (hop : ∀ op s, G op → J s → h op s ≠ .error e ∧ ∀ x, h op s = .ok x → J x.2)
    {p : Prog I α} (hp : p.Issues G) {s : σ} (hJ : J s) :
    p.run h s ≠ .error e ∧ ∀ x, p.run h s = .ok x → J x.2 := by
  induction p generalizing s with
  | ret a =>
    refine ⟨(nomatch ·), fun x hrun ↦ ?_⟩
    cases hrun
    exact hJ
  | call op k ih =>
    obtain ⟨hne, hok⟩ := hop op s hp.1 hJ
    rw [run_call]
    rcases hs : h op s with e' | y
    -- a fault of the operation is the fault of the program
    · rw [hs] at hne
      rw [error_bind]
      exact ⟨fun hrun ↦ hne (congrArg _ (Except.error.inj hrun)), fun x hrun ↦ nomatch hrun⟩
    · exact ih y.1 (hp.2 y.1) (hok y hs)

/-- The machine whose inputs are the operations of the interface. Their results are thrown away. -/
def opStep (h : I.Handler σ ε) (s : σ) (op : I.Op) : Except ε σ :=
  h op s >>= fun x ↦ .ok x.2

/-- **A straight-line program is the run of its operations.** It faults where the run of its
operations does, with the same fault, and otherwise it leaves the state that these leave. -/
theorem Straight.run_eq {P : α → Prop} {p : Prog I α} {ops : List I.Op} (hp : p.Straight P ops)
    (s : σ) :
    (∃ e, p.run h s = .error e ∧ Fallible.run (opStep h) s ops = .error e) ∨
      ∃ x, p.run h s = .ok x ∧ Fallible.run (opStep h) s ops = .ok x.2 ∧ P x.1 := by
  induction p generalizing s ops with
  | ret a =>
    obtain ⟨rfl, ha⟩ := hp
    exact .inr ⟨(a, s), rfl, rfl, ha⟩
  | call op k ih =>
    obtain ⟨rest, rfl, hk⟩ := hp
    rw [run_call, run_cons, opStep]
    rcases h op s with e | x
    · exact .inl ⟨e, rfl, rfl⟩
    · exact ih x.1 (hk x.1) x.2

/-! ### Answers that do not depend on the state -/

/-- From every state that satisfies `J` the program returns the same value, and leaves a state
that satisfies `Q` with it; or it meets the same fault from all of them. The value is quantified
before the states, which is the point: it may depend on the program only. -/
def Uniform (h : I.Handler σ ε) (J : σ → Prop) (Q : α → σ → Prop) (p : Prog I α) : Prop :=
  (∃ a, ∀ s, J s → ∃ s', p.run h s = .ok (a, s') ∧ Q a s') ∨ ∃ e, ∀ s, J s → p.run h s = .error e

variable {J : σ → Prop}

/-- A program that only returns has the same answer from everywhere. -/
theorem uniform_pure {Q : α → σ → Prop} {a : α} (hQ : ∀ s, J s → Q a s) :
    (pure a : Prog I α).Uniform h J Q :=
  .inl ⟨a, fun s hs ↦ ⟨s, rfl, hQ s hs⟩⟩

/-- An operation whose answer is the same from all the states in question. -/
theorem uniform_perform (op : I.Op) {Q : I.Res op → σ → Prop} (r : I.Res op)
    (hop : ∀ s, J s → ∃ s', h op s = .ok (r, s') ∧ Q r s') : (perform op).Uniform h J Q := by
  refine .inl ⟨r, fun s hs ↦ ?_⟩
  obtain ⟨s', hrun, hQ⟩ := hop s hs
  refine ⟨s', ?_, hQ⟩
  rw [perform, run_call, hrun]
  rfl

/-- **The rule of sequence.** The value of the first program is the same from everywhere, so the
second one is one program. -/
theorem Uniform.bind {K : α → σ → Prop} {Q : β → σ → Prop} {p : Prog I α} {f : α → Prog I β}
    (hp : p.Uniform h J K) (hf : ∀ a, (f a).Uniform h (K a) Q) : (p >>= f).Uniform h J Q := by
  rcases hp with ⟨a, hok⟩ | ⟨e, herror⟩
  · rcases hf a with ⟨c, hnext⟩ | ⟨e, hnext⟩
    · refine .inl ⟨c, fun s hs ↦ ?_⟩
      obtain ⟨t, hrun, ht⟩ := hok s hs
      obtain ⟨s', hrun', hs'⟩ := hnext t ht
      refine ⟨s', ?_, hs'⟩
      rw [run_bind, hrun]
      exact hrun'
    · refine .inr ⟨e, fun s hs ↦ ?_⟩
      obtain ⟨t, hrun, ht⟩ := hok s hs
      rw [run_bind, hrun]
      exact hnext t ht
  · refine .inr ⟨e, fun s hs ↦ ?_⟩
    rw [run_bind, herror s hs]
    rfl

/-- **Two runs.** From two states they meet the same fault, or return the same value. -/
theorem Uniform.pair {Q : α → σ → Prop} {p : Prog I α} (hp : p.Uniform h J Q) {s t : σ} (hs : J s)
    (ht : J t) :
    (∃ e, p.run h s = .error e ∧ p.run h t = .error e) ∨
      ∃ a s' t', p.run h s = .ok (a, s') ∧ p.run h t = .ok (a, t') ∧ Q a s' ∧ Q a t' := by
  rcases hp with ⟨a, hok⟩ | ⟨e, herror⟩
  · obtain ⟨s', hrun, hs'⟩ := hok s hs
    obtain ⟨t', hrun', ht'⟩ := hok t ht
    exact .inr ⟨a, s', t', hrun, hrun', hs', ht'⟩
  · exact .inl ⟨e, herror s hs, herror t ht⟩

end Prog
