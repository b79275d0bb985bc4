import Mathlib.Logic.Basic
import Mathlib.Order.Basic

/-!
# Runs of a fallible step function

A machine that answers each input with a new state or stops with a fault is a function
`step : σ → ι → Except ε σ`, and its runs are `List.foldlM step`. Nothing here knows what the
states, the inputs or the faults are.

## Three ways to speak about a run

* `run step s is` is the outcome of the inputs `is` from `s`: a final state or the first fault.
* `Guarded step C s is` says that every input of the run met the condition `C` in the state it
  arrived in. A condition on steps is how a property that fails in general is confined to the runs
  on which it holds, so the two rules below take one.
* `Reachable step init s` forgets the inputs.

## The rules

* `Guarded.invariant` and `Guarded.not_fault` lift one step's lemma to a run: what a guarded step
  preserves, a guarded run preserves, and a fault no guarded step raises, no guarded run raises.
* `Guarded.congr` replaces the condition by another that agrees with it under an invariant.
* `Guarded.forall_take_iff` turns a property of all the states a run passes through into a guard,
  and so does `Guarded.forall_take_exists_iff` where the run has to succeed as well.
* `Guarded.note_iff` takes a guard to the machine that notes what has happened so far.
* `Reachable.invariant` is the same for reachable states.
* `run_map` takes the runs of a machine to those of its abstraction, and `run_stutter` does where
  the abstraction does not see every step.
* `SameOutcome.run` is the simulation rule: two machines whose steps agree on related states agree
  on runs, fault for fault. `SameOutcome.run_filterMap` is the same where one machine passes only
  some of its inputs on to the other, `SameOutcome.trans` chains two simulations, and
  `SameOutcome.run_iff` says when the machines agree in what is observed.
-/

namespace Fallible

universe u v w

variable {α β σ τ : Type u} {ι : Type v} {ε : Type w}

/-! ### Binding outcomes -/

@[simp] theorem ok_bind (a : α) (f : α → Except ε β) : (Except.ok a >>= f) = f a := rfl

@[simp] theorem error_bind (e : ε) (f : α → Except ε β) :
    (Except.error e >>= f) = Except.error e := rfl

@[simp] theorem pure_eq_ok (a : α) : (pure a : Except ε α) = .ok a := rfl

/-- **Inversion of a bind.** A sequence succeeds exactly when both halves do. -/
theorem bind_eq_ok {x : Except ε α} {f : α → Except ε β} {b : β} :
    (x >>= f) = .ok b ↔ ∃ a, x = .ok a ∧ f a = .ok b := by
  cases x with
  | error e => simp
  | ok a => simp

/-- Inversion of a failing bind: the first half fails, or it succeeds and what follows it fails. -/
theorem bind_eq_error {x : Except ε α} {f : α → Except ε β} {e : ε} :
    (x >>= f) = .error e ↔ x = .error e ∨ ∃ a, x = .ok a ∧ f a = .error e := by
  cases x with
  | error e' => simp
  | ok a => simp

/-- A last step that only computes. Many functions of a model end so, and `bind_eq_ok` alone
would leave an equation between two `Except.ok`s behind. -/
theorem bind_map_eq_ok {x : Except ε α} {g : α → β} {b : β} :
    (x >>= fun a ↦ .ok (g a)) = .ok b ↔ ∃ a, x = .ok a ∧ g a = b := by
  rw [bind_eq_ok]
  simp only [Except.ok.injEq]

/-- A last step that only computes adds no fault. -/
theorem bind_map_eq_error {x : Except ε α} {g : α → β} {e : ε} :
    (x >>= fun a ↦ .ok (g a)) = .error e ↔ x = .error e := by
  rw [bind_eq_error]
  simp only [reduceCtorEq, and_false, exists_false, or_false]

/-! ### Runs -/

/-- The outcome of the inputs `is` from state `s`: the state after the last of them, or the fault
of the first one that faults, with nothing after it. -/
def run (step : σ → ι → Except ε σ) (s : σ) (is : List ι) : Except ε σ :=
  is.foldlM step s

variable {step : σ → ι → Except ε σ}

@[simp] theorem run_nil (s : σ) : run step s [] = .ok s := rfl

@[simp] theorem run_cons (s : σ) (i : ι) (is : List ι) :
    run step s (i :: is) = step s i >>= fun s' ↦ run step s' is := rfl

/-- A run in two parts. -/
theorem run_append (s : σ) (is js : List ι) :
    run step s (is ++ js) = run step s is >>= fun t ↦ run step t js :=
  List.foldlM_append

/-- **The abstraction rule.** If a map takes each step from a state that meets the invariant to a
step of another machine, it takes runs to runs. -/
theorem run_map {I : σ → Prop} {φ : σ → τ} {step' : τ → ι → Except ε τ}
    (hstep : ∀ s i s', I s → step s i = .ok s' → I s')
    (hmap : ∀ s i, I s → (step s i).map φ = step' (φ s) i) {s : σ} {is : List ι} (hI : I s) :
    (run step s is).map φ = run step' (φ s) is := by
  induction is generalizing s with
  | nil => rfl
  | cons i is ih =>
    rw [run_cons, run_cons, ← hmap s i hI]
    rcases hs : step s i with e | s'
    · rfl
    · exact ih (hstep s i s' hI hs)

/-! ### Guarded runs -/

/-- Every input of the run meets `C` in the state it arrives in. A run that stops early has no
later input to speak about. -/
def Guarded (step : σ → ι → Except ε σ) (C : σ → ι → Prop) : σ → List ι → Prop
  | _, [] => True
  | s, i :: is => C s i ∧ ∀ s', step s i = .ok s' → Guarded step C s' is

namespace Guarded

variable {C D : σ → ι → Prop}

@[simp] theorem nil (s : σ) : Guarded step C s [] := trivial

/-- The guard of a run whose first step succeeds. -/
theorem cons_ok {s t : σ} {i : ι} {is : List ι} (h : step s i = .ok t) :
    Guarded step C s (i :: is) ↔ C s i ∧ Guarded step C t is := by
  refine and_congr_right fun _ ↦ ⟨fun hg ↦ hg t h, fun hg s' hs ↦ ?_⟩
  cases h.symm.trans hs
  exact hg

/-- A weaker condition guards at least the same runs. -/
theorem mono (h : ∀ s i, C s i → D s i) {s : σ} {is : List ι} (hg : Guarded step C s is) :
    Guarded step D s is := by
  induction is generalizing s with
  | nil => trivial
  | cons i is ih => exact ⟨h s i hg.1, fun s' hs ↦ ih (hg.2 s' hs)⟩

/-- Two guards of a run are one guard by the conjunction. Each is about the same states, since
the run decides which states there are. -/
theorem and {s : σ} {is : List ι} (hC : Guarded step C s is) (hD : Guarded step D s is) :
    Guarded step (fun s i ↦ C s i ∧ D s i) s is := by
  induction is generalizing s with
  | nil => trivial
  | cons i is ih => exact ⟨⟨hC.1, hD.1⟩, fun s' hs ↦ ih (hC.2 s' hs) (hD.2 s' hs)⟩

/-- A condition that does not depend on the state. -/
theorem of_forall {P : ι → Prop} {s : σ} {is : List ι} (h : ∀ i ∈ is, P i) :
    Guarded step (fun _ ↦ P) s is := by
  induction is generalizing s with
  | nil => trivial
  | cons i is ih =>
    exact ⟨h i List.mem_cons_self, fun s' _ ↦ ih fun j hj ↦ h j (List.mem_cons_of_mem i hj)⟩

/-- A prefix of a guarded run is guarded. This is the form in which a guard is used on the
prefixes that a statement about all states of a run speaks of. -/
theorem of_append {s : σ} {is js : List ι} (hg : Guarded step C s (is ++ js)) :
    Guarded step C s is := by
  induction is generalizing s with
  | nil => trivial
  | cons i is ih => exact ⟨hg.1, fun s' hs ↦ ih (hg.2 s' hs)⟩

/-- The guard of a run in two parts. -/
theorem append {s t : σ} {is js : List ι} (hg : Guarded step C s is) (h : run step s is = .ok t)
    (hg' : Guarded step C t js) : Guarded step C s (is ++ js) := by
  induction is generalizing s with
  | nil =>
    cases h
    exact hg'
  | cons i is ih =>
    obtain ⟨u, hu, h⟩ := bind_eq_ok.1 h
    exact (cons_ok hu).2 ⟨hg.1, ih (hg.2 u hu) h⟩

/-- **The invariant rule.** What every guarded step preserves, a guarded run preserves. -/
theorem invariant {I : σ → Prop}
    (hstep : ∀ s i s', I s → C s i → step s i = .ok s' → I s') {s s' : σ} {is : List ι}
    (hg : Guarded step C s is) (hI : I s) (hs : run step s is = .ok s') : I s' := by
  induction is generalizing s with
  | nil =>
    cases hs
    exact hI
  | cons i is ih =>
    obtain ⟨t, ht, hs⟩ := bind_eq_ok.1 hs
    exact ih (hg.2 t ht) (hstep s i t hI hg.1 ht) hs

/-- **The safety rule.** A fault that no guarded step raises under the invariant is raised by no
guarded run. -/
theorem not_fault {I : σ → Prop} {e : ε}
    (hstep : ∀ s i s', I s → C s i → step s i = .ok s' → I s')
    (hfault : ∀ s i, I s → C s i → step s i ≠ .error e) {s : σ} {is : List ι}
    (hg : Guarded step C s is) (hI : I s) : run step s is ≠ .error e := by
  induction is generalizing s with
  | nil => simp
  | cons i is ih =>
    intro h
    rcases bind_eq_error.1 h with h | ⟨t, ht, h⟩
    · exact hfault s i hI hg.1 h
    · exact ih (hg.2 t ht) (hstep s i t hI hg.1 ht) h

/-- Two conditions that agree under an invariant guard the same runs. The invariant has to be
kept by the steps that meet only one of the two, since the other one is what is to be shown. -/
theorem congr {I : σ → Prop} (hstep : ∀ s i s', I s → C s i → step s i = .ok s' → I s')
    (hiff : ∀ s i, I s → (D s i ↔ C s i)) {s : σ} {is : List ι} (hI : I s) :
    Guarded step D s is ↔ Guarded step C s is := by
  induction is generalizing s with
  | nil => exact Iff.rfl
  | cons i is ih =>
    refine (and_congr_left' (hiff s i hI)).trans (and_congr_right fun hC ↦ ?_)
    exact forall_congr' fun s' ↦ imp_congr_right fun hs ↦ ih (hstep s i s' hI hC hs)

/-- **A property of every state a run passes through** is the property of the first state and a
guard on each step. -/
theorem forall_take_iff {Q : σ → Prop} {s : σ} {is : List ι} :
    (∀ n s', run step s (is.take n) = .ok s' → Q s') ↔
      Q s ∧ Guarded step (fun s i ↦ ∀ s', step s i = .ok s' → Q s') s is := by
  induction is generalizing s with
  | nil => simp [Guarded]
  | cons i is ih =>
    constructor
    · intro h
      -- a prefix of the tail is a prefix of the run, one input longer
      have htail (t : σ) (ht : step s i = .ok t) := ih.1 fun n s' hs ↦
        h (n + 1) s' (bind_eq_ok.2 ⟨t, ht, hs⟩)
      exact ⟨h 0 s rfl, fun t ht ↦ (htail t ht).1, fun t ht ↦ (htail t ht).2⟩
    · rintro ⟨hs, hQ, hg⟩ n s' h
      cases n with
      | zero =>
        cases h
        exact hs
      | succ n =>
        obtain ⟨t, ht, h⟩ := bind_eq_ok.1 h
        exact ih.2 ⟨hQ t ht, hg t ht⟩ n s' h

/-- **The exact guard.** If a step from a state that meets `Q` succeeds in `Q` exactly when it meets
`C`, then every prefix of a run succeeds in `Q` exactly when the run is guarded by `C`. -/
theorem forall_take_exists_iff {Q : σ → Prop}
    (hstep : ∀ s i, Q s → ((∃ s', step s i = .ok s' ∧ Q s') ↔ C s i)) {s : σ} {is : List ι}
    (hQ : Q s) : (∀ n, ∃ s', run step s (is.take n) = .ok s' ∧ Q s') ↔ Guarded step C s is := by
  induction is generalizing s with
  | nil => exact iff_of_true (fun n ↦ ⟨s, by simp, hQ⟩) trivial
  | cons i is ih =>
    constructor
    · intro h
      obtain ⟨s', hs', hQ'⟩ := h 1
      obtain ⟨t, ht, hs'⟩ := bind_eq_ok.1 hs'
      cases hs'
      refine (cons_ok ht).2 ⟨(hstep s i hQ).1 ⟨s', ht, hQ'⟩, (ih hQ').1 fun n ↦ ?_⟩
      have hn := h (n + 1)
      rwa [List.take_succ_cons, run_cons, ht] at hn
    · intro hg n
      obtain ⟨t, ht, hQ'⟩ := (hstep s i hQ).2 hg.1
      cases n with
      | zero => exact ⟨s, rfl, hQ⟩
      | succ n =>
        rw [List.take_succ_cons, run_cons, ht]
        exact (ih hQ').2 (hg.2 t ht) n

end Guarded

/-! ### Notes -/

/-- The machine with a note beside its state. Each step brings the note up to date, and none reads
it, so that a condition may speak of what has happened so far. -/
def noteStep (step : σ → ι → Except ε σ) (note : σ → ι → τ → τ) (t : σ × τ) (i : ι) :
    Except ε (σ × τ) :=
  step t.1 i >>= fun s ↦ .ok (s, note t.1 i t.2)

/-- Every run can be noted: the note is no part of the machine, so it neither stops a run nor
changes where it leads. -/
theorem run_note (note : σ → ι → τ → τ) {s s' : σ} {is : List ι} (h : run step s is = .ok s')
    (t : τ) : ∃ t', run (noteStep step note) (s, t) is = .ok (s', t') := by
  induction is generalizing s t with
  | nil =>
    cases h
    exact ⟨t, rfl⟩
  | cons i is ih =>
    obtain ⟨u, hu, h⟩ := bind_eq_ok.1 h
    obtain ⟨t', ht'⟩ := ih h (note s i t)
    exact ⟨t', bind_eq_ok.2 ⟨_, bind_eq_ok.2 ⟨u, hu, rfl⟩, ht'⟩⟩

/-- A condition that does not look at the note guards the same runs with it. So a guard stated on
the machine alone may be used next to one that needs the note. -/
theorem Guarded.note_iff {C : σ → ι → Prop} (note : σ → ι → τ → τ) (t : τ) {s : σ}
    {is : List ι} :
    Guarded (noteStep step note) (fun t ↦ C t.1) (s, t) is ↔ Guarded step C s is := by
  induction is generalizing s t with
  | nil => exact Iff.rfl
  | cons i is ih =>
    refine and_congr_right fun _ ↦ ⟨fun h s' hs ↦ ?_, fun h x hx ↦ ?_⟩
    · exact (ih _).1 (h (s', note s i t) (bind_eq_ok.2 ⟨s', hs, rfl⟩))
    · obtain ⟨s', hs, hx⟩ := bind_eq_ok.1 hx
      cases hx
      exact (ih _).2 (h s' hs)

/-! ### Stuttering -/

/-- **The rule for a machine that does more than its abstraction shows.** If every step is matched
by some inputs of another machine, possibly none, with the same observations and under the same
guard, so is every run. -/
theorem run_stutter {κ ω : Type v} {ε' : Type w} {I : σ → Prop} (φ : σ → τ)
    (step' : τ → κ → Except ε' τ) (obs : ι → List ω) (obs' : κ → List ω) (C : σ → ι → Prop)
    (C' : τ → κ → Prop)
    (hstep : ∀ s i s', I s → step s i = .ok s' → I s' ∧
      ∃ js, run step' (φ s) js = .ok (φ s') ∧ js.flatMap obs' = obs i ∧
        (C s i → Guarded step' C' (φ s) js))
    {s s' : σ} {is : List ι} (hI : I s) (h : run step s is = .ok s') :
    I s' ∧ ∃ js, run step' (φ s) js = .ok (φ s') ∧ js.flatMap obs' = is.flatMap obs ∧
      (Guarded step C s is → Guarded step' C' (φ s) js) := by
  induction is generalizing s with
  | nil =>
    cases h
    exact ⟨hI, [], rfl, rfl, fun _ ↦ trivial⟩
  | cons i is ih =>
    obtain ⟨t, ht, h⟩ := bind_eq_ok.1 h
    obtain ⟨hIt, js, hjs, hobs, hguard⟩ := hstep s i t hI ht
    obtain ⟨hI', js', hjs', hobs', hguard'⟩ := ih hIt h
    refine ⟨hI', js ++ js', ?_, ?_, fun hg ↦ ?_⟩
    · rw [run_append, hjs]
      exact hjs'
    · rw [List.flatMap_append, hobs, hobs', List.flatMap_cons]
    · exact (hguard hg.1).append hjs (hguard' (hg.2 t ht))

/-! ### Reachable states -/

/-- The states some run reaches from an initial state. -/
inductive Reachable (step : σ → ι → Except ε σ) (init : σ → Prop) : σ → Prop
  /-- Initial states are reached by the empty run. -/
  | start {s : σ} : init s → Reachable step init s
  /-- One more step. -/
  | next {s s' : σ} {i : ι} : Reachable step init s → step s i = .ok s' → Reachable step init s'

namespace Reachable

variable {init : σ → Prop}

/-- **The rule for reachable states.** It has no condition on the steps; where a step keeps the
invariant only under one, the statement is about `Guarded` runs. -/
theorem invariant {I : σ → Prop} (hinit : ∀ s, init s → I s)
    (hstep : ∀ s i s', I s → step s i = .ok s' → I s') {s : σ}
    (h : Reachable step init s) : I s := by
  induction h with
  | start h => exact hinit _ h
  | next _ hs ih => exact hstep _ _ _ ih hs

/-- A run from a reachable state leads to one. -/
theorem run {s s' : σ} (h : Reachable step init s) {is : List ι}
    (hs' : Fallible.run step s is = .ok s') : Reachable step init s' := by
  induction is generalizing s with
  | nil =>
    cases hs'
    exact h
  | cons i is ih =>
    obtain ⟨t, ht, hs'⟩ := bind_eq_ok.1 hs'
    exact ih (h.next ht) hs'

end Reachable

/-! ### Simulation -/

/-- Two outcomes agree: related states, or the same fault. -/
def SameOutcome (R : σ → τ → Prop) : Except ε σ → Except ε τ → Prop
  | .ok s, .ok t => R s t
  | .error e, .error e' => e = e'
  | _, _ => False

/-- **The simulation rule.** If guarded steps of one machine agree with the steps of another on
related states, then guarded runs agree. -/
theorem SameOutcome.run {R : σ → τ → Prop} {C : σ → ι → Prop} {step' : τ → ι → Except ε τ}
    (hstep : ∀ s t i, R s t → C s i → SameOutcome R (step s i) (step' t i))
    {s : σ} {t : τ} {is : List ι} (hg : Guarded step C s is) (hR : R s t) :
    SameOutcome R (Fallible.run step s is) (Fallible.run step' t is) := by
  induction is generalizing s t with
  | nil => exact hR
  | cons i is ih =>
    have h := hstep s t i hR hg.1
    rw [run_cons, run_cons]
    rcases hs : step s i with e | s' <;> rcases ht : step' t i with e' | t'
    · rw [hs, ht] at h
      exact h
    · rw [hs, ht] at h
      exact h.elim
    · rw [hs, ht] at h
      exact h.elim
    · rw [hs, ht] at h
      exact ih (hg.2 s' hs) h

/-- Outcomes that agree have the same fault, if any. -/
theorem SameOutcome.error_iff {R : σ → τ → Prop} {x : Except ε σ} {y : Except ε τ}
    (h : SameOutcome R x y) {e : ε} : x = .error e ↔ y = .error e := by
  cases x with
  | error e' =>
    cases y with
    | error e'' =>
      rw [show e' = e'' from h]
      simp only [Except.error.injEq]
    | ok t => exact h.elim
  | ok s =>
    cases y with
    | error e'' => exact h.elim
    | ok t => simp only [reduceCtorEq]

/-- Where the first machine goes on, so does the second, and in a related state. -/
theorem SameOutcome.of_ok {R : σ → τ → Prop} {x : Except ε σ} {y : Except ε τ}
    (h : SameOutcome R x y) {s : σ} (hx : x = .ok s) : ∃ t, y = .ok t ∧ R s t := by
  rw [hx] at h
  cases y with
  | error e => exact h.elim
  | ok t => exact ⟨t, rfl, h⟩

/-- The same from the second machine to the first. -/
theorem SameOutcome.of_ok_right {R : σ → τ → Prop} {x : Except ε σ} {y : Except ε τ}
    (h : SameOutcome R x y) {t : τ} (hy : y = .ok t) : ∃ s, x = .ok s ∧ R s t := by
  rw [hy] at h
  cases x with
  | error e => exact h.elim
  | ok s => exact ⟨s, rfl, h⟩

/-- A weaker relation on the states. -/
theorem SameOutcome.mono {R V : σ → τ → Prop} (h : ∀ s t, R s t → V s t) {x : Except ε σ}
    {y : Except ε τ} (hxy : SameOutcome R x y) : SameOutcome V x y := by
  cases x with
  | error e =>
    cases y with
    | error e' => exact hxy
    | ok t => exact hxy
  | ok s =>
    cases y with
    | error e' => exact hxy
    | ok t => exact h s t hxy

/-- Maps on both sides, with the relation pulled back along them. -/
theorem SameOutcome.map {σ' τ' : Type u} {φ : σ → σ'} {ψ : τ → τ'} {V : σ' → τ' → Prop}
    {x : Except ε σ} {y : Except ε τ} (h : SameOutcome (fun s t ↦ V (φ s) (ψ t)) x y) :
    SameOutcome V (x.map φ) (y.map ψ) := by
  cases x <;> cases y <;> exact h

/-- Related states go on to agree if each pair of them does. -/
theorem SameOutcome.bind {R : σ → τ → Prop} {σ' τ' : Type u} {V : σ' → τ' → Prop} {x : Except ε σ}
    {y : Except ε τ} {f : σ → Except ε σ'} {g : τ → Except ε τ'} (h : SameOutcome R x y)
    (hfg : ∀ s t, R s t → SameOutcome V (f s) (g t)) : SameOutcome V (x >>= f) (y >>= g) := by
  cases x with
  | error e =>
    cases y with
    | error e' => exact h
    | ok t => exact h.elim
  | ok s =>
    cases y with
    | error e' => exact h.elim
    | ok t => exact hfg s t h

/-- **Simulations compose.** The middle state is what the composed relation asks for. -/
theorem SameOutcome.trans {R : σ → τ → Prop} {ρ : Type u} {V : τ → ρ → Prop} {x : Except ε σ}
    {y : Except ε τ} {z : Except ε ρ} (h : SameOutcome R x y) (h' : SameOutcome V y z) :
    SameOutcome (fun s u ↦ ∃ t, R s t ∧ V t u) x z := by
  cases y with
  | error e =>
    cases x with
    | ok s => exact h.elim
    | error e' =>
      cases z with
      | ok u => exact h'.elim
      | error e'' => exact Eq.trans h h'
  | ok t =>
    cases x with
    | error e => exact h.elim
    | ok s =>
      cases z with
      | error e => exact h'.elim
      | ok u => exact ⟨t, h, h'⟩

/-- **The simulation rule for inputs that only some of the steps pass on.** The others leave the
states related. -/
theorem SameOutcome.run_filterMap {κ : Type v} {R : σ → τ → Prop} {step' : τ → κ → Except ε τ}
    {f : ι → Option κ}
    (hsome : ∀ s t i j, R s t → f i = some j → SameOutcome R (step s i) (step' t j))
    (hnone : ∀ s t i, R s t → f i = none → ∃ s', step s i = .ok s' ∧ R s' t)
    {s : σ} {t : τ} (hR : R s t) (is : List ι) :
    SameOutcome R (Fallible.run step s is) (Fallible.run step' t (is.filterMap f)) := by
  induction is generalizing s t with
  | nil => exact hR
  | cons i is ih =>
    rw [run_cons]
    rcases hi : f i with - | j
    · obtain ⟨s', hs', hR'⟩ := hnone s t i hR hi
      rw [List.filterMap_cons_none hi, hs']
      exact ih hR'
    · rw [List.filterMap_cons_some hi, run_cons]
      exact (hsome s t i j hR hi).bind fun s' t' hR' ↦ ih hR'

/-- **The simulation rule for what is observed.** `R` is what the induction needs and `V` what one
looks at. If the condition keeps steps in `R`, and steps that agree in `V` met the condition, then
the two machines agree in `V` all along the run exactly on the guarded runs. -/
theorem SameOutcome.run_iff {R V : σ → τ → Prop} {C : σ → ι → Prop} {step' : τ → ι → Except ε τ}
    (hRV : ∀ s t, R s t → V s t)
    (hstep : ∀ s t i, R s t → C s i → SameOutcome R (step s i) (step' t i))
    (hobs : ∀ s t i, R s t → SameOutcome V (step s i) (step' t i) → C s i)
    {s : σ} {t : τ} {is : List ι} (hR : R s t) :
    (∀ n, SameOutcome V (Fallible.run step s (is.take n)) (Fallible.run step' t (is.take n))) ↔
      Guarded step C s is := by
  constructor
  · intro h
    induction is generalizing s t with
    | nil => trivial
    | cons i is ih =>
      -- the prefix of one input is the step
      have hone : SameOutcome V (step s i) (step' t i) := by
        have hone := h 1
        rw [List.take_succ_cons, List.take_zero, run_cons, run_cons] at hone
        revert hone
        cases step s i <;> cases step' t i <;> exact id
      have hC := hobs s t i hR hone
      refine ⟨hC, fun s' hs ↦ ?_⟩
      have hRst := hstep s t i hR hC
      rcases ht : step' t i with e | t'
      · rw [hs, ht] at hRst
        exact hRst.elim
      -- and a longer one goes on from the states it reached
      · rw [hs, ht] at hRst
        refine ih hRst fun n ↦ ?_
        have hn := h (n + 1)
        rwa [List.take_succ_cons, run_cons, run_cons, hs, ht] at hn
  · intro hg n
    rw [← List.take_append_drop n is] at hg
    exact (SameOutcome.run hstep hg.of_append hR).mono hRV

end Fallible
