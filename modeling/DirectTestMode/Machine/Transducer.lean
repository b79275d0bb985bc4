import DirectTestMode.Machine.Run

/-!
# Transducers

A transducer `t : σ → ι → σ × Option ρ` answers an input with its next state and at most one output.
It is what a polling loop is: the body runs on each poll, and now and then it returns. Unlike the
machines of `Fallible` it never stops, so a run of it has no outcome but its outputs.

* `outputs t s is` collects the outputs of the inputs `is` from `s`, and `after t s is` is the state
  they lead to. `outputs_append` cuts a run in two.
* `firstOutput t s is` is one call of the loop: it runs until there is an output and leaves the rest
  of the inputs for the next call. `outputs_of_firstOutput` says that repeated calls give `outputs`,
  so a property of the outputs is one of the values that the loop returns, call after call.
* `comp t u` feeds the outputs of `t` to `u`, and `outputs_comp` says that this is composition.
* `forall_outputs_iff` turns a property of all outputs into a guard on the steps. It is the rule for
  statements of the form "every output is right", and it is an equivalence, so that it also finds
  the runs on which they are not.

The guards are those of `Fallible`, on the machine `next t` that forgets the outputs; `guarded_cons`
spares the trivial outcome.
-/

namespace Transducer

open Fallible

universe u v w

variable {σ τ : Type u} {ι : Type v} {ρ ω : Type w}

section

variable (t : σ → ι → σ × Option ρ)

/-- The state the inputs lead to. -/
def after (s : σ) (is : List ι) : σ := is.foldl (fun s i ↦ (t s i).1) s

/-- The outputs, in order. -/
def outputs : σ → List ι → List ρ
  | _, [] => []
  | s, i :: is => (t s i).2.toList ++ outputs (t s i).1 is

/-- One call: the first output, with the state it leaves and the inputs it did not take. -/
def firstOutput : σ → List ι → Option (ρ × σ × List ι)
  | _, [] => none
  | s, i :: is =>
    match (t s i).2 with
    | some r => some (r, (t s i).1, is)
    | none => firstOutput (t s i).1 is

/-- A transducer as a machine that never fails. -/
def next (s : σ) (i : ι) : Except Empty σ := .ok (t s i).1

end

variable {t : σ → ι → σ × Option ρ}

@[simp] theorem after_nil (s : σ) : after t s [] = s := rfl

@[simp] theorem after_cons (s : σ) (i : ι) (is : List ι) :
    after t s (i :: is) = after t (t s i).1 is := rfl

@[simp] theorem outputs_nil (s : σ) : outputs t s [] = [] := rfl

@[simp] theorem outputs_cons (s : σ) (i : ι) (is : List ι) :
    outputs t s (i :: is) = (t s i).2.toList ++ outputs t (t s i).1 is := rfl

/-- **A run in two parts** puts out what its parts put out, the second from where the first has
led. -/
theorem outputs_append (s : σ) (is js : List ι) :
    outputs t s (is ++ js) = outputs t s is ++ outputs t (after t s is) js := by
  induction is generalizing s with
  | nil => rfl
  | cons i is ih =>
    rw [List.cons_append, outputs_cons, outputs_cons, ih, after_cons, List.append_assoc]

/-- **Repeated calls.** A run gives no more than what one call and the calls after it return. -/
theorem outputs_of_firstOutput (s : σ) (is : List ι) :
    outputs t s is = (firstOutput t s is).elim [] fun x ↦ x.1 :: outputs t x.2.1 x.2.2 := by
  induction is generalizing s with
  | nil => rfl
  | cons i is ih =>
    rw [outputs_cons, firstOutput]
    rcases (t s i).2 with - | r
    · exact ih (t s i).1
    · rfl

/-- What holds of the state after every output holds after a call. -/
theorem firstOutput_state {Q : σ → Prop} (hstep : ∀ s i, (t s i).2.isSome → Q (t s i).1) {s s' : σ}
    {is js : List ι} {r : ρ} (h : firstOutput t s is = some (r, s', js)) : Q s' := by
  induction is generalizing s with
  | nil => cases h
  | cons i is ih =>
    rw [firstOutput] at h
    rcases hi : (t s i).2 with - | r'
    · rw [hi] at h
      exact ih h
    · rw [hi] at h
      cases h
      exact hstep s i (by rw [hi]; rfl)

/-- The guard of a first step and of the steps after it. -/
theorem guarded_cons {C : σ → ι → Prop} {s : σ} {i : ι} {is : List ι} :
    Guarded (next t) C s (i :: is) ↔ C s i ∧ Guarded (next t) C (t s i).1 is :=
  Guarded.cons_ok rfl

/-- **A property of all outputs** is a guard on the steps, if on the steps that meet `K` it is the
condition `C`. -/
theorem forall_outputs_iff {K C : σ → ι → Prop} {P : ρ → Prop}
    (hstep : ∀ s i, K s i → ((∀ r ∈ (t s i).2, P r) ↔ C s i)) {s : σ} {is : List ι}
    (hK : Guarded (next t) K s is) : (∀ r ∈ outputs t s is, P r) ↔ Guarded (next t) C s is := by
  induction is generalizing s with
  | nil => exact iff_of_true (fun r hr ↦ absurd hr List.not_mem_nil) trivial
  | cons i is ih =>
    obtain ⟨hKi, hK⟩ := guarded_cons.1 hK
    simp only [outputs_cons, List.mem_append, Option.mem_toList, or_imp, forall_and, guarded_cons]
    exact and_congr (hstep s i hKi) (ih hK)

/-! ### Composition -/

/-- The outputs of `t` are the inputs of `u`. -/
def comp (t : σ → ι → σ × Option ρ) (u : τ → ρ → τ × Option ω) (s : σ × τ) (i : ι) :
    (σ × τ) × Option ω :=
  match t s.1 i with
  | (s', none) => ((s', s.2), none)
  | (s', some r) => ((s', (u s.2 r).1), (u s.2 r).2)

/-- **Composition.** The outputs of the composed transducer are those of `u` on the outputs of
`t`. -/
theorem outputs_comp {u : τ → ρ → τ × Option ω} (s : σ × τ) (is : List ι) :
    outputs (comp t u) s is = outputs u s.2 (outputs t s.1 is) := by
  induction is generalizing s with
  | nil => rfl
  | cons i is ih =>
    rw [outputs_cons, outputs_cons, ih, comp]
    rcases t s.1 i with ⟨s', - | r⟩
    · rfl
    · rfl

/-- The state of the composed transducer is the pair of the states, each after its own inputs. -/
theorem after_comp {u : τ → ρ → τ × Option ω} (s : σ × τ) (is : List ι) :
    after (comp t u) s is = (after t s.1 is, after u s.2 (outputs t s.1 is)) := by
  induction is generalizing s with
  | nil => rfl
  | cons i is ih =>
    rw [after_cons, after_cons, outputs_cons, ih, comp]
    rcases t s.1 i with ⟨s', - | r⟩
    · rfl
    · rfl

end Transducer
