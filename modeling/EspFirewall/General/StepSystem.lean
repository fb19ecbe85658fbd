import Mathlib.Data.List.Basic

/-!
# Runs of a step function

A program that waits for an input, handles it and waits again is a function `step : σ → ι → σ`.
This file is the vocabulary for speaking about its runs.

* `StepSystem.run` — the state a list of inputs leads to.
* `StepSystem.EveryState P` — `P` holds of every state of a run, the one it starts in included.
* `StepSystem.EveryStep C` — `C` holds of every step, that is of each input and the state it finds.
* `StepSystem.outputs` — what the steps of a run put out, one after the other.
* `StepSystem.Reachable` — the states some run from an initial state ends in.

Two rules do all the work.  `Reachable.invariant` is the usual one: what holds initially and is
preserved holds of every reachable state.  `everyState_iff_everyStep` is for a property that is
*not* preserved by every step: if a step from a good state leads to a good state exactly when `C`
holds of it, then all the states of a run are good exactly when `C` holds of all its steps.  It
takes an auxiliary invariant, which only has to survive the steps that `C` holds of, and a
restriction on the runs, for systems whose environment promises something about the inputs.
-/

set_option autoImplicit false

namespace StepSystem

universe u v

variable {σ : Type u} {ι : Type v} (step : σ → ι → σ)

/-- The state a list of inputs leads to. -/
def run (s : σ) (is : List ι) : σ := is.foldl step s

/-- `P` holds of every state of the run, the first one included. -/
def EveryState (P : σ → Prop) : σ → List ι → Prop
  | s, [] => P s
  | s, i :: is => P s ∧ EveryState P (step s i) is

/-- `C` holds of every step of the run: of each input and the state that input finds. -/
def EveryStep (C : σ → ι → Prop) : σ → List ι → Prop
  | _, [] => True
  | s, i :: is => C s i ∧ EveryStep C (step s i) is

/-- What the steps of a run put out, in order. -/
def outputs {ω : Type*} (out : σ → ι → List ω) : σ → List ι → List ω
  | _, [] => []
  | s, i :: is => out s i ++ outputs out (step s i) is

/-- The states that some run from an initial state ends in. -/
inductive Reachable (init : σ → Prop) : σ → Prop
  | init {s : σ} (h : init s) : Reachable init s
  | step {s : σ} (h : Reachable init s) (i : ι) : Reachable init (step s i)

variable {step}

theorem run_concat (s : σ) (is : List ι) (i : ι) :
    run step s (is ++ [i]) = step (run step s is) i := by
  rw [run, List.foldl_append]
  rfl

theorem outputs_append {ω : Type*} (out : σ → ι → List ω) (s : σ) (is js : List ι) :
    outputs step out s (is ++ js) = outputs step out s is ++ outputs step out (run step s is) js := by
  induction is generalizing s with
  | nil => rfl
  | cons i is ih =>
    rw [List.cons_append, outputs, outputs, ih, List.append_assoc]
    rfl

/-- What a step puts out in any state. -/
theorem outputs_eq_filterMap {ω : Type*} (f : ι → Option ω) (s : σ) (is : List ι) :
    outputs step (fun _ i => (f i).toList) s is = is.filterMap f := by
  induction is generalizing s with
  | nil => rfl
  | cons i is ih =>
    rw [outputs, ih, List.filterMap_cons]
    cases f i <;> rfl

theorem everyStep_concat {C : σ → ι → Prop} {s : σ} {is : List ι} {i : ι} :
    EveryStep step C s (is ++ [i]) ↔ EveryStep step C s is ∧ C (run step s is) i := by
  induction is generalizing s with
  | nil => exact ⟨fun h => ⟨trivial, h.1⟩, fun h => ⟨h.2, trivial⟩⟩
  | cons j is ih =>
    rw [List.cons_append, EveryStep, EveryStep, ih, and_assoc]
    rfl

theorem EveryState.head {P : σ → Prop} {s : σ} {is : List ι} (h : EveryState step P s is) :
    P s := by
  cases is with
  | nil => exact h
  | cons i is => exact h.1

/-- The property reaches the end of the run, in particular. -/
theorem EveryState.last {P : σ → Prop} {s : σ} {is : List ι} (h : EveryState step P s is) :
    P (run step s is) := by
  induction is generalizing s with
  | nil => exact h
  | cons i is ih => exact ih h.2

theorem EveryState.mono {P Q : σ → Prop} (hPQ : ∀ s, P s → Q s) {s : σ} {is : List ι}
    (h : EveryState step P s is) : EveryState step Q s is := by
  induction is generalizing s with
  | nil => exact hPQ s h
  | cons i is ih => exact ⟨hPQ s h.1, ih h.2⟩

theorem EveryState.and {P Q : σ → Prop} {s : σ} {is : List ι} (hP : EveryState step P s is)
    (hQ : EveryState step Q s is) : EveryState step (fun s => P s ∧ Q s) s is := by
  induction is generalizing s with
  | nil => exact ⟨hP, hQ⟩
  | cons i is ih => exact ⟨⟨hP.1, hQ.1⟩, ih hP.2 hQ.2⟩

/-- What every input does to a state with a property, it does at every step. -/
theorem EveryState.everyStep {P : σ → Prop} {C : σ → ι → Prop} (hPC : ∀ s i, P s → C s i) {s : σ}
    {is : List ι} (h : EveryState step P s is) : EveryStep step C s is := by
  induction is generalizing s with
  | nil => trivial
  | cons i is ih => exact ⟨hPC s i h.1, ih h.2⟩

theorem EveryStep.of_forall {C : σ → ι → Prop} (h : ∀ s i, C s i) {s : σ} {is : List ι} :
    EveryStep step C s is := by
  induction is generalizing s with
  | nil => trivial
  | cons i is ih => exact ⟨h s i, ih⟩

theorem EveryStep.and {C D : σ → ι → Prop} {s : σ} {is : List ι} (hC : EveryStep step C s is)
    (hD : EveryStep step D s is) : EveryStep step (fun s i => C s i ∧ D s i) s is := by
  induction is generalizing s with
  | nil => trivial
  | cons i is ih => exact ⟨⟨hC.1, hD.1⟩, ih hC.2 hD.2⟩

/-- Whether a condition holds of all steps can be computed. -/
instance EveryStep.decidable {C : σ → ι → Prop} [∀ s i, Decidable (C s i)] :
    (s : σ) → (is : List ι) → Decidable (EveryStep step C s is)
  | _, [] => inferInstanceAs (Decidable True)
  | s, i :: is =>
    have : Decidable (EveryStep step C (step s i) is) := EveryStep.decidable (step s i) is
    inferInstanceAs (Decidable (C s i ∧ EveryStep step C (step s i) is))

/-- A condition on the inputs alone. -/
theorem EveryStep.of_mem {C : ι → Prop} {s : σ} {is : List ι} (h : ∀ i ∈ is, C i) :
    EveryStep step (fun _ i => C i) s is := by
  induction is generalizing s with
  | nil => trivial
  | cons i is ih =>
    exact ⟨h i List.mem_cons_self, ih fun j hj => h j (List.mem_cons_of_mem i hj)⟩

theorem Reachable.run {init : σ → Prop} {s : σ} (h : Reachable step init s) (is : List ι) :
    Reachable step init (run step s is) := by
  induction is generalizing s with
  | nil => exact h
  | cons i is ih => exact ih (h.step i)

/-- **The invariant rule.** -/
theorem Reachable.invariant {init Inv : σ → Prop} (hinit : ∀ s, init s → Inv s)
    (hstep : ∀ s i, Inv s → Inv (step s i)) {s : σ} (h : Reachable step init s) : Inv s := by
  induction h with
  | init h => exact hinit _ h
  | step _ i ih => exact hstep _ i ih

/-- An invariant holds along the whole of a run, not only at its end. -/
theorem everyState_of_invariant {Inv : σ → Prop} {Legal : σ → ι → Prop}
    (hstep : ∀ s i, Legal s i → Inv s → Inv (step s i)) {s : σ} {is : List ι}
    (hlegal : EveryStep step Legal s is) (hs : Inv s) : EveryState step Inv s is := by
  induction is generalizing s with
  | nil => exact hs
  | cons i is ih => exact ⟨hs, ih hlegal.2 (hstep s i hlegal.1 hs)⟩

/-- **When a property can break.**  `Legal` is what the environment promises about the inputs and
`Inv` is whatever else has to be known about a good state.  If a legal step from a good state
leads to a good state exactly when `C` holds of it, then a legal run goes through good states only
exactly when `C` holds of all its steps. -/
theorem everyState_iff_everyStep {Inv P : σ → Prop} {Legal C : σ → ι → Prop}
    (hnext : ∀ s i, Legal s i → Inv s → P s → C s i → Inv (step s i) ∧ P (step s i))
    (honly : ∀ s i, Legal s i → Inv s → P s → P (step s i) → C s i)
    {s : σ} {is : List ι} (hlegal : EveryStep step Legal s is) (hinv : Inv s) (hP : P s) :
    EveryState step P s is ↔ EveryStep step C s is := by
  induction is generalizing s with
  | nil => exact iff_of_true hP trivial
  | cons i is ih =>
    constructor
    · rintro ⟨-, hrest⟩
      have hC : C s i := honly s i hlegal.1 hinv hP hrest.head
      have hgood := hnext s i hlegal.1 hinv hP hC
      exact ⟨hC, (ih hlegal.2 hgood.1 hgood.2).1 hrest⟩
    · rintro ⟨hC, hrest⟩
      have hgood := hnext s i hlegal.1 hinv hP hC
      exact ⟨hP, (ih hlegal.2 hgood.1 hgood.2).2 hrest⟩

/-- `everyState_iff_everyStep` for an environment that promises nothing. -/
theorem everyState_iff_everyStep' {Inv P : σ → Prop} {C : σ → ι → Prop}
    (hnext : ∀ s i, Inv s → P s → C s i → Inv (step s i) ∧ P (step s i))
    (honly : ∀ s i, Inv s → P s → P (step s i) → C s i)
    {s : σ} {is : List ι} (hinv : Inv s) (hP : P s) :
    EveryState step P s is ↔ EveryStep step C s is :=
  everyState_iff_everyStep (fun s i (_ : True) => hnext s i) (fun s i _ => honly s i)
    (EveryStep.of_forall fun _ _ => trivial) hinv hP

end StepSystem
