import Mathlib.Data.List.Induction

/-!
# Runs of a transition relation

`StepSystem` is about programs whose next state is a function of the input.  What several parties do
together is a relation instead: `Step s e s'` says that the event `e`, in which the observable part
of the step is written down, can lead from `s` to `s'`.

* `Transitions.Run`: the events that lead from one state to another.
* `Run.invariant`: what every step preserves.  `Run.invariant_of` is for what only some events
  preserve.
* `Run.exists_cause`: if something about the state has changed in a run, then one of its events can
  change it.  `Run.of_two_events` compares what two events of a run find.
* `Run.holds_until`: what an event brings about holds until another revokes it.
* `Run.simulates`: a run of one system seen as a run of another, in which it may stand still.
-/

set_option autoImplicit false

namespace Transitions

universe u v

variable {σ : Type u} {ε : Type v} (Step : σ → ε → σ → Prop)

/-- The events from one state to another. -/
inductive Run (s : σ) : List ε → σ → Prop
  | nil : Run s [] s
  | concat {es : List ε} {e : ε} {s' s'' : σ} (h : Run s es s') (he : Step s' e s'') :
    Run s (es ++ [e]) s''

variable {Step}

namespace Run

theorem of_concat {s s'' : σ} {es : List ε} {e : ε} (h : Run Step s (es ++ [e]) s'') :
    ∃ s', Run Step s es s' ∧ Step s' e s'' := by
  generalize hes : es ++ [e] = l at h
  cases h with
  | nil => exact absurd hes (List.append_ne_nil_of_right_ne_nil es (List.cons_ne_nil e []))
  | concat h he =>
    obtain ⟨rfl, hlast⟩ := List.append_inj' hes rfl
    obtain rfl := (List.cons.inj hlast).1
    exact ⟨_, h, he⟩

theorem eq_of_nil {s s' : σ} (h : Run Step s [] s') : s' = s := by
  generalize hes : [] = l at h
  cases h with
  | nil => rfl
  | concat => exact absurd hes.symm (List.append_ne_nil_of_right_ne_nil _ (List.cons_ne_nil _ []))

/-- The state between the first events of a run and the others. -/
theorem of_append {s s'' : σ} {es es' : List ε} (h : Run Step s (es ++ es') s'') :
    ∃ s', Run Step s es s' ∧ Run Step s' es' s'' := by
  induction es' using List.reverseRecOn generalizing s'' with
  | nil => exact ⟨s'', by rwa [List.append_nil] at h, .nil⟩
  | append_singleton es' e ih =>
    rw [← List.append_assoc] at h
    obtain ⟨t, ht, he⟩ := h.of_concat
    obtain ⟨s', hfirst, hrest⟩ := ih ht
    exact ⟨s', hfirst, hrest.concat he⟩

theorem of_cons {s s'' : σ} {e : ε} {es : List ε} (h : Run Step s (e :: es) s'') :
    ∃ s', Step s e s' ∧ Run Step s' es s'' := by
  rw [← List.singleton_append] at h
  obtain ⟨s', hfirst, hrest⟩ := h.of_append
  rw [← List.nil_append [e]] at hfirst
  obtain ⟨t, hnil, he⟩ := hfirst.of_concat
  obtain rfl := hnil.eq_of_nil
  exact ⟨s', he, hrest⟩

theorem append {s s' s'' : σ} {es es' : List ε} (h : Run Step s es s') (h' : Run Step s' es' s'') :
    Run Step s (es ++ es') s'' := by
  induction h' with
  | nil => rwa [List.append_nil]
  | concat _ he ih =>
    rw [← List.append_assoc]
    exact ih.concat he

/-- **The invariant rule**, for events that preserve it. -/
theorem invariant_of {Inv : σ → Prop} {Legal : ε → Prop}
    (hstep : ∀ s e s', Step s e s' → Legal e → Inv s → Inv s') {s s' : σ} {es : List ε}
    (h : Run Step s es s') (hlegal : ∀ e ∈ es, Legal e) (hs : Inv s) : Inv s' := by
  induction h with
  | nil => exact hs
  | @concat es e s' s'' _ he ih =>
    have hbefore := ih fun e he => hlegal e (List.mem_append_left _ he)
    exact hstep s' e s'' he (hlegal e (List.mem_append_right _ List.mem_cons_self)) hbefore

/-- The invariant rule, for what every event preserves. -/
theorem invariant {Inv : σ → Prop} (hstep : ∀ s e s', Step s e s' → Inv s → Inv s') {s s' : σ}
    {es : List ε} (h : Run Step s es s') (hs : Inv s) : Inv s' :=
  h.invariant_of (fun s e s' he (_ : True) => hstep s e s' he) (fun _ _ => trivial) hs

/-- **A change has a cause.**  If the two ends of a run differ in something that only some events
can change, then there is such an event in the run. -/
theorem exists_cause {α : Type*} (view : σ → α) {Inv : σ → Prop} {Cause : ε → Prop}
    (hinv : ∀ s e s', Step s e s' → Inv s → Inv s')
    (hframe : ∀ s e s', Step s e s' → Inv s → ¬ Cause e → view s' = view s) {s s' : σ}
    {es : List ε} (h : Run Step s es s') (hs : Inv s) (hview : view s' ≠ view s) :
    ∃ e ∈ es, Cause e := by
  by_contra hnone
  have hboth : ∀ t e t', Step t e t' → ¬ Cause e → Inv t ∧ view t = view s →
      Inv t' ∧ view t' = view s := fun t e t' he hcause ht =>
    ⟨hinv t e t' he ht.1, (hframe t e t' he ht.1 hcause).trans ht.2⟩
  exact hview (h.invariant_of hboth (fun e he hcause => hnone ⟨e, he, hcause⟩) ⟨hs, rfl⟩).2

/-- Two events of a run find the same, if the first is no cause of a change and there is none in
between. -/
theorem of_two_events {α : Type*} (view : σ → α) {Inv : σ → Prop} {Cause : ε → Prop}
    (hinv : ∀ s e s', Step s e s' → Inv s → Inv s')
    (hframe : ∀ s e s', Step s e s' → Inv s → ¬ Cause e → view s' = view s) {s s' : σ}
    {before between after : List ε} {e e' : ε} (he : ¬ Cause e)
    (h : Run Step s (before ++ e :: between ++ e' :: after) s') (hs : Inv s) :
    ∃ s₁ s₂ s₃ s₄, (Inv s₁ ∧ Step s₁ e s₂) ∧ (Inv s₃ ∧ Step s₃ e' s₄) ∧
      (view s₃ = view s₁ ∨ ∃ e ∈ between, Cause e) := by
  obtain ⟨s₃, hfirst, hlast⟩ := h.of_append
  obtain ⟨s₁, hbefore, hrest⟩ := hfirst.of_append
  obtain ⟨s₂, hstep, hbetween⟩ := hrest.of_cons
  obtain ⟨s₄, hstep', -⟩ := hlast.of_cons
  have hs₁ := hbefore.invariant hinv hs
  have hs₂ := hinv s₁ e s₂ hstep hs₁
  refine ⟨s₁, s₂, s₃, s₄, ⟨hs₁, hstep⟩, ⟨hbetween.invariant hinv hs₂, hstep'⟩, ?_⟩
  by_cases hsame : view s₃ = view s₂
  · exact .inl (hsame.trans (hframe s₁ e s₂ hstep hs₁ he))
  · exact .inr (hbetween.exists_cause view hinv hframe hs₂ hsame)

/-- **What an event brings about holds until it is revoked**: it holds after every run from there
that has no revocation in it. -/
theorem holds_until {Inv P : σ → Prop} {Revokes : ε → Prop}
    (hinv : ∀ s e s', Step s e s' → Inv s → Inv s')
    (hkeep : ∀ s e s', Step s e s' → Inv s → ¬ Revokes e → P s → P s') {s s' : σ}
    {before later : List ε} {e : ε} (h : Run Step s (before ++ e :: later) s') (hs : Inv s)
    (hbring : ∀ s s', Step s e s' → Inv s → P s') (hlater : ∀ x ∈ later, ¬ Revokes x) :
    Inv s' ∧ P s' := by
  obtain ⟨s₁, hbefore, hrest⟩ := h.of_append
  obtain ⟨s₂, hstep, hrun⟩ := hrest.of_cons
  have hs₁ := hbefore.invariant hinv hs
  have hboth : ∀ t x t', Step t x t' → ¬ Revokes x → Inv t ∧ P t → Inv t' ∧ P t' :=
    fun t x t' hx hrevokes ht => ⟨hinv t x t' hx ht.1, hkeep t x t' hx ht.1 hrevokes ht.2⟩
  exact hrun.invariant_of hboth hlater ⟨hinv s₁ e s₂ hstep hs₁, hbring s₁ s₂ hstep hs₁⟩

/-- **A run is a run of another system**, in which each of its events is an event or none. -/
theorem simulates {τ δ : Type*} {Step' : τ → δ → τ → Prop} {abs : σ → τ} {obs : ε → Option δ}
    {Inv : σ → Prop} {Legal : ε → Prop} (hinv : ∀ s e s', Step s e s' → Inv s → Inv s')
    (hstep : ∀ s e s', Step s e s' → Legal e → Inv s →
      (∃ d, obs e = some d ∧ Step' (abs s) d (abs s')) ∨ obs e = none ∧ abs s' = abs s)
    {s s' : σ} {es : List ε} (h : Run Step s es s') (hlegal : ∀ e ∈ es, Legal e) (hs : Inv s) :
    Run Step' (abs s) (es.filterMap obs) (abs s') := by
  induction h with
  | nil => exact .nil
  | @concat es e s' s'' h he ih =>
    have hbefore := ih fun e he => hlegal e (List.mem_append_left _ he)
    have hlast := hstep s' e s'' he (hlegal e (List.mem_append_right _ List.mem_cons_self))
      (h.invariant hinv hs)
    rw [List.filterMap_append]
    rcases hlast with ⟨d, hobs, hstep'⟩ | ⟨hobs, hsame⟩
    · rw [List.filterMap_cons_some hobs, List.filterMap_nil]
      exact hbefore.concat hstep'
    · rw [List.filterMap_cons_none hobs, List.filterMap_nil, List.append_nil, hsame]
      exact hbefore

end Run

end Transitions
