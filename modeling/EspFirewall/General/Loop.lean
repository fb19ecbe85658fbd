import Mathlib.Logic.Relation
import Mathlib.Order.WellFounded
import Mathlib.Tactic.Common

/-!
# Loops that may not end

The body of a `while` loop either asks for another round, with a new state, or leaves the loop
with a result: it is a function `body : σ → σ ⊕ ρ`.  Nothing says that the loop ends, so
`Loop.exec` runs it for a number of rounds and `Loop.Halts` says that some number is enough.

The number of rounds is never part of a statement about what the loop computes: `exec_mono` says
that more rounds do not change the result and `Halts.unique` that there is only one, so that
`Halts body s r` is the relation "started in `s`, the loop returns `r`".  `Halts.invariant` is the
rule for reasoning about it.
-/

set_option autoImplicit false

namespace Loop

universe u v

variable {σ : Type u} {ρ : Type v} (body : σ → σ ⊕ ρ)

/-- Run the loop for at most `n` rounds; `none` when it has not ended by then. -/
def exec : ℕ → σ → Option ρ
  | 0, _ => none
  | n + 1, s =>
    match body s with
    | .inl s' => exec n s'
    | .inr r => some r

/-- Started in `s`, the loop ends and returns `r`. -/
def Halts (s : σ) (r : ρ) : Prop := ∃ n, exec body n s = some r

variable {body}

theorem exec_of_inl {s s' : σ} (h : body s = .inl s') (n : ℕ) :
    exec body (n + 1) s = exec body n s' := by rw [exec, h]

theorem exec_of_inr {s : σ} {r : ρ} (h : body s = .inr r) (n : ℕ) :
    exec body (n + 1) s = some r := by rw [exec, h]

/-- More rounds do not change the result. -/
theorem exec_mono {n : ℕ} {s : σ} {r : ρ} (h : exec body n s = some r) (k : ℕ) :
    exec body (n + k) s = some r := by
  induction n generalizing s with
  | zero => simp [exec] at h
  | succ n ih =>
    rw [Nat.succ_add]
    cases hb : body s with
    | inl s' => rw [exec_of_inl hb] at h ⊢; exact ih h
    | inr r' => rw [exec_of_inr hb] at h ⊢; exact h

theorem exec_unique {m n : ℕ} {s : σ} {r r' : ρ} (h : exec body m s = some r)
    (h' : exec body n s = some r') : r = r' := by
  have hm := exec_mono h n
  have hn := exec_mono h' m
  rw [Nat.add_comm n m] at hn
  exact Option.some.inj (hm.symm.trans hn)

theorem Halts.unique {s : σ} {r r' : ρ} (h : Halts body s r) (h' : Halts body s r') : r = r' := by
  obtain ⟨m, hm⟩ := h
  obtain ⟨n, hn⟩ := h'
  exact exec_unique hm hn

/-- The last round. -/
theorem Halts.of_inr {s : σ} {r : ρ} (h : body s = .inr r) : Halts body s r :=
  ⟨1, exec_of_inr h 0⟩

/-- A round that is not the last. -/
theorem Halts.of_inl {s s' : σ} {r : ρ} (h : body s = .inl s') (hr : Halts body s' r) :
    Halts body s r := by
  obtain ⟨n, hn⟩ := hr
  exact ⟨n + 1, by rw [exec_of_inl h, hn]⟩

/-- **The invariant rule**: what every round preserves holds when the loop is left. -/
theorem Halts.invariant {P : σ → Prop} {Q : ρ → Prop}
    (hround : ∀ s s', P s → body s = .inl s' → P s') (hleave : ∀ s r, P s → body s = .inr r → Q r)
    {s : σ} {r : ρ} (hs : P s) (h : Halts body s r) : Q r := by
  obtain ⟨n, hn⟩ := h
  induction n generalizing s with
  | zero => exact nomatch hn
  | succ n ih =>
    rcases hb : body s with s' | r'
    · rw [exec_of_inl hb] at hn
      exact ih (hround s s' hs hb) hn
    · rw [exec_of_inr hb, Option.some.injEq] at hn
      exact hn ▸ hleave s r' hs hb

/-- **The simulation rule**: a loop whose rounds follow those of another has its results. -/
theorem Halts.simulate {τ : Type*} {ρ' : Type*} {body' : τ → τ ⊕ ρ'} {R : σ → τ → Prop}
    {S : ρ → ρ' → Prop} (hround : ∀ s t, R s t → Sum.LiftRel R S (body s) (body' t)) {s : σ} {t : τ}
    {r : ρ} (hst : R s t) (h : Halts body s r) : ∃ r', Halts body' t r' ∧ S r r' := by
  obtain ⟨n, hn⟩ := h
  induction n generalizing s t with
  | zero => exact absurd hn.symm (Option.some_ne_none _)
  | succ n ih =>
    have hst := hround s t hst
    rcases hb : body s with s' | q <;> rcases hb' : body' t with t' | q' <;> rw [hb, hb'] at hst <;>
      cases hst
    · next hst =>
      rw [exec_of_inl hb] at hn
      obtain ⟨r', hr', hS⟩ := ih hst hn
      exact ⟨r', hr'.of_inl hb', hS⟩
    · next hS =>
      rw [exec_of_inr hb, Option.some.injEq] at hn
      exact ⟨q', .of_inr hb', hn ▸ hS⟩

theorem liftRel_flip {α β γ δ : Type*} {R : α → γ → Prop} {S : β → δ → Prop} {x : α ⊕ β}
    {y : γ ⊕ δ} (h : Sum.LiftRel R S x y) : Sum.LiftRel (flip R) (flip S) y x := by
  cases h with
  | inl h => exact .inl h
  | inr h => exact .inr h

/-- Two loops whose rounds follow each other end together, and their results are related. -/
theorem halts_simulate {τ : Type*} {ρ' : Type*} {body' : τ → τ ⊕ ρ'} {R : σ → τ → Prop}
    {S : ρ → ρ' → Prop} (hround : ∀ s t, R s t → Sum.LiftRel R S (body s) (body' t)) {s : σ} {t : τ}
    (hst : R s t) :
    ((∃ r, Halts body s r) ↔ ∃ r', Halts body' t r') ∧
      ∀ r r', Halts body s r → Halts body' t r' → S r r' := by
  have hround' : ∀ t s, flip R t s → Sum.LiftRel (flip R) (flip S) (body' t) (body s) :=
    fun t s hts => liftRel_flip (hround s t hts)
  refine ⟨⟨?_, ?_⟩, fun r r' h h' => ?_⟩
  · rintro ⟨r, h⟩
    obtain ⟨r', h', -⟩ := h.simulate hround hst
    exact ⟨r', h'⟩
  · rintro ⟨r', h'⟩
    obtain ⟨r, h, -⟩ := h'.simulate hround' hst
    exact ⟨r, h⟩
  · obtain ⟨q, hq, hS⟩ := h.simulate hround hst
    exact h'.unique hq ▸ hS

/-- A loop and the loop one round later have the same result. -/
theorem halts_of_inl_iff {s s' : σ} (h : body s = .inl s') {r : ρ} :
    Halts body s r ↔ Halts body s' r := by
  refine ⟨?_, Halts.of_inl h⟩
  rintro ⟨n, hn⟩
  rcases n with _ | n
  · exact absurd hn.symm (Option.some_ne_none _)
  · rw [exec_of_inl h] at hn
    exact ⟨n, hn⟩

/-- **Termination**: the loop ends if every round comes closer to the end, in a well-founded
order. -/
theorem exists_halts_of_lt {β : Type*} [Preorder β] [WellFoundedLT β] {P : σ → Prop} (μ : σ → β)
    (hround : ∀ s s', P s → body s = .inl s' → P s' ∧ μ s' < μ s) {s : σ} (hs : P s) :
    ∃ r, Halts body s r := by
  induction h : μ s using WellFoundedLT.induction generalizing s with
  | ind b ih =>
    subst h
    rcases hb : body s with s' | r
    · obtain ⟨hs', hlt⟩ := hround s s' hs hb
      obtain ⟨r, hr⟩ := ih (μ s') hlt hs' rfl
      exact ⟨r, hr.of_inl hb⟩
    · exact ⟨r, .of_inr hb⟩

/-- **Divergence**: the loop does not end if every round asks for another. -/
theorem not_halts_of_inl {P : σ → Prop} (hround : ∀ s, P s → ∃ s', body s = .inl s' ∧ P s') {s : σ}
    (hs : P s) (r : ρ) : ¬ Halts body s r := by
  rintro ⟨n, hn⟩
  induction n generalizing s with
  | zero => exact absurd hn.symm (Option.some_ne_none _)
  | succ n ih =>
    obtain ⟨s', hb, hs'⟩ := hround s hs
    rw [exec_of_inl hb] at hn
    exact ih hs' hn

/-- Loops whose rounds agree, on states that the rounds preserve, have the same results. -/
theorem halts_congr {body' : σ → σ ⊕ ρ} {P : σ → Prop}
    (hround : ∀ s s', P s → body s = .inl s' → P s') (heq : ∀ s, P s → body s = body' s) {s : σ}
    (hs : P s) (r : ρ) : Halts body s r ↔ Halts body' s r := by
  have hexec : ∀ n s, P s → exec body n s = exec body' n s := by
    intro n
    induction n with
    | zero => exact fun _ _ => rfl
    | succ n ih =>
      intro s hs
      rcases hb : body s with s' | r
      · rw [exec_of_inl hb, exec_of_inl (heq s hs ▸ hb)]
        exact ih s' (hround s s' hs hb)
      · rw [exec_of_inr hb, exec_of_inr (heq s hs ▸ hb)]
  exact exists_congr fun n => by rw [hexec n s hs]

variable (body) in
/-- Started in `s`, the loop is in the state `s'` at the start of some round. -/
def Reaches : σ → σ → Prop := Relation.ReflTransGen fun s s' => body s = .inl s'

/-- What every round preserves holds in every state the loop reaches. -/
theorem Reaches.invariant {P : σ → Prop} (hround : ∀ s s', P s → body s = .inl s' → P s') {s s' : σ}
    (h : Reaches body s s') (hs : P s) : P s' := by
  induction h with
  | refl => exact hs
  | tail _ hb ih => exact hround _ _ ih hb

end Loop
