import Mathlib.Data.Fintype.Pigeonhole
import Mathlib.Data.Fin.Tuple.Basic
import Mathlib.Order.Fin.Basic

/-!
# Tables with a fixed number of slots

A table is a function `t : Fin n → α`: every slot holds something, and which slots are *in use* is
a predicate on what they hold.  Two kinds of loop run over such a table.

* `Slots.first p` is the search `for (i = 0; i < n; i++) if (p(t[i])) return i;`, and
  `Slots.firstBelow k p` the same search cut off at `k`.  `first_update_of_false` and
  `first_update_self` say what writing one slot does to a search, which is all there is to know
  about a decision taken by the first entry that matches.
* `Slots.highWater p` is the least bound below which all the slots in use lie, as a loop from the
  top finds it; `scanUp_eq_highWater` is the loop from the bottom.  A count kept at or above it
  makes the cut-off search agree with the full one: `firstBelow_eq_first`.

The searches are irreducible: a table is large enough for an unfolded search to be costly, and the
characterisations say all there is to know.
-/

set_option autoImplicit false

namespace Slots

universe u v

variable {n : ℕ} {α : Type u} {β : Type v}

/-! ## The first slot that matches -/

/-- The first slot whose entry satisfies `p`. -/
@[irreducible] def first (p : α → Bool) (t : Fin n → α) : Option (Fin n) :=
  Fin.find? fun i => p (t i)

/-- The first slot below `k` whose entry satisfies `p`. -/
@[irreducible] def firstBelow (k : ℕ) (p : α → Bool) (t : Fin n → α) : Option (Fin n) :=
  Fin.find? fun i => decide (i.val < k) && p (t i)

theorem first_eq_some_iff {p : α → Bool} {t : Fin n → α} {i : Fin n} :
    first p t = some i ↔ p (t i) = true ∧ ∀ j < i, p (t j) = false := by
  rw [first, Fin.find?_eq_some_iff]

theorem first_eq_none_iff {p : α → Bool} {t : Fin n → α} :
    first p t = none ↔ ∀ i, p (t i) = false := by
  rw [first, Fin.find?_eq_none_iff]

/-- The slot that a search for a free one finds. -/
theorem eq_false_of_first {p : α → Bool} {t : Fin n → α} {i : Fin n}
    (h : first (fun a => !p a) t = some i) : p (t i) = false := by
  rw [← Bool.not_eq_true', (first_eq_some_iff.1 h).1]

theorem firstBelow_eq_some_iff {k : ℕ} {p : α → Bool} {t : Fin n → α} {i : Fin n} :
    firstBelow k p t = some i ↔
      (i.val < k ∧ p (t i) = true) ∧ ∀ j < i, j.val < k → p (t j) = false := by
  rw [firstBelow, Fin.find?_eq_some_iff]
  simp

theorem firstBelow_eq_none_iff {k : ℕ} {p : α → Bool} {t : Fin n → α} :
    firstBelow k p t = none ↔ ∀ i : Fin n, i.val < k → p (t i) = false := by
  rw [firstBelow, Fin.find?_eq_none_iff]
  simp

/-- Some slot matches exactly when the search finds one. -/
theorem exists_first_iff {p : α → Bool} {t : Fin n → α} :
    (∃ i, first p t = some i) ↔ ∃ i, p (t i) = true := by
  constructor
  · rintro ⟨i, hi⟩
    exact ⟨i, (first_eq_some_iff.1 hi).1⟩
  · rintro ⟨i, hi⟩
    cases h : first p t with
    | some j => exact ⟨j, rfl⟩
    | none =>
      rw [first_eq_none_iff] at h
      exact absurd hi (by simp [h i])

/-- Searches that agree at every slot find the same one. -/
theorem first_congr {p q : α → Bool} {t u : Fin n → α} (h : ∀ i, p (t i) = q (u i)) :
    first p t = first q u := by
  simp only [first, h]

/-- **The cut-off search is the full one** when no slot that matches lies beyond the cut. -/
theorem firstBelow_eq_first {k : ℕ} {p : α → Bool} {t : Fin n → α}
    (h : ∀ i : Fin n, p (t i) = true → i.val < k) : firstBelow k p t = first p t := by
  rw [firstBelow, first]
  congr 1
  funext i
  cases hp : p (t i) with
  | true => simp [h i hp]
  | false => simp

/-- Writing a slot that neither matched nor matches now does not change the search. -/
theorem first_update_of_false {p : α → Bool} {t : Fin n → α} {i : Fin n} {a : α}
    (ht : p (t i) = false) (ha : p a = false) : first p (Function.update t i a) = first p t := by
  refine first_congr fun j => ?_
  by_cases hj : j = i
  · subst hj; rw [Function.update_self, ha, ht]
  · rw [Function.update_of_ne hj]

/-- The slot just written is the first match when nothing before it matched. -/
theorem first_update_self {p : α → Bool} {t : Fin n → α} {i : Fin n} {a : α}
    (ht : ∀ j < i, p (t j) = false) (ha : p a = true) :
    first p (Function.update t i a) = some i := by
  rw [first_eq_some_iff, Function.update_self]
  refine ⟨ha, fun j hj => ?_⟩
  rw [Function.update_of_ne hj.ne]
  exact ht j hj

/-- What the first entry that matches decides. -/
def lookup (p : α → Bool) (f : α → β) (t : Fin n → α) : Option β :=
  (first p t).map fun i => f (t i)

theorem lookup_eq_none_iff {p : α → Bool} {f : α → β} {t : Fin n → α} :
    lookup p f t = none ↔ ∀ i, p (t i) = false := by
  rw [lookup, Option.map_eq_none_iff, first_eq_none_iff]

theorem lookup_of_first {p : α → Bool} {f : α → β} {t : Fin n → α} {i : Fin n}
    (h : first p t = some i) : lookup p f t = some (f (t i)) := by
  rw [lookup, h, Option.map_some]

/-- **Frame rule**: a slot that did not match and does not match now decides nothing. -/
theorem lookup_update_of_false {p : α → Bool} {f : α → β} {t : Fin n → α} {i : Fin n} {a : α}
    (ht : p (t i) = false) (ha : p a = false) :
    lookup p f (Function.update t i a) = lookup p f t := by
  rw [lookup, lookup, first_update_of_false ht ha]
  cases h : first p t with
  | none => rfl
  | some j =>
    have hj : j ≠ i := by
      rintro rfl
      exact absurd (first_eq_some_iff.1 h).1 (by simp [ht])
    rw [Option.map_some, Option.map_some, Function.update_of_ne hj]

/-- The slot just written decides when nothing before it matched. -/
theorem lookup_update_self {p : α → Bool} {f : α → β} {t : Fin n → α} {i : Fin n} {a : α}
    (ht : ∀ j < i, p (t j) = false) (ha : p a = true) :
    lookup p f (Function.update t i a) = some (f a) := by
  rw [lookup_of_first (first_update_self ht ha), Function.update_self]

/-- Entries that do not match are all alike to a search. -/
theorem lookup_update_congr {p : α → Bool} {f : α → β} {t : Fin n → α} {i : Fin n} {a b : α}
    (ha : p a = false) (hb : p b = false) :
    lookup p f (Function.update t i a) = lookup p f (Function.update t i b) := by
  have h := lookup_update_of_false (f := f) (t := Function.update t i b) (i := i) (a := a)
    (by rwa [Function.update_self]) ha
  rwa [Function.update_idem] at h

/-- Of more keys than there are slots, some key is not the key of any slot. -/
theorem exists_unused {f : Fin (n + 1) → β} (hf : Function.Injective f) (key : Fin n → β) :
    ∃ k, ∀ i, key i ≠ f k := by
  by_contra hall
  have hslot : ∀ k, ∃ i, key i = f k := fun k => by
    by_contra hnone
    exact hall ⟨k, fun i hi => hnone ⟨i, hi⟩⟩
  choose slot hkey using hslot
  obtain ⟨k, l, hne, heq⟩ := Fintype.exists_ne_map_eq_of_card_lt slot (by simp)
  exact hne (hf (by rw [← hkey, ← hkey, heq]))

/-! ## The bound on the slots in use -/

/-- One more than the last slot in use, or `0`: the loop that scans from the top and stops. -/
@[irreducible] def highWater (p : α → Bool) (t : Fin n → α) : ℕ :=
  match Fin.findRev? fun i => p (t i) with
  | some i => i.val + 1
  | none => 0

/-- The loop that scans from the bottom and remembers the last slot in use it has seen. -/
@[irreducible] def scanUp (p : α → Bool) (t : Fin n → α) : ℕ :=
  Fin.foldl n (fun c i => if p (t i) then i.val + 1 else c) 0

theorem lt_highWater {p : α → Bool} {t : Fin n → α} {i : Fin n} (h : p (t i) = true) :
    i.val < highWater p t := by
  rw [highWater]
  split
  · next j hj =>
    rw [Fin.findRev?_eq_some_iff] at hj
    by_contra hlt
    have hji : j < i := Fin.lt_def.2 (by omega)
    exact absurd h (by simp [hj.2 i hji])
  · next hnone =>
    rw [Fin.findRev?_eq_none_iff] at hnone
    exact absurd h (by simp [hnone i])

/-- The slot just below a positive bound is in use. -/
theorem exists_of_highWater_pos {p : α → Bool} {t : Fin n → α} (h : 0 < highWater p t) :
    ∃ i : Fin n, i.val + 1 = highWater p t ∧ p (t i) = true := by
  rw [highWater] at h ⊢
  cases hf : Fin.findRev? fun i => p (t i) with
  | none => rw [hf] at h; exact absurd h (Nat.lt_irrefl 0)
  | some j => exact ⟨j, rfl, (Fin.findRev?_eq_some_iff.1 hf).1⟩

theorem highWater_le (p : α → Bool) (t : Fin n → α) : highWater p t ≤ n := by
  rw [highWater]
  split
  · next j _ => exact j.isLt
  · exact Nat.zero_le n

theorem scanUp_eq_highWater (p : α → Bool) (t : Fin n → α) : scanUp p t = highWater p t := by
  induction n with
  | zero => simp [scanUp, highWater]
  | succ n ih =>
    have hrest := ih fun i => t i.castSucc
    rw [scanUp, highWater] at hrest
    rw [scanUp, highWater, Fin.foldl_succ_last, Fin.findRev?_succ]
    cases hp : p (t (Fin.last n)) with
    | true => simp
    | false =>
      simp only [Fin.val_castSucc, Bool.false_eq_true, if_false, hrest]
      cases Fin.findRev? fun i => p (t i.castSucc) <;> simp

end Slots
