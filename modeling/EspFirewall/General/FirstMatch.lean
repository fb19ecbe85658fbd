import Mathlib.Data.List.Nodup

/-!
# Changing the first match of a list

The loop `for (…) if (p(l[i])) { change l[i]; break; }` changes the first element that matches and
no other: it is `l.modify (l.findIdx p) f`.  The lemmas say what a search finds in the changed list.
-/

set_option autoImplicit false

namespace FirstMatch

universe u v

variable {α : Type u} {β : Type v}

/-- A projection that the change respects is unchanged. -/
theorem map_modify_of_eq {f : α → α} {g : α → β} (h : ∀ a, g (f a) = g a) (l : List α) (i : ℕ) :
    (l.modify i f).map g = l.map g := by
  induction l generalizing i with
  | nil => simp
  | cons a l ih =>
    cases i with
    | zero => simp [h]
    | succ i => simp [ih]

/-- The same search finds the changed element, if that still matches. -/
theorem find?_modify_self {p : α → Bool} {f : α → α} (h : ∀ a, p a = true → p (f a) = true)
    (l : List α) : (l.modify (l.findIdx p) f).find? p = (l.find? p).map f := by
  induction l with
  | nil => rfl
  | cons a l ih =>
    rw [List.findIdx_cons]
    cases ha : p a with
    | true => simp [ha, h a ha]
    | false => simp [ha, ih]

/-- Where a projection has no duplicates, the first match of an element is the element itself. -/
theorem findIdx_of_nodup [BEq β] [LawfulBEq β] {g : α → β} {l : List α} (h : (l.map g).Nodup)
    {i : ℕ} {a : α} (hi : l[i]? = some a) : l.findIdx (fun x => g x == g a) = i := by
  obtain ⟨hlt, rfl⟩ := List.getElem?_eq_some_iff.1 hi
  have hidx := h.idxOf_getElem i (by rwa [List.length_map])
  rwa [List.getElem_map, List.idxOf, List.findIdx_map] at hidx

/-- A search for something else does not notice. -/
theorem find?_modify_of_disjoint {p q : α → Bool} {f : α → α}
    (h : ∀ a, p a = true → q a = false) (h' : ∀ a, p a = true → q (f a) = false) (l : List α) :
    (l.modify (l.findIdx p) f).find? q = l.find? q := by
  induction l with
  | nil => rfl
  | cons a l ih =>
    rw [List.findIdx_cons]
    cases ha : p a with
    | true => simp [h a ha, h' a ha]
    | false => rw [cond_false, List.modify_succ_cons, List.find?_cons, List.find?_cons, ih]

end FirstMatch
