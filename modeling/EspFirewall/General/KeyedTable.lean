import Mathlib.Data.Fin.Tuple.Basic
import Mathlib.Tactic.Common

/-!
# Tables that describe a map

A table `t : Fin n → α` of entries, some of them in use, each with a key and a value, next to a map
`m : κ → Option ω` that somebody else keeps.  `KeyedTable.Describes` says that the map holds what
the table says.

The two are kept in step by changing them together (`Describes.insert`, `Describes.remove`), or by
*replaying* the table: every key of the table is taken out of the map, and then every entry is put
in (`Describes.replay`).  All of this needs that no two entries in use have the same key.
-/

set_option autoImplicit false

namespace KeyedTable

universe u v w

variable {α : Type u} {κ : Type v} {ω : Type w} {n : ℕ}

/-- How the entries are read. -/
structure View (α : Type u) (κ : Type v) (ω : Type w) where
  inUse : α → Bool
  key : α → κ
  val : α → ω

/-- No two entries in use have the same key. -/
def Unique (v : View α κ ω) (t : Fin n → α) : Prop :=
  ∀ i j, v.inUse (t i) = true → v.inUse (t j) = true → v.key (t i) = v.key (t j) → i = j

/-- The key is not in use. -/
def Free (v : View α κ ω) (t : Fin n → α) (k : κ) : Prop :=
  ∀ i, v.inUse (t i) = true → v.key (t i) ≠ k

/-- The map holds what the table says. -/
def Describes (v : View α κ ω) (t : Fin n → α) (m : κ → Option ω) : Prop :=
  ∀ k x, m k = some x ↔ ∃ i, v.inUse (t i) = true ∧ v.key (t i) = k ∧ v.val (t i) = x

variable {v : View α κ ω} {t : Fin n → α} {m : κ → Option ω}

theorem Describes.eq_none (h : Describes v t m) {k : κ} (hk : Free v t k) : m k = none := by
  rcases hm : m k with _ | x
  · rfl
  · obtain ⟨i, hi, hkey, -⟩ := (h k x).1 hm
    exact absurd hkey (hk i hi)

/-- An entry with another key, or none, leaves the key free. -/
theorem Free.update {k : κ} (h : Free v t k) (i : Fin n) {a : α}
    (ha : v.inUse a = true → v.key a ≠ k) : Free v (Function.update t i a) k := by
  rw [Free, Function.forall_update_iff t fun _ a => v.inUse a = true → v.key a ≠ k]
  exact ⟨ha, fun j _ => h j⟩

/-- Taking an entry out frees its key. -/
theorem Unique.free_update (h : Unique v t) {i : Fin n} (hi : v.inUse (t i) = true) {a : α}
    (ha : v.inUse a = false) : Free v (Function.update t i a) (v.key (t i)) := by
  intro j hj hkey
  by_cases hji : j = i
  · rw [hji, Function.update_self, ha] at hj
    exact Bool.false_ne_true hj
  · rw [Function.update_of_ne hji] at hj hkey
    exact hji (h j i hj hi hkey)

theorem Unique.update_of_not_inUse (h : Unique v t) (i : Fin n) {a : α} (ha : v.inUse a = false) :
    Unique v (Function.update t i a) := by
  have hkeep : ∀ j, v.inUse (Function.update t i a j) = true →
      Function.update t i a j = t j := by
    intro j hj
    refine Function.update_of_ne ?_ ..
    rintro rfl
    rw [Function.update_self, ha] at hj
    exact Bool.false_ne_true hj
  intro j k hj hk hjk
  have hj' := hkeep j hj
  have hk' := hkeep k hk
  rw [hj'] at hj hjk
  rw [hk'] at hk hjk
  exact h j k hj hk hjk

/-- Entering a free key in a slot keeps the keys unique. -/
theorem Unique.insert (h : Unique v t) (i : Fin n) {a : α} (hfree : Free v t (v.key a)) :
    Unique v (Function.update t i a) := by
  intro j k hj hk hjk
  by_cases hji : j = i
  · by_cases hki : k = i
    · rw [hji, hki]
    · rw [hji, Function.update_self, Function.update_of_ne hki] at hjk
      rw [Function.update_of_ne hki] at hk
      exact absurd hjk.symm (hfree k hk)
  · rw [Function.update_of_ne hji] at hj hjk
    by_cases hki : k = i
    · rw [hki, Function.update_self] at hjk
      exact absurd hjk (hfree j hj)
    · rw [Function.update_of_ne hki] at hk hjk
      exact h j k hj hk hjk

theorem free_succ {t : Fin (n + 1) → α} {k : κ} : Free v t k ↔
    Free v (fun i => t i.castSucc) k ∧
      (v.inUse (t (Fin.last n)) = true → v.key (t (Fin.last n)) ≠ k) := Fin.forall_fin_succ'

section Maps

variable [DecidableEq κ]

/-- **Entering a new key** in a slot that is not in use, and in the map. -/
theorem Describes.insert (h : Describes v t m) {i : Fin n} (hi : v.inUse (t i) = false) {a : α}
    (ha : v.inUse a = true) (hfree : Free v t (v.key a)) :
    Describes v (Function.update t i a) (Function.update m (v.key a) (some (v.val a))) := by
  intro k x
  by_cases hk : k = v.key a
  · subst hk
    rw [Function.update_self, Option.some.injEq]
    refine ⟨fun hx => ⟨i, by rw [Function.update_self]; exact ⟨ha, rfl, hx⟩⟩, ?_⟩
    rintro ⟨j, hj, hkey, hval⟩
    by_cases hji : j = i
    · rwa [hji, Function.update_self] at hval
    · rw [Function.update_of_ne hji] at hj hkey
      exact absurd hkey (hfree j hj)
  · rw [Function.update_of_ne hk, h k x]
    refine ⟨?_, ?_⟩
    · rintro ⟨j, hj, hkey, hval⟩
      have hji : j ≠ i := by
        rintro rfl
        rw [hi] at hj
        exact Bool.false_ne_true hj
      exact ⟨j, by rw [Function.update_of_ne hji]; exact ⟨hj, hkey, hval⟩⟩
    · rintro ⟨j, hj, hkey, hval⟩
      have hji : j ≠ i := by
        rintro rfl
        rw [Function.update_self] at hkey
        exact hk hkey.symm
      rw [Function.update_of_ne hji] at hj hkey hval
      exact ⟨j, hj, hkey, hval⟩

/-- **Taking an entry out**, of the table and of the map. -/
theorem Describes.remove (h : Describes v t m) (hunique : Unique v t) {i : Fin n}
    (hi : v.inUse (t i) = true) {a : α} (ha : v.inUse a = false) :
    Describes v (Function.update t i a) (Function.update m (v.key (t i)) none) := by
  intro k x
  by_cases hk : k = v.key (t i)
  · subst hk
    rw [Function.update_self]
    refine iff_of_false (Option.some_ne_none x).symm ?_
    rintro ⟨j, hj, hkey, -⟩
    exact hunique.free_update hi ha j hj hkey
  · rw [Function.update_of_ne hk, h k x]
    refine exists_congr fun j => ?_
    by_cases hji : j = i
    · subst hji
      rw [Function.update_self, ha]
      exact iff_of_false (fun hj => hk hj.2.1.symm) fun hj => Bool.false_ne_true hj.1
    · rw [Function.update_of_ne hji]

/-! ## Replaying a table -/

/-- `for (i = 0; i < n; i++) if (in use) remove(key);` -/
def removeAll (v : View α κ ω) (t : Fin n → α) (m : κ → Option ω) : κ → Option ω :=
  Fin.foldl n (fun m i =>
    if v.inUse (t i) then Function.update m (v.key (t i)) none else m) m

/-- `for (i = 0; i < n; i++) if (in use) insert(key, value);` -/
def insertAll (v : View α κ ω) (t : Fin n → α) (m : κ → Option ω) : κ → Option ω :=
  Fin.foldl n (fun m i =>
    if v.inUse (t i) then Function.update m (v.key (t i)) (some (v.val (t i))) else m) m

/-- Exactly the keys of the table are taken out. -/
theorem removeAll_eq_some_iff {k : κ} {x : ω} :
    removeAll v t m k = some x ↔ Free v t k ∧ m k = some x := by
  induction n with
  | zero => simp [removeAll, Free]
  | succ n ih =>
    have hrest := ih (t := fun i => t i.castSucc)
    rw [removeAll] at hrest
    rw [removeAll, Fin.foldl_succ_last, free_succ]
    split
    · next huse =>
      by_cases hk : k = v.key (t (Fin.last n))
      · simp [hk, huse]
      · rw [Function.update_of_ne hk, hrest]
        simp [huse, Ne.symm hk]
    · next huse =>
      rw [hrest]
      simp [huse]

/-- With unique keys, every entry of the table is put in. -/
theorem insertAll_eq_some_iff (h : Unique v t) {k : κ} {x : ω} :
    insertAll v t m k = some x ↔
      (∃ i, v.inUse (t i) = true ∧ v.key (t i) = k ∧ v.val (t i) = x) ∨
        (Free v t k ∧ m k = some x) := by
  induction n with
  | zero => simp [insertAll, Free]
  | succ n ih =>
    have hrest := ih (t := fun i => t i.castSucc) fun i j hi hj hij =>
      Fin.castSucc_injective n (h _ _ hi hj hij)
    rw [insertAll] at hrest
    rw [insertAll, Fin.foldl_succ_last, free_succ, Fin.exists_fin_succ']
    split
    · next huse =>
      by_cases hk : k = v.key (t (Fin.last n))
      · subst hk
        rw [Function.update_self, Option.some.injEq]
        have hearlier : ¬ ∃ i : Fin n, v.inUse (t i.castSucc) = true ∧
            v.key (t i.castSucc) = v.key (t (Fin.last n)) ∧ v.val (t i.castSucc) = x := by
          rintro ⟨i, hi, hkey, -⟩
          exact (Fin.castSucc_lt_last i).ne (h _ _ hi huse hkey)
        simp [huse, hearlier]
      · rw [Function.update_of_ne hk, hrest]
        simp [huse, Ne.symm hk]
    · next huse =>
      rw [hrest]
      simp [huse]

/-- A key that the table does not have is left alone by both loops. -/
theorem replay_of_free {k : κ} (h : Free v t k) :
    removeAll v t m k = m k ∧ insertAll v t m k = m k := by
  have hframe : ∀ f : Fin n → Option ω, Fin.foldl n (fun m i =>
      if v.inUse (t i) then Function.update m (v.key (t i)) (f i) else m) m k = m k := by
    intro f
    induction n with
    | zero => rfl
    | succ n ih =>
      obtain ⟨hrest, hlast⟩ := free_succ.1 h
      rw [Fin.foldl_succ_last]
      split
      · next huse =>
        rw [Function.update_of_ne (hlast huse).symm]
        exact ih hrest fun i => f i.castSucc
      · exact ih hrest fun i => f i.castSucc
  exact ⟨hframe fun _ => none, hframe fun i => some (v.val (t i))⟩

/-- **Replaying the table** brings the map in step with it. -/
theorem Describes.replay (h : Describes v t m) (hunique : Unique v t) :
    Describes v t (insertAll v t (removeAll v t m)) := by
  intro k x
  rw [insertAll_eq_some_iff hunique, removeAll_eq_some_iff]
  refine ⟨?_, .inl⟩
  rintro (hentry | ⟨hfree, -, hm⟩)
  · exact hentry
  · exact absurd (h.eq_none hfree) (by rw [hm]; exact Option.some_ne_none x)

end Maps

end KeyedTable
