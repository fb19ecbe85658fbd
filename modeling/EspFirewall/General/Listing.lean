import Mathlib.Data.List.OfFn
import EspFirewall.General.Slots

/-!
# Listings

A program shows the entries of a table with a fixed number of slots, those in use and in slot order,
and takes them in again one by one.  An entry that clashes with one that is there replaces it, and
any other goes behind the last one.

* `Listing.entries` — the entries in use.  In a table without a gap (`Packed`), filling the slot
  behind the last one appends to them, and overwriting one changes their number by nothing.
* `Listing.replay_of_pairwise`, `Listing.length_replay_lt` — a listing is reproduced from the empty
  table if no two of its entries clash, and otherwise comes out shorter.
-/

set_option autoImplicit false

namespace Listing

universe u v

/-! ## Entries -/

section

variable {n : ℕ} {α : Type u} {p : α → Bool} {t : Fin n → α} {i : Fin n} {a : α}

/-- The entries in use, in slot order. -/
def entries (p : α → Bool) (t : Fin n → α) : List α := (List.ofFn t).filter p

/-- No slot in use has a free one before it. -/
def Packed (p : α → Bool) (t : Fin n → α) : Prop :=
  ∀ i j, i < j → p (t j) = true → p (t i) = true

theorem mem_entries : a ∈ entries p t ↔ p a = true ∧ ∃ i, t i = a := by
  rw [entries, List.mem_filter, List.mem_ofFn, and_comm]

theorem length_entries_le (p : α → Bool) (t : Fin n → α) : (entries p t).length ≤ n :=
  (List.length_filter_le ..).trans List.length_ofFn.le

theorem entries_eq_nil_iff : entries p t = [] ↔ ∀ i, p (t i) = false := by
  rw [entries, List.filter_eq_nil_iff]
  simp only [List.mem_ofFn, forall_exists_index, forall_apply_eq_imp_iff, Bool.not_eq_true]

/-- What holds of any two entries, in slot order. -/
theorem pairwise_entries_iff {R : α → α → Prop} :
    (entries p t).Pairwise R ↔
      ∀ i j, i < j → p (t i) = true → p (t j) = true → R (t i) (t j) := by
  rw [entries, List.pairwise_filter, List.pairwise_ofFn]

/-- A table that is not full has a free slot. -/
theorem exists_free (h : (entries p t).length < n) : ∃ i, p (t i) = false := by
  by_contra hall
  simp only [not_exists, Bool.not_eq_false] at hall
  have hfull : entries p t = List.ofFn t := by
    rw [entries, List.filter_eq_self]
    intro a ha
    obtain ⟨i, rfl⟩ := List.mem_ofFn.1 ha
    exact hall i
  rw [hfull, List.length_ofFn] at h
  exact Nat.lt_irrefl n h

/-- A search among the slots in use. -/
theorem lookup_eq_find_entries {β : Type v} {q : α → Bool} (f : α → β)
    (hq : ∀ a, q a = true → p a = true) :
    Slots.lookup q f t = ((entries p t).find? q).map f := by
  have hboth : (entries p t).find? q = (List.ofFn t).find? q := by
    rw [entries, List.find?_filter]
    congr 1
    funext a
    cases ha : q a with
    | false => simp
    | true => simp [hq a ha]
  rw [Slots.lookup, hboth]
  cases hfirst : Slots.first q t with
  | none =>
    rw [Slots.first_eq_none_iff] at hfirst
    rw [List.find?_eq_none.2]
    · rfl
    · intro a ha
      obtain ⟨i, rfl⟩ := List.mem_ofFn.1 ha
      rw [hfirst i]
      exact Bool.false_ne_true
  | some i =>
    obtain ⟨hi, hbefore⟩ := Slots.first_eq_some_iff.1 hfirst
    have hfind : (List.ofFn t).find? q = some (t i) := by
      rw [List.find?_eq_some_iff_getElem]
      refine ⟨hi, i.val, by rw [List.length_ofFn]; exact i.isLt, List.getElem_ofFn _, ?_⟩
      intro j hj
      rw [List.getElem_ofFn, hbefore ⟨j, hj.trans i.isLt⟩ (Fin.lt_def.2 hj)]
      rfl
    rw [hfind]
    rfl

theorem ofFn_update (t : Fin n → α) (i : Fin n) (a : α) :
    List.ofFn (Function.update t i a) = (List.ofFn t).set i a := by
  refine List.ext_getElem (by simp) fun k hk _ => ?_
  rw [List.getElem_ofFn, List.getElem_set, Function.update_apply]
  simp only [Fin.ext_iff, List.getElem_ofFn, eq_comm]

/-- The entries of a table that has been written to. -/
theorem entries_update (p : α → Bool) (t : Fin n → α) (i : Fin n) (a : α) :
    entries p (Function.update t i a) = ((List.ofFn t).take i).filter p ++
      [a].filter p ++ ((List.ofFn t).drop (i + 1)).filter p := by
  have hi : i.val < (List.ofFn t).length := by
    rw [List.length_ofFn]
    exact i.isLt
  rw [entries, ofFn_update, List.set_eq_take_append_cons_drop, if_pos hi, List.filter_append,
    ← List.singleton_append, List.filter_append, List.append_assoc]

/-- An entry in use is overwritten. -/
theorem length_entries_update (hi : p (t i) = true) (ha : p a = true) :
    (entries p (Function.update t i a)).length = (entries p t).length := by
  have hself := entries_update p t i (t i)
  rw [Function.update_eq_self] at hself
  rw [entries_update, hself]
  simp only [List.length_append, List.filter_cons_of_pos hi, List.filter_cons_of_pos ha,
    List.filter_nil, List.length_singleton]

/-- The slot behind the last one in use is filled. -/
theorem entries_update_free (hlast : ∀ j, i ≤ j → p (t j) = false) (ha : p a = true) :
    entries p (Function.update t i a) = entries p t ++ [a] := by
  have hself := entries_update p t i (t i)
  have hrest : ((List.ofFn t).drop (i + 1)).filter p = [] := by
    rw [List.filter_eq_nil_iff]
    intro b hb
    obtain ⟨k, hk, rfl⟩ := List.mem_drop_iff_getElem.1 hb
    rw [List.getElem_ofFn, hlast _ (Fin.le_def.2 (by simp only; omega))]
    exact Bool.false_ne_true
  rw [Function.update_eq_self] at hself
  rw [entries_update, hself, hrest, List.filter_cons_of_pos ha,
    List.filter_cons_of_neg (by rw [hlast i le_rfl]; exact Bool.false_ne_true)]
  simp

theorem Packed.of_entries_nil (h : entries p t = []) : Packed p t := fun _ j _ hj =>
  absurd hj (by rw [entries_eq_nil_iff.1 h j]; exact Bool.false_ne_true)

theorem Packed.update_used (h : Packed p t) (hi : p (t i) = true) (ha : p a = true) :
    Packed p (Function.update t i a) := by
  have hsame : ∀ j, p (Function.update t i a j) = p (t j) := by
    intro j
    by_cases hj : j = i
    · rw [hj, Function.update_self, ha, hi]
    · rw [Function.update_of_ne hj]
  intro j k hjk hk
  rw [hsame] at hk ⊢
  exact h j k hjk hk

/-- The free slots of a table without a gap begin at the first one. -/
theorem Packed.free_of_first (h : Packed p t)
    (hi : Slots.first (fun a => !p a) t = some i) :
    (∀ j < i, p (t j) = true) ∧ ∀ j, i ≤ j → p (t j) = false := by
  have hfree := Slots.eq_false_of_first hi
  refine ⟨fun j hj => by simpa using (Slots.first_eq_some_iff.1 hi).2 j hj, fun j hij => ?_⟩
  rw [← Bool.not_eq_true]
  intro hj
  rcases hij.eq_or_lt with rfl | hlt
  · exact Bool.false_ne_true (hfree.symm.trans hj)
  · exact Bool.false_ne_true (hfree.symm.trans (h i j hlt hj))

theorem Packed.update_free (hbefore : ∀ j < i, p (t j) = true)
    (hlast : ∀ j, i ≤ j → p (t j) = false) : Packed p (Function.update t i a) := by
  intro j k hjk hk
  by_cases hki : k ≤ i
  · rw [Function.update_of_ne (lt_of_lt_of_le hjk hki).ne]
    exact hbefore j (lt_of_lt_of_le hjk hki)
  · rw [not_le] at hki
    rw [Function.update_of_ne hki.ne', hlast k hki.le] at hk
    exact absurd hk Bool.false_ne_true

end

/-! ## Replaying a listing -/

section

variable {τ : Type u} {β : Type v} {add : τ → β → τ} {list : τ → List β} {Inv : τ → Prop}
  {Legal : β → Prop} {Clash : β → β → Prop} {cap : ℕ}

/-- A table that entries are added to: one that clashes with none goes behind the others as long as
there is room, and one that clashes with another makes the listing no longer. -/
structure Table (add : τ → β → τ) (list : τ → List β) (Inv : τ → Prop) (Legal : β → Prop)
    (Clash : β → β → Prop) (cap : ℕ) : Prop where
  inv : ∀ t b, Legal b → Inv t → Inv (add t b)
  append : ∀ t b, Legal b → Inv t → (∀ a ∈ list t, ¬ Clash a b) → (list t).length < cap →
    list (add t b) = list t ++ [b]
  replace : ∀ t b, Legal b → Inv t → (∃ a ∈ list t, Clash a b) →
    (list (add t b)).length ≤ (list t).length

variable {t : τ}

theorem Table.inv_foldl (h : Table add list Inv Legal Clash cap) (ht : Inv t) {bs : List β}
    (hbs : ∀ b ∈ bs, Legal b) : Inv (bs.foldl add t) := by
  induction bs generalizing t with
  | nil => exact ht
  | cons b bs ih =>
    exact ih (h.inv t b (hbs b List.mem_cons_self) ht) fun c hc => hbs c (List.mem_cons_of_mem b hc)

/-- **A listing without clashes is reproduced.** -/
theorem replay_of_pairwise (h : Table add list Inv Legal Clash cap) (ht : Inv t)
    (hempty : list t = []) {bs : List β} (hbs : ∀ b ∈ bs, Legal b) (hcap : bs.length ≤ cap)
    (hpair : bs.Pairwise fun a b => ¬ Clash a b) : list (bs.foldl add t) = bs := by
  induction bs using List.reverseRecOn with
  | nil => exact hempty
  | append_singleton bs b ih =>
    rw [List.length_append, List.length_singleton] at hcap
    rw [List.pairwise_append] at hpair
    have hinit : ∀ c ∈ bs, Legal c := fun c hc => hbs c (List.mem_append_left [b] hc)
    have hlist := ih hinit (by omega) hpair.1
    rw [List.foldl_append, List.foldl_cons, List.foldl_nil,
      h.append _ b (hbs b (by simp)) (h.inv_foldl ht hinit), hlist]
    · rw [hlist]
      exact fun a ha => hpair.2.2 a ha b List.mem_cons_self
    · rw [hlist]
      omega

/-- One entry more makes the listing at most one longer. -/
theorem Table.length_add_le (h : Table add list Inv Legal Clash cap) (ht : Inv t) {b : β}
    (hb : Legal b) (hroom : (list t).length < cap) :
    (list (add t b)).length ≤ (list t).length + 1 := by
  by_cases hclash : ∃ a ∈ list t, Clash a b
  · exact (h.replace t b hb ht hclash).trans (Nat.le_succ _)
  · rw [h.append t b hb ht (fun a ha hc => hclash ⟨a, ha, hc⟩) hroom, List.length_append,
      List.length_singleton]

/-- **A listing with a clash comes out shorter.** -/
theorem length_replay_lt (h : Table add list Inv Legal Clash cap) (ht : Inv t)
    (hempty : list t = []) {bs : List β} (hbs : ∀ b ∈ bs, Legal b) (hcap : bs.length ≤ cap)
    (hclash : ¬ bs.Pairwise fun a b => ¬ Clash a b) : (list (bs.foldl add t)).length < bs.length := by
  induction bs using List.reverseRecOn with
  | nil => exact absurd List.Pairwise.nil hclash
  | append_singleton bs b ih =>
    rw [List.length_append, List.length_singleton] at hcap
    have hinit : ∀ c ∈ bs, Legal c := fun c hc => hbs c (List.mem_append_left [b] hc)
    have hinv := h.inv_foldl ht hinit
    have hb := hbs b (by simp)
    rw [List.foldl_append, List.foldl_cons, List.foldl_nil, List.length_append,
      List.length_singleton]
    by_cases hpair : bs.Pairwise fun a b => ¬ Clash a b
    · -- the clash is with the last entry, which replaces one
      have hlist := replay_of_pairwise h ht hempty hinit (by omega) hpair
      have hlast : ∃ a ∈ list (bs.foldl add t), Clash a b := by
        rw [hlist]
        by_contra hnone
        refine hclash (List.pairwise_append.2 ⟨hpair, List.pairwise_singleton .., ?_⟩)
        intro a ha c hc hac
        rw [List.mem_singleton] at hc
        exact hnone ⟨a, ha, hc ▸ hac⟩
      have hle := h.replace _ b hb hinv hlast
      rw [hlist] at hle
      omega
    · -- the listing is too short already, and grows by one at most
      have hlt := ih hinit (by omega) hpair
      have hle := h.length_add_le hinv hb (by omega)
      omega

end

end Listing
