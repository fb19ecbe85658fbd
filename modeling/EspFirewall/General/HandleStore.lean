import Mathlib.Algebra.Order.BigOperators.Group.List
import Mathlib.Data.Multiset.OrderedMonoid
import Mathlib.Logic.Function.Basic

/-!
# Calls on a store with handles

A program opens a handle on a store, reads and writes through it, commits and closes it, and each of
these calls may fail.  What it did is the list of its calls, each with what it returned.  This file
says what such a list means, in two ways.

* `durableAfter` — what the store holds afterwards.  A write is pending until a commit on its handle
  succeeds, and is lost when the handle is closed before.
* `account` — which handles are open afterwards, provided that no handle is closed that was not
  open.  What `IsBalanced` closes every handle it opens, once, and no other, and then
  it does not matter which handles others have open (`IsBalanced.account`).
-/

set_option autoImplicit false

namespace HandleStore

universe u v

/-- A call on the store, with what it returns. -/
inductive Call (H : Type u) (σ : Type v)
  /-- Opening succeeds, with a handle. -/
  | opened (h : H)
  | openFailed
  | read (h : H)
  /-- A write of `f`; `ok` says whether it succeeds. -/
  | write (h : H) (ok : Bool) (f : σ → σ)
  | commit (h : H) (ok : Bool)
  | close (h : H)

variable {H : Type u} {σ : Type v}

/-- The call is a commit that succeeds. -/
def Call.commits : Call H σ → Bool
  | .commit _ ok => ok
  | _ => false

/-! ## What is durable -/

/-- A store, with the writes that are pending on each handle. -/
structure Store (H : Type u) (σ : Type v) where
  durable : σ
  pending : H → List (σ → σ)

/-- The writes, one after the other. -/
def applyAll (writes : List (σ → σ)) (s : σ) : σ := writes.foldl (fun s f => f s) s

section

variable [DecidableEq H]

/-- The store after a call. -/
def Store.after (s : Store H σ) : Call H σ → Store H σ
  | .opened h => { s with pending := Function.update s.pending h [] }
  | .write h true f => { s with pending := Function.update s.pending h (s.pending h ++ [f]) }
  | .commit h true => ⟨applyAll (s.pending h) s.durable, Function.update s.pending h []⟩
  | .close h => { s with pending := Function.update s.pending h [] }
  | _ => s

/-- The store after some calls. -/
def Store.run (s : Store H σ) (calls : List (Call H σ)) : Store H σ := calls.foldl Store.after s

/-- What is durable after some calls, when there were no pending writes before. -/
def durableAfter (s : σ) (calls : List (Call H σ)) : σ := (Store.run ⟨s, fun _ => []⟩ calls).durable

theorem Store.run_append (s : Store H σ) (a b : List (Call H σ)) :
    s.run (a ++ b) = (s.run a).run b := List.foldl_append

/-- Calls of `write` that succeed leave their writes pending. -/
theorem Store.run_writes (s : Store H σ) (h : H) (writes : List (σ → σ)) :
    s.run (writes.map (.write h true)) =
      { s with pending := Function.update s.pending h (s.pending h ++ writes) } := by
  induction writes generalizing s with
  | nil =>
    rw [List.append_nil, Function.update_eq_self]
    rfl
  | cons f writes ih =>
    rw [List.map_cons, run, List.foldl_cons]
    refine (ih _).trans ?_
    simp only [after, Function.update_self, Function.update_idem, List.append_assoc,
      List.singleton_append]

/-- Nothing becomes durable without a commit. -/
theorem durableAfter_of_no_commit (s : σ) {calls : List (Call H σ)}
    (h : calls.any Call.commits = false) : durableAfter s calls = s := by
  suffices hrun : ∀ t : Store H σ, (t.run calls).durable = t.durable from hrun _
  intro t
  induction calls generalizing t with
  | nil => rfl
  | cons c calls ih =>
    rw [List.any_cons, Bool.or_eq_false_iff] at h
    rw [Store.run, List.foldl_cons]
    refine (ih h.2 _).trans ?_
    cases c with
    | write k ok f => cases ok <;> rfl
    | commit k ok =>
      cases ok with
      | false => rfl
      | true => exact absurd h.1 Bool.noConfusion
    | _ => rfl

/-- **A session that commits** makes its writes durable. -/
theorem durableAfter_session (s : σ) (h : H) (writes : List (σ → σ)) :
    durableAfter s (.opened h :: writes.map (.write h true) ++ [.commit h true, .close h]) =
      applyAll writes s := by
  have hopen (s : Store H σ) (calls : List (Call H σ)) :
    s.run (.opened h :: calls) = (s.after (.opened h)).run calls := rfl
  rw [durableAfter, Store.run_append, hopen, Store.run_writes]
  simp only [Store.run, List.foldl_cons, List.foldl_nil, Store.after, Function.update_self,
    List.nil_append]

end

/-! ## Which handles are open -/

/-- What a call does to the handles that are open. -/
inductive Event (H : Type u)
  | opened (h : H)
  | closed (h : H)
deriving DecidableEq

/-- The handle that a call opens or closes. -/
def Call.event : Call H σ → Option (Event H)
  | .opened h => some (.opened h)
  | .close h => some (.closed h)
  | _ => none

/-- The handles that some calls open and close. -/
def events (calls : List (Call H σ)) : List (Event H) := calls.filterMap Call.event

theorem events_cons (c : Call H σ) (calls : List (Call H σ)) :
    events (c :: calls) = c.event.toList ++ events calls := by
  cases c <;> rfl

theorem events_append (a b : List (Call H σ)) : events (a ++ b) = events a ++ events b :=
  List.filterMap_append

theorem events_flatMap {α : Type*} (f : α → List (Call H σ)) (xs : List α) :
    events (xs.flatMap f) = xs.flatMap fun x => events (f x) := by
  induction xs with
  | nil => rfl
  | cons x xs ih => rw [List.flatMap_cons, events_append, ih, List.flatMap_cons]

section

variable [DecidableEq H]

/-- The handles that are open after some events, if only open handles are closed. -/
def account : List (Event H) → Multiset H → Option (Multiset H)
  | [], m => some m
  | .opened h :: es, m => account es (h ::ₘ m)
  | .closed h :: es, m => if h ∈ m then account es (m.erase h) else none

/-- Every handle that is opened is closed again, once, and no other is closed. -/
def IsBalanced (es : List (Event H)) : Prop := account es 0 = some 0

instance (es : List (Event H)) : Decidable (IsBalanced es) := inferInstanceAs (Decidable (_ = _))

theorem account_append (a b : List (Event H)) (m : Multiset H) :
    account (a ++ b) m = (account a m).bind (account b) := by
  induction a generalizing m with
  | nil => rfl
  | cons e a ih =>
    rcases e with h | h
    · exact ih (h ::ₘ m)
    · rw [List.cons_append, account, account]
      split
      · exact ih (m.erase h)
      · rfl

/-- Handles that others have open do not matter. -/
theorem account_add {es : List (Event H)} {m k : Multiset H} (h : account es m = some k)
    (others : Multiset H) : account es (m + others) = some (k + others) := by
  induction es generalizing m with
  | nil =>
    rw [account, Option.some.injEq] at h ⊢
    rw [h]
  | cons e es ih =>
    rcases e with x | x
    · rw [account, ← Multiset.cons_add]
      exact ih h
    · rw [account] at h ⊢
      split at h
      · next hx =>
        rw [if_pos (Multiset.mem_add.2 (.inl hx)), Multiset.erase_add_left_pos others hx]
        exact ih h
      · exact absurd h.symm (Option.some_ne_none _)

/-- **The handles that are open are the same before and after.** -/
theorem IsBalanced.account {es : List (Event H)} (h : IsBalanced es) (m : Multiset H) :
    account es m = some m := by
  have hadd := account_add h m
  rwa [Multiset.zero_add] at hadd

/-- A handle that is opened and closed. -/
theorem isBalanced_pair (h : H) : IsBalanced [.opened h, .closed h] := by
  rw [IsBalanced, HandleStore.account, HandleStore.account, if_pos (Multiset.mem_cons_self h 0),
    Multiset.erase_cons_head]
  rfl

/-- A session on a handle: it is opened, used and closed. -/
theorem isBalanced_session (h : H) {calls tail : List (Call H σ)} (hcalls : events calls = [])
    (htail : events tail = [.closed h]) : IsBalanced (events (.opened h :: calls ++ tail)) := by
  rw [events_append, events_cons, hcalls, htail]
  exact isBalanced_pair h

/-- A handle that is closed and was not opened. -/
theorem not_isBalanced_closed (h : H) (es : List (Event H)) : ¬ IsBalanced (.closed h :: es) := by
  rw [IsBalanced, HandleStore.account, if_neg (Multiset.notMem_zero h)]
  exact (Option.some_ne_none _).symm

/-- Parts that leave handles open leave all of them open together. -/
theorem account_flatMap {α : Type*} {f : α → List (Event H)} {left : α → Multiset H} {xs : List α}
    (h : ∀ x ∈ xs, HandleStore.account (f x) 0 = some (left x)) :
    HandleStore.account (xs.flatMap f) 0 = some (xs.map left).sum := by
  induction xs with
  | nil => rfl
  | cons x xs ih =>
    rw [List.forall_mem_cons] at h
    have hrest := account_add (ih h.2) (left x)
    rw [Multiset.zero_add] at hrest
    rw [List.flatMap_cons, account_append, h.1, Option.bind_some, hrest, List.map_cons,
      List.sum_cons, Multiset.add_comm]

theorem IsBalanced.append {a b : List (Event H)} (ha : IsBalanced a) (hb : IsBalanced b) :
    IsBalanced (a ++ b) := by
  rw [IsBalanced, account_append, ha.account, Option.bind_some, hb.account]

/-- Parts that leave handles open are balanced together only if each of them is. -/
theorem isBalanced_flatMap_iff {α : Type*} {f : α → List (Event H)} {left : α → Multiset H}
    {xs : List α} (h : ∀ x ∈ xs, HandleStore.account (f x) 0 = some (left x)) :
    IsBalanced (xs.flatMap f) ↔ ∀ x ∈ xs, left x = 0 := by
  rw [IsBalanced, account_flatMap h, Option.some.injEq]
  exact List.sum_eq_zero_iff.trans List.forall_mem_map

/-- A run of balanced parts. -/
theorem IsBalanced.flatMap {α : Type*} {f : α → List (Event H)} {xs : List α}
    (h : ∀ x ∈ xs, IsBalanced (f x)) : IsBalanced (xs.flatMap f) := by
  induction xs with
  | nil => rfl
  | cons x xs ih =>
    rw [List.forall_mem_cons] at h
    rw [List.flatMap_cons]
    exact h.1.append (ih h.2)

end

end HandleStore
