import Mathlib.Data.Set.Insert
import Mathlib.Data.List.Induction

/-!
# Sets as histories

A table that things are put into and taken out of is meant to be a set.  What has to be in it can
be said without the table, from the *history* of the operations alone: a key is in the set when the
last operation on that key put it in.

* `SetHistory.members` — the set a history leads to, one operation after the other.
* `SetHistory.on` — what a history does with one key.
* `SetHistory.mem_members_iff` — the two descriptions agree.
-/

set_option autoImplicit false

namespace SetHistory

universe u

/-- What an operation does with its key. -/
inductive Verb
  | insert
  | erase
deriving DecidableEq

/-- An operation on a set. -/
structure Op (κ : Type u) where
  verb : Verb
  key : κ

variable {κ : Type u}

/-- The set after an operation. -/
def after (s : Set κ) (op : Op κ) : Set κ :=
  match op.verb with
  | .insert => insert op.key s
  | .erase => s \ {op.key}

/-- The set after a history of operations, starting with the empty one. -/
def members (h : List (Op κ)) : Set κ := h.foldl after ∅

theorem members_concat (h : List (Op κ)) (op : Op κ) :
    members (h ++ [op]) = after (members h) op := List.foldl_append

/-- An operation is about its key only. -/
theorem mem_after_of_ne {s : Set κ} {op : Op κ} {k : κ} (hk : k ≠ op.key) :
    k ∈ after s op ↔ k ∈ s := by
  rw [after]
  cases op.verb with
  | insert => exact Set.mem_insert_iff.trans (or_iff_right hk)
  | erase => exact and_iff_left hk

/-- A key is in the set until it is erased. -/
theorem mem_after_of_mem {s : Set κ} {op : Op κ} {k : κ} (h : k ∈ s)
    (hop : ¬ (op.verb = .erase ∧ op.key = k)) : k ∈ after s op := by
  rw [after]
  cases hverb : op.verb with
  | insert => exact Set.mem_insert_of_mem _ h
  | erase => exact ⟨h, fun hk => hop ⟨hverb, hk.symm⟩⟩

section On

variable [DecidableEq κ]

/-- What a history does with the key `k`, in order. -/
def on (k : κ) (h : List (Op κ)) : List Verb := (h.filter (·.key = k)).map Op.verb

theorem on_concat_self (h : List (Op κ)) (op : Op κ) :
    on op.key (h ++ [op]) = on op.key h ++ [op.verb] := by
  simp [on, List.filter_append]

theorem on_concat_of_ne {k : κ} {op : Op κ} (hk : op.key ≠ k) (h : List (Op κ)) :
    on k (h ++ [op]) = on k h := by
  simp [on, List.filter_append, hk]

/-- **The last operation decides**: a key is in the set exactly when the last operation on it was
an insertion. -/
theorem mem_members_iff {k : κ} {h : List (Op κ)} :
    k ∈ members h ↔ (on k h).getLast? = some .insert := by
  induction h using List.reverseRecOn with
  | nil => simp [members, on]
  | append_singleton h op ih =>
    rw [members_concat]
    by_cases hk : op.key = k
    · subst hk
      rw [on_concat_self, List.getLast?_concat, Option.some.injEq, after]
      cases op.verb with
      | insert => simp
      | erase => simp
    · rw [on_concat_of_ne hk, ← ih, mem_after_of_ne (Ne.symm hk)]

end On

end SetHistory
