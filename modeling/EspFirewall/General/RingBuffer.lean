import Mathlib.Data.List.DropRight
import Mathlib.Data.List.OfFn
import Mathlib.Tactic.Common

/-!
# Ring buffers

A ring buffer has `n` slots and the index of the next one to be written.  Writing overwrites the
slot at the index and moves the index on, around the end; reading goes through all the slots, in the
order in which they will be overwritten.

* `RingBuffer.toList` — what reading finds.
* `RingBuffer.toList_push` — writing drops the first of that and adds the new entry behind the last.
* `RingBuffer.toList_pushAll` — so a ring holds the last `n` entries, oldest first.
-/

set_option autoImplicit false

universe u

/-- A ring of `n` slots. -/
structure RingBuffer (n : ℕ) (α : Type u) where
  slots : Fin n → α
  /-- The slot that is written next. -/
  index : ℕ
  /-- There is such a slot. -/
  index_lt : index < n

namespace RingBuffer

variable {n : ℕ} {α : Type u}

/-- The slot that is `i` slots behind the index, around the end. -/
def slot (r : RingBuffer n α) (i : ℕ) : Fin n :=
  ⟨(r.index + i) % n, Nat.mod_lt _ (Nat.zero_lt_of_lt r.index_lt)⟩

/-- Overwrite the slot at the index, and go on to the next. -/
def push (r : RingBuffer n α) (x : α) : RingBuffer n α where
  slots := Function.update r.slots ⟨r.index, r.index_lt⟩ x
  index := (r.index + 1) % n
  index_lt := Nat.mod_lt _ (Nat.zero_lt_of_lt r.index_lt)

/-- One entry after the other. -/
def pushAll (r : RingBuffer n α) (xs : List α) : RingBuffer n α := xs.foldl push r

/-- The entries, from the one that is overwritten next. -/
def toList (r : RingBuffer n α) : List α := List.ofFn fun i : Fin n => r.slots (r.slot i)

@[simp] theorem toList_length (r : RingBuffer n α) : r.toList.length = n := List.length_ofFn

theorem toList_getElem (r : RingBuffer n α) {i : ℕ} (h : i < r.toList.length) :
    r.toList[i] = r.slots (r.slot i) := by
  simp only [toList, List.getElem_ofFn]

theorem slot_push (r : RingBuffer n α) (x : α) (i : ℕ) : (r.push x).slot i = r.slot (i + 1) := by
  refine Fin.ext ?_
  show ((r.index + 1) % n + i) % n = (r.index + (i + 1)) % n
  rw [Nat.mod_add_mod, Nat.add_assoc, Nat.add_comm 1 i]

/-- The index comes around to the slot just written. -/
theorem slot_last (r : RingBuffer n α) : r.slot n = ⟨r.index, r.index_lt⟩ := by
  refine Fin.ext ?_
  show (r.index + n) % n = r.index
  rw [Nat.add_mod_right, Nat.mod_eq_of_lt r.index_lt]

/-- The slots before that are others. -/
theorem slot_ne (r : RingBuffer n α) {i : ℕ} (hpos : 0 < i) (hi : i < n) :
    r.slot i ≠ ⟨r.index, r.index_lt⟩ := by
  intro heq
  have hval : (r.index + i) % n = r.index := congrArg Fin.val heq
  have hindex := r.index_lt
  rcases Nat.lt_or_ge (r.index + i) n with hlt | hge
  · rw [Nat.mod_eq_of_lt hlt] at hval
    omega
  · rw [Nat.mod_eq_sub_mod hge, Nat.mod_eq_of_lt (by omega)] at hval
    omega

/-- **Writing an entry** drops the oldest and adds the new one at the end. -/
theorem toList_push (r : RingBuffer n α) (x : α) : (r.push x).toList = r.toList.tail ++ [x] := by
  have hn : 0 < n := Nat.zero_lt_of_lt r.index_lt
  refine List.ext_getElem ?_ fun i hi _ => ?_
  · rw [toList_length, List.length_append, List.length_tail, toList_length, List.length_singleton]
    omega
  rw [toList_length] at hi
  have hwrite : (r.push x).slots = Function.update r.slots ⟨r.index, r.index_lt⟩ x := rfl
  rw [toList_getElem, slot_push, hwrite]
  rcases Nat.lt_or_ge (i + 1) n with hlt | hge
  · rw [Function.update_of_ne (r.slot_ne (Nat.succ_pos i) hlt), List.getElem_append_left
      (by rw [List.length_tail, toList_length]; omega), List.getElem_tail, toList_getElem]
  · obtain rfl : i + 1 = n := by omega
    rw [slot_last, Function.update_self, List.getElem_append_right
      (by rw [List.length_tail, toList_length]; omega)]
    exact (List.getElem_singleton ..).symm

/-- **What a ring holds**: of what was there and what has been written, as much from the end as it
has slots. -/
theorem toList_pushAll (r : RingBuffer n α) (xs : List α) :
    (r.pushAll xs).toList = (r.toList ++ xs).drop xs.length := by
  have hn : 0 < n := Nat.zero_lt_of_lt r.index_lt
  induction xs using List.reverseRecOn with
  | nil => rw [List.append_nil]; rfl
  | append_singleton xs x ih =>
    have hroom : xs.length + 1 ≤ (r.toList ++ xs).length := by
      rw [List.length_append, toList_length]
      omega
    rw [pushAll, List.foldl_concat, toList_push, ← pushAll, ih, List.tail_drop, ← List.append_assoc,
      List.length_append, List.length_singleton, List.drop_append_of_le_length hroom]

/-- The index goes around once in `n` entries. -/
theorem index_pushAll (r : RingBuffer n α) (xs : List α) :
    (r.pushAll xs).index = (r.index + xs.length) % n := by
  induction xs using List.reverseRecOn with
  | nil => exact (Nat.mod_eq_of_lt r.index_lt).symm
  | append_singleton xs x ih =>
    rw [pushAll, List.foldl_concat, ← pushAll, List.length_append, List.length_singleton,
      ← Nat.add_assoc, ← Nat.mod_add_mod, ← ih]
    rfl

/-- A ring that is filled with one entry. -/
def filled (hn : 0 < n) (x : α) : RingBuffer n α := ⟨fun _ => x, 0, hn⟩

/-- A ring that was filled with `x` holds the last `n` entries that were written, and `x` in the
place of those that are missing. -/
theorem toList_filled_pushAll (hn : 0 < n) (x : α) (xs : List α) :
    ((filled hn x).pushAll xs).toList = List.replicate (n - xs.length) x ++ xs.rtake n := by
  have hfilled : (filled hn x).toList = List.replicate n x := List.ofFn_const n x
  rw [toList_pushAll, hfilled, List.drop_append, List.drop_replicate, List.length_replicate,
    List.rtake]

end RingBuffer
