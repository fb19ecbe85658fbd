import Mathlib.Data.Int.Notation
import Mathlib.Logic.Function.Basic
import Mathlib.Tactic.Common

/-!
# An array with a count

C code often keeps a list in an array, with an `int` that counts the slots in use.  An element is
appended by a store to the slot behind them, and taken out by a loop that moves those behind it up
by one.

`CountedArray` has all the slots that memory has, also those that no array of C has, and a count that
may be negative: nothing about the list is built into it.  `toList` is the list that it stands for,
and `toList_push` and `toList_erase` say that the two loops do to it what they are meant to.
-/

set_option autoImplicit false

universe u

/-- An array and the count of its slots in use. -/
structure CountedArray (α : Type u) where
  slots : ℤ → α
  count : ℤ

namespace CountedArray

variable {α : Type u}

/-! ## What the code does -/

/-- `if (count < cap) { slots[count] = x; count++; }` -/
def push (cap : ℤ) (x : α) (a : CountedArray α) : CountedArray α :=
  if a.count < cap then ⟨Function.update a.slots a.count x, a.count + 1⟩ else a

/-- `slots[j] = slots[j + 1]`, for so many `j` from one on. -/
def shiftDown (slots : ℤ → α) (j : ℤ) : ℕ → ℤ → α
  | 0 => slots
  | n + 1 => shiftDown (Function.update slots j (slots (j + 1))) (j + 1) n

/-- The loop that looks for an element in so many slots from `i` on, and takes out the first that it
finds. -/
def eraseFrom [BEq α] (x : α) (a : CountedArray α) (i : ℤ) : ℕ → CountedArray α
  | 0 => a
  | n + 1 =>
    if a.slots i == x then ⟨shiftDown a.slots i (a.count - 1 - i).toNat, a.count - 1⟩
    else eraseFrom x a (i + 1) n

/-- It looks in the slots in use. -/
def erase [BEq α] (x : α) (a : CountedArray α) : CountedArray α :=
  eraseFrom x a 0 a.count.toNat

/-! ## The list -/

/-- What so many slots hold, from one on. -/
def entries (slots : ℤ → α) (i : ℤ) : ℕ → List α
  | 0 => []
  | n + 1 => slots i :: entries slots (i + 1) n

/-- What the slots in use hold. -/
def toList (a : CountedArray α) : List α := entries a.slots 0 a.count.toNat

theorem length_entries (slots : ℤ → α) (i : ℤ) (n : ℕ) : (entries slots i n).length = n := by
  induction n generalizing i with
  | zero => rfl
  | succ n ih => rw [entries, List.length_cons, ih]

theorem length_toList (a : CountedArray α) : a.toList.length = a.count.toNat := length_entries ..

theorem entries_congr {slots slots' : ℤ → α} {i : ℤ} {n : ℕ}
    (h : ∀ k, i ≤ k → k < i + n → slots k = slots' k) : entries slots i n = entries slots' i n := by
  induction n generalizing i with
  | zero => rfl
  | succ n ih =>
    rw [entries, entries, h i (Int.le_refl i) (by omega),
      ih fun k hk hlt => h k (by omega) (by omega)]

theorem entries_succ_last (slots : ℤ → α) (i : ℤ) (n : ℕ) :
    entries slots i (n + 1) = entries slots i n ++ [slots (i + n)] := by
  induction n generalizing i with
  | zero =>
    rw [entries, entries, entries, List.nil_append, Int.natCast_zero, Int.add_zero]
  | succ n ih =>
    rw [entries, ih, entries, List.cons_append]
    congr 4
    omega

/-- **Appending** an element, if there is room. -/
theorem toList_push {cap : ℤ} (x : α) {a : CountedArray α} (hpos : 0 ≤ a.count)
    (hroom : a.count < cap) : (a.push cap x).toList = a.toList ++ [x] := by
  have hcount : (a.count + 1).toNat = a.count.toNat + 1 := by omega
  have hlast : 0 + (a.count.toNat : ℤ) = a.count := by omega
  rw [push, if_pos hroom, toList, toList]
  dsimp only
  rw [hcount, entries_succ_last, hlast, Function.update_self]
  refine congrArg (· ++ [x]) (entries_congr fun k _ hk => Function.update_of_ne ?_ ..)
  omega

/-- The loop that moves elements up leaves the slots before them alone. -/
theorem shiftDown_of_lt {slots : ℤ → α} {j k : ℤ} {n : ℕ} (h : k < j) :
    shiftDown slots j n k = slots k := by
  induction n generalizing slots j with
  | zero => rfl
  | succ n ih =>
    rw [shiftDown, ih (by omega), Function.update_of_ne (by omega)]

/-- It moves each of them by one. -/
theorem entries_shiftDown (slots : ℤ → α) (j : ℤ) (n : ℕ) :
    entries (shiftDown slots j n) j n = entries slots (j + 1) n := by
  induction n generalizing slots j with
  | zero => rfl
  | succ n ih =>
    rw [shiftDown, entries, entries, ih, shiftDown_of_lt (by omega), Function.update_self]
    exact congrArg _ (entries_congr fun k hk _ => Function.update_of_ne (by omega) ..)

variable [BEq α] [LawfulBEq α]

/-- The loop that looks for an element, from the slot `i` on: the slots before it stay, and the list
behind them loses the element. -/
theorem eraseFrom_spec (x : α) {a : CountedArray α} {i : ℤ} {n : ℕ} (hcount : a.count = i + n) :
    (∀ k < i, (eraseFrom x a i n).slots k = a.slots k) ∧ i ≤ (eraseFrom x a i n).count ∧
      entries (eraseFrom x a i n).slots i ((eraseFrom x a i n).count - i).toNat =
        (entries a.slots i n).erase x := by
  induction n generalizing i with
  | zero =>
    have hzero : (a.count - i).toNat = 0 := by omega
    refine ⟨fun _ _ => rfl, by rw [eraseFrom]; omega, ?_⟩
    rw [eraseFrom, hzero]
    rfl
  | succ n ih =>
    rw [eraseFrom]
    split
    · next hx =>
      have hrest : (a.count - 1 - i).toNat = n := by omega
      refine ⟨fun k hk => shiftDown_of_lt hk, by dsimp only; omega, ?_⟩
      dsimp only
      rw [hrest, entries_shiftDown, entries, eq_of_beq hx, List.erase_cons_head]
    · next hx =>
      obtain ⟨hbefore, hle, hrest⟩ := ih (i := i + 1) (by omega)
      have hlen : ((eraseFrom x a (i + 1) n).count - i).toNat =
          ((eraseFrom x a (i + 1) n).count - (i + 1)).toNat + 1 := by omega
      refine ⟨fun k hk => hbefore k (by omega), by omega, ?_⟩
      rw [hlen, entries, hrest, hbefore i (by omega), entries,
        List.erase_cons_tail hx]

/-- **Taking an element out.** -/
theorem toList_erase (x : α) {a : CountedArray α} (hpos : 0 ≤ a.count) :
    (a.erase x).toList = a.toList.erase x := by
  obtain ⟨-, -, hlist⟩ := eraseFrom_spec x (i := 0) (n := a.count.toNat) (a := a) (by omega)
  rw [Int.sub_zero] at hlist
  exact hlist

theorem erase_count_nonneg (x : α) {a : CountedArray α} (hpos : 0 ≤ a.count) :
    0 ≤ (a.erase x).count :=
  (eraseFrom_spec x (i := 0) (n := a.count.toNat) (a := a) (by omega)).2.1

end CountedArray
