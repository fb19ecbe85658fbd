import Mathlib.Data.List.Induction
import Mathlib.Data.List.Nodup

/-!
# The first that come

A register with room for `n` keys takes a key when it comes for the first time, and when it is full
it takes no more.  Whatever comes, it holds the first `n` different keys, in the order in which they
came: `FirstSeen.register`, with the rule for one more key.
-/

set_option autoImplicit false

namespace FirstSeen

universe u

variable {α : Type u} [BEq α]

/-- The first `n` different keys. -/
def register (n : ℕ) (l : List α) : List α := l.eraseDups.take n

variable [LawfulBEq α] {n : ℕ} {a b : α} {l : List α}

theorem eraseDups_concat (l : List α) (a : α) :
    (l ++ [a]).eraseDups = if a ∈ l then l.eraseDups else l.eraseDups ++ [a] := by
  rw [List.eraseDups_append]
  split
  · next h =>
    have hnone : [a].removeAll l = [] := by simp [List.removeAll, h]
    rw [hnone, List.eraseDups_nil, List.append_nil]
  · next h =>
    have hone : [a].removeAll l = [a] := by simp [List.removeAll, h]
    rw [hone]
    rfl

theorem mem_of_mem_register (h : a ∈ register n l) : a ∈ l :=
  List.mem_eraseDups.1 (List.mem_of_mem_take h)

/-- With room left, every key is in the register. -/
theorem mem_register_of_length_lt (hl : (register n l).length < n) : a ∈ register n l ↔ a ∈ l := by
  have hlen : l.eraseDups.length < n := by
    rw [register, List.length_take] at hl
    omega
  rw [register, List.take_of_length_le (Nat.le_of_lt hlen), List.mem_eraseDups]

/-- **One more key** is entered if there is room and it is new. -/
theorem register_concat (n : ℕ) (l : List α) (a : α) : register n (l ++ [a]) =
    if (register n l).length < n ∧ a ∉ register n l then register n l ++ [a]
    else register n l := by
  by_cases hroom : (register n l).length < n
  · have hmem : a ∈ register n l ↔ a ∈ l := mem_register_of_length_lt hroom
    have hlen : l.eraseDups.length < n := by
      rw [register, List.length_take] at hroom
      omega
    rw [register, eraseDups_concat]
    by_cases ha : a ∈ l
    · rw [if_pos ha, if_neg fun h => h.2 (hmem.2 ha), register]
    · rw [if_neg ha, if_pos ⟨hroom, mt hmem.1 ha⟩, register,
        List.take_of_length_le (Nat.le_of_lt hlen), List.take_of_length_le]
      rw [List.length_append]
      exact hlen
  · have hfull : n ≤ l.eraseDups.length := by
      rw [register, List.length_take] at hroom
      omega
    rw [if_neg fun h => hroom h.1, register, register, eraseDups_concat]
    split
    · rfl
    · exact List.take_append_of_le_length hfull

theorem nodup_register (n : ℕ) (l : List α) : (register n l).Nodup := by
  induction l using List.reverseRecOn with
  | nil => simp [register]
  | append_singleton l a ih =>
    rw [register_concat]
    split
    · next h => exact List.nodup_append_comm.1 (List.nodup_cons.2 ⟨h.2, ih⟩)
    · exact ih

/-- Whatever is entered has not come before. -/
theorem of_entered (hbefore : a ∉ register n l) (h : a ∈ register n (l ++ [b])) :
    a = b ∧ b ∉ l := by
  rw [register_concat] at h
  split at h
  · next hnew =>
    obtain rfl : a = b := List.mem_singleton.1 ((List.mem_append.1 h).resolve_left hbefore)
    exact ⟨rfl, mt (mem_register_of_length_lt hnew.1).2 hnew.2⟩
  · exact absurd h hbefore

end FirstSeen
