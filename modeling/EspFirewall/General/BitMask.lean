import Mathlib.Data.Fin.Basic
import Mathlib.Data.Nat.Bitwise
import Mathlib.Tactic.Common

/-!
# Flags packed into a word

The loop that packs an array of flags into a `uint32_t`, and the test that reads a flag back.
Packing at most 32 flags and reading one of them gives the flag: `BitMask.bit_pack`.
-/

set_option autoImplicit false

namespace BitMask

/-- `(m >> i) & 1`, as a truth value. -/
def bit (m : UInt32) (i : ℕ) : Bool := ((m >>> UInt32.ofNat i) &&& 1) != 0

/-- `for (i = 0; i < n; i++) if (f(i)) m |= 1u << i;`, starting with zero. -/
def pack {n : ℕ} (f : Fin n → Bool) : UInt32 :=
  Fin.foldl n (fun m i => if f i then m ||| (1 <<< UInt32.ofNat i.val) else m) 0

/-- A shift by less than the width of the word is by that much. -/
theorem toNat_ofNat_mod {i : ℕ} (hi : i < 32) : (UInt32.ofNat i).toNat % 32 = i := by
  rw [UInt32.toNat_ofNat', Nat.mod_eq_of_lt (by omega : i < 2 ^ 32), Nat.mod_eq_of_lt hi]

theorem bit_eq_testBit (m : UInt32) {i : ℕ} (hi : i < 32) : bit m i = m.toNat.testBit i := by
  have hzero : ((m >>> UInt32.ofNat i) &&& 1 = 0) ↔ m.toNat.testBit i = false := by
    rw [← UInt32.toNat_inj, UInt32.toNat_and, UInt32.toNat_shiftRight, toNat_ofNat_mod hi,
      show (1 : UInt32).toNat = 1 from rfl, show (0 : UInt32).toNat = 0 from rfl,
      Nat.and_one_is_mod, Nat.shiftRight_eq_div_pow, Nat.testBit_eq_decide_div_mod_eq,
      decide_eq_false_iff_not]
    omega
  rw [Bool.eq_iff_iff, bit, bne_iff_ne, ne_eq, hzero, Bool.not_eq_false]

/-- One turn of the loop sets one bit. -/
theorem testBit_or_shift (m : UInt32) {i : ℕ} (hi : i < 32) (k : ℕ) :
    (m ||| (1 <<< UInt32.ofNat i)).toNat.testBit k = (m.toNat.testBit k || decide (i = k)) := by
  have hone : ((1 : UInt32) <<< UInt32.ofNat i).toNat = 2 ^ i := by
    rw [UInt32.toNat_shiftLeft, toNat_ofNat_mod hi, Nat.shiftLeft_eq,
      show (1 : UInt32).toNat = 1 from rfl, Nat.one_mul]
    exact Nat.mod_eq_of_lt (Nat.pow_lt_pow_right (by decide) hi)
  rw [UInt32.toNat_or, hone, Nat.testBit_or, Nat.testBit_two_pow]

theorem testBit_pack {n : ℕ} (hn : n ≤ 32) (f : Fin n → Bool) (k : ℕ) :
    (pack f).toNat.testBit k = if h : k < n then f ⟨k, h⟩ else false := by
  induction n with
  | zero => simp [pack]
  | succ n ih =>
    have hrest := ih (by omega) fun i => f i.castSucc
    rw [pack] at hrest
    rw [pack, Fin.foldl_succ_last]
    have hlast : ∀ m : UInt32, (if f (Fin.last n) then m ||| (1 <<< UInt32.ofNat n) else m
        ).toNat.testBit k = (m.toNat.testBit k || (f (Fin.last n) && decide (n = k))) := by
      intro m
      cases f (Fin.last n) with
      | true => rw [if_pos rfl, testBit_or_shift m (by omega), Bool.true_and]
      | false => simp
    refine (hlast _).trans ?_
    rw [show (Fin.foldl n (fun m i => if f i.castSucc then m ||| (1 <<< UInt32.ofNat i.castSucc.val)
      else m) 0).toNat.testBit k = _ from hrest]
    rcases Nat.lt_trichotomy k n with hlt | rfl | hgt
    · simp [hlt, Nat.lt_succ_of_lt hlt, hlt.ne']
    · simp [Fin.last]
    · simp [hgt.not_gt, hgt.ne, show ¬ k < n + 1 by omega]

/-- **Reading back what was packed.** -/
theorem bit_pack {n : ℕ} (hn : n ≤ 32) (f : Fin n → Bool) (i : Fin n) :
    bit (pack f) i.val = f i := by
  rw [bit_eq_testBit _ (Nat.lt_of_lt_of_le i.isLt hn), testBit_pack hn, dif_pos i.isLt]

end BitMask
