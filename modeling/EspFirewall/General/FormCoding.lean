import EspFirewall.General.CString

/-!
# Form encoding

How a web form spells the bytes of a field in the query of a URL: a byte as it is, unless it is a
`%` or a `+`; a space as `+`; any byte as `%` and two hexadecimal digits of either case.

`Encodes v e` says that `e` is one such spelling of `v`; every byte can be spelled in several ways,
so it is a relation.  `serialize` is the spelling browsers choose.
-/

set_option autoImplicit false

namespace FormCoding

open CLang

/-- `Encodes v e`: the text `e` is a form encoding of `v`. -/
inductive Encodes : Bytes → Bytes → Prop
  | nil : Encodes [] []
  | literal {b : UInt8} {v e : Bytes} (hpercent : b ≠ 37) (hplus : b ≠ 43) :
      Encodes v e → Encodes (b :: v) (b :: e)
  | space {v e : Bytes} : Encodes v e → Encodes (32 :: v) (43 :: e)
  | escape {h l x y : UInt8} {v e : Bytes} (hh : hexValue h = some x) (hl : hexValue l = some y) :
      Encodes v e → Encodes ((16 * x + y) :: v) (37 :: h :: l :: e)

/-! ## The spelling of browsers -/

/-- The bytes that are spelled as they are: letters, digits and `*`, `-`, `.`, `_`. -/
def unreserved (b : UInt8) : Bool :=
  (48 ≤ b && b ≤ 57) || (65 ≤ b && b ≤ 90) || (97 ≤ b && b ≤ 122) ||
    b == 42 || b == 45 || b == 46 || b == 95

/-- The upper-case hexadecimal digit of a number below 16. -/
def hexDigit (n : UInt8) : UInt8 := if n < 10 then n + 48 else n - 10 + 65

/-- The spelling of one byte. -/
def serializeByte (b : UInt8) : Bytes :=
  if unreserved b then [b] else if b = 32 then [43] else [37, hexDigit (b / 16), hexDigit (b % 16)]

/-- The spelling of a field. -/
def serialize (v : Bytes) : Bytes := v.flatMap serializeByte

theorem hexValue_hexDigit {n : UInt8} (hn : n < 16) : hexValue (hexDigit n) = some n := by
  grind [hexDigit, hexValue]

theorem serializeByte_of_unreserved {b : UInt8} (h : unreserved b = true) :
    serializeByte b = [b] := if_pos h

/-- A byte that is spelled as it is is neither of the two that have a meaning. -/
theorem ne_of_unreserved {b : UInt8} (h : unreserved b = true) : b ≠ 37 ∧ b ≠ 43 := by
  refine ⟨?_, ?_⟩
  · rintro rfl
    exact absurd h (by decide)
  · rintro rfl
    exact absurd h (by decide)

/-- **The spelling of browsers is a form encoding.** -/
theorem encodes_serialize (v : Bytes) : Encodes v (serialize v) := by
  induction v with
  | nil => exact .nil
  | cons b v ih =>
    rw [serialize, List.flatMap_cons]
    rcases hb : unreserved b with _ | _
    · by_cases hspace : b = 32
      · subst hspace
        exact .space ih
      · have hsplit : 16 * (b / 16) + b % 16 = b := by grind
        have hescape := Encodes.escape (hexValue_hexDigit (show b / 16 < 16 by grind))
          (hexValue_hexDigit (b.mod_lt (by decide))) ih
        rw [hsplit] at hescape
        rw [serializeByte, hb, if_neg Bool.false_ne_true, if_neg hspace]
        exact hescape
    · rw [serializeByte_of_unreserved hb]
      exact .literal (ne_of_unreserved hb).1 (ne_of_unreserved hb).2 ih

/-! ## Percent-encoding -/

/-- `PercentEncodes v e`: the text `e` is a percent-encoding of `v`, in which a plus sign is no
space. -/
inductive PercentEncodes : Bytes → Bytes → Prop
  | nil : PercentEncodes [] []
  | literal {b : UInt8} {v e : Bytes} (hpercent : b ≠ 37) :
      PercentEncodes v e → PercentEncodes (b :: v) (b :: e)
  | escape {h l x y : UInt8} {v e : Bytes} (hh : hexValue h = some x) (hl : hexValue l = some y) :
      PercentEncodes v e → PercentEncodes ((16 * x + y) :: v) (37 :: h :: l :: e)

/-- A text without a percent sign stands for itself. -/
theorem PercentEncodes.refl {v : Bytes} (h : 37 ∉ v) : PercentEncodes v v := by
  induction v with
  | nil => exact .nil
  | cons b v ih =>
    rw [List.mem_cons, not_or] at h
    exact .literal (Ne.symm h.1) (ih h.2)

theorem PercentEncodes.length_le {v e : Bytes} (h : PercentEncodes v e) : v.length ≤ e.length := by
  induction h with
  | nil => exact Nat.le_refl 0
  | literal _ _ ih => exact Nat.succ_le_succ ih
  | escape _ _ _ ih =>
    simp only [List.length_cons]
    omega

/-- An encoding that escapes anything is longer than the text. -/
theorem PercentEncodes.eq_or_length_lt {v e : Bytes} (h : PercentEncodes v e) :
    e = v ∨ v.length < e.length := by
  induction h with
  | nil => exact .inl rfl
  | literal _ _ ih =>
    rcases ih with rfl | hlt
    · exact .inl rfl
    · exact .inr (Nat.succ_lt_succ hlt)
  | escape _ _ hrest _ =>
    have hle := hrest.length_le
    refine .inr ?_
    simp only [List.length_cons]
    omega

end FormCoding
