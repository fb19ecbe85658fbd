import EspFirewall.General.CString

/-!
# Numbers in strings

`strtol` and `strtoul` of `<stdlib.h>` with base 0, where a `long` has `w` bits: white space, a sign,
a prefix that gives the base, and as many digits as there are.  Each returns the number, clamped to
the type, and whether it sets `errno` to `ERANGE`; it leaves `errno` alone otherwise.

The conversion `%hhX` of `sscanf` reads a number in the same way, in base 16, and keeps its low byte.
-/

set_option autoImplicit false

namespace CLang

/-- `isspace` in the C locale. -/
def isspace (b : UInt8) : Bool := b = 32 || (9 ≤ b && b ≤ 13)

/-- The value of a digit in base 8, 10 or 16. -/
def digitValue (base : ℕ) (b : UInt8) : Option ℕ :=
  match hexValue b with
  | some x => if x.toNat < base then some x.toNat else none
  | none => none

/-- The digits at the beginning, read behind digits with the value `n`. -/
def readDigits (base : ℕ) (n : ℕ) : Bytes → ℕ
  | [] => n
  | b :: rest =>
    match digitValue base b with
    | some d => readDigits base (base * n + d) rest
    | none => n

/-- The number at the beginning: hexadecimal behind `0x`, octal behind `0`, decimal otherwise. -/
def readNumber : Bytes → ℕ
  | 48 :: x :: d :: rest =>
    if tolower x = 120 ∧ (hexValue d).isSome then readDigits 16 0 (d :: rest)
    else readDigits 8 0 (x :: d :: rest)
  | 48 :: rest => readDigits 8 0 rest
  | bs => readDigits 10 0 bs

/-- Whether there is a minus sign, and what stands behind the sign. -/
def readSign : Bytes → Bool × Bytes
  | 45 :: rest => (true, rest)
  | 43 :: rest => (false, rest)
  | bs => (false, bs)

/-- Whether there is a minus sign, and the number. -/
def readSigned (s : CString) : Bool × ℕ :=
  let (negative, bs) := readSign (s.bytes.dropWhile isspace)
  (negative, readNumber bs)

/-- `strtol`. -/
def strtol (w : ℕ) (s : CString) : ℤ × Bool :=
  let (negative, n) := readSigned s
  let v : ℤ := if negative then -n else n
  if v < -2 ^ (w - 1) then (-2 ^ (w - 1), true)
  else if 2 ^ (w - 1) - 1 < v then (2 ^ (w - 1) - 1, true)
  else (v, false)

/-- A number in the type `unsigned long`: one with a minus sign is negated in the type. -/
def toUnsigned (w : ℕ) (negative : Bool) (n : ℕ) : ℤ × Bool :=
  if 2 ^ w - 1 < (n : ℤ) then (2 ^ w - 1, true)
  else if negative then (-(n : ℤ) % 2 ^ w, false)
  else (n, false)

/-- `strtoul`. -/
def strtoul (w : ℕ) (s : CString) : ℤ × Bool :=
  let (negative, n) := readSigned s
  toUnsigned w negative n

/-- The number at the beginning of a string, whatever its size: 0 if there is none. -/
def signedNumber (s : CString) : ℤ :=
  let (negative, n) := readSigned s
  if negative then -n else n

/-- What is left of a number in base 16 without the prefix `0x`. -/
def skipHexPrefix : Bytes → Bytes
  | 48 :: x :: d :: rest =>
    if tolower x = 120 ∧ (hexValue d).isSome then d :: rest else 48 :: x :: d :: rest
  | bs => bs

/-- The conversion `%hhX` of `sscanf`: the byte that it stores, if there is a number, and what is
left. -/
def scanHhX (w : ℕ) (bs : Bytes) : Option (UInt8 × Bytes) :=
  let (negative, bs) := readSign (bs.dropWhile isspace)
  let bs := skipHexPrefix bs
  let digits := bs.takeWhile fun b => (hexValue b).isSome
  if digits = [] then none
  else
    let value := (toUnsigned w negative (readDigits 16 0 digits)).1
    some (UInt8.ofNat value.toNat, bs.drop digits.length)

/-- `strtol` clamps the number. -/
theorem strtol_eq (w : ℕ) (s : CString) :
    strtol w s =
      if signedNumber s < -2 ^ (w - 1) then (-2 ^ (w - 1), true)
      else if 2 ^ (w - 1) - 1 < signedNumber s then (2 ^ (w - 1) - 1, true)
      else (signedNumber s, false) := rfl

/-- `strtoul` takes a negative number for its residue, if the number without the sign fits. -/
theorem strtoul_eq (w : ℕ) (s : CString) :
    strtoul w s =
      if -2 ^ w < signedNumber s ∧ signedNumber s < 2 ^ w then (signedNumber s % 2 ^ w, false)
      else (2 ^ w - 1, true) := by
  have hnumber : signedNumber s =
      if (readSigned s).1 then -((readSigned s).2 : ℤ) else (readSigned s).2 := rfl
  have hpos : (0 : ℤ) < 2 ^ w := Int.pow_pos (by decide)
  have hnonneg : 0 ≤ ((readSigned s).2 : ℤ) := Int.natCast_nonneg _
  rw [strtoul]
  dsimp only
  rw [toUnsigned]
  by_cases hsign : (readSigned s).1 = true
  · rw [if_pos hsign] at hnumber ⊢
    rw [← hnumber]
    by_cases hbig : 2 ^ w - 1 < ((readSigned s).2 : ℤ)
    · rw [if_pos hbig, if_neg (by omega)]
    · rw [if_neg hbig, if_pos (by omega)]
  · rw [if_neg hsign] at hnumber ⊢
    rw [← hnumber] at hnonneg ⊢
    by_cases hbig : 2 ^ w - 1 < signedNumber s
    · rw [if_pos hbig, if_neg (by omega)]
    · rw [if_neg hbig, if_pos (by omega), Int.emod_eq_of_lt hnonneg (by omega)]

/-- What `strtol` returns fits into the type. -/
theorem strtol_mem (w : ℕ) (s : CString) :
    -2 ^ (w - 1) ≤ (strtol w s).1 ∧ (strtol w s).1 ≤ 2 ^ (w - 1) - 1 := by
  have hpos : (0 : ℤ) < 2 ^ (w - 1) := Int.pow_pos (by decide)
  rw [strtol]
  dsimp only
  generalize (if (readSigned s).1 = true then -((readSigned s).2 : ℤ) else (readSigned s).2) = v
  split
  · dsimp only
    omega
  split <;> dsimp only <;> omega

/-- What `strtoul` returns fits into the type. -/
theorem strtoul_mem (w : ℕ) (s : CString) :
    0 ≤ (strtoul w s).1 ∧ (strtoul w s).1 ≤ 2 ^ w - 1 := by
  have hpos : (0 : ℤ) < 2 ^ w := Int.pow_pos (by decide)
  rw [strtoul]
  dsimp only
  rw [toUnsigned]
  split
  · dsimp only
    omega
  split
  · have hlo := Int.emod_nonneg (-((readSigned s).2 : ℤ)) (Int.ne_of_gt hpos)
    have hhi := Int.emod_lt_of_pos (-((readSigned s).2 : ℤ)) hpos
    dsimp only
    omega
  · dsimp only
    omega

example : strtol 32 (.lit " -0x1fz") = (-31, false) := by decide

example : strtoul 32 (.lit "4294967296") = (4294967295, true) := by decide

example : scanHhX 32 (ascii "8c:1D") = some (0x8C, ascii ":1D") := by decide

end CLang
