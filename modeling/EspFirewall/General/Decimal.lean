import EspFirewall.General.Printf
import EspFirewall.General.Strtol

/-!
# Numbers in decimal

What `%d` and `%u` print is what `strtol` and `strtoul` with base 0 read: a number that is not zero
has no zero in front, so that it is not taken for an octal one.

* `signedNumber_decimal` — a printed number is read back, with its sign.
* `digits_injective` — different numbers are printed differently.
-/

set_option autoImplicit false

namespace CLang

/-- The digit of a number below ten. -/
def decimalDigit (d : ℕ) : UInt8 := UInt8.ofNat (48 + d)

theorem decimalDigit_digitChar {d : ℕ} (hd : d < 10) :
    (Nat.digitChar d).val.toUInt8 = decimalDigit d := by
  have hall : ∀ d : Fin 10, (Nat.digitChar d).val.toUInt8 = decimalDigit d := by decide
  exact hall ⟨d, hd⟩

theorem digits_of_lt {n : ℕ} (h : n < 10) : digits 10 n = [decimalDigit n] := by
  rw [digits, Nat.toDigits_of_lt_base h, List.map_singleton, decimalDigit_digitChar h]

theorem digits_of_le {n : ℕ} (h : 10 ≤ n) :
    digits 10 n = digits 10 (n / 10) ++ [decimalDigit (n % 10)] := by
  rw [digits, Nat.toDigits_of_base_le (by decide) h, List.map_append, List.map_singleton,
    decimalDigit_digitChar (Nat.mod_lt n (by decide))]
  rfl

theorem digitValue_decimalDigit {d : ℕ} (hd : d < 10) :
    digitValue 10 (decimalDigit d) = some d := by
  have hall : ∀ d : Fin 10, digitValue 10 (decimalDigit d) = some d.val := by decide
  exact hall ⟨d, hd⟩

theorem decimalDigit_ne_zero {d : ℕ} (hd : d < 10) (hpos : d ≠ 0) : decimalDigit d ≠ 48 := by
  have hall : ∀ d : Fin 10, d.val ≠ 0 → decimalDigit d ≠ 48 := by decide
  exact hall ⟨d, hd⟩ hpos

/-- A digit is not a sign, not white space and not the terminator. -/
theorem decimalDigit_range {d : ℕ} (hd : d < 10) :
    48 ≤ decimalDigit d ∧ decimalDigit d ≤ 57 := by
  have hall : ∀ d : Fin 10, 48 ≤ decimalDigit d ∧ decimalDigit d ≤ 57 := by decide
  exact hall ⟨d, hd⟩

theorem digits_range {n : ℕ} {b : UInt8} (hb : b ∈ digits 10 n) : 48 ≤ b ∧ b ≤ 57 := by
  induction n using Nat.strongRecOn with
  | ind n ih =>
    by_cases h : n < 10
    · rw [digits_of_lt h, List.mem_singleton] at hb
      exact hb ▸ decimalDigit_range h
    · rw [not_lt] at h
      rw [digits_of_le h, List.mem_append, List.mem_singleton] at hb
      rcases hb with hb | rfl
      · exact ih _ (by omega) hb
      · exact decimalDigit_range (Nat.mod_lt n (by decide))

theorem digits_nulFree (n : ℕ) : 0 ∉ digits 10 n := fun h => absurd (digits_range h).1 (by decide)

/-- The first digit is that of zero only if the number is zero. -/
theorem digits_head {n : ℕ} (hn : n ≠ 0) : ∃ b rest, digits 10 n = b :: rest ∧ b ≠ 48 := by
  induction n using Nat.strongRecOn with
  | ind n ih =>
    by_cases h : n < 10
    · exact ⟨_, [], digits_of_lt h, decimalDigit_ne_zero h hn⟩
    · rw [not_lt] at h
      obtain ⟨b, rest, hdigits, hb⟩ := ih (n / 10) (by omega) (by omega)
      exact ⟨b, rest ++ [decimalDigit (n % 10)], by rw [digits_of_le h, hdigits, List.cons_append],
        hb⟩

/-- **The digits are read back.** -/
theorem readDigits_digits (n : ℕ) (rest : Bytes) :
    readDigits 10 0 (digits 10 n ++ rest) = readDigits 10 n rest := by
  induction n using Nat.strongRecOn generalizing rest with
  | ind n ih =>
    by_cases h : n < 10
    · rw [digits_of_lt h, List.singleton_append, readDigits, digitValue_decimalDigit h]
      simp only [Nat.mul_zero, Nat.zero_add]
    · rw [not_lt] at h
      rw [digits_of_le h, List.append_assoc, ih _ (by omega), List.singleton_append, readDigits,
        digitValue_decimalDigit (Nat.mod_lt n (by decide))]
      simp only [Nat.div_add_mod]

theorem digits_injective : Function.Injective (digits 10) := by
  intro m n h
  have hm := readDigits_digits m []
  have hn := readDigits_digits n []
  rw [h, hn] at hm
  exact hm.symm

/-- **The digits end where they end**: in front of a byte that is not a digit, a number can be taken
off. -/
theorem digits_append_cons_inj {m n : ℕ} {b : UInt8} {as bs : Bytes} (hb : ¬ (48 ≤ b ∧ b ≤ 57)) :
    digits 10 m ++ b :: as = digits 10 n ++ b :: bs ↔ m = n ∧ as = bs := by
  have htake : ∀ (k : ℕ) (rest : Bytes),
      (digits 10 k ++ b :: rest).takeWhile (fun b => decide (48 ≤ b ∧ b ≤ 57)) = digits 10 k := by
    intro k rest
    rw [List.takeWhile_append_of_pos fun b hb => decide_eq_true (digits_range hb),
      List.takeWhile_cons_of_neg (by simpa using hb), List.append_nil]
  constructor
  · intro h
    have hmn : digits 10 m = digits 10 n := by rw [← htake m as, h, htake]
    rw [hmn] at h
    exact ⟨digits_injective hmn, List.tail_eq_of_cons_eq (List.append_cancel_left h)⟩
  · rintro ⟨rfl, rfl⟩
    rfl

/-- `%d` of a number that is not negative. -/
theorem padInt_natCast (n : ℕ) : Spec.start.padInt n = digits 10 n := by
  have hpos : ¬ (n : ℤ) < 0 := by omega
  simp [Spec.padInt, Spec.start, Spec.pad, hpos]

/-- With base 0, too. -/
theorem readNumber_digits (n : ℕ) : readNumber (digits 10 n) = n := by
  by_cases hn : n = 0
  · subst hn
    decide
  · obtain ⟨b, rest, hdigits, hb⟩ := digits_head hn
    have hread := readDigits_digits n []
    rw [List.append_nil, readDigits] at hread
    rw [hdigits] at hread ⊢
    rw [readNumber]
    · exact hread
    · rintro x d rest' heq
      exact absurd (List.cons.inj heq).1 hb
    · rintro rest' heq
      exact absurd (List.cons.inj heq).1 hb

/-! ## With a sign -/

/-- What `%d` prints. -/
def decimal (v : ℤ) : Bytes := (if v < 0 then [45] else []) ++ digits 10 v.natAbs

theorem decimal_nulFree (v : ℤ) : 0 ∉ decimal v := by
  rw [decimal, List.mem_append, not_or]
  refine ⟨?_, digits_nulFree _⟩
  split <;> decide

theorem digits_eq_cons (n : ℕ) : ∃ b rest, digits 10 n = b :: rest ∧ 48 ≤ b ∧ b ≤ 57 := by
  have hne : digits 10 n ≠ [] := by
    rw [digits, ne_eq, List.map_eq_nil_iff]
    exact Nat.toDigits_ne_nil
  obtain ⟨b, rest, heq⟩ := List.exists_cons_of_ne_nil hne
  exact ⟨b, rest, heq, digits_range (heq ▸ List.mem_cons_self)⟩

/-- There is no white space and no sign in front of the digits. -/
theorem readSign_digits (n : ℕ) : readSign (digits 10 n) = (false, digits 10 n) := by
  obtain ⟨b, rest, heq, hle, -⟩ := digits_eq_cons n
  rw [heq, readSign]
  · rintro rest' h
    rw [(List.cons.inj h).1] at hle
    exact absurd hle (by decide)
  · rintro rest' h
    rw [(List.cons.inj h).1] at hle
    exact absurd hle (by decide)

theorem dropWhile_isspace_decimal (v : ℤ) : (decimal v).dropWhile isspace = decimal v := by
  have hhead : ∃ b rest, decimal v = b :: rest ∧ isspace b = false := by
    rw [decimal]
    split
    · exact ⟨45, _, rfl, by decide⟩
    · obtain ⟨b, rest, heq, hlo, hhi⟩ := digits_eq_cons v.natAbs
      refine ⟨b, rest, by rw [List.nil_append, heq], ?_⟩
      have hall : ∀ b : UInt8, 48 ≤ b → isspace b = false := by
        intro b hb
        rw [UInt8.le_iff_toNat_le] at hb
        have h48 : (48 : UInt8).toNat = 48 := rfl
        rw [isspace, Bool.or_eq_false_iff, decide_eq_false_iff_not, Bool.and_eq_false_iff,
          decide_eq_false_iff_not, decide_eq_false_iff_not, UInt8.le_iff_toNat_le,
          UInt8.le_iff_toNat_le]
        have h13 : (13 : UInt8).toNat = 13 := rfl
        refine ⟨?_, .inr (by omega)⟩
        rintro rfl
        exact absurd hb (by decide)
      exact hall b hlo
  obtain ⟨b, rest, heq, hb⟩ := hhead
  rw [heq, List.dropWhile_cons_of_neg (by rw [hb]; exact Bool.false_ne_true)]

/-- **A printed number is read back.** -/
theorem signedNumber_decimal (v : ℤ) {s : CString} (hs : s.bytes = decimal v) :
    signedNumber s = v := by
  have hread : readSigned s = (decide (v < 0), v.natAbs) := by
    rw [readSigned, hs, dropWhile_isspace_decimal, decimal]
    by_cases h : v < 0
    · rw [if_pos h, List.singleton_append, readSign]
      simp only [readNumber_digits, h, decide_true]
    · rw [if_neg h, List.nil_append, readSign_digits]
      simp only [readNumber_digits, h, decide_false]
  rw [signedNumber, hread]
  by_cases h : v < 0
  · simp only [h, decide_true, if_true]
    omega
  · simp only [h, decide_false, Bool.false_eq_true, if_false]
    omega

end CLang
