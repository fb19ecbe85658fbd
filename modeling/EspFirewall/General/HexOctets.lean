import EspFirewall.General.FormCoding
import EspFirewall.General.Printf
import EspFirewall.General.Strtol

/-!
# Octets in hexadecimal, with colons between them

The text that `%02X:%02X:…` prints, and that `%hhX` reads each octet back from it: two digits, and
what stands behind them is a colon or nothing.
-/

set_option autoImplicit false

namespace CLang

open FormCoding (hexDigit hexValue_hexDigit)

/-- An octet as `%02X` prints it. -/
def hexOctet (b : UInt8) : Bytes := [hexDigit (b / 16), hexDigit (b % 16)]

/-- The two digits of an octet are below 16. -/
theorem octet_halves (b : UInt8) : b / 16 < 16 ∧ b % 16 < 16 :=
  ⟨by grind, b.mod_lt (by decide)⟩

/-- Octets, with colons between them. -/
def octetsText : List UInt8 → Bytes
  | [] => []
  | [b] => hexOctet b
  | b :: bs => hexOctet b ++ 58 :: octetsText bs

/-- The format of that many octets. -/
def octetsFormat : ℕ → Bytes
  | 0 => []
  | 1 => ascii "%02X"
  | n + 1 => ascii "%02X" ++ 58 :: octetsFormat n

/-- Two digits an octet, and a colon behind each but the last. -/
theorem octetsText_length (bs : List UInt8) : (octetsText bs).length = 3 * bs.length - 1 := by
  induction bs using octetsText.induct with
  | case1 => rfl
  | case2 b => rfl
  | case3 b bs hne ih =>
    have hpos : 0 < bs.length := List.length_pos_iff.2 hne
    rw [octetsText, List.length_append, List.length_cons, List.length_cons, ih, hexOctet,
      List.length_cons, List.length_singleton]
    · omega
    · exact hne

/-! ## Printing -/

theorem digitChar_toUpper {n : ℕ} (hn : n < 16) :
    n.digitChar.toUpper.val.toUInt8 = hexDigit (UInt8.ofNat n) := by
  have hall : ∀ k : Fin 16, k.val.digitChar.toUpper.val.toUInt8 = hexDigit (UInt8.ofNat k) := by
    decide
  exact hall ⟨n, hn⟩

/-- `%02X`. -/
theorem formatFrom_02X (v : ℤ) (fmt : Bytes) (args : List Arg) :
    formatFrom .text (ascii "%02X" ++ fmt) (.int v :: args) =
      (formatFrom .text fmt args).map (Spec.pad ⟨false, true, some 2⟩
        ((Nat.toDigits 16 (v % 4294967296).toNat).map fun c => c.toUpper.val.toUInt8) ++ ·) := by
  have hspec : ascii "%02X" = [37, 48, 50, 88] := by decide
  rw [hspec]
  simp [formatFrom, directive, Spec.start]

/-- **`%02X` prints the two digits of an octet.** -/
theorem formatFrom_hexOctet (b : UInt8) (fmt : Bytes) (args : List Arg) :
    formatFrom .text (ascii "%02X" ++ fmt) (.int b.toNat :: args) =
      (formatFrom .text fmt args).map (hexOctet b ++ ·) := by
  have hb : b.toNat < 256 := b.toNat_lt
  have hmod : ((b.toNat : ℤ) % 4294967296).toNat = b.toNat := by omega
  have hhi : UInt8.ofNat (b.toNat / 16) = b / 16 := by
    rw [← UInt8.toNat_inj, UInt8.toNat_ofNat', UInt8.toNat_div, Nat.mod_eq_of_lt (by omega)]
    rfl
  have hlo : UInt8.ofNat (b.toNat % 16) = b % 16 := by
    rw [← UInt8.toNat_inj, UInt8.toNat_ofNat', UInt8.toNat_mod, Nat.mod_eq_of_lt (by omega)]
    rfl
  rw [formatFrom_02X, hmod, hexOctet, ← hhi, ← hlo]
  by_cases hsmall : b.toNat < 16
  · rw [Nat.toDigits_of_lt_base hsmall, Nat.div_eq_of_lt hsmall, Nat.mod_eq_of_lt hsmall,
      ← digitChar_toUpper hsmall]
    rfl
  · rw [Nat.toDigits_of_base_le (by decide) (Nat.le_of_not_lt hsmall),
      Nat.toDigits_of_lt_base (by omega), ← digitChar_toUpper (by omega : b.toNat / 16 < 16),
      ← digitChar_toUpper (by omega : b.toNat % 16 < 16)]
    rfl

/-- The colon between two octets is copied. -/
theorem formatFrom_colon (fmt : Bytes) (args : List Arg) :
    formatFrom .text (58 :: fmt) args = (formatFrom .text fmt args).map (58 :: ·) := by
  rw [formatFrom, if_neg (by decide)]

/-- **The text that the format prints.** -/
theorem format_octetsFormat (bs : List UInt8) :
    format (octetsFormat bs.length) (bs.map fun b => .int b.toNat) = some (octetsText bs) := by
  rw [format]
  induction bs using octetsText.induct with
  | case1 => rfl
  | case2 b => exact formatFrom_hexOctet b [] []
  | case3 b bs hne ih =>
    rw [List.length_cons, octetsFormat, List.map_cons, formatFrom_hexOctet, formatFrom_colon, ih,
      octetsText]
    · rfl
    · exact hne
    · exact fun h => hne (List.eq_nil_of_length_eq_zero h)

/-- The digits are not NUL. -/
theorem hexOctet_nulFree (b : UInt8) : 0 ∉ hexOctet b := by
  have hall : ∀ k : Fin 16, 0 ≠ hexDigit (UInt8.ofNat k) := by decide
  have hne : ∀ n : UInt8, n < 16 → 0 ≠ hexDigit n := by
    intro n hn
    have hk := hall ⟨n.toNat, hn⟩
    rwa [UInt8.ofNat_toNat] at hk
  rw [hexOctet, List.mem_cons, List.mem_singleton, not_or]
  exact ⟨hne _ (octet_halves b).1, hne _ (octet_halves b).2⟩

theorem octetsText_nulFree (bs : List UInt8) : 0 ∉ octetsText bs := by
  induction bs using octetsText.induct with
  | case1 => exact List.not_mem_nil
  | case2 b => exact hexOctet_nulFree b
  | case3 b bs hne ih =>
    rw [octetsText, List.mem_append, List.mem_cons, not_or, not_or]
    · exact ⟨hexOctet_nulFree b, by decide, ih⟩
    · exact hne

/-! ## Reading -/

/-- A digit is neither a space nor a sign, and not the `x` of a prefix. -/
theorem hexDigit_plain {n : UInt8} (hn : n < 16) :
    isspace (hexDigit n) = false ∧ hexDigit n ≠ 45 ∧ hexDigit n ≠ 43 ∧
      tolower (hexDigit n) ≠ 120 := by
  have hall : ∀ k : Fin 16, isspace (hexDigit (UInt8.ofNat k)) = false ∧
      hexDigit (UInt8.ofNat k) ≠ 45 ∧ hexDigit (UInt8.ofNat k) ≠ 43 ∧
      tolower (hexDigit (UInt8.ofNat k)) ≠ 120 := by decide
  have hk := hall ⟨n.toNat, hn⟩
  rwa [UInt8.ofNat_toNat] at hk

/-- No digit stands at the beginning. -/
def NoDigit (bs : Bytes) : Prop := ∀ b ∈ bs.head?, hexValue b = none

theorem noDigit_nil : NoDigit [] := fun _ h => absurd h (Option.not_mem_none _)

theorem takeWhile_of_noDigit {bs : Bytes} (h : NoDigit bs) :
    bs.takeWhile (fun b => (hexValue b).isSome) = [] := by
  cases bs with
  | nil => rfl
  | cons b bs =>
    rw [List.takeWhile_cons_of_neg]
    rw [h b rfl]
    exact Bool.false_ne_true

theorem digitValue_hexDigit {n : UInt8} (hn : n < 16) :
    digitValue 16 (hexDigit n) = some n.toNat := by
  rw [digitValue, hexValue_hexDigit hn]
  exact if_pos hn

theorem readDigits_hexOctet (b : UInt8) : readDigits 16 0 (hexOctet b) = b.toNat := by
  rw [hexOctet, readDigits, digitValue_hexDigit (octet_halves b).1]
  dsimp only
  rw [readDigits, digitValue_hexDigit (octet_halves b).2]
  dsimp only
  rw [readDigits, UInt8.toNat_div, UInt8.toNat_mod, Nat.mul_zero, Nat.zero_add]
  exact Nat.div_add_mod b.toNat 16

/-- The two digits are no prefix, as the second one is not an `x`. -/
theorem skipHexPrefix_hexOctet (b : UInt8) (rest : Bytes) :
    skipHexPrefix (hexOctet b ++ rest) = hexOctet b ++ rest := by
  obtain ⟨-, -, -, hx⟩ := hexDigit_plain (octet_halves b).2
  rw [hexOctet, List.cons_append, List.cons_append, List.nil_append]
  unfold skipHexPrefix
  split
  · next heq =>
    simp only [List.cons.injEq] at heq
    obtain ⟨h0, h1, h2⟩ := heq
    rw [if_neg (fun h => hx (h1 ▸ h.1)), h0, h1, h2]
  · rfl

theorem takeWhile_hexOctet (b : UInt8) {rest : Bytes} (hrest : NoDigit rest) :
    (hexOctet b ++ rest).takeWhile (fun b => (hexValue b).isSome) = hexOctet b := by
  have hall : ∀ c ∈ hexOctet b, (hexValue c).isSome = true := by
    simp [hexOctet, hexValue_hexDigit (octet_halves b).1, hexValue_hexDigit (octet_halves b).2]
  rw [List.takeWhile_append_of_pos hall, takeWhile_of_noDigit hrest, List.append_nil]

/-- **`%hhX` reads an octet back**, if no digit follows. -/
theorem scanHhX_hexOctet (b : UInt8) {rest : Bytes} (hrest : NoDigit rest) :
    scanHhX 32 (hexOctet b ++ rest) = some (b, rest) := by
  have hlt : b.toNat < 256 := b.toNat_lt
  obtain ⟨hspace, hminus, hplus, -⟩ := hexDigit_plain (octet_halves b).1
  have hdrop : (hexOctet b ++ rest).dropWhile isspace = hexOctet b ++ rest := by
    rw [hexOctet, List.cons_append, List.dropWhile_cons_of_neg]
    rw [hspace]
    exact Bool.false_ne_true
  have hsign : readSign (hexOctet b ++ rest) = (false, hexOctet b ++ rest) := by
    rw [hexOctet, List.cons_append, readSign]
    · exact fun _ h => hminus (List.cons.inj h).1
    · exact fun _ h => hplus (List.cons.inj h).1
  have hvalue : toUnsigned 32 false b.toNat = ((b.toNat : ℤ), false) := by
    rw [toUnsigned, if_neg (by omega), if_neg Bool.false_ne_true]
  have hne : hexOctet b ≠ [] := List.cons_ne_nil _ _
  rw [scanHhX, hdrop, hsign]
  dsimp only
  rw [skipHexPrefix_hexOctet, takeWhile_hexOctet b hrest, if_neg hne,
    List.drop_left, readDigits_hexOctet, hvalue, Int.toNat_natCast, UInt8.ofNat_toNat]

end CLang
