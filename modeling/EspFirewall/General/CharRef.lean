import EspFirewall.General.CString
import Mathlib.Data.List.Infix

/-!
# Character references

How the value of an HTML attribute is decoded: `&#` with decimal digits, `&#x` with hexadecimal ones
and `&` with a name stand for the characters they refer to.  The names are a table of the standard
with some two thousand entries, of which the code here uses none, so the table is a parameter,
`Names`.

**`decode_eq_self_iff`** says which texts decoding leaves alone: those without a character
reference.  That is not immediate, for a reference to `&` can bring about another one; the reason is
that decoding a reference always reduces the number of characters.
-/

set_option autoImplicit false

namespace CharRef

open CLang

/-! ## References -/

/-- The table of names: the name behind the `&`, with its semicolon if it has one, and the characters
it stands for. -/
abbrev Names := Bytes → Option (List Char)

/-- What the table of the standard is like: a name has at least two bytes, all of them ASCII, and
stands for at most two characters. -/
structure Names.Lawful (named : Names) : Prop where
  long : ∀ {n : Bytes} {cs : List Char}, named n = some cs → 2 ≤ n.length
  ascii : ∀ {n : Bytes} {cs : List Char}, named n = some cs → ∀ b ∈ n, b < 128
  short : ∀ {n : Bytes} {cs : List Char}, named n = some cs → cs.length ≤ 2

def isDigit (b : UInt8) : Bool := 48 ≤ b && b ≤ 57

def isAlnum (b : UInt8) : Bool := isDigit b || (65 ≤ b && b ≤ 90) || (97 ≤ b && b ≤ 122)

/-- The number that some digits are. -/
def number (base : ℕ) (ds : Bytes) : ℕ :=
  ds.foldl (fun n d => base * n + ((hexValue d).getD 0).toNat) 0

/-- The characters that numbers from 128 to 159 refer to, which are not those with that number. -/
def c1Table : List (ℕ × Char) :=
  [(0x80, '€'), (0x82, '‚'), (0x83, 'ƒ'), (0x84, '„'), (0x85, '…'), (0x86, '†'), (0x87, '‡'),
    (0x88, 'ˆ'), (0x89, '‰'), (0x8A, 'Š'), (0x8B, '‹'), (0x8C, 'Œ'), (0x8E, 'Ž'), (0x91, '‘'),
    (0x92, '’'), (0x93, '“'), (0x94, '”'), (0x95, '•'), (0x96, '–'), (0x97, '—'), (0x98, '˜'),
    (0x99, '™'), (0x9A, 'š'), (0x9B, '›'), (0x9C, 'œ'), (0x9E, 'ž'), (0x9F, 'Ÿ')]

/-- The character a number refers to. -/
def numberedChar (n : ℕ) : Char :=
  if n = 0 ∨ 0x10FFFF < n ∨ (0xD800 ≤ n ∧ n ≤ 0xDFFF) then Char.ofNat 0xFFFD
  else (c1Table.lookup n).getD (Char.ofNat n)

/-- The digits of a numeric reference, and a semicolon if one follows: how many bytes they are, and
the character. -/
def numericRef (base : ℕ) (digit : UInt8 → Bool) (t : Bytes) : Option (ℕ × List Char) :=
  let ds := t.takeWhile digit
  if ds = [] then none
  else some (ds.length + (if t[ds.length]? = some 59 then 1 else 0), [numberedChar (number base ds)])

/-- The longest name, of at most `k` bytes, that the text begins with. -/
def longestName (named : Names) (t : Bytes) : ℕ → Option (ℕ × List Char)
  | 0 => none
  | k + 1 =>
    match named (t.take (k + 1)) with
    | some cs => some (k + 1, cs)
    | none => longestName named t k

/-- A reference by name.  In an attribute, one without a semicolon does not count if it is followed
by a letter, a digit or a `=`. -/
def namedRef (named : Names) (t : Bytes) : Option (ℕ × List Char) :=
  (longestName named t t.length).filter fun r =>
    (t.take r.1).getLast? == some 59 || !(t[r.1]?.any fun b => isAlnum b || b == 61)

/-- The reference that the text behind a `&` begins with: how many bytes it has, and what it stands
for. -/
def charRef (named : Names) : Bytes → Option (ℕ × List Char)
  | 35 :: x :: t =>
    if x = 120 ∨ x = 88 then
      (numericRef 16 (fun d => (hexValue d).isSome) t).map fun r => (r.1 + 2, r.2)
    else (numericRef 10 isDigit (x :: t)).map fun r => (r.1 + 1, r.2)
  | t => namedRef named t

/-! ## Decoding -/

/-- The bytes of some characters in UTF-8. -/
def utf8 (cs : List Char) : Bytes := cs.flatMap String.utf8EncodeChar

/-- Decode a text of which some bytes belong to the last reference still. -/
def decodeFrom (named : Names) : ℕ → Bytes → Bytes
  | _, [] => []
  | skip + 1, _ :: t => decodeFrom named skip t
  | 0, b :: t =>
    if b = 38 then
      match charRef named t with
      | some (n, cs) => utf8 cs ++ decodeFrom named n t
      | none => b :: decodeFrom named 0 t
    else b :: decodeFrom named 0 t

/-- Decode the value of an attribute. -/
def decode (named : Names) (v : Bytes) : Bytes := decodeFrom named 0 v

variable {named : Names}

theorem decodeFrom_eq_decode (n : ℕ) (v : Bytes) :
    decodeFrom named n v = decode named (v.drop n) := by
  induction v generalizing n with
  | nil => simp [decode, decodeFrom]
  | cons b v ih =>
    cases n with
    | zero => rfl
    | succ n =>
      rw [decodeFrom, ih, List.drop_succ_cons]

theorem decode_cons {b : UInt8} (hb : b ≠ 38) (t : Bytes) :
    decode named (b :: t) = b :: decode named t := by
  rw [decode, decodeFrom, if_neg hb]
  rfl

theorem decode_of_some {n : ℕ} {cs : List Char} {t : Bytes} (h : charRef named t = some (n, cs)) :
    decode named (38 :: t) = utf8 cs ++ decode named (t.drop n) := by
  rw [decode, decodeFrom, if_pos rfl, h]
  exact congrArg _ (decodeFrom_eq_decode n t)

theorem decode_of_none {t : Bytes} (h : charRef named t = none) :
    decode named (38 :: t) = 38 :: decode named t := by
  rw [decode, decodeFrom, if_pos rfl, h]
  rfl

/-! ## Counting characters -/

/-- The number of characters of a text in UTF-8. -/
def characters (v : Bytes) : ℕ := v.countP fun b => b.IsUTF8FirstByte

theorem characters_append (v w : Bytes) : characters (v ++ w) = characters v + characters w :=
  List.countP_append

theorem characters_mono {v w : Bytes} (h : List.Sublist v w) : characters v ≤ characters w :=
  h.countP_le

theorem characters_cons_le (b : UInt8) (v : Bytes) : characters v ≤ characters (b :: v) :=
  characters_mono (List.sublist_cons_self b v)

theorem isUTF8FirstByte_of_lt {b : UInt8} (h : b < 128) : b.IsUTF8FirstByte := by
  have hall : ∀ k : Fin 128, (UInt8.ofNat k.val).IsUTF8FirstByte := by decide
  have hb := hall ⟨b.toNat, UInt8.lt_iff_toNat_lt.1 h⟩
  rwa [UInt8.ofNat_toNat] at hb

theorem characters_of_ascii {v : Bytes} (h : ∀ b ∈ v, b < 128) : characters v = v.length := by
  rw [characters, List.countP_eq_length]
  exact fun b hb => decide_eq_true (isUTF8FirstByte_of_lt (h b hb))

theorem characters_utf8EncodeChar (c : Char) : characters (String.utf8EncodeChar c) = 1 := by
  have hfirst : ∀ i (hi : i < (String.utf8EncodeChar c).length),
      (String.utf8EncodeChar c)[i].IsUTF8FirstByte ↔ i = 0 := fun i hi =>
    UInt8.isUTF8FirstByte_getElem_utf8EncodeChar
  rcases hc : String.utf8EncodeChar c with _ | ⟨b, rest⟩
  · exact absurd hc String.utf8EncodeChar_ne_nil
  rw [hc] at hfirst
  have hb : b.IsUTF8FirstByte := (hfirst 0 (by simp)).2 rfl
  have hrest : rest.countP (fun b => b.IsUTF8FirstByte) = 0 := by
    rw [List.countP_eq_zero]
    intro x hx hfirst'
    obtain ⟨i, hi, rfl⟩ := List.getElem_of_mem hx
    exact absurd ((hfirst (i + 1) (Nat.succ_lt_succ hi)).1 (of_decide_eq_true hfirst'))
      (Nat.succ_ne_zero i)
  rw [characters, List.countP_cons, hrest, if_pos (decide_eq_true hb)]

theorem characters_utf8 (cs : List Char) : characters (utf8 cs) = cs.length := by
  induction cs with
  | nil => rfl
  | cons c cs ih =>
    rw [utf8, List.flatMap_cons, characters_append, characters_utf8EncodeChar, List.length_cons]
    rw [utf8] at ih
    omega

/-! ### What a reference costs -/

/-- What is behind the `&` of a numeric reference is at least one digit, and digits are ASCII. -/
theorem numericRef_spec {base : ℕ} {digit : UInt8 → Bool} {t : Bytes} {n : ℕ} {cs : List Char}
    (hdigit : ∀ b, digit b = true → b < 128) (h : numericRef base digit t = some (n, cs)) :
    cs.length = 1 ∧ 1 ≤ characters (t.take n) := by
  rw [numericRef] at h
  split at h
  · exact absurd h.symm (Option.some_ne_none _)
  · next hne =>
    obtain ⟨rfl, rfl⟩ := Prod.mk.inj (Option.some.inj h)
    refine ⟨rfl, ?_⟩
    have hinitial : t.takeWhile digit <+: t.take ((t.takeWhile digit).length +
        if t[(t.takeWhile digit).length]? = some 59 then 1 else 0) :=
      List.prefix_take_iff.2 ⟨List.takeWhile_prefix _, Nat.le_add_right _ _⟩
    have hascii : characters (t.takeWhile digit) = _ :=
      characters_of_ascii fun b hb => hdigit b (List.mem_takeWhile_imp hb)
    have hpos := List.length_pos_of_ne_nil hne
    have hle := characters_mono hinitial.sublist
    omega

theorem longestName_spec {t : Bytes} {k n : ℕ} {cs : List Char}
    (h : longestName named t k = some (n, cs)) : n ≤ k ∧ named (t.take n) = some cs := by
  induction k with
  | zero => exact absurd h.symm (Option.some_ne_none _)
  | succ k ih =>
    rw [longestName] at h
    split at h
    · next hname =>
      obtain ⟨rfl, rfl⟩ := Prod.mk.inj (Option.some.inj h)
      exact ⟨Nat.le_refl _, hname⟩
    · exact ⟨Nat.le_succ_of_le (ih h).1, (ih h).2⟩

/-- **What is behind the `&` of a reference has at least as many characters as the reference stands
for.** -/
theorem charRef_spec (hnamed : named.Lawful) {t : Bytes} {n : ℕ} {cs : List Char}
    (h : charRef named t = some (n, cs)) : cs.length ≤ characters (t.take n) := by
  have hhex : ∀ b, (hexValue b).isSome = true → b < 128 := by grind [hexValue]
  have hdec : ∀ b, isDigit b = true → b < 128 := by grind [isDigit]
  rw [charRef.eq_def] at h
  split at h
  · next x t =>
    split at h
    · obtain ⟨⟨m, cs'⟩, hr, heq⟩ := Option.map_eq_some_iff.1 h
      obtain ⟨rfl, rfl⟩ := Prod.mk.inj heq
      obtain ⟨hlen, hpos⟩ := numericRef_spec hhex hr
      rw [hlen]
      exact hpos.trans ((characters_cons_le x _).trans (characters_cons_le 35 _))
    · obtain ⟨⟨m, cs'⟩, hr, heq⟩ := Option.map_eq_some_iff.1 h
      obtain ⟨rfl, rfl⟩ := Prod.mk.inj heq
      obtain ⟨hlen, hpos⟩ := numericRef_spec hdec hr
      rw [hlen]
      exact hpos.trans (characters_cons_le 35 _)
  · obtain ⟨hle, hname⟩ := longestName_spec (Option.eq_some_of_filter_eq_some h)
    rw [characters_of_ascii (hnamed.ascii hname)]
    exact (hnamed.short hname).trans (hnamed.long hname)

/-- Decoding does not add characters. -/
theorem characters_decode_le (hnamed : named.Lawful) (v : Bytes) :
    characters (decode named v) ≤ characters v := by
  induction hn : v.length using Nat.strong_induction_on generalizing v with
  | h n ih =>
    subst hn
    rcases v with _ | ⟨b, t⟩
    · exact Nat.le_refl 0
    have hcons : ∀ c : UInt8, ∀ w, characters (c :: w) = characters [c] + characters w :=
      fun c w => characters_append [c] w
    by_cases hb : b = 38
    · subst hb
      rcases hr : charRef named t with _ | ⟨n, cs⟩
      · rw [decode_of_none hr, hcons, hcons 38 t]
        exact Nat.add_le_add_left (ih _ (Nat.lt_succ_self _) t rfl) _
      · have hdrop := ih _ (Nat.lt_succ_of_le (t.drop_sublist n).length_le) (t.drop n) rfl
        have hspec := charRef_spec hnamed hr
        have htake := characters_append (t.take n) (t.drop n)
        rw [List.take_append_drop] at htake
        rw [decode_of_some hr, characters_append, characters_utf8, hcons]
        omega
    · rw [decode_cons hb, hcons, hcons b t]
      exact Nat.add_le_add_left (ih _ (Nat.lt_succ_self _) t rfl) _

/-- Nothing decodes to a longer text. -/
theorem decode_ne_append (hnamed : named.Lawful) (v : Bytes) {b : UInt8} (hb : b < 128)
    (w : Bytes) : decode named v ≠ v ++ b :: w := by
  intro h
  have hle := characters_decode_le hnamed v
  have hone : characters [b] = 1 :=
    characters_of_ascii fun c hc => List.eq_of_mem_singleton hc ▸ hb
  rw [h, List.append_cons, characters_append, characters_append, hone] at hle
  omega

/-! ## Texts that stay -/

/-- No `&` in the text begins a reference. -/
def NoReference (named : Names) (v : Bytes) : Prop := ∀ t, 38 :: t <:+ v → charRef named t = none

theorem noReference_of_notMem {v : Bytes} (h : 38 ∉ v) : NoReference named v :=
  fun _ ht => absurd (ht.subset List.mem_cons_self) h

/-- A reference makes the text shorter. -/
theorem decode_ne_of_some (hnamed : named.Lawful) {n : ℕ} {cs : List Char} {t : Bytes}
    (h : charRef named t = some (n, cs)) : decode named (38 :: t) ≠ 38 :: t := by
  intro heq
  have hspec := charRef_spec hnamed h
  have hdrop := characters_decode_le hnamed (t.drop n)
  have htake := characters_append (t.take n) (t.drop n)
  have hcons : characters (38 :: t) = 1 + characters t := characters_append [38] t
  rw [List.take_append_drop] at htake
  rw [← heq, decode_of_some h, characters_append, characters_utf8] at hcons
  omega

/-- **Decoding leaves a text alone exactly when there is no reference in it.** -/
theorem decode_eq_self_iff (hnamed : named.Lawful) (v : Bytes) :
    decode named v = v ↔ NoReference named v := by
  induction v with
  | nil => exact ⟨fun _ t ht => absurd (List.suffix_nil.1 ht) (List.cons_ne_nil _ _), fun _ => rfl⟩
  | cons b t ih =>
    have hsuffix : ∀ t', 38 :: t' <:+ b :: t ↔ (38 = b ∧ t' = t) ∨ 38 :: t' <:+ t := by
      intro t'
      rw [List.suffix_cons_iff, List.cons.injEq]
    by_cases hb : b = 38
    · subst hb
      rcases hr : charRef named t with _ | ⟨n, cs⟩
      · rw [decode_of_none hr, List.cons.injEq, and_iff_right rfl, ih]
        refine ⟨fun h t' ht' => ?_, fun h t' ht' => h t' ((hsuffix t').2 (.inr ht'))⟩
        rcases (hsuffix t').1 ht' with ⟨-, rfl⟩ | ht
        · exact hr
        · exact h t' ht
      · refine iff_of_false (decode_ne_of_some hnamed hr) fun h => ?_
        have hnone := h t (List.suffix_refl _)
        rw [hr] at hnone
        exact Option.some_ne_none _ hnone
    · rw [decode_cons hb, List.cons.injEq, and_iff_right rfl, ih]
      refine ⟨fun h t' ht' => ?_, fun h t' ht' => h t' ((hsuffix t').2 (.inr ht'))⟩
      rcases (hsuffix t').1 ht' with ⟨h38, -⟩ | ht
      · exact absurd h38.symm hb
      · exact h t' ht

end CharRef
