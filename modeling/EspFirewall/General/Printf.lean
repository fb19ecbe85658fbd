import EspFirewall.General.CString

/-!
# The `printf` family

`CLang.format` interprets a format string over a list of arguments the way C's `vsnprintf` does:
byte by byte, copying ordinary bytes and replacing each conversion specification by the text of
the argument it consumes.  The specifications it renders are `%d`, `%i`, `%u`, `%x`, `%X`, `%c`,
`%s` and `%%`, the first seven with the flags `-` and `0` and a field width, which may be `*`.

The result is an `Option`.  `none` is a call that C leaves undefined — a specification that
consumes an argument the call did not pass, or one of the wrong kind, or that is no specification
at all — or one that uses a specification not listed above.

A call that passes *no* arguments is where format strings go wrong, and the last part is about it:
`format_nil` says that the only specification such a call may contain is `%%`, and
`printsItself_iff` when the text that comes out is the text that went in, up to a given length.
-/

set_option autoImplicit false

namespace CLang

/-- An argument of a variadic call. -/
inductive Arg
  | int (v : ℤ)
  | str (s : CString)
deriving DecidableEq

/-- The flags and the field width of a conversion specification. -/
structure Spec where
  /-- `-`: pad on the right. -/
  minus : Bool
  /-- `0`: pad with zeros. -/
  zero : Bool
  /-- The field width. -/
  width : Option ℕ
deriving DecidableEq

/-- A specification of which only the `%` has been read. -/
def Spec.start : Spec := ⟨false, false, none⟩

/-- The digits of `v`. -/
def digits (base : ℕ) (v : ℕ) : Bytes := (Nat.toDigits base v).map fun c => c.val.toUInt8

/-- Pad a conversion without a sign to its field width. -/
def Spec.pad (s : Spec) (text : Bytes) : Bytes :=
  let fill := s.width.getD 0 - text.length
  if s.minus then text ++ List.replicate fill 32
  else if s.zero then List.replicate fill 48 ++ text
  else List.replicate fill 32 ++ text

/-- Pad a number to its field width: zeros go between the sign and the digits. -/
def Spec.padInt (s : Spec) (v : ℤ) : Bytes :=
  let sign : Bytes := if v < 0 then [45] else []
  let ds := digits 10 v.natAbs
  if s.zero && !s.minus then
    sign ++ List.replicate (s.width.getD 0 - sign.length - ds.length) 48 ++ ds
  else s.pad (sign ++ ds)

/-- What one byte of a specification leads to. -/
inductive Progress
  /-- The specification goes on. -/
  | more (s : Spec) (args : List Arg)
  /-- The specification is complete and has produced a text. -/
  | emit (out : Bytes) (args : List Arg)
  /-- There is no such specification, or not the argument it needs. -/
  | bad
deriving DecidableEq

/-- One byte of a specification: a flag, a digit of the width, a `*` or the conversion itself. -/
def directive (s : Spec) (b : UInt8) (args : List Arg) : Progress :=
  if b = 45 ∧ s.width = none then .more { s with minus := true } args
  else if b = 48 ∧ s.width = none then .more { s with zero := true } args
  else if 48 ≤ b ∧ b ≤ 57 then
    .more { s with width := some (10 * s.width.getD 0 + (b.toNat - 48)) } args
  else match args with
    | [] => .bad
    | .int v :: rest =>
      if b = 42 ∧ s.width = none then
        .more { s with minus := s.minus || decide (v < 0), width := some v.natAbs } rest
      else if b = 100 ∨ b = 105 then .emit (s.padInt v) rest
      else if b = 117 then .emit (s.pad (digits 10 (v % 4294967296).toNat)) rest
      else if b = 120 then .emit (s.pad (digits 16 (v % 4294967296).toNat)) rest
      else if b = 88 then
        .emit (s.pad ((Nat.toDigits 16 (v % 4294967296).toNat).map
          fun c => c.toUpper.val.toUInt8)) rest
      else if b = 99 then .emit (s.pad [UInt8.ofNat (v % 256).toNat]) rest
      else .bad
    | .str t :: rest => if b = 115 then .emit (s.pad t.bytes) rest else .bad

/-- Where the interpreter is in the format. -/
inductive Mode
  /-- Between specifications. -/
  | text
  /-- Behind a `%`. -/
  | percent
  /-- Further into a specification. -/
  | spec (s : Spec)
deriving DecidableEq

/-- The text a format produces from its arguments. -/
def formatFrom : Mode → Bytes → List Arg → Option Bytes
  | .text, [], _ => some []
  | .percent, [], _ => none
  | .spec _, [], _ => none
  | .text, b :: bs, args =>
    if b = 37 then formatFrom .percent bs args else (formatFrom .text bs args).map (b :: ·)
  | .percent, b :: bs, args =>
    if b = 37 then (formatFrom .text bs args).map (37 :: ·)
    else match directive .start b args with
      | .more s args' => formatFrom (.spec s) bs args'
      | .emit out args' => (formatFrom .text bs args').map (out ++ ·)
      | .bad => none
  | .spec s, b :: bs, args =>
    match directive s b args with
    | .more s' args' => formatFrom (.spec s') bs args'
    | .emit out args' => (formatFrom .text bs args').map (out ++ ·)
    | .bad => none

/-- The text a format produces from its arguments, or `none` when the call is undefined. -/
def format (fmt : Bytes) (args : List Arg) : Option Bytes := formatFrom .text fmt args

/-- `vsnprintf` into a `char[n]`: the text is cut to `n - 1` bytes. -/
def vsnprintf {n : ℕ} [NeZero n] (fmt : CString) (args : List Arg) : Option (CharBuf n) :=
  (format fmt.bytes args).map fun out => .strncpy (.ofMem out)

example : format (ascii "%s port=%u") [.str (.lit "web"), .int 8080] =
    some (ascii "web port=8080") := by decide

example : format (ascii "%02X:%02X") [.int 10, .int 255] = some (ascii "0A:FF") := by decide

/-- Text before the first specification is copied. -/
theorem formatFrom_append_of_plain {a : Bytes} (ha : 37 ∉ a) (bs : Bytes) (args : List Arg) :
    formatFrom .text (a ++ bs) args = (formatFrom .text bs args).map (a ++ ·) := by
  induction a with
  | nil => simp
  | cons b a ih =>
    rw [List.mem_cons, not_or] at ha
    rw [List.cons_append, formatFrom, if_neg (Ne.symm ha.1), ih ha.2]
    cases formatFrom .text bs args <;> rfl

/-- `a%s` with the argument `s`. -/
theorem format_append_str {a : Bytes} (ha : 37 ∉ a) (s : CString) :
    format (a ++ [37, 115]) [.str s] = some (a ++ s.bytes) := by
  have hstr : formatFrom .text [37, 115] [.str s] = some s.bytes := by
    simp [formatFrom, directive, Spec.pad, Spec.start]
  rw [format, formatFrom_append_of_plain ha, hstr, Option.map_some]

/-! ## Calls without arguments -/

/-- A specification never produces anything without an argument. -/
theorem directive_nil (s : Spec) (b : UInt8) :
    directive s b [] = .bad ∨ ∃ s', directive s b [] = .more s' [] := by
  rw [directive]
  split
  · exact .inr ⟨_, rfl⟩
  · split
    · exact .inr ⟨_, rfl⟩
    · split
      · exact .inr ⟨_, rfl⟩
      · exact .inl rfl

theorem formatFrom_spec_nil (s : Spec) (bs : Bytes) : formatFrom (.spec s) bs [] = none := by
  induction bs generalizing s with
  | nil => rfl
  | cons b bs ih =>
    rw [formatFrom]
    rcases directive_nil s b with h | ⟨s', h⟩
    · rw [h]
    · rw [h]; exact ih s'

/-- Every `%%` read as `%`; `none` when some other `%` occurs. -/
def undouble : Bytes → Option Bytes
  | [] => some []
  | [b] => if b = 37 then none else some [b]
  | b :: c :: bs =>
    if b = 37 then if c = 37 then (undouble bs).map (37 :: ·) else none
    else (undouble (c :: bs)).map (b :: ·)

theorem undouble_cons_of_ne {b : UInt8} (h : b ≠ 37) (bs : Bytes) :
    undouble (b :: bs) = (undouble bs).map (b :: ·) := by
  cases bs with
  | nil => simp [undouble, h]
  | cons c bs => simp [undouble, h]

theorem undouble_percent (bs : Bytes) :
    undouble (37 :: 37 :: bs) = (undouble bs).map (37 :: ·) := by simp [undouble]

/-- **A call without arguments** is defined when every `%` of its format is doubled, and then
prints the format with each pair read as one. -/
theorem format_nil (fmt : Bytes) : format fmt [] = undouble fmt := by
  rw [format]
  induction fmt using undouble.induct with
  | case1 => rfl
  | case2 => rfl
  | case3 b hb => rw [formatFrom, if_neg hb, undouble, if_neg hb]; rfl
  | case4 bs ih =>
    rw [formatFrom, if_pos rfl, formatFrom, if_pos rfl, undouble_percent, ih]
  | case5 c bs hc =>
    rw [formatFrom, if_pos rfl, formatFrom, if_neg hc, undouble, if_pos rfl, if_neg hc]
    rcases directive_nil .start c with h | ⟨s, h⟩
    · rw [h]
    · rw [h]; exact formatFrom_spec_nil s bs
  | case6 b c bs hb ih =>
    rw [formatFrom, if_neg hb, undouble_cons_of_ne hb, ih]

/-- Every `%` of the text is one of a pair `%%`. -/
def PercentsPaired (d : Bytes) : Prop := (undouble d).isSome = true

instance (d : Bytes) : Decidable (PercentsPaired d) := inferInstanceAs (Decidable (_ = _))

/-! ### When a text prints itself -/

theorem undouble_append_of_plain {a : Bytes} (ha : 37 ∉ a) (bs : Bytes) :
    undouble (a ++ bs) = (undouble bs).map (a ++ ·) := by
  rw [← format_nil, ← format_nil]
  exact formatFrom_append_of_plain ha bs []

/-- A text without a `%` in front makes no difference. -/
theorem percentsPaired_append_iff {a : Bytes} (ha : 37 ∉ a) (bs : Bytes) :
    PercentsPaired (a ++ bs) ↔ PercentsPaired bs := by
  rw [PercentsPaired, PercentsPaired, undouble_append_of_plain ha, Option.isSome_map]

theorem undouble_of_plain {a : Bytes} (ha : 37 ∉ a) : undouble a = some a := by
  simpa [undouble] using undouble_append_of_plain ha []

/-- A run of doubled percent signs comes out half as long. -/
theorem undouble_replicate (j : ℕ) (bs : Bytes) :
    undouble (List.replicate (2 * j) 37 ++ bs) =
      (undouble bs).map (List.replicate j 37 ++ ·) := by
  induction j with
  | zero => simp
  | succ j ih =>
    rw [Nat.mul_succ, List.replicate_succ, List.replicate_succ, List.cons_append, List.cons_append,
      undouble_percent, ih]
    cases undouble bs <;> rfl

/-- The number of percent signs at the start. -/
def percentRun (bs : Bytes) : ℕ := (bs.takeWhile (· == 37)).length

/-- Every `%` of the text is doubled, and the first of them, if there is one before the `n`-th
byte, starts a run that is at least twice as long as what is left of the `n` bytes. -/
def PrintsItself (n : ℕ) (d : Bytes) : Prop :=
  (undouble d).isSome = true ∧
    (37 ∈ d → 2 * (n - (d.takeWhile (· != 37)).length) ≤ percentRun (d.dropWhile (· != 37)))

instance (n : ℕ) (d : Bytes) : Decidable (PrintsItself n d) :=
  inferInstanceAs (Decidable (_ ∧ (_ → _)))

theorem takeWhile_eq_replicate (bs : Bytes) :
    bs.takeWhile (· == 37) = List.replicate (percentRun bs) 37 := by
  rw [List.eq_replicate_iff]
  exact ⟨rfl, fun b hb => by simpa using List.mem_takeWhile_imp hb⟩

theorem head_dropWhile_ne (bs : Bytes) : (bs.dropWhile (· == 37))[0]? ≠ some 37 := by
  intro h
  have hne := List.head?_dropWhile_not (· == (37 : UInt8)) bs
  rw [List.head?_eq_getElem?, h] at hne
  exact absurd hne (by decide)

/-- Undoubling keeps a first byte that is not a percent sign, and makes none out of nothing. -/
theorem undouble_head_ne {bs out : Bytes} (h : undouble bs = some out) (hb : bs[0]? ≠ some 37) :
    out[0]? ≠ some 37 := by
  cases bs with
  | nil => cases h; simp
  | cons b bs =>
    have hne : b ≠ 37 := by simpa using hb
    rw [undouble_cons_of_ne hne, Option.map_eq_some_iff] at h
    obtain ⟨o, -, rfl⟩ := h
    simpa using hne

/-- A run of percent signs in a text whose percent signs are all doubled has even length. -/
theorem even_percentRun {j : ℕ} {bs out : Bytes} (hb : bs[0]? ≠ some 37) :
    undouble (List.replicate (2 * j + 1) 37 ++ bs) ≠ some out := by
  have hone : undouble (37 :: bs) = none := by
    cases bs with
    | nil => rfl
    | cons b bs =>
      have hne : b ≠ 37 := by simpa using hb
      simp [undouble, hne]
  rw [List.replicate_succ', List.append_assoc, List.singleton_append, undouble_replicate, hone]
  simp

/-- Half a run agrees with the run exactly as far as it reaches. -/
theorem take_halved_iff {j : ℕ} (m : ℕ) {o : Bytes} (bs : Bytes) (hj : 0 < j)
    (ho : o[0]? ≠ some 37) :
    (List.replicate j 37 ++ o).take m = (List.replicate (2 * j) 37 ++ bs).take m ↔ m ≤ j := by
  constructor
  · intro h
    by_contra hm
    have hat := congrArg (·[j]?) h
    simp only [List.getElem?_take, if_pos (show j < m by omega)] at hat
    rw [List.getElem?_append_right (by simp), List.length_replicate, Nat.sub_self,
      List.getElem?_append_left (by rw [List.length_replicate]; omega),
      List.getElem?_replicate_of_lt (by omega)] at hat
    exact ho hat
  · intro h
    rw [List.take_append_of_le_length (by simpa using h),
      List.take_append_of_le_length (by rw [List.length_replicate]; omega),
      List.take_replicate, List.take_replicate, Nat.min_eq_left h, Nat.min_eq_left (by omega)]

theorem percentRun_pos {d : Bytes} (h : 37 ∈ d) : 0 < percentRun (d.dropWhile (· != 37)) := by
  induction d with
  | nil => simp at h
  | cons b d ih =>
    by_cases hb : b = 37
    · subst hb
      rw [List.dropWhile_cons_of_neg (by simp), percentRun, List.takeWhile_cons_of_pos (by simp)]
      exact Nat.succ_pos _
    · rw [List.dropWhile_cons_of_pos (by simpa using hb)]
      exact ih ((List.mem_cons.1 h).resolve_left (Ne.symm hb))

/-- A common start does not matter for what the first `n` bytes are. -/
theorem take_append_eq_iff (n : ℕ) (a x y : Bytes) :
    (a ++ x).take n = (a ++ y).take n ↔ x.take (n - a.length) = y.take (n - a.length) := by
  rw [List.take_append, List.take_append, List.append_cancel_left_eq]

/-- **When a text used as a format prints itself**, up to the first `n` bytes. -/
theorem printsItself_iff (n : ℕ) (d : Bytes) :
    (∃ out, format d [] = some out ∧ out.take n = d.take n) ↔ PrintsItself n d := by
  rw [format_nil, PrintsItself]
  by_cases hd : 37 ∈ d
  swap
  · simp [undouble_of_plain hd, hd]
  have ha : (37 : UInt8) ∉ d.takeWhile (· != 37) := fun h => by
    simpa using List.mem_takeWhile_imp h
  have hsplit : d.takeWhile (· != 37) ++ d.dropWhile (· != 37) = d :=
    List.takeWhile_append_dropWhile
  have hpos := percentRun_pos hd
  have hrest := head_dropWhile_ne (d.dropWhile (· != 37))
  have hrun : List.replicate (percentRun (d.dropWhile (· != 37))) 37 ++
      (d.dropWhile (· != 37)).dropWhile (· == 37) = d.dropWhile (· != 37) := by
    rw [← takeWhile_eq_replicate]; exact List.takeWhile_append_dropWhile
  -- `d` is a plain part `a`, then a run of `k` percent signs, then `b`
  generalize d.takeWhile (· != 37) = a at ha hsplit ⊢
  generalize percentRun (d.dropWhile (· != 37)) = k at hpos hrun ⊢
  generalize (d.dropWhile (· != 37)).dropWhile (· == 37) = b at hrest hrun
  rw [← hrun] at hsplit
  subst hsplit
  rw [undouble_append_of_plain ha]
  rcases Nat.even_or_odd' k with ⟨j, rfl | rfl⟩
  · rw [undouble_replicate]
    cases hb : undouble b with
    | none => simp
    | some o =>
      have ho := undouble_head_ne hb hrest
      have hcut := take_halved_iff (n - a.length) b (by omega : 0 < j) ho
      simp only [Option.map_some, Option.some.injEq, exists_eq_left', Option.isSome_some,
        true_and, hd, forall_const, take_append_eq_iff]
      rw [hcut]
      omega
  · have hnone : undouble (List.replicate (2 * j + 1) 37 ++ b) = none := by
      rw [Option.eq_none_iff_forall_ne_some]
      exact fun out => even_percentRun hrest
    simp [hnone]

end CLang
