import EspFirewall.General.StepSystem
import EspFirewall.NvsConsole

/-!
# What `nvs_set` makes of its value (`cmd_nvs.c`)

`nvs_set` should store a value that its type has and refuse a number that it does not have, whatever
commands have come before.  `set_value_in_nvs` learns from `errno` that a number was too large for
the variable that `strtol` or one of its relatives is read into.  These set `errno` then and leave it
alone otherwise, and nothing resets it: behind one such number every command is refused, also those
that read no number at all.

A second thing goes wrong with a single command.  `strtoul` takes a number with a minus sign for its
residue, which can be in the range of an unsigned type.

`nvs_set_as_asked_iff` says that, apart from memory for a blob, these are the only cases.
-/

set_option autoImplicit false

namespace EspFirewall

open CLang HandleStore

/-! ## What is asked for -/

/-- A command `nvs_set`, with what its calls return that are no NVS calls. -/
structure SetCommand (H : Type) where
  key : String
  strType : CString
  strValue : CString
  /-- `malloc` gives memory for a blob. -/
  malloc : Bool
  /-- The handle that `nvs_open` gives. -/
  nvs : H

/-- The number types without a sign. -/
def NvsType.unsigned : NvsType → Bool
  | .u8 | .u16 | .u32 | .u64 => true
  | _ => false

/-- The bits of the variable that a number is read into. -/
def NvsType.bits : NvsType → ℕ
  | .i64 | .u64 => 64
  | _ => 32

namespace SetCommand

variable {H : Type}

/-- The type that the command names. -/
abbrev type (c : SetCommand H) : NvsType := strToType c.strType

/-- The number that the command names. -/
abbrev number (c : SetCommand H) : ℤ := signedNumber c.strValue

/-- The NVS calls succeed. -/
def outcome (c : SetCommand H) : SetValueOutcome := ⟨true, c.malloc, true, true, true⟩

/-- The command names a number type. -/
def IsNumber (c : SetCommand H) : Prop := (numberType c.type).isSome = true

/-- The number is one of the type. -/
def InRange (c : SetCommand H) : Prop := c.type.range.1 ≤ c.number ∧ c.number ≤ c.type.range.2

instance (c : SetCommand H) : Decidable c.IsNumber := inferInstanceAs (Decidable (_ = _))

instance (c : SetCommand H) : Decidable c.InRange := inferInstanceAs (Decidable (_ ∧ _))

/-- The value that the command asks for: a number of the type, the string, or the bytes that the
digits stand for. -/
def value (c : SetCommand H) : Option NvsValue :=
  if c.IsNumber then if c.InRange then some (.num c.type c.number) else none
  else if c.type = .str then some (.str c.strValue)
  else if c.type = .blob ∧ c.strValue.strlen % 2 = 0 then
    (unhex c.strValue.bytes).map .blob
  else none

/-- The number does not fit the variable that it is read into; for an unsigned one its sign does not
count. -/
def Overflows (c : SetCommand H) : Prop :=
  c.IsNumber ∧
    if c.type.unsigned then ¬ (-2 ^ c.type.bits < c.number ∧ c.number < 2 ^ c.type.bits)
    else ¬ (-2 ^ (c.type.bits - 1) ≤ c.number ∧ c.number < 2 ^ (c.type.bits - 1))

/-- A negative number for an unsigned type whose residue is in its range. -/
def Wraps (c : SetCommand H) : Prop :=
  c.type.unsigned = true ∧ -2 ^ c.type.bits < c.number ∧ c.number < 0 ∧
    c.number + 2 ^ c.type.bits ≤ c.type.range.2

instance (c : SetCommand H) : Decidable c.Overflows := inferInstanceAs (Decidable (_ ∧ _))

instance (c : SetCommand H) : Decidable c.Wraps := inferInstanceAs (Decidable (_ ∧ _))

end SetCommand

/-! ## Reading a number -/

section

variable {type : NvsType} {t : NumberType}

/-- The bounds that a number is compared with are those of its type. -/
theorem rangeError_of_range (ht : numberType type = some t) {v : ℤ} (hlo : type.range.1 ≤ v)
    (hhi : v ≤ type.range.2) : t.rangeError v = false := by
  cases type with
  | i32 | u32 | i64 | u64 => cases ht; rfl
  | str | blob | any => cases ht
  | _ =>
    cases ht
    rw [NumberType.rangeError, Bool.or_eq_false_iff, decide_eq_false_iff_not,
      decide_eq_false_iff_not, Int.not_lt, Int.not_lt]
    exact ⟨hlo, hhi⟩

theorem isSome_of_unsigned (h : type.unsigned = true) : (numberType type).isSome = true := by
  cases type with
  | u8 | u16 | u32 | u64 => rfl
  | _ => cases h

/-- A type without a sign begins at 0 and fits its variable. -/
theorem range_unsigned (h : type.unsigned = true) :
    type.range.1 = 0 ∧ type.range.2 < 2 ^ type.bits := by
  cases type with
  | u8 | u16 | u32 | u64 => exact ⟨rfl, by decide⟩
  | _ => cases h

/-- A type with a sign fits its variable. -/
theorem range_signed (ht : numberType type = some t) (h : type.unsigned = false) :
    -2 ^ (type.bits - 1) ≤ type.range.1 ∧ type.range.2 < 2 ^ (type.bits - 1) := by
  cases type with
  | u8 | u16 | u32 | u64 => cases h
  | str | blob | any => cases ht
  | _ => exact ⟨by decide, by decide⟩

end

namespace SetCommand

variable {H : Type} {c : SetCommand H} {t : NumberType}

theorem isNumber (ht : numberType c.type = some t) : c.IsNumber := by
  rw [IsNumber, ht]
  rfl

theorem not_isNumber (ht : numberType c.type = none) : ¬ c.IsNumber := by
  rw [IsNumber, ht]
  exact Bool.false_ne_true

theorem type_ne {type : NvsType} (ht : numberType c.type = some t) (hnone : numberType type = none) :
    c.type ≠ type := by
  rintro rfl
  rw [ht] at hnone
  exact absurd hnone (Option.some_ne_none t)

theorem read_unsigned (ht : numberType c.type = some t) (h : c.type.unsigned = true) :
    t.read c.strValue =
      if -2 ^ c.type.bits < c.number ∧ c.number < 2 ^ c.type.bits then
        (c.number % 2 ^ c.type.bits, false)
      else (2 ^ c.type.bits - 1, true) := by
  rw [← strtoul_eq]
  generalize c.type = type at ht h
  cases type with
  | u8 | u16 | u32 | u64 => cases ht; rfl
  | _ => cases h

theorem read_signed (ht : numberType c.type = some t) (h : ¬ c.type.unsigned = true) :
    t.read c.strValue =
      if c.number < -2 ^ (c.type.bits - 1) then (-2 ^ (c.type.bits - 1), true)
      else if 2 ^ (c.type.bits - 1) - 1 < c.number then (2 ^ (c.type.bits - 1) - 1, true)
      else (c.number, false) := by
  rw [← strtol_eq]
  generalize c.type = type at ht h
  cases type with
  | u8 | u16 | u32 | u64 => exact absurd rfl h
  | str | blob | any => cases ht
  | _ => cases ht; rfl

/-- **When `errno` is set.** -/
theorem read_snd_iff (ht : numberType c.type = some t) :
    (t.read c.strValue).2 = true ↔ c.Overflows := by
  rw [Overflows, and_iff_right (isNumber ht)]
  split
  · next hunsigned =>
    rw [read_unsigned ht hunsigned]
    split
    · next hfits => exact iff_of_false Bool.false_ne_true (not_not.2 hfits)
    · next hbig => exact iff_of_true rfl hbig
  · next hsigned =>
    rw [read_signed ht hsigned]
    split
    · next hlow => exact iff_of_true rfl fun h => absurd h.1 (Int.not_le.2 hlow)
    split
    · next hhigh => exact iff_of_true rfl fun h => by omega
    · next hlow hhigh =>
      exact iff_of_false Bool.false_ne_true (not_not.2 ⟨by omega, by omega⟩)

/-- A number of the type is not taken for another. -/
theorem InRange.not_wraps (h : c.InRange) : ¬ c.Wraps := by
  rintro ⟨hunsigned, -, hneg, -⟩
  have hzero := (range_unsigned hunsigned).1
  have hlow := h.1
  omega

/-- A number of the type is read as it is. -/
theorem read_of_inRange (ht : numberType c.type = some t) (h : c.InRange) :
    t.read c.strValue = (c.number, false) := by
  obtain ⟨hlo, hhi⟩ := h
  by_cases hunsigned : c.type.unsigned = true
  · obtain ⟨hzero, hfits⟩ := range_unsigned hunsigned
    rw [read_unsigned ht hunsigned, if_pos (by omega), Int.emod_eq_of_lt (by omega) (by omega)]
  · obtain ⟨hlow, hhigh⟩ := range_signed ht (Bool.eq_false_iff.2 hunsigned)
    rw [read_signed ht hunsigned, if_neg (by omega), if_neg (by omega)]

/-- A negative number without a sign. -/
theorem emod_of_neg {n m : ℤ} (hlow : -m < n) (hneg : n < 0) : n % m = n + m := by
  rw [← Int.add_emod_right, Int.emod_eq_of_lt (by omega) (by omega)]

/-- **What a single command accepts**: the numbers of its type, and those that are taken for one. -/
theorem accepts_iff (ht : numberType c.type = some t) :
    t.rangeError (t.read c.strValue).1 = false ∧ (t.read c.strValue).2 = false ↔
      c.InRange ∨ c.Wraps := by
  constructor
  · rintro ⟨hrange, herange⟩
    have hmem := numberType_range ht c.strValue hrange
    by_cases hunsigned : c.type.unsigned = true
    · rw [read_unsigned ht hunsigned] at hmem herange
      split at herange
      · next hsmall =>
        rw [if_pos hsmall] at hmem
        rcases Int.lt_or_le c.number 0 with hneg | hnonneg
        · rw [emod_of_neg hsmall.1 hneg] at hmem
          exact .inr ⟨hunsigned, hsmall.1, hneg, hmem.2⟩
        · rw [Int.emod_eq_of_lt hnonneg hsmall.2] at hmem
          exact .inl hmem
      · exact absurd herange.symm Bool.false_ne_true
    · rw [read_signed ht hunsigned] at hmem herange
      split at herange
      · exact absurd herange.symm Bool.false_ne_true
      split at herange
      · exact absurd herange.symm Bool.false_ne_true
      · next hlow hhigh =>
        rw [if_neg hlow, if_neg hhigh] at hmem
        exact .inl hmem
  · rintro (h | ⟨hunsigned, hlow, hneg, hhigh⟩)
    · rw [read_of_inRange ht h]
      exact ⟨rangeError_of_range ht h.1 h.2, rfl⟩
    · obtain ⟨hzero, hfits⟩ := range_unsigned hunsigned
      rw [read_unsigned ht hunsigned, if_pos (by omega), emod_of_neg hlow hneg]
      exact ⟨rangeError_of_range ht (by omega) hhigh, rfl⟩

end SetCommand

/-! ## Runs -/

/-- `errno` is `ERANGE`, and what is durable. -/
structure SetState where
  erange : Bool
  stored : NvsParams

namespace SetCommand

variable {H : Type} [DecidableEq H]

/-- What the command returns, and the state behind it. -/
def exec (c : SetCommand H) (s : SetState) : NvsErr × SetState :=
  let r := setValueInNvs c.outcome s.erange c.nvs c.key c.strType c.strValue
  (r.1, ⟨r.2.1, durableAfter s.stored r.2.2⟩)

/-- The state behind some commands. -/
def run (s : SetState) (cs : List (SetCommand H)) : SetState :=
  StepSystem.run (fun s c => (c.exec s).2) s cs

/-- **What should come of a command**: the value that it asks for is stored, and a number that is not
one of its type is refused. -/
def DoesAsAsked (s : SetState) (c : SetCommand H) : Prop :=
  (∀ v, c.value = some v →
    (c.exec s).1 = .ok ∧ (c.exec s).2.stored = putValue (c.key, v) s.stored) ∧
  (c.IsNumber → ¬ c.InRange →
    (c.exec s).1 ≠ .ok ∧ (c.exec s).2.stored c.key = s.stored c.key)

variable {c : SetCommand H} {t : NumberType} {s : SetState}

/-- A value that is written and committed. -/
theorem durableAfter_put (h : H) (w : String × NvsValue) (nvs : NvsParams) :
    durableAfter nvs [.opened h, .write h true (putValue w), .commit h true, .close h] =
      putValue w nvs :=
  durableAfter_session nvs h [putValue w]

/-- A second commit does not matter. -/
theorem durableAfter_put_commit (h : H) (w : String × NvsValue) (nvs : NvsParams) :
    durableAfter nvs
        [.opened h, .write h true (putValue w), .commit h true, .commit h true, .close h] =
      putValue w nvs := by
  simp only [durableAfter, Store.run, List.foldl_cons, List.foldl_nil, Store.after,
    Function.update_self, List.nil_append]
  rfl

/-- A command with a number. -/
theorem exec_number (ht : numberType c.type = some t) :
    c.exec s =
      if s.erange = false ∧ (c.InRange ∨ c.Wraps) then
        (.ok, ⟨false, putValue (c.key, .num c.type (t.read c.strValue).1) s.stored⟩)
      else (.valueTooLong, ⟨s.erange || (t.read c.strValue).2, s.stored⟩) := by
  obtain ⟨before, stored⟩ := s
  have hany : strToType c.strType ≠ .any := type_ne ht rfl
  have haccepts := accepts_iff ht
  rcases hr : t.read c.strValue with ⟨value, erange⟩
  rw [hr] at haccepts
  simp only [← haccepts, exec, setValueInNvs, hany, ht, hr, if_false, outcome, if_true]
  cases hrange : t.rangeError value with
  | true => exact Eq.trans rfl (if_neg fun h => Bool.noConfusion h.2.1).symm
  | false =>
    cases before with
    | true => exact Eq.trans rfl (if_neg fun h => Bool.noConfusion h.1).symm
    | false =>
      cases erange with
      | true => exact Eq.trans rfl (if_neg fun h => Bool.noConfusion h.2.2).symm
      | false =>
        refine Eq.trans ?_ (if_pos ⟨rfl, rfl, rfl⟩).symm
        exact congrArg (fun nvs => (NvsErr.ok, SetState.mk false nvs)) (durableAfter_put ..)

/-- A command with a string. -/
theorem exec_str (h : c.type = .str) :
    c.exec s =
      if s.erange then (.valueTooLong, s)
      else (.ok, ⟨false, putValue (c.key, .str c.strValue) s.stored⟩) := by
  obtain ⟨before, stored⟩ := s
  have hnumber : numberType .str = none := rfl
  simp only [exec, setValueInNvs, h, hnumber, reduceCtorEq, if_false, outcome, if_true]
  cases before with
  | true =>
    exact congrArg (fun nvs => (NvsErr.valueTooLong, SetState.mk true nvs))
      (durableAfter_of_no_commit stored rfl)
  | false => exact congrArg (fun nvs => (NvsErr.ok, SetState.mk false nvs)) (durableAfter_put ..)

/-- A command with the digits of a blob. -/
theorem exec_blob (h : c.type = .blob) (heven : c.strValue.strlen % 2 = 0) {blob : Bytes}
    (hblob : unhex c.strValue.bytes = some blob) :
    c.exec s =
      (if s.erange then .valueTooLong else if c.malloc then .ok else .noMem,
        ⟨s.erange, if c.malloc then putValue (c.key, .blob blob) s.stored else s.stored⟩) := by
  obtain ⟨before, stored⟩ := s
  have hnumber : numberType .blob = none := rfl
  have hodd : c.strValue.strlen % 2 ≠ 1 := by omega
  simp only [exec, setValueInNvs, h, hnumber, reduceCtorEq, if_false, outcome, if_true, storeBlob,
    hodd, hblob]
  cases c.malloc with
  | false => cases before <;> rfl
  | true =>
    -- `store_blob` commits what it writes, and then it is committed once more unless `errno` is set.
    cases before with
    | true =>
      exact congrArg (fun nvs => (NvsErr.valueTooLong, SetState.mk true nvs)) (durableAfter_put ..)
    | false =>
      exact congrArg (fun nvs => (NvsErr.ok, SetState.mk false nvs)) (durableAfter_put_commit ..)

/-- What a command does to `errno`. -/
theorem exec_erange (c : SetCommand H) (s : SetState) :
    (c.exec s).2.erange = true ↔ s.erange = true ∨ c.Overflows := by
  rcases ht : numberType c.type with _ | t
  · have hnone : ¬ c.Overflows := fun h => not_isNumber ht h.1
    rw [or_iff_left hnone]
    simp only [exec, setValueInNvs, ht, outcome, if_true]
    split
    · rfl
    split <;> rfl
  · rw [← read_snd_iff ht, exec_number ht]
    split
    · next h =>
      rw [h.1, ((accepts_iff ht).2 h.2).2]
      exact ⟨.inl, fun h => h.elim id id⟩
    · rw [← Bool.or_eq_true]

/-- A command for which no value is stored does as it is asked if it stores none. -/
theorem doesAsAsked_of_none (hvalue : c.value = none) :
    DoesAsAsked s c ↔ (c.IsNumber → ¬ c.InRange →
      (c.exec s).1 ≠ .ok ∧ (c.exec s).2.stored c.key = s.stored c.key) := by
  refine and_iff_right fun v hv => ?_
  rw [hvalue] at hv
  exact absurd hv.symm (Option.some_ne_none v)

/-- A command that asks for a value does as it is asked if it stores that. -/
theorem doesAsAsked_of_some {v : NvsValue} (hvalue : c.value = some v)
    (hin : c.IsNumber → c.InRange) :
    DoesAsAsked s c ↔
      (c.exec s).1 = .ok ∧ (c.exec s).2.stored = putValue (c.key, v) s.stored := by
  refine (and_iff_left fun hnumber hout => absurd (hin hnumber) hout).trans ⟨fun h => h v hvalue, ?_⟩
  rintro h v' hv'
  rw [hvalue, Option.some.injEq] at hv'
  exact hv' ▸ h

/-- **A command with a number.** -/
theorem doesAsAsked_number (ht : numberType c.type = some t) :
    DoesAsAsked s c ↔ (c.InRange → s.erange = false) ∧ (c.Wraps → s.erange = true) := by
  have hnumber := isNumber ht
  by_cases hin : c.InRange
  · have hvalue : c.value = some (.num c.type c.number) := by
      rw [value, if_pos hnumber, if_pos hin]
    rw [doesAsAsked_of_some hvalue fun _ => hin, exec_number ht, read_of_inRange ht hin,
      forall_prop_of_true hin, and_iff_left fun h => absurd h hin.not_wraps]
    split
    · next h => exact iff_of_true ⟨rfl, rfl⟩ h.1
    · next h => exact iff_of_false (fun hok => NvsErr.noConfusion hok.1) fun hc => h ⟨hc, .inl hin⟩
  · have hvalue : c.value = none := by rw [value, if_pos hnumber, if_neg hin]
    rw [doesAsAsked_of_none hvalue, forall_prop_of_true hnumber, forall_prop_of_true hin,
      exec_number ht, and_iff_right fun h => absurd h hin]
    split
    · next h =>
      refine iff_of_false (fun hne => hne.1 rfl) fun hset => ?_
      exact Bool.false_ne_true (h.1.symm.trans (hset (h.2.resolve_left hin)))
    · next h =>
      refine iff_of_true ⟨NvsErr.noConfusion, rfl⟩ fun hwraps => ?_
      exact Bool.eq_true_of_not_eq_false fun hclear => h ⟨hclear, .inr hwraps⟩

/-- **A command with a string.** -/
theorem doesAsAsked_str (h : c.type = .str) : DoesAsAsked s c ↔ s.erange = false := by
  have hnumber : ¬ c.IsNumber := not_isNumber (by rw [h]; rfl)
  have hvalue : c.value = some (.str c.strValue) := by rw [value, if_neg hnumber, if_pos h]
  rw [doesAsAsked_of_some hvalue fun h => absurd h hnumber, exec_str h]
  split
  · next hset =>
    refine iff_of_false (fun hok => NvsErr.noConfusion hok.1) fun hclear => ?_
    exact Bool.false_ne_true (hclear.symm.trans hset)
  · next hclear => exact iff_of_true ⟨rfl, rfl⟩ (Bool.eq_false_iff.2 hclear)

/-- **A command with a blob.** -/
theorem doesAsAsked_blob (h : c.type = .blob) (heven : c.strValue.strlen % 2 = 0) {blob : Bytes}
    (hblob : unhex c.strValue.bytes = some blob) :
    DoesAsAsked s c ↔ s.erange = false ∧ c.malloc = true := by
  have hnumber : ¬ c.IsNumber := not_isNumber (by rw [h]; rfl)
  have hstr : c.type ≠ .str := fun hstr => NvsType.noConfusion (hstr.symm.trans h)
  have hvalue : c.value = some (.blob blob) := by
    rw [value, if_neg hnumber, if_neg hstr, if_pos ⟨h, heven⟩, hblob]
    rfl
  rw [doesAsAsked_of_some hvalue fun h => absurd h hnumber, exec_blob h heven hblob]
  cases s.erange <;> cases c.malloc <;> simp

/-- **What comes of a command** is what should exactly if it finds `errno` clear when it asks for
a value, and memory if that is a blob, and finds it set when it would take its number for another. -/
theorem doesAsAsked_iff (s : SetState) (c : SetCommand H) :
    DoesAsAsked s c ↔
      (c.value.isSome = true → s.erange = false ∧ (c.type = .blob → c.malloc = true)) ∧
        (c.Wraps → s.erange = true) := by
  rcases ht : numberType c.type with _ | t
  · have hnumber := not_isNumber ht
    have hwraps : ¬ c.Wraps := fun h => hnumber (isSome_of_unsigned h.1)
    rw [and_iff_left fun h => absurd h hwraps]
    rcases hvalue : c.value with _ | v
    · rw [doesAsAsked_of_none hvalue]
      exact iff_of_true (fun h => absurd h hnumber) fun h => absurd h Bool.false_ne_true
    rw [Option.isSome_some, forall_prop_of_true rfl]
    rw [value, if_neg hnumber] at hvalue
    split at hvalue
    · next hstr =>
      have hblob : c.type ≠ .blob := fun h => NvsType.noConfusion (hstr.symm.trans h)
      rw [doesAsAsked_str hstr, and_iff_left fun h => absurd h hblob]
    split at hvalue
    · next hblob =>
      obtain ⟨blob, hunhex, -⟩ := Option.map_eq_some_iff.1 hvalue
      rw [doesAsAsked_blob hblob.1 hblob.2 hunhex, forall_prop_of_true hblob.1]
    · exact absurd hvalue.symm (Option.some_ne_none v)
  · have hblob : c.type ≠ .blob := type_ne ht rfl
    have hvalue : c.value.isSome = true ↔ c.InRange := by
      rw [value, if_pos (isNumber ht)]
      split
      · next hin => exact iff_of_true rfl hin
      · next hout => exact iff_of_false Bool.false_ne_true hout
    rw [doesAsAsked_number ht, hvalue, and_iff_left fun h => absurd h hblob]

/-- `errno` behind some commands. -/
theorem run_erange (s : SetState) (cs : List (SetCommand H)) :
    (run s cs).erange = true ↔ s.erange = true ∨ ∃ c ∈ cs, c.Overflows := by
  induction cs generalizing s with
  | nil =>
    rw [or_iff_left]
    · rfl
    · rintro ⟨c, hc, -⟩
      exact absurd hc List.not_mem_nil
  | cons c cs ih =>
    refine (ih (c.exec s).2).trans ?_
    rw [exec_erange, List.exists_mem_cons_iff, or_assoc]

/-- **When `nvs_set` does as it is asked**, whatever NVS holds and whatever commands came before: a
value that it can store needs an `errno` that no command before has set, and memory if it is a blob,
and a negative number that would be taken for another is refused only if one has. -/
theorem nvs_set_as_asked_iff (stored : NvsParams) (cs : List (SetCommand H)) (c : SetCommand H) :
    DoesAsAsked (run ⟨false, stored⟩ cs) c ↔
      (c.value.isSome = true →
        (∀ e ∈ cs, ¬ e.Overflows) ∧ (c.type = .blob → c.malloc = true)) ∧
      (c.Wraps → ∃ e ∈ cs, e.Overflows) := by
  have herange : (run ⟨false, stored⟩ cs).erange = true ↔ ∃ e ∈ cs, e.Overflows := by
    rw [run_erange]
    exact or_iff_right Bool.false_ne_true
  have hclear : (run ⟨false, stored⟩ cs).erange = false ↔ ∀ e ∈ cs, ¬ e.Overflows := by
    rw [← Bool.not_eq_true, herange, not_exists]
    exact forall_congr' fun e => not_and
  rw [doesAsAsked_iff, herange, hclear]

/-- `nvs_set big i32 99999999999`. -/
def tooLarge : SetCommand ℕ := ⟨"big", .lit "i32", .lit "99999999999", true, 1⟩

/-- `nvs_set mode u8 1`. -/
def one : SetCommand ℕ := ⟨"mode", .lit "u8", .lit "1", true, 1⟩

/-- Behind the first, the second is refused. -/
theorem one_refused : ¬ ∀ (stored : NvsParams) (cs : List (SetCommand ℕ)) (c : SetCommand ℕ),
    DoesAsAsked (run ⟨false, stored⟩ cs) c := by
  intro h
  have hone := (doesAsAsked_iff _ _).1 (h (fun _ => none) [tooLarge] one)
  have hclear : (tooLarge.exec ⟨false, fun _ => none⟩).2.erange = false := (hone.1 (by decide)).1
  exact absurd ((exec_erange _ _).2 (.inr (by decide))) (Bool.eq_false_iff.1 hclear)

end SetCommand

end EspFirewall
