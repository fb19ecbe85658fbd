import EspFirewall.General.Strtol
import EspFirewall.NvsCommands

/-!
# The NVS commands (`cmd_nvs.c`)

`nvs_set`, `nvs_get`, `nvs_erase` and `nvs_erase_namespace` open a namespace, make one change or read
one value, commit if they wrote, and close.  Here they are as the NVS calls they make; `errno`, which
`strtol` sets and nothing resets, is a parameter and a result.
-/

set_option autoImplicit false

namespace EspFirewall

open CLang HandleStore

/-! ## Types -/

/-- `type_str_pair`. -/
def typeStrPair : List (NvsType × CString) :=
  [(.i8, .lit "i8"), (.u8, .lit "u8"), (.u16, .lit "u16"), (.i16, .lit "i16"), (.u32, .lit "u32"),
    (.i32, .lit "i32"), (.u64, .lit "u64"), (.i64, .lit "i64"), (.str, .lit "str"),
    (.blob, .lit "blob"), (.any, .lit "any")]

/-- `str_to_type`. -/
def strToType (type : CString) : NvsType :=
  match typeStrPair.find? fun p => p.2 = type with
  | some p => p.1
  | none => .any

/-- How `set_value_in_nvs` gets a number: the function that reads it, and the bounds that the number
is compared with, for the types that are narrower than the variable. -/
structure NumberType where
  read : CString → ℤ × Bool
  bounds : Option (ℤ × ℤ)

/-- The branches of `set_value_in_nvs` for the number types. -/
def numberType : NvsType → Option NumberType
  | .i8 => some ⟨strtol 32, some (-128, 127)⟩
  | .u8 => some ⟨strtoul 32, some (0, 255)⟩
  | .i16 => some ⟨strtol 32, some (-32768, 32767)⟩
  | .u16 => some ⟨strtoul 32, some (0, 65535)⟩
  | .i32 => some ⟨strtol 32, none⟩
  | .u32 => some ⟨strtoul 32, none⟩
  | .i64 => some ⟨strtol 64, none⟩
  | .u64 => some ⟨strtoul 64, none⟩
  | _ => none

/-- `range_error`. -/
def NumberType.rangeError (t : NumberType) (value : ℤ) : Bool :=
  match t.bounds with
  | some (lo, hi) => value < lo || hi < value
  | none => false

/-- The least and the greatest number of a type. -/
def NvsType.range : NvsType → ℤ × ℤ
  | .i8 => (-128, 127)
  | .u8 => (0, 255)
  | .i16 => (-32768, 32767)
  | .u16 => (0, 65535)
  | .i32 => (-2 ^ 31, 2 ^ 31 - 1)
  | .u32 => (0, 2 ^ 32 - 1)
  | .i64 => (-2 ^ 63, 2 ^ 63 - 1)
  | .u64 => (0, 2 ^ 64 - 1)
  | _ => (0, 0)

/-- A number that passes the check is one of its type. -/
theorem numberType_range {type : NvsType} {t : NumberType} (ht : numberType type = some t)
    (s : CString) (hcheck : t.rangeError (t.read s).1 = false) :
    type.range.1 ≤ (t.read s).1 ∧ (t.read s).1 ≤ type.range.2 := by
  have hsigned := fun w => strtol_mem w s
  have hunsigned := fun w => strtoul_mem w s
  cases type with
  | i32 => cases ht; exact hsigned 32
  | u32 => cases ht; exact hunsigned 32
  | i64 => cases ht; exact hsigned 64
  | u64 => cases ht; exact hunsigned 64
  | str | blob | any => cases ht
  | _ =>
    cases ht
    rw [NumberType.rangeError, Bool.or_eq_false_iff, decide_eq_false_iff_not,
      decide_eq_false_iff_not, Int.not_lt, Int.not_lt] at hcheck
    exact hcheck

/-! ## The commands -/

/-- What the commands return: `esp_err_t`. -/
inductive NvsErr
  | ok
  | typeMismatch
  | valueTooLong
  | invalidLength
  | noMem
  /-- The error of the NVS call that failed. -/
  | call
deriving DecidableEq

/-- What the calls of `set_value_in_nvs` return; `malloc` and `blobCommitted` are in `store_blob`. -/
structure SetValueOutcome where
  opened : Bool
  malloc : Bool
  wrote : Bool
  blobCommitted : Bool
  committed : Bool

/-- What the characters of a blob stand for, two for a byte. -/
def unhex : Bytes → Option Bytes
  | h :: l :: rest =>
    match hexValue h, hexValue l with
    | some x, some y => (unhex rest).map (((x <<< 4) + y) :: ·)
    | _, _ => none
  | _ => some []

variable {H : Type}

/-- `store_blob`. -/
def storeBlob (out : SetValueOutcome) (nvs : H) (key : String) (strValues : CString) :
    NvsErr × List (Call H NvsParams) :=
  if strValues.strlen % 2 = 1 then (.typeMismatch, [])
  else if out.malloc then
    match unhex strValues.bytes with
    | none => (.typeMismatch, [])
    | some blob =>
      if out.wrote then
        (if out.blobCommitted then .ok else .call,
          [.write nvs true (putValue (key, .blob blob)), .commit nvs out.blobCommitted])
      else (.call, [.write nvs false (putValue (key, .blob blob))])
  else (.noMem, [])

/-- The end of `set_value_in_nvs`, behind the call that stores a value and returns `err`. -/
def finishSetValue (out : SetValueOutcome) (errno : Bool) (nvs : H) (err : NvsErr) :
    NvsErr × List (Call H NvsParams) :=
  if errno then (.valueTooLong, [.close nvs])
  else if err = .ok then
    (if out.committed then .ok else .call, [.commit nvs out.committed, .close nvs])
  else (err, [.close nvs])

/-- `set_value_in_nvs`: what it returns, whether `errno` is `ERANGE` afterwards, and its calls.
`errno` says whether it is before. -/
def setValueInNvs (out : SetValueOutcome) (errno : Bool) (nvs : H) (key : String)
    (strType strValue : CString) : NvsErr × Bool × List (Call H NvsParams) :=
  let type := strToType strType
  if type = .any then (.typeMismatch, errno, [])
  else if out.opened then
    match numberType type with
    | some t =>
      let (value, erange) := t.read strValue
      let errno := errno || erange
      if t.rangeError value then (.valueTooLong, errno, [.opened nvs, .close nvs])
      else if errno then (.valueTooLong, errno, [.opened nvs, .close nvs])
      else
        let r := finishSetValue out errno nvs (if out.wrote then .ok else .call)
        (r.1, errno, .opened nvs :: .write nvs out.wrote (putValue (key, .num type value)) :: r.2)
    | none =>
      if type = .str then
        let r := finishSetValue out errno nvs (if out.wrote then .ok else .call)
        (r.1, errno, .opened nvs :: .write nvs out.wrote (putValue (key, .str strValue)) :: r.2)
      else
        let b := storeBlob out nvs key strValue
        let r := finishSetValue out errno nvs b.1
        (r.1, errno, .opened nvs :: b.2 ++ r.2)
  else (.call, errno, [.openFailed])

/-- What the calls of `get_value_from_nvs` return; the second read is of a string or a blob, behind
the one of its length. -/
structure GetValueOutcome where
  opened : Bool
  found : Bool
  read : Bool

/-- `get_value_from_nvs`. -/
def getValueFromNvs (out : GetValueOutcome) (nvs : H) (strType : CString) :
    NvsErr × List (Call H NvsParams) :=
  let type := strToType strType
  if type = .any then (.typeMismatch, [])
  else if out.opened then
    if type = .str ∨ type = .blob then
      if out.found then
        (if out.read then .ok else .call, [.opened nvs, .read nvs, .read nvs, .close nvs])
      else (.call, [.opened nvs, .read nvs, .close nvs])
    else (if out.found then .ok else .call, [.opened nvs, .read nvs, .close nvs])
  else (.call, [.openFailed])

/-- What the calls of `erase` and `erase_all` return. -/
structure EraseOutcome where
  opened : Bool
  erased : Bool
  committed : Bool

/-- The calls of `erase` and `erase_all` between the first and the last, and what they return. -/
def eraseCalls (out : EraseOutcome) (nvs : H) (f : NvsParams → NvsParams) :
    NvsErr × List (Call H NvsParams) :=
  if out.erased then
    (if out.committed then .ok else .call, [.write nvs true f, .commit nvs out.committed])
  else (.call, [.write nvs false f])

/-- `erase`. -/
def erase (out : EraseOutcome) (nvs : H) (key : String) : NvsErr × List (Call H NvsParams) :=
  if out.opened then
    let r := eraseCalls out nvs fun nvs => Function.update nvs key none
    (r.1, .opened nvs :: r.2 ++ [.close nvs])
  else (.call, [.openFailed])

/-- `erase_all`.  It closes `nvs` in any case; when `nvs_open` has failed, that is the content
`junk` of a variable that was never set.  It returns `ESP_OK` in any case, too. -/
def eraseAll (out : EraseOutcome) (nvs junk : H) : NvsErr × List (Call H NvsParams) :=
  if out.opened then
    (.ok, .opened nvs :: (eraseCalls out nvs fun _ _ => none).2 ++ [.close nvs])
  else (.ok, [.openFailed, .close junk])

end EspFirewall
