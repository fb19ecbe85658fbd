import EspFirewall.General.CString

/-!
# JSON as cJSON hands it over

A `cJSON` item and the parts of the library by which a program looks at one.  An item of one type
has the fields of the others, too: the string is missing from everything but a string, and the
number is zero in everything but a number.

What a number is, and how it is converted, is left open, and so is the parser.
-/

set_option autoImplicit false

namespace CJson

open CLang

universe u

/-- A `cJSON` item. -/
inductive Item (Num : Type u)
  | null
  | bool (b : Bool)
  | number (x : Num)
  | string (s : CString)
  | array (items : List (Item Num))
  | object (members : List (CString × Item Num))

variable {Num : Type u}

/-- The library: the parser, which may refuse its text, and the conversion of the number of an item
to `uint16_t`. -/
structure Library (Num : Type u) where
  /-- `cJSON_Parse`. -/
  parse : CString → Option (Item Num)
  /-- `(uint16_t) valuedouble`, for a number. -/
  toUInt16 : Num → UInt16

/-- `cJSON_Parse` ends behind the value: what follows the brace of an object does not matter. -/
def Library.IgnoresRest (lib : Library Num) : Prop :=
  ∀ a b members, lib.parse (.ofMem a) = some (.object members) →
    lib.parse (.ofMem (a ++ b)) = some (.object members)

/-- A library that parses one text, whatever follows it. -/
def Library.ofText (toUInt16 : Num → UInt16) (text : Bytes) (json : Item Num) : Library Num where
  parse s := if text <+: s.bytes then some json else none
  toUInt16 := toUInt16

theorem Library.ofText_parse {toUInt16 : Num → UInt16} {text : Bytes} {s : CString}
    (h : text <+: s.bytes) (json : Item Num) : (ofText toUInt16 text json).parse s = some json :=
  if_pos h

theorem Library.ofText_parse_none {toUInt16 : Num → UInt16} {text : Bytes} {s : CString}
    (h : ¬ text <+: s.bytes) (json : Item Num) : (ofText toUInt16 text json).parse s = none :=
  if_neg h

theorem Library.ofText_ignoresRest (toUInt16 : Num → UInt16) (text : Bytes) (json : Item Num) :
    (ofText toUInt16 text json).IgnoresRest := by
  intro a b members h
  by_cases hbegin : text <+: (CString.ofMem a).bytes
  · rw [ofText_parse hbegin] at h
    rw [ofText_parse (hbegin.trans (CString.ofMem_prefix a b)), h]
  · rw [ofText_parse_none hbegin] at h
    exact absurd h nofun

namespace Item

/-- `cJSON_GetObjectItem`: the first member with the name, in upper or lower case. -/
def getObjectItem (name : String) : Item Num → Option (Item Num)
  | .object members => (members.find? fun m => strcaseEq (.lit name) m.1).map Prod.snd
  | _ => none

/-- `valuestring`; `none` for `NULL`. -/
def valuestring : Item Num → Option CString
  | .string s => some s
  | _ => none

/-- `cJSON_IsTrue`. -/
def isTrue : Item Num → Bool
  | .bool b => b
  | _ => false

/-- `(uint16_t) valuedouble`, where `valuedouble` is zero for items that are not numbers. -/
def uint16 (lib : Library Num) : Item Num → UInt16
  | .number x => lib.toUInt16 x
  | _ => 0

/-- The item is a string. -/
def IsString (item : Item Num) : Prop := ∃ s, item = .string s

/-- The item is `true` or `false`. -/
def IsBool (item : Item Num) : Prop := ∃ b, item = .bool b

/-- The item is a number. -/
def IsNumber (item : Item Num) : Prop := ∃ x, item = .number x

/-- Only an object has members. -/
theorem getObjectItem_of_not_object {item : Item Num} (h : ∀ members, item ≠ .object members)
    (name : String) : item.getObjectItem name = none := by
  cases item with
  | object members => exact absurd rfl (h members)
  | _ => rfl

/-- The first member is found under its own name. -/
theorem getObjectItem_head (name : String) (x : Item Num) (rest : List (CString × Item Num)) :
    (object ((.lit name, x) :: rest)).getObjectItem name = some x := by
  have hfind : ((CString.lit name, x) :: rest).find? (fun m => strcaseEq (.lit name) m.1) =
      some (.lit name, x) := List.find?_cons_of_pos (strcaseEq_refl (.lit name))
  rw [getObjectItem, hfind]
  rfl

/-- Members with other names are passed over. -/
theorem getObjectItem_skip {name : String} {key : CString} (h : strcaseEq (.lit name) key = false)
    (x : Item Num) (rest : List (CString × Item Num)) :
    (object ((key, x) :: rest)).getObjectItem name = (object rest).getObjectItem name := by
  rw [getObjectItem, getObjectItem, List.find?_cons_of_neg]
  rw [h]
  exact Bool.false_ne_true

theorem valuestring_eq_some_iff {item : Item Num} {s : CString} :
    item.valuestring = some s ↔ item = .string s := by
  cases item with
  | string t => rw [valuestring, Option.some.injEq, string.injEq]
  | _ => exact iff_of_false nofun nofun

/-- The string is missing from everything but a string. -/
theorem valuestring_eq_none_iff {item : Item Num} : item.valuestring = none ↔ ¬ item.IsString := by
  rw [Option.eq_none_iff_forall_ne_some, IsString, not_exists]
  exact forall_congr' fun s => not_congr valuestring_eq_some_iff

theorem uint16_of_not_isNumber {item : Item Num} (h : ¬ item.IsNumber) (lib : Library Num) :
    item.uint16 lib = 0 := by
  cases item with
  | number x => exact absurd ⟨x, rfl⟩ h
  | _ => rfl

end Item

end CJson
