import EspFirewall.General.Decimal
import EspFirewall.NvsNumbers

/-!
# Copying a namespace on the console (`cmd_nvs.c`)

`nvs_list` prints the keys and their types, `nvs_get` prints a value, and `nvs_set` takes a value in
the form in which it is printed.  So a namespace can be copied to another router by hand, or by a
script that sits at the two consoles.

This works for all types but one.  `nvs_get` prints an `i16` with `%u`, and a negative one comes out
as a number of ten digits.  `nvs_set` refuses it, and with `errno` set refuses everything that comes
behind it, too, apart from blobs, which are stored before `errno` is looked at.  Every NVS call
succeeds here.

* `exec_copyCommand`: what becomes of one printed value.
* `namespace_copied_iff`: which namespaces are copied, and what arrives of the others.
-/

set_option autoImplicit false

namespace EspFirewall

open CLang HandleStore

/-! ## What is printed -/

/-- `type_to_str`. -/
def typeToStr (type : NvsType) : CString :=
  match typeStrPair.find? fun p => p.1 = type with
  | some p => p.2
  | none => .lit "Unknown"

/-- `%u`, of an `int` or an `unsigned`. -/
def unsignedText (v : ℤ) : Bytes := digits 10 (v % 2 ^ 32).toNat

/-- How `get_value_from_nvs` prints a number: `%d`, `%ld` and `%lld` for three of the types with a
sign, `%u` for the fourth, and `%u`, `%lu` and `%llu` for those without. -/
def numberText : NvsType → ℤ → Bytes
  | .i8, v => decimal v
  | .u8, v => unsignedText v
  | .i16, v => unsignedText v
  | .u16, v => unsignedText v
  | .i32, v => decimal v
  | .u32, v => unsignedText v
  | .i64, v => decimal v
  | .u64, v => digits 10 (v % 2 ^ 64).toNat
  | _, _ => []

/-- `%02x`, of an octet. -/
def octetText (b : UInt8) : Bytes := Spec.pad ⟨false, true, some 2⟩ (digits 16 b.toNat)

/-- What `get_value_from_nvs` prints if it finds a value of the type and all its calls succeed. -/
def printedText (type : NvsType) : Option NvsValue → Option Bytes
  | some (.num type' v) => if type = type' then some (numberText type v ++ [10]) else none
  | some (.str s) => if type = .str then some (s.bytes ++ [10]) else none
  | some (.blob blob) => if type = .blob then some (blob.flatMap octetText ++ [10]) else none
  | none => none

/-- What NVS can hold: a number is one of its type. -/
def NvsValue.Valid : NvsValue → Prop
  | .num type v => (numberType type).isSome = true ∧ type.range.1 ≤ v ∧ v ≤ type.range.2
  | _ => True

instance : (v : NvsValue) → Decidable v.Valid
  | .num _ _ => inferInstanceAs (Decidable (_ ∧ _ ∧ _))
  | .str _ => inferInstanceAs (Decidable True)
  | .blob _ => inferInstanceAs (Decidable True)

/-- The type that the value was stored with. -/
def NvsValue.type : NvsValue → NvsType
  | .num type _ => type
  | .str _ => .str
  | .blob _ => .blob

/-- A negative number of 16 bits. -/
def NvsValue.negativeI16 : NvsValue → Bool
  | .num .i16 v => v < 0
  | _ => false

def NvsValue.isBlob : NvsValue → Bool
  | .blob _ => true
  | _ => false

/-- The line that is printed for the value, without its end. -/
def NvsValue.line (v : NvsValue) : CString :=
  .ofMem ((printedText v.type (some v)).getD []).dropLast

variable {H : Type}

/-- The command that stores what has been printed for an entry. -/
def copyCommand (h : H) (e : String × NvsValue) : SetCommand H :=
  ⟨e.1, typeToStr e.2.type, e.2.line, true, h⟩

/-! ## Reading it again -/

theorem strToType_typeToStr (type : NvsType) : strToType (typeToStr type) = type := by
  cases type <;> decide

/-- Every number but a negative `i16` is printed in decimal. -/
theorem numberText_eq {type : NvsType} {v : ℤ} (hvalid : (NvsValue.num type v).Valid)
    (hneg : (NvsValue.num type v).negativeI16 = false) : numberText type v = decimal v := by
  obtain ⟨hnumber, hlo, hhi⟩ := hvalid
  have hunsigned : ∀ m : ℤ, 0 ≤ v → v < m → digits 10 (v % m).toNat = decimal v := by
    intro m hpos hlt
    have hnat : (v % m).toNat = v.natAbs := by
      rw [Int.emod_eq_of_lt hpos hlt]
      omega
    rw [decimal, if_neg (not_lt.2 hpos), List.nil_append, hnat]
  cases type with
  | i8 | i32 | i64 => rfl
  | i16 =>
    have hpos : 0 ≤ v := not_lt.1 (of_decide_eq_false hneg)
    have hsmall : v ≤ 32767 := hhi
    exact hunsigned _ hpos (by omega)
  | u8 =>
    have hsmall : v ≤ 255 := hhi
    exact hunsigned _ hlo (by omega)
  | u16 =>
    have hsmall : v ≤ 65535 := hhi
    exact hunsigned _ hlo (by omega)
  | u32 =>
    have hsmall : v ≤ 2 ^ 32 - 1 := hhi
    exact hunsigned _ hlo (by omega)
  | u64 =>
    have hsmall : v ≤ 2 ^ 64 - 1 := hhi
    exact hunsigned _ hlo (by omega)
  | str | blob | any => exact absurd hnumber Bool.false_ne_true

/-- The two digits of an octet are read back. -/
theorem unhex_octetText (b : UInt8) (rest : Bytes) :
    unhex (octetText b ++ rest) = (unhex rest).map (b :: ·) := by
  have hall : ∀ k : Fin 256, (octetText (.ofNat k)).length = 2 ∧
      unhex (octetText (.ofNat k)) = some [.ofNat k] := by decide +kernel
  obtain ⟨hlen, hread⟩ := hall ⟨b.toNat, b.toNat_lt⟩
  simp only [UInt8.ofNat_toNat] at hlen hread
  obtain ⟨h, l, htext⟩ := List.length_eq_two.1 hlen
  rw [htext] at hread ⊢
  rw [unhex] at hread
  rw [List.cons_append, List.cons_append, List.nil_append, unhex]
  cases hh : hexValue h with
  | none => simp [hh] at hread
  | some x =>
    cases hl : hexValue l with
    | none => simp [hl] at hread
    | some y =>
      have hb : (x <<< 4) + y = b := by simpa [hh, hl, unhex] using hread
      simp only [hb]

theorem octetText_length (b : UInt8) : (octetText b).length = 2 := by
  have hall : ∀ k : Fin 256, (octetText (.ofNat k)).length = 2 := by decide +kernel
  simpa using hall ⟨b.toNat, b.toNat_lt⟩

theorem octetText_nulFree (b : UInt8) : 0 ∉ octetText b := by
  have hall : ∀ k : Fin 256, 0 ∉ octetText (.ofNat k) := by decide +kernel
  simpa using hall ⟨b.toNat, b.toNat_lt⟩

/-- **The digits of a blob are read back.** -/
theorem unhex_flatMap_octetText (blob : Bytes) : unhex (blob.flatMap octetText) = some blob := by
  induction blob with
  | nil => rfl
  | cons b blob ih => rw [List.flatMap_cons, unhex_octetText, ih, Option.map_some]

theorem flatMap_octetText_length (blob : Bytes) :
    (blob.flatMap octetText).length = 2 * blob.length := by
  induction blob with
  | nil => rfl
  | cons b blob ih =>
    rw [List.flatMap_cons, List.length_append, octetText_length, ih, List.length_cons]
    omega

/-! ## What a command does with a printed value -/

theorem line_num (type : NvsType) (v : ℤ) (hnul : 0 ∉ numberText type v) :
    (NvsValue.num type v).line.bytes = numberText type v := by
  have hprinted : printedText type (some (.num type v)) = some (numberText type v ++ [10]) :=
    if_pos rfl
  rw [NvsValue.line, NvsValue.type, hprinted, Option.getD_some, List.dropLast_concat,
    CString.ofMem_bytes hnul]

theorem line_str (s : CString) : (NvsValue.str s).line = s := by
  have hprinted : printedText .str (some (.str s)) = some (s.bytes ++ [10]) := rfl
  rw [NvsValue.line, NvsValue.type, hprinted, Option.getD_some, List.dropLast_concat]
  exact CString.ofMem_of_nulFree s.nulFree

theorem line_blob (blob : Bytes) : (NvsValue.blob blob).line.bytes = blob.flatMap octetText := by
  have hprinted : printedText .blob (some (.blob blob)) = some (blob.flatMap octetText ++ [10]) :=
    rfl
  have hnul : 0 ∉ blob.flatMap octetText := by
    rw [List.mem_flatMap]
    rintro ⟨b, -, hb⟩
    exact octetText_nulFree b hb
  rw [NvsValue.line, NvsValue.type, hprinted, Option.getD_some, List.dropLast_concat,
    CString.ofMem_bytes hnul]

section

variable [DecidableEq H]

/-- A number that is printed in decimal is stored, if `errno` is clear. -/
theorem exec_copyCommand_num (h : H) (key : String) {type : NvsType} {v : ℤ}
    (hvalid : (NvsValue.num type v).Valid) (hneg : (NvsValue.num type v).negativeI16 = false)
    (s : SetState) : ((copyCommand h (key, .num type v)).exec s).2 =
      ⟨s.erange, if s.erange then s.stored else putValue (key, .num type v) s.stored⟩ := by
  obtain ⟨t, ht⟩ := Option.isSome_iff_exists.1 hvalid.1
  have htype : (copyCommand h (key, .num type v)).type = type := strToType_typeToStr _
  have hdecimal := numberText_eq hvalid hneg
  have hnumber : (copyCommand h (key, .num type v)).number = v := by
    refine signedNumber_decimal v ((line_num type v ?_).trans hdecimal)
    rw [hdecimal]
    exact decimal_nulFree v
  have ht' : numberType (copyCommand h (key, .num type v)).type = some t := by rw [htype, ht]
  have hin : (copyCommand h (key, .num type v)).InRange := by
    rw [SetCommand.InRange, hnumber, htype]
    exact hvalid.2
  rw [SetCommand.exec_number ht', SetCommand.read_of_inRange ht' hin, htype, hnumber]
  obtain ⟨erange, stored⟩ := s
  cases erange with
  | true => simp
  | false => rw [if_pos ⟨rfl, .inl hin⟩]; rfl

/-- A negative `i16` is not, and sets it. -/
theorem exec_copyCommand_negativeI16 (h : H) (key : String) {v : ℤ}
    (hvalid : (NvsValue.num .i16 v).Valid) (hneg : v < 0) (s : SetState) :
    ((copyCommand h (key, .num .i16 v)).exec s).2 = ⟨true, s.stored⟩ := by
  have hlow : -32768 ≤ v := hvalid.2.1
  have htype : (copyCommand h (key, .num .i16 v)).type = .i16 := strToType_typeToStr .i16
  have hnumber : (copyCommand h (key, .num .i16 v)).number = v + 2 ^ 32 := by
    have htext : numberText .i16 v = decimal (v + 2 ^ 32) := by
      have hnat : (v % 2 ^ 32).toNat = (v + 2 ^ 32).natAbs := by
        rw [SetCommand.emod_of_neg (by omega) hneg]
        omega
      have hpos : ¬ v + 2 ^ 32 < 0 := by omega
      rw [decimal, if_neg hpos, List.nil_append, ← hnat]
      rfl
    refine signedNumber_decimal _ ((line_num .i16 v ?_).trans htext)
    rw [htext]
    exact decimal_nulFree _
  have hnot : ¬ ((copyCommand h (key, .num .i16 v)).InRange ∨
      (copyCommand h (key, .num .i16 v)).Wraps) := by
    rw [SetCommand.InRange, SetCommand.Wraps, htype, hnumber]
    rintro (⟨-, hhi⟩ | ⟨hunsigned, -⟩)
    · have hsmall : v + 2 ^ 32 ≤ 32767 := hhi
      omega
    · exact absurd hunsigned Bool.false_ne_true
  have hoverflows : (copyCommand h (key, .num .i16 v)).Overflows := by
    rw [SetCommand.Overflows, SetCommand.IsNumber, htype, hnumber]
    refine ⟨rfl, fun hfits => ?_⟩
    have hsmall : v + 2 ^ 32 < 2 ^ 31 := hfits.2
    omega
  have ht : numberType (copyCommand h (key, .num .i16 v)).type =
      some ⟨strtol 32, some (-32768, 32767)⟩ := by rw [htype]; rfl
  rw [SetCommand.exec_number ht, if_neg fun h => hnot h.2,
    (SetCommand.read_snd_iff ht).2 hoverflows, Bool.or_true]

/-- **Storing a printed value.**  A blob is stored in any case.  A number or a string is stored
unless `errno` is set, or is set by it: that is what a negative `i16` does. -/
theorem exec_copyCommand (h : H) {e : String × NvsValue} (hvalid : e.2.Valid) (s : SetState) :
    ((copyCommand h e).exec s).2 = ⟨s.erange || e.2.negativeI16,
      if e.2.isBlob || !(s.erange || e.2.negativeI16) then putValue e s.stored else s.stored⟩ := by
  obtain ⟨key, v⟩ := e
  have htype : (copyCommand h (key, v)).type = v.type := strToType_typeToStr _
  cases v with
  | str t =>
    rw [SetCommand.exec_str htype]
    obtain ⟨erange, stored⟩ := s
    cases erange with
    | true => simp [NvsValue.isBlob]
    | false => simp [NvsValue.isBlob, NvsValue.negativeI16, copyCommand, line_str]
  | blob blob =>
    have hline : (copyCommand h (key, .blob blob)).strValue.bytes = blob.flatMap octetText :=
      line_blob blob
    have heven : (copyCommand h (key, .blob blob)).strValue.strlen % 2 = 0 := by
      rw [CString.strlen, hline, flatMap_octetText_length]
      exact Nat.mul_mod_right 2 _
    rw [SetCommand.exec_blob htype heven (hline ▸ unhex_flatMap_octetText blob)]
    simp [NvsValue.isBlob, NvsValue.negativeI16, copyCommand]
  | num type v =>
    cases hneg : (NvsValue.num type v).negativeI16 with
    | false =>
      rw [exec_copyCommand_num h key hvalid hneg]
      cases s.erange <;> rfl
    | true =>
      cases type with
      | i16 =>
        rw [exec_copyCommand_negativeI16 h key hvalid (of_decide_eq_true hneg)]
        simp [NvsValue.isBlob]
      | _ => exact absurd hneg Bool.false_ne_true

/-! ## Copying -/

/-- The entries that arrive, if `errno` is `ERANGE` or not at first. -/
def arriving : Bool → List (String × NvsValue) → List (String × NvsValue)
  | _, [] => []
  | erange, e :: es =>
    (if e.2.isBlob || !(erange || e.2.negativeI16) then [e] else []) ++
      arriving (erange || e.2.negativeI16) es

theorem arriving_append (erange : Bool) (a b : List (String × NvsValue)) :
    arriving erange (a ++ b) =
      arriving erange a ++ arriving (erange || a.any fun e => e.2.negativeI16) b := by
  induction a generalizing erange with
  | nil => rw [List.nil_append, List.any_nil, Bool.or_false]; rfl
  | cons e a ih =>
    rw [List.cons_append, arriving, arriving, ih, List.any_cons, Bool.or_assoc, List.append_assoc]

theorem arriving_sublist (erange : Bool) (es : List (String × NvsValue)) :
    (arriving erange es).Sublist es := by
  induction es generalizing erange with
  | nil => exact .slnil
  | cons e es ih =>
    rw [arriving]
    split
    · exact (ih _).cons_cons e
    · exact (ih _).cons e

/-- **All the commands**, one after the other. -/
theorem run_copyCommand (h : H) {es : List (String × NvsValue)} (hvalid : ∀ e ∈ es, e.2.Valid)
    (s : SetState) : (SetCommand.run s (es.map (copyCommand h))).stored =
      applyAll ((arriving s.erange es).map putValue) s.stored := by
  induction es generalizing s with
  | nil => rfl
  | cons e es ih =>
    rw [List.forall_mem_cons] at hvalid
    have hexec := exec_copyCommand h hvalid.1 s
    refine (ih hvalid.2 _).trans ?_
    dsimp only
    rw [hexec, arriving]
    split
    · rfl
    · rfl

/-- **What arrives of an entry.** -/
theorem arrives (h : H) {before after : List (String × NvsValue)} {e : String × NvsValue}
    (hvalid : ∀ e' ∈ before ++ e :: after, e'.2.Valid)
    (hnodup : ((before ++ e :: after).map Prod.fst).Nodup) :
    (SetCommand.run ⟨false, fun _ => none⟩
      ((before ++ e :: after).map (copyCommand h))).stored e.1 =
      if e.2.isBlob = true ∨ ∀ e' ∈ before ++ [e], e'.2.negativeI16 = false then some e.2
      else none := by
  have hkeys := ((arriving_sublist false (before ++ e :: after)).map Prod.fst).nodup hnodup
  have hcond : (e.2.isBlob || !(false || (before.any fun e => e.2.negativeI16) ||
      e.2.negativeI16)) = true ↔
      e.2.isBlob = true ∨ ∀ e' ∈ before ++ [e], e'.2.negativeI16 = false := by
    simp [or_imp, forall_and]
  rw [run_copyCommand h hvalid]
  dsimp only
  split
  · next harrives =>
    refine holdsAll_applyAll hkeys _ e ?_
    rw [arriving_append, arriving, if_pos (hcond.2 harrives)]
    simp
  · next hlost =>
    refine applyAll_of_notMem (fun hmem => ?_) _
    rw [arriving_append, arriving, if_neg (mt hcond.1 hlost), List.nil_append, List.map_append,
      List.mem_append] at hmem
    rw [List.map_append, List.map_cons, List.nodup_append] at hnodup
    rcases hmem with hmem | hmem
    · exact hnodup.2.2 _ (((arriving_sublist _ _).map _).subset hmem) _ List.mem_cons_self rfl
    · exact (List.nodup_cons.1 hnodup.2.1).1 (((arriving_sublist _ _).map _).subset hmem)

/-- The list of a namespace that has been filled from a list. -/
theorem mem_iff_applyAll {entries : List (String × NvsValue)}
    (hnodup : (entries.map Prod.fst).Nodup) (key : String) (v : NvsValue) :
    (key, v) ∈ entries ↔ applyAll (entries.map putValue) (fun _ => none) key = some v := by
  have hholds := holdsAll_applyAll hnodup fun _ => none
  refine ⟨fun h => hholds _ h, fun h => ?_⟩
  by_contra hmem
  have hkey : key ∉ entries.map Prod.fst := by
    intro hkey
    obtain ⟨e, he, rfl⟩ := List.mem_map.1 hkey
    obtain rfl := Option.some.inj (h.symm.trans (hholds e he))
    exact hmem he
  exact Option.some_ne_none v (h.symm.trans (applyAll_of_notMem hkey _))

/-- **Which namespaces are copied**, if every NVS call succeeds: those without a negative `i16`.  Of
the others, the entries arrive that are listed in front of the first of these, and the blobs. -/
theorem namespace_copied_iff (h : H) {nvs : NvsParams} {entries : List (String × NvsValue)}
    (hlist : ∀ key v, (key, v) ∈ entries ↔ nvs key = some v)
    (hnodup : (entries.map Prod.fst).Nodup) (hvalid : ∀ key v, nvs key = some v → v.Valid) :
    let copy :=
      (SetCommand.run ⟨false, fun _ => none⟩ (entries.map (copyCommand h))).stored
    (copy = nvs ↔ ∀ key v, nvs key = some v → v.negativeI16 = false) ∧
      ∀ before e after, entries = before ++ e :: after →
        copy e.1 = if e.2.isBlob = true ∨ ∀ e' ∈ before ++ [e], e'.2.negativeI16 = false
          then some e.2 else none := by
  intro copy
  have hvalid' : ∀ e ∈ entries, e.2.Valid := fun e he => hvalid _ _ ((hlist _ _).1 he)
  have harrives : ∀ before e after, entries = before ++ e :: after →
      copy e.1 = if e.2.isBlob = true ∨ ∀ e' ∈ before ++ [e], e'.2.negativeI16 = false
        then some e.2 else none := by
    rintro before e after rfl
    exact arrives h hvalid' hnodup
  refine ⟨⟨fun hcopy key v hv => ?_, fun hpos => ?_⟩, harrives⟩
  · obtain ⟨before, after, hsplit⟩ := List.append_of_mem ((hlist key v).2 hv)
    have hkey := harrives before (key, v) after hsplit
    rw [hcopy, hv] at hkey
    split at hkey
    · next harrives =>
      rcases harrives with hblob | hall
      · cases v with
        | blob blob => rfl
        | _ => exact absurd hblob Bool.false_ne_true
      · exact hall (key, v) (List.mem_append_right _ (List.mem_singleton_self _))
    · exact absurd hkey (Option.some_ne_none v)
  · funext key
    cases hv : nvs key with
    | some v =>
      obtain ⟨before, after, hsplit⟩ := List.append_of_mem ((hlist key v).2 hv)
      refine (harrives before (key, v) after hsplit).trans (if_pos (.inr fun e he => ?_))
      refine hpos e.1 e.2 ((hlist _ _).1 ?_)
      rw [hsplit, List.append_cons]
      exact List.mem_append_left _ he
    | none =>
      have hkey : key ∉ (arriving false entries).map Prod.fst := by
        intro hmem
        obtain ⟨e, he, rfl⟩ := List.mem_map.1 hmem
        have hsome := (hlist e.1 e.2).1 ((arriving_sublist _ _).subset he)
        exact Option.some_ne_none _ (hsome.symm.trans hv)
      exact (congrFun (run_copyCommand h hvalid' _) key).trans (applyAll_of_notMem hkey _)

/-- An `i16` is lost, and what is listed behind it but for a blob. -/
theorem namespace_copied_offset :
    let entries : List (String × NvsValue) := [("mode", .num .u8 1), ("offset", .num .i16 (-5)),
      ("name", .str (.lit "attic")), ("key", .blob [0xCA, 0xFE])]
    let copy := (SetCommand.run ⟨false, fun _ => none⟩ (entries.map (copyCommand 1))).stored
    copy "mode" = some (.num .u8 1) ∧ copy "name" = none ∧
      copy "key" = some (.blob [0xCA, 0xFE]) := by
  intro entries copy
  have hlist := @mem_iff_applyAll entries (by decide)
  have hvalid : ∀ key v, applyAll (entries.map putValue) (fun _ => none) key = some v →
      v.Valid := by
    intro key v hv
    have hall : ∀ e ∈ entries, e.2.Valid := by decide
    exact hall (key, v) ((hlist key v).2 hv)
  obtain ⟨-, harrives⟩ := namespace_copied_iff 1 hlist (by decide) hvalid
  exact ⟨harrives [] _ _ rfl, harrives [_, _] _ _ rfl, harrives [_, _, _] _ _ rfl⟩

end

end EspFirewall
