import EspFirewall.Dns.NameWalk
import EspFirewall.General.DnsMessage

/-!
# Names with pointers (`parse_domain_name`)

`Name` has what `parse_domain_name` returns for a name without pointers, and `NameWalk` where any name
leads it.  `parsesName_expands` is about all the names that come to an end: those that expand to some
labels, whatever pointers there are on the way, and whichever way they point.
-/

set_option autoImplicit false

namespace EspFirewall

open CLang DnsMessage

/-- The bytes of a message, in memory. -/
theorem holdsAt_write {data bs : Bytes} {o : ℕ} (old : Mem) (h : HoldsAt data o bs) :
    (old.write data).HoldsAt o bs := by
  obtain ⟨c, hc⟩ := h
  rcases Nat.lt_or_ge o data.length with ho | ho
  · have hlen : (data.take o).length = o := List.length_take_of_le ho.le
    have hdata : data.take o ++ bs ++ c = data := by
      rw [List.append_assoc, hc, List.take_append_drop]
    have hholds := old.write_holdsAt (data.take o) bs c
    rwa [hdata, hlen] at hholds
  · rw [List.drop_eq_nil_of_le ho, List.append_eq_nil_iff] at hc
    rw [hc.1]
    rfl

/-- The offset of a pointer, as the message format has it. -/
theorem pointerOffset_eq (hi lo : UInt8) :
    pointerOffset hi lo = (bigEndian16 (hi &&& 0x3F) lo).toNat := by
  have hhi := pointerHigh_lt hi
  have hlo : lo.toNat < 2 ^ 8 := UInt8.toNat_lt lo
  rw [pointerOffset_eq_add, bigEndian16, UInt16.toNat_ofNat', Nat.mod_eq_of_lt (by omega)]

theorem length_le_foldl_appendLabel (domain : Bytes) (labels : List Bytes) :
    domain.length ≤ (labels.foldl appendLabel domain).length := by
  induction labels generalizing domain with
  | nil => exact Nat.le_refl _
  | cons label labels ih =>
    refine Nat.le_trans ?_ (ih (appendLabel domain label))
    rw [appendLabel, List.append_assoc, List.length_append]
    exact Nat.le_add_right ..

/-- What a label adds. -/
theorem appendLabel_length (domain label : Bytes) :
    (appendLabel domain label).length = afterLabel domain.length label.length := by
  rw [appendLabel, List.length_append, List.length_append, afterLabel]
  split <;> rfl

/-- **The rounds for a name that expands to some labels**, when `domain` is written and the parser may
have followed a pointer: they append the labels, and return the offset behind the first pointer. -/
theorem halts_of_expands {data : Bytes} {o e maxLen : ℕ} {labels : List Bytes}
    (h : Expands data o labels e) (old : Mem) {domain : Bytes} {jump : Option ℕ}
    (hroom : (labels.foldl appendLabel domain).length + 1 < maxLen) :
    Loop.Halts (parseStep (old.write data) maxLen) ⟨o, domain, jump⟩
      (some (jump.getD e, .ofMem (labels.foldl appendLabel domain))) := by
  induction h generalizing domain jump with
  | root h =>
    have hend := (Mem.holdsAt_cons.1 (holdsAt_write old h)).1
    refine .of_inr ?_
    rw [parseStep]
    dsimp only
    rw [if_pos hend]
    rfl
  | @label o e len label rest h hlen hpos hle _ ih =>
    obtain ⟨hbyte, hlabel⟩ := Mem.holdsAt_cons.1 (holdsAt_write old h)
    have h0 : len ≠ 0 := fun h0 => absurd hpos (by rw [h0]; decide)
    have hlength := length_le_foldl_appendLabel (appendLabel domain label) rest
    -- The check leaves the dot out of account, and asks for the terminator instead.
    have hfits : ¬ maxLen ≤ domain.length + len.toNat + 1 := by
      rw [List.foldl_cons] at hroom
      rw [appendLabel_length, hlen, afterLabel] at hlength
      omega
    have hround : parseStep (old.write data) maxLen ⟨o, domain, jump⟩ =
        .inl ⟨o + 1 + len.toNat, appendLabel domain label, jump⟩ := by
      rw [Mem.HoldsAt, hlen] at hlabel
      rw [parseStep]
      dsimp only
      rw [hbyte, if_neg h0, if_neg (not_pointer_of_le hle), if_neg hfits, hlabel, appendLabel]
    exact (ih hroom).of_inl hround
  | @pointer o e hi lo labels h hptr _ ih =>
    obtain ⟨hhi, hlo⟩ := Mem.holdsAt_cons.1 (holdsAt_write old h)
    have hround := parseStep_of_pointer maxLen (s := ⟨o, domain, jump⟩)
      (show IsPointer (old.write data o) by rwa [hhi])
    rw [hhi, (Mem.holdsAt_cons.1 hlo).1, pointerOffset_eq] at hround
    exact (ih hroom).of_inl hround

/-- **Every name that expands is decoded.**  If the labels have no NUL in them and make a name of at
most 254 bytes, the parser returns the offset behind the name in place and leaves the labels, with dots
between them, in `domain`. -/
theorem parsesName_expands {data : Bytes} {o e : ℕ} {labels : List Bytes}
    (h : Expands data o labels e) (hnul : ∀ l ∈ labels, 0 ∉ l)
    (hlength : (dotted labels).length ≤ 254) (old : Mem) (r : Option (ℕ × CString)) :
    ParsesName (old.write data) o DNS_DOMAIN_SIZE r ↔
      r = some (e, ⟨dotted labels, nul_notMem_dotted hnul⟩) := by
  have hdotted := foldl_appendLabel_nil h.ne_nil
  have hroom : (labels.foldl appendLabel []).length + 1 < DNS_DOMAIN_SIZE := by
    rw [hdotted]
    exact Nat.lt_of_le_of_lt (Nat.succ_le_succ hlength) (by decide)
  have hparse : Loop.Halts (parseStep (old.write data) DNS_DOMAIN_SIZE) ⟨o, [], none⟩
      (some (e, .ofMem (labels.foldl appendLabel []))) := halts_of_expands h old hroom
  rw [hdotted, CString.ofMem_of_nulFree (nul_notMem_dotted hnul)] at hparse
  constructor
  · exact fun hr => Loop.Halts.unique hr hparse
  · rintro rfl
    exact hparse

/-- A message with the names `ads.com`, at 12, and `www.ads.com`, which ends with a pointer to it. -/
def pointerMessage : Bytes :=
  List.replicate 12 0 ++ wireName [ascii "ads", ascii "com"] ++ encodeLabel (ascii "www") ++
    [0xC0, 0x0C]

theorem expands_pointerMessage :
    Expands pointerMessage 21 [ascii "www", ascii "ads", ascii "com"] 27 := by
  have hwww : HoldsAt pointerMessage 21 (3 :: ascii "www") := by decide
  have hptr : HoldsAt pointerMessage 25 [0xC0, 0x0C] := by decide
  have hads : HoldsAt pointerMessage 12 (3 :: ascii "ads") := by decide
  have hcom : HoldsAt pointerMessage 16 (3 :: ascii "com") := by decide
  have hroot : HoldsAt pointerMessage 20 [0] := by decide
  have hname : Expands pointerMessage 12 [ascii "ads", ascii "com"] 21 :=
    .label hads rfl (by decide) (by decide) (.label hcom rfl (by decide) (by decide) (.root hroot))
  exact .label hwww rfl (by decide) (by decide) (.pointer hptr (by decide) hname)

/-- The second name is decoded, and what follows it is behind the pointer. -/
theorem parsesName_expands_pointer : ParsesName (Mem.write (fun _ => 0) pointerMessage) 21
    DNS_DOMAIN_SIZE (some (27, .lit "www.ads.com")) :=
  (parsesName_expands expands_pointerMessage (by decide) (by decide) _ _).2 (by decide)

end EspFirewall
