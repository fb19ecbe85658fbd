import EspFirewall.General.CString
import EspFirewall.General.Loop

/-!
# Domain names in a DNS message (`parse_domain_name`)

A name in a message is a sequence of labels, each with a length byte before it, that ends with a
zero byte; a length byte with its two top bits set starts a compression pointer instead, and the
name goes on where that points.  `parse_domain_name` follows such a name and writes the labels,
with dots between them, into an array of its caller's.

The loop need not end — a pointer can point at itself — so what it computes is a relation:
`ParsesName buf offset maxLen r` says that it ends and returns `r`.  `parsesName_wireName` is what
it returns for a name without pointers that is where it should be.
-/

set_option autoImplicit false

namespace EspFirewall

open CLang

/-! ## The parser -/

/-- The variables of the loop of `parse_domain_name`. -/
structure ParseState where
  offset : ℕ
  /-- What has been written to `domain`; its length is the variable `i`. -/
  domain : Bytes
  /-- `jump_offset`, once `jumped` is set. -/
  jump : Option ℕ
deriving DecidableEq

/-- One round of the loop of `parse_domain_name`, or what follows it.  The result is the offset
that is returned, with the string that `domain` then holds, or nothing for `-1`. -/
def parseStep (buf : Mem) (maxLen : ℕ) (s : ParseState) :
    ParseState ⊕ Option (ℕ × CString) :=
  let len := buf s.offset
  if len = 0 then .inr (some (s.jump.getD (s.offset + 1), .ofMem s.domain))
  else if len &&& 0xC0 = 0xC0 then
    .inl { s with
      offset := ((len &&& 0x3F).toNat <<< 8) ||| (buf (s.offset + 1)).toNat
      jump := some (s.jump.getD (s.offset + 2)) }
  else if maxLen ≤ s.domain.length + len.toNat + 1 then .inr none
  else
    .inl { s with
      offset := s.offset + 1 + len.toNat
      domain := s.domain ++ (if 0 < s.domain.length then [46] else []) ++
        buf.slice (s.offset + 1) len.toNat }

/-- `parse_domain_name(buf, offset, domain, maxLen)` returns `r`. -/
def ParsesName (buf : Mem) (offset maxLen : ℕ) (r : Option (ℕ × CString)) : Prop :=
  Loop.Halts (parseStep buf maxLen) ⟨offset, [], none⟩ r

/-- What a round that is not the last does: it follows a pointer or reads a label. -/
theorem parseStep_inl {buf : Mem} {maxLen : ℕ} {s s' : ParseState}
    (h : parseStep buf maxLen s = .inl s') :
    (buf s.offset &&& 0xC0 = 0xC0 ∧ s' = { s with
      offset := ((buf s.offset &&& 0x3F).toNat <<< 8) ||| (buf (s.offset + 1)).toNat
      jump := some (s.jump.getD (s.offset + 2)) }) ∨
    (buf s.offset ≠ 0 ∧ buf s.offset &&& 0xC0 ≠ 0xC0 ∧
      s.domain.length + (buf s.offset).toNat + 1 < maxLen ∧ s' = { s with
      offset := s.offset + 1 + (buf s.offset).toNat
      domain := s.domain ++ (if 0 < s.domain.length then [46] else []) ++
        buf.slice (s.offset + 1) (buf s.offset).toNat }) := by
  rw [parseStep] at h
  split at h
  · exact nomatch h
  next hend =>
  split at h
  · next hptr =>
    cases h
    exact .inl ⟨hptr, rfl⟩
  next hptr =>
  split at h
  · exact nomatch h
  · next hroom =>
    cases h
    exact .inr ⟨hend, hptr, Nat.not_le.1 hroom, rfl⟩

/-- What the last round does: it finds the end of the name, or no room for a label. -/
theorem parseStep_inr {buf : Mem} {maxLen : ℕ} {s : ParseState} {r : Option (ℕ × CString)}
    (h : parseStep buf maxLen s = .inr r) :
    (buf s.offset = 0 ∧ r = some (s.jump.getD (s.offset + 1), .ofMem s.domain)) ∨
    (buf s.offset ≠ 0 ∧ buf s.offset &&& 0xC0 ≠ 0xC0 ∧
      maxLen ≤ s.domain.length + (buf s.offset).toNat + 1 ∧ r = none) := by
  rw [parseStep] at h
  split at h
  · next hend =>
    cases h
    exact .inl ⟨hend, rfl⟩
  next hend =>
  split at h
  · exact nomatch h
  next hptr =>
  split at h
  · next hroom =>
    cases h
    exact .inr ⟨hend, hptr, hroom, rfl⟩
  · exact nomatch h

/-- The string the parser leaves is shorter than there is room for. -/
theorem ParsesName.strlen_lt {buf : Mem} {offset maxLen o : ℕ} {domain : CString}
    (h : ParsesName buf offset maxLen (some (o, domain))) (hpos : 0 < maxLen) :
    domain.strlen < maxLen := by
  refine Loop.Halts.invariant (P := fun s => s.domain.length < maxLen)
    (Q := fun r => ∀ o d, r = some (o, d) → CString.strlen d < maxLen) ?_ ?_ hpos h o domain rfl
  · intro s s' hs hround
    obtain ⟨-, rfl⟩ | ⟨-, -, hroom, rfl⟩ := parseStep_inl hround
    · exact hs
    · rw [List.length_append, List.length_append, Mem.slice_length]
      split
      · rw [List.length_singleton]; omega
      · rw [List.length_nil]; omega
  · rintro s r hs hleave o d rfl
    obtain ⟨-, heq⟩ | ⟨-, -, -, heq⟩ := parseStep_inr hleave
    · cases heq
      exact Nat.lt_of_le_of_lt (List.takeWhile_prefix _).length_le hs
    · exact nomatch heq

/-! ## Names without pointers -/

/-- A label with its length byte. -/
def encodeLabel (label : Bytes) : Bytes := UInt8.ofNat label.length :: label

/-- A name as a message spells it, without pointers. -/
def wireName (labels : List Bytes) : Bytes := labels.flatMap encodeLabel ++ [0]

/-- A name as people spell it. -/
def dotted (labels : List Bytes) : Bytes := [46].intercalate labels

/-- A label of one to 63 bytes, none of them NUL or a dot. -/
structure ValidLabel (label : Bytes) : Prop where
  pos : 0 < label.length
  le : label.length ≤ 63
  nulFree : 0 ∉ label
  dotFree : 46 ∉ label

instance (label : Bytes) : Decidable (ValidLabel label) :=
  decidable_of_iff (0 < label.length ∧ label.length ≤ 63 ∧ 0 ∉ label ∧ 46 ∉ label)
    ⟨fun h => ⟨h.1, h.2.1, h.2.2.1, h.2.2.2⟩, fun h => ⟨h.pos, h.le, h.nulFree, h.dotFree⟩⟩

@[simp] theorem encodeLabel_length (label : Bytes) :
    (encodeLabel label).length = label.length + 1 := rfl

/-- A length byte of a valid label is neither the end of a name nor a pointer. -/
theorem length_byte {n : ℕ} (hpos : 0 < n) (hle : n ≤ 63) :
    (UInt8.ofNat n).toNat = n ∧ UInt8.ofNat n ≠ 0 ∧ UInt8.ofNat n &&& 0xC0 ≠ 0xC0 := by
  have hall : ∀ k : Fin 64, 0 < k.val →
      (UInt8.ofNat k.val).toNat = k.val ∧ UInt8.ofNat k.val ≠ 0 ∧
        UInt8.ofNat k.val &&& 0xC0 ≠ 0xC0 := by decide
  exact hall ⟨n, by omega⟩ hpos

/-- What a round does to `domain`. -/
def appendLabel (domain label : Bytes) : Bytes :=
  domain ++ (if 0 < domain.length then [46] else []) ++ label

theorem appendLabel_length_le (domain label : Bytes) :
    (appendLabel domain label).length ≤ domain.length + (label.length + 1) := by
  rw [appendLabel, List.length_append, List.length_append]
  split
  · rw [List.length_singleton]; omega
  · rw [List.length_nil]; omega

/-- **One label**: a round that finds a valid label, and room for it, appends it and goes on
behind it. -/
theorem parseStep_label {buf : Mem} {maxLen o : ℕ} {domain label : Bytes} {jump : Option ℕ}
    (hlabel : ValidLabel label) (hmem : buf.HoldsAt o (encodeLabel label))
    (hroom : domain.length + (label.length + 1) < maxLen) :
    parseStep buf maxLen ⟨o, domain, jump⟩ =
      .inl ⟨o + (encodeLabel label).length, appendLabel domain label, jump⟩ := by
  rw [encodeLabel, Mem.holdsAt_cons] at hmem
  obtain ⟨hlen, hbytes⟩ := hmem
  obtain ⟨hval, hne, hptr⟩ := length_byte hlabel.pos hlabel.le
  rw [parseStep]
  dsimp only
  rw [hlen, hval, if_neg hne, if_neg hptr, if_neg (by omega), hbytes, appendLabel]
  congr 2
  rw [encodeLabel_length]
  omega

/-- The rounds for a list of valid labels. -/
theorem parse_labels {buf : Mem} {maxLen o : ℕ} {labels : List Bytes} {domain : Bytes}
    {jump : Option ℕ} {r : Option (ℕ × CString)} (hlabels : ∀ l ∈ labels, ValidLabel l)
    (hmem : buf.HoldsAt o (labels.flatMap encodeLabel))
    (hroom : domain.length + (labels.flatMap encodeLabel).length < maxLen)
    (hrest : Loop.Halts (parseStep buf maxLen)
      ⟨o + (labels.flatMap encodeLabel).length, labels.foldl appendLabel domain, jump⟩ r) :
    Loop.Halts (parseStep buf maxLen) ⟨o, domain, jump⟩ r := by
  induction labels generalizing o domain with
  | nil => exact hrest
  | cons label labels ih =>
    rw [List.forall_mem_cons] at hlabels
    rw [List.flatMap_cons, Mem.holdsAt_append] at hmem
    rw [List.flatMap_cons, List.length_append] at hroom hrest
    rw [encodeLabel_length] at hroom
    have hgrow := appendLabel_length_le domain label
    refine Loop.Halts.of_inl (parseStep_label hlabels.1 hmem.1 (by omega)) ?_
    refine ih hlabels.2 hmem.2 (by omega) ?_
    rwa [Nat.add_assoc]

theorem foldl_appendLabel {labels : List Bytes} {domain : Bytes} (h : domain ≠ []) :
    labels.foldl appendLabel domain = domain ++ labels.flatMap (46 :: ·) := by
  induction labels generalizing domain with
  | nil => simp
  | cons label labels ih =>
    have hpos : 0 < domain.length := List.length_pos_iff.2 h
    rw [List.foldl_cons, ih (by simp [appendLabel, h]), List.flatMap_cons, appendLabel,
      if_pos hpos]
    simp

/-- The labels that the rounds append are the dotted name. -/
theorem foldl_appendLabel_nil {labels : List Bytes} (hlabels : ∀ l ∈ labels, l ≠ []) :
    labels.foldl appendLabel [] = dotted labels := by
  rcases labels with _ | ⟨label, labels⟩
  · rfl
  have hne : label ≠ [] := hlabels label List.mem_cons_self
  have hfirst : appendLabel [] label = label := rfl
  rw [List.foldl_cons, hfirst, foldl_appendLabel hne, dotted]
  clear hlabels hne hfirst
  induction labels generalizing label with
  | nil => simp
  | cons next labels ih => rw [List.intercalate_cons_cons, ← ih, List.flatMap_cons]; simp

theorem nul_notMem_dotted {labels : List Bytes} (hlabels : ∀ l ∈ labels, 0 ∉ l) :
    0 ∉ dotted labels := by
  induction labels with
  | nil => exact List.not_mem_nil
  | cons label labels ih =>
    rw [List.forall_mem_cons] at hlabels
    rcases labels with _ | ⟨next, labels⟩
    · simpa [dotted] using hlabels.1
    · rw [dotted, List.intercalate_cons_cons, List.mem_append, List.mem_append, not_or, not_or]
      exact ⟨⟨hlabels.1, by decide⟩, ih hlabels.2⟩

/-- The name that valid labels spell. -/
def nameOf (labels : List Bytes) (h : ∀ l ∈ labels, ValidLabel l) : CString :=
  ⟨dotted labels, nul_notMem_dotted fun l hl => (h l hl).nulFree⟩

/-- **A name without pointers is parsed**: the loop ends, returns the offset behind the name and
leaves the dotted name in `domain`. -/
theorem parsesName_wireName {buf : Mem} {o maxLen : ℕ} {labels : List Bytes}
    (hlabels : ∀ l ∈ labels, ValidLabel l) (hmem : buf.HoldsAt o (wireName labels))
    (hroom : (wireName labels).length ≤ maxLen) :
    ParsesName buf o maxLen
      (some (o + (wireName labels).length, nameOf labels hlabels)) := by
  rw [wireName, Mem.holdsAt_append, Mem.holdsAt_cons] at hmem
  rw [wireName, List.length_append, List.length_singleton] at hroom ⊢
  obtain ⟨hbytes, hend, -⟩ := hmem
  refine parse_labels hlabels hbytes (by rw [List.length_nil]; omega) ?_
  refine Loop.Halts.of_inr ?_
  rw [parseStep]
  dsimp only
  rw [hend, if_pos rfl, foldl_appendLabel_nil fun l hl => List.length_pos_iff.1 (hlabels l hl).pos,
    Option.getD_none, Nat.add_assoc,
    CString.ofMem_of_nulFree (nul_notMem_dotted fun l hl => (hlabels l hl).nulFree), nameOf]

theorem dotted_ne_nil {labels : List Bytes} (hne : labels ≠ []) (h : ∀ l ∈ labels, l ≠ []) :
    dotted labels ≠ [] := by
  rw [← foldl_appendLabel_nil h]
  rcases labels with _ | ⟨label, labels⟩
  · exact absurd rfl hne
  have hlabel : label ≠ [] := h label List.mem_cons_self
  have hfirst : appendLabel [] label = label := rfl
  rw [List.foldl_cons, hfirst, foldl_appendLabel hlabel]
  simp [hlabel]

end EspFirewall
