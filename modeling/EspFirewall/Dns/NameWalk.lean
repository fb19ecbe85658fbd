import EspFirewall.Dns.Server
import EspFirewall.General.Links
import Mathlib.Data.Prod.Lex

/-!
# Where a name leads the parser

`parse_domain_name` goes where the length bytes and the pointers of a message send it.  It counts
what it writes, and stops when a label does not fit, but it counts no pointers and is not told
where the message ends.

`LeadsToCycle` says that a name comes to a circle of pointers, and `parsesName_iff_not_leadsToCycle`
that this is the one thing that keeps the parser from returning.  `RunsOut` says that a name, read in
the bytes of the message, comes to their end before its own, and `readsName_inside_iff` that the
parser stays inside the message exactly when that does not happen.
-/

set_option autoImplicit false

namespace EspFirewall

open CLang

/-! ## Pointers and labels -/

/-- The byte starts a compression pointer. -/
abbrev IsPointer (b : UInt8) : Prop := b &&& 0xC0 = 0xC0

/-- The offset in a compression pointer. -/
def pointerOffset (hi lo : UInt8) : ℕ := ((hi &&& 0x3F).toNat <<< 8) ||| lo.toNat

/-- Where the pointer at an offset leads, if there is one. -/
def pointerTarget (buf : Mem) (o : ℕ) : Option ℕ :=
  if IsPointer (buf o) then some (pointerOffset (buf o) (buf (o + 1))) else none

/-- How much of a name is written after a label of `len` bytes, when it was `n` before: the label,
and a dot unless it is the first. -/
def afterLabel (n len : ℕ) : ℕ := n + (if 0 < n then 1 else 0) + len

/-- The first byte of a pointer gives six bits of the offset. -/
theorem pointerHigh_lt (hi : UInt8) : (hi &&& 0x3F).toNat < 2 ^ 6 := by
  rw [UInt8.toNat_and]
  exact Nat.lt_of_le_of_lt Nat.and_le_right (by decide)

theorem pointerOffset_eq_add (hi lo : UInt8) :
    pointerOffset hi lo = 256 * (hi &&& 0x3F).toNat + lo.toNat := by
  have hlo : lo.toNat < 2 ^ 8 := UInt8.toNat_lt lo
  rw [pointerOffset, ← Nat.shiftLeft_add_eq_or_of_lt hlo, Nat.shiftLeft_eq, Nat.mul_comm]

/-- A pointer has fourteen bits. -/
theorem pointerOffset_lt (hi lo : UInt8) : pointerOffset hi lo < 2 ^ 14 := by
  have hhi := pointerHigh_lt hi
  have hlo : lo.toNat < 2 ^ 8 := UInt8.toNat_lt lo
  rw [pointerOffset_eq_add]
  omega

/-- A byte that starts a pointer does not end a name. -/
theorem IsPointer.ne_zero {b : UInt8} (h : IsPointer b) : b ≠ 0 := by
  rintro rfl
  exact absurd h (by decide)

/-- A round at a pointer follows it. -/
theorem parseStep_of_pointer {buf : Mem} (maxLen : ℕ) {s : ParseState}
    (h : IsPointer (buf s.offset)) :
    parseStep buf maxLen s = .inl { s with
      offset := pointerOffset (buf s.offset) (buf (s.offset + 1))
      jump := some (s.jump.getD (s.offset + 2)) } := by
  rw [parseStep, if_neg h.ne_zero, if_pos h, pointerOffset]

/-- A round at a label that fits goes on behind it. -/
theorem parseStep_of_label {buf : Mem} {maxLen : ℕ} {s : ParseState} (h0 : buf s.offset ≠ 0)
    (hptr : ¬ IsPointer (buf s.offset))
    (hroom : s.domain.length + (buf s.offset).toNat + 1 < maxLen) :
    ∃ s', parseStep buf maxLen s = .inl s' ∧ s'.offset = s.offset + 1 + (buf s.offset).toNat ∧
      s'.domain.length = afterLabel s.domain.length (buf s.offset).toNat := by
  refine ⟨{ s with
    offset := s.offset + 1 + (buf s.offset).toNat
    domain := s.domain ++ (if 0 < s.domain.length then [46] else []) ++
      buf.slice (s.offset + 1) (buf s.offset).toNat }, ?_, rfl, ?_⟩
  · rw [parseStep, if_neg h0, if_neg hptr, if_neg (Nat.not_le.2 hroom)]
  · rw [List.length_append, List.length_append, Mem.slice_length, afterLabel]
    split <;> rfl

/-- **What a round that is not the last does to the offset and to the length of the name.** -/
theorem parseStep_moves {buf : Mem} {maxLen : ℕ} {s s' : ParseState}
    (h : parseStep buf maxLen s = .inl s') :
    (IsPointer (buf s.offset) ∧
      s'.offset = pointerOffset (buf s.offset) (buf (s.offset + 1)) ∧
      s'.domain.length = s.domain.length) ∨
    (buf s.offset ≠ 0 ∧ ¬ IsPointer (buf s.offset) ∧
      s.domain.length + (buf s.offset).toNat + 1 < maxLen ∧
      s'.offset = s.offset + 1 + (buf s.offset).toNat ∧
      s'.domain.length = afterLabel s.domain.length (buf s.offset).toNat) := by
  obtain ⟨hptr, rfl⟩ | ⟨h0, hptr, hroom, -⟩ := parseStep_inl h
  · exact .inl ⟨hptr, rfl, rfl⟩
  · obtain ⟨t, ht, hoffset, hlength⟩ := parseStep_of_label h0 hptr hroom
    rw [h, Sum.inl.injEq] at ht
    rw [ht]
    exact .inr ⟨h0, hptr, hroom, hoffset, hlength⟩

/-! ## Termination -/

/-- The name that goes on at an offset, when so much of it is written, leads to a circle of
pointers: there is one at the offset, or behind the pointer there, or behind a label that fits. -/
inductive LeadsToCycle (buf : Mem) (maxLen : ℕ) : ℕ → ℕ → Prop
  | cycle {o n : ℕ} (hcycle : Links.OnCycle (pointerTarget buf) o) : LeadsToCycle buf maxLen o n
  | pointer {o n : ℕ} (hptr : IsPointer (buf o))
      (hrest : LeadsToCycle buf maxLen (pointerOffset (buf o) (buf (o + 1))) n) :
      LeadsToCycle buf maxLen o n
  | label {o n : ℕ} (h0 : buf o ≠ 0) (hptr : ¬ IsPointer (buf o))
      (hroom : n + (buf o).toNat + 1 < maxLen)
      (hrest : LeadsToCycle buf maxLen (o + 1 + (buf o).toNat) (afterLabel n (buf o).toNat)) :
      LeadsToCycle buf maxLen o n

theorem pointerTarget_eq_some_iff {buf : Mem} {o t : ℕ} :
    pointerTarget buf o = some t ↔
      IsPointer (buf o) ∧ t = pointerOffset (buf o) (buf (o + 1)) := by
  rw [pointerTarget]
  split
  · next h => rw [Option.some.injEq, eq_comm, and_iff_right h]
  · next h => exact ⟨fun heq => absurd heq.symm (Option.some_ne_none _), fun heq => absurd heq.1 h⟩

/-- The offsets that a pointer can lead to. -/
def pointerTargets : Finset ℕ := Finset.range (2 ^ 14)

theorem pointerTarget_mem {buf : Mem} {o t : ℕ} (h : pointerTarget buf o = some t) :
    t ∈ pointerTargets := by
  rw [pointerTargets, Finset.mem_range, (pointerTarget_eq_some_iff.1 h).2]
  exact pointerOffset_lt ..

/-- On a circle of pointers the parser goes round for ever. -/
theorem not_halts_of_onCycle {buf : Mem} {maxLen : ℕ} {s : ParseState}
    (h : Links.OnCycle (pointerTarget buf) s.offset) (r : Option (ℕ × CString)) :
    ¬ Loop.Halts (parseStep buf maxLen) s r := by
  refine Loop.not_halts_of_inl (P := fun s => Links.OnCycle (pointerTarget buf) s.offset) ?_ h r
  intro s hs
  obtain ⟨t, ht, hcycle⟩ := hs.next
  obtain ⟨hptr, rfl⟩ := pointerTarget_eq_some_iff.1 ht
  exact ⟨_, parseStep_of_pointer maxLen hptr, hcycle⟩

theorem not_halts_of_leadsToCycle {buf : Mem} {maxLen o n : ℕ} (h : LeadsToCycle buf maxLen o n)
    {s : ParseState} (hoffset : s.offset = o) (hlength : s.domain.length = n)
    (r : Option (ℕ × CString)) : ¬ Loop.Halts (parseStep buf maxLen) s r := by
  induction h generalizing s with
  | cycle hcycle => exact not_halts_of_onCycle (hoffset ▸ hcycle) r
  | pointer hptr _ ih =>
    subst hoffset
    rw [Loop.halts_of_inl_iff (parseStep_of_pointer maxLen hptr)]
    exact ih rfl hlength
  | label h0 hptr hroom _ ih =>
    subst hoffset hlength
    obtain ⟨s', hs', hoffset, hlength⟩ := parseStep_of_label h0 hptr hroom
    rw [Loop.halts_of_inl_iff hs']
    exact ih hoffset hlength

/-- Anywhere else the parser comes to an end: a label takes room, and a pointer leaves fewer pointers
ahead. -/
theorem exists_halts_of_not_leadsToCycle {buf : Mem} {maxLen : ℕ} {s : ParseState}
    (h : ¬ LeadsToCycle buf maxLen s.offset s.domain.length) :
    ∃ r, Loop.Halts (parseStep buf maxLen) s r := by
  refine Loop.exists_halts_of_lt (P := fun s => ¬ LeadsToCycle buf maxLen s.offset s.domain.length)
    (fun s => toLex (maxLen - s.domain.length,
      (Links.ahead (pointerTarget buf) pointerTargets s.offset).card)) ?_ h
  intro s s' hs hround
  obtain ⟨hptr, hoffset, hlength⟩ | ⟨h0, hptr, hroom, hoffset, hlength⟩ := parseStep_moves hround
  · refine ⟨fun hrest => hs (.pointer hptr (hoffset ▸ hlength ▸ hrest)), ?_⟩
    have hcycle : ¬ Links.OnCycle (pointerTarget buf) s'.offset := fun hcycle =>
      hs (.pointer hptr (.cycle (hoffset ▸ hcycle)))
    have hlink : pointerTarget buf s.offset = some s'.offset :=
      pointerTarget_eq_some_iff.2 ⟨hptr, hoffset⟩
    have hlt := Links.card_ahead_lt (f := pointerTarget buf) (fun _ _ => pointerTarget_mem) hlink
      hcycle
    rw [Prod.Lex.toLex_lt_toLex, hlength]
    dsimp only
    exact .inr ⟨rfl, hlt⟩
  · refine ⟨fun hrest => hs (.label h0 hptr hroom (hoffset ▸ hlength ▸ hrest)), ?_⟩
    have hpos : 0 < (buf s.offset).toNat :=
      Nat.pos_of_ne_zero fun h => h0 (UInt8.toNat_inj.1 h)
    rw [Prod.Lex.toLex_lt_toLex, hlength, afterLabel]
    dsimp only
    exact .inl (by omega)

/-- **When `parse_domain_name` returns**: exactly when the name does not lead to a circle of
pointers. -/
theorem parsesName_iff_not_leadsToCycle (buf : Mem) (offset maxLen : ℕ) :
    (∃ r, ParsesName buf offset maxLen r) ↔ ¬ LeadsToCycle buf maxLen offset 0 := by
  refine ⟨?_, fun h => exists_halts_of_not_leadsToCycle h⟩
  rintro ⟨r, hr⟩ h
  exact not_halts_of_leadsToCycle h rfl rfl r hr

/-- A query whose name is a pointer to itself. -/
def pointerLoop : Bytes :=
  [0x12, 0x34, 0x01, 0x00, 0x00, 0x01, 0x00, 0x00, 0x00, 0x00, 0x00, 0x00, 0xC0, 0x0C, 0x00, 0x01,
    0x00, 0x01]

theorem parsesName_pointerLoop (old : Mem) (maxLen : ℕ) (r : Option (ℕ × CString)) :
    ¬ ParsesName (old.write pointerLoop) DNS_HEADER_SIZE maxLen r := by
  refine not_halts_of_onCycle (.of_self ?_) r
  have hhi : old.write pointerLoop 12 = 0xC0 := Mem.write_of_getElem? rfl
  have hlo : old.write pointerLoop (12 + 1) = 0x0C := Mem.write_of_getElem? rfl
  rw [pointerTarget, hhi, hlo]
  rfl

/-- The datagram keeps `dns_server_task` busy for ever. -/
theorem dnsIteration_pointerLoop :
    (¬ ∀ (buf : Mem) (offset : ℕ), ∃ r, ParsesName buf offset DNS_DOMAIN_SIZE r) ∧
      ∀ (t : DomainTable) (net : NetOutcome) (old : Mem) (client : SockAddr),
        ¬ ∃ out, DnsIteration t net old pointerLoop client out := by
  refine ⟨fun h => ?_, ?_⟩
  · obtain ⟨r, hr⟩ := h (Mem.write (fun _ => 0) pointerLoop) DNS_HEADER_SIZE
    exact parsesName_pointerLoop _ _ r hr
  · rintro t net old client ⟨out, h⟩
    have hquery : isQuery (old.write pointerLoop) = true := by
      have hflags : old.write pointerLoop 2 = 0x01 ∧ old.write pointerLoop 3 = 0x00 := ⟨rfl, rfl⟩
      have hcount : old.write pointerLoop 4 = 0x00 ∧ old.write pointerLoop 5 = 0x01 := ⟨rfl, rfl⟩
      rw [isQuery, ntohs_load16, ntohs_load16, hflags.1, hflags.2, hcount.1, hcount.2]
      decide
    rw [DnsIteration, DnsRound, List.take_of_length_le (by decide), if_neg (by decide),
      if_pos hquery] at h
    obtain ⟨r, hr, -⟩ := h
    exact parsesName_pointerLoop old _ r hr

/-! ## What the parser reads -/

/-- The offsets that one round of the parser reads: the length byte, and the second byte of a
pointer or the bytes of a label that fits. -/
def parseReads (buf : Mem) (maxLen : ℕ) (s : ParseState) : List ℕ :=
  let len := buf s.offset
  if len = 0 then [s.offset]
  else if IsPointer len then [s.offset, s.offset + 1]
  else if maxLen ≤ s.domain.length + len.toNat + 1 then [s.offset]
  else s.offset :: List.range' (s.offset + 1) len.toNat

/-- `parse_domain_name(buf, offset, domain, maxLen)` reads `buf[k]`. -/
def ReadsName (buf : Mem) (offset maxLen k : ℕ) : Prop :=
  ∃ s, Loop.Reaches (parseStep buf maxLen) ⟨offset, [], none⟩ s ∧ k ∈ parseReads buf maxLen s

/-- Every round reads a length byte. -/
theorem offset_mem_parseReads (buf : Mem) (maxLen : ℕ) (s : ParseState) :
    s.offset ∈ parseReads buf maxLen s := by
  rw [parseReads]
  split
  · exact List.mem_cons_self
  split
  · exact List.mem_cons_self
  split
  · exact List.mem_cons_self
  · exact List.mem_cons_self

/-- **What a round reads decides what it does.** -/
theorem parseStep_congr {buf buf' : Mem} {maxLen : ℕ} {s : ParseState}
    (h : ∀ k ∈ parseReads buf maxLen s, buf k = buf' k) :
    parseStep buf maxLen s = parseStep buf' maxLen s := by
  have hlen := h s.offset (offset_mem_parseReads buf maxLen s)
  rw [parseReads] at h
  rw [parseStep, parseStep, ← hlen]
  split
  · rfl
  next h0 =>
  rw [if_neg h0] at h
  split
  · next hptr =>
    rw [if_pos hptr] at h
    rw [h (s.offset + 1) (List.mem_cons_of_mem _ List.mem_cons_self)]
  next hptr =>
  rw [if_neg hptr] at h
  split
  · rfl
  next hroom =>
  rw [if_neg hroom] at h
  have hslice : buf.slice (s.offset + 1) (buf s.offset).toNat =
      buf'.slice (s.offset + 1) (buf s.offset).toNat := by
    refine Mem.slice_congr fun i hi => h _ (List.mem_cons_of_mem _ ?_)
    rw [List.mem_range'_1]
    omega
  rw [hslice]

/-- The name that goes on at an offset of the message `data`, when so much of it is written, comes to
the end of the message: the length byte, the second byte of a pointer or a part of a label is not
there, or this is so where the pointer leads or behind the label. -/
inductive RunsOut (data : Bytes) (maxLen : ℕ) : ℕ → ℕ → Prop
  | here {o n : ℕ} (hcut : data.length ≤ o) : RunsOut data maxLen o n
  | pointerCut {o n : ℕ} {hi : UInt8} (hhi : data[o]? = some hi) (hptr : IsPointer hi)
      (hcut : data.length ≤ o + 1) : RunsOut data maxLen o n
  | labelCut {o n : ℕ} {len : UInt8} (hlen : data[o]? = some len) (h0 : len ≠ 0)
      (hptr : ¬ IsPointer len) (hroom : n + len.toNat + 1 < maxLen)
      (hcut : data.length ≤ o + len.toNat) : RunsOut data maxLen o n
  | pointer {o n : ℕ} {hi lo : UInt8} (hhi : data[o]? = some hi) (hptr : IsPointer hi)
      (hlo : data[o + 1]? = some lo) (hrest : RunsOut data maxLen (pointerOffset hi lo) n) :
      RunsOut data maxLen o n
  | label {o n : ℕ} {len : UInt8} (hlen : data[o]? = some len) (h0 : len ≠ 0)
      (hptr : ¬ IsPointer len) (hroom : n + len.toNat + 1 < maxLen)
      (hrest : RunsOut data maxLen (o + 1 + len.toNat) (afterLabel n len.toNat)) :
      RunsOut data maxLen o n

/-- A name that runs out makes the parser read behind the message. -/
theorem reads_outside_of_runsOut {data : Bytes} {maxLen o n : ℕ} (h : RunsOut data maxLen o n)
    (old : Mem) {s : ParseState} (hoffset : s.offset = o) (hlength : s.domain.length = n) :
    ∃ s', Loop.Reaches (parseStep (old.write data) maxLen) s s' ∧
      ∃ k ∈ parseReads (old.write data) maxLen s', data.length ≤ k := by
  induction h generalizing s with
  | here hcut =>
    subst hoffset
    exact ⟨s, .refl, s.offset, offset_mem_parseReads .., hcut⟩
  | pointerCut hhi hptr hcut =>
    subst hoffset
    refine ⟨s, .refl, s.offset + 1, ?_, hcut⟩
    rw [parseReads, Mem.write_of_getElem? hhi, if_neg hptr.ne_zero, if_pos hptr]
    exact List.mem_cons_of_mem _ List.mem_cons_self
  | @labelCut o n len hlen h0 hptr hroom hcut =>
    subst hoffset hlength
    refine ⟨s, .refl, s.offset + len.toNat, ?_, hcut⟩
    rw [parseReads, Mem.write_of_getElem? hlen, if_neg h0, if_neg hptr, if_neg (Nat.not_le.2 hroom)]
    refine List.mem_cons_of_mem _ (List.mem_range'_1.2 ?_)
    have hpos : 0 < len.toNat := Nat.pos_of_ne_zero fun h => h0 (UInt8.toNat_inj.1 h)
    omega
  | @pointer o n hi lo hhi hptr hlo _ ih =>
    subst hoffset
    have hbyte : IsPointer (old.write data s.offset) := by rwa [Mem.write_of_getElem? hhi]
    have hround := parseStep_of_pointer maxLen hbyte
    rw [Mem.write_of_getElem? hhi, Mem.write_of_getElem? hlo] at hround
    obtain ⟨s', hs', hk⟩ := ih (s := { s with
      offset := pointerOffset hi lo
      jump := some (s.jump.getD (s.offset + 2)) }) rfl hlength
    exact ⟨s', .head hround hs', hk⟩
  | label hlen h0 hptr hroom _ ih =>
    subst hoffset hlength
    rw [← Mem.write_of_getElem? (m := old) hlen] at h0 hptr hroom
    obtain ⟨t, ht, hoffset, hlength⟩ := parseStep_of_label h0 hptr hroom
    rw [Mem.write_of_getElem? hlen] at hoffset hlength
    obtain ⟨s', hs', hk⟩ := ih hoffset hlength
    exact ⟨s', .head ht hs', hk⟩

/-- While a name does not run out, a round reads inside the message. -/
theorem reads_inside_of_not_runsOut {data : Bytes} {maxLen : ℕ} {s : ParseState}
    (h : ¬ RunsOut data maxLen s.offset s.domain.length) (old : Mem) :
    ∀ k ∈ parseReads (old.write data) maxLen s, k < data.length := by
  have ho : s.offset < data.length := Nat.lt_of_not_le fun hcut => h (.here hcut)
  have hlen : data[s.offset]? = some (old.write data s.offset) := by
    rw [Mem.write_getElem old ho, List.getElem?_eq_getElem ho]
  intro k hk
  rw [parseReads] at hk
  split at hk
  · rw [List.mem_singleton.1 hk]; exact ho
  next h0 =>
  split at hk
  · next hptr =>
    have hcut : ¬ data.length ≤ s.offset + 1 := fun hcut => h (.pointerCut hlen hptr hcut)
    rcases List.mem_cons.1 hk with rfl | hk
    · exact ho
    · rw [List.mem_singleton.1 hk]
      exact Nat.lt_of_not_le hcut
  next hptr =>
  split at hk
  · rw [List.mem_singleton.1 hk]; exact ho
  next hroom =>
  have hcut : ¬ data.length ≤ s.offset + (old.write data s.offset).toNat := fun hcut =>
    h (.labelCut hlen h0 hptr (Nat.lt_of_not_le hroom) hcut)
  rcases List.mem_cons.1 hk with rfl | hk
  · exact ho
  · rw [List.mem_range'_1] at hk
    omega

/-- The next round is at a name that does not run out either. -/
theorem not_runsOut_of_parseStep {data : Bytes} {maxLen : ℕ} {old : Mem} {s s' : ParseState}
    (h : ¬ RunsOut data maxLen s.offset s.domain.length)
    (hround : parseStep (old.write data) maxLen s = .inl s') :
    ¬ RunsOut data maxLen s'.offset s'.domain.length := by
  have hbyte : ∀ k ∈ parseReads (old.write data) maxLen s,
      data[k]? = some (old.write data k) := by
    intro k hk
    have hlt := reads_inside_of_not_runsOut h old k hk
    rw [Mem.write_getElem old hlt, List.getElem?_eq_getElem hlt]
  have hlen := hbyte s.offset (offset_mem_parseReads ..)
  rw [parseReads] at hbyte
  obtain ⟨hptr, hoffset, hlength⟩ | ⟨h0, hptr, hroom, hoffset, hlength⟩ := parseStep_moves hround
  · rw [if_neg hptr.ne_zero, if_pos hptr] at hbyte
    have hlo := hbyte (s.offset + 1) (List.mem_cons_of_mem _ List.mem_cons_self)
    rw [hoffset, hlength]
    exact fun hrest => h (.pointer hlen hptr hlo hrest)
  · rw [hoffset, hlength]
    exact fun hrest => h (.label hlen h0 hptr hroom hrest)

/-- **When `parse_domain_name` stays inside the datagram**, and what it returns depends on nothing
else: exactly when the name does not run out. -/
theorem readsName_inside_iff (data : Bytes) (old : Mem) :
    ((∀ k, ReadsName (old.write data) DNS_HEADER_SIZE DNS_DOMAIN_SIZE k → k < data.length) ∧
      ∀ (old' : Mem) r, ParsesName (old.write data) DNS_HEADER_SIZE DNS_DOMAIN_SIZE r ↔
        ParsesName (old'.write data) DNS_HEADER_SIZE DNS_DOMAIN_SIZE r) ↔
      ¬ RunsOut data DNS_DOMAIN_SIZE DNS_HEADER_SIZE 0 := by
  constructor
  · rintro ⟨hinside, -⟩ h
    obtain ⟨s, hs, k, hk, hle⟩ := reads_outside_of_runsOut h old (s := ⟨_, [], none⟩) rfl rfl
    exact absurd (hinside k ⟨s, hs, hk⟩) (Nat.not_lt.2 hle)
  · intro h
    refine ⟨?_, fun old' r => ?_⟩
    · rintro k ⟨s, hs, hk⟩
      refine reads_inside_of_not_runsOut (hs.invariant (P := fun s =>
        ¬ RunsOut data DNS_DOMAIN_SIZE s.offset s.domain.length) ?_ h) old k hk
      exact fun _ _ => not_runsOut_of_parseStep
    · refine Loop.halts_congr (P := fun s =>
        ¬ RunsOut data DNS_DOMAIN_SIZE s.offset s.domain.length) ?_ ?_ h r
      · exact fun _ _ => not_runsOut_of_parseStep
      · exact fun s hs => parseStep_congr fun k hk =>
          Mem.write_eq_write old old' (reads_inside_of_not_runsOut hs old k hk)

/-- A header, with nothing behind it. -/
def bareHeader : Bytes :=
  [0x12, 0x34, 0x01, 0x00, 0x00, 0x01, 0x00, 0x00, 0x00, 0x00, 0x00, 0x00]

/-- The parser reads the byte behind it, which is left over from an earlier packet. -/
theorem readsName_bareHeader :
    ¬ ∀ (data : Bytes) (old : Mem), DNS_HEADER_SIZE ≤ data.length →
      data.length ≤ DNS_MAX_PACKET_SIZE →
      ∀ k, ReadsName (old.write data) DNS_HEADER_SIZE DNS_DOMAIN_SIZE k → k < data.length := by
  intro h
  refine absurd (h bareHeader (fun _ => 0) (by decide) (by decide) 12 ?_) (by decide)
  exact ⟨_, .refl, offset_mem_parseReads ..⟩

end EspFirewall
