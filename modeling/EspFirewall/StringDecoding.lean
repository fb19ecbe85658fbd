import EspFirewall.General.Loop
import EspFirewall.Settings

/-!
# `preprocess_string` in place (`cmd_router.c`)

`preprocess_string` decodes a string in the array that holds it: `p` reads, `q` writes, and both start
at the beginning.  `Settings` has the string that comes out.  Here the loop works on memory, and
`preprocess_in_place` says that the two agree, that `q` never gets ahead of `p`, and that nothing
behind the terminator is touched.
-/

set_option autoImplicit false

namespace EspFirewall

open CLang FormCoding

/-! ## The loop -/

/-- The variables of the loop of `preprocess_string`, and memory. -/
structure DecodeState where
  mem : Mem
  /-- Where the loop reads. -/
  p : ℕ
  /-- Where the loop writes. -/
  q : ℕ

/-- What a round of the loop makes of the bytes at `p`: the byte that it writes, and how far `p`
moves; nothing at the terminator. -/
def decodeRound (mem : Mem) (p : ℕ) : Option (UInt8 × ℕ) :=
  if mem p = 0 then none
  else if mem p = 37 ∧ mem (p + 1) ≠ 0 ∧ mem (p + 2) ≠ 0 then
    some ((quotedHex (mem (p + 1)) <<< 4) + quotedHex (mem (p + 2)), 3)
  else if mem p = 43 then some (32, 1)
  else some (mem p, 1)

/-- One round of the loop of `preprocess_string`, or what follows it, which is `*q = '\0'`. -/
def decodeStep (s : DecodeState) : DecodeState ⊕ Mem :=
  match decodeRound s.mem s.p with
  | none => .inr (Function.update s.mem s.q 0)
  | some (b, d) => .inl ⟨Function.update s.mem s.q b, s.p + d, s.q + 1⟩

/-- `preprocess_string` on the string at the beginning of memory. -/
def Preprocesses (mem mem' : Mem) : Prop := Loop.Halts decodeStep ⟨mem, 0, 0⟩ mem'

/-- The offsets that a round reads: the two bytes behind a `%` only as long as there is no
terminator. -/
def decodeReads (mem : Mem) (p : ℕ) : List ℕ :=
  if mem p = 37 then if mem (p + 1) = 0 then [p, p + 1] else [p, p + 1, p + 2] else [p]

/-- **What a round reads decides what it does.** -/
theorem decodeRound_congr {mem mem' : Mem} {p : ℕ} (h : ∀ k ∈ decodeReads mem p, mem k = mem' k) :
    decodeRound mem p = decodeRound mem' p := by
  have hp : mem p = mem' p := by
    refine h p ?_
    rw [decodeReads]
    split
    · split
      · exact List.mem_cons_self
      · exact List.mem_cons_self
    · exact List.mem_cons_self
  rw [decodeReads] at h
  rw [decodeRound, decodeRound, ← hp]
  by_cases hpercent : mem p = 37
  · rw [if_pos hpercent] at h
    by_cases hend : mem (p + 1) = 0
    · rw [if_pos hend] at h
      have hp₁ := h (p + 1) (List.mem_cons_of_mem _ List.mem_cons_self)
      rw [if_neg (c := mem p = 37 ∧ mem (p + 1) ≠ 0 ∧ mem (p + 2) ≠ 0) fun hc => hc.2.1 hend,
        if_neg (c := mem p = 37 ∧ mem' (p + 1) ≠ 0 ∧ mem' (p + 2) ≠ 0) fun hc =>
          hc.2.1 (hp₁ ▸ hend)]
    · rw [if_neg hend] at h
      rw [h (p + 1) (List.mem_cons_of_mem _ List.mem_cons_self), h (p + 2)
        (List.mem_cons_of_mem _ (List.mem_cons_of_mem _ List.mem_cons_self))]
  · rw [if_neg (c := mem p = 37 ∧ mem (p + 1) ≠ 0 ∧ mem (p + 2) ≠ 0) fun hc => hpercent hc.1,
      if_neg (c := mem p = 37 ∧ mem' (p + 1) ≠ 0 ∧ mem' (p + 2) ≠ 0) fun hc => hpercent hc.1]

/-! ## The invariant -/

/-- A store does not show in what is in front of it, or behind it. -/
theorem Mem.holdsAt_update {m : Mem} {i o : ℕ} {bs : Bytes} (h : i < o ∨ o + bs.length ≤ i)
    (b : UInt8) : Mem.HoldsAt (Function.update m i b) o bs ↔ m.HoldsAt o bs := by
  rw [Mem.HoldsAt, Mem.HoldsAt]
  have hslice : Mem.slice (Function.update m i b) o bs.length = m.slice o bs.length :=
    Mem.slice_congr fun k hk => Function.update_of_ne (by omega) ..
  rw [hslice]

/-- The loop has written `out` and has `rest` still to read, of the string `str` in `mem`. -/
structure Decoding (mem : Mem) (str : CString) (s : DecodeState) (out rest : Bytes) : Prop where
  position : s.p + rest.length = str.strlen
  nulFree : 0 ∉ rest
  unread : s.mem.HoldsAt s.p (rest ++ [0])
  written : s.mem.HoldsAt 0 out
  length : out.length = s.q
  behind : s.q ≤ s.p
  decoded : out ++ preprocessBytes rest = preprocessBytes str.bytes
  frame : ∀ k, str.strlen < k → s.mem k = mem k

section

variable {mem : Mem} {str : CString} {s : DecodeState} {out rest : Bytes}

theorem Decoding.start (h : mem.HoldsAt 0 (str.bytes ++ [0])) :
    Decoding mem str ⟨mem, 0, 0⟩ [] str.bytes where
  position := Nat.zero_add _
  nulFree := str.nulFree
  unread := h
  written := rfl
  length := rfl
  behind := Nat.le_refl 0
  decoded := rfl
  frame _ _ := rfl

/-- **A round** that reads `used` and writes the byte that it stands for. -/
theorem Decoding.write {used : Bytes} {b : UInt8} (h : Decoding mem str s out (used ++ rest))
    (hused : used ≠ []) (hb : preprocessBytes (used ++ rest) = b :: preprocessBytes rest) :
    Decoding mem str ⟨Function.update s.mem s.q b, s.p + used.length, s.q + 1⟩ (out ++ [b]) rest := by
  have hpos : 0 < used.length := List.length_pos_iff.2 hused
  have hposition := h.position
  have hbehind := h.behind
  rw [List.length_append] at hposition
  refine ⟨?_, ?_, ?_, ?_, ?_, ?_, ?_, ?_⟩
  · rw [← hposition, Nat.add_assoc]
  · exact fun h0 => h.nulFree (List.mem_append_right _ h0)
  · refine (Mem.holdsAt_update (.inl ?_) b).2 ?_
    · exact Nat.lt_of_le_of_lt hbehind (Nat.lt_add_of_pos_right hpos)
    · have hunread := h.unread
      rw [List.append_assoc, Mem.holdsAt_append] at hunread
      exact hunread.2
  · rw [Mem.holdsAt_append]
    refine ⟨(Mem.holdsAt_update (.inr ?_) b).2 h.written, ?_⟩
    · rw [Nat.zero_add, h.length]
    · rw [Mem.holdsAt_cons, Nat.zero_add, h.length]
      exact ⟨Function.update_self .., rfl⟩
  · rw [List.length_append, h.length]
    rfl
  · show s.q + 1 ≤ s.p + used.length
    omega
  · rw [List.append_assoc, ← h.decoded, hb]
    rfl
  · intro k hk
    have hne : k ≠ s.q := by omega
    exact (Function.update_of_ne hne ..).trans (h.frame k hk)

/-- A byte that does not begin an escape. -/
theorem decodeRound_plain {m : Mem} {p : ℕ} (h0 : m p ≠ 0)
    (h : ¬ (m p = 37 ∧ m (p + 1) ≠ 0 ∧ m (p + 2) ≠ 0)) :
    decodeRound m p = some (unplus (m p), 1) := by
  rw [decodeRound, if_neg h0, if_neg h, unplus]
  split <;> rfl

/-- **What a round finds**: the terminator, or some bytes that stand for one. -/
theorem Decoding.round (h : Decoding mem str s out rest) :
    (rest = [] ∧ decodeRound s.mem s.p = none) ∨
    ∃ used b rest', rest = used ++ rest' ∧ used ≠ [] ∧
      decodeRound s.mem s.p = some (b, used.length) ∧
      preprocessBytes rest = b :: preprocessBytes rest' := by
  have hunread := h.unread
  have hnul := h.nulFree
  rcases rest with _ | ⟨c, rest⟩
  · rw [List.nil_append, Mem.holdsAt_cons] at hunread
    exact .inl ⟨rfl, if_pos hunread.1⟩
  rw [List.cons_append, Mem.holdsAt_cons] at hunread
  rw [List.mem_cons, not_or] at hnul
  obtain ⟨hc, hunread⟩ := hunread
  have hc0 : s.mem s.p ≠ 0 := hc ▸ Ne.symm hnul.1
  have hplain (hno : ¬ (s.mem s.p = 37 ∧ s.mem (s.p + 1) ≠ 0 ∧ s.mem (s.p + 2) ≠ 0))
      (hrest : preprocessBytes (c :: rest) = unplus c :: preprocessBytes rest) :
      ∃ used b rest', c :: rest = used ++ rest' ∧ used ≠ [] ∧
        decodeRound s.mem s.p = some (b, used.length) ∧
        preprocessBytes (c :: rest) = b :: preprocessBytes rest' :=
    ⟨[c], unplus c, rest, rfl, List.cons_ne_nil _ _, by rw [decodeRound_plain hc0 hno, hc]; rfl,
      hrest⟩
  refine .inr ?_
  by_cases hpercent : c = 37
  swap
  · exact hplain (fun hyes => hpercent (hc ▸ hyes.1)) (preprocessBytes_cons hpercent rest)
  subst hpercent
  -- There may be no two bytes behind the `%`.
  rcases rest with _ | ⟨x, _ | ⟨y, rest⟩⟩
  · rw [List.nil_append, Mem.holdsAt_cons] at hunread
    exact hplain (fun hyes => hyes.2.1 hunread.1) rfl
  · rw [List.cons_append, List.nil_append, Mem.holdsAt_cons, Mem.holdsAt_cons] at hunread
    exact hplain (fun hyes => hyes.2.2 hunread.2.1) rfl
  · rw [List.cons_append, List.cons_append, Mem.holdsAt_cons, Mem.holdsAt_cons] at hunread
    obtain ⟨hx, hy, -⟩ := hunread
    rw [List.mem_cons, List.mem_cons, not_or, not_or] at hnul
    have hyes : s.mem s.p = 37 ∧ s.mem (s.p + 1) ≠ 0 ∧ s.mem (s.p + 2) ≠ 0 :=
      ⟨hc, hx ▸ Ne.symm hnul.2.1, hy ▸ Ne.symm hnul.2.2.1⟩
    refine ⟨[37, x, y], _, rest, rfl, List.cons_ne_nil _ _, ?_, preprocessBytes_escape x y rest⟩
    rw [decodeRound, if_neg hc0, if_pos hyes, hx, hy]
    rfl

/-- A round reads no further than the terminator. -/
theorem Decoding.reads_le (h : Decoding mem str s out rest) {k : ℕ}
    (hk : k ∈ decodeReads s.mem s.p) : k ≤ str.strlen := by
  have hposition := h.position
  have hunread := h.unread
  rw [decodeReads] at hk
  rcases rest with _ | ⟨c, rest⟩
  · rw [List.nil_append, Mem.holdsAt_cons] at hunread
    rw [hunread.1, if_neg (by decide), List.mem_singleton] at hk
    omega
  rw [List.cons_append, Mem.holdsAt_cons] at hunread
  rw [List.length_cons] at hposition
  split at hk
  · rcases rest with _ | ⟨x, rest⟩
    · rw [List.nil_append, Mem.holdsAt_cons] at hunread
      rw [if_pos hunread.2.1] at hk
      simp only [List.mem_cons, List.not_mem_nil, or_false] at hk
      omega
    · rw [List.length_cons] at hposition
      split at hk <;> simp only [List.mem_cons, List.not_mem_nil, or_false] at hk <;> omega
  · rw [List.mem_singleton] at hk
    omega

/-- The invariant of the loop. -/
def Decodes (mem : Mem) (str : CString) (s : DecodeState) : Prop :=
  ∃ out rest, Decoding mem str s out rest

/-- Every round preserves the invariant, and brings `p` closer to the terminator. -/
theorem Decodes.step {s' : DecodeState} (h : Decodes mem str s) (hround : decodeStep s = .inl s') :
    Decodes mem str s' ∧ str.strlen - s'.p < str.strlen - s.p := by
  obtain ⟨out, rest, h⟩ := h
  obtain ⟨-, hend⟩ | ⟨used, b, rest, rfl, hused, hbyte, hrest⟩ := h.round
  · rw [decodeStep, hend] at hround
    exact absurd hround nofun
  · rw [decodeStep, hbyte, Sum.inl.injEq] at hround
    subst hround
    have hposition := h.position
    have hpos : 0 < used.length := List.length_pos_iff.2 hused
    rw [List.length_append] at hposition
    refine ⟨⟨_, _, h.write hused hrest⟩, ?_⟩
    show str.strlen - (s.p + used.length) < str.strlen - s.p
    omega

/-- The last round leaves the decoded string in memory, and nothing behind it has changed. -/
theorem Decodes.leave {mem' : Mem} (h : Decodes mem str s) (hround : decodeStep s = .inr mem') :
    mem'.HoldsAt 0 (preprocessBytes str.bytes ++ [0]) ∧ ∀ k, str.strlen < k → mem' k = mem k := by
  obtain ⟨out, rest, h⟩ := h
  obtain ⟨rfl, hend⟩ | ⟨used, b, rest, rfl, -, hbyte, -⟩ := h.round
  · rw [decodeStep, hend, Sum.inr.injEq] at hround
    subst hround
    have hdecoded : out = preprocessBytes str.bytes := by
      rw [← h.decoded]
      exact (List.append_nil out).symm
    have hposition := h.position
    have hbehind := h.behind
    rw [← hdecoded, Mem.holdsAt_append, Mem.holdsAt_cons, Nat.zero_add, h.length]
    refine ⟨⟨(Mem.holdsAt_update (.inr ?_) 0).2 h.written, Function.update_self .., rfl⟩, ?_⟩
    · rw [Nat.zero_add, h.length]
    · intro k hk
      have hne : k ≠ s.q := by
        rw [List.length_nil] at hposition
        omega
      exact (Function.update_of_ne hne ..).trans (h.frame k hk)
  · rw [decodeStep, hbyte] at hround
    exact absurd hround nofun

/-- **The loop ends, with the decoded string in place.** -/
theorem preprocesses_string (h : mem.HoldsAt 0 (str.bytes ++ [0])) :
    ∃ mem', Preprocesses mem mem' ∧ mem'.HoldsAt 0 (preprocessBytes str.bytes ++ [0]) ∧
      ∀ k, str.strlen < k → mem' k = mem k := by
  have hstart : Decodes mem str ⟨mem, 0, 0⟩ := ⟨_, _, .start h⟩
  obtain ⟨mem', hmem'⟩ := Loop.exists_halts_of_lt (P := Decodes mem str)
    (fun s => str.strlen - s.p) (fun s s' hs hround => hs.step hround) hstart
  refine ⟨mem', hmem', ?_⟩
  exact hmem'.invariant (P := Decodes mem str) (fun s s' hs hround => (hs.step hround).1)
    (fun s mem' hs hround => hs.leave hround) hstart

end

/-- The form encodings of a text without NUL have none either. -/
theorem nul_notMem_of_encodes {w e : Bytes} (h : Encodes w e) (hw : 0 ∉ w) : 0 ∉ e := by
  have hdigit : ∀ {c x : UInt8}, hexValue c = some x → c ≠ 0 := by
    rintro c x hc rfl
    exact Option.some_ne_none x hc.symm
  induction h with
  | nil => exact hw
  | literal _ _ _ ih =>
    rw [List.mem_cons, not_or] at hw ⊢
    exact ⟨hw.1, ih hw.2⟩
  | space _ ih =>
    rw [List.mem_cons, not_or] at hw ⊢
    exact ⟨by decide, ih hw.2⟩
  | escape hh hl _ ih =>
    simp only [List.mem_cons, not_or] at hw ⊢
    exact ⟨by decide, (hdigit hh).symm, (hdigit hl).symm, ih hw.2⟩

/-- **`preprocess_string` undoes every form encoding, in place.**  On the encoding of a text without
NUL it leaves the text; and on any string it ends, in every round `q` is not ahead of `p`, what is
read and written is not behind the terminator, and what is behind it stays as it is. -/
theorem preprocess_in_place :
    (∀ (mem : Mem) (w e : Bytes), 0 ∉ w → Encodes w e → mem.HoldsAt 0 (e ++ [0]) →
      ∃ mem', Preprocesses mem mem' ∧ mem'.HoldsAt 0 (w ++ [0])) ∧
    ∀ (mem : Mem) (str : CString), mem.HoldsAt 0 (str.bytes ++ [0]) →
      (∀ s, Loop.Reaches decodeStep ⟨mem, 0, 0⟩ s →
        s.q ≤ s.p ∧ s.q ≤ str.strlen ∧ ∀ k ∈ decodeReads s.mem s.p, k ≤ str.strlen) ∧
      ∃ mem', Preprocesses mem mem' ∧ ∀ k, str.strlen < k → mem' k = mem k := by
  refine ⟨fun mem w e hw hcode hmem => ?_, fun mem str hmem => ⟨fun s hs => ?_, ?_⟩⟩
  · let str : CString := ⟨e, nul_notMem_of_encodes hcode hw⟩
    have hstart : mem.HoldsAt 0 (str.bytes ++ [0]) := hmem
    obtain ⟨mem', hmem', hstr, -⟩ := preprocesses_string hstart
    rw [preprocessBytes_of_encodes hcode] at hstr
    exact ⟨mem', hmem', hstr⟩
  · obtain ⟨out, rest, h⟩ := hs.invariant (P := Decodes mem str)
      (fun s s' hs hround => (hs.step hround).1) ⟨_, _, .start hmem⟩
    have hposition := h.position
    have hbehind := h.behind
    exact ⟨hbehind, by omega, fun k hk => h.reads_le hk⟩
  · obtain ⟨mem', hmem', -, hframe⟩ := preprocesses_string hmem
    exact ⟨mem', hmem', hframe⟩

/-- Of `a%2b+` it leaves `a+` and a blank. -/
theorem preprocess_in_place_plus :
    ∃ mem', Preprocesses (fun i => (ascii "a%2b+").getD i 0) mem' ∧
      Mem.HoldsAt mem' 0 (ascii "a+ " ++ [0]) :=
  preprocess_in_place.1 _ (ascii "a+ ") (ascii "a%2b+") (by decide)
    (.literal (by decide) (by decide) (.escape (x := 2) (y := 11) rfl rfl (.space .nil))) rfl

end EspFirewall
