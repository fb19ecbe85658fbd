import EspFirewall.Dns.NameWalk

/-!
# What `parse_domain_name` writes (`dns_server.c`)

`Name` has the bytes that `parse_domain_name` has written as a list.  Here `domain` is memory, `i` the
index that the next byte is stored at, and `nameStores` the stores of a round.  `halts_nameStep` says
that the two agree.

A round asks once whether there is room, for the label and one byte more, and then may store a dot,
the label, and at the end of the name a NUL.  `parseName_inside` says that no store is behind the
array, whatever the packet has in it and whether the loop ends or not.
-/

set_option autoImplicit false

namespace EspFirewall

open CLang

/-! ## The loop -/

/-- The variables of the loop of `parse_domain_name`, with `domain` as memory. -/
structure NameState where
  offset : ℕ
  i : ℕ
  /-- `jump_offset`, once `jumped` is set. -/
  jump : Option ℕ
  domain : Mem

/-- The state in which the loop starts. -/
def NameState.start (offset : ℕ) (domain : Mem) : NameState := ⟨offset, 0, none, domain⟩

/-- The stores of a round to `domain`, in order; the terminator is stored behind the last one. -/
def nameStores (buf : Mem) (maxLen : ℕ) (s : NameState) : List (ℕ × UInt8) :=
  let len := buf s.offset
  if len = 0 then [(s.i, 0)]
  else if IsPointer len then []
  else if maxLen ≤ s.i + len.toNat + 1 then []
  else if 0 < s.i then
    (s.i, 46) :: memcpyStores (s.i + 1) (buf.slice (s.offset + 1) len.toNat)
  else memcpyStores s.i (buf.slice (s.offset + 1) len.toNat)

/-- One round of the loop of `parse_domain_name`, or what follows it.  The result is the offset
that is returned, or nothing for `-1`, and what `domain` then is. -/
def nameStep (buf : Mem) (maxLen : ℕ) (s : NameState) : NameState ⊕ (Option ℕ × Mem) :=
  let len := buf s.offset
  let domain := s.domain.stores (nameStores buf maxLen s)
  if len = 0 then .inr (some (s.jump.getD (s.offset + 1)), domain)
  else if IsPointer len then
    .inl ⟨pointerOffset len (buf (s.offset + 1)), s.i, some (s.jump.getD (s.offset + 2)), domain⟩
  else if maxLen ≤ s.i + len.toNat + 1 then .inr (none, domain)
  else
    .inl ⟨s.offset + 1 + len.toNat, (if 0 < s.i then s.i + 1 else s.i) + len.toNat, s.jump, domain⟩

section

variable {buf : Mem} {maxLen : ℕ} {s s' : NameState}

/-- What a round that is not the last does to `i` and `domain`. -/
theorem nameStep_inl (h : nameStep buf maxLen s = .inl s') :
    s'.domain = s.domain.stores (nameStores buf maxLen s) ∧
      (s'.i = s.i ∨ s.i + (buf s.offset).toNat + 1 < maxLen ∧
        s'.i = (if 0 < s.i then s.i + 1 else s.i) + (buf s.offset).toNat) := by
  rw [nameStep] at h
  split at h
  · exact nomatch h
  split at h
  · cases h
    exact ⟨rfl, .inl rfl⟩
  split at h
  · exact nomatch h
  · next hroom =>
    cases h
    exact ⟨rfl, .inr ⟨Nat.not_le.1 hroom, rfl⟩⟩

/-! ## It stays inside -/

/-- **The stores of a round** are below `maxLen` if `i` is. -/
theorem nameStores_lt (h : s.i < maxLen) {k : ℕ}
    (hk : k ∈ (nameStores buf maxLen s).map Prod.fst) : k < maxLen := by
  rw [nameStores] at hk
  split at hk
  · rw [List.map_singleton, List.mem_singleton] at hk
    exact hk ▸ h
  split at hk
  · exact absurd hk List.not_mem_nil
  split at hk
  · exact absurd hk List.not_mem_nil
  next hroom =>
  split at hk
  · rw [List.map_cons, List.mem_cons, mem_memcpyStores, Mem.slice_length] at hk
    -- The dot takes the byte that the check leaves for the terminator.
    omega
  · rw [mem_memcpyStores, Mem.slice_length] at hk
    omega

/-- A round leaves `i` below `maxLen`. -/
theorem nameStep_i_lt (h : s.i < maxLen) (hround : nameStep buf maxLen s = .inl s') :
    s'.i < maxLen := by
  obtain ⟨-, hi | ⟨hroom, hi⟩⟩ := nameStep_inl hround
  · rw [hi]
    exact h
  · rw [hi]
    split <;> omega

/-- A round leaves memory behind the array alone. -/
theorem stores_nameStores_frame (h : s.i < maxLen) {k : ℕ} (hk : maxLen ≤ k) :
    s.domain.stores (nameStores buf maxLen s) k = s.domain k :=
  Mem.stores_of_notMem fun hmem => Nat.not_lt.2 hk (nameStores_lt h hmem)

end

/-- **The parser stays inside `domain`**, at every round of any run: `i` is below `maxLen`, every byte
that is stored has an index below `maxLen`, and memory behind the array is as it was before. -/
theorem parseName_inside (buf domain : Mem) (offset : ℕ) {maxLen : ℕ} (hpos : 1 ≤ maxLen)
    {s : NameState} (hs : Loop.Reaches (nameStep buf maxLen) (.start offset domain) s) :
    s.i < maxLen ∧ (∀ k ∈ (nameStores buf maxLen s).map Prod.fst, k < maxLen) ∧
      ∀ k, maxLen ≤ k → s.domain.stores (nameStores buf maxLen s) k = domain k := by
  have hround : ∀ s s', (s.i < maxLen ∧ ∀ k, maxLen ≤ k → s.domain k = domain k) →
      nameStep buf maxLen s = .inl s' →
        s'.i < maxLen ∧ ∀ k, maxLen ≤ k → s'.domain k = domain k := by
    rintro s s' ⟨hi, hframe⟩ hstep
    refine ⟨nameStep_i_lt hi hstep, fun k hk => ?_⟩
    rw [(nameStep_inl hstep).1, stores_nameStores_frame hi hk]
    exact hframe k hk
  obtain ⟨hi, hframe⟩ := hs.invariant hround ⟨hpos, fun _ _ => rfl⟩
  refine ⟨hi, fun k hk => nameStores_lt hi hk, fun k hk => ?_⟩
  rw [stores_nameStores_frame hi hk]
  exact hframe k hk

/-- The name `b.a`. -/
def twoLabels : Mem := Mem.write (fun _ => 0) [1, 98, 1, 97, 0]

/-- Where the loop is when it has read the first label of `b.a`. -/
def behindFirstLabel : NameState := ⟨2, 1, none, Mem.stores (fun _ => 0) [(0, 98)]⟩

/-- The round for the second label stores a dot as well. -/
theorem parseName_inside_twoLabels :
    (nameStores twoLabels DNS_DOMAIN_SIZE behindFirstLabel).map Prod.fst = [1, 2] ∧
      behindFirstLabel.i < DNS_DOMAIN_SIZE ∧
      (∀ k ∈ (nameStores twoLabels DNS_DOMAIN_SIZE behindFirstLabel).map Prod.fst,
        k < DNS_DOMAIN_SIZE) ∧
      ∀ k, DNS_DOMAIN_SIZE ≤ k → behindFirstLabel.domain.stores
        (nameStores twoLabels DNS_DOMAIN_SIZE behindFirstLabel) k = 0 :=
  ⟨rfl, parseName_inside twoLabels (fun _ => 0) 0 (by decide) (.single rfl)⟩

/-- A length byte that is no pointer is below 192. -/
theorem toNat_lt_of_not_pointer {b : UInt8} (h : ¬ IsPointer b) : b.toNat < 192 := by
  have hall : ∀ k : Fin 256, ¬ IsPointer (UInt8.ofNat k) → k.val < 192 := by
    decide +kernel
  refine hall ⟨b.toNat, b.toNat_lt⟩ ?_
  rwa [UInt8.ofNat_toNat]

/-- The sum that is compared with `maxLen` does not overflow an `int`, unless `maxLen` itself is near
its end. -/
theorem checkedSum_lt {buf : Mem} {maxLen : ℕ} {s : NameState} (hi : s.i < maxLen)
    (hmax : maxLen + 192 ≤ 2 ^ 31) (hptr : ¬ IsPointer (buf s.offset)) :
    s.i + (buf s.offset).toNat + 1 < 2 ^ 31 := by
  have hlen := toNat_lt_of_not_pointer hptr
  omega

/-! ## The string that is written -/

/-- The loop with `domain` as memory is where the loop with a list of bytes is. -/
structure NameState.Writes (old : Mem) (s : NameState) (p : ParseState) : Prop where
  offset : s.offset = p.offset
  jump : s.jump = p.jump
  length : s.i = p.domain.length
  domain : s.domain = old.write p.domain

/-- A result of the loop, with what `domain` then is, and the result with a string. -/
def LeavesName (old : Mem) : Option ℕ × Mem → Option (ℕ × CString) → Prop
  | (none, _), none => True
  | (some o, m), some (o', d) => o = o' ∧
    ∃ written, d = .ofMem written ∧ m = old.write (written ++ [0])
  | _, _ => False

/-- **A round** with `domain` as memory does what it does with a list of bytes. -/
theorem NameState.Writes.step {old buf : Mem} {maxLen : ℕ} {s : NameState} {p : ParseState}
    (h : s.Writes old p) :
    Sum.LiftRel (NameState.Writes old) (LeavesName old) (nameStep buf maxLen s)
      (parseStep buf maxLen p) := by
  obtain ⟨offset, jump, i, domain⟩ := s
  obtain ⟨rfl, rfl, rfl, rfl⟩ := h
  have hcopy : ∀ bytes, (old.write p.domain).stores (memcpyStores p.domain.length bytes) =
      old.write (p.domain ++ bytes) := Mem.stores_memcpyStores old p.domain
  rw [nameStep, nameStores, parseStep]
  dsimp only
  split
  · exact .inr ⟨rfl, _, rfl, hcopy [0]⟩
  split
  · exact .inl ⟨rfl, rfl, rfl, rfl⟩
  split
  · exact .inr trivial
  refine .inl ⟨rfl, rfl, ?_, ?_⟩
  · rw [List.length_append, List.length_append, Mem.slice_length]
    split <;> rfl
  · split
    · rw [List.append_assoc]
      exact hcopy (46 :: _)
    · rw [List.append_nil]
      exact hcopy _

/-- **What the two loops leave**: they end together, and `domain` then has the string in it. -/
theorem halts_nameStep (buf domain : Mem) (offset maxLen : ℕ) :
    ((∃ q, Loop.Halts (nameStep buf maxLen) (.start offset domain) q) ↔
        ∃ r, ParsesName buf offset maxLen r) ∧
      ∀ q r, Loop.Halts (nameStep buf maxLen) (.start offset domain) q →
        ParsesName buf offset maxLen r → LeavesName domain q r :=
  Loop.halts_simulate (R := NameState.Writes domain) (fun _ _ h => h.step) ⟨rfl, rfl, rfl, rfl⟩

end EspFirewall
