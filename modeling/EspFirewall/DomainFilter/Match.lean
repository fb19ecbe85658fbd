import EspFirewall.DomainFilter.Defs

/-!
# What an entry of the domain filter covers

An entry `example.com` is meant to cover `example.com` and everything below it, and so is an entry
`*.example.com`: that is `CoversName`, with letter case ignored.  `domainMatches` computes it on
what is left of the two strings in arrays of `MAX_DOMAIN_LENGTH` bytes (`domainMatches_iff`).  For
an entry of the table that is all of it, but for a query it need not be.

`isDomainBlocked` depends on the table only through the set of its active domains
(`isDomainBlocked_iff`).
-/

set_option autoImplicit false

namespace EspFirewall

open CLang

/-! ## Covering a name -/

/-- An entry without one leading `"*."`. -/
def stripWildcard (e : Bytes) : Bytes := if e.take 2 = [42, 46] then e.drop 2 else e

/-- The entry `e` covers the name `q`: it is the name, or the name ends with `.` and the entry. -/
def CoversName (e q : Bytes) : Prop :=
  lower q = lower (stripWildcard e) ∨ 46 :: lower (stripWildcard e) <:+ lower q

instance (e q : Bytes) : Decidable (CoversName e q) := inferInstanceAs (Decidable (_ ∨ _))

/-- `*` and `.` have no case. -/
theorem take_lower_eq_wildcard {e : Bytes} : (lower e).take 2 = [42, 46] ↔ e.take 2 = [42, 46] := by
  rcases e with _ | ⟨a, _ | ⟨b, e⟩⟩
  · exact Iff.rfl
  · simp [lower]
  · simp [lower, tolower_eq_iff (show (42 : UInt8) < 65 by decide),
      tolower_eq_iff (show (46 : UInt8) < 65 by decide)]

/-- The last test of `domainMatches`, and half of the one before it: the name ends with a dot and
the other string. -/
theorem dot_suffix_iff {p q : Bytes} :
    46 :: p <:+ q ↔ p.length < q.length ∧ q.drop (q.length - p.length) = p ∧
      q[q.length - p.length - 1]? = some 46 := by
  constructor
  · rintro ⟨a, rfl⟩
    have hlen : (a ++ 46 :: p).length - p.length = a.length + 1 := by
      rw [List.length_append, List.length_cons]
      omega
    refine ⟨by rw [List.length_append, List.length_cons]; omega, ?_, ?_⟩
    · rw [hlen, List.append_cons, List.drop_left' (by simp)]
    · rw [hlen, Nat.add_sub_cancel, List.getElem?_append_right (Nat.le_refl _), Nat.sub_self]
      rfl
  · rintro ⟨hlt, hdrop, hdot⟩
    refine ⟨q.take (q.length - p.length - 1), ?_⟩
    obtain ⟨hi, hget⟩ := List.getElem?_eq_some_iff.1 hdot
    have hsplit : q.drop (q.length - p.length - 1) = 46 :: p := by
      rw [List.drop_eq_getElem_cons hi, hget, Nat.sub_add_cancel (by omega), hdrop]
    rw [← hsplit, List.take_append_drop]

/-- The test for a wildcard: the name is the other string, or ends with a dot and that string. -/
theorem wildcard_test_iff {p q : Bytes} :
    (p.length ≤ q.length ∧ q.drop (q.length - p.length) = p ∧
      (q.length = p.length ∨ q[q.length - p.length - 1]? = some 46)) ↔
      q = p ∨ 46 :: p <:+ q := by
  rw [dot_suffix_iff]
  constructor
  · rintro ⟨hle, hdrop, heq | hdot⟩
    · rw [heq, Nat.sub_self, List.drop_zero] at hdrop
      exact .inl hdrop
    · rcases Nat.eq_or_lt_of_le hle with heq | hlt
      · rw [← heq, Nat.sub_self, List.drop_zero] at hdrop
        exact .inl hdrop
      · exact .inr ⟨hlt, hdrop, hdot⟩
  · rintro (rfl | ⟨hlt, hdrop, hdot⟩)
    · exact ⟨Nat.le_refl _, by rw [Nat.sub_self, List.drop_zero], .inl rfl⟩
    · exact ⟨hlt.le, hdrop, .inr hdot⟩

/-- **What `domain_matches` computes**: whether what is left of the pattern covers what is left of
the query. -/
theorem domainMatches_iff (query pattern : CString) :
    domainMatches query pattern = true ↔
      CoversName (pattern.bytes.take (MAX_DOMAIN_LENGTH - 1))
        (query.bytes.take (MAX_DOMAIN_LENGTH - 1)) := by
  rw [domainMatches, CString.take_bytes, CString.take_bytes]
  generalize query.bytes.take (MAX_DOMAIN_LENGTH - 1) = q
  generalize pattern.bytes.take (MAX_DOMAIN_LENGTH - 1) = p
  simp only [Bool.or_eq_true, Bool.and_eq_true, beq_iff_eq, decide_eq_true_eq]
  rw [wildcard_test_iff, ← dot_suffix_iff, take_lower_eq_wildcard, CoversName, stripWildcard]
  split
  · next hwild =>
    rw [lower_drop]
    have hp : lower p = 42 :: 46 :: (lower p).drop 2 := by
      rw [← take_lower_eq_wildcard] at hwild
      conv_lhs => rw [← List.take_append_drop 2 (lower p), hwild]
      rfl
    -- a name that is `"*.b"`, or ends with `".*.b"`, ends with `".b"`
    refine ⟨?_, fun h => .inl (.inr ⟨hwild, h⟩)⟩
    rintro ((heq | ⟨-, h⟩) | hsuf)
    · exact .inr ⟨[42], by rw [heq, hp]; rfl⟩
    · exact h
    · refine .inr (List.IsSuffix.trans ⟨[46, 42], ?_⟩ hsuf)
      rw [hp]
      rfl
  · next hwild => simp [hwild]

/-- A name that ends with the other string, but not behind a dot, is another name. -/
theorem not_covers_of_suffix {b q x : Bytes} (hx : x ≠ []) (hdot : x.getLast? ≠ some 46)
    (hq : q = x ++ b) : ¬ (q = b ∨ 46 :: b <:+ q) := by
  subst hq
  rintro (heq | ⟨y, hy⟩)
  · exact hx (List.append_left_eq_self.1 heq)
  · rw [List.append_cons] at hy
    have hxy := List.append_inj_left' hy rfl
    rw [← hxy, List.getLast?_concat] at hdot
    exact hdot rfl

/-- **`domain_matches` on strings that fit its arrays**: letter case ignored, the query is the
pattern without its wildcard, or ends with a dot and that.  A query that ends with it otherwise does
not match. -/
theorem domainMatches_fits {query pattern : CString} (hquery : query.strlen ≤ 127)
    (hpattern : pattern.strlen ≤ 127) :
    (domainMatches query pattern = true ↔
      lower query.bytes = lower (stripWildcard pattern.bytes) ∨
        46 :: lower (stripWildcard pattern.bytes) <:+ lower query.bytes) ∧
    ∀ x, x ≠ [] → x.getLast? ≠ some 46 →
      lower query.bytes = x ++ lower (stripWildcard pattern.bytes) →
        domainMatches query pattern = false := by
  have htake {s : CString} (hs : s.strlen ≤ 127) : s.bytes.take (MAX_DOMAIN_LENGTH - 1) = s.bytes :=
    List.take_of_length_le hs
  have hmatch := domainMatches_iff query pattern
  rw [htake hquery, htake hpattern, CoversName] at hmatch
  refine ⟨hmatch, fun x hx hdot heq => ?_⟩
  rw [← Bool.not_eq_true, hmatch]
  exact not_covers_of_suffix hx hdot heq

theorem domainMatches_fits_suffix :
    domainMatches (.lit "notexample.com") (.lit "example.com") = false :=
  (domainMatches_fits (by decide) (by decide)).2 (ascii "not") (by decide) (by decide) (by decide)

/-! ## The set of active domains -/

/-- The domains of the entries in use that are active. -/
def DomainTable.activeDomains (t : DomainTable) : Set CString :=
  {d | ∃ i : Fin MAX_BLOCKED_DOMAINS, i.val < t.count ∧ (t.slots i).active = true ∧
    (t.slots i).domain.str = d}

/-- An entry of the table covers exactly what it says. -/
theorem domainMatches_entry (query : CString) (e : CharBuf MAX_DOMAIN_LENGTH) :
    domainMatches query e.str = true ↔
      CoversName e.str.bytes (query.bytes.take (MAX_DOMAIN_LENGTH - 1)) := by
  rw [domainMatches_iff, List.take_of_length_le (Nat.le_sub_one_of_lt e.fits)]

/-- **What `is_domain_blocked` computes**: whether some active domain covers what is left of the
query. -/
theorem isDomainBlocked_iff (t : DomainTable) (q : CString) :
    isDomainBlocked t (some q) = true ↔ q.bytes ≠ [] ∧ ∃ d ∈ t.activeDomains,
      CoversName d.bytes (q.bytes.take (MAX_DOMAIN_LENGTH - 1)) := by
  have hempty : q.strlen = 0 ↔ q.bytes = [] := List.length_eq_zero_iff
  rw [isDomainBlocked]
  split
  · next h => simp [hempty.1 h]
  · next h =>
    rw [hempty] at h
    rw [Option.isSome_iff_ne_none, ne_eq, Slots.firstBelow_eq_none_iff]
    simp only [h, ne_eq, not_false_eq_true, true_and]
    constructor
    · intro hsome
      rw [not_forall] at hsome
      obtain ⟨i, hi⟩ := hsome
      rw [Classical.not_imp, Bool.not_eq_false, BlockedDomain.blocks, Bool.and_eq_true] at hi
      obtain ⟨hlt, hactive, hmatch⟩ := hi
      exact ⟨_, ⟨i, hlt, hactive, rfl⟩, (domainMatches_entry q _).1 hmatch⟩
    · rintro ⟨d, ⟨i, hlt, hactive, rfl⟩, hcovers⟩ hnone
      have hblocks := hnone i hlt
      rw [BlockedDomain.blocks, hactive, Bool.true_and,
        (domainMatches_entry q _).2 hcovers] at hblocks
      exact nomatch hblocks

/-- Tables with the same active domains block the same queries. -/
theorem isDomainBlocked_congr {t t' : DomainTable} (h : t.activeDomains = t'.activeDomains)
    (q : Option CString) : isDomainBlocked t q = isDomainBlocked t' q := by
  rcases q with _ | q
  · rfl
  · rw [Bool.eq_iff_iff, isDomainBlocked_iff, isDomainBlocked_iff, h]

end EspFirewall
