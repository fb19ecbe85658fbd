import EspFirewall.DomainFilter.Persist
import EspFirewall.General.SetHistory

/-!
# The domain filter as a set of domains

Forget the slots, the count and the flags: a user adds domains and removes them, and what is blocked
should depend on that alone.  `DomainFilter.trace` is what a user sees of a run, the calls and what
they returned, and `successes d` is the part of it that is about the domain `d`, in any spelling.

`domain_table_implements_set` says that the table is a set in this sense.  Its keys are the names in
lower case: a domain that is removed and added again keeps the spelling of its slot, so the table
knows a domain only up to case.  The steps are in `CallEffect`, one constructor for each way a call
can end.  That a call ends takes an `add_log_line` that returns from the domain as its format; when
it does is said in `network_text_logged_iff`.
-/

set_option autoImplicit false

namespace EspFirewall

open CLang

/-! ## Calls and what they return -/

/-- A call of `add_blocked_domain` or `remove_blocked_domain`, with what its NVS calls return. -/
structure DomainCall where
  verb : SetHistory.Verb
  out : DomainSave
  domain : Option CString

/-- What the call returns, and the state it leaves. -/
def DomainCall.exec (c : DomainCall) (s : DomainFilter) : Bool × DomainFilter :=
  match c.verb with
  | .insert => addBlockedDomain c.out c.domain s
  | .erase => removeBlockedDomain c.out c.domain s

/-- The call is about the domain `d`, in some spelling. -/
def DomainCall.names (d : CString) (c : DomainCall) : Bool :=
  match c.domain with
  | none => false
  | some d' => strcaseEq d' d

namespace DomainFilter

/-- The state after a call. -/
def call (s : DomainFilter) (c : DomainCall) : DomainFilter := (c.exec s).2

/-- The calls of a run and what they return. -/
def trace : DomainFilter → List DomainCall → List (DomainCall × Bool)
  | _, [] => []
  | s, c :: cs => (c, (c.exec s).1) :: trace (s.call c) cs

/-- A state with an empty table. -/
def unused (nvs : Option BlockedDomains) (logs : List LogCall) : DomainFilter := ⟨.zero, nvs, logs⟩

end DomainFilter

/-- What the successful calls about the domain `d` did with it, in order. -/
def successes (d : CString) (trace : List (DomainCall × Bool)) : List SetHistory.Verb :=
  (trace.filter fun e => e.2 && e.1.names d).map fun e => e.1.verb

/-! ## What a call does to the table -/

/-- How a call can end: what it returns and what it leaves of the table. -/
inductive CallEffect (t : DomainTable) : DomainCall → Bool → DomainTable → Prop
  /-- The call is refused: if its domain could be in the table it is not, and cannot be added. -/
  | refuse (c : DomainCall) (hrefused : ∀ d, c.domain = some d → 0 < d.strlen →
      d.strlen < MAX_DOMAIN_LENGTH →
      (∀ i : Fin MAX_BLOCKED_DOMAINS, i.val < t.count → (t.slots i).named d = false) ∧
        (c.verb = .insert → t.count = MAX_BLOCKED_DOMAINS)) : CallEffect t c false t
  /-- The domain to be added is in the table. -/
  | found {out : DomainSave} {d : CString} {i : Fin MAX_BLOCKED_DOMAINS} (hi : i.val < t.count)
      (hname : (t.slots i).named d = true) :
      CallEffect t ⟨.insert, out, some d⟩ true (t.setActive i true)
  /-- The domain to be added is new. -/
  | append {out : DomainSave} {d : CString} (hroom : t.count < MAX_BLOCKED_DOMAINS)
      (hpos : 0 < d.strlen) (hlen : d.strlen < MAX_DOMAIN_LENGTH)
      (hnew : ∀ i : Fin MAX_BLOCKED_DOMAINS, i.val < t.count → (t.slots i).named d = false) :
      CallEffect t ⟨.insert, out, some d⟩ true (t.append hroom ⟨.strncpy d, true⟩)
  /-- The domain to be removed is in the table. -/
  | remove {out : DomainSave} {d : CString} {i : Fin MAX_BLOCKED_DOMAINS} (hi : i.val < t.count)
      (hname : (t.slots i).named d = true) :
      CallEffect t ⟨.erase, out, some d⟩ true (t.setActive i false)

@[simp] theorem saveBlockedDomains_table (out : DomainSave) (s : DomainFilter) :
    (saveBlockedDomains out s).table = s.table := by
  rw [saveBlockedDomains]
  split <;> rfl

/-- **What a call can do**, whatever its NVS calls return. -/
theorem callEffect_exec (c : DomainCall) (s : DomainFilter) :
    CallEffect s.table c (c.exec s).1 (c.exec s).2.table := by
  obtain ⟨verb, out, _ | d⟩ := c
  · rcases verb with _ | _ <;> exact .refuse _ fun _ h => absurd h.symm (Option.some_ne_none _)
  rcases verb with _ | _
  · rw [DomainCall.exec]
    dsimp only
    rw [addBlockedDomain]
    split
    · next hbad =>
      refine .refuse _ fun d' hd' hpos hlen => ?_
      obtain rfl := Option.some.inj hd'
      omega
    · next hok =>
      rw [not_or, Nat.not_le] at hok
      rcases hfind : Slots.firstBelow s.table.count (BlockedDomain.named d) s.table.slots with _ | i
      · rw [Slots.firstBelow_eq_none_iff] at hfind
        by_cases hroom : s.table.count < MAX_BLOCKED_DOMAINS
        · simp only [dif_pos hroom, saveBlockedDomains_table]
          exact .append hroom (Nat.pos_of_ne_zero hok.1) hok.2 hfind
        · simp only [dif_neg hroom]
          refine .refuse _ fun d' hd' _ _ => ?_
          obtain rfl := Option.some.inj hd'
          exact ⟨hfind, fun _ => Nat.le_antisymm s.table.count_le (Nat.not_lt.1 hroom)⟩
      · obtain ⟨⟨hi, hname⟩, -⟩ := Slots.firstBelow_eq_some_iff.1 hfind
        exact .found hi hname
  · rw [DomainCall.exec]
    dsimp only
    rw [removeBlockedDomain]
    split
    · next hbad =>
      refine .refuse _ fun d' hd' hpos _ => ?_
      obtain rfl := Option.some.inj hd'
      omega
    · rcases hfind : Slots.firstBelow s.table.count (BlockedDomain.named d) s.table.slots with _ | i
      · refine .refuse _ fun d' hd' _ _ => ?_
        obtain rfl := Option.some.inj hd'
        exact ⟨Slots.firstBelow_eq_none_iff.1 hfind, fun h => SetHistory.Verb.noConfusion h⟩
      · obtain ⟨⟨hi, hname⟩, -⟩ := Slots.firstBelow_eq_some_iff.1 hfind
        simp only [saveBlockedDomains_table]
        exact .remove hi hname

/-! ## The set of the table -/

/-- The active domains, in lower case. -/
def DomainTable.activeKeys (t : DomainTable) : Set Bytes :=
  {k | ∃ i : Fin MAX_BLOCKED_DOMAINS, i.val < t.count ∧ (t.slots i).active = true ∧
    lower (t.slots i).domain.str.bytes = k}

/-- A successful call as an operation on that set. -/
def asOps (trace : List (DomainCall × Bool)) : List (SetHistory.Op Bytes) :=
  trace.filterMap fun e =>
    if e.2 then e.1.domain.map fun d => ⟨e.1.verb, lower d.bytes⟩ else none

/-- What the operations do with a key is what the calls do with a domain. -/
theorem on_asOps (d : CString) (trace : List (DomainCall × Bool)) :
    SetHistory.on (lower d.bytes) (asOps trace) = successes d trace := by
  induction trace with
  | nil => rfl
  | cons e trace ih =>
    rw [SetHistory.on, asOps] at ih
    obtain ⟨⟨verb, out, _ | d'⟩, _ | _⟩ := e
    · simpa [SetHistory.on, asOps, successes, DomainCall.names] using ih
    · simpa [SetHistory.on, asOps, successes, DomainCall.names] using ih
    · simpa [SetHistory.on, asOps, successes, DomainCall.names] using ih
    · by_cases hd : lower d'.bytes = lower d.bytes
      · simpa [SetHistory.on, asOps, successes, DomainCall.names, strcaseEq, hd] using ih
      · simpa [SetHistory.on, asOps, successes, DomainCall.names, strcaseEq, hd] using ih

theorem named_iff {e : BlockedDomain} {d : CString} :
    e.named d = true ↔ lower e.domain.str.bytes = lower d.bytes := strcaseEq_iff

namespace DomainTable

theorem activeKeys_setActive_true {t : DomainTable} {i : Fin MAX_BLOCKED_DOMAINS}
    (hi : i.val < t.count) : (t.setActive i true).activeKeys =
      insert (lower (t.slots i).domain.str.bytes) t.activeKeys := by
  ext k
  constructor
  · rintro ⟨j, hj, hactive, rfl⟩
    rw [setActive_domain]
    by_cases hji : j = i
    · exact .inl (by rw [hji])
    · rw [setActive_slots, Function.update_of_ne hji] at hactive
      exact .inr ⟨j, hj, hactive, rfl⟩
  · rintro (rfl | ⟨j, hj, hactive, rfl⟩)
    · exact ⟨i, hi, by rw [setActive_slots, Function.update_self], by rw [setActive_domain]⟩
    · refine ⟨j, hj, ?_, by rw [setActive_domain]⟩
      by_cases hji : j = i
      · rw [hji, setActive_slots, Function.update_self]
      · rwa [setActive_slots, Function.update_of_ne hji]

/-- Clearing a flag takes the domain out, because no other slot has it. -/
theorem activeKeys_setActive_false {t : DomainTable} (ht : t.WellFormed)
    {i : Fin MAX_BLOCKED_DOMAINS} (hi : i.val < t.count) : (t.setActive i false).activeKeys =
      t.activeKeys \ {lower (t.slots i).domain.str.bytes} := by
  ext k
  constructor
  · rintro ⟨j, hj, hactive, rfl⟩
    rw [setActive_domain]
    have hji : j ≠ i := by
      rintro rfl
      rw [setActive_slots, Function.update_self] at hactive
      exact Bool.false_ne_true hactive
    rw [setActive_slots, Function.update_of_ne hji] at hactive
    refine ⟨⟨j, hj, hactive, rfl⟩, fun hkey => hji ?_⟩
    exact ht.distinct j i hj hi (strcaseEq_iff.2 hkey)
  · rintro ⟨⟨j, hj, hactive, rfl⟩, hne⟩
    have hji : j ≠ i := by
      rintro rfl
      exact hne rfl
    exact ⟨j, hj, by rwa [setActive_slots, Function.update_of_ne hji], by rw [setActive_domain]⟩

theorem activeKeys_append {t : DomainTable} (hroom : t.count < MAX_BLOCKED_DOMAINS) {d : CString}
    (hlen : d.strlen < MAX_DOMAIN_LENGTH) :
    (t.append hroom ⟨.strncpy d, true⟩).activeKeys = insert (lower d.bytes) t.activeKeys := by
  have hold (j : Fin MAX_BLOCKED_DOMAINS) (hj : j.val < t.count) :
      (t.append hroom ⟨.strncpy d, true⟩).slots j = t.slots j := append_slots_of_lt hroom _ hj
  have hnew := append_slots_last t hroom ⟨.strncpy d, true⟩
  ext k
  constructor
  · rintro ⟨j, hj, hactive, rfl⟩
    rw [append_count] at hj
    rcases Nat.lt_succ_iff_lt_or_eq.1 hj with hlt | heq
    · rw [hold j hlt] at hactive ⊢
      exact .inr ⟨j, hlt, hactive, rfl⟩
    · obtain rfl : j = ⟨t.count, hroom⟩ := Fin.ext heq
      rw [hnew, CharBuf.strncpy_str_of_lt hlen]
      exact .inl rfl
  · rintro (rfl | ⟨j, hj, hactive, rfl⟩)
    · exact ⟨⟨t.count, hroom⟩, Nat.lt_succ_self _, by rw [hnew], by
        rw [hnew, CharBuf.strncpy_str_of_lt hlen]⟩
    · exact ⟨j, Nat.lt_succ_of_lt hj, by rwa [hold j hj], by rw [hold j hj]⟩

theorem activeKeys_zero : zero.activeKeys = ∅ := by
  rw [Set.eq_empty_iff_forall_notMem]
  rintro k ⟨i, hi, -⟩
  exact absurd hi (Nat.not_lt_zero _)

end DomainTable

/-! ## One call, and all of them -/

theorem CallEffect.wellFormed {t t' : DomainTable} {c : DomainCall} {r : Bool}
    (h : CallEffect t c r t') (ht : t.WellFormed) : t'.WellFormed := by
  cases h with
  | refuse => exact ht
  | found hi _ => exact ht.setActive hi true
  | append hroom hpos hlen hnew => exact ht.append hroom hpos hlen hnew
  | remove hi _ => exact ht.setActive hi false

/-- **A call is one operation on the set**, or none when it returns false. -/
theorem CallEffect.activeKeys {t t' : DomainTable} {c : DomainCall} {r : Bool}
    (h : CallEffect t c r t') (ht : t.WellFormed) :
    t'.activeKeys = (asOps [(c, r)]).foldl SetHistory.after t.activeKeys := by
  cases h with
  | refuse => rfl
  | found hi hname =>
    rw [DomainTable.activeKeys_setActive_true hi, named_iff.1 hname]
    rfl
  | append hroom _ hlen _ =>
    rw [DomainTable.activeKeys_append hroom hlen]
    rfl
  | remove hi hname =>
    rw [DomainTable.activeKeys_setActive_false ht hi, named_iff.1 hname]
    rfl

theorem DomainFilter.wellFormed_call (s : DomainFilter) (c : DomainCall)
    (hs : s.table.WellFormed) : (s.call c).table.WellFormed := (callEffect_exec c s).wellFormed hs

theorem DomainFilter.wellFormed_run {s : DomainFilter} (hs : s.table.WellFormed)
    (cs : List DomainCall) : (StepSystem.run DomainFilter.call s cs).table.WellFormed :=
  (StepSystem.everyState_of_invariant (fun s c (_ : True) => DomainFilter.wellFormed_call s c)
    (.of_forall fun _ _ => trivial) hs).last

/-- **A run is the history of its successful calls.** -/
theorem DomainFilter.activeKeys_run {s : DomainFilter} (hs : s.table.WellFormed)
    (cs : List DomainCall) : (StepSystem.run DomainFilter.call s cs).table.activeKeys =
      (asOps (s.trace cs)).foldl SetHistory.after s.table.activeKeys := by
  induction cs generalizing s with
  | nil => rfl
  | cons c cs ih =>
    have hstep := (callEffect_exec c s).activeKeys hs
    have happend : asOps (s.trace (c :: cs)) =
        asOps [(c, (c.exec s).1)] ++ asOps ((s.call c).trace cs) :=
      List.filterMap_append (l := [(c, (c.exec s).1)])
    rw [happend, List.foldl_append, ← hstep]
    exact ih (s.wellFormed_call c hs)

/-! ## Deciding a query -/

/-- A pattern matters up to case only. -/
theorem domainMatches_congr {p p' : CString} (h : lower p.bytes = lower p'.bytes) (q : CString) :
    domainMatches q p = domainMatches q p' := by
  have htake : lower (p.take (MAX_DOMAIN_LENGTH - 1)).bytes =
      lower (p'.take (MAX_DOMAIN_LENGTH - 1)).bytes := by
    rw [CString.take_bytes, CString.take_bytes, lower, List.map_take, ← lower, h, lower,
      ← List.map_take, ← lower]
  rw [domainMatches, domainMatches, htake]

/-- A query is blocked when a domain of the set matches it. -/
theorem isDomainBlocked_iff_activeKeys {t : DomainTable} {q : CString} (hq : q.bytes ≠ []) :
    isDomainBlocked t (some q) = true ↔
      ∃ d : CString, lower d.bytes ∈ t.activeKeys ∧ domainMatches q d = true := by
  rw [isDomainBlocked_iff]
  constructor
  · rintro ⟨-, d, ⟨i, hi, hactive, rfl⟩, hcovers⟩
    exact ⟨_, ⟨i, hi, hactive, rfl⟩, (domainMatches_entry q _).2 hcovers⟩
  · rintro ⟨d, ⟨i, hi, hactive, hkey⟩, hmatch⟩
    rw [← domainMatches_congr hkey, domainMatches_entry] at hmatch
    exact ⟨hq, _, ⟨i, hi, hactive, rfl⟩, hmatch⟩

theorem DomainCall.exec_of_false {c : DomainCall} {s : DomainFilter}
    (h : (c.exec s).1 = false) : (c.exec s).2 = s := by
  obtain ⟨verb, out, _ | d⟩ := c
  · rcases verb with _ | _ <;> rfl
  rcases verb with _ | _
  · rw [DomainCall.exec] at h ⊢
    dsimp only at h ⊢
    rw [addBlockedDomain] at h ⊢
    split at h
    · next hbad => rw [if_pos hbad]
    · next hok =>
      rw [if_neg hok]
      split at h
      · exact absurd h.symm Bool.false_ne_true
      · split at h
        · exact absurd h.symm Bool.false_ne_true
        · next hfull => rw [dif_neg hfull]
  · rw [DomainCall.exec] at h ⊢
    dsimp only at h ⊢
    rw [removeBlockedDomain] at h ⊢
    split at h
    · next hbad => rw [if_pos hbad]
    · next hok =>
      rw [if_neg hok]
      split at h
      · exact absurd h.symm Bool.false_ne_true
      · rfl

/-- **The table implements a set of domains.**  After every run of adds and removes from an empty
table: the entries in use have names that fit and differ by more than case, and no other slot is
active; a query is blocked exactly when it matches a domain whose last successful call was an add;
a call that returns false has changed nothing.  And runs that do the same with each domain decide
every query alike, in whatever order the different domains come. -/
theorem domain_table_implements_set (nvs : Option BlockedDomains) (logs : List LogCall)
    (cs : List DomainCall) :
    (StepSystem.run DomainFilter.call (.unused nvs logs) cs).table.WellFormed ∧
    (∀ i, ((StepSystem.run DomainFilter.call (.unused nvs logs) cs).table.slots i).domain.str.strlen
      ≤ 127) ∧
    (∀ q : CString, q.bytes ≠ [] →
      (isDomainBlocked (StepSystem.run DomainFilter.call (.unused nvs logs) cs).table (some q) =
          true ↔
        ∃ d, (successes d (DomainFilter.trace (.unused nvs logs) cs)).getLast? = some .insert ∧
          domainMatches q d = true)) ∧
    (∀ c : DomainCall,
      (c.exec (StepSystem.run DomainFilter.call (.unused nvs logs) cs)).1 = false →
      (c.exec (StepSystem.run DomainFilter.call (.unused nvs logs) cs)).2 =
        StepSystem.run DomainFilter.call (.unused nvs logs) cs) ∧
    ∀ nvs' logs' cs',
      (∀ d, successes d (DomainFilter.trace (.unused nvs' logs') cs') =
        successes d (DomainFilter.trace (.unused nvs logs) cs)) →
      ∀ q, isDomainBlocked (StepSystem.run DomainFilter.call (.unused nvs' logs') cs').table q =
        isDomainBlocked (StepSystem.run DomainFilter.call (.unused nvs logs) cs).table q := by
  have hblocked : ∀ nvs logs cs (q : CString), q.bytes ≠ [] →
      (isDomainBlocked (StepSystem.run DomainFilter.call (.unused nvs logs) cs).table (some q) =
          true ↔
        ∃ d, (successes d (DomainFilter.trace (.unused nvs logs) cs)).getLast? = some .insert ∧
          domainMatches q d = true) := by
    intro nvs logs cs q hq
    have hkeys : (StepSystem.run DomainFilter.call (.unused nvs logs) cs).table.activeKeys =
        SetHistory.members (asOps (DomainFilter.trace (.unused nvs logs) cs)) := by
      rw [DomainFilter.activeKeys_run DomainTable.wellFormed_zero, SetHistory.members]
      exact congrArg (List.foldl SetHistory.after · _) DomainTable.activeKeys_zero
    rw [isDomainBlocked_iff_activeKeys hq, hkeys]
    simp only [SetHistory.mem_members_iff, on_asOps]
  refine ⟨DomainFilter.wellFormed_run DomainTable.wellFormed_zero cs,
    fun i => Nat.le_of_lt_succ (CharBuf.fits _), hblocked nvs logs cs,
    fun c => DomainCall.exec_of_false, ?_⟩
  rintro nvs' logs' cs' hsame (_ | q)
  · rfl
  · by_cases hq : q.bytes = []
    · have hlen : q.strlen = 0 := by rw [CString.strlen, hq, List.length_nil]
      rw [isDomainBlocked, isDomainBlocked]
      simp only [hlen, if_true]
    · rw [Bool.eq_iff_iff, hblocked nvs' logs' cs' q hq, hblocked nvs logs cs q hq]
      simp only [hsame]

end EspFirewall
