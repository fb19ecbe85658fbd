import EspFirewall.DomainFilter.BlockedSet

/-!
# Whether removed domains give their space back

A user sees the active domains, and `get_blocked_domains_count` counts them.
`add_blocked_domain` looks for room beyond `blocked_domain_count`, which also counts the domains
that were removed.  The two differ for good once all slots have been used and one of them is
inactive: that is `DomainTable.Clogged`, and then no new domain can be added although fewer than
`MAX_BLOCKED_DOMAINS` are active.

`domain_space_given_back_iff` says which calls lead there.  It is about room in the table alone:
`add_log_line`, which is called with the domain as its format, is taken to return, as it does for the
domains of `network_text_logged_iff`.
-/

set_option autoImplicit false

namespace EspFirewall

open CLang

/-! ## Room for a domain -/

/-- There is room for every domain whenever fewer than `MAX_BLOCKED_DOMAINS` are active: adding it
succeeds, and it is blocked then. -/
def DomainFilter.HasRoom (s : DomainFilter) : Prop :=
  getBlockedDomainsCount s.table < MAX_BLOCKED_DOMAINS →
    ∀ (out : DomainSave) (d : CString), 0 < d.strlen → d.strlen < MAX_DOMAIN_LENGTH →
      (addBlockedDomain out (some d) s).1 = true ∧
        isDomainBlocked (addBlockedDomain out (some d) s).2.table (some d) = true

/-- Every slot has been used, and one of them is inactive. -/
def DomainTable.Clogged (t : DomainTable) : Prop :=
  t.count = MAX_BLOCKED_DOMAINS ∧ ∃ i, (t.slots i).active = false

/-- The call clogs the table: it removes a domain when every slot is in use, or puts a new one into
the last slot when one of the others is inactive. -/
def DomainTable.Clogs (t : DomainTable) (c : DomainCall) : Prop :=
  match c.verb, c.domain with
  | .insert, some d => 0 < d.strlen ∧ d.strlen < MAX_DOMAIN_LENGTH ∧
      t.count + 1 = MAX_BLOCKED_DOMAINS ∧
      (∀ i : Fin MAX_BLOCKED_DOMAINS, i.val < t.count → (t.slots i).named d = false) ∧
      ∃ i : Fin MAX_BLOCKED_DOMAINS, i.val < t.count ∧ (t.slots i).active = false
  | .erase, some d => 0 < d.strlen ∧ t.count = MAX_BLOCKED_DOMAINS ∧
      ∃ i, (t.slots i).named d = true
  | _, none => False

/-- Not all slots are active. -/
theorem getBlockedDomainsCount_lt_iff (t : DomainTable) :
    getBlockedDomainsCount t < MAX_BLOCKED_DOMAINS ↔
      ∃ i : Fin MAX_BLOCKED_DOMAINS, t.count ≤ i.val ∨ (t.slots i).active = false := by
  have hall : getBlockedDomainsCount t = MAX_BLOCKED_DOMAINS ↔
      ∀ i : Fin MAX_BLOCKED_DOMAINS, i.val < t.count ∧ (t.slots i).active = true := by
    have hlen : (List.finRange MAX_BLOCKED_DOMAINS).length = MAX_BLOCKED_DOMAINS :=
      List.length_finRange
    rw [getBlockedDomainsCount]
    conv_lhs => rhs; rw [← hlen]
    rw [List.countP_eq_length]
    simp
  have hle : getBlockedDomainsCount t ≤ MAX_BLOCKED_DOMAINS := by
    rw [getBlockedDomainsCount]
    exact List.countP_le_length.trans (Nat.le_of_eq List.length_finRange)
  rw [Nat.lt_iff_le_and_ne, ne_eq, hall, not_forall]
  simp only [hle, true_and, not_and_or, Nat.not_lt, Bool.not_eq_true]

/-- Adding succeeds for a domain that is in the table, and for any when there is a slot left. -/
theorem addBlockedDomain_eq_true_iff {out : DomainSave} {d : CString} {s : DomainFilter}
    (hpos : 0 < d.strlen) (hlen : d.strlen < MAX_DOMAIN_LENGTH) :
    (addBlockedDomain out (some d) s).1 = true ↔ s.table.count < MAX_BLOCKED_DOMAINS ∨
      ∃ i : Fin MAX_BLOCKED_DOMAINS, i.val < s.table.count ∧ (s.table.slots i).named d = true := by
  have hok : ¬ (d.strlen = 0 ∨ MAX_DOMAIN_LENGTH ≤ d.strlen) := by omega
  rw [addBlockedDomain, if_neg hok]
  rcases hfind : Slots.firstBelow s.table.count (BlockedDomain.named d) s.table.slots with _ | i
  · rw [Slots.firstBelow_eq_none_iff] at hfind
    have hnone : ¬ ∃ i : Fin MAX_BLOCKED_DOMAINS,
        i.val < s.table.count ∧ (s.table.slots i).named d = true := by
      rintro ⟨i, hi, hname⟩
      exact absurd hname (by simp [hfind i hi])
    by_cases hroom : s.table.count < MAX_BLOCKED_DOMAINS
    · simp [hroom]
    · dsimp only
      rw [dif_neg hroom]
      exact iff_of_false Bool.false_ne_true (not_or.2 ⟨hroom, hnone⟩)
  · obtain ⟨⟨hi, hname⟩, -⟩ := Slots.firstBelow_eq_some_iff.1 hfind
    exact iff_of_true rfl (.inr ⟨i, hi, hname⟩)

/-- A domain that was added is blocked. -/
theorem isDomainBlocked_addBlockedDomain {out : DomainSave} {d : CString} {s : DomainFilter}
    (hs : s.table.WellFormed) (hpos : 0 < d.strlen)
    (hok : (addBlockedDomain out (some d) s).1 = true) :
    isDomainBlocked (addBlockedDomain out (some d) s).2.table (some d) = true := by
  have heffect := (callEffect_exec ⟨.insert, out, some d⟩ s).activeKeys hs
  have hkeys : (addBlockedDomain out (some d) s).2.table.activeKeys =
      insert (lower d.bytes) s.table.activeKeys := by
    rw [show (DomainCall.exec ⟨.insert, out, some d⟩ s).1 = true from hok] at heffect
    exact heffect
  rw [isDomainBlocked_iff_activeKeys (List.ne_nil_of_length_pos hpos), hkeys]
  refine ⟨d, .inl rfl, ?_⟩
  simp [domainMatches]

/-- The name of the `k`-th domain of a family with one of each length. -/
def nthName (k : ℕ) : CString := ⟨List.replicate (k + 1) 97, by simp⟩

/-- **Room means not clogged.** -/
theorem DomainFilter.hasRoom_iff {s : DomainFilter} (hs : s.table.WellFormed) :
    s.HasRoom ↔ ¬ s.table.Clogged := by
  constructor
  · rintro hroom ⟨hfull, i, hinactive⟩
    -- a name that is in none of the slots
    have hinj : Function.Injective
        fun k : Fin (MAX_BLOCKED_DOMAINS + 1) => lower (nthName k.val).bytes := by
      intro k l hkl
      have hlen := congrArg List.length hkl
      simp only [lower, nthName, List.length_map, List.length_replicate] at hlen
      exact Fin.ext (Nat.succ.inj hlen)
    obtain ⟨k, hk⟩ := Slots.exists_unused hinj fun i => lower (s.table.slots i).domain.str.bytes
    have hlen : (nthName k.val).strlen = k.val + 1 := List.length_replicate
    have hklt := k.isLt
    have hpos : 0 < (nthName k.val).strlen := by omega
    have hshort : (nthName k.val).strlen < MAX_DOMAIN_LENGTH := by
      rw [hlen]
      exact Nat.lt_of_le_of_lt hklt (by decide)
    have hadd := (hroom ((getBlockedDomainsCount_lt_iff _).2 ⟨i, .inr hinactive⟩) .ok _ hpos
      hshort).1
    rcases (addBlockedDomain_eq_true_iff hpos hshort).1 hadd with hlt | ⟨j, -, hname⟩
    · exact absurd hfull hlt.ne
    · exact hk j (named_iff.1 hname)
  · intro hclogged hactive out d hpos hlen
    have hadd : (addBlockedDomain out (some d) s).1 = true := by
      rw [addBlockedDomain_eq_true_iff hpos hlen]
      by_contra hnone
      rw [not_or, Nat.not_lt] at hnone
      have hfull := Nat.le_antisymm s.table.count_le hnone.1
      obtain ⟨i, hi | hi⟩ := (getBlockedDomainsCount_lt_iff _).1 hactive
      · rw [hfull] at hi
        exact absurd hi (Nat.not_le.2 i.isLt)
      · exact hclogged ⟨hfull, i, hi⟩
    exact ⟨hadd, isDomainBlocked_addBlockedDomain hs hpos hadd⟩

/-! ## How the table gets clogged -/

theorem strlen_of_named {e : BlockedDomain} {d : CString} (h : e.named d = true) :
    d.strlen = e.domain.str.strlen := by
  have hlen := congrArg List.length (named_iff.1 h)
  simpa [lower, CString.strlen] using hlen.symm

/-- A call that changes nothing clogs nothing. -/
theorem DomainTable.not_clogs_of_refused {t : DomainTable} {c : DomainCall}
    (h : ∀ d, c.domain = some d → 0 < d.strlen → d.strlen < MAX_DOMAIN_LENGTH →
      (∀ i : Fin MAX_BLOCKED_DOMAINS, i.val < t.count → (t.slots i).named d = false) ∧
        (c.verb = .insert → t.count = MAX_BLOCKED_DOMAINS)) : ¬ t.Clogs c := by
  obtain ⟨verb, out, _ | d⟩ := c
  · rcases verb with _ | _ <;> exact id
  rcases verb with _ | _
  · rintro ⟨hpos, hlen, hlast, -⟩
    have hfull := (h d rfl hpos hlen).2 rfl
    exact absurd hlast (by omega)
  · rintro ⟨hpos, hfull, i, hname⟩
    have hshort : d.strlen < MAX_DOMAIN_LENGTH := by
      rw [strlen_of_named hname]
      exact (t.slots i).domain.fits
    have hnone := (h d rfl hpos hshort).1 i (by rw [hfull]; exact i.isLt)
    exact absurd hname (by simp [hnone])

/-- A new domain clogs the table when it takes the last slot and an earlier one is inactive. -/
theorem DomainTable.clogged_append_iff {t : DomainTable} (hroom : t.count < MAX_BLOCKED_DOMAINS)
    (name : CharBuf MAX_DOMAIN_LENGTH) :
    (t.append hroom ⟨name, true⟩).Clogged ↔ t.count + 1 = MAX_BLOCKED_DOMAINS ∧
      ∃ i : Fin MAX_BLOCKED_DOMAINS, i.val < t.count ∧ (t.slots i).active = false := by
  constructor
  · rintro ⟨hfull, j, hj⟩
    rw [DomainTable.append_count] at hfull
    have hjne : j.val ≠ t.count := by
      intro heq
      obtain rfl : j = ⟨t.count, hroom⟩ := Fin.ext heq
      rw [DomainTable.append_slots_last] at hj
      exact Bool.false_ne_true hj.symm
    rw [DomainTable.append_slots_of_ne hroom _ hjne] at hj
    have hjlt := j.isLt
    exact ⟨hfull, j, by omega, hj⟩
  · rintro ⟨hfull, j, hj, hinactive⟩
    refine ⟨hfull, j, ?_⟩
    rwa [DomainTable.append_slots_of_lt hroom _ hj]

/-- **Which calls clog a table** that is not clogged yet. -/
theorem CallEffect.clogged_iff {t t' : DomainTable} {c : DomainCall} {r : Bool}
    (h : CallEffect t c r t') (ht : t.WellFormed) (hfree : ¬ t.Clogged) :
    t'.Clogged ↔ t.Clogs c := by
  cases h with
  | refuse _ hrefused => exact iff_of_false hfree (DomainTable.not_clogs_of_refused hrefused)
  | @found out d i hi hname =>
    refine iff_of_false ?_ ?_
    · rintro ⟨hfull, j, hj⟩
      by_cases hji : j = i
      · rw [hji, DomainTable.setActive_slots, Function.update_self] at hj
        exact Bool.false_ne_true hj.symm
      · rw [DomainTable.setActive_slots, Function.update_of_ne hji] at hj
        exact hfree ⟨hfull, j, hj⟩
    · rintro ⟨-, -, -, hnew, -⟩
      exact absurd hname (by simp [hnew i hi])
  | @append out d hroom hpos hlen hnew =>
    rw [DomainTable.clogged_append_iff]
    exact ⟨fun ⟨hfull, hslot⟩ => ⟨hpos, hlen, hfull, hnew, hslot⟩,
      fun ⟨_, _, hfull, _, hslot⟩ => ⟨hfull, hslot⟩⟩
  | @remove out d i hi hname =>
    have hpos : 0 < d.strlen := by
      rw [strlen_of_named hname]
      exact ht.named i hi
    constructor
    · rintro ⟨hfull, -⟩
      exact ⟨hpos, hfull, i, hname⟩
    · rintro ⟨-, hfull, -⟩
      exact ⟨hfull, i, by rw [DomainTable.setActive_slots, Function.update_self]⟩

/-- **When removed domains give their space back.**  Along every run of adds and removes from an
empty table, there is room for every domain in each state with fewer than `MAX_BLOCKED_DOMAINS`
active ones precisely when no call removes a domain while every slot is in use, or puts a new one
into the last slot while one of the others is inactive. -/
theorem domain_space_given_back_iff (nvs : Option BlockedDomains) (logs : List LogCall)
    (cs : List DomainCall) :
    StepSystem.EveryState DomainFilter.call DomainFilter.HasRoom (.unused nvs logs) cs ↔
      StepSystem.EveryStep DomainFilter.call (fun s c => ¬ s.table.Clogs c) (.unused nvs logs)
        cs := by
  have hstep : ∀ (s : DomainFilter) (c : DomainCall), s.table.WellFormed → s.HasRoom →
      ((s.call c).HasRoom ↔ ¬ s.table.Clogs c) := by
    intro s c hs hroom
    rw [DomainFilter.hasRoom_iff hs] at hroom
    rw [DomainFilter.hasRoom_iff (s.wellFormed_call c hs)]
    exact not_congr ((callEffect_exec c s).clogged_iff hs hroom)
  have hempty : (DomainFilter.unused nvs logs).HasRoom := by
    rw [DomainFilter.hasRoom_iff DomainTable.wellFormed_zero]
    exact fun h => Nat.succ_ne_zero 49 h.1.symm
  exact StepSystem.everyState_iff_everyStep'
    (fun s c (hs : s.table.WellFormed) hroom hc =>
      ⟨s.wellFormed_call c hs, (hstep s c hs hroom).2 hc⟩)
    (fun s c hs hroom hnext => (hstep s c hs hroom).1 hnext)
    DomainTable.wellFormed_zero hempty

/-- A name of two digits. -/
def twoDigits (k : ℕ) : CString := .ofMem [UInt8.ofNat (48 + k / 10), UInt8.ofNat (48 + k % 10)]

/-- Fill the table, and remove the first domain. -/
def fillAndRemove : List DomainCall :=
  (List.range MAX_BLOCKED_DOMAINS).map (fun k => ⟨.insert, .ok, some (twoDigits k)⟩) ++
    [⟨.erase, .ok, some (twoDigits 0)⟩]

/-- One of fifty domains is removed, and there is no room for another one. -/
theorem domain_space_lost : ¬ ∀ nvs logs cs,
    StepSystem.EveryState DomainFilter.call DomainFilter.HasRoom (.unused nvs logs) cs := by
  intro h
  have hlast := ((h none [] fillAndRemove).last (by decide +kernel) .ok
    (twoDigits MAX_BLOCKED_DOMAINS) (by decide) (by decide)).1
  exact absurd hlast (by decide +kernel)

end EspFirewall
