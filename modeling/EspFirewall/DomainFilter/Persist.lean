import EspFirewall.DomainFilter.Match

/-!
# Whether the blocked domains survive a reboot

Two invariants carry the argument.  `DomainTable.WellFormed` is about the table alone: the entries
in use have names, no two the same but for case, and the slots beyond them are inactive.  Every
call preserves it.  `DomainFilter.Synced` says that NVS holds the slots of the table.  The one call
that breaks it is an `add_blocked_domain` that finds its domain in the table, inactive: it sets the
flag and returns without saving.

So the list survives a reboot at every point of a run exactly when no call of the run is such a
one: `domains_survive_reboot_iff`.  This is about calls that return: `add_log_line`, which gets the
domain as its format before the table is written, is taken to do so (see `network_text_logged_iff`).
-/

set_option autoImplicit false

namespace EspFirewall

open CLang

/-! ## Well-formed tables -/

/-- The entries in use have names, no two the same but for case, and no slot beyond them is
active. -/
structure DomainTable.WellFormed (t : DomainTable) : Prop where
  named : ∀ i : Fin MAX_BLOCKED_DOMAINS, i.val < t.count → 0 < (t.slots i).domain.str.strlen
  distinct : ∀ i j : Fin MAX_BLOCKED_DOMAINS, i.val < t.count → j.val < t.count →
    strcaseEq (t.slots i).domain.str (t.slots j).domain.str = true → i = j
  inactive : ∀ i : Fin MAX_BLOCKED_DOMAINS, t.count ≤ i.val → (t.slots i).active = false

theorem DomainTable.wellFormed_zero : DomainTable.zero.WellFormed :=
  ⟨fun _ h => absurd h (Nat.not_lt_zero _), fun _ _ h => absurd h (Nat.not_lt_zero _),
   fun _ _ => rfl⟩

/-- At most one entry in use has a given name. -/
theorem DomainTable.WellFormed.named_unique {t : DomainTable} (h : t.WellFormed) {d : CString}
    {i j : Fin MAX_BLOCKED_DOMAINS} (hi : i.val < t.count) (hj : j.val < t.count)
    (hni : (t.slots i).named d = true) (hnj : (t.slots j).named d = true) : i = j := by
  rw [BlockedDomain.named, strcaseEq_iff] at hni hnj
  exact h.distinct i j hi hj (strcaseEq_iff.2 (hni.trans hnj.symm))

theorem DomainTable.setActive_domain (t : DomainTable) (i j : Fin MAX_BLOCKED_DOMAINS)
    (active : Bool) : ((t.setActive i active).slots j).domain = (t.slots j).domain := by
  revert j
  rw [setActive_slots, Function.forall_update_iff t.slots fun j e => e.domain = (t.slots j).domain]
  exact ⟨rfl, fun _ _ => rfl⟩

theorem DomainTable.WellFormed.setActive {t : DomainTable} (h : t.WellFormed)
    {i : Fin MAX_BLOCKED_DOMAINS} (hi : i.val < t.count) (active : Bool) :
    (t.setActive i active).WellFormed := by
  refine ⟨fun j hj => ?_, fun j k hj hk hjk => ?_, fun j hj => ?_⟩
  · rw [setActive_domain]
    exact h.named j hj
  · rw [setActive_domain, setActive_domain] at hjk
    exact h.distinct j k hj hk hjk
  · rw [setActive_count] at hj
    have hji : j ≠ i := by
      rintro rfl
      omega
    rw [setActive_slots, Function.update_of_ne hji]
    exact h.inactive j hj

theorem DomainTable.WellFormed.append {t : DomainTable} (h : t.WellFormed)
    (hroom : t.count < MAX_BLOCKED_DOMAINS) {d : CString} (hpos : 0 < d.strlen)
    (hlen : d.strlen < MAX_DOMAIN_LENGTH)
    (hnew : ∀ i : Fin MAX_BLOCKED_DOMAINS, i.val < t.count → (t.slots i).named d = false) :
    (t.append hroom ⟨.strncpy d, true⟩).WellFormed := by
  have hold (i : Fin MAX_BLOCKED_DOMAINS) (hi : i.val < t.count) :
      (t.append hroom ⟨.strncpy d, true⟩).slots i = t.slots i := append_slots_of_lt hroom _ hi
  have hself : ∀ i : Fin MAX_BLOCKED_DOMAINS, i.val = t.count →
      ((t.append hroom ⟨.strncpy d, true⟩).slots i).domain.str = d := by
    rintro i hi
    obtain rfl : i = ⟨t.count, hroom⟩ := Fin.ext hi
    rw [append_slots_last]
    exact CharBuf.strncpy_str_of_lt hlen
  have hne : ∀ i : Fin MAX_BLOCKED_DOMAINS, i.val < t.count →
      strcaseEq (t.slots i).domain.str d ≠ true := by
    intro i hi hcase
    rw [show strcaseEq (t.slots i).domain.str d = false from hnew i hi] at hcase
    exact nomatch hcase
  refine ⟨fun i hi => ?_, fun i j hi hj hij => ?_, fun i hi => ?_⟩
  · rw [append_count] at hi
    rcases Nat.lt_succ_iff_lt_or_eq.1 hi with hlt | heq
    · rw [hold i hlt]
      exact h.named i hlt
    · rw [hself i heq]
      exact hpos
  · rw [append_count] at hi hj
    rcases Nat.lt_succ_iff_lt_or_eq.1 hi with hi | hi
    · rcases Nat.lt_succ_iff_lt_or_eq.1 hj with hj | hj
      · rw [hold i hi, hold j hj] at hij
        exact h.distinct i j hi hj hij
      · rw [hold i hi, hself j hj] at hij
        exact absurd hij (hne i hi)
    · rcases Nat.lt_succ_iff_lt_or_eq.1 hj with hj | hj
      · rw [hself i hi, hold j hj, strcaseEq_comm] at hij
        exact absurd hij (hne j hj)
      · exact Fin.ext (hi.trans hj.symm)
  · rw [append_count] at hi
    rw [append_slots_of_ne hroom _ (by omega)]
    exact h.inactive i (Nat.le_of_succ_le hi)

/-- The entries that count for `init_domain_filter`. -/
theorem DomainTable.load_lt_count {slots : BlockedDomains} {i : Fin MAX_BLOCKED_DOMAINS}
    (hactive : (slots i).active = true) (hname : 0 < (slots i).domain.str.strlen) :
    i.val < (load slots).count := by
  rw [load_count]
  exact Slots.lt_highWater (by simp [BlockedDomain.counted, hactive, hname])

/-- Loading the slots of a well-formed table counts no more of them than the table does. -/
theorem DomainTable.WellFormed.load_count_le {t : DomainTable} (h : t.WellFormed) :
    (load t.slots).count ≤ t.count := by
  rw [load_count]
  rcases Nat.eq_zero_or_pos (Slots.highWater BlockedDomain.counted t.slots) with h0 | hpos
  · rw [h0]
    exact Nat.zero_le _
  · obtain ⟨i, hi, huse⟩ := Slots.exists_of_highWater_pos hpos
    rw [BlockedDomain.counted, Bool.and_eq_true] at huse
    rw [← hi]
    by_contra hlt
    have hinactive := h.inactive i (by omega)
    exact absurd huse.1 (by simp [hinactive])

/-- What is loaded from a well-formed table is well formed. -/
theorem DomainTable.WellFormed.load {t : DomainTable} (h : t.WellFormed) :
    (load t.slots).WellFormed := by
  have hle := h.load_count_le
  refine ⟨fun i hi => h.named i (by omega), fun i j hi hj hij =>
    h.distinct i j (by omega) (by omega) hij, fun i hi => ?_⟩
  rw [← Bool.not_eq_true]
  intro hactive
  have hlt : i.val < t.count := by
    by_contra hlt
    exact absurd hactive (by simp [h.inactive i (by omega)])
  have hcounted : i.val < (DomainTable.load t.slots).count :=
    load_lt_count hactive (h.named i hlt)
  omega

/-- And has the same active domains. -/
theorem DomainTable.WellFormed.activeDomains_load {t : DomainTable} (h : t.WellFormed) :
    (DomainTable.load t.slots).activeDomains = t.activeDomains := by
  have hle := h.load_count_le
  ext d
  constructor
  · rintro ⟨i, hi, hactive, rfl⟩
    exact ⟨i, by omega, hactive, rfl⟩
  · rintro ⟨i, hi, hactive, rfl⟩
    exact ⟨i, load_lt_count hactive (h.named i hi), hactive, rfl⟩

/-! ## The calls -/

/-- What an add that finds its domain does. -/
theorem addBlockedDomain_found {out : DomainSave} {d : CString} {s : DomainFilter}
    {i : Fin MAX_BLOCKED_DOMAINS} (hpos : 0 < d.strlen) (hlen : d.strlen < MAX_DOMAIN_LENGTH)
    (hi : Slots.firstBelow s.table.count (BlockedDomain.named d) s.table.slots = some i) :
    addBlockedDomain out (some d) s = (true, { s with table := s.table.setActive i true }) := by
  have hok : ¬ (d.strlen = 0 ∨ MAX_DOMAIN_LENGTH ≤ d.strlen) := by omega
  rw [addBlockedDomain, if_neg hok, hi]

/-- The effect of a call on the table and on NVS, when every NVS call succeeds. -/
inductive DomainStep (s : DomainFilter) : DomainOp → DomainTable → Option BlockedDomains → Prop
  /-- A call that is refused. -/
  | refuse (op : DomainOp) : DomainStep s op s.table s.nvs
  /-- The domain is in the table. -/
  | found {d : CString} {i : Fin MAX_BLOCKED_DOMAINS} (hpos : 0 < d.strlen)
      (hlen : d.strlen < MAX_DOMAIN_LENGTH) (hi : i.val < s.table.count)
      (hname : (s.table.slots i).named d = true) :
      DomainStep s (.add (some d)) (s.table.setActive i true) s.nvs
  /-- The domain is new. -/
  | append {d : CString} (hroom : s.table.count < MAX_BLOCKED_DOMAINS) (hpos : 0 < d.strlen)
      (hlen : d.strlen < MAX_DOMAIN_LENGTH)
      (hnew : ∀ i : Fin MAX_BLOCKED_DOMAINS, i.val < s.table.count →
        (s.table.slots i).named d = false) :
      DomainStep s (.add (some d)) (s.table.append hroom ⟨.strncpy d, true⟩)
        (some (s.table.append hroom ⟨.strncpy d, true⟩).slots)
  /-- The domain is removed. -/
  | remove {d : CString} {i : Fin MAX_BLOCKED_DOMAINS} (hi : i.val < s.table.count)
      (hname : (s.table.slots i).named d = true) :
      DomainStep s (.remove (some d)) (s.table.setActive i false)
        (some (s.table.setActive i false).slots)
  /-- A reboot. -/
  | reboot : DomainStep s .reboot s.reboot.table s.nvs

/-- **What a call can do.** -/
theorem domainStep_step (s : DomainFilter) (op : DomainOp) :
    DomainStep s op (s.step op).table (s.step op).nvs := by
  rcases op with (_ | d) | (_ | d) | _
  · exact .refuse _
  · rw [DomainFilter.step, addBlockedDomain]
    split
    · exact .refuse _
    · next hok =>
      rw [not_or, Nat.not_le] at hok
      have hpos : 0 < d.strlen := Nat.pos_of_ne_zero hok.1
      rcases hfind : Slots.firstBelow s.table.count (BlockedDomain.named d) s.table.slots with _ | i
      · rw [Slots.firstBelow_eq_none_iff] at hfind
        dsimp only
        by_cases hroom : s.table.count < MAX_BLOCKED_DOMAINS
        · rw [dif_pos hroom]
          exact .append hroom hpos hok.2 hfind
        · rw [dif_neg hroom]
          exact .refuse _
      · obtain ⟨⟨hi, hname⟩, -⟩ := Slots.firstBelow_eq_some_iff.1 hfind
        exact .found hpos hok.2 hi hname
  · exact .refuse _
  · rw [DomainFilter.step, removeBlockedDomain]
    split
    · exact .refuse _
    · rcases hfind : Slots.firstBelow s.table.count (BlockedDomain.named d) s.table.slots with _ | i
      · exact .refuse _
      · obtain ⟨⟨hi, hname⟩, -⟩ := Slots.firstBelow_eq_some_iff.1 hfind
        exact .remove hi hname
  · exact .reboot

/-- What a reboot finds: the table as it was saved, or nothing. -/
theorem reboot_table (s : DomainFilter) :
    (s.nvs = none ∧ s.reboot.table = .zero) ∨
      ∃ slots, s.nvs = some slots ∧ s.reboot.table = .load slots := by
  rcases hnvs : s.nvs with _ | slots
  · exact .inl ⟨rfl, by rw [DomainFilter.reboot, hnvs]; rfl⟩
  · exact .inr ⟨slots, rfl, by rw [DomainFilter.reboot, hnvs]; rfl⟩

/-! ## Memory and NVS -/

/-- NVS holds the slots of the table, or nothing when the table is empty. -/
def DomainFilter.Synced (s : DomainFilter) : Prop :=
  s.nvs = some s.table.slots ∨ (s.nvs = none ∧ s.table.count = 0)

/-- What holds as long as nothing is reactivated. -/
structure DomainFilter.Inv (s : DomainFilter) : Prop where
  wellFormed : s.table.WellFormed
  synced : s.Synced

/-- A reboot changes nothing that matters: every query is decided as before, and the active domains
are the same. -/
def DomainFilter.SurvivesReboot (s : DomainFilter) : Prop :=
  (∀ q, isDomainBlocked s.reboot.table q = isDomainBlocked s.table q) ∧
    s.reboot.table.activeDomains = s.table.activeDomains

/-- The call adds a domain that is in the table, inactive. -/
def DomainFilter.Reactivates (s : DomainFilter) : DomainOp → Prop
  | .add (some d) => 0 < d.strlen ∧ d.strlen < MAX_DOMAIN_LENGTH ∧
      ∃ i : Fin MAX_BLOCKED_DOMAINS, i.val < s.table.count ∧
        (s.table.slots i).named d = true ∧ (s.table.slots i).active = false
  | _ => False

theorem activeDomains_of_count_eq_zero {t : DomainTable} (h : t.count = 0) :
    t.activeDomains = ∅ := by
  rw [Set.eq_empty_iff_forall_notMem]
  rintro d ⟨i, hi, -⟩
  omega

theorem DomainFilter.Inv.survivesReboot {s : DomainFilter} (h : s.Inv) : s.SurvivesReboot := by
  have hactive : s.reboot.table.activeDomains = s.table.activeDomains := by
    rcases reboot_table s with ⟨hnvs, htable⟩ | ⟨slots, hnvs, htable⟩
    · have hcount : s.table.count = 0 := by
        rcases h.synced with hsome | hnone
        · exact nomatch hnvs.symm.trans hsome
        · exact hnone.2
      rw [htable, activeDomains_of_count_eq_zero hcount, activeDomains_of_count_eq_zero rfl]
    · rcases h.synced with hsome | hnone
      · obtain rfl : slots = s.table.slots := Option.some.inj (hnvs.symm.trans hsome)
        rw [htable]
        exact h.wellFormed.activeDomains_load
      · exact nomatch hnvs.symm.trans hnone.1
  exact ⟨isDomainBlocked_congr hactive, hactive⟩

/-- A call that reactivates nothing keeps memory and NVS in step. -/
theorem DomainFilter.inv_step {s : DomainFilter} {op : DomainOp} (hs : s.Inv)
    (hop : ¬ s.Reactivates op) : (s.step op).Inv := by
  have hstep := domainStep_step s op
  suffices h : ∀ t nvs, DomainStep s op t nvs →
      t.WellFormed ∧ (nvs = some t.slots ∨ (nvs = none ∧ t.count = 0)) from
    ⟨(h _ _ hstep).1, (h _ _ hstep).2⟩
  rintro t nvs (_ | @⟨d, i, hpos, hlen, hi, hname⟩ | @⟨d, hroom, hpos, hlen, hnew⟩ |
    @⟨d, i, hi, hname⟩ | _)
  · exact ⟨hs.wellFormed, hs.synced⟩
  · -- the entry is active already, so setting its flag changes nothing
    have hactive : (s.table.slots i).active = true := by
      rw [← Bool.not_eq_false]
      exact fun hfalse => hop ⟨hpos, hlen, i, hi, hname, hfalse⟩
    refine ⟨hs.wellFormed.setActive hi true, ?_⟩
    have hsame : { s.table.slots i with active := true } = s.table.slots i := by
      rw [← hactive]
    rw [DomainTable.setActive_slots, hsame, Function.update_eq_self, DomainTable.setActive_count]
    exact hs.synced
  · exact ⟨hs.wellFormed.append hroom hpos hlen hnew, .inl rfl⟩
  · exact ⟨hs.wellFormed.setActive hi false, .inl rfl⟩
  · rcases reboot_table s with ⟨hnvs, htable⟩ | ⟨slots, hnvs, htable⟩
    · rw [htable]
      exact ⟨DomainTable.wellFormed_zero, .inr ⟨hnvs, rfl⟩⟩
    · rcases hs.synced with hsome | hnone
      · obtain rfl : slots = s.table.slots := Option.some.inj (hnvs.symm.trans hsome)
        rw [htable]
        exact ⟨hs.wellFormed.load, .inl hnvs⟩
      · exact nomatch hnvs.symm.trans hnone.1

/-- A call that reactivates a domain loses it at the next reboot. -/
theorem DomainFilter.not_survivesReboot_of_reactivates {s : DomainFilter} {op : DomainOp}
    (hs : s.Inv) (hop : s.Reactivates op) : ¬ (s.step op).SurvivesReboot := by
  unfold DomainFilter.Reactivates at hop
  split at hop
  swap
  · exact hop.elim
  next d =>
  obtain ⟨hpos, hlen, i, hi, hname, hinactive⟩ := hop
  have hfind : Slots.firstBelow s.table.count (BlockedDomain.named d) s.table.slots = some i := by
    rw [Slots.firstBelow_eq_some_iff]
    refine ⟨⟨hi, hname⟩, fun j hj hjc => ?_⟩
    rw [← Bool.not_eq_true]
    exact fun hnj => hj.ne (hs.wellFormed.named_unique hjc hi hnj hname)
  have hnvs : s.nvs = some s.table.slots := by
    rcases hs.synced with hsome | hnone
    · exact hsome
    · exact absurd hi (by omega)
  rw [DomainFilter.step, addBlockedDomain_found hpos hlen hfind]
  rintro ⟨-, hactive⟩
  have hreboot : ({ s with table := s.table.setActive i true } : DomainFilter).reboot.table =
      .load s.table.slots := by
    rw [DomainFilter.reboot, hnvs]
    rfl
  rw [hreboot, hs.wellFormed.activeDomains_load] at hactive
  -- the domain is active in memory, but not in what was saved
  have hmem : (s.table.slots i).domain.str ∈ (s.table.setActive i true).activeDomains :=
    ⟨i, hi, by rw [DomainTable.setActive_slots, Function.update_self], by
      rw [DomainTable.setActive_domain]⟩
  rw [← hactive] at hmem
  obtain ⟨j, hj, hjactive, hjname⟩ := hmem
  obtain rfl : j = i := hs.wellFormed.distinct j i hj hi (by rw [hjname]; exact strcaseEq_refl _)
  exact absurd hjactive (by simp [hinactive])

/-- **When the blocked domains survive a reboot.**  Along every run from the first boot on, with
every NVS call succeeding, a reboot would change nothing at any point precisely when no call adds a
domain that is in the table, inactive. -/
theorem domains_survive_reboot_iff (ops : List DomainOp) :
    StepSystem.EveryState DomainFilter.step DomainFilter.SurvivesReboot DomainFilter.firstBoot
        ops ↔
      StepSystem.EveryStep DomainFilter.step (fun s op => ¬ s.Reactivates op)
        DomainFilter.firstBoot ops := by
  have hboot : DomainFilter.firstBoot.Inv :=
    ⟨DomainTable.wellFormed_zero, .inr ⟨rfl, rfl⟩⟩
  refine StepSystem.everyState_iff_everyStep' ?_ ?_ hboot hboot.survivesReboot
  · intro s op hs _ hop
    have hinv := DomainFilter.inv_step hs hop
    exact ⟨hinv, hinv.survivesReboot⟩
  · intro s op hs _ hnext hop
    exact DomainFilter.not_survivesReboot_of_reactivates hs hop hnext

/-- Added, removed and added again. -/
def addRemoveAdd : List DomainOp :=
  [.add (some (.lit "ads.com")), .remove (some (.lit "ads.com")), .add (some (.lit "ads.com"))]

/-- A domain that is added again is blocked until the next reboot, and not after it. -/
theorem domains_lost_at_reboot : ¬ ∀ ops,
    StepSystem.EveryState DomainFilter.step DomainFilter.SurvivesReboot DomainFilter.firstBoot
      ops := by
  intro h
  have hlast := (h addRemoveAdd).last.1 (some (.lit "ads.com"))
  exact absurd hlast (by decide +kernel)

end EspFirewall
