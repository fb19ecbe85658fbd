import EspFirewall.General.Listing
import EspFirewall.DomainFilter.BlockedSet

/-!
# The blocked domains as a list (`domain_filter.c`)

The active domains, in slot order, are what a router shows of its table, and `add_blocked_domain`
takes one of them in again.

* `DomainFilter.Reachable.wellFormed`: the table is well formed in every state that calls and
  reboots lead to, also where the domains do not survive a reboot.
* `DomainTable.listed_table`: in a table of which nothing has been removed, a domain that is new
  goes behind the others.
-/

set_option autoImplicit false

namespace EspFirewall

open CLang Listing

/-- The states that calls and reboots lead to, from the first boot on. -/
def DomainFilter.Reachable : DomainFilter → Prop :=
  StepSystem.Reachable DomainFilter.step (· = .firstBoot)

theorem DomainFilter.reachable_run (ops : List DomainOp) :
    (StepSystem.run DomainFilter.step .firstBoot ops).Reachable := by
  refine StepSystem.Reachable.run (.init ?_) ops
  rfl

/-- The table is well formed in every reachable state, and what is saved comes from one that was. -/
theorem DomainFilter.Reachable.wellFormed {s : DomainFilter} (hs : s.Reachable) :
    s.table.WellFormed := by
  let Inv (s : DomainFilter) : Prop := s.table.WellFormed ∧ ∀ slots, s.nvs = some slots →
    ∃ t : DomainTable, t.WellFormed ∧ t.slots = slots
  suffices h : Inv s from h.1
  refine StepSystem.Reachable.invariant ?_ ?_ hs
  · rintro s rfl
    exact ⟨DomainTable.wellFormed_zero, fun _ h => nomatch h⟩
  · rintro s op ⟨hs, hsaved⟩
    have hstep := domainStep_step s op
    suffices h : ∀ t nvs, DomainStep s op t nvs → t.WellFormed ∧ ∀ slots, nvs = some slots →
        ∃ t : DomainTable, t.WellFormed ∧ t.slots = slots from h _ _ hstep
    rintro t nvs (_ | @⟨d, i, -, -, hi, -⟩ | @⟨d, hroom, hpos, hlen, hnew⟩ | @⟨d, i, hi, -⟩ | _)
    · exact ⟨hs, hsaved⟩
    · exact ⟨hs.setActive hi true, hsaved⟩
    · have hnext := hs.append hroom hpos hlen hnew
      exact ⟨hnext, fun slots h => ⟨_, hnext, Option.some.inj h⟩⟩
    · have hnext := hs.setActive hi false
      exact ⟨hnext, fun slots h => ⟨_, hnext, Option.some.inj h⟩⟩
    · refine ⟨?_, hsaved⟩
      rcases reboot_table s with ⟨-, htable⟩ | ⟨slots, hnvs, htable⟩
      · rw [htable]
        exact DomainTable.wellFormed_zero
      · obtain ⟨t, ht, rfl⟩ := hsaved slots hnvs
        rw [htable]
        exact ht.load

namespace DomainTable

/-- What `add_blocked_domain` does to the table. -/
def add (t : DomainTable) (d : CString) : DomainTable :=
  (addBlockedDomain .ok (some d) ⟨t, none, []⟩).2.table

theorem addBlockedDomain_table (out : DomainSave) (d : CString) (s : DomainFilter) :
    (addBlockedDomain out (some d) s).2.table = s.table.add d := by
  rw [add, addBlockedDomain, addBlockedDomain]
  by_cases hbad : d.strlen = 0 ∨ MAX_DOMAIN_LENGTH ≤ d.strlen
  · rw [if_pos hbad, if_pos hbad]
  · rw [if_neg hbad, if_neg hbad]
    cases Slots.firstBelow s.table.count (BlockedDomain.named d) s.table.slots with
    | some i => rfl
    | none =>
      dsimp only
      by_cases hroom : s.table.count < MAX_BLOCKED_DOMAINS
      · rw [dif_pos hroom, dif_pos hroom, saveBlockedDomains_table, saveBlockedDomains_table]
        rfl
      · rw [dif_neg hroom, dif_neg hroom]

/-- The domains that are shown. -/
def listed (t : DomainTable) : List CString :=
  (entries BlockedDomain.counted t.slots).map fun e => e.domain.str

theorem counted_iff {e : BlockedDomain} :
    e.counted = true ↔ e.active = true ∧ 0 < e.domain.str.strlen := by
  rw [BlockedDomain.counted, Bool.and_eq_true, decide_eq_true_iff]

/-- The slots that are shown are below the count. -/
theorem WellFormed.lt_of_active {t : DomainTable} (h : t.WellFormed) {i : Fin MAX_BLOCKED_DOMAINS}
    (hi : (t.slots i).active = true) : i.val < t.count := by
  by_contra hle
  rw [h.inactive i (Nat.le_of_not_lt hle)] at hi
  exact Bool.false_ne_true hi

theorem WellFormed.mem_listed {t : DomainTable} (h : t.WellFormed) {d : CString} :
    d ∈ t.listed ↔ d ∈ t.activeDomains := by
  rw [listed, List.mem_map]
  constructor
  · rintro ⟨e, he, rfl⟩
    obtain ⟨hcounted, i, rfl⟩ := mem_entries.1 he
    have hactive := (counted_iff.1 hcounted).1
    exact ⟨i, h.lt_of_active hactive, hactive, rfl⟩
  · rintro ⟨i, hi, hactive, rfl⟩
    exact ⟨_, mem_entries.2 ⟨counted_iff.2 ⟨hactive, h.named i hi⟩, i, rfl⟩, rfl⟩

/-- No two domains that are shown are the same but for case. -/
theorem WellFormed.pairwise_listed {t : DomainTable} (h : t.WellFormed) :
    t.listed.Pairwise fun d e => ¬ strcaseEq d e = true := by
  rw [listed, List.pairwise_map, pairwise_entries_iff]
  intro i j hij hi hj heq
  exact hij.ne (h.distinct i j (h.lt_of_active (counted_iff.1 hi).1)
    (h.lt_of_active (counted_iff.1 hj).1) heq)

/-- A domain that is shown can be added. -/
theorem WellFormed.legal_listed {t : DomainTable} (h : t.WellFormed) :
    ∀ d ∈ t.listed, 0 < d.strlen ∧ d.strlen < MAX_DOMAIN_LENGTH := by
  intro d hd
  obtain ⟨i, hi, -, rfl⟩ := h.mem_listed.1 hd
  exact ⟨h.named i hi, (t.slots i).domain.fits⟩

/-- Nothing in use is inactive. -/
structure Full (t : DomainTable) : Prop where
  wellFormed : t.WellFormed
  active : ∀ i : Fin MAX_BLOCKED_DOMAINS, i.val < t.count → (t.slots i).active = true

theorem Full.counted {t : DomainTable} (h : t.Full) {i : Fin MAX_BLOCKED_DOMAINS}
    (hi : i.val < t.count) : (t.slots i).counted = true :=
  counted_iff.2 ⟨h.active i hi, h.wellFormed.named i hi⟩

theorem Full.setActive_true {t : DomainTable} (h : t.Full) {i : Fin MAX_BLOCKED_DOMAINS}
    (hi : i.val < t.count) : t.setActive i true = t := by
  have hsame : { t.slots i with active := true } = t.slots i := by rw [← h.active i hi]
  rw [setActive, hsame, Function.update_eq_self]

/-- **The domains as a table that is listed.** -/
theorem listed_table : Table add listed Full
    (fun d => 0 < d.strlen ∧ d.strlen < MAX_DOMAIN_LENGTH) (fun d e => strcaseEq d e = true)
    MAX_BLOCKED_DOMAINS where
  inv t d hd ht := by
    have heffect := callEffect_exec ⟨.insert, .ok, some d⟩ ⟨t, none, []⟩
    suffices h : ∀ r t', CallEffect t ⟨.insert, .ok, some d⟩ r t' → t'.Full from h _ _ heffect
    rintro r t' (_ | @⟨_, _, i, hi, -⟩ | @⟨_, _, hroom, hpos, hlen, hnew⟩ | _)
    · exact ht
    · rwa [ht.setActive_true hi]
    · refine ⟨ht.wellFormed.append hroom hpos hlen hnew, fun i hi => ?_⟩
      rcases Nat.lt_succ_iff_lt_or_eq.1 hi with hlt | heq
      · rw [append_slots_of_lt hroom _ hlt]
        exact ht.active i hlt
      · obtain rfl : i = ⟨t.count, hroom⟩ := Fin.ext heq
        rw [append_slots_last]
  append t d hd ht hnone hroom := by
    have heffect := callEffect_exec ⟨.insert, .ok, some d⟩ ⟨t, none, []⟩
    suffices h : ∀ r t', CallEffect t ⟨.insert, .ok, some d⟩ r t' → t'.listed = t.listed ++ [d] from
      h _ _ heffect
    rintro r t' (⟨-, hrefused⟩ | @⟨_, _, i, hi, hname⟩ | @⟨_, _, hroom', hpos, hlen, hnew⟩ | _)
    · -- the table is not full
      rw [listed, List.length_map] at hroom
      obtain ⟨i, hfree⟩ := exists_free hroom
      have hcount := (hrefused d rfl hd.1 hd.2).2 rfl
      exact absurd (ht.counted (lt_of_lt_of_eq i.isLt hcount.symm)) (by rw [hfree]; exact Bool.false_ne_true)
    · exact absurd hname (hnone _ (ht.wellFormed.mem_listed.2 ⟨i, hi, ht.active i hi, rfl⟩))
    · have hlast : ∀ j : Fin MAX_BLOCKED_DOMAINS, ⟨t.count, hroom'⟩ ≤ j →
          (t.slots j).counted = false := by
        intro j hj
        rw [BlockedDomain.counted, ht.wellFormed.inactive j (Fin.le_def.1 hj)]
        rfl
      have hstr : (CharBuf.strncpy d : CharBuf MAX_DOMAIN_LENGTH).str = d :=
        CharBuf.strncpy_str_of_lt hlen
      rw [listed, append_slots, entries_update_free hlast, List.map_append, List.map_singleton,
        hstr, listed]
      rw [counted_iff, hstr]
      exact ⟨rfl, hpos⟩
  replace t d hd ht hclash := by
    have heffect := callEffect_exec ⟨.insert, .ok, some d⟩ ⟨t, none, []⟩
    suffices h : ∀ r t', CallEffect t ⟨.insert, .ok, some d⟩ r t' →
        t'.listed.length ≤ t.listed.length from h _ _ heffect
    rintro r t' (_ | @⟨_, _, i, hi, -⟩ | @⟨_, _, hroom, hpos, hlen, hnew⟩ | _)
    · exact le_rfl
    · rw [ht.setActive_true hi]
    · obtain ⟨e, he, hcase⟩ := hclash
      obtain ⟨i, hi, -, rfl⟩ := ht.wellFormed.mem_listed.1 he
      exact absurd hcase (by rw [show strcaseEq _ d = false from hnew i hi]; exact Bool.false_ne_true)

end DomainTable

end EspFirewall
