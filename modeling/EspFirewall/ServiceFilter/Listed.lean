import EspFirewall.General.Listing
import EspFirewall.ServiceFilter.Rules

/-!
# The custom rules as a list (`service_filter.c`)

The custom rules in use, in slot order, are what a router shows of them, and `service_add_custom`
takes one of them in again.

* `customRules_table`: a rule that conflicts with none goes into the first free slot, and one that
  does replaces the rule that it conflicts with.
* `ServiceFilter.Reachable.listed`: what is shown can be added, as its port is not 0.
* `customVerdict_eq_of_entries`: what the rules decide can be seen from the list.
-/

set_option autoImplicit false

namespace EspFirewall

open CLang Listing

/-- What `service_add_custom` does to the slots, if the port is not 0. -/
def CustomRules.add (rules : CustomRules) (r : CustomPortRule) : CustomRules :=
  match Slots.first (CustomPortRule.overlaps r.port r.proto) rules with
  | some i => Function.update rules i
      { rules i with blocked := r.blocked, proto := r.proto, name := .strncpy r.name.str }
  | none =>
    match Slots.first (fun r => !r.active) rules with
    | some i => Function.update rules i ⟨.strncpy r.name.str, r.port, r.proto, r.blocked, true⟩
    | none => rules

theorem serviceAddCustom_rules (out : SaveOutcome) {r : CustomPortRule} (hport : r.port ≠ 0)
    (s : ServiceFilter) :
    (serviceAddCustom out (some r.name.str) r.port r.proto r.blocked s).2.custom.rules =
      CustomRules.add s.custom.rules r := by
  rw [serviceAddCustom, if_neg hport, CustomRules.add]
  cases Slots.first (CustomPortRule.overlaps r.port r.proto) s.custom.rules with
  | some i => rw [saveServiceRules_custom, CustomTable.replace_rules]
  | none =>
    dsimp only
    cases Slots.first (fun r => !r.active) s.custom.rules with
    | some i =>
      dsimp only
      rw [log_custom, saveServiceRules_custom, CustomTable.put_rules]
    | none => rfl

/-- The name of a rule fits into a slot. -/
theorem CustomPortRule.strncpy_name (r : CustomPortRule) : CharBuf.strncpy r.name.str = r.name :=
  CharBuf.ext (CharBuf.strncpy_str_of_lt r.name.fits)

theorem mem_entries_active {rules : CustomRules} {r : CustomPortRule}
    (h : r ∈ entries CustomPortRule.active rules) : r.active = true := (mem_entries.1 h).1

/-- **The custom rules as a table that is listed.** -/
theorem customRules_table : Table CustomRules.add (entries CustomPortRule.active)
    (Packed CustomPortRule.active) (fun r => r.active = true) Conflict MAX_CUSTOM_PORT_RULES where
  inv rules r hr hrules := by
    rw [CustomRules.add]
    cases ho : Slots.first (CustomPortRule.overlaps r.port r.proto) rules with
    | some i =>
      have hi := overlaps_iff.1 (Slots.first_eq_some_iff.1 ho).1
      exact hrules.update_used hi.1 hi.1
    | none =>
      dsimp only
      cases hfree : Slots.first (fun r => !r.active) rules with
      | some i =>
        obtain ⟨hbefore, hlast⟩ := hrules.free_of_first hfree
        exact Packed.update_free hbefore hlast
      | none => exact hrules
  append rules r hr hrules hnone hroom := by
    have hoverlap : Slots.first (CustomPortRule.overlaps r.port r.proto) rules = none := by
      rw [Slots.first_eq_none_iff]
      intro i
      rw [← Bool.not_eq_true, overlaps_iff]
      rintro ⟨hactive, hport, hproto⟩
      exact hnone _ (mem_entries.2 ⟨hactive, i, rfl⟩)
        ⟨hactive, hr, hport, hproto.imp_right Or.symm⟩
    obtain ⟨i, hi⟩ : ∃ i, Slots.first (fun r => !r.active) rules = some i :=
      Slots.exists_first_iff.2 ((exists_free hroom).imp fun i hi => by rw [hi]; rfl)
    rw [CustomRules.add, hoverlap, hi, r.strncpy_name]
    have hsame : (⟨r.name, r.port, r.proto, r.blocked, true⟩ : CustomPortRule) = r := by rw [← hr]
    dsimp only
    rw [hsame]
    exact entries_update_free (hrules.free_of_first hi).2 hr
  replace rules r hr hrules hclash := by
    obtain ⟨a, ha, hc⟩ := hclash
    obtain ⟨-, j, rfl⟩ := mem_entries.1 ha
    obtain ⟨i, hi⟩ : ∃ i, Slots.first (CustomPortRule.overlaps r.port r.proto) rules = some i :=
      Slots.exists_first_iff.2 ⟨j, overlaps_of_conflict hc.symm⟩
    have hactive := (overlaps_iff.1 (Slots.first_eq_some_iff.1 hi).1).1
    rw [CustomRules.add, hi]
    refine (length_entries_update hactive ?_).le
    exact hactive

/-- No two listed rules conflict. -/
theorem noConflict_iff_pairwise {rules : CustomRules} :
    NoConflict rules ↔ (entries CustomPortRule.active rules).Pairwise fun a b => ¬ Conflict a b := by
  rw [pairwise_entries_iff]
  constructor
  · exact fun h i j hij _ _ => h i j hij.ne
  · intro h i j hij hc
    rcases lt_or_gt_of_ne hij with hlt | hlt
    · exact h i j hlt hc.active hc.active' hc
    · exact h j i hlt hc.active' hc.active hc.symm

/-- No active rule is for port 0. -/
def HavePorts (rules : CustomRules) : Prop := ∀ i, (rules i).active = true → (rules i).port ≠ 0

theorem HavePorts.write {rules : CustomRules} (h : HavePorts rules)
    (i : Fin MAX_CUSTOM_PORT_RULES) {r : CustomPortRule} (hr : r.active = true → r.port ≠ 0) :
    HavePorts (Function.update rules i r) := by
  rw [HavePorts, Function.forall_update_iff rules fun _ r => r.active = true → r.port ≠ 0]
  exact ⟨hr, fun j _ => h j⟩

theorem ServiceFilter.Reachable.havePorts {s : ServiceFilter} (hs : s.Reachable) :
    HavePorts s.custom.rules := by
  have hzero : HavePorts CustomTable.zero.rules := fun _ h => absurd h Bool.false_ne_true
  let Inv (s : ServiceFilter) : Prop :=
    HavePorts s.custom.rules ∧ ∀ rules, s.nvs.svcCustom = some rules → HavePorts rules
  suffices h : Inv s from h.1
  refine StepSystem.Reachable.invariant ?_ ?_ hs
  · rintro s ⟨out, rfl⟩
    obtain ⟨hnvs, hcustom⟩ := bootServiceFilter_custom out .empty
    dsimp only [Inv]
    rw [hnvs]
    rcases hcustom with h | ⟨rules, hsaved, -⟩
    · exact ⟨h ▸ hzero, fun _ hsaved => nomatch hsaved⟩
    · exact nomatch hsaved
  · rintro s op ⟨hrules, hsaved⟩
    obtain ⟨htable, hnvs⟩ := tableStep_step s op
    have hnew : ∀ t, TableStep s op t → HavePorts t.rules := by
      rintro t (_ | @⟨_, _, port, proto, _, i, _, hi⟩ | @⟨_, _, port, proto, _, i, hport, _, _⟩ |
        @⟨_, port, proto, i, hi⟩ | _ | hload)
      · exact hrules
      · have hactive := (overlaps_iff.1 (Slots.first_eq_some_iff.1 hi).1).1
        exact hrules.write i fun _ => hrules i hactive
      · exact hrules.write i fun _ => hport
      · exact hrules.write i fun h => absurd h Bool.false_ne_true
      · exact hzero
      · exact hsaved _ hload
    refine ⟨hnew _ htable, fun rules h => ?_⟩
    rcases hnvs with hold | hmem
    · exact hsaved rules (hold.symm.trans h)
    · rw [hmem, Option.some.injEq] at h
      exact h ▸ hnew _ htable

/-- What is known about the rules of a list. -/
structure CustomPortRule.Listed (r : CustomPortRule) : Prop where
  active : r.active = true
  port : r.port ≠ 0
  proto : ∃ proto : SvcProto, r.proto = proto.tag

theorem ServiceFilter.Reachable.listed {s : ServiceFilter} (hs : s.Reachable) :
    ∀ r ∈ entries CustomPortRule.active s.custom.rules, r.Listed := by
  intro r hr
  obtain ⟨hactive, i, rfl⟩ := mem_entries.1 hr
  exact ⟨hactive, hs.havePorts i hactive, hs.inv.rules.proto i hactive⟩

/-- What the custom rules decide can be seen from the list. -/
theorem customVerdict_eq_of_entries {rules rules' : CustomRules}
    (h : entries CustomPortRule.active rules = entries CustomPortRule.active rules')
    (proto : UInt8) (port : UInt16) :
    customVerdict rules proto port = customVerdict rules' proto port := by
  have hactive : ∀ r : CustomPortRule, r.decides proto port = true → r.active = true :=
    fun r hr => decides_active hr
  rw [customVerdict, customVerdict, lookup_eq_find_entries _ hactive,
    lookup_eq_find_entries _ hactive, h]

end EspFirewall
