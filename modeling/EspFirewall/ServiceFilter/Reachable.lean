import EspFirewall.ServiceFilter.Lookup

/-!
# The reachable states of the service filter

`TableStep` lists everything one call can do to the custom rules, reboots included, and
`tableStep_step` says that it does: every invariant of the table below is a case analysis on it.

Three invariants hold in every reachable state (`ServiceFilter.Reachable.inv`), whatever NVS calls
fail on the way: the count is exact, so that looking at the slots below it is looking at all of
them; the protocol of an active rule is one of the three; and a rule for both protocols has no
other rule for its port before it.
-/

set_option autoImplicit false

namespace EspFirewall

open CLang

/-! ## What a call can do to the custom rules -/

/-- The effect of a call on the custom rules. -/
inductive TableStep (s : ServiceFilter) : ServiceOp → CustomTable → Prop
  /-- Not a call that changes a rule, or one that fails. -/
  | keep (op : ServiceOp) : TableStep s op s.custom
  /-- The first rule that overlaps is overwritten. -/
  | update {out : SaveOutcome} {name : CString} {port : UInt16} {proto : SvcProto}
      {blocked : Bool} {i : Fin MAX_CUSTOM_PORT_RULES} (hport : port ≠ 0)
      (hi : Slots.first (CustomPortRule.overlaps port proto.tag) s.custom.rules = some i) :
      TableStep s (.addCustom out (some name) port proto blocked)
        (s.custom.replace i { s.custom.rules i with
          blocked := blocked, proto := proto.tag, name := .strncpy name })
  /-- No rule overlaps, and the first empty slot is filled. -/
  | insert {out : SaveOutcome} {name : CString} {port : UInt16} {proto : SvcProto}
      {blocked : Bool} {i : Fin MAX_CUSTOM_PORT_RULES} (hport : port ≠ 0)
      (hnone : Slots.first (CustomPortRule.overlaps port proto.tag) s.custom.rules = none)
      (hi : Slots.first (fun r => !r.active) s.custom.rules = some i) :
      TableStep s (.addCustom out (some name) port proto blocked)
        (s.custom.put i ⟨.strncpy name, port, proto.tag, blocked, true⟩)
  /-- The first rule that overlaps is cleared. -/
  | clear {out : SaveOutcome} {port : UInt16} {proto : SvcProto}
      {i : Fin MAX_CUSTOM_PORT_RULES}
      (hi : Slots.first (CustomPortRule.overlaps port proto.tag) s.custom.rules = some i) :
      TableStep s (.removeCustom out port proto)
        (.recount (Function.update s.custom.rules i .zero))
  /-- A reboot that finds no rules. -/
  | restart {out : LoadOutcome} : TableStep s (.reboot out) .zero
  /-- A reboot that loads the saved rules. -/
  | reload {out : LoadOutcome} {rules : CustomRules} (h : s.nvs.svcCustom = some rules) :
      TableStep s (.reboot out) (.recount rules)

/-- `init_service_filter` leaves NVS alone and finds the saved rules in it, or none. -/
theorem initServiceFilter_custom (out : LoadOutcome) (s : ServiceFilter) :
    (initServiceFilter out s).nvs = s.nvs ∧
      ((initServiceFilter out s).custom = .zero ∨
        ∃ rules, s.nvs.svcCustom = some rules ∧
          (initServiceFilter out s).custom = .recount rules) := by
  rw [initServiceFilter, loadServiceRules, log_nvs, log_custom]
  split
  · refine ⟨rfl, ?_⟩
    cases out.readRules with
    | false => exact .inl rfl
    | true =>
      dsimp only
      cases s.nvs.svcCustom with
      | none => exact .inl rfl
      | some rules => exact .inr ⟨rules, rfl, rfl⟩
  · exact ⟨rfl, .inl rfl⟩

/-- So does a reboot. -/
theorem bootServiceFilter_custom (out : LoadOutcome) (nvs : ServiceNvs) :
    (bootServiceFilter out nvs).nvs = nvs ∧
      ((bootServiceFilter out nvs).custom = .zero ∨
        ∃ rules, nvs.svcCustom = some rules ∧
          (bootServiceFilter out nvs).custom = .recount rules) :=
  initServiceFilter_custom out ⟨builtinServices, .zero, nvs, []⟩

theorem serviceSetBlocked_custom (out : SaveOutcome) (id : ℕ) (blocked : Bool)
    (s : ServiceFilter) : (serviceSetBlocked out id blocked s).custom = s.custom := by
  rw [serviceSetBlocked]
  split
  · rw [log_custom, saveServiceRules_custom]
  · rfl

theorem serviceSetBlocked_svcCustom (out : SaveOutcome) (id : ℕ) (blocked : Bool)
    (s : ServiceFilter) :
    (serviceSetBlocked out id blocked s).nvs.svcCustom = s.nvs.svcCustom ∨
      (serviceSetBlocked out id blocked s).nvs.svcCustom = some s.custom.rules := by
  rw [serviceSetBlocked]
  split
  · rw [log_nvs]; exact saveServiceRules_svcCustom out _
  · exact .inl rfl

/-- **What a call can do.**  It takes a `TableStep`, and the slots in NVS are then the ones that
were there before or the ones now in memory. -/
theorem tableStep_step (s : ServiceFilter) (op : ServiceOp) :
    TableStep s op (s.step op).custom ∧
      ((s.step op).nvs.svcCustom = s.nvs.svcCustom ∨
        (s.step op).nvs.svcCustom = some (s.step op).custom.rules) := by
  cases op with
  | setBlocked out id blocked =>
    rw [ServiceFilter.step, serviceSetBlocked_custom]
    exact ⟨.keep _, serviceSetBlocked_svcCustom out id blocked s⟩
  | addCustom out name port proto blocked =>
    rw [ServiceFilter.step]
    cases hok : (serviceAddCustom out name port proto.tag blocked s).1 with
    | false => rw [(serviceAddCustom_false hok).1]; exact ⟨.keep _, .inl rfl⟩
    | true =>
      obtain ⟨n, s', rfl, hport, -, hcustom, hnvs, ⟨hold, -⟩, hcase⟩ := serviceAddCustom_true hok
      rw [hcustom, hnvs, ← hold]
      refine ⟨?_, saveServiceRules_svcCustom out s'⟩
      obtain ⟨i, hi, hnew⟩ | ⟨hnone, i, hi, hnew⟩ := hcase
      · rw [hnew]; exact .update hport hi
      · rw [hnew]; exact .insert hport hnone hi
  | removeCustom out port proto =>
    rw [ServiceFilter.step]
    cases hok : (serviceRemoveCustom out port proto.tag s).1 with
    | false => rw [(serviceRemoveCustom_false hok).1]; exact ⟨.keep _, .inl rfl⟩
    | true =>
      obtain ⟨i, s', hi, -, hcustom, hnvs, ⟨hold, -⟩, hnew⟩ := serviceRemoveCustom_true hok
      rw [hcustom, hnvs, ← hold]
      refine ⟨?_, saveServiceRules_svcCustom out s'⟩
      rw [hnew]
      exact .clear hi
  | reboot out =>
    rw [ServiceFilter.step]
    obtain ⟨hnvs, hcustom⟩ := bootServiceFilter_custom out s.nvs
    rw [hnvs]
    refine ⟨?_, .inl rfl⟩
    rcases hcustom with h | ⟨rules, hsaved, h⟩
    · rw [h]; exact .restart
    · rw [h]; exact .reload hsaved

/-! ## The count is exact -/

theorem CustomTable.zero_countExact : CustomTable.zero.CountExact :=
  ⟨fun _ h => absurd h (by simp [CustomTable.zero, CustomPortRule.zero]),
   fun h => absurd h (Nat.lt_irrefl 0)⟩

theorem CustomTable.recount_countExact (rules : CustomRules) :
    (CustomTable.recount rules).CountExact :=
  ⟨fun _ h => Slots.lt_highWater h, fun h => Slots.exists_of_highWater_pos h⟩

theorem CustomTable.CountExact.replace {t : CustomTable} (h : t.CountExact)
    {i : Fin MAX_CUSTOM_PORT_RULES} {r : CustomPortRule}
    (hr : r.active = (t.rules i).active) : (t.replace i r).CountExact := by
  have hactive : ∀ j, ((t.replace i r).rules j).active = (t.rules j).active :=
    (Function.forall_update_iff t.rules fun j r' => r'.active = (t.rules j).active).2
      ⟨hr, fun _ _ => rfl⟩
  refine ⟨fun j hj => h.below j (by rwa [← hactive]), fun hpos => ?_⟩
  obtain ⟨j, hcount, hj⟩ := h.top hpos
  exact ⟨j, hcount, by rwa [hactive]⟩

theorem CustomTable.CountExact.put {t : CustomTable} (h : t.CountExact)
    {i : Fin MAX_CUSTOM_PORT_RULES} {r : CustomPortRule} (hr : r.active = true) :
    (t.put i r).CountExact := by
  have hself : ((t.put i r).rules i).active = true := by
    rw [CustomTable.put_rules, Function.update_self, hr]
  have hother : ∀ j, j ≠ i → (t.put i r).rules j = t.rules j := fun j hj =>
    Function.update_of_ne hj ..
  have hcount : (t.put i r).count = max (i.val + 1) t.count := rfl
  constructor
  · intro j hj
    rw [hcount]
    by_cases hji : j = i
    · subst hji; omega
    · rw [hother j hji] at hj
      have := h.below j hj
      omega
  · intro _
    rw [hcount]
    rcases Nat.le_total t.count (i.val + 1) with hle | hle
    · exact ⟨i, by omega, hself⟩
    · obtain ⟨j, hj, hactive⟩ := h.top (by omega)
      by_cases hji : j = i
      · exact ⟨i, by omega, hself⟩
      · exact ⟨j, by omega, by rwa [hother j hji]⟩

/-! ## The rules are well formed -/

/-- What holds of the slots of every table the firmware can build. -/
structure WellFormed (rules : CustomRules) : Prop where
  /-- Every active rule is for TCP, for UDP or for both. -/
  proto : ∀ i, (rules i).active = true → ∃ proto : SvcProto, (rules i).proto = proto.tag
  /-- An active rule for both is the first active rule for its port. -/
  bothFirst : ∀ i j, j < i → (rules i).active = true → (rules i).proto = SVC_PROTO_BOTH →
    (rules j).active = true → (rules j).port ≠ (rules i).port

theorem wellFormed_zero : WellFormed CustomTable.zero.rules := by
  have hinactive : ∀ i, ¬ (CustomTable.zero.rules i).active = true := fun i => by
    simp [CustomTable.zero, CustomPortRule.zero]
  exact ⟨fun i h => absurd h (hinactive i), fun i _ _ h => absurd h (hinactive i)⟩

theorem WellFormed.clear {rules : CustomRules} (h : WellFormed rules)
    (i : Fin MAX_CUSTOM_PORT_RULES) : WellFormed (Function.update rules i .zero) := by
  have hkeep : ∀ j, (Function.update rules i .zero j).active = true →
      Function.update rules i .zero j = rules j := by
    intro j hj
    refine Function.update_of_ne ?_ ..
    rintro rfl
    simp [CustomPortRule.zero] at hj
  refine ⟨fun j hj => ?_, fun j k hkj hj hboth hk => ?_⟩
  · have hsame := hkeep j hj
    rw [hsame] at hj ⊢
    exact h.proto j hj
  · have hsame := hkeep j hj
    have hsame' := hkeep k hk
    rw [hsame] at hj hboth ⊢
    rw [hsame'] at hk ⊢
    exact h.bothFirst j k hkj hj hboth hk

/-- Writing a rule keeps the slots well formed when a rule for both has no active rule for its
port before it, and no rule for both has the written one before it. -/
theorem WellFormed.write {rules : CustomRules} (h : WellFormed rules)
    {i : Fin MAX_CUSTOM_PORT_RULES} {r : CustomPortRule}
    (hproto : ∃ proto : SvcProto, r.proto = proto.tag)
    (hbefore : r.proto = SVC_PROTO_BOTH →
      ∀ j < i, (rules j).active = true → (rules j).port ≠ r.port)
    (hafter : ∀ j, i < j → (rules j).active = true → (rules j).proto = SVC_PROTO_BOTH →
      r.port ≠ (rules j).port) : WellFormed (Function.update rules i r) := by
  refine ⟨?_, fun j k hkj hj hboth hk => ?_⟩
  · rw [Function.forall_update_iff rules fun _ r' => r'.active = true →
      ∃ proto : SvcProto, r'.proto = proto.tag]
    exact ⟨fun _ => hproto, fun j _ => h.proto j⟩
  · by_cases hji : j = i
    · subst hji
      rw [Function.update_self] at hboth ⊢
      rw [Function.update_of_ne hkj.ne] at hk ⊢
      exact hbefore hboth k hkj hk
    · rw [Function.update_of_ne hji] at hj hboth ⊢
      by_cases hki : k = i
      · subst hki
        rw [Function.update_self]
        exact hafter j hkj hj hboth
      · rw [Function.update_of_ne hki] at hk ⊢
        exact h.bothFirst j k hkj hj hboth hk

/-! ## The invariant -/

/-- What holds in every reachable state. -/
structure ServiceFilter.Inv (s : ServiceFilter) : Prop where
  /-- The count is exact. -/
  countExact : s.custom.CountExact
  /-- The rules in memory are well formed. -/
  rules : WellFormed s.custom.rules
  /-- So are the saved ones. -/
  saved : ∀ rules, s.nvs.svcCustom = some rules → WellFormed rules

theorem TableStep.countExact {s : ServiceFilter} {op : ServiceOp} {t : CustomTable}
    (h : TableStep s op t) (hs : s.custom.CountExact) : t.CountExact := by
  cases h with
  | keep => exact hs
  | update => exact hs.replace rfl
  | insert => exact hs.put rfl
  | clear => exact CustomTable.recount_countExact _
  | restart => exact CustomTable.zero_countExact
  | reload => exact CustomTable.recount_countExact _

theorem TableStep.wellFormed {s : ServiceFilter} {op : ServiceOp} {t : CustomTable}
    (h : TableStep s op t) (hs : s.Inv) : WellFormed t.rules := by
  cases h with
  | keep => exact hs.rules
  | @update _ _ port proto _ i _ hi =>
    obtain ⟨hmatch, hbefore⟩ := Slots.first_eq_some_iff.1 hi
    obtain ⟨hactive, hport, -⟩ := overlaps_iff.1 hmatch
    refine hs.rules.write ⟨proto, rfl⟩ ?_ ?_
    · intro hboth j hj hactive' hport'
      exact ne_port_of_not_overlaps (hbefore j hj) hactive' (.inl hboth) (hport'.trans hport)
    · intro j hj hactive' hboth
      exact hs.rules.bothFirst j i hj hactive' hboth hactive
  | @insert _ _ port proto _ i _ hnone _ =>
    have hfree := Slots.first_eq_none_iff.1 hnone
    refine hs.rules.write ⟨proto, rfl⟩ ?_ ?_
    · intro hboth j _ hactive'
      exact ne_port_of_not_overlaps (hfree j) hactive' (.inl hboth)
    · intro j _ hactive' hboth
      exact (ne_port_of_not_overlaps (hfree j) hactive' (.inr hboth)).symm
  | clear => exact hs.rules.clear _
  | restart => exact wellFormed_zero
  | reload h => exact hs.saved _ h

theorem ServiceFilter.inv_step (s : ServiceFilter) (op : ServiceOp) (hs : s.Inv) :
    (s.step op).Inv := by
  obtain ⟨htable, hsaved⟩ := tableStep_step s op
  have hrules := htable.wellFormed hs
  refine ⟨htable.countExact hs.countExact, hrules, fun rules h => ?_⟩
  rcases hsaved with hold | hnew
  · exact hs.saved rules (hold.symm.trans h)
  · rw [hnew, Option.some.injEq] at h
    exact h ▸ hrules

/-- A boot from rules that are well formed, or from none. -/
theorem ServiceFilter.inv_boot (out : LoadOutcome) {nvs : ServiceNvs}
    (h : ∀ rules, nvs.svcCustom = some rules → WellFormed rules) :
    (bootServiceFilter out nvs).Inv := by
  obtain ⟨hnvs, hzero | ⟨rules, hsaved, hload⟩⟩ := bootServiceFilter_custom out nvs
  · refine ⟨?_, ?_, by rwa [hnvs]⟩
    · rw [hzero]; exact CustomTable.zero_countExact
    · rw [hzero]; exact wellFormed_zero
  · refine ⟨?_, ?_, by rwa [hnvs]⟩
    · rw [hload]; exact CustomTable.recount_countExact rules
    · rw [hload]; exact h rules hsaved

theorem ServiceFilter.Reachable.next {s : ServiceFilter} (h : s.Reachable) (op : ServiceOp) :
    (s.step op).Reachable := StepSystem.Reachable.step h op

/-- **The invariant holds in every reachable state.** -/
theorem ServiceFilter.Reachable.inv {s : ServiceFilter} (h : s.Reachable) : s.Inv := by
  refine StepSystem.Reachable.invariant ?_ ServiceFilter.inv_step h
  rintro s ⟨out, rfl⟩
  exact ServiceFilter.inv_boot out fun _ hsaved => nomatch hsaved

/-- In a reachable state the filter enforces the policy of its tables. -/
theorem ServiceFilter.Reachable.allowed_eq {s : ServiceFilter} (h : s.Reachable) (proto : UInt8)
    (port : UInt16) :
    serviceIsPortAllowed s proto port = portPolicy s.custom.rules s.services proto port :=
  serviceIsPortAllowed_eq_policy h.inv.countExact.below proto port

end EspFirewall
