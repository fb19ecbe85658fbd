import EspFirewall.ServiceFilter.Defs

/-!
# What the service filter decides, and what its calls do to the tables

`portPolicy` is the policy the filter is there to enforce, as a function of two tables and nothing
else: the first active custom rule that matches decides, else the first active built-in service
that matches, else the packet is allowed.  `serviceIsPortAllowed` looks at the custom slots below a
count only, so it computes the policy when no active slot lies beyond — which is half of
`CustomTable.CountExact`, and holds in every reachable state (`ServiceFilter.Reachable.countExact`).

The calls that change a rule are unfolded once, here: `serviceAddCustom_true`,
`serviceRemoveCustom_true` and their counterparts for a call that returns false say everything a
caller needs to know about them.
-/

set_option autoImplicit false

namespace EspFirewall

open CLang

/-! ## The policy -/

/-- What the custom rules decide. -/
def customVerdict (rules : CustomRules) (proto : UInt8) (port : UInt16) : Option Bool :=
  Slots.lookup (CustomPortRule.decides proto port) (fun r => !r.blocked) rules

/-- What the built-in services decide. -/
def builtinVerdict (services : Services) (proto : UInt8) (port : UInt16) : Option Bool :=
  Slots.lookup (ServiceRule.decides proto port) (fun r => !r.blocked) services

/-- The policy: custom rules, then built-in services, then allow. -/
def portPolicy (rules : CustomRules) (services : Services) (proto : UInt8) (port : UInt16) :
    Bool :=
  ((customVerdict rules proto port).or (builtinVerdict services proto port)).getD true

/-- The count is one more than the last active slot, or `0` when there is none. -/
structure CustomTable.CountExact (t : CustomTable) : Prop where
  /-- Every active slot is scanned. -/
  below : ∀ i, (t.rules i).active = true → i.val < t.count
  /-- The slot just below a positive count is active. -/
  top : 0 < t.count → ∃ i, i.val + 1 = t.count ∧ (t.rules i).active = true

theorem decides_active {proto : UInt8} {port : UInt16} {r : CustomPortRule}
    (h : r.decides proto port = true) : r.active = true := by
  rw [CustomPortRule.decides, Bool.and_eq_true] at h
  exact h.1

/-- **The filter enforces the policy** when its count covers the active slots. -/
theorem serviceIsPortAllowed_eq_policy {s : ServiceFilter}
    (h : ∀ i, (s.custom.rules i).active = true → i.val < s.custom.count)
    (proto : UInt8) (port : UInt16) :
    serviceIsPortAllowed s proto port = portPolicy s.custom.rules s.services proto port := by
  have hcut : Slots.firstBelow s.custom.count (CustomPortRule.decides proto port) s.custom.rules =
      Slots.first (CustomPortRule.decides proto port) s.custom.rules :=
    Slots.firstBelow_eq_first fun i hi => h i (decides_active hi)
  rw [serviceIsPortAllowed, hcut, portPolicy, customVerdict, builtinVerdict, Slots.lookup,
    Slots.lookup]
  cases Slots.first (CustomPortRule.decides proto port) s.custom.rules with
  | some i => simp
  | none => cases Slots.first (ServiceRule.decides proto port) s.services <;> simp

/-! ## Which rules concern which packets -/

theorem overlaps_iff {port : UInt16} {proto : UInt8} {r : CustomPortRule} :
    r.overlaps port proto = true ↔ r.active = true ∧ r.port = port ∧
      (r.proto = proto ∨ proto = SVC_PROTO_BOTH ∨ r.proto = SVC_PROTO_BOTH) := by
  simp [CustomPortRule.overlaps, or_assoc]

theorem decides_iff {proto : UInt8} {port : UInt16} {r : CustomPortRule} :
    r.decides proto port = true ↔ r.active = true ∧ r.port = port ∧
      (r.proto = SVC_PROTO_BOTH ∨ r.proto = proto) := by
  rw [CustomPortRule.decides, protoMatches]
  split <;> simp_all

/-- Adding and removing a rule look for the same slots. -/
theorem removable_eq_overlaps (port : UInt16) (proto : UInt8) (r : CustomPortRule) :
    r.removable port proto = r.overlaps port proto := by
  rw [Bool.eq_iff_iff, overlaps_iff]
  simp only [CustomPortRule.removable, Bool.not_not, Bool.and_eq_true, Bool.not_eq_true',
    bne_eq_false_iff_eq, Bool.and_eq_false_iff, and_assoc]
  tauto

theorem removable_fun_eq (port : UInt16) (proto : UInt8) :
    CustomPortRule.removable port proto = CustomPortRule.overlaps port proto :=
  funext fun r => removable_eq_overlaps port proto r

/-- A packet protocol that a rule for `proto` is about. -/
def Covers (proto p : UInt8) : Prop := p = proto ∨ proto = SVC_PROTO_BOTH

/-- A rule that decides a packet a rule for `proto` is about overlaps such a rule. -/
theorem overlaps_of_decides {port : UInt16} {proto p : UInt8} {r : CustomPortRule}
    (hp : Covers proto p) (h : r.decides p port = true) : r.overlaps port proto = true := by
  rw [decides_iff] at h
  rw [overlaps_iff]
  obtain ⟨hactive, hport, hproto⟩ := h
  refine ⟨hactive, hport, ?_⟩
  rcases hp with rfl | hboth
  · exact hproto.elim (fun h => .inr (.inr h)) .inl
  · exact .inr (.inl hboth)

theorem not_decides_of_not_overlaps {port : UInt16} {proto p : UInt8} {r : CustomPortRule}
    (hp : Covers proto p) (h : r.overlaps port proto = false) : r.decides p port = false := by
  rw [← Bool.not_eq_true] at h ⊢
  exact fun hd => h (overlaps_of_decides hp hd)

/-- An active rule that does not overlap, where one of the two is for both, has another port. -/
theorem ne_port_of_not_overlaps {port : UInt16} {proto : UInt8} {r : CustomPortRule}
    (h : r.overlaps port proto = false) (hactive : r.active = true)
    (hboth : proto = SVC_PROTO_BOTH ∨ r.proto = SVC_PROTO_BOTH) : r.port ≠ port := by
  rw [← Bool.not_eq_true] at h
  exact fun hport => h (overlaps_iff.2 ⟨hactive, hport, .inr hboth⟩)

theorem not_decides_of_ne_port {port port' : UInt16} {p : UInt8} {r : CustomPortRule}
    (hport : r.port = port) (hne : port' ≠ port) : r.decides p port' = false := by
  rw [← Bool.not_eq_true, decides_iff]
  rintro ⟨-, h, -⟩
  exact hne (h.symm.trans hport)

theorem not_decides_of_inactive {port : UInt16} {p : UInt8} {r : CustomPortRule}
    (h : r.active = false) : r.decides p port = false := by
  simp [CustomPortRule.decides, h]

/-! ## Writing a slot -/

@[simp] theorem CustomTable.recount_rules (rules : CustomRules) :
    (CustomTable.recount rules).rules = rules := rfl

@[simp] theorem CustomTable.put_rules (t : CustomTable) (i : Fin MAX_CUSTOM_PORT_RULES)
    (r : CustomPortRule) : (t.put i r).rules = Function.update t.rules i r := rfl

@[simp] theorem CustomTable.replace_rules (t : CustomTable) (i : Fin MAX_CUSTOM_PORT_RULES)
    (r : CustomPortRule) : (t.replace i r).rules = Function.update t.rules i r := rfl

/-! ## Saving touches neither table -/

@[simp] theorem log_services (s : ServiceFilter) (c : LogCall) :
    (s.log c).services = s.services := rfl

@[simp] theorem log_custom (s : ServiceFilter) (c : LogCall) : (s.log c).custom = s.custom := rfl

@[simp] theorem log_nvs (s : ServiceFilter) (c : LogCall) : (s.log c).nvs = s.nvs := rfl

@[simp] theorem saveServiceRules_services (out : SaveOutcome) (s : ServiceFilter) :
    (saveServiceRules out s).services = s.services := by
  rw [saveServiceRules]; split <;> rfl

@[simp] theorem saveServiceRules_custom (out : SaveOutcome) (s : ServiceFilter) :
    (saveServiceRules out s).custom = s.custom := by
  rw [saveServiceRules]; split <;> rfl

/-- Whatever fails, the slots in NVS are the old ones or the ones in memory. -/
theorem saveServiceRules_svcCustom (out : SaveOutcome) (s : ServiceFilter) :
    (saveServiceRules out s).nvs.svcCustom = s.nvs.svcCustom ∨
      (saveServiceRules out s).nvs.svcCustom = some s.custom.rules := by
  obtain ⟨opened, wroteMask, wroteRules, committed⟩ := out
  cases opened <;> cases wroteMask <;> cases wroteRules <;> cases committed <;>
    simp [saveServiceRules]

/-! ## What the calls do -/

/-- A successful `service_add_custom` wrote one slot: the first that overlaps the new rule, or
else the first empty one. -/
theorem serviceAddCustom_true {out : SaveOutcome} {name : Option CString} {port : UInt16}
    {proto : UInt8} {blocked : Bool} {s : ServiceFilter}
    (h : (serviceAddCustom out name port proto blocked s).1 = true) :
    ∃ n s', name = some n ∧ port ≠ 0 ∧
      (serviceAddCustom out name port proto blocked s).2.services = s.services ∧
      (serviceAddCustom out name port proto blocked s).2.custom = s'.custom ∧
      (serviceAddCustom out name port proto blocked s).2.nvs = (saveServiceRules out s').nvs ∧
      (s'.nvs = s.nvs ∧ s'.services = s.services) ∧
      ((∃ i, Slots.first (CustomPortRule.overlaps port proto) s.custom.rules = some i ∧
        s'.custom = s.custom.replace i
          { s.custom.rules i with blocked := blocked, proto := proto, name := .strncpy n }) ∨
      (Slots.first (CustomPortRule.overlaps port proto) s.custom.rules = none ∧
        ∃ i, Slots.first (fun r => !r.active) s.custom.rules = some i ∧
          s'.custom = s.custom.put i ⟨.strncpy n, port, proto, blocked, true⟩)) := by
  cases name with
  | none => simp [serviceAddCustom] at h
  | some n =>
    by_cases hport : port = 0
    · simp [serviceAddCustom, hport] at h
    cases ho : Slots.first (CustomPortRule.overlaps port proto) s.custom.rules with
    | some i =>
      let r := { s.custom.rules i with blocked := blocked, proto := proto, name := .strncpy n }
      refine ⟨n, { s with custom := s.custom.replace i r }, rfl, hport, ?_⟩
      simp [serviceAddCustom, hport, ho, r]
    | none =>
      cases he : Slots.first (fun r => !r.active) s.custom.rules with
      | none => simp [serviceAddCustom, hport, ho, he] at h
      | some i =>
        let r : CustomPortRule := ⟨.strncpy n, port, proto, blocked, true⟩
        refine ⟨n, { s with custom := s.custom.put i r }, rfl, hport, ?_⟩
        simp [serviceAddCustom, hport, ho, he, r]

/-- A `service_add_custom` that fails changes nothing, and has one of three reasons. -/
theorem serviceAddCustom_false {out : SaveOutcome} {name : Option CString} {port : UInt16}
    {proto : UInt8} {blocked : Bool} {s : ServiceFilter}
    (h : (serviceAddCustom out name port proto blocked s).1 = false) :
    (serviceAddCustom out name port proto blocked s).2 = s ∧
      (port = 0 ∨ name = none ∨ ∀ i, (s.custom.rules i).active = true ∧
        (s.custom.rules i).overlaps port proto = false) := by
  cases name with
  | none => exact ⟨rfl, .inr (.inl rfl)⟩
  | some n =>
    by_cases hport : port = 0
    · exact ⟨by simp [serviceAddCustom, hport], .inl hport⟩
    cases ho : Slots.first (CustomPortRule.overlaps port proto) s.custom.rules with
    | some i => simp [serviceAddCustom, hport, ho] at h
    | none =>
      cases he : Slots.first (fun r => !r.active) s.custom.rules with
      | some i => simp [serviceAddCustom, hport, ho, he] at h
      | none =>
        refine ⟨by simp [serviceAddCustom, hport, ho, he], .inr (.inr fun i => ⟨?_, ?_⟩)⟩
        · simpa using Slots.first_eq_none_iff.1 he i
        · exact Slots.first_eq_none_iff.1 ho i

/-- What makes `service_add_custom` refuse a rule. -/
theorem serviceAddCustom_refused_iff {out : SaveOutcome} {name : Option CString} {port : UInt16}
    {proto : UInt8} {blocked : Bool} {s : ServiceFilter} :
    (serviceAddCustom out name port proto blocked s).1 = false ↔
      port = 0 ∨ name = none ∨ ∀ i, (s.custom.rules i).active = true ∧
        (s.custom.rules i).overlaps port proto = false := by
  refine ⟨fun h => (serviceAddCustom_false h).2, fun h => ?_⟩
  rw [← Bool.not_eq_true]
  intro htrue
  obtain ⟨n, s', hname, hport, -, -, -, -, hslot⟩ := serviceAddCustom_true htrue
  rcases h with h | h | h
  · exact hport h
  · exact Option.some_ne_none n (hname.symm.trans h)
  · rcases hslot with ⟨i, hi, -⟩ | ⟨-, i, hi, -⟩
    · exact Bool.false_ne_true ((h i).2.symm.trans (Slots.first_eq_some_iff.1 hi).1)
    · exact Bool.false_ne_true ((Slots.eq_false_of_first hi).symm.trans (h i).1)

/-- A successful `service_remove_custom` cleared the first slot that overlaps. -/
theorem serviceRemoveCustom_true {out : SaveOutcome} {port : UInt16} {proto : UInt8}
    {s : ServiceFilter} (h : (serviceRemoveCustom out port proto s).1 = true) :
    ∃ i s', Slots.first (CustomPortRule.overlaps port proto) s.custom.rules = some i ∧
      (serviceRemoveCustom out port proto s).2.services = s.services ∧
      (serviceRemoveCustom out port proto s).2.custom = s'.custom ∧
      (serviceRemoveCustom out port proto s).2.nvs = (saveServiceRules out s').nvs ∧
      (s'.nvs = s.nvs ∧ s'.services = s.services) ∧
      s'.custom = .recount (Function.update s.custom.rules i .zero) := by
  rw [serviceRemoveCustom, removable_fun_eq] at h ⊢
  cases hi : Slots.first (CustomPortRule.overlaps port proto) s.custom.rules with
  | none => simp [hi] at h
  | some i =>
    let s₀ := s.log (.fmt "Custom port rule removed: %s port=%u"
      [.str (s.custom.rules i).name.str, .int port.toNat])
    let rules := Function.update s.custom.rules i .zero
    refine ⟨i, { s₀ with custom := .recount rules }, rfl, ?_⟩
    simp [s₀, rules]

/-- A `service_remove_custom` that fails changes nothing, and nothing overlapped. -/
theorem serviceRemoveCustom_false {out : SaveOutcome} {port : UInt16} {proto : UInt8}
    {s : ServiceFilter} (h : (serviceRemoveCustom out port proto s).1 = false) :
    (serviceRemoveCustom out port proto s).2 = s ∧
      ∀ i, (s.custom.rules i).overlaps port proto = false := by
  rw [serviceRemoveCustom, removable_fun_eq] at h ⊢
  cases hi : Slots.first (CustomPortRule.overlaps port proto) s.custom.rules with
  | some i => simp [hi] at h
  | none => exact ⟨rfl, Slots.first_eq_none_iff.1 hi⟩

/-- What makes `service_remove_custom` refuse. -/
theorem serviceRemoveCustom_refused_iff {out : SaveOutcome} {port : UInt16} {proto : UInt8}
    {s : ServiceFilter} :
    (serviceRemoveCustom out port proto s).1 = false ↔
      ∀ i, (s.custom.rules i).overlaps port proto = false := by
  refine ⟨fun h => (serviceRemoveCustom_false h).2, fun h => ?_⟩
  rw [← Bool.not_eq_true]
  intro htrue
  obtain ⟨i, s', hi, -⟩ := serviceRemoveCustom_true htrue
  exact Bool.false_ne_true ((h i).symm.trans (Slots.first_eq_some_iff.1 hi).1)

end EspFirewall
