import EspFirewall.ServiceFilter.Reachable

/-!
# Looking at the slots below the count (`service_filter.c`)

`service_add_custom` and `service_remove_custom` look at all the slots and leave holes, and
`service_is_port_allowed` stops at `g_custom_rule_count`.  `Reachable` has the runs of the firmware,
whose handlers choose the protocols and which calls `init_service_filter` once.  Here the public
functions are called in any order, with any arguments and over any NVS, and `scan_used_slots` says
that stopping at the count still is enough.
-/

set_option autoImplicit false

namespace EspFirewall

open CLang

/-- A call of a public function, with what its NVS calls return. -/
inductive FilterCall
  | init (out : LoadOutcome)
  | setBlocked (out : SaveOutcome) (id : ℕ) (blocked : Bool)
  | addCustom (out : SaveOutcome) (name : Option CString) (port : UInt16) (proto : UInt8)
      (blocked : Bool)
  | removeCustom (out : SaveOutcome) (port : UInt16) (proto : UInt8)

namespace ServiceFilter

/-- One call. -/
def afterCall (s : ServiceFilter) : FilterCall → ServiceFilter
  | .init out => initServiceFilter out s
  | .setBlocked out id blocked => serviceSetBlocked out id blocked s
  | .addCustom out name port proto blocked => (serviceAddCustom out name port proto blocked s).2
  | .removeCustom out port proto => (serviceRemoveCustom out port proto s).2

/-- The static initialisers, over what NVS holds. -/
def PowerOn (s : ServiceFilter) : Prop := ∃ nvs, s = ⟨builtinServices, .zero, nvs, []⟩

/-- The filter with a count that covers all the slots. -/
def countAll (s : ServiceFilter) : ServiceFilter :=
  { s with custom := ⟨s.custom.rules, MAX_CUSTOM_PORT_RULES, Nat.le_refl _⟩ }

end ServiceFilter

/-! ## Each call keeps the count exact -/

section

variable {s : ServiceFilter}

/-- What `init_service_filter` leaves of the rules does not depend on those before. -/
theorem initServiceFilter_countExact (out : LoadOutcome) (s : ServiceFilter) :
    (initServiceFilter out s).custom.CountExact := by
  obtain ⟨-, hzero | ⟨rules, -, hload⟩⟩ := initServiceFilter_custom out s
  · rw [hzero]
    exact CustomTable.zero_countExact
  · rw [hload]
    exact CustomTable.recount_countExact rules

theorem serviceAddCustom_countExact (h : s.custom.CountExact) (out : SaveOutcome)
    (name : Option CString) (port : UInt16) (proto : UInt8) (blocked : Bool) :
    (serviceAddCustom out name port proto blocked s).2.custom.CountExact := by
  cases hok : (serviceAddCustom out name port proto blocked s).1 with
  | false =>
    rw [(serviceAddCustom_false hok).1]
    exact h
  | true =>
    obtain ⟨n, s', -, -, -, hcustom, -, -, ⟨i, -, hs'⟩ | ⟨-, i, -, hs'⟩⟩ :=
      serviceAddCustom_true hok
    · rw [hcustom, hs']
      exact h.replace rfl
    · rw [hcustom, hs']
      exact h.put rfl

theorem serviceRemoveCustom_countExact (h : s.custom.CountExact) (out : SaveOutcome)
    (port : UInt16) (proto : UInt8) :
    (serviceRemoveCustom out port proto s).2.custom.CountExact := by
  cases hok : (serviceRemoveCustom out port proto s).1 with
  | false =>
    rw [(serviceRemoveCustom_false hok).1]
    exact h
  | true =>
    obtain ⟨i, s', -, -, hcustom, -, -, hs'⟩ := serviceRemoveCustom_true hok
    rw [hcustom, hs']
    exact CustomTable.recount_countExact _

/-- **Every call keeps the count exact.** -/
theorem ServiceFilter.afterCall_countExact (h : s.custom.CountExact) (c : FilterCall) :
    (s.afterCall c).custom.CountExact := by
  cases c with
  | init out => exact initServiceFilter_countExact out s
  | setBlocked out id blocked =>
    rw [ServiceFilter.afterCall, serviceSetBlocked_custom]
    exact h
  | addCustom out name port proto blocked => exact serviceAddCustom_countExact h ..
  | removeCustom out port proto => exact serviceRemoveCustom_countExact h ..

end

/-- Where the count covers the active slots, a larger one makes no difference. -/
theorem serviceIsPortAllowed_countAll {s : ServiceFilter}
    (h : ∀ i, (s.custom.rules i).active = true → i.val < s.custom.count) (proto : UInt8)
    (port : UInt16) :
    serviceIsPortAllowed s proto port = serviceIsPortAllowed s.countAll proto port := by
  rw [serviceIsPortAllowed_eq_policy h, serviceIsPortAllowed_eq_policy fun i _ => i.isLt]
  rfl

/-- **Stopping at the count is enough**: whatever is called, every active slot is below the count,
the slot just below it is active, and the verdicts are those of a loop over all the slots. -/
theorem scan_used_slots {s : ServiceFilter}
    (hs : StepSystem.Reachable ServiceFilter.afterCall ServiceFilter.PowerOn s) :
    (∀ i, (s.custom.rules i).active = true → i.val < s.custom.count) ∧
    (0 < s.custom.count → ∃ i, i.val + 1 = s.custom.count ∧ (s.custom.rules i).active = true) ∧
    ∀ proto port,
      serviceIsPortAllowed s proto port = serviceIsPortAllowed s.countAll proto port := by
  have hstart : ∀ s, ServiceFilter.PowerOn s → s.custom.CountExact := by
    rintro s ⟨nvs, rfl⟩
    exact CustomTable.zero_countExact
  have hexact : s.custom.CountExact :=
    hs.invariant hstart fun s c h => ServiceFilter.afterCall_countExact h c
  exact ⟨hexact.below, hexact.top, fun proto port => serviceIsPortAllowed_countAll hexact.below ..⟩

/-- Two rules are added, and the first is removed. -/
def holeCalls : List FilterCall :=
  [.init .ok, .addCustom .ok (some (.lit "web")) 8080 SVC_PROTO_TCP true,
    .addCustom .ok (some (.lit "vpn")) 1194 SVC_PROTO_UDP true,
    .removeCustom .ok 8080 SVC_PROTO_TCP]

/-- The filter after these calls. -/
def holeFilter : ServiceFilter :=
  StepSystem.run ServiceFilter.afterCall ⟨builtinServices, .zero, .empty, []⟩ holeCalls

/-- The rule behind the hole still decides. -/
theorem scan_used_slots_hole : serviceIsPortAllowed holeFilter SVC_PROTO_UDP 1194 =
    serviceIsPortAllowed holeFilter.countAll SVC_PROTO_UDP 1194 :=
  (scan_used_slots (StepSystem.Reachable.run (.init ⟨.empty, rfl⟩) holeCalls)).2.2
    SVC_PROTO_UDP 1194

end EspFirewall
