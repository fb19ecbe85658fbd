import EspFirewall.General.LastWrite
import EspFirewall.ServiceFilter.Persist

/-!
# The built-in services (`service_filter.c`)

The sixteen built-in services have sixteen different ports and are for one protocol each, so at most
one of them is about a packet, and its `blocked` flag is all that can change of it.

* `serviceSetBlocked_decides`: setting the flag changes the decision on the packets of that service
  that no custom rule decides, and on no others.
* `decision_from_history`: along every run, reboots included, the flag is what it was set to last,
  so that the decision on a packet that no custom rule is about can be read off the calls alone.
-/

set_option autoImplicit false

namespace EspFirewall

open CLang

/-! ## Which service a packet belongs to -/

/-- The packets that a built-in service is about. -/
def ServesPort (i : Fin SVC_BUILTIN_COUNT) (proto : UInt8) (port : UInt16) : Prop :=
  (builtinServices i).proto = proto ∧ (builtinServices i).port = port

instance (i : Fin SVC_BUILTIN_COUNT) (proto : UInt8) (port : UInt16) :
    Decidable (ServesPort i proto port) := inferInstanceAs (Decidable (_ ∧ _))

theorem builtinServices_active (i : Fin SVC_BUILTIN_COUNT) :
    (builtinServices i).active = true ∧ (builtinServices i).proto ≠ SVC_PROTO_BOTH := by
  revert i
  decide

/-- The ports of the built-in services are different. -/
theorem builtinServices_port_injective :
    Function.Injective fun i => (builtinServices i).port := by
  intro i j
  revert i j
  decide

theorem builtin_decides_iff {i : Fin SVC_BUILTIN_COUNT} {proto : UInt8} {port : UInt16} :
    (builtinServices i).decides proto port = true ↔ ServesPort i proto port := by
  obtain ⟨hactive, hboth⟩ := builtinServices_active i
  rw [ServiceRule.decides, protoMatches, hactive, Bool.true_and,
    if_neg (mt beq_iff_eq.1 hboth), Bool.and_eq_true, beq_iff_eq, beq_iff_eq, and_comm]
  rfl

/-- At most one service is about a packet. -/
theorem ServesPort.unique {i j : Fin SVC_BUILTIN_COUNT} {proto : UInt8} {port : UInt16}
    (hi : ServesPort i proto port) (hj : ServesPort j proto port) : i = j :=
  builtinServices_port_injective (hi.2.trans hj.2.symm)

/-- The built-in services are for TCP and UDP. -/
theorem ServesPort.transport {i : Fin SVC_BUILTIN_COUNT} {proto : UInt8} {port : UInt16}
    (h : ServesPort i proto port) : proto = SVC_PROTO_TCP ∨ proto = SVC_PROTO_UDP := by
  have hall : ∀ i, (builtinServices i).proto = 6 ∨ (builtinServices i).proto = 17 := by decide
  exact h.1 ▸ hall i

/-- The flags do not matter for which service decides. -/
theorem BuiltIn.decides_eq {services : Services} (h : BuiltIn services)
    (i : Fin SVC_BUILTIN_COUNT) (proto : UInt8) (port : UInt16) :
    (services i).decides proto port = (builtinServices i).decides proto port := by
  rw [h i]
  rfl

/-- **What the built-in services decide** is the flag of the one service that the packet belongs
to. -/
theorem BuiltIn.verdict {services : Services} (h : BuiltIn services) {i : Fin SVC_BUILTIN_COUNT}
    {proto : UInt8} {port : UInt16} (hi : ServesPort i proto port) :
    builtinVerdict services proto port = some (!(services i).blocked) := by
  refine Slots.lookup_of_first (Slots.first_eq_some_iff.2 ⟨?_, fun j hj => ?_⟩)
  · rw [h.decides_eq, builtin_decides_iff]
    exact hi
  · rw [h.decides_eq, ← Bool.not_eq_true, builtin_decides_iff]
    exact fun hserves => hj.ne (hserves.unique hi)

theorem BuiltIn.verdict_none {services : Services} (h : BuiltIn services) {proto : UInt8}
    {port : UInt16} (hnone : ∀ i, ¬ ServesPort i proto port) :
    builtinVerdict services proto port = none := by
  refine Slots.lookup_eq_none_iff.2 fun i => ?_
  rw [h.decides_eq, ← Bool.not_eq_true, builtin_decides_iff]
  exact hnone i

/-! ## The rest of the table never changes -/

theorem serviceAddCustom_services (out : SaveOutcome) (name : Option CString) (port : UInt16)
    (proto : UInt8) (blocked : Bool) (s : ServiceFilter) :
    (serviceAddCustom out name port proto blocked s).2.services = s.services := by
  cases hok : (serviceAddCustom out name port proto blocked s).1 with
  | false => rw [(serviceAddCustom_false hok).1]
  | true =>
    obtain ⟨-, -, -, -, hservices, -⟩ := serviceAddCustom_true hok
    exact hservices

theorem serviceRemoveCustom_services (out : SaveOutcome) (port : UInt16) (proto : UInt8)
    (s : ServiceFilter) : (serviceRemoveCustom out port proto s).2.services = s.services := by
  cases hok : (serviceRemoveCustom out port proto s).1 with
  | false => rw [(serviceRemoveCustom_false hok).1]
  | true =>
    obtain ⟨-, -, -, hservices, -⟩ := serviceRemoveCustom_true hok
    exact hservices

/-- What `service_set_blocked` does to the table. -/
theorem serviceSetBlocked_services (out : SaveOutcome) (i : Fin SVC_BUILTIN_COUNT) (blocked : Bool)
    (s : ServiceFilter) :
    (serviceSetBlocked out i blocked s).services =
      Function.update s.services i { s.services i with blocked := blocked } := by
  rw [serviceSetBlocked, dif_pos i.isLt, log_services, saveServiceRules_services]

/-- Other numbers are no services. -/
theorem serviceSetBlocked_of_le (out : SaveOutcome) {id : ℕ} (h : SVC_BUILTIN_COUNT ≤ id)
    (blocked : Bool) (s : ServiceFilter) : serviceSetBlocked out id blocked s = s := by
  rw [serviceSetBlocked, dif_neg (Nat.not_lt.2 h)]

/-- A mask changes flags only. -/
theorem builtIn_applyMask (mask : UInt32) : BuiltIn (applyMask mask builtinServices) :=
  fun _ => rfl

theorem builtIn_boot (out : LoadOutcome) (nvs : ServiceNvs) :
    BuiltIn (bootServiceFilter out nvs).services := by
  rw [bootServiceFilter, initServiceFilter, log_services, loadServiceRules]
  split
  · dsimp only
    cases out.readMask with
    | false => exact builtIn_builtinServices
    | true =>
      cases nvs.svcBlocked with
      | none => exact builtIn_builtinServices
      | some mask => exact builtIn_applyMask mask
  · exact builtIn_builtinServices

theorem ServiceFilter.builtIn_step (s : ServiceFilter) (op : ServiceOp) (hs : BuiltIn s.services) :
    BuiltIn (s.step op).services := by
  cases op with
  | setBlocked out id blocked =>
    rw [step]
    by_cases h : id < SVC_BUILTIN_COUNT
    · rw [show id = (⟨id, h⟩ : Fin SVC_BUILTIN_COUNT).val from rfl, serviceSetBlocked_services]
      exact hs.update ⟨id, h⟩ blocked
    · rwa [serviceSetBlocked_of_le out (Nat.not_lt.1 h)]
  | addCustom out name port proto blocked =>
    rwa [step, serviceAddCustom_services]
  | removeCustom out port proto =>
    rwa [step, serviceRemoveCustom_services]
  | reboot out => exact builtIn_boot out s.nvs

/-- In every reachable state the services are the built-in ones but for their flags. -/
theorem ServiceFilter.Reachable.builtIn {s : ServiceFilter} (h : s.Reachable) :
    BuiltIn s.services := by
  refine StepSystem.Reachable.invariant ?_ ServiceFilter.builtIn_step h
  rintro s ⟨out, rfl⟩
  exact builtIn_boot out .empty

/-! ## Setting a flag -/

/-- **What `service_set_blocked` changes**: the decision on the packets of the service that no
custom rule is about, and no other decision. -/
theorem serviceSetBlocked_decides {s : ServiceFilter} (hs : s.Reachable) (out : SaveOutcome)
    (i : Fin SVC_BUILTIN_COUNT) (blocked : Bool) (proto : UInt8) (port : UInt16) :
    serviceIsPortAllowed (serviceSetBlocked out i blocked s) proto port =
      if ServesPort i proto port ∧ customVerdict s.custom.rules proto port = none then !blocked
      else serviceIsPortAllowed s proto port := by
  have hcustom := serviceSetBlocked_custom out i blocked s
  have hnext : (serviceSetBlocked out i blocked s).Reachable := hs.next (.setBlocked out i blocked)
  have hbuiltIn := hs.builtIn
  rw [hnext.allowed_eq, hs.allowed_eq, portPolicy, portPolicy, hcustom]
  rcases hverdict : customVerdict s.custom.rules proto port with _ | v
  · by_cases hserves : ServesPort i proto port
    · rw [if_pos ⟨hserves, rfl⟩, hnext.builtIn.verdict hserves, serviceSetBlocked_services,
        Function.update_self]
      rfl
    · -- the packet belongs to another service, whose flag stays, or to none
      rw [if_neg fun h => hserves h.1]
      by_cases hother : ∃ j, ServesPort j proto port
      · obtain ⟨j, hj⟩ := hother
        have hji : j ≠ i := fun h => hserves (h ▸ hj)
        rw [hnext.builtIn.verdict hj, hbuiltIn.verdict hj, serviceSetBlocked_services,
          Function.update_of_ne hji]
      · rw [not_exists] at hother
        rw [hnext.builtIn.verdict_none hother, hbuiltIn.verdict_none hother]
  · rw [if_neg fun h => Option.some_ne_none v h.2, Option.some_or, Option.some_or]

/-! ## Runs -/

/-- What a call writes to the flag of a service. -/
def ServiceCall.flag (i : Fin SVC_BUILTIN_COUNT) : ServiceCall → Option Bool
  | .setBlocked id blocked => if id = i.val then some blocked else none
  | _ => none

/-- What the calls of a run have set the flag of a service to last; none is set at first. -/
def lastFlag (i : Fin SVC_BUILTIN_COUNT) (cs : List ServiceCall) : Bool :=
  LastWrite.value false (cs.filterMap (ServiceCall.flag i))

namespace ServiceFilter

/-- **A call writes the flag it is for**, and leaves the others alone; so does a reboot. -/
theorem flag_call (s : ServiceFilter) (c : ServiceCall) (i : Fin SVC_BUILTIN_COUNT) (hs : s.Saved) :
    ((s.call c).services i).blocked = (c.flag i).getD (s.services i).blocked := by
  cases c with
  | setBlocked id blocked =>
    rw [call, ServiceCall.flag]
    by_cases h : id < SVC_BUILTIN_COUNT
    · rw [show id = (⟨id, h⟩ : Fin SVC_BUILTIN_COUNT).val from rfl, serviceSetBlocked_services]
      by_cases hi : (⟨id, h⟩ : Fin SVC_BUILTIN_COUNT) = i
      · subst hi
        rw [Function.update_self, if_pos rfl]
        rfl
      · rw [Function.update_of_ne (Ne.symm hi), if_neg fun heq => hi (Fin.ext heq)]
        rfl
    · have hne : id ≠ i.val := fun heq => h (lt_of_eq_of_lt heq i.isLt)
      rw [serviceSetBlocked_of_le .ok (Nat.not_lt.1 h), if_neg hne]
      rfl
  | addCustom name port proto blocked =>
    rw [call, serviceAddCustom_services]
    rfl
  | removeCustom port proto =>
    rw [call, serviceRemoveCustom_services]
    rfl
  | reboot =>
    rw [call, hs.reboot.1]
    rfl

/-- The flags behind a run. -/
theorem flag_run (cs : List ServiceCall) (i : Fin SVC_BUILTIN_COUNT) :
    ((StepSystem.run call firstBoot cs).services i).blocked = lastFlag i cs := by
  have hfirst : (firstBoot.services i).blocked = false := by
    rw [firstBoot, (bootServiceFilter_ok .empty).1]
    revert i
    decide
  have hrun := LastWrite.view_run_filterMap (fun s : ServiceFilter => (s.services i).blocked)
    saved_call (fun s c hs => flag_call s c i hs) cs saved_firstBoot
  rwa [hfirst] at hrun

end ServiceFilter

/-- **The decision on a packet, from the history.**  Behind every run of calls and reboots from the
first boot on, the flag of a service is what it was set to last.  A packet that no custom rule is
about is decided by that flag of the one service it belongs to, and allowed if it belongs to
none. -/
theorem decision_from_history (cs : List ServiceCall) (proto : UInt8) (port : UInt16) :
    let s := StepSystem.run ServiceFilter.call ServiceFilter.firstBoot cs
    (∀ i, (s.services i).blocked = lastFlag i cs) ∧
      (customVerdict s.custom.rules proto port = none →
        (∀ i, ServesPort i proto port → serviceIsPortAllowed s proto port = !lastFlag i cs) ∧
          ((∀ i, ¬ ServesPort i proto port) → serviceIsPortAllowed s proto port = true)) := by
  have hsaved : StepSystem.EveryState ServiceFilter.call ServiceFilter.Saved
      ServiceFilter.firstBoot cs :=
    StepSystem.everyState_of_invariant (fun s c (_ : True) => ServiceFilter.saved_call s c)
      (.of_forall fun _ _ => trivial) ServiceFilter.saved_firstBoot
  have hlast := hsaved.last
  refine ⟨ServiceFilter.flag_run cs, fun hcustom => ?_⟩
  have hpolicy := serviceIsPortAllowed_eq_policy hlast.countExact.below proto port
  rw [hpolicy, portPolicy, hcustom, Option.none_or]
  refine ⟨fun i hi => ?_, fun hnone => ?_⟩
  · rw [hlast.builtIn.verdict hi, ServiceFilter.flag_run cs i]
    rfl
  · rw [hlast.builtIn.verdict_none hnone]
    rfl

end EspFirewall
