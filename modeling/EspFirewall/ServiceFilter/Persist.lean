import EspFirewall.ServiceFilter.Reachable

/-!
# Whether the service rules survive a reboot

Every call that changes a rule ends with `save_service_rules`, so as long as no NVS call fails the
two keys in NVS describe the two tables in memory: that is `ServiceFilter.Saved`.  Two things have
to be recovered that are not stored as they are.  The `blocked` flags come back out of the mask they
were packed into (`applyMask_blockedMask`), and the rest of the built-in table never changes.  The
count of the custom rules is computed anew, and gives the old count because that was exact
(`CustomTable.CountExact.eq_recount`).

So a reboot finds the tables as they were, at every point of every run:
`service_rules_survive_reboot`.
-/

set_option autoImplicit false

namespace EspFirewall

open CLang

/-! ## Calls whose NVS calls succeed -/

/-- A call of the service filter from outside. -/
inductive ServiceCall
  | setBlocked (id : ℕ) (blocked : Bool)
  | addCustom (name : Option CString) (port : UInt16) (proto : UInt8) (blocked : Bool)
  | removeCustom (port : UInt16) (proto : UInt8)
  | reboot

namespace ServiceFilter

/-- What a reboot leads to. -/
def reboot (s : ServiceFilter) : ServiceFilter := bootServiceFilter .ok s.nvs

/-- The state after a call, when every NVS call succeeds. -/
def call (s : ServiceFilter) : ServiceCall → ServiceFilter
  | .setBlocked id blocked => serviceSetBlocked .ok id blocked s
  | .addCustom name port proto blocked => (serviceAddCustom .ok name port proto blocked s).2
  | .removeCustom port proto => (serviceRemoveCustom .ok port proto s).2
  | .reboot => s.reboot

/-- The first boot of a device: nothing in NVS yet. -/
def firstBoot : ServiceFilter := bootServiceFilter .ok .empty

/-- A reboot changes nothing that matters: the flags of the built-in services, the slots of the
custom rules and their count, and the decision on every packet are the same. -/
def SurvivesReboot (s : ServiceFilter) : Prop :=
  (∀ i, (s.reboot.services i).blocked = (s.services i).blocked) ∧
    s.reboot.custom.rules = s.custom.rules ∧ s.reboot.custom.count = s.custom.count ∧
    ∀ proto port, serviceIsPortAllowed s.reboot proto port = serviceIsPortAllowed s proto port

end ServiceFilter

/-! ## What is not stored as it is -/

/-- The services are the built-in ones but for their `blocked` flags. -/
def BuiltIn (services : Services) : Prop :=
  ∀ i, services i = { builtinServices i with blocked := (services i).blocked }

theorem builtIn_builtinServices : BuiltIn builtinServices := fun _ => rfl

theorem BuiltIn.update {services : Services} (h : BuiltIn services) (i : Fin SVC_BUILTIN_COUNT)
    (blocked : Bool) :
    BuiltIn (Function.update services i { services i with blocked := blocked }) := by
  rw [BuiltIn, Function.forall_update_iff services fun j r =>
    r = { builtinServices j with blocked := r.blocked }]
  refine ⟨?_, fun j _ => h j⟩
  rw [h i]

/-- **The mask keeps the flags.** -/
theorem applyMask_blockedMask {services : Services} (h : BuiltIn services) :
    applyMask (blockedMask services) builtinServices = services := by
  funext i
  rw [applyMask, blockedMask, BitMask.bit_pack (by decide)]
  exact (h i).symm

/-- **The recomputed count is the old one** when that was exact. -/
theorem CustomTable.CountExact.eq_recount {t : CustomTable} (h : t.CountExact) :
    t = .recount t.rules := by
  have hle : Slots.highWater CustomPortRule.active t.rules ≤ t.count := by
    rcases Nat.eq_zero_or_pos (Slots.highWater CustomPortRule.active t.rules) with h0 | hpos
    · rw [h0]
      exact Nat.zero_le _
    · obtain ⟨i, hi, hactive⟩ := Slots.exists_of_highWater_pos hpos
      have := h.below i hactive
      omega
  have hge : t.count ≤ Slots.highWater CustomPortRule.active t.rules := by
    rcases Nat.eq_zero_or_pos t.count with h0 | hpos
    · rw [h0]
      exact Nat.zero_le _
    · obtain ⟨i, hi, hactive⟩ := h.top hpos
      have hlt : i.val < Slots.highWater CustomPortRule.active t.rules :=
        Slots.lt_highWater hactive
      omega
  obtain ⟨rules, count, hcount⟩ := t
  obtain rfl : count = Slots.highWater CustomPortRule.active rules := Nat.le_antisymm hge hle
  rfl

/-! ## Memory and NVS -/

/-- NVS describes the tables, or there is nothing in it and they are as after the first boot. -/
structure ServiceFilter.Saved (s : ServiceFilter) : Prop where
  builtIn : BuiltIn s.services
  countExact : s.custom.CountExact
  mask : s.nvs.svcBlocked = some (blockedMask s.services) ∨
    (s.nvs.svcBlocked = none ∧ s.services = builtinServices)
  rules : s.nvs.svcCustom = some s.custom.rules ∨
    (s.nvs.svcCustom = none ∧ s.custom = .zero)

/-- What a boot finds when every NVS call succeeds. -/
theorem bootServiceFilter_ok (nvs : ServiceNvs) :
    (bootServiceFilter .ok nvs).services =
        (nvs.svcBlocked.elim builtinServices fun mask => applyMask mask builtinServices) ∧
      (bootServiceFilter .ok nvs).custom = nvs.svcCustom.elim .zero .recount ∧
      (bootServiceFilter .ok nvs).nvs = nvs := by
  obtain ⟨_ | mask, _ | rules⟩ := nvs <;> exact ⟨rfl, rfl, rfl⟩

/-- **What was saved is found again.** -/
theorem ServiceFilter.Saved.reboot {s : ServiceFilter} (h : s.Saved) :
    s.reboot.services = s.services ∧ s.reboot.custom = s.custom ∧ s.reboot.nvs = s.nvs := by
  obtain ⟨hservices, hcustom, hnvs⟩ := bootServiceFilter_ok s.nvs
  refine ⟨hservices.trans ?_, hcustom.trans ?_, hnvs⟩
  · rcases h.mask with hmask | ⟨hnone, hdefault⟩
    · rw [hmask]
      exact applyMask_blockedMask h.builtIn
    · rw [hnone, hdefault]
      rfl
  · rcases h.rules with hrules | ⟨hnone, hzero⟩
    · rw [hrules]
      exact h.countExact.eq_recount.symm
    · rw [hnone, hzero]
      rfl

theorem ServiceFilter.Saved.survivesReboot {s : ServiceFilter} (h : s.Saved) :
    s.SurvivesReboot := by
  obtain ⟨hservices, hcustom, -⟩ := h.reboot
  refine ⟨fun i => by rw [hservices], by rw [hcustom], by rw [hcustom], fun proto port => ?_⟩
  simp only [serviceIsPortAllowed, hservices, hcustom]

/-- A save that succeeds writes both keys. -/
theorem saveServiceRules_ok_nvs (s : ServiceFilter) : (saveServiceRules .ok s).nvs =
    ⟨some (blockedMask s.services), some s.custom.rules⟩ := rfl

/-- A state just saved. -/
theorem ServiceFilter.Saved.of_save {s s' : ServiceFilter} (hbuiltIn : BuiltIn s.services)
    (hexact : s.custom.CountExact) (hservices : s'.services = s.services)
    (hcustom : s'.custom = s.custom) (hnvs : s'.nvs = (saveServiceRules .ok s).nvs) :
    s'.Saved := by
  rw [saveServiceRules_ok_nvs] at hnvs
  refine ⟨hservices ▸ hbuiltIn, hcustom ▸ hexact, .inl ?_, .inl ?_⟩
  · rw [hnvs, hservices]
  · rw [hnvs, hcustom]

theorem ServiceFilter.Saved.setBlocked {s : ServiceFilter} (hs : s.Saved) (id : ℕ)
    (blocked : Bool) : (serviceSetBlocked .ok id blocked s).Saved := by
  rw [serviceSetBlocked]
  split
  · next h =>
    let r : ServiceRule := { s.services ⟨id, h⟩ with blocked := blocked }
    let s' : ServiceFilter := { s with services := Function.update s.services ⟨id, h⟩ r }
    refine .of_save (s := s') (hs.builtIn.update ⟨id, h⟩ blocked) hs.countExact ?_ ?_ ?_
    · rw [log_services, saveServiceRules_services]
    · rw [log_custom, saveServiceRules_custom]
    · rw [log_nvs]
  · exact hs

theorem ServiceFilter.Saved.addCustom {s : ServiceFilter} (hs : s.Saved)
    (name : Option CString) (port : UInt16) (proto : UInt8) (blocked : Bool) :
    (serviceAddCustom .ok name port proto blocked s).2.Saved := by
  rcases hok : (serviceAddCustom .ok name port proto blocked s).1 with _ | _
  · rw [(serviceAddCustom_false hok).1]
    exact hs
  · obtain ⟨n, s', -, -, hservices, hcustom, hnvs, ⟨-, hkept⟩, hcase⟩ := serviceAddCustom_true hok
    have hexact : s'.custom.CountExact := by
      rcases hcase with ⟨i, -, hnew⟩ | ⟨-, i, -, hnew⟩
      · rw [hnew]
        exact hs.countExact.replace rfl
      · rw [hnew]
        exact hs.countExact.put rfl
    exact .of_save (hkept ▸ hs.builtIn) hexact (hservices.trans hkept.symm) hcustom hnvs

theorem ServiceFilter.Saved.removeCustom {s : ServiceFilter} (hs : s.Saved) (port : UInt16)
    (proto : UInt8) : (serviceRemoveCustom .ok port proto s).2.Saved := by
  rcases hok : (serviceRemoveCustom .ok port proto s).1 with _ | _
  · rw [(serviceRemoveCustom_false hok).1]
    exact hs
  · obtain ⟨i, s', -, hservices, hcustom, hnvs, ⟨-, hkept⟩, hnew⟩ := serviceRemoveCustom_true hok
    have hexact : s'.custom.CountExact := by
      rw [hnew]
      exact CustomTable.recount_countExact _
    exact .of_save (hkept ▸ hs.builtIn) hexact (hservices.trans hkept.symm) hcustom hnvs

/-- A reboot finds what was saved, and leaves it in NVS. -/
theorem ServiceFilter.Saved.saved_reboot {s : ServiceFilter} (hs : s.Saved) : s.reboot.Saved := by
  obtain ⟨hservices, hcustom, hnvs⟩ := hs.reboot
  refine ⟨?_, ?_, ?_, ?_⟩
  · rw [hservices]
    exact hs.builtIn
  · rw [hcustom]
    exact hs.countExact
  · rw [hnvs, hservices]
    exact hs.mask
  · rw [hnvs, hcustom]
    exact hs.rules

/-- **Every call keeps memory and NVS in step.** -/
theorem ServiceFilter.saved_call (s : ServiceFilter) (c : ServiceCall) (hs : s.Saved) :
    (s.call c).Saved := by
  rcases c with ⟨id, blocked⟩ | ⟨name, port, proto, blocked⟩ | ⟨port, proto⟩ | _
  · exact hs.setBlocked id blocked
  · exact hs.addCustom name port proto blocked
  · exact hs.removeCustom port proto
  · exact hs.saved_reboot

theorem ServiceFilter.saved_firstBoot : firstBoot.Saved := by
  obtain ⟨hservices, hcustom, hnvs⟩ := bootServiceFilter_ok .empty
  refine ⟨?_, ?_, .inr ⟨?_, hservices⟩, .inr ⟨?_, hcustom⟩⟩
  · rw [firstBoot, hservices]
    exact builtIn_builtinServices
  · rw [firstBoot, hcustom]
    exact CustomTable.zero_countExact
  · rw [firstBoot, hnvs]
    rfl
  · rw [firstBoot, hnvs]
    rfl

/-- **The service rules survive a reboot at every point of every run** from the first boot on, with
every NVS call succeeding. -/
theorem service_rules_survive_reboot (cs : List ServiceCall) :
    StepSystem.EveryState ServiceFilter.call ServiceFilter.SurvivesReboot ServiceFilter.firstBoot
      cs := by
  have hsaved : StepSystem.EveryState ServiceFilter.call ServiceFilter.Saved
      ServiceFilter.firstBoot cs :=
    StepSystem.everyState_of_invariant (fun s c (_ : True) => ServiceFilter.saved_call s c)
      (.of_forall fun _ _ => trivial) ServiceFilter.saved_firstBoot
  exact hsaved.mono fun _ => ServiceFilter.Saved.survivesReboot

end EspFirewall
