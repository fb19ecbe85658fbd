import EspFirewall.ServiceFilter.Reachable

/-!
# What adding and removing a custom rule do to the policy

The four questions an administrator would ask of the custom rules, each answered for every table
the firmware can build.

* Can two active rules conflict?  Only once a rule for both protocols has been added over two
  rules for its port: `custom_rules_conflict_free_iff`.
* Does a removed rule stop having an effect?  When no second rule overlaps what was removed:
  `serviceRemoveCustom_ends_effect_iff`.
* Does an added rule have an effect, and on nothing but its port?  Always:
  `serviceAddCustom_takes_effect`.
* Does a rule for TCP leave UDP alone, and the other way round?  Unless it narrows a rule for both
  that had the last word on the other protocol: `serviceAddCustom_other_unchanged_iff`.

The three with a condition have the same cause.  Both loops stop at the first rule that overlaps,
and adding overwrites the protocol of the rule it finds.
-/

set_option autoImplicit false

namespace EspFirewall

open CLang

/-! ## The policy after a write -/

/-- A transport protocol, as a packet has it. -/
inductive Transport
  | tcp
  | udp
deriving DecidableEq

/-- The rules for one transport protocol. -/
def Transport.proto : Transport → SvcProto
  | .tcp => .tcp
  | .udp => .udp

/-- The tag of the protocol. -/
def Transport.tag (t : Transport) : UInt8 := t.proto.tag

/-- The other one. -/
def Transport.other : Transport → Transport
  | .tcp => .udp
  | .udp => .tcp

theorem Transport.tag_ne_both (t : Transport) : t.tag ≠ SVC_PROTO_BOTH := by cases t <;> decide

theorem Transport.tag_ne_other (t : Transport) : t.tag ≠ t.other.tag := by cases t <;> decide

/-- A rule for TCP, for UDP or for both is about TCP or about UDP. -/
theorem SvcProto.exists_covered (proto : SvcProto) : ∃ t : Transport, Covers proto.tag t.tag := by
  rcases proto with _ | _ | _
  · exact ⟨.tcp, .inl rfl⟩
  · exact ⟨.udp, .inl rfl⟩
  · exact ⟨.tcp, .inr rfl⟩

theorem portPolicy_update_of_false {rules : CustomRules} {services : Services}
    {i : Fin MAX_CUSTOM_PORT_RULES} {r : CustomPortRule} {p : UInt8} {port : UInt16}
    (hold : (rules i).decides p port = false) (hnew : r.decides p port = false) :
    portPolicy (Function.update rules i r) services p port =
      portPolicy rules services p port := by
  rw [portPolicy, portPolicy, customVerdict, Slots.lookup_update_of_false hold hnew, customVerdict]

theorem portPolicy_update_self {rules : CustomRules} (services : Services)
    {i : Fin MAX_CUSTOM_PORT_RULES} {r : CustomPortRule} {p : UInt8} {port : UInt16}
    (hbefore : ∀ j < i, (rules j).decides p port = false) (hnew : r.decides p port = true) :
    portPolicy (Function.update rules i r) services p port = !r.blocked := by
  rw [portPolicy, customVerdict, Slots.lookup_update_self hbefore hnew, Option.some_or,
    Option.getD_some]

theorem portPolicy_update_congr {rules : CustomRules} {services : Services}
    {i : Fin MAX_CUSTOM_PORT_RULES} {r r' : CustomPortRule} {p : UInt8} {port : UInt16}
    (h : r.decides p port = false) (h' : r'.decides p port = false) :
    portPolicy (Function.update rules i r) services p port =
      portPolicy (Function.update rules i r') services p port := by
  rw [portPolicy, portPolicy, customVerdict, customVerdict, Slots.lookup_update_congr h h']

theorem portPolicy_of_none {rules : CustomRules} {services : Services} {p : UInt8}
    {port : UInt16} (h : ∀ i, (rules i).decides p port = false) :
    portPolicy rules services p port = (builtinVerdict services p port).getD true := by
  have hnone : customVerdict rules p port = none := Slots.lookup_eq_none_iff.2 h
  rw [portPolicy, hnone, Option.none_or]

theorem zero_not_decides (p : UInt8) (port : UInt16) :
    CustomPortRule.zero.decides p port = false := not_decides_of_inactive rfl

/-- The state after a successful `service_add_custom` enforces the policy of its tables. -/
theorem ServiceFilter.Reachable.allowed_add {s : ServiceFilter} (hs : s.Reachable)
    (out : SaveOutcome) (name : Option CString) (port : UInt16) (proto : SvcProto)
    (blocked : Bool) (p : UInt8) (port' : UInt16) :
    serviceIsPortAllowed (serviceAddCustom out name port proto.tag blocked s).2 p port' =
      portPolicy (serviceAddCustom out name port proto.tag blocked s).2.custom.rules
        (serviceAddCustom out name port proto.tag blocked s).2.services p port' :=
  (hs.next (.addCustom out name port proto blocked)).allowed_eq p port'

/-- So does the state after a `service_remove_custom`. -/
theorem ServiceFilter.Reachable.allowed_remove {s : ServiceFilter} (hs : s.Reachable)
    (out : SaveOutcome) (port : UInt16) (proto : SvcProto) (p : UInt8) (port' : UInt16) :
    serviceIsPortAllowed (serviceRemoveCustom out port proto.tag s).2 p port' =
      portPolicy (serviceRemoveCustom out port proto.tag s).2.custom.rules
        (serviceRemoveCustom out port proto.tag s).2.services p port' :=
  (hs.next (.removeCustom out port proto)).allowed_eq p port'

/-! ## Conflicts -/

/-- Two rules for one port with overlapping protocols. -/
structure Conflict (r r' : CustomPortRule) : Prop where
  active : r.active = true
  active' : r'.active = true
  port : r.port = r'.port
  proto : r.proto = r'.proto ∨ r.proto = SVC_PROTO_BOTH ∨ r'.proto = SVC_PROTO_BOTH

theorem Conflict.symm {r r' : CustomPortRule} (h : Conflict r r') : Conflict r' r :=
  ⟨h.active', h.active, h.port.symm, h.proto.elim (fun e => .inl e.symm) fun e => .inr e.symm⟩

/-- No two distinct slots conflict. -/
def NoConflict (rules : CustomRules) : Prop := ∀ i j, i ≠ j → ¬ Conflict (rules i) (rules j)

/-- At most one rule decides any packet. -/
def OneDecides (rules : CustomRules) : Prop :=
  ∀ p port i j, (rules i).decides p port = true → (rules j).decides p port = true → i = j

theorem NoConflict.oneDecides {rules : CustomRules} (h : NoConflict rules) :
    OneDecides rules := by
  intro p port i j hi hj
  by_contra hij
  obtain ⟨hactive, hport, hproto⟩ := decides_iff.1 hi
  obtain ⟨hactive', hport', hproto'⟩ := decides_iff.1 hj
  refine h i j hij ⟨hactive, hactive', hport.trans hport'.symm, ?_⟩
  rcases hproto with hboth | hp
  · exact .inr (.inl hboth)
  rcases hproto' with hboth | hp'
  · exact .inr (.inr hboth)
  · exact .inl (hp.trans hp'.symm)

/-- Writing a rule that conflicts with no other slot makes no conflict. -/
theorem NoConflict.write {rules : CustomRules} (h : NoConflict rules)
    {i : Fin MAX_CUSTOM_PORT_RULES} {r : CustomPortRule}
    (hr : ∀ j, j ≠ i → ¬ Conflict r (rules j)) : NoConflict (Function.update rules i r) := by
  intro j k hjk
  by_cases hj : j = i
  · subst hj
    rw [Function.update_self, Function.update_of_ne hjk.symm]
    exact hr k hjk.symm
  · rw [Function.update_of_ne hj]
    by_cases hk : k = i
    · subst hk
      rw [Function.update_self]
      exact fun hc => hr j hj hc.symm
    · rw [Function.update_of_ne hk]
      exact h j k hjk

theorem noConflict_zero : NoConflict CustomTable.zero.rules := by
  intro i j _ hc
  exact absurd hc.active (by simp [CustomTable.zero, CustomPortRule.zero])

/-- A rule for `port` and `proto` conflicts with the rules that overlap `port` and `proto`. -/
theorem overlaps_of_conflict {r r' : CustomPortRule} (h : Conflict r r') :
    r'.overlaps r.port r.proto = true :=
  overlaps_iff.2 ⟨h.active', h.port.symm, h.proto.elim (fun e => .inl e.symm) .inr⟩

/-- A call that adds a rule for both protocols where two rules have its port already. -/
def ServiceFilter.AddsBothOverTwo (s : ServiceFilter) : ServiceOp → Prop
  | .addCustom _ (some _) port .both _ => port ≠ 0 ∧ ∃ i j, i ≠ j ∧
      ((s.custom.rules i).active = true ∧ (s.custom.rules i).port = port) ∧
      ((s.custom.rules j).active = true ∧ (s.custom.rules j).port = port)
  | _ => False

/-- Any other call keeps the rules free of conflicts. -/
theorem TableStep.noConflict {s : ServiceFilter} {op : ServiceOp} {t : CustomTable}
    (h : TableStep s op t) (hs : NoConflict s.custom.rules)
    (hsaved : ∀ rules, s.nvs.svcCustom = some rules → NoConflict rules)
    (hop : ¬ s.AddsBothOverTwo op) : NoConflict t.rules := by
  cases h with
  | keep => exact hs
  | @update _ _ port proto _ i hport hi =>
    obtain ⟨hmatch, -⟩ := Slots.first_eq_some_iff.1 hi
    obtain ⟨hactive, hiport, hiproto⟩ := overlaps_iff.1 hmatch
    refine hs.write fun j hj hc => ?_
    obtain ⟨hactive', hjport, hjproto⟩ := overlaps_iff.1 (overlaps_of_conflict hc)
    by_cases hboth : proto = .both
    · subst hboth
      exact hop ⟨hport, i, j, hj.symm, ⟨hactive, hiport⟩, hactive', hjport.trans hiport⟩
    · -- a rule for one protocol: both slots were about that protocol before
      have htag : proto.tag ≠ SVC_PROTO_BOTH := by
        rcases proto with _ | _ | _
        · decide
        · decide
        · exact absurd rfl hboth
      refine hs i j hj.symm ⟨hactive, hactive', hjport.symm, ?_⟩
      rcases hiproto with hi' | hb | hb
      · rcases hjproto with hj' | hb | hb
        · exact .inl (hi'.trans hj'.symm)
        · exact absurd hb htag
        · exact .inr (.inr hb)
      · exact absurd hb htag
      · exact .inr (.inl hb)
  | @insert _ _ port proto _ i _ hnone _ =>
    refine hs.write fun j _ hc => ?_
    have hover := overlaps_of_conflict hc
    exact absurd hover (by simp [Slots.first_eq_none_iff.1 hnone j])
  | clear => exact hs.write fun _ _ hc => absurd hc.active (by simp [CustomPortRule.zero])
  | restart => exact noConflict_zero
  | reload h => exact hsaved _ h

/-- What an add that finds an overlapping rule does. -/
theorem serviceAddCustom_update (out : SaveOutcome) (n : CString) (blocked : Bool)
    {port : UInt16} {proto : UInt8} {s : ServiceFilter} {i : Fin MAX_CUSTOM_PORT_RULES}
    (hport : port ≠ 0)
    (hi : Slots.first (CustomPortRule.overlaps port proto) s.custom.rules = some i) :
    serviceAddCustom out (some n) port proto blocked s = (true, saveServiceRules out { s with
      custom := s.custom.replace i { s.custom.rules i with
        blocked := blocked, proto := proto, name := .strncpy n } }) := by
  simp [serviceAddCustom, hport, hi]

/-- Adding a rule for both over two rules leaves one of the two beside it. -/
theorem conflict_of_addsBothOverTwo {s : ServiceFilter} {op : ServiceOp}
    (hop : s.AddsBothOverTwo op) : ¬ NoConflict (s.step op).custom.rules := by
  unfold ServiceFilter.AddsBothOverTwo at hop
  split at hop
  swap
  · exact hop.elim
  next out name port blocked =>
  obtain ⟨hport, i, j, hij, ⟨hi, hiport⟩, hj, hjport⟩ := hop
  have hover : (s.custom.rules i).overlaps port SvcProto.both.tag = true :=
    overlaps_iff.2 ⟨hi, hiport, .inr (.inl rfl)⟩
  obtain ⟨k, hk⟩ := Slots.exists_first_iff.2 ⟨i, hover⟩
  obtain ⟨hkactive, hkport, -⟩ := overlaps_iff.1 (Slots.first_eq_some_iff.1 hk).1
  rw [ServiceFilter.step, serviceAddCustom_update out name blocked hport hk,
    saveServiceRules_custom, CustomTable.replace_rules]
  intro hnone
  -- whichever of the two slots is not overwritten
  obtain ⟨m, hmk, hm, hmport⟩ : ∃ m, m ≠ k ∧ (s.custom.rules m).active = true ∧
      (s.custom.rules m).port = port := by
    by_cases hik : i = k
    · exact ⟨j, fun hjk => hij (hik.trans hjk.symm), hj, hjport⟩
    · exact ⟨i, hik, hi, hiport⟩
  refine hnone k m hmk.symm ?_
  rw [Function.update_self, Function.update_of_ne hmk]
  exact ⟨hkactive, hm, hkport.trans hmport.symm, .inr (.inl rfl)⟩

/-- The rules a reboot would find do not conflict. -/
def ServiceFilter.SavedNoConflict (s : ServiceFilter) : Prop :=
  ∀ rules, s.nvs.svcCustom = some rules → NoConflict rules

theorem ServiceFilter.savedNoConflict_step {s : ServiceFilter} {op : ServiceOp}
    (hsaved : s.SavedNoConflict) (h : NoConflict (s.step op).custom.rules) :
    (s.step op).SavedNoConflict := by
  intro rules hrules
  rcases (tableStep_step s op).2 with hold | hcur
  · exact hsaved rules (hold.symm.trans hrules)
  · rw [hcur, Option.some.injEq] at hrules
    exact hrules ▸ h

theorem noConflict_boot (out : LoadOutcome) :
    NoConflict (bootServiceFilter out .empty).custom.rules := by
  obtain ⟨-, hzero | ⟨rules, hsaved, -⟩⟩ := bootServiceFilter_custom out .empty
  · rw [hzero]
    exact noConflict_zero
  · exact nomatch hsaved

/-- **When custom rules never conflict.**  From the first boot on, through reboots and whatever
NVS calls fail, the rules of every state are free of conflicts, and at most one of them decides
any packet, exactly when no call adds a rule for both protocols over two rules for its port. -/
theorem custom_rules_conflict_free_iff (out : LoadOutcome) (ops : List ServiceOp) :
    StepSystem.EveryState ServiceFilter.step
        (fun s => NoConflict s.custom.rules ∧ OneDecides s.custom.rules)
        (bootServiceFilter out .empty) ops ↔
      StepSystem.EveryStep ServiceFilter.step (fun s op => ¬ s.AddsBothOverTwo op)
        (bootServiceFilter out .empty) ops := by
  have hboot := noConflict_boot out
  have hsaved : (bootServiceFilter out .empty).SavedNoConflict := by
    intro rules hrules
    rw [(bootServiceFilter_custom out .empty).1] at hrules
    exact nomatch hrules
  refine StepSystem.everyState_iff_everyStep' ?_ ?_ hsaved ⟨hboot, hboot.oneDecides⟩
  · intro s op hsaved hs hop
    have hnew := (tableStep_step s op).1.noConflict hs.1 hsaved hop
    exact ⟨ServiceFilter.savedNoConflict_step hsaved hnew, hnew, hnew.oneDecides⟩
  · intro s op _ _ hnext hop
    exact conflict_of_addsBothOverTwo hop hnext.1

/-- The calls that add a rule for TCP, one for UDP and one for both, all for port 80. -/
def tcpUdpBoth : List ServiceOp :=
  [.addCustom .ok (some (.lit "web")) 80 .tcp true,
   .addCustom .ok (some (.lit "quic")) 80 .udp true,
   .addCustom .ok (some (.lit "all")) 80 .both true]

/-- Rules can conflict: a rule for both, and behind it the one for UDP that it did not replace. -/
theorem custom_rules_conflict :
    ¬ StepSystem.EveryState ServiceFilter.step
      (fun s => NoConflict s.custom.rules ∧ OneDecides s.custom.rules)
      (bootServiceFilter .ok .empty) tcpUdpBoth := by
  intro h
  have hlast := h.last.1 0 1 (by decide)
  exact hlast ⟨by decide +kernel, by decide +kernel, by decide +kernel,
    .inr (.inl (by decide +kernel))⟩

/-! ## Removing a rule -/

/-- From `s` to `s'` every custom rule for `port` and `proto` has lost its effect: the built-in
services decide what it is about, and what concerns other ports is decided as before. -/
structure EndsEffect (port : UInt16) (proto : UInt8) (s s' : ServiceFilter) : Prop where
  none_decides : ∀ t : Transport, Covers proto t.tag →
    ∀ i, (s'.custom.rules i).decides t.tag port = false
  builtin_decides : ∀ t : Transport, Covers proto t.tag →
    serviceIsPortAllowed s' t.tag port = (builtinVerdict s'.services t.tag port).getD true
  other_ports : ∀ p port', port' ≠ port →
    serviceIsPortAllowed s' p port' = serviceIsPortAllowed s p port'

/-- A rule of a valid protocol that overlaps a rule for `port` and `proto` decides some packet
that such a rule is about. -/
theorem exists_decides_of_overlaps {port : UInt16} {proto q : SvcProto} {r : CustomPortRule}
    (h : r.overlaps port proto.tag = true) (hq : r.proto = q.tag) :
    ∃ t : Transport, Covers proto.tag t.tag ∧ r.decides t.tag port = true := by
  obtain ⟨hactive, hport, hproto⟩ := overlaps_iff.1 h
  rcases hproto with hsame | hboth | hboth
  · obtain ⟨t, ht⟩ := proto.exists_covered
    refine ⟨t, ht, decides_iff.2 ⟨hactive, hport, ?_⟩⟩
    rcases ht with htag | hb
    · exact .inr (hsame.trans htag.symm)
    · exact .inl (hsame.trans hb)
  · obtain ⟨t, ht⟩ := q.exists_covered
    refine ⟨t, .inr hboth, decides_iff.2 ⟨hactive, hport, ?_⟩⟩
    rcases ht with htag | hb
    · exact .inr (hq.trans htag.symm)
    · exact .inl (hq.trans hb)
  · obtain ⟨t, ht⟩ := proto.exists_covered
    exact ⟨t, ht, decides_iff.2 ⟨hactive, hport, .inl hboth⟩⟩

/-- Where every slot that overlaps is slot `i`, clearing it leaves nothing that decides. -/
theorem none_decides_of_cleared {rules : CustomRules} {i : Fin MAX_CUSTOM_PORT_RULES}
    {port : UInt16} {proto p : UInt8} (hp : Covers proto p)
    (honly : ∀ j, (rules j).overlaps port proto = true → j = i) :
    ∀ j, (Function.update rules i .zero j).decides p port = false := by
  rw [Function.forall_update_iff rules fun _ r => r.decides p port = false]
  refine ⟨zero_not_decides _ _, fun j hji => not_decides_of_not_overlaps hp ?_⟩
  rw [← Bool.not_eq_true]
  exact fun hj => hji (honly j hj)

/-- And where nothing decides any more, every slot that overlapped was slot `i`. -/
theorem WellFormed.eq_of_none_decides {rules : CustomRules} (h : WellFormed rules)
    {i : Fin MAX_CUSTOM_PORT_RULES} {port : UInt16} {proto : SvcProto}
    (hnone : ∀ t : Transport, Covers proto.tag t.tag →
      ∀ j, (Function.update rules i .zero j).decides t.tag port = false)
    {j : Fin MAX_CUSTOM_PORT_RULES} (hj : (rules j).overlaps port proto.tag = true) : j = i := by
  by_contra hji
  obtain ⟨q, hq⟩ := h.proto j (overlaps_iff.1 hj).1
  obtain ⟨t, ht, hdecides⟩ := exists_decides_of_overlaps hj hq
  have hfalse := hnone t ht j
  rw [Function.update_of_ne hji, hdecides] at hfalse
  exact Bool.false_ne_true hfalse.symm

/-- **When a removed rule loses its effect.**  In every reachable state, a successful
`service_remove_custom` ends the effect of the custom rules for the port and protocol exactly when
no two slots overlap them. -/
theorem serviceRemoveCustom_ends_effect_iff {s : ServiceFilter} (hs : s.Reachable)
    (out : SaveOutcome) (port : UInt16) (proto : SvcProto) :
    ((serviceRemoveCustom out port proto.tag s).1 = true →
        EndsEffect port proto.tag s (serviceRemoveCustom out port proto.tag s).2) ↔
      ∀ i j, (s.custom.rules i).overlaps port proto.tag = true →
        (s.custom.rules j).overlaps port proto.tag = true → i = j := by
  rcases hok : (serviceRemoveCustom out port proto.tag s).1 with _ | _
  · -- nothing to remove, so nothing overlaps
    have hfree := (serviceRemoveCustom_false hok).2
    refine iff_of_true (fun h => nomatch h) fun i _ hi _ => ?_
    exact absurd hi (by simp [hfree i])
  have hallowed := hs.allowed_remove out port proto
  obtain ⟨i, s', hfirst, hservices, hcustom, -, -, hcleared⟩ := serviceRemoveCustom_true hok
  have hrules : (serviceRemoveCustom out port proto.tag s).2.custom.rules =
      Function.update s.custom.rules i .zero := by
    rw [hcustom, hcleared, CustomTable.recount_rules]
  rw [hrules, hservices] at hallowed
  have hmatch := (Slots.first_eq_some_iff.1 hfirst).1
  constructor
  · intro hends j k hj hk
    have hnone := (hends rfl).none_decides
    rw [hrules] at hnone
    exact (hs.inv.rules.eq_of_none_decides hnone hj).trans
      (hs.inv.rules.eq_of_none_decides hnone hk).symm
  · intro honly _
    have hnone : ∀ t : Transport, Covers proto.tag t.tag →
        ∀ j, (Function.update s.custom.rules i .zero j).decides t.tag port = false :=
      fun t ht => none_decides_of_cleared ht fun j hj => honly j i hj hmatch
    refine ⟨?_, fun t ht => ?_, fun p port' hne => ?_⟩
    · rw [hrules]
      exact hnone
    · rw [hallowed, hservices]
      exact portPolicy_of_none (hnone t ht)
    · rw [hallowed, hs.allowed_eq]
      exact portPolicy_update_of_false
        (not_decides_of_ne_port (overlaps_iff.1 hmatch).2.1 hne) (zero_not_decides _ _)

/-- With one rule for port 80 the condition holds, and removing the rule ends its effect. -/
theorem serviceRemoveCustom_ends_effect_single :
    EndsEffect 80 SVC_PROTO_BOTH
      (StepSystem.run ServiceFilter.step (bootServiceFilter .ok .empty) (tcpUdpBoth.take 1))
      (serviceRemoveCustom .ok 80 SVC_PROTO_BOTH
        (StepSystem.run ServiceFilter.step (bootServiceFilter .ok .empty)
          (tcpUdpBoth.take 1))).2 :=
  (serviceRemoveCustom_ends_effect_iff (StepSystem.Reachable.run (.init ⟨.ok, rfl⟩) _) .ok 80
    .both).2 (by decide +kernel) (by decide +kernel)

/-- With a rule for TCP and one for UDP it does not: the one for UDP survives a removal that
succeeds. -/
theorem serviceRemoveCustom_leaves_rule : ¬ ∀ s : ServiceFilter, s.Reachable →
    ∀ out port (proto : SvcProto), (serviceRemoveCustom out port proto.tag s).1 = true →
      EndsEffect port proto.tag s (serviceRemoveCustom out port proto.tag s).2 := by
  intro h
  have hends := h (StepSystem.run ServiceFilter.step (bootServiceFilter .ok .empty)
    (tcpUdpBoth.take 2)) (StepSystem.Reachable.run (.init ⟨.ok, rfl⟩) _) .ok 80 .both
    (by decide +kernel)
  exact absurd (hends.none_decides .udp (.inr rfl) 1) (by decide +kernel)

/-! ## Adding a rule -/

/-- **A successful add takes effect at once and touches no other port**, and one that fails has a
reason and changes nothing, in every reachable state. -/
theorem serviceAddCustom_takes_effect {s : ServiceFilter} (hs : s.Reachable) (out : SaveOutcome)
    (name : Option CString) (port : UInt16) (proto : SvcProto) (blocked : Bool) :
    ((serviceAddCustom out name port proto.tag blocked s).1 = true →
      (∀ t : Transport, Covers proto.tag t.tag →
        serviceIsPortAllowed (serviceAddCustom out name port proto.tag blocked s).2 t.tag port =
          !blocked) ∧
      ∀ p port', port' ≠ port →
        serviceIsPortAllowed (serviceAddCustom out name port proto.tag blocked s).2 p port' =
          serviceIsPortAllowed s p port') ∧
    ((serviceAddCustom out name port proto.tag blocked s).1 = false →
      (port = 0 ∨ name = none ∨ ∀ i, (s.custom.rules i).active = true ∧
        (s.custom.rules i).overlaps port proto.tag = false) ∧
      (serviceAddCustom out name port proto.tag blocked s).2 = s) := by
  have hallowed := hs.allowed_add out name port proto blocked
  refine ⟨fun hok => ?_, fun hok => (serviceAddCustom_false hok).symm⟩
  obtain ⟨n, s', -, -, hservices, hcustom, -, -, hcase⟩ := serviceAddCustom_true hok
  rw [hcustom, hservices] at hallowed
  -- the written rule is about what it was added for, and no slot before it is
  suffices hwrite : ∃ i r, s'.custom.rules = Function.update s.custom.rules i r ∧
      (∀ j < i, (s.custom.rules j).overlaps port proto.tag = false) ∧
      r.active = true ∧ r.port = port ∧ r.proto = proto.tag ∧ r.blocked = blocked ∧
      ∀ p port', port' ≠ port → (s.custom.rules i).decides p port' = false by
    obtain ⟨i, r, hrules, hbefore, hactive, hport, hproto, rfl, hold⟩ := hwrite
    rw [hrules] at hallowed
    refine ⟨fun t ht => ?_, fun p port' hne => ?_⟩
    · rw [hallowed]
      refine portPolicy_update_self _ (fun j hj => not_decides_of_not_overlaps ht (hbefore j hj)) ?_
      exact decides_iff.2 ⟨hactive, hport, ht.elim (fun h => .inr (hproto.trans h.symm))
        fun h => .inl (hproto.trans h)⟩
    · rw [hallowed, hs.allowed_eq]
      exact portPolicy_update_of_false (hold p port' hne) (not_decides_of_ne_port hport hne)
  rcases hcase with ⟨i, hi, hnew⟩ | ⟨hnone, i, hi, hnew⟩
  · obtain ⟨hmatch, hbefore⟩ := Slots.first_eq_some_iff.1 hi
    obtain ⟨hactive, hport, -⟩ := overlaps_iff.1 hmatch
    exact ⟨i, { s.custom.rules i with blocked := blocked, proto := proto.tag, name := .strncpy n },
      by rw [hnew, CustomTable.replace_rules], hbefore, hactive, hport, rfl, rfl,
      fun p port' hne => not_decides_of_ne_port hport hne⟩
  · have hempty : (s.custom.rules i).active = false := Slots.eq_false_of_first hi
    exact ⟨i, ⟨.strncpy n, port, proto.tag, blocked, true⟩, by rw [hnew, CustomTable.put_rules],
      fun j _ => Slots.first_eq_none_iff.1 hnone j, rfl, rfl, rfl, rfl,
      fun p port' _ => not_decides_of_inactive hempty⟩

/-- The first rule added to an empty table, for example. -/
theorem serviceAddCustom_takes_effect_first :
    serviceIsPortAllowed (serviceAddCustom .ok (some (.lit "web")) 8080 SVC_PROTO_TCP true
      (bootServiceFilter .ok .empty)).2 SVC_PROTO_TCP 8080 = false :=
  ((serviceAddCustom_takes_effect (.init ⟨.ok, rfl⟩) .ok (some (.lit "web")) 8080 .tcp true).1
    (by decide +kernel)).1 .tcp (.inl rfl)

/-! ### The other transport protocol -/

/-- A rule for one transport protocol says nothing of the other. -/
theorem not_decides_other {t : Transport} {port : UInt16} {r : CustomPortRule}
    (hr : r.proto = t.tag) : r.decides t.other.tag port = false := by
  rw [← Bool.not_eq_true, decides_iff, hr]
  rintro ⟨-, -, hboth | hsame⟩
  · exact t.tag_ne_both hboth
  · exact t.tag_ne_other hsame

/-- An active rule for both has the last word on its port. -/
theorem WellFormed.policy_of_both {rules : CustomRules} (h : WellFormed rules)
    {i : Fin MAX_CUSTOM_PORT_RULES} (hactive : (rules i).active = true)
    (hboth : (rules i).proto = SVC_PROTO_BOTH) (services : Services) (p : UInt8) :
    portPolicy rules services p (rules i).port = !(rules i).blocked := by
  have hdecides : (rules i).decides p (rules i).port = true :=
    decides_iff.2 ⟨hactive, rfl, .inl hboth⟩
  have hearlier : ∀ j < i, (rules j).decides p (rules i).port = false := by
    intro j hj
    rw [← Bool.not_eq_true, decides_iff]
    rintro ⟨hjactive, hjport, -⟩
    exact h.bothFirst i j hj hactive hboth hjactive hjport
  have hself := portPolicy_update_self services hearlier hdecides
  rwa [Function.update_eq_self] at hself

/-- **When a rule for one transport protocol leaves the other alone.**  In every reachable state,
a successful add for `t` leaves the decision for the other protocol unchanged exactly when the
rule it overwrites, if there is one, is not a rule for both, or says what the rest of the table
says of the other protocol. -/
theorem serviceAddCustom_other_unchanged_iff {s : ServiceFilter} (hs : s.Reachable)
    (out : SaveOutcome) (name : CString) {port : UInt16} (hport : port ≠ 0) (t : Transport)
    (blocked : Bool) :
    ((serviceAddCustom out (some name) port t.proto.tag blocked s).1 = true →
        serviceIsPortAllowed (serviceAddCustom out (some name) port t.proto.tag blocked s).2
          t.other.tag port = serviceIsPortAllowed s t.other.tag port) ↔
      ∀ i, Slots.first (CustomPortRule.overlaps port t.tag) s.custom.rules = some i →
        (s.custom.rules i).proto = SVC_PROTO_BOTH →
          (!(s.custom.rules i).blocked) =
            portPolicy (Function.update s.custom.rules i .zero) s.services t.other.tag port := by
  have hallowed := hs.allowed_add out (some name) port t.proto blocked t.other.tag port
  rcases hfirst : Slots.first (CustomPortRule.overlaps port t.tag) s.custom.rules with _ | i
  · -- no rule to overwrite
    refine iff_of_true (fun hok => ?_) fun i hi => nomatch hi
    obtain ⟨n, s', -, -, hservices, hcustom, -, -, hcase⟩ := serviceAddCustom_true hok
    rcases hcase with ⟨i, hi, -⟩ | ⟨-, i, hi, hnew⟩
    · exact nomatch hfirst.symm.trans hi
    · have hempty : (s.custom.rules i).active = false := Slots.eq_false_of_first hi
      rw [hallowed, hs.allowed_eq, hservices, hcustom, hnew, CustomTable.put_rules]
      exact portPolicy_update_of_false (not_decides_of_inactive hempty) (not_decides_other rfl)
  obtain ⟨hmatch, hbefore⟩ := Slots.first_eq_some_iff.1 hfirst
  obtain ⟨hactive, hiport, hiproto⟩ := overlaps_iff.1 hmatch
  have hupdate := serviceAddCustom_update out name blocked hport hfirst
  rw [Transport.tag] at hupdate
  rw [hupdate] at hallowed ⊢
  rw [hallowed, hs.allowed_eq, saveServiceRules_custom, saveServiceRules_services,
    CustomTable.replace_rules]
  by_cases hboth : (s.custom.rules i).proto = SVC_PROTO_BOTH
  · -- the rule for both had the last word on the other protocol, and is narrowed
    have hold := hs.inv.rules.policy_of_both hactive hboth s.services t.other.tag
    rw [hiport] at hold
    rw [hold, portPolicy_update_congr (not_decides_other rfl) (zero_not_decides _ _)]
    constructor
    · intro h j hj _
      cases hj
      exact (h rfl).symm
    · exact fun h _ => (h i rfl hboth).symm
  · refine iff_of_true (fun _ => ?_) fun j hj hb => ?_
    · have hsame : (s.custom.rules i).proto = t.tag :=
        hiproto.elim id fun h => (h.elim (absurd · t.tag_ne_both) (absurd · hboth))
      exact portPolicy_update_of_false (not_decides_other hsame) (not_decides_other rfl)
    · cases hj
      exact absurd hb hboth

/-- A rule for UDP added beside one for TCP changes nothing for TCP. -/
theorem serviceAddCustom_other_unchanged_beside :
    serviceIsPortAllowed (serviceAddCustom .ok (some (.lit "quic")) 80 SVC_PROTO_UDP true
        (StepSystem.run ServiceFilter.step (bootServiceFilter .ok .empty)
          (tcpUdpBoth.take 1))).2 SVC_PROTO_TCP 80 =
      serviceIsPortAllowed (StepSystem.run ServiceFilter.step (bootServiceFilter .ok .empty)
        (tcpUdpBoth.take 1)) SVC_PROTO_TCP 80 :=
  (serviceAddCustom_other_unchanged_iff (StepSystem.Reachable.run (.init ⟨.ok, rfl⟩) _) .ok
    (.lit "quic") (by decide) .udp true).2 (by decide +kernel) (by decide +kernel)

/-- Blocking TCP where a rule for both blocks the port opens the port for UDP. -/
theorem serviceAddCustom_opens_other : ¬ ∀ s : ServiceFilter, s.Reachable →
    ∀ out (name : CString) port (t : Transport) blocked, port ≠ 0 →
      (serviceAddCustom out (some name) port t.proto.tag blocked s).1 = true →
        serviceIsPortAllowed (serviceAddCustom out (some name) port t.proto.tag blocked s).2
          t.other.tag port = serviceIsPortAllowed s t.other.tag port := by
  intro h
  have hsame := h (StepSystem.run ServiceFilter.step (bootServiceFilter .ok .empty)
    [.addCustom .ok (some (.lit "all")) 8080 .both true])
    (StepSystem.Reachable.run (.init ⟨.ok, rfl⟩) _) .ok (.lit "web") 8080 .tcp true (by decide)
    (by decide +kernel)
  exact absurd hsame (by decide +kernel)

end EspFirewall
