import EspFirewall.DeviceUpdates
import EspFirewall.Router

/-!
# What changes a decision of the router

The fate of a frame depends on the tables, and these on everything that has happened.  What it does
not depend on is said here by events: the few that can change it.

* `flow_decided_alike`: two frames of a flow fare alike, unless between them the router restarts or
  carries out a request about their sender, their port or their service.
* `name_decided_alike`: so do two queries for a name, unless it is a request about a domain that
  covers it.
* `device_block_in_force`, `domain_block_in_force`: what a request has blocked is blocked until a
  restart or a request that allows it.
-/

set_option autoImplicit false

namespace EspFirewall

open CLang CJson Transitions

/-! ## What an input affects -/

/-- The call can change what the rules say about a port. -/
def ServiceOp.Affects (proto : UInt8) (port : UInt16) : ServiceOp → Prop
  | .setBlocked _ id _ => ∃ i : Fin SVC_BUILTIN_COUNT, i.val = id ∧ ServesPort i proto port
  | .addCustom _ _ port' _ _ => port' = port
  | .removeCustom _ port' _ => port' = port
  | .reboot _ => True

/-- The input is about the sender of the frame, or about its port. -/
def FirewallInput.IsAbout (p : Pbuf) : FirewallInput → Prop
  | .frame _ => False
  | .event (.connect _ _ _) => False
  | .event (.disconnect _) => False
  | .event (.updateMac mac _ statusStr) =>
    mac = p.srcMac ∧ (statusStr = .lit "ALLOWED" ∨ statusStr = .lit "BLOCKED")
  | .rules (.reboot _) => True
  | .rules op => (p.proto = IP_PROTO_TCP ∨ p.proto = IP_PROTO_UDP) ∧ op.Affects p.proto p.dstPort

/-- The input can change whether the frame passes.  For frames of the admin, and those that the hook
does not look at, no input can. -/
def FirewallInput.Affects (p : Pbuf) (i : FirewallInput) : Prop :=
  Ipv4Frame p ∧ p.srcMac ≠ adminMac ∧ i.IsAbout p

/-- A step on the custom rules leaves the policy for other ports alone. -/
theorem TableStep.portPolicy_eq {s : ServiceFilter} {op : ServiceOp} {t : CustomTable}
    (h : TableStep s op t) {proto : UInt8} {port : UInt16} (hop : ¬ op.Affects proto port)
    (services : Services) :
    portPolicy t.rules services proto port = portPolicy s.custom.rules services proto port := by
  cases h with
  | keep => rfl
  | update hport hi =>
    obtain ⟨-, hrule, -⟩ := overlaps_iff.1 (Slots.first_eq_some_iff.1 hi).1
    exact portPolicy_update_of_false (not_decides_of_ne_port hrule (Ne.symm hop))
      (not_decides_of_ne_port hrule (Ne.symm hop))
  | insert hport hnone hi =>
    exact portPolicy_update_of_false (not_decides_of_inactive (Slots.eq_false_of_first hi))
      (not_decides_of_ne_port rfl (Ne.symm hop))
  | clear hi =>
    obtain ⟨-, hrule, -⟩ := overlaps_iff.1 (Slots.first_eq_some_iff.1 hi).1
    exact portPolicy_update_of_false (not_decides_of_ne_port hrule (Ne.symm hop))
      (zero_not_decides proto port)
  | restart => exact absurd trivial hop
  | reload => exact absurd trivial hop

/-- **A call of the service filter leaves the policy for other ports alone.** -/
theorem ServiceFilter.Reachable.portPolicy_step {s : ServiceFilter} (hs : s.Reachable)
    {op : ServiceOp} {proto : UInt8} {port : UInt16} (hop : ¬ op.Affects proto port) :
    portPolicy (s.step op).custom.rules (s.step op).services proto port =
      portPolicy s.custom.rules s.services proto port := by
  cases op with
  | setBlocked out id blocked =>
    by_cases hid : id < SVC_BUILTIN_COUNT
    · have hserves : ¬ ServesPort ⟨id, hid⟩ proto port := fun h => hop ⟨⟨id, hid⟩, rfl, h⟩
      have hdecides := serviceSetBlocked_decides hs out ⟨id, hid⟩ blocked proto port
      rw [if_neg fun h => hserves h.1] at hdecides
      rw [← hs.allowed_eq, ← hdecides]
      exact ((hs.next (.setBlocked out id blocked)).allowed_eq proto port).symm
    · rw [step, serviceSetBlocked_of_le out (Nat.not_lt.1 hid)]
  | addCustom out name port' proto' blocked =>
    have hservices : (s.step (.addCustom out name port' proto' blocked)).services = s.services :=
      serviceAddCustom_services ..
    rw [hservices]
    exact (tableStep_step s _).1.portPolicy_eq hop s.services
  | removeCustom out port' proto' =>
    have hservices : (s.step (.removeCustom out port' proto')).services = s.services :=
      serviceRemoveCustom_services ..
    rw [hservices]
    exact (tableStep_step s _).1.portPolicy_eq hop s.services
  | reboot out => exact absurd trivial hop

namespace Firewall

variable (originalApInput : Option Pbuf → ℤ)

/-- Such an input writes no status. -/
theorem statusWrite_eq_none (s : Firewall) {i : FirewallInput} {p : Pbuf} (hi : ¬ i.IsAbout p) :
    statusWrite p.srcMac s i = none := by
  rcases i with _ | (_ | _ | ⟨mac, macStr, statusStr⟩) | (_ | _ | _ | _)
  case event.updateMac =>
    have hword : mac = p.srcMac → ¬ (statusStr = .lit "ALLOWED" ∨ statusStr = .lit "BLOCKED") :=
      fun hmac hstatus => hi ⟨hmac, hstatus⟩
    rw [statusWrite]
    split
    · next hmac =>
      have hnone := not_or.1 (hword hmac.1)
      rw [if_neg hnone.1, if_neg hnone.2]
    · rfl
  case rules.reboot => exact absurd trivial hi
  all_goals rfl

/-- Nor does it change what the rules say about the port. -/
theorem step_portPolicy {s : Firewall} (hs : s.filter.Reachable) {i : FirewallInput} {p : Pbuf}
    (htransport : p.proto = IP_PROTO_TCP ∨ p.proto = IP_PROTO_UDP) (hi : ¬ i.IsAbout p) :
    portPolicy (s.step originalApInput i).filter.custom.rules
        (s.step originalApInput i).filter.services p.proto p.dstPort =
      portPolicy s.filter.custom.rules s.filter.services p.proto p.dstPort := by
  cases i with
  | frame q => rfl
  | event e => rfl
  | rules op =>
    rw [step_rules_filter]
    refine hs.portPolicy_step fun hop => hi ?_
    cases op with
    | reboot out => trivial
    | setBlocked out id blocked => exact ⟨htransport, hop⟩
    | addCustom out name port proto blocked => exact ⟨htransport, hop⟩
    | removeCustom out port proto => exact ⟨htransport, hop⟩

/-- **What an input does not affect fares as before.** -/
theorem passes_step_iff {s : Firewall} (hs : s.filter.Reachable) {i : FirewallInput} {p : Pbuf}
    (hi : ¬ i.Affects p) : (s.step originalApInput i).Passes p ↔ s.Passes p := by
  refine forall_congr' fun hipv4 => ?_
  rw [FramePolicy, FramePolicy]
  by_cases hadmin : p.srcMac = adminMac
  · exact iff_of_true (.inl hadmin) (.inl hadmin)
  have hnot : ¬ i.IsAbout p := fun h => hi ⟨hipv4, hadmin, h⟩
  refine or_congr_right (and_congr ?_ (forall_congr' fun htransport => ?_))
  · rw [statusOf_step, statusWrite_eq_none s hnot, Option.getD_none]
  · rw [step_portPolicy originalApInput hs htransport hnot]

end Firewall

/-! ## What a call of the domain filter affects -/

/-- The call is about a domain that covers the name.  The filter looks at 127 bytes of it. -/
def DomainCall.Covers (name : Bytes) (c : DomainCall) : Prop :=
  ∃ d : CString, c.domain = some d ∧ CoversName d.bytes (name.take (MAX_DOMAIN_LENGTH - 1))

theorem coversName_congr {e e' : Bytes} (h : lower e = lower e') (q : Bytes) :
    CoversName e q ↔ CoversName e' q := by
  have hstrip : lower (stripWildcard e) = lower (stripWildcard e') := by
    have hwild : e.take 2 = [42, 46] ↔ e'.take 2 = [42, 46] := by
      rw [← take_lower_eq_wildcard, h, take_lower_eq_wildcard]
    rw [stripWildcard, stripWildcard]
    by_cases he : e.take 2 = [42, 46]
    · rw [if_pos he, if_pos (hwild.1 he), lower_drop, h, lower_drop]
    · rw [if_neg he, if_neg (mt hwild.2 he), h]
  rw [CoversName, CoversName, hstrip]

/-- **A call leaves the names alone that its domain does not cover.** -/
theorem isDomainBlocked_exec {s : DomainFilter} (hs : s.table.WellFormed) {c : DomainCall}
    {q : CString} (hq : q.bytes ≠ []) (hc : ¬ c.Covers q.bytes) :
    isDomainBlocked (c.exec s).2.table (some q) = isDomainBlocked s.table (some q) := by
  cases hresult : (c.exec s).1 with
  | false => rw [DomainCall.exec_of_false hresult]
  | true =>
    have hkeys := (callEffect_exec c s).activeKeys hs
    rw [Bool.eq_iff_iff, isDomainBlocked_iff_covers hq, isDomainBlocked_iff_covers hq, hkeys]
    refine exists_congr fun d => and_congr_left fun hcovers => ?_
    obtain ⟨verb, out, _ | d'⟩ := c
    · rw [asOps, hresult]
      exact Iff.rfl
    · have hne : lower d.bytes ≠ lower d'.bytes := fun h =>
        hc ⟨d', rfl, (coversName_congr h _).1 hcovers⟩
      rw [hresult]
      exact SetHistory.mem_after_of_ne hne

/-! ## What can change a decision -/

variable {Num : Type} {lib : Library Num} {originalApInput : Option Pbuf → ℤ} {s s' : Router}

theorem Router.withTables_tables (s : Router) : s.withTables s.tables = s := rfl

/-- A request that is not answered with `OK` changes nothing. -/
theorem Router.Step.of_not_answered {e : RouterEvent} (h : Step lib originalApInput s e s')
    (hs : s.Inv) (he : ¬ e.Answered) : s' = s := by
  cases e with
  | request r env reply =>
    have hcall := h.of_request hs
    cases hc : r.call lib env with
    | none =>
      rw [hc] at hcall
      exact hcall
    | some c =>
      rw [hc] at hcall
      have hfailed : c.done s.tables = false := Bool.eq_false_iff.2 (mt hcall.2.2 he)
      rw [hcall.1, RouterCall.exec_of_not_done hfailed, withTables_tables]
  | _ => exact absurd trivial he

/-- Two frames that the firewall cannot tell apart. -/
structure SameFlow (p p' : Pbuf) : Prop where
  ipv4 : Ipv4Frame p ↔ Ipv4Frame p'
  srcMac : p.srcMac = p'.srcMac
  proto : p.proto = p'.proto
  dstPort : p'.proto = IP_PROTO_TCP ∨ p'.proto = IP_PROTO_UDP → p.dstPort = p'.dstPort

theorem SameFlow.passes_iff {p p' : Pbuf} (h : SameFlow p p') (s : Firewall) :
    s.Passes p ↔ s.Passes p' := by
  rw [Firewall.Passes, Firewall.Passes, h.srcMac, h.proto, framePolicy_congr h.dstPort]
  exact imp_congr_left h.ipv4

/-- The event can change whether a frame passes: a restart, or a request that is about the sender,
the port or the service of the frame and is carried out. -/
def RouterEvent.AffectsFrame (lib : Library Num) (p : Pbuf) (e : RouterEvent) : Prop :=
  e.Answered ∧ ∃ i, e.input lib = some i ∧ i.Affects p

/-- The event can change whether a name is blocked: a restart, or a request about a domain that
covers the name and that is carried out. -/
def RouterEvent.AffectsName (lib : Library Num) (name : Bytes) (e : RouterEvent) : Prop :=
  e.IsRestart ∨ e.Answered ∧ ∃ c, e.domainCall lib = some c ∧ c.Covers name

theorem Router.Step.passes_iff {e : RouterEvent} (h : Step lib originalApInput s e s') (hs : s.Inv)
    {p : Pbuf} (he : ¬ e.AffectsFrame lib p) : s'.firewall.Passes p ↔ s.firewall.Passes p := by
  by_cases hanswered : e.Answered
  · rw [h.firewall_eq hs]
    cases hi : e.input lib with
    | none => exact Iff.rfl
    | some i =>
      exact Firewall.passes_step_iff originalApInput hs.rules fun haffects =>
        he ⟨hanswered, i, hi, haffects⟩
  · rw [h.of_not_answered hs hanswered]

/-- The domain filter behind an event that is no restart. -/
theorem Router.Step.domains {e : RouterEvent} (h : Step lib originalApInput s e s') (hs : s.Inv)
    (he : ¬ e.IsRestart) : s'.dns.filter.table =
      (e.domainCall lib).elim s.dns.filter.table fun c => (c.exec s.dns.filter).2.table := by
  cases h with
  | @request r env _ _ h =>
    have hcall := (Step.request h : Step lib originalApInput s _ _).of_request hs
    rw [RouterEvent.domainCall]
    cases hc : r.call lib env with
    | none =>
      rw [hc] at hcall
      rw [hcall]
      rfl
    | some c =>
      rw [hc] at hcall
      rw [hcall.1, exec_dns]
      cases c <;> rfl
  | datagram h =>
    cases h with
    | round => rfl
  | restart => exact absurd trivial he
  | _ => rfl

theorem Router.Step.blocked_eq {e : RouterEvent} (h : Step lib originalApInput s e s') (hs : s.Inv)
    {q : CString} (hq : q.bytes ≠ []) (he : ¬ e.AffectsName lib q.bytes) :
    isDomainBlocked s'.dns.filter.table (some q) = isDomainBlocked s.dns.filter.table (some q) := by
  by_cases hanswered : e.Answered
  · rw [h.domains hs fun hrestart => he (.inl hrestart)]
    cases hc : e.domainCall lib with
    | none => rfl
    | some c =>
      exact isDomainBlocked_exec hs.domains.table hq fun hcovers =>
        he (.inr ⟨hanswered, c, hc, hcovers⟩)
  · rw [h.of_not_answered hs hanswered]

/-- What the hook does with a frame of a run. -/
theorem Router.Step.frame_calls {p : Pbuf} {calls : List HookCall}
    (h : Step lib originalApInput s (.frame p calls) s') (hs : s.Inv) :
    s.firewall.Passes p ∧ calls = [.originalApInput (some p)] ∨
      ¬ s.firewall.Passes p ∧ calls = [.pbufFree p] := by
  cases h with
  | frame => exact Firewall.hookCalls_frame originalApInput hs.rules p

/-- **Two frames of a flow fare alike**, both handed on or both freed, whatever happens in between,
unless the router restarts or answers a request with `OK` that is about their sender, their port or
their service. -/
theorem flow_decided_alike (hs : s.FirstBoot) {p p' : Pbuf} (hflow : SameFlow p p')
    {before between after : List RouterEvent} {calls calls' : List HookCall}
    (h : Run (Router.Step lib originalApInput) s
      (before ++ .frame p calls :: between ++ .frame p' calls' :: after) s') :
    calls = [.originalApInput (some p)] ∧ calls' = [.originalApInput (some p')] ∨
      calls = [.pbufFree p] ∧ calls' = [.pbufFree p'] ∨
      ∃ e ∈ between, e.AffectsFrame lib p := by
  have hnocause : ¬ (RouterEvent.frame p calls).AffectsFrame lib p := by
    rintro ⟨-, i, hi, haffects⟩
    obtain rfl := Option.some.inj hi
    exact haffects.2.2
  obtain ⟨s₁, s₂, s₃, s₄, ⟨hs₁, hframe⟩, ⟨hs₃, hframe'⟩, hsame | hcause⟩ := h.of_two_events
    (fun t : Router => t.firewall.Passes p) (fun _ _ _ he ht => he.inv ht)
    (fun _ _ _ he ht hnot => propext (he.passes_iff ht hnot)) hnocause hs.inv
  swap
  · exact .inr (.inr hcause)
  have hkept : s₃.firewall.Passes p' ↔ s₁.firewall.Passes p :=
    (hflow.passes_iff s₃.firewall).symm.trans (iff_of_eq hsame)
  rcases hframe.frame_calls hs₁ with ⟨hpass, hcalls⟩ | ⟨hstop, hcalls⟩
  · rcases hframe'.frame_calls hs₃ with ⟨-, hcalls'⟩ | ⟨hstop', -⟩
    · exact .inl ⟨hcalls, hcalls'⟩
    · exact absurd (hkept.2 hpass) hstop'
  · rcases hframe'.frame_calls hs₃ with ⟨hpass', -⟩ | ⟨-, hcalls'⟩
    · exact absurd (hkept.1 hpass') hstop
    · exact .inr (.inl ⟨hcalls, hcalls'⟩)

/-- A station connects between two frames to port 22. -/
theorem flow_decided_alike_ssh : ∃ calls calls' s',
    Run (Router.Step (domainBodyLibrary (.lit "ads.com")) fun _ => 0) Router.boot
      ([] ++ .frame Firewall.sshFrame calls :: [.connect stationMac 1 true] ++
        .frame Firewall.sshFrame calls' :: []) s' ∧
      (calls = [.pbufFree Firewall.sshFrame] → calls' = [.pbufFree Firewall.sshFrame]) := by
  have hrun : ∃ calls calls' s',
      Run (Router.Step (domainBodyLibrary (.lit "ads.com")) fun _ => 0) Router.boot
        ([] ++ .frame Firewall.sshFrame calls :: [.connect stationMac 1 true] ++
          .frame Firewall.sshFrame calls' :: []) s' :=
    ⟨_, _, _, .concat (.concat (.concat .nil (.frame _)) (.connect ..)) (.frame _)⟩
  obtain ⟨calls, calls', s', hrun⟩ := hrun
  refine ⟨calls, calls', s', hrun, fun hfree => ?_⟩
  rcases flow_decided_alike Router.boot_firstBoot ⟨Iff.rfl, rfl, rfl, fun _ => rfl⟩ hrun with
    ⟨hcalls, -⟩ | ⟨-, hcalls'⟩ | ⟨e, he, -, i, hi, haffects⟩
  · exact absurd (List.cons.inj (hcalls.symm.trans hfree)).1 HookCall.noConfusion
  · exact hcalls'
  · rw [List.mem_singleton.1 he] at hi
    obtain rfl := Option.some.inj hi
    exact haffects.2.2.elim

/-- What a round sends for a query. -/
theorem DnsService.Step.sent_eq {d d' : DnsService} {net : NetOutcome} {data : Bytes}
    {client : SockAddr} {sent : List Sent} (h : d.Step (.round net data client sent) d')
    {labels : List Bytes} (hq : NameQuery data labels) :
    isDomainBlocked d.filter.table (some hq.name) = true ∧ sent = blockedReply net data client ∨
      isDomainBlocked d.filter.table (some hq.name) = false ∧ sent = relayed net data client := by
  cases h with
  | @round _ _ _ out h =>
    have hanswer := (dnsIteration_query hq).1 h
    cases hcase : isDomainBlocked d.filter.table (some hq.name) with
    | true => exact .inl ⟨rfl, (answerQuery_blocked hq.strlen_lt hcase out hanswer.symm).2.2⟩
    | false =>
      have hrelayed := hanswer.trans (answerQuery_relayed net data client hcase)
      exact .inr ⟨rfl, congrArg IterOutcome.sent (Option.some.inj hrelayed)⟩

/-- The same in the router. -/
theorem Router.Step.sent_eq {net : NetOutcome} {data : Bytes} {client : SockAddr}
    {sent : List Sent} (h : Step lib originalApInput s (.datagram net data client sent) s')
    {labels : List Bytes} (hq : NameQuery data labels) :
    isDomainBlocked s.dns.filter.table (some hq.name) = true ∧
        sent = blockedReply net data client ∨
      isDomainBlocked s.dns.filter.table (some hq.name) = false ∧
        sent = relayed net data client := by
  cases h with
  | datagram h => exact h.sent_eq hq

/-- A query is answered if it leaves room for that and its name can be logged. -/
theorem DnsService.exists_sends (d : DnsService) (net : NetOutcome) (client : SockAddr)
    {data : Bytes} {labels : List Bytes} (hq : NameQuery data labels)
    (hpercent : PercentsPaired (dotted labels)) (hdata : data.length ≤ 496) :
    ∃ sent, d.Sends net data client sent := by
  cases hcase : isDomainBlocked d.filter.table (some hq.name) with
  | true => exact ⟨_, sends_of_blocked net client hq hcase hpercent hdata⟩
  | false => exact ⟨_, sends_of_not_blocked net client hq hcase⟩

/-- **Two queries for a name fare alike**, both answered as blocked or both relayed, whoever asks
and whatever happens in between, unless the router restarts or answers a request with `OK` that is
about a domain that covers the name.  This compares two rounds that come to an end; which rounds for
a blocked name do is said in `domain_block_in_force`. -/
theorem name_decided_alike (hs : s.FirstBoot) {labels : List Bytes} {data data' : Bytes}
    (hq : NameQuery data labels) (hq' : NameQuery data' labels) {net net' : NetOutcome}
    {client client' : SockAddr} {sent sent' : List Sent} {before between after : List RouterEvent}
    (h : Run (Router.Step lib originalApInput) s (before ++ .datagram net data client sent ::
      between ++ .datagram net' data' client' sent' :: after) s') :
    sent = blockedReply net data client ∧ sent' = blockedReply net' data' client' ∨
      sent = relayed net data client ∧ sent' = relayed net' data' client' ∨
      ∃ e ∈ between, e.AffectsName lib (dotted labels) := by
  have hnocause :
      ¬ (RouterEvent.datagram net data client sent).AffectsName lib (dotted labels) := by
    rintro (hrestart | ⟨-, c, hc, -⟩)
    · exact hrestart
    · exact Option.some_ne_none c hc.symm
  obtain ⟨s₁, s₂, s₃, s₄, ⟨-, hround⟩, ⟨-, hround'⟩, hsame | hcause⟩ := h.of_two_events
    (fun t : Router => isDomainBlocked t.dns.filter.table (some hq.name))
    (fun _ _ _ he ht => he.inv ht) (fun _ _ _ he ht hnot => he.blocked_eq ht hq.name_ne_nil hnot)
    hnocause hs.inv
  swap
  · exact .inr (.inr hcause)
  rcases hround.sent_eq hq with ⟨hcase, hsent⟩ | ⟨hcase, hsent⟩
  · rcases hround'.sent_eq hq' with ⟨-, hsent'⟩ | ⟨hcase', -⟩
    · exact .inl ⟨hsent, hsent'⟩
    · exact absurd (hcase'.symm.trans (hsame.trans hcase)) Bool.false_ne_true
  · rcases hround'.sent_eq hq' with ⟨hcase', -⟩ | ⟨-, hsent'⟩
    · exact absurd (hcase.symm.trans (hsame.symm.trans hcase')) Bool.false_ne_true
    · exact .inr (.inl ⟨hsent, hsent'⟩)

/-- Nothing is blocked, and a station connects between two queries. -/
theorem name_decided_alike_ads : ∃ sent sent' s',
    Run (Router.Step (domainBodyLibrary (.lit "ads.com")) fun _ => 0) Router.boot
      ([] ++ .datagram .ok (addressQuery adsName) ⟨0xC0A80402, 1234⟩ sent ::
        [.connect stationMac 1 true] ++
        .datagram .ok (addressQuery adsName) ⟨0xC0A80403, 4321⟩ sent' :: []) s' ∧
      (sent = relayed .ok (addressQuery adsName) ⟨0xC0A80402, 1234⟩ ↔
        sent' = relayed .ok (addressQuery adsName) ⟨0xC0A80403, 4321⟩) := by
  obtain ⟨sent, ⟨d, hround⟩, -⟩ := Router.boot.dns.exists_sends .ok ⟨0xC0A80402, 1234⟩
    nameQuery_adsName (by decide) (by decide)
  obtain ⟨sent', ⟨d', hround'⟩, -⟩ := d.exists_sends .ok ⟨0xC0A80403, 4321⟩ nameQuery_adsName
    (by decide) (by decide)
  have hrun : ∃ s', Run (Router.Step (domainBodyLibrary (.lit "ads.com")) fun _ => 0) Router.boot
      ([] ++ .datagram .ok (addressQuery adsName) ⟨0xC0A80402, 1234⟩ sent ::
        [.connect stationMac 1 true] ++
        .datagram .ok (addressQuery adsName) ⟨0xC0A80403, 4321⟩ sent' :: []) s' :=
    ⟨_, .concat (.concat (.concat .nil (.datagram hround)) (.connect ..)) (.datagram hround')⟩
  obtain ⟨s', hrun⟩ := hrun
  have hdata : addressQuery adsName ≠ createBlockedResponse (addressQuery adsName) := by decide
  have hne (client client' : SockAddr) : relayed .ok (addressQuery adsName) client ≠
      blockedReply .ok (addressQuery adsName) client' := fun h =>
    hdata (congrArg Sent.data (List.cons.inj h).1)
  refine ⟨sent, sent', s', hrun, ?_⟩
  rcases name_decided_alike Router.boot_firstBoot nameQuery_adsName nameQuery_adsName hrun with
    ⟨rfl, rfl⟩ | ⟨rfl, rfl⟩ | ⟨e, he, hrestart | ⟨-, c, hc, -⟩⟩
  · exact iff_of_false (hne _ _).symm (hne _ _).symm
  · exact iff_of_true rfl rfl
  · rw [List.mem_singleton.1 he] at hrestart
    exact hrestart.elim
  · rw [List.mem_singleton.1 he] at hc
    exact absurd hc.symm (Option.some_ne_none c)

/-! ## What is blocked stays blocked -/

/-- The input can allow a device that is blocked. -/
def FirewallInput.Allows (mac : Mac) : FirewallInput → Prop
  | .event (.updateMac mac' _ statusStr) => mac' = mac ∧ statusStr = .lit "ALLOWED"
  | .rules (.reboot _) => True
  | _ => False

theorem Firewall.statusWrite_of_not_allows {mac : Mac} {i : FirewallInput} (hi : ¬ i.Allows mac)
    (s : Firewall) : statusWrite mac s i = none ∨ statusWrite mac s i = some .blocked := by
  rcases i with _ | (_ | _ | ⟨mac', macStr, statusStr⟩) | (_ | _ | _ | _)
  case event.updateMac =>
    rw [statusWrite]
    split
    · next hmac =>
      rw [if_neg fun hallowed => hi ⟨hmac.1, hallowed⟩]
      split
      · exact .inr rfl
      · exact .inl rfl
    · exact .inl rfl
  case rules.reboot => exact absurd trivial hi
  all_goals exact .inl rfl

/-- The event can allow a device again: a restart, or a request that allows it. -/
def RouterEvent.AllowsDevice (lib : Library Num) (mac : Mac) (e : RouterEvent) : Prop :=
  ∃ i, e.input lib = some i ∧ i.Allows mac

/-- The event can unblock a domain: a restart, or a request that removes it, in some spelling, and
is answered with `OK`. -/
def RouterEvent.UnblocksDomain (lib : Library Num) (d : CString) (e : RouterEvent) : Prop :=
  e.IsRestart ∨ e.Answered ∧ ∃ c, e.domainCall lib = some c ∧ c.verb = .erase ∧ c.names d = true

/-- A blocked device stays blocked. -/
theorem Router.Step.device_blocked {e : RouterEvent} (h : Step lib originalApInput s e s')
    (hs : s.Inv) {mac : Mac} (he : ¬ e.AllowsDevice lib mac)
    (hblocked : s.firewall.ap.devices.statusOf mac = .blocked) :
    s'.firewall.ap.devices.statusOf mac = .blocked := by
  rw [h.firewall_eq hs]
  cases hi : e.input lib with
  | none => exact hblocked
  | some i =>
    dsimp only [Option.elim_some]
    rw [Firewall.statusOf_step]
    rcases Firewall.statusWrite_of_not_allows (fun hallows => he ⟨i, hi, hallows⟩) s.firewall with
      hnone | hagain
    · rw [hnone]
      exact hblocked
    · rw [hagain]
      rfl

/-- A domain that is in the table stays there. -/
theorem Router.Step.domain_blocked {e : RouterEvent} (h : Step lib originalApInput s e s')
    (hs : s.Inv) {d : CString} (he : ¬ e.UnblocksDomain lib d)
    (hblocked : lower d.bytes ∈ s.dns.filter.table.activeKeys) :
    lower d.bytes ∈ s'.dns.filter.table.activeKeys := by
  by_cases hanswered : e.Answered
  swap
  · rwa [h.of_not_answered hs hanswered]
  rw [h.domains hs fun hrestart => he (.inl hrestart)]
  cases hc : e.domainCall lib with
  | none => exact hblocked
  | some c =>
    have hkeys := (callEffect_exec c s.dns.filter).activeKeys hs.domains.table
    dsimp only [Option.elim_some]
    rw [hkeys]
    cases hresult : (c.exec s.dns.filter).1 with
    | false => exact hblocked
    | true =>
      obtain ⟨verb, out, _ | d'⟩ := c
      · exact hblocked
      · refine SetHistory.mem_after_of_mem hblocked fun herase => ?_
        exact he (.inr ⟨hanswered, _, hc, herase.1, strcaseEq_iff.2 herase.2⟩)

/-- **A device that a request has blocked is cut off**: from the answer `OK` on, and until the
router restarts or is asked to allow the device, the hook frees every IPv4 frame of it, whatever else
happens. -/
theorem device_block_in_force (hs : s.FirstBoot) {r : HttpRequest} {env : PostOutcome}
    {reply : HttpReply} {mac : Mac} {macStr : CString}
    (hcall : r.call lib env = some (.device mac macStr (.lit "BLOCKED")))
    (hreply : reply.status = .ok) (hadmin : mac ≠ adminMac) {before later after : List RouterEvent}
    {p : Pbuf} {calls : List HookCall}
    (h : Run (Router.Step lib originalApInput) s
      (before ++ .request r env reply :: later ++ .frame p calls :: after) s')
    (hlater : ∀ e ∈ later, ¬ e.AllowsDevice lib mac) (hp : Ipv4Frame p) (hmac : p.srcMac = mac) :
    calls = [.pbufFree p] := by
  have hbring : ∀ t t' : Router, Router.Step lib originalApInput t (.request r env reply) t' →
      t.Inv → t'.firewall.ap.devices.statusOf mac = .blocked := by
    intro t t' hstep ht
    have hdone := hstep.of_request ht
    rw [hcall] at hdone
    obtain ⟨rfl, hok⟩ := hdone
    have hlisted : mac ∈ t.firewall.ap.devices.devices.map Device.mac :=
      macExists_iff.1 (hok.1 hreply)
    exact t.firewall.ap.handle_block hlisted macStr
  obtain ⟨t, hfirst, hrest⟩ := h.of_append
  obtain ⟨t', hframe, -⟩ := hrest.of_cons
  obtain ⟨ht, hblocked⟩ := hfirst.holds_until (fun _ _ _ he ht => he.inv ht)
    (fun _ _ _ he ht hkeep hP => he.device_blocked ht hkeep hP) hs.inv hbring hlater
  rcases hframe.frame_calls ht with ⟨hpass, -⟩ | ⟨-, hcalls⟩
  · subst hmac
    exact ((hpass hp).elim hadmin fun hallowed => hallowed.1 hblocked).elim
  · exact hcalls

/-- The dashboard blocks the station. -/
def blockStation : HttpRequest :=
  .post .updateMac (some (macRequest (macText stationMac) (.lit "BLOCKED")))

/-- What the request asks for, and what is answered if the station is in the list. -/
theorem blockStation_handle {t : RouterTables} (ht : macExists stationMac t.devices = true) :
    blockStation.call (macRequestLibrary (macText stationMac) (.lit "BLOCKED"))
        ⟨.ok, .ok, stationMac⟩ =
        some (.device stationMac (macText stationMac) (.lit "BLOCKED")) ∧
      ∃ t', blockStation.handle (macRequestLibrary (macText stationMac) (.lit "BLOCKED"))
        ⟨.ok, .ok, stationMac⟩ t = .ok (.sendOk, t') := by
  have hlen : (macRequest (macText stationMac) (.lit "BLOCKED")).length = 46 :=
    macRequest_length stationMac .blocked
  have hcarries : CarriesMac (macRequestLibrary (macText stationMac) (.lit "BLOCKED"))
      (some (macRequest (macText stationMac) (.lit "BLOCKED"))) _ _ (macText stationMac) :=
    macRequestLibrary_carriesMac (hlen.trans_le (by decide))
  have hmac : sscanfMac (macText stationMac) stationMac = stationMac := sscanfMac_macText _ _
  constructor
  · have hobject : PostHandler.updateMac.object
        (macRequestLibrary (macText stationMac) (.lit "BLOCKED"))
        (some (macRequest (macText stationMac) (.lit "BLOCKED"))) =
          some (macRequestObject (macText stationMac) (.lit "BLOCKED")) := by
      rw [← hcarries.parse]
      exact congrArg (Option.bind · _) hcarries.recv
    rw [blockStation, HttpRequest.call, hobject, Option.bind_some, PostHandler.call, hcarries.mac,
      macRequestObject_status]
    exact congrArg (fun mac => some (RouterCall.device mac _ _)) hmac
  · have hfound : macExists (sscanfMac (macText stationMac) stationMac) t.devices = true := by
      rwa [hmac]
    exact ⟨_, updateMacHandler_found hcarries (hlen.trans_lt (by decide))
      (macRequestObject_status ..) hfound⟩

/-- The station connects and is blocked, and a frame of it arrives. -/
theorem device_block_in_force_station : ∃ calls s', Run (Router.Step
    (macRequestLibrary (macText stationMac) (.lit "BLOCKED")) fun _ => 0) Router.boot
      ([.connect stationMac 1 true] ++ .request blockStation ⟨.ok, .ok, stationMac⟩ .sendOk :: [] ++
        .frame Firewall.sshFrame calls :: []) s' ∧ calls = [.pbufFree Firewall.sshFrame] := by
  obtain ⟨s, hconnect, hlisted⟩ : ∃ s, Router.Step
      (macRequestLibrary (macText stationMac) (.lit "BLOCKED")) (fun _ => 0) Router.boot
        (.connect stationMac 1 true) s ∧ macExists stationMac s.tables.devices = true :=
    ⟨_, .connect stationMac 1 true, by decide⟩
  obtain ⟨hcall, t, hhandle⟩ := blockStation_handle hlisted
  have hrun : ∃ calls s', Run (Router.Step
      (macRequestLibrary (macText stationMac) (.lit "BLOCKED")) fun _ => 0) Router.boot
        ([.connect stationMac 1 true] ++
          .request blockStation ⟨.ok, .ok, stationMac⟩ .sendOk :: [] ++
          .frame Firewall.sshFrame calls :: []) s' :=
    ⟨_, _, .concat (.concat (.concat .nil hconnect) (.request hhandle)) (.frame _)⟩
  obtain ⟨calls, s', hrun⟩ := hrun
  refine ⟨calls, s', hrun, ?_⟩
  exact device_block_in_force Router.boot_firstBoot hcall rfl (by decide) hrun
    (fun e he => absurd he List.not_mem_nil) (by decide) (by decide)

/-- **A domain that a request has blocked is not resolved**: from the answer `OK` on, and until the
router restarts or answers a request with `OK` that removes the domain, a query for a name that the
domain covers has a round if it is at most 496 bytes long and each `%` of the name is one of a pair,
and each round that it has sends the blocked answer and nothing else.  Of the name, 127 bytes
count. -/
theorem domain_block_in_force (hs : s.FirstBoot) {r : HttpRequest} {env : PostOutcome}
    {reply : HttpReply} {out : DomainSave} {d : CString}
    (hcall : r.call lib env = some (.domain ⟨.insert, out, some d⟩)) (hreply : reply.status = .ok)
    {before later : List RouterEvent} (h : Run (Router.Step lib originalApInput) s
      (before ++ .request r env reply :: later) s')
    (hlater : ∀ e ∈ later, ¬ e.UnblocksDomain lib d) {labels : List Bytes} {data : Bytes}
    (hq : NameQuery data labels) (hcovers : CoversName d.bytes ((dotted labels).take 127))
    (net : NetOutcome) (client : SockAddr) :
    ((∃ sent s'', Router.Step lib originalApInput s' (.datagram net data client sent) s'') ↔
        PercentsPaired (dotted labels) ∧ data.length ≤ 496) ∧
      ∀ sent s'', Router.Step lib originalApInput s' (.datagram net data client sent) s'' →
        sent = blockedReply net data client := by
  have hbring : ∀ t t' : Router, Router.Step lib originalApInput t (.request r env reply) t' →
      t.Inv → lower d.bytes ∈ t'.dns.filter.table.activeKeys := by
    intro t t' hstep ht
    have hdone := hstep.of_request ht
    rw [hcall] at hdone
    obtain ⟨rfl, hok⟩ := hdone
    have hkeys := (callEffect_exec ⟨.insert, out, some d⟩ t.dns.filter).activeKeys ht.domains.table
    have hresult : (DomainCall.exec ⟨.insert, out, some d⟩ t.dns.filter).1 = true := hok.1 hreply
    rw [hresult] at hkeys
    rw [Router.exec_dns]
    exact hkeys ▸ Set.mem_insert _ _
  obtain ⟨-, hmem⟩ := h.holds_until (fun _ _ _ he ht => he.inv ht)
    (fun _ _ _ he ht hkeep hP => he.domain_blocked ht hkeep hP) hs.inv hbring hlater
  have hblocked : isDomainBlocked s'.dns.filter.table (some hq.name) = true :=
    (isDomainBlocked_iff_covers hq.name_ne_nil).2 ⟨d, hmem, hcovers⟩
  constructor
  · rw [← DnsService.exists_round_iff net client hq hblocked]
    refine exists_congr fun sent => ⟨?_, ?_⟩
    · rintro ⟨s'', h⟩
      cases h with
      | datagram h => exact ⟨_, h⟩
    · rintro ⟨dns, h⟩
      exact ⟨_, .datagram h⟩
  · intro sent s'' hround
    rcases hround.sent_eq hq with ⟨-, hsent⟩ | ⟨hcase, -⟩
    · exact hsent
    · exact absurd (hcase.symm.trans hblocked) Bool.false_ne_true

/-- `ads.com` is blocked, and a query for it arrives. -/
theorem domain_block_in_force_ads : ∃ s s', Run (Router.Step (domainBodyLibrary (.lit "ads.com"))
    fun _ => 0) Router.boot ([] ++ .request addAds ⟨.ok, .ok, stationMac⟩ .sendOk :: []) s ∧
    Router.Step (domainBodyLibrary (.lit "ads.com")) (fun _ => 0) s
      (.datagram .ok (addressQuery adsName) ⟨0xC0A80402, 1234⟩
        [⟨⟨0xC0A80402, 1234⟩, createBlockedResponse (addressQuery adsName)⟩]) s' := by
  obtain ⟨s, hstep⟩ := Router.boot_addAds
  have hrun : Run (Router.Step (domainBodyLibrary (.lit "ads.com")) fun _ => 0) Router.boot
      ([] ++ .request addAds ⟨.ok, .ok, stationMac⟩ .sendOk :: []) s := .concat .nil hstep
  obtain ⟨hround, hsent⟩ := domain_block_in_force Router.boot_firstBoot
    (addAds_handle Router.boot.tables).1 rfl hrun (fun e he => absurd he List.not_mem_nil)
    nameQuery_adsName (by decide) .ok ⟨0xC0A80402, 1234⟩
  obtain ⟨sent, s', hstep'⟩ := hround.2 ⟨by decide, by decide⟩
  obtain rfl := hsent sent s' hstep'
  exact ⟨s, s', hrun, hstep'⟩

end EspFirewall
