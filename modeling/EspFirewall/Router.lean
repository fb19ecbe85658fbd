import EspFirewall.Dns.Service
import EspFirewall.General.Transitions
import EspFirewall.PacketStream
import EspFirewall.RequestCalls

/-!
# The router as a whole

`PacketStream` is about the frames and `Dns.Service` about the queries, each with the calls that
change its tables.  Here the two run side by side, and what changes their tables is the requests, as
they come in: a handler, a body, and the reply.  Stations connect and disconnect, frames and
datagrams arrive, requests are handled and the router restarts, in any order.  A handler, the hook
and a round of the DNS server are one step each.

`router_refines`: seen from the frames, a run is one of the firewall, and seen from the queries one
of the DNS server, with the calls that the requests ask for.
-/

set_option autoImplicit false

namespace EspFirewall

open CLang CJson Transitions

variable {Num : Type}

/-! ## Restarts of the domain filter -/

/-- What calls and restarts keep: the table is well formed, and so was the one that is in NVS. -/
structure DomainFilter.Sound (s : DomainFilter) : Prop where
  table : s.table.WellFormed
  saved : ∀ slots, s.nvs = some slots → ∃ t : DomainTable, t.WellFormed ∧ t.slots = slots

theorem saveBlockedDomains_nvs (out : DomainSave) (s : DomainFilter) :
    (saveBlockedDomains out s).nvs = s.nvs ∨
      (saveBlockedDomains out s).nvs = some s.table.slots := by
  obtain ⟨opened, wrote, committed⟩ := out
  cases opened <;> cases wrote <;> cases committed <;> simp [saveBlockedDomains]

/-- What is in NVS behind a call was there before, or is what the call has left in memory. -/
theorem DomainCall.exec_nvs (c : DomainCall) (s : DomainFilter) :
    (c.exec s).2.nvs = s.nvs ∨ (c.exec s).2.nvs = some (c.exec s).2.table.slots := by
  obtain ⟨verb, out, _ | d⟩ := c
  · cases verb <;> exact .inl rfl
  cases verb with
  | insert =>
    rw [exec]
    dsimp only
    rw [addBlockedDomain]
    split
    · exact .inl rfl
    split
    · exact .inl rfl
    split
    · rw [saveBlockedDomains_table]
      exact saveBlockedDomains_nvs ..
    · exact .inl rfl
  | erase =>
    rw [exec]
    dsimp only
    rw [removeBlockedDomain]
    split
    · exact .inl rfl
    split
    · rw [saveBlockedDomains_table]
      exact saveBlockedDomains_nvs ..
    · exact .inl rfl

theorem DomainFilter.Sound.exec {s : DomainFilter} (hs : s.Sound) (c : DomainCall) :
    (c.exec s).2.Sound := by
  have htable := (callEffect_exec c s).wellFormed hs.table
  refine ⟨htable, fun slots hslots => ?_⟩
  rcases c.exec_nvs s with hold | hnew
  · exact hs.saved slots (hold.symm.trans hslots)
  · exact ⟨_, htable, Option.some.inj (hnew.symm.trans hslots)⟩

theorem DomainFilter.Sound.boot {s : DomainFilter} (hs : s.Sound) (out : DomainLoad) :
    (bootDomainFilter out s.nvs).Sound := by
  refine ⟨?_, hs.saved⟩
  rw [bootDomainFilter, initDomainFilter]
  dsimp only
  split
  · next slots _ hnvs =>
    obtain ⟨t, ht, rfl⟩ := hs.saved slots hnvs
    exact ht.load
  · exact DomainTable.wellFormed_zero

theorem DnsService.Step.sound {d d' : DnsService} {e : ServiceEvent} (h : d.Step e d')
    (hd : d.filter.Sound) : d'.filter.Sound := by
  cases h with
  | call c => exact hd.exec c
  | round h => exact ⟨hd.table, hd.saved⟩

/-! ## The router -/

/-- The firewall and the DNS server. -/
structure Router where
  firewall : Firewall
  dns : DnsService

/-- What happens, and what comes of it. -/
inductive RouterEvent
  /-- A request is handled, and answered. -/
  | request (r : HttpRequest) (env : PostOutcome) (reply : HttpReply)
  | connect (mac : Mac) (aid : UInt8) (deauthOk : Bool)
  | disconnect (mac : Mac)
  /-- A frame arrives at the hook, which makes the calls. -/
  | frame (p : Pbuf) (calls : List HookCall)
  /-- A datagram arrives at the DNS server, which sends the others. -/
  | datagram (net : NetOutcome) (data : Bytes) (client : SockAddr) (sent : List Sent)
  | restart (rules : LoadOutcome) (domains : DomainLoad)

namespace Router

/-- The tables that the handlers change. -/
def tables (s : Router) : RouterTables :=
  ⟨s.firewall.filter, s.dns.filter, s.firewall.ap.devices, s.firewall.ap.logs⟩

/-- The router with other tables. -/
def withTables (s : Router) (t : RouterTables) : Router :=
  ⟨⟨{ s.firewall.ap with devices := t.devices, logs := t.logs }, t.services⟩,
    { s.dns with filter := t.domains }⟩

/-- A first boot.  What is in `rx_buffer` is not known. -/
def FirstBoot (s : Router) : Prop :=
  s.firewall.ap = .boot ∧ s.firewall.filter.FirstBoot ∧
    ∃ out, s.dns.filter = bootDomainFilter out none

/-- One event.  A handler that does something undefined makes no step. -/
inductive Step (lib : Library Num) (originalApInput : Option Pbuf → ℤ) (s : Router) :
    RouterEvent → Router → Prop
  | request {r : HttpRequest} {env : PostOutcome} {reply : HttpReply} {t : RouterTables}
      (h : r.handle lib env s.tables = .ok (reply, t)) :
    Step lib originalApInput s (.request r env reply) (s.withTables t)
  | connect (mac : Mac) (aid : UInt8) (deauthOk : Bool) :
    Step lib originalApInput s (.connect mac aid deauthOk)
      { s with firewall := s.firewall.step originalApInput (.event (.connect mac aid deauthOk)) }
  | disconnect (mac : Mac) :
    Step lib originalApInput s (.disconnect mac)
      { s with firewall := s.firewall.step originalApInput (.event (.disconnect mac)) }
  | frame (p : Pbuf) :
    Step lib originalApInput s (.frame p (s.firewall.hookCalls originalApInput (.frame p)))
      { s with firewall := s.firewall.step originalApInput (.frame p) }
  | datagram {net : NetOutcome} {data : Bytes} {client : SockAddr} {sent : List Sent}
      {dns : DnsService} (h : s.dns.Step (.round net data client sent) dns) :
    Step lib originalApInput s (.datagram net data client sent) { s with dns := dns }
  | restart (rules : LoadOutcome) (domains : DomainLoad) (rx : Mem) :
    Step lib originalApInput s (.restart rules domains)
      ⟨s.firewall.step originalApInput (.rules (.reboot rules)),
        ⟨bootDomainFilter domains s.dns.filter.nvs, rx⟩⟩

end Router

/-! ## The two sides -/

/-- The call, seen from the firewall. -/
def RouterCall.input : RouterCall → Option FirewallInput
  | .setBlocked out id blocked => some (.rules (.setBlocked out id blocked))
  | .addCustom out name port proto blocked => some (.rules (.addCustom out name port proto blocked))
  | .removeCustom out port proto => some (.rules (.removeCustom out port proto))
  | .domain _ => none
  | .device mac macStr statusStr => some (.event (.updateMac mac macStr statusStr))

/-- The call of the domain filter. -/
def RouterCall.domainCall : RouterCall → Option DomainCall
  | .domain c => some c
  | _ => none

namespace RouterEvent

/-- The event, seen from the firewall. -/
def input (lib : Library Num) : RouterEvent → Option FirewallInput
  | .request r env _ => (r.call lib env).bind RouterCall.input
  | .connect mac aid deauthOk => some (.event (.connect mac aid deauthOk))
  | .disconnect mac => some (.event (.disconnect mac))
  | .frame p _ => some (.frame p)
  | .datagram _ _ _ _ => none
  | .restart rules _ => some (.rules (.reboot rules))

/-- What the hook does. -/
def hookCalls : RouterEvent → List HookCall
  | .frame _ calls => calls
  | _ => []

/-- The call of the domain filter that the request asks for. -/
def domainCall (lib : Library Num) : RouterEvent → Option DomainCall
  | .request r env _ => (r.call lib env).bind RouterCall.domainCall
  | _ => none

/-- A request is answered with `OK`, or it is no request. -/
def Answered : RouterEvent → Prop
  | .request _ _ reply => reply.status = .ok
  | _ => True

/-- The event, seen from the DNS server. -/
def serviceEvent (lib : Library Num) : RouterEvent → Option ServiceEvent
  | .request r env reply =>
    ((r.call lib env).bind RouterCall.domainCall).map fun c => .call c (decide (reply.status = .ok))
  | .datagram net data client sent => some (.round net data client sent)
  | _ => none

def IsRestart : RouterEvent → Prop
  | .restart _ _ => True
  | _ => False

end RouterEvent

namespace Router

/-- What holds from the first boot on. -/
structure Inv (s : Router) : Prop where
  rules : s.firewall.filter.Reachable
  domains : s.dns.filter.Sound

variable {lib : Library Num} {originalApInput : Option Pbuf → ℤ} {s s' : Router} {e : RouterEvent}

/-- A call changes the side that it is for. -/
theorem exec_firewall (c : RouterCall) : (s.withTables (c.exec s.tables)).firewall =
    c.input.elim s.firewall (s.firewall.step originalApInput) := by
  cases c <;> rfl

theorem exec_dns (c : RouterCall) : (s.withTables (c.exec s.tables)).dns =
    c.domainCall.elim s.dns fun c => { s.dns with filter := (c.exec s.dns.filter).2 } := by
  cases c <;> rfl

/-- A request that is handled has made its call, if it asks for one. -/
theorem Step.of_request {r : HttpRequest} {env : PostOutcome} {reply : HttpReply}
    (h : Step lib originalApInput s (.request r env reply) s') (hs : s.Inv) :
    match r.call lib env with
    | none => s' = s
    | some c => s' = s.withTables (c.exec s.tables) ∧
      (reply.status = .ok ↔ c.done s.tables = true) := by
  cases h with
  | request h =>
    have hperforms := r.performs lib env hs.rules.builtIn reply _ h
    cases hc : r.call lib env with
    | none =>
      rw [hc] at hperforms
      exact congrArg s.withTables hperforms
    | some c =>
      rw [hc] at hperforms
      exact ⟨congrArg s.withTables hperforms.1, hperforms.2⟩

/-- **What an event does to the firewall.** -/
theorem Step.firewall_eq (h : Step lib originalApInput s e s') (hs : s.Inv) :
    s'.firewall = (e.input lib).elim s.firewall (s.firewall.step originalApInput) := by
  cases h with
  | @request r env _ _ h =>
    have hcall := (Step.request h : Step lib originalApInput s _ _).of_request hs
    rw [RouterEvent.input]
    cases hc : r.call lib env with
    | none =>
      rw [hc] at hcall
      rw [hcall]
      rfl
    | some c =>
      rw [hc] at hcall
      rw [hcall.1]
      exact exec_firewall c
  | _ => rfl

theorem Step.hookCalls_eq (h : Step lib originalApInput s e s') :
    e.hookCalls = (e.input lib).elim [] (s.firewall.hookCalls originalApInput) := by
  cases h with
  | @request r env _ _ h =>
    rw [RouterEvent.input]
    cases r.call lib env with
    | none => rfl
    | some c => cases c <;> rfl
  | _ => rfl

/-- **What an event does to the DNS server**, if it is no restart. -/
theorem Step.dns (h : Step lib originalApInput s e s') (hs : s.Inv) (he : ¬ e.IsRestart) :
    (∃ d, e.serviceEvent lib = some d ∧ s.dns.Step d s'.dns) ∨
      e.serviceEvent lib = none ∧ s'.dns = s.dns := by
  cases h with
  | @request r env reply _ h =>
    have hcall := (Step.request h : Step lib originalApInput s _ _).of_request hs
    rw [RouterEvent.serviceEvent]
    cases hc : r.call lib env with
    | none =>
      rw [hc] at hcall
      exact .inr ⟨rfl, congrArg Router.dns hcall⟩
    | some c =>
      rw [hc] at hcall
      rw [hcall.1]
      cases c with
      | domain c =>
        have hresult : decide (reply.status = .ok) = (c.exec s.dns.filter).1 := by
          rw [Bool.eq_iff_iff, decide_eq_true_iff]
          exact hcall.2
        refine .inl ⟨_, rfl, ?_⟩
        rw [hresult]
        exact .call c
      | _ => exact .inr ⟨rfl, rfl⟩
  | datagram h => exact .inl ⟨_, rfl, h⟩
  | restart => exact absurd trivial he
  | _ => exact .inr ⟨rfl, rfl⟩

theorem Step.inv (h : Step lib originalApInput s e s') (hs : s.Inv) : s'.Inv := by
  constructor
  · rw [h.firewall_eq hs]
    cases e.input lib with
    | none => exact hs.rules
    | some i => exact Firewall.reachable_step originalApInput s.firewall i hs.rules
  · by_cases he : e.IsRestart
    · cases h with
      | restart rules domains rx => exact hs.domains.boot domains
      | _ => exact he.elim
    · rcases h.dns hs he with ⟨d, -, hstep⟩ | ⟨-, hsame⟩
      · exact hstep.sound hs.domains
      · rw [hsame]
        exact hs.domains

theorem FirstBoot.inv (h : s.FirstBoot) : s.Inv := by
  obtain ⟨-, hrules, out, hdomains⟩ := h
  refine ⟨.init hrules, ?_⟩
  rw [hdomains]
  have hempty : (DomainFilter.unused none []).Sound := ⟨DomainTable.wellFormed_zero, nofun⟩
  exact hempty.boot out

theorem run_inv {es : List RouterEvent} (h : Run (Step lib originalApInput) s es s') (hs : s.Inv) :
    s'.Inv := h.invariant (fun _ _ _ he ht => he.inv ht) hs

/-! ## Runs -/

theorem run_firewall {es : List RouterEvent} (h : Run (Step lib originalApInput) s es s')
    (hs : s.Inv) :
    s'.firewall = StepSystem.run (Firewall.step originalApInput) s.firewall
        (es.filterMap (RouterEvent.input lib)) ∧
      es.flatMap RouterEvent.hookCalls = StepSystem.outputs (Firewall.step originalApInput)
        (Firewall.hookCalls originalApInput) s.firewall
        (es.filterMap (RouterEvent.input lib)) := by
  induction h with
  | nil => exact ⟨rfl, rfl⟩
  | @concat es e s' s'' hrun he ih =>
    obtain ⟨hstate, hcalls⟩ := ih
    have hfirewall := he.firewall_eq (run_inv hrun hs)
    rw [List.flatMap_append, List.flatMap_singleton, List.filterMap_append, hfirewall,
      he.hookCalls_eq, hcalls, hstate, StepSystem.outputs_append, List.filterMap_cons]
    cases e.input lib with
    | none => exact ⟨by simp, by simp [StepSystem.outputs]⟩
    | some i =>
      dsimp only [Option.elim_some, List.filterMap_nil]
      rw [StepSystem.run_concat, StepSystem.outputs, StepSystem.outputs, List.append_nil]
      exact ⟨rfl, rfl⟩

theorem run_dns {es : List RouterEvent} (h : Run (Step lib originalApInput) s es s') (hs : s.Inv)
    (hes : ∀ e ∈ es, ¬ e.IsRestart) :
    Run DnsService.Step s.dns (es.filterMap (RouterEvent.serviceEvent lib)) s'.dns :=
  h.simulates (fun _ _ _ he ht => he.inv ht) (fun _ _ _ he hrestart ht => he.dns ht hrestart) hes hs

end Router

theorem DnsService.run_of_transitions {d d' : DnsService} {es : List ServiceEvent}
    (h : Transitions.Run DnsService.Step d es d') : d.Run es d' := by
  induction h with
  | nil => exact .nil
  | concat _ he ih => exact ih.concat he

variable {lib : Library Num} {originalApInput : Option Pbuf → ℤ} {s s' : Router}

/-- **The router is its two sides.**  In every run from a first boot, the firewall goes through what
it goes through on its own when it is given the calls that the requests ask for, and the hook makes
the same calls; and since the last restart the DNS server has gone through a run of its own, in
which a call has succeeded exactly if the request for it was answered with `OK`. -/
theorem router_refines (hs : s.FirstBoot) {before later : List RouterEvent}
    (h : Run (Router.Step lib originalApInput) s (before ++ later) s')
    (hlater : ∀ e ∈ later, ¬ e.IsRestart) :
    s'.firewall = StepSystem.run (Firewall.step originalApInput) s.firewall
        ((before ++ later).filterMap (RouterEvent.input lib)) ∧
      (before ++ later).flatMap RouterEvent.hookCalls =
        StepSystem.outputs (Firewall.step originalApInput) (Firewall.hookCalls originalApInput)
          s.firewall ((before ++ later).filterMap (RouterEvent.input lib)) ∧
      ∃ t, Run (Router.Step lib originalApInput) s before t ∧
        t.dns.Run (later.filterMap (RouterEvent.serviceEvent lib)) s'.dns := by
  obtain ⟨hfirewall, hcalls⟩ := Router.run_firewall h hs.inv
  obtain ⟨t, hbefore, hrest⟩ := h.of_append
  exact ⟨hfirewall, hcalls, t, hbefore,
    DnsService.run_of_transitions (Router.run_dns hrest (Router.run_inv hbefore hs.inv) hlater)⟩

/-- `ads.com` is posted to `/add_domain`. -/
def addAds : HttpRequest := .post .addBlockedDomain (some (domainBody (.lit "ads.com")))

/-- What the request asks for, and what is answered. -/
theorem addAds_handle (t : RouterTables) :
    addAds.call (domainBodyLibrary (.lit "ads.com")) ⟨.ok, .ok, stationMac⟩ =
        some (.domain blockAds) ∧
      addAds.handle (domainBodyLibrary (.lit "ads.com")) ⟨.ok, .ok, stationMac⟩ t =
        .ok (domainReply (blockAds.exec t.domains).1 .internalServerError "Failed to add domain",
          { t with domains := (blockAds.exec t.domains).2 }) := by
  have hnames : NamesDomain (domainBodyLibrary (.lit "ads.com")) (domainBody (.lit "ads.com"))
      (domainQuery (.lit "ads.com")) (.lit "ads.com") (.lit "ads.com") :=
    namesDomain_domainBody (.refl (by decide)) (by decide) (by decide)
  obtain ⟨json, hparse, hdomain⟩ := hnames.parse
  have hrecv : httpdReqRecv 256 (some (domainBody (.lit "ads.com"))) =
      some (domainBody (.lit "ads.com")) := by decide
  constructor
  · rw [addAds, HttpRequest.call, PostHandler.object]
    have hobject : ((httpdReqRecv PostHandler.addBlockedDomain.recvLen
        (some (domainBody (.lit "ads.com")))).bind fun bytes =>
          (domainBodyLibrary (.lit "ads.com")).parse (.ofMem bytes)) = some json := by
      rw [← hparse]
      exact congrArg (Option.bind · _) hrecv
    rw [hobject, Option.bind_some, PostHandler.call, hdomain]
    rfl
  · have hrun : addAds.handle (domainBodyLibrary (.lit "ads.com")) ⟨.ok, .ok, stationMac⟩ t =
        addBlockedDomainHandler (domainBodyLibrary (.lit "ads.com")) ⟨.ok, .ok, stationMac⟩
          (some (domainBody (.lit "ads.com"))) t := rfl
    rw [hrun, addBlockedDomainHandler, withJson_of_parse hrecv (by decide) hparse, hdomain]
    rfl

/-- The router at a first boot. -/
def Router.boot : Router := ⟨.firstBoot, .start none [] fun _ => 0⟩

theorem Router.boot_firstBoot : boot.FirstBoot := ⟨rfl, ⟨.ok, rfl⟩, .ok, rfl⟩

/-- The request is handled. -/
theorem Router.boot_addAds : ∃ s, Step (domainBodyLibrary (.lit "ads.com")) (fun _ => 0) boot
    (.request addAds ⟨.ok, .ok, stationMac⟩ .sendOk) s := by
  have hhandle := (addAds_handle boot.tables).2
  have hresult : (blockAds.exec boot.tables.domains).1 = true := by decide +kernel
  rw [hresult] at hhandle
  exact ⟨_, .request hhandle⟩

/-- Seen from the DNS server it is a call. -/
theorem router_refines_ads : ∃ s : Router, s.firewall = Router.boot.firewall ∧
    Router.boot.dns.Run [.call blockAds true] s.dns := by
  obtain ⟨s, hstep⟩ := Router.boot_addAds
  have hrun := Run.concat .nil hstep
  have hcall := (addAds_handle Router.boot.tables).1
  have hinput : RouterEvent.input (domainBodyLibrary (.lit "ads.com"))
      (.request addAds ⟨.ok, .ok, stationMac⟩ .sendOk) = none := by
    rw [RouterEvent.input, hcall]
    rfl
  have hevent : RouterEvent.serviceEvent (domainBodyLibrary (.lit "ads.com"))
      (.request addAds ⟨.ok, .ok, stationMac⟩ .sendOk) = some (.call blockAds true) := by
    rw [RouterEvent.serviceEvent, hcall]
    rfl
  obtain ⟨hfirewall, -, t, hbefore, hdns⟩ := router_refines Router.boot_firstBoot hrun
    fun e he => by
      rw [List.mem_singleton.1 he]
      exact not_false
  obtain rfl := hbefore.eq_of_nil
  rw [List.nil_append, List.filterMap_cons_none hinput] at hfirewall
  rw [List.filterMap_cons_some hevent] at hdns
  exact ⟨s, hfirewall, hdns⟩

end EspFirewall
