import EspFirewall.Backup
import EspFirewall.DomainFilter.BlockedSet
import EspFirewall.DomainRemoval

/-!
# What a request asks for (`http_server.c`)

Eight handlers change the tables.  Each takes an array, a parser and some members of an object to
get to one call: of the service filter, of the domain filter, or of the loop that changes the status
of a device.  `HttpRequest.call` is that call, read off the request alone, if there is one.

`HttpRequest.performs`: a handler that does nothing undefined makes this call and changes nothing
else, and its reply is `OK` exactly if the call has succeeded.
-/

set_option autoImplicit false

namespace EspFirewall

open CLang CJson

variable {Num : Type}

/-! ## The calls -/

/-- A call that a request can lead to. -/
inductive RouterCall
  | setBlocked (out : SaveOutcome) (id : ℕ) (blocked : Bool)
  | addCustom (out : SaveOutcome) (name : Option CString) (port : UInt16) (proto : SvcProto)
      (blocked : Bool)
  | removeCustom (out : SaveOutcome) (port : UInt16) (proto : SvcProto)
  | domain (c : DomainCall)
  | device (mac : Mac) (macStr statusStr : CString)

namespace RouterCall

/-- What the call makes of the tables. -/
def exec (t : RouterTables) : RouterCall → RouterTables
  | .setBlocked out id blocked => { t with services := serviceSetBlocked out id blocked t.services }
  | .addCustom out name port proto blocked =>
    { t with services := (serviceAddCustom out name port proto.tag blocked t.services).2 }
  | .removeCustom out port proto =>
    { t with services := (serviceRemoveCustom out port proto.tag t.services).2 }
  | .domain c => { t with domains := (c.exec t.domains).2 }
  | .device mac macStr statusStr =>
    let r := updateMac mac macStr statusStr t.devices
    { t with devices := r.2.1, logs := t.logs ++ r.2.2 }

/-- The call succeeds. -/
def done (t : RouterTables) : RouterCall → Bool
  | .setBlocked _ id _ => decide (id < SVC_BUILTIN_COUNT)
  | .addCustom out name port proto blocked =>
    (serviceAddCustom out name port proto.tag blocked t.services).1
  | .removeCustom out port proto => (serviceRemoveCustom out port proto.tag t.services).1
  | .domain c => (c.exec t.domains).1
  | .device mac _ _ => macExists mac t.devices

/-- **A call that fails changes nothing.** -/
theorem exec_of_not_done {t : RouterTables} {c : RouterCall} (h : c.done t = false) :
    c.exec t = t := by
  cases c with
  | setBlocked out id blocked =>
    have hid : SVC_BUILTIN_COUNT ≤ id := Nat.not_lt.1 (of_decide_eq_false h)
    rw [exec, serviceSetBlocked_of_le out hid]
  | addCustom out name port proto blocked => rw [exec, (serviceAddCustom_false h).1]
  | removeCustom out port proto => rw [exec, (serviceRemoveCustom_false h).1]
  | domain c => rw [exec, DomainCall.exec_of_false h]
  | device mac macStr statusStr =>
    have hunknown : updateMac mac macStr statusStr t.devices = (false, t.devices, []) :=
      if_neg (Bool.eq_false_iff.1 h)
    rw [exec, hunknown]
    dsimp only
    rw [List.append_nil]

end RouterCall

/-- A result of a handler is that of the call: it has changed what the call changes, and the reply
is `OK` exactly if the call has succeeded. -/
def PostResult.Performs (t : RouterTables) (r : PostResult) (call : Option RouterCall) : Prop :=
  ∀ reply t', r = .ok (reply, t') → match call with
    | none => t' = t
    | some c => t' = c.exec t ∧ (reply.status = .ok ↔ c.done t = true)

/-! ## The requests -/

/-- A request that can change the tables. -/
inductive HttpRequest
  | post (h : PostHandler) (body : Option Bytes)
  /-- `GET /remove_domain`. -/
  | removeDomain (query : Option UrlQuery)

/-- The object that the handler gets. -/
def PostHandler.object (lib : Library Num) (body : Option Bytes) (h : PostHandler) :
    Option (Item Num) :=
  (httpdReqRecv h.recvLen body).bind fun bytes => lib.parse (.ofMem bytes)

/-- What the object asks the handler for. -/
def PostHandler.call (lib : Library Num) (env : PostOutcome) (json : Item Num) :
    PostHandler → Option RouterCall
  | .updatePortRule => do
    let port ← json.getObjectItem "port"
    let enabled ← json.getObjectItem "enabled"
    let portName ← port.valuestring
    let id ← portRules.lookup portName
    some (.setBlocked env.save id (!enabled.isTrue))
  | .addBlockedDomain => do
    let domain ← (json.getObjectItem "domain").bind Item.valuestring
    some (.domain ⟨.insert, env.domainSave, some domain⟩)
  | .removeBlockedDomain => do
    let domain ← (json.getObjectItem "domain").bind Item.valuestring
    some (.domain ⟨.erase, env.domainSave, some domain⟩)
  | .updateMac => do
    let mac ← json.getObjectItem "mac"
    let status ← json.getObjectItem "status"
    let macStr ← mac.valuestring
    let statusStr ← status.valuestring
    some (.device (sscanfMac macStr env.junk) macStr statusStr)
  | .setService => do
    let name ← json.getObjectItem "name"
    let blocked ← json.getObjectItem "blocked"
    some (.setBlocked env.save (serviceFindByName builtinServices name.valuestring) blocked.isTrue)
  | .addCustomPort => do
    let name ← json.getObjectItem "name"
    let port ← json.getObjectItem "port"
    let proto ← json.getObjectItem "proto"
    let blocked ← json.getObjectItem "blocked"
    let protoStr ← proto.valuestring
    some (.addCustom env.save name.valuestring (port.uint16 lib) (protoOfStr protoStr)
      blocked.isTrue)
  | .removeCustomPort => do
    let port ← json.getObjectItem "port"
    let proto ← json.getObjectItem "proto"
    let protoStr ← proto.valuestring
    some (.removeCustom env.save (port.uint16 lib) (protoOfStr protoStr))

namespace HttpRequest

/-- What the handler of the request does. -/
def handle (lib : Library Num) (env : PostOutcome) (t : RouterTables) : HttpRequest → PostResult
  | .post h body => h.run lib env body t
  | .removeDomain query => .ok (removeBlockedDomainQueryHandler env query t)

/-- What the request asks for. -/
def call (lib : Library Num) (env : PostOutcome) : HttpRequest → Option RouterCall
  | .post h body => (h.object lib body).bind fun json => h.call lib env json
  | .removeDomain query => do
    let q ← query
    let domain ← if q.text.strlen = 0 ∨ 256 ≤ q.text.strlen then none
      else httpdQueryKeyValue q "domain" 128
    some (.domain ⟨.erase, env.domainSave, some domain⟩)

end HttpRequest

/-! ## The parts of the handlers -/

namespace PostResult

variable {t : RouterTables}

/-- Nothing is called, and nothing has changed. -/
theorem performs_none (reply : HttpReply) : Performs t (.ok (reply, t)) none := by
  rintro reply' t' h
  exact (Prod.mk.inj (Except.ok.inj h)).2.symm

theorem performs_error (fault : Fault) (call : Option RouterCall) :
    Performs t (.error fault) call := by
  rintro reply t' h
  exact absurd h nofun

theorem performs_some {c : RouterCall} {reply : HttpReply} {t' : RouterTables}
    (htables : t' = c.exec t) (hreply : reply.status = .ok ↔ c.done t = true) :
    Performs t (.ok (reply, t')) (some c) := by
  rintro reply' t'' h
  obtain ⟨rfl, rfl⟩ := Prod.mk.inj (Except.ok.inj h)
  exact ⟨htables, hreply⟩

theorem performs_failed {c : RouterCall} {reply : HttpReply} (hdone : c.done t = false)
    (hreply : reply.status ≠ .ok) : Performs t (.ok (reply, t)) (some c) :=
  performs_some (RouterCall.exec_of_not_done hdone).symm
    (iff_of_false hreply (Bool.eq_false_iff.1 hdone))

theorem performs_withJson {lib : Library Num} {size bufLen : ℕ} {noBody : String}
    {body : Option Bytes} {k : Item Num → PostResult} {call : Item Num → Option RouterCall}
    (hk : ∀ json, Performs t (k json) (call json)) :
    Performs t (withJson lib size bufLen noBody body t k)
      (((httpdReqRecv bufLen body).bind fun bytes => lib.parse (.ofMem bytes)).bind call) := by
  rw [withJson]
  cases httpdReqRecv bufLen body with
  | none => exact performs_none _
  | some bytes =>
    dsimp only [Option.bind_some]
    split
    · exact performs_error _ _
    · cases lib.parse (.ofMem bytes) with
      | none => exact performs_none _
      | some json => exact hk json

/-- Two members that a handler cannot do without. -/
theorem performs_pair {a b : Option (Item Num)} {text : String}
    {k : Item Num → Item Num → PostResult} {call : Item Num → Item Num → Option RouterCall}
    (hk : ∀ x y, Performs t (k x y) (call x y)) :
    Performs t (match a, b with
      | some x, some y => k x y
      | _, _ => .ok (.err .badRequest text, t)) (do call (← a) (← b)) := by
  cases a with
  | none => exact performs_none _
  | some x =>
    cases b with
    | none => exact performs_none _
    | some y => exact hk x y

/-- Four members that a handler cannot do without. -/
theorem performs_quad {a b c d : Option (Item Num)} {text : String}
    {k : Item Num → Item Num → Item Num → Item Num → PostResult}
    {call : Item Num → Item Num → Item Num → Item Num → Option RouterCall}
    (hk : ∀ x y z w, Performs t (k x y z w) (call x y z w)) :
    Performs t (match a, b, c, d with
      | some x, some y, some z, some w => k x y z w
      | _, _, _, _ => .ok (.err .badRequest text, t)) (do call (← a) (← b) (← c) (← d)) := by
  cases a with
  | none => exact performs_none _
  | some x =>
    cases b with
    | none => exact performs_none _
    | some y =>
      cases c with
      | none => exact performs_none _
      | some z =>
        cases d with
        | none => exact performs_none _
        | some w => exact hk x y z w

/-- A string that is used without a check. -/
theorem performs_nonNull {s : Option CString} {k : CString → PostResult}
    {call : CString → Option RouterCall} (hk : ∀ text, Performs t (k text) (call text)) :
    Performs t (nonNull s >>= k) (s >>= call) := by
  cases s with
  | none => exact performs_error _ _
  | some text => exact hk text

/-- A string that is checked. -/
theorem performs_checked {s : Option CString} {text : String} {k : CString → PostResult}
    {call : CString → Option RouterCall} (hk : ∀ text, Performs t (k text) (call text)) :
    Performs t (match s with
      | some text => k text
      | none => .ok (.err .badRequest text, t)) (s >>= call) := by
  cases s with
  | none => exact performs_none _
  | some text => exact hk text

end PostResult

theorem customReply_status_iff {ok : Bool} {status : HttpStatus} {text : String}
    (hstatus : status ≠ .ok) : (customReply ok status text).status = .ok ↔ ok = true := by
  cases ok with
  | true => exact iff_of_true rfl rfl
  | false => exact iff_of_false hstatus Bool.false_ne_true

theorem domainReply_status_iff {ok : Bool} {status : HttpStatus} {text : String}
    (hstatus : status ≠ .ok) : (domainReply ok status text).status = .ok ↔ ok = true := by
  cases ok with
  | true => exact iff_of_true rfl rfl
  | false => exact iff_of_false hstatus Bool.false_ne_true

/-- The names by which the services are found do not change. -/
theorem BuiltIn.findByName {services : Services} (h : BuiltIn services) (name : Option CString) :
    serviceFindByName services name = serviceFindByName builtinServices name := by
  cases name with
  | none => rfl
  | some name =>
    have hfirst : Slots.first (fun r : ServiceRule => toUpper name == toUpper r.name.str) services =
        Slots.first (fun r => toUpper name == toUpper r.name.str) builtinServices :=
      Slots.first_congr fun i => by rw [h.name_eq i]
    rw [serviceFindByName, serviceFindByName, hfirst]

theorem serviceFindByName_le (services : Services) (name : Option CString) :
    serviceFindByName services name ≤ SVC_BUILTIN_COUNT := by
  cases name with
  | none => exact Nat.le_refl _
  | some name =>
    rw [serviceFindByName]
    split
    · next i _ => exact i.isLt.le
    · exact Nat.le_refl _

/-! ## The handlers -/

/-- **A handler of a POST request does what the request asks for.** -/
theorem PostHandler.performs (lib : Library Num) (env : PostOutcome) (body : Option Bytes)
    {t : RouterTables} (ht : BuiltIn t.services.services) (h : PostHandler) :
    PostResult.Performs t (h.run lib env body t)
      ((h.object lib body).bind fun json => h.call lib env json) := by
  cases h with
  | updatePortRule =>
    refine PostResult.performs_withJson fun json => PostResult.performs_pair fun port enabled => ?_
    refine PostResult.performs_nonNull fun portName => ?_
    cases hid : portRules.lookup portName with
    | none => exact PostResult.performs_none _
    | some id =>
      obtain ⟨i, rfl, -⟩ := lookup_portRules_some hid
      exact PostResult.performs_some rfl (iff_of_true rfl (decide_eq_true i.isLt))
  | addBlockedDomain =>
    refine PostResult.performs_withJson fun json => PostResult.performs_checked fun domain => ?_
    exact PostResult.performs_some rfl (domainReply_status_iff HttpStatus.noConfusion)
  | removeBlockedDomain =>
    refine PostResult.performs_withJson fun json => PostResult.performs_checked fun domain => ?_
    exact PostResult.performs_some rfl (domainReply_status_iff HttpStatus.noConfusion)
  | updateMac =>
    refine PostResult.performs_withJson fun json => PostResult.performs_pair fun mac status => ?_
    refine PostResult.performs_nonNull fun macStr => ?_
    dsimp only
    split
    · next hfound =>
      refine PostResult.performs_nonNull fun statusStr => ?_
      exact PostResult.performs_some rfl (iff_of_true rfl hfound)
    · next hunknown =>
      -- the text of the status is not looked at
      have hnot := Bool.eq_false_iff.2 hunknown
      cases status.valuestring with
      | none => exact PostResult.performs_none _
      | some statusStr =>
        exact PostResult.performs_failed hnot HttpStatus.noConfusion
  | setService =>
    refine PostResult.performs_withJson fun json => PostResult.performs_pair fun name blocked => ?_
    rw [← ht.findByName]
    dsimp only
    split
    · next hunknown =>
      rw [hunknown]
      exact PostResult.performs_failed (decide_eq_false (Nat.lt_irrefl SVC_BUILTIN_COUNT))
        HttpStatus.noConfusion
    · next hknown =>
      have hid := lt_of_le_of_ne (serviceFindByName_le _ _) hknown
      exact PostResult.performs_some rfl (iff_of_true rfl (decide_eq_true hid))
  | addCustomPort =>
    refine PostResult.performs_withJson fun json => PostResult.performs_quad fun _ _ _ _ => ?_
    refine PostResult.performs_nonNull fun protoStr => ?_
    exact PostResult.performs_some rfl (customReply_status_iff HttpStatus.noConfusion)
  | removeCustomPort =>
    refine PostResult.performs_withJson fun json => PostResult.performs_pair fun _ _ => ?_
    refine PostResult.performs_nonNull fun protoStr => ?_
    exact PostResult.performs_some rfl (customReply_status_iff HttpStatus.noConfusion)

/-- **A handler does what the request asks for**, and its reply says whether that has succeeded. -/
theorem HttpRequest.performs (lib : Library Num) (env : PostOutcome) {t : RouterTables}
    (ht : BuiltIn t.services.services) (r : HttpRequest) :
    PostResult.Performs t (r.handle lib env t) (r.call lib env) := by
  cases r with
  | post h body => exact h.performs lib env body ht
  | removeDomain query =>
    rw [handle]
    cases query with
    | none => exact PostResult.performs_none _
    | some q =>
      rw [removeBlockedDomainQueryHandler, call]
      dsimp only [Option.bind_eq_bind, Option.bind_some]
      by_cases hempty : q.text.strlen = 0
      · rw [if_pos hempty, if_pos (.inl hempty)]
        exact PostResult.performs_none _
      by_cases hlong : 256 ≤ q.text.strlen
      · rw [if_neg hempty, if_pos hlong, if_pos (.inr hlong)]
        exact PostResult.performs_none _
      rw [if_neg hempty, if_neg hlong, if_neg (not_or.2 ⟨hempty, hlong⟩)]
      cases httpdQueryKeyValue q "domain" 128 with
      | none => exact PostResult.performs_none _
      | some domain =>
        exact PostResult.performs_some rfl (domainReply_status_iff HttpStatus.noConfusion)

end EspFirewall
