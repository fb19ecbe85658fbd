import EspFirewall.General.Decimal
import EspFirewall.PostRefusals
import EspFirewall.ServiceFilter.Flags
import EspFirewall.ServiceFilter.Rules

/-!
# What the dashboard shows (`http_server.c`)

Four of the GET handlers send the tables of the two filters as JSON: the built-in services, ten of
them once more under names such as `tcp_22`, the custom rules and the blocked domains.  Here a number
is made with `num`, which says what number a port is.

* `updatePortRule_named` — the ten names stand for what they say: posting one decides the packets of
  that protocol and port, and shows at that name; posting anything else does nothing.
-/

set_option autoImplicit false

namespace EspFirewall

open CLang CJson

variable {Num : Type}

/-! ## The handlers -/

/-- The text of a protocol. -/
def protoText (proto : UInt8) : CString :=
  if proto = SVC_PROTO_TCP then .lit "tcp"
  else if proto = SVC_PROTO_UDP then .lit "udp"
  else .lit "both"

/-- The object that two of the handlers make for a rule. -/
def ruleItem (num : UInt16 → Num) (name : CString) (port : UInt16) (proto : UInt8)
    (blocked : Bool) : Item Num :=
  .object [(.lit "name", .string name), (.lit "port", .number (num port)),
    (.lit "proto", .string (protoText proto)), (.lit "blocked", .bool blocked)]

/-- The object for a built-in service. -/
def ServiceRule.item (num : UInt16 → Num) (r : ServiceRule) : Item Num :=
  ruleItem num r.name.str r.port r.proto r.blocked

/-- The object for a custom rule. -/
def CustomPortRule.item (num : UInt16 → Num) (r : CustomPortRule) : Item Num :=
  ruleItem num r.name.str r.port r.proto r.blocked

/-- `get_services_handler`: the items of the array that it sends. -/
def getServicesHandler (num : UInt16 → Num) (services : Services) : List (Item Num) :=
  (List.finRange SVC_BUILTIN_COUNT).map fun i => (services i).item num

/-- `get_custom_ports_handler`: the items of the array that it sends. -/
def getCustomPortsHandler (num : UInt16 → Num) (rules : CustomRules) : List (Item Num) :=
  ((List.finRange MAX_CUSTOM_PORT_RULES).filter fun i => (rules i).active).map fun i =>
    (rules i).item num

/-- `get_blocked_domains_handler`: the items of the array that it sends. -/
def getBlockedDomainsHandler (t : DomainTable) : List (Item Num) :=
  ((List.finRange MAX_BLOCKED_DOMAINS).filter fun i =>
    decide (i.val < t.count) && (t.slots i).counted).map fun i =>
      .object [(.lit "domain", .string (t.slots i).domain.str)]

/-- `get_port_rules_handler`: the members of the object that it sends, all `true` or `false`. -/
def getPortRulesHandler (services : Services) : List (CString × Bool) :=
  [(.lit "tcp_80", !(services 0).blocked), (.lit "tcp_443", !(services 1).blocked),
    (.lit "udp_53", !(services 2).blocked), (.lit "tcp_22", !(services 3).blocked),
    (.lit "tcp_21", !(services 4).blocked), (.lit "tcp_25", !(services 6).blocked),
    (.lit "tcp_110", !(services 8).blocked), (.lit "tcp_143", !(services 9).blocked),
    (.lit "tcp_3389", !(services 11).blocked), (.lit "udp_123", !(services 12).blocked)]

/-! ## Posting an object -/

/-- The body is a text of the item that leaves room for the terminator. -/
structure Posts (lib : Library Num) (h : PostHandler) (item : Item Num) (body : Option Bytes) :
    Prop where
  text : ∃ bytes, body = some bytes ∧ bytes ≠ [] ∧ bytes.length < h.bufSize ∧
    lib.parse (.ofMem bytes) = some item

/-- The handler gets to see the item. -/
theorem Posts.withJson {lib : Library Num} {h : PostHandler} {item : Item Num}
    {body : Option Bytes} (hpost : Posts lib h item body) (noBody : String) (t : RouterTables)
    (k : Item Num → PostResult) :
    withJson lib h.bufSize h.recvLen noBody body t k = k item := by
  obtain ⟨bytes, rfl, hne, hroom, hparse⟩ := hpost.text
  exact withJson_of_parse (httpdReqRecv_of_length_le hne (PostHandler.le_recvLen hroom)) hroom
    hparse noBody t k

/-! ## The names of the port rules -/

/-- The beginning of a name. -/
def Transport.word : Transport → Bytes
  | .tcp => ascii "tcp_"
  | .udp => ascii "udp_"

/-- What a name is to say: the protocol and the port. -/
def portRuleName (tr : Transport) (port : UInt16) : CString :=
  .ofMem (tr.word ++ digits 10 port.toNat)

theorem portRuleName_bytes (tr : Transport) (port : UInt16) :
    (portRuleName tr port).bytes = tr.word ++ digits 10 port.toNat := by
  refine CString.ofMem_bytes ?_
  rw [List.mem_append, not_or]
  refine ⟨?_, digits_nulFree _⟩
  cases tr <;> decide

/-- Different packets have different names. -/
theorem portRuleName_inj {tr tr' : Transport} {port port' : UInt16} :
    portRuleName tr port = portRuleName tr' port' ↔ tr = tr' ∧ port = port' := by
  constructor
  · intro h
    have hbytes : (portRuleName tr port).bytes = (portRuleName tr' port').bytes := by rw [h]
    rw [portRuleName_bytes, portRuleName_bytes] at hbytes
    have hlen : ∀ tr : Transport, tr.word.length = 4 := by
      intro tr
      cases tr <;> decide
    obtain ⟨hword, hdigits⟩ := List.append_inj hbytes ((hlen tr).trans (hlen tr').symm)
    have htr : tr = tr' := by
      cases tr <;> cases tr' <;> first | rfl | exact absurd hword (by decide)
    exact ⟨htr, UInt16.toNat_inj.1 (digits_injective hdigits)⟩
  · rintro ⟨rfl, rfl⟩
    rfl

/-- The transport protocol of a built-in service. -/
def builtinTransport (i : Fin SVC_BUILTIN_COUNT) : Transport :=
  if (builtinServices i).proto = SVC_PROTO_UDP then .udp else .tcp

theorem builtinTransport_tag (i : Fin SVC_BUILTIN_COUNT) :
    (builtinTransport i).tag = (builtinServices i).proto := by
  revert i
  decide

/-- The services behind the names. -/
def portServices : List (CString × Fin SVC_BUILTIN_COUNT) :=
  [(.lit "tcp_80", 0), (.lit "tcp_443", 1), (.lit "udp_53", 2), (.lit "tcp_22", 3),
    (.lit "tcp_21", 4), (.lit "tcp_25", 6), (.lit "tcp_110", 8), (.lit "tcp_143", 9),
    (.lit "tcp_3389", 11), (.lit "udp_123", 12)]

/-- The names that can be posted, and the names that are shown. -/
theorem portRules_eq : portRules = portServices.map fun r => (r.1, r.2.val) := rfl

theorem getPortRulesHandler_eq (services : Services) :
    getPortRulesHandler services = portServices.map fun r => (r.1, !(services r.2).blocked) := rfl

/-- **Each name is that of the service it stands for.** -/
theorem portServices_named : ∀ r ∈ portServices,
    r.1 = portRuleName (builtinTransport r.2) (builtinServices r.2).port := by
  decide +kernel

/-- No two names stand for one service, and no name for two. -/
theorem portServices_inj : ∀ r ∈ portServices, ∀ r' ∈ portServices, r.1 = r'.1 ↔ r.2 = r'.2 := by
  decide +kernel

theorem lookup_portRules_some {name : CString} {id : ℕ} (h : portRules.lookup name = some id) :
    ∃ i : Fin SVC_BUILTIN_COUNT, id = i ∧ (name, i) ∈ portServices := by
  obtain ⟨before, later, heq, -⟩ := List.lookup_eq_some_iff.1 h
  have hmem : (name, id) ∈ portRules := by
    rw [heq]
    exact List.mem_append_right _ List.mem_cons_self
  rw [portRules_eq, List.mem_map] at hmem
  obtain ⟨⟨k, i⟩, hi, hpair⟩ := hmem
  obtain ⟨rfl, rfl⟩ := Prod.mk.inj hpair
  exact ⟨i, rfl, hi⟩

theorem lookup_portRules_none {name : CString} (h : portRules.lookup name = none) :
    ∀ r ∈ portServices, r.1 ≠ name := by
  intro r hr heq
  have hmem : (r.1, r.2.val) ∈ portRules := by
    rw [portRules_eq]
    exact List.mem_map.2 ⟨r, hr, rfl⟩
  have hne := List.lookup_eq_none_iff.1 h _ hmem
  rw [heq, bne_self_eq_false] at hne
  exact Bool.false_ne_true hne

theorem mem_portRuleNames {name : CString} {services : Services} :
    name ∈ (getPortRulesHandler services).map Prod.fst ↔ ∃ r ∈ portServices, r.1 = name := by
  rw [getPortRulesHandler_eq, List.map_map, List.mem_map]
  rfl

/-- The name says the protocol and the port. -/
def NamesPort (name : CString) (proto : UInt8) (port : UInt16) : Prop :=
  (proto = SVC_PROTO_TCP ∧ name = portRuleName .tcp port) ∨
    (proto = SVC_PROTO_UDP ∧ name = portRuleName .udp port)

instance (name : CString) (proto : UInt8) (port : UInt16) : Decidable (NamesPort name proto port) :=
  inferInstanceAs (Decidable (_ ∨ _))

theorem namesPort_iff {name : CString} {proto : UInt8} {port : UInt16} :
    NamesPort name proto port ↔ ∃ tr : Transport, proto = tr.tag ∧ name = portRuleName tr port := by
  constructor
  · rintro (h | h)
    · exact ⟨.tcp, h⟩
    · exact ⟨.udp, h⟩
  · rintro ⟨_ | _, h⟩
    · exact .inl h
    · exact .inr h

/-- The name of a service says which packets belong to it. -/
theorem namesPort_iff_servesPort {name : CString} {i : Fin SVC_BUILTIN_COUNT}
    (hname : name = portRuleName (builtinTransport i) (builtinServices i).port) (proto : UInt8)
    (port : UInt16) : NamesPort name proto port ↔ ServesPort i proto port := by
  rw [namesPort_iff]
  constructor
  · rintro ⟨tr, rfl, heq⟩
    obtain ⟨rfl, rfl⟩ := portRuleName_inj.1 (hname.symm.trans heq)
    exact ⟨(builtinTransport_tag i).symm, rfl⟩
  · rintro ⟨rfl, rfl⟩
    exact ⟨builtinTransport i, (builtinTransport_tag i).symm, hname⟩

/-- What `update_port_rule_handler` does. -/
theorem updatePortRuleHandler_eq {lib : Library Num} {env : PostOutcome} {body : Option Bytes}
    {item enabled : Item Num} {name : CString} (hpost : Posts lib .updatePortRule item body)
    (hname : item.getObjectItem "port" = some (.string name))
    (henabled : item.getObjectItem "enabled" = some enabled) (t : RouterTables) :
    updatePortRuleHandler lib env body t = .ok (.sendOk, match portRules.lookup name with
      | some id =>
        { t with services := serviceSetBlocked env.save id (!enabled.isTrue) t.services }
      | none => t) := by
  rw [updatePortRuleHandler]
  refine (hpost.withJson _ t _).trans ?_
  rw [hname, henabled]
  simp only [Item.valuestring, nonNull, bind, Except.bind]
  cases portRules.lookup name <;> rfl

/-- **The names say which packets they are about.**  Behind a request with a `port` that is a
string, the names show what they showed before, but for that name, which shows `enabled`; and every
packet is decided as before, but for those that the name says, if it is one of those that are shown
and no custom rule is about them: they pass exactly if `enabled` is true. -/
theorem updatePortRule_named {lib : Library Num} (env : PostOutcome) {body : Option Bytes}
    {item enabled : Item Num} {name : CString} {t : RouterTables} (hs : t.services.Reachable)
    (hpost : Posts lib .updatePortRule item body)
    (hname : item.getObjectItem "port" = some (.string name))
    (henabled : item.getObjectItem "enabled" = some enabled) :
    ∃ t', updatePortRuleHandler lib env body t = .ok (.sendOk, t') ∧
      getPortRulesHandler t'.services.services =
        (getPortRulesHandler t.services.services).map (fun r =>
          (r.1, if r.1 = name then enabled.isTrue else r.2)) ∧
      ∀ proto port, serviceIsPortAllowed t'.services proto port =
        if NamesPort name proto port ∧
            name ∈ (getPortRulesHandler t.services.services).map Prod.fst ∧
            customVerdict t.services.custom.rules proto port = none
          then enabled.isTrue else serviceIsPortAllowed t.services proto port := by
  refine ⟨_, updatePortRuleHandler_eq hpost hname henabled t, ?_⟩
  cases hlookup : portRules.lookup name with
  | none =>
    have hnone := lookup_portRules_none hlookup
    constructor
    · rw [getPortRulesHandler_eq, List.map_map]
      refine List.map_congr_left fun r hr => ?_
      exact congrArg (Prod.mk r.1) (if_neg (hnone r hr)).symm
    · intro proto port
      rw [if_neg]
      rintro ⟨-, hshown, -⟩
      obtain ⟨r, hr, heq⟩ := mem_portRuleNames.1 hshown
      exact hnone r hr heq
  | some id =>
    obtain ⟨i, rfl, hi⟩ := lookup_portRules_some hlookup
    have hnamed := namesPort_iff_servesPort (portServices_named _ hi)
    constructor
    · dsimp only
      rw [getPortRulesHandler_eq, getPortRulesHandler_eq, List.map_map, serviceSetBlocked_services]
      refine List.map_congr_left fun r hr => congrArg (Prod.mk r.1) ?_
      have hinj : r.1 = name ↔ r.2 = i := portServices_inj r hr _ hi
      rw [Function.update_apply]
      simp only [hinj]
      split <;> simp
    · intro proto port
      have hshown : name ∈ (getPortRulesHandler t.services.services).map Prod.fst :=
        mem_portRuleNames.2 ⟨_, hi, rfl⟩
      rw [serviceSetBlocked_decides hs, Bool.not_not]
      simp only [hnamed, hshown, true_and]

/-- The text that switches SSH off. -/
def sshOffText : Bytes := ascii "\x7b\"port\":\"tcp_22\",\"enabled\":false\x7d"

/-- The object that it is the text of. -/
def sshOffObject : Item ℕ :=
  .object [(.lit "port", .string (.lit "tcp_22")), (.lit "enabled", .bool false)]

theorem posts_sshOff : Posts (.ofText .ofNat sshOffText sshOffObject) .updatePortRule sshOffObject
    (some sshOffText) :=
  ⟨sshOffText, rfl, by decide, by decide, Library.ofText_parse (by decide +kernel) _⟩

/-- It closes port 22 for TCP. -/
theorem updatePortRule_named_ssh :
    ∃ t', updatePortRuleHandler (.ofText .ofNat sshOffText sshOffObject)
        ⟨.ok, .ok, #v[0, 0, 0, 0, 0, 0]⟩ (some sshOffText) .firstBoot = .ok (.sendOk, t') ∧
      serviceIsPortAllowed t'.services 6 22 = false := by
  have hname : sshOffObject.getObjectItem "port" = some (.string (.lit "tcp_22")) :=
    Item.getObjectItem_head ..
  have henabled : sshOffObject.getObjectItem "enabled" = some (.bool false) := by
    rw [sshOffObject, Item.getObjectItem_skip (by decide)]
    exact Item.getObjectItem_head ..
  obtain ⟨t', heq, -, hallowed⟩ := updatePortRule_named ⟨.ok, .ok, #v[0, 0, 0, 0, 0, 0]⟩
    (t := .firstBoot) (.init ⟨.ok, rfl⟩) posts_sshOff hname henabled
  refine ⟨t', heq, (hallowed 6 22).trans (if_pos ⟨by decide +kernel, by decide +kernel, ?_⟩)⟩
  exact Slots.lookup_eq_none_iff.2 fun _ => rfl

end EspFirewall
