import EspFirewall.Devices
import EspFirewall.DomainFilter.Defs
import EspFirewall.General.Json
import EspFirewall.General.Strtol
import EspFirewall.ServiceFilter.Defs

/-!
# The POST handlers (`http_server.c`)

Seven handlers take a request body: each receives it into an array, terminates it, has it parsed,
takes the members it needs out of the object, and calls the filter or the list that they are for.

What C leaves undefined is a `Fault`: a write behind the array, and a null pointer that is passed to
a string function.  The log calls that have a domain or the text of an address for a format are not
among these.  They are recorded and taken to return, as they do for the texts of
`network_text_logged_iff`.
-/

set_option autoImplicit false

namespace EspFirewall

open CLang CJson

/-! ## Requests and replies -/

/-- What the handlers change, and the log calls of `update_mac_handler`. -/
structure RouterTables where
  services : ServiceFilter
  domains : DomainFilter
  devices : DeviceTable
  logs : List LogCall

/-- The tables of a device that has booted for the first time. -/
def RouterTables.firstBoot : RouterTables :=
  ⟨bootServiceFilter .ok .empty, .firstBoot, .empty, []⟩

/-- What the NVS calls in a handler return, and what is in `mac` before `update_mac_handler` has read
it. -/
structure PostOutcome where
  save : SaveOutcome
  domainSave : DomainSave
  junk : Mac

/-- What is undefined in C. -/
inductive Fault
  /-- A write behind the end of an array. -/
  | overflow (index : ℕ)
  /-- A string function is called with `NULL`. -/
  | nullString
deriving DecidableEq

/-- The status of a reply. -/
inductive HttpStatus
  | ok
  | badRequest
  | notFound
  | internalServerError
deriving DecidableEq

/-- A reply. -/
structure HttpReply where
  status : HttpStatus
  text : String
  /-- It has the header `Access-Control-Allow-Origin: *`. -/
  allowOrigin : Bool
  /-- The handler returns `ESP_OK`. -/
  espOk : Bool
deriving DecidableEq

/-- `httpd_resp_send_err`, where the handler fails. -/
def HttpReply.err (status : HttpStatus) (text : String) : HttpReply := ⟨status, text, false, false⟩

/-- `httpd_resp_sendstr(req, "OK")`. -/
def HttpReply.sendOk : HttpReply := ⟨.ok, "OK", false, true⟩

/-- What a handler does. -/
abbrev PostResult := Except Fault (HttpReply × RouterTables)

/-- `httpd_req_recv`: what it puts into a buffer of `bufLen` bytes, of the part of the body that has
arrived.  It returns nothing positive if the connection fails or nothing arrives. -/
def httpdReqRecv (bufLen : ℕ) (body : Option Bytes) : Option Bytes :=
  match body with
  | some bytes => if bytes = [] then none else some (bytes.take bufLen)
  | none => none

/-- A pointer that is passed to a string function. -/
def nonNull (s : Option CString) : Except Fault CString :=
  match s with
  | some s => .ok s
  | none => .error .nullString

variable {Num : Type}

/-- The beginning of every handler: receive the body into an array of `size` bytes, asking for
`bufLen`, terminate it and have it parsed. -/
def withJson (lib : Library Num) (size bufLen : ℕ) (noBody : String) (body : Option Bytes)
    (t : RouterTables) (k : Item Num → PostResult) : PostResult :=
  match httpdReqRecv bufLen body with
  | none => .ok (.err .badRequest noBody, t)
  | some bytes =>
    -- `buf[ret] = 0`
    if size ≤ bytes.length then .error (.overflow bytes.length)
    else match lib.parse (.ofMem bytes) with
      | none => .ok (.err .badRequest "Invalid JSON", t)
      | some json => k json

/-- What is shorter than the buffer is received as it is. -/
theorem httpdReqRecv_of_length_le {bufLen : ℕ} {bytes : Bytes} (hne : bytes ≠ [])
    (hlen : bytes.length ≤ bufLen) : httpdReqRecv bufLen (some bytes) = some bytes := by
  rw [httpdReqRecv, if_neg hne, List.take_of_length_le hlen]

theorem length_le_of_httpdReqRecv {bufLen : ℕ} {body : Option Bytes} {bytes : Bytes}
    (h : httpdReqRecv bufLen body = some bytes) : bytes.length ≤ bufLen := by
  cases body with
  | none => exact absurd h nofun
  | some received =>
    rw [httpdReqRecv] at h
    split at h
    · exact absurd h nofun
    · rw [← Option.some.inj h]
      exact List.length_take_le ..

/-- A text that leaves no room for the terminator. -/
theorem withJson_of_full {lib : Library Num} {size bufLen : ℕ} {body : Option Bytes}
    {bytes : Bytes} (hrecv : httpdReqRecv bufLen body = some bytes) (hfull : size ≤ bytes.length)
    (noBody : String) (t : RouterTables) (k : Item Num → PostResult) :
    withJson lib size bufLen noBody body t k = .error (.overflow bytes.length) := by
  rw [withJson, hrecv]
  exact if_pos hfull

/-- A text that is no JSON. -/
theorem withJson_of_not_parse {lib : Library Num} {size bufLen : ℕ} {body : Option Bytes}
    {bytes : Bytes} (hrecv : httpdReqRecv bufLen body = some bytes) (hroom : bytes.length < size)
    (hparse : lib.parse (.ofMem bytes) = none) (noBody : String) (t : RouterTables)
    (k : Item Num → PostResult) :
    withJson lib size bufLen noBody body t k = .ok (.err .badRequest "Invalid JSON", t) := by
  rw [withJson, hrecv]
  dsimp only
  rw [if_neg (Nat.not_le.2 hroom), hparse]

/-- A text that is parsed. -/
theorem withJson_of_parse {lib : Library Num} {size bufLen : ℕ} {body : Option Bytes}
    {bytes : Bytes} {json : Item Num} (hrecv : httpdReqRecv bufLen body = some bytes)
    (hroom : bytes.length < size) (hparse : lib.parse (.ofMem bytes) = some json)
    (noBody : String) (t : RouterTables) (k : Item Num → PostResult) :
    withJson lib size bufLen noBody body t k = k json := by
  rw [withJson, hrecv]
  dsimp only
  rw [if_neg (Nat.not_le.2 hroom), hparse]

/-! ## Port rules and services -/

/-- The names that `update_port_rule_handler` compares with, and the services they stand for. -/
def portRules : List (CString × ℕ) :=
  [(.lit "tcp_80", 0), (.lit "tcp_443", 1), (.lit "udp_53", 2), (.lit "tcp_22", 3),
    (.lit "tcp_21", 4), (.lit "tcp_25", 6), (.lit "tcp_110", 8), (.lit "tcp_143", 9),
    (.lit "tcp_3389", 11), (.lit "udp_123", 12)]

/-- `update_port_rule_handler`. -/
def updatePortRuleHandler (lib : Library Num) (env : PostOutcome) (body : Option Bytes)
    (t : RouterTables) : PostResult :=
  withJson lib 256 256 "Invalid request" body t fun json =>
    match json.getObjectItem "port", json.getObjectItem "enabled" with
    | some portItem, some enabledItem => do
      let enabled := enabledItem.isTrue
      let portName ← nonNull portItem.valuestring
      match portRules.lookup portName with
      | some id =>
        .ok (.sendOk, { t with services := serviceSetBlocked env.save id (!enabled) t.services })
      | none => .ok (.sendOk, t)
    | _, _ => .ok (.err .badRequest "Missing parameters", t)

/-- `set_service_handler`. -/
def setServiceHandler (lib : Library Num) (env : PostOutcome) (body : Option Bytes)
    (t : RouterTables) : PostResult :=
  withJson lib 128 127 "No body" body t fun json =>
    match json.getObjectItem "name", json.getObjectItem "blocked" with
    | some nameItem, some blockedItem =>
      let id := serviceFindByName t.services.services nameItem.valuestring
      if id = SVC_BUILTIN_COUNT then .ok (.err .notFound "Unknown service name", t)
      else .ok ({ HttpReply.sendOk with allowOrigin := true },
        { t with services := serviceSetBlocked env.save id blockedItem.isTrue t.services })
    | _, _ => .ok (.err .badRequest "Missing name or blocked", t)

/-! ## Custom ports -/

/-- The protocol that the text of `proto` stands for. -/
def protoOfStr (protoStr : CString) : SvcProto :=
  if strcaseEq protoStr (.lit "tcp") then .tcp
  else if strcaseEq protoStr (.lit "udp") then .udp
  else .both

/-- The reply of the two handlers, behind the call that has succeeded or not. -/
def customReply (ok : Bool) (status : HttpStatus) (text : String) : HttpReply :=
  if ok then { HttpReply.sendOk with allowOrigin := true }
  else { HttpReply.err status text with allowOrigin := true }

/-- `add_custom_port_handler`. -/
def addCustomPortHandler (lib : Library Num) (env : PostOutcome) (body : Option Bytes)
    (t : RouterTables) : PostResult :=
  withJson lib 192 191 "No body" body t fun json =>
    match json.getObjectItem "name", json.getObjectItem "port", json.getObjectItem "proto",
      json.getObjectItem "blocked" with
    | some name, some port, some proto, some blocked => do
      let protoStr ← nonNull proto.valuestring
      let r := serviceAddCustom env.save name.valuestring (port.uint16 lib)
        (protoOfStr protoStr).tag blocked.isTrue t.services
      .ok (customReply r.1 .internalServerError "Table full", { t with services := r.2 })
    | _, _, _, _ => .ok (.err .badRequest "Missing fields", t)

/-- `remove_custom_port_handler`. -/
def removeCustomPortHandler (lib : Library Num) (env : PostOutcome) (body : Option Bytes)
    (t : RouterTables) : PostResult :=
  withJson lib 128 127 "No body" body t fun json =>
    match json.getObjectItem "port", json.getObjectItem "proto" with
    | some port, some proto => do
      let protoStr ← nonNull proto.valuestring
      let r := serviceRemoveCustom env.save (port.uint16 lib) (protoOfStr protoStr).tag t.services
      .ok (customReply r.1 .notFound "Rule not found", { t with services := r.2 })
    | _, _ => .ok (.err .badRequest "Missing port or proto", t)

/-! ## Domains -/

/-- The reply of the two handlers, which return `ESP_OK` in any case. -/
def domainReply (ok : Bool) (status : HttpStatus) (text : String) : HttpReply :=
  if ok then .sendOk else { HttpReply.err status text with espOk := true }

/-- `add_blocked_domain_handler`. -/
def addBlockedDomainHandler (lib : Library Num) (env : PostOutcome) (body : Option Bytes)
    (t : RouterTables) : PostResult :=
  withJson lib 256 256 "Invalid request" body t fun json =>
    match (json.getObjectItem "domain").bind Item.valuestring with
    | some domainStr =>
      let r := addBlockedDomain env.domainSave (some domainStr) t.domains
      .ok (domainReply r.1 .internalServerError "Failed to add domain", { t with domains := r.2 })
    | none => .ok (.err .badRequest "Missing domain parameter", t)

/-- `remove_blocked_domain_handler`. -/
def removeBlockedDomainHandler (lib : Library Num) (env : PostOutcome) (body : Option Bytes)
    (t : RouterTables) : PostResult :=
  withJson lib 256 256 "Invalid request" body t fun json =>
    match (json.getObjectItem "domain").bind Item.valuestring with
    | some domainStr =>
      let r := removeBlockedDomain env.domainSave (some domainStr) t.domains
      .ok (domainReply r.1 .notFound "Domain not found", { t with domains := r.2 })
    | none => .ok (.err .badRequest "Missing domain parameter", t)

/-! ## Devices -/

/-- The octets that `sscanf` converts with `n` times `%hhX` and colons between them. -/
def scanOctets : ℕ → Bytes → List UInt8
  | 0, _ => []
  | n + 1, bs =>
    match scanHhX 32 bs with
    | some (b, 58 :: rest) => b :: scanOctets n rest
    | some (b, _) => [b]
    | none => []

/-- `mac` behind the `sscanf` of `update_mac_handler`: the octets that it does not convert are what
was there before. -/
def sscanfMac (macStr : CString) (junk : Mac) : Mac :=
  Vector.ofFn fun i => (scanOctets 6 macStr.bytes)[i.val]?.getD (junk.get i)

/-- `update_mac_handler`.  The text of the status is looked at only if there is such a device. -/
def updateMacHandler (lib : Library Num) (env : PostOutcome) (body : Option Bytes)
    (t : RouterTables) : PostResult :=
  withJson lib 128 128 "Invalid request" body t fun json =>
    match json.getObjectItem "mac", json.getObjectItem "status" with
    | some macItem, some statusItem => do
      let macStr ← nonNull macItem.valuestring
      let mac := sscanfMac macStr env.junk
      if macExists mac t.devices then
        let statusStr ← nonNull statusItem.valuestring
        let r := updateMac mac macStr statusStr t.devices
        .ok (.sendOk, { t with devices := r.2.1, logs := t.logs ++ r.2.2 })
      else .ok ({ HttpReply.err .notFound "MAC not found" with espOk := true }, t)
    | _, _ => .ok (.err .badRequest "Missing parameters", t)

end EspFirewall
