import Mathlib.Data.Fin.VecNotation
import EspFirewall.General.BitMask
import EspFirewall.General.Slots
import EspFirewall.General.Staged
import EspFirewall.General.StepSystem
import EspFirewall.LogBuffer

/-!
# The service filter (`service_filter.c`)

The packet policy for a protocol and a destination port: the custom rules first, in slot order,
then the built-in services, and what neither decides is allowed.  The built-in table is fixed but
for its `blocked` flags.  The custom rules sit in `MAX_CUSTOM_PORT_RULES` slots, of which only the
ones below `g_custom_rule_count` are looked at when a packet is decided, while adding and removing
a rule look at all of them.

Both tables are written to NVS after every change, the flags as a bit mask and the slots as they
are, and read back by `init_service_filter`.  An NVS call may fail, and the firmware ignores most
of these failures; a `SaveOutcome` or a `LoadOutcome` says what the calls of one save or one load
return.

`ServiceFilter.step` is one call from outside, a reboot included.
-/

set_option autoImplicit false

namespace EspFirewall

open CLang

/-- `MAX_CUSTOM_PORT_RULES`. -/
abbrev MAX_CUSTOM_PORT_RULES : ℕ := 20

/-- `MAX_SERVICE_NAME_LEN`. -/
abbrev MAX_SERVICE_NAME_LEN : ℕ := 24

/-- `SVC_BUILTIN_COUNT`. -/
abbrev SVC_BUILTIN_COUNT : ℕ := 16

/-- `SVC_PROTO_TCP`. -/
abbrev SVC_PROTO_TCP : UInt8 := 6

/-- `SVC_PROTO_UDP`. -/
abbrev SVC_PROTO_UDP : UInt8 := 17

/-- `SVC_PROTO_BOTH`: match both TCP and UDP. -/
abbrev SVC_PROTO_BOTH : UInt8 := 0

instance : NeZero MAX_SERVICE_NAME_LEN := ⟨by decide⟩

/-! ## The tables -/

/-- `service_rule_t`. -/
structure ServiceRule where
  name : CharBuf MAX_SERVICE_NAME_LEN
  port : UInt16
  /-- `SVC_PROTO_TCP`, `SVC_PROTO_UDP` or `SVC_PROTO_BOTH`. -/
  proto : UInt8
  /-- Drop packets to this port. -/
  blocked : Bool
  /-- Always true for built-ins. -/
  active : Bool
deriving DecidableEq

/-- `custom_port_rule_t`. -/
structure CustomPortRule where
  name : CharBuf MAX_SERVICE_NAME_LEN
  port : UInt16
  proto : UInt8
  blocked : Bool
  /-- False in an empty slot. -/
  active : Bool
deriving DecidableEq

/-- A slot after `memset`. -/
def CustomPortRule.zero : CustomPortRule := ⟨.zero, 0, 0, false, false⟩

/-- The slots of `g_custom_rules`. -/
abbrev CustomRules := Fin MAX_CUSTOM_PORT_RULES → CustomPortRule

/-- The entries of `g_services`. -/
abbrev Services := Fin SVC_BUILTIN_COUNT → ServiceRule

/-- An entry of the static initialiser of `g_services`. -/
def builtin (name : String) (port : UInt16) (proto : UInt8) : ServiceRule :=
  ⟨.strncpy (.lit name), port, proto, false, true⟩

/-- The static initialiser of `g_services`. -/
def builtinServices : Services :=
  ![builtin "HTTP" 80 SVC_PROTO_TCP, builtin "HTTPS" 443 SVC_PROTO_TCP,
    builtin "DNS" 53 SVC_PROTO_UDP, builtin "SSH" 22 SVC_PROTO_TCP,
    builtin "FTP" 21 SVC_PROTO_TCP, builtin "FTP-DATA" 20 SVC_PROTO_TCP,
    builtin "SMTP" 25 SVC_PROTO_TCP, builtin "SMTPS" 465 SVC_PROTO_TCP,
    builtin "POP3" 110 SVC_PROTO_TCP, builtin "IMAP" 143 SVC_PROTO_TCP,
    builtin "IMAPS" 993 SVC_PROTO_TCP, builtin "RDP" 3389 SVC_PROTO_TCP,
    builtin "NTP" 123 SVC_PROTO_UDP, builtin "TELNET" 23 SVC_PROTO_TCP,
    builtin "MQTT" 1883 SVC_PROTO_TCP, builtin "MQTTS" 8883 SVC_PROTO_TCP]

/-- `g_custom_rules` with `g_custom_rule_count`. -/
structure CustomTable where
  /-- `g_custom_rules`. -/
  rules : CustomRules
  /-- `g_custom_rule_count`. -/
  count : ℕ
  /-- The loops bounded by the count stay inside the array. -/
  count_le : count ≤ MAX_CUSTOM_PORT_RULES

namespace CustomTable

/-- Both zeroed: the state `init_service_filter` starts from. -/
def zero : CustomTable := ⟨fun _ => .zero, 0, Nat.zero_le _⟩

/-- The slots `rules`, with the count recomputed by the loop that scans down for an active slot,
as both `load_service_rules` and `service_remove_custom` do. -/
def recount (rules : CustomRules) : CustomTable :=
  ⟨rules, Slots.highWater CustomPortRule.active rules, Slots.highWater_le _ _⟩

/-- Write slot `i` and raise the count to cover it. -/
def put (t : CustomTable) (i : Fin MAX_CUSTOM_PORT_RULES) (r : CustomPortRule) : CustomTable :=
  ⟨Function.update t.rules i r, max (i.val + 1) t.count, by
    have hi := i.isLt
    have hc := t.count_le
    omega⟩

/-- Write slot `i` and leave the count alone. -/
def replace (t : CustomTable) (i : Fin MAX_CUSTOM_PORT_RULES) (r : CustomPortRule) :
    CustomTable :=
  ⟨Function.update t.rules i r, t.count, t.count_le⟩

end CustomTable

/-- The two NVS keys of the service filter. -/
structure ServiceNvs where
  /-- `svc_blocked`: a bit mask, bit `i` for `g_services[i].blocked`. -/
  svcBlocked : Option UInt32
  /-- `svc_custom`: the slots. -/
  svcCustom : Option CustomRules

/-- An NVS in which neither key has ever been written. -/
def ServiceNvs.empty : ServiceNvs := ⟨none, none⟩

/-- The globals of `service_filter.c`, what is in NVS, and the log calls made so far. -/
structure ServiceFilter where
  /-- `g_services`. -/
  services : Services
  /-- `g_custom_rules` and `g_custom_rule_count`. -/
  custom : CustomTable
  /-- What is durable. -/
  nvs : ServiceNvs
  /-- The log calls made so far. -/
  logs : List LogCall

/-- What the NVS calls of `save_service_rules` return. -/
structure SaveOutcome where
  opened : Bool
  wroteMask : Bool
  wroteRules : Bool
  committed : Bool

/-- Every call succeeds. -/
def SaveOutcome.ok : SaveOutcome := ⟨true, true, true, true⟩

/-- What the NVS calls of `load_service_rules` return, apart from a key that was never written,
whose read fails in any case. -/
structure LoadOutcome where
  opened : Bool
  readMask : Bool
  readRules : Bool

/-- Every call succeeds. -/
def LoadOutcome.ok : LoadOutcome := ⟨true, true, true⟩

/-! ## Saving and loading -/

/-- The `blocked` flags as a bit mask. -/
def blockedMask (services : Services) : UInt32 := BitMask.pack fun i => (services i).blocked

/-- The services with the `blocked` flags of a bit mask. -/
def applyMask (mask : UInt32) (services : Services) : Services := fun i =>
  { services i with blocked := BitMask.bit mask i.val }

namespace ServiceFilter

/-- `add_log_line`. -/
def log (call : LogCall) (s : ServiceFilter) : ServiceFilter :=
  { s with logs := s.logs ++ [call] }

end ServiceFilter

/-- `save_service_rules`. -/
def saveServiceRules (out : SaveOutcome) (s : ServiceFilter) : ServiceFilter :=
  if out.opened then
    let h := Staged.Handle.fresh s.nvs
    let h := h.set out.wroteMask fun n => { n with svcBlocked := some (blockedMask s.services) }
    let h := h.set out.wroteRules fun n => { n with svcCustom := some s.custom.rules }
    let h := h.commit out.committed
    { s with nvs := h.close }.log (.fmt "Service rules saved" [])
  else s

/-- `load_service_rules`. -/
def loadServiceRules (out : LoadOutcome) (s : ServiceFilter) : ServiceFilter :=
  if out.opened then
    { s with
      services := match out.readMask, s.nvs.svcBlocked with
        | true, some mask => applyMask mask s.services
        | _, _ => s.services
      custom := match out.readRules, s.nvs.svcCustom with
        | true, some rules => .recount rules
        | _, _ => s.custom }
  else s

/-- `init_service_filter`. -/
def initServiceFilter (out : LoadOutcome) (s : ServiceFilter) : ServiceFilter :=
  (loadServiceRules out { s with custom := .zero }).log
    (.fmt "Service filter initialised (%d built-ins)" [.int SVC_BUILTIN_COUNT])

/-- Power on: the static initialisers, then `init_service_filter` over what NVS holds. -/
def bootServiceFilter (out : LoadOutcome) (nvs : ServiceNvs) : ServiceFilter :=
  initServiceFilter out ⟨builtinServices, .zero, nvs, []⟩

/-! ## Changing the rules -/

/-- `service_set_blocked`. -/
def serviceSetBlocked (out : SaveOutcome) (id : ℕ) (blocked : Bool) (s : ServiceFilter) :
    ServiceFilter :=
  if h : id < SVC_BUILTIN_COUNT then
    let i : Fin SVC_BUILTIN_COUNT := ⟨id, h⟩
    let s := { s with
      services := Function.update s.services i { s.services i with blocked := blocked } }
    (saveServiceRules out s).log (.fmt "Service %s: %s"
      [.str (s.services i).name.str, .str (.lit (if blocked then "BLOCKED" else "ALLOWED"))])
  else s

/-- `to_upper` into a buffer of `MAX_SERVICE_NAME_LEN` bytes. -/
def toUpper (s : CString) : Bytes := (s.bytes.take (MAX_SERVICE_NAME_LEN - 1)).map toupper

/-- `service_find_by_name`; `SVC_BUILTIN_COUNT` when there is no such service. -/
def serviceFindByName (services : Services) (name : Option CString) : ℕ :=
  match name with
  | none => SVC_BUILTIN_COUNT
  | some name =>
    match Slots.first (fun r => toUpper name == toUpper r.name.str) services with
    | some i => i
    | none => SVC_BUILTIN_COUNT

/-- The test of the update loop of `service_add_custom`. -/
def CustomPortRule.overlaps (port : UInt16) (proto : UInt8) (r : CustomPortRule) : Bool :=
  r.active && (r.port == port &&
    (r.proto == proto || proto == SVC_PROTO_BOTH || r.proto == SVC_PROTO_BOTH))

/-- `service_add_custom`: update the first rule that overlaps, else take the first empty slot. -/
def serviceAddCustom (out : SaveOutcome) (name : Option CString) (port : UInt16) (proto : UInt8)
    (blocked : Bool) (s : ServiceFilter) : Bool × ServiceFilter :=
  match name with
  | none => (false, s)
  | some name =>
    if port = 0 then (false, s)
    else match Slots.first (CustomPortRule.overlaps port proto) s.custom.rules with
      | some i =>
        let r := { s.custom.rules i with
          blocked := blocked, proto := proto, name := CharBuf.strncpy name }
        (true, saveServiceRules out { s with custom := s.custom.replace i r })
      | none =>
        match Slots.first (fun r => !r.active) s.custom.rules with
        | some i =>
          let r := ⟨.strncpy name, port, proto, blocked, true⟩
          (true, (saveServiceRules out { s with custom := s.custom.put i r }).log
            (.fmt "Custom port rule added: %s port=%u" [.str name, .int port.toNat]))
        | none => (false, s)

/-- The tests of the loop of `service_remove_custom`, each of which skips a slot. -/
def CustomPortRule.removable (port : UInt16) (proto : UInt8) (r : CustomPortRule) : Bool :=
  !(!r.active) && !(r.port != port) &&
    !(proto != SVC_PROTO_BOTH && r.proto != proto && r.proto != SVC_PROTO_BOTH)

/-- `service_remove_custom`: clear the first rule that matches. -/
def serviceRemoveCustom (out : SaveOutcome) (port : UInt16) (proto : UInt8) (s : ServiceFilter) :
    Bool × ServiceFilter :=
  match Slots.first (CustomPortRule.removable port proto) s.custom.rules with
  | some i =>
    let s := s.log (.fmt "Custom port rule removed: %s port=%u"
      [.str (s.custom.rules i).name.str, .int port.toNat])
    (true, saveServiceRules out
      { s with custom := .recount (Function.update s.custom.rules i .zero) })
  | none => (false, s)

/-! ## Deciding a packet -/

/-- `proto_matches`. -/
def protoMatches (ruleProto pktProto : UInt8) : Bool :=
  if ruleProto == SVC_PROTO_BOTH then true else ruleProto == pktProto

/-- The tests of the first loop of `service_is_port_allowed`. -/
def CustomPortRule.decides (proto : UInt8) (port : UInt16) (r : CustomPortRule) : Bool :=
  r.active && (r.port == port && protoMatches r.proto proto)

/-- The tests of the second loop of `service_is_port_allowed`. -/
def ServiceRule.decides (proto : UInt8) (port : UInt16) (r : ServiceRule) : Bool :=
  r.active && (r.port == port && protoMatches r.proto proto)

/-- `service_is_port_allowed`. -/
def serviceIsPortAllowed (s : ServiceFilter) (proto : UInt8) (dstPort : UInt16) : Bool :=
  match Slots.firstBelow s.custom.count (CustomPortRule.decides proto dstPort) s.custom.rules with
  | some i => !(s.custom.rules i).blocked
  | none =>
    match Slots.first (ServiceRule.decides proto dstPort) s.services with
    | some i => !(s.services i).blocked
    | none => true

/-! ## Runs -/

/-- The protocol of a custom rule, as the HTTP handlers choose it. -/
inductive SvcProto
  | tcp
  | udp
  | both
deriving DecidableEq

/-- The tag stored in a rule. -/
def SvcProto.tag : SvcProto → UInt8
  | .tcp => SVC_PROTO_TCP
  | .udp => SVC_PROTO_UDP
  | .both => SVC_PROTO_BOTH

/-- A call of the service filter from outside, with what its NVS calls return. -/
inductive ServiceOp
  | setBlocked (out : SaveOutcome) (id : ℕ) (blocked : Bool)
  | addCustom (out : SaveOutcome) (name : Option CString) (port : UInt16) (proto : SvcProto)
      (blocked : Bool)
  | removeCustom (out : SaveOutcome) (port : UInt16) (proto : SvcProto)
  | reboot (out : LoadOutcome)

namespace ServiceFilter

/-- One call. -/
def step (s : ServiceFilter) : ServiceOp → ServiceFilter
  | .setBlocked out id blocked => serviceSetBlocked out id blocked s
  | .addCustom out name port proto blocked =>
    (serviceAddCustom out name port proto.tag blocked s).2
  | .removeCustom out port proto => (serviceRemoveCustom out port proto.tag s).2
  | .reboot out => bootServiceFilter out s.nvs

/-- The first boot of a device: nothing in NVS yet. -/
def FirstBoot (s : ServiceFilter) : Prop := ∃ out, s = bootServiceFilter out .empty

/-- The states that any calls and reboots lead to. -/
def Reachable : ServiceFilter → Prop := StepSystem.Reachable step FirstBoot

end ServiceFilter

end EspFirewall
