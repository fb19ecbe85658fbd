import EspFirewall.NvsHandles
import EspFirewall.PostRefusals

/-!
# Numbers in requests (`http_server.c`, `cmd_router.c`)

A port has 16 bits and an octet 8, and the requests give both as larger numbers: a JSON number, or an
`int` of `arg_parse`.  `nvs_set` compares such a number with the bounds of its type.  The two handlers
for custom ports, `portmap` and `set_mac` convert it, and act on what is left of it.

A number should be carried exactly by the rule, the mapping or the address that the request is about,
or the request should change nothing.  `numbers_exact_iff` says when that is so.
-/

set_option autoImplicit false

namespace EspFirewall

open CLang CJson HandleStore

/-! ## Conversions -/

/-- The number is one of `uint16_t`. -/
def IsPort (i : ℤ) : Prop := 0 ≤ i ∧ i ≤ 65535

instance (i : ℤ) : Decidable (IsPort i) := inferInstanceAs (Decidable (_ ∧ _))

/-- The number is one of `uint8_t`. -/
def IsOctet (i : ℤ) : Prop := 0 ≤ i ∧ i ≤ 255

instance (i : ℤ) : Decidable (IsOctet i) := inferInstanceAs (Decidable (_ ∧ _))

theorem toNat_portOfInt (i : ℤ) : ((portOfInt i).toNat : ℤ) = i % 65536 := by
  rw [portOfInt, UInt16.toNat_ofNat']
  omega

theorem toNat_octet (i : ℤ) : ((octet i).toNat : ℤ) = i % 256 := by
  rw [octet, UInt8.toNat_ofNat']
  omega

theorem isPort_toNat (port : UInt16) : IsPort port.toNat := by
  have hlt : port.toNat < 65536 := port.toNat_lt
  exact ⟨by omega, by omega⟩

/-- A port is exact if the number is one. -/
theorem portOfInt_exact_iff {i : ℤ} : ((portOfInt i).toNat : ℤ) = i ↔ IsPort i := by
  rw [toNat_portOfInt, IsPort]
  omega

theorem octet_exact_iff {i : ℤ} : ((octet i).toNat : ℤ) = i ↔ IsOctet i := by
  rw [toNat_octet, IsOctet]
  omega

/-! ## Custom ports -/

/-- A library whose numbers are integers. -/
def integers (parse : CString → Option (Item ℤ)) : Library ℤ := ⟨parse, portOfInt⟩

/-- The rule is for the port. -/
def CustomPortRule.Carries (port : ℤ) (r : CustomPortRule) : Prop :=
  r.active = true ∧ (r.port.toNat : ℤ) = port

/-- No more than slot `i` changes. -/
def ChangesOnly (i : Fin MAX_CUSTOM_PORT_RULES) (s s' : ServiceFilter) : Prop :=
  s'.services = s.services ∧ ∀ j, j ≠ i → s'.custom.rules j = s.custom.rules j

/-- A rule for the port is entered or changed, and nothing else. -/
def Enters (port : ℤ) (s s' : ServiceFilter) : Prop :=
  ∃ i, ChangesOnly i s s' ∧ (s'.custom.rules i).Carries port

/-- A rule for the port is cleared, and nothing else. -/
def Clears (port : ℤ) (s s' : ServiceFilter) : Prop :=
  ∃ i, ChangesOnly i s s' ∧ (s.custom.rules i).Carries port ∧ (s'.custom.rules i).active = false

theorem CustomPortRule.Carries.isPort {port : ℤ} {r : CustomPortRule} (h : r.Carries port) :
    IsPort port := h.2 ▸ isPort_toNat r.port

theorem CustomPortRule.carries_of_overlaps {port : ℤ} {proto : UInt8} {r : CustomPortRule}
    (h : r.overlaps (portOfInt port) proto = true) (hport : IsPort port) : r.Carries port := by
  obtain ⟨hactive, heq, -⟩ := overlaps_iff.1 h
  rw [Carries, heq]
  exact ⟨hactive, portOfInt_exact_iff.2 hport⟩

/-- **Adding a rule** is exact if the number is a port. -/
theorem enters_serviceAddCustom_iff {out : SaveOutcome} {name : Option CString} {port : ℤ}
    {proto : UInt8} {blocked : Bool} {s : ServiceFilter}
    (hok : (serviceAddCustom out name (portOfInt port) proto blocked s).1 = true) :
    Enters port s (serviceAddCustom out name (portOfInt port) proto blocked s).2 ↔
      IsPort port := by
  constructor
  · rintro ⟨i, -, hcarries⟩
    exact hcarries.isPort
  · intro hport
    obtain ⟨n, s', -, -, hservices, hcustom, -, -, hslot⟩ := serviceAddCustom_true hok
    rcases hslot with ⟨i, hi, hs'⟩ | ⟨-, i, -, hs'⟩
    · have hold := CustomPortRule.carries_of_overlaps (Slots.first_eq_some_iff.1 hi).1 hport
      refine ⟨i, ⟨hservices, fun j hj => ?_⟩, ?_⟩
      · rw [hcustom, hs', CustomTable.replace_rules, Function.update_of_ne hj]
      · rw [hcustom, hs', CustomTable.replace_rules, Function.update_self]
        exact hold
    · refine ⟨i, ⟨hservices, fun j hj => ?_⟩, ?_⟩
      · rw [hcustom, hs', CustomTable.put_rules, Function.update_of_ne hj]
      · rw [hcustom, hs', CustomTable.put_rules, Function.update_self]
        exact ⟨rfl, portOfInt_exact_iff.2 hport⟩

/-- **Removing a rule** is exact if the number is a port. -/
theorem clears_serviceRemoveCustom_iff {out : SaveOutcome} {port : ℤ} {proto : UInt8}
    {s : ServiceFilter} (hok : (serviceRemoveCustom out (portOfInt port) proto s).1 = true) :
    Clears port s (serviceRemoveCustom out (portOfInt port) proto s).2 ↔ IsPort port := by
  constructor
  · rintro ⟨i, -, hcarries, -⟩
    exact hcarries.isPort
  · intro hport
    obtain ⟨i, s', hi, hservices, hcustom, -, -, hs'⟩ := serviceRemoveCustom_true hok
    have hold := CustomPortRule.carries_of_overlaps (Slots.first_eq_some_iff.1 hi).1 hport
    refine ⟨i, ⟨hservices, fun j hj => ?_⟩, hold, ?_⟩
    · rw [hcustom, hs', CustomTable.recount_rules, Function.update_of_ne hj]
    · rw [hcustom, hs', CustomTable.recount_rules, Function.update_self]
      rfl

/-- The request carries an object whose `port` is the number. -/
structure CarriesPort (bufLen : ℕ) (parse : CString → Option (Item ℤ)) (body : Option Bytes)
    (bytes : Bytes) (json : Item ℤ) (port : ℤ) : Prop where
  /-- It is received in these bytes. -/
  recv : httpdReqRecv bufLen body = some bytes
  /-- They are the text of the object. -/
  parse : parse (.ofMem bytes) = some json
  /-- It has the member. -/
  port : json.getObjectItem "port" = some (.number port)

/-- The request is rejected and nothing changes, or the service filter changes as it should. -/
def PostResult.ActsOn (acts : ServiceFilter → ServiceFilter → Prop) (t : RouterTables)
    (r : PostResult) : Prop :=
  PostResult.Refused t r ∨ ∃ reply t', r = .ok (reply, t') ∧ acts t.services t'.services

theorem PostResult.actsOn_ok_iff {acts : ServiceFilter → ServiceFilter → Prop}
    {t t' : RouterTables} {reply : HttpReply} (h : reply.status = .ok) :
    PostResult.ActsOn acts t (.ok (reply, t')) ↔ acts t.services t'.services := by
  rw [ActsOn, or_iff_right (not_refused_done h)]
  constructor
  · rintro ⟨reply', t'', heq, hacts⟩
    obtain ⟨-, rfl⟩ := Prod.mk.inj (Except.ok.inj heq)
    exact hacts
  · exact fun hacts => ⟨reply, t', rfl, hacts⟩

theorem PostResult.not_actsOn_error {acts : ServiceFilter → ServiceFilter → Prop}
    {t : RouterTables} {fault : Fault} : ¬ PostResult.ActsOn acts t (.error fault) := by
  rintro (⟨reply, heq, -⟩ | ⟨reply, t', heq, -⟩) <;> exact absurd heq nofun

/-- The string of `proto` is used without a check. -/
theorem PostResult.actsOn_nonNull_iff {acts : ServiceFilter → ServiceFilter → Prop}
    {t : RouterTables} {proto : Item ℤ} {k : CString → PostResult} {P : Prop}
    (hk : ∀ s, proto = .string s → (PostResult.ActsOn acts t (k s) ↔ P)) :
    PostResult.ActsOn acts t (nonNull proto.valuestring >>= k) ↔ P ∧ proto.IsString := by
  cases hs : proto.valuestring with
  | none => exact iff_of_false not_actsOn_error fun h => Item.valuestring_eq_none_iff.1 hs h.2
  | some s =>
    have hstring := Item.valuestring_eq_some_iff.1 hs
    rw [and_iff_left ⟨s, hstring⟩]
    exact hk s hstring

/-- A handler that acts as it should on the objects that it does not refuse, if `P` holds. -/
theorem PostResult.actsOn_run_iff {lib : Library ℤ} {h : PostHandler} {body : Option Bytes}
    {bytes : Bytes} {json : Item ℤ} (hrecv : httpdReqRecv h.recvLen body = some bytes)
    (hroom : bytes.length < h.bufSize) (hparse : lib.parse (.ofMem bytes) = some json)
    {env : PostOutcome} {t : RouterTables} {acts : ServiceFilter → ServiceFilter → Prop} {P : Prop}
    (hdone : ¬ h.Refuses lib env t json → (PostResult.ActsOn acts t (h.run lib env body t) ↔ P)) :
    PostResult.ActsOn acts t (h.run lib env body t) ↔ h.Refuses lib env t json ∨ P := by
  by_cases hrefuses : h.Refuses lib env t json
  · refine iff_of_true (.inl ?_) (.inl hrefuses)
    rw [PostHandler.run_of_parse hrecv hroom hparse]
    exact (PostHandler.answer_refused_iff h).2 hrefuses
  · rw [or_iff_right hrefuses]
    exact hdone hrefuses

/-- **When adding a custom port is exact**: the number is a port, or the request is refused anyway. -/
theorem addCustomPort_exact_iff {parse : CString → Option (Item ℤ)} {body : Option Bytes}
    {bytes : Bytes} {json : Item ℤ} {port : ℤ} (h : CarriesPort 191 parse body bytes json port)
    (env : PostOutcome) (t : RouterTables) :
    PostResult.ActsOn (Enters port) t (addCustomPortHandler (integers parse) env body t) ↔
      PostHandler.addCustomPort.Refuses (integers parse) env t json ∨ IsPort port ∧
        ∀ proto, json.getObjectItem "proto" = some proto → proto.IsString := by
  have hroom : bytes.length < 192 := Nat.lt_succ_of_le (length_le_of_httpdReqRecv h.recv)
  refine PostResult.actsOn_run_iff (h := .addCustomPort) h.recv hroom h.parse fun hrefuses => ?_
  simp only [PostHandler.Refuses, not_forall] at hrefuses
  obtain ⟨name, port', proto, blocked, hname, hport, hproto, hblocked, hnot⟩ := hrefuses
  obtain rfl : Item.number port = port' := Option.some.inj (h.port.symm.trans hport)
  rw [PostHandler.run, addCustomPortHandler, withJson_of_parse h.recv hroom h.parse, hname, hport,
    hproto, hblocked]
  simp only [Option.some.injEq, forall_eq']
  refine PostResult.actsOn_nonNull_iff fun protoStr hstring => ?_
  have hok : (serviceAddCustom env.save name.valuestring (portOfInt port)
      (protoOfStr protoStr).tag blocked.isTrue t.services).1 = true := by
    rw [← Bool.not_eq_false, serviceAddCustom_refused_iff, Item.valuestring_eq_none_iff]
    exact fun hrefused => hnot ⟨protoStr, hstring, hrefused⟩
  refine (PostResult.actsOn_ok_iff ?_).trans (enters_serviceAddCustom_iff hok)
  exact congrArg HttpReply.status (if_pos hok)

/-- **When removing a custom port is exact.** -/
theorem removeCustomPort_exact_iff {parse : CString → Option (Item ℤ)} {body : Option Bytes}
    {bytes : Bytes} {json : Item ℤ} {port : ℤ} (h : CarriesPort 127 parse body bytes json port)
    (env : PostOutcome) (t : RouterTables) :
    PostResult.ActsOn (Clears port) t (removeCustomPortHandler (integers parse) env body t) ↔
      PostHandler.removeCustomPort.Refuses (integers parse) env t json ∨ IsPort port ∧
        ∀ proto, json.getObjectItem "proto" = some proto → proto.IsString := by
  have hroom : bytes.length < 128 := Nat.lt_succ_of_le (length_le_of_httpdReqRecv h.recv)
  refine PostResult.actsOn_run_iff (h := .removeCustomPort) h.recv hroom h.parse fun hrefuses => ?_
  simp only [PostHandler.Refuses, not_forall] at hrefuses
  obtain ⟨port', proto, hport, hproto, hnot⟩ := hrefuses
  obtain rfl : Item.number port = port' := Option.some.inj (h.port.symm.trans hport)
  rw [PostHandler.run, removeCustomPortHandler, withJson_of_parse h.recv hroom h.parse, hport,
    hproto]
  simp only [Option.some.injEq, forall_eq']
  refine PostResult.actsOn_nonNull_iff fun protoStr hstring => ?_
  have hok : (serviceRemoveCustom env.save (portOfInt port) (protoOfStr protoStr).tag
      t.services).1 = true := by
    rw [← Bool.not_eq_false, serviceRemoveCustom_refused_iff]
    exact fun hrefused => hnot ⟨protoStr, hstring, hrefused⟩
  refine (PostResult.actsOn_ok_iff ?_).trans (clears_serviceRemoveCustom_iff hok)
  exact congrArg HttpReply.status (if_pos hok)

/-! ## Port mappings -/

variable {H : Type} {n : ℕ}

/-- The table gains or loses the mapping, and changes nowhere else. -/
def OneMapping (s s' : Portmap n) (e : PortmapEntry) : Prop :=
  e.valid = true ∧ ∃ i, ((s.tab i).valid = false ∧ s'.tab i = e ∨
    s.tab i = e ∧ (s'.tab i).valid = false) ∧ ∀ j, j ≠ i → s'.tab j = s.tab j

/-- Nothing changes, or the mapping that the table gains or loses has the number as its external or
internal port. -/
def PortmapExact (port : PortmapEntry → UInt16) (number : ℤ) (s s' : Portmap n) : Prop :=
  SameCopies s s' ∨ ∃ e, OneMapping s s' e ∧ ((port e).toNat : ℤ) = number

/-- There is nothing to do: the table is full, or the key is not in it. -/
def PortmapChange.Idle (s : Portmap n) : PortmapChange → Prop
  | .add _ _ _ _ => ∀ i, (s.tab i).valid = true
  | .del proto mport => ∀ i, (s.tab i).maps proto mport = false

theorem OneMapping.of_gain {s s' : Portmap n} {i : Fin n} {e : PortmapEntry}
    (hfree : (s.tab i).valid = false) (he : e.valid = true)
    (htab : s'.tab = Function.update s.tab i e) : OneMapping s s' e := by
  refine ⟨he, i, .inl ⟨hfree, ?_⟩, fun j hj => ?_⟩
  · rw [htab, Function.update_self]
  · rw [htab, Function.update_of_ne hj]

theorem OneMapping.of_loss {s s' : Portmap n} {i : Fin n} (hvalid : (s.tab i).valid = true)
    (htab : s'.tab = Function.update s.tab i { s.tab i with valid := false }) :
    OneMapping s s' (s.tab i) := by
  refine ⟨hvalid, i, .inr ⟨rfl, ?_⟩, fun j hj => ?_⟩
  · rw [htab, Function.update_self]
  · rw [htab, Function.update_of_ne hj]

/-- The table changes in one entry. -/
theorem OneMapping.tab_ne {s s' : Portmap n} {e : PortmapEntry} (h : OneMapping s s' e) :
    s'.tab ≠ s.tab := by
  obtain ⟨he, i, ⟨hfree, hnew⟩ | ⟨hold, hfree⟩, -⟩ := h
  · intro heq
    rw [← heq, hnew, he] at hfree
    exact Bool.false_ne_true hfree.symm
  · intro heq
    rw [heq, hold, he] at hfree
    exact Bool.false_ne_true hfree.symm

/-- The mapping is determined by the tables. -/
theorem OneMapping.unique {s s' : Portmap n} {e e' : PortmapEntry} (h : OneMapping s s' e)
    (h' : OneMapping s s' e') : e = e' := by
  obtain ⟨he, i, hi, hsame⟩ := h
  obtain ⟨he', j, hj, hsame'⟩ := h'
  have hij : i = j := by
    by_contra hne
    have hi' := hsame' i hne
    rcases hi with ⟨hfree, hnew⟩ | ⟨hold, hfree⟩
    · rw [← hi', hnew, he] at hfree
      exact Bool.false_ne_true hfree.symm
    · rw [hi', hold, he] at hfree
      exact Bool.false_ne_true hfree.symm
  subst hij
  rcases hi with ⟨hfree, hnew⟩ | ⟨hold, hfree⟩ <;> rcases hj with ⟨hfree', hnew'⟩ | ⟨hold', hfree'⟩
  · exact hnew.symm.trans hnew'
  · rw [hold', he'] at hfree
    exact absurd hfree.symm Bool.false_ne_true
  · rw [hnew', he'] at hfree
    exact absurd hfree.symm Bool.false_ne_true
  · exact hold.symm.trans hold'

/-- A change of one mapping is exact if that has the number. -/
theorem portmapExact_iff {s s' : Portmap n} {e : PortmapEntry} (h : OneMapping s s' e)
    (port : PortmapEntry → UInt16) (number : ℤ) :
    PortmapExact port number s s' ↔ ((port e).toNat : ℤ) = number := by
  rw [PortmapExact, or_iff_right fun hsame => h.tab_ne hsame.1]
  constructor
  · rintro ⟨e', he', hnumber⟩
    rwa [h.unique he']
  · exact fun hnumber => ⟨e, h, hnumber⟩

/-- Where there is nothing to do, nothing is done. -/
theorem PortmapChange.sameCopies_of_idle {s : Portmap n} {c : PortmapChange} (h : c.Idle s)
    (out : PortmapSave) : SameCopies s (c.exec out s).2 := by
  rcases c with ⟨proto, mport, daddr, dport⟩ | ⟨proto, mport⟩
  · have hfull : Slots.first (fun e => !e.valid) s.tab = none :=
      Slots.first_eq_none_iff.2 fun i => by rw [h i, Bool.not_true]
    rw [exec, addPortmap, hfull]
    exact ⟨rfl, rfl, rfl⟩
  · rw [exec, delPortmap, Slots.first_eq_none_iff.2 h]
    exact ⟨rfl, rfl, rfl⟩

/-- The mapping that `add_portmap` adds, whether NVS can be opened or not. -/
theorem addPortmap_oneMapping {s : Portmap n} {i : Fin n}
    (hi : Slots.first (fun e => !e.valid) s.tab = some i) (out : PortmapSave) (proto : UInt8)
    (mport : UInt16) (daddr : UInt32) (dport : UInt16) :
    OneMapping s (addPortmap out proto mport daddr dport s).2 ⟨daddr, mport, dport, proto, true⟩ := by
  have hfree : (s.tab i).valid = false := Slots.eq_false_of_first hi
  refine .of_gain hfree rfl ?_
  rw [addPortmap, hi]
  dsimp only
  split <;> rfl

/-- The mapping that `del_portmap` removes. -/
theorem delPortmap_oneMapping {s : Portmap n} {proto : UInt8} {mport : UInt16} {i : Fin n}
    (hi : Slots.first (PortmapEntry.maps proto mport) s.tab = some i) (out : PortmapSave) :
    OneMapping s (delPortmap out proto mport s).2 (s.tab i) := by
  have hmaps := maps_iff.1 (Slots.first_eq_some_iff.1 hi).1
  refine .of_loss hmaps.1 ?_
  rw [delPortmap, hi]
  dsimp only
  split <;> rfl

/-- What `portmap` asks for. -/
theorem portmapRequest_eq {aton : CString → UInt32} {args : PortmapArgs} {c : PortmapChange}
    (h : portmapRequest aton args = some c) :
    (∃ proto, c = .add proto (portOfInt args.extPort) (aton args.intIp) (portOfInt args.intPort)) ∨
      ∃ proto, c = .del proto (portOfInt args.extPort) := by
  rw [portmapRequest] at h
  split at h
  · obtain ⟨proto, -, rfl⟩ := Option.map_eq_some_iff.1 h
    exact .inl ⟨proto, rfl⟩
  · split at h
    · obtain ⟨proto, -, rfl⟩ := Option.map_eq_some_iff.1 h
      exact .inr ⟨proto, rfl⟩
    · exact absurd h nofun

/-- The external port is exact: it is one, or there is nothing to do. -/
def PortmapChange.ExternalExact (s : Portmap n) (extPort : ℤ) (c : PortmapChange) : Prop :=
  c.Idle s ∨ IsPort extPort

/-- The internal port is exact.  One that is added is a port, if there is room for it; `del_portmap`
is not told the internal port, so the first mapping for the key, if there is one, has to have it. -/
def PortmapChange.InternalExact (s : Portmap n) (intPort : ℤ) : PortmapChange → Prop
  | .add _ _ _ _ => (∀ i, (s.tab i).valid = true) ∨ IsPort intPort
  | .del proto mport => ∀ i, Slots.first (PortmapEntry.maps proto mport) s.tab = some i →
      ((s.tab i).dport.toNat : ℤ) = intPort

theorem add_exact_iff {s : Portmap n} {proto : UInt8} {daddr : UInt32} {extPort intPort : ℤ}
    (out : PortmapSave) :
    let c := PortmapChange.add proto (portOfInt extPort) daddr (portOfInt intPort)
    (PortmapExact PortmapEntry.mport extPort s (c.exec out s).2 ↔ c.ExternalExact s extPort) ∧
      (PortmapExact PortmapEntry.dport intPort s (c.exec out s).2 ↔ c.InternalExact s intPort) := by
  dsimp only
  by_cases hfull : ∀ i, (s.tab i).valid = true
  · have hsame : SameCopies s (addPortmap out proto (portOfInt extPort) daddr (portOfInt intPort)
        s).2 := PortmapChange.sameCopies_of_idle (c := .add ..) hfull out
    exact ⟨iff_of_true (.inl hsame) (.inl hfull), iff_of_true (.inl hsame) (.inl hfull)⟩
  · cases hi : Slots.first (fun e => !e.valid) s.tab with
    | none =>
      refine absurd (fun i => ?_) hfull
      simpa using Slots.first_eq_none_iff.1 hi i
    | some i =>
      have hone := addPortmap_oneMapping hi out proto (portOfInt extPort) daddr (portOfInt intPort)
      constructor
      · refine (portmapExact_iff hone _ _).trans (portOfInt_exact_iff.trans ?_)
        exact (or_iff_right hfull).symm
      · refine (portmapExact_iff hone _ _).trans (portOfInt_exact_iff.trans ?_)
        exact (or_iff_right hfull).symm

theorem del_exact_iff {s : Portmap n} {proto : UInt8} {extPort : ℤ} (intPort : ℤ)
    (out : PortmapSave) :
    let c := PortmapChange.del proto (portOfInt extPort)
    (PortmapExact PortmapEntry.mport extPort s (c.exec out s).2 ↔ c.ExternalExact s extPort) ∧
      (PortmapExact PortmapEntry.dport intPort s (c.exec out s).2 ↔ c.InternalExact s intPort) := by
  dsimp only
  cases hi : Slots.first (PortmapEntry.maps proto (portOfInt extPort)) s.tab with
  | none =>
    have hidle := Slots.first_eq_none_iff.1 hi
    have hsame : SameCopies s (delPortmap out proto (portOfInt extPort) s).2 :=
      PortmapChange.sameCopies_of_idle (c := .del ..) hidle out
    refine ⟨iff_of_true (.inl hsame) (.inl hidle), iff_of_true (.inl hsame) fun i h => ?_⟩
    exact absurd (hi.symm.trans h) nofun
  | some i =>
    have hone := delPortmap_oneMapping hi out
    have hkey := (maps_iff.1 (Slots.first_eq_some_iff.1 hi).1).2
    have hmport : (s.tab i).mport = portOfInt extPort := congrArg Prod.snd hkey
    constructor
    · refine (portmapExact_iff hone _ _).trans ?_
      rw [hmport, portOfInt_exact_iff]
      refine (or_iff_right fun hidle => ?_).symm
      exact Bool.false_ne_true ((hidle i).symm.trans (Slots.first_eq_some_iff.1 hi).1)
    · refine (portmapExact_iff hone _ _).trans ?_
      rw [PortmapChange.InternalExact, hi]
      simp only [Option.some.injEq, forall_eq']

/-- **When a port mapping is exact.** -/
theorem portmap_exact_iff {argParse : List CString → Option PortmapArgs} {argv : List CString}
    {args : PortmapArgs} (hparse : argParse argv = some args) (aton : CString → UInt32)
    (out : PortmapSave) (nvs : H) (s : Portmap n) :
    (PortmapExact PortmapEntry.mport args.extPort s
        (portmapCommand argParse aton out nvs argv s).2.1 ↔
      ∀ c ∈ portmapRequest aton args, c.ExternalExact s args.extPort) ∧
    (PortmapExact PortmapEntry.dport args.intPort s
        (portmapCommand argParse aton out nvs argv s).2.1 ↔
      ∀ c ∈ portmapRequest aton args, c.InternalExact s args.intPort) := by
  rw [portmapCommand, hparse, Option.bind_some]
  cases hc : portmapRequest aton args with
  | none =>
    have hsame : SameCopies s s := ⟨rfl, rfl, rfl⟩
    exact ⟨iff_of_true (.inl hsame) fun c hc => absurd hc (Option.not_mem_none c),
      iff_of_true (.inl hsame) fun c hc => absurd hc (Option.not_mem_none c)⟩
  | some c =>
    simp only [Option.mem_def, Option.some.injEq, forall_eq']
    rcases portmapRequest_eq hc with ⟨proto, rfl⟩ | ⟨proto, rfl⟩
    · exact add_exact_iff out
    · exact del_exact_iff args.intPort out

/-! ## MAC addresses -/

/-- The two commands that are `set_mac`, with their keys. -/
def macCommands : List (SettingsCommand × String) := [(.setStaMac, "mac"), (.setApMac, "ap_mac")]

section

variable [DecidableEq H]

/-- The command fails and stores nothing, or the address that is stored has the octets. -/
def MacExact (argParse : CommandParse) (out : ParamSave) (h : H) (argv : List CString)
    (c : SettingsCommand) (key : String) (nvs : NvsParams) (mac : Vector ℤ 6) : Prop :=
  let r := c.exec argParse out h argv
  (r.1 ≠ .ok ∧ durableAfter nvs r.2 = nvs) ∨ ∃ bytes : Bytes,
    durableAfter nvs r.2 key = some (.blob bytes) ∧ bytes.map (fun b => (b.toNat : ℤ)) = mac.toList

/-- The octets of an address are exact if they are octets. -/
theorem map_octet_exact_iff {mac : List ℤ} :
    (mac.map octet).map (fun b => (b.toNat : ℤ)) = mac ↔ ∀ i ∈ mac, IsOctet i := by
  rw [List.map_map]
  conv_lhs => rhs; rw [← List.map_id mac]
  rw [List.map_inj_left]
  exact forall₂_congr fun i _ => octet_exact_iff

/-- **When a MAC address is exact.** -/
theorem setMac_exact_iff {argParse : CommandParse} {argv : List CString} {mac : Vector ℤ 6}
    (hparse : argParse.setMac argv = some mac) {c : SettingsCommand} {key : String}
    (hc : (c, key) ∈ macCommands) (out : ParamSave) (h : H) (nvs : NvsParams) :
    MacExact argParse out h argv c key nvs mac ↔ (∀ i ∈ mac.toList, IsOctet i) ∨
      ¬ (CanWrite out (setMacValues key mac) ∧ out.committed = true) := by
  have hexec : c.exec argParse out h argv = storeSession true h out (setMacValues key mac) := by
    rw [macCommands, List.mem_cons, List.mem_singleton, Prod.mk.injEq, Prod.mk.injEq] at hc
    rcases hc with ⟨rfl, rfl⟩ | ⟨rfl, rfl⟩ <;>
      rw [SettingsCommand.exec, SettingsCommand.values, hparse] <;> rfl
  rw [MacExact, hexec]
  by_cases hok : CanWrite out (setMacValues key mac) ∧ out.committed = true
  · obtain ⟨hresult, hdurable⟩ := storeSession_of_ok h nvs hok.1 hok.2
    have hstored : applyAll ((setMacValues key mac).map putValue) nvs key =
        some (.blob (mac.toList.map octet)) := Function.update_self ..
    rw [or_iff_left (not_not_intro hok), hresult, hdurable, hstored,
      or_iff_right fun hfail => hfail.1 rfl, ← map_octet_exact_iff]
    constructor
    · rintro ⟨bytes, hbytes, hexact⟩
      rwa [NvsValue.blob.inj (Option.some.inj hbytes)]
    · exact fun hexact => ⟨_, rfl, hexact⟩
  · obtain ⟨hresult, hdurable⟩ := storeSession_of_not h nvs hok
    refine iff_of_true (.inl ⟨?_, hdurable⟩) (.inr hok)
    rw [hresult]
    exact CommandResult.noConfusion

end

/-! ## All of them -/

/-- **When the numbers in requests are exact.**  Adding and removing a custom port, if the number is a
port and `proto`, if it is there, a string, or the request is refused anyway; `portmap`, if the ports
are, or there is nothing to do, and if a mapping that is deleted has the internal port given; and
`set_mac`, if all octets are, or an NVS call fails. -/
theorem numbers_exact_iff {H : Type} [DecidableEq H] {n : ℕ} :
    (∀ parse body bytes json port env t, CarriesPort 191 parse body bytes json port →
      (PostResult.ActsOn (Enters port) t (addCustomPortHandler (integers parse) env body t) ↔
        PostHandler.addCustomPort.Refuses (integers parse) env t json ∨ IsPort port ∧
          ∀ proto, json.getObjectItem "proto" = some proto → proto.IsString)) ∧
    (∀ parse body bytes json port env t, CarriesPort 127 parse body bytes json port →
      (PostResult.ActsOn (Clears port) t (removeCustomPortHandler (integers parse) env body t) ↔
        PostHandler.removeCustomPort.Refuses (integers parse) env t json ∨ IsPort port ∧
          ∀ proto, json.getObjectItem "proto" = some proto → proto.IsString)) ∧
    (∀ argParse argv args aton out (nvs : H) (s : Portmap n), argParse argv = some args →
      (PortmapExact PortmapEntry.mport args.extPort s
          (portmapCommand argParse aton out nvs argv s).2.1 ↔
        ∀ c ∈ portmapRequest aton args, c.ExternalExact s args.extPort) ∧
      (PortmapExact PortmapEntry.dport args.intPort s
          (portmapCommand argParse aton out nvs argv s).2.1 ↔
        ∀ c ∈ portmapRequest aton args, c.InternalExact s args.intPort)) ∧
    ∀ argParse argv mac c key out (h : H) nvs, argParse.setMac argv = some mac →
      (c, key) ∈ macCommands →
      (MacExact argParse out h argv c key nvs mac ↔ (∀ i ∈ mac.toList, IsOctet i) ∨
        ¬ (CanWrite out (setMacValues key mac) ∧ out.committed = true)) :=
  ⟨fun _ _ _ _ _ env t h => addCustomPort_exact_iff h env t,
    fun _ _ _ _ _ env t h => removeCustomPort_exact_iff h env t,
    fun _ _ _ aton out nvs s hparse => portmap_exact_iff hparse aton out nvs s,
    fun _ _ _ _ _ out h nvs hparse hc => setMac_exact_iff hparse hc out h nvs⟩

/-- `{"name":"web","port":…,"proto":"tcp","blocked":true}`. -/
def portText (port : String) : Bytes :=
  ascii "\x7b\"name\":\"web\",\"port\":" ++ ascii port ++
    ascii ",\"proto\":\"tcp\",\"blocked\":true\x7d"

/-- Its object. -/
def portObject (port : ℤ) : Item ℤ :=
  .object [(.lit "name", .string (.lit "web")), (.lit "port", .number port),
    (.lit "proto", .string (.lit "tcp")), (.lit "blocked", .bool true)]

theorem portObject_proto (port : ℤ) :
    (portObject port).getObjectItem "proto" = some (.string (.lit "tcp")) := by
  rw [portObject, Item.getObjectItem_skip (by decide), Item.getObjectItem_skip (by decide)]
  exact Item.getObjectItem_head ..

theorem carriesPort_portText {bufLen : ℕ} {digits : String} {port : ℤ}
    (hlen : (portText digits).length ≤ bufLen) (hnul : 0 ∉ portText digits) :
    CarriesPort bufLen (Library.ofText portOfInt (portText digits) (portObject port)).parse
      (some (portText digits)) (portText digits) (portObject port) port where
  recv := httpdReqRecv_of_length_le nofun hlen
  parse := Library.ofText_parse (by rw [CString.ofMem_bytes hnul]) _
  port := by
    rw [portObject, Item.getObjectItem_skip (by decide)]
    exact Item.getObjectItem_head ..

/-- An `arg_parse` for `portmap add TCP 8080 192.168.4.2 80`. -/
def portmapParse : List CString → Option PortmapArgs := fun _ =>
  some ⟨.lit "add", .lit "TCP", 8080, .lit "192.168.4.2", 80⟩

/-- A custom port is added, another removed, a port mapped, and an address set. -/
theorem numbers_exact_example :
    PostResult.ActsOn (Enters 8080) .firstBoot (addCustomPortHandler
      (integers (Library.ofText portOfInt (portText "8080") (portObject 8080)).parse)
      ⟨.ok, .ok, stationMac⟩ (some (portText "8080")) .firstBoot) ∧
    PostResult.ActsOn (Clears 8080) .firstBoot (removeCustomPortHandler
      (integers (Library.ofText portOfInt (portText "8080") (portObject 8080)).parse)
      ⟨.ok, .ok, stationMac⟩ (some (portText "8080")) .firstBoot) ∧
    PortmapExact PortmapEntry.mport 8080 (Portmap.unused 0 [] : Portmap 4)
      (portmapCommand portmapParse (fun _ => 0) .ok 1 [] (Portmap.unused 0 [] : Portmap 4)).2.1 ∧
    MacExact { apParse with setMac := fun _ => some #v[2, 0, 0, 0, 0, 1] } .ok 1 [] .setApMac
      "ap_mac" (fun _ => none) #v[2, 0, 0, 0, 0, 1] := by
  obtain ⟨hadd, hremove, hportmap, hmac⟩ := @numbers_exact_iff ℕ _ 4
  have hproto : ∀ proto, (portObject 8080).getObjectItem "proto" = some proto → proto.IsString :=
    fun proto h => ⟨_, Option.some.inj (h.symm.trans (portObject_proto 8080))⟩
  refine ⟨?_, ?_, ?_, ?_⟩
  · exact (hadd _ _ _ _ _ _ _ (carriesPort_portText (by decide) (by decide))).2
      (.inr ⟨by decide, hproto⟩)
  · exact (hremove _ _ _ _ _ _ _ (carriesPort_portText (by decide) (by decide))).2
      (.inr ⟨by decide, hproto⟩)
  · exact (hportmap portmapParse [] _ _ _ _ _ rfl).1.2 fun c _ => .inr (by decide)
  · exact (hmac _ _ _ _ _ _ _ _ rfl (by decide)).2 (.inl (by decide))

/-- 65616 is 80 in 16 bits: the request adds a rule for HTTP. -/
theorem port_narrowed : ¬ ∀ (parse : CString → Option (Item ℤ)) (body : Option Bytes)
    (bytes : Bytes) (json : Item ℤ) (port : ℤ) (env : PostOutcome) (t : RouterTables),
    CarriesPort 191 parse body bytes json port →
      PostResult.ActsOn (Enters port) t (addCustomPortHandler (integers parse) env body t) := by
  intro hall
  have hcarries := @carriesPort_portText 191 "65616" 65616 (by decide) (by decide)
  have hacts := hall _ _ _ _ _ ⟨.ok, .ok, stationMac⟩ .firstBoot hcarries
  rcases (addCustomPort_exact_iff hcarries _ _).1 hacts with hrefuses | ⟨hport, -⟩
  · have hname : (portObject 65616).getObjectItem "name" = some (.string (.lit "web")) :=
      Item.getObjectItem_head ..
    have hblocked : (portObject 65616).getObjectItem "blocked" = some (.bool true) := by
      rw [portObject, Item.getObjectItem_skip (by decide), Item.getObjectItem_skip (by decide),
        Item.getObjectItem_skip (by decide)]
      exact Item.getObjectItem_head ..
    obtain ⟨protoStr, -, hzero | hstring | hfull⟩ :=
      hrefuses _ _ _ _ hname hcarries.port (portObject_proto 65616) hblocked
    · exact absurd hzero (by decide)
    · exact hstring ⟨_, rfl⟩
    · exact absurd (hfull 0).1 (by decide)
  · exact absurd hport (by decide)

end EspFirewall
