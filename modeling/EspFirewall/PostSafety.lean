import EspFirewall.PostHandlers
import EspFirewall.ServiceFilter.Lookup

/-!
# Which bodies a POST handler withstands

A handler withstands a body if it does nothing undefined with it, and if it answers a body that does
not carry members of the types it expects with an error and changes nothing.

Four of the handlers ask `httpd_req_recv` for as many bytes as the array has, and have no room left
for the terminator when they get them.  Five use the string of an item without asking whether it is
one, and those that take a boolean take anything else for `false`.  `postHandler_safe_iff` says for
each handler exactly which bodies it withstands.
-/

set_option autoImplicit false

namespace EspFirewall

open CLang CJson

/-- The handlers. -/
inductive PostHandler
  | updatePortRule
  | addBlockedDomain
  | removeBlockedDomain
  | updateMac
  | setService
  | addCustomPort
  | removeCustomPort
deriving DecidableEq

variable {Num : Type}

namespace PostHandler

/-- What the handler does with a body. -/
def run (lib : Library Num) (env : PostOutcome) (body : Option Bytes) (t : RouterTables) :
    PostHandler → PostResult
  | .updatePortRule => updatePortRuleHandler lib env body t
  | .addBlockedDomain => addBlockedDomainHandler lib env body t
  | .removeBlockedDomain => removeBlockedDomainHandler lib env body t
  | .updateMac => updateMacHandler lib env body t
  | .setService => setServiceHandler lib env body t
  | .addCustomPort => addCustomPortHandler lib env body t
  | .removeCustomPort => removeCustomPortHandler lib env body t

/-- The length of the array `buf`. -/
def bufSize : PostHandler → ℕ
  | .updatePortRule | .addBlockedDomain | .removeBlockedDomain => 256
  | .updateMac | .setService | .removeCustomPort => 128
  | .addCustomPort => 192

/-- The length that the handler passes to `httpd_req_recv`. -/
def recvLen : PostHandler → ℕ
  | .updatePortRule | .addBlockedDomain | .removeBlockedDomain => 256
  | .updateMac => 128
  | .setService | .removeCustomPort => 127
  | .addCustomPort => 191

/-- The object has the members that the handler expects, each of its type. -/
def Expects (json : Item Num) : PostHandler → Prop
  | .updatePortRule => ∃ port enabled, json.getObjectItem "port" = some port ∧
      json.getObjectItem "enabled" = some enabled ∧ port.IsString ∧ enabled.IsBool
  | .addBlockedDomain | .removeBlockedDomain =>
    ∃ domain, json.getObjectItem "domain" = some domain ∧ domain.IsString
  | .updateMac => ∃ mac status, json.getObjectItem "mac" = some mac ∧
      json.getObjectItem "status" = some status ∧ mac.IsString ∧ status.IsString
  | .setService => ∃ name blocked, json.getObjectItem "name" = some name ∧
      json.getObjectItem "blocked" = some blocked ∧ name.IsString ∧ blocked.IsBool
  | .addCustomPort => ∃ name port proto blocked, json.getObjectItem "name" = some name ∧
      json.getObjectItem "port" = some port ∧ json.getObjectItem "proto" = some proto ∧
      json.getObjectItem "blocked" = some blocked ∧
      name.IsString ∧ port.IsNumber ∧ proto.IsString ∧ blocked.IsBool
  | .removeCustomPort => ∃ port proto, json.getObjectItem "port" = some port ∧
      json.getObjectItem "proto" = some proto ∧ port.IsNumber ∧ proto.IsString

/-- What the handler receives of the body is the text of such an object. -/
def Carries (lib : Library Num) (body : Option Bytes) (h : PostHandler) : Prop :=
  ∃ bytes json, httpdReqRecv h.recvLen body = some bytes ∧ lib.parse (.ofMem bytes) = some json ∧
    h.Expects json

/-- **The handler withstands the body**: it does nothing undefined, and a body that does not carry
what it expects is answered with an error and changes nothing. -/
def Safe (lib : Library Num) (env : PostOutcome) (body : Option Bytes) (t : RouterTables)
    (h : PostHandler) : Prop :=
  ∃ reply t', h.run lib env body t = .ok (reply, t') ∧
    (¬ h.Carries lib body → reply.status ≠ .ok ∧ t' = t)

/-- What a handler needs of an object that has all the members: that what it uses as a string is one,
and that what it does not check is not used, or has the type that is expected. -/
def Withstands (lib : Library Num) (env : PostOutcome) (t : RouterTables) (json : Item Num) :
    PostHandler → Prop
  | .updatePortRule => ∀ port enabled, json.getObjectItem "port" = some port →
      json.getObjectItem "enabled" = some enabled → port.IsString ∧ enabled.IsBool
  | .addBlockedDomain | .removeBlockedDomain => True
  | .updateMac => ∀ mac status, json.getObjectItem "mac" = some mac →
      json.getObjectItem "status" = some status → ∃ macStr, mac = .string macStr ∧
        (status.IsString ∨ macExists (sscanfMac macStr env.junk) t.devices = false)
  | .setService => ∀ name blocked, json.getObjectItem "name" = some name →
      json.getObjectItem "blocked" = some blocked → blocked.IsBool ∨
        serviceFindByName t.services.services name.valuestring = SVC_BUILTIN_COUNT
  | .addCustomPort => ∀ name port proto blocked, json.getObjectItem "name" = some name →
      json.getObjectItem "port" = some port → json.getObjectItem "proto" = some proto →
      json.getObjectItem "blocked" = some blocked → ∃ protoStr, proto = .string protoStr ∧
        (blocked.IsBool ∨ ¬ name.IsString ∨ port.uint16 lib = 0 ∨
          ∀ i, (t.services.custom.rules i).active = true ∧ (t.services.custom.rules i).overlaps
            (port.uint16 lib) (protoOfStr protoStr).tag = false)
  | .removeCustomPort => ∀ port proto, json.getObjectItem "port" = some port →
      json.getObjectItem "proto" = some proto → ∃ protoStr, proto = .string protoStr ∧
        (port.IsNumber ∨ ∀ i, (t.services.custom.rules i).overlaps 0
          (protoOfStr protoStr).tag = false)

/-- **The bodies that a handler withstands**: what it receives leaves room for the terminator, and if
it is the text of an object, the handler withstands that. -/
def Admits (lib : Library Num) (env : PostOutcome) (body : Option Bytes) (t : RouterTables)
    (h : PostHandler) : Prop :=
  ∀ bytes, httpdReqRecv h.recvLen body = some bytes → bytes.length < h.bufSize ∧
    ∀ json, lib.parse (.ofMem bytes) = some json → h.Withstands lib env t json

end PostHandler

/-! ## The array -/

/-- A result withstands `expected`: nothing undefined has happened, and if it is false, the reply is
an error and nothing has changed. -/
def PostResult.Safe (expected : Prop) (t : RouterTables) (r : PostResult) : Prop :=
  ∃ reply t', r = .ok (reply, t') ∧ (¬ expected → reply.status ≠ .ok ∧ t' = t)

theorem PostResult.safe_ok_iff {expected : Prop} {t t' : RouterTables} {reply : HttpReply} :
    PostResult.Safe expected t (.ok (reply, t')) ↔
      (¬ expected → reply.status ≠ .ok ∧ t' = t) := by
  constructor
  · rintro ⟨reply', t'', heq, h⟩
    obtain ⟨rfl, rfl⟩ := Prod.mk.inj (Except.ok.inj heq)
    exact h
  · exact fun h => ⟨reply, t', rfl, h⟩

theorem PostResult.not_safe_error {expected : Prop} {t : RouterTables} {fault : Fault} :
    ¬ PostResult.Safe expected t (.error fault) := by
  rintro ⟨reply, t', heq, -⟩
  exact absurd heq nofun

/-- A reply that is not an error is safe only to what the handler expects. -/
theorem PostResult.safe_done_iff {expected : Prop} {t t' : RouterTables} {reply : HttpReply}
    (h : reply.status = .ok) : PostResult.Safe expected t (.ok (reply, t')) ↔ expected := by
  rw [safe_ok_iff]
  exact ⟨fun hsafe => by_contra fun hnot => (hsafe hnot).1 h, fun hexp hnot => absurd hexp hnot⟩

/-- An error that changes nothing is safe. -/
theorem PostResult.safe_refused {expected : Prop} {t : RouterTables} {reply : HttpReply}
    (h : reply.status ≠ .ok) : PostResult.Safe expected t (.ok (reply, t)) :=
  safe_ok_iff.2 fun _ => ⟨h, rfl⟩

/-- The part that the handlers share is safe if the terminator fits and what follows is safe. -/
theorem withJson_safe_iff {lib : Library Num} {size bufLen : ℕ} {noBody : String}
    {body : Option Bytes} {t : RouterTables} {k : Item Num → PostResult}
    {expects : Item Num → Prop} :
    PostResult.Safe (∃ bytes json, httpdReqRecv bufLen body = some bytes ∧
        lib.parse (.ofMem bytes) = some json ∧ expects json) t
        (withJson lib size bufLen noBody body t k) ↔
      ∀ bytes, httpdReqRecv bufLen body = some bytes → bytes.length < size ∧
        ∀ json, lib.parse (.ofMem bytes) = some json →
          PostResult.Safe (expects json) t (k json) := by
  rw [withJson]
  cases hrecv : httpdReqRecv bufLen body with
  | none =>
    refine iff_of_true (PostResult.safe_refused HttpStatus.noConfusion) ?_
    exact fun bytes h => absurd h.symm (Option.some_ne_none bytes)
  | some bytes =>
    dsimp only
    simp only [Option.some.injEq, exists_and_left, exists_eq_left', forall_eq']
    split
    · next hfull => exact iff_of_false PostResult.not_safe_error fun h => absurd h.1 (by omega)
    · next hroom =>
      rw [and_iff_right (Nat.lt_of_not_le hroom)]
      cases lib.parse (.ofMem bytes) with
      | none =>
        refine iff_of_true (PostResult.safe_refused HttpStatus.noConfusion) ?_
        exact fun json h => absurd h.symm (Option.some_ne_none json)
      | some json => simp only [Option.some.injEq, exists_eq_left', forall_eq']

/-! ## The members -/

/-- Two members that a handler cannot do without. -/
theorem safe_pair_iff {a b : Option (Item Num)} {t : RouterTables} {text : String}
    {k : Item Num → Item Num → PostResult} {P : Item Num → Item Num → Prop} :
    PostResult.Safe (∃ x y, a = some x ∧ b = some y ∧ P x y) t
        (match a, b with
          | some x, some y => k x y
          | _, _ => .ok (.err .badRequest text, t)) ↔
      ∀ x y, a = some x → b = some y → PostResult.Safe (P x y) t (k x y) := by
  cases a with
  | none =>
    exact iff_of_true (PostResult.safe_refused HttpStatus.noConfusion) fun x y h => absurd h nofun
  | some x =>
    cases b with
    | none =>
      exact iff_of_true (PostResult.safe_refused HttpStatus.noConfusion)
        fun x y _ h => absurd h nofun
    | some y =>
      simp only [Option.some.injEq, exists_and_left, exists_eq_left']
      exact ⟨fun h _ _ hx hy => hx ▸ hy ▸ h, fun h => h x y rfl rfl⟩

/-- Four members that a handler cannot do without. -/
theorem safe_quad_iff {a b c d : Option (Item Num)} {t : RouterTables} {text : String}
    {k : Item Num → Item Num → Item Num → Item Num → PostResult}
    {P : Item Num → Item Num → Item Num → Item Num → Prop} :
    PostResult.Safe
        (∃ x y z w, a = some x ∧ b = some y ∧ c = some z ∧ d = some w ∧ P x y z w) t
        (match a, b, c, d with
          | some x, some y, some z, some w => k x y z w
          | _, _, _, _ => .ok (.err .badRequest text, t)) ↔
      ∀ x y z w, a = some x → b = some y → c = some z → d = some w →
        PostResult.Safe (P x y z w) t (k x y z w) := by
  have hmissing : PostResult.Safe (∃ x y z w, a = some x ∧ b = some y ∧ c = some z ∧ d = some w ∧
      P x y z w) t (.ok (.err .badRequest text, t)) := PostResult.safe_refused HttpStatus.noConfusion
  cases a with
  | none => exact iff_of_true hmissing fun x y z w h => absurd h nofun
  | some x =>
  cases b with
  | none => exact iff_of_true hmissing fun x y z w _ h => absurd h nofun
  | some y =>
  cases c with
  | none => exact iff_of_true hmissing fun x y z w _ _ h => absurd h nofun
  | some z =>
  cases d with
  | none => exact iff_of_true hmissing fun x y z w _ _ _ h => absurd h nofun
  | some w =>
    simp only [Option.some.injEq, exists_and_left, exists_eq_left']
    exact ⟨fun h _ _ _ _ hx hy hz hw => hx ▸ hy ▸ hz ▸ hw ▸ h,
      fun h => h x y z w rfl rfl rfl rfl⟩

/-- The string of an item is used without a check. -/
theorem safe_nonNull_iff {expected : Prop} {t : RouterTables} {item : Item Num}
    {k : CString → PostResult} :
    PostResult.Safe expected t (nonNull item.valuestring >>= k) ↔
      ∃ s, item = .string s ∧ PostResult.Safe expected t (k s) := by
  cases hs : item.valuestring with
  | none =>
    refine iff_of_false PostResult.not_safe_error ?_
    rintro ⟨s, rfl, -⟩
    exact absurd hs nofun
  | some s =>
    rw [Item.valuestring_eq_some_iff] at hs
    subst hs
    constructor
    · exact fun h => ⟨s, rfl, h⟩
    · rintro ⟨s', heq, h⟩
      cases heq
      exact h

/-! ## The handlers -/

/-- A handler is safe with a body if it admits it, provided that it is safe with the objects that it
withstands. -/
theorem safe_iff_admits {h : PostHandler} {lib : Library Num} {env : PostOutcome}
    {body : Option Bytes} {t : RouterTables} {noBody : String} {k : Item Num → PostResult}
    (hrun : h.run lib env body t = withJson lib h.bufSize h.recvLen noBody body t k)
    (hk : ∀ json, PostResult.Safe (h.Expects json) t (k json) ↔ h.Withstands lib env t json) :
    h.Safe lib env body t ↔ h.Admits lib env body t := by
  have hsafe : h.Safe lib env body t ↔ PostResult.Safe (h.Carries lib body) t
      (withJson lib h.bufSize h.recvLen noBody body t k) := by
    rw [← hrun]
    rfl
  refine hsafe.trans (withJson_safe_iff.trans ?_)
  exact forall₂_congr fun bytes _ => and_congr_right fun _ => forall₂_congr fun json _ => hk json

theorem updatePortRule_safe_iff (lib : Library Num) (env : PostOutcome) (body : Option Bytes)
    (t : RouterTables) :
    PostHandler.updatePortRule.Safe lib env body t ↔
      PostHandler.updatePortRule.Admits lib env body t := by
  refine safe_iff_admits rfl fun json => safe_pair_iff.trans ?_
  refine forall₄_congr fun port enabled _ _ => safe_nonNull_iff.trans ?_
  constructor
  · rintro ⟨s, -, h⟩
    split at h <;> exact (PostResult.safe_done_iff rfl).1 h
  · intro h
    obtain ⟨s, hs⟩ := h.1
    refine ⟨s, hs, ?_⟩
    split <;> exact (PostResult.safe_done_iff rfl).2 h

/-- The two handlers that check the string that they use. -/
theorem checkedDomain_safe {json : Item Num} {t : RouterTables} {text : String}
    {k : CString → HttpReply × RouterTables} :
    PostResult.Safe (∃ domain, json.getObjectItem "domain" = some domain ∧ domain.IsString) t
      (match (json.getObjectItem "domain").bind Item.valuestring with
        | some domainStr => .ok (k domainStr)
        | none => .ok (.err .badRequest text, t)) := by
  cases hdomain : (json.getObjectItem "domain").bind Item.valuestring with
  | none => exact PostResult.safe_refused HttpStatus.noConfusion
  | some domainStr =>
    obtain ⟨domain, hget, hs⟩ := Option.bind_eq_some_iff.1 hdomain
    refine ⟨_, _, rfl, fun hnot => absurd ⟨domain, hget, domainStr, ?_⟩ hnot⟩
    exact Item.valuestring_eq_some_iff.1 hs

theorem addBlockedDomain_safe_iff (lib : Library Num) (env : PostOutcome) (body : Option Bytes)
    (t : RouterTables) :
    PostHandler.addBlockedDomain.Safe lib env body t ↔
      PostHandler.addBlockedDomain.Admits lib env body t :=
  safe_iff_admits rfl fun _ => iff_of_true checkedDomain_safe trivial

theorem removeBlockedDomain_safe_iff (lib : Library Num) (env : PostOutcome) (body : Option Bytes)
    (t : RouterTables) :
    PostHandler.removeBlockedDomain.Safe lib env body t ↔
      PostHandler.removeBlockedDomain.Admits lib env body t :=
  safe_iff_admits rfl fun _ => iff_of_true checkedDomain_safe trivial

theorem updateMac_safe_iff (lib : Library Num) (env : PostOutcome) (body : Option Bytes)
    (t : RouterTables) :
    PostHandler.updateMac.Safe lib env body t ↔
      PostHandler.updateMac.Admits lib env body t := by
  refine safe_iff_admits rfl fun json => safe_pair_iff.trans ?_
  refine forall₄_congr fun mac status _ _ => safe_nonNull_iff.trans ?_
  refine exists_congr fun macStr => and_congr_right fun hmac => ?_
  dsimp only
  split
  · next hfound =>
    rw [or_iff_left fun h => Bool.false_ne_true (h.symm.trans hfound), and_iff_right ⟨macStr, hmac⟩]
    refine safe_nonNull_iff.trans ?_
    exact exists_congr fun s => and_iff_left_of_imp fun hs =>
      (PostResult.safe_done_iff rfl).2 ⟨s, hs⟩
  · next hmissing =>
    refine iff_of_true (PostResult.safe_refused HttpStatus.noConfusion) (.inr ?_)
    exact Bool.eq_false_iff.2 hmissing

theorem setService_safe_iff (lib : Library Num) (env : PostOutcome) (body : Option Bytes)
    (t : RouterTables) :
    PostHandler.setService.Safe lib env body t ↔
      PostHandler.setService.Admits lib env body t := by
  refine safe_iff_admits rfl fun json => safe_pair_iff.trans ?_
  refine forall₄_congr fun name blocked _ _ => ?_
  dsimp only
  split
  · next hunknown =>
    exact iff_of_true (PostResult.safe_refused HttpStatus.noConfusion) (.inr hunknown)
  · next hknown =>
    -- A service was found, so there was a name to look for.
    have hname : name.IsString := by
      by_contra hnot
      rw [Item.valuestring_eq_none_iff.2 hnot] at hknown
      exact hknown rfl
    rw [or_iff_left hknown]
    exact (PostResult.safe_done_iff rfl).trans (and_iff_right hname)

/-- The two handlers for custom rules are safe where they are refused. -/
theorem customReply_safe_iff {expected : Prop} {t : RouterTables} {status : HttpStatus}
    {text : String} {r : Bool × ServiceFilter} (hstatus : status ≠ .ok)
    (hsame : r.1 = false → r.2 = t.services) :
    PostResult.Safe expected t (.ok (customReply r.1 status text, { t with services := r.2 })) ↔
      expected ∨ r.1 = false := by
  obtain ⟨ok, s⟩ := r
  cases ok with
  | true => exact (PostResult.safe_done_iff rfl).trans (or_iff_left Bool.noConfusion).symm
  | false =>
    obtain rfl : s = t.services := hsame rfl
    exact iff_of_true (PostResult.safe_refused hstatus) (.inr rfl)

theorem addCustomPort_safe_iff (lib : Library Num) (env : PostOutcome) (body : Option Bytes)
    (t : RouterTables) :
    PostHandler.addCustomPort.Safe lib env body t ↔
      PostHandler.addCustomPort.Admits lib env body t := by
  refine safe_iff_admits rfl fun json => safe_quad_iff.trans ?_
  refine forall₄_congr fun name port proto blocked => forall₄_congr fun _ _ _ _ => ?_
  refine safe_nonNull_iff.trans (exists_congr fun protoStr => and_congr_right fun hproto => ?_)
  refine (customReply_safe_iff HttpStatus.noConfusion fun h => (serviceAddCustom_false h).1).trans ?_
  rw [serviceAddCustom_refused_iff, Item.valuestring_eq_none_iff]
  have hstring : proto.IsString := ⟨protoStr, hproto⟩
  have hport : ¬ port.IsNumber → port.uint16 lib = 0 := fun h => Item.uint16_of_not_isNumber h lib
  tauto

theorem removeCustomPort_safe_iff (lib : Library Num) (env : PostOutcome) (body : Option Bytes)
    (t : RouterTables) :
    PostHandler.removeCustomPort.Safe lib env body t ↔
      PostHandler.removeCustomPort.Admits lib env body t := by
  refine safe_iff_admits rfl fun json => safe_pair_iff.trans ?_
  refine forall₄_congr fun port proto _ _ => safe_nonNull_iff.trans ?_
  refine exists_congr fun protoStr => and_congr_right fun hproto => ?_
  refine (customReply_safe_iff HttpStatus.noConfusion fun h =>
    (serviceRemoveCustom_false h).1).trans ?_
  rw [serviceRemoveCustom_refused_iff, and_iff_left ⟨protoStr, hproto⟩]
  by_cases hport : port.IsNumber
  · exact iff_of_true (.inl hport) (.inl hport)
  · rw [Item.uint16_of_not_isNumber hport]

/-- **Which bodies a handler withstands.** -/
theorem postHandler_safe_iff (lib : Library Num) (env : PostOutcome) (body : Option Bytes)
    (t : RouterTables) (h : PostHandler) : h.Safe lib env body t ↔ h.Admits lib env body t := by
  cases h with
  | updatePortRule => exact updatePortRule_safe_iff lib env body t
  | addBlockedDomain => exact addBlockedDomain_safe_iff lib env body t
  | removeBlockedDomain => exact removeBlockedDomain_safe_iff lib env body t
  | updateMac => exact updateMac_safe_iff lib env body t
  | setService => exact setService_safe_iff lib env body t
  | addCustomPort => exact addCustomPort_safe_iff lib env body t
  | removeCustomPort => exact removeCustomPort_safe_iff lib env body t

/-- 256 blanks for `update_port_rule_handler`: the terminator is written behind the array. -/
theorem postHandler_overflow : ¬ ∀ (lib : Library ℕ) (env : PostOutcome) (body : Option Bytes)
    (t : RouterTables) (h : PostHandler), h.Safe lib env body t := by
  intro hall
  have hsafe := hall ⟨fun _ => none, UInt16.ofNat⟩ ⟨.ok, .ok, stationMac⟩
    (some (List.replicate 256 32)) .firstBoot .updatePortRule
  have hadmits := (updatePortRule_safe_iff _ _ _ _).1 hsafe
  have hrecv : httpdReqRecv 256 (some (List.replicate 256 32)) = some (List.replicate 256 32) := by
    rw [httpdReqRecv, if_neg (List.ne_nil_of_length_pos (by rw [List.length_replicate]; decide)),
      List.take_replicate]
    rfl
  have hroom := (hadmits _ hrecv).1
  rw [List.length_replicate] at hroom
  exact Nat.lt_irrefl 256 hroom

end EspFirewall
