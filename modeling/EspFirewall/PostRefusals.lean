import EspFirewall.DomainFilter.Capacity
import EspFirewall.PostSafety

/-!
# Which objects a POST handler refuses

Once the body is parsed, a handler refuses the object, or does what it says, or does something
undefined.  To refuse it is to answer with an error and to change nothing: a member is missing, or
the call behind the handler returns false.  `answer_refused_iff` says of each handler which objects
these are.
-/

set_option autoImplicit false

namespace EspFirewall

open CLang CJson

variable {Num : Type}

/-- The reply is an error, and nothing has changed. -/
def PostResult.Refused (t : RouterTables) (r : PostResult) : Prop :=
  ∃ reply, r = .ok (reply, t) ∧ reply.status ≠ .ok

/-- Nothing is expected of what is refused. -/
theorem PostResult.refused_iff_safe {t : RouterTables} {r : PostResult} {expected : Prop}
    (h : ¬ expected) : PostResult.Refused t r ↔ PostResult.Safe expected t r := by
  constructor
  · rintro ⟨reply, heq, hstatus⟩
    exact ⟨reply, t, heq, fun _ => ⟨hstatus, rfl⟩⟩
  · rintro ⟨reply, t', heq, hrefused⟩
    obtain ⟨hstatus, rfl⟩ := hrefused h
    exact ⟨reply, heq, hstatus⟩

theorem PostResult.refused_err {t : RouterTables} {status : HttpStatus} {text : String}
    (hstatus : status ≠ .ok) : PostResult.Refused t (.ok (.err status text, t)) :=
  ⟨_, rfl, hstatus⟩

theorem PostResult.not_refused_done {t t' : RouterTables} {reply : HttpReply}
    (h : reply.status = .ok) : ¬ PostResult.Refused t (.ok (reply, t')) := by
  rintro ⟨reply', heq, hreply⟩
  obtain ⟨rfl, -⟩ := Prod.mk.inj (Except.ok.inj heq)
  exact hreply h

/-- No slot in use has the domain. -/
def DomainTable.Lacks (d : CString) (t : DomainTable) : Prop :=
  ∀ i : Fin MAX_BLOCKED_DOMAINS, i.val < t.count → (t.slots i).named d = false

instance (d : CString) (t : DomainTable) : Decidable (t.Lacks d) :=
  inferInstanceAs (Decidable (∀ _ : Fin MAX_BLOCKED_DOMAINS, _))

namespace PostHandler

/-- What the handler does with an object: its run on a text that is parsed to the object. -/
def answer (lib : Library Num) (env : PostOutcome) (json : Item Num) (t : RouterTables)
    (h : PostHandler) : PostResult :=
  h.run ⟨fun _ => some json, lib.toUInt16⟩ env (some (ascii "x")) t

/-- The object is refused: one of its members is missing, or what it says cannot be done. -/
def Refuses (lib : Library Num) (env : PostOutcome) (t : RouterTables) (json : Item Num) :
    PostHandler → Prop
  | .updatePortRule => json.getObjectItem "port" = none ∨ json.getObjectItem "enabled" = none
  | .addBlockedDomain => ∀ domain, (json.getObjectItem "domain").bind Item.valuestring =
      some domain → domain.strlen = 0 ∨ MAX_DOMAIN_LENGTH ≤ domain.strlen ∨
        t.domains.table.count = MAX_BLOCKED_DOMAINS ∧ t.domains.table.Lacks domain
  | .removeBlockedDomain => ∀ domain, (json.getObjectItem "domain").bind Item.valuestring =
      some domain → domain.strlen = 0 ∨ t.domains.table.Lacks domain
  | .updateMac => ∀ mac status, json.getObjectItem "mac" = some mac →
      json.getObjectItem "status" = some status → ∃ macStr, mac = .string macStr ∧
        macExists (sscanfMac macStr env.junk) t.devices = false
  | .setService => ∀ name blocked, json.getObjectItem "name" = some name →
      json.getObjectItem "blocked" = some blocked →
        serviceFindByName t.services.services name.valuestring = SVC_BUILTIN_COUNT
  | .addCustomPort => ∀ name port proto blocked, json.getObjectItem "name" = some name →
      json.getObjectItem "port" = some port → json.getObjectItem "proto" = some proto →
      json.getObjectItem "blocked" = some blocked → ∃ protoStr, proto = .string protoStr ∧
        (port.uint16 lib = 0 ∨ ¬ name.IsString ∨
          ∀ i, (t.services.custom.rules i).active = true ∧ (t.services.custom.rules i).overlaps
            (port.uint16 lib) (protoOfStr protoStr).tag = false)
  | .removeCustomPort => ∀ port proto, json.getObjectItem "port" = some port →
      json.getObjectItem "proto" = some proto → ∃ protoStr, proto = .string protoStr ∧
        ∀ i, (t.services.custom.rules i).overlaps (port.uint16 lib)
          (protoOfStr protoStr).tag = false

end PostHandler

/-! ## The calls behind the handlers -/

theorem addBlockedDomain_refused_iff {out : DomainSave} {d : CString} {s : DomainFilter} :
    (addBlockedDomain out (some d) s).1 = false ↔ d.strlen = 0 ∨ MAX_DOMAIN_LENGTH ≤ d.strlen ∨
      s.table.count = MAX_BLOCKED_DOMAINS ∧ s.table.Lacks d := by
  by_cases hbad : d.strlen = 0 ∨ MAX_DOMAIN_LENGTH ≤ d.strlen
  · rw [addBlockedDomain, if_pos hbad, ← or_assoc]
    exact iff_of_true rfl (.inl hbad)
  · have hpos : 0 < d.strlen := by omega
    have hlen : d.strlen < MAX_DOMAIN_LENGTH := by omega
    rw [← Bool.not_eq_true, addBlockedDomain_eq_true_iff hpos hlen, not_or, not_exists,
      ← or_assoc, or_iff_right hbad]
    refine and_congr ?_ (forall_congr' fun i => ?_)
    · have hle := s.table.count_le
      omega
    · rw [not_and, Bool.not_eq_true]

theorem removeBlockedDomain_refused_iff {out : DomainSave} {d : CString} {s : DomainFilter} :
    (removeBlockedDomain out (some d) s).1 = false ↔ d.strlen = 0 ∨ s.table.Lacks d := by
  rw [removeBlockedDomain]
  split
  · next hempty => exact iff_of_true rfl (.inl hempty)
  · next hpos =>
    rw [or_iff_right hpos]
    cases hfind : Slots.firstBelow s.table.count (BlockedDomain.named d) s.table.slots with
    | none => exact iff_of_true rfl (Slots.firstBelow_eq_none_iff.1 hfind)
    | some i =>
      obtain ⟨⟨hi, hname⟩, -⟩ := Slots.firstBelow_eq_some_iff.1 hfind
      exact iff_of_false Bool.false_ne_true.symm fun h =>
        Bool.false_ne_true ((h i hi).symm.trans hname)

/-- The two handlers for domains refuse where the call does. -/
theorem domainReply_refused_iff {t : RouterTables} {status : HttpStatus} {text : String}
    {r : Bool × DomainFilter} (hstatus : status ≠ .ok) (hsame : r.1 = false → r.2 = t.domains) :
    PostResult.Refused t (.ok (domainReply r.1 status text, { t with domains := r.2 })) ↔
      r.1 = false := by
  obtain ⟨ok, s⟩ := r
  cases ok with
  | true => exact iff_of_false (PostResult.not_refused_done rfl) Bool.false_ne_true.symm
  | false =>
    obtain rfl : s = t.domains := hsame rfl
    exact iff_of_true ⟨_, rfl, hstatus⟩ rfl

/-! ## The members -/

theorem not_exists_pair {a b : Option (Item Num)} :
    ¬ ∃ x y, a = some x ∧ b = some y ∧ False := by
  rintro ⟨x, y, -, -, hfalse⟩
  exact hfalse

theorem not_exists_quad {a b c d : Option (Item Num)} :
    ¬ ∃ x y z w, a = some x ∧ b = some y ∧ c = some z ∧ d = some w ∧ False := by
  rintro ⟨x, y, z, w, -, -, -, -, hfalse⟩
  exact hfalse

/-! ## The handlers -/

namespace PostHandler

variable {lib : Library Num} {env : PostOutcome} {json : Item Num} {t : RouterTables}

/-- Two texts of one object. -/
theorem withJson_congr {lib lib' : Library Num} {size bufLen : ℕ} {noBody : String}
    {body body' : Option Bytes} {bytes bytes' : Bytes} {k k' : Item Num → PostResult}
    (hrecv : httpdReqRecv bufLen body = some bytes)
    (hrecv' : httpdReqRecv bufLen body' = some bytes') (hroom : bytes.length < size)
    (hroom' : bytes'.length < size) (hparse : lib.parse (.ofMem bytes) = some json)
    (hparse' : lib'.parse (.ofMem bytes') = some json) (hk : k json = k' json) :
    withJson lib size bufLen noBody body t k = withJson lib' size bufLen noBody body' t k' := by
  rw [withJson_of_parse hrecv hroom hparse, withJson_of_parse hrecv' hroom' hparse', hk]

/-- A text that is received whole and parsed is answered as its object is. -/
theorem run_of_parse {h : PostHandler} {body : Option Bytes} {bytes : Bytes}
    (hrecv : httpdReqRecv h.recvLen body = some bytes) (hroom : bytes.length < h.bufSize)
    (hparse : lib.parse (.ofMem bytes) = some json) :
    h.run lib env body t = h.answer lib env json t := by
  have htext : httpdReqRecv h.recvLen (some (ascii "x")) = some (ascii "x") := by
    cases h <;> decide
  have hfits : (ascii "x").length < h.bufSize := by cases h <;> decide
  have hparsed : (⟨fun _ => some json, lib.toUInt16⟩ : Library Num).parse (.ofMem (ascii "x")) =
      some json := rfl
  cases h <;> exact withJson_congr hrecv htext hroom hfits hparse hparsed rfl

/-- A handler refuses the objects that the part of its own refuses. -/
theorem answer_refused_of {h : PostHandler} {noBody : String}
    {k : Library Num → Item Num → PostResult}
    (hrun : ∀ lib body, h.run lib env body t =
      withJson lib h.bufSize h.recvLen noBody body t (k lib))
    (hk : PostResult.Refused t (k ⟨fun _ => some json, lib.toUInt16⟩ json) ↔
      h.Refuses lib env t json) :
    PostResult.Refused t (h.answer lib env json t) ↔ h.Refuses lib env t json := by
  have htext : httpdReqRecv h.recvLen (some (ascii "x")) = some (ascii "x") := by
    cases h <;> decide
  have hfits : (ascii "x").length < h.bufSize := by cases h <;> decide
  rw [answer, hrun, withJson_of_parse htext hfits rfl, hk]

theorem updatePortRule_refused_iff :
    PostResult.Refused t (updatePortRule.answer lib env json t) ↔
      updatePortRule.Refuses lib env t json := by
  refine answer_refused_of (fun _ _ => rfl) ?_
  refine (PostResult.refused_iff_safe not_exists_pair).trans (safe_pair_iff.trans ?_)
  have hrefuses : updatePortRule.Refuses lib env t json ↔ ∀ port enabled,
      json.getObjectItem "port" = some port → json.getObjectItem "enabled" = some enabled →
        False := by
    rw [Refuses]
    cases json.getObjectItem "port" <;> cases json.getObjectItem "enabled" <;> simp
  refine Iff.trans ?_ hrefuses.symm
  refine forall₄_congr fun port enabled _ _ => iff_of_false (fun hsafe => ?_) id
  -- With both members the handler does not refuse, whatever they are.
  obtain ⟨s, -, hs⟩ := safe_nonNull_iff.1 hsafe
  split at hs <;> exact (PostResult.safe_done_iff rfl).1 hs

theorem addBlockedDomain_refused_iff :
    PostResult.Refused t (addBlockedDomain.answer lib env json t) ↔
      addBlockedDomain.Refuses lib env t json := by
  refine answer_refused_of (fun _ _ => rfl) ?_
  rw [Refuses]
  dsimp only
  cases hdomain : (json.getObjectItem "domain").bind Item.valuestring with
  | none => exact iff_of_true (PostResult.refused_err HttpStatus.noConfusion) nofun
  | some domainStr =>
    refine (domainReply_refused_iff HttpStatus.noConfusion fun h =>
      @DomainCall.exec_of_false ⟨.insert, env.domainSave, some domainStr⟩ _ h).trans ?_
    refine EspFirewall.addBlockedDomain_refused_iff.trans ?_
    simp only [Option.some.injEq, forall_eq']

theorem removeBlockedDomain_refused_iff :
    PostResult.Refused t (removeBlockedDomain.answer lib env json t) ↔
      removeBlockedDomain.Refuses lib env t json := by
  refine answer_refused_of (fun _ _ => rfl) ?_
  rw [Refuses]
  dsimp only
  cases hdomain : (json.getObjectItem "domain").bind Item.valuestring with
  | none => exact iff_of_true (PostResult.refused_err HttpStatus.noConfusion) nofun
  | some domainStr =>
    refine (domainReply_refused_iff HttpStatus.noConfusion fun h =>
      @DomainCall.exec_of_false ⟨.erase, env.domainSave, some domainStr⟩ _ h).trans ?_
    refine EspFirewall.removeBlockedDomain_refused_iff.trans ?_
    simp only [Option.some.injEq, forall_eq']

theorem updateMac_refused_iff :
    PostResult.Refused t (updateMac.answer lib env json t) ↔
      updateMac.Refuses lib env t json := by
  refine answer_refused_of (fun _ _ => rfl) ?_
  refine (PostResult.refused_iff_safe not_exists_pair).trans (safe_pair_iff.trans ?_)
  refine forall₄_congr fun mac status _ _ => safe_nonNull_iff.trans ?_
  refine exists_congr fun macStr => and_congr_right fun _ => ?_
  dsimp only
  split
  · next hfound =>
    refine iff_of_false (fun hsafe => ?_) fun h => Bool.false_ne_true (h.symm.trans hfound)
    obtain ⟨s, -, hs⟩ := safe_nonNull_iff.1 hsafe
    exact (PostResult.safe_done_iff rfl).1 hs
  · next hmissing =>
    exact iff_of_true (PostResult.safe_refused HttpStatus.noConfusion)
      (Bool.eq_false_iff.2 hmissing)

theorem setService_refused_iff :
    PostResult.Refused t (setService.answer lib env json t) ↔
      setService.Refuses lib env t json := by
  refine answer_refused_of (fun _ _ => rfl) ?_
  refine (PostResult.refused_iff_safe not_exists_pair).trans (safe_pair_iff.trans ?_)
  refine forall₄_congr fun name blocked _ _ => ?_
  dsimp only
  split
  · next hunknown => exact iff_of_true (PostResult.safe_refused HttpStatus.noConfusion) hunknown
  · next hknown => exact iff_of_false (PostResult.safe_done_iff rfl).1 hknown

theorem addCustomPort_refused_iff :
    PostResult.Refused t (addCustomPort.answer lib env json t) ↔
      addCustomPort.Refuses lib env t json := by
  refine answer_refused_of (fun _ _ => rfl) ?_
  refine (PostResult.refused_iff_safe not_exists_quad).trans (safe_quad_iff.trans ?_)
  refine forall₄_congr fun name port proto blocked => forall₄_congr fun _ _ _ _ => ?_
  refine safe_nonNull_iff.trans (exists_congr fun protoStr => and_congr_right fun _ => ?_)
  refine (customReply_safe_iff HttpStatus.noConfusion fun h => (serviceAddCustom_false h).1).trans ?_
  rw [false_or, serviceAddCustom_refused_iff, Item.valuestring_eq_none_iff]
  rfl

theorem removeCustomPort_refused_iff :
    PostResult.Refused t (removeCustomPort.answer lib env json t) ↔
      removeCustomPort.Refuses lib env t json := by
  refine answer_refused_of (fun _ _ => rfl) ?_
  refine (PostResult.refused_iff_safe not_exists_pair).trans (safe_pair_iff.trans ?_)
  refine forall₄_congr fun port proto _ _ => safe_nonNull_iff.trans ?_
  refine exists_congr fun protoStr => and_congr_right fun _ => ?_
  refine (customReply_safe_iff HttpStatus.noConfusion fun h =>
    (serviceRemoveCustom_false h).1).trans ?_
  rw [false_or, serviceRemoveCustom_refused_iff]
  rfl

/-- **Which objects a handler refuses.** -/
theorem answer_refused_iff (h : PostHandler) :
    PostResult.Refused t (h.answer lib env json t) ↔ h.Refuses lib env t json := by
  cases h with
  | updatePortRule => exact updatePortRule_refused_iff
  | addBlockedDomain => exact addBlockedDomain_refused_iff
  | removeBlockedDomain => exact removeBlockedDomain_refused_iff
  | updateMac => exact updateMac_refused_iff
  | setService => exact setService_refused_iff
  | addCustomPort => exact addCustomPort_refused_iff
  | removeCustomPort => exact removeCustomPort_refused_iff

/-- What is not an object is refused. -/
theorem refuses_of_not_object (h : PostHandler) (hjson : ∀ members, json ≠ .object members) :
    h.Refuses lib env t json := by
  have hnone := Item.getObjectItem_of_not_object hjson
  have hno : ∀ {name x}, json.getObjectItem name ≠ some x := fun h => by
    rw [hnone] at h
    exact absurd h nofun
  cases h with
  | updatePortRule => exact .inl (hnone "port")
  | addBlockedDomain | removeBlockedDomain =>
    intro domain hdomain
    rw [hnone] at hdomain
    exact absurd hdomain nofun
  | updateMac => exact fun _ _ hmac => absurd hmac hno
  | setService => exact fun _ _ hname => absurd hname hno
  | addCustomPort => exact fun _ _ _ _ hname => absurd hname hno
  | removeCustomPort => exact fun _ _ hport => absurd hport hno

/-- What fits into the array with its terminator is received whole. -/
theorem le_recvLen {h : PostHandler} {n : ℕ} (hn : n < h.bufSize) : n ≤ h.recvLen := by
  cases h <;> simp only [bufSize, recvLen] at * <;> omega

theorem run_of_not_parse {h : PostHandler} {body : Option Bytes} {bytes : Bytes}
    (hrecv : httpdReqRecv h.recvLen body = some bytes) (hroom : bytes.length < h.bufSize)
    (hparse : lib.parse (.ofMem bytes) = none) :
    h.run lib env body t = .ok (.err .badRequest "Invalid JSON", t) := by
  cases h <;> exact withJson_of_not_parse hrecv hroom hparse ..

/-- **Which bodies a handler refuses**, of those that fit into the array: what is no JSON, and what
is parsed to an object that it refuses. -/
theorem run_refused_iff {h : PostHandler} {bytes : Bytes} (hne : bytes ≠ [])
    (hroom : bytes.length < h.bufSize) :
    PostResult.Refused t (h.run lib env (some bytes) t) ↔
      ∀ json, lib.parse (.ofMem bytes) = some json → h.Refuses lib env t json := by
  have hrecv := httpdReqRecv_of_length_le hne (le_recvLen hroom)
  cases hparse : lib.parse (.ofMem bytes) with
  | none =>
    rw [run_of_not_parse hrecv hroom hparse]
    exact iff_of_true (PostResult.refused_err HttpStatus.noConfusion) nofun
  | some json =>
    rw [run_of_parse hrecv hroom hparse, answer_refused_iff]
    simp only [Option.some.injEq, forall_eq']

end PostHandler

end EspFirewall
