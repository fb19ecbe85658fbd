import EspFirewall.PostRefusals
import EspFirewall.WebForm

/-!
# Two ways to unblock a domain (`http_server.c`)

`POST /remove_domain` takes the domain out of a JSON object, and `GET /remove_domain?domain=…` out of
the query.  `httpd_query_key_value` returns a value as it stands in the query, and unlike
`index_get_handler` the handler does not decode it.

`removals_agree_iff` says when the two do the same: when the domain stands in the query as it is, or
when it makes no difference.
-/

set_option autoImplicit false

namespace EspFirewall

open CLang CJson FormCoding

variable {Num : Type}

/-! ## The handler -/

/-- `remove_blocked_domain_query_handler`. -/
def removeBlockedDomainQueryHandler (env : PostOutcome) (query : Option UrlQuery)
    (t : RouterTables) : HttpReply × RouterTables :=
  match query with
  | none => (.err .badRequest "Missing query", t)
  | some q =>
    if q.text.strlen = 0 then (.err .badRequest "Missing query", t)
    -- `httpd_req_get_url_query_str` does not fit the query into `buf`
    else if 256 ≤ q.text.strlen then (.err .badRequest "Invalid query", t)
    else match httpdQueryKeyValue q "domain" 128 with
      | none => (.err .badRequest "Missing domain parameter", t)
      | some domain =>
        let r := removeBlockedDomain env.domainSave (some domain) t.domains
        (domainReply r.1 .notFound "Domain not found", { t with domains := r.2 })

/-- Two requests for the same domain: the body is the text of an object with the domain, and the
query has it in some percent-encoding, which fits into `domain`. -/
structure NamesDomain (lib : Library Num) (body : Bytes) (q : UrlQuery) (d e : CString) : Prop where
  ne_nil : body ≠ []
  parse : ∃ json, lib.parse (.ofMem body) = some json ∧
    json.getObjectItem "domain" = some (.string d)
  /-- `?domain=…`. -/
  text : q.text.bytes = ascii "domain=" ++ e.bytes
  /-- The value is returned as it stands. -/
  value : q.value "domain" = some e
  encodes : PercentEncodes d.bytes e.bytes
  pos : 1 ≤ d.strlen
  fits : e.strlen ≤ 127

/-- **The two requests do the same**: they leave the same table, and both succeed or both do not. -/
def RemovalsAgree (lib : Library Num) (env : PostOutcome) (body : Bytes) (q : UrlQuery)
    (t : RouterTables) : Prop :=
  ∃ reply t', removeBlockedDomainHandler lib env (some body) t = .ok (reply, t') ∧
    reply.status = (removeBlockedDomainQueryHandler env (some q) t).1.status ∧
    t'.domains.table = (removeBlockedDomainQueryHandler env (some q) t).2.domains.table

/-- The slot that `remove_blocked_domain` finds. -/
def DomainTable.slotOf (d : CString) (t : DomainTable) : Option (Fin MAX_BLOCKED_DOMAINS) :=
  Slots.firstBelow t.count (BlockedDomain.named d) t.slots

/-- Removing one name or the other makes no difference: neither is in the table, or both are, in
slots that are inactive. -/
def DomainTable.Indifferent (d e : CString) (t : DomainTable) : Prop :=
  (t.slotOf d = none ∧ t.slotOf e = none) ∨
    ∃ i j, t.slotOf d = some i ∧ t.slotOf e = some j ∧
      (t.slots i).active = false ∧ (t.slots j).active = false

/-! ## The call behind them -/

/-- What `remove_blocked_domain` returns and leaves of the table. -/
theorem removeBlockedDomain_eq {d : CString} (hpos : 1 ≤ d.strlen) (out : DomainSave)
    (s : DomainFilter) :
    (removeBlockedDomain out (some d) s).1 = (s.table.slotOf d).isSome ∧
      (removeBlockedDomain out (some d) s).2.table =
        (s.table.slotOf d).elim s.table fun i => s.table.setActive i false := by
  rw [removeBlockedDomain, if_neg (Nat.ne_of_gt hpos), DomainTable.slotOf]
  cases Slots.firstBelow s.table.count (BlockedDomain.named d) s.table.slots with
  | none => exact ⟨rfl, rfl⟩
  | some i => exact ⟨rfl, saveBlockedDomains_table ..⟩

/-- A slot is found for names that differ in case only. -/
theorem DomainTable.strlen_eq_of_slotOf {t : DomainTable} {d e : CString}
    {i : Fin MAX_BLOCKED_DOMAINS} (hd : t.slotOf d = some i) (he : t.slotOf e = some i) :
    d.strlen = e.strlen := by
  have hd' := strlen_of_named (Slots.firstBelow_eq_some_iff.1 hd).1.2
  have he' := strlen_of_named (Slots.firstBelow_eq_some_iff.1 he).1.2
  exact hd'.trans he'.symm

/-- Deactivating one slot or another is the same if both are inactive. -/
theorem DomainTable.setActive_eq_iff {t : DomainTable} {i j : Fin MAX_BLOCKED_DOMAINS}
    (hij : i ≠ j) : t.setActive i false = t.setActive j false ↔
      (t.slots i).active = false ∧ (t.slots j).active = false := by
  constructor
  · intro h
    have hslots : ∀ k, (t.setActive i false).slots k = (t.setActive j false).slots k := by
      rw [h]
      exact fun _ => rfl
    have hi := hslots i
    have hj := hslots j
    rw [setActive_slots, setActive_slots, Function.update_self, Function.update_of_ne hij] at hi
    rw [setActive_slots, setActive_slots, Function.update_self,
      Function.update_of_ne hij.symm] at hj
    exact ⟨(congrArg BlockedDomain.active hi).symm, congrArg BlockedDomain.active hj⟩
  · rintro ⟨hi, hj⟩
    have hsame : ∀ k, (t.slots k).active = false → t.setActive k false = t := by
      intro k hk
      have hslot : ({ t.slots k with active := false } : BlockedDomain) = t.slots k := by
        rw [← hk]
      rw [setActive, hslot, Function.update_eq_self]
    rw [hsame i hi, hsame j hj]

/-! ## The requests -/

section

variable {lib : Library Num} {env : PostOutcome} {body : Bytes} {q : UrlQuery} {d e : CString}
  {t : RouterTables}

/-- The encoding is as long as the domain, if it is the domain, or longer. -/
theorem NamesDomain.eq_or_strlen_lt (h : NamesDomain lib body q d e) :
    e = d ∨ d.strlen < e.strlen :=
  h.encodes.eq_or_length_lt.imp_left CString.ext

/-- `GET /remove_domain`. -/
theorem NamesDomain.get_eq (h : NamesDomain lib body q d e) (env : PostOutcome)
    (t : RouterTables) :
    removeBlockedDomainQueryHandler env (some q) t =
      (domainReply (removeBlockedDomain env.domainSave (some e) t.domains).1 .notFound
          "Domain not found",
        { t with domains := (removeBlockedDomain env.domainSave (some e) t.domains).2 }) := by
  have hlen : q.text.strlen = 7 + e.strlen := by
    rw [CString.strlen, h.text, List.length_append]
    rfl
  have hfits := h.fits
  have hvalue : httpdQueryKeyValue q "domain" 128 = some e := by
    rw [httpdQueryKeyValue, h.value, Option.filter_some, if_pos]
    exact decide_eq_true (Nat.lt_succ_of_le hfits)
  rw [removeBlockedDomainQueryHandler, if_neg (by omega), if_neg (by omega), hvalue]

/-- `POST /remove_domain`. -/
theorem NamesDomain.post_eq (h : NamesDomain lib body q d e) (env : PostOutcome)
    (t : RouterTables) (hroom : body.length < 256) :
    removeBlockedDomainHandler lib env (some body) t =
      .ok (domainReply (removeBlockedDomain env.domainSave (some d) t.domains).1 .notFound
          "Domain not found",
        { t with domains := (removeBlockedDomain env.domainSave (some d) t.domains).2 }) := by
  obtain ⟨json, hparse, hdomain⟩ := h.parse
  have hrecv := httpdReqRecv_of_length_le h.ne_nil hroom.le
  rw [removeBlockedDomainHandler, withJson_of_parse hrecv hroom hparse, hdomain]
  rfl

theorem domainReply_status_eq_iff {a b : Bool} {status : HttpStatus} {text : String}
    (hstatus : status ≠ .ok) :
    (domainReply a status text).status = (domainReply b status text).status ↔ a = b := by
  cases a <;> cases b
  · exact iff_of_true rfl rfl
  · exact iff_of_false hstatus Bool.false_ne_true
  · exact iff_of_false hstatus.symm Bool.false_ne_true.symm
  · exact iff_of_true rfl rfl

/-- The requests agree on a body that leaves room for the terminator if the calls behind them do. -/
theorem NamesDomain.agree_iff (h : NamesDomain lib body q d e) (hroom : body.length < 256) :
    RemovalsAgree lib env body q t ↔
      (t.domains.table.slotOf d).isSome = (t.domains.table.slotOf e).isSome ∧
        ((t.domains.table.slotOf d).elim t.domains.table fun i =>
            t.domains.table.setActive i false) =
          (t.domains.table.slotOf e).elim t.domains.table fun i =>
            t.domains.table.setActive i false := by
  have hpos : 1 ≤ e.strlen := by
    rcases h.eq_or_strlen_lt with rfl | hlt
    · exact h.pos
    · exact Nat.one_le_of_lt hlt
  obtain ⟨hd, hdtable⟩ := removeBlockedDomain_eq h.pos env.domainSave t.domains
  obtain ⟨he, hetable⟩ := removeBlockedDomain_eq hpos env.domainSave t.domains
  rw [RemovalsAgree, h.get_eq, h.post_eq env t hroom, ← hd, ← he, ← hdtable, ← hetable]
  constructor
  · rintro ⟨reply, t', heq, hstatus, htable⟩
    obtain ⟨rfl, rfl⟩ := Prod.mk.inj (Except.ok.inj heq)
    exact ⟨(domainReply_status_eq_iff HttpStatus.noConfusion).1 hstatus, htable⟩
  · rintro ⟨hok, htable⟩
    exact ⟨_, _, rfl, (domainReply_status_eq_iff HttpStatus.noConfusion).2 hok, htable⟩

/-- A body that leaves no room is no match for the query. -/
theorem NamesDomain.not_agree_of_full (h : NamesDomain lib body q d e)
    (hfull : 256 ≤ body.length) : ¬ RemovalsAgree lib env body q t := by
  have hrecv : httpdReqRecv 256 (some body) = some (body.take 256) := by
    rw [httpdReqRecv, if_neg h.ne_nil]
  have hlen : 256 ≤ (body.take 256).length := by
    rw [List.length_take]
    omega
  rintro ⟨reply, t', heq, -⟩
  rw [removeBlockedDomainHandler, withJson_of_full hrecv hlen] at heq
  cases heq

end

/-- **When the two requests do the same**: the body leaves room for the terminator, and the domain
stands in the query as it is, or it makes no difference whether the domain is removed or its
encoding. -/
theorem removals_agree_iff {lib : Library Num} {body : Bytes} {q : UrlQuery} {d e : CString}
    (h : NamesDomain lib body q d e) (env : PostOutcome) (t : RouterTables) :
    RemovalsAgree lib env body q t ↔
      body.length < 256 ∧ (e = d ∨ t.domains.table.Indifferent d e) := by
  by_cases hroom : body.length < 256
  swap
  · exact iff_of_false (h.not_agree_of_full (Nat.le_of_not_lt hroom)) fun hand => hroom hand.1
  rw [and_iff_right hroom, h.agree_iff hroom]
  rcases h.eq_or_strlen_lt with rfl | hlt
  · exact iff_of_true ⟨rfl, rfl⟩ (.inl rfl)
  have hne : e ≠ d := by
    rintro rfl
    exact Nat.lt_irrefl _ hlt
  rw [or_iff_right hne, DomainTable.Indifferent]
  cases hd : t.domains.table.slotOf d with
  | none =>
    cases he : t.domains.table.slotOf e with
    | none => exact iff_of_true ⟨rfl, rfl⟩ (.inl ⟨rfl, rfl⟩)
    | some j => simp
  | some i =>
    cases he : t.domains.table.slotOf e with
    | none => simp
    | some j =>
      -- The two names have different lengths, so they are in different slots.
      have hij : i ≠ j := by
        rintro rfl
        exact Nat.ne_of_lt hlt (DomainTable.strlen_eq_of_slotOf hd he)
      simpa using DomainTable.setActive_eq_iff hij

/-- `{"domain":"…"}`, of a domain without anything to escape. -/
def domainBody (d : CString) : Bytes :=
  ascii "\x7b\"domain\":\"" ++ d.bytes ++ ascii "\"\x7d"

/-- A library that parses this body. -/
def domainBodyLibrary (d : CString) : Library ℕ :=
  .ofText .ofNat (domainBody d) (.object [(.lit "domain", .string d)])

/-- `?domain=…`. -/
def domainQuery (e : CString) : UrlQuery where
  text := (CString.lit "domain=").append e
  value key := if key = "domain" then some e else none

theorem namesDomain_domainBody {d e : CString} (hencodes : PercentEncodes d.bytes e.bytes)
    (hpos : 1 ≤ d.strlen) (hfits : e.strlen ≤ 127) :
    NamesDomain (domainBodyLibrary d) (domainBody d) (domainQuery e) d e where
  ne_nil := List.append_ne_nil_of_right_ne_nil _ (by decide)
  parse := by
    have hnul : 0 ∉ domainBody d := by
      simp only [domainBody, List.mem_append, not_or]
      exact ⟨⟨by decide, d.nulFree⟩, by decide⟩
    refine ⟨_, Library.ofText_parse ?_ _, Item.getObjectItem_head ..⟩
    rw [CString.ofMem_bytes hnul]
  text := congrArg (· ++ e.bytes) (by decide)
  value := rfl
  encodes := hencodes
  pos := hpos
  fits := hfits

/-- A plain name, which is blocked. -/
theorem removals_agree_plain : RemovalsAgree (domainBodyLibrary (.lit "ads.example"))
    ⟨.ok, .ok, stationMac⟩ (domainBody (.lit "ads.example")) (domainQuery (.lit "ads.example"))
    { RouterTables.firstBoot with
      domains := (addBlockedDomain .ok (some (.lit "ads.example")) .firstBoot).2 } :=
  (removals_agree_iff (namesDomain_domainBody (.refl (by decide)) (by decide) (by decide)) _ _).2
    ⟨by decide, .inl rfl⟩

/-- A wildcard, whose asterisk is encoded in the query. -/
theorem wildcard_removal_differs : ¬ ∀ (lib : Library ℕ) (env : PostOutcome) (body : Bytes)
    (q : UrlQuery) (d e : CString) (t : RouterTables), NamesDomain lib body q d e →
      RemovalsAgree lib env body q t := by
  intro hall
  have hencodes : PercentEncodes (CString.lit "*.ads.example").bytes
      (CString.lit "%2A.ads.example").bytes :=
    .escape (x := 2) (y := 10) (by decide) (by decide) (.refl (by decide))
  have hnames := namesDomain_domainBody hencodes (by decide) (by decide)
  have hagree := hall _ ⟨.ok, .ok, stationMac⟩ _ _ _ _ { RouterTables.firstBoot with
    domains := (addBlockedDomain .ok (some (.lit "*.ads.example")) .firstBoot).2 } hnames
  rw [hnames.agree_iff (by decide)] at hagree
  exact absurd hagree.1 (by decide +kernel)

end EspFirewall
