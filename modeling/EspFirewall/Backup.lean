import EspFirewall.DomainFilter.Listed
import EspFirewall.ServiceFilter.Listed
import EspFirewall.WebViews

/-!
# Copying the policy of a router (`http_server.c`)

Every object that `/services`, `/custom_ports` and `/blocked_domains` list is a body that
`/services/set`, `/custom_ports/add` and `/add_domain` take.  So the lists can be saved and posted
again, to a router on which nothing has been set up.

* `restore_customPorts_iff`: the custom rules come out as they were exactly if no two of them
  conflict; with a conflict there are fewer.
* `policy_copied`: if there is no conflict, all three lists come out as they were, and the copy
  decides every packet and every query as the router does that it was made from.
-/

set_option autoImplicit false

namespace EspFirewall

open CLang CJson Listing

variable {Num : Type}

/-! ## Posting a list -/

/-- A request: what the NVS calls return, and the body. -/
abbrev PostRequest := PostOutcome × Option Bytes

/-- Post the bodies one after the other, whatever the replies are. -/
def postAll (lib : Library Num) (h : PostHandler) : List PostRequest → RouterTables →
    Except Fault RouterTables
  | [], t => .ok t
  | r :: rs, t => do
    let reply ← h.run lib r.1 r.2 t
    postAll lib h rs reply.2

/-- The bodies are texts of the items. -/
def PostsAll (lib : Library Num) (h : PostHandler) : List (Item Num) → List PostRequest → Prop :=
  List.Forall₂ fun item r => Posts lib h item r.2

theorem postAll_cons {lib : Library Num} {h : PostHandler} {r : PostRequest}
    {rs : List PostRequest} {t t' : RouterTables} {reply : HttpReply}
    (hrun : h.run lib r.1 r.2 t = .ok (reply, t')) :
    postAll lib h (r :: rs) t = postAll lib h rs t' := by
  rw [postAll, hrun]
  rfl

/-! ## The services -/

theorem builtin_names_distinct : ∀ i j : Fin SVC_BUILTIN_COUNT,
    toUpper (builtinServices i).name.str = toUpper (builtinServices j).name.str → i = j := by
  decide +kernel

theorem BuiltIn.name_eq {services : Services} (h : BuiltIn services) (i : Fin SVC_BUILTIN_COUNT) :
    (services i).name = (builtinServices i).name := by
  rw [h i]

/-- A service is found by the name that is shown for it. -/
theorem serviceFindByName_shown {services services' : Services} (h : BuiltIn services)
    (h' : BuiltIn services') (i : Fin SVC_BUILTIN_COUNT) :
    serviceFindByName services (some (services' i).name.str) = i := by
  have hfirst : Slots.first (fun r => toUpper (services' i).name.str == toUpper r.name.str)
      services = some i := by
    rw [Slots.first_eq_some_iff]
    simp only [h.name_eq, h'.name_eq, beq_self_eq_true, beq_eq_false_iff_ne, true_and]
    intro j hj heq
    exact hj.ne' (builtin_names_distinct i j heq)
  rw [serviceFindByName, hfirst]

theorem ruleItem_name (num : UInt16 → Num) (name : CString) (port : UInt16) (proto : UInt8)
    (blocked : Bool) :
    (ruleItem num name port proto blocked).getObjectItem "name" = some (.string name) :=
  Item.getObjectItem_head ..

theorem ruleItem_port (num : UInt16 → Num) (name : CString) (port : UInt16) (proto : UInt8)
    (blocked : Bool) :
    (ruleItem num name port proto blocked).getObjectItem "port" = some (.number (num port)) := by
  rw [ruleItem, Item.getObjectItem_skip (by decide)]
  exact Item.getObjectItem_head ..

theorem ruleItem_proto (num : UInt16 → Num) (name : CString) (port : UInt16) (proto : UInt8)
    (blocked : Bool) :
    (ruleItem num name port proto blocked).getObjectItem "proto" =
      some (.string (protoText proto)) := by
  rw [ruleItem, Item.getObjectItem_skip (by decide), Item.getObjectItem_skip (by decide)]
  exact Item.getObjectItem_head ..

theorem ruleItem_blocked (num : UInt16 → Num) (name : CString) (port : UInt16) (proto : UInt8)
    (blocked : Bool) :
    (ruleItem num name port proto blocked).getObjectItem "blocked" = some (.bool blocked) := by
  rw [ruleItem, Item.getObjectItem_skip (by decide), Item.getObjectItem_skip (by decide),
    Item.getObjectItem_skip (by decide)]
  exact Item.getObjectItem_head ..

/-- A listed service is posted. -/
theorem setService_shown {lib : Library Num} {num : UInt16 → Num} {r : PostRequest}
    {services : Services} (h : BuiltIn services) {t : RouterTables}
    (ht : BuiltIn t.services.services) (i : Fin SVC_BUILTIN_COUNT)
    (hpost : Posts lib .setService ((services i).item num) r.2) :
    PostHandler.setService.run lib r.1 r.2 t = .ok ({ HttpReply.sendOk with allowOrigin := true },
      { t with services := serviceSetBlocked r.1.save i (services i).blocked t.services }) := by
  refine (hpost.withJson "No body" t _).trans ?_
  rw [ServiceRule.item, ruleItem_name, ruleItem_blocked]
  simp only [Item.valuestring, serviceFindByName_shown ht h, Item.isTrue]
  rw [if_neg i.isLt.ne]

/-- Services are posted, as another router shows them. -/
theorem postAll_services {lib : Library Num} {num : UInt16 → Num} {services : Services}
    (h : BuiltIn services) {is : List (Fin SVC_BUILTIN_COUNT)} {rs : List PostRequest}
    {t : RouterTables} (ht : t.services.Reachable)
    (hposts : PostsAll lib .setService (is.map fun i => (services i).item num) rs) :
    ∃ t', postAll lib .setService rs t = .ok t' ∧ t'.services.Reachable ∧
      t'.services.custom = t.services.custom ∧ t'.domains = t.domains ∧
      ∀ j, t'.services.services j = if j ∈ is then services j else t.services.services j := by
  rw [PostsAll, List.forall₂_map_left_iff] at hposts
  induction hposts generalizing t with
  | nil => exact ⟨t, rfl, ht, rfl, rfl, fun j => by rw [if_neg List.not_mem_nil]⟩
  | @cons i r is rs hpost _ ih =>
    have hrun := setService_shown h ht.builtIn i hpost
    obtain ⟨t', heq, hreach, hcustom, hdomains, hservices⟩ :=
      ih (t := { t with
        services := serviceSetBlocked r.1.save i (services i).blocked t.services })
        (ht.next (.setBlocked r.1.save i (services i).blocked))
    refine ⟨t', (postAll_cons hrun).trans heq, hreach,
      hcustom.trans (serviceSetBlocked_custom ..), hdomains, fun j => ?_⟩
    have hj := hservices j
    dsimp only at hj
    rw [serviceSetBlocked_services] at hj
    rw [hj]
    by_cases hji : j = i
    · subst hji
      have hsame : ({ t.services.services j with blocked := (services j).blocked } : ServiceRule) =
          services j := by
        rw [ht.builtIn j, h j]
      rw [Function.update_self, hsame, if_pos List.mem_cons_self, ite_self]
    · rw [Function.update_of_ne hji]
      simp only [List.mem_cons, hji, false_or]

/-! ## The custom rules -/

/-- The list shows the slots in use. -/
theorem getCustomPortsHandler_eq (num : UInt16 → Num) (rules : CustomRules) :
    getCustomPortsHandler num rules =
      (entries CustomPortRule.active rules).map (CustomPortRule.item num) := by
  rw [getCustomPortsHandler, entries, List.ofFn_eq_map, List.filter_map, List.map_map]
  rfl

/-- The text of a protocol is read back. -/
theorem protoOfStr_protoText (proto : SvcProto) :
    protoOfStr (protoText proto.tag) = proto := by
  cases proto <;> decide +kernel

/-- A listed custom rule is posted. -/
theorem addCustomPort_shown {lib : Library Num} {num : UInt16 → Num}
    (hnum : ∀ port, lib.toUInt16 (num port) = port) {r : PostRequest} {rule : CustomPortRule}
    {proto : SvcProto} (hproto : rule.proto = proto.tag)
    (hpost : Posts lib .addCustomPort (rule.item num) r.2) (t : RouterTables) :
    ∃ reply, PostHandler.addCustomPort.run lib r.1 r.2 t = .ok (reply,
      { t with
        services := t.services.step
          (.addCustom r.1.save (some rule.name.str) rule.port proto rule.blocked) }) := by
  refine ⟨customReply (serviceAddCustom r.1.save (some rule.name.str) rule.port proto.tag
    rule.blocked t.services).1 .internalServerError "Table full",
    (hpost.withJson "No body" t _).trans ?_⟩
  rw [CustomPortRule.item, ruleItem_name, ruleItem_port, ruleItem_proto, ruleItem_blocked]
  simp only [Item.valuestring, nonNull, Item.uint16, hnum, Item.isTrue, hproto,
    protoOfStr_protoText, bind, Except.bind]
  rfl

/-- Custom rules are posted. -/
theorem postAll_customPorts {lib : Library Num} {num : UInt16 → Num}
    (hnum : ∀ port, lib.toUInt16 (num port) = port) {rules : List CustomPortRule}
    (hrules : ∀ r ∈ rules, r.Listed) {rs : List PostRequest} {t : RouterTables}
    (ht : t.services.Reachable)
    (hposts : PostsAll lib .addCustomPort (rules.map (CustomPortRule.item num)) rs) :
    ∃ t', postAll lib .addCustomPort rs t = .ok t' ∧ t'.services.Reachable ∧
      t'.services.services = t.services.services ∧ t'.domains = t.domains ∧
      t'.services.custom.rules = rules.foldl CustomRules.add t.services.custom.rules := by
  rw [PostsAll, List.forall₂_map_left_iff] at hposts
  induction hposts generalizing t with
  | nil => exact ⟨t, rfl, ht, rfl, rfl, rfl⟩
  | @cons rule r rules rs hpost _ ih =>
    have hlisted := hrules rule List.mem_cons_self
    obtain ⟨proto, hproto⟩ := hlisted.proto
    obtain ⟨reply, hrun⟩ := addCustomPort_shown hnum hproto hpost t
    obtain ⟨t', heq, hreach, hservices, hdomains, hcustom⟩ :=
      ih (fun r hr => hrules r (List.mem_cons_of_mem rule hr)) (t := { t with
        services := t.services.step
          (.addCustom r.1.save (some rule.name.str) rule.port proto rule.blocked) })
        (ht.next (.addCustom r.1.save (some rule.name.str) rule.port proto rule.blocked))
    refine ⟨t', (postAll_cons hrun).trans heq, hreach,
      hservices.trans (serviceAddCustom_services ..), hdomains, ?_⟩
    rw [hcustom, List.foldl_cons, ServiceFilter.step, ← hproto,
      serviceAddCustom_rules r.1.save hlisted.port]

/-- **Which lists of custom rules can be restored.**  Posted to a router that shows none, the list of
a router comes out as it was exactly if no two of its rules conflict.  If two do, the copy has fewer
rules. -/
theorem restore_customPorts_iff {lib : Library Num} {num : UInt16 → Num}
    (hnum : ∀ port, lib.toUInt16 (num port) = port) {s : ServiceFilter} (hs : s.Reachable)
    {t : RouterTables} (ht : t.services.Reachable)
    (hempty : getCustomPortsHandler num t.services.custom.rules = []) {rs : List PostRequest}
    (hposts : PostsAll lib .addCustomPort (getCustomPortsHandler num s.custom.rules) rs) :
    ∃ t', postAll lib .addCustomPort rs t = .ok t' ∧
      (getCustomPortsHandler num t'.services.custom.rules =
          getCustomPortsHandler num s.custom.rules ↔ NoConflict s.custom.rules) ∧
      (¬ NoConflict s.custom.rules → (getCustomPortsHandler num t'.services.custom.rules).length <
        (getCustomPortsHandler num s.custom.rules).length) := by
  rw [getCustomPortsHandler_eq, List.map_eq_nil_iff] at hempty
  rw [getCustomPortsHandler_eq] at hposts
  obtain ⟨t', heq, -, -, -, hcustom⟩ := postAll_customPorts hnum hs.listed ht hposts
  have hlegal : ∀ r ∈ entries CustomPortRule.active s.custom.rules, r.active = true :=
    fun r hr => mem_entries_active hr
  have hcap := length_entries_le CustomPortRule.active s.custom.rules
  have hfewer : ¬ NoConflict s.custom.rules →
      (getCustomPortsHandler num t'.services.custom.rules).length <
        (getCustomPortsHandler num s.custom.rules).length := by
    rw [noConflict_iff_pairwise, getCustomPortsHandler_eq, getCustomPortsHandler_eq, hcustom,
      List.length_map, List.length_map]
    exact length_replay_lt customRules_table (.of_entries_nil hempty) hempty hlegal hcap
  refine ⟨t', heq, ⟨fun hsame => ?_, fun hnone => ?_⟩, hfewer⟩
  · by_contra hclash
    exact (hfewer hclash).ne (congrArg List.length hsame)
  · rw [noConflict_iff_pairwise] at hnone
    rw [getCustomPortsHandler_eq, getCustomPortsHandler_eq, hcustom,
      replay_of_pairwise customRules_table (.of_entries_nil hempty) hempty hlegal hcap hnone]

/-! ## The domains -/

/-- The list shows them. -/
theorem DomainTable.WellFormed.getBlockedDomainsHandler_eq {t : DomainTable} (h : t.WellFormed) :
    (getBlockedDomainsHandler t : List (Item Num)) =
      t.listed.map fun d => .object [(.lit "domain", .string d)] := by
  have hfilter : (fun i : Fin MAX_BLOCKED_DOMAINS =>
      decide (i.val < t.count) && (t.slots i).counted) = fun i => (t.slots i).counted := by
    funext i
    cases hi : (t.slots i).counted with
    | false => rw [Bool.and_false]
    | true => rw [Bool.and_true, decide_eq_true (h.lt_of_active (counted_iff.1 hi).1)]
  rw [getBlockedDomainsHandler, hfilter, listed, entries, List.ofFn_eq_map, List.filter_map,
    List.map_map, List.map_map]
  rfl

/-- A listed domain is posted. -/
theorem addBlockedDomain_shown {lib : Library Num} {r : PostRequest} {d : CString}
    (hpost : Posts lib .addBlockedDomain (.object [(.lit "domain", .string d)]) r.2)
    (t : RouterTables) : ∃ reply, PostHandler.addBlockedDomain.run lib r.1 r.2 t = .ok (reply,
      { t with domains := (addBlockedDomain r.1.domainSave (some d) t.domains).2 }) := by
  refine ⟨domainReply (addBlockedDomain r.1.domainSave (some d) t.domains).1 .internalServerError
    "Failed to add domain", (hpost.withJson "Invalid request" t _).trans ?_⟩
  rw [Item.getObjectItem_head]
  rfl

/-- Domains are posted. -/
theorem postAll_domains {lib : Library Num} {ds : List CString} {rs : List PostRequest}
    {t : RouterTables} (hposts : PostsAll lib .addBlockedDomain
      (ds.map fun d => .object [(.lit "domain", .string d)]) rs) :
    ∃ t', postAll lib .addBlockedDomain rs t = .ok t' ∧ t'.services = t.services ∧
      t'.domains.table = ds.foldl DomainTable.add t.domains.table := by
  rw [PostsAll, List.forall₂_map_left_iff] at hposts
  induction hposts generalizing t with
  | nil => exact ⟨t, rfl, rfl, rfl⟩
  | @cons d r ds rs hpost _ ih =>
    obtain ⟨reply, hrun⟩ := addBlockedDomain_shown hpost t
    obtain ⟨t', heq, hservices, htable⟩ := ih (t := { t with
      domains := (addBlockedDomain r.1.domainSave (some d) t.domains).2 })
    refine ⟨t', (postAll_cons hrun).trans heq, hservices, ?_⟩
    rw [htable, List.foldl_cons, DomainTable.addBlockedDomain_table]

/-! ## The whole policy -/

/-- The two routers decide every packet and every query alike. -/
structure SamePolicy (s s' : ServiceFilter) (d d' : DomainTable) : Prop where
  packets : ∀ proto port, serviceIsPortAllowed s proto port = serviceIsPortAllowed s' proto port
  queries : ∀ q, isDomainBlocked d q = isDomainBlocked d' q

/-- **The policy is copied.**  The three lists of a router without conflicting rules are posted to a
router that has neither custom rules nor domains, whatever its services are set to.  Then that one
shows the same three lists, and decides every packet and every query as the first one does. -/
theorem policy_copied {lib : Library Num} {num : UInt16 → Num}
    (hnum : ∀ port, lib.toUInt16 (num port) = port) {s : ServiceFilter} (hs : s.Reachable)
    (hconflict : NoConflict s.custom.rules) {d : DomainFilter} (hd : d.Reachable)
    {t : RouterTables} (ht : t.services.Reachable)
    (hrules : getCustomPortsHandler num t.services.custom.rules = [])
    (hdomains : t.domains.table.count = 0) (hslots : t.domains.Reachable)
    {services customs domains : List PostRequest}
    (hservices : PostsAll lib .setService (getServicesHandler num s.services) services)
    (hcustoms : PostsAll lib .addCustomPort (getCustomPortsHandler num s.custom.rules) customs)
    (hposts : PostsAll lib .addBlockedDomain (getBlockedDomainsHandler d.table) domains) :
    ∃ t', (do
        let t ← postAll lib .setService services t
        let t ← postAll lib .addCustomPort customs t
        postAll lib .addBlockedDomain domains t) = .ok t' ∧
      getServicesHandler num t'.services.services = getServicesHandler num s.services ∧
      getCustomPortsHandler num t'.services.custom.rules =
        getCustomPortsHandler num s.custom.rules ∧
      (getBlockedDomainsHandler t'.domains.table : List (Item Num)) =
        getBlockedDomainsHandler d.table ∧
      SamePolicy t'.services s t'.domains.table d.table := by
  have hwf := hd.wellFormed
  rw [getCustomPortsHandler_eq, List.map_eq_nil_iff] at hrules
  rw [getCustomPortsHandler_eq] at hcustoms
  rw [hwf.getBlockedDomainsHandler_eq] at hposts
  obtain ⟨t₁, heq₁, hreach₁, hcustom₁, hdomains₁, hservices₁⟩ :=
    postAll_services hs.builtIn ht hservices
  obtain ⟨t₂, heq₂, hreach₂, hservices₂, hdomains₂, hcustom₂⟩ :=
    postAll_customPorts hnum hs.listed hreach₁ hcustoms
  obtain ⟨t₃, heq₃, hservices₃, hdomains₃⟩ := postAll_domains (t := t₂) hposts
  have hflags : t₃.services.services = s.services := by
    rw [hservices₃, hservices₂]
    funext i
    rw [hservices₁, if_pos (List.mem_finRange i)]
  have hentries : entries CustomPortRule.active t₃.services.custom.rules =
      entries CustomPortRule.active s.custom.rules := by
    rw [hservices₃, hcustom₂, hcustom₁]
    exact replay_of_pairwise customRules_table (.of_entries_nil hrules) hrules
      (fun r hr => mem_entries_active hr) (length_entries_le ..) (noConflict_iff_pairwise.1 hconflict)
  have hfull : t.domains.table.Full :=
    ⟨hslots.wellFormed, fun i hi => absurd hi (by rw [hdomains]; exact Nat.not_lt_zero _)⟩
  have hnone : t.domains.table.listed = [] := by
    rw [List.eq_nil_iff_forall_not_mem]
    intro e he
    obtain ⟨i, hi, -⟩ := hslots.wellFormed.mem_listed.1 he
    exact absurd hi (by rw [hdomains]; exact Nat.not_lt_zero _)
  have hcap : d.table.listed.length ≤ MAX_BLOCKED_DOMAINS := by
    rw [DomainTable.listed, List.length_map]
    exact length_entries_le ..
  have htable : t₃.domains.table = d.table.listed.foldl DomainTable.add t.domains.table := by
    rw [hdomains₃, hdomains₂, hdomains₁]
  have hlisted : t₃.domains.table.listed = d.table.listed := by
    rw [htable]
    exact replay_of_pairwise DomainTable.listed_table hfull hnone hwf.legal_listed hcap
      hwf.pairwise_listed
  have hwf₃ : t₃.domains.table.WellFormed := by
    rw [htable]
    exact (DomainTable.listed_table.inv_foldl hfull hwf.legal_listed).wellFormed
  refine ⟨t₃, ?_, by rw [hflags], by rw [getCustomPortsHandler_eq, getCustomPortsHandler_eq,
    hentries], by rw [hwf₃.getBlockedDomainsHandler_eq, hwf.getBlockedDomainsHandler_eq, hlisted],
    ?_, ?_⟩
  · rw [heq₁]
    refine Eq.trans (congrArg (· >>= fun t => postAll lib .addBlockedDomain domains t) heq₂) ?_
    exact heq₃
  · intro proto port
    rw [ServiceFilter.Reachable.allowed_eq (hservices₃ ▸ hreach₂), hs.allowed_eq, portPolicy,
      portPolicy, customVerdict_eq_of_entries hentries, hflags]
  · refine isDomainBlocked_congr ?_
    ext q
    rw [← hwf₃.mem_listed, ← hwf.mem_listed, hlisted]

/-! ## One router -/

/-- The text of a member that has nothing to escape. -/
def memberText : CString × Item ℕ → Bytes
  | (key, .string s) => ascii "\"" ++ key.bytes ++ ascii "\":\"" ++ s.bytes ++ ascii "\""
  | (key, .number x) => ascii "\"" ++ key.bytes ++ ascii "\":" ++ digits 10 x
  | (key, .bool b) => ascii "\"" ++ key.bytes ++ ascii "\":" ++ ascii (if b then "true" else "false")
  | _ => []

/-- The text of an object of such members. -/
def objectText : Item ℕ → Bytes
  | .object members =>
    ascii "\x7b" ++ (ascii ",").intercalate (members.map memberText) ++ ascii "\x7d"
  | _ => []

/-- A library that parses the texts of some objects. -/
def objectLibrary (items : List (Item ℕ)) : Library ℕ where
  parse s := items.find? fun item => objectText item == s.bytes
  toUInt16 := .ofNat

theorem find_objectText {items : List (Item ℕ)} (hnodup : (items.map objectText).Nodup)
    {item : Item ℕ} (h : item ∈ items) :
    (items.find? fun i => objectText i == objectText item) = some item := by
  induction items with
  | nil => exact absurd h List.not_mem_nil
  | cons a items ih =>
    rw [List.map_cons, List.nodup_cons] at hnodup
    rcases List.mem_cons.1 h with rfl | hmem
    · exact List.find?_cons_of_pos (beq_self_eq_true _)
    · rw [List.find?_cons_of_neg, ih hnodup.2 hmem]
      rw [beq_iff_eq]
      exact fun heq => hnodup.1 (heq ▸ List.mem_map_of_mem hmem)

/-- The texts of some of the objects are posted, with every NVS call succeeding. -/
theorem postsAll_objectText {all items : List (Item ℕ)} (h : PostHandler)
    (hnodup : (all.map objectText).Nodup) (hsub : ∀ item ∈ items, item ∈ all)
    (hroom : ∀ item ∈ items, 0 ∉ objectText item ∧ objectText item ≠ [] ∧
      (objectText item).length < h.bufSize) :
    PostsAll (objectLibrary all) h items
      (items.map fun item => (⟨.ok, .ok, #v[0, 0, 0, 0, 0, 0]⟩, some (objectText item))) := by
  rw [PostsAll, List.forall₂_map_right_iff, List.forall₂_same]
  intro item hitem
  obtain ⟨hnul, hne, hlen⟩ := hroom item hitem
  refine ⟨_, rfl, hne, hlen, ?_⟩
  have hfind := find_objectText hnodup (hsub item hitem)
  rwa [← CString.ofMem_bytes hnul] at hfind

/-- SSH is blocked, and so is port 8080 by a rule. -/
def sourceFilter : ServiceFilter :=
  StepSystem.run ServiceFilter.step (bootServiceFilter .ok .empty)
    [.setBlocked .ok 3 true, .addCustom .ok (some (.lit "web")) 8080 .tcp true]

/-- A domain is blocked. -/
def sourceDomains : DomainFilter :=
  StepSystem.run DomainFilter.step .firstBoot [.add (some (.lit "ads.example"))]

theorem sourceFilter_reachable : sourceFilter.Reachable :=
  (StepSystem.Reachable.init ⟨.ok, rfl⟩).run _

theorem sourceDomains_reachable : sourceDomains.Reachable := DomainFilter.reachable_run _

/-- Everything that is listed. -/
def sourceItems : List (Item ℕ) :=
  getServicesHandler UInt16.toNat sourceFilter.services ++
    getCustomPortsHandler UInt16.toNat sourceFilter.custom.rules ++
    getBlockedDomainsHandler sourceDomains.table

theorem sourceItems_nodup : (sourceItems.map objectText).Nodup := by
  decide +kernel

theorem sourceFilter_entries : entries CustomPortRule.active sourceFilter.custom.rules =
    [⟨.strncpy (.lit "web"), 8080, SVC_PROTO_TCP, true, true⟩] := by
  decide +kernel

theorem sourceFilter_noConflict : NoConflict sourceFilter.custom.rules := by
  rw [noConflict_iff_pairwise, sourceFilter_entries]
  exact List.pairwise_singleton ..

/-- The texts of listed objects, as requests. -/
def sourceRequests (items : List (Item ℕ)) : List PostRequest :=
  items.map fun item => (⟨.ok, .ok, #v[0, 0, 0, 0, 0, 0]⟩, some (objectText item))

theorem sourceItems_num : ∀ port, (objectLibrary sourceItems).toUInt16 (UInt16.toNat port) = port :=
  fun _ => UInt16.ofNat_toNat

theorem sourceServices_posted : PostsAll (objectLibrary sourceItems) .setService
    (getServicesHandler UInt16.toNat sourceFilter.services)
    (sourceRequests (getServicesHandler UInt16.toNat sourceFilter.services)) :=
  postsAll_objectText .setService sourceItems_nodup
    (fun item h => List.mem_append_left _ (List.mem_append_left _ h)) (by decide +kernel)

theorem sourceCustoms_posted : PostsAll (objectLibrary sourceItems) .addCustomPort
    (getCustomPortsHandler UInt16.toNat sourceFilter.custom.rules)
    (sourceRequests (getCustomPortsHandler UInt16.toNat sourceFilter.custom.rules)) :=
  postsAll_objectText .addCustomPort sourceItems_nodup
    (fun item h => List.mem_append_left _ (List.mem_append_right _ h)) (by decide +kernel)

theorem sourceDomains_posted : PostsAll (objectLibrary sourceItems) .addBlockedDomain
    (getBlockedDomainsHandler sourceDomains.table)
    (sourceRequests (getBlockedDomainsHandler sourceDomains.table)) :=
  postsAll_objectText .addBlockedDomain sourceItems_nodup
    (fun item h => List.mem_append_right _ h) (by decide +kernel)

/-- Its custom rule comes out on a router that has just started. -/
theorem restore_customPorts_web : ∃ t',
    postAll (objectLibrary sourceItems) .addCustomPort
        (sourceRequests (getCustomPortsHandler UInt16.toNat sourceFilter.custom.rules)) .firstBoot =
          .ok t' ∧
      getCustomPortsHandler UInt16.toNat t'.services.custom.rules =
        getCustomPortsHandler UInt16.toNat sourceFilter.custom.rules := by
  obtain ⟨t', heq, hiff, -⟩ := restore_customPorts_iff sourceItems_num sourceFilter_reachable
    (t := .firstBoot) (.init ⟨.ok, rfl⟩) rfl sourceCustoms_posted
  exact ⟨t', heq, hiff.2 sourceFilter_noConflict⟩

/-- A router that has just started becomes a copy. -/
theorem policy_copied_first : ∃ t' : RouterTables,
    SamePolicy t'.services sourceFilter t'.domains.table sourceDomains.table := by
  obtain ⟨t', -, -, -, -, hsame⟩ := policy_copied sourceItems_num sourceFilter_reachable
    sourceFilter_noConflict sourceDomains_reachable (t := .firstBoot) (.init ⟨.ok, rfl⟩) rfl rfl
    (DomainFilter.reachable_run []) sourceServices_posted sourceCustoms_posted sourceDomains_posted
  exact ⟨t', hsame⟩

end EspFirewall
