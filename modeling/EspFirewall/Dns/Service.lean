import EspFirewall.Dns.Forwarding
import EspFirewall.DomainFilter.BlockedSet

/-!
# The DNS server over time (`dns_server_task`)

`Filtering` is about one round of the server, with the table as it is.  Here the rounds follow each
other, and in between domains are blocked and unblocked from the web pages.  What the server has to
answer can then be said from the calls alone: a name is blocked if it is covered by a domain whose
last successful call was an `add_blocked_domain`.

* `answered_from_history`: a query for a name is answered with 0.0.0.0 if the calls before it block
  the name, and otherwise relayed to the upstream server.  There is one exception: a blocked name
  with a `%` in it that is not one of a pair, which the server logs as a format.
* `sent_from_history`: whatever datagrams arrive, there is nothing else that the server sends.
* `blocked_answer_ends`: an answer of its own that gets back to it is not answered.
-/

set_option autoImplicit false

namespace EspFirewall

open CLang

/-! ## Runs of the server -/

/-- The domain filter, and the task with what is in its `rx_buffer`. -/
structure DnsService where
  filter : DomainFilter
  rx : Mem

/-- What happens: a call of the domain filter with its result, or a round of the task with what it
sends. -/
inductive ServiceEvent
  | call (c : DomainCall) (result : Bool)
  | round (net : NetOutcome) (data : Bytes) (client : SockAddr) (sent : List Sent)

namespace DnsService

/-- A power on with nothing blocked. -/
def start (nvs : Option BlockedDomains) (logs : List LogCall) (rx : Mem) : DnsService :=
  ⟨.unused nvs logs, rx⟩

/-- One event.  A round that does not come to an end is none. -/
inductive Step (s : DnsService) : ServiceEvent → DnsService → Prop
  | call (c : DomainCall) :
    Step s (.call c (c.exec s.filter).1) { s with filter := (c.exec s.filter).2 }
  | round {net : NetOutcome} {data : Bytes} {client : SockAddr} {out : IterOutcome}
      (h : DnsIteration s.filter.table net s.rx data client (some out)) :
    Step s (.round net data client out.sent)
      ⟨{ s.filter with logs := s.filter.logs ++ out.logs },
        s.rx.write (data.take DNS_MAX_PACKET_SIZE)⟩

/-- The events from one state to another. -/
inductive Run (s : DnsService) : List ServiceEvent → DnsService → Prop
  | nil : Run s [] s
  | concat {es : List ServiceEvent} {e : ServiceEvent} {s' s'' : DnsService} (h : Run s es s')
      (he : Step s' e s'') : Run s (es ++ [e]) s''

end DnsService

/-- The calls among the events. -/
def calls (es : List ServiceEvent) : List (DomainCall × Bool) :=
  es.filterMap fun
    | .call c result => some (c, result)
    | .round .. => none

/-- The calls block the name: it is covered by a domain that was added, and not removed since. -/
def BlockedBy (cs : List (DomainCall × Bool)) (name : Bytes) : Prop :=
  ∃ d : CString, (successes d cs).getLast? = some .insert ∧ CoversName d.bytes name

/-! ## The table and the history -/

theorem DomainTable.length_le_of_mem_activeKeys {t : DomainTable} {k : Bytes}
    (h : k ∈ t.activeKeys) : k.length ≤ MAX_DOMAIN_LENGTH - 1 := by
  obtain ⟨i, -, -, rfl⟩ := h
  rw [lower, List.length_map]
  exact Nat.le_sub_one_of_lt (CharBuf.fits _)

/-- The set that the calls of a run make of the table. -/
theorem DnsService.Run.activeKeys {nvs : Option BlockedDomains} {logs : List LogCall} {rx : Mem}
    {es : List ServiceEvent} {s : DnsService} (h : Run (.start nvs logs rx) es s) :
    s.filter.table.WellFormed ∧
      s.filter.table.activeKeys = SetHistory.members (asOps (calls es)) := by
  induction h with
  | nil => exact ⟨DomainTable.wellFormed_zero, DomainTable.activeKeys_zero⟩
  | @concat es e s' s'' _ he ih =>
    obtain ⟨hs, hkeys⟩ := ih
    cases he with
    | call c =>
      have heffect := callEffect_exec c s'.filter
      refine ⟨heffect.wellFormed hs, ?_⟩
      have happend : asOps (calls (es ++ [.call c (c.exec s'.filter).1])) =
          asOps (calls es) ++ asOps [(c, (c.exec s'.filter).1)] := by
        rw [asOps, asOps, asOps, ← List.filterMap_append, calls, List.filterMap_append]
        rfl
      rw [happend, SetHistory.members, List.foldl_append, ← SetHistory.members, ← hkeys]
      exact heffect.activeKeys hs
    | round hround =>
      refine ⟨hs, ?_⟩
      rw [calls, List.filterMap_append]
      exact hkeys.trans (by rw [calls]; simp)

/-- **What the filter blocks, from its set.**  It looks at 127 bytes of the name. -/
theorem isDomainBlocked_iff_covers {t : DomainTable} {q : CString} (hq : q.bytes ≠ []) :
    isDomainBlocked t (some q) = true ↔ ∃ d : CString, lower d.bytes ∈ t.activeKeys ∧
      CoversName d.bytes (q.bytes.take (MAX_DOMAIN_LENGTH - 1)) := by
  rw [isDomainBlocked_iff_activeKeys hq]
  refine exists_congr fun d => and_congr_right fun hd => ?_
  have hlen : d.bytes.length ≤ MAX_DOMAIN_LENGTH - 1 := by
    have hle := DomainTable.length_le_of_mem_activeKeys hd
    rwa [lower, List.length_map] at hle
  rw [domainMatches_iff, List.take_of_length_le hlen]

/-- **What the filter blocks, from the history.** -/
theorem DnsService.Run.isDomainBlocked_iff {nvs : Option BlockedDomains} {logs : List LogCall}
    {rx : Mem} {es : List ServiceEvent} {s : DnsService} (h : Run (.start nvs logs rx) es s)
    {q : CString} (hq : q.bytes ≠ []) :
    isDomainBlocked s.filter.table (some q) = true ↔
      BlockedBy (calls es) (q.bytes.take (MAX_DOMAIN_LENGTH - 1)) := by
  rw [isDomainBlocked_iff_covers hq, BlockedBy, h.activeKeys.2]
  simp only [SetHistory.mem_members_iff, on_asOps]

/-! ## What a round sends -/

/-- What is sent for a query whose name is blocked. -/
def blockedReply (net : NetOutcome) (query : Bytes) (client : SockAddr) : List Sent :=
  if net.clientSend then [⟨client, createBlockedResponse query⟩] else []

/-- What is sent for a query that is not blocked: the query to the upstream server, and what comes
back to the client. -/
def relayed (net : NetOutcome) (query : Bytes) (client : SockAddr) : List Sent :=
  if net.upstreamSocket = true ∧ net.upstreamSend = true then
    ⟨upstreamDns, query⟩ :: match net.reply with
      | some reply => if reply ≠ [] ∧ net.clientSend = true then
          [⟨client, reply.take DNS_MAX_PACKET_SIZE⟩] else []
      | none => []
  else []

theorem answerQuery_relayed {t : DomainTable} (net : NetOutcome) (query : Bytes)
    (client : SockAddr) {domain : CString} (h : isDomainBlocked t (some domain) = false) :
    answerQuery t net query client domain = some ⟨relayed net query client, []⟩ := by
  rw [answerQuery, if_neg (by rw [h]; exact Bool.false_ne_true), forwardDnsQuery, relayed]
  obtain ⟨socket, send, reply, clientSend⟩ := net
  cases socket with
  | false => rfl
  | true =>
    cases send with
    | false => rfl
    | true =>
      cases reply with
      | none => rfl
      | some reply =>
        have hreply : 0 < (reply.take DNS_MAX_PACKET_SIZE).length ↔ reply ≠ [] := by
          rw [List.length_take, ← List.length_pos_iff, lt_min_iff]
          exact and_iff_right (by decide)
        simp only [hreply, if_true, and_self, Option.map_some]
        split <;> rfl

/-- The message is long enough for a header, is no response and has a question. -/
def IsQueryMessage (data : Bytes) : Prop :=
  DNS_HEADER_SIZE ≤ data.length ∧ bigEndian16 (data.getD 2 0) (data.getD 3 0) &&& 0x8000 = 0 ∧
    0 < bigEndian16 (data.getD 4 0) (data.getD 5 0)

/-- The test does not read beyond the message. -/
theorem isQuery_write_iff (old : Mem) {query : Bytes} (hlen : DNS_HEADER_SIZE ≤ query.length) :
    isQuery (old.write query) = true ↔ IsQueryMessage query := by
  have hlen' : 12 ≤ query.length := hlen
  have hmem (i : ℕ) (hi : i < query.length) : old.write query i = query.getD i 0 := by
    have hwrite : old.write (query ++ []) i = query.getD i 0 := write_eq_getD hi
    rwa [List.append_nil] at hwrite
  rw [isQuery, ntohs_load16, ntohs_load16, hmem 2 (by omega), hmem 3 (by omega), hmem 4 (by omega),
    hmem 5 (by omega), IsQueryMessage, and_iff_right hlen, Bool.and_eq_true, beq_iff_eq,
    decide_eq_true_eq]

/-- **A round sends nothing, or answers a query by the name in it.** -/
theorem dnsIteration_answers {t : DomainTable} {net : NetOutcome} {old : Mem} {data : Bytes}
    {client : SockAddr} {out : IterOutcome} (h : DnsIteration t net old data client (some out)) :
    out.sent = [] ∨ IsQueryMessage (data.take DNS_MAX_PACKET_SIZE) ∧ ∃ o domain,
      ParsesName (old.write (data.take DNS_MAX_PACKET_SIZE)) DNS_HEADER_SIZE DNS_DOMAIN_SIZE
        (some (o, domain)) ∧ domain.bytes ≠ [] ∧
      answerQuery t net (data.take DNS_MAX_PACKET_SIZE) client domain = some out := by
  rcases h.cases with hnone | ⟨o, domain, hlen, hquery, hname, hne, hout⟩
  · exact .inl (by rw [Option.some.inj hnone]; rfl)
  · exact .inr ⟨(isQuery_write_iff old hlen).1 hquery, o, domain, hname, hne, hout.symm⟩

/-- An answer of the server's own, when it gets back to it, is not answered. -/
theorem blocked_answer_ends {t : DomainTable} {net : NetOutcome} {old : Mem} {query : Bytes}
    {client : SockAddr} {out : IterOutcome} (hquery : DNS_HEADER_SIZE ≤ query.length)
    (h : DnsIteration t net old (createBlockedResponse query) client (some out)) :
    out.sent = [] := by
  refine (dnsIteration_answers h).resolve_right fun hanswer => ?_
  obtain ⟨a, b, c, d, rest, rfl⟩ : ∃ a b c d rest, query = a :: b :: c :: d :: rest := by
    have hlong : 12 ≤ query.length := hquery
    rcases query with _ | ⟨a, _ | ⟨b, _ | ⟨c, _ | ⟨d, rest⟩⟩⟩⟩
    case cons.cons.cons.cons => exact ⟨a, b, c, d, rest, rfl⟩
    all_goals simp at hlong
  have hflags : bigEndian16 0x81 0x80 &&& 0x8000 = 0 := hanswer.1.2.1
  exact absurd hflags (by decide)

/-! ## What becomes of a query -/

/-- The server sends exactly this when the datagram arrives: there is a round that does, and none
that sends anything else. -/
def DnsService.Sends (s : DnsService) (net : NetOutcome) (data : Bytes) (client : SockAddr)
    (sent : List Sent) : Prop :=
  (∃ s', s.Step (.round net data client sent) s') ∧
    ∀ sent' s', s.Step (.round net data client sent') s' → sent' = sent

/-- A round for a query is one that answers it. -/
theorem DnsService.step_round_iff {s : DnsService} {net : NetOutcome} {data : Bytes}
    {client : SockAddr} {sent : List Sent} {labels : List Bytes} (hq : NameQuery data labels) :
    (∃ s', s.Step (.round net data client sent) s') ↔
      ∃ out, answerQuery s.filter.table net data client hq.name = some out ∧ out.sent = sent := by
  constructor
  · rintro ⟨s', h⟩
    cases h with
    | @round _ _ _ out h => exact ⟨out, ((dnsIteration_query hq).1 h).symm, rfl⟩
  · rintro ⟨out, hout, rfl⟩
    exact ⟨_, .round ((dnsIteration_query hq).2 hout.symm)⟩

theorem DnsService.sends_iff {s : DnsService} {net : NetOutcome} {data : Bytes}
    {client : SockAddr} {sent : List Sent} {labels : List Bytes} (hq : NameQuery data labels) :
    s.Sends net data client sent ↔
      ∃ out, answerQuery s.filter.table net data client hq.name = some out ∧ out.sent = sent := by
  rw [Sends, step_round_iff hq]
  refine and_iff_left_of_imp ?_
  rintro ⟨out, hout, rfl⟩ sent' s' h
  obtain ⟨out', hout', rfl⟩ := (step_round_iff hq).1 ⟨s', h⟩
  rw [Option.some.inj (hout'.symm.trans hout)]

/-- What the server sends for a query, by what the filter says. -/
theorem DnsService.sends_of_blocked {s : DnsService} (net : NetOutcome) (client : SockAddr)
    {data : Bytes} {labels : List Bytes} (hq : NameQuery data labels)
    (hblocked : isDomainBlocked s.filter.table (some hq.name) = true)
    (hpercent : PercentsPaired (dotted labels)) (hdata : data.length ≤ 496) :
    s.Sends net data client (blockedReply net data client) := by
  obtain ⟨out, hout⟩ := answerQuery_blocked_isSome hq.strlen_lt hblocked hpercent hdata
  exact (sends_iff hq).2 ⟨out, hout, (answerQuery_blocked hq.strlen_lt hblocked out hout).2.2⟩

theorem DnsService.sends_of_not_blocked {s : DnsService} (net : NetOutcome) (client : SockAddr)
    {data : Bytes} {labels : List Bytes} (hq : NameQuery data labels)
    (hblocked : isDomainBlocked s.filter.table (some hq.name) = false) :
    s.Sends net data client (relayed net data client) :=
  (sends_iff hq).2 ⟨_, answerQuery_relayed net data client hblocked, rfl⟩

/-- The rounds for a query whose name is blocked. -/
theorem DnsService.exists_round_iff {s : DnsService} (net : NetOutcome) (client : SockAddr)
    {data : Bytes} {labels : List Bytes} (hq : NameQuery data labels)
    (hblocked : isDomainBlocked s.filter.table (some hq.name) = true) :
    (∃ sent s', s.Step (.round net data client sent) s') ↔
      PercentsPaired (dotted labels) ∧ data.length ≤ 496 := by
  constructor
  · rintro ⟨sent, hround⟩
    obtain ⟨out, hout, -⟩ := (step_round_iff hq).1 hround
    obtain ⟨hpercent, hfits, -⟩ := answerQuery_blocked hq.strlen_lt hblocked out hout
    exact ⟨hpercent, hfits⟩
  · rintro ⟨hpercent, hfits⟩
    exact ⟨_, (sends_of_blocked net client hq hblocked hpercent hfits).1⟩

/-! ## Runs -/

namespace DnsService

theorem Run.of_concat {s s'' : DnsService} {es : List ServiceEvent} {e : ServiceEvent}
    (h : Run s (es ++ [e]) s'') : ∃ s', Run s es s' ∧ Step s' e s'' := by
  generalize hes : es ++ [e] = l at h
  cases h with
  | nil => exact absurd hes (List.append_ne_nil_of_right_ne_nil es (List.cons_ne_nil e []))
  | concat h he =>
    obtain ⟨rfl, hlast⟩ := List.append_inj' hes rfl
    obtain rfl := (List.cons.inj hlast).1
    exact ⟨_, h, he⟩

/-- The state in which the first events of a run end. -/
theorem Run.of_append {s s'' : DnsService} {es es' : List ServiceEvent}
    (h : Run s (es ++ es') s'') : ∃ s', Run s es s' := by
  induction es' using List.reverseRecOn generalizing s'' with
  | nil => exact ⟨s'', by rwa [List.append_nil] at h⟩
  | append_singleton es' e ih =>
    rw [← List.append_assoc] at h
    obtain ⟨s', h, -⟩ := h.of_concat
    exact ih h

end DnsService

section

variable {nvs : Option BlockedDomains} {logs : List LogCall} {rx : Mem} {s : DnsService}

/-- **What becomes of a query for a name**, of at most 127 bytes.  If the calls so far do not block
the name, there is a round for it, which relays the query.  If they do, and the query has room for an
answer, there is one if each `%` of the name is one of a pair, and it sends the blocked answer and
nothing else; otherwise there is none. -/
theorem answered_from_history {es : List ServiceEvent} (h : (DnsService.start nvs logs rx).Run es s)
    (net : NetOutcome) (client : SockAddr) {data : Bytes} {labels : List Bytes}
    (hq : NameQuery data labels) (hname : (dotted labels).length ≤ 127) :
    (¬ BlockedBy (calls es) (dotted labels) →
        s.Sends net data client (relayed net data client)) ∧
      (BlockedBy (calls es) (dotted labels) → PercentsPaired (dotted labels) →
        data.length ≤ 496 → s.Sends net data client (blockedReply net data client)) ∧
      (BlockedBy (calls es) (dotted labels) →
        ¬ PercentsPaired (dotted labels) ∨ 496 < data.length →
          ¬ ∃ sent s', s.Step (.round net data client sent) s') := by
  have hblocked : isDomainBlocked s.filter.table (some hq.name) = true ↔
      BlockedBy (calls es) (dotted labels) := by
    have hfits : (dotted labels).length ≤ MAX_DOMAIN_LENGTH - 1 := hname
    rw [h.isDomainBlocked_iff hq.name_ne_nil, hq.name_bytes, List.take_of_length_le hfits]
  rw [← hblocked, Bool.not_eq_true]
  refine ⟨fun hcase => DnsService.sends_of_not_blocked net client hq hcase,
    fun hcase hpercent hdata => DnsService.sends_of_blocked net client hq hcase hpercent hdata,
    fun hcase hbad => ?_⟩
  rw [DnsService.exists_round_iff net client hq hcase, not_and_or, not_le]
  exact hbad

/-- `ads.com` is blocked. -/
def blockAds : DomainCall := ⟨.insert, .ok, some (.lit "ads.com")⟩

theorem blockAds_run : ∃ s, (DnsService.start none [] fun _ => 0).Run [.call blockAds true] s := by
  have hresult : (blockAds.exec (.unused none [])).1 = true := by decide +kernel
  have hcall := DnsService.Step.call (s := DnsService.start none [] fun _ => 0) blockAds
  rw [DnsService.start, hresult] at hcall
  exact ⟨_, .concat .nil hcall⟩

theorem blockedBy_blockAds : BlockedBy (calls [.call blockAds true]) (dotted adsName) :=
  ⟨.lit "ads.com", by decide, by decide⟩

/-- Then a query for it is answered. -/
theorem answered_from_history_ads :
    ∃ s s', (DnsService.start none [] fun _ => 0).Run [.call blockAds true] s ∧
      s.Step (.round .ok (addressQuery adsName) ⟨0xC0A80402, 1234⟩
        [⟨⟨0xC0A80402, 1234⟩, createBlockedResponse (addressQuery adsName)⟩]) s' := by
  obtain ⟨s, hrun⟩ := blockAds_run
  obtain ⟨⟨s', hround⟩, -⟩ := (answered_from_history hrun .ok ⟨0xC0A80402, 1234⟩ nameQuery_adsName
    (by decide)).2.1 blockedBy_blockAds (by decide) (by decide)
  exact ⟨s, s', hrun, hround⟩

/-- **All that the server sends.**  Whatever datagrams arrive in a run, and whatever is called in
between: a round sends nothing, or what arrived was a query with a name in it, and the round sends
the blocked answer to the client, if the calls before it block the name, and otherwise relays the
query.  Of the name, 127 bytes count. -/
theorem sent_from_history {before after : List ServiceEvent} {net : NetOutcome} {data : Bytes}
    {client : SockAddr} {sent : List Sent}
    (h : (DnsService.start nvs logs rx).Run (before ++ .round net data client sent :: after) s) :
    let query := data.take DNS_MAX_PACKET_SIZE
    sent = [] ∨ IsQueryMessage query ∧ ∃ old o domain,
      ParsesName (Mem.write old query) DNS_HEADER_SIZE DNS_DOMAIN_SIZE (some (o, domain)) ∧
      ((BlockedBy (calls before) (domain.bytes.take (MAX_DOMAIN_LENGTH - 1)) ∧
          query.length ≤ 496 ∧ sent = [⟨client, createBlockedResponse query⟩]) ∨
        (¬ BlockedBy (calls before) (domain.bytes.take (MAX_DOMAIN_LENGTH - 1)) ∧
          sent = relayed net query client)) := by
  intro query
  rw [List.append_cons] at h
  obtain ⟨s'', hround⟩ := h.of_append
  obtain ⟨s', hbefore, hstep⟩ := hround.of_concat
  rcases hstep with _ | hiteration
  rcases dnsIteration_answers hiteration with hnothing | ⟨hquery, o, domain, hparse, hne, hanswer⟩
  · exact .inl hnothing
  · have hblocked := hbefore.isDomainBlocked_iff hne
    cases hcase : isDomainBlocked s'.filter.table (some domain) with
    | true =>
      obtain ⟨-, hfits, hsent⟩ := answerQuery_blocked (hparse.strlen_lt (by decide)) hcase _ hanswer
      split at hsent
      · exact .inr ⟨hquery, _, o, domain, hparse, .inl ⟨hblocked.1 hcase, hfits, hsent⟩⟩
      · exact .inl hsent
    | false =>
      have hno := mt hblocked.2 (by rw [hcase]; exact Bool.false_ne_true)
      have hsent := (answerQuery_relayed net query client hcase).symm.trans hanswer
      exact .inr ⟨hquery, _, o, domain, hparse, .inr ⟨hno, (congrArg IterOutcome.sent
        (Option.some.inj hsent)).symm⟩⟩

/-- The answer to a query for `ads.com` was sent because the name in the query was blocked. -/
theorem sent_from_history_ads : ∃ s old o domain,
    (DnsService.start none [] fun _ => 0).Run ([.call blockAds true] ++
      .round .ok (addressQuery adsName) ⟨0xC0A80402, 1234⟩
        [⟨⟨0xC0A80402, 1234⟩, createBlockedResponse (addressQuery adsName)⟩] :: []) s ∧
    ParsesName (Mem.write old (addressQuery adsName)) DNS_HEADER_SIZE DNS_DOMAIN_SIZE
      (some (o, domain)) ∧
    BlockedBy (calls [.call blockAds true]) (domain.bytes.take (MAX_DOMAIN_LENGTH - 1)) := by
  obtain ⟨s, hrun⟩ := blockAds_run
  have hblocked : isDomainBlocked s.filter.table (some nameQuery_adsName.name) = true := by
    rw [hrun.isDomainBlocked_iff nameQuery_adsName.name_ne_nil, nameQuery_adsName.name_bytes]
    exact blockedBy_blockAds
  obtain ⟨s', hround⟩ := (s.sends_of_blocked .ok ⟨0xC0A80402, 1234⟩ nameQuery_adsName hblocked
    (by decide) (by decide)).1
  have hrun' := hrun.concat hround
  rcases sent_from_history hrun' with hnothing | ⟨-, old, o, domain, hparse, hsent⟩
  · exact absurd hnothing (List.cons_ne_nil _ _)
  · rcases hsent with ⟨hcovered, -⟩ | ⟨-, hrelayed⟩
    · exact ⟨s', old, o, domain, hrun', hparse, hcovered⟩
    · exact absurd (congrArg Sent.dest (List.cons.inj hrelayed).1) (by decide)

end

end EspFirewall
