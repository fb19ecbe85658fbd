import EspFirewall.Dns.Server

/-!
# Whether the DNS server filters what the domain filter covers

A query for a covered name should be answered with a blocked answer and go no further, and a query
for any other name should be forwarded.  `FiltersQuery` says so for one round of the server.

Three things stand between the code and that.  The matcher works on the first 127 bytes of the name,
and a name can have 253: what covers the name need not cover what is left of it, or the other way
round.  The blocked answer is 16 bytes longer than the query, in a buffer of the same size.  And
before it is built, the name is logged as a part of a format: if a `%` of it asks for an argument,
the round is undefined from there on.  `filtersQuery_iff` says that these are all, apart from sockets
that fail.
-/

set_option autoImplicit false

namespace EspFirewall

open CLang

/-- Some active domain of the table covers the name. -/
def DomainTable.Covers (t : DomainTable) (name : Bytes) : Prop :=
  ∃ d ∈ t.activeDomains, CoversName d.bytes name

/-- A round of the server forwards the query exactly when its name is not covered, and otherwise
sends the blocked answer to the client and nothing else. -/
def FiltersQuery (t : DomainTable) (net : NetOutcome) (old : Mem) (data : Bytes)
    (client : SockAddr) (name : Bytes) : Prop :=
  ∃ out, DnsIteration t net old data client (some out) ∧
    (⟨upstreamDns, data⟩ ∈ out.sent ↔ ¬ t.Covers name) ∧
    (t.Covers name → out.sent = [⟨client, createBlockedResponse data⟩])

/-- An answer to a query filters it by a name: the query is forwarded exactly if the name is not
covered, and answered if it is. -/
def AnswerFilters (t : DomainTable) (net : NetOutcome) (query : Bytes) (client : SockAddr)
    (domain : CString) (name : Bytes) : Prop :=
  ∃ out, answerQuery t net query client domain = some out ∧
    (⟨upstreamDns, query⟩ ∈ out.sent ↔ ¬ t.Covers name) ∧
    (t.Covers name → out.sent = [⟨client, createBlockedResponse query⟩])

/-- What filtering a query by name comes down to. -/
theorem filtersQuery_iff_answer (t : DomainTable) (net : NetOutcome) (old : Mem)
    (client : SockAddr) (name : Bytes) {data : Bytes} {labels : List Bytes}
    (hq : NameQuery data labels) :
    FiltersQuery t net old data client name ↔ AnswerFilters t net data client hq.name name := by
  simp only [FiltersQuery, AnswerFilters, dnsIteration_query hq, eq_comm]

/-- The blocked answer is never the query itself. -/
theorem createBlockedResponse_ne (a b : SockAddr) (query : Bytes) :
    (⟨a, query⟩ : Sent) ≠ ⟨b, createBlockedResponse query⟩ := by
  intro h
  have hlen : query.length = (createBlockedResponse query).length :=
    congrArg (fun s : Sent => s.data.length) h
  rw [createBlockedResponse_length] at hlen
  omega

/-- The message for a name that the parser can return. -/
theorem blockedMessage_str {domain : CString} (h : domain.strlen < DNS_DOMAIN_SIZE)
    {m : CharBuf 300} (hm : blockedMessage domain = some m) :
    m.str = (CString.lit "BLOCKED: ").append domain := by
  have hprefix : (CString.lit "BLOCKED: ").bytes = ascii "BLOCKED: " := by decide
  have htext : CString.ofMem (ascii "BLOCKED: " ++ domain.bytes) =
      (CString.lit "BLOCKED: ").append domain := by
    rw [← hprefix]
    exact CString.ofMem_of_nulFree ((CString.lit "BLOCKED: ").append domain).nulFree
  have hlen : ((CString.lit "BLOCKED: ").append domain).strlen < 300 := by
    have hnine : (CString.lit "BLOCKED: ").bytes.length = 9 := by decide
    rw [CString.strlen, CString.append_bytes, List.length_append, hnine]
    exact Nat.lt_of_lt_of_le (Nat.add_lt_add_left h 9) (by decide)
  rw [blockedMessage_eq, Option.some.injEq, htext] at hm
  rw [← hm]
  exact CharBuf.strncpy_str_of_lt hlen

/-- The log call for a blocked name is defined if the name asks for no argument. -/
theorem blockedMessage_defined {domain : CString} (hlen : domain.strlen < DNS_DOMAIN_SIZE)
    {message : CharBuf 300} (h : blockedMessage domain = some message) :
    (LogCall.text message.str).defined = true ↔ PercentsPaired domain.bytes := by
  rw [LogCall.defined_text, blockedMessage_str hlen h, CString.append_bytes]
  exact percentsPaired_append_iff (by decide) domain.bytes

/-- What the server does with a query for a name it takes to be blocked. -/
theorem answerQuery_blocked {t : DomainTable} {net : NetOutcome} {query : Bytes}
    {client : SockAddr} {domain : CString} (hlen : domain.strlen < DNS_DOMAIN_SIZE)
    (h : isDomainBlocked t (some domain) = true) (out : IterOutcome)
    (hout : answerQuery t net query client domain = some out) :
    PercentsPaired domain.bytes ∧ query.length ≤ 496 ∧
      out.sent = if net.clientSend then [⟨client, createBlockedResponse query⟩] else [] := by
  have hmessage := blockedMessage_eq domain
  rw [answerQuery, if_pos h, hmessage] at hout
  dsimp only at hout
  split at hout
  · next hdefined =>
    split at hout
    · next hfits =>
      rw [createBlockedResponse_length] at hfits
      cases hout
      exact ⟨(blockedMessage_defined hlen hmessage).1 hdefined, Nat.le_of_add_le_add_right hfits, rfl⟩
    · cases hout
  · cases hout

theorem answerQuery_blocked_isSome {t : DomainTable} {net : NetOutcome} {query : Bytes}
    {client : SockAddr} {domain : CString} (hlen : domain.strlen < DNS_DOMAIN_SIZE)
    (h : isDomainBlocked t (some domain) = true) (hpercent : PercentsPaired domain.bytes)
    (hfits : query.length ≤ 496) : ∃ out, answerQuery t net query client domain = some out := by
  have hresponse : (createBlockedResponse query).length ≤ DNS_MAX_PACKET_SIZE := by
    rw [createBlockedResponse_length]
    exact Nat.add_le_add_right hfits 16
  have hmessage := blockedMessage_eq domain
  have hdefined := (blockedMessage_defined hlen hmessage).2 hpercent
  rw [answerQuery, if_pos h, hmessage]
  dsimp only
  rw [if_pos hdefined, if_pos hresponse]
  exact ⟨_, rfl⟩

/-- What it does with any other: forward it, if the sockets work, and then perhaps answer. -/
theorem answerQuery_forwarded {t : DomainTable} (net : NetOutcome) (query : Bytes)
    (client : SockAddr) {domain : CString} (h : isDomainBlocked t (some domain) = false) :
    ∃ out, answerQuery t net query client domain = some out ∧
      ((net.upstreamSocket = true ∧ net.upstreamSend = true ∧
        ∃ replies, out.sent = ⟨upstreamDns, query⟩ :: replies) ∨
      (¬ (net.upstreamSocket = true ∧ net.upstreamSend = true) ∧ out.sent = [])) := by
  rw [answerQuery, if_neg (by rw [h]; exact Bool.false_ne_true)]
  obtain ⟨socket, send, reply, clientSend⟩ := net
  rcases socket with _ | _
  · exact ⟨.nothing, rfl, .inr ⟨fun h => Bool.false_ne_true h.1, rfl⟩⟩
  rcases send with _ | _
  · exact ⟨.nothing, rfl, .inr ⟨fun h => Bool.false_ne_true h.2, rfl⟩⟩
  rcases reply with _ | reply
  · exact ⟨⟨[⟨upstreamDns, query⟩], []⟩, rfl, .inl ⟨rfl, rfl, [], rfl⟩⟩
  have hforward : forwardDnsQuery ⟨true, true, some reply, clientSend⟩ query =
    ([⟨upstreamDns, query⟩], some (reply.take DNS_MAX_PACKET_SIZE)) := rfl
  rw [hforward]
  by_cases hreply : 0 < (reply.take DNS_MAX_PACKET_SIZE).length ∧ clientSend = true
  · exact ⟨⟨[⟨upstreamDns, query⟩] ++ [⟨client, reply.take DNS_MAX_PACKET_SIZE⟩], []⟩,
      if_pos hreply, .inl ⟨rfl, rfl, [⟨client, reply.take DNS_MAX_PACKET_SIZE⟩], rfl⟩⟩
  · exact ⟨⟨[⟨upstreamDns, query⟩], []⟩, if_neg hreply, .inl ⟨rfl, rfl, [], rfl⟩⟩

/-- The filter takes a name to be blocked when what is left of it is covered. -/
theorem isDomainBlocked_name {t : DomainTable} {data : Bytes} {labels : List Bytes}
    (hq : NameQuery data labels) : isDomainBlocked t (some hq.name) = true ↔
      t.Covers ((dotted labels).take (MAX_DOMAIN_LENGTH - 1)) := by
  rw [isDomainBlocked_iff, hq.name_bytes, DomainTable.Covers]
  exact and_iff_right hq.name_ne_nil

section

variable {t : DomainTable} {net : NetOutcome} {query : Bytes} {client : SockAddr}
  {domain : CString} {name : Bytes}

/-- A query that is forwarded is rightly forwarded if its name is not covered. -/
theorem answerFilters_iff_of_forwarded (h : isDomainBlocked t (some domain) = false) :
    AnswerFilters t net query client domain name ↔
      ¬ t.Covers name ∧ net.upstreamSocket = true ∧ net.upstreamSend = true := by
  obtain ⟨out, hout, hsent⟩ := answerQuery_forwarded net query client h
  simp only [AnswerFilters, hout, Option.some.injEq, exists_eq_left']
  by_cases hcovers : t.Covers name
  · refine iff_of_false (fun h => ?_) (fun h => h.1 hcovers)
    have hanswer := h.2 hcovers
    rcases hsent with ⟨-, -, replies, hsent⟩ | ⟨-, hsent⟩
    · rw [hsent] at hanswer
      exact createBlockedResponse_ne _ _ _ (List.cons.inj hanswer).1
    · exact absurd (hsent.symm.trans hanswer) (List.cons_ne_nil _ _).symm
  · simp only [hcovers, not_false_eq_true, iff_true, false_imp_iff, and_true, true_and]
    rcases hsent with ⟨hsocket, hsend, replies, hsent⟩ | ⟨hfail, hsent⟩
    · rw [hsent]
      exact iff_of_true List.mem_cons_self ⟨hsocket, hsend⟩
    · rw [hsent]
      exact iff_of_false List.not_mem_nil hfail

/-- A query that is answered is rightly answered if its name is covered. -/
theorem answerFilters_iff_of_blocked (hlen : domain.strlen < DNS_DOMAIN_SIZE)
    (h : isDomainBlocked t (some domain) = true) :
    AnswerFilters t net query client domain name ↔
      t.Covers name ∧ PercentsPaired domain.bytes ∧ query.length ≤ 496 ∧
        net.clientSend = true := by
  constructor
  · rintro ⟨out, hout, hup, hanswer⟩
    obtain ⟨hpercent, hfits, hsent⟩ := answerQuery_blocked hlen h out hout
    have hcovers : t.Covers name := by
      by_contra hno
      have hmem := hup.2 hno
      rw [hsent] at hmem
      split at hmem
      · exact createBlockedResponse_ne _ _ _ (List.mem_singleton.1 hmem)
      · exact List.not_mem_nil hmem
    refine ⟨hcovers, hpercent, hfits, ?_⟩
    have hone := hsent.symm.trans (hanswer hcovers)
    by_contra hfail
    rw [if_neg hfail] at hone
    exact List.cons_ne_nil _ _ hone.symm
  · rintro ⟨hcovers, hpercent, hfits, hclient⟩
    obtain ⟨out, hout⟩ := answerQuery_blocked_isSome hlen h hpercent hfits
    have hsent := (answerQuery_blocked hlen h out hout).2.2
    rw [if_pos hclient] at hsent
    refine ⟨out, hout, iff_of_false ?_ (not_not_intro hcovers), fun _ => hsent⟩
    rw [hsent, List.mem_singleton]
    exact createBlockedResponse_ne _ _ _

end

/-- **When the DNS server filters a query.**  For a query by name, whatever the table holds, the
server forwards the query exactly when its name is not covered and answers it otherwise, precisely
when four things hold: the first 127 bytes of the name are covered just when the name is; every `%`
of a covered name is one of a pair; a query for a covered name leaves room for the answer; and the
sockets work. -/
theorem filtersQuery_iff (t : DomainTable) (net : NetOutcome) (old : Mem) (client : SockAddr)
    {data : Bytes} {labels : List Bytes} (hq : NameQuery data labels) :
    FiltersQuery t net old data client (dotted labels) ↔
      (t.Covers (dotted labels) ↔ t.Covers ((dotted labels).take (MAX_DOMAIN_LENGTH - 1))) ∧
      (t.Covers (dotted labels) →
        PercentsPaired (dotted labels) ∧ data.length ≤ 496 ∧ net.clientSend = true) ∧
      (¬ t.Covers (dotted labels) → net.upstreamSocket = true ∧ net.upstreamSend = true) := by
  rw [filtersQuery_iff_answer t net old client _ hq, ← isDomainBlocked_name hq]
  cases hblocked : isDomainBlocked t (some hq.name) with
  | false =>
    rw [answerFilters_iff_of_forwarded hblocked]
    simp only [Bool.false_eq_true, iff_false]
    exact ⟨fun ⟨hno, hok⟩ => ⟨hno, fun h => absurd h hno, fun _ => hok⟩,
      fun ⟨hno, _, hok⟩ => ⟨hno, hok hno⟩⟩
  | true =>
    rw [answerFilters_iff_of_blocked hq.strlen_lt hblocked, hq.name_bytes]
    simp only [iff_true]
    exact ⟨fun ⟨hcovers, hok⟩ => ⟨hcovers, fun _ => hok, fun h => absurd hcovers h⟩,
      fun ⟨hcovers, hok, _⟩ => ⟨hcovers, hok hcovers⟩⟩

/-! ### A table with one domain -/

/-- The table with the domain `ads.com`. -/
def adsTable : DomainTable := DomainTable.zero.append (by decide) ⟨.strncpy (.lit "ads.com"), true⟩

theorem adsTable_covers {name : Bytes} (h : CoversName (ascii "ads.com") name) :
    adsTable.Covers name :=
  ⟨.lit "ads.com", ⟨0, by decide, by decide +kernel, by decide +kernel⟩, h⟩

/-- A query for `ads.com` itself is filtered. -/
theorem filtersQuery_short : FiltersQuery adsTable .ok (fun _ => 0)
    (addressQuery [ascii "ads", ascii "com"]) ⟨0xC0A80402, 1234⟩
    (dotted [ascii "ads", ascii "com"]) :=
  (filtersQuery_iff adsTable .ok (fun _ => 0) ⟨0xC0A80402, 1234⟩
    (nameQuery_addressQuery (by decide) (by decide) (by decide))).2
    ⟨Iff.rfl, fun _ => ⟨by decide, by decide, rfl⟩,
      fun h => absurd (adsTable_covers (by decide)) h⟩

/-- The labels of a name of 135 bytes below `ads.com`. -/
def longLabels : List Bytes :=
  [List.replicate 63 97, List.replicate 63 97, ascii "ads", ascii "com"]

theorem nameQuery_long : NameQuery (addressQuery longLabels) longLabels :=
  nameQuery_addressQuery (by decide) (by decide +kernel) (by decide +kernel)

/-- The filter does not take the name to be blocked. -/
theorem longName_not_blocked : isDomainBlocked adsTable (some nameQuery_long.name) = false := by
  decide +kernel

theorem longName_covered : adsTable.Covers (dotted longLabels) :=
  adsTable_covers (by decide +kernel)

/-- A query for that name is forwarded: of the name, 127 bytes are looked at, and `ads.com` is not
in them. -/
theorem longName_forwarded : ¬ ∀ (t : DomainTable) (old : Mem) (client : SockAddr) (data : Bytes)
    (labels : List Bytes), NameQuery data labels →
      FiltersQuery t .ok old data client (dotted labels) := by
  intro h
  obtain ⟨out, hout, -, hanswer⟩ := (filtersQuery_iff_answer _ _ _ _ _ nameQuery_long).1
    (h adsTable (fun _ => 0) ⟨0xC0A80402, 1234⟩ _ longLabels nameQuery_long)
  obtain ⟨out', hout', hsent⟩ := answerQuery_forwarded .ok (addressQuery longLabels)
    ⟨0xC0A80402, 1234⟩ longName_not_blocked
  rw [hout', Option.some.injEq] at hout
  subst hout
  rcases hsent with ⟨-, -, replies, hsent⟩ | ⟨hfail, -⟩
  · have heq := hsent.symm.trans (hanswer longName_covered)
    exact createBlockedResponse_ne _ _ _ (List.cons.inj heq).1
  · exact hfail ⟨rfl, rfl⟩

end EspFirewall
