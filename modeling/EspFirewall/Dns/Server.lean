import EspFirewall.Dns.Name
import EspFirewall.DomainFilter.Match

/-!
# The DNS server (`dns_server.c`)

`dns_server_task` receives a datagram, looks at the name of the first question if it is a query,
and either answers it, when the name is blocked, or forwards it to the upstream server and passes
the reply on.  `DnsIteration` is one round of its loop.

What the network does is an argument: a `NetOutcome` says which of the socket calls of the round
succeed and what comes back.  What the round does is an `IterOutcome`: the datagrams it sends and
the log calls it makes.  Two things leave a round without an outcome: it writes beyond the end of
`tx_buffer`, or its log call, which has the name in its format, is undefined.  What it logs is there
in any case: that is `DnsIterationLogs`.
-/

set_option autoImplicit false

namespace EspFirewall

open CLang

/-- `DNS_MAX_PACKET_SIZE`. -/
abbrev DNS_MAX_PACKET_SIZE : ℕ := 512

/-- `sizeof(dns_header_t)`. -/
abbrev DNS_HEADER_SIZE : ℕ := 12

/-- `sizeof(domain)` in `dns_server_task`. -/
abbrev DNS_DOMAIN_SIZE : ℕ := 256

/-! ## The network -/

/-- An address and a port. -/
structure SockAddr where
  ip : UInt32
  port : UInt16
deriving DecidableEq

/-- `UPSTREAM_DNS` and `UPSTREAM_DNS_PORT`. -/
def upstreamDns : SockAddr := ⟨0x08080808, 53⟩

/-- A datagram that was sent. -/
structure Sent where
  dest : SockAddr
  data : Bytes
deriving DecidableEq

/-- What the socket calls of one round do. -/
structure NetOutcome where
  /-- The upstream socket can be created. -/
  upstreamSocket : Bool
  /-- The query can be sent to the upstream server. -/
  upstreamSend : Bool
  /-- What is received on the upstream socket before the timeout. -/
  reply : Option Bytes
  /-- The answer can be sent to the client. -/
  clientSend : Bool

/-- Everything is sent, and nothing comes back. -/
def NetOutcome.ok : NetOutcome := ⟨true, true, none, true⟩

/-- What one round does. -/
structure IterOutcome where
  sent : List Sent
  logs : List LogCall
deriving DecidableEq

/-- A round that does nothing. -/
def IterOutcome.nothing : IterOutcome := ⟨[], []⟩

/-! ## Answering -/

/-- What `create_blocked_response` appends: a pointer to the question, type A, class IN, 60
seconds, and the address 0.0.0.0. -/
def blockedAnswer : Bytes :=
  [0xC0, 0x0C, 0x00, 0x01, 0x00, 0x01, 0x00, 0x00, 0x00, 0x3C, 0x00, 0x04, 0x00, 0x00, 0x00, 0x00]

/-- `create_blocked_response`: the query with the flags and the counts of a response, and the
answer behind it. -/
def createBlockedResponse (query : Bytes) : Bytes :=
  let flags := (query.set 2 0x81).set 3 0x80
  let ancount := (flags.set 6 0x00).set 7 0x01
  let nscount := (ancount.set 8 0x00).set 9 0x00
  let arcount := (nscount.set 10 0x00).set 11 0x00
  arcount ++ blockedAnswer

@[simp] theorem createBlockedResponse_length (query : Bytes) :
    (createBlockedResponse query).length = query.length + 16 := by
  simp [createBlockedResponse, blockedAnswer]

/-- `forward_dns_query`: what is sent upstream, and the response, if it is not `-1`. -/
def forwardDnsQuery (net : NetOutcome) (query : Bytes) : List Sent × Option Bytes :=
  if net.upstreamSocket then
    if net.upstreamSend then
      ([⟨upstreamDns, query⟩], net.reply.map (·.take DNS_MAX_PACKET_SIZE))
    else ([], none)
  else ([], none)

/-- `log_msg`: `snprintf(log_msg, 300, "BLOCKED: %s", domain)`. -/
def blockedMessage (domain : CString) : Option (CharBuf 300) :=
  vsnprintf (.lit "BLOCKED: %s") [.str domain]

/-- The message is always defined: the name, with a prefix. -/
theorem blockedMessage_eq (domain : CString) : blockedMessage domain =
    some (.strncpy (.ofMem (ascii "BLOCKED: " ++ domain.bytes))) := by
  have hfmt : (CString.lit "BLOCKED: %s").bytes = ascii "BLOCKED: " ++ [37, 115] := by decide
  rw [blockedMessage, vsnprintf, hfmt, format_append_str (by decide), Option.map_some]

/-- The log calls of a round in which a name has been parsed: `add_log_line(log_msg)`, if the name
is blocked. -/
def queryLogs (t : DomainTable) (domain : CString) : List LogCall :=
  if isDomainBlocked t (some domain) then
    match blockedMessage domain with
    | some message => [.text message.str]
    | none => []
  else []

/-- What a round does with a query whose name has been parsed. -/
def answerQuery (t : DomainTable) (net : NetOutcome) (query : Bytes) (client : SockAddr)
    (domain : CString) : Option IterOutcome :=
  if isDomainBlocked t (some domain) then
    match blockedMessage domain with
    | some message =>
      -- the message is the format
      if (LogCall.text message.str).defined then
        let response := createBlockedResponse query
        if response.length ≤ DNS_MAX_PACKET_SIZE then
          some ⟨if net.clientSend then [⟨client, response⟩] else [], [.text message.str]⟩
        else none
      else none
    | none => none
  else
    match forwardDnsQuery net query with
    | (sent, some response) =>
      if 0 < response.length ∧ net.clientSend then some ⟨sent ++ [⟨client, response⟩], []⟩
      else some ⟨sent, []⟩
    | (sent, none) => some ⟨sent, []⟩

/-! ## One round -/

/-- The test for a query: the response flag is clear, and there is a question. -/
def isQuery (buf : Mem) : Bool :=
  (ntohs (buf.load16 2) &&& 0x8000 == 0) && decide (0 < ntohs (buf.load16 4))

/-- **One round of `dns_server_task`**, when the datagram `data` is received into a buffer that held
`old`: it comes to `answer` of the name in it if it is a query with one, and to `skip` otherwise. -/
def DnsRound {β : Type} (old : Mem) (data : Bytes) (skip : β) (answer : CString → β) (r : β) :
    Prop :=
  let query := data.take DNS_MAX_PACKET_SIZE
  let rx := old.write query
  if query.length < DNS_HEADER_SIZE then r = skip
  else if isQuery rx then
    ∃ name, ParsesName rx DNS_HEADER_SIZE DNS_DOMAIN_SIZE name ∧ r =
      match name with
      | some (_, domain) => if 0 < domain.strlen then answer domain else skip
      | none => skip
  else r = skip

/-- A round with a datagram from `client` has the outcome `out`. -/
def DnsIteration (t : DomainTable) (net : NetOutcome) (old : Mem) (data : Bytes)
    (client : SockAddr) (out : Option IterOutcome) : Prop :=
  DnsRound old data (some .nothing)
    (answerQuery t net (data.take DNS_MAX_PACKET_SIZE) client) out

/-- A round makes the log calls `logs`. -/
def DnsIterationLogs (t : DomainTable) (old : Mem) (data : Bytes) (logs : List LogCall) : Prop :=
  DnsRound old data [] (queryLogs t) logs

/-- A round does nothing, or it has parsed a name and answers. -/
theorem DnsRound.cases {β : Type} {old : Mem} {data : Bytes} {skip : β} {answer : CString → β}
    {r : β} (h : DnsRound old data skip answer r) :
    r = skip ∨ ∃ o domain,
      DNS_HEADER_SIZE ≤ (data.take DNS_MAX_PACKET_SIZE).length ∧
      isQuery (old.write (data.take DNS_MAX_PACKET_SIZE)) = true ∧
      ParsesName (old.write (data.take DNS_MAX_PACKET_SIZE)) DNS_HEADER_SIZE DNS_DOMAIN_SIZE
        (some (o, domain)) ∧
      domain.bytes ≠ [] ∧ r = answer domain := by
  unfold DnsRound at h
  dsimp only at h
  split at h
  · exact .inl h
  next hlen =>
  split at h
  · next hquery =>
    obtain ⟨_ | ⟨o, domain⟩, hname, hr⟩ := h
    · exact .inl hr
    · dsimp only at hr
      split at hr
      · next hpos =>
        exact .inr ⟨o, domain, not_lt.1 hlen, hquery, hname, List.length_pos_iff.1 hpos, hr⟩
      · exact .inl hr
  · exact .inl h

/-- Rounds that get the same datagram take the same way. -/
theorem DnsRound.imp {β γ : Type} {old : Mem} {data : Bytes} {skip : β} {answer : CString → β}
    {r : β} {skip' : γ} {answer' : CString → γ} {r' : γ} (h : DnsRound old data skip answer r)
    (hskip : r = skip → r' = skip') (hanswer : ∀ domain, r = answer domain → r' = answer' domain) :
    DnsRound old data skip' answer' r' := by
  unfold DnsRound at h ⊢
  dsimp only at h ⊢
  split at h
  · next hlen =>
    rw [if_pos hlen]
    exact hskip h
  next hlen =>
  rw [if_neg hlen]
  split at h
  · next hquery =>
    rw [if_pos hquery]
    obtain ⟨name, hname, hr⟩ := h
    refine ⟨name, hname, ?_⟩
    rcases name with _ | ⟨o, domain⟩
    · exact hskip hr
    · dsimp only at hr ⊢
      split at hr
      · next hpos =>
        rw [if_pos hpos]
        exact hanswer domain hr
      · next hpos =>
        rw [if_neg hpos]
        exact hskip hr
  · next hquery =>
    rw [if_neg hquery]
    exact hskip h

/-! ## Queries -/

/-- A query for the name that `labels` spell: a datagram of at most 512 bytes with a header whose
response flag is clear and whose question count is not zero, the name, without pointers, and
anything behind it. -/
structure NameQuery (data : Bytes) (labels : List Bytes) : Prop where
  length_le : data.length ≤ DNS_MAX_PACKET_SIZE
  split : ∃ header rest, data = header ++ wireName labels ++ rest ∧
    header.length = DNS_HEADER_SIZE ∧
    bigEndian16 (header.getD 2 0) (header.getD 3 0) &&& 0x8000 = 0 ∧
    0 < bigEndian16 (header.getD 4 0) (header.getD 5 0)
  labels_ne_nil : labels ≠ []
  labels_valid : ∀ l ∈ labels, ValidLabel l
  wire_le : (wireName labels).length ≤ 255

/-- The name a query is for. -/
def NameQuery.name {data : Bytes} {labels : List Bytes} (h : NameQuery data labels) : CString :=
  nameOf labels h.labels_valid

theorem NameQuery.name_bytes {data : Bytes} {labels : List Bytes} (h : NameQuery data labels) :
    h.name.bytes = dotted labels := rfl

theorem NameQuery.name_ne_nil {data : Bytes} {labels : List Bytes} (h : NameQuery data labels) :
    h.name.bytes ≠ [] :=
  dotted_ne_nil h.labels_ne_nil fun l hl => List.length_pos_iff.1 (h.labels_valid l hl).pos

/-- A query for an address, with nothing behind the question. -/
def addressQuery (labels : List Bytes) : Bytes :=
  [0x12, 0x34, 0x01, 0x00, 0x00, 0x01, 0x00, 0x00, 0x00, 0x00, 0x00, 0x00] ++ wireName labels ++
    [0x00, 0x01, 0x00, 0x01]

theorem nameQuery_addressQuery {labels : List Bytes} (hne : labels ≠ [])
    (hvalid : ∀ l ∈ labels, ValidLabel l) (hlen : (wireName labels).length ≤ 255) :
    NameQuery (addressQuery labels) labels := by
  refine ⟨?_, ⟨_, _, rfl, rfl, by decide, by decide⟩, hne, hvalid, hlen⟩
  rw [addressQuery, List.length_append, List.length_append]
  exact Nat.le_trans (Nat.add_le_add_right (Nat.add_le_add_left hlen 12) 4) (by decide)

/-- Memory at an offset inside what was written. -/
theorem write_eq_getD {old : Mem} {header tail : Bytes} {i : ℕ} (hi : i < header.length) :
    old.write (header ++ tail) i = header.getD i 0 := by
  rw [Mem.write, List.getD_append _ _ _ _ hi, List.getD_eq_getElem _ _ hi,
    List.getD_eq_getElem _ _ hi]

theorem NameQuery.header_le {data : Bytes} {labels : List Bytes} (hq : NameQuery data labels) :
    DNS_HEADER_SIZE ≤ data.length := by
  obtain ⟨header, rest, hdata, hheader, -⟩ := hq.split
  rw [hdata, List.length_append, List.length_append, hheader, Nat.add_assoc]
  exact Nat.le_add_right ..

theorem NameQuery.isQuery {data : Bytes} {labels : List Bytes} (hq : NameQuery data labels)
    (old : Mem) : isQuery (old.write data) = true := by
  obtain ⟨header, rest, hdata, hheader, hqr, hqd⟩ := hq.split
  have h12 : header.length = 12 := hheader
  rw [EspFirewall.isQuery, ntohs_load16, ntohs_load16, hdata, List.append_assoc,
    write_eq_getD (by omega), write_eq_getD (by omega), write_eq_getD (by omega),
    write_eq_getD (by omega), hqr]
  simpa using hqd

theorem NameQuery.parsesName {data : Bytes} {labels : List Bytes} (hq : NameQuery data labels)
    (old : Mem) : ParsesName (old.write data) DNS_HEADER_SIZE DNS_DOMAIN_SIZE
      (some (DNS_HEADER_SIZE + (wireName labels).length, hq.name)) := by
  obtain ⟨header, rest, hdata, hheader, -⟩ := hq.split
  refine parsesName_wireName hq.labels_valid ?_ (Nat.le_succ_of_le hq.wire_le)
  rw [hdata, ← hheader]
  exact Mem.write_holdsAt ..

theorem NameQuery.strlen_pos {data : Bytes} {labels : List Bytes} (hq : NameQuery data labels) :
    0 < hq.name.strlen := List.length_pos_iff.2 hq.name_ne_nil

theorem NameQuery.strlen_lt {data : Bytes} {labels : List Bytes} (hq : NameQuery data labels) :
    hq.name.strlen < DNS_DOMAIN_SIZE := (hq.parsesName fun _ => 0).strlen_lt (by decide)

/-- **What a round does with a query**: it parses the name and answers. -/
theorem dnsRound_query {β : Type} {old : Mem} {data : Bytes} {labels : List Bytes} {skip : β}
    {answer : CString → β} {r : β} (hq : NameQuery data labels) :
    DnsRound old data skip answer r ↔ r = answer hq.name := by
  rw [DnsRound, List.take_of_length_le hq.length_le, if_neg (Nat.not_lt.2 hq.header_le),
    if_pos (hq.isQuery old)]
  constructor
  · rintro ⟨name, hname, rfl⟩
    rw [Loop.Halts.unique hname (hq.parsesName old)]
    exact if_pos hq.strlen_pos
  · rintro rfl
    exact ⟨_, hq.parsesName old, (if_pos hq.strlen_pos).symm⟩

theorem dnsIteration_query {t : DomainTable} {net : NetOutcome} {old : Mem} {data : Bytes}
    {labels : List Bytes} {client : SockAddr} {out : Option IterOutcome}
    (hq : NameQuery data labels) :
    DnsIteration t net old data client out ↔
      out = answerQuery t net data client hq.name := by
  rw [DnsIteration, dnsRound_query hq, List.take_of_length_le hq.length_le]

end EspFirewall
