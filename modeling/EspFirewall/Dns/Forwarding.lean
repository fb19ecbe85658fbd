import EspFirewall.Dns.BlockedResponse
import EspFirewall.General.StepSystem

/-!
# Forwarded replies (`forward_dns_query`)

A query that is not blocked goes to the upstream server from a socket made for it, and what arrives
there first within two seconds goes to the client.  `DnsTask.step` takes this apart: the query, the
arrival of a datagram on the upstream socket, from whatever host, and the `recvfrom` that takes the
first of them.  A round of `DnsIteration` is what a query and a `recvfrom` do together
(`dnsIteration_forwardRound`).

`forwarded_genuine` is about all runs.  The code looks at nothing of what it passes on, so whether
the clients are sent the answers to their own questions is up to the network: each time, the first
datagram to arrive has to be a reply of the upstream server, and to a query with the same id and
questions.
-/

set_option autoImplicit false

namespace EspFirewall

open CLang DnsMessage

/-! ## The task and the network -/

/-- Where a datagram comes from.  The router cannot see that. -/
inductive Origin
  /-- It is the upstream server's reply to a query. -/
  | reply (query : Bytes)
  /-- It is anything else, whatever address it carries. -/
  | other
deriving DecidableEq

/-- A datagram that reaches a socket of the router. -/
structure Arrival where
  /-- The address it carries. -/
  src : SockAddr
  data : Bytes
  origin : Origin
deriving DecidableEq

/-- A query that has been sent upstream, with what has reached the upstream socket since. -/
structure PendingQuery where
  client : SockAddr
  query : Bytes
  /-- The datagrams waiting on `upstream_sock`, in the order of their arrival. -/
  waiting : List Arrival
deriving DecidableEq

/-- A datagram that was passed on to a client. -/
structure Forwarded where
  client : SockAddr
  /-- What the client had asked. -/
  query : Bytes
  /-- Where the datagram came from. -/
  src : SockAddr
  data : Bytes
deriving DecidableEq

/-- The state of `dns_server_task`: `rx_buffer`, the query it waits for a reply to, if it does, and
what it has passed on so far. -/
structure DnsTask where
  rx : Mem
  pending : Option PendingQuery
  forwarded : List Forwarded

/-- What happens to the task. -/
inductive DnsInput
  /-- The datagram `data` from `client` is received on port 53; `waits` says whether the round comes
  to wait for a reply. -/
  | receive (t : DomainTable) (data : Bytes) (client : SockAddr) (waits : Bool)
  /-- A datagram arrives on the upstream socket, if there is one. -/
  | arrive (d : Arrival)
  /-- `recvfrom` returns on the upstream socket: with the first datagram waiting there, or, when there
  is none, because two seconds are over.  `clientSend` says whether the client can be sent to. -/
  | recvfrom (clientSend : Bool)

/-- The round that receives `data` forwards it: it is a query, and its name can be parsed and is not
blocked. -/
def ForwardsQuery (t : DomainTable) (old : Mem) (data : Bytes) : Prop :=
  let query := data.take DNS_MAX_PACKET_SIZE
  DNS_HEADER_SIZE ≤ query.length ∧ isQuery (old.write query) = true ∧ ∃ o domain,
    ParsesName (old.write query) DNS_HEADER_SIZE DNS_DOMAIN_SIZE (some (o, domain)) ∧
      0 < domain.strlen ∧ isDomainBlocked t (some domain) = false

namespace DnsTask

/-- What `dns_server_task` passes on of a reply to a query. -/
def passOn (p : PendingQuery) (clientSend : Bool) : List Forwarded :=
  match p.waiting with
  | [] => []
  | d :: _ =>
    let response := d.data.take DNS_MAX_PACKET_SIZE
    if 0 < response.length ∧ clientSend then [⟨p.client, p.query, d.src, response⟩] else []

/-- One input. -/
def step (s : DnsTask) : DnsInput → DnsTask
  | .receive _ data client waits =>
    match s.pending with
    | some _ => s
    | none =>
      let query := data.take DNS_MAX_PACKET_SIZE
      { s with
        rx := s.rx.write query
        pending := if waits then some ⟨client, query, []⟩ else none }
  | .arrive d => { s with pending := s.pending.map fun p => { p with waiting := p.waiting ++ [d] } }
  | .recvfrom clientSend =>
    match s.pending with
    | some p => { s with pending := none, forwarded := s.forwarded ++ passOn p clientSend }
    | none => s

/-- A round waits for a reply only to a query that it forwards.  A reply of the upstream server
carries its address, and the id and the questions of the query.  All else may arrive. -/
def Legal (s : DnsTask) : DnsInput → Prop
  | .receive t data _ waits => waits = true → ForwardsQuery t s.rx data
  | .arrive d => ∀ query, d.origin = .reply query →
    d.src = upstreamDns ∧ RepliesTo query (d.data.take DNS_MAX_PACKET_SIZE)
  | .recvfrom _ => True

/-- The task as it starts. -/
def start (rx : Mem) : DnsTask := ⟨rx, none, []⟩

end DnsTask

/-- **A round is a query and a `recvfrom`**: when the sockets work, it sends the query upstream and
passes on what `recvfrom` returns. -/
theorem dnsIteration_forwardRound {t : DomainTable} {old : Mem} {data : Bytes}
    (h : ForwardsQuery t old data) (client : SockAddr) (waiting : List Arrival)
    (clientSend : Bool) :
    let query := data.take DNS_MAX_PACKET_SIZE
    DnsIteration t ⟨true, true, waiting.head?.map Arrival.data, clientSend⟩ old data client
      (some ⟨⟨upstreamDns, query⟩ :: (DnsTask.passOn ⟨client, query, waiting⟩ clientSend).map
        fun f => ⟨f.client, f.data⟩, []⟩) := by
  obtain ⟨hlen, hquery, o, domain, hparse, hpos, hblocked⟩ := h
  dsimp only
  rw [DnsIteration, DnsRound, if_neg (Nat.not_lt.2 hlen), if_pos hquery]
  refine ⟨_, hparse, ?_⟩
  dsimp only
  rw [if_pos hpos, answerQuery, if_neg (by rw [hblocked]; exact Bool.false_ne_true)]
  rcases waiting with _ | ⟨d, rest⟩
  · rfl
  have hforward : forwardDnsQuery ⟨true, true, some d.data, clientSend⟩
      (data.take DNS_MAX_PACKET_SIZE) = ([⟨upstreamDns, data.take DNS_MAX_PACKET_SIZE⟩],
        some (d.data.take DNS_MAX_PACKET_SIZE)) := rfl
  rw [List.head?_cons, Option.map_some, hforward, DnsTask.passOn]
  dsimp only
  split
  · rfl
  · rfl

/-! ## Genuine replies -/

/-- The datagram comes from the upstream server and is a response with the id and the questions of
the query. -/
def Genuine (query : Bytes) (src : SockAddr) (data : Bytes) : Prop :=
  src = upstreamDns ∧ RepliesTo query data

/-- Every client was sent nothing but the answer to its own question. -/
def DnsTask.AnswersOwn (s : DnsTask) : Prop := ∀ f ∈ s.forwarded, Genuine f.query f.src f.data

/-- **What has to arrive first**: a datagram that finds nothing waiting for the reply to a query is a
reply of the upstream server, to that query or one with the same id and questions. -/
def RepliesFirst (s : DnsTask) : DnsInput → Prop
  | .arrive d => ∀ p, s.pending = some p → p.waiting = [] →
    ∃ query, d.origin = .reply query ∧ SameQuestions query p.query
  | _ => True

/-- A step passes on a datagram when the first one waiting is not empty and can be sent. -/
theorem mem_passOn {p : PendingQuery} {clientSend : Bool} {f : Forwarded} :
    f ∈ DnsTask.passOn p clientSend ↔ clientSend = true ∧ ∃ d rest, p.waiting = d :: rest ∧
      0 < d.data.length ∧ f = ⟨p.client, p.query, d.src, d.data.take DNS_MAX_PACKET_SIZE⟩ := by
  rw [DnsTask.passOn]
  rcases hwaiting : p.waiting with _ | ⟨d, rest⟩
  · simp
  · have hlen : 0 < (d.data.take DNS_MAX_PACKET_SIZE).length ↔ 0 < d.data.length := by
      rw [List.length_take, Nat.lt_min, and_iff_right (by decide)]
    dsimp only
    split
    · next h =>
      rw [hlen] at h
      simp [h]
    · next h =>
      rw [hlen] at h
      refine iff_of_false List.not_mem_nil ?_
      rintro ⟨hsend, d', rest', heq, hpos, -⟩
      rw [List.cons.injEq] at heq
      exact h ⟨heq.1 ▸ hpos, hsend⟩

/-- What holds as long as replies are the first to arrive. -/
structure DnsTask.Inv (s : DnsTask) : Prop where
  answersOwn : s.AnswersOwn
  /-- The datagram that `recvfrom` takes. -/
  first : ∀ p d rest, s.pending = some p → p.waiting = d :: rest →
    Genuine p.query d.src (d.data.take DNS_MAX_PACKET_SIZE)

theorem DnsTask.inv_start (rx : Mem) : (start rx).Inv :=
  ⟨fun _ hf => absurd hf List.not_mem_nil, fun _ _ _ h => absurd h.symm (Option.some_ne_none _)⟩

/-- **One step**: a datagram that arrives waits behind the others, and the first of them is the one
that is passed on. -/
theorem DnsTask.inv_step {s : DnsTask} {i : DnsInput} (hs : s.Inv) (hlegal : s.Legal i)
    (hfirst : RepliesFirst s i) : (s.step i).Inv := by
  cases i with
  | receive t data client waits =>
    rw [step]
    split
    · exact hs
    · refine ⟨hs.answersOwn, fun p d rest hp hwaiting => ?_⟩
      cases waits with
      | false => exact absurd hp.symm (Option.some_ne_none _)
      | true =>
        obtain rfl := Option.some.inj hp
        exact absurd hwaiting.symm (List.cons_ne_nil _ _)
  | arrive d =>
    refine ⟨hs.answersOwn, fun p' d' rest hp hwaiting => ?_⟩
    obtain ⟨p, hpending, rfl⟩ := Option.map_eq_some_iff.1 hp
    dsimp only at hwaiting ⊢
    cases hcase : p.waiting with
    | nil =>
      -- it is the first
      rw [hcase, List.nil_append] at hwaiting
      obtain rfl := (List.cons.inj hwaiting).1
      obtain ⟨query, horigin, hsame⟩ := hfirst p hpending hcase
      obtain ⟨hsrc, hreplies⟩ := hlegal query horigin
      exact ⟨hsrc, hreplies.iff_sameQuestions.2 hsame⟩
    | cons d₀ rest₀ =>
      rw [hcase, List.cons_append] at hwaiting
      obtain rfl := (List.cons.inj hwaiting).1
      exact hs.first p d₀ rest₀ hpending hcase
  | recvfrom clientSend =>
    rw [step]
    cases hpending : s.pending with
    | none => exact hs
    | some p =>
      refine ⟨fun f hf => ?_, fun _ _ _ h => absurd h.symm (Option.some_ne_none _)⟩
      rcases List.mem_append.1 hf with hf | hf
      · exact hs.answersOwn f hf
      · obtain ⟨-, d, rest, hwaiting, -, rfl⟩ := mem_passOn.1 hf
        exact hs.first p d rest hpending hwaiting

/-- A datagram that is not a reply to the query, and it shows: by its address or by its id. -/
def Forged (query : Bytes) (d : Arrival) : Prop :=
  d.src ≠ upstreamDns ∨ ∀ h h', headerOf query = some h →
    headerOf (d.data.take DNS_MAX_PACKET_SIZE) = some h' → h'.id ≠ h.id

theorem Forged.not_genuine {query : Bytes} {d : Arrival} (h : Forged query d) :
    ¬ Genuine query d.src (d.data.take DNS_MAX_PACKET_SIZE) := by
  rintro ⟨hsrc, ⟨hd, hd', hhd, hhd', -, hid⟩, -⟩
  rcases h with hother | hids
  · exact hother hsrc
  · exact hids hd hd' hhd hhd' hid

/-- Something else that is the first to arrive is passed on. -/
theorem DnsTask.not_answersOwn_of_first {s : DnsTask} {d : Arrival} (hlegal : s.Legal (.arrive d))
    (hdata : d.data ≠ [])
    (hforged : ∀ p, s.pending = some p → d.origin = .other → Forged p.query d)
    (hfirst : ¬ RepliesFirst s (.arrive d)) :
    ¬ ((s.step (.arrive d)).step (.recvfrom true)).AnswersOwn := by
  intro hall
  refine hfirst fun p hpending hwaiting => ?_
  have hpassed : (s.step (.arrive d)).step (.recvfrom true) = ⟨s.rx, none,
      s.forwarded ++ passOn ⟨p.client, p.query, [d]⟩ true⟩ := by
    rw [step, step, hpending, Option.map_some, hwaiting]
    rfl
  rw [hpassed] at hall
  have hgenuine := hall _ (List.mem_append_right _
    (mem_passOn.2 ⟨rfl, d, [], rfl, List.length_pos_iff.2 hdata, rfl⟩))
  cases horigin : d.origin with
  | other => exact absurd hgenuine (hforged p hpending horigin).not_genuine
  | reply query =>
    exact ⟨query, rfl, (hlegal query horigin).2.iff_sameQuestions.1 hgenuine.2⟩

/-- **When clients are sent the answers to their own questions only**: in every run in which, each
time, the first datagram to arrive for a query is a reply of the upstream server to that query, or to
one with the same id and questions.  And in no others, as far as `recvfrom` comes to take it: a late
reply to another query, or a datagram that is forged, is passed on if it is the first. -/
theorem forwarded_genuine (rx : Mem) (is : List DnsInput)
    (hlegal : StepSystem.EveryStep DnsTask.step DnsTask.Legal (.start rx) is) :
    (StepSystem.EveryStep DnsTask.step RepliesFirst (.start rx) is →
      StepSystem.EveryState DnsTask.step DnsTask.AnswersOwn (.start rx) is) ∧
    ∀ d, (StepSystem.run DnsTask.step (.start rx) is).Legal (.arrive d) → d.data ≠ [] →
      (∀ p, (StepSystem.run DnsTask.step (.start rx) is).pending = some p → d.origin = .other →
        Forged p.query d) →
      ¬ RepliesFirst (StepSystem.run DnsTask.step (.start rx) is) (.arrive d) →
        ¬ (StepSystem.run DnsTask.step (.start rx)
          (is ++ [.arrive d] ++ [.recvfrom true])).AnswersOwn := by
  constructor
  · intro hfirst
    have hinv : StepSystem.EveryState DnsTask.step DnsTask.Inv (.start rx) is :=
      StepSystem.everyState_of_invariant (fun _ _ h hs => DnsTask.inv_step hs h.1 h.2)
        (hlegal.and hfirst) (DnsTask.inv_start rx)
    exact hinv.mono fun _ => DnsTask.Inv.answersOwn
  · intro d hd hdata hforged hfirst
    rw [StepSystem.run_concat, StepSystem.run_concat]
    exact DnsTask.not_answersOwn_of_first hd hdata hforged hfirst

/-! ### Two runs -/

theorem NameQuery.forwardsQuery {t : DomainTable} {data : Bytes} {labels : List Bytes}
    (hq : NameQuery data labels) (hblocked : isDomainBlocked t (some hq.name) = false) (old : Mem) :
    ForwardsQuery t old data := by
  rw [ForwardsQuery, List.take_of_length_le hq.length_le]
  exact ⟨hq.header_le, hq.isQuery old, _, _, hq.parsesName old, hq.strlen_pos, hblocked⟩

theorem nameQuery_adsName : NameQuery (addressQuery adsName) adsName :=
  nameQuery_addressQuery (by decide) (by decide) (by decide)

/-- A client asks for `ads.com`, which is not blocked, and the datagram `d` is the first to arrive on
the upstream socket. -/
def adsRun (d : Arrival) : List DnsInput :=
  [.receive .zero (addressQuery adsName) ⟨0xC0A80402, 1234⟩ true, .arrive d, .recvfrom true]

theorem legal_adsRun (rx : Mem) {d : Arrival} (hd : ∀ query, d.origin = .reply query →
    d.src = upstreamDns ∧ RepliesTo query (d.data.take DNS_MAX_PACKET_SIZE)) :
    StepSystem.EveryStep DnsTask.step DnsTask.Legal (.start rx) (adsRun d) :=
  ⟨fun _ => nameQuery_adsName.forwardsQuery (by decide +kernel) rx, hd, trivial, trivial⟩

/-- The upstream server's reply that there is no such address. -/
def adsReply : Bytes :=
  [0x12, 0x34, 0x81, 0x80, 0x00, 0x01, 0x00, 0x00, 0x00, 0x00, 0x00, 0x00] ++ wireName adsName ++
    [0x00, 0x01, 0x00, 0x01]

theorem asks_adsName {msg : Bytes} {header : Header} (hheader : headerOf msg = some header)
    (hcount : header.qdcount = 1) (hname : HoldsAt msg 12 (wireName adsName))
    (htype : HoldsAt msg 21 [0, 1, 0, 1]) : Asks msg [⟨adsName, TYPE_A, CLASS_IN⟩] := by
  refine ⟨header, 25, hheader, by rw [hcount]; rfl, sectionAt_singleton_iff.2 ?_⟩
  exact @QuestionAt.intro _ _ _ _ 0 1 0 1 (nameAt_adsName hname) (by decide) htype

theorem repliesTo_adsReply : RepliesTo (addressQuery adsName) adsReply :=
  ⟨⟨_, _, rfl, rfl, by decide, rfl⟩, _, asks_adsName rfl rfl (by decide) (by decide),
    asks_adsName rfl rfl (by decide) (by decide)⟩

/-- When the reply of the upstream server is the first to arrive, the client is sent the answer to
its question. -/
theorem forwarded_genuine_reply : StepSystem.EveryState DnsTask.step DnsTask.AnswersOwn
    (.start fun _ => 0)
    (adsRun ⟨upstreamDns, adsReply, .reply (addressQuery adsName)⟩) := by
  refine (forwarded_genuine (fun _ => 0) _ (legal_adsRun _ ?_)).1 ⟨trivial, ?_, trivial, trivial⟩
  · rintro query ⟨⟩
    exact ⟨rfl, repliesTo_adsReply⟩
  · rintro p hpending -
    obtain rfl := Option.some.inj hpending
    have hasks : Asks (addressQuery adsName) _ :=
      asks_adsName rfl rfl (by decide) (by decide)
    exact ⟨_, rfl, ⟨_, _, rfl, rfl, rfl⟩, _, hasks, hasks⟩

/-- When something else is the first, the client is sent that. -/
theorem forwarded_forged : ¬ ∀ (rx : Mem) (is : List DnsInput),
    StepSystem.EveryStep DnsTask.step DnsTask.Legal (.start rx) is →
      StepSystem.EveryState DnsTask.step DnsTask.AnswersOwn (.start rx) is := by
  intro h
  have hrun := (h (fun _ => 0) (adsRun ⟨⟨0xC0A80403, 53⟩, [0xFF], .other⟩)
    (legal_adsRun _ nofun)).last
  have hgenuine := hrun ⟨⟨0xC0A80402, 1234⟩, addressQuery adsName, ⟨0xC0A80403, 53⟩, [0xFF]⟩
    List.mem_cons_self
  exact absurd hgenuine.1 (by decide)

end EspFirewall
