import EspFirewall.Dns.Filtering
import EspFirewall.General.DnsMessage

/-!
# The answer for a blocked name (`create_blocked_response`)

The answer is the datagram that was received, with another header, and behind it a record that says
0.0.0.0.  Two things depend on what the datagram has behind its question: whether the answer fits
into `tx_buffer`, which is `blockedResponse_fits_iff`, and whether somebody who decodes it finds the
record, which is `blockedResponse_correct_iff`.
-/

set_option autoImplicit false

namespace EspFirewall

open CLang DnsMessage

/-! ## The stores -/

/-- The stores of `create_blocked_response` to the header: the flags, and the counts of the sections
behind the questions. -/
def headerStores : List (ℕ × UInt8) :=
  [(2, 0x81), (3, 0x80), (6, 0x00), (7, 0x01), (8, 0x00), (9, 0x00), (10, 0x00), (11, 0x00)]

/-- The stores of `create_blocked_response` to `response`, in order: the `memcpy`, the header
fields, and the answer behind the query. -/
def blockedResponseStores (query : Bytes) : List (ℕ × UInt8) :=
  memcpyStores 0 query ++ (headerStores ++ memcpyStores query.length blockedAnswer)

theorem headerStores_lt : ∀ w ∈ headerStores, w.1 < DNS_HEADER_SIZE := by decide

/-- **The stores leave the response in `tx_buffer`.** -/
theorem stores_blockedResponseStores (tx : Mem) {query : Bytes}
    (h : DNS_HEADER_SIZE ≤ query.length) :
    tx.stores (blockedResponseStores query) = tx.write (createBlockedResponse query) := by
  have hcopy : tx.stores (memcpyStores 0 query) = tx.write query :=
    Mem.stores_memcpyStores tx [] query
  have hheader := tx.stores_write fun w hw => Nat.lt_of_lt_of_le (headerStores_lt w hw) h
  have hlen : (headerStores.foldl (fun data w => data.set w.1 w.2) query).length =
      query.length := by
    simp only [headerStores, List.foldl_cons, List.foldl_nil, List.length_set]
  rw [blockedResponseStores, Mem.stores_append, Mem.stores_append, hcopy, hheader, ← hlen,
    Mem.stores_memcpyStores]
  rfl

/-- The offsets of the stores: those of the response, once the header is there. -/
theorem mem_blockedResponseStores {query : Bytes} (h : DNS_HEADER_SIZE ≤ query.length) {k : ℕ} :
    k ∈ (blockedResponseStores query).map Prod.fst ↔ k < (createBlockedResponse query).length := by
  rw [blockedResponseStores, List.map_append, List.map_append, List.mem_append, List.mem_append,
    mem_memcpyStores, mem_memcpyStores, createBlockedResponse_length]
  have hanswer : blockedAnswer.length = 16 := rfl
  rw [hanswer]
  constructor
  · rintro (hk | hk | hk)
    · omega
    · obtain ⟨w, hw, rfl⟩ := List.mem_map.1 hk
      have := headerStores_lt w hw
      omega
    · omega
  · intro hk
    by_cases hlt : k < query.length
    · exact .inl ⟨Nat.zero_le k, by omega⟩
    · exact .inr (.inr ⟨Nat.not_lt.1 hlt, hk⟩)

/-- A datagram that `recvfrom` can deliver into a buffer that held `old`, and whose name is
blocked. -/
structure BlockedQuery (t : DomainTable) (old : Mem) (query : Bytes) : Prop where
  header_le : DNS_HEADER_SIZE ≤ query.length
  length_le : query.length ≤ DNS_MAX_PACKET_SIZE
  isQuery : isQuery (old.write query) = true
  blocked : ∃ o domain, ParsesName (old.write query) DNS_HEADER_SIZE DNS_DOMAIN_SIZE
    (some (o, domain)) ∧ 0 < domain.strlen ∧ isDomainBlocked t (some domain) = true

theorem NameQuery.blockedQuery {t : DomainTable} {data : Bytes} {labels : List Bytes}
    (hq : NameQuery data labels) (h : t.Covers ((dotted labels).take (MAX_DOMAIN_LENGTH - 1)))
    (old : Mem) : BlockedQuery t old data :=
  ⟨hq.header_le, hq.length_le, hq.isQuery old, _, _, hq.parsesName old, hq.strlen_pos,
    (isDomainBlocked_name hq).2 h⟩

/-- **When the answer fits into `tx_buffer`**: exactly when there are 16 bytes left behind the
query. -/
theorem blockedResponse_fits_iff (query : Bytes) (h : DNS_HEADER_SIZE ≤ query.length) :
    (∀ k ∈ (blockedResponseStores query).map Prod.fst,
      k < DNS_MAX_PACKET_SIZE ∧ k ≤ (createBlockedResponse query).length) ↔
      query.length ≤ 496 := by
  simp only [mem_blockedResponseStores h, createBlockedResponse_length]
  constructor
  · intro hall
    have hlast : query.length + 15 < 512 := (hall (query.length + 15) (Nat.lt_succ_self _)).1
    omega
  · intro hle k hk
    exact ⟨show k < 512 by omega, hk.le⟩

/-- The answer to a query for `ads.com` does when that is blocked. -/
theorem blockedResponse_fits_short :
    BlockedQuery adsTable (fun _ => 0) (addressQuery [ascii "ads", ascii "com"]) ∧
      40 < DNS_MAX_PACKET_SIZE ∧
      40 ≤ (createBlockedResponse (addressQuery [ascii "ads", ascii "com"])).length :=
  ⟨(nameQuery_addressQuery (by decide) (by decide) (by decide)).blockedQuery
      (adsTable_covers (by decide)) _,
    (blockedResponse_fits_iff (addressQuery [ascii "ads", ascii "com"]) (by decide)).2 (by decide)
      40 (by decide)⟩

/-- A query for `ads.com` with 472 bytes behind the question. -/
def paddedQuery : Bytes :=
  addressQuery [ascii "ads", ascii "com"] ++ List.replicate 472 0

theorem nameQuery_paddedQuery : NameQuery paddedQuery [ascii "ads", ascii "com"] :=
  ⟨by decide +kernel, ⟨_, _, List.append_assoc .., rfl, by decide, by decide⟩, by decide, by decide,
    by decide⟩

theorem blockedQuery_paddedQuery (old : Mem) : BlockedQuery adsTable old paddedQuery :=
  nameQuery_paddedQuery.blockedQuery (adsTable_covers (by decide)) old

/-- The answer to it does not fit. -/
theorem blockedResponse_overflow : ¬ ∀ (t : DomainTable) (old : Mem) (query : Bytes),
    BlockedQuery t old query → ∀ k ∈ (blockedResponseStores query).map Prod.fst,
      k < DNS_MAX_PACKET_SIZE ∧ k ≤ (createBlockedResponse query).length := by
  intro h
  have hq := blockedQuery_paddedQuery fun _ => 0
  have hlen : (createBlockedResponse paddedQuery).length = 513 := by
    rw [createBlockedResponse_length]
    decide +kernel
  have hmem := (mem_blockedResponseStores hq.header_le (k := 512)).2 (by rw [hlen]; decide)
  exact Nat.lt_irrefl 512 (h adsTable _ paddedQuery hq 512 hmem).1

/-! ## What the answer decodes to -/

/-- The datagram is a query for an address: one question, of type A and class IN, and nothing in the
sections for answers and authority. -/
structure AddressQuery (query : Bytes) (m : Message) (qname : Name) : Prop where
  length_le : query.length ≤ 496
  decodes : Decodes query m
  not_response : ¬ m.header.IsResponse
  questions : m.questions = [⟨qname, TYPE_A, CLASS_IN⟩]
  answers : m.answers = []
  authority : m.authority = []

/-- The message is a correct answer to the query that blocks the name: a response with the id and
the question of the query, and one record, which says 0.0.0.0. -/
structure BlocksQuery (m : Message) (qname : Name) (answer : Message) : Prop where
  id : answer.header.id = m.header.id
  response : answer.header.IsResponse
  qdcount : answer.header.qdcount = 1
  ancount : answer.header.ancount = 1
  nscount : answer.header.nscount = 0
  arcount : answer.header.arcount = 0
  questions : answer.questions = m.questions
  answers : ∃ ttl, answer.answers = [⟨qname, TYPE_A, CLASS_IN, ttl, [0, 0, 0, 0]⟩]
  authority : answer.authority = []
  additional : answer.additional = []

/-- The response: the header with other flags and counts, the bytes of the query behind it, and then
the answer. -/
theorem createBlockedResponse_parts {query : Bytes} {h : Header} (hq : headerOf query = some h) :
    headerOf (createBlockedResponse query) =
        some { h with flags := 0x8180, ancount := 1, nscount := 0, arcount := 0 } ∧
      Extends query (createBlockedResponse query) ∧
      HoldsAt (createBlockedResponse query) query.length blockedAnswer := by
  rcases query with _ | ⟨i₀, _ | ⟨i₁, _ | ⟨f₀, _ | ⟨f₁, _ | ⟨q₀, _ | ⟨q₁, _ | ⟨a₀, _ | ⟨a₁, _ | ⟨n₀,
    _ | ⟨n₁, _ | ⟨r₀, _ | ⟨r₁, rest⟩⟩⟩⟩⟩⟩⟩⟩⟩⟩⟩⟩
  all_goals first | exact absurd hq.symm (Option.some_ne_none _) | skip
  cases hq
  refine ⟨rfl, List.prefix_append rest blockedAnswer, ?_⟩
  have hdrop : (createBlockedResponse (i₀ :: i₁ :: f₀ :: f₁ :: q₀ :: q₁ :: a₀ :: a₁ :: n₀ :: n₁ ::
      r₀ :: r₁ :: rest)).drop (rest.length + 12) = blockedAnswer := by
    exact List.drop_left
  rw [HoldsAt]
  exact hdrop ▸ List.prefix_rfl

/-- The record that `create_blocked_response` appends, where it is. -/
theorem recordAt_blockedAnswer {msg : Bytes} {o e : ℕ} {qname : Name}
    (h : HoldsAt msg o blockedAnswer) (hname : NameAt msg HEADER_SIZE HEADER_SIZE qname e)
    (hsize : qname.size ≤ 255) (ho : HEADER_SIZE < o) :
    RecordAt msg o ⟨qname, TYPE_A, CLASS_IN, 60, [0, 0, 0, 0]⟩ (o + 16) := by
  have hptr : HoldsAt msg o [0xC0, 0x0C] := (List.prefix_append _ _).trans h
  have hrest : HoldsAt msg (o + 2) ([0, 1, 0, 1, 0, 0, 0, 0x3C, 0, 4] ++ [0, 0, 0, 0]) :=
    HoldsAt.append_right [0xC0, 0x0C] h
  exact .intro (.pointer hptr (by decide) (by decide) ho hname) hsize hrest (by decide)

/-- With nothing behind the question, the answer is where a decoder looks for it. -/
theorem blockedResponse_correct {query : Bytes} {m : Message} {qname : Name}
    (h : AddressQuery query m qname) (hnone : m.additional = []) :
    ∃ answer, Decodes (createBlockedResponse query) answer ∧ BlocksQuery m qname answer := by
  obtain ⟨hheader, ⟨hqd, -⟩, e₁, e₂, e₃, hq, ha, hn, hr⟩ := h.decodes
  rw [h.questions, sectionAt_singleton_iff] at hq
  rw [h.answers, sectionAt_nil_iff] at ha
  rw [h.authority, sectionAt_nil_iff] at hn
  rw [hnone, sectionAt_nil_iff] at hr
  subst ha hn hr
  obtain ⟨hheader', hextends, hanswer⟩ := createBlockedResponse_parts hheader
  have hq' := (hextends.questionAt hq (Nat.le_refl _)).1
  rw [h.questions] at hqd
  have hcount : m.header.qdcount = 1 := UInt16.toNat_inj.1 hqd
  obtain ⟨e, hname, hsize, hend⟩ := hq.name
  obtain ⟨hname', hle⟩ := hextends.nameAt hname (Nat.le_refl _)
  have hrecord := recordAt_blockedAnswer hanswer hname' hsize (by omega)
  rw [← createBlockedResponse_length query] at hrecord
  refine ⟨⟨_, m.questions, [_], [], []⟩, ⟨hheader', ⟨?_, rfl, rfl, rfl⟩, _, _, _, ?_,
    sectionAt_singleton_iff.2 hrecord, .nil, .nil⟩, ?_⟩
  · rw [h.questions]
    exact hqd
  · rw [h.questions]
    exact sectionAt_singleton_iff.2 hq'
  · have hflags : (0x8180 : UInt16) &&& 0x8000 ≠ 0 := by decide
    exact ⟨rfl, hflags, hcount, rfl, rfl, rfl, rfl, ⟨60, rfl⟩, rfl, rfl⟩

/-- A record behind the question is where a decoder looks for the answer. -/
theorem blockedResponse_incorrect {query : Bytes} {m : Message} {qname : Name}
    (h : AddressQuery query m qname) (hsome : m.additional ≠ []) :
    ¬ ∃ answer, Decodes (createBlockedResponse query) answer ∧ BlocksQuery m qname answer := by
  rintro ⟨answer, ⟨-, -, e₁', e₂', e₃', hq', ha', hn', hr'⟩, hblocks⟩
  obtain ⟨hheader, -, e₁, e₂, e₃, hq, ha, hn, hr⟩ := h.decodes
  obtain ⟨r, rs, hadditional⟩ := List.exists_cons_of_ne_nil hsome
  obtain ⟨ttl, hanswers⟩ := hblocks.answers
  obtain ⟨-, hextends, -⟩ := createBlockedResponse_parts hheader
  rw [h.questions, sectionAt_singleton_iff] at hq
  rw [h.answers, sectionAt_nil_iff] at ha
  rw [h.authority, sectionAt_nil_iff] at hn
  rw [hblocks.questions, h.questions, sectionAt_singleton_iff] at hq'
  rw [hanswers, sectionAt_singleton_iff] at ha'
  rw [hblocks.authority, sectionAt_nil_iff] at hn'
  rw [hblocks.additional, sectionAt_nil_iff] at hr'
  subst ha hn hn' hr'
  -- the record behind the question is read instead, and it ends where the query does at the latest
  obtain ⟨hquestion, hle⟩ := hextends.questionAt hq (Nat.le_refl _)
  obtain ⟨-, rfl⟩ := hquestion.unique hq'
  rw [hadditional] at hr
  rcases hr with _ | ⟨hrecord, -⟩
  obtain ⟨-, hend⟩ := (hextends.recordAt hrecord hle).unique ha'
  have hinside := hrecord.le_length
  rw [hend, createBlockedResponse_length] at hinside
  omega

/-- **When the answer is a correct message**: exactly when the query has no additional records. -/
theorem blockedResponse_correct_iff {query : Bytes} {m : Message} {qname : Name}
    (h : AddressQuery query m qname) :
    DecodesTo (createBlockedResponse query) (BlocksQuery m qname) ↔ m.additional = [] := by
  rw [decodesTo_iff]
  exact ⟨fun hok => by_contra fun hsome => blockedResponse_incorrect h hsome hok,
    blockedResponse_correct h⟩

/-! ### Two queries -/

/-- The name in the examples. -/
def adsName : Name := [ascii "ads", ascii "com"]

theorem nameAt_adsName {msg : Bytes} (h : HoldsAt msg 12 (wireName adsName)) :
    NameAt msg 12 12 adsName 21 := by
  have hcom : HoldsAt msg 16 (3 :: ascii "com") :=
    (List.prefix_append _ [0]).trans (h.append_right (encodeLabel (ascii "ads")))
  have hroot : HoldsAt msg 20 [0] := h.append_right (adsName.flatMap encodeLabel)
  exact .label ((List.prefix_append _ _).trans h) rfl (by decide) (by decide)
    (.label hcom rfl (by decide) (by decide) (.root hroot))

/-- A query for the address of `ads.com`, decoded. -/
def adsMessage (additional : List Record) : Message :=
  ⟨⟨0x1234, 0x0100, 1, 0, 0, UInt16.ofNat additional.length⟩, [⟨adsName, TYPE_A, CLASS_IN⟩], [], [],
    additional⟩

theorem addressQuery_adsName : AddressQuery (addressQuery adsName) (adsMessage []) adsName := by
  have hname : NameAt (addressQuery adsName) 12 12 adsName 21 := nameAt_adsName (by decide)
  refine ⟨by decide, ⟨rfl, ⟨rfl, rfl, rfl, rfl⟩, 25, 25, 25, ?_, .nil, .nil, .nil⟩, by decide, rfl, rfl,
    rfl⟩
  exact sectionAt_singleton_iff.2 (@QuestionAt.intro _ _ _ _ 0 1 0 1 hname (by decide) (by decide))

/-- The answer to a query for the address of `ads.com` decodes as it should. -/
theorem blockedResponse_correct_plain :
    DecodesTo (createBlockedResponse (addressQuery adsName)) (BlocksQuery (adsMessage []) adsName) :=
  (blockedResponse_correct_iff addressQuery_adsName).2 rfl

/-- An OPT record of EDNS0: the root, type 41, payloads of 4096 bytes, and no options. -/
def optRecord : Bytes := [0x00, 0x00, 0x29, 0x10, 0x00, 0x00, 0x00, 0x00, 0x00, 0x00, 0x00]

/-- The same query from a resolver that speaks EDNS0. -/
def ednsQuery : Bytes :=
  [0x12, 0x34, 0x01, 0x00, 0x00, 0x01, 0x00, 0x00, 0x00, 0x00, 0x00, 0x01] ++ wireName adsName ++
    [0x00, 0x01, 0x00, 0x01] ++ optRecord

theorem addressQuery_ednsQuery :
    AddressQuery ednsQuery (adsMessage [⟨[], 41, 4096, 0, []⟩]) adsName := by
  have hname : NameAt ednsQuery 12 12 adsName 21 := nameAt_adsName (by decide)
  have hroot : NameAt ednsQuery 25 25 [] 26 := .root (by decide)
  refine ⟨by decide, ⟨rfl, ⟨rfl, rfl, rfl, rfl⟩, 25, 25, 25, ?_, .nil, .nil, ?_⟩, by decide, rfl, rfl,
    rfl⟩
  · exact sectionAt_singleton_iff.2
      (@QuestionAt.intro _ _ _ _ 0 1 0 1 hname (by decide) (by decide))
  · exact sectionAt_singleton_iff.2
      (@RecordAt.intro _ _ _ _ 0 41 16 0 0 0 0 0 0 0 [] hroot (by decide) (by decide) rfl)

/-- Its answer does not decode as it should. -/
theorem blockedResponse_incorrect_edns : ¬ ∀ (query : Bytes) (m : Message) (qname : Name),
    AddressQuery query m qname → DecodesTo (createBlockedResponse query) (BlocksQuery m qname) :=
  fun h => blockedResponse_incorrect addressQuery_ednsQuery (List.cons_ne_nil _ _)
    (decodesTo_iff.1 (h ednsQuery _ adsName addressQuery_ednsQuery))

end EspFirewall
