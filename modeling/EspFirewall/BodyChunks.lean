import EspFirewall.PostRefusals

/-!
# Bodies that arrive in parts

TCP may deliver the body of a request in several parts, and `httpd_req_recv` returns what has
arrived.  The handlers call it once, without asking how long the body is, and take the first part for
the whole.

`chunks_agree_iff` says when that makes no difference: when the first part already is the text of an
object, so that the rest is blank, or when the whole is refused anyway.
-/

set_option autoImplicit false

namespace EspFirewall

open CLang CJson

variable {Num : Type}

/-- A body, in the parts that `httpd_req_recv` returns one after the other. -/
structure Delivery where
  chunks : List Bytes
  /-- There is a part. -/
  ne_nil : chunks ≠ []
  /-- Something arrives with each of them. -/
  nonempty : [] ∉ chunks

namespace Delivery

/-- The body. -/
def body (d : Delivery) : Bytes := d.chunks.flatten

/-- The first part. -/
def first (d : Delivery) : Bytes := d.chunks.head d.ne_nil

/-- A body that arrives in one part. -/
def whole (bytes : Bytes) (hne : bytes ≠ []) : Delivery where
  chunks := [bytes]
  ne_nil := List.cons_ne_nil _ _
  nonempty := fun h => hne (List.mem_singleton.1 h).symm

theorem first_ne_nil (d : Delivery) : d.first ≠ [] :=
  fun h => d.nonempty (h ▸ List.head_mem d.ne_nil)

/-- The body begins with the first part. -/
theorem body_eq (d : Delivery) : d.body = d.first ++ d.chunks.tail.flatten := by
  rw [body, first, ← List.flatten_cons, List.cons_head_tail]

theorem body_ne_nil (d : Delivery) : d.body ≠ [] := by
  rw [body_eq]
  exact List.append_ne_nil_of_left_ne_nil d.first_ne_nil _

end Delivery

/-- What a client sees of a reply, and what the handler leaves: whether it is a success, and the
tables. -/
def PostResult.outcome (r : PostResult) : Except Fault (Bool × RouterTables) :=
  r.map fun p => (decide (p.1.status = .ok), p.2)

namespace PostHandler

/-- The handler, as the body arrives: its one call of `httpd_req_recv` returns the first part. -/
def receive (lib : Library Num) (env : PostOutcome) (d : Delivery) (t : RouterTables)
    (h : PostHandler) : PostResult :=
  h.run lib env d.chunks.head? t

/-- **The parts make no difference** to the outcome. -/
def ChunksAgree (lib : Library Num) (env : PostOutcome) (d : Delivery) (t : RouterTables)
    (h : PostHandler) : Prop :=
  (h.receive lib env d t).outcome = (h.receive lib env (.whole d.body d.body_ne_nil) t).outcome

/-- A refusal is an outcome. -/
theorem refused_iff_outcome {t : RouterTables} {r : PostResult} :
    PostResult.Refused t r ↔ r.outcome = .ok (false, t) := by
  cases r with
  | error fault => exact iff_of_false nofun nofun
  | ok p =>
    obtain ⟨reply, t'⟩ := p
    constructor
    · rintro ⟨reply', heq, hstatus⟩
      obtain ⟨rfl, rfl⟩ := Prod.mk.inj (Except.ok.inj heq)
      rw [PostResult.outcome, Except.map, decide_eq_false hstatus]
    · intro heq
      obtain ⟨hstatus, rfl⟩ := Prod.mk.inj (Except.ok.inj heq)
      exact ⟨reply, rfl, of_decide_eq_false hstatus⟩

section

variable {lib : Library Num} {d : Delivery} {h : PostHandler}

theorem receive_eq (env : PostOutcome) (t : RouterTables) :
    h.receive lib env d t = h.run lib env (some d.first) t := by
  rw [receive, Delivery.first, List.head?_eq_some_head d.ne_nil]

theorem first_length_lt (hsize : d.body.length < h.bufSize) : d.first.length < h.bufSize := by
  refine Nat.lt_of_le_of_lt ?_ hsize
  rw [d.body_eq, List.length_append]
  exact Nat.le_add_right ..

/-- The rest of a body is ignored behind the text of an object. -/
theorem chunksAgree_of_object (hlib : lib.IgnoresRest) (env : PostOutcome) (t : RouterTables)
    (hsize : d.body.length < h.bufSize) {members : List (CString × Item Num)}
    (hfirst : lib.parse (.ofMem d.first) = some (.object members)) : h.ChunksAgree lib env d t := by
  have hroom := first_length_lt hsize
  have hbody : lib.parse (.ofMem d.body) = some (.object members) := by
    rw [d.body_eq]
    exact hlib _ _ _ hfirst
  rw [ChunksAgree, receive_eq, receive_eq,
    run_of_parse (httpdReqRecv_of_length_le d.first_ne_nil (le_recvLen hroom)) hroom hfirst]
  exact congrArg PostResult.outcome (run_of_parse
    (httpdReqRecv_of_length_le d.body_ne_nil (le_recvLen hsize)) hsize hbody).symm

/-- A first part that is not the text of an object is refused, so the whole has to be. -/
theorem chunksAgree_iff_of_not_object (env : PostOutcome) (t : RouterTables)
    (hsize : d.body.length < h.bufSize)
    (hfirst : ∀ members, lib.parse (.ofMem d.first) ≠ some (.object members)) :
    h.ChunksAgree lib env d t ↔
      ∀ json, lib.parse (.ofMem d.body) = some json → h.Refuses lib env t json := by
  have hrefused : PostResult.Refused t (h.run lib env (some d.first) t) := by
    refine (run_refused_iff d.first_ne_nil (first_length_lt hsize)).2 fun json hjson => ?_
    refine refuses_of_not_object h fun members hmembers => hfirst members ?_
    rw [hjson, hmembers]
  have hwhole : h.receive lib env (.whole d.body d.body_ne_nil) t =
      h.run lib env (some d.body) t := rfl
  rw [ChunksAgree, receive_eq, refused_iff_outcome.1 hrefused, hwhole, eq_comm,
    ← refused_iff_outcome, run_refused_iff d.body_ne_nil hsize]

end

/-- **When the parts make no difference**: the first part is the text of an object, or the whole
body is no JSON or refused. -/
theorem chunks_agree_iff {lib : Library Num} (hlib : lib.IgnoresRest) (env : PostOutcome)
    {d : Delivery} (t : RouterTables) {h : PostHandler} (hsize : d.body.length < h.bufSize) :
    h.ChunksAgree lib env d t ↔
      (∃ members, lib.parse (.ofMem d.first) = some (.object members)) ∨
        ∀ json, lib.parse (.ofMem d.body) = some json → h.Refuses lib env t json := by
  by_cases hobject : ∃ members, lib.parse (.ofMem d.first) = some (.object members)
  · obtain ⟨members, hmembers⟩ := hobject
    exact iff_of_true (chunksAgree_of_object hlib env t hsize hmembers) (.inl ⟨members, hmembers⟩)
  · rw [or_iff_right hobject]
    exact chunksAgree_iff_of_not_object env t hsize (not_exists.1 hobject)

end PostHandler

/-! ### A domain in two parts -/

/-- `{"domain":"ads.example"}`. -/
def domainText : Bytes := ascii "\x7b\"domain\":\"ads.example\"\x7d"

/-- A parser for this text. -/
def domainLibrary : Library ℕ :=
  .ofText .ofNat domainText (.object [(.lit "domain", .string (.lit "ads.example"))])

/-- The text arrives, and a blank behind it. -/
theorem chunks_agree_blank : PostHandler.addBlockedDomain.ChunksAgree domainLibrary
    ⟨.ok, .ok, stationMac⟩ ⟨[domainText, ascii " "], nofun, by decide⟩ .firstBoot :=
  (PostHandler.chunks_agree_iff (Library.ofText_ignoresRest _ _ _) _ _ (by decide)).2
    (.inl ⟨_, Library.ofText_parse (by decide) _⟩)

/-- The text arrives in two parts, and the domain is not blocked. -/
theorem chunks_lost : ¬ ∀ (lib : Library ℕ) (env : PostOutcome) (d : Delivery) (t : RouterTables)
    (h : PostHandler), lib.IgnoresRest → d.body.length < h.bufSize →
      (∃ json, lib.parse (.ofMem d.body) = some json) → h.ChunksAgree lib env d t := by
  intro hall
  let d : Delivery := ⟨[domainText.take 10, domainText.drop 10], nofun, by decide⟩
  have hbody : domainLibrary.parse (.ofMem d.body) =
      some (.object [(.lit "domain", .string (.lit "ads.example"))]) :=
    Library.ofText_parse (by decide) _
  have hfirst : domainLibrary.parse (.ofMem d.first) = none :=
    Library.ofText_parse_none (by decide) _
  have hagree := hall domainLibrary ⟨.ok, .ok, stationMac⟩ d .firstBoot .addBlockedDomain
    (Library.ofText_ignoresRest _ _ _) (by decide) ⟨_, hbody⟩
  rw [PostHandler.chunksAgree_iff_of_not_object _ _ (by decide)
    fun members h => absurd (hfirst.symm.trans h) nofun] at hagree
  have hrefuses := hagree _ hbody (.lit "ads.example") rfl
  exact absurd hrefuses (by decide)

end EspFirewall
