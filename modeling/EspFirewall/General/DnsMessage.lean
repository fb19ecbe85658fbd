import EspFirewall.General.CString
import Mathlib.Data.List.Infix

/-!
# The message format of RFC 1035

A message is a header of twelve bytes and four sections: questions, and three lists of resource
records.  A name in it is a sequence of labels of one to 63 bytes, each behind its length byte; it
ends with a zero byte or with a pointer to a name further up in the message.

`Decodes msg m` says that the bytes `msg` are the message `m`, with none left over.  There is at
most one such `m` (`Decodes.unique`), and where the names and records are depends on the bytes
behind the header only, up to the end of what is read (`Extends`).
-/

set_option autoImplicit false

namespace DnsMessage

open CLang

/-- The length of the header. -/
abbrev HEADER_SIZE : ℕ := 12

/-- The bytes `bs` are in the message from `o` on. -/
def HoldsAt (msg : Bytes) (o : ℕ) (bs : Bytes) : Prop := bs <+: msg.drop o

instance (msg : Bytes) (o : ℕ) (bs : Bytes) : Decidable (HoldsAt msg o bs) :=
  inferInstanceAs (Decidable (_ <+: _))

/-- A domain name: its labels. -/
abbrev Name := List Bytes

/-- The bytes that a name takes without compression. -/
def Name.size (name : Name) : ℕ := (name.map fun label => label.length + 1).sum + 1

/-- `NameAt msg start o name e`: the name is at `o`, and what follows it is at `e`.  A pointer leads
to a name before `start`, where this sequence of labels began, and not into the header. -/
inductive NameAt (msg : Bytes) : ℕ → ℕ → Name → ℕ → Prop
  | root {start o : ℕ} (h : HoldsAt msg o [0]) : NameAt msg start o [] (o + 1)
  | label {start o e : ℕ} {len : UInt8} {label : Bytes} {rest : Name}
      (h : HoldsAt msg o (len :: label)) (hlen : label.length = len.toNat) (hpos : 0 < len.toNat)
      (hle : len.toNat ≤ 63) (hrest : NameAt msg start (o + 1 + len.toNat) rest e) :
      NameAt msg start o (label :: rest) e
  | pointer {start o e : ℕ} {hi lo : UInt8} {name : Name} (h : HoldsAt msg o [hi, lo])
      (hptr : hi &&& 0xC0 = 0xC0)
      (hheader : HEADER_SIZE ≤ (bigEndian16 (hi &&& 0x3F) lo).toNat)
      (hprior : (bigEndian16 (hi &&& 0x3F) lo).toNat < start)
      (hname : NameAt msg (bigEndian16 (hi &&& 0x3F) lo).toNat (bigEndian16 (hi &&& 0x3F) lo).toNat
        name e) :
      NameAt msg start o name (o + 2)

/-- `Expands msg o name e`: the name that `o` expands to, with what follows it in place at `e`, when a
pointer may lead anywhere. -/
inductive Expands (msg : Bytes) : ℕ → Name → ℕ → Prop
  | root {o : ℕ} (h : HoldsAt msg o [0]) : Expands msg o [] (o + 1)
  | label {o e : ℕ} {len : UInt8} {label : Bytes} {rest : Name} (h : HoldsAt msg o (len :: label))
      (hlen : label.length = len.toNat) (hpos : 0 < len.toNat) (hle : len.toNat ≤ 63)
      (hrest : Expands msg (o + 1 + len.toNat) rest e) : Expands msg o (label :: rest) e
  | pointer {o e : ℕ} {hi lo : UInt8} {name : Name} (h : HoldsAt msg o [hi, lo])
      (hptr : hi &&& 0xC0 = 0xC0)
      (hname : Expands msg (bigEndian16 (hi &&& 0x3F) lo).toNat name e) : Expands msg o name (o + 2)

theorem Expands.ne_nil {msg : Bytes} {o e : ℕ} {name : Name} (h : Expands msg o name e) :
    ∀ label ∈ name, label ≠ [] := by
  induction h with
  | root => exact fun label hlabel => absurd hlabel List.not_mem_nil
  | label _ hlen hpos _ _ ih =>
    exact List.forall_mem_cons.2 ⟨List.length_pos_iff.1 (hlen ▸ hpos), ih⟩
  | pointer _ _ _ ih => exact ih

/-- The header. -/
structure Header where
  id : UInt16
  flags : UInt16
  qdcount : UInt16
  ancount : UInt16
  nscount : UInt16
  arcount : UInt16
deriving DecidableEq

/-- The header says that the message is a response. -/
def Header.IsResponse (h : Header) : Prop := h.flags &&& 0x8000 ≠ 0

instance (h : Header) : Decidable h.IsResponse := inferInstanceAs (Decidable (_ ≠ _))

/-- An entry of the question section. -/
structure Question where
  qname : Name
  qtype : UInt16
  qclass : UInt16

/-- A resource record. -/
structure Record where
  name : Name
  rtype : UInt16
  rclass : UInt16
  ttl : UInt32
  rdata : Bytes

/-- A message. -/
structure Message where
  header : Header
  questions : List Question
  answers : List Record
  authority : List Record
  additional : List Record

/-- The type of a host address. -/
abbrev TYPE_A : UInt16 := 1

/-- The class of the Internet. -/
abbrev CLASS_IN : UInt16 := 1

/-- The header of a message that has all of one. -/
def headerOf : Bytes → Option Header
  | i₀ :: i₁ :: f₀ :: f₁ :: q₀ :: q₁ :: a₀ :: a₁ :: n₀ :: n₁ :: r₀ :: r₁ :: _ =>
    some ⟨bigEndian16 i₀ i₁, bigEndian16 f₀ f₁, bigEndian16 q₀ q₁, bigEndian16 a₀ a₁,
      bigEndian16 n₀ n₁, bigEndian16 r₀ r₁⟩
  | _ => none

/-- The question is at `o`, and what follows it is at `e`. -/
inductive QuestionAt (msg : Bytes) : ℕ → Question → ℕ → Prop
  | intro {o e : ℕ} {qname : Name} {t₀ t₁ c₀ c₁ : UInt8} (hname : NameAt msg o o qname e)
      (hsize : qname.size ≤ 255) (h : HoldsAt msg e [t₀, t₁, c₀, c₁]) :
      QuestionAt msg o ⟨qname, bigEndian16 t₀ t₁, bigEndian16 c₀ c₁⟩ (e + 4)

/-- The name in a question. -/
theorem QuestionAt.name {msg : Bytes} {o e : ℕ} {q : Question} (h : QuestionAt msg o q e) :
    ∃ e', NameAt msg o o q.qname e' ∧ q.qname.size ≤ 255 ∧ e = e' + 4 := by
  obtain ⟨hname, hsize, -⟩ := h
  exact ⟨_, hname, hsize, rfl⟩

/-- The four bytes of a big-endian number. -/
def bigEndian32 (b₀ b₁ b₂ b₃ : UInt8) : UInt32 :=
  UInt32.ofNat (((b₀.toNat * 256 + b₁.toNat) * 256 + b₂.toNat) * 256 + b₃.toNat)

/-- The record is at `o`, and what follows it is at `e`. -/
inductive RecordAt (msg : Bytes) : ℕ → Record → ℕ → Prop
  | intro {o e : ℕ} {name : Name} {t₀ t₁ c₀ c₁ s₀ s₁ s₂ s₃ l₀ l₁ : UInt8} {rdata : Bytes}
      (hname : NameAt msg o o name e) (hsize : name.size ≤ 255)
      (h : HoldsAt msg e ([t₀, t₁, c₀, c₁, s₀, s₁, s₂, s₃, l₀, l₁] ++ rdata))
      (hlen : rdata.length = (bigEndian16 l₀ l₁).toNat) :
      RecordAt msg o ⟨name, bigEndian16 t₀ t₁, bigEndian16 c₀ c₁, bigEndian32 s₀ s₁ s₂ s₃, rdata⟩
        (e + 10 + rdata.length)

/-- The items of a section are at `o`, one behind the other, and what follows them is at `e`. -/
inductive SectionAt {α : Type} (At : ℕ → α → ℕ → Prop) : ℕ → List α → ℕ → Prop
  | nil {o : ℕ} : SectionAt At o [] o
  | cons {o m e : ℕ} {x : α} {xs : List α} (h : At o x m) (hrest : SectionAt At m xs e) :
      SectionAt At o (x :: xs) e

theorem sectionAt_nil_iff {α : Type} {At : ℕ → α → ℕ → Prop} {o e : ℕ} :
    SectionAt At o [] e ↔ o = e := by
  constructor
  · rintro ⟨⟩
    rfl
  · rintro rfl
    exact .nil

theorem sectionAt_singleton_iff {α : Type} {At : ℕ → α → ℕ → Prop} {o e : ℕ} {x : α} :
    SectionAt At o [x] e ↔ At o x e := by
  constructor
  · rintro (_ | ⟨h, hrest⟩)
    rwa [sectionAt_nil_iff.1 hrest] at h
  · exact fun h => .cons h .nil

/-- The counts of the header are those of the sections. -/
def Message.Counted (m : Message) : Prop :=
  m.header.qdcount.toNat = m.questions.length ∧ m.header.ancount.toNat = m.answers.length ∧
    m.header.nscount.toNat = m.authority.length ∧ m.header.arcount.toNat = m.additional.length

/-- **The bytes are the message**, and there are no others behind it. -/
def Decodes (msg : Bytes) (m : Message) : Prop :=
  headerOf msg = some m.header ∧ m.Counted ∧ ∃ e₁ e₂ e₃,
    SectionAt (QuestionAt msg) HEADER_SIZE m.questions e₁ ∧
    SectionAt (RecordAt msg) e₁ m.answers e₂ ∧
    SectionAt (RecordAt msg) e₂ m.authority e₃ ∧
    SectionAt (RecordAt msg) e₃ m.additional msg.length

/-! ## One decoding only -/

theorem HoldsAt.append_right {msg : Bytes} {o : ℕ} (a : Bytes) {b : Bytes}
    (h : HoldsAt msg o (a ++ b)) : HoldsAt msg (o + a.length) b := by
  have hdrop := List.IsPrefix.drop h a.length
  rwa [List.drop_left, List.drop_drop] at hdrop

/-- Bytes at one place are the same if there are as many. -/
theorem HoldsAt.unique {msg : Bytes} {o : ℕ} {as bs : Bytes} (ha : HoldsAt msg o as)
    (hb : HoldsAt msg o bs) (hlen : as.length = bs.length) : as = bs :=
  (List.prefix_of_prefix_length_le ha hb hlen.le).eq_of_length hlen

theorem HoldsAt.head {msg : Bytes} {o : ℕ} {a b : UInt8} {as bs : Bytes}
    (ha : HoldsAt msg o (a :: as)) (hb : HoldsAt msg o (b :: bs)) : a = b := by
  have h := List.prefix_of_prefix_length_le
    ((List.prefix_append [a] as).trans ha) ((List.prefix_append [b] bs).trans hb) (Nat.le_refl 1)
  exact (List.cons.inj (h.eq_of_length rfl)).1

/-- The length byte of a label does not start a pointer. -/
theorem not_pointer_of_le {b : UInt8} (h : b.toNat ≤ 63) : b &&& 0xC0 ≠ 0xC0 := by
  have hall : ∀ k : Fin 64, UInt8.ofNat k.val &&& 0xC0 ≠ 0xC0 := by decide
  have hb := hall ⟨b.toNat, by omega⟩
  rwa [UInt8.ofNat_toNat] at hb

theorem NameAt.unique {msg : Bytes} {start o e e' : ℕ} {name name' : Name}
    (h : NameAt msg start o name e) (h' : NameAt msg start o name' e') :
    name = name' ∧ e = e' := by
  induction h generalizing name' e' with
  | root h =>
    cases h' with
    | root => exact ⟨rfl, rfl⟩
    | label h₂ _ hpos => rw [← h.head h₂] at hpos; exact absurd hpos (Nat.lt_irrefl 0)
    | pointer h₂ hptr => rw [← h.head h₂] at hptr; exact absurd hptr (by decide)
  | label h hlen hpos hle _ ih =>
    cases h' with
    | root h₂ => rw [h.head h₂] at hpos; exact absurd hpos (Nat.lt_irrefl 0)
    | label h₂ hlen₂ _ _ hrest₂ =>
      obtain rfl := h.head h₂
      obtain ⟨rfl, rfl⟩ := ih hrest₂
      have heq := h.unique h₂ (by rw [List.length_cons, List.length_cons, hlen, hlen₂])
      rw [(List.cons.inj heq).2]
      exact ⟨rfl, rfl⟩
    | pointer h₂ hptr => rw [← h.head h₂] at hptr; exact absurd hptr (not_pointer_of_le hle)
  | pointer h hptr _ _ _ ih =>
    cases h' with
    | root h₂ => rw [h.head h₂] at hptr; exact absurd hptr (by decide)
    | label h₂ _ _ hle => rw [h.head h₂] at hptr; exact absurd hptr (not_pointer_of_le hle)
    | pointer h₂ _ _ _ hname₂ =>
      have heq := h.unique h₂ rfl
      rw [List.cons.injEq, List.cons.injEq] at heq
      obtain ⟨rfl, rfl, -⟩ := heq
      exact ⟨(ih hname₂).1, rfl⟩

theorem QuestionAt.unique {msg : Bytes} {o e e' : ℕ} {q q' : Question} (h : QuestionAt msg o q e)
    (h' : QuestionAt msg o q' e') : q = q' ∧ e = e' := by
  obtain ⟨hname, -, h⟩ := h
  obtain ⟨hname', -, h'⟩ := h'
  obtain ⟨rfl, rfl⟩ := hname.unique hname'
  have heq := h.unique h' rfl
  simp only [List.cons.injEq, and_true] at heq
  obtain ⟨rfl, rfl, rfl, rfl⟩ := heq
  exact ⟨rfl, rfl⟩

theorem RecordAt.unique {msg : Bytes} {o e e' : ℕ} {r r' : Record} (h : RecordAt msg o r e)
    (h' : RecordAt msg o r' e') : r = r' ∧ e = e' := by
  obtain ⟨hname, -, h, hlen⟩ := h
  obtain ⟨hname', -, h', hlen'⟩ := h'
  obtain ⟨rfl, rfl⟩ := hname.unique hname'
  have hfixed := HoldsAt.unique ((List.prefix_append _ _).trans h)
    ((List.prefix_append _ _).trans h') rfl
  simp only [List.cons.injEq, and_true] at hfixed
  obtain ⟨rfl, rfl, rfl, rfl, rfl, rfl, rfl, rfl, rfl, rfl⟩ := hfixed
  have heq := h.unique h' (by rw [List.length_append, List.length_append, hlen, hlen'])
  obtain rfl := List.append_cancel_left heq
  exact ⟨rfl, rfl⟩

/-- Sections of one length that start together are the same and end together. -/
theorem SectionAt.unique {α : Type} {At : ℕ → α → ℕ → Prop} {o e e' : ℕ} {xs xs' : List α}
    (h : SectionAt At o xs e) (h' : SectionAt At o xs' e') (hlen : xs.length = xs'.length)
    (hat : ∀ o x x' e e', At o x e → At o x' e' → x = x' ∧ e = e') : xs = xs' ∧ e = e' := by
  induction h generalizing xs' e' with
  | nil =>
    cases h' with
    | nil => exact ⟨rfl, rfl⟩
    | cons => exact absurd hlen (by simp)
  | cons h _ ih =>
    cases h' with
    | nil => exact absurd hlen (by simp)
    | cons h' hrest' =>
      obtain ⟨rfl, rfl⟩ := hat _ _ _ _ _ h h'
      obtain ⟨rfl, rfl⟩ := ih hrest' (Nat.succ.inj hlen)
      exact ⟨rfl, rfl⟩

/-- **A message decodes in one way only.** -/
theorem Decodes.unique {msg : Bytes} {m m' : Message} (h : Decodes msg m) (h' : Decodes msg m') :
    m = m' := by
  obtain ⟨hheader, ⟨hqd, han, hns, har⟩, e₁, e₂, e₃, hq, ha, hn, hr⟩ := h
  obtain ⟨hheader', ⟨hqd', han', hns', har'⟩, e₁', e₂', e₃', hq', ha', hn', hr'⟩ := h'
  rw [hheader', Option.some.injEq] at hheader
  rw [← hheader] at hqd han hns har
  obtain ⟨hquestions, rfl⟩ := hq.unique hq' (hqd.symm.trans hqd')
    fun _ _ _ _ _ => QuestionAt.unique
  obtain ⟨hanswers, rfl⟩ := ha.unique ha' (han.symm.trans han')
    fun _ _ _ _ _ => RecordAt.unique
  obtain ⟨hauthority, rfl⟩ := hn.unique hn' (hns.symm.trans hns')
    fun _ _ _ _ _ => RecordAt.unique
  obtain ⟨hadditional, -⟩ := hr.unique hr' (har.symm.trans har')
    fun _ _ _ _ _ => RecordAt.unique
  obtain ⟨header, questions, answers, authority, additional⟩ := m
  obtain ⟨header', questions', answers', authority', additional'⟩ := m'
  simp only at hheader hquestions hanswers hauthority hadditional
  rw [hheader, hquestions, hanswers, hauthority, hadditional]

/-- The bytes decode, to a message with the property `P`. -/
def DecodesTo (msg : Bytes) (P : Message → Prop) : Prop :=
  ∃ m, (∀ m', Decodes msg m' ↔ m' = m) ∧ P m

theorem decodesTo_iff {msg : Bytes} {P : Message → Prop} :
    DecodesTo msg P ↔ ∃ m, Decodes msg m ∧ P m := by
  constructor
  · rintro ⟨m, hdecodes, hm⟩
    exact ⟨m, (hdecodes m).2 rfl, hm⟩
  · rintro ⟨m, hdecodes, hm⟩
    exact ⟨m, fun m' => ⟨fun h => h.unique hdecodes, fun h => h ▸ hdecodes⟩, hm⟩

/-! ## Queries and replies -/

/-- The questions of a message, whatever is behind them. -/
def Asks (msg : Bytes) (questions : List Question) : Prop :=
  ∃ h e, headerOf msg = some h ∧ h.qdcount.toNat = questions.length ∧
    SectionAt (QuestionAt msg) HEADER_SIZE questions e

/-- The message is a response, with the id and the questions of the query. -/
def RepliesTo (query msg : Bytes) : Prop :=
  (∃ h h', headerOf query = some h ∧ headerOf msg = some h' ∧ h'.IsResponse ∧ h'.id = h.id) ∧
    ∃ questions, Asks query questions ∧ Asks msg questions

/-- The two messages have one id, and ask the same questions. -/
def SameQuestions (query query' : Bytes) : Prop :=
  (∃ h h', headerOf query = some h ∧ headerOf query' = some h' ∧ h.id = h'.id) ∧
    ∃ questions, Asks query questions ∧ Asks query' questions

theorem Asks.unique {msg : Bytes} {qs qs' : List Question} (h : Asks msg qs) (h' : Asks msg qs') :
    qs = qs' := by
  obtain ⟨header, e, hheader, hcount, hqs⟩ := h
  obtain ⟨header', e', hheader', hcount', hqs'⟩ := h'
  obtain rfl := Option.some.inj (hheader.symm.trans hheader')
  exact (hqs.unique hqs' (hcount.symm.trans hcount') fun _ _ _ _ _ => QuestionAt.unique).1

/-- **A reply to one query is a reply to another** exactly if the two have one id and ask the same
questions. -/
theorem RepliesTo.iff_sameQuestions {query query' msg : Bytes} (h : RepliesTo query msg) :
    RepliesTo query' msg ↔ SameQuestions query query' := by
  obtain ⟨⟨hd, hd', hhd, hhd', hresponse, hid⟩, qs, hqs, hmsg⟩ := h
  constructor
  · rintro ⟨⟨hd₂, hd₂', hhd₂, hhd₂', -, hid₂⟩, qs₂, hqs₂, hmsg₂⟩
    obtain rfl := Option.some.inj (hhd'.symm.trans hhd₂')
    obtain rfl := hmsg.unique hmsg₂
    exact ⟨⟨hd, hd₂, hhd, hhd₂, hid.symm.trans hid₂⟩, qs, hqs, hqs₂⟩
  · rintro ⟨⟨hd₁, hd₂, hhd₁, hhd₂, hid₂⟩, qs₂, hqs₁, hqs₂⟩
    obtain rfl := Option.some.inj (hhd.symm.trans hhd₁)
    obtain rfl := hqs.unique hqs₁
    exact ⟨⟨hd₂, hd', hhd₂, hhd', hresponse, hid.trans hid₂⟩, qs, hqs₂, hmsg⟩

/-! ## Messages with the same bytes behind the header -/

/-- The message `msg'` has the bytes of `msg` behind the header, and perhaps more. -/
def Extends (msg msg' : Bytes) : Prop := msg.drop HEADER_SIZE <+: msg'.drop HEADER_SIZE

theorem Extends.holdsAt {msg msg' : Bytes} (h : Extends msg msg') {o : ℕ} (ho : HEADER_SIZE ≤ o)
    {bs : Bytes} (hbs : HoldsAt msg o bs) : HoldsAt msg' o bs := by
  obtain ⟨k, rfl⟩ := Nat.exists_eq_add_of_le ho
  rw [HoldsAt, ← List.drop_drop] at hbs ⊢
  exact hbs.trans (List.IsPrefix.drop h k)

theorem Extends.nameAt {msg msg' : Bytes} (h : Extends msg msg') {start o e : ℕ} {name : Name}
    (hname : NameAt msg start o name e) (ho : HEADER_SIZE ≤ o) :
    NameAt msg' start o name e ∧ o ≤ e := by
  induction hname with
  | root hroot => exact ⟨.root (h.holdsAt ho hroot), Nat.le_succ _⟩
  | label hlabel hlen hpos hle _ ih =>
    obtain ⟨hrest, hoe⟩ := ih (by omega)
    exact ⟨.label (h.holdsAt ho hlabel) hlen hpos hle hrest, by omega⟩
  | pointer hbytes hptr hheader hprior _ ih =>
    exact ⟨.pointer (h.holdsAt ho hbytes) hptr hheader hprior (ih hheader).1, Nat.le_add_right ..⟩

theorem Extends.questionAt {msg msg' : Bytes} (h : Extends msg msg') {o e : ℕ} {q : Question}
    (hq : QuestionAt msg o q e) (ho : HEADER_SIZE ≤ o) : QuestionAt msg' o q e ∧ o ≤ e := by
  obtain ⟨hname, hsize, hbytes⟩ := hq
  obtain ⟨hname', hoe⟩ := h.nameAt hname ho
  exact ⟨.intro hname' hsize (h.holdsAt (ho.trans hoe) hbytes), hoe.trans (Nat.le_add_right ..)⟩

theorem Extends.recordAt {msg msg' : Bytes} (h : Extends msg msg') {o e : ℕ} {r : Record}
    (hr : RecordAt msg o r e) (ho : HEADER_SIZE ≤ o) : RecordAt msg' o r e := by
  obtain ⟨hname, hsize, hbytes, hlen⟩ := hr
  obtain ⟨hname', hoe⟩ := h.nameAt hname ho
  exact .intro hname' hsize (h.holdsAt (ho.trans hoe) hbytes) hlen

/-- A record ends inside its message. -/
theorem RecordAt.le_length {msg : Bytes} {o e : ℕ} {r : Record} (h : RecordAt msg o r e) :
    e ≤ msg.length := by
  obtain ⟨-, -, hbytes, -⟩ := h
  have hle := hbytes.length_le
  rw [List.length_drop, List.length_append] at hle
  simp only [List.length_cons, List.length_nil] at hle
  omega

end DnsMessage
