import EspFirewall.ConfigPage

/-!
# The buffer of `html_escape` (`http_server.c`)

`ConfigPage` has the string that `html_escape` returns.  The code comes to it in two passes over its
argument: the first counts the bytes, `malloc` gives a block of that many, and the second stores them
one after the other.  Each pass has its own list of the characters that are replaced, and if the lists
differed in one of them, the second pass would store behind the block or leave it unfilled.

`html_escape_exact` puts together what the two passes do and how the result can be read back.  A
reference is found by its `&` alone, for the `&` of the argument are replaced themselves.
-/

set_option autoImplicit false

namespace EspFirewall

open CLang

/-! ## The two passes -/

/-- The characters for which the first pass counts four bytes more. -/
def isCounted (b : UInt8) : Bool :=
  b == 92 || b == 39 || b == 34 || b == 38 || b == 35 || b == 59

/-- `esc_len`, which is the size of the block. -/
def escLen (src : CString) : ℕ :=
  src.bytes.foldl (fun n b => if isCounted b then n + 4 else n) (src.strlen + 1)

/-- The reference to a character. -/
def reference (b : UInt8) : Bytes := [38, 35, 48 + b / 10, 48 + b % 10, 59]

/-- The stores of a round of the second pass, which moves `j` on with each. -/
def roundStores (j : ℕ) (b : UInt8) : List (ℕ × UInt8) :=
  if isSpecial b then
    [(j, 38), (j + 1, 35), (j + 2, 48 + b / 10), (j + 3, 48 + b % 10), (j + 4, 59)]
  else [(j, b)]

/-- The stores of the second pass from a round on, and the one behind its loop. -/
def passStores (j : ℕ) : Bytes → List (ℕ × UInt8)
  | [] => [(j, 0)]
  | b :: bs => roundStores j b ++ passStores (j + (roundStores j b).length) bs

/-- The stores of `html_escape` to `res`. -/
def htmlEscapeStores (src : CString) : List (ℕ × UInt8) := passStores 0 src.bytes

/-- The two lists of characters are the same. -/
theorem isCounted_eq_isSpecial (b : UInt8) : isCounted b = isSpecial b := rfl

theorem escapeByte_length (b : UInt8) :
    (escapeByte b).length = if isCounted b then 5 else 1 := by
  rw [escapeByte, isCounted_eq_isSpecial]
  split <;> rfl

/-- **The first pass** counts what the string and its NUL take. -/
theorem escLen_eq (src : CString) : escLen src = (htmlEscape src).strlen + 1 := by
  have hcount : ∀ (bs : Bytes) (n : ℕ),
      bs.foldl (fun n b => if isCounted b then n + 4 else n) (bs.length + n) =
        (bs.flatMap escapeByte).length + n := by
    intro bs
    induction bs with
    | nil => exact fun _ => rfl
    | cons b bs ih =>
      intro n
      rw [List.foldl_cons, List.length_cons, List.flatMap_cons, List.length_append,
        escapeByte_length]
      split
      · rw [Nat.add_assoc, Nat.add_assoc, ih]
        omega
      · rw [Nat.add_assoc, ih]
        omega
  exact hcount src.bytes 1

/-- A round of the second pass. -/
theorem roundStores_eq (j : ℕ) (b : UInt8) : roundStores j b = memcpyStores j (escapeByte b) := by
  rw [roundStores, escapeByte]
  split <;> rfl

theorem passStores_eq (j : ℕ) (bs : Bytes) :
    passStores j bs = memcpyStores j (bs.flatMap escapeByte ++ [0]) := by
  induction bs generalizing j with
  | nil => rfl
  | cons b bs ih =>
    have hlen : (memcpyStores j (escapeByte b)).length = (escapeByte b).length := by
      rw [← List.length_map Prod.fst, map_fst_memcpyStores, List.length_range']
    rw [passStores, roundStores_eq, hlen, ih, List.flatMap_cons, List.append_assoc,
      memcpyStores_append j (escapeByte b)]

/-- **The second pass** stores the string and its NUL. -/
theorem htmlEscapeStores_eq (src : CString) :
    htmlEscapeStores src = memcpyStores 0 ((htmlEscape src).bytes ++ [0]) :=
  passStores_eq 0 src.bytes

/-- It stores to each byte of the block once, in order. -/
theorem htmlEscapeStores_offsets (src : CString) :
    (htmlEscapeStores src).map Prod.fst = List.range (escLen src) := by
  rw [htmlEscapeStores_eq, map_fst_memcpyStores, List.length_append, List.length_singleton,
    List.range_eq_range', escLen_eq, CString.strlen]

/-- The last store is the NUL. -/
theorem htmlEscapeStores_getLast? (src : CString) :
    (htmlEscapeStores src).getLast? = some (escLen src - 1, 0) := by
  rw [htmlEscapeStores_eq, memcpyStores_append, escLen_eq, Nat.zero_add]
  exact List.getLast?_concat ..

/-- What is in the block then. -/
theorem htmlEscapeStores_holdsAt (src : CString) (m : Mem) :
    (m.stores (htmlEscapeStores src)).HoldsAt 0 ((htmlEscape src).bytes ++ [0]) := by
  have hwrite := Mem.stores_memcpyStores m [] ((htmlEscape src).bytes ++ [0])
  rw [List.nil_append] at hwrite
  rw [htmlEscapeStores_eq]
  refine hwrite ▸ ?_
  have hholds := Mem.write_holdsAt m [] ((htmlEscape src).bytes ++ [0]) []
  rwa [List.append_nil, List.nil_append] at hholds

/-! ## The characters of the result -/

/-- The byte `k` of the result is in the reference for a character of the argument. -/
def InReference (src : CString) (k : ℕ) : Prop :=
  ∃ before b after, src.bytes = before ++ b :: after ∧ isSpecial b = true ∧
    (htmlEscape src).bytes =
      before.flatMap escapeByte ++ reference b ++ after.flatMap escapeByte ∧
    (before.flatMap escapeByte).length ≤ k ∧
      k < (before.flatMap escapeByte).length + (reference b).length

/-- A byte of the result is written for some character of the argument. -/
theorem exists_of_getElem?_flatMap {bs : Bytes} {k : ℕ} {c : UInt8}
    (h : (bs.flatMap escapeByte)[k]? = some c) :
    ∃ before b after, bs = before ++ b :: after ∧
      (before.flatMap escapeByte).length ≤ k ∧
      (escapeByte b)[k - (before.flatMap escapeByte).length]? = some c := by
  induction bs generalizing k with
  | nil => exact absurd h.symm (Option.some_ne_none _)
  | cons b bs ih =>
    rw [List.flatMap_cons] at h
    rcases Nat.lt_or_ge k (escapeByte b).length with hk | hk
    · rw [List.getElem?_append_left hk] at h
      exact ⟨[], b, bs, rfl, Nat.zero_le k, h⟩
    · rw [List.getElem?_append_right hk] at h
      obtain ⟨before, x, after, rfl, hle, hx⟩ := ih h
      have hlen : ((b :: before).flatMap escapeByte).length =
          (escapeByte b).length + (before.flatMap escapeByte).length := by
        rw [List.flatMap_cons, List.length_append]
      refine ⟨b :: before, x, after, rfl, ?_, ?_⟩
      · omega
      · rwa [hlen, ← Nat.sub_sub]

/-- **The characters of a reference** come from nowhere else. -/
theorem inReference_of_getElem? {src : CString} {k : ℕ} {c : UInt8}
    (h : (htmlEscape src).bytes[k]? = some c) (hc : c = 38 ∨ c = 35 ∨ c = 59) :
    InReference src k := by
  obtain ⟨before, b, after, hsrc, hle, hb⟩ := exists_of_getElem?_flatMap h
  have hspecial : isSpecial b = true := by
    by_contra hplain
    rw [escapeByte, if_neg hplain, List.getElem?_singleton] at hb
    split at hb
    · cases hb
      exact hplain (isSpecial_iff.2 (by rcases hc with h | h | h <;> simp [h]))
    · exact absurd hb.symm (Option.some_ne_none _)
  have hescape : escapeByte b = reference b := if_pos hspecial
  refine ⟨before, b, after, hsrc, hspecial, ?_, hle, ?_⟩
  · change src.bytes.flatMap escapeByte = _
    rw [hsrc, List.flatMap_append, List.flatMap_cons, hescape, List.append_assoc]
  · have hlt := (List.getElem?_eq_some_iff.1 hb).1
    rw [hescape] at hlt
    omega

/-! ## Reading it back -/

/-- Replace each `&#dd;` by the character with that number. -/
def undoReferences : Bytes → Bytes
  | 38 :: 35 :: d :: e :: 59 :: t =>
    if CharRef.isDigit d ∧ CharRef.isDigit e then
      (10 * (d - 48) + (e - 48)) :: undoReferences t
    else 38 :: undoReferences (35 :: d :: e :: 59 :: t)
  | b :: t => b :: undoReferences t
  | [] => []

/-- What is written for one character is read back as this character. -/
theorem undoReferences_escapeByte (b : UInt8) (rest : Bytes) :
    undoReferences (escapeByte b ++ rest) = b :: undoReferences rest := by
  rw [escapeByte]
  split
  · next h =>
    rcases isSpecial_iff.1 h with rfl | rfl | rfl | rfl | rfl | rfl <;> rfl
  · next h =>
    have hb : b ≠ 38 := fun h38 => h (by rw [h38]; decide)
    rw [List.singleton_append, undoReferences]
    exact fun _ _ _ h38 => absurd h38 hb

/-- **Each reference is read back**, and nothing else is taken for one. -/
theorem undoReferences_htmlEscape (src : CString) :
    undoReferences (htmlEscape src).bytes = src.bytes := by
  have hall : ∀ bs : Bytes, undoReferences (bs.flatMap escapeByte) = bs := by
    intro bs
    induction bs with
    | nil => rfl
    | cons b bs ih => rw [List.flatMap_cons, undoReferences_escapeByte, ih]
  exact hall src.bytes

/-- **`html_escape` is exact and can be undone**: its stores are to the bytes of the block, each once
and in order, the last one is the NUL, the string that they leave has no quote, double quote or
backslash in it and a `&`, `#` or `;` in references alone, and undoing the references gives the
argument. -/
theorem html_escape_exact (src : CString) (m : Mem) :
    (htmlEscapeStores src).map Prod.fst = List.range (escLen src) ∧
      (htmlEscapeStores src).getLast? = some (escLen src - 1, 0) ∧
      (m.stores (htmlEscapeStores src)).HoldsAt 0 ((htmlEscape src).bytes ++ [0]) ∧
      (∀ c ∈ [39, 34, 92], c ∉ (htmlEscape src).bytes) ∧
      (∀ k c, (htmlEscape src).bytes[k]? = some c → c ∈ [38, 35, 59] → InReference src k) ∧
      undoReferences (htmlEscape src).bytes = src.bytes := by
  refine ⟨htmlEscapeStores_offsets src, htmlEscapeStores_getLast? src,
    htmlEscapeStores_holdsAt src m, fun c hc => notMem_htmlEscape ?_ src,
    fun k c hk hc => inReference_of_getElem? hk ?_, undoReferences_htmlEscape src⟩
  · simpa using hc
  · simpa using hc

end EspFirewall
