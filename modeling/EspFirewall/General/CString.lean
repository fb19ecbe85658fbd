import Mathlib.Data.List.TakeWhile
import Mathlib.Data.Nat.Bitwise
import Mathlib.Tactic.Common

/-!
# C strings, character arrays and memory

The parts of C's `<string.h>`, `<ctype.h>` and memory model that string-handling code relies on.

A `CString` is what a `const char *` argument denotes: the bytes before the first NUL, so a list
of bytes with no NUL in it.  A `CharBuf n` is a `char[n]` that holds a NUL-terminated string; that
the terminator fits is a field, so a string that is too long for its array cannot be built, and
`CharBuf.strncpy` is the one way to shorten one.  `Mem` is memory seen from a pointer: the byte at
every offset, with nothing said about how far the object extends.
-/

set_option autoImplicit false

namespace CLang

/-- A sequence of bytes. -/
abbrev Bytes := List UInt8

/-- The bytes of an ASCII string literal. -/
def ascii (s : String) : Bytes := s.toList.map fun c => c.val.toUInt8

/-! ## Strings -/

/-- A NUL-terminated string: the bytes before the terminator. -/
structure CString where
  /-- The bytes, without the terminator. -/
  bytes : Bytes
  /-- None of them is NUL. -/
  nulFree : 0 ∉ bytes
deriving DecidableEq

namespace CString

@[ext] theorem ext {s t : CString} (h : s.bytes = t.bytes) : s = t := by
  cases s; cases t; cases h; rfl

/-- The string that starts at the beginning of `m`: everything up to the first NUL. -/
def ofMem (m : Bytes) : CString :=
  ⟨m.takeWhile (· != 0), fun h => by simpa using List.mem_takeWhile_imp h⟩

/-- The empty string. -/
def empty : CString := ⟨[], List.not_mem_nil⟩

/-- An ASCII string literal. -/
def lit (s : String) : CString := ofMem (ascii s)

/-- `strlen`. -/
def strlen (s : CString) : ℕ := s.bytes.length

/-- The first `n` bytes of the string. -/
def take (n : ℕ) (s : CString) : CString :=
  ⟨s.bytes.take n, fun h => s.nulFree (List.mem_of_mem_take h)⟩

/-- One string after the other. -/
def append (s t : CString) : CString :=
  ⟨s.bytes ++ t.bytes, fun h => (List.mem_append.1 h).elim s.nulFree t.nulFree⟩

@[simp] theorem take_bytes (n : ℕ) (s : CString) : (s.take n).bytes = s.bytes.take n := rfl

@[simp] theorem append_bytes (s t : CString) : (s.append t).bytes = s.bytes ++ t.bytes := rfl

/-- Memory without a NUL is read as it stands. -/
theorem ofMem_bytes {m : Bytes} (h : 0 ∉ m) : (ofMem m).bytes = m := by
  rw [ofMem, List.takeWhile_eq_self_iff]
  intro b hb
  simpa using fun h0 : b = 0 => h (h0 ▸ hb)

theorem ofMem_of_nulFree {m : Bytes} (h : 0 ∉ m) : ofMem m = ⟨m, h⟩ := ext (ofMem_bytes h)

/-- What follows in memory can only make a string longer. -/
theorem ofMem_prefix (a b : Bytes) : (ofMem a).bytes <+: (ofMem (a ++ b)).bytes := by
  change a.takeWhile (· != 0) <+: (a ++ b).takeWhile (· != 0)
  rw [List.takeWhile_append]
  split
  · next hall => exact (List.takeWhile_prefix _).trans (List.prefix_append a _)
  · exact List.prefix_refl _

theorem take_eq_self {n : ℕ} {s : CString} (h : s.strlen ≤ n) : s.take n = s :=
  ext (List.take_of_length_le h)

end CString

/-- A `char[n]` that holds a NUL-terminated string. -/
structure CharBuf (n : ℕ) where
  /-- The string it holds. -/
  str : CString
  /-- There is room for the terminator. -/
  fits : str.bytes.length < n
deriving DecidableEq

namespace CharBuf

variable {n : ℕ} [NeZero n]

omit [NeZero n] in
@[ext] theorem ext {a b : CharBuf n} (h : a.str = b.str) : a = b := by
  cases a; cases b; cases h; rfl

/-- A zero-filled array. -/
def zero : CharBuf n := ⟨.empty, Nat.pos_of_neZero n⟩

/-- `strncpy(a, s, n - 1); a[n - 1] = '\0'` on an array of `n` bytes. -/
def strncpy (s : CString) : CharBuf n :=
  ⟨s.take (n - 1), by
    have hn := Nat.pos_of_neZero n
    have hle := List.length_take_le (n - 1) s.bytes
    rw [CString.take_bytes]
    omega⟩

@[simp] theorem strncpy_str (s : CString) : (strncpy s : CharBuf n).str = s.take (n - 1) := rfl

/-- A string that fits is copied whole. -/
theorem strncpy_str_of_lt {s : CString} (h : s.strlen < n) : (strncpy s : CharBuf n).str = s :=
  CString.take_eq_self (Nat.le_sub_one_of_lt h)

end CharBuf

/-! ## Upper and lower case -/

/-- `tolower` in the C locale. -/
def tolower (b : UInt8) : UInt8 := if 65 ≤ b ∧ b ≤ 90 then b + 32 else b

/-- `toupper` in the C locale. -/
def toupper (b : UInt8) : UInt8 := if 97 ≤ b ∧ b ≤ 122 then b - 32 else b

/-- Every byte in lower case. -/
def lower (s : Bytes) : Bytes := s.map tolower

/-- `strcasecmp(s, t) == 0`. -/
def strcaseEq (s t : CString) : Bool := lower s.bytes == lower t.bytes

theorem lower_drop (n : ℕ) (s : Bytes) : lower (s.drop n) = (lower s).drop n := List.map_drop ..

theorem strcaseEq_iff {s t : CString} :
    strcaseEq s t = true ↔ lower s.bytes = lower t.bytes := beq_iff_eq

theorem strcaseEq_refl (s : CString) : strcaseEq s s = true := strcaseEq_iff.2 rfl

theorem strcaseEq_comm (s t : CString) : strcaseEq s t = strcaseEq t s := by
  rw [Bool.eq_iff_iff, strcaseEq_iff, strcaseEq_iff, eq_comm]

/-- A byte that is neither a letter nor the image of one is left alone, and nothing else becomes
it. -/
theorem tolower_eq_iff {b c : UInt8} (hc : c < 65) : tolower b = c ↔ b = c := by
  rw [tolower]
  split
  · next h =>
    obtain ⟨h1, h2⟩ := h
    rw [UInt8.lt_iff_toNat_lt] at hc
    rw [UInt8.le_iff_toNat_le] at h1 h2
    rw [← UInt8.toNat_inj, ← UInt8.toNat_inj, UInt8.toNat_add]
    have e65 : (65 : UInt8).toNat = 65 := rfl
    have e90 : (90 : UInt8).toNat = 90 := rfl
    have e32 : (32 : UInt8).toNat = 32 := rfl
    omega
  · exact Iff.rfl

/-! ## Digits -/

/-- The value of a hexadecimal digit. -/
def hexValue (c : UInt8) : Option UInt8 :=
  if 48 ≤ c ∧ c ≤ 57 then some (c - 48)
  else if 65 ≤ c ∧ c ≤ 70 then some (c - 65 + 10)
  else if 97 ≤ c ∧ c ≤ 102 then some (c - 97 + 10)
  else none

/-! ## Memory -/

/-- Memory from a pointer on: the byte at each offset. -/
abbrev Mem := ℕ → UInt8

/-- `memcpy(m, data, data.length)`: the bytes of `data`, and behind them what was there before. -/
def Mem.write (m : Mem) (data : Bytes) : Mem := fun i => data.getD i (m i)

theorem Mem.write_getElem (m : Mem) {data : Bytes} {i : ℕ} (h : i < data.length) :
    m.write data i = data[i] := by
  rw [Mem.write, List.getD_eq_getElem _ _ h]

theorem Mem.write_of_getElem? {m : Mem} {data : Bytes} {i : ℕ} {b : UInt8} (h : data[i]? = some b) :
    m.write data i = b := by
  rw [Mem.write, List.getD_eq_getElem?_getD, h, Option.getD_some]

/-- What was there before does not show through the data. -/
theorem Mem.write_eq_write (m m' : Mem) {data : Bytes} {i : ℕ} (h : i < data.length) :
    m.write data i = m'.write data i := by rw [Mem.write_getElem m h, Mem.write_getElem m' h]

/-- The first part of the data. -/
theorem Mem.write_append_left (m : Mem) {a : Bytes} {i : ℕ} (h : i < a.length) (b : Bytes)
    (d : UInt8) : m.write (a ++ b) i = a.getD i d := by
  rw [Mem.write, List.getD_append _ _ _ _ h, List.getD_eq_getElem _ _ h, List.getD_eq_getElem _ _ h]

/-- The second part, and what is behind it. -/
theorem Mem.write_append_right (m : Mem) (a b : Bytes) (i : ℕ) :
    m.write (a ++ b) (a.length + i) = b.getD i (m (a.length + i)) := by
  rw [Mem.write, List.getD_append_right _ _ _ _ (Nat.le_add_right ..), Nat.add_sub_cancel_left]

/-- Memory after some bytes are stored, in order, each with its offset. -/
def Mem.stores (m : Mem) (stores : List (ℕ × UInt8)) : Mem :=
  stores.foldl (fun m w => Function.update m w.1 w.2) m

/-- The stores of `memcpy(m + o, data, data.length)`. -/
def memcpyStores : ℕ → Bytes → List (ℕ × UInt8)
  | _, [] => []
  | o, b :: bs => (o, b) :: memcpyStores (o + 1) bs

/-- They are at consecutive offsets. -/
theorem map_fst_memcpyStores (o : ℕ) (data : Bytes) :
    (memcpyStores o data).map Prod.fst = List.range' o data.length := by
  induction data generalizing o with
  | nil => rfl
  | cons b bs ih => rw [memcpyStores, List.map_cons, ih, List.length_cons, List.range'_succ]

theorem mem_memcpyStores {k o : ℕ} {data : Bytes} :
    k ∈ (memcpyStores o data).map Prod.fst ↔ o ≤ k ∧ k < o + data.length := by
  rw [map_fst_memcpyStores, List.mem_range'_1]

theorem memcpyStores_append (o : ℕ) (a b : Bytes) :
    memcpyStores o (a ++ b) = memcpyStores o a ++ memcpyStores (o + a.length) b := by
  induction a generalizing o with
  | nil => rfl
  | cons x a ih =>
    rw [List.cons_append, memcpyStores, memcpyStores, ih, List.cons_append, List.length_cons,
      Nat.add_right_comm, Nat.add_assoc]

theorem Mem.stores_append (m : Mem) (a b : List (ℕ × UInt8)) :
    m.stores (a ++ b) = (m.stores a).stores b := List.foldl_append

/-- **Frame rule**: memory is as before where nothing is stored. -/
theorem Mem.stores_of_notMem {m : Mem} {stores : List (ℕ × UInt8)} {k : ℕ}
    (h : k ∉ stores.map Prod.fst) : m.stores stores k = m k := by
  induction stores generalizing m with
  | nil => rfl
  | cons w ws ih =>
    rw [List.map_cons, List.mem_cons, not_or] at h
    exact (ih h.2).trans (Function.update_of_ne h.1 ..)

/-- A store into the data. -/
theorem Mem.update_write (m : Mem) {data : Bytes} {i : ℕ} (h : i < data.length) (b : UInt8) :
    Function.update (m.write data) i b = m.write (data.set i b) := by
  funext k
  rw [Function.update_apply, Mem.write, Mem.write, List.getD_eq_getElem?_getD,
    List.getD_eq_getElem?_getD, List.getElem?_set]
  split
  · next hk => rw [hk, if_pos rfl, Option.getD_some]
  · next hk => rw [if_neg (Ne.symm hk)]

/-- Some stores into the data. -/
theorem Mem.stores_write (m : Mem) {data : Bytes} {stores : List (ℕ × UInt8)}
    (h : ∀ w ∈ stores, w.1 < data.length) :
    (m.write data).stores stores =
      m.write (stores.foldl (fun data w => data.set w.1 w.2) data) := by
  induction stores generalizing data with
  | nil => rfl
  | cons w ws ih =>
    rw [List.forall_mem_cons] at h
    rw [Mem.stores, List.foldl_cons, List.foldl_cons, Mem.update_write m h.1]
    refine ih fun w hw => ?_
    rw [List.length_set]
    exact h.2 w hw

/-- A copy behind the data. -/
theorem Mem.stores_memcpyStores (m : Mem) (data bs : Bytes) :
    (m.write data).stores (memcpyStores data.length bs) = m.write (data ++ bs) := by
  induction bs generalizing data with
  | nil => rw [List.append_nil]; rfl
  | cons b bs ih =>
    have hstore : Function.update (m.write data) data.length b = m.write (data ++ [b]) := by
      funext k
      rw [Function.update_apply]
      rcases Nat.lt_trichotomy k data.length with hk | rfl | hk
      · rw [if_neg hk.ne, Mem.write_append_left m hk [b] (m k)]
        rfl
      · rw [if_pos rfl]
        exact (Mem.write_append_right m data [b] 0).symm
      · rw [if_neg hk.ne', Mem.write, Mem.write, List.getD_eq_default _ _ hk.le,
          List.getD_eq_default _ _ (by rw [List.length_append]; exact hk)]
    have hrest := ih (data ++ [b])
    rw [List.length_append, List.length_singleton, Mem.stores, ← List.append_cons] at hrest
    rw [memcpyStores, Mem.stores, List.foldl_cons, hstore, hrest]

/-- The `n` bytes from `o` on. -/
def Mem.slice (m : Mem) (o n : ℕ) : Bytes := (List.range n).map fun i => m (o + i)

/-- The bytes `bs` are in memory from `o` on. -/
def Mem.HoldsAt (m : Mem) (o : ℕ) (bs : Bytes) : Prop := m.slice o bs.length = bs

@[simp] theorem Mem.slice_length (m : Mem) (o n : ℕ) : (m.slice o n).length = n := by
  rw [Mem.slice, List.length_map, List.length_range]

theorem Mem.slice_congr {m m' : Mem} {o n : ℕ} (h : ∀ i < n, m (o + i) = m' (o + i)) :
    m.slice o n = m'.slice o n :=
  List.map_congr_left fun i hi => h i (List.mem_range.1 hi)

theorem Mem.slice_add (m : Mem) (o a b : ℕ) :
    m.slice o (a + b) = m.slice o a ++ m.slice (o + a) b := by
  simp only [Mem.slice, List.range_add, List.map_append, List.map_map, Function.comp_def,
    Nat.add_assoc]

theorem Mem.holdsAt_append {m : Mem} {o : ℕ} {a b : Bytes} :
    m.HoldsAt o (a ++ b) ↔ m.HoldsAt o a ∧ m.HoldsAt (o + a.length) b := by
  rw [Mem.HoldsAt, List.length_append, Mem.slice_add]
  exact ⟨fun h => List.append_inj h (Mem.slice_length ..), fun h => by rw [h.1, h.2]⟩

theorem Mem.holdsAt_cons {m : Mem} {o : ℕ} {b : UInt8} {bs : Bytes} :
    m.HoldsAt o (b :: bs) ↔ m o = b ∧ m.HoldsAt (o + 1) bs := by
  rw [← List.singleton_append, Mem.holdsAt_append]
  simp [Mem.HoldsAt, Mem.slice]

/-- Data just written is there, in all its parts. -/
theorem Mem.write_holdsAt (m : Mem) (a bs c : Bytes) :
    (m.write (a ++ bs ++ c)).HoldsAt a.length bs := by
  refine List.ext_getElem (Mem.slice_length ..) fun i _ hi => ?_
  simp only [Mem.slice, List.getElem_map, List.getElem_range]
  rw [Mem.write_getElem _ (by simp only [List.length_append]; omega)]
  simp [List.getElem_append_right, hi]

/-- The two bytes of a big-endian number. -/
def bigEndian16 (hi lo : UInt8) : UInt16 := UInt16.ofNat (256 * hi.toNat + lo.toNat)

/-- A `uint16_t` load on a little-endian machine. -/
def Mem.load16 (m : Mem) (i : ℕ) : UInt16 :=
  UInt16.ofNat ((m i).toNat + 256 * (m (i + 1)).toNat)

/-- `ntohs` on a little-endian machine: swap the two bytes. -/
def ntohs (x : UInt16) : UInt16 := (x <<< 8) ||| (x >>> 8)

/-- **`ntohs` of a load is the big-endian number in memory.** -/
theorem ntohs_load16 (m : Mem) (i : ℕ) :
    ntohs (m.load16 i) = bigEndian16 (m i) (m (i + 1)) := by
  have ha : (m i).toNat < 256 := UInt8.toNat_lt _
  have hb : (m (i + 1)).toNat < 256 := UInt8.toNat_lt _
  have hload : (m.load16 i).toNat = (m i).toNat + 256 * (m (i + 1)).toNat := by
    rw [Mem.load16, UInt16.toNat_ofNat']
    exact Nat.mod_eq_of_lt (by omega)
  have hhi : (m.load16 i <<< 8).toNat = (m i).toNat <<< 8 := by
    rw [UInt16.toNat_shiftLeft, hload]
    simp only [UInt16.toNat_ofNat, Nat.reducePow, Nat.reduceMod, Nat.shiftLeft_eq]
    omega
  have hlo : (m.load16 i >>> 8).toNat = (m (i + 1)).toNat := by
    rw [UInt16.toNat_shiftRight, hload]
    simp only [UInt16.toNat_ofNat, Nat.reducePow, Nat.reduceMod, Nat.shiftRight_eq_div_pow]
    omega
  rw [← UInt16.toNat_inj, ntohs, UInt16.toNat_or, hhi, hlo,
    ← Nat.shiftLeft_add_eq_or_of_lt (by simpa using hb), Nat.shiftLeft_eq, bigEndian16,
    UInt16.toNat_ofNat', Nat.mod_eq_of_lt (by omega)]
  omega

end CLang
