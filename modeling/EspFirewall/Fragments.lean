import EspFirewall.Packet

/-!
# Fragmented datagrams

A TCP or UDP datagram may arrive in fragments.  Each is an IPv4 packet of its own, with the header
of the datagram but for the lengths, the fragment offset, the flags, the checksum and some of the
options, and with a part of its payload; the transport header, and with it the ports, is in the
first.

`ap_netif_input_hook` does not look at the fragment offset.  It takes the first four bytes behind
the IP header for the two ports in every fragment, and for a last fragment shorter than that what
is in memory behind it (`Piece.readPort`).  So a later fragment is let through or dropped by what
the sender's data look like: `fragments_forwarded_iff` says when that makes a difference.
-/

set_option autoImplicit false

namespace EspFirewall

open CLang

/-! ## Datagrams and frames -/

/-- A TCP or UDP datagram with a complete transport header, and the addresses of the frame it comes
in; whole, it fits a packet buffer, whose length has 16 bits. -/
structure Datagram where
  dst : Mac
  src : Mac
  /-- The IPv4 header, with its options. -/
  header : Bytes
  payload : Bytes
  headerLength : header.length = 4 * (header.getD 0 0 &&& 0x0f).toNat
  headerLong : 20 ≤ header.length
  complete : (header.getD 9 0 = IP_PROTO_TCP ∧ 20 ≤ payload.length) ∨
    (header.getD 9 0 = IP_PROTO_UDP ∧ 8 ≤ payload.length)
  fits : 14 + header.length + payload.length < 2 ^ 16

/-- Write a 16-bit number in network order. -/
def putBigEndian16 (i x : ℕ) (h : Bytes) : Bytes :=
  (h.set i (UInt8.ofNat (x / 256))).set (i + 1) (UInt8.ofNat x)

/-- The header of a fragment of `len` bytes at an offset: the header length, the total length, the
flag for more fragments with the offset in units of eight bytes, the checksum and the options are
its own. -/
def fragmentHeader (h options : Bytes) (offset : ℕ) (more : Bool) (len : ℕ) (checksum : UInt16) :
    Bytes :=
  (putBigEndian16 10 checksum.toNat <|
    putBigEndian16 6 ((if more then 0x2000 else 0) + offset / 8) <|
      putBigEndian16 2 (20 + options.length + len) <|
        (h.take 20).set 0 (UInt8.ofNat (0x45 + options.length / 4))) ++ options

/-- A part of a payload, with the options and the checksum of its fragment and what is in memory
where the fragment is received.  Not all options of a datagram are copied into every fragment. -/
structure Piece where
  data : Bytes
  options : Bytes
  checksum : UInt16
  stale : Mem

/-- What the hook takes for the destination port of a fragment. -/
def Piece.readPort (q : Piece) : UInt16 :=
  bigEndian16 (q.data.getD 2 (q.stale (14 + (20 + q.options.length) + 2)))
    (q.data.getD 3 (q.stale (14 + (20 + q.options.length) + 3)))

namespace Datagram

/-- The Ethernet header. -/
def etherHeader (d : Datagram) : Bytes := d.dst.toList ++ d.src.toList ++ [0x08, 0x00]

/-- A received frame with the given IPv4 header and data. -/
def frame (d : Datagram) (header data : Bytes) (stale : Mem) : Pbuf :=
  ⟨UInt16.ofNat (14 + header.length + data.length), stale.write (d.etherHeader ++ header ++ data)⟩

/-- The frame of the datagram when it is not fragmented. -/
def whole (d : Datagram) (stale : Mem) : Pbuf := d.frame d.header d.payload stale

/-- The frames of the fragments with the given data, from an offset on. -/
def fragments (d : Datagram) : ℕ → List Piece → List Pbuf
  | _, [] => []
  | offset, q :: qs =>
    d.frame (fragmentHeader d.header q.options offset (!qs.isEmpty) q.data.length q.checksum)
      q.data q.stale :: fragments d (offset + q.data.length) qs

/-- The protocol of the datagram. -/
def proto (d : Datagram) : UInt8 := d.header.getD 9 0

/-- The destination port of the datagram. -/
def dstPort (d : Datagram) : UInt16 := bigEndian16 (d.payload.getD 2 0) (d.payload.getD 3 0)

/-- A way of cutting the payload: no part is empty, and all but the last have a length that is a
multiple of eight.  The options of a fragment are at most as many as those of the datagram. -/
structure Cutting (d : Datagram) where
  pieces : List Piece
  joins : (pieces.map Piece.data).flatten = d.payload
  nonempty : ∀ q ∈ pieces, q.data ≠ []
  aligned : ∀ q ∈ pieces.dropLast, 8 ∣ q.data.length
  options : ∀ q ∈ pieces, 4 ∣ q.options.length ∧ 20 + q.options.length ≤ d.header.length

/-! ## What the hook reads from a frame -/

theorem etherHeader_length (d : Datagram) : d.etherHeader.length = 14 := by
  simp [etherHeader]

theorem etherHeader_src (d : Datagram) (i : Fin 6) :
    d.etherHeader.getD (6 + i.val) 0 = d.src[i.val] := by
  have hi := i.isLt
  have hdst : d.dst.toList.length = 6 := Vector.length_toList
  have hsrc : d.src.toList.length = 6 := Vector.length_toList
  rw [etherHeader, List.append_assoc, List.getD_append_right _ _ _ _ (by omega), hdst,
    Nat.add_sub_cancel_left, List.getD_append _ _ _ _ (by omega),
    List.getD_eq_getElem _ _ (by omega), Vector.getElem_toList]

theorem etherHeader_type (d : Datagram) (i : ℕ) :
    d.etherHeader.getD (12 + i) 0 = [0x08, 0x00].getD i 0 := by
  have hlen : (d.dst.toList ++ d.src.toList).length = 12 := by simp
  rw [etherHeader, List.getD_append_right _ _ _ _ (by omega), hlen, Nat.add_sub_cancel_left]

/-- A header that agrees with the datagram's where the hook looks at it, but may be shorter. -/
structure HeaderLike (d : Datagram) (h : Bytes) : Prop where
  length : h.length = 4 * (h.getD 0 0 &&& 0x0f).toNat
  long : 20 ≤ h.length
  le : h.length ≤ d.header.length
  proto : h.getD 9 0 = d.header.getD 9 0

theorem headerLike_self (d : Datagram) : d.HeaderLike d.header :=
  ⟨d.headerLength, d.headerLong, Nat.le_refl _, rfl⟩

theorem header_le (d : Datagram) : d.header.length ≤ 60 := by
  have hnibble : ∀ x : UInt8, (x &&& 0x0f).toNat ≤ 15 := fun x =>
    (UInt8.toNat_and x 0x0f).trans_le Nat.and_le_right
  have hlength := d.headerLength
  have hle := hnibble (d.header.getD 0 0)
  omega

theorem putBigEndian16_getD {i j : ℕ} (hi : j ≠ i) (hi' : j ≠ i + 1) (x : ℕ) (h : Bytes) :
    (putBigEndian16 i x h).getD j 0 = h.getD j 0 := by
  rw [putBigEndian16, List.getD_eq_getElem?_getD, List.getElem?_set_ne (Ne.symm hi'),
    List.getElem?_set_ne (Ne.symm hi), ← List.getD_eq_getElem?_getD]

theorem putBigEndian16_length (i x : ℕ) (h : Bytes) : (putBigEndian16 i x h).length = h.length := by
  rw [putBigEndian16, List.length_set, List.length_set]

theorem fragmentHeader_length (d : Datagram) (options : Bytes) (offset : ℕ) (more : Bool) (len : ℕ)
    (checksum : UInt16) :
    (fragmentHeader d.header options offset more len checksum).length = 20 + options.length := by
  rw [fragmentHeader, List.length_append, putBigEndian16_length, putBigEndian16_length,
    putBigEndian16_length, List.length_set, List.length_take, Nat.min_eq_left d.headerLong]

/-- The bytes of the fixed part that the fragment has in common with the datagram, but for the first
byte. -/
theorem fragmentHeader_getD (d : Datagram) (options : Bytes) (offset : ℕ) (more : Bool) (len : ℕ)
    (checksum : UInt16) {j : ℕ} (hj : j < 20) (h2 : j ≠ 2 ∧ j ≠ 3) (h6 : j ≠ 6 ∧ j ≠ 7)
    (h10 : j ≠ 10 ∧ j ≠ 11) :
    (fragmentHeader d.header options offset more len checksum).getD j 0 =
      ((d.header.take 20).set 0 (UInt8.ofNat (0x45 + options.length / 4))).getD j 0 := by
  have hlong := d.headerLong
  rw [fragmentHeader, List.getD_append _ _ _ _ (by
      rw [putBigEndian16_length, putBigEndian16_length, putBigEndian16_length, List.length_set,
        List.length_take]
      omega),
    putBigEndian16_getD h10.1 h10.2, putBigEndian16_getD h6.1 h6.2, putBigEndian16_getD h2.1 h2.2]

theorem headerLike_fragment (d : Datagram) {options : Bytes}
    (hoptions : 4 ∣ options.length ∧ 20 + options.length ≤ d.header.length) (offset : ℕ)
    (more : Bool) (len : ℕ) (checksum : UInt16) :
    d.HeaderLike (fragmentHeader d.header options offset more len checksum) := by
  obtain ⟨⟨k, hk⟩, hle⟩ := hoptions
  have hlength := d.fragmentHeader_length options offset more len checksum
  have hlong := d.headerLong
  have hfirst : (fragmentHeader d.header options offset more len checksum).getD 0 0 =
      UInt8.ofNat (0x45 + k) := by
    rw [d.fragmentHeader_getD options offset more len checksum (by decide) (by decide) (by decide)
      (by decide), List.getD_eq_getElem?_getD, List.getElem?_set_self, Option.getD_some, hk,
      Nat.mul_div_cancel_left k (by decide)]
    rw [List.length_take]
    omega
  refine ⟨?_, ?_, ?_, ?_⟩
  · have hnibble : ∀ k : Fin 11, (UInt8.ofNat (0x45 + k.val) &&& 0x0f).toNat = 5 + k.val := by decide
    have hk' : k < 11 := by
      have := d.header_le
      omega
    have hihl : (UInt8.ofNat (0x45 + k) &&& 0x0f).toNat = 5 + k := hnibble ⟨k, hk'⟩
    rw [hlength, hfirst, hihl, hk]
    omega
  · omega
  · omega
  · rw [d.fragmentHeader_getD options offset more len checksum (by decide) (by decide) (by decide)
      (by decide), List.getD_eq_getElem?_getD, List.getElem?_set_ne (by decide),
      List.getElem?_take_of_lt (by decide), List.getD_eq_getElem?_getD]

variable {d : Datagram} {h : Bytes}

theorem frame_header {i : ℕ} (hi : i < h.length) (data : Bytes) (stale : Mem) :
    (d.frame h data stale).payload (14 + i) = h.getD i 0 := by
  have hlen := d.etherHeader_length
  have hright := stale.write_append_right d.etherHeader (h ++ data) i
  rw [hlen, ← List.append_assoc] at hright
  refine hright.trans ?_
  rw [List.getD_append _ _ _ _ hi, List.getD_eq_getElem _ _ hi, List.getD_eq_getElem _ _ hi]

theorem frame_data (data : Bytes) (stale : Mem) (i : ℕ) :
    (d.frame h data stale).payload (14 + h.length + i) =
      data.getD i (stale (14 + h.length + i)) := by
  have hlen : (d.etherHeader ++ h).length = 14 + h.length := by
    rw [List.length_append, d.etherHeader_length]
  rw [frame, ← hlen]
  exact stale.write_append_right _ _ _

theorem frame_ether {i : ℕ} (hi : i < 14) (data : Bytes) (stale : Mem) :
    (d.frame h data stale).payload i = d.etherHeader.getD i 0 := by
  rw [frame, List.append_assoc]
  exact stale.write_append_left (by rw [d.etherHeader_length]; exact hi) _ 0

theorem frame_srcMac (data : Bytes) (stale : Mem) : (d.frame h data stale).srcMac = d.src := by
  refine Vector.ext fun i hi => ?_
  rw [Pbuf.srcMac, Vector.getElem_ofFn, frame_ether (by omega)]
  exact d.etherHeader_src ⟨i, hi⟩

theorem frame_proto (hh : d.HeaderLike h) (data : Bytes) (stale : Mem) :
    (d.frame h data stale).proto = d.proto := by
  have hlong := hh.long
  rw [Pbuf.proto, frame_header (by omega), hh.proto, Datagram.proto]

/-- The hook finds the data behind the header. -/
theorem frame_dstPort (hh : d.HeaderLike h) (data : Bytes) (stale : Mem) :
    (d.frame h data stale).dstPort = bigEndian16 (data.getD 2 (stale (14 + h.length + 2)))
      (data.getD 3 (stale (14 + h.length + 3))) := by
  have hlong := hh.long
  have hihl : 4 * (d.frame h data stale).ipHl.toNat = h.length := by
    have hbyte := frame_header (d := d) (show 0 < h.length by omega) data stale
    rw [Pbuf.ipHl, show (d.frame h data stale).payload 14 = _ from hbyte]
    exact hh.length.symm
  rw [Pbuf.dstPort_eq, hihl, frame_data, frame_data]

/-- Every frame of the datagram is one the hook submits. -/
theorem frame_ipv4 (hh : d.HeaderLike h) {data : Bytes} (hdata : data.length ≤ d.payload.length)
    (stale : Mem) : Ipv4Frame (d.frame h data stale) := by
  have hfits := d.fits
  have hlong := hh.long
  have hle := hh.le
  refine ⟨?_, ?_, ?_⟩
  · rw [frame, UInt16.toNat_ofNat', Nat.mod_eq_of_lt (by omega)]
    omega
  · rw [frame_ether (by decide)]
    exact d.etherHeader_type 0
  · rw [frame_ether (by decide)]
    exact d.etherHeader_type 1

/-! ## What gets through -/

/-- The hook hands the frame on. -/
def Forwarded (originalApInput : Option Pbuf → ℤ) (devices : DeviceTable) (filter : ServiceFilter)
    (p : Pbuf) : Prop :=
  (apNetifInputHook originalApInput devices filter (some p)).calls = [.originalApInput (some p)]

/-- The packet filter lets the sender of the datagram use the port. -/
def PortOpen (devices : DeviceTable) (filter : ServiceFilter) (d : Datagram) (port : UInt16) :
    Prop :=
  d.src = adminMac ∨ (devices.statusOf d.src ≠ .blocked ∧
    serviceIsPortAllowed filter d.proto port = true)

theorem proto_transport (d : Datagram) : d.proto = IP_PROTO_TCP ∨ d.proto = IP_PROTO_UDP :=
  d.complete.imp And.left And.left

theorem isPacketAllowed_iff_portOpen (devices : DeviceTable) (filter : ServiceFilter)
    (d : Datagram) (srcPort port : UInt16) :
    (isPacketAllowed devices filter d.src d.proto srcPort port).1 = true ↔
      PortOpen devices filter d port := by
  rw [isPacketAllowed, if_pos d.proto_transport, PortOpen]
  by_cases hadmin : d.src = adminMac
  · simp [hadmin]
  by_cases hblocked : devices.statusOf d.src = .blocked
  · simp [hadmin, hblocked]
  rcases hallowed : serviceIsPortAllowed filter d.proto port with _ | _
  · simp [hadmin, hblocked]
  · simp [hadmin, hblocked]

/-- **A frame of the datagram is judged by the four bytes behind its header.** -/
theorem frame_forwarded_iff (originalApInput : Option Pbuf → ℤ) (devices : DeviceTable)
    (filter : ServiceFilter) (hh : d.HeaderLike h) {data : Bytes}
    (hdata : data.length ≤ d.payload.length) (stale : Mem) :
    Forwarded originalApInput devices filter (d.frame h data stale) ↔
      PortOpen devices filter d (bigEndian16 (data.getD 2 (stale (14 + h.length + 2)))
        (data.getD 3 (stale (14 + h.length + 3)))) := by
  have htransport : (d.frame h data stale).proto = IP_PROTO_TCP ∨
      (d.frame h data stale).proto = IP_PROTO_UDP := by
    rw [frame_proto hh]
    exact d.proto_transport
  rw [Forwarded, apNetifInputHook_ipv4 (frame_ipv4 hh hdata stale), Pbuf.ports_snd htransport,
    frame_srcMac, frame_proto hh, frame_dstPort hh, ← isPacketAllowed_iff_portOpen devices filter d
      (d.frame h data stale).ports.1]
  split <;> simp_all

theorem whole_forwarded_iff (originalApInput : Option Pbuf → ℤ) (devices : DeviceTable)
    (filter : ServiceFilter) (d : Datagram) (stale : Mem) :
    Forwarded originalApInput devices filter (d.whole stale) ↔
      PortOpen devices filter d d.dstPort := by
  have hlen : 8 ≤ d.payload.length := by
    rcases d.complete with h | h <;> omega
  rw [whole, frame_forwarded_iff _ _ _ d.headerLike_self (Nat.le_refl _), dstPort,
    List.getD_eq_getElem _ _ (by omega : 2 < d.payload.length),
    List.getD_eq_getElem _ _ (by omega : 3 < d.payload.length),
    List.getD_eq_getElem _ _ (by omega : 2 < d.payload.length),
    List.getD_eq_getElem _ _ (by omega : 3 < d.payload.length)]

theorem fragments_forwarded {originalApInput : Option Pbuf → ℤ} {devices : DeviceTable}
    {filter : ServiceFilter} (d : Datagram) (offset : ℕ) (qs : List Piece)
    (hqs : ∀ q ∈ qs, q.data.length ≤ d.payload.length)
    (hoptions : ∀ q ∈ qs, 4 ∣ q.options.length ∧ 20 + q.options.length ≤ d.header.length) :
    (∀ p ∈ d.fragments offset qs, Forwarded originalApInput devices filter p) ↔
      ∀ q ∈ qs, PortOpen devices filter d (q.readPort) := by
  induction qs generalizing offset with
  | nil => simp [fragments]
  | cons q qs ih =>
    rw [fragments, List.forall_mem_cons, List.forall_mem_cons,
      frame_forwarded_iff _ _ _ (d.headerLike_fragment (hoptions q List.mem_cons_self) ..)
        (hqs q List.mem_cons_self),
      ih _ (fun r hr => hqs r (List.mem_cons_of_mem q hr))
        fun r hr => hoptions r (List.mem_cons_of_mem q hr),
      fragmentHeader_length, Piece.readPort]

namespace Cutting

theorem length_le (c : d.Cutting) : ∀ q ∈ c.pieces, q.data.length ≤ d.payload.length := by
  intro q hq
  rw [← c.joins]
  exact (List.sublist_flatten_of_mem (List.mem_map_of_mem hq)).length_le

/-- There is a first piece, and it has the port of the datagram. -/
theorem exists_first (c : d.Cutting) :
    ∃ q qs, c.pieces = q :: qs ∧ q.readPort = d.dstPort := by
  have hlen : 8 ≤ d.payload.length := by
    rcases d.complete with h | h <;> omega
  obtain ⟨pieces, hjoins, hnonempty, haligned, -⟩ := c
  rcases pieces with _ | ⟨q, qs⟩
  · rw [← hjoins] at hlen
    exact absurd hlen (by decide)
  rw [List.map_cons, List.flatten_cons] at hjoins
  have hfirst : 8 ≤ q.data.length := by
    rcases qs with _ | ⟨r, qs⟩
    · rw [List.map_nil, List.flatten_nil, List.append_nil] at hjoins
      rwa [hjoins]
    · obtain ⟨k, hk⟩ := haligned q List.mem_cons_self
      have hpos := List.length_pos_of_ne_nil (hnonempty q List.mem_cons_self)
      omega
  refine ⟨q, qs, rfl, ?_⟩
  have hget : ∀ i < 4, ∀ x, q.data.getD i x = d.payload.getD i 0 := by
    intro i hi x
    rw [← hjoins, List.getD_append _ _ _ _ (by omega), List.getD_eq_getElem _ _ (by omega),
      List.getD_eq_getElem _ _ (by omega)]
  rw [Piece.readPort, dstPort, hget 2 (by decide), hget 3 (by decide)]

/-- The fragments all get through when the datagram would and every later piece looks like it. -/
theorem forwarded_iff (c : d.Cutting) (originalApInput : Option Pbuf → ℤ) (devices : DeviceTable)
    (filter : ServiceFilter) :
    (∀ p ∈ d.fragments 0 c.pieces, Forwarded originalApInput devices filter p) ↔
      PortOpen devices filter d d.dstPort ∧
        ∀ q ∈ c.pieces.tail, PortOpen devices filter d (q.readPort) := by
  obtain ⟨q, qs, hpieces, hport⟩ := c.exists_first
  rw [fragments_forwarded d 0 c.pieces c.length_le c.options, hpieces, List.forall_mem_cons, hport,
    List.tail_cons]

end Cutting

/-- **When fragmenting makes no difference.**  The hook hands on all fragments of a datagram exactly
when it hands on the datagram, precisely when the sender is the admin or blocked, or the port of the
datagram is closed, or the service filter allows what stands at the place of the destination port in
every later fragment. -/
theorem fragments_forwarded_iff (originalApInput : Option Pbuf → ℤ) (devices : DeviceTable)
    (filter : ServiceFilter) (d : Datagram) (c : d.Cutting) (stale : Mem) :
    ((∀ p ∈ d.fragments 0 c.pieces, Forwarded originalApInput devices filter p) ↔
      Forwarded originalApInput devices filter (d.whole stale)) ↔
    d.src = adminMac ∨ devices.statusOf d.src = .blocked ∨
      serviceIsPortAllowed filter d.proto d.dstPort = false ∨
      ∀ q ∈ c.pieces.tail, serviceIsPortAllowed filter d.proto (q.readPort) = true := by
  rw [c.forwarded_iff, whole_forwarded_iff]
  simp only [PortOpen]
  by_cases hadmin : d.src = adminMac
  · simp [hadmin]
  by_cases hblocked : devices.statusOf d.src = .blocked
  · simp [hadmin, hblocked]
  rcases hport : serviceIsPortAllowed filter d.proto d.dstPort with _ | _
  · simp [hadmin]
  · simp [hadmin, hblocked]

/-- A UDP datagram to port 9999 with 16 bytes of data, the last 8 of them with a 53 at the place of
a destination port. -/
def toPort9999 : Datagram where
  dst := #v[2, 0, 0, 0, 0, 254]
  src := stationMac
  header := [0x45, 0, 0, 44, 0, 1, 0, 0, 64, 17, 0, 0, 192, 168, 4, 2, 203, 0, 113, 7]
  payload := [0x30, 0x39, 0x27, 0x0F, 0, 24, 0, 0, 1, 2, 3, 4, 5, 6, 7, 8, 0, 0, 0, 53, 0, 0, 0, 0]
  headerLength := by decide
  headerLong := by decide
  complete := by decide
  fits := by decide

/-- It is cut before these 8 bytes. -/
def cutAt16 : toPort9999.Cutting where
  pieces := [⟨toPort9999.payload.take 16, [], 0, fun _ => 0⟩,
    ⟨toPort9999.payload.drop 16, [], 0, fun _ => 0⟩]
  joins := by decide
  nonempty := by decide
  aligned := by decide
  options := by decide

/-- With DNS blocked, the datagram gets through, and its second fragment does not. -/
theorem fragment_dropped : ¬ ∀ (originalApInput : Option Pbuf → ℤ) (devices : DeviceTable)
    (filter : ServiceFilter) (d : Datagram) (c : d.Cutting) (stale : Mem),
    (∀ p ∈ d.fragments 0 c.pieces, Forwarded originalApInput devices filter p) ↔
      Forwarded originalApInput devices filter (d.whole stale) := by
  intro h
  have hiff := h (fun _ => 0) .empty
    (serviceSetBlocked .ok 2 true (bootServiceFilter .ok .empty)) toPort9999 cutAt16 fun _ => 0
  rw [cutAt16.forwarded_iff, whole_forwarded_iff] at hiff
  have hwhole : PortOpen .empty (serviceSetBlocked .ok 2 true (bootServiceFilter .ok .empty))
      toPort9999 toPort9999.dstPort := .inr ⟨by decide, by decide +kernel⟩
  rcases (hiff.2 hwhole).2 ⟨toPort9999.payload.drop 16, [], 0, fun _ => 0⟩ (by
    rw [cutAt16, List.tail_cons]
    exact List.mem_singleton_self _) with hadmin | ⟨-, hopen⟩
  · exact absurd hadmin (by decide)
  · exact absurd hopen (by decide +kernel)

end Datagram

end EspFirewall
