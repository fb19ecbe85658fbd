import EspFirewall.Packet

/-!
# What the packet hook reads (`netif_hook.c`)

`ap_netif_input_hook` asks for 34 bytes, an Ethernet header and an IPv4 header without options.  The
ports of a TCP or UDP packet are behind that, at an offset that the IPv4 header gives, and whether
the frame goes that far is not looked at.

`hookReads` lists the offsets that the hook reads, and `apNetifInputHook_congr` says that there are no
others: what they hold decides what the hook does.  `hookReads_inside_iff` says which frames it stays
inside.
-/

set_option autoImplicit false

namespace EspFirewall

open CLang

/-- The offsets of the payload that `ap_netif_input_hook` reads: the type, the header fields, the
ports of TCP and UDP, and the source address, which `is_packet_allowed` compares. -/
def hookReads (p : Pbuf) : List ℕ :=
  if p.len < 34 then []
  else if p.payload 12 ≠ 0x08 then [12]
  else if p.payload 13 ≠ 0x00 then [12, 13]
  else [12, 13, 14 + 9, 14] ++
    ((if p.proto = IP_PROTO_TCP ∨ p.proto = IP_PROTO_UDP then List.range' p.transport 4 else []) ++
      List.range' 6 6)

/-- The ports of the packet are in the frame, if it has any. -/
def PortsInside (p : Pbuf) : Prop :=
  Ipv4Frame p → p.proto = IP_PROTO_TCP ∨ p.proto = IP_PROTO_UDP → p.transport + 4 ≤ p.len.toNat

theorem hookReads_of_ipv4 {p : Pbuf} (h : Ipv4Frame p) :
    hookReads p = [12, 13, 14 + 9, 14] ++
      ((if p.proto = IP_PROTO_TCP ∨ p.proto = IP_PROTO_UDP then List.range' p.transport 4 else []) ++
        List.range' 6 6) := by
  rw [hookReads, if_neg (Pbuf.not_len_lt_iff.2 h.long), if_neg (not_not.2 h.etherType.1),
    if_neg (not_not.2 h.etherType.2)]

/-- A frame that is not submitted is read up to its type. -/
theorem hookReads_of_not_ipv4 {p : Pbuf} (h : ¬ Ipv4Frame p) {k : ℕ} (hk : k ∈ hookReads p) :
    34 ≤ p.len.toNat ∧ k ≤ 13 := by
  rw [hookReads] at hk
  split at hk
  · exact absurd hk List.not_mem_nil
  next hlong =>
  have hlong := Pbuf.not_len_lt_iff.1 hlong
  refine ⟨hlong, ?_⟩
  split at hk
  · rw [List.mem_singleton.1 hk]
    decide
  next htype =>
  split at hk
  · rcases List.mem_cons.1 hk with rfl | hk
    · decide
    · rw [List.mem_singleton.1 hk]
  next htype' => exact absurd ⟨hlong, not_not.1 htype, not_not.1 htype'⟩ h

/-- **When the hook stays inside the frame**: exactly when the ports are there that it looks for. -/
theorem hookReads_inside_iff {p : Pbuf} (h : 34 ≤ p.len.toNat) :
    (∀ k ∈ hookReads p, k < p.len.toNat) ↔ PortsInside p := by
  by_cases hp : Ipv4Frame p
  swap
  · refine iff_of_true (fun k hk => ?_) fun hp' => absurd hp' hp
    exact Nat.lt_of_le_of_lt (hookReads_of_not_ipv4 hp hk).2 (Nat.lt_of_lt_of_le (by decide) h)
  rw [hookReads_of_ipv4 hp, PortsInside, forall_prop_of_true hp]
  by_cases htransport : p.proto = IP_PROTO_TCP ∨ p.proto = IP_PROTO_UDP
  · rw [if_pos htransport, forall_prop_of_true htransport]
    constructor
    · intro hinside
      have hlast : p.transport + 3 ∈ List.range' p.transport 4 := by
        rw [List.mem_range'_1]
        omega
      exact hinside _ (List.mem_append_right _ (List.mem_append_left _ hlast))
    · intro hports k hk
      simp only [List.mem_append, List.mem_cons, List.not_mem_nil, or_false, List.mem_range'_1] at hk
      omega
  · rw [if_neg htransport]
    refine iff_of_true (fun k hk => ?_) fun h => absurd h htransport
    simp only [List.mem_append, List.mem_cons, List.not_mem_nil, or_false, false_or,
      List.mem_range'_1] at hk
    omega

/-- The source address is among what is read. -/
theorem srcMac_congr {p q : Pbuf} (h : ∀ k, 6 ≤ k → k < 12 → p.payload k = q.payload k) :
    p.srcMac = q.srcMac := by
  refine congrArg Vector.ofFn (funext fun i => ?_)
  exact h _ (Nat.le_add_right 6 i) (by omega)

theorem mem_hookReads_type {p : Pbuf} (h : 34 ≤ p.len.toNat) :
    12 ∈ hookReads p ∧ (p.payload 12 = 0x08 → 13 ∈ hookReads p) := by
  rw [hookReads, if_neg (Pbuf.not_len_lt_iff.2 h)]
  constructor
  · split
    · exact List.mem_cons_self
    split
    · exact List.mem_cons_self
    · exact List.mem_append_left _ List.mem_cons_self
  · intro htype
    rw [if_neg (not_not.2 htype)]
    split
    · exact List.mem_cons_of_mem _ List.mem_cons_self
    · exact List.mem_append_left _ (List.mem_cons_of_mem _ List.mem_cons_self)

/-- The type of the frame is among what is read. -/
theorem ipv4Frame_congr {p q : Pbuf} (hlen : p.len = q.len)
    (hread : ∀ k ∈ hookReads p, p.payload k = q.payload k) : Ipv4Frame p ↔ Ipv4Frame q := by
  by_cases hlong : 34 ≤ p.len.toNat
  swap
  · exact iff_of_false (fun hp => hlong hp.long) fun hq => hlong (hlen ▸ hq.long)
  obtain ⟨h12, h13⟩ := mem_hookReads_type hlong
  constructor
  · intro hp
    refine ⟨hlen ▸ hp.long, ?_, ?_⟩
    · rw [← hread 12 h12, hp.etherType.1]
    · rw [← hread 13 (h13 hp.etherType.1), hp.etherType.2]
  · intro hq
    have htype : p.payload 12 = 0x08 := (hread 12 h12).trans hq.etherType.1
    exact ⟨hlong, htype, (hread 13 (h13 htype)).trans hq.etherType.2⟩

theorem Pbuf.ports_congr {p q : Pbuf} (hproto : p.proto = q.proto)
    (h : p.proto = IP_PROTO_TCP ∨ p.proto = IP_PROTO_UDP →
      p.srcPort = q.srcPort ∧ p.dstPort = q.dstPort) : p.ports = q.ports := by
  rw [Pbuf.ports, Pbuf.ports, ← hproto]
  split
  · next htcp => rw [(h (.inl htcp)).1, (h (.inl htcp)).2]
  split
  · next hudp => rw [(h (.inr hudp)).1, (h (.inr hudp)).2]
  · rfl

/-- The arguments of `is_packet_allowed` are read from the offsets. -/
theorem packet_congr {p q : Pbuf} (hp : Ipv4Frame p)
    (hread : ∀ k ∈ hookReads p, p.payload k = q.payload k) :
    p.srcMac = q.srcMac ∧ p.proto = q.proto ∧ p.ports = q.ports := by
  rw [hookReads_of_ipv4 hp] at hread
  simp only [List.mem_append, List.mem_cons, List.not_mem_nil, or_false] at hread
  have hproto : p.proto = q.proto := hread (14 + 9) (.inl (.inr (.inr (.inl rfl))))
  have hheader : p.payload 14 = q.payload 14 := hread 14 (.inl (.inr (.inr (.inr rfl))))
  refine ⟨srcMac_congr fun k hlo hhi => ?_, hproto, Pbuf.ports_congr hproto fun htransport => ?_⟩
  · exact hread k (.inr (.inr (List.mem_range'_1.2 ⟨hlo, hhi⟩)))
  · have hport (i : ℕ) (hi : i < 4) :
        p.payload (p.transport + i) = q.payload (p.transport + i) := by
      refine hread _ (.inr (.inl ?_))
      rw [if_pos htransport, List.mem_range'_1]
      omega
    have hstart : q.transport = p.transport := by
      rw [Pbuf.transport, Pbuf.transport, Pbuf.ipHl, Pbuf.ipHl, hheader]
    refine ⟨?_, ?_⟩
    · rw [Pbuf.srcPort, Pbuf.srcPort, hstart, ntohs_load16, ntohs_load16, hport 1 (by decide)]
      exact congrArg (bigEndian16 · _) (hport 0 (by decide))
    · rw [Pbuf.dstPort, Pbuf.dstPort, hstart, ntohs_load16, ntohs_load16, hport 2 (by decide)]
      exact congrArg (bigEndian16 _) (hport 3 (by decide))

/-- **What the hook reads decides what it does**: it hands both frames on or neither, and logs the
same. -/
theorem apNetifInputHook_congr {p q : Pbuf} (hlen : p.len = q.len)
    (hread : ∀ k ∈ hookReads p, p.payload k = q.payload k) (originalApInput : Option Pbuf → ℤ)
    (devices : DeviceTable) (s : ServiceFilter) :
    ((apNetifInputHook originalApInput devices s (some p)).calls = [.originalApInput (some p)] ↔
      (apNetifInputHook originalApInput devices s (some q)).calls = [.originalApInput (some q)]) ∧
    (apNetifInputHook originalApInput devices s (some p)).logs =
      (apNetifInputHook originalApInput devices s (some q)).logs := by
  have hframe := ipv4Frame_congr hlen hread
  by_cases hp : Ipv4Frame p
  · obtain ⟨hmac, hproto, hports⟩ := packet_congr hp hread
    rw [apNetifInputHook_of_ipv4 hp, apNetifInputHook_of_ipv4 (hframe.1 hp), hmac, hproto, hports]
    dsimp only
    split
    · exact ⟨iff_of_true rfl rfl, rfl⟩
    · exact ⟨iff_of_false (by simp) (by simp), rfl⟩
  · have hq : ¬ Ipv4Frame q := fun hq => hp (hframe.2 hq)
    rw [apNetifInputHook_of_not_ipv4 hp, apNetifInputHook_of_not_ipv4 hq]
    exact ⟨iff_of_true rfl rfl, rfl⟩

/-- A frame of some length with a TCP packet in it, whose IPv4 header has no options. -/
def tcpFrame (len : UInt16) : Pbuf :=
  ⟨len, fun i => if i = 12 then 0x08 else if i = 14 then 0x45 else if i = 23 then 6 else 0⟩

/-- The hook reads nothing behind the frame. -/
theorem hookReads_inside_tcp : ¬ ∃ k ∈ hookReads (tcpFrame 60), 60 ≤ k := by
  rintro ⟨k, hk, hle⟩
  have hinside := (hookReads_inside_iff (p := tcpFrame 60) (by decide)).2 fun _ _ => by decide
  exact Nat.not_lt.2 hle (hinside k hk)

/-- It does not if the frame ends with the IPv4 header. -/
theorem hookReads_outside : ¬ ∀ p : Pbuf, 34 ≤ p.len.toNat → ∀ k ∈ hookReads p, k < p.len.toNat := by
  intro h
  have hread : 34 ∈ hookReads (tcpFrame 34) := by decide
  exact absurd (h (tcpFrame 34) (by decide) 34 hread) (by decide)

end EspFirewall
