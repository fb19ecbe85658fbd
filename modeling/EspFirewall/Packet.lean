import EspFirewall.Devices
import EspFirewall.ServiceFilter.Reachable

/-!
# The packet hook (`packet_filter.c`, `netif_hook.c`)

Every frame that arrives on the access point's interface goes through `ap_netif_input_hook`, which
hands it to the original input function or frees it.  The hook submits only IPv4 frames of at least
34 bytes to the packet filter, and hands all others on.  The filter lets the admin MAC through,
drops what comes from a blocked device, and asks the service filter about TCP and UDP.

`FramePolicy` is that policy, without the parsing and with the tables in the place of the loops over
them; `apNetifInputHook_ipv4` says that the hook enforces it.
-/

set_option autoImplicit false

namespace EspFirewall

open CLang

/-! ## The packet filter -/

/-- `IP_PROTO_TCP`. -/
abbrev IP_PROTO_TCP : UInt8 := 6

/-- `IP_PROTO_UDP`. -/
abbrev IP_PROTO_UDP : UInt8 := 17

/-- `admin_mac`. -/
def adminMac : Mac := #v[0x8C, 0x1D, 0x96, 0x5F, 0x7D, 0xA5]

/-- `is_packet_allowed`, with the log calls it makes. -/
def isPacketAllowed (devices : DeviceTable) (filter : ServiceFilter) (srcMac : Mac)
    (protocol : UInt8) (_srcPort dstPort : UInt16) : Bool × List LogCall :=
  if srcMac = adminMac then (true, [])
  else if devices.statusOf srcMac = .blocked then (false, [])
  else if protocol = IP_PROTO_TCP ∨ protocol = IP_PROTO_UDP then
    if serviceIsPortAllowed filter protocol dstPort then (true, [])
    else (false, [.fmt "Service BLOCK proto=%d port=%d"
      [.int protocol.toNat, .int dstPort.toNat]])
  else (true, [])

/-! ## The hook -/

/-- A `struct pbuf`: the length of its first buffer, and memory from the payload pointer on. -/
structure Pbuf where
  len : UInt16
  payload : Mem

/-- What the hook does with a frame. -/
inductive HookCall
  /-- `original_ap_input(p, inp)`. -/
  | originalApInput (p : Option Pbuf)
  /-- `pbuf_free(p)`. -/
  | pbufFree (p : Pbuf)

/-- Everything one call of the hook does. -/
structure HookResult where
  /-- What it does with the frame. -/
  calls : List HookCall
  /-- What it returns. -/
  err : ℤ
  /-- Its log calls. -/
  logs : List LogCall

/-- The source address, at offset 6 of the Ethernet header. -/
def Pbuf.srcMac (p : Pbuf) : Mac := Vector.ofFn fun i => p.payload (6 + i.val)

/-- `IPH_PROTO`: the protocol field of the IPv4 header. -/
def Pbuf.proto (p : Pbuf) : UInt8 := p.payload (14 + 9)

/-- `IPH_HL`: the length of the IPv4 header in words. -/
def Pbuf.ipHl (p : Pbuf) : UInt8 := p.payload 14 &&& 0x0f

/-- Where the transport header starts. -/
def Pbuf.transport (p : Pbuf) : ℕ := 14 + p.ipHl.toNat * 4

/-- `tcphdr->src` and `udphdr->src`, in host order. -/
def Pbuf.srcPort (p : Pbuf) : UInt16 := ntohs (p.payload.load16 p.transport)

/-- `tcphdr->dest` and `udphdr->dest`, in host order. -/
def Pbuf.dstPort (p : Pbuf) : UInt16 := ntohs (p.payload.load16 (p.transport + 2))

/-- `src_port` and `dst_port`: read from the transport header, or zero. -/
def Pbuf.ports (p : Pbuf) : UInt16 × UInt16 :=
  if p.proto = IP_PROTO_TCP then (p.srcPort, p.dstPort)
  else if p.proto = IP_PROTO_UDP then (p.srcPort, p.dstPort)
  else (0, 0)

/-- `ap_netif_input_hook`, given the function it replaced. -/
def apNetifInputHook (originalApInput : Option Pbuf → ℤ) (devices : DeviceTable)
    (filter : ServiceFilter) : Option Pbuf → HookResult
  | none => ⟨[.originalApInput none], originalApInput none, []⟩
  | some p =>
    let pass (logs : List LogCall) : HookResult :=
      ⟨[.originalApInput (some p)], originalApInput (some p), logs⟩
    if p.len < 34 then pass []
    else if p.payload 12 ≠ 0x08 ∨ p.payload 13 ≠ 0x00 then pass []
    else
      let verdict := isPacketAllowed devices filter p.srcMac p.proto p.ports.1 p.ports.2
      if verdict.1 then pass verdict.2 else ⟨[.pbufFree p], 0, verdict.2⟩

/-! ## The policy -/

/-- The frames that the hook submits to the packet filter. -/
structure Ipv4Frame (p : Pbuf) : Prop where
  long : 34 ≤ p.len.toNat
  etherType : p.payload 12 = 0x08 ∧ p.payload 13 = 0x00

instance (p : Pbuf) : Decidable (Ipv4Frame p) :=
  decidable_of_iff (34 ≤ p.len.toNat ∧ p.payload 12 = 0x08 ∧ p.payload 13 = 0x00)
    ⟨fun h => ⟨h.1, h.2⟩, fun h => ⟨h.long, h.etherType⟩⟩

/-- The packets that may pass: those of the admin, and those of a device that is not blocked which
the rules for their protocol and destination port allow. -/
def FramePolicy (devices : DeviceTable) (rules : CustomRules) (services : Services) (mac : Mac)
    (proto : UInt8) (dstPort : UInt16) : Prop :=
  mac = adminMac ∨ (devices.statusOf mac ≠ .blocked ∧
    (proto = IP_PROTO_TCP ∨ proto = IP_PROTO_UDP →
      portPolicy rules services proto dstPort = true))

theorem Pbuf.dstPort_eq (p : Pbuf) : p.dstPort =
    bigEndian16 (p.payload (14 + 4 * p.ipHl.toNat + 2))
      (p.payload (14 + 4 * p.ipHl.toNat + 3)) := by
  rw [Pbuf.dstPort, ntohs_load16, Pbuf.transport, Nat.mul_comm]

/-- Where the ports matter, the hook has read the destination port. -/
theorem Pbuf.ports_snd {p : Pbuf} (h : p.proto = IP_PROTO_TCP ∨ p.proto = IP_PROTO_UDP) :
    p.ports.2 = p.dstPort := by
  rw [Pbuf.ports]
  rcases h with htcp | hudp
  · rw [if_pos htcp]
  · simp [hudp]

/-- The packet filter enforces the policy, for the destination port it is given. -/
theorem isPacketAllowed_iff {s : ServiceFilter}
    (hcount : ∀ i, (s.custom.rules i).active = true → i.val < s.custom.count)
    (devices : DeviceTable) (mac : Mac) (proto : UInt8) (srcPort dstPort : UInt16) :
    (isPacketAllowed devices s mac proto srcPort dstPort).1 = true ↔
      FramePolicy devices s.custom.rules s.services mac proto dstPort := by
  rw [isPacketAllowed, FramePolicy, serviceIsPortAllowed_eq_policy hcount]
  by_cases hadmin : mac = adminMac
  · simp [hadmin]
  rw [if_neg hadmin]
  by_cases hblocked : devices.statusOf mac = .blocked
  · simp [hblocked, hadmin]
  rw [if_neg hblocked]
  by_cases htransport : proto = IP_PROTO_TCP ∨ proto = IP_PROTO_UDP
  · rw [if_pos htransport]
    split
    · next hallowed => simp [hblocked, hallowed]
    · next hdenied => simp [hadmin, htransport, hdenied]
  · simp [htransport, hblocked]

/-- For other protocols the policy does not look at the port. -/
theorem framePolicy_congr {devices : DeviceTable} {rules : CustomRules} {services : Services}
    {mac : Mac} {proto : UInt8} {port port' : UInt16}
    (h : proto = IP_PROTO_TCP ∨ proto = IP_PROTO_UDP → port = port') :
    FramePolicy devices rules services mac proto port ↔
      FramePolicy devices rules services mac proto port' := by
  by_cases htransport : proto = IP_PROTO_TCP ∨ proto = IP_PROTO_UDP
  · rw [h htransport]
  · simp [FramePolicy, htransport]

/-- The hook asks for 34 bytes. -/
theorem Pbuf.not_len_lt_iff {p : Pbuf} : ¬ p.len < 34 ↔ 34 ≤ p.len.toNat := by
  rw [UInt16.not_lt, UInt16.le_iff_toNat_le]
  exact Iff.rfl

/-- What the hook does with a frame it submits. -/
theorem apNetifInputHook_of_ipv4 {p : Pbuf} (hp : Ipv4Frame p)
    (originalApInput : Option Pbuf → ℤ) (devices : DeviceTable) (s : ServiceFilter) :
    apNetifInputHook originalApInput devices s (some p) =
      let verdict := isPacketAllowed devices s p.srcMac p.proto p.ports.1 p.ports.2
      if verdict.1 then ⟨[.originalApInput (some p)], originalApInput (some p), verdict.2⟩
      else ⟨[.pbufFree p], 0, verdict.2⟩ := by
  have htype : ¬ (p.payload 12 ≠ 0x08 ∨ p.payload 13 ≠ 0x00) := by
    rw [not_or, not_not, not_not]
    exact hp.etherType
  rw [apNetifInputHook]
  dsimp only
  rw [if_neg (Pbuf.not_len_lt_iff.2 hp.long), if_neg htype]

/-- What the hook does with any other frame. -/
theorem apNetifInputHook_of_not_ipv4 {p : Pbuf} (hp : ¬ Ipv4Frame p)
    (originalApInput : Option Pbuf → ℤ) (devices : DeviceTable) (s : ServiceFilter) :
    apNetifInputHook originalApInput devices s (some p) =
      ⟨[.originalApInput (some p)], originalApInput (some p), []⟩ := by
  rw [apNetifInputHook]
  split
  · rfl
  · next hlong =>
    split
    · rfl
    · next htype =>
      rw [not_or, not_not, not_not] at htype
      exact absurd ⟨Pbuf.not_len_lt_iff.1 hlong, htype⟩ hp

theorem apNetifInputHook_ipv4 {p : Pbuf} (hp : Ipv4Frame p) (originalApInput : Option Pbuf → ℤ)
    (devices : DeviceTable) (s : ServiceFilter) :
    (apNetifInputHook originalApInput devices s (some p)).calls =
      if (isPacketAllowed devices s p.srcMac p.proto p.ports.1 p.ports.2).1
      then [.originalApInput (some p)] else [.pbufFree p] := by
  rw [apNetifInputHook_of_ipv4 hp]
  exact apply_ite HookResult.calls ..

theorem apNetifInputHook_other {p : Pbuf} (hp : ¬ Ipv4Frame p)
    (originalApInput : Option Pbuf → ℤ) (devices : DeviceTable) (s : ServiceFilter) :
    (apNetifInputHook originalApInput devices s (some p)).calls = [.originalApInput (some p)] := by
  rw [apNetifInputHook_of_not_ipv4 hp]

/-! ## What gets through -/

/-- **Nothing that the hook submits gets through from a blocked device**, unless it is the
admin's.  What the hook does not submit is handed on, whoever sent it. -/
theorem apNetifInputHook_drops_blocked {devices : DeviceTable}
    (hnodup : (devices.devices.map Device.mac).Nodup) (originalApInput : Option Pbuf → ℤ)
    (s : ServiceFilter) {p : Pbuf} (hblocked : ⟨p.srcMac, .blocked⟩ ∈ devices.devices)
    (hadmin : p.srcMac ≠ adminMac) :
    (Ipv4Frame p →
      (apNetifInputHook originalApInput devices s (some p)).calls = [.pbufFree p]) ∧
    (¬ Ipv4Frame p →
      (apNetifInputHook originalApInput devices s (some p)).calls =
        [.originalApInput (some p)]) := by
  refine ⟨fun hp => ?_, fun hp => apNetifInputHook_other hp originalApInput devices s⟩
  have hstatus : devices.statusOf p.srcMac = .blocked := statusOf_of_mem hblocked hnodup
  rw [apNetifInputHook_ipv4 hp, isPacketAllowed, if_neg hadmin, if_pos hstatus]
  rfl

/-- A device list with one device, which is blocked. -/
def oneBlocked : DeviceTable := ⟨[⟨stationMac, .blocked⟩], by decide⟩

/-- A frame of 60 bytes from that device, of the given type and with nothing in it. -/
def frameFromBlocked (etherType : UInt8 × UInt8) : Pbuf :=
  ⟨60, fun i => [0, 0, 0, 0, 0, 0, 2, 0, 0, 0, 0, 1, etherType.1, etherType.2].getD i 0⟩

/-- An IPv4 frame of the device, for example, is freed. -/
theorem apNetifInputHook_drops_blocked_ipv4 :
    (apNetifInputHook (fun _ => 0) oneBlocked (bootServiceFilter .ok .empty)
      (some (frameFromBlocked (0x08, 0x00)))).calls =
        [.pbufFree (frameFromBlocked (0x08, 0x00))] :=
  (apNetifInputHook_drops_blocked (by decide) (fun _ => 0) (bootServiceFilter .ok .empty)
    (by decide) (by decide)).1 (by decide)

/-- An ARP frame of the device gets through. -/
theorem apNetifInputHook_passes_arp : ¬ ∀ (devices : DeviceTable) (s : ServiceFilter) (p : Pbuf),
    (devices.devices.map Device.mac).Nodup → 14 ≤ p.len.toNat →
    ⟨p.srcMac, .blocked⟩ ∈ devices.devices → p.srcMac ≠ adminMac →
      (apNetifInputHook (fun _ => 0) devices s (some p)).calls = [.pbufFree p] := by
  intro h
  have hfree := h oneBlocked (bootServiceFilter .ok .empty) (frameFromBlocked (0x08, 0x06))
    (by decide) (by decide) (by decide) (by decide)
  rw [apNetifInputHook_other (by decide)] at hfree
  exact absurd hfree (by simp)

/-- **The hook enforces the policy on every frame it submits**: it hands on the frames that the
policy lets through and frees the others, and does one of the two.  Two frames from one address,
of one protocol and, for TCP and UDP, to one port are treated alike, whatever else is in them. -/
theorem apNetifInputHook_enforces_policy {s s' : ServiceFilter} (hs : s'.Reachable)
    (hcustom : s.custom = s'.custom) (originalApInput : Option Pbuf → ℤ) (devices : DeviceTable)
    {p : Pbuf} (hp : Ipv4Frame p) :
    ((apNetifInputHook originalApInput devices s (some p)).calls =
        [.originalApInput (some p)] ↔
      FramePolicy devices s.custom.rules s.services p.srcMac p.proto
        (bigEndian16 (p.payload (14 + 4 * p.ipHl.toNat + 2))
          (p.payload (14 + 4 * p.ipHl.toNat + 3)))) ∧
    ((apNetifInputHook originalApInput devices s (some p)).calls = [.pbufFree p] ↔
      ¬ FramePolicy devices s.custom.rules s.services p.srcMac p.proto
        (bigEndian16 (p.payload (14 + 4 * p.ipHl.toNat + 2))
          (p.payload (14 + 4 * p.ipHl.toNat + 3)))) ∧
    ∀ q, Ipv4Frame q → q.srcMac = p.srcMac → q.proto = p.proto →
      (p.proto = IP_PROTO_TCP ∨ p.proto = IP_PROTO_UDP → q.dstPort = p.dstPort) →
      ((apNetifInputHook originalApInput devices s (some q)).calls =
          [.originalApInput (some q)] ↔
        (apNetifInputHook originalApInput devices s (some p)).calls =
          [.originalApInput (some p)]) := by
  have hcount : ∀ i, (s.custom.rules i).active = true → i.val < s.custom.count := by
    rw [hcustom]
    exact hs.inv.countExact.below
  have hallowed : ∀ q : Pbuf, (isPacketAllowed devices s q.srcMac q.proto q.ports.1 q.ports.2).1 =
      true ↔ FramePolicy devices s.custom.rules s.services q.srcMac q.proto q.dstPort :=
    fun q => (isPacketAllowed_iff hcount devices q.srcMac q.proto q.ports.1 q.ports.2).trans
      (framePolicy_congr Pbuf.ports_snd)
  have hpass : ∀ q, Ipv4Frame q → ((apNetifInputHook originalApInput devices s (some q)).calls =
      [.originalApInput (some q)] ↔
        FramePolicy devices s.custom.rules s.services q.srcMac q.proto q.dstPort) := by
    intro q hq
    rw [apNetifInputHook_ipv4 hq, ← hallowed]
    split <;> simp_all
  rw [← Pbuf.dstPort_eq]
  refine ⟨hpass p hp, ?_, fun q hq hmac hproto hport => ?_⟩
  · rw [apNetifInputHook_ipv4 hp, ← hallowed]
    split <;> simp_all
  · rw [hpass q hq, hpass p hp, hmac, hproto]
    exact framePolicy_congr hport

/-- The rules after the first boot, and one that blocks TCP port 8080. -/
def proxyBlocked : ServiceFilter :=
  (bootServiceFilter .ok .empty).step (.addCustom .ok (some (.lit "proxy")) 8080 .tcp true)

/-- A TCP frame to port 8080.  There is a word of options in its IPv4 header. -/
def proxyFrame : Pbuf :=
  ⟨60, fun
    | 6 => 0x02 | 11 => 0x01
    | 12 => 0x08 | 13 => 0x00
    | 14 => 0x46 | 23 => 0x06
    | 40 => 0x1F | 41 => 0x90
    | _ => 0⟩

/-- It is freed, although the device is not blocked. -/
theorem apNetifInputHook_enforces_policy_proxy :
    (apNetifInputHook (fun _ => 0) (addDevice stationMac .empty) proxyBlocked
      (some proxyFrame)).calls = [.pbufFree proxyFrame] := by
  have hreachable : proxyBlocked.Reachable :=
    .next (.init ⟨.ok, rfl⟩) (.addCustom .ok (some (.lit "proxy")) 8080 .tcp true)
  have hdenied : portPolicy proxyBlocked.custom.rules proxyBlocked.services proxyFrame.proto
      proxyFrame.dstPort = false := by decide +kernel
  refine (apNetifInputHook_enforces_policy hreachable rfl (fun _ => 0) (addDevice stationMac .empty)
    (by decide)).2.1.2 fun h => ?_
  rw [← Pbuf.dstPort_eq] at h
  rcases h with hadmin | ⟨-, hallowed⟩
  · exact absurd hadmin (by decide)
  · exact absurd ((hallowed (.inl rfl)).symm.trans hdenied) (by decide)

end EspFirewall
