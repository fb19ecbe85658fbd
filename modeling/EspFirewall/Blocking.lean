import EspFirewall.Packet
import EspFirewall.Stations

/-!
# Blocking a device

A device is blocked by `/update_mac`, and three parts of the firmware have to honour that: the
handler that admits stations, the packet filter, and `/update_mac` itself, which has to find the
device in the list.

* `admission_agrees_iff` — the handler refuses exactly the stations none of whose packets would
  pass, but for the admin's: the packet filter lets that one through whatever its status, and the
  handler does not know about it.
* `block_stays_in_force` — a blocked device stays blocked until it is allowed again, whatever else
  happens.  The list never holds a MAC twice, and `ApState.handle_statusOf` says that no event but
  an `/update_mac` for it changes the status of a MAC.
* `stations_manageable_iff` — the connected stations are all in the list as long as no new one is
  admitted while the list is full: `add_device` has nothing to do then, and says nothing.
-/

set_option autoImplicit false

namespace EspFirewall

open CLang

/-! ## Admission and packet filter -/

/-- The handler deauthenticates a station exactly when its status is blocked. -/
theorem apStaConnected_deauth_iff (mac : Mac) (aid : UInt8) (deauthOk : Bool) (s : ApState) :
    (apStaConnected mac aid deauthOk s).1 = some aid ↔ s.devices.statusOf mac = .blocked := by
  rw [apStaConnected]
  split
  · next h => exact iff_of_true rfl h
  · next h => exact iff_of_false (Option.some_ne_none aid).symm h

/-- The packet filter drops everything exactly when the status is blocked and the device is not the
admin's. -/
theorem isPacketAllowed_never_iff (devices : DeviceTable) (filter : ServiceFilter) (mac : Mac) :
    (∀ proto srcPort dstPort,
      (isPacketAllowed devices filter mac proto srcPort dstPort).1 = false) ↔
      mac ≠ adminMac ∧ devices.statusOf mac = .blocked := by
  refine ⟨fun h => ?_, fun h proto srcPort dstPort => ?_⟩
  · -- ICMP is not asked about at the service filter
    have hicmp := h 1 0 0
    rw [isPacketAllowed] at hicmp
    split at hicmp
    · exact absurd hicmp.symm Bool.false_ne_true
    · next hadmin =>
      split at hicmp
      · next hblocked => exact ⟨hadmin, hblocked⟩
      · exact absurd hicmp.symm Bool.false_ne_true
  · rw [isPacketAllowed, if_neg h.1, if_pos h.2]

/-- **When admission and packet filter agree**: the handler deauthenticates a station exactly when
every packet of it would be dropped, unless it is the admin's and its status is blocked. -/
theorem admission_agrees_iff (s : ApState) (filter : ServiceFilter) (mac : Mac) (aid : UInt8)
    (deauthOk : Bool) :
    ((apStaConnected mac aid deauthOk s).1 = some aid ↔ ∀ proto srcPort dstPort,
        (isPacketAllowed s.devices filter mac proto srcPort dstPort).1 = false) ↔
      ¬ (mac = adminMac ∧ s.devices.statusOf mac = .blocked) := by
  rw [apStaConnected_deauth_iff, isPacketAllowed_never_iff]
  tauto

/-- The admin's station connects and disconnects, and is then set to blocked. -/
def adminBlocked : List ApEvent :=
  [.connect adminMac 1 true, .disconnect adminMac,
   .updateMac adminMac (.lit "8C:1D:96:5F:7D:A5") (.lit "BLOCKED")]

/-- It is deauthenticated when it comes back, although all its packets would pass. -/
theorem admin_deauthenticated : ¬ ∀ (es : List ApEvent) (filter : ServiceFilter) (mac : Mac)
    (aid : UInt8) (deauthOk : Bool), StepSystem.EveryStep Network.step Network.Legal .boot es →
    ((apStaConnected mac aid deauthOk (StepSystem.run Network.step .boot es).ap).1 = some aid ↔
      ∀ proto srcPort dstPort, (isPacketAllowed (StepSystem.run Network.step .boot es).ap.devices
        filter mac proto srcPort dstPort).1 = false) := by
  intro h
  have hiff := h adminBlocked (bootServiceFilter .ok .empty) adminMac 1 true
    ⟨by decide, by decide +kernel, trivial, trivial⟩
  have hblocked : (StepSystem.run Network.step .boot adminBlocked).ap.devices.statusOf adminMac =
      .blocked := by decide +kernel
  rw [apStaConnected_deauth_iff, isPacketAllowed_never_iff] at hiff
  exact (hiff.1 hblocked).1 rfl

/-! ## Everything that happens to the device list -/

/-- What happens to the firmware on the access point's side: events, requests and packets. -/
inductive ApInput
  | event (e : ApEvent)
  | packet (originalApInput : Option Pbuf → ℤ) (filter : ServiceFilter) (p : Option Pbuf)

/-- The firmware's reaction. -/
def ApState.handle (s : ApState) : ApInput → ApState
  | .event (.connect mac aid deauthOk) => (apStaConnected mac aid deauthOk s).2
  | .event (.disconnect mac) => apStaDisconnected mac s
  | .event (.updateMac mac macStr statusStr) => s.updateMac mac macStr statusStr
  | .packet originalApInput filter p =>
    s.log (apNetifInputHook originalApInput s.devices filter p).logs

/-- An `/update_mac` for the MAC. -/
def ApInput.Updates (mac : Mac) (i : ApInput) : Prop :=
  ∃ macStr statusStr, i = .event (.updateMac mac macStr statusStr)

/-- An `/update_mac` for the MAC with the status `ALLOWED`. -/
def ApInput.Allows (mac : Mac) (i : ApInput) : Prop :=
  ∃ macStr, i = .event (.updateMac mac macStr (.lit "ALLOWED"))

namespace ApState

@[simp] theorem log_devices (calls : List LogCall) (s : ApState) :
    (s.log calls).devices = s.devices := rfl

theorem connect_devices (mac : Mac) (aid : UInt8) (deauthOk : Bool) (s : ApState) :
    (apStaConnected mac aid deauthOk s).2.devices =
      if s.devices.statusOf mac = .blocked then s.devices else addDevice mac s.devices := by
  rw [apStaConnected]
  split
  · rcases deauthOk with _ | _ <;> rfl
  · rfl

/-- **What an input can do to the device list**: nothing, enter a new MAC, or set one status. -/
theorem handle_devices (s : ApState) (i : ApInput) :
    (s.handle i).devices = s.devices ∨ (∃ mac, (s.handle i).devices = addDevice mac s.devices) ∨
      ∃ mac macStr statusStr status, i = .event (.updateMac mac macStr statusStr) ∧
        macExists mac s.devices = true ∧ (statusStr = .lit "ALLOWED" ∧ status = .allowed ∨
          statusStr = .lit "BLOCKED" ∧ status = .blocked) ∧
        (s.handle i).devices = s.devices.setStatus mac status := by
  rcases i with (⟨mac, aid, deauthOk⟩ | mac | ⟨mac, macStr, statusStr⟩) | ⟨orig, filter, p⟩
  · rw [handle, connect_devices]
    split
    · exact .inl rfl
    · exact .inr (.inl ⟨mac, rfl⟩)
  · exact .inl rfl
  · have hdevices : (s.handle (.event (.updateMac mac macStr statusStr))).devices = _ :=
      updateMac_devices mac macStr statusStr s.devices
    rw [hdevices]
    split
    · next h => exact .inr (.inr ⟨mac, macStr, statusStr, _, rfl, h.1, .inl ⟨h.2, rfl⟩, rfl⟩)
    · split
      · next h => exact .inr (.inr ⟨mac, macStr, statusStr, _, rfl, h.1, .inr ⟨h.2, rfl⟩, rfl⟩)
      · exact .inl rfl
  · exact .inl rfl

/-- The MACs of the list stay distinct. -/
theorem handle_nodup (s : ApState) (i : ApInput) (hs : (s.devices.devices.map Device.mac).Nodup) :
    ((s.handle i).devices.devices.map Device.mac).Nodup := by
  rcases s.handle_devices i with h | ⟨mac, h⟩ | ⟨mac, -, -, status, -, -, -, h⟩
  · rw [h]
    exact hs
  · rw [h]
    exact nodup_addDevice hs
  · rw [h, DeviceTable.setStatus_macs]
    exact hs

/-- **Only an `/update_mac` for it changes the status of a MAC.** -/
theorem handle_statusOf (s : ApState) {i : ApInput} {mac : Mac} (hi : ¬ i.Updates mac) :
    (s.handle i).devices.statusOf mac = s.devices.statusOf mac := by
  rcases s.handle_devices i with h | ⟨mac', h⟩ | ⟨mac', macStr, statusStr, status, rfl, -, -, h⟩
  · rw [h]
  · rw [h, statusOf_addDevice]
  · have hne : mac ≠ mac' := by
      rintro rfl
      exact hi ⟨macStr, statusStr, rfl⟩
    rw [h, DeviceTable.statusOf_setStatus_of_ne hne]

/-- A blocked MAC stays blocked unless it is allowed. -/
theorem handle_blocked (s : ApState) {i : ApInput} {mac : Mac} (hi : ¬ i.Allows mac)
    (hs : s.devices.statusOf mac = .blocked) : (s.handle i).devices.statusOf mac = .blocked := by
  rcases s.handle_devices i with h | ⟨mac', h⟩ |
    ⟨mac', macStr, statusStr, status, rfl, hexists, hstatus, h⟩
  · rw [h, hs]
  · rw [h, statusOf_addDevice, hs]
  · by_cases hmac : mac = mac'
    · subst hmac
      rw [h, DeviceTable.statusOf_setStatus_self hexists]
      rcases hstatus with ⟨rfl, -⟩ | ⟨-, rfl⟩
      · exact absurd ⟨macStr, rfl⟩ hi
      · rfl
    · rw [h, DeviceTable.statusOf_setStatus_of_ne hmac, hs]

/-- An `/update_mac` with the status `BLOCKED` for a MAC of the list blocks it. -/
theorem handle_block (s : ApState) {mac : Mac} (hmac : mac ∈ s.devices.devices.map Device.mac)
    (macStr : CString) :
    (s.handle (.event (.updateMac mac macStr (.lit "BLOCKED")))).devices.statusOf mac =
      .blocked := by
  have hexists := macExists_iff.2 hmac
  have hdevices : (s.handle (.event (.updateMac mac macStr (.lit "BLOCKED")))).devices = _ :=
    updateMac_devices mac macStr (.lit "BLOCKED") s.devices
  rw [hdevices, if_neg fun h => absurd h.2 (by decide), if_pos ⟨hexists, rfl⟩,
    DeviceTable.statusOf_setStatus_self hexists]

end ApState

/-- **A block stays in force until it is lifted.**  In every state of every run the MACs of the list
are distinct and fit in it; only an `/update_mac` for it changes the status of a MAC; and from an
`/update_mac` on that blocks a MAC of the list, other than the admin's, until one that allows it,
the packet filter drops every packet of the MAC, whatever the rules for ports say. -/
theorem block_stays_in_force :
    (∀ is, StepSystem.EveryState ApState.handle (fun s =>
      (s.devices.devices.map Device.mac).Nodup ∧ s.devices.devices.length ≤ MAX_DEVICES) .boot
        is) ∧
    (∀ is mac i, ¬ ApInput.Updates mac i →
      ((StepSystem.run ApState.handle .boot is).handle i).devices.statusOf mac =
        (StepSystem.run ApState.handle .boot is).devices.statusOf mac) ∧
    ∀ before mac macStr later, mac ≠ adminMac →
      mac ∈ (StepSystem.run ApState.handle .boot before).devices.devices.map Device.mac →
      (∀ i ∈ later, ¬ ApInput.Allows mac i) →
      StepSystem.EveryState ApState.handle (fun s => ∀ filter proto srcPort dstPort,
        (isPacketAllowed s.devices filter mac proto srcPort dstPort).1 = false)
        ((StepSystem.run ApState.handle .boot before).handle
          (.event (.updateMac mac macStr (.lit "BLOCKED")))) later := by
  refine ⟨fun is => ?_, fun is mac i hi => ApState.handle_statusOf _ hi, ?_⟩
  · have hnodup : StepSystem.EveryState ApState.handle
        (fun s => (s.devices.devices.map Device.mac).Nodup) .boot is :=
      StepSystem.everyState_of_invariant (fun s i (_ : True) => ApState.handle_nodup s i)
        (.of_forall fun _ _ => trivial) List.nodup_nil
    exact hnodup.mono fun s hs => ⟨hs, s.devices.length_le⟩
  · intro before mac macStr later hadmin hmac hlater
    have hblocked := StepSystem.everyState_of_invariant
      (fun s i (hi : ¬ ApInput.Allows mac i) => ApState.handle_blocked s hi)
      (StepSystem.EveryStep.of_mem hlater)
      (ApState.handle_block (StepSystem.run ApState.handle .boot before) hmac macStr)
    exact hblocked.mono fun s hs filter =>
      (isPacketAllowed_never_iff s.devices filter mac).2 ⟨hadmin, hs⟩

/-! ## Connected stations that are not in the list -/

namespace Network

/-- Every connected station is in the device list, so that an `/update_mac` finds it and can block
it. -/
def Manageable (w : Network) : Prop :=
  ∀ mac ∈ w.ap.connected.macs, mac ∈ w.ap.devices.devices.map Device.mac ∧
    ∀ macStr, (updateMac mac macStr (.lit "BLOCKED") w.ap.devices).1 = true ∧
      (updateMac mac macStr (.lit "BLOCKED") w.ap.devices).2.1.statusOf mac = .blocked

/-- A station connects that is not in the list, and the list is full. -/
def NewWhileFull (w : Network) : ApEvent → Prop
  | .connect mac _ _ => macExists mac w.ap.devices = false ∧
      w.ap.devices.devices.length = MAX_DEVICES
  | _ => False

instance (w : Network) : (e : ApEvent) → Decidable (w.NewWhileFull e)
  | .connect _ _ _ => inferInstanceAs (Decidable (_ ∧ _))
  | .disconnect _ => inferInstanceAs (Decidable False)
  | .updateMac _ _ _ => inferInstanceAs (Decidable False)

/-- A device of the list can be blocked, so the list is all that matters. -/
theorem manageable_iff (w : Network) :
    w.Manageable ↔ ∀ mac ∈ w.ap.connected.macs, macExists mac w.ap.devices = true := by
  refine ⟨fun h mac hmac => macExists_iff.2 (h mac hmac).1, fun h mac hmac => ?_⟩
  have hexists := h mac hmac
  refine ⟨macExists_iff.1 hexists, fun macStr => ⟨?_, ?_⟩⟩
  · have hne : CString.lit "BLOCKED" ≠ .lit "ALLOWED" := by decide
    rw [updateMac, if_pos hexists, if_neg hne, if_pos rfl]
  · rw [updateMac_devices, if_neg fun h => absurd h.2 (by decide), if_pos ⟨hexists, rfl⟩,
      DeviceTable.statusOf_setStatus_self hexists]

/-- No event takes a MAC out of the list. -/
theorem macExists_step (w : Network) (e : ApEvent) {mac : Mac}
    (h : macExists mac w.ap.devices = true) : macExists mac (w.step e).ap.devices = true := by
  have hdevices : (w.step e).ap.devices = (w.ap.handle (.event e)).devices := by
    rcases e with ⟨mac', aid, deauthOk⟩ | mac' | ⟨mac', macStr, statusStr⟩
    · rw [step, ApState.handle]
      rcases apStaConnected mac' aid deauthOk w.ap with ⟨_ | _, ap⟩ <;> rfl
    · rfl
    · rfl
  rw [macExists_iff] at h ⊢
  rw [hdevices]
  rcases w.ap.handle_devices (.event e) with hd | ⟨mac', hd⟩ | ⟨mac', -, -, status, -, -, -, hd⟩
  · rwa [hd]
  · rw [hd, addDevice_macs]
    split
    · exact List.mem_append_left _ h
    · exact h
  · rwa [hd, DeviceTable.setStatus_macs]

/-- After an admission the station is in the list if it was before, or if there was room. -/
theorem macExists_connect {w : Network} {mac : Mac} (aid : UInt8) (deauthOk : Bool)
    (h : w.ap.devices.statusOf mac ≠ .blocked) :
    macExists mac (w.step (.connect mac aid deauthOk)).ap.devices = true ↔
      ¬ w.NewWhileFull (.connect mac aid deauthOk) := by
  have hdevices : (w.step (.connect mac aid deauthOk)).ap.devices = addDevice mac w.ap.devices := by
    rw [step, apStaConnected, if_neg h]
  have hle := w.ap.devices.length_le
  rw [hdevices, macExists_iff, addDevice_macs, NewWhileFull]
  split
  · next hnew => exact iff_of_true (by simp) fun hfull => absurd hfull.2 hnew.1.ne
  · next hold =>
    rw [← macExists_iff]
    rcases hexists : macExists mac w.ap.devices with _ | _
    · refine iff_of_false Bool.false_ne_true fun hroom => hold ⟨?_, hexists⟩
      exact Nat.lt_of_le_of_ne hle fun heq => hroom ⟨rfl, heq⟩
    · exact iff_of_true rfl fun hfull => Bool.noConfusion hfull.1

/-- **One step of the inclusion**: it is lost when a station is admitted that does not fit in the
list. -/
theorem manageable_step_iff {w : Network} {e : ApEvent} (hlegal : w.Legal e) (hw : w.Inv)
    (hm : w.Manageable) : (w.step e).Manageable ↔ ¬ w.NewWhileFull e := by
  rw [manageable_iff] at hm ⊢
  rcases e with ⟨mac, aid, deauthOk⟩ | mac | ⟨mac, macStr, statusStr⟩
  · by_cases hblocked : w.ap.devices.statusOf mac = .blocked
    · have hexists : macExists mac w.ap.devices = true :=
        macExists_of_statusOf (by rw [hblocked]; exact MacStatus.noConfusion)
      refine iff_of_true ?_ fun hfull => absurd hfull.1 (by simp [hexists])
      rw [(step_connect_blocked aid deauthOk hblocked).1]
      exact fun m hmem => macExists_step w _ (hm m hmem)
    · have hroom : w.ap.connected.macs.length < MAX_CONNECTED_DEVICES := by
        rw [hw.listed]
        exact Nat.lt_of_le_of_lt hw.length_le hlegal.2
      rw [(step_connect_admitted aid deauthOk hblocked).1, ConnectedList.add_macs mac hroom,
        ← macExists_connect aid deauthOk hblocked]
      refine ⟨fun h => h mac (by simp), fun h m hmem => ?_⟩
      rcases List.mem_append.1 hmem with hold | hnew
      · exact macExists_step w _ (hm m hold)
      · rwa [List.mem_singleton.1 hnew]
  · exact iff_of_true (fun m hmem => hm m (List.mem_of_mem_erase hmem)) id
  · exact iff_of_true (fun m hmem => macExists_step w _ (hm m hmem)) id

/-- **When every connected station can be managed.**  Along every run in which the driver keeps its
promises, the connected stations are all in the device list, in every state, precisely when no
station connects that is not in the list while the list is full. -/
theorem stations_manageable_iff (es : List ApEvent)
    (hlegal : StepSystem.EveryStep step Legal boot es) :
    StepSystem.EveryState step Manageable boot es ↔
      StepSystem.EveryStep step (fun w e => ¬ w.NewWhileFull e) boot es := by
  refine StepSystem.everyState_iff_everyStep ?_ ?_ hlegal inv_boot fun _ h => absurd h List.not_mem_nil
  · intro w e hl hw hm hc
    exact ⟨inv_step w e hl hw, (manageable_step_iff hl hw hm).2 hc⟩
  · intro w e hl hw hm hnext
    exact (manageable_step_iff hl hw hm).1 hnext

/-- The address of the `k`-th station of a family. -/
def nthMac (k : ℕ) : Mac := #v[2, 0, 0, 0, 1, UInt8.ofNat k]

/-- As many stations come and go as fit in the list, and one more comes. -/
def oneTooMany : List ApEvent :=
  (List.range MAX_DEVICES).flatMap (fun k => [.connect (nthMac k) 1 true, .disconnect (nthMac k)]) ++
    [.connect (nthMac MAX_DEVICES) 1 true]

/-- The first of them can be blocked. -/
theorem stations_manageable_first :
    StepSystem.EveryState step Manageable boot (oneTooMany.take 1) :=
  (stations_manageable_iff (oneTooMany.take 1) ⟨by decide, trivial⟩).2 ⟨by decide, trivial⟩

/-- The last one is connected, and not in the list. -/
theorem stations_unmanageable : ¬ ∀ es : List ApEvent,
    StepSystem.EveryStep step Legal boot es → StepSystem.EveryState step Manageable boot es := by
  intro h
  have hlast := (h oneTooMany (by decide +kernel)).last
  exact absurd (hlast (nthMac MAX_DEVICES) (by decide +kernel)).1 (by decide +kernel)

end Network

end EspFirewall
