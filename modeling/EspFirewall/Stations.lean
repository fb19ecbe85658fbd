import Mathlib.Data.List.Perm.Subperm
import EspFirewall.Devices
import EspFirewall.General.StepSystem

/-!
# The stations of the access point (`wifi_event_handler`)

The handler of Wi-Fi events keeps two records of the stations: the array `connected_macs` with its
count, and `connect_count`, a bare counter.  A station that connects is entered in both, unless its
device is blocked: then it is thrown out again and the handler returns early.  A station that
disconnects is taken out of the array, if it is there, and counted down, in any case.

`Network` puts the handler where it runs.  It adds what the driver knows, the stations that are
associated, and what the handler should keep count of, the stations it has admitted.  The driver
promises that a station connects only when it is not associated and disconnects only when it is,
and that there are never more than eight (`Network.Legal`).

The array is exact whatever happens: `Network.Inv` says that it lists the admitted stations, and
every legal event preserves it.  The counter is exact as long as no station disconnects that was
not admitted: `connect_count_exact_iff`.
-/

set_option autoImplicit false

namespace EspFirewall

open CLang

/-- `MAX_CONNECTED_DEVICES`. -/
abbrev MAX_CONNECTED_DEVICES : ℕ := 8

/-! ## The handler -/

/-- `connected_macs` with `connected_count`: the entries in use, in order. -/
structure ConnectedList where
  /-- The entries below `connected_count`. -/
  macs : List Mac
  /-- They fit in the array. -/
  length_le : macs.length ≤ MAX_CONNECTED_DEVICES

namespace ConnectedList

/-- The list after a reset. -/
def empty : ConnectedList := ⟨[], Nat.zero_le _⟩

/-- Append a MAC if there is room. -/
def add (mac : Mac) (c : ConnectedList) : ConnectedList :=
  if h : c.macs.length < MAX_CONNECTED_DEVICES then
    ⟨c.macs ++ [mac], by rw [List.length_append]; exact h⟩
  else c

/-- Take the first entry with a MAC out, and move those behind it up. -/
def remove (mac : Mac) (c : ConnectedList) : ConnectedList :=
  ⟨c.macs.erase mac, Nat.le_trans List.length_erase_le c.length_le⟩

end ConnectedList

/-- The globals that the events of the access point change, and the log calls made so far. -/
structure ApState where
  /-- `device_list` and `device_count`. -/
  devices : DeviceTable
  /-- `connected_macs` and `connected_count`. -/
  connected : ConnectedList
  /-- `connect_count`. -/
  connectCount : UInt16
  logs : List LogCall

/-- The state after a reset. -/
def ApState.boot : ApState := ⟨.empty, .empty, 0, []⟩

/-- `add_log_line`. -/
def ApState.log (calls : List LogCall) (s : ApState) : ApState := { s with logs := s.logs ++ calls }

/-- The branch for `WIFI_EVENT_AP_STACONNECTED`, with the argument of `esp_wifi_deauth_sta` when
the station is refused.  `deauthOk` says whether that call succeeds. -/
def apStaConnected (mac : Mac) (aid : UInt8) (deauthOk : Bool) (s : ApState) :
    Option UInt8 × ApState :=
  if s.devices.statusOf mac = .blocked then
    let s := s.log [.fmt "Blocked device attempting connection" []]
    (some aid, if deauthOk then s.log [.fmt "Blocked MAC:" [], .text (macText mac)] else s)
  else
    (none, { s with
      connected := s.connected.add mac
      connectCount := s.connectCount + 1
      devices := addDevice mac s.devices
      logs := s.logs ++
        [.fmt "Device connected" [], .fmt "MAC:" [], .text (macText mac)] })

/-- The branch for `WIFI_EVENT_AP_STADISCONNECTED`. -/
def apStaDisconnected (mac : Mac) (s : ApState) : ApState :=
  { s with
    connected := s.connected.remove mac
    connectCount := s.connectCount - 1
    logs := s.logs ++ [.fmt "Device disconnected" [], .fmt "MAC:" [], .text (macText mac)] }

/-- `update_mac_handler`, once the request is parsed. -/
def ApState.updateMac (mac : Mac) (macStr statusStr : CString) (s : ApState) : ApState :=
  let (_, devices, logs) := EspFirewall.updateMac mac macStr statusStr s.devices
  { s with devices := devices, logs := s.logs ++ logs }

/-! ## The network around it -/

/-- The firmware, and what goes on around it. -/
structure Network where
  ap : ApState
  /-- The associated stations. -/
  associated : List Mac
  /-- The stations that were admitted and have not disconnected since, in order of admission. -/
  admitted : List Mac

/-- What happens to the firmware. -/
inductive ApEvent
  | connect (mac : Mac) (aid : UInt8) (deauthOk : Bool)
  | disconnect (mac : Mac)
  | updateMac (mac : Mac) (macStr statusStr : CString)

namespace Network

/-- The network when the firmware starts. -/
def boot : Network := ⟨.boot, [], []⟩

/-- One event. -/
def step (w : Network) : ApEvent → Network
  | .connect mac aid deauthOk =>
    match apStaConnected mac aid deauthOk w.ap with
    | (some _, ap) => ⟨ap, w.associated ++ [mac], w.admitted⟩
    | (none, ap) => ⟨ap, w.associated ++ [mac], w.admitted ++ [mac]⟩
  | .disconnect mac =>
    ⟨apStaDisconnected mac w.ap, w.associated.erase mac, w.admitted.erase mac⟩
  | .updateMac mac macStr statusStr => { w with ap := w.ap.updateMac mac macStr statusStr }

/-- What the driver promises about an event. -/
def Legal (w : Network) : ApEvent → Prop
  | .connect mac _ _ => mac ∉ w.associated ∧ w.associated.length < MAX_CONNECTED_DEVICES
  | .disconnect mac => mac ∈ w.associated
  | .updateMac _ _ _ => True

instance (w : Network) : (e : ApEvent) → Decidable (w.Legal e)
  | .connect _ _ _ => inferInstanceAs (Decidable (_ ∧ _))
  | .disconnect _ => inferInstanceAs (Decidable (_ ∈ _))
  | .updateMac _ _ _ => inferInstanceAs (Decidable True)

/-! ## The array is exact -/

/-- The array lists the admitted stations, each once, and all of them are associated. -/
structure Inv (w : Network) : Prop where
  listed : w.ap.connected.macs = w.admitted
  nodup : w.admitted.Nodup
  subset : w.admitted ⊆ w.associated
  distinct : w.associated.Nodup

theorem inv_boot : boot.Inv :=
  ⟨rfl, List.nodup_nil, List.nil_subset _, List.nodup_nil⟩

/-- A station that is refused leaves both records alone. -/
theorem step_connect_blocked {w : Network} {mac : Mac} (aid : UInt8) (deauthOk : Bool)
    (h : w.ap.devices.statusOf mac = .blocked) :
    (w.step (.connect mac aid deauthOk)).ap.connected = w.ap.connected ∧
      (w.step (.connect mac aid deauthOk)).ap.connectCount = w.ap.connectCount ∧
      (w.step (.connect mac aid deauthOk)).associated = w.associated ++ [mac] ∧
      (w.step (.connect mac aid deauthOk)).admitted = w.admitted := by
  rw [step, apStaConnected, if_pos h]
  rcases deauthOk with _ | _ <;> exact ⟨rfl, rfl, rfl, rfl⟩

/-- A station that is admitted is entered in both. -/
theorem step_connect_admitted {w : Network} {mac : Mac} (aid : UInt8) (deauthOk : Bool)
    (h : w.ap.devices.statusOf mac ≠ .blocked) :
    (w.step (.connect mac aid deauthOk)).ap.connected = w.ap.connected.add mac ∧
      (w.step (.connect mac aid deauthOk)).ap.connectCount = w.ap.connectCount + 1 ∧
      (w.step (.connect mac aid deauthOk)).associated = w.associated ++ [mac] ∧
      (w.step (.connect mac aid deauthOk)).admitted = w.admitted ++ [mac] := by
  rw [step, apStaConnected, if_neg h]
  exact ⟨rfl, rfl, rfl, rfl⟩

theorem ConnectedList.add_macs {c : ConnectedList} (mac : Mac)
    (h : c.macs.length < MAX_CONNECTED_DEVICES) : (c.add mac).macs = c.macs ++ [mac] := by
  rw [ConnectedList.add, dif_pos h]

/-- There are no more admitted stations than associated ones. -/
theorem Inv.length_le {w : Network} (h : w.Inv) : w.admitted.length ≤ w.associated.length :=
  (List.subperm_of_subset h.nodup h.subset).length_le

/-- **The array stays exact**, whatever legal event happens. -/
theorem inv_step (w : Network) (e : ApEvent) (hlegal : w.Legal e) (hw : w.Inv) :
    (w.step e).Inv := by
  rcases e with ⟨mac, aid, deauthOk⟩ | mac | ⟨mac, macStr, statusStr⟩
  · obtain ⟨hnew, hroom⟩ := hlegal
    have hdistinct : (w.associated ++ [mac]).Nodup :=
      List.nodup_append_comm.1 (List.nodup_cons.2 ⟨hnew, hw.distinct⟩)
    by_cases hblocked : w.ap.devices.statusOf mac = .blocked
    · obtain ⟨hmacs, -, hassoc, hadm⟩ := step_connect_blocked aid deauthOk hblocked
      refine ⟨?_, ?_, ?_, ?_⟩
      · rw [hmacs, hadm]; exact hw.listed
      · rw [hadm]; exact hw.nodup
      · rw [hadm, hassoc]; exact List.subset_append_of_subset_left _ hw.subset
      · rw [hassoc]; exact hdistinct
    · obtain ⟨hmacs, -, hassoc, hadm⟩ := step_connect_admitted aid deauthOk hblocked
      have hlen : w.ap.connected.macs.length < MAX_CONNECTED_DEVICES := by
        rw [hw.listed]; exact Nat.lt_of_le_of_lt hw.length_le hroom
      refine ⟨?_, ?_, ?_, ?_⟩
      · rw [hmacs, hadm, ConnectedList.add_macs mac hlen, hw.listed]
      · rw [hadm]
        exact List.nodup_append_comm.1 (List.nodup_cons.2 ⟨fun h => hnew (hw.subset h), hw.nodup⟩)
      · rw [hadm, hassoc]
        exact List.append_subset.2 ⟨List.subset_append_of_subset_left _ hw.subset,
          List.subset_append_right _ _⟩
      · rw [hassoc]; exact hdistinct
  · refine ⟨congrArg (List.erase · mac) hw.listed, hw.nodup.erase mac, ?_, hw.distinct.erase mac⟩
    intro m hm
    obtain ⟨hne, hm⟩ := hw.nodup.mem_erase_iff.1 hm
    exact hw.distinct.mem_erase_iff.2 ⟨hne, hw.subset hm⟩
  · exact ⟨hw.listed, hw.nodup, hw.subset, hw.distinct⟩

/-- **The array is exact in every state of a legal run**, whatever the counter does. -/
theorem everyState_inv (es : List ApEvent) (hlegal : StepSystem.EveryStep step Legal boot es) :
    StepSystem.EveryState step Inv boot es :=
  StepSystem.everyState_of_invariant inv_step hlegal inv_boot

/-! ## The counter -/

/-- `connect_count`, `connected_count` and the number of admitted stations are one number, and the
counter has not wrapped. -/
def CountExact (w : Network) : Prop :=
  w.ap.connectCount.toNat = w.ap.connected.macs.length ∧
    w.ap.connected.macs.length = w.admitted.length ∧ w.ap.connectCount ≠ 65535

/-- The event is not a station disconnecting that was never admitted. -/
def NoRefusedLeaves (w : Network) : ApEvent → Prop
  | .disconnect mac => mac ∈ w.admitted
  | _ => True

instance (w : Network) : (e : ApEvent) → Decidable (w.NoRefusedLeaves e)
  | .connect _ _ _ => inferInstanceAs (Decidable True)
  | .disconnect _ => inferInstanceAs (Decidable (_ ∈ _))
  | .updateMac _ _ _ => inferInstanceAs (Decidable True)

instance (w : Network) : Decidable w.CountExact := inferInstanceAs (Decidable (_ ∧ _ ∧ _))

theorem countExact_iff {w : Network} (hw : w.Inv) :
    w.CountExact ↔ w.ap.connectCount.toNat = w.admitted.length := by
  have hle := w.ap.connected.length_le
  rw [CountExact, hw.listed]
  rw [hw.listed] at hle
  refine ⟨fun h => h.1, fun h => ⟨h, rfl, fun hmax => ?_⟩⟩
  have hval : (65535 : UInt16).toNat = 65535 := rfl
  rw [hmax, hval] at h
  exact absurd (h ▸ hle) (by decide)

/-- **One step of the counter**: it stays exact unless a station leaves that was refused. -/
theorem countExact_step_iff {w : Network} {e : ApEvent} (hlegal : w.Legal e) (hw : w.Inv)
    (hcount : w.CountExact) : (w.step e).CountExact ↔ w.NoRefusedLeaves e := by
  rw [countExact_iff (inv_step w e hlegal hw)]
  rw [countExact_iff hw] at hcount
  rcases e with ⟨mac, aid, deauthOk⟩ | mac | ⟨mac, macStr, statusStr⟩
  · refine iff_of_true ?_ trivial
    by_cases hblocked : w.ap.devices.statusOf mac = .blocked
    · obtain ⟨-, hctr, -, hadm⟩ := step_connect_blocked aid deauthOk hblocked
      rw [hctr, hadm]
      exact hcount
    · obtain ⟨-, hctr, -, hadm⟩ := step_connect_admitted aid deauthOk hblocked
      have hsmall : w.admitted.length < 8 := Nat.lt_of_le_of_lt hw.length_le hlegal.2
      have hone : (1 : UInt16).toNat = 1 := rfl
      rw [hctr, hadm, List.length_append, UInt16.toNat_add, hcount, hone]
      exact Nat.mod_eq_of_lt (by omega)
  · show (w.ap.connectCount - 1).toNat = (w.admitted.erase mac).length ↔ mac ∈ w.admitted
    have hsmall : w.admitted.length ≤ 8 := by
      have hle := w.ap.connected.length_le
      rwa [hw.listed] at hle
    have hone : (1 : UInt16).toNat = 1 := rfl
    rw [UInt16.toNat_sub, hcount, hone]
    by_cases hmem : mac ∈ w.admitted
    · have hpos := List.length_pos_of_mem hmem
      rw [List.length_erase_of_mem hmem]
      exact iff_of_true (by omega) hmem
    · rw [List.erase_of_not_mem hmem]
      exact iff_of_false (by omega) hmem
  · exact iff_of_true hcount trivial

/-- **When the station counter is exact.**  Along every run in which the driver keeps its
promises, the counter is exact in every state precisely when no station disconnects that was not
admitted, that is none that was refused as blocked. -/
theorem connect_count_exact_iff (es : List ApEvent)
    (hlegal : StepSystem.EveryStep step Legal boot es) :
    StepSystem.EveryState step CountExact boot es ↔
      StepSystem.EveryStep step NoRefusedLeaves boot es := by
  refine StepSystem.everyState_iff_everyStep ?_ ?_ hlegal inv_boot (by decide)
  · intro w e hl hw hcount hleaves
    exact ⟨inv_step w e hl hw, (countExact_step_iff hl hw hcount).2 hleaves⟩
  · intro w e hl hw hcount hnext
    exact (countExact_step_iff hl hw hcount).1 hnext

/-- A station that connects, disconnects, and is then refused and disconnects. -/
def refusedRun : List ApEvent :=
  [.connect stationMac 1 true, .disconnect stationMac,
   .updateMac stationMac (.lit "02:00:00:00:00:01") (.lit "BLOCKED"),
   .connect stationMac 1 true, .disconnect stationMac]

/-- As long as the station is not blocked the counter follows it. -/
theorem connect_count_exact_admitted :
    StepSystem.EveryState step CountExact boot (refusedRun.take 3) :=
  (connect_count_exact_iff (refusedRun.take 3) ⟨by decide, by decide +kernel, trivial, trivial⟩).2
    ⟨trivial, by decide +kernel, trivial, trivial⟩

/-- When it is refused and leaves, the counter goes from 0 to 65535. -/
theorem connect_count_wraps : ¬ ∀ es : List ApEvent,
    StepSystem.EveryStep step Legal boot es → StepSystem.EveryState step CountExact boot es := by
  intro h
  have hlast := (h refusedRun ⟨by decide, by decide +kernel, trivial, by decide +kernel,
    by decide +kernel, trivial⟩).last
  exact hlast.2.2 (by decide +kernel)

end Network

end EspFirewall
