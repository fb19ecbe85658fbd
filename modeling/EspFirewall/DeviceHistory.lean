import Mathlib.Data.List.DropRight
import EspFirewall.DeviceUpdates
import EspFirewall.General.FirstSeen
import EspFirewall.PacketStream

/-!
# The device list over time (`add_device`, `/devices`, `/update_mac`)

`passes_from_history` looks a status up in the list.  Here the list itself is computed from what has
happened: stations that connect enter it until it is full, in the order in which they come, and an
`/update_mac` counts if it comes behind the first connection of its station.

* `devices_from_history`: what `/devices` shows behind any run.
* `passes_iff_posted`: which frames pass, with the status of the sender computed in this way.  No
  frame is dropped for its sender if that came when the list was full, whatever has been posted.
-/

set_option autoImplicit false

namespace EspFirewall

open CLang CJson

namespace FirewallInput

/-- The station that connects. -/
def station : FirewallInput → Option Mac
  | .event (.connect mac _ _) => some mac
  | _ => none

def isRestart : FirewallInput → Bool
  | .rules (.reboot _) => true
  | _ => false

/-- The status that is posted for a MAC. -/
def posted (mac : Mac) : FirewallInput → Option MacStatus
  | .event (.updateMac mac' _ statusStr) =>
    if mac' = mac then
      if statusStr = .lit "ALLOWED" then some .allowed
      else if statusStr = .lit "BLOCKED" then some .blocked
      else none
    else none
  | _ => none

end FirewallInput

namespace Firewall

/-- What has happened since the last restart. -/
def sinceRestart (is : List FirewallInput) : List FirewallInput :=
  is.rtakeWhile fun i => !i.isRestart

/-- The stations that have connected since. -/
def stations (is : List FirewallInput) : List Mac :=
  (sinceRestart is).filterMap FirewallInput.station

/-- Those of them that found room in the list. -/
def listedStations (is : List FirewallInput) : List Mac :=
  FirstSeen.register MAX_DEVICES (stations is)

/-- The status that was posted last for a station since its first connection. -/
def postedStatus (mac : Mac) (is : List FirewallInput) : MacStatus :=
  LastWrite.value .pending (((sinceRestart is).dropWhile fun i => i.station ≠ some mac).filterMap
    (FirewallInput.posted mac))

theorem sinceRestart_concat (is : List FirewallInput) (i : FirewallInput) :
    sinceRestart (is ++ [i]) = if i.isRestart then [] else sinceRestart is ++ [i] := by
  rw [sinceRestart, List.rtakeWhile_concat]
  cases i.isRestart <;> rfl

theorem stations_concat (is : List FirewallInput) {i : FirewallInput} (hi : i.isRestart = false) :
    stations (is ++ [i]) = stations is ++ i.station.toList := by
  rw [stations, sinceRestart_concat, if_neg (by rw [hi]; exact Bool.false_ne_true),
    List.filterMap_append, stations]
  cases h : i.station <;> simp [h]

theorem stations_restart (is : List FirewallInput) {i : FirewallInput} (hi : i.isRestart = true) :
    stations (is ++ [i]) = [] := by
  rw [stations, sinceRestart_concat, if_pos hi]
  rfl

/-! ## The MACs of the list -/

/-- A station that is turned away is in the list already. -/
theorem connect_devices_eq (mac : Mac) (aid : UInt8) (deauthOk : Bool) (s : ApState) :
    (apStaConnected mac aid deauthOk s).2.devices = addDevice mac s.devices := by
  rw [ApState.connect_devices]
  split
  · next hblocked =>
    have hexists : macExists mac s.devices = true :=
      macExists_of_statusOf (by rw [hblocked]; exact MacStatus.noConfusion)
    rw [addDevice, dif_neg fun h => Bool.noConfusion (hexists.symm.trans h.2)]
  · rfl

variable (originalApInput : Option Pbuf → ℤ)

/-- What an input does to the MACs of the list. -/
theorem macs_step (s : Firewall) {i : FirewallInput} (hi : i.isRestart = false) :
    (s.step originalApInput i).ap.devices.devices.map Device.mac =
      i.station.elim (s.ap.devices.devices.map Device.mac) fun mac =>
        (addDevice mac s.ap.devices).devices.map Device.mac := by
  cases i with
  | frame p => rfl
  | event e =>
    cases e with
    | connect mac aid deauthOk =>
      exact congrArg (fun t : DeviceTable => t.devices.map Device.mac)
        (connect_devices_eq mac aid deauthOk s.ap)
    | disconnect mac => rfl
    | updateMac mac macStr statusStr =>
      have hdevices : (s.step originalApInput
          (.event (.updateMac mac macStr statusStr))).ap.devices = _ :=
        updateMac_devices mac macStr statusStr s.ap.devices
      rw [hdevices]
      split
      · exact DeviceTable.setStatus_macs ..
      · split
        · exact DeviceTable.setStatus_macs ..
        · rfl
  | rules op =>
    cases op with
    | reboot out => exact absurd hi.symm Bool.false_ne_true
    | _ => rfl

theorem ap_restart (s : Firewall) {i : FirewallInput} (hi : i.isRestart = true) :
    (s.step originalApInput i).ap = .boot := by
  cases i with
  | frame p => exact absurd hi Bool.false_ne_true
  | event e => exact absurd hi Bool.false_ne_true
  | rules op =>
    cases op with
    | reboot out => rfl
    | _ => exact absurd hi Bool.false_ne_true

variable (filter : ServiceFilter)

/-- The router behind a run. -/
abbrev behind (is : List FirewallInput) : Firewall :=
  StepSystem.run (step originalApInput) ⟨.boot, filter⟩ is

/-- **The MACs of the list behind a run.** -/
theorem macs_run (is : List FirewallInput) :
    (behind originalApInput filter is).ap.devices.devices.map Device.mac = listedStations is := by
  induction is using List.reverseRecOn with
  | nil => rfl
  | append_singleton is i ih =>
    rw [behind, StepSystem.run_concat, listedStations]
    cases hi : i.isRestart with
    | true =>
      rw [ap_restart _ _ hi, stations_restart is hi]
      rfl
    | false =>
      rw [macs_step _ _ hi, stations_concat is hi]
      cases i.station with
      | none => rw [Option.elim_none, Option.toList_none, List.append_nil, ih, listedStations]
      | some mac =>
        have hlen : (behind originalApInput filter is).ap.devices.devices.length =
            (listedStations is).length := by rw [← ih, List.length_map]
        have hnew : macExists mac (behind originalApInput filter is).ap.devices = false ↔
            mac ∉ listedStations is := by
          rw [← ih, ← macExists_iff, Bool.not_eq_true]
        rw [Option.elim_some, Option.toList_some, addDevice_macs, FirstSeen.register_concat, ih]
        simp only [hlen, hnew]
        rfl

/-! ## Their statuses -/

/-- An input that is no restart is the last one since the restart. -/
theorem postedStatus_concat {mac : Mac} {is : List FirewallInput} {i : FirewallInput}
    (hi : i.isRestart = false) (hmac : mac ∈ stations is) :
    postedStatus mac (is ++ [i]) = (i.posted mac).getD (postedStatus mac is) := by
  have hne : ((sinceRestart is).dropWhile fun i => i.station ≠ some mac).isEmpty = false := by
    obtain ⟨j, hj, hstation⟩ := List.mem_filterMap.1 hmac
    rw [List.isEmpty_eq_false_iff]
    intro hempty
    exact of_decide_eq_true (List.dropWhile_eq_nil_iff.1 hempty j hj) hstation
  rw [postedStatus, sinceRestart_concat, if_neg (by rw [hi]; exact Bool.false_ne_true),
    List.dropWhile_append, if_neg (by rw [hne]; exact Bool.false_ne_true),
    LastWrite.value_filterMap_concat]
  rfl

/-- Nothing has been posted for a station that connects for the first time. -/
theorem postedStatus_first {mac : Mac} {is : List FirewallInput} {i : FirewallInput}
    (hi : i.isRestart = false) (hmac : mac ∉ stations is) (hstation : i.station = some mac) :
    postedStatus mac (is ++ [i]) = .pending := by
  have hall : ∀ j ∈ sinceRestart is, decide (j.station ≠ some mac) = true := fun j hj =>
    decide_eq_true fun h => hmac (List.mem_filterMap.2 ⟨j, hj, h⟩)
  have hnone : ∀ {j : FirewallInput}, j.station = some mac → j.posted mac = none := by
    rintro (p | (⟨mac', aid, deauthOk⟩ | mac' | ⟨mac', macStr, statusStr⟩) | op) h
    all_goals first | rfl | exact absurd h.symm (Option.some_ne_none mac)
  rw [postedStatus, sinceRestart_concat, if_neg (by rw [hi]; exact Bool.false_ne_true),
    List.dropWhile_append_of_pos hall]
  simp [hstation, hnone hstation, LastWrite.value]

/-- The status of a MAC that is not in the list. -/
theorem statusOf_of_notMem {t : DeviceTable} {mac : Mac} (h : mac ∉ t.devices.map Device.mac) :
    t.statusOf mac = .pending := by
  by_contra hstatus
  exact h (macExists_iff.1 (macExists_of_statusOf hstatus))

/-- **The status of a station that is in the list.** -/
theorem statusOf_listed (is : List FirewallInput) {mac : Mac} (hmac : mac ∈ listedStations is) :
    (behind originalApInput filter is).ap.devices.statusOf mac = postedStatus mac is := by
  induction is using List.reverseRecOn with
  | nil => exact absurd hmac List.not_mem_nil
  | append_singleton is i ih =>
    have hi : i.isRestart = false := by
      by_contra hrestart
      rw [Bool.not_eq_false] at hrestart
      rw [listedStations, stations_restart is hrestart] at hmac
      exact List.not_mem_nil hmac
    rw [behind, StepSystem.run_concat, statusOf_step]
    by_cases hbefore : mac ∈ listedStations is
    · have hexists : macExists mac (behind originalApInput filter is).ap.devices = true :=
        macExists_iff.2 (macs_run originalApInput filter is ▸ hbefore)
      have hwrite : statusWrite mac (behind originalApInput filter is) i = i.posted mac := by
        rcases i with p | (⟨mac', aid, deauthOk⟩ | mac' | ⟨mac', macStr, statusStr⟩) | op
        · rfl
        · rfl
        · rfl
        · simp only [statusWrite, FirewallInput.posted, hexists, and_true]
        · cases op with
          | reboot out => exact absurd hi.symm Bool.false_ne_true
          | _ => rfl
      rw [postedStatus_concat hi (FirstSeen.mem_of_mem_register hbefore), ← ih hbefore, hwrite]
    · -- The station enters the list.
      have hstation : i.station = some mac ∧ mac ∉ stations is := by
        rw [listedStations, stations_concat is hi] at hmac
        cases hs : i.station with
        | none =>
          rw [hs, Option.toList_none, List.append_nil] at hmac
          exact absurd hmac hbefore
        | some mac' =>
          rw [hs, Option.toList_some] at hmac
          obtain ⟨rfl, hnew⟩ := FirstSeen.of_entered hbefore hmac
          exact ⟨rfl, hnew⟩
      have hunlisted := statusOf_of_notMem (macs_run originalApInput filter is ▸ hbefore)
      have hnone : statusWrite mac (behind originalApInput filter is) i = none := by
        rcases i with p | (⟨mac', aid, deauthOk⟩ | mac' | ⟨mac', macStr, statusStr⟩) | op
        all_goals first | rfl | exact absurd hstation.1.symm (Option.some_ne_none mac)
      rw [postedStatus_first hi hstation.2 hstation.1, hnone, Option.getD_none, hunlisted]

/-- In a list without duplicates, an entry is its MAC and what the list says about it. -/
theorem devices_eq_map {t : DeviceTable} (h : (t.devices.map Device.mac).Nodup) :
    t.devices = (t.devices.map Device.mac).map fun mac => ⟨mac, t.statusOf mac⟩ := by
  rw [List.map_map]
  refine (List.map_id _).symm.trans (List.map_congr_left fun d hd => ?_)
  rw [id_eq, Function.comp_apply, statusOf_of_mem hd h]

variable {Num : Type}

/-- **What `/devices` shows, from the history**: the first stations that have connected since the
last restart, as many as there is room for, in the order of their first connections; each with the
status that was posted for it last, since it connected first. -/
theorem devices_from_history (is : List FirewallInput) :
    (getDevicesHandler (behind originalApInput filter is).ap.devices : List (Item Num)) =
      (listedStations is).map fun mac => .object [(.lit "mac", .string (macText mac)),
        (.lit "status", .string (postedStatus mac is).text)] := by
  have hmacs := macs_run originalApInput filter is
  have hnodup := FirstSeen.nodup_register MAX_DEVICES (stations is)
  rw [getDevicesHandler, devices_eq_map (hmacs ▸ hnodup), List.map_map, hmacs]
  refine List.map_congr_left fun mac hmac => ?_
  rw [Function.comp_apply, statusOf_listed originalApInput filter is hmac]

/-- **A frame and what was posted before it.** -/
theorem passes_iff_posted (is : List FirewallInput) {p : Pbuf} (hp : Ipv4Frame p) :
    let s := behind originalApInput filter is
    s.Passes p ↔ p.srcMac = adminMac ∨
      (¬ (p.srcMac ∈ listedStations is ∧ postedStatus p.srcMac is = .blocked) ∧
        (p.proto = IP_PROTO_TCP ∨ p.proto = IP_PROTO_UDP →
          portPolicy s.filter.custom.rules s.filter.services p.proto p.dstPort = true)) := by
  intro s
  have hblocked : s.ap.devices.statusOf p.srcMac = .blocked ↔
      p.srcMac ∈ listedStations is ∧ postedStatus p.srcMac is = .blocked := by
    by_cases hmac : p.srcMac ∈ listedStations is
    · rw [statusOf_listed originalApInput filter is hmac, and_iff_right hmac]
    · rw [statusOf_of_notMem (macs_run originalApInput filter is ▸ hmac)]
      exact iff_of_false (fun h => MacStatus.noConfusion h) fun h => hmac h.1
  rw [Passes, forall_prop_of_true hp, FramePolicy, ← hblocked]

end Firewall

end EspFirewall
