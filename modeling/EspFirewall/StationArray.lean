import Mathlib.Data.List.Induction
import EspFirewall.General.CountedArray
import EspFirewall.Stations

/-!
# `connected_macs` in memory (`wifi_event_handler`)

`Stations` has the connected stations as a list that fits in the array.  Here they are the array
itself with its count, an `int` that the handler adds to and subtracts from, and a station that leaves
is taken out by moving the rest of the array.  `ApMemory.Shows` says that the array stands for the
list, and the handlers preserve it.

What the list should be is said by the events alone: `stillAdmitted` goes through those that have
happened and keeps the connects that were admitted and after which the same station neither
disconnects nor connects again.  `connected_macs_exact` says that the array has just these.
-/

set_option autoImplicit false

namespace EspFirewall

open CLang

/-! ## The handlers -/

/-- The globals of `ApState`, with `connected_macs` and `connected_count` as they are in memory. -/
structure ApMemory where
  devices : DeviceTable
  /-- `connected_macs` and `connected_count`. -/
  connected : CountedArray Mac
  connectCount : UInt16
  logs : List LogCall

namespace ApMemory

/-- The memory after a reset, with something in the array. -/
def boot (slots : ℤ → Mac) : ApMemory := ⟨.empty, ⟨slots, 0⟩, 0, []⟩

/-- `add_log_line`. -/
def log (calls : List LogCall) (m : ApMemory) : ApMemory := { m with logs := m.logs ++ calls }

/-- The branch for `WIFI_EVENT_AP_STACONNECTED`.  That a blocked station is thrown out again does not
change the memory. -/
def apStaConnected (mac : Mac) (deauthOk : Bool) (m : ApMemory) : ApMemory :=
  if m.devices.statusOf mac = .blocked then
    let m := m.log [.fmt "Blocked device attempting connection" []]
    if deauthOk then m.log [.fmt "Blocked MAC:" [], .text (macText mac)] else m
  else
    { m with
      connected := m.connected.push MAX_CONNECTED_DEVICES mac
      connectCount := m.connectCount + 1
      devices := addDevice mac m.devices
      logs := m.logs ++
        [.fmt "Device connected" [], .fmt "MAC:" [], .text (macText mac)] }

/-- The branch for `WIFI_EVENT_AP_STADISCONNECTED`. -/
def apStaDisconnected (mac : Mac) (m : ApMemory) : ApMemory :=
  { m with
    connected := m.connected.erase mac
    connectCount := m.connectCount - 1
    logs := m.logs ++ [.fmt "Device disconnected" [], .fmt "MAC:" [], .text (macText mac)] }

/-- `update_mac_handler`, once the request is parsed. -/
def updateMac (mac : Mac) (macStr statusStr : CString) (m : ApMemory) : ApMemory :=
  let (_, devices, logs) := EspFirewall.updateMac mac macStr statusStr m.devices
  { m with devices := devices, logs := m.logs ++ logs }

/-- One event. -/
def step (m : ApMemory) : ApEvent → ApMemory
  | .connect mac _ deauthOk => m.apStaConnected mac deauthOk
  | .disconnect mac => m.apStaDisconnected mac
  | .updateMac mac macStr statusStr => m.updateMac mac macStr statusStr

/-! ## The array and the list -/

/-- The memory is in the state `s`: the array stands for its list. -/
structure Shows (m : ApMemory) (s : ApState) : Prop where
  devices : m.devices = s.devices
  macs : m.connected.toList = s.connected.macs
  count_nonneg : 0 ≤ m.connected.count
  connectCount : m.connectCount = s.connectCount
  logs : m.logs = s.logs

theorem shows_boot (slots : ℤ → Mac) : (boot slots).Shows .boot :=
  ⟨rfl, rfl, Int.le_refl 0, rfl, rfl⟩

variable {m : ApMemory} {s : ApState}

/-- The count is the length of the list. -/
theorem Shows.count_eq (h : m.Shows s) : m.connected.count = s.connected.macs.length := by
  rw [← h.macs, CountedArray.length_toList, Int.toNat_of_nonneg h.count_nonneg]

/-- A station is entered in the array as in the list. -/
theorem Shows.push (h : m.Shows s) (mac : Mac) :
    (m.connected.push MAX_CONNECTED_DEVICES mac).toList = (s.connected.add mac).macs ∧
      0 ≤ (m.connected.push MAX_CONNECTED_DEVICES mac).count := by
  have hcount := h.count_eq
  have hnonneg := h.count_nonneg
  rw [ConnectedList.add]
  split
  · next hroom =>
    have hlt : m.connected.count < (MAX_CONNECTED_DEVICES : ℤ) := by omega
    refine ⟨?_, ?_⟩
    · rw [CountedArray.toList_push mac hnonneg hlt, h.macs]
    · rw [CountedArray.push, if_pos hlt]
      dsimp only
      omega
  · next hfull =>
    have hge : ¬ m.connected.count < (MAX_CONNECTED_DEVICES : ℤ) := by omega
    rw [CountedArray.push, if_neg hge]
    exact ⟨h.macs, hnonneg⟩

/-- It is taken out of the array as out of the list. -/
theorem Shows.erase (h : m.Shows s) (mac : Mac) :
    (m.connected.erase mac).toList = (s.connected.remove mac).macs ∧
      0 ≤ (m.connected.erase mac).count := by
  refine ⟨?_, CountedArray.erase_count_nonneg mac h.count_nonneg⟩
  rw [CountedArray.toList_erase mac h.count_nonneg, h.macs]
  rfl

/-- **An event does to the memory what it does to the state.** -/
theorem Shows.step {w : Network} (h : m.Shows w.ap) (e : ApEvent) :
    (m.step e).Shows (w.step e).ap := by
  rcases e with ⟨mac, aid, deauthOk⟩ | mac | ⟨mac, macStr, statusStr⟩
  · obtain ⟨hmacs, hnonneg⟩ := h.push mac
    rw [ApMemory.step, apStaConnected, Network.step, EspFirewall.apStaConnected, h.devices]
    split
    · rcases deauthOk with _ | _
      · exact ⟨h.devices, h.macs, h.count_nonneg, h.connectCount,
          congrArg (· ++ _) h.logs⟩
      · exact ⟨h.devices, h.macs, h.count_nonneg, h.connectCount,
          congrArg (fun l => (l ++ _) ++ _) h.logs⟩
    · exact ⟨rfl, hmacs, hnonneg, congrArg (· + 1) h.connectCount,
        congrArg (· ++ _) h.logs⟩
  · obtain ⟨hmacs, hnonneg⟩ := h.erase mac
    exact ⟨h.devices, hmacs, hnonneg, congrArg (· - 1) h.connectCount, congrArg (· ++ _) h.logs⟩
  · rw [ApMemory.step, updateMac, Network.step, ApState.updateMac, h.devices]
    exact ⟨rfl, h.macs, h.count_nonneg, h.connectCount, congrArg (· ++ _) h.logs⟩

/-- **A run** leaves the memory in the state that it leads to, whatever happens in it. -/
theorem shows_run (slots : ℤ → Mac) (es : List ApEvent) :
    (StepSystem.run step (boot slots) es).Shows (StepSystem.run Network.step .boot es).ap := by
  induction es using List.reverseRecOn with
  | nil => exact shows_boot slots
  | append_singleton es e ih =>
    rw [StepSystem.run_concat, StepSystem.run_concat]
    exact ih.step e

/-! ## What the events say -/

/-- The station that an event admits. -/
def admits (m : ApMemory) : ApEvent → Option Mac
  | .connect mac _ _ => if m.devices.statusOf mac = .blocked then none else some mac
  | .disconnect _ => none
  | .updateMac _ _ _ => none

end ApMemory

/-- The event is a station connecting or disconnecting. -/
def ApEvent.concerns (mac : Mac) : ApEvent → Bool
  | .connect m _ _ => mac == m
  | .disconnect m => mac == m
  | .updateMac _ _ _ => false

namespace ApMemory

/-- The station that event number `i` admits, unless a later one is about the same station. -/
def admittedAt (slots : ℤ → Mac) (es : List ApEvent) (i : ℕ) : Option Mac :=
  (es[i]?.bind (StepSystem.run step (boot slots) (es.take i)).admits).filter fun mac =>
    (es.drop (i + 1)).all fun e => !e.concerns mac

/-- The stations whose last connect was admitted and which have not disconnected since, in the order
of these connects. -/
def stillAdmitted (slots : ℤ → Mac) (es : List ApEvent) : List Mac :=
  (List.range es.length).filterMap (admittedAt slots es)

/-- An event takes its station out of the list, and may enter it at the end. -/
theorem stillAdmitted_concat (slots : ℤ → Mac) (es : List ApEvent) (e : ApEvent) :
    stillAdmitted slots (es ++ [e]) =
      (stillAdmitted slots es).filter (fun mac => !e.concerns mac) ++
        ((StepSystem.run step (boot slots) es).admits e).toList := by
  have hbefore : ∀ i ∈ List.range es.length, admittedAt slots (es ++ [e]) i =
      (admittedAt slots es i).filter fun mac => !e.concerns mac := by
    intro i hi
    have hlt : i < es.length := List.mem_range.1 hi
    rw [admittedAt, admittedAt, List.getElem?_append_left hlt, List.take_append_of_le_length hlt.le,
      List.drop_append_of_le_length hlt, Option.filter_filter]
    refine congrArg (Option.filter · _) (funext fun mac => ?_)
    rw [List.all_append, List.all_cons, List.all_nil, Bool.and_true, Bool.and_comm]
  have hlast : admittedAt slots (es ++ [e]) es.length =
      (StepSystem.run step (boot slots) es).admits e := by
    rw [admittedAt, List.getElem?_concat_length, List.take_left, List.drop_eq_nil_of_le]
    · rw [Option.bind_some]
      cases (StepSystem.run step (boot slots) es).admits e <;> rfl
    · rw [List.length_append]
      exact Nat.le_refl _
  rw [stillAdmitted, stillAdmitted, List.length_append, List.length_singleton, List.range_succ,
    List.filterMap_append, List.filter_filterMap, List.filterMap_congr hbefore]
  refine congrArg _ ?_
  rw [List.filterMap_cons, hlast, List.filterMap_nil]
  cases (StepSystem.run step (boot slots) es).admits e <;> rfl

/-- **What an event does to the admitted stations.** -/
theorem admitted_step {m : ApMemory} {w : Network} (h : m.Shows w.ap) (hw : w.Inv) {e : ApEvent}
    (hlegal : w.Legal e) :
    (w.step e).admitted =
      w.admitted.filter (fun mac => !e.concerns mac) ++ (m.admits e).toList := by
  rcases e with ⟨mac, aid, deauthOk⟩ | mac | ⟨mac, macStr, statusStr⟩
  · have hkeep : w.admitted.filter (fun x => !(ApEvent.connect mac aid deauthOk).concerns x) =
        w.admitted := by
      refine List.filter_eq_self.2 fun x hx => ?_
      have hne : x ≠ mac := fun heq => hlegal.1 (heq ▸ hw.subset hx)
      rw [ApEvent.concerns, beq_false_of_ne hne]
      rfl
    rw [hkeep, admits, h.devices]
    split
    · next hblocked =>
      rw [(Network.step_connect_blocked aid deauthOk hblocked).2.2.2]
      exact (List.append_nil _).symm
    · next hblocked => exact (Network.step_connect_admitted aid deauthOk hblocked).2.2.2
  · rw [admits, Option.toList_none, List.append_nil]
    exact hw.nodup.erase_eq_filter mac
  · rw [admits, Option.toList_none, List.append_nil]
    exact (List.filter_eq_self.2 fun _ _ => rfl).symm

/-- The admitted stations of a legal run. -/
theorem admitted_eq_stillAdmitted (slots : ℤ → Mac) {es : List ApEvent}
    (hlegal : StepSystem.EveryStep Network.step Network.Legal .boot es) :
    (StepSystem.run Network.step .boot es).admitted = stillAdmitted slots es := by
  induction es using List.reverseRecOn with
  | nil => rfl
  | append_singleton es e ih =>
    obtain ⟨hbefore, he⟩ := StepSystem.everyStep_concat.1 hlegal
    have hinv := (Network.everyState_inv es hbefore).last
    rw [StepSystem.run_concat, stillAdmitted_concat, admitted_step (shows_run slots es) hinv he,
      ih hbefore]

/-- **`connected_macs` is exact** after every legal run: the slots in use hold the stations whose last
connect was admitted and which have not disconnected since, in order of admission and each once, and
there are never fewer than none of them or more than fit. -/
theorem connected_macs_exact (slots : ℤ → Mac) (es : List ApEvent)
    (hlegal : StepSystem.EveryStep Network.step Network.Legal .boot es) :
    (StepSystem.run step (boot slots) es).connected.toList = stillAdmitted slots es ∧
      (StepSystem.run step (boot slots) es).connected.toList.Nodup ∧
      0 ≤ (StepSystem.run step (boot slots) es).connected.count ∧
      (StepSystem.run step (boot slots) es).connected.count ≤ MAX_CONNECTED_DEVICES := by
  have hshows := shows_run slots es
  have hinv := (Network.everyState_inv es hlegal).last
  have hlist : (StepSystem.run step (boot slots) es).connected.toList =
      (StepSystem.run Network.step .boot es).admitted := hshows.macs.trans hinv.listed
  refine ⟨?_, ?_, hshows.count_nonneg, ?_⟩
  · rw [hlist, admitted_eq_stillAdmitted slots hlegal]
  · rw [hlist]
    exact hinv.nodup
  · rw [hshows.count_eq]
    exact Int.ofNat_le.2 (ConnectedList.length_le _)

/-- Two stations connect, the first is blocked and leaves, and is refused when it comes back. -/
def leavingRun : List ApEvent :=
  [.connect stationMac 1 true, .connect otherMac 2 true,
    .updateMac stationMac (.lit "02:00:00:00:00:01") (.lit "BLOCKED"), .disconnect stationMac,
    .connect stationMac 1 true]

/-- The second one is left, in the first slot. -/
theorem connected_macs_exact_leavingRun :
    stillAdmitted (fun _ => stationMac) leavingRun = [otherMac] ∧
      (StepSystem.run step (boot fun _ => stationMac) leavingRun).connected.toList =
        stillAdmitted (fun _ => stationMac) leavingRun ∧
      (StepSystem.run step (boot fun _ => stationMac) leavingRun).connected.toList.Nodup ∧
      0 ≤ (StepSystem.run step (boot fun _ => stationMac) leavingRun).connected.count ∧
      (StepSystem.run step (boot fun _ => stationMac) leavingRun).connected.count ≤
        MAX_CONNECTED_DEVICES :=
  ⟨by decide +kernel, connected_macs_exact (fun _ => stationMac) leavingRun (by decide +kernel)⟩

end ApMemory

end EspFirewall
