import EspFirewall.Blocking
import EspFirewall.General.Loop
import EspFirewall.ServiceFilter.Flags

/-!
# The firewall as a stream of frames (`netif_hook.c`, `packet_filter.c`)

`Packet` is about one frame.  Here frames arrive one after the other, and in between stations come
and go, devices are blocked and allowed, rules are changed and the router restarts.

* `frames_handled_once`: every frame is handed on or freed, once, in the order of arrival, and which
  of the two is what the policy says at that moment.
* `passes_from_history`: of the device, the policy looks at the last status that a request has given
  to it since the last restart.
* `frame_after_setBlocked`: which frames are concerned when a service is blocked or allowed.
* `delivered_iff`: all this needs that the hook has been installed, and not more than once.
-/

set_option autoImplicit false

namespace EspFirewall

open CLang

/-- What the hook decides from: the globals on the access point's side, and the service filter. -/
structure Firewall where
  ap : ApState
  filter : ServiceFilter

/-- What happens to the firewall. -/
inductive FirewallInput
  /-- A frame arrives. -/
  | frame (p : Pbuf)
  /-- A station comes or goes, or a request changes its status. -/
  | event (e : ApEvent)
  /-- A call of the service filter, or a restart. -/
  | rules (op : ServiceOp)

/-- The frame that arrives. -/
def FirewallInput.pbuf : FirewallInput → Option Pbuf
  | .frame p => some p
  | _ => none

/-- The frame that a call of the hook is about. -/
def HookCall.pbuf : HookCall → Option Pbuf
  | .originalApInput p => p
  | .pbufFree p => some p

namespace Firewall

/-- The firewall behind an input.  A restart forgets the devices and loads the rules. -/
def step (originalApInput : Option Pbuf → ℤ) (s : Firewall) : FirewallInput → Firewall
  | .frame p => { s with ap := s.ap.handle (.packet originalApInput s.filter (some p)) }
  | .event e => { s with ap := s.ap.handle (.event e) }
  | .rules (.reboot out) => ⟨.boot, s.filter.step (.reboot out)⟩
  | .rules op => { s with filter := s.filter.step op }

/-- What the hook does with what arrives. -/
def hookCalls (originalApInput : Option Pbuf → ℤ) (s : Firewall) : FirewallInput → List HookCall
  | .frame p => (apNetifInputHook originalApInput s.ap.devices s.filter (some p)).calls
  | _ => []

/-- The frame may pass: it is not one that the hook looks at, or the policy lets it through. -/
def Passes (s : Firewall) (p : Pbuf) : Prop :=
  Ipv4Frame p → FramePolicy s.ap.devices s.filter.custom.rules s.filter.services p.srcMac p.proto
    p.dstPort

variable (originalApInput : Option Pbuf → ℤ)

/-! ## One frame -/

/-- The policy on a frame does not need what the hook reads for other protocols as a port. -/
theorem isPacketAllowed_frame_iff {s : Firewall} (hs : s.filter.Reachable) (p : Pbuf) :
    (isPacketAllowed s.ap.devices s.filter p.srcMac p.proto p.ports.1 p.ports.2).1 = true ↔
      FramePolicy s.ap.devices s.filter.custom.rules s.filter.services p.srcMac p.proto
        p.dstPort :=
  (isPacketAllowed_iff hs.inv.countExact.below s.ap.devices p.srcMac p.proto p.ports.1
    p.ports.2).trans (framePolicy_congr Pbuf.ports_snd)

/-- **What the hook does with a frame.** -/
theorem hookCalls_frame {s : Firewall} (hs : s.filter.Reachable) (p : Pbuf) :
    (s.Passes p ∧ hookCalls originalApInput s (.frame p) = [.originalApInput (some p)]) ∨
      (¬ s.Passes p ∧ hookCalls originalApInput s (.frame p) = [.pbufFree p]) := by
  by_cases hp : Ipv4Frame p
  · rw [Passes, forall_prop_of_true hp, hookCalls, apNetifInputHook_ipv4 hp,
      ← isPacketAllowed_frame_iff hs p]
    split
    · next hallowed => exact .inl ⟨hallowed, rfl⟩
    · next hdenied => exact .inr ⟨hdenied, rfl⟩
  · exact .inl ⟨fun h => absurd h hp, apNetifInputHook_other hp ..⟩

/-- It is about that frame and no other, once. -/
theorem hookCalls_pbuf {s : Firewall} (hs : s.filter.Reachable) (i : FirewallInput) :
    (hookCalls originalApInput s i).filterMap HookCall.pbuf = i.pbuf.toList := by
  cases i with
  | frame p => rcases hookCalls_frame originalApInput hs p with ⟨-, h⟩ | ⟨-, h⟩ <;> rw [h] <;> rfl
  | event e => rfl
  | rules op => rfl

theorem step_rules_filter (s : Firewall) (op : ServiceOp) :
    (s.step originalApInput (.rules op)).filter = s.filter.step op := by
  cases op <;> rfl

/-- Every step leaves the service filter in a reachable state. -/
theorem reachable_step (s : Firewall) (i : FirewallInput) (hs : s.filter.Reachable) :
    (s.step originalApInput i).filter.Reachable := by
  cases i with
  | frame p => exact hs
  | event e => exact hs
  | rules op =>
    rw [step_rules_filter]
    exact hs.next op

theorem reachable_run {s : Firewall} (hs : s.filter.Reachable) (is : List FirewallInput) :
    (StepSystem.run (step originalApInput) s is).filter.Reachable :=
  (StepSystem.everyState_of_invariant (fun s i (_ : True) => reachable_step originalApInput s i)
    (.of_forall fun _ _ => trivial) hs).last

/-! ## All frames -/

/-- **Every frame is handled once.**  In every run the hook makes one call for each frame that
arrives, in the order of arrival and with the frame as it is.  The call hands the frame on exactly if
the policy lets it through, as the tables are at that moment, and frees it otherwise. -/
theorem frames_handled_once {s : Firewall} (hs : s.filter.Reachable) (is : List FirewallInput) :
    (StepSystem.outputs (step originalApInput) (hookCalls originalApInput) s is).filterMap
        HookCall.pbuf = is.filterMap FirewallInput.pbuf ∧
      ∀ before p later, is = before ++ .frame p :: later →
        ∃ c, StepSystem.outputs (step originalApInput) (hookCalls originalApInput) s is =
            StepSystem.outputs (step originalApInput) (hookCalls originalApInput) s before ++
              c :: StepSystem.outputs (step originalApInput) (hookCalls originalApInput)
                (StepSystem.run (step originalApInput) s (before ++ [.frame p])) later ∧
          ((StepSystem.run (step originalApInput) s before).Passes p →
            c = .originalApInput (some p)) ∧
          (¬ (StepSystem.run (step originalApInput) s before).Passes p → c = .pbufFree p) := by
  constructor
  · induction is generalizing s with
    | nil => rfl
    | cons i is ih =>
      rw [StepSystem.outputs, List.filterMap_append, hookCalls_pbuf originalApInput hs i,
        ih (reachable_step originalApInput s i hs), List.filterMap_cons]
      cases i <;> rfl
  · rintro before p later rfl
    have hbefore := reachable_run originalApInput hs before
    rw [StepSystem.outputs_append, StepSystem.outputs, StepSystem.run_concat]
    rcases hookCalls_frame originalApInput hbefore p with
      ⟨hpass, hcalls⟩ | ⟨hstop, hcalls⟩
    · exact ⟨_, by rw [hcalls]; rfl, fun _ => rfl, fun h => absurd hpass h⟩
    · exact ⟨_, by rw [hcalls]; rfl, fun h => absurd h hstop, fun _ => rfl⟩

/-- The firewall of a device that has just started. -/
def firstBoot : Firewall := ⟨.boot, bootServiceFilter .ok .empty⟩

theorem firstBoot_reachable : firstBoot.filter.Reachable := .init ⟨.ok, rfl⟩

/-- A frame from a station to port 22. -/
def sshFrame : Pbuf :=
  ⟨60, fun i => [0, 0, 0, 0, 0, 0, 2, 0, 0, 0, 0, 1, 8, 0, 0x45, 0, 0, 46, 0, 0, 0, 0, 64, 6, 0, 0,
    192, 168, 4, 2, 10, 0, 0, 1, 0xC0, 0, 0, 22].getD i 0⟩

/-- SSH is blocked between two frames. -/
theorem frames_handled_once_ssh :
    (StepSystem.outputs (step fun _ => 0) (hookCalls fun _ => 0) firstBoot
      [.frame sshFrame, .rules (.setBlocked .ok 3 true), .frame sshFrame]).filterMap HookCall.pbuf =
        [sshFrame, sshFrame] :=
  (frames_handled_once (fun _ => 0) firstBoot_reachable _).1

/-! ## The status of a device -/

/-- What an input writes to the status of a MAC: an `/update_mac` for it, if it is in the list, and
a restart. -/
def statusWrite (mac : Mac) (s : Firewall) : FirewallInput → Option MacStatus
  | .event (.updateMac mac' _ statusStr) =>
    if mac' = mac ∧ macExists mac s.ap.devices = true then
      if statusStr = .lit "ALLOWED" then some .allowed
      else if statusStr = .lit "BLOCKED" then some .blocked
      else none
    else none
  | .rules (.reboot _) => some .pending
  | _ => none

/-- What the requests since the last restart have made of the status of a MAC. -/
def lastStatus (mac : Mac) (s : Firewall) (is : List FirewallInput) : MacStatus :=
  LastWrite.value (s.ap.devices.statusOf mac)
    (LastWrite.writes (step originalApInput) (statusWrite mac) s is)

/-- An `/update_mac` with one of the two words for a MAC of the list. -/
theorem updateMac_statusOf (mac mac' : Mac) (macStr statusStr : CString) (s : Firewall) :
    (s.step originalApInput (.event (.updateMac mac' macStr statusStr))).ap.devices.statusOf mac =
      (statusWrite mac s (.event (.updateMac mac' macStr statusStr))).getD
        (s.ap.devices.statusOf mac) := by
  have hdevices : (s.step originalApInput
      (.event (.updateMac mac' macStr statusStr))).ap.devices = _ :=
    updateMac_devices mac' macStr statusStr s.ap.devices
  rw [hdevices, statusWrite]
  by_cases hmac : mac' = mac
  · subst hmac
    by_cases hexists : macExists mac' s.ap.devices = true
    · simp only [hexists, and_self, true_and, if_true]
      split
      · exact DeviceTable.statusOf_setStatus_self hexists .allowed
      split
      · exact DeviceTable.statusOf_setStatus_self hexists .blocked
      · rfl
    · rw [if_neg fun h => hexists h.1, if_neg fun h => hexists h.1, if_neg fun h => hexists h.2]
      rfl
  · rw [if_neg fun h : mac' = mac ∧ _ => hmac h.1]
    split
    · exact DeviceTable.statusOf_setStatus_of_ne (Ne.symm hmac) .allowed s.ap.devices
    split
    · exact DeviceTable.statusOf_setStatus_of_ne (Ne.symm hmac) .blocked s.ap.devices
    · rfl

theorem statusOf_step (mac : Mac) (s : Firewall) (i : FirewallInput) :
    (s.step originalApInput i).ap.devices.statusOf mac =
      (statusWrite mac s i).getD (s.ap.devices.statusOf mac) := by
  cases i with
  | frame p => rfl
  | event e =>
    cases e with
    | connect mac' aid deauthOk =>
      have hdevices : (s.step originalApInput (.event (.connect mac' aid deauthOk))).ap.devices =
        _ := ApState.connect_devices mac' aid deauthOk s.ap
      rw [hdevices]
      split
      · rfl
      · exact statusOf_addDevice mac' mac s.ap.devices
    | disconnect mac' => rfl
    | updateMac mac' macStr statusStr =>
      exact updateMac_statusOf originalApInput mac mac' macStr statusStr s
  | rules op => cases op <;> rfl

/-- The status of a MAC is the last one that was written to it. -/
theorem statusOf_run (mac : Mac) (s : Firewall) (is : List FirewallInput) :
    (StepSystem.run (step originalApInput) s is).ap.devices.statusOf mac =
      lastStatus originalApInput mac s is :=
  LastWrite.view_run' (fun s : Firewall => s.ap.devices.statusOf mac)
    (statusOf_step originalApInput mac) s is

/-- **A frame and the requests before it.**  Whether a frame that the hook looks at passes depends on
the device only through the last request about it that found it in the list since the last restart,
whichever stations have come and gone and whatever else was asked for. -/
theorem passes_from_history (s : Firewall) (before : List FirewallInput) {p : Pbuf}
    (hp : Ipv4Frame p) :
    let s' := StepSystem.run (step originalApInput) s before
    s'.Passes p ↔ p.srcMac = adminMac ∨
      (lastStatus originalApInput p.srcMac s before ≠ .blocked ∧
        (p.proto = IP_PROTO_TCP ∨ p.proto = IP_PROTO_UDP →
          portPolicy s'.filter.custom.rules s'.filter.services p.proto p.dstPort = true)) := by
  intro s'
  rw [Passes, forall_prop_of_true hp, FramePolicy, statusOf_run]

/-- No frame passes behind the request that blocks its sender. -/
theorem passes_from_history_blocked :
    ¬ (StepSystem.run (step fun _ => 0) firstBoot [.event (.connect stationMac 1 true),
      .event (.updateMac stationMac (macText stationMac) (.lit "BLOCKED"))]).Passes sshFrame :=
  fun h => ((passes_from_history (fun _ => 0) firstBoot _ (by decide : Ipv4Frame sshFrame)).1 h).elim
    (absurd · (by decide)) fun h => absurd (by decide) h.1

/-! ## Which frames a change concerns -/

/-- The frame belongs to the service, and nothing that comes before the service decides it. -/
structure Concerns (s : Firewall) (i : Fin SVC_BUILTIN_COUNT) (p : Pbuf) : Prop where
  ipv4 : Ipv4Frame p
  notAdmin : p.srcMac ≠ adminMac
  notBlocked : s.ap.devices.statusOf p.srcMac ≠ .blocked
  serves : ServesPort i p.proto p.dstPort
  noCustom : customVerdict s.filter.custom.rules p.proto p.dstPort = none

/-- **Which frames `service_set_blocked` concerns.**  The frames of the service, as long as they are
not the admin's or a blocked device's and no custom rule is about them, pass right after the call
exactly if it is not blocked.  All other frames fare as before. -/
theorem frame_after_setBlocked {s : Firewall} (hs : s.filter.Reachable) (out : SaveOutcome)
    (i : Fin SVC_BUILTIN_COUNT) (blocked : Bool) (p : Pbuf) :
    let s' := s.step originalApInput (.rules (.setBlocked out i blocked))
    (s.Concerns i p → (s'.Passes p ↔ blocked = false)) ∧
      (¬ s.Concerns i p → (s'.Passes p ↔ s.Passes p)) := by
  intro s'
  have hpolicy : ∀ t : Firewall, t.filter.Reachable → portPolicy t.filter.custom.rules
      t.filter.services p.proto p.dstPort = serviceIsPortAllowed t.filter p.proto p.dstPort :=
    fun t ht => (ht.allowed_eq p.proto p.dstPort).symm
  have hdecides := serviceSetBlocked_decides hs out i blocked p.proto p.dstPort
  have hafter : portPolicy s'.filter.custom.rules s'.filter.services p.proto p.dstPort = _ :=
    (hpolicy s' (reachable_step originalApInput s _ hs)).trans hdecides
  have hap : s'.ap = s.ap := rfl
  rw [Passes, Passes, FramePolicy, FramePolicy, hafter, hpolicy s hs, hap]
  constructor
  · rintro ⟨hipv4, hadmin, hblocked, hserves, hcustom⟩
    rw [forall_prop_of_true hipv4, or_iff_right hadmin, and_iff_right hblocked,
      forall_prop_of_true hserves.transport, if_pos ⟨hserves, hcustom⟩, Bool.not_eq_true']
  · intro hother
    refine forall_congr' fun hipv4 => or_congr_right' fun hadmin => and_congr_right fun hblocked => ?_
    rw [if_neg fun h => hother ⟨hipv4, hadmin, hblocked, h.1, h.2⟩]

/-- It passes no longer when SSH is blocked. -/
theorem frame_after_setBlocked_ssh :
    (firstBoot.step (fun _ => 0) (.rules (.setBlocked .ok 3 true))).Passes sshFrame ↔
      true = false :=
  (frame_after_setBlocked (fun _ => 0) firstBoot_reachable .ok 3 true sshFrame).1
    ⟨by decide, by decide, by decide, by decide, Slots.lookup_eq_none_iff.2 fun _ => rfl⟩

end Firewall

/-! ## Installing the hook -/

/-- What `ap_netif->input` and `original_ap_input` can point to. -/
inductive NetifInput
  /-- The input function of the TCP/IP stack. -/
  | lwip
  /-- `ap_netif_input_hook`. -/
  | hook
deriving DecidableEq

/-- The two pointers. -/
structure ApNetif where
  input : NetifInput
  /-- `none` for `NULL`. -/
  originalApInput : Option NetifInput

/-- The interface before the hook is installed. -/
def ApNetif.boot : ApNetif := ⟨.lwip, none⟩

/-- `init_netif_firewall`; `found` says whether the interface is there. -/
def initNetifFirewall (n : ApNetif) (found : Bool) : ApNetif :=
  if found then ⟨.hook, some n.input⟩ else n

/-- What becomes of a frame. -/
inductive FrameEnd
  /-- It reaches the TCP/IP stack. -/
  | stack
  | freed
  /-- A call of `NULL`. -/
  | nullCall
deriving DecidableEq

/-- One call of an input function with a frame: it calls another one, or that is the end of it. -/
def deliverStep (n : ApNetif) (s : Firewall) (p : Pbuf) : NetifInput → NetifInput ⊕ FrameEnd
  | .lwip => .inr .stack
  | .hook =>
    match s.hookCalls (fun _ => 0) (.frame p) with
    | [.originalApInput _] => n.originalApInput.elim (.inr .nullCall) .inl
    | _ => .inr .freed

/-- The driver calls `ap_netif->input` with a frame, and that is what becomes of it. -/
def Delivers (n : ApNetif) (s : Firewall) (p : Pbuf) (d : FrameEnd) : Prop :=
  Loop.Halts (deliverStep n s p) n.input d

/-- What the hook calls is the stack's input function if the hook is installed once, and itself if it
is installed again. -/
theorem initNetifFirewall_foldl (found : List Bool) :
    found.foldl initNetifFirewall .boot =
      match found.count true with
      | 0 => .boot
      | 1 => ⟨.hook, some .lwip⟩
      | _ => ⟨.hook, some .hook⟩ := by
  induction found using List.reverseRecOn with
  | nil => rfl
  | append_singleton found b ih =>
    rw [List.foldl_append, ih, List.count_append]
    cases b with
    | false => rfl
    | true =>
      rcases found.count true with _ | _ | k <;> rfl

theorem deliverStep_of_passes {s : Firewall} (hs : s.filter.Reachable) {p : Pbuf}
    (hp : s.Passes p) (n : ApNetif) :
    deliverStep n s p .hook = n.originalApInput.elim (.inr .nullCall) .inl := by
  rw [deliverStep]
  rcases Firewall.hookCalls_frame (fun _ => 0) hs p with ⟨-, h⟩ | ⟨hstop, -⟩
  · rw [h]
  · exact absurd hp hstop

theorem deliverStep_of_not_passes {s : Firewall} (hs : s.filter.Reachable) {p : Pbuf}
    (hp : ¬ s.Passes p) (n : ApNetif) : deliverStep n s p .hook = .inr .freed := by
  rw [deliverStep]
  rcases Firewall.hookCalls_frame (fun _ => 0) hs p with ⟨hpass, -⟩ | ⟨-, h⟩
  · exact absurd hpass hp
  · rw [h]

/-- A frame has one fate. -/
theorem Delivers.iff_eq {n : ApNetif} {s : Firewall} {p : Pbuf} {d : FrameEnd}
    (h : Delivers n s p d) (d' : FrameEnd) : Delivers n s p d' ↔ d' = d :=
  ⟨fun h' => Loop.Halts.unique h' h, fun heq => heq ▸ h⟩

/-- A hook that calls itself does not return. -/
theorem not_halts_of_self {n : ApNetif} {s : Firewall} {p : Pbuf}
    (hself : deliverStep n s p .hook = .inl .hook) (d : FrameEnd) :
    ¬ Loop.Halts (deliverStep n s p) .hook d := by
  intro h
  have hnever : False := h.invariant (P := fun f => f = .hook) (Q := fun _ => False) (by
    rintro f f' rfl hstep
    rw [hself] at hstep
    exact (Sum.inl.inj hstep).symm) (by
    rintro f d rfl hstep
    rw [hself] at hstep
    cases hstep) rfl
  exact hnever

/-- **How often the hook may be installed.**  Whichever calls of `init_netif_firewall` have found the
interface, the driver's call returns for every frame only if at most one has.  With none, every
frame reaches the stack.  With one, those do that pass.  With more, the hook calls itself without end
for a frame that passes. -/
theorem delivered_iff {s : Firewall} (hs : s.filter.Reachable) (found : List Bool) (p : Pbuf) :
    let n := found.foldl initNetifFirewall .boot
    (Delivers n s p .stack ↔ found.count true = 0 ∨ found.count true = 1 ∧ s.Passes p) ∧
      (Delivers n s p .freed ↔ 1 ≤ found.count true ∧ ¬ s.Passes p) ∧
      ((∃ d, Delivers n s p d) ↔ found.count true ≤ 1 ∨ ¬ s.Passes p) := by
  intro n
  have hn : n = _ := initNetifFirewall_foldl found
  rw [hn]
  rcases found.count true with _ | _ | k
  · have hstack : Delivers .boot s p .stack := .of_inr rfl
    simp [hstack.iff_eq]
  · by_cases hp : s.Passes p
    · have hstack : Delivers ⟨.hook, some .lwip⟩ s p .stack :=
        .of_inl (deliverStep_of_passes hs hp _) (.of_inr rfl)
      simp [hstack.iff_eq, hp]
    · have hfreed : Delivers ⟨.hook, some .lwip⟩ s p .freed :=
        .of_inr (deliverStep_of_not_passes hs hp _)
      simp [hfreed.iff_eq, hp]
  · by_cases hp : s.Passes p
    · have hnever (d : FrameEnd) : ¬ Delivers ⟨.hook, some .hook⟩ s p d :=
        not_halts_of_self (deliverStep_of_passes hs hp _) d
      simp [hnever, hp]
    · have hfreed : Delivers ⟨.hook, some .hook⟩ s p .freed :=
        .of_inr (deliverStep_of_not_passes hs hp _)
      simp [hfreed.iff_eq, hp]

/-- After the one call of a boot, an ARP frame reaches the stack. -/
theorem delivered_once :
    Delivers ([true].foldl initNetifFirewall .boot) .firstBoot (frameFromBlocked (0x08, 0x06))
      .stack :=
  (delivered_iff Firewall.firstBoot_reachable [true] _).1.2 (.inr ⟨rfl, fun h => absurd h (by decide)⟩)

end EspFirewall
