import Mathlib.Data.List.DropRight
import EspFirewall.General.Decimal
import EspFirewall.General.LastWrite
import EspFirewall.NvsHandles

/-!
# The uplink (`wifi_event_handler`, `portmap`, `show`)

The router asks for a connection when the station interface starts and whenever the connection is
lost.  When it gets an address, it replays the port mappings into the stack.  Meanwhile mappings are
added and deleted on the console, and the router is restarted, which clears the stack's port map but
not the table.  Every NVS call succeeds.

* `mappings_from_history`: which mappings there are, and which are in force, behind any such run in
  which no port is mapped twice.  Behind a restart without a static address, and until there is an
  address, only what has been added since is in force.
* `uplink_from_history`: what the router knows about the connection, and how often it has asked.
* `show_from_history`: what `show` prints about the two.
-/

set_option autoImplicit false

namespace EspFirewall

open CLang

variable {n : ℕ}

/-! ## The handler -/

/-- What `wifi_event_handler` is told about the station interface. -/
inductive UplinkEvent
  /-- `WIFI_EVENT_STA_START`. -/
  | staStart
  /-- `WIFI_EVENT_STA_DISCONNECTED`. -/
  | staDisconnected
  /-- `IP_EVENT_STA_GOT_IP`; `dns` says whether `esp_netif_get_dns_info` succeeds. -/
  | staGotIp (addr : UInt32) (dns : Bool)

/-- What the router knows about the uplink. -/
structure Uplink (n : ℕ) where
  portmap : Portmap n
  /-- `ap_connect`. -/
  apConnect : Bool
  /-- `WIFI_CONNECTED_BIT` of `wifi_event_group`. -/
  connectedBit : Bool
  /-- How often `esp_wifi_connect` has been called since the restart. -/
  connects : ℕ

/-- An event of the uplink, a `portmap` command, or a restart. -/
inductive UplinkInput
  | event (e : UplinkEvent)
  | portmap (args : PortmapArgs)
  | reboot (staticIp : Bool)

namespace Uplink

/-- The branches of `wifi_event_handler` for the station interface. -/
def wifiEventHandler (s : Uplink n) : UplinkEvent → Uplink n
  | .staStart => { s with connects := s.connects + 1 }
  | .staDisconnected =>
    { s with
      portmap := { s.portmap with logs := s.portmap.logs ++
        [.fmt "disconnected - retrying to connect to the AP" []] }
      apConnect := false
      connects := s.connects + 1
      connectedBit := false }
  | .staGotIp addr dns =>
    { s with
      portmap := EspFirewall.staGotIp addr dns s.portmap
      apConnect := true
      connectedBit := true }

/-- Power on. -/
def boot (staticIp : Bool) (nvs : Option (Fin n → PortmapEntry)) : Uplink n :=
  ⟨bootPortmap .ok staticIp nvs, false, false, 0⟩

/-- One input, with every NVS call succeeding; `aton` is `esp_ip4addr_aton`. -/
def step (aton : CString → UInt32) (s : Uplink n) : UplinkInput → Uplink n
  | .event e => s.wifiEventHandler e
  | .portmap args =>
    match portmapRequest aton args with
    | some c => { s with portmap := (c.exec .ok s.portmap).2 }
    | none => s
  | .reboot staticIp => boot staticIp s.portmap.nvs

end Uplink

/-! ## The table as a map -/

/-- The map that a table describes. -/
def described (tab : Fin n → PortmapEntry) : NatMap :=
  KeyedTable.insertAll entryView tab fun _ => none

theorem describes_described {tab : Fin n → PortmapEntry} (h : KeyedTable.Unique entryView tab) :
    KeyedTable.Describes entryView tab (described tab) := by
  intro k x
  simp [described, KeyedTable.insertAll_eq_some_iff h]

theorem described_eq_none {tab : Fin n → PortmapEntry} {key : PortmapKey}
    (h : KeyedTable.Free entryView tab key) : described tab key = none :=
  (KeyedTable.replay_of_free h).2

theorem eq_described {tab : Fin n → PortmapEntry} {nat : NatMap}
    (hunique : KeyedTable.Unique entryView tab) (h : KeyedTable.Describes entryView tab nat) :
    nat = described tab := by
  funext key
  exact Option.ext fun x => (h key x).trans (describes_described hunique key x).symm

/-- Replaying the table into a map that knows no other mappings. -/
theorem replay_eq_described {tab : Fin n → PortmapEntry} {nat : NatMap}
    (hunique : KeyedTable.Unique entryView tab)
    (hnat : ∀ key, nat key = none ∨ nat key = described tab key) :
    KeyedTable.insertAll entryView tab (KeyedTable.removeAll entryView tab nat) =
      described tab := by
  refine eq_described hunique fun key x => ?_
  rw [KeyedTable.insertAll_eq_some_iff hunique, KeyedTable.removeAll_eq_some_iff]
  refine ⟨?_, .inl⟩
  rintro (hentry | ⟨hfree, -, hx⟩)
  · exact hentry
  · rcases hnat key with h | h
    · exact absurd (hx.symm.trans h) (Option.some_ne_none x)
    · exact absurd (hx.symm.trans (h.trans (described_eq_none hfree))) (Option.some_ne_none x)

/-! ## What an input does to the mappings -/

namespace Portmap

/-- What is known about the three places of the mappings in every state of a run in which no port is
mapped twice. -/
structure InStep (s : Portmap n) : Prop where
  unique : KeyedTable.Unique entryView s.tab
  saved : s.Saved
  /-- The stack does not know mappings that are not in the table. -/
  known : ∀ key, s.nat key = none ∨ s.nat key = described s.tab key

/-- The change enters a port that is in the table. -/
def DuplicatesKey (s : Portmap n) : PortmapChange → Prop
  | .add proto mport daddr dport => s.Duplicates (.add proto mport daddr dport)
  | .del _ _ => False

instance (s : Portmap n) : (c : PortmapChange) → Decidable (s.DuplicatesKey c)
  | .add proto mport _ _ => inferInstanceAs (Decidable ((∃ i, (s.tab i).valid = false) ∧
      ∃ i, (s.tab i).valid = true ∧ (s.tab i).proto = proto ∧ (s.tab i).mport = mport))
  | .del _ _ => inferInstanceAs (Decidable False)

/-- What a change writes to the mapping of a port.  A full table takes no mapping. -/
def changeWrite (key : PortmapKey) (s : Portmap n) : PortmapChange → Option (Option PortmapTarget)
  | .add proto mport daddr dport =>
    if (proto, mport) = key ∧ ∃ i, (s.tab i).valid = false then some (some (daddr, dport)) else none
  | .del proto mport => if (proto, mport) = key then some none else none

/-- **What a change does** to the table, and to the stack. -/
theorem InStep.change {s : Portmap n} (hs : s.InStep) {c : PortmapChange}
    (hdup : ¬ s.DuplicatesKey c) :
    let s' := (c.exec .ok s).2
    s'.InStep ∧
      (∀ key, described s'.tab key = (changeWrite key s c).getD (described s.tab key)) ∧
      ∀ key, s'.nat key = (changeWrite key s c).getD (s.nat key) := by
  have hdesc := describes_described hs.unique
  rcases c with ⟨proto, mport, daddr, dport⟩ | ⟨proto, mport⟩
  · have hsaved := saved_step s (.call (.add proto mport daddr dport)) hs.saved
    intro s'
    rcases hi : Slots.first (fun e => !e.valid) s.tab with _ | i
    · -- there is no room
      have hs' : s' = s := call_add_full hi
      have hfull : ¬ ∃ i, (s.tab i).valid = false := by
        rintro ⟨i, hi'⟩
        simpa [hi'] using Slots.first_eq_none_iff.1 hi i
      simp [hs', hs, changeWrite, hfull]
    · have hinvalid : (s.tab i).valid = false := Slots.eq_false_of_first hi
      have hfree : KeyedTable.Free entryView s.tab (proto, mport) := fun j hj hkey =>
        hdup ⟨⟨i, hinvalid⟩, j, hj, congrArg Prod.fst hkey, congrArg Prod.snd hkey⟩
      obtain ⟨htab, -, hnat⟩ := call_add proto mport daddr dport hi
      change s'.tab = _ at htab
      change s'.nat = _ at hnat
      have hunique : KeyedTable.Unique entryView s'.tab := htab ▸ hs.unique.insert i hfree
      have hnew : described s'.tab =
          Function.update (described s.tab) (proto, mport) (some (daddr, dport)) :=
        (eq_described hunique (htab ▸ hdesc.insert hinvalid rfl hfree)).symm
      have hwrite : ∀ (m : NatMap) key, Function.update m (proto, mport) (some (daddr, dport)) key =
          (changeWrite key s (.add proto mport daddr dport)).getD (m key) := by
        intro m key
        rw [Function.update_apply, changeWrite]
        by_cases hkey : key = (proto, mport)
        · rw [if_pos hkey, if_pos ⟨hkey.symm, i, hinvalid⟩]
          rfl
        · rw [if_neg hkey, if_neg fun h => hkey h.1.symm]
          rfl
      refine ⟨⟨hunique, hsaved, fun key => ?_⟩, fun key => hnew ▸ hwrite _ key,
        fun key => hnat ▸ hwrite _ key⟩
      rw [hnew, hnat, Function.update_apply, Function.update_apply]
      split
      · exact .inr rfl
      · exact hs.known key
  · have hsaved := saved_step s (.call (.del proto mport)) hs.saved
    intro s'
    rcases hi : Slots.first (PortmapEntry.maps proto mport) s.tab with _ | i
    · -- there is no such mapping, neither in the table nor in the stack
      have hs' : s' = s := call_del_none hi
      have hnone := described_eq_none (free_iff_maps.2 (Slots.first_eq_none_iff.1 hi))
      have hnat : s.nat (proto, mport) = none := by
        rcases hs.known (proto, mport) with h | h
        · exact h
        · exact h.trans hnone
      have hwrite : ∀ (m : NatMap), m (proto, mport) = none → ∀ key,
          m key = (changeWrite key s (.del proto mport)).getD (m key) := by
        intro m hm key
        rw [changeWrite]
        split
        · next hkey => rw [← hkey, hm]; rfl
        · rfl
      rw [hs']
      exact ⟨hs, hwrite _ hnone, hwrite _ hnat⟩
    · obtain ⟨hvalid, hkey⟩ := maps_iff.1 (Slots.first_eq_some_iff.1 hi).1
      obtain ⟨htab, -, hnat⟩ := call_del hi
      change s'.tab = _ at htab
      change s'.nat = _ at hnat
      have hunique : KeyedTable.Unique entryView s'.tab :=
        htab ▸ hs.unique.update_of_not_inUse i rfl
      have hnew : described s'.tab = Function.update (described s.tab) (proto, mport) none := by
        rw [← hkey]
        exact (eq_described hunique (htab ▸ hdesc.remove hs.unique hvalid rfl)).symm
      have hwrite : ∀ (m : NatMap) key, Function.update m (proto, mport) none key =
          (changeWrite key s (.del proto mport)).getD (m key) := by
        intro m key
        rw [Function.update_apply, changeWrite]
        by_cases hkey : key = (proto, mport)
        · rw [if_pos hkey, if_pos hkey.symm]
          rfl
        · rw [if_neg hkey, if_neg (Ne.symm hkey)]
          rfl
      refine ⟨⟨hunique, hsaved, fun key => ?_⟩, fun key => hnew ▸ hwrite _ key,
        fun key => hnat ▸ hwrite _ key⟩
      rw [hnew, hnat, Function.update_apply, Function.update_apply]
      split
      · exact .inr rfl
      · exact hs.known key

/-- **An address** brings all mappings into force. -/
theorem InStep.gotIp {s : Portmap n} (hs : s.InStep) (addr : UInt32) (dns : Bool) :
    (staGotIp addr dns s).InStep ∧ (staGotIp addr dns s).tab = s.tab ∧
      (staGotIp addr dns s).nat = described s.tab := by
  obtain ⟨htab, hnvs, hnat⟩ := s.call_gotIp addr dns
  have hreplay : (staGotIp addr dns s).nat = described s.tab :=
    hnat.trans (replay_eq_described hs.unique hs.known)
  refine ⟨⟨?_, saved_step s (.call (.gotIp addr dns)) hs.saved, fun key => .inr ?_⟩, htab, hreplay⟩
  · exact htab ▸ hs.unique
  · rw [hreplay]
    exact congrFun (congrArg described htab.symm) key

/-- **A restart** keeps the mappings.  They are in force if the address is static. -/
theorem InStep.reboot {s : Portmap n} (hs : s.InStep) (staticIp : Bool) :
    (bootPortmap .ok staticIp s.nvs).InStep ∧
      described (bootPortmap .ok staticIp s.nvs).tab = described s.tab ∧
      (bootPortmap .ok staticIp s.nvs).nat =
        if staticIp then described s.tab else fun _ => none := by
  have hzero : ∀ key, KeyedTable.Free entryView (fun _ : Fin n => PortmapEntry.zero) key :=
    fun _ _ h => absurd h Bool.false_ne_true
  have htab : (bootPortmap .ok staticIp s.nvs).tab = s.nvs.getD (fun _ => .zero) :=
    (s.step_reboot staticIp).1
  have hsame : KeyedTable.Unique entryView (s.nvs.getD (fun _ => .zero)) ∧
      described (s.nvs.getD (fun _ => .zero)) = described s.tab := by
    rcases hs.saved with hnvs | ⟨hnvs, hinvalid⟩
    · rw [hnvs]
      exact ⟨hs.unique, rfl⟩
    · rw [hnvs]
      refine ⟨fun _ _ h => absurd h Bool.false_ne_true, funext fun key => ?_⟩
      refine (described_eq_none (hzero key)).trans (described_eq_none fun i hi => ?_).symm
      exact absurd ((hinvalid i).symm.trans hi) Bool.false_ne_true
  have hnat : (bootPortmap .ok staticIp s.nvs).nat =
      if staticIp then described s.tab else fun _ => none := by
    cases staticIp with
    | false => rfl
    | true =>
      rw [if_pos rfl, ← hsame.2, ← htab]
      rfl
  refine ⟨⟨htab ▸ hsame.1, saved_step s (.reboot staticIp) hs.saved, fun key => ?_⟩,
    htab ▸ hsame.2, hnat⟩
  rw [hnat, htab, hsame.2]
  cases staticIp with
  | false => exact .inl rfl
  | true => exact .inr rfl

end Portmap

/-- The command maps ports of TCP and UDP only. -/
theorem portmapRequest_proto {aton : CString → UInt32} {args : PortmapArgs} {c : PortmapChange}
    (h : portmapRequest aton args = some c) :
    match c with
    | .add proto _ _ _ => proto = 6 ∨ proto = 17
    | .del proto _ => proto = 6 ∨ proto = 17 := by
  rw [portmapRequest] at h
  have hproto : ∀ proto : UInt8, (if args.tcpUdp = .lit "TCP" then some 6
      else if args.tcpUdp = .lit "UDP" then some 17 else none) = some proto →
        proto = 6 ∨ proto = 17 := by
    intro proto h
    split at h
    · exact .inl (Option.some.inj h).symm
    · split at h
      · exact .inr (Option.some.inj h).symm
      · exact nomatch h
  split at h
  · obtain ⟨proto, hp, rfl⟩ := Option.map_eq_some_iff.1 h
    exact hproto proto hp
  · split at h
    · obtain ⟨proto, hp, rfl⟩ := Option.map_eq_some_iff.1 h
      exact hproto proto hp
    · exact nomatch h

/-! ## The mappings of a run -/

/-- Whether an input brings the mappings into force. -/
def UplinkInput.force : UplinkInput → Option Bool
  | .event (.staGotIp _ _) => some true
  | .reboot staticIp => some staticIp
  | _ => none

namespace Uplink

section

variable (aton : CString → UInt32)

/-- The input maps a port that is mapped. -/
def Duplicates (s : Uplink n) : UplinkInput → Prop
  | .portmap args => ∃ c ∈ portmapRequest aton args, s.portmap.DuplicatesKey c
  | _ => False

instance (s : Uplink n) : (i : UplinkInput) → Decidable (s.Duplicates aton i)
  | .portmap args => inferInstanceAs (Decidable (∃ c ∈ portmapRequest aton args, _))
  | .event _ => inferInstanceAs (Decidable False)
  | .reboot _ => inferInstanceAs (Decidable False)

/-- What an input writes to the mapping of a port. -/
def mappingWrite (key : PortmapKey) (s : Uplink n) : UplinkInput → Option (Option PortmapTarget)
  | .portmap args => (portmapRequest aton args).bind (s.portmap.changeWrite key)
  | _ => none

/-- What an input writes to the mapping of a port, if restarts clear it. -/
def sinceRestart (key : PortmapKey) (s : Uplink n) (i : UplinkInput) :
    Option (Option PortmapTarget) :=
  match i with
  | .reboot _ => some none
  | _ => mappingWrite aton key s i

/-- The last mapping of a port. -/
def lastMapping (key : PortmapKey) (s : Uplink n) (is : List UplinkInput) : Option PortmapTarget :=
  LastWrite.value none (LastWrite.writes (step aton) (mappingWrite aton key) s is)

/-- The last mapping of a port since the last restart. -/
def lastMappingSinceRestart (key : PortmapKey) (s : Uplink n) (is : List UplinkInput) :
    Option PortmapTarget :=
  LastWrite.value none (LastWrite.writes (step aton) (sinceRestart aton key) s is)

end

/-- There has been an address since the last restart, or has to be none. -/
def InForce (staticIp : Bool) (is : List UplinkInput) : Bool :=
  LastWrite.value staticIp (is.filterMap UplinkInput.force)

variable {aton : CString → UInt32}

/-- **What an input does** to the table and to the stack. -/
theorem inStep_step {s : Uplink n} (hs : s.portmap.InStep) {i : UplinkInput}
    (hdup : ¬ s.Duplicates aton i) :
    (s.step aton i).portmap.InStep ∧
      ∀ key, described (s.step aton i).portmap.tab key =
          (mappingWrite aton key s i).getD (described s.portmap.tab key) ∧
        (s.step aton i).portmap.nat key = match i.force with
          | some true => described s.portmap.tab key
          | some false => none
          | none => (mappingWrite aton key s i).getD (s.portmap.nat key) := by
  cases i with
  | event e =>
    cases e with
    | staStart => exact ⟨hs, fun key => ⟨rfl, rfl⟩⟩
    | staDisconnected => exact ⟨⟨hs.unique, hs.saved, hs.known⟩, fun key => ⟨rfl, rfl⟩⟩
    | staGotIp addr dns =>
      obtain ⟨hnext, htab, hnat⟩ := hs.gotIp addr dns
      exact ⟨hnext, fun key => ⟨congrFun (congrArg described htab) key, congrFun hnat key⟩⟩
  | portmap args =>
    have hforce : (UplinkInput.portmap args).force = none := rfl
    rw [step, hforce]
    cases hc : portmapRequest aton args with
    | none =>
      simp only [mappingWrite, hc]
      exact ⟨hs, fun key => ⟨rfl, rfl⟩⟩
    | some c =>
      obtain ⟨hnext, htab, hnat⟩ := hs.change (c := c) fun h => hdup ⟨c, hc, h⟩
      simp only [mappingWrite, hc]
      exact ⟨hnext, fun key => ⟨htab key, hnat key⟩⟩
  | reboot staticIp =>
    obtain ⟨hnext, htab, hnat⟩ := hs.reboot staticIp
    refine ⟨hnext, fun key => ⟨congrFun htab key, ?_⟩⟩
    cases staticIp with
    | false => exact congrFun hnat key
    | true => exact congrFun hnat key

theorem inStep_unused (myIp : UInt32) (logs : List LogCall) :
    (Portmap.unused myIp logs : Portmap n).InStep :=
  ⟨fun _ _ h => absurd h Bool.false_ne_true, .inr ⟨rfl, fun _ => rfl⟩, fun _ => .inl rfl⟩

/-- **The table and the stack behind a run**, one input after the other. -/
theorem inStep_run (staticIp : Bool) {is : List UplinkInput}
    (hnodup : StepSystem.EveryStep (step aton) (fun s i => ¬ s.Duplicates aton i)
      (boot staticIp none : Uplink n) is) :
    let start : Uplink n := boot staticIp none
    (StepSystem.run (step aton) start is).portmap.InStep ∧
      ∀ key, described (StepSystem.run (step aton) start is).portmap.tab key =
          lastMapping aton key start is ∧
        (StepSystem.run (step aton) start is).portmap.nat key =
          if InForce staticIp is then lastMapping aton key start is
          else lastMappingSinceRestart aton key start is := by
  intro start
  induction is using List.reverseRecOn with
  | nil =>
    obtain ⟨hboot, htab, hnat⟩ := (inStep_unused (n := n) 0 []).reboot staticIp
    have hnone : described (Portmap.unused 0 [] : Portmap n).tab = fun _ => none :=
      funext fun key => described_eq_none fun _ h => absurd h Bool.false_ne_true
    refine ⟨hboot, fun key => ⟨congrFun (htab.trans hnone) key, ?_⟩⟩
    refine (congrFun hnat key).trans ?_
    rw [hnone, ite_self]
    exact (ite_self _).symm
  | append_singleton is i ih =>
    obtain ⟨hbefore, hi⟩ := StepSystem.everyStep_concat.1 hnodup
    obtain ⟨hs, hmaps⟩ := ih hbefore
    obtain ⟨hnext, hstep⟩ := inStep_step hs hi
    rw [StepSystem.run_concat]
    refine ⟨hnext, fun key => ?_⟩
    obtain ⟨htab, hnat⟩ := hmaps key
    have hlast : lastMapping aton key start (is ++ [i]) =
        described ((StepSystem.run (step aton) start is).step aton i).portmap.tab key := by
      rw [(hstep key).1, htab]
      exact LastWrite.value_writes_concat none start is i
    refine ⟨hlast.symm, ?_⟩
    have hinForce : InForce staticIp (is ++ [i]) = i.force.getD (InForce staticIp is) :=
      LastWrite.value_filterMap_concat ..
    rw [(hstep key).2, hinForce, lastMappingSinceRestart, LastWrite.value_writes_concat, hlast,
      (hstep key).1]
    cases i with
    | event e =>
      cases e with
      | staGotIp addr dns => rfl
      | staStart => exact hnat.trans (by rw [htab]; rfl)
      | staDisconnected => exact hnat.trans (by rw [htab]; rfl)
    | portmap args =>
      have hforce : (UplinkInput.portmap args).force = none := rfl
      rw [hforce, Option.getD_none, hnat, htab]
      dsimp only
      split
      · rfl
      · rfl
    | reboot staticIp => cases staticIp <;> rfl

/-- No mapping is ever made for a protocol that the command does not know. -/
theorem lastMapping_eq_none {key : PortmapKey} (hkey : ¬ (key.1 = 6 ∨ key.1 = 17))
    (aton : CString → UInt32) (s : Uplink n) (is : List UplinkInput) :
    lastMapping aton key s is = none := by
  have hwrite : ∀ (s : Uplink n) i, mappingWrite aton key s i = none := by
    intro s i
    cases i with
    | event e => rfl
    | reboot staticIp => rfl
    | portmap args =>
      rw [mappingWrite, Option.bind_eq_none_iff]
      intro c hc
      have hproto := portmapRequest_proto hc
      rcases c with ⟨proto, mport, daddr, dport⟩ | ⟨proto, mport⟩
      · rw [Portmap.changeWrite, if_neg]
        rintro ⟨rfl, -⟩
        exact hkey hproto
      · rw [Portmap.changeWrite, if_neg]
        rintro rfl
        exact hkey hproto
  rw [lastMapping, LastWrite.writes_eq_nil hwrite]
  rfl

/-- The mappings of the table behind a run. -/
theorem tab_iff_lastMapping (staticIp : Bool) {is : List UplinkInput}
    (hnodup : StepSystem.EveryStep (step aton) (fun s i => ¬ s.Duplicates aton i)
      (boot staticIp none : Uplink n) is) (key : PortmapKey) (target : PortmapTarget) :
    let start : Uplink n := boot staticIp none
    let s := StepSystem.run (step aton) start is
    (∃ i, (s.portmap.tab i).valid = true ∧ entryView.key (s.portmap.tab i) = key ∧
      entryView.val (s.portmap.tab i) = target) ↔ lastMapping aton key start is = some target := by
  intro start s
  obtain ⟨hs, hmaps⟩ := inStep_run staticIp hnodup
  rw [← (hmaps key).1]
  exact (describes_described hs.unique key target).symm

/-- **The mappings, from the history.**  Behind every run in which no port is mapped twice and every
NVS call succeeds, the table has the last mapping of each port that found room and was not deleted,
whatever restarts there were.  It is in force if there has been an address since the last restart, or
the address is static; otherwise what has been added since is. -/
theorem mappings_from_history (staticIp : Bool) {is : List UplinkInput}
    (hnodup : StepSystem.EveryStep (step aton) (fun s i => ¬ s.Duplicates aton i)
      (boot staticIp none : Uplink n) is) (key : PortmapKey) :
    let start : Uplink n := boot staticIp none
    let s := StepSystem.run (step aton) start is
    (∀ target, (∃ i, (s.portmap.tab i).valid = true ∧ entryView.key (s.portmap.tab i) = key ∧
        entryView.val (s.portmap.tab i) = target) ↔ lastMapping aton key start is = some target) ∧
      s.portmap.nat key = if InForce staticIp is then lastMapping aton key start is
        else lastMappingSinceRestart aton key start is := by
  intro start s
  obtain ⟨-, hmaps⟩ := inStep_run staticIp hnodup
  exact ⟨tab_iff_lastMapping staticIp hnodup key, (hmaps key).2⟩

/-- Port 8080 is mapped, and the router is restarted. -/
def webServerMapped : List UplinkInput :=
  [.portmap ⟨.lit "add", .lit "TCP", 8080, .lit "192.168.4.2", 80⟩, .reboot false]

/-- The mapping is in the table, but not in force. -/
theorem mappings_from_history_web :
    let s := StepSystem.run (step fun _ => 0x0204A8C0) (boot false none : Uplink 2) webServerMapped
    (∃ i, (s.portmap.tab i).valid = true ∧ entryView.key (s.portmap.tab i) = (6, 8080) ∧
      entryView.val (s.portmap.tab i) = (0x0204A8C0, 80)) ∧ s.portmap.nat (6, 8080) = none := by
  have hnodup : StepSystem.EveryStep (step fun _ => 0x0204A8C0)
      (fun s i => ¬ s.Duplicates (fun _ => 0x0204A8C0) i) (boot false none : Uplink 2)
      webServerMapped := by decide +kernel
  obtain ⟨htab, hnat⟩ := mappings_from_history false hnodup (6, 8080)
  exact ⟨(htab _).2 (by decide +kernel), hnat.trans (by decide +kernel)⟩

/-! ## The connection -/

end Uplink

namespace UplinkInput

/-- What an input tells about the connection: the address, or that there is none. -/
def address : UplinkInput → Option (Option UInt32)
  | .event (.staGotIp addr _) => some (some addr)
  | .event .staDisconnected => some none
  | .reboot _ => some none
  | _ => none

/-- What an input tells `my_ip`, which keeps the address when the connection is lost. -/
def ip : UplinkInput → Option UInt32
  | .event (.staGotIp addr _) => some addr
  | .reboot _ => some 0
  | _ => none

/-- The router asks for a connection. -/
def asks : UplinkInput → Bool
  | .event .staStart => true
  | .event .staDisconnected => true
  | _ => false

def isReboot : UplinkInput → Bool
  | .reboot _ => true
  | _ => false

end UplinkInput

/-- The address of the connection, if there is one. -/
def lastAddress (is : List UplinkInput) : Option UInt32 :=
  LastWrite.value none (is.filterMap UplinkInput.address)

/-- The last address since the last restart. -/
def lastIp (is : List UplinkInput) : UInt32 := LastWrite.value 0 (is.filterMap UplinkInput.ip)

namespace Uplink

variable {aton : CString → UInt32}

theorem exec_myIp (out : PortmapSave) (s : Portmap n) (c : PortmapChange) :
    (c.exec out s).2.myIp = s.myIp := by
  rcases c with ⟨proto, mport, daddr, dport⟩ | ⟨proto, mport⟩
  · rw [PortmapChange.exec, addPortmap]
    split
    · dsimp only
      split <;> rfl
    · rfl
  · rw [PortmapChange.exec, delPortmap]
    split
    · dsimp only
      split <;> rfl
    · rfl

/-- A command does not change what is known about the connection. -/
theorem step_portmap (aton : CString → UInt32) (s : Uplink n) (args : PortmapArgs) :
    let s' := s.step aton (.portmap args)
    s'.apConnect = s.apConnect ∧ s'.connectedBit = s.connectedBit ∧ s'.connects = s.connects ∧
      s'.portmap.myIp = s.portmap.myIp := by
  rw [step]
  split
  · exact ⟨rfl, rfl, rfl, exec_myIp ..⟩
  · exact ⟨rfl, rfl, rfl, rfl⟩

theorem bootPortmap_myIp (staticIp : Bool) (nvs : Option (Fin n → PortmapEntry)) :
    (bootPortmap .ok staticIp nvs).myIp = 0 := by
  cases staticIp <;> rfl

theorem staGotIp_myIp (addr : UInt32) (dns : Bool) (s : Portmap n) :
    (staGotIp addr dns s).myIp = addr := by
  cases dns <;> rfl

/-- **What the router knows about the connection**: the two flags say the same, and the address is
the last one.  It has asked for a connection at every start and every loss of one since the last
restart, and at no other time. -/
theorem uplink_from_history (aton : CString → UInt32) (staticIp : Bool)
    (nvs : Option (Fin n → PortmapEntry)) (is : List UplinkInput) :
    let s := StepSystem.run (step aton) (boot staticIp nvs) is
    s.apConnect = (lastAddress is).isSome ∧ s.connectedBit = (lastAddress is).isSome ∧
      (∀ addr ∈ lastAddress is, s.portmap.myIp = addr) ∧ s.portmap.myIp = lastIp is ∧
      s.connects = (is.rtakeWhile fun i => !i.isReboot).countP UplinkInput.asks := by
  induction is using List.reverseRecOn with
  | nil => exact ⟨rfl, rfl, fun _ h => absurd h (Option.not_mem_none _), bootPortmap_myIp .., rfl⟩
  | append_singleton is i ih =>
    obtain ⟨hconnect, hbit, haddr, hip, hasks⟩ := ih
    rw [StepSystem.run_concat, lastAddress, lastIp, LastWrite.value_filterMap_concat,
      LastWrite.value_filterMap_concat, List.rtakeWhile_concat]
    cases i with
    | event e =>
      have hkeep : (!(UplinkInput.event e).isReboot) = true := rfl
      rw [if_pos hkeep, List.countP_append, ← hasks]
      cases e with
      | staStart => exact ⟨hconnect, hbit, haddr, hip, rfl⟩
      | staDisconnected => exact ⟨rfl, rfl, fun _ h => absurd h (Option.not_mem_none _), hip, rfl⟩
      | staGotIp addr dns =>
        have hmyIp := staGotIp_myIp addr dns
          (StepSystem.run (step aton) (boot staticIp nvs) is).portmap
        exact ⟨rfl, rfl, fun addr' h => hmyIp.trans (Option.some.inj h), hmyIp, rfl⟩
    | portmap args =>
      have hkeep : (!(UplinkInput.portmap args).isReboot) = true := rfl
      obtain ⟨h₁, h₂, h₃, h₄⟩ := step_portmap aton
        (StepSystem.run (step aton) (boot staticIp nvs) is) args
      rw [if_pos hkeep, List.countP_append, ← hasks]
      exact ⟨h₁.trans hconnect, h₂.trans hbit, fun addr h => h₄.trans (haddr addr h), h₄.trans hip,
        h₃⟩
    | reboot staticIp =>
      exact ⟨rfl, rfl, fun _ h => absurd h (Option.not_mem_none _), bootPortmap_myIp .., rfl⟩

end Uplink

/-! ## What `show` prints -/

/-- `IP2STR`: the bytes of the address as it is in memory. -/
def ip2str (addr : UInt32) : List Arg :=
  [.int (addr.toNat % 256 : ℕ), .int (addr.toNat / 256 % 256 : ℕ),
    .int (addr.toNat / 65536 % 256 : ℕ), .int (addr.toNat / 16777216 % 256 : ℕ)]

/-- The line of `print_portmap_tab` for an entry; `IPSTR` is `%d.%d.%d.%d`. -/
def portmapLine (myIp : UInt32) (e : PortmapEntry) : Option Bytes := do
  let proto ← format (ascii "%s") [.str (.lit (if e.proto = 6 then "TCP " else "UDP "))]
  let external ← format (ascii "%d.%d.%d.%d:%d -> ") (ip2str myIp ++ [.int e.mport.toNat])
  let internal ← format (ascii "%d.%d.%d.%d:%d\n") (ip2str e.daddr ++ [.int e.dport.toNat])
  return proto ++ external ++ internal

/-- `print_portmap_tab`, line by line. -/
def printPortmapTab (s : Portmap n) : List (Option Bytes) :=
  ((List.finRange n).filter fun i => (s.tab i).valid).map fun i => portmapLine s.myIp (s.tab i)

/-- What `show` prints about the connection; `connect_count` is that of the access point. -/
def showConnection (apConnect : Bool) (myIp : UInt32) (connectCount : UInt16) :
    List (Option Bytes) :=
  [format (ascii "Uplink AP %sconnected\n") [.str (.lit (if apConnect then "" else "not "))]] ++
    (if apConnect then [format (ascii "IP: %d.%d.%d.%d\n") (ip2str myIp)] else []) ++
    [format (ascii "%d Stations connected\n") [.int connectCount.toNat]]

/-- `show`, behind the settings. -/
def Uplink.showUplink (s : Uplink n) (connectCount : UInt16) : List (Option Bytes) :=
  showConnection s.apConnect s.portmap.myIp connectCount ++ printPortmapTab s.portmap

/-- The text of an address. -/
def ipText (addr : UInt32) : Bytes :=
  digits 10 (addr.toNat % 256) ++ 46 :: (digits 10 (addr.toNat / 256 % 256) ++
    46 :: (digits 10 (addr.toNat / 65536 % 256) ++ 46 :: digits 10 (addr.toNat / 16777216 % 256)))

/-- The text of a line. -/
theorem portmapLine_eq (myIp : UInt32) (e : PortmapEntry) : portmapLine myIp e =
    some (ascii (if e.proto = 6 then "TCP " else "UDP ") ++ (ipText myIp ++ 58 ::
      (digits 10 e.mport.toNat ++ 32 :: (ascii "-> " ++ (ipText e.daddr ++ 58 ::
        (digits 10 e.dport.toNat ++ 10 :: [])))))) := by
  have hproto : format (ascii "%s") [.str (.lit (if e.proto = 6 then "TCP " else "UDP "))] =
      some (ascii (if e.proto = 6 then "TCP " else "UDP ")) := by
    split <;> decide
  have haddr : ∀ (addr : UInt32) (port : ℕ) (rest : Bytes),
      Spec.start.padInt (addr.toNat % 256 : ℕ) ++ 46 ::
        (Spec.start.padInt (addr.toNat / 256 % 256 : ℕ) ++ 46 ::
          (Spec.start.padInt (addr.toNat / 65536 % 256 : ℕ) ++ 46 ::
            (Spec.start.padInt (addr.toNat / 16777216 % 256 : ℕ) ++ 58 ::
              (Spec.start.padInt (port : ℕ) ++ rest)))) =
        ipText addr ++ 58 :: (digits 10 port ++ rest) := by
    intro addr port rest
    simp only [padInt_natCast, ipText, List.append_assoc, List.cons_append]
  have hexternal : format (ascii "%d.%d.%d.%d:%d -> ") (ip2str myIp ++ [.int e.mport.toNat]) =
      some (ipText myIp ++ 58 :: (digits 10 e.mport.toNat ++ ascii " -> ")) := by
    rw [← haddr]
    rfl
  have hinternal : format (ascii "%d.%d.%d.%d:%d\n") (ip2str e.daddr ++ [.int e.dport.toNat]) =
      some (ipText e.daddr ++ 58 :: (digits 10 e.dport.toNat ++ ascii "\n")) := by
    rw [← haddr]
    rfl
  have hspace : ascii " -> " = 32 :: ascii "-> " := rfl
  have hnewline : ascii "\n" = [10] := rfl
  rw [portmapLine, hproto, hexternal, hinternal, hspace, hnewline]
  simp

theorem ipText_append_inj {a b : UInt32} {as bs : Bytes} :
    ipText a ++ 58 :: as = ipText b ++ 58 :: bs ↔ a = b ∧ as = bs := by
  have hdot : ¬ ((48 : UInt8) ≤ 46 ∧ (46 : UInt8) ≤ 57) := by decide
  have hcolon : ¬ ((48 : UInt8) ≤ 58 ∧ (58 : UInt8) ≤ 57) := by decide
  simp only [ipText, List.append_assoc, List.cons_append, digits_append_cons_inj hdot,
    digits_append_cons_inj hcolon]
  constructor
  · rintro ⟨h₁, h₂, h₃, h₄, hrest⟩
    have ha := a.toNat_lt
    have hb := b.toNat_lt
    exact ⟨UInt32.toNat_inj.1 (by omega), hrest⟩
  · rintro ⟨rfl, rfl⟩
    exact ⟨rfl, rfl, rfl, rfl, rfl⟩

/-- **A line says which mapping it is**, if the protocol is TCP or UDP. -/
theorem portmapLine_inj {myIp : UInt32} {e e' : PortmapEntry} (he : e.proto = 6 ∨ e.proto = 17)
    (he' : e'.proto = 6 ∨ e'.proto = 17) : portmapLine myIp e = portmapLine myIp e' ↔
      entryView.key e = entryView.key e' ∧ entryView.val e = entryView.val e' := by
  have hspace : ¬ ((48 : UInt8) ≤ 32 ∧ (32 : UInt8) ≤ 57) := by decide
  have hnewline : ¬ ((48 : UInt8) ≤ 10 ∧ (10 : UInt8) ≤ 57) := by decide
  have hrest : ∀ p : Bytes,
      some (p ++ (ipText myIp ++ 58 :: (digits 10 e.mport.toNat ++ 32 :: (ascii "-> " ++
        (ipText e.daddr ++ 58 :: (digits 10 e.dport.toNat ++ 10 :: [])))))) =
      some (p ++ (ipText myIp ++ 58 :: (digits 10 e'.mport.toNat ++ 32 :: (ascii "-> " ++
        (ipText e'.daddr ++ 58 :: (digits 10 e'.dport.toNat ++ 10 :: [])))))) ↔
      e.mport = e'.mport ∧ entryView.val e = entryView.val e' := by
    intro p
    rw [Option.some.injEq, List.append_cancel_left_eq, ipText_append_inj,
      digits_append_cons_inj hspace, List.append_cancel_left_eq, ipText_append_inj,
      digits_append_cons_inj hnewline, UInt16.toNat_inj, UInt16.toNat_inj, entryView, Prod.mk.injEq]
    simp
  have hkey : entryView.key e = entryView.key e' ↔ e.proto = e'.proto ∧ e.mport = e'.mport :=
    Prod.ext_iff
  have hne : ∀ s s' : Bytes, some (ascii "TCP " ++ s) ≠ some (ascii "UDP " ++ s') :=
    fun s s' h => absurd (List.cons.inj (Option.some.inj h)).1 (by decide)
  rw [portmapLine_eq, portmapLine_eq, hkey, and_assoc]
  rcases he with h | h <;> rcases he' with h' | h' <;> rw [h, h']
  · exact (hrest _).trans (and_iff_right rfl).symm
  · exact iff_of_false (hne _ _) fun h => absurd h.1 (by decide)
  · exact iff_of_false (hne _ _).symm fun h => absurd h.1 (by decide)
  · exact (hrest _).trans (and_iff_right rfl).symm

namespace Uplink

variable {aton : CString → UInt32}

/-- **What `show` prints, from the history.**  Behind every run in which no port is mapped twice and
every NVS call succeeds: the first lines say whether there is a connection, with its address.  Below
them every mapping there is has one line, in force or not, and every line is that of a mapping. -/
theorem show_from_history (staticIp : Bool) {is : List UplinkInput}
    (hnodup : StepSystem.EveryStep (step aton) (fun s i => ¬ s.Duplicates aton i)
      (boot staticIp none : Uplink n) is) (connectCount : UInt16) :
    let start : Uplink n := boot staticIp none
    ∃ lines, (StepSystem.run (step aton) start is).showUplink connectCount =
        showConnection (lastAddress is).isSome (lastIp is) connectCount ++ lines ∧ lines.Nodup ∧
      (∀ line ∈ lines, ∃ key target, lastMapping aton key start is = some target ∧
        line = portmapLine (lastIp is) ⟨target.1, key.2, target.2, key.1, true⟩) ∧
      ∀ key target, (key.1 = 6 ∨ key.1 = 17) → (lastMapping aton key start is = some target ↔
        portmapLine (lastIp is) ⟨target.1, key.2, target.2, key.1, true⟩ ∈ lines) := by
  intro start
  obtain ⟨hs, -⟩ := inStep_run staticIp hnodup
  obtain ⟨hconnect, -, -, hip, -⟩ :=
    uplink_from_history aton staticIp (none : Option (Fin n → PortmapEntry)) is
  have hmapped := tab_iff_lastMapping staticIp hnodup
  dsimp only at hmapped
  have hproto : ∀ i, ((StepSystem.run (step aton) start is).portmap.tab i).valid = true →
      ((StepSystem.run (step aton) start is).portmap.tab i).proto = 6 ∨
        ((StepSystem.run (step aton) start is).portmap.tab i).proto = 17 := by
    intro i hi
    by_contra hother
    have hnone : lastMapping aton (entryView.key
      ((StepSystem.run (step aton) start is).portmap.tab i)) start is = none :=
        lastMapping_eq_none hother aton start is
    exact Option.some_ne_none _ (((hmapped _ _).1 ⟨i, hi, rfl, rfl⟩).symm.trans hnone)
  refine ⟨printPortmapTab (StepSystem.run (step aton) start is).portmap, ?_, ?_, ?_, ?_⟩
  · rw [showUplink, hconnect, hip]
  · refine ((List.nodup_finRange n).filter _).map_on ?_
    intro i hi j hj hij
    have hi' := (List.mem_filter.1 hi).2
    have hj' := (List.mem_filter.1 hj).2
    exact hs.unique i j hi' hj' ((portmapLine_inj (hproto i hi') (hproto j hj')).1 hij).1
  · intro line hline
    obtain ⟨i, hi, rfl⟩ := List.mem_map.1 hline
    exact ⟨_, _, (hmapped _ _).1 ⟨i, (List.mem_filter.1 hi).2, rfl, rfl⟩, by rw [hip]; rfl⟩
  · intro key target hkey
    let entry : PortmapEntry := ⟨target.1, key.2, target.2, key.1, true⟩
    rw [← hmapped, printPortmapTab, hip, List.mem_map]
    refine exists_congr fun i => ?_
    rw [List.mem_filter, and_iff_right (List.mem_finRange i)]
    refine and_congr_right fun hi => ?_
    have hline : portmapLine (lastIp is) _ = portmapLine (lastIp is) entry ↔ _ :=
      portmapLine_inj (hproto i hi) hkey
    exact hline.symm

/-- The line of the mapping is printed. -/
theorem show_from_history_web :
    portmapLine 0 ⟨0x0204A8C0, 8080, 80, 6, true⟩ ∈ (StepSystem.run (step fun _ => 0x0204A8C0)
      (boot false none : Uplink 2) webServerMapped).showUplink 0 := by
  have hnodup : StepSystem.EveryStep (step fun _ => 0x0204A8C0)
      (fun s i => ¬ s.Duplicates (fun _ => 0x0204A8C0) i) (boot false none : Uplink 2)
      webServerMapped := by decide +kernel
  obtain ⟨lines, hshow, -, -, hline⟩ := show_from_history false hnodup 0
  rw [hshow]
  exact List.mem_append_right _ ((hline (6, 8080) (0x0204A8C0, 80) (.inl rfl)).1
    (by decide +kernel))

end Uplink

end EspFirewall
