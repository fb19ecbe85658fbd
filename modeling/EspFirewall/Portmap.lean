import EspFirewall.General.KeyedTable
import EspFirewall.General.Slots
import EspFirewall.General.Staged
import EspFirewall.General.StepSystem
import EspFirewall.LogBuffer

/-!
# Port mappings (`esp32_nat_router.c`)

`portmap_tab` is the router's own record of its port mappings: `add_portmap` fills the first free
entry, `del_portmap` clears the first entry with the port, and both write the table to NVS.  What is
in force is the port map of the TCP/IP stack, which the two change along with the table, and which
is replayed from the table when the router gets an address.

The stack's port map is a finite map from the protocol and the external port to the internal address
and port, with `ip_portmap_add` as insert-or-replace.  The table is not: nothing keeps a key from
being entered twice.  `portmap_agrees_iff` says that table and map agree, and that a deleted mapping
does not come back, exactly as long as that does not happen.  `IP_PORTMAP_MAX`, which belongs to the
stack, is the parameter `n`.
-/

set_option autoImplicit false

namespace EspFirewall

open CLang

/-! ## The table and the stack's port map -/

/-- `struct portmap_table_entry`. -/
structure PortmapEntry where
  daddr : UInt32
  mport : UInt16
  dport : UInt16
  proto : UInt8
  valid : Bool
deriving DecidableEq

/-- An entry after a reset. -/
def PortmapEntry.zero : PortmapEntry := ⟨0, 0, 0, 0, false⟩

/-- A protocol and an external port. -/
abbrev PortmapKey := UInt8 × UInt16

/-- An internal address and port. -/
abbrev PortmapTarget := UInt32 × UInt16

/-- The port map of the stack. -/
abbrev NatMap := PortmapKey → Option PortmapTarget

/-- `ip_portmap_add`: insert or replace.  The external address is not part of the map. -/
def ipPortmapAdd (nat : NatMap) (proto : UInt8) (_maddr : UInt32) (mport : UInt16) (daddr : UInt32)
    (dport : UInt16) : NatMap := Function.update nat (proto, mport) (some (daddr, dport))

/-- `ip_portmap_remove`. -/
def ipPortmapRemove (nat : NatMap) (proto : UInt8) (mport : UInt16) : NatMap :=
  Function.update nat (proto, mport) none

/-- The globals that port mapping uses, the blob in NVS if one was ever committed, the stack's port
map, and the log calls made so far. -/
structure Portmap (n : ℕ) where
  /-- `portmap_tab`. -/
  tab : Fin n → PortmapEntry
  /-- `portmap_tab` in NVS. -/
  nvs : Option (Fin n → PortmapEntry)
  /-- `my_ip`. -/
  myIp : UInt32
  nat : NatMap
  logs : List LogCall

/-- What the NVS calls of one save return. -/
structure PortmapSave where
  opened : Bool
  wrote : Bool
  committed : Bool

/-- Every call succeeds. -/
def PortmapSave.ok : PortmapSave := ⟨true, true, true⟩

/-- What the NVS calls of `get_portmap_tab` return, apart from the read of a key that was never
written, which fails in any case. -/
structure PortmapLoad where
  opened : Bool
  read : Bool

/-- Every call succeeds. -/
def PortmapLoad.ok : PortmapLoad := ⟨true, true⟩

/-- The error codes of `add_portmap` and `del_portmap`. -/
inductive PortmapErr
  | ok
  | noMem
  /-- The error of `nvs_open`. -/
  | nvs
deriving DecidableEq

variable {n : ℕ}

/-- `apply_portmap_tab`. -/
def applyPortmapTab (s : Portmap n) : Portmap n :=
  { s with nat := Fin.foldl n (fun nat i =>
      if (s.tab i).valid then
        ipPortmapAdd nat (s.tab i).proto s.myIp (s.tab i).mport (s.tab i).daddr (s.tab i).dport
      else nat) s.nat }

/-- `delete_portmap_tab`. -/
def deletePortmapTab (s : Portmap n) : Portmap n :=
  { s with nat := Fin.foldl n (fun nat i =>
      if (s.tab i).valid then ipPortmapRemove nat (s.tab i).proto (s.tab i).mport else nat) s.nat }

/-- What NVS holds after the writes of one save. -/
def savePortmapTab (out : PortmapSave) (tab : Fin n → PortmapEntry)
    (nvs : Option (Fin n → PortmapEntry)) : Option (Fin n → PortmapEntry) :=
  let h := Staged.Handle.fresh nvs
  let h := h.set out.wrote fun _ => some tab
  let h := if out.wrote then h.commit out.committed else h
  h.close

/-- `add_portmap`. -/
def addPortmap (out : PortmapSave) (proto : UInt8) (mport : UInt16) (daddr : UInt32)
    (dport : UInt16) (s : Portmap n) : PortmapErr × Portmap n :=
  match Slots.first (fun e => !e.valid) s.tab with
  | some i =>
    let s := { s with tab := Function.update s.tab i ⟨daddr, mport, dport, proto, true⟩ }
    if out.opened then
      (.ok, { s with
        nvs := savePortmapTab out s.tab s.nvs
        nat := ipPortmapAdd s.nat proto s.myIp mport daddr dport
        logs := if out.wrote && out.committed then
          s.logs ++ [.fmt "New portmap table stored" []] else s.logs })
    else (.nvs, s)
  | none => (.noMem, s)

/-- The test of the loop of `del_portmap`. -/
def PortmapEntry.maps (proto : UInt8) (mport : UInt16) (e : PortmapEntry) : Bool :=
  e.valid && (e.mport == mport && e.proto == proto)

/-- `del_portmap`. -/
def delPortmap (out : PortmapSave) (proto : UInt8) (mport : UInt16) (s : Portmap n) :
    PortmapErr × Portmap n :=
  match Slots.first (PortmapEntry.maps proto mport) s.tab with
  | some i =>
    let s := { s with tab := Function.update s.tab i { s.tab i with valid := false } }
    if out.opened then
      (.ok, { s with
        nvs := savePortmapTab out s.tab s.nvs
        nat := ipPortmapRemove s.nat proto mport })
    else (.nvs, s)
  | none => (.ok, s)

/-- The branch of `wifi_event_handler` for `IP_EVENT_STA_GOT_IP`; `dns` says whether
`esp_netif_get_dns_info` succeeds. -/
def staGotIp (addr : UInt32) (dns : Bool) (s : Portmap n) : Portmap n :=
  let s := { s with myIp := addr, logs := s.logs ++ [.fmt "got ip" []] }
  let s := applyPortmapTab (deletePortmapTab s)
  if dns then
    { s with logs := s.logs ++
        [.fmt "Upstream DNS learned. Not applying to AP to preserve filtering." []] }
  else s

/-- `get_portmap_tab`, on a table that is zeroed. -/
def getPortmapTab (out : PortmapLoad) (nvs : Option (Fin n → PortmapEntry)) :
    Fin n → PortmapEntry :=
  match out.opened && out.read, nvs with
  | true, some tab => tab
  | _, _ => fun _ => .zero

/-- Power on: the table is read from NVS, and applied if the router has a static address. -/
def bootPortmap (out : PortmapLoad) (staticIp : Bool) (nvs : Option (Fin n → PortmapEntry)) :
    Portmap n :=
  let s : Portmap n := ⟨getPortmapTab out nvs, nvs, 0, fun _ => none, []⟩
  if staticIp then applyPortmapTab s else s

/-! ## Runs -/

/-- A call that concerns the port mappings. -/
inductive PortmapCall
  | add (proto : UInt8) (mport : UInt16) (daddr : UInt32) (dport : UInt16)
  | del (proto : UInt8) (mport : UInt16)
  | gotIp (addr : UInt32) (dns : Bool)

/-- A call, or a reboot. -/
inductive PortmapInput
  | call (c : PortmapCall)
  | reboot (staticIp : Bool)

/-- The input adds a mapping for the key. -/
def PortmapInput.Adds (key : PortmapKey) (i : PortmapInput) : Prop :=
  ∃ daddr dport, i = .call (.add key.1 key.2 daddr dport)

namespace Portmap

/-- An empty table, and nothing in NVS or in the stack. -/
def unused (myIp : UInt32) (logs : List LogCall) : Portmap n :=
  ⟨fun _ => .zero, none, myIp, fun _ => none, logs⟩

/-- One call, with every NVS call succeeding. -/
def call (s : Portmap n) : PortmapCall → Portmap n
  | .add proto mport daddr dport => (addPortmap .ok proto mport daddr dport s).2
  | .del proto mport => (delPortmap .ok proto mport s).2
  | .gotIp addr dns => staGotIp addr dns s

/-- One input, with every NVS call succeeding. -/
def step (s : Portmap n) : PortmapInput → Portmap n
  | .call c => s.call c
  | .reboot staticIp => bootPortmap .ok staticIp s.nvs

end Portmap

/-! ## The table as a description of the map -/

/-- How an entry is read. -/
def entryView : KeyedTable.View PortmapEntry PortmapKey PortmapTarget :=
  ⟨PortmapEntry.valid, fun e => (e.proto, e.mport), fun e => (e.daddr, e.dport)⟩

theorem maps_iff {proto : UInt8} {mport : UInt16} {e : PortmapEntry} :
    e.maps proto mport = true ↔ e.valid = true ∧ entryView.key e = (proto, mport) := by
  simp [PortmapEntry.maps, entryView, and_comm]

namespace Portmap

/-- The table has at most one valid entry for each protocol and external port, and the map holds
what the valid entries say. -/
def Agrees (s : Portmap n) : Prop :=
  KeyedTable.Unique entryView s.tab ∧ KeyedTable.Describes entryView s.tab s.nat

/-- There is no valid entry for the key, and the map does not have it. -/
def Gone (key : PortmapKey) (s : Portmap n) : Prop :=
  KeyedTable.Free entryView s.tab key ∧ s.nat key = none

/-- A `del_portmap` is final: whatever calls and reboots follow, until the key is added again there
is no mapping for it. -/
def EndsMapping (s : Portmap n) : PortmapCall → Prop
  | .del proto mport => ∀ later : List PortmapInput, (∀ i ∈ later, ¬ i.Adds (proto, mport)) →
      StepSystem.EveryState step (Gone (proto, mport)) (s.call (.del proto mport)) later
  | _ => True

/-- The call enters a key that is in the table. -/
def Duplicates (s : Portmap n) : PortmapCall → Prop
  | .add proto mport _ _ => (∃ i, (s.tab i).valid = false) ∧
      ∃ i, (s.tab i).valid = true ∧ (s.tab i).proto = proto ∧ (s.tab i).mport = mport
  | _ => False

/-- NVS holds the table, or nothing when no entry is valid. -/
def Saved (s : Portmap n) : Prop :=
  s.nvs = some s.tab ∨ (s.nvs = none ∧ ∀ i, (s.tab i).valid = false)

/-- What `add_portmap` does when every NVS call succeeds. -/
theorem call_add {s : Portmap n} (proto : UInt8) (mport : UInt16) (daddr : UInt32)
    (dport : UInt16) {i : Fin n} (hi : Slots.first (fun e => !e.valid) s.tab = some i) :
    (s.call (.add proto mport daddr dport)).tab =
        Function.update s.tab i ⟨daddr, mport, dport, proto, true⟩ ∧
      (s.call (.add proto mport daddr dport)).nvs =
        some (s.call (.add proto mport daddr dport)).tab ∧
      (s.call (.add proto mport daddr dport)).nat =
        Function.update s.nat (proto, mport) (some (daddr, dport)) := by
  rw [call, addPortmap, hi]
  exact ⟨rfl, rfl, rfl⟩

theorem call_add_full {s : Portmap n} {proto : UInt8} {mport : UInt16} {daddr : UInt32}
    {dport : UInt16} (hfull : Slots.first (fun e => !e.valid) s.tab = none) :
    s.call (.add proto mport daddr dport) = s := by
  rw [call, addPortmap, hfull]

/-- What `del_portmap` does when every NVS call succeeds. -/
theorem call_del {s : Portmap n} {proto : UInt8} {mport : UInt16} {i : Fin n}
    (hi : Slots.first (PortmapEntry.maps proto mport) s.tab = some i) :
    (s.call (.del proto mport)).tab =
        Function.update s.tab i { s.tab i with valid := false } ∧
      (s.call (.del proto mport)).nvs = some (s.call (.del proto mport)).tab ∧
      (s.call (.del proto mport)).nat = Function.update s.nat (proto, mport) none := by
  rw [call, delPortmap, hi]
  exact ⟨rfl, rfl, rfl⟩

theorem call_del_none {s : Portmap n} {proto : UInt8} {mport : UInt16}
    (hnone : Slots.first (PortmapEntry.maps proto mport) s.tab = none) :
    s.call (.del proto mport) = s := by
  rw [call, delPortmap, hnone]

/-- A new address replays the table. -/
theorem call_gotIp (s : Portmap n) (addr : UInt32) (dns : Bool) :
    (s.call (.gotIp addr dns)).tab = s.tab ∧ (s.call (.gotIp addr dns)).nvs = s.nvs ∧
      (s.call (.gotIp addr dns)).nat = KeyedTable.insertAll entryView s.tab
        (KeyedTable.removeAll entryView s.tab s.nat) := by
  rcases dns with _ | _ <;> exact ⟨rfl, rfl, rfl⟩

/-- A reboot finds what was saved, and the stack's map knows nothing else. -/
theorem step_reboot (s : Portmap n) (staticIp : Bool) :
    (s.step (.reboot staticIp)).tab = s.nvs.getD (fun _ => .zero) ∧
      (s.step (.reboot staticIp)).nvs = s.nvs ∧
      ((s.step (.reboot staticIp)).nat = (fun _ => none) ∨
        (s.step (.reboot staticIp)).nat =
          KeyedTable.insertAll entryView (s.step (.reboot staticIp)).tab fun _ => none) := by
  rw [step, bootPortmap]
  rcases s.nvs with _ | tab
  · rcases staticIp with _ | _
    · exact ⟨rfl, rfl, .inl rfl⟩
    · exact ⟨rfl, rfl, .inr rfl⟩
  · rcases staticIp with _ | _
    · exact ⟨rfl, rfl, .inl rfl⟩
    · exact ⟨rfl, rfl, .inr rfl⟩

/-! ## Memory and NVS -/

theorem saved_step (s : Portmap n) (i : PortmapInput) (hs : s.Saved) : (s.step i).Saved := by
  rcases i with (⟨proto, mport, daddr, dport⟩ | ⟨proto, mport⟩ | ⟨addr, dns⟩) | staticIp
  · rw [step]
    rcases hi : Slots.first (fun e => !e.valid) s.tab with _ | i
    · rwa [call_add_full hi]
    · exact .inl (call_add proto mport daddr dport hi).2.1
  · rw [step]
    rcases hi : Slots.first (PortmapEntry.maps proto mport) s.tab with _ | i
    · rwa [call_del_none hi]
    · exact .inl (call_del hi).2.1
  · obtain ⟨htab, hnvs, -⟩ := s.call_gotIp addr dns
    rw [step, Saved, htab, hnvs]
    exact hs
  · obtain ⟨htab, hnvs, -⟩ := s.step_reboot staticIp
    rw [Saved, htab, hnvs]
    rcases s.nvs with _ | tab
    · exact .inr ⟨rfl, fun _ => rfl⟩
    · exact .inl rfl

/-- What a reboot finds of a saved table has no more keys than the table. -/
theorem Saved.free_reboot {s : Portmap n} (hs : s.Saved) {key : PortmapKey}
    (h : KeyedTable.Free entryView s.tab key) (staticIp : Bool) :
    KeyedTable.Free entryView (s.step (.reboot staticIp)).tab key := by
  rw [(s.step_reboot staticIp).1]
  rcases hs with hsome | ⟨hnone, -⟩
  · rw [hsome]
    exact h
  · rw [hnone]
    exact fun i hi => absurd hi Bool.false_ne_true

/-! ## When table and map agree -/

/-- **One step of the agreement**: it is lost when a key is entered twice. -/
theorem agrees_call_iff {s : Portmap n} (hs : s.Agrees) (c : PortmapCall) :
    (s.call c).Agrees ↔ ¬ s.Duplicates c := by
  obtain ⟨hunique, hdescribes⟩ := hs
  rcases c with ⟨proto, mport, daddr, dport⟩ | ⟨proto, mport⟩ | ⟨addr, dns⟩
  · rcases hi : Slots.first (fun e => !e.valid) s.tab with _ | i
    · rw [call_add_full hi]
      refine iff_of_true ⟨hunique, hdescribes⟩ ?_
      rintro ⟨⟨i, hfree⟩, -⟩
      have hvalid := Slots.first_eq_none_iff.1 hi i
      rw [hfree] at hvalid
      exact Bool.false_ne_true hvalid.symm
    · have hinvalid : (s.tab i).valid = false := Slots.eq_false_of_first hi
      obtain ⟨htab, -, hnat⟩ := call_add proto mport daddr dport hi
      rw [Agrees, htab, hnat]
      by_cases hfree : KeyedTable.Free entryView s.tab (proto, mport)
      · refine iff_of_true ⟨hunique.insert i hfree, hdescribes.insert hinvalid rfl hfree⟩ ?_
        rintro ⟨-, j, hj, hproto, hmport⟩
        exact hfree j hj (Prod.ext hproto hmport)
      · rw [KeyedTable.Free, not_forall] at hfree
        obtain ⟨j, hj⟩ := hfree
        rw [Classical.not_imp, not_not] at hj
        have hji : j ≠ i := by
          rintro rfl
          exact Bool.false_ne_true (hinvalid.symm.trans hj.1)
        refine iff_of_false (fun h => hji (h.1 j i ?_ ?_ ?_)) fun h => h ⟨⟨i, hinvalid⟩, j, hj.1,
          congrArg Prod.fst hj.2, congrArg Prod.snd hj.2⟩
        · rw [Function.update_of_ne hji]
          exact hj.1
        · rw [Function.update_self]
          rfl
        · rw [Function.update_of_ne hji, Function.update_self]
          exact hj.2
  · refine iff_of_true ?_ id
    rcases hi : Slots.first (PortmapEntry.maps proto mport) s.tab with _ | i
    · rw [call_del_none hi]
      exact ⟨hunique, hdescribes⟩
    · obtain ⟨hvalid, hkey⟩ := maps_iff.1 (Slots.first_eq_some_iff.1 hi).1
      obtain ⟨htab, -, hnat⟩ := call_del hi
      rw [Agrees, htab, hnat, ← hkey]
      exact ⟨hunique.update_of_not_inUse i rfl, hdescribes.remove hunique hvalid rfl⟩
  · obtain ⟨htab, -, hnat⟩ := s.call_gotIp addr dns
    rw [Agrees, htab, hnat]
    exact iff_of_true ⟨hunique, hdescribes.replay hunique⟩ id

/-- A `del_portmap` takes the key out of both. -/
theorem Agrees.gone_del {s : Portmap n} (hs : s.Agrees) (proto : UInt8) (mport : UInt16) :
    Gone (proto, mport) (s.call (.del proto mport)) := by
  rcases hi : Slots.first (PortmapEntry.maps proto mport) s.tab with _ | i
  · have hfree : KeyedTable.Free entryView s.tab (proto, mport) := by
      intro i hvalid hkey
      have hmaps := Slots.first_eq_none_iff.1 hi i
      rw [maps_iff.2 ⟨hvalid, hkey⟩] at hmaps
      exact Bool.false_ne_true hmaps.symm
    rw [call_del_none hi]
    exact ⟨hfree, hs.2.eq_none hfree⟩
  · obtain ⟨hvalid, hkey⟩ := maps_iff.1 (Slots.first_eq_some_iff.1 hi).1
    obtain ⟨htab, -, hnat⟩ := call_del hi
    rw [Gone, htab, hnat, Function.update_self, ← hkey]
    exact ⟨hs.1.free_update hvalid rfl, rfl⟩

/-- **A key that is gone stays gone** until it is added. -/
theorem gone_step {s : Portmap n} {key : PortmapKey} (hs : s.Saved) (h : Gone key s)
    {i : PortmapInput} (hi : ¬ i.Adds key) : Gone key (s.step i) := by
  obtain ⟨hfree, hnat⟩ := h
  rcases i with (⟨proto, mport, daddr, dport⟩ | ⟨proto, mport⟩ | ⟨addr, dns⟩) | staticIp
  · have hne : (proto, mport) ≠ key := by
      rintro rfl
      exact hi ⟨daddr, dport, rfl⟩
    rw [step]
    rcases hfirst : Slots.first (fun e => !e.valid) s.tab with _ | j
    · rw [call_add_full hfirst]
      exact ⟨hfree, hnat⟩
    · obtain ⟨htab, -, hmap⟩ := call_add proto mport daddr dport hfirst
      rw [Gone, htab, hmap, Function.update_of_ne hne.symm]
      exact ⟨hfree.update j fun _ => hne, hnat⟩
  · rw [step]
    rcases hfirst : Slots.first (PortmapEntry.maps proto mport) s.tab with _ | j
    · rw [call_del_none hfirst]
      exact ⟨hfree, hnat⟩
    · obtain ⟨htab, -, hmap⟩ := call_del hfirst
      rw [Gone, htab, hmap]
      refine ⟨hfree.update j fun hvalid => absurd hvalid Bool.false_ne_true, ?_⟩
      by_cases hkey : key = (proto, mport)
      · rw [hkey, Function.update_self]
      · rw [Function.update_of_ne hkey, hnat]
  · obtain ⟨htab, -, hmap⟩ := s.call_gotIp addr dns
    rw [step, Gone, htab, hmap, (KeyedTable.replay_of_free hfree).2,
      (KeyedTable.replay_of_free hfree).1]
    exact ⟨hfree, hnat⟩
  · have hboot := hs.free_reboot hfree staticIp
    refine ⟨hboot, ?_⟩
    rcases (s.step_reboot staticIp).2.2 with hempty | hreplay
    · rw [hempty]
    · rw [hreplay, (KeyedTable.replay_of_free hboot).2]

theorem endsMapping {s : Portmap n} (hs : s.Agrees) (hsaved : s.Saved) (c : PortmapCall) :
    s.EndsMapping c := by
  rcases c with _ | ⟨proto, mport⟩ | _
  · trivial
  · intro later hlater
    have hkept := StepSystem.everyState_of_invariant
      (fun (s : Portmap n) i (hi : ¬ PortmapInput.Adds (proto, mport) i)
        (h : s.Saved ∧ Gone (proto, mport) s) => ⟨saved_step s i h.1, gone_step h.1 h.2 hi⟩)
      (StepSystem.EveryStep.of_mem hlater)
      ⟨saved_step s (.call (.del proto mport)) hsaved, hs.gone_del proto mport⟩
    exact hkept.mono fun _ h => h.2
  · trivial

theorem agrees_unused (myIp : UInt32) (logs : List LogCall) :
    (unused myIp logs : Portmap n).Agrees := by
  refine ⟨fun _ _ h => absurd h Bool.false_ne_true, fun k x => iff_of_false ?_ ?_⟩
  · exact (Option.some_ne_none x).symm
  · rintro ⟨i, hi, -⟩
    exact Bool.false_ne_true hi

/-- **When the port mapping table and the stack agree.**  Along every run of calls from an empty
table, the table has at most one valid entry for each protocol and external port and the stack maps
exactly what the entries say, in every state, and no mapping comes back once it is deleted, precisely
when no call adds a port that is in the table while an entry is free. -/
theorem portmap_agrees_iff (myIp : UInt32) (logs : List LogCall) (cs : List PortmapCall) :
    (StepSystem.EveryState call Agrees (unused myIp logs : Portmap n) cs ∧
      StepSystem.EveryStep call EndsMapping (unused myIp logs : Portmap n) cs) ↔
      StepSystem.EveryStep call (fun s c => ¬ s.Duplicates c) (unused myIp logs : Portmap n)
        cs := by
  have hempty := agrees_unused (n := n) myIp logs
  have hiff : StepSystem.EveryState call Agrees (unused myIp logs : Portmap n) cs ↔
      StepSystem.EveryStep call (fun s c => ¬ s.Duplicates c) (unused myIp logs) cs :=
    StepSystem.everyState_iff_everyStep'
      (fun s c (_ : True) hs hc => ⟨trivial, (agrees_call_iff hs c).2 hc⟩)
      (fun s c _ hs hnext => (agrees_call_iff hs c).1 hnext) trivial hempty
  refine ⟨fun h => hiff.1 h.1, fun h => ⟨hiff.2 h, ?_⟩⟩
  have hsaved : StepSystem.EveryState call Saved (unused myIp logs : Portmap n) cs :=
    StepSystem.everyState_of_invariant (fun s c (_ : True) => saved_step s (.call c))
      (.of_forall fun _ _ => trivial) (.inr ⟨rfl, fun _ => rfl⟩)
  exact ((hiff.2 h).and hsaved).everyStep fun s c hs => endsMapping hs.1 hs.2 c

/-- A port that is mapped to one address, then to another, and then deleted. -/
def remappedPort : List PortmapCall :=
  [.add 6 8080 0x0204A8C0 80, .add 6 8080 0x0304A8C0 80, .del 6 8080]

/-- It is mapped again when the router gets an address. -/
theorem portmap_comes_back : ¬ ∀ (n : ℕ) (myIp : UInt32) (logs : List LogCall)
    (cs : List PortmapCall), StepSystem.EveryState call Agrees (unused myIp logs : Portmap n) cs ∧
      StepSystem.EveryStep call EndsMapping (unused myIp logs : Portmap n) cs := by
  intro h
  have hdel := (h 32 0 [] remappedPort).2.2.2.1 [.call (.gotIp 0x0A01A8C0 true)]
    (by rintro i (_ | ⟨_, ⟨⟩⟩) ⟨daddr, dport, ⟨⟩⟩)
  exact absurd hdel.last.2 (by decide +kernel)

end Portmap

end EspFirewall
