import EspFirewall.NvsConsole
import EspFirewall.PortmapChanges

/-!
# The handles on NVS (`cmd_router.c`, `cmd_nvs.c`, `esp32_nat_router.c`)

Every function that uses NVS should close the handle that it opens, and no other.  The settings
commands, `portmap` and the functions behind it, `nvs_set`, `nvs_get` and `nvs_erase` do.  Of the
functions that read a setting, none does when the setting is not there, and `show` reads nine of
them; `erase_all` closes a handle that it does not have when it cannot open one.

`handles_balanced_iff` says that over all runs these are the only cases.
-/

set_option autoImplicit false

namespace EspFirewall

open CLang HandleStore

variable {H : Type}

/-! ## Reading a setting -/

/-- What the NVS calls of a function that reads a setting return. -/
structure ReadOutcome (α : Type) where
  opened : Bool
  /-- What the first read finds under the key, if it finds something of its type. -/
  found : Option α
  /-- What the second read puts into the memory for it. -/
  copied : α

/-- The part that `get_config_param_str`, `get_config_param_int` and `get_config_param_blob` share:
what they return, the parameter if they set it, and their calls.  What was found is checked, and read
once more if `again`; the result of that is not looked at. -/
def getConfigParam {α : Type} (again : Bool) (check : α → Bool) (out : ReadOutcome α) (nvs : H) :
    NvsErr × Option α × List (Call H NvsParams) :=
  if out.opened then
    match out.found with
    | some v =>
      if check v then
        if again then (.ok, some out.copied, [.opened nvs, .read nvs, .read nvs, .close nvs])
        else (.ok, some v, [.opened nvs, .read nvs, .close nvs])
      else (.invalidLength, none, [.opened nvs, .read nvs])
    | none => (.call, none, [.opened nvs, .read nvs])
  else (.call, none, [.openFailed])

/-- `get_config_param_str`. -/
def getConfigParamStr (out : ReadOutcome CString) (nvs : H) :
    NvsErr × Option CString × List (Call H NvsParams) :=
  getConfigParam true (fun _ => true) out nvs

/-- `get_config_param_int`. -/
def getConfigParamInt (out : ReadOutcome ℤ) (nvs : H) :
    NvsErr × Option ℤ × List (Call H NvsParams) :=
  getConfigParam false (fun _ => true) out nvs

/-- `get_config_param_blob`. -/
def getConfigParamBlob (blobLen : ℕ) (out : ReadOutcome Bytes) (nvs : H) :
    NvsErr × Option Bytes × List (Call H NvsParams) :=
  getConfigParam true (fun blob => blob.length = blobLen) out nvs

/-- The read opens NVS only if it finds what it needs. -/
def ReadOutcome.Completes {α : Type} (check : α → Bool) (out : ReadOutcome α) : Prop :=
  out.opened = true → ∃ v, out.found = some v ∧ check v = true

/-- The settings that `show` reads. -/
def showKeys : List String :=
  ["ssid", "ent_username", "ent_identity", "passwd", "static_ip", "subnet_mask", "gateway_addr",
    "ap_ssid", "ap_passwd"]

/-- The calls of `show`; their outcomes, and the handles, by the key. -/
def showCalls (outs : String → ReadOutcome CString) (nvs : String → H) : List (Call H NvsParams) :=
  showKeys.flatMap fun key => (getConfigParamStr (outs key) (nvs key)).2.2

/-! ## Port mappings -/

/-- What the NVS calls of `get_portmap_tab` return: the first read, the length of the blob. -/
structure PortmapRead where
  opened : Bool
  length : Option ℕ
  read : Bool

/-- The calls of `get_portmap_tab`, for a table of `size` bytes, and what it returns. -/
def getPortmapTabCalls (size : ℕ) (out : PortmapRead) (nvs : H) :
    NvsErr × List (Call H NvsParams) :=
  if out.opened then
    match out.length with
    | some len =>
      if len ≠ size then (.invalidLength, [.opened nvs, .read nvs, .close nvs])
      else (if out.read then .ok else .call, [.opened nvs, .read nvs, .read nvs, .close nvs])
    | none => (.call, [.opened nvs, .read nvs, .close nvs])
  else (.call, [.openFailed])

variable {n : ℕ}

/-- The blob of the table. -/
abbrev PortmapBlob (n : ℕ) := Option (Fin n → PortmapEntry)

/-- The calls that save the table. -/
def savePortmapCalls (out : PortmapSave) (nvs : H) (tab : Fin n → PortmapEntry) :
    List (Call H (PortmapBlob n)) :=
  if out.opened then
    if out.wrote then
      [.opened nvs, .write nvs true fun _ => some tab, .commit nvs out.committed, .close nvs]
    else [.opened nvs, .write nvs false fun _ => some tab, .close nvs]
  else [.openFailed]

/-- The calls of `add_portmap` and `del_portmap`: none, if there is no entry to change. -/
def PortmapChange.calls (out : PortmapSave) (nvs : H) (s : Portmap n) :
    PortmapChange → List (Call H (PortmapBlob n))
  | .add proto mport daddr dport =>
    match Slots.first (fun e => !e.valid) s.tab with
    | some i =>
      savePortmapCalls out nvs (Function.update s.tab i ⟨daddr, mport, dport, proto, true⟩)
    | none => []
  | .del proto mport =>
    match Slots.first (PortmapEntry.maps proto mport) s.tab with
    | some i => savePortmapCalls out nvs (Function.update s.tab i { s.tab i with valid := false })
    | none => []

/-- `portmap_args`, filled in. -/
structure PortmapArgs where
  addDel : CString
  tcpUdp : CString
  extPort : ℤ
  intIp : CString
  intPort : ℤ

/-- The conversion of an `int` to `uint16_t`. -/
def portOfInt (i : ℤ) : UInt16 := UInt16.ofNat (i % 65536).toNat

/-- What `portmap` makes of its arguments, when they are valid; `aton` is `esp_ip4addr_aton`. -/
def portmapRequest (aton : CString → UInt32) (args : PortmapArgs) : Option PortmapChange :=
  let proto : Option UInt8 :=
    if args.tcpUdp = .lit "TCP" then some 6 else if args.tcpUdp = .lit "UDP" then some 17 else none
  if args.addDel = .lit "add" then
    proto.map fun proto =>
      .add proto (portOfInt args.extPort) (aton args.intIp) (portOfInt args.intPort)
  else if args.addDel = .lit "del" then
    proto.map fun proto => .del proto (portOfInt args.extPort)
  else none

/-- `portmap`: what it returns, the state behind it, and its calls.  The result of `add_portmap` and
of `del_portmap` is not looked at. -/
def portmapCommand (argParse : List CString → Option PortmapArgs) (aton : CString → UInt32)
    (out : PortmapSave) (nvs : H) (argv : List CString) (s : Portmap n) :
    CommandResult × Portmap n × List (Call H (PortmapBlob n)) :=
  match (argParse argv).bind (portmapRequest aton) with
  | none => (.usage, s, [])
  | some c => (.ok, (c.exec out s).2, c.calls out nvs s)

section

variable [DecidableEq H]

/-- What the calls that save the table leave in NVS. -/
theorem durableAfter_savePortmapCalls {out : PortmapSave} (hopened : out.opened = true) (nvs : H)
    (tab : Fin n → PortmapEntry) (blob : PortmapBlob n) :
    durableAfter blob (savePortmapCalls out nvs tab) = savePortmapTab out tab blob := by
  rw [savePortmapCalls, if_pos hopened, savePortmapTab_eq]
  cases out.wrote with
  | false => exact durableAfter_of_no_commit blob rfl
  | true =>
    cases out.committed with
    | false => exact durableAfter_of_no_commit blob rfl
    | true => exact durableAfter_session blob nvs [fun _ => some tab]

/-- **The calls of a change do to the blob what the change does.** -/
theorem PortmapChange.durableAfter_calls (out : PortmapSave) (nvs : H) (s : Portmap n)
    (c : PortmapChange) : durableAfter s.nvs (c.calls out nvs s) = (c.exec out s).2.nvs := by
  have hclosed (tab : Fin n → PortmapEntry) (h : ¬ out.opened = true) :
      durableAfter s.nvs (savePortmapCalls out nvs tab) = s.nvs := by
    rw [savePortmapCalls, if_neg h]
    rfl
  rcases c with ⟨proto, mport, daddr, dport⟩ | ⟨proto, mport⟩
  · simp only [calls, exec, addPortmap]
    cases Slots.first (fun e => !e.valid) s.tab with
    | none => rfl
    | some i =>
      dsimp only
      split
      · next hopened => exact durableAfter_savePortmapCalls hopened nvs _ s.nvs
      · next hfailed => exact hclosed _ hfailed
  · simp only [calls, exec, delPortmap]
    cases Slots.first (PortmapEntry.maps proto mport) s.tab with
    | none => rfl
    | some i =>
      dsimp only
      split
      · next hopened => exact durableAfter_savePortmapCalls hopened nvs _ s.nvs
      · next hfailed => exact hclosed _ hfailed

end

/-! ## Runs -/

/-- A call of a function that uses NVS, with what the NVS calls in it return. -/
inductive NvsUse (H : Type) (n : ℕ)
  | getConfigParamStr (out : ReadOutcome CString) (nvs : H)
  | getConfigParamInt (out : ReadOutcome ℤ) (nvs : H)
  | getConfigParamBlob (blobLen : ℕ) (out : ReadOutcome Bytes) (nvs : H)
  | show (outs : String → ReadOutcome CString) (nvs : String → H)
  | settings (argParse : CommandParse) (c : SettingsCommand) (out : ParamSave) (nvs : H)
    (argv : List CString)
  | getPortmapTab (size : ℕ) (out : PortmapRead) (nvs : H)
  /-- `add_portmap` or `del_portmap`. -/
  | change (c : PortmapChange) (out : PortmapSave) (nvs : H) (s : Portmap n)
  | portmap (argParse : List CString → Option PortmapArgs) (aton : CString → UInt32)
    (out : PortmapSave) (nvs : H) (argv : List CString) (s : Portmap n)
  | setValueInNvs (out : SetValueOutcome) (errno : Bool) (nvs : H) (key : String)
    (strType strValue : CString)
  | getValueFromNvs (out : GetValueOutcome) (nvs : H) (strType : CString)
  | erase (out : EraseOutcome) (nvs : H) (key : String)
  | eraseAll (out : EraseOutcome) (nvs junk : H)

namespace NvsUse

/-- The handles that the function opens and closes. -/
def events : NvsUse H n → List (Event H)
  | .getConfigParamStr out nvs => HandleStore.events (EspFirewall.getConfigParamStr out nvs).2.2
  | .getConfigParamInt out nvs => HandleStore.events (EspFirewall.getConfigParamInt out nvs).2.2
  | .getConfigParamBlob blobLen out nvs =>
    HandleStore.events (EspFirewall.getConfigParamBlob blobLen out nvs).2.2
  | .show outs nvs => HandleStore.events (showCalls outs nvs)
  | .settings argParse c out nvs argv => HandleStore.events (c.exec argParse out nvs argv).2
  | .getPortmapTab size out nvs => HandleStore.events (getPortmapTabCalls size out nvs).2
  | .change c out nvs s => HandleStore.events (c.calls out nvs s)
  | .portmap argParse aton out nvs argv s =>
    HandleStore.events (portmapCommand argParse aton out nvs argv s).2.2
  | .setValueInNvs out errno nvs key strType strValue =>
    HandleStore.events (EspFirewall.setValueInNvs out errno nvs key strType strValue).2.2
  | .getValueFromNvs out nvs strType =>
    HandleStore.events (EspFirewall.getValueFromNvs out nvs strType).2
  | .erase out nvs key => HandleStore.events (EspFirewall.erase out nvs key).2
  | .eraseAll out nvs junk => HandleStore.events (EspFirewall.eraseAll out nvs junk).2

/-- A read of a setting finds it, if it opens NVS, and a blob has the length that is asked for;
`show` finds all nine of its settings; `erase_all` can open NVS.  The others always do. -/
def Completes : NvsUse H n → Prop
  | .getConfigParamStr out _ => out.Completes fun _ => true
  | .getConfigParamInt out _ => out.Completes fun _ => true
  | .getConfigParamBlob blobLen out _ => out.Completes fun blob => blob.length = blobLen
  | .show outs _ => ∀ key ∈ showKeys, (outs key).Completes fun _ => true
  | .eraseAll out _ _ => out.opened = true
  | _ => True

end NvsUse

/-- The handle that a read leaves open. -/
def ReadOutcome.left {α : Type} (check : α → Bool) (out : ReadOutcome α) (nvs : H) : Multiset H :=
  if out.opened then
    match out.found with
    | some v => if check v then 0 else {nvs}
    | none => {nvs}
  else 0

theorem ReadOutcome.left_eq_zero_iff {α : Type} {check : α → Bool} {out : ReadOutcome α} {nvs : H} :
    out.left check nvs = 0 ↔ out.Completes check := by
  rw [left, Completes]
  split
  · next hopened =>
    rw [forall_prop_of_true hopened]
    cases out.found with
    | none => simp
    | some v => cases hcheck : check v <;> simp [hcheck]
  · next hfailed => exact iff_of_true rfl fun hopened => absurd hopened hfailed

theorem events_putAll (nvs : H) (out : ParamSave) (writes : List (String × NvsValue)) :
    events (putAll nvs out writes).2 = [] := by
  induction writes with
  | nil => rfl
  | cons w writes ih =>
    rw [putAll]
    split
    · exact ih
    · rfl

theorem events_storeBlob (out : SetValueOutcome) (nvs : H) (key : String) (strValues : CString) :
    events (storeBlob out nvs key strValues).2 = [] := by
  rw [storeBlob]
  repeat' split
  all_goals rfl

theorem events_finishSetValue (out : SetValueOutcome) (errno : Bool) (nvs : H) (err : NvsErr) :
    events (finishSetValue out errno nvs err).2 = [.closed nvs] := by
  rw [finishSetValue]
  repeat' split
  all_goals rfl

theorem events_eraseCalls (out : EraseOutcome) (nvs : H) (f : NvsParams → NvsParams) :
    events (eraseCalls out nvs f).2 = [] := by
  rw [eraseCalls]
  split <;> rfl

section

variable [DecidableEq H]

theorem account_getConfigParam {α : Type} (again : Bool) (check : α → Bool)
    (out : ReadOutcome α) (nvs : H) :
    account (events (getConfigParam again check out nvs).2.2) 0 = some (out.left check nvs) := by
  have hclosed : IsBalanced [Event.opened nvs, .closed nvs] := isBalanced_pair nvs
  rw [getConfigParam, ReadOutcome.left]
  split
  · cases out.found with
    | none => rfl
    | some v =>
      dsimp only
      split
      · cases again <;> exact hclosed
      · rfl
  · rfl

theorem balanced_getConfigParam_iff {α : Type} (again : Bool) (check : α → Bool)
    (out : ReadOutcome α) (nvs : H) :
    IsBalanced (events (getConfigParam again check out nvs).2.2) ↔ out.Completes check := by
  rw [IsBalanced, account_getConfigParam, Option.some.injEq, ReadOutcome.left_eq_zero_iff]

/-- What `show` leaves open adds up. -/
theorem balanced_showCalls_iff (outs : String → ReadOutcome CString) (nvs : String → H) :
    IsBalanced (events (showCalls outs nvs)) ↔
      ∀ key ∈ showKeys, (outs key).Completes fun _ => true := by
  rw [showCalls, events_flatMap]
  refine (isBalanced_flatMap_iff fun key _ =>
    account_getConfigParam true (fun _ => true) (outs key) (nvs key)).trans ?_
  exact forall₂_congr fun _ _ => ReadOutcome.left_eq_zero_iff

theorem balanced_storeSession (commits : Bool) (nvs : H) (out : ParamSave)
    (writes : List (String × NvsValue)) :
    IsBalanced (events (storeSession commits nvs out writes).2) := by
  have hputs := events_putAll nvs out writes
  rw [storeSession]
  split
  · split
    · next puts heq =>
      rw [heq] at hputs
      split <;> exact isBalanced_session nvs hputs rfl
    · next puts heq =>
      rw [heq] at hputs
      exact isBalanced_session nvs hputs rfl
  · rfl

theorem balanced_exec (argParse : CommandParse) (c : SettingsCommand) (out : ParamSave) (nvs : H)
    (argv : List CString) : IsBalanced (events (c.exec argParse out nvs argv).2) := by
  rw [SettingsCommand.exec]
  split
  · rfl
  · exact balanced_storeSession ..

theorem balanced_getPortmapTabCalls (size : ℕ) (out : PortmapRead) (nvs : H) :
    IsBalanced (events (getPortmapTabCalls size out nvs).2) := by
  have hclosed : IsBalanced [Event.opened nvs, .closed nvs] := isBalanced_pair nvs
  rw [getPortmapTabCalls]
  split
  · split
    · split <;> exact hclosed
    · exact hclosed
  · rfl

theorem balanced_savePortmapCalls (out : PortmapSave) (nvs : H) (tab : Fin n → PortmapEntry) :
    IsBalanced (events (savePortmapCalls out nvs tab)) := by
  rw [savePortmapCalls]
  split
  · split <;> exact isBalanced_pair nvs
  · rfl

theorem balanced_calls (c : PortmapChange) (out : PortmapSave) (nvs : H) (s : Portmap n) :
    IsBalanced (events (c.calls out nvs s)) := by
  rcases c with ⟨proto, mport, daddr, dport⟩ | ⟨proto, mport⟩
  · rw [PortmapChange.calls]
    split
    · exact balanced_savePortmapCalls ..
    · rfl
  · rw [PortmapChange.calls]
    split
    · exact balanced_savePortmapCalls ..
    · rfl

theorem balanced_portmapCommand (argParse : List CString → Option PortmapArgs)
    (aton : CString → UInt32) (out : PortmapSave) (nvs : H) (argv : List CString) (s : Portmap n) :
    IsBalanced (events (portmapCommand argParse aton out nvs argv s).2.2) := by
  rw [portmapCommand]
  split
  · rfl
  · exact balanced_calls ..

theorem balanced_setValueInNvs (out : SetValueOutcome) (errno : Bool) (nvs : H) (key : String)
    (strType strValue : CString) :
    IsBalanced (events (setValueInNvs out errno nvs key strType strValue).2.2) := by
  have hclosed : IsBalanced [Event.opened nvs, .closed nvs] := isBalanced_pair nvs
  -- What is stored, and the end of the function behind it.
  have hstored (value : NvsValue) (errno : Bool) (err : NvsErr) :
      IsBalanced (events (.opened nvs :: .write nvs out.wrote (putValue (key, value)) ::
        (finishSetValue out errno nvs err).2)) := by
    rw [events_cons, events_cons, events_finishSetValue]
    exact hclosed
  rw [setValueInNvs]
  dsimp only
  split
  · rfl
  split
  · split
    · split
      · exact hclosed
      · split
        · exact hclosed
        · exact hstored _ _ _
    · split
      · exact hstored _ _ _
      · exact isBalanced_session nvs (events_storeBlob ..) (events_finishSetValue ..)
  · rfl

theorem balanced_getValueFromNvs (out : GetValueOutcome) (nvs : H) (strType : CString) :
    IsBalanced (events (getValueFromNvs out nvs strType).2) := by
  have hclosed : IsBalanced [Event.opened nvs, .closed nvs] := isBalanced_pair nvs
  rw [getValueFromNvs]
  split
  · rfl
  split
  · split
    · split <;> exact hclosed
    · exact hclosed
  · rfl

theorem balanced_erase (out : EraseOutcome) (nvs : H) (key : String) :
    IsBalanced (events (erase out nvs key).2) := by
  rw [erase]
  split
  · exact isBalanced_session nvs (events_eraseCalls ..) rfl
  · rfl

theorem balanced_eraseAll_iff (out : EraseOutcome) (nvs junk : H) :
    IsBalanced (events (eraseAll out nvs junk).2) ↔ out.opened = true := by
  rw [eraseAll]
  split
  · next hopened =>
    exact iff_of_true (isBalanced_session nvs (events_eraseCalls ..) rfl) hopened
  · next hfailed => exact iff_of_false (not_isBalanced_closed junk []) hfailed

/-- **When a function closes what it opens**, and nothing else. -/
theorem NvsUse.balanced_iff (f : NvsUse H n) : IsBalanced f.events ↔ f.Completes := by
  cases f with
  | getConfigParamStr out nvs => exact balanced_getConfigParam_iff ..
  | getConfigParamInt out nvs => exact balanced_getConfigParam_iff ..
  | getConfigParamBlob blobLen out nvs => exact balanced_getConfigParam_iff ..
  | «show» outs nvs => exact balanced_showCalls_iff outs nvs
  | settings => exact iff_of_true (balanced_exec ..) trivial
  | getPortmapTab => exact iff_of_true (balanced_getPortmapTabCalls ..) trivial
  | change => exact iff_of_true (balanced_calls ..) trivial
  | portmap => exact iff_of_true (balanced_portmapCommand ..) trivial
  | setValueInNvs => exact iff_of_true (balanced_setValueInNvs ..) trivial
  | getValueFromNvs => exact iff_of_true (balanced_getValueFromNvs ..) trivial
  | erase => exact iff_of_true (balanced_erase ..) trivial
  | eraseAll out nvs junk => exact balanced_eraseAll_iff out nvs junk

/-- **When the handles are balanced**, over every run: every function closes the handles it opens,
once, and no other, and as many handles are open behind it as before, exactly if every function
completes. -/
theorem handles_balanced_iff (fs : List (NvsUse H n)) :
    ((∀ f ∈ fs, IsBalanced f.events) ∧ ∀ (m : Multiset H) (k : ℕ),
      account ((fs.take k).flatMap NvsUse.events) m = some m) ↔ ∀ f ∈ fs, f.Completes := by
  simp only [NvsUse.balanced_iff]
  refine and_iff_left_of_imp fun h m k => IsBalanced.account (IsBalanced.flatMap ?_) m
  exact fun f hf => f.balanced_iff.2 (h f (List.mem_of_mem_take hf))

/-- A setting is read that is not there, and the handle stays open. -/
theorem handle_left_open : ¬ ∀ fs : List (NvsUse ℕ 1), ∀ f ∈ fs, IsBalanced f.events := by
  intro h
  have hread := h [.getConfigParamStr ⟨true, none, .empty⟩ 7] _ List.mem_cons_self
  exact absurd hread (by decide)

end

end EspFirewall
