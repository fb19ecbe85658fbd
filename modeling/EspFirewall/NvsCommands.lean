import EspFirewall.General.HandleStore
import EspFirewall.Settings

/-!
# What the settings commands report (`cmd_router.c`)

`Settings` has three of the settings commands as functions on what is stored.  Here all of them are
the NVS calls they make, with what these return: `set_sta`, `set_sta_static`, `set_ap`, `set_ap_ip`
and the two that set a MAC address.  `effect_eq` says that the two agree.

A command should return `ESP_OK` exactly when what it was given is durable.  `reportsDurable_iff` says
when it does: the commands that commit always, but for one that fails although its values were durable
before, and `set_ap_ip`, which does not commit, only where it has nothing to store.
-/

set_option autoImplicit false

namespace EspFirewall

open CLang HandleStore

/-! ## The calls of a command -/

/-- `nvs_type_t`. -/
inductive NvsType
  | i8
  | u8
  | i16
  | u16
  | i32
  | u32
  | i64
  | u64
  | str
  | blob
  | any
deriving DecidableEq

/-- What an entry in NVS holds; `num` is for the eight number types. -/
inductive NvsValue
  | num (type : NvsType) (n : ℤ)
  | str (s : CString)
  | blob (bytes : Bytes)
deriving DecidableEq

/-- A namespace in NVS, such as that of the router. -/
abbrev NvsParams := String → Option NvsValue

/-- The strings in it. -/
def NvsParams.strs (nvs : NvsParams) : ParamStore := fun key =>
  match nvs key with
  | some (.str s) => some s
  | _ => none

/-- `nvs_set_str` and `nvs_set_blob`, when they succeed. -/
def putValue (w : String × NvsValue) (nvs : NvsParams) : NvsParams :=
  Function.update nvs w.1 (some w.2)

variable {H : Type}

/-- The calls of `nvs_set_str` and `nvs_set_blob`, each when the one before it has succeeded, and
whether all have. -/
def putAll (nvs : H) (out : ParamSave) :
    List (String × NvsValue) → Bool × List (Call H NvsParams)
  | [] => (true, [])
  | w :: rest =>
    if out.wrote w.1 then
      ((putAll nvs out rest).1, .write nvs true (putValue w) :: (putAll nvs out rest).2)
    else (false, [.write nvs false (putValue w)])

/-- The part that the commands share: open the namespace, with the handle `nvs`, write, commit if the
command does, and close. -/
def storeSession (commits : Bool) (nvs : H) (out : ParamSave) (writes : List (String × NvsValue)) :
    CommandResult × List (Call H NvsParams) :=
  if out.opened then
    match putAll nvs out writes with
    | (true, puts) =>
      if commits then
        (if out.committed then .ok else .nvs,
          .opened nvs :: puts ++ [.commit nvs out.committed, .close nvs])
      else (.ok, .opened nvs :: puts ++ [.close nvs])
    | (false, puts) => (.nvs, .opened nvs :: puts ++ [.close nvs])
  else (.nvs, [.openFailed])

/-- `arg_parse` for all the settings commands. -/
structure CommandParse extends ArgParse where
  setApIp : List CString → Option CString
  /-- The octets, of type `int`. -/
  setMac : List CString → Option (Vector ℤ 6)

/-- The conversion of an `int` to `uint8_t`. -/
def octet (i : ℤ) : UInt8 := UInt8.ofNat (i % 256).toNat

/-- What `set_sta` stores. -/
def setStaValues (args : SetStaArgs) : List (String × NvsValue) :=
  [("ssid", .str (preprocessString args.ssid)), ("passwd", .str (preprocessString args.password)),
    ("ent_username", .str (args.entUsername.getD .empty)),
    ("ent_identity", .str (args.entIdentity.getD .empty))]

/-- What `set_sta_static` stores. -/
def setStaStaticValues (args : SetStaStaticArgs) : List (String × NvsValue) :=
  [("static_ip", .str (preprocessString args.staticIp)),
    ("subnet_mask", .str (preprocessString args.subnetMask)),
    ("gateway_addr", .str (preprocessString args.gatewayAddr))]

/-- What `set_ap` stores. -/
def setApValues (args : SetApArgs) : List (String × NvsValue) :=
  [("ap_ssid", .str (preprocessString args.ssid)),
    ("ap_passwd", .str (preprocessString args.password))]

/-- What `set_ap_ip` stores. -/
def setApIpValues (ip : CString) : List (String × NvsValue) :=
  [("ap_ip", .str (preprocessString ip))]

/-- What `set_mac` stores. -/
def setMacValues (key : String) (mac : Vector ℤ 6) : List (String × NvsValue) :=
  [(key, .blob (mac.toList.map octet))]

/-- A settings command. -/
inductive SettingsCommand
  | setSta
  | setStaStatic
  | setAp
  | setApIp
  /-- `set_mac("mac", "STA", …)`. -/
  | setStaMac
  /-- `set_mac("ap_mac", "AP", …)`. -/
  | setApMac
deriving DecidableEq

namespace SettingsCommand

/-- The values that an argument list names, if it is valid. -/
def values (argParse : CommandParse) (argv : List CString) :
    SettingsCommand → Option (List (String × NvsValue))
  | .setSta => (argParse.setSta argv).map setStaValues
  | .setStaStatic => (argParse.setStaStatic argv).map setStaStaticValues
  | .setAp => (argParse.setAp argv).map setApValues
  | .setApIp => (argParse.setApIp argv).map setApIpValues
  | .setStaMac => (argParse.setMac argv).map (setMacValues "mac")
  | .setApMac => (argParse.setMac argv).map (setMacValues "ap_mac")

/-- The command calls `nvs_commit`.  `set_ap_ip` is the one that does not. -/
def commits : SettingsCommand → Bool
  | .setApIp => false
  | _ => true

/-- What the command returns, and the NVS calls it makes. -/
def exec (argParse : CommandParse) (out : ParamSave) (nvs : H) (argv : List CString)
    (c : SettingsCommand) : CommandResult × List (Call H NvsParams) :=
  match c.values argParse argv with
  | none => (.usage, [])
  | some writes => storeSession c.commits nvs out writes

end SettingsCommand

/-! ## What a session makes durable -/

/-- The store holds all the values. -/
def HoldsAll (nvs : NvsParams) (writes : List (String × NvsValue)) : Prop :=
  ∀ w ∈ writes, nvs w.1 = some w.2

/-- The namespace can be opened, and all the values can be written. -/
def CanWrite (out : ParamSave) (writes : List (String × NvsValue)) : Prop :=
  out.opened = true ∧ ∀ w ∈ writes, out.wrote w.1 = true

theorem putAll_of_wrote {out : ParamSave} (nvs : H) {writes : List (String × NvsValue)}
    (h : ∀ w ∈ writes, out.wrote w.1 = true) :
    putAll nvs out writes = (true, (writes.map putValue).map (.write nvs true)) := by
  induction writes with
  | nil => rfl
  | cons w writes ih =>
    rw [List.forall_mem_cons] at h
    rw [putAll, if_pos h.1, ih h.2]
    rfl

theorem putAll_of_not_wrote {out : ParamSave} (nvs : H) {writes : List (String × NvsValue)}
    (h : ¬ ∀ w ∈ writes, out.wrote w.1 = true) :
    ∃ puts, putAll nvs out writes = (false, puts) ∧ puts.any Call.commits = false := by
  induction writes with
  | nil => exact absurd (fun w hw => absurd hw List.not_mem_nil) h
  | cons w writes ih =>
    rw [putAll]
    split
    · next hw =>
      obtain ⟨puts, heq, hputs⟩ := ih fun hrest => h (List.forall_mem_cons.2 ⟨hw, hrest⟩)
      refine ⟨.write nvs true (putValue w) :: puts, by rw [heq], ?_⟩
      rw [List.any_cons, hputs]
      rfl
    · exact ⟨_, rfl, rfl⟩

section

variable [DecidableEq H]

/-- A session whose calls succeed, and that commits. -/
theorem storeSession_of_ok {out : ParamSave} (h : H) {writes : List (String × NvsValue)}
    (nvs : NvsParams) (hwrite : CanWrite out writes) (hcommit : out.committed = true) :
    (storeSession true h out writes).1 = .ok ∧
      durableAfter nvs (storeSession true h out writes).2 =
        applyAll (writes.map putValue) nvs := by
  rw [storeSession, if_pos hwrite.1, putAll_of_wrote h hwrite.2, hcommit]
  exact ⟨rfl, durableAfter_session nvs h (writes.map putValue)⟩

/-- A session in which a call fails. -/
theorem storeSession_of_not {out : ParamSave} (h : H) {writes : List (String × NvsValue)}
    (nvs : NvsParams) (hfail : ¬ (CanWrite out writes ∧ out.committed = true)) :
    (storeSession true h out writes).1 = .nvs ∧
      durableAfter nvs (storeSession true h out writes).2 = nvs := by
  rw [storeSession]
  split
  · next hopened =>
    by_cases hwrote : ∀ w ∈ writes, out.wrote w.1 = true
    · have hcommit : out.committed = false :=
        Bool.eq_false_iff.2 fun hc => hfail ⟨⟨hopened, hwrote⟩, hc⟩
      rw [putAll_of_wrote h hwrote, hcommit]
      refine ⟨rfl, durableAfter_of_no_commit nvs ?_⟩
      simp [Call.commits]
    · obtain ⟨puts, heq, hputs⟩ := putAll_of_not_wrote h hwrote
      rw [heq]
      refine ⟨rfl, durableAfter_of_no_commit nvs ?_⟩
      simp [Call.commits, hputs]
  · exact ⟨rfl, rfl⟩

/-- A session that does not commit. -/
theorem storeSession_uncommitted (out : ParamSave) (h : H) (writes : List (String × NvsValue))
    (nvs : NvsParams) :
    ((storeSession false h out writes).1 = .ok ↔ CanWrite out writes) ∧
      durableAfter nvs (storeSession false h out writes).2 = nvs := by
  rw [storeSession, CanWrite]
  split
  · next hopened =>
    rw [and_iff_right hopened]
    by_cases hwrote : ∀ w ∈ writes, out.wrote w.1 = true
    · rw [putAll_of_wrote h hwrote]
      refine ⟨iff_of_true rfl hwrote, durableAfter_of_no_commit nvs ?_⟩
      simp [Call.commits]
    · obtain ⟨puts, heq, hputs⟩ := putAll_of_not_wrote h hwrote
      rw [heq]
      refine ⟨iff_of_false CommandResult.noConfusion hwrote, durableAfter_of_no_commit nvs ?_⟩
      simp [Call.commits, hputs]
  · next hclosed => exact ⟨iff_of_false CommandResult.noConfusion fun h => hclosed h.1, rfl⟩

/-! ### The commands on what is stored -/

/-- The strings `writes`, as values. -/
def strValues (writes : List (String × CString)) : List (String × NvsValue) :=
  writes.map fun w => (w.1, .str w.2)

/-- The strings, stored one after the other. -/
def putStrs (writes : List (String × CString)) (nvs : ParamStore) : ParamStore :=
  writes.foldl (fun s w => Function.update s w.1 (some w.2)) nvs

theorem strs_putValue (key : String) (s : CString) (nvs : NvsParams) :
    (putValue (key, .str s) nvs).strs = Function.update nvs.strs key (some s) := by
  funext k
  rw [NvsParams.strs, putValue]
  by_cases h : k = key
  · subst h
    rw [Function.update_self, Function.update_self]
  · rw [Function.update_of_ne h, Function.update_of_ne h]
    rfl

theorem strs_applyAll (writes : List (String × CString)) (nvs : NvsParams) :
    (applyAll ((strValues writes).map putValue) nvs).strs = putStrs writes nvs.strs := by
  induction writes generalizing nvs with
  | nil => rfl
  | cons w writes ih =>
    rw [putStrs, List.foldl_cons, ← strs_putValue]
    exact ih _

/-- What `setStrs` makes durable: everything, if no call fails, and otherwise nothing. -/
theorem setStrs_eq (out : ParamSave) (writes : List (String × CString))
    (h : Staged.Handle ParamStore) :
    ((setStrs out writes h).1, (setStrs out writes h).2.close) =
      if (∀ w ∈ strValues writes, out.wrote w.1 = true) ∧ out.committed = true then
        (.ok, putStrs writes h.staged)
      else (.nvs, h.durable) := by
  induction writes generalizing h with
  | nil =>
    rw [setStrs, Staged.Handle.close_eq, Staged.Handle.commit_durable]
    cases out.committed <;> simp [strValues, putStrs]
  | cons w writes ih =>
    have hcons : (∀ w' ∈ strValues (w :: writes), out.wrote w'.1 = true) ↔
        out.wrote w.1 = true ∧ ∀ w' ∈ strValues writes, out.wrote w'.1 = true :=
      List.forall_mem_cons
    rw [setStrs]
    by_cases hw : out.wrote w.1 = true
    · rw [if_pos hw, ih, Staged.Handle.set_staged, Staged.Handle.set_durable, if_pos hw]
      simp only [hcons, hw, true_and]
      rfl
    · rw [if_neg hw, if_neg fun hall => hw (hcons.1 hall.1).1, Staged.Handle.close_eq,
        Staged.Handle.set_durable]

/-- `storeParams` is what the calls do to the strings. -/
theorem storeParams_eq_storeSession (out : ParamSave) (h : H) (writes : List (String × CString))
    (nvs : NvsParams) :
    storeParams out writes nvs.strs =
      ((storeSession true h out (strValues writes)).1,
        (durableAfter nvs (storeSession true h out (strValues writes)).2).strs) := by
  have hset := setStrs_eq out writes (.fresh nvs.strs)
  rw [storeParams]
  by_cases hall : CanWrite out (strValues writes) ∧ out.committed = true
  · obtain ⟨hresult, hdurable⟩ := storeSession_of_ok h nvs hall.1 hall.2
    rw [if_pos ⟨hall.1.2, hall.2⟩] at hset
    rw [if_pos hall.1.1, hresult, hdurable, strs_applyAll]
    exact hset
  · obtain ⟨hresult, hdurable⟩ := storeSession_of_not h nvs hall
    rw [hresult, hdurable]
    split
    · next hopened =>
      rw [if_neg fun h => hall ⟨⟨hopened, h.1⟩, h.2⟩] at hset
      exact hset
    · rfl

/-- What a command returns, and the strings that are durable behind it. -/
def SettingsCommand.effect (argParse : CommandParse) (out : ParamSave) (h : H)
    (argv : List CString) (c : SettingsCommand) (nvs : NvsParams) : CommandResult × ParamStore :=
  let r := c.exec argParse out h argv
  (r.1, (durableAfter nvs r.2).strs)

/-- **The three commands of `Settings` do what their calls do.** -/
theorem effect_eq (argParse : CommandParse) (out : ParamSave) (h : H) (argv : List CString)
    (nvs : NvsParams) :
    SettingsCommand.setSta.effect argParse out h argv nvs =
        setSta argParse.toArgParse out argv nvs.strs ∧
      SettingsCommand.setStaStatic.effect argParse out h argv nvs =
        setStaStatic argParse.toArgParse out argv nvs.strs ∧
      SettingsCommand.setAp.effect argParse out h argv nvs =
        setAp argParse.toArgParse out argv nvs.strs := by
  simp only [SettingsCommand.effect, SettingsCommand.exec, SettingsCommand.values, setSta,
    setStaStatic, setAp]
  refine ⟨?_, ?_, ?_⟩
  · cases argParse.setSta argv with
    | none => rfl
    | some args =>
      dsimp only
      rw [storeParams_eq_storeSession out h]
      rfl
  · cases argParse.setStaStatic argv with
    | none => rfl
    | some args =>
      dsimp only
      rw [storeParams_eq_storeSession out h]
      rfl
  · cases argParse.setAp argv with
    | none => rfl
    | some args =>
      dsimp only
      rw [storeParams_eq_storeSession out h]
      rfl

/-! ## When the commands report what is durable -/

/-- The keys of a command are different. -/
theorem SettingsCommand.values_nodup {argParse : CommandParse} {argv : List CString}
    {c : SettingsCommand} {writes : List (String × NvsValue)}
    (h : c.values argParse argv = some writes) : (writes.map Prod.fst).Nodup := by
  cases c <;> obtain ⟨args, -, rfl⟩ := Option.map_eq_some_iff.1 h <;> exact of_decide_eq_true rfl

theorem applyAll_of_notMem {writes : List (String × NvsValue)} {key : String}
    (h : key ∉ writes.map Prod.fst) (nvs : NvsParams) :
    applyAll (writes.map putValue) nvs key = nvs key := by
  induction writes generalizing nvs with
  | nil => rfl
  | cons w writes ih =>
    rw [List.map_cons, List.mem_cons, not_or] at h
    refine (ih h.2 _).trans ?_
    exact Function.update_of_ne h.1 ..

/-- Values with different keys are all there when they have been written. -/
theorem holdsAll_applyAll {writes : List (String × NvsValue)}
    (h : (writes.map Prod.fst).Nodup) (nvs : NvsParams) :
    HoldsAll (applyAll (writes.map putValue) nvs) writes := by
  induction writes generalizing nvs with
  | nil => exact fun w hw => absurd hw List.not_mem_nil
  | cons w writes ih =>
    rw [List.map_cons, List.nodup_cons] at h
    refine List.forall_mem_cons.2 ⟨?_, ih h.2 _⟩
    refine (applyAll_of_notMem h.1 _).trans ?_
    exact Function.update_self ..

/-- The command returns `ESP_OK` exactly if the values are durable afterwards, and on another return
nothing durable has changed. -/
def ReportsDurable (argParse : CommandParse) (out : ParamSave) (h : H) (argv : List CString)
    (c : SettingsCommand) (nvs : NvsParams) (writes : List (String × NvsValue)) : Prop :=
  let r := c.exec argParse out h argv
  (r.1 = .ok ↔ HoldsAll (durableAfter nvs r.2) writes) ∧ (r.1 ≠ .ok → durableAfter nvs r.2 = nvs)

/-- When a command reports what is durable.  One that commits does if its calls succeed, and if one
fails, unless everything it names was durable before.  One that does not commit can store nothing,
and does if everything was durable before and its calls succeed, or neither. -/
def CanReport (out : ParamSave) (c : SettingsCommand) (nvs : NvsParams)
    (writes : List (String × NvsValue)) : Prop :=
  if c.commits then (CanWrite out writes ∧ out.committed = true) ∨ ¬ HoldsAll nvs writes
  else CanWrite out writes ↔ HoldsAll nvs writes

/-- **When a settings command reports what is durable.** -/
theorem reportsDurable_iff {argParse : CommandParse} {argv : List CString} {c : SettingsCommand}
    {writes : List (String × NvsValue)} (hvalid : c.values argParse argv = some writes)
    (out : ParamSave) (h : H) (nvs : NvsParams) :
    ReportsDurable argParse out h argv c nvs writes ↔ CanReport out c nvs writes := by
  rw [ReportsDurable, CanReport, SettingsCommand.exec, hvalid]
  dsimp only
  cases c.commits with
  | true =>
    rw [if_pos rfl]
    by_cases hall : CanWrite out writes ∧ out.committed = true
    · obtain ⟨hresult, hdurable⟩ := storeSession_of_ok h nvs hall.1 hall.2
      have hholds := holdsAll_applyAll (SettingsCommand.values_nodup hvalid) nvs
      rw [hresult, hdurable]
      exact iff_of_true ⟨iff_of_true rfl hholds, fun hne => absurd rfl hne⟩ (.inl hall)
    · obtain ⟨hresult, hdurable⟩ := storeSession_of_not h nvs hall
      rw [hresult, hdurable, or_iff_right hall]
      have hne : CommandResult.nvs ≠ .ok := CommandResult.noConfusion
      rw [iff_false_left hne]
      exact and_iff_left fun _ => rfl
  | false =>
    obtain ⟨hresult, hdurable⟩ := storeSession_uncommitted out h writes nvs
    rw [if_neg Bool.false_ne_true, hresult, hdurable]
    exact and_iff_left fun _ => rfl

/-! ### Two sessions -/

/-- An `arg_parse` for positional arguments, for `set_ap` and `set_ap_ip` only. -/
def apParse : CommandParse where
  setSta _ := none
  setStaStatic _ := none
  setMac _ := none
  setAp
    | [_, ssid, password] => some ⟨ssid, password⟩
    | _ => none
  setApIp
    | [_, ip] => some ip
    | _ => none

theorem reportsDurable_setAp : ReportsDurable apParse .ok 1
    [.lit "set_ap", .lit "attic", .lit "pass+word"] .setAp (fun _ => none)
    (setApValues ⟨.lit "attic", .lit "pass+word"⟩) :=
  (reportsDurable_iff rfl .ok 1 _).2 (.inl ⟨⟨rfl, fun _ _ => rfl⟩, rfl⟩)

/-- `set_ap_ip` says that the address is stored, and the store is as empty as before. -/
theorem setApIp_not_durable : ¬ ∀ (argParse : CommandParse) (out : ParamSave) (h : ℕ)
    (argv : List CString) (c : SettingsCommand) (nvs : NvsParams)
    (writes : List (String × NvsValue)), c.values argParse argv = some writes →
      ReportsDurable argParse out h argv c nvs writes := by
  intro hall
  have hreport := hall apParse .ok 1 [.lit "set_ap_ip", .lit "10.0.0.1"] .setApIp (fun _ => none)
    _ rfl
  have hholds : none = some (NvsValue.str (preprocessString (.lit "10.0.0.1"))) :=
    hreport.1.1 rfl _ List.mem_cons_self
  exact Option.some_ne_none _ hholds.symm

end

end EspFirewall
