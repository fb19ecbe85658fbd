import EspFirewall.EnterpriseForm
import EspFirewall.General.LastWrite
import EspFirewall.NvsHandles

/-!
# From the settings to the radio (`app_main`, `wifi_init`)

The settings commands store what they are given, and nothing else happens until the router is
restarted.  Then `app_main` reads the settings, with a default for each one that is missing, and
`wifi_init` makes the configuration of the two interfaces from them.  A command can fail at any NVS
call; the reads at the restart succeed.

* `ap_from_history`, `sta_from_history`, `staIp_from_history`: what the interfaces are like behind a
  restart.  Each is made from the arguments of one command, the last one that has not failed: no
  failure, at whichever call, mixes the arguments of two.
* `webServer_from_settings`: no settings command switches the web server off or on.
* `ap_from_form_iff`: which names and passwords, of those that the form is taken with, go from there
  to the access point as they were entered.
-/

set_option autoImplicit false

namespace EspFirewall

open CLang FormCoding HandleStore

/-! ## `wifi_init` -/

/-- `wifi_auth_mode_t`, as far as it is used. -/
inductive WifiAuthMode
  | wifiAuthOpen
  | wifiAuthWpa2Wpa3Psk
deriving DecidableEq

/-- `ap_config`. -/
structure WifiApConfig where
  ssid : CharBuf 32
  authmode : WifiAuthMode
  password : CharBuf 64
deriving DecidableEq

/-- `wifi_config`. -/
structure WifiStaConfig where
  ssid : CharBuf 32
  password : CharBuf 64
deriving DecidableEq

/-- What `esp_eap_client_set_identity` and the two functions like it are called with. -/
structure EapClient where
  identity : CString
  username : CString
  password : CString
deriving DecidableEq

/-- `esp_netif_ip_info_t`. -/
structure IpInfo where
  ip : UInt32
  gw : UInt32
  netmask : UInt32
deriving DecidableEq

/-- The configuration of the driver and of the two interfaces. -/
structure WifiDriver where
  /-- The mode is `WIFI_MODE_APSTA`, not `WIFI_MODE_AP`. -/
  apsta : Bool
  /-- What `esp_wifi_set_config` is called with for the station. -/
  sta : Option WifiStaConfig
  /-- The station authenticates itself with these. -/
  eap : Option EapClient
  staMac : Option Bytes
  ap : WifiApConfig
  apMac : Option Bytes
  /-- The address of the station, if the DHCP client has been stopped. -/
  staIp : Option IpInfo
  apIp : IpInfo
  /-- The DNS server that is offered to the stations of the access point. -/
  apDns : UInt32
  logs : List LogCall

/-- The parameters of `wifi_init`. -/
structure WifiParams where
  mac : Option Bytes
  ssid : CString
  entUsername : CString
  entIdentity : CString
  passwd : CString
  staticIp : CString
  subnetMask : CString
  gatewayAddr : CString
  apMac : Option Bytes
  apSsid : CString
  apPasswd : CString
  apIp : CString

/-- `ap_config`, as `wifi_init` fills it in. -/
def apConfig (ssid passwd : CString) : WifiApConfig :=
  if passwd.strlen < 8 then ⟨.strncpy ssid, .wifiAuthOpen, .zero⟩
  else ⟨.strncpy ssid, .wifiAuthWpa2Wpa3Psk, .strncpy passwd⟩

/-- The station, as `wifi_init` sets it up: its configuration, and the credentials for EAP. -/
def staConfig (ssid entUsername entIdentity passwd : CString) :
    Option WifiStaConfig × Option EapClient :=
  if 0 < ssid.strlen then
    (some ⟨.strncpy ssid, if entUsername.strlen = 0 then .strncpy passwd else .zero⟩,
      if entUsername.strlen ≠ 0 ∧ entIdentity.strlen ≠ 0 then
        some ⟨entIdentity, entUsername, passwd⟩ else none)
  else (none, none)

/-- The static address of the station. -/
def staIpInfo (aton : CString → UInt32) (ssid staticIp subnetMask gatewayAddr : CString) :
    Option IpInfo :=
  if 0 < ssid.strlen ∧ 0 < staticIp.strlen ∧ 0 < subnetMask.strlen ∧ 0 < gatewayAddr.strlen then
    some ⟨aton staticIp, aton gatewayAddr, aton subnetMask⟩
  else none

/-- `wifi_init`; `aton` is `esp_ip4addr_aton`. -/
def wifiInit (aton : CString → UInt32) (p : WifiParams) : WifiDriver where
  apsta := 0 < p.ssid.strlen
  sta := (staConfig p.ssid p.entUsername p.entIdentity p.passwd).1
  eap := (staConfig p.ssid p.entUsername p.entIdentity p.passwd).2
  staMac := if 0 < p.ssid.strlen then p.mac else none
  ap := apConfig p.apSsid p.apPasswd
  apMac := p.apMac
  staIp := staIpInfo aton p.ssid p.staticIp p.subnetMask p.gatewayAddr
  -- 255.255.255.0 as it is in memory
  apIp := ⟨aton p.apIp, aton p.apIp, 0x00FFFFFF⟩
  apDns := aton p.apIp
  logs :=
    (if 0 < p.ssid.strlen then
      (if p.entUsername.strlen = 0 then [.fmt "STA regular connection" []] else []) ++
        if p.entUsername.strlen ≠ 0 ∧ p.entIdentity.strlen ≠ 0 then
          [.fmt "STA enterprise connection" []] else []
      else []) ++
    [.fmt "DNS filtering enabled" []] ++
    if 0 < p.ssid.strlen then
      [.fmt "wifi_init_apsta finished." [], .fmt "connect to ap SSID %s" [.str p.ssid]]
    else []

/-! ## `app_main` -/

/-- A setting, or `param_set_default` of its default. -/
def paramOrDefault (reads : String → ReadOutcome CString) (key default : String) : CString :=
  (getConfigParamStr (reads key) ()).2.1.getD (.lit default)

/-- The settings that `app_main` reads for `wifi_init`. -/
def wifiParams (reads : String → ReadOutcome CString) (blobs : String → ReadOutcome Bytes) :
    WifiParams where
  mac := (getConfigParamBlob 6 (blobs "mac") ()).2.1
  ssid := paramOrDefault reads "ssid" ""
  entUsername := paramOrDefault reads "ent_username" ""
  entIdentity := paramOrDefault reads "ent_identity" ""
  passwd := paramOrDefault reads "passwd" ""
  staticIp := paramOrDefault reads "static_ip" ""
  subnetMask := paramOrDefault reads "subnet_mask" ""
  gatewayAddr := paramOrDefault reads "gateway_addr" ""
  apMac := (getConfigParamBlob 6 (blobs "ap_mac") ()).2.1
  apSsid := paramOrDefault reads "ap_ssid" "ESP32_Firewall"
  apPasswd := paramOrDefault reads "ap_passwd" ""
  apIp := paramOrDefault reads "ap_ip" "192.168.4.1"

/-- `app_main` starts the web server. -/
def startsWebServer (reads : String → ReadOutcome CString) : Bool :=
  paramOrDefault reads "lock" "0" = .lit "0"

/-! ### With NVS as it is -/

namespace NvsParams

/-- The blobs in the namespace. -/
def blobs (nvs : NvsParams) (key : String) : Option Bytes :=
  match nvs key with
  | some (.blob bytes) => some bytes
  | _ => none

/-- Every call of a read succeeds that can. -/
def readStr (nvs : NvsParams) (key : String) : ReadOutcome CString :=
  ⟨true, nvs.strs key, (nvs.strs key).getD .empty⟩

def readBlob (nvs : NvsParams) (key : String) : ReadOutcome Bytes :=
  ⟨true, nvs.blobs key, (nvs.blobs key).getD []⟩

/-- What a restart makes of the settings. -/
def boot (aton : CString → UInt32) (nvs : NvsParams) : WifiDriver :=
  wifiInit aton (wifiParams nvs.readStr nvs.readBlob)

theorem paramOrDefault_readStr (nvs : NvsParams) (key default : String) :
    paramOrDefault nvs.readStr key default = (nvs.strs key).getD (.lit default) := by
  rw [paramOrDefault, getConfigParamStr, getConfigParam, readStr]
  cases nvs.strs key <;> rfl

theorem boot_ap (aton : CString → UInt32) (nvs : NvsParams) :
    (nvs.boot aton).ap = apConfig ((nvs.strs "ap_ssid").getD (.lit "ESP32_Firewall"))
      ((nvs.strs "ap_passwd").getD .empty) := by
  rw [boot, wifiInit, wifiParams]
  dsimp only
  rw [paramOrDefault_readStr, paramOrDefault_readStr]
  rfl

theorem boot_sta (aton : CString → UInt32) (nvs : NvsParams) :
    ((nvs.boot aton).sta, (nvs.boot aton).eap) = staConfig ((nvs.strs "ssid").getD .empty)
      ((nvs.strs "ent_username").getD .empty) ((nvs.strs "ent_identity").getD .empty)
      ((nvs.strs "passwd").getD .empty) := by
  rw [boot, wifiInit, wifiParams]
  dsimp only
  simp only [paramOrDefault_readStr]
  rfl

theorem boot_staIp (aton : CString → UInt32) (nvs : NvsParams) :
    (nvs.boot aton).staIp = staIpInfo aton ((nvs.strs "ssid").getD .empty)
      ((nvs.strs "static_ip").getD .empty) ((nvs.strs "subnet_mask").getD .empty)
      ((nvs.strs "gateway_addr").getD .empty) := by
  rw [boot, wifiInit, wifiParams]
  dsimp only
  simp only [paramOrDefault_readStr]
  rfl

end NvsParams

/-! ## Runs of settings commands -/

/-- A settings command, and what its NVS calls return. -/
structure SettingsCall where
  command : SettingsCommand
  argv : List CString
  out : ParamSave

/-- The keys that a command writes. -/
def SettingsCommand.keys : SettingsCommand → List String
  | .setSta => ["ssid", "passwd", "ent_username", "ent_identity"]
  | .setStaStatic => ["static_ip", "subnet_mask", "gateway_addr"]
  | .setAp => ["ap_ssid", "ap_passwd"]
  | .setApIp => ["ap_ip"]
  | .setStaMac => ["mac"]
  | .setApMac => ["ap_mac"]

namespace SettingsCall

/-- What is stored behind the command. -/
def step (argParse : CommandParse) (nvs : NvsParams) (call : SettingsCall) : NvsParams :=
  durableAfter nvs (call.command.exec argParse call.out () call.argv).2

/-- The command commits, and none of its calls fails. -/
def done (call : SettingsCall) : Bool :=
  call.command.commits && (call.out.opened && (call.command.keys.all call.out.wrote &&
    call.out.committed))

/-- The arguments of a command, if it is this one and has not failed. -/
def args {α : Type} (c : SettingsCommand) (parse : List CString → Option α) (call : SettingsCall) :
    Option α :=
  if call.command = c ∧ call.done = true then parse call.argv else none

end SettingsCall

/-- The arguments of the last one of these commands that has not failed. -/
def lastArgs {α : Type} (c : SettingsCommand) (parse : List CString → Option α)
    (calls : List SettingsCall) : Option α :=
  (calls.filterMap (SettingsCall.args c parse)).getLast?

theorem SettingsCommand.keys_disjoint {c c' : SettingsCommand} (h : c ≠ c') :
    ∀ key ∈ c.keys, key ∉ c'.keys := by
  cases c <;> cases c' <;> first | exact absurd rfl h | decide

section

variable {argParse : CommandParse}

theorem SettingsCommand.values_keys {argv : List CString} {c : SettingsCommand}
    {writes : List (String × NvsValue)} (h : c.values argParse argv = some writes) :
    writes.map Prod.fst = c.keys := by
  cases c <;> obtain ⟨args, -, rfl⟩ := Option.map_eq_some_iff.1 h <;> rfl

/-- A command stores all that its arguments say, or nothing. -/
theorem SettingsCall.step_eq (nvs : NvsParams) (call : SettingsCall) :
    call.step argParse nvs = match call.args call.command (call.command.values argParse) with
      | some writes => applyAll (writes.map putValue) nvs
      | none => nvs := by
  rw [step, SettingsCommand.exec, args]
  cases hvalues : call.command.values argParse call.argv with
  | none =>
    rw [ite_self]
    rfl
  | some writes =>
    have hkeys := SettingsCommand.values_keys hvalues
    have hwrite : CanWrite call.out writes ↔ call.out.opened = true ∧
        call.command.keys.all call.out.wrote = true := by
      rw [CanWrite, ← hkeys, List.all_map, List.all_eq_true]
      rfl
    dsimp only
    cases hcommits : call.command.commits with
    | false =>
      rw [(storeSession_uncommitted call.out () writes nvs).2, done, hcommits, Bool.false_and,
        if_neg fun h => Bool.false_ne_true h.2]
    | true =>
      have hdone : call.done = true ↔ CanWrite call.out writes ∧ call.out.committed = true := by
        rw [done, hcommits, hwrite, Bool.true_and, Bool.and_eq_true, Bool.and_eq_true, and_assoc]
      by_cases hall : call.done = true
      · rw [if_pos ⟨rfl, hall⟩, (storeSession_of_ok () nvs (hdone.1 hall).1 (hdone.1 hall).2).2]
      · rw [if_neg fun h => hall h.2, (storeSession_of_not () nvs fun h => hall (hdone.2 h)).2]

theorem SettingsCall.values_of_args {c : SettingsCommand} {call : SettingsCall}
    {writes : List (String × NvsValue)} (h : call.args c (c.values argParse) = some writes) :
    c.values argParse call.argv = some writes := by
  rw [args] at h
  split at h
  · exact h
  · exact nomatch h

/-- The values under the keys of a command. -/
def SettingsCommand.view (c : SettingsCommand) (nvs : NvsParams) : List (Option NvsValue) :=
  c.keys.map nvs

/-- **One command and the settings of another**: it writes all of its own, or none, and leaves those
of the others alone. -/
theorem SettingsCall.view_step (c : SettingsCommand) (nvs : NvsParams) (call : SettingsCall) :
    c.view (call.step argParse nvs) = ((call.args c (c.values argParse)).map fun writes =>
      writes.map fun w => some w.2).getD (c.view nvs) := by
  rw [step_eq]
  by_cases hc : call.command = c
  · subst hc
    cases hargs : call.args call.command (call.command.values argParse) with
    | none => rfl
    | some writes =>
      have hvalues := values_of_args hargs
      have hholds := holdsAll_applyAll (SettingsCommand.values_nodup hvalues) nvs
      rw [SettingsCommand.view, ← SettingsCommand.values_keys hvalues, List.map_map]
      exact List.map_congr_left hholds
  · have hother : call.args c (c.values argParse) = none := by
      rw [args, if_neg fun h => hc h.1]
    rw [hother]
    cases hargs : call.args call.command (call.command.values argParse) with
    | none => rfl
    | some writes =>
      have hvalues := values_of_args hargs
      refine List.map_congr_left fun key hkey => applyAll_of_notMem ?_ nvs
      rw [SettingsCommand.values_keys hvalues]
      exact SettingsCommand.keys_disjoint (Ne.symm hc) key hkey

/-- **The settings behind a run of commands**: those of one command all come from the last one that
has not failed. -/
theorem settings_run {α : Type} (argParse : CommandParse) {c : SettingsCommand}
    {parse : List CString → Option α} {values : α → List (String × NvsValue)}
    (hvalues : ∀ argv, c.values argParse argv = (parse argv).map values) (nvs : NvsParams)
    (calls : List SettingsCall) :
    c.view (StepSystem.run (SettingsCall.step argParse) nvs calls) =
      ((lastArgs c parse calls).map fun args => (values args).map fun w => some w.2).getD
        (c.view nvs) := by
  have hwrite : ∀ call : SettingsCall, ((call.args c (c.values argParse)).map fun writes =>
      writes.map fun w => some w.2) =
        (call.args c parse).map fun args => (values args).map fun w => some w.2 := by
    intro call
    rw [SettingsCall.args, SettingsCall.args, hvalues]
    split
    · rw [Option.map_map]
      rfl
    · rfl
  have hrun := LastWrite.view_run_filterMap c.view (fun _ _ (_ : True) => trivial)
    (fun nvs call _ => (SettingsCall.view_step c nvs call).trans (by rw [hwrite call])) calls trivial
    (s := nvs)
  rw [hrun, LastWrite.value, lastArgs, ← List.getLast?_map, List.map_filterMap]

end

/-! ## Behind a restart -/

section

variable (argParse : CommandParse) (aton : CString → UInt32) (nvs : NvsParams)
  (calls : List SettingsCall)

/-- What is stored behind the commands. -/
abbrev storedAfter : NvsParams := StepSystem.run (SettingsCall.step argParse) nvs calls

/-- What `set_ap` prints about the password. -/
def setApPrints (args : SetApArgs) : List String :=
  if (preprocessString args.password).strlen < 8 then ["AP will be open (no passwd needed).\n"]
  else []

theorem apConfig_open_iff (ssid passwd : CString) :
    (apConfig ssid passwd).authmode = .wifiAuthOpen ↔ passwd.strlen < 8 := by
  rw [apConfig]
  split
  · next h => exact iff_of_true rfl h
  · next h => exact iff_of_false WifiAuthMode.noConfusion h

theorem NvsParams.strs_of_eq {nvs : NvsParams} {key : String} {s : CString}
    (h : nvs key = some (.str s)) : nvs.strs key = some s := by
  rw [strs, h]

theorem NvsParams.strs_congr {nvs nvs' : NvsParams} {key : String} (h : nvs' key = nvs key) :
    nvs'.strs key = nvs.strs key := by
  rw [strs, strs, h]

/-- **The access point behind a restart** is made from the arguments of the last `set_ap` that has
not failed, whatever other commands there were and whichever calls of theirs failed, if the reads at
the restart succeed.  It is open exactly if that command said so. -/
theorem ap_from_history :
    match lastArgs .setAp argParse.setAp calls with
    | some args =>
      ((storedAfter argParse nvs calls).boot aton).ap =
          apConfig (preprocessString args.ssid) (preprocessString args.password) ∧
        (((storedAfter argParse nvs calls).boot aton).ap.authmode = .wifiAuthOpen ↔
          setApPrints args ≠ [])
    | none => ((storedAfter argParse nvs calls).boot aton).ap = (nvs.boot aton).ap := by
  have hview := settings_run argParse (c := .setAp) (fun argv => rfl) nvs calls
  rw [NvsParams.boot_ap]
  cases hlast : lastArgs .setAp argParse.setAp calls with
  | none =>
    rw [hlast] at hview
    simp only [SettingsCommand.view, SettingsCommand.keys, List.map_cons, List.map_nil,
      Option.map_none, Option.getD_none, List.cons.injEq] at hview
    dsimp only
    rw [NvsParams.boot_ap, NvsParams.strs_congr hview.1, NvsParams.strs_congr hview.2.1]
  | some args =>
    rw [hlast] at hview
    simp only [SettingsCommand.view, SettingsCommand.keys, setApValues, List.map_cons, List.map_nil,
      Option.map_some, Option.getD_some, List.cons.injEq] at hview
    dsimp only
    rw [NvsParams.strs_of_eq hview.1, NvsParams.strs_of_eq hview.2.1, Option.getD_some,
      Option.getD_some, apConfig_open_iff, setApPrints]
    refine ⟨rfl, ?_⟩
    split
    · next h => exact iff_of_true h (List.cons_ne_nil _ _)
    · next h => exact iff_of_false h fun hne => hne rfl

/-- **The station behind a restart** is made from the arguments of the last `set_sta` that has not
failed, if the reads at the restart succeed.  With a user name but no identity it has neither a
password nor credentials. -/
theorem sta_from_history :
    match lastArgs .setSta argParse.setSta calls with
    | some args =>
      let boot := (storedAfter argParse nvs calls).boot aton
      (boot.sta, boot.eap) = staConfig (preprocessString args.ssid)
          (args.entUsername.getD .empty) (args.entIdentity.getD .empty)
          (preprocessString args.password) ∧
        (boot.sta.isSome = true → args.entUsername.getD .empty ≠ .empty →
          args.entIdentity.getD .empty = .empty →
            boot.sta = some ⟨.strncpy (preprocessString args.ssid), .zero⟩ ∧ boot.eap = none)
    | none =>
      let boot := (storedAfter argParse nvs calls).boot aton
      (boot.sta, boot.eap) = ((nvs.boot aton).sta, (nvs.boot aton).eap) := by
  have hview := settings_run argParse (c := .setSta) (fun argv => rfl) nvs calls
  cases hlast : lastArgs .setSta argParse.setSta calls with
  | none =>
    rw [hlast] at hview
    simp only [SettingsCommand.view, SettingsCommand.keys, List.map_cons, List.map_nil,
      Option.map_none, Option.getD_none, List.cons.injEq] at hview
    obtain ⟨hssid, hpasswd, husername, hidentity, -⟩ := hview
    dsimp only
    rw [NvsParams.boot_sta, NvsParams.boot_sta, NvsParams.strs_congr hssid,
      NvsParams.strs_congr hpasswd, NvsParams.strs_congr husername, NvsParams.strs_congr hidentity]
  | some args =>
    rw [hlast] at hview
    simp only [SettingsCommand.view, SettingsCommand.keys, setStaValues, List.map_cons,
      List.map_nil, Option.map_some, Option.getD_some, List.cons.injEq] at hview
    obtain ⟨hssid, hpasswd, husername, hidentity, -⟩ := hview
    have hboot := NvsParams.boot_sta aton (storedAfter argParse nvs calls)
    rw [NvsParams.strs_of_eq hssid, NvsParams.strs_of_eq hpasswd, NvsParams.strs_of_eq husername,
      NvsParams.strs_of_eq hidentity] at hboot
    simp only [Option.getD_some] at hboot
    refine ⟨hboot, fun hsome husername hidentity => ?_⟩
    have hne : (args.entUsername.getD .empty).strlen ≠ 0 :=
      fun h => husername (CString.strlen_eq_zero_iff.1 h)
    have hzero : (args.entIdentity.getD .empty).strlen = 0 := CString.strlen_eq_zero_iff.2 hidentity
    rw [staConfig, if_neg hne] at hboot
    split at hboot
    · rw [if_neg fun h => h.2 hzero] at hboot
      exact Prod.mk.inj hboot
    · rw [(Prod.mk.inj hboot).1] at hsome
      exact absurd hsome Bool.false_ne_true

/-- **The static address behind a restart** needs four settings of two commands: it is that of the
last `set_sta_static` if none of its arguments is empty, and the name that the last `set_sta` has set
is not, either.  The reads at the restart succeed. -/
theorem staIp_from_history :
    ((storedAfter argParse nvs calls).boot aton).staIp =
      let ssid := ((lastArgs .setSta argParse.setSta calls).map fun args =>
        preprocessString args.ssid).getD ((nvs.strs "ssid").getD .empty)
      match lastArgs .setStaStatic argParse.setStaStatic calls with
      | some args => staIpInfo aton ssid (preprocessString args.staticIp)
          (preprocessString args.subnetMask) (preprocessString args.gatewayAddr)
      | none => staIpInfo aton ssid ((nvs.strs "static_ip").getD .empty)
          ((nvs.strs "subnet_mask").getD .empty) ((nvs.strs "gateway_addr").getD .empty) := by
  have hsta := settings_run argParse (c := .setSta) (fun argv => rfl) nvs calls
  have hstatic := settings_run argParse (c := .setStaStatic) (fun argv => rfl) nvs calls
  have hssid : ((storedAfter argParse nvs calls).strs "ssid").getD .empty =
      ((lastArgs .setSta argParse.setSta calls).map fun args =>
        preprocessString args.ssid).getD ((nvs.strs "ssid").getD .empty) := by
    cases hlast : lastArgs .setSta argParse.setSta calls with
    | none =>
      rw [hlast] at hsta
      rw [NvsParams.strs_congr (List.cons.inj hsta).1]
      rfl
    | some args =>
      rw [hlast] at hsta
      rw [NvsParams.strs_of_eq (List.cons.inj hsta).1]
      rfl
  rw [NvsParams.boot_staIp, hssid]
  cases hlast : lastArgs .setStaStatic argParse.setStaStatic calls with
  | none =>
    rw [hlast] at hstatic
    simp only [SettingsCommand.view, SettingsCommand.keys, List.map_cons, List.map_nil,
      Option.map_none, Option.getD_none, List.cons.injEq] at hstatic
    obtain ⟨hip, hmask, hgateway, -⟩ := hstatic
    rw [NvsParams.strs_congr hip, NvsParams.strs_congr hmask, NvsParams.strs_congr hgateway]
  | some args =>
    rw [hlast] at hstatic
    simp only [SettingsCommand.view, SettingsCommand.keys, setStaStaticValues, List.map_cons,
      List.map_nil, Option.map_some, Option.getD_some, List.cons.injEq] at hstatic
    obtain ⟨hip, hmask, hgateway, -⟩ := hstatic
    rw [NvsParams.strs_of_eq hip, NvsParams.strs_of_eq hmask, NvsParams.strs_of_eq hgateway]
    rfl

/-- **No settings command decides whether the web server is started.** -/
theorem webServer_from_settings :
    startsWebServer (storedAfter argParse nvs calls).readStr = startsWebServer nvs.readStr := by
  have hstep (nvs : NvsParams) (call : SettingsCall) :
      call.step argParse nvs "lock" = nvs "lock" := by
    rw [SettingsCall.step_eq]
    cases hargs : call.args call.command (call.command.values argParse) with
    | none => rfl
    | some writes =>
      refine applyAll_of_notMem ?_ nvs
      rw [SettingsCommand.values_keys (SettingsCall.values_of_args hargs)]
      cases call.command <;> decide
  have hlock : storedAfter argParse nvs calls "lock" = nvs "lock" := by
    rw [storedAfter, StepSystem.run]
    induction calls generalizing nvs with
    | nil => rfl
    | cons call calls ih => exact (ih _).trans (hstep nvs call)
  rw [startsWebServer, startsWebServer, NvsParams.paramOrDefault_readStr,
    NvsParams.paramOrDefault_readStr, NvsParams.strs_congr hlock]

end

/-! ## From the form to the access point -/

theorem preprocessString_strlen_le (v : CString) : (preprocessString v).strlen ≤ v.strlen :=
  (List.takeWhile_prefix _).length_le.trans (preprocessBytes_length_le v.bytes)

/-- What is decoded and then cut off at the end of a buffer. -/
theorem take_preprocessString_eq_self_iff (v : CString) (n : ℕ) :
    (preprocessString v).take n = v ↔ Unquoted v ∧ v.strlen ≤ n := by
  rw [← preprocessString_eq_self_iff]
  constructor
  · intro h
    have hbytes : (preprocessString v).bytes.take n = v.bytes := congrArg CString.bytes h
    have hsame : preprocessString v = v :=
      (CString.ext ((hbytes ▸ List.take_prefix n _ :
        v.bytes <+: (preprocessString v).bytes).eq_of_length_le (preprocessString_strlen_le v))).symm
    rw [hsame] at hbytes
    exact ⟨hsame, List.take_eq_self_iff _ |>.1 hbytes⟩
  · rintro ⟨hsame, hle⟩
    rw [hsame]
    exact CString.ext (List.take_of_length_le hle)

theorem UrlQuery.Submits.strlen_le {q : UrlQuery} {key : String} {v : CString}
    (h : q.Submits key v) : v.strlen ≤ 63 := by
  obtain ⟨e, -, hcode, hfits⟩ := h
  rw [← preprocessString_of_encodes hcode]
  exact (preprocessString_strlen_le e).trans hfits

/-- **What goes from the form to the access point as it was entered**: a name of at most 31 bytes,
and a password, where both have no `+` and no `%` with two bytes behind it.  A password that is too
short for the access point to have one may be anything.

This is about forms that are taken and stored.  The encodings of the name and of the password have at
most 63 bytes, or the handler would drop the form; neither begins with a `-`, or `set_ap` would take
it for an option; and the NVS calls succeed. -/
theorem ap_from_form_iff {argParse : ArgParse} (hargs : argParse.HandsThrough)
    (aton : CString → UInt32) {q : UrlQuery} {ssid password : CString} (hssid : Positional ssid)
    (hpassword : Positional password) (hs : q.Submits "ap_ssid" ssid)
    (hp : q.Submits "ap_password" password) (s : WebRouter) {nvs : NvsParams}
    (hnvs : nvs.strs = (indexGetHandler argParse .ok (some q) s).nvs) :
    ((nvs.boot aton).ap.ssid.str = ssid ∧
      if password.strlen < 8 then (nvs.boot aton).ap.authmode = .wifiAuthOpen
      else (nvs.boot aton).ap.authmode = .wifiAuthWpa2Wpa3Psk ∧
        (nvs.boot aton).ap.password.str = password) ↔
    Unquoted ssid ∧ ssid.strlen ≤ 31 ∧ (password.strlen < 8 ∨ Unquoted password) := by
  obtain ⟨hstored, hstored'⟩ := indexGetHandler_ap hargs hssid hpassword hs hp s
  have hname : (nvs.boot aton).ap.ssid.str = ssid ↔ Unquoted ssid ∧ ssid.strlen ≤ 31 := by
    rw [NvsParams.boot_ap, hnvs, hstored, Option.getD_some, apConfig,
      ← take_preprocessString_eq_self_iff]
    split <;> rfl
  rw [hname, and_assoc, NvsParams.boot_ap, hnvs, hstored', Option.getD_some]
  refine and_congr_right fun _ => and_congr_right fun _ => ?_
  have hle : (preprocessString password).strlen ≤ password.strlen :=
    preprocessString_strlen_le password
  by_cases hshort : password.strlen < 8
  · rw [if_pos hshort, apConfig_open_iff]
    exact iff_of_true (hle.trans_lt hshort) (.inl hshort)
  · rw [if_neg hshort, or_iff_right hshort, apConfig]
    split
    · next hopen =>
      refine iff_of_false (fun h => WifiAuthMode.noConfusion h.1) fun h => ?_
      rw [(preprocessString_eq_self_iff password).2 h] at hopen
      exact hshort hopen
    · have htake : ((preprocessString password).take 63 = password) ↔ Unquoted password := by
        rw [take_preprocessString_eq_self_iff, and_iff_left hp.strlen_le]
      exact (and_iff_right rfl).trans htake

/-- The form with a name that is, and one that is not, what the access point is called. -/
theorem ap_from_form_home :
    let q := formQuery [("ap_ssid", .lit "Home & Co"), ("ap_password", .lit "100%open")]
    let nvs : NvsParams := fun key =>
      ((indexGetHandler parseInOrder .ok (some q) ⟨fun _ => none, false⟩).nvs key).map .str
    let ap := (nvs.boot fun _ => 0).ap
    ¬ (ap.ssid.str = .lit "Home & Co" ∧
      if (CString.lit "100%open").strlen < 8 then ap.authmode = .wifiAuthOpen
      else ap.authmode = .wifiAuthWpa2Wpa3Psk ∧ ap.password.str = .lit "100%open") := by
  intro q nvs
  have hnvs : nvs.strs = (indexGetHandler parseInOrder .ok (some q) ⟨fun _ => none, false⟩).nvs := by
    funext key
    dsimp only [nvs, NvsParams.strs]
    cases (indexGetHandler parseInOrder .ok (some q) ⟨fun _ => none, false⟩).nvs key <;> rfl
  exact fun h => absurd ((ap_from_form_iff parseInOrder_handsThrough (fun _ => 0) (by decide)
    (by decide) (formQuery_submits rfl (by decide) (by decide))
    (formQuery_submits rfl (by decide) (by decide)) ⟨fun _ => none, false⟩ hnvs).1 h) (by decide)

end EspFirewall
