import EspFirewall.General.FormCoding
import EspFirewall.General.Staged
import Mathlib.Logic.Function.Basic

/-!
# The settings commands (`cmd_router.c`)

`set_ap`, `set_sta` and `set_sta_static` store their arguments in NVS, each under the key of its
setting, after decoding them with `preprocess_string`.  They are console commands, and the web
interface calls them too.

What `arg_parse` makes of an argument vector is a parameter, `ArgParse`; `ArgParse.HandsThrough`
says that it hands positional arguments through unchanged.

`preprocessString_of_encodes`: `preprocess_string` decodes form encodings.
`preprocessString_eq_self_iff`: it is not the identity on other texts, but only on those without a
`+` and without a `%` that has two bytes behind it.
-/

set_option autoImplicit false

namespace EspFirewall

open CLang FormCoding

/-! ## `preprocess_string` -/

/-- What `preprocess_string` computes from one of the two bytes behind a `%`. -/
def quotedHex (c : UInt8) : UInt8 := if c ≤ 57 then c - 48 else toupper c - 65 + 10

/-- What `preprocess_string` makes of a byte that does not begin an escape. -/
def unplus (b : UInt8) : UInt8 := if b = 43 then 32 else b

/-- The loop of `preprocess_string`: what it writes, up to the terminator. -/
def preprocessBytes : Bytes → Bytes
  | b :: h :: l :: rest =>
    if b = 37 then ((quotedHex h <<< 4) + quotedHex l) :: preprocessBytes rest
    else unplus b :: preprocessBytes (h :: l :: rest)
  | b :: rest => unplus b :: preprocessBytes rest
  | [] => []

/-- `preprocess_string`: the string that is in place afterwards. -/
def preprocessString (str : CString) : CString := .ofMem (preprocessBytes str.bytes)

theorem preprocessBytes_escape (h l : UInt8) (rest : Bytes) :
    preprocessBytes (37 :: h :: l :: rest) =
      ((quotedHex h <<< 4) + quotedHex l) :: preprocessBytes rest := by
  rw [preprocessBytes, if_pos rfl]

theorem preprocessBytes_cons {b : UInt8} (hb : b ≠ 37) (rest : Bytes) :
    preprocessBytes (b :: rest) = unplus b :: preprocessBytes rest := by
  rcases rest with _ | ⟨h, _ | ⟨l, rest⟩⟩
  · rfl
  · rfl
  · rw [preprocessBytes, if_neg hb]

theorem preprocessBytes_length_le (bs : Bytes) : (preprocessBytes bs).length ≤ bs.length := by
  induction bs using preprocessBytes.induct with
  | case1 h l rest ih =>
    rw [preprocessBytes_escape, List.length_cons, List.length_cons, List.length_cons,
      List.length_cons]
    omega
  | case2 b h l rest hb ih =>
    rw [preprocessBytes_cons hb, List.length_cons, List.length_cons]
    omega
  | case3 b rest hrest ih =>
    rw [preprocessBytes.eq_2 b rest hrest, List.length_cons, List.length_cons]
    omega
  | case4 => exact Nat.le_refl 0

/-! ### Decoding -/

theorem quotedHex_eq {c x : UInt8} (h : hexValue c = some x) : quotedHex c = x := by
  grind [hexValue, quotedHex, toupper]

theorem quotedHex_pair {h l x y : UInt8} (hh : hexValue h = some x) (hl : hexValue l = some y) :
    (quotedHex h <<< 4) + quotedHex l = 16 * x + y := by
  have hshift : x <<< 4 = 16 * x := by
    rw [← UInt8.toNat_inj, UInt8.toNat_shiftLeft, UInt8.toNat_mul, Nat.mul_comm, Nat.shiftLeft_eq]
    rfl
  rw [quotedHex_eq hh, quotedHex_eq hl, hshift]

theorem preprocessBytes_of_encodes {v e : Bytes} (h : Encodes v e) : preprocessBytes e = v := by
  induction h with
  | nil => rfl
  | literal hpercent hplus _ ih => rw [preprocessBytes_cons hpercent, unplus, if_neg hplus, ih]
  | space _ ih => rw [preprocessBytes_cons (by decide), unplus, if_pos rfl, ih]
  | escape hh hl _ ih => rw [preprocessBytes_escape, quotedHex_pair hh hl, ih]

/-- **`preprocess_string` undoes form encoding.** -/
theorem preprocessString_of_encodes {v e : CString} (h : Encodes v.bytes e.bytes) :
    preprocessString e = v := by
  rw [preprocessString, preprocessBytes_of_encodes h]
  exact CString.ofMem_of_nulFree v.nulFree

example : preprocessString (.lit "100%25+pure%2b") = .lit "100% pure+" := by decide

/-! ### Texts that stay -/

/-- There is no `+` in the text, and a `%` only among its last two bytes. -/
def Unquoted (v : CString) : Prop := 43 ∉ v.bytes ∧ 37 ∉ v.bytes.take (v.strlen - 2)

instance (v : CString) : Decidable (Unquoted v) := inferInstanceAs (Decidable (_ ∧ _))

theorem unplus_eq_self_iff (b : UInt8) : unplus b = b ↔ b ≠ 43 := by
  rw [unplus]
  split
  · rename_i h
    rw [h]
    decide
  · rename_i h
    exact ⟨fun _ => h, fun _ => rfl⟩

theorem preprocessBytes_eq_self_iff (bs : Bytes) :
    preprocessBytes bs = bs ↔ 43 ∉ bs ∧ 37 ∉ bs.take (bs.length - 2) := by
  induction bs using preprocessBytes.induct with
  | case1 h l rest ih =>
    have hlen := preprocessBytes_length_le rest
    refine ⟨fun heq => ?_, fun hno => ?_⟩
    · rw [preprocessBytes_escape] at heq
      have := congrArg List.length heq
      simp only [List.length_cons] at this
      omega
    · refine absurd ?_ hno.2
      exact List.mem_cons_self
  | case2 b h l rest hb ih =>
    have htake : (b :: h :: l :: rest).take ((b :: h :: l :: rest).length - 2) =
      b :: (h :: l :: rest).take ((h :: l :: rest).length - 2) := rfl
    have hplus : 43 ∉ b :: h :: l :: rest ↔ b ≠ 43 ∧ 43 ∉ h :: l :: rest := by
      rw [List.mem_cons, not_or, eq_comm]
    rw [preprocessBytes_cons hb, List.cons.injEq, unplus_eq_self_iff, ih, htake, hplus, and_assoc,
      List.mem_cons (l := List.take _ _), or_iff_right (Ne.symm hb)]
  | case3 b rest hrest ih =>
    rcases rest with _ | ⟨h, _ | ⟨l, rest⟩⟩
    · simp [preprocessBytes, unplus_eq_self_iff, @eq_comm _ (43 : UInt8)]
    · simp [preprocessBytes, unplus_eq_self_iff, @eq_comm _ (43 : UInt8)]
    · exact absurd rfl (hrest h l rest)
  | case4 => simp [preprocessBytes]

/-- **The texts `preprocess_string` leaves alone.** -/
theorem preprocessString_eq_self_iff (v : CString) : preprocessString v = v ↔ Unquoted v := by
  rw [Unquoted, CString.strlen, ← preprocessBytes_eq_self_iff]
  refine ⟨fun h => ?_, fun h => ?_⟩
  · -- Nothing was cut off at a NUL, for the loop does not write more than it reads.
    have hpre : (preprocessBytes v.bytes).takeWhile (· != 0) = v.bytes := congrArg CString.bytes h
    have hinitial := List.takeWhile_prefix (l := preprocessBytes v.bytes) (· != 0)
    rw [hpre] at hinitial
    exact (hinitial.eq_of_length_le (preprocessBytes_length_le _)).symm
  · rw [preprocessString, h]
    exact CString.ofMem_of_nulFree v.nulFree

/-! ## Storing settings -/

/-- The strings in the namespace of the router in NVS. -/
abbrev ParamStore := String → Option CString

/-- What the NVS calls of one command return; the calls of `nvs_set_str` by the key. -/
structure ParamSave where
  opened : Bool
  wrote : String → Bool
  committed : Bool

/-- Every call succeeds. -/
def ParamSave.ok : ParamSave := ⟨true, fun _ => true, true⟩

/-- What a command returns. -/
inductive CommandResult
  | ok
  /-- 1, behind the message of `arg_print_errors`. -/
  | usage
  /-- The error of the NVS call that failed. -/
  | nvs
deriving DecidableEq

/-- The calls of `nvs_set_str`, each when the one before it has succeeded, and behind them
`nvs_commit`. -/
def setStrs (out : ParamSave) :
    List (String × CString) → Staged.Handle ParamStore → CommandResult × Staged.Handle ParamStore
  | [], h => (if out.committed then .ok else .nvs, h.commit out.committed)
  | (key, value) :: rest, h =>
    let h := h.set (out.wrote key) fun nvs => Function.update nvs key (some value)
    if out.wrote key then setStrs out rest h else (.nvs, h)

/-- The part that the commands share: open the namespace, write, commit and close. -/
def storeParams (out : ParamSave) (writes : List (String × CString)) (nvs : ParamStore) :
    CommandResult × ParamStore :=
  if out.opened then
    let r := setStrs out writes (.fresh nvs)
    (r.1, r.2.close)
  else (.nvs, nvs)

theorem setStrs_of_notMem (out : ParamSave) {key : String} (writes : List (String × CString))
    (h : Staged.Handle ParamStore) (hmem : key ∉ writes.map Prod.fst)
    (hkey : h.staged key = h.durable key) : (setStrs out writes h).2.durable key = h.durable key := by
  induction writes generalizing h with
  | nil =>
    rw [setStrs, Staged.Handle.commit_durable]
    split
    · exact hkey
    · rfl
  | cons w writes ih =>
    rw [List.map_cons, List.mem_cons, not_or] at hmem
    rw [setStrs]
    split
    · next hwrote =>
      rw [ih _ hmem.2 ?_, Staged.Handle.set_durable]
      rw [Staged.Handle.set_durable, Staged.Handle.set_staged, if_pos hwrote,
        Function.update_of_ne hmem.1, hkey]
    · rw [Staged.Handle.set_durable]

/-- The other settings stay. -/
theorem storeParams_of_notMem (out : ParamSave) {writes : List (String × CString)} {key : String}
    (h : key ∉ writes.map Prod.fst) (nvs : ParamStore) :
    (storeParams out writes nvs).2 key = nvs key := by
  rw [storeParams]
  split
  · exact setStrs_of_notMem out writes (.fresh nvs) h rfl
  · rfl

/-! ## The commands -/

/-- `set_ap_args`, filled in. -/
structure SetApArgs where
  ssid : CString
  password : CString

/-- `set_sta_arg`, filled in; the two options may be missing. -/
structure SetStaArgs where
  ssid : CString
  password : CString
  entUsername : Option CString
  entIdentity : Option CString

/-- `set_sta_static_arg`, filled in. -/
structure SetStaStaticArgs where
  staticIp : CString
  subnetMask : CString
  gatewayAddr : CString

/-- `arg_parse`: what it makes of an argument vector, for the table of each command; `none` when it
reports errors. -/
structure ArgParse where
  setAp : List CString → Option SetApArgs
  setSta : List CString → Option SetStaArgs
  setStaStatic : List CString → Option SetStaStaticArgs

/-- The argument is not taken for an option. -/
def Positional (arg : CString) : Prop := arg.bytes.head? ≠ some 45

instance (arg : CString) : Decidable (Positional arg) := inferInstanceAs (Decidable (_ ≠ _))

/-- The options of `set_sta` in an argument vector. -/
def staOptions (username identity : Option CString) : List CString :=
  username.elim [] (fun u => [.lit "-u", u]) ++ identity.elim [] (fun i => [.lit "-a", i])

/-- Positional arguments are handed through unchanged. -/
structure ArgParse.HandsThrough (argParse : ArgParse) : Prop where
  setAp : ∀ argv0 ssid password, Positional ssid → Positional password →
    argParse.setAp [argv0, ssid, password] = some ⟨ssid, password⟩
  setSta : ∀ argv0 ssid password username identity, Positional ssid → Positional password →
    ∃ args, argParse.setSta ([argv0, ssid, password] ++ staOptions username identity) = some args ∧
      args.ssid = ssid ∧ args.password = password
  setStaStatic : ∀ argv0 ip mask gateway, Positional ip → Positional mask → Positional gateway →
    argParse.setStaStatic [argv0, ip, mask, gateway] = some ⟨ip, mask, gateway⟩

/-- `set_ap`. -/
def setAp (argParse : ArgParse) (out : ParamSave) (argv : List CString) (nvs : ParamStore) :
    CommandResult × ParamStore :=
  match argParse.setAp argv with
  | none => (.usage, nvs)
  | some args =>
    storeParams out [("ap_ssid", preprocessString args.ssid),
      ("ap_passwd", preprocessString args.password)] nvs

/-- `set_sta`. -/
def setSta (argParse : ArgParse) (out : ParamSave) (argv : List CString) (nvs : ParamStore) :
    CommandResult × ParamStore :=
  match argParse.setSta argv with
  | none => (.usage, nvs)
  | some args =>
    storeParams out [("ssid", preprocessString args.ssid),
      ("passwd", preprocessString args.password),
      ("ent_username", args.entUsername.getD .empty),
      ("ent_identity", args.entIdentity.getD .empty)] nvs

/-- `set_sta_static`. -/
def setStaStatic (argParse : ArgParse) (out : ParamSave) (argv : List CString) (nvs : ParamStore) :
    CommandResult × ParamStore :=
  match argParse.setStaStatic argv with
  | none => (.usage, nvs)
  | some args =>
    storeParams out [("static_ip", preprocessString args.staticIp),
      ("subnet_mask", preprocessString args.subnetMask),
      ("gateway_addr", preprocessString args.gatewayAddr)] nvs

theorem setAp_of_notMem (argParse : ArgParse) (out : ParamSave) (argv : List CString)
    {key : String} (h : key ∉ ["ap_ssid", "ap_passwd"]) (nvs : ParamStore) :
    (setAp argParse out argv nvs).2 key = nvs key := by
  rw [setAp]
  split
  · rfl
  · exact storeParams_of_notMem out h nvs

theorem setSta_of_notMem (argParse : ArgParse) (out : ParamSave) (argv : List CString)
    {key : String} (h : key ∉ ["ssid", "passwd", "ent_username", "ent_identity"])
    (nvs : ParamStore) : (setSta argParse out argv nvs).2 key = nvs key := by
  rw [setSta]
  split
  · rfl
  · exact storeParams_of_notMem out h nvs

theorem setStaStatic_of_notMem (argParse : ArgParse) (out : ParamSave) (argv : List CString)
    {key : String} (h : key ∉ ["static_ip", "subnet_mask", "gateway_addr"]) (nvs : ParamStore) :
    (setStaStatic argParse out argv nvs).2 key = nvs key := by
  rw [setStaStatic]
  split
  · rfl
  · exact storeParams_of_notMem out h nvs

/-- What `set_ap` stores of arguments that are handed through. -/
theorem setAp_ok {argParse : ArgParse} (hargs : argParse.HandsThrough) (argv0 : CString)
    {ssid password : CString} (hssid : Positional ssid) (hpassword : Positional password)
    (nvs : ParamStore) :
    let nvs' := (setAp argParse .ok [argv0, ssid, password] nvs).2
    nvs' "ap_ssid" = some (preprocessString ssid) ∧
      nvs' "ap_passwd" = some (preprocessString password) := by
  rw [setAp, hargs.setAp argv0 ssid password hssid hpassword]
  exact ⟨rfl, rfl⟩

/-- What `set_sta` stores of them, whatever the options are. -/
theorem setSta_ok {argParse : ArgParse} (hargs : argParse.HandsThrough) (argv0 : CString)
    {ssid password : CString} (username identity : Option CString) (hssid : Positional ssid)
    (hpassword : Positional password) (nvs : ParamStore) :
    let nvs' := (setSta argParse .ok ([argv0, ssid, password] ++ staOptions username identity) nvs).2
    nvs' "ssid" = some (preprocessString ssid) ∧
      nvs' "passwd" = some (preprocessString password) := by
  obtain ⟨args, hparse, rfl, rfl⟩ :=
    hargs.setSta argv0 ssid password username identity hssid hpassword
  rw [setSta, hparse]
  exact ⟨rfl, rfl⟩

/-- What `set_sta_static` stores of them. -/
theorem setStaStatic_ok {argParse : ArgParse} (hargs : argParse.HandsThrough) (argv0 : CString)
    {ip mask gateway : CString} (hip : Positional ip) (hmask : Positional mask)
    (hgateway : Positional gateway) (nvs : ParamStore) :
    let nvs' := (setStaStatic argParse .ok [argv0, ip, mask, gateway] nvs).2
    nvs' "static_ip" = some (preprocessString ip) ∧
      nvs' "subnet_mask" = some (preprocessString mask) ∧
      nvs' "gateway_addr" = some (preprocessString gateway) := by
  rw [setStaStatic, hargs.setStaStatic argv0 ip mask gateway hip hmask hgateway]
  exact ⟨rfl, rfl, rfl⟩

end EspFirewall
