import EspFirewall.ConfigPage
import EspFirewall.EnterpriseForm
import EspFirewall.WifiSetup

/-!
# Sending the configuration page back (`start_webserver`, `index_get_handler`)

The page shows the settings, and each of its three forms sends some of them to `index_get_handler`.
Whoever opens the page and presses a button without having changed anything asks for the settings
that there are.

`resubmitted_iff` says when that is what the router has after the next restart.  The strings are
decoded once more on their way, by the command, and the user name is passed on only with a password,
and the identity only with a user name.  If one of the strings is too long for its buffer, nothing
at all happens, and so nothing is lost.

All this is about a page that shows what is stored: it fits in its buffer, and its addresses have no
quotes and no character references in them.  No string of it begins with a `-`, which the command
would take for an option, and the NVS calls succeed.
-/

set_option autoImplicit false

namespace EspFirewall

open CLang CharRef FormCoding Html

/-! ## The page of a router -/

/-- What `start_webserver` prints of the settings. -/
def WifiParams.page (p : WifiParams) : StoredStrings where
  apSsid := p.apSsid
  apPasswd := p.apPasswd
  ssid := p.ssid
  passwd := p.passwd
  entUsername := p.entUsername
  entIdentity := p.entIdentity
  staticIp := p.staticIp
  subnetMask := p.subnetMask
  gatewayAddr := p.gatewayAddr

/-- The page after a restart. -/
def NvsParams.page (nvs : NvsParams) : StoredStrings := (wifiParams nvs.readStr nvs.readBlob).page

/-- The settings of the page. -/
def pageOf (nvs : ParamStore) : StoredStrings where
  apSsid := (nvs "ap_ssid").getD (.lit "ESP32_Firewall")
  apPasswd := (nvs "ap_passwd").getD .empty
  ssid := (nvs "ssid").getD .empty
  passwd := (nvs "passwd").getD .empty
  entUsername := (nvs "ent_username").getD .empty
  entIdentity := (nvs "ent_identity").getD .empty
  staticIp := (nvs "static_ip").getD .empty
  subnetMask := (nvs "subnet_mask").getD .empty
  gatewayAddr := (nvs "gateway_addr").getD .empty

theorem NvsParams.page_eq (nvs : NvsParams) : nvs.page = pageOf nvs.strs := by
  simp only [NvsParams.page, WifiParams.page, wifiParams, NvsParams.paramOrDefault_readStr]
  rfl

/-- The addresses can be printed as they are, and the page fits in its buffer. -/
structure StoredStrings.Printable (named : Names) (s : StoredStrings) : Prop where
  fits : s.Fits
  addresses : ∀ a ∈ s.addresses, 39 ∉ a.bytes ∧ NoReference named a.bytes

/-- Then the page shows them. -/
theorem StoredStrings.Printable.inputFields_eq {named : Names} (hnamed : named.Lawful)
    {s : StoredStrings} (h : s.Printable named) :
    inputFields (decode named) (tokenize s.configPage) = s.fields := by
  rw [h.fits.configPage_eq]
  exact (inputFields_printed_iff hnamed s).2 h.addresses

/-! ## Its forms -/

namespace StoredStrings

/-- The fields of the page, by the names that the handler uses. -/
def byName (s : StoredStrings) : List (String × CString) :=
  [("ap_ssid", s.apSsid), ("ap_password", s.apPasswd), ("ssid", s.ssid), ("password", s.passwd),
    ("ent_username", s.entUsername), ("ent_identity", s.entIdentity), ("staticip", s.staticIp),
    ("subnetmask", s.subnetMask), ("gateway", s.gatewayAddr)]

/-- No two fields have the same name. -/
theorem nodup_fields (s : StoredStrings) : (s.fields.map Prod.fst).Nodup := by
  change (["ap_ssid", "ap_password", "ssid", "password", "ent_username", "ent_identity", "staticip",
    "subnetmask", "gateway"].map fun name => some (ascii name)).Nodup
  decide

/-- What the page shows for a name. -/
theorem eq_of_mem_fields {s : StoredStrings} {name : String} {v w : CString}
    (hv : (name, v) ∈ s.byName) (hw : (some (ascii name), some w.bytes) ∈ s.fields) : v = w := by
  have hv' : (some (ascii name), some v.bytes) ∈ s.fields :=
    List.mem_map_of_mem (f := fun f : String × CString => (some (ascii f.1), some f.2.bytes)) hv
  have hsame := List.inj_on_of_nodup_map s.nodup_fields hv' hw rfl
  exact CString.ext (Option.some.inj (Prod.mk.inj hsame).2)

/-- The fields of the form for the uplink. -/
def sta (s : StoredStrings) : StaFields := ⟨s.ssid, s.passwd, s.entUsername, s.entIdentity⟩

end StoredStrings

/-- The fields of the form for the access point. -/
abbrev apFieldNames : List String := ["ap_ssid", "ap_password"]

/-- Those of the form for the uplink. -/
abbrev staFieldNames : List String := ["ssid", "password", "ent_username", "ent_identity"]

/-- Those of the form for the static address. -/
abbrev staStaticFieldNames : List String := ["staticip", "subnetmask", "gateway"]

/-- The query of a form with these fields, sent as the page shows them: each value encoded. -/
structure Resubmits (named : Names) (page : Bytes) (names : List String) (q : UrlQuery) : Prop where
  shown : ∀ name ∈ names, ∃ v e : CString,
    (some (ascii name), some v.bytes) ∈ inputFields (decode named) (tokenize page) ∧
      q.value name = some e ∧ Encodes v.bytes e.bytes
  others : ∀ name ∉ names, q.value name = none

/-- The encoded values fit in the buffers of the handler. -/
def UrlQuery.FitsIn (q : UrlQuery) (names : List String) : Prop :=
  ∀ name ∈ names, ∀ e ∈ q.value name, e.strlen ≤ 63

section

variable {named : Names} {s : StoredStrings} {names : List String} {q : UrlQuery}

theorem Resubmits.submits (h : Resubmits named s.configPage names q)
    (hshows : inputFields (decode named) (tokenize s.configPage) = s.fields)
    (hfits : q.FitsIn names) {name : String} (hname : name ∈ names) {v : CString}
    (hv : (name, v) ∈ s.byName) : q.Submits name v := by
  obtain ⟨w, e, hw, he, hcode⟩ := h.shown name hname
  obtain rfl : v = w := StoredStrings.eq_of_mem_fields hv (hshows ▸ hw)
  exact ⟨e, he, hcode, hfits name hname e he⟩

/-- The handler misses a field that is not sent. -/
theorem Resubmits.keyValue_others (h : Resubmits named s.configPage names q) {name : String}
    (hname : name ∉ names) : httpdQueryKeyValue q name PARAM_SIZE = none := by
  rw [httpdQueryKeyValue, h.others name hname]
  rfl

/-- It misses one that does not fit as well. -/
theorem UrlQuery.keyValue_of_not_fitsIn (h : ¬ q.FitsIn names) :
    ∃ name ∈ names, httpdQueryKeyValue q name PARAM_SIZE = none := by
  rw [UrlQuery.FitsIn] at h
  push Not at h
  obtain ⟨name, hname, e, he, hlong⟩ := h
  refine ⟨name, hname, httpdQueryKeyValue_of_le he ?_⟩
  exact not_lt.2 hlong

end

/-! ## A form with a field missing -/

section

variable {argParse : ArgParse} {out : ParamSave} {q : UrlQuery} (r : WebRouter)

theorem apForm_eq_self (h : ∃ name ∈ apFieldNames, httpdQueryKeyValue q name PARAM_SIZE = none) :
    apForm argParse out q r = r := by
  rw [apForm]
  split
  · next h₁ h₂ => simp [h₁, h₂] at h
  · rfl

theorem staForm_eq_self (h : ∃ name ∈ staFieldNames, httpdQueryKeyValue q name PARAM_SIZE = none) :
    staForm argParse out q r = r := by
  rw [staForm]
  split
  · next h₁ h₂ h₃ h₄ => simp [h₁, h₂, h₃, h₄] at h
  · rfl

theorem staStaticForm_eq_self (h : ∃ name ∈ staStaticFieldNames,
    httpdQueryKeyValue q name PARAM_SIZE = none) : staStaticForm argParse out q r = r := by
  rw [staStaticForm]
  split
  · next h₁ h₂ h₃ => simp [h₁, h₂, h₃] at h
  · rfl

theorem resetForm_nvs (q : UrlQuery) : (resetForm q r).nvs = r.nvs := by
  rw [resetForm]
  split <;> rfl

end

/-! ## What the router has afterwards -/

section

variable {named : Names} {argParse : ArgParse} {q : UrlQuery} {r : WebRouter}

/-- **The form of the access point.** -/
theorem resubmitted_ap (hargs : argParse.HandsThrough)
    (hshows : inputFields (decode named) (tokenize (pageOf r.nvs).configPage) =
      (pageOf r.nvs).fields)
    (hq : Resubmits named (pageOf r.nvs).configPage apFieldNames q)
    (hssid : Positional (pageOf r.nvs).apSsid) (hpasswd : Positional (pageOf r.nvs).apPasswd) :
    pageOf (indexGetHandler argParse .ok (some q) r).nvs = pageOf r.nvs ↔
      (q.FitsIn apFieldNames → Unquoted (pageOf r.nvs).apSsid ∧
        Unquoted (pageOf r.nvs).apPasswd) := by
  have hsta := hq.keyValue_others (show "ssid" ∉ apFieldNames by decide)
  have hstatic := hq.keyValue_others (show "staticip" ∉ apFieldNames by decide)
  have hhandler : indexGetHandler argParse .ok (some q) r =
      apForm argParse .ok q (resetForm q r) := by
    rw [indexGetHandler, staStaticForm_eq_self _ ⟨"staticip", by decide, hstatic⟩,
      staForm_eq_self _ ⟨"ssid", by decide, hsta⟩]
    rfl
  rw [hhandler]
  by_cases hfits : q.FitsIn apFieldNames
  · obtain ⟨hstored, hstored'⟩ := apForm_stored (s := resetForm q r) hargs hssid hpasswd
      (hq.submits hshows hfits (by decide) (by simp [StoredStrings.byName]))
      (hq.submits hshows hfits (by decide) (by simp [StoredStrings.byName]))
    have hother {key : String} (hkey : key ∉ ["ap_ssid", "ap_passwd"]) :
        (apForm argParse .ok q (resetForm q r)).nvs key = r.nvs key := by
      rw [apForm_of_notMem hkey, resetForm_nvs]
    rw [forall_prop_of_true hfits, ← preprocessString_eq_self_iff, ← preprocessString_eq_self_iff,
      pageOf, hstored, hstored', hother (by decide : "ssid" ∉ _), hother (by decide : "passwd" ∉ _),
      hother (by decide : "ent_username" ∉ _), hother (by decide : "ent_identity" ∉ _),
      hother (by decide : "static_ip" ∉ _), hother (by decide : "subnet_mask" ∉ _),
      hother (by decide : "gateway_addr" ∉ _)]
    simp only [pageOf, StoredStrings.mk.injEq, Option.getD_some]
    simp
  · have hmissing := UrlQuery.keyValue_of_not_fitsIn hfits
    refine iff_of_true ?_ fun h => absurd h hfits
    rw [apForm_eq_self _ hmissing, resetForm_nvs]

/-- The handler behind the form of the uplink: the last two fields are the options of `set_sta`. -/
theorem staForm_submitted {f : StaFields} (hargs : argParse.ReadsOptions)
    (hpos : ∀ v ∈ f.values, Positional v) (hs : q.Submits "ssid" f.ssid)
    (hp : q.Submits "password" f.password) (hu : q.Submits "ent_username" f.entUsername)
    (hi : q.Submits "ent_identity" f.entIdentity) (r : WebRouter) :
    (staForm argParse .ok q r).nvs = (storeParams .ok [("ssid", preprocessString f.ssid),
      ("passwd", preprocessString f.password), ("ent_username", f.args.entUsername.getD .empty),
      ("ent_identity", f.args.entIdentity.getD .empty)] r.nvs).2 := by
  obtain ⟨ssid, password, username, identity⟩ := f
  simp only [StaFields.values, List.forall_mem_cons] at hpos
  obtain ⟨hpos₁, hpos₂, hpos₃, hpos₄, -⟩ := hpos
  obtain ⟨e₁, he₁, rfl⟩ := hs.keyValue
  obtain ⟨e₂, he₂, rfl⟩ := hp.keyValue
  obtain ⟨e₃, he₃, rfl⟩ := hu.keyValue
  obtain ⟨e₄, he₄, rfl⟩ := hi.keyValue
  have hoption (c : Prop) [Decidable c] {v : CString} (hv : Positional v) :
      ∀ u ∈ (if c then some v else none), Positional u := by
    intro u hu
    split at hu
    · exact Option.some.inj hu ▸ hv
    · exact absurd hu (Option.not_mem_none u)
  let args := StaFields.args ⟨preprocessString e₁, preprocessString e₂, preprocessString e₃,
    preprocessString e₄⟩
  have hparse : argParse.setSta ([.lit "set_sta", args.ssid, args.password] ++
      staOptions args.entUsername args.entIdentity) = some args :=
    hargs _ args hpos₁ hpos₂ (hoption _ hpos₃) (hoption _ hpos₄)
  rw [staForm, he₁, he₂, he₃, he₄]
  dsimp only
  rw [ite_append_eq_staOptions]
  refine congrArg Prod.snd (?_ : setSta argParse .ok ([.lit "set_sta", args.ssid, args.password] ++
    staOptions args.entUsername args.entIdentity) r.nvs = _)
  rw [setSta, hparse]
  rfl

/-- **The form of the uplink.** -/
theorem resubmitted_sta (hargs : argParse.ReadsOptions)
    (hshows : inputFields (decode named) (tokenize (pageOf r.nvs).configPage) =
      (pageOf r.nvs).fields)
    (hq : Resubmits named (pageOf r.nvs).configPage staFieldNames q)
    (hpos : ∀ v ∈ (pageOf r.nvs).sta.values, Positional v) :
    pageOf (indexGetHandler argParse .ok (some q) r).nvs = pageOf r.nvs ↔
      (q.FitsIn staFieldNames → Unquoted (pageOf r.nvs).ssid ∧
        Unquoted (pageOf r.nvs).passwd ∧ (pageOf r.nvs).sta.InOrder) := by
  have hap := hq.keyValue_others (show "ap_ssid" ∉ staFieldNames by decide)
  have hstatic := hq.keyValue_others (show "staticip" ∉ staFieldNames by decide)
  have hhandler : indexGetHandler argParse .ok (some q) r =
      staForm argParse .ok q (resetForm q r) := by
    rw [indexGetHandler, staStaticForm_eq_self _ ⟨"staticip", by decide, hstatic⟩,
      apForm_eq_self _ ⟨"ap_ssid", by decide, hap⟩]
    rfl
  rw [hhandler]
  by_cases hfits : q.FitsIn staFieldNames
  · have hstored := staForm_submitted hargs hpos
      (hq.submits hshows hfits (by decide) (by simp [StoredStrings.byName, StoredStrings.sta]))
      (hq.submits hshows hfits (by decide) (by simp [StoredStrings.byName, StoredStrings.sta]))
      (hq.submits hshows hfits (by decide) (by simp [StoredStrings.byName, StoredStrings.sta]))
      (hq.submits hshows hfits (by decide) (by simp [StoredStrings.byName, StoredStrings.sta]))
      (resetForm q r)
    have hssid : (staForm argParse .ok q (resetForm q r)).nvs "ssid" =
      some (preprocessString (pageOf r.nvs).ssid) := (congrFun hstored _).trans rfl
    have hpasswd : (staForm argParse .ok q (resetForm q r)).nvs "passwd" =
      some (preprocessString (pageOf r.nvs).passwd) := (congrFun hstored _).trans rfl
    have husername : (staForm argParse .ok q (resetForm q r)).nvs "ent_username" =
      some ((pageOf r.nvs).sta.args.entUsername.getD .empty) := (congrFun hstored _).trans rfl
    have hidentity : (staForm argParse .ok q (resetForm q r)).nvs "ent_identity" =
      some ((pageOf r.nvs).sta.args.entIdentity.getD .empty) := (congrFun hstored _).trans rfl
    have hother {key : String} (hkey : key ∉ ["ssid", "passwd", "ent_username", "ent_identity"]) :
        (staForm argParse .ok q (resetForm q r)).nvs key = r.nvs key := by
      rw [staForm_of_notMem hkey, resetForm_nvs]
    rw [forall_prop_of_true hfits, ← args_eq_iff, ← preprocessString_eq_self_iff,
      ← preprocessString_eq_self_iff]
    generalize (pageOf r.nvs).sta.args = args at husername hidentity ⊢
    rw [pageOf, hssid, hpasswd, husername, hidentity, hother (by decide : "ap_ssid" ∉ _),
      hother (by decide : "ap_passwd" ∉ _), hother (by decide : "static_ip" ∉ _),
      hother (by decide : "subnet_mask" ∉ _), hother (by decide : "gateway_addr" ∉ _)]
    simp only [pageOf, StoredStrings.mk.injEq, Option.getD_some]
    simp [StoredStrings.sta]
  · have hmissing := UrlQuery.keyValue_of_not_fitsIn hfits
    refine iff_of_true ?_ fun h => absurd h hfits
    rw [staForm_eq_self _ hmissing, resetForm_nvs]

/-- **The form of the static address.** -/
theorem resubmitted_staStatic (hargs : argParse.HandsThrough)
    (hshows : inputFields (decode named) (tokenize (pageOf r.nvs).configPage) =
      (pageOf r.nvs).fields)
    (hq : Resubmits named (pageOf r.nvs).configPage staStaticFieldNames q)
    (hip : Positional (pageOf r.nvs).staticIp) (hmask : Positional (pageOf r.nvs).subnetMask)
    (hgateway : Positional (pageOf r.nvs).gatewayAddr) :
    pageOf (indexGetHandler argParse .ok (some q) r).nvs = pageOf r.nvs ↔
      (q.FitsIn staStaticFieldNames → Unquoted (pageOf r.nvs).staticIp ∧
        Unquoted (pageOf r.nvs).subnetMask ∧ Unquoted (pageOf r.nvs).gatewayAddr) := by
  have hap := hq.keyValue_others (show "ap_ssid" ∉ staStaticFieldNames by decide)
  have hsta := hq.keyValue_others (show "ssid" ∉ staStaticFieldNames by decide)
  have hhandler : indexGetHandler argParse .ok (some q) r =
      staStaticForm argParse .ok q (resetForm q r) := by
    rw [indexGetHandler, apForm_eq_self _ ⟨"ap_ssid", by decide, hap⟩,
      staForm_eq_self _ ⟨"ssid", by decide, hsta⟩]
    rfl
  rw [hhandler]
  by_cases hfits : q.FitsIn staStaticFieldNames
  · obtain ⟨hip', hmask', hgateway'⟩ := staStaticForm_stored (s := resetForm q r) hargs hip hmask
      hgateway (hq.submits hshows hfits (by decide) (by simp [StoredStrings.byName]))
      (hq.submits hshows hfits (by decide) (by simp [StoredStrings.byName]))
      (hq.submits hshows hfits (by decide) (by simp [StoredStrings.byName]))
    have hother {key : String} (hkey : key ∉ ["static_ip", "subnet_mask", "gateway_addr"]) :
        (staStaticForm argParse .ok q (resetForm q r)).nvs key = r.nvs key := by
      rw [staStaticForm_of_notMem hkey, resetForm_nvs]
    rw [forall_prop_of_true hfits, ← preprocessString_eq_self_iff, ← preprocessString_eq_self_iff,
      ← preprocessString_eq_self_iff, pageOf, hip', hmask', hgateway',
      hother (by decide : "ap_ssid" ∉ _), hother (by decide : "ap_passwd" ∉ _),
      hother (by decide : "ssid" ∉ _), hother (by decide : "passwd" ∉ _),
      hother (by decide : "ent_username" ∉ _), hother (by decide : "ent_identity" ∉ _)]
    simp only [pageOf, StoredStrings.mk.injEq, Option.getD_some]
    simp
  · have hmissing := UrlQuery.keyValue_of_not_fitsIn hfits
    refine iff_of_true ?_ fun h => absurd h hfits
    rw [staStaticForm_eq_self _ hmissing, resetForm_nvs]

end

/-- **When a form that is sent back unchanged leaves the settings as they are**: when one of its
values is too long to be looked at, or the strings that are decoded once more have no `+` in them,
and a `%` only among their last two bytes.  The form of the uplink also loses a user name without a
password, and an identity without a user name.

The page is one that shows what is stored (`Printable`), none of its strings begins with a `-`
(`Positional`), and the NVS calls succeed. -/
theorem resubmitted_iff {named : Names} (hnamed : named.Lawful) {argParse : ArgParse}
    (hargs : argParse.HandsThrough) (hoptions : argParse.ReadsOptions) {nvs nvs' : NvsParams}
    (hprintable : nvs.page.Printable named) (hpos : ∀ f ∈ nvs.page.byName, Positional f.2)
    {q : UrlQuery} {restart : Bool}
    (hnvs : nvs'.strs = (indexGetHandler argParse .ok (some q) ⟨nvs.strs, restart⟩).nvs) :
    (Resubmits named nvs.page.configPage apFieldNames q →
      (nvs'.page = nvs.page ↔ (q.FitsIn apFieldNames →
        Unquoted nvs.page.apSsid ∧ Unquoted nvs.page.apPasswd))) ∧
    (Resubmits named nvs.page.configPage staFieldNames q →
      (nvs'.page = nvs.page ↔ (q.FitsIn staFieldNames →
        Unquoted nvs.page.ssid ∧ Unquoted nvs.page.passwd ∧ nvs.page.sta.InOrder))) ∧
    (Resubmits named nvs.page.configPage staStaticFieldNames q →
      (nvs'.page = nvs.page ↔ (q.FitsIn staStaticFieldNames →
        Unquoted nvs.page.staticIp ∧ Unquoted nvs.page.subnetMask ∧
          Unquoted nvs.page.gatewayAddr))) := by
  have hshows := hprintable.inputFields_eq hnamed
  simp only [NvsParams.page_eq, hnvs] at hshows hpos ⊢
  simp only [StoredStrings.byName, List.forall_mem_cons] at hpos
  obtain ⟨h₁, h₂, h₃, h₄, h₅, h₆, h₇, h₈, h₉, -⟩ := hpos
  refine ⟨fun hq => resubmitted_ap hargs hshows hq h₁ h₂,
    fun hq => resubmitted_sta hoptions hshows hq ?_,
    fun hq => resubmitted_staStatic hargs hshows hq h₇ h₈ h₉⟩
  simp only [StoredStrings.sta, StaFields.values, List.forall_mem_cons]
  exact ⟨h₃, h₄, h₅, h₆, fun _ h => absurd h List.not_mem_nil⟩

/-- A password in which a percent sign is followed by two letters. -/
def percentPassword : NvsParams := fun key =>
  [("ap_ssid", .str (.lit "Home")), ("ap_passwd", .str (.lit "100%safe"))].lookup key

/-- It is not what it was when the form has been sent back. -/
theorem resubmitted_iff_percent :
    let q := formQuery [("ap_ssid", .lit "Home"), ("ap_password", .lit "100%safe")]
    let nvs' : NvsParams := fun key => ((indexGetHandler parseInOrder .ok (some q)
      ⟨percentPassword.strs, false⟩).nvs key).map .str
    nvs'.page ≠ percentPassword.page := by
  intro q nvs'
  have hnvs : nvs'.strs =
      (indexGetHandler parseInOrder .ok (some q) ⟨percentPassword.strs, false⟩).nvs := by
    funext key
    dsimp only [nvs', NvsParams.strs]
    cases (indexGetHandler parseInOrder .ok (some q) ⟨percentPassword.strs, false⟩).nvs key <;> rfl
  have hplain : ∀ a ∈ percentPassword.page.addresses, 39 ∉ a.bytes ∧ 38 ∉ a.bytes := by decide
  have hprintable : percentPassword.page.Printable markupNames :=
    ⟨StoredStrings.fits_of_lt (by decide),
      fun a ha => ⟨(hplain a ha).1, noReference_of_notMem (hplain a ha).2⟩⟩
  have hq : Resubmits markupNames percentPassword.page.configPage apFieldNames q := by
    constructor
    · rw [hprintable.inputFields_eq markupNames_lawful]
      simp only [List.forall_mem_cons]
      exact ⟨⟨.lit "Home", .ofMem (serialize (CString.lit "Home").bytes), by decide, rfl,
        encodes_serialize _⟩, ⟨.lit "100%safe", .ofMem (serialize (CString.lit "100%safe").bytes),
        by decide, rfl, encodes_serialize _⟩, fun _ h => absurd h List.not_mem_nil⟩
    · intro name hname
      have hnone : [("ap_ssid", CString.lit "Home"), ("ap_password", .lit "100%safe")].lookup name =
          none := by
        rw [List.lookup_eq_none_iff]
        simpa using hname
      exact congrArg (Option.map _) hnone
  have hfits : q.FitsIn apFieldNames := by
    rw [UrlQuery.FitsIn, List.forall_mem_cons, List.forall_mem_singleton]
    decide
  have hiff := (resubmitted_iff markupNames_lawful parseInOrder_handsThrough
    parseInOrder_readsOptions hprintable (by decide) hnvs).1 hq
  exact fun h => absurd (hiff.1 h hfits) (by decide)

end EspFirewall
