import EspFirewall.Settings

/-!
# The settings form (`index_get_handler`)

The settings forms of the web interface are submitted as the query of a `GET /`.
`index_get_handler` takes the fields out of the query, decodes them, and calls the command that
stores them.  But the commands decode their arguments as well, being console commands whose
arguments are typed in encoded, so a field that is submitted is decoded twice.

`web_settings_stored_iff` says which values come out unchanged: those that the second decoding
leaves alone.

`httpd_query_key_value` finds the raw value of a key in the query; which it is, is a field of
`UrlQuery`.
-/

set_option autoImplicit false

namespace EspFirewall

open CLang FormCoding

/-! ## Queries -/

/-- The query of a request. -/
structure UrlQuery where
  text : CString
  /-- The raw values of the keys that are in it. -/
  value : String → Option CString

/-- The size of `param1` to `param4`. -/
abbrev PARAM_SIZE : ℕ := 64

/-- `httpd_query_key_value`, when it returns `ESP_OK`: a value that does not fit the buffer is an
error. -/
def httpdQueryKeyValue (q : UrlQuery) (key : String) (size : ℕ) : Option CString :=
  (q.value key).filter fun value => value.strlen < size

/-- The form was submitted with the value `v` in a field, and the encoded value fits. -/
def UrlQuery.Submits (q : UrlQuery) (key : String) (v : CString) : Prop :=
  ∃ e, q.value key = some e ∧ Encodes v.bytes e.bytes ∧ e.strlen ≤ 63

/-- The form was submitted with the field, and the encoded value fits. -/
def UrlQuery.Has (q : UrlQuery) (key : String) : Prop :=
  ∃ e, q.value key = some e ∧ e.strlen ≤ 63

theorem UrlQuery.Has.keyValue {q : UrlQuery} {key : String} (h : q.Has key) :
    ∃ e, httpdQueryKeyValue q key PARAM_SIZE = some e := by
  obtain ⟨e, he, hfits⟩ := h
  refine ⟨e, ?_⟩
  rw [httpdQueryKeyValue, he, Option.filter_some, if_pos]
  exact decide_eq_true (Nat.lt_succ_of_le hfits)

/-- What the handler has in its buffer once it has decoded it. -/
theorem UrlQuery.Submits.keyValue {q : UrlQuery} {key : String} {v : CString}
    (h : q.Submits key v) :
    ∃ e, httpdQueryKeyValue q key PARAM_SIZE = some e ∧ preprocessString e = v := by
  obtain ⟨e, he, hcode, hfits⟩ := h
  obtain ⟨e', he'⟩ := UrlQuery.Has.keyValue ⟨e, he, hfits⟩
  refine ⟨e', he', ?_⟩
  rw [httpdQueryKeyValue, he] at he'
  rw [← Option.some.inj (Option.eq_some_of_filter_eq_some he')]
  exact preprocessString_of_encodes hcode

/-! ## The handler -/

/-- The stored settings, and whether `restart_timer` has been started. -/
structure WebRouter where
  nvs : ParamStore
  restart : Bool

/-- What the NVS calls of the three commands return. -/
structure WebSave where
  ap : ParamSave
  sta : ParamSave
  staStatic : ParamSave

/-- Every call succeeds. -/
def WebSave.ok : WebSave := ⟨.ok, .ok, .ok⟩

/-- The part of `index_get_handler` for the reset button. -/
def resetForm (q : UrlQuery) (s : WebRouter) : WebRouter :=
  if q.text = .lit "reset=Reboot" then { s with restart := true } else s

/-- The part of `index_get_handler` for `ap_ssid` and `ap_password`. -/
def apForm (argParse : ArgParse) (out : ParamSave) (q : UrlQuery) (s : WebRouter) : WebRouter :=
  match httpdQueryKeyValue q "ap_ssid" PARAM_SIZE, httpdQueryKeyValue q "ap_password" PARAM_SIZE with
  | some ssid, some password =>
    let param1 := preprocessString ssid
    let param2 := preprocessString password
    ⟨(setAp argParse out [.lit "set_ap", param1, param2] s.nvs).2, true⟩
  | _, _ => s

/-- The part of `index_get_handler` for `ssid`, `password`, `ent_username` and `ent_identity`. -/
def staForm (argParse : ArgParse) (out : ParamSave) (q : UrlQuery) (s : WebRouter) : WebRouter :=
  match httpdQueryKeyValue q "ssid" PARAM_SIZE, httpdQueryKeyValue q "password" PARAM_SIZE,
    httpdQueryKeyValue q "ent_username" PARAM_SIZE,
    httpdQueryKeyValue q "ent_identity" PARAM_SIZE with
  | some ssid, some password, some username, some identity =>
    let param1 := preprocessString ssid
    let param2 := preprocessString password
    let param3 := preprocessString username
    let param4 := preprocessString identity
    let argv := [.lit "set_sta", param1, param2] ++
      ((if param2.strlen ≠ 0 then [.lit "-u", param3] else []) ++
        if param3.strlen ≠ 0 then [.lit "-a", param4] else [])
    ⟨(setSta argParse out argv s.nvs).2, true⟩
  | _, _, _, _ => s

/-- The part of `index_get_handler` for `staticip`, `subnetmask` and `gateway`. -/
def staStaticForm (argParse : ArgParse) (out : ParamSave) (q : UrlQuery) (s : WebRouter) :
    WebRouter :=
  match httpdQueryKeyValue q "staticip" PARAM_SIZE, httpdQueryKeyValue q "subnetmask" PARAM_SIZE,
    httpdQueryKeyValue q "gateway" PARAM_SIZE with
  | some ip, some mask, some gateway =>
    let param1 := preprocessString ip
    let param2 := preprocessString mask
    let param3 := preprocessString gateway
    ⟨(setStaStatic argParse out [.lit "set_sta_static", param1, param2, param3] s.nvs).2, true⟩
  | _, _, _ => s

/-- `index_get_handler`, for a request with or without a query. -/
def indexGetHandler (argParse : ArgParse) (out : WebSave) (query : Option UrlQuery)
    (s : WebRouter) : WebRouter :=
  match query with
  | none => s
  | some q =>
    let s := apForm argParse out.ap q (resetForm q s)
    staStaticForm argParse out.staStatic q (staForm argParse out.sta q s)

/-- The handler builds the options of `set_sta`. -/
theorem ite_append_eq_staOptions (a b : Prop) [Decidable a] [Decidable b] (x y : CString) :
    ((if a then [.lit "-u", x] else []) ++ if b then [.lit "-a", y] else []) =
      staOptions (if a then some x else none) (if b then some y else none) := by
  split <;> split <;> rfl

/-! ## What a form leaves alone -/

variable {argParse : ArgParse} {q : UrlQuery} {s : WebRouter}

theorem apForm_of_notMem {out : ParamSave} {key : String} (h : key ∉ ["ap_ssid", "ap_passwd"]) :
    (apForm argParse out q s).nvs key = s.nvs key := by
  rw [apForm]
  split
  · exact setAp_of_notMem argParse out _ h s.nvs
  · rfl

theorem staForm_of_notMem {out : ParamSave} {key : String}
    (h : key ∉ ["ssid", "passwd", "ent_username", "ent_identity"]) :
    (staForm argParse out q s).nvs key = s.nvs key := by
  rw [staForm]
  split
  · exact setSta_of_notMem argParse out _ h s.nvs
  · rfl

theorem staStaticForm_of_notMem {out : ParamSave} {key : String}
    (h : key ∉ ["static_ip", "subnet_mask", "gateway_addr"]) :
    (staStaticForm argParse out q s).nvs key = s.nvs key := by
  rw [staStaticForm]
  split
  · exact setStaStatic_of_notMem argParse out _ h s.nvs
  · rfl

/-! ## What is stored -/

/-- What the first form leaves in NVS: the values that were submitted, decoded once more. -/
theorem apForm_stored (hargs : argParse.HandsThrough) {ssid password : CString}
    (hssid : Positional ssid) (hpassword : Positional password)
    (hs : q.Submits "ap_ssid" ssid) (hp : q.Submits "ap_password" password) :
    (apForm argParse .ok q s).nvs "ap_ssid" = some (preprocessString ssid) ∧
      (apForm argParse .ok q s).nvs "ap_passwd" = some (preprocessString password) := by
  obtain ⟨e, he, rfl⟩ := hs.keyValue
  obtain ⟨f, hf, rfl⟩ := hp.keyValue
  rw [apForm, he, hf]
  exact setAp_ok hargs _ hssid hpassword s.nvs

/-- What the second form leaves in NVS. -/
theorem staForm_stored (hargs : argParse.HandsThrough) {ssid password : CString}
    (hssid : Positional ssid) (hpassword : Positional password)
    (hs : q.Submits "ssid" ssid) (hp : q.Submits "password" password)
    (husername : q.Has "ent_username") (hidentity : q.Has "ent_identity") :
    (staForm argParse .ok q s).nvs "ssid" = some (preprocessString ssid) ∧
      (staForm argParse .ok q s).nvs "passwd" = some (preprocessString password) := by
  obtain ⟨e, he, rfl⟩ := hs.keyValue
  obtain ⟨f, hf, rfl⟩ := hp.keyValue
  obtain ⟨u, hu⟩ := husername.keyValue
  obtain ⟨i, hi⟩ := hidentity.keyValue
  rw [staForm, he, hf, hu, hi]
  simp only [ite_append_eq_staOptions]
  exact setSta_ok hargs _ _ _ hssid hpassword s.nvs

/-- What the third form leaves in NVS. -/
theorem staStaticForm_stored (hargs : argParse.HandsThrough) {ip mask gateway : CString}
    (hip : Positional ip) (hmask : Positional mask) (hgateway : Positional gateway)
    (hi : q.Submits "staticip" ip) (hm : q.Submits "subnetmask" mask)
    (hg : q.Submits "gateway" gateway) :
    (staStaticForm argParse .ok q s).nvs "static_ip" = some (preprocessString ip) ∧
      (staStaticForm argParse .ok q s).nvs "subnet_mask" = some (preprocessString mask) ∧
      (staStaticForm argParse .ok q s).nvs "gateway_addr" = some (preprocessString gateway) := by
  obtain ⟨e, he, rfl⟩ := hi.keyValue
  obtain ⟨f, hf, rfl⟩ := hm.keyValue
  obtain ⟨g, hg', rfl⟩ := hg.keyValue
  rw [staStaticForm, he, hf, hg']
  exact setStaStatic_ok hargs _ hip hmask hgateway s.nvs

/-! ### Behind the whole handler -/

theorem indexGetHandler_ap (hargs : argParse.HandsThrough) {ssid password : CString}
    (hssid : Positional ssid) (hpassword : Positional password)
    (hs : q.Submits "ap_ssid" ssid) (hp : q.Submits "ap_password" password) (s : WebRouter) :
    (indexGetHandler argParse .ok (some q) s).nvs "ap_ssid" = some (preprocessString ssid) ∧
      (indexGetHandler argParse .ok (some q) s).nvs "ap_passwd" =
        some (preprocessString password) := by
  obtain ⟨hstored, hstored'⟩ := apForm_stored (s := resetForm q s) hargs hssid hpassword hs hp
  refine ⟨?_, ?_⟩
  · rw [← hstored, indexGetHandler, staStaticForm_of_notMem (by decide),
      staForm_of_notMem (by decide)]
    rfl
  · rw [← hstored', indexGetHandler, staStaticForm_of_notMem (by decide),
      staForm_of_notMem (by decide)]
    rfl

theorem indexGetHandler_sta (hargs : argParse.HandsThrough) {ssid password : CString}
    (hssid : Positional ssid) (hpassword : Positional password)
    (hs : q.Submits "ssid" ssid) (hp : q.Submits "password" password)
    (husername : q.Has "ent_username") (hidentity : q.Has "ent_identity") (s : WebRouter) :
    (indexGetHandler argParse .ok (some q) s).nvs "ssid" = some (preprocessString ssid) ∧
      (indexGetHandler argParse .ok (some q) s).nvs "passwd" =
        some (preprocessString password) := by
  obtain ⟨hstored, hstored'⟩ := staForm_stored (s := apForm argParse .ok q (resetForm q s)) hargs
    hssid hpassword hs hp husername hidentity
  refine ⟨?_, ?_⟩
  · rw [← hstored, indexGetHandler, staStaticForm_of_notMem (by decide)]
    rfl
  · rw [← hstored', indexGetHandler, staStaticForm_of_notMem (by decide)]
    rfl

theorem indexGetHandler_staStatic (hargs : argParse.HandsThrough) {ip mask gateway : CString}
    (hip : Positional ip) (hmask : Positional mask) (hgateway : Positional gateway)
    (hi : q.Submits "staticip" ip) (hm : q.Submits "subnetmask" mask)
    (hg : q.Submits "gateway" gateway) (s : WebRouter) :
    let nvs := (indexGetHandler argParse .ok (some q) s).nvs
    nvs "static_ip" = some (preprocessString ip) ∧
      nvs "subnet_mask" = some (preprocessString mask) ∧
      nvs "gateway_addr" = some (preprocessString gateway) :=
  staStaticForm_stored hargs hip hmask hgateway hi hm hg

theorem stored_iff (v : CString) : some (preprocessString v) = some v ↔ Unquoted v :=
  (Option.some_inj).trans (preprocessString_eq_self_iff v)

/-- **What is entered in the forms is stored unchanged if it has no `+` in it, and a `%` only among
its last two bytes, and otherwise it is not.** -/
theorem web_settings_stored_iff (hargs : argParse.HandsThrough) (q : UrlQuery) (s : WebRouter) :
    let nvs := (indexGetHandler argParse .ok (some q) s).nvs
    (∀ ssid password, Positional ssid → Positional password →
      q.Submits "ap_ssid" ssid → q.Submits "ap_password" password →
        (nvs "ap_ssid" = some ssid ∧ nvs "ap_passwd" = some password ↔
          Unquoted ssid ∧ Unquoted password)) ∧
    (∀ ssid password, Positional ssid → Positional password →
      q.Submits "ssid" ssid → q.Submits "password" password →
      q.Has "ent_username" → q.Has "ent_identity" →
        (nvs "ssid" = some ssid ∧ nvs "passwd" = some password ↔
          Unquoted ssid ∧ Unquoted password)) ∧
    ∀ ip mask gateway, Positional ip → Positional mask → Positional gateway →
      q.Submits "staticip" ip → q.Submits "subnetmask" mask → q.Submits "gateway" gateway →
        (nvs "static_ip" = some ip ∧ nvs "subnet_mask" = some mask ∧
          nvs "gateway_addr" = some gateway ↔
            Unquoted ip ∧ Unquoted mask ∧ Unquoted gateway) := by
  refine ⟨?_, ?_, ?_⟩
  · intro ssid password hssid hpassword hs hp
    obtain ⟨hstored, hstored'⟩ := indexGetHandler_ap hargs hssid hpassword hs hp s
    rw [hstored, hstored', stored_iff, stored_iff]
  · intro ssid password hssid hpassword hs hp hu hi
    obtain ⟨hstored, hstored'⟩ := indexGetHandler_sta hargs hssid hpassword hs hp hu hi s
    rw [hstored, hstored', stored_iff, stored_iff]
  · intro ip mask gateway hip hmask hgateway hi hm hg
    obtain ⟨hip', hmask', hgateway'⟩ :=
      indexGetHandler_staStatic hargs hip hmask hgateway hi hm hg s
    rw [hip', hmask', hgateway', stored_iff, stored_iff, stored_iff]

/-- An `arg_parse` for argument vectors whose options, if any, come last. -/
def parseInOrder : ArgParse where
  setAp
    | [_, ssid, password] => some ⟨ssid, password⟩
    | _ => none
  setSta
    | [_, ssid, password] => some ⟨ssid, password, none, none⟩
    | [_, ssid, password, opt, x] =>
      if opt = .lit "-u" then some ⟨ssid, password, some x, none⟩
      else if opt = .lit "-a" then some ⟨ssid, password, none, some x⟩ else none
    | [_, ssid, password, opt, x, opt', y] =>
      if opt = .lit "-u" ∧ opt' = .lit "-a" then some ⟨ssid, password, some x, some y⟩ else none
    | _ => none
  setStaStatic
    | [_, ip, mask, gateway] => some ⟨ip, mask, gateway⟩
    | _ => none

theorem parseInOrder_handsThrough : parseInOrder.HandsThrough where
  setAp _ _ _ _ _ := rfl
  setSta _ ssid password username identity _ _ := by
    refine ⟨⟨ssid, password, username, identity⟩, ?_, rfl, rfl⟩
    rcases username with _ | u
    · rcases identity with _ | i
      · rfl
      · rfl
    · rcases identity with _ | i
      · rfl
      · rfl
  setStaStatic _ _ _ _ _ _ _ := rfl

/-- The query of a form with the given fields, encoded the way browsers do it. -/
def formQuery (fields : List (String × CString)) : UrlQuery where
  text := .empty
  value key := (fields.lookup key).map fun v => .ofMem (serialize v.bytes)

/-- All forms submitted in one query. -/
def allForms (password : CString) : UrlQuery :=
  formQuery [("ap_ssid", .lit "Home"), ("ap_password", password), ("ssid", .lit "Uplink"),
    ("password", password), ("ent_username", .empty), ("ent_identity", .empty),
    ("staticip", .lit "10.0.0.2"), ("subnetmask", .lit "255.0.0.0"), ("gateway", .lit "10.0.0.1")]

theorem formQuery_submits {fields : List (String × CString)} {key : String} {v : CString}
    (h : fields.lookup key = some v) (hnul : 0 ∉ serialize v.bytes)
    (hfits : (serialize v.bytes).length ≤ 63) : (formQuery fields).Submits key v := by
  refine ⟨⟨serialize v.bytes, hnul⟩, ?_, encodes_serialize v.bytes, hfits⟩
  show (fields.lookup key).map _ = _
  rw [h, Option.map_some, CString.ofMem_of_nulFree hnul]

/-- A password with a space and a percent sign in it is stored as it is. -/
theorem all_forms_stored :
    let nvs := (indexGetHandler parseInOrder .ok (some (allForms (.lit "open 100%")))
      ⟨fun _ => none, false⟩).nvs
    (nvs "ap_ssid" = some (.lit "Home") ∧ nvs "ap_passwd" = some (.lit "open 100%")) ∧
      (nvs "ssid" = some (.lit "Uplink") ∧ nvs "passwd" = some (.lit "open 100%")) ∧
      nvs "static_ip" = some (.lit "10.0.0.2") ∧ nvs "subnet_mask" = some (.lit "255.0.0.0") ∧
        nvs "gateway_addr" = some (.lit "10.0.0.1") := by
  obtain ⟨hap, hsta, hstatic⟩ := web_settings_stored_iff parseInOrder_handsThrough
    (allForms (.lit "open 100%")) ⟨fun _ => none, false⟩
  refine ⟨(hap _ _ (by decide) (by decide) ?_ ?_).2 (by decide),
    (hsta _ _ (by decide) (by decide) ?_ ?_ ⟨.empty, rfl, by decide⟩ ⟨.empty, rfl, by decide⟩).2
      (by decide),
    (hstatic _ _ _ (by decide) (by decide) (by decide) ?_ ?_ ?_).2 (by decide)⟩
  all_goals exact formQuery_submits rfl (by decide) (by decide)

/-- The password `a+b` is stored as `a b`. -/
theorem plus_not_stored : ¬ ∀ (argParse : ArgParse) (q : UrlQuery) (s : WebRouter)
    (ssid password : CString), argParse.HandsThrough → Positional ssid → Positional password →
      q.Submits "ap_ssid" ssid → q.Submits "ap_password" password →
        (indexGetHandler argParse .ok (some q) s).nvs "ap_ssid" = some ssid ∧
          (indexGetHandler argParse .ok (some q) s).nvs "ap_passwd" = some password := by
  intro h
  have hs : (allForms (.lit "a+b")).Submits "ap_ssid" (.lit "Home") :=
    formQuery_submits rfl (by decide) (by decide)
  have hp : (allForms (.lit "a+b")).Submits "ap_password" (.lit "a+b") :=
    formQuery_submits rfl (by decide) (by decide)
  obtain ⟨-, hstored⟩ := h parseInOrder _ ⟨fun _ => none, false⟩ _ _ parseInOrder_handsThrough
    (by decide) (by decide) hs hp
  rw [(indexGetHandler_ap parseInOrder_handsThrough (by decide) (by decide) hs hp _).2,
    stored_iff] at hstored
  exact absurd hstored (by decide)

end EspFirewall
