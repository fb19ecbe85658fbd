import EspFirewall.WebForm

/-!
# The enterprise fields of the form (`index_get_handler`)

The form for the uplink has four fields.  `index_get_handler` passes the first two to `set_sta` as they
are, and the other two as the options `-u` and `-a`.  Whether it passes an option at all, it decides by
the field before the one that the option is for: `-u` by the password, `-a` by the user name.

`enterprise_stored_iff` says which forms are stored as they were entered.
-/

set_option autoImplicit false

namespace EspFirewall

open CLang FormCoding

/-- The fields of the form for the uplink. -/
structure StaFields where
  ssid : CString
  password : CString
  entUsername : CString
  entIdentity : CString

namespace StaFields

/-- The values of the fields. -/
def values (f : StaFields) : List CString := [f.ssid, f.password, f.entUsername, f.entIdentity]

/-- No value starts with `-`, or has a byte that a form would encode. -/
def Plain (f : StaFields) : Prop :=
  ∀ v ∈ f.values, Positional v ∧ ∀ b ∈ v.bytes, unreserved b = true

instance (f : StaFields) : Decidable f.Plain :=
  inferInstanceAs (Decidable (∀ v ∈ f.values, _ ∧ ∀ b ∈ v.bytes, _))

/-- The query has the fields. -/
structure SubmittedIn (f : StaFields) (q : UrlQuery) : Prop where
  ssid : q.value "ssid" = some f.ssid
  password : q.value "password" = some f.password
  entUsername : q.value "ent_username" = some f.entUsername
  entIdentity : q.value "ent_identity" = some f.entIdentity

/-- The values are in NVS. -/
structure StoredIn (f : StaFields) (nvs : ParamStore) : Prop where
  ssid : nvs "ssid" = some f.ssid
  password : nvs "passwd" = some f.password
  entUsername : nvs "ent_username" = some f.entUsername
  entIdentity : nvs "ent_identity" = some f.entIdentity

/-- Every value fits into its buffer. -/
def Fits (f : StaFields) : Prop := ∀ v ∈ f.values, v.strlen < PARAM_SIZE

instance (f : StaFields) : Decidable f.Fits :=
  inferInstanceAs (Decidable (∀ v ∈ f.values, _))

/-- A user name is entered only with a password, and an identity only with a user name. -/
def InOrder (f : StaFields) : Prop :=
  (f.password ≠ .empty ∨ f.entUsername = .empty) ∧ (f.entUsername ≠ .empty ∨ f.entIdentity = .empty)

instance (f : StaFields) : Decidable f.InOrder := inferInstanceAs (Decidable (_ ∧ _))

/-- The arguments that `set_sta` gets. -/
def args (f : StaFields) : SetStaArgs where
  ssid := f.ssid
  password := f.password
  entUsername := if f.password.strlen ≠ 0 then some f.entUsername else none
  entIdentity := if f.entUsername.strlen ≠ 0 then some f.entIdentity else none

end StaFields

/-- `arg_parse` reads `-u` as the user name and `-a` as the identity. -/
def ArgParse.ReadsOptions (argParse : ArgParse) : Prop :=
  ∀ argv0 (args : SetStaArgs), Positional args.ssid → Positional args.password →
    (∀ u ∈ args.entUsername, Positional u) → (∀ i ∈ args.entIdentity, Positional i) →
    argParse.setSta ([argv0, args.ssid, args.password] ++
      staOptions args.entUsername args.entIdentity) = some args

theorem CString.strlen_eq_zero_iff {s : CString} : s.strlen = 0 ↔ s = .empty := by
  rw [CString.strlen, List.length_eq_zero_iff, CString.ext_iff]
  rfl

/-! ## Values that are not encoded -/

theorem encodes_of_unreserved {v : Bytes} (h : ∀ b ∈ v, unreserved b = true) : Encodes v v := by
  induction v with
  | nil => exact .nil
  | cons b v ih =>
    rw [List.forall_mem_cons] at h
    exact .literal (ne_of_unreserved h.1).1 (ne_of_unreserved h.1).2 (ih h.2)

/-- Decoding leaves such a value alone, as often as it is done. -/
theorem preprocessString_of_unreserved {v : CString} (h : ∀ b ∈ v.bytes, unreserved b = true) :
    preprocessString v = v := preprocessString_of_encodes (encodes_of_unreserved h)

theorem httpdQueryKeyValue_of_lt {q : UrlQuery} {key : String} {v : CString}
    (h : q.value key = some v) (hv : v.strlen < PARAM_SIZE) :
    httpdQueryKeyValue q key PARAM_SIZE = some v := by
  rw [httpdQueryKeyValue, h, Option.filter_some, if_pos (decide_eq_true hv)]

theorem httpdQueryKeyValue_of_le {q : UrlQuery} {key : String} {v : CString}
    (h : q.value key = some v) (hv : ¬ v.strlen < PARAM_SIZE) :
    httpdQueryKeyValue q key PARAM_SIZE = none := by
  rw [httpdQueryKeyValue, h, Option.filter_some, if_neg fun hlt => hv (of_decide_eq_true hlt)]

/-! ## What the form stores -/

section

variable {argParse : ArgParse} {f : StaFields} {q : UrlQuery}

/-- **If the values fit, the form has `set_sta` store them**, with the options that it passes. -/
theorem staForm_of_fits (hargs : argParse.ReadsOptions) (hplain : f.Plain) (hq : f.SubmittedIn q)
    (hfits : f.Fits) (s : WebRouter) :
    (staForm argParse .ok q s).nvs = (storeParams .ok [("ssid", f.ssid), ("passwd", f.password),
      ("ent_username", f.args.entUsername.getD .empty),
      ("ent_identity", f.args.entIdentity.getD .empty)] s.nvs).2 := by
  simp only [StaFields.Plain, StaFields.Fits, StaFields.values, List.forall_mem_cons] at hplain hfits
  obtain ⟨⟨hpos₁, hplain₁⟩, ⟨hpos₂, hplain₂⟩, ⟨hpos₃, hplain₃⟩, ⟨hpos₄, hplain₄⟩, -⟩ := hplain
  obtain ⟨hfits₁, hfits₂, hfits₃, hfits₄, -⟩ := hfits
  have hoption (c : Prop) [Decidable c] {v : CString} (hv : Positional v) :
      ∀ u ∈ (if c then some v else none), Positional u := by
    intro u hu
    split at hu
    · exact Option.some.inj hu ▸ hv
    · exact absurd hu (Option.not_mem_none u)
  have hparse := hargs (.lit "set_sta") f.args hpos₁ hpos₂ (hoption _ hpos₃) (hoption _ hpos₄)
  rw [staForm, httpdQueryKeyValue_of_lt hq.ssid hfits₁, httpdQueryKeyValue_of_lt hq.password hfits₂,
    httpdQueryKeyValue_of_lt hq.entUsername hfits₃, httpdQueryKeyValue_of_lt hq.entIdentity hfits₄]
  dsimp only
  rw [preprocessString_of_unreserved hplain₁, preprocessString_of_unreserved hplain₂,
    preprocessString_of_unreserved hplain₃, preprocessString_of_unreserved hplain₄,
    ite_append_eq_staOptions]
  refine congrArg Prod.snd ((?_ : setSta argParse .ok ([.lit "set_sta", f.args.ssid,
    f.args.password] ++ staOptions f.args.entUsername f.args.entIdentity) s.nvs = _))
  rw [setSta, hparse]
  dsimp only
  rw [StaFields.args, preprocessString_of_unreserved hplain₁, preprocessString_of_unreserved hplain₂]

/-- If one does not, the form does nothing. -/
theorem staForm_of_not_fits (hq : f.SubmittedIn q) (hfits : ¬ f.Fits) (out : ParamSave)
    (s : WebRouter) : staForm argParse out q s = s := by
  simp only [StaFields.Fits, StaFields.values, List.forall_mem_cons, List.not_mem_nil] at hfits
  rw [staForm]
  split
  · next h₁ h₂ h₃ h₄ =>
    have hlt {key : String} {v e : CString} (hv : q.value key = some v)
        (he : httpdQueryKeyValue q key PARAM_SIZE = some e) : v.strlen < PARAM_SIZE := by
      by_contra hle
      rw [httpdQueryKeyValue_of_le hv hle] at he
      exact Option.some_ne_none e he.symm
    exact absurd ⟨hlt hq.ssid h₁, hlt hq.password h₂, hlt hq.entUsername h₃, hlt hq.entIdentity h₄,
      fun _ h => h.elim⟩ hfits
  · rfl

/-- The options are the fields if these are filled in in order. -/
theorem args_eq_iff (f : StaFields) :
    (f.args.entUsername.getD .empty = f.entUsername ∧
      f.args.entIdentity.getD .empty = f.entIdentity) ↔ f.InOrder := by
  have hoption (v w : CString) :
      (if v.strlen ≠ 0 then some w else none).getD .empty = w ↔ v ≠ .empty ∨ w = .empty := by
    have hempty : v ≠ .empty ↔ v.strlen ≠ 0 := not_congr CString.strlen_eq_zero_iff.symm
    rw [hempty]
    split
    · next hv => exact iff_of_true rfl (.inl hv)
    · next hv =>
      rw [or_iff_right hv]
      exact eq_comm
  exact and_congr (hoption _ _) (hoption _ _)

/-- The rest of the handler leaves the four settings alone. -/
theorem indexGetHandler_sta_key {key : String}
    (hkey : key ∈ ["ssid", "passwd", "ent_username", "ent_identity"]) (out : WebSave)
    (s : WebRouter) :
    (indexGetHandler argParse out (some q) s).nvs key =
      (staForm argParse out.sta q (apForm argParse out.ap q (resetForm q s))).nvs key := by
  refine staStaticForm_of_notMem ?_
  revert hkey key
  decide

/-- If the values fit, these are what the handler stores. -/
theorem indexGetHandler_of_fits (hargs : argParse.ReadsOptions) (hplain : f.Plain)
    (hq : f.SubmittedIn q) (hfits : f.Fits) (s : WebRouter) {key : String} {v : CString}
    (hkey : key ∈ ["ssid", "passwd", "ent_username", "ent_identity"])
    (hv : (storeParams .ok [("ssid", f.ssid), ("passwd", f.password),
      ("ent_username", f.args.entUsername.getD .empty),
      ("ent_identity", f.args.entIdentity.getD .empty)]
      (apForm argParse .ok q (resetForm q s)).nvs).2 key = some v) :
    (indexGetHandler argParse .ok (some q) s).nvs key = some v := by
  rw [indexGetHandler_sta_key hkey, ← hv]
  exact congrFun (staForm_of_fits hargs hplain hq hfits _) key

/-- **When the fields are stored as they were entered**, whatever was stored before: exactly when they
all fit, the user name is entered only with a password, and the identity only with a user name. -/
theorem enterprise_stored_iff (hargs : argParse.ReadsOptions) (hplain : f.Plain)
    (hq : f.SubmittedIn q) :
    (∀ s, f.StoredIn (indexGetHandler argParse .ok (some q) s).nvs) ↔ f.Fits ∧ f.InOrder := by
  by_cases hfits : f.Fits
  · have hstored (s : WebRouter) := @indexGetHandler_of_fits _ _ _ hargs hplain hq hfits s
    rw [and_iff_right hfits, ← args_eq_iff]
    constructor
    · intro hall
      have h := hall ⟨fun _ => none, false⟩
      exact ⟨Option.some.inj ((hstored _ (by decide) rfl).symm.trans h.entUsername),
        Option.some.inj ((hstored _ (by decide) rfl).symm.trans h.entIdentity)⟩
    · rintro ⟨hu, hi⟩ s
      exact ⟨hstored s (by decide) rfl, hstored s (by decide) rfl,
        hstored s (by decide) (congrArg some hu), hstored s (by decide) (congrArg some hi)⟩
  · refine iff_of_false (fun hall => ?_) fun h => hfits h.1
    -- Nothing was stored before, and nothing is stored now.
    have h := (hall ⟨fun _ => none, false⟩).ssid
    rw [indexGetHandler_sta_key (by decide), staForm_of_not_fits hq hfits,
      apForm_of_notMem (by decide), resetForm] at h
    split at h <;> exact Option.some_ne_none _ h.symm

end

theorem parseInOrder_readsOptions : parseInOrder.ReadsOptions := by
  rintro argv0 ⟨ssid, password, _ | u, _ | i⟩ - - - -
  · rfl
  · rfl
  · rfl
  · rfl

/-- The query of a form with the fields. -/
def StaFields.query (f : StaFields) : UrlQuery where
  text := .empty
  value key := [("ssid", f.ssid), ("password", f.password), ("ent_username", f.entUsername),
    ("ent_identity", f.entIdentity)].lookup key

theorem StaFields.submittedIn_query (f : StaFields) : f.SubmittedIn f.query := ⟨rfl, rfl, rfl, rfl⟩

/-- A form with all four fields is stored. -/
theorem enterprise_stored_all :
    StaFields.StoredIn ⟨.lit "Campus", .lit "secret", .lit "student", .lit "anonymous"⟩
      (indexGetHandler parseInOrder .ok (some (StaFields.query
        ⟨.lit "Campus", .lit "secret", .lit "student", .lit "anonymous"⟩))
          ⟨fun _ => none, false⟩).nvs :=
  (enterprise_stored_iff parseInOrder_readsOptions (by decide +kernel)
    (StaFields.submittedIn_query _)).2 (by decide) _

/-- A user name without a password is stored as the empty string. -/
theorem enterprise_not_stored : ¬ ∀ (argParse : ArgParse) (f : StaFields) (q : UrlQuery)
    (s : WebRouter), argParse.ReadsOptions → f.Plain → f.SubmittedIn q →
      f.StoredIn (indexGetHandler argParse .ok (some q) s).nvs := by
  intro h
  let f : StaFields := ⟨.lit "Campus", .empty, .lit "student", .empty⟩
  have hplain : f.Plain := by decide +kernel
  have hempty := @indexGetHandler_of_fits _ _ _ parseInOrder_readsOptions hplain
    f.submittedIn_query (by decide) ⟨fun _ => none, false⟩ "ent_username" .empty (by decide) rfl
  have hstored := (h parseInOrder f f.query ⟨fun _ => none, false⟩ parseInOrder_readsOptions hplain
    f.submittedIn_query).entUsername
  exact absurd (Option.some.inj (hempty.symm.trans hstored)) (by decide)

end EspFirewall
