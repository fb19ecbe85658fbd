import EspFirewall.General.Html

/-!
# Forms made from a template

A page with a form is often made by printing texts into a template, each at a `%s` that stands in
the single-quoted `value` of an `input`.  `templateFields` checks that a template is like that, and
computes the names of its fields.

For such a template **`inputFields_page_iff`** says when the fields of the page have the values they
should have: when no text that is printed has a quote in it, and each decodes to the value.  Then
the rest of the page does not depend on the texts (`markup_page_eq`).
-/

set_option autoImplicit false

namespace Html

open CLang

/-! ## Filling in a format -/

/-- Put a byte in front of the first text. -/
def consHead (b : UInt8) : List Bytes → List Bytes
  | [] => [[b]]
  | s :: segments => (b :: s) :: segments

/-- The texts between the `%s` of a format. -/
def splitHoles : Bytes → List Bytes
  | 37 :: 115 :: rest => [] :: splitHoles rest
  | b :: rest => consHead b (splitHoles rest)
  | [] => [[]]

/-- `printf` for a format whose arguments are strings: each `%s` is replaced by the next argument,
and everything else, a `%` with something else behind it included, is copied. -/
def printStrings : Bytes → List Bytes → Bytes
  | 37 :: 115 :: rest, w :: ws => w ++ printStrings rest ws
  | b :: rest, ws => b :: printStrings rest ws
  | [], _ => []

/-- Texts between the segments of a template. -/
def fill : List Bytes → List Bytes → Bytes
  | s :: segments, w :: ws => w ++ s ++ fill segments ws
  | _, _ => []

theorem exists_splitHoles (fmt : Bytes) : ∃ s segments, splitHoles fmt = s :: segments := by
  cases fmt using splitHoles.fun_cases with
  | case1 rest => exact ⟨_, _, rfl⟩
  | case2 b rest hne =>
    rw [splitHoles.eq_2 b rest hne]
    cases splitHoles rest with
    | nil => exact ⟨_, _, rfl⟩
    | cons => exact ⟨_, _, rfl⟩
  | case3 => exact ⟨_, _, rfl⟩

theorem printStrings_eq {fmt s : Bytes} {segments ws : List Bytes}
    (h : splitHoles fmt = s :: segments) (hlen : segments.length = ws.length) :
    printStrings fmt ws = s ++ fill segments ws := by
  induction fmt, ws using printStrings.induct generalizing s segments with
  | case1 rest w ws ih =>
    obtain ⟨rfl, rfl⟩ := List.cons.inj h
    obtain ⟨s, segments, hrest⟩ := exists_splitHoles rest
    rw [hrest] at hlen
    rw [printStrings, ih hrest (Nat.succ_injective hlen), List.nil_append, hrest, fill,
      List.append_assoc]
  | case2 b rest ws hne ih =>
    by_cases hhole : ∃ rest', b = 37 ∧ rest = 115 :: rest'
    · -- There is an argument for every hole.
      obtain ⟨rest', rfl, rfl⟩ := hhole
      obtain ⟨rfl, rfl⟩ := List.cons.inj h
      obtain ⟨s, segments, hrest⟩ := exists_splitHoles rest'
      rw [hrest] at hlen
      rcases ws with _ | ⟨w, ws⟩
      · exact absurd hlen (Nat.succ_ne_zero _)
      · exact absurd rfl (hne rest' w ws rfl rfl)
    · obtain ⟨s', segments', hrest⟩ := exists_splitHoles rest
      rw [splitHoles.eq_2 b rest fun r hb hr => hhole ⟨r, hb, hr⟩, hrest] at h
      obtain ⟨rfl, rfl⟩ := List.cons.inj h
      rw [printStrings.eq_2 ws b rest hne, ih hrest hlen, List.cons_append]
  | case3 ws =>
    obtain ⟨rfl, rfl⟩ := List.cons.inj h
    rfl

theorem length_printStrings_le (fmt : Bytes) (ws : List Bytes) :
    (printStrings fmt ws).length ≤ fmt.length + (ws.map List.length).sum := by
  induction fmt, ws using printStrings.induct with
  | case1 rest w ws ih =>
    rw [printStrings, List.length_append, List.map_cons, List.sum_cons, List.length_cons,
      List.length_cons]
    omega
  | case2 b rest ws hne ih =>
    rw [printStrings.eq_2 ws b rest hne, List.length_cons, List.length_cons]
    omega
  | case3 ws => exact Nat.zero_le _

/-! ## Fields -/

/-- The first attribute with a name; later ones are ignored. -/
def Tag.get (t : Tag) (n : Bytes) : Option Attr := t.attrs.find? fun a => a.name == n

/-- A start tag of an `input`. -/
def Tag.isInput (t : Tag) : Bool := !t.closing && t.name == ascii "input"

/-- The `input` tags of a page. -/
def inputTags (toks : List Token) : List Tag :=
  toks.filterMap fun
    | .tag t _ => if t.isInput then some t else none
    | _ => none

/-- The value of a field, if it is written in single quotes. -/
def Tag.quotedValue (decode : Bytes → Bytes) (t : Tag) : Option Bytes :=
  match t.get (ascii "value") with
  | some ⟨_, .single, v⟩ => some (decode v)
  | _ => none

/-- The input fields of a page: their names and their values. -/
def inputFields (decode : Bytes → Bytes) (toks : List Token) : List (Option Bytes × Option Bytes) :=
  (inputTags toks).map fun t => ((t.get (ascii "name")).map Attr.value, t.quotedValue decode)

/-- A token with the `value` of an `input` blanked out. -/
def Token.blank : Token → Token
  | .tag t selfClosing =>
    if t.isInput then
      .tag { t with attrs := t.attrs.map fun a =>
        if a.name == ascii "value" then { a with value := [] } else a } selfClosing
    else .tag t selfClosing
  | tok => tok

/-- The markup outside the values of the input fields. -/
def markup (toks : List Token) : List Token := toks.map Token.blank

/-! ## Templates -/

/-- The names of the fields of the rest of a template: the segments behind the holes, from the state
in which the first hole is reached.  There is no result unless each hole is the single-quoted value
of an `input`, the first of its values, and there is no other `input`. -/
def holeFields : Mode → List Bytes → Option (List Bytes)
  | .value t n .single [], (39 :: r) :: segments =>
    match t.get (ascii "name"), run (.afterValue ⟨t.closing, t.name, []⟩) r with
    | some name, (.tag _ _ :: toks, m) =>
      if t.isInput && n == ascii "value" && t.get (ascii "value") == none && inputTags toks == [] then
        (holeFields m segments).map (name.value :: ·)
      else none
    | _, _ => none
  | .data, [] => some []
  | _, _ => none

/-- The names of the fields of a template, if it is one. -/
def templateFields (fmt : Bytes) : Option (List Bytes) :=
  match splitHoles fmt with
  | s :: segments =>
    if inputTags (run .data s).1 == [] then holeFields (run .data s).2 segments else none
  | [] => none

/-- What `holeFields` checks. -/
inductive Holes : Mode → List Bytes → List Bytes → Prop
  | nil : Holes .data [] []
  | cons {t t' : Tag} {name : Attr} {r : Bytes} {selfClosing : Bool} {toks : List Token} {m : Mode}
      {segments names : List Bytes} (hinput : t.isInput = true)
      (hname : t.get (ascii "name") = some name) (hvalue : t.get (ascii "value") = none)
      (hrun : run (.afterValue ⟨t.closing, t.name, []⟩) r = (.tag t' selfClosing :: toks, m))
      (htoks : inputTags toks = []) (h : Holes m segments names) :
      Holes (.value t (ascii "value") .single []) ((39 :: r) :: segments) (name.value :: names)

theorem holes_of_holeFields {m : Mode} {segments names : List Bytes}
    (h : holeFields m segments = some names) : Holes m segments names := by
  induction m, segments using holeFields.induct generalizing names with
  | case1 t n r segments name t' selfClosing toks m hrun hname hcheck ih =>
    rw [holeFields, hname, hrun] at h
    obtain ⟨names, hnames, rfl⟩ := Option.map_eq_some_iff.1 ((if_pos hcheck).symm.trans h)
    simp only [Bool.and_eq_true, beq_iff_eq] at hcheck
    obtain ⟨⟨⟨hinput, rfl⟩, hvalue⟩, htoks⟩ := hcheck
    exact .cons hinput hname hvalue hrun htoks (ih hnames)
  | case2 t n r segments name t' selfClosing toks m hrun hname hcheck =>
    rw [holeFields, hname, hrun] at h
    exact absurd ((if_neg hcheck).symm.trans h).symm (Option.some_ne_none _)
  | case3 t n r segments hno =>
    rw [holeFields] at h
    split at h
    · next hname hrun => exact (hno _ _ _ _ _ hname hrun).elim
    · exact absurd h.symm (Option.some_ne_none _)
  | case4 =>
    obtain rfl := Option.some.inj h
    exact .nil
  | case5 segments m hvalue hdata =>
    rw [holeFields.eq_3 m segments hvalue hdata] at h
    exact absurd h.symm (Option.some_ne_none _)

/-! ## A hole filled in -/

theorem inputFields_cons (decode : Bytes → Bytes) {t : Tag} (h : t.isInput = true)
    (selfClosing : Bool) (toks : List Token) :
    inputFields decode (.tag t selfClosing :: toks) =
      ((t.get (ascii "name")).map Attr.value, t.quotedValue decode) :: inputFields decode toks := by
  have htags : inputTags (.tag t selfClosing :: toks) = t :: inputTags toks :=
    List.filterMap_cons_some (if_pos h)
  rw [inputFields, htags, List.map_cons, inputFields]

theorem inputTags_append (as bs : List Token) : inputTags (as ++ bs) = inputTags as ++ inputTags bs :=
  List.filterMap_append

theorem inputFields_append (decode : Bytes → Bytes) {as : List Token} (h : inputTags as = [])
    (bs : List Token) : inputFields decode (as ++ bs) = inputFields decode bs := by
  rw [inputFields, inputTags_append, h, List.nil_append, inputFields]

/-- The tag of a field, when the hole is filled in with `w`: what the template has in front of it,
the value, and what it has behind it. -/
def filledTag (t t' : Tag) (w : Bytes) : Tag :=
  t'.prepend (t.add (ascii "value") .single w).attrs

section

variable {t t' : Tag} {w : Bytes}

theorem filledTag_isInput (h : (t'.closing, t'.name) = (t.closing, t.name)) :
    (filledTag t t' w).isInput = t.isInput := by
  obtain ⟨hclosing, hname⟩ := Prod.mk.inj h
  rw [Tag.isInput, Tag.isInput, filledTag, Tag.prepend, hclosing, hname]

theorem filledTag_attrs :
    (filledTag t t' w).attrs = t.attrs ++ (⟨ascii "value", .single, w⟩ :: t'.attrs) := by
  rw [filledTag, Tag.prepend, Tag.add, List.append_assoc, List.singleton_append]

theorem filledTag_name {name : Attr} (h : t.get (ascii "name") = some name) :
    (filledTag t t' w).get (ascii "name") = some name := by
  rw [Tag.get] at h
  rw [Tag.get, filledTag_attrs, List.find?_append, h, Option.some_or]

/-- The value in the hole is the value of the field. -/
theorem filledTag_value (decode : Bytes → Bytes) (h : t.get (ascii "value") = none) :
    (filledTag t t' w).quotedValue decode = some (decode w) := by
  rw [Tag.get] at h
  have hfind : (⟨ascii "value", .single, w⟩ :: t'.attrs).find? (fun a => a.name == ascii "value") =
      some ⟨ascii "value", .single, w⟩ := List.find?_cons_of_pos (beq_self_eq_true _)
  rw [Tag.quotedValue, Tag.get, filledTag_attrs, List.find?_append, h, Option.none_or, hfind]

end

/-- A text without a quote ends where the hole ends. -/
theorem tokensFrom_hole {t t' : Tag} {r w : Bytes} {selfClosing : Bool} {toks : List Token}
    {m : Mode} (hrun : run (.afterValue ⟨t.closing, t.name, []⟩) r = (.tag t' selfClosing :: toks, m))
    (hw : 39 ∉ w) (rest : Bytes) :
    (t'.closing, t'.name) = (t.closing, t.name) ∧
      tokensFrom (.value t (ascii "value") .single []) (w ++ 39 :: r ++ rest) =
        .tag (filledTag t t' w) selfClosing :: (toks ++ tokensFrom m rest) := by
  have hfirst := tokensFrom_afterValue (t.add (ascii "value") .single w) (r ++ rest)
  rw [show (t.add (ascii "value") .single w).closing = t.closing from rfl,
    show (t.add (ascii "value") .single w).name = t.name from rfl,
    tokensFrom_append (.afterValue ⟨t.closing, t.name, []⟩), hrun] at hfirst
  rw [List.append_assoc, List.cons_append, tokensFrom_value t _ _ hw, List.nil_append]
  generalize tokensFrom (.afterValue (t.add (ascii "value") .single w)) (r ++ rest) = filled
    at hfirst ⊢
  cases hfirst with
  | tag h => exact ⟨h, rfl⟩

/-- A text with a quote ends there: the field gets what is before it, or there is no more field. -/
theorem inputFields_quote (decode : Bytes → Bytes) {t : Tag} (hinput : t.isInput = true)
    (hvalue : t.get (ascii "value") = none) {v : Bytes} (hv : 39 ∉ v) (rest : Bytes) :
    inputFields decode (tokensFrom (.value t (ascii "value") .single []) (v ++ 39 :: rest)) = [] ∨
      ∃ n fields, inputFields decode (tokensFrom (.value t (ascii "value") .single [])
        (v ++ 39 :: rest)) = (n, some (decode v)) :: fields := by
  have hfirst := tokensFrom_afterValue (t.add (ascii "value") .single v) rest
  rw [tokensFrom_value t _ _ hv, List.nil_append]
  generalize tokensFrom (.afterValue (t.add (ascii "value") .single v)) rest = filled at hfirst ⊢
  generalize tokensFrom (.afterValue _) rest = base at hfirst
  cases hfirst with
  | dropped => exact .inl rfl
  | @tag t' selfClosing toks h =>
    have hk : (t'.closing, t'.name) = (t.closing, t.name) := h
    have hisInput : (filledTag t t' v).isInput = true := (filledTag_isInput hk).trans hinput
    have hfields := inputFields_cons decode hisInput selfClosing toks
    rw [filledTag_value decode hvalue] at hfields
    exact .inr ⟨_, _, hfields⟩

/-! ## The whole form -/

/-- **The fields of a page have the values they should have exactly when no text printed into it has
a quote in it and each decodes to the value.**  A text that is cut off at a quote is assumed not to
decode to the value it should have. -/
theorem inputFields_eq_iff (decode : Bytes → Bytes) {m : Mode} {segments names : List Bytes}
    (h : Holes m segments names) {fields : List (Bytes × Bytes)}
    (hlen : fields.length = names.length)
    (hcut : ∀ f ∈ fields, ∀ v rest, f.1 = v ++ 39 :: rest → decode v ≠ f.2) :
    inputFields decode (tokensFrom m (fill segments (fields.map Prod.fst))) =
        List.zipWith (fun n f => (some n, some f.2)) names fields ↔
      ∀ f ∈ fields, 39 ∉ f.1 ∧ decode f.1 = f.2 := by
  induction h generalizing fields with
  | nil =>
    obtain rfl := List.length_eq_zero_iff.1 hlen
    exact iff_of_true rfl (by simp)
  | @cons t t' name r selfClosing toks m segments names hinput hname hvalue hrun htoks h ih =>
    rcases fields with _ | ⟨f, fields⟩
    · exact absurd hlen (Nat.succ_ne_zero _).symm
    rw [List.map_cons, fill, List.zipWith_cons_cons, List.forall_mem_cons]
    by_cases hf : 39 ∈ f.1
    · refine iff_of_false (fun heq => ?_) fun hall => hall.1.1 hf
      obtain ⟨v, rest, hv, hfirst⟩ := List.eq_append_cons_of_mem hf
      rw [hv, List.append_assoc, List.append_assoc, List.cons_append] at heq
      rcases inputFields_quote decode hinput hvalue hfirst
        (rest ++ (39 :: r ++ fill segments (fields.map Prod.fst))) with hnil | ⟨n, fs, hcons⟩
      · rw [hnil] at heq
        exact List.cons_ne_nil _ _ heq.symm
      · rw [hcons] at heq
        exact hcut f List.mem_cons_self v rest hv
          (Option.some.inj (Prod.mk.inj (List.cons.inj heq).1).2)
    · obtain ⟨hk, htokens⟩ := tokensFrom_hole hrun hf (fill segments (fields.map Prod.fst))
      rw [htokens, inputFields_cons decode ((filledTag_isInput hk).trans hinput),
        filledTag_name hname, filledTag_value decode hvalue, inputFields_append decode htoks,
        List.cons.injEq, ih (Nat.succ_injective hlen) fun g hg => hcut g (List.mem_cons_of_mem f hg),
        Option.map_some, Prod.mk.injEq, and_iff_right rfl, Option.some_inj, and_iff_right hf]

/-! ## What is outside the values -/

theorem markup_cons (tok : Token) (toks : List Token) :
    markup (tok :: toks) = tok.blank :: markup toks := List.map_cons

theorem markup_append (as bs : List Token) : markup (as ++ bs) = markup as ++ markup bs :=
  List.map_append

theorem blank_filledTag {t t' : Tag} (h : (t'.closing, t'.name) = (t.closing, t.name))
    (hinput : t.isInput = true) (w w' : Bytes) (selfClosing : Bool) :
    (Token.tag (filledTag t t' w) selfClosing).blank =
      (Token.tag (filledTag t t' w') selfClosing).blank := by
  rw [Token.blank, Token.blank, if_pos ((filledTag_isInput h).trans hinput),
    if_pos ((filledTag_isInput h).trans hinput), filledTag_attrs, filledTag_attrs, List.map_append,
    List.map_append, List.map_cons, List.map_cons, if_pos (beq_self_eq_true _),
    if_pos (beq_self_eq_true _)]
  rfl

/-- **The markup outside the values does not depend on texts without quotes.** -/
theorem markup_eq {m : Mode} {segments names : List Bytes} (h : Holes m segments names)
    {ws ws' : List Bytes} (hlen : ws.length = names.length) (hlen' : ws'.length = names.length)
    (hws : ∀ w ∈ ws, 39 ∉ w) (hws' : ∀ w ∈ ws', 39 ∉ w) :
    markup (tokensFrom m (fill segments ws)) = markup (tokensFrom m (fill segments ws')) := by
  induction h generalizing ws ws' with
  | nil => rfl
  | cons hinput hname hvalue hrun htoks h ih =>
    rcases ws with _ | ⟨w, ws⟩
    · exact absurd hlen (Nat.succ_ne_zero _).symm
    rcases ws' with _ | ⟨w', ws'⟩
    · exact absurd hlen' (Nat.succ_ne_zero _).symm
    rw [List.forall_mem_cons] at hws hws'
    obtain ⟨hk, htokens⟩ := tokensFrom_hole hrun hws.1 (fill _ ws)
    obtain ⟨-, htokens'⟩ := tokensFrom_hole hrun hws'.1 (fill _ ws')
    rw [fill, fill, htokens, htokens', markup_cons, markup_cons, blank_filledTag hk hinput w w',
      markup_append, markup_append,
      ih (Nat.succ_injective hlen) (Nat.succ_injective hlen') hws.2 hws'.2]

/-! ## Templates -/

theorem Holes.length_eq {m : Mode} {segments names : List Bytes} (h : Holes m segments names) :
    segments.length = names.length := by
  induction h with
  | nil => rfl
  | cons _ _ _ _ _ _ ih => rw [List.length_cons, List.length_cons, ih]

/-- A page printed from a template is what is in front of the first hole, and then the holes. -/
theorem tokenize_page {fmt : Bytes} {names : List Bytes} (h : templateFields fmt = some names) :
    ∃ head m segments, Holes m segments names ∧ inputTags head = [] ∧
      ∀ ws : List Bytes, ws.length = names.length →
        tokenize (printStrings fmt ws) = head ++ tokensFrom m (fill segments ws) := by
  obtain ⟨s, segments, hfmt⟩ := exists_splitHoles fmt
  rw [templateFields, hfmt] at h
  by_cases hhead : (inputTags (run .data s).1 == []) = true
  · have hholes := holes_of_holeFields ((if_pos hhead).symm.trans h)
    refine ⟨_, _, segments, hholes, beq_iff_eq.1 hhead, fun ws hlen => ?_⟩
    rw [printStrings_eq hfmt (hholes.length_eq.trans hlen.symm), tokenize, tokensFrom_append]
  · exact absurd ((if_neg hhead).symm.trans h).symm (Option.some_ne_none _)

/-- **The fields of a page printed from a template.** -/
theorem inputFields_page_iff {fmt : Bytes} {names : List Bytes}
    (h : templateFields fmt = some names) (decode : Bytes → Bytes) {fields : List (Bytes × Bytes)}
    (hlen : fields.length = names.length)
    (hcut : ∀ f ∈ fields, ∀ v rest, f.1 = v ++ 39 :: rest → decode v ≠ f.2) :
    inputFields decode (tokenize (printStrings fmt (fields.map Prod.fst))) =
        List.zipWith (fun n f => (some n, some f.2)) names fields ↔
      ∀ f ∈ fields, 39 ∉ f.1 ∧ decode f.1 = f.2 := by
  obtain ⟨head, m, segments, hholes, hhead, hpage⟩ := tokenize_page h
  rw [hpage _ ((List.length_map _).trans hlen), inputFields_append decode hhead,
    inputFields_eq_iff decode hholes hlen hcut]

/-- **The rest of the page is the same for all texts without quotes.** -/
theorem markup_page_eq {fmt : Bytes} {names : List Bytes} (h : templateFields fmt = some names)
    {ws ws' : List Bytes} (hlen : ws.length = names.length) (hlen' : ws'.length = names.length)
    (hws : ∀ w ∈ ws, 39 ∉ w) (hws' : ∀ w ∈ ws', 39 ∉ w) :
    markup (tokenize (printStrings fmt ws)) = markup (tokenize (printStrings fmt ws')) := by
  obtain ⟨head, m, segments, hholes, -, hpage⟩ := tokenize_page h
  rw [hpage ws hlen, hpage ws' hlen', markup_append, markup_append,
    markup_eq hholes hlen hlen' hws hws']

end Html
