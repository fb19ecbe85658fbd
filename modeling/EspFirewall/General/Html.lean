import EspFirewall.General.CString

/-!
# Tokenizing HTML

The tokenizer of the HTML standard, on bytes.  It turns a page into tags with their attributes, the
single characters of its text, comments and declarations.  Behind the start tag of an element whose
content is raw text, such as `script`, everything up to the matching end tag is text.

Character references are left as they stand, in text and in attribute values.  They never extend
over the end of an attribute value, so a value can be decoded once it is complete.  The escaped
states of script data are left out, and so is what the standard does to the input in front of the
tokenizer: it makes a line feed of each CR and CRLF, and replaces what is not valid UTF-8.
-/

set_option autoImplicit false

namespace Html

open CLang

/-! ## Tokens -/

/-- How an attribute value is written. -/
inductive Quote
  | none
  | single
  | double
deriving DecidableEq

/-- An attribute, with its value as it stands in the page. -/
structure Attr where
  name : Bytes
  quote : Quote
  value : Bytes
deriving DecidableEq

/-- A tag. -/
structure Tag where
  /-- It is an end tag. -/
  closing : Bool
  name : Bytes
  attrs : List Attr
deriving DecidableEq

inductive Token
  | char (b : UInt8)
  | tag (t : Tag) (selfClosing : Bool)
  | comment (text : Bytes)
  /-- A document type, or anything else between `<!` or `<?` and `>`. -/
  | declaration (text : Bytes)
deriving DecidableEq

/-- The states of the tokenizer.  A tag, an attribute name and a value that are not complete yet are
kept in the state. -/
inductive Mode
  | data
  | tagOpen
  | endTagOpen
  /-- Behind `<!`. -/
  | declOpen
  /-- Behind `<!-`. -/
  | declDash
  | declaration (text : Bytes)
  | comment (text : Bytes)
  | tagName (t : Tag)
  | beforeAttr (t : Tag)
  | attrName (t : Tag) (n : Bytes)
  | afterAttrName (t : Tag) (n : Bytes)
  | beforeValue (t : Tag) (n : Bytes)
  | value (t : Tag) (n : Bytes) (q : Quote) (v : Bytes)
  | afterValue (t : Tag)
  | selfClosing (t : Tag)
  /-- In the raw text of an element, and how much of something that may be its end tag has been
  read. -/
  | rawText (element : Bytes) (pending : Bytes)
deriving DecidableEq

def isSpace (b : UInt8) : Bool := b == 9 || b == 10 || b == 12 || b == 32

def isLetter (b : UInt8) : Bool := (65 ≤ b && b ≤ 90) || (97 ≤ b && b ≤ 122)

/-- The elements whose content is raw text. -/
def rawTextElements : List Bytes :=
  ["script", "style", "title", "textarea", "xmp", "iframe", "noembed", "noframes", "noscript"].map
    ascii

/-! ## One byte -/

/-- Give a tag another attribute. -/
def Tag.add (t : Tag) (n : Bytes) (q : Quote) (v : Bytes) : Tag :=
  { t with attrs := t.attrs ++ [⟨n, q, v⟩] }

/-- The `>` of a tag. -/
def Tag.close (t : Tag) (selfClosing : Bool) : List Token × Mode :=
  ([.tag t selfClosing],
    if !t.closing && rawTextElements.contains t.name then .rawText t.name [] else .data)

/-- A byte of text. -/
def dataStep (b : UInt8) : List Token × Mode := if b = 60 then ([], .tagOpen) else ([.char b], .data)

/-- A byte of a declaration. -/
def declarationStep (text : Bytes) (b : UInt8) : List Token × Mode :=
  if b = 62 then ([.declaration text], .data) else ([], .declaration (text ++ [b]))

/-- A byte where an attribute may begin. -/
def beforeAttrStep (t : Tag) (b : UInt8) : List Token × Mode :=
  if isSpace b then ([], .beforeAttr t)
  else if b = 47 then ([], .selfClosing t)
  else if b = 62 then t.close false
  else ([], .attrName t [tolower b])

/-- A byte behind an attribute name. -/
def afterAttrNameStep (t : Tag) (n : Bytes) (b : UInt8) : List Token × Mode :=
  if isSpace b then ([], .afterAttrName t n)
  else if b = 47 then ([], .selfClosing (t.add n .none []))
  else if b = 61 then ([], .beforeValue t n)
  else if b = 62 then (t.add n .none []).close false
  else ([], .attrName (t.add n .none []) [tolower b])

/-- Does a comment with this text end at a `>`? -/
def commentEnds (text : Bytes) : Bool :=
  text == [] || text == [45] || [45, 45].isSuffixOf text || [45, 45, 33].isSuffixOf text

/-- A byte of raw text that does not go on with an end tag. -/
def rawTextStep (element : Bytes) (b : UInt8) : List Token × Mode :=
  if b = 60 then ([], .rawText element [60]) else ([.char b], .rawText element [])

/-- One byte. -/
def step : Mode → UInt8 → List Token × Mode
  | .data, b => dataStep b
  | .tagOpen, b =>
    if b = 33 then ([], .declOpen)
    else if b = 47 then ([], .endTagOpen)
    else if isLetter b then ([], .tagName ⟨false, [tolower b], []⟩)
    else if b = 63 then ([], .declaration [b])
    else (.char 60 :: (dataStep b).1, (dataStep b).2)
  | .endTagOpen, b =>
    if isLetter b then ([], .tagName ⟨true, [tolower b], []⟩)
    else if b = 62 then ([], .data)
    else ([], .declaration [b])
  | .declOpen, b => if b = 45 then ([], .declDash) else declarationStep [] b
  | .declDash, b => if b = 45 then ([], .comment []) else declarationStep [45] b
  | .declaration text, b => declarationStep text b
  | .comment text, b =>
    if b = 62 ∧ commentEnds text then ([.comment text], .data) else ([], .comment (text ++ [b]))
  | .tagName t, b =>
    if isSpace b then ([], .beforeAttr t)
    else if b = 47 then ([], .selfClosing t)
    else if b = 62 then t.close false
    else ([], .tagName { t with name := t.name ++ [tolower b] })
  | .beforeAttr t, b => beforeAttrStep t b
  | .attrName t n, b =>
    if isSpace b ∨ b = 47 ∨ b = 61 ∨ b = 62 then afterAttrNameStep t n b
    else ([], .attrName t (n ++ [tolower b]))
  | .afterAttrName t n, b => afterAttrNameStep t n b
  | .beforeValue t n, b =>
    if isSpace b then ([], .beforeValue t n)
    else if b = 34 then ([], .value t n .double [])
    else if b = 39 then ([], .value t n .single [])
    else if b = 62 then (t.add n .none []).close false
    else ([], .value t n .none [b])
  | .value t n .double v, b =>
    if b = 34 then ([], .afterValue (t.add n .double v)) else ([], .value t n .double (v ++ [b]))
  | .value t n .single v, b =>
    if b = 39 then ([], .afterValue (t.add n .single v)) else ([], .value t n .single (v ++ [b]))
  | .value t n .none v, b =>
    if isSpace b then ([], .beforeAttr (t.add n .none v))
    else if b = 62 then (t.add n .none v).close false
    else ([], .value t n .none (v ++ [b]))
  | .afterValue t, b => beforeAttrStep t b
  | .selfClosing t, b => if b = 62 then t.close true else beforeAttrStep t b
  | .rawText element [], b => rawTextStep element b
  | .rawText element pending, b =>
    let endTag := [60, 47] ++ element
    if lower pending = endTag ∧ (isSpace b ∨ b = 47 ∨ b = 62) then
      beforeAttrStep ⟨true, element, []⟩ b
    else if (lower pending ++ [tolower b]).isPrefixOf endTag then
      ([], .rawText element (pending ++ [b]))
    else (pending.map .char ++ (rawTextStep element b).1, (rawTextStep element b).2)

/-! ## A page -/

/-- The tokens completed by some bytes, and the state behind them. -/
def run : Mode → Bytes → List Token × Mode
  | m, [] => ([], m)
  | m, b :: bs => ((step m b).1 ++ (run (step m b).2 bs).1, (run (step m b).2 bs).2)

/-- What the end of the page completes; a tag that has no `>` is dropped. -/
def finish : Mode → List Token
  | .tagOpen => [.char 60]
  | .endTagOpen => [.char 60, .char 47]
  | .declOpen => [.declaration []]
  | .declDash => [.declaration [45]]
  | .declaration text => [.declaration text]
  | .comment text => [.comment text]
  | .rawText _ pending => pending.map .char
  | _ => []

/-- The tokens from a state to the end of the page. -/
def tokensFrom (m : Mode) (bs : Bytes) : List Token := (run m bs).1 ++ finish (run m bs).2

/-- The tokens of a page. -/
def tokenize (page : Bytes) : List Token := tokensFrom .data page

theorem tokensFrom_nil (m : Mode) : tokensFrom m [] = finish m := rfl

theorem tokensFrom_cons (m : Mode) (b : UInt8) (bs : Bytes) :
    tokensFrom m (b :: bs) = (step m b).1 ++ tokensFrom (step m b).2 bs :=
  List.append_assoc ..

theorem tokensFrom_append (m : Mode) (as bs : Bytes) :
    tokensFrom m (as ++ bs) = (run m as).1 ++ tokensFrom (run m as).2 bs := by
  induction as generalizing m with
  | nil => rfl
  | cons a as ih => rw [List.cons_append, tokensFrom_cons, ih, run, List.append_assoc]

/-- A value without a quote in it is read to its end. -/
theorem tokensFrom_value (t : Tag) (n : Bytes) (v : Bytes) {w : Bytes} (hw : 39 ∉ w) (bs : Bytes) :
    tokensFrom (.value t n .single v) (w ++ 39 :: bs) =
      tokensFrom (.afterValue (t.add n .single (v ++ w))) bs := by
  induction w generalizing v with
  | nil =>
    rw [List.nil_append, List.append_nil, tokensFrom_cons]
    rfl
  | cons b w ih =>
    rw [List.mem_cons, not_or] at hw
    rw [List.cons_append, tokensFrom_cons, step, if_neg (Ne.symm hw.1), List.nil_append, ih _ hw.2,
      List.append_assoc, List.singleton_append]

example : tokenize (ascii "<p a='&amp;' b>x") =
    [.tag ⟨false, ascii "p", [⟨ascii "a", .single, ascii "&amp;"⟩, ⟨ascii "b", .none, []⟩]⟩ false,
      .char 120] := by decide +kernel

/-! ## The attributes that have been read

Inside a tag the tokenizer never looks at the attributes it has read already, and the next token it
completes is that tag, with these attributes in front. -/

/-- Put attributes in front. -/
def Tag.prepend (as : List Attr) (t : Tag) : Tag := { t with attrs := as ++ t.attrs }

/-- Put attributes in front of those of the tag that is being read. -/
def Mode.prepend (as : List Attr) : Mode → Mode
  | .beforeAttr t => .beforeAttr (t.prepend as)
  | .attrName t n => .attrName (t.prepend as) n
  | .afterAttrName t n => .afterAttrName (t.prepend as) n
  | .beforeValue t n => .beforeValue (t.prepend as) n
  | .value t n q v => .value (t.prepend as) n q v
  | .afterValue t => .afterValue (t.prepend as)
  | .selfClosing t => .selfClosing (t.prepend as)
  | m => m

/-- The kind and the name of the tag whose attributes are being read. -/
def Mode.inTag : Mode → Option (Bool × Bytes)
  | .beforeAttr t => some (t.closing, t.name)
  | .attrName t _ => some (t.closing, t.name)
  | .afterAttrName t _ => some (t.closing, t.name)
  | .beforeValue t _ => some (t.closing, t.name)
  | .value t _ _ _ => some (t.closing, t.name)
  | .afterValue t => some (t.closing, t.name)
  | .selfClosing t => some (t.closing, t.name)
  | _ => none

theorem Tag.prepend_add (as : List Attr) (t : Tag) (n : Bytes) (q : Quote) (v : Bytes) :
    (t.prepend as).add n q v = (t.add n q v).prepend as := by
  rw [Tag.add, Tag.add, Tag.prepend, Tag.prepend, List.append_assoc]

/-- What a step inside a tag does, without and with attributes in front. -/
inductive Carries (k : Bool × Bytes) (as : List Attr) :
    List Token × Mode → List Token × Mode → Prop
  | more {m : Mode} (h : m.inTag = some k) : Carries k as ([], m) ([], m.prepend as)
  | done {t : Tag} {selfClosing : Bool} {m : Mode} (h : (t.closing, t.name) = k) :
      Carries k as ([.tag t selfClosing], m) ([.tag (t.prepend as) selfClosing], m)

namespace Carries

variable {as : List Attr}

theorem close (t : Tag) (selfClosing : Bool) :
    Carries (t.closing, t.name) as (t.close selfClosing) ((t.prepend as).close selfClosing) :=
  .done rfl

theorem beforeAttrStep (t : Tag) (b : UInt8) :
    Carries (t.closing, t.name) as (beforeAttrStep t b) (beforeAttrStep (t.prepend as) b) := by
  rw [Html.beforeAttrStep, Html.beforeAttrStep]
  split
  · exact .more rfl
  split
  · exact .more rfl
  split
  · exact close t false
  · exact .more rfl

theorem afterAttrNameStep (t : Tag) (n : Bytes) (b : UInt8) :
    Carries (t.closing, t.name) as (afterAttrNameStep t n b)
      (afterAttrNameStep (t.prepend as) n b) := by
  rw [Html.afterAttrNameStep, Html.afterAttrNameStep, Tag.prepend_add]
  split
  · exact .more rfl
  split
  · exact .more rfl
  split
  · exact .more rfl
  split
  · exact close (t.add n .none []) false
  · exact .more rfl

/-- **Inside a tag the attributes read so far are only carried along.** -/
theorem step {m : Mode} {k : Bool × Bytes} (hm : m.inTag = some k) (b : UInt8) :
    Carries k as (step m b) (step (m.prepend as) b) := by
  cases m with
  | beforeAttr t => exact Option.some.inj hm ▸ beforeAttrStep t b
  | attrName t n =>
    obtain rfl := Option.some.inj hm
    simp only [Html.step, Mode.prepend]
    split
    · exact afterAttrNameStep t n b
    · exact .more rfl
  | afterAttrName t n => exact Option.some.inj hm ▸ afterAttrNameStep t n b
  | beforeValue t n =>
    obtain rfl := Option.some.inj hm
    simp only [Html.step, Mode.prepend, Tag.prepend_add]
    split
    · exact .more rfl
    split
    · exact .more rfl
    split
    · exact .more rfl
    split
    · exact close (t.add n .none []) false
    · exact .more rfl
  | value t n q v =>
    obtain rfl := Option.some.inj hm
    cases q with
    | none =>
      simp only [Html.step, Mode.prepend, Tag.prepend_add]
      split
      · exact .more rfl
      split
      · exact close (t.add n .none v) false
      · exact .more rfl
    | single =>
      simp only [Html.step, Mode.prepend, Tag.prepend_add]
      split
      · exact .more rfl
      · exact .more rfl
    | double =>
      simp only [Html.step, Mode.prepend, Tag.prepend_add]
      split
      · exact .more rfl
      · exact .more rfl
  | afterValue t => exact Option.some.inj hm ▸ beforeAttrStep t b
  | selfClosing t =>
    obtain rfl := Option.some.inj hm
    simp only [Html.step, Mode.prepend]
    split
    · exact close t true
    · exact beforeAttrStep t b
  | _ => exact absurd hm.symm (Option.some_ne_none k)

end Carries

/-- The tokens from a state inside a tag to the end of the page, without and with attributes in
front: there are none, or the first is the tag. -/
inductive FirstTag (k : Bool × Bytes) (as : List Attr) : List Token → List Token → Prop
  | dropped : FirstTag k as [] []
  | tag {t : Tag} {selfClosing : Bool} {toks : List Token} (h : (t.closing, t.name) = k) :
      FirstTag k as (.tag t selfClosing :: toks) (.tag (t.prepend as) selfClosing :: toks)

theorem finish_of_inTag {m : Mode} {k : Bool × Bytes} (hm : m.inTag = some k) : finish m = [] := by
  cases m with
  | beforeAttr | attrName | afterAttrName | beforeValue | value | afterValue | selfClosing => rfl
  | _ => exact absurd hm.symm (Option.some_ne_none k)

theorem Mode.inTag_prepend (as : List Attr) (m : Mode) : (m.prepend as).inTag = m.inTag := by
  cases m <;> rfl

/-- **What follows does not depend on the attributes read so far, but for the tag they are in.** -/
theorem tokensFrom_prepend {m : Mode} {k : Bool × Bytes} (hm : m.inTag = some k) (as : List Attr)
    (bs : Bytes) : FirstTag k as (tokensFrom m bs) (tokensFrom (m.prepend as) bs) := by
  induction bs generalizing m with
  | nil =>
    rw [tokensFrom_nil, tokensFrom_nil, finish_of_inTag hm,
      finish_of_inTag ((m.inTag_prepend as).trans hm)]
    exact .dropped
  | cons b bs ih =>
    rw [tokensFrom_cons, tokensFrom_cons]
    generalize hr : step m b = r
    generalize hr' : step (m.prepend as) b = r'
    have hstep : Carries k as (step m b) (step (m.prepend as) b) := Carries.step hm b
    rw [hr, hr'] at hstep
    cases hstep with
    | more h => exact ih h
    | done h => exact .tag h

/-- Behind a value all attributes of the tag can be put in front. -/
theorem tokensFrom_afterValue (t : Tag) (bs : Bytes) :
    FirstTag (t.closing, t.name) t.attrs (tokensFrom (.afterValue ⟨t.closing, t.name, []⟩) bs)
      (tokensFrom (.afterValue t) bs) := by
  have h := tokensFrom_prepend (m := .afterValue ⟨t.closing, t.name, []⟩) rfl t.attrs bs
  rwa [Mode.prepend, Tag.prepend, List.append_nil] at h

end Html
