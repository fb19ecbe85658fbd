import EspFirewall.General.CharRef
import EspFirewall.General.HtmlTemplate

/-!
# The configuration page (`pages.h`, `start_webserver`)

`start_webserver` prints nine stored strings into the template `CONFIG_PAGE`: the credentials, which
`html_escape` has escaped, and the three addresses of the static configuration, as they are.  What
is made of them is a page with nine input fields.

`config_page_intact_iff` says when the fields of the page have the stored strings for values and the
rest of the page is what it is for empty strings: when no address has a quote or a character
reference in it.  The credentials may be any strings.  The fields are those of the tokenizer of
`Html`, which takes the bytes of the page as they are.

Braces are written as escapes in the template.
-/

set_option autoImplicit false

namespace EspFirewall

open CLang CharRef Html

/-! ## The template -/

/-- The lines of `CONFIG_PAGE`. -/
def configPageLines : List String := [
  "<!DOCTYPE html>",
  "<html lang='en'>",
  "<head>",
  "<meta charset='UTF-8'>",
  "<meta name='viewport' content='width=device-width, initial-scale=1.0'>",
  "<title>ESP32 NAT Router Config</title>",
  "<style>",
  "@import url('https://fonts.googleapis.com/css2?family=Poppins:wght@400;600&display=swap');",
  "body \x7b",
  "  font-family: 'Poppins', sans-serif;",
  "  background: linear-gradient(135deg, #0c0c0cff, #5600a7ff);",
  "  color: #ebe8e8ff;",
  "  display: flex;",
  "  justify-content: center;",
  "  align-items: flex-start;",
  "  min-height: 100vh;",
  "  margin: 0;",
  "  padding: 40px 0;",
  "\x7d",
  ".container \x7b",
  "  width: 90%;",
  "  max-width: 480px;",
  "  background: #080808ff;",
  "  padding: 25px;",
  "  border-radius: 15px;",
  "  box-shadow: 0 8px 25px rgba(104, 98, 98, 0.2);",
  "  animation: fadeIn 0.8s ease;",
  "\x7d",
  "h1 \x7b",
  "  text-align: center;",
  "  color: #6e03e7ff;",
  "  margin-bottom: 20px;",
  "\x7d",
  ".card \x7b",
  "  background: #0d0d0eff;",
  "  padding: 20px;",
  "  border-radius: 10px;",
  "  margin-bottom: 20px;",
  "  border-left: 5px solid #9100e6ff;",
  "  transition: transform 0.3s ease, box-shadow 0.3s ease;",
  "\x7d",
  ".card:hover \x7b",
  "  transform: scale(1.02);",
  "  box-shadow: 0 6px 15px rgba(253, 253, 253, 0.72);",
  "\x7d",
  "h2 \x7b",
  "  color: #501e72ff;",
  "  margin-bottom: 10px;",
  "  text-align: center;",
  "\x7d",
  "label \x7b",
  "  display: block;",
  "  margin-top: 10px;",
  "  font-weight: 500;",
  "\x7d",
  "input \x7b",
  "  width: 100%;",
  "  padding: 10px;",
  "  margin-top: 5px;",
  "  border: 1px solid #ccc;",
  "  border-radius: 8px;",
  "  transition: 0.3s;",
  "  outline: none;",
  "\x7d",
  "input:focus \x7b",
  "  border-color: #2a5298;",
  "  box-shadow: 0 0 5px rgba(42, 82, 152, 0.4);",
  "\x7d",
  ".btn \x7b",
  "  display: block;",
  "  width: 100%;",
  "  background: #2a5298;",
  "  color: white;",
  "  border: none;",
  "  padding: 10px;",
  "  font-size: 16px;",
  "  border-radius: 8px;",
  "  cursor: pointer;",
  "  margin-top: 15px;",
  "  transition: 0.3s;",
  "\x7d",
  ".btn:hover \x7b",
  "  background: #1e3c72;",
  "\x7d",
  ".note \x7b",
  "  font-size: 12px;",
  "  color: #e4e0e0ff;",
  "  margin-top: 8px;",
  "  text-align: center;",
  "\x7d",
  "@keyframes fadeIn \x7b",
  "  from \x7bopacity: 0; transform: translateY(-10px);\x7d",
  "  to \x7bopacity: 1; transform: translateY(0);\x7d",
  "\x7d",
  "</style>",
  "</head>",
  "<body>",
  "<div class='container'>",
  "<h1>ESP32 FIREWALL CONFIG</h1>",
  "<script>",
  "if (window.location.search.substr(1) != '') \x7b",
  "  document.body.innerHTML = '<h1>ESP32 NAT Router Config</h1><p>The new settings have ",
  "been sent to the device.<br/>The page will refresh soon automatically...</p>';",
  "  setTimeout(function()\x7blocation.href='/'\x7d, 8000);",
  "\x7d",
  "</script>",
  "<div class='card'>",
  "<h2>AP Settings (New Network)</h2>",
  "<form action='' method='GET'>",
  "<label>SSID</label>",
  "<input type='text' name='ap_ssid' value='%s' placeholder='SSID of the new network'>",
  "<label>Password</label>",
  "<input type='text' name='ap_password' value='%s' placeholder='Password (min 8 chars)'>",
  "<button type='submit' class='btn'>Set</button>",
  "<p class='note'>Leave password empty for open network</p>",
  "</form>",
  "</div>",
  "<div class='card'>",
  "<h2>STA Settings (Uplink WiFi)</h2>",
  "<form action='' method='GET'>",
  "<label>SSID</label>",
  "<input type='text' name='ssid' value='%s' placeholder='SSID of existing network'>",
  "<label>Password</label>",
  "<input type='password' name='password' value='%s' placeholder='Password of existing ",
  "network'>",
  "<label>Enterprise username</label>",
  "<input type='text' name='ent_username' value='%s' placeholder='WPA2 Enterprise username'>",
  "<label>Enterprise identity</label>",
  "<input type='text' name='ent_identity' value='%s' placeholder='WPA2 Enterprise identity'>",
  "<button type='submit' class='btn'>Connect</button>",
  "</form>",
  "</div>",
  "<div class='card'>",
  "<h2>Static IP Settings</h2>",
  "<form action='' method='GET'>",
  "<label>Static IP</label>",
  "<input type='text' name='staticip' value='%s'>",
  "<label>Subnet Mask</label>",
  "<input type='text' name='subnetmask' value='%s'>",
  "<label>Gateway</label>",
  "<input type='text' name='gateway' value='%s'>",
  "<button type='submit' class='btn'>Apply</button>",
  "<p class='note'>Leave blank for DHCP</p>",
  "</form>",
  "</div>",
  "<div class='card'>",
  "<h2>Device Management</h2>",
  "<form action='' method='GET'>",
  "<button type='submit' name='reset' value='Reboot' class='btn' ",
  "style='background:#e72e00;'>Reboot Device</button>",
  "</form>",
  "</div>",
  "<div class='card' style='text-align:center;'>",
  "<h2>Firewall</h2>",
  "<p>Go to Dashboard to see live logs</p>",
  "<a href='/dashboard'><button class='btn'>Open Dashboard Page</button></a>",
  "</div>",
  "<p class='note'>© 2025 ESP32 NAT Router</p>",
  "</div>",
  "</body>",
  "</html>"]

/-- `CONFIG_PAGE`. -/
def CONFIG_PAGE : Bytes := configPageLines.flatMap fun line => line.toUTF8.data.toList

/-- The names of the fields of the page. -/
def configFieldNames : List Bytes :=
  ["ap_ssid", "ap_password", "ssid", "password", "ent_username", "ent_identity", "staticip",
    "subnetmask", "gateway"].map ascii

/-- The holes of the template are the values of its nine fields. -/
theorem templateFields_configPage : templateFields CONFIG_PAGE = some configFieldNames := by
  decide +kernel

/-! ## `html_escape` -/

/-- The characters that `html_escape` replaces. -/
def isSpecial (b : UInt8) : Bool := b == 92 || b == 39 || b == 34 || b == 38 || b == 35 || b == 59

/-- What `html_escape` writes for a character. -/
def escapeByte (b : UInt8) : Bytes :=
  if isSpecial b then [38, 35, 48 + b / 10, 48 + b % 10, 59] else [b]

theorem isSpecial_iff {b : UInt8} :
    isSpecial b = true ↔ b = 92 ∨ b = 39 ∨ b = 34 ∨ b = 38 ∨ b = 35 ∨ b = 59 := by
  simp [isSpecial, or_assoc]

/-- There is no quote or backslash in what is written, and a NUL only where there was one. -/
theorem notMem_escapeByte {b c : UInt8} (hc : (c = 39 ∨ c = 34 ∨ c = 92) ∨ c = 0 ∧ b ≠ 0) :
    c ∉ escapeByte b := by
  rw [escapeByte]
  split
  · next h =>
    rcases isSpecial_iff.1 h with rfl | rfl | rfl | rfl | rfl | rfl <;>
      rcases hc with (rfl | rfl | rfl) | ⟨rfl, -⟩ <;> decide
  · next h =>
    rw [List.mem_singleton]
    rintro rfl
    rcases hc with (rfl | rfl | rfl) | ⟨rfl, hne⟩
    · exact h (by decide)
    · exact h (by decide)
    · exact h (by decide)
    · exact hne rfl

/-- `html_escape`. -/
def htmlEscape (src : CString) : CString :=
  ⟨src.bytes.flatMap escapeByte, by
    intro h
    obtain ⟨b, hb, hzero⟩ := List.mem_flatMap.1 h
    exact notMem_escapeByte (.inr ⟨rfl, fun h0 => src.nulFree (h0 ▸ hb)⟩) hzero⟩

theorem notMem_htmlEscape {c : UInt8} (hc : c = 39 ∨ c = 34 ∨ c = 92) (src : CString) :
    c ∉ (htmlEscape src).bytes := by
  intro h
  obtain ⟨b, -, hmem⟩ := List.mem_flatMap.1 h
  exact notMem_escapeByte (.inl hc) hmem

/-- What is written for a special character is a reference to it. -/
theorem charRef_escape (named : Names) {b : UInt8} (h : isSpecial b = true) (rest : Bytes) :
    charRef named (35 :: (48 + b / 10) :: (48 + b % 10) :: 59 :: rest) =
      some (4, [Char.ofNat b.toNat]) := by
  rcases isSpecial_iff.1 h with rfl | rfl | rfl | rfl | rfl | rfl <;> rfl

theorem decode_escapeByte (named : Names) (b : UInt8) (rest : Bytes) :
    decode named (escapeByte b ++ rest) = b :: decode named rest := by
  rw [escapeByte]
  split
  · next h =>
    have hchar : utf8 [Char.ofNat b.toNat] = [b] := by
      rcases isSpecial_iff.1 h with rfl | rfl | rfl | rfl | rfl | rfl <;> rfl
    exact (decode_of_some (charRef_escape named h rest)).trans (congrArg (· ++ _) hchar)
  · next h => exact decode_cons (fun h38 => h (by rw [h38]; decide)) rest

/-- **Decoding undoes `html_escape`.** -/
theorem decode_htmlEscape (named : Names) (src : CString) :
    decode named (htmlEscape src).bytes = src.bytes := by
  have hall : ∀ bs : Bytes, decode named (bs.flatMap escapeByte) = bs := by
    intro bs
    induction bs with
    | nil => rfl
    | cons b bs ih => rw [List.flatMap_cons, decode_escapeByte, ih]
  exact hall src.bytes

/-! ## The page -/

/-- The strings that are printed into the page, as they were read from NVS. -/
structure StoredStrings where
  apSsid : CString
  apPasswd : CString
  ssid : CString
  passwd : CString
  entUsername : CString
  entIdentity : CString
  staticIp : CString
  subnetMask : CString
  gatewayAddr : CString

namespace StoredStrings

/-- The fields the page should have: a name and a stored string each. -/
def fields (s : StoredStrings) : List (Option Bytes × Option Bytes) :=
  [("ap_ssid", s.apSsid), ("ap_password", s.apPasswd), ("ssid", s.ssid), ("password", s.passwd),
    ("ent_username", s.entUsername), ("ent_identity", s.entIdentity), ("staticip", s.staticIp),
    ("subnetmask", s.subnetMask), ("gateway", s.gatewayAddr)].map fun f =>
      (some (ascii f.1), some f.2.bytes)

/-- The strings that are escaped. -/
def credentials (s : StoredStrings) : List CString :=
  [s.apSsid, s.apPasswd, s.ssid, s.passwd, s.entUsername, s.entIdentity]

/-- The strings that are not. -/
def addresses (s : StoredStrings) : List CString := [s.staticIp, s.subnetMask, s.gatewayAddr]

/-- All of them empty. -/
def empty : StoredStrings :=
  ⟨.empty, .empty, .empty, .empty, .empty, .empty, .empty, .empty, .empty⟩

/-- What `snprintf` prints into the template. -/
def printed (s : StoredStrings) : Bytes :=
  printStrings CONFIG_PAGE [(htmlEscape s.apSsid).bytes, (htmlEscape s.apPasswd).bytes,
    (htmlEscape s.ssid).bytes, (htmlEscape s.passwd).bytes, (htmlEscape s.entUsername).bytes,
    (htmlEscape s.entIdentity).bytes, s.staticIp.bytes, s.subnetMask.bytes, s.gatewayAddr.bytes]

/-- `page_len`. -/
def pageLen (s : StoredStrings) : ℕ :=
  CONFIG_PAGE.length + (htmlEscape s.apSsid).strlen + (htmlEscape s.apPasswd).strlen +
    (htmlEscape s.ssid).strlen + (htmlEscape s.passwd).strlen +
    (htmlEscape s.entUsername).strlen + (htmlEscape s.entIdentity).strlen + 256

/-- `config_page`: as much of it as fits the buffer. -/
def configPage (s : StoredStrings) : Bytes := s.printed.take (s.pageLen - 1)

/-- All of it fits the buffer. -/
def Fits (s : StoredStrings) : Prop := s.printed.length < s.pageLen

theorem Fits.configPage_eq {s : StoredStrings} (h : s.Fits) : s.configPage = s.printed :=
  List.take_of_length_le (Nat.le_sub_one_of_lt h)

/-- It does unless the addresses are long. -/
theorem fits_of_lt {s : StoredStrings}
    (h : s.staticIp.strlen + s.subnetMask.strlen + s.gatewayAddr.strlen < 256) : s.Fits := by
  have hle := length_printStrings_le CONFIG_PAGE [(htmlEscape s.apSsid).bytes,
    (htmlEscape s.apPasswd).bytes, (htmlEscape s.ssid).bytes, (htmlEscape s.passwd).bytes,
    (htmlEscape s.entUsername).bytes, (htmlEscape s.entIdentity).bytes, s.staticIp.bytes,
    s.subnetMask.bytes, s.gatewayAddr.bytes]
  simp only [List.map_cons, List.map_nil, List.sum_cons, List.sum_nil] at hle
  simp only [Fits, printed, pageLen, CString.strlen] at h ⊢
  omega

/-! ## What is in the page -/

/-- What is printed into the page for a field, and the value the field should have. -/
def pairs (s : StoredStrings) : List (Bytes × Bytes) :=
  s.credentials.map (fun c => ((htmlEscape c).bytes, c.bytes)) ++
    s.addresses.map fun a => (a.bytes, a.bytes)

variable {named : Names}

/-- **The fields have the stored strings for values exactly when no address has a quote or a
reference in it.** -/
theorem inputFields_printed_iff (hnamed : named.Lawful) (s : StoredStrings) :
    inputFields (decode named) (tokenize s.printed) = s.fields ↔
      ∀ a ∈ s.addresses, 39 ∉ a.bytes ∧ NoReference named a.bytes := by
  have hcut : ∀ f ∈ s.pairs, ∀ v rest, f.1 = v ++ 39 :: rest → decode named v ≠ f.2 := by
    intro f hf v rest hv
    rcases List.mem_append.1 hf with hf | hf
    · obtain ⟨c, -, rfl⟩ := List.mem_map.1 hf
      refine absurd ?_ (notMem_htmlEscape (.inl rfl) c)
      rw [show (htmlEscape c).bytes = _ from hv]
      exact List.mem_append_right v List.mem_cons_self
    · obtain ⟨a, -, rfl⟩ := List.mem_map.1 hf
      rw [show a.bytes = _ from hv]
      exact decode_ne_append hnamed v (by decide) rest
  have hiff := inputFields_page_iff templateFields_configPage (decode named) (show s.pairs.length =
    configFieldNames.length from rfl) hcut
  refine Iff.trans hiff ?_
  rw [pairs, List.forall_mem_append, List.forall_mem_map, List.forall_mem_map]
  simp only [decode_eq_self_iff hnamed]
  exact and_iff_right fun c _ => ⟨notMem_htmlEscape (.inl rfl) c, decode_htmlEscape named c⟩

/-- What is outside the values does not depend on strings whose addresses have no quotes. -/
theorem markup_printed_eq {s s' : StoredStrings} (h : ∀ a ∈ s.addresses, 39 ∉ a.bytes)
    (h' : ∀ a ∈ s'.addresses, 39 ∉ a.bytes) :
    markup (tokenize s.printed) = markup (tokenize s'.printed) := by
  have hquote : ∀ {s : StoredStrings}, (∀ a ∈ s.addresses, 39 ∉ a.bytes) →
      ∀ w ∈ s.pairs.map Prod.fst, 39 ∉ w := by
    intro s h
    rw [pairs, List.map_append, List.forall_mem_append, List.map_map, List.map_map,
      List.forall_mem_map, List.forall_mem_map]
    exact ⟨fun c _ => notMem_htmlEscape (.inl rfl) c, h⟩
  exact markup_page_eq templateFields_configPage rfl rfl (hquote h) (hquote h')

end StoredStrings

open StoredStrings

/-- **The page is intact exactly when no address has a quote or a character reference in it.**  Its
bytes are read as they are, without the normalization of line ends and of invalid UTF-8. -/
theorem config_page_intact_iff {named : Names} (hnamed : named.Lawful) {s : StoredStrings}
    (hfits : s.Fits) :
    inputFields (decode named) (tokenize s.configPage) = s.fields ∧
        markup (tokenize s.configPage) = markup (tokenize empty.configPage) ↔
      ∀ a ∈ [s.staticIp, s.subnetMask, s.gatewayAddr], 39 ∉ a.bytes ∧ NoReference named a.bytes := by
  have hempty : empty.Fits := fits_of_lt (by decide)
  rw [hfits.configPage_eq, hempty.configPage_eq, inputFields_printed_iff hnamed]
  refine and_iff_left_of_imp fun h => markup_printed_eq (fun a ha => (h a ha).1) ?_
  decide

/-- The part of the table of names for the characters of markup. -/
def markupTable : List (Bytes × List Char) :=
  [("amp;", '&'), ("amp", '&'), ("lt;", '<'), ("lt", '<'), ("gt;", '>'), ("gt", '>')].map
    fun (e : String × Char) => (ascii e.1, [e.2])

/-- It as a table of its own. -/
def markupNames : Names := fun n => markupTable.lookup n

theorem markupNames_lawful : markupNames.Lawful := by
  have hall : ∀ e ∈ markupTable, 2 ≤ e.1.length ∧ (∀ b ∈ e.1, b < 128) ∧ e.2.length ≤ 2 := by
    decide +kernel
  have hmem : ∀ {n : Bytes} {cs : List Char}, markupNames n = some cs → (n, cs) ∈ markupTable := by
    intro n cs h
    obtain ⟨as, bs, htable, -⟩ := List.lookup_eq_some_iff.1 h
    rw [htable]
    exact List.mem_append_right as List.mem_cons_self
  exact ⟨fun h => (hall _ (hmem h)).1, fun h => (hall _ (hmem h)).2.1,
    fun h => (hall _ (hmem h)).2.2⟩

/-- Stored strings with the given static address. -/
def stored (staticIp : String) : StoredStrings :=
  ⟨.lit "Tom & Jerry's", .lit "&#39;", .lit "<b>", .lit "a;b", .empty, .empty, .lit staticIp,
    .lit "255.0.0.0", .lit "10.0.0.1"⟩

/-- A page with special characters in the credentials. -/
theorem stored_intact :
    inputFields (decode markupNames) (tokenize (stored "10.0.0.2").configPage) =
        (stored "10.0.0.2").fields ∧
      markup (tokenize (stored "10.0.0.2").configPage) = markup (tokenize empty.configPage) := by
  refine (config_page_intact_iff markupNames_lawful (fits_of_lt (by decide))).2 fun a ha => ?_
  have hplain : ∀ a ∈ (stored "10.0.0.2").addresses, 39 ∉ a.bytes ∧ 38 ∉ a.bytes := by decide
  exact ⟨(hplain a ha).1, noReference_of_notMem (hplain a ha).2⟩

/-- A script in the place of the static address gets into the page. -/
theorem script_injected : ¬ ∀ (named : Names) (s : StoredStrings), named.Lawful → s.Fits →
    inputFields (decode named) (tokenize s.configPage) = s.fields ∧
      markup (tokenize s.configPage) = markup (tokenize empty.configPage) := by
  intro h
  have hfits : (stored "'><script>alert(1)</script>").Fits := fits_of_lt (by decide)
  have hfields := (h markupNames _ markupNames_lawful hfits).1
  rw [hfits.configPage_eq, inputFields_printed_iff markupNames_lawful] at hfields
  exact absurd (hfields _ List.mem_cons_self).1 (by decide)

end EspFirewall
