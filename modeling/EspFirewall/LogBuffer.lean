import EspFirewall.General.Printf

/-!
# The log (`log_buffer.c`)

`add_log_line` formats its arguments into the current line of a ring of `LOG_BUFFER_SIZE` lines
and moves on to the next.  It is variadic, and its first argument is the *format*.

The functions of the other files do not carry the ring around.  What they do to the log is
recorded as the list of the calls they make, a `LogCall` being the format and the arguments of one
call, and what a call does to the ring is `addLogLine`.
-/

set_option autoImplicit false

namespace EspFirewall

open CLang

/-- `LOG_BUFFER_SIZE`. -/
abbrev LOG_BUFFER_SIZE : ℕ := 100

/-- `LOG_LINE_MAX_LEN`. -/
abbrev LOG_LINE_MAX_LEN : ℕ := 128

instance : NeZero LOG_LINE_MAX_LEN := ⟨by decide⟩

/-- One call of `add_log_line`. -/
structure LogCall where
  /-- The format. -/
  format : CString
  /-- The arguments behind it. -/
  args : List Arg
deriving DecidableEq

/-- A call whose format is a literal of the source. -/
def LogCall.fmt (s : String) (args : List Arg) : LogCall := ⟨.lit s, args⟩

/-- A call that passes a text it was given as its format: `add_log_line(text)`. -/
def LogCall.text (s : CString) : LogCall := ⟨s, []⟩

/-- `log_buffer` and `log_index`. -/
structure LogBuffer where
  /-- The lines, `char[LOG_LINE_MAX_LEN]` each. -/
  lines : Fin LOG_BUFFER_SIZE → CharBuf LOG_LINE_MAX_LEN
  /-- The line the next call writes. -/
  index : ℕ
  /-- There is such a line. -/
  index_lt : index < LOG_BUFFER_SIZE

namespace LogBuffer

/-- The line the next call writes. -/
def slot (log : LogBuffer) : Fin LOG_BUFFER_SIZE := ⟨log.index, log.index_lt⟩

/-- The log after a reset: empty lines, starting at the first. -/
def empty : LogBuffer := ⟨fun _ => .zero, 0, by decide⟩

end LogBuffer

/-- Write one line and advance: what is left of `add_log_line` once the text is there. -/
def LogBuffer.push (log : LogBuffer) (line : CharBuf LOG_LINE_MAX_LEN) : LogBuffer where
  lines := Function.update log.lines log.slot line
  index := (log.index + 1) % LOG_BUFFER_SIZE
  index_lt := Nat.mod_lt _ (by decide)

/-- `add_log_line`: `vsnprintf` into the current line, then advance; `none` when the call of
`vsnprintf` is undefined. -/
def addLogLine (log : LogBuffer) (call : LogCall) : Option LogBuffer :=
  match vsnprintf call.format call.args with
  | some line => some (log.push line)
  | none => none

/-- The call is defined: `vsnprintf` finds every argument that the format asks for.  What is in the
log does not matter for that. -/
def LogCall.defined (call : LogCall) : Bool := (addLogLine .empty call).isSome

/-- A text that is passed as the format must not ask for anything. -/
theorem LogCall.defined_text {d : CString} :
    (LogCall.text d).defined = true ↔ PercentsPaired d.bytes := by
  rw [defined, text, addLogLine, vsnprintf, format_nil, PercentsPaired]
  cases undouble d.bytes <;> exact Iff.rfl

/-! ## What a call stores -/

theorem format_nil_nulFree {d out : Bytes} (hd : 0 ∉ d) (h : format d [] = some out) :
    0 ∉ out := by
  rw [format_nil] at h
  induction d using undouble.induct generalizing out with
  | case1 => cases h; exact hd
  | case2 => simp [undouble] at h
  | case3 b hb => rw [undouble, if_neg hb] at h; cases h; exact hd
  | case4 bs ih =>
    rw [undouble_percent, Option.map_eq_some_iff] at h
    obtain ⟨o, ho, rfl⟩ := h
    simp only [List.mem_cons, not_or] at hd ⊢
    exact ⟨hd.1, ih hd.2.2 ho⟩
  | case5 c bs hc => simp [undouble, hc] at h
  | case6 b c bs hb ih =>
    rw [undouble_cons_of_ne hb, Option.map_eq_some_iff] at h
    obtain ⟨o, ho, rfl⟩ := h
    rw [List.mem_cons, not_or] at hd ⊢
    exact ⟨hd.1, ih hd.2 ho⟩

/-- The text `d`, passed as the format, is logged as data: the call is defined, so consumes no
argument it was not passed, and the current line holds the first 127 bytes of `d`. -/
def LoggedAsData (log : LogBuffer) (d : CString) : Prop :=
  ∃ log', addLogLine log (.text d) = some log' ∧
    (log'.lines log.slot).str = d.take (LOG_LINE_MAX_LEN - 1)

@[simp] theorem LogBuffer.push_lines_slot (log : LogBuffer) (line : CharBuf LOG_LINE_MAX_LEN) :
    (log.push line).lines log.slot = line := Function.update_self ..

/-- A call without arguments stores the text that its format prints. -/
theorem addLogLine_text {log log' : LogBuffer} {d : CString} :
    addLogLine log (.text d) = some log' ↔
      ∃ out, format d.bytes [] = some out ∧ log' = log.push (.strncpy (.ofMem out)) := by
  rw [addLogLine, LogCall.text, vsnprintf]
  cases format d.bytes [] with
  | none => simp
  | some out => simp [eq_comm]

/-- **A text is logged as data exactly when it prints itself.** -/
theorem loggedAsData_iff (log : LogBuffer) (d : CString) :
    LoggedAsData log d ↔ PrintsItself (LOG_LINE_MAX_LEN - 1) d.bytes := by
  rw [← printsItself_iff, LoggedAsData]
  have hline : ∀ out, format d.bytes [] = some out →
      (((log.push (.strncpy (.ofMem out))).lines log.slot).str = d.take (LOG_LINE_MAX_LEN - 1) ↔
        out.take (LOG_LINE_MAX_LEN - 1) = d.bytes.take (LOG_LINE_MAX_LEN - 1)) := by
    intro out hout
    have hnul := CString.ofMem_bytes (format_nil_nulFree d.nulFree hout)
    rw [LogBuffer.push_lines_slot, CharBuf.strncpy_str, CString.ext_iff, CString.take_bytes,
      CString.take_bytes, hnul]
  constructor
  · rintro ⟨log', hlog, hstr⟩
    obtain ⟨out, hout, rfl⟩ := addLogLine_text.1 hlog
    exact ⟨out, hout, (hline out hout).1 hstr⟩
  · rintro ⟨out, hout, hcut⟩
    exact ⟨_, addLogLine_text.2 ⟨out, hout, rfl⟩, (hline out hout).2 hcut⟩

end EspFirewall
