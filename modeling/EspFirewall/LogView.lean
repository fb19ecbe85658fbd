import EspFirewall.General.RingBuffer
import EspFirewall.LogBuffer

/-!
# Reading the log (`logs_data_handler`)

`logs_data_handler` sends the lines of the log, from the one that is overwritten next, and leaves the
empty ones out.  `logsData_latest` says what that comes to: the messages of the last hundred calls
of `add_log_line`, oldest first, each cut to the length of a line.
-/

set_option autoImplicit false

namespace EspFirewall

open CLang

/-- The length of `line` in `logs_data_handler`. -/
abbrev LOG_CHUNK_SIZE : ℕ := LOG_LINE_MAX_LEN + 10

instance : NeZero LOG_CHUNK_SIZE := ⟨by decide⟩

/-- `logs_data_handler`: the chunks that it sends, up to the last one, which is empty. -/
def logsDataHandler (log : LogBuffer) : Option (List (CharBuf LOG_CHUNK_SIZE)) :=
  let lines := (List.range LOG_BUFFER_SIZE).map fun i =>
    (log.lines ⟨(log.index + i) % LOG_BUFFER_SIZE, Nat.mod_lt _ (by decide)⟩).str
  (lines.filter fun line => 0 < line.strlen).mapM fun line =>
    vsnprintf (.lit "%s\n") [.str line]

/-- The message of a call, or `none` when its format does not fit its arguments. -/
def LogCall.message (call : LogCall) : Option CString :=
  (CLang.format call.format.bytes call.args).map .ofMem

/-- Some calls, one after the other. -/
def addLogLines (log : LogBuffer) (calls : List LogCall) : Option LogBuffer :=
  calls.foldlM addLogLine log

/-- The line that a message leaves in the log. -/
def logLine (message : CString) : CharBuf LOG_LINE_MAX_LEN :=
  -- Arrays of other modules have 128 bytes too, and instances of their own for that.
  @CharBuf.strncpy LOG_LINE_MAX_LEN ⟨by decide⟩ message

/-- What is sent of a message. -/
def sentLine (message : CString) : Bytes :=
  message.bytes.take (LOG_LINE_MAX_LEN - 1) ++ [10]

/-! ## The log as a ring -/

/-- The log is a ring of lines. -/
def LogBuffer.ring (log : LogBuffer) : RingBuffer LOG_BUFFER_SIZE (CharBuf LOG_LINE_MAX_LEN) :=
  ⟨log.lines, log.index, log.index_lt⟩

theorem addLogLine_ring (log : LogBuffer) {call : LogCall} {message : CString}
    (h : call.message = some message) :
    ∃ log', addLogLine log call = some log' ∧ log'.ring = log.ring.push (logLine message) := by
  obtain ⟨out, hout, rfl⟩ := Option.map_eq_some_iff.1 h
  refine ⟨log.push (logLine (.ofMem out)), ?_, rfl⟩
  rw [addLogLine, vsnprintf, hout]
  rfl

/-- **A run of `add_log_line` writes a ring.** -/
theorem addLogLines_ring {calls : List LogCall} {messages : List CString}
    (h : calls.mapM LogCall.message = some messages) (log : LogBuffer) :
    ∃ log', addLogLines log calls = some log' ∧
      log'.ring = log.ring.pushAll (messages.map logLine) := by
  induction calls generalizing log messages with
  | nil =>
    cases h
    exact ⟨log, rfl, rfl⟩
  | cons call calls ih =>
    rw [List.mapM_cons, Option.bind_eq_bind, Option.bind_eq_some_iff] at h
    obtain ⟨message, hmessage, hrest⟩ := h
    rw [Option.bind_eq_bind, Option.bind_eq_some_iff] at hrest
    obtain ⟨messages', hmessages, heq⟩ := hrest
    obtain rfl := Option.some.inj heq
    obtain ⟨log', hlog', hring⟩ := addLogLine_ring log hmessage
    obtain ⟨log'', hlog'', hring'⟩ := ih hmessages log'
    refine ⟨log'', ?_, ?_⟩
    · rw [addLogLines, List.foldlM_cons, hlog']
      exact hlog''
    · rw [hring', hring]
      rfl

/-! ## What is sent -/

/-- The reader goes through the ring. -/
theorem logsDataHandler_eq (log : LogBuffer) :
    logsDataHandler log =
      ((log.ring.toList.map CharBuf.str).filter fun line => 0 < line.strlen).mapM fun line =>
        vsnprintf (.lit "%s\n") [.str line] := by
  have hlines : (List.range LOG_BUFFER_SIZE).map (fun i =>
      (log.lines ⟨(log.index + i) % LOG_BUFFER_SIZE, Nat.mod_lt _ (by decide)⟩).str) =
        log.ring.toList.map CharBuf.str := by
    refine List.ext_getElem ?_ fun i _ _ => ?_
    · rw [List.length_map, List.length_map, List.length_range, RingBuffer.toList_length]
    · rw [List.getElem_map, List.getElem_map, List.getElem_range, RingBuffer.toList_getElem]
      rfl
  rw [logsDataHandler, hlines]

/-- The chunk for a line. -/
def logChunk (line : CString) : CharBuf LOG_CHUNK_SIZE := .strncpy (.ofMem (line.bytes ++ [10]))

theorem vsnprintf_line (line : CString) :
    vsnprintf (.lit "%s\n") [.str line] = some (logChunk line) := by
  have hfmt : (CString.lit "%s\n").bytes = [37, 115, 10] := by decide
  have htext : format [37, 115, 10] [.str line] = some (line.bytes ++ [10]) := by
    simp [format, formatFrom, directive, Spec.pad, Spec.start]
  rw [vsnprintf, hfmt, htext]
  rfl

/-- A line and its newline fit into the chunk. -/
theorem logChunk_bytes {line : CString} (h : line.strlen < LOG_LINE_MAX_LEN) :
    (logChunk line).str.bytes = line.bytes ++ [10] := by
  have hnul : 0 ∉ line.bytes ++ [10] := by
    rw [List.mem_append, not_or]
    exact ⟨line.nulFree, by decide⟩
  have hlen : (CString.ofMem (line.bytes ++ [10])).strlen < LOG_CHUNK_SIZE := by
    rw [CString.strlen, CString.ofMem_bytes hnul, List.length_append, List.length_singleton]
    exact Nat.lt_of_lt_of_le (Nat.succ_lt_succ h) (by decide)
  rw [logChunk, CharBuf.strncpy_str_of_lt hlen, CString.ofMem_bytes hnul]

/-- An empty line is that of an empty message. -/
theorem logLine_strlen_pos_iff (message : CString) :
    0 < (logLine message).str.strlen ↔ 0 < message.strlen := by
  rw [logLine, CharBuf.strncpy_str, CString.strlen, CString.take_bytes, List.length_take,
    CString.strlen]
  exact Nat.lt_min.trans (and_iff_right (by decide))

/-- **The log shows the latest messages.**  Behind any run of `add_log_line`, the index is that of a
line, and the handler sends the messages of the last hundred calls that are not empty, oldest first,
each cut to the length of a line and with a newline behind it. -/
theorem logsData_latest {calls : List LogCall} {messages : List CString}
    (h : calls.mapM LogCall.message = some messages) :
    ∃ log chunks, addLogLines .empty calls = some log ∧
      log.index = messages.length % LOG_BUFFER_SIZE ∧ log.index < LOG_BUFFER_SIZE ∧
      logsDataHandler log = some chunks ∧
      chunks.map (fun chunk => chunk.str.bytes) =
        ((messages.rtake LOG_BUFFER_SIZE).filter fun m => 0 < m.strlen).map sentLine := by
  obtain ⟨log, hlog, hring⟩ := addLogLines_ring h .empty
  have hempty : LogBuffer.empty.ring = .filled (by decide) .zero := rfl
  rw [hempty] at hring
  have hindex : log.index = messages.length % LOG_BUFFER_SIZE := by
    have hpush := congrArg RingBuffer.index hring
    rw [RingBuffer.index_pushAll, List.length_map] at hpush
    rw [← Nat.zero_add messages.length]
    exact hpush
  -- The lines that were never written are empty.
  have hlines : (log.ring.toList.map CharBuf.str).filter (fun line => 0 < line.strlen) =
      ((messages.rtake LOG_BUFFER_SIZE).filter fun m => 0 < m.strlen).map
        fun m => (logLine m).str := by
    have hfilter : (fun line : CString => decide (0 < line.strlen)) ∘
        (fun m => (logLine m).str) = fun m => decide (0 < m.strlen) :=
      funext fun m => decide_eq_decide.2 (logLine_strlen_pos_iff m)
    rw [hring, RingBuffer.toList_filled_pushAll, List.map_append, List.filter_append,
      List.map_replicate, List.filter_replicate_of_neg (by decide), List.nil_append, List.rtake,
      List.length_map, ← List.map_drop, List.map_map, ← List.rtake]
    rw [List.filter_map]
    exact congrArg _ (congrArg (List.filter · _) hfilter)
  refine ⟨log, ((messages.rtake LOG_BUFFER_SIZE).filter fun m => 0 < m.strlen).map
    fun m => logChunk (logLine m).str, hlog, hindex, log.index_lt, ?_, ?_⟩
  · rw [logsDataHandler_eq, hlines]
    have hmap (lines : List CString) : lines.mapM (fun line => some (logChunk line)) =
        some (lines.map logChunk) := List.mapM_pure
    simp only [vsnprintf_line, hmap, List.map_map]
    rfl
  · rw [List.map_map]
    refine List.map_congr_left fun m _ => ?_
    exact logChunk_bytes (logLine m).fits

/-- Three calls, the second of which logs nothing. -/
def threeCalls : List LogCall :=
  [.fmt "Packet filter initialized" [], .text .empty,
    .fmt "Service BLOCK proto=%d port=%d" [.int 6, .int 22]]

/-- Two lines are sent of them. -/
theorem logsData_latest_three : ∃ log chunks, addLogLines .empty threeCalls = some log ∧
    logsDataHandler log = some chunks ∧ chunks.map (fun chunk => chunk.str.bytes) =
      [ascii "Packet filter initialized\n", ascii "Service BLOCK proto=6 port=22\n"] := by
  have hmessages : threeCalls.mapM LogCall.message =
      some [.lit "Packet filter initialized", .empty, .lit "Service BLOCK proto=6 port=22"] := by
    decide
  obtain ⟨log, chunks, hlog, -, -, hchunks, hsent⟩ := logsData_latest hmessages
  refine ⟨log, chunks, hlog, hchunks, hsent.trans ?_⟩
  decide

end EspFirewall
