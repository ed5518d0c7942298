import MultiCore.Daemon.CoreSessions
import MultiCore.Library.Run

/-!
# The event log

The daemon keeps its newest events in memory and appends each as a line of JSON
to a file, which is emptied when it would grow too large. A start reads the file
back and goes on at its end. A stop can leave any part of the line being written.
The events are read back as long as such a part is text that ends before the
text of the event does, and nothing is appended to it.
-/

namespace MultiCore.Daemon

open Transition (Edge Run)

/-- `MAX_RETAINED_EVENTS`. -/
def maxRetainedEvents : Nat := 512

/-- `MAX_PERSISTENT_EVENT_LOG_BYTES`, one mebibyte. -/
def maxPersistentEventLogBytes : Nat := 1048576

/-- The JSON text of an event. -/
structure EventJson (E : Type) where
  toString : E → Option (List Char)
  fromStr : List Char → Option E

/-- What is relied on of the text of an event: it is one line, it is read as the event, and no
beginning of it is read as an event. -/
structure EventJson.Handles {E : Type} (json : EventJson E) (event : E) : Prop where
  noBreak : ∀ text, json.toString event = some text → '\n' ∉ text ∧ '\r' ∉ text
  fromStr_toString : ∀ text, json.toString event = some text → json.fromStr text = some event
  unfinished : ∀ text start rest, json.toString event = some text → text = start ++ rest →
    rest ≠ [] → json.fromStr start = none

/-- The file as the daemon writes it: where its end is, and whether a write failed. -/
structure PersistentEventSink where
  bytesWritten : Nat
  disabled : Bool
  deriving DecidableEq, Repr

/-- How far the writing of a line comes, before an error or the end of the process. -/
inductive Progress where
  /-- The line and all that was there before. -/
  | whole
  /-- Nothing was changed. -/
  | refused
  /-- The file was emptied if it had to be, and of the line so many bytes were written. -/
  | upTo (count : Nat)
  deriving DecidableEq, Repr

/-- Bytes written at a place of a file. -/
def writeAt (file : List UInt8) (place : Nat) (bytes : List UInt8) : List UInt8 :=
  file.takeD place 0 ++ bytes ++ file.drop (place + bytes.length)

namespace PersistentEventSink

/-- `PersistentEventSink::new`: the length is that of the file. -/
def new (file : List UInt8) : PersistentEventSink := ⟨file.length, false⟩

/-- Whether the file is emptied before the line is written. -/
def clears (sink : PersistentEventSink) (bytes : List UInt8) : Bool :=
  maxPersistentEventLogBytes < sink.bytesWritten + bytes.length

/-- `write_line`: a full file is cleared first, and a failed write disables the sink. -/
def writeLine (sink : PersistentEventSink) (file : List UInt8) (line : List Char)
    (progress : Progress) : PersistentEventSink × List UInt8 :=
  if sink.disabled then (sink, file)
  else
    let bytes := Utf8.encode line ++ [Utf8.newline]
    let kept := if sink.clears bytes then [] else file
    let place := if sink.clears bytes then 0 else sink.bytesWritten
    match progress with
    | .whole => (⟨place + bytes.length, false⟩, writeAt kept place bytes)
    | .refused => (⟨sink.bytesWritten, true⟩, file)
    | .upTo count => (⟨place, true⟩, writeAt kept place (bytes.take count))

end PersistentEventSink

/-- `EventBuffer`: what clients may page through, and the sink on disk. -/
structure EventBuffer (E : Type) where
  entries : List (Nat × E)
  nextEventId : Nat
  persistent : Option PersistentEventSink

namespace EventBuffer

variable {E : Type}

/-- `EventBuffer::new`: the first event is number one. -/
def new : EventBuffer E := ⟨[], 1, none⟩

/-- `push_with`: the oldest event makes room. -/
def pushWith (buffer : EventBuffer E) (build : Nat → E) : EventBuffer E :=
  let id := buffer.nextEventId
  let kept := if buffer.entries.length = maxRetainedEvents then buffer.entries.tail
    else buffer.entries
  { buffer with entries := kept ++ [(id, build id)], nextEventId := id + 1 }

/-- The events in their order. -/
def events (buffer : EventBuffer E) : List E := buffer.entries.map Prod.snd

end EventBuffer

/-- The file of the log, if there is one, and the events in memory. -/
structure EventLog (E : Type) where
  file : Option (List UInt8)
  buffer : EventBuffer E

/-- What happens to the log. -/
inductive EventStep (E : Type) where
  /-- Something is recorded. -/
  | event (build : Nat → E) (progress : Progress)
  /-- The process stops, where it is, and another one starts; it can open the file or not. -/
  | restart (opened : Bool)

section Log

variable {E : Type} (json : EventJson E)

/-- `load_persisted_events`: the lines that parse, of a file that is text. -/
def loadPersistedEvents (file : Option (List UInt8)) : List E :=
  match file.bind Utf8.fromUtf8 with
  | none => []
  | some contents => (strLines contents).filterMap json.fromStr

namespace EventLog

/-- The bytes of the file. -/
def bytes (log : EventLog E) : List UInt8 := log.file.getD []

/-- `persistent_or_memory`: the events of the file, and a sink where it opens. -/
def persistentOrMemory (file : Option (List UInt8)) (opened : Bool) : EventLog E :=
  let loaded := (loadPersistedEvents json file).foldl (fun buffer event =>
    buffer.pushWith fun _ => event) EventBuffer.new
  if opened then
    let contents := file.getD []
    ⟨some contents, { loaded with persistent := some (.new contents) }⟩
  else ⟨file, loaded⟩

/-- An event is kept in memory and written to the sink. -/
def pushEventWith (log : EventLog E) (build : Nat → E) (progress : Progress) : EventLog E :=
  let buffer := log.buffer.pushWith build
  match buffer.persistent, json.toString (build log.buffer.nextEventId) with
  | some sink, some line =>
    let (sink, file) := sink.writeLine log.bytes line progress
    ⟨some file, { buffer with persistent := some sink }⟩
  | _, _ => ⟨log.file, buffer⟩

/-- One step: an event, or a restart of the daemon. -/
def step (log : EventLog E) : EventStep E → EventLog E
  | .event build progress => log.pushEventWith json build progress
  | .restart opened => persistentOrMemory json log.file opened

/-- The line an event is written as, and what writes it. -/
def line (log : EventLog E) (build : Nat → E) : Option (PersistentEventSink × List Char) :=
  match log.buffer.persistent, json.toString (build log.buffer.nextEventId) with
  | some sink, some text => if sink.disabled then none else some (sink, text)
  | _, _ => none

end EventLog

/-- A log, and the events whose lines were written in full since it was last emptied. -/
structure Recorded (E : Type) where
  log : EventLog E
  written : List E

namespace Recorded

/-- Nothing written and nothing kept. -/
def start : Recorded E := ⟨⟨none, .new⟩, []⟩

/-- The events written in full, after one more step. -/
def writtenAfter (recorded : Recorded E) : EventStep E → List E
  | .restart _ => recorded.written
  | .event build progress =>
    match recorded.log.line json build with
    | none => recorded.written
    | some (sink, text) =>
      let bytes := Utf8.encode text ++ [Utf8.newline]
      let kept := if sink.clears bytes then [] else recorded.written
      match progress with
      | .whole => kept ++ [build recorded.log.buffer.nextEventId]
      | .refused => recorded.written
      | .upTo count =>
        if bytes.length ≤ count then kept ++ [build recorded.log.buffer.nextEventId] else kept

/-- The step, with the record of what reached the file. -/
def step (recorded : Recorded E) (label : EventStep E) : Recorded E :=
  ⟨recorded.log.step json label, recorded.writtenAfter json label⟩

/-- A line goes to the end of the file's last line, or into an emptied file, and what is left of it
is text that ends before the text of the event does. -/
def Regular (recorded : Recorded E) : EventStep E → Prop
  | .restart _ => True
  | .event build progress =>
    ∀ sink text, recorded.log.line json build = some (sink, text) →
      let bytes := Utf8.encode text ++ [Utf8.newline]
      (progress = .refused ∨ progress = .upTo 0 ∨ sink.clears bytes = true ∨
        Lines.Ends Utf8.newline recorded.log.bytes) ∧
      ∀ count, progress = .upTo count → count < bytes.length →
        (Utf8.fromUtf8 (bytes.take count)).isSome = true ∧ count ≠ (Utf8.encode text).length

end Recorded

/-- The newest of some events, as many as are retained. -/
def newest (events : List E) : List E := events.drop (events.length - maxRetainedEvents)

/-- All events that the steps record are handled by the JSON library. -/
def Handled (edges : List (Edge (Recorded E) (EventStep E))) : Prop :=
  ∀ edge ∈ edges, ∀ build progress, edge.label = .event build progress →
    ∀ id, json.Handles (build id)

/-- Every start reads back, in order, the newest of the events written in full. -/
def Recovers (edges : List (Edge (Recorded E) (EventStep E))) : Prop :=
  ∀ edge ∈ edges, ∀ opened, edge.label = .restart opened →
    edge.target.log.buffer.events = newest edge.source.written

end Log

section Buffer

variable {E : Type}

/-- The newest events once one more is there. -/
theorem newest_concat (events : List E) (event : E) :
    newest (events ++ [event]) =
      (if (newest events).length = maxRetainedEvents then (newest events).tail
        else newest events) ++ [event] := by
  have hmax : 0 < maxRetainedEvents := by decide
  have hlength : (newest events).length = events.length - (events.length - maxRetainedEvents) :=
    List.length_drop
  by_cases hfull : (newest events).length = maxRetainedEvents
  · have hplace : (events ++ [event]).length - maxRetainedEvents =
        events.length - maxRetainedEvents + 1 := by
      rw [List.length_append, List.length_singleton]
      omega
    rw [if_pos hfull, newest, hplace, List.drop_append_of_le_length (by omega), newest,
      List.tail_drop]
  · have hplace : (events ++ [event]).length - maxRetainedEvents =
        events.length - maxRetainedEvents := by
      rw [List.length_append, List.length_singleton]
      omega
    rw [if_neg hfull, newest, hplace, List.drop_append_of_le_length (by omega), newest]

theorem events_pushWith (buffer : EventBuffer E) (build : Nat → E) :
    (buffer.pushWith build).events =
      (if buffer.events.length = maxRetainedEvents then buffer.events.tail else buffer.events) ++
        [build buffer.nextEventId] := by
  have hlength : buffer.events.length = buffer.entries.length := List.length_map _
  rw [EventBuffer.pushWith, EventBuffer.events, List.map_append, hlength]
  by_cases hfull : buffer.entries.length = maxRetainedEvents
  · rw [if_pos hfull, if_pos hfull, List.map_tail]
    rfl
  · rw [if_neg hfull, if_neg hfull]
    rfl

/-- Of the events read back the newest stay. -/
theorem events_loaded (events : List E) :
    (events.foldl (fun buffer event => buffer.pushWith fun _ => event)
      EventBuffer.new).events = newest events := by
  induction events using List.reverseRecOn with
  | nil => exact List.drop_nil.symm
  | append_singleton events event ih =>
    rw [List.foldl_append, List.foldl_cons, List.foldl_nil, events_pushWith, ih, newest_concat]

end Buffer

section Rows

variable {E : Type} {json : EventJson E}

/-- The text of some events, a line each. -/
def rows (json : EventJson E) (events : List E) : List Char :=
  events.flatMap fun event => (json.toString event).getD [] ++ ['\n']

theorem encode_append (text other : List Char) :
    Utf8.encode (text ++ other) = Utf8.encode text ++ Utf8.encode other := List.flatMap_append

theorem encode_line (text : List Char) :
    Utf8.encode (text ++ ['\n']) = Utf8.encode text ++ [Utf8.newline] := encode_append text ['\n']

theorem rows_concat {events : List E} {event : E} {text : List Char}
    (htext : json.toString event = some text) :
    Utf8.encode (rows json (events ++ [event])) =
      Utf8.encode (rows json events) ++ (Utf8.encode text ++ [Utf8.newline]) := by
  rw [rows, List.flatMap_append, List.flatMap_singleton, htext, Option.getD_some, encode_append,
    encode_line]
  rfl

/-- Whole lines are read back, whatever follows them. -/
theorem load_rows {events : List E}
    (h : ∀ event ∈ events, json.Handles event ∧ (json.toString event).isSome = true)
    (text : List Char) :
    (strLines (rows json events ++ text)).filterMap json.fromStr =
      events ++ (strLines text).filterMap json.fromStr := by
  induction events with
  | nil => rfl
  | cons event events ih =>
    obtain ⟨hjson, hsome⟩ := h event List.mem_cons_self
    obtain ⟨line, hline⟩ := Option.isSome_iff_exists.1 hsome
    have hrest := ih fun other hother => h other (List.mem_cons_of_mem _ hother)
    rw [rows, List.flatMap_cons, hline, Option.getD_some, List.append_assoc, List.append_assoc,
      List.singleton_append, strLines_line (hjson.noBreak line hline),
      List.filterMap_cons_some (hjson.fromStr_toString line hline)]
    exact congrArg (event :: ·) hrest

/-- What is no event is not read as one. -/
theorem load_unfinished {text : List Char} (hline : '\n' ∉ text)
    (hnone : text = [] ∨ json.fromStr text = none) :
    (strLines text).filterMap json.fromStr = [] := by
  by_cases hempty : text = []
  · rw [hempty]
    rfl
  · have hlast : text.getLast? ≠ some '\n' := fun h => hline (List.mem_of_getLast? h)
    have hchomp : chomp text = text := if_neg hlast
    have hread := hnone.resolve_left hempty
    rw [strLines, Lines.lines_unfinished hline hempty, List.map_singleton, hchomp,
      List.filterMap_cons_none hread, List.filterMap_nil]

theorem load_eq (file : Option (List UInt8)) {text : List Char}
    (h : Utf8.fromUtf8 (file.getD []) = some text) :
    loadPersistedEvents json file = (strLines text).filterMap json.fromStr := by
  cases file with
  | none =>
    have htext : some [] = some text := h
    rw [← Option.some.inj htext]
    rfl
  | some bytes =>
    have hbytes : (some bytes).bind Utf8.fromUtf8 = some text := h
    rw [loadPersistedEvents, hbytes]

end Rows

section Writing

theorem writeAt_length (file bytes : List UInt8) :
    writeAt file file.length bytes = file ++ bytes := by
  rw [writeAt, List.takeD_eq_take 0 (Nat.le_refl _), List.take_length,
    List.drop_eq_nil_of_le (Nat.le_add_right _ _), List.append_nil]

/-- A line goes to the end of what is kept of the file. -/
theorem writeLine_eq {sink : PersistentEventSink} {file : List UInt8} (line : List Char)
    (progress : Progress) (henabled : sink.disabled = false)
    (hplace : sink.bytesWritten = file.length) :
    let bytes := Utf8.encode line ++ [Utf8.newline]
    let kept := if sink.clears bytes then [] else file
    sink.writeLine file line progress =
      match progress with
      | .whole => (⟨kept.length + bytes.length, false⟩, kept ++ bytes)
      | .refused => (⟨sink.bytesWritten, true⟩, file)
      | .upTo count => (⟨kept.length, true⟩, kept ++ bytes.take count) := by
  intro bytes kept
  have hkept : (if sink.clears bytes then 0 else sink.bytesWritten) = kept.length := by
    rw [apply_ite List.length, List.length_nil, ← hplace]
  rw [PersistentEventSink.writeLine, if_neg (by rw [henabled]; exact Bool.false_ne_true)]
  cases progress with
  | whole => simp only [bytes, kept, hkept, writeAt_length]
  | refused => rfl
  | upTo count => simp only [bytes, kept, hkept, writeAt_length]

end Writing

section Steps

variable {E : Type} {json : EventJson E} {recorded : Recorded E}

/-- The file holds a line for every event that was written in full, and behind them text that is no
event; that is where the daemon writes. -/
structure Intact (json : EventJson E) (recorded : Recorded E) : Prop where
  handled : ∀ event ∈ recorded.written, json.Handles event ∧ (json.toString event).isSome = true
  content : ∃ torn text, recorded.log.bytes = Utf8.encode (rows json recorded.written) ++ torn ∧
    Utf8.fromUtf8 torn = some text ∧ '\n' ∉ text ∧ (text = [] ∨ json.fromStr text = none)
  place : ∀ sink, recorded.log.buffer.persistent = some sink → sink.disabled = false →
    sink.bytesWritten = recorded.log.bytes.length

theorem intact_start : Intact json (Recorded.start : Recorded E) := by
  constructor
  · exact fun event hmem => absurd hmem List.not_mem_nil
  · exact ⟨[], [], rfl, rfl, List.not_mem_nil, Or.inl rfl⟩
  · exact fun sink hsink => nomatch hsink

/-- What is read back are the events written in full. -/
theorem Intact.load (h : Intact json recorded) :
    loadPersistedEvents json recorded.log.file = recorded.written := by
  obtain ⟨torn, text, hbytes, htext, hline, hnone⟩ := h.content
  have hfile : Utf8.fromUtf8 (recorded.log.file.getD []) =
      some (rows json recorded.written ++ text) := by
    have happend := Utf8.fromUtf8_append (Utf8.fromUtf8_encode (rows json recorded.written)) htext
    rw [← hbytes] at happend
    exact happend
  rw [load_eq _ hfile, load_rows h.handled, load_unfinished hline hnone, List.append_nil]

theorem line_eq_some {log : EventLog E} {build : Nat → E} {sink : PersistentEventSink}
    {text : List Char} (h : log.line json build = some (sink, text)) :
    log.buffer.persistent = some sink ∧ sink.disabled = false ∧
      json.toString (build log.buffer.nextEventId) = some text := by
  unfold EventLog.line at h
  split at h
  · rename_i sink' text' hsink htext
    split_ifs at h with hdisabled
    obtain ⟨rfl, rfl⟩ := Prod.mk.inj (Option.some.inj h)
    exact ⟨hsink, by simpa using hdisabled, htext⟩
  · exact nomatch h

/-- Where a line is written. -/
theorem pushEventWith_line {log : EventLog E} {build : Nat → E} {sink : PersistentEventSink}
    {text : List Char} (h : log.line json build = some (sink, text)) (progress : Progress) :
    (log.pushEventWith json build progress).bytes =
        (sink.writeLine log.bytes text progress).2 ∧
      (log.pushEventWith json build progress).buffer.persistent =
        some (sink.writeLine log.bytes text progress).1 := by
  obtain ⟨hsink, -, htext⟩ := line_eq_some h
  have hpersistent : (log.buffer.pushWith build).persistent = some sink := hsink
  rw [EventLog.pushEventWith]
  simp only [hpersistent, htext, and_true]
  rfl

/-- Where none is, the file stays as it is, and who writes it. -/
theorem pushEventWith_quiet {log : EventLog E} {build : Nat → E}
    (h : log.line json build = none) (progress : Progress) :
    (log.pushEventWith json build progress).bytes = log.bytes ∧
      (log.pushEventWith json build progress).buffer.persistent = log.buffer.persistent := by
  unfold EventLog.line at h
  rw [EventLog.pushEventWith]
  cases hsink : log.buffer.persistent with
  | none =>
    have hpersistent : (log.buffer.pushWith build).persistent = none := hsink
    simp only [hpersistent, and_true]
    rfl
  | some sink =>
    have hpersistent : (log.buffer.pushWith build).persistent = some sink := hsink
    cases htext : json.toString (build log.buffer.nextEventId) with
    | none =>
      simp only [hpersistent, and_true]
      rfl
    | some text =>
      simp only [hsink, htext] at h
      have hdisabled : sink.disabled = true := by
        by_contra hnot
        rw [if_neg hnot] at h
        exact nomatch h
      simp only [hpersistent, PersistentEventSink.writeLine, if_pos hdisabled, and_true]
      rfl

/-- A part of a line that is text is the beginning of the line's text. -/
theorem torn_prefix {text torn : List Char} {count : Nat} (hline : '\n' ∉ text)
    (hcount : count < (Utf8.encode text ++ [Utf8.newline]).length)
    (hshort : count ≠ (Utf8.encode text).length)
    (htorn : Utf8.fromUtf8 ((Utf8.encode text ++ [Utf8.newline]).take count) = some torn) :
    '\n' ∉ torn ∧ ∃ rest, text = torn ++ rest ∧ rest ≠ [] := by
  rw [List.length_append, List.length_singleton] at hcount
  rw [List.take_append_of_le_length (by omega)] at htorn
  obtain ⟨hvalid, hlossy⟩ := Utf8.fromUtf8_eq_some.1 htorn
  obtain ⟨hdecode, hsame⟩ := Utf8.reads_of_valid hvalid ((Utf8.encode text).drop count)
  obtain ⟨hall, hlossyAll⟩ := Utf8.fromUtf8_eq_some.1 (Utf8.fromUtf8_encode text)
  rw [Utf8.fromUtf8Lossy] at hlossy hlossyAll
  rw [List.take_append_drop, hlossyAll, hlossy] at hdecode
  rw [List.take_append_drop, hall] at hsame
  have hrest := Utf8.fromUtf8_ne_nil (Utf8.fromUtf8_eq_some.2 ⟨hsame.symm, rfl⟩) (by
    rw [ne_eq, List.drop_eq_nil_iff]
    omega)
  refine ⟨?_, _, hdecode, hrest⟩
  intro hmem
  rw [hdecode] at hline
  exact hline (List.mem_append_left _ hmem)

/-- Where the file ends by a line feed, whole lines are all that it has. -/
theorem Intact.whole (h : Intact json recorded)
    (hends : Lines.Ends Utf8.newline recorded.log.bytes) :
    recorded.log.bytes = Utf8.encode (rows json recorded.written) := by
  obtain ⟨torn, text, hbytes, htext, hline, -⟩ := h.content
  have hnewline : Utf8.newline ∉ torn := by
    intro hmem
    have hchar := Utf8.mem_of_ascii htext hmem (by decide)
    exact hline hchar
  rw [hbytes] at hends ⊢
  rcases hends.of_append with hnone | hlast
  · rw [hnone, List.append_nil]
  · exact absurd (List.mem_of_getLast? hlast) hnewline

/-- What is kept of a file that is emptied, or ends where a line does. -/
theorem Intact.base (h : Intact json recorded) {clears : Bool}
    (hends : clears = true ∨ Lines.Ends Utf8.newline recorded.log.bytes) :
    (if clears then [] else recorded.log.bytes) =
      Utf8.encode (rows json (if clears then [] else recorded.written)) := by
  cases clears with
  | true => rfl
  | false => exact h.whole (hends.resolve_left Bool.false_ne_true)

/-- A start keeps the file, and goes on at its end. -/
theorem Intact.restart (h : Intact json recorded) (opened : Bool) :
    Intact json (recorded.step json (.restart opened)) := by
  have hbytes : (recorded.step json (.restart opened)).log.bytes = recorded.log.bytes := by
    cases opened <;> rfl
  obtain ⟨torn, text, hcontent, htext, hline, hnone⟩ := h.content
  refine ⟨h.handled, ⟨torn, text, hbytes.trans hcontent, htext, hline, hnone⟩, ?_⟩
  intro sink hsink _
  rw [hbytes]
  cases opened with
  | true =>
    have hnew : some (PersistentEventSink.new recorded.log.bytes) = some sink := hsink
    rw [← Option.some.inj hnew]
    rfl
  | false =>
    have hloaded (events : List E) : (events.foldl (fun buffer event =>
        buffer.pushWith fun _ => event) EventBuffer.new).persistent = none := by
      induction events using List.reverseRecOn with
      | nil => rfl
      | append_singleton events event ih =>
        rw [List.foldl_append, List.foldl_cons, List.foldl_nil]
        exact ih
    have hsome := (hloaded _).symm.trans hsink
    exact nomatch hsome

/-- What a line leaves when it was written in full. -/
theorem Intact.written {log : EventLog E} {events : List E} {event : E} {line : List Char}
    (hevents : ∀ other ∈ events, json.Handles other ∧ (json.toString other).isSome = true)
    (hjson : json.Handles event) (htoString : json.toString event = some line)
    (hbytes : log.bytes = Utf8.encode (rows json events) ++
      (Utf8.encode line ++ [Utf8.newline]))
    (hplace : ∀ sink, log.buffer.persistent = some sink → sink.disabled = false →
      sink.bytesWritten = log.bytes.length) : Intact json ⟨log, events ++ [event]⟩ := by
  refine ⟨?_, ⟨[], [], ?_, rfl, List.not_mem_nil, Or.inl rfl⟩, hplace⟩
  · intro other hother
    rcases List.mem_append.1 hother with hold | hnew
    · exact hevents other hold
    · rw [List.mem_singleton.1 hnew]
      exact ⟨hjson, Option.isSome_iff_exists.2 ⟨line, htoString⟩⟩
  · rw [hbytes, rows_concat htoString, List.append_nil]

/-- A regular line goes behind whole lines, and leaves whole lines or text that is no event. -/
theorem Intact.event (h : Intact json recorded) {build : Nat → E} {progress : Progress}
    (hjson : ∀ id, json.Handles (build id))
    (hregular : recorded.Regular json (.event build progress)) :
    Intact json (recorded.step json (.event build progress)) := by
  obtain ⟨torn, text, hcontent, htext, hline, hnone⟩ := h.content
  rw [Recorded.step, EventLog.step, Recorded.writtenAfter]
  cases hlog : recorded.log.line json build with
  | none =>
    obtain ⟨hbytes, hpersistent⟩ := pushEventWith_quiet hlog progress
    refine ⟨h.handled, ⟨torn, text, hbytes.trans hcontent, htext, hline, hnone⟩, ?_⟩
    intro sink hsink henabled
    rw [hbytes]
    exact h.place sink (hpersistent.symm.trans hsink) henabled
  | some found =>
    obtain ⟨sink, line⟩ := found
    obtain ⟨hsink, henabled, htoString⟩ := line_eq_some hlog
    obtain ⟨hbytes, hpersistent⟩ := pushEventWith_line hlog progress
    have hevent := hjson recorded.log.buffer.nextEventId
    have hlineText := (hevent.noBreak line htoString).1
    rw [writeLine_eq line progress henabled (h.place sink hsink henabled)] at hbytes hpersistent
    obtain ⟨happend, htorn⟩ := hregular sink line hlog
    have hkept : ∀ other ∈ (if sink.clears (Utf8.encode line ++ [Utf8.newline]) then []
        else recorded.written), json.Handles other ∧ (json.toString other).isSome = true := by
      intro other hother
      split_ifs at hother
      · exact absurd hother List.not_mem_nil
      · exact h.handled other hother
    cases progress with
    | whole =>
      have hbase := h.base (happend.resolve_left (nomatch ·) |>.resolve_left (nomatch ·))
      refine .written hkept hevent htoString (hbytes.trans (by rw [hbase])) ?_
      intro sink' hsink' _
      rw [hbytes, List.length_append, ← Option.some.inj (hpersistent.symm.trans hsink')]
    | refused =>
      refine ⟨h.handled, ⟨torn, text, hbytes.trans hcontent, htext, hline, hnone⟩, ?_⟩
      intro sink' hsink' henabled'
      rw [← Option.some.inj (hpersistent.symm.trans hsink')] at henabled'
      exact nomatch henabled'
    | upTo count =>
      have hdisabled (sink' : PersistentEventSink)
          (hsink' : (recorded.log.pushEventWith json build (.upTo count)).buffer.persistent =
            some sink') (henabled' : sink'.disabled = false) : False := by
        rw [← Option.some.inj (hpersistent.symm.trans hsink')] at henabled'
        exact nomatch henabled'
      have hplace (sink' : PersistentEventSink)
          (hsink' : (recorded.log.pushEventWith json build (.upTo count)).buffer.persistent =
            some sink') (henabled' : sink'.disabled = false) :
          sink'.bytesWritten =
            (recorded.log.pushEventWith json build (.upTo count)).bytes.length :=
        (hdisabled sink' hsink' henabled').elim
      dsimp only
      by_cases hfull : (Utf8.encode line ++ [Utf8.newline]).length ≤ count
      · rw [if_pos hfull]
        have hzero : count ≠ 0 := by
          rw [List.length_append, List.length_singleton] at hfull
          omega
        have hbase := h.base (happend.resolve_left (nomatch ·) |>.resolve_left
          fun heq => hzero (Progress.upTo.inj heq))
        dsimp only at hbytes
        rw [hbase, List.take_of_length_le hfull] at hbytes
        exact .written hkept hevent htoString hbytes hplace
      · rw [if_neg hfull]
        obtain ⟨hsome, hshort⟩ := htorn count rfl (Nat.lt_of_not_le hfull)
        obtain ⟨start, hstart⟩ := Option.isSome_iff_exists.1 hsome
        obtain ⟨hstartLine, rest, hsplit, hrest⟩ :=
          torn_prefix hlineText (Nat.lt_of_not_le hfull) hshort hstart
        have hunread := hevent.unfinished line start rest htoString hsplit hrest
        by_cases hends : sink.clears (Utf8.encode line ++ [Utf8.newline]) = true ∨
            Lines.Ends Utf8.newline recorded.log.bytes
        · exact ⟨hkept, ⟨_, start, hbytes.trans (by rw [h.base hends]), hstart, hstartLine,
            Or.inr hunread⟩, hplace⟩
        · have hzero : count = 0 := by
            rcases happend with heq | heq | hrest
            · exact nomatch heq
            · exact Progress.upTo.inj heq
            · exact absurd hrest hends
          have hclears : ¬sink.clears (Utf8.encode line ++ [Utf8.newline]) = true :=
            fun hclears => hends (Or.inl hclears)
          simp only [hzero, if_neg hclears, List.take_zero, List.append_nil] at hbytes
          rw [if_neg hclears]
          rw [← hzero] at hbytes
          exact ⟨h.handled, ⟨torn, text, hbytes.trans hcontent, htext, hline, hnone⟩, hplace⟩

end Steps

section Runs

variable {E : Type} {json : EventJson E}

/-- In a run of regular steps every start reads back the newest events. -/
theorem recovers_of_regular {edges : List (Edge (Recorded E) (EventStep E))} {last : Recorded E}
    (run : Run (fun recorded label next => recorded.step json label = next) Recorded.start edges
      last)
    (handled : Handled json edges)
    (regular : ∀ edge ∈ edges, edge.source.Regular json edge.label) : Recovers edges := by
  intro edge hedge opened hlabel
  obtain ⟨hstep, before, hbefore, hsub⟩ := run.edge_mem hedge
  have hintact : Intact json edge.source := by
    refine hbefore.invariant_of intact_start ?_ hsub
    intro source label target hsource htarget hmem
    rw [← htarget]
    cases label with
    | restart opened => exact hsource.restart opened
    | event build progress =>
      exact hsource.event (handled _ hmem build progress rfl) (regular _ hmem)
  have htarget : edge.target.log.buffer.events =
      newest (loadPersistedEvents json edge.source.log.file) := by
    rw [← hstep, hlabel, ← events_loaded]
    cases opened <;> rfl
  rw [htarget, hintact.load]

end Runs

section Samples

/-- The JSON text of two events that differ in their time. -/
def sampleEventText (later : Bool) : List Char :=
  "\x7b\"timestamp_ms\":".toList ++ [if later then '2' else '1'] ++
    ",\"severity\":\"warning\",\"component\":\"subscription\",".toList ++
    "\"phase\":\"refresh\",\"profile_id\":null,\"node_id\":null,".toList ++
    "\"correlation_id\":\"daemon-1\",\"safe_message\":\"Ошибка\",".toList ++
    "\"structured_details\":\x7b\x7d\x7d".toList

/-- Two events with their lines, and no other line that parses. -/
def sampleEventJson : EventJson Bool where
  toString later := some (sampleEventText later)
  fromStr text :=
    if text = sampleEventText false then some false
    else if text = sampleEventText true then some true
    else none

/-- The texts of the sample events, evaluated at once. -/
theorem sampleEventText_facts :
    (∀ event, '\n' ∉ sampleEventText event ∧ '\r' ∉ sampleEventText event) ∧
    (∀ event, sampleEventJson.fromStr (sampleEventText event) = some event) ∧
    ∀ event, (sampleEventText event).length = (sampleEventText false).length := by
  decide +kernel

theorem sampleEventJson_handles (later : Bool) : sampleEventJson.Handles later := by
  obtain ⟨hbreak, hread, hlength⟩ := sampleEventText_facts
  constructor
  · intro text htext
    rw [← Option.some.inj htext]
    exact hbreak later
  · intro text htext
    rw [← Option.some.inj htext]
    exact hread later
  · intro text start rest htext hsplit hrest
    have htotal := congrArg List.length (Option.some.inj htext)
    have hpositive := List.length_pos_iff.2 hrest
    rw [hsplit, List.length_append, hlength] at htotal
    have hne (event : Bool) : start ≠ sampleEventText event := by
      rintro rfl
      have hsame := hlength event
      omega
    exact (if_neg (hne false)).trans (if_neg (hne true))

/-- The steps along some labels. -/
def eventTrace (labels : List (EventStep Bool)) :
    List (Edge (Recorded Bool) (EventStep Bool)) :=
  Transition.trace (Recorded.step sampleEventJson) Recorded.start labels

theorem handled_eventTrace (labels : List (EventStep Bool)) :
    Handled sampleEventJson (eventTrace labels) :=
  fun _ _ build _ _ id => sampleEventJson_handles (build id)

/-- A line of which it is known where it is written. -/
theorem regular_of_line {E : Type} {json : EventJson E} {recorded : Recorded E} {build : Nat → E}
    {progress : Progress} (sink : PersistentEventSink) (text : List Char)
    (hline : recorded.log.line json build = some (sink, text))
    (hends : Lines.Ends Utf8.newline recorded.log.bytes)
    (htorn : ∀ count, progress = .upTo count →
      (Utf8.fromUtf8 ((Utf8.encode text ++ [Utf8.newline]).take count)).isSome = true ∧
        count ≠ (Utf8.encode text).length) :
    recorded.Regular json (.event build progress) := by
  intro sink' text' hline'
  obtain ⟨rfl, rfl⟩ := Prod.mk.inj (Option.some.inj (hline.symm.trans hline'))
  exact ⟨Or.inr (Or.inr (Or.inr hends)), fun count hcount _ => htorn count hcount⟩

/-- An event, and a stop in the middle of the line of another. -/
def tornLabels : List (EventStep Bool) :=
  [.restart true, .event (fun _ => false) .whole, .event (fun _ => true) (.upTo 20)]

/-- Where the two lines of the torn trace are written, evaluated at once. -/
theorem tornLabels_lines :
    (Recorded.start.step sampleEventJson (.restart true)).log.line sampleEventJson
        (fun _ => false) = some (⟨0, false⟩, sampleEventText false) ∧
    ((Recorded.start.step sampleEventJson (.restart true)).step sampleEventJson
        (.event (fun _ => false) .whole)).log.line sampleEventJson (fun _ => true) =
      some (⟨200, false⟩, sampleEventText true) ∧
    ((Recorded.start.step sampleEventJson (.restart true)).step sampleEventJson
        (.event (fun _ => false) .whole)).log.bytes.getLast? = some Utf8.newline ∧
    (Utf8.fromUtf8
        ((Utf8.encode (sampleEventText true) ++ [Utf8.newline]).take 20)).isSome = true ∧
    20 ≠ (Utf8.encode (sampleEventText true)).length := by
  decide +kernel

/-- The event before a torn line is read back. -/
theorem recovers_of_regular_torn :
    Recovers (eventTrace (tornLabels ++ [.restart true])) := by
  have hrun := Transition.run_trace (Recorded.step sampleEventJson) Recorded.start
    (tornLabels ++ [.restart true])
  refine recovers_of_regular hrun (handled_eventTrace _) ?_
  obtain ⟨hfalse, htrue, hends, hvalid, hlength⟩ := tornLabels_lines
  have hfirst : (Recorded.start.step sampleEventJson (.restart true)).Regular sampleEventJson
      (.event (fun _ => false) .whole) := by
    refine regular_of_line ⟨0, false⟩ (sampleEventText false) hfalse ?_ ?_
    · exact Or.inl rfl
    · exact fun count hcount => nomatch hcount
  have hsecond : ((Recorded.start.step sampleEventJson (.restart true)).step sampleEventJson
      (.event (fun _ => false) .whole)).Regular sampleEventJson
      (.event (fun _ => true) (.upTo 20)) := by
    refine regular_of_line ⟨200, false⟩ (sampleEventText true) htrue (Or.inr hends) ?_
    intro count hcount
    rw [← Progress.upTo.inj hcount]
    exact ⟨hvalid, hlength⟩
  intro edge hedge
  simp only [tornLabels, List.cons_append, List.nil_append, eventTrace, Transition.trace,
    List.mem_cons, List.not_mem_nil, or_false] at hedge
  rcases hedge with rfl | rfl | rfl | rfl
  · trivial
  · exact hfirst
  · exact hsecond
  · trivial

/-- A stop in the middle of a line, and an event after the next start. -/
def continuedLabels : List (EventStep Bool) :=
  tornLabels ++ ([.restart true, .event (fun _ => true) .whole] : List (EventStep Bool))

/-- An event, and a stop in the middle of a character of another's message. -/
def splitLabels : List (EventStep Bool) :=
  [.restart true, .event (fun _ => false) .whole, .event (fun _ => true) (.upTo 162)]

/-- A start at the end of some steps does not read the events back. -/
def Loses (labels : List (EventStep Bool)) : Prop :=
  ∃ last, Run (fun recorded label next => recorded.step sampleEventJson label = next)
      Recorded.start (eventTrace (labels ++ [.restart true])) last ∧
    ¬Recovers (eventTrace (labels ++ [.restart true]))

theorem loses_of_ne {labels : List (EventStep Bool)}
    (h : ((labels.foldl (Recorded.step sampleEventJson) Recorded.start).step sampleEventJson
        (.restart true)).log.buffer.events ≠
      newest (labels.foldl (Recorded.step sampleEventJson) Recorded.start).written) :
    Loses labels := by
  refine ⟨_, Transition.run_trace _ _ _, ?_⟩
  intro hrecovers
  rw [eventTrace, Transition.trace_concat] at hrecovers
  exact h (hrecovers _ (List.mem_append_right _ List.mem_cons_self) true rfl)

/-- The events that are read back and those that were written, evaluated at once. -/
theorem lost_events :
    ((continuedLabels.foldl (Recorded.step sampleEventJson) Recorded.start).step sampleEventJson
        (.restart true)).log.buffer.events ≠
      newest (continuedLabels.foldl (Recorded.step sampleEventJson) Recorded.start).written ∧
    ((splitLabels.foldl (Recorded.step sampleEventJson) Recorded.start).step sampleEventJson
        (.restart true)).log.buffer.events ≠
      newest (splitLabels.foldl (Recorded.step sampleEventJson) Recorded.start).written := by
  decide +kernel

/-- The event behind a torn line is lost with it, and a torn character costs all events. -/
theorem torn_line_costs_events :
    (∀ event, sampleEventJson.Handles event) ∧ Loses continuedLabels ∧ Loses splitLabels := by
  obtain ⟨hcontinued, hsplit⟩ := lost_events
  exact ⟨sampleEventJson_handles, loses_of_ne hcontinued, loses_of_ne hsplit⟩

end Samples

end MultiCore.Daemon
