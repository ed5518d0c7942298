import MultiCore.Library.Lines
import MultiCore.Library.Text
import MultiCore.Library.Utf8
import MultiCore.Service.Protocol

/-!
# The logs the service serves

A client asks for pages of the service's own log, back to front by byte offset,
and of its core journal, front to back by a cursor. A page is read raw, redacted
line by line and made smaller until its frame fits.
-/

namespace MultiCore

open Utf8

/-- A pattern with what takes the place of its matches; no pattern here matches the empty text. -/
structure Replacer where
  replaceAll : List Char → List Char
  empty : replaceAll [] = []

/-- The patterns of the redaction. -/
structure Redactors where
  anyUrl : Replacer
  header : Replacer
  sensitiveValue : Replacer
  httpUrl : Replacer
  authorization : Replacer
  cookie : Replacer
  uuid : Replacer
  windowsProfile : Replacer
  unixHome : Replacer
  sid : Replacer

namespace Redactors

variable (r : Redactors)

/-- `redact_text`: links, authorization, cookies and UUIDs, in this order. -/
def redactText (text : List Char) : List Char :=
  let text := r.httpUrl.replaceAll text
  let text := r.authorization.replaceAll text
  let text := r.cookie.replaceAll text
  r.uuid.replaceAll text

/-- Lines of a configuration are replaced whole. -/
def redactedDiagnostic (line : List Char) : List Char :=
  let diagnostic := "[redacted privileged diagnostic]".toList
  let seconds := line.takeWhile (· != ' ')
  if line.contains ' ' && !seconds.isEmpty && seconds.all Text.isDigit then
    seconds ++ ' ' :: diagnostic
  else diagnostic

/-- `redact_service_log_line`: one line of the service's log. -/
def redactServiceLogLine (line : List Char) : List Char :=
  let line := line.map fun c => if Text.isControl c && c != '\t' then ' ' else c
  let lower := line.map Text.lowerChar
  if lower.tails.any "\"outbounds\"".toList.isPrefixOf ||
      lower.tails.any "proxies:".toList.isPrefixOf then
    redactedDiagnostic line
  else
    let line := r.anyUrl.replaceAll line
    let line := r.header.replaceAll line
    let line := r.sensitiveValue.replaceAll line
    let line := r.redactText line
    let line := r.windowsProfile.replaceAll line
    let line := r.unixHome.replaceAll line
    r.sid.replaceAll line

/-- Every line by itself. -/
def redactServiceLog (text : List Char) : List Char :=
  ['\n'].intercalate ((text.splitOn '\n').map r.redactServiceLogLine)

/-- At most `n` fields, the last with the separators in it. -/
def splitn (separator : Char) : (n : Nat) → List Char → List (List Char)
  | 0, _ => []
  | 1, text => [text]
  | n + 2, text =>
    match text.dropWhile (· != separator) with
    | [] => [text]
    | _ :: rest => text.takeWhile (· != separator) :: splitn separator (n + 1) rest

/-- A journal line without its end keeps its fields. -/
def redactJournalBody (body : List Char) : List Char :=
  match splitn '\t' 4 body with
  | [stamp, engine, stream, message] =>
    if stamp.all Text.isDigit && (engine = "xray".toList || engine = "mihomo".toList) &&
        (stream = "stdout".toList || stream = "stderr".toList) then
      stamp ++ '\t' :: engine ++ '\t' :: stream ++ '\t' :: r.redactServiceLog message
    else r.redactServiceLog body
  | _ => r.redactServiceLog body

/-- A line of a core's journal, with or without its line end. -/
def redactJournalLine (line : List Char) : List Char :=
  if line.getLast? = some '\n' then r.redactJournalBody line.dropLast ++ ['\n']
  else r.redactJournalBody line

/-- A text of a journal, line by line. -/
def redactJournalLines (text : List Char) : List Char :=
  (Lines.lines '\n' text).flatMap r.redactJournalLine

end Redactors

/-- How responses become frames. -/
abbrev Encoding := ServiceResponse → Option (List UInt8)

/-- `MAX_ELEVATION_FRAME_BYTES`. -/
def maxElevationFrameBytes : Nat := 64 * 1024

/-- Whether a response fits into one frame. -/
def Encoding.fits (encode : Encoding) (response : ServiceResponse) : Bool :=
  (encode response).any (·.length ≤ maxElevationFrameBytes)

/-- `SERVICE_LOG_CHUNK_BYTES`. -/
def serviceLogChunkBytes : Nat := 16 * 1024

/-- `MIN_SERVICE_LOG_CHUNK_BYTES`. -/
def minServiceLogChunkBytes : Nat := 512

/-- `MAX_SERVICE_LOG_TAIL_BYTES`. -/
def maxServiceLogTailBytes : Nat := 512 * 1024

/-- An open log file. -/
structure LogHandle where
  content : List UInt8
  /-- Whether it can be read from a position. -/
  readable : Nat → Bool

/-- The bytes from one offset up to another. -/
def window (content : List UInt8) (start stop : Nat) : List UInt8 :=
  (content.drop start).take (stop - start)

/-- How many bytes come before the first whole line, or none where no line begins inside. -/
def skipToLine (rawStart : Nat) (bytes : List UInt8) : Nat :=
  let skip :=
    if 0 < rawStart then ((bytes.idxOf? newline).map (· + 1)).getD 0 else 0
  if bytes.length ≤ skip then 0 else skip

namespace LogHandle

variable (h : LogHandle) (r : Redactors) (encode : Encoding) (file : ServiceLogFile)

/-- One page of at most `limit` bytes. -/
def page (floor stop limit : Nat) : Option ServiceResponse :=
  let rawStart := max (stop - limit) floor
  if h.readable rawStart then
    let bytes := window h.content rawStart stop
    let skip := skipToLine rawStart bytes
    some (.serviceLog file (rawStart + skip) (rawStart + bytes.length)
      (String.ofList (r.redactServiceLog (fromUtf8Lossy (bytes.drop skip)))))
  else none

/-- Smaller and smaller pages until one fits. -/
def fitting (floor stop limit : Nat) : ServiceResponse :=
  match h.page r file floor stop limit with
  | none => .serviceLog file stop stop ""
  | some response =>
    if encode.fits response then response
    else if limit ≤ minServiceLogChunkBytes then .serviceLog file stop stop ""
    else fitting floor stop (limit / 2)
  termination_by limit
  decreasing_by
    have hbig : minServiceLogChunkBytes < limit := by omega
    rw [minServiceLogChunkBytes] at hbig
    omega

end LogHandle

/-- A page of the service log; `none` stands for a file that is not there or cannot be opened. -/
def readChunk (r : Redactors) (encode : Encoding) (handle : Option LogHandle)
    (file : ServiceLogFile) (before : Option Nat) : ServiceResponse :=
  match handle with
  | none => .serviceLog file 0 0 ""
  | some h =>
    let length := h.content.length
    let stop := (before.map (min · length)).getD length
    let floor := length - maxServiceLogTailBytes
    if stop ≤ floor then .serviceLog file stop stop ""
    else h.fitting r encode file floor stop serviceLogChunkBytes

/-- `CORE_JOURNAL_CHUNK_BYTES`. -/
def coreJournalChunkBytes : Nat := 32 * 1024

/-- `MIN_CORE_JOURNAL_CHUNK_BYTES`. -/
def minCoreJournalChunkBytes : Nat := 1024

/-- A file in the journal's directory: the start its name says, what was said of it when the
directory was listed, and its content when it is read. -/
structure JournalEntry where
  startMs : Option Nat
  isFile : Bool
  len : Nat
  modifiedMs : Option Nat
  content : Option (List UInt8)

/-- `JournalSegment`, with the content its file has. -/
structure JournalSegment where
  startMs : Nat
  len : Nat
  modifiedMs : Nat
  content : Option (List UInt8)

/-- A file of the journal directory whose name is that of a segment. -/
def JournalEntry.asSegment (entry : JournalEntry) : Option JournalSegment := do
  let startMs ← entry.startMs
  if entry.isFile then
    some ⟨startMs, entry.len, entry.modifiedMs.getD startMs, entry.content⟩
  else none

/-- The segments of a journal, oldest first. -/
def journalSegments (directory : List JournalEntry) : List JournalSegment :=
  (directory.filterMap JournalEntry.asSegment).mergeSort fun a b => a.startMs ≤ b.startMs

/-- The end of the last line in some bytes. -/
def lastLineEnd (bytes : List UInt8) : Option Nat :=
  (bytes.reverse.idxOf? newline).map fun i => bytes.length - i

/-- How much of some bytes is served: whole lines, or all of a line that fills them. -/
def journalCut (maxBytes : Nat) (bytes : List UInt8) : Nat :=
  match lastLineEnd bytes with
  | some stop => stop
  | none => if max maxBytes 1 ≤ bytes.length then bytes.length else 0

/-- The segment to read and the offset in it. -/
def journalPosition (segments : List JournalSegment) (cursor : Option CoreJournalCursor) :
    Option (Nat × Nat) :=
  match cursor with
  | none => if segments.isEmpty then none else some (0, 0)
  | some cursor =>
    (segments.findIdx? fun segment => cursor.segment ≤ segment.startMs).map fun index =>
      (index,
        if segments[index]?.any fun segment => segment.startMs = cursor.segment then cursor.offset
        else 0)

/-- The next raw lines of a journal and where to go on. -/
def readJournalChunk (directory : List JournalEntry) (sinceMs : Nat)
    (cursor : Option CoreJournalCursor) (maxBytes : Nat) : List Char × Option CoreJournalCursor :=
  let segments := (journalSegments directory).filter fun segment => sinceMs ≤ segment.modifiedMs
  match journalPosition segments cursor with
  | none => ([], none)
  | some (index, offset) =>
    match segments[index]? with
    | none => ([], none)
    | some segment =>
      let following := segments[index + 1]?.map fun next => ⟨next.startMs, 0⟩
      let bytes := (segment.content.map fun content =>
        window content offset (offset + max maxBytes 1)).getD []
      if bytes.isEmpty then ([], following)
      else
        let cut := journalCut maxBytes bytes
        let consumed := offset + cut
        let next :=
          if 0 < cut ∧ consumed < segment.len then some ⟨segment.startMs, consumed⟩
          else following
        (fromUtf8Lossy (bytes.take cut), next)

/-- A page of the journal of at most `limit` bytes, or a smaller one that fits. -/
def fittingJournal (r : Redactors) (encode : Encoding) (directory : List JournalEntry)
    (sinceMs : Nat) (cursor : Option CoreJournalCursor) (limit : Nat) : ServiceResponse :=
  let chunk := readJournalChunk directory sinceMs cursor limit
  let response := .coreJournal (String.ofList (r.redactJournalLines chunk.1)) chunk.2
  if encode.fits response then response
  else if limit ≤ minCoreJournalChunkBytes then .coreJournal "" chunk.2
  else fittingJournal r encode directory sinceMs cursor (limit / 2)
  termination_by limit
  decreasing_by
    have hbig : minCoreJournalChunkBytes < limit := by omega
    rw [minCoreJournalChunkBytes] at hbig
    omega

/-- A page of the journal. -/
def readCoreJournal (r : Redactors) (encode : Encoding) (directory : List JournalEntry)
    (sinceMs : Nat) (cursor : Option CoreJournalCursor) : ServiceResponse :=
  fittingJournal r encode directory sinceMs cursor coreJournalChunkBytes

end MultiCore
