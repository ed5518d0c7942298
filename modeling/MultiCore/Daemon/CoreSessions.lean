import MultiCore.Library.FirstMatch
import MultiCore.Library.Lines
import MultiCore.Library.Utf8
import Mathlib.Data.List.Nodup
import Mathlib.Data.List.Pairwise
import Mathlib.Logic.Encodable.Basic
import Mathlib.Logic.Equiv.List

/-!
# The index of core sessions

The daemon appends a record when a connection is attempted and another one when
it ends. The file is read with all tolerance: a line that is no record is
skipped, a second start of a session replaces the first, an end without a start
is dropped. What comes out is a list of sessions in the order they began, and
the records written from such a list are read as it again. When the index is
opened, the sessions that a previous run left open are ended, old ones go, and
the file is written anew if anything changed.
-/

namespace MultiCore.Daemon

open FirstMatch

/-- What the daemon records when a connection is attempted. -/
structure SessionStart where
  mode : String
  service : Bool
  engines : List String
  profile : Option String
  deriving DecidableEq, Repr

/-- One connection as the index knows it. -/
structure CoreSession where
  connectMs : UInt64
  disconnectMs : Option UInt64
  reason : Option String
  start : SessionStart
  deriving DecidableEq, Repr

/-- No end was recorded yet. -/
def CoreSession.isOpen (session : CoreSession) : Bool := session.reason.isNone

/-- `IndexRecord`: a line of the index file. -/
inductive IndexRecord where
  | start (connectMs : UInt64) (mode : String) (service : Bool) (engines : List String)
      (profile : Option String)
  | ended (connectMs : UInt64) (disconnectMs : Option UInt64) (reason : String)
  deriving DecidableEq, Repr

/-- `MAX_INDEXED_SESSIONS`. -/
def maxIndexedSessions : Nat := 2000

/-- `MAX_INDEX_BYTES`, four mebibytes. -/
def maxIndexBytes : Nat := 4 * 1024 * 1024

/-- `JOURNAL_MAX_AGE` in milliseconds, thirty days. -/
def journalMaxAgeMs : Nat := 30 * 24 * 60 * 60 * 1000

/-- The JSON text of a record. -/
structure IndexJson where
  write : IndexRecord → Option (List Char)
  fromStr : List Char → Option IndexRecord

/-- What is relied on of the text of records: it is one line, and is read as the record. -/
structure IndexJson.RoundTrips (json : IndexJson) : Prop where
  exists_line : ∀ record, ∃ line, json.write record = some line
  fromStr_write : ∀ record line, json.write record = some line → json.fromStr line = some record
  noBreak : ∀ record line, json.write record = some line → '\n' ∉ line ∧ '\r' ∉ line

/-- A line without what ends it. -/
def chomp (row : List Char) : List Char :=
  if row.getLast? = some '\n' then
    if row.dropLast.getLast? = some '\r' then row.dropLast.dropLast else row.dropLast
  else row

/-- `str::lines`. -/
def strLines (text : List Char) : List (List Char) := (Lines.lines '\n' text).map chomp

/-- What one record does to the sessions read so far. -/
def applyRecord (sessions : List CoreSession) : IndexRecord → List CoreSession
  | .start connectMs mode service engines profile =>
    sessions.filter (fun session => session.connectMs ≠ connectMs) ++
      [⟨connectMs, none, none, ⟨mode, service, engines, profile⟩⟩]
  | .ended connectMs disconnectMs reason =>
    -- the newest session that began then and is still open
    (updateFirst (fun session => session.connectMs = connectMs && session.isOpen)
      (fun session => { session with disconnectMs, reason := some reason })
      sessions.reverse).reverse

/-- The order of the sessions: by the time they began. -/
def noLater (session other : CoreSession) : Bool := session.connectMs ≤ other.connectMs

section Text

variable (json : IndexJson)

/-- `parse_sessions`: the records of the lines that parse, in the order of their starts. -/
def parseSessions (text : List Char) : List CoreSession :=
  (((strLines text).filterMap json.fromStr).foldl applyRecord []).mergeSort noLater

/-- The records of a session. -/
def CoreSession.records (session : CoreSession) : List IndexRecord :=
  .start session.connectMs session.start.mode session.start.service session.start.engines
      session.start.profile ::
    (session.reason.map (IndexRecord.ended session.connectMs session.disconnectMs)).toList

/-- A record as a line; one that cannot be written is left out. -/
def renderRecord (record : IndexRecord) : List Char :=
  match json.write record with
  | some line => line ++ ['\n']
  | none => []

/-- `render_sessions`: the records of every session, a line each. -/
def renderSessions (sessions : List CoreSession) : List Char :=
  sessions.flatMap fun session => session.records.flatMap (renderRecord json)

end Text

section Index

/-- The index file; none when there is no regular file of its name. -/
abbrev IndexFile := Option (List UInt8)

/-- The whole text of the index. -/
def indexText : IndexFile → List Char
  | none => []
  | some bytes => Utf8.fromUtf8Lossy bytes

/-- The text that is read of the index: its newest records. -/
def readIndex : IndexFile → List Char
  | none => []
  | some bytes =>
    Utf8.fromUtf8Lossy ((bytes.drop (bytes.length - maxIndexBytes)).take maxIndexBytes)

/-- The index as the daemon holds it. -/
structure SessionIndex where
  file : IndexFile
  /-- The newest connect time handed out. -/
  lastConnectMs : UInt64
  deriving DecidableEq, Repr

/-- A session that is open ends as interrupted. -/
def interrupted (session : CoreSession) : CoreSession :=
  if session.isOpen then { session with reason := some "interrupted" } else session

/-- A session that is not too old. -/
def unexpired (nowMs : UInt64) (session : CoreSession) : Bool :=
  nowMs.toNat - journalMaxAgeMs ≤ (session.disconnectMs.getD session.connectMs).toNat

variable (json : IndexJson)

/-- The sessions of an index file. -/
def readSessions (file : IndexFile) : List CoreSession := parseSessions json (readIndex file)

/-- Opens the index; `replaced` is whether a new file can be written in place of the old one. -/
def openIndex (file : IndexFile) (nowMs : UInt64) (replaced : Bool) : SessionIndex :=
  let before := readSessions json file
  let sessions := (before.map interrupted).filter (unexpired nowMs)
  let sessions := sessions.drop (sessions.length - maxIndexedSessions)
  let large := (file.map List.length).any fun length => maxIndexBytes / 2 < length
  let changed := decide (sessions ≠ before) || large
  { file := if changed && replaced then some (Utf8.encode (renderSessions json sessions)) else file
    lastConnectMs := sessions.foldl (fun newest session =>
      if newest < session.connectMs then session.connectMs else newest) 0 }

end Index

/-- The sessions of an index: each began after those before it, and has no end while it is open. -/
structure Indexed (sessions : List CoreSession) : Prop where
  increasing : sessions.Pairwise fun session other => session.connectMs < other.connectMs
  openEnd : ∀ session ∈ sessions, session.isOpen = true → session.disconnectMs = none

/-- What opening an index leaves of its sessions: the newest ones, as many as are allowed, of those
not too old, the open ones ended as interrupted. -/
structure Leaves (nowMs : UInt64) (parsed left : List CoreSession) : Prop where
  newest : left <:+ (parsed.map interrupted).filter (unexpired nowMs)
  length_eq : left.length =
    min maxIndexedSessions ((parsed.map interrupted).filter (unexpired nowMs)).length

section Parsing

/-- Sessions while records are read: no two of one time, and no end of one that is open. -/
structure Keyed (sessions : List CoreSession) : Prop where
  nodup : (sessions.map CoreSession.connectMs).Nodup
  openEnd : ∀ session ∈ sessions, session.isOpen = true → session.disconnectMs = none

/-- A record leaves one session for each start. -/
theorem Keyed.applyRecord {sessions : List CoreSession} (h : Keyed sessions)
    (record : IndexRecord) : Keyed (applyRecord sessions record) := by
  cases record with
  | start connectMs mode service engines profile =>
    constructor
    · rw [MultiCore.Daemon.applyRecord, List.map_append, List.nodup_append]
      refine ⟨?_, List.nodup_singleton _, ?_⟩
      · exact h.nodup.sublist (List.filter_sublist.map _)
      · intro time htime other hother
        obtain ⟨session, hsession, rfl⟩ := List.mem_map.1 htime
        have hne := (List.mem_filter.1 hsession).2
        rw [List.mem_singleton.1 hother]
        simpa using hne
    · intro session hsession hopen
      rcases List.mem_append.1 hsession with hold | hnew
      · exact h.openEnd session (List.mem_filter.1 hold).1 hopen
      · rw [List.mem_singleton.1 hnew]
  | ended connectMs disconnectMs reason =>
    constructor
    · rw [MultiCore.Daemon.applyRecord, List.map_reverse, map_updateFirst, List.map_reverse,
        List.reverse_reverse]
      · exact h.nodup
      · exact fun _ _ => rfl
    · intro session hsession hopen
      rcases mem_updateFirst (List.mem_reverse.1 hsession) with hold | ⟨old, -, rfl⟩
      · exact h.openEnd session (List.mem_reverse.1 hold) hopen
      · exact nomatch hopen

/-- So do all records of a file. -/
theorem keyed_foldl (records : List IndexRecord) {sessions : List CoreSession}
    (h : Keyed sessions) : Keyed (records.foldl applyRecord sessions) := by
  induction records generalizing sessions with
  | nil => exact h
  | cons record records ih => exact ih (h.applyRecord record)

/-- Whatever the text is, what is read of it are sessions of an index. -/
theorem indexed_parseSessions (json : IndexJson) (text : List Char) :
    Indexed (parseSessions json text) := by
  have hkeyed : Keyed (((strLines text).filterMap json.fromStr).foldl applyRecord []) :=
    keyed_foldl _ ⟨List.nodup_nil, fun session hsession => absurd hsession List.not_mem_nil⟩
  constructor
  · have hsorted : (parseSessions json text).Pairwise fun session other =>
        session.connectMs ≤ other.connectMs := by
      have htrans : ∀ a b c, noLater a b = true → noLater b c = true → noLater a c = true := by
        intro a b c hab hbc
        simp only [noLater, decide_eq_true_eq] at hab hbc ⊢
        exact UInt64.le_trans hab hbc
      have htotal : ∀ a b, (noLater a b || noLater b a) = true := by
        intro a b
        simp only [noLater, Bool.or_eq_true, decide_eq_true_eq]
        exact UInt64.le_total _ _
      have hpairwise := List.pairwise_mergeSort htrans htotal
        (((strLines text).filterMap json.fromStr).foldl applyRecord [])
      exact hpairwise.imp fun h => of_decide_eq_true h
    have hdistinct : (parseSessions json text).Pairwise fun session other =>
        session.connectMs ≠ other.connectMs := by
      have hnodup : ((parseSessions json text).map CoreSession.connectMs).Nodup :=
        ((List.mergeSort_perm _ _).map _).nodup_iff.2 hkeyed.nodup
      exact List.pairwise_map.1 hnodup
    exact (hsorted.and hdistinct).imp fun h => UInt64.lt_of_le_of_ne h.1 h.2
  · intro session hsession
    exact hkeyed.openEnd session (List.mem_mergeSort.1 hsession)

end Parsing

section Rendering

variable {json : IndexJson}

/-- A line that was written is read as it was. -/
theorem strLines_line {line : List Char} (hline : '\n' ∉ line ∧ '\r' ∉ line) (rest : List Char) :
    strLines (line ++ '\n' :: rest) = line :: strLines rest := by
  have hchomp : chomp (line ++ ['\n']) = line := by
    have hlast : (line ++ ['\n']).getLast? = some '\n' := by simp
    have hreturn : (line ++ ['\n']).dropLast.getLast? ≠ some '\r' := by
      rw [List.dropLast_concat]
      exact fun h => hline.2 (List.mem_of_getLast? h)
    rw [chomp, if_pos hlast, if_neg hreturn, List.dropLast_concat]
  rw [strLines, Lines.lines_line hline.1, List.map_cons, hchomp]
  rfl

/-- Records that were written are read one by one. -/
theorem filterMap_strLines (hjson : json.RoundTrips) (records : List IndexRecord) :
    (strLines (records.flatMap (renderRecord json))).filterMap json.fromStr = records := by
  induction records with
  | nil => rfl
  | cons record records ih =>
    obtain ⟨line, hline⟩ := hjson.exists_line record
    have hrender : renderRecord json record = line ++ ['\n'] := by
      rw [renderRecord, hline]
    rw [List.flatMap_cons, hrender, List.append_assoc, List.singleton_append,
      strLines_line (hjson.noBreak record line hline),
      List.filterMap_cons_some (hjson.fromStr_write record line hline), ih]

/-- The records of a session that is not known yet add it. -/
theorem foldl_records {sessions : List CoreSession} {session : CoreSession}
    (hnew : session.connectMs ∉ sessions.map CoreSession.connectMs)
    (hopen : session.isOpen = true → session.disconnectMs = none) :
    session.records.foldl applyRecord sessions = sessions ++ [session] := by
  obtain ⟨connectMs, disconnectMs, reason, start⟩ := session
  have hkept : sessions.filter (fun other => other.connectMs ≠ connectMs) = sessions := by
    rw [List.filter_eq_self]
    intro other hother
    rw [decide_eq_true_eq]
    exact fun heq => hnew (List.mem_map.2 ⟨other, hother, heq⟩)
  cases reason with
  | none =>
    have hnone : disconnectMs = none := hopen rfl
    rw [CoreSession.records, Option.map_none, Option.toList_none, List.foldl_cons, List.foldl_nil,
      applyRecord, hkept, hnone]
  | some reason =>
    rw [CoreSession.records, Option.map_some, Option.toList_some, List.foldl_cons, List.foldl_cons,
      List.foldl_nil, applyRecord, hkept, applyRecord, List.reverse_append, List.reverse_singleton,
      List.singleton_append, updateFirst, if_pos (by simp [CoreSession.isOpen]), List.reverse_cons,
      List.reverse_reverse]

/-- The records of some sessions add them in order. -/
theorem foldl_flatMap_records {known sessions : List CoreSession}
    (hnodup : ((known ++ sessions).map CoreSession.connectMs).Nodup)
    (hopen : ∀ session ∈ sessions, session.isOpen = true → session.disconnectMs = none) :
    (sessions.flatMap CoreSession.records).foldl applyRecord known = known ++ sessions := by
  induction sessions generalizing known with
  | nil => rw [List.append_nil]; rfl
  | cons session sessions ih =>
    have hnew : session.connectMs ∉ known.map CoreSession.connectMs := by
      intro hmem
      rw [List.map_append, List.map_cons] at hnodup
      exact (List.nodup_append.1 hnodup).2.2 _ hmem _ List.mem_cons_self rfl
    rw [List.flatMap_cons, List.foldl_append,
      foldl_records hnew (hopen session List.mem_cons_self), ih]
    · rw [List.append_assoc, List.singleton_append]
    · rw [List.append_assoc, List.singleton_append]
      exact hnodup
    · exact fun other hother => hopen other (List.mem_cons_of_mem _ hother)

/-- The sessions of an index are read from the text that they are written as. -/
theorem parseSessions_renderSessions (hjson : json.RoundTrips) {sessions : List CoreSession}
    (h : Indexed sessions) : parseSessions json (renderSessions json sessions) = sessions := by
  have hrender : renderSessions json sessions =
      (sessions.flatMap CoreSession.records).flatMap (renderRecord json) :=
    (List.flatMap_assoc).symm
  have hnodup : (([] ++ sessions).map CoreSession.connectMs).Nodup :=
    List.pairwise_map.2 (h.increasing.imp fun hlt heq => by
      rw [heq] at hlt
      exact UInt64.lt_irrefl _ hlt)
  rw [parseSessions, hrender, filterMap_strLines hjson, foldl_flatMap_records hnodup h.openEnd,
    List.nil_append]
  exact List.mergeSort_of_pairwise
    (h.increasing.imp fun hlt => decide_eq_true (UInt64.le_of_lt hlt))

end Rendering

section Opening

variable {json : IndexJson}

/-- Fewer sessions are an index too. -/
theorem Indexed.sublist {sessions left : List CoreSession} (h : Indexed sessions)
    (hsub : left.Sublist sessions) : Indexed left where
  increasing := h.increasing.sublist hsub
  openEnd session hsession := h.openEnd session (hsub.subset hsession)

/-- Ending the open sessions leaves the times alone. -/
theorem Indexed.interrupted {sessions : List CoreSession} (h : Indexed sessions) :
    Indexed (sessions.map interrupted) := by
  have htime : ∀ session, (MultiCore.Daemon.interrupted session).connectMs = session.connectMs := by
    intro session
    unfold MultiCore.Daemon.interrupted
    by_cases hopen : session.isOpen = true
    · rw [if_pos hopen]
    · rw [if_neg hopen]
  constructor
  · rw [List.pairwise_map]
    refine h.increasing.imp fun hlt => ?_
    rw [htime, htime]
    exact hlt
  · intro session hsession hopen
    obtain ⟨parsed, hparsed, rfl⟩ := List.mem_map.1 hsession
    unfold MultiCore.Daemon.interrupted at hopen ⊢
    by_cases hwas : parsed.isOpen = true
    · rw [if_pos hwas] at hopen
      exact nomatch hopen
    · rw [if_neg hwas] at hopen
      exact absurd hopen hwas

/-- The whole text is read of an index that is not too long. -/
theorem readIndex_eq_indexText {bytes : List UInt8} (h : bytes.length ≤ maxIndexBytes) :
    readIndex (some bytes) = indexText (some bytes) := by
  rw [readIndex, Nat.sub_eq_zero_of_le h, List.drop_zero, List.take_of_length_le h]
  rfl

/-- The sessions that opening the index leaves of those it read. -/
theorem leaves_drop (nowMs : UInt64) (parsed : List CoreSession) :
    Leaves nowMs parsed (((parsed.map interrupted).filter (unexpired nowMs)).drop
      (((parsed.map interrupted).filter (unexpired nowMs)).length - maxIndexedSessions)) where
  newest := List.drop_suffix _ _
  length_eq := by
    rw [List.length_drop]
    omega

/-- The text of the index after it was opened has the sessions that are left. -/
theorem parseSessions_openIndex (hjson : json.RoundTrips) (file : IndexFile) (nowMs : UInt64) :
    parseSessions json (indexText (openIndex json file nowMs true).file) =
      (((readSessions json file).map interrupted).filter (unexpired nowMs)).drop
        ((((readSessions json file).map interrupted).filter (unexpired nowMs)).length -
          maxIndexedSessions) := by
  have hindexed : Indexed (readSessions json file) := indexed_parseSessions json _
  generalize hleft : (((readSessions json file).map interrupted).filter (unexpired nowMs)).drop
    ((((readSessions json file).map interrupted).filter (unexpired nowMs)).length -
      maxIndexedSessions) = left
  have hindexed' : Indexed left := by
    rw [← hleft]
    exact hindexed.interrupted.sublist ((List.drop_sublist _ _).trans List.filter_sublist)
  unfold openIndex
  simp only [hleft, Bool.and_true]
  by_cases hchanged : (decide (left ≠ readSessions json file) ||
      (file.map List.length).any fun length => maxIndexBytes / 2 < length) = true
  · rw [if_pos hchanged, indexText, Utf8.fromUtf8Lossy_encode]
    exact parseSessions_renderSessions hjson hindexed'
  · rw [if_neg hchanged]
    simp only [Bool.or_eq_true, decide_eq_true_eq, not_or, not_not] at hchanged
    rw [hchanged.1]
    cases file with
    | none => rfl
    | some bytes =>
      have hshort : ¬maxIndexBytes / 2 < bytes.length := by simpa using hchanged.2
      rw [← readIndex_eq_indexText (by unfold maxIndexBytes at *; omega)]
      rfl

end Opening

/-- The index of core sessions, for every text and every file. What is read of a text is in the
order the sessions began, no two at one time, and is read again from the text it is written as.
Opening an index leaves the sessions that were read of it, with those that were open ended and the
old ones gone; they are read of the new file as well unless its text is longer than what is read. -/
theorem session_index_exact {json : IndexJson} (hjson : json.RoundTrips) :
    (∀ text, parseSessions json (renderSessions json (parseSessions json text)) =
        parseSessions json text ∧
      (parseSessions json text).Pairwise fun session other =>
        session.connectMs < other.connectMs) ∧
    (∀ text nowMs, (Utf8.encode text).length ≤ maxIndexBytes →
      Leaves nowMs (parseSessions json text) (parseSessions json
        (indexText (openIndex json (some (Utf8.encode text)) nowMs true).file))) ∧
    (∀ file nowMs, Leaves nowMs (readSessions json file)
      (parseSessions json (indexText (openIndex json file nowMs true).file))) ∧
    (∀ bytes : List UInt8, bytes.length ≤ maxIndexBytes →
      readSessions json (some bytes) = parseSessions json (indexText (some bytes))) := by
  have hopen : ∀ file nowMs, Leaves nowMs (readSessions json file)
      (parseSessions json (indexText (openIndex json file nowMs true).file)) := by
    intro file nowMs
    rw [parseSessions_openIndex hjson]
    exact leaves_drop nowMs _
  have hread : ∀ bytes : List UInt8, bytes.length ≤ maxIndexBytes →
      readSessions json (some bytes) = parseSessions json (indexText (some bytes)) := by
    intro bytes hlength
    rw [readSessions, readIndex_eq_indexText hlength]
  refine ⟨?_, ?_, hopen, hread⟩
  · intro text
    have hindexed := indexed_parseSessions json text
    exact ⟨parseSessions_renderSessions hjson hindexed, hindexed.increasing⟩
  · intro text nowMs hlength
    have hleaves := hopen (some (Utf8.encode text)) nowMs
    have htext : parseSessions json text = readSessions json (some (Utf8.encode text)) := by
      rw [hread _ hlength, indexText, Utf8.fromUtf8Lossy_encode]
    rw [htext]
    exact hleaves

section Sample

/-- The records of two connections with their lines: the first was ended by the user, the second is
ended when the index is opened. -/
def sampleRecords : List (IndexRecord × List Char) :=
  [(.start 1000 "tun" true ["xray", "mihomo"] none,
      "\x7b\"event\":\"start\",\"connect_ms\":1000,\"mode\":\"tun\",\"service\":true,".toList ++
        "\"engines\":[\"xray\",\"mihomo\"]\x7d".toList),
    (.ended 1000 (some 2000) "user",
      "\x7b\"event\":\"end\",\"connect_ms\":1000,\"disconnect_ms\":2000,".toList ++
        "\"reason\":\"user\"\x7d".toList),
    (.start 5000 "proxy" false ["mihomo"] (some "work"),
      "\x7b\"event\":\"start\",\"connect_ms\":5000,\"mode\":\"proxy\",\"service\":false,".toList ++
        "\"engines\":[\"mihomo\"],\"profile\":\"work\"\x7d".toList),
    (.ended 5000 none "interrupted",
      "\x7b\"event\":\"end\",\"connect_ms\":5000,\"reason\":\"interrupted\"\x7d".toList)]

/-- A text by the numbers of its characters. -/
def codes (s : String) : List Nat := s.toList.map Char.toNat

/-- The text with these numbers. -/
def ofCodes (l : List Nat) : String := String.ofList (l.map Char.ofNat)

/-- A text is read back from its numbers. -/
theorem ofCodes_codes (s : String) : ofCodes (codes s) = s := by
  have hchars : ∀ l : List Char, (l.map Char.toNat).map Char.ofNat = l := by
    intro l
    induction l with
    | nil => rfl
    | cons c l ih => rw [List.map_cons, List.map_cons, ih, Char.ofNat_toNat]
  rw [ofCodes, codes, hchars, String.ofList_toList]

/-- A record as numbers. -/
abbrev Fields :=
  Sum (Nat × List Nat × Bool × List (List Nat) × Option (List Nat)) (Nat × Option Nat × List Nat)

/-- A record by numbers and lists only. -/
def fields : IndexRecord → Fields
  | .start connectMs mode service engines profile =>
    .inl (connectMs.toNat, codes mode, service, engines.map codes, profile.map codes)
  | .ended connectMs disconnectMs reason =>
    .inr (connectMs.toNat, disconnectMs.map UInt64.toNat, codes reason)

/-- The record with these fields. -/
def ofFields : Fields → IndexRecord
  | .inl (connectMs, mode, service, engines, profile) =>
    .start (UInt64.ofNat connectMs) (ofCodes mode) service (engines.map ofCodes)
      (profile.map ofCodes)
  | .inr (connectMs, disconnectMs, reason) =>
    .ended (UInt64.ofNat connectMs) (disconnectMs.map UInt64.ofNat) (ofCodes reason)

/-- A record is read back from its fields. -/
theorem ofFields_fields (record : IndexRecord) : ofFields (fields record) = record := by
  cases record with
  | start connectMs mode service engines profile =>
    have hengines : (engines.map codes).map ofCodes = engines := by
      induction engines with
      | nil => rfl
      | cons engine engines ih => rw [List.map_cons, List.map_cons, ih, ofCodes_codes]
    have hprofile : (profile.map codes).map ofCodes = profile := by
      cases profile with
      | none => rfl
      | some profile => exact congrArg some (ofCodes_codes profile)
    rw [fields, ofFields, UInt64.ofNat_toNat, ofCodes_codes, hengines, hprofile]
  | ended connectMs disconnectMs reason =>
    have hdisconnect : (disconnectMs.map UInt64.toNat).map UInt64.ofNat = disconnectMs := by
      cases disconnectMs with
      | none => rfl
      | some disconnectMs => exact congrArg some UInt64.ofNat_toNat
    rw [fields, ofFields, UInt64.ofNat_toNat, ofCodes_codes, hdisconnect]

/-- A serializer that knows the lines of those records, and numbers the others. -/
def sampleJson : IndexJson where
  write record :=
    some ((sampleRecords.lookup record).getD (Nat.toDigits 10 (Encodable.encode (fields record))))
  fromStr line :=
    match sampleRecords.find? fun known => known.2 = line with
    | some known => some known.1
    | none =>
      if line.all Char.isDigit then
        (Encodable.decode (α := Fields) (Nat.ofDigitChars 10 line 0)).map ofFields
      else none

/-- Every record is read back from its line. -/
theorem sampleJson_roundTrips : sampleJson.RoundTrips := by
  have hdigits : ∀ (n : Nat) (c : Char), c ∈ Nat.toDigits 10 n → c.isDigit = true :=
    fun n c hc => Nat.isDigit_of_mem_toDigits (by decide) (by decide) hc
  -- a known line is read as its record and is no number
  have hknown : ∀ known ∈ sampleRecords, sampleJson.fromStr known.2 = some known.1 ∧
      known.2.all Char.isDigit = false ∧ '\n' ∉ known.2 ∧ '\r' ∉ known.2 := by decide +kernel
  have hcases : ∀ {record line}, sampleJson.write record = some line →
      (record, line) ∈ sampleRecords ∨ line = Nat.toDigits 10 (Encodable.encode (fields record)) := by
    intro record line h
    have hline := Option.some.inj h
    cases hlookup : sampleRecords.lookup record with
    | some known =>
      rw [hlookup, Option.getD_some] at hline
      obtain ⟨before, after, hrecords, -⟩ := List.lookup_eq_some_iff.1 hlookup
      refine .inl ?_
      rw [hrecords, hline]
      exact List.mem_append_right _ List.mem_cons_self
    | none =>
      rw [hlookup, Option.getD_none] at hline
      exact .inr hline.symm
  constructor
  · exact fun record => ⟨_, rfl⟩
  · intro record line h
    rcases hcases h with hmem | rfl
    · exact (hknown _ hmem).1
    · have hnone : sampleRecords.find? (fun known =>
          known.2 = Nat.toDigits 10 (Encodable.encode (fields record))) = none := by
        rw [List.find?_eq_none]
        intro known hmem hsame
        have hletter := (hknown known hmem).2.1
        rw [of_decide_eq_true hsame, ← Bool.not_eq_true, List.all_eq_true] at hletter
        exact hletter fun c hc => hdigits _ c hc
      rw [sampleJson]
      simp only [hnone]
      rw [if_pos (List.all_eq_true.2 fun c hc => hdigits _ c hc),
        Nat.ofDigitChars_toDigits (by decide) (by decide), Encodable.encodek, Option.map_some,
        ofFields_fields]
  · intro record line h
    rcases hcases h with hmem | rfl
    · exact (hknown _ hmem).2.2
    · exact ⟨fun hmem => absurd (hdigits _ _ hmem) (by decide),
        fun hmem => absurd (hdigits _ _ hmem) (by decide)⟩

/-- An index in which the second connection begins before the first ends, and is still open. -/
def sampleIndex : List Char :=
  (sampleRecords.take 1 ++ (sampleRecords.drop 2).take 1 ++
    (sampleRecords.drop 1).take 1).flatMap fun known => known.2 ++ ['\n']

/-- A session that ended and one that did not. -/
def sampleSessions : List CoreSession :=
  [⟨1000, some 2000, some "user", ⟨"tun", true, ["xray", "mihomo"], none⟩⟩,
    ⟨5000, none, none, ⟨"proxy", false, ["mihomo"], some "work"⟩⟩]

/-- Two connections are read and read again; opening the index ends the second. -/
theorem session_index_exact_sample :
    ∃ left, parseSessions sampleJson sampleIndex = sampleSessions ∧
      parseSessions sampleJson (renderSessions sampleJson sampleSessions) = sampleSessions ∧
      parseSessions sampleJson (indexText
        (openIndex sampleJson (some (Utf8.encode sampleIndex)) 6000 true).file) = left ∧
      Leaves 6000 sampleSessions left ∧ left = sampleSessions.map interrupted := by
  have hread : ((strLines sampleIndex).filterMap sampleJson.fromStr).foldl applyRecord [] =
      sampleSessions := by decide +kernel
  have hparsed : parseSessions sampleJson sampleIndex = sampleSessions := by
    rw [parseSessions, hread]
    exact List.mergeSort_of_pairwise (by decide)
  obtain ⟨htext, hopened, -⟩ := session_index_exact sampleJson_roundTrips
  have hagain := (htext sampleIndex).1
  have hleaves := hopened sampleIndex 6000 (by decide +kernel)
  rw [hparsed] at hagain hleaves
  have hkept : (sampleSessions.map interrupted).filter (unexpired 6000) =
      sampleSessions.map interrupted := by decide
  refine ⟨_, hparsed, hagain, rfl, hleaves, ?_⟩
  refine (hleaves.newest.eq_of_length ?_).trans hkept
  rw [hleaves.length_eq, hkept]
  decide

end Sample

end MultiCore.Daemon
