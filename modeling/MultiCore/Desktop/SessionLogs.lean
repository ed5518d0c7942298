import Mathlib.Algebra.GroupWithZero.Nat
import MultiCore.Daemon.SessionTimes
import MultiCore.Library.Slices
import MultiCore.Service.Logs

/-!
# The logs of the chosen connections

The archive has a folder for every connection of a range, newest first. A folder's
core log is what both journals have in the connection's time window, the newest of it
that fits: within the limit of one connection, and within what the newer ones left of
the limit of them all.
-/

namespace MultiCore.Desktop

open Daemon (CoreSession Window sessionWindows)

/-- No file of one session takes more. -/
def maxSessionLogBytes : Nat := 16 * 1024 * 1024

/-- The core logs of all sessions take no more together. -/
def maxCoreSessionsBytes : Nat := 64 * 1024 * 1024

/-- A week in milliseconds. -/
def weekMs : UInt64 := 7 * 24 * 60 * 60 * 1000

/-- Which sessions an archive is asked for. -/
inductive LogRange where
  | latest
  | week
  | all
  deriving DecidableEq, Repr

/-- The name of a range in the index. -/
def LogRange.key : LogRange → String
  | .latest => "latest"
  | .week => "week"
  | .all => "all"

/-- The name of a range in the note. -/
def LogRange.describe : LogRange → String
  | .latest => "последнее подключение"
  | .week => "за неделю"
  | .all => "за всё время"

/-- The connections of the index and those a range selects, by their indices, oldest first. -/
structure SessionPlan where
  range : LogRange
  sessions : List CoreSession
  windows : List Window
  selected : List Nat
  nowMs : UInt64

/-- A session that ran within a week of now. -/
def ranThisWeek (nowMs : UInt64) (session : CoreSession) (window : Window) : Bool :=
  let ended := session.disconnectMs.getD (min window.toMs nowMs)
  Words.saturatingSub nowMs weekMs ≤ max ended session.connectMs

/-- The sessions of an index with their windows, and those that a range selects. -/
def SessionPlan.new (sessions : List CoreSession) (range : LogRange) (nowMs : UInt64) :
    SessionPlan :=
  let windows := sessionWindows sessions
  let selected :=
    match range with
    | .latest => if sessions.length = 0 then [] else [sessions.length - 1]
    | .week => (List.range sessions.length).filter fun index =>
      ((sessions.zip windows)[index]?).any fun chosen => ranThisWeek nowMs chosen.1 chosen.2
    | .all => List.range sessions.length
  ⟨range, sessions, windows, selected, nowMs⟩

/-- The selected sessions with their windows, oldest first. -/
def SessionPlan.chosen (plan : SessionPlan) : List (Nat × CoreSession × Window) :=
  plan.selected.filterMap fun index =>
    ((plan.sessions.zip plan.windows)[index]?).map fun chosen => (index, chosen)

/-- The start of the oldest selected window. -/
def SessionPlan.sinceMs (plan : SessionPlan) : Option UInt64 :=
  (plan.chosen.map fun chosen => chosen.2.2.fromMs).min?

/-! ## Lines with their times -/

/-- Lines with their time in milliseconds. -/
abbrev Stamped := List (UInt64 × String)

/-- Digits as a number of 64 bits. -/
def parseU64 (digits : List Char) : Option UInt64 :=
  (Text.parseUnsigned Words.maxWord.toNat (String.ofList digits)).map UInt64.ofNat

/-- The milliseconds before the tabulator of a journal's line. -/
def coreLineTimestamp (line : List Char) : Option UInt64 :=
  if line.contains '\t' then
    let stamp := line.takeWhile (· ≠ '\t')
    if stamp.isEmpty || !stamp.all Text.isDigit then none else parseU64 stamp
  else none

/-- The milliseconds at the beginning of an event's line. -/
def eventTimestamp (line : List Char) : Option UInt64 :=
  (Text.stripPrefix (String.ofList line) "\x7b\"timestamp_ms\":").bind fun digits =>
    parseU64 (digits.toList.takeWhile Text.isDigit)

/-- The seconds before the blank of a service log's line, in milliseconds. -/
def serviceLogTimestamp (line : List Char) : Option UInt64 :=
  if line.contains ' ' then
    let seconds := line.takeWhile (· ≠ ' ')
    if seconds.isEmpty || !seconds.all Text.isDigit then none
    else (parseU64 seconds).bind fun seconds =>
      if seconds.toNat * 1000 ≤ Words.maxWord.toNat then some (seconds * 1000) else none
  else none

/-- The lines of a text that have a time. -/
def stampedLines (text : List Char) (stamp : List Char → Option UInt64) : Stamped :=
  (Daemon.strLines text).filterMap fun line =>
    (stamp line).map fun ms => (ms, String.ofList line)

/-- The lines of the user's own journal, in segments written at a time or after it. -/
def userJournalLines (directory : Option (List JournalEntry)) (sinceMs : UInt64) : Stamped :=
  ((journalSegments (directory.getD [])).filter fun segment =>
    sinceMs.toNat ≤ segment.modifiedMs).flatMap fun segment =>
      match segment.content with
      | some bytes => stampedLines (Utf8.fromUtf8Lossy bytes) coreLineTimestamp
      | none => []

/-- By time; equal times keep their order. -/
def byTime (lines : Stamped) : Stamped := lines.mergeSort fun line other => line.1 ≤ other.1

/-- The lines stamped from one time to before another. -/
def window (sorted : Stamped) (times : Window) : Stamped :=
  Slices.slice (fun line => line.1 < times.fromMs) (fun line => line.1 < times.toMs) sorted

/-- What a line takes, with the line feed after it. -/
def lineBytes (line : UInt64 × String) : Nat := line.2.utf8ByteSize + 1

/-- The newest whole lines that fit in a limit. -/
def newestWithin (lines : Stamped) (limit : Nat) : Stamped := Slices.newest lineBytes limit lines

/-- The text of some lines. -/
def textOf (lines : Stamped) : String :=
  lines.foldl (fun text line => text ++ line.2 ++ "\n") ""

/-! ## The entries -/

/-- What the daemon answers about the service's journal. -/
structure DaemonCoreJournal where
  status : String
  text : String
  truncated : Bool
  deriving DecidableEq, Repr

/-- What the archive is made from: the user's own journal and event log, the daemon's answer about
the service's journal, and the service's log files. -/
structure SessionLogs where
  journal : Option (List JournalEntry)
  events : Option String
  service : Option (Except String DaemonCoreJournal)
  serviceLogs : List (String × String)

/-- The core lines of both journals, by time. -/
def coreLines (plan : SessionPlan) (logs : SessionLogs) : Stamped :=
  let user := userJournalLines logs.journal (plan.sinceMs.getD 0)
  byTime <|
    match logs.service with
    | some (.ok journal) =>
      if journal.status = "included" then
        user ++ stampedLines journal.text.toList coreLineTimestamp
      else user
    | _ => user

/-- The events, by time. -/
def eventLines (logs : SessionLogs) : Stamped :=
  byTime ((logs.events.map fun text => stampedLines text.toList eventTimestamp).getD [])

/-- The lines of the service's log and of its predecessor, by time. -/
def serviceLines (logs : SessionLogs) : Stamped :=
  byTime <| ["service.log.1", "service.log"].flatMap fun name =>
    match logs.serviceLogs.find? fun file => file.1 = name with
    | some file => stampedLines file.2.toList serviceLogTimestamp
    | none => []

/-- What the note says of the service's journal. -/
def serviceStatus (logs : SessionLogs) : Option String :=
  match logs.service with
  | none => none
  | some (.error _) => some "журнал ядер службы недоступен: демон не ответил"
  | some (.ok journal) =>
    if journal.status = "included" then
      if journal.truncated then some "журнал ядер службы обрезан по размеру" else none
    else if journal.status = "no_service" then none
    else if journal.status = "too_old" then
      some "журнал ядер службы недоступен: служба слишком старая"
    else if journal.status = "busy" then
      some "журнал ядер службы недоступен: службой пользуется другой пользователь"
    else some "журнал ядер службы недоступен: служба не ответила"

/-- The names a folder may get: the base, and then with a number. -/
def folderName (base : String) : Nat → String
  | 0 => base
  | n + 1 => base ++ "-" ++ (n + 2).repr

/-- The first of its names that is not used. -/
def freshFolder (used : List String) (base : String) : String :=
  (((List.range (used.length + 1)).map (folderName base)).find? fun name =>
    !used.contains name).getD base

/-- One folder of the archive. -/
structure SessionFolder where
  index : Nat
  session : CoreSession
  times : Window
  folder : String
  /-- The lines of its core log, and whether older ones were left out. -/
  kept : Stamped
  cut : Bool

/-- The text of a folder's core log. -/
def SessionFolder.coreText (folder : SessionFolder) : String := textOf folder.kept

/-- The name of a folder, before it is made unique: `latest` for the newest session. -/
def baseName (plan : SessionPlan) (index : Nat) (session : CoreSession) : String :=
  if index = plan.sessions.length - 1 then "latest" else (session.connectMs / 1000).toNat.repr

/-- The lines of a core log: the newest of the window within the limits of one session and of what
is left for all. -/
def keptOf (core : Stamped) (budget : Nat) (times : Window) : Stamped :=
  newestWithin (window core times) (min maxSessionLogBytes budget)

/-- The folders of some sessions, newest first, within what is left of the limit of them all. -/
def foldersOf (plan : SessionPlan) (core : Stamped) : Nat → List String →
    List (Nat × CoreSession × Window) → List SessionFolder
  | _, _, [] => []
  | budget, used, (index, session, times) :: older =>
    let folder := freshFolder used (baseName plan index session)
    let kept := keptOf core budget times
    ⟨index, session, times, folder, kept, kept.length < (window core times).length⟩ ::
      foldersOf plan core (budget - (textOf kept).utf8ByteSize) (folder :: used) older

/-- The folders of an archive, newest first. -/
def sessionFolders (plan : SessionPlan) (logs : SessionLogs) : List SessionFolder :=
  foldersOf plan (coreLines plan logs) maxCoreSessionsBytes [] plan.chosen.reverse

/-- A text filled up to a width. -/
def padded (text : String) (width : Nat) : String :=
  text ++ String.ofList (List.replicate (width - text.toList.length) ' ')

/-- Seconds, or a word when there is no time. -/
def secondsOr (missing : String) (ms : Option UInt64) : String :=
  (ms.map fun ms => (ms / 1000).toNat.repr).getD missing

/-- The texts that come from elsewhere: translations, and local times. -/
structure Wording where
  tr : String → String
  localTimeFull : UInt64 → Option String

/-- The text that describes a session. -/
def sessionText (words : Wording) (folder : SessionFolder) (nowMs : UInt64) : String :=
  let line := fun (key value : String) => padded key 18 ++ value ++ "\n"
  let session := folder.session
  line "connect_unix" (secondsOr "" (some session.connectMs)) ++
    line "disconnect_unix" (secondsOr "open" session.disconnectMs) ++
    line "connect_local" ((words.localTimeFull session.connectMs).getD "") ++
    (match session.disconnectMs with
      | some ended =>
        line "disconnect_local" ((words.localTimeFull ended).getD "") ++
          line "duration_s"
            (secondsOr "" (some (Words.saturatingSub ended session.connectMs)))
      | none => "") ++
    line "end_reason" (session.reason.getD "open") ++
    line "mode" session.start.mode ++
    line "service" (if session.start.service then "yes" else "no") ++
    line "engines" (String.intercalate "," session.start.engines) ++
    line "profile" (session.start.profile.getD "-") ++
    line "log_window_ms" (folder.times.fromMs.toNat.repr ++ ".." ++
      (if folder.times.toMs = Words.maxWord then nowMs else folder.times.toMs).toNat.repr) ++
    line "core_lines" (if folder.cut then
      folder.kept.length.repr ++ " (older lines left out: size cap)"
      else folder.kept.length.repr)

/-- The row of a folder in the index. -/
def indexRow (folder : SessionFolder) : String :=
  String.intercalate "\t" [folder.folder, secondsOr "" (some folder.session.connectMs),
    secondsOr "open" folder.session.disconnectMs, folder.session.reason.getD "open",
    folder.session.start.mode, if folder.session.start.service then "yes" else "no",
    String.intercalate "," folder.session.start.engines, folder.session.start.profile.getD "-",
    folder.kept.length.repr] ++ "\n"

/-- A file of a folder, unless it is empty. -/
def sliceEntry (name : String) (lines : Stamped) (times : Window) : List (String × String) :=
  let text := textOf (newestWithin (window lines times) maxSessionLogBytes)
  if text.isEmpty then [] else [(name, text)]

/-- The files of a folder. -/
def SessionFolder.entries (words : Wording) (logs : SessionLogs) (nowMs : UInt64)
    (folder : SessionFolder) : List (String × String) :=
  let start := "core-sessions/" ++ folder.folder
  (start ++ "/session.txt", sessionText words folder nowMs) ::
    (start ++ "/core.log", folder.coreText) ::
    (sliceEntry (start ++ "/events.log") (eventLines logs) folder.times ++
      sliceEntry (start ++ "/service.log") (serviceLines logs) folder.times)

/-- The index of the folders, oldest first. -/
def indexText (plan : SessionPlan) (folders : List SessionFolder) : String :=
  "# MULTICORE core sessions · range: " ++ plan.range.key ++ " · generated_unix: " ++
    secondsOr "" (some plan.nowMs) ++ "\n" ++
    "folder\tconnect_unix\tdisconnect_unix\tend_reason\tmode\tservice\tengines\tprofile\t" ++
    "core_lines\n" ++
    String.join (folders.reverse.map indexRow)

/-- The note about the archive, and its entries. -/
def sessionEntries (words : Wording) (plan : SessionPlan) (logs : SessionLogs) :
    String × List (String × String) :=
  let line := fun (key value : String) => padded (words.tr key) 22 ++ value ++ "\n"
  let note := line "Диапазон лога" (words.tr plan.range.describe)
  if plan.selected.isEmpty then
    (note ++ line "Подключения" (words.tr "нет записанных подключений"), [])
  else
    let folders := sessionFolders plan logs
    let summary := plan.selected.length.repr ++ " (core-sessions/)" ++
      ((serviceStatus logs).map fun status => "; " ++ words.tr status).getD ""
    (note ++ line "Подключения" summary,
      ("core-sessions/index.txt", indexText plan folders) ::
        folders.flatMap (SessionFolder.entries words logs plan.nowMs))

/-! ## Windows of the lines -/

section Windows

variable {core : Stamped} {times : Window}

/-- No line comes before one of an earlier time. -/
theorem byTime_sorted (lines : Stamped) :
    (byTime lines).Pairwise fun line other => line.1 ≤ other.1 := by
  have htrans : ∀ a b c : UInt64 × String, decide (a.1 ≤ b.1) = true → decide (b.1 ≤ c.1) = true →
      decide (a.1 ≤ c.1) = true := fun a b c hab hbc =>
    decide_eq_true (UInt64.le_trans (of_decide_eq_true hab) (of_decide_eq_true hbc))
  have htotal : ∀ a b : UInt64 × String, (decide (a.1 ≤ b.1) || decide (b.1 ≤ a.1)) = true := by
    intro a b
    rw [Bool.or_eq_true, decide_eq_true_eq, decide_eq_true_eq]
    exact UInt64.le_total a.1 b.1
  exact (List.pairwise_mergeSort htrans htotal lines).imp fun h => of_decide_eq_true h

/-- In the order of time no line is before a time after one that is not. -/
theorem partitioned_before (h : core.Pairwise fun line other => line.1 ≤ other.1)
    (time : UInt64) : Slices.Partitioned (fun line => decide (line.1 < time)) core := by
  refine h.imp fun hle hlt => ?_
  rw [decide_eq_true_eq] at hlt ⊢
  exact UInt64.lt_of_le_of_lt hle hlt

/-- The lines stamped within a window. -/
def inWindow (times : Window) (line : UInt64 × String) : Bool :=
  !decide (line.1 < times.fromMs) && decide (line.1 < times.toMs)

/-- A window has the lines stamped in it, in their order. -/
theorem window_eq_filter (h : core.Pairwise fun line other => line.1 ≤ other.1) :
    window core times = core.filter (inWindow times) :=
  Slices.slice_eq_filter (partitioned_before h _) (partitioned_before h _)

/-- The text so far stands before that of the lines. -/
theorem foldl_textOf (lines : Stamped) (text : String) :
    lines.foldl (fun text line => text ++ line.2 ++ "\n") text = text ++ textOf lines := by
  induction lines generalizing text with
  | nil => exact String.append_empty.symm
  | cons line lines ih =>
    rw [textOf, List.foldl_cons, List.foldl_cons, ih, ih, String.empty_append, String.append_assoc,
      String.append_assoc, String.append_assoc]

/-- The text of lines is made from the texts of their parts. -/
theorem textOf_append (lines more : Stamped) :
    textOf (lines ++ more) = textOf lines ++ textOf more := by
  rw [textOf, List.foldl_append, foldl_textOf more]
  rfl

/-- What a text of lines takes. -/
theorem utf8ByteSize_textOf (lines : Stamped) :
    (textOf lines).utf8ByteSize = (lines.map lineBytes).sum := by
  induction lines with
  | nil => rfl
  | cons line lines ih =>
    have hfeed : "\n".utf8ByteSize = 1 := by decide
    rw [textOf, List.foldl_cons, foldl_textOf, String.utf8ByteSize_append,
      String.utf8ByteSize_append, String.utf8ByteSize_append, ih, hfeed, List.map_cons,
      List.sum_cons, String.utf8ByteSize_empty, Nat.zero_add, lineBytes]

end Windows

/-! ## Names of folders -/

section Names

/-- Numbers are told apart by their digits. -/
theorem repr_injective {m n : Nat} (h : m.repr = n.repr) : m = n := by
  have hdigits := congrArg String.toList h
  rw [Nat.toList_repr, Nat.toList_repr] at hdigits
  have hvalue := congrArg (fun digits => Nat.ofDigitChars 10 digits 0) hdigits
  simpa only [Nat.ofDigitChars_toDigits (by decide : 1 < 10) (by decide : 10 ≤ 10)] using hvalue

/-- No two of the names are the same. -/
theorem folderName_injective (base : String) : Function.Injective (folderName base) := by
  have hlonger : ∀ n, base.toList.length < (folderName base (n + 1)).toList.length := by
    intro n
    rw [folderName, String.toList_append, String.toList_append, List.length_append,
      List.length_append, show "-".toList.length = 1 by decide]
    omega
  intro m n h
  cases m with
  | zero =>
    cases n with
    | zero => rfl
    | succ n => exact absurd (congrArg (fun name => name.toList.length) h) (hlonger n).ne
  | succ m =>
    cases n with
    | zero => exact absurd (congrArg (fun name => name.toList.length) h) (hlonger m).ne'
    | succ n =>
      have hchars := congrArg String.toList h
      simp only [folderName, String.toList_append, List.append_cancel_left_eq,
        String.toList_inj] at hchars
      have hnumber := repr_injective hchars
      omega

/-- One of the names is free. -/
theorem freshFolder_not_mem (used : List String) (base : String) :
    freshFolder used base ∉ used := by
  rw [freshFolder]
  cases hfound : ((List.range (used.length + 1)).map (folderName base)).find? fun name =>
      !used.contains name with
  | some name =>
    have hfree := List.find?_some hfound
    rw [Bool.not_eq_true', ← Bool.not_eq_true, List.contains_iff_mem] at hfree
    exact hfree
  | none =>
    rw [List.find?_eq_none] at hfound
    -- more names than are used, all different and all used
    have hnodup : ((List.range (used.length + 1)).map (folderName base)).Nodup :=
      List.nodup_range.map (folderName_injective base)
    have hused : (List.range (used.length + 1)).map (folderName base) ⊆ used := by
      intro name hname
      have hnot := hfound name hname
      rw [Bool.not_eq_true', Bool.not_eq_false, List.contains_iff_mem] at hnot
      exact hnot
    have hlength := (List.subperm_of_subset hnodup hused).length_le
    rw [List.length_map, List.length_range] at hlength
    omega

end Names

/-! ## Core logs among the entries -/

section CoreLogs

/-- The name of a core log. -/
def isCoreLog (name : String) : Bool := "/core.log".toList.isSuffixOf name.toList

/-- The core logs among the entries of an archive. -/
def coreLogs (entries : List (String × String)) : List (String × String) :=
  entries.filter fun entry => isCoreLog entry.1

/-- What the texts of some entries take. -/
def bytesOf (entries : List (String × String)) : Nat :=
  (entries.map fun entry => entry.2.utf8ByteSize).sum

/-- What the core logs of some folders take. -/
def takenBy (folders : List SessionFolder) : Nat :=
  (folders.map fun folder => folder.coreText.utf8ByteSize).sum

/-- The entry of a folder's core log. -/
def SessionFolder.coreLog (folder : SessionFolder) : String × String :=
  ("core-sessions/" ++ folder.folder ++ "/core.log", folder.coreText)

/-- Only the end of a name decides. -/
theorem isCoreLog_append (start ending : String)
    (h : "/core.log".toList.length ≤ ending.toList.length) :
    isCoreLog (start ++ ending) = isCoreLog ending := by
  rw [isCoreLog, isCoreLog, String.toList_append, Bool.eq_iff_iff, List.isSuffixOf_iff_suffix,
    List.isSuffixOf_iff_suffix]
  exact ⟨fun hsuffix => List.suffix_of_suffix_length_le hsuffix (List.suffix_append _ _) h,
    List.suffix_append_of_suffix⟩

/-- A slice is no core log. -/
theorem coreLogs_sliceEntry {name : String} (h : isCoreLog name = false) (lines : Stamped)
    (times : Window) : coreLogs (sliceEntry name lines times) = [] := by
  rw [sliceEntry]
  split
  · rfl
  · rw [coreLogs, List.filter_cons_of_neg (by simp [h]), List.filter_nil]

/-- A folder has one core log. -/
theorem coreLogs_entries (words : Wording) (logs : SessionLogs) (nowMs : UInt64)
    (folder : SessionFolder) : coreLogs (folder.entries words logs nowMs) = [folder.coreLog] := by
  have hname : ∀ ending : String, "/core.log".toList.length ≤ ending.toList.length →
      isCoreLog ("core-sessions/" ++ folder.folder ++ ending) = isCoreLog ending :=
    fun ending => isCoreLog_append _ ending
  have hsession := hname "/session.txt" (by decide)
  have hcore := hname "/core.log" (by decide)
  have hevents := hname "/events.log" (by decide)
  have hservice := hname "/service.log" (by decide)
  have hslices := congrArg₂ (· ++ ·)
    (coreLogs_sliceEntry (hevents.trans (by decide)) (eventLines logs) folder.times)
    (coreLogs_sliceEntry (hservice.trans (by decide)) (serviceLines logs) folder.times)
  rw [SessionFolder.entries, coreLogs, List.filter_cons_of_neg (by rw [hsession]; decide),
    List.filter_cons_of_pos (by rw [hcore]; decide), List.filter_append]
  exact congrArg (folder.coreLog :: ·) hslices

/-- Every folder has one core log. -/
theorem coreLogs_flatMap_entries (words : Wording) (logs : SessionLogs) (nowMs : UInt64)
    (folders : List SessionFolder) :
    coreLogs (folders.flatMap (SessionFolder.entries words logs nowMs)) =
      folders.map SessionFolder.coreLog := by
  rw [coreLogs, List.filter_flatMap]
  refine (List.flatMap_congr fun folder _ => coreLogs_entries words logs nowMs folder).trans ?_
  exact List.flatMap_pure_eq_map _ _

/-- The texts of the core logs, one after the other. -/
theorem join_coreLogs (folders : List SessionFolder) :
    String.join ((folders.map SessionFolder.coreLog).map Prod.snd) =
      textOf (folders.flatMap SessionFolder.kept) := by
  induction folders with
  | nil => rfl
  | cons folder folders ih =>
    rw [List.map_cons, List.map_cons, String.join_cons, ih, List.flatMap_cons, textOf_append]
    rfl

/-- What the core logs take is the sum over the folders. -/
theorem bytesOf_coreLogs (folders : List SessionFolder) :
    bytesOf (folders.map SessionFolder.coreLog) = takenBy folders := by
  rw [bytesOf, takenBy, List.map_map]
  rfl

/-- Different folders have core logs of different names. -/
theorem coreLog_names {folders : List SessionFolder}
    (h : (folders.map SessionFolder.folder).Nodup) :
    ((folders.map SessionFolder.coreLog).map Prod.fst).Nodup := by
  have hname : (folders.map SessionFolder.coreLog).map Prod.fst =
      (folders.map SessionFolder.folder).map fun name => "core-sessions/" ++ name ++ "/core.log" := by
    rw [List.map_map, List.map_map]
    rfl
  rw [hname]
  refine h.map fun name other hsame => ?_
  have hchars := congrArg String.toList hsame
  simp only [String.toList_append, List.append_cancel_right_eq, List.append_cancel_left_eq,
    String.toList_inj] at hchars
  exact hchars

end CoreLogs

/-! ## Folders -/

section Folders

variable {plan : SessionPlan} {core : Stamped} {budget : Nat} {used : List String}
  {chosen : List (Nat × CoreSession × Window)}

/-- There is a folder for each session, with its window. -/
theorem foldersOf_chosen (plan : SessionPlan) (core : Stamped) (budget : Nat)
    (used : List String) (chosen : List (Nat × CoreSession × Window)) :
    (foldersOf plan core budget used chosen).map (fun folder =>
      (folder.index, folder.session, folder.times)) = chosen := by
  induction chosen generalizing budget used with
  | nil => rfl
  | cons first older ih =>
    obtain ⟨index, session, times⟩ := first
    rw [foldersOf]
    rw [List.map_cons, ih]

/-- The names of folders are new and different. -/
theorem foldersOf_names (plan : SessionPlan) (core : Stamped) (budget : Nat)
    (used : List String) (chosen : List (Nat × CoreSession × Window)) :
    ((foldersOf plan core budget used chosen).map SessionFolder.folder).Nodup ∧
      ∀ folder ∈ foldersOf plan core budget used chosen, folder.folder ∉ used := by
  induction chosen generalizing budget used with
  | nil => exact ⟨List.nodup_nil, fun _ h => absurd h List.not_mem_nil⟩
  | cons first older ih =>
    obtain ⟨index, session, times⟩ := first
    rw [foldersOf]
    obtain ⟨hnodup, hfresh⟩ := ih (budget - (textOf (keptOf core budget times)).utf8ByteSize)
      (freshFolder used (baseName plan index session) :: used)
    constructor
    · rw [List.map_cons, List.nodup_cons]
      refine ⟨fun hmem => ?_, hnodup⟩
      obtain ⟨folder, hfolder, hname⟩ := List.mem_map.1 hmem
      exact hfresh folder hfolder (hname ▸ List.mem_cons_self)
    · intro folder hfolder
      rcases List.mem_cons.1 hfolder with rfl | hfolder
      · exact freshFolder_not_mem used _
      · exact fun hmem => hfresh folder hfolder (List.mem_cons_of_mem _ hmem)

/-- Each core log is the longest suffix of its window within its limits, which are those of one
session and what the newer folders have left. -/
theorem foldersOf_longest {before older : List SessionFolder} {folder : SessionFolder}
    (h : foldersOf plan core budget used chosen = before ++ folder :: older) :
    Slices.IsLongest lineBytes (min maxSessionLogBytes (budget - takenBy before))
      (window core folder.times) folder.kept := by
  induction chosen generalizing budget used before with
  | nil => exact absurd h.symm (by simp [foldersOf])
  | cons first rest ih =>
    obtain ⟨index, session, times⟩ := first
    rw [foldersOf] at h
    cases before with
    | nil =>
      obtain ⟨rfl, -⟩ := List.cons.inj h
      exact Slices.newest_isLongest (window core times)
    | cons newer before =>
      obtain ⟨rfl, hrest⟩ := List.cons.inj h
      have hlongest := ih hrest
      rw [takenBy, List.map_cons, List.sum_cons, ← Nat.sub_sub]
      exact hlongest

/-- The kept lines of all folders fit in the limit. -/
theorem foldersOf_total (plan : SessionPlan) (core : Stamped) (budget : Nat)
    (used : List String) (chosen : List (Nat × CoreSession × Window)) :
    takenBy (foldersOf plan core budget used chosen) ≤ budget := by
  induction chosen generalizing budget used with
  | nil => exact Nat.zero_le _
  | cons first older ih =>
    obtain ⟨index, session, times⟩ := first
    rw [foldersOf]
    have hfits : (textOf (keptOf core budget times)).utf8ByteSize ≤ budget := by
      rw [utf8ByteSize_textOf]
      exact le_trans (Slices.newest_isLongest (window core times)).fits (min_le_right _ _)
    have hrest := ih (budget - (textOf (keptOf core budget times)).utf8ByteSize)
      (freshFolder used (baseName plan index session) :: used)
    rw [takenBy, List.map_cons, List.sum_cons]
    change (textOf (keptOf core budget times)).utf8ByteSize + takenBy _ ≤ budget
    omega

/-- Read from the oldest folder on, the core logs have each line once at most, in order. -/
theorem foldersOf_sublist (hcore : core.Pairwise fun line other => line.1 ≤ other.1)
    (hwindows : chosen.Pairwise fun newer older => older.2.2.toMs ≤ newer.2.2.fromMs)
    (hordered : ∀ entry ∈ chosen, entry.2.2.fromMs ≤ entry.2.2.toMs) (stop : UInt64)
    (hstop : ∀ entry ∈ chosen, entry.2.2.toMs ≤ stop) :
    ((foldersOf plan core budget used chosen).reverse.flatMap SessionFolder.kept).Sublist
      (core.filter fun line => decide (line.1 < stop)) := by
  induction chosen generalizing budget used stop with
  | nil => exact List.nil_sublist _
  | cons first older ih =>
    obtain ⟨index, session, times⟩ := first
    obtain ⟨hbefore, hrest⟩ := List.pairwise_cons.1 hwindows
    have htimes : times.fromMs ≤ times.toMs := hordered _ List.mem_cons_self
    rw [foldersOf, List.reverse_cons, List.flatMap_append, List.flatMap_singleton]
    have holder : ((foldersOf plan core (budget - (textOf (keptOf core budget times)).utf8ByteSize)
        (freshFolder used (baseName plan index session) :: used) older).reverse.flatMap
          SessionFolder.kept).Sublist
        (core.filter fun line => decide (line.1 < times.fromMs)) :=
      ih hrest (fun entry hentry => hordered entry (List.mem_cons_of_mem _ hentry)) _ hbefore
    have hkept : (keptOf core budget times).Sublist (core.filter (inWindow times)) := by
      rw [← window_eq_filter hcore]
      exact (Slices.newest_isLongest (window core times)).suffix.sublist
    have hboth := holder.append hkept
    have hend : core.filter (fun line => decide (line.1 < times.fromMs)) ++
        core.filter (inWindow times) = core.filter fun line => decide (line.1 < times.toMs) := by
      refine Slices.filter_append_filter (partitioned_before hcore _) fun line _ hline => ?_
      rw [decide_eq_true_eq] at hline ⊢
      exact UInt64.lt_of_lt_of_le hline htimes
    rw [hend] at hboth
    refine hboth.trans (List.monotone_filter_right core fun line hline => ?_)
    rw [decide_eq_true_eq] at hline ⊢
    exact UInt64.lt_of_lt_of_le hline (hstop _ List.mem_cons_self)

end Folders

/-! ## The archive -/

section Archive

variable {sessions : List CoreSession} {range : LogRange} {nowMs : UInt64}

/-- Every session has a window. -/
theorem length_zip_windows (sessions : List CoreSession) :
    (sessions.zip (sessionWindows sessions)).length = sessions.length := by
  rw [List.length_zip, sessionWindows, Daemon.length_windowsAfter, Nat.min_self]

/-- Sessions are selected in their order, each once. -/
theorem selected_increasing :
    (SessionPlan.new sessions range nowMs).selected.Pairwise (· < ·) ∧
      ∀ index ∈ (SessionPlan.new sessions range nowMs).selected, index < sessions.length := by
  cases range with
  | latest =>
    rw [SessionPlan.new]
    dsimp only
    split_ifs with hnone
    · exact ⟨List.Pairwise.nil, fun _ h => absurd h List.not_mem_nil⟩
    · refine ⟨List.pairwise_singleton _ _, fun index hindex => ?_⟩
      rw [List.mem_singleton.1 hindex]
      omega
  | week =>
    refine ⟨List.pairwise_lt_range.filter _, fun index hindex => ?_⟩
    exact List.mem_range.1 (List.mem_of_mem_filter hindex)
  | all => exact ⟨List.pairwise_lt_range, fun index hindex => List.mem_range.1 hindex⟩

/-- Every selected session is chosen. -/
theorem chosen_indices (sessions : List CoreSession) (range : LogRange) (nowMs : UInt64) :
    (SessionPlan.new sessions range nowMs).chosen.map Prod.fst =
      (SessionPlan.new sessions range nowMs).selected := by
  have hsome : ∀ index ∈ (SessionPlan.new sessions range nowMs).selected,
      Option.map Prod.fst (((sessions.zip (sessionWindows sessions))[index]?).map fun chosen =>
        (index, chosen)) = some index := by
    intro index hindex
    have hlt := selected_increasing.2 index hindex
    rw [← length_zip_windows sessions] at hlt
    rw [List.getElem?_eq_getElem hlt]
    rfl
  rw [SessionPlan.chosen, List.map_filterMap]
  exact (List.filterMap_congr hsome).trans List.filterMap_some

/-- A chosen session has its own window. -/
theorem chosen_window {chosen : Nat × CoreSession × Window}
    (h : chosen ∈ (SessionPlan.new sessions range nowMs).chosen) :
    sessions[chosen.1]? = some chosen.2.1 ∧
      (sessionWindows sessions)[chosen.1]? = some chosen.2.2 := by
  obtain ⟨index, -, hindex⟩ := List.mem_filterMap.1 h
  obtain ⟨found, hfound, rfl⟩ := Option.map_eq_some_iff.1 hindex
  exact List.getElem?_zip_eq_some.1 hfound

/-- The windows of the chosen sessions follow each other. -/
theorem chosen_windows (sessions : List CoreSession) (range : LogRange) (nowMs : UInt64) :
    (SessionPlan.new sessions range nowMs).chosen.Pairwise fun older newer =>
      older.2.2.toMs ≤ newer.2.2.fromMs := by
  have hincreasing : (SessionPlan.new sessions range nowMs).chosen.Pairwise fun older newer =>
      older.1 < newer.1 := by
    rw [← List.pairwise_map, chosen_indices]
    exact selected_increasing.1
  refine hincreasing.imp_of_mem fun {older newer} holder hnewer hlt => ?_
  obtain ⟨hi, hwindow⟩ := List.getElem?_eq_some_iff.1 (chosen_window holder).2
  obtain ⟨hj, hother⟩ := List.getElem?_eq_some_iff.1 (chosen_window hnewer).2
  rw [← hwindow, ← hother]
  exact List.pairwise_iff_getElem.1 (Daemon.pairwise_windowsAfter 0 sessions) _ _ hi hj hlt

/-- The entries are the index and the files of the folders. -/
theorem sessionEntries_eq (words : Wording) (sessions : List CoreSession) (range : LogRange)
    (nowMs : UInt64) (logs : SessionLogs) :
    (sessionEntries words (.new sessions range nowMs) logs).2 =
      if (SessionPlan.new sessions range nowMs).selected = [] then [] else
        ("core-sessions/index.txt", indexText (.new sessions range nowMs)
          (sessionFolders (.new sessions range nowMs) logs)) ::
            (sessionFolders (.new sessions range nowMs) logs).flatMap
              (SessionFolder.entries words logs nowMs) := by
  rw [sessionEntries]
  by_cases hnone : (SessionPlan.new sessions range nowMs).selected = []
  · rw [if_pos (List.isEmpty_iff.2 hnone), if_pos hnone]
  · rw [if_neg fun hempty => hnone (List.isEmpty_iff.1 hempty), if_neg hnone]
    rfl

/-- The core logs that are returned are those of the folders. -/
theorem coreLogs_sessionEntries (words : Wording) (sessions : List CoreSession) (range : LogRange)
    (nowMs : UInt64) (logs : SessionLogs) :
    coreLogs (sessionEntries words (.new sessions range nowMs) logs).2 =
      (sessionFolders (.new sessions range nowMs) logs).map SessionFolder.coreLog := by
  rw [sessionEntries_eq]
  split_ifs with hnone
  · have hchosen := chosen_indices sessions range nowMs
    rw [hnone, List.map_eq_nil_iff] at hchosen
    rw [sessionFolders, hchosen]
    rfl
  · have hindex : isCoreLog "core-sessions/index.txt" = false := by decide
    rw [coreLogs, List.filter_cons_of_neg (by simp [hindex])]
    exact coreLogs_flatMap_entries words logs nowMs _

/-- Two sessions, the second of which is still open. -/
private def twoSessions : List CoreSession :=
  [⟨5000, some 6000, some "user", ⟨"tun", true, ["xray", "mihomo"], none⟩⟩,
    ⟨7000, none, none, ⟨"tun", true, ["xray", "mihomo"], none⟩⟩]

/-- A line of the first session. -/
private def oldLine : String := "5500\txray\tstdout\tone"

/-- A line of the second session. -/
private def newLine : String := "7500\tmihomo\tstderr\ttwo"

/-- The service's journal has one line of either session. -/
private def twoLogs : SessionLogs :=
  ⟨none, none, some (.ok ⟨"included", oldLine ++ "\n" ++ newLine ++ "\n", false⟩), []⟩

/-- Texts as they are, and no local times. -/
private def untranslated : Wording := ⟨id, fun _ => none⟩

end Archive

end MultiCore.Desktop
