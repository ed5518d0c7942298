import MultiCore.Daemon.SavedServiceLog

/-!
# No two files are mixed

What a saved archive promises of the service log: the text of each of its files
is one run of one file, no part of the log is in it twice, and it is not larger
than its budget. That holds as long as the log is not rotated between the first
request and the last: the only sign of a rotation the client looks for is a page
that ends early, and after one the predecessor is the file just read.
-/

namespace MultiCore.Daemon

open Utf8 Lines

section Unmixed

/-- The text of a file in the answer is one run of one file that had the name when a page of it
was asked for; unless the log was rotated meanwhile, it ends where the file did at first. -/
structure OneRun (r : Redactors) (encode : Encoding) (run : LogRun) (file : ServiceLogFile)
    (first last : Nat) (text : ServiceLogText) (id start stop : Nat) : Prop where
  order : start ≤ stop
  content : text.text = [] ∧ start = stop ∨
    ∃ request found, first ≤ request ∧ request < last ∧
      (run.filesAt request).file file = some found ∧ found.id = id ∧
      stop ≤ found.content.length ∧
      Redacted r encode file found.content start stop text.text
  ends : run.Unrotated first (last - 1) →
    ∀ found, (run.filesAt first).file file = some found → stop = found.content.length
  whole : text.truncated = false → start = 0

/-- The answer mixes no two files, holds no byte of the log twice and is within its budget. -/
def Unmixed (r : Redactors) (encode : Encoding) (run : LogRun) (current previous : Reading) :
    Prop :=
  (∃ id start stop id' start' stop',
    OneRun r encode run .current 0 current.requests (current.text .current) id start stop ∧
    OneRun r encode run .previous current.requests previous.requests (previous.text .previous)
      id' start' stop' ∧
    (id = id' → start = stop ∨ start' = stop' ∨ stop ≤ start' ∨ stop' ≤ start)) ∧
  utf8Len current.collected + utf8Len previous.collected ≤ maxServiceLogTailBytes

variable {r : Redactors} {encode : Encoding} {run : LogRun} {lost : Nat → Option ServiceError}

/-- Without a rotation meanwhile, a file is collected as one run. -/
theorem readPages_oneRun (hone : r.OneLine) {file : ServiceLogFile} {pages budget first : Nat}
    {result : Reading}
    (h : readPages (requestsOf r encode run lost) file pages (.start budget first) = .ok result)
    (hquiet : run.Unrotated first (result.requests - 1)) :
    (∃ id start stop,
      OneRun r encode run file first result.requests (result.text file) id start stop ∧
      (start = stop ∨ first < result.requests ∧
        ∃ content, (run.filesAt first).file file = some ⟨id, content⟩)) ∧
    result.budget + utf8Len result.collected ≤ budget := by
  cases hfile : (run.filesAt first).file file with
  | none =>
    obtain ⟨hnil, hbudget⟩ := readPages_missing hfile h
    refine ⟨⟨0, 0, 0, ⟨Nat.le_refl 0, Or.inl ⟨hnil, rfl⟩, ?_, fun _ => rfl⟩, Or.inl rfl⟩, ?_⟩
    · intro _ found hfound
      exact absurd (hfile.symm.trans hfound) (by simp)
    · rw [hnil, hbudget]
      exact Nat.le_refl _
  | some found =>
    have hend : ∀ found', (run.filesAt first).file file = some found' →
        found.content.length = found'.content.length := by
      intro found' hfound'
      rw [Option.some.inj (hfile.symm.trans hfound')]
    by_cases hmade : first < result.requests
    · have hstays := Stays.of_unrotated hquiet hfile
      have hlast : result.requests ≤ result.requests - 1 + 1 := by omega
      have hcollected : ∃ start,
          Redacted r encode file found.content start found.content.length result.collected ∧
          (result.complete = true → start = 0) ∧
          result.budget + utf8Len result.collected ≤ budget := by
        by_cases hfits : ∃ chunk, FitsChunks r encode file found.content chunk
        · obtain ⟨chunk, hchunk⟩ := hfits
          obtain ⟨⟨start, hrun, hcomplete⟩, hwithin⟩ :=
            readPages_collected hone (cutsOf_fitting hchunk) hstays
              (Midway.start hfile (Or.inr (Nat.le_refl _))) (Nat.le_refl _) h hlast
          exact ⟨start, ⟨hrun.mono fun _ hline => Or.inl hline,
            fun _ _ => hrun.lines fun _ hline => hline⟩, hcomplete, hwithin⟩
        · obtain ⟨⟨start, hrun, hcomplete⟩, hwithin⟩ :=
            readPages_collected hone (cutsOf_any r encode file found.content) hstays
              (Midway.start hfile (Or.inl (Or.inr (Nat.le_refl _)))) (Nat.le_refl _) h hlast
          exact ⟨start, ⟨hrun, fun chunk hchunk => absurd ⟨chunk, hchunk⟩ hfits⟩,
            hcomplete, hwithin⟩
      obtain ⟨start, hredacted, hcomplete, hwithin⟩ := hcollected
      refine ⟨⟨found.id, start, found.content.length,
        ⟨hredacted.1.le, Or.inr ?_, fun _ => hend, ?_⟩, Or.inr ⟨hmade, found.content, rfl⟩⟩,
        hwithin⟩
      · exact ⟨first, found, Nat.le_refl _, hmade, hfile, rfl, Nat.le_refl _, hredacted⟩
      · intro hwhole
        apply hcomplete
        simpa [Reading.text] using hwhole
    · obtain rfl := readPages_unasked h (Nat.le_of_not_lt hmade)
      refine ⟨⟨found.id, found.content.length, found.content.length,
        ⟨Nat.le_refl _, Or.inl ⟨rfl, rfl⟩, fun _ => hend, fun hwhole => ?_⟩, Or.inl rfl⟩,
        Nat.le_refl _⟩
      exact (nomatch hwhole)

/-- As long as the log is not rotated between the first request and the last, the answer mixes no
two files. -/
theorem service_log_unmixed (hone : r.OneLine) {current previous : Reading}
    (h : readFiles (requestsOf r encode run lost) = .ok (current, previous))
    (hquiet : run.Unrotated 0 (previous.requests - 1)) :
    Unmixed r encode run current previous := by
  unfold readFiles at h
  cases hcurrent : readPages (requestsOf r encode run lost) .current maxServiceLogPages
      (.start maxServiceLogTailBytes 0) with
  | error error =>
    rw [hcurrent] at h
    exact (nomatch h)
  | ok reading =>
    rw [hcurrent] at h
    dsimp only at h
    cases hprevious : readPages (requestsOf r encode run lost) .previous maxServiceLogPages
        (.start reading.budget reading.requests) with
    | error error =>
      rw [hprevious] at h
      exact (nomatch h)
    | ok reading' =>
      rw [hprevious] at h
      obtain ⟨rfl, rfl⟩ := Prod.mk.inj (Except.ok.inj h)
      have hadded := readPages_requests hprevious
      have horder : reading.requests ≤ reading'.requests := hadded
      obtain ⟨⟨id, start, stop, hrun, hasked⟩, hwithin⟩ :=
        readPages_oneRun hone hcurrent
          fun request hfirst hle => hquiet request hfirst (by omega)
      obtain ⟨⟨id', start', stop', hrun', hasked'⟩, hwithin'⟩ :=
        readPages_oneRun hone hprevious
          fun request hfirst hle => hquiet request (by omega) hle
      refine ⟨⟨id, start, stop, id', start', stop', hrun, hrun', ?_⟩, by omega⟩
      intro hsame
      rcases hasked with hempty | ⟨-, content, hfile⟩
      · exact Or.inl hempty
      rcases hasked' with hempty | ⟨hmade, content', hfile'⟩
      · exact Or.inr (Or.inl hempty)
      -- both files are there when the predecessor is first asked for
      obtain ⟨more, hmore⟩ := hquiet.grows (Nat.le_refl 0) (Nat.zero_le reading.requests)
        (by omega) hfile
      have hapart := (run.filesAt_distinct reading.requests).apart _ hmore _ hfile'
      exact absurd hsame hapart

theorem noMatch_empty : id ([] : List Char) = [] := rfl

/-- A pattern without a match. -/
def noMatch : Replacer := ⟨id, noMatch_empty⟩

/-- Redaction of text in which nothing is to be redacted. -/
def plainRedactors : Redactors :=
  ⟨noMatch, noMatch, noMatch, noMatch, noMatch, noMatch, noMatch, noMatch, noMatch, noMatch⟩

/-- Every answer fits a frame. -/
def smallFrames : Encoding := fun _ => some []

/-- A pattern that matches one letter. -/
def letterMasked : Replacer := ⟨fun text => text.map fun c => if c = 'k' then '*' else c, rfl⟩

/-- Redaction of values in which one letter is to be redacted. -/
def letterRedactors : Redactors :=
  ⟨noMatch, noMatch, letterMasked, noMatch, noMatch, noMatch, noMatch, noMatch, noMatch, noMatch⟩

theorem letterMasked_oneLine : letterMasked.OneLine := by
  intro text htext hmem
  obtain ⟨c, hc, hfeed⟩ := List.mem_map.1 hmem
  split_ifs at hfeed
  · exact absurd hfeed (by decide)
  · exact htext (hfeed ▸ hc)

theorem letterRedactors_oneLine : letterRedactors.OneLine :=
  ⟨fun _ h => h, fun _ h => h, letterMasked_oneLine, fun _ h => h, fun _ h => h, fun _ h => h,
    fun _ h => h, fun _ h => h, fun _ h => h, fun _ h => h⟩

/-- The lines `5 key` and `6 ok`. -/
def keyLines : List UInt8 := Utf8.encode "5 key\n6 ok\n".toList

/-- The line `4 k`. -/
def olderLine : List UInt8 := Utf8.encode "4 k\n".toList

/-- A log and its predecessor; lines are written while each of them is read. -/
def growingRun : LogRun where
  current := some keyLines
  previous := some olderLine
  between
    | 1 => [.wrote (Utf8.encode "7 more\n".toList), .wrote (Utf8.encode "8 more\n".toList)]
    | 2 => [.wrote (Utf8.encode "9 more\n".toList)]
    | _ => []
  readable _ _ := true

/-- A file that fits one page is read with one request. -/
theorem readPages_onePage {file : ServiceLogFile} {pages budget first stop : Nat}
    {h : LogHandle} {text : String} (hpositive : stop ≠ 0)
    (hhandle : growingRun.handleAt first file = some h)
    (hlength : h.content.length = stop) (hstop : stop ≤ maxServiceLogTailBytes)
    (hpage : h.page letterRedactors file 0 stop serviceLogChunkBytes =
      some (.serviceLog file 0 stop text))
    (hbudget : budget ≠ 0) (hroom : utf8Len text.toList ≤ budget) :
    readPages (requestsOf letterRedactors smallFrames growingRun fun _ => none) file (pages + 1)
        (.start budget first) =
      .ok ⟨budget - utf8Len text.toList, [text.toList], none, true, first + 1⟩ := by
  have hread : readChunk letterRedactors smallFrames (some h) file none =
      .serviceLog file 0 stop text := by
    have hfitting : h.fitting letterRedactors smallFrames file 0 stop serviceLogChunkBytes =
        .serviceLog file 0 stop text := by
      rw [LogHandle.fitting, hpage]
      rfl
    unfold readChunk
    dsimp only [Option.map_none, Option.getD_none]
    rw [hlength, Nat.sub_eq_zero_of_le hstop, if_neg (by omega)]
    exact hfitting
  have hanswer : requestsOf letterRedactors smallFrames growingRun (fun _ => none) first
      (.serviceLog file none) = .ok (.serviceLog file 0 stop text) := by
    unfold requestsOf
    dsimp only
    rw [hhandle, hread]
  rw [readPages_answered hbudget hanswer (by simp [serviceLogMatches, Reading.start])]
  have hkept : (Reading.start budget first).asked.page 0 stop text.toList =
      (⟨budget - utf8Len text.toList, [text.toList], none, true, first + 1⟩, false) := by
    have hcursor : ∀ before ∈ (Reading.start budget first).asked.before, before = stop :=
      fun before hbefore => absurd hbefore (by simp [Reading.start, Reading.asked])
    rw [Reading.page_eq hcursor, if_pos rfl]
    exact if_neg (Nat.not_lt.2 hroom)
  rw [hkept]

theorem readFiles_growingRun :
    readFiles (requestsOf letterRedactors smallFrames growingRun fun _ => none) =
      .ok (⟨maxServiceLogTailBytes - 11, ["5 *ey\n6 o*\n".toList], none, true, 1⟩,
        ⟨maxServiceLogTailBytes - 15, ["4 *\n".toList], none, true, 2⟩) := by
  have hlog : (⟨keyLines, fun _ => true⟩ : LogHandle).page letterRedactors .current 0 11
      serviceLogChunkBytes = some (.serviceLog .current 0 11 "5 *ey\n6 o*\n") := by
    decide +kernel
  have holder : (⟨olderLine, fun _ => true⟩ : LogHandle).page letterRedactors .previous 0 4
      serviceLogChunkBytes = some (.serviceLog .previous 0 4 "4 *\n") := by
    decide +kernel
  have hcurrent : readPages (requestsOf letterRedactors smallFrames growingRun fun _ => none)
      .current maxServiceLogPages (.start maxServiceLogTailBytes 0) =
      .ok ⟨maxServiceLogTailBytes - 11, ["5 *ey\n6 o*\n".toList], none, true, 1⟩ :=
    readPages_onePage (by decide) rfl rfl (by decide) hlog (by decide) (by decide)
  have hprevious : readPages (requestsOf letterRedactors smallFrames growingRun fun _ => none)
      .previous maxServiceLogPages (.start (maxServiceLogTailBytes - 11) 1) =
      .ok ⟨maxServiceLogTailBytes - 15, ["4 *\n".toList], none, true, 2⟩ :=
    readPages_onePage (by decide) rfl rfl (by decide) holder (by decide) (by decide)
  unfold readFiles
  rw [hcurrent]
  dsimp only
  rw [hprevious]

/-- The log is written to while it and its predecessor are read. -/
theorem service_log_unmixed_growing :
    Unmixed letterRedactors smallFrames growingRun
      ⟨maxServiceLogTailBytes - 11, ["5 *ey\n6 o*\n".toList], none, true, 1⟩
      ⟨maxServiceLogTailBytes - 15, ["4 *\n".toList], none, true, 2⟩ := by
  refine service_log_unmixed letterRedactors_oneLine readFiles_growingRun ?_
  intro request hfirst hlast event hevent
  have hrequest : request = 1 := by
    have hle : request ≤ 1 := hlast
    omega
  subst hrequest
  rcases List.mem_cons.1 hevent with rfl | hevent
  · exact ⟨_, rfl⟩
  · exact ⟨_, List.mem_singleton.1 hevent⟩

end Unmixed

section Rotated

/-- So many empty lines, and the line `z`. -/
def emptyLines (n : Nat) : List UInt8 := List.replicate n newline ++ [122, newline]

/-- A line past the cap of the log. -/
def longLine : List UInt8 := List.replicate 270000 119 ++ [newline]

/-- The log is rotated after its last page was read, and again after that page was read once more
from the predecessor. -/
def rotatedRun (content long : List UInt8) : LogRun where
  current := some content
  previous := none
  between
    | 1 => [.rotated, .wrote [119, newline]]
    | 3 => [.wrote long, .rotated]
    | _ => []
  readable _ _ := true

section RotatedRun

variable {content long : List UInt8}

/-- The files once the last page of the log was read and the log rotated. -/
theorem rotatedRun_filesAt_one (h : maxServiceLogBytes < content.length) :
    (rotatedRun content long).filesAt 1 =
      ⟨some ⟨2, [119, newline]⟩, some ⟨0, content⟩, 3⟩ := by
  have hfull : (⟨some ⟨0, content⟩, none, 2⟩ : LogFiles).full = true := decide_eq_true h
  change ((⟨some ⟨0, content⟩, none, 2⟩ : LogFiles).apply .rotated).apply
    (.wrote [119, newline]) = _
  rw [LogFiles.apply_rotated hfull]
  rfl

/-- The files once the long line was written and the log rotated again. -/
theorem rotatedRun_filesAt_three (h : maxServiceLogBytes < content.length)
    (hlong : maxServiceLogBytes < long.length) :
    (rotatedRun content long).filesAt 3 = ⟨none, some ⟨2, [119, newline] ++ long⟩, 3⟩ := by
  have hfull : (⟨some ⟨2, [119, newline] ++ long⟩, some ⟨0, content⟩, 3⟩ : LogFiles).full =
      true := by
    refine decide_eq_true ?_
    rw [List.length_append]
    omega
  change (((rotatedRun content long).filesAt 1).apply (.wrote long)).apply .rotated = _
  rw [rotatedRun_filesAt_one h]
  change (⟨some ⟨2, [119, newline] ++ long⟩, some ⟨0, content⟩, 3⟩ : LogFiles).apply .rotated = _
  rw [LogFiles.apply_rotated hfull]

/-- A file that is shorter than where the last page began ends the reading. -/
theorem readPages_shorter {run : LogRun} {file : ServiceLogFile} {pages : Nat} {reading : Reading}
    {start : Nat} {h : LogHandle} (hbudget : reading.budget ≠ 0)
    (hbefore : reading.before = some start) (hhandle : run.handleAt reading.requests file = some h)
    (hshort : h.content.length < start) :
    readPages (requestsOf plainRedactors smallFrames run fun _ => none) file (pages + 1) reading =
      .ok reading.asked := by
  have hoffset : (reading.before.map (min · h.content.length)).getD h.content.length =
      h.content.length := by
    rw [hbefore]
    exact Nat.min_eq_right hshort.le
  have hpage : ∃ from', from' ≤ h.content.length ∧ ∃ text,
      readChunk plainRedactors smallFrames (some h) file reading.before =
        .serviceLog file from' h.content.length text := by
    rcases readChunk_cut hoffset (Nat.zero_le 5) (Or.inl rfl) with
      hempty | ⟨-, from', hle, hread, -⟩
    · exact ⟨_, Nat.le_refl _, _, hempty⟩
    · exact ⟨from', hle, _, hread⟩
  obtain ⟨from', hle, text, hread⟩ := hpage
  have hanswer : requestsOf plainRedactors smallFrames run (fun _ => none) reading.requests
      (.serviceLog file reading.before) = .ok (.serviceLog file from' h.content.length text) := by
    unfold requestsOf
    dsimp only
    rw [hhandle, hread]
  have hmatches : serviceLogMatches file reading.before file from' h.content.length = true := by
    unfold serviceLogMatches
    rw [hbefore, Option.all_some]
    simp [hle, hshort.le]
  have hrotated : reading.asked.page from' h.content.length text.toList =
      (reading.asked, false) := by
    have hbefore' : reading.asked.before = some start := hbefore
    unfold Reading.page
    rw [hbefore', Option.any_some, if_pos (bne_iff_ne.mpr (Nat.ne_of_lt hshort))]
  rw [readPages_answered hbudget hanswer hmatches, hrotated]

/-- One page of a file, before it is gone. -/
theorem readPages_once {run : LogRun} {file : ServiceLogFile} {h next : LogHandle}
    {pages budget first start stop : Nat} {text : String} (hstart : 0 < start) (hlt : start < stop)
    (hbudget : utf8Len text.toList < budget) (hfirst : run.handleAt first file = some h)
    (hnext : run.handleAt (first + 1) file = some next) (hshort : next.content.length < start)
    (hpage : readChunk plainRedactors smallFrames (some h) file none =
      .serviceLog file start stop text) :
    readPages (requestsOf plainRedactors smallFrames run fun _ => none) file (pages + 2)
        (.start budget first) =
      .ok ⟨budget - utf8Len text.toList, [text.toList], some start, false, first + 2⟩ := by
  have hsome : budget ≠ 0 := by omega
  have hanswer : requestsOf plainRedactors smallFrames run (fun _ => none) first
      (.serviceLog file none) = .ok (.serviceLog file start stop text) := by
    unfold requestsOf
    dsimp only
    rw [hfirst, hpage]
  have hmatches : serviceLogMatches file none file start stop = true := by
    unfold serviceLogMatches
    simp [hlt.le]
  have hasked : (Reading.start budget first).asked.page start stop text.toList =
      (⟨budget - utf8Len text.toList, [text.toList], some start, false, first + 1⟩, true) := by
    have hcursor : ∀ before ∈ (Reading.start budget first).asked.before, before = stop :=
      fun before hbefore => absurd hbefore (by simp [Reading.start, Reading.asked])
    have hroom : ¬ budget < utf8Len text.toList := by omega
    rw [Reading.page_eq hcursor, if_neg hstart.ne', if_neg (Nat.ne_of_lt hlt)]
    exact if_neg hroom
  have hleft : budget - utf8Len text.toList ≠ 0 := by omega
  rw [readPages_answered hsome hanswer hmatches, hasked]
  exact readPages_shorter hleft rfl hnext hshort

/-- The answer once the log was rotated twice: the last page of the log, and once more as the last
page of its predecessor. -/
theorem readFiles_rotatedRun {start stop : Nat} {text : String}
    (hcontent : maxServiceLogBytes < content.length) (hlong : maxServiceLogBytes < long.length)
    (hshort : long.length + 2 < start) (hlt : start < stop)
    (htwice : 2 * utf8Len text.toList < maxServiceLogTailBytes)
    (hpage : ∀ file, readChunk plainRedactors smallFrames (some ⟨content, fun _ => true⟩) file none =
      .serviceLog file start stop text) :
    readFiles (requestsOf plainRedactors smallFrames (rotatedRun content long) fun _ => none) =
      .ok (⟨maxServiceLogTailBytes - utf8Len text.toList, [text.toList], some start, false, 2⟩,
        ⟨maxServiceLogTailBytes - utf8Len text.toList - utf8Len text.toList, [text.toList],
          some start, false, 4⟩) := by
  have hone := @rotatedRun_filesAt_one content long hcontent
  have hthree := rotatedRun_filesAt_three hcontent hlong
  have hfirst : (rotatedRun content long).handleAt 0 .current =
      some ⟨content, fun _ => true⟩ := rfl
  have hsecond : (rotatedRun content long).handleAt 1 .current =
      some ⟨[119, newline], fun _ => true⟩ := by
    unfold LogRun.handleAt
    rw [hone]
    rfl
  have hthird : (rotatedRun content long).handleAt 2 .previous =
      some ⟨content, fun _ => true⟩ := by
    unfold LogRun.handleAt
    change (((rotatedRun content long).filesAt 1).file .previous).map _ = _
    rw [hone]
    rfl
  have hfourth : (rotatedRun content long).handleAt 3 .previous =
      some ⟨[119, newline] ++ long, fun _ => true⟩ := by
    unfold LogRun.handleAt
    rw [hthree]
    rfl
  have hcurrent : readPages (requestsOf plainRedactors smallFrames (rotatedRun content long)
      fun _ => none) .current maxServiceLogPages (.start maxServiceLogTailBytes 0) =
      .ok ⟨maxServiceLogTailBytes - utf8Len text.toList, [text.toList], some start, false, 2⟩ :=
    readPages_once (by omega) hlt (by omega) hfirst hsecond (by simp; omega) (hpage .current)
  have hprevious : readPages (requestsOf plainRedactors smallFrames (rotatedRun content long)
      fun _ => none) .previous maxServiceLogPages
      (.start (maxServiceLogTailBytes - utf8Len text.toList) 2) =
      .ok ⟨maxServiceLogTailBytes - utf8Len text.toList - utf8Len text.toList, [text.toList],
        some start, false, 4⟩ :=
    readPages_once (by omega) hlt (by omega) hthird hfourth (by simp; omega) (hpage .previous)
  unfold readFiles
  rw [hcurrent]
  dsimp only
  rw [hprevious]

end RotatedRun

theorem length_emptyLines (n : Nat) : (emptyLines n).length = n + 2 := by
  simp [emptyLines]

theorem emptyLines_succ (n : Nat) : emptyLines (n + 1) = [] ++ newline :: emptyLines n := by
  simp [emptyLines, List.replicate_succ]

theorem window_emptyLines {k n : Nat} (h : k ≤ n) :
    window (emptyLines n) k (n + 2) = emptyLines (n - k) := by
  unfold window
  rw [List.take_of_length_le]
  · unfold emptyLines
    rw [List.drop_append_of_le_length (by simpa using h), List.drop_replicate]
  · rw [List.length_drop, length_emptyLines]

theorem plain_emptyLines (n : Nat) :
    plainRedactors.redactBytes (emptyLines n) = List.replicate n '\n' ++ ['z', '\n'] := by
  induction n with
  | zero => decide
  | succ n ih =>
    rw [emptyLines_succ, Redactors.redactBytes_line List.not_mem_nil, ih]
    have hnone : plainRedactors.redactServiceLogLine (fromUtf8Lossy []) = [] :=
      plainRedactors.redactServiceLogLine_nil
    rw [hnone, List.replicate_succ]
    rfl

theorem utf8Len_emptyLines (n : Nat) : utf8Len (List.replicate n '\n' ++ ['z', '\n']) = n + 2 := by
  induction n with
  | zero => rfl
  | succ n ih =>
    have hfeed : '\n'.utf8Size = 1 := rfl
    rw [List.replicate_succ, List.cons_append, utf8Len_cons, ih, hfeed]
    omega

theorem fits_smallFrames (response : ServiceResponse) : smallFrames.fits response = true := rfl

/-- The last page of many empty lines. -/
theorem readChunk_emptyLines {n m : Nat} (hpage : m + 3 = serviceLogChunkBytes) (hmany : m + 1 < n)
    (hcap : n + 2 ≤ maxServiceLogTailBytes) (file : ServiceLogFile) :
    readChunk plainRedactors smallFrames (some ⟨emptyLines n, fun _ => true⟩) file none =
      .serviceLog file (n - m) (n + 2)
        (String.ofList (List.replicate m '\n' ++ ['z', '\n'])) := by
  have hraw : max (n + 2 - serviceLogChunkBytes) 0 = n - (m + 1) := by omega
  have hwindow : window (emptyLines n) (n - (m + 1)) (n + 2) = emptyLines (m + 1) := by
    rw [window_emptyLines (Nat.sub_le _ _), Nat.sub_sub_self (by omega)]
  have hskip : skipToLine (n - (m + 1)) (emptyLines (m + 1)) = 1 := by
    have hfirst : (emptyLines (m + 1)).idxOf? newline = some 0 := by
      rw [emptyLines_succ, List.nil_append, List.idxOf?_cons, if_pos (beq_self_eq_true _)]
    have hpositive : 0 < n - (m + 1) := by omega
    have hlong : ¬ m + 1 + 2 ≤ 1 := by omega
    unfold skipToLine
    rw [length_emptyLines, hfirst, if_pos hpositive]
    exact if_neg hlong
  have hserved : (⟨emptyLines n, fun _ => true⟩ : LogHandle).page plainRedactors file 0 (n + 2)
      serviceLogChunkBytes = some (.serviceLog file (n - m) (n + 2)
        (String.ofList (List.replicate m '\n' ++ ['z', '\n']))) := by
    have hstart : n - (m + 1) + 1 = n - m := by omega
    have hstop : n - (m + 1) + (m + 1 + 2) = n + 2 := by omega
    have htext := plain_emptyLines m
    unfold Redactors.redactBytes at htext
    unfold LogHandle.page
    dsimp only
    rw [hraw, if_pos rfl, hwindow, hskip, length_emptyLines, hstart, hstop, emptyLines_succ,
      List.nil_append, List.drop_succ_cons, List.drop_zero, htext]
  have hfitting : (⟨emptyLines n, fun _ => true⟩ : LogHandle).fitting plainRedactors smallFrames
      file 0 (n + 2) serviceLogChunkBytes = .serviceLog file (n - m) (n + 2)
        (String.ofList (List.replicate m '\n' ++ ['z', '\n'])) := by
    rw [LogHandle.fitting, hserved]
    dsimp only
    rw [if_pos (fits_smallFrames _)]
  unfold readChunk
  dsimp only [Option.map_none, Option.getD_none]
  rw [length_emptyLines, Nat.sub_eq_zero_of_le hcap, if_neg (by omega)]
  exact hfitting

/-- Where nothing is redacted, only the byte of a letter is shown as that letter. -/
theorem mem_of_redactBytes_plain {bytes : List UInt8}
    (h : 'z' ∈ plainRedactors.redactBytes bytes) : (122 : UInt8) ∈ bytes := by
  have hbody : ∀ body : List UInt8,
      'z' ∈ plainRedactors.redactServiceLogLine (fromUtf8Lossy body) → (122 : UInt8) ∈ body := by
    intro body hmem
    have hline : 'z' ∈ fromUtf8Lossy body := by
      unfold Redactors.redactServiceLogLine at hmem
      dsimp only at hmem
      split at hmem
      · exact Redactors.mem_of_plain_line (by decide)
          (Redactors.mem_of_redactedDiagnostic (by decide) (by decide) hmem)
      · exact Redactors.mem_of_plain_line (by decide) hmem
    by_contra hnone
    exact decodeFrom_ne none (a := 122) (by decide) hnone hline
  induction bytes using induction_lines newline with
  | nil => exact absurd h List.not_mem_nil
  | unfinished body hline hne =>
    unfold Redactors.redactBytes at h
    rw [plainRedactors.redactServiceLog_unfinished (fromUtf8Lossy_ne_newline hline)] at h
    exact hbody body h
  | line body rest hline ih =>
    rw [Redactors.redactBytes_line hline] at h
    rcases List.mem_append.1 h with hfirst | hrest
    · exact List.mem_append_left _ (hbody body hfirst)
    · rcases List.mem_cons.1 hrest with hfeed | hrest
      · exact absurd hfeed (by decide)
      · exact List.mem_append_right _ (List.mem_cons_of_mem _ (ih hrest))

/-- A letter in the text of pages stands in the bytes they show. -/
theorem PagesOf.index {content : List UInt8} {cut : Nat → Prop} {start stop : Nat}
    {text : List Char} (h : PagesOf plainRedactors content cut start stop text)
    (hmem : 'z' ∈ text) : ∃ i, start ≤ i ∧ i < stop ∧ content[i]? = some 122 := by
  induction h with
  | none stop => exact absurd hmem List.not_mem_nil
  | @page start mid stop text hle hcut rest ih =>
    rcases List.mem_append.1 hmem with hfirst | hrest
    · obtain ⟨k, hk, hbyte⟩ := List.getElem_of_mem (mem_of_redactBytes_plain hfirst)
      have hlength : (window content start mid).length ≤ mid - start := List.length_take_le _ _
      have hindex : content[start + k]? = some 122 := by
        have hwindow : (window content start mid)[k]? = some 122 := by
          rw [List.getElem?_eq_getElem hk, hbyte]
        unfold window at hwindow
        rw [List.getElem?_take_of_lt (by omega), List.getElem?_drop] at hwindow
        exact hwindow
      have hafter := rest.le
      exact ⟨start + k, by omega, by omega, hindex⟩
    · obtain ⟨i, hstart, hstop, hbyte⟩ := ih hrest
      exact ⟨i, by omega, hstop, hbyte⟩

/-- The letter stands in one place only. -/
theorem index_emptyLines {n i : Nat} (h : (emptyLines n)[i]? = some 122) : i = n := by
  unfold emptyLines at h
  by_cases hi : i < n
  · rw [List.getElem?_append_left (by simpa using hi), List.getElem?_replicate, if_pos hi] at h
    exact absurd h (by decide)
  · rw [List.getElem?_append_right (by simpa using Nat.le_of_not_lt hi), List.length_replicate] at h
    by_cases hzero : i - n = 0
    · omega
    · by_cases hone : i - n = 1
      · rw [hone] at h
        exact absurd h (by decide)
      · rw [List.getElem?_eq_none (by simp; omega)] at h
        exact (nomatch h)

/-- A text that shows the letter is a run of the file in which it stands. -/
theorem run_of_letter {run : LogRun} {file : ServiceLogFile} {first last id start stop n : Nat}
    {text : ServiceLogText} {content : List UInt8} (hletter : 'z' ∈ text.text)
    (hplace : ∀ i, content[i]? = some 122 → i = n)
    (hfiles : ∀ request, first ≤ request → request < last → ∀ found,
      (run.filesAt request).file file = some found →
        found = ⟨0, content⟩ ∨ (122 : UInt8) ∉ found.content)
    (h : OneRun plainRedactors smallFrames run file first last text id start stop) :
    id = 0 ∧ start ≤ n ∧ n < stop := by
  rcases h.content with ⟨hempty, -⟩ | ⟨request, found, hfirst, hlast, hfound, hid, -, hredacted⟩
  · rw [hempty] at hletter
    exact absurd hletter List.not_mem_nil
  · obtain ⟨i, hstart, hstop, hbyte⟩ := PagesOf.index hredacted.1 hletter
    rcases hfiles request hfirst hlast found hfound with rfl | hnone
    · obtain rfl := hplace i hbyte
      exact ⟨hid.symm, hstart, hstop⟩
    · exact absurd (List.mem_of_getElem? hbyte) hnone

theorem Reading.collected_single (budget : Nat) (piece : List Char) (before : Option Nat)
    (complete : Bool) (requests : Nat) :
    (⟨budget, [piece], before, complete, requests⟩ : Reading).collected = piece := by
  simp [Reading.collected]

/-- One line shown in both texts stands in the answer twice. -/
theorem not_unmixed_rotatedRun {content long : List UInt8} {n : Nat} {current previous : Reading}
    (hcontent : maxServiceLogBytes < content.length) (hlong : maxServiceLogBytes < long.length)
    (hplace : ∀ i, content[i]? = some 122 → i = n) (hnone : (122 : UInt8) ∉ long)
    (hcurrent : 'z' ∈ current.collected ∧ current.requests = 2)
    (hprevious : 'z' ∈ previous.collected ∧ previous.requests = 4) :
    ¬ Unmixed plainRedactors smallFrames (rotatedRun content long) current previous := by
  have hone := @rotatedRun_filesAt_one content long hcontent
  have hthree := rotatedRun_filesAt_three hcontent hlong
  rintro ⟨⟨id, start, stop, id', start', stop', hrun, hrun', hapart⟩, -⟩
  rw [hcurrent.2] at hrun hrun'
  rw [hprevious.2] at hrun'
  have hfirst : ∀ request, 0 ≤ request → request < 2 → ∀ found,
      ((rotatedRun content long).filesAt request).file .current = some found →
        found = ⟨0, content⟩ ∨ (122 : UInt8) ∉ found.content := by
    intro request _ hlt found hfound
    have hrequest : request = 0 ∨ request = 1 := by omega
    rcases hrequest with rfl | rfl
    · exact Or.inl (Option.some.inj hfound).symm
    · rw [hone] at hfound
      obtain rfl := Option.some.inj hfound
      exact Or.inr (by decide)
  have hsecond : ∀ request, 2 ≤ request → request < 4 → ∀ found,
      ((rotatedRun content long).filesAt request).file .previous = some found →
        found = ⟨0, content⟩ ∨ (122 : UInt8) ∉ found.content := by
    intro request hge hlt found hfound
    have hrequest : request = 2 ∨ request = 3 := by omega
    rcases hrequest with rfl | rfl
    · change ((rotatedRun content long).filesAt 1).file .previous = some found at hfound
      rw [hone] at hfound
      exact Or.inl (Option.some.inj hfound).symm
    · rw [hthree] at hfound
      obtain rfl := Option.some.inj hfound
      refine Or.inr fun hmem => ?_
      rcases List.mem_append.1 hmem with hshort | hlong
      · exact absurd hshort (by decide)
      · exact hnone hlong
  obtain ⟨rfl, hstart, hstop⟩ := run_of_letter hcurrent.1 hplace hfirst hrun
  obtain ⟨rfl, hstart', hstop'⟩ := run_of_letter hprevious.1 hplace hsecond hrun'
  have hparts := hapart rfl
  omega

/-- After two rotations the last line of the log stands in the answer twice. -/
theorem service_log_unmixed_rotated :
    ∃ current previous,
      readFiles (requestsOf plainRedactors smallFrames
        (rotatedRun (emptyLines 300000) longLine) fun _ => none) = .ok (current, previous) ∧
      ¬ Unmixed plainRedactors smallFrames (rotatedRun (emptyLines 300000) longLine) current
        previous := by
  have hcontent : maxServiceLogBytes < (emptyLines 300000).length := by
    rw [length_emptyLines]
    decide
  have hlength : longLine.length = 270001 := by
    rw [longLine, List.length_append, List.length_replicate]
    rfl
  have hlong : maxServiceLogBytes < longLine.length := by
    rw [hlength]
    decide
  have hother (n : Nat) : (122 : UInt8) ∉ List.replicate n 119 ++ [newline] := by
    simp [newline]
  have hsize : utf8Len (String.ofList (List.replicate 16381 '\n' ++ ['z', '\n'])).toList =
      16383 := by
    rw [String.toList_ofList, utf8Len_emptyLines]
  have hpage := @readChunk_emptyLines 300000 16381 (by decide) (by decide) (by decide)
  have hread := readFiles_rotatedRun hcontent hlong (by rw [hlength]; decide) (by decide)
    (by rw [hsize]; decide) hpage
  have hletter : 'z' ∈ (String.ofList (List.replicate 16381 '\n' ++ ['z', '\n'])).toList := by
    rw [String.toList_ofList]
    exact List.mem_append_right _ List.mem_cons_self
  refine ⟨_, _, hread, not_unmixed_rotatedRun hcontent hlong (fun i => index_emptyLines)
    (hother 270000) ⟨?_, rfl⟩ ⟨?_, rfl⟩⟩
  · rw [Reading.collected_single]
    exact hletter
  · rw [Reading.collected_single]
    exact hletter

end Rotated

end MultiCore.Daemon
