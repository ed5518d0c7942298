import Mathlib.Algebra.GroupWithZero.Nat
import MultiCore.Daemon.Session
import MultiCore.Service.LogCuts
import MultiCore.Service.LogFiles

/-!
# The service log in a saved archive

The client reads the log and then its predecessor back to front, page after page,
until it has their beginnings or as much text as it keeps. The service goes on
writing, and a rotation puts another file under a name between two requests. As
long as none does, each text is one run of one file, and the two files are not
the same.
-/

namespace MultiCore.Daemon

open Utf8 Lines

/-- The size of a text as it is kept. -/
def utf8Len (text : List Char) : Nat := (text.map Char.utf8Size).sum

@[simp] theorem utf8Len_cons (c : Char) (text : List Char) :
    utf8Len (c :: text) = c.utf8Size + utf8Len text := rfl

@[simp] theorem utf8Len_append (text other : List Char) :
    utf8Len (text ++ other) = utf8Len text + utf8Len other := by
  simp [utf8Len]

/-- The characters that do not fit at the end, and those that do. -/
def cutToFit (budget : Nat) : List Char → List Char × List Char
  | [] => ([], [])
  | c :: rest =>
    if utf8Len (c :: rest) ≤ budget then ([], c :: rest)
    else
      let (skipped, kept) := cutToFit budget rest
      (c :: skipped, kept)

/-- The whole lines at the end of a text that fit. -/
def newestLines (text : List Char) (budget : Nat) : List Char :=
  if utf8Len text ≤ budget then text
  else
    let (skipped, tail) := cutToFit budget text
    -- unless the cut fell on the beginning of a line, the part of a line is dropped
    if skipped.getLast? = some '\n' then tail
    else (tail.dropWhile (· != '\n')).drop 1

/-- One file of the log as it was collected. -/
structure ServiceLogText where
  file : ServiceLogFile
  /-- Oldest first. -/
  text : List Char
  /-- Older lines exist that are not in the text. -/
  truncated : Bool
  deriving DecidableEq, Repr

/-- Requests per file before the client stops. -/
def maxServiceLogPages : Nat := 128

/-- One file of the log while it is collected. -/
structure Reading where
  budget : Nat
  /-- Newest first. -/
  pieces : List (List Char)
  before : Option Nat
  complete : Bool
  /-- The requests made so far, for both files. -/
  requests : Nat
  deriving DecidableEq, Repr

namespace Reading

/-- A reading with its budget, before the first request. -/
def start (budget requests : Nat) : Reading := ⟨budget, [], none, false, requests⟩

/-- The text so far. -/
def collected (reading : Reading) : List Char := reading.pieces.reverse.flatten

/-- The text, and whether some of it is missing. -/
def text (reading : Reading) (file : ServiceLogFile) : ServiceLogText :=
  ⟨file, reading.collected, !reading.complete⟩

/-- A page arrives: what is kept of it, and whether the next one is asked for. -/
def page (reading : Reading) (start stop : Nat) (text : List Char) : Reading × Bool :=
  -- the file was rotated while it was paged: what came before is another file
  if reading.before.any (stop != ·) then (reading, false)
  else if reading.budget < utf8Len text then
    ({ reading with
        pieces := reading.pieces ++ [newestLines text reading.budget], budget := 0 }, false)
  else
    let reading :=
      { reading with
        budget := reading.budget - utf8Len text, pieces := reading.pieces ++ [text] }
    if start = 0 then ({ reading with complete := true }, false)
    else if start = stop then (reading, false)
    else ({ reading with before := some start }, true)

end Reading

/-- Whether a page is one of those that were asked for. -/
def serviceLogMatches (file : ServiceLogFile) (before : Option Nat) (actual : ServiceLogFile)
    (start stop : Nat) : Bool :=
  file == actual && start ≤ stop && before.all (stop ≤ ·)

/-- How a request is answered; requests are counted. -/
abbrev Requests := Nat → ServiceCommand → Except ServiceError ServiceResponse

/-- Collects the pages of one file. -/
def readPages (request : Requests) (file : ServiceLogFile) :
    Nat → Reading → Except ServiceError Reading
  | 0, reading => .ok reading
  | pages + 1, reading =>
    if reading.budget = 0 then .ok reading
    else
      let answer := request reading.requests (.serviceLog file reading.before)
      let reading := { reading with requests := reading.requests + 1 }
      match answer with
      | .error error => .error error
      | .ok .busy => .error .busy
      | .ok (.error code) => .error (.rejected code)
      | .ok (.serviceLog actual start stop text) =>
        if serviceLogMatches file reading.before actual start stop then
          match reading.page start stop text.toList with
          | (reading, true) => readPages request file pages reading
          | (reading, false) => .ok reading
        else .error .protocol
      | .ok _ => .error .protocol

/-- Collects the log and its predecessor. -/
def readFiles (request : Requests) : Except ServiceError (Reading × Reading) :=
  match readPages request .current maxServiceLogPages (.start maxServiceLogTailBytes 0) with
  | .error error => .error error
  | .ok current =>
    match readPages request .previous maxServiceLogPages
        (.start current.budget current.requests) with
    | .error error => .error error
    | .ok previous => .ok (current, previous)

/-- The newest redacted lines of the service's own log, and then of its predecessor. -/
def serviceLog (request : Requests) : Except ServiceError (List ServiceLogText) :=
  match readFiles request with
  | .error error => .error error
  | .ok (current, previous) => .ok [current.text .current, previous.text .previous]

/-- The service answers from the files as they are; a request may also be lost. -/
def requestsOf (r : Redactors) (encode : Encoding) (run : LogRun)
    (lost : Nat → Option ServiceError) : Requests := fun request command =>
  match lost request with
  | some error => .error error
  | none =>
    match command with
    | .serviceLog file before =>
      .ok (readChunk r encode (run.handleAt request file) file before)
    | _ => .error .protocol

section NewestLines

theorem cutToFit_spec (budget : Nat) (text : List Char) :
    (cutToFit budget text).1 ++ (cutToFit budget text).2 = text ∧
      utf8Len (cutToFit budget text).2 ≤ budget := by
  induction text with
  | nil => exact ⟨rfl, Nat.zero_le _⟩
  | cons c rest ih =>
    unfold cutToFit
    by_cases hfits : utf8Len (c :: rest) ≤ budget
    · rw [if_pos hfits]
      exact ⟨rfl, hfits⟩
    · rw [if_neg hfits]
      exact ⟨by rw [List.cons_append, ih.1], ih.2⟩

theorem utf8Len_le_of_suffix {text other : List Char} (h : text <:+ other) :
    utf8Len text ≤ utf8Len other := by
  obtain ⟨before, rfl⟩ := h
  rw [utf8Len_append]
  omega

/-- What is kept fits, and is all of the text, nothing, or what follows a line break. -/
theorem newestLines_spec (text : List Char) (budget : Nat) :
    utf8Len (newestLines text budget) ≤ budget ∧
      (newestLines text budget = text ∨ newestLines text budget = [] ∨
        ∃ before, text = before ++ '\n' :: newestLines text budget) := by
  unfold newestLines
  by_cases hfits : utf8Len text ≤ budget
  · rw [if_pos hfits]
    exact ⟨hfits, Or.inl rfl⟩
  rw [if_neg hfits]
  obtain ⟨htext, hkept⟩ := cutToFit_spec budget text
  generalize cutToFit budget text = parts at htext hkept ⊢
  obtain ⟨skipped, tail⟩ := parts
  dsimp only at htext hkept ⊢
  by_cases hline : skipped.getLast? = some '\n'
  · rw [if_pos hline]
    obtain ⟨before, rfl⟩ := List.getLast?_eq_some_iff.mp hline
    refine ⟨hkept, Or.inr (Or.inr ⟨before, ?_⟩)⟩
    rw [← htext, List.append_assoc]
    rfl
  · rw [if_neg hline]
    have hsplit := List.takeWhile_append_dropWhile (p := (· != '\n')) (l := tail)
    refine ⟨(utf8Len_le_of_suffix
      ((List.drop_suffix _ _).trans (List.dropWhile_suffix _))).trans hkept, ?_⟩
    right
    cases hrest : tail.dropWhile (· != '\n') with
    | nil => exact Or.inl rfl
    | cons c rest =>
      right
      have hc : c = '\n' := by
        have hhead := List.head?_dropWhile_not (· != '\n') tail
        rw [hrest] at hhead
        simpa using hhead
      refine ⟨skipped ++ tail.takeWhile (· != '\n'), ?_⟩
      rw [hrest] at hsplit
      subst hc
      rw [List.drop_one, List.tail_cons, List.append_assoc, hsplit, htext]

end NewestLines

section Collected

variable {r : Redactors} {encode : Encoding} {run : LogRun} {lost : Nat → Option ServiceError}
  {file : ServiceLogFile} {id first last : Nat} {content : List UInt8} {cut : Nat → Prop}
  {budget : Nat}

/-- The file is there from its first request on, and only grows. -/
def Stays (run : LogRun) (file : ServiceLogFile) (id : Nat) (content : List UInt8)
    (first last : Nat) : Prop :=
  ∀ request later, first ≤ request → request ≤ later → later ≤ last →
    ∃ more others, (run.filesAt request).file file = some ⟨id, content ++ more⟩ ∧
      (run.filesAt later).file file = some ⟨id, content ++ more ++ others⟩

/-- What holds while a file is collected: the text so far is one run up to where the file ended,
and the next page meets it at a cut, or is empty as the cap is past it. -/
structure Midway (r : Redactors) (run : LogRun) (file : ServiceLogFile) (content : List UInt8)
    (cut : Nat → Prop) (last budget : Nat) (reading : Reading) : Prop where
  fresh : reading.before = none →
    ∃ id, (run.filesAt reading.requests).file file = some ⟨id, content⟩
  inside : reading.before.getD content.length ≤ content.length
  pages : PagesOf r content cut (reading.before.getD content.length) content.length
    reading.collected
  meets : cut (reading.before.getD content.length) ∨
    ∀ request, reading.requests ≤ request → request ≤ last →
      ∀ found, (run.filesAt request).file file = some found →
        reading.before.getD content.length ≤ found.content.length - maxServiceLogTailBytes
  within : reading.budget + utf8Len reading.collected = budget
  unfinished : reading.complete = false

/-- What holds of a file that was collected. -/
structure Collected (r : Redactors) (content : List UInt8) (cut : Nat → Prop) (budget : Nat)
    (reading : Reading) : Prop where
  run : ∃ start, PagesOf r content cut start content.length reading.collected ∧
    (reading.complete = true → start = 0)
  within : reading.budget + utf8Len reading.collected ≤ budget

theorem Midway.collected {reading : Reading}
    (h : Midway r run file content cut last budget reading) :
    Collected r content cut budget reading :=
  ⟨⟨_, h.pages, fun hcomplete => absurd (h.unfinished.symm.trans hcomplete) Bool.false_ne_true⟩,
    h.within.le⟩

/-- One page more. -/
theorem PagesOf.kept {start mid stop : Nat} {text kept : List Char} (hone : r.OneLine)
    (hle : start ≤ mid) (hmid : mid ≤ content.length) (hcut : cut mid)
    (hpages : PagesOf r content cut mid stop text)
    (hkept : kept = r.redactBytes (window content start mid) ∨ kept = [] ∨
      ∃ before, r.redactBytes (window content start mid) = before ++ '\n' :: kept) :
    ∃ start', PagesOf r content cut start' stop (kept ++ text) := by
  rcases hkept with rfl | rfl | ⟨before, hbefore⟩
  · exact ⟨start, .page hle hcut hpages⟩
  · exact ⟨mid, hpages⟩
  · obtain ⟨k, hk, rfl⟩ := hone.suffix hbefore
    rw [window_length start hmid] at hk
    rw [window_drop]
    exact ⟨start + k, .page (by omega) hcut hpages⟩

/-- A request that is not lost is answered from the files as they are. -/
theorem requestsOf_serviceLog {request : Nat} {before : Option Nat} {response : ServiceResponse}
    (h : requestsOf r encode run lost request (.serviceLog file before) = .ok response) :
    readChunk r encode (run.handleAt request file) file before = response := by
  unfold requestsOf at h
  cases hlost : lost request with
  | none =>
    rw [hlost] at h
    exact Except.ok.inj h
  | some error =>
    rw [hlost] at h
    exact (nomatch h)

/-- The reading after one more request. -/
def Reading.asked (reading : Reading) : Reading :=
  { reading with requests := reading.requests + 1 }

/-- What one round of the collection does. -/
theorem readPages_cases {request : Requests} {pages : Nat} {reading result : Reading}
    (h : readPages request file (pages + 1) reading = .ok result) :
    result = reading ∨
      ∃ start stop text,
        request reading.requests (.serviceLog file reading.before) =
          .ok (.serviceLog file start stop text) ∧
        (reading.asked.page start stop text.toList = (result, false) ∨
          ∃ next, reading.asked.page start stop text.toList = (next, true) ∧
            readPages request file pages next = .ok result) := by
  unfold readPages at h
  by_cases hbudget : reading.budget = 0
  · rw [if_pos hbudget] at h
    exact Or.inl (Except.ok.inj h).symm
  rw [if_neg hbudget] at h
  dsimp only at h
  right
  cases hanswer : request reading.requests (.serviceLog file reading.before) with
  | error error =>
    rw [hanswer] at h
    exact (nomatch h)
  | ok response =>
    rw [hanswer] at h
    cases response
    case serviceLog actual start stop text =>
      dsimp only at h
      by_cases hmatches : serviceLogMatches file reading.before actual start stop = true
      · rw [if_pos hmatches] at h
        have hsame : actual = file := by
          unfold serviceLogMatches at hmatches
          simp only [Bool.and_eq_true, beq_iff_eq] at hmatches
          exact hmatches.1.1.symm
        subst hsame
        refine ⟨start, stop, text, rfl, ?_⟩
        change (match reading.asked.page start stop text.toList with
          | (reading, true) => readPages request actual pages reading
          | (reading, false) => .ok reading) = .ok result at h
        rcases hpage : reading.asked.page start stop text.toList with ⟨next, goes | goes⟩
        · rw [hpage] at h
          exact Or.inl (by rw [Except.ok.inj h])
        · rw [hpage] at h
          exact Or.inr ⟨next, rfl, h⟩
      · rw [if_neg hmatches] at h
        exact (nomatch h)
    all_goals exact (nomatch h)

/-- A round whose request is answered. -/
theorem readPages_answered {request : Requests} {pages : Nat} {reading : Reading}
    {start stop : Nat} {text : String} (hbudget : reading.budget ≠ 0)
    (hanswer : request reading.requests (.serviceLog file reading.before) =
      .ok (.serviceLog file start stop text))
    (hmatches : serviceLogMatches file reading.before file start stop = true) :
    readPages request file (pages + 1) reading =
      match reading.asked.page start stop text.toList with
      | (next, true) => readPages request file pages next
      | (next, false) => .ok next := by
  rw [readPages, if_neg hbudget]
  dsimp only
  rw [hanswer]
  dsimp only
  rw [if_pos hmatches]
  rfl

theorem Reading.page_requests (reading : Reading) (start stop : Nat) (text : List Char) :
    (reading.page start stop text).1.requests = reading.requests := by
  unfold Reading.page
  dsimp only
  repeat' split
  all_goals rfl

/-- Requests are only added. -/
theorem readPages_requests {request : Requests} {pages : Nat} {reading result : Reading}
    (h : readPages request file pages reading = .ok result) :
    reading.requests ≤ result.requests := by
  induction pages generalizing reading with
  | zero =>
    obtain rfl := Except.ok.inj h
    exact Nat.le_refl _
  | succ pages ih =>
    rcases readPages_cases h with rfl | ⟨start, stop, text, -, hpage | ⟨next, hpage, hrest⟩⟩
    · exact Nat.le_refl _
    · have hrequests := reading.asked.page_requests start stop text.toList
      rw [hpage] at hrequests
      exact (Nat.le_succ _).trans hrequests.ge
    · have hrequests := reading.asked.page_requests start stop text.toList
      rw [hpage] at hrequests
      exact ((Nat.le_succ _).trans hrequests.ge).trans (ih hrest)

/-- Without a request nothing is read. -/
theorem readPages_unasked {request : Requests} {pages : Nat} {reading result : Reading}
    (h : readPages request file pages reading = .ok result)
    (hnone : result.requests ≤ reading.requests) : result = reading := by
  cases pages with
  | zero => exact (Except.ok.inj h).symm
  | succ pages =>
    rcases readPages_cases h with rfl | ⟨start, stop, text, -, hpage | ⟨next, hpage, hrest⟩⟩
    · rfl
    · have hrequests := reading.asked.page_requests start stop text.toList
      rw [hpage] at hrequests
      exact absurd hnone (Nat.not_le.mpr (hrequests ▸ Nat.lt_succ_self _))
    · have hrequests := reading.asked.page_requests start stop text.toList
      rw [hpage] at hrequests
      have hlater := readPages_requests hrest
      have hmade : next.requests = reading.requests + 1 := hrequests
      omega

theorem Reading.collected_push (reading : Reading) (piece : List Char) (budget : Nat)
    (before : Option Nat) (complete : Bool) (requests : Nat) :
    (⟨budget, reading.pieces ++ [piece], before, complete, requests⟩ : Reading).collected =
      piece ++ reading.collected := by
  simp [Reading.collected]

/-- A page that ends where the one before begins. -/
theorem Reading.page_eq {reading : Reading} {start stop : Nat} {text : List Char}
    (hbefore : ∀ before ∈ reading.before, before = stop) :
    reading.page start stop text =
      if reading.budget < utf8Len text then
        (⟨0, reading.pieces ++ [newestLines text reading.budget], reading.before,
          reading.complete, reading.requests⟩, false)
      else if start = 0 then
        (⟨reading.budget - utf8Len text, reading.pieces ++ [text], reading.before, true,
          reading.requests⟩, false)
      else if start = stop then
        (⟨reading.budget - utf8Len text, reading.pieces ++ [text], reading.before,
          reading.complete, reading.requests⟩, false)
      else
        (⟨reading.budget - utf8Len text, reading.pieces ++ [text], some start,
          reading.complete, reading.requests⟩, true) := by
  have hsame : ¬ reading.before.any (stop != ·) = true := by
    cases hcursor : reading.before with
    | none => exact Bool.false_ne_true
    | some before =>
      rw [hbefore before hcursor]
      simp
  unfold Reading.page
  rw [if_neg hsame]

/-- What a file that stays is asked for, and what it answers. -/
theorem Midway.answer {reading : Reading} {start stop : Nat} {text : String}
    (hcuts : CutsOf r encode file content cut)
    (hmidway : Midway r run file content cut last budget reading)
    (hasked : reading.requests ≤ last)
    (hstays : Stays run file id content reading.requests last)
    (hread : readChunk r encode (run.handleAt reading.requests file) file reading.before =
      .serviceLog file start stop text) :
    stop = reading.before.getD content.length ∧
      (start = stop ∧ text = "" ∨
        start ≤ stop ∧ text.toList = r.redactBytes (window content start stop) ∧ cut stop ∧
          (cut start ∨ ∀ request, reading.requests ≤ request → request ≤ last →
            ∀ found, (run.filesAt request).file file = some found →
              start ≤ found.content.length - maxServiceLogTailBytes)) := by
  obtain ⟨more, -, hfile, -⟩ := hstays _ _ (Nat.le_refl _) (Nat.le_refl _) hasked
  have hhandle : run.handleAt reading.requests file =
      some ⟨content ++ more, run.readable reading.requests⟩ := by
    unfold LogRun.handleAt
    rw [hfile]
    rfl
  have hbefore : reading.before = some (reading.before.getD content.length) ∨
      reading.before = none ∧ more = [] ∧
        reading.before.getD content.length = content.length := by
    cases hcursor : reading.before with
    | some before => exact Or.inl rfl
    | none =>
      obtain ⟨id', hfresh⟩ := hmidway.fresh hcursor
      rw [hfile, Option.some.injEq, LogFile.mk.injEq] at hfresh
      exact Or.inr ⟨rfl, List.append_right_eq_self.mp hfresh.2, rfl⟩
  have hmeets := hmidway.meets
  rw [hhandle] at hread
  rcases hcuts more (run.readable reading.requests) _ _ hmidway.inside hbefore with
    hempty | ⟨hfloor, from', hle, hfull, hfrom⟩
  · rw [hempty] at hread
    injection hread with _ hstart hstop htext
    exact ⟨hstop.symm, Or.inl ⟨hstart.symm.trans hstop, htext.symm⟩⟩
  · rw [hfull] at hread
    injection hread with _ hstart hstop htext
    subst hstart hstop htext
    refine ⟨rfl, Or.inr ⟨hle, String.toList_ofList, ?_, ?_⟩⟩
    · rcases hmeets with hcut | hpast
      · exact hcut
      · have hstuck := hpast _ (Nat.le_refl _) hasked _ hfile
        exact absurd hfloor (Nat.not_lt.mpr hstuck)
    · rcases hfrom with hcap | hcut
      · right
        intro request hle hlast found hfound
        obtain ⟨more', others, hearlier, hlater⟩ := hstays _ _ (Nat.le_refl _) hle hlast
        rw [hfile, Option.some.injEq, LogFile.mk.injEq] at hearlier
        rw [hlater, Option.some.injEq] at hfound
        have hgrown : (content ++ more).length ≤ (content ++ more' ++ others).length := by
          rw [hearlier.2]
          exact (List.prefix_append _ _).length_le
        rw [← hfound, hcap]
        exact Nat.sub_le_sub_right hgrown _
      · exact Or.inl hcut

/-- One more page of a file that stays: the file is collected, or collected on. -/
theorem Midway.page {reading next : Reading} {goes : Bool} {start stop : Nat} {text : String}
    (hone : r.OneLine) (hcuts : CutsOf r encode file content cut)
    (hmidway : Midway r run file content cut last budget reading)
    (hasked : reading.requests ≤ last)
    (hstays : Stays run file id content reading.requests last)
    (hread : readChunk r encode (run.handleAt reading.requests file) file reading.before =
      .serviceLog file start stop text)
    (hpage : reading.asked.page start stop text.toList = (next, goes)) :
    Collected r content cut budget next ∧
      (goes = true → Midway r run file content cut last budget next) := by
  obtain ⟨hstop, hanswer⟩ := hmidway.answer hcuts hasked hstays hread
  have hinside := hmidway.inside
  have hpages := hmidway.pages
  have hwithin := hmidway.within
  have hunfinished := hmidway.unfinished
  rw [← hstop] at hinside hpages
  have hcursor : ∀ before ∈ reading.asked.before, before = stop := by
    intro before hmem
    have hbefore : reading.before = some before := hmem
    rw [hstop, hbefore]
    rfl
  rw [Reading.page_eq hcursor] at hpage
  by_cases hover : reading.asked.budget < utf8Len text.toList
  · rw [if_pos hover] at hpage
    obtain ⟨rfl, rfl⟩ := Prod.mk.inj hpage
    obtain ⟨hfits, hkept⟩ := newestLines_spec text.toList reading.asked.budget
    refine ⟨⟨?_, ?_⟩, fun hgoes => (nomatch hgoes)⟩
    · rcases hanswer with ⟨rfl, rfl⟩ | ⟨hle, htext, hcut, -⟩
      · exact absurd hover (Nat.not_lt_zero _)
      · rw [htext] at hkept
        obtain ⟨start', hrun⟩ := PagesOf.kept hone hle hinside hcut hpages hkept
        refine ⟨start', ?_, fun hcomplete => ?_⟩
        · rw [Reading.collected_push, htext]
          exact hrun
        · exact absurd (hunfinished.symm.trans hcomplete) Bool.false_ne_true
    · rw [Reading.collected_push]
      change 0 + utf8Len (newestLines text.toList reading.budget ++ reading.collected) ≤ budget
      have hkeeps : utf8Len (newestLines text.toList reading.budget) ≤ reading.budget := hfits
      rw [utf8Len_append]
      omega
  rw [if_neg hover] at hpage
  have hroom : utf8Len text.toList ≤ reading.budget := Nat.le_of_not_lt hover
  have hrun : PagesOf r content cut start content.length (text.toList ++ reading.collected) := by
    rcases hanswer with ⟨rfl, rfl⟩ | ⟨hle, htext, hcut, -⟩
    · exact hpages
    · rw [htext]
      exact .page hle hcut hpages
  have hsize : reading.budget - utf8Len text.toList +
      utf8Len (text.toList ++ reading.collected) = budget := by
    rw [utf8Len_append]
    omega
  by_cases hzero : start = 0
  · rw [if_pos hzero] at hpage
    obtain ⟨rfl, rfl⟩ := Prod.mk.inj hpage
    refine ⟨⟨⟨start, ?_, fun _ => hzero⟩, ?_⟩, fun hgoes => (nomatch hgoes)⟩
    · rw [Reading.collected_push]
      exact hrun
    · rw [Reading.collected_push]
      exact hsize.le
  rw [if_neg hzero] at hpage
  by_cases hsame : start = stop
  · rw [if_pos hsame] at hpage
    obtain ⟨rfl, rfl⟩ := Prod.mk.inj hpage
    refine ⟨⟨⟨start, ?_, fun hcomplete => ?_⟩, ?_⟩, fun hgoes => (nomatch hgoes)⟩
    · rw [Reading.collected_push]
      exact hrun
    · exact absurd (hunfinished.symm.trans hcomplete) Bool.false_ne_true
    · rw [Reading.collected_push]
      exact hsize.le
  rw [if_neg hsame] at hpage
  obtain ⟨rfl, rfl⟩ := Prod.mk.inj hpage
  have hgoes : Midway r run file content cut last budget
      ⟨reading.asked.budget - utf8Len text.toList, reading.asked.pieces ++ [text.toList],
        some start, reading.asked.complete, reading.asked.requests⟩ := by
    rcases hanswer with ⟨heq, -⟩ | ⟨hle, -, -, hmeets⟩
    · exact absurd heq hsame
    refine ⟨fun hnone => (nomatch hnone), hle.trans hinside, ?_, ?_, ?_, hunfinished⟩
    · rw [Reading.collected_push]
      exact hrun
    · refine hmeets.imp_right fun hpast request hlater => ?_
      exact hpast request ((Nat.le_succ _).trans hlater)
    · rw [Reading.collected_push]
      exact hsize
  exact ⟨hgoes.collected, fun _ => hgoes⟩

/-- A file that stays is collected as one run. -/
theorem readPages_collected (hone : r.OneLine) (hcuts : CutsOf r encode file content cut)
    (hstays : Stays run file id content first last) {pages : Nat} {reading result : Reading}
    (hmidway : Midway r run file content cut last budget reading)
    (hfirst : first ≤ reading.requests)
    (h : readPages (requestsOf r encode run lost) file pages reading = .ok result)
    (hlast : result.requests ≤ last + 1) :
    Collected r content cut budget result := by
  induction pages generalizing reading with
  | zero =>
    obtain rfl := Except.ok.inj h
    exact hmidway.collected
  | succ pages ih =>
    rcases readPages_cases h with rfl | ⟨start, stop, text, hanswer, hpage⟩
    · exact hmidway.collected
    have hread := requestsOf_serviceLog hanswer
    have hrequests := reading.asked.page_requests start stop text.toList
    have hrest : Stays run file id content reading.requests last :=
      fun request later hle => hstays request later (hfirst.trans hle)
    rcases hpage with hpage | ⟨next, hpage, hnext⟩
    · rw [hpage] at hrequests
      have hasked : reading.requests + 1 = result.requests := hrequests.symm
      exact (hmidway.page hone hcuts (by omega) hrest hread hpage).1
    · rw [hpage] at hrequests
      have hnextRequests : next.requests = reading.requests + 1 := hrequests
      have hlater := readPages_requests hnext
      have hgoes := (hmidway.page hone hcuts (by omega) hrest hread hpage).2 rfl
      exact ih hgoes (by omega) hnext

/-- A file stays while the log is not rotated. -/
theorem Stays.of_unrotated {found : LogFile} (hquiet : run.Unrotated first last)
    (hfile : (run.filesAt first).file file = some found) :
    Stays run file found.id found.content first last := by
  intro request later hfirst hle hlast
  obtain ⟨more, hmore⟩ := hquiet.grows (Nat.le_refl _) hfirst (hle.trans hlast) hfile
  obtain ⟨others, hothers⟩ := hquiet.grows hfirst hle hlast hmore
  exact ⟨more, others, hmore, hothers⟩

/-- At its first request nothing of a file is collected yet. -/
theorem Midway.start {found : LogFile} (hfile : (run.filesAt first).file file = some found)
    (hcut : cut found.content.length) :
    Midway r run file found.content cut last budget (.start budget first) where
  fresh _ := ⟨found.id, hfile⟩
  inside := Nat.le_refl _
  pages := .none _
  meets := Or.inl hcut
  within := Nat.add_zero _
  unfinished := rfl

/-- The first request of a file that is missing is its last. -/
theorem readPages_missing {pages : Nat} {result : Reading}
    (hmissing : (run.filesAt first).file file = none)
    (h : readPages (requestsOf r encode run lost) file pages (.start budget first) = .ok result) :
    result.collected = [] ∧ result.budget = budget := by
  cases pages with
  | zero =>
    obtain rfl := Except.ok.inj h
    exact ⟨rfl, rfl⟩
  | succ pages =>
    rcases readPages_cases h with rfl | ⟨start, stop, text, hanswer, hpage⟩
    · exact ⟨rfl, rfl⟩
    have hread := requestsOf_serviceLog hanswer
    have hnone : run.handleAt (Reading.start budget first).requests file = none := by
      unfold LogRun.handleAt
      change Option.map _ ((run.filesAt first).file file) = none
      rw [hmissing]
      rfl
    rw [hnone] at hread
    injection hread with _ hstart hstop htext
    subst hstart hstop htext
    have hend : (Reading.start budget first).asked.page 0 0 "".toList =
        (⟨budget, [[]], none, true, first + 1⟩, false) := by
      have hcursor : ∀ before ∈ (Reading.start budget first).asked.before, before = 0 :=
        fun before hbefore => absurd hbefore (by simp [Reading.start, Reading.asked])
      rw [Reading.page_eq hcursor]
      rfl
    rw [hend] at hpage
    rcases hpage with hpage | ⟨next, hpage, -⟩
    · obtain ⟨rfl, -⟩ := Prod.mk.inj hpage
      exact ⟨rfl, rfl⟩
    · exact (nomatch (Prod.mk.inj hpage).2)

end Collected

end MultiCore.Daemon
