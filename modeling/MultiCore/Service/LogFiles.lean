import MultiCore.Service.LogPaging

/-!
# The files of the service log over time

Lines are appended to the log until it is past its cap; the next line moves it to
the place of its predecessor, or deletes it where it cannot be moved, and begins
a new file. A page is identified by offsets only, so what it holds depends on the
file that has the name when the page is read.
-/

namespace MultiCore

open Utf8 Lines

/-- Past this size the log moves to the place of its predecessor. -/
def maxServiceLogBytes : Nat := 256 * 1024

/-- One file of the log, whatever its name. -/
structure LogFile where
  id : Nat
  content : List UInt8
  deriving DecidableEq, Repr

/-- The files under the two names. -/
structure LogFiles where
  current : Option LogFile
  previous : Option LogFile
  /-- How many files there have been. -/
  begun : Nat
  deriving DecidableEq, Repr

/-- What happens to the files in one indivisible step. -/
inductive LogEvent where
  /-- The full log took the place of its predecessor. -/
  | rotated
  /-- The full log was deleted. -/
  | removed
  | wrote (bytes : List UInt8)
  deriving DecidableEq, Repr

namespace LogFiles

/-- The file that a name stands for. -/
def file (files : LogFiles) : ServiceLogFile → Option LogFile
  | .current => files.current
  | .previous => files.previous

/-- The log is past its cap. -/
def full (files : LogFiles) : Bool :=
  files.current.any fun file => maxServiceLogBytes < file.content.length

/-- What an event does to the files. -/
def apply (files : LogFiles) : LogEvent → LogFiles
  | .rotated =>
    if files.full then { files with current := none, previous := files.current } else files
  | .removed => if files.full then { files with current := none } else files
  | .wrote bytes =>
    match files.current with
    | some file =>
      { files with current := some { file with content := file.content ++ bytes } }
    | none => { files with current := some ⟨files.begun, bytes⟩, begun := files.begun + 1 }

theorem apply_rotated {files : LogFiles} (h : files.full = true) :
    files.apply .rotated = { files with current := none, previous := files.current } := if_pos h

/-- A line of the log: the seconds, and the message without line breaks. -/
def line (seconds : Nat) (message : List Char) : List UInt8 :=
  encode (toString seconds).toList ++ encode [' '] ++
    encode (message.map fun c => if c = '\r' || c = '\n' then ' ' else c) ++ [newline]

/-- Appends a line: whether the log can be moved, deleted and opened, and how much of the line is
written, is up to the file system. -/
def append (files : LogFiles) (moves removes opens : Bool) (written seconds : Nat)
    (message : List Char) : LogFiles :=
  let files :=
    if files.full then
      if moves then files.apply .rotated
      else if removes then files.apply .removed
      else files
    else files
  if opens then files.apply (.wrote ((line seconds message).take written)) else files

/-- An append is a series of such steps. -/
theorem append_events (files : LogFiles) (moves removes opens : Bool) (written seconds : Nat)
    (message : List Char) :
    ∃ events : List LogEvent,
      files.append moves removes opens written seconds message = events.foldl apply files := by
  have hroom : ∃ events : List LogEvent,
      (if files.full then
        if moves then files.apply .rotated
        else if removes then files.apply .removed
        else files
      else files) = events.foldl apply files := by
    by_cases hfull : files.full = true
    · rw [if_pos hfull]
      by_cases hmoves : moves = true
      · rw [if_pos hmoves]
        exact ⟨[.rotated], rfl⟩
      rw [if_neg hmoves]
      by_cases hremoves : removes = true
      · rw [if_pos hremoves]
        exact ⟨[.removed], rfl⟩
      · rw [if_neg hremoves]
        exact ⟨[], rfl⟩
    · rw [if_neg hfull]
      exact ⟨[], rfl⟩
  obtain ⟨events, hevents⟩ := hroom
  unfold append
  dsimp only
  rw [hevents]
  by_cases hopens : opens = true
  · rw [if_pos hopens]
    refine ⟨events ++ [.wrote ((line seconds message).take written)], ?_⟩
    rw [List.foldl_append]
    rfl
  · rw [if_neg hopens]
    exact ⟨events, rfl⟩

/-- The two names never stand for one file. -/
structure Distinct (files : LogFiles) : Prop where
  current : ∀ file ∈ files.current, file.id < files.begun
  previous : ∀ file ∈ files.previous, file.id < files.begun
  apart : ∀ file ∈ files.current, ∀ other ∈ files.previous, file.id ≠ other.id

theorem Distinct.apply {files : LogFiles} (h : files.Distinct) (event : LogEvent) :
    (files.apply event).Distinct := by
  cases event with
  | rotated =>
    unfold LogFiles.apply
    dsimp only
    by_cases hfull : files.full = true
    · rw [if_pos hfull]
      exact ⟨fun _ hfile => (nomatch hfile), h.current, fun _ hfile => (nomatch hfile)⟩
    · rw [if_neg hfull]
      exact h
  | removed =>
    unfold LogFiles.apply
    dsimp only
    by_cases hfull : files.full = true
    · rw [if_pos hfull]
      exact ⟨fun _ hfile => (nomatch hfile), h.previous, fun _ hfile => (nomatch hfile)⟩
    · rw [if_neg hfull]
      exact h
  | wrote bytes =>
    unfold LogFiles.apply
    cases hcurrent : files.current with
    | some file =>
      have hid := h.current file hcurrent
      refine ⟨?_, h.previous, ?_⟩
      · intro grown hgrown
        obtain rfl := Option.some.inj hgrown
        exact hid
      · intro grown hgrown other hother
        obtain rfl := Option.some.inj hgrown
        exact h.apart file hcurrent other hother
    | none =>
      refine ⟨?_, fun other hother => Nat.lt_succ_of_lt (h.previous other hother), ?_⟩
      · intro fresh hfresh
        obtain rfl := Option.some.inj hfresh
        exact Nat.lt_succ_self _
      · intro fresh hfresh other hother
        obtain rfl := Option.some.inj hfresh
        exact (Nat.ne_of_lt (h.previous other hother)).symm

theorem Distinct.foldl {files : LogFiles} (h : files.Distinct) (events : List LogEvent) :
    (events.foldl LogFiles.apply files).Distinct := by
  induction events generalizing files with
  | nil => exact h
  | cons event rest ih => exact ih (h.apply event)

end LogFiles

/-- The log while it is read: its files at first, what happens right before each request, and from
where a file can be read at a request. -/
structure LogRun where
  current : Option (List UInt8)
  previous : Option (List UInt8)
  between : Nat → List LogEvent
  readable : Nat → Nat → Bool

namespace LogRun

variable (run : LogRun)

/-- The files as a run starts from them. -/
def found : LogFiles := ⟨run.current.map (⟨0, ·⟩), run.previous.map (⟨1, ·⟩), 2⟩

/-- The files at a request. -/
def filesAt : Nat → LogFiles
  | 0 => (run.between 0).foldl LogFiles.apply run.found
  | request + 1 => (run.between (request + 1)).foldl LogFiles.apply (filesAt request)

/-- What a request reads of a file, unless it is missing. -/
def handleAt (request : Nat) (file : ServiceLogFile) : Option LogHandle :=
  ((run.filesAt request).file file).map fun found => ⟨found.content, run.readable request⟩

/-- Between these two requests the log is only written to. -/
def Unrotated (first last : Nat) : Prop :=
  ∀ request, first < request → request ≤ last →
    ∀ event ∈ run.between request, ∃ bytes, event = .wrote bytes

theorem filesAt_distinct (request : Nat) : (run.filesAt request).Distinct := by
  have hfound : run.found.Distinct := by
    unfold found
    refine ⟨?_, ?_, ?_⟩
    · intro file hfile
      obtain ⟨content, -, rfl⟩ := Option.map_eq_some_iff.mp hfile
      exact Nat.zero_lt_two
    · intro file hfile
      obtain ⟨content, -, rfl⟩ := Option.map_eq_some_iff.mp hfile
      exact Nat.one_lt_two
    · intro file hfile other hother
      obtain ⟨content, -, rfl⟩ := Option.map_eq_some_iff.mp hfile
      obtain ⟨content', -, rfl⟩ := Option.map_eq_some_iff.mp hother
      exact Nat.zero_ne_one
  induction request with
  | zero => exact hfound.foldl _
  | succ request ih => exact ih.foldl _

end LogRun

/-- What is written to the log leaves the files where they are, and only adds to one. -/
theorem LogFiles.foldl_wrote {events : List LogEvent} {files : LogFiles}
    (hevents : ∀ event ∈ events, ∃ bytes, event = .wrote bytes) {name : ServiceLogFile}
    {file : LogFile} (hfile : files.file name = some file) :
    ∃ more, (events.foldl LogFiles.apply files).file name =
      some { file with content := file.content ++ more } := by
  induction events generalizing files file with
  | nil => exact ⟨[], by rw [List.append_nil]; exact hfile⟩
  | cons event rest ih =>
    obtain ⟨bytes, rfl⟩ := hevents event List.mem_cons_self
    have hrest : ∀ event ∈ rest, ∃ bytes, event = .wrote bytes :=
      fun event hmem => hevents event (List.mem_cons_of_mem _ hmem)
    have hstep : ∃ more, (files.apply (.wrote bytes)).file name =
        some { file with content := file.content ++ more } := by
      cases name with
      | current =>
        have hcurrent : files.current = some file := hfile
        refine ⟨bytes, ?_⟩
        unfold LogFiles.apply
        rw [hcurrent]
        rfl
      | previous =>
        have hprevious : files.previous = some file := hfile
        refine ⟨[], ?_⟩
        unfold LogFiles.apply
        rw [List.append_nil]
        cases files.current with
        | none => exact hprevious
        | some current => exact hprevious
    obtain ⟨more, hmore⟩ := hstep
    obtain ⟨others, hothers⟩ := ih hrest hmore
    exact ⟨more ++ others, by rw [List.foldl_cons, hothers, List.append_assoc]⟩

/-- Without a rotation a file keeps its name and only grows. -/
theorem LogRun.Unrotated.grows {run : LogRun} {first last request later : Nat}
    (h : run.Unrotated first last) (hfirst : first ≤ request) (hle : request ≤ later)
    (hlast : later ≤ last) {name : ServiceLogFile} {file : LogFile}
    (hfile : (run.filesAt request).file name = some file) :
    ∃ more, (run.filesAt later).file name =
      some { file with content := file.content ++ more } := by
  induction later, hle using Nat.le_induction with
  | base => exact ⟨[], by rw [List.append_nil]; exact hfile⟩
  | succ later hle ih =>
    obtain ⟨more, hmore⟩ := ih (by omega)
    obtain ⟨others, hothers⟩ :=
      LogFiles.foldl_wrote (h (later + 1) (by omega) hlast) hmore
    exact ⟨more ++ others, by rw [LogRun.filesAt, hothers, List.append_assoc]⟩

end MultiCore
