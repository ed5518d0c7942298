import MultiCore.Library.Run
import MultiCore.Library.SortedMap

/-!
# Saving the preferences

The window's thread tracks what the preferences should be, and a writer thread
saves them. Values go one way and results come back, through two queues. What is
last queued is what is last written, so once the writer is idle and told of, the
file is as desired or its last write has failed.
-/

namespace MultiCore.Desktop

open Transition (Run)

/-! ## The preferences -/

/-- Where the window was on the screen. -/
structure WindowBounds where
  x : Int
  y : Int
  width : Nat
  height : Nat
  deriving DecidableEq, Repr

/-- The page that the window shows. -/
inductive VisiblePage where
  | home
  | status
  | subscriptions
  | settings
  deriving DecidableEq, Repr

/-- The size of the popup of the tray. -/
structure TrayPopupSizePreference where
  width : Nat
  height : Nat
  deriving DecidableEq, Repr

/-- By how much the window grew with its rail, and to which width. -/
structure RailGrowthPreference where
  delta : Nat
  grownWidth : Nat
  deriving DecidableEq, Repr

/-- The languages of the interface. -/
inductive Lang where
  | ru
  | en
  deriving DecidableEq, Repr

/-- All that the file keeps, with its defaults. -/
structure AppPreferences where
  schemaVersion : Nat := 1
  restoredBounds : Option WindowBounds := none
  maximized : Bool := false
  visiblePage : VisiblePage := .home
  activeProfileHint : Option String := none
  lastGroupByProfile : List (String × String) := []
  selectionsByProfile : List (String × List (String × String)) := []
  ambientBackground : Bool := true
  autoConnectOnStartup : Bool := false
  navigationCollapsed : Bool := true
  announcementSeen : Option String := none
  tunEnabled : Bool := true
  railGrowth : Option RailGrowthPreference := none
  appimageHandoffSeen : Option String := none
  serviceOfferDismissed : Bool := false
  trayPopupSize : Option TrayPopupSizePreference := none
  language : Lang := .ru
  languageSetByUser : Bool := false
  deriving DecidableEq, Repr

/-- What is seen of the window at one moment. -/
structure WindowObservation where
  restoredBounds : Option WindowBounds
  maximized : Bool
  visiblePage : VisiblePage
  deriving DecidableEq, Repr

/-! ## The tracker -/

/-- What is in the file, what is desired, what was seen last and what the writer has been given. -/
structure PersistenceTracker where
  persisted : AppPreferences
  desired : AppPreferences
  candidate : Option WindowObservation
  queued : Option AppPreferences
  deriving DecidableEq, Repr

namespace PersistenceTracker

/-- A tracker of what was loaded. -/
def new (persisted : AppPreferences) : PersistenceTracker := ⟨persisted, persisted, none, none⟩

/-- The window as it was seen is desired; bounds that are not known stay. -/
def incorporateObservation (tracker : PersistenceTracker) (observation : WindowObservation) :
    PersistenceTracker :=
  { tracker with
    desired := { tracker.desired with
      restoredBounds := observation.restoredBounds.or tracker.desired.restoredBounds
      maximized := observation.maximized
      visiblePage := observation.visiblePage } }

/-- The moving background is turned on or off. -/
def setAmbientBackground (tracker : PersistenceTracker) (enabled : Bool) : PersistenceTracker :=
  { tracker with desired := { tracker.desired with ambientBackground := enabled } }

/-- Whether a start of the client connects. -/
def setAutoConnectOnStartup (tracker : PersistenceTracker) (enabled : Bool) :
    PersistenceTracker :=
  { tracker with desired := { tracker.desired with autoConnectOnStartup := enabled } }

/-- Whether the rail is narrow. -/
def setNavigationCollapsed (tracker : PersistenceTracker) (collapsed : Bool) :
    PersistenceTracker :=
  { tracker with desired := { tracker.desired with navigationCollapsed := collapsed } }

/-- Whether connections go through the tunnel. -/
def setTunEnabled (tracker : PersistenceTracker) (enabled : Bool) : PersistenceTracker :=
  { tracker with desired := { tracker.desired with tunEnabled := enabled } }

/-- The growth of the window; none that is not positive is kept. -/
def setRailGrowth (tracker : PersistenceTracker) (delta grownWidth : Int) : PersistenceTracker :=
  { tracker with desired := { tracker.desired with
    railGrowth :=
      if 0 < delta ∧ 0 < grownWidth then some ⟨delta.natAbs, grownWidth.natAbs⟩ else none } }

/-- The popup of the tray was given a size. -/
def setTrayPopupSize (tracker : PersistenceTracker) (width height : Nat) : PersistenceTracker :=
  { tracker with desired := { tracker.desired with trayPopupSize := some ⟨width, height⟩ } }

/-- An announcement was read; an empty text stands for none. -/
def setAnnouncementSeen (tracker : PersistenceTracker) (fingerprint : String) :
    PersistenceTracker :=
  { tracker with desired := { tracker.desired with
    announcementSeen := if fingerprint.isEmpty then none else some fingerprint } }

/-- A handoff to another image was seen; an empty text stands for none. -/
def setAppimageHandoffSeen (tracker : PersistenceTracker) (appimage : String) :
    PersistenceTracker :=
  { tracker with desired := { tracker.desired with
    appimageHandoffSeen := if appimage.isEmpty then none else some appimage } }

/-- The offer of the service was dismissed. -/
def setServiceOfferDismissed (tracker : PersistenceTracker) (dismissed : Bool) :
    PersistenceTracker :=
  { tracker with desired := { tracker.desired with serviceOfferDismissed := dismissed } }

/-- The language, and whether the user chose it. -/
def setLanguage (tracker : PersistenceTracker) (language : Lang) (setByUser : Bool) :
    PersistenceTracker :=
  { tracker with desired := { tracker.desired with
    language := language
    languageSetByUser := setByUser } }

/-- The group and the routes chosen in a profile; those of other profiles stay. -/
def setRoutePreferences (tracker : PersistenceTracker) (profile : String)
    (selectedGroup : Option String) (selections : List (String × String)) : PersistenceTracker :=
  { tracker with desired := { tracker.desired with
    lastGroupByProfile :=
      match selectedGroup with
      | some group => SortedMap.insert profile group tracker.desired.lastGroupByProfile
      | none => SortedMap.remove profile tracker.desired.lastGroupByProfile
    selectionsByProfile :=
      SortedMap.insert profile selections tracker.desired.selectionsByProfile } }

/-- The profile that was active last. -/
def setActiveProfileHint (tracker : PersistenceTracker) (profile : Option String) :
    PersistenceTracker :=
  { tracker with desired := { tracker.desired with activeProfileHint := profile } }

/-- What the next write is to be, once the window has been the same twice. -/
def observe (tracker : PersistenceTracker) :
    Option WindowObservation → Option AppPreferences × PersistenceTracker
  | none => (none, { tracker with candidate := none })
  | some observation =>
    let next :=
      { tracker with candidate := some observation }.incorporateObservation observation
    if tracker.candidate ≠ some observation || next.desired = next.persisted ||
        next.queued = some next.desired then (none, next)
    else (some next.desired, { next with queued := some next.desired })

/-- The writer has saved these preferences. -/
def markPersisted (tracker : PersistenceTracker) (preferences : AppPreferences) :
    PersistenceTracker :=
  { tracker with
    queued := if tracker.queued = some preferences then none else tracker.queued
    persisted := preferences }

/-- What a flush is to save, with the window as it is then. -/
def snapshotForFlush (tracker : PersistenceTracker) :
    Option WindowObservation → AppPreferences × PersistenceTracker
  | some observation =>
    ((tracker.incorporateObservation observation).desired,
      tracker.incorporateObservation observation)
  | none => (tracker.desired, tracker)

end PersistenceTracker

/-- A change of what is desired. -/
inductive Setting where
  | ambientBackground (enabled : Bool)
  | autoConnectOnStartup (enabled : Bool)
  | navigationCollapsed (collapsed : Bool)
  | tunEnabled (enabled : Bool)
  | railGrowth (delta grownWidth : Int)
  | trayPopupSize (width height : Nat)
  | announcementSeen (fingerprint : String)
  | appimageHandoffSeen (appimage : String)
  | serviceOfferDismissed (dismissed : Bool)
  | language (language : Lang) (setByUser : Bool)
  | routePreferences (profile : String) (selectedGroup : Option String)
      (selections : List (String × String))
  | activeProfileHint (profile : Option String)

/-- The setter of a change. -/
def PersistenceTracker.set (tracker : PersistenceTracker) : Setting → PersistenceTracker
  | .ambientBackground enabled => tracker.setAmbientBackground enabled
  | .autoConnectOnStartup enabled => tracker.setAutoConnectOnStartup enabled
  | .navigationCollapsed collapsed => tracker.setNavigationCollapsed collapsed
  | .tunEnabled enabled => tracker.setTunEnabled enabled
  | .railGrowth delta grownWidth => tracker.setRailGrowth delta grownWidth
  | .trayPopupSize width height => tracker.setTrayPopupSize width height
  | .announcementSeen fingerprint => tracker.setAnnouncementSeen fingerprint
  | .appimageHandoffSeen appimage => tracker.setAppimageHandoffSeen appimage
  | .serviceOfferDismissed dismissed => tracker.setServiceOfferDismissed dismissed
  | .language language setByUser => tracker.setLanguage language setByUser
  | .routePreferences profile selectedGroup selections =>
    tracker.setRoutePreferences profile selectedGroup selections
  | .activeProfileHint profile => tracker.setActiveProfileHint profile

/-! ## The writer -/

/-- What the writer is told. -/
inductive WriterCommand where
  | write (preferences : AppPreferences)
  | stop
  deriving DecidableEq, Repr

/-- A write that was given up, and after how many attempts. -/
structure PreferenceWriteFailure where
  detail : String
  attempts : Nat
  deriving DecidableEq, Repr

/-- What the writer tells. -/
inductive WriterResult where
  | saved (preferences : AppPreferences)
  | failed (failure : PreferenceWriteFailure)
  deriving DecidableEq, Repr

/-- In milliseconds. -/
def preferenceRetryDelays : List Nat := [1000, 2000]

/-- How long to wait after a failed attempt; none after the last one. -/
def retryDelayAfterFailure (attempt : Nat) : Option Nat :=
  if attempt = 0 then none else preferenceRetryDelays[attempt - 1]?

/-- No further attempt follows: the delays are used up, or the writer is to stop. -/
def preferenceFailureIsTerminal (attempt : Nat) (stopAfterWrite : Bool) : Bool :=
  stopAfterWrite || (retryDelayAfterFailure attempt).isNone

/-- The delays between the attempts of a flush, in milliseconds. -/
def preferenceFlushRetryDelays : List Nat := [150, 350]

/-- Where the writer's loop stands. -/
inductive WriterState where
  /-- It waits for a command. -/
  | idle
  /-- It looks for a later write in the queue. -/
  | draining (preferences : AppPreferences)
  /-- It is about to save, after some attempts that failed. -/
  | saving (preferences : AppPreferences) (attempt : Nat) (stopAfterWrite : Bool)
  /-- It waits for the next attempt, or for a command. -/
  | retrying (preferences : AppPreferences) (attempt : Nat)
  | stopped
  deriving DecidableEq, Repr

/-- The writer at a command it takes from the queue. -/
def WriterState.receive : WriterState → WriterCommand → WriterState
  | .idle, .write preferences => .draining preferences
  | .idle, .stop => .stopped
  | .draining _, .write replacement => .draining replacement
  | .draining preferences, .stop => .saving preferences 0 true
  | .retrying _ _, .write replacement => .draining replacement
  | .retrying _ _, .stop => .stopped
  | .saving preferences attempt stopAfterWrite, _ => .saving preferences attempt stopAfterWrite
  | .stopped, _ => .stopped

/-- Whether the writer looks at the queue. -/
def WriterState.listens : WriterState → Bool
  | .idle | .draining _ | .retrying _ _ => true
  | .saving _ _ _ | .stopped => false

/-! ## Both threads -/

/-- A flush of the window's thread: what it is to save, and its attempts so far. -/
structure Flush where
  preferences : AppPreferences
  attempt : Nat
  deriving DecidableEq, Repr

/-- The tracker, the two queues, the writer and the file. The results that were processed, the
writes that ended, what a flush has saved, and whether the last two observations were equal and
nothing was set or processed since, are remembered beside them. -/
structure PreferenceSystem where
  tracker : PersistenceTracker
  commands : List WriterCommand
  writer : WriterState
  results : List WriterResult
  file : AppPreferences
  flush : Option Flush
  processed : List WriterResult
  writes : List (AppPreferences × Option PreferenceWriteFailure)
  flushed : Option AppPreferences
  repeated : Bool
  settled : Bool
  deriving DecidableEq, Repr

/-- Both threads once the preferences were loaded. -/
def PreferenceSystem.initial (loaded : AppPreferences) : PreferenceSystem :=
  ⟨.new loaded, [], .idle, [], loaded, none, [], [], none, false, false⟩

/-- One step of either thread. -/
inductive PreferenceEvent where
  | set (setting : Setting)
  | observe (observation : Option WindowObservation)
  | process
  /-- The writer takes a command, sees an empty queue, saves, or has waited. -/
  | receive
  | empty
  | save (error : Option String)
  | timeout
  /-- The window's thread stops the writer to save by itself, and saves. -/
  | beginFlush (observation : Option WindowObservation)
  | flushSave (error : Option String)

namespace PreferenceSystem

/-- Sends a command, which is lost when the writer has stopped. -/
def send (state : PreferenceSystem) (command : WriterCommand) : PreferenceSystem :=
  if state.writer = .stopped then state
  else { state with commands := state.commands ++ [command] }

/-- A tick of the timer: an observation, and the write it asks for. -/
def observe (state : PreferenceSystem) (observation : Option WindowObservation) :
    PreferenceSystem :=
  let observed := state.tracker.observe observation
  let repeated := observation.isSome && state.tracker.candidate = observation
  let next := { state with tracker := observed.2, repeated := repeated, settled := repeated }
  match observed.1 with
  | some preferences => next.send (.write preferences)
  | none => next

/-- One result is processed. -/
def apply (tracker : PersistenceTracker) : WriterResult → PersistenceTracker
  | .saved preferences => tracker.markPersisted preferences
  | .failed _ => tracker

/-- All results that have arrived are processed, in order. -/
def processWriterResults (state : PreferenceSystem) : PreferenceSystem :=
  { state with
    tracker := state.results.foldl apply state.tracker
    results := []
    processed := state.processed ++ state.results
    settled := state.settled && state.results.isEmpty }

/-- The writer takes a command from the queue. -/
def receive (state : PreferenceSystem) : PreferenceSystem :=
  match state.commands with
  | [] => state
  | command :: commands =>
    if state.writer.listens then
      { state with commands := commands, writer := state.writer.receive command }
    else state

/-- A draining writer that finds the queue empty goes on to save. -/
def empty (state : PreferenceSystem) : PreferenceSystem :=
  match state.writer, state.commands with
  | .draining preferences, [] => { state with writer := .saving preferences 0 false }
  | _, _ => state

/-- What an attempt to save leads to; a failed save leaves the file as it was. -/
def save (state : PreferenceSystem) (error : Option String) : PreferenceSystem :=
  match state.writer with
  | .saving preferences attempt stopAfterWrite =>
    match error with
    | none =>
      { state with
        file := preferences
        results := state.results ++ [.saved preferences]
        writes := state.writes ++ [(preferences, none)]
        writer := if stopAfterWrite then .stopped else .idle }
    | some detail =>
      if preferenceFailureIsTerminal (attempt + 1) stopAfterWrite then
        { state with
          results := state.results ++ [.failed ⟨detail, attempt + 1⟩]
          writes := state.writes ++ [(preferences, some ⟨detail, attempt + 1⟩)]
          writer := if stopAfterWrite then .stopped else .idle }
      else { state with writer := .retrying preferences (attempt + 1) }
  | _ => state

/-- The delay of the writer is over. -/
def timeout (state : PreferenceSystem) : PreferenceSystem :=
  match state.writer with
  | .retrying preferences attempt => { state with writer := .saving preferences attempt false }
  | _ => state

/-- The writer is told to stop, and what the flush saves is fixed. -/
def beginFlush (state : PreferenceSystem) (observation : Option WindowObservation) :
    PreferenceSystem :=
  let snapshot := state.tracker.snapshotForFlush observation
  { state with
    tracker := snapshot.2
    flush := some ⟨snapshot.1, 0⟩
    settled := false }.send .stop

/-- With the writer stopped, an attempt of the flush. -/
def flushSave (state : PreferenceSystem) (error : Option String) : PreferenceSystem :=
  match state.flush, state.writer with
  | some flush, .stopped =>
    match error with
    | none =>
      { state with
        file := flush.preferences
        flush := none
        flushed := some flush.preferences
        tracker := state.tracker.markPersisted flush.preferences
        processed := state.processed ++ [.saved flush.preferences]
        settled := false }
    | some _ =>
      if (preferenceFlushRetryDelays[flush.attempt]?).isSome then
        { state with flush := some ⟨flush.preferences, flush.attempt + 1⟩ }
      else { state with flush := none }
  | _, _ => state

/-- A step; while it flushes, the window's thread does nothing else. -/
def next (state : PreferenceSystem) : PreferenceEvent → PreferenceSystem
  | .set setting =>
    if state.flush.isSome then state
    else { state with tracker := state.tracker.set setting, settled := false }
  | .observe observation => if state.flush.isSome then state else state.observe observation
  | .process => if state.flush.isSome then state else state.processWriterResults
  | .receive => state.receive
  | .empty => state.empty
  | .save error => state.save error
  | .timeout => state.timeout
  | .beginFlush observation =>
    if state.flush.isSome then state else state.beginFlush observation
  | .flushSave error => state.flushSave error

end PreferenceSystem

/-! ## The invariant -/

/-- The value that some results leave saved. -/
def lastSaved (value : AppPreferences) (results : List WriterResult) : AppPreferences :=
  results.foldl (fun value result =>
    match result with
    | .saved preferences => preferences
    | .failed _ => value) value

/-- How a write that ended is reported. -/
def reported : AppPreferences × Option PreferenceWriteFailure → WriterResult
  | (preferences, none) => .saved preferences
  | (_, some failure) => .failed failure

/-- What the writer works on. -/
def WriterState.current : WriterState → Option AppPreferences
  | .draining preferences | .saving preferences _ _ | .retrying preferences _ => some preferences
  | .idle | .stopped => none

/-- The last value to write, of one that is worked on and some commands. -/
def latest (current : Option AppPreferences) (commands : List WriterCommand) :
    Option AppPreferences :=
  commands.foldl (fun current command =>
    match command with
    | .write preferences => some preferences
    | .stop => current) current

/-- The value that the writer will end with. -/
def PreferenceSystem.pending (state : PreferenceSystem) : Option AppPreferences :=
  latest state.writer.current state.commands

/-- What holds between the tracker, the queues, the writer and the file. -/
structure Tracked (loaded : AppPreferences) (state : PreferenceSystem) : Prop where
  persisted : state.tracker.persisted = lastSaved loaded state.processed
  flushed : ∀ preferences, state.flushed = some preferences →
    state.writer = .stopped ∧ state.file = preferences
  /-- Every write that ended is reported, in order. -/
  reports : state.writer ≠ .stopped →
    state.processed ++ state.results = state.writes.map reported
  file : state.writer ≠ .stopped →
    state.file = lastSaved loaded (state.processed ++ state.results)
  /-- What was queued last is pending, or was written last and not yet processed as saved. -/
  queued : state.writer ≠ .stopped → ∀ preferences, state.tracker.queued = some preferences →
    state.pending = some preferences ∨
      state.pending = none ∧ ∃ before outcome, state.writes = before ++ [(preferences, outcome)] ∧
        (outcome = none → state.results ≠ [])
  settled : state.settled = true →
    state.tracker.desired = state.tracker.persisted ∨
      state.tracker.queued = some state.tracker.desired

/-- Nothing is desired at first but what was loaded. -/
theorem tracked_initial (loaded : AppPreferences) : Tracked loaded (.initial loaded) where
  persisted := rfl
  flushed := fun _ h => by cases h
  reports := fun _ => rfl
  file := fun _ => rfl
  queued := fun _ _ h => by cases h
  settled := fun h => by cases h

section Values

variable {value : AppPreferences} {current : Option AppPreferences}

/-- Results are processed one run after the other. -/
theorem lastSaved_append (value : AppPreferences) (before after : List WriterResult) :
    lastSaved value (before ++ after) = lastSaved (lastSaved value before) after :=
  List.foldl_append

/-- A write that is sent is the latest. -/
theorem latest_append_write (current : Option AppPreferences) (commands : List WriterCommand)
    (preferences : AppPreferences) :
    latest current (commands ++ [.write preferences]) = some preferences := by
  rw [latest, List.foldl_append]
  rfl

/-- A stop that is sent leaves the latest write as it was. -/
theorem latest_append_stop (current : Option AppPreferences) (commands : List WriterCommand) :
    latest current (commands ++ [.stop]) = latest current commands := by
  rw [latest, List.foldl_append]
  rfl

/-- A later command replaces what is worked on. -/
theorem latest_eq_or (current : Option AppPreferences) (commands : List WriterCommand) :
    latest current commands = (latest none commands).or current := by
  induction commands generalizing current with
  | nil => rfl
  | cons command commands ih =>
    cases command with
    | write preferences =>
      change latest (some preferences) commands = (latest (some preferences) commands).or current
      rw [ih (some preferences), Option.or_assoc, Option.some_or]
    | stop => exact ih current

/-- The processed results leave the tracker with what they saved; nothing else is set. -/
theorem foldl_apply (tracker : PersistenceTracker) (results : List WriterResult) :
    (results.foldl PreferenceSystem.apply tracker).persisted =
        lastSaved tracker.persisted results ∧
      (results.foldl PreferenceSystem.apply tracker).desired = tracker.desired ∧
      ∀ preferences, (results.foldl PreferenceSystem.apply tracker).queued = some preferences →
        tracker.queued = some preferences ∧ .saved preferences ∉ results := by
  induction results generalizing tracker with
  | nil => exact ⟨rfl, rfl, fun _ h => ⟨h, List.not_mem_nil⟩⟩
  | cons result results ih =>
    obtain ⟨hpersisted, hdesired, hqueued⟩ := ih (PreferenceSystem.apply tracker result)
    cases result with
    | failed failure =>
      refine ⟨hpersisted, hdesired, fun preferences h => ?_⟩
      obtain ⟨hbefore, hnot⟩ := hqueued preferences h
      exact ⟨hbefore, fun hmem => hnot ((List.mem_cons.1 hmem).resolve_left (by simp))⟩
    | saved value =>
      refine ⟨hpersisted, hdesired, fun preferences h => ?_⟩
      obtain ⟨hbefore, hnot⟩ := hqueued preferences h
      by_cases hsame : tracker.queued = some value
      · have hcleared : (tracker.markPersisted value).queued = none := if_pos hsame
        exact absurd (hcleared.symm.trans hbefore) (Option.some_ne_none _).symm
      · have hkept : (tracker.markPersisted value).queued = tracker.queued := if_neg hsame
        have hqueue : tracker.queued = some preferences := hkept.symm.trans hbefore
        refine ⟨hqueue, fun hmem => ?_⟩
        rcases List.mem_cons.1 hmem with heq | hmem
        · cases heq
          exact hsame hqueue
        · exact hnot hmem

/-- An observation sets what is desired; where the window was the same before, it is then persisted
or queued. -/
theorem observe_spec (tracker : PersistenceTracker) (observation : Option WindowObservation) :
    (tracker.observe observation).2.persisted = tracker.persisted ∧
      ((tracker.observe observation).1 = none ∧
        (tracker.observe observation).2.queued = tracker.queued ∧
        ((observation.isSome && tracker.candidate = observation) = true →
          (tracker.observe observation).2.desired = tracker.persisted ∨
            tracker.queued = some (tracker.observe observation).2.desired) ∨
      ∃ preferences, (tracker.observe observation).1 = some preferences ∧
        (tracker.observe observation).2.desired = preferences ∧
        (tracker.observe observation).2.queued = some preferences) := by
  cases observation with
  | none => exact ⟨rfl, Or.inl ⟨rfl, rfl, fun hfalse => by cases hfalse⟩⟩
  | some observation =>
    rw [PersistenceTracker.observe]
    split_ifs with hheld
    · refine ⟨rfl, Or.inl ⟨rfl, rfl, fun hrepeated => ?_⟩⟩
      rw [Option.isSome_some, Bool.true_and, decide_eq_true_eq] at hrepeated
      rw [Bool.or_eq_true, Bool.or_eq_true, decide_eq_true_eq, decide_eq_true_eq,
        decide_eq_true_eq] at hheld
      rcases hheld with (hchanged | hpersisted) | hqueued
      · exact absurd hrepeated hchanged
      · exact Or.inl hpersisted
      · exact Or.inr hqueued
    · exact ⟨rfl, Or.inr ⟨_, rfl, rfl, rfl⟩⟩

/-- Taking a command does not change what the writer will end with. -/
theorem latest_receive {writer : WriterState} {command : WriterCommand}
    {commands : List WriterCommand} (hlistens : writer.listens = true)
    (h : writer.receive command ≠ .stopped) :
    latest (writer.receive command).current commands =
      latest writer.current (command :: commands) := by
  cases writer with
  | idle =>
    cases command with
    | write preferences => rfl
    | stop => exact absurd rfl h
  | draining preferences =>
    cases command with
    | write replacement => rfl
    | stop => rfl
  | saving preferences attempt stopAfterWrite => cases hlistens
  | retrying preferences attempt =>
    cases command with
    | write replacement => rfl
    | stop => exact absurd rfl h
  | stopped => cases hlistens

end Values

section Steps

variable {loaded : AppPreferences} {state : PreferenceSystem}

namespace Tracked

/-- A setting changes only what is desired. -/
theorem set (h : Tracked loaded state) (setting : Setting) :
    Tracked loaded { state with tracker := state.tracker.set setting, settled := false } := by
  have hframe : (state.tracker.set setting).persisted = state.tracker.persisted ∧
      (state.tracker.set setting).queued = state.tracker.queued := by
    cases setting
    all_goals exact ⟨rfl, rfl⟩
  refine ⟨hframe.1.trans h.persisted, h.flushed, h.reports, h.file, ?_, fun hfalse => ?_⟩
  · intro hwriter preferences hqueued
    exact h.queued hwriter preferences (hframe.2.symm.trans hqueued)
  · cases hfalse

/-- Processing the results brings the tracker up to them. -/
theorem processWriterResults (h : Tracked loaded state) :
    Tracked loaded state.processWriterResults := by
  obtain ⟨hpersisted, hdesired, hqueued⟩ := foldl_apply state.tracker state.results
  refine ⟨?_, h.flushed, ?_, ?_, ?_, ?_⟩
  · change (state.results.foldl PreferenceSystem.apply state.tracker).persisted = _
    rw [hpersisted, h.persisted, ← lastSaved_append]
    rfl
  · intro hwriter
    change state.processed ++ state.results ++ [] = _
    rw [List.append_nil]
    exact h.reports hwriter
  · intro hwriter
    change state.file = lastSaved loaded (state.processed ++ state.results ++ [])
    rw [List.append_nil]
    exact h.file hwriter
  · intro hwriter preferences hafter
    obtain ⟨hbefore, hnot⟩ := hqueued preferences hafter
    rcases h.queued hwriter preferences hbefore with
      hpending | ⟨hpending, before, outcome, hwrites, hresults⟩
    · exact Or.inl hpending
    · refine Or.inr ⟨hpending, before, outcome, hwrites, ?_⟩
      rintro rfl
      -- the last write was saved, and its report is among the results that clear the queue
      have hreports := h.reports hwriter
      rw [hwrites, List.map_append, List.map_singleton] at hreports
      rcases List.eq_nil_or_concat state.results with hnil | ⟨init, last, hlast⟩
      · exact absurd hnil (hresults rfl)
      · rw [hlast, List.concat_eq_append, ← List.append_assoc] at hreports
        obtain ⟨-, hsame⟩ := List.append_inj' hreports rfl
        rw [List.singleton_inj] at hsame
        refine absurd ?_ hnot
        rw [hlast, List.concat_eq_append, hsame]
        exact List.mem_append_right _ (List.mem_singleton_self _)
  · intro hsettled
    change (state.settled && state.results.isEmpty) = true at hsettled
    rw [Bool.and_eq_true, List.isEmpty_iff] at hsettled
    change (state.results.foldl PreferenceSystem.apply state.tracker).desired = _ ∨ _
    rw [PreferenceSystem.processWriterResults, hsettled.2]
    exact h.settled hsettled.1

/-- The value of a tick is sent unless the writer has stopped. -/
theorem observe (h : Tracked loaded state) (observation : Option WindowObservation) :
    Tracked loaded (state.observe observation) := by
  obtain ⟨hpersisted, ⟨hnone, hqueue, hsettled⟩ | ⟨preferences, hsome, hdesired, hqueue⟩⟩ :=
    observe_spec state.tracker observation
  · rw [PreferenceSystem.observe, hnone]
    refine ⟨hpersisted.trans h.persisted, h.flushed, h.reports, h.file, ?_, ?_⟩
    · intro hwriter preferences hafter
      exact h.queued hwriter preferences (hqueue.symm.trans hafter)
    · intro hrepeated
      rcases hsettled hrepeated with hsame | hsame
      · exact Or.inl (hsame.trans hpersisted.symm)
      · exact Or.inr (hqueue.trans hsame)
  · rw [PreferenceSystem.observe, hsome]
    dsimp only [PreferenceSystem.send]
    by_cases hwriter : state.writer = .stopped
    · rw [if_pos hwriter]
      refine ⟨hpersisted.trans h.persisted, h.flushed, fun hnot => absurd hwriter hnot,
        fun hnot => absurd hwriter hnot, fun hnot => absurd hwriter hnot, fun _ => ?_⟩
      exact Or.inr (hqueue.trans (congrArg some hdesired.symm))
    · rw [if_neg hwriter]
      refine ⟨hpersisted.trans h.persisted, ?_, h.reports, h.file, ?_, fun _ => ?_⟩
      · exact fun value hvalue => absurd (h.flushed value hvalue).1 hwriter
      · intro _ value hafter
        left
        change latest state.writer.current (state.commands ++ [.write preferences]) = _
        rw [latest_append_write]
        exact hqueue.symm.trans hafter
      · exact Or.inr (hqueue.trans (congrArg some hdesired.symm))

theorem receive (h : Tracked loaded state) : Tracked loaded state.receive := by
  rw [PreferenceSystem.receive]
  cases hcommands : state.commands with
  | nil => exact h
  | cons command commands =>
    dsimp only
    by_cases hlistens : state.writer.listens = true
    · rw [if_pos hlistens]
      have hwriter : state.writer ≠ .stopped := by
        rintro hstopped
        rw [hstopped] at hlistens
        cases hlistens
      refine ⟨h.persisted, ?_, fun _ => h.reports hwriter, fun _ => h.file hwriter, ?_, h.settled⟩
      · exact fun value hvalue => absurd (h.flushed value hvalue).1 hwriter
      · intro hrunning preferences hqueued
        have hpending : latest (state.writer.receive command).current commands =
            state.pending := by
          rw [latest_receive hlistens hrunning, PreferenceSystem.pending, hcommands]
        change latest (state.writer.receive command).current commands = _ ∨
          latest (state.writer.receive command).current commands = _ ∧ _
        rw [hpending]
        exact h.queued hwriter preferences hqueued
    · rw [if_neg hlistens]
      exact h

/-- Moving on with the same value changes nothing else. -/
theorem goesOn (h : Tracked loaded state) {writer : WriterState}
    (hbefore : state.writer ≠ .stopped) (hcurrent : writer.current = state.writer.current) :
    Tracked loaded { state with writer := writer } := by
  refine ⟨h.persisted, ?_, fun _ => h.reports hbefore, fun _ => h.file hbefore, ?_, h.settled⟩
  · exact fun value hvalue => absurd (h.flushed value hvalue).1 hbefore
  · intro _ preferences hqueued
    change latest writer.current state.commands = _ ∨ latest writer.current state.commands = _ ∧ _
    rw [hcurrent]
    exact h.queued hbefore preferences hqueued

theorem empty (h : Tracked loaded state) : Tracked loaded state.empty := by
  rw [PreferenceSystem.empty]
  split
  · rename_i preferences hwriter hcommands
    exact h.goesOn (by rw [hwriter]; exact WriterState.noConfusion) (by rw [hwriter]; rfl)
  · exact h

theorem timeout (h : Tracked loaded state) : Tracked loaded state.timeout := by
  rw [PreferenceSystem.timeout]
  split
  · rename_i preferences attempt hwriter
    exact h.goesOn (by rw [hwriter]; exact WriterState.noConfusion) (by rw [hwriter]; rfl)
  · exact h

/-- The end of a write: it is reported, and what was queued is pending still or was this write. -/
theorem ended (h : Tracked loaded state) (outcome : Option PreferenceWriteFailure)
    {preferences file : AppPreferences} {attempt : Nat} {stopAfterWrite : Bool}
    (hwriter : state.writer = .saving preferences attempt stopAfterWrite)
    (hfile : file = lastSaved state.file [reported (preferences, outcome)]) :
    Tracked loaded { state with
      file := file
      results := state.results ++ [reported (preferences, outcome)]
      writes := state.writes ++ [(preferences, outcome)]
      writer := if stopAfterWrite then .stopped else .idle } := by
  have hrunning : state.writer ≠ .stopped := by
    rw [hwriter]
    exact WriterState.noConfusion
  refine ⟨h.persisted, ?_, fun _ => ?_, fun _ => ?_, ?_, h.settled⟩
  · exact fun value hvalue => absurd (h.flushed value hvalue).1 hrunning
  · change state.processed ++ (state.results ++ [_]) = _
    rw [← List.append_assoc, h.reports hrunning, List.map_append]
    rfl
  · change file = lastSaved loaded (state.processed ++ (state.results ++ [_]))
    rw [← List.append_assoc, lastSaved_append, ← h.file hrunning, hfile]
  · intro hafter value hqueued
    have hidle : (if stopAfterWrite then WriterState.stopped else .idle).current = none := by
      cases stopAfterWrite with
      | true => rfl
      | false => rfl
    have hlatest : state.pending = (latest none state.commands).or (some preferences) := by
      rw [PreferenceSystem.pending, hwriter]
      exact latest_eq_or _ _
    change latest (if stopAfterWrite then WriterState.stopped else .idle).current
      state.commands = _ ∨ latest (if stopAfterWrite then WriterState.stopped else .idle).current
      state.commands = _ ∧ _
    rw [hidle]
    rcases h.queued hrunning value hqueued with hpending | ⟨hpending, -⟩
    · rw [hlatest] at hpending
      cases hcommands : latest none state.commands with
      | some other =>
        rw [hcommands, Option.some_or] at hpending
        exact Or.inl hpending
      | none =>
        rw [hcommands, Option.none_or, Option.some_inj] at hpending
        refine Or.inr ⟨rfl, state.writes, outcome, ?_, fun _ hnil => ?_⟩
        · rw [← hpending]
        · exact absurd hnil (List.append_ne_nil_of_right_ne_nil _ (List.cons_ne_nil _ _))
    · rw [hlatest] at hpending
      exact absurd (Option.or_eq_none_iff.1 hpending).2 (Option.some_ne_none _)

theorem save (h : Tracked loaded state) (error : Option String) :
    Tracked loaded (state.save error) := by
  rw [PreferenceSystem.save]
  split
  · rename_i preferences attempt stopAfterWrite hwriter
    cases error with
    | none => exact h.ended none hwriter rfl
    | some detail =>
      dsimp only
      by_cases hterminal : preferenceFailureIsTerminal (attempt + 1) stopAfterWrite = true
      · rw [if_pos hterminal]
        exact h.ended (some ⟨detail, attempt + 1⟩) hwriter rfl
      · rw [if_neg hterminal]
        exact h.goesOn (by rw [hwriter]; exact WriterState.noConfusion) (by rw [hwriter]; rfl)
  · exact h

theorem beginFlush (h : Tracked loaded state) (observation : Option WindowObservation) :
    Tracked loaded (state.beginFlush observation) := by
  have hframe : (state.tracker.snapshotForFlush observation).2.persisted =
      state.tracker.persisted ∧
      (state.tracker.snapshotForFlush observation).2.queued = state.tracker.queued := by
    cases observation with
    | none => exact ⟨rfl, rfl⟩
    | some observation => exact ⟨rfl, rfl⟩
  rw [PreferenceSystem.beginFlush]
  dsimp only [PreferenceSystem.send]
  by_cases hwriter : state.writer = .stopped
  · rw [if_pos hwriter]
    exact ⟨hframe.1.trans h.persisted, h.flushed, fun hnot => absurd hwriter hnot,
      fun hnot => absurd hwriter hnot, fun hnot => absurd hwriter hnot,
      fun hfalse => by cases hfalse⟩
  · rw [if_neg hwriter]
    refine ⟨hframe.1.trans h.persisted, h.flushed, h.reports, h.file, ?_, fun hfalse => ?_⟩
    · intro _ preferences hqueued
      change latest state.writer.current (state.commands ++ [.stop]) = _ ∨
        latest state.writer.current (state.commands ++ [.stop]) = _ ∧ _
      rw [latest_append_stop]
      exact h.queued hwriter preferences (hframe.2.symm.trans hqueued)
    · cases hfalse

theorem flushSave (h : Tracked loaded state) (error : Option String) :
    Tracked loaded (state.flushSave error) := by
  rw [PreferenceSystem.flushSave]
  split
  · rename_i flush hflush hwriter
    cases error with
    | none =>
      dsimp only
      refine ⟨?_, ?_, fun hnot => absurd hwriter hnot, fun hnot => absurd hwriter hnot,
        fun hnot => absurd hwriter hnot, fun hfalse => by cases hfalse⟩
      · change flush.preferences = lastSaved loaded (state.processed ++ [_])
        rw [lastSaved_append]
        rfl
      · intro value hvalue
        cases hvalue
        exact ⟨hwriter, rfl⟩
    | some detail =>
      dsimp only
      split_ifs
      · exact ⟨h.persisted, h.flushed, h.reports, h.file, h.queued, h.settled⟩
      · exact ⟨h.persisted, h.flushed, h.reports, h.file, h.queued, h.settled⟩
  · exact h

theorem next (h : Tracked loaded state) (event : PreferenceEvent) :
    Tracked loaded (state.next event) := by
  cases event with
  | set setting =>
    rw [PreferenceSystem.next]
    split_ifs
    · exact h
    · exact h.set setting
  | observe observation =>
    rw [PreferenceSystem.next]
    split_ifs
    · exact h
    · exact h.observe observation
  | process =>
    rw [PreferenceSystem.next]
    split_ifs
    · exact h
    · exact h.processWriterResults
  | receive => exact h.receive
  | empty => exact h.empty
  | save error => exact h.save error
  | timeout => exact h.timeout
  | beginFlush observation =>
    rw [PreferenceSystem.next]
    split_ifs
    · exact h
    · exact h.beginFlush observation
  | flushSave error => exact h.flushSave error

end Tracked

end Steps

/-- The writer waits, and all of its results are processed. -/
def AtRest (state : PreferenceSystem) : Prop :=
  state.writer = .idle ∧ state.commands = [] ∧ state.results = []

/-- The file is as desired and known to be; or the last write, of what is desired, was reported as
failed. -/
def UpToDate (state : PreferenceSystem) : Prop :=
  state.file = state.tracker.persisted ∧ state.tracker.persisted = state.tracker.desired ∨
    ∃ before failure, state.writes = before ++ [(state.tracker.desired, some failure)] ∧
      state.processed.getLast? = some (.failed failure)

/-- Whatever the order of settings, ticks, steps of the writer and processed results: the tracker
has persisted what was last processed as saved; once the writer is at rest and the window was seen
twice the same, the last time after every setting and processed result, the file is up to date; and
what a flush has saved stays in the file. -/
theorem no_preference_lost {loaded : AppPreferences} {target : PreferenceSystem}
    {edges : List (Transition.Edge PreferenceSystem PreferenceEvent)}
    (h : Run (fun state event after => state.next event = after) (.initial loaded) edges target) :
    target.tracker.persisted = lastSaved loaded target.processed ∧
    (AtRest target → target.settled = true → UpToDate target) ∧
    ∀ preferences, target.flushed = some preferences → target.file = preferences := by
  have htracked : Tracked loaded target := by
    refine h.invariant (tracked_initial loaded) ?_
    rintro state event after htracked rfl
    exact htracked.next event
  refine ⟨htracked.persisted, ?_, fun preferences hflushed => (htracked.flushed _ hflushed).2⟩
  rintro ⟨hidle, hcommands, hresults⟩ hsettled
  have hrunning : target.writer ≠ .stopped := by
    rw [hidle]
    exact WriterState.noConfusion
  have hreports := htracked.reports hrunning
  rw [hresults, List.append_nil] at hreports
  rcases htracked.settled hsettled with hpersisted | hqueued
  · left
    have hfile := htracked.file hrunning
    rw [hresults, List.append_nil, ← htracked.persisted] at hfile
    exact ⟨hfile, hpersisted.symm⟩
  · right
    rcases htracked.queued hrunning _ hqueued with hpending | ⟨-, before, outcome, hwrites, hwhy⟩
    · rw [PreferenceSystem.pending, hidle, hcommands] at hpending
      cases hpending
    · cases outcome with
      | none => exact absurd hresults (hwhy rfl)
      | some failure =>
        refine ⟨before, failure, hwrites, ?_⟩
        rw [hreports, hwrites, List.map_append, List.map_singleton, List.getLast?_concat]
        rfl

section Samples

/-- A window that does not change. -/
def quietWindow : WindowObservation := ⟨none, false, .home⟩

/-- A change is set after the window was seen twice. -/
def changedAfter : List PreferenceEvent :=
  [.observe (some quietWindow), .observe (some quietWindow), .set (.ambientBackground false)]

/-- A change is seen twice. -/
def seenChange : List PreferenceEvent :=
  [.set (.ambientBackground false), .observe (some quietWindow), .observe (some quietWindow)]

/-- It is written and processed, and seen again. -/
def savedChange : List PreferenceEvent :=
  seenChange ++ ([.receive, .empty, .save none, .process, .observe (some quietWindow)] :
    List PreferenceEvent)

/-- It is taken back before its write is processed. -/
def returnedChange : List PreferenceEvent :=
  seenChange ++ ([.set (.ambientBackground true), .observe (some quietWindow), .receive, .empty,
    .save none, .process] : List PreferenceEvent)

/-- Where no failure was last, only the file can be up to date. -/
theorem file_of_upToDate {state : PreferenceSystem} (h : UpToDate state)
    (hwrites : state.writes.getLast?.bind Prod.snd = none) :
    state.file = state.tracker.persisted ∧ state.tracker.persisted = state.tracker.desired := by
  rcases h with hfile | ⟨before, failure, hlast, -⟩
  · exact hfile
  · rw [hlast, List.getLast?_concat] at hwrites
    cases hwrites

theorem no_preference_lost_saved :
    (savedChange.foldl PreferenceSystem.next (.initial {})).file =
      (savedChange.foldl PreferenceSystem.next (.initial {})).tracker.desired :=
  have hrun := Transition.run_trace PreferenceSystem.next (.initial {}) savedChange
  have hcurrent := (no_preference_lost hrun).2.1
    ⟨by decide, by decide, by decide⟩ (by decide)
  have hfile := file_of_upToDate hcurrent (by decide)
  hfile.1.trans hfile.2

/-- A change set after the last observation is not written yet; and when a change is taken back
before its write is processed, the file has the change, although the window was seen twice the
same. -/
theorem preference_not_yet_written :
    (AtRest (changedAfter.foldl PreferenceSystem.next (.initial {})) ∧
      (changedAfter.foldl PreferenceSystem.next (.initial {})).repeated = true ∧
      ¬ UpToDate (changedAfter.foldl PreferenceSystem.next (.initial {}))) ∧
    AtRest (returnedChange.foldl PreferenceSystem.next (.initial {})) ∧
      (returnedChange.foldl PreferenceSystem.next (.initial {})).repeated = true ∧
      ¬ UpToDate (returnedChange.foldl PreferenceSystem.next (.initial {})) := by
  constructor
  · refine ⟨⟨by decide, by decide, by decide⟩, by decide, ?_⟩
    intro hcurrent
    have hfile := file_of_upToDate hcurrent (by decide)
    exact absurd hfile.2 (by decide)
  · refine ⟨⟨by decide, by decide, by decide⟩, by decide, ?_⟩
    intro hcurrent
    have hfile := file_of_upToDate hcurrent (by decide)
    exact absurd hfile.2 (by decide)

end Samples

end MultiCore.Desktop
