import MultiCore.Library.Run
import MultiCore.Service.CoreLoop

/-!
# Commands on several connections

Every connection thread runs its commands through the lock of one service loop.
Updates and batches of fixes release the lock between their phases, so a
service is the loop together with the commands that are between two phases. An
event is one locked section; a run of events is one interleaving of all
clients, health ticks, closed connections and stops. What the unlocked part of
a slow command produced arrives with the event of its last phase and is
unconstrained.
-/

namespace MultiCore.Service

/-- A slow command that left the lock and has not taken it again. -/
inductive Running (U : Type*) where
  | troubleshoot (client : ClientIdentity) (fixes : List PrivilegedFix)
  | update (client : ClientIdentity) (version : String) (stageOnly : Bool)
      (pending : PendingUpdate U)

/-- What the unlocked part of a slow command came to. -/
inductive SlowResult (U : Type*) where
  | outcomes (outcomes : List FixOutcome)
  | downloaded (updater : U) (prepared : Except BrokerErrorCode Unit)

/-- The loop behind its lock and the commands running outside of it. -/
structure SharedService (C U T : Type*) where
  loop : ServiceLoop C U T
  running : List (Running U)

/-- One section under the lock. -/
inductive Event (U : Type*) where
  /-- A connection thread runs a command, or the first phase of a slow one. -/
  | command (connection : ConnectionId) (client : ClientIdentity) (command : ServiceCommand)
  /-- The slow command at `index` takes the lock again. -/
  | finish (index : Nat) (result : SlowResult U)
  | tick
  | closed (connection : ConnectionId)
  /-- The service itself is stopping. -/
  | stopping
  /-- The updater publishes how far its download got. -/
  | progress (progress : UpdateProgress)

namespace SharedService

variable {C U T : Type*}

/-- A service as the platform starts it. -/
def new (cores : C) (updater : Option U) (updateProgress : Option UpdateProgress)
    (troubleshooter : Option T) (logDirectory : Option String) : SharedService C U T :=
  ⟨ServiceLoop.new cores updater updateProgress troubleshooter logDirectory, []⟩

/-- First phase of an update or of a staged download. -/
def beginUpdate (s : SharedService C U T) (client : ClientIdentity) (version : String)
    (stageOnly : Bool) : SharedService C U T × Option ServiceResponse :=
  match s.loop.startUpdate client with
  | (loop, .error response) => ({ s with loop := loop }, some response)
  | (loop, .ok pending) =>
    (⟨loop, s.running ++ [.update client version stageOnly pending]⟩, none)

/-- First phase of a batch of fixes. -/
def beginTroubleshoot (s : SharedService C U T) (client : ClientIdentity) (fixes : List PrivilegedFix) :
    SharedService C U T × Option ServiceResponse :=
  match s.loop.startTroubleshoot client fixes with
  | (loop, .error response) => ({ s with loop := loop }, some response)
  | (loop, .ok _) => (⟨loop, s.running ++ [.troubleshoot client fixes]⟩, none)

variable [Cores C] [ServiceUpdater U] [Troubleshooter T]

/-- A command arriving on a connection: slow ones run their first phase, all others run whole. -/
def executeShared (logs : LogReader) (s : SharedService C U T) (connection : ConnectionId)
    (client : ClientIdentity) (command : ServiceCommand) :
    SharedService C U T × Option ServiceResponse :=
  match command with
  | .update version => s.beginUpdate client version false
  | .stageUpdate version => s.beginUpdate client version true
  | .troubleshoot fixes => s.beginTroubleshoot client fixes
  | command =>
    let (loop, response) := s.loop.execute logs connection client command
    ({ s with loop := loop }, some response)

/-- Last phase of the slow command at `index`. -/
def finishShared (s : SharedService C U T) (index : Nat) (result : SlowResult U) :
    SharedService C U T × Option ServiceResponse :=
  match s.running[index]?, result with
  | some (.troubleshoot _ fixes), .outcomes outcomes =>
    let (loop, response) := s.loop.finishTroubleshoot fixes outcomes
    (⟨loop, s.running.eraseIdx index⟩, some response)
  | some (.update client version stageOnly _), .downloaded updater prepared =>
    let (loop, response) :=
      if stageOnly then s.loop.finishStage version ⟨updater⟩ prepared
      else s.loop.finishUpdate client version ⟨updater⟩ prepared
    (⟨loop, s.running.eraseIdx index⟩, some response)
  | _, _ => (s, none)

/-- One section under the lock, with the answer it sends. -/
def handle (logs : LogReader) (s : SharedService C U T) :
    Event U → SharedService C U T × Option ServiceResponse
  | .command connection client command => s.executeShared logs connection client command
  | .finish index result => s.finishShared index result
  | .tick => ({ s with loop := s.loop.tick }, none)
  | .closed connection => ({ s with loop := s.loop.clientGone connection }, none)
  | .stopping => ({ s with loop := s.loop.stopEverything }, none)
  | .progress progress =>
    ({ s with loop := { s.loop with
      updateProgress := s.loop.updateProgress.map fun _ => progress } }, none)

/-- The transition relation of the interleaved service. -/
def Step (logs : LogReader) (s : SharedService C U T) (e : Event U) (t : SharedService C U T) : Prop :=
  (s.handle logs e).1 = t

/-- The service run from a start state, one event per locked section. -/
abbrev Run (logs : LogReader) (s : SharedService C U T)
    (es : List (Transition.Edge (SharedService C U T) (Event U))) (t : SharedService C U T) : Prop :=
  Transition.Run (Step logs) s es t

end SharedService

/-- The part of the loop that speaks about the cores and who holds them. -/
structure Session (C : Type*) where
  cores : C
  owner : Option Owner
  prepared : Option (Nat × ControllerEndpoint)
  tunOn : Bool
  crashRestarts : Nat
  failure : Option BrokerErrorCode

/-- The session of a loop; the update and troubleshooting slots are left out. -/
def ServiceLoop.session {C U T : Type*} (s : ServiceLoop C U T) : Session C :=
  ⟨s.cores, s.owner, s.prepared, s.tunOn, s.crashRestarts, s.failure⟩

section Sections

variable {C U T : Type*}

@[simp] theorem ServiceLoop.session_startTroubleshoot (s : ServiceLoop C U T)
    (client : ClientIdentity) (fixes : List PrivilegedFix) :
    (s.startTroubleshoot client fixes).1.session = s.session := by
  unfold startTroubleshoot
  repeat' split
  all_goals rfl

@[simp] theorem ServiceLoop.session_startUpdate (s : ServiceLoop C U T) (client : ClientIdentity) :
    (s.startUpdate client).1.session = s.session := by
  unfold startUpdate
  repeat' split
  all_goals rfl

/-- The last phase of an update leaves the session alone or stops everything. -/
theorem ServiceLoop.session_finishUpdate [Cores C] [ServiceUpdater U] (s : ServiceLoop C U T)
    (client : ClientIdentity) (version : String) (pending : PendingUpdate U)
    (prepared : Except BrokerErrorCode Unit) :
    (s.finishUpdate client version pending prepared).1.session =
      if prepared = .ok () ∧ s.heldByOther client = false then s.stopEverything.session
      else s.session := by
  rcases prepared with code | ⟨⟩
  · simp [finishUpdate, session]
  · by_cases h : s.heldByOther client = true
    · have h' : ServiceLoop.heldByOther { s with updating := false } client = true := h
      simp [finishUpdate, session, h, h']
    · have h' : ServiceLoop.heldByOther { s with updating := false } client = false := by
        simpa [heldByOther] using h
      simp [finishUpdate, h, h']
      rfl

/-- The client of a command that acts on the session. -/
def Event.actor {U : Type*} : Event U → Option ClientIdentity
  | .command _ client (.prepare _) => some client
  | .command _ client (.setTun _) => some client
  | .command _ client (.stop _) => some client
  | .command _ client .shutdown => some client
  | _ => none

/-- What one section under the lock can do to the session of a loop. -/
inductive Effect [Cores C] (s : ServiceLoop C U T) : Event U → Session C → Prop
  | frame (e : Event U) (quiet : ∀ client, e.actor = some client → s.heldByOther client = true) :
      Effect s e s.session
  | health (connection : ConnectionId) (client : ClientIdentity)
      (held : s.heldByOther client = false) :
      Effect s (.command connection client .status)
        { s with cores := (Cores.health s.cores).1 }.session
  | diagnostics (connection : ConnectionId) (client : ClientIdentity)
      (held : s.heldByOther client = false) :
      Effect s (.command connection client .diagnostics)
        { s with cores := (Cores.diagnostics s.cores).1 }.session
  | prepare (connection : ConnectionId) (client : ClientIdentity) (generation : Nat)
      (held : s.heldByOther client = false) :
      Effect s (.command connection client (.prepare generation))
        ((s.claim connection client).prepare client generation).1.session
  | setTun (connection : ConnectionId) (client : ClientIdentity) (on : Bool)
      (held : s.heldByOther client = false) :
      Effect s (.command connection client (.setTun on))
        ((s.claim connection client).setTun on).1.session
  | stop (connection : ConnectionId) (client : ClientIdentity) (engine : Engine)
      (held : s.heldByOther client = false) :
      Effect s (.command connection client (.stop engine))
        (s.claim connection client).stopCores.session
  | shutdown (connection : ConnectionId) (client : ClientIdentity)
      (held : s.heldByOther client = false) :
      Effect s (.command connection client .shutdown) s.stopEverything.session
  | updated (index : Nat) (result : SlowResult U) :
      Effect s (.finish index result) s.stopEverything.session
  | closed (connection : ConnectionId)
      (owned : (s.owner.any fun owner => owner.connection == connection) = true) :
      Effect s (.closed connection) s.stopEverything.session
  | stopping : Effect s .stopping s.stopEverything.session
  | tick : Effect s .tick s.tick.session

namespace SharedService

theorem session_beginUpdate (s : SharedService C U T) (client : ClientIdentity)
    (version : String) (stageOnly : Bool) :
    (s.beginUpdate client version stageOnly).1.loop.session = s.loop.session := by
  have h := s.loop.session_startUpdate client
  unfold beginUpdate
  rcases hs : s.loop.startUpdate client with ⟨loop, response | pending⟩ <;>
    simpa only [hs] using h

theorem session_beginTroubleshoot (s : SharedService C U T) (client : ClientIdentity)
    (fixes : List PrivilegedFix) :
    (s.beginTroubleshoot client fixes).1.loop.session = s.loop.session := by
  have h := s.loop.session_startTroubleshoot client fixes
  unfold beginTroubleshoot
  rcases hs : s.loop.startTroubleshoot client fixes with ⟨loop, response | pending⟩ <;>
    simpa only [hs] using h

variable [Cores C] [ServiceUpdater U]

omit [Cores C] [ServiceUpdater U] in
/-- Events that act on no session leave it alone. -/
private theorem quiet_of_actor {s : ServiceLoop C U T} {e : Event U} (h : e.actor = none) :
    ∀ client, e.actor = some client → s.heldByOther client = true := by
  intro client hc
  simp [h] at hc

/-- A slow command's last phase leaves the session alone or stops everything. -/
theorem effect_finishShared (s : SharedService C U T) (index : Nat) (result : SlowResult U) :
    Effect s.loop (.finish index result) (s.finishShared index result).1.loop.session := by
  unfold finishShared
  split
  · exact .frame _ (quiet_of_actor rfl)
  · dsimp only
    split
    · exact .frame _ (quiet_of_actor rfl)
    · rw [ServiceLoop.session_finishUpdate]
      split
      · exact .updated _ _
      · exact .frame _ (quiet_of_actor rfl)
  · exact .frame _ (quiet_of_actor rfl)

variable [Troubleshooter T]

/-- A command of another user than the owner leaves the session alone. -/
theorem session_executeShared_of_held (logs : LogReader) {s : SharedService C U T}
    (connection : ConnectionId) {client : ClientIdentity} (command : ServiceCommand)
    (held : s.loop.heldByOther client = true) :
    (s.executeShared logs connection client command).1.loop.session = s.loop.session := by
  cases command
  case update version => exact session_beginUpdate s client version false
  case stageUpdate version => exact session_beginUpdate s client version true
  case troubleshoot fixes => exact session_beginTroubleshoot s client fixes
  all_goals simp only [executeShared, ServiceLoop.execute, held, if_true]

/-- A command under the lock has one of the effects listed for it. -/
theorem effect_executeShared (logs : LogReader) (s : SharedService C U T)
    (connection : ConnectionId) (client : ClientIdentity) (command : ServiceCommand) :
    Effect s.loop (.command connection client command)
      (s.executeShared logs connection client command).1.loop.session := by
  by_cases held : s.loop.heldByOther client = true
  · rw [session_executeShared_of_held logs connection command held]
    refine .frame _ fun other hactor => ?_
    cases command <;> simp_all [Event.actor]
  · have held : s.loop.heldByOther client = false := by simpa using held
    cases command with
    | update version =>
      exact session_beginUpdate s client version false ▸ .frame _ (quiet_of_actor rfl)
    | stageUpdate version =>
      exact session_beginUpdate s client version true ▸ .frame _ (quiet_of_actor rfl)
    | troubleshoot fixes =>
      exact session_beginTroubleshoot s client fixes ▸ .frame _ (quiet_of_actor rfl)
    | prepare generation =>
      simpa [executeShared, ServiceLoop.execute, held] using
        Effect.prepare connection client generation held
    | setTun on =>
      simpa [executeShared, ServiceLoop.execute, held] using
        Effect.setTun connection client on held
    | stop engine =>
      simpa [executeShared, ServiceLoop.execute, held] using
        Effect.stop connection client engine held
    | status =>
      simp only [executeShared, ServiceLoop.execute, held, ServiceLoop.status,
        Bool.false_eq_true, if_false]
      by_cases hp : s.loop.prepared.isSome = true
      · simp only [hp, if_true]
        exact .health connection client held
      · simp only [hp]
        exact .frame _ (quiet_of_actor rfl)
    | diagnostics =>
      simpa [executeShared, ServiceLoop.execute, held] using
        Effect.diagnostics connection client held
    | shutdown =>
      simpa [executeShared, ServiceLoop.execute, held] using
        Effect.shutdown connection client held
    | updateProgress =>
      simp only [executeShared, ServiceLoop.execute, held, Bool.false_eq_true, if_false]
      exact .frame _ (quiet_of_actor rfl)
    | serviceLog file before =>
      simp only [executeShared, ServiceLoop.execute, held, Bool.false_eq_true, if_false]
      cases s.loop.logDirectory <;> exact .frame _ (quiet_of_actor rfl)
    | coreJournal sinceMs cursor =>
      simp only [executeShared, ServiceLoop.execute, held, Bool.false_eq_true, if_false]
      cases s.loop.logDirectory <;> exact .frame _ (quiet_of_actor rfl)

/-- Every section under the lock has one of the listed effects. -/
theorem handle_effect (logs : LogReader) (s : SharedService C U T) (e : Event U) :
    Effect s.loop e (s.handle logs e).1.loop.session := by
  cases e with
  | command connection client command =>
    exact effect_executeShared logs s connection client command
  | finish index result => exact effect_finishShared s index result
  | tick => exact .tick
  | closed connection =>
    simp only [handle, ServiceLoop.clientGone]
    split
    · rename_i owned
      exact .closed connection owned
    · exact .frame _ (quiet_of_actor rfl)
  | stopping => exact .stopping
  | progress progress => exact .frame _ (quiet_of_actor rfl)

end SharedService

end Sections

end MultiCore.Service
