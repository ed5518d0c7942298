import MultiCore.Backend.State

/-!
# Connections of the daemon

Connect, Disconnect, the watcher's tick, the warm-up and Quit. Every guard of
the runtime is one section. Two locks are held across awaits: the operation
lock, for whatever changes the runtime or the store, and `generation_change`,
for whatever may bring a connection up.
-/

namespace MultiCore.Backend

open Cooperative Daemon

/-- Why a request failed. -/
inductive ProfileMutationError where
  | notFound
  | connected
  | limitReached
  | storage
  | committed
  | fetch
  deriving DecidableEq, Repr

/-- What a request is answered with where it fails. -/
inductive BackendError where
  | other
  | profileMutation (error : ProfileMutationError)
  | startFailure (engine : Engine) (cause : StartFailureCause)
  deriving DecidableEq, Repr

/-- The places of the operations that statements speak about. -/
inductive Place where
  | plain
  /-- A failed stop of the cores is recorded as an error. -/
  | stopFailed
  /-- A failed compensation of a selection is recorded as an error. -/
  | compensationFailed
  /-- An operation ends early, since carrying the selections of the profile forward failed. -/
  | carryFailed (id : ProfileId)
  /-- An operation ends early, since a published generation of the connected profile did not
  load. -/
  | reloadFailed
  /-- A deletion ends early, since the store refused it. -/
  | deleteRefused
  /-- A download is about to be stored over a profile taken for inactive, or as a new one. -/
  | storingInactive (existing : Option ProfileId) (link : Option Link)
  /-- A warm-up that succeeded for a revision is about to be recorded. -/
  | warmedUp (revision : Nat)
  /-- A Disconnect gives the operation lock back; whether stopping the cores failed. -/
  | disconnected (failed : Bool)
  /-- A Disconnect request returns; whether with success. -/
  | answered (ok : Bool)
  /-- `shutdown_cores` returns. -/
  | shutDown
  deriving DecidableEq

/-- An operation of the daemon. -/
abbrev Op (ι : Type) := Task Place Ask Reply (CoreBackend ι)

section Sections

variable {ι α : Type}

/-- One change under the runtime's guard. -/
def updateAt (place : Place) (f : CoreBackend ι → CoreBackend ι) : Op ι Unit :=
  Task.atomic place f fun _ => ()

/-- One change under the runtime's guard, at no place of interest. -/
def update (f : CoreBackend ι → CoreBackend ι) : Op ι Unit := updateAt .plain f

/-- One look under the runtime's guard. -/
def look (f : CoreBackend ι → α) : Op ι α :=
  Task.atomic .plain id f

/-- A change of the runtime. -/
def change (f : CoreRuntime → CoreRuntime) : Op ι Unit :=
  update fun s => { s with runtime := f s.runtime }

/-- Moves the state and clears `degraded`; whether the state machine allowed the move. -/
def settle (next : ConnectionState) : Op ι Bool :=
  Task.atomic .plain (fun s => { s with runtime := s.runtime.settled next })
    fun s => s.runtime.state.allows next

/-- Nothing happens here but that an operation gets to a place. -/
def reach (place : Place) : Op ι Unit := updateAt place id

end Sections

section Questions

variable {ι : Type}

/-- Makes a controller; whether that worked. -/
def controllerFactory (snapshot : Snapshot) (options : ConnectOptions) : Op ι Bool :=
  Task.question (Ask.prepare snapshot options)

/-- Publishes what was staged for a controller; whether that worked. -/
def activatePrepared (controller : Controller) : Op ι Bool :=
  Task.question (Ask.publish controller)

/-- Starts an engine of a controller. -/
def start (controller : Controller) (engine : Engine) : Op ι (Except StartFailureCause Unit) := do
  let started : Started ← Task.question (Ask.start controller engine)
  return started.result

/-- Stops an engine of a controller. -/
def stop (controller : Controller) (engine : Engine) : Op ι (Except StartFailureCause Unit) :=
  Task.question (Ask.stop controller engine)

/-- Has Mihomo switch a group; whether it did. -/
def selector (group node : String) : Op ι Bool := Task.question (Ask.select group node)

/-- Downloads what is behind a link. -/
def fetch (link : Link) : Op ι (Option Snapshot) := Task.question (Ask.fetch link)

/-- Whether the service answers. -/
def serviceAvailable : Op ι Bool := Task.question Ask.serviceAvailable

/-- Whether cores run that a connection can use. -/
def coresReady : Op ι Bool := Task.question Ask.coresReady

/-- Whether the service lost the connection. -/
def connectionLost : Op ι Bool := Task.question Ask.connectionLost

/-- Whether the time between two automatic reconnects is over. -/
def cooledDown : Op ι Bool := Task.question Ask.cooledDown

/-- Releases the cores of the service. -/
def release : Op ι Unit := Task.question Ask.release

/-- A call of the store. -/
def call (c : StoreCall) : Op ι (StoreReply c) := Task.question (Ask.store c)

/-- Loads a profile. -/
def profileSnapshot (id : ProfileId) : Op ι (Except ProfileError Generation) := call (.load id)

/-- Loads the active profile. -/
def activeSnapshot : Op ι (Except ProfileError (Option (ProfileId × Generation))) :=
  call .loadActive

/-- The profile that has a link. -/
def findExactSource (link : Link) : Op ι (Except ProfileError (Option ProfileId)) :=
  call (.findSource link)

/-- Gives a profile another snapshot. -/
def replaceProfile (id : ProfileId) (snapshot : Snapshot) : Op ι (Stored ℕ+) :=
  call (.replace id snapshot)

/-- Stores a new profile and makes it the active one. -/
def createProfile (snapshot : Snapshot) : Op ι (Stored (ProfileId × ℕ+)) :=
  call (.create snapshot)

/-- Stores a new profile. -/
def addProfile (snapshot : Snapshot) : Op ι (Stored (ProfileId × ℕ+)) := call (.add snapshot)

/-- Makes a profile the active one. -/
def activateProfile (id : ProfileId) : Op ι (Stored Unit) := call (.activate id)

/-- Deletes a profile. -/
def deleteProfile (id : ProfileId) : Op ι (Stored Unit) := call (.delete id)

/-- The selections saved for a revision of a profile. -/
def restoredSelections (id : ProfileId) (revision : Nat) (snapshot : Snapshot) :
    Op ι (List (Option String)) :=
  call (.savedSelections id revision snapshot.groups.length)

/-- Saves the choice of a node in a group. -/
def saveSelection (id : ProfileId) (revision group node : Nat) : Op ι (Stored Unit) :=
  call (.saveSelection id revision group node)

/-- Saves the selections of one generation for the next; whether that worked. -/
def carryForwardSelections (id : ProfileId) (previous next : Generation) : Op ι Bool :=
  call (.carryForward id previous next)

/-- Reads all profiles; whether that worked. -/
def listProfiles : Op ι Bool := call .list

end Questions

section Locks

variable {ι α : Type} [DecidableEq ι]

/-- Waits for the operation lock. -/
def takeOperation (i : ι) : Op ι Unit :=
  Task.await .plain (fun s => s.operation.isNone) (fun s => { s with operation := some i })
    fun _ => ()

/-- Gives the operation lock back. -/
def giveOperation (place : Place) : Op ι Unit :=
  updateAt place fun s => { s with operation := none }

/-- An operation that holds the operation lock. -/
def locked (i : ι) (operation : Op ι α) : Op ι α := do
  takeOperation i
  let result ← operation
  giveOperation .plain
  return result

/-- What is recorded about a request. -/
def CoreBackend.mark (s : CoreBackend ι) (i : ι) (bound past : Bool) : CoreBackend ι :=
  { s with
    bound := Function.update s.bound i bound
    past := Function.update s.past i past }

/-- Waits for `generation_change`. -/
def takeGenerationChange (i : ι) : Op ι Unit :=
  Task.await .plain (fun s => s.generationChange.isNone)
    (fun s => { s with generationChange := some i }) fun _ => ()

/-- Takes `generation_change` where it is free; whether it was. -/
def tryGenerationChange (i : ι) : Op ι Bool :=
  Task.atomic .plain
    (fun s => if s.generationChange.isNone then { s with generationChange := some i } else s)
    fun s => s.generationChange.isNone

/-- Whoever gives `generation_change` back makes no connection any more. -/
def giveGenerationChange (i : ι) : Op ι Unit :=
  update fun s => { s.mark i false false with generationChange := none }

/-- Looks at `shutDown`; whoever finds it clear is past its last look. -/
def testShutDown (i : ι) : Op ι Bool :=
  Task.atomic .plain (fun s => if s.shutDown then s else s.mark i (s.bound i) true)
    fun s => s.shutDown

end Locks

section Connections

variable {ι : Type} [DecidableEq ι]

/-- The controller as the supervisor drives it. -/
def supervised (controller : Controller) : ProcessController (Op ι) StartFailureCause where
  start := start controller
  stop := stop controller
  startFailureCause := id

/-- Installs what the store says, or nothing where its active profile cannot be read. -/
def reconcileAuthoritative : Op ι Unit := do
  let active ← look fun s => s.store.active
  match ← activeSnapshot with
  | .ok (some (id, generation)) =>
    let saved ← restoredSelections id generation.revision generation.snapshot
    update fun s => s.reconciled id generation saved
  | _ => update fun s => s.clearForActive active

/-- What is left of a Disconnect once the cores were asked to stop. -/
def afterStop : Except SupervisorError Unit → Op ι (Except BackendError Unit)
  | .ok () => do
    if ← settle .ready then
      reconcileAuthoritative
      giveOperation (.disconnected false)
      return .ok ()
    else
      giveOperation (.disconnected false)
      return .error .other
  | .error _ => do
    updateAt .stopFailed fun s => { s with runtime := s.runtime.markError }
    giveOperation (.disconnected true)
    return .error .other

/-- Disconnects under the operation lock; without a connection there is nothing to do. -/
def disconnectNow (i : ι) : Op ι (Except BackendError Unit) := do
  takeOperation i
  let runtime ← look fun s => s.runtime
  if runtime.state = .empty ∨ runtime.state = .ready then
    giveOperation (.disconnected false)
    return .ok ()
  else
    match runtime.controller with
    | none =>
      giveOperation (.disconnected false)
      return .error .other
    | some controller => afterStop (← Supervisor.disconnect (supervised controller))

/-- Applies the queued selections in order; whether all were applied. -/
def replaySelections : List (String × String) → Op ι Bool
  | [] => return true
  | (group, node) :: queued => do
    if ← selector group node then replaySelections queued else return false

/-- A connection that does not apply a queued selection is rolled back. -/
def rollBackReplay (controller : Controller) : Op ι Unit := do
  match ← Supervisor.disconnect (supervised controller) with
  | .ok () =>
    let _ ← settle .ready
  | .error _ => change .markError

/-- What a Connect makes of the supervisor's answer. -/
def afterStart (controller : Controller) (queued : List (String × String)) :
    Except SupervisorError Unit → Op ι (Except BackendError Unit)
  | .ok () => do
    if ← replaySelections queued then
      if ← settle .connected then return .ok () else return .error .other
    else
      rollBackReplay controller
      return .error .other
  | .error (.startFailed engine rollbackFailed cause) => do
    if rollbackFailed then
      change .markError
      return .error (.startFailure engine cause)
    else if ← settle .ready then return .error (.startFailure engine cause)
    else return .error .other
  | .error .stopFailed => do
    change .markError
    return .error .other

/-- Stores the controller and moves to Connecting; whether the state machine allowed it. -/
def beginConnecting (controller : Controller) : Op ι Bool :=
  Task.atomic .plain
    (fun s => { s with runtime := { s.runtime with
      controller := some controller
      state := s.runtime.state.moved .connecting } })
    fun s => s.runtime.state.allows .connecting

/-- Starts a connection of the snapshot that is installed. -/
def startConnection (snapshot : Snapshot) (options : ConnectOptions)
    (queued : List (String × String)) : Op ι (Except BackendError Unit) := do
  if ← controllerFactory snapshot options then
    let controller : Controller := ⟨snapshot, options⟩
    if ← activatePrepared controller then
      if ← beginConnecting controller then
        afterStart controller queued (← Supervisor.connect (supervised controller))
      else return .error .other
    else return .error .other
  else return .error .other

/-- Connects under the operation lock, from the ready state only. -/
def connectNow (i : ι) (options : ConnectOptions) : Op ι (Except BackendError Unit) :=
  locked i do
    update fun s => { s with connectAttempts := s.connectAttempts + 1 }
    update fun s => { s with connectOptions := options }
    let runtime ← look fun s => s.runtime
    if runtime.degraded ∨ runtime.state ≠ .ready then return .error .other
    else
      match runtime.snapshot with
      | none => return .error .other
      | some snapshot => startConnection snapshot options (runtime.queuedSelections snapshot)

/-- A user Connect or Disconnect takes over from a pending automatic reconnect. -/
def cancelAutoReconnect : Op ι Unit :=
  update fun s => { s with autoReconnect := none }

/-- A user's Connect. A switch in progress that reconnected is the answer to it. -/
def connectWith (i : ι) (options : ConnectOptions) : Op ι (Except BackendError Unit) := do
  cancelAutoReconnect
  if ← tryGenerationChange i then
    let result ← connectNow i options
    giveGenerationChange i
    return result
  else
    takeGenerationChange i
    if (← look fun s => s.runtime.state) = .connected then
      giveGenerationChange i
      return .ok ()
    else
      let result ← connectNow i options
      giveGenerationChange i
      return result

/-- A user's Disconnect, after a switch in progress. -/
def disconnect (i : ι) : Op ι (Except BackendError Unit) := do
  cancelAutoReconnect
  takeGenerationChange i
  let result ← disconnectNow i
  updateAt (.answered result.isOk) fun s =>
    { s with
      generationChange := none
      final := if result.isOk then true else s.final }
  return result

/-- A warm-up that succeeded is recorded, if its catalog is still installed. -/
def recordWarmUp (revision : Nat) : Op ι Unit :=
  updateAt (.warmedUp revision) fun s =>
    { s with
      warmRevision := if s.runtime.revision = revision then some revision else s.warmRevision }

/-- A failure is no failure of the warm-up where a Connect took the session. -/
def recordWarmUpFailure (attempts : UInt64) (revision : Nat) : Op ι Bool := do
  if ← look fun s => s.connectAttempts != attempts then return true
  else
    update fun s =>
      { s with
        warmRevision :=
          if s.runtime.state = .ready ∧ s.warmRevision = some revision then none
          else s.warmRevision }
    return false

/-- A Connect ran while the factory probed the service, or another catalog was installed. -/
def warmUpSuperseded (attempts : UInt64) (revision : Nat) : Op ι Bool := do
  if ← look fun s => s.connectAttempts != attempts then return true
  else look fun s => s.runtime.state != .ready || s.runtime.revision != revision

/-- Starts the idle cores of a snapshot. -/
def startIdle (snapshot : Snapshot) (revision : Nat) : Op ι Bool := do
  let attempts ← look fun s => s.connectAttempts
  let options ← look fun s => s.connectOptions
  let controller : Controller := ⟨snapshot, { options with warmUp := true }⟩
  if ← controllerFactory snapshot controller.options then
    if ← activatePrepared controller then
      if ← warmUpSuperseded attempts revision then return true
      else
        match ← start controller .xray with
        | .ok () =>
          recordWarmUp revision
          return true
        | .error _ => recordWarmUpFailure attempts revision
    else recordWarmUpFailure attempts revision
  else recordWarmUpFailure attempts revision

/-- Starts the idle cores of the installed snapshot, without the operation lock. -/
def warmUp (i : ι) : Op ι Bool := do
  if ← testShutDown i then return true
  else
    let available ← serviceAvailable
    let ready ← coresReady
    let (runtime, idle) ← look fun s => (s.runtime, s.serviceActive available &&
      !s.runtime.degraded && s.runtime.state == .ready && !s.coresLive ready)
    match runtime.snapshot with
    | some snapshot => if idle then startIdle snapshot runtime.revision else return true
    | none => return true

/-- The cores of a lost connection are stopped; the next tick reconnects unless one did lately. -/
def afterLoss : Except SupervisorError Unit → Op ι Unit
  | .ok () => do
    let cooled ← cooledDown
    update fun s =>
      { s with
        runtime := { s.runtime with
          state := s.runtime.state.moved .ready
          degraded := false }
        warmRevision := none
        autoReconnect :=
          if !s.shutDown && (!s.lastAutoReconnect || cooled) then some s.connectOptions
          else s.autoReconnect }
    reconcileAuthoritative
  | .error _ => updateAt .stopFailed fun s => { s with runtime := s.runtime.markError }

/-- The service lost the cores under an active connection. -/
def coresLost (i : ι) : Op ι Unit :=
  locked i do
    let lost ← connectionLost
    let runtime ← look fun s => s.runtime
    if runtime.state = .connected ∧ lost then
      match runtime.controller with
      | none => return ()
      | some controller => afterLoss (← Supervisor.disconnect (supervised controller))
    else return ()

/-- The watcher's one automatic reconnect after a loss, through the service only. -/
def autoReconnect (i : ι) (options : ConnectOptions) : Op ι Bool := do
  if ← serviceAvailable then
    if ← testShutDown i then return false
    else
      takeGenerationChange i
      update fun s => { s with lastAutoReconnect := true }
      let result ← connectNow i { options with warmUp := false, serviceOnly := true }
      giveGenerationChange i
      return result.isOk
  else return false

/-- Takes the pending reconnect. -/
def takeAutoReconnect (i : ι) : Op ι (Option ConnectOptions) :=
  Task.atomic .plain
    (fun s => { s.mark i s.autoReconnect.isSome (s.past i) with autoReconnect := none })
    fun s => s.autoReconnect

/-- One tick of the watcher in a state. -/
def watchState (i : ι) : ConnectionState → Op ι Bool
  | .connected => do
    if ← connectionLost then
      coresLost i
      return false
    else return true
  | .ready => do
    match ← takeAutoReconnect i with
    | some options => autoReconnect i options
    | none => if ← serviceAvailable then warmUp i else return false
  | .empty => do
    if ← coresReady then
      release
      return true
    else return true
  | _ => return true

/-- An automatic reconnect only ever starts from Ready. -/
def forgetReconnect (state : ConnectionState) : Op ι Unit :=
  if state ≠ .ready ∧ state ≠ .connected then cancelAutoReconnect else return ()

/-- One look of the watcher at the service, in always-ready mode. -/
def watchService (i : ι) : Op ι Bool := do
  if ← look fun s => s.shutDown then return true
  else
    let (state, readiness) ← look fun s => (s.runtime.state, s.readiness)
    if readiness then
      forgetReconnect state
      watchState i state
    else return true

/-- The service stops its cores in always-ready mode. -/
def releaseWhere (readiness : Bool) : Op ι Unit :=
  if readiness then release else return ()

/-- Quit: disconnect, stop the service's cores and never warm them again. -/
def shutdownCores (i : ι) : Op ι Unit := do
  update fun s => { s with shutDown := true }
  let _ ← disconnectNow i
  releaseWhere (← look fun s => s.readiness)
  updateAt .shutDown fun s => { s with quit := true }

/-- Reconnects a connection that was stopped to move it. -/
def resumeAfterGenerationChange (i : ι) (options : ConnectOptions) : Op ι Unit := do
  if ← testShutDown i then return ()
  else
    let _ ← connectNow i options

/-- Whether a connection is to move to another generation. -/
def decideToMove (i : ι) (available : Bool) (condition : CoreRuntime → Bool) : Op ι Bool :=
  let moves (s : CoreBackend ι) : Bool :=
    s.runtime.state == .connected && !s.runtime.degraded && s.serviceActive available &&
      condition s.runtime
  Task.atomic .plain (fun s => if moves s then s.mark i true (s.past i) else s) moves

/-- Stops a connection that is to move to another generation; the options to reconnect with. -/
def pauseForGenerationChange (i : ι) (condition : CoreRuntime → Bool) :
    Op ι (Option ConnectOptions) := do
  let available ← serviceAvailable
  if ← decideToMove i available condition then
    match ← disconnectNow i with
    | .ok () => return some (← look fun s => s.connectOptions)
    | .error _ => return none
  else return none

end Connections

end MultiCore.Backend
