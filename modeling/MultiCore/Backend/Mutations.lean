import MultiCore.Backend.Operations

/-!
# Profile mutations of the daemon

Importing, refreshing, activating, replacing and deleting subscriptions, and
selecting a node. A mutation updates the store first and the runtime later; it
ends early with an error as the source's `?` does. A download runs without the
operation lock where the source says so, and what it was started for is looked
up again under the lock.
-/

namespace MultiCore.Backend

open Cooperative Daemon

/-- A mutation that may end early with an error. -/
abbrev Mutation (ι : Type) := ExceptT ProfileMutationError (Op ι)

/-- A part of a mutation that does not end it. -/
def perform {ι α : Type} (task : Op ι α) : Mutation ι α := ExceptT.lift task

section Parts

variable {ι : Type}

def mapProfileError : ProfileError → ProfileMutationError
  | .notFound => .notFound
  | .limitReached => .limitReached
  | .other => .storage

/-- What `Connecting` and `Connected` have in common. -/
def CoreRuntime.live (r : CoreRuntime) : Bool := r.state == .connecting || r.state == .connected

def CoreRuntime.acceptsMutation (r : CoreRuntime) : Bool := !(r.degraded || r.live)

def CoreRuntime.acceptsRefreshDelete (r : CoreRuntime) : Bool :=
  !(r.degraded || r.state == .connecting)

def requireDisconnectedMutation : Mutation ι Unit := do
  if ← perform (look fun s => s.runtime.acceptsMutation) then return () else throw .connected

def requireRefreshDeleteMutation : Mutation ι Unit := do
  if ← perform (look fun s => s.runtime.acceptsRefreshDelete) then return () else throw .connected

def requireProfile (id : ProfileId) : Mutation ι Unit := do
  if ← perform (look fun s => s.store.profiles.contains id) then return () else throw .notFound

/-- The active profile of the store. -/
def requireActive : Mutation ι ProfileId := do
  match ← perform (look fun s => s.store.active) with
  | some id => return id
  | none => throw .notFound

/-- Loads a profile; an error ends the mutation. -/
def loadProfile (id : ProfileId) : Mutation ι Generation := do
  match ← perform (profileSnapshot id) with
  | .ok generation => return generation
  | .error error => throw (mapProfileError error)

def fetchSubscription (link : Link) : Mutation ι Snapshot := do
  match ← perform (fetch link) with
  | some snapshot => return snapshot
  | none => throw .fetch

/-- Prepares a controller for a snapshot that is to be installed, if that works. -/
def prepareControllerOrDefer (snapshot : Snapshot) : Op ι (Option Controller) := do
  let options ← look fun s => s.connectOptions
  if ← controllerFactory snapshot options then return some ⟨snapshot, options⟩ else return none

/-- What stopping the cores before a mutation makes of the supervisor's answer. -/
def afterMutationStop : Except SupervisorError Unit → Mutation ι Bool
  | .ok () => do
    if ← perform (settle .ready) then return true else throw .committed
  | .error _ => do
    perform (updateAt .stopFailed fun s => { s with runtime := s.runtime.markError })
    throw .committed

/-- Stops a connection of the profile that is to change; whether there was one. -/
def stopConnectionForProfileMutation : Mutation ι Bool := do
  let runtime ← perform (look fun s => s.runtime)
  match runtime.state, runtime.controller with
  | .connected, none => throw .committed
  | .connected, some controller =>
    afterMutationStop (← perform (Supervisor.disconnect (supervised controller)))
  | .connecting, _ => throw .connected
  | .empty, _ | .ready, _ | .error, _ => return false

/-- Loads what a mutation that reported an error has published after all. -/
def profileSnapshotAfterCommit (id : ProfileId) : Mutation ι Generation := do
  match ← perform (profileSnapshot id) with
  | .ok generation => return generation
  | .error _ =>
    perform reconcileAuthoritative
    throw .committed

/-- The same while connected, where the runtime is left as it is. -/
def profileSnapshotWhileConnected (id : ProfileId) : Mutation ι Generation := do
  match ← perform (profileSnapshot id) with
  | .ok generation => return generation
  | .error _ =>
    perform (reach .reloadFailed)
    throw .committed

/-- Saves the selections of a profile for its new generation. -/
def carryForward (id : ProfileId) (previous next : Generation) : Mutation ι Unit := do
  if ← perform (carryForwardSelections id previous next) then return ()
  else
    perform (reach (.carryFailed id))
    throw .committed

/-- Carries the selections forward where there was a generation before. -/
def carryForwardFrom (id : ProfileId) (next : Generation) : Option Generation → Mutation ι Unit
  | some previous => carryForward id previous next
  | none => return ()

/-- Installs a generation with the controller prepared for it and publishes what was staged. -/
def installPrepared (id : ProfileId) (generation : Generation) (prepared : Option Controller)
    (failure : ProfileMutationError) : Mutation ι Unit := do
  let saved ← perform (restoredSelections id generation.revision generation.snapshot)
  perform (update fun s => s.install id generation prepared saved)
  match prepared with
  | none => return ()
  | some controller =>
    if ← perform (activatePrepared controller) then return ()
    else
      perform reconcileAuthoritative
      throw failure

end Parts

section Refreshing

variable {ι : Type}

/-- A download made without the operation lock. -/
structure Prefetched where
  sourceUrl : Link
  snapshot : Snapshot
  deriving DecidableEq

/-- The source link of a profile. -/
def profileSourceUrl (id : ProfileId) : Mutation ι Link := do
  let generation ← loadProfile id
  match generation.snapshot.source with
  | some link => return link
  | none => throw .storage

def prefetchProfile (id : ProfileId) : Mutation ι Prefetched := do
  let sourceUrl ← profileSourceUrl id
  let snapshot ← fetchSubscription sourceUrl
  return ⟨sourceUrl, snapshot⟩

/-- The snapshot to store: the prefetched one, or a new download. -/
def newSnapshot (link : Link) : Option Snapshot → Mutation ι Snapshot
  | some snapshot => return snapshot
  | none => fetchSubscription link

/-- Prepares for a generation of the active profile while it is not connected; the controller,
and whether a connection was stopped. -/
def prepareReplacement (snapshot : Snapshot) (install : Bool) :
    Mutation ι (Option Controller × Bool) := do
  if install then
    let prepared ← perform (prepareControllerOrDefer snapshot)
    let stopped ← stopConnectionForProfileMutation
    return (prepared, stopped)
  else return (none, false)

/-- Stores a new generation of a profile. -/
def storeReplacement (id : ProfileId) (snapshot : Snapshot) (connected stopped : Bool) :
    Mutation ι Generation := do
  match ← perform (replaceProfile id snapshot) with
  | .ok revision => return ⟨revision, snapshot⟩
  | .committed _ =>
    if connected then profileSnapshotWhileConnected id else profileSnapshotAfterCommit id
  | .refused error => throw (if stopped then .committed else mapProfileError error)

/-- What the runtime makes of a stored generation: nothing, a pending snapshot or a new
installation. -/
def adoptReplacement (id : ProfileId) (generation : Generation) (prepared : Option Controller)
    (active connected : Bool) : Mutation ι Unit := do
  if !active then return ()
  else if connected then
    perform (change fun r => { r with pendingSnapshot := some generation })
  else installPrepared id generation prepared .committed

def replaceProfileSourceLocked (id : ProfileId) (sourceUrl : String) (prefetched : Option Snapshot) :
    Mutation ι Unit := do
  let sourceUrl := Link.of sourceUrl
  if sourceUrl.text = "" then throw .storage
  else
    let previous ← loadProfile id
    let active ← perform (look fun s => s.store.active == some id)
    let connected ← perform (look fun s => active && s.runtime.state == .connected)
    let snapshot ← newSnapshot sourceUrl prefetched
    let (prepared, stopped) ← prepareReplacement snapshot (active && !connected)
    let generation ← storeReplacement id snapshot connected stopped
    carryForward id previous generation
    adoptReplacement id generation prepared active connected

/-- A download that still belongs to the profile's link is used, and made again otherwise. -/
def refreshProfileLocked (id : ProfileId) (prefetched : Option Prefetched) : Mutation ι Unit := do
  let sourceUrl ← profileSourceUrl id
  replaceProfileSourceLocked id sourceUrl.text
    ((prefetched.filter fun prefetched => prefetched.sourceUrl = sourceUrl).map (·.snapshot))

end Refreshing

section Importing

variable {ι : Type}

/-- Loads a generation that was stored without touching the active profile. -/
def storedInactive (id : ProfileId) (previous : Option Generation) : Mutation ι ProfileId := do
  match ← perform (profileSnapshot id) with
  | .ok generation =>
    carryForwardFrom id generation previous
    return id
  | .error _ => throw .committed

/-- Stores a download as a new profile, or over the inactive profile with the same link. -/
def storeInactiveProfileLocked (existing : Option ProfileId) (snapshot : Snapshot) :
    Mutation ι ProfileId := do
  perform (reach (.storingInactive existing snapshot.source))
  match existing with
  | some id =>
    let previous ← loadProfile id
    match ← perform (replaceProfile id snapshot) with
    | .ok _ | .committed _ => storedInactive id (some previous)
    | .refused error => throw (mapProfileError error)
  | none =>
    match ← perform (addProfile snapshot) with
    | .ok (id, _) | .committed (id, _) => storedInactive id none
    | .refused error => throw (mapProfileError error)

/-- Stores an import over the profile with the same link. -/
def replaceForImport (id : ProfileId) (snapshot : Snapshot) : Mutation ι Unit := do
  match ← perform (replaceProfile id snapshot) with
  | .ok _ => return ()
  | .committed _ =>
    let _ ← profileSnapshotAfterCommit id
  | .refused error => throw (mapProfileError error)

/-- Makes the profile that an import was stored over the active one. -/
def activateForImport (id : ProfileId) : Mutation ι Unit := do
  match ← perform (activateProfile id) with
  | .ok () | .committed () => return ()
  | .refused error =>
    perform reconcileAuthoritative
    throw (mapProfileError error)

/-- Stores an import over a profile and activates that profile; its generation before. -/
def importOver (id : ProfileId) (snapshot : Snapshot) :
    Mutation ι (ProfileId × Option Generation) := do
  let previous ← loadProfile id
  replaceForImport id snapshot
  activateForImport id
  return (id, some previous)

/-- Stores an import as a new profile, which becomes the active one. -/
def importNew (snapshot : Snapshot) : Mutation ι (ProfileId × Option Generation) := do
  match ← perform (createProfile snapshot) with
  | .ok (id, _) => return (id, none)
  | .committed _ =>
    match ← perform (look fun s => s.store.active) with
    | some id => return (id, none)
    | none =>
      perform reconcileAuthoritative
      throw .storage
  | .refused error => throw (mapProfileError error)

def storeImport (snapshot : Snapshot) :
    Option ProfileId → Mutation ι (ProfileId × Option Generation)
  | some id => importOver id snapshot
  | none => importNew snapshot

/-- Loads and installs what an import stored. -/
def adoptImport (prepared : Option Controller) (id : ProfileId) (previous : Option Generation) :
    Mutation ι Unit := do
  let generation ← profileSnapshotAfterCommit id
  carryForwardFrom id generation previous
  installPrepared id generation prepared .storage

def importProfileLocked (url : String) : Mutation ι Unit := do
  requireDisconnectedMutation
  let link := Link.of url
  if link.text = "" then throw .storage
  else
    let snapshot ← fetchSubscription link
    let prepared ← perform (prepareControllerOrDefer snapshot)
    match ← perform (findExactSource link) with
    | .error error => throw (mapProfileError error)
    | .ok existing =>
      let (id, previous) ← storeImport snapshot existing
      adoptImport prepared id previous

end Importing

section Requests

variable {ι α : Type} [DecidableEq ι]

/-- A mutation that holds the operation lock. -/
def lockedMutation (i : ι) (mutation : Mutation ι α) : Mutation ι α :=
  ExceptT.mk (locked i mutation.run)

/-- The answer to a request that is a mutation. -/
def answer (mutation : Mutation ι Unit) : Op ι (Except BackendError Unit) := do
  match ← mutation.run with
  | .ok () => return .ok ()
  | .error error => return .error (.profileMutation error)

/-- Reconnects where a connection was stopped. -/
def resumeWhere (i : ι) : Option ConnectOptions → Op ι Unit
  | some options => resumeAfterGenerationChange i options
  | none => return ()

/-- In always-ready mode the connection moves to the generation that waits for it. -/
def moveToPending (i : ι) : Op ι Unit := do
  takeGenerationChange i
  resumeWhere i (← pauseForGenerationChange i CoreRuntime.pendingChangesRuntime)
  giveGenerationChange i

/-- The active profile is refreshed, whichever it is once the download is there. -/
def refreshSubscriptionLocked (id : ProfileId) (prefetched : Prefetched) :
    Mutation ι (Except ProfileMutationError Unit) := do
  requireRefreshDeleteMutation
  let active ← requireActive
  perform (refreshProfileLocked active (if active = id then some prefetched else none)).run

/-- The connection is moved also after a refresh that failed. -/
def refreshSubscription (i : ι) : Mutation ι Unit := do
  requireRefreshDeleteMutation
  let id ← requireActive
  let prefetched ← prefetchProfile id
  let result ← lockedMutation i (refreshSubscriptionLocked id prefetched)
  perform (moveToPending i)
  ExceptT.mk (pure result)

/-- Activates a profile with the operation lock held. -/
def activateLocked (id : ProfileId) : Mutation ι Unit := do
  requireDisconnectedMutation
  let generation ← loadProfile id
  let prepared ← perform (prepareControllerOrDefer generation.snapshot)
  match ← perform (activateProfile id) with
  | .ok () => installPrepared id generation prepared .storage
  | .committed () =>
    match ← perform activeSnapshot with
    | .ok (some (active, generation)) =>
      if active = id then installPrepared id generation prepared .storage
      else
        perform reconcileAuthoritative
        throw .storage
    | _ =>
      perform reconcileAuthoritative
      throw .storage
  | .refused error => throw (mapProfileError error)

def activateSubscriptionTimed (i : ι) (id : ProfileId) : Mutation ι Unit := do
  requireDisconnectedMutation
  lockedMutation i (activateLocked id)

/-- Switches to a profile; in always-ready mode a connection moves with it. -/
def activateSubscription (i : ι) (id : ProfileId) : Mutation ι Unit := do
  requireProfile id
  perform (takeGenerationChange i)
  let resume ← perform (pauseForGenerationChange i fun r => r.activeProfile != some id)
  let result ← perform (activateSubscriptionTimed i id).run
  perform (resumeWhere i resume)
  perform (giveGenerationChange i)
  ExceptT.mk (pure result)

/-- Adds a subscription to the list while the connection stays up, and switches to it like to
any other. -/
def importWhileConnected (i : ι) (url : String) : Mutation ι Unit := do
  let link := Link.of url
  if link.text = "" then throw .storage
  else
    match ← perform (findExactSource link) with
    | .error error => throw (mapProfileError error)
    | .ok existing =>
      if ← perform (look fun s => existing.isSome && s.store.active == existing) then refreshSubscription i
      else
        let snapshot ← fetchSubscription link
        let id ← lockedMutation i (storeInactiveProfileLocked existing snapshot)
        match ← perform (activateSubscription i id).run with
        | .ok () | .error .connected => return ()
        | .error _ => throw .committed

def importSubscription (i : ι) (url : String) : Mutation ι Unit := do
  if ← perform (look fun s => !s.runtime.degraded && s.runtime.state == .connected) then
    importWhileConnected i url
  else lockedMutation i (importProfileLocked url)

/-- The list that answers a request. -/
def subscriptionList : Mutation ι Unit := do
  if ← perform listProfiles then return () else throw .storage

/-- Refreshes a profile with the operation lock held; what listing the profiles came to. -/
def refreshSubscriptionProfileLocked (id : ProfileId) (prefetched : Prefetched) :
    Mutation ι (Except ProfileMutationError Unit) := do
  requireRefreshDeleteMutation
  refreshProfileLocked id (some prefetched)
  perform subscriptionList.run

/-- The connection is moved after a refresh that worked. -/
def refreshSubscriptionProfile (i : ι) (id : ProfileId) : Mutation ι Unit := do
  requireProfile id
  requireRefreshDeleteMutation
  let prefetched ← prefetchProfile id
  let result ← lockedMutation i (refreshSubscriptionProfileLocked id prefetched)
  perform (moveToPending i)
  ExceptT.mk (pure result)

def replaceSubscriptionSource (i : ι) (id : ProfileId) (url : String) : Mutation ι Unit := do
  requireProfile id
  lockedMutation i do
    requireDisconnectedMutation
    replaceProfileSourceLocked id url none
    subscriptionList

/-- Stops the connection where the profile to delete is the active one. -/
def stopWhere (wasActive : Bool) : Mutation ι Bool :=
  if wasActive then stopConnectionForProfileMutation else return false

/-- Deletes a profile with the operation lock held. -/
def deleteLocked (id : ProfileId) : Mutation ι Unit := do
  requireRefreshDeleteMutation
  let wasActive ← perform (look fun s => s.store.active == some id)
  let stopped ← stopWhere wasActive
  match ← perform (deleteProfile id) with
  | .ok () | .committed () => if wasActive then perform reconcileAuthoritative else pure ()
  | .refused error =>
    perform (reach .deleteRefused)
    throw (if stopped then .committed else mapProfileError error)

def deleteSubscription (i : ι) (id : ProfileId) : Mutation ι Unit := do
  requireProfile id
  requireRefreshDeleteMutation
  lockedMutation i (deleteLocked id)

end Requests

section Selecting

variable {ι : Type}

inductive SelectionError where
  | notConnected
  | staleRevision
  | unknownGroup
  | unknownNode
  | selectorFailed
  | storageFailed
  deriving DecidableEq, Repr

/-- A group and a node by their positions in the catalog of a revision. -/
structure SelectionRequest where
  revision : Nat
  group : Nat
  node : Nat
  deriving DecidableEq, Repr

/-- What a selection is about. -/
structure Selection where
  profile : ProfileId
  snapshot : Snapshot
  rawGroup : String
  rawNode : String
  previousRawNode : Option String
  pending : Option Generation
  deriving DecidableEq

/-- The selection a request asks for. -/
def CoreRuntime.selection (r : CoreRuntime) (request : SelectionRequest) :
    Except SelectionError Selection :=
  if (r.state ≠ .ready ∧ r.state ≠ .connected) ∨ r.degraded then .error .notConnected
  else if request.revision ≠ r.revision then .error .staleRevision
  else
    match r.snapshot, r.activeProfile with
    | some snapshot, some profile =>
      match snapshot.groups[request.group]? with
      | none => .error .unknownGroup
      | some group =>
        if group.hidden then .error .unknownGroup
        else if group.offers request.node then
          .ok ⟨profile, snapshot, group.name, group.nodes.getD request.node "",
            r.selectedNodes.getD request.group none, r.pendingSnapshot⟩
        else .error .unknownNode
    | _, _ => .error .unknownGroup

/-- The only position of an element with a property. -/
def uniqueIndex {α : Type} (p : α → Bool) (l : List α) : Option Nat :=
  match (List.range l.length).filter fun k => l[k]?.any p with
  | [k] => some k
  | _ => none

/-- The positions of a group and a node of that name, where the names are unique. -/
def Snapshot.selectionIdsForNames (snapshot : Snapshot) (groupName nodeName : String) :
    Option (Nat × Nat) :=
  (uniqueIndex (fun group : Group => group.name = groupName) snapshot.groups).bind fun group =>
    snapshot.groups[group]?.bind fun found =>
      (uniqueIndex (· = nodeName) found.nodes).bind fun node =>
        if found.offers node then some (group, node) else none

/-- Under which revision and positions a selection is saved; nowhere if the pending generation
does not have it. -/
def Selection.saveTarget (selection : Selection) (request : SelectionRequest) :
    Option (Nat × Nat × Nat) :=
  match selection.pending with
  | some pending =>
    (pending.snapshot.selectionIdsForNames selection.rawGroup selection.rawNode).map
      fun (group, node) => (pending.revision, group, node)
  | none => some (request.revision, request.group, request.node)

def saveSelectionAt (profile : ProfileId) : Option (Nat × Nat × Nat) → Op ι (Stored Unit)
  | some (revision, group, node) => saveSelection profile revision group node
  | none => return .ok ()

/-- Mihomo is told where its selector can be reached. -/
def selectWhere (live : Bool) (group node : String) : Op ι Bool :=
  if live then selector group node else return true

/-- A selection that was applied but not saved is taken back. -/
def compensate (selection : Selection) (live : Bool) : Op ι Unit := do
  match selection.previousRawNode with
  | some previous =>
    if live then
      if ← selector selection.rawGroup previous then return ()
      else updateAt .compensationFailed fun s => { s with runtime := s.runtime.markError }
    else return ()
  | none => return ()

/-- The runtime with a node selected in a group. -/
def CoreRuntime.select (r : CoreRuntime) (group : Nat) (node : String) : CoreRuntime :=
  { r with
    selectedNodes := r.selectedNodes.set group (some node)
    explicitSelectedNodes := r.explicitSelectedNodes.set group (some node) }

/-- Records a saved selection; with maintenance debt it is read back from the store. -/
def recordSelection (selection : Selection) (request : SelectionRequest) (maintenanceDebt : Bool) :
    Op ι (Except SelectionError Unit) := do
  let saved ← restoredSelections selection.profile request.revision selection.snapshot
  let revision ← look fun s => s.runtime.revision
  if revision ≠ request.revision then return .error .staleRevision
  else
    change fun r =>
      if maintenanceDebt && selection.pending.isNone then
        { r with
          selectedNodes := CoreRuntime.selections selection.snapshot saved
          explicitSelectedNodes := saved }
      else r.select request.group selection.rawNode
    return .ok ()

/-- Applies, saves and records a selection. -/
def applySelection (selection : Selection) (request : SelectionRequest) (live : Bool) :
    Op ι (Except SelectionError Unit) := do
  if ← selectWhere live selection.rawGroup selection.rawNode then
    match ← saveSelectionAt selection.profile (selection.saveTarget request) with
    | .ok () => recordSelection selection request false
    | .committed () => recordSelection selection request true
    | .refused _ =>
      compensate selection live
      return .error .storageFailed
  else return .error .selectorFailed

def select [DecidableEq ι] (i : ι) (request : SelectionRequest) :
    Op ι (Except SelectionError Unit) :=
  locked i do
    let ready ← coresReady
    let (selection, live) ← look fun s =>
      (s.runtime.selection request, s.runtime.state == .connected || s.coresLive ready)
    match selection with
    | .ok selection => applySelection selection request live
    | .error error => return .error error

end Selecting

end MultiCore.Backend
