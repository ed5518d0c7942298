import Mathlib.Logic.Function.Basic
import MultiCore.Daemon.Routes
import MultiCore.Daemon.State

/-!
# Selecting a route

What the daemon does with a selection: it asks Mihomo for it, saves it, and shows
it. A selection that cannot be saved is asked back. While connected a refresh
leaves the generation that runs as it is, and the one it stores stays pending:
selections are then saved for that one.

These operations hold a lock, so each of them is one step. Mihomo is the map from
its groups to the nodes selected in them. The files are those of the active
profile, and what is only displayed is left out.
-/

namespace MultiCore.Routes

open Daemon Profiles

/-- One node of the catalog that clients see. -/
structure NodeDto where
  id : String
  selected : Bool
  deriving DecidableEq, Repr

/-- One group of it. -/
structure GroupDto where
  id : String
  selected : Bool
  nodes : List NodeDto
  deriving DecidableEq, Repr

/-- The catalog under its revision. -/
structure CatalogDto where
  revision : UInt64
  groups : List GroupDto
  deriving DecidableEq, Repr

/-- The node selected in a group. -/
def selectedAt (selections : List (Option String)) (groupIndex : Nat) : Option String :=
  (selections[groupIndex]?).join

/-- The catalog leaves out what cannot be selected; its identifiers keep the positions. -/
def buildCatalog (snapshot : Snapshot) (revision : UInt64) (profile : Option String)
    (selectedNodes : List (Option String)) : CatalogDto :=
  let groups := selectableGroups snapshot
  let selectedGroup := profile.bind fun profile => groups.findIdx? fun group => group.name = profile
  ⟨revision, (groups.zipIdx.filter fun entry => !entry.1.hidden).map fun (group, groupIndex) =>
    let selectedNode := (selectedAt selectedNodes groupIndex).bind fun current =>
      group.nodes.findIdx? fun node => node = current
    ⟨catalogGroupId revision groupIndex, selectedGroup = some groupIndex,
      group.offeredNodes.map fun (_, nodeIndex) =>
        ⟨catalogNodeId revision groupIndex nodeIndex, selectedNode = some nodeIndex⟩⟩⟩

/-- The part of the runtime that selections read and write. -/
structure Runtime where
  state : ConnectionState
  degraded : Bool
  /-- There is a controller of the cores. -/
  controller : Bool
  snapshot : Option Snapshot
  pendingSnapshot : Option (UInt64 × Snapshot)
  catalog : CatalogDto
  profile : Option String
  currentNode : Option String
  selectedNodes : List (Option String)
  explicitSelectedNodes : List (Option String)
  warmRevision : Option UInt64

namespace Runtime

/-- `rebuild_catalog`: the catalog of the snapshot in use, with its selected nodes. -/
def rebuildCatalog (runtime : Runtime) : Runtime :=
  { runtime with
    catalog := match runtime.snapshot with
      | none => runtime.catalog
      | some snapshot => buildCatalog snapshot runtime.catalog.revision runtime.profile
        runtime.selectedNodes }

/-- Mihomo runs with the catalog that is shown; while not connected it does when the service
keeps it ready. -/
def coresLive (runtime : Runtime) (coresReady : Bool) : Bool :=
  !runtime.degraded && match runtime.state with
    | .connected => true
    | .ready => runtime.warmRevision = some runtime.catalog.revision && coresReady
    | _ => false

/-- Every error that is marked here is degraded. -/
def markError (runtime : Runtime) : Runtime :=
  { runtime with
    state := match runtime.state with
      | .ready => (runtime.state.moved .empty).moved .error
      | .error => .error
      | _ => runtime.state.moved .error
    degraded := true }

/-- `clear_for_active`: an empty runtime. -/
def clearForActive (_ : Runtime) : Runtime where
  state := .empty
  degraded := false
  controller := false
  snapshot := none
  pendingSnapshot := none
  catalog := ⟨0, []⟩
  profile := none
  currentNode := none
  selectedNodes := []
  explicitSelectedNodes := []
  warmRevision := none

/-- Installs a snapshot; there is no controller for it yet. -/
def applySnapshot (runtime : Runtime) (snapshot : Snapshot) (revision : UInt64)
    (selections : List (Option String) × List (Option String)) : Runtime :=
  let groups := selectableGroups snapshot
  let primary := primaryGroupIndex groups
  rebuildCatalog
    { runtime with
      state := if runtime.state = .empty ∨ runtime.state = .error then runtime.state.moved .ready
        else runtime.state
      degraded := false
      controller := false
      snapshot := some snapshot
      pendingSnapshot := none
      catalog := ⟨revision, runtime.catalog.groups⟩
      profile := primary.bind fun index => (groups[index]?).map SelectableGroup.name
      currentNode := primary.bind (selectedAt selections.1)
      selectedNodes := selections.1
      explicitSelectedNodes := selections.2 }

end Runtime

/-- What became of a selection that Mihomo was asked for; one that failed may have been made. -/
inductive Answer where
  | ok
  | failed (applied : Bool)
  deriving DecidableEq, Repr

namespace Answer

/-- Whether the controller refused. -/
def isError : Answer → Bool
  | ok => false
  | failed _ => true

/-- The nodes selected in Mihomo after an answer. -/
def after (answer : Answer) (group node : String) (mihomo : String → String) : String → String :=
  match answer with
  | failed false => mihomo
  | _ => Function.update mihomo group node

end Answer

/-- The runtime of the daemon, the selections file, the generation that is stored, and Mihomo. -/
structure System where
  runtime : Runtime
  file : Option (List UInt8)
  stored : UInt64 × Snapshot
  mihomo : String → String

/-- Why a selection is refused. -/
inductive RouteError where
  | notConnected
  | staleRevision
  | unknownGroup
  | unknownNode
  | selectorFailed
  | storageFailed
  deriving DecidableEq, Repr

/-- The route a client asks for, by the identifiers it was shown. -/
structure SelectionRequest where
  revision : UInt64
  groupId : String
  nodeId : String

/-- What a selection meets: whether the service has Mihomo ready, its answers to the request and
to the one that takes it back, and the faults of the file system. -/
structure SelectAnswers where
  coresReady : Bool
  selector : Answer
  compensation : Answer
  save : SaveFault
  readFails : Bool

/-- What a request names. -/
structure Target where
  snapshot : Snapshot
  groupIndex : Nat
  group : String
  node : String

/-- The group and the node that a request names, where it may be served. -/
def Runtime.target (runtime : Runtime) (request : SelectionRequest) : Except RouteError Target :=
  if (runtime.state ≠ .ready ∧ runtime.state ≠ .connected) ∨ runtime.degraded = true then
    .error .notConnected
  else if request.revision ≠ runtime.catalog.revision then .error .staleRevision
  else
    match runtime.snapshot with
    | none => .error .unknownGroup
    | some snapshot =>
      match (selectableGroups snapshot).zipIdx.find? fun entry =>
          catalogGroupId request.revision entry.2 = request.groupId with
      | none => .error .unknownGroup
      | some (group, groupIndex) =>
        if group.hidden then .error .unknownGroup
        else
          match group.offeredNodes.find? fun entry =>
              catalogNodeId request.revision groupIndex entry.2 = request.nodeId with
          | none => .error .unknownNode
          | some (node, _) => .ok ⟨snapshot, groupIndex, group.name, node⟩

/-- The selector can be reached. -/
def Runtime.live (runtime : Runtime) (coresReady : Bool) : Bool :=
  runtime.state = .connected || runtime.coresLive coresReady

/-- What is saved for a selection: under the pending revision by the names, if it has them. -/
def Runtime.saveTarget (runtime : Runtime) (request : SelectionRequest) (target : Target)
    (fault : SaveFault) : Option SaveCall :=
  match runtime.pendingSnapshot with
  | some (revision, pending) =>
    (selectionIdsForNames revision pending target.group target.node).map fun ids =>
      ⟨revision, ids.1, ids.2, fault⟩
  | none => some ⟨request.revision, request.groupId, request.nodeId, fault⟩

variable (json : SelectionsJson)

/-- The save of a route, where there is one to make. -/
def saveRoute (file : Option (List UInt8)) :
    Option SaveCall → Except SelectionError Unit × Option (List UInt8)
  | none => (.ok (), file)
  | some call => saveSelection json file call

/-- Shows a selection that is saved. After a save with a maintenance debt the selections are read
again. -/
def Runtime.record (runtime : Runtime) (file : Option (List UInt8)) (request : SelectionRequest)
    (target : Target) (maintenanceDebt readFails : Bool) : Runtime :=
  let primary := primaryGroupIndex (selectableGroups target.snapshot)
  Runtime.rebuildCatalog
    (if maintenanceDebt && runtime.pendingSnapshot.isNone then
      let selections :=
        initialAndExplicitSelections json file readFails request.revision target.snapshot
      { runtime with
        selectedNodes := selections.1
        explicitSelectedNodes := selections.2
        currentNode := primary.bind (selectedAt selections.1) }
    else
      { runtime with
        selectedNodes := runtime.selectedNodes.set target.groupIndex (some target.node)
        explicitSelectedNodes :=
          runtime.explicitSelectedNodes.set target.groupIndex (some target.node)
        currentNode :=
          if primary = some target.groupIndex then some target.node else runtime.currentNode })

/-- The request to the controller, sent while the cores are up. -/
def System.ask (system : System) (live : Bool) (target : Target) (answer : Answer) : System :=
  if live then
    { system with mihomo := answer.after target.group target.node system.mihomo }
  else system

/-- Asks Mihomo for the node that was selected before. -/
def System.compensate (system : System) (live : Bool) (target : Target) (answer : Answer) :
    System :=
  match live, selectedAt system.runtime.selectedNodes target.groupIndex with
  | true, some previous =>
    { system with
      mihomo := answer.after target.group previous system.mihomo
      runtime := if answer.isError then system.runtime.markError else system.runtime }
  | _, _ => system

/-- A selection: its result, and what remains of it. -/
def select (system : System) (request : SelectionRequest) (answers : SelectAnswers) :
    Except RouteError CatalogDto × System :=
  match system.runtime.target request with
  | .error error => (.error error, system)
  | .ok target =>
    let live := system.runtime.live answers.coresReady
    let asked := system.ask live target answers.selector
    if live && answers.selector.isError then (.error .selectorFailed, asked)
    else
      let saved := saveRoute json system.file
        (system.runtime.saveTarget request target answers.save)
      let saving := { asked with file := saved.2 }
      if landed saved.1 then
        let recorded := system.runtime.record json saved.2 request target
          (!saved.1.isOk) answers.readFails
        (.ok recorded.catalog, { saving with runtime := recorded })
      else (.error .storageFailed, saving.compensate live target answers.compensation)

/-- How far a connection gets before the selections are replayed. -/
inductive Start where
  | notPrepared
  | startFailed (rollbackFailed : Bool)
  | stopFailed
  | started
  deriving DecidableEq, Repr

/-- What a connection meets: the nodes that are selected in Mihomo when it runs, and its answers
to the replay by the names of the groups. -/
structure ConnectAnswers where
  start : Start
  mihomo : String → String
  selector : String → Answer
  rollbackFails : Bool

/-- Asks Mihomo for selections until one fails; whether none did, and what is selected then. -/
def replay (selector : String → Answer) (mihomo : String → String) :
    List (String × String) → Bool × (String → String)
  | [] => (true, mihomo)
  | (group, node) :: queued =>
    let selected := (selector group).after group node mihomo
    if (selector group).isError then (false, selected) else replay selector selected queued

/-- A Connect: every saved route is asked for again. -/
def connect (system : System) (answers : ConnectAnswers) : System :=
  if system.runtime.degraded = true ∨ system.runtime.state ≠ .ready then system
  else
    match system.runtime.snapshot with
    | none => system
    | some snapshot =>
      let queued := named snapshot system.runtime.explicitSelectedNodes
      let connecting := { system.runtime with state := .connecting, controller := true }
      let ready := { connecting with state := .ready, degraded := false }
      match answers.start with
      | .notPrepared => system
      | .startFailed rollbackFailed =>
        { system with
          runtime := if rollbackFailed then connecting.markError else ready
          mihomo := answers.mihomo }
      | .stopFailed => { system with runtime := connecting.markError, mihomo := answers.mihomo }
      | .started =>
        let replayed := replay answers.selector answers.mihomo queued
        { system with
          runtime :=
            if replayed.1 then { connecting with state := .connected, degraded := false }
            else if answers.rollbackFails then connecting.markError else ready
          mihomo := replayed.2 }

/-- What may fail while a Disconnect runs. -/
structure DisconnectAnswers where
  stopFails : Bool
  loadFails : Bool
  readFails : Bool

/-- A Disconnect in which nothing fails. -/
def DisconnectAnswers.clean : DisconnectAnswers := ⟨false, false, false⟩

/-- Installs what is stored. -/
def reconcileAuthoritative (system : System) (loadFails readFails : Bool) : System :=
  let warm := system.runtime.warmRevision
  let cleared := system.runtime.clearForActive
  if loadFails then { system with runtime := cleared }
  else
    let selections :=
      initialAndExplicitSelections json system.file readFails system.stored.1 system.stored.2
    let applied := cleared.applySnapshot system.stored.2 system.stored.1 selections
    { system with
      runtime := if warm = some applied.catalog.revision then { applied with warmRevision := warm }
        else applied }

/-- A Disconnect: the cores stop, and the profile is loaded anew. -/
def disconnect (system : System) (answers : DisconnectAnswers) : System :=
  if system.runtime.state = .empty ∨ system.runtime.state = .ready then system
  else if system.runtime.controller = false then system
  else if answers.stopFails then { system with runtime := system.runtime.markError }
  else
    reconcileAuthoritative json
      { system with
        runtime :=
          { system.runtime with state := system.runtime.state.moved .ready, degraded := false } }
      answers.loadFails answers.readFails

/-- What a refresh meets once the new generation is stored. -/
structure RefreshAnswers where
  reloadFails : Bool
  carry : CarryFaults

/-- A refresh in which nothing fails. -/
def RefreshAnswers.clean : RefreshAnswers := ⟨false, CarryFaults.none⟩

/-- A refresh while connected, which stores a generation. -/
def refresh (system : System) (revision : UInt64) (next : Snapshot) (answers : RefreshAnswers) :
    System :=
  let stored := { system with stored := (revision, next) }
  if answers.reloadFails then stored
  else
    match carryForwardSelections json system.file system.stored.1 system.stored.2 revision next
        answers.carry with
    | (.error _, file) => { stored with file := file }
    | (.ok (), file) =>
      { stored with
        file := file
        runtime := { system.runtime with pendingSnapshot := some (revision, next) } }

section Outcomes

variable {json} {system : System} {request : SelectionRequest} {answers : SelectAnswers}

/-- What a selection can come to. -/
inductive SelectOutcome (json : SelectionsJson) (system : System) (request : SelectionRequest)
    (answers : SelectAnswers) : Except RouteError CatalogDto × System → Prop
  | refused (error : RouteError) (wrong : system.runtime.target request = .error error) :
      SelectOutcome json system request answers (.error error, system)
  | selectorFailed (target : Target) (named : system.runtime.target request = .ok target)
      (live : system.runtime.live answers.coresReady = true)
      (failed : answers.selector.isError = true) :
      SelectOutcome json system request answers
        (.error .selectorFailed, system.ask true target answers.selector)
  | saved (target : Target) (named : system.runtime.target request = .ok target)
      (answered : system.runtime.live answers.coresReady = true → answers.selector = .ok)
      (result : Except SelectionError Unit) (file : Option (List UInt8))
      (save : saveRoute json system.file (system.runtime.saveTarget request target answers.save) =
        (result, file)) (hlanded : landed result = true)
      (recorded : Runtime) (record : recorded = system.runtime.record json file request target
        (!result.isOk) answers.readFails) :
      SelectOutcome json system request answers
        (.ok recorded.catalog,
          { system.ask (system.runtime.live answers.coresReady) target answers.selector with
            file := file, runtime := recorded })
  | notSaved (target : Target) (named : system.runtime.target request = .ok target)
      (answered : system.runtime.live answers.coresReady = true → answers.selector = .ok)
      (result : Except SelectionError Unit) (file : Option (List UInt8))
      (save : saveRoute json system.file (system.runtime.saveTarget request target answers.save) =
        (result, file)) (hlanded : landed result = false) :
      SelectOutcome json system request answers
        (.error .storageFailed,
          System.compensate { system.ask (system.runtime.live answers.coresReady) target
            answers.selector with file := file }
            (system.runtime.live answers.coresReady) target answers.compensation)

theorem select_outcome (json : SelectionsJson) (system : System) (request : SelectionRequest)
    (answers : SelectAnswers) :
    SelectOutcome json system request answers (select json system request answers) := by
  unfold select
  cases htarget : system.runtime.target request with
  | error error => exact SelectOutcome.refused error htarget
  | ok target =>
    dsimp only
    by_cases hfailed : (system.runtime.live answers.coresReady &&
        answers.selector.isError) = true
    · rw [if_pos hfailed]
      rw [Bool.and_eq_true] at hfailed
      rw [hfailed.1]
      exact SelectOutcome.selectorFailed target htarget hfailed.1 hfailed.2
    · rw [if_neg hfailed]
      have hanswered : system.runtime.live answers.coresReady = true →
          answers.selector = .ok := by
        intro hlive
        rw [hlive, Bool.true_and] at hfailed
        cases hselector : answers.selector with
        | ok => rfl
        | failed applied =>
          rw [hselector] at hfailed
          exact absurd rfl hfailed
      cases hlanded : landed (saveRoute json system.file
          (system.runtime.saveTarget request target answers.save)).1 with
      | true =>
        rw [if_pos rfl]
        exact SelectOutcome.saved target htarget hanswered _ _ rfl hlanded _ rfl
      | false =>
        rw [if_neg Bool.false_ne_true]
        exact SelectOutcome.notSaved target htarget hanswered _ _ rfl hlanded

end Outcomes

section Fields

variable (runtime : Runtime)

theorem rebuildCatalog_revision :
    runtime.rebuildCatalog.catalog.revision = runtime.catalog.revision := by
  rw [Runtime.rebuildCatalog]
  cases runtime.snapshot <;> rfl

theorem markError_state : runtime.markError.state = .error := by
  rw [Runtime.markError]
  cases runtime.state <;> rfl

theorem markError_ne_connected : runtime.markError.state ≠ .connected := by
  rw [markError_state]
  exact ConnectionState.noConfusion

end Fields

section Frames

variable {json} {runtime : Runtime} {file : Option (List UInt8)} {request : SelectionRequest}
  {target : Target} {maintenanceDebt readFails : Bool} {system : System} {live : Bool}
  {answer : Answer}

/-- Showing a selection changes nothing else. -/
theorem record_frame (json : SelectionsJson) (runtime : Runtime) (file : Option (List UInt8))
    (request : SelectionRequest) (target : Target) (maintenanceDebt readFails : Bool) :
    let recorded := runtime.record json file request target maintenanceDebt readFails
    recorded.state = runtime.state ∧ recorded.degraded = runtime.degraded ∧
      recorded.controller = runtime.controller ∧ recorded.snapshot = runtime.snapshot ∧
      recorded.pendingSnapshot = runtime.pendingSnapshot ∧
      recorded.catalog.revision = runtime.catalog.revision := by
  dsimp only
  rw [Runtime.record]
  dsimp only
  rw [rebuildCatalog_revision]
  by_cases hdebt : (maintenanceDebt && runtime.pendingSnapshot.isNone) = true
  · rw [if_pos hdebt]
    exact ⟨rfl, rfl, rfl, rfl, rfl, rfl⟩
  · rw [if_neg hdebt]
    exact ⟨rfl, rfl, rfl, rfl, rfl, rfl⟩

/-- A selection is asked back, or that fails and is an error; the store is left alone. -/
theorem compensate_cases (system : System) (live : Bool) (target : Target) (answer : Answer) :
    (∃ mihomo, system.compensate live target answer = { system with mihomo := mihomo }) ∨
      ∃ mihomo, system.compensate live target answer =
        { system with mihomo := mihomo, runtime := system.runtime.markError } := by
  unfold System.compensate
  split
  · by_cases hfailed : answer.isError = true
    · rw [if_pos hfailed]
      exact Or.inr ⟨_, rfl⟩
    · rw [if_neg hfailed]
      exact Or.inl ⟨_, rfl⟩
  · exact Or.inl ⟨system.mihomo, rfl⟩

theorem ask_frame (system : System) (live : Bool) (target : Target) (answer : Answer) :
    ∃ mihomo, system.ask live target answer = { system with mihomo := mihomo } := by
  rw [System.ask]
  by_cases hlive : live = true
  · rw [if_pos hlive]
    exact ⟨_, rfl⟩
  · rw [if_neg hlive]
    exact ⟨system.mihomo, rfl⟩

/-- A selection stores no generation. -/
theorem select_stored {answers : SelectAnswers} :
    (select json system request answers).2.stored = system.stored := by
  have houtcome := select_outcome json system request answers
  generalize select json system request answers = result at houtcome ⊢
  cases houtcome with
  | refused error wrong => rfl
  | selectorFailed target named live failed => rfl
  | saved target named answered result file save hlanded recorded record =>
    obtain ⟨mihomo, hask⟩ := ask_frame system
      (system.runtime.live answers.coresReady) target answers.selector
    rw [hask]
  | notSaved target named answered result file save hlanded =>
    obtain ⟨mihomo, hask⟩ := ask_frame system
      (system.runtime.live answers.coresReady) target answers.selector
    rw [hask]
    rcases compensate_cases { system with mihomo := mihomo, file := file }
      (system.runtime.live answers.coresReady) target answers.compensation with
      ⟨after, hafter⟩ | ⟨after, hafter⟩
    · rw [hafter]
    · rw [hafter]

end Frames

section Targets

variable {runtime : Runtime} {request : SelectionRequest} {target : Target}

/-- What a request that is accepted names: an offered node of a group that is shown. -/
theorem target_eq_ok (h : runtime.target request = .ok target) :
    (runtime.state = .ready ∨ runtime.state = .connected) ∧ runtime.degraded = false ∧
      request.revision = runtime.catalog.revision ∧ runtime.snapshot = some target.snapshot ∧
      ∃ group nodeIndex,
        (selectableGroups target.snapshot)[target.groupIndex]? = some group ∧
          group.name = target.group ∧ group.nodes[nodeIndex]? = some target.node ∧
          group.offers nodeIndex = true ∧
          request.groupId = catalogGroupId request.revision target.groupIndex ∧
          request.nodeId = catalogNodeId request.revision target.groupIndex nodeIndex := by
  unfold Runtime.target at h
  split_ifs at h with hstate hrevision
  rw [not_or, not_and_or, not_not, not_not, Bool.not_eq_true] at hstate
  rw [ne_eq, not_not] at hrevision
  cases hsnapshot : runtime.snapshot with
  | none =>
    rw [hsnapshot] at h
    exact absurd h (by simp)
  | some snapshot =>
    rw [hsnapshot] at h
    dsimp only at h
    split at h
    · exact absurd h (by simp)
    · rename_i group groupIndex hfindGroup
      split_ifs at h with hhidden
      split at h
      · exact absurd h (by simp)
      · rename_i node nodeIndex hfindNode
        rw [Except.ok.injEq] at h
        rw [← h]
        have hgroup := List.mk_mem_zipIdx_iff_getElem?.1 (List.mem_of_find?_eq_some hfindGroup)
        have hgroupId := List.find?_some hfindGroup
        have hnodeId := List.find?_some hfindNode
        rw [decide_eq_true_eq] at hgroupId hnodeId
        obtain ⟨hnode, hoffers⟩ := mem_offeredNodes.1 (List.mem_of_find?_eq_some hfindNode)
        exact ⟨hstate.1, hstate.2, hrevision, rfl, group, nodeIndex, hgroup, rfl, hnode, hoffers,
          hgroupId.symm, hnodeId.symm⟩

end Targets

end MultiCore.Routes
