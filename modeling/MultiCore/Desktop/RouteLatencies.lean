import MultiCore.Desktop.RouteChoices

/-!
# Latency measurements

A sweep measures whole groups, and any number of routes may be measured on their own
beside it. The answer of a sweep leaves out the routes that were measured, or are
measured, on their own since.
-/

namespace MultiCore.Desktop

open FirstMatch

/-- Measures particular routes ahead of any sweep. -/
structure NodeLatencyRequest where
  token : Nat
  catalogRevision : Nat
  nodeIds : List String
  deriving DecidableEq, Repr

/-- A sweep of groups, with the routes that are measured ahead of it. -/
structure LatencyRequest where
  token : Nat
  catalogRevision : Option Nat
  groupIds : List String
  priority : Option NodeLatencyRequest
  deriving DecidableEq, Repr

/-- What the shell has to do when a measurement is finished. -/
structure LatencyOutcome where
  refreshCatalog : Bool
  rerun : Bool
  deriving DecidableEq, Repr

/-- A row with the value of a measurement. -/
def CatalogNode.withLatency (entry : DaemonLatencyEntry) (node : CatalogNode) : CatalogNode :=
  { node with
    delayMs := if entry.status = "ok" then entry.latencyMs else none
    latencyText := (latencyDisplay entry.status entry.latencyMs).1
    latencyTone := (latencyDisplay entry.status entry.latencyMs).2 }

namespace DesktopViewModel

variable (model : DesktopViewModel)

/-- There are cores that can measure. -/
def coresLive : Bool := model.state.isConnected || model.state.isReady && model.coresReady

/-- The groups that may be shown. -/
def visibleCatalogGroups : List CatalogGroup :=
  if model.dumbMode then model.catalogGroups.take 1 else model.catalogGroups

/-! ## Routes on their own -/

/-- Of the routes, those that are shown and not yet measured on their own. -/
def wantedNodes (nodeIds : List String) : List String :=
  nodeIds.foldl (fun wanted nodeId =>
    if (model.nodeLatencyPending nodeId).isNone && nodeId ∉ wanted &&
        model.visibleCatalogGroups.any fun group =>
          group.nodes.any fun node => node.id = nodeId then
      wanted ++ [nodeId]
    else wanted) []

/-- Begins to measure some routes; their rows wait for this request. -/
def beginNodesLatencyRequest (nodeIds : List String) :
    Option NodeLatencyRequest × DesktopViewModel :=
  match model.catalogRevision with
  | none => (none, model)
  | some catalogRevision =>
    if !model.coresLive || model.profileMutationPending || model.profileReconciliationRequired then
      (none, model)
    else
      let wanted := model.wantedNodes nodeIds
      if wanted.isEmpty then (none, model)
      else
        let token := model.nextNodeLatencyGeneration + 1
        (some ⟨token, catalogRevision, wanted⟩,
          { model with
            nextNodeLatencyGeneration := token
            nodeLatencyPending := fun nodeId =>
              if nodeId ∈ wanted then some token else model.nodeLatencyPending nodeId })

/-- Begins to measure one route. -/
def beginNodeLatencyRequest (nodeId : String) : Option NodeLatencyRequest × DesktopViewModel :=
  model.beginNodesLatencyRequest [nodeId]

/-- Shows a value on every copy of a route. -/
def showNodeLatency (entry : DaemonLatencyEntry) : DesktopViewModel :=
  { model with
    latencySweepFresh :=
      if model.latencyRequestPending.isSome then entry.nodeId :: model.latencySweepFresh
      else model.latencySweepFresh
    catalogGroups := model.catalogGroups.map fun group =>
      { group with nodes := group.nodes.map fun node =>
        if node.id = entry.nodeId then node.withLatency entry else node } }

/-- The rows that a request still owns; a newer request for a row takes it over. -/
def ownedNodes (token : Nat) (nodeIds : List String) : List String :=
  nodeIds.filter fun nodeId => model.nodeLatencyPending nodeId = some token

/-- A measurement of single routes ends: it settles the rows that still wait for it. -/
def finishNodeLatency (requestRevision : Nat) (nodeIds : List String) (token : Nat)
    (result : Except DaemonError (List DaemonLatencyEntry)) :
    Option LatencyOutcome × DesktopViewModel :=
  let owned := model.ownedNodes token nodeIds
  if owned.isEmpty then (none, model)
  else
    let model := { model with
      nodeLatencyPending := fun nodeId =>
        if nodeId ∈ owned then none else model.nodeLatencyPending nodeId }
    if model.catalogRevision ≠ some requestRevision then (some ⟨false, false⟩, model)
    else
      match result with
      | .ok entries =>
        (some ⟨false, false⟩,
          (entries.filter fun entry => entry.nodeId ∈ owned).foldl showNodeLatency model)
      | .error error =>
        if error.isStaleRevision then
          (some ⟨true, false⟩, { model with catalogRevision := none, latencyQueued := true })
        else (some ⟨false, false⟩, model)

/-! ## Sweeps -/

/-- The routes that the groups use: a sweep measures them first. -/
def selectedNodeIds (groupIds : List String) : List String :=
  (model.catalogGroups.filter fun group => group.id ∈ groupIds).flatMap fun group =>
    (group.nodes.filter CatalogNode.selected).map CatalogNode.id

/-- The groups of a sweep: all that are shown, or the viewed one. -/
def sweptGroupIds (allGroups : Bool) (viewed : String) : List String :=
  if allGroups then model.visibleCatalogGroups.map CatalogGroup.id else [viewed]

/-- Begins a sweep of all groups, or of the viewed one. -/
def beginLatencyRequestFor (allGroups : Bool) : Option LatencyRequest × DesktopViewModel :=
  if model.latencyRequestPending.isSome || model.profileMutationPending ||
      model.profileReconciliationRequired || !model.coresLive || model.catalogRevision.isNone then
    (none, { model with latencyQueued := true })
  else
    match model.selectedCatalogGroup with
    | none => (none, { model with latencyQueued := true })
    | some viewed =>
      let groupIds := model.sweptGroupIds allGroups viewed
      let token := model.nextLatencyGeneration + 1
      let begun := { model with
        nextLatencyGeneration := token
        latencyRequestPending := some token
        latencyRequestRevision := model.catalogRevision
        latencyRequestGroupIds := groupIds
        latencySweepFresh := []
        latencyQueued := false }.beginNodesLatencyRequest (model.selectedNodeIds groupIds)
      (some ⟨token, model.catalogRevision, groupIds, begun.1⟩,
        { begun.2 with latencySweepPriority := begun.1.map NodeLatencyRequest.token })

/-- Begins a sweep of the viewed group. -/
def beginLatencyRequest : Option LatencyRequest × DesktopViewModel :=
  model.beginLatencyRequestFor false

/-- A check asked for by the user; while a sweep runs it is not queued. -/
def beginForcedLatencyRequest : Option LatencyRequest × DesktopViewModel :=
  if model.latencyRequestPending.isSome then (none, model) else model.beginLatencyRequestFor true

/-- Shows a value on the row of a group. -/
def showSweptLatency (entry : DaemonLatencyEntry) : DesktopViewModel :=
  { model with
    catalogGroups := updateFirst (fun group => group.id = entry.groupId)
      (fun group => { group with
        nodes := updateFirst (fun node => node.id = entry.nodeId) (CatalogNode.withLatency entry)
          group.nodes })
      model.catalogGroups }

/-- One entry of a sweep's answer. It settles the sweep's own priority route, and passes over a
route that has a newer value or waits for one. -/
def settleEntry (targeted fresh : List String) (priority : Option Nat) (model : DesktopViewModel)
    (entry : DaemonLatencyEntry) : DesktopViewModel :=
  if entry.groupId ∉ targeted ∨ entry.nodeId ∈ fresh then model
  else
    match model.nodeLatencyPending entry.nodeId with
    | none => model.showSweptLatency entry
    | some token =>
      if priority = some token then
        { model with
          nodeLatencyPending := fun nodeId =>
            if nodeId = entry.nodeId then none else model.nodeLatencyPending nodeId
          }.showSweptLatency entry
      else model

/-- A sweep ends: its values are shown, unless the catalog has changed meanwhile. -/
def finishLatencies (token : Nat) (result : Except DaemonError (List DaemonLatencyEntry)) :
    Option LatencyOutcome × DesktopViewModel :=
  if model.latencyRequestPending ≠ some token then (none, model)
  else
    let targeted := model.latencyRequestGroupIds
    let fresh := model.latencySweepFresh
    let priority := model.latencySweepPriority
    let revision := model.latencyRequestRevision
    let model := { model with
      latencyRequestPending := none
      latencyRequestGroupIds := []
      latencySweepFresh := []
      latencySweepPriority := none
      latencyRequestRevision := none }
    if revision ≠ model.catalogRevision then
      (some ⟨false, true⟩,
        { model with
          nodeLatencyPending := fun nodeId =>
            (model.nodeLatencyPending nodeId).filter fun token => some token ≠ priority
          latencyQueued := true })
    else
      match result with
      | .ok entries =>
        (some ⟨false, model.latencyQueued⟩,
          entries.foldl (settleEntry targeted fresh priority) model)
      | .error error =>
        if error.isStaleRevision then
          (some ⟨true, false⟩, { model with catalogRevision := none, latencyQueued := true })
        else (some ⟨false, model.latencyQueued⟩, model)

/-- A status read while the cores are waited for; a check that waits for them may start when they
have become ready. -/
def noteCoresReadyStatus (result : Except DaemonError DaemonStatus) : Bool × DesktopViewModel :=
  match result with
  | .error _ => (false, model)
  | .ok status =>
    (!model.coresReady && status.coresReady && model.latencyQueued,
      { model with coresReady := status.coresReady, serviceMode := status.serviceMode })

end DesktopViewModel

end MultiCore.Desktop
