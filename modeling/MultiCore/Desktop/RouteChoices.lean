import MultiCore.Desktop.ViewModel
import MultiCore.Library.FirstMatch

/-!
# Catalogs and choices of routes

A catalog replaces the one before it and keeps what the user chose. In the ready
state a choice is only queued; it is matched again to every catalog that arrives, by
its ids or by the labels that it was made by.
-/

namespace MultiCore.Desktop

open FirstMatch

/-- The text and the tone that a measured delay is shown in. -/
def latencyDisplay (status : String) (latencyMs : Option Nat) : String × String :=
  match status, latencyMs with
  | "ok", some value =>
    (value.repr ++ " ms",
      if value < 100 then "success" else if value < 250 then "warning" else "danger")
  | "timeout", _ => ("таймаут", "danger")
  | "error", _ => ("нет связи", "danger")
  | "unavailable", _ => ("нет связи", "danger")
  | _, _ => ("нет данных", "neutral")

/-- A label without secrets and line breaks; another text stands for an empty one. -/
def safeCatalogLabel (externals : Externals) (label : String) : String :=
  let label := Text.trim <| String.ofList <| (externals.redact label).toList.map fun c =>
    if c = '\r' ∨ c = '\n' then ' ' else c
  if label.isEmpty then "Без названия" else label

/-- The keys that are digests of labels begin with it. -/
def stableRouteKeyPrefix : String := "label-sha256:"

/-- A label's key, which outlives the ids of a catalog. -/
def stableRouteKey (externals : Externals) (label : String) : String :=
  stableRouteKeyPrefix ++ externals.sha256 label

/-- The element of a list that has no other. -/
def onlyOne {α : Type*} : List α → Option α
  | [a] => some a
  | _ => none

namespace CatalogNode

/-- A route that is not chosen. -/
def deselect (node : CatalogNode) : CatalogNode := { node with selected := false }

/-- Of the nodes, the first one of the id is the selected one. -/
def selectFirst (nodeId : String) : List CatalogNode → List CatalogNode
  | [] => []
  | node :: nodes =>
    if node.id = nodeId then { node with selected := true } :: nodes.map deselect
    else node.deselect :: selectFirst nodeId nodes

end CatalogNode

namespace CatalogGroup

/-- The route of an id. -/
def findNode (group : CatalogGroup) (nodeId : String) : Option CatalogNode :=
  group.nodes.find? fun node => node.id = nodeId

/-- The route that is chosen in a group. -/
def selectedNode (group : CatalogGroup) : Option CatalogNode :=
  group.nodes.find? CatalogNode.selected

/-- A group in which a route is the chosen one. -/
def selectNode (nodeId : String) (group : CatalogGroup) : CatalogGroup :=
  { group with nodes := CatalogNode.selectFirst nodeId group.nodes }

end CatalogGroup

/-- The group of an id. -/
def findGroup (groups : List CatalogGroup) (groupId : String) : Option CatalogGroup :=
  groups.find? fun group => group.id = groupId

namespace DaemonCatalog

/-- The catalog still has the group and the node of a choice. -/
def offers (catalog : DaemonCatalog) (groupId nodeId : String) : Bool :=
  (catalog.groups.find? fun group => group.id = groupId).any fun group =>
    group.nodes.any fun node => node.id = nodeId

/-- A choice in the next catalog. A refresh renumbers every route, so one whose ids are gone is
found again by its labels. -/
def carry (externals : Externals) (catalog : DaemonCatalog) (previous : List CatalogGroup)
    (queued : QueuedNodeSelection) : Option QueuedNodeSelection :=
  if queued.revision = catalog.revision ∨ catalog.offers queued.groupId queued.nodeId then
    some queued
  else do
    let group ← findGroup previous queued.groupId
    let node ← group.findNode queued.nodeId
    let targetGroup ← onlyOne (catalog.groups.filter fun candidate =>
      safeCatalogLabel externals candidate.label = group.label)
    let targetNode ← onlyOne (targetGroup.nodes.filter fun candidate =>
      safeCatalogLabel externals candidate.label = node.label)
    some ⟨targetGroup.id, catalog.revision, targetNode.id⟩

/-- The first selected group, or else the first one. -/
def primaryGroupId (catalog : DaemonCatalog) : Option String :=
  ((catalog.groups.find? DaemonCatalogGroup.selected).or catalog.groups.head?).map
    DaemonCatalogGroup.id

/-- The group that is viewed: the one before when it is still there. -/
def viewedGroupId (catalog : DaemonCatalog) (viewed : Option String) : Option String :=
  (((viewed.bind fun id => catalog.groups.find? fun group => group.id = id).or
    (catalog.groups.find? DaemonCatalogGroup.selected)).or catalog.groups.head?).map
      DaemonCatalogGroup.id

end DaemonCatalog

/-- A node as it is shown. A delay of the catalog is authoritative; without one, what was shown for
the same revision stays. -/
def DaemonCatalogNode.present (externals : Externals) (old : Option CatalogGroup)
    (node : DaemonCatalogNode) : CatalogNode :=
  let label := safeCatalogLabel externals node.label
  match node.delayMs with
  | some delay =>
    ⟨node.id, label, node.selected, some delay, (latencyDisplay "ok" (some delay)).1,
      (latencyDisplay "ok" (some delay)).2⟩
  | none =>
    match old.bind (CatalogGroup.findNode · node.id) with
    | some old => ⟨node.id, label, node.selected, old.delayMs, old.latencyText, old.latencyTone⟩
    | none => ⟨node.id, label, node.selected, none, "", "neutral"⟩

/-- A group as it is shown; delays come from the group of the same id before it. -/
def DaemonCatalogGroup.present (externals : Externals) (primary : Option String)
    (previous : List CatalogGroup) (group : DaemonCatalogGroup) : CatalogGroup where
  id := group.id
  label := safeCatalogLabel externals group.label
  isPrimary := decide (primary = some group.id)
  nodes := group.nodes.map (DaemonCatalogNode.present externals (findGroup previous group.id))

namespace DesktopViewModel

variable (externals : Externals) (model : DesktopViewModel)

/-! ## A new catalog -/

/-- The group that a kept key names: by its label where the key is a digest, or by its id. -/
def resolveGroupPreferenceId (key : String) : Option String :=
  if Text.startsWith key stableRouteKeyPrefix then
    (onlyOne (model.catalogGroups.filter fun group =>
      stableRouteKey externals group.label = key)).map CatalogGroup.id
  else (findGroup model.catalogGroups key).map CatalogGroup.id

/-- The group and the route that two kept keys name. -/
def resolveRoutePreferenceIds (groupKey nodeKey : String) : Option (String × String) := do
  let groupId ← model.resolveGroupPreferenceId externals groupKey
  let group ← findGroup model.catalogGroups groupId
  let node ← group.findNode nodeKey
  some (groupId, node.id)

/-- Shows a node as the one selected in its group, and names it in the summary of the connection
when the group is the primary one. -/
def showSelected (groupId nodeId : String) : DesktopViewModel :=
  match findGroup model.catalogGroups groupId with
  | none => model
  | some group =>
    match group.findNode nodeId with
    | none => model
    | some node =>
      { model with
        catalogGroups := updateFirst (fun group => group.id = groupId)
          (CatalogGroup.selectNode nodeId) model.catalogGroups
        state := if group.isPrimary then model.state.withReadyNode node.label else model.state }

/-- The restored choice for a group: the last one that is resolved to it. -/
def restoredNode (group : CatalogGroup) : Option CatalogNode :=
  ((model.restoredRouteNodes.filterMap fun restored =>
    model.resolveRoutePreferenceIds externals restored.1 restored.2).reverse.find? fun resolved =>
      resolved.1 = group.id).bind fun resolved => group.findNode resolved.2

/-- Applies the kept choices to the catalog that is shown, once. -/
def applyRestoredRoutePreferences : DesktopViewModel :=
  if model.catalogGroups.isEmpty then model
  else
    let selected := (model.restoredRouteGroup.bind (model.resolveGroupPreferenceId externals)).or
      model.selectedCatalogGroup
    let model := { model with restoredRouteGroup := none, selectedCatalogGroup := selected }
    if model.restoredRouteNodes.isEmpty then model
    else
      { model with
        catalogGroups := model.catalogGroups.map fun group =>
          match model.restoredNode externals group with
          | some node => group.selectNode node.id
          | none => group
        state := model.catalogGroups.foldl (fun state group =>
          match model.restoredNode externals group with
          | some node => if group.isPrimary then state.withReadyNode node.label else state
          | none => state) model.state
        restoredRouteNodes := [] }

/-- The groups of a catalog as they are shown, before any choice is. -/
def presentCatalog (catalog : DaemonCatalog) : DesktopViewModel :=
  { model with
    catalogRevision := some catalog.revision
    selectedCatalogGroup := catalog.viewedGroupId model.selectedCatalogGroup
    catalogGroups := catalog.groups.map (DaemonCatalogGroup.present externals catalog.primaryGroupId
      (if model.catalogRevision = some catalog.revision then model.catalogGroups else []))
    latencyQueued := model.latencyQueued || !catalog.groups.isEmpty }

/-- The queued choices that the next catalog still has. -/
def carriedSelections (catalog : DaemonCatalog) : List QueuedNodeSelection :=
  model.queuedSelections.filterMap (catalog.carry externals model.catalogGroups)

/-- Matches the queued choices to the next catalog; one that is lost leaves a notice. -/
def carrySelections (catalog : DaemonCatalog) : DesktopViewModel :=
  { model with
    queuedSelections := (model.carriedSelections externals catalog).map fun queued =>
      { queued with revision := catalog.revision }
    catalogNoticeAfterRefresh :=
      if (model.carriedSelections externals catalog).length ≠ model.queuedSelections.length then
        model.catalogNoticeAfterRefresh.or (some "Каталог маршрутов обновлён. Повторите выбор.")
      else model.catalogNoticeAfterRefresh }

/-- Shows the queued choices as the chosen ones. -/
def showQueuedSelections : DesktopViewModel :=
  model.queuedSelections.foldl (fun model queued => model.showSelected queued.groupId queued.nodeId)
    model

/-- A new catalog with the choices of the user. -/
def replaceCatalog (catalog : DaemonCatalog) : DesktopViewModel :=
  ((((model.carrySelections externals catalog).presentCatalog externals
    catalog).applyRestoredRoutePreferences externals).pinDumbModeGroup).showQueuedSelections

/-- Names the chosen route of the primary group in the summary of a connection. -/
def syncConnectedRouteFromCatalog : DesktopViewModel :=
  match (model.catalogGroups.find? CatalogGroup.isPrimary).bind CatalogGroup.selectedNode with
  | some node => { model with state := model.state.withConnectedNode node.label }
  | none => model

/-- Shows what was chosen before a choice that failed. -/
def restoreSelection (active : ActiveSelection) : DesktopViewModel :=
  { model with
    catalogGroups := updateFirst (fun group => group.id = active.groupId)
      (fun group => { group with nodes := group.nodes.map fun node =>
        { node with selected := decide (node.id ∈ active.previouslySelectedNodeIds) } })
      model.catalogGroups }

/-! ## Requests for catalogs -/

/-- Begins to read the catalog, or puts it off while a choice is in flight. -/
def beginCatalogRequest : Option Nat × DesktopViewModel :=
  if model.catalogRequestPending.isSome || model.profileMutationPending ||
      (model.profileCatalogReconciliationPending &&
        (model.profileStatusReconciliationPending || model.profileListReconciliationPending)) then
    (none, model)
  else if model.activeSelection.isSome then (none, { model with catalogRequestDeferred := true })
  else
    (some (model.nextCatalogGeneration + 1),
      { model with
        catalogRequestDeferred := false
        profileCatalogReloadNeeded :=
          !model.profileCatalogReconciliationPending && model.profileCatalogReloadNeeded
        nextCatalogGeneration := model.nextCatalogGeneration + 1
        catalogRequestPending := some (model.nextCatalogGeneration + 1) })

/-- The catalog arrives, or there is none until it is read again. -/
def finishCatalog (token : Nat) (result : Except DaemonError DaemonCatalog) : DesktopViewModel :=
  if model.catalogRequestPending ≠ some token then model
  else
    let model := { model with catalogRequestPending := none }
    match result with
    | .ok catalog =>
      let reconciliation := model.catalogReconciliationRequired
      let model := model.replaceCatalog externals catalog
      { if reconciliation then model.syncConnectedRouteFromCatalog else model with
        catalogReconciliationRequired := false
        profileCatalogReconciliationPending := false
        catalogNoticeAfterRefresh := none }
    | .error _ =>
      { model with
        catalogRevision := none
        catalogReconciliationRequired := false
        profileCatalogReloadNeeded :=
          model.profileCatalogReconciliationPending || model.profileCatalogReloadNeeded
        catalogNoticeAfterRefresh := none }

/-! ## Taps -/

/-- The user views another group. -/
def selectCatalogGroup (id : String) : Bool × DesktopViewModel :=
  if model.catalogRequestPending.isSome || !model.catalogGroups.any (fun group => group.id = id) ||
      (model.dumbMode && model.catalogGroups.head?.map CatalogGroup.id ≠ some id) then
    (false, model)
  else (true, { model with selectedCatalogGroup := some id, latencyQueued := true })

/-- The choices that were kept on disk. -/
def restoreRoutePreferences (groupId : Option String) (selections : List (String × String)) :
    DesktopViewModel :=
  { model with
    restoredRouteGroup := groupId
    restoredRouteNodes := selections }.applyRestoredRoutePreferences externals

/-- A tap is accepted while only background work runs. -/
def selectionAcceptsTaps : Bool :=
  let subscriptionRefreshOnly :=
    model.activeMutation.all fun active => active.kind = .subscriptionRefresh
  let backgroundOnly := model.state.isReady && model.activeMutation.all fun active =>
    active.kind = .refresh || active.kind = .subscriptionRefresh
  model.activeSelection.isNone && !model.profileMutationPending &&
    !model.profileReconciliationRequired && !model.importPending &&
    !model.catalogReconciliationRequired && (model.state.isConnected || model.state.isReady) &&
    (backgroundOnly || model.catalogRequestPending.isNone && subscriptionRefreshOnly)

/-- A choice as it is sent to the daemon. -/
structure NodeSelectionRequest where
  token : Nat
  groupId : String
  revision : Nat
  nodeId : String
  deriving DecidableEq, Repr

/-- Queues a choice in place of the one for its group. -/
def queueSelection (queued : QueuedNodeSelection) : DesktopViewModel :=
  { model with
    queuedSelections :=
      if model.queuedSelections.any fun existing => existing.groupId = queued.groupId then
        updateFirst (fun existing => existing.groupId = queued.groupId) (fun _ => queued)
          model.queuedSelections
      else model.queuedSelections ++ [queued] }

/-- The group of a tap: the viewed one, when it shows the node and not as the selected one. -/
def tapTarget (nodeId : String) : Option (Nat × CatalogGroup) := do
  let revision ← model.catalogRevision
  let groupId ← model.selectedCatalogGroup
  let group ← findGroup model.catalogGroups groupId
  let node ← group.findNode nodeId
  if node.selected then none else some (revision, group)

/-- A tap on a route: queued in the ready state, sent in a connection. -/
def beginNodeSelection (nodeId : String) : Option NodeSelectionRequest × DesktopViewModel :=
  if !model.selectionAcceptsTaps then (none, model)
  else
    match model.tapTarget nodeId with
    | none => (none, model)
    | some (revision, group) =>
      if model.state.isReady then
        (none, (model.showSelected group.id nodeId).queueSelection ⟨group.id, revision, nodeId⟩)
      else
        let token := model.nextSelectionGeneration + 1
        (some ⟨token, group.id, revision, nodeId⟩,
          { model.showSelected group.id nodeId with
            queuedSelections := []
            nextSelectionGeneration := token
            activeSelection := some ⟨token, group.id,
              (group.nodes.filter CatalogNode.selected).map CatalogNode.id⟩ })

/-- The request is told whether the shell has to load the catalog again. -/
def finishNodeSelection (token : Nat) (result : Except DaemonError DaemonCatalog) :
    Option Bool × DesktopViewModel :=
  match model.activeSelection with
  | none => (none, model)
  | some active =>
    if active.token ≠ token then (none, model)
    else
      let model := { model with activeSelection := none }
      match result with
      | .ok catalog =>
        let model := model.replaceCatalog externals catalog
        let selected := (model.catalogGroups.find? fun group =>
          group.id = active.groupId && group.isPrimary).bind CatalogGroup.selectedNode
        (some true,
          { model with
            state := selected.elim model.state fun node => model.state.withConnectedNode node.label
            catalogReconciliationRequired := true })
      | .error error =>
        let refreshCatalog := error.isStaleRevision || error.requiresReconciliation ||
          model.catalogRequestDeferred
        let notice :=
          if error.isStaleRevision then "Каталог маршрутов обновлён. Повторите выбор."
          else if error.requiresReconciliation then
            "Не удалось подтвердить изменение маршрута. Каталог обновляется; повторите попытку."
          else "Не удалось изменить маршрут. Повторите попытку."
        (some refreshCatalog,
          { model.restoreSelection active with
            catalogRevision := if refreshCatalog then none else model.catalogRevision
            catalogNoticeAfterRefresh :=
              if refreshCatalog then some notice else model.catalogNoticeAfterRefresh
            catalogReconciliationRequired := refreshCatalog })

/-- Applies the answers for the choices that were sent with a connect, in their order. -/
def finishQueuedNodeSelections (queued : List QueuedNodeSelection)
    (results : List (Except DaemonError DaemonCatalog)) : Bool × DesktopViewModel :=
  if model.queuedSelections ≠ queued ∨ results.length ≠ queued.length then (false, model)
  else
    let model := results.foldl (fun model result =>
      match result with
      | .ok catalog => (model.replaceCatalog externals catalog).syncConnectedRouteFromCatalog
      | .error _ => model) { model with queuedSelections := [] }
    (true,
      if results.any fun result => result.toOption.isNone then
        { model with catalogRevision := none }
      else model)

end DesktopViewModel

end MultiCore.Desktop
