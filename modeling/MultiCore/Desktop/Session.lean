import MultiCore.Desktop.Mutations
import MultiCore.Library.Run

/-!
# Sessions of the window

A session is the model with the requests that are in flight. Anything may be begun at
any time, and each request that was begun is answered once, in any order and with any
result.
-/

namespace MultiCore.Desktop

open Transition (Edge Run)

/-- What the model was asked to begin, as it was handed out. -/
inductive Request where
  | mutation (kind : MutationKind) (token : Nat)
  | profileList (token : Nat)
  | profile (operation : SubscriptionProfileOperation) (token : Nat)
  | catalog (token : Nat)
  | selection (token : Nat)
  | queuedSelections (queued : List QueuedNodeSelection)
  | latencies (request : LatencyRequest)
  | nodeLatencies (request : NodeLatencyRequest)
  deriving DecidableEq, Repr

/-- The model and the requests in flight; beside them, whether an answer asked the shell to load the
catalog again. -/
structure Session where
  model : DesktopViewModel
  inFlight : List Request
  catalogAsked : Bool

/-- A new model, and no request handed out. -/
def Session.initial : Session := ⟨.new, [], false⟩

/-- What happens to a session. -/
inductive Event where
  | beginRefresh
  | beginDisconnectReconciliation
  | queuePrimaryAction (now : Nat)
  | beginPrimaryAction
  | beginQueuedPrimaryAction (now : Nat)
  | prepareRetryConnect
  | beginImport (url : String)
  | beginSubscriptionRefresh
  | finishMutation (kind : MutationKind) (token : Nat) (result : Except DaemonError DaemonStatus)
  | beginProfileList
  | finishProfileList (token : Nat) (result : Except DaemonError DaemonSubscriptionList)
  | beginProfileActivation (profileId : String)
  | finishProfileActivation (token : Nat) (result : Except DaemonError DaemonStatus)
  | beginProfileTargetRefresh (profileId : String)
  | finishProfileTargetRefresh (token : Nat) (result : Except DaemonError DaemonSubscriptionList)
  | beginProfileSourceEdit (profileId url : String)
  | finishProfileSourceEdit (token : Nat) (result : Except DaemonError DaemonSubscriptionList)
  | beginProfileDelete (profileId : String)
  | finishProfileDelete (token : Nat) (result : Except DaemonError DaemonStatus)
  | advanceProfileReconciliation
  | deferProfileListReload
  | deferProfileCatalogReload
  | beginCatalogRequest
  | loadAskedCatalog
  | finishCatalog (token : Nat) (result : Except DaemonError DaemonCatalog)
  | selectCatalogGroup (id : String)
  | restoreRoutePreferences (groupId : Option String) (selections : List (String × String))
  | beginNodeSelection (nodeId : String)
  | finishNodeSelection (token : Nat) (result : Except DaemonError DaemonCatalog)
  | sendQueuedSelections
  | finishQueuedNodeSelections (queued : List QueuedNodeSelection)
      (results : List (Except DaemonError DaemonCatalog))
  | beginLatencyRequest
  | beginForcedLatencyRequest
  | finishLatencies (request : LatencyRequest)
      (result : Except DaemonError (List DaemonLatencyEntry))
  | beginNodesLatencyRequest (nodeIds : List String)
  | finishNodeLatency (request : NodeLatencyRequest)
      (result : Except DaemonError (List DaemonLatencyEntry))
  | noteConnectionStatus (result : Except DaemonError DaemonStatus) (now : Nat)
  | noteCoresReadyStatus (result : Except DaemonError DaemonStatus)

/-- The request that an event answers. -/
def Event.answered : Event → Option Request
  | finishMutation kind token _ => some (.mutation kind token)
  | finishProfileList token _ => some (.profileList token)
  | finishProfileActivation token _ => some (.profile .activate token)
  | finishProfileTargetRefresh token _ => some (.profile .refresh token)
  | finishProfileSourceEdit token _ => some (.profile .edit token)
  | finishProfileDelete token _ => some (.profile .delete token)
  | finishCatalog token _ => some (.catalog token)
  | finishNodeSelection token _ => some (.selection token)
  | finishQueuedNodeSelections queued _ => some (.queuedSelections queued)
  | finishLatencies request _ => some (.latencies request)
  | finishNodeLatency request _ => some (.nodeLatencies request)
  | _ => none

/-- The end of a mutation, by its kind. -/
def DesktopViewModel.finishMutation (model : DesktopViewModel) (kind : MutationKind) (token : Nat)
    (result : Except DaemonError DaemonStatus) : DesktopViewModel :=
  match kind with
  | .refresh => model.finishRefresh token result
  | .import => model.finishImport token result
  | .connect => model.finishConnect token result
  | .disconnect => (model.finishDisconnect token result).2
  | .disconnectReconciliation => (model.finishDisconnectReconciliation token result).2
  | .subscriptionRefresh => (model.finishSubscriptionRefresh token result).2

namespace Session

variable (session : Session)

/-- The session with its model replaced. -/
def withModel (model : DesktopViewModel) : Session := { session with model }

/-- The requests that an operation began are put in flight. -/
def began (requests : List Request) (model : DesktopViewModel) : Session :=
  { session with model, inFlight := requests ++ session.inFlight }

/-- A request that was answered is in flight no more. -/
def answered (request : Request) (model : DesktopViewModel) : Session :=
  { session with model, inFlight := session.inFlight.erase request }

/-- The request of an action of the switch. -/
def actionRequests : Option (PrimaryAction × Nat) → List Request
  | none => []
  | some (action, token) =>
    ((DesktopViewModel.mutationOf action).map fun kind => .mutation kind token).toList

/-- The requests of a sweep: its own, and the one for its selected routes. -/
def sweepRequests : Option LatencyRequest → List Request
  | none => []
  | some request => .latencies request :: (request.priority.map Request.nodeLatencies).toList

/-- The shell acts on the reloads that the model asks for, the status first. -/
def advanceProfileReconciliation : Session :=
  let model := session.model
  if model.profileStatusReloadNeeded then
    let (token, model) := { model with profileStatusReloadNeeded := false }.beginRefresh
    session.began [.mutation .refresh token] model
  else if model.profileReloadNeeded then
    let (token, model) := { model with profileReloadNeeded := false }.beginProfileList
    session.began [.profileList token] model
  else if model.profileCatalogReloadNeeded then
    let (token, model) := { model with profileCatalogReloadNeeded := false }.beginCatalogRequest
    session.began (token.map Request.catalog).toList model
  else session

/-- One step: what the view model does with the event, and the requests it hands out. -/
def next (externals : Externals) (session : Session) (event : Event) : Session :=
  let model := session.model
  match event with
  | .beginRefresh =>
    session.began [.mutation .refresh model.beginRefresh.1] model.beginRefresh.2
  | .beginDisconnectReconciliation =>
    session.began [.mutation .disconnectReconciliation model.beginDisconnectReconciliation.1]
      model.beginDisconnectReconciliation.2
  | .queuePrimaryAction now => session.withModel (model.queuePrimaryAction now).2
  | .beginPrimaryAction =>
    session.began (actionRequests model.beginPrimaryAction.1) model.beginPrimaryAction.2
  | .beginQueuedPrimaryAction now =>
    session.began (actionRequests (model.beginQueuedPrimaryAction now).1)
      (model.beginQueuedPrimaryAction now).2
  | .prepareRetryConnect => session.withModel model.prepareRetryConnect
  | .beginImport url =>
    session.began ((model.beginImport externals url).1.map (.mutation .import)).toList
      (model.beginImport externals url).2
  | .beginSubscriptionRefresh =>
    session.began (model.beginSubscriptionRefresh.1.map (.mutation .subscriptionRefresh)).toList
      model.beginSubscriptionRefresh.2
  | .finishMutation kind token result =>
    session.answered (.mutation kind token) (model.finishMutation kind token result)
  | .beginProfileList =>
    session.began [.profileList model.beginProfileList.1] model.beginProfileList.2
  | .finishProfileList token result =>
    session.answered (.profileList token) (model.finishProfileList token result)
  | .beginProfileActivation profileId =>
    session.began ((model.beginProfileActivation profileId).1.map (.profile .activate)).toList
      (model.beginProfileActivation profileId).2
  | .finishProfileActivation token result =>
    session.answered (.profile .activate token) (model.finishProfileActivation token result)
  | .beginProfileTargetRefresh profileId =>
    session.began ((model.beginProfileTargetRefresh profileId).1.map (.profile .refresh)).toList
      (model.beginProfileTargetRefresh profileId).2
  | .finishProfileTargetRefresh token result =>
    session.answered (.profile .refresh token) (model.finishProfileTargetRefresh token result)
  | .beginProfileSourceEdit profileId url =>
    session.began ((model.beginProfileSourceEdit externals profileId url).1.map
      (.profile .edit)).toList (model.beginProfileSourceEdit externals profileId url).2
  | .finishProfileSourceEdit token result =>
    session.answered (.profile .edit token) (model.finishProfileSourceEdit token result)
  | .beginProfileDelete profileId =>
    session.began ((model.beginProfileDelete profileId).1.map (.profile .delete)).toList
      (model.beginProfileDelete profileId).2
  | .finishProfileDelete token result =>
    session.answered (.profile .delete token) (model.finishProfileDelete token result)
  | .advanceProfileReconciliation => session.advanceProfileReconciliation
  | .deferProfileListReload => session.withModel model.deferProfileListReload
  | .deferProfileCatalogReload => session.withModel model.deferProfileCatalogReload
  | .beginCatalogRequest =>
    session.began (model.beginCatalogRequest.1.map Request.catalog).toList
      model.beginCatalogRequest.2
  | .loadAskedCatalog =>
    { session with catalogAsked := false }.began
      (model.beginCatalogRequest.1.map Request.catalog).toList model.beginCatalogRequest.2
  | .finishCatalog token result =>
    session.answered (.catalog token) (model.finishCatalog externals token result)
  | .selectCatalogGroup id => session.withModel (model.selectCatalogGroup id).2
  | .restoreRoutePreferences groupId selections =>
    session.withModel (model.restoreRoutePreferences externals groupId selections)
  | .beginNodeSelection nodeId =>
    session.began ((model.beginNodeSelection nodeId).1.map fun request =>
      .selection request.token).toList (model.beginNodeSelection nodeId).2
  | .finishNodeSelection token result =>
    { session with
      catalogAsked := session.catalogAsked ||
        (model.finishNodeSelection externals token result).1 = some true
      }.answered (.selection token) (model.finishNodeSelection externals token result).2
  | .sendQueuedSelections => session.began [.queuedSelections model.queuedSelections] model
  | .finishQueuedNodeSelections queued results =>
    session.answered (.queuedSelections queued)
      (model.finishQueuedNodeSelections externals queued results).2
  | .beginLatencyRequest =>
    session.began (sweepRequests model.beginLatencyRequest.1) model.beginLatencyRequest.2
  | .beginForcedLatencyRequest =>
    session.began (sweepRequests model.beginForcedLatencyRequest.1)
      model.beginForcedLatencyRequest.2
  | .finishLatencies request result =>
    session.answered (.latencies request) (model.finishLatencies request.token result).2
  | .beginNodesLatencyRequest nodeIds =>
    session.began ((model.beginNodesLatencyRequest nodeIds).1.map Request.nodeLatencies).toList
      (model.beginNodesLatencyRequest nodeIds).2
  | .finishNodeLatency request result =>
    session.answered (.nodeLatencies request)
      (model.finishNodeLatency request.catalogRevision request.nodeIds request.token result).2
  | .noteConnectionStatus result now => session.withModel (model.noteConnectionStatus result now).2
  | .noteCoresReadyStatus result => session.withModel (model.noteCoresReadyStatus result).2

/-- An answer is for a request that is in flight. -/
def Enabled (event : Event) : Prop := ∀ request ∈ event.answered, request ∈ session.inFlight

instance (event : Event) : Decidable (session.Enabled event) :=
  inferInstanceAs (Decidable (∀ request ∈ event.answered, request ∈ session.inFlight))

end Session

/-- One event of a session. -/
def Step (externals : Externals) (source : Session) (event : Event) (target : Session) : Prop :=
  source.Enabled event ∧ target = source.next externals event

end MultiCore.Desktop
