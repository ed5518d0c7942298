import MultiCore.Desktop.DeepLinks

/-!
# The view model of the window

What the window shows is one record. Every request that it makes of the daemon is
begun and finished by an operation of the model, and finished requests are told from
superseded ones by their generations. Times are in milliseconds, the texts are those
of the source language, and a generation is a natural number: it is advanced once for
each request.
-/

namespace MultiCore.Desktop

/-- What the model calls and does not decide: how texts are redacted and digested, and how links are
read. -/
structure Externals where
  redact : String → String
  sha256 : String → String
  parse : String → Option ParsedUrl

/-- What the window is in, with the texts of that state. -/
inductive UiState where
  | empty
  | importing
  | ready (profile node : String)
  | connecting (profile node step : String)
  | disconnecting (profile node : String)
  | connected (profile node : String)
  | error (message : String)
  | serviceUnreachable (message : String)
  | daemonDegraded (message : String)
  deriving DecidableEq, Repr

/-- What a press of the power switch asks for. -/
inductive PrimaryAction where
  | none
  | connect
  | disconnect
  | retry
  | cleanup
  deriving DecidableEq, Repr

/-- What the window shows of a state, and whether the switch can be pressed in it. -/
structure StatePresentation where
  profile : String
  node : String
  primaryAction : PrimaryAction
  primaryEnabled : Bool
  isBusy : Bool
  deriving DecidableEq, Repr

namespace UiState

/-- The texts and the switch of a state. -/
def presentation : UiState → StatePresentation
  | empty => ⟨"Нет профиля", "Маршрут не выбран", .none, false, false⟩
  | importing => ⟨"Новый профиль", "Маршрут не выбран", .none, false, true⟩
  | ready profile node => ⟨profile, node, .connect, true, false⟩
  | connecting profile node _ => ⟨profile, node, .none, false, true⟩
  | connected profile node => ⟨profile, node, .disconnect, true, false⟩
  | disconnecting profile node => ⟨profile, node, .none, false, true⟩
  | error _ => ⟨"—", "Авто", .retry, true, false⟩
  | serviceUnreachable _ => ⟨"Состояние неизвестно", "—", .retry, true, false⟩
  | daemonDegraded _ => ⟨"Состояние неизвестно", "—", .cleanup, true, false⟩

/-- A profile is chosen and nothing is connected. -/
def isReady : UiState → Bool
  | ready _ _ => true
  | _ => false

/-- A connection is being made. -/
def isConnecting : UiState → Bool
  | connecting _ _ _ => true
  | _ => false

/-- A connection stands. -/
def isConnected : UiState → Bool
  | connected _ _ => true
  | _ => false

/-- The service does not answer in full, and the switch cleans up. -/
def isDegraded : UiState → Bool
  | daemonDegraded _ => true
  | _ => false

/-- The state with another route, where it names one that may be changed in place. -/
def withReadyNode (label : String) : UiState → UiState
  | ready profile _ => ready profile label
  | state => state

/-- The same for the route of a connection that stands. -/
def withConnectedNode (label : String) : UiState → UiState
  | connected profile _ => connected profile label
  | state => state

end UiState

/-! ## Answers of the daemon -/

/-- The code of a message, and the message in the language of the interface when it is known. -/
structure MessageKey where
  code : String
  localized : Option String
  deriving DecidableEq, Repr

/-- What a status says of the subscription. -/
structure SubscriptionInfo where
  refreshAvailable : Bool
  dumbMode : Bool
  deriving DecidableEq, Repr

/-- The daemon's status as it is answered, its state being a text. -/
structure DaemonStatus where
  state : String
  activeProfileId : Option String
  profile : Option String
  currentNode : Option String
  message : Option String
  messageKey : Option MessageKey
  degraded : Bool
  subscription : Option SubscriptionInfo
  coresReady : Bool
  serviceMode : Bool
  importedProfileId : Option String
  deriving DecidableEq, Repr

/-- One profile of the daemon's list. -/
structure DaemonSubscriptionProfile where
  id : String
  active : Bool
  available : Bool
  deriving DecidableEq, Repr

/-- The daemon's list of profiles and the one that is active. -/
structure DaemonSubscriptionList where
  activeProfileId : Option String
  profiles : List DaemonSubscriptionProfile
  deriving DecidableEq, Repr

/-- One route of a group as the daemon tells it. -/
structure DaemonCatalogNode where
  id : String
  label : String
  selected : Bool
  delayMs : Option Nat
  deriving DecidableEq, Repr

/-- One group of routes as the daemon tells it. -/
structure DaemonCatalogGroup where
  id : String
  label : String
  selected : Bool
  nodes : List DaemonCatalogNode
  deriving DecidableEq, Repr

/-- The daemon's routes; its revision changes when the routes do. -/
structure DaemonCatalog where
  revision : Nat
  groups : List DaemonCatalogGroup
  deriving DecidableEq, Repr

/-- One measured delay, of a route in a group. -/
structure DaemonLatencyEntry where
  groupId : String
  nodeId : String
  latencyMs : Option Nat
  status : String
  deriving DecidableEq, Repr

/-- What an error says of the request that failed. -/
inductive DaemonErrorKind where
  | other
  | staleRevision
  | definitiveHttp
  | ambiguous
  | profileNotFound
  | profileConflict
  | profileServer
  deriving DecidableEq, Repr

/-- An error that the daemon answers, or that stands for a missing answer. -/
structure DaemonError where
  message : String
  kind : DaemonErrorKind
  deriving DecidableEq, Repr

namespace DaemonError

/-- The request was made of a catalog that has been replaced. -/
def isStaleRevision (error : DaemonError) : Bool := error.kind = .staleRevision

/-- It is not known whether the daemon did what it was asked to. -/
def requiresReconciliation (error : DaemonError) : Bool := error.kind = .ambiguous

end DaemonError

/-! ## The model -/

/-- What a request that changes the connection is for. -/
inductive MutationKind where
  | refresh
  | «import»
  | connect
  | disconnect
  | disconnectReconciliation
  | subscriptionRefresh
  deriving DecidableEq, Repr

/-- The one request of this kind in flight, and the profiles it was begun with. -/
structure ActiveMutation where
  token : Nat
  kind : MutationKind
  profileEpoch : Nat
  deriving DecidableEq, Repr

/-- What a request about the profiles is for. -/
inductive SubscriptionProfileOperation where
  | list
  | activate
  | refresh
  | edit
  | delete
  deriving DecidableEq, Repr

/-- The one change of a profile in flight. -/
structure ActiveProfileRequest where
  token : Nat
  operation : SubscriptionProfileOperation
  profileId : Option String
  deriving DecidableEq, Repr

/-- A profile whose id is safe to be shown and sent. -/
structure SubscriptionProfile where
  id : String
  active : Bool
  available : Bool
  deriving DecidableEq, Repr

/-- A press of the switch that waits for background work. -/
structure QueuedPrimary where
  action : PrimaryAction
  since : Nat
  deriving DecidableEq, Repr

/-- A route as the window shows it, with the text and the tone of its delay. -/
structure CatalogNode where
  id : String
  label : String
  selected : Bool
  delayMs : Option Nat
  latencyText : String
  latencyTone : String
  deriving DecidableEq, Repr

/-- A group of routes as the window shows it. -/
structure CatalogGroup where
  id : String
  label : String
  isPrimary : Bool
  nodes : List CatalogNode
  deriving DecidableEq, Repr

/-- The one choice of a route in flight, and what was chosen before it. -/
structure ActiveSelection where
  token : Nat
  groupId : String
  previouslySelectedNodeIds : List String
  deriving DecidableEq, Repr

/-- A choice of a route that is sent when a connection stands. -/
structure QueuedNodeSelection where
  groupId : String
  revision : Nat
  nodeId : String
  deriving DecidableEq, Repr

/-- The model of the window. A generation counts the requests of its kind; a request that is pending
is known by the generation it was begun with. -/
structure DesktopViewModel where
  state : UiState
  importPending : Bool
  importPreviousState : Option UiState
  /-- Until when the connection watch follows a reconnect of the daemon's own. -/
  awaitingReconnectUntil : Option Nat
  reconnectedNotice : Option (String × Nat)
  subscription : Option SubscriptionInfo
  activeProfileId : Option String
  subscriptionProfiles : List SubscriptionProfile
  profileStatusReloadNeeded : Bool
  profileReloadNeeded : Bool
  profileCatalogReloadNeeded : Bool
  profileStatusReconciliationPending : Bool
  profileListReconciliationPending : Bool
  profileCatalogReconciliationPending : Bool
  profileEpoch : Nat
  nextProfileListGeneration : Nat
  profileListRequestPending : Option Nat
  nextProfileMutationGeneration : Nat
  activeProfileMutation : Option ActiveProfileRequest
  nextMutationGeneration : Nat
  activeMutation : Option ActiveMutation
  queuedPrimary : Option QueuedPrimary
  catalogRevision : Option Nat
  catalogGroups : List CatalogGroup
  selectedCatalogGroup : Option String
  restoredRouteGroup : Option String
  restoredRouteNodes : List (String × String)
  nextCatalogGeneration : Nat
  catalogRequestPending : Option Nat
  catalogRequestDeferred : Bool
  nextSelectionGeneration : Nat
  activeSelection : Option ActiveSelection
  queuedSelections : List QueuedNodeSelection
  catalogReconciliationRequired : Bool
  catalogNoticeAfterRefresh : Option String
  nextLatencyGeneration : Nat
  latencyRequestPending : Option Nat
  latencyRequestRevision : Option Nat
  latencyRequestGroupIds : List String
  latencyQueued : Bool
  nextNodeLatencyGeneration : Nat
  /-- The single-route measurements that a row waits for, by the id of its route. -/
  nodeLatencyPending : String → Option Nat
  /-- Routes measured on their own while the current sweep runs. -/
  latencySweepFresh : List String
  /-- The current sweep's own request for the selected routes of its groups. -/
  latencySweepPriority : Option Nat
  coresReady : Bool
  serviceMode : Bool

namespace DesktopViewModel

/-- The model before anything is known of the daemon. -/
def new : DesktopViewModel where
  state := .daemonDegraded "Проверяем фоновый сервис…"
  importPending := false
  importPreviousState := none
  awaitingReconnectUntil := none
  reconnectedNotice := none
  subscription := none
  activeProfileId := none
  subscriptionProfiles := []
  profileStatusReloadNeeded := false
  profileReloadNeeded := false
  profileCatalogReloadNeeded := false
  profileStatusReconciliationPending := false
  profileListReconciliationPending := false
  profileCatalogReconciliationPending := false
  profileEpoch := 0
  nextProfileListGeneration := 0
  profileListRequestPending := none
  nextProfileMutationGeneration := 0
  activeProfileMutation := none
  nextMutationGeneration := 0
  activeMutation := none
  queuedPrimary := none
  catalogRevision := none
  catalogGroups := []
  selectedCatalogGroup := none
  restoredRouteGroup := none
  restoredRouteNodes := []
  nextCatalogGeneration := 0
  catalogRequestPending := none
  catalogRequestDeferred := false
  nextSelectionGeneration := 0
  activeSelection := none
  queuedSelections := []
  catalogReconciliationRequired := false
  catalogNoticeAfterRefresh := none
  nextLatencyGeneration := 0
  latencyRequestPending := none
  latencyRequestRevision := none
  latencyRequestGroupIds := []
  latencyQueued := false
  nextNodeLatencyGeneration := 0
  nodeLatencyPending := fun _ => none
  latencySweepFresh := []
  latencySweepPriority := none
  coresReady := false
  serviceMode := false

variable (model : DesktopViewModel)

/-! ## Background work -/

/-- A change of a profile is in flight. -/
def profileMutationPending : Bool := model.activeProfileMutation.isSome

/-- Something that is known of the profiles has to be read again. -/
def profileReconciliationRequired : Bool :=
  model.profileStatusReconciliationPending || model.profileListReconciliationPending ||
    model.profileCatalogReconciliationPending

/-- Background work that the power switch has to wait for. -/
def primaryActionHeld : Bool :=
  model.activeMutation.isSome || model.importPending || model.profileMutationPending ||
    model.profileReconciliationRequired || model.activeSelection.isSome ||
    model.catalogReconciliationRequired

/-- A list of profiles in flight is superseded. -/
def invalidateProfileListRequest : DesktopViewModel :=
  { model with
    nextProfileListGeneration := model.nextProfileListGeneration + 1
    profileListRequestPending := none }

/-- A change of the profiles supersedes a status refresh that is in flight. -/
def advanceProfileEpoch : DesktopViewModel :=
  { model with
    profileEpoch := model.profileEpoch + 1
    activeMutation :=
      if model.activeMutation.any fun active => active.kind = .refresh then none
      else model.activeMutation }

/-- The catalog is read again once the status and the list have been. -/
def armProfileCatalogReconciliation : DesktopViewModel :=
  if model.profileCatalogReconciliationPending && !model.profileStatusReconciliationPending &&
      !model.profileListReconciliationPending then
    { model with profileCatalogReloadNeeded := true }
  else model

/-- Asks for the status, the list and the catalog to be read again. -/
def requireProfileReconciliation (status list catalog : Bool) : DesktopViewModel :=
  { model with
    profileStatusReconciliationPending := model.profileStatusReconciliationPending || status
    profileListReconciliationPending := model.profileListReconciliationPending || list
    profileCatalogReconciliationPending := model.profileCatalogReconciliationPending || catalog
    profileStatusReloadNeeded := model.profileStatusReloadNeeded || status
    profileReloadNeeded := model.profileReloadNeeded || list
    profileCatalogReloadNeeded := model.profileCatalogReloadNeeded || catalog
    }.armProfileCatalogReconciliation

/-- Forgets the catalog, and every choice and measurement of its routes. -/
def invalidateCatalogRuntime : DesktopViewModel :=
  { model with
    nextCatalogGeneration := model.nextCatalogGeneration + 1
    catalogRequestPending := none
    catalogRequestDeferred := false
    catalogRevision := none
    catalogGroups := []
    selectedCatalogGroup := none
    restoredRouteGroup := none
    restoredRouteNodes := []
    catalogReconciliationRequired := false
    catalogNoticeAfterRefresh := none
    nextSelectionGeneration := model.nextSelectionGeneration + 1
    activeSelection := none
    queuedSelections := []
    nextLatencyGeneration := model.nextLatencyGeneration + 1
    latencyRequestPending := none
    latencyRequestRevision := none
    nodeLatencyPending := fun _ => none
    latencySweepFresh := []
    latencySweepPriority := none
    latencyRequestGroupIds := []
    latencyQueued := false }

/-- Forgets what is known of the active profile at work. -/
def invalidateProfileRuntime : DesktopViewModel :=
  { model with subscription := none }.invalidateCatalogRuntime

/-- Marks the active profile in the list, and no other. -/
def syncProfileActiveFlags : DesktopViewModel :=
  { model with
    subscriptionProfiles := model.subscriptionProfiles.map fun profile =>
      { profile with active := decide (model.activeProfileId = some profile.id) } }

end DesktopViewModel

/-! ## Statuses and profiles -/

/-- A character that ids of profiles are written with. -/
def isProfileIdChar (c : Char) : Bool := c.isAlphanum || c ∈ ['-', '_', '.', ':']

/-- The id of a profile, if it is short and has no other characters. -/
def safeProfileId (value : String) : Option String :=
  let value := Text.trim value
  if !value.isEmpty && value.utf8ByteSize ≤ 128 && value.toList.all isProfileIdChar then some value
  else none

/-- The daemon's profile as the window keeps it. -/
def presentSubscriptionProfile (profile : DaemonSubscriptionProfile) : Option SubscriptionProfile :=
  (safeProfileId profile.id).map fun id => ⟨id, profile.active, profile.available⟩

/-- Whether a text is the address of a subscription. -/
def validSubscriptionUrl (externals : Externals) (value : String) : Bool :=
  let value := Text.trim value
  value.utf8ByteSize ≤ maxSubscriptionUrlBytes &&
    (externals.parse value).any fun url =>
      (url.scheme = "http" || url.scheme = "https") && url.host.isSome

/-- So many profiles of the daemon's list are kept. -/
def maxSubscriptionProfiles : Nat := 16

/-- The code of the daemon's status while it reconnects by itself. -/
def autoReconnectCode : String := "cores.lost_reconnecting"

/-- What a status shows; a message with a code is shown in the language of the interface. -/
def stateFromStatus (status : DaemonStatus) : UiState :=
  let message := (status.messageKey.bind MessageKey.localized).or status.message
  if status.degraded then .daemonDegraded (message.getD "Фоновый сервис отвечает не полностью.")
  else
    let profile := status.profile.getD "Основной"
    let node := status.currentNode.getD "Авто"
    if status.state = "empty" then .empty
    else if status.state = "importing" then .importing
    else if status.state = "connecting" then
      .connecting profile node (message.getD "Проверяем доступность маршрута…")
    else if status.state = "connected" then .connected profile node
    else if status.state = "ready" ∨ status.state = "disconnected" then .ready profile node
    else if status.state = "error" then
      .error (message.getD "Повторите попытку через несколько секунд.")
    else .error "Фоновый сервис вернул неизвестное состояние."

namespace DesktopViewModel

variable (model : DesktopViewModel)

/-- Only the first group of routes is shown. -/
def dumbMode : Bool := model.subscription.any SubscriptionInfo.dumbMode

/-- Where only the first group is shown, it is the one that is chosen. -/
def pinDumbModeGroup : DesktopViewModel :=
  match model.catalogGroups.head? with
  | some first =>
    if model.dumbMode then { model with selectedCatalogGroup := some first.id } else model
  | none => model

/-- The daemon names the active profile; another one than before takes all routes with it. -/
def setAuthoritativeActiveProfile (profileId : Option String) : DesktopViewModel :=
  let profileId := profileId.bind safeProfileId
  if model.activeProfileId = profileId then model
  else
    { model.invalidateProfileRuntime with
      activeProfileId := profileId }.syncProfileActiveFlags.armProfileCatalogReconciliation

/-- The state that the status shows is set here, where the source returns it to be set. -/
def applyDaemonStatus (status : DaemonStatus) : DesktopViewModel :=
  { { model.setAuthoritativeActiveProfile status.activeProfileId with
        subscription := status.subscription }.pinDumbModeGroup with
    coresReady := status.coresReady
    serviceMode := status.serviceMode
    state := stateFromStatus status }

/-- The status after a request that may have changed the active profile. -/
def applyProfileChangingStatus (status : DaemonStatus) : DesktopViewModel :=
  { { { model.invalidateProfileRuntime with
          activeProfileId := status.activeProfileId.bind safeProfileId }.syncProfileActiveFlags with
        subscription := status.subscription }.pinDumbModeGroup with
    state := stateFromStatus status }

/-- After an answer that leaves open what the daemon did, all that is known of it is read again. -/
def requireFullProfileReconciliation : DesktopViewModel :=
  { { { model with
          activeProfileMutation := none
          }.invalidateProfileListRequest.advanceProfileEpoch.invalidateProfileRuntime with
        activeProfileId := none }.syncProfileActiveFlags with
    state := .daemonDegraded "Проверяем состояние подписок…"
    }.requireProfileReconciliation true true true

/-- The daemon's list takes the place of the one that was known. -/
def replaceProfileList (list : DaemonSubscriptionList) : DesktopViewModel :=
  let model := model.setAuthoritativeActiveProfile (list.activeProfileId.bind safeProfileId)
  { model with
    subscriptionProfiles :=
      ((list.profiles.take maxSubscriptionProfiles).filterMap presentSubscriptionProfile).map
        fun profile => { profile with active := decide (model.activeProfileId = some profile.id) } }

end DesktopViewModel

end MultiCore.Desktop
