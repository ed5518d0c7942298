import MultiCore.Desktop.RouteLatencies

/-!
# Mutations

What the window asks of the daemon besides catalogs and measurements: refreshes of
the status, imports, connects and disconnects, and changes of single profiles. At most
one mutation is current; the answer of a superseded one is ignored.
-/

namespace MultiCore.Desktop

open FirstMatch

namespace DesktopViewModel

variable (externals : Externals) (model : DesktopViewModel)

/-- The generation of a new request. A refresh is not awaited while a profile is being changed. -/
def nextMutation (kind : MutationKind) : Nat × DesktopViewModel :=
  let token := model.nextMutationGeneration + 1
  let model := { model with nextMutationGeneration := token }
  if kind = .refresh && model.profileMutationPending then (token, model)
  else (token, { model with activeMutation := some ⟨token, kind, model.profileEpoch⟩ })

/-- An answer is the one that is waited for, and no change of the profiles came between. -/
def isCurrentMutation (token : Nat) (kind : MutationKind) : Bool :=
  model.activeMutation.any fun active =>
    active.token = token && active.kind = kind && active.profileEpoch = model.profileEpoch

/-! ## The switch -/

/-- Keeps a press of the switch while background work holds it; whether it was kept. -/
def queuePrimaryAction (now : Nat) : Bool × DesktopViewModel :=
  if model.queuedPrimary.isSome || !model.primaryActionHeld then (false, model)
  else
    let state := model.state.presentation
    if !state.primaryEnabled ||
        (state.primaryAction ≠ .connect && state.primaryAction ≠ .disconnect) then
      (false, model)
    else (true, { model with queuedPrimary := some ⟨state.primaryAction, now⟩ })

/-- The mutation that an action of the switch begins. -/
def mutationOf : PrimaryAction → Option MutationKind
  | .connect => some .connect
  | .disconnect => some .disconnect
  | .cleanup => some .disconnect
  | .retry => some .refresh
  | .none => none

/-- What is shown as soon as an action of the switch is begun. -/
def beganState (action : PrimaryAction) (state : UiState) : UiState :=
  let current := state.presentation
  match action with
  | .connect => .connecting current.profile current.node "Запускаем локальный маршрут…"
  | .disconnect => .disconnecting current.profile current.node
  | _ => state

/-- Begins what the switch asks for, unless background work holds it. -/
def beginPrimaryAction : Option (PrimaryAction × Nat) × DesktopViewModel :=
  if model.primaryActionHeld then (none, model)
  else
    let action := model.state.presentation.primaryAction
    match mutationOf action with
    | none => (none, model)
    | some kind =>
      let (token, model) := model.nextMutation kind
      (some (action, token),
        { model with
          awaitingReconnectUntil := none
          reconnectedNotice := none
          state := beganState action model.state })

/-- A press that waited longer is dropped. -/
def queuedPrimaryTtl : Nat := 60000

/-- Starts the press that waits, as the action that it was pressed for. -/
def beginQueuedPrimaryAction (now : Nat) : Option (PrimaryAction × Nat) × DesktopViewModel :=
  match model.queuedPrimary with
  | none => (none, model)
  | some queued =>
    if queuedPrimaryTtl < now - queued.since then (none, { model with queuedPrimary := none })
    else if model.primaryActionHeld then (none, model)
    else
      let model := { model with queuedPrimary := none }
      if model.state.presentation.primaryAction ≠ queued.action then (none, model)
      else model.beginPrimaryAction

/-- After troubleshooting, a failed connect is left for a fresh one. -/
def prepareRetryConnect : DesktopViewModel :=
  match model.state with
  | .error _ =>
    if model.activeMutation.isNone then { model with state := .ready "Основной" "Авто" } else model
  | _ => model

/-! ## Refreshes of the status -/

/-- Begins to read the status. -/
def beginRefresh : Nat × DesktopViewModel :=
  { model with
    awaitingReconnectUntil := none
    profileStatusReloadNeeded :=
      !model.profileStatusReconciliationPending && model.profileStatusReloadNeeded
    }.nextMutation .refresh

/-- Begins to read the status after a disconnect whose answer was lost. -/
def beginDisconnectReconciliation : Nat × DesktopViewModel :=
  model.nextMutation .disconnectReconciliation

/-- The status arrives, or the service cannot be reached. -/
def finishRefresh (token : Nat) (result : Except DaemonError DaemonStatus) : DesktopViewModel :=
  if !model.isCurrentMutation token .refresh then model
  else if model.profileMutationPending then { model with activeMutation := none }
  else
    match result with
    | .ok status =>
      { ({ model with
            profileStatusReconciliationPending := false
            }.applyDaemonStatus status).armProfileCatalogReconciliation with
        activeMutation := none }
    | .error error =>
      { model with
        profileStatusReloadNeeded :=
          model.profileStatusReconciliationPending || model.profileStatusReloadNeeded
        state := .serviceUnreachable error.message
        activeMutation := none }

/-- The status after such a disconnect arrives; whether it was waited for. -/
def finishDisconnectReconciliation (token : Nat) (result : Except DaemonError DaemonStatus) :
    Bool × DesktopViewModel :=
  if !model.isCurrentMutation token .disconnectReconciliation then (false, model)
  else
    (true,
      { match result with
        | .ok status => model.applyDaemonStatus status
        | .error _ =>
          { model with
            state :=
              .daemonDegraded
                "Не удалось подтвердить состояние соединения. Повторите проверку." } with
        activeMutation := none })

/-! ## Imports and refreshes of the subscription -/

/-- Begins an import, if the link is one and nothing stands in its way. -/
def beginImport (url : String) : Option Nat × DesktopViewModel :=
  if model.importPending || model.profileMutationPending || model.profileReconciliationRequired ||
      model.activeSelection.isSome || model.catalogReconciliationRequired ||
      (model.activeMutation.any fun active => active.kind ≠ .refresh) ||
      !validSubscriptionUrl externals url then
    (none, model)
  else
    let (token, model) := { model with
      importPreviousState := some model.state
      importPending := true }.nextMutation .import
    (some token, model)

/-- An import ends: the new profile is active, or only added while connected, or the state before it
comes back. -/
def finishImport (token : Nat) (result : Except DaemonError DaemonStatus) : DesktopViewModel :=
  if !model.isCurrentMutation token .import then model
  else
    let previousState := model.importPreviousState.getD model.state
    let model := { model with importPreviousState := none }
    { match result with
      | .ok status =>
        let model := model.invalidateProfileListRequest.advanceProfileEpoch
        if status.importedProfileId.isSome && status.importedProfileId ≠ status.activeProfileId then
          -- added to the list while connected, the connection stays on the active profile
          { model.applyDaemonStatus status with profileReloadNeeded := true }
        else
          { model with
            subscriptionProfiles := []
            profileReloadNeeded := true
            profileCatalogReloadNeeded := true }.applyProfileChangingStatus status
      | .error error =>
        let model := { model with state := previousState }
        if error.requiresReconciliation then model.requireFullProfileReconciliation else model with
      importPending := false
      activeMutation := none }

/-- Begins to load the subscription again, where it can be. -/
def beginSubscriptionRefresh : Option Nat × DesktopViewModel :=
  if model.activeMutation.isSome || model.importPending || model.profileMutationPending ||
      model.profileReconciliationRequired || model.activeSelection.isSome ||
      model.catalogReconciliationRequired || model.state.isConnecting ||
      model.queuedPrimary.isSome || !model.subscription.any SubscriptionInfo.refreshAvailable then
    (none, model)
  else
    let (token, model) := model.nextMutation .subscriptionRefresh
    (some token, model)

/-- The new subscription arrives; whether it did. -/
def finishSubscriptionRefresh (token : Nat) (result : Except DaemonError DaemonStatus) :
    Bool × DesktopViewModel :=
  if !model.isCurrentMutation token .subscriptionRefresh then (false, model)
  else
    (result.toOption.isSome,
      { match result with
        | .ok status =>
          { model.applyDaemonStatus status with catalogRevision := none, latencyQueued := true }
        | .error error =>
          if error.requiresReconciliation then model.requireFullProfileReconciliation
          else model with
        activeMutation := none })

/-! ## Connects and disconnects -/

/-- A connect ends: the status, or the error. -/
def finishConnect (token : Nat) (result : Except DaemonError DaemonStatus) : DesktopViewModel :=
  if !model.isCurrentMutation token .connect then model
  else
    { match result with
      | .ok status => { model.applyDaemonStatus status with catalogRevision := none }
      | .error error => { model with state := .error error.message } with
      activeMutation := none }

/-- What is shown after a disconnect that failed: the connection stays. -/
def rollback : UiState → UiState
  | .disconnecting profile node => .connected profile node
  | _ => .error "Не удалось отключиться. Повторите попытку."

/-- The first component asks for the status to be read again. -/
def finishDisconnect (token : Nat) (result : Except DaemonError DaemonStatus) :
    Bool × DesktopViewModel :=
  if !model.isCurrentMutation token .disconnect then (false, model)
  else
    match result with
    | .ok status =>
      let model := model.applyDaemonStatus status
      (false,
        { model with
          catalogRevision := none
          latencyQueued := model.coresReady || model.latencyQueued
          activeMutation := none })
    | .error error =>
      if error.requiresReconciliation then
        (true,
          { model with
            state :=
              .daemonDegraded "Не удалось подтвердить завершение соединения. Проверяем состояние…"
            catalogRevision := none
            activeMutation := none })
      else (false, { model with state := rollback model.state, activeMutation := none })

/-! ## Profiles -/

/-- Begins to read the list of profiles. -/
def beginProfileList : Nat × DesktopViewModel :=
  (model.nextProfileListGeneration + 1,
    { model with
      profileReloadNeeded := false
      nextProfileListGeneration := model.nextProfileListGeneration + 1
      profileListRequestPending := some (model.nextProfileListGeneration + 1) })

/-- The list arrives; where it does not, it may be asked for again. -/
def finishProfileList (token : Nat) (result : Except DaemonError DaemonSubscriptionList) :
    DesktopViewModel :=
  if model.profileListRequestPending ≠ some token then model
  else
    let model := { model with profileListRequestPending := none }
    match result with
    | .ok list =>
      { model.replaceProfileList list with
        profileListReconciliationPending := false }.armProfileCatalogReconciliation
    | .error _ =>
      { model with
        profileReloadNeeded := model.profileListReconciliationPending || model.profileReloadNeeded }

/-- What every change of a profile waits for. -/
def profileMutationPreflight (profileId : String) (requiresAvailable allowConnected : Bool) :
    Bool :=
  !(model.state.isConnecting || !allowConnected && model.state.isConnected) &&
    !model.state.isDegraded &&
    !(model.activeProfileMutation.isSome ||
      (model.activeMutation.any fun active => active.kind ≠ .refresh) || model.importPending ||
      model.activeSelection.isSome || model.catalogReconciliationRequired ||
      model.profileReconciliationRequired || model.state.presentation.isBusy) &&
    (model.subscriptionProfiles.find? fun profile => profile.id = profileId).any fun profile =>
      !requiresAvailable || profile.available

/-- The generation of a new change of a profile; a list in flight is superseded. -/
def nextProfileMutation (operation : SubscriptionProfileOperation) (profileId : String) :
    Nat × DesktopViewModel :=
  let token := model.nextProfileMutationGeneration + 1
  (token,
    { model.invalidateProfileListRequest with
      nextProfileMutationGeneration := token
      activeProfileMutation := some ⟨token, operation, some profileId⟩ })

/-- Begins a change of a profile unless it has to wait. -/
def beginProfileMutation (operation : SubscriptionProfileOperation)
    (requiresAvailable allowConnected : Bool) (profileId : String) :
    Option Nat × DesktopViewModel :=
  if !model.profileMutationPreflight profileId requiresAvailable allowConnected then (none, model)
  else
    let (token, model) := model.nextProfileMutation operation profileId
    (some token, model)

/-- Begins to make another profile the active one. -/
def beginProfileActivation (profileId : String) : Option Nat × DesktopViewModel :=
  if model.activeProfileId = some profileId then (none, model)
  else model.beginProfileMutation .activate false model.serviceMode profileId

/-- Begins to load one profile again. -/
def beginProfileTargetRefresh (profileId : String) : Option Nat × DesktopViewModel :=
  model.beginProfileMutation .refresh true true profileId

/-- Begins to give a profile another link. -/
def beginProfileSourceEdit (profileId url : String) : Option Nat × DesktopViewModel :=
  if !validSubscriptionUrl externals url then (none, model)
  else model.beginProfileMutation .edit false false profileId

/-- Begins to delete a profile. -/
def beginProfileDelete (profileId : String) : Option Nat × DesktopViewModel :=
  model.beginProfileMutation .delete false true profileId

/-- An answer is the one that is waited for. -/
def isCurrentProfileMutation (token : Nat) (operation : SubscriptionProfileOperation) : Bool :=
  model.activeProfileMutation.any fun request =>
    request.token = token && request.operation = operation

/-- An answer that nobody waits for any more may still have changed the profiles. -/
def finishSupersededProfileMutation (mayHaveCommitted : Bool) : DesktopViewModel :=
  if mayHaveCommitted then model.requireFullProfileReconciliation else model

/-- After a failed change of a profile. -/
def failProfileMutation (error : DaemonError) : DesktopViewModel :=
  if error.requiresReconciliation then model.requireFullProfileReconciliation else model

/-- Whether a result may stand for a change that the daemon made. -/
def mayHaveCommitted {α : Type} : Except DaemonError α → Bool
  | .ok _ => true
  | .error error => error.requiresReconciliation

/-- The active profile has changed, and all that is shown of it is read again. -/
def finishProfileActivation (token : Nat) (result : Except DaemonError DaemonStatus) :
    DesktopViewModel :=
  if !model.isCurrentProfileMutation token .activate then
    model.finishSupersededProfileMutation (mayHaveCommitted result)
  else
    let model := { model with activeProfileMutation := none }
    match result with
    | .ok status =>
      { model.invalidateProfileListRequest.advanceProfileEpoch.applyProfileChangingStatus
          status with
        profileReloadNeeded := true
        profileCatalogReloadNeeded := true
        profileListReconciliationPending := true
        profileCatalogReconciliationPending := true }
    | .error error => model.failProfileMutation error

/-- The row of a profile as a list has it; the list does not say which profile is active. -/
def updateProfile (profileId : String) (list : DaemonSubscriptionList) : DesktopViewModel :=
  match (list.profiles.find? fun profile => profile.id = profileId).bind
      presentSubscriptionProfile with
  | some profile =>
    { model with
      subscriptionProfiles := updateFirst (fun existing => existing.id = profileId)
        (fun existing => { profile with active := existing.active }) model.subscriptionProfiles }
  | none => model

/-- The end of a refresh or of an edit of one profile. -/
def finishProfileChange (operation : SubscriptionProfileOperation) (token : Nat)
    (result : Except DaemonError DaemonSubscriptionList) : DesktopViewModel :=
  if !model.isCurrentProfileMutation token operation then
    model.finishSupersededProfileMutation (mayHaveCommitted result)
  else
    match model.activeProfileMutation.bind ActiveProfileRequest.profileId with
    | none => { model with activeProfileMutation := none }
    | some profileId =>
      let changesActiveProfile := model.activeProfileId = some profileId
      let model := { model with activeProfileMutation := none }
      match result with
      | .ok list =>
        let model :=
          model.invalidateProfileListRequest.advanceProfileEpoch.updateProfile profileId list
        if changesActiveProfile then
          model.invalidateProfileRuntime.requireProfileReconciliation true true true
        else
          { model with profileReloadNeeded := true, profileListReconciliationPending := true }
      | .error error => model.failProfileMutation error

/-- One profile was loaded again. -/
def finishProfileTargetRefresh (token : Nat)
    (result : Except DaemonError DaemonSubscriptionList) : DesktopViewModel :=
  model.finishProfileChange .refresh token result

/-- One profile was given another link. -/
def finishProfileSourceEdit (token : Nat)
    (result : Except DaemonError DaemonSubscriptionList) : DesktopViewModel :=
  model.finishProfileChange .edit token result

/-- A profile is gone; its neighbour may have become the active one. -/
def finishProfileDelete (token : Nat) (result : Except DaemonError DaemonStatus) :
    DesktopViewModel :=
  if !model.isCurrentProfileMutation token .delete then
    model.finishSupersededProfileMutation (mayHaveCommitted result)
  else
    match model.activeProfileMutation.bind ActiveProfileRequest.profileId with
    | none => { model with activeProfileMutation := none }
    | some profileId =>
      let model := { model with activeProfileMutation := none }
      match result with
      | .ok status =>
        let previousActive := model.activeProfileId
        let model := { model.invalidateProfileListRequest.advanceProfileEpoch with
          subscriptionProfiles :=
            model.subscriptionProfiles.filter fun profile => profile.id ≠ profileId
          }.applyDaemonStatus status
        { model with
          profileCatalogReloadNeeded :=
            model.profileCatalogReloadNeeded || model.activeProfileId ≠ previousActive
          profileCatalogReconciliationPending :=
            model.profileCatalogReconciliationPending || model.activeProfileId ≠ previousActive
          profileReloadNeeded := true
          profileListReconciliationPending := true }
      | .error error => model.failProfileMutation error

/-- The list is to be read when it can be. -/
def deferProfileListReload : DesktopViewModel := { model with profileReloadNeeded := true }

/-- The catalog is to be read when it can be. -/
def deferProfileCatalogReload : DesktopViewModel :=
  { model with profileCatalogReloadNeeded := true }

/-! ## The connection watch -/

/-- So long the connection watch follows a reconnect of the daemon's own. -/
def autoReconnectWatch : Nat := 90000

/-- So long the notice of a reconnect is shown. -/
def reconnectedNoticeTime : Nat := 60000

/-- The daemon is still reconnecting by itself. -/
def awaitsReconnect (now : Nat) : Bool := model.awaitingReconnectUntil.any (now < ·)

/-- Drops the notice and the wait whose times have passed. -/
def expireNotices (now : Nat) : DesktopViewModel :=
  { model with
    reconnectedNotice := model.reconnectedNotice.filter fun notice => now < notice.2
    awaitingReconnectUntil := model.awaitingReconnectUntil.filter (now < ·) }

/-- One poll of the connection watch: only changes of the connection itself are applied, and never
over an action of the user that is in progress. -/
def noteConnectionStatus (result : Except DaemonError DaemonStatus) (now : Nat) :
    Bool × DesktopViewModel :=
  match result with
  | .error _ => (false, model)
  | .ok status =>
    if model.primaryActionHeld || model.queuedPrimary.isSome then (false, model)
    else
      let changed := model.reconnectedNotice.any fun notice => notice.2 ≤ now
      let awaiting := model.awaitsReconnect now
      let model := model.expireNotices now
      let connectedHere := model.state.isConnected
      let connectedThere := decide (status.state = "connected")
      let code := status.messageKey.elim "" MessageKey.code
      if (connectedHere && connectedThere) || (!connectedHere && !awaiting) ||
          (!connectedHere && !connectedThere && code = autoReconnectCode) then
        (changed, model)
      else
        let notice := (status.messageKey.bind MessageKey.localized).or status.message
        let model := { model.applyDaemonStatus status with catalogRevision := none }
        (true,
          if connectedThere then
            { model with
              awaitingReconnectUntil := none
              reconnectedNotice := some
                (notice.getD "Подключение восстановлено автоматически.",
                  now + reconnectedNoticeTime) }
          else
            { model with
              reconnectedNotice := none
              awaitingReconnectUntil :=
                if code = autoReconnectCode then some (now + autoReconnectWatch) else none })

end DesktopViewModel

end MultiCore.Desktop
