import MultiCore.Desktop.Session

/-!
# The bookkeeping of the measurements

Of the model only a few fields say which measurements are awaited. Whatever is not a
measurement leaves them as they are or forgets all of them together.
-/

namespace MultiCore.Desktop

/-- What the model knows of the measurements it awaits. -/
structure Measurements where
  nextSweep : Nat
  sweep : Option Nat
  sweepRevision : Option Nat
  nextNode : Nat
  waiting : String → Option Nat
  fresh : List String
  priority : Option Nat

/-- The measurements of the model. -/
def DesktopViewModel.measurements (model : DesktopViewModel) : Measurements where
  nextSweep := model.nextLatencyGeneration
  sweep := model.latencyRequestPending
  sweepRevision := model.latencyRequestRevision
  nextNode := model.nextNodeLatencyGeneration
  waiting := model.nodeLatencyPending
  fresh := model.latencySweepFresh
  priority := model.latencySweepPriority

namespace Measurements

/-- Nothing is awaited any more. The tokens of sweeps given so far stay used. -/
def forgotten (m : Measurements) (next : Nat) : Measurements :=
  ⟨next, none, none, m.nextNode, fun _ => none, [], none⟩

/-- The measurements stay, or are all forgotten. -/
inductive Carried (m : Measurements) : Measurements → Prop
  | same : Carried m m
  | forgotten {next : Nat} (h : m.nextSweep ≤ next) : Carried m (m.forgotten next)

variable {m m' m'' : Measurements}

/-- Measurements that are the same are carried. -/
theorem Carried.of_eq (h : m' = m) : Carried m m' := h ▸ Carried.same

/-- What is carried twice is carried. -/
theorem Carried.trans (h : Carried m m') (h' : Carried m' m'') : Carried m m'' := by
  cases h' with
  | same => exact h
  | forgotten hnext =>
    cases h with
    | same => exact Carried.forgotten hnext
    | forgotten hbefore => exact Carried.forgotten (hbefore.trans hnext)

end Measurements

open Measurements (Carried)

namespace DesktopViewModel

variable (externals : Externals) (model : DesktopViewModel)

/-! ## The catalog and the choices of its routes -/

@[simp] theorem measurements_pinDumbModeGroup :
    model.pinDumbModeGroup.measurements = model.measurements := by
  rw [pinDumbModeGroup]
  split
  · split_ifs <;> rfl
  · rfl

@[simp] theorem measurements_armProfileCatalogReconciliation :
    model.armProfileCatalogReconciliation.measurements = model.measurements := by
  rw [armProfileCatalogReconciliation]
  split_ifs <;> rfl

@[simp] theorem measurements_requireProfileReconciliation (status list catalog : Bool) :
    (model.requireProfileReconciliation status list catalog).measurements =
      model.measurements := by
  rw [requireProfileReconciliation, measurements_armProfileCatalogReconciliation]
  rfl

@[simp] theorem measurements_showSelected (groupId nodeId : String) :
    (model.showSelected groupId nodeId).measurements = model.measurements := by
  rw [showSelected]
  split
  · rfl
  · split <;> rfl

/-- A loop whose steps leave the measurements leaves them. -/
theorem measurements_foldl {α : Type*} {f : DesktopViewModel → α → DesktopViewModel}
    (h : ∀ model a, (f model a).measurements = model.measurements) (l : List α) :
    (l.foldl f model).measurements = model.measurements := by
  induction l generalizing model with
  | nil => rfl
  | cons a l ih => rw [List.foldl_cons, ih, h]

@[simp] theorem measurements_applyRestoredRoutePreferences :
    (model.applyRestoredRoutePreferences externals).measurements = model.measurements := by
  rw [applyRestoredRoutePreferences]
  split_ifs
  · rfl
  · dsimp only
    split_ifs <;> rfl

@[simp] theorem measurements_replaceCatalog (catalog : DaemonCatalog) :
    (model.replaceCatalog externals catalog).measurements = model.measurements := by
  rw [replaceCatalog, showQueuedSelections,
    measurements_foldl _ fun model _ => model.measurements_showSelected _ _,
    measurements_pinDumbModeGroup, measurements_applyRestoredRoutePreferences]
  rfl

@[simp] theorem measurements_syncConnectedRouteFromCatalog :
    model.syncConnectedRouteFromCatalog.measurements = model.measurements := by
  rw [syncConnectedRouteFromCatalog]
  split <;> rfl

@[simp] theorem measurements_selectCatalogGroup (id : String) :
    (model.selectCatalogGroup id).2.measurements = model.measurements := by
  rw [selectCatalogGroup]
  split_ifs <;> rfl

@[simp] theorem measurements_beginCatalogRequest :
    model.beginCatalogRequest.2.measurements = model.measurements := by
  rw [beginCatalogRequest]
  split_ifs <;> rfl

@[simp] theorem measurements_finishCatalog (token : Nat)
    (result : Except DaemonError DaemonCatalog) :
    (model.finishCatalog externals token result).measurements = model.measurements := by
  unfold finishCatalog
  split_ifs
  · rfl
  · cases result with
    | ok catalog =>
      have hreplaced :=
        measurements_replaceCatalog externals { model with catalogRequestPending := none } catalog
      dsimp only
      split_ifs
      · exact (measurements_syncConnectedRouteFromCatalog _).trans hreplaced
      · exact hreplaced
    | error error => rfl

@[simp] theorem measurements_beginNodeSelection (nodeId : String) :
    (model.beginNodeSelection nodeId).2.measurements = model.measurements := by
  rw [beginNodeSelection]
  split_ifs
  · rfl
  · split
    · rfl
    · exact model.measurements_showSelected _ _
  · split
    · rfl
    · exact model.measurements_showSelected _ _

@[simp] theorem measurements_finishNodeSelection (token : Nat)
    (result : Except DaemonError DaemonCatalog) :
    (model.finishNodeSelection externals token result).2.measurements = model.measurements := by
  rw [finishNodeSelection]
  split
  · rfl
  · split_ifs
    · rfl
    · cases result with
      | ok catalog =>
        exact measurements_replaceCatalog externals { model with activeSelection := none } catalog
      | error error => rfl

@[simp] theorem measurements_finishQueuedNodeSelections (queued : List QueuedNodeSelection)
    (results : List (Except DaemonError DaemonCatalog)) :
    (model.finishQueuedNodeSelections externals queued results).2.measurements =
      model.measurements := by
  rw [finishQueuedNodeSelections]
  have happlied {apply : DesktopViewModel → Except DaemonError DaemonCatalog → DesktopViewModel}
      (hok : ∀ model catalog, apply model (.ok catalog) =
        (model.replaceCatalog externals catalog).syncConnectedRouteFromCatalog)
      (herror : ∀ model error, apply model (.error error) = model) :
      (results.foldl apply { model with queuedSelections := [] }).measurements =
        model.measurements := by
    refine measurements_foldl { model with queuedSelections := [] } (fun model result => ?_) results
    cases result with
    | ok catalog =>
      rw [hok]
      exact (measurements_syncConnectedRouteFromCatalog _).trans (measurements_replaceCatalog _ _ _)
    | error error => rw [herror]
  split_ifs
  · rfl
  · exact happlied (fun _ _ => rfl) fun _ _ => rfl
  · exact happlied (fun _ _ => rfl) fun _ _ => rfl

/-! ## Statuses and profiles -/

theorem carried_invalidateProfileRuntime :
    Carried model.measurements model.invalidateProfileRuntime.measurements :=
  Carried.forgotten (Nat.le_succ model.nextLatencyGeneration)

theorem carried_setAuthoritativeActiveProfile (profileId : Option String) :
    Carried model.measurements
      (model.setAuthoritativeActiveProfile profileId).measurements := by
  rw [setAuthoritativeActiveProfile]
  split_ifs
  · exact Carried.same
  · rw [measurements_armProfileCatalogReconciliation]
    exact model.carried_invalidateProfileRuntime

theorem carried_applyDaemonStatus (status : DaemonStatus) :
    Carried model.measurements (model.applyDaemonStatus status).measurements := by
  have happlied : (model.applyDaemonStatus status).measurements =
      (model.setAuthoritativeActiveProfile status.activeProfileId).measurements :=
    measurements_pinDumbModeGroup _
  rw [happlied]
  exact model.carried_setAuthoritativeActiveProfile _

theorem carried_applyProfileChangingStatus (status : DaemonStatus) :
    Carried model.measurements (model.applyProfileChangingStatus status).measurements := by
  have happlied : (model.applyProfileChangingStatus status).measurements =
      model.invalidateProfileRuntime.measurements := measurements_pinDumbModeGroup _
  rw [happlied]
  exact model.carried_invalidateProfileRuntime

theorem carried_requireFullProfileReconciliation :
    Carried model.measurements model.requireFullProfileReconciliation.measurements := by
  rw [requireFullProfileReconciliation, measurements_requireProfileReconciliation]
  exact model.carried_invalidateProfileRuntime

theorem carried_replaceProfileList (list : DaemonSubscriptionList) :
    Carried model.measurements (model.replaceProfileList list).measurements :=
  model.carried_setAuthoritativeActiveProfile _

@[simp] theorem measurements_nextMutation (kind : MutationKind) :
    (model.nextMutation kind).2.measurements = model.measurements := by
  rw [nextMutation]
  dsimp only
  split_ifs <;> rfl

@[simp] theorem measurements_queuePrimaryAction (now : Nat) :
    (model.queuePrimaryAction now).2.measurements = model.measurements := by
  rw [queuePrimaryAction]
  split_ifs
  · rfl
  · dsimp only
    split_ifs <;> rfl

@[simp] theorem measurements_beginPrimaryAction :
    model.beginPrimaryAction.2.measurements = model.measurements := by
  rw [beginPrimaryAction]
  split_ifs
  · rfl
  · dsimp only
    split
    · rfl
    · exact model.measurements_nextMutation _

@[simp] theorem measurements_beginQueuedPrimaryAction (now : Nat) :
    (model.beginQueuedPrimaryAction now).2.measurements = model.measurements := by
  rw [beginQueuedPrimaryAction]
  split
  · rfl
  · split_ifs
    · rfl
    · rfl
    · dsimp only
      split_ifs
      · rfl
      · exact measurements_beginPrimaryAction { model with queuedPrimary := none }

@[simp] theorem measurements_prepareRetryConnect :
    model.prepareRetryConnect.measurements = model.measurements := by
  rw [prepareRetryConnect]
  split
  · split_ifs <;> rfl
  · rfl

@[simp] theorem measurements_beginRefresh :
    model.beginRefresh.2.measurements = model.measurements :=
  measurements_nextMutation _ _

@[simp] theorem measurements_beginImport (url : String) :
    (model.beginImport externals url).2.measurements = model.measurements := by
  rw [beginImport]
  split_ifs
  · rfl
  · exact measurements_nextMutation _ _

@[simp] theorem measurements_beginSubscriptionRefresh :
    model.beginSubscriptionRefresh.2.measurements = model.measurements := by
  rw [beginSubscriptionRefresh]
  split_ifs
  · rfl
  · exact measurements_nextMutation _ _

theorem carried_finishRefresh (token : Nat) (result : Except DaemonError DaemonStatus) :
    Carried model.measurements (model.finishRefresh token result).measurements := by
  unfold finishRefresh
  split_ifs
  · exact Carried.same
  · exact Carried.same
  · cases result with
    | ok status =>
      let read := { model with profileStatusReconciliationPending := false }
      have harmed := (read.applyDaemonStatus status).measurements_armProfileCatalogReconciliation
      exact (read.carried_applyDaemonStatus status).trans (Carried.of_eq harmed)
    | error error => exact Carried.same

theorem carried_finishDisconnectReconciliation (token : Nat)
    (result : Except DaemonError DaemonStatus) :
    Carried model.measurements
      (model.finishDisconnectReconciliation token result).2.measurements := by
  unfold finishDisconnectReconciliation
  split_ifs
  · exact Carried.same
  · cases result with
    | ok status => exact model.carried_applyDaemonStatus status
    | error error => exact Carried.same

theorem carried_finishImport (token : Nat) (result : Except DaemonError DaemonStatus) :
    Carried model.measurements (model.finishImport token result).measurements := by
  unfold finishImport
  split_ifs
  · exact Carried.same
  · cases result with
    | ok status =>
      dsimp only
      split_ifs
      · let before := { model with importPreviousState := none }
        exact before.invalidateProfileListRequest.advanceProfileEpoch.carried_applyDaemonStatus
          status
      · exact model.carried_applyProfileChangingStatus status
    | error error =>
      let before := { model with
        importPreviousState := none
        state := model.importPreviousState.getD model.state }
      dsimp only
      split_ifs
      · exact before.carried_requireFullProfileReconciliation
      · exact Carried.same

theorem carried_finishSubscriptionRefresh (token : Nat)
    (result : Except DaemonError DaemonStatus) :
    Carried model.measurements (model.finishSubscriptionRefresh token result).2.measurements := by
  unfold finishSubscriptionRefresh
  split_ifs
  · exact Carried.same
  · cases result with
    | ok status => exact model.carried_applyDaemonStatus status
    | error error =>
      dsimp only
      split_ifs
      · exact model.carried_requireFullProfileReconciliation
      · exact Carried.same

theorem carried_finishConnect (token : Nat) (result : Except DaemonError DaemonStatus) :
    Carried model.measurements (model.finishConnect token result).measurements := by
  unfold finishConnect
  split_ifs
  · exact Carried.same
  · cases result with
    | ok status => exact model.carried_applyDaemonStatus status
    | error error => exact Carried.same

theorem carried_finishDisconnect (token : Nat) (result : Except DaemonError DaemonStatus) :
    Carried model.measurements (model.finishDisconnect token result).2.measurements := by
  unfold finishDisconnect
  split_ifs
  · exact Carried.same
  · cases result with
    | ok status => exact model.carried_applyDaemonStatus status
    | error error =>
      dsimp only
      split_ifs <;> exact Carried.same

theorem carried_finishMutation (kind : MutationKind) (token : Nat)
    (result : Except DaemonError DaemonStatus) :
    Carried model.measurements (model.finishMutation kind token result).measurements := by
  cases kind with
  | refresh => exact model.carried_finishRefresh token result
  | «import» => exact model.carried_finishImport token result
  | connect => exact model.carried_finishConnect token result
  | disconnect => exact model.carried_finishDisconnect token result
  | disconnectReconciliation => exact model.carried_finishDisconnectReconciliation token result
  | subscriptionRefresh => exact model.carried_finishSubscriptionRefresh token result

theorem carried_finishProfileList (token : Nat)
    (result : Except DaemonError DaemonSubscriptionList) :
    Carried model.measurements (model.finishProfileList token result).measurements := by
  unfold finishProfileList
  split_ifs
  · exact Carried.same
  · cases result with
    | ok list =>
      have hread := carried_replaceProfileList { model with profileListRequestPending := none } list
      exact hread.trans (Carried.of_eq (measurements_armProfileCatalogReconciliation _))
    | error error => exact Carried.same

@[simp] theorem measurements_beginProfileMutation (operation : SubscriptionProfileOperation)
    (requiresAvailable allowConnected : Bool) (profileId : String) :
    (model.beginProfileMutation operation requiresAvailable allowConnected
      profileId).2.measurements = model.measurements := by
  rw [beginProfileMutation]
  split_ifs <;> rfl

@[simp] theorem measurements_beginProfileActivation (profileId : String) :
    (model.beginProfileActivation profileId).2.measurements = model.measurements := by
  rw [beginProfileActivation]
  split_ifs
  · rfl
  · exact model.measurements_beginProfileMutation _ _ _ _

@[simp] theorem measurements_beginProfileSourceEdit (profileId url : String) :
    (model.beginProfileSourceEdit externals profileId url).2.measurements =
      model.measurements := by
  rw [beginProfileSourceEdit]
  split_ifs
  · rfl
  · exact model.measurements_beginProfileMutation _ _ _ _

theorem carried_finishSupersededProfileMutation (mayHaveCommitted : Bool) :
    Carried model.measurements
      (model.finishSupersededProfileMutation mayHaveCommitted).measurements := by
  rw [finishSupersededProfileMutation]
  split_ifs
  · exact model.carried_requireFullProfileReconciliation
  · exact Carried.same

theorem carried_failProfileMutation (error : DaemonError) :
    Carried model.measurements (model.failProfileMutation error).measurements := by
  rw [failProfileMutation]
  split_ifs
  · exact model.carried_requireFullProfileReconciliation
  · exact Carried.same

theorem carried_finishProfileActivation (token : Nat)
    (result : Except DaemonError DaemonStatus) :
    Carried model.measurements (model.finishProfileActivation token result).measurements := by
  unfold finishProfileActivation
  split_ifs
  · exact model.carried_finishSupersededProfileMutation _
  · cases result with
    | ok status => exact model.carried_applyProfileChangingStatus status
    | error error =>
      exact carried_failProfileMutation { model with activeProfileMutation := none } error

@[simp] theorem measurements_updateProfile (profileId : String) (list : DaemonSubscriptionList) :
    (model.updateProfile profileId list).measurements = model.measurements := by
  rw [updateProfile]
  split <;> rfl

theorem carried_finishProfileChange (operation : SubscriptionProfileOperation) (token : Nat)
    (result : Except DaemonError DaemonSubscriptionList) :
    Carried model.measurements
      (model.finishProfileChange operation token result).measurements := by
  unfold finishProfileChange
  split_ifs
  · exact model.carried_finishSupersededProfileMutation _
  · split
    · exact Carried.same
    · next profileId _ =>
      cases result with
      | ok list =>
        have hupdated := measurements_updateProfile
          { model with activeProfileMutation := none
            }.invalidateProfileListRequest.advanceProfileEpoch profileId list
        dsimp only
        split_ifs
        · rw [measurements_requireProfileReconciliation]
          exact (Carried.of_eq hupdated).trans (carried_invalidateProfileRuntime _)
        · exact Carried.of_eq hupdated
      | error error =>
        exact carried_failProfileMutation { model with activeProfileMutation := none } error

theorem carried_finishProfileDelete (token : Nat) (result : Except DaemonError DaemonStatus) :
    Carried model.measurements (model.finishProfileDelete token result).measurements := by
  unfold finishProfileDelete
  split_ifs
  · exact model.carried_finishSupersededProfileMutation _
  · split
    · exact Carried.same
    · next profileId _ =>
      cases result with
      | ok status =>
        let rest := { model with
          activeProfileMutation := none
          subscriptionProfiles :=
            model.subscriptionProfiles.filter fun profile => profile.id ≠ profileId }
        exact rest.invalidateProfileListRequest.advanceProfileEpoch.carried_applyDaemonStatus status
      | error error =>
        exact carried_failProfileMutation { model with activeProfileMutation := none } error

theorem carried_noteConnectionStatus (result : Except DaemonError DaemonStatus) (now : Nat) :
    Carried model.measurements (model.noteConnectionStatus result now).2.measurements := by
  cases result with
  | error error => exact Carried.same
  | ok status =>
    unfold noteConnectionStatus
    dsimp only
    have happlied := (model.expireNotices now).carried_applyDaemonStatus status
    split_ifs
    · exact Carried.same
    · exact Carried.same
    · exact happlied
    · exact happlied
    · exact happlied

/-! ## Measurements -/

/-- A request measures routes that nothing measures on its own yet. -/
theorem beginNodesLatencyRequest_cases (nodeIds : List String) :
    model.beginNodesLatencyRequest nodeIds = (none, model) ∨
      ∃ request : NodeLatencyRequest,
        request.token = model.nextNodeLatencyGeneration + 1 ∧
        model.beginNodesLatencyRequest nodeIds =
          (some request, { model with
            nextNodeLatencyGeneration := request.token
            nodeLatencyPending := fun nodeId =>
              if nodeId ∈ request.nodeIds then some request.token
              else model.nodeLatencyPending nodeId }) := by
  rw [beginNodesLatencyRequest]
  split
  · exact Or.inl rfl
  · next revision _ =>
    dsimp only
    split_ifs
    · exact Or.inl rfl
    · exact Or.inl rfl
    · exact Or.inr ⟨⟨_, revision, model.wantedNodes nodeIds⟩, rfl, rfl⟩

/-- A sweep is refused, or begun with a new token and, perhaps, a request of its own. -/
theorem beginLatencyRequestFor_cases (allGroups : Bool) :
    (model.beginLatencyRequestFor allGroups).1 = none ∧
        (model.beginLatencyRequestFor allGroups).2.measurements = model.measurements ∨
      ∃ sweep : LatencyRequest,
        (model.beginLatencyRequestFor allGroups).1 = some sweep ∧
        sweep.token = model.nextLatencyGeneration + 1 ∧
        (∀ request ∈ sweep.priority, request.token = model.nextNodeLatencyGeneration + 1) ∧
        (model.beginLatencyRequestFor allGroups).2.measurements =
          { nextSweep := sweep.token
            sweep := some sweep.token
            sweepRevision := sweep.catalogRevision
            nextNode := sweep.priority.elim model.nextNodeLatencyGeneration NodeLatencyRequest.token
            waiting := fun nodeId =>
              sweep.priority.elim (model.nodeLatencyPending nodeId) fun request =>
                if nodeId ∈ request.nodeIds then some request.token
                else model.nodeLatencyPending nodeId
            fresh := []
            priority := sweep.priority.map NodeLatencyRequest.token } := by
  rw [beginLatencyRequestFor]
  split_ifs
  · exact Or.inl ⟨rfl, rfl⟩
  · split
    · exact Or.inl ⟨rfl, rfl⟩
    · next viewed _ =>
      right
      dsimp only
      generalize hgroups : model.sweptGroupIds allGroups viewed = groupIds
      rcases beginNodesLatencyRequest_cases { model with
        nextLatencyGeneration := model.nextLatencyGeneration + 1
        latencyRequestPending := some (model.nextLatencyGeneration + 1)
        latencyRequestRevision := model.catalogRevision
        latencyRequestGroupIds := groupIds
        latencySweepFresh := []
        latencyQueued := false } (model.selectedNodeIds groupIds) with
        hnone | ⟨request, htoken, hsome⟩
      · rw [hnone]
        exact ⟨_, rfl, rfl, fun _ h => (nomatch h), rfl⟩
      · rw [hsome]
        refine ⟨_, rfl, rfl, fun other hother => ?_, rfl⟩
        rw [← Option.some.inj hother]
        exact htoken

/-- The routes whose rows an answer gives a value, one for each of its entries. -/
def shownNodes (request : NodeLatencyRequest)
    (result : Except DaemonError (List DaemonLatencyEntry)) : List String :=
  match result with
  | .ok entries =>
    if model.catalogRevision = some request.catalogRevision then
      (entries.filter fun entry =>
        entry.nodeId ∈ model.ownedNodes request.token request.nodeIds).map DaemonLatencyEntry.nodeId
    else []
  | .error _ => []

/-- Shown latencies are fresh, and nothing else changes. -/
theorem measurements_foldl_showNodeLatency (entries : List DaemonLatencyEntry) :
    (entries.foldl showNodeLatency model).measurements =
      { model.measurements with
        fresh :=
          if model.latencyRequestPending.isSome then
            (entries.map DaemonLatencyEntry.nodeId).reverse ++ model.latencySweepFresh
          else model.latencySweepFresh } := by
  induction entries generalizing model with
  | nil => simp [measurements]
  | cons entry entries ih =>
    rw [List.foldl_cons, ih]
    by_cases hrunning : model.latencyRequestPending.isSome
    · simp [showNodeLatency, measurements, hrunning]
    · simp [showNodeLatency, measurements, hrunning]

/-- The rows of an answered request wait no more, and what it showed is fresh for a sweep. -/
theorem measurements_finishNodeLatency (request : NodeLatencyRequest)
    (result : Except DaemonError (List DaemonLatencyEntry)) :
    (model.finishNodeLatency request.catalogRevision request.nodeIds request.token
        result).2.measurements =
      { model.measurements with
        waiting := fun nodeId =>
          if nodeId ∈ model.ownedNodes request.token request.nodeIds then none
          else model.nodeLatencyPending nodeId
        fresh :=
          if model.latencyRequestPending.isSome then
            (model.shownNodes request result).reverse ++ model.latencySweepFresh
          else model.latencySweepFresh } := by
  unfold finishNodeLatency
  dsimp only
  by_cases hempty : (model.ownedNodes request.token request.nodeIds).isEmpty = true
  · rw [if_pos hempty]
    rw [List.isEmpty_iff] at hempty
    have hshown : model.shownNodes request result = [] := by
      cases result with
      | ok entries => simp [shownNodes, hempty]
      | error error => rfl
    rw [hempty, hshown]
    simp [measurements]
  rw [if_neg hempty]
  by_cases hother : model.catalogRevision ≠ some request.catalogRevision
  · rw [if_pos hother]
    have hshown : model.shownNodes request result = [] := by
      cases result with
      | ok entries => exact if_neg hother
      | error error => rfl
    rw [hshown]
    simp [measurements]
  · rw [if_neg hother]
    cases result with
    | ok entries =>
      have hshown : model.shownNodes request (.ok entries) = (entries.filter fun entry =>
          entry.nodeId ∈ model.ownedNodes request.token request.nodeIds).map
            DaemonLatencyEntry.nodeId := if_pos (not_not.mp hother)
      rw [hshown]
      exact measurements_foldl_showNodeLatency _ _
    | error error =>
      dsimp only
      by_cases hstale : error.isStaleRevision
      · rw [if_pos hstale]
        simp [measurements, shownNodes]
      · rw [if_neg hstale]
        simp [measurements, shownNodes]

/-- An entry only ends waits. -/
theorem waiting_settleEntry (targeted fresh : List String) (priority : Option Nat)
    (entry : DaemonLatencyEntry) :
    ∃ waiting,
      (∀ nodeId, waiting nodeId = none ∨ waiting nodeId = model.nodeLatencyPending nodeId) ∧
      (settleEntry targeted fresh priority model entry).measurements =
        { model.measurements with waiting } := by
  rw [settleEntry]
  split_ifs
  · exact ⟨_, fun _ => Or.inr rfl, rfl⟩
  · split
    · exact ⟨_, fun _ => Or.inr rfl, rfl⟩
    · split_ifs
      · refine ⟨fun nodeId =>
          if nodeId = entry.nodeId then none else model.nodeLatencyPending nodeId,
          fun nodeId => ?_, rfl⟩
        dsimp only
        split_ifs
        · exact Or.inl rfl
        · exact Or.inr rfl
      · exact ⟨_, fun _ => Or.inr rfl, rfl⟩

/-- So do all entries of an answer. -/
theorem waiting_foldl_settleEntry (targeted fresh : List String) (priority : Option Nat)
    (entries : List DaemonLatencyEntry) :
    ∃ waiting,
      (∀ nodeId, waiting nodeId = none ∨ waiting nodeId = model.nodeLatencyPending nodeId) ∧
      (entries.foldl (settleEntry targeted fresh priority) model).measurements =
        { model.measurements with waiting } := by
  induction entries generalizing model with
  | nil => exact ⟨_, fun _ => Or.inr rfl, rfl⟩
  | cons entry entries ih =>
    obtain ⟨first, hfirst, heq⟩ := model.waiting_settleEntry targeted fresh priority entry
    obtain ⟨rest, hrest, hall⟩ := ih (settleEntry targeted fresh priority model entry)
    refine ⟨rest, fun nodeId => ?_, ?_⟩
    · have hsettled : (settleEntry targeted fresh priority model entry).nodeLatencyPending nodeId =
          first nodeId := congrFun (congrArg Measurements.waiting heq) nodeId
      rcases hrest nodeId with hnone | hsame
      · exact Or.inl hnone
      · rw [hsame, hsettled]
        exact hfirst nodeId
    · rw [List.foldl_cons, hall, heq]

/-- The answer of the awaited sweep ends the sweep; rows may stop waiting, and none begins to. -/
theorem measurements_finishLatencies {token : Nat}
    (result : Except DaemonError (List DaemonLatencyEntry))
    (hawaited : model.latencyRequestPending = some token) :
    ∃ waiting,
      (∀ nodeId, waiting nodeId = none ∨ waiting nodeId = model.nodeLatencyPending nodeId) ∧
      (model.finishLatencies token result).2.measurements =
        ⟨model.nextLatencyGeneration, none, none, model.nextNodeLatencyGeneration, waiting, [],
          none⟩ := by
  unfold finishLatencies
  rw [if_neg (not_not.mpr hawaited)]
  dsimp only
  split_ifs
  · refine ⟨fun nodeId => (model.nodeLatencyPending nodeId).filter fun token =>
      some token ≠ model.latencySweepPriority, fun nodeId => ?_, rfl⟩
    dsimp only
    rcases model.nodeLatencyPending nodeId with _ | other
    · exact Or.inl rfl
    · by_cases hother : some other = model.latencySweepPriority
      · exact Or.inl (by simp [← hother])
      · exact Or.inr (by simp [hother])
  · cases result with
    | ok entries =>
      exact waiting_foldl_settleEntry { model with
        latencyRequestPending := none
        latencyRequestGroupIds := []
        latencySweepFresh := []
        latencySweepPriority := none
        latencyRequestRevision := none } _ _ _ entries
    | error error =>
      dsimp only
      split_ifs
      · exact ⟨_, fun _ => Or.inr rfl, rfl⟩
      · exact ⟨_, fun _ => Or.inr rfl, rfl⟩

/-- The answer of a sweep that is not awaited changes nothing. -/
theorem finishLatencies_superseded {token : Nat}
    (result : Except DaemonError (List DaemonLatencyEntry))
    (hother : model.latencyRequestPending ≠ some token) :
    model.finishLatencies token result = (none, model) := by
  unfold finishLatencies
  exact if_pos hother

end DesktopViewModel

end MultiCore.Desktop
