import MultiCore.Desktop.Session

/-!
# What holds the power switch

The switch waits for background work. Of the model only a few fields say what it waits
for, and every operation changes them in one of a few ways.
-/

namespace MultiCore.Desktop

/-- What the switch waits for, of all that the model knows. -/
structure Hold where
  mutation : Option ActiveMutation
  importing : Bool
  profile : Option ActiveProfileRequest
  epoch : Nat
  statusPending : Bool
  listPending : Bool
  catalogPending : Bool
  statusReload : Bool
  listReload : Bool
  catalogReload : Bool
  listRequest : Option Nat
  catalogRequest : Option Nat
  selection : Option Nat
  catalogRequired : Bool
  deriving DecidableEq, Repr

def DesktopViewModel.hold (model : DesktopViewModel) : Hold where
  mutation := model.activeMutation
  importing := model.importPending
  profile := model.activeProfileMutation
  epoch := model.profileEpoch
  statusPending := model.profileStatusReconciliationPending
  listPending := model.profileListReconciliationPending
  catalogPending := model.profileCatalogReconciliationPending
  statusReload := model.profileStatusReloadNeeded
  listReload := model.profileReloadNeeded
  catalogReload := model.profileCatalogReloadNeeded
  listRequest := model.profileListRequestPending
  catalogRequest := model.catalogRequestPending
  selection := model.activeSelection.map ActiveSelection.token
  catalogRequired := model.catalogReconciliationRequired

namespace Hold

/-- The catalog and the choices of its routes are forgotten. -/
def invalidate (hold : Hold) : Hold :=
  { hold with catalogRequest := none, selection := none, catalogRequired := false }

/-- A catalog that only itself is waited for is asked for. -/
def arm (hold : Hold) : Hold :=
  { hold with
    catalogReload :=
      hold.catalogReload || (hold.catalogPending && !hold.statusPending && !hold.listPending) }

def advance (hold : Hold) : Hold :=
  { hold with
    listRequest := none
    epoch := hold.epoch + 1
    mutation :=
      if hold.mutation.any fun active => active.kind = .refresh then none else hold.mutation }

/-- Everything is to be read again. -/
def reconcile (hold : Hold) : Hold :=
  { hold.invalidate with
    statusPending := true
    listPending := true
    catalogPending := true
    statusReload := true
    listReload := true
    catalogReload := true }

/-- After the list is read, it is all one whether the catalog was forgotten before. -/
theorem arm_listRead (hold : Hold) :
    { hold.invalidate.arm with listPending := false }.arm =
      { hold with listPending := false }.arm.invalidate.arm := by
  simp only [arm, invalidate, mk.injEq, true_and, and_true]
  cases hold.listPending <;> simp

/-- The profiles are to be reconciled. -/
def reconciling (hold : Hold) : Bool :=
  hold.statusPending || hold.listPending || hold.catalogPending

end Hold

/-! ## The operations -/

namespace DesktopViewModel

variable (externals : Externals) (model : DesktopViewModel)

@[simp] theorem hold_armProfileCatalogReconciliation :
    model.armProfileCatalogReconciliation.hold = model.hold.arm := by
  rw [armProfileCatalogReconciliation]
  split_ifs with harm
  · simp only [hold, Hold.arm, harm, Bool.or_true]
  · rw [Bool.not_eq_true] at harm
    simp only [hold, Hold.arm, harm, Bool.or_false]

@[simp] theorem hold_pinDumbModeGroup : model.pinDumbModeGroup.hold = model.hold := by
  rw [pinDumbModeGroup]
  split
  · split_ifs <;> rfl
  · rfl

theorem hold_requireProfileReconciliation :
    (model.requireProfileReconciliation true true true).hold =
      { model.hold with
        statusPending := true
        listPending := true
        catalogPending := true
        statusReload := true
        listReload := true
        catalogReload := true } := by
  rw [requireProfileReconciliation, hold_armProfileCatalogReconciliation]
  simp [hold, Hold.arm]

/-- A different active profile forgets the catalog of the one before. -/
theorem hold_setAuthoritativeActiveProfile (profileId : Option String) :
    (model.setAuthoritativeActiveProfile profileId).hold = model.hold ∨
      (model.setAuthoritativeActiveProfile profileId).hold = model.hold.invalidate.arm := by
  rw [setAuthoritativeActiveProfile]
  split_ifs
  · exact Or.inl rfl
  · right
    rw [hold_armProfileCatalogReconciliation]
    rfl

theorem hold_applyDaemonStatus (status : DaemonStatus) :
    (model.applyDaemonStatus status).hold = model.hold ∨
      (model.applyDaemonStatus status).hold = model.hold.invalidate.arm := by
  have happlied : (model.applyDaemonStatus status).hold =
      (model.setAuthoritativeActiveProfile status.activeProfileId).hold :=
    hold_pinDumbModeGroup _
  rw [happlied]
  exact model.hold_setAuthoritativeActiveProfile _

theorem hold_applyProfileChangingStatus (status : DaemonStatus) :
    (model.applyProfileChangingStatus status).hold = model.hold.invalidate :=
  hold_pinDumbModeGroup _

theorem hold_requireFullProfileReconciliation :
    model.requireFullProfileReconciliation.hold =
      { model.hold with profile := none }.advance.reconcile := by
  rw [requireFullProfileReconciliation, hold_requireProfileReconciliation]
  rfl

theorem hold_replaceProfileList (list : DaemonSubscriptionList) :
    (model.replaceProfileList list).hold = model.hold ∨
      (model.replaceProfileList list).hold = model.hold.invalidate.arm :=
  model.hold_setAuthoritativeActiveProfile _

/-! Choices of routes and measurements leave it alone. -/

@[simp] theorem hold_showSelected (groupId nodeId : String) :
    (model.showSelected groupId nodeId).hold = model.hold := by
  rw [showSelected]
  split
  · rfl
  · split <;> rfl

theorem hold_foldl {α : Type*} {f : DesktopViewModel → α → DesktopViewModel}
    (h : ∀ model a, (f model a).hold = model.hold) (l : List α) :
    (l.foldl f model).hold = model.hold := by
  induction l generalizing model with
  | nil => rfl
  | cons a l ih => rw [List.foldl_cons, ih, h]

@[simp] theorem hold_applyRestoredRoutePreferences :
    (model.applyRestoredRoutePreferences externals).hold = model.hold := by
  rw [applyRestoredRoutePreferences]
  split_ifs
  · rfl
  · dsimp only
    split_ifs <;> rfl

@[simp] theorem hold_replaceCatalog (catalog : DaemonCatalog) :
    (model.replaceCatalog externals catalog).hold = model.hold := by
  rw [replaceCatalog, showQueuedSelections, hold_foldl _ fun model _ => model.hold_showSelected _ _,
    hold_pinDumbModeGroup, hold_applyRestoredRoutePreferences]
  rfl

@[simp] theorem hold_syncConnectedRouteFromCatalog :
    model.syncConnectedRouteFromCatalog.hold = model.hold := by
  rw [syncConnectedRouteFromCatalog]
  split <;> rfl

@[simp] theorem hold_selectCatalogGroup (id : String) :
    (model.selectCatalogGroup id).2.hold = model.hold := by
  rw [selectCatalogGroup]
  split_ifs <;> rfl

@[simp] theorem hold_finishQueuedNodeSelections (queued : List QueuedNodeSelection)
    (results : List (Except DaemonError DaemonCatalog)) :
    (model.finishQueuedNodeSelections externals queued results).2.hold = model.hold := by
  rw [finishQueuedNodeSelections]
  have happlied {apply : DesktopViewModel → Except DaemonError DaemonCatalog → DesktopViewModel}
      (hok : ∀ model catalog, apply model (.ok catalog) =
        (model.replaceCatalog externals catalog).syncConnectedRouteFromCatalog)
      (herror : ∀ model error, apply model (.error error) = model) :
      (results.foldl apply { model with queuedSelections := [] }).hold = model.hold := by
    refine hold_foldl { model with queuedSelections := [] } (fun model result => ?_) results
    cases result with
    | ok catalog =>
      rw [hok]
      exact (hold_syncConnectedRouteFromCatalog _).trans (hold_replaceCatalog _ _ _)
    | error error => rw [herror]
  split_ifs
  · rfl
  · exact happlied (fun _ _ => rfl) fun _ _ => rfl
  · exact happlied (fun _ _ => rfl) fun _ _ => rfl

@[simp] theorem hold_beginNodesLatencyRequest (nodeIds : List String) :
    (model.beginNodesLatencyRequest nodeIds).2.hold = model.hold := by
  rw [beginNodesLatencyRequest]
  split
  · rfl
  · split_ifs
    · rfl
    · dsimp only
      split_ifs <;> rfl

@[simp] theorem hold_beginLatencyRequestFor (allGroups : Bool) :
    (model.beginLatencyRequestFor allGroups).2.hold = model.hold := by
  rw [beginLatencyRequestFor]
  split_ifs
  · rfl
  · split
    · rfl
    · exact hold_beginNodesLatencyRequest _ _

@[simp] theorem hold_beginForcedLatencyRequest :
    model.beginForcedLatencyRequest.2.hold = model.hold := by
  rw [beginForcedLatencyRequest]
  split_ifs
  · rfl
  · exact model.hold_beginLatencyRequestFor true

@[simp] theorem hold_finishNodeLatency (revision : Nat) (nodeIds : List String) (token : Nat)
    (result : Except DaemonError (List DaemonLatencyEntry)) :
    (model.finishNodeLatency revision nodeIds token result).2.hold = model.hold := by
  rw [finishNodeLatency]
  dsimp only
  split_ifs
  · rfl
  · rfl
  · cases result with
    | ok entries =>
      have hshow : ∀ (model : DesktopViewModel) entry, (model.showNodeLatency entry).hold =
          model.hold := fun _ _ => rfl
      exact hold_foldl _ hshow _
    | error error => dsimp only; split_ifs <;> rfl

@[simp] theorem hold_settleEntry (targeted fresh : List String) (priority : Option Nat)
    (entry : DaemonLatencyEntry) :
    (settleEntry targeted fresh priority model entry).hold = model.hold := by
  rw [settleEntry]
  split_ifs
  · rfl
  · split
    · rfl
    · split_ifs <;> rfl

@[simp] theorem hold_finishLatencies (token : Nat)
    (result : Except DaemonError (List DaemonLatencyEntry)) :
    (model.finishLatencies token result).2.hold = model.hold := by
  rw [finishLatencies]
  dsimp only
  split_ifs
  · rfl
  · rfl
  · cases result with
    | ok entries =>
      exact hold_foldl _ (fun model entry => model.hold_settleEntry _ _ _ entry) _
    | error error => dsimp only; split_ifs <;> rfl

@[simp] theorem hold_noteCoresReadyStatus (result : Except DaemonError DaemonStatus) :
    (model.noteCoresReadyStatus result).2.hold = model.hold := by
  cases result <;> rfl

@[simp] theorem hold_queuePrimaryAction (now : Nat) :
    (model.queuePrimaryAction now).2.hold = model.hold := by
  rw [queuePrimaryAction]
  split_ifs
  · rfl
  · dsimp only
    split_ifs <;> rfl

@[simp] theorem hold_prepareRetryConnect : model.prepareRetryConnect.hold = model.hold := by
  rw [prepareRetryConnect]
  split
  · split_ifs <;> rfl
  · rfl

end DesktopViewModel
end MultiCore.Desktop
