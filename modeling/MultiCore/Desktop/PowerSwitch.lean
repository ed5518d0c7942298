import MultiCore.Desktop.Attended

/-!
# The power switch

In every session in which no refresh supersedes an import, the switch is held only for
work that is under way or asked for, and no answer leaves it held for ever.
-/

namespace MultiCore.Desktop

open Transition (Edge Run)

/-! ## Sessions -/

/-- No refresh supersedes an import. The check of the status after a disconnect, which the shell
begins when the disconnect asks for it, supersedes no other work either. -/
def Undisturbed (edge : Edge Session Event) : Prop :=
  match edge.label with
  | .beginRefresh => edge.source.model.importPending = false
  | .beginDisconnectReconciliation =>
    edge.source.model.importPending = false ∧ edge.source.model.activeProfileMutation = none ∧
      (edge.source.model.profileStatusReconciliationPending = true →
        edge.source.model.profileStatusReloadNeeded = true)
  | _ => True

namespace Session

/-- The request is in flight, and its answer will be accepted. -/
def Awaits (session : Session) (request : Request) : Prop :=
  request ∈ session.inFlight ∧
    match request with
    | .mutation kind token => session.model.isCurrentMutation token kind = true
    | .profile operation token => session.model.isCurrentProfileMutation token operation = true
    | .profileList token => session.model.profileListRequestPending = some token
    | .catalog token => session.model.catalogRequestPending = some token
    | .selection token => session.model.activeSelection.map ActiveSelection.token = some token
    | _ => False

/-- A reload is asked for that the shell has not begun yet. -/
def ReloadAsked (session : Session) : Prop :=
  session.model.profileStatusReloadNeeded = true ∨ session.model.profileReloadNeeded = true ∨
    session.model.profileCatalogReloadNeeded = true ∨ session.catalogAsked = true

/-- The switch is held only for work that is under way or asked for; otherwise a press of it starts
the action that it shows. -/
def Releases (session : Session) : Prop :=
  (session.model.primaryActionHeld = true →
    (∃ request, session.Awaits request) ∨ session.ReloadAsked) ∧
  (session.inFlight = [] → ¬ session.ReloadAsked →
    session.model.state.presentation.primaryAction ≠ .none →
      ∃ token, session.model.beginPrimaryAction.1 =
        some (session.model.state.presentation.primaryAction, token))

def Attended (session : Session) : Prop :=
  Desktop.Attended session.model.hold session.inFlight session.catalogAsked

end Session

section Sessions

variable {externals : Externals} {session : Session} {event : Event}

theorem Attended.finishMutationEvent
    (h : Attended session.model.hold session.inFlight session.catalogAsked) (kind : MutationKind)
    (token : Nat) (result : Except DaemonError DaemonStatus) :
    Attended (session.model.finishMutation kind token result).hold
      (session.inFlight.erase (.mutation kind token)) session.catalogAsked := by
  cases kind with
  | refresh => exact h.finishRefresh token result
  | «import» => exact h.finishImport token result
  | connect => exact h.finishConnect token result
  | disconnect => exact h.finishDisconnect token result
  | disconnectReconciliation => exact h.finishDisconnectReconciliation token result
  | subscriptionRefresh => exact h.finishSubscriptionRefresh token result

/-- An answer that the switch does not wait for leaves it attended to. -/
theorem Attended.answered (h : Attended session.model.hold session.inFlight session.catalogAsked)
    {model : DesktopViewModel} {request : Request}
    (hhold : model.hold = session.model.hold) (hother : request ∉ session.model.hold.waiting) :
    (session.answered request model).Attended :=
  (h.erase hother).applied (Or.inl hhold)

theorem Session.Attended.of_began {requests : List Request} {model : DesktopViewModel}
    (h : Desktop.Attended model.hold (requests ++ session.inFlight) session.catalogAsked) :
    (session.began requests model).Attended := h

theorem Session.Attended.next (h : session.Attended) (henabled : session.Enabled event)
    (hclear : Undisturbed ⟨session, event, session.next externals event⟩) :
    (session.next externals event).Attended := by
  have hlatency : ∀ request : LatencyRequest, .latencies request ∉ session.model.hold.waiting := by
    intro request hwaits
    simp [Hold.mem_waiting, Hold.mutationRequests, Hold.profileRequests] at hwaits
  have hnode : ∀ request : NodeLatencyRequest,
      .nodeLatencies request ∉ session.model.hold.waiting := by
    intro request hwaits
    simp [Hold.mem_waiting, Hold.mutationRequests, Hold.profileRequests] at hwaits
  have hsweep : ∀ request, (Session.sweepRequests request).filter Request.isProfile = [] := by
    rintro (- | ⟨token, revision, groupIds, - | priority⟩) <;> rfl
  cases event with
  | beginRefresh => exact h.beginRefresh hclear
  | beginDisconnectReconciliation =>
    exact h.beginDisconnectReconciliation hclear.1 hclear.2.1 hclear.2.2
  | queuePrimaryAction now => exact h.applied (Or.inl (session.model.hold_queuePrimaryAction now))
  | beginPrimaryAction => exact h.beginPrimaryAction
  | beginQueuedPrimaryAction now => exact h.beginQueuedPrimaryAction now
  | prepareRetryConnect => exact h.applied (Or.inl session.model.hold_prepareRetryConnect)
  | beginImport url => exact h.beginImport externals url
  | beginSubscriptionRefresh => exact h.beginSubscriptionRefresh
  | finishMutation kind token result => exact h.finishMutationEvent kind token result
  | beginProfileList => exact h.beginProfileList
  | finishProfileList token result => exact h.finishProfileList token result
  | beginProfileActivation profileId => exact h.beginProfileActivation profileId
  | finishProfileActivation token result =>
    exact h.finishProfileActivation (henabled _ rfl) result
  | beginProfileTargetRefresh profileId => exact h.beginProfileMutation .refresh true true profileId
  | finishProfileTargetRefresh token result => exact h.finishProfileChange (henabled _ rfl) result
  | beginProfileSourceEdit profileId url =>
    rw [Session.next]
    exact .of_began (Attended.beginProfileSourceEdit h externals profileId url)
  | finishProfileSourceEdit token result => exact h.finishProfileChange (henabled _ rfl) result
  | beginProfileDelete profileId => exact h.beginProfileMutation .delete false true profileId
  | finishProfileDelete token result => exact h.finishProfileDelete (henabled _ rfl) result
  | advanceProfileReconciliation => exact h.advanceProfileReconciliation
  | deferProfileListReload => exact h.reloadList
  | deferProfileCatalogReload => exact h.reloadCatalog
  | beginCatalogRequest =>
    exact h.beginCatalogRequest session.model.profileCatalogReloadNeeded session.catalogAsked
  | loadAskedCatalog => exact h.beginCatalogRequest session.model.profileCatalogReloadNeeded false
  | finishCatalog token result => exact h.finishCatalog externals token result
  | selectCatalogGroup id => exact h.applied (Or.inl (session.model.hold_selectCatalogGroup id))
  | restoreRoutePreferences groupId selections =>
    exact h.applied (Or.inl (DesktopViewModel.hold_applyRestoredRoutePreferences externals _))
  | beginNodeSelection nodeId => exact h.beginNodeSelection nodeId
  | finishNodeSelection token result => exact h.finishNodeSelection externals token result
  | sendQueuedSelections => exact h.began [_] rfl
  | finishQueuedNodeSelections queued results =>
    refine h.answered (DesktopViewModel.hold_finishQueuedNodeSelections _ _ _ _) fun hwaits => ?_
    simp [Hold.mem_waiting, Hold.mutationRequests, Hold.profileRequests] at hwaits
  | beginLatencyRequest =>
    exact (h.began _ (hsweep _)).applied (Or.inl (session.model.hold_beginLatencyRequestFor false))
  | beginForcedLatencyRequest =>
    exact (h.began _ (hsweep _)).applied (Or.inl session.model.hold_beginForcedLatencyRequest)
  | finishLatencies request result =>
    exact h.answered (DesktopViewModel.hold_finishLatencies _ _ _) (hlatency request)
  | beginNodesLatencyRequest nodeIds =>
    refine (h.began _ ?_).applied (Or.inl (session.model.hold_beginNodesLatencyRequest nodeIds))
    cases (session.model.beginNodesLatencyRequest nodeIds).1 <;> rfl
  | finishNodeLatency request result =>
    exact h.answered (DesktopViewModel.hold_finishNodeLatency _ _ _ _ _) (hnode request)
  | noteConnectionStatus result now => exact h.noteConnectionStatus result now
  | noteCoresReadyStatus result =>
    exact h.applied (Or.inl (session.model.hold_noteCoresReadyStatus result))

theorem Session.Attended.awaits_mutation (h : session.Attended) {active : ActiveMutation}
    (hactive : session.model.activeMutation = some active) : ∃ request, session.Awaits request := by
  refine ⟨.mutation active.kind active.token, h.waited _ (Hold.mem_waiting.2 (Or.inl ?_)), ?_⟩
  · rw [Hold.mutationRequests, DesktopViewModel.hold, hactive]
    exact List.mem_singleton_self _
  · refine (Option.any_eq_true _ _).2 ⟨active, hactive, ?_⟩
    simp only [decide_true, Bool.true_and, decide_eq_true_eq]
    exact h.epoch active hactive

theorem Session.Attended.awaits_profile (h : session.Attended) {active : ActiveProfileRequest}
    (hactive : session.model.activeProfileMutation = some active) :
    ∃ request, session.Awaits request := by
  refine ⟨.profile active.operation active.token,
    h.waited _ (Hold.mem_waiting.2 (Or.inr (Or.inl ?_))), ?_⟩
  · rw [Hold.profileRequests, DesktopViewModel.hold, hactive]
    exact List.mem_singleton_self _
  · refine (Option.any_eq_true _ _).2 ⟨active, hactive, ?_⟩
    simp only [decide_true, Bool.and_self]

theorem Session.Attended.awaits_list (h : session.Attended)
    (hsome : session.model.hold.listRequest.isSome = true) : ∃ request, session.Awaits request := by
  obtain ⟨token, htoken⟩ := Option.isSome_iff_exists.1 hsome
  refine ⟨.profileList token, h.waited _ (Hold.mem_waiting.2 (Or.inr (Or.inr (Or.inl ?_)))), htoken⟩
  rw [htoken, Option.map_some]

theorem Session.Attended.awaits_catalog (h : session.Attended)
    (hsome : session.model.hold.catalogRequest.isSome = true) :
    ∃ request, session.Awaits request := by
  obtain ⟨token, htoken⟩ := Option.isSome_iff_exists.1 hsome
  refine ⟨.catalog token,
    h.waited _ (Hold.mem_waiting.2 (Or.inr (Or.inr (Or.inr (Or.inl ?_))))), htoken⟩
  rw [htoken, Option.map_some]

theorem Session.Attended.awaits_selection (h : session.Attended)
    (hsome : session.model.hold.selection.isSome = true) : ∃ request, session.Awaits request := by
  obtain ⟨token, htoken⟩ := Option.isSome_iff_exists.1 hsome
  refine ⟨.selection token,
    h.waited _ (Hold.mem_waiting.2 (Or.inr (Or.inr (Or.inr (Or.inr ?_))))), htoken⟩
  rw [htoken, Option.map_some]

/-- Whatever holds the switch is under way or asked for. -/
theorem Session.Attended.held (h : session.Attended)
    (hheld : session.model.primaryActionHeld = true) :
    (∃ request, session.Awaits request) ∨ session.ReloadAsked := by
  have hstatus : session.model.hold.statusPending = true →
      (∃ request, session.Awaits request) ∨ session.ReloadAsked := by
    intro hpending
    rcases h.status hpending with hreload | ⟨active, hactive, -⟩
    · exact Or.inr (Or.inl hreload)
    · exact Or.inl (h.awaits_mutation hactive)
  have hlist : session.model.hold.listPending = true →
      (∃ request, session.Awaits request) ∨ session.ReloadAsked := by
    intro hpending
    rcases h.list hpending with hreload | hrequest
    · exact Or.inr (Or.inr (Or.inl hreload))
    · exact Or.inl (h.awaits_list hrequest)
  simp only [DesktopViewModel.primaryActionHeld, DesktopViewModel.profileMutationPending,
    DesktopViewModel.profileReconciliationRequired, Bool.or_eq_true] at hheld
  rcases hheld with ((((hmutation | himporting) | hprofile) | (hpending | hpending) | hpending) |
    hselection) | hrequired
  · obtain ⟨active, hactive⟩ := Option.isSome_iff_exists.1 hmutation
    exact Or.inl (h.awaits_mutation hactive)
  · obtain ⟨-, active, hactive, -⟩ := h.importing himporting
    exact Or.inl (h.awaits_mutation hactive)
  · obtain ⟨active, hactive⟩ := Option.isSome_iff_exists.1 hprofile
    exact Or.inl (h.awaits_profile hactive)
  · exact hstatus hpending
  · exact hlist hpending
  · rcases h.catalog hpending with hreload | hrequest | hother | hother
    · exact Or.inr (Or.inr (Or.inr (Or.inl hreload)))
    · exact Or.inl (h.awaits_catalog hrequest)
    · exact hstatus hother
    · exact hlist hother
  · refine Or.inl (h.awaits_selection ?_)
    rw [DesktopViewModel.hold, Option.isSome_map]
    exact hselection
  · rcases (h.catalogRequired hrequired).2 with hrequest | hasked
    · exact Or.inl (h.awaits_catalog hrequest)
    · exact Or.inr (Or.inr (Or.inr (Or.inr hasked)))

theorem Session.Attended.releases (h : session.Attended) : session.Releases := by
  refine ⟨h.held, fun hidle hreload haction => ?_⟩
  have hfree : session.model.primaryActionHeld = false := by
    rw [← Bool.not_eq_true]
    intro hprimary
    rcases h.held hprimary with ⟨request, hmem, -⟩ | hasked
    · rw [hidle] at hmem
      cases hmem
    · exact hreload hasked
  rw [DesktopViewModel.beginPrimaryAction, if_neg (by rw [hfree]; exact Bool.false_ne_true)]
  dsimp only
  split
  · next hnone =>
    refine absurd ?_ haction
    cases hcase : session.model.state.presentation.primaryAction with
    | none => rfl
    | _ => rw [hcase] at hnone; cases hnone
  · exact ⟨_, rfl⟩

/-- In every session in which no refresh supersedes an import, the switch is held only while a
request that will be accepted is in flight or a reload is asked for: when neither is, a press of it
starts the action that it shows. -/
theorem power_switch_released {target : Session} {edges : List (Edge Session Event)}
    (hrun : Run (Step externals) .initial edges target)
    (hclear : ∀ edge ∈ edges, Undisturbed edge) : ∀ edge ∈ edges, edge.target.Releases := by
  have hattended := hrun.forall_target_of (I := Session.Attended) Attended.initial
    (fun {_ _ _} h hstep hgood => by
      obtain ⟨henabled, rfl⟩ := hstep
      exact h.next henabled hgood) hclear
  exact fun edge hedge => (hattended edge hedge).releases

end Sessions

/-! ## A refresh during an import -/

/-- Texts are left as they are, and every link is read as one of the secure scheme. -/
def plainExternals : Externals := ⟨id, id, fun _ => some ⟨"https", some "host", none⟩⟩

def readyStatus : DaemonStatus :=
  ⟨"ready", none, none, none, none, none, false, none, false, false, none⟩

/-- An import and its answer. -/
def importedAlone : List Event :=
  [.beginImport "https://host/", .finishMutation .import 1 (.ok readyStatus)]

theorem power_switch_released_imported :
    ((Transition.trace (Session.next plainExternals) .initial importedAlone).get
        ⟨0, by decide⟩).target.Releases ∧
      ((Transition.trace (Session.next plainExternals) .initial importedAlone).get
        ⟨1, by decide⟩).target.Releases := by
  have hrun : Run (Step plainExternals) .initial _ _ :=
    Transition.run_trace_of (Session.next plainExternals) .initial importedAlone
      (by decide)
  have hreleased := power_switch_released hrun
    (List.forall_mem_cons.2 ⟨trivial, List.forall_mem_singleton.2 trivial⟩)
  exact ⟨hreleased _ (List.get_mem _ _), hreleased _ (List.get_mem _ _)⟩

/-- A refresh is begun while an import is in flight, and both are answered. -/
def refreshedImport : List Event :=
  [.beginImport "https://host/", .beginRefresh, .finishMutation .import 1 (.ok readyStatus),
    .finishMutation .refresh 2 (.ok readyStatus)]

/-- The answer of the import is ignored, and the switch is held for it for ever. -/
theorem power_switch_stuck :
    ¬ ∀ (externals : Externals) (edges : List (Edge Session Event)) (target : Session),
      Run (Step externals) .initial edges target → ∀ edge ∈ edges, edge.target.Releases := by
  intro hall
  have hrun : Run (Step plainExternals) .initial _ _ :=
    Transition.run_trace_of (Session.next plainExternals) .initial refreshedImport
      (by decide)
  have hmem := List.get_mem (Transition.trace (Session.next plainExternals) .initial
    refreshedImport) ⟨3, by decide⟩
  have hidle : ((Transition.trace (Session.next plainExternals) .initial refreshedImport).get
      ⟨3, by decide⟩).target.inFlight = [] := by
    decide
  obtain ⟨hheld, -⟩ := hall _ _ _ hrun _ hmem
  rcases hheld (by decide) with ⟨request, hinFlight, -⟩ | hreload
  · rw [hidle] at hinFlight
    exact nomatch hinFlight
  · revert hreload
    unfold Session.ReloadAsked
    decide

end MultiCore.Desktop
