import MultiCore.Desktop.Measurements

/-!
# The rows that wait for a measurement

Sweeps and measurements of single routes overlap on the same rows. Every row that waits
does so for a request in flight, an answer that came too late changes no row, and the
answer of a sweep passes over what was measured on its own since.
-/

namespace MultiCore.Desktop

open FirstMatch
open Transition (Edge Run)
open Measurements (Carried)

/-! ## What the other events leave alone -/

/-- Whether a request measures latencies. -/
def Request.measures : Request → Bool
  | .latencies _ => true
  | .nodeLatencies _ => true
  | _ => false

/-- Whether an event is about measurements. -/
def Event.measures : Event → Bool
  | .beginLatencyRequest => true
  | .beginForcedLatencyRequest => true
  | .finishLatencies _ _ => true
  | .beginNodesLatencyRequest _ => true
  | .finishNodeLatency _ _ => true
  | _ => false

/-- The measurements in flight are the same, and those awaited are the same or none. -/
structure Session.Beside (session target : Session) : Prop where
  carried : Carried session.model.measurements target.model.measurements
  inFlight : ∀ request : Request, request.measures = true →
    (request ∈ target.inFlight ↔ request ∈ session.inFlight)

namespace Session

variable {session : Session} {model : DesktopViewModel}

theorem beside_withModel (h : Carried session.model.measurements model.measurements) :
    session.Beside (session.withModel model) := ⟨h, fun _ _ => Iff.rfl⟩

theorem beside_began {requests : List Request}
    (hother : ∀ request ∈ requests, request.measures = false)
    (h : Carried session.model.measurements model.measurements) :
    session.Beside (session.began requests model) := by
  refine ⟨h, fun request hmeasures => ?_⟩
  simp only [began, List.mem_append, or_iff_right_iff_imp]
  intro hmem
  rw [hother request hmem] at hmeasures
  exact nomatch hmeasures

theorem beside_answered {request : Request} (hother : request.measures = false)
    (h : Carried session.model.measurements model.measurements) :
    session.Beside (session.answered request model) := by
  refine ⟨h, fun other hmeasures => List.mem_erase_of_ne fun heq => ?_⟩
  rw [heq, hother] at hmeasures
  exact nomatch hmeasures

theorem measures_toList_map {α : Type*} {f : α → Request} (h : ∀ a, (f a).measures = false)
    (o : Option α) : ∀ request ∈ (o.map f).toList, request.measures = false := by
  intro request hmem
  obtain ⟨a, -, rfl⟩ := Option.map_eq_some_iff.1 (Option.mem_toList.1 hmem)
  exact h a

theorem measures_actionRequests (begun : Option (PrimaryAction × Nat)) :
    ∀ request ∈ actionRequests begun, request.measures = false := by
  rcases begun with _ | ⟨action, token⟩
  · exact fun _ h => nomatch h
  · exact measures_toList_map (fun _ => rfl) _

theorem beside_advanceProfileReconciliation :
    session.Beside session.advanceProfileReconciliation := by
  rw [advanceProfileReconciliation]
  dsimp only
  split_ifs
  · exact beside_began (by simp [Request.measures])
      (.of_eq (DesktopViewModel.measurements_beginRefresh
        { session.model with profileStatusReloadNeeded := false }))
  · exact beside_began (by simp [Request.measures]) .same
  · exact beside_began (measures_toList_map (fun _ => rfl) _)
      (.of_eq (DesktopViewModel.measurements_beginCatalogRequest
        { session.model with profileCatalogReloadNeeded := false }))
  · exact ⟨.same, fun _ _ => Iff.rfl⟩

/-- Nothing but a measurement changes what is measured, save by forgetting all of it. -/
theorem beside_next (externals : Externals) (session : Session) {event : Event}
    (hother : event.measures = false) : session.Beside (session.next externals event) := by
  have hone : ∀ {request : Request}, request.measures = false →
      ∀ other ∈ [request], other.measures = false := by
    intro request hrequest other hmem
    rw [List.mem_singleton.1 hmem]
    exact hrequest
  let model := session.model
  cases event with
  | beginRefresh => exact beside_began (hone rfl) (.of_eq model.measurements_beginRefresh)
  | beginDisconnectReconciliation =>
    exact beside_began (hone rfl) (.of_eq (model.measurements_nextMutation _))
  | queuePrimaryAction now =>
    exact beside_withModel (.of_eq (model.measurements_queuePrimaryAction now))
  | beginPrimaryAction =>
    exact beside_began (measures_actionRequests _) (.of_eq model.measurements_beginPrimaryAction)
  | beginQueuedPrimaryAction now =>
    exact beside_began (measures_actionRequests _)
      (.of_eq (model.measurements_beginQueuedPrimaryAction now))
  | prepareRetryConnect => exact beside_withModel (.of_eq model.measurements_prepareRetryConnect)
  | beginImport url =>
    exact beside_began (measures_toList_map (fun _ => rfl) _)
      (.of_eq (model.measurements_beginImport externals url))
  | beginSubscriptionRefresh =>
    exact beside_began (measures_toList_map (fun _ => rfl) _)
      (.of_eq model.measurements_beginSubscriptionRefresh)
  | finishMutation kind token result =>
    exact beside_answered rfl (model.carried_finishMutation kind token result)
  | beginProfileList => exact beside_began (hone rfl) .same
  | finishProfileList token result =>
    exact beside_answered rfl (model.carried_finishProfileList token result)
  | beginProfileActivation profileId =>
    exact beside_began (measures_toList_map (fun _ => rfl) _)
      (.of_eq (model.measurements_beginProfileActivation profileId))
  | finishProfileActivation token result =>
    exact beside_answered rfl (model.carried_finishProfileActivation token result)
  | beginProfileTargetRefresh profileId =>
    exact beside_began (measures_toList_map (fun _ => rfl) _)
      (.of_eq (model.measurements_beginProfileMutation _ _ _ profileId))
  | finishProfileTargetRefresh token result =>
    exact beside_answered rfl (model.carried_finishProfileChange .refresh token result)
  | beginProfileSourceEdit profileId url =>
    exact beside_began (measures_toList_map (fun _ => rfl) _)
      (.of_eq (model.measurements_beginProfileSourceEdit externals profileId url))
  | finishProfileSourceEdit token result =>
    exact beside_answered rfl (model.carried_finishProfileChange .edit token result)
  | beginProfileDelete profileId =>
    exact beside_began (measures_toList_map (fun _ => rfl) _)
      (.of_eq (model.measurements_beginProfileMutation _ _ _ profileId))
  | finishProfileDelete token result =>
    exact beside_answered rfl (model.carried_finishProfileDelete token result)
  | advanceProfileReconciliation => exact beside_advanceProfileReconciliation
  | deferProfileListReload => exact beside_withModel .same
  | deferProfileCatalogReload => exact beside_withModel .same
  | beginCatalogRequest =>
    exact beside_began (measures_toList_map (fun _ => rfl) _)
      (.of_eq model.measurements_beginCatalogRequest)
  | loadAskedCatalog =>
    have hbegun : Session.Beside { session with catalogAsked := false }
        ({ session with catalogAsked := false }.began
          (model.beginCatalogRequest.1.map Request.catalog).toList model.beginCatalogRequest.2) :=
      beside_began (measures_toList_map (fun _ => rfl) _)
        (.of_eq model.measurements_beginCatalogRequest)
    exact ⟨hbegun.carried, hbegun.inFlight⟩
  | finishCatalog token result =>
    exact beside_answered rfl (.of_eq (model.measurements_finishCatalog externals token result))
  | selectCatalogGroup id =>
    exact beside_withModel (.of_eq (model.measurements_selectCatalogGroup id))
  | restoreRoutePreferences groupId selections =>
    exact beside_withModel (.of_eq (DesktopViewModel.measurements_applyRestoredRoutePreferences
      externals { model with restoredRouteGroup := groupId, restoredRouteNodes := selections }))
  | beginNodeSelection nodeId =>
    exact beside_began (measures_toList_map (fun _ => rfl) _)
      (.of_eq (model.measurements_beginNodeSelection nodeId))
  | finishNodeSelection token result =>
    have hanswered : session.Beside (session.answered (.selection token)
        (model.finishNodeSelection externals token result).2) :=
      beside_answered rfl (.of_eq (model.measurements_finishNodeSelection externals token result))
    exact ⟨hanswered.carried, hanswered.inFlight⟩
  | sendQueuedSelections => exact beside_began (hone rfl) .same
  | finishQueuedNodeSelections queued results =>
    exact beside_answered rfl
      (.of_eq (model.measurements_finishQueuedNodeSelections externals queued results))
  | beginLatencyRequest => exact nomatch hother
  | beginForcedLatencyRequest => exact nomatch hother
  | finishLatencies request result => exact nomatch hother
  | beginNodesLatencyRequest nodeIds => exact nomatch hother
  | finishNodeLatency request result => exact nomatch hother
  | noteConnectionStatus result now =>
    exact beside_withModel (model.carried_noteConnectionStatus result now)
  | noteCoresReadyStatus result =>
    cases result with
    | ok status => exact beside_withModel .same
    | error error => exact beside_withModel .same

end Session

/-! ## What an event does to the measurements -/

/-- What one event does to the measurements and to those in flight. -/
inductive Session.Moved (session target : Session) : Prop
  | beside (h : session.Beside target)
  | beganNodes (request : NodeLatencyRequest)
      (token : request.token = session.model.nextNodeLatencyGeneration + 1)
      (model : target.model.measurements = { session.model.measurements with
        nextNode := request.token
        waiting := fun nodeId =>
          if nodeId ∈ request.nodeIds then some request.token
          else session.model.nodeLatencyPending nodeId })
      (inFlight : target.inFlight = .nodeLatencies request :: session.inFlight)
  | beganSweep (sweep : LatencyRequest)
      (token : sweep.token = session.model.nextLatencyGeneration + 1)
      (priority : ∀ request ∈ sweep.priority,
        request.token = session.model.nextNodeLatencyGeneration + 1)
      (model : target.model.measurements = {
        nextSweep := sweep.token
        sweep := some sweep.token
        sweepRevision := sweep.catalogRevision
        nextNode := sweep.priority.elim session.model.nextNodeLatencyGeneration
          NodeLatencyRequest.token
        waiting := fun nodeId =>
          sweep.priority.elim (session.model.nodeLatencyPending nodeId) fun request =>
            if nodeId ∈ request.nodeIds then some request.token
            else session.model.nodeLatencyPending nodeId
        fresh := []
        priority := sweep.priority.map NodeLatencyRequest.token })
      (inFlight : target.inFlight = sweepRequests (some sweep) ++ session.inFlight)
  | endedSweep (sweep : LatencyRequest) (waiting : String → Option Nat)
      (less : ∀ nodeId, waiting nodeId = none ∨
        waiting nodeId = session.model.nodeLatencyPending nodeId)
      (model : target.model.measurements = ⟨session.model.nextLatencyGeneration, none, none,
        session.model.nextNodeLatencyGeneration, waiting, [], none⟩)
      (inFlight : target.inFlight = session.inFlight.erase (.latencies sweep))
  | endedNodes (request : NodeLatencyRequest) (shown : List String)
      (model : target.model.measurements = { session.model.measurements with
        waiting := fun nodeId =>
          if nodeId ∈ session.model.ownedNodes request.token request.nodeIds then none
          else session.model.nodeLatencyPending nodeId
        fresh := shown ++ session.model.latencySweepFresh })
      (inFlight : target.inFlight = session.inFlight.erase (.nodeLatencies request))
  | superseded (sweep : LatencyRequest) (model : target.model = session.model)
      (inFlight : target.inFlight = session.inFlight.erase (.latencies sweep))

namespace Session

variable (externals : Externals) (session : Session)

theorem moved_beganSweep (allGroups : Bool) :
    session.Moved (session.began (sweepRequests (session.model.beginLatencyRequestFor allGroups).1)
      (session.model.beginLatencyRequestFor allGroups).2) := by
  rcases session.model.beginLatencyRequestFor_cases allGroups with
    ⟨hnone, hsame⟩ | ⟨sweep, hsome, htoken, hpriority, hmodel⟩
  · rw [hnone]
    exact .beside ⟨.of_eq hsame, fun _ _ => Iff.rfl⟩
  · rw [hsome]
    exact .beganSweep sweep htoken hpriority hmodel rfl

/-- Every event moves the measurements in one of these ways. -/
theorem moved_next (event : Event) : session.Moved (session.next externals event) := by
  by_cases hmeasures : event.measures = false
  · exact .beside (beside_next externals session hmeasures)
  cases event with
  | beginLatencyRequest => exact session.moved_beganSweep false
  | beginForcedLatencyRequest =>
    rw [next, DesktopViewModel.beginForcedLatencyRequest]
    split_ifs
    · exact .beside ⟨.same, fun _ _ => Iff.rfl⟩
    · exact session.moved_beganSweep true
  | finishLatencies sweep result =>
    by_cases hawaited : session.model.latencyRequestPending = some sweep.token
    · obtain ⟨waiting, hless, hmodel⟩ := session.model.measurements_finishLatencies result hawaited
      exact .endedSweep sweep waiting hless hmodel rfl
    · refine .superseded sweep ?_ rfl
      exact congrArg Prod.snd (session.model.finishLatencies_superseded result hawaited)
  | beginNodesLatencyRequest nodeIds =>
    rcases session.model.beginNodesLatencyRequest_cases nodeIds with
      hnone | ⟨request, htoken, hsome⟩
    · rw [next, hnone]
      exact .beside ⟨.same, fun _ _ => Iff.rfl⟩
    · rw [next, hsome]
      exact .beganNodes request htoken rfl rfl
  | finishNodeLatency request result =>
    have hmodel := session.model.measurements_finishNodeLatency request result
    by_cases hrunning : session.model.latencyRequestPending.isSome
    · rw [if_pos hrunning] at hmodel
      exact .endedNodes request _ hmodel rfl
    · rw [if_neg hrunning] at hmodel
      exact .endedNodes request [] hmodel rfl
  | _ => exact absurd rfl hmeasures

end Session

/-! ## What is awaited -/

/-- Tokens are given once, and every row waits for a request in flight. -/
structure Booked (m : Measurements) (inFlight : List Request) : Prop where
  swept : ∀ sweep, .latencies sweep ∈ inFlight → sweep.token ≤ m.nextSweep
  awaited : ∀ token, m.sweep = some token → token ≤ m.nextSweep
  revision : ∀ sweep, .latencies sweep ∈ inFlight → m.sweep = some sweep.token →
    m.sweepRevision = sweep.catalogRevision
  measured : ∀ request, .nodeLatencies request ∈ inFlight → request.token ≤ m.nextNode
  priority : ∀ token, m.priority = some token → token ≤ m.nextNode
  distinct : ∀ request other, .nodeLatencies request ∈ inFlight →
    .nodeLatencies other ∈ inFlight → request.token = other.token → request = other
  waiting : ∀ nodeId token, m.waiting nodeId = some token →
    ∃ request, .nodeLatencies request ∈ inFlight ∧ request.token = token ∧
      nodeId ∈ request.nodeIds

namespace Booked

variable {m : Measurements} {inFlight : List Request}

theorem initial : Booked DesktopViewModel.new.measurements [] where
  swept := fun _ h => nomatch h
  awaited := fun _ h => nomatch h
  revision := fun _ h => nomatch h
  measured := fun _ h => nomatch h
  priority := fun _ h => nomatch h
  distinct := fun _ _ h => nomatch h
  waiting := fun _ _ h => nomatch h

/-- Only the measurements in flight matter. -/
theorem congr (h : Booked m inFlight) {inFlight' : List Request}
    (hsame : ∀ request : Request, request.measures = true →
      (request ∈ inFlight' ↔ request ∈ inFlight)) : Booked m inFlight' := by
  have hsweep (sweep : LatencyRequest) := hsame (.latencies sweep) rfl
  have hnode (request : NodeLatencyRequest) := hsame (.nodeLatencies request) rfl
  exact {
    swept := fun sweep hmem => h.swept sweep ((hsweep sweep).1 hmem)
    awaited := h.awaited
    revision := fun sweep hmem => h.revision sweep ((hsweep sweep).1 hmem)
    measured := fun request hmem => h.measured request ((hnode request).1 hmem)
    priority := h.priority
    distinct := fun request other hmem hother =>
      h.distinct request other ((hnode request).1 hmem) ((hnode other).1 hother)
    waiting := fun nodeId token hwaits => by
      obtain ⟨request, hmem, hrequest⟩ := h.waiting nodeId token hwaits
      exact ⟨request, (hnode request).2 hmem, hrequest⟩ }

theorem carried (h : Booked m inFlight) {m' : Measurements} (hcarried : Carried m m') :
    Booked m' inFlight := by
  cases hcarried with
  | same => exact h
  | forgotten hnext =>
    exact {
      swept := fun sweep hmem => (h.swept sweep hmem).trans hnext
      awaited := fun _ hsome => nomatch hsome
      revision := fun _ _ hsome => nomatch hsome
      measured := h.measured
      priority := fun _ hsome => nomatch hsome
      distinct := h.distinct
      waiting := fun _ _ hsome => nomatch hsome }

/-- A request for routes takes a token that no other has. -/
theorem beginNodes (h : Booked m inFlight) (request : NodeLatencyRequest)
    (htoken : request.token = m.nextNode + 1) :
    Booked { m with
      nextNode := request.token
      waiting := fun nodeId =>
        if nodeId ∈ request.nodeIds then some request.token else m.waiting nodeId }
      (.nodeLatencies request :: inFlight) := by
  have hnew : ∀ other, .nodeLatencies other ∈ inFlight → other.token ≠ request.token := by
    intro other hmem
    have hle := h.measured other hmem
    omega
  have hcases : ∀ {other : NodeLatencyRequest},
      .nodeLatencies other ∈ Request.nodeLatencies request :: inFlight →
        other = request ∨ .nodeLatencies other ∈ inFlight := by
    intro other hmem
    rcases List.mem_cons.1 hmem with heq | hmem
    · exact Or.inl (Request.nodeLatencies.inj heq)
    · exact Or.inr hmem
  have hsweep : ∀ {sweep : LatencyRequest},
      .latencies sweep ∈ Request.nodeLatencies request :: inFlight →
        .latencies sweep ∈ inFlight := by
    intro sweep hmem
    exact (List.mem_cons.1 hmem).resolve_left fun heq => nomatch heq
  exact {
    swept := fun sweep hmem => h.swept sweep (hsweep hmem)
    awaited := h.awaited
    revision := fun sweep hmem => h.revision sweep (hsweep hmem)
    measured := fun other hmem => by
      rcases hcases hmem with rfl | hmem
      · exact Nat.le_refl _
      · have hle := h.measured other hmem
        dsimp only
        omega
    priority := fun token hsome => by
      have hle := h.priority token hsome
      dsimp only
      omega
    distinct := fun one other hone hother heq => by
      rcases hcases hone with hone | hone
      · rcases hcases hother with hother | hother
        · rw [hone, hother]
        · exact absurd (hone ▸ heq).symm (hnew other hother)
      · rcases hcases hother with hother | hother
        · exact absurd (hother ▸ heq) (hnew one hone)
        · exact h.distinct one other hone hother heq
    waiting := fun nodeId token hwaits => by
      dsimp only at hwaits
      split_ifs at hwaits with hmem
      · exact ⟨request, List.mem_cons_self, Option.some.inj hwaits, hmem⟩
      · obtain ⟨other, hother, hrequest⟩ := h.waiting nodeId token hwaits
        exact ⟨other, List.mem_cons_of_mem _ hother, hrequest⟩ }

/-- A sweep takes a token that no other has. -/
theorem beginSweep (h : Booked m inFlight) (sweep : LatencyRequest)
    (htoken : sweep.token = m.nextSweep + 1) :
    Booked { m with
      nextSweep := sweep.token
      sweep := some sweep.token
      sweepRevision := sweep.catalogRevision
      fresh := []
      priority := none }
      (.latencies sweep :: inFlight) := by
  have hnode : ∀ {request : NodeLatencyRequest},
      .nodeLatencies request ∈ Request.latencies sweep :: inFlight →
        .nodeLatencies request ∈ inFlight := by
    intro request hmem
    exact (List.mem_cons.1 hmem).resolve_left fun heq => nomatch heq
  exact {
    swept := fun other hmem => by
      rcases List.mem_cons.1 hmem with heq | hmem
      · rw [Request.latencies.inj heq]
      · have hle := h.swept other hmem
        dsimp only
        omega
    awaited := fun token hsome => (Option.some.inj hsome).ge
    revision := fun other hmem hsome => by
      rcases List.mem_cons.1 hmem with heq | hmem
      · rw [Request.latencies.inj heq]
      · have hle := h.swept other hmem
        have heq := Option.some.inj hsome
        omega
    measured := fun request hmem => h.measured request (hnode hmem)
    priority := fun _ hsome => nomatch hsome
    distinct := fun request other hmem hother =>
      h.distinct request other (hnode hmem) (hnode hother)
    waiting := fun nodeId token hwaits => by
      obtain ⟨request, hmem, hrequest⟩ := h.waiting nodeId token hwaits
      exact ⟨request, List.mem_cons_of_mem _ hmem, hrequest⟩ }

theorem prioritise (h : Booked m inFlight) {token : Nat} (htoken : token ≤ m.nextNode) :
    Booked { m with priority := some token } inFlight :=
  { h with
    swept := h.swept
    awaited := h.awaited
    revision := h.revision
    measured := h.measured
    priority := fun _ hsome => Option.some.inj hsome ▸ htoken
    waiting := h.waiting }

/-- What is answered is in flight no more; the rows that waited for it must wait no more. -/
theorem answer (h : Booked m inFlight) (request : Request) {waiting : String → Option Nat}
    (hless : ∀ nodeId, waiting nodeId = none ∨ waiting nodeId = m.waiting nodeId)
    (hsettled : ∀ other nodeId, request = .nodeLatencies other → nodeId ∈ other.nodeIds →
      waiting nodeId ≠ some other.token) (fresh : List String) :
    Booked { m with waiting, fresh } (inFlight.erase request) where
  swept := fun sweep hmem => h.swept sweep (List.mem_of_mem_erase hmem)
  awaited := h.awaited
  revision := fun sweep hmem => h.revision sweep (List.mem_of_mem_erase hmem)
  measured := fun other hmem => h.measured other (List.mem_of_mem_erase hmem)
  priority := h.priority
  distinct := fun one other hone hother =>
    h.distinct one other (List.mem_of_mem_erase hone) (List.mem_of_mem_erase hother)
  waiting := fun nodeId token hwaits => by
    dsimp only at hwaits
    rcases hless nodeId with hnone | hsame
    · rw [hnone] at hwaits
      exact nomatch hwaits
    · obtain ⟨other, hmem, rfl, hnode⟩ := h.waiting nodeId token (hsame ▸ hwaits)
      refine ⟨other, (List.mem_erase_of_ne fun heq => ?_).2 hmem, rfl, hnode⟩
      exact hsettled other nodeId heq.symm hnode hwaits

/-- The sweep is over. -/
theorem endSweep (h : Booked m inFlight) :
    Booked { m with sweep := none, sweepRevision := none, fresh := [], priority := none }
      inFlight :=
  { h with
    swept := h.swept
    awaited := fun _ hsome => nomatch hsome
    revision := fun _ _ hsome => nomatch hsome
    measured := h.measured
    priority := fun _ hsome => nomatch hsome
    waiting := h.waiting }

theorem moved {session target : Session}
    (h : Booked session.model.measurements session.inFlight) (hmoved : session.Moved target) :
    Booked target.model.measurements target.inFlight := by
  cases hmoved with
  | beside hbeside => exact (h.carried hbeside.carried).congr hbeside.inFlight
  | beganNodes request htoken hmodel hinFlight =>
    rw [hmodel, hinFlight]
    exact h.beginNodes request htoken
  | beganSweep sweep htoken hpriority hmodel hinFlight =>
    rw [hmodel, hinFlight]
    have hbegun := h.beginSweep sweep htoken
    rcases sweep with ⟨token, revision, groupIds, _ | request⟩
    · exact hbegun
    · have hboth := (hbegun.beginNodes request (hpriority request rfl)).prioritise (Nat.le_refl _)
      exact hboth.congr fun other _ => List.Perm.mem_iff (List.Perm.swap _ _ _)
  | endedSweep sweep waiting hless hmodel hinFlight =>
    rw [hmodel, hinFlight]
    exact (h.answer (.latencies sweep) hless (fun _ _ heq => nomatch heq) []).endSweep
  | endedNodes request shown hmodel hinFlight =>
    rw [hmodel, hinFlight]
    refine h.answer (.nodeLatencies request) (fun nodeId => ?_) (fun other nodeId heq hnode => ?_) _
    · split_ifs
      · exact Or.inl rfl
      · exact Or.inr rfl
    · obtain rfl := Request.nodeLatencies.inj heq
      split_ifs with howned
      · exact fun hnone => nomatch hnone
      · intro hwaits
        exact howned (List.mem_filter.2 ⟨hnode, decide_eq_true hwaits⟩)
  | superseded sweep hmodel hinFlight =>
    rw [hmodel, hinFlight]
    exact h.answer (.latencies sweep) (fun _ => Or.inr rfl) (fun _ _ heq => nomatch heq) _

/-- It holds whenever a run has come to. -/
theorem run {externals : Externals} {es : List (Edge Session Event)} {session : Session}
    (run : Run (Step externals) .initial es session) :
    Booked session.model.measurements session.inFlight := by
  refine run.invariant (I := fun session => Booked session.model.measurements session.inFlight)
    initial fun h hstep => ?_
  rw [hstep.2]
  exact h.moved (Session.moved_next externals _ _)

end Booked

/-! ## What stays so -/

/-- Of the sweeps and the requests begun before, none is awaited again, and the sweep that still is
has kept its own request and what was fresh. -/
structure Measurements.Onward (m m' : Measurements) : Prop where
  nextSweep : m.nextSweep ≤ m'.nextSweep
  nextNode : m.nextNode ≤ m'.nextNode
  sweep : ∀ token ≤ m.nextSweep, m'.sweep = some token →
    m.sweep = some token ∧ m'.priority = m.priority ∧ ∀ nodeId ∈ m.fresh, nodeId ∈ m'.fresh
  waiting : ∀ nodeId, ∀ token ≤ m.nextNode, m'.waiting nodeId = some token →
    m.waiting nodeId = some token

namespace Measurements.Onward

variable {m m' m'' : Measurements}

theorem refl (m : Measurements) : Onward m m :=
  ⟨Nat.le_refl _, Nat.le_refl _, fun _ _ h => ⟨h, rfl, fun _ h => h⟩, fun _ _ _ h => h⟩

theorem trans (h : Onward m m') (h' : Onward m' m'') : Onward m m'' where
  nextSweep := h.nextSweep.trans h'.nextSweep
  nextNode := h.nextNode.trans h'.nextNode
  sweep := fun token hle hsome => by
    obtain ⟨hbetween, hpriority', hfresh'⟩ := h'.sweep token (hle.trans h.nextSweep) hsome
    obtain ⟨hbefore, hpriority, hfresh⟩ := h.sweep token hle hbetween
    exact ⟨hbefore, hpriority'.trans hpriority, fun nodeId hmem => hfresh' _ (hfresh _ hmem)⟩
  waiting := fun nodeId token hle hwaits =>
    h.waiting nodeId token hle (h'.waiting nodeId token (hle.trans h.nextNode) hwaits)

theorem of_carried (h : Carried m m') : Onward m m' := by
  cases h with
  | same => exact refl m
  | forgotten hnext =>
    exact ⟨hnext, Nat.le_refl _, fun _ _ h => (nomatch h), fun _ _ _ h => (nomatch h)⟩

theorem of_moved {session target : Session} (h : session.Moved target) :
    Onward session.model.measurements target.model.measurements := by
  cases h with
  | beside hbeside => exact of_carried hbeside.carried
  | beganNodes request htoken hmodel _ =>
    rw [hmodel]
    refine ⟨Nat.le_refl _, ?_, fun _ _ h => ⟨h, rfl, fun _ h => h⟩,
      fun nodeId token hle hwaits => ?_⟩
    · exact htoken ▸ Nat.le_succ _
    · dsimp only at hwaits
      split_ifs at hwaits
      · have hle : token ≤ session.model.nextNodeLatencyGeneration := hle
        have heq := Option.some.inj hwaits
        omega
      · exact hwaits
  | beganSweep sweep htoken hpriority hmodel _ =>
    rw [hmodel]
    refine ⟨htoken ▸ Nat.le_succ _, ?_, fun token hle hsome => ?_,
      fun nodeId token hle hwaits => ?_⟩
    · rcases hrequest : sweep.priority with _ | request
      · exact Nat.le_refl _
      · have htoken := hpriority request hrequest
        exact (Nat.le_succ _).trans htoken.ge
    · have hle : token ≤ session.model.nextLatencyGeneration := hle
      have heq := Option.some.inj hsome
      omega
    · dsimp only at hwaits
      rcases hrequest : sweep.priority with _ | request
      · rw [hrequest] at hwaits
        exact hwaits
      · rw [hrequest, Option.elim_some] at hwaits
        split_ifs at hwaits
        · have hle : token ≤ session.model.nextNodeLatencyGeneration := hle
          have heq := Option.some.inj hwaits
          have htoken := hpriority request hrequest
          omega
        · exact hwaits
  | endedSweep sweep waiting hless hmodel _ =>
    rw [hmodel]
    refine ⟨Nat.le_refl _, Nat.le_refl _, fun _ _ h => (nomatch h),
      fun nodeId token _ hwaits => ?_⟩
    have hwaits : waiting nodeId = some token := hwaits
    rcases hless nodeId with hnone | hsame
    · rw [hnone] at hwaits
      exact nomatch hwaits
    · exact hsame.symm.trans hwaits
  | endedNodes request shown hmodel _ =>
    rw [hmodel]
    refine ⟨Nat.le_refl _, Nat.le_refl _, fun _ _ h => ⟨h, rfl, fun nodeId hmem => ?_⟩,
      fun nodeId token _ hwaits => ?_⟩
    · exact List.mem_append_right _ hmem
    · dsimp only at hwaits
      split_ifs at hwaits
      exact hwaits
  | superseded _ hmodel _ => rw [hmodel]; exact refl _

theorem of_run {externals : Externals} {es : List (Edge Session Event)} {session target : Session}
    (run : Run (Step externals) session es target) :
    Onward session.model.measurements target.model.measurements := by
  refine run.invariant (I := fun target =>
    Onward session.model.measurements target.model.measurements) (refl _) fun h hstep => ?_
  rw [hstep.2]
  exact h.trans (of_moved (Session.moved_next externals _ _))

end Measurements.Onward

/-! ## Rows -/

/-- The rows of a route in each group. -/
def DesktopViewModel.rowsOf (model : DesktopViewModel) (nodeId : String) :
    List (String × List CatalogNode) :=
  model.catalogGroups.map fun group => (group.id, group.nodes.filter fun node => node.id = nodeId)

theorem filter_map_eq {α : Type*} {p : α → Bool} {f : α → α} (hp : ∀ a, p (f a) = p a)
    (hf : ∀ a, p a = true → f a = a) (l : List α) : (l.map f).filter p = l.filter p := by
  have hcomp : p ∘ f = p := funext hp
  rw [List.filter_map, hcomp]
  refine (List.map_congr_left fun a ha => ?_).trans (List.map_id _)
  exact hf a (List.mem_filter.1 ha).2

namespace DesktopViewModel

variable (model : DesktopViewModel)

theorem rowsOf_showSweptLatency {entry : DaemonLatencyEntry} {nodeId : String}
    (hother : entry.nodeId ≠ nodeId) :
    (model.showSweptLatency entry).rowsOf nodeId = model.rowsOf nodeId := by
  rw [rowsOf, rowsOf, showSweptLatency]
  refine map_updateFirst ?_ model.catalogGroups
  intro group _
  refine Prod.ext rfl ?_
  refine filter_updateFirst (fun node hnode => ?_) group.nodes
  have hnode : node.id = entry.nodeId := of_decide_eq_true hnode
  have hne : node.id ≠ nodeId := hnode ▸ hother
  exact ⟨decide_eq_false hne, decide_eq_false hne⟩

theorem rowsOf_showNodeLatency {entry : DaemonLatencyEntry} {nodeId : String}
    (hother : entry.nodeId ≠ nodeId) :
    (model.showNodeLatency entry).rowsOf nodeId = model.rowsOf nodeId := by
  rw [rowsOf, rowsOf, showNodeLatency, List.map_map]
  refine List.map_congr_left fun group _ => Prod.ext rfl ?_
  refine filter_map_eq (fun node => ?_) (fun node hnode => ?_) group.nodes
  · split_ifs <;> rfl
  · have hnode : node.id = nodeId := of_decide_eq_true hnode
    exact if_neg fun heq => hother (heq.symm.trans hnode)

/-- The answer of a sweep passes over a route that is fresh or waits for another request. -/
theorem rowsOf_settleEntry {targeted fresh : List String} {priority : Option Nat}
    {nodeId : String} (entry : DaemonLatencyEntry)
    (hpassed : nodeId ∈ fresh ∨
      ∃ token, model.nodeLatencyPending nodeId = some token ∧ priority ≠ some token) :
    (settleEntry targeted fresh priority model entry).rowsOf nodeId = model.rowsOf nodeId ∧
      (settleEntry targeted fresh priority model entry).nodeLatencyPending nodeId =
        model.nodeLatencyPending nodeId := by
  rw [settleEntry]
  split_ifs with hskip
  · exact ⟨rfl, rfl⟩
  · rw [not_or, not_not] at hskip
    split
    · next hnone =>
      have hother : entry.nodeId ≠ nodeId := by
        rintro rfl
        rcases hpassed with hfresh | ⟨token, hwaits, -⟩
        · exact hskip.2 hfresh
        · rw [hnone] at hwaits
          cases hwaits
      exact ⟨model.rowsOf_showSweptLatency hother, rfl⟩
    · next token hsome =>
      split_ifs with hpriority
      · have hother : nodeId ≠ entry.nodeId := by
          rintro rfl
          rcases hpassed with hfresh | ⟨other, hwaits, hne⟩
          · exact hskip.2 hfresh
          · rw [hsome] at hwaits
            rw [← hwaits] at hne
            exact hne hpriority
        exact ⟨rowsOf_showSweptLatency _ hother.symm, if_neg hother⟩
      · exact ⟨rfl, rfl⟩

theorem rowsOf_foldl_settleEntry {targeted fresh : List String} {priority : Option Nat}
    {nodeId : String} (entries : List DaemonLatencyEntry)
    (hpassed : nodeId ∈ fresh ∨
      ∃ token, model.nodeLatencyPending nodeId = some token ∧ priority ≠ some token) :
    (entries.foldl (settleEntry targeted fresh priority) model).rowsOf nodeId =
      model.rowsOf nodeId := by
  induction entries generalizing model with
  | nil => rfl
  | cons entry entries ih =>
    obtain ⟨hrows, hwaits⟩ := model.rowsOf_settleEntry entry hpassed
    rw [List.foldl_cons, ih _ (hwaits ▸ hpassed), hrows]

/-- What the awaited sweep finds fresh, or waiting for another request, it leaves alone. -/
theorem rowsOf_finishLatencies {token : Nat} {nodeId : String}
    (result : Except DaemonError (List DaemonLatencyEntry))
    (hpassed : model.latencyRequestPending = some token → nodeId ∈ model.latencySweepFresh ∨
      ∃ other, model.nodeLatencyPending nodeId = some other ∧
        model.latencySweepPriority ≠ some other) :
    (model.finishLatencies token result).2.rowsOf nodeId = model.rowsOf nodeId := by
  by_cases hawaited : model.latencyRequestPending = some token
  · unfold finishLatencies
    rw [if_neg (not_not.mpr hawaited)]
    dsimp only
    split_ifs
    · rfl
    · cases result with
      | ok entries =>
        exact rowsOf_foldl_settleEntry { model with
          latencyRequestPending := none
          latencyRequestGroupIds := []
          latencySweepFresh := []
          latencySweepPriority := none
          latencyRequestRevision := none } entries (hpassed hawaited)
      | error error =>
        dsimp only
        split_ifs <;> rfl
  · rw [model.finishLatencies_superseded result hawaited]

/-- The answer of a sweep of another revision changes no row. -/
theorem catalogGroups_finishLatencies {token : Nat}
    (result : Except DaemonError (List DaemonLatencyEntry))
    (hother : model.latencyRequestPending = some token →
      model.latencyRequestRevision ≠ model.catalogRevision) :
    (model.finishLatencies token result).2.catalogGroups = model.catalogGroups := by
  by_cases hawaited : model.latencyRequestPending = some token
  · unfold finishLatencies
    rw [if_neg (not_not.mpr hawaited)]
    dsimp only
    rw [if_pos (hother hawaited)]
  · rw [model.finishLatencies_superseded result hawaited]

/-- The answer of a request of another revision changes no row. -/
theorem catalogGroups_finishNodeLatency {revision : Nat} (nodeIds : List String) (token : Nat)
    (result : Except DaemonError (List DaemonLatencyEntry))
    (hother : model.catalogRevision ≠ some revision) :
    (model.finishNodeLatency revision nodeIds token result).2.catalogGroups =
      model.catalogGroups := by
  unfold finishNodeLatency
  dsimp only
  split_ifs <;> rfl

theorem rowsOf_foldl_showNodeLatency {nodeId : String} (entries : List DaemonLatencyEntry)
    (hother : ∀ entry ∈ entries, entry.nodeId ≠ nodeId) :
    (entries.foldl showNodeLatency model).rowsOf nodeId = model.rowsOf nodeId := by
  induction entries generalizing model with
  | nil => rfl
  | cons entry entries ih =>
    rw [List.foldl_cons, ih _ fun other hmem => hother other (List.mem_cons_of_mem _ hmem),
      model.rowsOf_showNodeLatency (hother entry List.mem_cons_self)]

/-- A row that waits for another request, or for none, keeps its value. -/
theorem rowsOf_finishNodeLatency {revision : Nat} (nodeIds : List String) {token : Nat}
    {nodeId : String} (result : Except DaemonError (List DaemonLatencyEntry))
    (hother : model.nodeLatencyPending nodeId ≠ some token) :
    (model.finishNodeLatency revision nodeIds token result).2.rowsOf nodeId =
      model.rowsOf nodeId := by
  unfold finishNodeLatency
  dsimp only
  split_ifs
  · rfl
  · rfl
  · cases result with
    | ok entries =>
      refine rowsOf_foldl_showNodeLatency _ _ fun entry hmem heq => hother ?_
      have howned : entry.nodeId ∈ model.ownedNodes token nodeIds :=
        of_decide_eq_true (List.mem_filter.1 hmem).2
      rw [← heq]
      exact of_decide_eq_true (List.mem_filter.1 howned).2
    | error error =>
      dsimp only
      split_ifs <;> rfl

end DesktopViewModel

/-! ## Whole sessions -/

/-- A step puts a request in flight. -/
def Begins (edge : Edge Session Event) (request : Request) : Prop :=
  request ∉ edge.source.inFlight ∧ request ∈ edge.target.inFlight

/-- Since the sweep was begun there was a state that did not await it. -/
def SweepSuperseded (edges : List (Edge Session Event)) (sweep : LatencyRequest) : Prop :=
  ∃ before begun after, edges = before ++ begun :: after ∧ Begins begun (.latencies sweep) ∧
    ∃ edge ∈ after, edge.target.model.latencyRequestPending ≠ some sweep.token

/-- Since the request was begun there was a state in which the row did not wait for it. -/
def NodeSuperseded (edges : List (Edge Session Event)) (request : NodeLatencyRequest)
    (nodeId : String) : Prop :=
  ∃ before begun after, edges = before ++ begun :: after ∧ Begins begun (.nodeLatencies request) ∧
    ∃ edge ∈ after, edge.target.model.nodeLatencyPending nodeId ≠ some request.token

/-- Since the sweep was begun, the answer of a request for single routes showed a value of the
row. -/
def ShownSince (edges : List (Edge Session Event)) (sweep : LatencyRequest) (nodeId : String) :
    Prop :=
  ∃ before begun after, edges = before ++ begun :: after ∧ Begins begun (.latencies sweep) ∧
    ∃ edge ∈ after, ∃ request result, edge.label = .finishNodeLatency request result ∧
      nodeId ∈ edge.source.model.shownNodes request result

/-- The row waits for a request for single routes that was begun after the sweep. -/
def WaitsSince (edges : List (Edge Session Event)) (session : Session) (sweep : LatencyRequest)
    (nodeId : String) : Prop :=
  ∃ before begun after, edges = before ++ begun :: after ∧ Begins begun (.latencies sweep) ∧
    ∃ started ∈ after, ∃ request, Begins started (.nodeLatencies request) ∧
      session.model.nodeLatencyPending nodeId = some request.token

section

variable {externals : Externals} {edges : List (Edge Session Event)} {session : Session}

theorem not_awaited_of_superseded {sweep : LatencyRequest}
    (run : Run (Step externals) .initial edges session) (h : SweepSuperseded edges sweep) :
    session.model.latencyRequestPending ≠ some sweep.token := by
  obtain ⟨before, begun, after, rfl, ⟨-, hbegun⟩, edge, hedge, hother⟩ := h
  obtain ⟨first, last, rfl⟩ := List.append_of_mem hedge
  obtain ⟨hbefore, hstep, hafter⟩ := run.split_at
  obtain ⟨hfirst, hnext, hlast⟩ := hafter.split_at
  intro hawaited
  have hissued := (Booked.run (hbefore.snoc hstep)).swept sweep hbegun
  have honward := Measurements.Onward.of_run (hfirst.snoc hnext)
  have hstill := (Measurements.Onward.of_run hlast).sweep sweep.token
    (hissued.trans honward.nextSweep) hawaited
  exact hother hstill.1

theorem not_waiting_of_superseded {request : NodeLatencyRequest} {nodeId : String}
    (run : Run (Step externals) .initial edges session) (h : NodeSuperseded edges request nodeId) :
    session.model.nodeLatencyPending nodeId ≠ some request.token := by
  obtain ⟨before, begun, after, rfl, ⟨-, hbegun⟩, edge, hedge, hother⟩ := h
  obtain ⟨first, last, rfl⟩ := List.append_of_mem hedge
  obtain ⟨hbefore, hstep, hafter⟩ := run.split_at
  obtain ⟨hfirst, hnext, hlast⟩ := hafter.split_at
  intro hwaits
  have hissued := (Booked.run (hbefore.snoc hstep)).measured request hbegun
  have honward := Measurements.Onward.of_run (hfirst.snoc hnext)
  exact hother ((Measurements.Onward.of_run hlast).waiting nodeId request.token
    (hissued.trans honward.nextNode) hwaits)

/-- A value shown since the sweep was begun is fresh for as long as the sweep is awaited. -/
theorem fresh_of_shownSince {sweep : LatencyRequest} {nodeId : String}
    (run : Run (Step externals) .initial edges session) (h : ShownSince edges sweep nodeId)
    (hawaited : session.model.latencyRequestPending = some sweep.token) :
    nodeId ∈ session.model.latencySweepFresh := by
  obtain ⟨before, begun, after, rfl, ⟨-, hbegun⟩, edge, hedge, request, result, hlabel, hshown⟩ := h
  obtain ⟨first, last, rfl⟩ := List.append_of_mem hedge
  obtain ⟨hbefore, hstep, hafter⟩ := run.split_at
  obtain ⟨hfirst, hnext, hlast⟩ := hafter.split_at
  have hissued : sweep.token ≤ edge.source.model.nextLatencyGeneration :=
    ((Booked.run (hbefore.snoc hstep)).swept sweep hbegun).trans
      (Measurements.Onward.of_run hfirst).nextSweep
  have hanswered := Measurements.Onward.of_run (Run.single hnext)
  obtain ⟨hthen, -, hkept⟩ := (Measurements.Onward.of_run hlast).sweep sweep.token
    (hissued.trans hanswered.nextSweep) hawaited
  obtain ⟨hrunning, -, -⟩ := hanswered.sweep sweep.token hissued hthen
  have hrunning : edge.source.model.latencyRequestPending = some sweep.token := hrunning
  have hmodel := edge.source.model.measurements_finishNodeLatency request result
  rw [hrunning, Option.isSome_some, if_pos rfl] at hmodel
  refine hkept nodeId ?_
  rw [hnext.2, hlabel]
  have hfresh := congrArg Measurements.fresh hmodel
  exact hfresh ▸ List.mem_append_left _ (List.mem_reverse.2 hshown)

/-- A request that a step begins has a token that was not given before. -/
theorem Session.Moved.nodes_token {session target : Session} (h : session.Moved target)
    {request : NodeLatencyRequest} (hbefore : .nodeLatencies request ∉ session.inFlight)
    (hafter : .nodeLatencies request ∈ target.inFlight) :
    request.token = session.model.nextNodeLatencyGeneration + 1 := by
  cases h with
  | beside hbeside => exact absurd ((hbeside.inFlight _ rfl).1 hafter) hbefore
  | beganNodes other htoken _ hinFlight =>
    rw [hinFlight] at hafter
    rcases List.mem_cons.1 hafter with heq | hmem
    · rw [Request.nodeLatencies.inj heq]
      exact htoken
    · exact absurd hmem hbefore
  | beganSweep sweep _ hpriority _ hinFlight =>
    rw [hinFlight] at hafter
    rcases List.mem_append.1 hafter with hmem | hmem
    · rcases List.mem_cons.1 hmem with heq | hmem
      · exact nomatch heq
      · obtain ⟨other, hother, heq⟩ := Option.map_eq_some_iff.1 (Option.mem_toList.1 hmem)
        rw [← Request.nodeLatencies.inj heq]
        exact hpriority other hother
    · exact absurd hmem hbefore
  | endedSweep _ _ _ _ hinFlight =>
    rw [hinFlight] at hafter
    exact absurd (List.mem_of_mem_erase hafter) hbefore
  | endedNodes _ _ _ hinFlight =>
    rw [hinFlight] at hafter
    exact absurd (List.mem_of_mem_erase hafter) hbefore
  | superseded _ _ hinFlight =>
    rw [hinFlight] at hafter
    exact absurd (List.mem_of_mem_erase hafter) hbefore

/-- A row that waits for a request begun after the sweep does not wait for the sweep's own. -/
theorem priority_of_waitsSince {sweep : LatencyRequest} {nodeId : String}
    (run : Run (Step externals) .initial edges session)
    (h : WaitsSince edges session sweep nodeId)
    (hawaited : session.model.latencyRequestPending = some sweep.token) :
    ∃ token, session.model.nodeLatencyPending nodeId = some token ∧
      session.model.latencySweepPriority ≠ some token := by
  obtain ⟨before, begun, after, rfl, ⟨-, hbegun⟩, started, hedge, request, ⟨hnew, hmem⟩,
    hwaits⟩ := h
  obtain ⟨first, last, rfl⟩ := List.append_of_mem hedge
  obtain ⟨hbefore, hstep, hafter⟩ := run.split_at
  obtain ⟨hfirst, hnext, hlast⟩ := hafter.split_at
  have hbooked := Booked.run ((hbefore.snoc hstep).append hfirst)
  have hissued : sweep.token ≤ started.source.model.nextLatencyGeneration :=
    ((Booked.run (hbefore.snoc hstep)).swept sweep hbegun).trans
      (Measurements.Onward.of_run hfirst).nextSweep
  have honward := (Measurements.Onward.of_run (Run.single hnext)).trans
    (Measurements.Onward.of_run hlast)
  obtain ⟨-, hpriority, -⟩ := honward.sweep sweep.token hissued hawaited
  rw [hnext.2] at hmem
  have htoken := (Session.moved_next externals _ _).nodes_token hnew hmem
  refine ⟨request.token, hwaits, fun heq => ?_⟩
  have hearlier := hbooked.priority request.token (hpriority.symm.trans heq)
  have hearlier : request.token ≤ started.source.model.nextNodeLatencyGeneration := hearlier
  omega

/-- In every session each row that waits for a measurement waits for a request in flight. The
answer of a sweep or of a request for single routes changes no row when it is of another revision
or when nothing awaits it since; and the answer of a sweep changes no row that shows, or waits for,
what was measured on its own after the sweep was begun. -/
theorem latency_bookkeeping (run : Run (Step externals) .initial edges session) :
    (∀ nodeId token, session.model.nodeLatencyPending nodeId = some token →
      ∃ request, .nodeLatencies request ∈ session.inFlight ∧ request.token = token ∧
        nodeId ∈ request.nodeIds) ∧
    (∀ sweep result, .latencies sweep ∈ session.inFlight →
      sweep.catalogRevision ≠ session.model.catalogRevision ∨ SweepSuperseded edges sweep →
      (session.next externals (.finishLatencies sweep result)).model.catalogGroups =
        session.model.catalogGroups) ∧
    (∀ request result, .nodeLatencies request ∈ session.inFlight →
      (session.model.catalogRevision ≠ some request.catalogRevision →
        (session.next externals (.finishNodeLatency request result)).model.catalogGroups =
          session.model.catalogGroups) ∧
      ∀ nodeId, NodeSuperseded edges request nodeId →
        (session.next externals (.finishNodeLatency request result)).model.rowsOf nodeId =
          session.model.rowsOf nodeId) ∧
    ∀ sweep result, .latencies sweep ∈ session.inFlight → ∀ nodeId,
      ShownSince edges sweep nodeId ∨ WaitsSince edges session sweep nodeId →
      (session.next externals (.finishLatencies sweep result)).model.rowsOf nodeId =
        session.model.rowsOf nodeId := by
  have hbooked := Booked.run run
  refine ⟨hbooked.waiting, ?_, ?_, ?_⟩
  · intro sweep result hmem hlate
    refine session.model.catalogGroups_finishLatencies result fun hawaited hsame => ?_
    rcases hlate with hother | hsuperseded
    · exact hother ((hbooked.revision sweep hmem hawaited).symm.trans hsame)
    · exact not_awaited_of_superseded run hsuperseded hawaited
  · intro request result _
    constructor
    · exact fun hother => session.model.catalogGroups_finishNodeLatency _ _ result hother
    · intro nodeId hsuperseded
      exact session.model.rowsOf_finishNodeLatency _ result
        (not_waiting_of_superseded run hsuperseded)
  · intro sweep result _ nodeId hsince
    refine session.model.rowsOf_finishLatencies result fun hawaited => ?_
    rcases hsince with hshown | hwaits
    · exact Or.inl (fresh_of_shownSince run hshown hawaited)
    · exact Or.inr (priority_of_waitsSince run hwaits hawaited)

end

/-- Texts are left as they are, and no link is read. -/
def unlinkedExternals : Externals := ⟨id, id, fun _ => none⟩

/-- The status of a daemon that is connected. -/
def connectedStatus : DaemonStatus :=
  ⟨"connected", none, none, none, none, none, false, none, true, false, none⟩

/-- A catalog with one group of two nodes. -/
def twoRoutes : DaemonCatalog :=
  ⟨7, [⟨"g", "G", true, [⟨"a", "A", true, none⟩, ⟨"b", "B", false, none⟩]⟩]⟩

/-- A sweep that another one overlaps. -/
def overlappedSweep : LatencyRequest := ⟨1, some 7, ["g"], some ⟨1, 7, ["a"]⟩⟩

/-- The catalog of two routes is shown, and the connection is up. -/
def overlappedStart : List Event :=
  [.beginRefresh, .finishMutation .refresh 1 (.ok connectedStatus), .beginCatalogRequest,
    .finishCatalog 1 (.ok twoRoutes)]

/-- While a sweep runs one of the routes is measured on its own. -/
def overlapped : List Event :=
  overlappedStart ++ ([.beginForcedLatencyRequest, .beginNodesLatencyRequest ["b"],
    .finishNodeLatency ⟨2, 7, ["b"]⟩ (.ok [⟨"g", "b", some 20, "ok"⟩])] : List Event)

theorem latency_bookkeeping_overlapped :
    ((overlapped.foldl (Session.next unlinkedExternals) .initial).next unlinkedExternals
      (.finishLatencies overlappedSweep (.ok [⟨"g", "b", none, "timeout"⟩]))).model.rowsOf "b" =
      [("g", [⟨"b", "B", false, some 20, "20 ms", "success"⟩])] := by
  have hrun : Run (Step unlinkedExternals) .initial _ _ :=
    Transition.run_trace_of (Session.next unlinkedExternals) .initial overlapped
      (by decide)
  let source := overlappedStart.foldl (Session.next unlinkedExternals) .initial
  let begun := source.next unlinkedExternals .beginForcedLatencyRequest
  have hshown : ShownSince (Transition.trace (Session.next unlinkedExternals) .initial overlapped)
      overlappedSweep "b" := by
    refine ⟨Transition.trace (Session.next unlinkedExternals) .initial overlappedStart,
      ⟨source, .beginForcedLatencyRequest, begun⟩,
      Transition.trace (Session.next unlinkedExternals) begun (overlapped.drop 5), rfl,
      ⟨by decide, by decide⟩, _, List.mem_cons_of_mem _ List.mem_cons_self, _, _,
      rfl, by decide⟩
  have hkept := (latency_bookkeeping hrun).2.2.2 overlappedSweep
    (.ok [⟨"g", "b", none, "timeout"⟩]) (by decide) "b" (Or.inl hshown)
  rw [hkept]
  decide

end MultiCore.Desktop
