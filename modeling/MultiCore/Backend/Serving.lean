import MultiCore.Backend.Mutating

/-!
# What every request keeps

Selections, and the requests that are mutations or connections, from beginning
to end: each keeps the contract and ends with no lock.
-/

namespace MultiCore.Backend

open Cooperative Daemon

variable {ι : Type} [DecidableEq ι] {aims : Aims} {i : ι} {m : Mine} {α β : Type}
  {p q : CoreRuntime → ProfileStore → Prop}

section Selecting

/-- Agreement reads nothing of the runtime but the state and the catalog. -/
theorem Agrees.congr {r r' : CoreRuntime} {store : ProfileStore} (h : Agrees r store)
    (hstate : r'.state = r.state) (hactive : r'.activeProfile = r.activeProfile)
    (hsnapshot : r'.snapshot = r.snapshot) (hrevision : r'.revision = r.revision)
    (hpending : r'.pendingSnapshot = r.pendingSnapshot) : Agrees r' store := by
  rcases h with h | h
  · exact .inl (h.congr hactive hsnapshot hrevision)
  · refine .inr ⟨hactive.trans h.active, hstate.trans h.connected, ?_⟩
    rw [hpending]
    exact h.pending

/-- A selection is made where there is something to select in. -/
def Selecting (aims : Aims) (r : CoreRuntime) (store : ProfileStore) : Prop :=
  Agreed aims r store ∧ r.state ≠ .empty

/-- A selection is served only with a profile. -/
theorem CoreRuntime.state_of_selection {r : CoreRuntime} {request : SelectionRequest}
    {selection : Selection} (h : r.selection request = .ok selection) : r.state ≠ .empty := by
  intro hempty
  rw [CoreRuntime.selection, if_pos (.inl (by simp [hempty]))] at h
  cases h

/-- Choosing nodes changes neither the state nor the catalog. -/
theorem changeNodes_spec (hm : m.holding = true) {f : CoreRuntime → CoreRuntime}
    (hf : ∀ r, ∃ selected chosen, f r =
      { r with selectedNodes := selected, explicitSelectedNodes := chosen }) :
    Triple (contract aims i) (At i m (Selecting aims)) (change f)
      fun _ => At i m (Selecting aims) := by
  refine updateAt_rule hm (fun _ => rfl) (fun _ _ h _ => h) (fun _ => trivial) fun s _ _ hp _ => ?_
  obtain ⟨selected, chosen, he⟩ := hf s.runtime
  dsimp only
  rw [he]
  refine ⟨respects_of_catalog (fun _ hc => ⟨hc.error_iff, hc.controller, hc.installed⟩)
    (fun _ => .inl rfl) rfl rfl, fun ha => (hp.1 ha).congr rfl rfl rfl rfl rfl, hp.2⟩

/-- The new selection is recorded under the lock. -/
theorem recordSelection_spec (hm : m.holding = true) {selection : Selection}
    {request : SelectionRequest} {maintenanceDebt : Bool} :
    Triple (contract aims i) (At i m (Selecting aims))
      (recordSelection selection request maintenanceDebt) fun _ => At i m (Selecting aims) := by
  refine (restoredSelections_spec (stable_at hm)).bind fun saved => ?_
  refine (look_aside (stable_at hm)).bind fun revision => ?_
  split
  · exact Triple.done (stable_at hm) fun _ _ hp => hp
  · refine Triple.bind (changeNodes_spec hm fun r => ?_) fun _ =>
      Triple.done (stable_at hm) fun _ _ hp => hp
    split
    · exact ⟨_, _, rfl⟩
    · exact ⟨_, _, rfl⟩

/-- A failed selection is undone, or the runtime is in error. -/
theorem compensate_spec (hm : m.holding = true) {selection : Selection} {live : Bool} :
    Triple (contract aims i) (At i m (Selecting aims)) (compensate selection live)
      fun _ => At i m (Agreed aims) := by
  have hnothing : Triple (contract aims i) (At i m (Selecting aims)) (Task.done () : Op ι Unit)
      fun _ => At i m (Agreed aims) :=
    Triple.done (stable_at hm) fun _ _ hp => ⟨hp.1, hp.2.1⟩
  unfold compensate
  split
  · cases live with
    | false => exact hnothing
    | true =>
      refine (ask_rule (stable_at hm) rfl).bind fun applied => ?_
      cases applied with
      | true => exact hnothing
      | false =>
        refine markError_spec hm (fun _ => trivial) fun s hp hg =>
          ⟨hp.2, fun ha _ => hg.keepsController ha, fun ha => ?_⟩
        exact (hp.1 ha).settled (.inr (hg.keepsUp ha))
  · exact hnothing

/-- The save of a route touches neither runtime nor store. -/
theorem saveSelectionAt_spec (hm : m.holding = true) {profile : ProfileId}
    {target : Option (Nat × Nat × Nat)} :
    Triple (contract aims i) (At i m p) (saveSelectionAt profile target) fun _ => At i m p := by
  match target with
  | none => exact Triple.done (stable_at hm) fun _ _ hp => hp
  | some (revision, group, node) =>
    exact read_rule (c := .saveSelection profile revision group node) (stable_at hm)
      (fun _ _ _ h => (Option.some.inj h).symm) (fun _ => stable_at hm) fun _ _ _ hp _ _ => hp

/-- The question to the controller touches neither runtime nor store. -/
theorem selectWhere_spec (hm : m.holding = true) {live : Bool} {group node : String} :
    Triple (contract aims i) (At i m p) (selectWhere live group node) fun _ => At i m p := by
  cases live with
  | true => exact ask_rule (stable_at hm) rfl
  | false => exact Triple.done (stable_at hm) fun _ _ hp => hp

/-- A selection that was accepted ends in agreement. -/
theorem applySelection_spec (hm : m.holding = true) {selection : Selection}
    {request : SelectionRequest} {live : Bool} :
    Triple (contract aims i) (At i m (Selecting aims)) (applySelection selection request live)
      fun _ => At i m (Agreed aims) := by
  refine (selectWhere_spec hm).bind fun applied => ?_
  cases applied with
  | false => exact Triple.done (stable_at hm) fun _ _ hp => ⟨hp.1, hp.2.1⟩
  | true =>
    refine (saveSelectionAt_spec hm).bind fun saved => ?_
    cases saved with
    | ok _ | committed _ =>
      exact (recordSelection_spec hm).weaken (fun _ _ hp => hp) fun _ _ _ hp => ⟨hp.1, hp.2.1⟩
    | refused _ =>
      exact (compensate_spec hm).bind fun _ => Triple.done (stable_at hm) fun _ _ hp => hp

/-- A selection begins and ends outside of the lock. -/
theorem select_spec (hm : m.holding = false) {request : SelectionRequest} :
    Triple (contract aims i) (Out i m) (select i request) fun _ => Out i m := by
  refine locked_rule hm ?_
  have hheld : ({ m with holding := true } : Mine).holding = true := rfl
  refine (ask_rule (stable_at hheld) rfl).bind fun ready => ?_
  refine (look_at hheld (q := fun found r store =>
    Agreed aims r store ∧ r.selection request = found.1)
    fun _ _ _ hp => ⟨hp, rfl⟩).bind fun ⟨selection, live⟩ => ?_
  cases selection with
  | error error => exact Triple.done (stable_at hheld) fun _ _ hp => ⟨hp.1, hp.2.1⟩
  | ok selection =>
    exact (applySelection_spec hheld).weaken
      (fun _ _ hp => ⟨hp.1, hp.2.1, CoreRuntime.state_of_selection hp.2.2⟩) fun _ _ _ hp => hp

end Selecting

section Requests

-- Programs are compared by their calls: how a link is read is not looked into.
attribute [local irreducible] Link.of

variable {id : ProfileId} {url : String}

/-- A request that is a mutation, from its beginning to its end. -/
abbrev Serves (aims : Aims) (i : ι) (m : Mine) (mutation : Mutation ι α) : Prop :=
  Does aims i (Out i m) mutation (fun _ => Released i) (Released i)

/-- What holds of a caller without locks is stable. -/
theorem stable_released : (contract aims i).Stable (Released i) := by
  intro s t ht hs
  rw [Released, ht.1.mine]
  exact hs

/-- A refusal needs nothing. -/
theorem serves_throw (hm : m.holding = false ∧ m.switching = false)
    {post : α → CoreBackend ι → Prop} (error : ProfileMutationError) :
    Does aims i (Out i m) (throw error) post (Released i) :=
  Does.throw stable_out fun _ _ hs => released_of_out hm hs

/-- A part with the operation lock, and what follows it. -/
theorem serves_locked (hm : m.holding = false ∧ m.switching = false) {mutation : Mutation ι α}
    {rest : α → Mutation ι β}
    (h : Mutates aims i { m with holding := true } (Agreed aims) mutation fun _ => Agreed aims)
    (hrest : ∀ a, Serves aims i m (rest a)) : Serves aims i m (lockedMutation i mutation >>= rest) := by
  have hlocked : Does aims i (Out i m) (lockedMutation i mutation) (fun _ => Out i m) (Released i) := by
    refine Triple.weaken (lockedMutation_spec hm.1 h) (fun _ _ hs => hs) fun result s _ hs => ?_
    cases result with
    | ok a => exact hs
    | error error => exact released_of_out hm hs
  exact Does.bind hlocked stable_released hrest

/-- The whole of a request with the operation lock. -/
theorem serves_only_locked (hm : m.holding = false ∧ m.switching = false) {mutation : Mutation ι α}
    (h : Mutates aims i { m with holding := true } (Agreed aims) mutation fun _ => Agreed aims) :
    Serves aims i m (lockedMutation i mutation) := by
  refine Triple.weaken (lockedMutation_spec hm.1 h) (fun _ _ hs => hs) fun result s _ hs => ?_
  cases result <;> exact released_of_out hm hs

/-- A check or a look without a lock, and what follows it. -/
theorem serves_perform {task : Op ι α} {rest : α → Mutation ι β}
    (h : Triple (contract aims i) (Out i m) task fun _ => Out i m)
    (hrest : ∀ a, Serves aims i m (rest a)) : Serves aims i m (perform task >>= rest) :=
  Does.bind (Does.perform h fun _ => stable_out) stable_released hrest

/-- A check may be made without a lock. -/
theorem serves_require (hm : m.holding = false ∧ m.switching = false)
    {condition : CoreBackend ι → Bool} {error : ProfileMutationError} {rest : Unit → Mutation ι β}
    (hrest : Serves aims i m (rest ())) :
    Serves aims i m
      ((do if ← perform (look condition) then return () else throw error) >>= rest) :=
  Does.bind (require_spec stable_out stable_released fun _ hs => released_of_out hm hs)
    stable_released fun _ => hrest

/-- The check for an active profile changes nothing. -/
theorem requireActive_spec {pre failed : CoreBackend ι → Prop}
    (hpre : (contract aims i).Stable pre) (hfailed : (contract aims i).Stable failed)
    (h : ∀ s, pre s → failed s) : Does aims i pre requireActive (fun _ => pre) failed := by
  refine Does.bind (Does.perform (look_aside hpre) fun _ => hpre) hfailed fun active => ?_
  cases active with
  | some id => exact Does.done hpre fun _ _ hs => hs
  | none => exact Does.throw hpre fun s _ hs => h s hs

/-- A download made without the lock. -/
theorem prefetchProfile_spec (hm : m.holding = false ∧ m.switching = false) :
    Does aims i (Out i m) (prefetchProfile id)
      (fun prefetched s => Out i m s ∧ prefetched.Genuine) (Released i) := by
  have hsource : Does aims i (Out i m) (profileSourceUrl id) (fun _ => Out i m) (Released i) := by
    have hload : Does aims i (Out i m) (loadProfile id) (fun _ => Out i m) (Released i) := by
      refine Does.bind (Does.perform (profileSnapshot_aside stable_out) fun _ => stable_out)
        stable_released fun a => ?_
      cases a with
      | ok generation => exact Does.done stable_out fun _ _ hs => hs
      | error error => exact serves_throw hm _
    refine Does.bind hload stable_released fun generation => ?_
    cases generation.snapshot.source with
    | some link => exact Does.done stable_out fun _ _ hs => hs
    | none => exact serves_throw hm _
  refine Does.bind hsource stable_released fun link => ?_
  refine Does.bind (fetchSubscription_spec stable_out stable_released fun _ hs =>
    released_of_out hm hs) stable_released fun snapshot => ?_
  exact Does.done (fun s t ht hs => ⟨stable_out s t ht hs.1, hs.2⟩) fun _ _ hs => hs

/-- A request ends with what its mutation came to. -/
theorem serves_result {pre : CoreBackend ι → Prop} (hpre : (contract aims i).Stable pre)
    (h : ∀ s, pre s → Released i s) (result : Except ProfileMutationError α) :
    Does aims i pre (ExceptT.mk (pure result)) (fun _ => Released i) (Released i) := by
  cases result with
  | ok a => exact Does.done hpre fun s _ hs => h s hs
  | error error => exact Does.throw hpre fun s _ hs => h s hs

/-- The refresh of the active profile, under the lock. -/
theorem refreshSubscriptionLocked_spec (hm : m.holding = true) {prefetched : Prefetched}
    (hgenuine : prefetched.Genuine) :
    Mutates aims i m (Agreed aims) (refreshSubscriptionLocked id prefetched)
      fun _ => Agreed aims := by
  refine Mutates.bind hm (require_spec (stable_at hm) (stable_at hm) fun _ hs => hs) fun _ => ?_
  refine Mutates.bind hm (requireActive_spec (stable_at hm) (stable_at hm) fun _ hs => hs)
    fun active => Mutates.perform hm (Does.result (refreshProfileLocked_spec hm ?_))
  intro download hdownload
  obtain ⟨-, ⟨⟩⟩ := Option.ite_none_right_eq_some.mp hdownload
  exact hgenuine

/-- The list of the profiles changes nothing. -/
theorem subscriptionList_spec (hm : m.holding = true) (hp : ∀ r store, p r store → Agreed aims r store) :
    Mutates aims i m p subscriptionList fun _ => p := by
  have hlist : Triple (contract aims i) (At i m p) listProfiles fun _ => At i m p :=
    read_rule (c := .list) (stable_at hm) (fun _ _ _ h => (Option.some.inj h).symm)
      (fun _ => stable_at hm) fun _ _ _ hp _ _ => hp
  refine Mutates.bind hm (Mutates.perform hm hlist) fun listed => ?_
  cases listed with
  | true => exact Mutates.done hm fun _ _ h => h
  | false => exact Mutates.throw hm hp

/-- The refresh of any profile, under the lock. -/
theorem refreshSubscriptionProfileLocked_spec (hm : m.holding = true) {prefetched : Prefetched}
    (hgenuine : prefetched.Genuine) :
    Mutates aims i m (Agreed aims) (refreshSubscriptionProfileLocked id prefetched)
      fun _ => Agreed aims := by
  refine Mutates.bind hm (require_spec (stable_at hm) (stable_at hm) fun _ hs => hs) fun _ => ?_
  refine Mutates.bind hm (refreshProfileLocked_spec hm ?_) fun _ =>
    Mutates.perform hm (Does.result (subscriptionList_spec hm fun _ _ hp => hp))
  rintro download ⟨⟩
  exact hgenuine

/-- A refresh: a download without the lock, the replacement with it, and the connection moved. -/
theorem refresh_spec {γ : Type} (hm : m.holding = false ∧ m.switching = false)
    {locked : Prefetched → Mutation ι (Except ProfileMutationError γ)}
    (h : ∀ prefetched : Prefetched, prefetched.Genuine →
      Mutates aims i { m with holding := true } (Agreed aims) (locked prefetched) fun _ => Agreed aims) :
    Serves aims i m (do
      let prefetched ← prefetchProfile id
      let result ← lockedMutation i (locked prefetched)
      perform (moveToPending i)
      ExceptT.mk (pure result)) := by
  refine Does.bind (prefetchProfile_spec hm) stable_released fun prefetched => ?_
  by_cases hgenuine : prefetched.Genuine
  · refine Does.weaken (serves_locked hm (h prefetched hgenuine) fun result => ?_)
      (fun _ _ hs => hs.1) fun _ _ _ hs => hs
    refine Does.bind (Does.perform (moveToPending_spec hm.1) fun _ => stable_released)
      stable_released fun _ => ?_
    exact serves_result stable_released (fun _ hs => hs) result
  · exact fun s _ hs => absurd hs.2 hgenuine

/-- The whole refresh of the active profile. -/
theorem refreshSubscription_spec (hm : m.holding = false ∧ m.switching = false) :
    Serves aims i m (refreshSubscription i) := by
  refine serves_require hm ?_
  refine Does.bind (requireActive_spec stable_out stable_released fun _ hs => released_of_out hm hs)
    stable_released fun id => ?_
  exact refresh_spec hm fun prefetched hgenuine => refreshSubscriptionLocked_spec rfl hgenuine

/-- The whole refresh of any profile. -/
theorem refreshSubscriptionProfile_spec (hm : m.holding = false ∧ m.switching = false) :
    Serves aims i m (refreshSubscriptionProfile i id) := by
  refine serves_require hm (serves_require hm ?_)
  exact refresh_spec hm fun prefetched hgenuine => refreshSubscriptionProfileLocked_spec rfl hgenuine

/-- An activation takes the lock and gives it back. -/
theorem activateSubscriptionTimed_spec (hm : m.holding = false) :
    Does aims i (Out i m) (activateSubscriptionTimed i id) (fun _ => Out i m) (Out i m) :=
  Does.bind (require_spec stable_out stable_out fun _ hs => hs) stable_out fun _ =>
    lockedMutation_spec hm (activateLocked_spec rfl)

/-- The whole activation. -/
theorem activateSubscription_spec (hm : m.holding = false ∧ m.switching = false) :
    Serves aims i m (activateSubscription i id) := by
  refine serves_require hm ?_
  have hturning : ({ m with switching := true } : Mine).Turning none :=
    ⟨hm.1, rfl, by rintro ⟨⟩⟩
  have hstable : ∀ resume, (contract aims i).Stable fun s => (s.mine i).Turning resume := by
    intro resume s t ht hs
    have hmine : t.mine i = s.mine i := ht.1.mine
    rw [hmine]
    exact hs
  refine Does.bind (Does.perform takeGenerationChange_rule fun _ => stable_out) stable_released
    fun _ => ?_
  refine Does.bind (Does.perform (pauseForGenerationChange_spec hturning) hstable) stable_released
    fun resume => ?_
  have htimed : Triple (contract aims i) (fun s => (s.mine i).Turning resume)
      (activateSubscriptionTimed i id).run fun _ s => (s.mine i).Turning resume := by
    refine triple_of_out fun m' hm' => ?_
    refine (Does.result (activateSubscriptionTimed_spec hm'.free)).weaken (fun _ _ hs => hs) ?_
    exact fun _ s _ hs => turning_of_out hm' hm'.bound hs
  refine Does.bind (Does.perform htimed fun _ => hstable resume) stable_released fun result => ?_
  refine Does.bind (Does.perform resumeWhere_spec fun _ => hstable none) stable_released fun _ => ?_
  refine Does.bind (Does.perform endSwitch_spec fun _ => stable_released) stable_released fun _ => ?_
  exact serves_result stable_released (fun _ hs => hs) result

/-- A look-up without the lock. -/
theorem findExactSource_aside {link : Link} :
    Triple (contract aims i) (Out i m) (findExactSource link) fun _ => Out i m := by
  refine read_rule (c := .findSource link) stable_out (fun a store store' h => ?_)
    (fun _ => stable_out) fun _ _ _ hs _ _ => hs
  exact respond_findSource h

/-- An import while connected stores without activating. -/
theorem importWhileConnected_spec (hm : m.holding = false ∧ m.switching = false) :
    Serves aims i m (importWhileConnected i url) := by
  unfold importWhileConnected
  dsimp only
  split
  · exact serves_throw hm _
  · refine serves_perform findExactSource_aside fun found => ?_
    cases found with
    | error error => exact serves_throw hm _
    | ok existing =>
      refine serves_perform (look_aside stable_out) fun same => ?_
      cases same with
      | true => exact refreshSubscription_spec hm
      | false =>
        refine Does.bind (fetchSubscription_spec stable_out stable_released fun _ hs =>
          released_of_out hm hs) stable_released fun snapshot => ?_
        by_cases hsource : snapshot.source = some (Link.of url)
        · refine Does.weaken (serves_locked hm (storeInactiveProfileLocked_spec rfl hsource)
            fun id => ?_) (fun _ _ hs => hs.1) fun _ _ _ hs => hs
          refine Does.bind (Does.perform (Does.result (activateSubscription_spec hm))
            fun _ => stable_released) stable_released fun result => ?_
          match result with
          | .ok () | .error .connected => exact Does.done stable_released fun _ _ hs => hs
          | .error .notFound | .error .limitReached | .error .storage | .error .committed
          | .error .fetch => exact Does.throw stable_released fun _ _ hs => hs
        · exact fun s _ hs => absurd hs.2 hsource

/-- The whole import, connected or not. -/
theorem importSubscription_spec (hm : m.holding = false ∧ m.switching = false) :
    Serves aims i m (importSubscription i url) := by
  refine serves_perform (look_aside stable_out) fun connected => ?_
  cases connected with
  | true => exact importWhileConnected_spec hm
  | false => exact serves_only_locked hm (importProfileLocked_spec rfl)

/-- A user may give a profile the link of another one. -/
theorem replaceSubscriptionSource_spec (hlinks : ¬ aims.links)
    (hm : m.holding = false ∧ m.switching = false) :
    Serves aims i m (replaceSubscriptionSource i id url) := by
  refine serves_require hm (serves_only_locked hm ?_)
  refine Mutates.bind rfl (require_spec (stable_at rfl) (stable_at rfl) fun _ hs => hs) fun _ => ?_
  refine Mutates.bind rfl ((replaceProfileSourceLocked_spec rfl (by rintro _ ⟨⟩)).weaken
    (fun _ _ hp => ⟨hp, fun ha => absurd ha hlinks⟩) fun _ _ _ hp => hp) fun _ => ?_
  exact subscriptionList_spec rfl fun _ _ hp => hp

/-- The whole deletion. -/
theorem deleteSubscription_spec (hm : m.holding = false ∧ m.switching = false) :
    Serves aims i m (deleteSubscription i id) :=
  serves_require hm (serves_require hm (serves_only_locked hm (deleteLocked_spec rfl)))

/-- A mutation that serves gives an answer and holds nothing after it. -/
theorem answer_spec {mutation : Mutation ι Unit} (h : Serves aims i m mutation) :
    Triple (contract aims i) (Out i m) (answer mutation) fun _ => Released i := by
  refine Triple.bind (Does.result h) fun result => ?_
  cases result <;> exact Triple.done stable_released fun _ _ hs => hs

end Requests

end MultiCore.Backend
