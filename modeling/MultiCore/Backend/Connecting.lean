import MultiCore.Backend.Rules

/-!
# What the operations of a connection keep

One triple for each operation: reconciling, Disconnect and Connect, and the
requests for the latter two.
-/

namespace MultiCore.Backend

open Cooperative Daemon

section Runtimes

variable {r : CoreRuntime} {store store' : ProfileStore} {id : ProfileId}
  {generation : Generation} {controller : Option Controller} {saved : List (Option String)}

/-- What the store says is installed, and no connection is up. -/
structure Renewed (r : CoreRuntime) (store : ProfileStore) : Prop where
  settled : Settled r store
  accepting : Accepting r

theorem Settled.agrees (h : Settled r store) : Agrees r store := .inl h

/-- What is not waiting for the end of a connection is settled. -/
theorem Agrees.settled (h : Agrees r store)
    (hnot : r.state ≠ .connected ∨ r.pendingSnapshot = none) : Settled r store := by
  rcases h with h | h
  · exact h
  · obtain ⟨_, _, _, _, hpending⟩ := h.pending
    rcases hnot with hstate | hnone
    · exact absurd h.connected hstate
    · rw [hnone] at hpending
      cases hpending

/-- Settling reads nothing but the catalog. -/
theorem Settled.congr {r' : CoreRuntime} (h : Settled r store)
    (hactive : r'.activeProfile = r.activeProfile) (hsnapshot : r'.snapshot = r.snapshot)
    (hrevision : r'.revision = r.revision) : Settled r' store := by
  constructor
  · rw [hactive]
    exact h.active
  · rw [hsnapshot]
    exact h.empty
  · rw [hsnapshot, hrevision]
    exact h.installed

theorem Settled.markError (h : Settled r store) : Settled r.markError store :=
  h.congr rfl rfl rfl

theorem Settled.settled {next : ConnectionState} (h : Settled r store) :
    Settled (r.settled next) store := by
  unfold CoreRuntime.settled
  split
  · exact h.congr rfl rfl rfl
  · exact h

/-- An installed generation is what the store says. -/
theorem settled_install (hactive : store.active = some id)
    (hgeneration : store.generation id = some generation) :
    Settled ((CoreRuntime.cleared (some id)).applySnapshot id generation controller saved) store := by
  refine ⟨hactive.symm, fun hnone => ?_, fun other hother => .inl ?_⟩
  · rw [hactive] at hnone
    cases hnone
  · rw [hactive] at hother
    cases hother
    exact ⟨generation, hgeneration, rfl, rfl⟩

theorem accepting_install {active : Option ProfileId} :
    Accepting ((CoreRuntime.cleared active).applySnapshot id generation controller saved) :=
  ⟨.inr ⟨rfl, by simp [CoreRuntime.applySnapshot]⟩, rfl⟩

theorem accepting_cleared {active : Option ProfileId} : Accepting (CoreRuntime.cleared active) :=
  ⟨.inl rfl, rfl⟩

theorem coherent_markError (hstate : r.state ≠ .empty) (hcontroller : r.controller ≠ none)
    (h : Coherent r) : Coherent r.markError := by
  constructor
  · simp
  · intro _
    exact hcontroller
  · intro _
    exact h.installed hstate

/-- A move between the states that need a controller, or from them to Ready. -/
theorem coherent_settled {next : ConnectionState}
    (hstate : r.state = .connecting ∨ r.state = .connected ∨ r.state = .error)
    (hnext : next = .ready ∨ next = .connected) (h : Coherent r) :
    Coherent (r.settled next) := by
  unfold CoreRuntime.settled
  split
  · constructor
    · rcases hnext with rfl | rfl <;> simp
    · exact fun _ => h.controller hstate
    · intro _
      refine h.installed fun hempty => ?_
      rw [hempty] at hstate
      simp at hstate
  · exact h

/-- What is neither Empty nor Ready has a controller. -/
theorem Coherent.exists_controller (h : Coherent r) (hempty : r.state ≠ .empty)
    (hready : r.state ≠ .ready) : r.controller ≠ none := by
  apply h.controller
  cases hs : r.state <;> simp_all

/-- Where no connection is up or has failed, the daemon accepts. -/
theorem Coherent.accepting (h : Coherent r) (hstate : r.state = .empty ∨ r.state = .ready) :
    Accepting r := by
  have hdegraded : r.degraded = false := by
    by_contra hd
    have herror := h.error_iff.mpr (by simpa using hd)
    rw [herror] at hstate
    simp at hstate
  refine ⟨hstate.imp_right fun hready => ⟨hready, h.installed (by simp [hready])⟩, hdegraded⟩

theorem LinksKept.of_same (hprofiles : store'.profiles = store.profiles)
    (hgeneration : store'.generation = store.generation) : LinksKept store store' := by
  intro link a b _ ha hb
  simp only [ProfileStore.Has, ProfileStore.hasSource, hprofiles, hgeneration] at ha hb
  exact ⟨ha, hb⟩

end Runtimes

section Reconciled

variable {ι : Type} {aims : Aims} {m : Mine}

/-- An installation leaves the recorded revision or forgets it. -/
theorem Warm.installed_of {content : Nat → Snapshot} {s t : CoreBackend ι} (h : Warm content s)
    (hstore : t.store = s.store) (hprepared : t.prepared = s.prepared)
    (hinstalled : ∀ snapshot ∈ t.runtime.snapshot, content t.runtime.revision = snapshot)
    (hbare : t.runtime.snapshot = none ↔ t.runtime.revision = 0)
    (hwarm : ∀ revision ∈ t.warmRevision, revision ∈ s.warmRevision ∧
      revision = t.runtime.revision) : Warm content t := by
  refine ⟨hstore ▸ h.meant, hinstalled, hbare, fun revision hr => ?_, fun revision hr => ?_⟩
  · obtain ⟨hs, heq⟩ := hwarm revision hr
    exact ⟨(h.recorded revision hs).1, heq⟩
  · rw [hprepared]
    exact h.prepared revision (hwarm revision hr).1

theorem reconciled_warm {s : CoreBackend ι} {id : ProfileId} {generation : Generation}
    {saved : List (Option String)} :
    ∀ revision ∈ (s.reconciled id generation saved).warmRevision,
      revision ∈ s.warmRevision ∧ revision = (s.reconciled id generation saved).runtime.revision := by
  unfold CoreBackend.reconciled
  dsimp only
  split
  · rename_i hkept
    intro revision hr
    exact ⟨hr, Option.some.inj (hr.symm.trans hkept.2.1)⟩
  · rintro revision ⟨⟩

theorem reconciled_runtime {s : CoreBackend ι} {id : ProfileId} {generation : Generation}
    {saved : List (Option String)} :
    (s.reconciled id generation saved).runtime =
      (CoreRuntime.cleared (some id)).applySnapshot id generation none saved := by
  unfold CoreBackend.reconciled
  dsimp only
  split <;> rfl

theorem reconciled_frame {s : CoreBackend ι} {id : ProfileId} {generation : Generation}
    {saved : List (Option String)} :
    (s.reconciled id generation saved).frame = s.frame ∧
      (s.reconciled id generation saved).autoReconnect = s.autoReconnect := by
  unfold CoreBackend.reconciled
  dsimp only
  split <;> exact ⟨rfl, rfl⟩

/-- Clearing the runtime, whatever it was. -/
theorem respects_clear {s : CoreBackend ι} {active : Option ProfileId} :
    Respects aims m s (s.clearForActive active) := by
  refine ⟨fun _ _ => accepting_cleared.coherent, fun hlive => ?_, fun _ hw => ?_, .inr ?_⟩
  · rw [show (s.clearForActive active).runtime = .cleared active from rfl,
      accepting_cleared.not_live] at hlive
    cases hlive
  · exact hw.installed_of rfl rfl (by rintro _ ⟨⟩) (iff_of_true rfl rfl) (by rintro _ ⟨⟩)
  · rintro _ ⟨⟩

/-- Installing a generation of the store, whatever the runtime was. -/
theorem respects_install {s t : CoreBackend ι} {id : ProfileId} {generation : Generation}
    {controller : Option Controller} {saved : List (Option String)}
    (hactive : s.store.active = some id) (hgeneration : s.store.generation id = some generation)
    (hframe : t.frame = s.frame)
    (hruntime : t.runtime =
      (CoreRuntime.cleared (some id)).applySnapshot id generation controller saved)
    (hwarm : ∀ revision ∈ t.warmRevision, revision ∈ s.warmRevision ∧
      revision = t.runtime.revision) : Respects aims m s t := by
  simp only [CoreBackend.frame, Prod.mk.injEq] at hframe
  refine ⟨fun _ _ => ?_, fun hlive => ?_, fun _ hw => ?_, .inr fun revision hr => (hwarm revision hr).1⟩
  · rw [hruntime]
    exact accepting_install.coherent
  · rw [hruntime, accepting_install.not_live] at hlive
    cases hlive
  · refine hw.installed_of hframe.2.2.1 hframe.2.2.2.2.1 ?_ ?_ hwarm
    · rw [hruntime]
      rintro snapshot ⟨⟩
      exact hw.meant id (s.store.listed id hactive) generation hgeneration
    · rw [hruntime]
      exact iff_of_false (by rintro ⟨⟩) generation.revision.ne_zero

end Reconciled

variable {ι : Type} [DecidableEq ι] {aims : Aims} {i : ι} {m : Mine}
  {p q : CoreRuntime → ProfileStore → Prop}

section Reconciling

/-- What loading the active profile told of the store, whose active profile was looked up. -/
def Loaded (active : Option ProfileId) (store : ProfileStore) :
    Except ProfileError (Option (ProfileId × Generation)) → Prop
  | .ok (some (id, generation)) =>
    active = some id ∧ store.active = some id ∧ store.generation id = some generation
  | .ok none => active = none ∧ store.active = none
  | .error _ => ∃ id, active = some id ∧ store.active = some id ∧ store.unread id = true

theorem loaded_of_respond {active : Option ProfileId} {store store' : ProfileStore}
    {a : Except ProfileError (Option (ProfileId × Generation))} (hactive : active = store.active)
    (h : store.respond .loadActive a = some store') :
    Loaded active store' a ∧ store'.profiles = store.profiles ∧
      store'.generation = store.generation := by
  match a, h with
  | .ok none, h =>
    obtain ⟨hnone, ⟨⟩⟩ := Option.ite_none_right_eq_some.mp h
    exact ⟨⟨hactive.trans hnone, hnone⟩, rfl, rfl⟩
  | .ok (some (id, generation)), h =>
    obtain ⟨⟨hsome, hgeneration⟩, ⟨⟩⟩ := Option.ite_none_right_eq_some.mp h
    exact ⟨⟨hactive.trans hsome, hsome, hgeneration⟩, rfl, rfl⟩
  | .error _, h =>
    obtain ⟨id, hid, rfl⟩ := Option.map_eq_some_iff.mp h
    exact ⟨⟨id, hactive.trans hid, hid, by simp⟩, rfl, rfl⟩

/-- Loading the active profile with the operation lock held. -/
theorem activeSnapshot_spec (hm : m.holding = true) {active : Option ProfileId} :
    Triple (contract aims i) (At i m fun _ store => active = store.active) activeSnapshot
      fun a => At i m fun _ store => Loaded active store a := by
  refine call_rule hm (fun a r store store' hp ha _ _ => ?_) fun a r store store' hp ha _ => ?_
  · obtain ⟨-, hprofiles, hgeneration⟩ := loaded_of_respond hp ha
    exact .of_same hprofiles hgeneration
  · exact (loaded_of_respond hp ha).1

/-- Reading the saved selections changes nothing. -/
theorem restoredSelections_spec (hpre : (contract aims i).Stable (At i m p)) {id : ProfileId}
    {revision : Nat} {snapshot : Snapshot} :
    Triple (contract aims i) (At i m p) (restoredSelections id revision snapshot)
      fun _ => At i m p := by
  refine read_rule hpre (fun a store store' h => ?_) (fun _ => hpre) fun _ _ _ hp _ _ => hp
  exact (Option.some.inj (Option.ite_none_right_eq_some.mp h).2).symm

/-- Whatever the runtime was, it is what the store says after reconciling. -/
theorem reconcileAuthoritative_spec (hm : m.holding = true) :
    Triple (contract aims i) (At i m fun _ _ => True) reconcileAuthoritative
      fun _ => At i m Renewed := by
  have hclear : ∀ (active : Option ProfileId) (q : CoreRuntime → ProfileStore → Prop),
      (∀ r store, q r store → Settled (.cleared active) store) →
      Triple (contract aims i) (At i m q)
        (update fun s => s.clearForActive active) fun _ => At i m Renewed := by
    intro active q hq
    refine updateAt_rule hm (fun _ => rfl) (fun _ _ h _ => h) (fun _ => trivial) fun s _ _ hp _ =>
      ⟨respects_clear, ?_⟩
    exact ⟨hq _ _ hp, accepting_cleared⟩
  refine (look_at hm (q := fun active _ store => active = store.active)
    fun s _ _ _ => rfl).bind fun active => (activeSnapshot_spec hm).bind fun a => ?_
  match a with
  | .ok none =>
    refine hclear active _ fun r store ⟨hactive, hnone⟩ => ⟨hactive.trans hnone.symm, fun _ => rfl, ?_⟩
    intro id hid
    rw [hnone] at hid
    cases hid
  | .error _ =>
    refine hclear active _ fun r store ⟨id, hactive, hsome, hunread⟩ =>
      ⟨hactive.trans hsome.symm, fun _ => rfl, fun other hother => .inr ⟨?_, rfl⟩⟩
    rw [hsome] at hother
    cases hother
    exact hunread
  | .ok (some (id, generation)) =>
    refine (restoredSelections_spec (stable_at hm)).bind fun saved => ?_
    refine updateAt_rule hm (fun _ => reconciled_frame.1)
      (fun s _ h _ => reconciled_frame.2.trans h) (fun _ => trivial) fun s _ _ hp _ => ?_
    obtain ⟨-, hactive, hgeneration⟩ := hp
    refine ⟨respects_install hactive hgeneration reconciled_frame.1 reconciled_runtime
      reconciled_warm, ?_⟩
    rw [reconciled_runtime]
    exact ⟨settled_install hactive hgeneration, accepting_install⟩

end Reconciling

section Disconnecting

variable {pre : CoreBackend ι → Prop}

theorem stop_spec (hpre : (contract aims i).Stable pre) {controller : Controller}
    {engine : Engine} :
    Triple (contract aims i) pre (stop controller engine) fun _ => pre :=
  ask_rule hpre rfl

/-- Stopping both engines. -/
theorem supervisorDisconnect_spec (hpre : (contract aims i).Stable pre) {controller : Controller} :
    Triple (contract aims i) pre (Supervisor.disconnect (supervised controller)) fun _ => pre :=
  (stop_spec hpre).bind fun _ => (stop_spec hpre).bind fun _ =>
    Triple.done hpre fun _ _ hp => hp

/-- The states from which a connection is settled. -/
def Unsettled (r : CoreRuntime) : Prop :=
  r.state = .connecting ∨ r.state = .connected ∨ r.state = .error

theorem Unsettled.allows_ready {r : CoreRuntime} (h : Unsettled r) :
    r.state.allows .ready = true := by
  rcases h with h | h | h <;> rw [h] <;> rfl

/-- A move to Ready, or from Connecting to Connected. -/
theorem settle_spec (hm : m.holding = true) {next : ConnectionState}
    (hstate : ∀ r store, p r store → Unsettled r)
    (hnext : next = .ready ∨ next = .connected ∧ m.entitled = true) :
    Triple (contract aims i) (At i m p) (settle next) fun ok => At i m fun r store =>
      ∃ r₀, p r₀ store ∧ ok = r₀.state.allows next ∧ r = r₀.settled next := by
  refine Triple.atomic (stable_at hm) (fun _ => stable_at hm) fun s hs hp _ => ?_
  have hunsettled := hstate _ _ hp.2
  refine ⟨trivial, own_of_respects hs (.inl (hp.1 ▸ hm)) rfl (fun h _ => h) ?_, hp.1,
    s.runtime, hp.2, rfl, rfl⟩
  refine respects_of_catalog (fun _ hc => ?_) (fun hlive => ?_) ?_ ?_
  · exact coherent_settled hunsettled (hnext.imp_right And.left) hc
  · rcases hnext with rfl | ⟨-, hentitled⟩
    · simp [CoreRuntime.settled, hunsettled.allows_ready, CoreRuntime.live] at hlive
    · exact .inr (hp.1 ▸ hentitled)
  · unfold CoreRuntime.settled
    split <;> rfl
  · unfold CoreRuntime.settled
    split <;> rfl

/-- An error of a connection is recorded. -/
theorem markError_spec (hm : m.holding = true) {place : Place}
    (hshows : ∀ s : CoreBackend ι, Shows aims place s)
    (hp : ∀ s : CoreBackend ι, p s.runtime s.store → Grant aims i place s →
      s.runtime.state ≠ .empty ∧ (aims.coherence → Coherent s.runtime → s.runtime.controller ≠ none) ∧
        (aims.agreement → Settled s.runtime s.store)) :
    Triple (contract aims i) (At i m p)
      (updateAt place fun s => { s with runtime := s.runtime.markError })
      fun _ => At i m (Agreed aims) := by
  refine updateAt_rule hm (fun _ => rfl) (fun _ _ h _ => h) hshows fun s _ _ hs hg => ?_
  obtain ⟨hstate, hcontroller, hsettled⟩ := hp s hs hg
  refine ⟨respects_of_catalog (fun ha hc => coherent_markError hstate (hcontroller ha hc) hc)
    (fun hlive => ?_) rfl rfl, fun ha => (hsettled ha).markError.agrees⟩
  simp [CoreRuntime.live] at hlive

/-- What is known of the state once an operation of the connection is over. -/
def Ended (i : ι) (m : Mine) (result : Except BackendError Unit) (s : CoreBackend ι) : Prop :=
  Out i { m with holding := false } s ∧
    (m.switching = true → result = .ok () → s.runtime.live = false)

theorem stable_ended {result : Except BackendError Unit} :
    (contract aims i).Stable (Ended i m result) := by
  rintro s t ht ⟨hout, hlive⟩
  refine ⟨stable_out s t ht hout, fun hw hok => ?_⟩
  by_contra hup
  have hup := ht.1.live (by rw [hout]; exact hw) (by simpa using hup)
  rw [hlive hw hok] at hup
  cases hup

/-- A Disconnect gives the operation lock back and returns. -/
theorem giveDisconnected_spec (hm : m.holding = true) {failed : Bool}
    {result : Except BackendError Unit} (hagree : ∀ r store, p r store → Agreed aims r store)
    (hshows : ∀ s : CoreBackend ι, Sound aims s → p s.runtime s.store →
      Shows aims (.disconnected failed) s)
    (hdown : ∀ r store, p r store → result = .ok () → r.live = false) :
    Triple (contract aims i) (At i m p)
      (do
        giveOperation (.disconnected failed)
        return result) (Ended i m) :=
  Triple.bind (giveOperation_rule (result = .ok ()) hm hagree hshows hdown) fun _ =>
    Triple.done stable_ended fun _ _ hp => hp

/-- A connection that has to be stopped, or was stopped, with the lock held since before. -/
def Stopping (aims : Aims) (r : CoreRuntime) (store : ProfileStore) : Prop :=
  Unsettled r ∧ Agreed aims r store ∧ (aims.coherence → r.controller ≠ none)

theorem afterStop_spec (hm : m.holding = true) {result : Except SupervisorError Unit} :
    Triple (contract aims i) (At i m (Stopping aims)) (afterStop result) (Ended i m) := by
  cases result with
  | ok _ =>
    refine (settle_spec hm (fun _ _ hp => hp.1) (.inl rfl)).bind fun ok => ?_
    cases ok with
    | true =>
      refine ((reconcileAuthoritative_spec hm).weaken (fun _ _ hp => ⟨hp.1, trivial⟩)
        fun _ _ _ hp => hp).bind fun _ => ?_
      exact giveDisconnected_spec hm (fun _ _ hp _ => hp.settled.agrees)
        (fun _ _ hp _ => hp.accepting) fun _ _ hp _ => hp.accepting.not_live
    | false =>
      refine giveDisconnected_spec hm ?_ ?_ ?_
      all_goals
        rintro _ _ ⟨r, hp, hallows, -⟩
        rw [hp.1.allows_ready] at hallows
        cases hallows
  | error _ =>
    refine Triple.bind (markError_spec hm (fun _ => trivial) fun s hp hg =>
      ⟨?_, fun ha _ => hp.2.2 ha, fun ha => ?_⟩) fun _ =>
      giveDisconnected_spec hm (fun _ _ hp => hp) (fun _ _ _ => trivial) (by rintro _ _ _ ⟨⟩)
    · rcases hp.1 with h | h | h <;> simp [h]
    · exact (hp.2.1 ha).settled (.inr (hg.keepsUp ha))

/-- A Disconnect that does not fail to stop the cores leaves the daemon accepting. -/
theorem disconnectNow_spec :
    Triple (contract aims i) (Out i m) (disconnectNow i) (Ended i m) := by
  refine takeOperation_rule.bind fun _ => ?_
  refine (look_at rfl (q := fun runtime r store =>
    r = runtime ∧ Agreed aims r store ∧ (aims.coherence → Coherent r))
    fun s hs _ hp => ⟨rfl, hp, hs.coherence⟩).bind fun runtime => ?_
  split
  · rename_i hstate
    refine giveDisconnected_spec rfl (fun _ _ hp => hp.2.1) ?_ ?_
    · rintro s hs ⟨hr, -, -⟩ ha
      exact (hs.coherence ha).accepting (hr ▸ hstate)
    · rintro r store ⟨rfl, -, -⟩ -
      rcases hstate with h | h <;> simp [CoreRuntime.live, h]
  · rename_i hstate
    push Not at hstate
    cases hcontroller : runtime.controller with
    | none =>
      refine giveDisconnected_spec rfl (fun _ _ hp => hp.2.1) ?_ (by rintro _ _ _ ⟨⟩)
      rintro s hs ⟨rfl, -, -⟩ ha
      exact absurd hcontroller ((hs.coherence ha).exists_controller hstate.1 hstate.2)
    | some controller =>
      refine (supervisorDisconnect_spec (stable_at rfl)).bind fun result =>
        (afterStop_spec (m := { m with holding := true }) rfl).weaken ?_ fun _ _ _ hp => hp
      rintro s - ⟨hmine, rfl, hagreed, -⟩
      refine ⟨hmine, ?_, hagreed, fun _ => by simp [hcontroller]⟩
      unfold Unsettled
      cases hs : s.runtime.state <;> simp_all

end Disconnecting

section Connecting

/-- A connection of this snapshot is coming up. -/
structure ComingUp (aims : Aims) (snapshot : Snapshot) (r : CoreRuntime) (store : ProfileStore) :
    Prop where
  state : r.state = .connecting
  controller : r.controller ≠ none
  snapshot : r.snapshot = some snapshot
  settled : aims.agreement → Settled r store

variable {snapshot : Snapshot} {options : ConnectOptions}

theorem ComingUp.unsettled {r : CoreRuntime} {store : ProfileStore}
    (h : ComingUp aims snapshot r store) : Unsettled r :=
  .inl h.state

theorem replaySelections_spec (hm : m.holding = true) (queued : List (String × String)) :
    Triple (contract aims i) (At i m p) (replaySelections queued) fun _ => At i m p := by
  induction queued with
  | nil => exact Triple.done (stable_at hm) fun _ _ hp => hp
  | cons head queued ih =>
    refine (ask_rule (stable_at hm) rfl).bind fun applied => ?_
    cases applied with
    | true => exact ih
    | false => exact Triple.done (stable_at hm) fun _ _ hp => hp

/-- A connection that does not come up ends in Ready. -/
theorem settleReady_spec (hm : m.holding = true) :
    Triple (contract aims i) (At i m (ComingUp aims snapshot)) (settle .ready)
      fun _ => At i m (Agreed aims) := by
  refine (settle_spec hm (fun _ _ hp => hp.unsettled) (.inl rfl)).weaken (fun _ _ hp => hp) ?_
  rintro ok s - ⟨hmine, r₀, hp, -, hr⟩
  refine ⟨hmine, fun ha => ?_⟩
  rw [hr]
  exact (hp.settled ha).settled.agrees

theorem markComingUp_spec (hm : m.holding = true) :
    Triple (contract aims i) (At i m (ComingUp aims snapshot)) (change CoreRuntime.markError)
      fun _ => At i m (Agreed aims) :=
  markError_spec hm (fun _ => trivial) fun _ hp _ =>
    ⟨by simp [hp.state], fun _ _ => hp.controller, hp.settled⟩

theorem rollBackReplay_spec (hm : m.holding = true) {controller : Controller} :
    Triple (contract aims i) (At i m (ComingUp aims snapshot)) (rollBackReplay controller)
      fun _ => At i m (Agreed aims) := by
  refine (supervisorDisconnect_spec (stable_at hm)).bind fun result => ?_
  cases result with
  | ok _ =>
    exact (settleReady_spec hm).bind fun _ => Triple.done (stable_at hm) fun _ _ hp => hp
  | error _ => exact markComingUp_spec hm

theorem startCore_spec (hm : m.holding = true) (hpast : m.past = true) {engine : Engine} :
    Triple (contract aims i) (At i m (ComingUp aims snapshot)) (start ⟨snapshot, options⟩ engine)
      fun _ => At i m (ComingUp aims snapshot) := by
  refine start_rule (stable_at hm) (fun s hp => hp.1 ▸ hpast) (fun s hs hp hw revision hr => ?_)
    _ (fun _ => stable_at hm) (fun _ _ hp => hp) fun _ _ hp _ _ => hp
  have hwarm := hs.warmth hw
  rw [(hwarm.recorded revision hr).2, hwarm.installed snapshot hp.2.snapshot]

/-- Starting both engines. -/
theorem supervisorConnect_spec (hm : m.holding = true) (hpast : m.past = true) :
    Triple (contract aims i) (At i m (ComingUp aims snapshot))
      (Supervisor.connect (supervised ⟨snapshot, options⟩))
      fun _ => At i m (ComingUp aims snapshot) := by
  refine (startCore_spec hm hpast).bind fun xray => ?_
  cases xray with
  | error _ => exact Triple.done (stable_at hm) fun _ _ hp => hp
  | ok _ =>
    refine (startCore_spec hm hpast).bind fun mihomo => ?_
    cases mihomo with
    | ok _ => exact Triple.done (stable_at hm) fun _ _ hp => hp
    | error _ =>
      exact (stop_spec (stable_at hm)).bind fun _ => Triple.done (stable_at hm) fun _ _ hp => hp

theorem afterStart_spec (hm : m.holding = true) (hentitled : m.entitled = true)
    {controller : Controller} {queued : List (String × String)}
    {result : Except SupervisorError Unit} :
    Triple (contract aims i) (At i m (ComingUp aims snapshot))
      (afterStart controller queued result) fun _ => At i m (Agreed aims) := by
  have hdone : ∀ result, Triple (contract aims i) (At i m (Agreed aims))
      (Task.done result : Op ι (Except BackendError Unit)) fun _ => At i m (Agreed aims) :=
    fun _ => Triple.done (stable_at hm) fun _ _ hp => hp
  cases result with
  | ok _ =>
    refine (replaySelections_spec hm queued).bind fun replayed => ?_
    cases replayed with
    | false => exact (rollBackReplay_spec hm).bind fun _ => hdone _
    | true =>
      have hsettled : Triple (contract aims i) (At i m (ComingUp aims snapshot)) (settle .connected)
          fun _ => At i m (Agreed aims) := by
        refine (settle_spec hm (fun _ _ hp => hp.unsettled) (.inr ⟨rfl, hentitled⟩)).weaken
          (fun _ _ hp => hp) ?_
        rintro ok s - ⟨hmine, r₀, hp, -, hr⟩
        refine ⟨hmine, fun ha => ?_⟩
        rw [hr]
        exact (hp.settled ha).settled.agrees
      refine hsettled.bind fun ok => ?_
      cases ok <;> exact hdone _
  | error error =>
    cases error with
    | stopFailed => exact (markComingUp_spec hm).bind fun _ => hdone _
    | startFailed engine rollbackFailed cause =>
      cases rollbackFailed with
      | true => exact (markComingUp_spec hm).bind fun _ => hdone _
      | false =>
        refine (settleReady_spec hm).bind fun ok => ?_
        cases ok <;> exact hdone _

/-- Ready with a snapshot to connect to. -/
structure Connectable (aims : Aims) (snapshot : Snapshot) (r : CoreRuntime) (store : ProfileStore) :
    Prop where
  state : r.state = .ready
  snapshot : r.snapshot = some snapshot
  agreed : Agreed aims r store

theorem beginConnecting_spec (hm : m.holding = true) (hentitled : m.entitled = true)
    {controller : Controller} :
    Triple (contract aims i) (At i m (Connectable aims snapshot)) (beginConnecting controller)
      fun ok => At i m fun r store => ok = true ∧ ComingUp aims snapshot r store := by
  refine Triple.atomic (stable_at hm) (fun _ => stable_at hm) fun s hs hp _ => ?_
  have hstate := hp.2.state
  refine ⟨trivial, own_of_respects hs (.inl (hp.1 ▸ hm)) rfl (fun h _ => h) ?_, hp.1, ?_, ?_⟩
  · refine respects_of_catalog (fun _ hc => ?_) (fun _ => .inr (hp.1 ▸ hentitled)) rfl rfl
    have hdegraded := (hc.accepting (.inr hstate)).degraded
    constructor
    · simp [hstate, ConnectionState.moved, ConnectionState.transition, ConnectionState.allows, hdegraded]
    · exact fun _ => by simp
    · exact fun _ => by simp [hp.2.snapshot]
  · rw [hstate]
    rfl
  · refine ⟨?_, by simp, hp.2.snapshot, fun ha => ?_⟩
    · simp [hstate, ConnectionState.moved, ConnectionState.transition, ConnectionState.allows]
    · exact ((hp.2.agreed ha).settled (.inl (by simp [hstate]))).congr rfl rfl rfl

theorem startConnection_spec (hm : m.holding = true) (hentitled : m.entitled = true)
    {queued : List (String × String)} :
    Triple (contract aims i) (At i m (Connectable aims snapshot))
      (startConnection snapshot options queued) fun _ => At i m (Agreed aims) := by
  have hpast : m.past = true := by
    simp only [Mine.entitled, Bool.and_eq_true] at hentitled
    exact hentitled.2
  have hrefused : Triple (contract aims i) (At i m (Connectable aims snapshot))
      (Task.done (.error .other) : Op ι (Except BackendError Unit))
      fun _ => At i m (Agreed aims) :=
    Triple.done (stable_at hm) fun _ _ hp => ⟨hp.1, hp.2.agreed⟩
  refine (ask_rule (stable_at hm) rfl).bind fun prepared => ?_
  cases prepared with
  | false => exact hrefused
  | true =>
    refine (ask_rule (stable_at hm) rfl).bind fun published => ?_
    cases published with
    | false => exact hrefused
    | true =>
      refine (beginConnecting_spec hm hentitled).bind fun ok => ?_
      cases ok with
      | false => exact Triple.done (stable_at hm) fun _ _ hp => absurd hp.2.1 (by simp)
      | true =>
        refine ((supervisorConnect_spec hm hpast).weaken (fun _ _ hp => ⟨hp.1, hp.2.2⟩)
          fun _ _ _ hp => hp).bind fun result => ?_
        exact afterStart_spec hm hentitled

/-- What a Connect counts and remembers is nobody's. -/
theorem aside_at (hm : m.holding = true) {f : CoreBackend ι → CoreBackend ι}
    (hframe : ∀ s, (f s).frame = s.frame)
    (hruntime : ∀ s, (f s).runtime = s.runtime ∧ (f s).warmRevision = s.warmRevision)
    (hauto : ∀ s, Schedules s (f s)) :
    Triple (contract aims i) (At i m p) (update f) fun _ => At i m p := by
  refine update_aside (stable_at hm) hframe hruntime (fun s hp => ?_) hauto
  have hstore : (f s).store = s.store := by
    have hf := hframe s
    simp only [CoreBackend.frame, Prod.mk.injEq] at hf
    exact hf.2.2.1
  exact ⟨(mine_of_frame (hframe s) i).trans hp.1, by rw [(hruntime s).1, hstore]; exact hp.2⟩

theorem connectNow_spec (hm : m.holding = false) (hentitled : m.entitled = true) :
    Triple (contract aims i) (Out i m) (connectNow i options) fun _ => Out i m := by
  refine locked_rule hm ?_
  have hheld : ({ m with holding := true } : Mine).holding = true := rfl
  refine Triple.bind (aside_at hheld (fun _ => rfl) (fun _ => ⟨rfl, rfl⟩) fun _ h _ => h) fun _ => ?_
  refine Triple.bind (aside_at hheld (fun _ => rfl) (fun _ => ⟨rfl, rfl⟩) fun _ h _ => h) fun _ => ?_
  refine (look_at hheld (q := fun runtime r store => r = runtime ∧ Agreed aims r store)
    fun _ _ _ hp => ⟨rfl, hp⟩).bind fun runtime => ?_
  split
  · exact Triple.done (stable_at hheld) fun _ _ hp => ⟨hp.1, hp.2.2⟩
  · rename_i hready
    push Not at hready
    cases hsnapshot : runtime.snapshot with
    | none => exact Triple.done (stable_at hheld) fun _ _ hp => ⟨hp.1, hp.2.2⟩
    | some snapshot =>
      refine (startConnection_spec (m := { m with holding := true }) rfl hentitled).weaken ?_
        fun _ _ _ hp => hp
      rintro s - ⟨hmine, rfl, hagreed⟩
      exact ⟨hmine, hready.2, hsnapshot, hagreed⟩

end Connecting

section Requests

variable {options : ConnectOptions}

/-- A request that has ended has no lock. -/
def Released (i : ι) (s : CoreBackend ι) : Prop :=
  (s.mine i).holding = false ∧ (s.mine i).switching = false

theorem released_of_out (hm : m.holding = false ∧ m.switching = false) {s : CoreBackend ι}
    (hs : Out i m s) : Released i s := by
  rw [Released, show s.mine i = m from hs]
  exact hm

/-- What a request of its own ends with. -/
theorem done_released {α : Type} (hm : m.holding = false ∧ m.switching = false) (result : α) :
    Triple (contract aims i) (Out i m) (Task.done result : Op ι α) fun _ => Released i :=
  Triple.done stable_out fun _ _ hs => released_of_out hm hs

theorem cancelAutoReconnect_spec :
    Triple (contract aims i) (Out i m) cancelAutoReconnect fun _ => Out i m :=
  update_aside stable_out (fun _ => rfl) (fun _ => ⟨rfl, rfl⟩) (fun _ hs => hs) fun _ _ _ => rfl

/-- A Connect with `generation_change` taken, which it gives back. -/
theorem connectSwitched_spec (hm : m.holding = false) (hentitled : m.entitled = true) :
    Triple (contract aims i) (Out i m)
      (do
        let result ← connectNow i options
        giveGenerationChange i
        return result) fun _ => Released i := by
  have hswitching := Mine.switching_of_entitled hentitled
  exact (connectNow_spec hm hentitled).bind fun result =>
    (giveGenerationChange_rule hswitching).bind fun _ => done_released (by exact ⟨hm, rfl⟩) result

theorem connectWith_spec (hm : m.holding = false) (hbound : m.bound = true)
    (hpast : m.past = true) :
    Triple (contract aims i) (Out i m) (connectWith i options) fun _ => Released i := by
  have hentitled : ({ m with switching := true } : Mine).entitled = true := by
    simp [Mine.entitled, hbound, hpast]
  refine cancelAutoReconnect_spec.bind fun _ => tryGenerationChange_rule.bind fun taken => ?_
  cases taken with
  | true =>
    rw [Bool.or_true]
    exact connectSwitched_spec hm hentitled
  | false =>
    refine takeGenerationChange_rule.bind fun _ => (look_aside stable_out).bind fun state => ?_
    split
    · exact (giveGenerationChange_rule rfl).bind fun _ => done_released (by exact ⟨hm, rfl⟩) _
    · exact connectSwitched_spec hm hentitled

theorem disconnect_spec :
    Triple (contract aims i) (Out i m) (disconnect i) fun _ => Released i := by
  refine cancelAutoReconnect_spec.bind fun _ => takeGenerationChange_rule.bind fun _ => ?_
  refine disconnectNow_spec.bind fun result => ?_
  refine Triple.bind (Triple.weaken
    (answered_rule (m := { m with switching := true, holding := false }) rfl) ?_
    fun _ _ _ hs => hs) fun _ => done_released ⟨rfl, rfl⟩ result
  rintro s - ⟨hout, hlive⟩
  refine ⟨hout, fun hok => hlive rfl ?_⟩
  cases result with
  | ok _ => rfl
  | error _ => cases hok

end Requests

end MultiCore.Backend
