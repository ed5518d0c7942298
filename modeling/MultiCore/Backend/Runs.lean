import MultiCore.Backend.Serving

/-!
# Runs of the daemon

The contracts of all requests fit together, so the invariant holds in every
state of a run that grants what the aims need.
-/

namespace MultiCore.Backend

open Cooperative Daemon Transition

section Fitting

variable {ι : Type} [DecidableEq ι] {aims : Aims} {i : ι}

/-- The aims as a request of a kind is judged by them: a user may give a profile the link of
another one. -/
def Aims.of (aims : Aims) : Request → Aims
  | .replaceSubscriptionSource .. => { aims with links := False }
  | _ => aims

omit [DecidableEq ι] in
/-- Soundness does not depend on the request served. -/
theorem sound_of (aims : Aims) (kind : Request) {s : CoreBackend ι} :
    Sound (aims.of kind) s ↔ Sound aims s := by
  cases kind with
  | replaceSubscriptionSource id url =>
    constructor
    · exact fun h => ⟨h.agreement, h.coherence, h.finality, h.quit, h.warmth⟩
    · exact fun h => ⟨h.agreement, h.coherence, h.finality, h.quit, h.warmth⟩
  | _ => exact Iff.rfl

/-- What a request of a kind has of its own at first. -/
def Mine.of : Request → Mine
  | .connect _ => ⟨false, false, true, true, false⟩
  | .watch => ⟨false, false, false, false, true⟩
  | _ => ⟨false, false, false, false, false⟩

/-- What a slot without a request has. -/
def Mine.none : Mine := ⟨false, false, false, false, false⟩

/-- A request starts without a lock. -/
theorem Mine.of_free (kind : Request) :
    (Mine.of kind).holding = false ∧ (Mine.of kind).switching = false := by
  cases kind <;> exact ⟨rfl, rfl⟩

/-- Every request keeps its contract. -/
theorem serve_spec (kind : Request) :
    Triple (contract (aims.of kind) i) (Out i (.of kind)) (serve i kind) fun _ => Released i := by
  have hfree := Mine.of_free kind
  have hreturn : ∀ {α : Type} {task : Op ι α} {f : α → Response},
      Triple (contract (aims.of kind) i) (Out i (.of kind)) task (fun _ => Released i) →
      Triple (contract (aims.of kind) i) (Out i (.of kind)) (task >>= fun a => Task.done (f a))
        fun _ => Released i :=
    fun h => h.bind fun _ => Triple.done stable_released fun _ _ hs => hs
  cases kind with
  | connect options => exact hreturn (connectWith_spec rfl rfl rfl)
  | disconnect => exact hreturn disconnect_spec
  | shutDown => exact hreturn (shutdownCores_spec hfree)
  | enableAlwaysReady =>
    refine hreturn (Triple.weaken (update_aside stable_out (fun _ => rfl) (fun _ => ⟨rfl, rfl⟩)
      (fun _ hs => hs) fun _ h _ => h) (fun _ _ hs => hs) fun _ _ _ hs => released_of_out hfree hs)
  | watch => exact hreturn (watchService_spec rfl hfree)
  | importSubscription url => exact hreturn (answer_spec (importSubscription_spec hfree))
  | refreshSubscription => exact hreturn (answer_spec (refreshSubscription_spec hfree))
  | refreshSubscriptionProfile id =>
    exact hreturn (answer_spec (refreshSubscriptionProfile_spec hfree))
  | activateSubscription id => exact hreturn (answer_spec (activateSubscription_spec hfree))
  | replaceSubscriptionSource id url =>
    exact hreturn (answer_spec (replaceSubscriptionSource_spec (fun h => h) hfree))
  | deleteSubscription id => exact hreturn (answer_spec (deleteSubscription_spec hfree))
  | select request =>
    refine hreturn (Triple.weaken (select_spec rfl) (fun _ _ hs => hs) fun _ _ _ hs => ?_)
    exact released_of_out hfree hs

/-- What a slot has that serves no request. -/
def Idle (i : ι) (s : CoreBackend ι) : Prop := s.mine i = .none

/-- An idle slot, field by field. -/
theorem idle_iff {s : CoreBackend ι} : Idle i s ↔ s.operation ≠ some i ∧
    s.generationChange ≠ some i ∧ s.bound i = false ∧ s.past i = false ∧ s.watching ≠ some i := by
  simp [Idle, CoreBackend.mine, Mine.none]

/-- The beginning and the end of a request change nothing but what is recorded about it. -/
structure Recorded (i : ι) (s t : CoreBackend ι) : Prop where
  operation : t.operation = s.operation
  generationChange : t.generationChange = s.generationChange
  runtime : t.runtime = s.runtime
  store : t.store = s.store
  prepared : t.prepared = s.prepared ∧ t.preparer = s.preparer
  warm : t.warmRevision = s.warmRevision
  reconnect : t.autoReconnect = s.autoReconnect
  shutDown : t.shutDown = s.shutDown
  final : t.final = true → s.final = true
  quit : t.quit = s.quit
  others : ∀ j, j ≠ i → t.bound j = s.bound j ∧ t.past j = s.past j ∧
    (t.watching = some j ↔ s.watching = some j)

/-- A record that begins or ends is a step that the others expect. -/
theorem Recorded.rely {s t : CoreBackend ι} (h : Recorded i s t) {j : ι} (hj : j ≠ i) :
    Rely j s t := by
  obtain ⟨hbound, hpast, hwatching⟩ := h.others j hj
  refine ⟨?_, fun _ => ⟨h.runtime, h.store⟩, fun _ hlive => h.runtime ▸ hlive, fun _ => h.final,
    fun hs => h.shutDown ▸ hs, fun _ revision hr => h.warm ▸ hr, fun ht => ?_⟩
  · simp only [CoreBackend.mine, h.operation, h.generationChange, hbound, hpast, hwatching]
  · rw [h.prepared.1]
    exact ⟨h.prepared.2 ▸ ht, fun _ hp => hp⟩

/-- Records keep the invariant, where they say the truth about the final flags. -/
theorem Recorded.sound {s t : CoreBackend ι} (h : Recorded i s t) (hs : Sound aims s)
    (hbound : t.final = true → t.bound i = false) (hpast : s.quit = true → t.past i = false) :
    Sound aims t := by
  refine ⟨fun ha hnone => ?_, fun ha => ?_, fun ha ht => ⟨?_, ?_, fun j => ?_⟩,
    fun ha ht => ⟨?_, fun j => ?_⟩, fun ha => ?_⟩
  · rw [h.runtime, h.store]
    exact hs.agreement ha (h.operation ▸ hnone)
  · rw [h.runtime]
    exact hs.coherence ha
  · rw [h.runtime]
    exact (hs.finality ha (h.final ht)).live
  · rw [h.reconnect]
    exact (hs.finality ha (h.final ht)).reconnect
  · by_cases hj : j = i
    · exact hj ▸ hbound ht
    · rw [(h.others j hj).1]
      exact (hs.finality ha (h.final ht)).bound j
  · rw [h.shutDown]
    exact (hs.quit ha (h.quit ▸ ht)).1
  · by_cases hj : j = i
    · exact hj ▸ hpast (h.quit ▸ ht)
    · rw [(h.others j hj).2.1]
      exact (hs.quit ha (h.quit ▸ ht)).2 j
  · exact (hs.warmth ha).congr h.store (by rw [h.runtime]) (by rw [h.runtime]) h.warm h.prepared.1

/-- The beginning of a request is such a record. -/
theorem recorded_begun {s : CoreBackend ι} {kind : Request} (hidle : Idle i s)
    (hmay : s.mayBegin kind = true) : Recorded i s (s.begun i kind) := by
  obtain ⟨-, -, hbound, hpast, hwatching⟩ := idle_iff.mp hidle
  cases kind with
  | connect options =>
    refine ⟨rfl, rfl, rfl, rfl, ⟨rfl, rfl⟩, rfl, rfl, rfl, (by rintro ⟨⟩), rfl, fun j hj => ?_⟩
    exact ⟨Function.update_of_ne hj _ _, Function.update_of_ne hj _ _, Iff.rfl⟩
  | watch =>
    have hnone : s.watching = none := by simpa [CoreBackend.mayBegin] using hmay
    refine ⟨rfl, rfl, rfl, rfl, ⟨rfl, rfl⟩, rfl, rfl, rfl, fun h => h, rfl, fun j hj => ⟨rfl, rfl, ?_⟩⟩
    simp [CoreBackend.begun, hnone, Ne.symm hj]
  | _ =>
    exact ⟨rfl, rfl, rfl, rfl, ⟨rfl, rfl⟩, rfl, rfl, rfl, fun h => h, rfl,
      fun _ _ => ⟨rfl, rfl, Iff.rfl⟩⟩

/-- A request starts outside of the lock. -/
theorem out_begun {s : CoreBackend ι} {kind : Request} (hidle : Idle i s) :
    Out i (.of kind) (s.begun i kind) := by
  obtain ⟨hoperation, hchange, hbound, hpast, hwatching⟩ := idle_iff.mp hidle
  cases kind <;>
    simp [Out, CoreBackend.mine, CoreBackend.begun, CoreBackend.mark, Mine.of, *]

/-- The beginning of a request keeps the invariant. -/
theorem sound_begun {s : CoreBackend ι} {kind : Request} (hs : Sound aims s) (hidle : Idle i s)
    (hmay : s.mayBegin kind = true) : Sound aims (s.begun i kind) := by
  obtain ⟨-, -, hbound, hpast, -⟩ := idle_iff.mp hidle
  refine (recorded_begun hidle hmay).sound hs (fun hfinal => ?_) fun hquit => ?_
  · cases kind with
    | connect options => cases hfinal
    | _ => exact hbound
  · cases kind with
    | connect options => simp [CoreBackend.mayBegin, hquit] at hmay
    | _ => exact hpast

/-- The end of a request is such a record. -/
theorem recorded_finished {s : CoreBackend ι} : Recorded i s (s.finished i) := by
  refine ⟨rfl, rfl, rfl, rfl, ⟨rfl, rfl⟩, rfl, rfl, rfl, fun h => h, rfl, fun j hj => ?_⟩
  refine ⟨Function.update_of_ne hj _ _, Function.update_of_ne hj _ _, ?_⟩
  by_cases hwatching : s.watching = some i
  · simp [CoreBackend.finished, hwatching, Ne.symm hj]
  · simp [CoreBackend.finished, hwatching, CoreBackend.mark]

/-- A request that has given up its locks leaves nothing under way. -/
theorem idle_finished {s : CoreBackend ι} (h : Released i s) : Idle i (s.finished i) := by
  obtain ⟨hholding, hswitching⟩ := h
  refine idle_iff.mpr ⟨fun h => ?_, fun h => ?_, ?_, ?_, ?_⟩
  · have hheld := holding_iff.mpr (show s.operation = some i from h)
    rw [hholding] at hheld
    cases hheld
  · have hheld := switching_iff.mpr (show s.generationChange = some i from h)
    rw [hswitching] at hheld
    cases hheld
  · simp [CoreBackend.finished, CoreBackend.mark]
  · simp [CoreBackend.finished, CoreBackend.mark]
  · simp only [CoreBackend.finished]
    split <;> simp_all

/-- The end of a request keeps the invariant. -/
theorem sound_finished {s : CoreBackend ι} (hs : Sound aims s) : Sound aims (s.finished i) :=
  recorded_finished.sound hs (fun _ => by simp [CoreBackend.finished, CoreBackend.mark])
    fun _ => by simp [CoreBackend.finished, CoreBackend.mark]

/-- The contracts of the daemon's requests. -/
def contracts (aims : Aims) (i : ι) (kind : Request) : Contract Place Ask Reply (CoreBackend ι) :=
  contract (aims.of kind) i

/-- The contracts fit together. -/
theorem daemon_fits : Fits (daemon ι) (Sound aims) Idle (contracts aims)
    (fun i _ _ => Released i) fun _ _ => True where
  inv_eq i kind := funext fun s => propext (sound_of aims kind)
  guar_rely _ _ := fun hne _ _ h => h.rely hne
  idle_rely _ _ := fun _ hidle hrely => hrely.mine.trans hidle
  begin i kind s hs hidle hmay := by
    refine ⟨sound_begun hs hidle hmay, fun j _ hj => (recorded_begun hidle hmay).rely hj, ?_⟩
    refine serve_spec kind _ ?_ (out_begun hidle)
    exact (sound_of aims kind).mpr (sound_begun hs hidle hmay)
  finish i _ _ s hs hreleased :=
    ⟨sound_finished hs, idle_finished hreleased, fun _ _ hj => recorded_finished.rely hj⟩
  change := by
    rintro ⟨⟩ s t hs - ⟨⟩
    refine ⟨⟨hs.agreement, hs.coherence, fun ha ht => ?_, hs.quit, fun ha => ?_⟩, fun _ h => h, ?_⟩
    · exact ⟨(hs.finality ha ht).live, (hs.finality ha ht).reconnect, (hs.finality ha ht).bound⟩
    · have hwarm := hs.warmth ha
      exact ⟨hwarm.meant, hwarm.installed, hwarm.bare, hwarm.recorded, by rintro _ _ _ ⟨⟩⟩
    · refine fun j _ => ⟨rfl, fun _ => ⟨rfl, rfl⟩, fun _ h => h, fun _ h => h, fun h => h,
        fun _ _ h => h, fun h => ⟨h, by rintro _ ⟨⟩⟩⟩

end Fitting

section Opening

variable {ι : Type} [DecidableEq ι] {aims : Aims} {store : ProfileStore} {loaded : Bool}
  {saved : List (Option String)}

/-- Opening the store keeps the active profile. -/
theorem ProfileStore.opened_active : (store.opened loaded).active = store.active := by
  unfold opened
  split
  · split <;> rfl
  · rfl

/-- Opening the store keeps the profiles. -/
theorem ProfileStore.opened_profiles : (store.opened loaded).profiles = store.profiles := by
  unfold opened
  split
  · split <;> rfl
  · rfl

/-- Opening the store keeps the generations. -/
theorem ProfileStore.opened_generation : (store.opened loaded).generation = store.generation := by
  unfold opened
  split
  · split <;> rfl
  · rfl

/-- The current generation is that of the active profile. -/
theorem ProfileStore.current_eq_some {id : ProfileId} {generation : Generation} :
    store.current = some (id, generation) ↔
      store.active = some id ∧ store.generation id = some generation := by
  unfold current
  constructor
  · intro h
    obtain ⟨other, hactive, h⟩ := Option.bind_eq_some_iff.mp h
    obtain ⟨found, hgeneration, h⟩ := Option.map_eq_some_iff.mp h
    cases h
    exact ⟨hactive, hgeneration⟩
  · rintro ⟨hactive, hgeneration⟩
    simp [hactive, hgeneration]

/-- The runtime of a daemon that was just opened is what its store says. -/
theorem renewed_opened (store : ProfileStore) (loaded : Bool) (saved : List (Option String)) :
    Renewed (.opened store loaded saved) (store.opened loaded) := by
  cases hactive : store.active with
  | none =>
    have hcurrent : store.current = none := by simp [ProfileStore.current, hactive]
    have hruntime : CoreRuntime.opened store loaded saved = .cleared none := by
      simp [CoreRuntime.opened, hcurrent, hactive]
    rw [hruntime]
    refine ⟨⟨?_, fun _ => rfl, fun id hid => ?_⟩, accepting_cleared⟩
    · rw [ProfileStore.opened_active, hactive]
      rfl
    · rw [ProfileStore.opened_active, hactive] at hid
      cases hid
  | some id =>
    by_cases hloaded : loaded = true ∧ store.current.isSome = true
    · obtain ⟨hloaded, hcurrent⟩ := hloaded
      obtain ⟨⟨other, generation⟩, hcurrent⟩ := Option.isSome_iff_exists.mp hcurrent
      obtain ⟨hsame, hgeneration⟩ := ProfileStore.current_eq_some.mp hcurrent
      obtain rfl := Option.some.inj (hactive.symm.trans hsame)
      have hruntime : CoreRuntime.opened store loaded saved =
          (CoreRuntime.cleared (some id)).applySnapshot id generation none saved := by
        simp [CoreRuntime.opened, hcurrent, hactive, hloaded]
      rw [hruntime]
      refine ⟨settled_install ?_ ?_, accepting_install⟩
      · rw [ProfileStore.opened_active, hactive]
      · rw [ProfileStore.opened_generation, hgeneration]
    · have hruntime : CoreRuntime.opened store loaded saved = .cleared (some id) := by
        unfold CoreRuntime.opened
        split
        · rename_i hcurrent
          rw [if_neg (by simp_all), hactive]
        · rw [hactive]
      have hstore : store.opened loaded = store.fresh.fail id := by
        simp only [ProfileStore.opened, hactive]
        rw [if_neg hloaded]
      rw [hruntime, hstore]
      refine ⟨⟨?_, fun _ => rfl, fun other hother => .inr ⟨?_, rfl⟩⟩, accepting_cleared⟩
      · exact hactive.symm
      · have hsame : store.active = some other := hother
        rw [hactive] at hsame
        cases hsame
        simp

/-- What was opened is the current generation, or nothing. -/
theorem opened_cases (store : ProfileStore) (loaded : Bool) (saved : List (Option String)) :
    (∃ id generation, store.active = some id ∧
      store.generation id = some generation ∧ CoreRuntime.opened store loaded saved =
        (CoreRuntime.cleared store.active).applySnapshot id generation none saved) ∨
    CoreRuntime.opened store loaded saved = .cleared store.active := by
  unfold CoreRuntime.opened
  split
  · rename_i id generation hcurrent
    split
    · obtain ⟨hactive, hgeneration⟩ := ProfileStore.current_eq_some.mp hcurrent
      exact .inl ⟨id, generation, hactive, hgeneration, rfl⟩
    · exact .inr rfl
  · exact .inr rfl

omit [DecidableEq ι] in
/-- When the daemon starts no cores count as warm. -/
theorem warm_opened {content : Nat → Snapshot} (hmeant : store.Meant content) :
    Warm content (CoreBackend.opened ι store loaded saved) := by
  have hopened : (store.opened loaded).Meant content := by
    unfold ProfileStore.Meant
    rw [ProfileStore.opened_generation, ProfileStore.opened_profiles]
    exact hmeant
  refine ⟨hopened, ?_, ?_, by rintro _ ⟨⟩, by rintro _ ⟨⟩⟩
  all_goals
    dsimp only [CoreBackend.opened]
    rcases opened_cases store loaded saved with
      ⟨id, generation, hactive, hgeneration, hruntime⟩ | hruntime
    all_goals rw [hruntime]
  · rintro snapshot ⟨⟩
    exact hmeant id (store.listed id hactive) generation hgeneration
  · rintro snapshot ⟨⟩
  · exact iff_of_false (by rintro ⟨⟩) generation.revision.ne_zero
  · exact iff_of_true rfl rfl

/-- What a run has to start with. -/
def Aims.Open (aims : Aims) (store : ProfileStore) : Prop :=
  aims.warmth → store.Meant aims.content

omit [DecidableEq ι] in
/-- The invariant holds when the daemon starts. -/
theorem sound_opened (h : aims.Open store) :
    Sound aims (CoreBackend.opened ι store loaded saved) := by
  have hrenewed := renewed_opened store loaded saved
  refine ⟨fun _ _ => hrenewed.settled.agrees, fun _ => hrenewed.accepting.coherent, ?_, ?_,
    fun ha => warm_opened (h ha)⟩
  · rintro - ⟨⟩
  · rintro - ⟨⟩

/-- A daemon that starts is safe, with no request under way. -/
theorem allSafe_opening (h : aims.Open store) :
    AllSafe (Sound aims) Idle (contracts aims) (fun i (_ : Request) (_ : Response) => Released i)
      (atOpening (ι := ι) store loaded saved) :=
  ⟨sound_opened h, fun _ _ => by simp [idle_iff, atOpening, CoreBackend.opened],
    fun _ _ _ htask => by cases htask⟩

end Opening

section Runs

variable {ι : Type} [DecidableEq ι]

/-- A step of the daemon. -/
abbrev Step (ι : Type) [DecidableEq ι] :=
  Edge (Config ι Request Place Ask Reply (CoreBackend ι) Response)
    (Label ι Request Place Ask Reply Response Change)

/-- The step does not get to a place in a state for which `p` fails. -/
def Step.Avoids (p : Place → CoreBackend ι → Prop) (e : Step ι) : Prop :=
  match e.label with
  | .ran _ _ place => p place e.source.shared
  | _ => True

variable {aims : Aims} {store : ProfileStore} {loaded : Bool} {saved : List (Option String)}
  {es : List (Step ι)} {d : Config ι Request Place Ask Reply (CoreBackend ι) Response}

/-- The aims of a run that is about nothing. -/
def Aims.none : Aims := ⟨False, False, False, False, False, False, fun _ => ⟨.none, "", "", []⟩⟩

/-- Without the claim on links the aims are the same for every request. -/
theorem Aims.of_eq (h : aims.links = False) (kind : Request) : aims.of kind = aims := by
  cases kind with
  | replaceSubscriptionSource id url =>
    unfold Aims.of
    rw [← h]
  | _ => rfl

/-- A run that is not about warm cores or links is granted where its places are. -/
theorem granted_of_places {e : Step ι} (hwarmth : ¬ aims.warmth) (hlinks : aims.links = False)
    (h : ∀ i kind place, e.label = .ran i kind place → Grant aims i place e.source.shared) :
    Granted (daemon ι) (contracts aims) (fun _ _ => True) e := by
  obtain ⟨source, label, target⟩ := e
  cases label with
  | ran i kind place =>
    have hgrant := h i kind place rfl
    rw [← Aims.of_eq hlinks kind] at hgrant
    exact hgrant
  | answered i kind question answer =>
    refine fun t ht => ⟨ht, ?_⟩
    rw [Aims.of_eq hlinks]
    cases question with
    | store call => exact ⟨fun ha => (hlinks ▸ ha : False).elim, fun ha => absurd ha hwarmth⟩
    | _ => trivial
  | changed change => trivial
  | _ => trivial

/-- The invariant holds in every state of a granted run. -/
theorem sound_targets (aims : Aims) (h : aims.Open store)
    (hrun : (daemon ι).Run (atOpening store loaded saved) es d)
    (hgrant : ∀ e ∈ es, Granted (daemon ι) (contracts aims) (fun _ _ => True) e) :
    ∀ e ∈ es, Sound aims e.target.shared :=
  fun e he => (AllSafe.run_targets daemon_fits hrun (allSafe_opening h) hgrant e he).inv

/-- Every step of a granted run starts where all contracts are kept. -/
theorem safe_sources (aims : Aims) (h : aims.Open store)
    (hrun : (daemon ι).Run (atOpening store loaded saved) es d)
    (hgrant : ∀ e ∈ es, Granted (daemon ι) (contracts aims) (fun _ _ => True) e) :
    ∀ e ∈ es, (daemon ι).Step e.source e.label e.target ∧
      AllSafe (Sound aims) Idle (contracts aims) (fun i (_ : Request) (_ : Response) => Released i)
        e.source := by
  intro e he
  obtain ⟨hstep, ds, hds, hsub⟩ := hrun.edge_mem he
  exact ⟨hstep, AllSafe.run daemon_fits hds (allSafe_opening h) fun d hd => hgrant d (hsub d hd)⟩

end Runs

section Scripts

variable {ι : Type} [DecidableEq ι]

/-- A choice of a run. -/
abbrev DaemonMove (ι : Type) := Move ι Request Ask Reply Change

/-- The answer to a question. -/
def answered (i : ι) (ask : Ask) (reply : Reply ask) : List (DaemonMove ι) :=
  [.go i, .answer i ask reply]

/-- Always-ready mode is switched on. -/
def readinessOn (i : ι) : List (DaemonMove ι) :=
  [[.begin i .enableAlwaysReady], Move.goOn i 2].flatten

/-- A connection of a snapshot is made, from the factory to the cores. -/
def coresStarted (i : ι) (snapshot : Snapshot) (options : ConnectOptions) : List (DaemonMove ι) :=
  [answered i (.prepare snapshot options) true, answered i (.publish ⟨snapshot, options⟩) true,
    [.go i], answered i (.start ⟨snapshot, options⟩ .xray) ⟨.ok (), true⟩,
    answered i (.start ⟨snapshot, options⟩ .mihomo) ⟨.ok (), false⟩].flatten

/-- The cores of a connection are stopped. -/
def coresStopped (i : ι) (snapshot : Snapshot) (options : ConnectOptions) : List (DaemonMove ι) :=
  [answered i (.stop ⟨snapshot, options⟩ .mihomo) (.ok ()),
    answered i (.stop ⟨snapshot, options⟩ .xray) (.ok ())].flatten

/-- What the store says is installed. -/
def reconciling (i : ι) (id : ProfileId) (generation : Generation) : List (DaemonMove ι) :=
  [[.go i], answered i (.store .loadActive) (.ok (some (id, generation))),
    answered i (.store (.savedSelections id generation.revision generation.snapshot.groups.length))
      (generation.snapshot.groups.map fun _ => none),
    [.go i]].flatten

/-- A Connect from Ready. -/
def connecting (i : ι) (snapshot : Snapshot) (options : ConnectOptions) : List (DaemonMove ι) :=
  [[.begin i (.connect options)], Move.goOn i 6, coresStarted i snapshot options,
    Move.goOn i 4].flatten

/-- A Disconnect from Connected. -/
def disconnecting (i : ι) (id : ProfileId) (generation : Generation) (options : ConnectOptions) :
    List (DaemonMove ι) :=
  [[.begin i .disconnect], Move.goOn i 4, coresStopped i generation.snapshot options, [.go i],
    reconciling i id generation, Move.goOn i 3].flatten

end Scripts

end MultiCore.Backend
