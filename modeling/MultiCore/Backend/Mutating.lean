import MultiCore.Backend.Watching

/-!
# What the mutations keep

A mutation leaves the runtime and the store in agreement whether it succeeds or
fails. Between the store's change and the runtime's the two agree but for one
profile.
-/

namespace MultiCore.Backend

open Cooperative Daemon

section Stores

variable {r : CoreRuntime} {store store' : ProfileStore} {id : ProfileId}
  {generation : Generation}

/-- Agreement reads nothing of the store but the active profile and its generation. -/
theorem Agrees.of_active (h : Agrees r store) (hactive : store'.active = store.active)
    (hsame : ∀ id ∈ store.active, store'.generation id = store.generation id ∧
      store'.unread id = store.unread id) : Agrees r store' := by
  rcases h with h | h
  · refine .inl ⟨h.active.trans hactive.symm, fun hnone => h.empty (hactive ▸ hnone), ?_⟩
    intro id hid
    rw [hactive] at hid
    obtain ⟨hgeneration, hunread⟩ := hsame id hid
    rw [hgeneration, hunread]
    exact h.installed id hid
  · refine .inr ⟨h.active.trans hactive.symm, h.connected, ?_⟩
    obtain ⟨id, hid, generation, hgeneration, hpending⟩ := h.pending
    refine ⟨id, hactive ▸ hid, generation, ?_, hpending⟩
    rw [(hsame id hid).1]
    exact hgeneration

/-- A new generation of another profile does not matter. -/
theorem Agrees.publish (h : Agrees r store) (hne : store.active ≠ some id) :
    Agrees r (store.publish id generation) := by
  refine h.of_active rfl fun other hother => ?_
  have hdiff : other ≠ id := fun he => hne (he ▸ hother)
  exact ⟨store.publish_generation_ne id generation hdiff, store.publish_unread_ne id generation hdiff⟩

/-- A new profile that is not active does not matter. -/
theorem Agrees.insert (h : Agrees r store) (hnew : id ∉ store.profiles) :
    Agrees r (store.insert id generation false) := by
  refine h.of_active rfl fun other hother => ?_
  have hdiff : other ≠ id := fun he => hnew (he ▸ store.listed other hother)
  exact ⟨store.publish_generation_ne id generation hdiff, store.publish_unread_ne id generation hdiff⟩

/-- The deletion of another profile keeps the active one. -/
theorem ProfileStore.delete_active_of_ne (hne : store.active ≠ some id) :
    (store.delete id).active = store.active := by
  simp [ProfileStore.delete, hne]

/-- Nor does the deletion of another profile. -/
theorem Agrees.delete (h : Agrees r store) (hne : store.active ≠ some id) :
    Agrees r (store.delete id) := by
  refine h.of_active (ProfileStore.delete_active_of_ne hne) fun other hother => ?_
  have hdiff : other ≠ id := fun he => hne (he ▸ hother)
  exact ⟨Function.update_of_ne hdiff _ _, rfl⟩

/-- A store without new links keeps them apart. -/
theorem LinksKept.of_has (h : ∀ id link, store'.Has id link → store.Has id link) :
    LinksKept store store' :=
  fun link a b _ ha hb => ⟨h a link ha, h b link hb⟩

/-- One profile gets a link, which it had before or nobody had. -/
theorem LinksKept.of_one
    (hothers : ∀ other link, other ≠ id → store'.Has other link → store.Has other link)
    (hone : ∀ link, store'.Has id link → store.Has id link ∨ ∀ other, ¬ store.Has other link) :
    LinksKept store store' := by
  have hpair : ∀ link a b, a = id → b ≠ a → store'.Has a link → store'.Has b link →
      store.Has a link ∧ store.Has b link := by
    rintro link a b rfl hne ha hb
    have hb := hothers b link hne hb
    rcases hone link ha with ha | hnobody
    · exact ⟨ha, hb⟩
    · exact absurd hb (hnobody b)
  intro link a b hne ha hb
  by_cases hai : a = id
  · exact hpair link a b hai hne.symm ha hb
  · by_cases hbi : b = id
    · exact (hpair link b a hbi hne hb ha).symm
    · exact ⟨hothers a link hai ha, hothers b link hbi hb⟩

/-- A link of another profile was there before. -/
theorem has_publish_of_ne {other : ProfileId} {link : Link} (hne : other ≠ id)
    (h : (store.publish id generation).Has other link) : store.Has other link := by
  refine ⟨h.1, ?_⟩
  have hsource := h.2
  rw [ProfileStore.hasSource, store.publish_generation_ne id generation hne] at hsource
  exact hsource

/-- The link of the profile is the one of its new generation. -/
theorem source_of_has_publish {link : Link} (h : (store.publish id generation).Has id link) :
    generation.snapshot.source = some link := by
  have hsource := h.2
  rw [ProfileStore.hasSource, store.publish_generation] at hsource
  simpa using hsource

/-- The profile has the link, or no profile has it. -/
def ProfileStore.Free (store : ProfileStore) (id : ProfileId) (link : Link) : Prop :=
  store.Has id link ∨ ∀ other, ¬ store.Has other link

/-- A generation whose link is free keeps links apart. -/
theorem LinksKept.publish
    (h : ∀ link, generation.snapshot.source = some link → store.Free id link) :
    LinksKept store (store.publish id generation) :=
  .of_one (fun _ _ hne => has_publish_of_ne hne) fun link hlink => h link (source_of_has_publish hlink)

/-- A new profile whose link nobody has keeps links apart. -/
theorem LinksKept.insert {activate : Bool}
    (h : ∀ link, generation.snapshot.source = some link → ∀ other, ¬ store.Has other link) :
    LinksKept store (store.insert id generation activate) := by
  refine @LinksKept.of_one store _ id (fun other link hne hother => ?_) fun link hlink => .inr (h link ?_)
  · obtain ⟨hmem, hsource⟩ := hother
    have hpublished : (store.publish id generation).Has other link := by
      refine ⟨?_, hsource⟩
      simpa [ProfileStore.insert, ProfileStore.publish, hne] using hmem
    exact has_publish_of_ne hne hpublished
  · have hsource := hlink.2
    rw [ProfileStore.hasSource, store.insert_generation] at hsource
    simpa using hsource

/-- A deletion keeps links apart. -/
theorem LinksKept.delete : LinksKept store (store.delete id) := by
  refine .of_has fun other link h => ?_
  have hmem : other ∈ store.profiles := List.mem_of_mem_eraseIdx h.1
  by_cases hother : other = id
  · have hsource := h.2
    simp [ProfileStore.hasSource, ProfileStore.delete, hother] at hsource
  · refine ⟨hmem, ?_⟩
    have hsource := h.2
    simpa [ProfileStore.hasSource, ProfileStore.delete, hother] using hsource

end Stores

variable {ι : Type} [DecidableEq ι] {aims : Aims} {i : ι} {m : Mine} {α β : Type}
  {p q : CoreRuntime → ProfileStore → Prop}

section Rules

/-- A mutation that leads from `pre` to `post`, and to `failed` where it ends early. -/
def Does (aims : Aims) (i : ι) (pre : CoreBackend ι → Prop) (mutation : Mutation ι α)
    (post : α → CoreBackend ι → Prop) (failed : CoreBackend ι → Prop) : Prop :=
  Triple (contract aims i) pre mutation.run (Safe.Outcome post fun _ => failed)

variable {pre : CoreBackend ι → Prop} {post : α → CoreBackend ι → Prop}
  {failed : CoreBackend ι → Prop}

/-- The rule of composition; a failure is passed on. -/
theorem Does.bind {mutation : Mutation ι α} {rest : α → Mutation ι β}
    {post' : β → CoreBackend ι → Prop} (h : Does aims i pre mutation post failed)
    (hfailed : (contract aims i).Stable failed)
    (hrest : ∀ a, Does aims i (post a) (rest a) post' failed) :
    Does aims i pre (mutation >>= rest) post' failed :=
  Triple.except_bind h (fun _ => hfailed) hrest

/-- An operation that cannot fail as a mutation. -/
theorem Does.perform {task : Op ι α} (h : Triple (contract aims i) pre task post)
    (hpost : ∀ a, (contract aims i).Stable (post a)) :
    Does aims i pre (perform task) post failed :=
  Triple.lift h hpost

/-- A refusal, with what has to hold after it. -/
theorem Does.throw {error : ProfileMutationError} (hpre : (contract aims i).Stable pre)
    (h : ∀ s, Sound aims s → pre s → failed s) :
    Does aims i pre (throw error) post failed :=
  Triple.throw hpre h

/-- An answer, with what has to hold after it. -/
theorem Does.done {result : α} (hpre : (contract aims i).Stable pre)
    (h : ∀ s, Sound aims s → pre s → post result s) :
    Does aims i pre (pure result) post failed :=
  Triple.except_done hpre h

/-- Less may be promised and more assumed. -/
theorem Does.weaken {mutation : Mutation ι α} {pre' : CoreBackend ι → Prop}
    {post' : α → CoreBackend ι → Prop} (h : Does aims i pre mutation post failed)
    (hpre : ∀ s, Sound aims s → pre' s → pre s)
    (hpost : ∀ a s, Sound aims s → post a s → post' a s) :
    Does aims i pre' mutation post' failed := by
  refine Triple.weaken h hpre fun result s hs hr => ?_
  cases result with
  | ok a => exact hpost a s hs hr
  | error e => exact hr

/-- What holds of the runtime and the store whatever a mutation with the lock comes to. -/
def Mutates (aims : Aims) (i : ι) (m : Mine) (p : CoreRuntime → ProfileStore → Prop)
    (mutation : Mutation ι α) (q : α → CoreRuntime → ProfileStore → Prop) : Prop :=
  Does aims i (At i m p) mutation (fun a => At i m (q a)) (At i m (Agreed aims))

/-- The rule of composition, under the lock. -/
theorem Mutates.bind (hm : m.holding = true) {mutation : Mutation ι α} {rest : α → Mutation ι β}
    {q : α → CoreRuntime → ProfileStore → Prop} {q' : β → CoreRuntime → ProfileStore → Prop}
    (h : Mutates aims i m p mutation q) (hrest : ∀ a, Mutates aims i m (q a) (rest a) q') :
    Mutates aims i m p (mutation >>= rest) q' :=
  Does.bind h (stable_at hm) hrest

/-- An operation that cannot fail, under the lock. -/
theorem Mutates.perform (hm : m.holding = true) {task : Op ι α}
    {q : α → CoreRuntime → ProfileStore → Prop}
    (h : Triple (contract aims i) (At i m p) task fun a => At i m (q a)) :
    Mutates aims i m p (perform task) q :=
  Does.perform h fun _ => stable_at hm

/-- A refusal leaves agreement. -/
theorem Mutates.throw (hm : m.holding = true) {error : ProfileMutationError}
    {q : α → CoreRuntime → ProfileStore → Prop} (h : ∀ r store, p r store → Agreed aims r store) :
    Mutates aims i m p (throw error) q :=
  Does.throw (stable_at hm) fun _ _ hp => ⟨hp.1, h _ _ hp.2⟩

/-- An answer that only states what is known. -/
theorem Mutates.done (hm : m.holding = true) {result : α}
    {q : α → CoreRuntime → ProfileStore → Prop} (h : ∀ r store, p r store → q result r store) :
    Mutates aims i m p (pure result) q :=
  Does.done (stable_at hm) fun _ _ hp => ⟨hp.1, h _ _ hp.2⟩

/-- Less may be promised and more assumed. -/
theorem Mutates.weaken {mutation : Mutation ι α} {p' : CoreRuntime → ProfileStore → Prop}
    {q q' : α → CoreRuntime → ProfileStore → Prop} (h : Mutates aims i m p mutation q)
    (hp : ∀ r store, p' r store → p r store)
    (hq : ∀ a r store, q a r store → q' a r store) : Mutates aims i m p' mutation q' :=
  Does.weaken h (fun _ _ hs => ⟨hs.1, hp _ _ hs.2⟩) fun a _ _ hs => ⟨hs.1, hq a _ _ hs.2⟩

/-- Whatever went wrong, what the store says is installed before the mutation ends. -/
theorem Mutates.reconcile_throw (hm : m.holding = true) {error : ProfileMutationError}
    {q : α → CoreRuntime → ProfileStore → Prop} :
    Mutates aims i m p
      (do
        Backend.perform reconcileAuthoritative
        MonadExcept.throw error) q := by
  refine Mutates.bind hm (Mutates.perform hm ((reconcileAuthoritative_spec hm).weaken
    (fun _ _ hp => ⟨hp.1, trivial⟩) fun _ _ _ hp => hp)) fun _ => ?_
  exact Mutates.throw hm fun _ _ hp _ => hp.settled.agrees

/-- What holds of either outcome holds of the result. -/
theorem Does.result {mutation : Mutation ι α} (h : Does aims i pre mutation (fun _ => failed) failed) :
    Triple (contract aims i) pre mutation.run fun _ => failed := by
  refine Triple.weaken h (fun _ _ hp => hp) fun result _ _ hp => ?_
  cases result <;> exact hp

/-- A task that ends with a result is a mutation. -/
theorem Does.of_result {mutation : Mutation ι α}
    (h : Triple (contract aims i) pre mutation.run fun _ => failed) :
    Does aims i pre mutation (fun _ => failed) failed := by
  refine Triple.weaken h (fun _ _ hp => hp) fun result _ _ hp => ?_
  cases result <;> exact hp

/-- A mutation with the operation lock. -/
theorem lockedMutation_spec (hm : m.holding = false) {mutation : Mutation ι α}
    (h : Mutates aims i { m with holding := true } (Agreed aims) mutation fun _ => Agreed aims) :
    Does aims i (Out i m) (lockedMutation i mutation) (fun _ => Out i m) (Out i m) :=
  Does.of_result (locked_rule hm (Does.result h))

end Rules

section Calls

/-- What a mutation of the store leaves. -/
def Effected (p : CoreRuntime → ProfileStore → Prop) (publish : ProfileStore → α → Option ProfileStore) :
    Stored α → CoreRuntime → ProfileStore → Prop
  | .ok value, r, store' | .committed value, r, store' =>
    ∃ store, p r store ∧ publish store value = some store'
  | .refused _, r, store' => p r store'

/-- What a call of the store did to it. -/
theorem effected_of_effect {r : CoreRuntime} {store store' : ProfileStore} {a : Stored α}
    {publish : ProfileStore → α → Option ProfileStore} (hp : p r store)
    (h : Stored.effect store (publish store) a = some store') : Effected p publish a r store' := by
  cases a with
  | ok value | committed value => exact ⟨store, hp, h⟩
  | refused error =>
    cases h
    exact hp

/-- A call of the store keeps links apart if its effect does. -/
theorem linksKept_of_effect {store store' : ProfileStore} {a : Stored α}
    {publish : α → Option ProfileStore}
    (hpublish : ∀ value store', publish value = some store' → LinksKept store store')
    (h : Stored.effect store publish a = some store') : LinksKept store store' := by
  cases a with
  | ok value | committed value => exact hpublish value store' h
  | refused error =>
    cases h
    exact .refl _

/-- `replace_profile`: the profile has the new generation, or nothing happened. -/
theorem replaceProfile_spec (hm : m.holding = true) {id : ProfileId} {snapshot : Snapshot}
    (hlinks : ∀ r store, p r store → aims.links → ∀ link, snapshot.source = some link →
      store.Free id link) :
    Triple (contract aims i) (At i m p) (replaceProfile id snapshot) fun a =>
      At i m (Effected p (fun store revision => store.published id snapshot revision) a) := by
  refine call_rule hm (fun a r store store' hp ha _ hl => ?_)
    fun a r store store' hp ha _ => effected_of_effect hp ha
  refine linksKept_of_effect (fun revision store' hpublished => ?_) ha
  obtain ⟨-, ⟨⟩⟩ := Option.ite_none_right_eq_some.mp hpublished
  exact .publish (hlinks r store hp hl)

/-- A new profile keeps links apart. -/
theorem linksKept_of_inserted {store store' : ProfileStore} {snapshot : Snapshot} {activate : Bool}
    (hlinks : ∀ link, snapshot.source = some link → ∀ other, ¬ store.Has other link)
    {value : ProfileId × ℕ+} (h : store.inserted snapshot activate value = some store') :
    LinksKept store store' := by
  obtain ⟨-, ⟨⟩⟩ := Option.ite_none_left_eq_some.mp h
  exact .insert hlinks

/-- `create_profile`: the new profile is active, or nothing happened. -/
theorem createProfile_spec (hm : m.holding = true) {snapshot : Snapshot}
    (hlinks : ∀ r store, p r store → aims.links → ∀ link, snapshot.source = some link →
      ∀ other, ¬ store.Has other link) :
    Triple (contract aims i) (At i m p) (createProfile snapshot) fun a =>
      At i m (Effected p (fun store value => store.inserted snapshot true value) a) :=
  call_rule hm (fun _ r store _ hp ha _ hl =>
    linksKept_of_effect (fun _ _ => linksKept_of_inserted (hlinks r store hp hl)) ha)
    fun _ _ _ _ hp ha _ => effected_of_effect hp ha

/-- `add_profile`: the active profile stays. -/
theorem addProfile_spec (hm : m.holding = true) {snapshot : Snapshot}
    (hlinks : ∀ r store, p r store → aims.links → ∀ link, snapshot.source = some link →
      ∀ other, ¬ store.Has other link) :
    Triple (contract aims i) (At i m p) (addProfile snapshot) fun a =>
      At i m (Effected p (fun store value => store.inserted snapshot false value) a) :=
  call_rule hm (fun _ r store _ hp ha _ hl =>
    linksKept_of_effect (fun _ _ => linksKept_of_inserted (hlinks r store hp hl)) ha)
    fun _ _ _ _ hp ha _ => effected_of_effect hp ha

/-- `activate`: the profile is active, or nothing happened. -/
theorem activateProfile_spec (hm : m.holding = true) {id : ProfileId} :
    Triple (contract aims i) (At i m p) (activateProfile id) fun a =>
      At i m (Effected p (fun store value => store.activated id value) a) := by
  refine call_rule hm (fun a r store store' hp ha _ hl => ?_)
    fun a r store store' hp ha _ => effected_of_effect hp ha
  refine linksKept_of_effect (fun value store' hactivated => ?_) ha
  obtain ⟨-, ⟨⟩⟩ := Option.dite_none_right_eq_some.mp hactivated
  exact .of_same rfl rfl

/-- `delete`: the profile is gone, or nothing happened. -/
theorem deleteProfile_spec (hm : m.holding = true) {id : ProfileId} :
    Triple (contract aims i) (At i m p) (deleteProfile id) fun a =>
      At i m (Effected p (fun store value => store.deleted id value) a) := by
  refine call_rule hm (fun a r store store' hp ha _ hl => ?_)
    fun a r store store' hp ha _ => effected_of_effect hp ha
  refine linksKept_of_effect (fun value store' hdeleted => ?_) ha
  obtain ⟨-, ⟨⟩⟩ := Option.ite_none_right_eq_some.mp hdeleted
  exact .delete

/-- Loading a profile does not change the store. -/
theorem respond_load {id : ProfileId} {store store' : ProfileStore}
    {a : Except ProfileError Generation} (h : store.respond (.load id) a = some store') :
    store' = store ∧ ∀ generation, a = .ok generation →
      id ∈ store.profiles ∧ store.generation id = some generation := by
  cases a with
  | ok generation =>
    obtain ⟨hload, ⟨⟩⟩ := Option.ite_none_right_eq_some.mp h
    exact ⟨rfl, by rintro _ ⟨⟩; exact hload⟩
  | error error =>
    cases h
    exact ⟨rfl, by rintro _ ⟨⟩⟩

/-- What a load with the operation lock held finds. -/
def Read (p : CoreRuntime → ProfileStore → Prop) (id : ProfileId) :
    Except ProfileError Generation → CoreRuntime → ProfileStore → Prop
  | .ok generation, r, store =>
    p r store ∧ id ∈ store.profiles ∧ store.generation id = some generation
  | .error _, r, store => p r store

/-- A snapshot that was read is the profile's. -/
theorem profileSnapshot_spec (hm : m.holding = true) {id : ProfileId} :
    Triple (contract aims i) (At i m p) (profileSnapshot id) fun a => At i m (Read p id a) := by
  refine read_rule (stable_at hm) (fun a store store' h => (respond_load h).1)
    (fun _ => stable_at hm) fun a s hs hp ha _ => ⟨hp.1, ?_⟩
  obtain ⟨-, hload⟩ := respond_load ha
  cases a with
  | ok generation => exact ⟨hp.2, hload generation rfl⟩
  | error error => exact hp.2

/-- The same where the lock is not held and nothing is known for long. -/
theorem profileSnapshot_aside {pre : CoreBackend ι → Prop} (hpre : (contract aims i).Stable pre)
    {id : ProfileId} : Triple (contract aims i) pre (profileSnapshot id) fun _ => pre :=
  read_rule hpre (fun _ _ _ h => (respond_load h).1) (fun _ => hpre) fun _ _ _ hp _ _ => hp

/-- A loaded generation is the profile's own. -/
theorem loadProfile_spec (hm : m.holding = true) {id : ProfileId}
    (hp : ∀ r store, p r store → Agreed aims r store) :
    Mutates aims i m p (loadProfile id) fun generation r store =>
      p r store ∧ id ∈ store.profiles ∧ store.generation id = some generation := by
  refine Mutates.bind hm (Mutates.perform hm (profileSnapshot_spec hm)) fun a => ?_
  cases a with
  | ok generation => exact Mutates.done hm fun _ _ hp => hp
  | error error => exact Mutates.throw hm hp

/-- A download is of the link it was asked for, and holds no lock. -/
theorem fetchSubscription_spec {pre failed : CoreBackend ι → Prop}
    (hpre : (contract aims i).Stable pre) (hfailed : (contract aims i).Stable failed)
    (h : ∀ s, pre s → failed s) {link : Link} :
    Does aims i pre (fetchSubscription link)
      (fun snapshot s => pre s ∧ snapshot.source = some link) failed := by
  have hfound : ∀ found : Option Snapshot, (contract aims i).Stable fun s =>
      pre s ∧ ∀ snapshot ∈ found, snapshot.source = some link :=
    fun _ s t ht hs => ⟨hpre s t ht hs.1, hs.2⟩
  refine Does.bind (Does.perform (fetch_rule hpre) hfound) hfailed fun found => ?_
  cases found with
  | some snapshot =>
    exact Does.done (hfound (some snapshot)) fun _ _ hs => ⟨hs.1, hs.2 snapshot rfl⟩
  | none => exact Does.throw (hfound none) fun s _ hs => h s hs.1

/-- What the runtime knows while the operation lock is held does not depend on a download. -/
theorem newSnapshot_spec (hm : m.holding = true) {link : Link} {prefetched : Option Snapshot}
    (hp : ∀ r store, p r store → Agreed aims r store)
    (hprefetched : ∀ snapshot ∈ prefetched, snapshot.source = some link) :
    Mutates aims i m p (newSnapshot link prefetched) fun snapshot r store =>
      p r store ∧ snapshot.source = some link := by
  cases prefetched with
  | some snapshot => exact Mutates.done hm fun _ _ h => ⟨h, hprefetched snapshot rfl⟩
  | none =>
    refine (fetchSubscription_spec (stable_at hm) (stable_at hm) fun s hs => ⟨hs.1, hp _ _ hs.2⟩).weaken
      (fun _ _ hs => hs) fun _ _ _ hs => ⟨hs.1.1, hs.1.2, hs.2⟩

/-- The preparation of a controller touches neither runtime nor store. -/
theorem prepareControllerOrDefer_spec (hm : m.holding = true) {snapshot : Snapshot} :
    Triple (contract aims i) (At i m p) (prepareControllerOrDefer snapshot) fun _ => At i m p := by
  refine (look_aside (stable_at hm)).bind fun options => (ask_rule (stable_at hm) rfl).bind fun ok => ?_
  cases ok <;> exact Triple.done (stable_at hm) fun _ _ hp => hp

end Calls

section Parts

variable {id : ProfileId} {generation : Generation}

/-- A connection is stopped, or there was none. -/
def Stopped (p : CoreRuntime → ProfileStore → Prop) (stopped : Bool) (r : CoreRuntime)
    (store : ProfileStore) : Prop :=
  if stopped then ∃ r₀, p r₀ store ∧ r₀.state = .connected ∧ r = r₀.settled .ready
  else p r store ∧ r.state ≠ .connected

/-- What the stop of a connection leaves, done or failed. -/
theorem afterMutationStop_spec (hm : m.holding = true) {result : Except SupervisorError Unit}
    (hstate : ∀ r store, p r store → r.state = .connected ∧ (aims.coherence → r.controller ≠ none) ∧
      Agreed aims r store) :
    Mutates aims i m p (afterMutationStop result) (Stopped p) := by
  cases result with
  | ok _ =>
    refine Mutates.bind hm (Mutates.perform hm (settle_spec hm
      (fun r store hp => .inr (.inl (hstate r store hp).1)) (.inl rfl))) fun ok => ?_
    cases ok with
    | true =>
      exact Mutates.done hm fun r store ⟨r₀, hp, _, hr⟩ => ⟨r₀, hp, (hstate r₀ store hp).1, hr⟩
    | false =>
      refine Mutates.throw hm fun r store ⟨r₀, hp, hallows, _⟩ => ?_
      rw [(hstate r₀ store hp).1] at hallows
      cases hallows
  | error _ =>
    have hmark : Triple (contract aims i) (At i m p)
        (updateAt .stopFailed fun s => { s with runtime := s.runtime.markError })
        fun _ => At i m (Agreed aims) := by
      refine markError_spec hm (fun _ => trivial) fun s hp hg => ?_
      obtain ⟨hconnected, hcontroller, hagreed⟩ := hstate _ _ hp
      refine ⟨by simp [hconnected], fun ha _ => hcontroller ha, fun ha => ?_⟩
      exact (hagreed ha).settled (.inr (hg.keepsUp ha))
    exact Mutates.bind hm (Mutates.perform hm hmark) fun _ => Mutates.throw hm fun _ _ hp => hp

/-- A connection is stopped before the active profile is changed. -/
theorem stopConnectionForProfileMutation_spec (hm : m.holding = true)
    (hp : ∀ r store, p r store → Agreed aims r store) :
    Mutates aims i m p stopConnectionForProfileMutation (Stopped p) := by
  refine Mutates.bind hm (Mutates.perform hm (look_at hm (q := fun runtime r store =>
    r = runtime ∧ p r store ∧ (aims.coherence → Coherent r))
    fun s hs _ hp => ⟨rfl, hp, hs.coherence⟩)) fun runtime => ?_
  have hnone : runtime.state ≠ .connected → Mutates aims i m
      (fun r store => r = runtime ∧ p r store ∧ (aims.coherence → Coherent r))
      (pure false) (Stopped p) := fun hstate =>
    Mutates.done hm fun r store ⟨hr, h, _⟩ => ⟨h, hr ▸ hstate⟩
  have hrefused : ∀ error, Mutates aims i m
      (fun r store => r = runtime ∧ p r store ∧ (aims.coherence → Coherent r))
      (throw error) (Stopped p) := fun error =>
    Mutates.throw hm fun r store ⟨_, h, _⟩ => hp r store h
  cases hstate : runtime.state with
  | empty | ready | error => exact hnone (by simp [hstate])
  | connecting => exact hrefused _
  | connected =>
    cases hcontroller : runtime.controller with
    | none => exact hrefused _
    | some controller =>
      refine Mutates.bind hm (Mutates.perform hm (supervisorDisconnect_spec (stable_at hm)))
        fun result => ?_
      refine (afterMutationStop_spec hm ?_).weaken (fun _ _ h => h) ?_
      · rintro r store ⟨rfl, h, -⟩
        exact ⟨hstate, fun _ => by simp [hcontroller], hp r store h⟩
      · intro stopped r store h
        cases stopped with
        | true =>
          obtain ⟨r₀, ⟨-, h, -⟩, hconnected, hr⟩ := h
          exact ⟨r₀, h, hconnected, hr⟩
        | false => exact ⟨h.1.2.1, h.2⟩

/-- The load after a commit finds a generation, or the runtime is reconciled. -/
theorem profileSnapshotAfterCommit_spec (hm : m.holding = true) :
    Mutates aims i m p (profileSnapshotAfterCommit id) fun generation r store =>
      p r store ∧ id ∈ store.profiles ∧ store.generation id = some generation := by
  refine Mutates.bind hm (Mutates.perform hm (profileSnapshot_spec hm)) fun a => ?_
  cases a with
  | ok generation => exact Mutates.done hm fun _ _ hp => hp
  | error error => exact Mutates.reconcile_throw hm

/-- The snapshot of a profile, read while connected. -/
theorem profileSnapshotWhileConnected_spec (hm : m.holding = true) :
    Mutates aims i m p (profileSnapshotWhileConnected id) fun generation r store =>
      p r store ∧ id ∈ store.profiles ∧ store.generation id = some generation := by
  refine Mutates.bind hm (Mutates.perform hm (profileSnapshot_spec hm)) fun a => ?_
  cases a with
  | ok generation => exact Mutates.done hm fun _ _ hp => hp
  | error error =>
    refine Mutates.bind hm (Mutates.perform hm (reach_rule hm (q := Agreed aims)
      (fun _ => trivial) fun s _ _ hg ha => (hg.keepsUp ha).elim)) fun _ =>
      Mutates.throw hm fun _ _ hp => hp

/-- Carrying selections forward leaves runtime and store. -/
theorem carryForward_spec (hm : m.holding = true) {previous next : Generation}
    (hp : ∀ r store, p r store → (aims.agreement → store.active ≠ some id) → Agreed aims r store) :
    Mutates aims i m p (carryForward id previous next) fun _ => p := by
  have hcall : Triple (contract aims i) (At i m p) (carryForwardSelections id previous next)
      fun _ => At i m p :=
    read_rule (c := .carryForward id previous next) (stable_at hm)
      (fun _ _ _ h => (Option.some.inj h).symm) (fun _ => stable_at hm) fun _ _ _ hp _ _ => hp
  refine Mutates.bind hm (Mutates.perform hm hcall) fun ok => ?_
  cases ok with
  | true => exact Mutates.done hm fun _ _ hp => hp
  | false =>
    refine Mutates.bind hm (Mutates.perform hm (reach_rule hm (q := Agreed aims)
      (fun _ => trivial) fun s _ hs hg => hp _ _ hs hg.keepsUp)) fun _ =>
      Mutates.throw hm fun _ _ hp => hp

/-- The same where there may be nothing to carry from. -/
theorem carryForwardFrom_spec (hm : m.holding = true) {previous : Option Generation}
    (hp : ∀ r store, p r store → (aims.agreement → store.active ≠ some id) → Agreed aims r store) :
    Mutates aims i m p (carryForwardFrom id generation previous) fun _ => p := by
  cases previous with
  | some previous => exact carryForward_spec hm hp
  | none => exact Mutates.done hm fun _ _ h => h

/-- The generation is the current one of the active profile. -/
structure Current (id : ProfileId) (generation : Generation) (store : ProfileStore) : Prop where
  active : store.active = some id
  generation : store.generation id = some generation

/-- The current generation is installed, or the runtime is in error. -/
theorem installPrepared_spec (hm : m.holding = true) {prepared : Option Controller}
    {failure : ProfileMutationError} :
    Mutates aims i m (fun _ store => Current id generation store)
      (installPrepared id generation prepared failure) fun _ => Agreed aims := by
  refine Mutates.bind hm (Mutates.perform hm (restoredSelections_spec (stable_at hm))) fun saved => ?_
  have hinstall : Triple (contract aims i) (At i m fun _ store => Current id generation store)
      (update fun s => s.install id generation prepared saved) fun _ => At i m (Agreed aims) := by
    refine updateAt_rule hm (fun _ => rfl) (fun _ _ h _ => h) (fun _ => trivial) fun s _ _ hp _ =>
      ⟨?_, fun _ => ?_⟩
    · exact respects_install hp.active hp.generation rfl rfl (by rintro _ ⟨⟩)
    · exact (settled_install hp.active hp.generation).agrees
  refine Mutates.bind hm (Mutates.perform hm hinstall) fun _ => ?_
  cases prepared with
  | none => exact Mutates.done hm fun _ _ hp => hp
  | some controller =>
    refine Mutates.bind hm (Mutates.perform hm (ask_rule (stable_at hm) rfl)) fun published => ?_
    cases published with
    | true => exact Mutates.done hm fun _ _ hp => hp
    | false => exact Mutates.reconcile_throw hm

end Parts

section Replacing

variable {id : ProfileId} {generation : Generation} {link : Link} {snapshot : Snapshot}
  {active connected : Bool}

/-- What a replacement knows of the profile it is about. -/
structure Profile (id : ProfileId) (active connected : Bool) (r : CoreRuntime)
    (store : ProfileStore) : Prop where
  isActive : (store.active == some id) = active
  isConnected : (active && r.state == .connected) = connected

/-- A generation of a profile is about to be stored. -/
structure Replacing (aims : Aims) (id : ProfileId) (link : Link) (active connected : Bool)
    (r : CoreRuntime) (store : ProfileStore) : Prop where
  profile : Profile id active connected r store
  has : aims.links → store.Has id link
  agreed : Agreed aims r store

/-- The runtime has yet to follow the store for a profile whose generation was replaced. -/
structure Behind (aims : Aims) (id : ProfileId) (active connected : Bool) (r : CoreRuntime)
    (store : ProfileStore) : Prop where
  profile : Profile id active connected r store
  agreed : aims.agreement →
    r.activeProfile = store.active ∧ (store.active ≠ some id → Agrees r store)

/-- A runtime that agrees with the store shows its active profile. -/
theorem Agrees.activeProfile {r : CoreRuntime} {store : ProfileStore} (h : Agrees r store) :
    r.activeProfile = store.active := by
  rcases h with h | h
  · exact h.active
  · exact h.active

/-- The profile is active exactly if it was found so. -/
theorem Profile.active_iff {r : CoreRuntime} {store : ProfileStore}
    (h : Profile id active connected r store) : store.active = some id ↔ active = true := by
  rw [← h.isActive, beq_iff_eq]

/-- A replacement leaves the runtime behind the store. -/
theorem behind_publish {r : CoreRuntime} {store : ProfileStore}
    (h : Replacing aims id link active connected r store) :
    Behind aims id active connected r (store.publish id generation) :=
  ⟨⟨h.profile.isActive, h.profile.isConnected⟩,
    fun ha => ⟨(h.agreed ha).activeProfile, (h.agreed ha).publish⟩⟩

/-- The preparation of a replacement leaves what is known of the profile. -/
theorem prepareReplacement_spec (hm : m.holding = true) :
    Mutates aims i m (Replacing aims id link active connected)
      (prepareReplacement snapshot (active && !connected))
      fun _ => Replacing aims id link active connected := by
  cases hinstall : active && !connected with
  | false => exact Mutates.done hm fun _ _ hp => hp
  | true =>
    refine Mutates.bind hm (Mutates.perform hm (prepareControllerOrDefer_spec hm)) fun prepared => ?_
    refine Mutates.bind hm (stopConnectionForProfileMutation_spec hm fun _ _ hp => hp.agreed)
      fun stopped => Mutates.done hm fun r store hp => ?_
    cases stopped with
    | false => exact hp.1
    | true =>
      obtain ⟨r₀, hr₀, hstate, -⟩ := hp
      have hconnected := hr₀.profile.isConnected
      simp_all

/-- The replacement is stored: the runtime is behind the store. -/
theorem storeReplacement_spec (hm : m.holding = true) {stopped : Bool}
    (hsource : snapshot.source = some link) :
    Mutates aims i m (Replacing aims id link active connected)
      (storeReplacement id snapshot connected stopped) fun generation r store =>
        Behind aims id active connected r store ∧ store.generation id = some generation := by
  have hlinks : ∀ r store, Replacing aims id link active connected r store → aims.links →
      ∀ other, snapshot.source = some other → store.Free id other := by
    intro r store hp ha other hother
    rw [hsource] at hother
    cases hother
    exact .inl (hp.has ha)
  refine Mutates.bind hm (Mutates.perform hm (replaceProfile_spec hm hlinks)) fun a => ?_
  have hbehind : ∀ r store revision, (∃ store₀, Replacing aims id link active connected r store₀ ∧
      store₀.published id snapshot revision = some store) →
      Behind aims id active connected r store ∧ store.generation id = some ⟨revision, snapshot⟩ := by
    rintro r store revision ⟨store₀, hp, hpublished⟩
    obtain ⟨-, ⟨⟩⟩ := Option.ite_none_right_eq_some.mp hpublished
    exact ⟨behind_publish hp, store₀.publish_generation id _⟩
  cases a with
  | ok revision => exact Mutates.done hm fun r store hp => hbehind r store revision hp
  | committed revision =>
    cases connected with
    | true =>
      exact (profileSnapshotWhileConnected_spec hm).weaken
        (fun r store hp => (hbehind r store revision hp).1) fun _ _ _ hp => ⟨hp.1, hp.2.2⟩
    | false =>
      exact (profileSnapshotAfterCommit_spec hm).weaken
        (fun r store hp => (hbehind r store revision hp).1) fun _ _ _ hp => ⟨hp.1, hp.2.2⟩
  | refused error => exact Mutates.throw hm fun _ _ hp => hp.agreed

/-- The runtime catches up with the store. -/
theorem adoptReplacement_spec (hm : m.holding = true) {prepared : Option Controller} :
    Mutates aims i m
      (fun r store => Behind aims id active connected r store ∧ store.generation id = some generation)
      (adoptReplacement id generation prepared active connected) fun _ => Agreed aims := by
  cases active with
  | false =>
    refine Mutates.done hm fun r store hp ha => (hp.1.agreed ha).2 fun hactive => ?_
    have hfound := hp.1.profile.active_iff.mp hactive
    cases hfound
  | true =>
    cases connected with
    | true =>
      have hpending : Triple (contract aims i)
          (At i m fun r store => Behind aims id true true r store ∧ store.generation id = some generation)
          (change fun r => { r with pendingSnapshot := some generation })
          fun _ => At i m (Agreed aims) := by
        refine updateAt_rule hm (fun _ => rfl) (fun _ _ h _ => h) (fun _ => trivial) fun s _ _ hp _ =>
          ⟨?_, fun ha => .inr ?_⟩
        · exact respects_of_catalog (fun _ hc => ⟨hc.error_iff, hc.controller, hc.installed⟩)
            (fun _ => .inl rfl) rfl rfl
        · have hstate := hp.1.profile.isConnected
          refine ⟨(hp.1.agreed ha).1, by simpa using hstate, id, ?_, generation, hp.2, rfl⟩
          exact hp.1.profile.active_iff.mpr rfl
      exact Mutates.perform hm hpending
    | false =>
      exact (installPrepared_spec hm).weaken
        (fun r store hp => ⟨hp.1.profile.active_iff.mpr rfl, hp.2⟩) fun _ _ _ hp => hp

/-- A new link of a profile, under the lock. -/
theorem replaceProfileSourceLocked_spec (hm : m.holding = true) {sourceUrl : String}
    {prefetched : Option Snapshot}
    (hprefetched : ∀ snapshot ∈ prefetched, snapshot.source = some (Link.of sourceUrl)) :
    Mutates aims i m
      (fun r store => Agreed aims r store ∧ (aims.links → store.Has id (Link.of sourceUrl)))
      (replaceProfileSourceLocked id sourceUrl prefetched) fun _ => Agreed aims := by
  unfold replaceProfileSourceLocked
  dsimp only
  split
  · exact Mutates.throw hm fun _ _ hp => hp.1
  · refine Mutates.bind hm (loadProfile_spec hm fun _ _ hp => hp.1) fun previous => ?_
    refine Mutates.bind hm (Mutates.perform hm (look_at hm (q := fun active r store =>
      (store.active == some id) = active ∧ Agreed aims r store ∧
        (aims.links → store.Has id (Link.of sourceUrl))) fun _ _ _ hp => ⟨rfl, hp.1⟩))
      fun active => ?_
    refine Mutates.bind hm (Mutates.perform hm (look_at hm
      (q := fun connected => Replacing aims id (Link.of sourceUrl) active connected)
      fun _ _ _ hp => ⟨⟨hp.1, rfl⟩, hp.2.2, hp.2.1⟩)) fun connected => ?_
    refine Mutates.bind hm (newSnapshot_spec hm (fun _ _ hp => hp.agreed) hprefetched)
      fun snapshot => ?_
    by_cases hsource : snapshot.source = some (Link.of sourceUrl)
    · refine Mutates.bind hm ((prepareReplacement_spec hm).weaken (fun _ _ hp => hp.1)
        fun _ _ _ hp => hp) fun ⟨prepared, stopped⟩ => ?_
      refine Mutates.bind hm (storeReplacement_spec hm hsource) fun generation => ?_
      refine Mutates.bind hm (carryForward_spec hm fun r store hp hne ha => ?_) fun _ =>
        adoptReplacement_spec hm
      exact (hp.1.agreed ha).2 (hne ha)
    · exact fun s _ hp => absurd hp.2.2 hsource

/-- The link that a profile has. -/
theorem profileSourceUrl_spec (hm : m.holding = true)
    (hp : ∀ r store, p r store → Agreed aims r store) :
    Mutates aims i m p (profileSourceUrl id) fun link r store => p r store ∧ store.Has id link := by
  refine Mutates.bind hm (loadProfile_spec hm hp) fun generation => ?_
  cases hsource : generation.snapshot.source with
  | none => exact Mutates.throw hm fun r store h => hp r store h.1
  | some link =>
    refine Mutates.done hm fun r store h => ⟨h.1, h.2.1, ?_⟩
    simp [ProfileStore.hasSource, h.2.2, hsource]

/-- A download was made from the link it is recorded for. -/
def Prefetched.Genuine (prefetched : Prefetched) : Prop :=
  prefetched.snapshot.source = some prefetched.sourceUrl

-- Programs are compared by their calls: how a link is read is not looked into.
attribute [local irreducible] Link.of

/-- The refresh of a profile that may be active. -/
theorem refreshProfileLocked_spec (hm : m.holding = true) {prefetched : Option Prefetched}
    (hgenuine : ∀ download ∈ prefetched, Prefetched.Genuine download) :
    Mutates aims i m (Agreed aims) (refreshProfileLocked id prefetched) fun _ => Agreed aims := by
  refine Mutates.bind hm (profileSourceUrl_spec hm fun _ _ hp => hp) fun link => ?_
  refine (replaceProfileSourceLocked_spec hm fun snapshot hsnapshot => ?_).weaken
    (fun r store hp => ⟨hp.1, fun _ => by rw [Link.of_text]; exact hp.2⟩) fun _ _ _ hp => hp
  obtain ⟨found, hfound, rfl⟩ := Option.map_eq_some_iff.mp hsnapshot
  obtain ⟨hprefetched, hsame⟩ := Option.filter_eq_some_iff.mp hfound
  rw [Link.of_text, hgenuine found hprefetched, of_decide_eq_true hsame]

end Replacing

section Importing

variable {id : ProfileId} {link : Link} {snapshot : Snapshot} {existing : Option ProfileId}

/-- What was found for a link is the profile that has it, if there is one. -/
def Sought (aims : Aims) (existing : Option ProfileId) (link : Link) (store : ProfileStore) : Prop :=
  aims.links → (∃ id ∈ existing, store.Has id link) ∨ ∀ id, ¬ store.Has id link

/-- A link that was found at a profile is free for it. -/
theorem Sought.free {store : ProfileStore} (h : Sought aims (some id) link store) (ha : aims.links) :
    store.Free id link := by
  rcases h ha with ⟨other, hother, hhas⟩ | hnobody
  · cases hother
    exact .inl hhas
  · exact .inr hnobody

/-- A link that was not found is nobody's. -/
theorem Sought.nobody {store : ProfileStore} (h : Sought aims none link store) (ha : aims.links)
    (other : ProfileId) : ¬ store.Has other link := by
  rcases h ha with ⟨_, hother, -⟩ | hnobody
  · cases hother
  · exact hnobody other

/-- The new generation's link is the one that was sought. -/
theorem free_of_source {store : ProfileStore} (hsource : snapshot.source = some link)
    (h : store.Free id link) : ∀ other, snapshot.source = some other → store.Free id other := by
  intro other hother
  rw [hsource] at hother
  cases hother
  exact h

/-- The same of the link that a snapshot names. -/
theorem nobody_of_source {store : ProfileStore} (hsource : snapshot.source = some link)
    (h : ∀ other, ¬ store.Has other link) :
    ∀ found, snapshot.source = some found → ∀ other, ¬ store.Has other found := by
  intro found hfound
  rw [hsource] at hfound
  cases hfound
  exact h

/-- What is stored beside the active profile leaves agreement. -/
theorem storedInactive_spec (hm : m.holding = true) {previous : Option Generation} :
    Mutates aims i m (Agreed aims) (storedInactive id previous) fun _ => Agreed aims := by
  refine Mutates.bind hm (Mutates.perform hm (profileSnapshot_spec hm)) fun a => ?_
  cases a with
  | ok generation =>
    refine Mutates.bind hm ((carryForwardFrom_spec hm fun _ _ hp _ => hp).weaken
      (fun _ _ hp => hp.1) fun _ _ _ hp => hp) fun _ => Mutates.done hm fun _ _ hp => hp
  | error error => exact Mutates.throw hm fun _ _ hp => hp

/-- A download is about to be stored without touching the active profile. -/
structure Storing (aims : Aims) (existing : Option ProfileId) (link : Link) (r : CoreRuntime)
    (store : ProfileStore) : Prop where
  agreed : Agreed aims r store
  inactive : aims.agreement → ∀ id ∈ existing, store.active ≠ some id
  sought : Sought aims existing link store

/-- A download stored over the profile with its link. -/
theorem storeOver_spec (hm : m.holding = true) (hsource : snapshot.source = some link)
    {previous : Option Generation} :
    Mutates aims i m (Storing aims (some id) link)
      (do
        match ← perform (replaceProfile id snapshot) with
        | .ok _ | .committed _ => storedInactive id previous
        | .refused error => throw (mapProfileError error)) fun _ => Agreed aims := by
  have hlinks : ∀ r store, Storing aims (some id) link r store → aims.links →
      ∀ other, snapshot.source = some other → store.Free id other :=
    fun r store hp ha => free_of_source hsource (hp.sought.free ha)
  refine Mutates.bind hm (Mutates.perform hm (replaceProfile_spec hm hlinks)) fun a => ?_
  cases a with
  | ok revision | committed revision =>
    refine (storedInactive_spec hm).weaken ?_ fun _ _ _ hp => hp
    rintro r store ⟨store₀, hp, hpublished⟩ ha
    obtain ⟨-, ⟨⟩⟩ := Option.ite_none_right_eq_some.mp hpublished
    exact (hp.agreed ha).publish (hp.inactive ha id rfl)
  | refused error => exact Mutates.throw hm fun _ _ hp => hp.agreed

/-- A download stored as a new profile. -/
theorem storeNew_spec (hm : m.holding = true) (hsource : snapshot.source = some link) :
    Mutates aims i m (Storing aims none link)
      (do
        match ← perform (addProfile snapshot) with
        | .ok (id, _) | .committed (id, _) => storedInactive id none
        | .refused error => throw (mapProfileError error)) fun _ => Agreed aims := by
  have hlinks : ∀ r store, Storing aims none link r store → aims.links →
      ∀ found, snapshot.source = some found → ∀ other, ¬ store.Has other found :=
    fun r store hp ha => nobody_of_source hsource (hp.sought.nobody ha)
  refine Mutates.bind hm (Mutates.perform hm (addProfile_spec hm hlinks)) fun a => ?_
  cases a with
  | ok value | committed value =>
    refine (storedInactive_spec hm).weaken ?_ fun _ _ _ hp => hp
    rintro r store ⟨store₀, hp, hinserted⟩ ha
    obtain ⟨hnew, ⟨⟩⟩ := Option.ite_none_left_eq_some.mp hinserted
    exact (hp.agreed ha).insert hnew
  | refused error => exact Mutates.throw hm fun _ _ hp => hp.agreed

/-- An import while connected, over a profile or beside the others. -/
theorem storeInactiveProfileLocked_spec (hm : m.holding = true)
    (hsource : snapshot.source = some link) :
    Mutates aims i m (Agreed aims) (storeInactiveProfileLocked existing snapshot)
      fun _ => Agreed aims := by
  have hreach : Triple (contract aims i) (At i m (Agreed aims))
      (reach (.storingInactive existing snapshot.source))
      fun _ => At i m (Storing aims existing link) := by
    refine reach_rule hm (fun _ => trivial) fun s _ hp hg => ⟨hp, fun ha id hid => ?_, fun ha => ?_⟩
    · cases hid
      exact hg.keepsUp ha
    · have hstores := hg.storesOver ha
      rw [hsource] at hstores
      exact hstores
  refine Mutates.bind hm (Mutates.perform hm hreach) fun _ => ?_
  cases existing with
  | some id =>
    refine Mutates.bind hm (loadProfile_spec hm fun _ _ hp => hp.agreed) fun previous => ?_
    exact (storeOver_spec hm hsource).weaken (fun _ _ hp => hp.1) fun _ _ _ hp => hp
  | none => exact storeNew_spec hm hsource

/-- The stored profile of a link gets the new generation. -/
theorem replaceForImport_spec (hm : m.holding = true) (hsource : snapshot.source = some link) :
    Mutates aims i m
      (fun r store => Agreed aims r store ∧ (aims.links → store.Free id link))
      (replaceForImport id snapshot) fun _ _ _ => True := by
  have hlinks : ∀ r store, (Agreed aims r store ∧ (aims.links → store.Free id link)) →
      aims.links → ∀ other, snapshot.source = some other → store.Free id other :=
    fun r store hp ha => free_of_source hsource (hp.2 ha)
  refine Mutates.bind hm (Mutates.perform hm (replaceProfile_spec hm hlinks)) fun a => ?_
  cases a with
  | ok revision => exact Mutates.done hm fun _ _ _ => trivial
  | committed revision =>
    exact Mutates.bind hm (profileSnapshotAfterCommit_spec hm) fun _ =>
      Mutates.done hm fun _ _ _ => trivial
  | refused error => exact Mutates.throw hm fun _ _ hp => hp.1

/-- It becomes the active profile. -/
theorem activateForImport_spec (hm : m.holding = true) :
    Mutates aims i m (fun _ _ => True) (activateForImport id)
      fun _ _ store => store.active = some id := by
  refine Mutates.bind hm (Mutates.perform hm (activateProfile_spec hm)) fun a => ?_
  cases a with
  | ok value | committed value =>
    refine Mutates.done hm fun r store ⟨store₀, _, hactivated⟩ => ?_
    obtain ⟨-, ⟨⟩⟩ := Option.dite_none_right_eq_some.mp hactivated
    rfl
  | refused error => exact Mutates.reconcile_throw hm

/-- An import over the profile with its link. -/
theorem importOver_spec (hm : m.holding = true) (hsource : snapshot.source = some link) :
    Mutates aims i m
      (fun r store => Agreed aims r store ∧ (aims.links → store.Free id link))
      (importOver id snapshot) fun result _ store => store.active = some result.1 := by
  refine Mutates.bind hm (loadProfile_spec hm fun _ _ hp => hp.1) fun previous => ?_
  refine Mutates.bind hm ((replaceForImport_spec hm hsource).weaken (fun _ _ hp => hp.1)
    fun _ _ _ hp => hp) fun _ => ?_
  exact Mutates.bind hm (activateForImport_spec hm) fun _ => Mutates.done hm fun _ _ hp => hp

/-- An import as a new profile. -/
theorem importNew_spec (hm : m.holding = true) (hsource : snapshot.source = some link) :
    Mutates aims i m
      (fun r store => Agreed aims r store ∧ (aims.links → ∀ other, ¬ store.Has other link))
      (importNew snapshot) fun result _ store => store.active = some result.1 := by
  have hlinks : ∀ r store, (Agreed aims r store ∧
        (aims.links → ∀ other, ¬ store.Has other link)) → aims.links →
      ∀ found, snapshot.source = some found → ∀ other, ¬ store.Has other found :=
    fun r store hp ha => nobody_of_source hsource (hp.2 ha)
  refine Mutates.bind hm (Mutates.perform hm (createProfile_spec hm hlinks)) fun a => ?_
  cases a with
  | ok value =>
    refine Mutates.done hm fun r store ⟨store₀, _, hinserted⟩ => ?_
    obtain ⟨-, ⟨⟩⟩ := Option.ite_none_left_eq_some.mp hinserted
    rfl
  | committed value =>
    refine Mutates.bind hm (Mutates.perform hm (look_at hm
      (q := fun active _ store => store.active = active) fun _ _ _ _ => rfl)) fun active => ?_
    cases active with
    | some id => exact Mutates.done hm fun _ _ hp => hp
    | none => exact Mutates.reconcile_throw hm
  | refused error => exact Mutates.throw hm fun _ _ hp => hp.1

/-- The runtime catches up with an import. -/
theorem adoptImport_spec (hm : m.holding = true) {prepared : Option Controller}
    {previous : Option Generation} :
    Mutates aims i m (fun _ store => store.active = some id) (adoptImport prepared id previous)
      fun _ => Agreed aims := by
  refine Mutates.bind hm (profileSnapshotAfterCommit_spec hm) fun generation => ?_
  refine Mutates.bind hm (carryForwardFrom_spec hm fun r store hp hne ha => ?_) fun _ => ?_
  · exact absurd hp.1 (hne ha)
  · exact (installPrepared_spec hm).weaken (fun _ _ hp => ⟨hp.1, hp.2.2⟩) fun _ _ _ hp => hp

/-- Looking for a link leaves the store. -/
theorem respond_findSource {store store' : ProfileStore} {a : Except ProfileError (Option ProfileId)}
    (h : store.respond (.findSource link) a = some store') : store' = store := by
  match a, h with
  | .ok (some id), h => exact (Option.some.inj (Option.ite_none_right_eq_some.mp h).2).symm
  | .ok none, h | .error _, h => exact (Option.some.inj h).symm

/-- What a look-up with the operation lock held finds. -/
theorem findExactSource_spec (hm : m.holding = true) :
    Triple (contract aims i) (At i m p) (findExactSource link) fun a => At i m fun r store =>
      p r store ∧ ∀ existing, a = .ok existing → Sought aims existing link store := by
  refine read_rule (c := .findSource link) (stable_at hm) (fun _ _ _ h => respond_findSource h)
    (fun _ => stable_at hm) fun a s _ hp hr hg => ⟨hp.1, hp.2, ?_⟩
  rintro existing rfl
  intro ha
  cases existing with
  | some id => exact .inl ⟨id, rfl, (Option.ite_none_right_eq_some.mp hr).1⟩
  | none => exact .inr (hg.links ha)

/-- An import is stored, over a profile or as a new one. -/
theorem storeImport_spec (hm : m.holding = true) (hsource : snapshot.source = some link) :
    Mutates aims i m (fun r store => Agreed aims r store ∧ Sought aims existing link store)
      (storeImport snapshot existing) fun result _ store => store.active = some result.1 := by
  cases existing with
  | some id =>
    exact (importOver_spec hm hsource).weaken (fun _ _ hp => ⟨hp.1, hp.2.free⟩) fun _ _ _ hp => hp
  | none =>
    exact (importNew_spec hm hsource).weaken (fun _ _ hp => ⟨hp.1, hp.2.nobody⟩) fun _ _ _ hp => hp

/-- A check before a mutation. -/
theorem require_spec {pre failed : CoreBackend ι → Prop} (hpre : (contract aims i).Stable pre)
    (hfailed : (contract aims i).Stable failed) (h : ∀ s, pre s → failed s)
    {condition : CoreBackend ι → Bool} {error : ProfileMutationError} :
    Does aims i pre
      (do if ← perform (look condition) then return () else throw error) (fun _ => pre) failed := by
  refine Does.bind (Does.perform (look_aside hpre) fun _ => hpre) hfailed fun ok => ?_
  cases ok with
  | true => exact Does.done hpre fun _ _ hs => hs
  | false => exact Does.throw hpre fun s _ hs => h s hs

/-- An import while disconnected, under the lock. -/
theorem importProfileLocked_spec (hm : m.holding = true) {url : String} :
    Mutates aims i m (Agreed aims) (importProfileLocked url) fun _ => Agreed aims := by
  refine Mutates.bind hm (require_spec (stable_at hm) (stable_at hm) fun _ hs => hs) fun _ => ?_
  dsimp only
  split
  · exact Mutates.throw hm fun _ _ hp => hp
  · have hfetch : Mutates aims i m (Agreed aims) (newSnapshot (Link.of url) none)
        fun snapshot r store => Agreed aims r store ∧ snapshot.source = some (Link.of url) :=
      newSnapshot_spec hm (fun _ _ hp => hp) (by rintro _ ⟨⟩)
    refine Mutates.bind hm hfetch fun snapshot => ?_
    by_cases hsource : snapshot.source = some (Link.of url)
    · refine Mutates.bind hm (Mutates.perform hm (prepareControllerOrDefer_spec hm)) fun prepared => ?_
      refine Mutates.bind hm (Mutates.perform hm (findExactSource_spec hm)) fun found => ?_
      cases found with
      | error error => exact Mutates.throw hm fun _ _ hp => hp.1.1
      | ok existing =>
        refine Mutates.bind hm ((storeImport_spec hm hsource).weaken
          (fun _ _ hp => ⟨hp.1.1, hp.2 existing rfl⟩) fun _ _ _ hp => hp) fun ⟨id, previous⟩ => ?_
        exact adoptImport_spec hm
    · exact fun s _ hp => absurd hp.2.2 hsource

end Importing

section Activating

variable {id : ProfileId}

/-- What is loaded as the active profile is the current generation of it. -/
theorem loadActive_spec (hm : m.holding = true) :
    Triple (contract aims i) (At i m p) activeSnapshot fun a => At i m fun _ store =>
      ∀ id generation, a = .ok (some (id, generation)) → Current id generation store := by
  refine call_rule (c := .loadActive) hm (fun a r store store' _ ha _ _ => ?_)
    fun a r store store' _ ha _ => ?_
  · obtain ⟨-, hprofiles, hgeneration⟩ := loaded_of_respond rfl ha
    exact .of_same hprofiles hgeneration
  · rintro id generation rfl
    obtain ⟨-, hactive, hgeneration⟩ := (loaded_of_respond rfl ha).1
    exact ⟨hactive, hgeneration⟩

/-- An activation, under the lock. -/
theorem activateLocked_spec (hm : m.holding = true) :
    Mutates aims i m (Agreed aims) (activateLocked id) fun _ => Agreed aims := by
  refine Mutates.bind hm (require_spec (stable_at hm) (stable_at hm) fun _ hs => hs) fun _ => ?_
  refine Mutates.bind hm (loadProfile_spec hm fun _ _ hp => hp) fun generation => ?_
  refine Mutates.bind hm (Mutates.perform hm (prepareControllerOrDefer_spec hm)) fun prepared => ?_
  refine Mutates.bind hm (Mutates.perform hm (activateProfile_spec hm)) fun a => ?_
  cases a with
  | ok value =>
    refine (installPrepared_spec hm).weaken ?_ fun _ _ _ hp => hp
    rintro r store ⟨store₀, ⟨-, -, hgeneration⟩, hactivated⟩
    obtain ⟨-, ⟨⟩⟩ := Option.dite_none_right_eq_some.mp hactivated
    exact ⟨rfl, hgeneration⟩
  | refused error => exact Mutates.throw hm fun _ _ hp => hp.1
  | committed value =>
    refine Mutates.bind hm (Mutates.perform hm (loadActive_spec hm)) fun found => ?_
    match found with
    | .ok (some (active, generation)) =>
      dsimp only
      split
      · rename_i hsame
        exact (installPrepared_spec hm).weaken (fun _ _ hp => hp id generation (by rw [hsame]))
          fun _ _ _ hp => hp
      · exact Mutates.reconcile_throw hm
    | .ok none | .error _ => exact Mutates.reconcile_throw hm

/-- What the deletion of a profile knows of it. -/
structure Deleting (aims : Aims) (id : ProfileId) (wasActive : Bool) (r : CoreRuntime)
    (store : ProfileStore) : Prop where
  agreed : Agreed aims r store
  isActive : (store.active == some id) = wasActive

/-- A connection of the profile that goes is stopped first. -/
theorem stopWhere_spec (hm : m.holding = true) {wasActive : Bool} :
    Mutates aims i m (Deleting aims id wasActive) (stopWhere wasActive) fun stopped r store =>
      if stopped then wasActive = true ∧ Stopped (Deleting aims id wasActive) true r store
      else Deleting aims id wasActive r store := by
  cases wasActive with
  | false => exact Mutates.done hm fun _ _ hp => hp
  | true =>
    refine (stopConnectionForProfileMutation_spec hm fun _ _ hp => hp.agreed).weaken
      (fun _ _ hp => hp) fun stopped r store hp => ?_
    cases stopped with
    | true => exact ⟨rfl, hp⟩
    | false => exact hp.1

/-- A deletion, under the lock. -/
theorem deleteLocked_spec (hm : m.holding = true) :
    Mutates aims i m (Agreed aims) (deleteLocked id) fun _ => Agreed aims := by
  refine Mutates.bind hm (require_spec (stable_at hm) (stable_at hm) fun _ hs => hs) fun _ => ?_
  refine Mutates.bind hm (Mutates.perform hm (look_at hm
    (q := fun wasActive => Deleting aims id wasActive) fun _ _ _ hp => ⟨hp, rfl⟩)) fun wasActive => ?_
  refine Mutates.bind hm (stopWhere_spec hm) fun stopped => ?_
  refine Mutates.bind hm (Mutates.perform hm (deleteProfile_spec hm)) fun a => ?_
  cases a with
  | ok value | committed value =>
    cases wasActive with
    | true =>
      refine Mutates.perform hm ((reconcileAuthoritative_spec hm).weaken
        (fun _ _ hp => ⟨hp.1, trivial⟩) fun _ _ _ hp => ⟨hp.1, fun _ => hp.2.settled.agrees⟩)
    | false =>
      refine Mutates.done hm fun r store ⟨store₀, hp, hdeleted⟩ ha => ?_
      obtain ⟨-, ⟨⟩⟩ := Option.ite_none_right_eq_some.mp hdeleted
      cases stopped with
      | true => cases hp.1
      | false =>
        refine (hp.agreed ha).delete fun hactive => ?_
        have hfound := hp.isActive
        rw [hactive] at hfound
        simp at hfound
  | refused error =>
    refine Mutates.bind hm (Mutates.perform hm (reach_rule hm (q := Agreed aims)
      (fun _ => trivial) fun s _ hp hg ha => ?_)) fun _ => Mutates.throw hm fun _ _ hp => hp
    cases stopped with
    | false => exact hp.agreed ha
    | true =>
      obtain ⟨-, r₀, hr₀, hstate, hr⟩ := hp
      have hpending := hg.keepsUp ha
      have hready : s.runtime.state = .ready := by
        rw [hr, CoreRuntime.settled, if_pos (by rw [hstate]; rfl)]
      rw [KeepsUp, hready] at hpending
      have hnone : r₀.pendingSnapshot = none := by
        have hsame : s.runtime.pendingSnapshot = r₀.pendingSnapshot := by
          rw [hr, CoreRuntime.settled, if_pos (by rw [hstate]; rfl)]
        rw [← hsame]
        simpa using hpending
      rw [hr]
      exact ((hr₀.agreed ha).settled (.inr hnone)).settled.agrees

end Activating

end MultiCore.Backend
