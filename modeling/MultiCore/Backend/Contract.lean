import MultiCore.Backend.System
import MultiCore.Library.Triple

/-!
# What the daemon's requests keep

One contract serves all aims, each with the invariant it needs: the runtime
agrees with the store, the connection state is coherent, a Disconnect is final,
Quit is final, warm cores are those of the installed catalog, and no two
profiles come to share a link. Each aim names the places a run must not get to
in a bad state. With the operation lock a request owns the runtime and the
store, so there its program is judged as a sequential one.
-/

namespace MultiCore.Backend

open Cooperative Daemon

section Predicates

/-- The runtime holds the current generation of the active profile, or no snapshot where it could
not be read. -/
structure Settled (r : CoreRuntime) (store : ProfileStore) : Prop where
  active : r.activeProfile = store.active
  empty : store.active = none → r.snapshot = none
  installed : ∀ id ∈ store.active,
    (∃ generation ∈ store.generation id,
      r.snapshot = some generation.snapshot ∧ r.revision = generation.revision) ∨
    (store.unread id = true ∧ r.snapshot = none)

/-- The current generation of the active profile waits for the connection to end. -/
structure Waiting (r : CoreRuntime) (store : ProfileStore) : Prop where
  active : r.activeProfile = store.active
  connected : r.state = .connected
  pending : ∃ id ∈ store.active, ∃ generation ∈ store.generation id,
    r.pendingSnapshot = some generation

/-- The runtime and the store agree. -/
def Agrees (r : CoreRuntime) (store : ProfileStore) : Prop := Settled r store ∨ Waiting r store

instance (r : CoreRuntime) (store : ProfileStore) : Decidable (Settled r store) :=
  decidable_of_iff (_ ∧ _ ∧ _)
    ⟨fun h => ⟨h.1, h.2.1, h.2.2⟩, fun h => ⟨h.active, h.empty, h.installed⟩⟩

instance (r : CoreRuntime) (store : ProfileStore) : Decidable (Waiting r store) :=
  decidable_of_iff (_ ∧ _ ∧ _)
    ⟨fun h => ⟨h.1, h.2.1, h.2.2⟩, fun h => ⟨h.active, h.connected, h.pending⟩⟩

instance (r : CoreRuntime) (store : ProfileStore) : Decidable (Agrees r store) :=
  inferInstanceAs (Decidable (_ ∨ _))

/-- Error is degraded and nothing else is, and what has to be stopped has a controller. -/
structure Coherent (r : CoreRuntime) : Prop where
  error_iff : r.state = .error ↔ r.degraded = true
  controller : r.state = .connecting ∨ r.state = .connected ∨ r.state = .error →
    r.controller ≠ none
  installed : r.state ≠ .empty → r.snapshot ≠ none

/-- Where Connect and changes of profiles are accepted: Ready with something to connect to, or
Empty, and not degraded. -/
structure Accepting (r : CoreRuntime) : Prop where
  state : r.state = .empty ∨ r.state = .ready ∧ r.snapshot ≠ none
  degraded : r.degraded = false

/-- No connection is up or coming up, and nothing is left that would bring one up. -/
structure Down {ι : Type} (s : CoreBackend ι) : Prop where
  live : s.runtime.live = false
  reconnect : s.autoReconnect = none
  bound : ∀ i, s.bound i = false

/-- Where changes of profiles are accepted, the check for them passes. -/
theorem Accepting.acceptsMutation {r : CoreRuntime} (h : Accepting r) :
    r.acceptsMutation = true := by
  rcases h.state with hs | ⟨hs, -⟩ <;> simp [CoreRuntime.acceptsMutation, CoreRuntime.live, hs, h.degraded]

/-- No connection is up or coming up there. -/
theorem Accepting.not_live {r : CoreRuntime} (h : Accepting r) : r.live = false := by
  rcases h.state with hs | ⟨hs, -⟩ <;> simp [CoreRuntime.live, hs]

/-- Such a runtime is coherent. -/
theorem Accepting.coherent {r : CoreRuntime} (h : Accepting r) : Coherent r := by
  rcases h.state with hs | ⟨hs, hr⟩
  · constructor <;> simp [hs, h.degraded]
  · constructor <;> simp [hs, h.degraded, hr]

end Predicates

section Aims

/-- What a run is about. -/
structure Aims where
  agreement : Prop
  coherence : Prop
  finality : Prop
  quit : Prop
  warmth : Prop
  links : Prop
  /-- What each revision stands for. -/
  content : Nat → Snapshot

/-- Nothing goes wrong at this place that leaves the runtime behind the store. -/
def KeepsUp {ι : Type} : Place → CoreBackend ι → Prop
  | .stopFailed, s | .compensationFailed, s => s.runtime.pendingSnapshot = none
  | .carryFailed id, s | .storingInactive (some id) _, s => s.store.active ≠ some id
  | .reloadFailed, _ => False
  | .deleteRefused, s => s.runtime.state = .connected ∨ s.runtime.pendingSnapshot = none
  | _, _ => True

/-- No error is recorded at this place without a controller. -/
def KeepsController {ι : Type} : Place → CoreBackend ι → Prop
  | .compensationFailed, s => s.runtime.controller ≠ none
  | _, _ => True

/-- A Disconnect that returns with success at this place leaves no reconnect behind. -/
def LeavesNoReconnect {ι : Type} : Place → CoreBackend ι → Prop
  | .answered true, s => s.autoReconnect = none ∧ ∀ i, s.bound i = false
  | _, _ => True

/-- `shutdown_cores` does not return at this place before whoever may still start the cores. -/
def ReturnsLast {ι : Type} : Place → CoreBackend ι → Prop
  | .shutDown, s => ∀ i, s.past i = false
  | _, _ => True

/-- A success is recorded at this place only by whoever had the service prepare last. -/
def RecordsOwn {ι : Type} (i : ι) : Place → CoreBackend ι → Prop
  | .warmedUp revision, s => s.runtime.revision = revision → s.preparer = some i
  | _, _ => True

/-- The profile has this link. -/
def ProfileStore.Has (store : ProfileStore) (id : ProfileId) (link : Link) : Prop :=
  id ∈ store.profiles ∧ store.hasSource link id = true

/-- What is stored at this place for a link goes to a profile that has it, if there is one. -/
def StoresOver {ι : Type} : Place → CoreBackend ι → Prop
  | .storingInactive existing (some link), s =>
    (∃ id ∈ existing, s.store.Has id link) ∨ ∀ id, ¬ s.store.Has id link
  | _, _ => True

/-- What the aims need of the run at a place. -/
structure Grant {ι : Type} (aims : Aims) (i : ι) (place : Place) (s : CoreBackend ι) : Prop where
  keepsUp : aims.agreement → KeepsUp place s
  keepsController : aims.coherence → KeepsController place s
  leavesNoReconnect : aims.finality → LeavesNoReconnect place s
  returnsLast : aims.quit → ReturnsLast place s
  recordsOwn : aims.warmth → RecordsOwn i place s
  storesOver : aims.links → StoresOver place s

/-- A look-up finds a link that a profile has. -/
def FindsLink (store : ProfileStore) : (c : StoreCall) → StoreReply c → Prop
  | .findSource link, .ok none => ∀ id, ¬ store.Has id link
  | _, _ => True

/-- No two profiles come to share a link. -/
def LinksKept (store store' : ProfileStore) : Prop :=
  ∀ link a b, a ≠ b → store'.Has a link → store'.Has b link → store.Has a link ∧ store.Has b link

/-- Each stored generation is what its revision stands for. -/
def ProfileStore.Meant (content : Nat → Snapshot) (store : ProfileStore) : Prop :=
  ∀ id ∈ store.profiles, ∀ generation ∈ store.generation id,
    content generation.revision = generation.snapshot

instance (content : Nat → Snapshot) (store : ProfileStore) : Decidable (store.Meant content) :=
  inferInstanceAs (Decidable (∀ id ∈ store.profiles, _))

/-- What the aims need of an answer of the store, which is `store'` then. -/
structure GrantCall (aims : Aims) (c : StoreCall) (a : StoreReply c)
    (store store' : ProfileStore) : Prop where
  links : aims.links → FindsLink store c a
  meant : aims.warmth → store.Meant aims.content → store'.Meant aims.content

/-- What the aims need of an answer. -/
def GrantAnswer (aims : Aims) : (q : Ask) → Reply q → ProfileStore → ProfileStore → Prop
  | .store c, a, store, store' => GrantCall aims c a store store'
  | _, _, _, _ => True

/-- A Disconnect that did not fail to stop the cores leaves the daemon accepting. -/
def Shows {ι : Type} (aims : Aims) : Place → CoreBackend ι → Prop
  | .disconnected false, s => aims.coherence → Accepting s.runtime
  | _, _ => True

/-- Whether a request to the supervisor starts cores. -/
def Ask.starts : Ask → Bool
  | .start .. => true
  | _ => false

/-- The cores that count as warm are those of the installed catalog. -/
structure Warm {ι : Type} (content : Nat → Snapshot) (s : CoreBackend ι) : Prop where
  meant : s.store.Meant content
  installed : ∀ snapshot ∈ s.runtime.snapshot, content s.runtime.revision = snapshot
  bare : s.runtime.snapshot = none ↔ s.runtime.revision = 0
  recorded : ∀ revision ∈ s.warmRevision, revision ≠ 0 ∧ revision = s.runtime.revision
  prepared : ∀ revision ∈ s.warmRevision, ∀ payload ∈ s.prepared,
    payload = (content revision).payload

/-- The invariant. -/
structure Sound {ι : Type} (aims : Aims) (s : CoreBackend ι) : Prop where
  agreement : aims.agreement → s.operation = none → Agrees s.runtime s.store
  coherence : aims.coherence → Coherent s.runtime
  finality : aims.finality → s.final = true → Down s
  quit : aims.quit → s.quit = true → s.shutDown = true ∧ ∀ i, s.past i = false
  warmth : aims.warmth → Warm aims.content s

end Aims

section Contracts

variable {ι : Type} [DecidableEq ι]

/-- What a request has of its own. -/
structure Mine where
  /-- The operation lock. -/
  holding : Bool
  /-- `generation_change`. -/
  switching : Bool
  bound : Bool
  past : Bool
  /-- It is the watcher's tick. -/
  watching : Bool
  deriving DecidableEq, Repr

/-- What it takes to bring a connection up. -/
def Mine.entitled (m : Mine) : Bool := m.switching && m.bound && m.past

/-- What a request has, read off the state. -/
def CoreBackend.mine (s : CoreBackend ι) (i : ι) : Mine where
  holding := s.operation = some i
  switching := s.generationChange = some i
  bound := s.bound i
  past := s.past i
  watching := s.watching = some i

/-- The operation lock is held by the request that the state names. -/
theorem holding_iff {s : CoreBackend ι} {i : ι} :
    (s.mine i).holding = true ↔ s.operation = some i := by
  simp [CoreBackend.mine]

/-- `generation_change` is held by the request that the state names. -/
theorem switching_iff {s : CoreBackend ι} {i : ι} :
    (s.mine i).switching = true ↔ s.generationChange = some i := by
  simp [CoreBackend.mine]

/-- What the others leave alone. -/
structure Rely (i : ι) (s t : CoreBackend ι) : Prop where
  mine : t.mine i = s.mine i
  kept : (s.mine i).holding = true → t.runtime = s.runtime ∧ t.store = s.store
  live : (s.mine i).switching = true → t.runtime.live = true → s.runtime.live = true
  final : (s.mine i).switching = true → t.final = true → s.final = true
  shutDown : s.shutDown = true → t.shutDown = true
  records : (s.mine i).watching = true → ∀ revision ∈ t.warmRevision, revision ∈ s.warmRevision
  prepares : t.preparer = some i → s.preparer = some i ∧ ∀ payload ∈ t.prepared, payload ∈ s.prepared

/-- What a request does. -/
structure Guar (aims : Aims) (i : ι) (s t : CoreBackend ι) : Prop where
  others : ∀ j, j ≠ i → t.mine j = s.mine j
  kept : (s.mine i).holding = true ∨ t.runtime = s.runtime ∧ t.store = s.store
  enters : t.runtime.live = true → t.runtime.state = s.runtime.state ∨ (s.mine i).entitled = true
  final : t.final = true → s.final = true ∨ (s.mine i).switching = true
  shutDown : s.shutDown = true → t.shutDown = true
  records : (s.mine i).watching = true ∨ ∀ revision ∈ t.warmRevision, revision ∈ s.warmRevision
  prepares : t.preparer = some i ∨ t.preparer = s.preparer ∧ t.prepared = s.prepared
  links : aims.links → LinksKept s.store t.store

/-- Doing nothing keeps the links. -/
theorem LinksKept.refl (store : ProfileStore) : LinksKept store store :=
  fun _ _ _ _ ha hb => ⟨ha, hb⟩

/-- Doing nothing is allowed to the others. -/
theorem Rely.refl (i : ι) (s : CoreBackend ι) : Rely i s s :=
  ⟨rfl, fun _ => ⟨rfl, rfl⟩, fun _ h => h, fun _ h => h, fun h => h, fun _ _ h => h,
    fun h => ⟨h, fun _ h => h⟩⟩

/-- Two steps of the others are steps of the others. -/
theorem Rely.trans {i : ι} {s t u : CoreBackend ι} (h : Rely i s t) (k : Rely i t u) :
    Rely i s u := by
  have hmine := h.mine
  constructor
  · exact k.mine.trans hmine
  · intro hs
    have hk := k.kept (hmine ▸ hs)
    have hh := h.kept hs
    exact ⟨hk.1.trans hh.1, hk.2.trans hh.2⟩
  · exact fun hs hu => h.live hs (k.live (hmine ▸ hs) hu)
  · exact fun hs hu => h.final hs (k.final (hmine ▸ hs) hu)
  · exact fun hs => k.shutDown (h.shutDown hs)
  · exact fun hs revision hu => h.records hs revision (k.records (hmine ▸ hs) revision hu)
  · intro hu
    obtain ⟨ht, hk⟩ := k.prepares hu
    obtain ⟨hs, hh⟩ := h.prepares ht
    exact ⟨hs, fun payload hp => hh payload (hk payload hp)⟩

/-- The watcher's tick is the request that the state names. -/
theorem watching_iff {s : CoreBackend ι} {i : ι} :
    (s.mine i).watching = true ↔ s.watching = some i := by
  simp [CoreBackend.mine]

/-- There is one watcher's tick at most. -/
theorem watching_unique {s : CoreBackend ι} {i j : ι} (hi : (s.mine i).watching = true)
    (hj : (s.mine j).watching = true) : i = j := by
  rw [watching_iff] at hi hj
  exact Option.some.inj (hi.symm.trans hj)

/-- Whether a connection is up or coming up depends on the state of the connection only. -/
theorem live_congr {r r' : CoreRuntime} (h : r.state = r'.state) : r.live = r'.live := by
  simp [CoreRuntime.live, h]

/-- Only one request has the operation lock. -/
theorem holding_unique {s : CoreBackend ι} {i j : ι} (hi : (s.mine i).holding = true)
    (hj : (s.mine j).holding = true) : i = j := by
  rw [holding_iff] at hi hj
  exact Option.some.inj (hi.symm.trans hj)

/-- Only one request has `generation_change`. -/
theorem switching_unique {s : CoreBackend ι} {i j : ι} (hi : (s.mine i).switching = true)
    (hj : (s.mine j).switching = true) : i = j := by
  rw [switching_iff] at hi hj
  exact Option.some.inj (hi.symm.trans hj)

/-- It takes `generation_change` to bring a connection up. -/
theorem Mine.switching_of_entitled {m : Mine} (h : m.entitled = true) : m.switching = true := by
  simp only [entitled, Bool.and_eq_true] at h
  exact h.1.1

/-- What one request does is what the others rely on. -/
theorem Guar.rely {aims : Aims} {i j : ι} {s t : CoreBackend ι} (hne : i ≠ j)
    (h : Guar aims i s t) : Rely j s t where
  mine := h.others j (Ne.symm hne)
  kept hj := by
    rcases h.kept with hi | hkept
    · exact absurd (holding_unique hi hj) hne
    · exact hkept
  live hj ht := by
    rcases h.enters ht with hstate | hi
    · rw [← live_congr hstate]
      exact ht
    · exact absurd (switching_unique (Mine.switching_of_entitled hi) hj) hne
  final hj ht := by
    rcases h.final ht with hs | hi
    · exact hs
    · exact absurd (switching_unique hi hj) hne
  shutDown := h.shutDown
  records hj := by
    rcases h.records with hi | hrecords
    · exact absurd (watching_unique hi hj) hne
    · exact hrecords
  prepares ht := by
    rcases h.prepares with hi | ⟨hpreparer, hprepared⟩
    · exact absurd (Option.some.inj (hi.symm.trans ht)) hne
    · exact ⟨hpreparer ▸ ht, fun _ hp => hprepared ▸ hp⟩

/-- The contract of the request `i`. -/
def contract (aims : Aims) (i : ι) : Contract Place Ask Reply (CoreBackend ι) where
  inv := Sound aims
  rely := Rely i
  guar := Guar aims i
  asks q s := aims.quit → q.starts = true → s.quit = false
  grants := Grant aims i
  answers q a s t := s.respond i q a = some t ∧ GrantAnswer aims q a s.store t.store
  shows place s _ := Shows aims place s
  rely_refl := Rely.refl i
  rely_trans := Rely.trans

end Contracts

section Conditions

variable {ι : Type} [DecidableEq ι] {aims : Aims} {i : ι} {m : Mine}

/-- The request has this of its own. -/
def Out (i : ι) (m : Mine) (s : CoreBackend ι) : Prop := s.mine i = m

/-- It also knows this of the runtime and the store, whose lock it holds. -/
def At (i : ι) (m : Mine) (p : CoreRuntime → ProfileStore → Prop) (s : CoreBackend ι) : Prop :=
  s.mine i = m ∧ p s.runtime s.store

/-- What a request has without the operation lock is stable. -/
theorem stable_out : (contract aims i).Stable (Out i m) :=
  fun _ _ ht hs => ht.1.mine.trans hs

/-- Under the lock, anything about the runtime and the store is stable. -/
theorem stable_at (hm : m.holding = true) {p : CoreRuntime → ProfileStore → Prop} :
    (contract aims i).Stable (At i m p) := by
  rintro s t ht ⟨hmine, hp⟩
  obtain ⟨hr, hs⟩ := ht.1.kept (hmine ▸ hm)
  exact ⟨ht.1.mine.trans hmine, by rw [hr, hs]; exact hp⟩

/-- What the contract speaks of besides the runtime, the warm revision and the pending
reconnect. -/
def CoreBackend.frame (s : CoreBackend ι) :=
  (s.operation, s.generationChange, s.store, s.watching, s.prepared, s.preparer, s.shutDown,
    s.final, s.quit, s.bound, s.past)

/-- What a request has is read off the frame. -/
theorem mine_of_frame {s t : CoreBackend ι} (h : t.frame = s.frame) (j : ι) :
    t.mine j = s.mine j := by
  simp only [CoreBackend.frame, Prod.mk.injEq] at h
  simp [CoreBackend.mine, h]

/-- What a change of the runtime and the warm revision has to respect. -/
structure Respects (aims : Aims) (m : Mine) (s t : CoreBackend ι) : Prop where
  coherent : aims.coherence → Coherent s.runtime → Coherent t.runtime
  enters : t.runtime.live = true → t.runtime.state = s.runtime.state ∨ m.entitled = true
  warm : aims.warmth → Warm aims.content s → Warm aims.content t
  records : m.watching = true ∨ ∀ revision ∈ t.warmRevision, revision ∈ s.warmRevision

/-- A reconnect becomes pending only while a connection is up. -/
def Schedules (s t : CoreBackend ι) : Prop :=
  s.autoReconnect = none → s.runtime.live = false → t.autoReconnect = none

/-- A change of the runtime by the holder of the operation lock. -/
theorem own_of_respects {s t : CoreBackend ι} (hs : Sound aims s)
    (hm : (s.mine i).holding = true ∨ t.runtime = s.runtime) (hframe : t.frame = s.frame)
    (hauto : Schedules s t) (h : Respects aims (s.mine i) s t) : (contract aims i).Own s t := by
  have hmine := mine_of_frame hframe
  simp only [CoreBackend.frame, Prod.mk.injEq] at hframe
  obtain ⟨hop, -, hstore, -, hprepared, hpreparer, hdown, hfinal, hquit, hbound, hpast⟩ := hframe
  refine ⟨⟨fun j _ => hmine j, hm.imp_right fun hr => ⟨hr, hstore⟩, h.enters,
    fun ht => .inl (hfinal ▸ ht), fun ht => hdown ▸ ht, h.records,
    .inr ⟨hpreparer, hprepared⟩, fun _ => hstore ▸ .refl _⟩, ?_⟩
  constructor
  · intro ha hnone
    rw [hop] at hnone
    rcases hm with hm | hruntime
    · rw [holding_iff.mp hm] at hnone
      cases hnone
    · rw [hruntime, hstore]
      exact hs.agreement ha hnone
  · exact fun ha => h.coherent ha (hs.coherence ha)
  · intro ha ht
    have hdown := hs.finality ha (hfinal ▸ ht)
    refine ⟨?_, hauto hdown.reconnect hdown.live, fun j => hbound ▸ hdown.bound j⟩
    by_contra hlive
    rcases h.enters (by simpa using hlive) with hstate | hentitled
    · rw [live_congr hstate, hdown.live] at hlive
      exact hlive rfl
    · simp [Mine.entitled, CoreBackend.mine, hdown.bound i] at hentitled
  · intro ha ht
    have hq := hs.quit ha (hquit ▸ ht)
    exact ⟨hdown ▸ hq.1, fun j => hpast ▸ hq.2 j⟩
  · exact fun ha => h.warm ha (hs.warmth ha)

omit [DecidableEq ι] in
/-- The invariant reads nothing else of the warm cores. -/
theorem Warm.congr {content : Nat → Snapshot} {s t : CoreBackend ι} (h : Warm content s)
    (hstore : t.store = s.store) (hsnapshot : t.runtime.snapshot = s.runtime.snapshot)
    (hrevision : t.runtime.revision = s.runtime.revision) (hwarm : t.warmRevision = s.warmRevision)
    (hprepared : t.prepared = s.prepared) : Warm content t := by
  constructor
  · rw [hstore]
    exact h.meant
  · rw [hsnapshot, hrevision]
    exact h.installed
  · rw [hsnapshot, hrevision]
    exact h.bare
  · rw [hwarm, hrevision]
    exact h.recorded
  · rw [hwarm, hprepared]
    exact h.prepared

/-- Whatever the contract does not speak of may change. -/
theorem own_aside {s t : CoreBackend ι} (hs : Sound aims s) (hframe : t.frame = s.frame)
    (hruntime : t.runtime = s.runtime) (hwarm : t.warmRevision = s.warmRevision)
    (hauto : Schedules s t) : (contract aims i).Own s t := by
  refine own_of_respects hs (.inr hruntime) hframe hauto ⟨?_, ?_, fun _ hw => ?_, .inr ?_⟩
  · rw [hruntime]
    exact fun _ h => h
  · rw [hruntime]
    exact fun _ => .inl rfl
  · simp only [CoreBackend.frame, Prod.mk.injEq] at hframe
    exact hw.congr hframe.2.2.1 (by rw [hruntime]) (by rw [hruntime]) hwarm hframe.2.2.2.2.1
  · rw [hwarm]
    exact fun _ h => h

end Conditions

end MultiCore.Backend
