import MultiCore.Backend.Agreement

/-!
# Warm cores and links

Cores that count as warm run the installed catalog unless a warm-up is recorded
after another request had the service prepare. No two profiles come to share a
link through an import unless a download is stored over or beside the profile
that has its link.
-/

namespace MultiCore.Backend

open Cooperative Daemon Transition

section Runs

variable {ι : Type} [DecidableEq ι] {store : ProfileStore} {loaded : Bool}
  {saved : List (Option String)} {es : List (Step ι)} {content : Nat → Snapshot}
  {d : Config ι Request Place Ask Reply (CoreBackend ι) Response}

/-- A warm-up is recorded by this step only for what it had the service prepare itself. -/
def Step.RecordsOwn (e : Step ι) : Prop :=
  match e.label with
  | .ran i _ place => Backend.RecordsOwn i place e.source.shared
  | _ => True

/-- Nothing but the warm cores. -/
def Aims.warm (content : Nat → Snapshot) : Aims :=
  { Aims.none with warmth := True, content := content }

/-- What an answer makes of the store is the store after the step. -/
theorem store_answered {c d : Config ι Request Place Ask Reply (CoreBackend ι) Response} {i : ι}
    {kind : Request} {question : Ask} {answer : Reply question} {s : CoreBackend ι}
    (hstep : (daemon ι).Step c (.answered i kind question answer) d)
    (hs : (daemon ι).respond i question answer c.shared = some s) : d.shared = s := by
  cases hstep with
  | answered i kind question answer t next task given =>
    exact Option.some.inj (given.symm.trans hs)

theorem granted_warm {e : Step ι} (hstep : (daemon ι).Step e.source e.label e.target)
    (hmeant : e.target.shared.store.Meant content) (h : e.RecordsOwn) :
    Granted (daemon ι) (contracts (.warm content)) (fun _ _ => True) e := by
  obtain ⟨source, label, target⟩ := e
  cases label with
  | ran i kind place =>
    dsimp only [Granted, contracts]
    rw [Aims.of_eq rfl]
    exact ⟨False.elim, False.elim, False.elim, False.elim, fun _ => h, False.elim⟩
  | answered i kind question answer =>
    intro t ht
    dsimp only [contracts]
    rw [Aims.of_eq rfl]
    refine ⟨ht, ?_⟩
    cases question with
    | store call =>
      refine ⟨False.elim, fun _ _ => ?_⟩
      rw [← store_answered hstep ht]
      exact hmeant
    | _ => trivial
  | changed change => trivial
  | _ => trivial

/-- Where different snapshots have different revisions and every warm-up is recorded for what it
had the service prepare itself, warm cores in Ready are those of the installed snapshot. -/
theorem warm_is_installed (hrun : (daemon ι).Run (atOpening store loaded saved) es d)
    (hstore : store.Meant content) (hmeant : ∀ e ∈ es, e.target.shared.store.Meant content)
    (h : ∀ e ∈ es, e.RecordsOwn) :
    ∀ e ∈ es, ∀ ready, e.target.shared.runtime.state = .ready →
      e.target.shared.coresLive ready = true → ∃ snapshot,
        e.target.shared.runtime.snapshot = some snapshot ∧
          ∀ payload ∈ e.target.shared.prepared, payload = snapshot.payload := by
  intro e he ready hstate hlive
  have hsound := sound_targets (.warm content) (fun _ => hstore) hrun
    (fun e he => granted_warm (hrun.edge_mem he).1 (hmeant e he) (h e he)) e he
  have hwarm := hsound.warmth trivial
  have hrecorded : e.target.shared.warmRevision = some e.target.shared.runtime.revision := by
    simp only [CoreBackend.coresLive, hstate, Bool.and_eq_true, beq_iff_eq] at hlive
    exact hlive.2.1.1
  cases hsnapshot : e.target.shared.runtime.snapshot with
  | none =>
    exact absurd (hwarm.bare.mp hsnapshot) (hwarm.recorded _ hrecorded).1
  | some snapshot =>
    refine ⟨snapshot, rfl, fun payload hpayload => ?_⟩
    rw [hwarm.prepared _ hrecorded payload hpayload, ← hwarm.installed snapshot hsnapshot]

/-- The look-ups of this step find the profile that has the link, if there is one. -/
def Step.Finds (e : Step ι) : Prop :=
  match e.label with
  | .answered _ _ (.store call) answer => FindsLink e.source.shared.store call answer
  | _ => True

/-- A step of a request that gives a profile another link. -/
def Step.Replaces (e : Step ι) : Prop :=
  match e.label with
  | .ran _ (.replaceSubscriptionSource _ _) _ | .answered _ (.replaceSubscriptionSource _ _) _ _ => True
  | _ => False

/-- Nothing but the links. -/
def Aims.linked : Aims := { Aims.none with links := True }

theorem granted_linked {e : Step ι} (hstores : e.Avoids StoresOver) (hfinds : e.Finds) :
    Granted (daemon ι) (contracts .linked) (fun _ _ => True) e := by
  obtain ⟨source, label, target⟩ := e
  cases label with
  | ran i kind place =>
    refine ⟨?_, ?_, ?_, ?_, ?_, fun _ => hstores⟩ <;> cases kind <;> exact False.elim
  | answered i kind question answer =>
    refine fun t ht => ⟨ht, ?_⟩
    cases question with
    | store call => exact ⟨fun _ => hfinds, by cases kind <;> exact False.elim⟩
    | _ => trivial
  | changed change => trivial
  | _ => trivial

theorem Aims.links_of {aims : Aims} {kind : Request} (h : aims.links)
    (hkind : ∀ id url, kind ≠ .replaceSubscriptionSource id url) : (aims.of kind).links := by
  cases kind with
  | replaceSubscriptionSource id url => exact absurd rfl (hkind id url)
  | _ => exact h

/-- No two profiles come to share a link by a step that is not of a replacement of a link, in every
run in which look-ups find what is there and downloads are stored over it. -/
theorem links_kept (hrun : (daemon ι).Run (atOpening store loaded saved) es d)
    (hstores : ∀ e ∈ es, e.Avoids StoresOver) (hfinds : ∀ e ∈ es, e.Finds) :
    ∀ e ∈ es, ¬ e.Replaces → LinksKept e.source.shared.store e.target.shared.store := by
  intro e he hkind
  have hgranted := fun e he => granted_linked (hstores e he) (hfinds e he)
  obtain ⟨hstep, hsafe⟩ := safe_sources .linked (by rintro ⟨⟩) hrun hgranted e he
  have hgrant := hgranted e he
  obtain ⟨source, label, target⟩ := e
  dsimp only at hstep
  cases label with
  | ran i kind place =>
    refine (hsafe.ran daemon_fits hstep hgrant).links (Aims.links_of trivial ?_)
    rintro id url rfl
    exact hkind trivial
  | answered i kind question answer =>
    refine (hsafe.answered daemon_fits hstep hgrant).links (Aims.links_of trivial ?_)
    rintro id url rfl
    exact hkind trivial
  | began i kind =>
    cases hstep with
    | began i kind free may =>
      have hrecorded := recorded_begun (hsafe.idle i free) may
      exact .of_same (by rw [← hrecorded.store]; rfl) (by rw [← hrecorded.store]; rfl)
  | asked i kind question =>
    cases hstep
    exact .refl _
  | finished i kind result =>
    cases hstep
    exact .refl _
  | changed change =>
    cases hstep with
    | changed change s given =>
      cases change
      cases given
      exact .refl _

/-- Each link belongs to one profile at most. -/
def ProfileStore.Unique (store : ProfileStore) : Prop :=
  ∀ link a b, store.Has a link → store.Has b link → a = b

/-- A link belongs to one profile at most as long as no replacement of a link makes it belong to
two, in every run in which look-ups find what is there and downloads are stored over it. -/
theorem one_profile_per_link (hrun : (daemon ι).Run (atOpening store loaded saved) es d)
    (hunique : store.Unique)
    (hstores : ∀ e ∈ es, e.Avoids StoresOver) (hfinds : ∀ e ∈ es, e.Finds) :
    (∀ e ∈ es, ¬ e.Replaces → LinksKept e.source.shared.store e.target.shared.store) ∧
      ((∀ e ∈ es, e.Replaces → LinksKept e.source.shared.store e.target.shared.store) →
        ∀ e ∈ es, e.target.shared.store.Unique) := by
  have hkept := links_kept hrun hstores hfinds
  refine ⟨hkept, fun hreplaces => ?_⟩
  have hall : ∀ e ∈ es, LinksKept e.source.shared.store e.target.shared.store := fun e he =>
    (Classical.em e.Replaces).elim (hreplaces e he) (hkept e he)
  have hopened : (store.opened loaded).Unique := by
    intro link a b ha hb
    simp only [ProfileStore.Has, ProfileStore.hasSource, ProfileStore.opened_profiles,
      ProfileStore.opened_generation] at ha hb
    exact hunique link a b ha hb
  refine hrun.forall_target_of (I := fun c => c.shared.store.Unique) hopened ?_ hall
  intro c label c' hc _ hgood link a b ha hb
  by_contra hne
  exact hne (hc link a b (hgood link a b hne ha hb).1 (hgood link a b hne ha hb).2)

end Runs

section Examples

/-- Another subscription. -/
def otherSubscription : Snapshot := { subscription none with mihomo := "other" }

/-- A store with two profiles. -/
def twoProfiles : ProfileStore where
  profiles := [7, 8]
  active := some 7
  generation := Function.update
    (Function.update (fun _ => none) 7 (some ⟨firstRevision, subscription none⟩)) 8
    (some ⟨secondRevision, otherSubscription⟩)
  unread _ := false
  listed := by simp

/-- What the revisions of the store with two profiles stand for. -/
def twoContents (revision : Nat) : Snapshot :=
  if revision = 1 then subscription none else otherSubscription

/-- A warm-up whose start was answered, and which is about to record it. -/
def warmingStarted {ι : Type} [DecidableEq ι] (i : ι) (snapshot : Snapshot) : List (DaemonMove ι) :=
  [warming i snapshot,
    answered i (.start ⟨snapshot, { ConnectOptions.default with warmUp := true }⟩ .xray)
      ⟨.ok (), true⟩].flatten

/-- A switch in Ready. -/
def activating (i : Nat) (id : ProfileId) (generation : Generation) : List (DaemonMove Nat) :=
  [[.begin i (.activateSubscription id)], Move.goOn i 2, answered i .serviceAvailable true,
    Move.goOn i 4, answered i (.store (.load id)) (.ok generation), [.go i],
    answered i (.prepare generation.snapshot .default) false,
    answered i (.store (.activate id)) (.ok ()),
    answered i (.store (.savedSelections id generation.revision 1)) [none], Move.goOn i 4].flatten

/-- While a warm-up waits to be recorded, the user switches away, connects, disconnects and
switches back. -/
theorem warm_not_installed :
    ∃ es d, (daemon Nat).Run (atOpening twoProfiles true [none]) es d ∧
      (∀ e ∈ es, e.target.shared.store.Meant twoContents) ∧
      d.shared.runtime.state = .ready ∧ d.shared.coresLive true = true ∧
      d.shared.runtime.snapshot = some (subscription none) ∧
      d.shared.prepared = some otherSubscription.payload := by
  obtain ⟨es, d, hrun, hd⟩ := (daemon Nat).exists_run (atOpening twoProfiles true [none])
    [readinessOn 0, warmingStarted 1 (subscription none), activating 2 8 ⟨2, otherSubscription⟩,
      connecting 0 otherSubscription .default, disconnecting 0 8 ⟨2, otherSubscription⟩ .default,
      activating 2 7 ⟨1, subscription none⟩, [.go 1]].flatten
    (fun es d => (es.all fun e => decide (e.target.shared.store.Meant twoContents)) &&
      d.shared.runtime.state == .ready && d.shared.coresLive true &&
      d.shared.runtime.snapshot == some (subscription none) &&
      d.shared.prepared == some otherSubscription.payload) (by decide +kernel)
  simp only [Bool.and_eq_true, beq_iff_eq, List.all_eq_true, decide_eq_true_eq] at hd
  obtain ⟨⟨⟨⟨hmeant, hstate⟩, hlive⟩, hsnapshot⟩, hprepared⟩ := hd
  exact ⟨es, d, hrun, hmeant, hstate, hlive, hsnapshot, hprepared⟩

instance {ι : Type} [DecidableEq ι] (i : ι) (place : Place) (s : CoreBackend ι) :
    Decidable (RecordsOwn i place s) :=
  match place with
  | .warmedUp revision =>
    inferInstanceAs (Decidable (s.runtime.revision = revision → s.preparer = some i))
  | .plain | .stopFailed | .compensationFailed | .carryFailed _ | .reloadFailed | .deleteRefused
  | .storingInactive _ _ | .disconnected _ | .answered _ | .shutDown => instDecidableTrue

instance {ι : Type} [DecidableEq ι] (e : Step ι) : Decidable e.RecordsOwn := by
  obtain ⟨source, label, target⟩ := e
  unfold Step.RecordsOwn
  split <;> infer_instance

/-- A warm-up with nothing else under way. -/
theorem warm_is_installed_warmed :
    ∃ es d, (daemon Nat).Run (atOpening twoProfiles true [none]) es d ∧
      d.shared.coresLive true = true ∧
      ∀ e ∈ es, ∀ ready, e.target.shared.runtime.state = .ready →
        e.target.shared.coresLive ready = true → ∃ snapshot,
          e.target.shared.runtime.snapshot = some snapshot ∧
            ∀ payload ∈ e.target.shared.prepared, payload = snapshot.payload := by
  obtain ⟨es, d, hrun, hd⟩ := (daemon Nat).exists_run (atOpening twoProfiles true [none])
    [readinessOn 0, warmingStarted 1 (subscription none), [.go 1]].flatten
    (fun es d => d.shared.coresLive true && es.all fun e =>
      decide (e.target.shared.store.Meant twoContents ∧ Step.RecordsOwn e)) rfl
  obtain ⟨hlive, hall⟩ := Bool.and_eq_true_iff.mp hd
  have hall := fun e he => of_decide_eq_true (List.all_eq_true.mp hall e he)
  refine ⟨es, d, hrun, hlive, warm_is_installed hrun
    (by decide : twoProfiles.Meant twoContents) (fun e he => (hall e he).1) fun e he => (hall e he).2⟩

/-- An import while connected, up to the download, with the profile that it finds. -/
def lookingUp {ι : Type} [DecidableEq ι] (i : ι) (found : Option ProfileId) :
    List (DaemonMove ι) :=
  [[.begin i (.importSubscription subscriptionLink.text)], [.go i],
    answered i (.store (.findSource subscriptionLink)) (.ok found), [.go i],
    answered i (.fetch subscriptionLink) (some (subscription (some subscriptionLink)))].flatten

/-- It stores the download as a new profile. -/
def storingNew {ι : Type} [DecidableEq ι] (i : ι) (id : ProfileId) (revision : ℕ+) :
    List (DaemonMove ι) :=
  [Move.goOn i 2,
    answered i (.store (.add (subscription (some subscriptionLink)))) (.ok (id, revision)),
    answered i (.store (.load id)) (.ok ⟨revision, subscription (some subscriptionLink)⟩),
    [.go i]].flatten

theorem unique_oneProfile : oneProfile.Unique := by
  intro link a b ha hb
  have ha : a = 7 := by simpa [oneProfile] using ha.1
  have hb : b = 7 := by simpa [oneProfile] using hb.1
  rw [ha, hb]

/-- No source of a subscription is replaced. -/
def replacesNothing (e : Step Nat) : Bool :=
  match e.label with
  | .ran _ (.replaceSubscriptionSource _ _) _
  | .answered _ (.replaceSubscriptionSource _ _) _ _ => false
  | _ => true

/-- Two imports of one link while connected, of which neither finds the other's profile. -/
theorem two_profiles_per_link :
    ∃ es d, (daemon Nat).Run (atOpening oneProfile true [none]) es d ∧ oneProfile.Unique ∧
      (∀ e ∈ es, ¬ Step.Replaces e) ∧ ¬ d.shared.store.Unique := by
  obtain ⟨es, d, hrun, hd⟩ := (daemon Nat).exists_run (atOpening oneProfile true [none])
    (connecting 0 (subscription none) .default ++ lookingUp 1 none ++ lookingUp 2 none ++
      storingNew 1 8 2 ++ storingNew 2 9 3)
    (fun es d => es.all replacesNothing && decide (8 ∈ d.shared.store.profiles ∧
      9 ∈ d.shared.store.profiles ∧
      d.shared.store.hasSource subscriptionLink 8 = true ∧
      d.shared.store.hasSource subscriptionLink 9 = true)) rfl
  obtain ⟨hall, hboth⟩ := Bool.and_eq_true_iff.mp hd
  obtain ⟨hfirst, hsecond, hone, htwo⟩ := of_decide_eq_true hboth
  refine ⟨es, d, hrun, unique_oneProfile, fun e he hreplaces => ?_, fun hunique => ?_⟩
  · have hlabel := List.all_eq_true.mp hall e he
    unfold replacesNothing at hlabel
    unfold Step.Replaces at hreplaces
    split at hreplaces <;> simp_all
  · have hsame := hunique subscriptionLink 8 9 ⟨hfirst, hone⟩ ⟨hsecond, htwo⟩
    cases hsame

instance (store : ProfileStore) (id : ProfileId) (link : Link) : Decidable (store.Has id link) :=
  inferInstanceAs (Decidable (_ ∧ _))

instance (store : ProfileStore) (link : Link) : Decidable (∀ id, ¬ store.Has id link) :=
  decidable_of_iff (∀ id ∈ store.profiles, ¬ store.Has id link)
    ⟨fun h id hhas => h id hhas.1 hhas, fun h id _ => h id⟩

instance findsDecidable (store : ProfileStore) (call : StoreCall) (answer : StoreReply call) :
    Decidable (FindsLink store call answer) := by
  unfold FindsLink
  split <;> infer_instance

instance {ι : Type} (place : Place) (s : CoreBackend ι) : Decidable (StoresOver place s) :=
  match place with
  | .storingInactive existing (some link) =>
    inferInstanceAs
      (Decidable ((∃ id ∈ existing, s.store.Has id link) ∨ ∀ id, ¬ s.store.Has id link))
  | .storingInactive _ none | .plain | .stopFailed | .compensationFailed | .carryFailed _
  | .reloadFailed | .deleteRefused | .warmedUp _ | .disconnected _ | .answered _ | .shutDown =>
    instDecidableTrue

instance {ι : Type} [DecidableEq ι] (e : Step ι) : Decidable e.Finds := by
  unfold Step.Finds
  split
  · exact findsDecidable _ _ _
  · infer_instance

/-- It stores the download over the profile that it found. -/
def storingOver {ι : Type} [DecidableEq ι] (i : ι) (id : ProfileId) (previous revision : ℕ+) :
    List (DaemonMove ι) :=
  [Move.goOn i 2,
    answered i (.store (.load id)) (.ok ⟨previous, subscription (some subscriptionLink)⟩),
    answered i (.store (.replace id (subscription (some subscriptionLink)))) (.ok revision),
    answered i (.store (.load id)) (.ok ⟨revision, subscription (some subscriptionLink)⟩),
    [.go i]].flatten

/-- A download is about to be stored over a profile. -/
def overwrites {ι : Type} [DecidableEq ι] (e : Step ι) : Bool :=
  match e.label with
  | .ran _ _ (.storingInactive (some _) (some _)) => true
  | _ => false

/-- Two imports of one link while connected, one after the other: the second finds the profile of
the first. -/
theorem one_profile_per_link_imported :
    ∃ es d, (daemon (Fin 3)).Run (atOpening oneProfile true [none]) es d ∧
      d.shared.store.Has 8 subscriptionLink ∧ (∃ e ∈ es, overwrites e = true) ∧
      (∀ e ∈ es, ¬ Step.Replaces e →
        LinksKept e.source.shared.store e.target.shared.store) ∧
      ((∀ e ∈ es, Step.Replaces e → LinksKept e.source.shared.store e.target.shared.store) →
        ∀ e ∈ es, e.target.shared.store.Unique) := by
  obtain ⟨es, d, hrun, hd⟩ := (daemon (Fin 3)).exists_run (atOpening oneProfile true [none])
    (connecting 0 (subscription none) .default ++ lookingUp 1 none ++ storingNew 1 8 2 ++
      lookingUp 2 (some 8) ++ storingOver 2 8 2 3)
    (fun es d => decide (d.shared.store.Has 8 subscriptionLink) && es.any overwrites &&
      es.all fun e => decide (Step.Avoids StoresOver e ∧ Step.Finds e)) (by decide +kernel)
  simp only [Bool.and_eq_true, decide_eq_true_eq] at hd
  obtain ⟨⟨hhas, hover⟩, hall⟩ := hd
  have hall := fun e he => of_decide_eq_true (List.all_eq_true.mp hall e he)
  exact ⟨es, d, hrun, hhas, List.any_eq_true.mp hover, one_profile_per_link hrun unique_oneProfile
    (fun e he => (hall e he).1) fun e he => (hall e he).2⟩

end Examples

end MultiCore.Backend
