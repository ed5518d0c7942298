import MultiCore.Library.Run
import MultiCore.Profiles.Adding

/-!
# The catalogue that a store keeps

With its index and its directories a store keeps a catalogue: the profiles in
order, each with its snapshot, and the active one. Every operation, whatever
fails inside it, either changes the catalogue as it was asked to and says so, or
leaves it as it was; and a store that is opened again has the catalogue that it
had when it was left.
-/

namespace MultiCore.Profiles

open Transition

variable {S : Type}

/-- A profile of the catalogue; without a snapshot where none can be loaded. -/
structure Profile (S : Type) where
  id : ProfileId
  createdAtUnix : Nat
  snapshot : Option S
  deriving DecidableEq, Repr

/-- What a client is told of the profiles. -/
structure Catalogue (S : Type) where
  profiles : List (Profile S)
  active : Option ProfileId
  deriving DecidableEq, Repr

/-- What an operation is asked to do to the catalogue. -/
inductive Change (S : Type) where
  | created (id : ProfileId) (now : Nat) (snapshot : S) (activate : Bool)
  | replaced (id : ProfileId) (snapshot : S)
  | activated (id : ProfileId)
  | deleted (id : ProfileId)
  deriving DecidableEq, Repr

/-- The catalogue without a profile. If that was the active one, the one behind it becomes active,
or the one before it where it was the last. -/
def Catalogue.without (catalogue : Catalogue S) (id : ProfileId) : Catalogue S :=
  let before := catalogue.profiles.takeWhile fun profile => profile.id ≠ id
  let after := (catalogue.profiles.dropWhile fun profile => profile.id ≠ id).tail
  { profiles := before ++ after
    active :=
      if catalogue.active = some id then (after.head?.or before.getLast?).map Profile.id
      else catalogue.active }

/-- What a change that is told does to the catalogue. -/
def Catalogue.apply (catalogue : Catalogue S) : Change S → Catalogue S
  | .created id now snapshot activate =>
    { profiles := catalogue.profiles ++ [⟨id, now, some snapshot⟩]
      active := if activate then some id else catalogue.active }
  | .replaced id snapshot =>
    { catalogue with
      profiles := catalogue.profiles.map fun profile =>
        if profile.id = id then { profile with snapshot := some snapshot } else profile }
  | .activated id => { catalogue with active := some id }
  | .deleted id => catalogue.without id

/-- The catalogue after what an operation said it has changed. -/
def Catalogue.applied (catalogue : Catalogue S) : Option (Change S) → Catalogue S
  | none => catalogue
  | some change => catalogue.apply change

/-- The snapshot that loads from the directory of a profile. -/
def snapshotIn (entries : List (Entry S)) (id : ProfileId) : Option S :=
  (entries.find? fun entry => entry.id = id).bind Entry.snapshot

/-- An entry of the index with the snapshot of its folder. -/
def listed (entries : List (Entry S)) (entry : ProfileIndexEntry) : Profile S :=
  ⟨entry.id, entry.createdAtUnix, snapshotIn entries entry.id⟩

/-- The catalogue of a store. -/
def ProfileStore.catalogue (store : ProfileStore S) : Catalogue S :=
  ⟨store.index.profiles.map (listed store.entries), store.index.activeId⟩

/-! ## The answers -/

/-- Whether the mutation was published before the error occurred. -/
def ProfileError.mutationCommitted : ProfileError → Bool
  | .indexMaintenanceDebt _ => true
  | .cleanupDebt _ mutationCommitted => mutationCommitted
  | _ => false

/-- The profile that an error is about. -/
def ProfileError.profileId : ProfileError → Option ProfileId
  | .notFound id | .unavailable id | .cleanupDebt id _ | .indexMaintenanceDebt id => some id
  | .io | .snapshot | .invalidIndex _ | .limitReached => none

/-- `mutation_committed`: the new snapshot is in place in spite of the error. -/
def ReplaceError.mutationCommitted : ReplaceError → Bool
  | .profile error => error.mutationCommitted
  | .postCommitRead _ _ => true

/-- The profile that was stored, as the answer tells. -/
def insertedId : Except ProfileError ProfileId → Option ProfileId
  | .ok id => some id
  | .error error => if error.mutationCommitted then error.profileId else none

/-- Whether an operation has changed the catalogue, as its answer tells. -/
def committed {α : Type} : Except ProfileError α → Bool
  | .ok _ => true
  | .error error => error.mutationCommitted

/-- The same of a whole answer. -/
def replaceCommitted {α : Type} : Except ReplaceError α → Bool
  | .ok _ => true
  | .error error => error.mutationCommitted

/-- An operation of the store, with its random draws and its time. -/
inductive Operation (S : Type) where
  | insert (draws : List ProfileId) (now : Nat) (snapshot : S) (activate : Bool)
  | replace (id : ProfileId) (snapshot : S)
  | activate (id : ProfileId)
  | delete (id : ProfileId)
  | cleanup (id : ProfileId)
  deriving DecidableEq, Repr

/-- An operation with what fails inside it, and the change that its answer tells of. -/
structure Event (S : Type) where
  operation : Operation S
  faults : Faults
  told : Option (Change S)
  deriving DecidableEq, Repr

/-- An operation on the store; none while every identifier drawn is in use. -/
def perform (faults : Faults) (store : ProfileStore S) :
    Operation S → Option (Option (Change S) × ProfileStore S)
  | .insert draws now snapshot activate =>
    (insertProfile faults draws now snapshot activate store).map fun (answer, store) =>
      ((insertedId answer).map (Change.created · now snapshot activate), store)
  | .replace id snapshot =>
    let (answer, store) := replaceProfileLoaded faults id snapshot store
    some (if replaceCommitted answer then some (.replaced id snapshot) else none, store)
  | .activate id =>
    let (answer, store) := activate faults id store
    some (if committed answer then some (.activated id) else none, store)
  | .delete id =>
    let (answer, store) := delete faults id store
    some (if committed answer then some (.deleted id) else none, store)
  | .cleanup id => some (none, (cleanupUnindexedProfile faults id store).2)

/-- One operation, and what it told. -/
def Step (store : ProfileStore S) (event : Event S) (store' : ProfileStore S) : Prop :=
  perform event.faults store event.operation = some (event.told, store')

/-! ## Directories -/

section Directories

variable {entries entries' : List (Entry S)} {id other : ProfileId}

/-- A new folder leaves the others. -/
theorem snapshotIn_append_ne (hne : other ≠ id) (snapshot : Option S) :
    snapshotIn (entries ++ [⟨id, snapshot⟩]) other = snapshotIn entries other := by
  have hlast : [(⟨id, snapshot⟩ : Entry S)].find? (fun entry => entry.id = other) = none := by
    rw [List.find?_singleton, if_neg]
    simpa using hne.symm
  rw [snapshotIn, List.find?_append, hlast, Option.or_none, snapshotIn]

/-- A new folder has its own snapshot. -/
theorem snapshotIn_append_self (hfresh : id ∉ entries.map Entry.id) (snapshot : Option S) :
    snapshotIn (entries ++ [⟨id, snapshot⟩]) id = snapshot := by
  have hfirst : entries.find? (fun entry => entry.id = id) = none := by
    rw [List.find?_eq_none]
    intro entry hentry heq
    exact hfresh (List.mem_map.2 ⟨entry, hentry, of_decide_eq_true heq⟩)
  rw [snapshotIn, List.find?_append, hfirst, Option.none_or, List.find?_singleton,
    if_pos (decide_eq_true rfl)]
  rfl

/-- Directories that are removed are none of a profile that is kept. -/
theorem snapshotIn_filter {keep : Entry S → Bool}
    (hkeep : ∀ entry ∈ entries, entry.id = other → keep entry = true) :
    snapshotIn (entries.filter keep) other = snapshotIn entries other := by
  rw [snapshotIn, List.find?_filter, snapshotIn]
  congr 1
  induction entries with
  | nil => rfl
  | cons entry entries ih =>
    have hrest := ih fun entry hentry => hkeep entry (List.mem_cons_of_mem _ hentry)
    rw [List.find?_cons, List.find?_cons, hrest]
    by_cases hid : entry.id = other
    · simp [hkeep entry List.mem_cons_self hid, hid]
    · simp [hid]

/-- A folder that goes leaves the others. -/
theorem snapshotIn_filter_ne (hne : other ≠ id) :
    snapshotIn (entries.filter fun entry => entry.id ≠ id) other = snapshotIn entries other := by
  apply snapshotIn_filter
  rintro entry - rfl
  exact decide_eq_true hne

/-- The catalogue depends on the folders of its profiles only. -/
theorem map_listed_congr {profiles : List ProfileIndexEntry}
    (h : ∀ id ∈ profiles.map ProfileIndexEntry.id, snapshotIn entries' id = snapshotIn entries id) :
    profiles.map (listed entries') = profiles.map (listed entries) := by
  apply List.map_congr_left
  intro entry hentry
  rw [listed, listed, h entry.id (List.mem_map_of_mem hentry)]

end Directories

/-! ## What the parts of an operation leave -/

section Parts

variable {faults : Faults} {store middle store' : ProfileStore S} {id : ProfileId}

/-- The index is the one in the file, and passes the check. -/
structure Kept (store : ProfileStore S) : Prop where
  valid : validateIndex store.index = .ok ()
  filed : store.indexFile.getD ProfileIndex.empty = store.index

/-- The index stays, and so do the directories of its profiles. -/
structure Unpublished (store store' : ProfileStore S) : Prop where
  index : store'.index = store.index
  indexFile : store'.indexFile = store.indexFile
  snapshots : ∀ id ∈ store.index.ids,
    snapshotIn store'.entries id = snapshotIn store.entries id

/-- What an operation does to the catalogue is what it tells of. -/
structure Refines (store : ProfileStore S) (change : Option (Change S))
    (store' : ProfileStore S) : Prop where
  kept : Kept store'
  catalogue : store'.catalogue = store.catalogue.applied change

/-- Doing nothing publishes nothing. -/
theorem Unpublished.refl : Unpublished store store := ⟨rfl, rfl, fun _ _ => rfl⟩

/-- Two steps that publish nothing publish nothing. -/
theorem Unpublished.trans (h : Unpublished store middle) (h' : Unpublished middle store') :
    Unpublished store store' := by
  refine ⟨h'.index.trans h.index, h'.indexFile.trans h.indexFile, fun id hid => ?_⟩
  rw [h'.snapshots id (h.index ▸ hid), h.snapshots id hid]

/-- What publishes nothing keeps the store in order. -/
theorem Unpublished.kept (h : Unpublished store store') (kept : Kept store) : Kept store' := by
  constructor
  · rw [h.index]
    exact kept.valid
  · rw [h.index, h.indexFile]
    exact kept.filed

/-- What publishes nothing need not be told. -/
theorem Unpublished.refines (h : Unpublished store store') (kept : Kept store) :
    Refines store none store' := by
  refine ⟨h.kept kept, ?_⟩
  rw [Catalogue.applied, ProfileStore.catalogue, ProfileStore.catalogue, h.index,
    map_listed_congr h.snapshots]

/-- A folder of no indexed profile may go. -/
theorem removeProfileDirectory_unpublished (hid : id ∉ store.index.ids) :
    Unpublished store (removeProfileDirectory faults store id).2 := by
  unfold removeProfileDirectory
  by_cases hremoval : faults.removal = true
  · rw [if_pos hremoval]
    exact .refl
  · rw [if_neg hremoval]
    refine ⟨rfl, rfl, fun other hother => snapshotIn_filter_ne ?_⟩
    rintro rfl
    exact hid hother

/-- A profile that is given up was never told of. -/
theorem discard_unpublished {α : Type} {error : ProfileError} {answer : Except ProfileError α}
    (hid : id ∉ store.index.ids) (h : discard faults store id error = (answer, store')) :
    Unpublished store store' := by
  have hremoved := @removeProfileDirectory_unpublished S faults store id hid
  unfold discard at h
  cases hremove : removeProfileDirectory faults store id with
  | mk gone middle =>
    rw [hremove] at h hremoved
    cases gone <;>
    · rw [← (Prod.mk.inj h).2]
      exact ⟨hremoved.index, hremoved.indexFile, hremoved.snapshots⟩

/-- What is discarded was not committed. -/
theorem discard_answer {α : Type} {error : ProfileError} {answer : Except ProfileError α}
    (herror : error.mutationCommitted = false)
    (h : discard faults store id error = (answer, store')) :
    ∃ error', answer = .error error' ∧ error'.mutationCommitted = false := by
  unfold discard at h
  cases hremove : removeProfileDirectory faults store id with
  | mk gone middle =>
    rw [hremove] at h
    cases gone
    · exact ⟨_, (Prod.mk.inj h).1.symm, rfl⟩
    · exact ⟨error, (Prod.mk.inj h).1.symm, herror⟩

/-- A load that failed has changed nothing. -/
theorem loadProfile_error {error : ProfileError} (h : loadProfile faults store id = .error error) :
    error.mutationCommitted = false := by
  unfold loadProfile at h
  split at h
  · rw [← Except.error.inj h]
    rfl
  · split at h
    · rw [← Except.error.inj h]
      rfl
    · exact nomatch h

/-- A snapshot that was committed under a new identifier loads from there; nothing else changes. -/
theorem commitSnapshot_unpublished {snapshot : S} {answer : Except ProfileError Bool}
    (hid : id ∉ store.index.ids) (hfresh : id ∉ store.entries.map Entry.id)
    (h : commitSnapshot faults store id snapshot = (answer, store')) :
    Unpublished store store' ∧ match answer with
      | .ok _ => snapshotIn store'.entries id = some snapshot
      | .error error => error.mutationCommitted = false := by
  have hadded : ∀ added : Option S,
      Unpublished store { store with entries := store.entries ++ [⟨id, added⟩] } := by
    refine fun added => ⟨rfl, rfl, fun other hother => snapshotIn_append_ne ?_ added⟩
    rintro rfl
    exact hid hother
  unfold commitSnapshot at h
  cases hcommit : faults.commit with
  | failed =>
    rw [hcommit] at h
    obtain ⟨rfl, rfl⟩ := Prod.mk.inj h
    exact ⟨hadded none, rfl⟩
  | done | unsynced =>
    simp only [hcommit] at h
    cases hload : loadProfile faults
        { store with entries := store.entries ++ [⟨id, some snapshot⟩] } id with
    | error error =>
      rw [hload] at h
      obtain ⟨rfl, rfl⟩ := Prod.mk.inj h
      exact ⟨hadded (some snapshot), loadProfile_error hload⟩
    | ok loaded =>
      rw [hload] at h
      obtain ⟨rfl, rfl⟩ := Prod.mk.inj h
      exact ⟨hadded (some snapshot), snapshotIn_append_self hfresh (some snapshot)⟩

/-- An index that is refused has changed nothing. -/
theorem validateIndex_error {index : ProfileIndex} {error : ProfileError}
    (h : validateIndex index = .error error) : error.mutationCommitted = false := by
  unfold validateIndex at h
  split_ifs at h <;>
  · rw [← Except.error.inj h]
    rfl

/-- An index that passes the check is put into the file and taken over, or nothing happens. -/
theorem publishIndex_cases {proposed : ProfileIndex} {answer : Except ProfileError IndexCommit}
    (h : publishIndex faults store proposed = (answer, store')) :
    (∃ error, answer = .error error ∧ error.mutationCommitted = false ∧ store' = store) ∨
      (∃ commit, answer = .ok commit) ∧ Kept store' ∧ store'.index = proposed ∧
        store'.entries = store.entries := by
  unfold publishIndex persistIndex at h
  cases hvalid : validateIndex proposed with
  | error error =>
    simp only [hvalid] at h
    obtain ⟨rfl, rfl⟩ := Prod.mk.inj h
    refine Or.inl ⟨error, rfl, ?_, rfl⟩
    exact validateIndex_error hvalid
  | ok valid =>
    simp only [hvalid] at h
    cases houtcome : faults.index with
    | failed =>
      simp only [houtcome] at h
      obtain ⟨rfl, rfl⟩ := Prod.mk.inj h
      exact Or.inl ⟨.io, rfl, rfl, rfl⟩
    | done | unsynced =>
      simp only [houtcome] at h
      obtain ⟨rfl, rfl⟩ := Prod.mk.inj h
      exact Or.inr ⟨⟨_, rfl⟩, ⟨hvalid, rfl⟩, rfl, rfl⟩

end Parts

/-! ## The operations -/

section Operations

variable {faults : Faults} {store store' : ProfileStore S} {id : ProfileId}

/-- An error that says nothing was changed names no profile. -/
theorem insertedId_error {error : ProfileError} (h : error.mutationCommitted = false) :
    insertedId (.error error) = none := by
  rw [insertedId, h]
  exact if_neg Bool.false_ne_true

/-- The catalogue once an index with a new profile is taken over. -/
theorem refines_created {middle : ProfileStore S} (now : Nat) (snapshot : S) (activate : Bool)
    (hmiddle : Unpublished store middle) (hnew : snapshotIn middle.entries id = some snapshot)
    (kept : Kept store')
    (hindex : store'.index = { middle.index with
      profiles := middle.index.profiles ++ [⟨id, now⟩]
      activeId := if activate then some id else middle.index.activeId })
    (hentries : store'.entries = middle.entries) :
    Refines store (some (.created id now snapshot activate)) store' := by
  refine ⟨kept, ?_⟩
  have hlisted : listed middle.entries ⟨id, now⟩ = ⟨id, now, some snapshot⟩ := by
    rw [listed, hnew]
  simp only [ProfileStore.catalogue, Catalogue.applied, Catalogue.apply, hindex, hentries,
    hmiddle.index, List.map_append, List.map_cons, List.map_nil, hlisted,
    map_listed_congr hmiddle.snapshots]

/-- A new profile is told of when it is in the index. -/
theorem insertProfile_refines (kept : Kept store) {draws : List ProfileId} {now : Nat}
    {snapshot : S} {activate : Bool} {answer : Except ProfileError ProfileId}
    (h : insertProfile faults draws now snapshot activate store = some (answer, store')) :
    Refines store ((insertedId answer).map (Change.created · now snapshot activate)) store' := by
  have hnothing : ∀ {error : ProfileError}, error.mutationCommitted = false →
      Unpublished store store' → answer = .error error →
      Refines store ((insertedId answer).map (Change.created · now snapshot activate)) store' := by
    rintro error herror hunpublished rfl
    rw [insertedId_error herror]
    exact hunpublished.refines kept
  unfold insertProfile at h
  by_cases hlisting : faults.listing = true
  · rw [if_pos hlisting, Option.some.injEq] at h
    obtain ⟨rfl, rfl⟩ := Prod.mk.inj h
    exact hnothing rfl .refl rfl
  rw [if_neg hlisting] at h
  by_cases hfull : maxProfiles ≤ occupiedProfileSlots store
  · rw [if_pos hfull, Option.some.injEq] at h
    obtain ⟨rfl, rfl⟩ := Prod.mk.inj h
    exact hnothing rfl .refl rfl
  rw [if_neg hfull] at h
  by_cases hrandom : (faults.random || faults.metadata) = true
  · rw [if_pos hrandom, Option.some.injEq] at h
    obtain ⟨rfl, rfl⟩ := Prod.mk.inj h
    exact hnothing rfl .refl rfl
  rw [if_neg hrandom] at h
  obtain ⟨id, hdraw, h⟩ := Option.map_eq_some_iff.1 h
  have hfresh := List.find?_some hdraw
  rw [isFresh, Bool.and_eq_true, decide_eq_true_eq, decide_eq_true_eq] at hfresh
  obtain ⟨hid, hentry⟩ := hfresh
  by_cases hchild : faults.createChild = true
  · rw [if_pos hchild] at h
    obtain ⟨rfl, rfl⟩ := Prod.mk.inj h
    exact hnothing rfl .refl rfl
  rw [if_neg hchild] at h
  cases hcommit : commitSnapshot faults store id snapshot with
  | mk committed middle =>
    obtain ⟨hmiddle, hloads⟩ := commitSnapshot_unpublished hid hentry hcommit
    have hmid : id ∉ middle.index.ids := hmiddle.index ▸ hid
    rw [hcommit] at h
    cases committed with
    | error error =>
      obtain ⟨error', hanswer, herror'⟩ := discard_answer hloads h
      exact hnothing herror' (hmiddle.trans (discard_unpublished hmid h)) hanswer
    | ok synced =>
      simp only at h
      generalize hproposed : ({ middle.index with
        profiles := middle.index.profiles ++ [⟨id, now⟩]
        activeId := if activate then some id else middle.index.activeId } : ProfileIndex) =
        proposed at h
      cases hpublish : publishIndex faults middle proposed with
      | mk published last =>
        rw [hpublish] at h
        rcases publishIndex_cases hpublish with
          ⟨error, rfl, herror, rfl⟩ | ⟨⟨commit, rfl⟩, hkept, hindex, hentries⟩
        · obtain ⟨error', hanswer, herror'⟩ := discard_answer herror h
          exact hnothing herror' (hmiddle.trans (discard_unpublished hmid h)) hanswer
        · have hlast := refines_created now snapshot activate hmiddle hloads hkept
            (hindex.trans hproposed.symm) hentries
          have hdebt : Refines store (some (.created id now snapshot activate))
              { last with maintenanceDebt := true } :=
            ⟨⟨hlast.kept.valid, hlast.kept.filed⟩, hlast.catalogue⟩
          cases commit with
          | maintenanceDebt =>
            obtain ⟨rfl, rfl⟩ := Prod.mk.inj h
            exact hlast
          | clean =>
            cases synced with
            | false =>
              obtain ⟨rfl, rfl⟩ := Prod.mk.inj h
              exact hdebt
            | true =>
              obtain ⟨rfl, rfl⟩ := Prod.mk.inj h
              exact hlast

/-- An activation is told of when it is in the index. -/
theorem activate_refines (kept : Kept store) {answer : Except ProfileError S}
    (h : activate faults id store = (answer, store')) :
    Refines store (if committed answer then some (.activated id) else none) store' := by
  have hnothing : ∀ {error : ProfileError}, error.mutationCommitted = false →
      answer = .error error → store' = store →
      Refines store (if committed answer then some (.activated id) else none) store' := by
    rintro error herror rfl rfl
    rw [committed, herror, if_neg Bool.false_ne_true]
    exact Unpublished.refl.refines kept
  unfold activate at h
  by_cases hid : id ∉ store.index.ids
  · rw [if_pos hid] at h
    obtain ⟨rfl, rfl⟩ := Prod.mk.inj h
    exact hnothing rfl rfl rfl
  rw [if_neg hid] at h
  cases hload : loadProfile faults store id with
  | error error =>
    rw [hload] at h
    obtain ⟨rfl, rfl⟩ := Prod.mk.inj h
    exact hnothing (loadProfile_error hload) rfl rfl
  | ok snapshot =>
    simp only [hload] at h
    by_cases hactive : store.index.activeId = some id
    · rw [if_pos hactive] at h
      obtain ⟨rfl, rfl⟩ := Prod.mk.inj h
      refine ⟨kept, ?_⟩
      simp only [committed, if_true, Catalogue.applied, Catalogue.apply, ProfileStore.catalogue,
        hactive]
    rw [if_neg hactive] at h
    cases hpublish : publishIndex faults store { store.index with activeId := some id } with
    | mk published last =>
      rw [hpublish] at h
      rcases publishIndex_cases hpublish with
        ⟨error, rfl, herror, rfl⟩ | ⟨⟨commit, rfl⟩, hkept, hindex, hentries⟩
      · obtain ⟨rfl, rfl⟩ := Prod.mk.inj h
        exact hnothing herror rfl rfl
      · have hlast : Refines store (some (.activated id)) last := by
          refine ⟨hkept, ?_⟩
          rw [Catalogue.applied, Catalogue.apply, ProfileStore.catalogue, ProfileStore.catalogue,
            hindex, hentries]
        cases commit <;>
        · obtain ⟨rfl, rfl⟩ := Prod.mk.inj h
          exact hlast

/-- Where a directory stands, its snapshot is the one put there. -/
theorem snapshotIn_replace {entries : List (Entry S)} (hid : id ∈ entries.map Entry.id)
    (snapshot : S) (other : ProfileId) :
    snapshotIn (entries.map fun entry =>
        if entry.id = id then { entry with snapshot := some snapshot } else entry) other =
      if other = id then some snapshot else snapshotIn entries other := by
  have hsame : ((fun entry : Entry S => decide (entry.id = other)) ∘ fun entry =>
      if entry.id = id then { entry with snapshot := some snapshot } else entry) =
      fun entry => decide (entry.id = other) := by
    funext entry
    simp only [Function.comp_apply]
    split <;> rfl
  rw [snapshotIn, List.find?_map, hsame, snapshotIn]
  cases hfind : entries.find? fun entry => entry.id = other with
  | none =>
    have hother : ¬other = id := by
      rintro rfl
      obtain ⟨entry, hentry, heq⟩ := List.mem_map.1 hid
      exact List.find?_eq_none.1 hfind entry hentry (decide_eq_true heq)
    rw [if_neg hother]
    rfl
  | some entry =>
    have hfound := List.find?_some hfind
    have hentry : entry.id = other := of_decide_eq_true hfound
    simp only [Option.map_some, Option.bind_some, hentry]
    by_cases hother : other = id
    · rw [if_pos hother, if_pos hother]
    · rw [if_neg hother, if_neg hother]

/-- A replacement is told of when the snapshot is in its folder. -/
theorem replaceProfileLoaded_refines (kept : Kept store) {snapshot : S}
    {answer : Except ReplaceError S}
    (h : replaceProfileLoaded faults id snapshot store = (answer, store')) :
    Refines store (if replaceCommitted answer then some (.replaced id snapshot) else none)
      store' := by
  have hnothing : ∀ {error : ProfileError}, error.mutationCommitted = false →
      answer = .error (.profile error) → store' = store →
      Refines store (if replaceCommitted answer then some (.replaced id snapshot) else none)
        store' := by
    rintro error herror rfl rfl
    rw [replaceCommitted, ReplaceError.mutationCommitted, herror, if_neg Bool.false_ne_true]
    exact Unpublished.refl.refines kept
  unfold replaceProfileLoaded at h
  by_cases hid : id ∉ store.index.ids
  · rw [if_pos hid] at h
    obtain ⟨rfl, rfl⟩ := Prod.mk.inj h
    exact hnothing rfl rfl rfl
  rw [if_neg hid] at h
  by_cases hentry : id ∉ store.entries.map Entry.id
  · rw [if_pos hentry] at h
    obtain ⟨rfl, rfl⟩ := Prod.mk.inj h
    exact hnothing rfl rfl rfl
  rw [if_neg hentry] at h
  by_cases hmetadata : faults.metadata = true
  · rw [if_pos hmetadata] at h
    obtain ⟨rfl, rfl⟩ := Prod.mk.inj h
    exact hnothing rfl rfl rfl
  rw [if_neg hmetadata] at h
  have hreplaced : ∀ debt : Bool, Refines store (some (.replaced id snapshot)) { store with
      entries := store.entries.map fun entry =>
        if entry.id = id then { entry with snapshot := some snapshot } else entry
      maintenanceDebt := debt } := by
    refine fun debt => ⟨⟨kept.valid, kept.filed⟩, ?_⟩
    simp only [ProfileStore.catalogue, Catalogue.applied, Catalogue.apply, List.map_map]
    congr 1
    apply List.map_congr_left
    intro entry _
    rw [Function.comp_apply]
    by_cases hlisted : (listed store.entries entry).id = id
    · have hsame : entry.id = id := hlisted
      rw [if_pos hlisted, listed, snapshotIn_replace (not_not.1 hentry), if_pos hsame]
      rfl
    · have hother : ¬entry.id = id := hlisted
      rw [if_neg hlisted, listed, snapshotIn_replace (not_not.1 hentry), if_neg hother]
      rfl
  cases hcommit : faults.commit with
  | failed =>
    rw [hcommit] at h
    obtain ⟨rfl, rfl⟩ := Prod.mk.inj h
    exact hnothing rfl rfl rfl
  | done =>
    simp only [hcommit] at h
    cases hload : loadProfile faults { store with
        entries := store.entries.map fun entry =>
          if entry.id = id then { entry with snapshot := some snapshot } else entry } id <;>
    · rw [hload] at h
      obtain ⟨rfl, rfl⟩ := Prod.mk.inj h
      exact hreplaced store.maintenanceDebt
  | unsynced =>
    simp only [hcommit] at h
    cases hload : loadProfile faults { store with
        entries := store.entries.map fun entry =>
          if entry.id = id then { entry with snapshot := some snapshot } else entry } id with
    | error error =>
      rw [hload] at h
      obtain ⟨rfl, rfl⟩ := Prod.mk.inj h
      exact hreplaced store.maintenanceDebt
    | ok loaded =>
      rw [hload] at h
      obtain ⟨rfl, rfl⟩ := Prod.mk.inj h
      exact hreplaced true

/-- A profile of the index with those before and behind it. -/
theorem exists_split (hid : id ∈ store.index.ids) (hnodup : store.index.ids.Nodup) :
    ∃ before entry after, store.index.profiles = before ++ entry :: after ∧ entry.id = id ∧
      id ∉ before.map ProfileIndexEntry.id ∧ id ∉ after.map ProfileIndexEntry.id := by
  obtain ⟨entry, hentry, heq⟩ := List.mem_map.1 hid
  obtain ⟨before, after, hsplit⟩ := List.append_of_mem hentry
  rw [ProfileIndex.ids, hsplit, List.map_append, List.map_cons, heq] at hnodup
  obtain ⟨-, hafter, hapart⟩ := List.nodup_append.1 hnodup
  refine ⟨before, entry, after, hsplit, heq, fun hbefore => ?_, (List.nodup_cons.1 hafter).1⟩
  exact hapart id hbefore id List.mem_cons_self rfl

/-- The index without a profile lists the catalogue without it. -/
theorem catalogue_withoutProfile (valid : Valid store.index) (hid : id ∈ store.index.ids)
    {entries : List (Entry S)}
    (hentries : ∀ other ∈ store.index.ids, other ≠ id →
      snapshotIn entries other = snapshotIn store.entries other)
    (hindex : store'.index = withoutProfile store.index id) (hstore : store'.entries = entries) :
    (∀ other ∈ store'.index.ids, other ∈ store.index.ids ∧ other ≠ id) ∧
      store'.catalogue = store.catalogue.without id := by
  obtain ⟨before, entry, after, hsplit, heq, hbefore, hafter⟩ := exists_split hid valid.nodup
  have hposition : store.index.ids.idxOf id = before.length := by
    rw [ProfileIndex.ids, hsplit, List.map_append, List.idxOf_append_of_notMem hbefore,
      List.length_map, List.map_cons, heq, List.idxOf_cons_self, Nat.add_zero]
  have hprofiles : store.index.profiles.eraseIdx before.length = before ++ after := by
    rw [hsplit, List.eraseIdx_append_of_length_le (Nat.le_refl _), Nat.sub_self,
      List.eraseIdx_cons_zero]
  have hnext : (before ++ after)[before.length]? = after.head? := by
    rw [List.getElem?_append_right (Nat.le_refl _), Nat.sub_self, List.head?_eq_getElem?]
  have hpass : ∀ profile ∈ before.map (listed store.entries),
      decide (profile.id ≠ id) = true := by
    intro profile hprofile
    obtain ⟨entry, hentry, rfl⟩ := List.mem_map.1 hprofile
    exact decide_eq_true fun hsame => hbefore (List.mem_map.2 ⟨entry, hentry, hsame⟩)
  have hstop : ¬decide ((listed store.entries entry).id ≠ id) = true := by
    rw [decide_eq_true_eq, not_not]
    exact heq
  have hlast : after.head?.or (before ++ after).getLast? = after.head?.or before.getLast? := by
    cases after with
    | nil => rw [List.append_nil]
    | cons next after => rfl
  have hwithout : store'.index.profiles = before ++ after ∧ store'.index.activeId =
      if store.index.activeId = some id then
        (after.head?.or before.getLast?).map ProfileIndexEntry.id
      else store.index.activeId := by
    rw [hindex, withoutProfile]
    simp only [hposition, hprofiles, hnext, hlast, and_self]
  have hothers : ∀ other ∈ (before ++ after).map ProfileIndexEntry.id,
      other ∈ store.index.ids ∧ other ≠ id := by
    intro other hother
    rw [ProfileIndex.ids, hsplit, List.map_append, List.map_cons]
    rw [List.map_append] at hother
    rcases List.mem_append.1 hother with hother | hother
    · exact ⟨List.mem_append_left _ hother, fun hsame => hbefore (hsame ▸ hother)⟩
    · exact ⟨List.mem_append_right _ (List.mem_cons_of_mem _ hother),
        fun hsame => hafter (hsame ▸ hother)⟩
  constructor
  · rw [ProfileIndex.ids, hwithout.1]
    exact hothers
  · have hlisted : (before ++ after).map (listed entries) =
        (before ++ after).map (listed store.entries) :=
      map_listed_congr fun other hother =>
        hentries other (hothers other hother).1 (hothers other hother).2
    have htake : (store.index.profiles.map (listed store.entries)).takeWhile
        (fun profile => profile.id ≠ id) = before.map (listed store.entries) := by
      rw [hsplit, List.map_append, List.map_cons, List.takeWhile_append_of_pos hpass,
        List.takeWhile_cons_of_neg (p := fun profile : Profile S => profile.id ≠ id) hstop,
        List.append_nil]
    have hdrop : ((store.index.profiles.map (listed store.entries)).dropWhile
        (fun profile => profile.id ≠ id)).tail = after.map (listed store.entries) := by
      rw [hsplit, List.map_append, List.map_cons, List.dropWhile_append_of_pos hpass,
        List.dropWhile_cons_of_neg (p := fun profile : Profile S => profile.id ≠ id) hstop,
        List.tail_cons]
    have hnames : ((after.map (listed store.entries)).head?.or
        (before.map (listed store.entries)).getLast?).map Profile.id =
        (after.head?.or before.getLast?).map ProfileIndexEntry.id := by
      rw [List.head?_map, List.getLast?_map, ← Option.map_or, Option.map_map]
      rfl
    rw [ProfileStore.catalogue, hwithout.1, hwithout.2, hstore, hlisted, Catalogue.without,
      ProfileStore.catalogue]
    simp only [htake, hdrop, hnames, List.map_append]

/-- A deletion is told of when it is in the index. -/
theorem delete_refines (kept : Kept store) {answer : Except ProfileError (Option ProfileId)}
    (h : delete faults id store = (answer, store')) :
    Refines store (if committed answer then some (.deleted id) else none) store' := by
  have hnothing : ∀ {error : ProfileError}, error.mutationCommitted = false →
      answer = .error error → store' = store →
      Refines store (if committed answer then some (.deleted id) else none) store' := by
    rintro error herror rfl rfl
    rw [committed, herror, if_neg Bool.false_ne_true]
    exact Unpublished.refl.refines kept
  unfold delete at h
  by_cases hid : id ∉ store.index.ids
  · rw [if_pos hid] at h
    obtain ⟨rfl, rfl⟩ := Prod.mk.inj h
    exact hnothing rfl rfl rfl
  rw [if_neg hid] at h
  simp only at h
  split at h
  · next error hloaded =>
    obtain ⟨rfl, rfl⟩ := Prod.mk.inj h
    refine hnothing ?_ rfl rfl
    split at hloaded
    · split_ifs at hloaded
      cases hload : loadProfile faults store _ with
      | error error' =>
        rw [hload] at hloaded
        rw [← Except.error.inj hloaded]
        exact loadProfile_error hload
      | ok snapshot =>
        rw [hload] at hloaded
        exact nomatch hloaded
    · exact nomatch hloaded
  · cases hpublish : publishIndex faults store (withoutProfile store.index id) with
    | mk published last =>
      rw [hpublish] at h
      rcases publishIndex_cases hpublish with
        ⟨error, rfl, herror, rfl⟩ | ⟨⟨commit, rfl⟩, hkept, hindex, hentries⟩
      · obtain ⟨rfl, rfl⟩ := Prod.mk.inj h
        exact hnothing herror rfl rfl
      · obtain ⟨hids, hcatalogue⟩ := catalogue_withoutProfile (validateIndex_iff.1 kept.valid)
          (not_not.1 hid) (fun _ _ _ => rfl) hindex hentries
        have hlast : Refines store (some (.deleted id)) last := ⟨hkept, hcatalogue⟩
        cases commit with
        | maintenanceDebt =>
          obtain ⟨rfl, rfl⟩ := Prod.mk.inj h
          exact hlast
        | clean =>
          -- The directory is not listed any more, so it does not matter whether it is removed.
          have hgone : id ∉ last.index.ids := fun hmem => (hids id hmem).2 rfl
          have hremoved := @removeProfileDirectory_unpublished S faults last id hgone
          simp only at h
          cases hremove : removeProfileDirectory faults last id with
          | mk gone left =>
            rw [hremove] at h hremoved
            have hleft := hremoved.refines hkept
            have hdone : Refines store (some (.deleted id)) left :=
              ⟨hleft.kept, hleft.catalogue.trans hcatalogue⟩
            cases gone with
            | true =>
              obtain ⟨rfl, rfl⟩ := Prod.mk.inj h
              exact hdone
            | false =>
              obtain ⟨rfl, rfl⟩ := Prod.mk.inj h
              exact ⟨⟨hdone.kept.valid, hdone.kept.filed⟩, hdone.catalogue⟩

/-- A clean-up need not be told. -/
theorem cleanupUnindexedProfile_refines (kept : Kept store) :
    Refines store none (cleanupUnindexedProfile faults id store).2 := by
  unfold cleanupUnindexedProfile
  by_cases hid : id ∈ store.index.ids
  · rw [if_pos hid]
    exact Unpublished.refl.refines kept
  rw [if_neg hid]
  have hremoved := @removeProfileDirectory_unpublished S faults store id hid
  cases hremove : removeProfileDirectory faults store id with
  | mk gone left =>
    rw [hremove] at hremoved
    cases gone <;> exact hremoved.refines kept

/-- One operation: what its answer tells of is what the catalogue has gone through. -/
theorem Step.refines {event : Event S} (h : Step store event store') (kept : Kept store) :
    Refines store event.told store' := by
  obtain ⟨operation, faults, told⟩ := event
  simp only [Step] at h
  cases operation with
  | insert draws now snapshot activate =>
    obtain ⟨⟨answer, after⟩, hinsert, hafter⟩ := Option.map_eq_some_iff.1 h
    obtain ⟨rfl, rfl⟩ := Prod.mk.inj hafter
    exact insertProfile_refines kept hinsert
  | replace id snapshot =>
    obtain ⟨rfl, rfl⟩ := Prod.mk.inj (Option.some.inj h)
    exact replaceProfileLoaded_refines kept rfl
  | activate id =>
    obtain ⟨rfl, rfl⟩ := Prod.mk.inj (Option.some.inj h)
    exact activate_refines kept rfl
  | delete id =>
    obtain ⟨rfl, rfl⟩ := Prod.mk.inj (Option.some.inj h)
    exact delete_refines kept rfl
  | cleanup id =>
    obtain ⟨rfl, rfl⟩ := Prod.mk.inj (Option.some.inj h)
    exact cleanupUnindexedProfile_refines kept

end Operations

/-! ## Opening -/

section Opening

variable {faults : Faults} {store store' : ProfileStore S}

/-- The profile of an older version is stored in order. -/
theorem migrateLegacy_kept (hempty : store.index = ProfileIndex.empty) (kept : Kept store)
    {draws : List ProfileId} {now : Nat} {legacy : Option S} {answer : Except ProfileError Unit}
    (h : migrateLegacy faults draws now legacy store = some (answer, store')) : Kept store' := by
  have hnone : ∀ id, id ∉ store.index.ids := by
    intro id
    rw [hempty]
    exact List.not_mem_nil
  unfold migrateLegacy at h
  cases legacy with
  | none =>
    obtain ⟨rfl, rfl⟩ := Prod.mk.inj (Option.some.inj h)
    exact kept
  | some snapshot =>
    simp only at h
    by_cases hrandom : (faults.random || faults.metadata) = true
    · rw [if_pos hrandom, Option.some.injEq] at h
      obtain ⟨rfl, rfl⟩ := Prod.mk.inj h
      exact kept
    rw [if_neg hrandom] at h
    obtain ⟨id, hdraw, h⟩ := Option.map_eq_some_iff.1 h
    have hentry : id ∉ store.entries.map Entry.id := by
      have hfound := List.find?_some hdraw
      exact of_decide_eq_true hfound
    by_cases hchild : faults.createChild = true
    · rw [if_pos hchild] at h
      obtain ⟨rfl, rfl⟩ := Prod.mk.inj h
      exact kept
    rw [if_neg hchild] at h
    cases hcommit : commitSnapshot faults store id snapshot with
    | mk committed middle =>
      have hmiddle := (commitSnapshot_unpublished (hnone id) hentry hcommit).1
      have hmid : id ∉ middle.index.ids := hmiddle.index ▸ hnone id
      have hgiven : ∀ {error : ProfileError} {last : ProfileStore S}, Unpublished store last →
          id ∉ last.index.ids → discard faults last id error = (answer, store') →
          Kept store' := fun hlast hid hdiscard =>
        (discard_unpublished hid hdiscard).kept (hlast.kept kept)
      rw [hcommit] at h
      cases committed with
      | error error => exact hgiven hmiddle hmid h
      | ok synced =>
        cases synced with
        | false => exact hgiven hmiddle hmid h
        | true =>
          simp only at h
          cases hpublish : publishIndex faults middle
              ⟨indexSchemaVersion, [⟨id, now⟩], some id⟩ with
          | mk published last =>
            rw [hpublish] at h
            rcases publishIndex_cases hpublish with
              ⟨error, rfl, -, rfl⟩ | ⟨⟨commit, rfl⟩, hkept, -, -⟩
            · exact hgiven hmiddle hmid h
            · obtain ⟨rfl, rfl⟩ := Prod.mk.inj h
              exact hkept

/-- The clean-up at the start publishes nothing. -/
theorem cleanupUnindexedProfileDirectories_unpublished
    (h : cleanupUnindexedProfileDirectories faults store = .ok store') :
    Unpublished store store' := by
  unfold cleanupUnindexedProfileDirectories at h
  cases hstray : store.entries.find? fun entry => entry.id ∉ store.index.ids with
  | none =>
    rw [hstray] at h
    rw [← Except.ok.inj h]
    exact .refl
  | some entry =>
    simp only [hstray] at h
    by_cases hremoval : faults.removal = true
    · rw [if_pos hremoval] at h
      exact nomatch h
    · rw [if_neg hremoval] at h
      rw [← Except.ok.inj h]
      refine ⟨rfl, rfl, fun other hother => snapshotIn_filter ?_⟩
      rintro entry - rfl
      exact decide_eq_true hother

/-- A store that is opened has the index of the file. -/
theorem openStore_kept {file : Option IndexFile} {entries : List (Entry S)} {legacy : Option S}
    {draws : List ProfileId} {now : Nat}
    (h : openStore faults file entries legacy draws now = some (.ok store)) : Kept store := by
  unfold openStore at h
  by_cases hmetadata : faults.metadata = true
  · rw [if_pos hmetadata] at h
    cases h
  rw [if_neg hmetadata] at h
  cases hread : readIndexFile file with
  | error error =>
    rw [hread] at h
    cases h
  | ok index =>
    have hvalid := readIndexFile_valid hread
    have hfile : (file.bind IndexFile.contents).getD ProfileIndex.empty = index := by
      cases file with
      | none => exact Except.ok.inj hread
      | some file =>
        cases file with
        | index given =>
          cases hcheck : validateIndex given with
          | error error =>
            simp only [readIndexFile, hcheck] at hread
            cases hread
          | ok valid =>
            simp only [readIndexFile, hcheck] at hread
            exact Except.ok.inj hread
        | _ => cases hread
    simp only [hread] at h
    obtain ⟨⟨migrated, middle⟩, hmigrated, h⟩ := Option.map_eq_some_iff.1 h
    have hmiddle : Kept middle := by
      by_cases hnew : file.isNone = true
      · rw [if_pos hnew] at hmigrated
        obtain rfl := Option.isNone_iff_eq_none.1 hnew
        exact migrateLegacy_kept hfile.symm ⟨hvalid, hfile⟩ hmigrated
      · rw [if_neg hnew] at hmigrated
        obtain ⟨rfl, rfl⟩ := Prod.mk.inj (Option.some.inj hmigrated)
        exact ⟨hvalid, hfile⟩
    cases migrated with
    | error error => cases h
    | ok _ =>
      simp only at h
      by_cases hlisting : faults.listing = true
      · rw [if_pos hlisting] at h
        cases h
      · rw [if_neg hlisting] at h
        exact (cleanupUnindexedProfileDirectories_unpublished h).kept hmiddle

/-- A store that is left and opened again lists the catalogue that it had. -/
theorem openStore_catalogue (kept : Kept store) (draws : List ProfileId) (now : Nat) :
    ∃ reopened, openStore Faults.none (store.indexFile.map IndexFile.index) store.entries none
        draws now = some (.ok reopened) ∧ reopened.catalogue = store.catalogue := by
  have hcleaned : ∃ reopened, cleanupUnindexedProfileDirectories Faults.none
      ⟨store.index, store.indexFile, store.entries, false⟩ = .ok reopened := by
    unfold cleanupUnindexedProfileDirectories
    split
    · exact ⟨_, rfl⟩
    · exact ⟨_, if_neg Bool.false_ne_true⟩
  obtain ⟨reopened, hreopened⟩ := hcleaned
  refine ⟨reopened, ?_, ?_⟩
  · have hworks : ¬Faults.none.metadata = true := Bool.false_ne_true
    have hlists : ¬Faults.none.listing = true := Bool.false_ne_true
    unfold openStore
    rw [if_neg hworks]
    cases hfile : store.indexFile with
    | none =>
      have hindex : store.index = ProfileIndex.empty := by
        rw [← kept.filed, hfile]
        rfl
      rw [hfile, hindex] at hreopened
      simp only [Option.map_none, readIndexFile, Option.bind_none, Option.isNone_none, if_true,
        migrateLegacy, Option.map_some, if_neg hlists, hreopened]
    | some index =>
      have hindex : store.index = index := by
        rw [← kept.filed, hfile]
        rfl
      have hvalid : validateIndex index = .ok () := hindex ▸ kept.valid
      rw [hfile, hindex] at hreopened
      simp only [Option.map_some, readIndexFile, hvalid, Except.map, Option.bind_some,
        IndexFile.contents, Option.isNone_some, Bool.false_eq_true, if_false, if_neg hlists,
        hreopened]
  · have hsame := cleanupUnindexedProfileDirectories_unpublished hreopened
    have hbefore : Kept (⟨store.index, store.indexFile, store.entries, false⟩ : ProfileStore S) :=
      ⟨kept.valid, kept.filed⟩
    exact (hsame.refines hbefore).catalogue

end Opening

/-- However the operations go, the index in memory is the one in the file and passes the check, the
catalogue is the first one after the changes that the answers have told of, and opening the store
again gives it back. -/
theorem profile_changes_told {faults : Faults} {file : Option IndexFile}
    {entries : List (Entry S)} {legacy : Option S} {draws : List ProfileId} {now : Nat}
    {store store' : ProfileStore S} {edges : List (Edge (ProfileStore S) (Event S))}
    (opened : openStore faults file entries legacy draws now = some (.ok store))
    (run : Run Step store edges store') :
    validateIndex store'.index = .ok () ∧
      store'.indexFile.getD ProfileIndex.empty = store'.index ∧
      store'.catalogue =
        (edges.filterMap fun edge => edge.label.told).foldl Catalogue.apply store.catalogue ∧
      ∀ draws now, ∃ reopened,
        openStore Faults.none (store'.indexFile.map IndexFile.index) store'.entries none draws
          now = some (.ok reopened) ∧ reopened.catalogue = store'.catalogue := by
  have hrun : Kept store' ∧ store'.catalogue =
      (edges.filterMap fun edge => edge.label.told).foldl Catalogue.apply store.catalogue := by
    induction run with
    | nil => exact ⟨openStore_kept opened, rfl⟩
    | @snoc edges middle last event _ hstep ih =>
      obtain ⟨hkept, hcatalogue⟩ := ih
      obtain ⟨hlast, hchange⟩ := hstep.refines hkept
      refine ⟨hlast, ?_⟩
      rw [hchange, hcatalogue, List.filterMap_append, List.foldl_append]
      obtain ⟨operation, faults, told⟩ := event
      cases told <;> rfl
  exact ⟨hrun.1.valid, hrun.1.filed, hrun.2, openStore_catalogue hrun.1⟩

section Examples

/-- The index with the second profile, which is active. -/
def secondIndex : ProfileIndex := ⟨indexSchemaVersion, [⟨secondId, 1700000001⟩], some secondId⟩

/-- The index with both profiles, the first active. -/
def bothIndex : ProfileIndex :=
  ⟨indexSchemaVersion, [⟨firstId, 1700000000⟩, ⟨secondId, 1700000001⟩], some firstId⟩

/-- The store with both profiles, whose index could not be synchronised. -/
def bothStore : ProfileStore String :=
  ⟨bothIndex, some bothIndex, [⟨firstId, some "first"⟩, ⟨secondId, some "second"⟩], true⟩

/-- The store that is left with the second profile, and the directory of the first one. -/
def lastStore : ProfileStore String :=
  ⟨secondIndex, some secondIndex, [⟨firstId, some "first"⟩, ⟨secondId, some "newer"⟩], true⟩

/-- A second profile is added, but the index cannot be synchronised; the snapshot of the first one
is not replaced, that of the second one is; the first one is deleted, but its directory stays. -/
theorem sample_run : ∃ edges, Run Step firstStore edges lastStore ∧
    (edges.filterMap fun edge => edge.label.told) =
      [.created secondId 1700000001 "second" false, .replaced secondId "newer",
        .deleted firstId] := by
  have hadded : Step firstStore ⟨.insert [firstId, secondId] 1700000001 "second" false,
      { Faults.none with index := .unsynced }, some (.created secondId 1700000001 "second" false)⟩
      bothStore := by
    unfold Step
    decide
  have hkept : Step bothStore ⟨.replace firstId "other", { Faults.none with commit := .failed },
      none⟩ bothStore := by
    unfold Step
    decide
  have hreplaced : Step bothStore ⟨.replace secondId "newer", Faults.none,
      some (.replaced secondId "newer")⟩
      { bothStore with entries := [⟨firstId, some "first"⟩, ⟨secondId, some "newer"⟩] } := by
    unfold Step
    decide
  have hdeleted : Step
      { bothStore with entries := [⟨firstId, some "first"⟩, ⟨secondId, some "newer"⟩] }
      ⟨.delete firstId, { Faults.none with removal := true }, some (.deleted firstId)⟩
      lastStore := by
    unfold Step
    decide
  exact ⟨_, (((Run.nil.snoc hadded).snoc hkept).snoc hreplaced).snoc hdeleted, rfl⟩

/-- The second profile is the one that is left, and it is active. -/
theorem profile_changes_told_sample : lastStore.catalogue =
      ⟨[⟨secondId, 1700000001, some "newer"⟩], some secondId⟩ ∧
    ∀ draws now, ∃ reopened, openStore Faults.none (lastStore.indexFile.map IndexFile.index)
      lastStore.entries none draws now = some (.ok reopened) ∧
        reopened.catalogue = lastStore.catalogue := by
  obtain ⟨edges, run, htold⟩ := sample_run
  have hopened : openStore Faults.none (some (.index firstIndex)) firstStore.entries none [] 0 =
      some (.ok firstStore) := by decide
  obtain ⟨-, -, hcatalogue, hreopened⟩ := profile_changes_told hopened run
  rw [htold] at hcatalogue
  exact ⟨hcatalogue.trans (by decide), hreopened⟩

end Examples

end MultiCore.Profiles
