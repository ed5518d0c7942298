import Mathlib.Data.List.Dedup
import Mathlib.Data.List.Nodup
import Mathlib.Tactic.Common

/-!
# The profile store

A directory with an index file and one directory for each profile. The index
lists the profiles in order and names the active one; it is checked whenever it
is read or written. Every operation first prepares a new index and takes it over
only once it is in the file. Any call to the file system may fail, and what was
written may not be synchronised. Generations, selections, logos and icons are
not part of it.
-/

namespace MultiCore.Profiles

/-- `MAX_PROFILES`. -/
def maxProfiles : Nat := 100

/-- `INDEX_SCHEMA_VERSION`. -/
def indexSchemaVersion : Nat := 1

/-- A random identifier of version 4, in lower case. -/
def isValidProfileId (value : String) : Bool :=
  let chars := value.toList
  chars.length = 36 && chars.zipIdx.all (fun (c, i) =>
      if i = 8 || i = 13 || i = 18 || i = 23 then c = '-'
      else c.isDigit || ('a' ≤ c && c ≤ 'f')) &&
    chars[14]? = some '4' && (chars[19]?.any fun c => c = '8' || c = '9' || c = 'a' || c = 'b')

/-- `ProfileId`, which cannot be built from a text that is none. -/
structure ProfileId where
  value : String
  valid : isValidProfileId value = true
  deriving DecidableEq, Repr

/-- `ProfileError`. -/
inductive ProfileError where
  | io
  | snapshot
  | invalidIndex (reason : String)
  | limitReached
  | notFound (id : ProfileId)
  | unavailable (id : ProfileId)
  | cleanupDebt (id : ProfileId) (mutationCommitted : Bool)
  | indexMaintenanceDebt (id : ProfileId)
  deriving DecidableEq, Repr

/-- The errors of a replacement: a snapshot that became unreadable after it was published has one
of its own. -/
inductive ReplaceError where
  | profile (error : ProfileError)
  | postCommitRead (id : ProfileId) (source : ProfileError)
  deriving DecidableEq, Repr

/-- `ProfileIndexEntry`. -/
structure ProfileIndexEntry where
  id : ProfileId
  createdAtUnix : Nat
  deriving DecidableEq, Repr

/-- `ProfileIndex`: the profiles in their order and the active one. -/
structure ProfileIndex where
  schemaVersion : Nat
  profiles : List ProfileIndexEntry
  activeId : Option ProfileId
  deriving DecidableEq, Repr

/-- The profiles of an index. -/
def ProfileIndex.ids (index : ProfileIndex) : List ProfileId :=
  index.profiles.map ProfileIndexEntry.id

/-- The index of a store without profiles. -/
def ProfileIndex.empty : ProfileIndex := ⟨indexSchemaVersion, [], none⟩

/-- `validate_index`. -/
def validateIndex (index : ProfileIndex) : Except ProfileError Unit :=
  if index.schemaVersion ≠ indexSchemaVersion then
    .error (.invalidIndex "unsupported schema version")
  else if maxProfiles < index.profiles.length then .error (.invalidIndex "too many profiles")
  else if ¬index.ids.Nodup then .error (.invalidIndex "duplicate profile ID")
  else if index.profiles.isEmpty ≠ index.activeId.isNone then
    .error (.invalidIndex "empty and active profile state disagree")
  else if index.activeId.any fun active => active ∉ index.ids then
    .error (.invalidIndex "active profile is not indexed")
  else .ok ()

/-- A directory whose name is an identifier, with the snapshot that loads from it. -/
structure Entry (S : Type) where
  id : ProfileId
  snapshot : Option S
  deriving DecidableEq, Repr

/-- The store: its index in memory, the file of the index, and the folders. -/
structure ProfileStore (S : Type) where
  index : ProfileIndex
  /-- The index that the file holds. -/
  indexFile : Option ProfileIndex
  entries : List (Entry S)
  maintenanceDebt : Bool
  deriving DecidableEq, Repr

/-- What a write came to. -/
inductive Outcome where
  | done
  /-- Written, but the directory could not be synchronised. -/
  | unsynced
  | failed
  deriving DecidableEq, Repr

/-- Which calls of one operation to the file system fail. -/
structure Faults where
  listing : Bool
  random : Bool
  metadata : Bool
  createChild : Bool
  commit : Outcome
  load : Bool
  index : Outcome
  removal : Bool
  deriving DecidableEq, Repr

/-- No call fails. -/
def Faults.none : Faults := ⟨false, false, false, false, .done, false, .done, false⟩

/-- What became of a new index that is in place. -/
inductive IndexCommit where
  | clean
  | maintenanceDebt
  deriving DecidableEq, Repr

section Operations

variable {S : Type} (faults : Faults)

/-- `occupied_profile_slots`: indexed profiles and folders, each once. -/
def occupiedProfileSlots (store : ProfileStore S) : Nat :=
  (store.index.ids ++ store.entries.map Entry.id).dedup.length

/-- Nothing of the store has this identifier. -/
def isFresh (store : ProfileStore S) (id : ProfileId) : Bool :=
  id ∉ store.index.ids && id ∉ store.entries.map Entry.id

/-- `load_profile`: the snapshot in the profile's folder. -/
def loadProfile (store : ProfileStore S) (id : ProfileId) : Except ProfileError S :=
  if faults.load then .error .io
  else match (store.entries.find? fun entry => entry.id = id).bind Entry.snapshot with
    | none => .error (.unavailable id)
    | some snapshot => .ok snapshot

/-- Removes the directory of a profile; whether it is gone. -/
def removeProfileDirectory (store : ProfileStore S) (id : ProfileId) : Bool × ProfileStore S :=
  if faults.removal then (false, store)
  else (true, { store with entries := store.entries.filter fun entry => entry.id ≠ id })

/-- `persist_index`: an index is validated and written to its file. -/
def persistIndex (store : ProfileStore S) (index : ProfileIndex) :
    Except ProfileError IndexCommit × ProfileStore S :=
  match validateIndex index with
  | .error error => (.error error, store)
  | .ok () =>
    match faults.index with
    | .failed => (.error .io, store)
    | .unsynced => (.ok .maintenanceDebt, { store with indexFile := some index })
    | .done => (.ok .clean, { store with indexFile := some index })

/-- Writes an index and takes it over once it is in the file. -/
def publishIndex (store : ProfileStore S) (proposed : ProfileIndex) :
    Except ProfileError IndexCommit × ProfileStore S :=
  match persistIndex faults store proposed with
  | (.error error, store) => (.error error, store)
  | (.ok .clean, store) => (.ok .clean, { store with index := proposed })
  | (.ok .maintenanceDebt, store) =>
    (.ok .maintenanceDebt, { store with index := proposed, maintenanceDebt := true })

/-- Gives up a profile that is not in the index. -/
def discard {α : Type} (store : ProfileStore S) (id : ProfileId) (error : ProfileError) :
    Except ProfileError α × ProfileStore S :=
  match removeProfileDirectory faults store id with
  | (true, store) => (.error error, store)
  | (false, store) => (.error (.cleanupDebt id false), { store with maintenanceDebt := true })

/-- A new directory with a snapshot, if it can be loaded again; whether it was synchronised. -/
def commitSnapshot (store : ProfileStore S) (id : ProfileId) (snapshot : S) :
    Except ProfileError Bool × ProfileStore S :=
  match faults.commit with
  | .failed => (.error .snapshot, { store with entries := store.entries ++ [⟨id, none⟩] })
  | outcome =>
    let store := { store with entries := store.entries ++ [⟨id, some snapshot⟩] }
    match loadProfile faults store id with
    | .error error => (.error error, store)
    | .ok _ => (.ok (outcome = .done), store)

/-- Stores a new profile under the first identifier drawn that is not in use; none while every one
drawn is. -/
def insertProfile (draws : List ProfileId) (now : Nat) (snapshot : S) (activate : Bool)
    (store : ProfileStore S) : Option (Except ProfileError ProfileId × ProfileStore S) :=
  if faults.listing then some (.error .io, store)
  else if maxProfiles ≤ occupiedProfileSlots store then some (.error .limitReached, store)
  else if faults.random || faults.metadata then some (.error .io, store)
  else (draws.find? (isFresh store)).map fun id =>
    if faults.createChild then (.error .io, store)
    else match commitSnapshot faults store id snapshot with
      | (.error error, store) => discard faults store id error
      | (.ok synced, store) =>
        let proposed := { store.index with
          profiles := store.index.profiles ++ [⟨id, now⟩]
          activeId := if activate then some id else store.index.activeId }
        match publishIndex faults store proposed with
        | (.error error, store) => discard faults store id error
        | (.ok .maintenanceDebt, store) => (.error (.indexMaintenanceDebt id), store)
        | (.ok .clean, store) =>
          if synced then (.ok id, store)
          else (.error (.indexMaintenanceDebt id), { store with maintenanceDebt := true })

/-- Stores a new profile and makes it the active one. -/
def createProfile (draws : List ProfileId) (now : Nat) (snapshot : S) (store : ProfileStore S) :
    Option (Except ProfileError ProfileId × ProfileStore S) :=
  insertProfile faults draws now snapshot true store

/-- Stores a new profile and leaves the active one as it is. -/
def addProfile (draws : List ProfileId) (now : Nat) (snapshot : S) (store : ProfileStore S) :
    Option (Except ProfileError ProfileId × ProfileStore S) :=
  insertProfile faults draws now snapshot false store

/-- Replaces the snapshot of a profile and loads it again. -/
def replaceProfileLoaded (id : ProfileId) (snapshot : S) (store : ProfileStore S) :
    Except ReplaceError S × ProfileStore S :=
  if id ∉ store.index.ids then (.error (.profile (.notFound id)), store)
  else if id ∉ store.entries.map Entry.id then (.error (.profile (.unavailable id)), store)
  else if faults.metadata then (.error (.profile .io), store)
  else match faults.commit with
    | .failed => (.error (.profile .snapshot), store)
    | outcome =>
      let store := { store with
        entries := store.entries.map fun entry =>
          if entry.id = id then { entry with snapshot := some snapshot } else entry }
      match loadProfile faults store id with
      | .error error => (.error (.postCommitRead id error), store)
      | .ok loaded =>
        if outcome = .done then (.ok loaded, store)
        else (.error (.profile (.indexMaintenanceDebt id)), { store with maintenanceDebt := true })

/-- Replaces the snapshot of a profile. -/
def replaceProfile (id : ProfileId) (snapshot : S) (store : ProfileStore S) :
    Except ReplaceError Unit × ProfileStore S :=
  let (answer, store) := replaceProfileLoaded faults id snapshot store
  (answer.map fun _ => (), store)

/-- `activate`: the profile has to load first. -/
def activate (id : ProfileId) (store : ProfileStore S) : Except ProfileError S × ProfileStore S :=
  if id ∉ store.index.ids then (.error (.notFound id), store)
  else match loadProfile faults store id with
    | .error error => (.error error, store)
    | .ok snapshot =>
      if store.index.activeId = some id then (.ok snapshot, store)
      else
        match publishIndex faults store { store.index with activeId := some id } with
        | (.error error, store) => (.error error, store)
        | (.ok .clean, store) => (.ok snapshot, store)
        | (.ok .maintenanceDebt, store) => (.error (.indexMaintenanceDebt id), store)

/-- The index without a profile; its neighbour becomes active in its place. -/
def withoutProfile (index : ProfileIndex) (id : ProfileId) : ProfileIndex :=
  let position := index.ids.idxOf id
  let profiles := index.profiles.eraseIdx position
  { index with
    profiles
    activeId :=
      if index.activeId = some id then
        (profiles[position]?.or profiles.getLast?).map ProfileIndexEntry.id
      else index.activeId }

/-- `delete`: the index first, the folder after it. -/
def delete (id : ProfileId) (store : ProfileStore S) :
    Except ProfileError (Option ProfileId) × ProfileStore S :=
  if id ∉ store.index.ids then (.error (.notFound id), store)
  else
    let proposed := withoutProfile store.index id
    let loaded := match proposed.activeId with
      | some next =>
        if store.index.activeId = some id then (loadProfile faults store next).map fun _ => ()
        else .ok ()
      | none => .ok ()
    match loaded with
    | .error error => (.error error, store)
    | .ok () =>
      match publishIndex faults store proposed with
      | (.error error, store) => (.error error, store)
      | (.ok .maintenanceDebt, store) => (.error (.indexMaintenanceDebt id), store)
      | (.ok .clean, store) =>
        match removeProfileDirectory faults store id with
        | (true, store) => (.ok proposed.activeId, store)
        | (false, store) => (.error (.cleanupDebt id true), { store with maintenanceDebt := true })

/-- Removes what is left of a profile that is not in the index; whether it is gone. -/
def cleanupUnindexedProfile (id : ProfileId) (store : ProfileStore S) :
    Except ProfileError Bool × ProfileStore S :=
  if id ∈ store.index.ids then (.ok false, store)
  else match removeProfileDirectory faults store id with
    | (true, store) => (.ok true, store)
    | (false, store) => (.error .io, store)

end Operations

section Opening

variable {S : Type} (faults : Faults)

/-- What stands under the name of the index file. -/
inductive IndexFile where
  | irregular
  | oversized
  | damaged (reason : String)
  | index (index : ProfileIndex)
  deriving DecidableEq, Repr

/-- The index that a file gives; the empty one when there is none. -/
def readIndexFile : Option IndexFile → Except ProfileError ProfileIndex
  | none => .ok ProfileIndex.empty
  | some .irregular => .error (.invalidIndex "index is not a regular file")
  | some .oversized => .error (.invalidIndex "index exceeds size limit")
  | some (.damaged reason) => .error (.invalidIndex reason)
  | some (.index index) => (validateIndex index).map fun () => index

/-- The index that a file holds. -/
def IndexFile.contents : IndexFile → Option ProfileIndex
  | .index given => some given
  | _ => none

/-- Takes over the one snapshot that was kept before there were profiles. -/
def migrateLegacy (draws : List ProfileId) (now : Nat) (legacy : Option S)
    (store : ProfileStore S) : Option (Except ProfileError Unit × ProfileStore S) :=
  match legacy with
  | none => some (.ok (), store)
  | some snapshot =>
    if faults.random || faults.metadata then some (.error .io, store)
    else (draws.find? fun id => id ∉ store.entries.map Entry.id).map fun id =>
      if faults.createChild then (.error .io, store)
      else match commitSnapshot faults store id snapshot with
        | (.error error, store) => discard faults store id error
        | (.ok false, store) => discard faults store id .io
        | (.ok true, store) =>
          let proposed : ProfileIndex := ⟨indexSchemaVersion, [⟨id, now⟩], some id⟩
          match publishIndex faults store proposed with
          | (.error error, store) => discard faults store id error
          | (.ok _, store) => (.ok (), store)

/-- Removes the directories of profiles that are not in the index. -/
def cleanupUnindexedProfileDirectories (store : ProfileStore S) :
    Except ProfileError (ProfileStore S) :=
  match store.entries.find? fun entry => entry.id ∉ store.index.ids with
  | none => .ok store
  | some entry =>
    if faults.removal then .error (.cleanupDebt entry.id false)
    else .ok { store with
      entries := store.entries.filter fun entry => entry.id ∈ store.index.ids }

/-- Opens the store in a directory; none while every identifier drawn is in use. -/
def openStore (file : Option IndexFile) (entries : List (Entry S)) (legacy : Option S)
    (draws : List ProfileId) (now : Nat) : Option (Except ProfileError (ProfileStore S)) :=
  if faults.metadata then some (.error .io)
  else match readIndexFile file with
    | .error error => some (.error error)
    | .ok index =>
      let store : ProfileStore S := ⟨index, file.bind IndexFile.contents, entries, false⟩
      let migrated :=
        if file.isNone then migrateLegacy faults draws now legacy store
        else some (.ok (), store)
      migrated.map fun
        | (.error error, _) => .error error
        | (.ok (), store) =>
          if faults.listing then .error .io else cleanupUnindexedProfileDirectories faults store

/-- The stores that are reached from any directory by operations, whatever fails and whatever else
happens to the files. -/
inductive Reachable : ProfileStore S → Prop
  | opened {faults : Faults} {file : Option IndexFile} {entries : List (Entry S)}
      {legacy : Option S} {draws : List ProfileId} {now : Nat} {store : ProfileStore S} :
      openStore faults file entries legacy draws now = some (.ok store) → Reachable store
  | inserted {store : ProfileStore S} (faults : Faults) (draws : List ProfileId) (now : Nat)
      (snapshot : S) (activate : Bool) {result : Except ProfileError ProfileId}
      {store' : ProfileStore S} : Reachable store →
      insertProfile faults draws now snapshot activate store = some (result, store') →
      Reachable store'
  | replaced {store : ProfileStore S} (faults : Faults) (id : ProfileId) (snapshot : S) :
      Reachable store → Reachable (replaceProfile faults id snapshot store).2
  | activated {store : ProfileStore S} (faults : Faults) (id : ProfileId) :
      Reachable store → Reachable (activate faults id store).2
  | deleted {store : ProfileStore S} (faults : Faults) (id : ProfileId) :
      Reachable store → Reachable (delete faults id store).2
  | cleaned {store : ProfileStore S} (faults : Faults) (id : ProfileId) :
      Reachable store → Reachable (cleanupUnindexedProfile faults id store).2
  | outside {store : ProfileStore S} (indexFile : Option ProfileIndex) (entries : List (Entry S)) :
      Reachable store → Reachable { store with indexFile, entries }

end Opening

section Invariant

variable {S : Type} {faults : Faults} {store store' : ProfileStore S} {id : ProfileId}

/-- Removing a folder leaves the index. -/
theorem removeProfileDirectory_index {gone : Bool}
    (h : removeProfileDirectory faults store id = (gone, store')) : store'.index = store.index := by
  unfold removeProfileDirectory at h
  by_cases hremoval : faults.removal = true
  · rw [if_pos hremoval] at h
    rw [← (Prod.mk.inj h).2]
  · rw [if_neg hremoval] at h
    rw [← (Prod.mk.inj h).2]

/-- Giving up a profile leaves the index. -/
theorem discard_index {α : Type} {error : ProfileError} {result : Except ProfileError α}
    (h : discard faults store id error = (result, store')) : store'.index = store.index := by
  unfold discard at h
  cases hremove : removeProfileDirectory faults store id with
  | mk gone middle =>
    have hindex := removeProfileDirectory_index hremove
    rw [hremove] at h
    cases gone <;>
    · rw [← (Prod.mk.inj h).2]
      exact hindex

/-- Writing a folder leaves the index. -/
theorem commitSnapshot_index {snapshot : S} {result : Except ProfileError Bool}
    (h : commitSnapshot faults store id snapshot = (result, store')) :
    store'.index = store.index := by
  unfold commitSnapshot at h
  cases hcommit : faults.commit with
  | failed =>
    rw [hcommit] at h
    rw [← (Prod.mk.inj h).2]
  | done =>
    simp only [hcommit] at h
    cases hload : loadProfile faults
        { store with entries := store.entries ++ [⟨id, some snapshot⟩] } id <;>
    · rw [hload] at h
      rw [← (Prod.mk.inj h).2]
  | unsynced =>
    simp only [hcommit] at h
    cases hload : loadProfile faults
        { store with entries := store.entries ++ [⟨id, some snapshot⟩] } id <;>
    · rw [hload] at h
      rw [← (Prod.mk.inj h).2]

/-- An index is taken over only if it passes the check. -/
theorem publishIndex_index {proposed : ProfileIndex} {result : Except ProfileError IndexCommit}
    (h : publishIndex faults store proposed = (result, store')) :
    (∃ error, result = .error error ∧ store'.index = store.index) ∨
      validateIndex proposed = .ok () ∧ store'.index = proposed := by
  unfold publishIndex persistIndex at h
  cases hvalid : validateIndex proposed with
  | error error =>
    simp only [hvalid] at h
    obtain ⟨rfl, rfl⟩ := Prod.mk.inj h
    exact Or.inl ⟨error, rfl, rfl⟩
  | ok valid =>
    simp only [hvalid] at h
    cases houtcome : faults.index with
    | failed =>
      simp only [houtcome] at h
      obtain ⟨rfl, rfl⟩ := Prod.mk.inj h
      exact Or.inl ⟨.io, rfl, rfl⟩
    | done =>
      simp only [houtcome] at h
      rw [← (Prod.mk.inj h).2]
      exact Or.inr ⟨rfl, rfl⟩
    | unsynced =>
      simp only [houtcome] at h
      rw [← (Prod.mk.inj h).2]
      exact Or.inr ⟨rfl, rfl⟩

/-- An operation keeps the index, or takes over one that passes the check. -/
def Keeps (store store' : ProfileStore S) : Prop :=
  store'.index = store.index ∨ validateIndex store'.index = .ok ()

/-- An index that is published is valid. -/
theorem publishIndex_keeps {proposed : ProfileIndex} {result : Except ProfileError IndexCommit}
    (h : publishIndex faults store proposed = (result, store')) : Keeps store store' := by
  rcases publishIndex_index h with ⟨-, -, hindex⟩ | ⟨hvalid, hindex⟩
  · exact Or.inl hindex
  · right
    rw [hindex]
    exact hvalid

/-- What is kept up to the index by one part of an operation is kept by both. -/
theorem Keeps.of_index {middle : ProfileStore S} (h : Keeps store middle)
    (hindex : store'.index = middle.index) : Keeps store store' := by
  unfold Keeps
  rw [hindex]
  exact h

/-- A new profile leaves the index valid, or as it was. -/
theorem insertProfile_keeps {draws : List ProfileId} {now : Nat} {snapshot : S} {activate : Bool}
    {result : Except ProfileError ProfileId}
    (h : insertProfile faults draws now snapshot activate store = some (result, store')) :
    Keeps store store' := by
  unfold insertProfile at h
  by_cases hlisting : faults.listing = true
  · rw [if_pos hlisting, Option.some.injEq] at h
    rw [← (Prod.mk.inj h).2]
    exact Or.inl rfl
  rw [if_neg hlisting] at h
  by_cases hfull : maxProfiles ≤ occupiedProfileSlots store
  · rw [if_pos hfull, Option.some.injEq] at h
    rw [← (Prod.mk.inj h).2]
    exact Or.inl rfl
  rw [if_neg hfull] at h
  by_cases hrandom : (faults.random || faults.metadata) = true
  · rw [if_pos hrandom, Option.some.injEq] at h
    rw [← (Prod.mk.inj h).2]
    exact Or.inl rfl
  rw [if_neg hrandom] at h
  obtain ⟨id, -, h⟩ := Option.map_eq_some_iff.1 h
  by_cases hchild : faults.createChild = true
  · rw [if_pos hchild] at h
    rw [← (Prod.mk.inj h).2]
    exact Or.inl rfl
  rw [if_neg hchild] at h
  cases hcommit : commitSnapshot faults store id snapshot with
  | mk committed middle =>
    have hmiddle : Keeps store middle := Or.inl (commitSnapshot_index hcommit)
    rw [hcommit] at h
    cases committed with
    | error error => exact hmiddle.of_index (discard_index h)
    | ok synced =>
      simp only at h
      generalize hproposed : ({ middle.index with
        profiles := middle.index.profiles ++ [⟨id, now⟩]
        activeId := if activate then some id else middle.index.activeId } : ProfileIndex) =
        proposed at h
      cases hpublish : publishIndex faults middle proposed with
      | mk published last =>
        have hlast : Keeps store last := by
          rcases publishIndex_keeps hpublish with hindex | hvalid
          · exact hmiddle.of_index hindex
          · exact Or.inr hvalid
        rw [hpublish] at h
        match published, h with
        | .error error, h => exact hlast.of_index (discard_index h)
        | .ok .maintenanceDebt, h =>
          rw [← (Prod.mk.inj h).2]
          exact hlast
        | .ok .clean, h =>
          cases synced <;>
          · rw [← (Prod.mk.inj h).2]
            exact hlast

/-- A replacement leaves the index. -/
theorem replaceProfileLoaded_index {snapshot : S} :
    (replaceProfileLoaded faults id snapshot store).2.index = store.index := by
  unfold replaceProfileLoaded
  by_cases hid : id ∉ store.index.ids
  · rw [if_pos hid]
  rw [if_neg hid]
  by_cases hentry : id ∉ store.entries.map Entry.id
  · rw [if_pos hentry]
  rw [if_neg hentry]
  by_cases hmetadata : faults.metadata = true
  · rw [if_pos hmetadata]
  rw [if_neg hmetadata]
  cases faults.commit with
  | failed => rfl
  | done =>
    simp only
    cases loadProfile faults _ id <;> rfl
  | unsynced =>
    simp only
    cases loadProfile faults _ id <;> rfl

/-- A replacement leaves the index. -/
theorem replaceProfile_index {snapshot : S} :
    (replaceProfile faults id snapshot store).2.index = store.index :=
  replaceProfileLoaded_index

/-- An activation leaves the index valid, or as it was. -/
theorem activate_keeps : Keeps store (activate faults id store).2 := by
  unfold activate
  by_cases hid : id ∉ store.index.ids
  · rw [if_pos hid]
    exact Or.inl rfl
  rw [if_neg hid]
  cases loadProfile faults store id with
  | error error => exact Or.inl rfl
  | ok snapshot =>
    simp only
    by_cases hactive : store.index.activeId = some id
    · rw [if_pos hactive]
      exact Or.inl rfl
    rw [if_neg hactive]
    cases hpublish : publishIndex faults store { store.index with activeId := some id } with
    | mk published last =>
      have hlast := publishIndex_keeps hpublish
      match published with
      | .error _ | .ok .clean | .ok .maintenanceDebt => exact hlast

/-- A deletion leaves the index valid, or as it was. -/
theorem delete_keeps : Keeps store (delete faults id store).2 := by
  unfold delete
  by_cases hid : id ∉ store.index.ids
  · rw [if_pos hid]
    exact Or.inl rfl
  rw [if_neg hid]
  simp only
  generalize (match (withoutProfile store.index id).activeId with
    | some next =>
      if store.index.activeId = some id then (loadProfile faults store next).map fun _ => ()
      else .ok ()
    | none => .ok () : Except ProfileError Unit) = loaded
  cases loaded with
  | error error => exact Or.inl rfl
  | ok _ =>
    simp only
    cases hpublish : publishIndex faults store (withoutProfile store.index id) with
    | mk published last =>
      have hlast := publishIndex_keeps hpublish
      match published with
      | .error _ | .ok .maintenanceDebt => exact hlast
      | .ok .clean =>
        simp only
        cases hremove : removeProfileDirectory faults last id with
        | mk gone left =>
          have hleft := hlast.of_index (removeProfileDirectory_index hremove)
          cases gone <;> exact hleft

/-- A clean-up leaves the index. -/
theorem cleanupUnindexedProfile_index :
    (cleanupUnindexedProfile faults id store).2.index = store.index := by
  unfold cleanupUnindexedProfile
  by_cases hid : id ∈ store.index.ids
  · rw [if_pos hid]
  rw [if_neg hid]
  cases hremove : removeProfileDirectory faults store id with
  | mk gone left =>
    have hleft := removeProfileDirectory_index hremove
    cases gone <;> exact hleft

/-- The profile of an older version leaves the index valid, or as it was. -/
theorem migrateLegacy_keeps {draws : List ProfileId} {now : Nat} {legacy : Option S}
    {result : Except ProfileError Unit}
    (h : migrateLegacy faults draws now legacy store = some (result, store')) :
    Keeps store store' := by
  unfold migrateLegacy at h
  cases legacy with
  | none =>
    rw [← (Prod.mk.inj (Option.some.inj h)).2]
    exact Or.inl rfl
  | some snapshot =>
    simp only at h
    by_cases hrandom : (faults.random || faults.metadata) = true
    · rw [if_pos hrandom, Option.some.injEq] at h
      rw [← (Prod.mk.inj h).2]
      exact Or.inl rfl
    rw [if_neg hrandom] at h
    obtain ⟨id, -, h⟩ := Option.map_eq_some_iff.1 h
    by_cases hchild : faults.createChild = true
    · rw [if_pos hchild] at h
      rw [← (Prod.mk.inj h).2]
      exact Or.inl rfl
    rw [if_neg hchild] at h
    cases hcommit : commitSnapshot faults store id snapshot with
    | mk committed middle =>
      have hmiddle : Keeps store middle := Or.inl (commitSnapshot_index hcommit)
      rw [hcommit] at h
      match committed, h with
      | .error error, h => exact hmiddle.of_index (discard_index h)
      | .ok false, h => exact hmiddle.of_index (discard_index h)
      | .ok true, h =>
        simp only at h
        cases hpublish : publishIndex faults middle
            ⟨indexSchemaVersion, [⟨id, now⟩], some id⟩ with
        | mk published last =>
          have hlast : Keeps store last := by
            rcases publishIndex_keeps hpublish with hindex | hvalid
            · exact hmiddle.of_index hindex
            · exact Or.inr hvalid
          rw [hpublish] at h
          match published, h with
          | .error error, h => exact hlast.of_index (discard_index h)
          | .ok commit, h =>
            rw [← (Prod.mk.inj h).2]
            exact hlast

/-- An index that was read is valid. -/
theorem readIndexFile_valid {file : Option IndexFile} {index : ProfileIndex}
    (h : readIndexFile file = .ok index) : validateIndex index = .ok () := by
  match file, h with
  | none, h =>
    rw [← Except.ok.inj h]
    rfl
  | some (.index given), h =>
    cases hvalid : validateIndex given with
    | error error =>
      simp only [readIndexFile, hvalid] at h
      exact nomatch h
    | ok valid =>
      simp only [readIndexFile, hvalid] at h
      rw [← Except.ok.inj h]
      exact hvalid

/-- A store that opened has a valid index. -/
theorem openStore_valid {file : Option IndexFile} {entries : List (Entry S)} {legacy : Option S}
    {draws : List ProfileId} {now : Nat}
    (h : openStore faults file entries legacy draws now = some (.ok store)) :
    validateIndex store.index = .ok () := by
  unfold openStore at h
  by_cases hmetadata : faults.metadata = true
  · rw [if_pos hmetadata] at h
    exact nomatch h
  rw [if_neg hmetadata] at h
  cases hread : readIndexFile file with
  | error error =>
    rw [hread] at h
    exact nomatch h
  | ok index =>
    have hvalid := readIndexFile_valid hread
    simp only [hread] at h
    obtain ⟨⟨migrated, middle⟩, hmigrated, h⟩ := Option.map_eq_some_iff.1 h
    have hmiddle : validateIndex middle.index = .ok () := by
      by_cases hfile : file.isNone = true
      · rw [if_pos hfile] at hmigrated
        rcases migrateLegacy_keeps hmigrated with hindex | hvalid'
        · rw [hindex]
          exact hvalid
        · exact hvalid'
      · rw [if_neg hfile, Option.some.injEq] at hmigrated
        rw [← (Prod.mk.inj hmigrated).2]
        exact hvalid
    cases migrated with
    | error error => exact nomatch h
    | ok _ =>
      simp only at h
      by_cases hlisting : faults.listing = true
      · rw [if_pos hlisting] at h
        exact nomatch h
      rw [if_neg hlisting] at h
      unfold cleanupUnindexedProfileDirectories at h
      cases hstray : middle.entries.find? fun entry => entry.id ∉ middle.index.ids with
      | none =>
        rw [hstray] at h
        rw [← Except.ok.inj h]
        exact hmiddle
      | some entry =>
        simp only [hstray] at h
        by_cases hremoval : faults.removal = true
        · rw [if_pos hremoval] at h
          exact nomatch h
        · rw [if_neg hremoval] at h
          rw [← Except.ok.inj h]
          exact hmiddle

/-- The index of every store that is reached passes the check. -/
theorem Reachable.valid (h : Reachable store) : validateIndex store.index = .ok () := by
  have hkept : ∀ {before after : ProfileStore S}, Keeps before after →
      validateIndex before.index = .ok () → validateIndex after.index = .ok () := by
    intro before after hkeeps hvalid
    rcases hkeeps with hindex | hvalid'
    · rw [hindex]
      exact hvalid
    · exact hvalid'
  induction h with
  | opened hopen => exact openStore_valid hopen
  | inserted _ _ _ _ _ _ hinsert ih => exact hkept (insertProfile_keeps hinsert) ih
  | replaced _ _ _ _ ih => exact hkept (Or.inl replaceProfile_index) ih
  | activated _ _ _ ih => exact hkept activate_keeps ih
  | deleted _ _ _ ih => exact hkept delete_keeps ih
  | cleaned _ _ _ ih => exact hkept (Or.inl cleanupUnindexedProfile_index) ih
  | outside _ _ _ ih => exact ih

end Invariant

end MultiCore.Profiles
