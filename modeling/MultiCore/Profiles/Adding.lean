import MultiCore.Profiles.Store
import Mathlib.Data.List.Perm.Subperm

/-!
# Adding a profile

A profile that is added is to leave the active one as it is, and no active
profile is to stay none. The check of an index refuses profiles without an active
one, so the first profile of a store can only be created as the active one: to
an empty store none can be added.
-/

namespace MultiCore.Profiles

variable {S : Type} {store store' : ProfileStore S}

/-- What adding a profile promises. -/
def Adds (store : ProfileStore S) (now : Nat)
    (outcome : Option (Except ProfileError ProfileId × ProfileStore S)) : Prop :=
  ∃ id store', outcome = some (.ok id, store') ∧
    store'.index.profiles = store.index.profiles ++ [⟨id, now⟩] ∧
    store'.index.activeId = store.index.activeId ∧ validateIndex store'.index = .ok ()

/-- What the check of an index asks for. -/
structure Valid (index : ProfileIndex) : Prop where
  schema : index.schemaVersion = indexSchemaVersion
  length_le : index.profiles.length ≤ maxProfiles
  nodup : index.ids.Nodup
  empty_iff : index.profiles = [] ↔ index.activeId = none
  listed : ∀ id, index.activeId = some id → id ∈ index.ids

theorem validateIndex_iff {index : ProfileIndex} : validateIndex index = .ok () ↔ Valid index := by
  unfold validateIndex
  constructor
  · intro h
    by_cases hschema : index.schemaVersion ≠ indexSchemaVersion
    · rw [if_pos hschema] at h
      exact nomatch h
    rw [if_neg hschema] at h
    by_cases hlength : maxProfiles < index.profiles.length
    · rw [if_pos hlength] at h
      exact nomatch h
    rw [if_neg hlength] at h
    by_cases hnodup : ¬index.ids.Nodup
    · rw [if_pos hnodup] at h
      exact nomatch h
    rw [if_neg hnodup] at h
    by_cases hempty : index.profiles.isEmpty ≠ index.activeId.isNone
    · rw [if_pos hempty] at h
      exact nomatch h
    rw [if_neg hempty] at h
    by_cases hlisted : (index.activeId.any fun active => active ∉ index.ids) = true
    · rw [if_pos hlisted] at h
      exact nomatch h
    refine ⟨not_not.1 hschema, Nat.not_lt.1 hlength, not_not.1 hnodup, ?_, ?_⟩
    · rw [← List.isEmpty_iff, not_not.1 hempty, Option.isNone_iff_eq_none]
    · intro id hid
      rw [hid] at hlisted
      simpa using hlisted
  · rintro ⟨hschema, hlength, hnodup, hempty, hlisted⟩
    have hagree : ¬index.profiles.isEmpty ≠ index.activeId.isNone := by
      rw [not_not, Bool.eq_iff_iff, List.isEmpty_iff, Option.isNone_iff_eq_none]
      exact hempty
    have hin : ¬(index.activeId.any fun active => active ∉ index.ids) = true := by
      cases hactive : index.activeId with
      | none => exact Bool.false_ne_true
      | some id =>
        have hmem := hlisted id hactive
        simpa using hmem
    rw [if_neg (not_not.2 hschema), if_neg (Nat.not_lt.2 hlength), if_neg (not_not.2 hnodup),
      if_neg hagree, if_neg hin]

/-- There are no more profiles in the index than slots taken. -/
theorem length_le_occupied (h : store.index.ids.Nodup) :
    store.index.profiles.length ≤ occupiedProfileSlots store := by
  have hsub : store.index.ids.Subperm (store.index.ids ++ store.entries.map Entry.id).dedup :=
    List.subperm_of_subset h fun id hid => List.mem_dedup.2 (List.mem_append_left _ hid)
  have hle := hsub.length_le
  rw [ProfileIndex.ids, List.length_map] at hle
  exact hle

/-- The index with one more profile, and the active one as it was. -/
def withProfile (index : ProfileIndex) (id : ProfileId) (now : Nat) : ProfileIndex :=
  { index with profiles := index.profiles ++ [⟨id, now⟩] }

/-- The index with one more profile passes the check unless it was empty. -/
theorem valid_withProfile_iff {index : ProfileIndex} (h : Valid index) {id : ProfileId}
    (hfresh : id ∉ index.ids) (hroom : index.profiles.length < maxProfiles) (now : Nat) :
    validateIndex (withProfile index id now) = .ok () ↔ index.profiles ≠ [] := by
  rw [validateIndex_iff]
  have hids : (withProfile index id now).ids = index.ids ++ [id] := by
    rw [ProfileIndex.ids, withProfile, List.map_append]
    rfl
  have hmore : (withProfile index id now).profiles ≠ [] :=
    List.append_ne_nil_of_right_ne_nil _ (List.cons_ne_nil _ _)
  constructor
  · intro hvalid hempty
    have hnone : index.activeId = none := h.empty_iff.1 hempty
    exact hmore (hvalid.empty_iff.2 hnone)
  · intro hne
    constructor
    · exact h.schema
    · rw [withProfile, List.length_append]
      exact hroom
    · rw [hids, List.nodup_append]
      refine ⟨h.nodup, List.nodup_singleton _, ?_⟩
      rintro other hother _ hid rfl
      rw [List.mem_singleton.1 hid] at hother
      exact hfresh hother
    · constructor
      · exact fun hnil => absurd hnil hmore
      · exact fun hnone => absurd (h.empty_iff.2 hnone) hne
    · intro active hactive
      rw [hids]
      exact List.mem_append_left _ (h.listed active hactive)

/-- The store with a new profile in its index. -/
def withEntry (store : ProfileStore S) (id : ProfileId) (now : Nat) (snapshot : S) :
    ProfileStore S :=
  { store with
    index := withProfile store.index id now
    indexFile := some (withProfile store.index id now)
    entries := store.entries ++ [⟨id, some snapshot⟩] }

/-- A snapshot that was committed under a new identifier is loaded again. -/
theorem commitSnapshot_none {id : ProfileId} (hfresh : id ∉ store.entries.map Entry.id)
    (snapshot : S) : commitSnapshot Faults.none store id snapshot =
      (.ok true, { store with entries := store.entries ++ [⟨id, some snapshot⟩] }) := by
  have hfind : (store.entries ++ [(⟨id, some snapshot⟩ : Entry S)]).find?
      (fun entry => entry.id = id) = some ⟨id, some snapshot⟩ := by
    have hnone : store.entries.find? (fun entry => entry.id = id) = none := by
      rw [List.find?_eq_none]
      intro entry hentry heq
      exact hfresh (List.mem_map.2 ⟨entry, hentry, of_decide_eq_true heq⟩)
    rw [List.find?_append, hnone]
    simp
  have hload : loadProfile Faults.none
      { store with entries := store.entries ++ [⟨id, some snapshot⟩] } id = .ok snapshot := by
    have hworks : ¬Faults.none.load = true := Bool.false_ne_true
    rw [loadProfile, if_neg hworks, hfind]
    rfl
  unfold commitSnapshot
  simp only [show Faults.none.commit = .done from rfl, hload]
  rfl

/-- What adding a profile comes to when no call fails. -/
theorem addProfile_eq {draws : List ProfileId} (now : Nat) (snapshot : S) {id : ProfileId}
    (hfree : occupiedProfileSlots store < maxProfiles)
    (hid : draws.find? (isFresh store) = some id) :
    (validateIndex (withProfile store.index id now) = .ok () →
      addProfile Faults.none draws now snapshot store =
        some (.ok id, withEntry store id now snapshot)) ∧
    ∀ error, validateIndex (withProfile store.index id now) = .error error →
      ∃ store', addProfile Faults.none draws now snapshot store = some (.error error, store') := by
  have hfresh : id ∉ store.entries.map Entry.id := by
    have hboth := List.find?_some hid
    rw [isFresh, Bool.and_eq_true, decide_eq_true_eq, decide_eq_true_eq] at hboth
    exact hboth.2
  have hlisting : ¬Faults.none.listing = true := Bool.false_ne_true
  have hrandom : ¬(Faults.none.random || Faults.none.metadata) = true := Bool.false_ne_true
  have hchild : ¬Faults.none.createChild = true := Bool.false_ne_true
  unfold addProfile insertProfile
  rw [if_neg hlisting, if_neg (Nat.not_le.2 hfree), if_neg hrandom, hid, Option.map_some,
    if_neg hchild, commitSnapshot_none hfresh]
  simp only [Bool.false_eq_true, if_false]
  constructor
  · intro hcheck
    have hpublish : publishIndex Faults.none
        { store with entries := store.entries ++ [⟨id, some snapshot⟩] }
        (withProfile store.index id now) = (.ok .clean, withEntry store id now snapshot) := by
      unfold publishIndex persistIndex
      rw [hcheck]
      rfl
    rw [withProfile] at hpublish
    rw [hpublish]
    rfl
  · intro error hcheck
    have hpublish : publishIndex Faults.none
        { store with entries := store.entries ++ [⟨id, some snapshot⟩] }
        (withProfile store.index id now) =
        (.error error, { store with entries := store.entries ++ [⟨id, some snapshot⟩] }) := by
      unfold publishIndex persistIndex
      rw [hcheck]
    rw [withProfile] at hpublish
    rw [hpublish]
    exact ⟨_, rfl⟩

/-- Where no call fails and a slot is free, a profile is added as promised exactly when the store
has one already. -/
theorem addProfile_adds_iff (h : Reachable store) (hfree : occupiedProfileSlots store < maxProfiles)
    {draws : List ProfileId} (hdraws : ∃ id ∈ draws, isFresh store id = true) (now : Nat)
    (snapshot : S) :
    Adds store now (addProfile Faults.none draws now snapshot store) ↔
      store.index.profiles ≠ [] := by
  have hvalid : Valid store.index := validateIndex_iff.1 h.valid
  obtain ⟨id, hid⟩ : ∃ id, draws.find? (isFresh store) = some id :=
    Option.isSome_iff_exists.1 (List.find?_isSome.2 hdraws)
  have hfresh : id ∉ store.index.ids := by
    have hboth := List.find?_some hid
    rw [isFresh, Bool.and_eq_true, decide_eq_true_eq] at hboth
    exact hboth.1
  have hroom : store.index.profiles.length < maxProfiles :=
    Nat.lt_of_le_of_lt (length_le_occupied hvalid.nodup) hfree
  obtain ⟨haccepted, hrefused⟩ := addProfile_eq now snapshot hfree hid
  rw [← valid_withProfile_iff hvalid hfresh hroom now]
  constructor
  · rintro ⟨id', store', hadd, -, -, -⟩
    cases hcheck : validateIndex (withProfile store.index id now) with
    | ok valid => rfl
    | error error =>
      obtain ⟨left, hleft⟩ := hrefused error hcheck
      rw [hleft] at hadd
      exact nomatch hadd
  · intro hcheck
    exact ⟨id, withEntry store id now snapshot, haccepted hcheck, rfl, rfl, hcheck⟩

section Examples

def firstId : ProfileId := ⟨"0a1b2c3d-0000-4000-8000-000000000001", by decide⟩

def secondId : ProfileId := ⟨"0a1b2c3d-0000-4000-8000-000000000002", by decide⟩

/-- The store in a new directory, and the same with one profile. -/
def newStore : ProfileStore String := ⟨ProfileIndex.empty, none, [], false⟩

def firstIndex : ProfileIndex := ⟨indexSchemaVersion, [⟨firstId, 1700000000⟩], some firstId⟩

def firstStore : ProfileStore String :=
  ⟨firstIndex, some firstIndex, [⟨firstId, some "first"⟩], false⟩

theorem reachable_newStore : Reachable newStore := by
  have hopen : openStore Faults.none none [] none [] 0 = some (.ok newStore) := rfl
  exact .opened hopen

theorem reachable_firstStore : Reachable firstStore := by
  have hcreate : insertProfile Faults.none [firstId] 1700000000 "first" true newStore =
      some (.ok firstId, firstStore) := by decide
  exact .inserted _ _ _ _ _ reachable_newStore hcreate

/-- A second profile is added. -/
theorem addProfile_adds_second : Adds firstStore 1700000001
    (addProfile Faults.none [firstId, secondId] 1700000001 "second" firstStore) :=
  (addProfile_adds_iff reachable_firstStore (by decide) ⟨secondId, by decide⟩
    1700000001 "second").2 (by decide)

/-- The first one is not: the index without an active profile is refused. -/
theorem addProfile_refused : Reachable newStore ∧ occupiedProfileSlots newStore < maxProfiles ∧
    isFresh newStore firstId = true ∧
    addProfile Faults.none [firstId] 1700000000 "first" newStore =
      some (.error (.invalidIndex "empty and active profile state disagree"), newStore) ∧
    ¬Adds newStore 1700000000 (addProfile Faults.none [firstId] 1700000000 "first" newStore) := by
  have hadd : addProfile Faults.none [firstId] 1700000000 "first" newStore =
      some (.error (.invalidIndex "empty and active profile state disagree"), newStore) := by
    decide
  refine ⟨reachable_newStore, by decide, by decide, hadd, ?_⟩
  rintro ⟨id, store', hok, -⟩
  rw [hadd] at hok
  exact nomatch hok

end Examples

end MultiCore.Profiles
