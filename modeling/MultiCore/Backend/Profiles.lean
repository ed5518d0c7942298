import Mathlib.Data.List.DropRight
import Mathlib.Data.PNat.Notation
import Mathlib.Data.PNat.Defs
import Mathlib.Logic.Function.Basic
import Mathlib.Tactic.Common

/-!
# Profiles

The profile store as the daemon uses it: an index of profiles in order, the
active one, and each profile's current generation. The revision of a
generation is a digest with its top bit set, so it is positive. A source link
is stored without white space around it. Saved selections, logos and icons are
not part of it.
-/

namespace MultiCore.Backend

/-- A profile's identifier. -/
abbrev ProfileId := Nat

/-- White space as Unicode has it. -/
def isWhitespace (c : Char) : Bool :=
  let n := c.toNat
  (9 ≤ n && n ≤ 13) || n = 32 || n = 0x85 || n = 0xA0 || n = 0x1680 ||
    (0x2000 ≤ n && n ≤ 0x200A) || n = 0x2028 || n = 0x2029 || n = 0x202F || n = 0x205F || n = 0x3000

/-- `str::trim`. -/
def trim (text : String) : String :=
  String.ofList ((text.toList.dropWhile isWhitespace).rdropWhile isWhitespace)

/-- Trimming from the right leaves the left end as it is. -/
private theorem dropWhile_rdropWhile (p : Char → Bool) (cs : List Char) :
    ((cs.dropWhile p).rdropWhile p).dropWhile p = (cs.dropWhile p).rdropWhile p := by
  have hhead : ∀ hl : 0 < (cs.dropWhile p).length, ¬ p ((cs.dropWhile p).get ⟨0, hl⟩) :=
    fun hl => List.dropWhile_get_zero_not p cs hl
  rw [List.dropWhile_eq_self_iff]
  intro hl
  have hprefix := List.rdropWhile_prefix p (cs.dropWhile p)
  have hget := hprefix.getElem hl
  rw [hget]
  exact hhead _

/-- Trimming twice is trimming once. -/
theorem trim_trim (text : String) : trim (trim text) = trim text := by
  unfold trim
  rw [String.toList_ofList, dropWhile_rdropWhile, List.rdropWhile_idempotent]

/-- The source link of a subscription. -/
structure Link where
  text : String
  trimmed : trim text = text
  deriving DecidableEq

/-- The link that a text spells. -/
def Link.of (text : String) : Link := ⟨trim text, trim_trim text⟩

/-- A link spells itself. -/
@[simp] theorem Link.of_text (link : Link) : Link.of link.text = link := by
  cases link with
  | mk text trimmed => simp [Link.of, trimmed]

/-- A group that Mihomo's controller can switch. -/
structure Group where
  name : String
  nodes : List String
  /-- Which of the nodes Mihomo keeps in the group. -/
  offered : List Bool
  hidden : Bool
  deriving DecidableEq, Repr

/-- `SelectableGroup::offers`: a hidden group offers nothing. -/
def Group.offers (group : Group) (node : Nat) : Bool :=
  !group.hidden && group.offered.getD node false

/-- The positions of the nodes that can be selected. -/
def Group.offeredNodes (group : Group) : List Nat :=
  (List.range group.nodes.length).filter group.offers

/-- A subscription as it was downloaded. -/
structure Snapshot where
  /-- The link it was downloaded from. -/
  source : Option Link
  mihomo : String
  xray : String
  /-- The groups of `mihomo` that can be switched. -/
  groups : List Group
  deriving DecidableEq

/-- What is staged for the cores. -/
structure Payload where
  mihomo : String
  xray : String
  deriving DecidableEq

/-- What the cores are started with. -/
def Snapshot.payload (snapshot : Snapshot) : Payload := ⟨snapshot.mihomo, snapshot.xray⟩

/-- Both stage the same runtime. -/
def Snapshot.sameRuntimePayload (left right : Snapshot) : Bool := left.payload = right.payload

/-- The selected node of each group before anything was chosen. -/
def Snapshot.defaultSelections (snapshot : Snapshot) : List (Option String) :=
  snapshot.groups.map fun group => group.offeredNodes.head?.bind fun node => group.nodes[node]?

/-- A published snapshot of a profile. -/
structure Generation where
  revision : ℕ+
  snapshot : Snapshot
  deriving DecidableEq

/-- Why an operation of the store failed. -/
inductive ProfileError where
  | notFound
  | limitReached
  | other
  deriving DecidableEq, Repr

/-- What a mutation came to. -/
inductive Stored (α : Type) where
  | ok (value : α)
  /-- An error that reports the mutation as published. -/
  | committed (value : α)
  | refused (error : ProfileError)
  deriving DecidableEq, Repr

/-- The profile store as the backend sees it. -/
structure ProfileStore where
  /-- The profiles in the order of the index. -/
  profiles : List ProfileId
  active : Option ProfileId
  generation : ProfileId → Option Generation
  /-- Loading the current generation as the active one has failed; read by no operation. -/
  unread : ProfileId → Bool
  /-- The active profile is one of the index. -/
  listed : ∀ id, active = some id → id ∈ profiles

namespace ProfileStore

/-- A new generation of a profile. -/
def publish (store : ProfileStore) (id : ProfileId) (generation : Generation) : ProfileStore :=
  { store with
    generation := Function.update store.generation id (some generation)
    unread := Function.update store.unread id false }

/-- A new profile. -/
def insert (store : ProfileStore) (id : ProfileId) (generation : Generation) (activate : Bool) :
    ProfileStore :=
  { store.publish id generation with
    profiles := store.profiles ++ [id]
    active := if activate then some id else store.active
    listed := by
      intro other hother
      split at hother
      · simp_all
      · exact List.mem_append_left _ (store.listed other hother) }

/-- Makes a profile of the index the active one. -/
def activate (store : ProfileStore) (id : ProfileId) (h : id ∈ store.profiles) : ProfileStore :=
  { store with
    active := some id
    listed := by
      rintro other ⟨⟩
      exact h }

/-- The index without a profile. -/
def rest (store : ProfileStore) (id : ProfileId) : List ProfileId :=
  store.profiles.eraseIdx (store.profiles.idxOf id)

/-- The profile that follows a deleted active one. -/
def successor (store : ProfileStore) (id : ProfileId) : Option ProfileId :=
  (store.rest id)[store.profiles.idxOf id]?.or (store.rest id).getLast?

/-- The profile that follows a deleted one is another profile. -/
theorem mem_rest_of_successor {store : ProfileStore} {id next : ProfileId}
    (h : store.successor id = some next) : next ∈ store.rest id := by
  rcases Option.or_eq_some_iff.mp h with h | ⟨-, h⟩
  · exact List.mem_of_getElem? h
  · exact List.mem_of_getLast? h

/-- Every other profile is among those left by a deletion. -/
theorem mem_rest_of_ne {store : ProfileStore} {id other : ProfileId} (h : other ∈ store.profiles)
    (hne : other ≠ id) : other ∈ store.rest id := by
  unfold rest
  rw [← List.erase_eq_eraseIdx_of_idxOf]
  · exact (List.mem_erase_of_ne hne).mpr h
  · rfl

/-- Deletes a profile; when it was the active one, its neighbour becomes active. -/
def delete (store : ProfileStore) (id : ProfileId) : ProfileStore where
  profiles := store.rest id
  active := if store.active = some id then store.successor id else store.active
  generation := Function.update store.generation id none
  unread := store.unread
  listed := by
    intro other hother
    split at hother
    · exact mem_rest_of_successor hother
    · rename_i hne
      refine mem_rest_of_ne (store.listed other hother) fun he => hne ?_
      rw [hother, he]

/-- A load of the profile failed. -/
def fail (store : ProfileStore) (id : ProfileId) : ProfileStore :=
  { store with unread := Function.update store.unread id true }

variable (store : ProfileStore) (id : ProfileId) (generation : Generation)

/-- A published generation is the profile's own. -/
@[simp] theorem publish_generation :
    (store.publish id generation).generation id = some generation := by
  simp [publish]

/-- It is no other profile's. -/
theorem publish_generation_ne {other : ProfileId} (h : other ≠ id) :
    (store.publish id generation).generation other = store.generation other := by
  simp [publish, h]

/-- What is known of other profiles stays. -/
theorem publish_unread_ne {other : ProfileId} (h : other ≠ id) :
    (store.publish id generation).unread other = store.unread other := by
  simp [publish, h]

/-- A new profile has the generation it was made with. -/
@[simp] theorem insert_generation (activate : Bool) :
    (store.insert id generation activate).generation id = some generation :=
  publish_generation store id generation

/-- A failed load is remembered. -/
@[simp] theorem fail_unread : (store.fail id).unread id = true := by
  simp [fail]

end ProfileStore

/-- The calls of the store. -/
inductive StoreCall where
  | load (id : ProfileId)
  | loadActive
  | findSource (link : Link)
  | replace (id : ProfileId) (snapshot : Snapshot)
  | create (snapshot : Snapshot)
  | add (snapshot : Snapshot)
  | activate (id : ProfileId)
  | delete (id : ProfileId)
  /-- The nodes saved for `groups` groups. -/
  | savedSelections (id : ProfileId) (revision groups : Nat)
  | saveSelection (id : ProfileId) (revision group node : Nat)
  /-- Saves the selections of one generation for the next. -/
  | carryForward (id : ProfileId) (previous next : Generation)
  | list
  deriving DecidableEq

/-- What each call returns. -/
def StoreReply : StoreCall → Type
  | .load _ => Except ProfileError Generation
  | .loadActive => Except ProfileError (Option (ProfileId × Generation))
  | .findSource _ => Except ProfileError (Option ProfileId)
  | .replace _ _ => Stored ℕ+
  | .create _ | .add _ => Stored (ProfileId × ℕ+)
  | .activate _ | .delete _ => Stored Unit
  | .savedSelections .. => List (Option String)
  | .saveSelection .. => Stored Unit
  | .carryForward .. => Bool
  | .list => Bool

/-- The store after a mutation: as it was, or as it was published. -/
def Stored.effect {α : Type} (store : ProfileStore) (publish : α → Option ProfileStore) :
    Stored α → Option ProfileStore
  | .ok value | .committed value => publish value
  | .refused _ => some store

namespace ProfileStore

variable (store : ProfileStore)

/-- Publishes a generation of a profile of the index. -/
def published (id : ProfileId) (snapshot : Snapshot) (revision : ℕ+) : Option ProfileStore :=
  if id ∈ store.profiles then some (store.publish id ⟨revision, snapshot⟩) else none

/-- Adds a profile that is not in the index. -/
def inserted (snapshot : Snapshot) (activate : Bool) : ProfileId × ℕ+ → Option ProfileStore
  | (id, revision) =>
    if id ∈ store.profiles then none else some (store.insert id ⟨revision, snapshot⟩ activate)

/-- What a successful activation makes of the store, where the profile is listed. -/
def activated (id : ProfileId) (_ : Unit) : Option ProfileStore :=
  if h : id ∈ store.profiles then some (store.activate id h) else none

/-- What a successful deletion makes of the store, where the profile is listed. -/
def deleted (id : ProfileId) (_ : Unit) : Option ProfileStore :=
  if id ∈ store.profiles then some (store.delete id) else none

/-- The profile has a generation with this source. -/
def hasSource (link : Link) (id : ProfileId) : Bool :=
  (store.generation id).any fun generation => generation.snapshot.source = some link

/-- The store after a call with a given outcome; `none` for an outcome it cannot have. Any call
may fail, and any mutation may fail before or after it was published. -/
def respond : (call : StoreCall) → StoreReply call → Option ProfileStore
  | .load id, .ok generation =>
    if id ∈ store.profiles ∧ store.generation id = some generation then some store else none
  | .loadActive, .ok none => if store.active = none then some store else none
  | .loadActive, .ok (some (id, generation)) =>
    if store.active = some id ∧ store.generation id = some generation then some store else none
  | .loadActive, .error _ => store.active.map store.fail
  | .findSource link, .ok (some id) =>
    if id ∈ store.profiles ∧ store.hasSource link id then some store else none
  | .replace id snapshot, reply => Stored.effect store (store.published id snapshot) reply
  | .create snapshot, reply => Stored.effect store (store.inserted snapshot true) reply
  | .add snapshot, reply => Stored.effect store (store.inserted snapshot false) reply
  | .activate id, reply => Stored.effect store (store.activated id) reply
  | .delete id, reply => Stored.effect store (store.deleted id) reply
  | .savedSelections _ _ groups, saved => if saved.length = groups then some store else none
  | .load _, .error _ | .findSource _, .ok none | .findSource _, .error _ => some store
  | .saveSelection .., _ | .carryForward .., _ | .list, _ => some store

end ProfileStore

end MultiCore.Backend
