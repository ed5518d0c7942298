import Mathlib.Data.List.Nodup
import MultiCore.Library.Text
import MultiCore.Profiles.Selections
import MultiCore.Subscription.GroupMembers

/-!
# Routes

The groups of a configuration whose node a user can choose, and the choices that
the store keeps for them. The daemon speaks of groups and nodes by identifiers
that are made of a revision and of their positions; the store keeps these. A
choice is carried to the next revision by the names of its group and its node.
-/

namespace MultiCore.Routes

open Input Profiles Yaml

/-- `MAX_CATALOG_GROUPS`. -/
def maxCatalogGroups : Nat := 64

/-- `MAX_CATALOG_NODES_PER_GROUP`. -/
def maxCatalogNodesPerGroup : Nat := 256

/-- A configuration whose groups have no two members of one name. -/
structure Snapshot where
  mihomo : MihomoConfig
  distinct : ∀ group ∈ mihomo.groups, (group.members.map GroupMember.name).Nodup

/-- `SelectableGroup`: a group from which a user may choose. -/
structure SelectableGroup where
  name : String
  nodes : List String
  /-- Which of the nodes Mihomo keeps in the group. -/
  offered : List Bool
  hidden : Bool
  deriving DecidableEq, Repr

namespace SelectableGroup

/-- `SelectableGroup::offers`: a hidden group offers nothing. -/
def offers (group : SelectableGroup) (nodeIndex : Nat) : Bool :=
  !group.hidden && (group.offered[nodeIndex]?).getD false

/-- The nodes that can be selected, with their positions. -/
def offeredNodes (group : SelectableGroup) : List (String × Nat) :=
  group.nodes.zipIdx.filter fun (_, index) => group.offers index

end SelectableGroup

/-- The groups whose name was not seen before, each name once. -/
def firstOfName (seen : List String) : List ProxyGroup → List ProxyGroup
  | [] => []
  | group :: groups =>
    if group.name ∈ seen then firstOfName seen groups
    else group :: firstOfName (group.name :: seen) groups

/-- The selectable group of a group of the configuration. -/
def selectable (group : ProxyGroup) : SelectableGroup :=
  let members := group.members.take maxCatalogNodesPerGroup
  ⟨group.name, members.map GroupMember.name, members.map GroupMember.offered, group.hidden⟩

/-- The groups that Mihomo's controller can be told to select in; the first of a name counts. -/
def selectableGroups (snapshot : Snapshot) : List SelectableGroup :=
  (((firstOfName [] snapshot.mihomo.groups).filter fun group =>
    Text.sameName group.groupType "select").take maxCatalogGroups).map selectable

/-- The group the connection card names: the first one that is not hidden. -/
def primaryGroupIndex (groups : List SelectableGroup) : Option Nat :=
  groups.findIdx? fun group => !group.hidden

/-- The positions in a catalog have four digits at most. -/
def catalogGroupId (revision : UInt64) (groupIndex : Nat) : String :=
  String.ofList ('g' :: '-' :: (Text.hexadecimal 16 revision.toNat ++
    '-' :: Text.hexadecimal 4 groupIndex))

/-- `catalog_node_id`: a node by its place in one revision. -/
def catalogNodeId (revision : UInt64) (groupIndex nodeIndex : Nat) : String :=
  String.ofList ('n' :: '-' :: (Text.hexadecimal 16 revision.toNat ++
    '-' :: (Text.hexadecimal 4 groupIndex ++ '-' :: Text.hexadecimal 4 nodeIndex)))

/-- The identifiers of all groups and nodes. -/
def catalogIds (revision : UInt64) (groups : List SelectableGroup) :
    List (String × List String) :=
  groups.zipIdx.map fun (group, groupIndex) =>
    (catalogGroupId revision groupIndex,
      group.nodes.zipIdx.map fun (_, nodeIndex) => catalogNodeId revision groupIndex nodeIndex)

variable (json : SelectionsJson)

/-- The first node that each group offers. -/
def defaultSelections (snapshot : Snapshot) : List (Option String) :=
  (selectableGroups snapshot).map fun group => group.offeredNodes.head?.map Prod.fst

/-- What was selected in each group, by what the store has; nothing when it cannot be read. -/
def restoredSelections (file : Option (List UInt8)) (readFails : Bool) (revision : UInt64)
    (snapshot : Snapshot) : List (Option String) :=
  let groups := selectableGroups snapshot
  let saved :=
    if readFails then [] else validSelections json file revision (catalogIds revision groups)
  groups.zipIdx.map fun (group, groupIndex) =>
    (SortedMap.get (catalogGroupId revision groupIndex) saved).bind fun nodeId =>
      (group.offeredNodes.find? fun (_, nodeIndex) =>
        catalogNodeId revision groupIndex nodeIndex = nodeId).map Prod.fst

/-- What starts selected, and what was chosen by a user. -/
def initialAndExplicitSelections (file : Option (List UInt8)) (readFails : Bool)
    (revision : UInt64) (snapshot : Snapshot) : List (Option String) × List (Option String) :=
  let explicit := restoredSelections json file readFails revision snapshot
  (List.zipWith (fun selected restored => restored.or selected) (defaultSelections snapshot)
    explicit, explicit)

/-- The identifiers of a group and of its node, where the names are those of one each, and the
node is offered. -/
def selectionIdsForNames (revision : UInt64) (snapshot : Snapshot) (groupName nodeName : String) :
    Option (String × String) :=
  match (selectableGroups snapshot).zipIdx.filter fun entry => entry.1.name = groupName with
  | [(group, groupIndex)] =>
    match group.nodes.zipIdx.filter fun entry => entry.1 = nodeName with
    | [(_, nodeIndex)] =>
      if group.offers nodeIndex then
        some (catalogGroupId revision groupIndex, catalogNodeId revision groupIndex nodeIndex)
      else none
    | _ => none
  | _ => none

/-- Selections with the names of their groups. -/
def named (snapshot : Snapshot) (selections : List (Option String)) : List (String × String) :=
  ((selectableGroups snapshot).zip selections).filterMap fun (group, node) =>
    node.map fun node => (group.name, node)

/-- Saves until one fails. -/
def saveAll (file : Option (List UInt8)) :
    List SaveCall → Except SelectionError Unit × Option (List UInt8)
  | [] => (.ok (), file)
  | call :: calls =>
    match saveSelection json file call with
    | (.ok (), saved) => saveAll saved calls
    | (.error error, saved) => (.error error, saved)

/-- The faults of the file system while selections are carried to another revision; those of a
save by the name of its group. -/
structure CarryFaults where
  readFails : Bool
  save : String → SaveFault

/-- A carry in which nothing fails. -/
def CarryFaults.none : CarryFaults := ⟨false, fun _ => .none⟩

/-- The saves that carry selections to the next revision. -/
def carriedSaves (file : Option (List UInt8)) (previousRevision : UInt64) (previous : Snapshot)
    (nextRevision : UInt64) (next : Snapshot) (faults : CarryFaults) : List SaveCall :=
  let saved := restoredSelections json file faults.readFails previousRevision previous
  (named previous saved).filterMap fun (group, node) =>
    (selectionIdsForNames nextRevision next group node).map fun (groupId, nodeId) =>
      ⟨nextRevision, groupId, nodeId, faults.save group⟩

/-- `carry_forward_selections`: the chosen routes of one revision, saved for the next. -/
def carryForwardSelections (file : Option (List UInt8)) (previousRevision : UInt64)
    (previous : Snapshot) (nextRevision : UInt64) (next : Snapshot) (faults : CarryFaults) :
    Except SelectionError Unit × Option (List UInt8) :=
  saveAll json file (carriedSaves json file previousRevision previous nextRevision next faults)

section Positions

variable {α : Type*} {items : List α} {item : α} {index : Nat}

/-- An item is the only one with a property, and stands at a position. -/
def IsOnly (p : α → Bool) (items : List α) (item : α) (index : Nat) : Prop :=
  items[index]? = some item ∧ p item = true ∧
    ∀ other otherIndex, items[otherIndex]? = some other → p other = true → otherIndex = index

theorem filter_zipIdx_eq_singleton (p : α → Bool) :
    (items.zipIdx.filter fun entry => p entry.1) = [(item, index)] ↔
      IsOnly p items item index := by
  have hmem : ∀ other otherIndex,
      (other, otherIndex) ∈ items.zipIdx.filter (fun entry => p entry.1) ↔
        items[otherIndex]? = some other ∧ p other = true := by
    intro other otherIndex
    rw [List.mem_filter, List.mk_mem_zipIdx_iff_getElem?]
  constructor
  · intro h
    have hself := (hmem item index).1 (by rw [h]; exact List.mem_singleton_self _)
    refine ⟨hself.1, hself.2, ?_⟩
    intro other otherIndex hother hp
    have hboth := (hmem other otherIndex).2 ⟨hother, hp⟩
    rw [h, List.mem_singleton, Prod.mk.injEq] at hboth
    exact hboth.2
  · rintro ⟨hitem, hp, honly⟩
    have hnodup : (items.zipIdx.filter fun entry => p entry.1).Nodup := by
      apply List.Nodup.filter
      apply List.Nodup.of_map Prod.snd
      rw [List.zipIdx_map_snd]
      exact List.nodup_range'
    have hperm : (items.zipIdx.filter fun entry => p entry.1).Perm [(item, index)] := by
      rw [List.perm_ext_iff_of_nodup hnodup (List.nodup_singleton _)]
      rintro ⟨other, otherIndex⟩
      rw [hmem, List.mem_singleton, Prod.mk.injEq]
      constructor
      · rintro ⟨hother, hpother⟩
        have hindex := honly other otherIndex hother hpother
        rw [hindex, hitem, Option.some.injEq] at hother
        exact ⟨hother.symm, hindex⟩
      · rintro ⟨rfl, rfl⟩
        exact ⟨hitem, hp⟩
    exact List.perm_singleton.1 hperm

/-- The only item with a property is the first one with it. -/
theorem find?_of_only {p : α → Bool} (hmem : item ∈ items) (hp : p item = true)
    (honly : ∀ other ∈ items, p other = true → other = item) : items.find? p = some item := by
  cases hfind : items.find? p with
  | none => exact absurd hp (List.find?_eq_none.1 hfind item hmem)
  | some found =>
    rw [honly found (List.mem_of_find?_eq_some hfind) (List.find?_some hfind)]

end Positions

section Groups

variable {snapshot : Snapshot}

theorem firstOfName_sublist (seen : List String) (groups : List ProxyGroup) :
    (firstOfName seen groups).Sublist groups := by
  induction groups generalizing seen with
  | nil => exact List.Sublist.refl _
  | cons group groups ih =>
    rw [firstOfName]
    by_cases hseen : group.name ∈ seen
    · rw [if_pos hseen]
      exact (ih seen).cons group
    · rw [if_neg hseen]
      exact (ih (group.name :: seen)).cons_cons group

theorem name_of_mem_firstOfName {seen : List String} {groups : List ProxyGroup}
    {group : ProxyGroup} (h : group ∈ firstOfName seen groups) : group.name ∉ seen := by
  induction groups generalizing seen with
  | nil => exact absurd h List.not_mem_nil
  | cons first groups ih =>
    rw [firstOfName] at h
    by_cases hseen : first.name ∈ seen
    · rw [if_pos hseen] at h
      exact ih h
    · rw [if_neg hseen] at h
      rcases List.mem_cons.1 h with rfl | h
      · exact hseen
      · exact fun hmem => ih h (List.mem_cons_of_mem _ hmem)

theorem nodup_firstOfName (seen : List String) (groups : List ProxyGroup) :
    ((firstOfName seen groups).map ProxyGroup.name).Nodup := by
  induction groups generalizing seen with
  | nil => exact List.nodup_nil
  | cons group groups ih =>
    rw [firstOfName]
    by_cases hseen : group.name ∈ seen
    · rw [if_pos hseen]
      exact ih seen
    · rw [if_neg hseen, List.map_cons, List.nodup_cons]
      refine ⟨?_, ih _⟩
      intro hmem
      obtain ⟨other, hother, hname⟩ := List.mem_map.1 hmem
      exact name_of_mem_firstOfName hother (by rw [hname]; exact List.mem_cons_self)

/-- No two groups that can be selected in have one name. -/
theorem nodup_names (snapshot : Snapshot) :
    ((selectableGroups snapshot).map SelectableGroup.name).Nodup := by
  have hnames : (selectableGroups snapshot).map SelectableGroup.name =
      (((firstOfName [] snapshot.mihomo.groups).filter fun group =>
        Text.sameName group.groupType "select").take maxCatalogGroups).map ProxyGroup.name := by
    rw [selectableGroups, List.map_map]
    rfl
  rw [hnames]
  apply List.Nodup.sublist _ (nodup_firstOfName [] snapshot.mihomo.groups)
  apply List.Sublist.map
  exact (List.take_sublist _ _).trans List.filter_sublist

theorem length_selectableGroups_le (snapshot : Snapshot) :
    (selectableGroups snapshot).length ≤ maxCatalogGroups := by
  rw [selectableGroups, List.length_map, List.length_take]
  exact Nat.min_le_left _ _

/-- What every group that can be selected in is like. -/
theorem of_mem_selectableGroups {group : SelectableGroup}
    (h : group ∈ selectableGroups snapshot) :
    group.nodes.Nodup ∧ group.nodes.length ≤ maxCatalogNodesPerGroup := by
  rw [selectableGroups] at h
  obtain ⟨source, hsource, rfl⟩ := List.mem_map.1 h
  have hgroup : source ∈ snapshot.mihomo.groups := by
    apply (firstOfName_sublist [] _).subset
    exact List.mem_of_mem_filter (List.mem_of_mem_take hsource)
  have hnodup := snapshot.distinct source hgroup
  constructor
  · exact List.Nodup.sublist ((List.take_sublist _ _).map GroupMember.name) hnodup
  · rw [selectable, List.length_map, List.length_take]
    exact Nat.min_le_left _ _

theorem index_of_name {group other : SelectableGroup} {i j : Nat}
    (h : (selectableGroups snapshot)[i]? = some group)
    (k : (selectableGroups snapshot)[j]? = some other) (hname : group.name = other.name) :
    i = j := by
  have hnames := nodup_names snapshot
  obtain ⟨hi, -⟩ := List.getElem?_eq_some_iff.1 h
  have hlength : ((selectableGroups snapshot).map SelectableGroup.name).length =
      (selectableGroups snapshot).length := List.length_map SelectableGroup.name
  rw [← hlength] at hi
  apply (List.getElem?_inj hi hnames).1
  rw [List.getElem?_map, List.getElem?_map, h, k, Option.map_some, Option.map_some, hname]

/-- The positions in a catalog have four digits at most. -/
theorem index_lt {group : SelectableGroup} {i : Nat}
    (h : (selectableGroups snapshot)[i]? = some group) :
    i < 16 ^ 4 ∧ ∀ {j : Nat} {node : String}, group.nodes[j]? = some node → j < 16 ^ 4 := by
  obtain ⟨hi, hgroup⟩ := List.getElem?_eq_some_iff.1 h
  have hlength := length_selectableGroups_le snapshot
  have hnodes := (of_mem_selectableGroups (hgroup ▸ List.getElem_mem hi)).2
  rw [maxCatalogGroups] at hlength
  rw [maxCatalogNodesPerGroup] at hnodes
  constructor
  · omega
  · intro j node hnode
    obtain ⟨hj, -⟩ := List.getElem?_eq_some_iff.1 hnode
    omega

theorem mem_offeredNodes {group : SelectableGroup} {node : String} {i : Nat} :
    (node, i) ∈ group.offeredNodes ↔ group.nodes[i]? = some node ∧ group.offers i = true := by
  rw [SelectableGroup.offeredNodes, List.mem_filter, List.mk_mem_zipIdx_iff_getElem?]

end Groups

section Identifiers

variable {revision : UInt64} {i j k : Nat}

theorem catalogGroupId_inj (hi : i < 16 ^ 4) (hj : j < 16 ^ 4)
    (h : catalogGroupId revision i = catalogGroupId revision j) : i = j := by
  rw [catalogGroupId, catalogGroupId, String.ofList_inj, List.cons.injEq, List.cons.injEq] at h
  have htail := List.append_cancel_left h.2.2
  exact Text.hexadecimal_inj hi hj (List.cons.inj htail).2

theorem catalogNodeId_inj (hj : j < 16 ^ 4) (hk : k < 16 ^ 4)
    (h : catalogNodeId revision i j = catalogNodeId revision i k) : j = k := by
  rw [catalogNodeId, catalogNodeId, String.ofList_inj, List.cons.injEq, List.cons.injEq] at h
  have hgroup := List.append_cancel_left h.2.2
  have hnode := List.append_cancel_left (List.cons.inj hgroup).2
  exact Text.hexadecimal_inj hj hk (List.cons.inj hnode).2

/-- The characters of identifiers. -/
def IsIdChar (c : Char) : Prop := 0x21 ≤ c.toNat ∧ c.toNat ≤ 0x7E ∧ c ≠ '/' ∧ c ≠ '\\'

theorem isIdChar_of_mem_hexadecimal {width n : Nat} {c : Char}
    (h : c ∈ Text.hexadecimal width n) : IsIdChar c := by
  obtain ⟨hlow, hhigh, hback⟩ := Text.range_of_mem_hexadecimal h
  refine ⟨by omega, by omega, ?_, hback⟩
  rintro rfl
  exact absurd hlow (by decide)

theorem isIdChar_letters : IsIdChar 'g' ∧ IsIdChar 'n' ∧ IsIdChar '-' := by
  unfold IsIdChar
  decide

theorem valid_catalogGroupId (revision : UInt64) (i : Nat) :
    (validateSelectionId (catalogGroupId revision i)).isOk = true := by
  have htext : (catalogGroupId revision i).toList = 'g' :: '-' ::
      (Text.hexadecimal 16 revision.toNat ++ '-' :: Text.hexadecimal 4 i) := String.toList_ofList
  apply valid_of_plain
  · rw [htext]
    exact List.cons_ne_nil _ _
  · rw [htext, List.length_cons, List.length_cons, List.length_append, List.length_cons,
      Text.length_hexadecimal, Text.length_hexadecimal]
    decide
  · intro c hc
    rw [htext] at hc
    simp only [List.mem_cons, List.mem_append] at hc
    rcases hc with rfl | rfl | hc | rfl | hc
    · exact isIdChar_letters.1
    · exact isIdChar_letters.2.2
    · exact isIdChar_of_mem_hexadecimal hc
    · exact isIdChar_letters.2.2
    · exact isIdChar_of_mem_hexadecimal hc

theorem valid_catalogNodeId (revision : UInt64) (i j : Nat) :
    (validateSelectionId (catalogNodeId revision i j)).isOk = true := by
  have htext : (catalogNodeId revision i j).toList = 'n' :: '-' ::
      (Text.hexadecimal 16 revision.toNat ++
        '-' :: (Text.hexadecimal 4 i ++ '-' :: Text.hexadecimal 4 j)) := String.toList_ofList
  apply valid_of_plain
  · rw [htext]
    exact List.cons_ne_nil _ _
  · rw [htext, List.length_cons, List.length_cons, List.length_append, List.length_cons,
      List.length_append, List.length_cons, Text.length_hexadecimal, Text.length_hexadecimal,
      Text.length_hexadecimal]
    decide
  · intro c hc
    rw [htext] at hc
    simp only [List.mem_cons, List.mem_append] at hc
    rcases hc with rfl | rfl | hc | rfl | hc | rfl | hc
    · exact isIdChar_letters.2.1
    · exact isIdChar_letters.2.2
    · exact isIdChar_of_mem_hexadecimal hc
    · exact isIdChar_letters.2.2
    · exact isIdChar_of_mem_hexadecimal hc
    · exact isIdChar_letters.2.2
    · exact isIdChar_of_mem_hexadecimal hc

end Identifiers

section Documents

variable {engine : RegexEngine} {mapping : Mapping}

/-- Every document that is accepted is a snapshot. -/
theorem exists_snapshot {config : MihomoConfig} (h : parseMihomo engine mapping = some config) :
    ∃ snapshot : Snapshot, snapshot.mihomo = config := by
  refine ⟨⟨config, ?_⟩, rfl⟩
  intro parsed hparsed
  rw [parseMihomo] at h
  split_ifs at h
  rw [← Option.some.inj h] at hparsed
  obtain ⟨group, -, hgroup⟩ := List.mem_filterMap.1 hparsed
  rw [parseGroup] at hgroup
  split at hgroup
  · rw [← Option.some.inj hgroup]
    exact (ordered_membersOf engine mapping group).nodup
  · exact absurd hgroup (by simp)

end Documents

section Store

variable {json} {file : Option (List UInt8)} {revision : UInt64}

/-- What is read is a map: no key of it stands there twice. -/
def ReadsMaps (json : SelectionsJson) : Prop :=
  ∀ bytes persisted, json.fromSlice bytes = some persisted →
    (persisted.selections.map Prod.fst).Nodup

/-- The node the store has for a group of a revision. -/
def savedNode (json : SelectionsJson) (file : Option (List UInt8)) (revision : UInt64)
    (groupId : String) : Option String :=
  SortedMap.get groupId (currentSelections json file revision).selections

theorem nodup_loaded (reads : ReadsMaps json) {persisted : PersistedSelections}
    (h : loadSelections json file = some persisted) :
    (persisted.selections.map Prod.fst).Nodup := by
  rw [loadSelections, Option.bind_eq_some_iff] at h
  obtain ⟨bytes, -, hbytes⟩ := h
  split_ifs at hbytes
  exact reads bytes persisted hbytes

theorem currentSelections_of_load {persisted : PersistedSelections}
    (h : loadSelections json file = some persisted) :
    currentSelections json file revision =
      if areOf revision persisted = true then persisted
      else ⟨selectionsSchemaVersion, revision, []⟩ := by
  rw [currentSelections, h]
  by_cases hof : areOf revision persisted = true
  · rw [Option.filter_some, if_pos hof, if_pos hof, Option.getD_some]
  · rw [Option.filter_some, if_neg hof, if_neg hof, Option.getD_none]

/-- What the file has of a revision is of that revision, and a map. -/
theorem currentSelections_spec (reads : ReadsMaps json) (file : Option (List UInt8))
    (revision : UInt64) :
    areOf revision (currentSelections json file revision) = true ∧
      (currentSelections json file revision).catalogRevision = revision ∧
      ((currentSelections json file revision).selections.map Prod.fst).Nodup := by
  have hfresh : areOf revision ⟨selectionsSchemaVersion, revision, []⟩ = true := by
    simp [areOf, selectionsAreValid]
  cases hload : loadSelections json file with
  | none =>
    rw [currentSelections, hload]
    exact ⟨hfresh, rfl, List.nodup_nil⟩
  | some persisted =>
    rw [currentSelections_of_load hload]
    by_cases hof : areOf revision persisted = true
    · rw [if_pos hof]
      have hrevision := hof
      rw [areOf, Bool.and_eq_true, Bool.and_eq_true, decide_eq_true_eq, decide_eq_true_eq]
        at hrevision
      exact ⟨hof, hrevision.1.2, nodup_loaded reads hload⟩
    · rw [if_neg hof]
      exact ⟨hfresh, rfl, List.nodup_nil⟩

theorem get_validSelections (reads : ReadsMaps json) (catalog : List (String × List String))
    (groupId : String) :
    SortedMap.get groupId (validSelections json file revision catalog) =
      (savedNode json file revision groupId).filter (inCatalog catalog groupId) := by
  cases hload : loadSelections json file with
  | none =>
    rw [validSelections, savedNode, currentSelections, hload]
    rfl
  | some persisted =>
    rw [validSelections, savedNode, currentSelections_of_load hload, hload]
    dsimp only
    by_cases hof : areOf revision persisted = true
    · rw [if_pos hof, hof, if_neg (by decide), SortedMap.get_filter (nodup_loaded reads hload)]
    · rw [if_neg hof, if_pos (Bool.not_eq_true _ ▸ hof)]
      rfl

/-- A save that is not in the file leaves the file as it is. -/
theorem saveSelection_of_not_landed (json : SelectionsJson) (file : Option (List UInt8))
    (call : SaveCall)
    (h : landed (saveSelection json file call).1 = false) :
    (saveSelection json file call).2 = file := by
  unfold saveSelection at h ⊢
  cases hprepared : preparedSelections json file call with
  | error error => rfl
  | ok persisted =>
    rw [hprepared] at h
    dsimp only at h ⊢
    by_cases hsize : maxSelectionsBytes < (json.toVec persisted).length
    · rw [if_pos hsize]
    · rw [if_neg hsize] at h ⊢
      cases hfault : call.fault with
      | none =>
        rw [hfault] at h
        exact absurd h.symm Bool.false_ne_true
      | loading => rfl
      | beforeReplace => rfl
      | afterReplace =>
        rw [hfault] at h
        exact absurd h.symm Bool.false_ne_true

/-- What the file has of each revision after a save that is in it. -/
theorem currentSelections_save (reads : ReadsMaps json) {call : SaveCall}
    (handles : ∀ persisted, preparedSelections json file call = .ok persisted →
      json.Handles persisted)
    (h : landed (saveSelection json file call).1 = true) (revision : UInt64) :
    (currentSelections json (saveSelection json file call).2 revision).selections =
      if revision = call.revision then
        SortedMap.insert call.groupId call.nodeId
          (currentSelections json file revision).selections
      else [] := by
  cases hprepared : preparedSelections json file call with
  | error error =>
    rw [saveSelection_of_refused hprepared, (preparedSelections_error hprepared).1] at h
    exact absurd h.symm Bool.false_ne_true.symm
  | ok persisted =>
    obtain ⟨hgroup, hnode, hlimit, hpersisted⟩ := preparedSelections_eq_ok hprepared
    obtain ⟨hown, hrevision, -⟩ := currentSelections_spec reads file call.revision
    have hvalid := areOf_insert hown hgroup hnode hlimit
    rw [← hpersisted] at hvalid
    have hpersistedRevision : persisted.catalogRevision = call.revision := by
      rw [hpersisted]
      exact hrevision
    have hself : areOf persisted.catalogRevision persisted = true := by
      rw [hpersistedRevision]
      exact hvalid
    have hhandles := handles persisted hprepared
    have hload := loadSelections_of_handles hhandles hself
    rcases saveSelection_of_prepared hprepared (length_toVec_le json hhandles hvalid) with
      ⟨-, hfile⟩ | ⟨hfailed, -⟩
    · rw [hfile, currentSelections_of_load hload]
      by_cases hcall : revision = call.revision
      · rw [if_pos hcall, if_pos ((areOf_self hself).2 (hpersistedRevision.trans hcall.symm)),
          hpersisted, hcall]
      · rw [if_neg hcall, if_neg fun hof => hcall
          (((areOf_self hself).1 hof).symm.trans hpersistedRevision)]
    · rw [hfailed] at h
      exact absurd h Bool.false_ne_true

/-- What the store has for each group after a save that is in the file. -/
theorem savedNode_save (reads : ReadsMaps json) (file : Option (List UInt8)) {call : SaveCall}
    (handles : ∀ persisted, preparedSelections json file call = .ok persisted →
      json.Handles persisted)
    (h : landed (saveSelection json file call).1 = true) (revision : UInt64) (groupId : String) :
    savedNode json (saveSelection json file call).2 revision groupId =
      call.landedOn (savedNode json file) revision groupId := by
  rw [savedNode, currentSelections_save reads handles h, SaveCall.landedOn]
  by_cases hcall : revision = call.revision
  · rw [if_pos hcall, if_pos hcall]
    by_cases hgroup : groupId = call.groupId
    · rw [if_pos hgroup, hgroup, SortedMap.get_insert_self]
    · rw [if_neg hgroup, SortedMap.get_insert_of_ne hgroup, savedNode]
  · rw [if_neg hcall, if_neg hcall]
    rfl

end Store

section Selections

variable {json} {file : Option (List UInt8)} {revision : UInt64} {snapshot : Snapshot}

theorem length_restoredSelections (readFails : Bool) :
    (restoredSelections json file readFails revision snapshot).length =
      (selectableGroups snapshot).length := by
  rw [restoredSelections, List.length_map, List.length_zipIdx]

/-- A node is restored where the store has its identifier for its group, and it is offered. -/
theorem restoredSelections_eq_some (reads : ReadsMaps json) {groupIndex : Nat} {node : String} :
    (restoredSelections json file false revision snapshot)[groupIndex]? = some (some node) ↔
      ∃ group nodeIndex, (selectableGroups snapshot)[groupIndex]? = some group ∧
        group.nodes[nodeIndex]? = some node ∧ group.offers nodeIndex = true ∧
        savedNode json file revision (catalogGroupId revision groupIndex) =
          some (catalogNodeId revision groupIndex nodeIndex) := by
  rw [restoredSelections, if_neg Bool.false_ne_true, List.getElem?_map, List.getElem?_zipIdx,
    Option.map_map, Option.map_eq_some_iff]
  simp only [Function.comp, Nat.zero_add, get_validSelections reads, Option.bind_eq_some_iff,
    Option.filter_eq_some_iff, Option.map_eq_some_iff]
  constructor
  · rintro ⟨group, hgroup, nodeId, ⟨hsaved, -⟩, ⟨found, nodeIndex⟩, hfind, rfl⟩
    obtain ⟨hnode, hoffers⟩ := mem_offeredNodes.1 (List.mem_of_find?_eq_some hfind)
    have hid := List.find?_some hfind
    rw [decide_eq_true_eq] at hid
    exact ⟨group, nodeIndex, hgroup, hnode, hoffers, hid ▸ hsaved⟩
  · rintro ⟨group, nodeIndex, hgroup, hnode, hoffers, hsaved⟩
    refine ⟨group, hgroup, _, ⟨hsaved, ?_⟩, (node, nodeIndex), ?_, rfl⟩
    · rw [inCatalog, List.any_eq_true]
      refine ⟨_, List.mem_map.2 ⟨(group, groupIndex),
        List.mk_mem_zipIdx_iff_getElem?.2 hgroup, rfl⟩, ?_⟩
      rw [Bool.and_eq_true, decide_eq_true_eq, List.any_eq_true]
      refine ⟨rfl, _, List.mem_map.2 ⟨(node, nodeIndex),
        List.mk_mem_zipIdx_iff_getElem?.2 hnode, rfl⟩, decide_eq_true rfl⟩
    · apply find?_of_only (mem_offeredNodes.2 ⟨hnode, hoffers⟩) (decide_eq_true rfl)
      rintro ⟨other, otherIndex⟩ hmem hid
      obtain ⟨hother, -⟩ := mem_offeredNodes.1 hmem
      have hsame := catalogNodeId_inj ((index_lt hgroup).2 hother) ((index_lt hgroup).2 hnode)
        (of_decide_eq_true hid)
      rw [hsame, hnode, Option.some.injEq] at hother
      rw [hsame, hother]

theorem mem_named {selections : List (Option String)} {group node : String} :
    (group, node) ∈ named snapshot selections ↔
      ∃ (groupIndex : Nat) (selectable : SelectableGroup),
        (selectableGroups snapshot)[groupIndex]? = some selectable ∧ selectable.name = group ∧
          selections[groupIndex]? = some (some node) := by
  rw [named, List.mem_filterMap]
  constructor
  · rintro ⟨⟨selectable, selection⟩, hmem, hboth⟩
    obtain ⟨groupIndex, hzip⟩ := List.mem_iff_getElem?.1 hmem
    obtain ⟨hgroup, hselection⟩ := List.getElem?_zip_eq_some.1 hzip
    obtain ⟨found, hfound, heq⟩ := Option.map_eq_some_iff.1 hboth
    obtain ⟨hname, hnode⟩ := Prod.mk.inj heq
    dsimp only at hselection hfound
    rw [hfound, hnode] at hselection
    exact ⟨groupIndex, selectable, hgroup, hname, hselection⟩
  · rintro ⟨groupIndex, selectable, hgroup, hname, hselection⟩
    refine ⟨(selectable, some node), List.mem_iff_getElem?.2 ⟨groupIndex, ?_⟩, ?_⟩
    · exact List.getElem?_zip_eq_some.2 ⟨hgroup, hselection⟩
    · rw [← hname]
      rfl

theorem names_named_sublist (snapshot : Snapshot) (selections : List (Option String)) :
    ((named snapshot selections).map Prod.fst).Sublist
      ((selectableGroups snapshot).map SelectableGroup.name) := by
  rw [named]
  generalize selectableGroups snapshot = groups
  induction groups generalizing selections with
  | nil => exact List.Sublist.refl _
  | cons group groups ih =>
    cases selections with
    | nil => exact List.nil_sublist _
    | cons selection selections =>
      cases selection with
      | none => exact (ih selections).cons group.name
      | some node => exact (ih selections).cons_cons group.name

/-- A group name is of one group only in a snapshot, and a node name of one node of it only, which
is offered. -/
def Resolves (snapshot : Snapshot) (groupName nodeName : String) : Prop :=
  ∃ group groupIndex nodeIndex,
    IsOnly (fun group => group.name = groupName) (selectableGroups snapshot) group groupIndex ∧
      IsOnly (fun node => node = nodeName) group.nodes nodeName nodeIndex ∧
      group.offers nodeIndex = true

theorem selectionIdsForNames_eq_some {groupName nodeName : String} {ids : String × String} :
    selectionIdsForNames revision snapshot groupName nodeName = some ids ↔
      ∃ group groupIndex nodeIndex,
        IsOnly (fun group => group.name = groupName) (selectableGroups snapshot) group
            groupIndex ∧
          IsOnly (fun node => node = nodeName) group.nodes nodeName nodeIndex ∧
          group.offers nodeIndex = true ∧
          ids = (catalogGroupId revision groupIndex,
            catalogNodeId revision groupIndex nodeIndex) := by
  rw [selectionIdsForNames]
  constructor
  · intro h
    split at h
    · rename_i group groupIndex hgroups
      split at h
      · rename_i node nodeIndex hnodes
        have hgroup := (filter_zipIdx_eq_singleton fun group : SelectableGroup =>
          group.name = groupName).1 hgroups
        have hnode := (filter_zipIdx_eq_singleton fun node : String => node = nodeName).1 hnodes
        split_ifs at h with hoffers
        have hname := of_decide_eq_true hnode.2.1
        rw [hname] at hnode
        exact ⟨group, groupIndex, nodeIndex, hgroup, hnode, hoffers, (Option.some.inj h).symm⟩
      · exact absurd h (by simp)
    · exact absurd h (by simp)
  · rintro ⟨group, groupIndex, nodeIndex, hgroups, hnodes, hoffers, rfl⟩
    rw [(filter_zipIdx_eq_singleton fun group : SelectableGroup =>
      group.name = groupName).2 hgroups]
    dsimp only
    rw [(filter_zipIdx_eq_singleton fun node : String => node = nodeName).2 hnodes]
    dsimp only
    rw [if_pos hoffers]

end Selections

end MultiCore.Routes
