import MultiCore.Daemon.Selecting
import MultiCore.Library.Run

/-!
# Selections survive a refresh

A refresh carries the saved selections to the new generation by the names of
groups and nodes. The groups of a snapshot are those that can be selected in; its
selections are pairs of names.

While connected, selections are saved for the generation that is pending. A
selection whose names still are of one group and of one offered node of it in
every generation stored since is the one in force after the disconnect.
-/

namespace MultiCore.Routes

open Daemon Input Profiles
open Transition (Edge Run)

section Carried

variable (json : SelectionsJson)

/-- The serializer handles everything that is saved. -/
def HandlesSaves : Option (List UInt8) → List SaveCall → Prop
  | _, [] => True
  | file, call :: calls =>
    (∀ persisted, preparedSelections json file call = .ok persisted → json.Handles persisted) ∧
      HandlesSaves (saveSelection json file call).2 calls

/-- The selections that the store has for a generation. -/
def explicitSelections (file : Option (List UInt8)) (revision : UInt64) (snapshot : Snapshot) :
    List (String × String) :=
  named snapshot (restoredSelections json file false revision snapshot)

/-- The store has nothing for a revision. -/
def NoSaves (file : Option (List UInt8)) (revision : UInt64) : Prop :=
  ∀ groupId, savedNode json file revision groupId = none

variable {json} {file : Option (List UInt8)} {revision : UInt64}

theorem NoSaves.current (fresh : NoSaves json file revision) :
    (currentSelections json file revision).selections = [] := by
  cases hselections : (currentSelections json file revision).selections with
  | nil => rfl
  | cons field fields =>
    have hnone := fresh field.1
    have hsome := SortedMap.get_isSome_of_mem (List.mem_cons_self (a := field) (l := fields))
    rw [savedNode, hselections] at hnone
    rw [hnone] at hsome
    exact absurd hsome Bool.false_ne_true

/-- With valid identifiers, room for them, and no fault, a save succeeds. -/
theorem saveSelection_ok (reads : ReadsMaps json) {call : SaveCall}
    (hgroup : (validateSelectionId call.groupId).isOk = true)
    (hnode : (validateSelectionId call.nodeId).isOk = true) (hzero : call.revision ≠ 0)
    (hfault : call.fault = .none)
    (hroom : (currentSelections json file call.revision).selections.length < maxSelections)
    (handles : ∀ persisted, preparedSelections json file call = .ok persisted →
      json.Handles persisted) : (saveSelection json file call).1 = .ok () := by
  have hvalid : ∀ value, (validateSelectionId value).isOk = true →
      validateSelectionId value = .ok () := by
    intro value hvalue
    cases hresult : validateSelectionId value with
    | ok valid => rfl
    | error error =>
      rw [hresult] at hvalue
      exact absurd hvalue Bool.false_ne_true
  have hloading : ¬call.fault = .loading := by
    rw [hfault]
    exact SaveFault.noConfusion
  have hlimit : ¬((SortedMap.get call.groupId
      (currentSelections json file call.revision).selections).isNone &&
        decide (maxSelections ≤
          (currentSelections json file call.revision).selections.length)) = true := by
    rw [Bool.and_eq_true, decide_eq_true_eq, not_and_or, Nat.not_le]
    exact Or.inr hroom
  have hprepared : preparedSelections json file call =
      .ok { currentSelections json file call.revision with
        selections := SortedMap.insert call.groupId call.nodeId
          (currentSelections json file call.revision).selections } := by
    simp only [preparedSelections, bind, Except.bind, hvalid _ hgroup, hvalid _ hnode]
    rw [if_neg hzero, if_neg hloading, if_neg hlimit]
  have hown := (currentSelections_spec reads file call.revision).1
  have hsize := length_toVec_le json (handles _ hprepared)
    (areOf_insert hown hgroup hnode (Or.inr hroom))
  rw [saveSelection, hprepared]
  dsimp only
  rw [if_neg (Nat.not_lt.2 hsize), hfault]

/-- A save for a generation, of a position in its catalog. -/
structure CatalogSave (revision : UInt64) (call : SaveCall) : Prop where
  revision : call.revision = revision
  group : (validateSelectionId call.groupId).isOk = true
  node : (validateSelectionId call.nodeId).isOk = true
  fault : call.fault = .none

/-- Saves for different groups that have room are all made, and nothing else is. -/
theorem saveAll_spec (reads : ReadsMaps json) (hzero : revision ≠ 0) {calls : List SaveCall}
    (hcalls : ∀ call ∈ calls, CatalogSave revision call)
    (hnodup : (calls.map SaveCall.groupId).Nodup)
    (hroom : (currentSelections json file revision).selections.length + calls.length ≤
      maxSelections)
    (handles : HandlesSaves json file calls) :
    (saveAll json file calls).1 = .ok () ∧
      (∀ call ∈ calls,
        savedNode json (saveAll json file calls).2 revision call.groupId = some call.nodeId) ∧
      ∀ groupId, (∀ call ∈ calls, call.groupId ≠ groupId) →
        savedNode json (saveAll json file calls).2 revision groupId =
          savedNode json file revision groupId := by
  induction calls generalizing file with
  | nil => exact ⟨rfl, fun call hcall => absurd hcall List.not_mem_nil, fun _ _ => rfl⟩
  | cons call calls ih =>
    obtain ⟨hrevision, hgroup, hnode, hfault⟩ := hcalls call List.mem_cons_self
    rw [List.map_cons, List.nodup_cons] at hnodup
    rw [List.length_cons] at hroom
    obtain ⟨hhandles, hrest⟩ := handles
    have hok : (saveSelection json file call).1 = .ok () := by
      apply saveSelection_ok reads hgroup hnode (hrevision ▸ hzero) hfault _ hhandles
      rw [hrevision]
      omega
    have hlanded : landed (saveSelection json file call).1 = true := by
      rw [hok]
      rfl
    have hcurrent := currentSelections_save reads hhandles hlanded revision
    rw [if_pos hrevision.symm] at hcurrent
    have hlength : (currentSelections json (saveSelection json file call).2
        revision).selections.length + calls.length ≤ maxSelections := by
      have hinsert := SortedMap.length_insert_le call.groupId call.nodeId
        (currentSelections json file revision).selections
      rw [hcurrent]
      omega
    obtain ⟨hdone, hmade, hothers⟩ := ih (fun other hother => hcalls other
      (List.mem_cons_of_mem _ hother)) hnodup.2 hlength hrest
    have hsaved := fun groupId => savedNode_save reads file hhandles hlanded revision groupId
    have hsaveAll : saveAll json file (call :: calls) =
        saveAll json (saveSelection json file call).2 calls := by
      rw [saveAll]
      generalize saveSelection json file call = saved at hok
      obtain ⟨result, after⟩ := saved
      dsimp only at hok
      rw [hok]
    have hlater : ∀ other ∈ calls, other.groupId ≠ call.groupId := fun other hother heq =>
      hnodup.1 (heq ▸ List.mem_map_of_mem hother)
    rw [hsaveAll]
    refine ⟨hdone, ?_, ?_⟩
    · intro other hother
      rcases List.mem_cons.1 hother with rfl | hother
      · rw [hothers _ hlater, hsaved, SaveCall.landedOn, if_pos hrevision.symm, if_pos rfl]
      · exact hmade other hother
    · intro groupId hgroupId
      have hne : ¬groupId = call.groupId := fun heq =>
        hgroupId call List.mem_cons_self heq.symm
      rw [hothers groupId fun other hother => hgroupId other (List.mem_cons_of_mem _ hother),
        hsaved, SaveCall.landedOn, if_pos hrevision.symm, if_neg hne]

theorem length_named_le (snapshot : Snapshot) (selections : List (Option String)) :
    (named snapshot selections).length ≤ maxCatalogGroups := by
  have hsublist := (names_named_sublist snapshot selections).length_le
  rw [List.length_map, List.length_map] at hsublist
  exact hsublist.trans (length_selectableGroups_le snapshot)

/-- Names that resolve to one group are one name. -/
theorem group_of_ids {snapshot : Snapshot} {group other node node' : String}
    {ids ids' : String × String}
    (h : selectionIdsForNames revision snapshot group node = some ids)
    (k : selectionIdsForNames revision snapshot other node' = some ids')
    (hid : ids.1 = ids'.1) : group = other := by
  obtain ⟨first, firstIndex, _, hfirst, -, -, hids⟩ := selectionIdsForNames_eq_some.1 h
  obtain ⟨second, secondIndex, _, hsecond, -, -, hids'⟩ := selectionIdsForNames_eq_some.1 k
  rw [hids, hids'] at hid
  have hindex := catalogGroupId_inj (index_lt hfirst.1).1 (index_lt hsecond.1).1 hid
  have hsame := hfirst.1
  rw [hindex, hsecond.1, Option.some.injEq] at hsame
  have hname := of_decide_eq_true hfirst.2.1
  have hname' := of_decide_eq_true hsecond.2.1
  rw [← hname, ← hname', hsame]

variable {previousRevision : UInt64} {previous next : Snapshot} {faults : CarryFaults}

theorem mem_carriedSaves {call : SaveCall} :
    call ∈ carriedSaves json file previousRevision previous revision next CarryFaults.none ↔
      ∃ group node ids, (group, node) ∈ explicitSelections json file previousRevision previous ∧
        selectionIdsForNames revision next group node = some ids ∧
        call = ⟨revision, ids.1, ids.2, .none⟩ := by
  rw [carriedSaves, List.mem_filterMap]
  constructor
  · rintro ⟨⟨group, node⟩, hmem, hids⟩
    obtain ⟨ids, hsome, rfl⟩ := Option.map_eq_some_iff.1 hids
    exact ⟨group, node, ids, hmem, hsome, rfl⟩
  · rintro ⟨group, node, ids, hmem, hids, rfl⟩
    exact ⟨(group, node), hmem, Option.map_eq_some_iff.2 ⟨ids, hids, rfl⟩⟩

/-- No two of the saves that carry selections are for one group. -/
theorem nodup_carriedSaves :
    ((carriedSaves json file previousRevision previous revision next faults).map
      SaveCall.groupId).Nodup := by
  have hnames : (named previous (restoredSelections json file faults.readFails previousRevision
      previous)).Pairwise fun first second => first.1 ≠ second.1 := by
    have hnodup := List.Nodup.sublist (names_named_sublist previous
      (restoredSelections json file faults.readFails previousRevision previous))
      (nodup_names previous)
    exact List.pairwise_map.1 hnodup
  rw [List.Nodup, List.pairwise_map, carriedSaves, List.pairwise_filterMap]
  refine hnames.imp ?_
  rintro ⟨group, node⟩ ⟨other, node'⟩ hne call hcall call' hcall' heq
  obtain ⟨ids, hids, rfl⟩ := Option.map_eq_some_iff.1 hcall
  obtain ⟨ids', hids', rfl⟩ := Option.map_eq_some_iff.1 hcall'
  exact hne (group_of_ids hids hids' heq)

theorem catalogSave_of_carried {call : SaveCall}
    (h : call ∈ carriedSaves json file previousRevision previous revision next CarryFaults.none) :
    CatalogSave revision call := by
  obtain ⟨group, node, ids, -, hids, rfl⟩ := mem_carriedSaves.1 h
  obtain ⟨-, groupIndex, nodeIndex, -, -, -, rfl⟩ := selectionIdsForNames_eq_some.1 hids
  exact ⟨rfl, valid_catalogGroupId _ _, valid_catalogNodeId _ _ _, rfl⟩

/-- What the store has for a new generation after a refresh: the selections of the one before
whose names are each of one thing there, which is offered. -/
theorem explicitSelections_carried (reads : ReadsMaps json) (hzero : revision ≠ 0)
    (fresh : NoSaves json file revision)
    (handles : HandlesSaves json file
      (carriedSaves json file previousRevision previous revision next CarryFaults.none)) :
    (carryForwardSelections json file previousRevision previous revision next
        CarryFaults.none).1 = .ok () ∧
      ∀ group node, (group, node) ∈ explicitSelections json
          (carryForwardSelections json file previousRevision previous revision next
            CarryFaults.none).2 revision next ↔
        (group, node) ∈ explicitSelections json file previousRevision previous ∧
          Resolves next group node := by
  have hroom : (currentSelections json file revision).selections.length +
      (carriedSaves json file previousRevision previous revision next
        CarryFaults.none).length ≤ maxSelections := by
    have hlength := List.length_filterMap_le (fun entry : String × String =>
      (selectionIdsForNames revision next entry.1 entry.2).map fun ids =>
        SaveCall.mk revision ids.1 ids.2 .none) (explicitSelections json file previousRevision
          previous)
    have hnamed := length_named_le previous
      (restoredSelections json file false previousRevision previous)
    rw [fresh.current, List.length_nil, Nat.zero_add]
    exact hlength.trans hnamed
  obtain ⟨hdone, hmade, hothers⟩ := saveAll_spec reads hzero
    (fun call hcall => catalogSave_of_carried hcall) nodup_carriedSaves hroom handles
  refine ⟨hdone, fun group node => ?_⟩
  rw [carryForwardSelections, explicitSelections, mem_named]
  simp only [restoredSelections_eq_some reads]
  constructor
  · rintro ⟨groupIndex, selectable, hgroup, hname, selectable', nodeIndex, hgroup', hnode, hoffers,
      hsaved⟩
    rw [hgroup, Option.some.injEq] at hgroup'
    rw [← hgroup'] at hnode hoffers
    by_cases hcall : ∃ call ∈ carriedSaves json file previousRevision previous revision next
        CarryFaults.none, call.groupId = catalogGroupId revision groupIndex
    · obtain ⟨call, hmem, hid⟩ := hcall
      have hnodeId := hmade call hmem
      rw [hid, hsaved, Option.some.injEq] at hnodeId
      obtain ⟨group', node', ids, hexplicit, hids, rfl⟩ := mem_carriedSaves.1 hmem
      obtain ⟨found, foundIndex, foundNode, hfound, hfoundNode, hfoundOffers, rfl⟩ :=
        selectionIdsForNames_eq_some.1 hids
      have hindex := catalogGroupId_inj (index_lt hfound.1).1 (index_lt hgroup).1 hid
      have hsame := hfound.1
      rw [hindex, hgroup, Option.some.injEq] at hsame
      have hfoundName := of_decide_eq_true hfound.2.1
      have hgroupName : group' = group := by
        rw [← hfoundName, ← hsame, hname]
      have hfoundThere := hfoundNode.1
      rw [← hsame] at hfoundThere
      rw [hindex] at hnodeId
      have hnodeIndex := catalogNodeId_inj ((index_lt hgroup).2 hnode)
        ((index_lt hgroup).2 hfoundThere) hnodeId
      rw [← hnodeIndex, hnode, Option.some.injEq] at hfoundThere
      rw [hgroupName, ← hfoundThere] at hexplicit
      rw [hgroupName] at hfound
      rw [← hfoundThere] at hfoundNode
      exact ⟨hexplicit, found, foundIndex, foundNode, hfound, hfoundNode, hfoundOffers⟩
    · have hnone := hothers (catalogGroupId revision groupIndex) fun call hmem heq =>
        hcall ⟨call, hmem, heq⟩
      rw [hsaved, fresh] at hnone
      exact absurd hnone (Option.some_ne_none _)
  · rintro ⟨hexplicit, found, groupIndex, nodeIndex, hgroup, hnode, hoffers⟩
    have hids : selectionIdsForNames revision next group node =
        some (catalogGroupId revision groupIndex, catalogNodeId revision groupIndex nodeIndex) :=
      selectionIdsForNames_eq_some.2 ⟨found, groupIndex, nodeIndex, hgroup, hnode, hoffers, rfl⟩
    have hsaved := hmade _ (mem_carriedSaves.2 ⟨group, node, _, hexplicit, hids, rfl⟩)
    exact ⟨groupIndex, found, hgroup.1, of_decide_eq_true hgroup.2.1, found, nodeIndex, hgroup.1,
      hnode.1, hoffers, hsaved⟩

end Carried

section Sessions

variable (json : SelectionsJson)

/-- What happens while connected. -/
inductive Operation where
  | select (request : SelectionRequest) (answers : SelectAnswers)
  | refresh (revision : UInt64) (next : Snapshot)

/-- One operation while connected. The generation that a refresh stores is new, and no file
operation of it fails. -/
inductive Operates : System → Operation → System → Prop
  | select (system : System) (request : SelectionRequest) (answers : SelectAnswers)
      (handles : ∀ target, system.runtime.target request = .ok target →
        HandlesSaves json system.file
          (system.runtime.saveTarget request target answers.save).toList) :
      Operates system (.select request answers) (select json system request answers).2
  | refresh (system : System) (revision : UInt64) (next : Snapshot)
      (connected : system.runtime.state = .connected) (nonzero : revision ≠ 0)
      (fresh : NoSaves json system.file revision)
      (handles : HandlesSaves json system.file (carriedSaves json system.file system.stored.1
        system.stored.2 revision next CarryFaults.none)) :
      Operates system (.refresh revision next) (refresh json system revision next .clean)

/-- A connection was made, and what is stored is the generation it runs or the pending one. -/
structure InSession (system : System) : Prop where
  state : system.runtime.state = .connected ∨ system.runtime.state = .error
  controller : system.runtime.controller = true
  stored : (system.runtime.pendingSnapshot = none ∧
      system.runtime.snapshot = some system.stored.2 ∧
      system.runtime.catalog.revision = system.stored.1) ∨
    system.runtime.pendingSnapshot = some system.stored

/-- The step is a selection of this node in this group, and succeeds. -/
def Selects (edge : Edge System Operation) (group node : String) : Prop :=
  ∃ request answers target, edge.label = .select request answers ∧
    edge.source.runtime.target request = .ok target ∧ target.group = group ∧
    target.node = node ∧ (select json edge.source request answers).1.isOk = true

/-- The last selection in a group, where the names resolve in the generation that was pending
when it was made and in every one stored afterwards. -/
def LastSelection (edges : List (Edge System Operation)) (group node : String) : Prop :=
  ∃ before edge after, edges = before ++ edge :: after ∧ Selects json edge group node ∧
    (∀ pending, edge.source.runtime.pendingSnapshot = some pending →
      Resolves pending.2 group node) ∧
    ∀ later ∈ after, (∀ other, ¬Selects json later group other) ∧
      ∀ revision next, later.label = .refresh revision next → Resolves next group node

/-- A node is selected in a group, and explicitly. -/
def InForce (runtime : Runtime) (group node : String) : Prop :=
  ∃ snapshot, runtime.snapshot = some snapshot ∧
    (group, node) ∈ named snapshot runtime.selectedNodes ∧
    (group, node) ∈ named snapshot runtime.explicitSelectedNodes

variable {json} {system : System} {request : SelectionRequest} {answers : SelectAnswers}
  {target : Target}

/-- What is saved for a selection: the positions of its names in what is stored. -/
theorem saveTarget_spec (session : InSession system)
    (htarget : system.runtime.target request = .ok target) {fault : SaveFault} {call : SaveCall}
    (hcall : system.runtime.saveTarget request target fault = some call) :
    call.revision = system.stored.1 ∧ ∃ group groupIndex nodeIndex,
      (selectableGroups system.stored.2)[groupIndex]? = some group ∧ group.name = target.group ∧
        group.nodes[nodeIndex]? = some target.node ∧ group.offers nodeIndex = true ∧
        call.groupId = catalogGroupId system.stored.1 groupIndex ∧
        call.nodeId = catalogNodeId system.stored.1 groupIndex nodeIndex := by
  rcases session.stored with ⟨hpending, hsnapshot, hrevision⟩ | hpending
  · rw [Runtime.saveTarget, hpending, Option.some.injEq] at hcall
    obtain ⟨-, -, hrequest, htargetSnapshot, group, nodeIndex, hgroup, hname, hnode, hoffers,
      hgroupId, hnodeId⟩ := target_eq_ok htarget
    rw [hsnapshot, Option.some.injEq] at htargetSnapshot
    rw [← htargetSnapshot] at hgroup
    have hstored := hrequest.trans hrevision
    rw [hstored] at hgroupId hnodeId
    rw [← hcall]
    exact ⟨hstored, group, target.groupIndex, nodeIndex, hgroup, hname, hnode, hoffers, hgroupId,
      hnodeId⟩
  · rw [Runtime.saveTarget, hpending] at hcall
    obtain ⟨ids, hids, rfl⟩ := Option.map_eq_some_iff.1 hcall
    obtain ⟨group, groupIndex, nodeIndex, hgroup, hnode, hoffers, rfl⟩ :=
      selectionIdsForNames_eq_some.1 hids
    exact ⟨rfl, group, groupIndex, nodeIndex, hgroup.1, of_decide_eq_true hgroup.2.1, hnode.1,
      hoffers, rfl, rfl⟩

/-- A refresh that meets no fault stores the new generation, which is pending then. -/
theorem refresh_clean (reads : ReadsMaps json) {revision : UInt64} {next : Snapshot}
    (nonzero : revision ≠ 0) (fresh : NoSaves json system.file revision)
    (handles : HandlesSaves json system.file (carriedSaves json system.file system.stored.1
      system.stored.2 revision next CarryFaults.none)) :
    refresh json system revision next .clean =
      { runtime := { system.runtime with pendingSnapshot := some (revision, next) }
        file := (carryForwardSelections json system.file system.stored.1 system.stored.2 revision
          next CarryFaults.none).2
        stored := (revision, next)
        mihomo := system.mihomo } := by
  have hdone := (explicitSelections_carried reads nonzero fresh handles).1
  have hreload : ¬RefreshAnswers.clean.reloadFails = true := Bool.false_ne_true
  rw [refresh, if_neg hreload]
  have hcarry : RefreshAnswers.clean.carry = CarryFaults.none := rfl
  rw [hcarry]
  generalize carryForwardSelections json system.file system.stored.1 system.stored.2 revision next
    CarryFaults.none = carried at hdone ⊢
  obtain ⟨result, file⟩ := carried
  dsimp only at hdone
  rw [hdone]

theorem InSession.step (reads : ReadsMaps json) {operation : Operation} {after : System}
    (session : InSession system) (h : Operates json system operation after) :
    InSession after := by
  obtain ⟨hstate, hcontroller, hstored⟩ := session
  cases h with
  | select request answers handles =>
    have houtcome := select_outcome json system request answers
    generalize select json system request answers = result at houtcome ⊢
    cases houtcome with
    | refused error wrong => exact ⟨hstate, hcontroller, hstored⟩
    | selectorFailed target named live failed => exact ⟨hstate, hcontroller, hstored⟩
    | saved target named answered result file save hlanded recorded record =>
      obtain ⟨hframeState, -, hframeController, hframeSnapshot, hframePending, hframeRevision⟩ :=
        record_frame json system.runtime file request target (!result.isOk) answers.readFails
      obtain ⟨mihomo, hask⟩ := ask_frame system
        (system.runtime.live answers.coresReady) target answers.selector
      rw [hask, record]
      dsimp only
      rw [← hframeState] at hstate
      rw [← hframeController] at hcontroller
      rw [← hframePending, ← hframeSnapshot, ← hframeRevision] at hstored
      exact ⟨hstate, hcontroller, hstored⟩
    | notSaved target named answered result file save hlanded =>
      obtain ⟨mihomo, hask⟩ := ask_frame system
        (system.runtime.live answers.coresReady) target answers.selector
      rw [hask]
      rcases compensate_cases { system with mihomo := mihomo, file := file }
        (system.runtime.live answers.coresReady) target answers.compensation with
        ⟨after, hafter⟩ | ⟨after, hafter⟩
      · rw [hafter]
        exact ⟨hstate, hcontroller, hstored⟩
      · rw [hafter]
        exact ⟨Or.inr (markError_state _), hcontroller, hstored⟩
  | refresh revision next connected nonzero fresh handles =>
    rw [refresh_clean reads nonzero fresh handles]
    exact ⟨hstate, hcontroller, Or.inr rfl⟩

/-- A selection whose group is not that of a save stays in the store. -/
theorem explicitSelections_of_other (reads : ReadsMaps json) {file after : Option (List UInt8)}
    {revision : UInt64} {snapshot : Snapshot} {group node : String}
    (hsame : ∀ selectable groupIndex,
      (selectableGroups snapshot)[groupIndex]? = some selectable → selectable.name = group →
        savedNode json after revision (catalogGroupId revision groupIndex) =
          savedNode json file revision (catalogGroupId revision groupIndex))
    (h : (group, node) ∈ explicitSelections json file revision snapshot) :
    (group, node) ∈ explicitSelections json after revision snapshot := by
  rw [explicitSelections, mem_named] at h ⊢
  obtain ⟨groupIndex, selectable, hgroup, hname, hrestored⟩ := h
  rw [restoredSelections_eq_some reads] at hrestored
  obtain ⟨selectable', nodeIndex, hgroup', hnode, hoffers, hsaved⟩ := hrestored
  refine ⟨groupIndex, selectable, hgroup, hname, ?_⟩
  rw [restoredSelections_eq_some reads]
  rw [← hsame selectable groupIndex hgroup hname] at hsaved
  exact ⟨selectable', nodeIndex, hgroup', hnode, hoffers, hsaved⟩

/-- A selection that succeeds is in the store, where its names resolve in the pending
generation. -/
theorem explicitSelections_select (reads : ReadsMaps json) (session : InSession system)
    (htarget : system.runtime.target request = .ok target)
    (handles : HandlesSaves json system.file
      (system.runtime.saveTarget request target answers.save).toList)
    (hok : (select json system request answers).1.isOk = true)
    (hpending : ∀ pending, system.runtime.pendingSnapshot = some pending →
      Resolves pending.2 target.group target.node) :
    (target.group, target.node) ∈ explicitSelections json
      (select json system request answers).2.file system.stored.1 system.stored.2 := by
  have hcall : ∃ call, system.runtime.saveTarget request target answers.save = some call := by
    rw [Runtime.saveTarget]
    cases hcase : system.runtime.pendingSnapshot with
    | none => exact ⟨_, rfl⟩
    | some pending =>
      obtain ⟨group, groupIndex, nodeIndex, hgroup, hnode, hoffers⟩ := hpending pending hcase
      have hids : selectionIdsForNames pending.1 pending.2 target.group target.node =
          some (catalogGroupId pending.1 groupIndex,
            catalogNodeId pending.1 groupIndex nodeIndex) :=
        selectionIdsForNames_eq_some.2 ⟨group, groupIndex, nodeIndex, hgroup, hnode, hoffers, rfl⟩
      dsimp only
      rw [hids]
      exact ⟨_, rfl⟩
  obtain ⟨call, hcall⟩ := hcall
  rw [hcall] at handles
  obtain ⟨hrevision, group, groupIndex, nodeIndex, hgroup, hname, hnode, hoffers, hgroupId,
    hnodeId⟩ := saveTarget_spec session htarget hcall
  have houtcome := select_outcome json system request answers
  generalize select json system request answers = result at houtcome hok ⊢
  cases houtcome with
  | refused error wrong => exact absurd hok Bool.false_ne_true
  | selectorFailed target' named live failed => exact absurd hok Bool.false_ne_true
  | notSaved target' named answered result file save hlanded =>
    exact absurd hok Bool.false_ne_true
  | saved target' named answered result file save hlanded recorded record =>
    rw [htarget, Except.ok.injEq] at named
    obtain ⟨mihomo, hask⟩ := ask_frame system
      (system.runtime.live answers.coresReady) target' answers.selector
    rw [hask]
    rw [← named, hcall, saveRoute] at save
    have hsaved := savedNode_save reads system.file handles.1
    rw [save] at hsaved
    have hnow := hsaved hlanded system.stored.1 call.groupId
    rw [SaveCall.landedOn, if_pos hrevision.symm, if_pos rfl, hgroupId, hnodeId] at hnow
    rw [explicitSelections, mem_named]
    refine ⟨groupIndex, group, hgroup, hname, ?_⟩
    rw [restoredSelections_eq_some reads]
    exact ⟨group, nodeIndex, hgroup, hnode, hoffers, hnow⟩

/-- A selection stays in the store over every step that does not select in its group, where its
names resolve in what a refresh stores. -/
theorem explicitSelections_step (reads : ReadsMaps json) {operation : Operation} {after : System}
    {group node : String} (session : InSession system)
    (h : Operates json system operation after)
    (hother : ∀ other, ¬Selects json ⟨system, operation, after⟩ group other)
    (hresolves : ∀ revision next, operation = .refresh revision next → Resolves next group node)
    (hexplicit : (group, node) ∈
      explicitSelections json system.file system.stored.1 system.stored.2) :
    (group, node) ∈ explicitSelections json after.file after.stored.1 after.stored.2 := by
  cases h with
  | refresh revision next connected nonzero fresh handles =>
    rw [refresh_clean reads nonzero fresh handles]
    exact ((explicitSelections_carried reads nonzero fresh handles).2 group node).2
      ⟨hexplicit, hresolves revision next rfl⟩
  | select request answers handles =>
    have hselects : ∀ target, system.runtime.target request = .ok target →
        (select json system request answers).1.isOk = true → target.group ≠ group := by
      intro target htarget hok hgroup
      exact hother target.node ⟨request, answers, target, rfl, htarget, hgroup, rfl, hok⟩
    have houtcome := select_outcome json system request answers
    generalize select json system request answers = outcome at houtcome hselects ⊢
    cases houtcome with
    | refused error wrong => exact hexplicit
    | selectorFailed target named live failed => exact hexplicit
    | notSaved target named answered result file save hlanded =>
      have hfile : file = system.file := by
        cases hcall : system.runtime.saveTarget request target answers.save with
        | none =>
          rw [hcall, saveRoute, Prod.mk.injEq] at save
          rw [← save.1] at hlanded
          exact absurd hlanded.symm Bool.false_ne_true
        | some call =>
          rw [hcall, saveRoute] at save
          have hnot := saveSelection_of_not_landed json system.file call
          rw [save] at hnot
          exact hnot hlanded
      obtain ⟨mihomo, hask⟩ := ask_frame system
        (system.runtime.live answers.coresReady) target answers.selector
      rw [hask, hfile]
      rcases compensate_cases { system with mihomo := mihomo, file := system.file }
        (system.runtime.live answers.coresReady) target answers.compensation with
        ⟨after, hafter⟩ | ⟨after, hafter⟩
      · rw [hafter]
        exact hexplicit
      · rw [hafter]
        exact hexplicit
    | saved target named answered result file save hlanded recorded record =>
      obtain ⟨mihomo, hask⟩ := ask_frame system
        (system.runtime.live answers.coresReady) target answers.selector
      rw [hask]
      cases hcall : system.runtime.saveTarget request target answers.save with
      | none =>
        rw [hcall, saveRoute, Prod.mk.injEq] at save
        rw [← save.2]
        exact hexplicit
      | some call =>
        have hhandles := handles target named
        rw [hcall] at hhandles
        rw [hcall, saveRoute] at save
        have hsaved := savedNode_save reads system.file hhandles.1
        rw [save] at hsaved
        obtain ⟨hrevision, other, otherIndex, nodeIndex, hgroup, hname, -, -, hgroupId, -⟩ :=
          saveTarget_spec session named hcall
        apply explicitSelections_of_other reads _ hexplicit
        intro selectable groupIndex hselectable hselectableName
        have hne : ¬catalogGroupId system.stored.1 groupIndex = call.groupId := by
          intro heq
          rw [hgroupId] at heq
          have hindex := catalogGroupId_inj (index_lt hselectable).1 (index_lt hgroup).1 heq
          rw [hindex, hgroup, Option.some.injEq] at hselectable
          apply hselects target named rfl
          rw [← hname, hselectable, hselectableName]
        have hstays := hsaved hlanded system.stored.1 (catalogGroupId system.stored.1 groupIndex)
        rw [SaveCall.landedOn, if_pos hrevision.symm, if_neg hne] at hstays
        exact hstays

theorem mem_named_initial {file : Option (List UInt8)} {revision : UInt64} {snapshot : Snapshot}
    {group node : String} (h : (group, node) ∈ explicitSelections json file revision snapshot) :
    (group, node) ∈
      named snapshot (initialAndExplicitSelections json file false revision snapshot).1 := by
  rw [explicitSelections, mem_named] at h
  obtain ⟨groupIndex, selectable, hgroup, hname, hrestored⟩ := h
  rw [mem_named]
  refine ⟨groupIndex, selectable, hgroup, hname, ?_⟩
  rw [initialAndExplicitSelections]
  dsimp only
  rw [List.getElem?_zipWith_eq_some]
  refine ⟨selectable.offeredNodes.head?.map Prod.fst, some node, ?_, hrestored, rfl⟩
  rw [defaultSelections, List.getElem?_map, hgroup, Option.map_some]

/-- After the disconnect the selections in force are those of the store. -/
theorem inForce_of_explicit (session : InSession system) {group node : String}
    (h : (group, node) ∈ explicitSelections json system.file system.stored.1 system.stored.2) :
    InForce (disconnect json system .clean).runtime group node := by
  have hstate : ¬(system.runtime.state = .empty ∨ system.runtime.state = .ready) := by
    rcases session.state with hstate | hstate
    · rw [hstate]
      decide
    · rw [hstate]
      decide
  have hcontroller : ¬system.runtime.controller = false := by
    rw [session.controller]
    decide
  have hstop : ¬DisconnectAnswers.clean.stopFails = true := Bool.false_ne_true
  have hload : ¬DisconnectAnswers.clean.loadFails = true := Bool.false_ne_true
  rw [disconnect, if_neg hstate, if_neg hcontroller, if_neg hstop, reconcileAuthoritative,
    if_neg hload]
  dsimp only
  refine ⟨system.stored.2, ?_, ?_, ?_⟩
  · split_ifs <;> rfl
  · have hselected := mem_named_initial h
    split_ifs
    · exact hselected
    · exact hselected
  · split_ifs
    · exact h
    · exact h

/-- Selections survive a refresh, and every sequence of selections and refreshes while
connected. -/
theorem selections_survive (reads : ReadsMaps json) :
    (∀ file previousRevision previous revision next, revision ≠ 0 → NoSaves json file revision →
      HandlesSaves json file
          (carriedSaves json file previousRevision previous revision next CarryFaults.none) →
        (carryForwardSelections json file previousRevision previous revision next
            CarryFaults.none).1 = .ok () ∧
          ∀ group node, (group, node) ∈ explicitSelections json
              (carryForwardSelections json file previousRevision previous revision next
                CarryFaults.none).2 revision next ↔
            (group, node) ∈ explicitSelections json file previousRevision previous ∧
              Resolves next group node) ∧
      ∀ start edges last group node, InSession start → Run (Operates json) start edges last →
        LastSelection json edges group node →
          InForce (disconnect json last .clean).runtime group node := by
  constructor
  · intro file previousRevision previous revision next nonzero fresh handles
    exact explicitSelections_carried reads nonzero fresh handles
  · intro start edges last group node hstart hrun hlast
    obtain ⟨before, edge, after, rfl, ⟨request, answers, target, hlabel, htarget, rfl, rfl, hok⟩,
      hpending, hlater⟩ := hlast
    obtain ⟨hbefore, hstep, hafter⟩ := hrun.split_at
    have hsession := hbefore.invariant hstart fun hsession hstep => hsession.step reads hstep
    have hmade : InSession edge.target ∧ (target.group, target.node) ∈ explicitSelections json
        edge.target.file edge.target.stored.1 edge.target.stored.2 := by
      refine ⟨hsession.step reads hstep, ?_⟩
      rw [hlabel] at hstep
      generalize edge.target = made at hstep ⊢
      cases hstep with
      | select request answers handles =>
        rw [select_stored]
        exact explicitSelections_select reads hsession htarget (handles target htarget) hok hpending
    have hkept : InSession last ∧ (target.group, target.node) ∈ explicitSelections json
        last.file last.stored.1 last.stored.2 := by
      refine Run.invariant_of (I := fun system => InSession system ∧
        (target.group, target.node) ∈ explicitSelections json system.file system.stored.1
          system.stored.2) hafter hmade ?_ hlater
      intro system operation next hinvariant hstep hgood
      exact ⟨hinvariant.1.step reads hstep, explicitSelections_step reads hinvariant.1 hstep
        hgood.1 (fun revision snapshot => hgood.2 revision snapshot) hinvariant.2⟩
    exact inForce_of_explicit hkept.1 hkept.2

end Sessions

section Reordered

/-- A group that offers all of its nodes. -/
def selectGroup (name : String) (nodes : List String) : ProxyGroup :=
  ⟨name, "select", nodes, none, false, nodes.map fun node => ⟨node, true⟩⟩

/-- One group with two nodes. -/
def oneGroup : Snapshot := ⟨⟨["A", "B"], [selectGroup "Route" ["A", "B"]]⟩, by decide⟩

/-- The same group in second place, its nodes in the other order. -/
def twoGroups : Snapshot :=
  ⟨⟨["A", "B"], [selectGroup "Other" ["A"], selectGroup "Route" ["B", "A"]]⟩, by decide⟩

/-- The choice of `B` in the first revision. -/
def savedFirst : PersistedSelections := ⟨1, 1, [(catalogGroupId 1 0, catalogNodeId 1 0 1)]⟩

/-- The choice of `B` in the second revision. -/
def savedSecond : PersistedSelections := ⟨1, 2, [(catalogGroupId 2 1, catalogNodeId 2 1 0)]⟩

/-- The two files, written and read. -/
def routesJson : SelectionsJson := knownJson [savedFirst, savedSecond]

theorem readsMaps_knownJson {known : List PersistedSelections}
    (h : ∀ persisted ∈ known, (persisted.selections.map Prod.fst).Nodup) :
    ReadsMaps (knownJson known) := fun _ persisted hfind =>
  h persisted (List.mem_of_find?_eq_some hfind)

theorem readsMaps_routesJson : ReadsMaps routesJson := by
  apply readsMaps_knownJson
  intro persisted hmem
  simp only [List.mem_cons, List.not_mem_nil, or_false] at hmem
  rcases hmem with rfl | rfl
  · exact List.nodup_singleton _
  · exact List.nodup_singleton _

/-- The request for `B` of the first revision. -/
def chosenRequest : SelectionRequest := ⟨1, catalogGroupId 1 0, catalogNodeId 1 0 1⟩

/-- A selection that the controller takes and the disk stores. -/
def goodAnswers : SelectAnswers := ⟨true, .ok, .ok, .none, false⟩

/-- Connected with the first generation, nothing saved. -/
def connectedFirst : System where
  runtime :=
    { state := .connected
      degraded := false
      controller := true
      snapshot := some oneGroup
      pendingSnapshot := none
      catalog := ⟨1, []⟩
      profile := some "Route"
      currentNode := some "A"
      selectedNodes := [some "A"]
      explicitSelectedNodes := [none]
      warmRevision := none }
  file := none
  stored := (1, oneGroup)
  mihomo := fun _ => "A"

/-- The system in which `B` was chosen. -/
def selectedFirst : System := (select routesJson connectedFirst chosenRequest goodAnswers).2

/-- The system after the refresh to the second revision. -/
def refreshedSecond : System := refresh routesJson selectedFirst 2 twoGroups .clean

theorem stored_connectedFirst : connectedFirst.stored = (1, oneGroup) := rfl

theorem file_selectedFirst :
    selectedFirst.file = some (routesJson.toVec savedFirst) := by decide +kernel

theorem noSaves_second : NoSaves routesJson (some (routesJson.toVec savedFirst)) 2 := by
  have hempty : (currentSelections routesJson (some (routesJson.toVec savedFirst)) 2).selections =
      [] := by decide +kernel
  intro groupId
  rw [savedNode, hempty]
  rfl

theorem handles_first :
    HandlesSaves routesJson none [⟨1, catalogGroupId 1 0, catalogNodeId 1 0 1, .none⟩] := by
  have hprepared : preparedSelections routesJson none
      ⟨1, catalogGroupId 1 0, catalogNodeId 1 0 1, .none⟩ = .ok savedFirst := by decide
  refine ⟨fun persisted h => ?_, trivial⟩
  rw [hprepared, Except.ok.injEq] at h
  rw [← h]
  exact ⟨rfl, by decide⟩

theorem carriedSaves_second :
    carriedSaves routesJson (some (routesJson.toVec savedFirst)) 1 oneGroup 2 twoGroups
      CarryFaults.none = [⟨2, catalogGroupId 2 1, catalogNodeId 2 1 0, .none⟩] := by
  decide +kernel

theorem handles_second :
    HandlesSaves routesJson (some (routesJson.toVec savedFirst))
      [⟨2, catalogGroupId 2 1, catalogNodeId 2 1 0, .none⟩] := by
  have hprepared : preparedSelections routesJson (some (routesJson.toVec savedFirst))
      ⟨2, catalogGroupId 2 1, catalogNodeId 2 1 0, .none⟩ = .ok savedSecond := by decide +kernel
  refine ⟨fun persisted h => ?_, trivial⟩
  rw [hprepared, Except.ok.injEq] at h
  rw [← h]
  exact ⟨rfl, by decide⟩

theorem selections_survive_reordered :
    ((carryForwardSelections routesJson (some (routesJson.toVec savedFirst)) 1 oneGroup 2 twoGroups
        CarryFaults.none).1 = .ok () ∧
      ∀ group node, (group, node) ∈ explicitSelections routesJson
          (carryForwardSelections routesJson (some (routesJson.toVec savedFirst)) 1 oneGroup 2
            twoGroups CarryFaults.none).2 2 twoGroups ↔
        (group, node) ∈ explicitSelections routesJson (some (routesJson.toVec savedFirst)) 1
          oneGroup ∧ Resolves twoGroups group node) ∧
      InForce (disconnect routesJson refreshedSecond .clean).runtime "Route" "B" := by
  have htarget : connectedFirst.runtime.target chosenRequest =
      .ok ⟨oneGroup, 0, "Route", "B"⟩ := by rfl
  have hselect : Operates routesJson connectedFirst (.select chosenRequest goodAnswers)
      selectedFirst := by
    rw [selectedFirst]
    apply Operates.select
    intro target htarget
    have hcall : (connectedFirst.runtime.saveTarget chosenRequest target goodAnswers.save).toList =
        [⟨1, catalogGroupId 1 0, catalogNodeId 1 0 1, .none⟩] := by
      rw [chosenRequest]
      rfl
    rw [hcall]
    exact handles_first
  have hrefresh : Operates routesJson selectedFirst (.refresh 2 twoGroups) refreshedSecond := by
    rw [refreshedSecond]
    apply Operates.refresh
    · decide +kernel
    · decide
    · rw [file_selectedFirst]
      exact noSaves_second
    · rw [file_selectedFirst, selectedFirst, select_stored, stored_connectedFirst]
      dsimp only
      rw [carriedSaves_second]
      exact handles_second
  have hrun : Run (Operates routesJson) connectedFirst
      ([⟨connectedFirst, .select chosenRequest goodAnswers, selectedFirst⟩] ++
        [⟨selectedFirst, .refresh 2 twoGroups, refreshedSecond⟩]) refreshedSecond :=
    (Run.single hselect).snoc hrefresh
  have hids : selectionIdsForNames 2 twoGroups "Route" "B" =
      some (catalogGroupId 2 1, catalogNodeId 2 1 0) := by decide
  obtain ⟨group, groupIndex, nodeIndex, hgroup, hnode, hoffers, -⟩ :=
    selectionIdsForNames_eq_some.1 hids
  have hok : (select routesJson connectedFirst chosenRequest goodAnswers).1.isOk = true := by
    decide +kernel
  have hselects : Selects routesJson
      ⟨connectedFirst, .select chosenRequest goodAnswers, selectedFirst⟩ "Route" "B" :=
    ⟨chosenRequest, goodAnswers, ⟨oneGroup, 0, "Route", "B"⟩, rfl, htarget, rfl, rfl, hok⟩
  have hsession : InSession connectedFirst := ⟨Or.inl rfl, rfl, Or.inl ⟨rfl, rfl, rfl⟩⟩
  have hcarried := (selections_survive readsMaps_routesJson).1
    (some (routesJson.toVec savedFirst)) 1 oneGroup 2 twoGroups (by decide) noSaves_second
    (by rw [carriedSaves_second]; exact handles_second)
  refine ⟨hcarried, (selections_survive readsMaps_routesJson).2 connectedFirst _ _
      "Route" "B" hsession hrun ⟨[], _, _, rfl, hselects, ?_, ?_⟩⟩
  · intro pending hpending
    exact absurd hpending (Option.some_ne_none _).symm
  · intro later hlater
    rw [List.mem_singleton.1 hlater]
    constructor
    · rintro other ⟨request, answers, target, hlabel, -⟩
      exact absurd hlabel Operation.noConfusion
    · intro revision next hlabel
      rw [Operation.refresh.injEq] at hlabel
      rw [← hlabel.2]
      exact ⟨group, groupIndex, nodeIndex, hgroup, hnode, hoffers⟩

end Reordered

end MultiCore.Routes
