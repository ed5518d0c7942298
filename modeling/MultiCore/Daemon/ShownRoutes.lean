import MultiCore.Daemon.CarriedSelections
import MultiCore.Daemon.Selecting
import MultiCore.Library.Run

/-!
# The shown route

Whether the catalog shows, for every group with an explicit selection, the node
that Mihomo has selected. A connection replays these selections, and one that
cannot be saved is taken back. Two steps break it: a selection that failed may
have been made all the same, and nothing takes it back; and after a save with a
maintenance debt the selections are read again, and with them such as were never
asked of Mihomo.
-/

namespace MultiCore.Routes

open Daemon Profiles
open Transition (Edge Run)

/-- The node that the catalog shows as selected in a group. -/
def Runtime.shown (runtime : Runtime) (groupIndex : Nat) : Option String :=
  runtime.snapshot.bind fun snapshot =>
    ((selectableGroups snapshot)[groupIndex]?).bind fun group =>
      (runtime.catalog.groups.find? fun shown =>
          shown.id = catalogGroupId runtime.catalog.revision groupIndex).bind fun shown =>
        (shown.nodes.find? NodeDto.selected).bind fun node =>
          (group.nodes.zipIdx.find? fun entry =>
            catalogNodeId runtime.catalog.revision groupIndex entry.2 = node.id).map Prod.fst

/-- While connected and not degraded, the node that is shown in a group with an explicit
selection is the one that Mihomo has selected in it. -/
def ShownIsLive (system : System) : Prop :=
  system.runtime.state = .connected → system.runtime.degraded = false →
    ∀ snapshot group groupIndex node, system.runtime.snapshot = some snapshot →
      (selectableGroups snapshot)[groupIndex]? = some group →
        selectedAt system.runtime.explicitSelectedNodes groupIndex = some node →
          system.runtime.shown groupIndex = some (system.mihomo group.name)

/-- What happens to the daemon and its store. -/
inductive RouteOperation where
  | connect (answers : ConnectAnswers)
  | select (request : SelectionRequest) (answers : SelectAnswers)
  | disconnect (answers : DisconnectAnswers)
  | refresh (revision : UInt64) (next : Snapshot) (answers : RefreshAnswers)

variable (json : SelectionsJson)

/-- One operation. The serializer handles what a selection saves. -/
inductive RouteStep : System → RouteOperation → System → Prop
  | connect (system : System) (answers : ConnectAnswers) :
      RouteStep system (.connect answers) (connect system answers)
  | select (system : System) (request : SelectionRequest) (answers : SelectAnswers)
      (handles : ∀ target call, system.runtime.target request = .ok target →
        system.runtime.saveTarget request target answers.save = some call →
          ∀ persisted, preparedSelections json system.file call = .ok persisted →
            json.Handles persisted) :
      RouteStep system (.select request answers) (select json system request answers).2
  | disconnect (system : System) (answers : DisconnectAnswers) :
      RouteStep system (.disconnect answers) (disconnect json system answers)
  | refresh (system : System) (revision : UInt64) (next : Snapshot) (answers : RefreshAnswers)
      (connected : system.runtime.state = .connected) :
      RouteStep system (.refresh revision next answers)
        (refresh json system revision next answers)

/-- The store accepts a selection, fails once it is saved, and is read again. -/
def ReadsAgain (system : System) (request : SelectionRequest) (answers : SelectAnswers) : Prop :=
  system.runtime.pendingSnapshot = none ∧ answers.save = .afterReplace ∧
    answers.readFails = false ∧
    (preparedSelections json system.file
      ⟨request.revision, request.groupId, request.nodeId, .afterReplace⟩).isOk = true

/-- While connected, a selection that fails is not made, unless the node is the one that was
explicitly selected or none was; and when the selections are read again, Mihomo has those that
the store has for the other groups. -/
def Regular (edge : Edge System RouteOperation) : Prop :=
  ∀ request answers target, edge.label = .select request answers →
    edge.source.runtime.target request = .ok target → edge.source.runtime.state = .connected →
      (answers.selector = .failed true → ∀ node,
        selectedAt edge.source.runtime.explicitSelectedNodes target.groupIndex = some node →
          target.node = node) ∧
      (answers.selector = .ok → ReadsAgain json edge.source request answers →
        ∀ group groupIndex node, (selectableGroups target.snapshot)[groupIndex]? = some group →
          groupIndex ≠ target.groupIndex →
            selectedAt (restoredSelections json edge.source.file false request.revision
              target.snapshot) groupIndex = some node →
              edge.source.mihomo group.name = node)

section Consistency

/-- The catalog is that of the selected nodes, and an explicit selection is an offered node that is
selected. -/
structure Consistent (runtime : Runtime) : Prop where
  catalog : ∀ snapshot, runtime.snapshot = some snapshot →
    runtime.catalog = buildCatalog snapshot runtime.catalog.revision runtime.profile
      runtime.selectedNodes
  length : ∀ snapshot, runtime.snapshot = some snapshot →
    runtime.selectedNodes.length = (selectableGroups snapshot).length
  explicit : ∀ snapshot groupIndex node, runtime.snapshot = some snapshot →
    selectedAt runtime.explicitSelectedNodes groupIndex = some node →
      selectedAt runtime.selectedNodes groupIndex = some node ∧
        ∃ group nodeIndex, (selectableGroups snapshot)[groupIndex]? = some group ∧
          group.nodes[nodeIndex]? = some node ∧ group.offers nodeIndex = true

theorem selectedAt_eq_some {selections : List (Option String)} {groupIndex : Nat}
    {node : String} :
    selectedAt selections groupIndex = some node ↔ selections[groupIndex]? = some (some node) := by
  rw [selectedAt, Option.join_eq_some_iff]

/-- What is shown in a group whose selected node is offered is that node. -/
theorem shown_eq {runtime : Runtime} {snapshot : Snapshot} {group : SelectableGroup}
    {groupIndex nodeIndex : Nat} {node : String} (consistent : Consistent runtime)
    (hsnapshot : runtime.snapshot = some snapshot)
    (hgroup : (selectableGroups snapshot)[groupIndex]? = some group)
    (hselected : selectedAt runtime.selectedNodes groupIndex = some node)
    (hnode : group.nodes[nodeIndex]? = some node) (hoffers : group.offers nodeIndex = true) :
    runtime.shown groupIndex = some node := by
  have hhidden : (!group.hidden) = true := by
    rw [SelectableGroup.offers, Bool.and_eq_true] at hoffers
    exact hoffers.1
  have hnodup : group.nodes.Nodup := by
    obtain ⟨hi, hmem⟩ := List.getElem?_eq_some_iff.1 hgroup
    exact (of_mem_selectableGroups (hmem ▸ List.getElem_mem hi)).1
  have hindex : group.nodes.findIdx? (fun other => other = node) = some nodeIndex := by
    obtain ⟨hlt, hget⟩ := List.getElem?_eq_some_iff.1 hnode
    rw [List.findIdx?_eq_some_iff_getElem]
    refine ⟨hlt, decide_eq_true hget, ?_⟩
    intro other hother heq
    have hsame := (List.Nodup.getElem_inj_iff hnodup).1 ((of_decide_eq_true heq).trans hget.symm)
    omega
  have hcatalog := consistent.catalog snapshot hsnapshot
  rw [Runtime.shown, hsnapshot, Option.bind_some, hgroup, Option.bind_some, hcatalog, buildCatalog]
  dsimp only
  rw [List.find?_map]
  have hfindGroup : ((selectableGroups snapshot).zipIdx.filter fun entry => !entry.1.hidden).find?
      (fun entry => decide (catalogGroupId runtime.catalog.revision entry.2 =
        catalogGroupId runtime.catalog.revision groupIndex)) = some (group, groupIndex) := by
    apply find?_of_only
    · exact List.mem_filter.2 ⟨List.mk_mem_zipIdx_iff_getElem?.2 hgroup, hhidden⟩
    · exact decide_eq_true rfl
    · rintro ⟨other, otherIndex⟩ hother hid
      have hthere := List.mk_mem_zipIdx_iff_getElem?.1 (List.mem_of_mem_filter hother)
      have hsame := catalogGroupId_inj (index_lt hthere).1 (index_lt hgroup).1
        (of_decide_eq_true hid)
      rw [hsame, hgroup, Option.some.injEq] at hthere
      rw [hsame, hthere]
  have hfindNode : group.offeredNodes.find? (fun entry =>
      decide (some nodeIndex = some entry.2)) = some (node, nodeIndex) := by
    apply find?_of_only (mem_offeredNodes.2 ⟨hnode, hoffers⟩) (decide_eq_true rfl)
    rintro ⟨other, otherIndex⟩ hother hid
    have hsame := Option.some.inj (of_decide_eq_true hid)
    have hthere := (mem_offeredNodes.1 hother).1
    dsimp only at hsame
    rw [← hsame, hnode, Option.some.injEq] at hthere
    rw [← hsame, hthere]
  have hfindName : group.nodes.zipIdx.find? (fun entry =>
      decide (catalogNodeId runtime.catalog.revision groupIndex entry.2 =
        catalogNodeId runtime.catalog.revision groupIndex nodeIndex)) =
        some (node, nodeIndex) := by
    apply find?_of_only (List.mk_mem_zipIdx_iff_getElem?.2 hnode) (decide_eq_true rfl)
    rintro ⟨other, otherIndex⟩ hother hid
    have hthere := List.mk_mem_zipIdx_iff_getElem?.1 hother
    have hsame := catalogNodeId_inj ((index_lt hgroup).2 hthere) ((index_lt hgroup).2 hnode)
      (of_decide_eq_true hid)
    rw [hsame, hnode, Option.some.injEq] at hthere
    rw [hsame, hthere]
  simp only [Function.comp_def]
  rw [hfindGroup, Option.map_some, Option.bind_some, hselected, Option.bind_some, hindex,
    List.find?_map]
  simp only [Function.comp_def]
  rw [hfindNode, Option.map_some, Option.bind_some, hfindName, Option.map_some]

/-- While connected and not degraded, Mihomo has every explicit selection. -/
def Agrees (system : System) : Prop :=
  system.runtime.state = .connected → system.runtime.degraded = false →
    ∀ snapshot group groupIndex node, system.runtime.snapshot = some snapshot →
      (selectableGroups snapshot)[groupIndex]? = some group →
        selectedAt system.runtime.explicitSelectedNodes groupIndex = some node →
          system.mihomo group.name = node

theorem shownIsLive_iff {system : System} (consistent : Consistent system.runtime) :
    ShownIsLive system ↔ Agrees system := by
  have hshown : ∀ snapshot group groupIndex node, system.runtime.snapshot = some snapshot →
      (selectableGroups snapshot)[groupIndex]? = some group →
        selectedAt system.runtime.explicitSelectedNodes groupIndex = some node →
          system.runtime.shown groupIndex = some node := by
    intro snapshot group groupIndex node hsnapshot hgroup hexplicit
    obtain ⟨hselected, found, nodeIndex, hfound, hnode, hoffers⟩ :=
      consistent.explicit snapshot groupIndex node hsnapshot hexplicit
    exact shown_eq consistent hsnapshot hfound hselected hnode hoffers
  constructor
  · intro h hstate hdegraded snapshot group groupIndex node hsnapshot hgroup hexplicit
    have hlive := h hstate hdegraded snapshot group groupIndex node hsnapshot hgroup hexplicit
    rw [hshown snapshot group groupIndex node hsnapshot hgroup hexplicit,
      Option.some.injEq] at hlive
    exact hlive.symm
  · intro h hstate hdegraded snapshot group groupIndex node hsnapshot hgroup hexplicit
    rw [hshown snapshot group groupIndex node hsnapshot hgroup hexplicit,
      h hstate hdegraded snapshot group groupIndex node hsnapshot hgroup hexplicit]

/-- What is restored in a group is an offered node of it. -/
theorem offered_of_restored {file : Option (List UInt8)} {readFails : Bool} {revision : UInt64}
    {snapshot : Snapshot} {groupIndex : Nat} {node : String}
    (h : selectedAt (restoredSelections json file readFails revision snapshot) groupIndex =
      some node) :
    ∃ group nodeIndex, (selectableGroups snapshot)[groupIndex]? = some group ∧
      group.nodes[nodeIndex]? = some node ∧ group.offers nodeIndex = true := by
  rw [selectedAt_eq_some, restoredSelections, List.getElem?_map, List.getElem?_zipIdx,
    Option.map_map, Option.map_eq_some_iff] at h
  obtain ⟨group, hgroup, hfound⟩ := h
  obtain ⟨nodeId, -, hmap⟩ := Option.bind_eq_some_iff.1 hfound
  obtain ⟨⟨other, nodeIndex⟩, hfind, hother⟩ := Option.map_eq_some_iff.1 hmap
  obtain ⟨hnode, hoffers⟩ := mem_offeredNodes.1 (List.mem_of_find?_eq_some hfind)
  dsimp only at hother
  rw [hother] at hnode
  exact ⟨group, nodeIndex, hgroup, hnode, hoffers⟩

/-- Selections that are installed: one for each group, the explicit ones among them. -/
theorem initialSelections_spec (file : Option (List UInt8)) (readFails : Bool)
    (revision : UInt64) (snapshot : Snapshot) :
    (initialAndExplicitSelections json file readFails revision snapshot).1.length =
        (selectableGroups snapshot).length ∧
      ∀ groupIndex node,
        selectedAt (initialAndExplicitSelections json file readFails revision snapshot).2
            groupIndex = some node →
          selectedAt (initialAndExplicitSelections json file readFails revision snapshot).1
              groupIndex = some node ∧
            ∃ group nodeIndex, (selectableGroups snapshot)[groupIndex]? = some group ∧
              group.nodes[nodeIndex]? = some node ∧ group.offers nodeIndex = true := by
  rw [initialAndExplicitSelections]
  dsimp only
  constructor
  · rw [List.length_zipWith, defaultSelections, List.length_map, length_restoredSelections,
      Nat.min_self]
  · intro groupIndex node h
    obtain ⟨group, nodeIndex, hgroup, hnode, hoffers⟩ := offered_of_restored json h
    refine ⟨?_, group, nodeIndex, hgroup, hnode, hoffers⟩
    rw [selectedAt_eq_some] at h ⊢
    rw [List.getElem?_zipWith_eq_some]
    refine ⟨group.offeredNodes.head?.map Prod.fst, some node, ?_, h, rfl⟩
    rw [defaultSelections, List.getElem?_map, hgroup, Option.map_some]

variable {json} {system : System}

/-- What is stored is installed consistently, and not connected. -/
theorem consistent_reconcile (json : SelectionsJson) (system : System)
    (loadFails readFails : Bool) :
    Consistent (reconcileAuthoritative json system loadFails readFails).runtime ∧
      (reconcileAuthoritative json system loadFails readFails).runtime.state ≠ .connected := by
  rw [reconcileAuthoritative]
  by_cases hload : loadFails = true
  · rw [if_pos hload]
    exact ⟨⟨fun _ h => absurd h.symm (Option.some_ne_none _), fun _ h =>
      absurd h.symm (Option.some_ne_none _), fun _ _ _ h => absurd h.symm
        (Option.some_ne_none _)⟩, ConnectionState.noConfusion⟩
  · rw [if_neg hload]
    obtain ⟨hlength, hexplicit⟩ := initialSelections_spec json system.file readFails
      system.stored.1 system.stored.2
    have hconsistent : Consistent (system.runtime.clearForActive.applySnapshot system.stored.2
        system.stored.1 (initialAndExplicitSelections json system.file readFails system.stored.1
          system.stored.2)) := by
      constructor
      · intro snapshot hsnapshot
        rw [← Option.some.inj hsnapshot]
        rfl
      · intro snapshot hsnapshot
        rw [← Option.some.inj hsnapshot]
        exact hlength
      · intro snapshot groupIndex node hsnapshot h
        rw [← Option.some.inj hsnapshot]
        exact hexplicit groupIndex node h
    dsimp only
    split_ifs
    · exact ⟨⟨hconsistent.catalog, hconsistent.length, hconsistent.explicit⟩,
        ConnectionState.noConfusion⟩
    · exact ⟨hconsistent, ConnectionState.noConfusion⟩

/-- A change of the state of the connection leaves the runtime consistent. -/
theorem Consistent.of_same {runtime after : Runtime} (h : Consistent runtime)
    (hcatalog : after.catalog = runtime.catalog) (hsnapshot : after.snapshot = runtime.snapshot)
    (hprofile : after.profile = runtime.profile)
    (hselected : after.selectedNodes = runtime.selectedNodes)
    (hexplicit : after.explicitSelectedNodes = runtime.explicitSelectedNodes) :
    Consistent after := by
  constructor
  · rw [hcatalog, hsnapshot, hprofile, hselected]
    exact h.catalog
  · rw [hsnapshot, hselected]
    exact h.length
  · rw [hsnapshot, hselected, hexplicit]
    exact h.explicit

theorem selectedAt_set {selections : List (Option String)} {i j : Nat} {node : String} :
    selectedAt (selections.set i (some node)) j =
      if i = j ∧ i < selections.length then some node else selectedAt selections j := by
  rw [selectedAt, selectedAt, List.getElem?_set]
  by_cases hindex : i = j
  · rw [if_pos hindex]
    by_cases hlt : i < selections.length
    · rw [if_pos hlt, if_pos ⟨hindex, hlt⟩]
      rfl
    · rw [if_neg hlt, if_neg fun h => hlt h.2, ← hindex, List.getElem?_eq_none (by omega)]
  · rw [if_neg hindex, if_neg fun h => hindex h.1]

/-- A selection that is saved is shown consistently. -/
theorem Consistent.record {request : SelectionRequest} {target : Target}
    {file : Option (List UInt8)} {maintenanceDebt readFails : Bool}
    (h : Consistent system.runtime) (htarget : system.runtime.target request = .ok target) :
    Consistent (system.runtime.record json file request target maintenanceDebt readFails) := by
  obtain ⟨-, -, -, hsnapshot, group, nodeIndex, hgroup, -, hnode, hoffers, -, -⟩ :=
    target_eq_ok htarget
  rw [Runtime.record]
  dsimp only
  by_cases hdebt : (maintenanceDebt && system.runtime.pendingSnapshot.isNone) = true
  · rw [if_pos hdebt]
    obtain ⟨hlength, hexplicit⟩ := initialSelections_spec json file readFails request.revision
      target.snapshot
    constructor
    · intro snapshot hsome
      have hsame : system.runtime.snapshot = some snapshot := hsome
      rw [Runtime.rebuildCatalog, hsame]
      rfl
    · intro snapshot hsome
      have hsame : system.runtime.snapshot = some snapshot := hsome
      rw [hsnapshot, Option.some.injEq] at hsame
      rw [← hsame]
      exact hlength
    · intro snapshot groupIndex node hsome hselected
      have hsame : system.runtime.snapshot = some snapshot := hsome
      rw [hsnapshot, Option.some.injEq] at hsame
      rw [← hsame]
      exact hexplicit groupIndex node hselected
  · rw [if_neg hdebt]
    constructor
    · intro snapshot hsome
      have hsame : system.runtime.snapshot = some snapshot := hsome
      rw [Runtime.rebuildCatalog, hsame]
      rfl
    · intro snapshot hsome
      have hsame : system.runtime.snapshot = some snapshot := hsome
      have hlength := h.length snapshot hsame
      rw [Runtime.rebuildCatalog]
      dsimp only
      rw [List.length_set]
      exact hlength
    · intro snapshot groupIndex node hsome hselected
      have hsame : system.runtime.snapshot = some snapshot := hsome
      have hlength := h.length snapshot hsame
      have hold := h.explicit snapshot groupIndex node hsame
      rw [hsnapshot, Option.some.injEq] at hsame
      rw [← hsame] at hlength hold ⊢
      rw [Runtime.rebuildCatalog] at hselected ⊢
      dsimp only at hselected ⊢
      rw [selectedAt_set] at hselected ⊢
      have hlt : target.groupIndex < system.runtime.selectedNodes.length := by
        rw [hlength]
        exact (List.getElem?_eq_some_iff.1 hgroup).1
      by_cases hindex : target.groupIndex = groupIndex
      · rw [if_pos ⟨hindex, hlt⟩]
        rw [← hindex] at hold hselected ⊢
        by_cases hroom : target.groupIndex < system.runtime.explicitSelectedNodes.length
        · rw [if_pos ⟨rfl, hroom⟩, Option.some.injEq] at hselected
          rw [← hselected]
          exact ⟨rfl, group, nodeIndex, hgroup, hnode, hoffers⟩
        · rw [if_neg fun hboth => hroom hboth.2] at hselected
          have hnone : selectedAt system.runtime.explicitSelectedNodes target.groupIndex =
              none := by
            rw [selectedAt, List.getElem?_eq_none (by omega)]
            rfl
          rw [hnone] at hselected
          exact absurd hselected.symm (Option.some_ne_none _)
      · rw [if_neg fun hboth => hindex hboth.1] at hselected ⊢
        exact hold hselected

end Consistency

section Steps

variable {json} {system : System}

theorem replay_spec {selector : String → Answer} {mihomo : String → String}
    {queued : List (String × String)} (hnodup : (queued.map Prod.fst).Nodup)
    (h : (replay selector mihomo queued).1 = true) :
    (∀ entry ∈ queued, (replay selector mihomo queued).2 entry.1 = entry.2) ∧
      ∀ group, (∀ entry ∈ queued, entry.1 ≠ group) →
        (replay selector mihomo queued).2 group = mihomo group := by
  induction queued generalizing mihomo with
  | nil => exact ⟨fun _ hentry => absurd hentry List.not_mem_nil, fun _ _ => rfl⟩
  | cons first queued ih =>
    obtain ⟨group, node⟩ := first
    rw [replay] at h ⊢
    rw [List.map_cons, List.nodup_cons] at hnodup
    cases hanswer : selector group with
    | failed applied =>
      rw [hanswer] at h
      exact absurd h Bool.false_ne_true
    | ok =>
      have herror : ¬Answer.ok.isError = true := Bool.false_ne_true
      rw [hanswer, if_neg herror] at h
      rw [if_neg herror]
      obtain ⟨hqueued, hother⟩ := ih hnodup.2 h
      constructor
      · intro entry hentry
        rcases List.mem_cons.1 hentry with rfl | hentry
        · have hlater : ∀ later ∈ queued, later.1 ≠ group := by
            intro later hmem heq
            exact hnodup.1 (List.mem_map.2 ⟨later, hmem, heq⟩)
          rw [hother group hlater]
          exact Function.update_self _ _ _
        · exact hqueued entry hentry
      · intro other hne
        rw [hother other fun entry hentry => hne entry (List.mem_cons_of_mem _ hentry)]
        exact Function.update_of_ne (hne (group, node) List.mem_cons_self).symm _ _

theorem nodup_named (snapshot : Snapshot) (selections : List (Option String)) :
    ((named snapshot selections).map Prod.fst).Nodup :=
  List.Nodup.sublist (names_named_sublist snapshot selections) (nodup_names snapshot)

theorem consistent_connect (answers : ConnectAnswers) (h : Consistent system.runtime) :
    Consistent (connect system answers).runtime := by
  unfold connect
  split
  · exact h
  · split
    · exact h
    · dsimp only
      cases answers.start with
      | notPrepared => exact h
      | stopFailed => exact h.of_same rfl rfl rfl rfl rfl
      | startFailed rollbackFailed =>
        cases rollbackFailed with
        | true => exact h.of_same rfl rfl rfl rfl rfl
        | false => exact h.of_same rfl rfl rfl rfl rfl
      | started =>
        dsimp only
        split
        · exact h.of_same rfl rfl rfl rfl rfl
        · split
          · exact h.of_same rfl rfl rfl rfl rfl
          · exact h.of_same rfl rfl rfl rfl rfl

/-- A connection has Mihomo select what is explicit. -/
theorem agrees_connect (answers : ConnectAnswers) (h : Agrees system) :
    Agrees (connect system answers) := by
  unfold connect
  split
  · exact h
  · split
    · exact h
    · rename_i snapshot hsnapshot
      dsimp only
      cases answers.start with
      | notPrepared => exact h
      | stopFailed => exact fun hstate => absurd hstate (markError_ne_connected _)
      | startFailed rollbackFailed =>
        dsimp only
        split
        · exact fun hstate => absurd hstate (markError_ne_connected _)
        · exact fun hstate => absurd hstate ConnectionState.noConfusion
      | started =>
        dsimp only
        split
        · rename_i hreplayed
          obtain ⟨hqueued, -⟩ := replay_spec (nodup_named _ _) hreplayed
          intro hstate hdegraded other group groupIndex node hother hgroup hexplicit
          have hsame : system.runtime.snapshot = some other := hother
          rw [hsnapshot, Option.some.injEq] at hsame
          rw [← hsame] at hgroup
          have hmem : (group.name, node) ∈ named snapshot system.runtime.explicitSelectedNodes :=
            mem_named.2 ⟨groupIndex, group, hgroup, rfl, selectedAt_eq_some.1 hexplicit⟩
          exact hqueued (group.name, node) hmem
        · split
          · exact fun hstate => absurd hstate (markError_ne_connected _)
          · exact fun hstate => absurd hstate ConnectionState.noConfusion

theorem consistent_disconnect (answers : DisconnectAnswers) (h : Consistent system.runtime) :
    Consistent (disconnect json system answers).runtime := by
  unfold disconnect
  split_ifs
  · exact h
  · exact h
  · exact h.of_same rfl rfl rfl rfl rfl
  · exact (consistent_reconcile json _ _ _).1

theorem agrees_disconnect (answers : DisconnectAnswers) (h : Agrees system) :
    Agrees (disconnect json system answers) := by
  unfold disconnect
  split_ifs
  · exact h
  · exact h
  · exact fun hstate => absurd hstate (markError_ne_connected _)
  · exact fun hstate => absurd hstate (consistent_reconcile json _ _ _).2

/-- A refresh changes nothing that is shown. -/
theorem refresh_frame (json : SelectionsJson) (system : System) (revision : UInt64)
    (next : Snapshot) (answers : RefreshAnswers) :
    (refresh json system revision next answers).mihomo = system.mihomo ∧
      ∃ pending, (refresh json system revision next answers).runtime =
        { system.runtime with pendingSnapshot := pending } := by
  unfold refresh
  dsimp only
  split
  · exact ⟨rfl, _, rfl⟩
  · split
    · exact ⟨rfl, _, rfl⟩
    · exact ⟨rfl, _, rfl⟩

theorem consistent_refresh {revision : UInt64} {next : Snapshot} {answers : RefreshAnswers}
    (h : Consistent system.runtime) :
    Consistent (refresh json system revision next answers).runtime := by
  obtain ⟨-, pending, hruntime⟩ := refresh_frame json system revision next answers
  rw [hruntime]
  exact h.of_same rfl rfl rfl rfl rfl

theorem agrees_refresh {revision : UInt64} {next : Snapshot} {answers : RefreshAnswers}
    (h : Agrees system) : Agrees (refresh json system revision next answers) := by
  obtain ⟨hmihomo, pending, hruntime⟩ := refresh_frame json system revision next answers
  rw [Agrees, hmihomo, hruntime]
  exact h

/-- The compensation of a selection asks Mihomo for the explicit one, or is an error. -/
theorem agrees_compensate (system : System) {target : Target} {request : SelectionRequest} {live : Bool}
    {answer : Answer} {file : Option (List UInt8)} {mihomo : String → String}
    (consistent : Consistent system.runtime) (h : Agrees system)
    (htarget : system.runtime.target request = .ok target)
    (hlive : system.runtime.state = .connected → live = true)
    (hothers : ∀ group, group ≠ target.group → mihomo group = system.mihomo group) :
    Agrees (System.compensate { system with mihomo := mihomo, file := file } live target
      answer) := by
  obtain ⟨-, -, -, hsnapshot, chosen, -, hchosen, hname, -, -, -, -⟩ := target_eq_ok htarget
  unfold System.compensate
  dsimp only
  split
  · rename_i previous hprevious
    by_cases herror : answer.isError = true
    · rw [if_pos herror]
      exact fun hstate => absurd hstate (markError_ne_connected _)
    · rw [if_neg herror]
      have hok : answer = .ok := by
        cases answer with
        | ok => rfl
        | failed applied => exact absurd rfl herror
      intro hstate hdegraded snapshot group groupIndex node hsome hgroup hexplicit
      have hbefore := h hstate hdegraded snapshot group groupIndex node hsome hgroup hexplicit
      have hsame : system.runtime.snapshot = some snapshot := hsome
      rw [hok]
      by_cases hindex : groupIndex = target.groupIndex
      · have hselected := (consistent.explicit snapshot groupIndex node hsame hexplicit).1
        rw [hindex, hprevious, Option.some.injEq] at hselected
        rw [hsnapshot, Option.some.injEq] at hsame
        rw [hindex, ← hsame, hchosen, Option.some.injEq] at hgroup
        rw [← hgroup, hname, ← hselected]
        exact Function.update_self _ _ _
      · have hne : group.name ≠ target.group := by
          intro heq
          rw [hsnapshot, Option.some.injEq] at hsame
          rw [← hsame] at hgroup
          exact hindex (index_of_name hgroup hchosen (heq.trans hname.symm))
        rw [← hbefore, ← hothers group.name hne]
        exact Function.update_of_ne hne _ _
  · rename_i hnone
    intro hstate hdegraded snapshot group groupIndex node hsome hgroup hexplicit
    have hbefore := h hstate hdegraded snapshot group groupIndex node hsome hgroup hexplicit
    have hsame : system.runtime.snapshot = some snapshot := hsome
    have hne : group.name ≠ target.group := by
      intro heq
      rw [hsnapshot, Option.some.injEq] at hsame
      rw [← hsame] at hgroup
      have hindex := index_of_name hgroup hchosen (heq.trans hname.symm)
      rw [hsame] at hsnapshot
      have hselected := (consistent.explicit snapshot groupIndex node hsnapshot hexplicit).1
      rw [hindex] at hselected
      exact hnone node (hlive hstate) hselected
    rw [← hbefore]
    exact hothers group.name hne

/-- The store fails a save with a maintenance debt once the file is replaced, and only then. -/
theorem saveSelection_debt {file : Option (List UInt8)} {call : SaveCall}
    (reads : ReadsMaps json)
    (handles : ∀ persisted, preparedSelections json file call = .ok persisted →
      json.Handles persisted) :
    (landed (saveSelection json file call).1 = true ∧
        (saveSelection json file call).1.isOk = false) ↔
      call.fault = .afterReplace ∧ (preparedSelections json file call).isOk = true := by
  cases hprepared : preparedSelections json file call with
  | error error =>
    rw [saveSelection_of_refused hprepared, (preparedSelections_error hprepared).1]
    exact ⟨fun h => absurd h.1 Bool.false_ne_true, fun h => absurd h.2 Bool.false_ne_true⟩
  | ok persisted =>
    obtain ⟨hgroup, hnode, hlimit, hpersisted⟩ := preparedSelections_eq_ok hprepared
    have hown := (currentSelections_spec reads file call.revision).1
    have hvalid := areOf_insert hown hgroup hnode hlimit
    rw [← hpersisted] at hvalid
    have hsize := length_toVec_le json (handles persisted hprepared) hvalid
    rw [saveSelection, hprepared]
    dsimp only
    rw [if_neg (Nat.not_lt.2 hsize)]
    cases call.fault with
    | none => exact ⟨fun h => absurd h.2.symm Bool.false_ne_true, fun h =>
        absurd h.1 SaveFault.noConfusion⟩
    | loading => exact ⟨fun h => absurd h.1 Bool.false_ne_true, fun h =>
        absurd h.1 SaveFault.noConfusion⟩
    | beforeReplace => exact ⟨fun h => absurd h.1 Bool.false_ne_true, fun h =>
        absurd h.1 SaveFault.noConfusion⟩
    | afterReplace => exact ⟨fun _ => ⟨rfl, rfl⟩, fun _ => ⟨rfl, rfl⟩⟩

variable {request : SelectionRequest} {answers : SelectAnswers}

theorem consistent_select (h : Consistent system.runtime) :
    Consistent (select json system request answers).2.runtime := by
  have houtcome := select_outcome json system request answers
  generalize select json system request answers = result at houtcome ⊢
  cases houtcome with
  | refused error wrong => exact h
  | selectorFailed target named live failed => exact h
  | saved target named answered result file save hlanded recorded record =>
    rw [record]
    exact h.record named
  | notSaved target named answered result file save hlanded =>
    obtain ⟨mihomo, hask⟩ := ask_frame system
      (system.runtime.live answers.coresReady) target answers.selector
    rw [hask]
    rcases compensate_cases { system with mihomo := mihomo, file := file }
      (system.runtime.live answers.coresReady) target answers.compensation with
      ⟨after, hafter⟩ | ⟨after, hafter⟩
    · rw [hafter]
      exact h
    · rw [hafter]
      exact h.of_same rfl rfl rfl rfl rfl

/-- A selection does not connect. -/
theorem connected_of_select
    (h : (select json system request answers).2.runtime.state = .connected) :
    system.runtime.state = .connected := by
  have houtcome := select_outcome json system request answers
  generalize select json system request answers = result at houtcome h
  cases houtcome with
  | refused error wrong => exact h
  | selectorFailed target named live failed => exact h
  | saved target named answered result file save hlanded recorded record =>
    rw [record] at h
    rw [← h]
    exact (record_frame json system.runtime file request target (!result.isOk)
      answers.readFails).1.symm
  | notSaved target named answered result file save hlanded =>
    obtain ⟨mihomo, hask⟩ := ask_frame system
      (system.runtime.live answers.coresReady) target answers.selector
    rw [hask] at h
    rcases compensate_cases { system with mihomo := mihomo, file := file }
      (system.runtime.live answers.coresReady) target answers.compensation with
      ⟨after, hafter⟩ | ⟨after, hafter⟩
    · rw [hafter] at h
      exact h
    · rw [hafter] at h
      exact absurd h (markError_ne_connected _)

theorem regular_select_iff {target : Target} {after : System}
    (htarget : system.runtime.target request = .ok target)
    (hstate : system.runtime.state = .connected) :
    Regular json ⟨system, .select request answers, after⟩ ↔
      (answers.selector = .failed true → ∀ node,
        selectedAt system.runtime.explicitSelectedNodes target.groupIndex = some node →
          target.node = node) ∧
      (answers.selector = .ok → ReadsAgain json system request answers →
        ∀ group groupIndex node, (selectableGroups target.snapshot)[groupIndex]? = some group →
          groupIndex ≠ target.groupIndex →
            selectedAt (restoredSelections json system.file false request.revision
              target.snapshot) groupIndex = some node →
              system.mihomo group.name = node) := by
  constructor
  · exact fun h => h request answers target rfl htarget hstate
  · intro h request' answers' target' hlabel htarget' hstate'
    rw [RouteOperation.select.injEq] at hlabel
    obtain ⟨rfl, rfl⟩ := hlabel
    rw [htarget, Except.ok.injEq] at htarget'
    rw [← htarget']
    exact h

/-- The group of a request is told apart by its name. -/
theorem name_ne_of_index {target : Target} {group : SelectableGroup} {groupIndex : Nat}
    (htarget : system.runtime.target request = .ok target)
    (hgroup : (selectableGroups target.snapshot)[groupIndex]? = some group)
    (hne : groupIndex ≠ target.groupIndex) : group.name ≠ target.group := by
  obtain ⟨-, -, -, -, chosen, -, hchosen, hname, -, -, -, -⟩ := target_eq_ok htarget
  exact fun heq => hne (index_of_name hgroup hchosen (heq.trans hname.symm))

theorem name_of_index {target : Target} {group : SelectableGroup}
    (htarget : system.runtime.target request = .ok target)
    (hgroup : (selectableGroups target.snapshot)[target.groupIndex]? = some group) :
    group.name = target.group := by
  obtain ⟨-, -, -, -, chosen, -, hchosen, hname, -, -, -, -⟩ := target_eq_ok htarget
  rw [hchosen, Option.some.injEq] at hgroup
  rw [← hgroup, hname]

/-- After a save that is in the file, the store restores what it did in the other groups, and the
node that was saved. -/
theorem restored_after_save (reads : ReadsMaps json) {target : Target} {call : SaveCall}
    (htarget : system.runtime.target request = .ok target)
    (hcall : call.revision = request.revision ∧ call.groupId = request.groupId ∧
      call.nodeId = request.nodeId)
    (handles : ∀ persisted, preparedSelections json system.file call = .ok persisted →
      json.Handles persisted)
    (hlanded : landed (saveSelection json system.file call).1 = true) (groupIndex : Nat)
    (node : String) :
    selectedAt (restoredSelections json (saveSelection json system.file call).2 false
        request.revision target.snapshot) groupIndex = some node ↔
      if groupIndex = target.groupIndex then node = target.node
      else selectedAt (restoredSelections json system.file false request.revision
        target.snapshot) groupIndex = some node := by
  obtain ⟨-, -, -, -, chosen, chosenNode, hchosen, -, hnode, hoffers, hgroupId, hnodeId⟩ :=
    target_eq_ok htarget
  obtain ⟨hrevision, hgroup, hid⟩ := hcall
  have hsaved := savedNode_save reads system.file handles hlanded request.revision
  have hland : ∀ groupId, call.landedOn (savedNode json system.file) request.revision groupId =
      if groupId = request.groupId then some request.nodeId
      else savedNode json system.file request.revision groupId := by
    intro groupId
    rw [SaveCall.landedOn, if_pos hrevision.symm, hgroup, hid]
  rw [selectedAt_eq_some, restoredSelections_eq_some reads]
  by_cases hindex : groupIndex = target.groupIndex
  · rw [if_pos hindex, hindex]
    constructor
    · rintro ⟨group, nodeIndex, hthere, hother, -, hnow⟩
      rw [hchosen, Option.some.injEq] at hthere
      rw [hsaved, hland, hgroupId, if_pos rfl, hnodeId, Option.some.injEq] at hnow
      rw [← hthere] at hother
      have hsame := catalogNodeId_inj ((index_lt hchosen).2 hnode) ((index_lt hchosen).2 hother)
        hnow
      rw [← hsame, hnode, Option.some.injEq] at hother
      exact hother.symm
    · rintro rfl
      refine ⟨chosen, chosenNode, hchosen, hnode, hoffers, ?_⟩
      rw [hsaved, hland, hgroupId, if_pos rfl, hnodeId]
  · rw [if_neg hindex, selectedAt_eq_some, restoredSelections_eq_some reads]
    have hother : ∀ group : SelectableGroup,
        (selectableGroups target.snapshot)[groupIndex]? = some group →
          savedNode json (saveSelection json system.file call).2 request.revision
              (catalogGroupId request.revision groupIndex) =
            savedNode json system.file request.revision
              (catalogGroupId request.revision groupIndex) := by
      intro group hthere
      have hne : ¬catalogGroupId request.revision groupIndex = request.groupId := by
        intro heq
        rw [hgroupId] at heq
        exact hindex (catalogGroupId_inj (index_lt hthere).1 (index_lt hchosen).1 heq)
      rw [hsaved, hland, if_neg hne]
    constructor
    · rintro ⟨group, nodeIndex, hthere, hnode', hoffers', hnow⟩
      rw [hother group hthere] at hnow
      exact ⟨group, nodeIndex, hthere, hnode', hoffers', hnow⟩
    · rintro ⟨group, nodeIndex, hthere, hnode', hoffers', hnow⟩
      rw [← hother group hthere] at hnow
      exact ⟨group, nodeIndex, hthere, hnode', hoffers', hnow⟩

/-- A selection keeps what is shown exactly if it is regular. -/
theorem agrees_select_iff (reads : ReadsMaps json) (consistent : Consistent system.runtime)
    (agrees : Agrees system)
    (handles : ∀ target call, system.runtime.target request = .ok target →
      system.runtime.saveTarget request target answers.save = some call →
        ∀ persisted, preparedSelections json system.file call = .ok persisted →
          json.Handles persisted) {after : System} :
    Agrees (select json system request answers).2 ↔
      Regular json ⟨system, .select request answers, after⟩ := by
  by_cases hstate : system.runtime.state = .connected
  swap
  · constructor
    · intro _ request' answers' target' _ _ hconnected
      exact absurd hconnected hstate
    · exact fun _ hconnected => absurd (connected_of_select hconnected) hstate
  have houtcome := select_outcome json system request answers
  generalize select json system request answers = outcome at houtcome ⊢
  cases houtcome with
  | refused error wrong =>
    constructor
    · intro _ request' answers' target' hlabel htarget
      rw [RouteOperation.select.injEq] at hlabel
      rw [← hlabel.1, wrong] at htarget
      exact absurd htarget (by simp)
    · exact fun _ => agrees
  | selectorFailed target named live failed =>
    obtain ⟨-, hdegraded, -, hsnapshot, chosen, -, hchosen, hname, -, -, -, -⟩ :=
      target_eq_ok named
    rw [regular_select_iff named hstate, System.ask, if_pos rfl]
    cases hselector : answers.selector with
    | ok =>
      rw [hselector] at failed
      exact absurd failed Bool.false_ne_true
    | failed applied =>
      cases applied with
      | false =>
        constructor
        · exact fun _ => ⟨fun h => absurd h (by simp), fun h => absurd h (by simp)⟩
        · exact fun _ => agrees
      | true =>
        constructor
        · intro h
          refine ⟨fun _ node hexplicit => ?_, fun h => absurd h (by simp)⟩
          have hnow := h hstate hdegraded target.snapshot chosen target.groupIndex node hsnapshot
            hchosen hexplicit
          have hself : (Answer.failed true).after target.group target.node system.mihomo
              target.group = target.node := Function.update_self _ _ _
          rw [hname] at hnow
          exact hself.symm.trans hnow
        · rintro ⟨hkept, -⟩ _ _ snapshot group groupIndex node hsome hgroup hexplicit
          have hsame : system.runtime.snapshot = some snapshot := hsome
          rw [hsnapshot, Option.some.injEq] at hsame
          rw [← hsame] at hgroup
          by_cases hindex : groupIndex = target.groupIndex
          · rw [hindex] at hgroup hexplicit
            rw [name_of_index named hgroup, ← hkept rfl node hexplicit]
            exact Function.update_self _ _ _
          · rw [← agrees hstate hdegraded target.snapshot group groupIndex node hsnapshot hgroup
              hexplicit]
            exact Function.update_of_ne (name_ne_of_index named hgroup hindex) _ _
  | notSaved target named answered result file save hlanded =>
    have hlive : system.runtime.live answers.coresReady = true := by
      rw [Runtime.live, hstate]
      rfl
    have hok := answered hlive
    rw [regular_select_iff named hstate]
    have hregular : ¬ReadsAgain json system request answers := by
      rintro ⟨hpending, hfault, -, hprepared⟩
      rw [Runtime.saveTarget, hpending, saveRoute, hfault] at save
      have hdebt := (saveSelection_debt reads fun persisted => handles target _ named (by
        rw [Runtime.saveTarget, hpending, hfault]) persisted).2 ⟨rfl, hprepared⟩
      rw [save, hlanded] at hdebt
      exact absurd hdebt.1 Bool.false_ne_true
    constructor
    · intro _
      refine ⟨fun h => ?_, fun _ h => absurd h hregular⟩
      rw [hok] at h
      exact absurd h (by simp)
    · intro _
      rw [System.ask, if_pos hlive]
      refine agrees_compensate system consistent agrees named (fun _ => hlive) ?_
      intro group hne
      rw [hok]
      exact Function.update_of_ne hne _ _
  | saved target named answered result file save hlanded recorded record =>
    have hlive : system.runtime.live answers.coresReady = true := by
      rw [Runtime.live, hstate]
      rfl
    have hok := answered hlive
    obtain ⟨-, hdegraded, -, hsnapshot, chosen, -, hchosen, hname, -, -, -, -⟩ :=
      target_eq_ok named
    rw [regular_select_iff named hstate, System.ask, if_pos hlive, hok, record]
    have hframe := record_frame json system.runtime file request target (!result.isOk)
      answers.readFails
    have hfirst : Answer.ok = .failed true → ∀ node,
        selectedAt system.runtime.explicitSelectedNodes target.groupIndex = some node →
          target.node = node := fun h => absurd h (by simp)
    have hself : Answer.ok.after target.group target.node system.mihomo target.group =
        target.node := Function.update_self _ _ _
    have hothers : ∀ group : SelectableGroup, ∀ groupIndex,
        (selectableGroups target.snapshot)[groupIndex]? = some group →
          groupIndex ≠ target.groupIndex →
            Answer.ok.after target.group target.node system.mihomo group.name =
              system.mihomo group.name := fun group groupIndex hgroup hne =>
      Function.update_of_ne (name_ne_of_index named hgroup hne) _ _
    by_cases hdebt : ((!result.isOk) && system.runtime.pendingSnapshot.isNone) = true
    · have hboth := hdebt
      rw [Bool.and_eq_true, Bool.not_eq_true', Option.isNone_iff_eq_none] at hboth
      obtain ⟨hresult, hpending⟩ := hboth
      have hcall : system.runtime.saveTarget request target answers.save =
          some ⟨request.revision, request.groupId, request.nodeId, answers.save⟩ := by
        rw [Runtime.saveTarget, hpending]
      have hhandles := handles target _ named hcall
      rw [hcall, saveRoute] at save
      have hlandedSave : landed (saveSelection json system.file
          ⟨request.revision, request.groupId, request.nodeId, answers.save⟩).1 = true := by
        rw [save]
        exact hlanded
      obtain ⟨hfault, hprepared⟩ := (saveSelection_debt reads hhandles).1
        ⟨hlandedSave, by rw [save]; exact hresult⟩
      have hfaultSave : answers.save = .afterReplace := hfault
      rw [hfaultSave] at hprepared
      have hrestored := restored_after_save reads named ⟨rfl, rfl, rfl⟩ hhandles hlandedSave
      rw [save] at hrestored
      have hexplicit : (system.runtime.record json file request target (!result.isOk)
          answers.readFails).explicitSelectedNodes =
            restoredSelections json file answers.readFails request.revision target.snapshot := by
        rw [Runtime.record]
        dsimp only
        rw [if_pos hdebt]
        rfl
      have hagain : ReadsAgain json system request answers ↔ answers.readFails = false :=
        ⟨fun h => h.2.2.1, fun h => ⟨hpending, hfaultSave, h, hprepared⟩⟩
      constructor
      · intro h
        refine ⟨hfirst, fun _ hreads group groupIndex node hgroup hne hstored => ?_⟩
        have hreadFails := hagain.1 hreads
        have hnow := h (hframe.1.trans hstate) (hframe.2.1.trans hdegraded)
          target.snapshot group groupIndex node (hframe.2.2.2.1.trans hsnapshot) hgroup
        dsimp only at hnow
        rw [hexplicit, hreadFails] at hnow
        rw [← hothers group groupIndex hgroup hne]
        apply hnow
        rw [hrestored, if_neg hne]
        exact hstored
      · rintro ⟨-, hstored⟩ _ _ snapshot group groupIndex node hsome hgroup hselected
        have hsame : system.runtime.snapshot = some snapshot :=
          hframe.2.2.2.1.symm.trans hsome
        rw [hsnapshot, Option.some.injEq] at hsame
        rw [← hsame] at hgroup
        dsimp only at hselected ⊢
        rw [hexplicit] at hselected
        cases hreadFails : answers.readFails with
        | true =>
          rw [hreadFails, selectedAt_eq_some, restoredSelections, if_pos rfl, List.getElem?_map,
            Option.map_eq_some_iff] at hselected
          obtain ⟨entry, -, hnone⟩ := hselected
          exact absurd hnone.symm (Option.some_ne_none _)
        | false =>
          rw [hreadFails, hrestored] at hselected
          by_cases hindex : groupIndex = target.groupIndex
          · rw [if_pos hindex] at hselected
            rw [hindex] at hgroup
            rw [name_of_index named hgroup, hself, hselected]
          · rw [if_neg hindex] at hselected
            rw [hothers group groupIndex hgroup hindex]
            exact hstored rfl (hagain.2 hreadFails) group groupIndex node hgroup hindex hselected
    · have hregular : ¬ReadsAgain json system request answers := by
        rintro ⟨hpending, hfault, -, hprepared⟩
        have hcall : system.runtime.saveTarget request target answers.save =
            some ⟨request.revision, request.groupId, request.nodeId, .afterReplace⟩ := by
          rw [Runtime.saveTarget, hpending, hfault]
        have hsaved := (saveSelection_debt reads (handles target _ named hcall)).2
          ⟨rfl, hprepared⟩
        rw [hcall, saveRoute] at save
        rw [save] at hsaved
        rw [hsaved.2, hpending] at hdebt
        exact hdebt rfl
      have hexplicit : (system.runtime.record json file request target (!result.isOk)
          answers.readFails).explicitSelectedNodes =
            system.runtime.explicitSelectedNodes.set target.groupIndex (some target.node) := by
        rw [Runtime.record]
        dsimp only
        rw [if_neg hdebt]
        rfl
      constructor
      · exact fun _ => ⟨hfirst, fun _ h => absurd h hregular⟩
      · rintro - _ _ snapshot group groupIndex node hsome hgroup hselected
        have hsame : system.runtime.snapshot = some snapshot :=
          hframe.2.2.2.1.symm.trans hsome
        rw [hsnapshot, Option.some.injEq] at hsame
        rw [← hsame] at hgroup
        dsimp only at hselected ⊢
        rw [hexplicit, selectedAt_set] at hselected
        by_cases hindex : target.groupIndex = groupIndex
        · rw [← hindex] at hgroup hselected
          rw [name_of_index named hgroup, hself]
          by_cases hroom : target.groupIndex < system.runtime.explicitSelectedNodes.length
          · rw [if_pos ⟨rfl, hroom⟩, Option.some.injEq] at hselected
            exact hselected
          · have hnone : selectedAt system.runtime.explicitSelectedNodes target.groupIndex =
                none := by
              rw [selectedAt, List.getElem?_eq_none (by omega)]
              rfl
            rw [if_neg fun hboth => hroom hboth.2, hnone] at hselected
            exact absurd hselected.symm (Option.some_ne_none _)
        · rw [if_neg fun hboth => hindex hboth.1] at hselected
          rw [hothers group groupIndex hgroup (Ne.symm hindex)]
          exact agrees hstate hdegraded target.snapshot group groupIndex node hsnapshot hgroup
            hselected

end Steps

section Runs

variable {json} {system : System}

theorem consistent_step {operation : RouteOperation} {after : System}
    (h : Consistent system.runtime) (step : RouteStep json system operation after) :
    Consistent after.runtime := by
  cases step with
  | connect answers => exact consistent_connect answers h
  | select request answers handles => exact consistent_select h
  | disconnect answers => exact consistent_disconnect answers h
  | refresh revision next answers connected => exact consistent_refresh h

/-- A step from a state in which the shown route is live keeps it live exactly if it is regular. -/
theorem agrees_step_iff (reads : ReadsMaps json) {operation : RouteOperation} {after : System}
    (h : Consistent system.runtime ∧ Agrees system)
    (step : RouteStep json system operation after) :
    (Consistent after.runtime ∧ Agrees after) ↔ Regular json ⟨system, operation, after⟩ := by
  obtain ⟨consistent, agrees⟩ := h
  have hafter := consistent_step consistent step
  have hother : (∀ request answers, operation ≠ .select request answers) →
      Regular json ⟨system, operation, after⟩ := fun hne request answers _ hlabel =>
    absurd hlabel (hne request answers)
  rw [and_iff_right hafter]
  cases step with
  | connect answers =>
    exact iff_of_true (agrees_connect answers agrees)
      (hother fun _ _ => RouteOperation.noConfusion)
  | select request answers handles => exact agrees_select_iff reads consistent agrees handles
  | disconnect answers =>
    exact iff_of_true (agrees_disconnect answers agrees)
      (hother fun _ _ => RouteOperation.noConfusion)
  | refresh revision next answers connected =>
    exact iff_of_true (agrees_refresh agrees) (hother fun _ _ => RouteOperation.noConfusion)

/-- In a run from what was installed, the shown route is the live one in every state exactly if
every step is regular. -/
theorem shownIsLive_iff_regular (reads : ReadsMaps json) {before last : System}
    {loadFails readFails : Bool} {edges : List (Edge System RouteOperation)}
    (run : Run (RouteStep json) (reconcileAuthoritative json before loadFails readFails) edges
      last) :
    (∀ edge ∈ edges, ShownIsLive edge.target) ↔ ∀ edge ∈ edges, Regular json edge := by
  obtain ⟨hconsistent, hstate⟩ := consistent_reconcile json before loadFails readFails
  have hall := run.forall_target_of (I := fun system => Consistent system.runtime) hconsistent
    (fun h step (_ : True) => consistent_step h step) fun _ _ => trivial
  have hiff := run.forall_target_iff (I := fun system => Consistent system.runtime ∧ Agrees system)
    ⟨hconsistent, fun hconnected => absurd hconnected hstate⟩
    fun h step => agrees_step_iff reads h step
  rw [← hiff]
  constructor
  · intro h edge hedge
    exact ⟨hall edge hedge, (shownIsLive_iff (hall edge hedge)).1 (h edge hedge)⟩
  · intro h edge hedge
    exact (shownIsLive_iff (hall edge hedge)).2 (h edge hedge).2

end Runs

section Failing

/-- The choice of the first node, saved. -/
def savedOther : PersistedSelections := ⟨1, 1, [(catalogGroupId 1 0, catalogNodeId 1 0 0)]⟩

/-- Both choices, written and read. -/
def shownJson : SelectionsJson := knownJson [savedFirst, savedOther]

theorem readsMaps_shownJson : ReadsMaps shownJson := by
  apply readsMaps_knownJson
  intro persisted hmem
  simp only [List.mem_cons, List.not_mem_nil, or_false] at hmem
  rcases hmem with rfl | rfl
  · exact List.nodup_singleton _
  · exact List.nodup_singleton _

/-- Stored with an explicit selection of `B`. -/
def beforeStart : System := { connectedFirst with file := some (shownJson.toVec savedFirst) }

/-- The system after the daemon's start. -/
def started : System := reconcileAuthoritative shownJson beforeStart false false

/-- A Connect in which nothing fails. -/
def connectWell : ConnectAnswers := ⟨.started, fun _ => "A", fun _ => .ok, false⟩

/-- The system while it is connected. -/
def connectedWell : System := connect started connectWell

theorem shownIsLive_iff_regular_connected :
    (∀ edge ∈ [(⟨started, .connect connectWell, connectedWell⟩ : Edge System RouteOperation)],
        ShownIsLive edge.target) ↔
      ∀ edge ∈ [(⟨started, .connect connectWell, connectedWell⟩ : Edge System RouteOperation)],
        Regular shownJson edge :=
  shownIsLive_iff_regular readsMaps_shownJson
    (Run.single (RouteStep.connect started connectWell))

/-- The request for the first node. -/
def otherRequest : SelectionRequest := ⟨1, catalogGroupId 1 0, catalogNodeId 1 0 0⟩

/-- Mihomo makes the selection, and fails to say so. -/
def failedApplied : SelectAnswers := ⟨true, .failed true, .ok, .none, false⟩

/-- The system after a selection that failed. -/
def selectedOther : System := (select shownJson connectedWell otherRequest failedApplied).2

theorem shown_selectedOther :
    selectedOther.runtime.state = .connected ∧ selectedOther.runtime.degraded = false ∧
      (selectedOther.runtime.snapshot.bind fun snapshot => (selectableGroups snapshot)[0]?) =
        some ⟨"Route", ["A", "B"], [true, true], false⟩ ∧
      selectedAt selectedOther.runtime.explicitSelectedNodes 0 = some "B" ∧
      selectedOther.runtime.shown 0 = some "B" ∧ selectedOther.mihomo "Route" = "A" := by
  decide +kernel

/-- A selection that fails and is made all the same leaves the old node shown. -/
theorem shown_not_live :
    ¬∀ (json : SelectionsJson) (before last : System) (loadFails readFails : Bool)
      (edges : List (Edge System RouteOperation)), ReadsMaps json →
        Run (RouteStep json) (reconcileAuthoritative json before loadFails readFails) edges last →
          ∀ edge ∈ edges, ShownIsLive edge.target := by
  intro h
  have hprepared : preparedSelections shownJson connectedWell.file
      ⟨1, catalogGroupId 1 0, catalogNodeId 1 0 0, .none⟩ = .ok savedOther := by decide +kernel
  have hselect : RouteStep shownJson connectedWell (.select otherRequest failedApplied)
      selectedOther := by
    rw [selectedOther]
    apply RouteStep.select
    intro target call htarget hcall persisted hok
    have hpending : connectedWell.runtime.pendingSnapshot = none :=
      Option.isNone_iff_eq_none.1 (by decide +kernel)
    rw [Runtime.saveTarget, hpending, Option.some.injEq] at hcall
    rw [← hcall] at hok
    have hsame := hprepared.symm.trans hok
    rw [Except.ok.injEq] at hsame
    rw [← hsame]
    exact ⟨rfl, by decide +kernel⟩
  have hconnect : RouteStep shownJson started (.connect connectWell) connectedWell :=
    RouteStep.connect started connectWell
  have hrun := (Run.single hconnect).snoc hselect
  have hall := h shownJson beforeStart selectedOther false false
  have hstart : reconcileAuthoritative shownJson beforeStart false false = started := by
    rw [started]
  rw [hstart] at hall
  have hlive := hall _ readsMaps_shownJson hrun _ (List.mem_append_right _ List.mem_cons_self)
  rw [ShownIsLive] at hlive
  dsimp only at hlive
  obtain ⟨hstate, hdegraded, hgroup, hexplicit, hshown, hmihomo⟩ := shown_selectedOther
  obtain ⟨snapshot, hsnapshot, hgroups⟩ := Option.bind_eq_some_iff.1 hgroup
  have hroute := hlive hstate hdegraded snapshot _ 0 "B" hsnapshot hgroups hexplicit
  dsimp only at hroute
  rw [hshown, hmihomo] at hroute
  exact absurd hroute (by decide)

end Failing

end MultiCore.Routes
