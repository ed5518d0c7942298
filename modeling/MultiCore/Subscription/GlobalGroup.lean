import Mathlib.Logic.Relation
import MultiCore.Library.Text
import MultiCore.Library.YamlValue

/-!
# The group behind the global mode

In global mode Mihomo sends every connection through the group GLOBAL. Where the
provider has none, one is generated that lists the provider's groups, except
those that list GLOBAL themselves. Groups refer to each other by name, and
Mihomo refuses a document whose groups form a loop.
-/

namespace MultiCore.Subscription

open Yaml

/-- The name of a group. -/
def groupName (group : Value) : Option String := (group.get "name").bind Value.asStr

/-- The texts a group lists. -/
def groupMembers (group : Value) : List String :=
  (((group.get "proxies").bind Value.asSequence).getD []).filterMap Value.asStr

/-- Whether a group lists GLOBAL itself. -/
def listsGlobal (group : Value) : Bool :=
  (((group.get "proxies").bind Value.asSequence).getD []).any fun member =>
    member.asStr = some "GLOBAL"

/-- The names the generated group lists before DIRECT. -/
def globalMembers (groups : List Value) : List String :=
  (groups.filter fun group => !listsGlobal group).filterMap groupName

/-- A group GLOBAL with these members. -/
def globalGroup (members : List String) : Value :=
  .mapping [(.string "name", .string "GLOBAL"), (.string "type", .string "select"),
    (.string "proxies", .sequence ((members ++ ["DIRECT"]).map .string))]

/-- Whether the document is in global mode. -/
def isGlobalMode (mapping : Mapping) : Bool :=
  match (get "mode" mapping).bind Value.asStr with
  | some mode => Text.sameName (Text.trim mode) "global"
  | none => false

/-- The groups with the generated one behind them, if one is generated. -/
def withGlobalGroup (groups : List Value) : List Value :=
  if groups.any fun group => groupName group = some "GLOBAL" then groups
  else if (globalMembers groups).isEmpty then groups
  else groups ++ [globalGroup (globalMembers groups)]

/-- Makes the global mode use the provider's groups. -/
def routeGlobalModeThroughFirstGroup (mapping : Mapping) : Mapping :=
  if isGlobalMode mapping then update "proxy-groups" (Value.mapSequence withGlobalGroup) mapping
  else mapping

/-- The groups of a document. -/
def groupsOf (mapping : Mapping) : Option (List Value) :=
  (get "proxy-groups" mapping).bind Value.asSequence

/-- A group of this name lists that name. -/
def Refers (groups : List Value) (name member : String) : Prop :=
  ∃ group ∈ groups, groupName group = some name ∧ member ∈ groupMembers group

/-- There is a chain of references from one name to the other. -/
def Reaches (groups : List Value) (name target : String) : Prop :=
  Relation.TransGen (Refers groups) name target

/-- This group was generated for these groups of the document. -/
def Generated (mapping : Mapping) (groups : List Value) (global : Value) : Prop :=
  groupsOf mapping = some groups ∧
    groupsOf (routeGlobalModeThroughFirstGroup mapping) = some (groups ++ [global])

/-- The generated group closes no loop. -/
def LoopFree (mapping : Mapping) : Prop :=
  ∀ groups global, Generated mapping groups global →
    (∀ member ∈ groupMembers global, ¬Reaches groups member "GLOBAL") ∧
      ¬Reaches (groups ++ [global]) "GLOBAL" "GLOBAL"

/-- Two groups of the document stand in each other's way: one that does not list GLOBAL lists or
shares its name with one that does, or one that lists GLOBAL is named DIRECT. -/
def Conflict (groups : List Value) : Prop :=
  (∃ group ∈ groups, listsGlobal group = false ∧ ∃ name, groupName group = some name ∧
    ∃ other ∈ groups, listsGlobal other = true ∧ ∃ otherName, groupName other = some otherName ∧
      (otherName = name ∨ otherName ∈ groupMembers group)) ∨
  ∃ group ∈ groups, listsGlobal group = true ∧ groupName group = some "DIRECT"

/-- A group is generated for this document. -/
def generates (mapping : Mapping) : Bool :=
  match groupsOf mapping with
  | some groups =>
    isGlobalMode mapping && !(groups.any fun group => groupName group = some "GLOBAL") &&
      !(globalMembers groups).isEmpty
  | none => false

section Members

variable {groups : List Value}

theorem listsGlobal_iff {group : Value} :
    listsGlobal group = true ↔ "GLOBAL" ∈ groupMembers group := by
  rw [listsGlobal, List.any_eq_true, groupMembers, List.mem_filterMap]
  simp

theorem mem_globalMembers {name : String} :
    name ∈ globalMembers groups ↔
      ∃ group ∈ groups, listsGlobal group = false ∧ groupName group = some name := by
  rw [globalMembers, List.mem_filterMap]
  constructor
  · rintro ⟨group, hgroup, hname⟩
    obtain ⟨hmem, hlists⟩ := List.mem_filter.1 hgroup
    exact ⟨group, hmem, by simpa using hlists, hname⟩
  · rintro ⟨group, hmem, hlists, hname⟩
    exact ⟨group, List.mem_filter.2 ⟨hmem, by rw [hlists]; rfl⟩, hname⟩

@[simp] theorem groupName_globalGroup (members : List String) :
    groupName (globalGroup members) = some "GLOBAL" := by
  simp [groupName, globalGroup, Value.get, Value.asMapping, Value.untag, get_cons, Value.asStr]

theorem asStr_string_members (members : List String) :
    (members.map Value.string).filterMap Value.asStr = members := by
  induction members with
  | nil => rfl
  | cons name members ih =>
    have hname : (Value.string name).asStr = some name := rfl
    rw [List.map_cons, List.filterMap_cons_some hname, ih]

@[simp] theorem groupMembers_globalGroup (members : List String) :
    groupMembers (globalGroup members) = members ++ ["DIRECT"] := by
  have hproxies : ((globalGroup members).get "proxies").bind Value.asSequence =
      some ((members ++ ["DIRECT"]).map Value.string) := by
    simp [globalGroup, Value.get, Value.asMapping, Value.untag, get_cons, Value.isKey,
      Value.asSequence]
  rw [groupMembers, hproxies, Option.getD_some, asStr_string_members]

end Members

section Result

variable {mapping : Mapping} {groups : List Value}

/-- The groups of the document that was made. -/
theorem groupsOf_route (mapping : Mapping) :
    groupsOf (routeGlobalModeThroughFirstGroup mapping) =
      if isGlobalMode mapping then (groupsOf mapping).map withGlobalGroup
      else groupsOf mapping := by
  rw [routeGlobalModeThroughFirstGroup]
  by_cases hmode : isGlobalMode mapping = true
  · rw [if_pos hmode, if_pos hmode, groupsOf, get_update, groupsOf]
    cases get "proxy-groups" mapping with
    | none => rfl
    | some value => exact Value.mapSequence_asSequence withGlobalGroup value
  · rw [if_neg hmode, if_neg hmode]

/-- A group is generated when the document asks for it, and it is this one. -/
theorem generated_iff {global : Value} :
    Generated mapping groups global ↔
      groupsOf mapping = some groups ∧ generates mapping = true ∧
        global = globalGroup (globalMembers groups) := by
  rw [Generated, groupsOf_route]
  constructor
  · rintro ⟨hgroups, hroute⟩
    have hlonger : groups ≠ groups ++ [global] := by
      intro heq
      have hlength := congrArg List.length heq
      rw [List.length_append, List.length_singleton] at hlength
      omega
    rw [hgroups] at hroute
    by_cases hmode : isGlobalMode mapping = true
    · rw [if_pos hmode, Option.map_some, Option.some.injEq, withGlobalGroup] at hroute
      by_cases hown : (groups.any fun group => groupName group = some "GLOBAL") = true
      · rw [if_pos hown] at hroute
        exact absurd hroute hlonger
      · by_cases hempty : (globalMembers groups).isEmpty = true
        · rw [if_neg hown, if_pos hempty] at hroute
          exact absurd hroute hlonger
        · rw [if_neg hown, if_neg hempty] at hroute
          have hglobal := List.append_cancel_left hroute
          refine ⟨hgroups, ?_, (List.cons.inj hglobal).1.symm⟩
          rw [generates, hgroups]
          simp only [Bool.not_eq_true] at hown hempty
          simp only [hmode, hown, hempty, Bool.not_false, Bool.and_self]
    · rw [if_neg hmode, Option.some.injEq] at hroute
      exact absurd hroute hlonger
  · rintro ⟨hgroups, hgenerates, rfl⟩
    rw [generates, hgroups] at hgenerates
    simp only [Bool.and_eq_true, Bool.not_eq_true'] at hgenerates
    obtain ⟨⟨hmode, hown⟩, hempty⟩ := hgenerates
    refine ⟨hgroups, ?_⟩
    rw [if_pos hmode, hgroups, Option.map_some, withGlobalGroup, hown, hempty]
    rfl

end Result

section Chains

variable {groups : List Value}

/-- Without a conflict, a name from which GLOBAL is reached is the name of a group that lists
GLOBAL itself: backwards along the chain, who lists such a group is one. -/
theorem exists_listsGlobal {name : String} (hfree : ¬Conflict groups)
    (h : Reaches groups name "GLOBAL") :
    ∃ group ∈ groups, groupName group = some name ∧ listsGlobal group = true := by
  induction h using Relation.TransGen.head_induction_on with
  | single hrefers =>
    obtain ⟨group, hgroup, hname, hmember⟩ := hrefers
    exact ⟨group, hgroup, hname, listsGlobal_iff.2 hmember⟩
  | head hrefers _ ih =>
    obtain ⟨group, hgroup, hname, hmember⟩ := hrefers
    obtain ⟨other, hother, hotherName, hlists⟩ := ih
    refine ⟨group, hgroup, hname, ?_⟩
    by_contra hnot
    have hnot : listsGlobal group = false := by simpa using hnot
    exact hfree (Or.inl ⟨group, hgroup, hnot, _, hname, other, hother, hlists, _, hotherName,
      Or.inr hmember⟩)

/-- Without a conflict, nothing the generated group lists reaches GLOBAL. -/
theorem not_reaches_of_free (hfree : ¬Conflict groups) {member : String}
    (hmember : member ∈ globalMembers groups ++ ["DIRECT"]) :
    ¬Reaches groups member "GLOBAL" := by
  intro hreaches
  obtain ⟨other, hother, hotherName, hlists⟩ := exists_listsGlobal hfree hreaches
  rcases List.mem_append.1 hmember with hmember | hdirect
  · obtain ⟨group, hgroup, hnot, hname⟩ := mem_globalMembers.1 hmember
    exact hfree (Or.inl ⟨group, hgroup, hnot, member, hname, other, hother, hlists, member,
      hotherName, Or.inl rfl⟩)
  · rw [List.mem_singleton.1 hdirect] at hotherName
    exact hfree (Or.inr ⟨other, hother, hlists, hotherName⟩)

/-- In a conflict the generated group lists a name that reaches GLOBAL. -/
theorem exists_reaches_of_conflict (h : Conflict groups) :
    ∃ member ∈ globalMembers groups ++ ["DIRECT"], Reaches groups member "GLOBAL" := by
  rcases h with ⟨group, hgroup, hnot, name, hname, other, hother, hlists, otherName, hotherName,
    hrelated⟩ | ⟨group, hgroup, hlists, hname⟩
  · have hmember : name ∈ globalMembers groups := mem_globalMembers.2 ⟨group, hgroup, hnot, hname⟩
    have hlast : Refers groups otherName "GLOBAL" :=
      ⟨other, hother, hotherName, listsGlobal_iff.1 hlists⟩
    refine ⟨name, List.mem_append_left _ hmember, ?_⟩
    rcases hrelated with rfl | hlisted
    · exact .single hlast
    · exact .head ⟨group, hgroup, hname, hlisted⟩ (.single hlast)
  · exact ⟨"DIRECT", List.mem_append_right _ List.mem_cons_self,
      .single ⟨group, hgroup, hname, listsGlobal_iff.1 hlists⟩⟩

/-- A chain to GLOBAL that does not begin there goes through the provider's groups only, up to
where it first arrives. -/
theorem reaches_of_append {global : Value} {name : String}
    (hglobal : groupName global = some "GLOBAL")
    (h : Reaches (groups ++ [global]) name "GLOBAL") :
    name = "GLOBAL" ∨ Reaches groups name "GLOBAL" := by
  induction h using Relation.TransGen.head_induction_on with
  | single hrefers =>
    obtain ⟨group, hgroup, hname, hmember⟩ := hrefers
    rcases List.mem_append.1 hgroup with hgroup | hlast
    · exact Or.inr (.single ⟨group, hgroup, hname, hmember⟩)
    · rw [List.mem_singleton.1 hlast, hglobal] at hname
      exact Or.inl (Option.some.inj hname).symm
  | head hrefers _ ih =>
    obtain ⟨group, hgroup, hname, hmember⟩ := hrefers
    rcases List.mem_append.1 hgroup with hgroup | hlast
    · right
      rcases ih with heq | hreaches
      · rw [heq] at hmember
        exact .single ⟨group, hgroup, hname, hmember⟩
      · exact .head ⟨group, hgroup, hname, hmember⟩ hreaches
    · rw [List.mem_singleton.1 hlast, hglobal] at hname
      exact Or.inl (Option.some.inj hname).symm

end Chains

/-- A group generated in spite of a conflict closes a loop. -/
theorem not_loopFree_of_conflict {mapping : Mapping} {groups : List Value}
    (hgroups : groupsOf mapping = some groups) (hgenerates : generates mapping = true)
    (hconflict : Conflict groups) : ¬LoopFree mapping := by
  intro h
  have hgenerated := generated_iff.2 ⟨hgroups, hgenerates, rfl⟩
  obtain ⟨member, hmember, hreaches⟩ := exists_reaches_of_conflict hconflict
  apply (h _ _ hgenerated).1 member _ hreaches
  rw [groupMembers_globalGroup]
  exact hmember

/-- The generated group closes no loop exactly when none is generated or no two of the provider's
groups conflict. -/
theorem routeGlobalMode_loopFree_iff (mapping : Mapping) :
    LoopFree mapping ↔
      ∀ groups, groupsOf mapping = some groups → generates mapping = true → ¬Conflict groups := by
  constructor
  · intro h groups hgroups hgenerates hconflict
    exact not_loopFree_of_conflict hgroups hgenerates hconflict h
  · intro h groups global hgenerated
    obtain ⟨hgroups, hgenerates, rfl⟩ := generated_iff.1 hgenerated
    have hfree := h groups hgroups hgenerates
    have hmembers : ∀ member ∈ groupMembers (globalGroup (globalMembers groups)),
        ¬Reaches groups member "GLOBAL" := by
      intro member hmember
      rw [groupMembers_globalGroup] at hmember
      exact not_reaches_of_free hfree hmember
    refine ⟨hmembers, ?_⟩
    intro hloop
    -- No group of the provider is named GLOBAL, so the loop leaves through the generated one.
    have hown : ∀ group ∈ groups, groupName group ≠ some "GLOBAL" := by
      rw [generates, hgroups] at hgenerates
      simp only [Bool.and_eq_true, Bool.not_eq_true', List.any_eq_false] at hgenerates
      intro group hgroup hname
      exact hgenerates.1.2 group hgroup (by simpa using hname)
    obtain ⟨member, hfirst, hrest⟩ := Relation.TransGen.head'_iff.1 hloop
    obtain ⟨group, hgroup, hname, hmember⟩ := hfirst
    rcases List.mem_append.1 hgroup with hgroup | hlast
    · exact hown group hgroup hname
    · rw [List.mem_singleton.1 hlast] at hmember
      have hne : member ≠ "GLOBAL" := by
        intro heq
        rw [groupMembers_globalGroup, List.mem_append, heq] at hmember
        rcases hmember with hmember | hdirect
        · obtain ⟨other, hother, -, hotherName⟩ := mem_globalMembers.1 hmember
          exact hown other hother hotherName
        · exact absurd (List.mem_singleton.1 hdirect) (by decide)
      rcases Relation.reflTransGen_iff_eq_or_transGen.1 hrest with heq | hreaches
      · exact hne heq.symm
      · rcases reaches_of_append (groupName_globalGroup _) hreaches with heq | hreaches
        · exact hne heq
        · exact hmembers member hmember hreaches

/-- The groups of a document form no loop. -/
def Acyclic (mapping : Mapping) : Prop :=
  ∀ groups, groupsOf mapping = some groups → ∀ name, ¬Reaches groups name name

/-- `Main` lists `Outer`, and `Outer` lists GLOBAL. -/
def chainedGroups : List Value :=
  [.mapping [(.string "name", .string "Main"), (.string "proxies", .sequence [.string "Outer"])],
    .mapping [(.string "name", .string "Outer"), (.string "proxies", .sequence [.string "GLOBAL"])]]

/-- The document with the chain of two groups. -/
def chained : Mapping :=
  [(.string "mode", .string "global"), (.string "proxy-groups", .sequence chainedGroups)]

/-- The length of the chain a name begins. -/
def chainLength (name : String) : Nat :=
  if name = "Main" then 2 else if name = "Outer" then 1 else 0

theorem chainLength_lt {name member : String} (h : Refers chainedGroups name member) :
    chainLength member < chainLength name := by
  obtain ⟨group, hgroup, hname, hmember⟩ := h
  rcases List.mem_cons.1 hgroup with rfl | hgroup
  · obtain rfl : "Main" = name := Option.some.inj hname
    rw [List.mem_singleton.1 (show member ∈ ["Outer"] from hmember)]
    decide
  · rw [List.mem_singleton.1 hgroup] at hname hmember
    obtain rfl : "Outer" = name := Option.some.inj hname
    rw [List.mem_singleton.1 (show member ∈ ["GLOBAL"] from hmember)]
    decide

theorem chained_acyclic : Acyclic chained := by
  intro groups hgroups name hloop
  obtain rfl : chainedGroups = groups := Option.some.inj hgroups
  have hlt : ∀ {a b : String}, Reaches chainedGroups a b → chainLength b < chainLength a := by
    intro a b h
    induction h with
    | single hrefers => exact chainLength_lt hrefers
    | tail _ hrefers ih => exact Nat.lt_trans (chainLength_lt hrefers) ih
  exact Nat.lt_irrefl _ (hlt hloop)

/-- `Main` is kept as a member of GLOBAL although GLOBAL is reached from it. -/
theorem routeGlobalMode_loop : ¬∀ mapping, Acyclic mapping → LoopFree mapping := by
  intro h
  have hgenerates : generates chained = true := by decide
  have hconflict : Conflict chainedGroups :=
    Or.inl ⟨_, List.mem_cons_self, by decide, "Main", by decide, _,
      List.mem_cons_of_mem _ List.mem_cons_self, by decide, "Outer", by decide, Or.inr (by decide)⟩
  exact not_loopFree_of_conflict rfl hgenerates hconflict (h chained chained_acyclic)

end MultiCore.Subscription
