import Mathlib.Data.List.Destutter
import Mathlib.Data.String.Basic
import MultiCore.Library.Text
import MultiCore.Library.YamlValue

/-!
# Members of a group

A group of a Mihomo document has the members it lists, then those of all proxies
that it includes, in the order of their names. Members that the group excludes
stay in their place and are not offered. Patterns are regular expressions; an
engine that cannot read one is a parameter, and a list of patterns with one it
cannot read has no effect.
-/

namespace MultiCore.Input

open Yaml

/-- What a pattern matches; none for one that cannot be compiled. -/
structure RegexEngine where
  compile : String → Option (String → Bool)

/-- A member of a group, and whether Mihomo keeps it. -/
structure GroupMember where
  name : String
  offered : Bool
  deriving DecidableEq, Repr

/-- `ProxyGroup`: a group of the document. -/
structure ProxyGroup where
  name : String
  groupType : String
  proxies : List String
  icon : Option String
  hidden : Bool
  members : List GroupMember
  deriving DecidableEq, Repr

/-- What is read of a document. -/
structure MihomoConfig where
  proxyNames : List String
  groups : List ProxyGroup

/-- `MAX_GROUP_ICON_FIELD_BYTES`. -/
def maxGroupIconFieldBytes : Nat := 2048

/-- `MAX_GROUP_PATTERN_BYTES`. -/
def maxGroupPatternBytes : Nat := 4096

/-- A field that is a text. -/
def stringField (value : Value) (key : String) : Option String :=
  (value.get key).bind Value.asStr

/-- A field that is set, written as a truth value or as text. -/
def boolField (value : Value) (key : String) : Bool :=
  match value.get key with
  | some (.bool value) => value
  | some (.string value) => Text.sameName (Text.trim value) "true"
  | _ => false

/-- `mihomo_type_name`: the name that `exclude-type` goes by. -/
def mihomoTypeName (kind : String) : String :=
  match Text.lower kind with
  | "ss" => "Shadowsocks"
  | "ssr" => "ShadowsocksR"
  | "socks5" => "Socks5"
  | "http" => "Http"
  | "hysteria2" | "hy2" => "Hysteria2"
  | "select" => "Selector"
  | "url-test" => "URLTest"
  | "fallback" => "Fallback"
  | "load-balance" => "LoadBalance"
  | "relay" => "Relay"
  | _ => kind

/-- `builtin_type_name`: the type of a node that Mihomo has by itself. -/
def builtinTypeName (name : String) : String :=
  match name with
  | "DIRECT" => "Direct"
  | "REJECT" => "Reject"
  | "REJECT-DROP" => "RejectDrop"
  | "PASS" => "Pass"
  | "COMPATIBLE" => "Compatible"
  | "GLOBAL" => "Selector"
  | _ => ""

/-- The patterns of a field, which stand between grave accents. -/
def patternsOf (patterns : String) : List String := Text.split (· = Char.ofNat 96) patterns

/-- `compile_group_patterns`: all patterns of a field, or none. -/
def compileGroupPatterns (engine : RegexEngine) (patterns : String) :
    Option (List (String → Bool)) :=
  if maxGroupPatternBytes < patterns.utf8ByteSize then none
  else (patternsOf patterns).mapM engine.compile

/-- The names that were not seen before, each once. -/
def unseen (seen : List String) : List String → List String
  | [] => []
  | name :: names =>
    if name ∈ seen then unseen seen names else name :: unseen (name :: seen) names

/-- The names a group asks for besides those it lists. -/
def includedNames (engine : RegexEngine) (group : Value) (allProxies : List String) :
    List String :=
  if boolField group "include-all" || boolField group "include-all-proxies" then
    match (stringField group "filter").filter fun filter => filter ≠ "" with
    | none => allProxies
    | some filter =>
      match compileGroupPatterns engine filter with
      | none => []
      | some filters => allProxies.filter fun name => filters.any fun matched => matched name
  else []

/-- The compiled patterns of `exclude-filter`; what cannot be read excludes nothing. -/
def excludeFilters (engine : RegexEngine) (group : Value) : List (String → Bool) :=
  (((stringField group "exclude-filter").filter fun filter => filter ≠ "").bind
    (compileGroupPatterns engine)).getD []

/-- The types of `exclude-type`. -/
def excludeTypes (group : Value) : List String :=
  match stringField group "exclude-type" with
  | none => []
  | some types => ((Text.split (· = '|') types).map Text.trim).filter fun kind => kind ≠ ""

/-- The type of a member: of the proxy or the group of this name, or of a builtin one. -/
def memberKind (memberTypes : List (String × String)) (name : String) : String :=
  (memberTypes.lookup name).getD (builtinTypeName name)

/-- `group_members`: the listed nodes first, then the included ones. -/
def groupMembers (engine : RegexEngine) (group : Value) (explicit allProxies : List String)
    (memberTypes : List (String × String)) : List GroupMember :=
  let listed := unseen [] explicit
  let names := listed ++ unseen listed (includedNames engine group allProxies)
  names.map fun name =>
    let filtered := (excludeFilters engine group).any fun matched => matched name
    let excludedType := (excludeTypes group).any fun excluded =>
      Text.sameName excluded (memberKind memberTypes name)
    ⟨name, !filtered && !excludedType⟩

/-- The items of a sequence of the document. -/
def itemsOf (mapping : Mapping) (key : String) : List Value :=
  ((get key mapping).bind Value.asSequence).getD []

/-- The names of the document's own nodes. -/
def proxyNames (mapping : Mapping) : List String :=
  (itemsOf mapping "proxies").filterMap fun proxy => stringField proxy "name"

/-- The types of proxies and groups by their names; the first of a name counts. -/
def memberTypes (mapping : Mapping) : List (String × String) :=
  (itemsOf mapping "proxies" ++ itemsOf mapping "proxy-groups").filterMap fun item =>
    match stringField item "name", stringField item "type" with
    | some name, some kind => some (name, mihomoTypeName kind)
    | _, _ => none

/-- All proxies in the order of the bytes of their names, which is that of their characters. -/
def allProxies (mapping : Mapping) : List String :=
  ((proxyNames mapping).mergeSort fun name other => name ≤ other).destutter (· ≠ ·)

/-- The texts a group lists. -/
def explicitProxies (group : Value) : List String :=
  (((group.get "proxies").bind Value.asSequence).getD []).filterMap Value.asStr

/-- A group of the document, if it has a name and a type. -/
def parseGroup (engine : RegexEngine) (mapping : Mapping) (group : Value) : Option ProxyGroup :=
  match stringField group "name", stringField group "type", group.asMapping with
  | some name, some groupType, some _ =>
    let proxies := explicitProxies group
    let icon := ((stringField group "icon").map Text.trim).filter fun icon =>
      icon ≠ "" ∧ icon.utf8ByteSize ≤ maxGroupIconFieldBytes
    let members := groupMembers engine group proxies (allProxies mapping) (memberTypes mapping)
    some ⟨name, groupType, proxies, icon, boolField group "hidden", members⟩
  | _, _, _ => none

/-- The keys that show a document to be Mihomo's. -/
def mihomoRootKeys : List String :=
  ["proxies", "proxy-groups", "rules", "rule-providers", "proxy-providers", "tun", "dns",
    "mixed-port", "socks-port", "redir-port", "tproxy-port", "listeners", "mode"]

/-- A key of the document that is there has a sequence. -/
def validSequence (mapping : Mapping) (key : String) : Bool :=
  match get key mapping with
  | none => true
  | some value => value.asSequence.isSome

/-- An item has a name and a type. -/
def isNamed (item : Value) : Bool :=
  (stringField item "name").isSome && (stringField item "type").isSome

/-- The configuration in a document; none where it is refused. -/
def parseMihomo (engine : RegexEngine) (mapping : Mapping) : Option MihomoConfig :=
  if (mihomoRootKeys.any fun key => (get key mapping).isSome) &&
      (["rules", "proxies", "proxy-groups"].all fun key => validSequence mapping key) &&
      (itemsOf mapping "proxies").all isNamed && (itemsOf mapping "proxy-groups").all isNamed then
    some ⟨proxyNames mapping,
      (itemsOf mapping "proxy-groups").filterMap (parseGroup engine mapping)⟩
  else none

section Meaning

variable (engine : RegexEngine)

/-- The engine reads all patterns of a field that is not too long. -/
def Evaluable (patterns : String) : Prop :=
  patterns.utf8ByteSize ≤ maxGroupPatternBytes ∧
    ∀ pattern ∈ patternsOf patterns, (engine.compile pattern).isSome = true

/-- A pattern of a field matches a name. -/
def Matches (patterns name : String) : Prop :=
  ∃ pattern ∈ patternsOf patterns, ∃ matched, engine.compile pattern = some matched ∧
    matched name = true

/-- A group asks for a proxy besides those it lists. -/
def Includes (group : Value) (name : String) : Prop :=
  (boolField group "include-all" = true ∨ boolField group "include-all-proxies" = true) ∧
    ∀ filter, stringField group "filter" = some filter → filter ≠ "" →
      Evaluable engine filter ∧ Matches engine filter name

/-- An exclude filter applies to a member. -/
def ExcludesByFilter (group : Value) (name : String) : Prop :=
  ∃ filter, stringField group "exclude-filter" = some filter ∧ filter ≠ "" ∧
    Matches engine filter name

/-- An excluded type applies to a member. -/
def ExcludesByType (types : List (String × String)) (group : Value) (name : String) : Prop :=
  ∃ listed, stringField group "exclude-type" = some listed ∧
    ∃ kind ∈ Text.split (· = '|') listed, Text.trim kind ≠ "" ∧
      Text.sameName (Text.trim kind) (memberKind types name) = true

/-- The exclude filter of a group can be evaluated, if it has one. -/
def EvaluableExclude (group : Value) : Prop :=
  ∀ filter, stringField group "exclude-filter" = some filter → Evaluable engine filter

/-- Two groups differ in what they exclude at most. -/
def SameButExcludes (group other : Value) : Prop :=
  ∀ key, key ≠ "exclude-filter" → key ≠ "exclude-type" → other.get key = group.get key

/-- The names of a group's members: first those it lists, in the order of the document, then those
it includes, in the order of their names; the same whatever the group excludes. -/
structure Ordered (mapping : Mapping) (group : Value) (members : List GroupMember) : Prop where
  nodup : (members.map GroupMember.name).Nodup
  names : ∃ listed included, members.map GroupMember.name = listed ++ included ∧
    (∀ name, name ∈ listed ↔ name ∈ explicitProxies group) ∧
    listed.Pairwise (fun name other =>
      (explicitProxies group).idxOf name < (explicitProxies group).idxOf other) ∧
    (∀ name, name ∈ included ↔
      name ∈ proxyNames mapping ∧ name ∉ explicitProxies group ∧ Includes engine group name) ∧
    included.Pairwise (· < ·)
  stable : ∀ other, SameButExcludes group other →
    (groupMembers engine other (explicitProxies other) (allProxies mapping)
      (memberTypes mapping)).map GroupMember.name = members.map GroupMember.name

end Meaning

section Names

/-- What is left of the names when some were seen. -/
theorem mem_unseen {seen names : List String} {name : String} :
    name ∈ unseen seen names ↔ name ∈ names ∧ name ∉ seen := by
  induction names generalizing seen with
  | nil => simp [unseen]
  | cons first names ih =>
    rw [unseen]
    by_cases hseen : first ∈ seen
    · rw [if_pos hseen, ih, List.mem_cons]
      constructor
      · exact fun h => ⟨Or.inr h.1, h.2⟩
      · rintro ⟨rfl | hmem, hnot⟩
        · exact absurd hseen hnot
        · exact ⟨hmem, hnot⟩
    · rw [if_neg hseen, List.mem_cons, ih, List.mem_cons, List.mem_cons, not_or]
      constructor
      · rintro (rfl | ⟨hmem, -, hnot⟩)
        · exact ⟨Or.inl rfl, hseen⟩
        · exact ⟨Or.inr hmem, hnot⟩
      · rintro ⟨hfirst | hmem, hnot⟩
        · exact Or.inl hfirst
        · by_cases heq : name = first
          · exact Or.inl heq
          · exact Or.inr ⟨hmem, heq, hnot⟩

/-- New names are in the order in which they first stand. -/
theorem unseen_pairwise (seen names : List String) :
    (unseen seen names).Pairwise fun name other => names.idxOf name < names.idxOf other := by
  induction names generalizing seen with
  | nil => exact List.Pairwise.nil
  | cons first names ih =>
    have hlater {seen : List String} (hfirst : first ∈ seen) :
        (unseen seen names).Pairwise fun name other =>
          (first :: names).idxOf name < (first :: names).idxOf other := by
      refine (ih seen).imp_of_mem ?_
      intro name other hname hother hlt
      have hne {name : String} (hmem : name ∈ unseen seen names) : first ≠ name :=
        fun heq => (mem_unseen.1 hmem).2 (heq ▸ hfirst)
      rw [List.idxOf_cons_ne _ (hne hname), List.idxOf_cons_ne _ (hne hother)]
      exact Nat.succ_lt_succ hlt
    rw [unseen]
    by_cases hseen : first ∈ seen
    · rw [if_pos hseen]
      exact hlater hseen
    · rw [if_neg hseen, List.pairwise_cons]
      refine ⟨?_, hlater List.mem_cons_self⟩
      intro name hname
      have hne : first ≠ name := fun heq => (mem_unseen.1 hname).2 (heq ▸ List.mem_cons_self)
      rw [List.idxOf_cons_self, List.idxOf_cons_ne _ hne]
      exact Nat.succ_pos _

/-- No name is left twice. -/
theorem nodup_unseen (seen names : List String) : (unseen seen names).Nodup := by
  refine (unseen_pairwise seen names).imp ?_
  rintro name other hlt rfl
  exact Nat.lt_irrefl _ hlt

/-- The names that are left stay in their order. -/
theorem unseen_sublist (seen names : List String) : (unseen seen names).Sublist names := by
  induction names generalizing seen with
  | nil => exact List.Sublist.refl _
  | cons first names ih =>
    rw [unseen]
    by_cases hseen : first ∈ seen
    · rw [if_pos hseen]
      exact (ih seen).cons first
    · rw [if_neg hseen]
      exact (ih (first :: seen)).cons_cons first

/-- All proxies once, in order. -/
theorem allProxies_sorted (mapping : Mapping) : (allProxies mapping).Pairwise (· < ·) ∧
    ∀ name, name ∈ allProxies mapping ↔ name ∈ proxyNames mapping := by
  have hsorted : ((proxyNames mapping).mergeSort fun name other => name ≤ other).Pairwise
      fun name other => name ≤ other := by
    have htrans : ∀ a b c : String, decide (a ≤ b) = true → decide (b ≤ c) = true →
        decide (a ≤ c) = true := fun a b c hab hbc =>
      decide_eq_true (le_trans (of_decide_eq_true hab) (of_decide_eq_true hbc))
    have htotal : ∀ a b : String, (decide (a ≤ b) || decide (b ≤ a)) = true := by
      intro a b
      rw [Bool.or_eq_true, decide_eq_true_eq, decide_eq_true_eq]
      exact le_total a b
    exact (List.pairwise_mergeSort htrans htotal (proxyNames mapping)).imp
      fun h => of_decide_eq_true h
  have hdedup := hsorted.destutter_eq_dedup
  constructor
  · have hle : (allProxies mapping).Pairwise fun name other => name ≤ other :=
      hsorted.sublist (List.destutter_sublist _ _)
    have hnodup : (allProxies mapping).Nodup := by
      rw [allProxies, hdedup]
      exact List.nodup_dedup _
    exact (hle.and hnodup).imp fun h => lt_of_le_of_ne h.1 h.2
  · intro name
    rw [allProxies, hdedup, List.mem_dedup, List.mem_mergeSort]

end Names

section Patterns

variable (engine : RegexEngine)

/-- The patterns of a field compile together or not at all. -/
theorem mapM_compile (patterns : List String) :
    (∃ filters, patterns.mapM engine.compile = some filters ∧
        (∀ pattern ∈ patterns, (engine.compile pattern).isSome = true) ∧
        ∀ name, (filters.any fun matched => matched name) = true ↔
          ∃ pattern ∈ patterns, ∃ matched, engine.compile pattern = some matched ∧
            matched name = true) ∨
      (patterns.mapM engine.compile = none ∧
        ¬∀ pattern ∈ patterns, (engine.compile pattern).isSome = true) := by
  induction patterns with
  | nil => exact Or.inl ⟨[], rfl, by simp, by simp⟩
  | cons pattern patterns ih =>
    rw [List.mapM_cons]
    cases hfirst : engine.compile pattern with
    | none =>
      right
      refine ⟨rfl, fun h => ?_⟩
      have hsome := h pattern List.mem_cons_self
      rw [hfirst] at hsome
      exact nomatch hsome
    | some matched =>
      rcases ih with ⟨filters, hfilters, hall, hany⟩ | ⟨hnone, hnot⟩
      · left
        refine ⟨matched :: filters, by rw [hfilters]; rfl, ?_, ?_⟩
        · simpa [hfirst] using hall
        · intro name
          rw [List.any_cons, Bool.or_eq_true, hany, List.exists_mem_cons_iff, hfirst]
          simp
      · right
        exact ⟨by rw [hnone]; rfl, fun h => hnot fun other hother =>
          h other (List.mem_cons_of_mem _ hother)⟩

/-- The filters of a field that can be evaluated, or none. -/
theorem compileGroupPatterns_cases (patterns : String) :
    (∃ filters, compileGroupPatterns engine patterns = some filters ∧ Evaluable engine patterns ∧
        ∀ name, (filters.any fun matched => matched name) = true ↔
          Matches engine patterns name) ∨
      (compileGroupPatterns engine patterns = none ∧ ¬Evaluable engine patterns) := by
  rw [compileGroupPatterns]
  by_cases hlong : maxGroupPatternBytes < patterns.utf8ByteSize
  · rw [if_pos hlong]
    exact Or.inr ⟨rfl, fun h => Nat.not_le.2 hlong h.1⟩
  · rw [if_neg hlong]
    rcases mapM_compile engine (patternsOf patterns) with
      ⟨filters, hfilters, hall, hany⟩ | ⟨hnone, hnot⟩
    · exact Or.inl ⟨filters, hfilters, ⟨Nat.not_lt.1 hlong, hall⟩, hany⟩
    · exact Or.inr ⟨hnone, fun h => hnot h.2⟩

variable {engine} {group : Value} {name : String}

/-- What a group includes of all nodes. -/
theorem mem_includedNames {allProxies : List String} :
    name ∈ includedNames engine group allProxies ↔
      name ∈ allProxies ∧ Includes engine group name := by
  rw [includedNames, Includes]
  by_cases hall : (boolField group "include-all" || boolField group "include-all-proxies") = true
  · rw [if_pos hall, ← Bool.or_eq_true, hall]
    cases hfilter : stringField group "filter" with
    | none => simp
    | some filter =>
      by_cases hempty : filter = ""
      · rw [Option.filter_some, if_neg (by simpa using hempty)]
        simp [hempty]
      · rw [Option.filter_some, if_pos (decide_eq_true hempty)]
        dsimp only
        rcases compileGroupPatterns_cases engine filter with
          ⟨filters, hfilters, hevaluable, hany⟩ | ⟨hnone, hnot⟩
        · rw [hfilters]
          simp [hany, hevaluable, hempty]
        · rw [hnone]
          simp [hnot, hempty]
  · rw [if_neg hall, ← Bool.or_eq_true]
    simp only [hall, List.not_mem_nil, Bool.false_eq_true, false_and, and_false]

/-- The exclude filters that are used are those of a field that can be evaluated. -/
theorem excludeFilters_iff :
    ((excludeFilters engine group).any fun matched => matched name) = true ↔
      ∃ filter, stringField group "exclude-filter" = some filter ∧ filter ≠ "" ∧
        Evaluable engine filter ∧ Matches engine filter name := by
  rw [excludeFilters]
  cases hfilter : stringField group "exclude-filter" with
  | none => simp
  | some filter =>
    by_cases hempty : filter = ""
    · rw [Option.filter_some, if_neg (by simpa using hempty)]
      simp [hempty]
    · rw [Option.filter_some, if_pos (decide_eq_true hempty), Option.bind_some]
      rcases compileGroupPatterns_cases engine filter with
        ⟨filters, hfilters, hevaluable, hany⟩ | ⟨hnone, hnot⟩
      · rw [hfilters, Option.getD_some, hany]
        simp [hevaluable, hempty]
      · rw [hnone]
        simp [hnot]

/-- What the types exclude. -/
theorem excludeTypes_iff {types : List (String × String)} :
    ((excludeTypes group).any fun excluded => Text.sameName excluded (memberKind types name)) =
      true ↔ ExcludesByType types group name := by
  rw [excludeTypes, ExcludesByType]
  cases htypes : stringField group "exclude-type" with
  | none => simp
  | some listed =>
    dsimp only
    rw [List.any_eq_true]
    constructor
    · rintro ⟨excluded, hexcluded, hsame⟩
      obtain ⟨hmap, hne⟩ := List.mem_filter.1 hexcluded
      obtain ⟨kind, hkind, rfl⟩ := List.mem_map.1 hmap
      exact ⟨listed, rfl, kind, hkind, of_decide_eq_true hne, hsame⟩
    · rintro ⟨_, hlisted, kind, hkind, hne, hsame⟩
      rw [← Option.some.inj hlisted] at hkind
      exact ⟨Text.trim kind, List.mem_filter.2 ⟨List.mem_map_of_mem hkind, decide_eq_true hne⟩,
        hsame⟩

end Patterns

section Members

variable {engine : RegexEngine} {group : Value} {mapping : Mapping}

/-- The members by their names. -/
theorem names_groupMembers (explicit allProxies : List String) (types : List (String × String)) :
    (groupMembers engine group explicit allProxies types).map GroupMember.name =
      unseen [] explicit ++
        unseen (unseen [] explicit) (includedNames engine group allProxies) := by
  rw [groupMembers, List.map_map]
  exact List.map_id _

/-- The members that a group has in its document. -/
def membersOf (engine : RegexEngine) (mapping : Mapping) (group : Value) : List GroupMember :=
  groupMembers engine group (explicitProxies group) (allProxies mapping) (memberTypes mapping)

/-- What is included does not depend on what is excluded. -/
theorem includedNames_congr {other : Value} (h : SameButExcludes group other)
    (allProxies : List String) :
    includedNames engine other allProxies = includedNames engine group allProxies := by
  have hall : boolField other "include-all" = boolField group "include-all" := by
    rw [boolField, h _ (by decide) (by decide), boolField]
  have hproxies : boolField other "include-all-proxies" =
      boolField group "include-all-proxies" := by
    rw [boolField, h _ (by decide) (by decide), boolField]
  have hfilter : stringField other "filter" = stringField group "filter" := by
    rw [stringField, h _ (by decide) (by decide), stringField]
  rw [includedNames, hall, hproxies, hfilter, includedNames]

/-- Included nodes stay in their order. -/
theorem includedNames_sublist (engine : RegexEngine) (group : Value) (allProxies : List String) :
    (includedNames engine group allProxies).Sublist allProxies := by
  rw [includedNames]
  split
  · split
    · exact List.Sublist.refl _
    · split
      · exact List.nil_sublist _
      · exact List.filter_sublist
  · exact List.nil_sublist _

/-- The members of a group stand in the order of Mihomo. -/
theorem ordered_membersOf (engine : RegexEngine) (mapping : Mapping) (group : Value) :
    Ordered engine mapping group (membersOf engine mapping group) := by
  obtain ⟨hsorted, hall⟩ := allProxies_sorted mapping
  have hlisted : ∀ name, name ∈ unseen [] (explicitProxies group) ↔
      name ∈ explicitProxies group := fun name => by simp [mem_unseen]
  constructor
  · rw [membersOf, names_groupMembers, List.nodup_append]
    refine ⟨nodup_unseen _ _, nodup_unseen _ _, ?_⟩
    rintro name hname other hother rfl
    exact (mem_unseen.1 hother).2 hname
  · refine ⟨_, _, names_groupMembers _ _ _, hlisted, unseen_pairwise _ _, ?_, ?_⟩
    · intro name
      rw [mem_unseen, mem_includedNames, hall, hlisted, and_assoc, and_comm (b := _ ∉ _)]
    · exact hsorted.sublist ((unseen_sublist _ _).trans (includedNames_sublist _ _ _))
  · intro other hother
    have hexplicit : explicitProxies other = explicitProxies group := by
      rw [explicitProxies, explicitProxies, hother "proxies" (by decide) (by decide)]
    rw [membersOf, names_groupMembers, names_groupMembers, hexplicit, includedNames_congr hother]

/-- A member is offered unless it is excluded, by filters that can be evaluated or by type. -/
theorem offered_membersOf {member : GroupMember} (h : member ∈ membersOf engine mapping group) :
    member.offered = true ↔
      ¬(EvaluableExclude engine group ∧ ExcludesByFilter engine group member.name) ∧
        ¬ExcludesByType (memberTypes mapping) group member.name := by
  rw [membersOf, groupMembers] at h
  obtain ⟨name, -, rfl⟩ := List.mem_map.1 h
  have hfilter : (((excludeFilters engine group).any fun matched => matched name) = true) ↔
      EvaluableExclude engine group ∧ ExcludesByFilter engine group name := by
    rw [excludeFilters_iff]
    constructor
    · rintro ⟨filter, hfield, hne, hevaluable, hmatches⟩
      refine ⟨?_, filter, hfield, hne, hmatches⟩
      intro other hother
      rw [hfield] at hother
      rw [← Option.some.inj hother]
      exact hevaluable
    · rintro ⟨hevaluable, filter, hfield, hne, hmatches⟩
      exact ⟨filter, hfield, hne, hevaluable filter hfield, hmatches⟩
  dsimp only
  rw [Bool.and_eq_true, Bool.not_eq_true', Bool.not_eq_true', ← hfilter, ← excludeTypes_iff,
    Bool.not_eq_true, Bool.not_eq_true]

/-- A group with a name and a type is one of the configuration's. -/
theorem parseGroup_of_named (engine : RegexEngine) (mapping : Mapping)
    (h : isNamed group = true) :
    ∃ parsed, parseGroup engine mapping group = some parsed ∧
      parsed.members = membersOf engine mapping group := by
  rw [isNamed, Bool.and_eq_true, Option.isSome_iff_exists, Option.isSome_iff_exists] at h
  obtain ⟨⟨name, hname⟩, kind, hkind⟩ := h
  have hmapping : ∃ fields, group.asMapping = some fields := by
    rw [stringField, Option.bind_eq_some_iff] at hname
    obtain ⟨value, hvalue, -⟩ := hname
    rw [Value.get, Option.bind_eq_some_iff] at hvalue
    obtain ⟨fields, hfields, -⟩ := hvalue
    exact ⟨fields, hfields⟩
  obtain ⟨fields, hfields⟩ := hmapping
  rw [parseGroup, hname, hkind, hfields]
  exact ⟨_, rfl, rfl⟩

/-- The groups of a document that is accepted have the members that are listed and included, in
that order, and offer those that nothing excludes. -/
theorem members_spec {config : MihomoConfig} (h : parseMihomo engine mapping = some config) :
    List.Forall₂ (fun group parsed => Ordered engine mapping group parsed.members ∧
        ∀ member ∈ parsed.members, member.offered = true ↔
          ¬(EvaluableExclude engine group ∧ ExcludesByFilter engine group member.name) ∧
            ¬ExcludesByType (memberTypes mapping) group member.name)
      (itemsOf mapping "proxy-groups") config.groups := by
  rw [parseMihomo] at h
  split_ifs at h with hvalid
  rw [← Option.some.inj h]
  simp only [Bool.and_eq_true, List.all_eq_true] at hvalid
  have hnamed := hvalid.2
  generalize itemsOf mapping "proxy-groups" = groups at hnamed ⊢
  induction groups with
  | nil => exact List.Forall₂.nil
  | cons group groups ih =>
    have hrest := ih fun other hother => hnamed other (List.mem_cons_of_mem _ hother)
    obtain ⟨parsed, hparsed, hmembers⟩ :=
      parseGroup_of_named engine mapping (hnamed group List.mem_cons_self)
    rw [List.filterMap_cons_some hparsed]
    refine List.Forall₂.cons ?_ hrest
    rw [hmembers]
    exact ⟨ordered_membersOf engine mapping group, fun member => offered_membersOf⟩

end Members

section Samples

/-- An engine that reads plain texts, and no look-behind. -/
def plainEngine : RegexEngine where
  compile pattern :=
    if pattern = "(?<=x)b" then none else some fun name => Text.contains name pattern

/-- A group with one member, and this exclude filter. -/
def sampleGroup (filter : String) : Value :=
  .mapping [(.string "name", .string "Main"), (.string "type", .string "select"),
    (.string "exclude-filter", .string filter),
    (.string "proxies", .sequence [.string "HK 1"])]

/-- A document with one node and one group. -/
def sampleDocument (filter : String) : Mapping :=
  [(.string "proxies", .sequence [.mapping [(.string "name", .string "HK 1"),
      (.string "type", .string "vless")]]),
    (.string "proxy-groups", .sequence [sampleGroup filter])]

/-- What is read of it. -/
def sampleConfig (filter : String) : MihomoConfig :=
  ⟨proxyNames (sampleDocument filter), (itemsOf (sampleDocument filter) "proxy-groups").filterMap
    (parseGroup plainEngine (sampleDocument filter))⟩

/-- A proxy of a kind. -/
def sampleProxy (name kind : String) : Value :=
  .mapping [(.string "name", .string name), (.string "type", .string kind)]

/-- A group that lists some members and includes the proxies that a filter matches. -/
def includingGroup (name filter excludeType : String) (listed : List String) : Value :=
  .mapping [(.string "name", .string name), (.string "type", .string "select"),
    (.string "include-all", .bool true), (.string "filter", .string filter),
    (.string "exclude-type", .string excludeType),
    (.string "proxies", .sequence (listed.map .string))]

/-- Groups that list a member twice, list another group, include proxies and exclude types, beside
one with a filter that cannot be read. -/
def includingDocument : Mapping :=
  [(.string "proxies", .sequence [sampleProxy "US 1" "vless", sampleProxy "JP 2" "trojan",
      sampleProxy "JP 1" "ss", sampleProxy "HK 1" "vless"]),
    (.string "proxy-groups", .sequence [
      includingGroup "Main" "JP" "trojan | ShadowSocks" ["Asia", "US 1", "Asia"],
      includingGroup "Asia" (String.ofList ['J', 'P', Char.ofNat 96, 'H', 'K']) "" ["JP 2"],
      sampleGroup "(?<=x)b"])]

/-- What is read of the document whose group includes all nodes. -/
def includingConfig : MihomoConfig :=
  ⟨proxyNames includingDocument, (itemsOf includingDocument "proxy-groups").filterMap
    (parseGroup plainEngine includingDocument)⟩

theorem members_spec_including :
    List.Forall₂ (fun group parsed =>
      Ordered plainEngine includingDocument group parsed.members ∧
        ∀ member ∈ parsed.members, member.offered = true ↔
          ¬(EvaluableExclude plainEngine group ∧
            ExcludesByFilter plainEngine group member.name) ∧
            ¬ExcludesByType (memberTypes includingDocument) group member.name)
      (itemsOf includingDocument "proxy-groups") includingConfig.groups :=
  members_spec (if_pos (by decide))

/-- A filter applies to a member that is offered, when another one beside it cannot be read. -/
theorem members_ignore_filter :
    ¬∀ engine mapping config, parseMihomo engine mapping = some config →
      List.Forall₂ (fun group parsed => ∀ member ∈ parsed.members, member.offered = true ↔
          ¬ExcludesByFilter engine group member.name ∧
            ¬ExcludesByType (memberTypes mapping) group member.name)
        (itemsOf mapping "proxy-groups") config.groups := by
  intro h
  have hgroups := h plainEngine (sampleDocument "HK`(?<=x)b") (sampleConfig "HK`(?<=x)b")
    (if_pos (by decide))
  have hnamed : isNamed (sampleGroup "HK`(?<=x)b") = true := by decide
  obtain ⟨parsed, hparsed, hmembers⟩ :=
    parseGroup_of_named plainEngine (sampleDocument "HK`(?<=x)b") hnamed
  have hitems : itemsOf (sampleDocument "HK`(?<=x)b") "proxy-groups" =
      [sampleGroup "HK`(?<=x)b"] := rfl
  have honly : membersOf plainEngine (sampleDocument "HK`(?<=x)b")
      (sampleGroup "HK`(?<=x)b") = [⟨"HK 1", true⟩] := by
    decide
  rw [sampleConfig, hitems, List.filterMap_cons_some hparsed, List.forall₂_cons, hmembers,
    honly] at hgroups
  have hoffered := (hgroups.1 ⟨"HK 1", true⟩ List.mem_cons_self).1 rfl
  refine hoffered.1 ⟨"HK`(?<=x)b", by decide, by decide, "HK", by decide, ?_⟩
  have hcompile : plainEngine.compile "HK" = some fun name => Text.contains name "HK" := by
    have hne : "HK" ≠ "(?<=x)b" := by decide
    simp only [plainEngine, if_neg hne]
  exact ⟨_, hcompile, by decide⟩

end Samples

end MultiCore.Input
