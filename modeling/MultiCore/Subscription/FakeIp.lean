import MultiCore.Library.Text
import MultiCore.Library.YamlValue

/-!
# Real addresses in fake-ip mode

Mihomo may answer a name with an address that means something inside the tunnel
only. The endpoints the tunnel is dialled to need real ones, so they are written
into the provider's filter: onto a list of names with real addresses, off a list
of names with fake ones, or in front of a list of rules. How Mihomo reads one
entry of a filter is a parameter; a list takes effect through any of its
entries, rules through the first one that decides.
-/

namespace MultiCore.Subscription

open Yaml

/-- How a fake-ip filter is read. -/
inductive FilterMode where
  | blacklist
  | whitelist
  | rule
  deriving DecidableEq, Repr

/-- How Mihomo reads one entry: whether it covers a name, and whether, as a rule, it gives a
name a real address or a fake one. -/
structure Matcher where
  covers : Value → String → Bool
  decides : Value → String → Option Bool

/-- Whether a name gets a real address. -/
def Matcher.real (m : Matcher) (mode : FilterMode) (filter : List Value) (name : String) : Bool :=
  match mode with
  | .blacklist => filter.any fun entry => m.covers entry name
  | .whitelist => !filter.any fun entry => m.covers entry name
  | .rule => (filter.findSome? fun entry => m.decides entry name).getD false

/-- `is_fake_ip`. -/
def isFakeIp (dns : Mapping) : Bool :=
  match (get "enhanced-mode" dns).bind Value.asStr with
  | some mode => Text.sameName (Text.trim mode) "fake-ip"
  | none => false

/-- The text of the filter's mode; a mode that is no text has none. -/
def filterModeText (dns : Mapping) : Option String :=
  match get "fake-ip-filter-mode" dns with
  | none => some "blacklist"
  | some .null => some "blacklist"
  | some mode => mode.asStr.map fun text => Text.lower (Text.trim text)

/-- The value of `fake-ip-filter-mode`. -/
def FilterMode.parse (text : String) : Option FilterMode :=
  if text = "blacklist" then some .blacklist
  else if text = "rule" then some .rule
  else if text = "whitelist" then some .whitelist
  else none

/-- Whether an entry reads as this text. -/
def reads (wanted : String) (entry : Value) : Bool :=
  match entry.asStr with
  | some text => Text.sameName (Text.trim text) wanted
  | none => false

/-- Whether the filter lists the entry, in any spelling that is read as it. -/
def listed (filter : List Value) (wanted : String) : Bool := filter.any (reads wanted)

/-- The rule that gives a name a real address. -/
def realIpRule (domain : String) : String := "DOMAIN," ++ domain ++ ",real-ip"

/-- Adds a name that is not listed. -/
def addMissing (filter : List Value) (domain : String) : List Value :=
  if listed filter domain then filter else filter ++ [.string domain]

/-- Whether an entry is one of these names. -/
def isOneOf (domains : List String) (entry : Value) : Bool :=
  domains.any fun domain => reads domain entry

/-- The filter with these names exempt. -/
def exemptFilter (mode : FilterMode) (domains : List String) (filter : List Value) : List Value :=
  match mode with
  | .blacklist => domains.foldl addMissing filter
  | .rule => ((domains.map realIpRule).filter fun rule => !listed filter rule).map .string ++ filter
  | .whitelist => filter.filter fun entry => !isOneOf domains entry

/-- The filter before anything is exempt, with an empty list in place of nothing. -/
def filterOrEmpty (dns : Mapping) : Value :=
  match get "fake-ip-filter" dns with
  | none => .sequence []
  | some filter => if filter.isNull then .sequence [] else filter

/-- Makes Mihomo answer these names with real addresses in fake-ip mode. -/
def exemptFromFakeIp (dns : Mapping) (domains : List String) : Mapping :=
  if !isFakeIp dns || domains.isEmpty then dns
  else
    match filterModeText dns with
    | none => dns
    | some text =>
      let exempt := match FilterMode.parse text with
        | some mode => exemptFilter mode domains
        | none => id
      insert "fake-ip-filter" ((filterOrEmpty dns).mapSequence exempt) dns

/-- The filter Mihomo uses for a dns section, and its mode. -/
def Filters (dns : Mapping) (mode : FilterMode) (filter : List Value) : Prop :=
  isFakeIp dns = true ∧ (filterModeText dns).bind FilterMode.parse = some mode ∧
    (filterOrEmpty dns).asSequence = some filter

/-- What is known of Mihomo's reading: an entry that is a name covers it, a real-ip rule for a
name gives it a real address, and none gives any of these names a fake one. -/
structure Matcher.Documented (m : Matcher) (domains : List String) : Prop where
  itself : ∀ domain ∈ domains, m.covers (.string domain) domain = true
  exact : ∀ domain ∈ domains, ∀ entry, reads domain entry = true → m.covers entry domain = true
  rule : ∀ domain ∈ domains, m.decides (.string (realIpRule domain)) domain = some true
  others : ∀ domain ∈ domains, ∀ other ∈ domains,
    m.decides (.string (realIpRule other)) domain ≠ some false

section Section

variable {dns : Mapping} {domains : List String} {mode : FilterMode} {filter : List Value}

theorem filterModeText_insert (value : Value) :
    filterModeText (insert "fake-ip-filter" value dns) = filterModeText dns := by
  rw [filterModeText, get_insert_ne (by decide), filterModeText]

/-- The filter that was written is the one used from then on. -/
theorem filterOrEmpty_insert (f : List Value → List Value) :
    (filterOrEmpty (insert "fake-ip-filter" ((filterOrEmpty dns).mapSequence f) dns)).asSequence =
      (filterOrEmpty dns).asSequence.map f := by
  have hnull : (filterOrEmpty dns).isNull = false := by
    unfold filterOrEmpty
    cases get "fake-ip-filter" dns with
    | none => rfl
    | some value =>
      by_cases hnull : value.isNull = true
      · simp only [hnull, if_true]
        rfl
      · simp [hnull]
  rw [filterOrEmpty, get_insert]
  simp only [Value.mapSequence_isNull, hnull, Bool.false_eq_true, if_false]
  exact Value.mapSequence_asSequence f _

/-- The filter of the section that was made is the one before with the names exempt. -/
theorem filters_exempt (hdomains : domains ≠ [])
    (h : Filters (exemptFromFakeIp dns domains) mode filter) :
    ∃ before, Filters dns mode before ∧ filter = exemptFilter mode domains before := by
  by_cases hfake : isFakeIp dns = true
  · have hrun : (!isFakeIp dns || domains.isEmpty) = false := by simp [hfake, hdomains]
    rw [exemptFromFakeIp, hrun] at h
    cases htext : filterModeText dns with
    | none =>
      simp only [htext, Bool.false_eq_true, if_false] at h
      obtain ⟨-, hmode, -⟩ := h
      rw [htext] at hmode
      exact nomatch hmode
    | some text =>
      simp only [htext, Bool.false_eq_true, if_false] at h
      obtain ⟨-, hmode, hfilter⟩ := h
      rw [filterModeText_insert, htext, Option.bind_some] at hmode
      rw [hmode, filterOrEmpty_insert, Option.map_eq_some_iff] at hfilter
      obtain ⟨before, hbefore, hfilter⟩ := hfilter
      refine ⟨before, ⟨hfake, ?_, hbefore⟩, hfilter.symm⟩
      rw [htext, Option.bind_some, hmode]
  · have hrun : (!isFakeIp dns || domains.isEmpty) = true := by simp [hfake]
    rw [exemptFromFakeIp, if_pos hrun] at h
    exact absurd h.1 hfake

end Section

section Modes

variable {m : Matcher} {domains : List String} {filter : List Value}

theorem mem_addMissing {entry : Value} (h : entry ∈ filter) (domain : String) :
    entry ∈ addMissing filter domain := by
  unfold addMissing
  by_cases hlisted : listed filter domain = true
  · rw [if_pos hlisted]
    exact h
  · rw [if_neg hlisted]
    exact List.mem_append_left _ h

theorem exists_addMissing (filter : List Value) (domain : String) :
    ∃ entry ∈ addMissing filter domain, entry = .string domain ∨ reads domain entry = true := by
  unfold addMissing
  by_cases hlisted : listed filter domain = true
  · obtain ⟨entry, hentry, hreads⟩ := List.any_eq_true.1 hlisted
    rw [if_pos hlisted]
    exact ⟨entry, hentry, Or.inr hreads⟩
  · rw [if_neg hlisted]
    exact ⟨_, List.mem_append_right _ List.mem_cons_self, Or.inl rfl⟩

theorem mem_foldl_addMissing {entry : Value} (h : entry ∈ filter) (domains : List String) :
    entry ∈ domains.foldl addMissing filter := by
  induction domains generalizing filter with
  | nil => exact h
  | cons domain domains ih => exact ih (mem_addMissing h domain)

/-- Every name of the list ends up listed. -/
theorem exists_foldl_addMissing (filter : List Value) {domain : String} (h : domain ∈ domains) :
    ∃ entry ∈ domains.foldl addMissing filter,
      entry = .string domain ∨ reads domain entry = true := by
  induction domains generalizing filter with
  | nil => exact absurd h List.not_mem_nil
  | cons first domains ih =>
    rcases List.mem_cons.1 h with rfl | h
    · obtain ⟨entry, hentry, hreads⟩ := exists_addMissing filter domain
      exact ⟨entry, mem_foldl_addMissing hentry domains, hreads⟩
    · exact ih _ h

theorem real_blacklist (hm : m.Documented domains) {domain : String} (h : domain ∈ domains) :
    m.real .blacklist (exemptFilter .blacklist domains filter) domain = true := by
  obtain ⟨entry, hentry, hreads⟩ := exists_foldl_addMissing filter h
  apply List.any_eq_true.2
  refine ⟨entry, hentry, ?_⟩
  rcases hreads with rfl | hreads
  · exact hm.itself domain h
  · exact hm.exact domain h entry hreads

theorem real_whitelist (domain : String) :
    m.real .whitelist (exemptFilter .whitelist domains filter) domain = true ↔
      ∀ entry ∈ filter, m.covers entry domain = true → isOneOf domains entry = true := by
  rw [Matcher.real, exemptFilter, Bool.not_eq_true', List.any_eq_false]
  constructor
  · intro h entry hentry hcovers
    by_contra hother
    exact h entry (List.mem_filter.2 ⟨hentry, by simpa using hother⟩) hcovers
  · intro h entry hentry hcovers
    obtain ⟨hmem, hother⟩ := List.mem_filter.1 hentry
    rw [h entry hmem hcovers] at hother
    exact nomatch hother

/-- A list with an entry that decides for a real address and none for a fake one. -/
theorem findSome?_real {rules : List Value} {name : String} {rule : Value} (hrule : rule ∈ rules)
    (hreal : m.decides rule name = some true)
    (hothers : ∀ other ∈ rules, m.decides other name ≠ some false) :
    (rules.findSome? fun entry => m.decides entry name) = some true := by
  cases hfound : rules.findSome? fun entry => m.decides entry name with
  | none =>
    have hnone := List.findSome?_eq_none_iff.1 hfound rule hrule
    rw [hreal] at hnone
    exact nomatch hnone
  | some decision =>
    obtain ⟨other, hother, hdecides⟩ := List.exists_of_findSome?_eq_some hfound
    cases decision with
    | true => rfl
    | false => exact absurd hdecides (hothers other hother)

theorem real_rule (hm : m.Documented domains) {domain : String} (h : domain ∈ domains)
    (hnew : listed filter (realIpRule domain) = false) :
    m.real .rule (exemptFilter .rule domains filter) domain = true := by
  have hrule : Value.string (realIpRule domain) ∈
      ((domains.map realIpRule).filter fun rule => !listed filter rule).map .string := by
    refine List.mem_map_of_mem (List.mem_filter.2 ⟨List.mem_map_of_mem h, ?_⟩)
    rw [hnew]
    rfl
  have hfirst := findSome?_real hrule (hm.rule domain h) fun other hother => by
    obtain ⟨rule, hmem, rfl⟩ := List.mem_map.1 hother
    obtain ⟨name, hname, rfl⟩ := List.mem_map.1 (List.mem_filter.1 hmem).1
    exact hm.others domain h name hname
  rw [Matcher.real, exemptFilter, List.findSome?_append, hfirst]
  rfl

end Modes

/-- What the change of the filter does for a name, by mode: on a blacklist it gets a real address;
on a whitelist it does unless an entry covers it that is none of the names; among rules it does
unless its rule stood there before. -/
def Exempt (m : Matcher) (domains : List String) (mode : FilterMode) (before after : List Value)
    (domain : String) : Prop :=
  match mode with
  | .blacklist => m.real .blacklist after domain = true
  | .whitelist => m.real .whitelist after domain = true ↔
      ∀ entry ∈ before, m.covers entry domain = true → isOneOf domains entry = true
  | .rule => listed before (realIpRule domain) = false → m.real .rule after domain = true

/-- A reading of entries: a name covers itself, and one behind `+.` all that ends in it; a rule
for a domain or a suffix gives the addresses it names last. -/
def plainMatcher : Matcher where
  covers entry name :=
    match entry.asStr with
    | some text =>
      Text.sameName (Text.trim text) name ||
        (Text.startsWith text "+." && Text.endsWith name (String.ofList (text.toList.drop 1)))
    | none => false
  decides entry name :=
    match (entry.asStr.map fun text => Text.split (· = ',') text) with
    | some ["DOMAIN", domain, target] => if domain = name then some (target = "real-ip") else none
    | some ["DOMAIN-SUFFIX", suffix, target] =>
      if Text.endsWith name ("." ++ suffix) then some (target = "real-ip") else none
    | _ => none

end MultiCore.Subscription
