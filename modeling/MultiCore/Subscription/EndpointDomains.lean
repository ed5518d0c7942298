import MultiCore.Library.Address
import MultiCore.Library.JsonValue
import Mathlib.Data.Finset.Sort
import Mathlib.Data.String.Basic

/-!
# Endpoint domains

The names of the servers that an Xray configuration connects to, in the form
that the resolver rules of both engines take them. An address string is trimmed,
loses one dot at its end and is put in lower case; whether it is an internet
address is asked before that. So a string that is none before may be one after,
and what is neither may still be no domain: the strings that give a usable name
are described here by how they are written.
-/

namespace MultiCore.Subscription

/-- `MAX_CONFIG_BYTES`, 32 mebibytes. -/
def maxConfigBytes : Nat := 32 * 1024 * 1024

/-- `ConfigError`. -/
inductive ConfigError where
  | tooLarge
  | invalidUtf8
  | invalidMihomo
  | invalidXray
  deriving DecidableEq, Repr

/-- An Xray configuration that was accepted: the bytes of a JSON object. -/
structure XrayConfig where
  raw : ByteArray

section Collection

-- The JSON parser: the value some bytes write, or why they write none.
variable (fromSlice : ByteArray → Except String Json.Value)

/-- `parse_xray`: size, encoding, form. -/
def parseXray (raw : ByteArray) : Except ConfigError XrayConfig :=
  if maxConfigBytes < raw.size then .error .tooLarge
  else if raw.validateUTF8 = false then .error .invalidUtf8
  else match fromSlice raw with
    | .error _ => .error .invalidXray
    | .ok document => if document.asObject.isNone then .error .invalidXray else .ok ⟨raw⟩

/-- The address strings of an outbound, of its own or of its servers, that may be domains. -/
def outboundServerDomains (outbound : List (String × Json.Value)) : List String :=
  match (Json.get "settings" outbound).bind Json.Value.asObject with
  | none => []
  | some settings =>
    let direct := (Json.get "address" settings).bind Json.Value.asStr
    let servers := ["servers", "vnext"].filterMap fun key =>
      (Json.get key settings).bind Json.Value.asArray
    let addresses := servers.flatten.filterMap fun server =>
      (server.get "address").bind Json.Value.asStr
    ((direct.toList ++ addresses).filter fun address => (IpAddr.parse address).isNone).filter
      fun address => !address.isEmpty && !address.toList.any Text.isControl

/-- The address strings of all outbounds, each once. -/
def collectDomains : List Json.Value → Except String (Finset String)
  | [] => .ok ∅
  | outbound :: rest =>
    match outbound.asObject with
    | none => .error "validated Xray outbound is not an object"
    | some outbound =>
      (collectDomains rest).map fun domains => (outboundServerDomains outbound).toFinset ∪ domains

/-- `xray_outbound_server_domains`: the hosts of the outbounds, as they are spelled. -/
def xrayOutboundServerDomains (config : XrayConfig) : Except String (List String) :=
  match fromSlice config.raw with
  | .error reason => .error ("validated Xray document is invalid: " ++ reason)
  | .ok document =>
    match (document.get "outbounds").bind Json.Value.asArray with
    | none => .error "validated Xray outbounds section is not an array"
    | some outbounds => (collectDomains outbounds).map fun domains => domains.sort (· ≤ ·)

/-- The name that an address string gives a rule for. -/
def normalized (domain : String) : String :=
  let domain := Text.trim domain
  Text.lower ((Text.stripSuffix domain ".").getD domain)

/-- The hosts without their spelling, each once. -/
def normalizedEndpointDomains (config : XrayConfig) : Except String (Finset String) :=
  (xrayOutboundServerDomains fromSlice config).map fun domains =>
    (domains.map normalized).toFinset

end Collection

/-- A name that a resolver rule can be about. Which letters beyond ASCII are capitals is a
parameter. -/
structure Usable (capital : Char → Bool) (name : String) : Prop where
  nonempty : name ≠ ""
  lowerCase : ∀ c ∈ name.toList, ¬(65 ≤ c.toNat ∧ c.toNat ≤ 90) ∧
    (Text.isAsciiChar c = false → capital c = false)
  noLeadingDot : Text.startsWith name "." = false
  noTrailingDot : Text.endsWith name "." = false
  noEmptyLabel : "" ∉ Text.split (· == '.') name
  noWhitespace : ∀ c ∈ name.toList, Text.isWhitespace c = false
  notAddress : IpAddr.parse name = none
  notAddressWithoutDot : IpAddr.parse ((Text.stripSuffix name ".").getD name) = none

/-- A label of a domain as a subscription may write it. -/
structure Label (capital : Char → Bool) (label : List Char) : Prop where
  nonempty : label ≠ []
  noDot : '.' ∉ label
  noWhitespace : ∀ c ∈ label, Text.isWhitespace c = false
  noCapital : ∀ c ∈ label, Text.isAsciiChar c = false → capital c = false

/-- White space, labels with one dot between them and at most one after, and white space; in lower
case the labels and dots write no internet address. -/
def WellWritten (capital : Char → Bool) (address : String) : Prop :=
  ∃ before labels dot after,
    address.toList = before ++ List.intercalate ['.'] labels ++ dot ++ after ∧
    (∀ c ∈ before, Text.isWhitespace c = true) ∧ (∀ c ∈ after, Text.isWhitespace c = true) ∧
    (dot = [] ∨ dot = ['.']) ∧ labels ≠ [] ∧ (∀ label ∈ labels, Label capital label) ∧
    IpAddr.parse (String.ofList ((List.intercalate ['.'] labels).map Text.lowerChar)) = none

/-- An address string of a document that the collection takes: one of the settings of an outbound,
or of one of its servers. -/
def EndpointAddress (document : Json.Value) (address : String) : Prop :=
  ∃ outbounds outbound settings,
    document.get "outbounds" = some (.array outbounds) ∧ outbound ∈ outbounds ∧
    outbound.get "settings" = some settings ∧
    (settings.get "address" = some (.string address) ∨
      ∃ key servers server, (key = "servers" ∨ key = "vnext") ∧
        settings.get key = some (.array servers) ∧ server ∈ servers ∧
        server.get "address" = some (.string address)) ∧
    IpAddr.parse address = none ∧ address ≠ "" ∧ ∀ c ∈ address.toList, Text.isControl c = false

/-- The outbounds of a document are an array of objects. -/
def HasOutbounds (document : Json.Value) : Prop :=
  ∃ outbounds, document.get "outbounds" = some (.array outbounds) ∧
    ∀ outbound ∈ outbounds, ∃ fields, outbound = .object fields

/-- The address strings that an outbound has. -/
theorem mem_outboundServerDomains {outbound : List (String × Json.Value)} {address : String} :
    address ∈ outboundServerDomains outbound ↔
      ∃ settings, Json.get "settings" outbound = some (.object settings) ∧
        (Json.get "address" settings = some (.string address) ∨
          ∃ key servers server, (key = "servers" ∨ key = "vnext") ∧
            Json.get key settings = some (.array servers) ∧ server ∈ servers ∧
            server.get "address" = some (.string address)) ∧
        IpAddr.parse address = none ∧ address ≠ "" ∧
        ∀ c ∈ address.toList, Text.isControl c = false := by
  unfold outboundServerDomains
  cases hsettings : (Json.get "settings" outbound).bind Json.Value.asObject with
  | none =>
    constructor
    · exact fun h => absurd h List.not_mem_nil
    · rintro ⟨settings, hget, -⟩
      rw [hget] at hsettings
      exact nomatch hsettings
  | some settings =>
    have hget : Json.get "settings" outbound = some (.object settings) := by
      obtain ⟨v, hv, hobject⟩ := Option.bind_eq_some_iff.1 hsettings
      rw [hv, Json.Value.asObject_eq_some.1 hobject]
    rw [hget]
    simp only [List.mem_filter, List.mem_append, Option.mem_toList, List.mem_filterMap,
      List.mem_flatten, Option.bind_eq_some_iff, Json.Value.asStr_eq_some,
      Json.Value.asArray_eq_some, Option.some.injEq, Json.Value.object.injEq, exists_eq_left',
      exists_eq_right, Option.isNone_iff_eq_none, Bool.and_eq_true, Bool.not_eq_true',
      List.any_eq_false, String.isEmpty_eq_false_iff, List.mem_cons, List.not_mem_nil, or_false,
      Bool.not_eq_true]
    rw [and_assoc]
    apply and_congr_left'
    apply or_congr_right
    constructor
    · rintro ⟨server, ⟨servers, ⟨key, hkey, hservers⟩, hmem⟩, haddress⟩
      exact ⟨key, servers, server, hkey, hservers, hmem, haddress⟩
    · rintro ⟨key, servers, server, hkey, hservers, hmem, haddress⟩
      exact ⟨server, ⟨servers, ⟨key, hkey, hservers⟩, hmem⟩, haddress⟩

/-- What an array of outbounds gives when it is collected. -/
theorem collectDomains_eq_ok {outbounds : List Json.Value} {domains : Finset String}
    (h : collectDomains outbounds = .ok domains) :
    (∀ outbound ∈ outbounds, ∃ fields, outbound = .object fields) ∧
      ∀ address, address ∈ domains ↔ ∃ fields, Json.Value.object fields ∈ outbounds ∧
        address ∈ outboundServerDomains fields := by
  induction outbounds generalizing domains with
  | nil =>
    have hempty : domains = ∅ := by
      simpa [collectDomains] using h.symm
    simp [hempty]
  | cons outbound rest ih =>
    unfold collectDomains at h
    cases hobject : outbound.asObject with
    | none =>
      rw [hobject] at h
      exact nomatch h
    | some fields =>
      rw [hobject] at h
      cases hrest : collectDomains rest with
      | error reason =>
        simp only [hrest] at h
        exact nomatch h
      | ok others =>
        have hunion : (outboundServerDomains fields).toFinset ∪ others = domains := by
          simpa [hrest, Except.map] using h
        obtain ⟨hobjects, hmem⟩ := ih hrest
        have hfields : outbound = .object fields := Json.Value.asObject_eq_some.1 hobject
        constructor
        · intro o ho
          rcases List.mem_cons.1 ho with rfl | ho
          · exact ⟨fields, hfields⟩
          · exact hobjects o ho
        · intro address
          rw [← hunion, Finset.mem_union, List.mem_toFinset, hmem, hfields]
          simp only [List.mem_cons, Json.Value.object.injEq]
          constructor
          · rintro (hown | ⟨others', hin, hother⟩)
            · exact ⟨fields, Or.inl rfl, hown⟩
            · exact ⟨others', Or.inr hin, hother⟩
          · rintro ⟨others', rfl | hin, hother⟩
            · exact Or.inl hother
            · exact Or.inr ⟨others', hin, hother⟩

/-- An array of objects is collected. -/
theorem exists_collectDomains {outbounds : List Json.Value}
    (h : ∀ outbound ∈ outbounds, ∃ fields, outbound = .object fields) :
    ∃ domains, collectDomains outbounds = .ok domains := by
  induction outbounds with
  | nil => exact ⟨∅, rfl⟩
  | cons outbound rest ih =>
    obtain ⟨fields, rfl⟩ := h outbound List.mem_cons_self
    obtain ⟨others, hothers⟩ := ih fun o ho => h o (List.mem_cons_of_mem _ ho)
    refine ⟨(outboundServerDomains fields).toFinset ∪ others, ?_⟩
    unfold collectDomains
    rw [hothers]
    rfl

section Collected

variable {fromSlice : ByteArray → Except String Json.Value} {config : XrayConfig}
  {document : Json.Value}

/-- The collected strings are the endpoint addresses of a document whose outbounds are objects. -/
theorem mem_xrayOutboundServerDomains {addresses : List String}
    (hdocument : fromSlice config.raw = .ok document)
    (h : xrayOutboundServerDomains fromSlice config = .ok addresses) :
    HasOutbounds document ∧ ∀ address, address ∈ addresses ↔ EndpointAddress document address := by
  unfold xrayOutboundServerDomains at h
  simp only [hdocument] at h
  cases hget : (document.get "outbounds").bind Json.Value.asArray with
  | none =>
    rw [hget] at h
    exact nomatch h
  | some outbounds =>
    have harray : document.get "outbounds" = some (.array outbounds) := by
      obtain ⟨v, hv, hv'⟩ := Option.bind_eq_some_iff.1 hget
      rw [hv, Json.Value.asArray_eq_some.1 hv']
    cases hcollect : collectDomains outbounds with
    | error reason =>
      simp only [hget, hcollect] at h
      exact nomatch h
    | ok domains =>
      have hsorted : domains.sort (· ≤ ·) = addresses := by
        simpa [hget, hcollect, Except.map] using h
      obtain ⟨hobjects, hmem⟩ := collectDomains_eq_ok hcollect
      refine ⟨⟨outbounds, harray, hobjects⟩, fun address => ?_⟩
      rw [← hsorted, Finset.mem_sort, hmem]
      constructor
      · rintro ⟨fields, hin, haddress⟩
        obtain ⟨settings, hsettings, hrest⟩ := mem_outboundServerDomains.1 haddress
        exact ⟨outbounds, .object fields, .object settings, harray, hin, hsettings, hrest⟩
      · rintro ⟨outbounds', outbound, settings, harray', hin, hsettings, hrest⟩
        have heq : outbounds' = outbounds := by
          simpa [harray] using harray'.symm
        rw [heq] at hin
        obtain ⟨fields, rfl⟩ := hobjects outbound hin
        obtain ⟨settings, rfl⟩ : ∃ fields, settings = .object fields := by
          rcases hrest.1 with hdirect | ⟨key, servers, server, -, hservers, -⟩
          · exact Json.Value.eq_object_of_get hdirect
          · exact Json.Value.eq_object_of_get hservers
        exact ⟨fields, hin, mem_outboundServerDomains.2 ⟨settings, hsettings, hrest⟩⟩

/-- Every string of such a document is collected, and no rule is made of another one. -/
theorem mem_normalizedEndpointDomains (hdocument : fromSlice config.raw = .ok document)
    {names : Finset String} (h : normalizedEndpointDomains fromSlice config = .ok names) :
    HasOutbounds document ∧
      ∀ name, name ∈ names ↔
        ∃ address, EndpointAddress document address ∧ normalized address = name := by
  unfold normalizedEndpointDomains at h
  cases haddresses : xrayOutboundServerDomains fromSlice config with
  | error reason =>
    rw [haddresses] at h
    exact nomatch h
  | ok addresses =>
    obtain ⟨houtbounds, hmem⟩ := mem_xrayOutboundServerDomains hdocument haddresses
    have hnames : (addresses.map normalized).toFinset = names := by
      simpa [haddresses, Except.map] using h
    refine ⟨houtbounds, fun name => ?_⟩
    simp only [← hnames, List.mem_toFinset, List.mem_map, hmem]

theorem exists_normalizedEndpointDomains (hdocument : fromSlice config.raw = .ok document)
    (h : HasOutbounds document) :
    ∃ names, normalizedEndpointDomains fromSlice config = .ok names := by
  obtain ⟨outbounds, harray, hobjects⟩ := h
  obtain ⟨domains, hdomains⟩ := exists_collectDomains hobjects
  refine ⟨((domains.sort (· ≤ ·)).map normalized).toFinset, ?_⟩
  unfold normalizedEndpointDomains xrayOutboundServerDomains
  simp only [hdocument, harray, Option.bind_some, Json.Value.asArray, hdomains]
  rfl

end Collected

section Names

variable {capital : Char → Bool} {address : String}

theorem lowerChar_dot (c : Char) : (Text.lowerChar c == '.') = (c == '.') := by
  rw [Bool.eq_iff_iff, beq_iff_eq, beq_iff_eq]
  exact Text.lowerChar_eq_iff (by decide)

/-- A dot at the end is taken off. -/
theorem stripDot_concat {s : String} {stem : List Char} (h : s.toList = stem ++ ['.']) :
    (Text.stripSuffix s ".").getD s = String.ofList stem := by
  have hdot : Text.endsWith s "." = true := by
    rw [Text.endsWith, List.isSuffixOf_iff_suffix, h]
    exact List.suffix_append stem _
  rw [Text.stripSuffix, if_pos hdot, Option.getD_some, h]
  simp

/-- A text whose labels all have characters does not begin or end with a dot. -/
theorem endsWith_dot {s : String} (h : [] ∉ Text.pieces (· == '.') s.toList) :
    Text.startsWith s "." = false ∧ Text.endsWith s "." = false := by
  constructor
  · by_contra hstart
    rw [Bool.not_eq_false, Text.startsWith, List.isPrefixOf_iff_prefix] at hstart
    obtain ⟨rest, hrest⟩ := hstart
    rw [← hrest] at h
    exact h (List.mem_cons_self)
  · by_contra hend
    rw [Bool.not_eq_false, Text.endsWith, List.isSuffixOf_iff_suffix] at hend
    obtain ⟨stem, hstem⟩ := hend
    rw [← hstem] at h
    apply h
    rw [show ".".toList = ['.'] from rfl, Text.pieces_append_separator (by rfl)]
    exact List.mem_append_right _ List.mem_cons_self

theorem stripDot_eq_self {s : String} (h : Text.endsWith s "." = false) :
    (Text.stripSuffix s ".").getD s = s := by
  rw [Text.stripSuffix, h]
  rfl

/-- An address string around the name it gives. -/
theorem exists_normalized (address : String) :
    ∃ before stem dot after, address.toList = before ++ stem ++ dot ++ after ∧
      (∀ c ∈ before, Text.isWhitespace c = true) ∧ (∀ c ∈ after, Text.isWhitespace c = true) ∧
      (dot = [] ∨ dot = ['.']) ∧ (normalized address).toList = stem.map Text.lowerChar := by
  obtain ⟨before, after, haddress, hbefore, hafter⟩ := Text.exists_trimmed address.toList
  rw [← Text.toList_trim] at haddress
  by_cases hdot : ∃ stem, (Text.trim address).toList = stem ++ ['.']
  · obtain ⟨stem, hstem⟩ := hdot
    refine ⟨before, stem, ['.'], after, ?_, hbefore, hafter, Or.inr rfl, ?_⟩
    · rw [haddress, hstem]
      simp only [List.append_assoc]
    · rw [normalized, Text.toList_lower, stripDot_concat hstem, String.toList_ofList]
  · have hend : Text.endsWith (Text.trim address) "." = false := by
      by_contra hend
      rw [Bool.not_eq_false, Text.endsWith, List.isSuffixOf_iff_suffix] at hend
      obtain ⟨stem, hstem⟩ := hend
      exact hdot ⟨stem, hstem.symm⟩
    refine ⟨before, (Text.trim address).toList, [], after, ?_, hbefore, hafter, Or.inl rfl, ?_⟩
    · rw [haddress]
      simp only [List.append_assoc, List.nil_append]
    · rw [normalized, Text.toList_lower, stripDot_eq_self hend]

/-- The labels of a text are nonempty without white space, so nothing of it is trimmed. -/
theorem normalized_of_labels {before dot after : List Char} {labels : List (List Char)}
    (haddress : address.toList = before ++ List.intercalate ['.'] labels ++ dot ++ after)
    (hbefore : ∀ c ∈ before, Text.isWhitespace c = true)
    (hafter : ∀ c ∈ after, Text.isWhitespace c = true) (hdot : dot = [] ∨ dot = ['.'])
    (hne : labels ≠ []) (hlabels : ∀ label ∈ labels, Label capital label) :
    (normalized address).toList = (List.intercalate ['.'] labels).map Text.lowerChar := by
  have hpieces : Text.pieces (· == '.') (List.intercalate ['.'] labels) = labels :=
    Text.pieces_intercalate hne fun label h => (hlabels label h).noDot
  have hempty : [] ∉ labels := fun h => (hlabels [] h).nonempty rfl
  have hstem : List.intercalate ['.'] labels ≠ [] := by
    intro h
    rw [h] at hpieces
    rw [← hpieces] at hempty
    exact hempty List.mem_cons_self
  have hblank : ∀ c ∈ List.intercalate ['.'] labels ++ dot, Text.isWhitespace c = false := by
    intro c hc
    rcases List.mem_append.1 hc with hc | hc
    · rcases Text.exists_mem_pieces (· == '.') hc with hsep | ⟨label, hlabel, hmem⟩
      · rw [beq_iff_eq.1 hsep]
        rfl
      · rw [hpieces] at hlabel
        exact (hlabels label hlabel).noWhitespace c hmem
    · rcases hdot with rfl | rfl
      · exact absurd hc List.not_mem_nil
      · rw [List.mem_singleton.1 hc]
        rfl
  have hcore : List.intercalate ['.'] labels ++ dot ≠ [] :=
    List.append_ne_nil_of_left_ne_nil hstem dot
  have htrim : (Text.trim address).toList = List.intercalate ['.'] labels ++ dot := by
    rw [Text.toList_trim, haddress, List.append_assoc before]
    exact Text.trimmed_append hbefore hafter hcore (hblank _ (List.head_mem hcore))
      (hblank _ (List.getLast_mem hcore))
  rcases hdot with rfl | rfl
  · rw [List.append_nil] at htrim
    have hend : Text.endsWith (Text.trim address) "." = false := by
      apply (endsWith_dot _).2
      rw [htrim, hpieces]
      exact hempty
    rw [normalized, Text.toList_lower, stripDot_eq_self hend, htrim]
  · rw [normalized, Text.toList_lower, stripDot_concat htrim, String.toList_ofList]

/-- A character beyond ASCII is not lowered. -/
theorem lowerChar_eq_self {c : Char} (h : Text.isAsciiChar (Text.lowerChar c) = false) :
    Text.lowerChar c = c := by
  rcases Text.lowerChar_cases c with heq | ⟨hlow, hhigh, hlowered⟩
  · exact heq
  · rw [Text.isAsciiChar, decide_eq_false_iff_not] at h
    omega

/-- The name of a well-written address string is usable. -/
theorem WellWritten.usable (h : WellWritten capital address) :
    Usable capital (normalized address) := by
  obtain ⟨before, labels, dot, after, haddress, hbefore, hafter, hdot, hne, hlabels, hip⟩ := h
  have hname := normalized_of_labels haddress hbefore hafter hdot hne hlabels
  have hpieces : Text.pieces (· == '.') (normalized address).toList =
      labels.map (List.map Text.lowerChar) := by
    rw [hname, Text.pieces_map lowerChar_dot,
      Text.pieces_intercalate hne fun label h => (hlabels label h).noDot]
  have hempty : [] ∉ Text.pieces (· == '.') (normalized address).toList := by
    rw [hpieces]
    intro h
    obtain ⟨label, hlabel, hnil⟩ := List.mem_map.1 h
    exact (hlabels label hlabel).nonempty (List.map_eq_nil_iff.1 hnil)
  have hparse : IpAddr.parse (normalized address) = none := by
    rw [← hname, String.ofList_toList] at hip
    exact hip
  -- Every character is the lower case of one that stands in a label, or a dot.
  have hchars : ∀ c ∈ (normalized address).toList,
      c = '.' ∨ ∃ label ∈ labels, ∃ d ∈ label, Text.lowerChar d = c := by
    intro c hc
    rcases Text.exists_mem_pieces (· == '.') hc with hsep | ⟨piece, hpiece, hmem⟩
    · exact Or.inl (beq_iff_eq.1 hsep)
    · rw [hpieces] at hpiece
      obtain ⟨label, hlabel, rfl⟩ := List.mem_map.1 hpiece
      obtain ⟨d, hd, hlower⟩ := List.mem_map.1 hmem
      exact Or.inr ⟨label, hlabel, d, hd, hlower⟩
  constructor
  · intro hnil
    rw [hnil] at hempty
    exact hempty List.mem_cons_self
  · intro c hc
    rcases hchars c hc with rfl | ⟨label, hlabel, d, hd, rfl⟩
    · exact ⟨by decide, fun hascii => nomatch hascii⟩
    · constructor
      · exact Text.lowerChar_not_upper d
      · intro hascii
        have hself := lowerChar_eq_self hascii
        rw [hself] at hascii ⊢
        exact (hlabels label hlabel).noCapital d hd hascii
  · exact (endsWith_dot hempty).1
  · exact (endsWith_dot hempty).2
  · intro hnil
    obtain ⟨piece, hpiece, hlabel⟩ := List.mem_map.1 hnil
    have hpiece' : piece = [] := by
      simpa using congrArg String.toList hlabel
    rw [hpiece'] at hpiece
    exact hempty hpiece
  · intro c hc
    rcases hchars c hc with rfl | ⟨label, hlabel, d, hd, rfl⟩
    · rfl
    · rw [Text.isWhitespace_lowerChar]
      exact (hlabels label hlabel).noWhitespace d hd
  · exact hparse
  · rw [stripDot_eq_self (endsWith_dot hempty).2]
    exact hparse

/-- An address string whose name is usable is well written. -/
theorem Usable.wellWritten (h : Usable capital (normalized address)) :
    WellWritten capital address := by
  obtain ⟨before, stem, dot, after, haddress, hbefore, hafter, hdot, hname⟩ :=
    exists_normalized address
  have hmem : ∀ c ∈ stem, Text.lowerChar c ∈ (normalized address).toList := by
    intro c hc
    rw [hname]
    exact List.mem_map_of_mem hc
  refine ⟨before, Text.pieces (· == '.') stem, dot, after, ?_, hbefore, hafter, hdot,
    Text.pieces_ne_nil _ _, ?_, ?_⟩
  · rw [Text.intercalate_pieces]
    exact haddress
  · intro label hlabel
    constructor
    · rintro rfl
      apply h.noEmptyLabel
      rw [Text.split, hname, Text.pieces_map lowerChar_dot, List.map_map]
      exact List.mem_map.2 ⟨[], hlabel, rfl⟩
    · intro hdot
      exact nomatch (Text.mem_pieces hlabel '.' hdot).2
    · intro c hc
      rw [← Text.isWhitespace_lowerChar]
      exact h.noWhitespace _ (hmem c (Text.mem_pieces hlabel c hc).1)
    · intro c hc hascii
      have hself : Text.lowerChar c = c := by
        rcases Text.lowerChar_cases c with heq | ⟨-, hhigh, -⟩
        · exact heq
        · rw [Text.isAsciiChar, decide_eq_false_iff_not] at hascii
          omega
      have hin := hmem c (Text.mem_pieces hlabel c hc).1
      rw [hself] at hin
      exact (h.lowerCase c hin).2 hascii
  · rw [Text.intercalate_pieces, ← hname, String.ofList_toList]
    exact h.notAddress

end Names

/-- The configuration that was accepted is the object its bytes write. -/
theorem exists_document {fromSlice : ByteArray → Except String Json.Value} {raw : ByteArray}
    {config : XrayConfig} (h : parseXray fromSlice raw = .ok config) :
    config.raw = raw ∧ ∃ document, fromSlice raw = .ok document := by
  unfold parseXray at h
  by_cases hsize : maxConfigBytes < raw.size
  · rw [if_pos hsize] at h
    exact nomatch h
  rw [if_neg hsize] at h
  by_cases hutf8 : raw.validateUTF8 = false
  · rw [if_pos hutf8] at h
    exact nomatch h
  rw [if_neg hutf8] at h
  cases hdocument : fromSlice raw with
  | error reason =>
    simp only [hdocument] at h
    exact nomatch h
  | ok document =>
    simp only [hdocument] at h
    by_cases hobject : document.asObject.isNone = true
    · rw [if_pos hobject] at h
      exact nomatch h
    · rw [if_neg hobject, Except.ok.injEq] at h
      rw [← h]
      exact ⟨rfl, document, rfl⟩

/-- The names of an accepted configuration are usable exactly when every endpoint address in it is
well written, unless its outbounds are no array of objects and there are no names. -/
theorem normalizedEndpointDomains_usable_iff {fromSlice : ByteArray → Except String Json.Value}
    {raw : ByteArray} {config : XrayConfig} (capital : Char → Bool)
    (haccepted : parseXray fromSlice raw = .ok config) :
    (∀ names, normalizedEndpointDomains fromSlice config = .ok names →
        ∀ name ∈ names, Usable capital name) ↔
      ∀ document, fromSlice raw = .ok document → HasOutbounds document →
        ∀ address, EndpointAddress document address → WellWritten capital address := by
  obtain ⟨hraw, document, hdocument⟩ := exists_document haccepted
  have hread : fromSlice config.raw = .ok document := by
    rw [hraw]
    exact hdocument
  constructor
  · intro husable document' hdocument' houtbounds address haddress
    have heq : document' = document := by
      simpa [hdocument] using hdocument'.symm
    rw [heq] at houtbounds haddress
    obtain ⟨names, hnames⟩ := exists_normalizedEndpointDomains hread houtbounds
    obtain ⟨-, hmem⟩ := mem_normalizedEndpointDomains hread hnames
    have hin : normalized address ∈ names := (hmem _).2 ⟨address, haddress, rfl⟩
    exact (husable names hnames _ hin).wellWritten
  · intro hwell names hnames name hname
    obtain ⟨houtbounds, hmem⟩ := mem_normalizedEndpointDomains hread hnames
    obtain ⟨address, haddress, rfl⟩ := (hmem name).1 hname
    exact (hwell document hdocument houtbounds address haddress).usable

section Provider

/-- A document with one outbound, and the text that writes it. -/
def provider (address : String) : Json.Value :=
  .object [("outbounds", .array [.object [("settings", .object [("address", .string address)])]])]

/-- A document whose one outbound has this address. -/
def providerText (address : String) : String :=
  "\x7b\"outbounds\":[\x7b\"settings\":\x7b\"address\":\"" ++ address ++ "\"\x7d\x7d]\x7d"

/-- A parser that knows the one text. -/
def readProvider (address : String) (bytes : ByteArray) : Except String Json.Value :=
  if bytes.data = (providerText address).toByteArray.data then .ok (provider address)
  else .error "expected value"

theorem readProvider_text (address : String) :
    readProvider address (providerText address).toByteArray = .ok (provider address) := by
  rw [readProvider, if_pos rfl]

theorem parseXray_provider (address : String)
    (hsize : (providerText address).toByteArray.size ≤ maxConfigBytes) :
    parseXray (readProvider address) (providerText address).toByteArray =
      .ok ⟨(providerText address).toByteArray⟩ := by
  have hutf8 : (providerText address).toByteArray.validateUTF8 = true :=
    ByteArray.validateUTF8_eq_true_iff.2 (providerText address).isValidUTF8
  unfold parseXray
  rw [if_neg (Nat.not_lt.2 hsize), hutf8, if_neg (by decide), readProvider_text]
  rfl

/-- The name of a server that is written with a dot at its end. -/
theorem normalizedEndpointDomains_usable_iff_provider :
    parseXray (readProvider "Vpn.example.") (providerText "Vpn.example.").toByteArray =
        .ok ⟨(providerText "Vpn.example.").toByteArray⟩ ∧
      ((∀ names, normalizedEndpointDomains (readProvider "Vpn.example.")
            ⟨(providerText "Vpn.example.").toByteArray⟩ = .ok names →
          ∀ name ∈ names, Usable (fun _ => false) name) ↔
        ∀ document, readProvider "Vpn.example." (providerText "Vpn.example.").toByteArray =
            .ok document → HasOutbounds document →
          ∀ address, EndpointAddress document address → WellWritten (fun _ => false) address) := by
  have haccepted := parseXray_provider "Vpn.example." (by decide)
  exact ⟨haccepted, normalizedEndpointDomains_usable_iff (fun _ => false) haccepted⟩

/-- What the address of the one outbound gives. -/
theorem normalized_mem_provider (address : String)
    (hsize : (providerText address).toByteArray.size ≤ maxConfigBytes)
    (haddress : IpAddr.parse address = none ∧ address ≠ "" ∧
      ∀ c ∈ address.toList, Text.isControl c = false) :
    ∃ config names,
      parseXray (readProvider address) (providerText address).toByteArray = .ok config ∧
      normalizedEndpointDomains (readProvider address) config = .ok names ∧
      normalized address ∈ names := by
  have hdocument : readProvider address (XrayConfig.mk (providerText address).toByteArray).raw =
      .ok (provider address) := readProvider_text address
  have houtbounds : HasOutbounds (provider address) :=
    ⟨_, rfl, fun outbound h => ⟨_, List.mem_singleton.1 h⟩⟩
  obtain ⟨names, hnames⟩ := exists_normalizedEndpointDomains hdocument houtbounds
  obtain ⟨-, hmem⟩ := mem_normalizedEndpointDomains hdocument hnames
  refine ⟨_, names, parseXray_provider address hsize, hnames, (hmem _).2 ⟨address, ?_, rfl⟩⟩
  exact ⟨_, _, _, rfl, List.mem_cons_self, rfl, Or.inl rfl, haddress⟩

/-- An internet address with a dot at its end gives that address, and a blank gives a name without
characters. -/
theorem normalizedEndpointDomains_unusable :
    (∃ config names, parseXray (readProvider "1.2.3.4.")
        (providerText "1.2.3.4.").toByteArray = .ok config ∧
      normalizedEndpointDomains (readProvider "1.2.3.4.") config = .ok names ∧
      "1.2.3.4" ∈ names ∧ ¬Usable (fun _ => false) "1.2.3.4") ∧
    ∃ config names, parseXray (readProvider " ") (providerText " ").toByteArray = .ok config ∧
      normalizedEndpointDomains (readProvider " ") config = .ok names ∧
      "" ∈ names ∧ ¬Usable (fun _ => false) "" := by
  constructor
  · obtain ⟨config, names, haccepted, hnames, hmem⟩ :=
      normalized_mem_provider "1.2.3.4." (by decide +kernel)
        ⟨by decide +kernel, by decide, by simp [Text.isControl]⟩
    have hname : normalized "1.2.3.4." = "1.2.3.4" := by decide +kernel
    rw [hname] at hmem
    refine ⟨config, names, haccepted, hnames, hmem, fun h => ?_⟩
    have hip : IpAddr.parse "1.2.3.4" ≠ none := by decide +kernel
    exact hip h.notAddress
  · obtain ⟨config, names, haccepted, hnames, hmem⟩ :=
      normalized_mem_provider " " (by decide)
        ⟨by decide, by decide, by simp [Text.isControl]⟩
    have hname : normalized " " = "" := by decide
    rw [hname] at hmem
    exact ⟨config, names, haccepted, hnames, hmem, fun h => h.nonempty rfl⟩

end Provider

end MultiCore.Subscription
