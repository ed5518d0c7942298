import Mathlib.Tactic.Common
import MultiCore.Library.JsonText
import MultiCore.Library.SortedMap

/-!
# Saved selections

The file in which the store keeps the nodes that were selected in the groups of a
catalog. It holds the selections of one revision; a save for another revision
starts afresh. What is read back is what was saved for the revision since then,
as far as the catalog has it, and within the limits on names and groups the file
never gets too large.
-/

namespace MultiCore.Profiles

/-- `SELECTIONS_SCHEMA_VERSION`. -/
def selectionsSchemaVersion : Nat := 1

/-- `MAX_SELECTIONS`. -/
def maxSelections : Nat := 64

/-- `MAX_SELECTIONS_BYTES`, 128 KiB. -/
def maxSelectionsBytes : Nat := 128 * 1024

/-- Why a save fails. -/
inductive SelectionError where
  | invalid (reason : String)
  | io
  | maintenanceDebt
  deriving DecidableEq, Repr

/-- What an identifier is made of: visible ASCII without slashes. -/
def isSelectionByte (byte : UInt8) : Bool :=
  (0x21 ≤ byte && byte ≤ 0x7E) && !(byte == 0x2F || byte == 0x5C)

/-- `validate_selection_id`. -/
def validateSelectionId (value : String) : Except SelectionError Unit :=
  let bytes := Utf8.encode value.toList
  if bytes.isEmpty || 256 < bytes.length then
    .error (.invalid "identifier length is out of bounds")
  else if bytes.all isSelectionByte = false then
    .error (.invalid "identifier contains an unsafe byte")
  else .ok ()

/-- `PersistedSelections`: the file of the selections, which is of one revision. -/
structure PersistedSelections where
  schemaVersion : Nat
  catalogRevision : UInt64
  selections : List (String × String)
  deriving DecidableEq, Repr

/-- Whether all pairs of a file are well formed, and not too many. -/
def selectionsAreValid (selections : List (String × String)) : Bool :=
  selections.length ≤ maxSelections &&
    selections.all fun entry =>
      (validateSelectionId entry.1).isOk && (validateSelectionId entry.2).isOk

/-- The serializer of the file. -/
structure SelectionsJson where
  toVec : PersistedSelections → List UInt8
  fromSlice : List UInt8 → Option PersistedSelections

/-- The text of the file. -/
def selectionsText (persisted : PersistedSelections) : List Char :=
  Json.objectText
    [("schema_version", Json.numberText persisted.schemaVersion),
      ("catalog_revision", Json.numberText persisted.catalogRevision.toNat),
      ("selections", Json.objectText
        (persisted.selections.map fun entry => (entry.1, Json.stringText entry.2)))]

/-- The serializer writes compact text for some selections, and reads them back from it. -/
structure SelectionsJson.Handles (json : SelectionsJson) (persisted : PersistedSelections) :
    Prop where
  written : json.toVec persisted = Utf8.encode (selectionsText persisted)
  readBack : json.fromSlice (json.toVec persisted) = some persisted

variable (json : SelectionsJson)

/-- The selections of a file, if it is one. -/
def loadSelections (file : Option (List UInt8)) : Option PersistedSelections :=
  file.bind fun bytes =>
    if maxSelectionsBytes < bytes.length then none else json.fromSlice bytes

/-- Whether selections are of a revision and within the limits. -/
def areOf (revision : UInt64) (saved : PersistedSelections) : Bool :=
  saved.schemaVersion = selectionsSchemaVersion && saved.catalogRevision = revision &&
    selectionsAreValid saved.selections

/-- The selections of a revision in the file, or none of them yet. -/
def currentSelections (file : Option (List UInt8)) (revision : UInt64) : PersistedSelections :=
  ((loadSelections json file).filter (areOf revision)).getD
    ⟨selectionsSchemaVersion, revision, []⟩

/-- Where the file system fails a save. -/
inductive SaveFault where
  | none
  | loading
  | beforeReplace
  | afterReplace
  deriving DecidableEq, Repr

/-- One save, and what goes wrong with it. -/
structure SaveCall where
  revision : UInt64
  groupId : String
  nodeId : String
  fault : SaveFault
  deriving DecidableEq

/-- The selections a save writes. -/
def preparedSelections (file : Option (List UInt8)) (call : SaveCall) :
    Except SelectionError PersistedSelections := do
  validateSelectionId call.groupId
  validateSelectionId call.nodeId
  if call.revision = 0 then .error (.invalid "catalog revision is zero")
  else if call.fault = .loading then .error .io
  else
    let persisted := currentSelections json file call.revision
    if (SortedMap.get call.groupId persisted.selections).isNone &&
        maxSelections ≤ persisted.selections.length then
      .error (.invalid "selection limit reached")
    else
      .ok { persisted with
        selections := SortedMap.insert call.groupId call.nodeId persisted.selections }

/-- The result of a save, and the file after it. -/
def saveSelection (file : Option (List UInt8)) (call : SaveCall) :
    Except SelectionError Unit × Option (List UInt8) :=
  match preparedSelections json file call with
  | .error error => (.error error, file)
  | .ok persisted =>
    let bytes := json.toVec persisted
    if maxSelectionsBytes < bytes.length then
      (.error (.invalid "selections exceed size limit"), file)
    else
      match call.fault with
      | .afterReplace => (.error .maintenanceDebt, some bytes)
      | .none => (.ok (), some bytes)
      | _ => (.error .io, file)

/-- Whether a catalog has a node in a group. -/
def inCatalog (catalog : List (String × List String)) (group node : String) : Bool :=
  catalog.any fun (catalogGroup, catalogNodes) =>
    group = catalogGroup && catalogNodes.any fun catalogNode => node = catalogNode

/-- `valid_selections`: the saved pairs that the catalog still has. -/
def validSelections (file : Option (List UInt8)) (revision : UInt64)
    (catalog : List (String × List String)) : List (String × String) :=
  match loadSelections json file with
  | none => []
  | some saved =>
    if areOf revision saved = false then []
    else saved.selections.filter fun entry => inCatalog catalog entry.1 entry.2

section Runs

/-- Saves with their results, from no file on, and the file they leave. The serializer handles
what they write. -/
inductive SelectionRun :
    List (SaveCall × Except SelectionError Unit) → Option (List UInt8) → Prop
  | start : SelectionRun [] none
  | step {trace : List (SaveCall × Except SelectionError Unit)} {file : Option (List UInt8)}
      (run : SelectionRun trace file) (call : SaveCall)
      (handles : ∀ persisted, preparedSelections json file call = .ok persisted →
        json.Handles persisted) :
      SelectionRun (trace ++ [(call, (saveSelection json file call).1)])
        (saveSelection json file call).2

/-- Whether a save is in the file. -/
def landed : Except SelectionError Unit → Bool
  | .ok _ => true
  | .error .maintenanceDebt => true
  | .error _ => false

/-- What is saved once a save has landed. -/
def SaveCall.landedOn (call : SaveCall) (saved : UInt64 → String → Option String)
    (revision : UInt64) (group : String) : Option String :=
  if revision = call.revision then
    if group = call.groupId then some call.nodeId else saved revision group
  else none

/-- For each revision, the last node saved for each group since the last save for another
revision. -/
def savedSince (trace : List (SaveCall × Except SelectionError Unit)) :
    UInt64 → String → Option String :=
  trace.foldl (fun saved save => if landed save.2 then save.1.landedOn saved else saved)
    fun _ _ => none

/-- The file that holds what is saved. -/
inductive Holds (saved : UInt64 → String → Option String) : Option (List UInt8) → Prop
  | nothing (empty : ∀ revision group, saved revision group = none) : Holds saved none
  | selections (persisted : PersistedSelections) (handles : json.Handles persisted)
      (own : areOf persisted.catalogRevision persisted = true)
      (nodup : (persisted.selections.map Prod.fst).Nodup)
      (same : ∀ revision group, saved revision group =
        if revision = persisted.catalogRevision then SortedMap.get group persisted.selections
        else none) : Holds saved (some (json.toVec persisted))

end Runs

section Sizes

/-- A valid identifier is printable ASCII and short. -/
theorem printable_of_valid {value : String} (h : (validateSelectionId value).isOk = true) :
    Json.IsPrintable value ∧ value.toList.length ≤ 256 := by
  unfold validateSelectionId at h
  dsimp only at h
  split_ifs at h with hlength hbytes
  · exact absurd h Bool.false_ne_true
  · exact absurd h Bool.false_ne_true
  rw [Bool.not_eq_false, List.all_eq_true] at hbytes
  rw [Bool.or_eq_true, not_or, decide_eq_true_eq, Nat.not_lt] at hlength
  have hrange : ∀ b ∈ Utf8.encode value.toList, 0x21 ≤ b.toNat ∧ b.toNat ≤ 0x7E := by
    intro b hb
    have hbyte := hbytes b hb
    rw [isSelectionByte, Bool.and_eq_true, Bool.and_eq_true, decide_eq_true_eq,
      decide_eq_true_eq] at hbyte
    exact ⟨UInt8.le_iff_toNat_le.1 hbyte.1.1, UInt8.le_iff_toNat_le.1 hbyte.1.2⟩
  have hascii : ∀ b ∈ Utf8.encode value.toList, b.toNat < 0x80 := by
    intro b hb
    have hb' := hrange b hb
    omega
  constructor
  · intro c hc
    obtain ⟨hsmall, hmem⟩ := Utf8.ascii_of_encode hascii hc
    have hlow := (hrange _ hmem).1
    rw [UInt8.toNat_ofNat', Nat.mod_eq_of_lt (by omega)] at hlow
    exact ⟨by omega, hsmall⟩
  · have hlen := Json.length_encode_of_isAscii fun c hc => (Utf8.ascii_of_encode hascii hc).1
    rw [hlen] at hlength
    exact hlength.2

/-- Printable ASCII that is short and has no slash is a valid identifier. -/
theorem valid_of_plain {value : String} (hne : value.toList ≠ [])
    (hlength : value.toList.length ≤ 256)
    (hplain : ∀ c ∈ value.toList, 0x21 ≤ c.toNat ∧ c.toNat ≤ 0x7E ∧ c ≠ '/' ∧ c ≠ '\\') :
    (validateSelectionId value).isOk = true := by
  have hascii : Json.IsAscii value.toList := fun c hc => by
    have hc' := hplain c hc
    omega
  have hbytes : ((value.toList.map fun c => UInt8.ofNat c.toNat).all isSelectionByte) = true := by
    rw [List.all_eq_true]
    intro b hb
    obtain ⟨c, hc, rfl⟩ := List.mem_map.1 hb
    obtain ⟨hlow, hhigh, hslash, hback⟩ := hplain c hc
    have hvalue : (UInt8.ofNat c.toNat).toNat = c.toNat := by
      rw [UInt8.toNat_ofNat']
      omega
    have hother : ∀ d : Char, c ≠ d → d.toNat < 256 →
        UInt8.ofNat c.toNat ≠ UInt8.ofNat d.toNat := by
      intro d hne hd heq
      have hnat := congrArg UInt8.toNat heq
      rw [hvalue, UInt8.toNat_ofNat', Nat.mod_eq_of_lt hd] at hnat
      exact hne (Char.toNat_inj.1 hnat)
    simp only [isSelectionByte, Bool.and_eq_true, Bool.not_eq_true', Bool.or_eq_false_iff,
      decide_eq_true_eq, beq_eq_false_iff_ne]
    refine ⟨⟨?_, ?_⟩, hother '/' hslash (by decide), hother '\\' hback (by decide)⟩
    · rw [UInt8.le_iff_toNat_le, hvalue]
      exact hlow
    · rw [UInt8.le_iff_toNat_le, hvalue]
      exact hhigh
  have hne' : ((value.toList.map fun c => UInt8.ofNat c.toNat).isEmpty ||
      decide (256 < (value.toList.map fun c => UInt8.ofNat c.toNat).length)) = false := by
    rw [Bool.or_eq_false_iff, List.isEmpty_eq_false_iff, decide_eq_false_iff_not, Nat.not_lt,
      List.length_map]
    exact ⟨fun h => hne (List.map_eq_nil_iff.1 h), hlength⟩
  have hnot : ¬((value.toList.map fun c => UInt8.ofNat c.toNat).all isSelectionByte = false) := by
    rw [hbytes]
    decide
  rw [validateSelectionId, Json.encode_of_isAscii hascii, hne', if_neg Bool.false_ne_true,
    if_neg hnot]
  rfl

/-- Valid selections are never too large for the file. -/
theorem length_toVec_le {persisted : PersistedSelections} (handles : json.Handles persisted)
    {revision : UInt64} (h : areOf revision persisted = true) :
    (json.toVec persisted).length ≤ maxSelectionsBytes := by
  rw [areOf, Bool.and_eq_true, Bool.and_eq_true, decide_eq_true_eq] at h
  obtain ⟨⟨hschema, -⟩, hvalid⟩ := h
  rw [selectionsAreValid, Bool.and_eq_true, decide_eq_true_eq, List.all_eq_true] at hvalid
  obtain ⟨hcount, hids⟩ := hvalid
  have hstring : ∀ value, (validateSelectionId value).isOk = true →
      (Json.stringText value).length ≤ 514 ∧ Json.IsAscii (Json.stringText value) := by
    intro value hvalue
    obtain ⟨hprintable, hlength⟩ := printable_of_valid hvalue
    have hle := Json.length_stringText_le hprintable
    exact ⟨by omega, Json.isAscii_stringText hprintable⟩
  have hentries : ∀ field ∈ persisted.selections.map fun entry =>
      (entry.1, Json.stringText entry.2), (Json.IsPrintable field.1 ∧ Json.IsAscii field.2) ∧
        (Json.stringText field.1).length + field.2.length + 1 ≤ 1029 := by
    intro field hfield
    obtain ⟨⟨group, node⟩, hmem, rfl⟩ := List.mem_map.1 hfield
    have hboth := hids _ hmem
    rw [Bool.and_eq_true] at hboth
    have hgroup := hstring group hboth.1
    have hnode := hstring node hboth.2
    have hlength : (Json.stringText group).length + (Json.stringText node).length + 1 ≤ 1029 := by
      omega
    exact ⟨⟨(printable_of_valid hboth.1).1, hnode.2⟩, hlength⟩
  have hselections := Json.length_objectText_le fun field hfield => (hentries field hfield).2
  have hascii := Json.isAscii_objectText fun field hfield => (hentries field hfield).1
  rw [List.length_map] at hselections
  have hrevision : (Json.numberText persisted.catalogRevision.toNat).length ≤ 20 := by
    have hlt := persisted.catalogRevision.toNat_lt
    apply (Nat.length_toDigits_le_iff (by decide) (by decide)).2
    omega
  have hone : (Json.numberText 1).length = 1 := by decide
  have hkey : (Json.stringText "schema_version").length = 16 ∧
      (Json.stringText "catalog_revision").length = 18 ∧
      (Json.stringText "selections").length = 12 := by decide
  have hplain : Json.IsPrintable "schema_version" ∧ Json.IsPrintable "catalog_revision" ∧
      Json.IsPrintable "selections" := by
    refine ⟨?_, ?_, ?_⟩ <;> exact Json.isPrintable_of_all (by decide)
  have hempty : (Json.objectText []).length = 2 := rfl
  have htext : (selectionsText persisted).length ≤ maxSelectionsBytes := by
    have hfirst := Json.length_objectText_cons_le
      ("schema_version", Json.numberText persisted.schemaVersion)
      [("catalog_revision", Json.numberText persisted.catalogRevision.toNat),
        ("selections", Json.objectText
          (persisted.selections.map fun entry => (entry.1, Json.stringText entry.2)))]
    have hsecond := Json.length_objectText_cons_le
      ("catalog_revision", Json.numberText persisted.catalogRevision.toNat)
      [("selections", Json.objectText
        (persisted.selections.map fun entry => (entry.1, Json.stringText entry.2)))]
    have hthird := Json.length_objectText_cons_le ("selections", Json.objectText
      (persisted.selections.map fun entry => (entry.1, Json.stringText entry.2))) []
    rw [hschema, selectionsSchemaVersion] at hfirst
    rw [selectionsText, hschema, selectionsSchemaVersion, maxSelectionsBytes]
    rw [maxSelections] at hcount
    dsimp only at hfirst hsecond hthird
    omega
  have htextAscii : Json.IsAscii (selectionsText persisted) := by
    apply Json.isAscii_objectText
    intro field hfield
    simp only [List.mem_cons, List.not_mem_nil, or_false] at hfield
    rcases hfield with rfl | rfl | rfl
    · exact ⟨hplain.1, Json.isAscii_numberText _⟩
    · exact ⟨hplain.2.1, Json.isAscii_numberText _⟩
    · exact ⟨hplain.2.2, hascii⟩
  rw [handles.written, Json.length_encode_of_isAscii htextAscii]
  exact htext

end Sizes

section Saves

variable {json} {file : Option (List UInt8)} {saved : UInt64 → String → Option String}

theorem loadSelections_of_handles {persisted : PersistedSelections}
    (handles : json.Handles persisted) {revision : UInt64} (own : areOf revision persisted = true) :
    loadSelections json (some (json.toVec persisted)) = some persisted := by
  rw [loadSelections, Option.bind_some,
    if_neg (Nat.not_lt.2 (length_toVec_le json handles own)), handles.readBack]

theorem areOf_self {revision : UInt64} {persisted : PersistedSelections}
    (own : areOf persisted.catalogRevision persisted = true) :
    areOf revision persisted = true ↔ persisted.catalogRevision = revision := by
  rw [areOf, Bool.and_eq_true, Bool.and_eq_true, decide_eq_true_eq, decide_eq_true_eq] at own ⊢
  constructor
  · exact fun h => h.1.2
  · exact fun h => ⟨⟨own.1.1, h⟩, own.2⟩

/-- What the file has of a revision is what is saved for it. -/
theorem Holds.current (holds : Holds json saved file) (revision : UInt64) :
    areOf revision (currentSelections json file revision) = true ∧
      (currentSelections json file revision).catalogRevision = revision ∧
      ((currentSelections json file revision).selections.map Prod.fst).Nodup ∧
      ∀ group, SortedMap.get group (currentSelections json file revision).selections =
        saved revision group := by
  have hfresh : areOf revision ⟨selectionsSchemaVersion, revision, []⟩ = true := by
    simp [areOf, selectionsAreValid]
  have hnothing : ∀ group : String, SortedMap.get group ([] : List (String × String)) = none :=
    fun _ => rfl
  unfold currentSelections
  cases holds with
  | nothing hempty =>
    exact ⟨hfresh, rfl, List.nodup_nil, fun group => (hempty revision group).symm⟩
  | selections persisted handles own nodup same =>
    rw [loadSelections_of_handles handles own]
    by_cases hrevision : persisted.catalogRevision = revision
    · have hown := (areOf_self own).2 hrevision
      rw [Option.filter_some, if_pos hown, Option.getD_some]
      exact ⟨hown, hrevision, nodup, fun group => by rw [same, if_pos hrevision.symm]⟩
    · have hother : ¬areOf revision persisted = true := fun h => hrevision ((areOf_self own).1 h)
      rw [Option.filter_some, if_neg hother, Option.getD_none]
      apply And.intro hfresh
      apply And.intro rfl
      apply And.intro List.nodup_nil
      intro group
      rw [same, if_neg (fun h => hrevision h.symm)]
      exact hnothing group

/-- What a save writes: the selections of its revision with its own in them. -/
theorem preparedSelections_eq_ok {call : SaveCall} {persisted : PersistedSelections}
    (h : preparedSelections json file call = .ok persisted) :
    (validateSelectionId call.groupId).isOk = true ∧
      (validateSelectionId call.nodeId).isOk = true ∧
      ((SortedMap.get call.groupId
          (currentSelections json file call.revision).selections).isSome = true ∨
        (currentSelections json file call.revision).selections.length < maxSelections) ∧
      persisted = { currentSelections json file call.revision with
        selections := SortedMap.insert call.groupId call.nodeId
          (currentSelections json file call.revision).selections } := by
  simp only [preparedSelections, bind, Except.bind] at h
  cases hgroup : validateSelectionId call.groupId with
  | error error =>
    rw [hgroup] at h
    exact absurd h (by simp)
  | ok valid =>
    rw [hgroup] at h
    cases hnode : validateSelectionId call.nodeId with
    | error error =>
      rw [hnode] at h
      exact absurd h (by simp)
    | ok valid' =>
      rw [hnode] at h
      dsimp only at h
      split_ifs at h with hzero hloading hlimit
      rw [Except.ok.injEq] at h
      rw [Bool.and_eq_true, decide_eq_true_eq, not_and_or, Option.isNone_iff_eq_none,
        Nat.not_le, ← Option.isSome_iff_ne_none.not_left, not_not] at hlimit
      exact ⟨rfl, rfl, hlimit, h.symm⟩

/-- A save leaves valid selections valid. -/
theorem areOf_insert {revision : UInt64} {current : PersistedSelections} {group node : String}
    (own : areOf revision current = true) (hgroup : (validateSelectionId group).isOk = true)
    (hnode : (validateSelectionId node).isOk = true)
    (hlimit : (SortedMap.get group current.selections).isSome = true ∨
      current.selections.length < maxSelections) :
    areOf revision { current with
      selections := SortedMap.insert group node current.selections } = true := by
  rw [areOf, Bool.and_eq_true] at own ⊢
  obtain ⟨hheader, hvalid⟩ := own
  apply And.intro hheader
  rw [selectionsAreValid, Bool.and_eq_true, decide_eq_true_eq, List.all_eq_true] at hvalid ⊢
  obtain ⟨hcount, hids⟩ := hvalid
  constructor
  · rcases hlimit with hthere | hroom
    · exact Nat.le_trans (SortedMap.length_insert_of_get node hthere) hcount
    · exact Nat.le_trans (SortedMap.length_insert_le group node current.selections) hroom
  · intro entry hmem
    rcases SortedMap.mem_insert.1 hmem with rfl | ⟨hold, -⟩
    · exact Bool.and_eq_true_iff.2 ⟨hgroup, hnode⟩
    · exact hids entry hold

/-- A save that is prepared is small enough, and lands unless the file system fails it. -/
theorem saveSelection_of_prepared {call : SaveCall} {persisted : PersistedSelections}
    (h : preparedSelections json file call = .ok persisted)
    (hsize : (json.toVec persisted).length ≤ maxSelectionsBytes) :
    (landed (saveSelection json file call).1 = true ∧
        (saveSelection json file call).2 = some (json.toVec persisted)) ∨
      ((saveSelection json file call).1 = .error .io ∧
        (saveSelection json file call).2 = file) := by
  rw [saveSelection, h]
  dsimp only
  rw [if_neg (Nat.not_lt.2 hsize)]
  cases call.fault with
  | none => exact Or.inl ⟨rfl, rfl⟩
  | afterReplace => exact Or.inl ⟨rfl, rfl⟩
  | loading => exact Or.inr ⟨rfl, rfl⟩
  | beforeReplace => exact Or.inr ⟨rfl, rfl⟩

theorem saveSelection_of_refused {call : SaveCall} {error : SelectionError}
    (h : preparedSelections json file call = .error error) :
    saveSelection json file call = (.error error, file) := by
  rw [saveSelection, h]

theorem validateSelectionId_error {value : String} {error : SelectionError}
    (h : validateSelectionId value = .error error) :
    error = .invalid "identifier length is out of bounds" ∨
      error = .invalid "identifier contains an unsafe byte" := by
  unfold validateSelectionId at h
  dsimp only at h
  split_ifs at h
  · exact Or.inl (Except.error.inj h).symm
  · exact Or.inr (Except.error.inj h).symm

/-- The errors of a save before it is written. -/
theorem preparedSelections_error {call : SaveCall} {error : SelectionError}
    (h : preparedSelections json file call = .error error) :
    landed (.error error) = false ∧ error ≠ .invalid "selections exceed size limit" := by
  have hid : ∀ value, validateSelectionId value = .error error →
      landed (.error error) = false ∧ error ≠ .invalid "selections exceed size limit" := by
    intro value hvalue
    rcases validateSelectionId_error hvalue with rfl | rfl
    · exact ⟨rfl, by decide⟩
    · exact ⟨rfl, by decide⟩
  simp only [preparedSelections, bind, Except.bind] at h
  cases hgroup : validateSelectionId call.groupId with
  | error groupError =>
    rw [hgroup] at h
    exact hid call.groupId (hgroup.trans (congrArg Except.error (Except.error.inj h)))
  | ok valid =>
    rw [hgroup] at h
    cases hnode : validateSelectionId call.nodeId with
    | error nodeError =>
      rw [hnode] at h
      exact hid call.nodeId (hnode.trans (congrArg Except.error (Except.error.inj h)))
    | ok valid' =>
      rw [hnode] at h
      dsimp only at h
      split_ifs at h
      · rw [← Except.error.inj h]
        exact ⟨rfl, by decide⟩
      · rw [← Except.error.inj h]
        exact ⟨rfl, by decide⟩
      · rw [← Except.error.inj h]
        exact ⟨rfl, by decide⟩

/-- Each save leaves what is saved in the file, and none is too large. -/
theorem Holds.afterSave (holds : Holds json saved file) {call : SaveCall}
    (handles : ∀ persisted, preparedSelections json file call = .ok persisted →
      json.Handles persisted) :
    Holds json (if landed (saveSelection json file call).1 then call.landedOn saved else saved)
        (saveSelection json file call).2 ∧
      (saveSelection json file call).1 ≠ .error (.invalid "selections exceed size limit") := by
  cases hprepared : preparedSelections json file call with
  | error error =>
    obtain ⟨hlanded, hsize⟩ := preparedSelections_error hprepared
    rw [saveSelection_of_refused hprepared, hlanded, if_neg Bool.false_ne_true]
    exact ⟨holds, fun h => hsize (Except.error.inj h)⟩
  | ok persisted =>
    obtain ⟨hgroup, hnode, hlimit, hpersisted⟩ := preparedSelections_eq_ok hprepared
    obtain ⟨hown, hrevision, hnodup, hsame⟩ := holds.current call.revision
    have hvalid := areOf_insert hown hgroup hnode hlimit
    rw [← hpersisted] at hvalid
    have hhandles := handles persisted hprepared
    have hsize := length_toVec_le json hhandles hvalid
    rcases saveSelection_of_prepared hprepared hsize with ⟨hlanded, hfile⟩ | ⟨hfailed, hfile⟩
    · rw [hlanded, if_pos rfl, hfile]
      have hpersistedRevision : persisted.catalogRevision = call.revision := by
        rw [hpersisted]
        exact hrevision
      constructor
      · apply Holds.selections persisted hhandles
        · rw [hpersistedRevision]
          exact hvalid
        · rw [hpersisted]
          exact SortedMap.nodup_insert hnodup
        · intro revision group
          rw [SaveCall.landedOn, hpersistedRevision]
          by_cases hcall : revision = call.revision
          · rw [if_pos hcall, if_pos hcall, hpersisted]
            by_cases hsaved : group = call.groupId
            · rw [if_pos hsaved, hsaved]
              exact SortedMap.get_insert_self.symm
            · rw [if_neg hsaved, hcall, ← hsame group]
              exact (SortedMap.get_insert_of_ne hsaved).symm
          · rw [if_neg hcall, if_neg hcall]
      · intro herror
        rw [herror] at hlanded
        exact absurd hlanded Bool.false_ne_true
    · rw [hfailed, hfile]
      exact ⟨holds, by decide⟩

/-- Every run leaves what is saved in the file, and no save of it was too large. -/
theorem SelectionRun.holds {trace : List (SaveCall × Except SelectionError Unit)}
    (run : SelectionRun json trace file) : Holds json (savedSince trace) file ∧
      ∀ save ∈ trace, save.2 ≠ .error (.invalid "selections exceed size limit") := by
  induction run with
  | start => exact ⟨Holds.nothing fun _ _ => rfl, fun _ hsave => absurd hsave List.not_mem_nil⟩
  | step run call handles ih =>
    obtain ⟨hholds, hsizes⟩ := ih
    obtain ⟨hafter, hsize⟩ := hholds.afterSave handles
    constructor
    · rw [savedSince, List.foldl_append]
      exact hafter
    · intro save hsave
      rcases List.mem_append.1 hsave with hsave | hsave
      · exact hsizes save hsave
      · rw [List.mem_singleton.1 hsave]
        exact hsize

/-- What is read back for a catalog is the last node saved for each of its groups since the last
save for another revision, where the catalog has it; and no save was too large. -/
theorem validSelections_of_run {trace : List (SaveCall × Except SelectionError Unit)}
    (run : SelectionRun json trace file) (revision : UInt64)
    (catalog : List (String × List String)) :
    (∀ group, SortedMap.get group (validSelections json file revision catalog) =
        (savedSince trace revision group).filter (inCatalog catalog group)) ∧
      ∀ save ∈ trace, save.2 ≠ .error (.invalid "selections exceed size limit") := by
  obtain ⟨hholds, hsizes⟩ := run.holds
  apply And.intro _ hsizes
  intro group
  unfold validSelections
  cases hholds with
  | nothing hempty =>
    rw [hempty revision group]
    rfl
  | selections persisted handles own nodup same =>
    rw [loadSelections_of_handles handles own, same revision group]
    dsimp only
    cases hof : areOf revision persisted with
    | true =>
      rw [if_neg (by decide), if_pos ((areOf_self own).1 hof).symm, SortedMap.get_filter nodup]
    | false =>
      have hother : ¬revision = persisted.catalogRevision := by
        intro h
        rw [(areOf_self own).2 h.symm] at hof
        exact absurd hof.symm Bool.false_ne_true
      rw [if_pos rfl, if_neg hother]
      rfl

end Saves

section TwoRevisions

/-- A serializer that knows some files. -/
def knownJson (known : List PersistedSelections) : SelectionsJson where
  toVec persisted := Utf8.encode (selectionsText persisted)
  fromSlice bytes := known.find? fun persisted => Utf8.encode (selectionsText persisted) = bytes

/-- The save of one pair under this revision. -/
def saveOf (revision : UInt64) : SaveCall := ⟨revision, "group", "node", .none⟩

/-- The file that it writes. -/
def savedOf (revision : UInt64) : PersistedSelections := ⟨1, revision, [("group", "node")]⟩

/-- The files of the revisions one and two, written and read. -/
def twoRevisions : SelectionsJson := knownJson [savedOf 1, savedOf 2]

theorem twoRevisions_handles_one : twoRevisions.Handles (savedOf 1) := ⟨rfl, by decide⟩

theorem twoRevisions_handles_two : twoRevisions.Handles (savedOf 2) := ⟨rfl, by decide⟩

/-- The run of one save. -/
theorem selectionRun_one :
    SelectionRun twoRevisions [(saveOf 1, .ok ())] (some (twoRevisions.toVec (savedOf 1))) := by
  have hprepared : preparedSelections twoRevisions none (saveOf 1) = .ok (savedOf 1) := by
    decide
  have hsaved : saveSelection twoRevisions none (saveOf 1) =
      (.ok (), some (twoRevisions.toVec (savedOf 1))) := by
    decide
  have hstart : SelectionRun twoRevisions [] none := SelectionRun.start
  have hrun := hstart.step (saveOf 1) (by
    intro persisted h
    rw [hprepared, Except.ok.injEq] at h
    rw [← h]
    exact twoRevisions_handles_one)
  rw [hsaved] at hrun
  exact hrun

/-- The last node saved for a group and a revision, whatever was saved for another. -/
def lastWritten (trace : List (SaveCall × Except SelectionError Unit)) (revision : UInt64)
    (group : String) : Option String :=
  (trace.filter fun save => landed save.2 && save.1.revision = revision &&
    save.1.groupId = group).getLast?.map fun save => save.1.nodeId

/-- A save for another revision loses those of this one. -/
theorem validSelections_ne_lastWritten :
    ¬∀ (json : SelectionsJson) (trace : List (SaveCall × Except SelectionError Unit))
      (file : Option (List UInt8)), SelectionRun json trace file →
        ∀ (revision : UInt64) (catalog : List (String × List String)) (group : String),
          SortedMap.get group (validSelections json file revision catalog) =
            (lastWritten trace revision group).filter (inCatalog catalog group) := by
  intro h
  have hprepared : preparedSelections twoRevisions (some (twoRevisions.toVec (savedOf 1)))
      (saveOf 2) = .ok (savedOf 2) := by decide
  have hrun := selectionRun_one.step (saveOf 2) (by
    intro persisted hok
    rw [hprepared, Except.ok.injEq] at hok
    rw [← hok]
    exact twoRevisions_handles_two)
  have hlost := h _ _ _ hrun 1 [("group", ["node"])] "group"
  exact absurd hlost (by decide)

end TwoRevisions

section Several

/-- The files that the saves write or would write. -/
def severalFiles : List PersistedSelections :=
  [savedOf 2, savedOf 1, ⟨1, 1, [("group", "node"), ("other", "first")]⟩,
    ⟨1, 1, [("group", "second"), ("other", "first")]⟩,
    ⟨1, 1, [("group", "second"), ("other", "second")]⟩]

/-- The files of several saves, written and read. -/
def severalJson : SelectionsJson := knownJson severalFiles

/-- Two groups are saved after a save for another revision, one of them without its cleaning up; the
first is saved again, and the second cannot be. -/
def severalSaves : List SaveCall :=
  [saveOf 2, saveOf 1, ⟨1, "other", "first", .afterReplace⟩, ⟨1, "group", "second", .none⟩,
    ⟨1, "other", "second", .beforeReplace⟩]

theorem severalJson_handles {persisted : PersistedSelections} (h : persisted ∈ severalFiles) :
    severalJson.Handles persisted := by
  have hread : severalFiles.all (fun known =>
      severalJson.fromSlice (severalJson.toVec known) == some known) = true := by decide +kernel
  exact ⟨rfl, eq_of_beq (List.all_eq_true.1 hread persisted h)⟩

/-- A save that writes one of the files, if any. -/
theorem selectionRun_step {trace : List (SaveCall × Except SelectionError Unit)}
    {file after : Option (List UInt8)} {call : SaveCall} {result : Except SelectionError Unit}
    (run : SelectionRun severalJson trace file)
    (hfiles : (preparedSelections severalJson file call).toOption.all (· ∈ severalFiles) = true)
    (hsaved : saveSelection severalJson file call = (result, after)) :
    SelectionRun severalJson (trace ++ [(call, result)]) after := by
  have hrun := run.step call fun persisted hok => by
    rw [hok] at hfiles
    exact severalJson_handles (of_decide_eq_true hfiles)
  rw [hsaved] at hrun
  exact hrun

theorem validSelections_of_run_several : ∃ trace file,
    SelectionRun severalJson trace file ∧ trace.map Prod.fst = severalSaves ∧
    trace.map Prod.snd = [.ok (), .ok (), .error .maintenanceDebt, .ok (), .error .io] ∧
    (∀ group, SortedMap.get group (validSelections severalJson file 1
        [("group", ["node", "second"]), ("other", ["first", "second"])]) =
      (savedSince trace 1 group).filter
        (inCatalog [("group", ["node", "second"]), ("other", ["first", "second"])] group)) ∧
    validSelections severalJson file 1
        [("group", ["node", "second"]), ("other", ["first", "second"])] =
      [("group", "second"), ("other", "first")] := by
  let written (selections : List (String × String)) : Option (List UInt8) :=
    some (severalJson.toVec ⟨1, 1, selections⟩)
  have hother : SelectionRun severalJson [(saveOf 2, .ok ())]
      (some (severalJson.toVec (savedOf 2))) :=
    selectionRun_step .start (by decide +kernel) (by decide +kernel)
  have hfirst := selectionRun_step hother (by decide +kernel)
    (by decide +kernel : saveSelection severalJson _ (saveOf 1) =
      (.ok (), written [("group", "node")]))
  have hsecond := selectionRun_step hfirst (by decide +kernel)
    (by decide +kernel : saveSelection severalJson _ ⟨1, "other", "first", .afterReplace⟩ =
      (.error .maintenanceDebt, written [("group", "node"), ("other", "first")]))
  have hagain := selectionRun_step hsecond (by decide +kernel)
    (by decide +kernel : saveSelection severalJson _ ⟨1, "group", "second", .none⟩ =
      (.ok (), written [("group", "second"), ("other", "first")]))
  have hfailed := selectionRun_step hagain (by decide +kernel)
    (by decide +kernel : saveSelection severalJson _ ⟨1, "other", "second", .beforeReplace⟩ =
      (.error .io, written [("group", "second"), ("other", "first")]))
  exact ⟨_, _, hfailed, rfl, rfl, (validSelections_of_run hfailed 1 _).1, by decide +kernel⟩

end Several

end MultiCore.Profiles
