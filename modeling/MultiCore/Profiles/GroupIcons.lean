import Mathlib.Tactic.Common
import MultiCore.Library.Base64
import MultiCore.Library.JsonText
import MultiCore.Library.Ranked
import MultiCore.Library.SortedMap

/-!
# Group icons

The icons of groups are kept in two files. The cache of the store has the icons of
all profiles with the time each was fetched: a save replaces it with the newest
valid ones. A snapshot has those its configuration names. Each reads back what it
was given, and within the limits neither file gets too large to be read.
-/

namespace MultiCore.Profiles

open SortedMap (Keyed)

/-- A snapshot has no more icons. -/
def maxGroupIcons : Nat := 32

/-- No icon is wider or higher. -/
def maxGroupIconDimension : Nat := 128

/-- No icon is greater. -/
def maxGroupIconOutputBytes : Nat := 128 * 1024

/-- A file of icons that is greater is not read. -/
def maxGroupIconsFileBytes : Nat := maxGroupIcons * maxGroupIconOutputBytes * 4 / 3 + 64 * 1024

/-- The cache has no more icons. -/
def maxCachedGroupIcons : Nat := 64

/-- A cache that is greater is not read. -/
def maxGroupIconCacheBytes : Nat :=
  maxCachedGroupIcons * maxGroupIconOutputBytes * 4 / 3 + 64 * 1024

/-- What is known of a decoded image. -/
structure Raster where
  width : Nat
  height : Nat
  isRgba8 : Bool
  deriving DecidableEq, Repr

/-- One cached group icon: its canonical image and when it was downloaded. -/
structure CachedGroupIcon where
  png : List UInt8
  fetchedAtUnix : UInt64
  deriving DecidableEq, Repr

/-- The same with its image as Base64 text. -/
structure CachedGroupIconRecord where
  png : String
  fetchedAtUnix : UInt64
  deriving DecidableEq, Repr

/-- A serializer of maps. -/
structure MapJson (α : Type) where
  toVec : Keyed String α → List UInt8
  fromSlice : List UInt8 → Option (Keyed String α)

/-- The serializer writes compact text for a map, and reads it back from that. -/
structure MapJson.Handles {α : Type} (json : MapJson α) (valueText : α → List Char)
    (m : Keyed String α) : Prop where
  written : json.toVec m =
    Utf8.encode (Json.objectText (m.fields.map fun field => (field.1, valueText field.2)))
  readBack : json.fromSlice (json.toVec m) = some m

/-- The JSON text of a record. -/
def recordText (record : CachedGroupIconRecord) : List Char :=
  Json.objectText
    [("png", Json.stringText record.png),
      ("fetched_at_unix", Json.numberText record.fetchedAtUnix.toNat)]

/-- What is used of other libraries: images, base64 text, the serializers of the two files, the
digest SHA-256 and which addresses of icons can be fetched. -/
structure IconLibrary where
  isPng : List UInt8 → Bool
  decodeRaster : List UInt8 → Option Raster
  base64Encode : List UInt8 → String
  base64Decode : String → Option (List UInt8)
  cacheJson : MapJson CachedGroupIconRecord
  snapshotJson : MapJson String
  digest : List UInt8 → List UInt8
  validateUrl : String → Option String

/-- Base64 text is padded and read back. -/
structure IconLibrary.WritesBase64 (library : IconLibrary) : Prop where
  written : ∀ png, library.base64Encode png = String.ofList (Base64.padded .standard png)
  readBack : ∀ png, library.base64Decode (library.base64Encode png) = some png

/-- The digest is not shorter than a key. -/
def IconLibrary.Digests (library : IconLibrary) : Prop :=
  ∀ bytes, 16 ≤ (library.digest bytes).length

/-- Whether a text is 32 lower-case hexadecimal digits. -/
def isGroupIconKey (key : String) : Bool :=
  let bytes := Utf8.encode key.toList
  bytes.length = 32 &&
    bytes.all fun byte => (48 ≤ byte && byte ≤ 57) || (97 ≤ byte && byte ≤ 102)

/-- "acTL". -/
def animationChunk : List UInt8 := [97, 99, 84, 76]

/-- Whether the name of an animation's chunk stands anywhere. -/
def containsPngAnimation (source : List UInt8) : Bool :=
  source.tails.any fun rest => animationChunk.isPrefixOf rest

variable (library : IconLibrary)

/-- The first half of the digest of an address in hexadecimal digits. -/
def groupIconKey (url : String) : String :=
  String.ofList (((library.digest (Utf8.encode url.toList)).take 16).flatMap fun byte =>
    Text.hexadecimal 2 byte.toNat)

/-- Whether an image is a still one in the form and within the limits of icons. -/
def isCanonicalGroupIcon (source : List UInt8) : Bool :=
  if maxGroupIconOutputBytes < source.length || !library.isPng source ||
      containsPngAnimation source then false
  else
    (library.decodeRaster source).any fun image =>
      image.width ≤ maxGroupIconDimension && image.height ≤ maxGroupIconDimension && image.isRgba8

section Cache

/-- Whether an entry is written: its key and its image are what they should be. -/
def isValidIcon (entry : String × CachedGroupIcon) : Bool :=
  isGroupIconKey entry.1 && isCanonicalGroupIcon library entry.2.png

/-- When an entry was downloaded. -/
def fetchedAt (entry : String × CachedGroupIcon) : Nat := entry.2.fetchedAtUnix.toNat

/-- The valid entries that were downloaded last, up to the limit. -/
def newestIcons (icons : Keyed String CachedGroupIcon) : List (String × CachedGroupIcon) :=
  Ranked.highest fetchedAt maxCachedGroupIcons (icons.fields.filter (isValidIcon library))

/-- The record of an icon. -/
def cacheRecord (icon : CachedGroupIcon) : CachedGroupIconRecord :=
  ⟨library.base64Encode icon.png, icon.fetchedAtUnix⟩

/-- The records of the entries that are written. -/
def cacheRecords (icons : Keyed String CachedGroupIcon) : Keyed String CachedGroupIconRecord :=
  Keyed.ofList ((newestIcons library icons).map fun entry => (entry.1, cacheRecord library entry.2))

/-- The bytes of the cache's file. -/
def encodeGroupIconCache (icons : Keyed String CachedGroupIcon) : List UInt8 :=
  library.cacheJson.toVec (cacheRecords library icons)

/-- The icon of a field of the file, if it is one. -/
def cachedIcon (field : String × CachedGroupIconRecord) : Option (String × CachedGroupIcon) := do
  let png ← library.base64Decode field.2.png
  if isCanonicalGroupIcon library png then some (field.1, ⟨png, field.2.fetchedAtUnix⟩) else none

/-- The icons in the bytes of a cache's file. -/
def decodeGroupIconCache (bytes : List UInt8) : Keyed String CachedGroupIcon :=
  match library.cacheJson.fromSlice bytes with
  | none => Keyed.empty
  | some records =>
    Keyed.ofList (((records.fields.filter fun field => isGroupIconKey field.1).filterMap
      (cachedIcon library)).take maxCachedGroupIcons)

/-- The file of the cache, and the one it is written to first. -/
structure IconFiles where
  cache : Option (List UInt8)
  temp : Option (List UInt8)
  deriving DecidableEq, Repr

/-- Where the file system fails a save, and what stays of the file it was written to. -/
inductive IconFault where
  | none
  | inspecting
  | removing
  | writing (left : Option (List UInt8))
  | replacing (left : Option (List UInt8))
  deriving DecidableEq, Repr

/-- The icons of the cache; none where its file cannot be read. -/
def groupIconCache (files : IconFiles) : Keyed String CachedGroupIcon :=
  match files.cache with
  | none => Keyed.empty
  | some bytes =>
    if maxGroupIconCacheBytes < bytes.length then Keyed.empty
    else decodeGroupIconCache library bytes

/-- Whether a save succeeds, and the files after it. -/
def saveGroupIconCache (icons : Keyed String CachedGroupIcon) (fault : IconFault)
    (files : IconFiles) : Bool × IconFiles :=
  let bytes := encodeGroupIconCache library icons
  if fault = .inspecting then (false, files)
  else if files.temp.isSome && fault = .removing then (false, files)
  else
    match fault with
    | .writing left => (false, { files with temp := left })
    | .replacing left => (false, { files with temp := left })
    | _ => (true, ⟨some bytes, none⟩)

/-- Saves with their results, from no cache on, and the files they leave. The serializer handles
what they write. -/
inductive IconRun : List (Keyed String CachedGroupIcon × Bool) → IconFiles → Prop
  | start (temp : Option (List UInt8)) : IconRun [] ⟨none, temp⟩
  | step {trace : List (Keyed String CachedGroupIcon × Bool)} {files : IconFiles}
      (run : IconRun trace files) (icons : Keyed String CachedGroupIcon) (fault : IconFault)
      (handles : library.cacheJson.Handles recordText (cacheRecords library icons)) :
      IconRun (trace ++ [(icons, (saveGroupIconCache library icons fault files).1)])
        (saveGroupIconCache library icons fault files).2

/-- The icons of the last save that succeeded. -/
def lastSaved (trace : List (Keyed String CachedGroupIcon × Bool)) :
    Keyed String CachedGroupIcon :=
  trace.foldl (fun saved save => if save.2 then save.1 else saved) Keyed.empty

/-- The valid icons that were fetched last, up to the limit; of those fetched at one time the ones
whose keys come first. -/
structure AreNewest (icons kept : Keyed String CachedGroupIcon) : Prop where
  own : ∀ entry ∈ kept.fields, entry ∈ icons.fields ∧ isValidIcon library entry = true
  count : kept.fields.length =
    min maxCachedGroupIcons (icons.fields.filter (isValidIcon library)).length
  newest : ∀ entry ∈ kept.fields, ∀ other ∈ icons.fields, isValidIcon library other = true →
    other ∉ kept.fields →
      fetchedAt other < fetchedAt entry ∨ fetchedAt other = fetchedAt entry ∧ entry.1 < other.1

end Cache

section Snapshot

/-- The icon addresses of a configuration that can be fetched, each once, with their keys. -/
def groupIconUrls (groupIcons : List (Option String)) : List (String × String) :=
  (((groupIcons.filterMap id).filterMap library.validateUrl).eraseDups.take maxGroupIcons).map
    fun url => (groupIconKey library url, url)

/-- The icons of a snapshot with those of some images that its configuration names. -/
def withGroupIcons (groupIcons : List (Option String)) (images : Keyed String (List UInt8))
    (icons : Keyed String (List UInt8)) : Keyed String (List UInt8) :=
  let attach := (groupIconUrls library groupIcons).filterMap fun url => do
    let png ← SortedMap.get url.1 images.fields
    if SortedMap.get url.1 icons.fields ≠ some png && isCanonicalGroupIcon library png then
      some (url.1, png)
    else none
  attach.foldl (fun icons icon => icons.insert icon.1 icon.2) icons

/-- The bytes of a snapshot's file. -/
def encodeGroupIcons (icons : Keyed String (List UInt8)) : List UInt8 :=
  library.snapshotJson.toVec (icons.mapValues library.base64Encode)

/-- The icon of a field of the file, if it is one. -/
def snapshotIcon (field : String × String) : Option (String × List UInt8) := do
  let png ← library.base64Decode field.2
  if isCanonicalGroupIcon library png then some (field.1, png) else none

/-- The icons in the bytes of a snapshot's file. -/
def decodeGroupIcons (bytes : List UInt8) : Keyed String (List UInt8) :=
  match library.snapshotJson.fromSlice bytes with
  | none => Keyed.empty
  | some encoded =>
    Keyed.ofList (((encoded.fields.filter fun field => isGroupIconKey field.1).take
      maxGroupIcons).filterMap (snapshotIcon library))

/-- The file a snapshot is stored with. -/
def storedGroupIcons (icons : Keyed String (List UInt8)) : Option (List UInt8) :=
  if icons.fields.isEmpty then none else some (encodeGroupIcons library icons)

/-- The icons of a snapshot; none where its file cannot be read. -/
def loadGroupIcons (file : Option (List UInt8)) : Keyed String (List UInt8) :=
  match file with
  | none => Keyed.empty
  | some bytes =>
    if maxGroupIconsFileBytes < bytes.length then Keyed.empty else decodeGroupIcons library bytes

/-- Icons that were attached to a snapshot of a configuration. -/
inductive Attached (groupIcons : List (Option String)) : Keyed String (List UInt8) → Prop
  | start : Attached groupIcons Keyed.empty
  | attach {icons : Keyed String (List UInt8)} (attached : Attached groupIcons icons)
      (images : Keyed String (List UInt8)) :
      Attached groupIcons (withGroupIcons library groupIcons images icons)

end Snapshot

section Texts

variable {library}

/-- A key is printable and 32 characters long. -/
theorem isGroupIconKey_chars {key : String} (h : isGroupIconKey key = true) :
    Json.IsPrintable key ∧ key.toList.length = 32 := by
  rw [isGroupIconKey, Bool.and_eq_true, decide_eq_true_eq, List.all_eq_true] at h
  have hrange : ∀ b ∈ Utf8.encode key.toList, 48 ≤ b.toNat ∧ b.toNat ≤ 102 := by
    intro b hb
    have hbyte := h.2 b hb
    simp only [Bool.or_eq_true, Bool.and_eq_true, decide_eq_true_eq] at hbyte
    rcases hbyte with ⟨hlow, hhigh⟩ | ⟨hlow, hhigh⟩
    · have hle := UInt8.le_iff_toNat_le.1 hlow
      have hge := UInt8.le_iff_toNat_le.1 hhigh
      exact ⟨hle, Nat.le_trans hge (by decide)⟩
    · have hle := UInt8.le_iff_toNat_le.1 hlow
      have hge := UInt8.le_iff_toNat_le.1 hhigh
      exact ⟨Nat.le_trans (by decide) hle, hge⟩
  have hascii : ∀ b ∈ Utf8.encode key.toList, b.toNat < 0x80 := by
    intro b hb
    have hb' := hrange b hb
    omega
  constructor
  · intro c hc
    obtain ⟨hsmall, hmem⟩ := Utf8.ascii_of_encode hascii hc
    have hlow := (hrange _ hmem).1
    rw [UInt8.toNat_ofNat', Nat.mod_eq_of_lt (by omega)] at hlow
    exact ⟨by omega, hsmall⟩
  · rw [← Json.length_encode_of_isAscii fun c hc => (Utf8.ascii_of_encode hascii hc).1]
    exact h.1

/-- Nothing of base64 text is escaped. -/
theorem base64_plain (hbase64 : library.WritesBase64) (png : List UInt8) :
    (∀ c ∈ (library.base64Encode png).toList, Json.escape c = [c]) ∧
      Json.IsPrintable (library.base64Encode png) := by
  have hsymbols : ∀ n < 64, Json.escape (Base64.symbol .standard n) =
      [Base64.symbol .standard n] ∧ 32 ≤ (Base64.symbol .standard n).toNat ∧
      (Base64.symbol .standard n).toNat < 0x80 := by decide
  have hchars : ∀ c ∈ (library.base64Encode png).toList,
      Json.escape c = [c] ∧ 32 ≤ c.toNat ∧ c.toNat < 0x80 := by
    intro c hc
    rw [hbase64.written, String.toList_ofList] at hc
    rcases Base64.mem_padded hc with hsymbol | rfl
    · obtain ⟨n, hn⟩ := Option.isSome_iff_exists.1 hsymbol
      obtain ⟨hlt, rfl⟩ := Base64.symbol_value hn
      exact hsymbols n hlt
    · decide
  exact ⟨fun c hc => (hchars c hc).1, fun c hc => (hchars c hc).2⟩

/-- The text of the base64 text of an image that is small enough. -/
theorem length_base64_le (hbase64 : library.WritesBase64) {png : List UInt8}
    (h : png.length ≤ maxGroupIconOutputBytes) :
    (Json.stringText (library.base64Encode png)).length ≤ 174766 := by
  rw [Json.length_stringText_of_plain (base64_plain hbase64 png).1, hbase64.written,
    String.toList_ofList, Base64.length_padded]
  rw [maxGroupIconOutputBytes] at h
  omega

/-- An icon is within its limit. -/
theorem isCanonicalGroupIcon_length {png : List UInt8}
    (h : isCanonicalGroupIcon library png = true) : png.length ≤ maxGroupIconOutputBytes := by
  rw [isCanonicalGroupIcon] at h
  split_ifs at h with hrefused
  rw [Bool.or_eq_true, Bool.or_eq_true, not_or, not_or, decide_eq_true_eq, Nat.not_lt] at hrefused
  exact hrefused.1.1

/-- The text of a record is not longer than its image allows. -/
theorem recordText_bounds (hbase64 : library.WritesBase64) {icon : CachedGroupIcon}
    (h : isCanonicalGroupIcon library icon.png = true) :
    (recordText (cacheRecord library icon)).length ≤ 174900 ∧
      Json.IsAscii (recordText (cacheRecord library icon)) := by
  have hpng := length_base64_le hbase64 (isCanonicalGroupIcon_length h)
  have htime : (Json.numberText icon.fetchedAtUnix.toNat).length ≤ 20 := by
    have hlt := icon.fetchedAtUnix.toNat_lt
    apply (Nat.length_toDigits_le_iff (by decide) (by decide)).2
    omega
  have hkeys : (Json.stringText "png").length = 5 ∧
      (Json.stringText "fetched_at_unix").length = 17 := by decide
  have hplain : Json.IsPrintable "png" ∧ Json.IsPrintable "fetched_at_unix" := by
    constructor <;> exact Json.isPrintable_of_all (by decide)
  have hfirst := Json.length_objectText_cons_le
    ("png", Json.stringText (library.base64Encode icon.png))
    [("fetched_at_unix", Json.numberText icon.fetchedAtUnix.toNat)]
  have hsecond := Json.length_objectText_cons_le
    ("fetched_at_unix", Json.numberText icon.fetchedAtUnix.toNat) []
  have hempty : (Json.objectText []).length = 2 := rfl
  rw [recordText, cacheRecord]
  dsimp only at hfirst hsecond ⊢
  constructor
  · omega
  · apply Json.isAscii_objectText
    intro field hfield
    simp only [List.mem_cons, List.not_mem_nil, or_false] at hfield
    rcases hfield with rfl | rfl
    · exact ⟨hplain.1, Json.isAscii_stringText (base64_plain hbase64 icon.png).2⟩
    · exact ⟨hplain.2, Json.isAscii_numberText _⟩

/-- A file of valid fields is no longer than they may get. -/
theorem length_mapText_le {α : Type} {json : MapJson α} {valueText : α → List Char}
    {m : Keyed String α} (bound : Nat) (handles : json.Handles valueText m)
    (hkeys : ∀ field ∈ m.fields, isGroupIconKey field.1 = true)
    (hvalues : ∀ field ∈ m.fields,
      (valueText field.2).length ≤ bound ∧ Json.IsAscii (valueText field.2)) :
    (json.toVec m).length ≤ m.fields.length * (bound + 68) + 2 := by
  have hfields : ∀ field ∈ m.fields.map fun field => (field.1, valueText field.2),
      (Json.IsPrintable field.1 ∧ Json.IsAscii field.2) ∧
        (Json.stringText field.1).length + field.2.length + 1 ≤ bound + 67 := by
    intro field hfield
    obtain ⟨field, hmem, rfl⟩ := List.mem_map.1 hfield
    obtain ⟨hprintable, hlength⟩ := isGroupIconKey_chars (hkeys field hmem)
    obtain ⟨hvalue, hascii⟩ := hvalues field hmem
    have hkey := Json.length_stringText_le hprintable
    exact ⟨⟨hprintable, hascii⟩, by dsimp only; omega⟩
  have htext := Json.length_objectText_le fun field hfield => (hfields field hfield).2
  have hascii := Json.isAscii_objectText fun field hfield => (hfields field hfield).1
  rw [List.length_map] at htext
  rw [handles.written, Json.length_encode_of_isAscii hascii]
  exact htext

end Texts

section CacheReads

variable {library}

/-- What is written is valid. -/
theorem newestIcons_valid {icons : Keyed String CachedGroupIcon}
    {entry : String × CachedGroupIcon} (h : entry ∈ newestIcons library icons) :
    entry ∈ icons.fields ∧ isValidIcon library entry = true :=
  List.mem_filter.1 (Ranked.mem_of_highest h)

/-- No key is written twice. -/
theorem newestIcons_keys (icons : Keyed String CachedGroupIcon) :
    ((newestIcons library icons).map Prod.fst).Nodup :=
  Ranked.nodup_map_highest (icons.nodup_keys.sublist (List.filter_sublist.map Prod.fst))

variable (library) in
/-- No more is written than the limit. -/
theorem length_newestIcons_le (icons : Keyed String CachedGroupIcon) :
    (newestIcons library icons).length ≤ maxCachedGroupIcons := by
  rw [newestIcons, Ranked.length_highest]
  exact Nat.min_le_left _ _

variable (library) in
/-- The records are those of the newest entries, in the order of their keys. -/
theorem cacheRecords_perm (icons : Keyed String CachedGroupIcon) :
    (cacheRecords library icons).fields.Perm
      ((newestIcons library icons).map fun entry => (entry.1, cacheRecord library entry.2)) := by
  apply Keyed.ofList_perm
  rw [List.map_map]
  exact newestIcons_keys icons

/-- A field of the file is one of the newest icons. -/
theorem mem_cacheRecords {icons : Keyed String CachedGroupIcon}
    {field : String × CachedGroupIconRecord} (h : field ∈ (cacheRecords library icons).fields) :
    ∃ entry ∈ newestIcons library icons, field = (entry.1, cacheRecord library entry.2) := by
  obtain ⟨entry, hentry, heq⟩ := List.mem_map.1 ((cacheRecords_perm library icons).mem_iff.1 h)
  exact ⟨entry, hentry, heq.symm⟩

/-- A save is never too large to be read. -/
theorem length_encodeGroupIconCache_le (hbase64 : library.WritesBase64)
    {icons : Keyed String CachedGroupIcon}
    (handles : library.cacheJson.Handles recordText (cacheRecords library icons)) :
    (encodeGroupIconCache library icons).length ≤ maxGroupIconCacheBytes := by
  have hvalid : ∀ field ∈ (cacheRecords library icons).fields, isGroupIconKey field.1 = true ∧
      ∃ icon, isCanonicalGroupIcon library icon.png = true ∧
        field.2 = cacheRecord library icon := by
    intro field hfield
    obtain ⟨entry, hentry, rfl⟩ := mem_cacheRecords hfield
    have hentryValid := (newestIcons_valid hentry).2
    rw [isValidIcon, Bool.and_eq_true] at hentryValid
    exact ⟨hentryValid.1, entry.2, hentryValid.2, rfl⟩
  have hrecords : ∀ field ∈ (cacheRecords library icons).fields,
      (recordText field.2).length ≤ 174900 ∧ Json.IsAscii (recordText field.2) := by
    intro field hfield
    obtain ⟨-, icon, hcanonical, hrecord⟩ := hvalid field hfield
    rw [hrecord]
    exact recordText_bounds hbase64 hcanonical
  have hlength := length_mapText_le 174900 handles
    (fun field hfield => (hvalid field hfield).1) hrecords
  have hcount := (cacheRecords_perm library icons).length_eq
  have hle := length_newestIcons_le library icons
  have hroom : maxCachedGroupIcons = 64 ∧ maxGroupIconCacheBytes = 11250346 := by decide
  rw [List.length_map] at hcount
  rw [hcount] at hlength
  exact Nat.le_trans hlength (by omega)

/-- A valid icon is read from its record. -/
theorem cachedIcon_cacheRecord (hbase64 : library.WritesBase64)
    {entry : String × CachedGroupIcon} (h : isValidIcon library entry = true) :
    cachedIcon library (entry.1, cacheRecord library entry.2) = some entry := by
  rw [isValidIcon, Bool.and_eq_true] at h
  rw [cachedIcon, cacheRecord, hbase64.readBack]
  exact if_pos h.2

/-- What is read of a save is the newest icons. -/
theorem groupIconCache_perm (hbase64 : library.WritesBase64)
    {icons : Keyed String CachedGroupIcon} {files : IconFiles}
    (handles : library.cacheJson.Handles recordText (cacheRecords library icons))
    (hfile : files.cache = some (encodeGroupIconCache library icons)) :
    (groupIconCache library files).fields.Perm (newestIcons library icons) := by
  have hsize := length_encodeGroupIconCache_le hbase64 handles
  have hread : library.cacheJson.fromSlice (encodeGroupIconCache library icons) =
      some (cacheRecords library icons) := handles.readBack
  rw [groupIconCache, hfile]
  dsimp only
  rw [if_neg (Nat.not_lt.2 hsize), decodeGroupIconCache, hread]
  dsimp only
  have hkeys : (cacheRecords library icons).fields.filter (fun field => isGroupIconKey field.1) =
      (cacheRecords library icons).fields := by
    rw [List.filter_eq_self]
    intro field hfield
    obtain ⟨entry, hentry, rfl⟩ := mem_cacheRecords hfield
    have hvalid := (newestIcons_valid hentry).2
    rw [isValidIcon, Bool.and_eq_true] at hvalid
    exact hvalid.1
  have hback : ((newestIcons library icons).map fun entry =>
      (entry.1, cacheRecord library entry.2)).filterMap (cachedIcon library) =
      newestIcons library icons := by
    rw [List.filterMap_map]
    have hall : ∀ entry ∈ newestIcons library icons,
        (cachedIcon library ∘ fun entry => (entry.1, cacheRecord library entry.2)) entry =
          some entry :=
      fun entry hentry => cachedIcon_cacheRecord hbase64 (newestIcons_valid hentry).2
    rw [List.filterMap_congr hall, List.filterMap_some]
  have hperm := (cacheRecords_perm library icons).filterMap (cachedIcon library)
  rw [hback] at hperm
  rw [hkeys, List.take_of_length_le
    (Nat.le_trans (Nat.le_of_eq hperm.length_eq) (length_newestIcons_le library icons))]
  have hnodup := (hperm.map Prod.fst).nodup_iff.2 (newestIcons_keys icons)
  exact (Keyed.ofList_perm hnodup).trans hperm

/-- A map with just the newest icons of another. -/
theorem areNewest_of_perm {icons kept : Keyed String CachedGroupIcon}
    (h : kept.fields.Perm (newestIcons library icons)) : AreNewest library icons kept where
  own entry hentry := newestIcons_valid (h.mem_iff.1 hentry)
  count := by rw [h.length_eq, newestIcons, Ranked.length_highest]
  newest entry hentry other hother hvalid hout := by
    have hnodup : (icons.fields.filter (isValidIcon library)).Nodup :=
      icons.nodup_fields.sublist List.filter_sublist
    have hcut := mt h.mem_iff.2 hout
    rcases Ranked.highest_outranks hnodup (h.mem_iff.1 hentry)
      (List.mem_filter.2 ⟨hother, hvalid⟩) hcut with hlower | ⟨hsame, hpair⟩
    · exact .inl hlower
    · have hordered := icons.ordered.sublist (hpair.trans List.filter_sublist)
      exact .inr ⟨hsame, List.rel_of_pairwise_cons hordered List.mem_cons_self⟩

variable (library) in
/-- A save succeeds and replaces the file, or leaves the file as it was. -/
theorem saveGroupIconCache_cases (icons : Keyed String CachedGroupIcon) (fault : IconFault)
    (files : IconFiles) :
    ((saveGroupIconCache library icons fault files).1 = true ∧
        (saveGroupIconCache library icons fault files).2.cache =
          some (encodeGroupIconCache library icons)) ∨
      ((saveGroupIconCache library icons fault files).1 = false ∧
        (saveGroupIconCache library icons fault files).2.cache = files.cache) := by
  obtain ⟨cache, temp⟩ := files
  cases fault with
  | none => cases temp <;> exact .inl ⟨rfl, rfl⟩
  | inspecting => exact .inr ⟨rfl, rfl⟩
  | removing =>
    cases temp with
    | none => exact .inl ⟨rfl, rfl⟩
    | some bytes => exact .inr ⟨rfl, rfl⟩
  | writing left => cases temp <;> exact .inr ⟨rfl, rfl⟩
  | replacing left => cases temp <;> exact .inr ⟨rfl, rfl⟩

/-- One save more. -/
theorem lastSaved_snoc (trace : List (Keyed String CachedGroupIcon × Bool))
    (save : Keyed String CachedGroupIcon × Bool) :
    lastSaved (trace ++ [save]) = if save.2 then save.1 else lastSaved trace :=
  List.foldl_append

/-- After any saves the cache reads as the newest icons of the last one that succeeded. -/
theorem IconRun.reads (hbase64 : library.WritesBase64)
    {trace : List (Keyed String CachedGroupIcon × Bool)} {files : IconFiles}
    (run : IconRun library trace files) :
    AreNewest library (lastSaved trace) (groupIconCache library files) := by
  have hread : ∀ {files files' : IconFiles}, files.cache = files'.cache →
      groupIconCache library files = groupIconCache library files' := by
    intro files files' h
    rw [groupIconCache, groupIconCache, h]
  induction run with
  | start temp => exact areNewest_of_perm (List.Perm.refl _)
  | @step trace files run icons fault handles ih =>
    rw [lastSaved_snoc]
    rcases saveGroupIconCache_cases library icons fault files with
      ⟨hsaved, hcache⟩ | ⟨hfailed, hcache⟩
    · rw [hsaved, if_pos rfl]
      exact areNewest_of_perm (groupIconCache_perm hbase64 handles hcache)
    · rw [hfailed, if_neg Bool.false_ne_true, hread hcache]
      exact ih

end CacheReads

section SnapshotReads

variable {library}

/-- The hexadecimal digits of bytes are those of keys, two of each. -/
theorem encode_hexadecimal (bytes : List UInt8) :
    (Utf8.encode (bytes.flatMap fun byte => Text.hexadecimal 2 byte.toNat)).length =
        2 * bytes.length ∧
      ∀ b ∈ Utf8.encode (bytes.flatMap fun byte => Text.hexadecimal 2 byte.toNat),
        (48 ≤ b ∧ b ≤ 57) ∨ (97 ≤ b ∧ b ≤ 102) := by
  have hdigit : ∀ n < 16, (String.utf8EncodeChar (Text.hexDigit n)).length = 1 ∧
      ∀ b ∈ String.utf8EncodeChar (Text.hexDigit n), (48 ≤ b ∧ b ≤ 57) ∨ (97 ≤ b ∧ b ≤ 102) := by
    decide +kernel
  have hbyte : ∀ n, (Utf8.encode (Text.hexadecimal 2 n)).length = 2 ∧
      ∀ b ∈ Utf8.encode (Text.hexadecimal 2 n), (48 ≤ b ∧ b ≤ 57) ∨ (97 ≤ b ∧ b ≤ 102) := by
    intro n
    have hhigh := hdigit (n / 16 % 16) (Nat.mod_lt _ (by decide))
    have hlow := hdigit (n % 16) (Nat.mod_lt _ (by decide))
    have hencode : Utf8.encode (Text.hexadecimal 2 n) =
        String.utf8EncodeChar (Text.hexDigit (n / 16 % 16)) ++
          String.utf8EncodeChar (Text.hexDigit (n % 16)) := by
      simp only [Utf8.encode, Text.hexadecimal, List.nil_append, List.cons_append,
        List.flatMap_cons, List.flatMap_nil, List.append_nil]
    rw [hencode]
    refine ⟨by rw [List.length_append, hhigh.1, hlow.1], fun b hb => ?_⟩
    exact (List.mem_append.1 hb).elim (hhigh.2 b) (hlow.2 b)
  induction bytes with
  | nil => exact ⟨rfl, fun b hb => absurd hb List.not_mem_nil⟩
  | cons byte bytes ih =>
    obtain ⟨hlength, hdigits⟩ := hbyte byte.toNat
    rw [List.flatMap_cons, Utf8.encode, List.flatMap_append]
    constructor
    · rw [List.length_append, List.length_cons]
      rw [Utf8.encode] at hlength ih
      omega
    · intro b hb
      rcases List.mem_append.1 hb with hb | hb
      · exact hdigits b hb
      · exact ih.2 b hb

/-- The key of an address is a key. -/
theorem isGroupIconKey_groupIconKey (hdigests : library.Digests) (url : String) :
    isGroupIconKey (groupIconKey library url) = true := by
  obtain ⟨hlength, hdigits⟩ :=
    encode_hexadecimal ((library.digest (Utf8.encode url.toList)).take 16)
  have hdigest := hdigests (Utf8.encode url.toList)
  rw [List.length_take, Nat.min_eq_left hdigest] at hlength
  rw [isGroupIconKey, groupIconKey, String.toList_ofList, Bool.and_eq_true, decide_eq_true_eq,
    List.all_eq_true]
  refine ⟨hlength, fun b hb => ?_⟩
  simp only [Bool.or_eq_true, Bool.and_eq_true, decide_eq_true_eq]
  exact hdigits b hb

/-- No more addresses are taken than the limit. -/
theorem length_groupIconUrls_le (groupIcons : List (Option String)) :
    (groupIconUrls library groupIcons).length ≤ maxGroupIcons := by
  rw [groupIconUrls, List.length_map, List.length_take]
  exact Nat.min_le_left _ _

/-- What is attached is named by the configuration and canonical. -/
theorem Attached.fields {groupIcons : List (Option String)} {icons : Keyed String (List UInt8)}
    (attached : Attached library groupIcons icons) : ∀ field ∈ icons.fields,
      field.1 ∈ (groupIconUrls library groupIcons).map Prod.fst ∧
        isCanonicalGroupIcon library field.2 = true := by
  induction attached with
  | start => exact fun field hfield => absurd hfield List.not_mem_nil
  | attach attached images ih =>
    intro field hfield
    rcases Keyed.mem_foldl_insert hfield with hnew | hold
    · obtain ⟨url, hurl, hattach⟩ := List.mem_filterMap.1 hnew
      simp only [Option.bind_eq_bind, Option.bind_eq_some_iff] at hattach
      obtain ⟨png, -, hattach⟩ := hattach
      split_ifs at hattach with hcanonical
      obtain rfl := Option.some.inj hattach
      exact ⟨List.mem_map_of_mem hurl, (Bool.and_eq_true_iff.1 hcanonical).2⟩
    · exact ih field hold

/-- No more icons are attached than the limit. -/
theorem Attached.count {groupIcons : List (Option String)} {icons : Keyed String (List UInt8)}
    (attached : Attached library groupIcons icons) : icons.fields.length ≤ maxGroupIcons := by
  have hsubset : icons.fields.map Prod.fst ⊆ (groupIconUrls library groupIcons).map Prod.fst := by
    intro key hkey
    obtain ⟨field, hfield, rfl⟩ := List.mem_map.1 hkey
    exact (attached.fields field hfield).1
  have hle := (List.subperm_of_subset icons.nodup_keys hsubset).length_le
  rw [List.length_map, List.length_map] at hle
  exact Nat.le_trans hle (length_groupIconUrls_le groupIcons)

/-- The keys of attached icons are those of addresses. -/
theorem Attached.keys (hdigests : library.Digests) {groupIcons : List (Option String)}
    {icons : Keyed String (List UInt8)} (attached : Attached library groupIcons icons) :
    ∀ field ∈ icons.fields, isGroupIconKey field.1 = true := by
  intro field hfield
  obtain ⟨url, hurl, hkey⟩ := List.mem_map.1 (attached.fields field hfield).1
  obtain ⟨address, -, rfl⟩ := List.mem_map.1 hurl
  rw [← hkey]
  exact isGroupIconKey_groupIconKey hdigests address

/-- The file of a snapshot is short enough to be read. -/
theorem length_encodeGroupIcons_le (hbase64 : library.WritesBase64) (hdigests : library.Digests)
    {groupIcons : List (Option String)} {icons : Keyed String (List UInt8)}
    (attached : Attached library groupIcons icons)
    (handles : library.snapshotJson.Handles Json.stringText
      (icons.mapValues library.base64Encode)) :
    (encodeGroupIcons library icons).length ≤ maxGroupIconsFileBytes := by
  have hkeys : ∀ field ∈ (icons.mapValues library.base64Encode).fields,
      isGroupIconKey field.1 = true := by
    intro field hfield
    obtain ⟨field, hmem, rfl⟩ := List.mem_map.1 hfield
    exact attached.keys hdigests field hmem
  have hvalues : ∀ field ∈ (icons.mapValues library.base64Encode).fields,
      (Json.stringText field.2).length ≤ 174766 ∧ Json.IsAscii (Json.stringText field.2) := by
    intro field hfield
    obtain ⟨field, hmem, rfl⟩ := List.mem_map.1 hfield
    have hcanonical := (attached.fields field hmem).2
    exact ⟨length_base64_le hbase64 (isCanonicalGroupIcon_length hcanonical),
      Json.isAscii_stringText (base64_plain hbase64 field.2).2⟩
  have hlength := length_mapText_le 174766 handles hkeys hvalues
  have hcount := attached.count
  have hsame : (icons.mapValues library.base64Encode).fields.length = icons.fields.length :=
    List.length_map _
  have hroom : maxGroupIcons = 32 ∧ maxGroupIconsFileBytes = 5657941 := by decide
  exact Nat.le_trans hlength (by omega)

/-- A snapshot has the icons back it was stored with. -/
theorem Attached.loaded (hbase64 : library.WritesBase64) (hdigests : library.Digests)
    {groupIcons : List (Option String)} {icons : Keyed String (List UInt8)}
    (attached : Attached library groupIcons icons)
    (handles : library.snapshotJson.Handles Json.stringText
      (icons.mapValues library.base64Encode)) :
    loadGroupIcons library (storedGroupIcons library icons) = icons := by
  by_cases hempty : icons.fields = []
  · rw [storedGroupIcons, if_pos (List.isEmpty_iff.2 hempty)]
    exact Keyed.ext hempty.symm
  · have hsize := length_encodeGroupIcons_le hbase64 hdigests attached handles
    have hread : library.snapshotJson.fromSlice (encodeGroupIcons library icons) =
        some (icons.mapValues library.base64Encode) := handles.readBack
    rw [storedGroupIcons, if_neg (mt List.isEmpty_iff.1 hempty), loadGroupIcons,
      if_neg (Nat.not_lt.2 hsize), decodeGroupIcons, hread]
    dsimp only
    have hfields : (icons.mapValues library.base64Encode).fields =
        icons.fields.map fun field => (field.1, library.base64Encode field.2) := rfl
    have hkeys : (icons.mapValues library.base64Encode).fields.filter
        (fun field => isGroupIconKey field.1) = (icons.mapValues library.base64Encode).fields := by
      rw [List.filter_eq_self]
      intro field hfield
      obtain ⟨field, hmem, rfl⟩ := List.mem_map.1 hfield
      exact attached.keys hdigests field hmem
    have hback : (icons.fields.map fun field =>
        (field.1, library.base64Encode field.2)).filterMap (snapshotIcon library) =
        icons.fields := by
      rw [List.filterMap_map]
      have hall : ∀ field ∈ icons.fields, (snapshotIcon library ∘ fun field =>
          (field.1, library.base64Encode field.2)) field = some field := by
        intro field hfield
        rw [Function.comp_apply, snapshotIcon, hbase64.readBack]
        exact if_pos (attached.fields field hfield).2
      rw [List.filterMap_congr hall, List.filterMap_some]
    have hcount : (icons.mapValues library.base64Encode).fields.length ≤ maxGroupIcons := by
      rw [hfields, List.length_map]
      exact attached.count
    rw [hkeys, List.take_of_length_le hcount, hfields, hback]
    exact Keyed.ofList_fields icons

/-- After any saves the cache reads as the newest valid icons of the last one that succeeded, and a
snapshot has the icons back that were attached to it. -/
theorem groupIcons_read (hbase64 : library.WritesBase64) (hdigests : library.Digests)
    {trace : List (Keyed String CachedGroupIcon × Bool)} {files : IconFiles}
    (run : IconRun library trace files) {groupIcons : List (Option String)}
    {icons : Keyed String (List UInt8)} (attached : Attached library groupIcons icons)
    (handles : library.snapshotJson.Handles Json.stringText
      (icons.mapValues library.base64Encode)) :
    AreNewest library (lastSaved trace) (groupIconCache library files) ∧
      loadGroupIcons library (storedGroupIcons library icons) = icons :=
  ⟨run.reads hbase64, attached.loaded hbase64 hdigests handles⟩

end SnapshotReads

section TwoSaves

/-- One opaque pixel. -/
def pixelPng : List UInt8 :=
  [137, 80, 78, 71, 13, 10, 26, 10, 0, 0, 0, 13, 73, 72, 68, 82, 0, 0, 0, 1, 0, 0, 0, 1, 8, 6, 0,
    0, 0, 31, 21, 196, 137, 0, 0, 0, 13, 73, 68, 65, 84, 120, 218, 99, 248, 207, 192, 240, 31, 0,
    5, 0, 1, 255, 86, 199, 47, 13, 0, 0, 0, 0, 73, 69, 78, 68, 174, 66, 96, 130]

/-- The address of the pixel. -/
def pixelUrl : String := "https://icons.example/a.png"

/-- Another address of it. -/
def otherUrl : String := "https://icons.example/b.png"

/-- The digest of the address of the pixel. -/
def pixelDigest : List UInt8 :=
  [124, 67, 227, 136, 60, 128, 77, 243, 54, 12, 61, 233, 70, 31, 63, 144, 169, 164, 9, 197, 175,
    79, 181, 33, 226, 207, 99, 187, 73, 32, 27, 206]

/-- The key of the first address. -/
def pixelKey : String := "7c43e3883c804df3360c3de9461f3f90"

/-- A library that knows the pixel, its two addresses and some files. -/
def pixelLibrary (cached : List (Keyed String CachedGroupIconRecord))
    (stored : List (Keyed String String)) : IconLibrary where
  isPng png := [137, 80, 78, 71, 13, 10, 26, 10].isPrefixOf png
  decodeRaster png := if png = pixelPng then some ⟨1, 1, true⟩ else none
  base64Encode png := String.ofList (Base64.padded .standard png)
  base64Decode text := Base64.decode .standard (text.toList.filter (· ≠ '='))
  cacheJson :=
    let toVec (m : Keyed String CachedGroupIconRecord) :=
      Utf8.encode (Json.objectText (m.fields.map fun field => (field.1, recordText field.2)))
    ⟨toVec, fun bytes => cached.find? fun m => toVec m = bytes⟩
  snapshotJson :=
    let toVec (m : Keyed String String) :=
      Utf8.encode (Json.objectText (m.fields.map fun field => (field.1, Json.stringText field.2)))
    ⟨toVec, fun bytes => stored.find? fun m => toVec m = bytes⟩
  digest bytes := if bytes = Utf8.encode pixelUrl.toList then pixelDigest else List.replicate 32 0
  validateUrl url := if url = pixelUrl || url = otherUrl then some url else none

/-- It writes padded Base64 text and reads it. -/
theorem pixelLibrary_base64 (cached : List (Keyed String CachedGroupIconRecord))
    (stored : List (Keyed String String)) : (pixelLibrary cached stored).WritesBase64 where
  written _ := rfl
  readBack png := by
    have hdecode : (pixelLibrary cached stored).base64Decode
        ((pixelLibrary cached stored).base64Encode png) =
        Base64.decode .standard ((Base64.padded .standard png).filter (· ≠ '=')) := by
      simp only [pixelLibrary, String.toList_ofList]
    rw [hdecode, Base64.filter_padded, Base64.decode_encode]

/-- Its digests are long enough. -/
theorem pixelLibrary_digests (cached : List (Keyed String CachedGroupIconRecord))
    (stored : List (Keyed String String)) : (pixelLibrary cached stored).Digests := by
  intro bytes
  simp only [pixelLibrary]
  split_ifs
  · decide
  · decide

/-- The cache with the pixel under a key. -/
def pixelUnder (key : String) (fetchedAtUnix : UInt64) : Keyed String CachedGroupIcon :=
  ⟨[(key, ⟨pixelPng, fetchedAtUnix⟩)], List.pairwise_singleton _ _⟩

/-- What is written of it. -/
def recordUnder (key : String) (fetchedAtUnix : UInt64) : Keyed String CachedGroupIconRecord :=
  ⟨[(key, ⟨String.ofList (Base64.padded .standard pixelPng), fetchedAtUnix⟩)],
    List.pairwise_singleton _ _⟩

/-- The key of the second address. -/
def otherKey : String := "00000000000000000000000000000000"

/-- The cache with the pixel under both keys, and under a name that is no key. -/
def pixelUnderBoth : Keyed String CachedGroupIcon :=
  ⟨[(otherKey, ⟨pixelPng, 8⟩), (pixelKey, ⟨pixelPng, 9⟩), ("note", ⟨pixelPng, 10⟩)], by decide⟩

/-- What is written of it. -/
def recordUnderBoth : Keyed String CachedGroupIconRecord :=
  ⟨[(otherKey, ⟨String.ofList (Base64.padded .standard pixelPng), 8⟩),
    (pixelKey, ⟨String.ofList (Base64.padded .standard pixelPng), 9⟩)], by decide⟩

/-- The icons of a snapshot with both addresses. -/
def bothIcons : Keyed String (List UInt8) :=
  ⟨[(otherKey, pixelPng), (pixelKey, pixelPng)], by decide⟩

/-- What is written of them. -/
def storedIcons : Keyed String String :=
  ⟨[(otherKey, String.ofList (Base64.padded .standard pixelPng)),
    (pixelKey, String.ofList (Base64.padded .standard pixelPng))], by decide⟩

/-- The library that knows the three caches and the snapshot. -/
def twoPixels : IconLibrary :=
  pixelLibrary [recordUnder pixelKey 7, recordUnder otherKey 8, recordUnderBoth] [storedIcons]

section PixelLibrary

variable {cached : List (Keyed String CachedGroupIconRecord)}
  {stored : List (Keyed String String)}

/-- One valid icon is written under its key. -/
theorem cacheRecords_single {library : IconLibrary} {key : String} {icon : CachedGroupIcon}
    (hvalid : isValidIcon library (key, icon) = true) :
    cacheRecords library ⟨[(key, icon)], List.pairwise_singleton _ _⟩ =
      ⟨[(key, cacheRecord library icon)], List.pairwise_singleton _ _⟩ := by
  have hnewest : newestIcons library ⟨[(key, icon)], List.pairwise_singleton _ _⟩ =
      [(key, icon)] := by
    rw [newestIcons, List.filter_cons_of_pos hvalid, List.filter_nil]
    rfl
  rw [cacheRecords, hnewest]
  exact Keyed.ext (Keyed.fields_ofList (List.pairwise_singleton _ _))

/-- The library handles what it finds under its text. -/
theorem pixelLibrary_handles {m : Keyed String CachedGroupIconRecord}
    (hfound : (cached.find? fun other => (pixelLibrary cached stored).cacheJson.toVec other =
      (pixelLibrary cached stored).cacheJson.toVec m) = some m) :
    (pixelLibrary cached stored).cacheJson.Handles recordText m :=
  ⟨rfl, hfound⟩

/-- The same for the snapshot's file. -/
theorem pixelLibrary_handlesStored {m : Keyed String String}
    (hfound : (stored.find? fun other => (pixelLibrary cached stored).snapshotJson.toVec other =
      (pixelLibrary cached stored).snapshotJson.toVec m) = some m) :
    (pixelLibrary cached stored).snapshotJson.Handles Json.stringText m :=
  ⟨rfl, hfound⟩

end PixelLibrary

/-- What stands first is found first. -/
theorem find?_head {α β : Type} [DecidableEq β] (f : α → β) (a : α) (rest : List α) :
    ((a :: rest).find? fun other => f other = f a) = some a :=
  List.find?_cons_of_pos (decide_eq_true rfl)

/-- The pixel is valid under both keys. -/
theorem pixels_valid : isValidIcon twoPixels (pixelKey, ⟨pixelPng, 7⟩) = true ∧
    isValidIcon twoPixels (otherKey, ⟨pixelPng, 8⟩) = true := by
  decide

/-- The first cache is read back. -/
theorem twoPixels_first : twoPixels.cacheJson.Handles recordText
    (cacheRecords twoPixels (pixelUnder pixelKey 7)) := by
  have hrecords : cacheRecords twoPixels (pixelUnder pixelKey 7) = recordUnder pixelKey 7 :=
    cacheRecords_single pixels_valid.1
  rw [hrecords]
  exact pixelLibrary_handles (find?_head _ _ _)

/-- The two caches differ in the first digit of their key. -/
theorem toVec_otherKey : ¬twoPixels.cacheJson.toVec (recordUnder pixelKey 7) =
    twoPixels.cacheJson.toVec (recordUnder otherKey 8) := by
  intro h
  have hdigit := congrArg (·[2]?) h
  revert hdigit
  decide

/-- The second one is, too. -/
theorem twoPixels_second : twoPixels.cacheJson.Handles recordText
    (cacheRecords twoPixels (pixelUnder otherKey 8)) := by
  have hrecords : cacheRecords twoPixels (pixelUnder otherKey 8) = recordUnder otherKey 8 :=
    cacheRecords_single pixels_valid.2
  rw [hrecords]
  refine pixelLibrary_handles ((List.find?_cons_of_neg ?_).trans (find?_head _ _ _))
  exact fun h => toVec_otherKey (of_decide_eq_true h)

/-- The text of the third cache has a second key where those of the others end. -/
theorem toVec_both (key : String) (fetchedAtUnix : UInt64)
    (hshort : (twoPixels.cacheJson.toVec (recordUnder key fetchedAtUnix)).length < 200) :
    ¬twoPixels.cacheJson.toVec (recordUnder key fetchedAtUnix) =
      twoPixels.cacheJson.toVec recordUnderBoth := by
  intro h
  have hlength : 200 ≤ (twoPixels.cacheJson.toVec recordUnderBoth).length := by decide +kernel
  rw [← h] at hlength
  omega

/-- So is the third. -/
theorem twoPixels_both : twoPixels.cacheJson.Handles recordText
    (cacheRecords twoPixels pixelUnderBoth) := by
  have hrecords : cacheRecords twoPixels pixelUnderBoth = recordUnderBoth :=
    Keyed.ext (by decide +kernel)
  rw [hrecords]
  refine pixelLibrary_handles ((List.find?_cons_of_neg ?_).trans
    ((List.find?_cons_of_neg ?_).trans (find?_head _ _ _)))
  · exact fun h => toVec_both pixelKey 7 (by decide +kernel) (of_decide_eq_true h)
  · exact fun h => toVec_both otherKey 8 (by decide +kernel) (of_decide_eq_true h)

/-- A save, another that fails once its temporary file is written, and a third. -/
def threeSaves : List (Keyed String CachedGroupIcon × Bool) :=
  [(pixelUnder pixelKey 7, true), (pixelUnder otherKey 8, false), (pixelUnderBoth, true)]

/-- The cache after them. -/
def filesOfThree : IconFiles :=
  ⟨some (encodeGroupIconCache twoPixels pixelUnderBoth), none⟩

/-- The three saves one after the other. -/
theorem threeSaves_run : IconRun twoPixels threeSaves filesOfThree := by
  have hfirst := (IconRun.start none).step (pixelUnder pixelKey 7) .none twoPixels_first
  have hfailed := hfirst.step (pixelUnder otherKey 8)
    (.replacing (some (encodeGroupIconCache twoPixels (pixelUnder otherKey 8)))) twoPixels_second
  exact hfailed.step pixelUnderBoth .none twoPixels_both

/-- The icon of one address is attached, then that of the other. -/
theorem bothIcons_attached :
    Attached twoPixels [some pixelUrl, none, some otherUrl] bothIcons := by
  have hstart : Attached twoPixels [some pixelUrl, none, some otherUrl] Keyed.empty := .start
  have hboth := (hstart.attach ⟨[(pixelKey, pixelPng)], List.pairwise_singleton _ _⟩).attach
    ⟨[(otherKey, pixelPng)], List.pairwise_singleton _ _⟩
  have hicons : withGroupIcons twoPixels [some pixelUrl, none, some otherUrl]
      ⟨[(otherKey, pixelPng)], List.pairwise_singleton _ _⟩
      (withGroupIcons twoPixels [some pixelUrl, none, some otherUrl]
        ⟨[(pixelKey, pixelPng)], List.pairwise_singleton _ _⟩ Keyed.empty) = bothIcons :=
    Keyed.ext (by decide +kernel)
  rw [hicons] at hboth
  exact hboth

/-- The cache reads as the third save, and both icons are attached. -/
theorem groupIcons_read_threeSaves :
    AreNewest twoPixels (lastSaved threeSaves) (groupIconCache twoPixels filesOfThree) ∧
      loadGroupIcons twoPixels (storedGroupIcons twoPixels bothIcons) = bothIcons := by
  have hhandles : twoPixels.snapshotJson.Handles Json.stringText
      (Keyed.mapValues twoPixels.base64Encode bothIcons) := by
    have hstored : Keyed.mapValues twoPixels.base64Encode bothIcons = storedIcons := rfl
    rw [hstored]
    exact pixelLibrary_handlesStored (find?_head _ _ _)
  exact groupIcons_read (pixelLibrary_base64 _ _) (pixelLibrary_digests _ _) threeSaves_run
    bothIcons_attached hhandles

/-- The icons of all saves that succeeded, the last one of each key. -/
def allSaved (trace : List (Keyed String CachedGroupIcon × Bool)) :
    Keyed String CachedGroupIcon :=
  trace.foldl (fun saved save =>
    if save.2 then save.1.fields.foldl (fun saved icon => saved.insert icon.1 icon.2) saved
    else saved) Keyed.empty

/-- A save replaces the cache: what only an earlier one had is gone, though there is room. -/
theorem save_replaces_cache :
    ¬∀ library : IconLibrary, library.WritesBase64 →
      ∀ trace files, IconRun library trace files →
        AreNewest library (allSaved trace) (groupIconCache library files) := by
  intro h
  have hrun := ((IconRun.start none).step (pixelUnder pixelKey 7) .none twoPixels_first).step
    (pixelUnder otherKey 8) .none twoPixels_second
  have hcount := (h twoPixels (pixelLibrary_base64 _ _) _ _ hrun).count
  -- The cache has what the last save had, one icon.
  have hkept := (hrun.reads (pixelLibrary_base64 _ _)).count
  have hlast := List.length_filter_le (isValidIcon twoPixels) (pixelUnder otherKey 8).fields
  have hsaved : ((allSaved [(pixelUnder pixelKey 7, true),
      (pixelUnder otherKey 8, true)]).fields.filter (isValidIcon twoPixels)).length = 2 := by
    decide
  have hone : (pixelUnder otherKey 8).fields.length = 1 := rfl
  change (groupIconCache twoPixels _).fields.length =
    min maxCachedGroupIcons ((allSaved [(pixelUnder pixelKey 7, true),
      (pixelUnder otherKey 8, true)]).fields.filter (isValidIcon twoPixels)).length at hcount
  change (groupIconCache twoPixels _).fields.length = min maxCachedGroupIcons
    ((pixelUnder otherKey 8).fields.filter (isValidIcon twoPixels)).length at hkept
  rw [hkept, hsaved, maxCachedGroupIcons] at hcount
  omega

end TwoSaves

end MultiCore.Profiles
