import Mathlib.Tactic.Common
import Mathlib.Data.List.Forall2
import MultiCore.Library.PercentEncoding
import MultiCore.Library.Utf8

/-!
# The paths the controller proxy takes

What the proxy makes of a request's path before it asks its allow-list. A path
has one reading: its segments are what the strict grammar gives, any spelling of
them is taken for them again, and decoding before splitting gives them too.
-/

namespace MultiCore

/-- The slash between segments. -/
def slash : UInt8 := 0x2F

/-- The raw bytes a segment may hold besides escapes: printable ASCII that separates nothing. -/
def isRawByte (byte : UInt8) : Bool :=
  (0x21 ≤ byte && byte ≤ 0x7E) &&
    !(byte == slash || byte == 0x5C || byte == 0x3F || byte == 0x23)

/-- The byte two characters after a percent sign are parsed as. -/
def escapedByte (high low : UInt8) : Option UInt8 := do
  let hex ← Utf8.fromUtf8 [high, low]
  let value ← Text.parseRadix 16 255 hex
  some (UInt8.ofNat value)

/-- The bytes behind the escapes; an escape that is not one refuses the segment. -/
def decodeBytes : List UInt8 → Option (List UInt8)
  | [] => some []
  | byte :: rest =>
    if byte = Percent.sign then
      match rest with
      | high :: low :: rest' => do
        let value ← escapedByte high low
        let decoded ← decodeBytes rest'
        some (value :: decoded)
      | _ => none
    else if isRawByte byte = false then none
    else do
      let decoded ← decodeBytes rest
      some (byte :: decoded)

/-- A separator of one system or another. -/
def isSeparator (c : Char) : Bool := c = '/' || c = '\\'

/-- `decode_segment`: the text of one segment, which is no separator, no dots and nothing invisible.
-/
def decodeSegment (raw : List UInt8) : Option (List Char) :=
  if raw = [] then none
  else do
    let decoded ← decodeBytes raw
    let text ← Utf8.fromUtf8 decoded
    if text = ['.'] || text = ['.', '.'] || text.any isSeparator || text.any Text.isControl then
      none
    else some text

/-- Decoded path segments of an origin-form target. -/
def pathSegments : List UInt8 → Option (List (List Char))
  | [] => none
  | byte :: rest =>
    if byte ≠ slash then none
    else if rest = [] then some []
    else (rest.splitOn slash).mapM decodeSegment

section Grammar

/-- The text of a segment, where `raw` bytes may stand in it without an escape and no `separator`
in its text. -/
structure Segment (raw : UInt8 → Bool) (separator : Char → Bool) (spelling : List UInt8)
    (text : List Char) : Prop where
  nonempty : spelling ≠ []
  spelled : ∃ bytes, Percent.Spells raw spelling bytes ∧ Utf8.fromUtf8 bytes = some text
  printable : ∀ c ∈ text, Text.isControl c = false
  separated : ∀ c ∈ text, separator c = false
  named : text ≠ ['.'] ∧ text ≠ ['.', '.']

/-- A path of segments, the root alone or each behind a slash. -/
def IsPath (raw : UInt8 → Bool) (separator : Char → Bool) (path : List UInt8)
    (segments : List (List Char)) : Prop :=
  (path = [slash] ∧ segments = []) ∨
    ∃ rest, path = slash :: rest ∧
      List.Forall₂ (Segment raw separator) (rest.splitOn slash) segments

/-- The path of some segments, with the raw bytes to `keep` as they are. -/
def encodePath (keep : UInt8 → Bool) (segments : List (List Char)) : List UInt8 :=
  slash :: [slash].intercalate
    (segments.map fun text =>
      Percent.encode (fun byte => keep byte && isRawByte byte) (Utf8.encode text))

/-- Decoding the whole path first gives the segments with slashes between them. -/
def DecodesTo (path : List UInt8) (segments : List (List Char)) : Prop :=
  ∃ bytes, Percent.Spells (fun _ => true) path bytes ∧
    Utf8.fromUtf8 bytes = some ('/' :: ['/'].intercalate segments)

end Grammar

section Escapes

theorem hexValue_ascii {b : UInt8} {x : Nat} (h : Percent.hexValue b = some x) :
    Utf8.fromUtf8 [b] = some [Char.ofNat b.toNat] :=
  Utf8.fromUtf8_ascii (Percent.hexValue_bounds h).1

/-- Two digits are parsed as the byte they write. -/
theorem escapedByte_of_digits {high low : UInt8} {x y : Nat}
    (hhigh : Percent.hexValue high = some x) (hlow : Percent.hexValue low = some y) :
    escapedByte high low = some (UInt8.ofNat (x * 16 + y)) := by
  have hpair := Utf8.fromUtf8_append (hexValue_ascii hhigh) (hexValue_ascii hlow)
  have hx := (Percent.hexValue_bounds hhigh).2.1
  have hy := (Percent.hexValue_bounds hlow).2.1
  have hsign : Char.ofNat high.toNat ≠ '+' := by
    intro hplus
    have hnone : Percent.hexValue high = none := by
      rw [Percent.hexValue, hplus]
      rfl
    rw [hhigh] at hnone
    exact absurd hnone (Option.some_ne_none x)
  have hparse : Text.parseRadix 16 255 [Char.ofNat high.toNat, Char.ofNat low.toNat] =
      some (x * 16 + y) := by
    rw [Text.parseRadix_cons hsign, Text.digits_pair.2 ⟨x, y, hhigh, hlow, rfl⟩]
    exact Option.filter_some_pos (decide_eq_true (by omega))
  rw [List.singleton_append, List.singleton_append] at hpair
  rw [escapedByte, hpair]
  simp only [Option.bind_eq_bind, Option.bind_some, hparse]

/-- What is parsed after a percent sign is what two digits write, or a control character. -/
theorem escapedByte_cases {high low value : UInt8} (h : escapedByte high low = some value) :
    (∃ x y, Percent.hexValue high = some x ∧ Percent.hexValue low = some y ∧
      value = UInt8.ofNat (x * 16 + y)) ∨ value.toNat < 16 := by
  simp only [escapedByte, Option.bind_eq_bind, Option.bind_eq_some_iff, Option.some_inj] at h
  obtain ⟨hex, hhex, n, hparse, rfl⟩ := h
  rcases Utf8.fromUtf8_pair hhex with ⟨rfl, hhigh, hlow⟩ | ⟨c, rfl, hc⟩
  · by_cases hplus : Char.ofNat high.toNat = '+'
    · -- The parser drops a leading plus sign, so one digit is left.
      rw [hplus] at hparse
      have hdigit : (Text.digits 16 [Char.ofNat low.toNat] 0).filter (· ≤ 255) = some n := hparse
      simp only [Option.filter_eq_some_iff, Text.digits, Option.bind_eq_some_iff, Option.some_inj,
        Nat.zero_mul, Nat.zero_add] at hdigit
      obtain ⟨⟨x, hx, rfl⟩, -⟩ := hdigit
      have hbound := (Text.digitValue_bounds hx).1
      right
      rw [UInt8.toNat_ofNat', Nat.mod_eq_of_lt (by omega)]
      exact hbound
    · rw [Text.parseRadix_cons hplus, Option.filter_eq_some_iff, Text.digits_pair] at hparse
      obtain ⟨⟨x, y, hx, hy, rfl⟩, -⟩ := hparse
      exact Or.inl ⟨x, y, hx, hy, rfl⟩
  · -- A single character that is not ASCII is no digit.
    exfalso
    have hplus : c ≠ '+' := by
      rintro rfl
      exact absurd hc (by decide)
    rw [Text.parseRadix_cons hplus, Option.filter_eq_some_iff] at hparse
    simp only [Text.digits, Option.bind_eq_some_iff] at hparse
    obtain ⟨⟨x, hx, -⟩, -⟩ := hparse
    have hbounds := Text.digitValue_bounds hx
    omega

end Escapes

section Segments

theorem decodeBytes_escape (high low : UInt8) (rest : List UInt8) :
    decodeBytes (Percent.sign :: high :: low :: rest) =
      (escapedByte high low).bind fun value => (decodeBytes rest).map (value :: ·) := by
  rw [decodeBytes, if_pos rfl]
  cases escapedByte high low with
  | none => rfl
  | some value =>
    cases decodeBytes rest with
    | none => rfl
    | some decoded => rfl

theorem decodeBytes_raw {byte : UInt8} (hsign : byte ≠ Percent.sign) (rest : List UInt8) :
    decodeBytes (byte :: rest) =
      if isRawByte byte = false then none else (decodeBytes rest).map (byte :: ·) := by
  rw [decodeBytes.eq_def]
  simp only [if_neg hsign]
  cases decodeBytes rest with
  | none => rfl
  | some decoded => rfl

/-- Whatever is spelled strictly is decoded as it is spelled. -/
theorem decodeBytes_of_spells {raw bytes : List UInt8} (h : Percent.Spells isRawByte raw bytes) :
    decodeBytes raw = some bytes := by
  induction h with
  | nil => rfl
  | plain hplain hsign _ ih =>
    rw [decodeBytes_raw hsign, hplain, if_neg (by decide), ih]
    rfl
  | escape hhigh hlow _ ih =>
    rw [decodeBytes_escape, escapedByte_of_digits hhigh hlow, ih]
    rfl

/-- Whatever is decoded without a control character is spelled strictly. -/
theorem spells_of_decodeBytes {raw bytes : List UInt8} (h : decodeBytes raw = some bytes)
    (hcontrol : ∀ byte ∈ bytes, 16 ≤ byte.toNat) : Percent.Spells isRawByte raw bytes := by
  fun_induction decodeBytes raw generalizing bytes with
  | case1 =>
    cases h
    exact Percent.Spells.nil
  | case2 high low rest ih =>
    simp only [Option.bind_eq_bind, Option.bind_eq_some_iff, Option.some_inj] at h
    obtain ⟨value, hvalue, decoded, hdecoded, rfl⟩ := h
    have hrest := ih hdecoded fun byte hmem => hcontrol byte (List.mem_cons_of_mem _ hmem)
    rcases escapedByte_cases hvalue with ⟨x, y, hhigh, hlow, rfl⟩ | hlow
    · exact hrest.escape hhigh hlow
    · have hbyte := hcontrol value List.mem_cons_self
      omega
  | case3 => exact absurd h (Option.some_ne_none _).symm
  | case4 => exact absurd h (Option.some_ne_none _).symm
  | case5 byte rest hsign hraw ih =>
    simp only [Option.bind_eq_bind, Option.bind_eq_some_iff, Option.some_inj] at h
    obtain ⟨decoded, hdecoded, rfl⟩ := h
    have hrest := ih hdecoded fun byte hmem => hcontrol byte (List.mem_cons_of_mem _ hmem)
    exact hrest.plain (eq_true_of_ne_false hraw) hsign

/-- The text kept of a segment that has one. -/
theorem decodeSegment_eq_some {raw : List UInt8} {text : List Char} :
    decodeSegment raw = some text ↔ raw ≠ [] ∧
      (∃ decoded, decodeBytes raw = some decoded ∧ Utf8.fromUtf8 decoded = some text) ∧
      (∀ c ∈ text, Text.isControl c = false) ∧ (∀ c ∈ text, isSeparator c = false) ∧
      text ≠ ['.'] ∧ text ≠ ['.', '.'] := by
  have hall : ∀ {p : Char → Bool}, text.any p = false ↔ ∀ c ∈ text, p c = false := by
    simp [List.any_eq_false]
  by_cases hne : raw = []
  · rw [decodeSegment, if_pos hne]
    exact ⟨fun h => absurd h (Option.some_ne_none _).symm, fun h => absurd hne h.1⟩
  rw [decodeSegment, if_neg hne, and_iff_right hne]
  simp only [Option.bind_eq_bind, Option.bind_eq_some_iff, Option.ite_none_left_eq_some]
  constructor
  · rintro ⟨decoded, hdecoded, text', htext, hkept, hsame⟩
    rw [Option.some_inj] at hsame
    subst hsame
    simp only [Bool.or_eq_true, decide_eq_true_eq, not_or, Bool.not_eq_true, hall] at hkept
    obtain ⟨⟨⟨hdot, hdots⟩, hseparator⟩, hcontrol⟩ := hkept
    exact ⟨⟨decoded, hdecoded, htext⟩, hcontrol, hseparator, hdot, hdots⟩
  · rintro ⟨⟨decoded, hdecoded, htext⟩, hcontrol, hseparator, hdot, hdots⟩
    apply Exists.intro decoded
    simp only [Bool.or_eq_true, decide_eq_true_eq, not_or, Bool.not_eq_true]
    exact ⟨hdecoded, text, htext, ⟨⟨⟨hdot, hdots⟩, hall.2 hseparator⟩, hall.2 hcontrol⟩, rfl⟩

/-- A segment is decoded where it is spelled strictly, and as it is spelled. -/
theorem decodeSegment_iff {raw : List UInt8} {text : List Char} :
    decodeSegment raw = some text ↔ Segment isRawByte isSeparator raw text := by
  rw [decodeSegment_eq_some]
  constructor
  · rintro ⟨hne, ⟨decoded, hdecoded, htext⟩, hcontrol, hseparator, hdot⟩
    have hbytes : ∀ byte ∈ decoded, 16 ≤ byte.toNat := by
      intro byte hmem
      by_contra hlow
      have hchar := Utf8.mem_of_ascii htext hmem (by omega)
      have hprintable := hcontrol _ hchar
      rw [Text.isControl, Text.toNat_ofNat (by omega)] at hprintable
      rw [decide_eq_true (by omega), Bool.true_or] at hprintable
      exact absurd hprintable.symm Bool.false_ne_true
    exact ⟨hne, ⟨decoded, spells_of_decodeBytes hdecoded hbytes, htext⟩, hcontrol, hseparator, hdot⟩
  · rintro ⟨hne, ⟨bytes, hspells, htext⟩, hcontrol, hseparator, hdot⟩
    exact ⟨hne, ⟨bytes, decodeBytes_of_spells hspells, htext⟩, hcontrol, hseparator, hdot⟩

theorem mapM_eq_some_iff {α β : Type} {f : α → Option β} {xs : List α} {ys : List β} :
    xs.mapM f = some ys ↔ List.Forall₂ (fun x y => f x = some y) xs ys := by
  induction xs generalizing ys with
  | nil =>
    rw [List.mapM_nil, List.forall₂_nil_left_iff]
    exact Option.some_inj.trans eq_comm
  | cons x xs ih =>
    rw [List.mapM_cons, List.forall₂_cons_left_iff]
    simp only [Option.bind_eq_bind, Option.bind_eq_some_iff, Option.pure_def, Option.some_inj, ih]
    constructor
    · rintro ⟨y, hy, ys', hys, rfl⟩
      exact ⟨y, ys', hy, hys, rfl⟩
    · rintro ⟨y, ys', hy, hys, rfl⟩
      exact ⟨y, hy, ys', hys, rfl⟩

/-- The proxy takes the paths of the strict grammar, and reads them as it does. -/
theorem pathSegments_iff {path : List UInt8} {segments : List (List Char)} :
    pathSegments path = some segments ↔ IsPath isRawByte isSeparator path segments := by
  have hsegments : ∀ rest : List UInt8, (rest.splitOn slash).mapM decodeSegment = some segments ↔
      List.Forall₂ (Segment isRawByte isSeparator) (rest.splitOn slash) segments := by
    intro rest
    rw [mapM_eq_some_iff]
    simp only [decodeSegment_iff]
  unfold IsPath
  cases path with
  | nil => simp [pathSegments]
  | cons byte rest =>
    rw [pathSegments]
    by_cases hslash : byte = slash
    swap
    · simp [hslash]
    subst hslash
    rw [if_neg (fun h => h rfl)]
    by_cases hroot : rest = []
    · subst hroot
      have hempty : ¬List.Forall₂ (Segment isRawByte isSeparator) [[]] segments := by
        intro h
        cases h with
        | cons hsegment _ => exact hsegment.nonempty rfl
      simp [hempty, eq_comm]
    · rw [if_neg hroot, hsegments]
      simp [hroot]

end Segments

section Reencoding

theorem not_mem_encode_slash (keep : UInt8 → Bool) (bytes : List UInt8) :
    slash ∉ Percent.encode (fun byte => keep byte && isRawByte byte) bytes := by
  intro hmem
  rcases Percent.mem_encode hmem with hkeep | hsign | ⟨x, hx⟩
  · rw [show isRawByte slash = false from rfl, Bool.and_false] at hkeep
    exact absurd hkeep Bool.false_ne_true
  · exact absurd hsign (by decide)
  · rw [show Percent.hexValue slash = none from rfl] at hx
    exact absurd hx (Option.some_ne_none x).symm

/-- What a segment's text is encoded as is a segment with that text. -/
theorem segment_encode {raw : List UInt8} {text : List Char}
    (h : Segment isRawByte isSeparator raw text) (keep : UInt8 → Bool) :
    Segment isRawByte isSeparator
      (Percent.encode (fun byte => keep byte && isRawByte byte) (Utf8.encode text)) text := by
  obtain ⟨bytes, hspells, hbytes⟩ := h.spelled
  have htext : text ≠ [] := Utf8.fromUtf8_ne_nil hbytes (hspells.ne_nil h.nonempty)
  have hkeep : ∀ byte, (keep byte && isRawByte byte) = true → isRawByte byte = true := by
    intro byte hbyte
    exact (Bool.and_eq_true_iff.1 hbyte).2
  constructor
  · exact Percent.encode_ne_nil (Utf8.encode_ne_nil htext)
  · exact ⟨_, Percent.spells_encode hkeep _, Utf8.fromUtf8_encode text⟩
  · exact h.printable
  · exact h.separated
  · exact h.named

/-- A path encoded from what another was read as is read the same. -/
theorem isPath_encodePath {path : List UInt8} {segments : List (List Char)}
    (h : IsPath isRawByte isSeparator path segments) (keep : UInt8 → Bool) :
    IsPath isRawByte isSeparator (encodePath keep segments) segments := by
  rcases h with ⟨-, rfl⟩ | ⟨rest, rfl, hsegments⟩
  · exact Or.inl ⟨rfl, rfl⟩
  right
  have hne : segments ≠ [] := by
    rintro rfl
    exact List.splitOn_ne_nil slash rest (List.forall₂_nil_right_iff.1 hsegments)
  have hslash : ∀ raw ∈ segments.map fun text =>
      Percent.encode (fun byte => keep byte && isRawByte byte) (Utf8.encode text), slash ∉ raw := by
    intro raw hraw
    obtain ⟨text, -, rfl⟩ := List.mem_map.1 hraw
    exact not_mem_encode_slash keep _
  have hsplit := List.splitOn_intercalate slash hslash fun hnil => hne (List.map_eq_nil_iff.1 hnil)
  apply Exists.intro _
  apply And.intro rfl
  rw [hsplit, List.forall₂_map_left_iff]
  clear hsplit hslash hne
  generalize rest.splitOn slash = raws at hsegments
  induction hsegments with
  | nil => exact List.Forall₂.nil
  | cons hsegment _ ih => exact List.Forall₂.cons (segment_encode hsegment keep) ih

/-- Segments with slashes between them are spelled by their spellings with slashes between
them. -/
theorem spells_intercalate {raws : List (List UInt8)} {segments : List (List Char)}
    (h : List.Forall₂ (Segment isRawByte isSeparator) raws segments) :
    ∃ bytes, Percent.Spells (fun _ => true) ([slash].intercalate raws) bytes ∧
      Utf8.fromUtf8 bytes = some (['/'].intercalate segments) := by
  induction h with
  | nil => exact ⟨[], Percent.Spells.nil, rfl⟩
  | @cons raw text raws segments hsegment hrest ih =>
    obtain ⟨bytes, hspells, hbytes⟩ := hsegment.spelled
    have hany : Percent.Spells (fun _ => true) raw bytes := hspells.mono fun _ _ => rfl
    obtain ⟨bytes', hspells', hbytes'⟩ := ih
    cases hrest with
    | nil => exact ⟨bytes, by simpa using hany, by simpa using hbytes⟩
    | cons hsecond hrest =>
      have hslash := hspells'.plain (b := slash) rfl (by decide)
      have hslash' := Utf8.fromUtf8_append (Utf8.fromUtf8_ascii (b := slash) (by decide)) hbytes'
      rw [List.intercalate_cons_cons, List.intercalate_cons_cons, List.append_assoc,
        List.append_assoc]
      exact ⟨bytes ++ slash :: bytes', hany.append hslash, Utf8.fromUtf8_append hbytes hslash'⟩

/-- Decoding a path before it is split changes nothing. -/
theorem decodesTo_of_isPath {path : List UInt8} {segments : List (List Char)}
    (h : IsPath isRawByte isSeparator path segments) : DecodesTo path segments := by
  have hslash : Utf8.fromUtf8 [slash] = some ['/'] := Utf8.fromUtf8_ascii (by decide)
  rcases h with ⟨rfl, rfl⟩ | ⟨rest, rfl, hsegments⟩
  · exact ⟨[slash], Percent.Spells.nil.plain rfl (by decide), hslash⟩
  obtain ⟨bytes, hspells, hbytes⟩ := spells_intercalate hsegments
  rw [List.intercalate_splitOn] at hspells
  exact ⟨slash :: bytes, hspells.plain rfl (by decide), Utf8.fromUtf8_append hslash hbytes⟩

end Reencoding

/-- The proxy takes a path exactly where the strict grammar gives it segments, and takes it for
them. Decoding it first and splitting it then gives the same segments, and so does every encoding
of them. -/
theorem pathSegments_spec (path : List UInt8) (segments : List (List Char)) :
    (pathSegments path = some segments ↔ IsPath isRawByte isSeparator path segments) ∧
      (pathSegments path = some segments → DecodesTo path segments ∧
        ∀ keep : UInt8 → Bool, pathSegments (encodePath keep segments) = some segments) := by
  constructor
  · exact pathSegments_iff
  intro hpath
  have hsegments := pathSegments_iff.1 hpath
  constructor
  · exact decodesTo_of_isPath hsegments
  · intro keep
    exact pathSegments_iff.2 (isPath_encodePath hsegments keep)

/-- Escapes alone do not make a path: an escaped slash is refused. -/
theorem pathSegments_refuses_escapedSlash :
    ¬∀ path : List UInt8, (∃ segments, pathSegments path = some segments) ↔
      ∃ segments, IsPath (fun _ => true) (fun _ => false) path segments := by
  intro h
  have hspells : Percent.Spells (fun _ => true) [Percent.sign, 0x32, 0x46] [slash] :=
    Percent.Spells.nil.escape (x := 2) (y := 15) rfl rfl
  have hsegment : Segment (fun _ => true) (fun _ => false) [Percent.sign, 0x32, 0x46] ['/'] := by
    constructor
    · exact List.cons_ne_nil _ _
    · exact ⟨_, hspells, Utf8.fromUtf8_ascii (by decide)⟩
    · intro c hc
      rw [List.mem_singleton.1 hc]
      decide
    · exact fun _ _ => rfl
    · decide
  have hpath : IsPath (fun _ => true) (fun _ => false) [slash, Percent.sign, 0x32, 0x46] [['/']] :=
    Or.inr ⟨_, rfl, List.Forall₂.cons hsegment List.Forall₂.nil⟩
  obtain ⟨segments, hsegments⟩ := (h _).2 ⟨_, hpath⟩
  have hnone : pathSegments [slash, Percent.sign, 0x32, 0x46] = none := by decide
  rw [hnone] at hsegments
  exact absurd hsegments (Option.some_ne_none segments).symm

example : pathSegments [slash, 0x67, slash, 0x61, Percent.sign, 0x32, 0x30] =
    some [['g'], ['a', ' ']] := by decide

end MultiCore
