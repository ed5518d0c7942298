import MultiCore.Library.Text

/-!
# Paths of web addresses

How a client reads the path behind the host of an http or https URL: blanks at
the end and line breaks are dropped, a backslash separates like a slash, and dot
segments, also spelled with escapes, are resolved.
-/

namespace UrlPath

/-- What is cut off at both ends of a link. -/
def isBlank (c : Char) : Bool := c.toNat ≤ 0x20

/-- What a link may hold and a path never does. -/
def isDropped (c : Char) : Bool := c = '\t' || c = '\n' || c = '\r'

/-- What a path ends before. -/
def endsPath (c : Char) : Bool := c = '?' || c = '#'

/-- What separates segments. -/
def isSeparator (c : Char) : Bool := c = '/' || c = '\\'

/-- The path in what stands behind a host and its slash. -/
def pathText (rest : List Char) : List Char :=
  ((rest.rdropWhile isBlank).filter fun c => !isDropped c).takeWhile fun c => !endsPath c

/-- The segments of a path as they are spelled. -/
def segments (rest : List Char) : List (List Char) := Text.pieces isSeparator (pathText rest)

/-- A segment that stands for its own folder. -/
def isSingleDot (segment : List Char) : Bool :=
  segment.map Text.lowerChar ∈ [".", "%2e"].map String.toList

/-- A segment that stands for the folder above. -/
def isDoubleDot (segment : List Char) : Bool :=
  segment.map Text.lowerChar ∈ ["..", ".%2e", "%2e.", "%2e%2e"].map String.toList

/-- The segments that are left when dot segments are resolved, behind those that were read. -/
def resolveFrom (before : List (List Char)) : List (List Char) → List (List Char)
  | [] => before
  | [last] =>
    if isDoubleDot last then before.dropLast ++ [[]]
    else if isSingleDot last then before ++ [[]]
    else before ++ [last]
  | segment :: next :: rest =>
    if isDoubleDot segment then resolveFrom before.dropLast (next :: rest)
    else if isSingleDot segment then resolveFrom before (next :: rest)
    else resolveFrom (before ++ [segment]) (next :: rest)

/-- The segments of the path a client asks a host for. -/
def resolve (rest : List Char) : List (List Char) := resolveFrom [] (segments rest)

/-- No segment is a dot segment. -/
def NoDots (segments : List (List Char)) : Prop :=
  ∀ segment ∈ segments, isSingleDot segment = false ∧ isDoubleDot segment = false

/-- Without dot segments nothing is resolved away. -/
theorem resolveFrom_of_noDots (before : List (List Char)) {segments : List (List Char)}
    (h : NoDots segments) : resolveFrom before segments = before ++ segments := by
  induction segments generalizing before with
  | nil => exact (List.append_nil before).symm
  | cons segment rest ih =>
    obtain ⟨hsingle, hdouble⟩ := h segment List.mem_cons_self
    have hrest : NoDots rest := fun other hother => h other (List.mem_cons_of_mem segment hother)
    cases rest with
    | nil =>
      rw [resolveFrom, hdouble, hsingle, if_neg Bool.false_ne_true, if_neg Bool.false_ne_true]
    | cons next rest =>
      rw [resolveFrom, hdouble, hsingle, if_neg Bool.false_ne_true, if_neg Bool.false_ne_true,
        ih (before ++ [segment]) hrest, List.append_assoc, List.singleton_append]

/-- Letters, digits and the signs that are never escaped, besides the tilde. -/
def isPlain (c : Char) : Bool :=
  (48 ≤ c.toNat && c.toNat ≤ 57) || (65 ≤ c.toNat && c.toNat ≤ 90) ||
    (97 ≤ c.toNat && c.toNat ≤ 122) || c = '.' || c = '_' || c = '-'

theorem isPlain_lowerChar (c : Char) : isPlain (Text.lowerChar c) = isPlain c := by
  rcases Text.lowerChar_cases c with heq | ⟨hlow, hhigh, hlowered⟩
  · rw [heq]
  · have hupper : isPlain c = true := by
      simp [isPlain, hlow, hhigh]
    have hlower : isPlain (Text.lowerChar c) = true := by
      have h97 : 97 ≤ (Text.lowerChar c).toNat := by omega
      have h122 : (Text.lowerChar c).toNat ≤ 122 := by omega
      simp [isPlain, h97, h122]
    rw [hupper, hlower]

/-- A plain character is read as it is. -/
theorem isPlain_read {c : Char} (h : isPlain c = true) :
    isBlank c = false ∧ isDropped c = false ∧ endsPath c = false ∧ isSeparator c = false := by
  have hne : ∀ d : Char, isPlain d = false → c ≠ d := by
    rintro d hd rfl
    rw [h] at hd
    exact absurd hd.symm Bool.false_ne_true
  have hblank : isBlank c = false := by
    rw [isBlank, decide_eq_false_iff_not]
    intro hlow
    have hdot : c ≠ '.' ∧ c ≠ '_' ∧ c ≠ '-' := by
      constructor
      · rintro rfl
        exact absurd hlow (by decide)
      constructor
      · rintro rfl
        exact absurd hlow (by decide)
      · rintro rfl
        exact absurd hlow (by decide)
    simp only [isPlain, hdot, Bool.or_eq_true, Bool.and_eq_true, decide_eq_true_eq, or_false] at h
    omega
  apply And.intro hblank
  constructor
  · simp [isDropped, hne '\t' rfl, hne '\n' rfl, hne '\r' rfl]
  constructor
  · simp [endsPath, hne '?' rfl, hne '#' rfl]
  · simp [isSeparator, hne '/' rfl, hne '\\' rfl]

theorem rdropWhile_append {p : Char → Bool} {start : List Char} (h : ∀ c ∈ start, p c = false)
    (rest : List Char) : (start ++ rest).rdropWhile p = start ++ rest.rdropWhile p := by
  have hstart : start.rdropWhile p = start := by
    rw [List.rdropWhile_eq_self_iff]
    intro hne
    exact Bool.not_eq_true _ ▸ h _ (List.getLast_mem hne)
  unfold List.rdropWhile at hstart ⊢
  rw [List.reverse_append, List.dropWhile_append]
  by_cases hempty : (rest.reverse.dropWhile p).isEmpty = true
  · rw [if_pos hempty, List.isEmpty_iff.1 hempty, hstart, List.reverse_nil, List.append_nil]
  · rw [if_neg hempty, List.reverse_append, List.reverse_reverse]

/-- Plain characters and slashes at the beginning are read as they are. -/
theorem pathText_append {start : List Char} (h : ∀ c ∈ start, isPlain c = true ∨ c = '/')
    (rest : List Char) : pathText (start ++ rest) = start ++ pathText rest := by
  have hread : ∀ c ∈ start, isBlank c = false ∧ isDropped c = false ∧ endsPath c = false := by
    intro c hc
    rcases h c hc with hplain | rfl
    · obtain ⟨hblank, hdropped, hends, -⟩ := isPlain_read hplain
      exact ⟨hblank, hdropped, hends⟩
    · exact ⟨rfl, rfl, rfl⟩
  have hkept : start.filter (fun c => !isDropped c) = start := by
    rw [List.filter_eq_self]
    intro c hc
    rw [(hread c hc).2.1]
    rfl
  have hgoes : ∀ c ∈ start, (!endsPath c) = true := by
    intro c hc
    rw [(hread c hc).2.2]
    rfl
  rw [pathText, rdropWhile_append fun c hc => (hread c hc).1, List.filter_append, hkept,
    List.takeWhile_append_of_pos hgoes, pathText]

/-- Plain characters are left where they are lowered. -/
theorem plain_of_lowered {cs ds : List Char} (h : cs.map Text.lowerChar = ds.map Text.lowerChar)
    (hplain : ∀ d ∈ ds, isPlain d = true) : ∀ c ∈ cs, isPlain c = true := by
  intro c hc
  have hmem : Text.lowerChar c ∈ ds.map Text.lowerChar := h ▸ List.mem_map_of_mem hc
  obtain ⟨d, hd, heq⟩ := List.mem_map.1 hmem
  rw [← isPlain_lowerChar, ← heq, isPlain_lowerChar]
  exact hplain d hd

/-- A segment of plain characters is the first. -/
theorem pieces_plain {segment : List Char} (h : ∀ c ∈ segment, isPlain c = true)
    (rest : List Char) :
    Text.pieces isSeparator (segment ++ '/' :: rest) = segment :: Text.pieces isSeparator rest := by
  have hsingle : Text.pieces isSeparator segment = [segment] := by
    rw [Text.pieces_eq_splitOnP]
    apply List.splitOnP_eq_singleton
    intro c hc
    exact (isPlain_read (h c hc)).2.2.2
  have hslash : isSeparator '/' = true := rfl
  rw [Text.pieces_append_separator hslash, hsingle, List.singleton_append]

end UrlPath
