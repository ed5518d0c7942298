import MultiCore.Library.Base64
import MultiCore.Library.Text
import MultiCore.Library.Utf8

/-!
# Labels of groups and nodes

The name of a group or node is shown only when it has the characters that names
of servers have and nothing in it looks like an address, an identifier or a
credential. Credentials are looked for in the words of the name and in what its
runs of base64 characters decode to: a run as a whole and its parts between
dashes, and every stretch of one alphabet from each of four places on. A stretch
is decoded as a whole or not at all.
-/

namespace MultiCore.Daemon

/-- `MAX_CATALOG_NAME_CHARS`. -/
def maxCatalogNameChars : Nat := 256

/-- What is used of other libraries: which characters are letters or numbers, and what base64 text
decodes to. -/
structure LabelLibrary where
  isAlphanumeric : Char → Bool
  decode : Base64.Alphabet → List Char → Option (List UInt8)

/-- Text is decoded when it is as it would be written, without padding. -/
def LabelLibrary.Decodes (library : LabelLibrary) : Prop :=
  ∀ alphabet text bytes,
    library.decode alphabet text = some bytes ↔ text = Base64.encode alphabet bytes

/-- The words that announce a credential. -/
def credentialWords : List String :=
  ["authorization", "bearer", "basic", "token", "password", "passwd", "secret", "apikey",
    "subscription"]

/-- Whether a word is one of them, upper and lower case alike. -/
def isCredentialWord (word : List Char) : Bool :=
  credentialWords.any fun credential => Text.sameName (String.ofList word) credential

/-- `u8::is_ascii_alphanumeric`. -/
def isAsciiAlphanumeric (n : Nat) : Bool :=
  (48 ≤ n && n ≤ 57) || (65 ≤ n && n ≤ 90) || (97 ≤ n && n ≤ 122)

/-- `u8::is_ascii_graphic`. -/
def isAsciiGraphic (n : Nat) : Bool := 33 ≤ n && n ≤ 126

/-- The byte between a user and a password. -/
def colon : UInt8 := 58

section Decoded

/-- A printable character that is no colon. -/
def isPairByte (byte : UInt8) : Bool := isAsciiGraphic byte.toNat && byte ≠ colon

/-- Whether what stands on the two sides of a colon is taken for a user and a secret. -/
def isPair (left right : List UInt8) (short : Bool) : Bool :=
  (0 < left.length && 0 < right.length && short) ||
    (3 ≤ left.length && 3 ≤ right.length) ||
    (2 ≤ left.length && 2 ≤ right.length &&
      (left ++ right).any fun byte => isAsciiAlphanumeric byte.toNat)

/-- `decoded_contains_credential`: a credential word, or a pair of a user and a password. -/
def decodedContainsCredential (decoded : List UInt8) (allowShortPair : Bool) : Bool :=
  let entireRecordIsPrintable := decoded.all fun byte => 32 ≤ byte.toNat && byte.toNat ≤ 126
  let semanticCredential :=
    ((decoded.splitOnP fun byte => !isAsciiAlphanumeric byte.toNat).filter (!·.isEmpty)).any
      fun word => isCredentialWord (word.map fun byte => Char.ofNat byte.toNat)
  semanticCredential || (List.range decoded.length).any fun place =>
    decoded[place]? = some colon &&
      isPair ((decoded.take place).reverse.takeWhile isPairByte)
        ((decoded.drop (place + 1)).takeWhile isPairByte)
        (allowShortPair && entireRecordIsPrintable)

end Decoded

section Runs

variable (library : LabelLibrary)

/-- `decode_candidate`: one piece in one alphabet. -/
def decodeCandidate (candidate : List Char) (alphabet : Base64.Alphabet) (allowShortPair : Bool) :
    Bool :=
  if candidate.length < 4 || maxCatalogNameChars < candidate.length ||
      candidate.length % 4 = 1 then false
  else
    match library.decode alphabet candidate with
    | none => false
    | some decoded => decodedContainsCredential decoded allowShortPair

/-- The characters that stand between parts of a run. -/
def isRunSeparator (c : Char) : Bool := c = '-' || c = '_' || c = '+' || c = '/'

/-- What a run of Base64 and its separators is made of. -/
def isRunChar (c : Char) : Bool := isAsciiAlphanumeric c.toNat || isRunSeparator c

/-- The parts of a run between its separators, unless it has none. -/
def runParts (run : List Char) : List (List Char) :=
  (run.splitOnP isRunSeparator).filter fun part => !part.isEmpty && part.length ≠ run.length

/-- `scan_explicit_base64_candidates`: the whole run and its parts. -/
def scanExplicitBase64Candidates (run : List Char) : Bool :=
  (if run.all (Base64.isSymbol .standard) then decodeCandidate library run .standard true
    else run.all (Base64.isSymbol .urlSafe) && decodeCandidate library run .urlSafe true) ||
    (runParts run).any fun part => decodeCandidate library part .standard true

/-- A stretch from one place on, without a character that would be left over. -/
def stretchFrom (segment : List Char) (phase : Nat) : List Char :=
  let rest := segment.drop phase
  if rest.length % 4 = 1 then rest.take (rest.length - 1) else rest

/-- The longest parts of a run in one alphabet. -/
def segmentsOf (alphabet : Base64.Alphabet) (run : List Char) : List (List Char) :=
  run.splitOnP fun c => !Base64.isSymbol alphabet c

/-- `scan_phase_aligned_segments`: every segment in its four phases. -/
def scanPhaseAlignedSegments (run : List Char) (alphabet : Base64.Alphabet) : Bool :=
  (segmentsOf alphabet run).any fun segment =>
    (List.range (min 4 segment.length)).any fun phase =>
      let stretch := stretchFrom segment phase
      4 ≤ stretch.length && decodeCandidate library stretch alphabet false

/-- `base64_run_contains_credential`. -/
def base64RunContainsCredential (run : List Char) : Bool :=
  scanExplicitBase64Candidates library run || scanPhaseAlignedSegments library run .standard ||
    scanPhaseAlignedSegments library run .urlSafe

end Runs

section Label

variable (library : LabelLibrary)

/-- Whether one of some words, read in order, is a credential by itself or with the one before. -/
def wordsContainCredential : Bool → List (List Char) → Bool
  | _, [] => false
  | previousWasApi, word :: words =>
    isCredentialWord word || (previousWasApi && Text.sameName (String.ofList word) "key") ||
      wordsContainCredential (Text.sameName (String.ofList word) "api") words

/-- The words of a name, cut at everything that is no letter and no digit. -/
def plainWords (source : List Char) : List (List Char) :=
  (source.splitOnP fun c => !library.isAlphanumeric c).filter (!·.isEmpty)

/-- The runs of a name in which Base64 may stand. -/
def base64Runs (source : List Char) : List (List Char) :=
  (source.splitOnP fun c => !isRunChar c).filter (!·.isEmpty)

/-- `contains_structured_credential`: in the open or encoded. -/
def containsStructuredCredential (source : List Char) : Bool :=
  wordsContainCredential false (plainWords library source) ||
    (base64Runs source).any (base64RunContainsCredential library)

/-- All parts of a list of one length. -/
def windows {α : Type} (width : Nat) (l : List α) : List (List α) :=
  (List.range (l.length + 1 - width)).map fun place => (l.drop place).take width

/-- `contains_address_or_userinfo`: a scheme, a port or a user before a host. -/
def containsAddressOrUserinfo (source : List Char) : Bool :=
  (windows 3 source).any (fun window => window = "://".toList) ||
    (windows 3 source).any fun window =>
      match window with
      | [before, middle, after] =>
        (middle = ':' || middle = '@') && !Text.isWhitespace before && !Text.isWhitespace after
      | _ => false

/-- `u8::is_ascii_hexdigit`. -/
def isHexDigit (n : Nat) : Bool :=
  (48 ≤ n && n ≤ 57) || (65 ≤ n && n ≤ 70) || (97 ≤ n && n ≤ 102)

/-- `contains_uuid_like`: 36 bytes in the form of a UUID. -/
def containsUuidLike (source : List Char) : Bool :=
  (windows 36 (Utf8.encode source)).any fun candidate =>
    candidate.zipIdx.all fun (byte, index) =>
      if [8, 13, 18, 23].contains index then byte = 45 else isHexDigit byte.toNat

/-- The characters of names besides letters, numbers and the space, one by one. -/
def labelChars : List Nat :=
  ("-_.,()[]+#!|*/:@&%~?;'\"<>\x7b\x7d^$".toList.map Char.toNat) ++
    [0x2022, 0x2026, 0x00b7, 0x00ab, 0x00bb, 0x00b0, 0x00a9, 0x00ae, 0x2116, 0x2122, 0x203c,
      0x2049, 0x2139, 0x3030, 0x303d, 0x3297, 0x3299, 0xfe0f, 0x200d, 0x20e3]

/-- And in ranges. -/
def labelRanges : List (Nat × Nat) :=
  [(0x2010, 0x2015), (0x2018, 0x201f), (0x2190, 0x21ff), (0x2300, 0x23ff), (0x2460, 0x24ff),
    (0x25a0, 0x27bf), (0x2b00, 0x2bff), (0x1f000, 0x1faff), (0xe0020, 0xe007f)]

/-- `is_safe_catalog_label_char`. -/
def isSafeCatalogLabelChar (c : Char) : Bool :=
  !Text.isControl c &&
    (library.isAlphanumeric c || c = ' ' || labelChars.contains c.toNat ||
      labelRanges.any fun range => range.1 ≤ c.toNat && c.toNat ≤ range.2)

/-- The part of a name that can be shown. -/
def publishedPart (source : List Char) : List Char := source.take maxCatalogNameChars

/-- The label that stands in for a name that is not published. -/
def genericLabel (kind : String) (index : Nat) : String := kind ++ " " ++ toString (index + 1)

/-- A name without spaces around it. -/
def trimSpaces (source : List Char) : List Char := (source.dropWhile (· = ' ')).rdropWhile (· = ' ')

/-- `safe_catalog_label`: the published part of a name, or the generic label. -/
def safeCatalogLabel (source : List Char) (kind : String) (index : Nat) : String :=
  let published := publishedPart source
  if published.isEmpty || containsUuidLike published || containsAddressOrUserinfo published ||
      containsStructuredCredential library published ||
      !published.all (isSafeCatalogLabelChar library) then
    genericLabel kind index
  else if (trimSpaces published).isEmpty then genericLabel kind index
  else String.ofList (trimSpaces published)

end Label

section Meaning

/-- A text with a credential in it: one of the words, or a user and a secret that are long
enough. -/
def HasCredential (text : List UInt8) : Prop := decodedContainsCredential text false = true

/-- The encoding of a text with a credential stands in a name. -/
def EncodesCredential (source : List Char) : Prop :=
  ∃ alphabet text, HasCredential text ∧ Base64.encode alphabet text <:+: source

/-- A stretch of a name that is decoded, by itself or inside a longer one. -/
inductive Scanned (published : List Char) : Base64.Alphabet → Bool → List Char → Prop
  | standardRun {run : List Char} : run ∈ base64Runs published →
      run.all (Base64.isSymbol .standard) = true → Scanned published .standard true run
  | urlSafeRun {run : List Char} : run ∈ base64Runs published →
      ¬run.all (Base64.isSymbol .standard) = true → run.all (Base64.isSymbol .urlSafe) = true →
      Scanned published .urlSafe true run
  | part {run part : List Char} : run ∈ base64Runs published → part ∈ runParts run →
      Scanned published .standard true part
  | stretch {run segment : List Char} {alphabet : Base64.Alphabet} {phase : Nat} :
      run ∈ base64Runs published → segment ∈ segmentsOf alphabet run → phase < 4 →
      phase < segment.length → Scanned published alphabet false (stretchFrom segment phase)

/-- A stretch that is decoded is written as a text with a credential is. -/
def SpellsCredential (published : List Char) : Prop :=
  ∃ alphabet short stretch text, Scanned published alphabet short stretch ∧
    stretch = Base64.encode alphabet text ∧ decodedContainsCredential text short = true

/-- A name is not shown for another reason. -/
def RefusedOtherwise (library : LabelLibrary) (published : List Char) : Prop :=
  published = [] ∨ containsUuidLike published = true ∨
    containsAddressOrUserinfo published = true ∨
    wordsContainCredential false (plainWords library published) = true ∨
    ¬published.all (isSafeCatalogLabelChar library) = true ∨ trimSpaces published = []

end Meaning

section Split

variable {α : Type} {p : α → Bool}

theorem flatten_splitOnP (l : List α) : (l.splitOnP p).flatten = l.filter fun a => !p a := by
  induction l with
  | nil => rw [List.splitOnP_nil]; rfl
  | cons a l ih =>
    rw [List.splitOnP_cons_eq_if_modifyHead]
    cases hp : p a with
    | true =>
      simp only [if_true, List.flatten_cons, List.nil_append, ih]
      rw [List.filter_cons_of_neg (by simp [hp])]
    | false =>
      rw [List.filter_cons_of_pos (by simp [hp]), ← ih]
      cases hsplit : l.splitOnP p with
      | nil => exact absurd hsplit (List.splitOnP_ne_nil p l)
      | cons part parts => rfl

/-- A part is no longer than the whole. -/
theorem length_le_of_mem_splitOnP {l part : List α} (h : part ∈ l.splitOnP p) :
    part.length ≤ l.length := by
  have hflatten := (List.sublist_flatten_of_mem h).length_le
  rw [flatten_splitOnP] at hflatten
  exact Nat.le_trans hflatten (List.length_filter_le _ _)

/-- What holds no separator begins the first part. -/
theorem splitOnP_append {middle : List α} (hfree : ∀ a ∈ middle, p a = false) (after : List α) :
    ∃ part parts, (middle ++ after).splitOnP p = (middle ++ part) :: parts := by
  induction middle with
  | nil =>
    cases hsplit : after.splitOnP p with
    | nil => exact absurd hsplit (List.splitOnP_ne_nil p after)
    | cons part parts => exact ⟨part, parts, hsplit⟩
  | cons a middle ih =>
    obtain ⟨part, parts, hsplit⟩ := ih fun b hb => hfree b (List.mem_cons_of_mem _ hb)
    have ha := hfree a List.mem_cons_self
    refine ⟨part, parts, ?_⟩
    rw [List.cons_append, List.splitOnP_cons_eq_if_modifyHead, hsplit, ha]
    rfl

/-- What holds no separator stands in one part. -/
theorem infix_of_splitOnP {l middle : List α} (h : middle <:+: l)
    (hfree : ∀ a ∈ middle, p a = false) : ∃ part ∈ l.splitOnP p, middle <:+: part := by
  obtain ⟨before, after, rfl⟩ := h
  induction before with
  | nil =>
    obtain ⟨part, parts, hsplit⟩ := splitOnP_append hfree after
    rw [List.nil_append, hsplit]
    exact ⟨_, List.mem_cons_self, (List.prefix_append middle part).isInfix⟩
  | cons a before ih =>
    obtain ⟨part, hpart, hinfix⟩ := ih
    rw [List.cons_append, List.cons_append, List.splitOnP_cons_eq_if_modifyHead]
    cases hp : p a with
    | true => exact ⟨part, List.mem_cons_of_mem _ hpart, hinfix⟩
    | false =>
      cases hsplit : (before ++ middle ++ after).splitOnP p with
      | nil => exact absurd hsplit (List.splitOnP_ne_nil p _)
      | cons first parts =>
        rw [hsplit] at hpart
        rcases List.mem_cons.1 hpart with rfl | hpart
        · exact ⟨_, List.mem_cons_self, hinfix.trans (List.suffix_cons a part).isInfix⟩
        · exact ⟨part, List.mem_cons_of_mem _ hpart, hinfix⟩

end Split

section Credentials

theorem decodedContainsCredential_iff {decoded : List UInt8} {short : Bool} :
    decodedContainsCredential decoded short = true ↔
      (∃ word ∈ decoded.splitOnP fun byte => !isAsciiAlphanumeric byte.toNat, word ≠ [] ∧
        isCredentialWord (word.map fun byte => Char.ofNat byte.toNat) = true) ∨
      ∃ before after, decoded = before ++ colon :: after ∧
        isPair (before.reverse.takeWhile isPairByte) (after.takeWhile isPairByte)
          (short && decoded.all fun byte => 32 ≤ byte.toNat && byte.toNat ≤ 126) = true := by
  rw [decodedContainsCredential, Bool.or_eq_true]
  have hwords : (((decoded.splitOnP fun byte => !isAsciiAlphanumeric byte.toNat).filter
      (!·.isEmpty)).any fun word =>
        isCredentialWord (word.map fun byte => Char.ofNat byte.toNat)) = true ↔
      ∃ word ∈ decoded.splitOnP fun byte => !isAsciiAlphanumeric byte.toNat, word ≠ [] ∧
        isCredentialWord (word.map fun byte => Char.ofNat byte.toNat) = true := by
    rw [List.any_eq_true]
    constructor
    · rintro ⟨word, hmem, hcredential⟩
      obtain ⟨hword, hnonempty⟩ := List.mem_filter.1 hmem
      refine ⟨word, hword, ?_, hcredential⟩
      rintro rfl
      exact nomatch hnonempty
    · rintro ⟨word, hword, hnonempty, hcredential⟩
      refine ⟨word, List.mem_filter.2 ⟨hword, ?_⟩, hcredential⟩
      cases word with
      | nil => exact absurd rfl hnonempty
      | cons byte bytes => rfl
  refine or_congr hwords ?_
  rw [List.any_eq_true]
  constructor
  · rintro ⟨place, -, hpair⟩
    rw [Bool.and_eq_true, decide_eq_true_eq] at hpair
    obtain ⟨hlt, hcolon⟩ := List.getElem?_eq_some_iff.1 hpair.1
    refine ⟨decoded.take place, decoded.drop (place + 1), ?_, hpair.2⟩
    rw [← hcolon, ← List.drop_eq_getElem_cons hlt, List.take_append_drop]
  · rintro ⟨before, after, rfl, hpair⟩
    refine ⟨before.length, ?_, ?_⟩
    · rw [List.mem_range, List.length_append, List.length_cons]
      omega
    · have hcolon : (before ++ colon :: after)[before.length]? = some colon := by
        rw [List.getElem?_append_right (Nat.le_refl _), Nat.sub_self]
        rfl
      have hafter : (before ++ colon :: after).drop (before.length + 1) = after := by
        rw [List.drop_append, List.drop_eq_nil_of_le (by omega), Nat.add_sub_cancel_left]
        rfl
      rw [hcolon, hafter, List.take_left, Bool.and_eq_true]
      exact ⟨decide_eq_true rfl, hpair⟩

theorem length_of_credentialWord {word : List Char} (h : isCredentialWord word = true) :
    5 ≤ word.length := by
  obtain ⟨credential, hmem, hsame⟩ := List.any_eq_true.1 h
  have hlower := Text.sameName_iff.1 hsame
  have hlengths := congrArg (fun s : String => s.toList.length) hlower
  simp only [Text.lower, String.toList_ofList, List.length_map] at hlengths
  have hlong : (credentialWords.all fun credential => 5 ≤ credential.toList.length) = true := by
    decide
  have hcredential := of_decide_eq_true (List.all_eq_true.1 hlong credential hmem)
  omega

/-- A text with a credential has at least three bytes. -/
theorem three_le_of_credential {decoded : List UInt8} {short : Bool}
    (h : decodedContainsCredential decoded short = true) : 3 ≤ decoded.length := by
  rcases decodedContainsCredential_iff.1 h with ⟨word, hword, -, hcredential⟩ |
    ⟨before, after, rfl, hpair⟩
  · have hlong := length_of_credentialWord hcredential
    have hle := length_le_of_mem_splitOnP hword
    rw [List.length_map] at hlong
    omega
  · have hleft : (before.reverse.takeWhile isPairByte).length ≤ before.length := by
      have hle := (List.takeWhile_sublist isPairByte (l := before.reverse)).length_le
      rwa [List.length_reverse] at hle
    have hright : (after.takeWhile isPairByte).length ≤ after.length :=
      (List.takeWhile_sublist isPairByte).length_le
    rw [List.length_append, List.length_cons]
    simp only [isPair, Bool.or_eq_true, Bool.and_eq_true, decide_eq_true_eq] at hpair
    omega

end Credentials

section Scan

variable {library : LabelLibrary}

theorem decodeCandidate_iff (hdecodes : library.Decodes) {candidate : List Char}
    {alphabet : Base64.Alphabet} {short : Bool}
    (hlength : candidate.length ≤ maxCatalogNameChars) :
    decodeCandidate library candidate alphabet short = true ↔
      ∃ text, candidate = Base64.encode alphabet text ∧
        decodedContainsCredential text short = true := by
  have hdecode (text : List UInt8) := hdecodes alphabet candidate text
  rw [decodeCandidate]
  constructor
  · intro h
    split_ifs at h
    cases hread : library.decode alphabet candidate with
    | none =>
      rw [hread] at h
      exact nomatch h
    | some text =>
      rw [hread] at h
      exact ⟨text, (hdecode text).1 hread, h⟩
  · rintro ⟨text, hspelled, hcredential⟩
    have hlong := three_le_of_credential hcredential
    have hlengths := Base64.length_encode alphabet text
    rw [← hspelled] at hlengths
    rw [if_neg, (hdecode text).2 hspelled]
    · exact hcredential
    · simp only [Bool.or_eq_true, decide_eq_true_eq]
      omega

theorem length_stretchFrom_le (segment : List Char) (phase : Nat) :
    (stretchFrom segment phase).length ≤ segment.length := by
  have hdrop : (segment.drop phase).length ≤ segment.length := by
    rw [List.length_drop]
    exact Nat.sub_le _ _
  rw [stretchFrom]
  split_ifs
  · rw [List.length_take]
    omega
  · exact hdrop

/-- What stands in a run is no longer than the name. -/
theorem Scanned.length_le {published stretch : List Char} {alphabet : Base64.Alphabet}
    {short : Bool} (h : Scanned published alphabet short stretch) :
    stretch.length ≤ published.length := by
  have hrun {run : List Char} (hrun : run ∈ base64Runs published) :
      run.length ≤ published.length :=
    length_le_of_mem_splitOnP (List.mem_of_mem_filter hrun)
  cases h with
  | standardRun hmem _ => exact hrun hmem
  | urlSafeRun hmem _ _ => exact hrun hmem
  | part hmem hpart =>
    exact Nat.le_trans (length_le_of_mem_splitOnP (List.mem_of_mem_filter hpart)) (hrun hmem)
  | @stretch run segment alphabet phase hmem hsegment _ _ =>
    exact Nat.le_trans (length_stretchFrom_le segment phase)
      (Nat.le_trans (length_le_of_mem_splitOnP hsegment) (hrun hmem))

theorem explicit_iff {run : List Char} :
    scanExplicitBase64Candidates library run = true ↔
      (run.all (Base64.isSymbol .standard) = true ∧
          decodeCandidate library run .standard true = true) ∨
        (¬run.all (Base64.isSymbol .standard) = true ∧
          run.all (Base64.isSymbol .urlSafe) = true ∧
          decodeCandidate library run .urlSafe true = true) ∨
        ∃ part ∈ runParts run, decodeCandidate library part .standard true = true := by
  rw [scanExplicitBase64Candidates, Bool.or_eq_true, List.any_eq_true]
  by_cases hstandard : run.all (Base64.isSymbol .standard) = true
  · rw [if_pos hstandard]
    simp only [hstandard, true_and, not_true, false_and, false_or]
  · rw [if_neg hstandard, Bool.and_eq_true]
    tauto

theorem phaseAligned_iff (hdecodes : library.Decodes) {run : List Char}
    {alphabet : Base64.Alphabet} (hlength : run.length ≤ maxCatalogNameChars) :
    scanPhaseAlignedSegments library run alphabet = true ↔
      ∃ segment ∈ segmentsOf alphabet run, ∃ phase, phase < 4 ∧ phase < segment.length ∧
        decodeCandidate library (stretchFrom segment phase) alphabet false = true := by
  rw [scanPhaseAlignedSegments, List.any_eq_true]
  constructor
  · rintro ⟨segment, hsegment, hphases⟩
    obtain ⟨phase, hphase, hfound⟩ := List.any_eq_true.1 hphases
    rw [List.mem_range] at hphase
    simp only [Bool.and_eq_true] at hfound
    exact ⟨segment, hsegment, phase, by omega, by omega, hfound.2⟩
  · rintro ⟨segment, hsegment, phase, hphase, hlt, hfound⟩
    have hshort : (stretchFrom segment phase).length ≤ maxCatalogNameChars :=
      Nat.le_trans (length_stretchFrom_le segment phase)
        (Nat.le_trans (length_le_of_mem_splitOnP hsegment) hlength)
    obtain ⟨text, hspelled, hcredential⟩ := (decodeCandidate_iff hdecodes hshort).1 hfound
    have hlong := three_le_of_credential hcredential
    have hlengths := Base64.length_encode alphabet text
    rw [← hspelled] at hlengths
    refine ⟨segment, hsegment, List.any_eq_true.2 ⟨phase, List.mem_range.2 (by omega), ?_⟩⟩
    simp only [Bool.and_eq_true, decide_eq_true_eq]
    exact ⟨by omega, hfound⟩

/-- The scan finds a stretch of the name that spells a credential, and nothing else. -/
theorem scan_iff (hdecodes : library.Decodes) {published : List Char}
    (hlength : published.length ≤ maxCatalogNameChars) :
    (base64Runs published).any (base64RunContainsCredential library) = true ↔
      SpellsCredential published := by
  have hspells {alphabet : Base64.Alphabet} {short : Bool} {stretch : List Char}
      (hscanned : Scanned published alphabet short stretch) :
      decodeCandidate library stretch alphabet short = true ↔
        ∃ text, stretch = Base64.encode alphabet text ∧
          decodedContainsCredential text short = true :=
    decodeCandidate_iff hdecodes (Nat.le_trans hscanned.length_le hlength)
  have hrun {run : List Char} (hrun : run ∈ base64Runs published) :
      run.length ≤ maxCatalogNameChars :=
    Nat.le_trans (length_le_of_mem_splitOnP (List.mem_of_mem_filter hrun)) hlength
  rw [List.any_eq_true]
  constructor
  · rintro ⟨run, hmem, hfound⟩
    have hout {alphabet : Base64.Alphabet} {short : Bool} {stretch : List Char}
        (hscanned : Scanned published alphabet short stretch)
        (hdecoded : decodeCandidate library stretch alphabet short = true) :
        SpellsCredential published := by
      obtain ⟨text, hspelled, hcredential⟩ := (hspells hscanned).1 hdecoded
      exact ⟨alphabet, short, stretch, text, hscanned, hspelled, hcredential⟩
    rw [base64RunContainsCredential, Bool.or_eq_true, Bool.or_eq_true, explicit_iff,
      phaseAligned_iff hdecodes (hrun hmem), phaseAligned_iff hdecodes (hrun hmem)] at hfound
    rcases hfound with ((⟨hall, hdecoded⟩ | ⟨hnot, hall, hdecoded⟩ | ⟨part, hpart, hdecoded⟩) |
      ⟨segment, hsegment, phase, hphase, hlt, hdecoded⟩) |
      ⟨segment, hsegment, phase, hphase, hlt, hdecoded⟩
    · exact hout (.standardRun hmem hall) hdecoded
    · exact hout (.urlSafeRun hmem hnot hall) hdecoded
    · exact hout (.part hmem hpart) hdecoded
    · exact hout (.stretch hmem hsegment hphase hlt) hdecoded
    · exact hout (.stretch hmem hsegment hphase hlt) hdecoded
  · rintro ⟨alphabet, short, stretch, text, hscanned, hspelled, hcredential⟩
    have hdecoded := (hspells hscanned).2 ⟨text, hspelled, hcredential⟩
    have hin {run : List Char} (hmem : run ∈ base64Runs published)
        (hfound : base64RunContainsCredential library run = true) :
        ∃ run ∈ base64Runs published, base64RunContainsCredential library run = true :=
      ⟨run, hmem, hfound⟩
    cases hscanned with
    | standardRun hmem hall =>
      refine hin hmem ?_
      rw [base64RunContainsCredential, Bool.or_eq_true, Bool.or_eq_true, explicit_iff]
      exact .inl (.inl (.inl ⟨hall, hdecoded⟩))
    | urlSafeRun hmem hnot hall =>
      refine hin hmem ?_
      rw [base64RunContainsCredential, Bool.or_eq_true, Bool.or_eq_true, explicit_iff]
      exact .inl (.inl (.inr (.inl ⟨hnot, hall, hdecoded⟩)))
    | part hmem hpart =>
      refine hin hmem ?_
      rw [base64RunContainsCredential, Bool.or_eq_true, Bool.or_eq_true, explicit_iff]
      exact .inl (.inl (.inr (.inr ⟨_, hpart, hdecoded⟩)))
    | stretch hmem hsegment hphase hlt =>
      refine hin hmem ?_
      have hfound := (phaseAligned_iff hdecodes (hrun hmem)).2
        ⟨_, hsegment, _, hphase, hlt, hdecoded⟩
      rw [base64RunContainsCredential, Bool.or_eq_true, Bool.or_eq_true]
      cases alphabet with
      | standard => exact .inl (.inr hfound)
      | urlSafe => exact .inr hfound

/-- A name is not shown just when it is refused otherwise or a stretch of it spells a credential,
or when it is the generic label itself. -/
theorem safeCatalogLabel_iff (hdecodes : library.Decodes) (source : List Char) (kind : String)
    (index : Nat) :
    safeCatalogLabel library source kind index = genericLabel kind index ↔
      RefusedOtherwise library (publishedPart source) ∨
        SpellsCredential (publishedPart source) ∨
        String.ofList (trimSpaces (publishedPart source)) = genericLabel kind index := by
  have hlength : (publishedPart source).length ≤ maxCatalogNameChars := List.length_take_le _ _
  have hscan := scan_iff hdecodes hlength
  rw [safeCatalogLabel]
  generalize publishedPart source = published at hscan ⊢
  by_cases hany : (published.isEmpty || containsUuidLike published ||
      containsAddressOrUserinfo published || containsStructuredCredential library published ||
      !published.all (isSafeCatalogLabelChar library)) = true
  · rw [if_pos hany]
    have hcause := hany
    simp only [containsStructuredCredential, Bool.or_eq_true, List.isEmpty_iff,
      Bool.not_eq_true', hscan] at hcause
    refine iff_of_true rfl ?_
    rcases hcause with (((hempty | huuid) | haddress) | hwords | hspells) | hchars
    · exact .inl (.inl hempty)
    · exact .inl (.inr (.inl huuid))
    · exact .inl (.inr (.inr (.inl haddress)))
    · exact .inl (.inr (.inr (.inr (.inl hwords))))
    · exact .inr (.inl hspells)
    · exact .inl (.inr (.inr (.inr (.inr (.inl (Bool.not_eq_true _ ▸ hchars))))))
  · rw [if_neg hany]
    simp only [containsStructuredCredential, Bool.or_eq_true, List.isEmpty_iff,
      Bool.not_eq_true', hscan, not_or] at hany
    obtain ⟨⟨⟨⟨hempty, huuid⟩, haddress⟩, hwords, hspells⟩, hchars⟩ := hany
    by_cases hblank : trimSpaces published = []
    · rw [if_pos (List.isEmpty_iff.2 hblank)]
      exact iff_of_true rfl (.inl (.inr (.inr (.inr (.inr (.inr hblank))))))
    · rw [if_neg (mt List.isEmpty_iff.1 hblank)]
      constructor
      · exact fun h => .inr (.inr h)
      · rintro ((h | h | h | h | h | h) | h | h)
        · exact absurd h hempty
        · exact absurd h huuid
        · exact absurd h haddress
        · exact absurd h hwords
        · exact absurd (Bool.not_eq_true _ ▸ h) hchars
        · exact absurd h hblank
        · exact absurd h hspells
        · exact h

end Scan

section Embedded

/-- A user and a secret, long enough, stand in a text. -/
def HasPair (text : List UInt8) : Prop :=
  ∃ before after, text = before ++ colon :: after ∧
    isPair (before.reverse.takeWhile isPairByte) (after.takeWhile isPairByte) false = true

theorem isPair_mono {left right wider longer : List UInt8} (hleft : left <+: wider)
    (hright : right <+: longer) (h : isPair left right false = true) :
    isPair wider longer false = true := by
  have hleftle := hleft.length_le
  have hrightle := hright.length_le
  simp only [isPair, Bool.or_eq_true, Bool.and_eq_true, decide_eq_true_eq, Bool.and_false,
    Bool.false_eq_true, false_or, and_assoc] at h ⊢
  rcases h with ⟨hl, hr⟩ | ⟨hl, hr, hany⟩
  · exact .inl ⟨by omega, by omega⟩
  · refine .inr ⟨by omega, by omega, ?_⟩
    obtain ⟨byte, hmem, hbyte⟩ := List.any_eq_true.1 hany
    refine List.any_eq_true.2 ⟨byte, ?_, hbyte⟩
    rcases List.mem_append.1 hmem with hmem | hmem
    · exact List.mem_append_left _ (hleft.subset hmem)
    · exact List.mem_append_right _ (hright.subset hmem)

theorem takeWhile_prefix_append {α : Type} (p : α → Bool) (l m : List α) :
    l.takeWhile p <+: (l ++ m).takeWhile p := by
  induction l with
  | nil => exact List.nil_prefix
  | cons a l ih =>
    rw [List.cons_append, List.takeWhile_cons, List.takeWhile_cons]
    cases p a with
    | true => exact List.cons_prefix_cons.2 ⟨rfl, ih⟩
    | false => exact List.nil_prefix

/-- A pair is still there in a longer text. -/
theorem HasPair.of_infix {text whole : List UInt8} (h : HasPair text) (hin : text <:+: whole) :
    HasPair whole := by
  obtain ⟨before, after, rfl, hpair⟩ := h
  obtain ⟨front, back, rfl⟩ := hin
  refine ⟨front ++ before, after ++ back, by simp, isPair_mono ?_ ?_ hpair⟩
  · rw [List.reverse_append]
    exact takeWhile_prefix_append isPairByte _ _
  · exact takeWhile_prefix_append isPairByte _ _

theorem HasPair.hasCredential {text : List UInt8} (h : HasPair text) : HasCredential text := by
  obtain ⟨before, after, hsplit, hpair⟩ := h
  exact decodedContainsCredential_iff.2 (.inr ⟨before, after, hsplit, by simpa using hpair⟩)

/-- The stretch of a segment that begins in the phase of an encoding holds it, behind a multiple of
four symbols. -/
theorem stretchFrom_embedded (alphabet : Base64.Alphabet) (text : List UInt8)
    (before after : List Char) :
    ∃ front back, stretchFrom (before ++ Base64.encode alphabet text ++ after)
      (before.length % 4) = front ++ Base64.encode alphabet text ++ back ∧ 4 ∣ front.length := by
  have hlengths := Base64.length_encode alphabet text
  have hdrop : (before ++ Base64.encode alphabet text ++ after).drop (before.length % 4) =
      before.drop (before.length % 4) ++ Base64.encode alphabet text ++ after := by
    rw [List.append_assoc, List.drop_append_of_le_length (Nat.mod_le _ _), List.append_assoc]
  have hfront : (before.drop (before.length % 4)).length =
      before.length - before.length % 4 := List.length_drop
  rw [stretchFrom, hdrop]
  split_ifs with hleft
  · cases after using List.reverseRecOn with
    | nil =>
      rw [List.append_nil, List.length_append] at hleft
      omega
    | append_singleton after c =>
      refine ⟨before.drop (before.length % 4), after, ?_, by omega⟩
      rw [← List.append_assoc, List.length_append, List.length_singleton, Nat.add_sub_cancel,
        List.take_left]
  · exact ⟨_, after, rfl, by omega⟩

theorem isRunChar_of_isSymbol {alphabet : Base64.Alphabet} {c : Char}
    (h : Base64.isSymbol alphabet c = true) : isRunChar c = true := by
  rw [Base64.isSymbol, Base64.value] at h
  rw [isRunChar, isAsciiAlphanumeric, isRunSeparator]
  simp only [Bool.or_eq_true, Bool.and_eq_true, decide_eq_true_eq]
  split_ifs at h with hupper hlower hdigit hdash hstroke
  · exact .inl (.inl (.inr hupper))
  · exact .inl (.inr hlower)
  · exact .inl (.inl (.inl hdigit))
  · cases alphabet with
    | standard => exact .inr (.inl (.inr hdash))
    | urlSafe => exact .inr (.inl (.inl (.inl hdash)))
  · cases alphabet with
    | standard => exact .inr (.inr hstroke)
    | urlSafe => exact .inr (.inl (.inl (.inr hstroke)))
  · cases h

/-- A pair whose encoding stands in a name is found, unless the stretch around it that begins in
its phase is not as it would be written. -/
theorem pair_found_or_not_canonical {published : List Char} {alphabet : Base64.Alphabet}
    {text : List UInt8} (hpair : HasPair text)
    (hin : Base64.encode alphabet text <:+: published) :
    SpellsCredential published ∨
      ∃ stretch, Scanned published alphabet false stretch ∧
        Base64.encode alphabet text <:+: stretch ∧
        ∀ whole, stretch ≠ Base64.encode alphabet whole := by
  have hlong := three_le_of_credential hpair.hasCredential
  have hlengths := Base64.length_encode alphabet text
  have hsymbols (c : Char) (hc : c ∈ Base64.encode alphabet text) :
      (!isRunChar c) = false := by
    rw [isRunChar_of_isSymbol (Base64.mem_encode hc)]
    rfl
  obtain ⟨run, hrun, hinrun⟩ := infix_of_splitOnP hin hsymbols
  have hrunmem : run ∈ base64Runs published := by
    refine List.mem_filter.2 ⟨hrun, ?_⟩
    cases run with
    | nil =>
      have hle := hinrun.length_le
      rw [List.length_nil] at hle
      omega
    | cons c run => rfl
  have hown (c : Char) (hc : c ∈ Base64.encode alphabet text) :
      (!Base64.isSymbol alphabet c) = false := by
    rw [Base64.mem_encode hc]
    rfl
  obtain ⟨segment, hsegment, hinsegment⟩ := infix_of_splitOnP hinrun hown
  obtain ⟨before, after, rfl⟩ := hinsegment
  have hphase : before.length % 4 < (before ++ Base64.encode alphabet text ++ after).length := by
    have hmod := Nat.mod_le before.length 4
    rw [List.length_append, List.length_append]
    omega
  have hscanned := Scanned.stretch hrunmem hsegment (Nat.mod_lt _ (by decide)) hphase
  obtain ⟨front, back, hstretch, hfront⟩ :=
    stretchFrom_embedded alphabet text before after
  by_cases hcanonical : ∃ whole, stretchFrom (before ++ Base64.encode alphabet text ++ after)
      (before.length % 4) = Base64.encode alphabet whole
  · obtain ⟨whole, hwhole⟩ := hcanonical
    have hwithin := Base64.infix_of_encode hfront (hwhole.symm.trans hstretch)
    exact .inl ⟨alphabet, false, _, whole, hscanned, hwhole,
      (hpair.of_infix hwithin).hasCredential⟩
  · refine .inr ⟨_, hscanned, ?_, fun whole hwhole => hcanonical ⟨whole, hwhole⟩⟩
    rw [hstretch]
    exact ⟨front, back, rfl⟩

end Embedded

section Publication

/-- A name with an encoded credential in it gets the generic label just when it is refused
otherwise, or a stretch that is decoded spells a credential, or it is the generic label. -/
theorem encoded_unpublished_iff {library : LabelLibrary} (hdecodes : library.Decodes)
    (source : List Char) (kind : String) (index : Nat) :
    (EncodesCredential source →
      safeCatalogLabel library source kind index = genericLabel kind index) ↔
    (EncodesCredential source →
      RefusedOtherwise library (publishedPart source) ∨
        SpellsCredential (publishedPart source) ∨
        String.ofList (trimSpaces (publishedPart source)) = genericLabel kind index) :=
  imp_congr_right fun _ => safeCatalogLabel_iff hdecodes source kind index

/-- Letters and numbers of ASCII, and the decoding itself. -/
def plainLabels : LabelLibrary where
  isAlphanumeric c := isAsciiAlphanumeric c.toNat
  decode := Base64.decode

theorem plainLabels_decodes : plainLabels.Decodes := fun _ _ _ => Base64.decode_eq_some

/-- "user:secret". -/
def userSecret : List UInt8 := [117, 115, 101, 114, 58, 115, 101, 99, 114, 101, 116]

theorem encoded_unpublished_iff_alone :
    safeCatalogLabel plainLabels "dXNlcjpzZWNyZXQ".toList "Node" 0 = genericLabel "Node" 0 := by
  have hspelled : "dXNlcjpzZWNyZXQ".toList = Base64.encode .standard userSecret := by
    decide
  have hcredential : HasCredential userSecret := by
    rw [HasCredential]
    decide
  refine (encoded_unpublished_iff plainLabels_decodes _ _ _).2 (fun _ => .inr (.inl ?_))
    ⟨.standard, userSecret, hcredential, ?_⟩
  · have hrun : "dXNlcjpzZWNyZXQ".toList ∈
        base64Runs (publishedPart "dXNlcjpzZWNyZXQ".toList) := by decide
    exact ⟨.standard, true, _, userSecret, .standardRun hrun (by decide), hspelled,
      by decide⟩
  · exact hspelled ▸ List.infix_refl _

/-- Characters behind an encoded pair that leave bits over keep it from being found. -/
theorem encoded_pair_published :
    ¬∀ library : LabelLibrary, library.Decodes → ∀ source kind index,
      EncodesCredential source →
        safeCatalogLabel library source kind index = genericLabel kind index := by
  intro h
  have hencodes : EncodesCredential "dXNlcjpzZWNyZXQ123".toList := by
    refine ⟨.standard, userSecret, ?_, ⟨[], "123".toList, ?_⟩⟩
    · rw [HasCredential]
      decide
    · decide
  have hlabel := h plainLabels plainLabels_decodes _ "Node" 0 hencodes
  have hpublished : safeCatalogLabel plainLabels "dXNlcjpzZWNyZXQ123".toList "Node" 0 =
      "dXNlcjpzZWNyZXQ123" := by decide
  rw [hpublished] at hlabel
  have hdiffer : "dXNlcjpzZWNyZXQ123" ≠ genericLabel "Node" 0 := by decide
  exact hdiffer hlabel

end Publication

end MultiCore.Daemon
