import MultiCore.Library.Text
import MultiCore.Library.Utf8
import MultiCore.Library.YamlLines

/-!
# Headers written in the body

A provider may write its headers as comments at the top of a body. The leading
block of blank lines and comments is scanned for them, line by line at every
line feed, and cut off behind its last comment. YAML also breaks lines at lone
carriage returns, so a comment line as scanned here may hold more than a comment.
-/

namespace MultiCore.Subscription

open Text

/-- `MAX_BODY_HEADER_LINES`. -/
def maxBodyHeaderLines : Nat := 64

/-- `MAX_BODY_HEADER_BYTES`. -/
def maxBodyHeaderBytes : Nat := 16 * 1024

/-- The body without a UTF-8 byte order mark. -/
def stripUtf8Bom : List UInt8 → List UInt8
  | 0xEF :: 0xBB :: 0xBF :: body => body
  | body => body

/-- `u8::is_ascii_whitespace`. -/
def isAsciiWhitespace (b : UInt8) : Bool := b = 32 || b = 9 || b = 10 || b = 12 || b = 13

/-- `trim_ascii`. -/
def trimAscii (bytes : List UInt8) : List UInt8 :=
  (bytes.dropWhile isAsciiWhitespace).rdropWhile isAsciiWhitespace

/-- A character a header's name may consist of. -/
def isNameChar (c : Char) : Bool :=
  isDigit c || (65 ≤ c.toNat && c.toNat ≤ 90) || (97 ≤ c.toNat && c.toNat ≤ 122) || c = '-'

/-- The header a comment reads as, if it does. -/
def bodyHeaderPair (comment : List UInt8) : Option (String × String) := do
  let text ← Utf8.fromUtf8 comment
  let (name, value) ← splitOnce ':' (String.ofList text)
  let name := trim name
  if name.toList.isEmpty || !name.toList.all isNameChar then none
  else some (lower name, trim value)

/-- The length of the first line, with its line feed. -/
def lineLength (remaining : List UInt8) : Nat :=
  match remaining.idxOf? Yaml.lineFeed with
  | some newline => newline + 1
  | none => remaining.length

/-- The loop over the lines from a position on. -/
def scanLines (text : List UInt8) : Nat → Nat → List (String × String) → Option Nat →
    List (String × String) × Option Nat
  | 0, _, pairs, endOfComments => (pairs, endOfComments)
  | left + 1, position, pairs, endOfComments =>
    let remaining := text.drop position
    if remaining.isEmpty then (pairs, endOfComments)
    else
      let lineLen := lineLength remaining
      if maxBodyHeaderBytes < position + lineLen then (pairs, endOfComments)
      else
        match trimAscii (remaining.take lineLen) with
        | [] => scanLines text left (position + lineLen) pairs endOfComments
        | 35 :: comment =>
          scanLines text left (position + lineLen) (pairs ++ (bodyHeaderPair comment).toList)
            (some (position + lineLen))
        | _ => (pairs, endOfComments)

/-- The headers at the top of a body, and what remains behind the last comment there. -/
def splitBodyHeaders (body : List UInt8) : List (String × String) × Option (List UInt8) :=
  let text := stripUtf8Bom body
  let (pairs, endOfComments) := scanLines text maxBodyHeaderLines 0 [] none
  (pairs, endOfComments.map text.drop)

/-- The leading lines that are blank or comments as they are scanned, up to the last comment:
at most `left` lines of `bytes` bytes in all. -/
def commentLines : Nat → Nat → List (List UInt8) → List (List UInt8)
  | 0, _, _ => []
  | _, _, [] => []
  | left + 1, bytes, line :: rest =>
    if bytes < line.length then []
    else
      match trimAscii line with
      | [] =>
        -- A blank line belongs to the block only before a comment.
        let more := commentLines left (bytes - line.length) rest
        if more.isEmpty then [] else line :: more
      | 35 :: _ => line :: commentLines left (bytes - line.length) rest
      | _ => []

/-- The leading comment block of a body. -/
def commentBlock (body : List UInt8) : List (List UInt8) :=
  commentLines maxBodyHeaderLines maxBodyHeaderBytes
    (Lines.lines Yaml.lineFeed (stripUtf8Bom body))

/-- A removal that leaves the configuration as it was: what remains is a suffix of the body, and
before it stood, behind a byte order mark at most, whole lines that are blank or comments. -/
def Harmless (body rest : List UInt8) : Prop :=
  rest <:+ body ∧ ∃ removed, stripUtf8Bom body = removed ++ rest ∧ Yaml.Stops removed rest ∧
    ∀ line ∈ Yaml.lines removed, Yaml.BlankOrComment line

theorem stripUtf8Bom_suffix (body : List UInt8) : stripUtf8Bom body <:+ body := by
  unfold stripUtf8Bom
  split
  · exact ⟨[0xEF, 0xBB, 0xBF], rfl⟩
  · exact List.suffix_refl _

/-- The first line of a text, and the lines of the rest. -/
theorem lines_take_drop {text : List UInt8} (h : text ≠ []) :
    Lines.lines Yaml.lineFeed text =
      text.take (lineLength text) :: Lines.lines Yaml.lineFeed (text.drop (lineLength text)) := by
  unfold lineLength
  cases hfind : text.idxOf? Yaml.lineFeed with
  | some newline =>
    obtain ⟨before, after, rfl, hlength, hbefore⟩ := Lines.idxOf?_split hfind
    have htake : (before ++ Yaml.lineFeed :: after).take (newline + 1) =
        before ++ [Yaml.lineFeed] := by
      rw [← hlength, List.take_append, List.take_of_length_le (Nat.le_succ _)]
      simp
    have hdrop : (before ++ Yaml.lineFeed :: after).drop (newline + 1) = after := by
      rw [← hlength, List.drop_append]
      simp
    simp only [htake, hdrop]
    exact Lines.lines_line hbefore after
  | none =>
    have hmem : Yaml.lineFeed ∉ text := List.idxOf?_eq_none_iff.1 hfind
    rw [List.take_length, List.drop_length, Lines.lines_unfinished hmem h, Lines.lines_nil]

theorem length_take_lineLength (text : List UInt8) :
    (text.take (lineLength text)).length = lineLength text := by
  unfold lineLength
  cases hfind : text.idxOf? Yaml.lineFeed with
  | some newline =>
    obtain ⟨before, after, rfl, hlength, -⟩ := Lines.idxOf?_split hfind
    rw [List.length_take, ← hlength, List.length_append, List.length_cons]
    simp only
    omega
  | none => rw [List.take_length]

/-- Where a block of lines ends that begins at a position. -/
def blockEnd (position : Nat) (endOfComments : Option Nat) (block : List (List UInt8)) :
    Option Nat :=
  if block.isEmpty then endOfComments else some (position + block.flatten.length)

theorem blockEnd_cons (position : Nat) (endOfComments : Option Nat) (line : List UInt8)
    (block : List (List UInt8)) :
    blockEnd position endOfComments (line :: block) =
      blockEnd (position + line.length) (some (position + line.length)) block := by
  cases block <;> simp [blockEnd, Nat.add_assoc]

/-- The scan stops behind the leading comment block. -/
theorem scanLines_end (text : List UInt8) (left position : Nat) (pairs : List (String × String))
    (endOfComments : Option Nat) (hposition : position ≤ maxBodyHeaderBytes) :
    (scanLines text left position pairs endOfComments).2 =
      blockEnd position endOfComments (commentLines left (maxBodyHeaderBytes - position)
        (Lines.lines Yaml.lineFeed (text.drop position))) := by
  induction left generalizing position pairs endOfComments with
  | zero => rfl
  | succ left ih =>
    rw [scanLines]
    by_cases hempty : (text.drop position).isEmpty = true
    · have hnil : text.drop position = [] := List.isEmpty_iff.1 hempty
      rw [if_pos hempty, hnil]
      rfl
    rw [if_neg hempty]
    have hne : text.drop position ≠ [] := fun hnil => hempty (List.isEmpty_iff.2 hnil)
    have hlength := length_take_lineLength (text.drop position)
    rw [lines_take_drop hne, List.drop_drop, commentLines, hlength]
    by_cases hbytes : maxBodyHeaderBytes < position + lineLength (text.drop position)
    · have hlt : maxBodyHeaderBytes - position < lineLength (text.drop position) := by omega
      rw [if_pos hbytes, if_pos hlt]
      rfl
    have hle : ¬maxBodyHeaderBytes - position < lineLength (text.drop position) := by omega
    have hnext : position + lineLength (text.drop position) ≤ maxBodyHeaderBytes := by omega
    rw [if_neg hbytes, if_neg hle, Nat.sub_sub]
    split
    · rw [ih _ _ _ hnext]
      by_cases hmore : (commentLines left
          (maxBodyHeaderBytes - (position + lineLength (text.drop position)))
          (Lines.lines Yaml.lineFeed
            (text.drop (position + lineLength (text.drop position))))).isEmpty = true
      · simp only [hmore, if_true]
        simp [blockEnd, hmore]
      · simp only [hmore, Bool.false_eq_true, if_false]
        rw [blockEnd_cons, hlength]
        simp [blockEnd, hmore]
    · rw [ih _ _ _ hnext, blockEnd_cons, hlength]
    · rfl

theorem splitBodyHeaders_rest (body : List UInt8) :
    (splitBodyHeaders body).2 =
      if (commentBlock body).isEmpty then none
      else some ((stripUtf8Bom body).drop (commentBlock body).flatten.length) := by
  have hend := scanLines_end (stripUtf8Bom body) maxBodyHeaderLines 0 [] none (Nat.zero_le _)
  rw [List.drop_zero, Nat.sub_zero] at hend
  rw [splitBodyHeaders]
  simp only [hend, blockEnd, commentBlock]
  by_cases hblock : (commentLines maxBodyHeaderLines maxBodyHeaderBytes
      (Lines.lines Yaml.lineFeed (stripUtf8Bom body))).isEmpty = true
  · simp [hblock]
  · simp [hblock]

/-- The block consists of the first lines. -/
theorem commentLines_prefix (left bytes : Nat) (lines : List (List UInt8)) :
    commentLines left bytes lines <+: lines := by
  fun_induction commentLines left bytes lines with
  | case1 => exact List.nil_prefix
  | case2 => exact List.nil_prefix
  | case3 => exact List.nil_prefix
  | case4 left bytes line rest hbytes hblank more hempty => exact List.nil_prefix
  | case5 left bytes line rest hbytes hblank more hempty ih =>
    exact List.cons_prefix_cons.2 ⟨rfl, ih⟩
  | case6 left bytes line rest hbytes comment hcomment ih =>
    exact List.cons_prefix_cons.2 ⟨rfl, ih⟩
  | case7 => exact List.nil_prefix

/-- The lines before others of a text stop at line ends. -/
theorem ends_flatten {text : List UInt8} {before after : List (List UInt8)}
    (h : Lines.lines Yaml.lineFeed text = before ++ after) (hafter : after ≠ []) :
    Lines.Ends Yaml.lineFeed before.flatten := by
  induction text using Lines.induction_lines Yaml.lineFeed generalizing before with
  | nil =>
    have hnil := List.append_eq_nil_iff.1 h.symm
    exact absurd hnil.2 hafter
  | unfinished body hbody hne =>
    rw [Lines.lines_unfinished hbody hne] at h
    cases before with
    | nil => exact .nil
    | cons line before =>
      rw [List.cons_append, List.cons.injEq] at h
      exact absurd (List.append_eq_nil_iff.1 h.2.symm).2 hafter
  | line body rest hbody ih =>
    rw [Lines.lines_line hbody] at h
    cases before with
    | nil => exact .nil
    | cons line before =>
      rw [List.cons_append, List.cons.injEq] at h
      obtain ⟨hline, hrest⟩ := h
      rw [List.flatten_cons, ← hline]
      rcases ih hrest with hnil | hlast
      · rw [hnil, List.append_nil]
        exact Lines.ends_append_separator body
      · have hne : before.flatten ≠ [] := by
          intro hnil
          rw [hnil] at hlast
          exact nomatch hlast
        exact Or.inr ((List.getLast?_append_of_ne_nil _ hne).trans hlast)

/-- The lines of YAML in some leading lines are those in each of them. -/
theorem yamlLines_flatten {text : List UInt8} {before after : List (List UInt8)}
    (h : Lines.lines Yaml.lineFeed text = before ++ after) :
    Yaml.lines before.flatten = before.flatMap Yaml.lines := by
  induction text using Lines.induction_lines Yaml.lineFeed generalizing before with
  | nil =>
    rw [(List.append_eq_nil_iff.1 h.symm).1]
    rfl
  | unfinished body hbody hne =>
    rw [Lines.lines_unfinished hbody hne] at h
    cases before with
    | nil => rfl
    | cons line before =>
      rw [List.cons_append, List.cons.injEq] at h
      rw [(List.append_eq_nil_iff.1 h.2.symm).1]
      simp
  | line body rest hbody ih =>
    rw [Lines.lines_line hbody] at h
    cases before with
    | nil => rfl
    | cons line before =>
      rw [List.cons_append, List.cons.injEq] at h
      obtain ⟨hline, hrest⟩ := h
      rw [List.flatten_cons, List.flatMap_cons, ← ih hrest, ← hline]
      exact Yaml.lines_append (Lines.ends_append_separator body) _

/-- The text behind the byte order mark is the block and what remains. -/
theorem commentBlock_append (body : List UInt8) :
    stripUtf8Bom body = (commentBlock body).flatten ++
      (stripUtf8Bom body).drop (commentBlock body).flatten.length := by
  obtain ⟨after, hafter⟩ := commentLines_prefix maxBodyHeaderLines maxBodyHeaderBytes
    (Lines.lines Yaml.lineFeed (stripUtf8Bom body))
  have htext := Lines.flatten_lines Yaml.lineFeed (stripUtf8Bom body)
  rw [← hafter, List.flatten_append] at htext
  have hprefix : (commentBlock body).flatten <+: stripUtf8Bom body := ⟨after.flatten, htext⟩
  have htake : (stripUtf8Bom body).take (commentBlock body).flatten.length =
      (commentBlock body).flatten := (List.prefix_iff_eq_take.1 hprefix).symm
  have hwhole := List.take_append_drop (commentBlock body).flatten.length (stripUtf8Bom body)
  rw [htake] at hwhole
  exact hwhole.symm

theorem commentBlock_stops (body : List UInt8) :
    Yaml.Stops (commentBlock body).flatten
      ((stripUtf8Bom body).drop (commentBlock body).flatten.length) := by
  obtain ⟨after, hafter⟩ := commentLines_prefix maxBodyHeaderLines maxBodyHeaderBytes
    (Lines.lines Yaml.lineFeed (stripUtf8Bom body))
  by_cases hne : after = []
  · have htext := Lines.flatten_lines Yaml.lineFeed (stripUtf8Bom body)
    rw [← hafter, hne, List.append_nil] at htext
    have hrest : (stripUtf8Bom body).drop (commentBlock body).flatten.length = [] := by
      rw [commentBlock, htext, List.drop_length]
    exact Or.inr (Or.inl hrest)
  · exact Yaml.stops_of_ends (ends_flatten hafter.symm hne) _

theorem commentBlock_yamlLines (body : List UInt8) :
    Yaml.lines (commentBlock body).flatten = (commentBlock body).flatMap Yaml.lines := by
  obtain ⟨after, hafter⟩ := commentLines_prefix maxBodyHeaderLines maxBodyHeaderBytes
    (Lines.lines Yaml.lineFeed (stripUtf8Bom body))
  exact yamlLines_flatten hafter.symm

/-- Taking the headers off a body leaves its configuration as it was exactly when each line of
the leading comment block, as the scan cuts it, is nothing but blank lines and comments for YAML
too. -/
theorem splitBodyHeaders_harmless_iff (body : List UInt8) :
    (∀ pairs rest, splitBodyHeaders body = (pairs, some rest) → Harmless body rest) ↔
      ∀ scanned ∈ commentBlock body, ∀ line ∈ Yaml.lines scanned, Yaml.BlankOrComment line := by
  have hrest := splitBodyHeaders_rest body
  constructor
  · intro h scanned hscanned line hline
    have hsome : (commentBlock body).isEmpty = false := by
      rw [List.isEmpty_eq_false_iff]
      exact List.ne_nil_of_mem hscanned
    rw [hsome] at hrest
    obtain ⟨-, removed, hremoved, -, hlines⟩ := h (splitBodyHeaders body).1 _
      (Prod.ext rfl hrest)
    have hsame : removed = (commentBlock body).flatten :=
      List.append_cancel_right (hremoved.symm.trans (commentBlock_append body))
    rw [hsame, commentBlock_yamlLines] at hlines
    exact hlines line (List.mem_flatMap.2 ⟨scanned, hscanned, hline⟩)
  · intro h pairs rest hsplit
    rw [hsplit] at hrest
    by_cases hempty : (commentBlock body).isEmpty = true
    · rw [if_pos hempty] at hrest
      exact nomatch hrest
    · rw [if_neg hempty, Option.some.injEq] at hrest
      have hrest : rest = (stripUtf8Bom body).drop (commentBlock body).flatten.length := hrest
      rw [hrest]
      refine ⟨(List.drop_suffix _ _).trans (stripUtf8Bom_suffix body), (commentBlock body).flatten,
        commentBlock_append body, commentBlock_stops body, ?_⟩
      intro line hline
      rw [commentBlock_yamlLines] at hline
      obtain ⟨scanned, hscanned, hline⟩ := List.mem_flatMap.1 hline
      exact h scanned hscanned line hline

/-- `#\r{}\n{}`: the document behind the lone carriage return goes with the comment. -/
theorem splitBodyHeaders_carriageReturn :
    ¬∀ (body : List UInt8) (pairs : List (String × String)) (rest : List UInt8),
      splitBodyHeaders body = (pairs, some rest) → Harmless body rest := by
  intro h
  have hsplit : splitBodyHeaders [35, 13, 123, 125, 10, 123, 125] = ([], some [123, 125]) := by
    decide
  obtain ⟨-, removed, hremoved, -, hlines⟩ := h _ _ _ hsplit
  have hsame : removed = [35, 13, 123, 125, 10] :=
    List.append_cancel_right (hremoved.symm : removed ++ [123, 125] = _ ++ [123, 125])
  rw [hsame] at hlines
  exact absurd (hlines [123, 125] (by decide)) (by decide)

end MultiCore.Subscription
