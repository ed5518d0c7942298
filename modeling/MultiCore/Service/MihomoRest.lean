import MultiCore.Daemon.CoreSessions
import MultiCore.Library.Checked
import MultiCore.Library.Text
import MultiCore.Library.Utf8

/-!
# Answers of the controller

The service reads the answers of its own controller with a small client. An answer ends
with its bytes or comes in chunks, each behind a line with its size. The sizes are words
that the other side announces, and the loop computes with them.
-/

namespace MultiCore.Service

open Utf8 (fromUtf8)

/-- Where a pattern first stands in some bytes. -/
def position (pattern : List UInt8) : List UInt8 → Option Nat
  | [] => none
  | b :: rest =>
    if pattern.isPrefixOf (b :: rest) then some 0 else (position pattern rest).map (· + 1)

/-- The end of a line. -/
def lineBreak : List UInt8 := [13, 10]

/-- The size that a line announces; an extension of the chunk stands behind a semicolon. -/
def chunkSize (sizeText : List Char) : Option Nat :=
  Text.parseRadix 16 18446744073709551615
    (Text.trim (String.ofList (sizeText.takeWhile (· ≠ ';')))).toList

/-- The size of the next chunk, and what stands behind its line. -/
def sizeLine (body : List UInt8) : Checked (Except String (Nat × List UInt8)) :=
  match position lineBreak body with
  | none => some (.error "chunk size line is not terminated")
  | some lineEnd => do
    match fromUtf8 (← Checked.sliceTo body lineEnd) with
    | none => some (.error "chunk size is not UTF-8")
    | some sizeText =>
      match chunkSize sizeText with
      | none => some (.error "chunk size is not hexadecimal")
      | some size => some (.ok (size, ← Checked.sliceFrom body (lineEnd + 2)))

/-- The pattern stands in the bytes. -/
theorem position_add_length_le {pattern body : List UInt8} {place : Nat}
    (h : position pattern body = some place) : place + pattern.length ≤ body.length := by
  induction body generalizing place with
  | nil => exact nomatch h
  | cons b rest ih =>
    rw [position] at h
    by_cases hprefix : pattern.isPrefixOf (b :: rest) = true
    · rw [if_pos hprefix, Option.some_inj] at h
      have hlength := (List.isPrefixOf_iff_prefix.1 hprefix).length_le
      rw [← h, Nat.zero_add]
      exact hlength
    · rw [if_neg hprefix, Option.map_eq_some_iff] at h
      obtain ⟨before, hbefore, rfl⟩ := h
      have hle := ih hbefore
      rw [List.length_cons]
      omega

theorem position_add_two_le {body : List UInt8} {lineEnd : Nat}
    (h : position lineBreak body = some lineEnd) : lineEnd + 2 ≤ body.length :=
  position_add_length_le h

/-- What stands behind a size line is shorter. -/
theorem length_of_sizeLine {body rest : List UInt8} {size : Nat}
    (h : sizeLine body = some (.ok (size, rest))) : rest.length + 2 ≤ body.length := by
  unfold sizeLine at h
  cases hposition : position lineBreak body with
  | none =>
    rw [hposition] at h
    cases h
  | some lineEnd =>
    have hle := position_add_two_le hposition
    rw [hposition] at h
    dsimp only at h
    rw [Checked.sliceTo_eq_some (by omega), Checked.bind_some] at h
    cases htext : fromUtf8 (body.take lineEnd) with
    | none =>
      rw [htext] at h
      cases h
    | some sizeText =>
      rw [htext] at h
      dsimp only at h
      cases hsize : chunkSize sizeText with
      | none =>
        rw [hsize] at h
        cases h
      | some found =>
        rw [hsize] at h
        dsimp only at h
        rw [Checked.sliceFrom_eq_some hle, Checked.bind_some] at h
        obtain ⟨-, rfl⟩ := Prod.mk.inj (Except.ok.inj (Option.some.inj h))
        rw [List.length_drop]
        omega

/-- Puts the chunks of a body behind what was read so far. -/
def dechunkFrom (out body : List UInt8) : Checked (Except String (List UInt8)) :=
  match _hline : sizeLine body with
  | none => none
  | some (.error message) => some (.error message)
  | some (.ok (size, rest)) =>
    if size = 0 then some (.ok out)
    else
      match Checked.u64 (size + 2) with
      | none => none
      | some needed =>
        if rest.length < needed then some (.error "chunk is truncated")
        else
          match Checked.sliceTo rest size, _hnext : Checked.sliceFrom rest needed with
          | some chunk, some next => dechunkFrom (out ++ chunk) next
          | _, _ => none
termination_by body.length
decreasing_by
  have hlength := length_of_sizeLine _hline
  have hle := Checked.length_of_sliceFrom _hnext
  omega

/-- `dechunk`, from the first chunk on. -/
def dechunk (body : List UInt8) : Checked (Except String (List UInt8)) := dechunkFrom [] body

/-- The status in the head of an answer. -/
def readStatus (head : List Char) : Option Nat :=
  (Text.splitWhitespace (String.ofList head))[1]?.bind (Text.parseUnsigned 65535)

/-- Whether the head of an answer says that the body comes in chunks. -/
def isChunked (head : List Char) : Bool :=
  (Daemon.strLines head).any fun line =>
    let lower := Text.lower (String.ofList line)
    Text.startsWith lower "transfer-encoding:" && Text.contains lower "chunked"

/-- The end of the head of an answer. -/
def headEnd : List UInt8 := lineBreak ++ lineBreak

/-- `parse_response`: the status and the body of an answer. -/
def parseResponse (response : List UInt8) : Checked (Except String (Nat × List UInt8)) :=
  match position headEnd response with
  | none => some (.error "controller response has no header end")
  | some split => do
    match fromUtf8 (← Checked.sliceTo response split) with
    | none => some (.error "controller response head is not UTF-8")
    | some head =>
      match readStatus head with
      | none => some (.error "controller response has no status")
      | some status =>
        let body ← Checked.sliceFrom response (split + 4)
        if isChunked head then (dechunk body).map fun answer => answer.map fun body => (status, body)
        else some (.ok (status, body))

/-! ## Sizes that are announced -/

/-- A body announces a size where one of its chunks begins. -/
inductive Announces : List UInt8 → Nat → Prop
  | here {body rest : List UInt8} {size : Nat} (line : sizeLine body = some (.ok (size, rest))) :
      Announces body size
  | later {body rest : List UInt8} {size other : Nat}
      (line : sizeLine body = some (.ok (size, rest))) (pos : size ≠ 0)
      (le : size + 2 ≤ rest.length) (behind : Announces (rest.drop (size + 2)) other) :
      Announces body other

theorem sizeLine_isSome (body : List UInt8) : (sizeLine body).isSome = true := by
  unfold sizeLine
  cases hposition : position lineBreak body with
  | none => rfl
  | some lineEnd =>
    have hle := position_add_two_le hposition
    dsimp only
    rw [Checked.sliceTo_eq_some (by omega), Checked.bind_some, Checked.sliceFrom_eq_some hle]
    cases fromUtf8 (body.take lineEnd) with
    | none => rfl
    | some sizeText =>
      dsimp only
      cases chunkSize sizeText <;> rfl

theorem dechunkFrom_error {out body : List UInt8} {message : String}
    (h : sizeLine body = some (.error message)) :
    dechunkFrom out body = some (.error message) := by
  rw [dechunkFrom]
  split
  · next hline =>
    rw [hline] at h
    cases h
  · next other hline =>
    rw [hline] at h
    cases h
    rfl
  · next size rest hline =>
    rw [hline] at h
    cases h

/-- One round of the loop. -/
theorem dechunkFrom_ok {out body rest : List UInt8} {size : Nat}
    (h : sizeLine body = some (.ok (size, rest))) :
    dechunkFrom out body =
      if size = 0 then some (.ok out)
      else if 18446744073709551615 < size + 2 then none
      else if rest.length < size + 2 then some (.error "chunk is truncated")
      else dechunkFrom (out ++ rest.take size) (rest.drop (size + 2)) := by
  rw [dechunkFrom]
  split
  · next hline =>
    rw [hline] at h
    cases h
  · next other hline =>
    rw [hline] at h
    cases h
  · next found tail hline =>
    rw [hline] at h
    obtain ⟨rfl, rfl⟩ := Prod.mk.inj (Except.ok.inj (Option.some.inj h))
    by_cases hzero : found = 0
    · rw [if_pos hzero, if_pos hzero]
    · rw [if_neg hzero, if_neg hzero]
      by_cases hword : 18446744073709551615 < found + 2
      · rw [if_pos hword, Checked.u64_eq_none.2 hword]
      · rw [if_neg hword, Checked.u64_eq_some (by omega)]
        dsimp only
        by_cases hshort : tail.length < found + 2
        · rw [if_pos hshort, if_pos hshort]
        · rw [if_neg hshort, if_neg hshort]
          have hchunk : Checked.sliceTo tail found = some (tail.take found) :=
            Checked.sliceTo_eq_some (by omega)
          have hrest : Checked.sliceFrom tail (found + 2) = some (tail.drop (found + 2)) :=
            Checked.sliceFrom_eq_some (by omega)
          split
          · next chunk next hsome hnext =>
            rw [hchunk, Option.some_inj] at hsome
            rw [hrest, Option.some_inj] at hnext
            rw [← hsome, ← hnext]
          · next hnone =>
            exact absurd hrest (hnone _ _ hchunk)

/-- What a body announces: its first size, and what stands behind its first chunk. -/
theorem announces_iff {body rest : List UInt8} {size other : Nat}
    (h : sizeLine body = some (.ok (size, rest))) :
    Announces body other ↔
      other = size ∨ size ≠ 0 ∧ size + 2 ≤ rest.length ∧
        Announces (rest.drop (size + 2)) other := by
  constructor
  · intro hannounces
    cases hannounces with
    | here line =>
      rw [h] at line
      exact Or.inl (Prod.mk.inj (Except.ok.inj (Option.some.inj line))).1.symm
    | later line pos le behind =>
      rw [h] at line
      obtain ⟨rfl, rfl⟩ := Prod.mk.inj (Except.ok.inj (Option.some.inj line))
      exact Or.inr ⟨pos, le, behind⟩
  · rintro (rfl | ⟨pos, le, behind⟩)
    · exact .here h
    · exact .later h pos le behind

theorem not_announces {body : List UInt8} {message : String} {size : Nat}
    (h : sizeLine body = some (.error message)) : ¬ Announces body size := by
  intro hannounces
  cases hannounces with
  | here line =>
    rw [h] at line
    cases line
  | later line =>
    rw [h] at line
    cases line

/-- Reading chunks panics exactly where a size is announced that has no word two greater. -/
theorem dechunkFrom_isSome (out body : List UInt8) :
    (dechunkFrom out body).isSome = true ↔
      ∀ size, Announces body size → size + 2 ≤ 18446744073709551615 := by
  induction hn : body.length using Nat.strong_induction_on generalizing out body with
  | _ n ih =>
    subst hn
    cases hline : sizeLine body with
    | none =>
      have hsome := sizeLine_isSome body
      rw [hline] at hsome
      exact absurd hsome Bool.false_ne_true
    | some line =>
      cases line with
      | error message =>
        rw [dechunkFrom_error hline]
        exact iff_of_true rfl fun size hsize => absurd hsize (not_announces hline)
      | ok line =>
        obtain ⟨size, rest⟩ := line
        have hlength := length_of_sizeLine hline
        simp only [dechunkFrom_ok hline, announces_iff hline, forall_eq_or_imp]
        split_ifs with hzero hword hshort
        · subst hzero
          simp
        · exact iff_of_false Bool.false_ne_true fun h => absurd h.1 (by omega)
        · refine iff_of_true rfl ⟨by omega, ?_⟩
          rintro other ⟨-, hle, -⟩
          omega
        · have hbehind := ih (rest.drop (size + 2)).length
            (by rw [List.length_drop]; omega) (out ++ rest.take size) _ rfl
          rw [hbehind]
          constructor
          · intro h
            exact ⟨by omega, fun other hother => h other hother.2.2⟩
          · intro h other hother
            exact h.2 other ⟨hzero, by omega, hother⟩

/-- The body of an answer that comes in chunks, if its head is legible. -/
def chunkedBody (response : List UInt8) : Option (List UInt8) :=
  (position headEnd response).bind fun split =>
    ((fromUtf8 (response.take split)).filter fun head => (readStatus head).isSome && isChunked head).map
      fun _ => response.drop (split + 4)

/-- Reading an answer panics exactly where a chunk of it announces such a size. -/
theorem parseResponse_isSome (response : List UInt8) :
    (parseResponse response).isSome = true ↔
      ∀ body ∈ chunkedBody response, ∀ size, Announces body size →
        size + 2 ≤ 18446744073709551615 := by
  unfold parseResponse chunkedBody
  cases hsplit : position headEnd response with
  | none => exact iff_of_true rfl fun body hbody => (nomatch hbody)
  | some split =>
    have hle : split + 4 ≤ response.length := position_add_length_le hsplit
    dsimp only
    rw [Checked.sliceTo_eq_some (by omega), Checked.bind_some, Option.bind_some]
    cases hhead : fromUtf8 (response.take split) with
    | none => exact iff_of_true rfl fun body hbody => (nomatch hbody)
    | some head =>
      dsimp only
      cases hstatus : readStatus head with
      | none =>
        refine iff_of_true rfl fun body hbody => ?_
        simp [hstatus] at hbody
      | some status =>
        dsimp only
        rw [Checked.sliceFrom_eq_some hle, Checked.bind_some]
        by_cases hchunked : isChunked head = true
        · have hread := dechunkFrom_isSome [] (response.drop (split + 4))
          rw [if_pos hchunked, Option.isSome_map, dechunk, hread]
          simp [hstatus, hchunked]
        · rw [if_neg hchunked]
          refine iff_of_true rfl fun body hbody => ?_
          simp [hchunked] at hbody

/-! ## Chunks that are written -/

/-- A line that announces a size: its digits, white space, and an extension behind a semicolon, with
no line break before its end. -/
structure SizeSpelling (size : Nat) where
  digits : List Char
  blank : List Char
  extension : List Char
  digits_ne_nil : digits ≠ []
  digits_eq : Text.digits 16 digits 0 = some size
  blank_isWhitespace : ∀ c ∈ blank, Text.isWhitespace c = true
  extension_begins : extension = [] ∨ extension.head? = some ';'
  noBreak : ¬ lineBreak <:+: Utf8.encode (blank ++ extension)

/-- The size line, without its line end. -/
def SizeSpelling.line {size : Nat} (spelling : SizeSpelling size) : List UInt8 :=
  Utf8.encode (spelling.digits ++ (spelling.blank ++ spelling.extension))

/-- A chunk, with the line that announces it. -/
structure Chunk where
  content : List UInt8
  content_ne_nil : content ≠ []
  spelling : SizeSpelling content.length

/-- A chunk as it is sent. -/
def Chunk.encoding (chunk : Chunk) : List UInt8 :=
  chunk.spelling.line ++ lineBreak ++ chunk.content ++ lineBreak

/-- A body in chunks: the chunks, the chunk of size zero, and anything behind it. -/
def chunkedEncoding (chunks : List Chunk) (last : SizeSpelling 0) (trailer : List UInt8) :
    List UInt8 :=
  chunks.flatMap Chunk.encoding ++ (last.line ++ lineBreak ++ trailer)

/-- A line that holds no line break ends at the first one. -/
theorem position_line {line : List UInt8} (h : ¬ lineBreak <:+: line) (rest : List UInt8) :
    position lineBreak (line ++ lineBreak ++ rest) = some line.length := by
  induction line with
  | nil => rfl
  | cons b line ih =>
    have htail : ¬ lineBreak <:+: line := fun hinfix => h (List.infix_cons hinfix)
    have hnot : ¬ lineBreak.isPrefixOf (b :: (line ++ lineBreak ++ rest)) = true := by
      rw [List.isPrefixOf_iff_prefix, lineBreak, List.cons_prefix_cons]
      rintro ⟨rfl, hsecond⟩
      cases line with
      | nil => exact absurd (List.cons_prefix_cons.1 hsecond).1 (by decide)
      | cons c line =>
        obtain ⟨rfl, -⟩ := List.cons_prefix_cons.1 hsecond
        exact h ⟨[], line, rfl⟩
    rw [List.cons_append, List.cons_append, position, if_neg hnot, ih htail]
    rfl

theorem not_infix_append {before after : List UInt8} (hbefore : 13 ∉ before)
    (h : ¬ lineBreak <:+: after) : ¬ lineBreak <:+: before ++ after := by
  induction before with
  | nil => exact h
  | cons b before ih =>
    rw [List.mem_cons, not_or] at hbefore
    rw [List.cons_append, List.infix_cons_iff, not_or]
    refine ⟨fun hprefix => hbefore.1 (List.cons_prefix_cons.1 hprefix).1, ih hbefore.2⟩

namespace SizeSpelling

variable {size : Nat} (spelling : SizeSpelling size)

theorem digitValue_of_mem {c : Char} (h : c ∈ spelling.digits) :
    ∃ value, Text.digitValue 16 c = some value :=
  Text.digitValue_of_digits spelling.digits_eq c h

theorem not_whitespace {c : Char} (h : c ∈ spelling.digits) : Text.isWhitespace c = false := by
  obtain ⟨value, hvalue⟩ := spelling.digitValue_of_mem h
  have hbounds := Text.digitValue_bounds hvalue
  simp only [Text.isWhitespace, Bool.or_eq_false_iff, Bool.and_eq_false_iff, decide_eq_false_iff_not]
  omega

theorem noBreak_line : ¬ lineBreak <:+: spelling.line := by
  have hreturn : (13 : UInt8) ∉ Utf8.encode spelling.digits := by
    intro hmem
    have hchar := Utf8.mem_of_ascii (Utf8.fromUtf8_encode spelling.digits) hmem (by decide)
    obtain ⟨value, hvalue⟩ := spelling.digitValue_of_mem hchar
    have hnone : Text.digitValue 16 (Char.ofNat (UInt8.toNat 13)) = none := by decide
    rw [hnone] at hvalue
    cases hvalue
  rw [line, Utf8.encode, List.flatMap_append]
  exact not_infix_append hreturn spelling.noBreak

theorem chunkSize_eq (hsize : size ≤ 18446744073709551615) :
    chunkSize (spelling.digits ++ (spelling.blank ++ spelling.extension)) = some size := by
  have hdigit : ∀ c ∈ spelling.digits ++ spelling.blank, decide (c ≠ ';') = true := by
    intro c hc
    rw [decide_eq_true_eq]
    rintro rfl
    rcases List.mem_append.1 hc with hc | hc
    · obtain ⟨value, hvalue⟩ := spelling.digitValue_of_mem hc
      have hnone : Text.digitValue 16 ';' = none := by decide
      rw [hnone] at hvalue
      cases hvalue
    · exact absurd (spelling.blank_isWhitespace _ hc) (by decide)
  have hbefore : (spelling.digits ++ (spelling.blank ++ spelling.extension)).takeWhile
      (fun c => decide (c ≠ ';')) = spelling.digits ++ spelling.blank := by
    rw [← List.append_assoc, List.takeWhile_append_of_pos hdigit]
    rcases spelling.extension_begins with hnil | hhead
    · rw [hnil, List.takeWhile_nil, List.append_nil]
    · obtain ⟨rest, hrest⟩ := List.head?_eq_some_iff.1 hhead
      rw [hrest, List.takeWhile_cons_of_neg (by decide), List.append_nil]
  have htrim : Text.trimmed (spelling.digits ++ spelling.blank) = spelling.digits := by
    have hnone : ∀ c ∈ ([] : List Char), Text.isWhitespace c = true :=
      fun c hc => absurd hc List.not_mem_nil
    exact Text.trimmed_append hnone spelling.blank_isWhitespace spelling.digits_ne_nil
      (spelling.not_whitespace (List.head_mem _)) (spelling.not_whitespace (List.getLast_mem _))
  rw [chunkSize, hbefore, Text.toList_trim, String.toList_ofList, htrim]
  obtain ⟨c, cs, hcs⟩ := List.exists_cons_of_ne_nil spelling.digits_ne_nil
  have hplus : c ≠ '+' := by
    rintro rfl
    have hmem : '+' ∈ spelling.digits := by
      rw [hcs]
      exact List.mem_cons_self
    obtain ⟨value, hvalue⟩ := spelling.digitValue_of_mem hmem
    have hnone : Text.digitValue 16 '+' = none := by decide
    rw [hnone] at hvalue
    cases hvalue
  rw [hcs, Text.parseRadix_cons hplus, ← hcs, spelling.digits_eq]
  exact Option.filter_some_pos (decide_eq_true hsize)

/-- The line is read as the size, with what stands behind it. -/
theorem sizeLine_eq (hsize : size ≤ 18446744073709551615) (rest : List UInt8) :
    sizeLine (spelling.line ++ lineBreak ++ rest) = some (.ok (size, rest)) := by
  have hlength : (lineBreak ++ rest).length = rest.length + 2 := by
    rw [List.length_append]
    exact Nat.add_comm _ _
  have htake : (spelling.line ++ lineBreak ++ rest).take spelling.line.length = spelling.line := by
    rw [List.append_assoc, List.take_left]
  have hdrop : (spelling.line ++ lineBreak ++ rest).drop (spelling.line.length + 2) = rest := by
    rw [List.append_assoc, List.drop_append, List.drop_eq_nil_of_le (by omega),
      Nat.add_sub_cancel_left]
    rfl
  unfold sizeLine
  rw [position_line spelling.noBreak_line]
  dsimp only
  rw [Checked.sliceTo_eq_some (by rw [List.append_assoc, List.length_append]; omega),
    Checked.bind_some, htake, line, Utf8.fromUtf8_encode]
  dsimp only
  rw [spelling.chunkSize_eq hsize]
  dsimp only
  rw [← line, Checked.sliceFrom_eq_some
    (by rw [List.append_assoc, List.length_append, hlength]; omega), Checked.bind_some, hdrop]

end SizeSpelling

/-- Chunks that are written are read back, behind what was read before. -/
theorem dechunkFrom_encoding (out : List UInt8) (chunks : List Chunk) (last : SizeSpelling 0)
    (trailer : List UInt8) (hlength : (chunkedEncoding chunks last trailer).length ≤ 2 ^ 63 - 1) :
    dechunkFrom out (chunkedEncoding chunks last trailer) =
      some (.ok (out ++ chunks.flatMap Chunk.content)) := by
  induction chunks generalizing out with
  | nil =>
    rw [chunkedEncoding, List.flatMap_nil, List.nil_append,
      dechunkFrom_ok (last.sizeLine_eq (by decide) trailer), if_pos rfl, List.flatMap_nil,
      List.append_nil]
  | cons chunk chunks ih =>
    have hsplit : chunkedEncoding (chunk :: chunks) last trailer =
        chunk.spelling.line ++ lineBreak ++
          (chunk.content ++ (lineBreak ++ chunkedEncoding chunks last trailer)) := by
      rw [chunkedEncoding, List.flatMap_cons, Chunk.encoding, chunkedEncoding]
      simp only [List.append_assoc]
    have hbreak : (lineBreak ++ chunkedEncoding chunks last trailer).length =
        (chunkedEncoding chunks last trailer).length + 2 := by
      rw [List.length_append]
      exact Nat.add_comm _ _
    have hpos : chunk.content.length ≠ 0 := fun hzero =>
      chunk.content_ne_nil (List.length_eq_zero_iff.1 hzero)
    rw [hsplit, List.length_append, List.length_append, List.length_append, hbreak] at hlength
    rw [hsplit, dechunkFrom_ok (chunk.spelling.sizeLine_eq (by omega) _), if_neg hpos,
      if_neg (by omega), if_neg (by rw [List.length_append, hbreak]; omega), List.take_left,
      List.drop_append, List.drop_eq_nil_of_le (by omega), Nat.add_sub_cancel_left,
      List.nil_append, List.flatMap_cons, ← List.append_assoc]
    exact ih (out ++ chunk.content) (by omega)

/-- An answer is read without a panic exactly where no chunk of it announces a size that has no word
two greater, and a body that was written in chunks is read back. -/
theorem controller_answers (response : List UInt8) (chunks : List Chunk) (last : SizeSpelling 0)
    (trailer : List UInt8) :
    ((parseResponse response).isSome = true ↔
      ∀ body ∈ chunkedBody response, ∀ size, Announces body size →
        size + 2 ≤ 18446744073709551615) ∧
    ((chunkedEncoding chunks last trailer).length ≤ 2 ^ 63 - 1 →
      dechunk (chunkedEncoding chunks last trailer) =
        some (.ok (chunks.flatMap Chunk.content))) :=
  ⟨parseResponse_isSome response, fun hlength =>
    dechunkFrom_encoding [] chunks last trailer hlength⟩

/-- Four bytes, announced with leading zeros and an extension behind a blank. -/
def wikiChunk : Chunk where
  content := Utf8.encode "Wiki".toList
  content_ne_nil := by decide
  spelling := ⟨"004".toList, [' '], ";name=wiki".toList, by decide, by decide,
    List.forall_mem_singleton.2 (by decide), by decide, by decide⟩

/-- Ten bytes with a line break among them, announced in upper case. -/
def pediaChunk : Chunk where
  content := Utf8.encode "pedia in\r\n".toList
  content_ne_nil := by decide
  spelling := ⟨['A'], [], [], by decide, by decide, List.forall_mem_nil _, by decide, by decide⟩

/-- The shortest line for the end. -/
def lastLine : SizeSpelling 0 :=
  ⟨['0'], [], [], by decide, by decide, List.forall_mem_nil _, by decide, by decide⟩

/-- An answer in two chunks, with a header behind them. -/
def wikiResponse : List UInt8 :=
  Utf8.encode "HTTP/1.1 200 OK\r\nTransfer-Encoding: chunked\r\n\r\n".toList ++
    chunkedEncoding [wikiChunk, pediaChunk] lastLine (Utf8.encode "Expires: 0\r\n\r\n".toList)

theorem controller_answers_wiki :
    ((parseResponse wikiResponse).isSome = true ↔
      ∀ body ∈ chunkedBody wikiResponse, ∀ size, Announces body size →
        size + 2 ≤ 18446744073709551615) ∧
    dechunk (chunkedEncoding [wikiChunk, pediaChunk] lastLine
      (Utf8.encode "Expires: 0\r\n\r\n".toList)) =
        some (.ok (Utf8.encode "Wikipedia in\r\n".toList)) := by
  obtain ⟨hread, hback⟩ := controller_answers wikiResponse [wikiChunk, pediaChunk] lastLine
    (Utf8.encode "Expires: 0\r\n\r\n".toList)
  exact ⟨hread, hback (by decide)⟩

/-- A chunk announces the greatest word. -/
def greatestChunk : List UInt8 :=
  ("HTTP/1.1 200 OK\r\nTransfer-Encoding: chunked\r\n\r\nffffffffffffffff\r\nok".toList).map
    fun c => UInt8.ofNat c.toNat

theorem controller_answers_greatest :
    ¬ ∀ response : List UInt8, (parseResponse response).isSome = true := by
  intro hall
  have hsome := hall greatestChunk
  rw [parseResponse_isSome] at hsome
  have hbody : chunkedBody greatestChunk = some (greatestChunk.drop 47) := by decide +kernel
  have hline : sizeLine (greatestChunk.drop 47) =
      some (.ok (18446744073709551615, greatestChunk.drop 65)) := by
    decide +kernel
  exact absurd (hsome _ hbody _ (.here hline)) (by decide)

end MultiCore.Service
