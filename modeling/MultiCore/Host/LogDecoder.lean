import Mathlib.Data.List.Basic
import Mathlib.Tactic.Common
import MultiCore.Library.Lines
import MultiCore.Library.Utf8

/-!
# Lines of a core's output

What a core writes is read in chunks and given out line by line. A line keeps at
most so many bytes; one that had more is marked. A carriage return is never kept.
-/

namespace MultiCore.Host

open Lines (lines)

/-- `MAX_CAPTURED_LOG_LINE_BYTES`. -/
def maxCapturedLogLineBytes : Nat := 4096

/-- The byte that ends a line. -/
def lineFeed : UInt8 := 0x0A

/-- The byte that may stand before it. -/
def carriageReturn : UInt8 := 0x0D

/-- A line as it is given out. -/
structure LogLine where
  bytes : List UInt8
  truncated : Bool
  deriving DecidableEq

/-- The text the diagnostics get. -/
def LogLine.text (line : LogLine) : List Char :=
  Utf8.fromUtf8Lossy line.bytes ++ if line.truncated then " [truncated]".toList else []

/-- `BoundedLogDecoder`: the line so far, and whether it grew too long. -/
structure BoundedLogDecoder where
  line : List UInt8
  overflowed : Bool
  deriving DecidableEq

namespace BoundedLogDecoder

/-- `BoundedLogDecoder::default`. -/
def new : BoundedLogDecoder := ⟨[], false⟩

/-- The line that was read, and the decoder ready for the next one. -/
def emit (decoder : BoundedLogDecoder) : BoundedLogDecoder × LogLine :=
  (⟨[], false⟩, ⟨decoder.line, decoder.overflowed⟩)

/-- One byte that does not end a line. -/
def absorb (decoder : BoundedLogDecoder) (byte : UInt8) : BoundedLogDecoder :=
  if decoder.line.length < maxCapturedLogLineBytes then
    if byte ≠ carriageReturn then ⟨decoder.line ++ [byte], decoder.overflowed⟩ else decoder
  else ⟨decoder.line, true⟩

/-- Some bytes: the decoder after them, and the lines that ended among them. -/
def feed : BoundedLogDecoder → List UInt8 → BoundedLogDecoder × List LogLine
  | decoder, [] => (decoder, [])
  | decoder, byte :: bytes =>
    if byte = lineFeed then
      let (fresh, line) := decoder.emit
      let (last, given) := feed fresh bytes
      (last, line :: given)
    else feed (decoder.absorb byte) bytes

/-- The end of the stream. -/
def finish (decoder : BoundedLogDecoder) : List LogLine :=
  if !decoder.line.isEmpty || decoder.overflowed then [decoder.emit.2] else []

/-- A stream read in chunks up to its end. -/
def read : BoundedLogDecoder → List (List UInt8) → List LogLine
  | decoder, [] => decoder.finish
  | decoder, chunk :: chunks =>
    let (next, given) := decoder.feed chunk
    given ++ next.read chunks

end BoundedLogDecoder

/-- The lines a stream is given out as. -/
def captured (chunks : List (List UInt8)) : List LogLine := BoundedLogDecoder.new.read chunks

/-- A line without the line feed that ends it. -/
def bodyOf (line : List UInt8) : List UInt8 :=
  if line.getLast? = some lineFeed then line.dropLast else line

/-- What a line says: it ends by a line feed or by a carriage return and a line feed, or it is the
unfinished last one. -/
def contentOf (line : List UInt8) : List UInt8 :=
  if line.getLast? = some lineFeed ∧ (bodyOf line).getLast? = some carriageReturn then
    (bodyOf line).dropLast
  else bodyOf line

/-- A line was given out within the limit, and marked exactly if something of it was dropped. -/
structure Told (line : List UInt8) (given : LogLine) : Prop where
  kept : given.bytes.Sublist (contentOf line)
  bounded : given.bytes.length ≤ maxCapturedLogLineBytes
  marked : given.truncated = true ↔ given.bytes ≠ contentOf line

/-- A stream is given out the same way in whatever chunks it comes, and each of its lines as it
should be. -/
def Captured (stream : List UInt8) : Prop :=
  ∀ chunks : List (List UInt8), chunks.flatten = stream →
    captured chunks = captured [stream] ∧
      List.Forall₂ Told (lines lineFeed stream) (captured chunks)

/-- A carriage return inside a line goes with more bytes than are kept; a line of just as many
bytes as are kept does not end by a carriage return and a line feed. -/
def Regular (line : List UInt8) : Prop :=
  if carriageReturn ∈ contentOf line then
    maxCapturedLogLineBytes ≤ ((bodyOf line).dropLast.filter (· ≠ carriageReturn)).length
  else
    ¬(line = contentOf line ++ [carriageReturn, lineFeed] ∧
      (contentOf line).length = maxCapturedLogLineBytes)

namespace BoundedLogDecoder

theorem feed_append (decoder : BoundedLogDecoder) (bytes others : List UInt8) :
    decoder.feed (bytes ++ others) =
      ((decoder.feed bytes).1.feed others |>.1,
        (decoder.feed bytes).2 ++ ((decoder.feed bytes).1.feed others).2) := by
  induction bytes generalizing decoder with
  | nil => rfl
  | cons byte bytes ih =>
    rw [List.cons_append, feed, feed]
    by_cases hbyte : byte = lineFeed
    · rw [if_pos hbyte, if_pos hbyte]
      simp only [ih, List.cons_append]
    · rw [if_neg hbyte, if_neg hbyte]
      exact ih _

/-- However a stream is cut, its lines are those of the whole. -/
theorem read_eq (decoder : BoundedLogDecoder) (chunks : List (List UInt8)) :
    decoder.read chunks =
      (decoder.feed chunks.flatten).2 ++ (decoder.feed chunks.flatten).1.finish := by
  induction chunks generalizing decoder with
  | nil => rfl
  | cons chunk chunks ih =>
    rw [read, List.flatten_cons, feed_append]
    simp only [ih, List.append_assoc]

/-- What is kept of a line, and whether some of it was dropped for its length. -/
def after (body : List UInt8) : BoundedLogDecoder :=
  ⟨(body.filter (· ≠ carriageReturn)).take maxCapturedLogLineBytes,
    decide (maxCapturedLogLineBytes ≤ (body.dropLast.filter (· ≠ carriageReturn)).length)⟩

theorem after_nil : after [] = new := rfl

/-- A byte takes the decoder from what it keeps of the bytes before to what it keeps with it: as
long as there was room, nothing was left out. -/
theorem absorb_after (body : List UInt8) (byte : UInt8) :
    (after body).absorb byte = after (body ++ [byte]) := by
  have hdrop : (body.dropLast.filter (· ≠ carriageReturn)).length ≤
      (body.filter (· ≠ carriageReturn)).length :=
    ((List.dropLast_sublist body).filter _).length_le
  have htake : (after body).line.length =
      min maxCapturedLogLineBytes (body.filter (· ≠ carriageReturn)).length := List.length_take
  rw [absorb, htake]
  by_cases hroom : (body.filter (· ≠ carriageReturn)).length < maxCapturedLogLineBytes
  · have hbefore : after body = ⟨body.filter (· ≠ carriageReturn), false⟩ := by
      rw [after, List.take_of_length_le (by omega), decide_eq_false (by omega)]
    have hafter : after (body ++ [byte]) =
        ⟨(body ++ [byte]).filter (· ≠ carriageReturn), false⟩ := by
      have hlast : ((body ++ [byte]).filter (· ≠ carriageReturn)).length ≤
          (body.filter (· ≠ carriageReturn)).length + 1 := by
        rw [List.filter_append, List.length_append]
        exact Nat.add_le_add_left (List.length_filter_le _ _) _
      rw [after, List.take_of_length_le (by omega), List.dropLast_concat,
        decide_eq_false (by omega)]
    rw [if_pos (by omega), hafter, hbefore, List.filter_append]
    by_cases hreturn : byte = carriageReturn
    · simp [hreturn]
    · simp [hreturn]
  · have hfull : decide (maxCapturedLogLineBytes ≤
        (body.filter (· ≠ carriageReturn)).length) = true := decide_eq_true (by omega)
    rw [if_neg (by omega), after, after, List.dropLast_concat, hfull, List.filter_append,
      List.take_append_of_le_length (by omega)]

/-- The bytes of a line that has not ended. -/
theorem feed_body {body : List UInt8} (more : List UInt8) (h : lineFeed ∉ more) :
    (after body).feed more = (after (body ++ more), []) := by
  induction more generalizing body with
  | nil => rw [List.append_nil]; rfl
  | cons byte more ih =>
    have hbyte : byte ≠ lineFeed := fun heq => h (heq ▸ List.mem_cons_self)
    have hmore : lineFeed ∉ more := fun hmem => h (List.mem_cons_of_mem _ hmem)
    rw [feed, if_neg hbyte, absorb_after, ih hmore, List.append_assoc, List.singleton_append]

/-- A line and what follows it. -/
theorem feed_line {body : List UInt8} (h : lineFeed ∉ body) (rest : List UInt8) :
    new.feed (body ++ lineFeed :: rest) =
      ((new.feed rest).1, (after body).emit.2 :: (new.feed rest).2) := by
  rw [← after_nil, feed_append, feed_body body h, List.nil_append, feed, if_pos rfl]
  rfl

end BoundedLogDecoder

open BoundedLogDecoder (after finish feed_append feed_body feed_line read_eq after_nil)

theorem captured_eq (chunks : List (List UInt8)) : captured chunks = captured [chunks.flatten] := by
  rw [captured, captured, read_eq, read_eq, List.flatten_singleton]

theorem captured_line {body : List UInt8} (h : lineFeed ∉ body) (rest : List UInt8) :
    captured [body ++ lineFeed :: rest] = (after body).emit.2 :: captured [rest] := by
  simp only [captured, read_eq, List.flatten_singleton, feed_line h, List.cons_append]

theorem captured_unfinished {body : List UInt8} (h : lineFeed ∉ body) :
    captured [body] = (after body).finish := by
  rw [captured, read_eq, List.flatten_singleton, ← after_nil, feed_body body h, List.nil_append,
    List.nil_append]

section Lines

variable {body : List UInt8}

theorem length_filter_eq_iff {content : List UInt8} :
    (content.filter (· ≠ carriageReturn)).length = content.length ↔ carriageReturn ∉ content := by
  rw [List.length_filter_eq_length_iff]
  constructor
  · intro h hmem
    exact absurd rfl (of_decide_eq_true (h _ hmem))
  · intro h byte hbyte
    exact decide_eq_true fun heq => h (heq ▸ hbyte)

/-- All of a text is kept when it has no carriage return and is not too long. -/
theorem take_filter_eq_iff (content : List UInt8) :
    (content.filter (· ≠ carriageReturn)).take maxCapturedLogLineBytes = content ↔
      carriageReturn ∉ content ∧ content.length ≤ maxCapturedLogLineBytes := by
  have hle := List.length_filter_le (· ≠ carriageReturn) content
  constructor
  · intro h
    have hlength := congrArg List.length h
    rw [List.length_take] at hlength
    exact ⟨length_filter_eq_iff.1 (by omega), by omega⟩
  · rintro ⟨hreturn, hlength⟩
    have hall : content.filter (· ≠ carriageReturn) = content :=
      List.filter_eq_self.2 fun byte hbyte => decide_eq_true fun heq => hreturn (heq ▸ hbyte)
    rw [hall, List.take_of_length_le hlength]

theorem filter_return (content : List UInt8) :
    (content ++ [carriageReturn]).filter (· ≠ carriageReturn) =
      content.filter (· ≠ carriageReturn) := by
  simp

/-- What a line keeps is a part of what it says, within the limit. -/
theorem told_iff {line : List UInt8}
    (hcontent : bodyOf line = contentOf line ∨ bodyOf line = contentOf line ++ [carriageReturn]) :
    Told line (after (bodyOf line)).emit.2 ↔
      ((after (bodyOf line)).overflowed = true ↔ (after (bodyOf line)).line ≠ contentOf line) := by
  have hkept : (after (bodyOf line)).line.Sublist (contentOf line) := by
    have hfilter : (bodyOf line).filter (· ≠ carriageReturn) =
        (contentOf line).filter (· ≠ carriageReturn) := by
      rcases hcontent with h | h
      · rw [h]
      · rw [h, filter_return]
    rw [after, hfilter]
    exact (List.take_sublist _ _).trans List.filter_sublist
  exact ⟨fun h => h.marked, fun h => ⟨hkept, List.length_take_le _ _, h⟩⟩

/-- A line whose content is all of it. -/
theorem told_plain (line : List UInt8) (hcontent : bodyOf line = contentOf line)
    (hline : line ≠ contentOf line ++ [carriageReturn, lineFeed]) :
    Told line (after (bodyOf line)).emit.2 ↔ Regular line := by
  have hkept := take_filter_eq_iff (contentOf line)
  have hdrop : ((contentOf line).dropLast.filter (· ≠ carriageReturn)).length ≤
      (contentOf line).length - 1 := by
    rw [← List.length_dropLast]
    exact List.length_filter_le _ _
  rw [told_iff (Or.inl hcontent), Regular, hcontent, after, decide_eq_true_iff]
  by_cases hreturn : carriageReturn ∈ contentOf line
  · rw [if_pos hreturn]
    have hne : ((contentOf line).filter (· ≠ carriageReturn)).take maxCapturedLogLineBytes ≠
        contentOf line := fun heq => (hkept.1 heq).1 hreturn
    exact iff_true_right hne
  · rw [if_neg hreturn]
    have hall : ((contentOf line).dropLast.filter (· ≠ carriageReturn)).length =
        (contentOf line).length - 1 := by
      rw [← List.length_dropLast, length_filter_eq_iff]
      exact fun hmem => hreturn ((List.dropLast_sublist _).mem hmem)
    have hmax : 0 < maxCapturedLogLineBytes := by decide
    rw [hall, ne_eq, hkept]
    constructor
    · intro _ h
      exact hline h.1
    · intro _
      constructor
      · intro hlong h
        omega
      · intro h
        by_contra hshort
        exact h ⟨hreturn, by omega⟩

/-- A line that ends by a carriage return and a line feed. -/
theorem told_return (line : List UInt8)
    (hcontent : bodyOf line = contentOf line ++ [carriageReturn])
    (hline : line = contentOf line ++ [carriageReturn, lineFeed]) :
    Told line (after (bodyOf line)).emit.2 ↔ Regular line := by
  have hkept := take_filter_eq_iff (contentOf line)
  rw [told_iff (Or.inr hcontent), Regular, hcontent, after, decide_eq_true_iff, filter_return,
    List.dropLast_concat]
  by_cases hreturn : carriageReturn ∈ contentOf line
  · rw [if_pos hreturn]
    have hne : ((contentOf line).filter (· ≠ carriageReturn)).take maxCapturedLogLineBytes ≠
        contentOf line := fun heq => (hkept.1 heq).1 hreturn
    exact iff_true_right hne
  · rw [if_neg hreturn, length_filter_eq_iff.2 hreturn, ne_eq, hkept]
    constructor
    · rintro h ⟨-, hlength⟩
      exact h.1 (by omega) ⟨hreturn, by omega⟩
    · intro h
      have hne : (contentOf line).length ≠ maxCapturedLogLineBytes := fun heq => h ⟨hline, heq⟩
      constructor
      · intro hlong hall
        omega
      · intro hall
        by_contra hshort
        exact hall ⟨hreturn, by omega⟩

theorem bodyOf_line (body : List UInt8) : bodyOf (body ++ [lineFeed]) = body := by
  rw [bodyOf, if_pos (List.getLast?_concat ..), List.dropLast_concat]

theorem contentOf_return (content : List UInt8) :
    contentOf (content ++ [carriageReturn] ++ [lineFeed]) = content := by
  rw [contentOf, bodyOf_line, List.dropLast_concat,
    if_pos ⟨List.getLast?_concat .., List.getLast?_concat ..⟩]

/-- A finished line is given out as it should be when it is a regular one. -/
theorem told_finished (body : List UInt8) :
    Told (body ++ [lineFeed]) (after body).emit.2 ↔ Regular (body ++ [lineFeed]) := by
  have hbody := bodyOf_line body
  by_cases hreturn : body.getLast? = some carriageReturn
  · obtain ⟨content, rfl⟩ : ∃ content, body = content ++ [carriageReturn] :=
      ⟨body.dropLast, (List.dropLast_append_getLast? _ hreturn).symm⟩
    have hcontent := contentOf_return content
    have h := told_return (content ++ [carriageReturn] ++ [lineFeed])
      (by rw [hbody, hcontent]) (by rw [hcontent, List.append_assoc]; rfl)
    rw [hbody] at h
    exact h
  · have hcontent : contentOf (body ++ [lineFeed]) = body := by
      rw [contentOf, hbody, if_neg fun h => hreturn h.2]
    have h := told_plain (body ++ [lineFeed]) (by rw [hbody, hcontent]) (by
      rw [hcontent]
      intro heq
      have hlength := congrArg List.length heq
      simp at hlength)
    rw [hbody] at h
    exact h

theorem not_regular_of_full {content : List UInt8} (hreturn : carriageReturn ∉ content)
    (hfull : content.length = maxCapturedLogLineBytes) :
    ¬Regular (content ++ [carriageReturn] ++ [lineFeed]) := by
  intro h
  rw [Regular, contentOf_return, if_neg hreturn] at h
  exact h ⟨List.append_assoc _ _ _, hfull⟩

/-- A line without a line feed. -/
theorem told_last (h : lineFeed ∉ body) : Told body (after body).emit.2 ↔ Regular body := by
  have hlast : body.getLast? ≠ some lineFeed := fun heq => h (List.mem_of_getLast? heq)
  have hbody : bodyOf body = body := if_neg hlast
  have hcontent : contentOf body = body := by
    rw [contentOf, hbody, if_neg fun hend => hlast hend.1]
  have hplain := told_plain body (by rw [hbody, hcontent]) (by
    rw [hcontent]
    intro heq
    have hlength := congrArg List.length heq
    simp at hlength)
  rw [hbody] at hplain
  exact hplain

/-- A last line of which nothing is kept has only carriage returns. -/
theorem not_regular_of_empty (h : lineFeed ∉ body) (hne : body ≠ [])
    (hempty : (after body).line = []) : ¬Regular body := by
  have hlast : body.getLast? ≠ some lineFeed := fun heq => h (List.mem_of_getLast? heq)
  have hbody : bodyOf body = body := if_neg hlast
  have hcontent : contentOf body = body := by
    rw [contentOf, hbody, if_neg fun hend => hlast hend.1]
  have hmax : 0 < maxCapturedLogLineBytes := by decide
  have hnothing : body.filter (· ≠ carriageReturn) = [] := by
    rcases List.take_eq_nil_iff.1 hempty with hzero | hnothing
    · omega
    · exact hnothing
  have hdrop : ((body.dropLast.filter (· ≠ carriageReturn))).length ≤
      (body.filter (· ≠ carriageReturn)).length :=
    ((List.dropLast_sublist body).filter _).length_le
  have hreturn : carriageReturn ∈ body := by
    by_contra hnot
    have hlength := length_filter_eq_iff.2 hnot
    rw [hnothing] at hlength
    exact hne (List.length_eq_zero_iff.1 hlength.symm)
  rw [Regular, hcontent, if_pos hreturn, hbody]
  rw [hnothing, List.length_nil] at hdrop
  omega

/-- An unfinished last line is given out, unless nothing of it is kept. -/
theorem told_unfinished (h : lineFeed ∉ body) (hne : body ≠ []) :
    List.Forall₂ Told [body] (after body).finish ↔ Regular body := by
  rw [finish]
  by_cases hgiven : (!(after body).line.isEmpty || (after body).overflowed) = true
  · rw [if_pos hgiven, List.forall₂_cons, told_last h]
    exact and_iff_left .nil
  · rw [if_neg hgiven]
    have hempty : (after body).line = [] := by
      simp only [Bool.or_eq_true, Bool.not_eq_true', not_or, Bool.not_eq_false,
        List.isEmpty_iff] at hgiven
      exact hgiven.1
    exact iff_of_false (fun hnone => nomatch hnone) (not_regular_of_empty h hne hempty)

end Lines

/-- How a stream is given out is how it is in one chunk. -/
theorem captured_whole (stream : List UInt8) :
    Captured stream ↔ List.Forall₂ Told (lines lineFeed stream) (captured [stream]) := by
  constructor
  · intro h
    exact (h [stream] List.flatten_singleton).2
  · rintro h chunks rfl
    rw [captured_eq]
    exact ⟨rfl, h⟩

/-- A stream is given out as it should be exactly when its lines are regular ones. -/
theorem captured_iff (stream : List UInt8) :
    Captured stream ↔ ∀ line ∈ lines lineFeed stream, Regular line := by
  rw [captured_whole]
  induction stream using Lines.induction_lines lineFeed with
  | nil =>
    have hnone : captured [[]] = [] := rfl
    rw [hnone, Lines.lines_nil]
    exact iff_of_true .nil fun _ hmem => absurd hmem List.not_mem_nil
  | unfinished body hbody hne =>
    rw [Lines.lines_unfinished hbody hne, captured_unfinished hbody, List.forall_mem_singleton,
      told_unfinished hbody hne]
  | line body rest hbody ih =>
    rw [Lines.lines_line hbody, captured_line hbody, List.forall₂_cons, List.forall_mem_cons,
      told_finished, ih]

/-- A line that just fits. -/
def fullLine : List UInt8 := List.replicate maxCapturedLogLineBytes 65

/-- A line that just fits and ends by a carriage return and a line feed loses nothing, but is
marked. -/
theorem not_captured_fullLine : ¬Captured (fullLine ++ [carriageReturn, lineFeed]) := by
  intro h
  have hreturn : carriageReturn ∉ fullLine := by
    rw [fullLine, List.mem_replicate]
    decide
  have hbody : lineFeed ∉ fullLine ++ [carriageReturn] := by
    rw [List.mem_append, fullLine, List.mem_replicate]
    decide
  have hfull : fullLine.length = maxCapturedLogLineBytes := List.length_replicate
  generalize fullLine = line at h hreturn hbody hfull
  have hlines := (captured_whole _).1 h
  have hstream : line ++ [carriageReturn, lineFeed] =
      (line ++ [carriageReturn]) ++ lineFeed :: [] := by simp
  rw [hstream, Lines.lines_line hbody, captured_line hbody, List.forall₂_cons] at hlines
  exact not_regular_of_full hreturn hfull ((told_finished _).1 hlines.1)

end MultiCore.Host
