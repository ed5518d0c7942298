import MultiCore.Library.Paging
import MultiCore.Service.LogPages

/-!
# Paging through the core journal

A client reads the journal from its oldest segment on and passes each cursor
back. The cursor says a segment by the number in its name, which is read as a
number: names that differ in leading zeros say the same one. Where no two
segments do, the cursors advance and the pages hold every finished line once.
Where two do, the end of the first leads back to its beginning.
-/

namespace MultiCore

open Utf8 Lines

/-- `u64::MAX`: no segment starts later. -/
def maxSegmentStart : Nat := 18446744073709551615

/-- The start in the name of a segment. -/
def segmentStart (name : String) : Option Nat := do
  let digits ← Text.stripPrefix name "core-"
  let digits ← Text.stripSuffix digits ".log"
  if digits.toList = [] ∨ 20 < digits.toList.length ∨ digits.toList.all Text.isDigit = false then
    none
  else Text.parseUnsigned maxSegmentStart digits

/-- A regular file in the journal's directory. -/
structure JournalFile where
  name : String
  modifiedMs : Option Nat
  content : List UInt8

/-- The file as it is listed and read. -/
def JournalFile.entry (file : JournalFile) : JournalEntry :=
  { startMs := segmentStart file.name, isFile := true, len := file.content.length,
    modifiedMs := file.modifiedMs, content := some file.content }

/-- The segments written at or after a time. -/
def segmentsSince (directory : List JournalEntry) (sinceMs : Nat) : List JournalSegment :=
  (journalSegments directory).filter fun segment => sinceMs ≤ segment.modifiedMs

/-- The lines of a file that are finished. -/
def finishedLines (content : List UInt8) : List (List UInt8) :=
  (lines newline content).filter fun row => row.getLast? = some newline

/-- A line is no longer than a page, and one that is not finished yet would not be either. -/
def FitsPage (maxBytes : Nat) (row : List UInt8) : Prop :=
  row.length ≤ maxBytes ∧ (row.getLast? ≠ some newline → row.length < maxBytes)

instance (maxBytes : Nat) (row : List UInt8) : Decidable (FitsPage maxBytes row) :=
  inferInstanceAs (Decidable (_ ∧ _))

/-- Each call is given the cursor that the one before it returned. -/
def journalReader (directory : List JournalEntry) (sinceMs maxBytes : Nat)
    (cursor : Option CoreJournalCursor) : List Char × Option (Option CoreJournalCursor) :=
  let (text, next) := readJournalChunk directory sinceMs cursor maxBytes
  (text, next.map some)

/-- The first cursor is before the second; no cursor stands for the very beginning. -/
def Precedes : Option CoreJournalCursor → Option CoreJournalCursor → Prop
  | none, some _ => True
  | some a, some b => a.segment < b.segment ∨ a.segment = b.segment ∧ a.offset < b.offset
  | _, none => False

/-- From the beginning on, the cursors advance, the pages end, and they hold the finished lines of
the segments in order. -/
def PagesThrough (directory : List JournalEntry) (sinceMs maxBytes : Nat) : Prop :=
  ∃ pages cursors, Paging.Run (journalReader directory sinceMs maxBytes) none pages cursors ∧
    (none :: cursors).Pairwise Precedes ∧
    pages.flatten = ((segmentsSince directory sinceMs).flatMap fun segment =>
      finishedLines (segment.content.getD [])).flatMap fromUtf8Lossy

section Finished

/-- All lines of a text that stops at the end of a line are finished. -/
theorem finished_of_ends {content : List UInt8} (h : Ends newline content) :
    ∀ row ∈ lines newline content, row.getLast? = some newline := by
  induction content using induction_lines newline with
  | nil => exact fun row hrow => absurd hrow List.not_mem_nil
  | unfinished body hbody hne =>
    rcases h with h | h
    · exact absurd h hne
    · exact absurd (List.mem_of_getLast? h) hbody
  | line body rest hbody ih =>
    have hsplit : body ++ newline :: rest = (body ++ [newline]) ++ rest := by simp
    rw [hsplit] at h
    intro row hrow
    rw [lines_line hbody] at hrow
    rcases List.mem_cons.1 hrow with rfl | hrow
    · simp
    · exact ih h.of_append row hrow

/-- What stands before the end of a line is finished. -/
theorem finishedLines_append {page : List UInt8} (h : Ends newline page) (rest : List UInt8) :
    finishedLines (page ++ rest) = lines newline page ++ finishedLines rest := by
  rw [finishedLines, lines_append h, List.filter_append, finishedLines]
  congr 1
  rw [List.filter_eq_self]
  intro row hrow
  exact decide_eq_true (finished_of_ends h row hrow)

/-- Nothing is finished without the end of a line. -/
theorem finishedLines_unfinished {rest : List UInt8} (h : newline ∉ rest) :
    finishedLines rest = [] := by
  by_cases hne : rest = []
  · rw [hne]
    rfl
  · have hlast : rest.getLast? ≠ some newline := fun heq => h (List.mem_of_getLast? heq)
    rw [finishedLines, lines_unfinished h hne, List.filter_cons_of_neg (by simpa using hlast)]
    rfl

/-- The text of some bytes is that of their lines. -/
theorem fromUtf8Lossy_lines (bytes : List UInt8) :
    fromUtf8Lossy bytes = (lines newline bytes).flatMap fromUtf8Lossy := by
  induction bytes using induction_lines newline with
  | nil => rfl
  | unfinished body hbody hne => rw [lines_unfinished hbody hne, List.flatMap_singleton]
  | line body rest hbody ih =>
    have hempty : fromUtf8Lossy ([] : List UInt8) = [] := rfl
    rw [lines_line hbody, List.flatMap_cons, ← ih, fromUtf8Lossy_newline, fromUtf8Lossy_newline,
      hempty, List.append_assoc, List.singleton_append]

end Finished

section Page

/-- What is served of bytes with the end of a line in them. -/
theorem journalCut_line (maxBytes : Nat) {bytes : List UInt8} (h : newline ∈ bytes) :
    0 < journalCut maxBytes bytes ∧ journalCut maxBytes bytes ≤ bytes.length ∧
      Ends newline (bytes.take (journalCut maxBytes bytes)) := by
  cases hlast : bytes.reverse.idxOf? newline with
  | none => exact absurd (List.mem_reverse.2 h) (List.idxOf?_eq_none_iff.1 hlast)
  | some i =>
    have hcut : journalCut maxBytes bytes = bytes.length - i := by
      rw [journalCut, lastLineEnd, hlast, Option.map_some]
    have hi : i < bytes.length := by
      obtain ⟨hi, -⟩ := List.idxOf?_eq_some_iff.1 hlast
      rwa [List.length_reverse] at hi
    refine ⟨by omega, by omega, ?_⟩
    rcases journalCut_cases maxBytes bytes with hends | ⟨-, hnone, -⟩
    · exact hends
    · exact absurd h hnone

/-- What is served of bytes without the end of a line. -/
theorem journalCut_unfinished {maxBytes : Nat} {bytes : List UInt8} (h : newline ∉ bytes)
    (hshort : bytes.length < max maxBytes 1) : journalCut maxBytes bytes = 0 := by
  have hlast : bytes.reverse.idxOf? newline = none := by
    rw [List.idxOf?_eq_none_iff, List.mem_reverse]
    exact h
  rw [journalCut, lastLineEnd, hlast, Option.map_none]
  exact if_neg (Nat.not_le.2 hshort)

/-- A page without the end of a line holds all the rest, if the lines fit. -/
theorem short_of_unfinished {maxBytes : Nat} {rest : List UInt8}
    (hfits : ∀ row ∈ lines newline rest, FitsPage maxBytes row)
    (h : newline ∉ rest.take maxBytes) (hpositive : 0 < maxBytes) :
    newline ∉ rest ∧ rest.length < maxBytes := by
  induction rest using induction_lines newline with
  | nil => exact ⟨List.not_mem_nil, hpositive⟩
  | unfinished body hbody hne =>
    have hrow := hfits body (by rw [lines_unfinished hbody hne]; exact List.mem_singleton_self _)
    have hlast : body.getLast? ≠ some newline := fun heq => hbody (List.mem_of_getLast? heq)
    exact ⟨hbody, hrow.2 hlast⟩
  | line body later hbody ih =>
    exfalso
    apply h
    have hrow := hfits (body ++ [newline]) (by rw [lines_line hbody]; exact List.mem_cons_self)
    have hlength := hrow.1
    rw [List.length_append, List.length_singleton] at hlength
    rw [List.mem_take_iff_getElem]
    refine ⟨body.length, ?_, ?_⟩
    · rw [List.length_append, List.length_cons]
      omega
    · simp

end Page

section Reading

variable {directory : List JournalEntry} {sinceMs maxBytes : Nat}

/-- Where the cursor is among the segments: at an offset of one of them. -/
structure StandsAt (segments : List JournalSegment) (cursor : Option CoreJournalCursor)
    (before : List JournalSegment) (segment : JournalSegment) (after : List JournalSegment)
    (offset : Nat) : Prop where
  split : segments = before ++ segment :: after
  cursor : cursor = some ⟨segment.startMs, offset⟩ ∨ cursor = none ∧ before = [] ∧ offset = 0

/-- The segment a cursor says is found where no other has its start. -/
theorem StandsAt.journalPosition_eq {segments : List JournalSegment}
    {cursor : Option CoreJournalCursor} {before : List JournalSegment} {segment : JournalSegment}
    {after : List JournalSegment} {offset : Nat}
    (hincreasing : segments.Pairwise fun a b => a.startMs < b.startMs)
    (h : StandsAt segments cursor before segment after offset) :
    journalPosition segments cursor = some (before.length, offset) := by
  obtain ⟨rfl, rfl | ⟨rfl, rfl, rfl⟩⟩ := h
  · have hearlier : ∀ other ∈ before, other.startMs < segment.startMs :=
      fun other hother => (List.pairwise_append.1 hincreasing).2.2 other hother segment
        List.mem_cons_self
    have hfind : (before ++ segment :: after).findIdx?
        (fun other => segment.startMs ≤ other.startMs) = some before.length := by
      rw [List.findIdx?_append, List.findIdx?_eq_none_iff.2]
      · simp [List.findIdx?_cons]
      · intro other hother
        simpa using hearlier other hother
    simp [journalPosition, hfind]
  · simp [journalPosition]

/-- The cursor of the segment after one, if there is one. -/
def followingCursor (after : List JournalSegment) : Option CoreJournalCursor :=
  after.head?.map fun next => ⟨next.startMs, 0⟩

/-- A page holds finished lines from the cursor on, and what is left is in the same segment, or
holds no finished line and the next segment follows. -/
theorem readJournalChunk_at {cursor : Option CoreJournalCursor} {before : List JournalSegment}
    {segment : JournalSegment} {after : List JournalSegment} {offset : Nat} {content : List UInt8}
    (hincreasing : (segmentsSince directory sinceMs).Pairwise fun a b => a.startMs < b.startMs)
    (h : StandsAt (segmentsSince directory sinceMs) cursor before segment after offset)
    (hcontent : segment.content = some content) (hlen : segment.len = content.length)
    (hline : Ends newline (content.take offset))
    (hfits : ∀ row ∈ lines newline content, FitsPage (max maxBytes 1) row) :
    ∃ page rest, content.drop offset = page ++ rest ∧ Ends newline page ∧
      (newline ∉ rest ∧ readJournalChunk directory sinceMs cursor maxBytes =
          (fromUtf8Lossy page, followingCursor after) ∨
        page ≠ [] ∧ readJournalChunk directory sinceMs cursor maxBytes =
          (fromUtf8Lossy page, some ⟨segment.startMs, offset + page.length⟩)) := by
  generalize hP : max maxBytes 1 = P at hfits
  have hpositive : 0 < P := by omega
  have hrestfits : ∀ row ∈ lines newline (content.drop offset), FitsPage P row := by
    intro row hrow
    apply hfits
    rw [← List.take_append_drop offset content, lines_append hline]
    exact List.mem_append_right _ hrow
  have hbytes : window content offset (offset + P) = (content.drop offset).take P := by
    rw [window, Nat.add_sub_cancel_left]
  -- what the call is once its position is known
  have hread : readJournalChunk directory sinceMs cursor maxBytes =
      if ((content.drop offset).take P).isEmpty then ([], followingCursor after)
      else (fromUtf8Lossy (((content.drop offset).take P).take
          (journalCut maxBytes ((content.drop offset).take P))),
        if 0 < journalCut maxBytes ((content.drop offset).take P) ∧
            offset + journalCut maxBytes ((content.drop offset).take P) < content.length then
          some ⟨segment.startMs, offset + journalCut maxBytes ((content.drop offset).take P)⟩
        else followingCursor after) := by
    have hposition := h.journalPosition_eq hincreasing
    have hsplit := h.split
    have hat : (segmentsSince directory sinceMs)[before.length]? = some segment := by
      simp [hsplit]
    have hfollowing : (segmentsSince directory sinceMs)[before.length + 1]?.map
        (fun next => (⟨next.startMs, 0⟩ : CoreJournalCursor)) = followingCursor after := by
      have hnext : (before ++ segment :: after)[before.length + 1]? = after.head? := by
        rw [List.getElem?_append_right (Nat.le_add_right _ 1), Nat.add_sub_cancel_left,
          List.getElem?_cons_succ, List.head?_eq_getElem?]
      rw [hsplit, hnext, followingCursor]
    unfold segmentsSince at hposition hat hfollowing
    simp only [readJournalChunk, hposition, hat, hfollowing, hcontent, hlen, hP, hbytes,
      Option.map_some, Option.getD_some]
  generalize hrest : content.drop offset = rest at hread hrestfits
  have hlength : rest.length = content.length - offset := by
    rw [← hrest, List.length_drop]
  by_cases hnew : newline ∈ rest.take P
  · obtain ⟨hcut, hle, hends⟩ := journalCut_line maxBytes hnew
    generalize journalCut maxBytes (rest.take P) = cut at hread hcut hle hends
    rw [List.length_take] at hle
    have htake : (rest.take P).take cut = rest.take cut := by
      rw [List.take_take, Nat.min_eq_left (by omega)]
    rw [htake] at hends hread
    have hnonempty : (rest.take P).isEmpty = false := by
      rw [List.isEmpty_eq_false_iff_exists_mem]
      exact ⟨newline, hnew⟩
    have hpage : (rest.take cut).length = cut := by
      rw [List.length_take]
      omega
    rw [hnonempty, if_neg Bool.false_ne_true] at hread
    refine ⟨rest.take cut, rest.drop cut, (List.take_append_drop _ _).symm, hends, ?_⟩
    by_cases hmore : offset + cut < content.length
    · right
      rw [if_pos ⟨hcut, hmore⟩] at hread
      rw [hpage]
      refine ⟨?_, hread⟩
      intro hempty
      rw [hempty, List.length_nil] at hpage
      omega
    · left
      rw [if_neg (fun hboth => hmore hboth.2)] at hread
      have hdone : rest.drop cut = [] := List.drop_eq_nil_iff.2 (by omega)
      rw [hdone]
      exact ⟨List.not_mem_nil, hread⟩
  · obtain ⟨hnone, hshort⟩ := short_of_unfinished hrestfits hnew hpositive
    have htake : rest.take P = rest := List.take_of_length_le (by omega)
    have hcut : journalCut maxBytes rest = 0 :=
      journalCut_unfinished hnone (by omega)
    rw [htake, hcut] at hread
    refine ⟨[], rest, rfl, .nil, Or.inl ⟨hnone, ?_⟩⟩
    have hempty : fromUtf8Lossy ([] : List UInt8) = [] := rfl
    rw [hread]
    simp [hempty]

end Reading

section Ending

variable {directory : List JournalEntry} {sinceMs maxBytes : Nat}

/-- A segment that is read as it was listed, with lines that fit. -/
def PageReady (maxBytes : Nat) (segment : JournalSegment) : Prop :=
  ∃ content, segment.content = some content ∧ segment.len = content.length ∧
    ∀ row ∈ lines newline content, FitsPage (max maxBytes 1) row

/-- The finished lines of some segments. -/
def finishedIn (segments : List JournalSegment) : List (List UInt8) :=
  segments.flatMap fun segment => finishedLines (segment.content.getD [])

/-- From the cursor on, these finished lines are left. -/
def LeftAt (segments : List JournalSegment) (cursor : Option CoreJournalCursor)
    (rows : List (List UInt8)) : Prop :=
  ∃ before segment after offset content, StandsAt segments cursor before segment after offset ∧
    segment.content = some content ∧ offset ≤ content.length ∧
    Ends newline (content.take offset) ∧
    rows = finishedLines (content.drop offset) ++ finishedIn after

/-- How much is left to read of some segments; an empty one takes a call as well. -/
def sizeLeft : List JournalSegment → Nat
  | [] => 0
  | segment :: rest => segment.len + 1 + sizeLeft rest

/-- How much is left to read from a cursor on. -/
def sizeAt (segments : List JournalSegment) (cursor : Option CoreJournalCursor) : Nat :=
  match journalPosition segments cursor with
  | none => 0
  | some (index, offset) => sizeLeft (segments.drop index) - offset

theorem StandsAt.sizeAt_eq {segments : List JournalSegment} {cursor : Option CoreJournalCursor}
    {before : List JournalSegment} {segment : JournalSegment} {after : List JournalSegment}
    {offset : Nat} (hincreasing : segments.Pairwise fun a b => a.startMs < b.startMs)
    (h : StandsAt segments cursor before segment after offset) :
    sizeAt segments cursor = segment.len + 1 + sizeLeft after - offset := by
  rw [sizeAt, h.journalPosition_eq hincreasing, h.split]
  simp only [List.drop_left, sizeLeft]

/-- The cursor of the segment that follows stands at its beginning. -/
theorem StandsAt.following {segments : List JournalSegment} {cursor : Option CoreJournalCursor}
    {before : List JournalSegment} {segment next : JournalSegment} {after : List JournalSegment}
    {offset : Nat} (h : StandsAt segments cursor before segment (next :: after) offset) :
    StandsAt segments (some ⟨next.startMs, 0⟩) (before ++ [segment]) next after 0 where
  split := by rw [h.split, List.append_assoc, List.singleton_append]
  cursor := Or.inl rfl

theorem StandsAt.precedes_following {segments : List JournalSegment}
    {cursor : Option CoreJournalCursor} {before : List JournalSegment}
    {segment next : JournalSegment} {after : List JournalSegment} {offset : Nat}
    (hincreasing : segments.Pairwise fun a b => a.startMs < b.startMs)
    (h : StandsAt segments cursor before segment (next :: after) offset) :
    Precedes cursor (some ⟨next.startMs, 0⟩) := by
  have hlt : segment.startMs < next.startMs := by
    rw [h.split] at hincreasing
    exact (List.pairwise_cons.1 (List.pairwise_append.1 hincreasing).2.1).1 next
      List.mem_cons_self
  obtain ⟨-, rfl | ⟨rfl, -, -⟩⟩ := h
  · exact Or.inl hlt
  · exact trivial

/-- The cursor stands further on in its segment. -/
theorem StandsAt.forward {segments : List JournalSegment} {cursor : Option CoreJournalCursor}
    {before : List JournalSegment} {segment : JournalSegment} {after : List JournalSegment}
    {offset : Nat} (h : StandsAt segments cursor before segment after offset) {count : Nat}
    (hcount : 0 < count) :
    StandsAt segments (some ⟨segment.startMs, offset + count⟩) before segment after
        (offset + count) ∧
      Precedes cursor (some ⟨segment.startMs, offset + count⟩) := by
  constructor
  · exact ⟨h.split, Or.inl rfl⟩
  · rcases h.cursor with rfl | ⟨rfl, -, -⟩
    · exact Or.inr ⟨rfl, Nat.lt_add_of_pos_right hcount⟩
    · exact trivial

/-- A call returns the next of the lines that are left. It was the last one where nothing is left;
otherwise its cursor is after the one it was given. -/
theorem paging_step
    (hincreasing : (segmentsSince directory sinceMs).Pairwise fun a b => a.startMs < b.startMs)
    (hready : ∀ segment ∈ segmentsSince directory sinceMs, PageReady maxBytes segment)
    {cursor : Option CoreJournalCursor} {rows : List (List UInt8)}
    (h : LeftAt (segmentsSince directory sinceMs) cursor rows) :
    readJournalChunk directory sinceMs cursor maxBytes = (rows.flatMap fromUtf8Lossy, none) ∨
      ∃ page next rest, readJournalChunk directory sinceMs cursor maxBytes = (page, some next) ∧
        LeftAt (segmentsSince directory sinceMs) (some next) rest ∧
        rows.flatMap fromUtf8Lossy = page ++ rest.flatMap fromUtf8Lossy ∧
        Precedes cursor (some next) ∧
        sizeAt (segmentsSince directory sinceMs) (some next) <
          sizeAt (segmentsSince directory sinceMs) cursor := by
  obtain ⟨before, segment, after, offset, content, hstands, hcontent, hoffset, hline, rfl⟩ := h
  have hmem : segment ∈ segmentsSince directory sinceMs := by
    rw [hstands.split]
    exact List.mem_append_right _ List.mem_cons_self
  have hsize := hstands.sizeAt_eq hincreasing
  obtain ⟨content', hcontent', hlen, hfits⟩ := hready segment hmem
  have hsame : content' = content := by
    rw [hcontent] at hcontent'
    exact (Option.some.inj hcontent').symm
  rw [hsame] at hlen hfits
  obtain ⟨page, rest, hdrop, hends, hread⟩ :=
    readJournalChunk_at hincreasing hstands hcontent hlen hline hfits
  have hlines : (finishedLines (content.drop offset) ++ finishedIn after).flatMap fromUtf8Lossy =
      fromUtf8Lossy page ++ (finishedLines rest ++ finishedIn after).flatMap fromUtf8Lossy := by
    rw [hdrop, finishedLines_append hends, List.append_assoc, List.flatMap_append,
      ← fromUtf8Lossy_lines]
  rcases hread with ⟨hnone, hread⟩ | ⟨hpage, hread⟩
  · rw [finishedLines_unfinished hnone, List.nil_append] at hlines
    cases after with
    | nil =>
      left
      rw [hread, hlines]
      simp [finishedIn, followingCursor]
    | cons next after =>
      right
      have hnext : next ∈ segmentsSince directory sinceMs := by
        rw [hstands.split]
        exact List.mem_append_right _ (List.mem_cons_of_mem _ List.mem_cons_self)
      obtain ⟨nextContent, hnextContent, -, -⟩ := hready next hnext
      have hrows : finishedIn (next :: after) =
          finishedLines (nextContent.drop 0) ++ finishedIn after := by
        rw [finishedIn, List.flatMap_cons, hnextContent]
        rfl
      refine ⟨_, _, _, hread, ?_, hlines, hstands.precedes_following hincreasing, ?_⟩
      · exact ⟨_, next, after, 0, nextContent, hstands.following, hnextContent, Nat.zero_le _,
          .nil, hrows⟩
      · rw [hsize, hstands.following.sizeAt_eq hincreasing, sizeLeft]
        omega
  · right
    have hpositive : 0 < page.length := List.length_pos_iff.2 hpage
    have hlength : page.length + rest.length = content.length - offset := by
      rw [← List.length_append, ← hdrop, List.length_drop]
    obtain ⟨hforward, hprecedes⟩ := hstands.forward hpositive
    refine ⟨_, _, _, hread, ⟨before, segment, after, offset + page.length, content, hforward,
      hcontent, by omega, ?_, rfl⟩, ?_, hprecedes, ?_⟩
    · rw [List.take_add, hdrop, List.take_left]
      rcases hends with hnil | hlast
      · exact absurd hnil hpage
      · right
        rw [List.getLast?_append_of_ne_nil _ hpage]
        exact hlast
    · rw [hlines, ← List.drop_drop, hdrop, List.drop_left]
    · rw [hsize, hforward.sizeAt_eq hincreasing]
      omega

theorem Precedes.trans {a b c : Option CoreJournalCursor} (hab : Precedes a b)
    (hbc : Precedes b c) : Precedes a c := by
  cases a with
  | none =>
    cases c with
    | none => cases b <;> exact hbc
    | some c => trivial
  | some a =>
    cases b with
    | none => exact absurd hab id
    | some b =>
      cases c with
      | none => exact hbc
      | some c =>
        simp only [Precedes] at hab hbc ⊢
        omega

/-- Where each segment has a start of its own, the pages end and hold all finished lines. -/
theorem pagesThrough_of_increasing
    (hincreasing : (segmentsSince directory sinceMs).Pairwise fun a b => a.startMs < b.startMs)
    (hready : ∀ segment ∈ segmentsSince directory sinceMs, PageReady maxBytes segment) :
    PagesThrough directory sinceMs maxBytes := by
  by_cases hempty : segmentsSince directory sinceMs = []
  · have hread : journalReader directory sinceMs maxBytes none = ([], none) := by
      unfold segmentsSince at hempty
      simp [journalReader, readJournalChunk, hempty, journalPosition]
    refine ⟨_, _, Paging.Run.last hread, List.pairwise_singleton _ _, ?_⟩
    rw [hempty]
    rfl
  · obtain ⟨first, after, hsegments⟩ := List.exists_cons_of_ne_nil hempty
    obtain ⟨content, hcontent, -, -⟩ :=
      hready first (by rw [hsegments]; exact List.mem_cons_self)
    have hleft : LeftAt (segmentsSince directory sinceMs) none
        (finishedIn (segmentsSince directory sinceMs)) := by
      refine ⟨[], first, after, 0, content, ⟨hsegments, Or.inr ⟨rfl, rfl, rfl⟩⟩, hcontent,
        Nat.zero_le _, .nil, ?_⟩
      rw [hsegments, finishedIn, List.flatMap_cons, hcontent]
      rfl
    have hlast : ∀ cursor rows page, LeftAt (segmentsSince directory sinceMs) cursor rows →
        journalReader directory sinceMs maxBytes cursor = (page, none) →
        [page].flatten = rows.flatMap fromUtf8Lossy := by
      intro cursor rows page h hread
      rcases paging_step hincreasing hready h with hlast | ⟨_, _, _, hmore, -⟩
      · simp only [journalReader, hlast, Option.map_none, Prod.mk.injEq, and_true] at hread
        simp [hread]
      · simp [journalReader, hmore] at hread
    have hmore : ∀ cursor rows page next, LeftAt (segmentsSince directory sinceMs) cursor rows →
        journalReader directory sinceMs maxBytes cursor = (page, some next) →
        ∃ rest, LeftAt (segmentsSince directory sinceMs) next rest ∧
          rows.flatMap fromUtf8Lossy = page ++ rest.flatMap fromUtf8Lossy ∧
          Precedes cursor next ∧ sizeAt (segmentsSince directory sinceMs) next <
            sizeAt (segmentsSince directory sinceMs) cursor := by
      intro cursor rows page next h hread
      rcases paging_step hincreasing hready h with hlast | ⟨_, _, rest, hmore, hrest⟩
      · simp [journalReader, hlast] at hread
      · simp only [journalReader, hmore, Option.map_some, Prod.mk.injEq, Option.some.injEq] at hread
        obtain ⟨rfl, rfl⟩ := hread
        exact ⟨rest, hrest⟩
    obtain ⟨pages, cursors, hrun, hpages⟩ := Paging.exists_run
      (LeftAt (segmentsSince directory sinceMs))
      (fun pages rows => pages.flatten = rows.flatMap fromUtf8Lossy)
      (sizeAt (segmentsSince directory sinceMs)) hlast
      (fun cursor rows page next h hread => by
        obtain ⟨rest, hrest, hrows, -, hless⟩ := hmore cursor rows page next h hread
        refine ⟨hless, rest, hrest, fun pages hpages => ?_⟩
        rw [List.flatten_cons, hpages, hrows])
      hleft
    refine ⟨pages, cursors, hrun, ?_, hpages⟩
    apply Paging.Run.pairwise
      (fun cursor => ∃ rows, LeftAt (segmentsSince directory sinceMs) cursor rows) Precedes
      (fun _ _ _ => Precedes.trans) _ ⟨_, hleft⟩ hrun
    rintro cursor page next ⟨rows, h⟩ hread
    obtain ⟨rest, hrest, -, hprecedes, -⟩ := hmore cursor rows page next h hread
    exact ⟨⟨rest, hrest⟩, hprecedes⟩

end Ending

section Repeating

variable {directory : List JournalEntry} {sinceMs maxBytes : Nat}

/-- The segments are in the order of their starts. -/
theorem segmentsSince_sorted (directory : List JournalEntry) (sinceMs : Nat) :
    (segmentsSince directory sinceMs).Pairwise fun a b => a.startMs ≤ b.startMs := by
  have htrans : ∀ a b c : JournalSegment, decide (a.startMs ≤ b.startMs) = true →
      decide (b.startMs ≤ c.startMs) = true → decide (a.startMs ≤ c.startMs) = true := by
    intro a b c hab hbc
    rw [decide_eq_true_eq] at hab hbc ⊢
    exact Nat.le_trans hab hbc
  have htotal : ∀ a b : JournalSegment,
      (decide (a.startMs ≤ b.startMs) || decide (b.startMs ≤ a.startMs)) = true := by
    intro a b
    rw [Bool.or_eq_true, decide_eq_true_eq, decide_eq_true_eq]
    exact Nat.le_total _ _
  have hpairwise := List.pairwise_mergeSort htrans htotal
    (directory.filterMap JournalEntry.asSegment)
  have hsorted : (journalSegments directory).Pairwise fun a b => a.startMs ≤ b.startMs :=
    hpairwise.imp fun h => of_decide_eq_true h
  exact hsorted.sublist List.filter_sublist

/-- Sorted segments have starts of their own, or two that follow each other have the same. -/
theorem increasing_or_repeats {segments : List JournalSegment}
    (h : segments.Pairwise fun a b => a.startMs ≤ b.startMs) :
    (segments.Pairwise fun a b => a.startMs < b.startMs) ∨
      ∃ before first second after, segments = before ++ first :: second :: after ∧
        first.startMs = second.startMs := by
  induction segments with
  | nil => exact Or.inl List.Pairwise.nil
  | cons first rest ih =>
    obtain ⟨hfirst, hrest⟩ := List.pairwise_cons.1 h
    rcases ih hrest with hincreasing | ⟨before, one, other, after, hsplit, hsame⟩
    · cases rest with
      | nil => exact Or.inl (List.pairwise_singleton _ _)
      | cons second after =>
        have hle := hfirst second List.mem_cons_self
        by_cases hsame : first.startMs = second.startMs
        · exact Or.inr ⟨[], first, second, after, rfl, hsame⟩
        · left
          refine List.Pairwise.cons ?_ hincreasing
          intro later hlater
          rcases List.mem_cons.1 hlater with rfl | hlater
          · omega
          · have hlt := (List.pairwise_cons.1 hincreasing).1 later hlater
            omega
    · exact Or.inr ⟨first :: before, one, other, after, by rw [hsplit]; rfl, hsame⟩

/-- A segment that is not the last one is followed by a cursor in it or in the next one. -/
theorem readJournalChunk_next (maxBytes : Nat) {cursor : Option CoreJournalCursor}
    {index offset : Nat} {segment following : JournalSegment}
    (hposition : journalPosition (segmentsSince directory sinceMs) cursor = some (index, offset))
    (hsegment : (segmentsSince directory sinceMs)[index]? = some segment)
    (hfollowing : (segmentsSince directory sinceMs)[index + 1]? = some following) :
    ∃ page next, readJournalChunk directory sinceMs cursor maxBytes = (page, some next) ∧
      (next.segment = segment.startMs ∨ next.segment = following.startMs) := by
  unfold segmentsSince at hposition hsegment hfollowing
  simp only [readJournalChunk, hposition, hsegment, hfollowing, Option.map_some]
  split
  · exact ⟨_, _, rfl, Or.inr rfl⟩
  · split
    · exact ⟨_, _, rfl, Or.inl rfl⟩
    · exact ⟨_, _, rfl, Or.inr rfl⟩

/-- A cursor that is not after a segment is read in it or before it. -/
theorem journalPosition_le {segments : List JournalSegment} {cursor : Option CoreJournalCursor}
    {i : Nat} {segment : JournalSegment} (hsegment : segments[i]? = some segment)
    (hcursor : ∀ c ∈ cursor, c.segment ≤ segment.startMs) :
    ∃ index offset, journalPosition segments cursor = some (index, offset) ∧ index ≤ i := by
  obtain ⟨hi, hat⟩ := List.getElem?_eq_some_iff.1 hsegment
  cases cursor with
  | none =>
    have hne : segments.isEmpty = false := by
      rw [List.isEmpty_eq_false_iff_exists_mem]
      exact ⟨segment, List.mem_of_getElem? hsegment⟩
    exact ⟨0, 0, by simp [journalPosition, hne], Nat.zero_le _⟩
  | some c =>
    have hle : c.segment ≤ segment.startMs := hcursor c rfl
    cases hfound : segments.findIdx? (fun segment => c.segment ≤ segment.startMs) with
    | none =>
      have hnone := List.findIdx?_eq_none_iff.1 hfound segment (List.mem_of_getElem? hsegment)
      exact absurd hle (by simpa using hnone)
    | some index =>
      obtain ⟨hindex, -, hearlier⟩ := List.findIdx?_eq_some_iff_getElem.1 hfound
      refine ⟨index, _, by rw [journalPosition, hfound]; rfl, ?_⟩
      by_contra hlater
      have hnot := hearlier i (Nat.lt_of_not_le hlater)
      rw [hat] at hnot
      exact absurd hle (by simpa using hnot)

/-- Where two segments have the same start, no page is the last one: the cursor after the first of
them says its beginning. -/
theorem not_pagesThrough {before : List JournalSegment} {first second : JournalSegment}
    {after : List JournalSegment}
    (hsplit : segmentsSince directory sinceMs = before ++ first :: second :: after)
    (hsame : first.startMs = second.startMs) :
    ¬PagesThrough directory sinceMs maxBytes := by
  have hfirst : (segmentsSince directory sinceMs)[before.length]? = some first := by
    simp [hsplit]
  have hsecond : (segmentsSince directory sinceMs)[before.length + 1]? = some second := by
    simp [hsplit]
  -- no segment up to the second of the two starts later than they do
  have hbefore : ∀ i segment, i ≤ before.length + 1 →
      (segmentsSince directory sinceMs)[i]? = some segment →
      segment.startMs ≤ first.startMs := by
    intro i segment hi hsegment
    obtain ⟨hlength, rfl⟩ := List.getElem?_eq_some_iff.1 hsegment
    obtain ⟨hsecondLength, hat⟩ := List.getElem?_eq_some_iff.1 hsecond
    rcases Nat.lt_or_eq_of_le hi with hlt | rfl
    · have hle := List.pairwise_iff_getElem.1 (segmentsSince_sorted directory sinceMs) i _ hlength
        hsecondLength hlt
      rw [hat] at hle
      omega
    · rw [hat]
      exact hsame.ge
  have hstays : ∀ cursor : Option CoreJournalCursor,
      (∀ c ∈ cursor, c.segment ≤ first.startMs) → ∃ page next,
        journalReader directory sinceMs maxBytes cursor = (page, some next) ∧
          ∀ c ∈ next, c.segment ≤ first.startMs := by
    intro cursor hcursor
    obtain ⟨index, offset, hposition, hindex⟩ := journalPosition_le hfirst hcursor
    obtain ⟨hsecondLength, -⟩ := List.getElem?_eq_some_iff.1 hsecond
    have hhere := List.getElem?_eq_getElem
      (show index < (segmentsSince directory sinceMs).length by omega)
    have hnext := List.getElem?_eq_getElem
      (show index + 1 < (segmentsSince directory sinceMs).length by omega)
    obtain ⟨page, next, hread, hsegment⟩ :=
      readJournalChunk_next maxBytes hposition hhere hnext
    refine ⟨page, some next, by rw [journalReader, hread]; rfl, ?_⟩
    intro c hc
    cases hc
    rcases hsegment with heq | heq
    · rw [heq]
      exact hbefore _ _ (by omega) hhere
    · rw [heq]
      exact hbefore _ _ (by omega) hnext
  rintro ⟨pages, cursors, hrun, -, -⟩
  exact Paging.not_run (fun cursor => ∀ c ∈ cursor, c.segment ≤ first.startMs) hstays
    (fun c hc => absurd hc (by simp)) hrun

end Repeating

/-- The start that the name of a file says, if the file was written at or after a time. -/
def JournalFile.startSince (sinceMs : Nat) (file : JournalFile) : Option Nat :=
  (segmentStart file.name).filter fun startMs => sinceMs ≤ file.modifiedMs.getD startMs

section Files

variable {files : List JournalFile} {sinceMs maxBytes : Nat}

/-- The starts of the segments are those of the files. -/
theorem map_startMs_segmentsSince (files : List JournalFile) (sinceMs : Nat) :
    ((segmentsSince (files.map JournalFile.entry) sinceMs).map JournalSegment.startMs).Perm
      (files.filterMap (JournalFile.startSince sinceMs)) := by
  have hlisted : (((files.map JournalFile.entry).filterMap JournalEntry.asSegment).filter
      fun segment => sinceMs ≤ segment.modifiedMs).map JournalSegment.startMs =
      files.filterMap (JournalFile.startSince sinceMs) := by
    induction files with
    | nil => rfl
    | cons file files ih =>
      rw [List.map_cons]
      cases hstart : segmentStart file.name with
      | none =>
        have hnone : file.entry.asSegment = none := by
          simp [JournalEntry.asSegment, JournalFile.entry, hstart]
        have hsince : file.startSince sinceMs = none := by
          simp [JournalFile.startSince, hstart]
        rw [List.filterMap_cons_none hnone, List.filterMap_cons_none hsince, ih]
      | some startMs =>
        have hsome : file.entry.asSegment = some ⟨startMs, file.content.length,
            file.modifiedMs.getD startMs, some file.content⟩ := by
          simp [JournalEntry.asSegment, JournalFile.entry, hstart]
        rw [List.filterMap_cons_some hsome]
        by_cases hsince : sinceMs ≤ file.modifiedMs.getD startMs
        · have hstarted : file.startSince sinceMs = some startMs := by
            simp [JournalFile.startSince, hstart, hsince]
          rw [List.filterMap_cons_some hstarted, List.filter_cons_of_pos (by simpa using hsince),
            List.map_cons, ih]
        · have hstarted : file.startSince sinceMs = none := by
            rw [JournalFile.startSince, hstart, Option.filter_some, if_neg (by simpa using hsince)]
          rw [List.filterMap_cons_none hstarted, List.filter_cons_of_neg (by simpa using hsince),
            ih]
  rw [← hlisted]
  exact ((List.mergeSort_perm _ _).filter _).map _

/-- A segment is a file that was written at or after the time. -/
theorem exists_file {segment : JournalSegment}
    (h : segment ∈ segmentsSince (files.map JournalFile.entry) sinceMs) :
    ∃ file ∈ files, file.startSince sinceMs = some segment.startMs ∧
      segment.len = file.content.length ∧ segment.content = some file.content := by
  obtain ⟨hmem, hsince⟩ := List.mem_filter.1 h
  rw [journalSegments, List.mem_mergeSort, List.mem_filterMap] at hmem
  obtain ⟨entry, hentry, hsegment⟩ := hmem
  obtain ⟨file, hfile, rfl⟩ := List.mem_map.1 hentry
  refine ⟨file, hfile, ?_⟩
  cases hstart : segmentStart file.name with
  | none => simp [JournalEntry.asSegment, JournalFile.entry, hstart] at hsegment
  | some startMs =>
    simp only [JournalEntry.asSegment, JournalFile.entry, hstart, Option.bind_eq_bind,
      Option.bind_some, if_true, Option.some.injEq] at hsegment
    subst hsegment
    refine ⟨?_, rfl, rfl⟩
    rw [JournalFile.startSince, hstart, Option.filter_some, if_pos hsince]

/-- Where the lines fit a page, paging through the journal ends with all of them exactly where the
names of no two files say the same start. -/
theorem pagesThrough_iff
    (hfits : ∀ file ∈ files, (file.startSince sinceMs).isSome = true →
      ∀ row ∈ lines newline file.content, FitsPage (max maxBytes 1) row) :
    PagesThrough (files.map JournalFile.entry) sinceMs maxBytes ↔
      (files.filterMap (JournalFile.startSince sinceMs)).Nodup := by
  rw [← (map_startMs_segmentsSince files sinceMs).nodup_iff]
  have hready : ∀ segment ∈ segmentsSince (files.map JournalFile.entry) sinceMs,
      PageReady maxBytes segment := by
    intro segment hsegment
    obtain ⟨file, hfile, hstart, hlen, hcontent⟩ := exists_file hsegment
    exact ⟨file.content, hcontent, hlen, hfits file hfile (by rw [hstart]; rfl)⟩
  rcases increasing_or_repeats (segmentsSince_sorted (files.map JournalFile.entry) sinceMs) with
    hincreasing | ⟨before, first, second, after, hsplit, hsame⟩
  · have hnodup : ((segmentsSince (files.map JournalFile.entry) sinceMs).map
        JournalSegment.startMs).Nodup :=
      List.pairwise_map.2 (hincreasing.imp fun hlt => Nat.ne_of_lt hlt)
    exact ⟨fun _ => hnodup, fun _ => pagesThrough_of_increasing hincreasing hready⟩
  · constructor
    · exact fun hpages => absurd hpages (not_pagesThrough hsplit hsame)
    · intro hnodup
      rw [hsplit, List.map_append, List.map_cons, List.map_cons, hsame] at hnodup
      have htwice := (List.nodup_append.1 hnodup).2.1
      exact absurd List.mem_cons_self (List.nodup_cons.1 htwice).1

/-- Two files of one start, each with a line. -/
def twiceStarted : List JournalFile :=
  [⟨"core-7.log", some 7, [97, newline]⟩, ⟨"core-07.log", some 8, [98, newline]⟩]

/-- Two files that were written one after the other; the last line of the second goes on. -/
def rolledOver : List JournalFile :=
  [⟨"core-9.log", some 20, [98, newline, 99]⟩, ⟨"core-7.log", some 8, [97, newline]⟩]

theorem not_pagesThrough_twiceStarted :
    (∀ file ∈ twiceStarted, segmentStart file.name = some 7 ∧
      ∀ row ∈ lines newline file.content, FitsPage 16 row) ∧
    ¬PagesThrough (twiceStarted.map JournalFile.entry) 0 16 := by
  have hfirst : segmentStart "core-7.log" = some 7 := by decide
  have hsecond : segmentStart "core-07.log" = some 7 := by decide
  have hfits : ∀ file ∈ twiceStarted, ∀ row ∈ lines newline file.content, FitsPage 16 row := by
    decide
  constructor
  · intro file hfile
    refine ⟨?_, hfits file hfile⟩
    rcases List.mem_pair.1 hfile with rfl | rfl
    · exact hfirst
    · exact hsecond
  · have hlisted : (twiceStarted.map JournalFile.entry).filterMap JournalEntry.asSegment =
        [⟨7, 2, 7, some [97, newline]⟩, ⟨7, 2, 8, some [98, newline]⟩] := by
      simp [twiceStarted, JournalFile.entry, JournalEntry.asSegment, hfirst, hsecond]
    have hsegments : segmentsSince (twiceStarted.map JournalFile.entry) 0 =
        [] ++ [⟨7, 2, 7, some [97, newline]⟩, ⟨7, 2, 8, some [98, newline]⟩] := by
      rw [segmentsSince, journalSegments, hlisted, List.mergeSort_of_pairwise (by simp)]
      simp
    exact not_pagesThrough hsegments rfl

theorem pagesThrough_rolledOver : PagesThrough (rolledOver.map JournalFile.entry) 0 16 := by
  have hfits : ∀ file ∈ rolledOver, ∀ row ∈ lines newline file.content, FitsPage 16 row := by
    decide
  exact (pagesThrough_iff fun file hfile _ => hfits file hfile).2 (by decide)

end Files

end MultiCore
