import Mathlib.Data.List.Infix
import MultiCore.Service.Logs

/-!
# Pages of whole lines

A page that is asked for where a line ends consists of whole lines of the file,
each redacted by itself, unless what the page may show lies in one line: that
line is too long, and a piece of it is served.
-/

namespace MultiCore

open Utf8 Lines

namespace Redactors

variable (r : Redactors)

@[simp] theorem redactServiceLogLine_nil : r.redactServiceLogLine [] = [] := by
  simp [redactServiceLogLine, redactText, Replacer.empty]

@[simp] theorem redactServiceLog_nil : r.redactServiceLog [] = [] := by
  simp [redactServiceLog]

theorem redactServiceLog_unfinished {body : List Char} (h : '\n' ∉ body) :
    r.redactServiceLog body = r.redactServiceLogLine body := by
  rw [redactServiceLog, List.splitOn_eq_singleton h]
  simp

theorem redactServiceLog_line {body : List Char} (h : '\n' ∉ body) (rest : List Char) :
    r.redactServiceLog (body ++ '\n' :: rest) =
      r.redactServiceLogLine body ++ '\n' :: r.redactServiceLog rest := by
  rw [redactServiceLog, List.splitOn_append_cons_self_of_not_mem h, redactServiceLog]
  cases hrest : rest.splitOn '\n' with
  | nil => exact absurd hrest (List.splitOn_ne_nil _ _)
  | cons first others => simp [List.intercalate]

/-- The redaction of decoded bytes goes line by line. -/
theorem redactServiceLog_lines (bytes : List UInt8) :
    r.redactServiceLog (fromUtf8Lossy bytes) =
      (lines newline bytes).flatMap fun row => r.redactServiceLog (fromUtf8Lossy row) := by
  induction bytes using induction_lines newline with
  | nil => exact r.redactServiceLog_nil
  | unfinished body hbody hne =>
    rw [lines_unfinished hbody hne, List.flatMap_singleton]
  | line body rest hbody ih =>
    have hchars := fromUtf8Lossy_ne_newline hbody
    have hrow : r.redactServiceLog (fromUtf8Lossy (body ++ [newline])) =
        r.redactServiceLogLine (fromUtf8Lossy body) ++ ['\n'] := by
      rw [fromUtf8Lossy_newline, r.redactServiceLog_line hchars]
      simp [fromUtf8Lossy, decodeFrom]
    rw [lines_line hbody, List.flatMap_cons, hrow, ← ih, fromUtf8Lossy_newline,
      r.redactServiceLog_line hchars, List.append_assoc, List.singleton_append]

/-- The same for the journal. -/
theorem redactJournalLines_lines (bytes : List UInt8) :
    r.redactJournalLines (fromUtf8Lossy bytes) =
      (lines newline bytes).flatMap fun row => r.redactJournalLines (fromUtf8Lossy row) := by
  induction bytes using induction_lines newline with
  | nil => rfl
  | unfinished body hbody hne =>
    rw [lines_unfinished hbody hne, List.flatMap_singleton]
  | line body rest hbody ih =>
    have hchars := fromUtf8Lossy_ne_newline hbody
    rw [lines_line hbody, List.flatMap_cons, ← ih, fromUtf8Lossy_newline, fromUtf8Lossy_newline]
    unfold redactJournalLines
    rw [lines_line hchars, lines_line hchars, List.flatMap_cons, List.flatMap_cons]
    simp [fromUtf8Lossy, decodeFrom]

end Redactors

/-- An offset where a line begins, or past the end. -/
def AtLine (content : List UInt8) (offset : Nat) : Prop :=
  Ends newline (content.take offset) ∨ content.length ≤ offset

/-- The text of whole lines of a file, each redacted by itself. -/
def WholeLines (redact : List Char → List Char) (content : List UInt8) (text : List Char) : Prop :=
  ∃ rows, rows <:+: lines newline content ∧
    text = rows.flatMap fun row => redact (fromUtf8Lossy row)

/-- The text of a piece of one line. -/
def PieceOfLine (redact : List Char → List Char) (content piece : List UInt8)
    (text : List Char) : Prop :=
  (∃ row ∈ lines newline content, piece <:+: row) ∧ text = redact (fromUtf8Lossy piece)

section Windows

variable {content : List UInt8} {start stop : Nat}

theorem window_length (start : Nat) (hstop : stop ≤ content.length) :
    (window content start stop).length = stop - start := by
  rw [window, List.length_take, List.length_drop]
  omega

/-- What stands before, in and after a window. -/
theorem window_split (content : List UInt8) (hle : start ≤ stop) :
    content = content.take start ++ window content start stop ++ content.drop stop := by
  have htail : content.drop stop = (content.drop start).drop (stop - start) := by
    rw [List.drop_drop, Nat.add_sub_cancel' hle]
  rw [window, htail, List.append_assoc, List.take_append_drop, List.take_append_drop]

theorem window_drop (skip : Nat) :
    (window content start stop).drop skip = window content (start + skip) stop := by
  rw [window, window, List.drop_take, List.drop_drop, Nat.sub_add_eq]

/-- A window between the beginnings of lines holds whole lines. -/
theorem window_infix (hle : start ≤ stop) (hstart : AtLine content start)
    (hstop : AtLine content stop) :
    lines newline (window content start stop) <:+: lines newline content := by
  have hsplit := window_split content hle
  rcases hstart with hstart | hpast
  · have hrun : Ends newline (window content start stop) ∨ content.drop stop = [] := by
      rcases hstop with hstop | hend
      · left
        have htake : content.take stop = content.take start ++ window content start stop := by
          rw [window, ← List.take_add, Nat.add_sub_cancel' hle]
        rw [htake] at hstop
        exact hstop.of_append
      · exact Or.inr (List.drop_eq_nil_iff.2 hend)
    have hlines := lines_infix hstart hrun
    rwa [← hsplit] at hlines
  · have hempty : window content start stop = [] := by
      rw [window, List.drop_eq_nil_iff.2 hpast, List.take_nil]
    rw [hempty]
    exact List.nil_infix

/-- Text that redacts a window between the beginnings of lines, line by line. -/
theorem wholeLines_of_window {redact : List Char → List Char}
    (hredact : ∀ bytes, redact (fromUtf8Lossy bytes) =
      (lines newline bytes).flatMap fun row => redact (fromUtf8Lossy row))
    (hle : start ≤ stop) (hstart : AtLine content start) (hstop : AtLine content stop) :
    WholeLines redact content (redact (fromUtf8Lossy (window content start stop))) :=
  ⟨_, window_infix hle hstart hstop, hredact _⟩

/-- Text that redacts a window inside one line. -/
theorem pieceOfLine_of_window {redact : List Char → List Char} (hle : start ≤ stop)
    (hne : window content start stop ≠ [])
    (hinside : newline ∉ (window content start stop).dropLast) :
    PieceOfLine redact content (window content start stop)
      (redact (fromUtf8Lossy (window content start stop))) := by
  have hline := exists_line (content.take start) (content.drop stop) hne hinside
  rw [← window_split content hle] at hline
  exact ⟨hline, rfl⟩

end Windows

/-- A page begins with its window, after a line end in the window, or with its window where no line
begins inside. -/
theorem skipToLine_cases (rawStart : Nat) (bytes : List UInt8) :
    rawStart = 0 ∧ skipToLine rawStart bytes = 0 ∨
      (∃ before after, bytes = before ++ newline :: after ∧
        skipToLine rawStart bytes = before.length + 1) ∨
      skipToLine rawStart bytes = 0 ∧ newline ∉ bytes.dropLast := by
  unfold skipToLine
  by_cases hstart : 0 < rawStart
  · rw [if_pos hstart]
    cases hfirst : bytes.idxOf? newline with
    | none =>
      have hnone : newline ∉ bytes := List.idxOf?_eq_none_iff.1 hfirst
      refine Or.inr (Or.inr ⟨by simp, fun hmem => hnone (List.dropLast_subset _ hmem)⟩)
    | some i =>
      obtain ⟨before, after, hbytes, hlength, hbefore⟩ := idxOf?_split hfirst
      by_cases hlast : bytes.length ≤ i + 1
      · have hafter : after = [] := by
          rw [hbytes, List.length_append, List.length_cons] at hlast
          exact List.length_eq_zero_iff.1 (by omega)
        refine Or.inr (Or.inr ⟨by simp [hlast], ?_⟩)
        rw [hbytes, hafter, List.dropLast_concat]
        exact hbefore
      · refine Or.inr (Or.inl ⟨before, after, hbytes, ?_⟩)
        simp [hlast, hlength]
  · rw [if_neg hstart]
    exact Or.inl ⟨by omega, by simp⟩

section ServiceLog

variable {h : LogHandle} {r : Redactors} {encode : Encoding} {file : ServiceLogFile}

/-- One page of the service log. -/
theorem LogHandle.page_spec {floor stop limit : Nat} {response : ServiceResponse}
    (hpage : h.page r file floor stop limit = some response) (hfloor : floor < stop)
    (hlimit : 0 < limit) (hend : stop ≤ h.content.length) (hstop : AtLine h.content stop) :
    ∃ start text, response = .serviceLog file start stop text ∧
      (WholeLines r.redactServiceLog h.content text.toList ∨
        PieceOfLine r.redactServiceLog h.content
          (window h.content (max (stop - limit) floor) stop) text.toList) := by
  unfold page at hpage
  dsimp only at hpage
  split at hpage
  swap
  · exact nomatch hpage
  generalize hraw : max (stop - limit) floor = rawStart at hpage ⊢
  have hlt : rawStart < stop := by omega
  have hlength := window_length rawStart hend
  have hne : window h.content rawStart stop ≠ [] := by
    intro hempty
    rw [hempty, List.length_nil] at hlength
    omega
  rw [window_drop, hlength, Nat.add_sub_cancel' hlt.le] at hpage
  refine ⟨_, _, (Option.some.inj hpage).symm, ?_⟩
  rw [String.toList_ofList]
  have hlines := r.redactServiceLog_lines
  rcases skipToLine_cases rawStart (window h.content rawStart stop) with
    ⟨hzero, hskip⟩ | ⟨before, after, hbytes, hskip⟩ | ⟨hskip, hinside⟩
  · left
    rw [hskip, Nat.add_zero]
    apply wholeLines_of_window hlines hlt.le _ hstop
    rw [hzero]
    exact Or.inl .nil
  · left
    rw [hbytes, List.length_append, List.length_cons] at hlength
    rw [hskip]
    apply wholeLines_of_window hlines (by omega) _ hstop
    left
    have htake : h.content.take (rawStart + (before.length + 1)) =
        (h.content.take rawStart ++ before) ++ [newline] := by
      have hinside : (h.content.drop rawStart).take (before.length + 1) =
          (window h.content rawStart stop).take (before.length + 1) := by
        rw [window, List.take_take, Nat.min_eq_left (by omega)]
      rw [List.take_add, hinside, hbytes, List.take_length_add_append, List.append_assoc]
      rfl
    rw [htake]
    exact ends_append_separator _
  · right
    rw [hskip, Nat.add_zero]
    exact pieceOfLine_of_window hlt.le hne hinside

/-- The page that fits. -/
theorem LogHandle.fitting_cases (h : LogHandle) (r : Redactors) (encode : Encoding)
    (file : ServiceLogFile) (floor stop n : Nat) :
    h.fitting r encode file floor stop (minServiceLogChunkBytes * 2 ^ n) =
        .serviceLog file stop stop "" ∨
      ∃ limit, minServiceLogChunkBytes ≤ limit ∧ h.page r file floor stop limit =
        some (h.fitting r encode file floor stop (minServiceLogChunkBytes * 2 ^ n)) := by
  induction n with
  | zero =>
    rw [fitting]
    cases hpage : h.page r file floor stop (minServiceLogChunkBytes * 2 ^ 0) with
    | none => exact Or.inl rfl
    | some response =>
      by_cases hfits : encode.fits response = true
      · simp only [if_pos hfits]
        exact Or.inr ⟨_, by decide, hpage⟩
      · simp only [if_neg hfits]
        exact Or.inl rfl
  | succ n ih =>
    have hhalf : minServiceLogChunkBytes * 2 ^ (n + 1) / 2 = minServiceLogChunkBytes * 2 ^ n := by
      rw [Nat.pow_succ, ← Nat.mul_assoc, Nat.mul_div_cancel _ (by decide)]
    have hlarge : minServiceLogChunkBytes ≤ minServiceLogChunkBytes * 2 ^ (n + 1) :=
      Nat.le_mul_of_pos_right _ (Nat.pow_pos (by decide))
    rw [fitting]
    cases hpage : h.page r file floor stop (minServiceLogChunkBytes * 2 ^ (n + 1)) with
    | none => exact Or.inl rfl
    | some response =>
      by_cases hfits : encode.fits response = true
      · simp only [if_pos hfits]
        exact Or.inr ⟨_, hlarge, hpage⟩
      · simp only [if_neg hfits]
        by_cases hsmall : minServiceLogChunkBytes * 2 ^ (n + 1) ≤ minServiceLogChunkBytes
        · rw [if_pos hsmall]
          exact Or.inl rfl
        · rw [if_neg hsmall, hhalf]
          exact ih

/-- A page of the service log that is asked for where a line ends. -/
theorem readChunk_spec {handle : Option LogHandle} {before : Option Nat} {start stop : Nat}
    {text : String}
    (hread : readChunk r encode handle file before = .serviceLog file start stop text)
    (hbefore : ∀ h ∈ handle, ∀ offset ∈ before, AtLine h.content offset) :
    text = "" ∨ ∃ h ∈ handle,
      WholeLines r.redactServiceLog h.content text.toList ∨
        ∃ limit, minServiceLogChunkBytes ≤ limit ∧ PieceOfLine r.redactServiceLog h.content
          (window h.content (max (stop - limit) (h.content.length - maxServiceLogTailBytes)) stop)
          text.toList := by
  unfold readChunk at hread
  cases handle with
  | none =>
    left
    injection hread with _ _ _ htext
    exact htext.symm
  | some h =>
    dsimp only at hread
    generalize hoffset : (before.map (min · h.content.length)).getD h.content.length = offset
      at hread
    have hend : offset ≤ h.content.length := by
      cases before with
      | none => exact hoffset.symm.le
      | some b => exact hoffset.symm.trans_le (Nat.min_le_right _ _)
    have hline : AtLine h.content offset := by
      cases before with
      | none => exact Or.inr hoffset.le
      | some b =>
        have hmin : min b h.content.length = offset := hoffset
        by_cases hpast : h.content.length ≤ b
        · exact Or.inr (by omega)
        · have hsame : b = offset := by omega
          exact hsame ▸ hbefore h rfl b rfl
    by_cases hfloor : offset ≤ h.content.length - maxServiceLogTailBytes
    · rw [if_pos hfloor] at hread
      left
      injection hread with _ _ _ htext
      exact htext.symm
    · rw [if_neg hfloor] at hread
      have hlimit : serviceLogChunkBytes = minServiceLogChunkBytes * 2 ^ 5 := by decide
      rw [hlimit] at hread
      rcases h.fitting_cases r encode file
        (h.content.length - maxServiceLogTailBytes) offset 5 with hempty | ⟨limit, hmin, hpage⟩
      · left
        rw [hempty] at hread
        injection hread with _ _ _ htext
        exact htext.symm
      · right
        rw [hread] at hpage
        have hpositive : 0 < limit := Nat.lt_of_lt_of_le (by decide) hmin
        obtain ⟨_, _, hresponse, hserved⟩ :=
          h.page_spec hpage (Nat.lt_of_not_le hfloor) hpositive hend hline
        injection hresponse with _ _ hstop htext
        subst hstop htext
        refine ⟨h, rfl, hserved.imp_right fun hpiece => ⟨limit, hmin, hpiece⟩⟩

end ServiceLog

section CoreJournal

variable {r : Redactors} {encode : Encoding} {directory : List JournalEntry} {sinceMs : Nat}
  {cursor : Option CoreJournalCursor}

/-- The cursor stands where a line of its segment begins. -/
def CoreJournalCursor.AtLine (directory : List JournalEntry) (cursor : CoreJournalCursor) : Prop :=
  ∀ segment ∈ journalSegments directory, segment.startMs = cursor.segment →
    ∀ content ∈ segment.content, MultiCore.AtLine content cursor.offset

/-- What is served of a read: whole lines, or all of it where a line fills it. -/
theorem journalCut_cases (maxBytes : Nat) (bytes : List UInt8) :
    Ends newline (bytes.take (journalCut maxBytes bytes)) ∨
      journalCut maxBytes bytes = bytes.length ∧ newline ∉ bytes ∧
        max maxBytes 1 ≤ bytes.length := by
  unfold journalCut lastLineEnd
  cases hlast : bytes.reverse.idxOf? newline with
  | none =>
    have hnone : newline ∉ bytes := by
      intro hmem
      exact List.idxOf?_eq_none_iff.1 hlast (List.mem_reverse.2 hmem)
    by_cases hfull : max maxBytes 1 ≤ bytes.length
    · right
      simp only [Option.map_none, if_pos hfull]
      exact ⟨trivial, hnone, hfull⟩
    · left
      simp only [Option.map_none, if_neg hfull]
      exact .nil
  | some i =>
    obtain ⟨after, before, hbytes, hlength, -⟩ := idxOf?_split hlast
    left
    have hsplit : bytes = before.reverse ++ [newline] ++ after.reverse := by
      rw [← List.reverse_reverse bytes, hbytes]
      simp
    have hreversed : after.reverse.length = after.length := List.length_reverse
    have hcut : bytes.length - i = (before.reverse ++ [newline]).length := by
      rw [hsplit, List.length_append, hreversed, hlength]
      omega
    simp only [Option.map_some, hcut]
    rw [hsplit, List.take_left]
    exact ends_append_separator _

theorem journalPosition_spec {segments : List JournalSegment} {index offset : Nat}
    (h : journalPosition segments cursor = some (index, offset)) {segment : JournalSegment}
    (hsegment : segments[index]? = some segment) :
    offset = 0 ∨ ∃ c ∈ cursor, segment.startMs = c.segment ∧ offset = c.offset := by
  cases cursor with
  | none =>
    unfold journalPosition at h
    simp only at h
    split at h
    · exact nomatch h
    · exact Or.inl (congrArg Prod.snd (Option.some.inj h)).symm
  | some c =>
    obtain ⟨found, -, hfound⟩ := Option.map_eq_some_iff.1 h
    obtain ⟨rfl, hoffset⟩ := Prod.mk.inj hfound
    rw [hsegment, Option.any_some] at hoffset
    by_cases hsame : segment.startMs = c.segment
    · rw [if_pos (by simpa using hsame)] at hoffset
      exact Or.inr ⟨c, rfl, hsame, hoffset.symm⟩
    · rw [if_neg (by simpa using hsame)] at hoffset
      exact Or.inl hoffset.symm

/-- One page of the journal, redacted. -/
theorem readJournalChunk_spec (hcursor : ∀ c ∈ cursor, c.AtLine directory) {limit : Nat}
    (hlimit : 0 < limit) {text : List Char}
    (htext : text = r.redactJournalLines (readJournalChunk directory sinceMs cursor limit).1) :
    text = [] ∨ ∃ segment ∈ journalSegments directory, ∃ content ∈ segment.content,
      WholeLines r.redactJournalLines content text ∨
        ∃ offset, (window content offset (offset + limit)).length = limit ∧
          PieceOfLine r.redactJournalLines content (window content offset (offset + limit))
            text := by
  unfold readJournalChunk at htext
  dsimp only at htext
  split at htext
  · exact Or.inl htext
  rename_i index offset hposition
  split at htext
  · exact Or.inl htext
  rename_i segment hsegment
  have hmem : segment ∈ journalSegments directory :=
    (List.mem_filter.1 (List.mem_of_getElem? hsegment)).1
  split at htext
  · exact Or.inl htext
  rename_i hbytes
  cases hcontent : segment.content with
  | none => simp [hcontent] at hbytes
  | some content =>
    rw [hcontent, Option.map_some, Option.getD_some, Nat.max_eq_left hlimit] at htext hbytes
    have hne : window content offset (offset + limit) ≠ [] := by simpa using hbytes
    have hstart : Ends newline (content.take offset) := by
      have hline : AtLine content offset := by
        rcases journalPosition_spec hposition hsegment with hzero | ⟨c, hc, hsame, hoffset⟩
        · rw [hzero]
          exact Or.inl .nil
        · rw [hoffset]
          exact hcursor c hc segment hmem hsame content hcontent
      rcases hline with hline | hpast
      · exact hline
      · exfalso
        apply hne
        rw [window, List.drop_eq_nil_iff.2 hpast, List.take_nil]
    have hsplit := window_split content (Nat.le_add_right offset limit)
    right
    refine ⟨segment, hmem, content, hcontent, ?_⟩
    rw [htext]
    rcases journalCut_cases limit (window content offset (offset + limit)) with
      hwhole | ⟨hcut, hnone, hfull⟩
    · left
      refine ⟨_, ?_, r.redactJournalLines_lines _⟩
      have hinfix := lines_take_infix hstart hwhole (content.drop (offset + limit))
      rwa [← hsplit] at hinfix
    · right
      rw [hcut, List.take_length]
      have hlength : (window content offset (offset + limit)).length = limit := by
        have hle : (window content offset (offset + limit)).length ≤ offset + limit - offset :=
          List.length_take_le _ _
        omega
      exact ⟨offset, hlength, pieceOfLine_of_window (Nat.le_add_right offset limit) hne
        fun hmem => hnone (List.dropLast_subset _ hmem)⟩

/-- The page that fits. -/
theorem fittingJournal_cases (n : Nat) {text : String} {next : Option CoreJournalCursor}
    (h : fittingJournal r encode directory sinceMs cursor (minCoreJournalChunkBytes * 2 ^ n) =
      .coreJournal text next) :
    text = "" ∨ ∃ limit, minCoreJournalChunkBytes ≤ limit ∧
      text.toList = r.redactJournalLines (readJournalChunk directory sinceMs cursor limit).1 := by
  induction n with
  | zero =>
    rw [fittingJournal] at h
    split at h
    · injection h with htext
      refine Or.inr ⟨minCoreJournalChunkBytes * 2 ^ 0, by decide, ?_⟩
      rw [← htext, String.toList_ofList]
    · rw [if_pos (by decide)] at h
      injection h with htext
      exact Or.inl htext.symm
  | succ n ih =>
    have hhalf :
        minCoreJournalChunkBytes * 2 ^ (n + 1) / 2 = minCoreJournalChunkBytes * 2 ^ n := by
      rw [Nat.pow_succ, ← Nat.mul_assoc, Nat.mul_div_cancel _ (by decide)]
    have hlarge : minCoreJournalChunkBytes ≤ minCoreJournalChunkBytes * 2 ^ (n + 1) :=
      Nat.le_mul_of_pos_right _ (Nat.pow_pos (by decide))
    rw [fittingJournal] at h
    split at h
    · injection h with htext
      refine Or.inr ⟨_, hlarge, ?_⟩
      rw [← htext, String.toList_ofList]
    · split at h
      · injection h with htext
        exact Or.inl htext.symm
      · rw [hhalf] at h
        exact ih h

/-- A page of the journal that is asked for where a line begins. -/
theorem readCoreJournal_spec {text : String} {next : Option CoreJournalCursor}
    (hread : readCoreJournal r encode directory sinceMs cursor = .coreJournal text next)
    (hcursor : ∀ c ∈ cursor, c.AtLine directory) :
    text = "" ∨ ∃ segment ∈ journalSegments directory, ∃ content ∈ segment.content,
      WholeLines r.redactJournalLines content text.toList ∨
        ∃ limit offset, minCoreJournalChunkBytes ≤ limit ∧
          (window content offset (offset + limit)).length = limit ∧
          PieceOfLine r.redactJournalLines content (window content offset (offset + limit))
            text.toList := by
  have hlimit : coreJournalChunkBytes = minCoreJournalChunkBytes * 2 ^ 5 := by decide
  rw [readCoreJournal, hlimit] at hread
  rcases fittingJournal_cases 5 hread with hempty | ⟨limit, hmin, htext⟩
  · exact Or.inl hempty
  · have hpositive : 0 < limit := Nat.lt_of_lt_of_le (by decide) hmin
    rcases readJournalChunk_spec hcursor hpositive htext with
      hempty | ⟨segment, hsegment, content, hcontent, hserved⟩
    · exact Or.inl (String.toList_eq_nil_iff.1 hempty)
    · refine Or.inr ⟨segment, hsegment, content, hcontent, ?_⟩
      exact hserved.imp_right fun ⟨offset, hlength, hpiece⟩ =>
        ⟨limit, offset, hmin, hlength, hpiece⟩

end CoreJournal

/-- Every page that is asked for where a line of the file begins or ends is whole lines, each
redacted by itself, or empty; only where all that the page may read lies in one line, that piece
of the line is served. -/
theorem logs_served_by_line (r : Redactors) (encode : Encoding) :
    (∀ handle file before start stop text,
      readChunk r encode handle file before = .serviceLog file start stop text →
      (∀ h ∈ handle, ∀ offset ∈ before, AtLine h.content offset) →
      text = "" ∨ ∃ h ∈ handle,
        WholeLines r.redactServiceLog h.content text.toList ∨
          ∃ limit, minServiceLogChunkBytes ≤ limit ∧ PieceOfLine r.redactServiceLog h.content
            (window h.content (max (stop - limit) (h.content.length - maxServiceLogTailBytes))
              stop) text.toList) ∧
    ∀ directory sinceMs cursor text next,
      readCoreJournal r encode directory sinceMs cursor = .coreJournal text next →
      (∀ c ∈ cursor, c.AtLine directory) →
      text = "" ∨ ∃ segment ∈ journalSegments directory, ∃ content ∈ segment.content,
        WholeLines r.redactJournalLines content text.toList ∨
          ∃ limit offset, minCoreJournalChunkBytes ≤ limit ∧
            (window content offset (offset + limit)).length = limit ∧
            PieceOfLine r.redactJournalLines content (window content offset (offset + limit))
              text.toList :=
  ⟨fun _ _ _ _ _ _ hread hbefore => readChunk_spec hread hbefore,
    fun _ _ _ _ _ hread hcursor => readCoreJournal_spec hread hcursor⟩

section Tokens

/-- A redaction that leaves everything. -/
private def keep : Replacer := ⟨id, rfl⟩

/-- A text up to its first token, and a mark in the token's place. -/
private def redactTokens : List Char → List Char
  | [] => []
  | c :: rest =>
    if "token=".toList.isPrefixOf (c :: rest) then "token=[redacted]".toList
    else c :: redactTokens rest

/-- Redactors of which only the one for tokens does something. -/
private def onlyTokens : Redactors :=
  ⟨keep, keep, ⟨redactTokens, rfl⟩, keep, keep, keep, keep, keep, keep, keep⟩

/-- Responses that always fit. -/
private def smallFrames : Encoding := fun _ => some (List.replicate 64 0)

private theorem redactTokens_of_not_mem {text : List Char} (h : 't' ∉ text) :
    redactTokens text = text := by
  induction text with
  | nil => rfl
  | cons c rest ih =>
    rw [List.mem_cons, not_or] at h
    have hprefix : "token=".toList.isPrefixOf (c :: rest) = false := by
      have hne : ('t' == c) = false := by simpa using h.1
      change ('t' == c && "oken=".toList.isPrefixOf rest) = false
      rw [hne, Bool.false_and]
    rw [redactTokens, hprefix, ih h.2]
    rfl

/-- Letters that neither are controls nor begin a configuration. -/
private theorem redactServiceLogLine_plain {line : List Char}
    (h : ∀ c ∈ line, c ∈ "5 token=a".toList) :
    onlyTokens.redactServiceLogLine line = redactTokens line := by
  have hshown : line.map (fun c => if Text.isControl c && c != '\t' then ' ' else c) = line := by
    have hletters : "5 token=a".toList.all (fun c =>
        (if Text.isControl c && c != '\t' then ' ' else c) == c) = true := by decide
    rw [List.map_congr_left fun c hc => eq_of_beq (List.all_eq_true.1 hletters c (h c hc)),
      List.map_id']
  have hlower : line.map Text.lowerChar = line := by
    have hletters : "5 token=a".toList.all (fun c => Text.lowerChar c == c) = true := by decide
    rw [List.map_congr_left fun c hc => eq_of_beq (List.all_eq_true.1 hletters c (h c hc)),
      List.map_id']
  have hplain : ∀ (word : List Char) (c : Char), c ∈ word → c ∉ "5 token=a".toList →
      line.tails.any word.isPrefixOf = false := by
    intro word c hc hnone
    rw [List.any_eq_false]
    intro tail htail hprefix
    have hsub := (List.isPrefixOf_iff_prefix.1 hprefix).subset hc
    exact hnone (h c (((List.mem_tails _ _).1 htail).subset hsub))
  have houtbounds := hplain "\"outbounds\"".toList '"' (by decide) (by decide)
  have hproxies := hplain "proxies:".toList ':' (by decide) (by decide)
  unfold Redactors.redactServiceLogLine
  simp only [hshown, hlower, houtbounds, hproxies]
  rfl

section LongLine

variable {letters : List Char}

/-- A log of one line, with a token at the line's beginning. -/
private def longLog (letters : List Char) : LogHandle :=
  ⟨encode ("5 token=a".toList ++ letters ++ ['\n']), fun _ => true⟩

private theorem encode_letters (hletters : ∀ c ∈ letters, c = 'a') :
    encode letters = List.replicate letters.length 97 := by
  rw [List.eq_replicate_of_mem hletters, encode, List.flatMap_replicate, List.length_replicate]
  exact List.flatten_replicate_singleton

private theorem encode_letters_newline (hletters : ∀ c ∈ letters, c = 'a') :
    encode (letters ++ ['\n']) = List.replicate letters.length 97 ++ [newline] := by
  rw [← encode_letters hletters, encode, List.flatMap_append]
  rfl

private theorem skipToLine_letters (hletters : ∀ c ∈ letters, c = 'a') (rawStart : Nat) :
    skipToLine rawStart (encode (letters ++ ['\n'])) = 0 := by
  rw [encode_letters_newline hletters]
  have hnone : (List.replicate letters.length (97 : UInt8)).findIdx? (· == newline) = none := by
    rw [List.findIdx?_eq_none_iff]
    intro b hb
    rw [List.eq_of_mem_replicate hb]
    rfl
  have hfirst : (List.replicate letters.length (97 : UInt8) ++ [newline]).idxOf? newline =
      some letters.length := by
    rw [List.idxOf?, List.findIdx?_append, hnone]
    simp
  rw [skipToLine, hfirst]
  split <;> simp

private theorem redactServiceLog_letters (hletters : ∀ c ∈ letters, c = 'a') :
    onlyTokens.redactServiceLog (letters ++ ['\n']) = letters ++ ['\n'] := by
  have hother : ∀ c : Char, c ≠ 'a' → c ∉ letters := fun c hc hmem => hc (hletters c hmem)
  rw [Redactors.redactServiceLog_line _ (hother '\n' (by decide)),
    Redactors.redactServiceLog_nil, redactServiceLogLine_plain,
    redactTokens_of_not_mem (hother 't' (by decide))]
  intro c hc
  rw [hletters c hc]
  decide

/-- The whole line shows nothing behind the token's name. -/
private theorem redactServiceLog_longLog (hletters : ∀ c ∈ letters, c = 'a') :
    onlyTokens.redactServiceLog (fromUtf8Lossy (longLog letters).content) =
      "5 token=[redacted]\n".toList := by
  have hline : ∀ c ∈ "5 token=a".toList ++ letters, c ∈ "5 token=a".toList := by
    intro c hc
    rcases List.mem_append.1 hc with hc | hc
    · exact hc
    · rw [hletters c hc]
      decide
  have hends : '\n' ∉ "5 token=a".toList ++ letters := fun h => absurd (hline _ h) (by decide)
  rw [longLog, fromUtf8Lossy_encode, Redactors.redactServiceLog_line _ hends,
    redactServiceLogLine_plain hline, Redactors.redactServiceLog_nil]
  rfl

private theorem readChunk_longLog (hletters : ∀ c ∈ letters, c = 'a')
    (hlong : letters.length + 1 = serviceLogChunkBytes) :
    readChunk onlyTokens smallFrames (some (longLog letters)) .current none =
      .serviceLog .current 9 (9 + serviceLogChunkBytes) (String.ofList (letters ++ ['\n'])) := by
  have hlast : (encode (letters ++ ['\n'])).length = serviceLogChunkBytes := by
    rw [encode_letters_newline hletters, List.length_append, List.length_replicate]
    exact hlong
  have hcontent : (longLog letters).content =
      encode "5 token=a".toList ++ encode (letters ++ ['\n']) := by
    rw [longLog, List.append_assoc, encode, List.flatMap_append]
    rfl
  have hlength : (longLog letters).content.length = 9 + serviceLogChunkBytes := by
    rw [hcontent, List.length_append, hlast]
    rfl
  have hwindow : window (longLog letters).content 9 (9 + serviceLogChunkBytes) =
      encode (letters ++ ['\n']) := by
    have hdrop : (encode "5 token=a".toList ++ encode (letters ++ ['\n'])).drop 9 =
        encode (letters ++ ['\n']) := List.drop_left' rfl
    rw [window, hcontent, hdrop, Nat.add_sub_cancel_left, ← hlast, List.take_length]
  have hraw : max (9 + serviceLogChunkBytes - serviceLogChunkBytes)
      (9 + serviceLogChunkBytes - maxServiceLogTailBytes) = 9 := by decide
  have hpage : (longLog letters).page onlyTokens .current
      (9 + serviceLogChunkBytes - maxServiceLogTailBytes) (9 + serviceLogChunkBytes)
      serviceLogChunkBytes = some (.serviceLog .current 9 (9 + serviceLogChunkBytes)
        (String.ofList (letters ++ ['\n']))) := by
    rw [LogHandle.page]
    dsimp only
    rw [hraw, hwindow, skipToLine_letters hletters, List.drop_zero, fromUtf8Lossy_encode,
      redactServiceLog_letters hletters, hlast]
    rfl
  rw [readChunk]
  dsimp only [Option.map_none, Option.getD_none]
  rw [hlength, if_neg (by decide), LogHandle.fitting, hpage]
  rfl

end LongLine

/-- The newest page of a log that ends with a line longer than a page is the end of that line: what
the line's redaction takes out is shown. -/
theorem serviceLog_serves_piece :
    ∃ h start stop text,
      readChunk onlyTokens smallFrames (some h) .current none =
        .serviceLog .current start stop text ∧
      onlyTokens.redactServiceLog (fromUtf8Lossy h.content) = "5 token=[redacted]\n".toList ∧
      ¬WholeLines onlyTokens.redactServiceLog h.content text.toList := by
  obtain ⟨letters, hletters, hlong⟩ : ∃ letters : List Char, (∀ c ∈ letters, c = 'a') ∧
      letters.length + 1 = serviceLogChunkBytes :=
    ⟨List.replicate (serviceLogChunkBytes - 1) 'a', fun _ => List.eq_of_mem_replicate,
      by rw [List.length_replicate]; rfl⟩
  have hwhole := redactServiceLog_longLog hletters
  refine ⟨longLog letters, _, _, _, readChunk_longLog hletters hlong, hwhole, ?_⟩
  rw [String.toList_ofList]
  rintro ⟨rows, hrows, htext⟩
  have hbody : newline ∉ encode ("5 token=a".toList ++ letters) := by
    rw [encode, List.flatMap_append, List.mem_append, not_or]
    refine ⟨by decide, fun hmem => ?_⟩
    change newline ∈ encode letters at hmem
    rw [encode_letters hletters] at hmem
    exact absurd (List.eq_of_mem_replicate hmem) (by decide)
  have hline : lines newline (longLog letters).content = [(longLog letters).content] := by
    rw [longLog, encode, List.flatMap_append]
    exact lines_line hbody []
  rw [hline] at hrows
  rcases List.sublist_singleton.1 hrows.sublist with rfl | rfl
  · exact absurd htext (by simp)
  · rw [List.flatMap_singleton, hwhole] at htext
    cases letters with
    | nil => exact absurd hlong (by decide)
    | cons c rest =>
      have hfirst := congrArg List.head? htext
      rw [List.cons_append, List.head?_cons, hletters c List.mem_cons_self] at hfirst
      exact absurd hfirst (by decide)

/-- A line of a journal with a token. -/
private def tokenLine : List UInt8 := encode "5\txray\tstdout\ttoken=abc\n".toList

/-- A journal of one segment with the line twice. -/
private def tokenJournal : List JournalEntry :=
  [⟨some 5, true, 48, some 5, some (tokenLine ++ tokenLine)⟩]

/-- Three lines of the service's log, the second with a token. -/
private def tokenLog : LogHandle :=
  ⟨encode "4 up\n5 token=abc\n6 down\n".toList, fun _ => true⟩

private theorem journalSegments_token :
    journalSegments tokenJournal = [⟨5, 48, 5, some (tokenLine ++ tokenLine)⟩] := by
  simp [journalSegments, tokenJournal, JournalEntry.asSegment]

/-- The second line of the journal, and the lines of the log before its last. -/
theorem logs_served_by_line_second :
    ∃ start stop page text,
      readChunk onlyTokens smallFrames (some tokenLog) .current (some 17) =
        .serviceLog .current start stop page ∧
      page = "4 up\n5 token=[redacted]\n" ∧
      (page = "" ∨ ∃ h ∈ some tokenLog,
        WholeLines onlyTokens.redactServiceLog h.content page.toList ∨
          ∃ limit, minServiceLogChunkBytes ≤ limit ∧
            PieceOfLine onlyTokens.redactServiceLog h.content
              (window h.content (max (stop - limit) (h.content.length - maxServiceLogTailBytes))
                stop) page.toList) ∧
      readCoreJournal onlyTokens smallFrames tokenJournal 0 (some ⟨5, 24⟩) =
        .coreJournal text none ∧
      text = "5\txray\tstdout\ttoken=[redacted]\n" ∧
      (text = "" ∨ ∃ segment ∈ journalSegments tokenJournal, ∃ content ∈ segment.content,
        WholeLines onlyTokens.redactJournalLines content text.toList ∨
          ∃ limit offset, minCoreJournalChunkBytes ≤ limit ∧
            (window content offset (offset + limit)).length = limit ∧
            PieceOfLine onlyTokens.redactJournalLines content
              (window content offset (offset + limit)) text.toList) := by
  have hpage : readChunk onlyTokens smallFrames (some tokenLog) .current (some 17) =
      .serviceLog .current 0 17 "4 up\n5 token=[redacted]\n" := by
    have hfits : tokenLog.page onlyTokens .current 0 17 serviceLogChunkBytes =
        some (.serviceLog .current 0 17 "4 up\n5 token=[redacted]\n") := by decide +kernel
    have hlength : tokenLog.content.length = 24 := by decide
    have hstop : min 17 24 = 17 := by decide
    have hfloor : 24 - maxServiceLogTailBytes = 0 := by decide
    rw [readChunk, hlength, Option.map_some, Option.getD_some, hstop, hfloor, if_neg (by decide),
      LogHandle.fitting, hfits]
    rfl
  have hread : readCoreJournal onlyTokens smallFrames tokenJournal 0 (some ⟨5, 24⟩) =
      .coreJournal "5\txray\tstdout\ttoken=[redacted]\n" none := by
    have hchunk : readJournalChunk tokenJournal 0 (some ⟨5, 24⟩) coreJournalChunkBytes =
        (fromUtf8Lossy tokenLine, none) := by
      rw [readJournalChunk, journalSegments_token]
      decide
    have hredacted : onlyTokens.redactJournalLines (fromUtf8Lossy tokenLine) =
        "5\txray\tstdout\ttoken=[redacted]\n".toList := by decide +kernel
    rw [readCoreJournal, fittingJournal, hchunk]
    dsimp only
    rw [hredacted]
    rfl
  obtain ⟨hlog, hjournal⟩ := logs_served_by_line onlyTokens smallFrames
  refine ⟨_, _, _, _, hpage, rfl, hlog _ _ _ _ _ _ hpage ?_, hread, rfl,
    hjournal _ _ _ _ _ hread ?_⟩
  · intro h hh offset hoffset
    cases hh
    cases hoffset
    exact Or.inl (Or.inr (by decide))
  · rintro cursor ⟨⟩ segment hsegment - content hcontent
    rw [journalSegments_token, List.mem_singleton] at hsegment
    rw [hsegment] at hcontent
    obtain rfl := Option.some.inj hcontent
    exact Or.inl (Or.inr (by decide))

/-- What becomes of a cursor inside a line. -/
example : (readJournalChunk tokenJournal 0 (some ⟨5, 44⟩) coreJournalChunkBytes).1 =
    "abc\n".toList := by
  rw [readJournalChunk, journalSegments_token]
  decide

end Tokens

end MultiCore
