import MultiCore.Library.Paging
import MultiCore.Service.LogPages

/-!
# Paging through the service log

A client reads a log from its end, and asks each time for what ends where the
page before began. A page that is not at the beginning of the file begins after
the first line end it meets; where no line is longer than a chunk that is where
a line begins, and the page is not empty. So the pages go down to the beginning
of the file without a gap, and in the opposite order they are all its lines.
-/

namespace MultiCore

open Utf8 Lines

/-- The next request after a response; none where nothing comes before. -/
def nextBefore : ServiceResponse → Option (Option Nat)
  | .serviceLog _ start stop _ => if start = 0 ∨ start = stop then none else some (some start)
  | _ => none

/-- Each call is given the start of the page that the one before it returned. -/
def serviceLogReader (r : Redactors) (encode : Encoding) (handle : Option LogHandle)
    (file : ServiceLogFile) (before : Option Nat) : ServiceResponse × Option (Option Nat) :=
  let response := readChunk r encode handle file before
  (response, nextBefore response)

/-- Pages of a file from an offset down to its beginning, each of which ends where the one before
begins, and the text they hold together. -/
inductive PagesDown (file : ServiceLogFile) : Nat → List ServiceResponse → List Char → Prop
  | last (stop : Nat) (text : String) :
      PagesDown file stop [.serviceLog file 0 stop text] text.toList
  | more {start stop : Nat} {text : String} {pages : List ServiceResponse} {rest : List Char}
      (progress : start < stop) (earlier : PagesDown file start pages rest) :
      PagesDown file stop (.serviceLog file start stop text :: pages) (rest ++ text.toList)

theorem PagesDown.last_ofList (file : ServiceLogFile) (stop : Nat) (text : List Char) :
    PagesDown file stop [.serviceLog file 0 stop (String.ofList text)] text := by
  have hlast : PagesDown file stop [.serviceLog file 0 stop (String.ofList text)]
      (String.ofList text).toList := PagesDown.last stop _
  rwa [String.toList_ofList] at hlast

theorem PagesDown.more_ofList {file : ServiceLogFile} {start stop : Nat} (text : List Char)
    {pages : List ServiceResponse} {rest : List Char} (progress : start < stop)
    (earlier : PagesDown file start pages rest) :
    PagesDown file stop (.serviceLog file start stop (String.ofList text) :: pages)
      (rest ++ text) := by
  have hmore : PagesDown file stop (.serviceLog file start stop (String.ofList text) :: pages)
      (rest ++ (String.ofList text).toList) := PagesDown.more progress earlier
  rwa [String.toList_ofList] at hmore

/-- The lines of a file fit in a chunk of this size, and the chunk in a frame. -/
structure FitsChunks (r : Redactors) (encode : Encoding) (file : ServiceLogFile)
    (content : List UInt8) (chunk : Nat) : Prop where
  size : ∃ n ≤ 5, chunk = minServiceLogChunkBytes * 2 ^ n
  lines : ∀ row ∈ lines newline content, row.length ≤ chunk
  frames : ∀ start stop, start ≤ stop → stop ≤ content.length → stop - start ≤ chunk →
    encode.fits (.serviceLog file start stop
      (String.ofList (r.redactServiceLog (fromUtf8Lossy (window content start stop))))) = true

/-- What is skipped of a page leaves something of it. -/
theorem skipToLine_lt (rawStart : Nat) {bytes : List UInt8} (h : bytes ≠ []) :
    skipToLine rawStart bytes < bytes.length := by
  have hpositive : 0 < bytes.length := List.length_pos_iff.2 h
  unfold skipToLine
  dsimp only
  generalize (if 0 < rawStart then ((bytes.idxOf? newline).map (· + 1)).getD 0 else 0) = skip
  by_cases hskip : bytes.length ≤ skip
  · rw [if_pos hskip]
    exact hpositive
  · rw [if_neg hskip]
    omega

/-- A part as long as a line may be, inside one line, begins where the line does. -/
theorem ends_of_inside (chunk : Nat) {before piece : List UInt8} (after : List UInt8)
    (hlines : ∀ row ∈ lines newline (before ++ piece ++ after), row.length ≤ chunk)
    (hlength : chunk ≤ piece.length) (hne : piece ≠ []) (hinside : newline ∉ piece.dropLast) :
    Ends newline before := by
  obtain ⟨earlier, body, rfl, hends, hbody⟩ := exists_last_line newline before
  -- the line in which the part lies begins with what the list before it stops inside
  have hwhole : newline ∉ (body ++ piece).dropLast := by
    rw [List.dropLast_append_of_ne_nil hne]
    intro hmem
    rcases List.mem_append.1 hmem with hmem | hmem
    · exact hbody hmem
    · exact hinside hmem
  obtain ⟨row, rows, hrows, hprefix⟩ :=
    exists_first_line after (List.append_ne_nil_of_right_ne_nil body hne) hwhole
  have hrow : row ∈ lines newline (earlier ++ body ++ piece ++ after) := by
    rw [List.append_assoc earlier, List.append_assoc earlier, lines_append hends, hrows]
    exact List.mem_append_right _ List.mem_cons_self
  have hle := hlines row hrow
  have hbound := hprefix.length_le
  rw [List.length_append] at hbound
  have hempty : body = [] := List.length_eq_zero_iff.1 (by omega)
  rw [hempty, List.append_nil]
  exact hends

section Page

variable {h : LogHandle} {r : Redactors} {encode : Encoding} {file : ServiceLogFile}

/-- A page no smaller than the lines begins where a line does, and is not empty. -/
theorem LogHandle.page_whole (r : Redactors) (file : ServiceLogFile) {chunk limit stop : Nat}
    (hreadable : ∀ start, h.readable start = true)
    (hlines : ∀ row ∈ lines newline h.content, row.length ≤ chunk) (hchunk : chunk ≤ limit)
    (hpositive : 0 < limit) (hstop : 0 < stop) (hend : stop ≤ h.content.length) :
    ∃ start, start < stop ∧ stop - limit ≤ start ∧ Ends newline (h.content.take start) ∧
      h.page r file 0 stop limit = some (.serviceLog file start stop
        (String.ofList (r.redactServiceLog (fromUtf8Lossy (window h.content start stop))))) := by
  have hraw : max (stop - limit) 0 = stop - limit := Nat.max_zero _
  have hlength := window_length (stop - limit) hend
  have hne : window h.content (stop - limit) stop ≠ [] := by
    intro hempty
    rw [hempty, List.length_nil] at hlength
    omega
  have hskip := skipToLine_lt (stop - limit) hne
  refine ⟨stop - limit + skipToLine (stop - limit) (window h.content (stop - limit) stop), ?_,
    Nat.le_add_right _ _, ?_, ?_⟩
  · omega
  · rcases skipToLine_cases (stop - limit) (window h.content (stop - limit) stop) with
      ⟨hzero, hskip⟩ | ⟨before, after, hbytes, hskip⟩ | ⟨hskip, hinside⟩
    · rw [hskip, hzero]
      exact .nil
    · have htake : h.content.take (stop - limit + (before.length + 1)) =
          (h.content.take (stop - limit) ++ before) ++ [newline] := by
        have hfirst : (h.content.drop (stop - limit)).take (before.length + 1) =
            (window h.content (stop - limit) stop).take (before.length + 1) := by
          rw [hbytes, List.length_append, List.length_cons] at hlength
          rw [window, List.take_take, Nat.min_eq_left (by omega)]
        rw [List.take_add, hfirst, hbytes, List.take_length_add_append, List.append_assoc]
        rfl
      rw [hskip, htake]
      exact ends_append_separator _
    · rw [hskip, Nat.add_zero]
      by_cases hzero : stop - limit = 0
      · rw [hzero]
        exact .nil
      · apply ends_of_inside chunk (h.content.drop stop) _ (by omega) hne hinside
        rw [← window_split h.content (Nat.sub_le stop limit)]
        exact hlines
  · unfold page
    simp only [hraw, hreadable, if_true, window_drop, hlength]
    rw [Nat.add_sub_cancel' (Nat.sub_le stop limit)]

/-- The page that fits is no smaller than one that is known to fit. -/
theorem LogHandle.fitting_large {floor stop n m : Nat} (hle : n ≤ m)
    (hreadable : ∀ start, h.readable start = true)
    (hfits : ∀ response, h.page r file floor stop (minServiceLogChunkBytes * 2 ^ n) =
      some response → encode.fits response = true) :
    ∃ limit, minServiceLogChunkBytes * 2 ^ n ≤ limit ∧ h.page r file floor stop limit =
      some (h.fitting r encode file floor stop (minServiceLogChunkBytes * 2 ^ m)) := by
  have hpage : ∀ limit, ∃ response, h.page r file floor stop limit = some response := by
    intro limit
    rw [LogHandle.page, if_pos (hreadable _)]
    exact ⟨_, rfl⟩
  induction m, hle using Nat.le_induction with
  | base =>
    obtain ⟨response, hresponse⟩ := hpage (minServiceLogChunkBytes * 2 ^ n)
    refine ⟨_, Nat.le_refl _, ?_⟩
    rw [LogHandle.fitting, hresponse]
    simp only [if_pos (hfits response hresponse)]
  | succ m hle ih =>
    obtain ⟨response, hresponse⟩ := hpage (minServiceLogChunkBytes * 2 ^ (m + 1))
    have hgrows : minServiceLogChunkBytes * 2 ^ n ≤ minServiceLogChunkBytes * 2 ^ (m + 1) :=
      Nat.mul_le_mul_left _ (Nat.pow_le_pow_right (by decide) (by omega))
    by_cases hfit : encode.fits response = true
    · refine ⟨_, hgrows, ?_⟩
      rw [LogHandle.fitting, hresponse]
      simp only [if_pos hfit]
    · have hhalf :
          minServiceLogChunkBytes * 2 ^ (m + 1) / 2 = minServiceLogChunkBytes * 2 ^ m := by
        rw [Nat.pow_succ, ← Nat.mul_assoc, Nat.mul_div_cancel _ (by decide)]
      have hlarge : ¬minServiceLogChunkBytes * 2 ^ (m + 1) ≤ minServiceLogChunkBytes := by
        have hpower : 0 < 2 ^ m := Nat.pow_pos (by decide)
        rw [Nat.pow_succ, minServiceLogChunkBytes]
        omega
      rw [LogHandle.fitting, hresponse]
      simp only [if_neg hfit, if_neg hlarge, hhalf]
      exact ih

/-- A page that is asked for where a line ends, above the beginning of the file. -/
theorem readChunk_whole {chunk stop : Nat} {before : Option Nat}
    (hreadable : ∀ start, h.readable start = true)
    (hcap : h.content.length ≤ maxServiceLogTailBytes)
    (hchunks : FitsChunks r encode file h.content chunk) (hpositive : 0 < stop)
    (hend : stop ≤ h.content.length)
    (hbefore : before = some stop ∨ before = none ∧ stop = h.content.length) :
    ∃ start, start < stop ∧ Ends newline (h.content.take start) ∧
      readChunk r encode (some h) file before = .serviceLog file start stop
        (String.ofList (r.redactServiceLog (fromUtf8Lossy (window h.content start stop)))) := by
  obtain ⟨n, hn, rfl⟩ := hchunks.size
  have hchunk : 0 < minServiceLogChunkBytes * 2 ^ n :=
    Nat.mul_pos (by decide) (Nat.pow_pos (by decide))
  have hoffset : (before.map (min · h.content.length)).getD h.content.length = stop := by
    rcases hbefore with rfl | ⟨rfl, rfl⟩
    · exact Nat.min_eq_left hend
    · rfl
  have hread : readChunk r encode (some h) file before =
      h.fitting r encode file 0 stop (minServiceLogChunkBytes * 2 ^ 5) := by
    have hlimit : serviceLogChunkBytes = minServiceLogChunkBytes * 2 ^ 5 := by decide
    simp only [readChunk, hoffset, Nat.sub_eq_zero_of_le hcap, hlimit]
    rw [if_neg (Nat.not_le.2 hpositive)]
  have hfits : ∀ response, h.page r file 0 stop (minServiceLogChunkBytes * 2 ^ n) =
      some response → encode.fits response = true := by
    intro response hresponse
    obtain ⟨start, hlt, hnear, -, hpage⟩ := LogHandle.page_whole r file hreadable
      hchunks.lines (Nat.le_refl _) hchunk hpositive hend
    rw [hpage, Option.some.injEq] at hresponse
    rw [← hresponse]
    exact hchunks.frames start stop hlt.le hend (by omega)
  obtain ⟨limit, hlarge, hfitting⟩ := LogHandle.fitting_large hn hreadable hfits
  obtain ⟨start, hlt, -, hends, hpage⟩ := LogHandle.page_whole r file hreadable
    hchunks.lines hlarge (Nat.lt_of_lt_of_le hchunk hlarge) hpositive hend
  rw [hpage, Option.some.injEq] at hfitting
  exact ⟨start, hlt, hends, hread.trans hfitting.symm⟩

/-- What is redacted up to a line, and from there on. -/
theorem redactServiceLog_take {content : List UInt8} {start stop : Nat} (hle : start ≤ stop)
    (hends : Ends newline (content.take start)) :
    r.redactServiceLog (fromUtf8Lossy (content.take stop)) =
      r.redactServiceLog (fromUtf8Lossy (content.take start)) ++
        r.redactServiceLog (fromUtf8Lossy (window content start stop)) := by
  have hsplit : content.take stop = content.take start ++ window content start stop := by
    rw [window, ← List.take_add, Nat.add_sub_cancel' hle]
  rw [hsplit, r.redactServiceLog_lines, lines_append hends, List.flatMap_append,
    ← r.redactServiceLog_lines, ← r.redactServiceLog_lines]

/-- The cursor asks for what ends at this offset above the beginning of the file. -/
structure AsksFor (content : List UInt8) (before : Option Nat) (stop : Nat) : Prop where
  cursor : before = some stop ∨ before = none ∧ stop = content.length
  positive : 0 < stop
  inside : stop ≤ content.length

/-- What one call returns, and what the next one asks for. -/
theorem serviceLogReader_step {chunk stop : Nat} {before : Option Nat}
    (hreadable : ∀ start, h.readable start = true)
    (hcap : h.content.length ≤ maxServiceLogTailBytes)
    (hchunks : FitsChunks r encode file h.content chunk)
    (hasks : AsksFor h.content before stop) :
    ∃ start, start < stop ∧ Ends newline (h.content.take start) ∧
      serviceLogReader r encode (some h) file before = (.serviceLog file start stop
        (String.ofList (r.redactServiceLog (fromUtf8Lossy (window h.content start stop)))),
        if start = 0 then none else some (some start)) := by
  obtain ⟨start, hlt, hends, hread⟩ :=
    readChunk_whole hreadable hcap hchunks hasks.positive hasks.inside hasks.cursor
  refine ⟨start, hlt, hends, ?_⟩
  have hne : start ≠ stop := Nat.ne_of_lt hlt
  simp [serviceLogReader, hread, nextBefore, hne]

/-- A log within the cap whose lines fit in a chunk is paged from its end down to its beginning:
every page ends where the one before began, the pages end, and from the last to the first they hold
the redaction of the whole file, which is that of its lines. -/
theorem service_log_pages {chunk : Nat} (hreadable : ∀ start, h.readable start = true)
    (hcap : h.content.length ≤ maxServiceLogTailBytes)
    (hchunks : FitsChunks r encode file h.content chunk) :
    (∃ pages cursors, Paging.Run (serviceLogReader r encode (some h) file) none pages cursors ∧
      PagesDown file h.content.length pages (r.redactServiceLog (fromUtf8Lossy h.content))) ∧
    r.redactServiceLog (fromUtf8Lossy h.content) =
      (lines newline h.content).flatMap fun row => r.redactServiceLog (fromUtf8Lossy row) := by
  refine ⟨?_, r.redactServiceLog_lines h.content⟩
  by_cases hempty : h.content.length = 0
  · have hread : serviceLogReader r encode (some h) file none =
        (.serviceLog file 0 0 "", none) := by
      simp [serviceLogReader, readChunk, hempty, nextBefore]
    have hnil : h.content = [] := List.length_eq_zero_iff.1 hempty
    have hlast : PagesDown file 0 [.serviceLog file 0 0 ""] [] := PagesDown.last 0 ""
    refine ⟨_, _, Paging.Run.last hread, ?_⟩
    rw [hnil]
    simpa [fromUtf8Lossy, decodeFrom] using hlast
  have hlast : ∀ before stop page, AsksFor h.content before stop →
      serviceLogReader r encode (some h) file before = (page, none) →
      PagesDown file stop [page] (r.redactServiceLog (fromUtf8Lossy (h.content.take stop))) := by
    intro before stop page hasks hread
    obtain ⟨start, hlt, -, hpage⟩ := serviceLogReader_step hreadable hcap hchunks hasks
    rw [hpage, Prod.mk.injEq] at hread
    obtain ⟨rfl, hnone⟩ := hread
    have hzero : start = 0 := by
      by_contra hne
      rw [if_neg hne] at hnone
      exact absurd hnone (by simp)
    rw [hzero]
    exact PagesDown.last_ofList file stop _
  have hmore : ∀ before stop page next, AsksFor h.content before stop →
      serviceLogReader r encode (some h) file before = (page, some next) →
      next.getD h.content.length < before.getD h.content.length ∧
        ∃ start, AsksFor h.content next start ∧ ∀ pages,
          PagesDown file start pages
            (r.redactServiceLog (fromUtf8Lossy (h.content.take start))) →
          PagesDown file stop (page :: pages)
            (r.redactServiceLog (fromUtf8Lossy (h.content.take stop))) := by
    intro before stop page next hasks hread
    obtain ⟨start, hlt, hends, hpage⟩ := serviceLogReader_step hreadable hcap hchunks hasks
    rw [hpage, Prod.mk.injEq] at hread
    obtain ⟨rfl, hsome⟩ := hread
    have hpositive : start ≠ 0 := by
      intro hzero
      rw [if_pos hzero] at hsome
      exact absurd hsome (by simp)
    rw [if_neg hpositive, Option.some.injEq] at hsome
    have hstop : before.getD h.content.length = stop := by
      rcases hasks.cursor with rfl | ⟨rfl, rfl⟩
      · rfl
      · rfl
    have hinside := hasks.inside
    refine ⟨?_, start, ⟨Or.inl hsome.symm, Nat.pos_of_ne_zero hpositive, by omega⟩, ?_⟩
    · rw [← hsome, hstop]
      exact hlt
    · intro pages hpages
      rw [redactServiceLog_take hlt.le hends]
      exact PagesDown.more_ofList _ hlt hpages
  have hrun := Paging.exists_run (AsksFor h.content) (fun pages stop =>
      PagesDown file stop pages (r.redactServiceLog (fromUtf8Lossy (h.content.take stop))))
    (fun before => before.getD h.content.length) hlast hmore
    ⟨Or.inr ⟨rfl, rfl⟩, Nat.pos_of_ne_zero hempty, Nat.le_refl _⟩
  rwa [List.take_length] at hrun

end Page

section Sample

private theorem keepText_empty : id ([] : List Char) = [] := rfl

private def keepText : Replacer := ⟨id, keepText_empty⟩

private def keepAll : Redactors :=
  ⟨keepText, keepText, keepText, keepText, keepText, keepText, keepText, keepText, keepText,
    keepText⟩

private def shortFrames : Encoding := fun _ => some [0]

/-- A log of two lines. -/
private def twoLines : LogHandle where
  content := [53, 32, 97, newline, 54, 32, 98, newline]
  readable _ := true

theorem service_log_pages_twoLines :
    ∃ pages cursors,
      Paging.Run (serviceLogReader keepAll shortFrames (some twoLines) .current) none pages
        cursors ∧
      PagesDown .current 8 pages
        (keepAll.redactServiceLog (fromUtf8Lossy [53, 32, 97, newline, 54, 32, 98, newline])) := by
  have hchunks : FitsChunks keepAll shortFrames .current twoLines.content 512 := by
    refine ⟨⟨0, by decide, by decide⟩, by decide, ?_⟩
    exact fun start stop _ _ _ => rfl
  exact (service_log_pages (fun _ => rfl) (by decide) hchunks).1

end Sample

end MultiCore
