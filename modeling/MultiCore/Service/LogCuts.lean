import MultiCore.Service.LogPaging

/-!
# Where pages of the service log meet

Each page ends where the one read before it begins. That is where a line begins,
except inside a line longer than a page, pieces of which are redacted by
themselves, and at the cap on how far back the log is shown. A text cut down to
its newest lines is still the redaction of a run of bytes.
-/

namespace MultiCore

open Utf8 Lines

/-- No match of the pattern is replaced by text with a line break. -/
def Replacer.OneLine (p : Replacer) : Prop :=
  ∀ text, '\n' ∉ text → '\n' ∉ p.replaceAll text

/-- No pattern breaks a line. -/
structure Redactors.OneLine (r : Redactors) : Prop where
  anyUrl : r.anyUrl.OneLine
  header : r.header.OneLine
  sensitiveValue : r.sensitiveValue.OneLine
  httpUrl : r.httpUrl.OneLine
  authorization : r.authorization.OneLine
  cookie : r.cookie.OneLine
  uuid : r.uuid.OneLine
  windowsProfile : r.windowsProfile.OneLine
  unixHome : r.unixHome.OneLine
  sid : r.sid.OneLine

namespace Redactors

variable {r : Redactors}

/-- The redacted lines of some bytes. -/
def redactBytes (r : Redactors) (bytes : List UInt8) : List Char :=
  r.redactServiceLog (fromUtf8Lossy bytes)

@[simp] theorem redactBytes_nil : r.redactBytes [] = [] := r.redactServiceLog_nil

theorem redactBytes_line {body : List UInt8} (h : newline ∉ body) (rest : List UInt8) :
    r.redactBytes (body ++ newline :: rest) =
      r.redactServiceLogLine (fromUtf8Lossy body) ++ '\n' :: r.redactBytes rest := by
  unfold redactBytes
  rw [fromUtf8Lossy_newline, r.redactServiceLog_line (fromUtf8Lossy_ne_newline h)]

/-- Whole lines are redacted by themselves. -/
theorem redactBytes_append {bytes : List UInt8} (h : Ends newline bytes) (rest : List UInt8) :
    r.redactBytes (bytes ++ rest) = r.redactBytes bytes ++ r.redactBytes rest := by
  unfold redactBytes
  rw [r.redactServiceLog_lines, lines_append h, List.flatMap_append, ← r.redactServiceLog_lines,
    ← r.redactServiceLog_lines]

theorem OneLine.redactText (h : r.OneLine) {line : List Char} (hline : '\n' ∉ line) :
    '\n' ∉ r.redactText line :=
  h.uuid _ (h.cookie _ (h.authorization _ (h.httpUrl _ hline)))

/-- What a diagnostic shows besides its own text stands in the line. -/
theorem mem_of_redactedDiagnostic {c : Char} {line : List Char} (hspace : c ≠ ' ')
    (hdiagnostic : c ∉ "[redacted privileged diagnostic]".toList)
    (h : c ∈ redactedDiagnostic line) : c ∈ line := by
  unfold redactedDiagnostic at h
  dsimp only at h
  split at h
  · rcases List.mem_append.1 h with hseconds | hrest
    · exact (List.takeWhile_sublist _).subset hseconds
    · rcases List.mem_cons.1 hrest with heq | hrest
      · exact absurd heq hspace
      · exact absurd hrest hdiagnostic
  · exact absurd h hdiagnostic

/-- A character that is not a blank stands in the line where it is shown without control
characters. -/
theorem mem_of_plain_line {c : Char} {line : List Char} (hspace : c ≠ ' ')
    (h : c ∈ line.map fun c => if Text.isControl c && c != '\t' then ' ' else c) : c ∈ line := by
  obtain ⟨c', hc', heq⟩ := List.mem_map.1 h
  split at heq
  · exact absurd heq.symm hspace
  · exact heq ▸ hc'

/-- A redacted line is one line. -/
theorem OneLine.line (h : r.OneLine) {line : List Char} (hline : '\n' ∉ line) :
    '\n' ∉ r.redactServiceLogLine line := by
  have hplain : '\n' ∉ line.map fun c => if Text.isControl c && c != '\t' then ' ' else c :=
    fun hmem => hline (mem_of_plain_line (by decide) hmem)
  unfold redactServiceLogLine
  dsimp only
  split
  · exact fun hmem => hplain (mem_of_redactedDiagnostic (by decide) (by decide) hmem)
  · exact h.sid _ (h.unixHome _ (h.windowsProfile _
      (h.redactText (h.sensitiveValue _ (h.header _ (h.anyUrl _ hplain))))))

/-- What stands after a line break in redacted text is the redaction of what stands after one in
the bytes. -/
theorem OneLine.suffix (h : r.OneLine) {bytes : List UInt8} {before after : List Char}
    (hbytes : r.redactBytes bytes = before ++ '\n' :: after) :
    ∃ k ≤ bytes.length, after = r.redactBytes (bytes.drop k) := by
  induction bytes using induction_lines newline generalizing before with
  | nil => exact absurd hbytes.symm (by simp)
  | unfinished body hbody hne =>
    have hchars := fromUtf8Lossy_ne_newline hbody
    have hnone := h.line hchars
    rw [← r.redactServiceLog_unfinished hchars] at hnone
    unfold redactBytes at hbytes
    rw [hbytes] at hnone
    exact absurd (List.mem_append_right _ List.mem_cons_self) hnone
  | line body rest hbody ih =>
    have hnone := h.line (fromUtf8Lossy_ne_newline hbody)
    rw [redactBytes_line hbody] at hbytes
    have hdrop (k : Nat) : (body ++ newline :: rest).drop (body.length + 1 + k) = rest.drop k := by
      rw [Nat.add_assoc, List.drop_length_add_append, Nat.add_comm, List.drop_succ_cons]
    have hnext : after = r.redactBytes rest →
        ∃ k ≤ (body ++ newline :: rest).length,
          after = r.redactBytes ((body ++ newline :: rest).drop k) := by
      intro hafter
      refine ⟨body.length + 1, by simp, ?_⟩
      rw [← Nat.add_zero (body.length + 1), hdrop 0, List.drop_zero]
      exact hafter
    rcases List.append_eq_append_iff.1 hbytes with ⟨middle, -, hrest⟩ | ⟨middle, hline, hrest⟩
    · cases middle with
      | nil => exact hnext (List.cons.inj hrest).2.symm
      | cons c middle =>
        obtain ⟨k, hk, hafter⟩ := ih (List.cons.inj hrest).2
        refine ⟨body.length + 1 + k, ?_, ?_⟩
        · rw [List.length_append, List.length_cons]
          omega
        · rw [hdrop k]
          exact hafter
    · cases middle with
      | nil => exact hnext (List.cons.inj hrest).2
      | cons c middle =>
        have hc : '\n' = c := (List.cons.inj hrest).1
        rw [hline, ← hc] at hnone
        exact absurd (List.mem_append_right _ List.mem_cons_self) hnone

end Redactors

section Windows

variable {content : List UInt8} {start stop : Nat}

/-- A file that has grown shows what it showed. -/
theorem window_grown (more : List UInt8) (h : stop ≤ content.length) (start : Nat) :
    window (content ++ more) start stop = window content start stop := by
  unfold window
  by_cases hstart : start ≤ content.length
  · rw [List.drop_append_of_le_length hstart, List.take_append_of_le_length]
    rw [List.length_drop]
    omega
  · have hzero : stop - start = 0 := by omega
    rw [hzero, List.take_zero, List.take_zero]

theorem window_append {mid : Nat} (hstart : start ≤ mid) (hstop : mid ≤ stop) :
    window content start stop = window content start mid ++ window content mid stop := by
  have hlength : stop - start = (mid - start) + (stop - mid) := by omega
  have hdrop : (content.drop start).drop (mid - start) = content.drop mid := by
    rw [List.drop_drop, Nat.add_sub_cancel' hstart]
  unfold window
  rw [hlength, List.take_add, hdrop]

/-- A window from where a line begins, or to where one begins. -/
theorem redactBytes_window {r : Redactors} {mid : Nat} (hstart : start ≤ mid) (hstop : mid ≤ stop)
    (h : AtLine content mid) :
    r.redactBytes (window content start stop) =
      r.redactBytes (window content start mid) ++ r.redactBytes (window content mid stop) := by
  rw [window_append hstart hstop]
  rcases h with hends | hpast
  · have htake : content.take mid = content.take start ++ window content start mid := by
      rw [window, ← List.take_add, Nat.add_sub_cancel' hstart]
    rw [htake] at hends
    exact Redactors.redactBytes_append hends.of_append _
  · have hnone : window content mid stop = [] := by
      rw [window, List.drop_eq_nil_iff.2 hpast, List.take_nil]
    rw [hnone, List.append_nil, Redactors.redactBytes_nil, List.append_nil]

end Windows

/-- The text of a run of bytes, redacted page by page; the pages meet at cuts. -/
inductive PagesOf (r : Redactors) (content : List UInt8) (cut : Nat → Prop) :
    Nat → Nat → List Char → Prop
  | none (stop : Nat) : PagesOf r content cut stop stop []
  | page {start mid stop : Nat} {text : List Char} (hle : start ≤ mid) (hcut : cut mid)
      (rest : PagesOf r content cut mid stop text) :
      PagesOf r content cut start stop (r.redactBytes (window content start mid) ++ text)

theorem PagesOf.le {r : Redactors} {content : List UInt8} {cut : Nat → Prop} {start stop : Nat}
    {text : List Char} (h : PagesOf r content cut start stop text) : start ≤ stop := by
  induction h with
  | none stop => exact Nat.le_refl stop
  | page hle hcut rest ih => exact hle.trans ih

/-- Pages that meet where lines begin are redacted line by line. -/
theorem PagesOf.lines {r : Redactors} {content : List UInt8} {cut : Nat → Prop} {start stop : Nat}
    {text : List Char} (h : PagesOf r content cut start stop text)
    (hcut : ∀ mid, cut mid → AtLine content mid) :
    text = r.redactBytes (window content start stop) := by
  induction h with
  | none stop => rw [window, Nat.sub_self, List.take_zero, Redactors.redactBytes_nil]
  | page hle hmid rest ih => rw [redactBytes_window hle rest.le (hcut _ hmid), ← ih]

theorem PagesOf.mono {r : Redactors} {content : List UInt8} {cut cut' : Nat → Prop}
    {start stop : Nat} {text : List Char} (h : PagesOf r content cut start stop text)
    (hcut : ∀ mid, cut mid → cut' mid) : PagesOf r content cut' start stop text := by
  induction h with
  | none stop => exact .none stop
  | page hle hmid rest ih => exact .page hle (hcut _ hmid) ih

/-- Inside a line that goes on for at least the smallest page. -/
def InLongLine (content : List UInt8) (offset : Nat) : Prop :=
  ∃ piece, piece <+: content.drop offset ∧ minServiceLogChunkBytes ≤ piece.length ∧
    newline ∉ piece.dropLast

section Pages

variable {h : LogHandle} {r : Redactors} {encode : Encoding} {file : ServiceLogFile}

/-- How far back a log is shown. -/
def LogHandle.floor (h : LogHandle) : Nat := h.content.length - maxServiceLogTailBytes

/-- Where a page begins. -/
theorem LogHandle.page_cut {floor stop limit : Nat} {response : ServiceResponse}
    (hpage : h.page r file floor stop limit = some response) (hfloor : floor < stop)
    (hlimit : 0 < limit) (hend : stop ≤ h.content.length) :
    ∃ start ≤ stop, stop ≤ start + limit ∧
      response = .serviceLog file start stop
        (String.ofList (r.redactBytes (window h.content start stop))) ∧
      (start = floor ∨ Ends newline (h.content.take start) ∨
        limit ≤ stop - start ∧ newline ∉ (window h.content start stop).dropLast) := by
  unfold page at hpage
  dsimp only at hpage
  split at hpage
  swap
  · exact nomatch hpage
  generalize hraw : max (stop - limit) floor = rawStart at hpage
  have hlt : rawStart < stop := by omega
  have hlength := window_length rawStart hend
  have hne : window h.content rawStart stop ≠ [] := by
    intro hempty
    rw [hempty, List.length_nil] at hlength
    omega
  have hskip := skipToLine_lt rawStart hne
  rw [window_drop, hlength, Nat.add_sub_cancel' hlt.le] at hpage
  refine ⟨rawStart + skipToLine rawStart (window h.content rawStart stop), by omega,
    by omega, (Option.some.inj hpage).symm, ?_⟩
  rcases skipToLine_cases rawStart (window h.content rawStart stop) with
    ⟨hzero, hskip⟩ | ⟨before, after, hbytes, hskip⟩ | ⟨hskip, hinside⟩
  · right
    left
    rw [hskip, hzero]
    exact .nil
  · right
    left
    have htake : h.content.take (rawStart + (before.length + 1)) =
        (h.content.take rawStart ++ before) ++ [newline] := by
      have hfirst : (h.content.drop rawStart).take (before.length + 1) =
          (window h.content rawStart stop).take (before.length + 1) := by
        rw [hbytes, List.length_append, List.length_cons] at hlength
        rw [window, List.take_take, Nat.min_eq_left (by omega)]
      rw [List.take_add, hfirst, hbytes, List.take_length_add_append, List.append_assoc]
      rfl
    rw [hskip, htake]
    exact ends_append_separator _
  · rw [hskip, Nat.add_zero]
    by_cases hroom : stop - limit ≤ floor
    · exact Or.inl (by omega)
    · exact Or.inr (Or.inr ⟨by omega, hinside⟩)

/-- The page that fits is empty, or no smaller than one that is known to fit. -/
theorem LogHandle.fitting_atLeast {floor stop n m : Nat} (hle : n ≤ m)
    (hfits : n = 0 ∨ ∀ response, h.page r file floor stop (minServiceLogChunkBytes * 2 ^ n) =
      some response → encode.fits response = true) :
    h.fitting r encode file floor stop (minServiceLogChunkBytes * 2 ^ m) =
        .serviceLog file stop stop "" ∨
      ∃ limit, minServiceLogChunkBytes * 2 ^ n ≤ limit ∧ h.page r file floor stop limit =
        some (h.fitting r encode file floor stop (minServiceLogChunkBytes * 2 ^ m)) := by
  induction m, hle using Nat.le_induction with
  | base =>
    rw [LogHandle.fitting]
    cases hpage : h.page r file floor stop (minServiceLogChunkBytes * 2 ^ n) with
    | none => exact Or.inl rfl
    | some response =>
      by_cases hfit : encode.fits response = true
      · simp only [if_pos hfit]
        exact Or.inr ⟨_, Nat.le_refl _, hpage⟩
      · rcases hfits with hzero | hfits
        · simp only [if_neg hfit, hzero]
          exact Or.inl rfl
        · exact absurd (hfits response hpage) hfit
  | succ m hle ih =>
    have hhalf : minServiceLogChunkBytes * 2 ^ (m + 1) / 2 = minServiceLogChunkBytes * 2 ^ m := by
      rw [Nat.pow_succ, ← Nat.mul_assoc, Nat.mul_div_cancel _ (by decide)]
    have hgrows : minServiceLogChunkBytes * 2 ^ n ≤ minServiceLogChunkBytes * 2 ^ (m + 1) :=
      Nat.mul_le_mul_left _ (Nat.pow_le_pow_right (by decide) (by omega))
    rw [LogHandle.fitting]
    cases hpage : h.page r file floor stop (minServiceLogChunkBytes * 2 ^ (m + 1)) with
    | none => exact Or.inl rfl
    | some response =>
      by_cases hfit : encode.fits response = true
      · simp only [if_pos hfit]
        exact Or.inr ⟨_, hgrows, hpage⟩
      · simp only [if_neg hfit, hhalf]
        by_cases hsmall : minServiceLogChunkBytes * 2 ^ (m + 1) ≤ minServiceLogChunkBytes
        · rw [if_pos hsmall]
          exact Or.inl rfl
        · rw [if_neg hsmall]
          exact ih

/-- The page of a file that is there, asked for up to an offset of it: nothing, or a page that
begins where the cap is, where a line begins or inside a long line. -/
theorem readChunk_cut {stop : Nat} {before : Option Nat}
    (hoffset : (before.map (min · h.content.length)).getD h.content.length = stop)
    {n : Nat} (hn : n ≤ 5)
    (hfits : n = 0 ∨ ∀ response, h.page r file h.floor stop (minServiceLogChunkBytes * 2 ^ n) =
      some response → encode.fits response = true) :
    readChunk r encode (some h) file before = .serviceLog file stop stop "" ∨
      h.floor < stop ∧ ∃ start ≤ stop,
        readChunk r encode (some h) file before = .serviceLog file start stop
          (String.ofList (r.redactBytes (window h.content start stop))) ∧
        (start = h.floor ∨ Ends newline (h.content.take start) ∨
          minServiceLogChunkBytes * 2 ^ n ≤ stop - start ∧
            newline ∉ (window h.content start stop).dropLast) := by
  have hend : stop ≤ h.content.length := by
    cases before with
    | none => exact hoffset.ge
    | some before => exact hoffset ▸ Nat.min_le_right before h.content.length
  have hlimit : serviceLogChunkBytes = minServiceLogChunkBytes * 2 ^ 5 := by decide
  have hread : readChunk r encode (some h) file before =
      if stop ≤ h.floor then .serviceLog file stop stop ""
      else h.fitting r encode file h.floor stop (minServiceLogChunkBytes * 2 ^ 5) := by
    simp only [readChunk, hoffset, hlimit]
    rfl
  by_cases hfloor : stop ≤ h.floor
  · rw [hread, if_pos hfloor]
    exact Or.inl rfl
  rw [hread, if_neg hfloor]
  rcases LogHandle.fitting_atLeast hn hfits with hempty | ⟨limit, hlarge, hpage⟩
  · exact Or.inl hempty
  · have hpositive : 0 < limit :=
      Nat.lt_of_lt_of_le (Nat.mul_pos (by decide) (Nat.pow_pos (by decide))) hlarge
    obtain ⟨start, hle, -, hresponse, hcut⟩ :=
      LogHandle.page_cut hpage (Nat.lt_of_not_le hfloor) hpositive hend
    refine Or.inr ⟨Nat.lt_of_not_le hfloor, start, hle, hresponse, ?_⟩
    rcases hcut with hcap | hends | ⟨hlong, hinside⟩
    · exact Or.inl hcap
    · exact Or.inr (Or.inl hends)
    · exact Or.inr (Or.inr ⟨hlarge.trans hlong, hinside⟩)

/-- A file that has grown is served as before, up to where it ended. -/
theorem LogHandle.page_grown {content : List UInt8} (more : List UInt8) {readable : Nat → Bool}
    {stop : Nat} (hend : stop ≤ content.length) (floor limit : Nat) :
    (⟨content ++ more, readable⟩ : LogHandle).page r file floor stop limit =
      (⟨content, readable⟩ : LogHandle).page r file floor stop limit := by
  unfold page
  simp only [window_grown more hend]

end Pages

/-- The pages of a file, from where it once ended, hold the redaction of runs of what it then
was, and meet at these cuts. -/
def CutsOf (r : Redactors) (encode : Encoding) (file : ServiceLogFile) (content : List UInt8)
    (cut : Nat → Prop) : Prop :=
  ∀ (more : List UInt8) (readable : Nat → Bool) (before : Option Nat) (stop : Nat),
    stop ≤ content.length →
    (before = some stop ∨ before = none ∧ more = [] ∧ stop = content.length) →
    readChunk r encode (some ⟨content ++ more, readable⟩) file before =
        .serviceLog file stop stop "" ∨
      (⟨content ++ more, readable⟩ : LogHandle).floor < stop ∧ ∃ start ≤ stop,
        readChunk r encode (some ⟨content ++ more, readable⟩) file before =
          .serviceLog file start stop
            (String.ofList (r.redactBytes (window content start stop))) ∧
        (start = (⟨content ++ more, readable⟩ : LogHandle).floor ∨ cut start)

/-- The text of a run of bytes of a file as it is served: redacted line by line, pieces of a long
line by themselves; where the lines of the file fit a page, simply line by line. -/
def Redacted (r : Redactors) (encode : Encoding) (file : ServiceLogFile) (content : List UInt8)
    (start stop : Nat) (text : List Char) : Prop :=
  PagesOf r content (fun offset => AtLine content offset ∨ InLongLine content offset) start stop
      text ∧
    ∀ chunk, FitsChunks r encode file content chunk →
      text = r.redactBytes (window content start stop)

section Cuts

variable {r : Redactors} {encode : Encoding} {file : ServiceLogFile} {content : List UInt8}

/-- The offset a page of a grown file ends at. -/
theorem offset_grown {more : List UInt8} {before : Option Nat} {stop : Nat}
    (hend : stop ≤ content.length)
    (hbefore : before = some stop ∨ before = none ∧ more = [] ∧ stop = content.length) :
    (before.map (min · (content ++ more).length)).getD (content ++ more).length = stop := by
  rcases hbefore with rfl | ⟨rfl, rfl, rfl⟩
  · have hgrown : stop ≤ (content ++ more).length := by
      rw [List.length_append]
      omega
    exact Nat.min_eq_left hgrown
  · rw [List.append_nil]
    rfl

/-- The pages of any file meet where a line begins, or inside a long line. -/
theorem cutsOf_any (r : Redactors) (encode : Encoding) (file : ServiceLogFile)
    (content : List UInt8) :
    CutsOf r encode file content fun offset =>
      AtLine content offset ∨ InLongLine content offset := by
  intro more readable before stop hend hbefore
  have hasked := offset_grown hend hbefore
  have hpage := @readChunk_cut ⟨content ++ more, readable⟩ r encode file stop before hasked 0
    (Nat.zero_le 5) (Or.inl rfl)
  rcases hpage with hempty | ⟨hfloor, start, hle, hread, hcut⟩
  · exact Or.inl hempty
  · dsimp only at hread hcut
    rw [window_grown more hend] at hread hcut
    refine Or.inr ⟨hfloor, start, hle, hread, ?_⟩
    rcases hcut with hcap | hends | ⟨hlong, hinside⟩
    · exact Or.inl hcap
    · right
      left
      rw [List.take_append_of_le_length (hle.trans hend)] at hends
      exact Or.inl hends
    · right
      right
      refine ⟨window content start stop, List.take_prefix _ _, ?_, hinside⟩
      rw [window_length start hend]
      exact hlong

/-- The pages of a file whose lines fit meet where lines begin. -/
theorem cutsOf_fitting {chunk : Nat} (h : FitsChunks r encode file content chunk) :
    CutsOf r encode file content (AtLine content) := by
  intro more readable before stop hend hbefore
  obtain ⟨n, hn, rfl⟩ := h.size
  have hchunk : 0 < minServiceLogChunkBytes * 2 ^ n :=
    Nat.mul_pos (by decide) (Nat.pow_pos (by decide))
  have hasked := offset_grown hend hbefore
  have hany := cutsOf_any r encode file content more readable before stop hend hbefore
  rcases hany with hempty | ⟨hfloor, -⟩
  · exact Or.inl hempty
  have hfits : ∀ response,
      (⟨content ++ more, readable⟩ : LogHandle).page r file
          (⟨content ++ more, readable⟩ : LogHandle).floor stop (minServiceLogChunkBytes * 2 ^ n) =
        some response → encode.fits response = true := by
    intro response hpage
    rw [LogHandle.page_grown more hend] at hpage
    obtain ⟨start, hle, hnear, rfl, -⟩ := LogHandle.page_cut hpage hfloor hchunk hend
    exact h.frames start stop hle hend (by omega)
  have hpage := @readChunk_cut ⟨content ++ more, readable⟩ r encode file stop before hasked n
    hn (Or.inr hfits)
  rcases hpage with hempty | ⟨hfloor, start, hle, hread, hcut⟩
  · exact Or.inl hempty
  dsimp only at hread hcut
  rw [window_grown more hend] at hread hcut
  refine Or.inr ⟨hfloor, start, hle, hread, ?_⟩
  rcases hcut with hcap | hends | ⟨hlong, hinside⟩
  · exact Or.inl hcap
  · rw [List.take_append_of_le_length (hle.trans hend)] at hends
    exact Or.inr (Or.inl hends)
  · right
    left
    -- the page is as long as a line may be, so the line it lies in begins with it
    have hlength := window_length start hend
    have hne : window content start stop ≠ [] := by
      intro hnil
      rw [hnil, List.length_nil] at hlength
      omega
    have hlines : ∀ row ∈ lines newline
        (content.take start ++ window content start stop ++ content.drop stop),
        row.length ≤ minServiceLogChunkBytes * 2 ^ n := by
      rw [← window_split content hle]
      exact h.lines
    exact ends_of_inside _ _ hlines (hlength ▸ hlong) hne hinside

end Cuts

end MultiCore
