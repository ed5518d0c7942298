import Mathlib.Data.List.Chain
import MultiCore.Library.Text

/-!
# Texts a provider shows

Titles and announcements come from response headers. Control characters and
every kind of white space become single spaces, bidirectional controls vanish,
and the text is cut at a limit. The whole text is its words with one space
between them; what is returned is a prefix of it, which may end in such a space.
-/

namespace MultiCore.Subscription

open Text

/-- The characters that change the direction of the text around them. -/
def isBidiControl (c : Char) : Bool :=
  let n := c.toNat
  n = 0x061C || n = 0x200E || n = 0x200F || (0x202A ≤ n && n ≤ 0x202E) ||
    (0x2066 ≤ n && n ≤ 0x2069)

/-- A character that only separates. -/
def isBlank (c : Char) : Bool := isWhitespace c || isControl c

/-- The loop of `sanitizeText`: what is left to read, the output so far, and whether a space is
due before the next character. -/
def sanitizeFrom (limit : Nat) : List Char → List Char → Bool → List Char
  | [], output, _ => output
  | c :: rest, output, pendingSpace =>
    if isBidiControl c then sanitizeFrom limit rest output pendingSpace
    else if isBlank c then sanitizeFrom limit rest output !output.isEmpty
    else
      let output := if pendingSpace && output.length < limit then output ++ [' '] else output
      if limit ≤ output.length then output else sanitizeFrom limit rest (output ++ [c]) false

/-- A provider's text as it is shown, or nothing. -/
def sanitizeText (value : List Char) (limit : Nat) : Option (List Char) :=
  let output := sanitizeFrom limit value [] false
  if output.isEmpty then none else some output

/-- What stands between the separators, before empty pieces are left out. -/
def segments (value : List Char) : List (List Char) :=
  pieces isBlank (value.filter fun c => !isBidiControl c)

/-- The words of a text. -/
def words (value : List Char) : List (List Char) := (segments value).filter fun w => !w.isEmpty

/-- Some words, each with a space before it. -/
def joined (ws : List (List Char)) : List Char := ws.flatMap fun w => ' ' :: w

/-- The words with one space between them: the text without a limit. -/
def spaced (value : List Char) : List Char := (joined (words value)).drop 1

/-- What follows an output that is not empty. -/
def following (pendingSpace : Bool) (value : List Char) : List Char :=
  if pendingSpace then joined (words value)
  else (segments value).head?.getD [] ++
    joined ((segments value).tail.filter fun w => !w.isEmpty)

/-- What is promised of a shown text. -/
structure Clean (limit : Nat) (text : List Char) : Prop where
  nonempty : text ≠ []
  bounded : text.length ≤ limit
  visible : ∀ c ∈ text, isControl c = false ∧ isBidiControl c = false
  leading : text.head? ≠ some ' '
  trailing : text.getLast? ≠ some ' '
  doubled : ¬[' ', ' '] <:+: text
  stable : sanitizeText text limit = some text

section Words

variable {c : Char} {value : List Char}

theorem segments_bidi (hc : isBidiControl c = true) : segments (c :: value) = segments value := by
  rw [segments, List.filter_cons_of_neg (by rw [hc]; decide), segments]

theorem segments_blank (hbidi : isBidiControl c = false) (hc : isBlank c = true) :
    segments (c :: value) = [] :: segments value := by
  rw [segments, List.filter_cons_of_pos (by rw [hbidi]; decide), pieces_separator hc, segments]

theorem segments_visible (hbidi : isBidiControl c = false) (hc : isBlank c = false) :
    ∃ piece rest, segments value = piece :: rest ∧
      segments (c :: value) = (c :: piece) :: rest := by
  rw [segments, segments, List.filter_cons_of_pos (by rw [hbidi]; decide)]
  exact pieces_cons hc _

@[simp] theorem joined_nil : joined [] = [] := rfl

@[simp] theorem joined_cons (w : List Char) (ws : List (List Char)) :
    joined (w :: ws) = ' ' :: (w ++ joined ws) := by
  rw [joined, List.flatMap_cons, List.cons_append, joined]

theorem following_bidi (hc : isBidiControl c = true) (pendingSpace : Bool) :
    following pendingSpace (c :: value) = following pendingSpace value := by
  simp only [following, words, segments_bidi hc]

theorem following_blank (hbidi : isBidiControl c = false) (hc : isBlank c = true)
    (pendingSpace : Bool) : following pendingSpace (c :: value) = following true value := by
  cases pendingSpace <;> simp [following, words, segments_blank hbidi hc]

theorem following_visible (hbidi : isBidiControl c = false) (hc : isBlank c = false)
    (pendingSpace : Bool) :
    following pendingSpace (c :: value) =
      (if pendingSpace then [' '] else []) ++ c :: following false value := by
  obtain ⟨piece, rest, hsegments, hcons⟩ : ∃ piece rest, segments value = piece :: rest ∧
      segments (c :: value) = (c :: piece) :: rest := segments_visible hbidi hc
  cases pendingSpace <;> simp [following, words, hsegments, hcons]

/-- The whole text is what would follow a space that is not written. -/
theorem spaced_eq (value : List Char) : spaced value = (following true value).drop 1 := rfl

end Words

section Loop

variable {limit : Nat}

/-- The loop writes what follows, up to the limit. -/
theorem sanitizeFrom_eq (value output : List Char) (pendingSpace : Bool) (hne : output ≠ [])
    (hle : output.length ≤ limit) :
    sanitizeFrom limit value output pendingSpace =
      (output ++ following pendingSpace value).take limit := by
  induction value generalizing output pendingSpace with
  | nil =>
    have hnone : following pendingSpace [] = [] := by
      cases pendingSpace <;> rfl
    rw [hnone, List.append_nil, List.take_of_length_le hle]
    rfl
  | cons c rest ih =>
    rw [sanitizeFrom]
    by_cases hbidi : isBidiControl c = true
    · rw [if_pos hbidi, ih output pendingSpace hne hle, following_bidi hbidi]
    rw [if_neg hbidi]
    have hbidi : isBidiControl c = false := by simpa using hbidi
    by_cases hblank : isBlank c = true
    · have hstarted : (!output.isEmpty) = true := by simpa using hne
      rw [if_pos hblank, hstarted, ih output true hne hle, following_blank hbidi hblank]
    rw [if_neg hblank, following_visible hbidi (by simpa using hblank)]
    -- The output with the space that was due, if there is room for it.
    have hroom : ∀ spacedOutput : List Char, spacedOutput ≠ [] → spacedOutput.length ≤ limit →
        (if limit ≤ spacedOutput.length then spacedOutput
          else sanitizeFrom limit rest (spacedOutput ++ [c]) false) =
        (spacedOutput ++ c :: following false rest).take limit := by
      intro spacedOutput hsome hfits
      by_cases hfull : limit ≤ spacedOutput.length
      · rw [if_pos hfull, List.take_append_of_le_length hfull, List.take_of_length_le hfits]
      · have hlength : (spacedOutput ++ [c]).length ≤ limit := by
          rw [List.length_append, List.length_singleton]
          omega
        rw [if_neg hfull, ih _ false (by simp) hlength, List.append_assoc, List.singleton_append]
    cases pendingSpace with
    | false => exact hroom output hne hle
    | true =>
      by_cases hlt : output.length < limit
      · have hdue : (true && decide (output.length < limit)) = true := by simpa using hlt
        have hlength : (output ++ [' ']).length ≤ limit := by
          rw [List.length_append, List.length_singleton]
          omega
        simp only [hdue, if_true]
        rw [hroom (output ++ [' ']) (by simp) hlength, List.append_assoc]
      · have hdue : (true && decide (output.length < limit)) = false := by simpa using hlt
        have hfull : limit ≤ output.length := by omega
        simp only [hdue, Bool.false_eq_true, if_false]
        rw [if_pos hfull, List.take_append_of_le_length hfull, List.take_of_length_le hle]

/-- What is returned is the whole text, up to the limit. -/
theorem sanitizeFrom_spaced (value : List Char) :
    sanitizeFrom limit value [] false = (spaced value).take limit := by
  induction value with
  | nil => simp [sanitizeFrom, spaced, words, segments, pieces]
  | cons c rest ih =>
    rw [sanitizeFrom]
    by_cases hbidi : isBidiControl c = true
    · rw [if_pos hbidi, ih, spaced_eq, spaced_eq, following_bidi hbidi]
    rw [if_neg hbidi]
    have hbidi : isBidiControl c = false := by simpa using hbidi
    by_cases hblank : isBlank c = true
    · have hstarted : (!([] : List Char).isEmpty) = false := rfl
      rw [if_pos hblank, hstarted, ih, spaced_eq, spaced_eq, following_blank hbidi hblank]
    rw [if_neg hblank, spaced_eq, following_visible hbidi (by simpa using hblank)]
    cases limit with
    | zero => simp
    | succ limit =>
      have hone : ([c] : List Char).length ≤ limit + 1 := by simp
      have hloop := sanitizeFrom_eq rest [c] false (by simp) hone
      simpa using hloop

theorem sanitizeText_eq (value : List Char) :
    sanitizeText value limit =
      if ((spaced value).take limit).isEmpty then none else some ((spaced value).take limit) := by
  rw [sanitizeText, sanitizeFrom_spaced]

theorem sanitizeText_some {value text : List Char} :
    sanitizeText value limit = some text ↔
      text ≠ [] ∧ text = (spaced value).take limit := by
  rw [sanitizeText_eq]
  by_cases hempty : ((spaced value).take limit).isEmpty = true
  · rw [if_pos hempty]
    have hnil : (spaced value).take limit = [] := List.isEmpty_iff.1 hempty
    constructor
    · exact fun h => nomatch h
    · rintro ⟨hne, heq⟩
      exact absurd (heq.trans hnil) hne
  · rw [if_neg hempty, Option.some.injEq]
    have hne : (spaced value).take limit ≠ [] := fun h => hempty (List.isEmpty_iff.2 h)
    constructor
    · intro h
      rw [← h]
      exact ⟨hne, rfl⟩
    · exact fun h => h.2.symm

end Loop

section Shape

/-- Two spaces do not stand next to each other. -/
def Apart (a b : Char) : Prop := ¬(a = ' ' ∧ b = ' ')

theorem isBlank_space : isBlank ' ' = true := by decide

theorem isBidiControl_space : isBidiControl ' ' = false := by decide

theorem ne_space {c : Char} (h : isBlank c = false) : c ≠ ' ' := by
  intro heq
  rw [heq, isBlank_space] at h
  exact nomatch h

/-- A word is not empty, and none of its characters separates or turns the text. -/
theorem mem_words {value w : List Char} (h : w ∈ words value) :
    w ≠ [] ∧ ∀ c ∈ w, isBlank c = false ∧ isBidiControl c = false := by
  obtain ⟨hmem, hne⟩ := List.mem_filter.1 h
  refine ⟨by simpa using hne, fun c hc => ?_⟩
  obtain ⟨hfilter, hblank⟩ := mem_pieces hmem c hc
  exact ⟨hblank, by simpa using (List.mem_filter.1 hfilter).2⟩

/-- A character of some words with their spaces is a space or one of a word. -/
theorem mem_joined {ws : List (List Char)} {c : Char} (h : c ∈ joined ws) :
    c = ' ' ∨ ∃ w ∈ ws, c ∈ w := by
  obtain ⟨w, hw, hc⟩ := List.mem_flatMap.1 h
  rcases List.mem_cons.1 hc with hspace | hword
  · exact Or.inl hspace
  · exact Or.inr ⟨w, hw, hword⟩

theorem mem_spaced {value : List Char} {c : Char} (h : c ∈ spaced value) :
    c = ' ' ∨ isBlank c = false ∧ isBidiControl c = false := by
  rcases mem_joined (List.mem_of_mem_drop h) with hspace | ⟨w, hw, hc⟩
  · exact Or.inl hspace
  · exact Or.inr ((mem_words hw).2 c hc)

theorem isChain_word {w : List Char} (h : ∀ c ∈ w, c ≠ ' ') : w.IsChain Apart := by
  apply List.Pairwise.isChain
  apply List.pairwise_of_forall_mem_list
  intro a ha b _ hboth
  exact h a ha hboth.1

/-- Words that are not empty keep their spaces apart. -/
theorem isChain_joined {ws : List (List Char)} (hne : ∀ w ∈ ws, w ≠ [])
    (hword : ∀ w ∈ ws, ∀ c ∈ w, c ≠ ' ') : (joined ws).IsChain Apart := by
  induction ws with
  | nil => exact List.isChain_nil
  | cons w ws ih =>
    have hw : ∀ c ∈ w, c ≠ ' ' := hword w List.mem_cons_self
    have hrest : (joined ws).IsChain Apart :=
      ih (fun v hv => hne v (List.mem_cons_of_mem _ hv))
        (fun v hv => hword v (List.mem_cons_of_mem _ hv))
    have happend : (w ++ joined ws).IsChain Apart := by
      rw [List.isChain_append]
      refine ⟨isChain_word hw, hrest, ?_⟩
      intro a ha b _ hboth
      exact hw a (List.mem_of_getLast? ha) hboth.1
    rw [joined_cons, List.isChain_cons]
    refine ⟨?_, happend⟩
    intro b hb hboth
    obtain ⟨d, w', rfl⟩ := List.exists_cons_of_ne_nil (hne w List.mem_cons_self)
    have hbd : d = b := by simpa using hb
    exact hw d List.mem_cons_self (hbd.trans hboth.2)

theorem isChain_spaced (value : List Char) : (spaced value).IsChain Apart := by
  have hjoined : (joined (words value)).IsChain Apart :=
    isChain_joined (fun w hw => (mem_words hw).1)
      (fun w hw c hc => ne_space ((mem_words hw).2 c hc).1)
  exact hjoined.drop 1

/-- The whole text begins with a word. -/
theorem head?_spaced (value : List Char) : (spaced value).head? ≠ some ' ' := by
  intro hhead
  cases hwords : words value with
  | nil =>
    rw [spaced, hwords] at hhead
    exact nomatch hhead
  | cons w ws =>
    have hmem : w ∈ words value := by
      rw [hwords]
      exact List.mem_cons_self
    have hw := mem_words hmem
    obtain ⟨d, w', rfl⟩ := List.exists_cons_of_ne_nil hw.1
    rw [spaced, hwords, joined_cons] at hhead
    have hd : d = ' ' := by simpa using hhead
    exact ne_space (hw.2 d List.mem_cons_self).1 hd

theorem not_doubled {text : List Char} (h : text.IsChain Apart) : ¬[' ', ' '] <:+: text := by
  intro hinfix
  have hpair : [' ', ' '].IsChain Apart := h.infix hinfix
  rw [List.isChain_cons_cons] at hpair
  exact hpair.1 ⟨rfl, rfl⟩

/-- A text whose spaces stand alone between other characters is read as it stands. -/
theorem following_self {text : List Char}
    (hvisible : ∀ c ∈ text, c = ' ' ∨ isBlank c = false ∧ isBidiControl c = false)
    (hapart : text.IsChain Apart) (htrailing : text.getLast? ≠ some ' ') :
    following false text = text := by
  induction text with
  | nil => rfl
  | cons c rest ih =>
    have hrest : rest ≠ [] → following false rest = rest := by
      intro hne
      apply ih (fun d hd => hvisible d (List.mem_cons_of_mem _ hd)) hapart.tail
      rw [List.getLast?_cons_of_ne_nil hne] at htrailing
      exact htrailing
    rcases hvisible c List.mem_cons_self with rfl | ⟨hblank, hbidi⟩
    · cases rest with
      | nil => exact absurd rfl htrailing
      | cons d rest =>
        have hd : d ≠ ' ' := by
          intro heq
          exact (List.isChain_cons_cons.1 hapart).1 ⟨rfl, heq⟩
        rcases hvisible d (by simp) with hspace | ⟨hdblank, hdbidi⟩
        · exact absurd hspace hd
        · have hnext := hrest (by simp)
          rw [following_visible hdbidi hdblank] at hnext
          rw [following_blank isBidiControl_space isBlank_space,
            following_visible hdbidi hdblank]
          simpa using hnext
    · rw [following_visible hbidi hblank]
      cases rest with
      | nil => rfl
      | cons d rest => simp [hrest]

theorem spaced_self {text : List Char}
    (hvisible : ∀ c ∈ text, c = ' ' ∨ isBlank c = false ∧ isBidiControl c = false)
    (hapart : text.IsChain Apart) (hleading : text.head? ≠ some ' ')
    (htrailing : text.getLast? ≠ some ' ') : spaced text = text := by
  cases text with
  | nil => rfl
  | cons c rest =>
    have hself := following_self hvisible hapart htrailing
    rcases hvisible c List.mem_cons_self with rfl | ⟨hblank, hbidi⟩
    · exact absurd rfl hleading
    · rw [following_visible hbidi hblank] at hself
      rw [spaced_eq, following_visible hbidi hblank]
      simpa using hself

end Shape

/-- The whole text ends with a word. -/
theorem getLast?_joined {ws : List (List Char)} (hne : ∀ w ∈ ws, w ≠ [])
    (hword : ∀ w ∈ ws, ∀ c ∈ w, c ≠ ' ') : (joined ws).getLast? ≠ some ' ' := by
  induction ws with
  | nil => exact fun h => nomatch h
  | cons w ws ih =>
    have hlast := ih (fun v hv => hne v (List.mem_cons_of_mem _ hv))
      (fun v hv => hword v (List.mem_cons_of_mem _ hv))
    have hwne : w ≠ [] := hne w List.mem_cons_self
    rw [joined_cons, List.getLast?_cons_of_ne_nil (by simp [hwne]), List.getLast?_append]
    cases hjoined : (joined ws).getLast? with
    | some c =>
      rw [hjoined] at hlast
      simpa using hlast
    | none =>
      intro h
      have hmem : ' ' ∈ w := List.mem_of_getLast? (by simpa using h)
      exact hword w List.mem_cons_self ' ' hmem rfl

theorem getLast?_spaced (value : List Char) : (spaced value).getLast? ≠ some ' ' := by
  have hne : ∀ w ∈ words value, w ≠ [] := fun w hw => (mem_words hw).1
  have hlast := getLast?_joined hne fun w hw c hc => ne_space ((mem_words hw).2 c hc).1
  intro h
  apply hlast
  have hsuffix : spaced value <:+ joined (words value) := List.drop_suffix _ _
  obtain ⟨before, hbefore⟩ := hsuffix
  rw [← hbefore, List.getLast?_append, h]
  rfl

/-- What is returned ends in a space exactly when the limit falls on one. -/
theorem getLast?_take_spaced (value : List Char) (limit : Nat) :
    ((spaced value).take limit).getLast? = some ' ' ↔ (spaced value)[limit - 1]? = some ' ' := by
  by_cases hzero : limit = 0
  · have hhead := head?_spaced value
    rw [List.head?_eq_getElem?] at hhead
    simpa [hzero] using hhead
  by_cases hle : (spaced value).length ≤ limit
  · rw [List.take_of_length_le hle]
    constructor
    · exact fun h => absurd h (getLast?_spaced value)
    · intro h
      have hlt : limit - 1 < (spaced value).length := (List.getElem?_eq_some_iff.1 h).1
      have hlimit : limit - 1 = (spaced value).length - 1 := by omega
      rw [List.getLast?_eq_getElem?, ← hlimit]
      exact h
  · have hlength : ((spaced value).take limit).length = limit := by
      rw [List.length_take]
      omega
    rw [List.getLast?_eq_getElem?, hlength, List.getElem?_take_of_lt (by omega)]

/-- A cut that does not end in a space is clean. -/
theorem clean_take {value : List Char} {limit : Nat}
    (hne : (spaced value).take limit ≠ [])
    (hlast : ((spaced value).take limit).getLast? ≠ some ' ') :
    Clean limit ((spaced value).take limit) := by
  have hvisible : ∀ c ∈ (spaced value).take limit,
      c = ' ' ∨ isBlank c = false ∧ isBidiControl c = false :=
    fun c hc => mem_spaced (List.mem_of_mem_take hc)
  have hapart : ((spaced value).take limit).IsChain Apart := (isChain_spaced value).take limit
  have hleading : ((spaced value).take limit).head? ≠ some ' ' := by
    intro hhead
    obtain ⟨rest, hrest⟩ : ∃ rest, (spaced value).take limit = ' ' :: rest :=
      List.head?_eq_some_iff.1 hhead
    have hwhole : spaced value = ' ' :: (rest ++ (spaced value).drop limit) := by
      rw [← List.cons_append, ← hrest, List.take_append_drop]
    exact head?_spaced value (by rw [hwhole]; rfl)
  refine ⟨hne, List.length_take_le _ _, ?_, hleading, hlast, not_doubled hapart, ?_⟩
  · intro c hc
    rcases hvisible c hc with rfl | ⟨hblank, hbidi⟩
    · decide
    · exact ⟨(Bool.or_eq_false_iff.1 hblank).2, hbidi⟩
  · have hself := spaced_self hvisible hapart hleading hlast
    refine sanitizeText_some.2 ⟨hne, ?_⟩
    rw [hself, List.take_take, Nat.min_self]

/-- Every returned text is clean exactly when the limit does not fall on a space between two
words. -/
theorem sanitizeText_clean_iff (value : List Char) (limit : Nat) :
    (∀ text, sanitizeText value limit = some text → Clean limit text) ↔
      (spaced value)[limit - 1]? ≠ some ' ' := by
  rw [Ne, ← getLast?_take_spaced value limit]
  constructor
  · intro h hlast
    have hne : (spaced value).take limit ≠ [] := by
      intro hnil
      rw [hnil] at hlast
      exact nomatch hlast
    exact (h _ (sanitizeText_some.2 ⟨hne, rfl⟩)).trailing hlast
  · intro hlast text htext
    obtain ⟨hne, rfl⟩ := sanitizeText_some.1 htext
    exact clean_take hne hlast

/-- Cut after three characters, `ab cd` keeps the space behind its first word. -/
theorem sanitizeText_trailing :
    ¬∀ (value : List Char) (limit : Nat) (text : List Char),
      sanitizeText value limit = some text → Clean limit text := by
  intro h
  have htext : sanitizeText ['a', 'b', ' ', 'c', 'd'] 3 = some ['a', 'b', ' '] := by decide
  exact (h _ _ _ htext).trailing rfl

end MultiCore.Subscription
