import Mathlib.Algebra.Group.Nat.Defs
import Mathlib.Data.List.DropRight
import Mathlib.Tactic.Common

/-!
# Text

The operations on strings that the programs here use, read character by
character: white space, ASCII case folding, prefixes and suffixes, splitting at
a character and decimal numbers. A string is compared and measured by its UTF-8
bytes, as the built-in type does.
-/

namespace Text

/-- White space as Unicode has it. -/
def isWhitespace (c : Char) : Bool :=
  let n := c.toNat
  (9 ≤ n && n ≤ 13) || n = 32 || n = 0x85 || n = 0xA0 || n = 0x1680 ||
    (0x2000 ≤ n && n ≤ 0x200A) || n = 0x2028 || n = 0x2029 || n = 0x202F || n = 0x205F || n = 0x3000

/-- A control character: the categories C0, delete and C1. -/
def isControl (c : Char) : Bool :=
  c.toNat < 0x20 || (0x7F ≤ c.toNat && c.toNat < 0xA0)

/-- `char::is_ascii`. -/
def isAsciiChar (c : Char) : Bool := c.toNat < 0x80

/-- The lower case of an ASCII letter; every other character is left alone. -/
def lowerChar (c : Char) : Char :=
  if 65 ≤ c.toNat ∧ c.toNat ≤ 90 then Char.ofNat (c.toNat + 32) else c

/-- The text in ASCII lower case. -/
def lower (s : String) : String := String.ofList (s.toList.map lowerChar)

/-- Equal up to ASCII case. -/
def sameName (s t : String) : Bool := lower s == lower t

/-- `str::trim_start`. -/
def trimStart (s : String) : String := String.ofList (s.toList.dropWhile isWhitespace)

/-- `str::trim_end`. -/
def trimEnd (s : String) : String := String.ofList (s.toList.rdropWhile isWhitespace)

/-- `str::trim`. -/
def trim (s : String) : String := trimEnd (trimStart s)

/-- `str::starts_with`. -/
def startsWith (s start : String) : Bool := start.toList.isPrefixOf s.toList

/-- `str::ends_with`. -/
def endsWith (s ending : String) : Bool := ending.toList.isSuffixOf s.toList

/-- The rest of a text after a prefix it starts with. -/
def stripPrefix (s start : String) : Option String :=
  if startsWith s start then some (String.ofList (s.toList.drop start.toList.length)) else none

/-- A text without a suffix it ends with. -/
def stripSuffix (s ending : String) : Option String :=
  if endsWith s ending then
    some (String.ofList (s.toList.take (s.toList.length - ending.toList.length)))
  else none

/-- The pieces of a list of characters between the separators. -/
def pieces (separator : Char → Bool) : List Char → List (List Char)
  | [] => [[]]
  | c :: cs =>
    match separator c, pieces separator cs with
    | true, rest => [] :: rest
    | false, piece :: rest => (c :: piece) :: rest
    | false, [] => [[c]]

/-- The pieces of a text between the separators; a text without one is its only piece. -/
def split (separator : Char → Bool) (s : String) : List String :=
  (pieces separator s.toList).map String.ofList

/-- What stands before and after the first separator. -/
def splitOnce (separator : Char) (s : String) : Option (String × String) :=
  if s.toList.contains separator then
    some (String.ofList (s.toList.takeWhile (· != separator)),
      String.ofList ((s.toList.dropWhile (· != separator)).drop 1))
  else none

/-- What stands before and after the first place where some characters stand. -/
def splitOnceAt (separator : List Char) : List Char → Option (List Char × List Char)
  | [] => if separator.isEmpty then some ([], []) else none
  | c :: cs =>
    if separator.isPrefixOf (c :: cs) then some ([], (c :: cs).drop separator.length)
    else (splitOnceAt separator cs).map fun parts => (c :: parts.1, parts.2)

/-- Whether `part` stands somewhere in the text. -/
def contains (s part : String) : Bool := s.toList.tails.any part.toList.isPrefixOf

/-- `char::is_ascii_digit`. -/
def isDigit (c : Char) : Bool := 48 ≤ c.toNat && c.toNat ≤ 57

/-- The value of a character in a base up to 16. -/
def digitValue (base : Nat) (c : Char) : Option Nat :=
  let n := c.toNat
  let value :=
    if 48 ≤ n ∧ n ≤ 57 then n - 48
    else if 65 ≤ n ∧ n ≤ 70 then n - 55
    else if 97 ≤ n ∧ n ≤ 102 then n - 87
    else base
  if value < base then some value else none

/-- The number some digits write, most significant first. -/
def digits (base : Nat) : List Char → Nat → Option Nat
  | [], value => some value
  | c :: cs, value => (digitValue base c).bind fun d => digits base cs (value * base + d)

/-- An unsigned decimal number of at most `max`; a plus sign may lead it. -/
def parseUnsigned (max : Nat) (s : String) : Option Nat :=
  let body := match s.toList with
    | '+' :: rest => rest
    | all => all
  if body.isEmpty then none else (digits 10 body 0).filter (· ≤ max)

/-- An unsigned number of at most `max` in a base up to 16; a plus sign may lead it. -/
def parseRadix (base max : Nat) (cs : List Char) : Option Nat :=
  let body := match cs with
    | '+' :: rest => rest
    | all => all
  if body.isEmpty then none else (digits base body 0).filter (· ≤ max)

/-- A signed decimal number from `-max - 1` to `max`. -/
def parseSigned (max : Nat) (s : String) : Option Int :=
  match s.toList with
  | '-' :: body =>
    if body.isEmpty then none
    else ((digits 10 body 0).filter (· ≤ max + 1)).map fun value => -(value : Int)
  | _ => (parseUnsigned max s).map fun value => (value : Int)

/-- The pieces of a text between runs of white space. -/
def splitWhitespace (s : String) : List String :=
  (split isWhitespace s).filter fun piece => !piece.isEmpty

/-- The digit of a value under sixteen, in lower case. -/
def hexDigit (n : Nat) : Char := Char.ofNat (if n < 10 then 48 + n else 87 + n)

/-- The last `width` hexadecimal digits of a number. -/
def hexadecimal : Nat → Nat → List Char
  | 0, _ => []
  | width + 1, n => hexadecimal width (n / 16) ++ [hexDigit (n % 16)]

theorem parseRadix_cons {base max : Nat} {c : Char} (hc : c ≠ '+') (cs : List Char) :
    parseRadix base max (c :: cs) = (digits base (c :: cs) 0).filter (· ≤ max) := by
  unfold parseRadix
  split
  · rename_i heq
    exact absurd (List.cons.inj heq).1 hc
  · rfl

theorem digits_pair {base : Nat} {c d : Char} {value : Nat} :
    digits base [c, d] 0 = some value ↔
      ∃ x y, digitValue base c = some x ∧ digitValue base d = some y ∧ value = x * base + y := by
  simp only [digits, Option.bind_eq_some_iff, Option.some_inj, Nat.zero_mul, Nat.zero_add]
  constructor
  · rintro ⟨x, hx, y, hy, rfl⟩
    exact ⟨x, y, hx, hy, rfl⟩
  · rintro ⟨x, y, hx, hy, rfl⟩
    exact ⟨x, hx, y, hy, rfl⟩

/-- Only digits write a number. -/
theorem digitValue_of_digits {base : Nat} {cs : List Char} {value n : Nat}
    (h : digits base cs value = some n) : ∀ c ∈ cs, ∃ d, digitValue base c = some d := by
  induction cs generalizing value with
  | nil => exact fun c hc => absurd hc List.not_mem_nil
  | cons c cs ih =>
    rw [digits, Option.bind_eq_some_iff] at h
    obtain ⟨d, hd, hrest⟩ := h
    exact List.forall_mem_cons.2 ⟨⟨d, hd⟩, ih hrest⟩

/-- A digit is under the base, and an ASCII character. -/
theorem digitValue_bounds {base : Nat} {c : Char} {x : Nat} (h : digitValue base c = some x) :
    x < base ∧ 0x30 ≤ c.toNat ∧ (c.toNat ≤ 0x66 ∨ base ≤ x) := by
  unfold digitValue at h
  grind

section Hexadecimal

theorem digits_append (base : Nat) (cs ds : List Char) (value : Nat) :
    digits base (cs ++ ds) value = (digits base cs value).bind (digits base ds) := by
  induction cs generalizing value with
  | nil => rfl
  | cons c cs ih =>
    rw [List.cons_append, digits, digits]
    cases digitValue base c with
    | none => rfl
    | some d => exact ih _

theorem digitValue_hexDigit : ∀ n < 16, digitValue 16 (hexDigit n) = some n := by decide

theorem length_hexadecimal (width n : Nat) : (hexadecimal width n).length = width := by
  induction width generalizing n with
  | zero => rfl
  | succ width ih => rw [hexadecimal, List.length_append, ih, List.length_singleton]

theorem mem_hexadecimal {width n : Nat} {c : Char} (h : c ∈ hexadecimal width n) :
    ∃ x, digitValue 16 c = some x := by
  induction width generalizing n with
  | zero => exact absurd h List.not_mem_nil
  | succ width ih =>
    rw [hexadecimal, List.mem_append, List.mem_singleton] at h
    rcases h with h | rfl
    · exact ih h
    · exact ⟨_, digitValue_hexDigit _ (Nat.mod_lt n (by decide))⟩

/-- Enough digits are read as the number they were written for. -/
theorem digits_hexadecimal {width n : Nat} (h : n < 16 ^ width) :
    digits 16 (hexadecimal width n) 0 = some n := by
  induction width generalizing n with
  | zero =>
    rw [Nat.pow_zero, Nat.lt_one_iff] at h
    rw [h]
    rfl
  | succ width ih =>
    have hdiv : n / 16 < 16 ^ width := by
      rw [Nat.pow_succ] at h
      exact Nat.div_lt_of_lt_mul (Nat.mul_comm _ 16 ▸ h)
    have hdigit := digitValue_hexDigit (n % 16) (Nat.mod_lt n (by decide))
    rw [hexadecimal, digits_append, ih hdiv, Option.bind_some, digits, hdigit, Option.bind_some,
      digits, Nat.div_add_mod']

/-- Enough digits tell numbers apart. -/
theorem hexadecimal_inj {width n m : Nat} (hn : n < 16 ^ width) (hm : m < 16 ^ width)
    (h : hexadecimal width n = hexadecimal width m) : n = m := by
  have hdigits := digits_hexadecimal hn
  rw [h, digits_hexadecimal hm, Option.some.injEq] at hdigits
  exact hdigits.symm

/-- A digit is a number or a small letter up to `f`. -/
theorem range_of_mem_hexadecimal {width n : Nat} {c : Char} (h : c ∈ hexadecimal width n) :
    0x30 ≤ c.toNat ∧ c.toNat ≤ 0x66 ∧ c ≠ '\\' := by
  obtain ⟨x, hx⟩ := mem_hexadecimal h
  have hbounds := digitValue_bounds hx
  refine ⟨hbounds.2.1, by omega, ?_⟩
  rintro rfl
  rw [show digitValue 16 '\\' = none from rfl] at hx
  exact absurd hx (Option.some_ne_none x).symm

/-- A number is parsed from its digits, all of them written. -/
theorem parseRadix_hexadecimal {width n max : Nat} (hwidth : 0 < width) (h : n < 16 ^ width)
    (hmax : n ≤ max) : parseRadix 16 max (hexadecimal width n) = some n := by
  have hdigits := digits_hexadecimal h
  cases hcs : hexadecimal width n with
  | nil =>
    have hlength := length_hexadecimal width n
    rw [hcs, List.length_nil] at hlength
    omega
  | cons c cs =>
    have hplus : c ≠ '+' := by
      rintro rfl
      have hmem : '+' ∈ hexadecimal width n := by
        rw [hcs]
        exact List.mem_cons_self
      obtain ⟨x, hx⟩ := mem_hexadecimal hmem
      rw [show digitValue 16 '+' = none from rfl] at hx
      exact absurd hx (Option.some_ne_none x).symm
    rw [hcs] at hdigits
    rw [parseRadix_cons hplus, hdigits]
    exact Option.filter_some_pos (decide_eq_true hmax)

end Hexadecimal

section Affixes

theorem stripPrefix_append (start s : String) : stripPrefix (start ++ s) start = some s := by
  have hstarts : startsWith (start ++ s) start = true := by
    rw [startsWith, String.toList_append, List.isPrefixOf_iff_prefix]
    exact List.prefix_append _ _
  rw [stripPrefix, if_pos hstarts, String.toList_append, List.drop_left, String.ofList_toList]

/-- What two texts begin with in common says nothing about one being a prefix. -/
theorem startsWith_append_append (start s t : String) :
    startsWith (start ++ s) (start ++ t) = startsWith s t := by
  rw [Bool.eq_iff_iff, startsWith, startsWith, List.isPrefixOf_iff_prefix,
    List.isPrefixOf_iff_prefix, String.toList_append, String.toList_append]
  exact List.prefix_append_right_inj _

theorem stripPrefix_append_append (start s t : String) :
    stripPrefix (start ++ s) (start ++ t) = stripPrefix s t := by
  rw [stripPrefix, stripPrefix, startsWith_append_append, String.toList_append, String.toList_append,
    List.length_append, List.drop_append, Nat.add_sub_cancel_left,
    List.drop_eq_nil_of_le (Nat.le_add_right _ _), List.nil_append]

theorem startsWith_iff {s start : String} :
    startsWith s start = true ↔ ∃ rest, s = start ++ rest := by
  rw [startsWith, List.isPrefixOf_iff_prefix]
  constructor
  · rintro ⟨rest, hrest⟩
    apply Exists.intro (String.ofList rest)
    rw [← String.toList_inj, String.toList_append, String.toList_ofList]
    exact hrest.symm
  · rintro ⟨rest, rfl⟩
    rw [String.toList_append]
    exact List.prefix_append _ _

theorem lower_append (s t : String) : lower (s ++ t) = lower s ++ lower t := by
  rw [lower, lower, lower, String.toList_append, List.map_append, String.ofList_append]

theorem stripSuffix_append (s ending : String) : stripSuffix (s ++ ending) ending = some s := by
  have hends : endsWith (s ++ ending) ending = true := by
    rw [endsWith, String.toList_append, List.isSuffixOf_iff_suffix]
    exact List.suffix_append _ _
  rw [stripSuffix, if_pos hends, String.toList_append, List.length_append, Nat.add_sub_cancel,
    List.take_left, String.ofList_toList]

/-- The first separator is the one that was put in. -/
theorem splitOnce_append {separator : Char} {s : String} (h : separator ∉ s.toList) (t : String) :
    splitOnce separator (s ++ (String.singleton separator ++ t)) = some (s, t) := by
  have hchars : (s ++ (String.singleton separator ++ t)).toList =
      s.toList ++ separator :: t.toList := by
    rw [String.toList_append, String.toList_append, String.toList_singleton]
    rfl
  have hother : ∀ c ∈ s.toList, (c != separator) = true := by
    intro c hc
    rw [bne_iff_ne]
    rintro rfl
    exact h hc
  have hseparator : ¬(separator != separator) = true := by
    rw [bne_self_eq_false]
    exact Bool.false_ne_true
  have hmem : (s.toList ++ separator :: t.toList).contains separator = true := by
    rw [List.contains_iff_mem, List.mem_append]
    exact Or.inr List.mem_cons_self
  rw [splitOnce, hchars, if_pos hmem, List.takeWhile_append_of_pos hother,
    List.dropWhile_append_of_pos hother,
    List.takeWhile_cons_of_neg (p := fun c => c != separator) hseparator,
    List.dropWhile_cons_of_neg (p := fun c => c != separator) hseparator, List.append_nil,
    List.drop_one, List.tail_cons,
    String.ofList_toList, String.ofList_toList]

theorem eq_of_stripPrefix {s start rest : String} (h : stripPrefix s start = some rest) :
    s = start ++ rest := by
  rw [stripPrefix] at h
  by_cases hstarts : startsWith s start = true
  · rw [if_pos hstarts, Option.some_inj] at h
    obtain ⟨chars, hchars⟩ := List.isPrefixOf_iff_prefix.1 hstarts
    rw [← hchars, List.drop_left] at h
    rw [← String.toList_inj, ← hchars, String.toList_append, ← h, String.toList_ofList]
  · rw [if_neg hstarts] at h
    cases h

theorem eq_of_stripSuffix {s ending rest : String} (h : stripSuffix s ending = some rest) :
    s = rest ++ ending := by
  rw [stripSuffix] at h
  by_cases hends : endsWith s ending = true
  · rw [if_pos hends, Option.some_inj] at h
    obtain ⟨chars, hchars⟩ := List.isSuffixOf_iff_suffix.1 hends
    rw [← hchars, List.length_append, Nat.add_sub_cancel, List.take_left] at h
    rw [← String.toList_inj, ← hchars, String.toList_append, ← h, String.toList_ofList]
  · rw [if_neg hends] at h
    cases h

/-- A text that is split is what stands before the first separator, and what stands after it. -/
theorem eq_of_splitOnce {separator : Char} {s before after : String}
    (h : splitOnce separator s = some (before, after)) :
    s = before ++ (String.singleton separator ++ after) ∧ separator ∉ before.toList := by
  rw [splitOnce] at h
  by_cases hmem : s.toList.contains separator = true
  · rw [if_pos hmem, Option.some_inj, Prod.mk.injEq] at h
    obtain ⟨rfl, rfl⟩ := h
    have hnone : separator ∉ s.toList.takeWhile (· != separator) := fun h =>
      absurd (List.mem_takeWhile_imp h) (by simp)
    have hdrop : s.toList.dropWhile (· != separator) =
        separator :: (s.toList.dropWhile (· != separator)).drop 1 := by
      cases hrest : s.toList.dropWhile (· != separator) with
      | nil =>
        rw [List.dropWhile_eq_nil_iff] at hrest
        exact absurd (hrest separator (List.contains_iff_mem.1 hmem)) (by simp)
      | cons c rest =>
        have hc := List.head_dropWhile_not (l := s.toList) (· != separator) (by rw [hrest]; simp)
        simp only [hrest, List.head_cons, bne_eq_false_iff_eq] at hc
        rw [hc, List.drop_one, List.tail_cons]
    constructor
    · rw [← String.toList_inj, String.toList_append, String.toList_append, String.toList_ofList,
        String.toList_ofList, String.toList_singleton, List.singleton_append, ← hdrop,
        List.takeWhile_append_dropWhile]
    · rw [String.toList_ofList]
      exact hnone
  · rw [if_neg hmem] at h
    cases h

end Affixes

/-- The pieces are those of the standard library. -/
theorem pieces_eq_splitOnP (separator : Char → Bool) (cs : List Char) :
    pieces separator cs = cs.splitOnP separator := by
  induction cs with
  | nil => rfl
  | cons c cs ih =>
    rw [List.splitOnP_cons_eq_if_modifyHead, ← ih, pieces]
    obtain ⟨piece, rest, hpieces⟩ : ∃ piece rest, pieces separator cs = piece :: rest := by
      rw [ih]
      exact List.exists_cons_of_ne_nil (List.splitOnP_ne_nil separator cs)
    cases hc : separator c <;> simp [hpieces]

theorem pieces_ne_nil (separator : Char → Bool) (cs : List Char) : pieces separator cs ≠ [] := by
  rw [pieces_eq_splitOnP]
  exact List.splitOnP_ne_nil separator cs

/-- A character that is no separator goes on the first piece. -/
theorem pieces_cons {separator : Char → Bool} {c : Char} (hc : separator c = false)
    (cs : List Char) :
    ∃ piece rest, pieces separator cs = piece :: rest ∧
      pieces separator (c :: cs) = (c :: piece) :: rest := by
  obtain ⟨piece, rest, hpieces⟩ := List.exists_cons_of_ne_nil (pieces_ne_nil separator cs)
  refine ⟨piece, rest, hpieces, ?_⟩
  rw [pieces, hpieces, hc]

theorem pieces_separator {separator : Char → Bool} {c : Char} (hc : separator c = true)
    (cs : List Char) : pieces separator (c :: cs) = [] :: pieces separator cs := by
  rw [pieces, hc]

/-- The characters of a piece are no separators and come from the text. -/
theorem mem_pieces {separator : Char → Bool} {cs piece : List Char}
    (h : piece ∈ pieces separator cs) : ∀ c ∈ piece, c ∈ cs ∧ separator c = false := by
  induction cs generalizing piece with
  | nil =>
    intro c hc
    simp only [pieces, List.mem_singleton] at h
    rw [h] at hc
    exact absurd hc List.not_mem_nil
  | cons d cs ih =>
    intro c hc
    cases hd : separator d with
    | true =>
      rw [pieces_separator hd] at h
      rcases List.mem_cons.1 h with rfl | h
      · exact absurd hc List.not_mem_nil
      · exact ⟨List.mem_cons_of_mem _ (ih h c hc).1, (ih h c hc).2⟩
    | false =>
      obtain ⟨first, rest, hrest, hcons⟩ := pieces_cons hd cs
      rw [hcons] at h
      rcases List.mem_cons.1 h with rfl | h
      · rcases List.mem_cons.1 hc with rfl | hc
        · exact ⟨List.mem_cons_self, hd⟩
        · have hfirst : first ∈ pieces separator cs := by
            rw [hrest]
            exact List.mem_cons_self
          exact ⟨List.mem_cons_of_mem _ (ih hfirst c hc).1, (ih hfirst c hc).2⟩
      · have hmem : piece ∈ pieces separator cs := by
          rw [hrest]
          exact List.mem_cons_of_mem _ h
        exact ⟨List.mem_cons_of_mem _ (ih hmem c hc).1, (ih hmem c hc).2⟩

/-- Around a separator the pieces are those of both sides. -/
theorem pieces_append_separator {separator : Char → Bool} {c : Char} (hc : separator c = true)
    (cs ds : List Char) :
    pieces separator (cs ++ c :: ds) = pieces separator cs ++ pieces separator ds := by
  simp only [pieces_eq_splitOnP]
  exact List.splitOnP_append_cons cs ds hc

/-- A character that is no separator stands in a piece. -/
theorem exists_mem_pieces (separator : Char → Bool) {cs : List Char} {c : Char} (h : c ∈ cs) :
    separator c = true ∨ ∃ piece ∈ pieces separator cs, c ∈ piece := by
  induction cs with
  | nil => exact absurd h List.not_mem_nil
  | cons d cs ih =>
    cases hd : separator d with
    | true =>
      rw [pieces_separator hd]
      rcases List.mem_cons.1 h with rfl | h
      · exact Or.inl hd
      · rcases ih h with hc | ⟨piece, hpiece, hmem⟩
        · exact Or.inl hc
        · exact Or.inr ⟨piece, List.mem_cons_of_mem _ hpiece, hmem⟩
    | false =>
      obtain ⟨first, rest, hrest, hcons⟩ := pieces_cons hd cs
      rw [hcons]
      rcases List.mem_cons.1 h with rfl | h
      · exact Or.inr ⟨c :: first, List.mem_cons_self, List.mem_cons_self⟩
      · rcases ih h with hc | ⟨piece, hpiece, hmem⟩
        · exact Or.inl hc
        · rw [hrest] at hpiece
          rcases List.mem_cons.1 hpiece with rfl | hpiece
          · exact Or.inr ⟨d :: piece, List.mem_cons_self, List.mem_cons_of_mem _ hmem⟩
          · exact Or.inr ⟨piece, List.mem_cons_of_mem _ hpiece, hmem⟩

/-- The pieces at a character, with it between them, are the text. -/
theorem intercalate_pieces (separator : Char) (cs : List Char) :
    List.intercalate [separator] (pieces (· == separator) cs) = cs := by
  rw [pieces_eq_splitOnP, ← List.splitOn_eq_splitOnP]
  exact List.intercalate_splitOn separator

/-- Texts without a character are the pieces of what they make with it between them. -/
theorem pieces_intercalate {separator : Char} {parts : List (List Char)} (hne : parts ≠ [])
    (h : ∀ part ∈ parts, separator ∉ part) :
    pieces (· == separator) (List.intercalate [separator] parts) = parts := by
  rw [pieces_eq_splitOnP, ← List.splitOn_eq_splitOnP]
  exact List.splitOn_intercalate separator h hne

/-- What a map that keeps separators apart from the rest makes of the pieces. -/
theorem pieces_map {separator : Char → Bool} {f : Char → Char}
    (h : ∀ c, separator (f c) = separator c) (cs : List Char) :
    pieces separator (cs.map f) = (pieces separator cs).map (List.map f) := by
  induction cs with
  | nil => rfl
  | cons c cs ih =>
    cases hc : separator c with
    | true =>
      rw [List.map_cons, pieces_separator ((h c).trans hc), pieces_separator hc, ih, List.map_cons,
        List.map_nil]
    | false =>
      obtain ⟨piece, rest, hpieces, hcons⟩ := pieces_cons hc cs
      obtain ⟨piece', rest', hpieces', hcons'⟩ := pieces_cons ((h c).trans hc) (cs.map f)
      rw [ih, hpieces, List.map_cons, List.cons.injEq] at hpieces'
      rw [List.map_cons, hcons', hcons, List.map_cons, List.map_cons, hpieces'.1, hpieces'.2]

theorem toNat_ofNat {n : Nat} (h : n < 0xD800) : (Char.ofNat n).toNat = n := by
  have hvalid : n.isValidChar := Or.inl h
  rw [Char.ofNat, dif_pos hvalid]
  rfl

/-- Letters only are lowered, and to letters. -/
theorem lowerChar_cases (c : Char) :
    lowerChar c = c ∨ 65 ≤ c.toNat ∧ c.toNat ≤ 90 ∧ (lowerChar c).toNat = c.toNat + 32 := by
  unfold lowerChar
  by_cases hupper : 65 ≤ c.toNat ∧ c.toNat ≤ 90
  · rw [if_pos hupper]
    exact Or.inr ⟨hupper.1, hupper.2, toNat_ofNat (by omega)⟩
  · rw [if_neg hupper]
    exact Or.inl rfl

/-- No capital is left. -/
theorem lowerChar_not_upper (c : Char) :
    ¬(65 ≤ (lowerChar c).toNat ∧ (lowerChar c).toNat ≤ 90) := by
  unfold lowerChar
  by_cases hupper : 65 ≤ c.toNat ∧ c.toNat ≤ 90
  · rw [if_pos hupper, toNat_ofNat (by omega)]
    omega
  · rw [if_neg hupper]
    exact hupper

theorem isWhitespace_lowerChar (c : Char) : isWhitespace (lowerChar c) = isWhitespace c := by
  rcases lowerChar_cases c with heq | ⟨hlow, hhigh, hlowered⟩
  · rw [heq]
  · have hblank : ∀ d : Char, 65 ≤ d.toNat → d.toNat ≤ 122 → isWhitespace d = false := by
      intro d hge hle
      simp only [isWhitespace, Bool.or_eq_false_iff, Bool.and_eq_false_iff,
        decide_eq_false_iff_not]
      omega
    rw [hblank c hlow (by omega), hblank (lowerChar c) (by omega) (by omega)]

/-- A character that is no letter is met where it stood. -/
theorem lowerChar_eq_iff {c d : Char} (hd : d.toNat < 65) : lowerChar c = d ↔ c = d := by
  rcases lowerChar_cases c with heq | ⟨hlow, hhigh, hlowered⟩
  · rw [heq]
  · constructor
    · intro h
      rw [h] at hlowered
      omega
    · intro h
      rw [h] at hlow
      omega

@[simp] theorem toList_lower (s : String) : (lower s).toList = s.toList.map lowerChar := by
  rw [lower, String.toList_ofList]

/-- The characters between white space at both ends. -/
def trimmed (cs : List Char) : List Char := (cs.dropWhile isWhitespace).rdropWhile isWhitespace

@[simp] theorem toList_trim (s : String) : (trim s).toList = trimmed s.toList := by
  rw [trim, trimEnd, trimStart, String.toList_ofList, String.toList_ofList, trimmed]

/-- White space around what is left after trimming. -/
theorem exists_trimmed (cs : List Char) :
    ∃ before after, cs = before ++ trimmed cs ++ after ∧
      (∀ c ∈ before, isWhitespace c = true) ∧ ∀ c ∈ after, isWhitespace c = true := by
  refine ⟨cs.takeWhile isWhitespace, (cs.dropWhile isWhitespace).rtakeWhile isWhitespace,
    ?_, ?_, ?_⟩
  · rw [List.append_assoc, trimmed, List.rdropWhile_append_rtakeWhile,
      List.takeWhile_append_dropWhile]
  · exact fun c hc => List.mem_takeWhile_imp hc
  · exact fun c hc => List.mem_rtakeWhile_imp hc

/-- Trimming takes off white space around a text that neither begins nor ends with any. -/
theorem trimmed_append {before middle after : List Char}
    (hbefore : ∀ c ∈ before, isWhitespace c = true) (hafter : ∀ c ∈ after, isWhitespace c = true)
    (hne : middle ≠ []) (hhead : isWhitespace (middle.head hne) = false)
    (hlast : isWhitespace (middle.getLast hne) = false) :
    trimmed (before ++ middle ++ after) = middle := by
  have hleft : (before ++ middle ++ after).dropWhile isWhitespace = middle ++ after := by
    rw [List.append_assoc, List.dropWhile_append_of_pos hbefore]
    obtain ⟨c, cs, rfl⟩ := List.exists_cons_of_ne_nil hne
    rw [List.cons_append, List.dropWhile_cons_of_neg]
    rw [← Bool.not_eq_true] at hhead
    exact hhead
  rw [trimmed, hleft]
  clear hleft
  induction after using List.reverseRecOn with
  | nil =>
    rw [List.append_nil, List.rdropWhile_eq_self_iff]
    intro _
    rw [hlast]
    exact Bool.false_ne_true
  | append_singleton after c ih =>
    have hc : isWhitespace c = true := hafter c (List.mem_append_right _ List.mem_cons_self)
    rw [← List.append_assoc, List.rdropWhile_concat_pos _ _ _ hc]
    exact ih fun d hd => hafter d (List.mem_append_left _ hd)

theorem startsWith_append (s t : String) : startsWith (s ++ t) s = true := by
  rw [startsWith, String.toList_append, List.isPrefixOf_iff_prefix]
  exact List.prefix_append _ _

/-- Of two prefixes of a text, one is a prefix of the other. -/
theorem startsWith_or {s p q : String} (hp : startsWith s p = true) (hq : startsWith s q = true) :
    startsWith p q = true ∨ startsWith q p = true := by
  rw [startsWith, List.isPrefixOf_iff_prefix] at hp hq
  rcases List.prefix_or_prefix_of_prefix hp hq with hpq | hqp
  · exact Or.inr (List.isPrefixOf_iff_prefix.2 hpq)
  · exact Or.inl (List.isPrefixOf_iff_prefix.2 hqp)

theorem sameName_iff {s t : String} : sameName s t = true ↔ lower s = lower t := beq_iff_eq

theorem digits_toDigits (n : Nat) : digits 10 (Nat.toDigits 10 n) 0 = some n := by
  induction n using Nat.strongRecOn with
  | ind n ih =>
    have hdigit : ∀ d < 10, digitValue 10 d.digitChar = some d := by decide
    by_cases hsmall : n < 10
    · rw [Nat.toDigits_of_lt_base hsmall, digits, hdigit n hsmall]
      simp [digits]
    · have hlt : n / 10 < n := Nat.div_lt_self (by omega) (by decide)
      rw [Nat.toDigits_of_base_le (by decide) (by omega), digits_append, ih _ hlt,
        Option.bind_some, digits, hdigit _ (Nat.mod_lt n (by decide)), Option.bind_some,
        digits, Nat.div_add_mod']

/-- Digits are no white space, and no plus sign. -/
theorem of_mem_toDigits {n : Nat} {c : Char} (h : c ∈ Nat.toDigits 10 n) :
    isWhitespace c = false ∧ c ≠ '+' := by
  have hdigit := Nat.isDigit_of_mem_toDigits (b := 10) (by decide) (by decide) h
  rw [Char.isDigit, Bool.and_eq_true, decide_eq_true_eq, decide_eq_true_eq] at hdigit
  have hlow : 48 ≤ c.toNat := hdigit.1
  have hhigh : c.toNat ≤ 57 := hdigit.2
  constructor
  · simp only [isWhitespace, Bool.or_eq_false_iff, Bool.and_eq_false_iff,
      decide_eq_false_iff_not]
    omega
  · rintro rfl
    exact absurd hlow (by decide)

theorem trimmed_toDigits (n : Nat) : trimmed (Nat.toDigits 10 n) = Nat.toDigits 10 n := by
  have hne : Nat.toDigits 10 n ≠ [] := Nat.toDigits_ne_nil
  have hspace : ∀ c ∈ Nat.toDigits 10 n, isWhitespace c = false :=
    fun c hc => (of_mem_toDigits hc).1
  have hnone : ∀ c ∈ ([] : List Char), isWhitespace c = true :=
    fun c hc => absurd hc List.not_mem_nil
  have htrim := trimmed_append hnone hnone hne (hspace _ (List.head_mem hne))
    (hspace _ (List.getLast_mem hne))
  rw [List.nil_append, List.append_nil] at htrim
  exact htrim

theorem parseRadix_toDigits {n max : Nat} (hmax : n ≤ max) :
    parseRadix 10 max (Nat.toDigits 10 n) = some n := by
  have hdigits := digits_toDigits n
  cases hcs : Nat.toDigits 10 n with
  | nil => exact absurd hcs Nat.toDigits_ne_nil
  | cons c cs =>
    have hplus : c ≠ '+' := (of_mem_toDigits (n := n) (hcs ▸ List.mem_cons_self)).2
    rw [hcs] at hdigits
    rw [parseRadix_cons hplus, hdigits, Option.filter_some, if_pos (decide_eq_true hmax)]

end Text
