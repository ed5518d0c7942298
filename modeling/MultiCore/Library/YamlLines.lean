import MultiCore.Library.Lines

/-!
# Line breaks of YAML

YAML breaks a line at a line feed, at a carriage return, and at both together.
A text that stops at a line feed stops where one of its lines does.
-/

namespace Yaml

/-- The byte that ends a line. -/
def lineFeed : UInt8 := 10

/-- The other byte that ends a line. -/
def carriageReturn : UInt8 := 13

/-- One more byte in front of the first line. -/
def extend (b : UInt8) : List (List UInt8) → List (List UInt8)
  | [] => [[b]]
  | line :: rest => (b :: line) :: rest

/-- The lines of a text, without the breaks that end them. -/
def lines : List UInt8 → List (List UInt8)
  | [] => []
  | 13 :: 10 :: rest => [] :: lines rest
  | b :: rest =>
    if b = lineFeed ∨ b = carriageReturn then [] :: lines rest else extend b (lines rest)

/-- A line that is white space or a comment, or both. -/
def BlankOrComment (line : List UInt8) : Prop :=
  let content := line.dropWhile fun b => b = 32 || b = 9
  content = [] ∨ content.head? = some 35

instance (line : List UInt8) : Decidable (BlankOrComment line) := by
  unfold BlankOrComment
  infer_instance

/-- A text that stops where a line does, seen from what follows it. -/
def Stops (text rest : List UInt8) : Prop :=
  text = [] ∨ rest = [] ∨ text.getLast? = some lineFeed ∨
    text.getLast? = some carriageReturn ∧ rest.head? ≠ some lineFeed

theorem stops_of_ends {text : List UInt8} (h : Lines.Ends lineFeed text) (rest : List UInt8) :
    Stops text rest := by
  rcases h with h | h
  · exact Or.inl h
  · exact Or.inr (Or.inr (Or.inl h))

theorem extend_append {b : UInt8} {rows : List (List UInt8)} (h : rows ≠ [])
    (more : List (List UInt8)) : extend b (rows ++ more) = extend b rows ++ more := by
  cases rows with
  | nil => exact absurd rfl h
  | cons line rows => rfl

theorem lines_ne_nil {text : List UInt8} (h : text ≠ []) : lines text ≠ [] := by
  fun_cases lines text with
  | case1 => exact absurd rfl h
  | case2 rest => simp
  | case3 b rest hnot hbreak => simp
  | case4 b rest hnot hbreak =>
    cases lines rest <;> simp [extend]

/-- The lines of two parts, the first of which stops at a line feed. -/
theorem lines_append {text : List UInt8} (h : Lines.Ends lineFeed text) (more : List UInt8) :
    lines (text ++ more) = lines text ++ lines more := by
  fun_induction lines text with
  | case1 => rfl
  | case2 rest ih =>
    rw [List.cons_append, List.cons_append, lines, ih h.of_cons.of_cons, List.cons_append]
  | case3 b rest hnot hbreak ih =>
    have hne : rest = [] → b = lineFeed := by
      intro hrest
      rw [hrest] at h
      rcases h with h | h
      · exact nomatch h
      · exact Option.some.inj h
    have hcons : lines (b :: (rest ++ more)) = [] :: lines (rest ++ more) := by
      rw [lines]
      · exact if_pos hbreak
      · intro tail hb htail
        cases hrest : rest with
        | nil => exact absurd (hb.symm.trans (hne hrest)) (by decide)
        | cons d rest' =>
          rw [hrest, List.cons_append, List.cons.injEq] at htail
          exact hnot rest' hb (by rw [hrest, htail.1])
    rw [List.cons_append, hcons, ih h.of_cons, List.cons_append]
  | case4 b rest hnot hbreak ih =>
    have hrest : rest ≠ [] := by
      intro hnil
      rw [hnil] at h
      rcases h with h | h
      · exact nomatch h
      · exact hbreak (Or.inl (Option.some.inj h))
    have hcons : lines (b :: (rest ++ more)) = extend b (lines (rest ++ more)) := by
      rw [lines]
      · exact if_neg hbreak
      · intro tail hb
        exact absurd (Or.inr hb) hbreak
    rw [List.cons_append, hcons, ih h.of_cons, extend_append (lines_ne_nil hrest)]

example : lines [97, 13, 10, 98, 13, 99, 10] = [[97], [98], [99]] := by decide

end Yaml
