import Mathlib.Data.List.Basic
import Mathlib.Tactic.Common

/-!
# Lines

A list cut after every separator. A part of the list that stops where lines end
consists of whole lines of the list; any part inside one line lies in one line.
-/

namespace Lines

variable {α : Type} {separator : α}

/-- A list that stops at the end of a line. -/
def Ends (separator : α) (l : List α) : Prop := l = [] ∨ l.getLast? = some separator

theorem Ends.nil : Ends separator ([] : List α) := Or.inl rfl

theorem ends_append_separator (l : List α) : Ends separator (l ++ [separator]) :=
  Or.inr (by simp)

/-- Where a list stops is where its second part does. -/
theorem Ends.of_append {l m : List α} (h : Ends separator (l ++ m)) : Ends separator m := by
  by_cases hm : m = []
  · rw [hm]
    exact .nil
  · rcases h with h | h
    · exact absurd (List.append_eq_nil_iff.1 h).2 hm
    · rw [List.getLast?_append_of_ne_nil l hm] at h
      exact Or.inr h

theorem Ends.of_cons {a : α} {l : List α} (h : Ends separator (a :: l)) : Ends separator l :=
  Ends.of_append (l := [a]) h

/-- One more element in front of the first line. -/
def extend (a : α) : List (List α) → List (List α)
  | [] => [[a]]
  | row :: rows => (a :: row) :: rows

theorem flatten_extend (a : α) (rows : List (List α)) :
    (extend a rows).flatten = a :: rows.flatten := by
  cases rows <;> rfl

variable [DecidableEq α]

/-- The lines of a list, each with the separator that ends it. -/
def lines (separator : α) : List α → List (List α)
  | [] => []
  | a :: rest =>
    if a = separator then [a] :: lines separator rest else extend a (lines separator rest)

@[simp] theorem lines_nil : lines separator ([] : List α) = [] := rfl

@[simp] theorem lines_separator (rest : List α) :
    lines separator (separator :: rest) = [separator] :: lines separator rest := if_pos rfl

theorem lines_cons {a : α} (ha : a ≠ separator) (rest : List α) :
    lines separator (a :: rest) = extend a (lines separator rest) := if_neg ha

theorem flatten_lines (separator : α) (l : List α) : (lines separator l).flatten = l := by
  induction l with
  | nil => rfl
  | cons a rest ih =>
    by_cases ha : a = separator
    · rw [ha, lines_separator, List.flatten_cons, ih, List.singleton_append]
    · rw [lines_cons ha, flatten_extend, ih]

theorem lines_eq_nil {l : List α} (h : lines separator l = []) : l = [] := by
  rw [← flatten_lines separator l, h]
  rfl

/-- Lines of two parts, the first of which stops at the end of a line. -/
theorem lines_append {l : List α} (h : Ends separator l) (m : List α) :
    lines separator (l ++ m) = lines separator l ++ lines separator m := by
  induction l with
  | nil => rfl
  | cons a l ih =>
    have hrest := ih h.of_cons
    by_cases ha : a = separator
    · rw [ha, List.cons_append, lines_separator, lines_separator, hrest, List.cons_append]
    · rw [List.cons_append, lines_cons ha, lines_cons ha, hrest]
      cases hl : lines separator l with
      | nil =>
        rw [lines_eq_nil hl] at h
        rcases h with h | h
        · exact nomatch h
        · exact absurd (Option.some.inj h) ha
      | cons row rows => rfl

/-- A part that starts and stops where lines do is a run of whole lines. -/
theorem lines_infix {before run after : List α} (hbefore : Ends separator before)
    (hrun : Ends separator run ∨ after = []) :
    lines separator run <:+: lines separator (before ++ run ++ after) := by
  rw [List.append_assoc, lines_append hbefore]
  rcases hrun with hrun | rfl
  · rw [lines_append hrun, ← List.append_assoc]
    exact List.infix_append _ _ _
  · rw [List.append_nil]
    exact List.suffix_append .. |>.isInfix

/-- A part of which only the lines up to some place are taken. -/
theorem lines_take_infix {before run : List α} {k : Nat} (hbefore : Ends separator before)
    (hrun : Ends separator (run.take k)) (after : List α) :
    lines separator (run.take k) <:+: lines separator (before ++ run ++ after) := by
  have hsplit : before ++ run ++ after = before ++ run.take k ++ (run.drop k ++ after) := by
    rw [List.append_assoc before (run.take k), ← List.append_assoc (run.take k),
      List.take_append_drop, ← List.append_assoc]
  rw [hsplit]
  exact lines_infix hbefore (Or.inl hrun)

/-- A list is empty, an unfinished line, or a line and what follows it. -/
theorem induction_lines (separator : α) {motive : List α → Prop} (nil : motive [])
    (unfinished : ∀ body, separator ∉ body → body ≠ [] → motive body)
    (line : ∀ body rest, separator ∉ body → motive rest → motive (body ++ separator :: rest))
    (l : List α) : motive l := by
  have hall : ∀ n (l : List α), l.length ≤ n → motive l := by
    intro n
    induction n with
    | zero =>
      intro l hl
      rw [List.length_eq_zero_iff.1 (Nat.le_zero.1 hl)]
      exact nil
    | succ n ih =>
      intro l hl
      by_cases hmem : separator ∈ l
      · obtain ⟨body, rest, rfl, hbody⟩ := List.eq_append_cons_of_mem hmem
        have hrest : rest.length ≤ n := by
          rw [List.length_append, List.length_cons] at hl
          omega
        exact line body rest hbody (ih rest hrest)
      · by_cases hempty : l = []
        · rw [hempty]
          exact nil
        · exact unfinished l hmem hempty
  exact hall l.length l (Nat.le_refl _)

theorem lines_unfinished {body : List α} (h : separator ∉ body) (hne : body ≠ []) :
    lines separator body = [body] := by
  induction body with
  | nil => exact absurd rfl hne
  | cons a body ih =>
    have ha : a ≠ separator := fun heq => h (heq ▸ List.mem_cons_self)
    rw [lines_cons ha]
    by_cases hempty : body = []
    · rw [hempty]
      rfl
    · rw [ih (fun hmem => h (List.mem_cons_of_mem _ hmem)) hempty]
      rfl

theorem lines_line {body : List α} (h : separator ∉ body) (rest : List α) :
    lines separator (body ++ separator :: rest) =
      (body ++ [separator]) :: lines separator rest := by
  induction body with
  | nil => exact lines_separator rest
  | cons a body ih =>
    have ha : a ≠ separator := fun heq => h (heq ▸ List.mem_cons_self)
    rw [List.cons_append, lines_cons ha, ih fun hmem => h (List.mem_cons_of_mem _ hmem)]
    rfl

/-- The first line holds all up to the first separator. -/
theorem exists_first_line {piece : List α} (after : List α) (hne : piece ≠ [])
    (hinside : separator ∉ piece.dropLast) :
    ∃ row rows, lines separator (piece ++ after) = row :: rows ∧ piece <+: row := by
  induction piece with
  | nil => exact absurd rfl hne
  | cons a piece ih =>
    rw [List.cons_append]
    by_cases ha : a = separator
    · have hlast : piece = [] := by
        by_contra hrest
        rw [List.dropLast_cons_of_ne_nil hrest] at hinside
        exact hinside (ha ▸ List.mem_cons_self)
      rw [ha, hlast, lines_separator]
      exact ⟨_, _, rfl, List.prefix_refl _⟩
    · rw [lines_cons ha]
      by_cases hlast : piece = []
      · rw [hlast]
        cases lines separator ([] ++ after) with
        | nil => exact ⟨[a], [], rfl, List.prefix_refl _⟩
        | cons row rows => exact ⟨a :: row, rows, rfl, List.prefix_append [a] row⟩
      · rw [List.dropLast_cons_of_ne_nil hlast] at hinside
        obtain ⟨row, rows, hrows, hprefix⟩ :=
          ih hlast fun hmem => hinside (List.mem_cons_of_mem _ hmem)
        rw [hrows]
        exact ⟨a :: row, rows, rfl, List.cons_prefix_cons.2 ⟨rfl, hprefix⟩⟩

/-- A part without a separator, except as its last, lies in one line. -/
theorem exists_line {piece : List α} (before after : List α) (hne : piece ≠ [])
    (hinside : separator ∉ piece.dropLast) :
    ∃ row ∈ lines separator (before ++ piece ++ after), piece <:+: row := by
  induction before with
  | nil =>
    obtain ⟨row, rows, hrows, hprefix⟩ := exists_first_line after hne hinside
    rw [List.nil_append, hrows]
    exact ⟨row, List.mem_cons_self, hprefix.isInfix⟩
  | cons a before ih =>
    obtain ⟨row, hrow, hinfix⟩ := ih
    rw [List.cons_append, List.cons_append]
    by_cases ha : a = separator
    · rw [ha, lines_separator]
      exact ⟨row, List.mem_cons_of_mem _ hrow, hinfix⟩
    · rw [lines_cons ha]
      cases hlines : lines separator (before ++ piece ++ after) with
      | nil =>
        rw [hlines] at hrow
        exact nomatch hrow
      | cons first rows =>
        rw [hlines] at hrow
        rcases List.mem_cons.1 hrow with rfl | hrow
        · exact ⟨a :: row, List.mem_cons_self, hinfix.trans (List.suffix_cons a row).isInfix⟩
        · exact ⟨row, List.mem_cons_of_mem _ hrow, hinfix⟩

/-- A list stops inside a line that began where it ended before. -/
theorem exists_last_line (separator : α) (l : List α) :
    ∃ before body, l = before ++ body ∧ Ends separator before ∧ separator ∉ body := by
  induction l using induction_lines separator with
  | nil => exact ⟨[], [], rfl, .nil, List.not_mem_nil⟩
  | unfinished body hbody hne => exact ⟨[], body, rfl, .nil, hbody⟩
  | line body rest hbody ih =>
    obtain ⟨before, last, rfl, hends, hlast⟩ := ih
    refine ⟨body ++ separator :: before, last, by simp, ?_, hlast⟩
    rcases hends with rfl | hends
    · exact ends_append_separator body
    · right
      have hne : before ≠ [] := by
        rintro rfl
        exact absurd hends (by simp)
      rw [List.getLast?_append_of_ne_nil _ (List.cons_ne_nil _ _), List.getLast?_cons_of_ne_nil hne]
      exact hends

/-- The first separator of a list. -/
theorem idxOf?_split {l : List α} {i : Nat} (h : l.idxOf? separator = some i) :
    ∃ before after, l = before ++ separator :: after ∧ before.length = i ∧
      separator ∉ before := by
  obtain ⟨hi, hat, hbefore⟩ := List.idxOf?_eq_some_iff.1 h
  refine ⟨l.take i, l.drop (i + 1), ?_, ?_, ?_⟩
  · rw [← hat, List.getElem_cons_drop, List.take_append_drop]
  · rw [List.length_take, Nat.min_eq_left (Nat.le_of_lt hi)]
  · intro hmem
    obtain ⟨j, hj, heq⟩ := List.mem_take_iff_getElem.1 hmem
    exact hbefore j (Nat.lt_of_lt_of_le hj (Nat.min_le_left _ _)) heq

end Lines
