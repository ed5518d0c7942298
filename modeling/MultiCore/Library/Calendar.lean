import Mathlib.Algebra.Group.Nat.Defs
import Mathlib.Logic.Function.Iterate
import Mathlib.Tactic.Common
import Mathlib.Tactic.IntervalCases

/-!
# The proleptic Gregorian calendar

The dates of the calendar, each followed by the next one, and the number of days
that lie between a date and the first of January 1970. The count is one more for
each next date, and it tells dates apart.
-/

namespace Calendar

/-- Whether the year has a leap day. -/
def isLeap (year : Int) : Bool := year % 4 = 0 && (year % 100 ≠ 0 || year % 400 = 0)

/-- The length of a month. -/
def daysInMonth (year : Int) (month : Nat) : Nat :=
  if month = 2 then if isLeap year then 29 else 28
  else if month = 4 ∨ month = 6 ∨ month = 9 ∨ month = 11 then 30
  else 31

/-- The length of a year. -/
def daysInYear (year : Int) : Nat := if isLeap year then 366 else 365

/-- A date that exists. -/
structure Date where
  year : Int
  month : Nat
  day : Nat
  month_pos : 1 ≤ month
  month_le : month ≤ 12
  day_pos : 1 ≤ day
  day_le : day ≤ daysInMonth year month
  deriving DecidableEq

theorem daysInMonth_pos (year : Int) (month : Nat) : 1 ≤ daysInMonth year month := by
  unfold daysInMonth
  split_ifs <;> decide

theorem daysInMonth_le (year : Int) (month : Nat) : daysInMonth year month ≤ 31 := by
  unfold daysInMonth
  split_ifs <;> decide

namespace Date

/-- The first of January 1970. -/
def epoch : Date := ⟨1970, 1, 1, by decide, by decide, by decide, by decide⟩

/-- The day after a date. -/
def next (date : Date) : Date :=
  if hday : date.day < daysInMonth date.year date.month then
    { date with day := date.day + 1, day_pos := Nat.le_add_left 1 _, day_le := hday }
  else if hmonth : date.month < 12 then
    { year := date.year
      month := date.month + 1
      day := 1
      month_pos := Nat.le_add_left 1 _
      month_le := hmonth
      day_pos := Nat.le_refl 1
      day_le := daysInMonth_pos _ _ }
  else
    { year := date.year + 1
      month := 1
      day := 1
      month_pos := by decide
      month_le := by decide
      day_pos := Nat.le_refl 1
      day_le := daysInMonth_pos _ _ }

end Date

/-! ## Counting days -/

/-- The days of the years before a year, from the first of January of the year one. -/
def daysBeforeYear (year : Int) : Int :=
  365 * (year - 1) + (year - 1) / 4 - (year - 1) / 100 + (year - 1) / 400

/-- The days of the months before a month of a year. -/
def daysBeforeMonth (year : Int) (month : Nat) : Nat :=
  ((List.range' 1 (month - 1)).map (daysInMonth year)).sum

theorem isLeap_iff (year : Int) :
    isLeap year = true ↔ year % 4 = 0 ∧ (year % 100 ≠ 0 ∨ year % 400 = 0) := by
  simp [isLeap]

theorem daysBeforeYear_succ (year : Int) :
    daysBeforeYear (year + 1) = daysBeforeYear year + daysInYear year := by
  have hyear : (daysInYear year : Int) = if isLeap year = true then 366 else 365 := by
    unfold daysInYear
    split_ifs <;> rfl
  rw [hyear, daysBeforeYear, daysBeforeYear]
  split_ifs with hleap
  all_goals
    rw [isLeap_iff] at hleap
    omega

theorem daysBeforeMonth_one (year : Int) : daysBeforeMonth year 1 = 0 := rfl

theorem daysBeforeMonth_succ (year : Int) {month : Nat} (h : 1 ≤ month) :
    daysBeforeMonth year (month + 1) = daysBeforeMonth year month + daysInMonth year month := by
  obtain ⟨before, rfl⟩ := Nat.exists_eq_add_of_le' h
  rw [daysBeforeMonth, daysBeforeMonth, Nat.add_sub_cancel, Nat.add_sub_cancel,
    List.range'_concat, List.map_append, List.sum_append, Nat.one_mul, Nat.add_comm 1 before]
  simp

/-- The days before a month, month by month. -/
theorem daysBeforeMonth_eq (year : Int) {month : Nat} (h : 1 ≤ month) (hle : month ≤ 12) :
    daysBeforeMonth year month =
      (367 * month - 362) / 12 - (if month ≤ 2 then 0 else if isLeap year then 1 else 2) := by
  unfold daysBeforeMonth
  interval_cases month <;> cases hleap : isLeap year <;> simp [List.range', daysInMonth, hleap]

theorem daysInYear_eq (year : Int) :
    daysInYear year = daysBeforeMonth year 12 + daysInMonth year 12 := by
  rw [daysBeforeMonth_eq year (by decide) (by decide), daysInYear]
  cases isLeap year <;> rfl

namespace Date

/-- The days from the first of January 1970 to a date. -/
def dayNumber (date : Date) : Int :=
  daysBeforeYear date.year - daysBeforeYear 1970 + daysBeforeMonth date.year date.month +
    (date.day - 1)

theorem dayNumber_epoch : epoch.dayNumber = 0 := by decide

/-- Each date is one day later than the one before it. -/
theorem dayNumber_next (date : Date) : date.next.dayNumber = date.dayNumber + 1 := by
  have hle := date.day_le
  have hpos := date.month_pos
  unfold next
  split_ifs with hday hmonth
  · simp only [dayNumber]
    omega
  · have hmonths := daysBeforeMonth_succ date.year hpos
    simp only [dayNumber]
    omega
  · have hlast : date.month = 12 := Nat.le_antisymm date.month_le (Nat.not_lt.1 hmonth)
    have hyears := daysBeforeYear_succ date.year
    have hyear := daysInYear_eq date.year
    rw [hlast] at hle hday
    simp only [dayNumber, hlast, daysBeforeMonth_one]
    omega

theorem dayNumber_iterate (date : Date) (days : Nat) :
    (next^[days] date).dayNumber = date.dayNumber + days := by
  induction days generalizing date with
  | zero => exact (Int.add_zero _).symm
  | succ days ih =>
    rw [Function.iterate_succ_apply, ih, dayNumber_next]
    omega

/-- The day of the year, within the year. -/
theorem day_of_year_bounds (date : Date) :
    1 ≤ daysBeforeMonth date.year date.month + date.day ∧
      daysBeforeMonth date.year date.month + date.day ≤ daysInYear date.year := by
  have hpos := date.month_pos
  have hle := date.month_le
  have hday := date.day_le
  refine ⟨Nat.le_add_left_of_le date.day_pos, le_trans (Nat.add_le_add_left hday _) ?_⟩
  rw [daysBeforeMonth_eq date.year hpos hle]
  unfold daysInMonth daysInYear
  generalize date.month = month at hpos hle
  interval_cases month <;> cases isLeap date.year <;> decide

theorem dayNumber_lt_of_year {date other : Date} (h : date.year < other.year) :
    date.dayNumber < other.dayNumber := by
  have hsucc := daysBeforeYear_succ date.year
  have hmono : daysBeforeYear (date.year + 1) ≤ daysBeforeYear other.year := by
    unfold daysBeforeYear
    omega
  have hdate := date.day_of_year_bounds
  have hother := other.day_of_year_bounds
  unfold dayNumber
  omega

theorem dayNumber_lt_of_month {date other : Date} (hyear : date.year = other.year)
    (h : date.month < other.month) : date.dayNumber < other.dayNumber := by
  have hpos := date.month_pos
  have hle := other.month_le
  have hsucc := daysBeforeMonth_succ date.year hpos
  have hday := date.day_le
  have hother := other.day_pos
  have hmono :
      daysBeforeMonth date.year (date.month + 1) ≤ daysBeforeMonth date.year other.month := by
    rw [daysBeforeMonth_eq _ (by omega) (by omega), daysBeforeMonth_eq _ (by omega) hle]
    split_ifs <;> omega
  unfold dayNumber
  rw [← hyear]
  omega

theorem ext_of_fields {date other : Date} (hyear : date.year = other.year)
    (hmonth : date.month = other.month) (hday : date.day = other.day) : date = other := by
  cases date
  cases other
  simp only at hyear hmonth hday
  subst hyear hmonth hday
  rfl

/-- Dates with the same count of days are the same. -/
theorem dayNumber_inj {date other : Date} (h : date.dayNumber = other.dayNumber) :
    date = other := by
  rcases lt_trichotomy date.year other.year with hyear | hyear | hyear
  · exact absurd h (dayNumber_lt_of_year hyear).ne
  · rcases lt_trichotomy date.month other.month with hmonth | hmonth | hmonth
    · exact absurd h (dayNumber_lt_of_month hyear hmonth).ne
    · refine ext_of_fields hyear hmonth ?_
      unfold dayNumber at h
      rw [hyear, hmonth] at h
      have hdate := date.day_pos
      have hother := other.day_pos
      omega
    · exact absurd h (dayNumber_lt_of_month hyear.symm hmonth).ne'
  · exact absurd h (dayNumber_lt_of_year hyear).ne'

/-- The date that many days after another one is the one with that count. -/
theorem iterate_eq_iff {date : Date} {days : Nat} :
    next^[days] epoch = date ↔ date.dayNumber = days := by
  have hdays := dayNumber_iterate epoch days
  rw [dayNumber_epoch, Int.zero_add] at hdays
  constructor
  · rintro rfl
    exact hdays
  · intro h
    exact dayNumber_inj (hdays.trans h.symm)

/-- The count of days from years that begin in March: there the leap day is the last one. -/
theorem dayNumber_march (date : Date) :
    date.dayNumber =
      let year := if date.month ≤ 2 then date.year - 1 else date.year
      let month := if date.month ≤ 2 then date.month + 9 else date.month - 3
      365 * year + year / 4 - year / 100 + year / 400 + (153 * month + 2) / 5 + date.day -
        719469 := by
  have hpos := date.month_pos
  have hle := date.month_le
  have hsucc := daysBeforeYear_succ date.year
  have hbefore := daysBeforeMonth_eq date.year hpos hle
  unfold daysInYear at hsucc
  unfold dayNumber
  have hfixed : daysBeforeYear 1970 = 719162 := by decide
  rw [hfixed, hbefore]
  unfold daysBeforeYear at hsucc ⊢
  generalize date.month = month at hpos hle
  split_ifs at hsucc with hleap
  all_goals
    simp only [hleap]
    interval_cases month <;> simp <;> omega

end Date

end Calendar
