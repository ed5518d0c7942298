import MultiCore.Desktop.Preferences
import MultiCore.Library.Calendar
import MultiCore.Library.Checked

/-!
# Dates of updates

The window shows when a subscription was last updated as a date, computed from whole
days since the first of January 1970 without a library. The years are counted from
March there, in eras of four hundred years.
-/

namespace MultiCore.Desktop

open Calendar

/-- The digits of a number, with zeros in front up to a width; a sign is part of the width. -/
def zeroPadded (width : Nat) (n : Int) : String :=
  let digits := Nat.toDigits 10 n.natAbs
  if n < 0 then String.ofList ('-' :: digits.leftpad (width - 1) '0')
  else String.ofList (digits.leftpad width '0')

def monthsEn : List String :=
  ["Jan", "Feb", "Mar", "Apr", "May", "Jun", "Jul", "Aug", "Sep", "Oct", "Nov", "Dec"]

/-- The year, the month and the day that are printed for a time in seconds. -/
def updateDate (updatedAtUnix : UInt64) : Checked (Int × Int × Int) := do
  let days : Int := (updatedAtUnix.toNat / 86400 : Nat)
  let z ← Checked.i64 (days + 719468)
  let era ← Checked.div (← if 0 ≤ z then some z else Checked.i64 (z - 146096)) 146097
  let dayOfEra ← Checked.i64 (z - (← Checked.i64 (era * 146097)))
  let yearOfEra ← Checked.div (← Checked.i64 ((← Checked.i64 ((← Checked.i64 (dayOfEra -
    (← Checked.div dayOfEra 1460))) + (← Checked.div dayOfEra 36524))) -
    (← Checked.div dayOfEra 146096))) 365
  let year ← Checked.i64 (yearOfEra + (← Checked.i64 (era * 400)))
  let dayOfYear ← Checked.i64 (dayOfEra - (← Checked.i64 ((← Checked.i64
    ((← Checked.i64 (365 * yearOfEra)) + (← Checked.div yearOfEra 4))) -
    (← Checked.div yearOfEra 100))))
  let monthPrime ← Checked.div (← Checked.i64 ((← Checked.i64 (5 * dayOfYear)) + 2)) 153
  let day ← Checked.i64 ((← Checked.i64 (dayOfYear - (← Checked.div (← Checked.i64
    ((← Checked.i64 (153 * monthPrime)) + 2)) 5))) + 1)
  let month ← Checked.i64 (monthPrime + if monthPrime < 10 then 3 else -9)
  let year ← if month ≤ 2 then Checked.i64 (year + 1) else some year
  some (year, month, day)

def formatUpdateDate (lang : Lang) (updatedAtUnix : UInt64) : Checked String := do
  if updatedAtUnix = 0 then
    match lang with
    | .ru => some "Не обновлялась"
    | .en => some "Never updated"
  else
    let (year, month, day) ← updateDate updatedAtUnix
    match lang with
    | .en =>
      let name := monthsEn.getD (min (← Checked.i64 (month - 1)).toNat 11) ""
      some (name ++ " " ++ zeroPadded 0 day ++ ", " ++ zeroPadded 4 year)
    | .ru =>
      some (zeroPadded 2 day ++ "." ++ zeroPadded 2 month ++ "." ++ zeroPadded 4 year)

/-- The Gregorian date of a time in seconds: one day later every 86400 of them. -/
def utcDate (seconds : Nat) : Date := Date.next^[seconds / 86400] Date.epoch

/-- A date as the window shows it. -/
def shownDate (lang : Lang) (date : Date) : String :=
  match lang with
  | .en => monthsEn.getD (date.month - 1) "" ++ " " ++ zeroPadded 0 date.day ++ ", " ++
      zeroPadded 4 date.year
  | .ru => zeroPadded 2 date.day ++ "." ++ zeroPadded 2 date.month ++ "." ++
      zeroPadded 4 date.year

/-! ## Years from March -/

/-- A day of an era, by its century, its four years, its year and its day, all from March. -/
structure EraDay (dayOfEra : Int) where
  century : Int
  fourYears : Int
  year : Int
  day : Int
  sum : dayOfEra = 36524 * century + 1461 * fourYears + 365 * year + day
  century_nonneg : 0 ≤ century
  century_le : century ≤ 3
  fourYears_nonneg : 0 ≤ fourYears
  fourYears_le : fourYears ≤ 24
  year_nonneg : 0 ≤ year
  year_le : year ≤ 3
  day_nonneg : 0 ≤ day
  day_le : day ≤ 365
  /-- Only a leap day ends a year of 366 days. -/
  leap : day = 365 → year = 3 ∧ (fourYears = 24 → century = 3)

def EraDay.of {dayOfEra : Int} (hlow : 0 ≤ dayOfEra) (hhigh : dayOfEra ≤ 146096) :
    EraDay dayOfEra :=
  let century := min (dayOfEra / 36524) 3
  let rest := dayOfEra - 36524 * century
  let year := min (rest % 1461 / 365) 3
  { century
    fourYears := rest / 1461
    year
    day := rest % 1461 - 365 * year
    sum := by omega
    century_nonneg := by omega
    century_le := by omega
    fourYears_nonneg := by omega
    fourYears_le := by omega
    year_nonneg := by omega
    year_le := by omega
    day_nonneg := by omega
    day_le := by omega
    leap := by omega }

namespace EraDay

variable {dayOfEra : Int} (e : EraDay dayOfEra)

def yearOfEra : Int := 100 * e.century + 4 * e.fourYears + e.year

theorem yearOfEra_eq :
    (dayOfEra - dayOfEra / 1460 + dayOfEra / 36524 - dayOfEra / 146096) / 365 = e.yearOfEra := by
  obtain ⟨c, k, j, d, hsum, _, _, _, _, _, _, _, _, hleap⟩ := e
  have hcenturies : dayOfEra / 36524 - dayOfEra / 146096 = c := by
    obtain rfl | rfl | rfl | rfl : c = 0 ∨ c = 1 ∨ c = 2 ∨ c = 3 := by omega
    all_goals omega
  have hblocks : dayOfEra / 1460 =
      25 * c + k + if 1460 ≤ 24 * c + k + 365 * j + d then 1 else 0 := by
    split_ifs <;> omega
  rw [yearOfEra]
  dsimp only
  split_ifs at hblocks <;> omega

theorem dayOfYear_eq :
    dayOfEra - (365 * e.yearOfEra + e.yearOfEra / 4 - e.yearOfEra / 100) = e.day := by
  have hsum := e.sum
  have hcentury := e.century_nonneg
  have hfour := e.fourYears_nonneg
  have hle := e.fourYears_le
  have hyear := e.year_nonneg
  have hyears := e.year_le
  rw [yearOfEra]
  omega

/-- The month of a day of the year, counted from March. -/
def monthPrime : Int := (5 * e.day + 2) / 153

theorem monthPrime_bounds : 0 ≤ e.monthPrime ∧ e.monthPrime ≤ 11 := by
  have hday := e.day_nonneg
  have hle := e.day_le
  rw [monthPrime]
  omega

/-- The year that begins in January, of an era. -/
def calendarYear (era : Int) : Int :=
  e.yearOfEra + era * 400 + if e.monthPrime < 10 then 0 else 1

def calendarMonth : Int := e.monthPrime + if e.monthPrime < 10 then 3 else -9

def dayOfMonth : Int := e.day - (153 * e.monthPrime + 2) / 5 + 1

theorem dayOfMonth_pos : 1 ≤ e.dayOfMonth := by
  have hday := e.day_nonneg
  rw [dayOfMonth, monthPrime]
  omega

/-- A year whose last day, from March on, is the 366th is followed by a leap year. -/
theorem isLeap_of_day (era : Int) (hday : e.day = 365) :
    isLeap (e.yearOfEra + era * 400 + 1) = true := by
  obtain ⟨hyear, hcentury⟩ := e.leap hday
  have hfour := e.fourYears_nonneg
  have hle := e.fourYears_le
  rw [isLeap_iff, yearOfEra, hyear]
  refine ⟨by omega, ?_⟩
  by_cases hlast : e.fourYears = 24
  · have hthree := hcentury hlast
    right
    omega
  · left
    omega

theorem dayOfMonth_le (era : Int) :
    e.dayOfMonth ≤ daysInMonth (e.calendarYear era) e.calendarMonth.toNat := by
  obtain ⟨hlow, hhigh⟩ := e.monthPrime_bounds
  have hleap := e.isLeap_of_day era
  have hle := e.day_le
  have hmonth : e.monthPrime = (5 * e.day + 2) / 153 := rfl
  rw [dayOfMonth, calendarYear, calendarMonth]
  generalize e.monthPrime = mp at *
  unfold daysInMonth
  interval_cases mp
  case «11» =>
    have hfebruary : e.day = 365 ∨ e.day ≤ 364 := by omega
    simp
    split_ifs with hyear
    · omega
    · have hday : e.day ≤ 364 := hfebruary.resolve_left fun hday => hyear (hleap hday)
      omega
  all_goals
    simp
    omega

def date (era : Int) : Date where
  year := e.calendarYear era
  month := e.calendarMonth.toNat
  day := e.dayOfMonth.toNat
  month_pos := by
    have hbounds := e.monthPrime_bounds
    rw [calendarMonth]
    split_ifs <;> omega
  month_le := by
    have hbounds := e.monthPrime_bounds
    rw [calendarMonth]
    split_ifs <;> omega
  day_pos := by
    have hpos := e.dayOfMonth_pos
    omega
  day_le := by
    have hle := e.dayOfMonth_le era
    omega

theorem month_date (era : Int) : ((e.date era).month : Int) = e.calendarMonth := by
  have hbounds := e.monthPrime_bounds
  refine Int.toNat_of_nonneg ?_
  rw [calendarMonth]
  split_ifs <;> omega

theorem day_date (era : Int) : ((e.date era).day : Int) = e.dayOfMonth := by
  have hpos := e.dayOfMonth_pos
  exact Int.toNat_of_nonneg (by omega)

theorem yearOfEra_bounds : 0 ≤ e.yearOfEra ∧ e.yearOfEra ≤ 399 := by
  have hcentury := e.century_nonneg
  have hcenturies := e.century_le
  have hfour := e.fourYears_nonneg
  have hle := e.fourYears_le
  have hyear := e.year_nonneg
  have hyears := e.year_le
  rw [yearOfEra]
  omega

/-- The count of the days of the eras and of the days in this one. -/
theorem dayNumber_date (era : Int) :
    (e.date era).dayNumber = 146097 * era + dayOfEra - 719468 := by
  obtain ⟨hlow, hhigh⟩ := e.monthPrime_bounds
  obtain ⟨hyearLow, hyearHigh⟩ := e.yearOfEra_bounds
  have hmonth := e.month_date era
  have hsum := e.dayOfYear_eq
  have hquarters : (e.yearOfEra + era * 400) / 4 = e.yearOfEra / 4 + era * 100 := by omega
  have hcenturies : (e.yearOfEra + era * 400) / 100 = e.yearOfEra / 100 + era * 4 := by omega
  have heras : (e.yearOfEra + era * 400) / 400 = era := by omega
  have hyear : (if (e.date era).month ≤ 2 then (e.date era).year - 1 else (e.date era).year) =
      e.yearOfEra + era * 400 := by
    have hcalendar : (e.date era).year = e.calendarYear era := rfl
    rw [hcalendar, calendarYear]
    rw [calendarMonth] at hmonth
    split_ifs at hmonth ⊢ <;> omega
  have hprime : (((if (e.date era).month ≤ 2 then (e.date era).month + 9
      else (e.date era).month - 3 : Nat)) : Int) = e.monthPrime := by
    rw [calendarMonth] at hmonth
    split_ifs at hmonth ⊢ <;> omega
  rw [Date.dayNumber_march]
  dsimp only
  rw [hyear, hprime, hquarters, hcenturies, heras, e.day_date, dayOfMonth]
  omega

end EraDay

/-- The date that is computed is the Gregorian one. -/
theorem updateDate_eq (updatedAtUnix : UInt64) :
    updateDate updatedAtUnix =
      some ((utcDate updatedAtUnix.toNat).year, ((utcDate updatedAtUnix.toNat).month : Int),
        ((utcDate updatedAtUnix.toNat).day : Int)) := by
  have hlt := updatedAtUnix.toNat_lt
  unfold updateDate utcDate
  generalize hn : updatedAtUnix.toNat / 86400 = n
  have hle : n ≤ 213503982334601 := by omega
  obtain ⟨era, hera⟩ : ∃ era : Int, ((n : Int) + 719468) / 146097 = era := ⟨_, rfl⟩
  obtain ⟨dayOfEra, hday⟩ : ∃ dayOfEra : Int, (n : Int) + 719468 - era * 146097 = dayOfEra :=
    ⟨_, rfl⟩
  obtain ⟨e⟩ : Nonempty (EraDay dayOfEra) := ⟨EraDay.of (by omega) (by omega)⟩
  have hdate : Date.next^[n] Date.epoch = e.date era := by
    rw [Date.iterate_eq_iff, e.dayNumber_date]
    omega
  rw [hdate, e.month_date, e.day_date]
  have hyear := e.yearOfEra_eq
  have hdays := e.dayOfYear_eq
  obtain ⟨hyearLow, hyearHigh⟩ := e.yearOfEra_bounds
  obtain ⟨hmonthLow, hmonthHigh⟩ := e.monthPrime_bounds
  have hdayLow := e.day_nonneg
  have hdayHigh := e.day_le
  refine (Checked.bind_i64 (by omega) (by omega)).trans ?_
  rw [if_pos (by omega), Checked.bind_some]
  refine (Checked.bind_div (by omega) (by omega) (by omega)).trans ?_
  rw [hera]
  refine (Checked.bind_i64 (by omega) (by omega)).trans ?_
  refine (Checked.bind_i64 (by omega) (by omega)).trans ?_
  rw [hday]
  refine (Checked.bind_div (by omega) (by omega) (by omega)).trans ?_
  refine (Checked.bind_i64 (by omega) (by omega)).trans ?_
  refine (Checked.bind_div (by omega) (by omega) (by omega)).trans ?_
  refine (Checked.bind_i64 (by omega) (by omega)).trans ?_
  refine (Checked.bind_div (by omega) (by omega) (by omega)).trans ?_
  refine (Checked.bind_i64 (by omega) (by omega)).trans ?_
  refine (Checked.bind_div (by omega) (by omega) (by omega)).trans ?_
  rw [hyear]
  refine (Checked.bind_i64 (by omega) (by omega)).trans ?_
  refine (Checked.bind_i64 (by omega) (by omega)).trans ?_
  refine (Checked.bind_i64 (by omega) (by omega)).trans ?_
  refine (Checked.bind_div (by omega) (by omega) (by omega)).trans ?_
  refine (Checked.bind_i64 (by omega) (by omega)).trans ?_
  refine (Checked.bind_div (by omega) (by omega) (by omega)).trans ?_
  refine (Checked.bind_i64 (by omega) (by omega)).trans ?_
  refine (Checked.bind_i64 (by omega) (by omega)).trans ?_
  rw [hdays]
  refine (Checked.bind_i64 (by omega) (by omega)).trans ?_
  refine (Checked.bind_i64 (by omega) (by omega)).trans ?_
  refine (Checked.bind_div (by omega) (by omega) (by omega)).trans ?_
  rw [← EraDay.monthPrime]
  refine (Checked.bind_i64 (by omega) (by omega)).trans ?_
  refine (Checked.bind_i64 (by omega) (by omega)).trans ?_
  refine (Checked.bind_div (by omega) (by omega) (by omega)).trans ?_
  refine (Checked.bind_i64 (by omega) (by omega)).trans ?_
  refine (Checked.bind_i64 (by omega) (by omega)).trans ?_
  refine (Checked.bind_i64 (by omega) (by omega)).trans ?_
  have hyearDate : (e.date era).year = e.calendarYear era := rfl
  rw [hyearDate, EraDay.calendarYear, EraDay.calendarMonth, EraDay.dayOfMonth]
  dsimp only
  by_cases hmonth : e.monthPrime < 10
  · rw [if_pos hmonth, if_pos hmonth, if_neg (by omega), Checked.bind_some, Int.add_zero]
  · rw [if_neg hmonth, if_neg hmonth, if_pos (by omega)]
    exact Checked.bind_i64 (by omega) (by omega)

/-- One day passes every 86400 seconds. -/
theorem utcDate_add (seconds : Nat) : utcDate (seconds + 86400) = (utcDate seconds).next := by
  rw [utcDate, Nat.add_div_right _ (by decide), Function.iterate_succ_apply']
  rfl

theorem formatUpdateDate_eq (lang : Lang) {updatedAtUnix : UInt64} (h : updatedAtUnix ≠ 0) :
    formatUpdateDate lang updatedAtUnix =
      some (shownDate lang (utcDate updatedAtUnix.toNat)) := by
  have hpos := (utcDate updatedAtUnix.toNat).month_pos
  have hle := (utcDate updatedAtUnix.toNat).month_le
  unfold formatUpdateDate
  rw [if_neg h, updateDate_eq, Checked.bind_some]
  cases lang with
  | ru => rfl
  | en =>
    refine (Checked.bind_i64 (by omega) (by omega)).trans ?_
    have hindex : min (((utcDate updatedAtUnix.toNat).month : Int) - 1).toNat 11 =
        (utcDate updatedAtUnix.toNat).month - 1 := by omega
    rw [hindex]
    rfl

/-- At any time but zero the date that is shown is the Gregorian one, a date that exists, and a day
later it is the next one. -/
theorem update_dates_gregorian (lang : Lang) (updatedAtUnix : UInt64) (h : updatedAtUnix ≠ 0) :
    ∃ date : Date, date = utcDate updatedAtUnix.toNat ∧
      updateDate updatedAtUnix = some (date.year, (date.month : Int), (date.day : Int)) ∧
      formatUpdateDate lang updatedAtUnix = some (shownDate lang date) ∧
      date.next.dayNumber = date.dayNumber + 1 ∧
      ∀ later : UInt64, later.toNat = updatedAtUnix.toNat + 86400 →
        updateDate later = some (date.next.year, (date.next.month : Int), (date.next.day : Int)) ∧
        formatUpdateDate lang later = some (shownDate lang date.next) := by
  refine ⟨_, rfl, updateDate_eq updatedAtUnix, formatUpdateDate_eq lang h, Date.dayNumber_next _,
    fun later hlater => ?_⟩
  have hnonzero : later ≠ 0 := by
    rintro rfl
    exact absurd hlater (by simp)
  rw [← utcDate_add, ← hlater]
  exact ⟨updateDate_eq later, formatUpdateDate_eq lang hnonzero⟩

theorem update_dates_gregorian_2026 :
    ∃ date : Date, date = utcDate 1789405200 ∧
      updateDate 1789405200 = some (date.year, (date.month : Int), (date.day : Int)) ∧
      formatUpdateDate .en 1789405200 = some (shownDate .en date) ∧
      date.next.dayNumber = date.dayNumber + 1 ∧
      ∀ later : UInt64, later.toNat = 1789405200 + 86400 →
        updateDate later = some (date.next.year, (date.next.month : Int), (date.next.day : Int)) ∧
        formatUpdateDate .en later = some (shownDate .en date.next) :=
  update_dates_gregorian .en 1789405200 (by decide)

example : formatUpdateDate .en 1789405200 = some "Sep 14, 2026" := by decide +kernel

end MultiCore.Desktop
