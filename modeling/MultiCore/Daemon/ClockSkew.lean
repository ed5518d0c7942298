import MultiCore.Library.Calendar
import MultiCore.Library.Checked
import MultiCore.Library.Text

/-!
# The clock of this machine

Troubleshooting compares the clock with the `Date` header of a well-known site. The
fields of the header are read as machine words and go through the arithmetic of the
calendar; what cannot be read is no date.
-/

namespace MultiCore.Daemon

open Calendar

/-- `str::parse` for an `i64`. -/
def parseI64 (text : String) : Option Int := Text.parseSigned 9223372036854775807 text

/-- The months as a `Date` header spells them. -/
def monthNames : List String :=
  ["Jan", "Feb", "Mar", "Apr", "May", "Jun", "Jul", "Aug", "Sep", "Oct", "Nov", "Dec"]

/-- The days from the first of January 1970 to a date. -/
def daysFromCivil (year : Int) (month day : Nat) : Checked Int := do
  let year ← (if month ≤ 2 then Checked.i64 (year - 1) else some year : Checked Int)
  let era := year / 400
  let yearOfEra ← Checked.i64 (year - (← Checked.i64 (era * 400)))
  let month : Int := if 2 < month then month - 3 else month + 9
  let dayOfYear := (153 * month + 2) / 5 + day - 1
  let dayOfEra ← Checked.i64 ((← Checked.i64 ((← Checked.i64 ((← Checked.i64 (yearOfEra * 365)) +
    yearOfEra / 4)) - yearOfEra / 100)) + dayOfYear)
  Checked.i64 ((← Checked.i64 ((← Checked.i64 (era * 146097)) + dayOfEra)) - 719468)

/-- The fields of a header whose numbers can be read. -/
structure HttpDate where
  year : Int
  month : Nat
  day : Nat
  hours : Int
  minutes : Int
  seconds : Int
  deriving DecidableEq, Repr

/-- The time of day between colons; the hours, the minutes and the seconds have upper bounds. -/
def readClock (time : String) : Option (Int × Int × Int) :=
  match (Text.split (· = ':') time).map parseI64 with
  | [some hours, some minutes, some seconds] =>
    if 23 < hours ∨ 59 < minutes ∨ 60 < seconds then none else some (hours, minutes, seconds)
  | _ => none

/-- The fields of the text, in the order of its words. -/
def readFields (value : String) : Option HttpDate :=
  match Text.splitWhitespace value with
  | [_, day, month, year, time, zone] =>
    if zone ≠ "GMT" then none
    else do
      let day ← (Text.parseUnsigned 4294967295 day).filter fun day => 1 ≤ day && day ≤ 31
      let month ← monthNames.idxOf? month
      let year ← (parseI64 year).filter fun year => decide (1970 ≤ year)
      let (hours, minutes, seconds) ← readClock time
      some ⟨year, month + 1, day, hours, minutes, seconds⟩
  | _ => none

/-- Seconds since the first of January 1970 of the date of a header. -/
def parseHttpDate (value : String) : Checked (Option Int) :=
  match readFields value with
  | none => some none
  | some date => do
    let days ← daysFromCivil date.year date.month date.day
    let value ← Checked.i64 ((← Checked.i64 ((← Checked.i64 ((← Checked.i64 (days * 86400)) +
      (← Checked.i64 (date.hours * 3600)))) + (← Checked.i64 (date.minutes * 60)))) + date.seconds)
    some (some value)

/-- A reading of the system clock, in nanoseconds since the first of January 1970. -/
structure SystemTime where
  nanoseconds : Int
  low : -9223372036854775808 * 1000000000 ≤ nanoseconds
  high : nanoseconds < 9223372036854775808 * 1000000000
  deriving DecidableEq

/-- Whole seconds, read as a signed word: from the smallest one on there is none. -/
def unixSeconds (time : SystemTime) : Checked Int :=
  if 0 ≤ time.nanoseconds then some (time.nanoseconds / 1000000000)
  else
    let before := -time.nanoseconds / 1000000000
    Checked.i64 (-(if before = 9223372036854775808 then -9223372036854775808 else before))

/-- One source's answer: when it was asked, when it answered, and its header if it has a legible
one. -/
structure TimeAnswer where
  sent : SystemTime
  received : SystemTime
  date : Option String

/-- How far this clock is ahead of a server, at the middle of the request. -/
def TimeAnswer.skew (answer : TimeAnswer) (server : Int) : Checked Int := do
  let clock ← Checked.div (← Checked.i64 ((← unixSeconds answer.sent) +
    (← unixSeconds answer.received))) 2
  Checked.i64 (clock - server)

/-- How far this clock is ahead, by the first source with a usable header; a source that does not
answer is no element of the list. -/
def measureSkew : List TimeAnswer → Checked (Option Int)
  | [] => some none
  | answer :: rest =>
    match answer.date with
    | none => measureSkew rest
    | some value => do
      match ← parseHttpDate value with
      | none => measureSkew rest
      | some server => (answer.skew server).map some

/-- What the diagnostics say of the clock. -/
inductive ClockState where
  | inSync
  /-- Seconds this clock is ahead, or behind if they are negative. -/
  | skewed (seconds : Int)
  | unknown
  deriving DecidableEq, Repr

/-- `MAX_CLOCK_SKEW_SECONDS`, two minutes. -/
def maxClockSkewSeconds : Int := 120

/-- `clock_state`: a skew up to two minutes is no skew. -/
def clockState (skewSeconds : Option Int) : Checked ClockState := do
  match skewSeconds with
  | none => some .unknown
  | some skew =>
    let size ← Checked.i64 |skew|
    if maxClockSkewSeconds < size then some (.skewed skew) else some .inSync

/-- The text of a skew: how far, and which way. -/
def skewTitle (seconds : Int) : String × Nat :=
  let minutes := (seconds.natAbs + 59) / 60
  match decide (0 < seconds), decide (120 ≤ minutes) with
  | true, true => ("ts.clock.ahead_hours", minutes / 60)
  | true, false => ("ts.clock.ahead_minutes", minutes)
  | false, true => ("ts.clock.behind_hours", minutes / 60)
  | false, false => ("ts.clock.behind_minutes", minutes)

/-- The state that is reported for the answers, with the text of a skew. -/
def clockReport (answers : List TimeAnswer) : Checked (ClockState × Option (String × Nat)) := do
  let state ← clockState (← measureSkew answers)
  match state with
  | .skewed seconds => some (state, some (skewTitle seconds))
  | _ => some (state, none)

/-! ## What a header names -/

/-- A text names a date that exists, and a time of day, in six words. -/
structure Names (value : String) (date : Date) (hours minutes seconds : Nat) : Prop where
  words : ∃ weekday day month year time,
    Text.splitWhitespace value = [weekday, day, month, year, time, "GMT"] ∧
      Text.parseUnsigned 4294967295 day = some date.day ∧
      monthNames.idxOf? month = some (date.month - 1) ∧ parseI64 year = some date.year ∧
      (Text.split (· = ':') time).map parseI64 =
        [some (hours : Int), some (minutes : Int), some (seconds : Int)]
  year_le : 1970 ≤ date.year
  hours_le : hours ≤ 23
  minutes_le : minutes ≤ 59
  seconds_le : seconds ≤ 60

/-- The instant of a date and a time of day, in seconds since the first of January 1970. -/
def instant (date : Date) (hours minutes seconds : Nat) : Int :=
  date.dayNumber * 86400 + hours * 3600 + minutes * 60 + seconds

/-- Whatever is read of a text is the instant that it names. -/
def Sound (value : String) : Prop :=
  ∀ server, parseHttpDate value = some (some server) →
    ∃ date hours minutes seconds, Names value date hours minutes seconds ∧
      server = instant date hours minutes seconds

/-- The whole seconds of a reading of the clock. -/
def SystemTime.seconds (time : SystemTime) : Int := time.nanoseconds.tdiv 1000000000

/-- The instant, the two readings of the clock, their sum and the difference are machine words, the
smallest word apart. -/
structure FitsRequest (sent received : SystemTime) (server : Int) : Prop where
  server_le : server ≤ 9223372036854775807
  sent_gt : -9223372036854775808 < sent.seconds
  received_gt : -9223372036854775808 < received.seconds
  sum_ge : -9223372036854775808 ≤ sent.seconds + received.seconds
  sum_le : sent.seconds + received.seconds ≤ 9223372036854775807
  skew_gt : -9223372036854775808 < (sent.seconds + received.seconds).tdiv 2 - server

/-- The header cannot be read, or it names an instant that exists and that fits the clock. -/
def TimeAnswer.Clear (answer : TimeAnswer) : Prop :=
  ∀ value ∈ answer.date, (readFields value).isSome = true →
    ∃ date hours minutes seconds, Names value date hours minutes seconds ∧
      FitsRequest answer.sent answer.received (instant date hours minutes seconds)

theorem unixSeconds_eq_some {time : SystemTime} {seconds : Int} :
    unixSeconds time = some seconds ↔
      -9223372036854775808 < time.seconds ∧ seconds = time.seconds := by
  have hlow := time.low
  have hhigh := time.high
  unfold unixSeconds SystemTime.seconds
  by_cases hsign : 0 ≤ time.nanoseconds
  · rw [if_pos hsign, Int.tdiv_eq_ediv_of_nonneg hsign, Option.some_inj]
    omega
  · have hneg : time.nanoseconds.tdiv 1000000000 = -(-time.nanoseconds / 1000000000) := by
      rw [← Int.tdiv_eq_ediv_of_nonneg (by omega), Int.neg_tdiv, Int.neg_neg]
    rw [if_neg hsign, hneg]
    dsimp only
    by_cases hmin : -time.nanoseconds / 1000000000 = 9223372036854775808
    · rw [if_pos hmin, Checked.i64_eq_none.2 (Or.inr (by omega))]
      simp only [reduceCtorEq, false_iff]
      omega
    · rw [if_neg hmin, Checked.i64_eq_some (by omega) (by omega), Option.some_inj]
      omega

/-- The fields of a text that names a date. -/
theorem Names.readFields {value : String} {date : Date} {hours minutes seconds : Nat}
    (h : Names value date hours minutes seconds) :
    readFields value = some ⟨date.year, date.month, date.day, hours, minutes, seconds⟩ := by
  obtain ⟨weekday, day, month, year, time, hwords, hday, hmonth, hyear, htime⟩ := h.words
  have hpos := date.day_pos
  have hle := le_trans date.day_le (daysInMonth_le date.year date.month)
  have hclock : readClock time = some ((hours : Int), (minutes : Int), (seconds : Int)) := by
    have hbounds := And.intro h.hours_le (And.intro h.minutes_le h.seconds_le)
    rw [readClock, htime]
    exact if_neg (by omega)
  have hread : (some date.year).filter (fun year => decide (1970 ≤ year)) = some date.year :=
    Option.filter_some_pos (decide_eq_true h.year_le)
  unfold Daemon.readFields
  rw [hwords]
  dsimp only
  rw [if_neg (not_not_intro rfl), hday, hmonth, hyear,
    Option.filter_some_pos (by simp [hpos, hle]), Checked.bind_some, Checked.bind_some, hread, Checked.bind_some, hclock,
    Checked.bind_some, Nat.sub_add_cancel date.month_pos]

theorem dayNumber_nonneg {date : Date} (hyear : 1970 ≤ date.year) : 0 ≤ date.dayNumber := by
  have hday := date.day_pos
  unfold Date.dayNumber daysBeforeYear
  omega

/-- The count of days is computed for every date whose count is not too large. -/
theorem daysFromCivil_eq {date : Date} (hyear : 1970 ≤ date.year)
    (hdays : date.dayNumber ≤ 106751991167300) :
    daysFromCivil date.year date.month date.day = some date.dayNumber := by
  have hpos := date.month_pos
  have hle := date.month_le
  have hday := date.day_pos
  have hdayLe := le_trans date.day_le (daysInMonth_le date.year date.month)
  have hmarch := date.dayNumber_march
  dsimp only at hmarch
  generalize date.dayNumber = count at *
  obtain ⟨year, hyear'⟩ : ∃ year, (if date.month ≤ 2 then date.year - 1 else date.year) = year :=
    ⟨_, rfl⟩
  obtain ⟨month, hmonth⟩ : ∃ month : Int,
      (if 2 < date.month then (date.month : Int) - 3 else date.month + 9) = month := ⟨_, rfl⟩
  have hcast : (((if date.month ≤ 2 then date.month + 9 else date.month - 3 : Nat)) : Int) =
      month := by
    rw [← hmonth]
    split_ifs <;> omega
  rw [hyear', hcast] at hmarch
  have hbounds : 1969 ≤ year := by
    rw [← hyear']
    split_ifs <;> omega
  have hmonths : 0 ≤ month ∧ month ≤ 11 := by
    rw [← hmonth]
    split_ifs <;> omega
  have hyears : year ≤ 292471208678 := by omega
  have hfirst : (if date.month ≤ 2 then Checked.i64 (date.year - 1) else some date.year) =
      some year := by
    rw [← hyear']
    split_ifs with h
    · exact Checked.i64_eq_some (by omega) (by omega)
    · rfl
  obtain ⟨era, hera⟩ : ∃ era : Int, year / 400 = era := ⟨_, rfl⟩
  obtain ⟨yearOfEra, hyearOfEra⟩ : ∃ yearOfEra, year - era * 400 = yearOfEra := ⟨_, rfl⟩
  have hquarters : year / 4 = yearOfEra / 4 + era * 100 := by omega
  have hcenturies : year / 100 = yearOfEra / 100 + era * 4 := by omega
  unfold daysFromCivil
  rw [hfirst, Checked.bind_some]
  dsimp only
  rw [hera]
  refine (Checked.bind_i64 (by omega) (by omega)).trans ?_
  refine (Checked.bind_i64 (by omega) (by omega)).trans ?_
  rw [hyearOfEra, hmonth]
  refine (Checked.bind_i64 (by omega) (by omega)).trans ?_
  refine (Checked.bind_i64 (by omega) (by omega)).trans ?_
  refine (Checked.bind_i64 (by omega) (by omega)).trans ?_
  refine (Checked.bind_i64 (by omega) (by omega)).trans ?_
  refine (Checked.bind_i64 (by omega) (by omega)).trans ?_
  refine (Checked.bind_i64 (by omega) (by omega)).trans ?_
  have hcount : era * 146097 + (yearOfEra * 365 + yearOfEra / 4 - yearOfEra / 100 +
      ((153 * month + 2) / 5 + date.day - 1)) - 719468 = count := by omega
  rw [hcount]
  exact Checked.i64_eq_some (by omega) (by omega)

section Named

variable {value : String} {date : Date} {hours minutes seconds : Nat}

theorem instant_nonneg (h : Names value date hours minutes seconds) :
    0 ≤ instant date hours minutes seconds := by
  have hdays := dayNumber_nonneg h.year_le
  unfold instant
  omega

theorem parseHttpDate_eq (h : Names value date hours minutes seconds)
    (hle : instant date hours minutes seconds ≤ 9223372036854775807) :
    parseHttpDate value = some (some (instant date hours minutes seconds)) := by
  have hdays := dayNumber_nonneg h.year_le
  have hhours := h.hours_le
  have hminutes := h.minutes_le
  unfold instant at hle ⊢
  rw [parseHttpDate, h.readFields]
  dsimp only
  rw [daysFromCivil_eq h.year_le (by omega), Checked.bind_some]
  refine (Checked.bind_i64 (by omega) (by omega)).trans ?_
  refine (Checked.bind_i64 (by omega) (by omega)).trans ?_
  refine (Checked.bind_i64 (by omega) (by omega)).trans ?_
  refine (Checked.bind_i64 (by omega) (by omega)).trans ?_
  refine (Checked.bind_i64 (by omega) (by omega)).trans ?_
  exact Checked.bind_i64 (by omega) (by omega)

example : parseHttpDate "Tue, 29 Feb 2028 23:59:59 GMT" = some (some 1835481599) := by
  decide

/-- A date that is read is a machine word. -/
theorem parseHttpDate_le {server : Int} (h : parseHttpDate value = some (some server)) :
    server ≤ 9223372036854775807 := by
  rw [parseHttpDate] at h
  cases hfields : readFields value with
  | none =>
    rw [hfields] at h
    cases h
  | some fields =>
    rw [hfields] at h
    simp only [Option.bind_eq_bind, Option.bind_eq_some_iff, Option.some_inj] at h
    obtain ⟨_, -, _, -, _, -, _, -, _, -, _, -, result, hresult, rfl⟩ := h
    unfold Checked.i64 at hresult
    split_ifs at hresult with hrange
    cases hresult
    exact hrange.2

end Named

theorem readFields_of_parseHttpDate {value : String} {server : Int}
    (h : parseHttpDate value = some (some server)) : (readFields value).isSome = true := by
  rw [parseHttpDate] at h
  cases hfields : readFields value with
  | none =>
    rw [hfields] at h
    cases h
  | some fields => rfl

theorem measureSkew_unreadable {answer : TimeAnswer} {value : String}
    (hdate : answer.date = some value) (hread : readFields value = none) (rest : List TimeAnswer) :
    measureSkew (answer :: rest) = measureSkew rest := by
  rw [measureSkew, hdate]
  dsimp only
  rw [parseHttpDate, hread]
  rfl

theorem measureSkew_read {answer : TimeAnswer} {value : String} {server : Int}
    (hdate : answer.date = some value) (hparse : parseHttpDate value = some (some server))
    (rest : List TimeAnswer) :
    measureSkew (answer :: rest) = (answer.skew server).map some := by
  rw [measureSkew, hdate]
  dsimp only
  rw [hparse]
  rfl

theorem half_bounds {sum : Int} (hlow : -9223372036854775808 ≤ sum)
    (hhigh : sum ≤ 9223372036854775807) :
    -4611686018427387904 ≤ sum.tdiv 2 ∧ sum.tdiv 2 ≤ 4611686018427387903 := by
  by_cases hsign : 0 ≤ sum
  · rw [Int.tdiv_eq_ediv_of_nonneg hsign]
    omega
  · have hneg : sum.tdiv 2 = -(-sum / 2) := by
      rw [← Int.tdiv_eq_ediv_of_nonneg (by omega), Int.neg_tdiv, Int.neg_neg]
    rw [hneg]
    omega

/-- A skew that has an absolute value is computed for the readings of the clock that fit. -/
theorem TimeAnswer.skew_iff (answer : TimeAnswer) {server : Int} (hlow : 0 ≤ server)
    (hhigh : server ≤ 9223372036854775807) :
    (∃ skew, answer.skew server = some skew ∧ |skew| ≤ 9223372036854775807) ↔
      FitsRequest answer.sent answer.received server := by
  constructor
  · rintro ⟨skew, hskew, habs⟩
    simp only [TimeAnswer.skew, Option.bind_eq_bind, Option.bind_eq_some_iff] at hskew
    obtain ⟨sent, hsent, received, hreceived, sum, hsum, half, hhalf, hskew⟩ := hskew
    obtain ⟨hsentLow, rfl⟩ := unixSeconds_eq_some.1 hsent
    obtain ⟨hreceivedLow, rfl⟩ := unixSeconds_eq_some.1 hreceived
    obtain ⟨hrange, rfl⟩ := Checked.i64_eq_some_iff.1 hsum
    rw [Checked.div, if_neg (by decide)] at hhalf
    obtain ⟨-, rfl⟩ := Checked.i64_eq_some_iff.1 hhalf
    obtain ⟨-, rfl⟩ := Checked.i64_eq_some_iff.1 hskew
    rw [abs_le] at habs
    exact ⟨hhigh, hsentLow, hreceivedLow, hrange.1, hrange.2, by omega⟩
  · intro h
    have hsum := And.intro h.sum_ge h.sum_le
    have hskew := h.skew_gt
    have hhalf : -4611686018427387904 ≤ (answer.sent.seconds + answer.received.seconds).tdiv 2 ∧
        (answer.sent.seconds + answer.received.seconds).tdiv 2 ≤ 4611686018427387903 :=
      half_bounds hsum.1 hsum.2
    refine ⟨(answer.sent.seconds + answer.received.seconds).tdiv 2 - server, ?_, ?_⟩
    · unfold TimeAnswer.skew
      rw [unixSeconds_eq_some.2 ⟨h.sent_gt, rfl⟩, Checked.bind_some,
        unixSeconds_eq_some.2 ⟨h.received_gt, rfl⟩, Checked.bind_some,
        Checked.i64_eq_some hsum.1 hsum.2, Checked.bind_some, Checked.div, if_neg (by decide),
        Checked.i64_eq_some (by omega) (by omega), Checked.bind_some]
      exact Checked.i64_eq_some (by omega) (by omega)
    · rw [abs_le]
      omega

theorem clockState_isSome (skew : Int) :
    (clockState (some skew)).isSome = true ↔ |skew| ≤ 9223372036854775807 := by
  have hpos := abs_nonneg skew
  unfold clockState
  dsimp only
  cases hsize : Checked.i64 |skew| with
  | none =>
    rw [Checked.i64_eq_none] at hsize
    exact iff_of_false Bool.false_ne_true (by omega)
  | some size =>
    obtain ⟨hrange, rfl⟩ := Checked.i64_eq_some_iff.1 hsize
    refine iff_of_true ?_ hrange.2
    rw [Checked.bind_some]
    split_ifs <;> rfl

theorem clockReport_isSome (answers : List TimeAnswer) :
    (clockReport answers).isSome = true ↔
      ∃ skew, measureSkew answers = some skew ∧ (clockState skew).isSome = true := by
  unfold clockReport
  cases measureSkew answers with
  | none => simp
  | some skew =>
    rw [Checked.bind_some]
    cases hstate : clockState skew with
    | none => simp [hstate]
    | some state => cases state <;> simp [hstate]

/-- One answer with a legible header is reported exactly when its skew has an absolute value, if the
header is read. -/
theorem clockReport_read {answer : TimeAnswer} {value : String} {server : Int}
    (hdate : answer.date = some value) (hparse : parseHttpDate value = some (some server))
    (hlow : 0 ≤ server) (rest : List TimeAnswer) :
    (clockReport (answer :: rest)).isSome = true ↔ FitsRequest answer.sent answer.received server := by
  rw [← answer.skew_iff hlow (parseHttpDate_le hparse), clockReport_isSome,
    measureSkew_read hdate hparse]
  simp only [Option.map_eq_some_iff, ← clockState_isSome]
  constructor
  · rintro ⟨-, ⟨skew, hskew, rfl⟩, hstate⟩
    exact ⟨skew, hskew, hstate⟩
  · rintro ⟨skew, hskew, hstate⟩
    exact ⟨_, ⟨skew, hskew, rfl⟩, hstate⟩

/-- A clear header that is read fits the clock. -/
theorem clockReport_named {answer : TimeAnswer} {value : String} {date : Date}
    {hours minutes seconds : Nat} (hdate : answer.date = some value)
    (hnames : Names value date hours minutes seconds)
    (hfits : FitsRequest answer.sent answer.received (instant date hours minutes seconds))
    (rest : List TimeAnswer) : (clockReport (answer :: rest)).isSome = true :=
  (clockReport_read hdate (parseHttpDate_eq hnames hfits.server_le) (instant_nonneg hnames) rest).2
    hfits

theorem clockReport_clear {answers : List TimeAnswer} (h : ∀ answer ∈ answers, answer.Clear) :
    (clockReport answers).isSome = true := by
  induction answers with
  | nil => rfl
  | cons answer rest ih =>
    obtain ⟨hclear, hrest⟩ := List.forall_mem_cons.1 h
    cases hdate : answer.date with
    | none =>
      have hskip : measureSkew (answer :: rest) = measureSkew rest := by
        rw [measureSkew, hdate]
      rw [clockReport, hskip, ← clockReport]
      exact ih hrest
    | some value =>
      cases hread : readFields value with
      | none =>
        rw [clockReport, measureSkew_unreadable hdate hread, ← clockReport]
        exact ih hrest
      | some fields =>
        obtain ⟨date, hours, minutes, seconds, hnames, hfits⟩ :=
          hclear value hdate (Option.isSome_of_eq_some hread)
        exact clockReport_named hdate hnames hfits rest

/-- What is read of a clear header is the instant that it names. -/
theorem sound_of_clear {answer : TimeAnswer} {value : String} (hdate : answer.date = some value)
    (hclear : answer.Clear) : Sound value := by
  intro server hparse
  obtain ⟨date, hours, minutes, seconds, hnames, hfits⟩ :=
    hclear value hdate (readFields_of_parseHttpDate hparse)
  have hsame := parseHttpDate_eq hnames hfits.server_le
  rw [hparse, Option.some_inj, Option.some_inj] at hsame
  exact ⟨date, hours, minutes, seconds, hnames, hsame⟩

/-- A header that is read, soundly and without a panic, is clear. -/
theorem clear_of_sound {sent received : SystemTime} {value : String} {rest : List TimeAnswer}
    (hsound : Sound value)
    (hreport : (clockReport (⟨sent, received, some value⟩ :: rest)).isSome = true) :
    TimeAnswer.Clear ⟨sent, received, some value⟩ := by
  intro text htext hread
  obtain rfl : value = text := Option.some_inj.1 htext
  cases hparse : parseHttpDate value with
  | none =>
    rw [clockReport, measureSkew] at hreport
    dsimp only at hreport
    rw [hparse] at hreport
    exact absurd hreport Bool.false_ne_true
  | some parsed =>
    cases parsed with
    | none =>
      obtain ⟨fields, hfields⟩ := Option.isSome_iff_exists.1 hread
      rw [parseHttpDate, hfields] at hparse
      simp [Option.bind_eq_some_iff] at hparse
    | some server =>
      obtain ⟨date, hours, minutes, seconds, hnames, rfl⟩ := hsound server hparse
      exact ⟨date, hours, minutes, seconds, hnames,
        (clockReport_read rfl hparse (instant_nonneg hnames) rest).1 hreport⟩

/-- For one header and any clock: what is read is the instant that the header names, and the whole
computation neither overflows nor panics, exactly where the header is clear. And no list of clear
answers makes it panic. -/
theorem clock_skew_clear (value : String) (sent received : SystemTime) {rest : List TimeAnswer}
    (hrest : ∀ answer ∈ rest, answer.Clear) :
    (Sound value ∧ (clockReport (⟨sent, received, some value⟩ :: rest)).isSome = true ↔
      TimeAnswer.Clear ⟨sent, received, some value⟩) ∧ (clockReport rest).isSome = true := by
  refine ⟨⟨fun h => clear_of_sound h.1 h.2, fun h => ?_⟩, clockReport_clear hrest⟩
  exact ⟨sound_of_clear rfl h, clockReport_clear (List.forall_mem_cons.2 ⟨h, hrest⟩)⟩

/-- The first second of 2026. -/
def startOfYear2026 : SystemTime := ⟨1767225600 * 1000000000, by decide, by decide⟩

/-- A day that only leap years have. -/
def leapDay2028 : Date := ⟨2028, 2, 29, by decide, by decide, by decide, by decide⟩

/-- A header may name a leap second of a leap day. -/
theorem names_leapSecond : Names "Tue, 29 Feb 2028 23:59:60 GMT" leapDay2028 23 59 60 where
  words := ⟨"Tue,", "29", "Feb", "2028", "23:59:60", by decide⟩
  year_le := by decide
  hours_le := by decide
  minutes_le := by decide
  seconds_le := by decide

/-- A source without a header, one whose header is no date, and one that names a leap second. -/
def threeSources : List TimeAnswer :=
  [⟨startOfYear2026, startOfYear2026, none⟩, ⟨startOfYear2026, startOfYear2026, some "soon"⟩,
    ⟨startOfYear2026, startOfYear2026, some "Tue, 29 Feb 2028 23:59:60 GMT"⟩]

theorem threeSources_clear : ∀ answer ∈ threeSources, answer.Clear := by
  intro answer hanswer value hvalue hread
  simp only [threeSources, List.mem_cons, List.not_mem_nil, or_false] at hanswer
  rcases hanswer with rfl | rfl | rfl
  · cases hvalue
  · cases hvalue
    exact absurd hread (by decide)
  · cases hvalue
    exact ⟨leapDay2028, 23, 59, 60, names_leapSecond, by decide, by decide, by decide, by decide,
      by decide, by decide⟩

/-- A header with three other sources behind it, the last of which counts where it cannot be
read. -/
theorem clock_skew_clear_threeSources :
    (Sound "Thu, 01 Jan 2026 00:00:00 GMT" ∧ (clockReport (⟨startOfYear2026, startOfYear2026,
        some "Thu, 01 Jan 2026 00:00:00 GMT"⟩ :: threeSources)).isSome = true ↔
      TimeAnswer.Clear ⟨startOfYear2026, startOfYear2026,
        some "Thu, 01 Jan 2026 00:00:00 GMT"⟩) ∧ (clockReport threeSources).isSome = true :=
  clock_skew_clear "Thu, 01 Jan 2026 00:00:00 GMT" startOfYear2026 startOfYear2026
    threeSources_clear

example : clockReport threeSources =
    some (.skewed (-68256000), some ("ts.clock.behind_hours", 18960)) := by decide

/-- The thirtieth of February is taken for a date. -/
theorem clock_skew_february :
    ¬ ∀ (value : String) (sent received : SystemTime), Sound value ∧
      (clockReport [⟨sent, received, some value⟩]).isSome = true := by
  intro hall
  obtain ⟨hsound, -⟩ := hall "Mon, 30 Feb 2026 00:00:00 GMT" startOfYear2026 startOfYear2026
  obtain ⟨date, hours, minutes, seconds, hnames, -⟩ :=
    hsound 1772409600 (by decide)
  have hread : readFields "Mon, 30 Feb 2026 00:00:00 GMT" = some ⟨2026, 2, 30, 0, 0, 0⟩ := by
    decide
  rw [hnames.readFields, Option.some_inj, HttpDate.mk.injEq] at hread
  obtain ⟨hyear, hmonth, hday, -⟩ := hread
  have hle := date.day_le
  rw [hyear, hmonth, hday] at hle
  exact absurd hle (by decide)

end MultiCore.Daemon
