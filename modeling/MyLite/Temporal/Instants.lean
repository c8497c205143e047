import MyLite.Temporal.DatetimeText
import MyLite.Temporal.OneCalendar

/-! Datetimes as seconds on one line, and dates as months on one line: what the temporal
functions compute with. -/

namespace MyLite.Temporal

open Gregorian (Date Valid toDays ofDays monthIndex daysInMonth_pos)

/-- A time of day. -/
structure ValidTime (datetime : Datetime) : Prop where
  hourLow : 0 ≤ datetime.hour
  hourHigh : datetime.hour ≤ 23
  minuteLow : 0 ≤ datetime.minute
  minuteHigh : datetime.minute ≤ 59
  secondLow : 0 ≤ datetime.second
  secondHigh : datetime.second ≤ 59

/-- The seconds from the first of March of the year 0 on. -/
def instant (datetime : Datetime) : Int :=
  toDays datetime.date * 86400 +
    (datetime.hour * 3600 + datetime.minute * 60 + datetime.second)

def ofInstant (seconds : Int) : Datetime where
  date := ofDays (seconds / 86400)
  hour := seconds % 86400 / 3600
  minute := seconds % 86400 % 3600 / 60
  second := seconds % 86400 % 3600 % 60

/-- A date some months later, or the last day of that month. -/
def addMonths (date : Date) (months : Int) : Date where
  year := (monthIndex date + months) / 12
  month := (monthIndex date + months) % 12 + 1
  day := min date.day (Gregorian.daysInMonth ((monthIndex date + months) / 12)
    ((monthIndex date + months) % 12 + 1))

variable {datetime : Datetime} {date : Date}

theorem ValidTime.secondsOfDay (time : ValidTime datetime) :
    0 ≤ datetime.hour * 3600 + datetime.minute * 60 + datetime.second ∧
      datetime.hour * 3600 + datetime.minute * 60 + datetime.second < 86400 := by
  obtain ⟨hourLow, hourHigh, minuteLow, minuteHigh, secondLow, secondHigh⟩ := time
  constructor <;> omega

theorem timeIsValid_iff (datetime : Datetime) :
    DateIntervalSecond.timeIsValid datetime = true ↔ ValidTime datetime := by
  rw [DateIntervalSecond.timeIsValid]
  simp only [Bool.and_eq_true, decide_eq_true_eq]
  constructor
  · rintro ⟨⟨⟨⟨⟨hourLow, hourHigh⟩, minuteLow⟩, minuteHigh⟩, secondLow⟩, secondHigh⟩
    exact ⟨hourLow, hourHigh, minuteLow, minuteHigh, secondLow, secondHigh⟩
  · rintro ⟨hourLow, hourHigh, minuteLow, minuteHigh, secondLow, secondHigh⟩
    exact ⟨⟨⟨⟨⟨hourLow, hourHigh⟩, minuteLow⟩, minuteHigh⟩, secondLow⟩, secondHigh⟩

/-- Dates and times have texts. -/
theorem dateFits (valid : Valid date) (yearLow : 0 ≤ date.year) (yearHigh : date.year ≤ 9999) :
    DateFits date := by
  have short := daysInMonth_le date.year date.month
  obtain ⟨monthPos, monthLe, dayPos, dayLe⟩ := valid
  constructor <;> omega

theorem InRange.fits (range : InRange date) : DateFits date := by
  have yearLow := range.yearLow
  exact dateFits range.valid (by omega) range.yearHigh

theorem ValidTime.fits (time : ValidTime datetime) : TimeFits datetime := by
  obtain ⟨hourLow, hourHigh, minuteLow, minuteHigh, secondLow, secondHigh⟩ := time
  constructor <;> omega

theorem ValidTime.onDate (time : ValidTime datetime) (date : Date) :
    ValidTime { datetime with date := date } :=
  ⟨time.hourLow, time.hourHigh, time.minuteLow, time.minuteHigh, time.secondLow, time.secondHigh⟩

theorem ofInstant_time (seconds : Int) : ValidTime (ofInstant seconds) := by
  constructor <;> dsimp only [ofInstant] <;> omega

theorem ofInstant_valid (seconds : Int) : Valid (ofInstant seconds).date :=
  Gregorian.ofDays_valid _

theorem instant_ofInstant (seconds : Int) : instant (ofInstant seconds) = seconds := by
  dsimp only [instant, ofInstant]
  rw [Gregorian.toDays_ofDays]
  omega

theorem ofInstant_instant (valid : Valid datetime.date) (time : ValidTime datetime) :
    ofInstant (instant datetime) = datetime := by
  obtain ⟨low, high⟩ := time.secondsOfDay
  have days : instant datetime / 86400 = toDays datetime.date := by
    rw [instant]
    omega
  have seconds : instant datetime % 86400 =
      datetime.hour * 3600 + datetime.minute * 60 + datetime.second := by
    rw [instant]
    omega
  obtain ⟨hourLow, hourHigh, minuteLow, minuteHigh, secondLow, secondHigh⟩ := time
  rw [ofInstant, days, seconds, Gregorian.ofDays_toDays valid]
  obtain ⟨date, hour, minute, second⟩ := datetime
  dsimp only at *
  rw [Datetime.mk.injEq]
  exact ⟨rfl, by omega, by omega, by omega⟩

theorem instant_midnight (date : Date) : instant (.midnight date) = toDays date * 86400 := by
  simp [instant, Datetime.midnight]

/-- Whole days are midnights. -/
theorem ofInstant_days (days : Int) : ofInstant (days * 86400) = .midnight (ofDays days) := by
  rw [ofInstant, Datetime.midnight, Int.mul_ediv_cancel _ (by decide), Int.mul_emod_left]
  rfl

/-- The instants of the years 1000 to 9999. -/
theorem instant_bounds (range : InRange datetime.date) (time : ValidTime datetime) :
    0 ≤ instant datetime ∧ instant datetime < 3700001 * 86400 := by
  obtain ⟨low, high⟩ := toDays_bounds range
  obtain ⟨secondsLow, secondsHigh⟩ := time.secondsOfDay
  rw [instant]
  omega

theorem addMonths_valid (valid : Valid date) (months : Int) : Valid (addMonths date months) := by
  have dayPos := valid.dayPos
  have filled := daysInMonth_pos ((monthIndex date + months) / 12)
    ((monthIndex date + months) % 12 + 1)
  constructor
  · dsimp only [addMonths]
    omega
  · dsimp only [addMonths]
    omega
  · dsimp only [addMonths]
    omega
  · exact min_le_right _ _

/-! What the modules compute on the way from a day of an era to its date stays small. -/

structure EraParts (dayOfEra : Int) : Prop where
  quads : dayOfEra / 1460 ≤ dayOfEra
  centuriesLow : 0 ≤ dayOfEra / 36524
  centuriesHigh : dayOfEra / 36524 ≤ 4
  eraLow : 0 ≤ dayOfEra / 146096
  eraHigh : dayOfEra / 146096 ≤ dayOfEra / 36524
  yearLow : 0 ≤ (dayOfEra - dayOfEra / 1460 + dayOfEra / 36524 - dayOfEra / 146096) / 365
  yearHigh : (dayOfEra - dayOfEra / 1460 + dayOfEra / 36524 - dayOfEra / 146096) / 365 ≤ 400

theorem eraParts {dayOfEra : Int} (low : 0 ≤ dayOfEra) (high : dayOfEra < 146097) :
    EraParts dayOfEra := by
  constructor <;> omega

/-- The leap days before a year of an era. -/
theorem leapDays_bounds {yearOfEra : Int} (low : 0 ≤ yearOfEra) (high : yearOfEra ≤ 400) :
    0 ≤ yearOfEra / 4 ∧ yearOfEra / 4 ≤ 100 ∧ 0 ≤ yearOfEra / 100 ∧
      yearOfEra / 100 ≤ yearOfEra / 4 := by
  refine ⟨?_, ?_, ?_, ?_⟩ <;> omega

/-- The month and the day of a day of a March year. -/
theorem monthPrime_bounds {dayOfYear : Int} (low : 0 ≤ dayOfYear) (high : dayOfYear ≤ 365) :
    0 ≤ (5 * dayOfYear + 2) / 153 ∧ (5 * dayOfYear + 2) / 153 ≤ 11 ∧
      0 ≤ dayOfYear - (153 * ((5 * dayOfYear + 2) / 153) + 2) / 5 ∧
      dayOfYear - (153 * ((5 * dayOfYear + 2) / 153) + 2) / 5 ≤ 31 := by
  refine ⟨?_, ?_, ?_, ?_⟩ <;> omega

end MyLite.Temporal
