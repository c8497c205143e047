import MyLite.Library.Gregorian

/-! The day numbers of the temporal functions. Each source module counts days
with code of its own; dates are taken as parsed, with their validity checks. -/

namespace MyLite.Temporal

open Gregorian (Date)

/-- `static const int days[]` of every module. -/
def monthDays : List Int := [31, 28, 31, 30, 31, 30, 31, 31, 30, 31, 30, 31]

/-- The leap-year rule that the modules share, up to the year 0. -/
def leapRule (year : Int) : Bool :=
  (year.tmod 4 = 0 && year.tmod 100 ≠ 0) || year.tmod 400 = 0

/-- `days_in_month` of a module with the given leap-year rule. -/
def daysInMonthBy (isLeapYear : Int → Bool) (year month : Int) : Int :=
  if month = 2 && isLeapYear year then 29
  else if month < 1 || month > 12 then 0
  else monthDays.getD (month - 1).toNat 0

/-- `date_is_valid` of a module with the given leap-year rule. -/
def dateIsValidBy (isLeapYear : Int → Bool) (date : Date) : Bool :=
  if date.month < 1 || date.month > 12 || date.day < 1 || date.day > 31 then false
  else date.day ≤ daysInMonthBy isLeapYear date.year date.month

/-- `day_of_year` of a module with the given leap-year rule. -/
def dayOfYearBy (isLeapYear : Int → Bool) (date : Date) : Int :=
  (List.range (date.month - 1).toNat).foldl
    (fun result (index : Nat) => result + daysInMonthBy isLeapYear date.year (index + 1)) 0 +
    date.day

/-- `day_number` of a module with the given leap-year rule. -/
def dayNumberBy (isLeapYear : Int → Bool) (date : Date) : Int :=
  let yearsBefore := if date.year ≤ 0 then 0 else date.year - 1
  let leapDaysBeforeYear :=
    yearsBefore.tdiv 4 - yearsBefore.tdiv 100 + yearsBefore.tdiv 400
  if date.year > 0 then date.year * 365 + leapDaysBeforeYear + dayOfYearBy isLeapYear date
  else dayOfYearBy isLeapYear date

namespace TemporalExtract

def calendarIsLeapYear (year : Int) : Bool := if year = 0 then false else leapRule year

def calendarCompleteDateIsValid : Date → Bool := dateIsValidBy calendarIsLeapYear

def calendarDayNumber : Date → Int := dayNumberBy calendarIsLeapYear

/-- `extract_to_days_value`; `none` is SQL NULL. -/
def extractToDaysValue (date : Date) : Option Int :=
  if calendarCompleteDateIsValid date then some (calendarDayNumber date) else none

end TemporalExtract

namespace Datediff

def isLeapYear (year : Int) : Bool := if year = 0 then false else leapRule year

def dateIsValid : Date → Bool := dateIsValidBy isLeapYear

def dayNumber : Date → Int := dayNumberBy isLeapYear

/-- `datediff_value_result`. -/
def datediffValueResult (left right : Date) : Option Int :=
  if dateIsValid left && dateIsValid right then some (dayNumber left - dayNumber right) else none

end Datediff

structure Datetime where
  date : Date
  hour : Int
  minute : Int
  second : Int
  deriving DecidableEq, Repr

def Datetime.midnight (date : Date) : Datetime :=
  { date := date, hour := 0, minute := 0, second := 0 }

namespace Timestampdiff

inductive Unit where
  | year
  | quarter
  | month
  | week
  | day
  | hour
  | minute
  | second
  | microsecond
  deriving DecidableEq, Repr

def isLeapYear (year : Int) : Bool := if year = 0 then false else leapRule year

def dateIsValid : Date → Bool := dateIsValidBy isLeapYear

def dayNumber : Date → Int := dayNumberBy isLeapYear

def secondsOfDay (datetime : Datetime) : Int :=
  datetime.hour * 3600 + datetime.minute * 60 + datetime.second

def compareDayTime (left right : Datetime) : Int :=
  if left.date.day < right.date.day then -1
  else if left.date.day > right.date.day then 1
  else if secondsOfDay left < secondsOfDay right then -1
  else if secondsOfDay left > secondsOfDay right then 1
  else 0

def wholeMonthDifference (left right : Datetime) : Int :=
  let months := (right.date.year - left.date.year) * 12 + (right.date.month - left.date.month)
  let dayTimeComparison := -compareDayTime left right
  if months > 0 ∧ dayTimeComparison < 0 then months - 1
  else if months < 0 ∧ dayTimeComparison > 0 then months + 1
  else months

def elapsedSecondDifference (left right : Datetime) : Int :=
  (dayNumber right.date - dayNumber left.date) * 86400 + secondsOfDay right - secondsOfDay left

def timestampdiffResult (unit : Unit) (left right : Datetime) : Int :=
  match unit with
  | .year => (wholeMonthDifference left right).tdiv 12
  | .quarter => (wholeMonthDifference left right).tdiv 3
  | .month => wholeMonthDifference left right
  | .week => (elapsedSecondDifference left right).tdiv 604800
  | .day => (elapsedSecondDifference left right).tdiv 86400
  | .hour => (elapsedSecondDifference left right).tdiv 3600
  | .minute => (elapsedSecondDifference left right).tdiv 60
  | .second => elapsedSecondDifference left right
  | .microsecond => 0

def timestampdiffValueResult (unit : Unit) (left right : Date) : Option Int :=
  if dateIsValid left && dateIsValid right then
    some (timestampdiffResult unit (.midnight left) (.midnight right))
  else none

end Timestampdiff

namespace UnixTimestamp

def dateIsValid : Date → Bool := dateIsValidBy leapRule

/-- The conversion of a 64-bit value to `int`. -/
def narrowToInt (value : Int) : Int := (value + 2147483648) % 4294967296 - 2147483648

def floorDivideI64 (numerator denominator : Int) : Int :=
  let quotient := numerator.tdiv denominator
  let remainder := numerator.tmod denominator
  if remainder ≠ 0 ∧ (decide (remainder < 0) ≠ decide (denominator < 0)) then quotient - 1
  else quotient

/-- The unsigned intermediate values are not negative and below 2^32. -/
def daysFromCivil (date : Date) : Int :=
  let adjustedYear := date.year - (if date.month ≤ 2 then 1 else 0)
  let era := (if adjustedYear ≥ 0 then adjustedYear else adjustedYear - (400 - 1)).tdiv 400
  let yearOfEra := adjustedYear - era * 400
  let monthTerm := date.month + (if date.month > 2 then -3 else 9)
  let dayOfYear := (153 * monthTerm + 2) / 5 + date.day - 1
  let dayOfEra := yearOfEra * 365 + yearOfEra / 4 - yearOfEra / 100 + dayOfYear
  era * 146097 + dayOfEra - 719468

def civilFromDays (days : Int) : Date :=
  let shiftedDays := days + 719468
  let era := floorDivideI64 shiftedDays 146097
  let dayOfEra := shiftedDays - era * 146097
  let yearOfEra := (dayOfEra - dayOfEra / 1460 + dayOfEra / 36524 - dayOfEra / 146096) / 365
  let year := era * 400 + yearOfEra
  let dayOfYear := dayOfEra - (yearOfEra * 365 + yearOfEra / 4 - yearOfEra / 100)
  let monthPart := (5 * dayOfYear + 2) / 153
  let day := dayOfYear - (153 * monthPart + 2) / 5 + 1
  let month := monthPart + (if monthPart < 10 then 3 else -9)
  { year := narrowToInt (year + (if month ≤ 2 then 1 else 0)), month := month, day := day }

/-- `mylite_from_unixtime_value` and `datetime_from_epoch` up to the date. -/
def fromUnixtimeDate (seconds offsetMinutes : Int) : Option Date :=
  if seconds < 0 ∨ seconds > 32536771199 then none
  else some (civilFromDays (floorDivideI64 (seconds + offsetMinutes * 60) 86400))

end UnixTimestamp

namespace DateIntervalSecond

inductive Unit where
  | second
  | minute
  | hour
  | day
  | week
  | month
  | quarter
  | year
  | microsecond
  deriving DecidableEq, Repr

def int64Max : Int := 9223372036854775807

def int64Min : Int := -9223372036854775808

def daysInMonth : Int → Int → Int := daysInMonthBy leapRule

def dateIsValid (date : Date) : Bool :=
  if date.year < 1000 || date.year > 9999 || date.month < 1 || date.month > 12 ||
      date.day < 1 then false
  else date.day ≤ daysInMonth date.year date.month

def timeIsValid (datetime : Datetime) : Bool :=
  0 ≤ datetime.hour && datetime.hour ≤ 23 && 0 ≤ datetime.minute && datetime.minute ≤ 59 &&
    0 ≤ datetime.second && datetime.second ≤ 59

def checkedAdd (left right : Int) : Option Int :=
  if (right > 0 ∧ left > int64Max - right) ∨ (right < 0 ∧ left < int64Min - right) then none
  else some (left + right)

/-- The factor is a positive constant in every call. -/
def checkedMultiply (left right : Int) : Option Int :=
  if left ≠ 0 ∧ (left > int64Max.tdiv right ∨ left < int64Min.tdiv right) then none
  else some (left * right)

/-- The unsigned intermediate values are not negative and below 2^32. -/
def daysFromDatetime (date : Date) : Int :=
  let year := date.year - (if date.month ≤ 2 then 1 else 0)
  let era := (if year ≥ 0 then year else year - 399).tdiv 400
  let yearOfEra := year - era * 400
  let monthPrime := if date.month > 2 then date.month - 3 else date.month + 9
  let dayOfYear := (153 * monthPrime + 2) / 5 + date.day - 1
  let dayOfEra := yearOfEra * 365 + yearOfEra / 4 - yearOfEra / 100 + dayOfYear
  era * 146097 + dayOfEra - 719468

def datetimeFromDays (days : Int) : Date :=
  let days := days + 719468
  let era := (if days ≥ 0 then days else days - 146096).tdiv 146097
  let dayOfEra := days - era * 146097
  let yearOfEra := (dayOfEra - dayOfEra / 1460 + dayOfEra / 36524 - dayOfEra / 146096) / 365
  let year := yearOfEra + era * 400
  let dayOfYear := dayOfEra - (365 * yearOfEra + yearOfEra / 4 - yearOfEra / 100)
  let monthPrime := (5 * dayOfYear + 2) / 153
  let day := dayOfYear - (153 * monthPrime + 2) / 5 + 1
  let month := if monthPrime < 10 then monthPrime + 3 else monthPrime - 9
  { year := year + (if month ≤ 2 then 1 else 0), month := month, day := day }

/-- The days and the seconds of the day. -/
def floorDivmod (totalSeconds : Int) : Int × Int :=
  let days := totalSeconds.tdiv 86400
  let daySeconds := totalSeconds.tmod 86400
  if daySeconds < 0 then (days - 1, daySeconds + 86400) else (days, daySeconds)

/-- `date_interval_second_add`. -/
def add (input : Datetime) (intervalSeconds : Int) : Option Datetime :=
  if !timeIsValid input then none
  else
    let daySeconds := input.hour * 3600 + input.minute * 60 + input.second
    let baseSeconds := daysFromDatetime input.date * 86400 + daySeconds
    (checkedAdd baseSeconds intervalSeconds).bind fun resultSeconds =>
      let result := floorDivmod resultSeconds
      let date := datetimeFromDays result.1
      if date.year < 1000 || date.year > 9999 then none
      else some {
        date := date
        hour := result.2 / 3600
        minute := result.2 % 3600 / 60
        second := result.2 % 3600 % 60 }

/-- `date_interval_add_calendar_months`. -/
def addCalendarMonths (input : Datetime) (intervalMonths : Int) : Option Datetime :=
  if !timeIsValid input then none
  else
    (checkedMultiply input.date.year 12).bind fun base =>
    (checkedAdd base (input.date.month - 1)).bind fun baseMonths =>
    (checkedAdd baseMonths intervalMonths).bind fun resultMonths =>
      let index := resultMonths.tmod 12
      let year := if index < 0 then resultMonths.tdiv 12 - 1 else resultMonths.tdiv 12
      let month := (if index < 0 then index + 12 else index) + 1
      if year < 1000 || year > 9999 then none
      else
        let daysInTargetMonth := daysInMonth year month
        let day := if input.date.day > daysInTargetMonth then daysInTargetMonth
          else input.date.day
        let date : Date := { year := year, month := month, day := day }
        if dateIsValid date then some { input with date := date } else none

/-- `date_interval_unit_add`. -/
def unitAdd (input : Datetime) (intervalValue : Int) : Unit → Option Datetime
  | .second => add input intervalValue
  | .minute => (checkedMultiply intervalValue 60).bind (add input)
  | .hour => (checkedMultiply intervalValue 3600).bind (add input)
  | .day => (checkedMultiply intervalValue 86400).bind (add input)
  | .week => (checkedMultiply intervalValue 604800).bind (add input)
  | .month => addCalendarMonths input intervalValue
  | .quarter => (checkedMultiply intervalValue 3).bind (addCalendarMonths input)
  | .year => (checkedMultiply intervalValue 12).bind (addCalendarMonths input)
  | .microsecond => none

/-- DATE_ADD and DATE_SUB of a DATE by a unit without a time part, whose result is
a date again. -/
def dateIntervalResult (subtract : Bool) (date : Date) (intervalValue : Int) (unit : Unit) :
    Option Date :=
  if !dateIsValid date || (subtract && intervalValue = int64Min) then none
  else (unitAdd (.midnight date) (if subtract then -intervalValue else intervalValue) unit).map
    Datetime.date

end DateIntervalSecond

end MyLite.Temporal
