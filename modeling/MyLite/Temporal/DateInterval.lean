import MyLite.Library.Checked
import MyLite.Temporal.DatetimeText

/-! DATE_ADD and DATE_SUB from the text of a value to the text of the result. Every
operation on `int`, `int64_t` and `uint32_t` is checked, and stops where it would overflow
or wrap; `DateIntervalSecond` has the same functions over the integers. -/

namespace MyLite.Temporal.DateInterval

open Checked (Stop int32 int64 uint32)
open DateIntervalSecond (int64Max int64Min dateIsValid timeIsValid)
open Gregorian (Date)

def parseDate (value : List UInt8) : Option Datetime :=
  (dateFields value).bind fun date => if dateIsValid date then some (.midnight date) else none

def parseTime (date : Date) (value : List UInt8) : Option Datetime :=
  (timeFields date value).bind fun datetime =>
    if datetime.hour < 0 ∨ datetime.hour > 23 ∨ datetime.minute < 0 ∨ datetime.minute > 59 ∨
        datetime.second < 0 ∨ datetime.second > 59 then none
    else some datetime

def parseDatetime (value : List UInt8) : Option Datetime :=
  if value.length ≠ 19 ∨ value[10]? ≠ some blank then none
  else (parseDate (value.take 10)).bind fun datetime => parseTime datetime.date (value.drop 11)

/-- `parse_date_interval_second_value`: the datetime and whether the input has a time. -/
def parseValue (source : Source) : Option (Datetime × Bool) :=
  match source.inputKind with
  | .string =>
    match parseDate source.value with
    | some datetime => some (datetime, false)
    | none => (parseDatetime source.value).map fun datetime => (datetime, true)
  | .date => (parseDate source.value).map fun datetime => (datetime, false)
  | .datetime | .timestamp => (parseDatetime source.value).map fun datetime => (datetime, true)

def checkedAdd (left right : Int) : Except Stop Int := do
  let overflows ← (
    if right > 0 then do
      let room ← int64 (int64Max - right)
      pure (decide (left > room))
    else if right < 0 then do
      let room ← int64 (int64Min - right)
      pure (decide (left < room))
    else pure false)
  if overflows then throw .refused else int64 (left + right)

/-- The factor is a positive constant in every call. -/
def checkedMultiply (left right : Int) : Except Stop Int :=
  if left ≠ 0 ∧ (left > int64Max.tdiv right ∨ left < int64Min.tdiv right) then throw .refused
  else int64 (left * right)

def daysFromDatetime (date : Date) : Except Stop Int := do
  let year ← int64 (date.year - if date.month ≤ 2 then 1 else 0)
  let reached ← (if year ≥ 0 then pure year else int64 (year - 399))
  let era := reached.tdiv 400
  let eraYears ← int64 (era * 400)
  let yearOfEra ← uint32 (← int64 (year - eraYears))
  let shifted ← (if date.month > 2 then int32 (date.month - 3) else int32 (date.month + 9))
  let monthPrime ← uint32 shifted
  let scaled ← uint32 (153 * monthPrime)
  let biased ← uint32 (scaled + 2)
  let counted ← uint32 (biased / 5 + (← uint32 date.day))
  let dayOfYear ← uint32 (counted - 1)
  let yearDays ← uint32 (yearOfEra * 365)
  let withQuads ← uint32 (yearDays + yearOfEra / 4)
  let withCenturies ← uint32 (withQuads - yearOfEra / 100)
  let dayOfEra ← uint32 (withCenturies + dayOfYear)
  let eraDays ← int64 (era * 146097)
  int64 ((← int64 (eraDays + dayOfEra)) - 719468)

def datetimeFromDays (days : Int) : Except Stop Date := do
  let days ← int64 (days + 719468)
  let reached ← (if days ≥ 0 then pure days else int64 (days - 146096))
  let era := reached.tdiv 146097
  let eraDays ← int64 (era * 146097)
  let dayOfEra ← uint32 (← int64 (days - eraDays))
  let withoutQuads ← uint32 (dayOfEra - dayOfEra / 1460)
  let withCenturies ← uint32 (withoutQuads + dayOfEra / 36524)
  let withoutEra ← uint32 (withCenturies - dayOfEra / 146096)
  let yearOfEra := withoutEra / 365
  let eraYears ← int64 (era * 400)
  let year ← int64 (yearOfEra + eraYears)
  let yearDays ← uint32 (365 * yearOfEra)
  let yearQuads ← uint32 (yearDays + yearOfEra / 4)
  let yearStart ← uint32 (yearQuads - yearOfEra / 100)
  let dayOfYear ← uint32 (dayOfEra - yearStart)
  let monthScaled ← uint32 (5 * dayOfYear)
  let monthPrime := (← uint32 (monthScaled + 2)) / 153
  let dayScaled ← uint32 (153 * monthPrime)
  let monthStart := (← uint32 (dayScaled + 2)) / 5
  let dayLeft ← uint32 (dayOfYear - monthStart)
  let day ← int32 (← uint32 (dayLeft + 1))
  let shifted ← (if monthPrime < 10 then uint32 (monthPrime + 3) else uint32 (monthPrime - 9))
  let month ← int32 shifted
  let shiftedYear ← int64 (year + if month ≤ 2 then 1 else 0)
  pure { year := shiftedYear, month := month, day := day }

/-- The days and the seconds of the day. -/
def floorDivmod (totalSeconds : Int) : Except Stop (Int × Int) :=
  let days := totalSeconds.tdiv 86400
  let daySeconds := totalSeconds.tmod 86400
  if daySeconds < 0 then do
    let raised ← int64 (daySeconds + 86400)
    let lowered ← int64 (days - 1)
    pure (lowered, raised)
  else pure (days, daySeconds)

/-- `date_interval_second_add`. -/
def add (input : Datetime) (intervalSeconds : Int) : Except Stop Datetime :=
  if !timeIsValid input then throw .refused
  else do
    let days ← daysFromDatetime input.date
    let hourSeconds ← int64 (input.hour * 3600)
    let minuteSeconds ← int64 (input.minute * 60)
    let withMinutes ← int64 (hourSeconds + minuteSeconds)
    let daySeconds ← int64 (withMinutes + input.second)
    let wholeDays ← int64 (days * 86400)
    let baseSeconds ← int64 (wholeDays + daySeconds)
    let resultSeconds ← checkedAdd baseSeconds intervalSeconds
    let result ← floorDivmod resultSeconds
    let date ← datetimeFromDays result.1
    if date.year < 1000 || date.year > 9999 then throw .refused
    else do
      let hour ← int32 (result.2 / 3600)
      let minute ← int32 (result.2 % 3600 / 60)
      let second ← int32 (result.2 % 3600 % 60)
      pure { date := date, hour := hour, minute := minute, second := second }

/-- `date_interval_add_calendar_months`. -/
def addCalendarMonths (input : Datetime) (intervalMonths : Int) : Except Stop Datetime :=
  if !timeIsValid input then throw .refused
  else do
    let base ← checkedMultiply input.date.year 12
    let monthsBefore ← int64 (input.date.month - 1)
    let baseMonths ← checkedAdd base monthsBefore
    let resultMonths ← checkedAdd baseMonths intervalMonths
    let index := resultMonths.tmod 12
    let monthIndex ← (if index < 0 then int64 (index + 12) else pure index)
    let year ← (if index < 0 then int64 (resultMonths.tdiv 12 - 1) else pure (resultMonths.tdiv 12))
    if year < 1000 || year > 9999 then throw .refused
    else do
      let month ← int32 ((← int32 monthIndex) + 1)
      let daysInTargetMonth := DateIntervalSecond.daysInMonth (← int32 year) month
      let day := if input.date.day > daysInTargetMonth then daysInTargetMonth else input.date.day
      let date : Date := { year := year, month := month, day := day }
      if dateIsValid date then pure { input with date := date } else throw .refused

/-- `date_interval_unit_add`. -/
def unitAdd (input : Datetime) (intervalValue : Int) :
    DateIntervalSecond.Unit → Except Stop Datetime
  | .second => add input intervalValue
  | .minute => do add input (← checkedMultiply intervalValue 60)
  | .hour => do add input (← checkedMultiply intervalValue 3600)
  | .day => do add input (← checkedMultiply intervalValue 86400)
  | .week => do add input (← checkedMultiply intervalValue 604800)
  | .month => addCalendarMonths input intervalValue
  | .quarter => do addCalendarMonths input (← checkedMultiply intervalValue 3)
  | .year => do addCalendarMonths input (← checkedMultiply intervalValue 12)
  | .microsecond => throw .refused

/-- `mylite_date_interval_unit_has_time_part`. -/
def unitHasTimePart : DateIntervalSecond.Unit → Bool
  | .second | .minute | .hour | .microsecond => true
  | .day | .week | .month | .quarter | .year => false

/-- What an evaluation leaves: a text, NULL with a warning or without, an error that fails
the statement, or a text that did not fit its format, which is a warning. -/
inductive Evaluated where
  | text (value : List UInt8)
  | null (warning : Option Diagnostic)
  | error (diagnostic : Diagnostic)
  | unformatted (warning : Diagnostic)
  deriving DecidableEq, Repr

def defaultOverflowMessage : List UInt8 := bytes "Datetime function: datetime field overflow"

def overflowWarning (message : Option (List UInt8)) : Diagnostic :=
  { code := 1441, sqlState := "HY000", message := message.getD defaultOverflowMessage }

def overflowError (message : Option (List UInt8)) : Diagnostic :=
  { code := 1441, sqlState := "22008", message := message.getD defaultOverflowMessage }

/-- `format_date_interval_second_result`. -/
def formatResult (datetime : Datetime) (resultHasTime : Bool) : Evaluated :=
  let text := if resultHasTime then datetimeText datetime else dateText datetime.date
  if (resultHasTime ∧ text.length ≠ 19) ∨ (¬ resultHasTime ∧ text.length ≠ 10) then
    .unformatted (overflowWarning (some defaultOverflowMessage))
  else .text text

/-- `date_interval_second_result`, the evaluation of a SELECT. The interval is NULL where
there is none. -/
def dateIntervalSecondResult (source : Source) (interval : Option Int)
    (unit : DateIntervalSecond.Unit) (subtract : Bool)
    (overflowMessage : Option (List UInt8)) : Except Stop Evaluated :=
  match interval with
  | none => .ok (.null none)
  | some intervalValue =>
    if source.isNull then .ok (.null none)
    else
      match parseValue source with
      | none => .ok (.null (some (incorrectDatetime source.value)))
      | some (input, inputHasTime) =>
        if subtract ∧ intervalValue = int64Min then
          .ok (.null (some (overflowWarning overflowMessage)))
        else do
          let signed ← (if subtract then int64 (-intervalValue) else pure intervalValue)
          match unitAdd input signed unit with
          | .error .refused => .ok (.null (some (overflowWarning overflowMessage)))
          | .error .wraps => .error .wraps
          | .ok output => .ok (formatResult output (inputHasTime || unitHasTimePart unit))

/-- `date_interval_update_result`, the evaluation of an UPDATE. -/
def dateIntervalUpdateResult (source : Source) (interval : Option Int)
    (unit : DateIntervalSecond.Unit) (subtract : Bool) : Except Stop Evaluated :=
  match interval with
  | none => .ok (.null none)
  | some intervalValue =>
    if source.isNull then .ok (.null none)
    else
      match parseValue source with
      | none => .ok (.error (incorrectDatetime source.value))
      | some (input, inputHasTime) =>
        if subtract ∧ intervalValue = int64Min then
          .ok (.error (overflowError (some defaultOverflowMessage)))
        else do
          let signed ← (if subtract then int64 (-intervalValue) else pure intervalValue)
          match unitAdd input signed unit with
          | .error .refused => .ok (.error (overflowError (some defaultOverflowMessage)))
          | .error .wraps => .error .wraps
          | .ok output => .ok (formatResult output (inputHasTime || unitHasTimePart unit))

end MyLite.Temporal.DateInterval
