import MyLite.Library.Checked
import MyLite.Temporal.DatetimeText

/-! UNIX_TIMESTAMP from a text to seconds and FROM_UNIXTIME back. Every operation on `int`,
`unsigned int`, `int64_t` and `uint64_t` is checked, and stops where it would overflow, wrap
or lose bits; `UnixTimestamp` has the day counts over the integers. -/

namespace MyLite.Temporal.UnixTime

open Checked (Stop int32 int64 uint32 uint64)
open Gregorian (Date)

/-- `enum unix_timestamp_parse_status`, with the datetime of a valid text. -/
inductive ParseStatus where
  | valid (datetime : Datetime)
  | fullZeroDate
  | partialZeroDate
  | fractional
  | invalid
  deriving DecidableEq, Repr

def timeIsValid : Datetime → Bool := DateIntervalSecond.timeIsValid

def dateIsFullZero (date : Date) : Bool := date.year = 0 && date.month = 0 && date.day = 0

def dateIsPartialZero (date : Date) : Bool :=
  if dateIsFullZero date then false else date.year = 0 || date.month = 0 || date.day = 0

def parseDateText (value : List UInt8) : ParseStatus :=
  match dateFields value with
  | none => .invalid
  | some date =>
    if dateIsFullZero date then .fullZeroDate
    else if dateIsPartialZero date then .partialZeroDate
    else if UnixTimestamp.dateIsValid date then .valid (.midnight date)
    else .invalid

def parseTimeText (date : Date) (value : List UInt8) : Option Datetime :=
  (timeFields date value).bind fun datetime => if timeIsValid datetime then some datetime else none

def parseDatetimeText (value : List UInt8) : ParseStatus :=
  if value.length ≠ 19 ∨ value[10]? ≠ some blank then .invalid
  else
    match parseDateText (value.take 10) with
    | .valid day =>
      match parseTimeText day.date (value.drop 11) with
      | some datetime => .valid datetime
      | none => .invalid
    | status => status

/-- A point and digits after the text of a datetime. -/
def datetimeTextHasFractionalSuffix (value : List UInt8) : Bool :=
  if value.length ≤ 19 ∨ value[19]? ≠ some 46 then false
  else if (value.drop 20).any (fun byte => byte < 48 || byte > 57) then false
  else value.length > 20

def parseStringUnixTimestampValue (value : List UInt8) : ParseStatus :=
  if datetimeTextHasFractionalSuffix value then .fractional
  else
    match parseDatetimeText value with
    | .invalid => parseDateText value
    | status => status

def parseUnixTimestampValue (value : List UInt8) : InputKind → ParseStatus
  | .string => parseStringUnixTimestampValue value
  | .date => parseDateText value
  | .datetime | .timestamp => parseDatetimeText value

def daysFromCivil (date : Date) : Except Stop Int := do
  let adjustedYear ← int32 (date.year - if date.month ≤ 2 then 1 else 0)
  let reached ← (if adjustedYear ≥ 0 then pure adjustedYear else int32 (adjustedYear - (400 - 1)))
  let era := reached.tdiv 400
  let eraYears ← int32 (era * 400)
  let yearOfEra ← uint32 (← int32 (adjustedYear - eraYears))
  let monthTerm ← uint32 (← int32 (date.month + if date.month > 2 then -3 else 9))
  let scaled ← uint32 (153 * monthTerm)
  let biased ← uint32 (scaled + 2)
  let counted ← uint32 (biased / 5 + (← uint32 date.day))
  let dayOfYear ← uint32 (counted - 1)
  let yearDays ← uint32 (yearOfEra * 365)
  let withQuads ← uint32 (yearDays + yearOfEra / 4)
  let withCenturies ← uint32 (withQuads - yearOfEra / 100)
  let dayOfEra ← uint32 (withCenturies + dayOfYear)
  let eraDays ← int64 (era * 146097)
  int64 ((← int64 (eraDays + dayOfEra)) - 719468)

def floorDivideI64 (numerator denominator : Int) : Except Stop Int :=
  let quotient := numerator.tdiv denominator
  let remainder := numerator.tmod denominator
  if remainder ≠ 0 ∧ (decide (remainder < 0) ≠ decide (denominator < 0)) then int64 (quotient - 1)
  else pure quotient

def civilFromDays (days : Int) : Except Stop Date := do
  let shiftedDays ← int64 (days + 719468)
  let era ← floorDivideI64 shiftedDays 146097
  let eraDays ← int64 (era * 146097)
  let dayOfEra ← uint64 (← int64 (shiftedDays - eraDays))
  let withoutQuads ← uint64 (dayOfEra - dayOfEra / 1460)
  let withCenturies ← uint64 (withoutQuads + dayOfEra / 36524)
  let withoutEra ← uint64 (withCenturies - dayOfEra / 146096)
  let yearOfEra := withoutEra / 365
  let eraYears ← int64 (era * 400)
  let year ← int64 (eraYears + yearOfEra)
  let yearDays ← uint64 (yearOfEra * 365)
  let yearQuads ← uint64 (yearDays + yearOfEra / 4)
  let yearStart ← uint64 (yearQuads - yearOfEra / 100)
  let dayOfYear ← uint64 (dayOfEra - yearStart)
  let monthScaled ← uint64 (5 * dayOfYear)
  let monthPart := (← uint64 (monthScaled + 2)) / 153
  let dayScaled ← uint64 (153 * monthPart)
  let monthStart := (← uint64 (dayScaled + 2)) / 5
  let dayLeft ← uint64 (dayOfYear - monthStart)
  let day ← int32 (← uint64 (dayLeft + 1))
  let month ← int32 ((← int32 monthPart) + if monthPart < 10 then 3 else -9)
  let shiftedYear ← int64 (year + if month ≤ 2 then 1 else 0)
  pure { year := (← int32 shiftedYear), month := month, day := day }

def epochFromDatetime (datetime : Datetime) (offsetMinutes : Int) : Except Stop Int := do
  let days ← daysFromCivil datetime.date
  let hours ← int64 (days * 24)
  let minutes ← int64 (hours * 60)
  let seconds ← int64 (minutes * 60)
  let hourMinutes ← int64 (datetime.hour * 60)
  let withHours ← int64 (seconds + (← int64 (hourMinutes * 60)))
  let withMinutes ← int64 (withHours + (← int64 (datetime.minute * 60)))
  let withSeconds ← int64 (withMinutes + datetime.second)
  int64 (withSeconds - (← int64 (offsetMinutes * 60)))

def datetimeFromEpoch (epoch offsetMinutes : Int) : Except Stop Datetime := do
  let localEpoch ← int64 (epoch + (← int64 (offsetMinutes * 60)))
  let days ← floorDivideI64 localEpoch 86400
  let wholeDays ← int64 (days * 86400)
  let secondsOfDay ← int64 (localEpoch - wholeDays)
  let date ← civilFromDays days
  let hour ← int32 (secondsOfDay / 3600)
  let minute ← int32 (secondsOfDay % 3600 / 60)
  let second ← int32 (secondsOfDay % 3600 % 60)
  pure { date := date, hour := hour, minute := minute, second := second }

/-- A text with the warning there is, NULL or an error. -/
inductive Result where
  | text (value : List UInt8) (warning : Option Diagnostic)
  | null
  | error (diagnostic : Diagnostic)
  deriving DecidableEq, Repr

def unsupportedError (message : String) : Diagnostic :=
  { code := 1064, sqlState := "42000", message := bytes message }

def unixTimestampMaximum : Int := 32536771199

def formatUnixTimestampEpoch (epoch : Int) : Result :=
  .text (FixedDigits.decimal (if epoch < 1 ∨ epoch > unixTimestampMaximum then 0 else epoch)) none

def formatFromUnixtimeDatetime (datetime : Datetime) : Result :=
  if datetime.date.year < 0 ∨ datetime.date.year > 9999 then
    .error (unsupportedError "failed to format FROM_UNIXTIME() value")
  else .text (datetimeText datetime) none

/-- `unix_timestamp_value_result` in a session with the given offset. -/
def unixTimestampValueResult (value : List UInt8) (inputKind : InputKind)
    (sessionOffsetMinutes : Int) : Except Stop Result :=
  match parseUnixTimestampValue value inputKind with
  | .fractional =>
    .ok (.error (unsupportedError "UNIX_TIMESTAMP() does not yet support fractional seconds"))
  | .fullZeroDate => .ok (.text (bytes "0") (some (incorrectDatetime value)))
  | .partialZeroDate => .ok (.text (bytes "0") none)
  | .invalid => .ok (.text (bytes "0.000000") (some (incorrectDatetime value)))
  | .valid datetime => do
    let offsetMinutes := if inputKind = .timestamp then 0 else sessionOffsetMinutes
    let epoch ← epochFromDatetime datetime offsetMinutes
    pure (formatUnixTimestampEpoch epoch)

/-- `mylite_from_unixtime_value` in a session with the given offset. -/
def fromUnixtimeValue (seconds sessionOffsetMinutes : Int) (isNull : Bool) : Except Stop Result :=
  if isNull ∨ seconds < 0 ∨ seconds > unixTimestampMaximum then .ok .null
  else do
    let datetime ← datetimeFromEpoch seconds sessionOffsetMinutes
    pure (formatFromUnixtimeDatetime datetime)

end MyLite.Temporal.UnixTime
