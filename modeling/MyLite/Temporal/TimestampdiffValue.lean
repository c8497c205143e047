import MyLite.Temporal.DateIntervalResult

/-! TIMESTAMPDIFF from the texts of two values to their difference. -/

namespace MyLite.Temporal.Timestampdiff

open Gregorian (Date Valid)
open DateInterval (Reads Timed inputText)
open DateIntervalSecond (Accepted)

/-- `enum timestampdiff_parse_status`, with the datetime of a valid text. -/
inductive ParseStatus where
  | valid (datetime : Datetime)
  | null
  | invalid
  | zeroDate
  deriving DecidableEq, Repr

def timeIsValid : Datetime → Bool := DateIntervalSecond.timeIsValid

def dateIsFullZero (date : Date) : Bool := date.year = 0 && date.month = 0 && date.day = 0

def dateIsPartialZero (date : Date) : Bool :=
  if dateIsFullZero date then false else date.month = 0 || date.day = 0

def parseDateText (value : List UInt8) : ParseStatus :=
  match dateFields value with
  | none => .invalid
  | some date =>
    if dateIsFullZero date || dateIsPartialZero date then .zeroDate
    else if dateIsValid date then .valid (.midnight date)
    else .invalid

def parseTimeText (date : Date) (value : List UInt8) : Option Datetime :=
  (timeFields date value).bind fun datetime => if timeIsValid datetime then some datetime else none

def parseDatetimeText (value : List UInt8) : ParseStatus :=
  if value.length ≠ 19 ∨ value[10]? ≠ some blank then .invalid
  else
    match parseDateText (value.take 10) with
    | .valid day =>
      match parseTimeText day.date (value.drop 11) with
      | some datetime => .valid datetime
      | none => .invalid
    | status => status

def parseStringTimestampdiffValue (value : List UInt8) : ParseStatus :=
  match parseDateText value with
  | .invalid => parseDatetimeText value
  | status => status

def parseTimestampdiffValue (source : Source) : ParseStatus :=
  if source.isNull then .null
  else
    match source.inputKind with
    | .string => parseStringTimestampdiffValue source.value
    | .date => parseDateText source.value
    | .datetime | .timestamp => parseDatetimeText source.value

/-- `parse_timestampdiff_argument`: the datetime, or NULL with the warning there is. -/
def parseTimestampdiffArgument (source : Source) : Except (Option Diagnostic) Datetime :=
  match parseTimestampdiffValue source with
  | .valid datetime => .ok datetime
  | .null => .error none
  | .zeroDate =>
    if source.inputKind ≠ .string then .error none
    else .error (some (incorrectDatetime source.value))
  | .invalid => .error (some (incorrectDatetime source.value))

/-- The number that is written with `%lld`, NULL or an error. -/
inductive Difference where
  | number (value : Int)
  | null (warning : Option Diagnostic)
  | error (diagnostic : Diagnostic)
  deriving DecidableEq, Repr

def unsupportedMicrosecond : Diagnostic where
  code := 1
  sqlState := "HY000"
  message := bytes "TIMESTAMPDIFF() does not yet support MICROSECOND"

/-- `timestampdiff_value_result`. -/
def valueResult (unit : Timestampdiff.Unit) (left right : Source) : Difference :=
  if unit = .microsecond then .error unsupportedMicrosecond
  else
    match parseTimestampdiffArgument left with
    | .error warning => .null warning
    | .ok leftDatetime =>
      match parseTimestampdiffArgument right with
      | .error warning => .null warning
      | .ok rightDatetime => .number (timestampdiffResult unit leftDatetime rightDatetime)

variable {datetime : Datetime} {date : Date} {hasTime : Bool} {inputKind : InputKind}

theorem parseDateText_text (range : InRange date) :
    parseDateText (dateText date) = .valid (.midnight date) := by
  have rule : isLeapYear date.year = true ↔ Gregorian.IsLeap date.year :=
    leapRule_except_zero range.positive
  have valid := (dateIsValidBy_iff rule).mpr range.valid
  have monthPos := range.valid.monthPos
  have dayPos := range.valid.dayPos
  have notFull : dateIsFullZero date = false := by
    simp only [dateIsFullZero, Bool.and_eq_false_iff, decide_eq_false_iff_not]
    omega
  have notPartial : dateIsPartialZero date = false := by
    simp only [dateIsPartialZero, notFull, Bool.false_eq_true, if_false, Bool.or_eq_false_iff,
      decide_eq_false_iff_not]
    omega
  simp only [parseDateText, dateFields_dateText range.fits, notFull, notPartial]
  exact if_pos valid

theorem parseTimeText_text (time : ValidTime datetime) :
    parseTimeText datetime.date (timeText datetime) = some datetime := by
  rw [parseTimeText, timeFields_timeText time.fits, Option.bind_some]
  exact if_pos ((timeIsValid_iff datetime).mpr time)

theorem parseDatetimeText_text (accepted : Accepted datetime) :
    parseDatetimeText (datetimeText datetime) = .valid datetime := by
  obtain ⟨range, time⟩ := accepted
  have length := datetimeText_length range.fits time.fits
  obtain ⟨separated, first, last⟩ := datetimeText_parts range.fits
  have shape : ¬ ((datetimeText datetime).length ≠ 19 ∨
      (datetimeText datetime)[10]? ≠ some blank) := by
    rintro (long | unseparated)
    · exact long length
    · exact unseparated separated
  have timed : parseTimeText (Datetime.midnight datetime.date).date (timeText datetime) =
      some datetime := parseTimeText_text time
  rw [parseDatetimeText, if_neg shape, first, last, parseDateText_text range]
  simp only [timed]

theorem parseDateText_datetimeText (accepted : Accepted datetime) :
    parseDateText (datetimeText datetime) = .invalid := by
  have length := datetimeText_length accepted.range.fits accepted.time.fits
  have noDate : dateFields (datetimeText datetime) = none := by
    rw [dateFields, if_pos (by rw [length]; exact Or.inl (by decide))]
  simp only [parseDateText, noDate]

/-- The functions read the texts of DATE_ADD. -/
theorem parseTimestampdiffValue_text (accepted : Accepted datetime)
    (timed : Timed datetime hasTime) (reads : Reads inputKind hasTime) :
    parseTimestampdiffValue ⟨inputText datetime hasTime, inputKind, false⟩ = .valid datetime := by
  cases hasTime with
  | false =>
    have midnight := timed rfl
    have dateRead : parseDateText (inputText datetime false) = .valid datetime := by
      rw [show inputText datetime false = dateText datetime.date from rfl,
        parseDateText_text accepted.range, ← midnight]
    rcases reads with rfl | rfl
    · simp only [parseTimestampdiffValue, parseStringTimestampdiffValue, dateRead,
        Bool.false_eq_true, if_false]
    · simp only [parseTimestampdiffValue, dateRead, Bool.false_eq_true, if_false]
  | true =>
    have datetimeRead : parseDatetimeText (inputText datetime true) = .valid datetime :=
      parseDatetimeText_text accepted
    have noDate : parseDateText (inputText datetime true) = .invalid :=
      parseDateText_datetimeText accepted
    rcases reads with rfl | rfl | rfl
    · simp only [parseTimestampdiffValue, parseStringTimestampdiffValue, noDate, datetimeRead,
        Bool.false_eq_true, if_false]
    · simp only [parseTimestampdiffValue, datetimeRead, Bool.false_eq_true, if_false]
    · simp only [parseTimestampdiffValue, datetimeRead, Bool.false_eq_true, if_false]

end MyLite.Temporal.Timestampdiff
