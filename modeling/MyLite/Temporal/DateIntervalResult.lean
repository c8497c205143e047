import MyLite.Temporal.DateIntervalMachine

/-! The evaluations of DATE_ADD and DATE_SUB from text to text: both give the calendar's
result, and differ in what they do where there is none. -/

namespace MyLite.Temporal.DateInterval

open Checked (Stop accept int64 ok_bind)
open DateIntervalSecond (Accepted FitsInt64 exactResult scale yearInRange isCalendarUnit
  dateIsValid int64Max int64Min fitsInt64_iff)
open Gregorian (Date)

/-- The text of a datetime, with its time or without. -/
def inputText (datetime : Datetime) (hasTime : Bool) : List UInt8 :=
  if hasTime then datetimeText datetime else dateText datetime.date

/-- A value without a time stands for its midnight. -/
def Timed (datetime : Datetime) (hasTime : Bool) : Prop :=
  hasTime = false → datetime = .midnight datetime.date

/-- The kinds of input that read a text with a time, or one without. -/
def Reads (inputKind : InputKind) (hasTime : Bool) : Prop :=
  inputKind = .string ∨ (if hasTime then inputKind = .datetime ∨ inputKind = .timestamp
    else inputKind = .date)

/-- The text of the calendar's result, or the outcome where that is out of range or the scaled
interval is no `int64_t`. -/
def exactEvaluation (refused : Evaluated) (input : Datetime) (hasTime : Bool) (signed : Int)
    (unit : DateIntervalSecond.Unit) : Evaluated :=
  if FitsInt64 (signed * scale unit) ∧ yearInRange (exactResult input signed unit).date then
    .text (inputText (exactResult input signed unit) (hasTime || unitHasTimePart unit))
  else refused

def signedInterval (subtract : Bool) (interval : Int) : Int :=
  if subtract then -interval else interval

variable {datetime input : Datetime} {hasTime subtract : Bool} {source : Source}
  {value text : List UInt8} {interval : Int} {unit : DateIntervalSecond.Unit}

theorem parseDate_text (range : InRange datetime.date) :
    parseDate (dateText datetime.date) = some (.midnight datetime.date) := by
  have valid := (dateIntervalSecond_dateIsValid_iff datetime.date).mpr
    ⟨range.valid, range.yearLow, range.yearHigh⟩
  rw [parseDate, dateFields_dateText range.fits, Option.bind_some, if_pos valid]

theorem parseDate_some (read : parseDate value = some datetime) :
    InRange datetime.date ∧ datetime = .midnight datetime.date ∧
      dateText datetime.date = value := by
  obtain ⟨date, fields, read⟩ := Option.bind_eq_some_iff.mp read
  split at read
  · rename_i valid
    obtain ⟨inCalendar, yearLow, yearHigh⟩ := (dateIntervalSecond_dateIsValid_iff date).mp valid
    have same := Option.some.inj read
    subst same
    exact ⟨⟨inCalendar, yearLow, yearHigh⟩, rfl, (dateFields_some fields).1⟩
  · cases read

theorem parseTime_text (time : ValidTime datetime) :
    parseTime datetime.date (timeText datetime) = some datetime := by
  rw [parseTime, timeFields_timeText time.fits, Option.bind_some, if_neg]
  obtain ⟨hourLow, hourHigh, minuteLow, minuteHigh, secondLow, secondHigh⟩ := time
  omega

theorem parseTime_some {date : Date} (read : parseTime date value = some datetime) :
    ValidTime datetime ∧ datetime.date = date ∧ timeText datetime = value := by
  obtain ⟨fields, split, read⟩ := Option.bind_eq_some_iff.mp read
  obtain ⟨text, _, onDate⟩ := timeFields_some split
  split at read
  · cases read
  · have same := Option.some.inj read
    subst same
    refine ⟨?_, onDate, text⟩
    constructor <;> omega

theorem parseDatetime_text (accepted : Accepted datetime) :
    parseDatetime (datetimeText datetime) = some datetime := by
  obtain ⟨range, time⟩ := accepted
  have length := datetimeText_length range.fits time.fits
  obtain ⟨separated, first, last⟩ := datetimeText_parts range.fits
  have shape : ¬ ((datetimeText datetime).length ≠ 19 ∨
      (datetimeText datetime)[10]? ≠ some blank) := by
    rintro (long | unseparated)
    · exact long length
    · exact unseparated separated
  rw [parseDatetime, if_neg shape, first, last, parseDate_text range, Option.bind_some]
  exact parseTime_text time

theorem parseDatetime_some (read : parseDatetime value = some datetime) :
    Accepted datetime ∧ datetimeText datetime = value := by
  rw [parseDatetime] at read
  split at read
  · cases read
  · rename_i shape
    simp only [not_or, Decidable.not_not] at shape
    obtain ⟨day, dateRead, timeRead⟩ := Option.bind_eq_some_iff.mp read
    obtain ⟨range, _, first⟩ := parseDate_some dateRead
    obtain ⟨time, onDate, last⟩ := parseTime_some timeRead
    rw [← onDate] at range first
    exact ⟨⟨range, time⟩, datetimeText_of_parts first shape.2 last⟩

theorem midnight_time (date : Date) : ValidTime (.midnight date) := by
  constructor <;> simp [Datetime.midnight]

theorem parseDate_datetimeText (accepted : Accepted datetime) :
    parseDate (datetimeText datetime) = none := by
  have length := datetimeText_length accepted.range.fits accepted.time.fits
  rw [parseDate, dateFields, if_pos (by rw [length]; exact Or.inl (by decide))]
  rfl

/-- What a source stands for is a datetime that has the source's text. -/
theorem parseValue_some (read : parseValue source = some (datetime, hasTime)) :
    Accepted datetime ∧ Timed datetime hasTime ∧ source.value = inputText datetime hasTime := by
  have ofDate : parseDate source.value = some datetime → hasTime = false →
      Accepted datetime ∧ Timed datetime hasTime ∧
        source.value = inputText datetime hasTime := by
    intro dateRead none
    obtain ⟨range, midnight, text⟩ := parseDate_some dateRead
    subst none
    refine ⟨⟨range, ?_⟩, fun _ => midnight, text.symm⟩
    rw [midnight]
    exact midnight_time _
  have ofDatetime : parseDatetime source.value = some datetime → hasTime = true →
      Accepted datetime ∧ Timed datetime hasTime ∧
        source.value = inputText datetime hasTime := by
    intro datetimeRead timed
    obtain ⟨accepted, text⟩ := parseDatetime_some datetimeRead
    subst timed
    refine ⟨accepted, ?_, text.symm⟩
    intro absent
    cases absent
  have mapped : ∀ {first : Option Datetime} {flag : Bool},
      (first.map fun found => (found, flag)) = some (datetime, hasTime) →
        first = some datetime ∧ hasTime = flag := by
    intro first flag same
    obtain ⟨found, present, pair⟩ := Option.map_eq_some_iff.mp same
    obtain ⟨rfl, rfl⟩ := Prod.mk.inj pair
    exact ⟨present, rfl⟩
  rw [parseValue] at read
  split at read
  · split at read
    · rename_i found dateRead
      obtain ⟨rfl, flag⟩ := Prod.mk.inj (Option.some.inj read)
      exact ofDate dateRead flag.symm
    · obtain ⟨present, flag⟩ := mapped read
      exact ofDatetime present flag
  · obtain ⟨present, flag⟩ := mapped read
    exact ofDate present flag
  · obtain ⟨present, flag⟩ := mapped read
    exact ofDatetime present flag
  · obtain ⟨present, flag⟩ := mapped read
    exact ofDatetime present flag

theorem parseValue_reads (read : parseValue source = some (datetime, hasTime)) :
    Reads source.inputKind hasTime := by
  rw [parseValue] at read
  split at read
  · rename_i kind
    exact Or.inl kind
  · rename_i kind
    obtain ⟨found, _, pair⟩ := Option.map_eq_some_iff.mp read
    rw [← (Prod.mk.inj pair).2]
    exact Or.inr kind
  · rename_i kind
    obtain ⟨found, _, pair⟩ := Option.map_eq_some_iff.mp read
    rw [← (Prod.mk.inj pair).2]
    exact Or.inr (Or.inl kind)
  · rename_i kind
    obtain ⟨found, _, pair⟩ := Option.map_eq_some_iff.mp read
    rw [← (Prod.mk.inj pair).2]
    exact Or.inr (Or.inr kind)

/-- Every accepted datetime has a text, and every kind that reads that text reads it. -/
theorem parseValue_text {inputKind : InputKind} (accepted : Accepted datetime)
    (timed : Timed datetime hasTime) (reads : Reads inputKind hasTime) (isNull : Bool) :
    parseValue ⟨inputText datetime hasTime, inputKind, isNull⟩ = some (datetime, hasTime) := by
  cases hasTime with
  | false =>
    have midnight := timed rfl
    have dateRead : parseDate (inputText datetime false) = some datetime := by
      rw [show inputText datetime false = dateText datetime.date from rfl,
        parseDate_text accepted.range, ← midnight]
    rcases reads with rfl | rfl
    · simp only [parseValue, dateRead]
    · simp only [parseValue, dateRead, Option.map_some]
  | true =>
    have datetimeRead : parseDatetime (inputText datetime true) = some datetime :=
      parseDatetime_text accepted
    have noDate : parseDate (inputText datetime true) = none := parseDate_datetimeText accepted
    rcases reads with rfl | rfl | rfl
    · simp only [parseValue, noDate, datetimeRead, Option.map_some]
    · simp only [parseValue, datetimeRead, Option.map_some]
    · simp only [parseValue, datetimeRead, Option.map_some]

theorem formatResult_eq (accepted : Accepted datetime) (resultHasTime : Bool) :
    formatResult datetime resultHasTime = .text (inputText datetime resultHasTime) := by
  have short := dateText_length accepted.range.fits
  have long := datetimeText_length accepted.range.fits accepted.time.fits
  rw [formatResult, if_neg]
  · rfl
  · cases resultHasTime with
    | false => simp [short]
    | true => simp [long]

/-- The outcome of an addition that the code did not refuse, or the outcome where it did. -/
def outcome (refused : Evaluated) (inputHasTime : Bool) (unit : DateIntervalSecond.Unit) :
    Except Stop Datetime → Except Stop Evaluated
  | .error .refused => .ok refused
  | .error .wraps => .error .wraps
  | .ok output => .ok (formatResult output (inputHasTime || unitHasTimePart unit))

theorem outcome_unitAdd (accepted : Accepted input) (fits : FitsInt64 interval)
    (supported : unit ≠ .microsecond) (refused : Evaluated) (hasTime : Bool) :
    outcome refused hasTime unit (unitAdd input interval unit) =
      .ok (exactEvaluation refused input hasTime interval unit) := by
  have landed : DateIntervalSecond.unitAdd input interval unit =
      some (exactResult input interval unit) → Accepted (exactResult input interval unit) :=
    DateIntervalSecond.unitAdd_accepted accepted fits supported
  rw [unitAdd_eq accepted fits]
  rw [DateIntervalSecond.unitAdd_exact accepted fits supported] at landed ⊢
  rw [exactEvaluation]
  split
  · rename_i reached
    rw [if_pos reached] at landed
    rw [accept, outcome, formatResult_eq (landed rfl)]
  · rfl

theorem scale_pos (supported : unit ≠ .microsecond) : 1 ≤ scale unit := by
  cases unit with
  | microsecond => exact absurd rfl supported
  | _ => decide

/-- The negation of INT64_MIN fits nowhere. -/
theorem exactEvaluation_min (supported : unit ≠ .microsecond) (refused : Evaluated)
    (input : Datetime) (hasTime : Bool) :
    exactEvaluation refused input hasTime (-int64Min) unit = refused := by
  have positive := scale_pos supported
  rw [exactEvaluation, if_neg]
  rintro ⟨fits, _⟩
  rw [fitsInt64_iff, show -int64Min = 9223372036854775808 from rfl] at fits
  omega

theorem signed_fits (fits : FitsInt64 interval)
    (usual : ¬ (subtract = true ∧ interval = int64Min)) :
    (if subtract then int64 (-interval) else pure interval : Except Stop Int) =
        .ok (signedInterval subtract interval) ∧
      FitsInt64 (signedInterval subtract interval) := by
  cases subtract with
  | false => exact ⟨rfl, fits⟩
  | true =>
    have other : interval ≠ int64Min := fun same => usual ⟨rfl, same⟩
    have negated : FitsInt64 (-interval) := by
      rw [fitsInt64_iff] at fits ⊢
      rw [show int64Min = -9223372036854775808 from rfl] at other
      omega
    exact ⟨Checked.int64_eq negated.1 negated.2, negated⟩

theorem select_exact (present : source.isNull = false)
    (read : parseValue source = some (input, hasTime)) (fits : FitsInt64 interval)
    (supported : unit ≠ .microsecond) (subtract : Bool) (message : Option (List UInt8)) :
    dateIntervalSecondResult source (some interval) unit subtract message =
      .ok (exactEvaluation (.null (some (overflowWarning message))) input hasTime
        (signedInterval subtract interval) unit) := by
  obtain ⟨accepted, _, _⟩ := parseValue_some read
  rw [dateIntervalSecondResult, present]
  simp only [Bool.false_eq_true, if_false, read]
  split
  · rename_i lowest
    obtain ⟨subtracted, rfl⟩ := lowest
    rw [subtracted, signedInterval, if_pos rfl, exactEvaluation_min supported]
  · rename_i usual
    obtain ⟨negated, signedFits⟩ := signed_fits fits usual
    rw [negated, ok_bind, ← outcome_unitAdd accepted signedFits supported]
    rfl

theorem update_exact (present : source.isNull = false)
    (read : parseValue source = some (input, hasTime)) (fits : FitsInt64 interval)
    (supported : unit ≠ .microsecond) (subtract : Bool) :
    dateIntervalUpdateResult source (some interval) unit subtract =
      .ok (exactEvaluation (.error (overflowError (some defaultOverflowMessage))) input hasTime
        (signedInterval subtract interval) unit) := by
  obtain ⟨accepted, _, _⟩ := parseValue_some read
  rw [dateIntervalUpdateResult, present]
  simp only [Bool.false_eq_true, if_false, read]
  split
  · rename_i lowest
    obtain ⟨subtracted, rfl⟩ := lowest
    rw [subtracted, signedInterval, if_pos rfl, exactEvaluation_min supported]
  · rename_i usual
    obtain ⟨negated, signedFits⟩ := signed_fits fits usual
    rw [negated, ok_bind, ← outcome_unitAdd accepted signedFits supported]
    rfl

theorem exactResult_timed (timed : Timed input hasTime) (signed : Int)
    (supported : unit ≠ .microsecond) :
    Timed (exactResult input signed unit) (hasTime || unitHasTimePart unit) := by
  intro untimed
  obtain ⟨noTime, noPart⟩ := Bool.or_eq_false_iff.mp untimed
  have midnight := timed noTime
  have days : isCalendarUnit unit = true ∨
      isCalendarUnit unit = false ∧ ∃ count, scale unit = count * 86400 := by
    cases unit with
    | day => exact Or.inr ⟨rfl, 1, rfl⟩
    | week => exact Or.inr ⟨rfl, 7, rfl⟩
    | microsecond => exact absurd rfl supported
    | second => cases noPart
    | minute => cases noPart
    | hour => cases noPart
    | month => exact Or.inl rfl
    | quarter => exact Or.inl rfl
    | year => exact Or.inl rfl
  rcases days with calendar | ⟨linear, count, scaled⟩
  · rw [exactResult, if_pos calendar, midnight]
    rfl
  · have whole : instant input + signed * scale unit =
        (Gregorian.toDays input.date + signed * count) * 86400 := by
      rw [midnight, instant_midnight, scaled, Int.add_mul, Int.mul_assoc]
      rfl
    rw [DateIntervalSecond.exactResult_linear linear, whole, ofInstant_days]
    rfl

/-- A text that comes out stands for the calendar's result. -/
theorem exactEvaluation_text {refused : Evaluated} {signed : Int} (accepted : Accepted input)
    (timed : Timed input hasTime) (fits : FitsInt64 signed) (supported : unit ≠ .microsecond)
    (notText : ∀ text, refused ≠ .text text)
    (reached : exactEvaluation refused input hasTime signed unit = .text text) :
    text = inputText (exactResult input signed unit) (hasTime || unitHasTimePart unit) ∧
      Accepted (exactResult input signed unit) ∧
      Timed (exactResult input signed unit) (hasTime || unitHasTimePart unit) ∧
      DateIntervalSecond.unitAdd input signed unit = some (exactResult input signed unit) := by
  rw [exactEvaluation] at reached
  split at reached
  · rename_i condition
    have added := DateIntervalSecond.unitAdd_exact accepted fits supported
    rw [if_pos condition] at added
    exact ⟨(Evaluated.text.inj reached).symm,
      DateIntervalSecond.unitAdd_accepted accepted fits supported added,
      exactResult_timed timed signed supported, added⟩
  · exact absurd reached (notText text)

/-- The result of a unit of seconds is an accepted datetime, and the same interval the other
way leads back from it. -/
theorem exactEvaluation_back {refused : Evaluated} (accepted : Accepted input)
    (timed : Timed input hasTime) (fits : FitsInt64 interval) (supported : unit ≠ .microsecond)
    (linear : isCalendarUnit unit = false) (notText : ∀ text, refused ≠ .text text)
    (reached : exactEvaluation refused input hasTime (signedInterval subtract interval) unit =
      .text text) :
    ∃ output, text = inputText output (hasTime || unitHasTimePart unit) ∧ Accepted output ∧
      Timed output (hasTime || unitHasTimePart unit) ∧
      ∀ backRefused, exactEvaluation backRefused output (hasTime || unitHasTimePart unit)
        (signedInterval (!subtract) interval) unit =
          .text (inputText input (hasTime || unitHasTimePart unit)) := by
  by_cases lowest : subtract = true ∧ interval = int64Min
  · obtain ⟨rfl, rfl⟩ := lowest
    exact absurd ((exactEvaluation_min supported refused input hasTime).symm.trans reached)
      (notText text)
  · obtain ⟨_, signedFits⟩ := signed_fits fits lowest
    have opposite : signedInterval (!subtract) interval = -signedInterval subtract interval := by
      cases subtract with
      | false => rfl
      | true => exact (Int.neg_neg interval).symm
    rw [opposite]
    generalize signedInterval subtract interval = signed at *
    obtain ⟨same, landed, outputTimed, added⟩ :=
      exactEvaluation_text accepted timed signedFits supported notText reached
    obtain ⟨backFits, back⟩ :=
      DateIntervalSecond.unitAdd_neg accepted signedFits supported linear added
    refine ⟨exactResult input signed unit, same, landed, outputTimed, ?_⟩
    intro backRefused
    rw [DateIntervalSecond.unitAdd_exact landed backFits supported] at back
    split at back
    · rename_i returned
      have restored := Option.some.inj back
      rw [exactEvaluation, if_pos returned, restored, Bool.or_assoc, Bool.or_self]
    · cases back

/-- What the two evaluations of an interval give: the same text, the calendar's result, or NULL
and an error. -/
structure Evaluates (source : Source) (input : Datetime) (hasTime subtract : Bool)
    (interval : Int) (unit : DateIntervalSecond.Unit) : Prop where
  select : ∀ message, dateIntervalSecondResult source (some interval) unit subtract message =
    .ok (exactEvaluation (.null (some (overflowWarning message))) input hasTime
      (signedInterval subtract interval) unit)
  update : dateIntervalUpdateResult source (some interval) unit subtract =
    .ok (exactEvaluation (.error (overflowError (some defaultOverflowMessage))) input hasTime
      (signedInterval subtract interval) unit)

/-- DATE_ADD and DATE_SUB are exact, and no operation overflows or wraps; where the calendar's
result is out of range or the scaled interval does not fit, a SELECT gives NULL and an UPDATE
fails, each with the overflow. The units of seconds lead back to the input. -/
theorem date_interval_exact :
    (∀ datetime hasTime inputKind isNull, Accepted datetime → Timed datetime hasTime →
      Reads inputKind hasTime →
        parseValue ⟨inputText datetime hasTime, inputKind, isNull⟩ = some (datetime, hasTime)) ∧
    (∀ source input hasTime subtract interval unit, source.isNull = false →
      parseValue source = some (input, hasTime) → FitsInt64 interval → unit ≠ .microsecond →
        Evaluates source input hasTime subtract interval unit) ∧
    (∀ source input hasTime subtract interval unit message text, source.isNull = false →
      parseValue source = some (input, hasTime) → FitsInt64 interval → unit ≠ .microsecond →
      isCalendarUnit unit = false →
      dateIntervalSecondResult source (some interval) unit subtract message = .ok (.text text) →
      ∀ inputKind backMessage, Reads inputKind (hasTime || unitHasTimePart unit) →
        dateIntervalSecondResult ⟨text, inputKind, false⟩ (some interval) unit (!subtract)
            backMessage = .ok (.text (inputText input (hasTime || unitHasTimePart unit))) ∧
          dateIntervalUpdateResult ⟨text, inputKind, false⟩ (some interval) unit (!subtract) =
            .ok (.text (inputText input (hasTime || unitHasTimePart unit)))) := by
  refine ⟨?_, ?_, ?_⟩
  · intro datetime hasTime inputKind isNull accepted timed reads
    exact parseValue_text accepted timed reads isNull
  · intro source input hasTime subtract interval unit present read fits supported
    constructor
    · intro message
      exact select_exact present read fits supported subtract message
    · exact update_exact present read fits supported subtract
  · intro source input hasTime subtract interval unit message text present read fits supported
      linear evaluated inputKind backMessage reads
    obtain ⟨accepted, timed, _⟩ := parseValue_some read
    rw [select_exact present read fits supported] at evaluated
    obtain ⟨output, rfl, landed, outputTimed, back⟩ := exactEvaluation_back accepted timed fits
      supported linear (fun _ impossible => by cases impossible) (Except.ok.inj evaluated)
    have outputRead := parseValue_text landed outputTimed reads false
    constructor
    · rw [select_exact rfl outputRead fits supported]
      exact congrArg Except.ok (back _)
    · rw [update_exact rfl outputRead fits supported]
      exact congrArg Except.ok (back _)

def lastDay : Source := { value := bytes "9999-12-31", inputKind := .date, isNull := false }

/-- At the end of the calendar a SELECT gives NULL and an UPDATE fails. -/
theorem select_update_differ :
    parseValue lastDay = some (.midnight { year := 9999, month := 12, day := 31 }, false) ∧
    dateIntervalSecondResult lastDay (some 1) .day false none =
      .ok (.null (some (overflowWarning none))) ∧
    dateIntervalUpdateResult lastDay (some 1) .day false =
      .ok (.error (overflowError (some defaultOverflowMessage))) ∧
    dateIntervalSecondResult lastDay (some 1) .day false none ≠
      dateIntervalUpdateResult lastDay (some 1) .day false := by
  refine ⟨?_, ?_, ?_, ?_⟩ <;> decide +kernel

def leapDayEvening : Datetime := { date := leapDay, hour := 23, minute := 59, second := 59 }

theorem leapDayEvening_accepted : Accepted leapDayEvening := by
  refine ⟨leapDay_inRange, ?_⟩
  constructor <;> decide

def leapDaySource : Source :=
  { value := inputText leapDayEvening true, inputKind := .string, isNull := false }

theorem date_interval_exact_leapDay :
    parseValue leapDaySource = some (leapDayEvening, true) ∧
    Evaluates leapDaySource leapDayEvening true false 1 .year ∧
    dateIntervalSecondResult leapDaySource (some 1) .year false none =
      .ok (.text (bytes "2001-02-28 23:59:59")) ∧
    dateIntervalSecondResult ⟨bytes "2000-03-01 00:00:00", .string, false⟩ (some 1) .second true
      none = .ok (.text (inputText leapDayEvening true)) := by
  obtain ⟨read, evaluated, back⟩ := date_interval_exact
  have known : parseValue leapDaySource = some (leapDayEvening, true) :=
    read leapDayEvening true .string false leapDayEvening_accepted
      (fun impossible => by cases impossible) (Or.inl rfl)
  refine ⟨known, ?_, ?_, ?_⟩
  · exact evaluated leapDaySource leapDayEvening true false 1 .year rfl known (by decide)
      (by decide)
  · decide +kernel
  · exact (back leapDaySource leapDayEvening true false 1 .second none _ rfl known (by decide)
      (by decide) rfl (by decide +kernel) .string none (Or.inl rfl)).1

end MyLite.Temporal.DateInterval
