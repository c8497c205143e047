import MyLite.Temporal.TimestampdiffValue

/-! TIMESTAMPDIFF against DATE_ADD: the difference changes its sign with the order, it is the
largest number of whole months, and it takes back what DATE_ADD added. -/

namespace MyLite.Temporal.Timestampdiff

open DateInterval (Evaluated Reads Timed inputText dateIntervalSecondResult exactEvaluation
  overflowWarning signedInterval unitHasTimePart)
open DateIntervalSecond (Accepted FitsInt64 exactResult isCalendarUnit scale)
open Gregorian (Date monthIndex toDays)

/-- The unit of DATE_ADD that has the same name. -/
def intervalUnit : Timestampdiff.Unit → DateIntervalSecond.Unit
  | .year => .year
  | .quarter => .quarter
  | .month => .month
  | .week => .week
  | .day => .day
  | .hour => .hour
  | .minute => .minute
  | .second => .second
  | .microsecond => .microsecond

/-- Some months after `left`, on the day and at the time of `left`, is not after `right`; months,
days and times are compared in this order. -/
def MonthsReach (left : Datetime) (months : Int) (right : Datetime) : Prop :=
  monthIndex left.date + months < monthIndex right.date ∨
    monthIndex left.date + months = monthIndex right.date ∧
      (left.date.day < right.date.day ∨
        left.date.day = right.date.day ∧ secondsOfDay left ≤ secondsOfDay right)

/-- The months that an interval adds do not lead to a shorter month without that day. -/
def Unclamped (input : Datetime) (interval : Int) (unit : DateIntervalSecond.Unit) : Prop :=
  isCalendarUnit unit = true → (exactResult input interval unit).date.day = input.date.day

variable {left right : Datetime} {unit : Timestampdiff.Unit}

/-- The comparison is that of the days, then of the times. -/
theorem compareDayTime_cases (left right : Datetime) :
    compareDayTime left right = -1 ∧ (left.date.day < right.date.day ∨
        left.date.day = right.date.day ∧ secondsOfDay left < secondsOfDay right) ∨
      compareDayTime left right = 0 ∧ left.date.day = right.date.day ∧
        secondsOfDay left = secondsOfDay right ∨
      compareDayTime left right = 1 ∧ (right.date.day < left.date.day ∨
        left.date.day = right.date.day ∧ secondsOfDay right < secondsOfDay left) := by
  rw [compareDayTime]
  split
  · omega
  · split
    · omega
    · split
      · omega
      · split
        · omega
        · omega

theorem compareDayTime_neg (left right : Datetime) :
    compareDayTime left right = -compareDayTime right left := by
  rcases compareDayTime_cases left right with forward | forward | forward <;>
    rcases compareDayTime_cases right left with backward | backward | backward <;> omega

theorem wholeMonthDifference_eq (left right : Datetime) :
    wholeMonthDifference left right =
      if monthIndex right.date - monthIndex left.date > 0 ∧ 0 < compareDayTime left right then
        monthIndex right.date - monthIndex left.date - 1
      else if monthIndex right.date - monthIndex left.date < 0 ∧
          compareDayTime left right < 0 then
        monthIndex right.date - monthIndex left.date + 1
      else monthIndex right.date - monthIndex left.date := by
  have months : (right.date.year - left.date.year) * 12 + (right.date.month - left.date.month) =
      monthIndex right.date - monthIndex left.date := by
    rw [monthIndex, monthIndex]
    omega
  have later : -compareDayTime left right < 0 ↔ 0 < compareDayTime left right := by omega
  have earlier : -compareDayTime left right > 0 ↔ compareDayTime left right < 0 := by omega
  simp only [wholeMonthDifference, months, later, earlier]

theorem wholeMonthDifference_neg (left right : Datetime) :
    wholeMonthDifference left right = -wholeMonthDifference right left := by
  have opposite := compareDayTime_neg left right
  rw [wholeMonthDifference_eq, wholeMonthDifference_eq]
  split <;> split <;> (try split) <;> (try split) <;> omega

theorem elapsedSecondDifference_neg (left right : Datetime) :
    elapsedSecondDifference left right = -elapsedSecondDifference right left := by
  rw [elapsedSecondDifference, elapsedSecondDifference]
  omega

theorem timestampdiffResult_neg (unit : Timestampdiff.Unit) (left right : Datetime) :
    timestampdiffResult unit left right = -timestampdiffResult unit right left := by
  have months := wholeMonthDifference_neg left right
  have seconds := elapsedSecondDifference_neg left right
  cases unit with
  | month => exact months
  | second => exact seconds
  | microsecond => rfl
  | year => rw [timestampdiffResult, timestampdiffResult, months, Int.neg_tdiv]
  | quarter => rw [timestampdiffResult, timestampdiffResult, months, Int.neg_tdiv]
  | week => rw [timestampdiffResult, timestampdiffResult, seconds, Int.neg_tdiv]
  | day => rw [timestampdiffResult, timestampdiffResult, seconds, Int.neg_tdiv]
  | hour => rw [timestampdiffResult, timestampdiffResult, seconds, Int.neg_tdiv]
  | minute => rw [timestampdiffResult, timestampdiffResult, seconds, Int.neg_tdiv]

/-- An earlier datetime has an earlier month, or an earlier day and time in the same. -/
theorem monthsReach_zero (leftAccepted : Accepted left) (rightAccepted : Accepted right)
    (ordered : instant left ≤ instant right) : MonthsReach left 0 right := by
  have leftDay := leftAccepted.time.secondsOfDay
  have rightDay := rightAccepted.time.secondsOfDay
  rw [instant, instant] at ordered
  have days : toDays left.date ≤ toDays right.date := by omega
  rcases Int.lt_or_eq_of_le days with less | same
  · have precedes := (Gregorian.toDays_lt_iff leftAccepted.range.valid
      rightAccepted.range.valid).mp less
    rw [Gregorian.Precedes] at precedes
    rw [MonthsReach]
    omega
  · have sameDate : left.date = right.date := by
      rw [← Gregorian.ofDays_toDays leftAccepted.range.valid, same,
        Gregorian.ofDays_toDays rightAccepted.range.valid]
    rw [MonthsReach, sameDate, secondsOfDay, secondsOfDay]
    omega

/-- The whole months are the largest number that stays. -/
theorem wholeMonthDifference_greatest (ordered : MonthsReach left 0 right) :
    0 ≤ wholeMonthDifference left right ∧
      ∀ months, MonthsReach left months right ↔ months ≤ wholeMonthDifference left right := by
  rw [wholeMonthDifference_eq]
  rw [MonthsReach] at ordered
  constructor
  · rcases compareDayTime_cases left right with compared | compared | compared <;>
      split <;> (try split) <;> omega
  · intro months
    rw [MonthsReach]
    rcases compareDayTime_cases left right with compared | compared | compared <;>
      split <;> (try split) <;> omega

theorem timestampdiffResult_calendar (calendar : isCalendarUnit (intervalUnit unit) = true)
    (left right : Datetime) : timestampdiffResult unit left right =
      (wholeMonthDifference left right).tdiv (scale (intervalUnit unit)) := by
  cases unit with
  | year => rfl
  | quarter => rfl
  | month => exact (Int.tdiv_one _).symm
  | week => cases calendar
  | day => cases calendar
  | hour => cases calendar
  | minute => cases calendar
  | second => cases calendar
  | microsecond => cases calendar

theorem timestampdiffResult_linear (linear : isCalendarUnit (intervalUnit unit) = false)
    (supported : intervalUnit unit ≠ .microsecond) (left right : Datetime) :
    timestampdiffResult unit left right =
      (elapsedSecondDifference left right).tdiv (scale (intervalUnit unit)) := by
  cases unit with
  | year => cases linear
  | quarter => cases linear
  | month => cases linear
  | week => rfl
  | day => rfl
  | hour => rfl
  | minute => rfl
  | second => exact (Int.tdiv_one _).symm
  | microsecond => exact absurd rfl supported

theorem calendar_supported (calendar : isCalendarUnit (intervalUnit unit) = true) :
    intervalUnit unit ≠ .microsecond := by
  intro same
  rw [same] at calendar
  cases calendar

theorem timestampdiff_greatest (calendar : isCalendarUnit (intervalUnit unit) = true)
    (leftAccepted : Accepted left) (rightAccepted : Accepted right)
    (ordered : instant left ≤ instant right) (number : Int) :
    MonthsReach left (number * scale (intervalUnit unit)) right ↔
      number ≤ timestampdiffResult unit left right := by
  obtain ⟨nonneg, greatest⟩ :=
    wholeMonthDifference_greatest (monthsReach_zero leftAccepted rightAccepted ordered)
  have positive := DateInterval.scale_pos (calendar_supported calendar)
  rw [timestampdiffResult_calendar calendar, Int.tdiv_eq_ediv_of_nonneg nonneg,
    Int.le_ediv_iff_mul_le (by omega)]
  exact greatest _

/-- The seconds that have passed are those between the instants. -/
theorem elapsedSecondDifference_eq (leftAccepted : Accepted left)
    (rightAccepted : Accepted right) :
    elapsedSecondDifference left right = instant right - instant left := by
  have number : ∀ {datetime : Datetime}, Accepted datetime →
      dayNumber datetime.date = toDays datetime.date + 60 := by
    intro datetime accepted
    have rule : isLeapYear datetime.date.year = true ↔ Gregorian.IsLeap datetime.date.year :=
      leapRule_except_zero accepted.range.positive
    exact dayNumberBy_eq rule accepted.range.positive accepted.range.valid
  rw [elapsedSecondDifference, number leftAccepted, number rightAccepted, instant, instant,
    secondsOfDay, secondsOfDay]
  omega

theorem monthIndex_addMonths (date : Date) (months : Int) :
    monthIndex (addMonths date months) = monthIndex date + months := by
  rw [monthIndex]
  dsimp only [addMonths]
  omega

/-- What DATE_ADD added is counted again. -/
theorem timestampdiff_exactResult {input : Datetime} {interval : Int} (accepted : Accepted input)
    (supported : intervalUnit unit ≠ .microsecond)
    (landed : Accepted (exactResult input interval (intervalUnit unit)))
    (unclamped : Unclamped input interval (intervalUnit unit)) :
    timestampdiffResult unit input (exactResult input interval (intervalUnit unit)) =
      interval := by
  have positive := DateInterval.scale_pos supported
  cases calendar : isCalendarUnit (intervalUnit unit) with
  | true =>
    have sameDay := unclamped calendar
    have months : wholeMonthDifference input (exactResult input interval (intervalUnit unit)) =
        interval * scale (intervalUnit unit) := by
      rw [exactResult, if_pos calendar] at sameDay ⊢
      have compared := compareDayTime_cases input
        { input with date := addMonths input.date (interval * scale (intervalUnit unit)) }
      have sameTime : secondsOfDay input = secondsOfDay
        { input with date := addMonths input.date (interval * scale (intervalUnit unit)) } := rfl
      rw [wholeMonthDifference_eq, monthIndex_addMonths]
      dsimp only at sameDay compared ⊢
      rw [if_neg (by omega), if_neg (by omega)]
      omega
    rw [timestampdiffResult_calendar calendar, months, Int.mul_tdiv_cancel _ (by omega)]
  | false =>
    have elapsed : elapsedSecondDifference input
        (exactResult input interval (intervalUnit unit)) =
          interval * scale (intervalUnit unit) := by
      rw [elapsedSecondDifference_eq accepted landed,
        DateIntervalSecond.exactResult_linear calendar, instant_ofInstant]
      omega
    rw [timestampdiffResult_linear calendar supported, elapsed, Int.mul_tdiv_cancel _ (by omega)]

theorem parseTimestampdiffArgument_text {datetime : Datetime} {hasTime : Bool}
    {inputKind : InputKind} (accepted : Accepted datetime) (timed : Timed datetime hasTime)
    (reads : Reads inputKind hasTime) :
    parseTimestampdiffArgument ⟨inputText datetime hasTime, inputKind, false⟩ = .ok datetime := by
  rw [parseTimestampdiffArgument, parseTimestampdiffValue_text accepted timed reads]

theorem valueResult_eq {leftSource rightSource : Source} (supported : unit ≠ .microsecond)
    (leftRead : parseTimestampdiffArgument leftSource = .ok left)
    (rightRead : parseTimestampdiffArgument rightSource = .ok right) :
    valueResult unit leftSource rightSource = .number (timestampdiffResult unit left right) := by
  rw [valueResult, if_neg supported, leftRead]
  simp only [rightRead]

/-- The texts of datetimes are read as they are by both functions; the difference changes its
sign with the order; it is the largest number of months, quarters or years that stays; and it
is the interval that DATE_ADD added without shortening the day. -/
theorem timestampdiff_date_add :
    (∀ unit left right leftTimed rightTimed leftKind rightKind,
      unit ≠ Timestampdiff.Unit.microsecond → Accepted left → Accepted right →
      Timed left leftTimed → Timed right rightTimed → Reads leftKind leftTimed →
      Reads rightKind rightTimed →
        valueResult unit ⟨inputText left leftTimed, leftKind, false⟩
          ⟨inputText right rightTimed, rightKind, false⟩ =
            .number (timestampdiffResult unit left right)) ∧
    (∀ unit left right,
      timestampdiffResult unit left right = -timestampdiffResult unit right left) ∧
    (∀ unit left right, isCalendarUnit (intervalUnit unit) = true → Accepted left →
      Accepted right → instant left ≤ instant right → ∀ number,
        MonthsReach left (number * scale (intervalUnit unit)) right ↔
          number ≤ timestampdiffResult unit left right) ∧
    (∀ unit source input hasTime interval message text,
      unit ≠ Timestampdiff.Unit.microsecond → source.isNull = false →
      DateInterval.parseValue source = some (input, hasTime) → FitsInt64 interval →
      dateIntervalSecondResult source (some interval) (intervalUnit unit) false message =
        .ok (.text text) →
      Unclamped input interval (intervalUnit unit) →
      ∀ kind, Reads kind (hasTime || unitHasTimePart (intervalUnit unit)) →
        valueResult unit source ⟨text, kind, false⟩ = .number interval) := by
  refine ⟨?_, timestampdiffResult_neg, ?_, ?_⟩
  · intro unit left right leftTimed rightTimed leftKind rightKind supported leftAccepted
      rightAccepted leftMidnight rightMidnight leftReads rightReads
    exact valueResult_eq supported
      (parseTimestampdiffArgument_text leftAccepted leftMidnight leftReads)
      (parseTimestampdiffArgument_text rightAccepted rightMidnight rightReads)
  · intro unit left right calendar leftAccepted rightAccepted ordered number
    exact timestampdiff_greatest calendar leftAccepted rightAccepted ordered number
  · intro unit source input hasTime interval message text supported present read fits evaluated
      unclamped kind reads
    have unitSupported : intervalUnit unit ≠ .microsecond := by
      intro same
      cases unit <;> first | exact supported rfl | cases same
    obtain ⟨accepted, timed, written⟩ := DateInterval.parseValue_some read
    rw [DateInterval.select_exact present read fits unitSupported] at evaluated
    have signedFits : FitsInt64 (signedInterval false interval) := fits
    obtain ⟨rfl, landed, outputTimed, _⟩ := DateInterval.exactEvaluation_text accepted timed
      signedFits unitSupported
      (fun _ impossible => by cases impossible) (Except.ok.inj evaluated)
    have sourceRead : parseTimestampdiffArgument source = .ok input := by
      have sourceReads := DateInterval.parseValue_reads read
      obtain ⟨value, inputKind, isNull⟩ := source
      dsimp only at present written sourceReads
      rw [present, written]
      exact parseTimestampdiffArgument_text accepted timed sourceReads
    rw [valueResult_eq supported sourceRead
      (parseTimestampdiffArgument_text landed outputTimed reads)]
    exact congrArg Difference.number
      (timestampdiff_exactResult accepted unitSupported landed unclamped)

/-- Four years and a quarter after the evening of 2000-02-29, but for a second. -/
def springEvening : Datetime :=
  { date := ⟨2004, 5, 29⟩, hour := 23, minute := 59, second := 58 }

theorem springEvening_accepted : Accepted springEvening := by
  refine ⟨⟨⟨by decide, by decide, by decide, by decide⟩, by decide, by decide⟩, ?_⟩
  constructor <;> decide

open DateInterval (leapDayEvening leapDaySource leapDayEvening_accepted) in
theorem timestampdiff_date_add_leapDay :
    valueResult .year leapDaySource leapDaySource = .number 0 ∧
    timestampdiffResult .month leapDayEvening leapDayEvening = 0 ∧
    MonthsReach leapDayEvening (16 * scale .quarter) springEvening ∧
    ¬MonthsReach leapDayEvening (17 * scale .quarter) springEvening ∧
    valueResult .month leapDaySource ⟨bytes "2000-03-29 23:59:59", .string, false⟩ =
      .number 1 := by
  obtain ⟨texts, opposite, greatest, added⟩ := timestampdiff_date_add
  have timed : Timed leapDayEvening true := fun impossible => by cases impossible
  have ordered : instant leapDayEvening ≤ instant springEvening := by decide +kernel
  have quarters := greatest .quarter leapDayEvening springEvening rfl leapDayEvening_accepted
    springEvening_accepted ordered
  refine ⟨?_, ?_, ?_, ?_, ?_⟩
  · exact texts .year leapDayEvening leapDayEvening true true .string .string (by decide)
      leapDayEvening_accepted leapDayEvening_accepted timed timed (Or.inl rfl) (Or.inl rfl)
  · have zero := opposite .month leapDayEvening leapDayEvening
    omega
  · exact (quarters 16).mpr (by decide +kernel)
  · exact mt (quarters 17).mp (by decide +kernel)
  · exact added .month leapDaySource leapDayEvening true 1 none _ (by decide) rfl
      (by decide +kernel) (by decide) (by decide +kernel) (fun _ => by decide +kernel) .string
      (Or.inl rfl)

end MyLite.Temporal.Timestampdiff
