import MyLite.Temporal.Instants

/-! The result of DATE_ADD is the calendar's, wherever that result is a date of the years
1000 to 9999 and the scaled interval is an `int64_t`. -/

namespace MyLite.Temporal.DateIntervalSecond

open Gregorian (Date Valid toDays ofDays monthIndex)

def FitsInt64 (value : Int) : Prop := int64Min ≤ value ∧ value ≤ int64Max

instance (value : Int) : Decidable (FitsInt64 value) := inferInstanceAs (Decidable (_ ∧ _))

/-- The seconds of a unit, or its months where the unit is one of the calendar. -/
def scale : DateIntervalSecond.Unit → Int
  | .second => 1
  | .minute => 60
  | .hour => 3600
  | .day => 86400
  | .week => 604800
  | .month => 1
  | .quarter => 3
  | .year => 12
  | .microsecond => 0

def isCalendarUnit : DateIntervalSecond.Unit → Bool
  | .month | .quarter | .year => true
  | _ => false

/-- The datetime an interval after another, in the calendar without end. -/
def exactResult (input : Datetime) (intervalValue : Int) (unit : DateIntervalSecond.Unit) :
    Datetime :=
  if isCalendarUnit unit then
    { input with date := addMonths input.date (intervalValue * scale unit) }
  else ofInstant (instant input + intervalValue * scale unit)

def yearInRange (date : Date) : Bool := 1000 ≤ date.year && date.year ≤ 9999

/-- A datetime that the functions accept. -/
structure Accepted (datetime : Datetime) : Prop where
  range : InRange datetime.date
  time : ValidTime datetime

variable {input output : Datetime} {left right interval : Int}
  {unit : DateIntervalSecond.Unit}

theorem fitsInt64_iff (value : Int) : FitsInt64 value ↔
    -9223372036854775808 ≤ value ∧ value ≤ 9223372036854775807 := Iff.rfl

/-- The checked operations refuse exactly what does not fit. -/
theorem checkedAdd_exact (leftFits : FitsInt64 left) (rightFits : FitsInt64 right) :
    checkedAdd left right = if FitsInt64 (left + right) then some (left + right) else none := by
  rw [fitsInt64_iff] at leftFits rightFits
  unfold checkedAdd int64Min int64Max
  split
  · rw [if_neg]
    rw [fitsInt64_iff]
    omega
  · rw [if_pos]
    rw [fitsInt64_iff]
    omega

theorem checkedMultiply_exact (positive : 0 < right) :
    checkedMultiply left right =
      if FitsInt64 (left * right) then some (left * right) else none := by
  have above : left ≤ int64Max.tdiv right ↔ left * right ≤ int64Max := by
    rw [Int.tdiv_eq_ediv_of_nonneg (by decide)]
    exact Int.le_ediv_iff_mul_le positive
  have below : int64Min.tdiv right ≤ left ↔ int64Min ≤ left * right := by
    have negated : int64Min.tdiv right = -(9223372036854775808 / right) := by
      rw [show int64Min = -9223372036854775808 from rfl, Int.neg_tdiv,
        Int.tdiv_eq_ediv_of_nonneg (by decide)]
    have quotient : -left ≤ 9223372036854775808 / right ↔ -left * right ≤ 9223372036854775808 :=
      Int.le_ediv_iff_mul_le positive
    rw [negated, show int64Min = -9223372036854775808 from rfl]
    rw [Int.neg_mul] at quotient
    omega
  rw [checkedMultiply]
  by_cases zero : left = 0
  · have fits : FitsInt64 (left * right) := by
      rw [zero, Int.zero_mul]
      decide
    rw [if_neg (fun refused => refused.1 zero), if_pos fits]
  · by_cases fits : FitsInt64 (left * right)
    · rw [if_pos fits, if_neg]
      rintro ⟨_, tooHigh | tooLow⟩
      · exact absurd (above.mpr fits.2) (by omega)
      · exact absurd (below.mpr fits.1) (by omega)
    · rw [if_neg fits, if_pos]
      refine ⟨zero, ?_⟩
      by_cases high : left * right ≤ int64Max
      · have low : ¬ int64Min ≤ left * right := fun low => fits ⟨low, high⟩
        exact Or.inr (by rw [← below] at low; omega)
      · exact Or.inl (by rw [← above] at high; omega)

theorem floorDivmod_eq (totalSeconds : Int) :
    floorDivmod totalSeconds = (totalSeconds / 86400, totalSeconds % 86400) := by
  have quotient : totalSeconds.tdiv 86400 = if totalSeconds % 86400 = 0 ∨ 0 ≤ totalSeconds
      then totalSeconds / 86400 else totalSeconds / 86400 + 1 := by
    rw [Int.tdiv_eq_ediv]
    split
    · rw [if_pos (by omega), Int.add_zero]
    · rw [if_neg (by omega)]
      rfl
  have remainder : totalSeconds.tmod 86400 = totalSeconds - 86400 * totalSeconds.tdiv 86400 :=
    Int.tmod_def _ _
  rw [floorDivmod, remainder, quotient]
  split
  · rw [if_neg (by omega), Prod.mk.injEq]
    exact ⟨rfl, by omega⟩
  · rw [if_pos (by omega), Prod.mk.injEq]
    constructor <;> omega

/-- A year out of range is also where the instant is far from the accepted ones. -/
theorem instant_of_yearInRange {seconds : Int}
    (inside : yearInRange (ofInstant seconds).date = true) :
    0 ≤ seconds ∧ seconds < 3700001 * 86400 := by
  rw [yearInRange, Bool.and_eq_true, decide_eq_true_eq, decide_eq_true_eq] at inside
  have bounds := instant_bounds ⟨ofInstant_valid seconds, inside.1, inside.2⟩
    (ofInstant_time seconds)
  rwa [instant_ofInstant] at bounds

theorem yearInRange_eq_false {date : Date} :
    (date.year < 1000 || date.year > 9999) = !yearInRange date := by
  rw [yearInRange, Bool.eq_iff_iff, Bool.or_eq_true, Bool.not_eq_true', Bool.and_eq_false_iff,
    decide_eq_true_eq, decide_eq_true_eq, decide_eq_false_iff_not, decide_eq_false_iff_not]
  omega

theorem add_exact (accepted : Accepted input) (fits : FitsInt64 interval) :
    add input interval =
      if yearInRange (ofInstant (instant input + interval)).date then
        some (ofInstant (instant input + interval))
      else none := by
  obtain ⟨range, time⟩ := accepted
  obtain ⟨instantLow, instantHigh⟩ := instant_bounds range time
  have base : daysFromDatetime input.date * 86400 +
      (input.hour * 3600 + input.minute * 60 + input.second) =
        instant input - 719468 * 86400 := by
    rw [daysFromDatetime_eq, instant]
    omega
  have baseFits : FitsInt64 (instant input - 719468 * 86400) := by
    rw [fitsInt64_iff]
    omega
  rw [add, (timeIsValid_iff input).mpr time]
  simp only [Bool.not_true, Bool.false_eq_true, if_false]
  rw [base, checkedAdd_exact baseFits fits]
  by_cases sumFits : FitsInt64 (instant input - 719468 * 86400 + interval)
  · have date : datetimeFromDays ((instant input - 719468 * 86400 + interval) / 86400) =
        (ofInstant (instant input + interval)).date := by
      rw [datetimeFromDays_eq]
      dsimp only [ofInstant]
      congr 1
      omega
    have seconds : (instant input - 719468 * 86400 + interval) % 86400 =
        (instant input + interval) % 86400 := by omega
    rw [if_pos sumFits, Option.bind_some, floorDivmod_eq]
    dsimp only
    rw [date, seconds, yearInRange_eq_false]
    cases yearInRange (ofInstant (instant input + interval)).date with
    | false => rfl
    | true => rfl
  · rw [if_neg sumFits, if_neg]
    · rfl
    · intro inside
      obtain ⟨low, high⟩ := instant_of_yearInRange inside
      apply sumFits
      rw [fitsInt64_iff]
      omega

/-- The year and the month of a month index, as C rounds and corrects them. -/
theorem month_quotient (months : Int) :
    (if months.tmod 12 < 0 then months.tdiv 12 - 1 else months.tdiv 12) = months / 12 ∧
      (if months.tmod 12 < 0 then months.tmod 12 + 12 else months.tmod 12) = months % 12 := by
  have quotient : months.tdiv 12 = if months % 12 = 0 ∨ 0 ≤ months
      then months / 12 else months / 12 + 1 := by
    rw [Int.tdiv_eq_ediv]
    split
    · rw [if_pos (by omega), Int.add_zero]
    · rw [if_neg (by omega)]
      rfl
  have remainder : months.tmod 12 = months - 12 * months.tdiv 12 := Int.tmod_def _ _
  rw [remainder, quotient]
  split
  · rw [if_neg (by omega), if_neg (by omega)]
    constructor <;> omega
  · rw [if_pos (by omega), if_pos (by omega)]
    constructor <;> omega

theorem monthIndex_fits {date : Date} (range : InRange date) :
    FitsInt64 (date.year * 12) ∧ FitsInt64 (date.month - 1) ∧ FitsInt64 (monthIndex date) := by
  obtain ⟨⟨monthPos, monthLe, _, _⟩, yearLow, yearHigh⟩ := range
  rw [fitsInt64_iff, fitsInt64_iff, fitsInt64_iff, monthIndex]
  refine ⟨⟨?_, ?_⟩, ⟨?_, ?_⟩, ⟨?_, ?_⟩⟩ <;> omega

/-- The day of a date in another month, cut off at the end of that month. -/
theorem clampedDay (day year month : Int) (monthPos : 1 ≤ month) (monthLe : month ≤ 12) :
    (if day > daysInMonth year month then daysInMonth year month else day) =
      min day (Gregorian.daysInMonth year month) := by
  have days : daysInMonth year month = Gregorian.daysInMonth year month :=
    daysInMonthBy_eq (leapRule_iff year) monthPos monthLe
  rw [days]
  split
  · rw [min_eq_right (by omega)]
  · rw [min_eq_left (by omega)]

theorem addCalendarMonths_exact (accepted : Accepted input) (fits : FitsInt64 interval) :
    addCalendarMonths input interval =
      if yearInRange (addMonths input.date interval) then
        some { input with date := addMonths input.date interval }
      else none := by
  obtain ⟨range, time⟩ := accepted
  obtain ⟨yearFits, monthFits, indexFits⟩ := monthIndex_fits range
  have index : input.date.year * 12 + (input.date.month - 1) = monthIndex input.date := rfl
  rw [addCalendarMonths, (timeIsValid_iff input).mpr time]
  simp only [Bool.not_true, Bool.false_eq_true, if_false]
  rw [checkedMultiply_exact (by decide), if_pos yearFits, Option.bind_some,
    checkedAdd_exact yearFits monthFits, index, if_pos indexFits, Option.bind_some,
    checkedAdd_exact indexFits fits]
  by_cases sumFits : FitsInt64 (monthIndex input.date + interval)
  · obtain ⟨year, month⟩ := month_quotient (monthIndex input.date + interval)
    have added := addMonths_valid range.valid interval
    rw [if_pos sumFits, Option.bind_some, year, month, clampedDay _ _ _ (by omega) (by omega)]
    change (if (addMonths input.date interval).year < 1000 ||
      (addMonths input.date interval).year > 9999 then none
      else if dateIsValid (addMonths input.date interval) then
        some { input with date := addMonths input.date interval } else none) = _
    rw [yearInRange_eq_false]
    cases inside : yearInRange (addMonths input.date interval) with
    | false => rfl
    | true =>
      have years := inside
      rw [yearInRange, Bool.and_eq_true, decide_eq_true_eq, decide_eq_true_eq] at years
      have valid := (dateIntervalSecond_dateIsValid_iff _).mpr ⟨added, years.1, years.2⟩
      simp only [Bool.not_true, Bool.false_eq_true, if_false, if_true]
      rw [if_pos valid]
  · rw [if_neg sumFits, if_neg]
    · rfl
    · intro inside
      rw [yearInRange, Bool.and_eq_true, decide_eq_true_eq, decide_eq_true_eq] at inside
      dsimp only [addMonths] at inside
      apply sumFits
      rw [fitsInt64_iff]
      omega

/-- DATE_ADD is exact: it is the calendar's result, or NULL exactly where that is out of range
or the scaled interval does not fit. -/
theorem unitAdd_exact (accepted : Accepted input) (fits : FitsInt64 interval)
    (supported : unit ≠ .microsecond) :
    unitAdd input interval unit =
      if FitsInt64 (interval * scale unit) ∧ yearInRange (exactResult input interval unit).date then
        some (exactResult input interval unit)
      else none := by
  have seconds : ∀ factor : Int, 0 < factor →
      (checkedMultiply interval factor).bind (add input) =
        if FitsInt64 (interval * factor) ∧
            yearInRange (ofInstant (instant input + interval * factor)).date then
          some (ofInstant (instant input + interval * factor))
        else none := by
    intro factor positive
    rw [checkedMultiply_exact positive]
    by_cases scaled : FitsInt64 (interval * factor)
    · rw [if_pos scaled, Option.bind_some, add_exact accepted scaled]
      simp only [scaled, true_and]
    · rw [if_neg scaled, if_neg (fun both => scaled both.1)]
      rfl
  have months : ∀ factor : Int, 0 < factor →
      (checkedMultiply interval factor).bind (addCalendarMonths input) =
        if FitsInt64 (interval * factor) ∧
            yearInRange (addMonths input.date (interval * factor)) then
          some { input with date := addMonths input.date (interval * factor) }
        else none := by
    intro factor positive
    rw [checkedMultiply_exact positive]
    by_cases scaled : FitsInt64 (interval * factor)
    · rw [if_pos scaled, Option.bind_some, addCalendarMonths_exact accepted scaled]
      simp only [scaled, true_and]
    · rw [if_neg scaled, if_neg (fun both => scaled both.1)]
      rfl
  have one : checkedMultiply interval 1 = some interval := by
    rw [checkedMultiply_exact (by decide), Int.mul_one, if_pos fits]
  cases unit with
  | second =>
    have added := seconds 1 (by decide)
    rw [one, Option.bind_some] at added
    exact added
  | minute => exact seconds 60 (by decide)
  | hour => exact seconds 3600 (by decide)
  | day => exact seconds 86400 (by decide)
  | week => exact seconds 604800 (by decide)
  | month =>
    have added := months 1 (by decide)
    rw [one, Option.bind_some] at added
    exact added
  | quarter => exact months 3 (by decide)
  | year => exact months 12 (by decide)
  | microsecond => exact absurd rfl supported

theorem exactResult_linear (linear : isCalendarUnit unit = false) (input : Datetime)
    (interval : Int) :
    exactResult input interval unit = ofInstant (instant input + interval * scale unit) := by
  rw [exactResult, linear]
  rfl

theorem scale_linear (supported : unit ≠ .microsecond) (linear : isCalendarUnit unit = false) :
    scale unit = 1 ∨ scale unit = 60 ∨ scale unit = 3600 ∨ scale unit = 86400 ∨
      scale unit = 604800 := by
  cases unit with
  | second => exact Or.inl rfl
  | minute => exact Or.inr (Or.inl rfl)
  | hour => exact Or.inr (Or.inr (Or.inl rfl))
  | day => exact Or.inr (Or.inr (Or.inr (Or.inl rfl)))
  | week => exact Or.inr (Or.inr (Or.inr (Or.inr rfl)))
  | month => cases linear
  | quarter => cases linear
  | year => cases linear
  | microsecond => exact absurd rfl supported

/-- What comes out is a datetime that the functions accept. -/
theorem unitAdd_accepted (accepted : Accepted input) (fits : FitsInt64 interval)
    (supported : unit ≠ .microsecond) (added : unitAdd input interval unit = some output) :
    Accepted output := by
  rw [unitAdd_exact accepted fits supported] at added
  split at added
  · rename_i reached
    have years := reached.2
    rw [yearInRange, Bool.and_eq_true, decide_eq_true_eq, decide_eq_true_eq] at years
    have same := Option.some.inj added
    rw [exactResult] at same years
    split at same
    · rename_i calendar
      rw [if_pos calendar] at years
      subst same
      exact ⟨⟨addMonths_valid accepted.range.valid _, years.1, years.2⟩,
        accepted.time.onDate _⟩
    · rename_i linear
      rw [if_neg linear] at years
      subst same
      exact ⟨⟨ofInstant_valid _, years.1, years.2⟩, ofInstant_time _⟩
  · cases added

/-- The units of seconds can be taken back. -/
theorem unitAdd_neg (accepted : Accepted input) (fits : FitsInt64 interval)
    (supported : unit ≠ .microsecond) (linear : isCalendarUnit unit = false)
    (added : unitAdd input interval unit = some output) :
    FitsInt64 (-interval) ∧ unitAdd output (-interval) unit = some input := by
  have landed := unitAdd_accepted accepted fits supported added
  have reached := added
  rw [unitAdd_exact accepted fits supported, exactResult_linear linear] at reached
  split at reached
  · rename_i condition
    have same := Option.some.inj reached
    obtain ⟨inputLow, inputHigh⟩ := instant_bounds accepted.range accepted.time
    obtain ⟨outputLow, outputHigh⟩ := instant_bounds landed.range landed.time
    have moved : instant output = instant input + interval * scale unit := by
      rw [← same, instant_ofInstant]
    have back : instant output + -interval * scale unit = instant input := by
      rw [moved, Int.neg_mul]
      omega
    have small : FitsInt64 (-interval) ∧ FitsInt64 (-interval * scale unit) := by
      rw [fitsInt64_iff, fitsInt64_iff]
      rcases scale_linear supported linear with factor | factor | factor | factor | factor
      all_goals
        rw [factor] at moved ⊢
        omega
    have years : yearInRange input.date = true := by
      rw [yearInRange, Bool.and_eq_true, decide_eq_true_eq, decide_eq_true_eq]
      exact ⟨accepted.range.yearLow, accepted.range.yearHigh⟩
    refine ⟨small.1, ?_⟩
    rw [unitAdd_exact landed small.1 supported, exactResult_linear linear, back,
      ofInstant_instant accepted.range.valid accepted.time, if_pos ⟨small.2, years⟩]
  · cases reached

end MyLite.Temporal.DateIntervalSecond
