import MyLite.Library.Gregorian
import MyLite.Temporal.Calendars

/-! Every module counts the days of the one Gregorian calendar. -/

namespace MyLite.Temporal

open Gregorian (Date IsLeap Valid toDays ofDays)

theorem tmod_eq_zero_iff (value divisor : Int) : value.tmod divisor = 0 ↔ value % divisor = 0 := by
  rw [← Int.dvd_iff_tmod_eq_zero, Int.dvd_iff_emod_eq_zero]

theorem leapRule_iff (year : Int) : leapRule year = true ↔ IsLeap year := by
  simp [leapRule, IsLeap, tmod_eq_zero_iff]

/-- The rule of the modules that have no leap year 0. -/
theorem leapRule_except_zero {year : Int} (positive : 0 < year) :
    (if year = 0 then false else leapRule year) = true ↔ IsLeap year := by
  rw [if_neg (by omega), leapRule_iff]

section Rules

variable {isLeapYear : Int → Bool}

theorem daysInMonthBy_eq {year month : Int} (rule : isLeapYear year = true ↔ IsLeap year)
    (monthPos : 1 ≤ month) (monthLe : month ≤ 12) :
    daysInMonthBy isLeapYear year month = Gregorian.daysInMonth year month := by
  unfold daysInMonthBy Gregorian.daysInMonth
  by_cases leap : IsLeap year
  · have : isLeapYear year = true := rule.mpr leap
    interval_cases month <;> simp [monthDays, this, leap]
  · have : isLeapYear year = false := by simpa [leap] using rule
    interval_cases month <;> simp [monthDays, this, leap]

theorem daysInMonth_le (year month : Int) : Gregorian.daysInMonth year month ≤ 31 := by
  unfold Gregorian.daysInMonth
  split
  · split <;> omega
  · split <;> omega

theorem dateIsValidBy_iff {date : Date} (rule : isLeapYear date.year = true ↔ IsLeap date.year) :
    dateIsValidBy isLeapYear date = true ↔ Valid date := by
  unfold dateIsValidBy
  constructor
  · intro checked
    split at checked
    · cases checked
    · rename_i range
      simp only [Bool.or_eq_true, decide_eq_true_eq, not_or, Int.not_lt] at range
      obtain ⟨⟨⟨monthPos, monthLe⟩, dayPos⟩, _⟩ := range
      rw [daysInMonthBy_eq rule monthPos (by omega)] at checked
      exact ⟨monthPos, by omega, dayPos, of_decide_eq_true checked⟩
  · intro valid
    obtain ⟨monthPos, monthLe, dayPos, dayLe⟩ := valid
    have bounded := daysInMonth_le date.year date.month
    rw [if_neg (by simp only [Bool.or_eq_true, decide_eq_true_eq]; omega),
      daysInMonthBy_eq rule monthPos monthLe]
    exact decide_eq_true dayLe

theorem dayNumberBy_eq {date : Date} (rule : isLeapYear date.year = true ↔ IsLeap date.year)
    (positive : 0 < date.year) (valid : Valid date) :
    dayNumberBy isLeapYear date = toDays date + 60 := by
  obtain ⟨year, month, day⟩ := date
  obtain ⟨monthPos, monthLe, _, _⟩ := valid
  dsimp only at *
  have counted : ∀ divisor : Int, 0 < divisor →
      (year - 1).tdiv divisor = (year - 1) / divisor := fun divisor _ =>
    Int.tdiv_eq_ediv_of_nonneg (by omega)
  have leapDays := Gregorian.leapDays_succ year
  unfold dayNumberBy toDays
  dsimp only
  rw [if_neg (show ¬ year ≤ 0 by omega), if_pos (show year > 0 from positive),
    counted 4 (by omega), counted 100 (by omega), counted 400 (by omega)]
  change year * 365 + Gregorian.leapDays (year - 1) + _ = _
  unfold dayOfYearBy Gregorian.marchYear Gregorian.marchDay Gregorian.marchMonth
  dsimp only
  -- The months before, in a leap year or not.
  have months : ∀ before : Int, 1 ≤ before → before ≤ 12 →
      daysInMonthBy isLeapYear year before = Gregorian.daysInMonth year before :=
    fun before pos le => daysInMonthBy_eq rule pos le
  by_cases leap : IsLeap year
  all_goals
    simp only [leap, if_true, if_false] at leapDays
    interval_cases month <;>
      simp [List.range_succ, months, Gregorian.daysInMonth, leap] <;> omega

end Rules

/-- The era of a value, as C rounds it down. -/
theorem tdiv_era (value : Int) {size reach : Int} (positive : 0 < size)
    (reached : reach + 1 = size) :
    (if value ≥ 0 then value else value - reach).tdiv size = value / size := by
  split
  · rename_i nonneg
    exact Int.tdiv_eq_ediv_of_nonneg nonneg
  · rename_i negative
    have shifted : value - reach = (value % size + 1) + size * (value / size - 1) := by
      have decomposed := Int.mul_ediv_add_emod value size
      rw [Int.mul_sub]
      omega
    have remainderNonneg := Int.emod_nonneg value (by omega : size ≠ 0)
    have remainderLt := Int.emod_lt_of_pos value positive
    have divides : size ∣ value - reach ↔ size ∣ value % size + 1 := by
      rw [shifted, Int.mul_comm]
      exact Int.dvd_add_mul_self
    have below : ¬ 0 ≤ value - reach := by omega
    have quotient : (value - reach) / size = (value % size + 1) / size + (value / size - 1) := by
      rw [shifted, Int.add_mul_ediv_left _ _ (by omega)]
    rw [Int.tdiv_eq_ediv, quotient]
    by_cases last : value % size + 1 = size
    · have whole : size ∣ value % size + 1 := Dvd.intro 1 (by omega)
      rw [if_pos (Or.inr (divides.mpr whole)), last,
        Int.ediv_self (by omega)]
      omega
    · have within : ¬ size ∣ value - reach := by
        intro divided
        have le := Int.le_of_dvd (by omega) (divides.mp divided)
        omega
      rw [Int.ediv_eq_zero_of_lt (by omega) (by omega), if_neg (not_or.mpr ⟨below, within⟩),
        Int.sign_eq_one_of_pos positive]
      omega

theorem UnixTimestamp.daysFromCivil_eq (date : Date) :
    UnixTimestamp.daysFromCivil date = toDays date - 719468 := by
  unfold UnixTimestamp.daysFromCivil toDays Gregorian.marchDay Gregorian.marchMonth
    Gregorian.leapDays
  dsimp only
  have year : date.year - (if date.month ≤ 2 then 1 else 0) = Gregorian.marchYear date := by
    unfold Gregorian.marchYear
    split <;> omega
  have month : date.month + (if date.month > 2 then -3 else 9) =
      if date.month ≤ 2 then date.month + 9 else date.month - 3 := by
    split <;> split <;> omega
  rw [year, month, tdiv_era _ (by omega : (0 : Int) < 400) (by omega)]
  omega

theorem DateIntervalSecond.daysFromDatetime_eq (date : Date) :
    DateIntervalSecond.daysFromDatetime date = toDays date - 719468 := by
  unfold DateIntervalSecond.daysFromDatetime toDays Gregorian.marchDay Gregorian.marchMonth
    Gregorian.leapDays
  dsimp only
  have year : date.year - (if date.month ≤ 2 then 1 else 0) = Gregorian.marchYear date := by
    unfold Gregorian.marchYear
    split <;> omega
  have month : (if date.month > 2 then date.month - 3 else date.month + 9) =
      if date.month ≤ 2 then date.month + 9 else date.month - 3 := by
    split <;> split <;> omega
  rw [year, month, tdiv_era _ (by omega : (0 : Int) < 400) (by omega)]
  omega

theorem DateIntervalSecond.datetimeFromDays_eq (days : Int) :
    DateIntervalSecond.datetimeFromDays days = ofDays (days + 719468) := by
  have bounds := Gregorian.dayOfYear_bounds (by omega : 0 ≤ (days + 719468) % 146097) (by omega)
  unfold Gregorian.daysOfEra Gregorian.yearOfEra at bounds
  unfold DateIntervalSecond.datetimeFromDays ofDays Gregorian.ofMarch Gregorian.daysOfEra
    Gregorian.yearOfEra
  dsimp only
  have dayOfEra : days + 719468 - (days + 719468) / 146097 * 146097 =
      (days + 719468) % 146097 := by omega
  rw [tdiv_era _ (by omega : (0 : Int) < 146097) (by omega), dayOfEra]
  simp only [Int.add_zero] at bounds ⊢
  generalize (days + 719468) / 146097 = era
  generalize ((days + 719468) % 146097 - (days + 719468) % 146097 / 1460 +
    (days + 719468) % 146097 / 36524 - (days + 719468) % 146097 / 146096) / 365 = year at *
  generalize (days + 719468) % 146097 - (365 * year + year / 4 - year / 100) = dayOfYear at *
  simp only [Date.mk.injEq, and_true]
  split <;> split <;> omega

theorem UnixTimestamp.floorDivideI64_eq (numerator : Int) {denominator : Int}
    (positive : 0 < denominator) :
    UnixTimestamp.floorDivideI64 numerator denominator = numerator / denominator := by
  unfold UnixTimestamp.floorDivideI64
  have remainderNonneg := Int.emod_nonneg numerator (by omega : denominator ≠ 0)
  have remainderLt := Int.emod_lt_of_pos numerator positive
  have notNegative : decide (denominator < 0) = false := decide_eq_false (by omega)
  dsimp only
  rw [notNegative, Int.tdiv_eq_ediv, Int.tmod_eq_emod]
  split
  · have remainder : decide (numerator % denominator - 0 < 0) = false :=
      decide_eq_false (by omega)
    rw [if_neg (fun condition => condition.2 remainder)]
    omega
  · have remainder : decide (numerator % denominator - (denominator.natAbs : Int) < 0) = true :=
      decide_eq_true (by omega)
    rw [if_pos ⟨by omega, by rw [remainder]; decide⟩, Int.sign_eq_one_of_pos positive]
    omega

theorem UnixTimestamp.civilFromDays_eq (days : Int) :
    UnixTimestamp.civilFromDays days =
      { ofDays (days + 719468) with
        year := UnixTimestamp.narrowToInt (ofDays (days + 719468)).year } := by
  rw [← DateIntervalSecond.datetimeFromDays_eq]
  unfold UnixTimestamp.civilFromDays DateIntervalSecond.datetimeFromDays
  dsimp only
  rw [UnixTimestamp.floorDivideI64_eq _ (by omega : (0 : Int) < 146097),
    tdiv_era _ (by omega : (0 : Int) < 146097) (by omega)]
  generalize (days + 719468) / 146097 = era
  generalize days + 719468 - era * 146097 = dayOfEra
  generalize (dayOfEra - dayOfEra / 1460 + dayOfEra / 36524 - dayOfEra / 146096) / 365 = year
  have dayOfYear : dayOfEra - (year * 365 + year / 4 - year / 100) =
      dayOfEra - (365 * year + year / 4 - year / 100) := by omega
  rw [dayOfYear]
  generalize dayOfEra - (365 * year + year / 4 - year / 100) = dayOfYear
  have month : (5 * dayOfYear + 2) / 153 + (if (5 * dayOfYear + 2) / 153 < 10 then 3 else -9) =
      if (5 * dayOfYear + 2) / 153 < 10 then (5 * dayOfYear + 2) / 153 + 3
      else (5 * dayOfYear + 2) / 153 - 9 := by
    split <;> omega
  rw [month, Int.add_comm (era * 400) year]

theorem UnixTimestamp.narrowToInt_eq {value : Int} (low : -2147483648 ≤ value)
    (high : value ≤ 2147483647) : UnixTimestamp.narrowToInt value = value := by
  unfold UnixTimestamp.narrowToInt
  omega

/-- Where the year is an `int`, nothing is lost. -/
theorem UnixTimestamp.civilFromDays_eq_ofDays {days : Int}
    (low : -2147483648 ≤ (ofDays (days + 719468)).year)
    (high : (ofDays (days + 719468)).year ≤ 2147483647) :
    UnixTimestamp.civilFromDays days = ofDays (days + 719468) := by
  rw [UnixTimestamp.civilFromDays_eq, UnixTimestamp.narrowToInt_eq low high]

/-! DATE_ADD. -/

open DateIntervalSecond in
theorem dateIntervalSecond_dateIsValid_iff (date : Date) :
    dateIsValid date = true ↔ Valid date ∧ 1000 ≤ date.year ∧ date.year ≤ 9999 := by
  unfold dateIsValid daysInMonth
  constructor
  · intro checked
    split at checked
    · cases checked
    · rename_i range
      simp only [Bool.or_eq_true, decide_eq_true_eq, not_or, Int.not_lt] at range
      obtain ⟨⟨⟨⟨yearLow, yearHigh⟩, monthPos⟩, monthLe⟩, dayPos⟩ := range
      rw [daysInMonthBy_eq (leapRule_iff _) monthPos (by omega)] at checked
      exact ⟨⟨monthPos, by omega, dayPos, of_decide_eq_true checked⟩, yearLow, by omega⟩
  · intro facts
    obtain ⟨⟨monthPos, monthLe, dayPos, dayLe⟩, yearLow, yearHigh⟩ := facts
    rw [if_neg (by simp only [Bool.or_eq_true, decide_eq_true_eq]; omega),
      daysInMonthBy_eq (leapRule_iff _) monthPos monthLe]
    exact decide_eq_true dayLe

/-- A date of the years that DATE_ADD can return. -/
structure InRange (date : Date) : Prop where
  valid : Valid date
  yearLow : 1000 ≤ date.year
  yearHigh : date.year ≤ 9999

theorem toDays_bounds {date : Date} (range : InRange date) :
    0 ≤ toDays date ∧ toDays date ≤ 3700000 := by
  obtain ⟨valid, yearLow, yearHigh⟩ := range
  obtain ⟨dayNonneg, dayLe, _, _⟩ := Gregorian.marchDay_valid valid
  have marchLow : 999 ≤ Gregorian.marchYear date := by
    unfold Gregorian.marchYear
    split <;> omega
  have marchHigh : Gregorian.marchYear date ≤ 9999 := by
    unfold Gregorian.marchYear
    split <;> omega
  unfold toDays Gregorian.leapDays
  omega

theorem floorDivmod_days (days : Int) :
    DateIntervalSecond.floorDivmod (days * 86400) = (days, 0) := by
  unfold DateIntervalSecond.floorDivmod
  simp [Int.mul_tdiv_cancel, Int.mul_tmod_left]

open DateIntervalSecond in
theorem checkedAdd_eq {left right sum : Int} (added : checkedAdd left right = some sum) :
    sum = left + right := by
  unfold checkedAdd at added
  split at added
  · cases added
  · exact (Option.some.inj added).symm

open DateIntervalSecond in
theorem checkedMultiply_eq {left right product : Int}
    (multiplied : checkedMultiply left right = some product) : product = left * right := by
  unfold checkedMultiply at multiplied
  split at multiplied
  · cases multiplied
  · exact (Option.some.inj multiplied).symm

/-- The seconds of whole days, added to a midnight. -/
theorem DateIntervalSecond.add_midnight {date : Date} {seconds resultSeconds : Int}
    (added : checkedAdd (daysFromDatetime date * 86400) seconds = some resultSeconds)
    {result : Int} (days : resultSeconds = result * 86400) :
    (add (.midnight date) seconds).map Datetime.date =
      if (datetimeFromDays result).year < 1000 ∨ (datetimeFromDays result).year > 9999 then none
      else some (datetimeFromDays result) := by
  have base : daysFromDatetime (Datetime.midnight date).date * 86400 +
      ((Datetime.midnight date).hour * 3600 + (Datetime.midnight date).minute * 60 +
        (Datetime.midnight date).second) = daysFromDatetime date * 86400 := by
    simp [Datetime.midnight]
  have time : timeIsValid (.midnight date) = true := rfl
  unfold add
  rw [time]
  dsimp only
  rw [base, added, days]
  simp only [Bool.not_true, Bool.false_eq_true, if_false, Option.bind_some, floorDivmod_days]
  simp only [Bool.or_eq_true, decide_eq_true_eq]
  split <;> rfl

theorem dateInterval_day_iff {start stop : Date} (started : InRange start)
    (stopped : InRange stop) (days : Int) :
    DateIntervalSecond.dateIntervalResult false start days .day = some stop ↔
      days = toDays stop - toDays start := by
  have startBounds := toDays_bounds started
  have stopBounds := toDays_bounds stopped
  have accepted : DateIntervalSecond.dateIsValid start = true :=
    (dateIntervalSecond_dateIsValid_iff start).mpr ⟨started.valid, started.yearLow, started.yearHigh⟩
  have counted := DateIntervalSecond.daysFromDatetime_eq start
  unfold DateIntervalSecond.dateIntervalResult DateIntervalSecond.unitAdd
  simp only [accepted, Bool.not_true, Bool.false_and, Bool.or_false, Bool.false_eq_true, if_false]
  constructor
  · intro reached
    cases multiplied : DateIntervalSecond.checkedMultiply days 86400 with
    | none => simp [multiplied] at reached
    | some seconds =>
      cases added : DateIntervalSecond.checkedAdd
          (DateIntervalSecond.daysFromDatetime start * 86400) seconds with
      | none =>
        simp [multiplied, DateIntervalSecond.add, Datetime.midnight, added] at reached
      | some resultSeconds =>
        have total : resultSeconds = (toDays start - 719468 + days) * 86400 := by
          rw [checkedAdd_eq added, checkedMultiply_eq multiplied, counted]
          omega
        rw [multiplied, Option.bind_some, DateIntervalSecond.add_midnight added total,
          DateIntervalSecond.datetimeFromDays_eq] at reached
        split at reached
        · cases reached
        · have landed := Option.some.inj reached
          have same := Gregorian.toDays_ofDays (toDays start - 719468 + days + 719468)
          rw [landed] at same
          omega
  · intro difference
    have multiplied : DateIntervalSecond.checkedMultiply days 86400 = some (days * 86400) := by
      unfold DateIntervalSecond.checkedMultiply DateIntervalSecond.int64Max
        DateIntervalSecond.int64Min
      rw [if_neg]
      have high : Int.tdiv 9223372036854775807 86400 = 106751991167300 := by decide
      have low : Int.tdiv (-9223372036854775808) 86400 = -106751991167300 := by decide
      omega
    have added : DateIntervalSecond.checkedAdd
        (DateIntervalSecond.daysFromDatetime start * 86400) (days * 86400) =
        some ((toDays stop - 719468) * 86400) := by
      unfold DateIntervalSecond.checkedAdd DateIntervalSecond.int64Max DateIntervalSecond.int64Min
      rw [if_neg (by omega), counted, difference]
      congr 1
      omega
    have landed : ofDays (toDays stop - 719468 + 719468) = stop := by
      rw [show toDays stop - 719468 + 719468 = toDays stop by omega]
      exact Gregorian.ofDays_toDays stopped.valid
    rw [multiplied, Option.bind_some, DateIntervalSecond.add_midnight added rfl,
      DateIntervalSecond.datetimeFromDays_eq, landed, if_neg]
    have := stopped.yearLow
    have := stopped.yearHigh
    omega

/-- What every function says of the days from one date to another. -/
structure DaysBetween (start stop : Date) (difference : Int) : Prop where
  toDays : ∃ first last, TemporalExtract.extractToDaysValue start = some first ∧
    TemporalExtract.extractToDaysValue stop = some last ∧ last - first = difference
  datediff : Datediff.datediffValueResult stop start = some difference
  timestampdiff : Timestampdiff.timestampdiffValueResult .day start stop = some difference
  unixTimestamp : UnixTimestamp.daysFromCivil stop - UnixTimestamp.daysFromCivil start = difference
  dateInterval : DateIntervalSecond.daysFromDatetime stop -
    DateIntervalSecond.daysFromDatetime start = difference
  dateAdd : ∀ days, DateIntervalSecond.dateIntervalResult false start days .day = some stop ↔
    days = difference

theorem InRange.positive {date : Date} (range : InRange date) : 0 < date.year := by
  have := range.yearLow
  omega

theorem daysBetween {start stop : Date} (started : InRange start) (stopped : InRange stop) :
    DaysBetween start stop (toDays stop - toDays start) := by
  have startRule : Datediff.isLeapYear start.year = true ↔ IsLeap start.year :=
    leapRule_except_zero started.positive
  have stopRule : Datediff.isLeapYear stop.year = true ↔ IsLeap stop.year :=
    leapRule_except_zero stopped.positive
  have startValid := (dateIsValidBy_iff startRule).mpr started.valid
  have stopValid := (dateIsValidBy_iff stopRule).mpr stopped.valid
  have startNumber := dayNumberBy_eq startRule started.positive started.valid
  have stopNumber := dayNumberBy_eq stopRule stopped.positive stopped.valid
  constructor
  · refine ⟨toDays start + 60, toDays stop + 60, ?_, ?_, by omega⟩
    · exact (if_pos startValid).trans (congrArg some startNumber)
    · exact (if_pos stopValid).trans (congrArg some stopNumber)
  · have accepted : (Datediff.dateIsValid stop && Datediff.dateIsValid start) = true :=
      Bool.and_eq_true_iff.mpr ⟨stopValid, startValid⟩
    have number : Datediff.dayNumber stop - Datediff.dayNumber start =
        toDays stop - toDays start := by
      rw [show Datediff.dayNumber stop = _ from stopNumber,
        show Datediff.dayNumber start = _ from startNumber]
      omega
    rw [Datediff.datediffValueResult, if_pos accepted, number]
  · have accepted : (Timestampdiff.dateIsValid start && Timestampdiff.dateIsValid stop) = true :=
      Bool.and_eq_true_iff.mpr ⟨startValid, stopValid⟩
    have elapsed : Timestampdiff.elapsedSecondDifference (.midnight start) (.midnight stop) =
        (toDays stop - toDays start) * 86400 := by
      unfold Timestampdiff.elapsedSecondDifference Timestampdiff.secondsOfDay Datetime.midnight
      dsimp only
      rw [show Timestampdiff.dayNumber stop = _ from stopNumber,
        show Timestampdiff.dayNumber start = _ from startNumber]
      omega
    unfold Timestampdiff.timestampdiffValueResult Timestampdiff.timestampdiffResult
    dsimp only
    rw [if_pos accepted, elapsed, Int.mul_tdiv_cancel _ (by omega)]
  · rw [UnixTimestamp.daysFromCivil_eq, UnixTimestamp.daysFromCivil_eq]
    omega
  · rw [DateIntervalSecond.daysFromDatetime_eq, DateIntervalSecond.daysFromDatetime_eq]
    omega
  · exact dateInterval_day_iff started stopped

theorem ofDays_year_bounds {days : Int} (low : 0 ≤ days) (high : days ≤ 3000000) :
    -10000 ≤ (ofDays days).year ∧ (ofDays days).year ≤ 10000 := by
  have same := Gregorian.toDays_ofDays days
  obtain ⟨dayNonneg, dayLe, _, _⟩ := Gregorian.marchDay_valid (Gregorian.ofDays_valid days)
  have march : Gregorian.marchYear (ofDays days) ≤ (ofDays days).year ∧
      (ofDays days).year ≤ Gregorian.marchYear (ofDays days) + 1 := by
    unfold Gregorian.marchYear
    split <;> omega
  unfold toDays Gregorian.leapDays at same
  omega

/-- FROM_UNIXTIME goes through days whose year is an `int`. -/
theorem fromUnixtimeDate_eq {seconds offsetMinutes : Int} {date : Date}
    (zoneLow : -840 ≤ offsetMinutes) (zoneHigh : offsetMinutes ≤ 840)
    (converted : UnixTimestamp.fromUnixtimeDate seconds offsetMinutes = some date) :
    date = ofDays ((seconds + offsetMinutes * 60) / 86400 + 719468) := by
  unfold UnixTimestamp.fromUnixtimeDate at converted
  split at converted
  · cases converted
  · rename_i range
    have bounds := ofDays_year_bounds
      (show 0 ≤ (seconds + offsetMinutes * 60) / 86400 + 719468 by omega) (by omega)
    rw [UnixTimestamp.floorDivideI64_eq _ (by omega : (0 : Int) < 86400),
      UnixTimestamp.civilFromDays_eq_ofDays (by omega) (by omega)] at converted
    exact (Option.some.inj converted).symm

/-- Every temporal function counts the days of the one Gregorian calendar, and the
two modules that turn days into dates undo their own count. -/
theorem one_calendar :
    (∀ start stop, InRange start → InRange stop → ∃ difference, DaysBetween start stop difference) ∧
    (∀ date, Valid date →
      DateIntervalSecond.datetimeFromDays (DateIntervalSecond.daysFromDatetime date) = date) ∧
    (∀ days, Valid (DateIntervalSecond.datetimeFromDays days)) ∧
    (∀ date, Valid date → -2147483648 ≤ date.year → date.year ≤ 2147483647 →
      UnixTimestamp.civilFromDays (UnixTimestamp.daysFromCivil date) = date) ∧
    (∀ days, -2147483648 ≤ (ofDays (days + 719468)).year →
      (ofDays (days + 719468)).year ≤ 2147483647 → Valid (UnixTimestamp.civilFromDays days)) ∧
    (∀ seconds offsetMinutes date, -840 ≤ offsetMinutes → offsetMinutes ≤ 840 →
      UnixTimestamp.fromUnixtimeDate seconds offsetMinutes = some date → Valid date) := by
  have undone : ∀ date : Date, toDays date - 719468 + 719468 = toDays date := by
    intro date
    omega
  refine ⟨?_, ?_, ?_, ?_, ?_, ?_⟩
  · intro start stop started stopped
    exact ⟨_, daysBetween started stopped⟩
  · intro date valid
    rw [DateIntervalSecond.datetimeFromDays_eq, DateIntervalSecond.daysFromDatetime_eq, undone]
    exact Gregorian.ofDays_toDays valid
  · intro days
    rw [DateIntervalSecond.datetimeFromDays_eq]
    exact Gregorian.ofDays_valid _
  · intro date valid low high
    have same := Gregorian.ofDays_toDays valid
    rw [UnixTimestamp.daysFromCivil_eq, UnixTimestamp.civilFromDays_eq_ofDays, undone, same]
    · rw [undone, same]
      exact low
    · rw [undone, same]
      exact high
  · intro days low high
    rw [UnixTimestamp.civilFromDays_eq_ofDays low high]
    exact Gregorian.ofDays_valid _
  · intro seconds offsetMinutes date zoneLow zoneHigh converted
    rw [fromUnixtimeDate_eq zoneLow zoneHigh converted]
    exact Gregorian.ofDays_valid _

def leapDay : Date := { year := 2000, month := 2, day := 29 }

def newYear : Date := { year := 2100, month := 1, day := 1 }

theorem leapDay_inRange : InRange leapDay := by
  refine ⟨⟨by decide, by decide, by decide, by decide⟩, by decide, by decide⟩

theorem newYear_inRange : InRange newYear := by
  refine ⟨⟨by decide, by decide, by decide, by decide⟩, by decide, by decide⟩

theorem one_calendar_leapDay :
    Datediff.datediffValueResult newYear leapDay = some 36466 ∧
    (∃ difference, DaysBetween leapDay newYear difference) ∧
    UnixTimestamp.civilFromDays (UnixTimestamp.daysFromCivil leapDay) = leapDay ∧
    Valid (UnixTimestamp.civilFromDays 0) := by
  obtain ⟨between, _, _, civil, valid, _⟩ := one_calendar
  refine ⟨by decide +kernel, between _ _ leapDay_inRange newYear_inRange,
    civil _ leapDay_inRange.valid (by decide) (by decide), valid 0 (by decide +kernel)
      (by decide +kernel)⟩

end MyLite.Temporal
