import MyLite.Temporal.DateInterval
import MyLite.Temporal.DateIntervalExact

/-! No operation of DATE_ADD overflows or wraps: the checked functions do what the functions
over the integers do. -/

namespace MyLite.Temporal.DateInterval

open Checked (Stop accept int32 int64 uint32 int32_eq int64_eq uint32_eq ok_bind)
open DateIntervalSecond (Accepted FitsInt64 fitsInt64_iff int64Max int64Min yearInRange)
open Gregorian (Date monthIndex)

variable {input : Datetime} {date : Date} {left right interval : Int}

theorem checkedAdd_eq (leftFits : FitsInt64 left) (rightFits : FitsInt64 right) :
    checkedAdd left right = accept (DateIntervalSecond.checkedAdd left right) := by
  rw [DateIntervalSecond.checkedAdd_exact leftFits rightFits]
  rw [fitsInt64_iff] at leftFits rightFits
  have room : (if right > 0 then do
        let room ← int64 (int64Max - right)
        pure (decide (left > room))
      else if right < 0 then do
        let room ← int64 (int64Min - right)
        pure (decide (left < room))
      else pure false : Except Stop Bool) = .ok (decide (¬ FitsInt64 (left + right))) := by
    unfold int64Max int64Min
    split
    · rw [int64_eq (by omega) (by omega), ok_bind]
      refine congrArg Except.ok (decide_eq_decide.mpr ?_)
      rw [fitsInt64_iff]
      omega
    · split
      · rw [int64_eq (by omega) (by omega), ok_bind]
        refine congrArg Except.ok (decide_eq_decide.mpr ?_)
        rw [fitsInt64_iff]
        omega
      · refine congrArg Except.ok (decide_eq_false ?_).symm
        rw [fitsInt64_iff]
        omega
  rw [checkedAdd, room, ok_bind]
  by_cases sumFits : FitsInt64 (left + right)
  · rw [if_pos sumFits, if_neg (by simpa using sumFits)]
    exact int64_eq sumFits.1 sumFits.2
  · rw [if_neg sumFits, if_pos (by simpa using sumFits)]
    rfl

theorem checkedMultiply_eq (positive : 0 < right) :
    checkedMultiply left right = accept (DateIntervalSecond.checkedMultiply left right) := by
  have exact := @DateIntervalSecond.checkedMultiply_exact left right positive
  rw [checkedMultiply]
  rw [DateIntervalSecond.checkedMultiply] at exact ⊢
  split
  · rfl
  · rename_i taken
    rw [if_neg taken] at exact
    split at exact
    · rename_i fits
      exact int64_eq fits.1 fits.2
    · cases exact

theorem daysFromDatetime_eq (range : InRange date) :
    daysFromDatetime date = .ok (DateIntervalSecond.daysFromDatetime date) := by
  obtain ⟨valid, yearLow, yearHigh⟩ := range
  obtain ⟨monthPos, monthLe, dayPos, dayLe⟩ := valid
  have short := daysInMonth_le date.year date.month
  have shift : (if date.month ≤ 2 then (1 : Int) else 0) = 0 ∨
      (if date.month ≤ 2 then (1 : Int) else 0) = 1 := by
    split <;> simp
  unfold daysFromDatetime DateIntervalSecond.daysFromDatetime
  dsimp only
  generalize (if date.month ≤ 2 then (1 : Int) else 0) = before at *
  have nonneg : date.year - before ≥ 0 := by omega
  rw [int64_eq (by omega) (by omega), ok_bind, if_pos nonneg, pure_bind, if_pos nonneg,
    Int.tdiv_eq_ediv_of_nonneg nonneg]
  have month : (if date.month > 2 then int32 (date.month - 3) else int32 (date.month + 9)) =
      .ok (if date.month > 2 then date.month - 3 else date.month + 9) := by
    split
    · exact int32_eq (by omega) (by omega)
    · exact int32_eq (by omega) (by omega)
  have monthBounds : 0 ≤ (if date.month > 2 then date.month - 3 else date.month + 9) ∧
      (if date.month > 2 then date.month - 3 else date.month + 9) ≤ 11 := by
    split <;> omega
  rw [month]
  generalize (if date.month > 2 then date.month - 3 else date.month + 9) = monthPrime at *
  simp (disch := omega) only [int64_eq, uint32_eq, ok_bind]

theorem datetimeFromDays_eq {days : Int} (low : -200000000000000 ≤ days)
    (high : days ≤ 200000000000000) :
    datetimeFromDays days = .ok (DateIntervalSecond.datetimeFromDays days) := by
  have bounds := Gregorian.dayOfYear_bounds (by omega : 0 ≤ (days + 719468) % 146097) (by omega)
  unfold Gregorian.daysOfEra Gregorian.yearOfEra at bounds
  have eraSame := tdiv_era (days + 719468) (by omega : (0 : Int) < 146097)
    (show (146096 : Int) + 1 = 146097 by omega)
  have reached : (if days + 719468 ≥ 0 then pure (days + 719468)
      else int64 (days + 719468 - 146096) : Except Stop Int) =
      .ok (if days + 719468 ≥ 0 then days + 719468 else days + 719468 - 146096) := by
    split
    · rfl
    · exact int64_eq (by omega) (by omega)
  unfold datetimeFromDays DateIntervalSecond.datetimeFromDays
  dsimp only
  rw [int64_eq (by omega) (by omega), ok_bind, reached, ok_bind, eraSame]
  have remainder : days + 719468 - (days + 719468) / 146097 * 146097 =
      (days + 719468) % 146097 := by omega
  have dayOfEraBounds : 0 ≤ (days + 719468) % 146097 ∧ (days + 719468) % 146097 < 146097 := by
    omega
  have eraBounds : -2000000000 ≤ (days + 719468) / 146097 ∧
      (days + 719468) / 146097 ≤ 2000000000 := by omega
  rw [int64_eq (by omega) (by omega), ok_bind, int64_eq (by omega) (by omega), ok_bind, remainder]
  generalize (days + 719468) % 146097 = dayOfEra at *
  generalize (days + 719468) / 146097 = era at *
  rw [uint32_eq (by omega) (by omega), ok_bind]
  obtain ⟨_, _, _, _, _, _, _⟩ := eraParts dayOfEraBounds.1 dayOfEraBounds.2
  generalize dayOfEra / 1460 = quads at *
  generalize dayOfEra / 36524 = centuries at *
  generalize dayOfEra / 146096 = eras at *
  rw [uint32_eq (by omega) (by omega), ok_bind]
  rw [uint32_eq (by omega) (by omega), ok_bind]
  rw [uint32_eq (by omega) (by omega), ok_bind]
  generalize (dayOfEra - quads + centuries - eras) / 365 = yearOfEra at *
  simp only [Int.add_zero] at bounds
  clear remainder eraSame reached low high
  obtain ⟨_, _, _, _⟩ := leapDays_bounds ‹0 ≤ yearOfEra› ‹yearOfEra ≤ 400›
  generalize yearOfEra / 4 = yearQuads at *
  generalize yearOfEra / 100 = yearCenturies at *
  rw [int64_eq (by omega) (by omega), ok_bind, int64_eq (by omega) (by omega), ok_bind,
    uint32_eq (by omega) (by omega), ok_bind, uint32_eq (by omega) (by omega), ok_bind,
    uint32_eq (by omega) (by omega), ok_bind, uint32_eq (by omega) (by omega), ok_bind]
  generalize dayOfEra - (365 * yearOfEra + yearQuads - yearCenturies) = dayOfYear at *
  obtain ⟨_, _, _, _⟩ := monthPrime_bounds bounds.1 bounds.2
  rw [uint32_eq (by omega) (by omega), ok_bind, uint32_eq (by omega) (by omega), ok_bind]
  generalize (5 * dayOfYear + 2) / 153 = monthPrime at *
  rw [uint32_eq (by omega) (by omega), ok_bind, uint32_eq (by omega) (by omega), ok_bind]
  generalize (153 * monthPrime + 2) / 5 = monthStart at *
  rw [uint32_eq (by omega) (by omega), ok_bind, uint32_eq (by omega) (by omega), ok_bind,
    int32_eq (by omega) (by omega), ok_bind]
  have shifted : (if monthPrime < 10 then uint32 (monthPrime + 3) else uint32 (monthPrime - 9)) =
      .ok (if monthPrime < 10 then monthPrime + 3 else monthPrime - 9) := by
    split
    · exact uint32_eq (by omega) (by omega)
    · exact uint32_eq (by omega) (by omega)
  have monthBounds : 1 ≤ (if monthPrime < 10 then monthPrime + 3 else monthPrime - 9) ∧
      (if monthPrime < 10 then monthPrime + 3 else monthPrime - 9) ≤ 12 := by
    split <;> omega
  rw [shifted, ok_bind]
  generalize (if monthPrime < 10 then monthPrime + 3 else monthPrime - 9) = month at *
  rw [int32_eq (by omega) (by omega), ok_bind]
  have later : 0 ≤ (if month ≤ 2 then (1 : Int) else 0) ∧
      (if month ≤ 2 then (1 : Int) else 0) ≤ 1 := by
    split <;> omega
  rw [int64_eq (by omega) (by omega), ok_bind]
  rfl

theorem floorDivmod_eq {totalSeconds : Int} (fits : FitsInt64 totalSeconds) :
    floorDivmod totalSeconds = .ok (DateIntervalSecond.floorDivmod totalSeconds) := by
  rw [fitsInt64_iff] at fits
  have remainder : totalSeconds.tmod 86400 = totalSeconds - 86400 * totalSeconds.tdiv 86400 :=
    Int.tmod_def _ _
  have quotient := Int.tdiv_eq_ediv (a := totalSeconds) (b := 86400)
  have bounds : -106751991167301 ≤ totalSeconds.tdiv 86400 ∧
      totalSeconds.tdiv 86400 ≤ 106751991167301 ∧ -86400 < totalSeconds.tmod 86400 := by
    rw [remainder, quotient, show Int.sign 86400 = 1 from rfl]
    split <;> refine ⟨?_, ?_, ?_⟩ <;> omega
  rw [floorDivmod, DateIntervalSecond.floorDivmod]
  split
  · rw [int64_eq (by omega) (by omega), ok_bind, int64_eq (by omega) (by omega), ok_bind]
    rfl
  · rfl

theorem add_eq (accepted : Accepted input) (fits : FitsInt64 interval) :
    add input interval = accept (DateIntervalSecond.add input interval) := by
  obtain ⟨range, time⟩ := accepted
  obtain ⟨daysLow, daysHigh⟩ := toDays_bounds range
  have days := DateIntervalSecond.daysFromDatetime_eq input.date
  have timeValid := (timeIsValid_iff input).mpr time
  obtain ⟨hourLow, hourHigh, minuteLow, minuteHigh, secondLow, secondHigh⟩ := time
  rw [add, DateIntervalSecond.add, timeValid]
  simp only [Bool.not_true, Bool.false_eq_true, if_false]
  rw [daysFromDatetime_eq range, ok_bind]
  generalize DateIntervalSecond.daysFromDatetime input.date = base at *
  simp (disch := omega) only [int64_eq, ok_bind]
  have baseFits : FitsInt64
      (base * 86400 + (input.hour * 3600 + input.minute * 60 + input.second)) := by
    rw [fitsInt64_iff]
    omega
  rw [checkedAdd_eq baseFits fits, DateIntervalSecond.checkedAdd_exact baseFits fits]
  split
  · rename_i sumFits
    have floored := DateIntervalSecond.floorDivmod_eq
      (base * 86400 + (input.hour * 3600 + input.minute * 60 + input.second) + interval)
    rw [accept, ok_bind, floorDivmod_eq sumFits, ok_bind, floored, Option.bind_some, floored]
    rw [fitsInt64_iff] at sumFits
    generalize base * 86400 + (input.hour * 3600 + input.minute * 60 + input.second) + interval =
      total at *
    dsimp only
    rw [datetimeFromDays_eq (by omega) (by omega), ok_bind]
    split
    · rfl
    · simp (disch := omega) only [int32_eq, ok_bind]
      rfl
  · rfl

theorem addCalendarMonths_eq (accepted : Accepted input) (fits : FitsInt64 interval) :
    addCalendarMonths input interval =
      accept (DateIntervalSecond.addCalendarMonths input interval) := by
  obtain ⟨range, time⟩ := accepted
  obtain ⟨yearFits, monthFits, indexFits⟩ := DateIntervalSecond.monthIndex_fits range
  have timeValid := (timeIsValid_iff input).mpr time
  have index : input.date.year * 12 + (input.date.month - 1) = monthIndex input.date := rfl
  rw [addCalendarMonths, DateIntervalSecond.addCalendarMonths, timeValid]
  simp only [Bool.not_true, Bool.false_eq_true, if_false]
  rw [checkedMultiply_eq (by decide), DateIntervalSecond.checkedMultiply_exact (by decide),
    if_pos yearFits, accept, ok_bind, Option.bind_some, int64_eq monthFits.1 monthFits.2, ok_bind,
    checkedAdd_eq yearFits monthFits, DateIntervalSecond.checkedAdd_exact yearFits monthFits,
    index, if_pos indexFits, accept, ok_bind, Option.bind_some, checkedAdd_eq indexFits fits,
    DateIntervalSecond.checkedAdd_exact indexFits fits]
  split
  · rename_i sumFits
    rw [accept, ok_bind, Option.bind_some]
    rw [fitsInt64_iff] at sumFits
    generalize monthIndex input.date + interval = total at *
    obtain ⟨year, month⟩ := DateIntervalSecond.month_quotient total
    have indexLow : -12 < total.tmod 12 := by
      rw [Int.tmod_eq_emod]
      split <;> omega
    have yearLow : -1000000000000000000 ≤ total.tdiv 12 := by
      rw [Int.tdiv_eq_ediv, show Int.sign 12 = 1 from rfl]
      split <;> omega
    have machineMonth : (if total.tmod 12 < 0 then int64 (total.tmod 12 + 12)
        else pure (total.tmod 12) : Except Stop Int) = .ok (total % 12) := by
      rw [← month]
      split
      · exact int64_eq (by omega) (by omega)
      · rfl
    have machineYear : (if total.tmod 12 < 0 then int64 (total.tdiv 12 - 1)
        else pure (total.tdiv 12) : Except Stop Int) = .ok (total / 12) := by
      rw [← year]
      split
      · exact int64_eq (by omega) (by omega)
      · rfl
    rw [year, month, machineMonth, ok_bind, machineYear, ok_bind]
    split
    · rfl
    · rename_i years
      simp only [Bool.or_eq_true, decide_eq_true_eq, not_or, Int.not_lt] at years
      rw [int32_eq (by omega) (by omega), ok_bind, int32_eq (by omega) (by omega), ok_bind,
        int32_eq (by omega) (by omega), ok_bind]
      exact (Checked.accept_ite _ _).symm
  · rfl

theorem unitAdd_eq (accepted : Accepted input) (fits : FitsInt64 interval)
    (unit : DateIntervalSecond.Unit) :
    unitAdd input interval unit = accept (DateIntervalSecond.unitAdd input interval unit) := by
  have seconds : ∀ factor : Int, 0 < factor →
      (checkedMultiply interval factor >>= fun scaled => add input scaled) =
        accept ((DateIntervalSecond.checkedMultiply interval factor).bind
          (DateIntervalSecond.add input)) := by
    intro factor positive
    rw [checkedMultiply_eq positive, DateIntervalSecond.checkedMultiply_exact positive]
    split
    · rename_i scaledFits
      exact add_eq accepted scaledFits
    · rfl
  have months : ∀ factor : Int, 0 < factor →
      (checkedMultiply interval factor >>= fun scaled => addCalendarMonths input scaled) =
        accept ((DateIntervalSecond.checkedMultiply interval factor).bind
          (DateIntervalSecond.addCalendarMonths input)) := by
    intro factor positive
    rw [checkedMultiply_eq positive, DateIntervalSecond.checkedMultiply_exact positive]
    split
    · rename_i scaledFits
      exact addCalendarMonths_eq accepted scaledFits
    · rfl
  cases unit with
  | second => exact add_eq accepted fits
  | minute => exact seconds 60 (by decide)
  | hour => exact seconds 3600 (by decide)
  | day => exact seconds 86400 (by decide)
  | week => exact seconds 604800 (by decide)
  | month => exact addCalendarMonths_eq accepted fits
  | quarter => exact months 3 (by decide)
  | year => exact months 12 (by decide)
  | microsecond => rfl

end MyLite.Temporal.DateInterval
