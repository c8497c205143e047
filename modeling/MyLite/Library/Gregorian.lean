import Mathlib.Tactic.IntervalCases
import Mathlib.Tactic.Common

/-! The Gregorian calendar without end in either direction, counted in days from
the first of March of the year 0. A year that starts in March has its leap day
last, so that months and years are recovered from a day by division. -/

namespace Gregorian

structure Date where
  year : Int
  month : Int
  day : Int
  deriving DecidableEq, Repr

def IsLeap (year : Int) : Prop :=
  year % 4 = 0 ∧ year % 100 ≠ 0 ∨ year % 400 = 0

instance (year : Int) : Decidable (IsLeap year) := by
  unfold IsLeap
  infer_instance

def daysInMonth (year month : Int) : Int :=
  if month = 2 then if IsLeap year then 29 else 28
  else if month = 4 ∨ month = 6 ∨ month = 9 ∨ month = 11 then 30
  else 31

structure Valid (date : Date) : Prop where
  monthPos : 1 ≤ date.month
  monthLe : date.month ≤ 12
  dayPos : 1 ≤ date.day
  dayLe : date.day ≤ daysInMonth date.year date.month

/-- The year of a date when years start in March. -/
def marchYear (date : Date) : Int :=
  if date.month ≤ 2 then date.year - 1 else date.year

/-- The month of a date, from 0, when years start in March. -/
def marchMonth (date : Date) : Int :=
  if date.month ≤ 2 then date.month + 9 else date.month - 3

/-- The day of a date in its March year, from 0. -/
def marchDay (date : Date) : Int :=
  (153 * marchMonth date + 2) / 5 + date.day - 1

/-- The leap days before a March year. -/
def leapDays (year : Int) : Int := year / 4 - year / 100 + year / 400

def toDays (date : Date) : Int :=
  365 * marchYear date + leapDays (marchYear date) + marchDay date

/-! Years are counted in eras of 400, an era in its days. -/

def daysOfEra (yearOfEra dayOfYear : Int) : Int :=
  365 * yearOfEra + yearOfEra / 4 - yearOfEra / 100 + dayOfYear

def yearOfEra (dayOfEra : Int) : Int :=
  (dayOfEra - dayOfEra / 1460 + dayOfEra / 36524 - dayOfEra / 146096) / 365

/-- A day of a March year; the 366th exists where the next year is a leap year. -/
structure DayOfYear (yearOfEra dayOfYear : Int) : Prop where
  yearNonneg : 0 ≤ yearOfEra
  yearLt : yearOfEra < 400
  dayNonneg : 0 ≤ dayOfYear
  dayLe : dayOfYear ≤ 365
  last : dayOfYear = 365 → IsLeap (yearOfEra + 1)

theorem century_of_day (century day : Int) (centuryNonneg : 0 ≤ century)
    (centuryLe : century ≤ 3) (dayNonneg : 0 ≤ day) (dayLe : day ≤ 36524)
    (last : day = 36524 → century = 3) :
    (36524 * century + day) / 36524 - (36524 * century + day) / 146096 = century := by
  interval_cases century <;> omega

theorem quadrennium_of_day (century quadrennium day : Int) :
    (36524 * century + 1461 * quadrennium + day) / 1460 =
      25 * century + quadrennium + (24 * century + quadrennium + day) / 1460 := by
  have split : 36524 * century + 1461 * quadrennium + day =
      (24 * century + quadrennium + day) + 1460 * (25 * century + quadrennium) := by omega
  rw [split, Int.add_mul_ediv_left _ _ (by omega)]
  omega

/-- A year of an era as a century, a quadrennium in it and a year in that. -/
structure YearParts (century quadrennium year : Int) : Prop where
  centuryNonneg : 0 ≤ century
  centuryLe : century ≤ 3
  quadrenniumNonneg : 0 ≤ quadrennium
  quadrenniumLe : quadrennium ≤ 24
  yearNonneg : 0 ≤ year
  yearLe : year ≤ 3

theorem yearParts {year : Int} (yearNonneg : 0 ≤ year) (yearLt : year < 400) :
    YearParts (year / 100) (year % 100 / 4) (year % 4) := by
  constructor <;> omega

variable {century quadrennium year day : Int}

theorem YearParts.daysOfEra (parts : YearParts century quadrennium year) (day : Int) :
    daysOfEra (100 * century + 4 * quadrennium + year) day =
      36524 * century + 1461 * quadrennium + (365 * year + day) := by
  obtain ⟨_, _, _, _, _, _⟩ := parts
  have quarters : (100 * century + 4 * quadrennium + year) / 4 = 25 * century + quadrennium := by
    omega
  have centuries : (100 * century + 4 * quadrennium + year) / 100 = century := by omega
  unfold Gregorian.daysOfEra
  rw [quarters, centuries]
  omega

theorem YearParts.yearOfEra (parts : YearParts century quadrennium year)
    (dayNonneg : 0 ≤ day) (dayLe : day ≤ 365)
    (last : day = 365 → year = 3 ∧ (quadrennium = 24 → century = 3)) :
    yearOfEra (36524 * century + 1461 * quadrennium + (365 * year + day)) =
      100 * century + 4 * quadrennium + year := by
  obtain ⟨centuryNonneg, centuryLe, _, _, _, _⟩ := parts
  have centuries := century_of_day century (1461 * quadrennium + (365 * year + day))
    centuryNonneg centuryLe (by omega) (by omega) (by omega)
  have quadrennia := quadrennium_of_day century quadrennium (365 * year + day)
  rw [← Int.add_assoc] at centuries
  unfold Gregorian.yearOfEra
  -- The quotient is one too large only near the end of a fourth year.
  have carry : (24 * century + quadrennium + (365 * year + day)) / 1460 = 0 ∨
      (24 * century + quadrennium + (365 * year + day)) / 1460 = 1 ∧ 0 < day := by omega
  have short : day = 365 →
      (24 * century + quadrennium + (365 * year + day)) / 1460 = 1 := by omega
  generalize (24 * century + quadrennium + (365 * year + day)) / 1460 = excess at *
  rw [Int.add_sub_assoc, centuries, quadrennia]
  omega

theorem DayOfYear.yearOfEra (valid : DayOfYear year day) :
    yearOfEra (daysOfEra year day) = year := by
  obtain ⟨yearNonneg, yearLt, dayNonneg, dayLe, last⟩ := valid
  have parts := yearParts yearNonneg yearLt
  have whole : 100 * (year / 100) + 4 * (year % 100 / 4) + year % 4 = year := by omega
  have found := parts.yearOfEra dayNonneg dayLe (by
    intro full
    have leap := last full
    unfold IsLeap at leap
    omega)
  rw [← parts.daysOfEra, whole] at found
  exact found

/-- Every day of an era is a day of one of its years. -/
theorem exists_dayOfYear (dayNonneg : 0 ≤ day) (dayLt : day < 146097) :
    ∃ year dayOfYear, DayOfYear year dayOfYear ∧ daysOfEra year dayOfYear = day := by
  by_cases last : day = 146096
  · refine ⟨399, 365, ⟨by omega, by omega, by omega, by omega, ?_⟩, by rw [last]; rfl⟩
    intro _
    decide
  · have centuryLe : day / 36524 ≤ 3 := by omega
    have quadrenniumLe : day % 36524 / 1461 ≤ 24 := by omega
    by_cases leap : day % 36524 % 1461 = 1460
    · have parts : YearParts (day / 36524) (day % 36524 / 1461) 3 := by
        constructor <;> omega
      refine ⟨100 * (day / 36524) + 4 * (day % 36524 / 1461) + 3, 365,
        ⟨by omega, by omega, by omega, by omega, ?_⟩, ?_⟩
      · intro _
        unfold IsLeap
        omega
      · rw [parts.daysOfEra]
        omega
    · have yearLe : day % 36524 % 1461 / 365 ≤ 3 := by omega
      have parts : YearParts (day / 36524) (day % 36524 / 1461) (day % 36524 % 1461 / 365) := by
        constructor <;> omega
      refine ⟨100 * (day / 36524) + 4 * (day % 36524 / 1461) + day % 36524 % 1461 / 365,
        day % 36524 % 1461 % 365, ⟨by omega, by omega, by omega, by omega, ?_⟩, ?_⟩
      · intro full
        omega
      · rw [parts.daysOfEra]
        omega

/-- The day of the year that is left of a day of an era. -/
theorem dayOfYear_bounds (dayNonneg : 0 ≤ day) (dayLt : day < 146097) :
    0 ≤ day - daysOfEra (yearOfEra day) 0 ∧ day - daysOfEra (yearOfEra day) 0 ≤ 365 := by
  obtain ⟨year, dayOfYear, valid, rfl⟩ := exists_dayOfYear dayNonneg dayLt
  have left : daysOfEra year dayOfYear - daysOfEra year 0 = dayOfYear := by
    unfold daysOfEra
    omega
  rw [valid.yearOfEra, left]
  exact ⟨valid.dayNonneg, valid.dayLe⟩

/-! A day of the count: its era, its year, its month. -/

def ofMarch (year dayOfYear : Int) : Date :=
  let month := (5 * dayOfYear + 2) / 153
  { year := if month < 10 then year else year + 1
    month := if month < 10 then month + 3 else month - 9
    day := dayOfYear - (153 * month + 2) / 5 + 1 }

def ofDays (days : Int) : Date :=
  let dayOfEra := days % 146097
  let year := yearOfEra dayOfEra
  ofMarch (400 * (days / 146097) + year) (dayOfEra - daysOfEra year 0)

theorem leapDays_era (era year : Int) : leapDays (400 * era + year) =
    97 * era + leapDays year := by
  unfold leapDays
  omega

theorem isLeap_era (era year : Int) : IsLeap (400 * era + year) ↔ IsLeap year := by
  unfold IsLeap
  omega

/-- A month of a March year and its days. -/
theorem marchDay_valid {date : Date} (valid : Valid date) :
    0 ≤ marchDay date ∧ marchDay date ≤ 365 ∧
      (marchDay date = 365 → IsLeap (marchYear date + 1)) ∧
      (5 * marchDay date + 2) / 153 = marchMonth date := by
  obtain ⟨year, month, day⟩ := date
  obtain ⟨monthPos, monthLe, dayPos, dayLe⟩ := valid
  dsimp only at *
  unfold marchDay marchMonth marchYear
  dsimp only
  by_cases leap : IsLeap year
  all_goals
    interval_cases month <;>
      simp [daysInMonth, leap] at dayLe ⊢ <;> omega

theorem ofMarch_spec {dayOfYear : Int} (dayNonneg : 0 ≤ dayOfYear) (dayLe : dayOfYear ≤ 365)
    (last : dayOfYear = 365 → IsLeap (year + 1)) :
    Valid (ofMarch year dayOfYear) ∧ marchYear (ofMarch year dayOfYear) = year ∧
      marchDay (ofMarch year dayOfYear) = dayOfYear := by
  have monthLe : (5 * dayOfYear + 2) / 153 ≤ 11 := by omega
  have monthNonneg : 0 ≤ (5 * dayOfYear + 2) / 153 := by omega
  unfold ofMarch marchDay marchMonth marchYear
  dsimp only
  generalize found : (5 * dayOfYear + 2) / 153 = month at *
  refine ⟨⟨?_, ?_, ?_, ?_⟩, ?_, ?_⟩
  · dsimp only
    split <;> omega
  · dsimp only
    split <;> omega
  · dsimp only
    omega
  · dsimp only
    by_cases leap : IsLeap (year + 1)
    all_goals
      interval_cases month <;> simp [daysInMonth, leap] at last ⊢ <;> omega
  · split <;> split <;> omega
  · split <;> split <;> omega

theorem toDays_march (era : Int) {date : Date} {dayOfYear : Int}
    (inYear : marchYear date = 400 * era + year) (onDay : marchDay date = dayOfYear)
    (valid : DayOfYear year dayOfYear) :
    toDays date = 146097 * era + daysOfEra year dayOfYear := by
  obtain ⟨yearNonneg, yearLt, _, _, _⟩ := valid
  have quads : year / 400 = 0 := by omega
  unfold toDays
  rw [inYear, onDay, leapDays_era]
  unfold daysOfEra leapDays
  omega

theorem daysOfEra_bounds (valid : DayOfYear year day) :
    0 ≤ daysOfEra year day ∧ daysOfEra year day < 146097 := by
  obtain ⟨yearNonneg, yearLt, dayNonneg, dayLe, last⟩ := valid
  have parts := yearParts yearNonneg yearLt
  have whole : 100 * (year / 100) + 4 * (year % 100 / 4) + year % 4 = year := by omega
  have days := parts.daysOfEra day
  rw [whole] at days
  obtain ⟨_, _, _, _, _, _⟩ := parts
  omega

/-- What a count of days is taken apart into. -/
theorem ofDays_spec (era : Int) {dayOfYear : Int} (valid : DayOfYear year dayOfYear) :
    ofDays (146097 * era + daysOfEra year dayOfYear) = ofMarch (400 * era + year) dayOfYear := by
  obtain ⟨nonneg, lt⟩ := daysOfEra_bounds valid
  have dayOfEra : (146097 * era + daysOfEra year dayOfYear) % 146097 =
      daysOfEra year dayOfYear := by omega
  have whole : (146097 * era + daysOfEra year dayOfYear) / 146097 = era := by omega
  unfold ofDays
  dsimp only
  rw [dayOfEra, whole, valid.yearOfEra]
  congr 1
  unfold daysOfEra
  omega

theorem ofDays_decompose (days : Int) : ∃ era year dayOfYear, DayOfYear year dayOfYear ∧
    days = 146097 * era + daysOfEra year dayOfYear := by
  obtain ⟨year, dayOfYear, valid, same⟩ :=
    exists_dayOfYear (by omega : 0 ≤ days % 146097) (by omega)
  refine ⟨days / 146097, year, dayOfYear, valid, ?_⟩
  rw [same]
  omega

theorem ofDays_valid (days : Int) : Valid (ofDays days) := by
  obtain ⟨era, year, dayOfYear, valid, rfl⟩ := ofDays_decompose days
  rw [ofDays_spec era valid]
  refine (ofMarch_spec valid.dayNonneg valid.dayLe ?_).1
  intro full
  rw [Int.add_assoc]
  exact (isLeap_era era (year + 1)).mpr (valid.last full)

theorem toDays_ofDays (days : Int) : toDays (ofDays days) = days := by
  obtain ⟨era, year, dayOfYear, valid, rfl⟩ := ofDays_decompose days
  rw [ofDays_spec era valid]
  obtain ⟨_, inYear, onDay⟩ := ofMarch_spec valid.dayNonneg valid.dayLe
    (by
      intro full
      rw [Int.add_assoc]
      exact (isLeap_era era (year + 1)).mpr (valid.last full))
  exact toDays_march era inYear onDay valid

theorem ofDays_toDays {date : Date} (valid : Valid date) : ofDays (toDays date) = date := by
  obtain ⟨dayNonneg, dayLe, last, month⟩ := marchDay_valid valid
  have inYear : marchYear date = 400 * (marchYear date / 400) + marchYear date % 400 := by omega
  have within : DayOfYear (marchYear date % 400) (marchDay date) := by
    refine ⟨by omega, by omega, dayNonneg, dayLe, ?_⟩
    intro full
    have leap := last full
    rw [inYear, Int.add_assoc] at leap
    exact (isLeap_era _ _).mp leap
  rw [toDays_march _ inYear rfl within, ofDays_spec _ within, ← inYear]
  obtain ⟨year, monthOf, day⟩ := date
  unfold ofMarch
  dsimp only
  rw [month]
  have := valid.monthPos
  have := valid.monthLe
  unfold marchMonth marchYear marchDay marchMonth
  dsimp only at *
  simp only [Date.mk.injEq]
  refine ⟨?_, ?_, ?_⟩
  · split <;> split <;> omega
  · split <;> split <;> omega
  · split <;> omega

/-! The days of the calendar in the order of its dates: the months follow each other without
gaps. -/

/-- One more leap day is behind where a leap year is. -/
theorem leapDays_succ (year : Int) : leapDays year =
    leapDays (year - 1) + if IsLeap year then 1 else 0 := by
  have quarters : year / 4 = (year - 1) / 4 + if year % 4 = 0 then 1 else 0 := by
    split <;> omega
  have centuries : year / 100 = (year - 1) / 100 + if year % 100 = 0 then 1 else 0 := by
    split <;> omega
  have eras : year / 400 = (year - 1) / 400 + if year % 400 = 0 then 1 else 0 := by
    split <;> omega
  unfold leapDays IsLeap
  rw [quarters, centuries, eras]
  have implied : year % 100 = 0 → year % 4 = 0 := by omega
  have implied' : year % 400 = 0 → year % 100 = 0 := by omega
  by_cases four : year % 4 = 0 <;> by_cases hundred : year % 100 = 0 <;>
    by_cases fourHundred : year % 400 = 0 <;> simp_all <;> omega

/-- The months from the first month of the year 0 on. -/
def monthIndex (date : Date) : Int := date.year * 12 + (date.month - 1)

/-- The first day of a month. -/
def monthStart (index : Int) : Int :=
  toDays { year := index / 12, month := index % 12 + 1, day := 1 }

def daysInMonthAt (index : Int) : Int := daysInMonth (index / 12) (index % 12 + 1)

/-- A date comes before another. -/
def Precedes (first second : Date) : Prop :=
  monthIndex first < monthIndex second ∨
    monthIndex first = monthIndex second ∧ first.day < second.day

variable {date first second : Date}

theorem monthIndex_div (valid : Valid date) : monthIndex date / 12 = date.year := by
  obtain ⟨monthPos, monthLe, _, _⟩ := valid
  rw [monthIndex]
  omega

theorem monthIndex_mod (valid : Valid date) : monthIndex date % 12 + 1 = date.month := by
  obtain ⟨monthPos, monthLe, _, _⟩ := valid
  rw [monthIndex]
  omega

theorem toDays_eq_monthStart (valid : Valid date) :
    toDays date = monthStart (monthIndex date) + (date.day - 1) := by
  rw [monthStart, monthIndex_div valid, monthIndex_mod valid]
  unfold toDays marchDay marchYear marchMonth
  dsimp only
  omega

/-- The next month starts where a month ends. -/
theorem monthStart_succ (index : Int) :
    monthStart (index + 1) = monthStart index + daysInMonthAt index := by
  obtain ⟨year, month, low, high, rfl⟩ : ∃ year month : Int, 0 ≤ month ∧ month ≤ 11 ∧
      index = 12 * year + month := ⟨index / 12, index % 12, by omega, by omega, by omega⟩
  have leapDays := leapDays_succ year
  have thisYear : (12 * year + month) / 12 = year := by omega
  have thisMonth : (12 * year + month) % 12 = month := by omega
  rw [daysInMonthAt, monthStart, monthStart, thisYear, thisMonth]
  by_cases last : month = 11
  · subst last
    rw [show (12 * year + 11 + 1) / 12 = year + 1 by omega,
      show (12 * year + 11 + 1) % 12 = 0 by omega]
    simp [toDays, marchDay, marchYear, marchMonth, daysInMonth]
    omega
  · rw [show (12 * year + month + 1) / 12 = year by omega,
      show (12 * year + month + 1) % 12 = month + 1 by omega]
    by_cases leap : IsLeap year
    all_goals
      simp only [leap, if_true, if_false] at leapDays
      interval_cases month <;>
        simp [toDays, marchDay, marchYear, marchMonth, daysInMonth, leap] <;> omega

theorem daysInMonth_pos (year month : Int) : 28 ≤ daysInMonth year month := by
  rw [daysInMonth]
  split
  · split <;> omega
  · split <;> omega

theorem monthStart_lt {before after : Int} (less : before < after) :
    monthStart before + daysInMonthAt before ≤ monthStart after := by
  induction after, less using Int.leInduction with
  | base => exact (monthStart_succ before).ge
  | succ after _ ih =>
    have next := monthStart_succ after
    have days := daysInMonth_pos (after / 12) (after % 12 + 1)
    change 28 ≤ daysInMonthAt after at days
    omega

theorem day_le (valid : Valid date) : date.day ≤ daysInMonthAt (monthIndex date) := by
  rw [daysInMonthAt, monthIndex_div valid, monthIndex_mod valid]
  exact valid.dayLe

/-- Days count dates in their order. -/
theorem toDays_lt_iff (firstValid : Valid first) (secondValid : Valid second) :
    toDays first < toDays second ↔ Precedes first second := by
  have firstDay := day_le firstValid
  have secondDay := day_le secondValid
  have firstPos := firstValid.dayPos
  have secondPos := secondValid.dayPos
  rw [toDays_eq_monthStart firstValid, toDays_eq_monthStart secondValid, Precedes]
  rcases Int.lt_trichotomy (monthIndex first) (monthIndex second) with less | same | greater
  · have gap := monthStart_lt less
    omega
  · rw [same]
    omega
  · have gap := monthStart_lt greater
    omega

/-- The first of January of a year. -/
def januaryFirst (year : Int) : Date := { year := year, month := 1, day := 1 }

theorem januaryFirst_valid (year : Int) : Valid (januaryFirst year) := by
  have days := daysInMonth_pos year 1
  constructor <;> dsimp only [januaryFirst] <;> omega

/-- The days of a date's year. -/
theorem toDays_in_year (valid : Valid date) :
    toDays (januaryFirst date.year) ≤ toDays date ∧
      toDays date < toDays (januaryFirst (date.year + 1)) := by
  have startIndex : monthIndex (januaryFirst date.year) = date.year * 12 := by
    dsimp only [monthIndex, januaryFirst]
    omega
  have endIndex : monthIndex (januaryFirst (date.year + 1)) = (date.year + 1) * 12 := by
    dsimp only [monthIndex, januaryFirst]
    omega
  have index : monthIndex date = date.year * 12 + (date.month - 1) := rfl
  obtain ⟨monthPos, monthLe, dayPos, _⟩ := id valid
  constructor
  · by_contra less
    have precedes := (toDays_lt_iff valid (januaryFirst_valid date.year)).mp (by omega)
    rw [Precedes, startIndex, index] at precedes
    dsimp only [januaryFirst] at precedes
    omega
  · apply (toDays_lt_iff valid (januaryFirst_valid (date.year + 1))).mpr
    rw [Precedes, endIndex, index]
    omega

end Gregorian
