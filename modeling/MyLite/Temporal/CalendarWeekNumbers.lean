import MyLite.Temporal.CalendarWeek

/-! The weeks of a year are numbered from its first week on, for every mode. -/

namespace MyLite.Temporal.TemporalExtract

open Gregorian (Date Precedes Valid januaryFirst toDays)
open UnixTimestamp (narrowToInt narrowToInt_eq)
open Weeks (Within Years)

variable {date : Date} {mode : Int}

theorem normalizedWeekMode_bounds (mode : Int) :
    0 ≤ normalizedWeekMode mode ∧ normalizedWeekMode mode ≤ 7 := by
  rw [normalizedWeekMode, Int.tmod_eq_emod]
  split <;> split <;> omega

theorem normalizedWeekMode_idem (mode : Int) :
    normalizedWeekMode (normalizedWeekMode mode) = normalizedWeekMode mode := by
  obtain ⟨low, high⟩ := normalizedWeekMode_bounds mode
  generalize normalizedWeekMode mode = normalized at *
  rw [normalizedWeekMode, Int.tmod_eq_emod_of_nonneg low]
  split <;> omega

/-- The day number of the first of January, in the source's count. -/
def newYearNumber (year : Int) : Int := calendarDayNumber (januaryFirst year)

theorem newYearNumber_eq (year : Int) : newYearNumber year =
    if year > 0 then
      year * 365 + ((year - 1) / 4 - (year - 1) / 100 + (year - 1) / 400) + 1
    else 1 := by
  rw [newYearNumber, calendarDayNumber, dayNumberBy, januaryFirst]
  dsimp only
  by_cases positive : year > 0
  · rw [if_pos positive, if_pos positive, if_neg (show ¬ year ≤ 0 by omega),
      Int.tdiv_eq_ediv_of_nonneg (by omega), Int.tdiv_eq_ediv_of_nonneg (by omega),
      Int.tdiv_eq_ediv_of_nonneg (by omega)]
    rfl
  · rw [if_neg positive, if_neg positive]
    rfl

/-- A year has 365 or 366 days, the year 0 of the source's count as well. -/
theorem newYearNumber_succ {year : Int} (known : 0 ≤ year) :
    newYearNumber year + 365 ≤ newYearNumber (year + 1) ∧
      newYearNumber (year + 1) ≤ newYearNumber year + 366 := by
  rw [newYearNumber_eq, newYearNumber_eq, if_pos (show year + 1 > 0 by omega)]
  split <;> constructor <;> omega

theorem newYearNumber_bounds {year : Int} (known : 0 ≤ year) (few : year ≤ 10000) :
    1 ≤ newYearNumber year ∧ newYearNumber year ≤ 3660000 := by
  rw [newYearNumber_eq]
  split <;> constructor <;> omega

/-- The day that starts the first week of a year, in the source's count. -/
def yearStart (mode year : Int) : Int :=
  Weeks.start (weekRemainder mode + 60) (newYearNumber year + (firstWeekDay mode - 1))

theorem weekRemainder_cases (mode : Int) : (startsOnMonday mode = true ∧ weekRemainder mode = 5) ∨
    (startsOnMonday mode = false ∧ weekRemainder mode = 4) := by
  rw [weekRemainder]
  cases startsOnMonday mode with
  | false => exact Or.inr ⟨rfl, rfl⟩
  | true => exact Or.inl ⟨rfl, rfl⟩

theorem firstWeekDay_cases (mode : Int) : firstWeekDay mode = 4 ∨ firstWeekDay mode = 7 := by
  rw [firstWeekDay]
  split
  · exact Or.inl rfl
  · exact Or.inr rfl

theorem years_yearStart (mode : Int) : Years (weekRemainder mode + 60) (yearStart mode) 0 := by
  constructor
  · intro year _
    exact Weeks.start_start _ _
  · intro year known
    have days := newYearNumber_succ known
    rw [yearStart, yearStart, Weeks.start, Weeks.start]
    omega
  · intro year known
    have days := newYearNumber_succ known
    rw [yearStart, yearStart, Weeks.start, Weeks.start]
    omega

theorem sundayBasedWeekday_eq {dayNumber : Int} (positive : 0 < dayNumber) :
    calendarSundayBasedWeekdayFromDayNumber dayNumber = (dayNumber - 1) % 7 := by
  rw [calendarSundayBasedWeekdayFromDayNumber, Int.tmod_eq_emod_of_nonneg (by omega),
    narrowToInt_eq (by omega) (by omega)]
  rw [if_neg (show ¬ dayNumber % 7 < 0 by omega)]
  split <;> omega

/-- The first day of the first week is found from the first of January. -/
theorem calendarWeekStartForYear_eq {year : Int} (known : 0 ≤ year) (few : year ≤ 10000)
    (mode : Int) : calendarWeekStartForYear year mode = yearStart mode year := by
  obtain ⟨low, high⟩ := newYearNumber_bounds known few
  have counted : calendarDayNumber { year := year, month := 1, day := 1 } = newYearNumber year :=
    rfl
  have firstDay : (if hasModeBit (normalizedWeekMode mode) 1 then (1 : Int) else 0) =
      weekRemainder mode - 4 := by
    rw [weekRemainder, startsOnMonday]
    split <;> rfl
  have remainder : weekRemainder mode = 5 ∨ weekRemainder mode = 4 := by
    rcases weekRemainder_cases mode with monday | sunday
    · exact Or.inl monday.2
    · exact Or.inr sunday.2
  rw [calendarWeekStartForYear, yearStart, Weeks.start, firstWeekDay]
  rw [counted, firstDay, sundayBasedWeekday_eq (by omega)]
  generalize newYearNumber year = number at *
  generalize weekRemainder mode = first at *
  rw [Int.tmod_eq_emod_of_nonneg (show 0 ≤ (number - 1) % 7 - (first - 4) + 7 by omega),
    Int.tmod_eq_emod_of_nonneg (show 0 ≤ (first - 4) - (number - 1) % 7 + 7 by omega)]
  split
  · split
    · rw [narrowToInt_eq (by omega) (by omega)]
      omega
    · rw [narrowToInt_eq (by omega) (by omega)]
      omega
  · rw [narrowToInt_eq (by omega) (by omega)]
    omega

/-- The day number of a date, which lies in the days of its year. -/
theorem CalendarDate.number (known : CalendarDate date) :
    calendarDayNumber date = toDays date + 60 ∧ newYearNumber date.year ≤ toDays date + 60 ∧
      toDays date + 60 < newYearNumber (date.year + 1) := by
  obtain ⟨checked, yearLow, yearHigh⟩ := known
  have rule : ∀ {year : Int}, 1 ≤ year →
      (calendarIsLeapYear year = true ↔ Gregorian.IsLeap year) := fun low =>
    leapRule_except_zero low
  have valid := (dateIsValidBy_iff (rule yearLow)).mp checked
  obtain ⟨reached, before⟩ := Gregorian.toDays_in_year valid
  have number : ∀ {year : Int}, 1 ≤ year →
      newYearNumber year = toDays (januaryFirst year) + 60 := fun low =>
    dayNumberBy_eq (rule low) low (Gregorian.januaryFirst_valid _)
  refine ⟨dayNumberBy_eq (rule yearLow) yearLow valid, ?_, ?_⟩
  · rw [number yearLow]
    omega
  · rw [number (by omega)]
    omega

theorem CalendarDate.isValid (known : CalendarDate date) : Valid date :=
  (dateIsValidBy_iff (leapRule_except_zero known.yearLow)).mp known.valid

theorem yearStart_near (mode year : Int) :
    newYearNumber year - 6 ≤ yearStart mode year ∧
      yearStart mode year ≤ newYearNumber year + 6 := by
  have near := Weeks.start_le (weekRemainder mode + 60)
    (newYearNumber year + (firstWeekDay mode - 1))
  have day := firstWeekDay_cases mode
  change yearStart mode year ≤ _ ∧ _ < yearStart mode year + 7 at near
  constructor <;> omega

theorem calendarWeekStartForYear_normalized {year : Int} (known : 0 ≤ year) (few : year ≤ 10000)
    (mode : Int) :
    calendarWeekStartForYear year (normalizedWeekMode mode) = yearStart mode year := by
  rw [← calendarWeekStartForYear_eq known few mode, calendarWeekStartForYear,
    calendarWeekStartForYear, normalizedWeekMode_idem]

theorem weeksFrom_eq {weekStart dayNumber : Int} (reached : weekStart ≤ dayNumber)
    (near : dayNumber ≤ weekStart + 1000) :
    weeksFrom weekStart dayNumber = (dayNumber - weekStart) / 7 + 1 := by
  rw [weeksFrom, Int.tdiv_eq_ediv_of_nonneg (by omega), narrowToInt_eq (by omega) (by omega)]

/-- The year a date's week is counted in. -/
def weekYear (mode : Int) (date : Date) : Int :=
  if toDays date + 60 < yearStart mode date.year then date.year - 1
  else if toDays date + 60 ≥ yearStart mode (date.year + 1) then date.year + 1
  else date.year

theorem CalendarDate.within (known : CalendarDate date) (mode : Int) :
    Within (yearStart mode) 0 (weekYear mode date) (toDays date + 60) := by
  obtain ⟨_, reached, before⟩ := known.number
  have yearLow := known.yearLow
  have years := years_yearStart mode
  have previous := years.longest (date.year - 1) (by omega)
  have current := yearStart_near mode date.year
  have next := yearStart_near mode (date.year + 1)
  have afterNext := years.shortest (date.year + 1) (by omega)
  rw [show date.year - 1 + 1 = date.year by omega] at previous
  have earlier := years.shortest (date.year - 1) (by omega)
  rw [show date.year - 1 + 1 = date.year by omega] at earlier
  rw [weekYear]
  split
  · rename_i early
    refine ⟨by omega, by omega, ?_⟩
    rw [show date.year - 1 + 1 = date.year by omega]
    exact early
  · split
    · rename_i late
      refine ⟨by omega, late, ?_⟩
      omega
    · constructor <;> omega

/-- YEARWEEK is the number of the week in the number of its year. -/
theorem calendarYearweek_eq (known : CalendarDate date) (mode : Int) :
    calendarYearweek date mode =
      Weeks.label (yearStart mode) (weekYear mode date) (toDays date + 60) := by
  obtain ⟨number, _, _⟩ := known.number
  obtain ⟨_, reached, before⟩ := known.within mode
  have yearLow := known.yearLow
  have yearHigh := known.yearHigh
  have longest := (years_yearStart mode).longest (weekYear mode date) (by assumption)
  have starts : ∀ year, 0 ≤ year → year ≤ 10000 →
      calendarWeekStartForYear year (normalizedWeekMode mode) = yearStart mode year :=
    fun _ low high => calendarWeekStartForYear_normalized low high mode
  rw [calendarYearweek, calendarWeek, number, Weeks.label, Weeks.number, if_pos rfl,
    starts date.year (by omega) (by omega), starts (date.year + 1) (by omega) (by omega),
    starts (date.year - 1) (by omega) (by omega)]
  rw [weekYear] at reached before longest ⊢
  split
  · rename_i early
    rw [if_pos early] at reached before longest
    rw [weeksFrom_eq reached (by omega)]
  · rename_i notEarly
    rw [if_neg notEarly] at reached before longest
    split
    · rename_i late
      rw [if_pos late] at reached before longest
      rw [weeksFrom_eq reached (by omega)]
    · rename_i notLate
      rw [if_neg notLate] at reached before longest
      rw [weeksFrom_eq reached (by omega)]

theorem CalendarDate.number_bounds (known : CalendarDate date) (mode : Int) :
    1 ≤ Weeks.number (yearStart mode) (weekYear mode date) (toDays date + 60) ∧
      Weeks.number (yearStart mode) (weekYear mode date) (toDays date + 60) ≤ 53 :=
  Weeks.number_bounds (years_yearStart mode) (known.within mode)

/-- The two parts of YEARWEEK. -/
theorem calendarYearweek_parts (known : CalendarDate date) (mode : Int) :
    calendarYearweek date mode / 100 = weekYear mode date ∧
      calendarYearweek date mode % 100 =
        Weeks.number (yearStart mode) (weekYear mode date) (toDays date + 60) := by
  have bounds := known.number_bounds mode
  rw [calendarYearweek_eq known, Weeks.label]
  omega

theorem weekYear_cases (mode : Int) (date : Date) :
    (weekYear mode date = date.year - 1 ∧ toDays date + 60 < yearStart mode date.year) ∨
      (weekYear mode date = date.year + 1 ∧
        ¬ toDays date + 60 < yearStart mode date.year ∧
        toDays date + 60 ≥ yearStart mode (date.year + 1)) ∨
      (weekYear mode date = date.year ∧
        ¬ toDays date + 60 < yearStart mode date.year ∧
        ¬ toDays date + 60 ≥ yearStart mode (date.year + 1)) := by
  rw [weekYear]
  split
  · rename_i early
    exact Or.inl ⟨rfl, early⟩
  · rename_i notEarly
    split
    · rename_i late
      exact Or.inr (Or.inl ⟨rfl, notEarly, late⟩)
    · rename_i notLate
      exact Or.inr (Or.inr ⟨rfl, notEarly, notLate⟩)

/-- WEEK in the modes that count from 1. -/
theorem calendarWeekNumber_fromOne (known : CalendarDate date)
    (fromOne : countsFromOne mode = true) :
    calendarWeekNumber date mode = calendarYearweek date mode % 100 := by
  obtain ⟨number, reached, before⟩ := known.number
  have inside := known.within mode
  have yearLow := known.yearLow
  have yearHigh := known.yearHigh
  have years := years_yearStart mode
  have longest := years.longest (weekYear mode date) inside.known
  have starts : ∀ year, 0 ≤ year → year ≤ 10000 →
      calendarWeekStartForYear year (normalizedWeekMode mode) = yearStart mode year :=
    fun _ low high => calendarWeekStartForYear_normalized low high mode
  rw [(calendarYearweek_parts known mode).2, calendarWeekNumber, calendarWeek, number]
  rw [countsFromOne] at fromOne
  rw [if_neg (by decide), fromOne, if_neg (by decide), calendarWeeksInYear,
    show date.year - 1 + 1 = date.year by omega,
    starts date.year (by omega) (by omega), starts (date.year + 1) (by omega) (by omega),
    starts (date.year - 1) (by omega) (by omega)]
  have near := yearStart_near mode date.year
  rcases weekYear_cases mode date with ⟨year, early⟩ | ⟨year, notEarly, late⟩ |
    ⟨year, notEarly, notLate⟩
  · rw [year] at inside longest ⊢
    have first := years.starts (date.year - 1) (by omega)
    have second := years.starts date.year (by omega)
    have lower := inside.reached
    rw [Weeks.start] at first second
    rw [if_pos early, Int.tdiv_eq_ediv_of_nonneg (by omega), Weeks.number]
    omega
  · rw [year] at inside longest ⊢
    have lower := inside.reached
    have upper := inside.before
    rw [if_neg notEarly, if_pos late, weeksFrom_eq lower (by omega), Weeks.number]
  · rw [year] at inside longest ⊢
    have lower := inside.reached
    have upper := inside.before
    rw [if_neg notEarly, if_neg notLate, weeksFrom_eq lower (by omega), Weeks.number]

/-- WEEK in the modes that count from 0. -/
theorem calendarWeekNumber_fromZero (known : CalendarDate date)
    (fromZero : countsFromOne mode = false) :
    calendarWeekNumber date mode =
      if weekYear mode date = date.year then calendarYearweek date mode % 100
      else if weekYear mode date = date.year - 1 then 0
      else (yearStart mode (date.year + 1) - yearStart mode date.year) / 7 + 1 := by
  obtain ⟨number, reached, before⟩ := known.number
  have inside := known.within mode
  have yearLow := known.yearLow
  have yearHigh := known.yearHigh
  have years := years_yearStart mode
  have longest := years.longest (weekYear mode date) inside.known
  rw [(calendarYearweek_parts known mode).2, calendarWeekNumber, calendarWeek, number]
  rw [countsFromOne] at fromZero
  rw [if_neg (by decide), fromZero, if_pos (by decide),
    calendarWeekStartForYear_normalized (by omega) (by omega)]
  have near := yearStart_near mode (date.year + 1)
  rcases weekYear_cases mode date with ⟨year, early⟩ | ⟨year, notEarly, late⟩ |
    ⟨year, notEarly, notLate⟩
  · rw [year, if_pos early, if_neg (by omega), if_pos rfl]
  · have first := years.starts (date.year + 1) (by omega)
    have second := years.starts date.year (by omega)
    have current := years.longest date.year (by omega)
    have day := firstWeekDay_cases mode
    have start := Weeks.start_le (weekRemainder mode + 60)
      (newYearNumber (date.year + 1) + (firstWeekDay mode - 1))
    change yearStart mode (date.year + 1) ≤ _ ∧ _ < yearStart mode (date.year + 1) + 7 at start
    rw [Weeks.start] at first second
    rw [year, if_neg notEarly, if_neg (by omega), if_neg (by omega),
      weeksFrom_eq (by omega) (by omega)]
    omega
  · rw [year] at inside longest ⊢
    have lower := inside.reached
    have upper := inside.before
    rw [if_neg notEarly, if_pos rfl, weeksFrom_eq lower (by omega), Weeks.number]

/-! The same in the days of the calendar. -/

theorem weekStart_eq (mode : Int) (date : Date) :
    Weeks.start (weekRemainder mode + 60) (toDays date + 60) = weekStart mode date + 60 :=
  Weeks.start_add _ _ _

theorem yearStart_eq {year : Int} (positive : 1 ≤ year) (mode : Int) :
    yearStart mode year = firstWeek mode year + 60 := by
  have rule : calendarIsLeapYear year = true ↔ Gregorian.IsLeap year :=
    leapRule_except_zero positive
  have number : newYearNumber year = toDays (januaryFirst year) + 60 :=
    dayNumberBy_eq rule positive (Gregorian.januaryFirst_valid year)
  have day : toDays (januaryFirst year) + (firstWeekDay mode - 1) =
      toDays { year := year, month := 1, day := firstWeekDay mode } := by
    unfold toDays Gregorian.marchDay Gregorian.marchYear Gregorian.marchMonth januaryFirst
    dsimp only
    omega
  rw [firstWeek, ← day, ← Weeks.start_add, yearStart, number]
  congr 1
  omega

/-- What YEARWEEK and WEEK say in one mode. -/
structure WeekNumbers (mode : Int) : Prop where
  monotone : ∀ first second, CalendarDate first → CalendarDate second → Precedes first second →
    calendarYearweek first mode ≤ calendarYearweek second mode
  sameWeek : ∀ first second, CalendarDate first → CalendarDate second →
    (calendarYearweek first mode = calendarYearweek second mode ↔
      weekStart mode first = weekStart mode second)
  bounds : ∀ date, CalendarDate date →
    1 ≤ calendarYearweek date mode % 100 ∧ calendarYearweek date mode % 100 ≤ 53
  counted : ∀ date, CalendarDate date →
    weekStart mode date + 60 =
      calendarWeekStartForYear (calendarYearweek date mode / 100) mode +
        7 * (calendarYearweek date mode % 100 - 1)
  started : ∀ year, 1 ≤ year → year ≤ 10000 →
    calendarWeekStartForYear year mode = firstWeek mode year + 60
  consecutive : ∀ first second, CalendarDate first → CalendarDate second →
    weekStart mode second = weekStart mode first + 7 →
      (calendarYearweek second mode / 100 = calendarYearweek first mode / 100 ∧
        calendarYearweek second mode % 100 = calendarYearweek first mode % 100 + 1) ∨
      (calendarYearweek second mode / 100 = calendarYearweek first mode / 100 + 1 ∧
        calendarYearweek second mode % 100 = 1)
  fromOne : countsFromOne mode = true → ∀ date, CalendarDate date →
    calendarWeekNumber date mode = calendarYearweek date mode % 100
  fromZero : countsFromOne mode = false → ∀ date, CalendarDate date →
    (calendarYearweek date mode / 100 = date.year ∧
      calendarWeekNumber date mode = calendarYearweek date mode % 100) ∨
    (calendarYearweek date mode / 100 = date.year - 1 ∧ calendarWeekNumber date mode = 0) ∨
    (calendarYearweek date mode / 100 = date.year + 1 ∧
      calendarWeekNumber date mode =
        (firstWeek mode (date.year + 1) - firstWeek mode date.year) / 7 + 1)

/-- YEARWEEK names the weeks of the mode in their order, and WEEK follows from it. -/
theorem calendar_weekNumbers (mode : Int) : WeekNumbers mode := by
  have years := years_yearStart mode
  constructor
  · intro first second firstKnown secondKnown precedes
    have less := (Gregorian.toDays_lt_iff firstKnown.isValid secondKnown.isValid).mpr precedes
    rw [calendarYearweek_eq firstKnown, calendarYearweek_eq secondKnown]
    exact Weeks.label_mono years (firstKnown.within mode) (secondKnown.within mode)
      (Weeks.start_mono _ (by omega))
  · intro first second firstKnown secondKnown
    rw [calendarYearweek_eq firstKnown, calendarYearweek_eq secondKnown,
      Weeks.label_eq_iff years (firstKnown.within mode) (secondKnown.within mode),
      weekStart_eq, weekStart_eq]
    omega
  · intro date known
    rw [(calendarYearweek_parts known mode).2]
    exact known.number_bounds mode
  · intro date known
    have start := Weeks.start_eq years (known.within mode)
    obtain ⟨year, number⟩ := calendarYearweek_parts known mode
    have lower := (known.within mode).known
    have upper := known.yearHigh
    have near : weekYear mode date ≤ date.year + 1 := by
      rcases weekYear_cases mode date with ⟨same, _⟩ | ⟨same, _⟩ | ⟨same, _⟩ <;> omega
    rw [year, number, calendarWeekStartForYear_eq lower (by omega)]
    rw [weekStart_eq] at start
    exact start
  · intro year low high
    rw [calendarWeekStartForYear_eq (by omega) high, yearStart_eq low]
  · intro first second firstKnown secondKnown next
    obtain ⟨firstYear, firstNumber⟩ := calendarYearweek_parts firstKnown mode
    obtain ⟨secondYear, secondNumber⟩ := calendarYearweek_parts secondKnown mode
    rw [firstYear, firstNumber, secondYear, secondNumber]
    apply Weeks.label_next years (firstKnown.within mode) (secondKnown.within mode)
    rw [weekStart_eq, weekStart_eq]
    omega
  · intro fromOne date known
    exact calendarWeekNumber_fromOne known fromOne
  · intro fromZero date known
    have yearLow := known.yearLow
    rw [calendarWeekNumber_fromZero known fromZero, (calendarYearweek_parts known mode).1,
      yearStart_eq (by omega), yearStart_eq (by omega)]
    rcases weekYear_cases mode date with ⟨year, _⟩ | ⟨year, _⟩ | ⟨year, _⟩
    · refine Or.inr (Or.inl ⟨year, ?_⟩)
      rw [year, if_neg (by omega), if_pos rfl]
    · refine Or.inr (Or.inr ⟨year, ?_⟩)
      rw [year, if_neg (by omega), if_neg (by omega)]
      omega
    · refine Or.inl ⟨year, ?_⟩
      rw [year, if_pos rfl]

def lastOf2008 : Date := { year := 2008, month := 12, day := 31 }

/-- The last day of 2008 is in the first week of 2009, or after the last week of 2008 in a mode
that counts from 0. -/
theorem calendar_weekNumbers_lastOf2008 :
    calendarYearweek lastOf2008 3 = 200901 ∧ calendarWeekNumber lastOf2008 3 = 1 ∧
    calendarWeekNumber lastOf2008 1 = 53 ∧
    weekStart 3 lastOf2008 = firstWeek 3 2009 := by
  have known : CalendarDate lastOf2008 := by
    constructor <;> decide
  have label : calendarYearweek lastOf2008 3 = 200901 := by decide +kernel
  have week := (calendar_weekNumbers 3).fromOne (by decide) lastOf2008 known
  have start := (calendar_weekNumbers 3).counted lastOf2008 known
  have first := (calendar_weekNumbers 3).started 2009 (by decide) (by decide)
  rw [label] at week start
  rw [show (200901 : Int) / 100 = 2009 from rfl, first] at start
  exact ⟨label, week, by decide +kernel, by omega⟩

end MyLite.Temporal.TemporalExtract
