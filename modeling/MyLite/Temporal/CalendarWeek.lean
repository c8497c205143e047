import MyLite.Library.Gregorian
import MyLite.Library.Weeks
import MyLite.Temporal.OneCalendar

/-! WEEK and YEARWEEK: every year has its weeks, and the days at both ends of a year may belong
to the weeks of another. -/

namespace MyLite.Temporal.TemporalExtract

open Gregorian (Date IsLeap Precedes Valid toDays)
open UnixTimestamp (narrowToInt narrowToInt_eq)

def normalizedWeekMode (mode : Int) : Int :=
  if mode.tmod 8 < 0 then mode.tmod 8 + 8 else mode.tmod 8

/-- `normalized_mode & bit`. -/
def hasModeBit (normalizedMode : Int) (bit : Nat) : Bool := normalizedMode.toNat &&& bit ≠ 0

def weekModeUsesFourDaysRule (normalizedMode : Int) : Bool :=
  normalizedMode = 1 || normalizedMode = 3 || normalizedMode = 4 || normalizedMode = 6

def calendarSundayBasedWeekdayFromDayNumber (dayNumber : Int) : Int :=
  let remainder := narrowToInt (dayNumber.tmod 7)
  let raised := if remainder < 0 then remainder + 7 else remainder
  if raised = 0 then 7 - 1 else raised - 1

/-- The first day of the first week of a year. -/
def calendarWeekStartForYear (year mode : Int) : Int :=
  let normalizedMode := normalizedWeekMode mode
  let firstDay := if hasModeBit normalizedMode 1 then 1 else 0
  let jan1DayNumber := calendarDayNumber { year := year, month := 1, day := 1 }
  let jan1Weekday := calendarSundayBasedWeekdayFromDayNumber jan1DayNumber
  let daysSinceWeekStart := (jan1Weekday - firstDay + 7).tmod 7
  let weekStart := jan1DayNumber - daysSinceWeekStart
  if weekModeUsesFourDaysRule normalizedMode then
    if 7 - daysSinceWeekStart ≥ 4 then narrowToInt weekStart else narrowToInt (weekStart + 7)
  else narrowToInt (jan1DayNumber + (firstDay - jan1Weekday + 7).tmod 7)

def calendarWeeksInYear (year mode : Int) : Int :=
  (calendarWeekStartForYear (year + 1) mode - calendarWeekStartForYear year mode).tdiv 7

/-- `(int)((day_number - week_start) / days_per_week) + 1`. -/
def weeksFrom (weekStart dayNumber : Int) : Int :=
  narrowToInt ((dayNumber - weekStart).tdiv 7) + 1

def calendarWeek (date : Date) (mode : Int) (includeYear : Bool) : Int :=
  let normalizedMode := normalizedWeekMode mode
  let dayNumber := calendarDayNumber date
  let weekStart := calendarWeekStartForYear date.year normalizedMode
  let nextWeekStart := calendarWeekStartForYear (date.year + 1) normalizedMode
  if includeYear then
    if dayNumber < weekStart then
      (date.year - 1) * 100 +
        weeksFrom (calendarWeekStartForYear (date.year - 1) normalizedMode) dayNumber
    else if dayNumber ≥ nextWeekStart then
      (date.year + 1) * 100 + weeksFrom nextWeekStart dayNumber
    else date.year * 100 + weeksFrom weekStart dayNumber
  else if !hasModeBit normalizedMode 2 then
    if dayNumber < weekStart then 0 else weeksFrom weekStart dayNumber
  else if dayNumber < weekStart then calendarWeeksInYear (date.year - 1) normalizedMode
  else if dayNumber ≥ nextWeekStart then weeksFrom nextWeekStart dayNumber
  else weeksFrom weekStart dayNumber

def calendarWeekNumber (date : Date) (mode : Int) : Int := calendarWeek date mode false

def calendarYearweek (date : Date) (mode : Int) : Int := calendarWeek date mode true

/-- A date that the functions accept: their texts have four digits for the year. -/
structure CalendarDate (date : Date) : Prop where
  valid : calendarCompleteDateIsValid date = true
  yearLow : 1 ≤ date.year
  yearHigh : date.year ≤ 9999

/-! What a mode says. -/

/-- Weeks start on Sunday or on Monday. -/
def startsOnMonday (mode : Int) : Bool := hasModeBit (normalizedWeekMode mode) 1

def countsFromOne (mode : Int) : Bool := hasModeBit (normalizedWeekMode mode) 2

/-- The first week of a year is the one with the year's fourth day, or with its seventh. -/
def firstWeekDay (mode : Int) : Int :=
  if weekModeUsesFourDaysRule (normalizedWeekMode mode) then 4 else 7

/-- The remainder of the days that start a week: those whose weekday is 0 or 1. -/
def weekRemainder (mode : Int) : Int := if startsOnMonday mode then 5 else 4

/-- The day that starts the week of a date. -/
def weekStart (mode : Int) (date : Date) : Int := Weeks.start (weekRemainder mode) (toDays date)

/-- The day that starts the first week of a year. -/
def firstWeek (mode year : Int) : Int :=
  Weeks.start (weekRemainder mode) (toDays { year := year, month := 1, day := firstWeekDay mode })

end MyLite.Temporal.TemporalExtract
