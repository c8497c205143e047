import Mathlib.Data.List.Basic
import MyLite.Library.FixedDigits
import MyLite.Temporal.Calendars

/-! The texts `YYYY-MM-DD` and `YYYY-MM-DD hh:mm:ss` of the temporal functions: their fields
and where the fields stand. Each module checks the fields by rules of its own. -/

namespace MyLite.Temporal

open FixedDigits (padded parse)
open Gregorian (Date)

/-- `enum mylite_date_interval_second_input_kind`, and that of every other module. -/
inductive InputKind where
  | string
  | date
  | datetime
  | timestamp
  deriving DecidableEq, Repr

/-- `struct date_interval_second_source`, and that of TIMESTAMPDIFF. -/
structure Source where
  value : List UInt8
  inputKind : InputKind
  isNull : Bool
  deriving DecidableEq, Repr

/-- An entry of the diagnostics area. -/
structure Diagnostic where
  code : Nat
  sqlState : String
  message : List UInt8
  deriving DecidableEq, Repr

def bytes (text : String) : List UInt8 := text.toUTF8.toList

/-- `"Incorrect datetime value: '%.*s'"`. -/
def incorrectDatetimeMessage (value : List UInt8) : List UInt8 :=
  bytes "Incorrect datetime value: '" ++ ((value.take 200).takeWhile (· ≠ 0) ++ [39])

def incorrectDatetime (value : List UInt8) : Diagnostic :=
  { code := 1292, sqlState := "22007", message := incorrectDatetimeMessage value }

/-- `'-'`, `' '` and `':'`. -/
def dash : UInt8 := 45

def blank : UInt8 := 32

def colon : UInt8 := 58

/-- The fields of a text of ten characters. -/
def dateFields (value : List UInt8) : Option Date :=
  if value.length ≠ 10 ∨ value[4]? ≠ some dash ∨ value[7]? ≠ some dash then none
  else
    (parse (value.take 4)).bind fun year =>
    (parse ((value.drop 5).take 2)).bind fun month =>
    (parse ((value.drop 8).take 2)).bind fun day =>
    some { year := year, month := month, day := day }

/-- The time of day in a text of eight characters, on a date. -/
def timeFields (date : Date) (value : List UInt8) : Option Datetime :=
  if value.length ≠ 8 ∨ value[2]? ≠ some colon ∨ value[5]? ≠ some colon then none
  else
    (parse (value.take 2)).bind fun hour =>
    (parse ((value.drop 3).take 2)).bind fun minute =>
    (parse ((value.drop 6).take 2)).bind fun second =>
    some { date := date, hour := hour, minute := minute, second := second }

/-- `%04d-%02d-%02d`. -/
def dateText (date : Date) : List UInt8 :=
  padded 4 date.year ++ dash :: (padded 2 date.month ++ dash :: padded 2 date.day)

/-- `%02d:%02d:%02d`. -/
def timeText (datetime : Datetime) : List UInt8 :=
  padded 2 datetime.hour ++ colon :: (padded 2 datetime.minute ++ colon ::
    padded 2 datetime.second)

def datetimeText (datetime : Datetime) : List UInt8 :=
  dateText datetime.date ++ blank :: timeText datetime

/-- The numbers of a date fit their fields. -/
structure DateFits (date : Date) : Prop where
  yearLow : 0 ≤ date.year
  yearHigh : date.year < 10000
  monthLow : 0 ≤ date.month
  monthHigh : date.month < 100
  dayLow : 0 ≤ date.day
  dayHigh : date.day < 100

/-- The numbers of a time of day fit their fields. -/
structure TimeFits (datetime : Datetime) : Prop where
  hourLow : 0 ≤ datetime.hour
  hourHigh : datetime.hour < 100
  minuteLow : 0 ≤ datetime.minute
  minuteHigh : datetime.minute < 100
  secondLow : 0 ≤ datetime.second
  secondHigh : datetime.second < 100

variable {date : Date} {datetime : Datetime} {value : List UInt8}

theorem padded_two {number : Int} (low : 0 ≤ number) (high : number < 100) :
    (padded 2 number).length = 2 ∧ parse (padded 2 number) = some number :=
  ⟨FixedDigits.padded_length (by decide) low (by omega),
    FixedDigits.parse_padded (by decide) low (by omega)⟩

theorem padded_four {number : Int} (low : 0 ≤ number) (high : number < 10000) :
    (padded 4 number).length = 4 ∧ parse (padded 4 number) = some number :=
  ⟨FixedDigits.padded_length (by decide) low (by omega),
    FixedDigits.parse_padded (by decide) low (by omega)⟩

theorem dateText_length (fits : DateFits date) : (dateText date).length = 10 := by
  obtain ⟨yearLow, yearHigh, monthLow, monthHigh, dayLow, dayHigh⟩ := fits
  rw [dateText, List.length_append, List.length_cons, List.length_append, List.length_cons,
    (padded_four yearLow yearHigh).1, (padded_two monthLow monthHigh).1,
    (padded_two dayLow dayHigh).1]

theorem timeText_length (fits : TimeFits datetime) : (timeText datetime).length = 8 := by
  obtain ⟨hourLow, hourHigh, minuteLow, minuteHigh, secondLow, secondHigh⟩ := fits
  rw [timeText, List.length_append, List.length_cons, List.length_append, List.length_cons,
    (padded_two hourLow hourHigh).1, (padded_two minuteLow minuteHigh).1,
    (padded_two secondLow secondHigh).1]

theorem datetimeText_length (dateFits : DateFits datetime.date) (timeFits : TimeFits datetime) :
    (datetimeText datetime).length = 19 := by
  rw [datetimeText, List.length_append, List.length_cons, dateText_length dateFits,
    timeText_length timeFits]

/-- What is written is read back. -/
theorem dateFields_dateText (fits : DateFits date) : dateFields (dateText date) = some date := by
  have length := dateText_length fits
  obtain ⟨yearLow, yearHigh, monthLow, monthHigh, dayLow, dayHigh⟩ := fits
  obtain ⟨yearDigits, year⟩ := padded_four yearLow yearHigh
  obtain ⟨monthDigits, month⟩ := padded_two monthLow monthHigh
  obtain ⟨dayDigits, day⟩ := padded_two dayLow dayHigh
  rw [dateText] at length ⊢
  generalize padded 4 date.year = yearText at *
  generalize padded 2 date.month = monthText at *
  generalize padded 2 date.day = dayText at *
  obtain ⟨y1, y2, y3, y4, rfl⟩ := List.length_eq_four.mp yearDigits
  obtain ⟨m1, m2, rfl⟩ := List.length_eq_two.mp monthDigits
  obtain ⟨d1, d2, rfl⟩ := List.length_eq_two.mp dayDigits
  rw [dateFields, if_neg]
  · change (parse [y1, y2, y3, y4]).bind (fun year => (parse [m1, m2]).bind fun month =>
      (parse [d1, d2]).bind fun day => some (Date.mk year month day)) = some date
    rw [year, month, day]
    rfl
  · rintro (long | noDash | noDash)
    · exact long length
    · exact noDash rfl
    · exact noDash rfl

theorem timeFields_timeText (fits : TimeFits datetime) :
    timeFields datetime.date (timeText datetime) = some datetime := by
  have length := timeText_length fits
  obtain ⟨hourLow, hourHigh, minuteLow, minuteHigh, secondLow, secondHigh⟩ := fits
  obtain ⟨hourDigits, hour⟩ := padded_two hourLow hourHigh
  obtain ⟨minuteDigits, minute⟩ := padded_two minuteLow minuteHigh
  obtain ⟨secondDigits, second⟩ := padded_two secondLow secondHigh
  rw [timeText] at length ⊢
  generalize padded 2 datetime.hour = hourText at *
  generalize padded 2 datetime.minute = minuteText at *
  generalize padded 2 datetime.second = secondText at *
  obtain ⟨h1, h2, rfl⟩ := List.length_eq_two.mp hourDigits
  obtain ⟨m1, m2, rfl⟩ := List.length_eq_two.mp minuteDigits
  obtain ⟨s1, s2, rfl⟩ := List.length_eq_two.mp secondDigits
  rw [timeFields, if_neg]
  · change (parse [h1, h2]).bind (fun hour => (parse [m1, m2]).bind fun minute =>
      (parse [s1, s2]).bind fun second => some (Datetime.mk datetime.date hour minute second)) =
        some datetime
    rw [hour, minute, second]
    rfl
  · rintro (long | noColon | noColon)
    · exact long length
    · exact noColon rfl
    · exact noColon rfl

/-- A number of two or four digits that was read, and its text. -/
theorem field_read {width : Nat} {text : List UInt8} {number : Int} (length : text.length = width)
    (read : parse text = some number) :
    padded width number = text ∧ 0 ≤ number ∧ number < 10 ^ width := by
  subst length
  exact ⟨FixedDigits.padded_parse read, FixedDigits.parse_bounds read⟩

/-- A text from one place on: a field of two characters, a separator and what follows. -/
theorem drop_field {place : Nat} {separator : UInt8}
    (separated : value[place + 2]? = some separator) :
    value.drop place = (value.drop place).take 2 ++ separator :: value.drop (place + 3) := by
  obtain ⟨inside, same⟩ := List.getElem?_eq_some_iff.mp separated
  rw [← same]
  calc value.drop place
      = (value.drop place).take 2 ++ (value.drop place).drop 2 := (List.take_append_drop _ _).symm
    _ = (value.drop place).take 2 ++ value.drop (place + 2) := by rw [List.drop_drop]
    _ = _ := by rw [List.drop_eq_getElem_cons inside]

/-- What is read is the text of its fields, which fit. -/
theorem dateFields_some (read : dateFields value = some date) :
    dateText date = value ∧ DateFits date := by
  rw [dateFields] at read
  split at read
  · cases read
  · rename_i shape
    simp only [not_or, Decidable.not_not] at shape
    obtain ⟨length, first, second⟩ := shape
    obtain ⟨year, yearRead, read⟩ := Option.bind_eq_some_iff.mp read
    obtain ⟨month, monthRead, read⟩ := Option.bind_eq_some_iff.mp read
    obtain ⟨day, dayRead, read⟩ := Option.bind_eq_some_iff.mp read
    obtain ⟨yearSame, yearLow, yearHigh⟩ := field_read
      (show (value.take 4).length = 4 by rw [List.length_take]; omega) yearRead
    obtain ⟨monthSame, monthLow, monthHigh⟩ := field_read
      (show ((value.drop 5).take 2).length = 2 by
        rw [List.length_take, List.length_drop]; omega) monthRead
    obtain ⟨daySame, dayLow, dayHigh⟩ := field_read
      (show ((value.drop 8).take 2).length = 2 by
        rw [List.length_take, List.length_drop]; omega) dayRead
    have same := Option.some.inj read
    subst same
    obtain ⟨inside, firstSame⟩ := List.getElem?_eq_some_iff.mp first
    have afterYear : value.drop 4 = dash :: value.drop 5 := by
      rw [List.drop_eq_getElem_cons inside, firstSame]
    have dayLast : (value.drop 8).take 2 = value.drop 8 :=
      List.take_of_length_le (by rw [List.length_drop]; omega)
    refine ⟨?_, ⟨yearLow, yearHigh, monthLow, monthHigh, dayLow, dayHigh⟩⟩
    rw [dateText, yearSame, monthSame, daySame, dayLast, ← drop_field second, ← afterYear,
      List.take_append_drop]

theorem timeFields_some (read : timeFields date value = some datetime) :
    timeText datetime = value ∧ TimeFits datetime ∧ datetime.date = date := by
  rw [timeFields] at read
  split at read
  · cases read
  · rename_i shape
    simp only [not_or, Decidable.not_not] at shape
    obtain ⟨length, first, last⟩ := shape
    obtain ⟨hour, hourRead, read⟩ := Option.bind_eq_some_iff.mp read
    obtain ⟨minute, minuteRead, read⟩ := Option.bind_eq_some_iff.mp read
    obtain ⟨second, secondRead, read⟩ := Option.bind_eq_some_iff.mp read
    obtain ⟨hourSame, hourLow, hourHigh⟩ := field_read
      (show (value.take 2).length = 2 by rw [List.length_take]; omega) hourRead
    obtain ⟨minuteSame, minuteLow, minuteHigh⟩ := field_read
      (show ((value.drop 3).take 2).length = 2 by
        rw [List.length_take, List.length_drop]; omega) minuteRead
    obtain ⟨secondSame, secondLow, secondHigh⟩ := field_read
      (show ((value.drop 6).take 2).length = 2 by
        rw [List.length_take, List.length_drop]; omega) secondRead
    have same := Option.some.inj read
    subst same
    have secondLast : (value.drop 6).take 2 = value.drop 6 :=
      List.take_of_length_le (by rw [List.length_drop]; omega)
    have whole : value = value.take 2 ++ colon :: value.drop 3 := @drop_field value 0 colon first
    refine ⟨?_, ⟨hourLow, hourHigh, minuteLow, minuteHigh, secondLow, secondHigh⟩, rfl⟩
    rw [timeText, hourSame, minuteSame, secondSame, secondLast, ← drop_field last, ← whole]

/-- Where the date and the time stand in their text. -/
theorem datetimeText_parts (dateFits : DateFits datetime.date) :
    (datetimeText datetime)[10]? = some blank ∧
      (datetimeText datetime).take 10 = dateText datetime.date ∧
      (datetimeText datetime).drop 11 = timeText datetime := by
  have length := dateText_length dateFits
  rw [datetimeText]
  refine ⟨?_, List.take_left' length, ?_⟩
  · rw [List.getElem?_append_right (by omega), length]
    rfl
  · rw [← List.drop_drop (i := 1) (j := 10), List.drop_left' length]
    rfl

theorem datetimeText_of_parts (first : dateText datetime.date = value.take 10)
    (separated : value[10]? = some blank) (last : timeText datetime = value.drop 11) :
    datetimeText datetime = value := by
  obtain ⟨inside, same⟩ := List.getElem?_eq_some_iff.mp separated
  rw [datetimeText, first, last, ← same, ← List.drop_eq_getElem_cons inside,
    List.take_append_drop]

end MyLite.Temporal
