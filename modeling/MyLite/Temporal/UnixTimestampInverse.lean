import MyLite.Temporal.Instants
import MyLite.Temporal.UnixTimestampValue

/-! UNIX_TIMESTAMP and FROM_UNIXTIME undo each other, text by text and second by second. -/

namespace MyLite.Temporal.UnixTime

open Checked (Stop int32 int64 uint32 uint64 int32_eq int64_eq uint32_eq uint64_eq ok_bind)
open Gregorian (Date Valid toDays ofDays)

/-- The seconds of the epoch at a local datetime. -/
def epochOf (datetime : Datetime) (offsetMinutes : Int) : Int :=
  instant datetime - 719468 * 86400 - offsetMinutes * 60

/-- A datetime that UNIX_TIMESTAMP reads. -/
structure Readable (datetime : Datetime) : Prop where
  valid : Valid datetime.date
  yearLow : 1 ≤ datetime.date.year
  yearHigh : datetime.date.year ≤ 9999
  time : ValidTime datetime

variable {date : Date} {datetime : Datetime} {value : List UInt8}

theorem Readable.fits (readable : Readable datetime) : DateFits datetime.date := by
  have yearLow := readable.yearLow
  exact dateFits readable.valid (by omega) readable.yearHigh

/-! No operation overflows, wraps or loses bits. -/

theorem floorDivideI64_eq {numerator denominator : Int} (positive : 0 < denominator)
    (low : -9000000000000000000 ≤ numerator / denominator)
    (high : numerator / denominator ≤ 9000000000000000000) :
    floorDivideI64 numerator denominator = .ok (numerator / denominator) := by
  have whole := UnixTimestamp.floorDivideI64_eq numerator positive
  rw [UnixTimestamp.floorDivideI64] at whole
  rw [floorDivideI64]
  split
  · rename_i lowered
    rw [if_pos lowered] at whole
    rw [whole]
    exact int64_eq (by omega) (by omega)
  · rename_i kept
    rw [if_neg kept] at whole
    rw [whole]
    rfl

theorem daysFromCivil_eq (valid : Valid date) (yearLow : 1 ≤ date.year)
    (yearHigh : date.year ≤ 9999) : daysFromCivil date = .ok (toDays date - 719468) := by
  rw [← UnixTimestamp.daysFromCivil_eq]
  obtain ⟨monthPos, monthLe, dayPos, dayLe⟩ := valid
  have short := daysInMonth_le date.year date.month
  have shift : (if date.month ≤ 2 then (1 : Int) else 0) = 0 ∨
      (if date.month ≤ 2 then (1 : Int) else 0) = 1 := by
    split <;> simp
  have monthBounds : 0 ≤ date.month + (if date.month > 2 then (-3 : Int) else 9) ∧
      date.month + (if date.month > 2 then (-3 : Int) else 9) ≤ 11 := by
    split <;> omega
  unfold daysFromCivil UnixTimestamp.daysFromCivil
  dsimp only
  generalize (if date.month ≤ 2 then (1 : Int) else 0) = before at *
  generalize date.month + (if date.month > 2 then (-3 : Int) else 9) = monthTerm at *
  have nonneg : date.year - before ≥ 0 := by omega
  rw [int32_eq (by omega) (by omega), ok_bind, if_pos nonneg, pure_bind, if_pos nonneg,
    Int.tdiv_eq_ediv_of_nonneg nonneg]
  simp (disch := omega) only [int64_eq, uint32_eq, int32_eq, ok_bind]

theorem civilFromDays_eq {days : Int} (low : 0 ≤ days + 719468) (high : days + 719468 ≤ 3000000) :
    civilFromDays days = .ok (ofDays (days + 719468)) := by
  have years := ofDays_year_bounds low high
  rw [← UnixTimestamp.civilFromDays_eq_ofDays (by omega) (by omega)]
  have bounds := Gregorian.dayOfYear_bounds (by omega : 0 ≤ (days + 719468) % 146097) (by omega)
  unfold Gregorian.daysOfEra Gregorian.yearOfEra at bounds
  have era : UnixTimestamp.floorDivideI64 (days + 719468) 146097 = (days + 719468) / 146097 :=
    UnixTimestamp.floorDivideI64_eq _ (by decide)
  unfold civilFromDays UnixTimestamp.civilFromDays
  dsimp only
  rw [int64_eq (by omega) (by omega), ok_bind,
    floorDivideI64_eq (by decide) (by omega) (by omega), ok_bind, era]
  have remainder : days + 719468 - (days + 719468) / 146097 * 146097 =
      (days + 719468) % 146097 := by omega
  have dayOfEraBounds : 0 ≤ (days + 719468) % 146097 ∧ (days + 719468) % 146097 < 146097 := by
    omega
  have eraBounds : 0 ≤ (days + 719468) / 146097 ∧ (days + 719468) / 146097 ≤ 30 := by omega
  rw [int64_eq (by omega) (by omega), ok_bind, int64_eq (by omega) (by omega), ok_bind, remainder]
  generalize (days + 719468) % 146097 = dayOfEra at *
  generalize (days + 719468) / 146097 = eraNumber at *
  rw [uint64_eq (by omega) (by omega), ok_bind]
  obtain ⟨_, _, _, _, _, _, _⟩ := eraParts dayOfEraBounds.1 dayOfEraBounds.2
  generalize dayOfEra / 1460 = quads at *
  generalize dayOfEra / 36524 = centuries at *
  generalize dayOfEra / 146096 = eras at *
  rw [uint64_eq (by omega) (by omega), ok_bind]
  rw [uint64_eq (by omega) (by omega), ok_bind]
  rw [uint64_eq (by omega) (by omega), ok_bind]
  generalize (dayOfEra - quads + centuries - eras) / 365 = yearOfEra at *
  have dayOfYearSame : dayOfEra - (yearOfEra * 365 + yearOfEra / 4 - yearOfEra / 100) =
      dayOfEra - (365 * yearOfEra + yearOfEra / 4 - yearOfEra / 100) := by omega
  simp only [Int.add_zero] at bounds
  clear remainder era years low high
  obtain ⟨_, _, _, _⟩ := leapDays_bounds ‹0 ≤ yearOfEra› ‹yearOfEra ≤ 400›
  generalize yearOfEra / 4 = yearQuads at *
  generalize yearOfEra / 100 = yearCenturies at *
  rw [int64_eq (by omega) (by omega), ok_bind, int64_eq (by omega) (by omega), ok_bind,
    uint64_eq (by omega) (by omega), ok_bind, uint64_eq (by omega) (by omega), ok_bind,
    uint64_eq (by omega) (by omega), ok_bind, dayOfYearSame,
    uint64_eq (by omega) (by omega), ok_bind]
  generalize dayOfEra - (365 * yearOfEra + yearQuads - yearCenturies) = dayOfYear at *
  obtain ⟨_, _, _, _⟩ := monthPrime_bounds bounds.1 bounds.2
  rw [uint64_eq (by omega) (by omega), ok_bind, uint64_eq (by omega) (by omega), ok_bind]
  generalize (5 * dayOfYear + 2) / 153 = monthPart at *
  have monthBounds : 1 ≤ monthPart + (if monthPart < 10 then (3 : Int) else -9) ∧
      monthPart + (if monthPart < 10 then (3 : Int) else -9) ≤ 12 := by
    split <;> omega
  rw [uint64_eq (by omega) (by omega), ok_bind, uint64_eq (by omega) (by omega), ok_bind]
  generalize (153 * monthPart + 2) / 5 = monthStart at *
  rw [uint64_eq (by omega) (by omega), ok_bind, uint64_eq (by omega) (by omega), ok_bind,
    int32_eq (by omega) (by omega), ok_bind, int32_eq (by omega) (by omega), ok_bind]
  generalize monthPart + (if monthPart < 10 then (3 : Int) else -9) = month at *
  have shift : 0 ≤ (if month ≤ 2 then (1 : Int) else 0) ∧
      (if month ≤ 2 then (1 : Int) else 0) ≤ 1 := by
    split <;> omega
  rw [int32_eq (by omega) (by omega), ok_bind]
  generalize (if month ≤ 2 then (1 : Int) else 0) = later at *
  rw [int64_eq (by omega) (by omega), ok_bind,
    int32_eq (by omega) (by omega), ok_bind, UnixTimestamp.narrowToInt_eq (by omega) (by omega)]
  rfl

theorem epochFromDatetime_eq (readable : Readable datetime) {offsetMinutes : Int}
    (zoneLow : -840 ≤ offsetMinutes) (zoneHigh : offsetMinutes ≤ 840) :
    epochFromDatetime datetime offsetMinutes = .ok (epochOf datetime offsetMinutes) := by
  obtain ⟨valid, yearLow, yearHigh, time⟩ := readable
  obtain ⟨dayNonneg, dayLe, _, _⟩ := Gregorian.marchDay_valid valid
  have bounded : -800 ≤ toDays datetime.date ∧ toDays datetime.date ≤ 3700000 := by
    have march : 0 ≤ Gregorian.marchYear datetime.date ∧
        Gregorian.marchYear datetime.date ≤ 9999 := by
      rw [Gregorian.marchYear]
      split <;> omega
    rw [toDays, Gregorian.leapDays]
    omega
  obtain ⟨hourLow, hourHigh, minuteLow, minuteHigh, secondLow, secondHigh⟩ := time
  rw [epochFromDatetime, daysFromCivil_eq valid yearLow yearHigh, ok_bind, epochOf, instant]
  generalize toDays datetime.date = days at *
  simp (disch := omega) only [int64_eq, ok_bind]
  exact congrArg Except.ok (by omega)

theorem datetimeFromEpoch_eq {epoch offsetMinutes : Int} (epochLow : 0 ≤ epoch)
    (epochHigh : epoch ≤ unixTimestampMaximum) (zoneLow : -840 ≤ offsetMinutes)
    (zoneHigh : offsetMinutes ≤ 840) :
    datetimeFromEpoch epoch offsetMinutes =
      .ok (ofInstant (epoch + offsetMinutes * 60 + 719468 * 86400)) := by
  rw [unixTimestampMaximum] at epochHigh
  have days : (epoch + offsetMinutes * 60) / 86400 + 719468 =
      (epoch + offsetMinutes * 60 + 719468 * 86400) / 86400 := by omega
  have seconds : epoch + offsetMinutes * 60 - (epoch + offsetMinutes * 60) / 86400 * 86400 =
      (epoch + offsetMinutes * 60 + 719468 * 86400) % 86400 := by omega
  rw [datetimeFromEpoch, int64_eq (by omega) (by omega), ok_bind, int64_eq (by omega) (by omega),
    ok_bind, floorDivideI64_eq (by decide) (by omega) (by omega), ok_bind,
    int64_eq (by omega) (by omega), ok_bind, int64_eq (by omega) (by omega), ok_bind,
    civilFromDays_eq (by omega) (by omega), ok_bind, seconds, days]
  generalize epoch + offsetMinutes * 60 + 719468 * 86400 = localSeconds
  simp (disch := omega) only [int32_eq, ok_bind]
  rfl

/-- The seconds of the epoch give years that have four digits. -/
theorem epoch_year {seconds offsetMinutes : Int} (low : 0 ≤ seconds)
    (high : seconds ≤ unixTimestampMaximum) (zoneLow : -840 ≤ offsetMinutes)
    (zoneHigh : offsetMinutes ≤ 840) :
    1 ≤ (ofInstant (seconds + offsetMinutes * 60 + 719468 * 86400)).date.year ∧
      (ofInstant (seconds + offsetMinutes * 60 + 719468 * 86400)).date.year ≤ 9999 := by
  rw [unixTimestampMaximum] at high
  have bounded : 719467 ≤ (seconds + offsetMinutes * 60 + 719468 * 86400) / 86400 ∧
      (seconds + offsetMinutes * 60 + 719468 * 86400) / 86400 ≤ 1100000 := by omega
  rw [ofInstant]
  generalize (seconds + offsetMinutes * 60 + 719468 * 86400) / 86400 = days at *
  have same := Gregorian.toDays_ofDays days
  obtain ⟨dayNonneg, dayLe, _, _⟩ := Gregorian.marchDay_valid (Gregorian.ofDays_valid days)
  have march : Gregorian.marchYear (ofDays days) ≤ (ofDays days).year ∧
      (ofDays days).year ≤ Gregorian.marchYear (ofDays days) + 1 := by
    rw [Gregorian.marchYear]
    split <;> omega
  rw [toDays, Gregorian.leapDays] at same
  dsimp only
  constructor <;> omega

/-! Texts. -/

theorem parseDateText_some (read : parseDateText value = .valid datetime) :
    Valid datetime.date ∧ 1 ≤ datetime.date.year ∧ datetime.date.year ≤ 9999 ∧
      datetime = .midnight datetime.date ∧ dateText datetime.date = value := by
  rw [parseDateText] at read
  split at read
  · cases read
  · rename_i date fields
    obtain ⟨text, fits⟩ := dateFields_some fields
    have yearLow := fits.yearLow
    have yearHigh := fits.yearHigh
    split at read
    · cases read
    · rename_i notFull
      split at read
      · cases read
      · rename_i notPartial
        split at read
        · rename_i checked
          have same := ParseStatus.valid.inj read
          subst same
          rw [dateIsPartialZero, if_neg notFull] at notPartial
          simp only [Bool.or_eq_true, decide_eq_true_eq, not_or] at notPartial
          obtain ⟨⟨yearNonzero, _⟩, _⟩ := notPartial
          refine ⟨(dateIsValidBy_iff (leapRule_iff _)).mp checked, ?_, ?_, rfl, text⟩
          · change 1 ≤ date.year
            omega
          · change date.year ≤ 9999
            omega
        · cases read

theorem parseDatetimeText_some (read : parseDatetimeText value = .valid datetime) :
    Readable datetime ∧ datetimeText datetime = value := by
  rw [parseDatetimeText] at read
  split at read
  · cases read
  · rename_i shape
    simp only [not_or, Decidable.not_not] at shape
    split at read
    · rename_i day dateRead
      obtain ⟨valid, yearLow, yearHigh, _, first⟩ := parseDateText_some dateRead
      split at read
      · rename_i found timeRead
        have same := ParseStatus.valid.inj read
        subst same
        obtain ⟨fields, split, timeRead⟩ := Option.bind_eq_some_iff.mp timeRead
        obtain ⟨last, _, onDate⟩ := timeFields_some split
        split at timeRead
        · rename_i checked
          have equal := Option.some.inj timeRead
          subst equal
          rw [← onDate] at valid yearLow yearHigh first
          exact ⟨⟨valid, yearLow, yearHigh, (timeIsValid_iff fields).mp checked⟩,
            datetimeText_of_parts first shape.2 last⟩
        · cases timeRead
      · cases read
    · rename_i notValid
      exact absurd read (notValid _)

theorem parseDatetimeText_text (readable : Readable datetime) :
    parseDatetimeText (datetimeText datetime) = .valid datetime := by
  have length := datetimeText_length readable.fits readable.time.fits
  obtain ⟨separated, first, last⟩ := datetimeText_parts readable.fits
  have shape : ¬ ((datetimeText datetime).length ≠ 19 ∨
      (datetimeText datetime)[10]? ≠ some blank) := by
    rintro (long | unseparated)
    · exact long length
    · exact unseparated separated
  have yearLow := readable.yearLow
  have monthPos := readable.valid.monthPos
  have dayPos := readable.valid.dayPos
  have notFull : dateIsFullZero datetime.date = false := by
    simp only [dateIsFullZero, Bool.and_eq_false_iff, decide_eq_false_iff_not]
    omega
  have notPartial : dateIsPartialZero datetime.date = false := by
    simp only [dateIsPartialZero, notFull, Bool.false_eq_true, if_false, Bool.or_eq_false_iff,
      decide_eq_false_iff_not]
    omega
  have checked : UnixTimestamp.dateIsValid datetime.date = true :=
    (dateIsValidBy_iff (leapRule_iff _)).mpr readable.valid
  have day : parseDateText (dateText datetime.date) = .valid (.midnight datetime.date) := by
    simp only [parseDateText, dateFields_dateText readable.fits, notFull, notPartial, checked,
      Bool.false_eq_true, if_false, if_true]
  have timed : parseTimeText (Datetime.midnight datetime.date).date (timeText datetime) =
      some datetime := by
    rw [parseTimeText, show (Datetime.midnight datetime.date).date = datetime.date from rfl,
      timeFields_timeText readable.time.fits, Option.bind_some]
    exact if_pos ((timeIsValid_iff datetime).mpr readable.time)
  rw [parseDatetimeText, if_neg shape, first, last, day]
  simp only [timed]

/-- A string of nineteen characters is read as a datetime first. -/
theorem parseUnixTimestampValue_datetime {inputKind : InputKind}
    (kind : inputKind = .string ∨ inputKind = .datetime)
    (read : parseDatetimeText value = .valid datetime) :
    parseUnixTimestampValue value inputKind = .valid datetime := by
  rcases kind with rfl | rfl
  · obtain ⟨readable, text⟩ := parseDatetimeText_some read
    have length := datetimeText_length readable.fits readable.time.fits
    rw [text] at length
    have whole : datetimeTextHasFractionalSuffix value = false := by
      rw [datetimeTextHasFractionalSuffix, if_pos (Or.inl (by omega))]
    rw [parseUnixTimestampValue, parseStringUnixTimestampValue, whole]
    simp only [read, Bool.false_eq_true, if_false]
  · exact read

/-- The seconds of a datetime that is read, as the session counts them. -/
theorem unixTimestampValueResult_eq {inputKind : InputKind} {offsetMinutes : Int}
    (kind : inputKind = .string ∨ inputKind = .datetime) (zoneLow : -840 ≤ offsetMinutes)
    (zoneHigh : offsetMinutes ≤ 840) (read : parseDatetimeText value = .valid datetime) :
    unixTimestampValueResult value inputKind offsetMinutes =
      .ok (formatUnixTimestampEpoch (epochOf datetime offsetMinutes)) := by
  have notTimestamp : inputKind ≠ .timestamp := by
    rcases kind with rfl | rfl
    · decide
    · decide
  obtain ⟨readable, _⟩ := parseDatetimeText_some read
  rw [unixTimestampValueResult, parseUnixTimestampValue_datetime kind read]
  simp only [if_neg notTimestamp]
  rw [epochFromDatetime_eq readable zoneLow zoneHigh, ok_bind]
  rfl

/-- The datetime of some seconds, formatted. -/
theorem fromUnixtimeValue_eq {seconds offsetMinutes : Int} (low : 0 ≤ seconds)
    (high : seconds ≤ unixTimestampMaximum) (zoneLow : -840 ≤ offsetMinutes)
    (zoneHigh : offsetMinutes ≤ 840) :
    fromUnixtimeValue seconds offsetMinutes false =
      .ok (.text (datetimeText (ofInstant (seconds + offsetMinutes * 60 + 719468 * 86400)))
        none) := by
  have years := epoch_year low high zoneLow zoneHigh
  have inside : ¬ (false = true ∨ seconds < 0 ∨ seconds > unixTimestampMaximum) := by
    simp only [Bool.false_eq_true, false_or]
    omega
  rw [fromUnixtimeValue, if_neg inside, datetimeFromEpoch_eq low high zoneLow zoneHigh, ok_bind,
    formatFromUnixtimeDatetime, if_neg (by omega)]
  rfl

theorem formatUnixTimestampEpoch_eq {epoch : Int} (low : 0 ≤ epoch)
    (high : epoch ≤ unixTimestampMaximum) :
    formatUnixTimestampEpoch epoch = .text (FixedDigits.decimal epoch) none := by
  rw [formatUnixTimestampEpoch]
  split
  · have zero : epoch = 0 := by omega
    rw [zero]
  · rfl

/-- UNIX_TIMESTAMP gives back the seconds that FROM_UNIXTIME formatted, and FROM_UNIXTIME the
text that UNIX_TIMESTAMP read, in every session. -/
theorem unix_timestamp_inverse :
    (∀ seconds offsetMinutes, 0 ≤ seconds → seconds ≤ unixTimestampMaximum →
      -840 ≤ offsetMinutes → offsetMinutes ≤ 840 →
        ∃ datetime, Readable datetime ∧
          fromUnixtimeValue seconds offsetMinutes false =
            .ok (.text (datetimeText datetime) none) ∧
          ∀ inputKind, inputKind = .string ∨ inputKind = .datetime →
            unixTimestampValueResult (datetimeText datetime) inputKind offsetMinutes =
              .ok (.text (FixedDigits.decimal seconds) none)) ∧
    (∀ text datetime offsetMinutes, parseDatetimeText text = .valid datetime →
      -840 ≤ offsetMinutes → offsetMinutes ≤ 840 → 1 ≤ epochOf datetime offsetMinutes →
      epochOf datetime offsetMinutes ≤ unixTimestampMaximum →
        (∀ inputKind, inputKind = .string ∨ inputKind = .datetime →
          unixTimestampValueResult text inputKind offsetMinutes =
            .ok (.text (FixedDigits.decimal (epochOf datetime offsetMinutes)) none)) ∧
        fromUnixtimeValue (epochOf datetime offsetMinutes) offsetMinutes false =
          .ok (.text text none)) ∧
    (∀ datetime, Readable datetime → parseDatetimeText (datetimeText datetime) = .valid datetime)
    := by
  refine ⟨?_, ?_, fun datetime readable => parseDatetimeText_text readable⟩
  · intro seconds offsetMinutes low high zoneLow zoneHigh
    have years := epoch_year low high zoneLow zoneHigh
    have readable : Readable (ofInstant (seconds + offsetMinutes * 60 + 719468 * 86400)) :=
      ⟨ofInstant_valid _, years.1, years.2, ofInstant_time _⟩
    refine ⟨_, readable, fromUnixtimeValue_eq low high zoneLow zoneHigh, ?_⟩
    intro inputKind kind
    have epoch : epochOf (ofInstant (seconds + offsetMinutes * 60 + 719468 * 86400))
        offsetMinutes = seconds := by
      rw [epochOf, instant_ofInstant]
      omega
    rw [unixTimestampValueResult_eq kind zoneLow zoneHigh (parseDatetimeText_text readable), epoch,
      formatUnixTimestampEpoch_eq low high]
  · intro text datetime offsetMinutes read zoneLow zoneHigh low high
    obtain ⟨readable, written⟩ := parseDatetimeText_some read
    constructor
    · intro inputKind kind
      rw [unixTimestampValueResult_eq kind zoneLow zoneHigh read,
        formatUnixTimestampEpoch_eq (by omega) high]
    · have restored : epochOf datetime offsetMinutes + offsetMinutes * 60 + 719468 * 86400 =
          instant datetime := by
        rw [epochOf]
        omega
      rw [fromUnixtimeValue_eq (by omega) high zoneLow zoneHigh, restored,
        ofInstant_instant readable.valid readable.time, written]

theorem unix_timestamp_inverse_epoch :
    fromUnixtimeValue 0 (-840) false = .ok (.text (bytes "1969-12-31 10:00:00") none) ∧
    (∃ datetime, Readable datetime ∧
      unixTimestampValueResult (datetimeText datetime) .string (-840) =
        .ok (.text (FixedDigits.decimal 0) none)) ∧
    fromUnixtimeValue 86399 840 false = .ok (.text (bytes "1970-01-02 13:59:59") none) := by
  obtain ⟨seconds, texts, _⟩ := unix_timestamp_inverse
  refine ⟨by decide +kernel, ?_, ?_⟩
  · obtain ⟨datetime, readable, _, back⟩ :=
      seconds 0 (-840) (by decide) (by decide) (by decide) (by decide)
    exact ⟨datetime, readable, back .string (Or.inl rfl)⟩
  · exact (texts (bytes "1970-01-02 13:59:59")
      { date := { year := 1970, month := 1, day := 2 }, hour := 13, minute := 59, second := 59 }
      840 (by decide +kernel) (by decide) (by decide) (by decide +kernel)
      (by decide +kernel)).2

end MyLite.Temporal.UnixTime
