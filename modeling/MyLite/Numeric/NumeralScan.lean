import MyLite.Numeric.Numeral

/-! The scan of a text takes the longest numeral it starts with, and its counters never
wrap. -/

namespace MyLite.Numeric

open Scanning (EndsRun)

theorem size_eq {value : Nat} (fits : value ≤ 18446744073709551615) : size value = some value :=
  if_pos fits

theorem int64_eq {value : Int} (low : -9223372036854775808 ≤ value)
    (high : value ≤ 9223372036854775807) : int64 value = some value := if_pos ⟨low, high⟩

theorem scanSign_spelling (text : List UInt8) :
    signSpelling (scanSign text).1 ++ (scanSign text).2 = text ∧
      ((scanSign text).1 = none → EndsRun isSign (scanSign text).2) := by
  cases text with
  | nil => exact ⟨rfl, fun _ => Scanning.endsRun_nil _⟩
  | cons byte rest =>
    rw [scanSign]
    split
    · rename_i plus
      exact ⟨by rw [plus]; rfl, by intro same; cases same⟩
    · split
      · rename_i minus
        exact ⟨by rw [minus]; rfl, by intro same; cases same⟩
      · rename_i notPlus notMinus
        refine ⟨rfl, fun _ => Scanning.endsRun_cons _ ?_⟩
        simp [isSign, notPlus, notMinus]

/-! The mantissa. -/

/-- The zeros of a run of digits that are leading ones. -/
def leadingZeros (hasNonzeroDigit : Bool) (digits : List UInt8) : Nat :=
  if hasNonzeroDigit then 0 else (digits.takeWhile (· == 48)).length

def hasNonzero (digits : List UInt8) : Bool := digits.any (· != 48)

theorem leadingZeros_cons (byte : UInt8) (digits : List UInt8) :
    leadingZeros false (byte :: digits) = if byte = 48 then leadingZeros false digits + 1 else 0 := by
  split
  · rename_i zero
    simp [leadingZeros, zero]
  · rename_i other
    simp [leadingZeros, beq_false_of_ne other]

theorem hasNonzero_cons (byte : UInt8) (digits : List UInt8) :
    hasNonzero (byte :: digits) = (byte != 48 || hasNonzero digits) := rfl

theorem leadingZeros_append (whole fraction : List UInt8) :
    leadingZeros false whole + leadingZeros (hasNonzero whole) fraction =
      leadingZeros false (whole ++ fraction) := by
  induction whole with
  | nil => simp [leadingZeros, hasNonzero]
  | cons byte whole ih =>
    rw [List.cons_append, leadingZeros_cons, leadingZeros_cons, hasNonzero_cons]
    by_cases zero : byte = 48
    · rw [if_pos zero, if_pos zero, ← ih, zero, bne_self_eq_false, Bool.false_or]
      omega
    · rw [if_neg zero, if_neg zero, bne_iff_ne.mpr zero]
      rfl

/-- The scan after a run of digits. -/
def afterDigits (scan : DecimalScan) (hasDot hasNonzeroDigit : Bool) (digits : List UInt8) :
    DecimalScan :=
  { scan with
    mantissa := scan.mantissa ++ digits
    digitCount := scan.digitCount + digits.length
    leadingZeroCount := scan.leadingZeroCount + leadingZeros hasNonzeroDigit digits
    digitsAfterDot := scan.digitsAfterDot + if hasDot then digits.length else 0 }

theorem recordMantissaDigit_eq (scan : DecimalScan) (byte : UInt8) (hasDot hasNonzeroDigit : Bool)
    (digits : scan.digitCount < 18446744073709551615)
    (zeros : scan.leadingZeroCount ≤ scan.digitCount)
    (fraction : scan.digitsAfterDot ≤ scan.digitCount) :
    recordMantissaDigit scan byte hasDot hasNonzeroDigit =
      some ({ scan with
          digitCount := scan.digitCount + 1
          leadingZeroCount := scan.leadingZeroCount + leadingZeros hasNonzeroDigit [byte]
          digitsAfterDot := scan.digitsAfterDot + if hasDot then 1 else 0 },
        hasNonzeroDigit || byte != 48) := by
  have places : (if hasDot then size (scan.digitsAfterDot + 1) else some scan.digitsAfterDot) =
      some (scan.digitsAfterDot + if hasDot then 1 else 0) := by
    cases hasDot with
    | false => rfl
    | true => exact size_eq (by omega)
  rw [recordMantissaDigit, size_eq (by omega), places, Option.bind_some, Option.bind_some,
    size_eq (by omega)]
  cases hasNonzeroDigit with
  | true => rfl
  | false =>
    by_cases zero : byte = 48
    · simp [zero, leadingZeros]
    · simp [zero, leadingZeros, beq_false_of_ne zero]

theorem scanMantissa_digits {digits : List UInt8} (areDigits : AreDigits digits)
    (scan : DecimalScan) (hasDot hasNonzeroDigit : Bool) (rest : List UInt8)
    (fits : scan.digitCount + digits.length ≤ 18446744073709551615)
    (zeros : scan.leadingZeroCount ≤ scan.digitCount)
    (fraction : scan.digitsAfterDot ≤ scan.digitCount) :
    scanMantissa scan hasDot hasNonzeroDigit (digits ++ rest) =
      scanMantissa (afterDigits scan hasDot hasNonzeroDigit digits) hasDot
        (hasNonzeroDigit || hasNonzero digits) rest := by
  induction digits generalizing scan hasNonzeroDigit with
  | nil => simp [afterDigits, leadingZeros, hasNonzero]
  | cons byte digits ih =>
    have isDigit := areDigits byte List.mem_cons_self
    have room : scan.digitCount + (digits.length + 1) ≤ 18446744073709551615 := fits
    have oneZero : leadingZeros hasNonzeroDigit [byte] ≤ 1 := by
      cases hasNonzeroDigit with
      | true => exact Nat.zero_le 1
      | false =>
        rw [leadingZeros_cons]
        split <;> simp [leadingZeros]
    have below : scan.digitCount < 18446744073709551615 := by omega
    have recorded := recordMantissaDigit_eq { scan with mantissa := scan.mantissa ++ [byte] }
      byte hasDot hasNonzeroDigit below zeros fraction
    rw [List.cons_append, scanMantissa, if_pos isDigit, recorded, Option.bind_some]
    dsimp only
    rw [ih (fun other mem => areDigits other (List.mem_cons_of_mem _ mem)) _ _
        (by simp only; omega) (by simp only; omega) (by simp only; split <;> omega)]
    have zeroCount : leadingZeros hasNonzeroDigit [byte] +
        leadingZeros (hasNonzeroDigit || byte != 48) digits =
          leadingZeros hasNonzeroDigit (byte :: digits) := by
      cases hasNonzeroDigit with
      | true => rfl
      | false => simpa [hasNonzero] using leadingZeros_append [byte] digits
    have flags : ((hasNonzeroDigit || byte != 48) || hasNonzero digits) =
        (hasNonzeroDigit || hasNonzero (byte :: digits)) := by
      rw [Bool.or_assoc]
      rfl
    have places : (scan.digitsAfterDot + if hasDot then 1 else 0) +
        (if hasDot then digits.length else 0) =
          scan.digitsAfterDot + if hasDot then digits.length + 1 else 0 := by
      cases hasDot with
      | false => rfl
      | true => simp only [if_true]; omega
    rw [flags]
    simp only [afterDigits, List.append_assoc, List.singleton_append, List.length_cons, ← zeroCount,
      ← places, Nat.add_assoc, Nat.add_comm 1]

/-- The counters of a scan are those of the mantissa it read. -/
structure DecimalScan.ReadsMantissa (scan : DecimalScan) (read : Mantissa) : Prop where
  mantissa : scan.mantissa = read.body
  digitCount : scan.digitCount = read.digits.length
  leadingZeroCount : scan.leadingZeroCount = leadingZeros false read.digits
  digitsAfterDot : scan.digitsAfterDot = read.places
  isNegative : scan.isNegative = decide (read.sign = some true)

theorem takeWhile_digits (bytes : List UInt8) : AreDigits (bytes.takeWhile asciiDecimalDigit) :=
  fun _ mem => List.mem_takeWhile_imp mem

theorem leadingZeros_le (hasNonzeroDigit : Bool) (digits : List UInt8) :
    leadingZeros hasNonzeroDigit digits ≤ digits.length := by
  cases hasNonzeroDigit with
  | true => exact Nat.zero_le _
  | false =>
    induction digits with
    | nil => exact Nat.zero_le _
    | cons byte digits ih =>
      rw [leadingZeros_cons, List.length_cons]
      split <;> omega

theorem scanMantissa_stops {scan : DecimalScan} {hasDot hasNonzeroDigit : Bool} {rest : List UInt8}
    (ends : EndsRun asciiDecimalDigit rest) (noDot : hasDot = false → EndsRun isDot rest) :
    scanMantissa scan hasDot hasNonzeroDigit rest = some { scan with suffix := rest } := by
  cases rest with
  | nil => rfl
  | cons byte rest =>
    have other : asciiDecimalDigit byte = false := ends byte rfl
    rw [scanMantissa, if_neg (by rw [other]; decide)]
    cases hasDot with
    | true => rfl
    | false =>
      have notDot : (byte == 46) = false := noDot rfl byte rfl
      rw [notDot]
      rfl

/-- The loop reads a mantissa as far as it goes. -/
theorem scanMantissa_reads (sign : Option Bool) (start : List UInt8)
    (fits : start.length ≤ 18446744073709551615)
    (unsigned : sign = none → EndsRun isSign start) :
    ∃ (mantissa : Mantissa) (scan : DecimalScan), mantissa.sign = sign ∧
      start = mantissa.body ++ scan.suffix ∧ mantissa.Greedy scan.suffix ∧
      scanMantissa ⟨[], [], 0, 0, 0, 0, sign = some true⟩ false false start = some scan ∧
      scan.ReadsMantissa mantissa ∧ scan.exponent = 0 := by
  have wholeDigits := takeWhile_digits start
  have wholeEnds := Scanning.endsRun_dropWhile asciiDecimalDigit start
  have parts := List.takeWhile_append_dropWhile (p := asciiDecimalDigit) (l := start)
  generalize start.takeWhile asciiDecimalDigit = whole at wholeDigits parts
  generalize start.dropWhile asciiDecimalDigit = following at wholeEnds parts
  have lengths : whole.length + following.length = start.length := by
    rw [← parts, List.length_append]
  have wholeRead := scanMantissa_digits wholeDigits ⟨[], [], 0, 0, 0, 0, sign = some true⟩
    false false following (by simp only; omega) (Nat.le_refl _) (Nat.le_refl _)
  rw [parts] at wholeRead
  by_cases dot : EndsRun isDot following
  · refine ⟨⟨sign, whole, none, wholeDigits, fun _ mem => absurd mem List.not_mem_nil⟩, _, rfl, ?_,
      ⟨?_, fun _ => ?_, ?_⟩, wholeRead.trans (scanMantissa_stops wholeEnds fun _ => dot),
      ⟨?_, ?_, ?_, ?_, rfl⟩, rfl⟩
    · simpa [Mantissa.body, fractionSpelling] using parts.symm
    · simpa [Mantissa.body, fractionSpelling, parts] using unsigned
    · exact dot
    · exact wholeEnds
    · simp [afterDigits, Mantissa.body, fractionSpelling]
    · simp [afterDigits, Mantissa.digits]
    · simp [afterDigits, Mantissa.digits]
    · simp [afterDigits, Mantissa.places]
  · obtain ⟨rest, rfl⟩ : ∃ rest, following = 46 :: rest := by
      cases following with
      | nil => exact absurd (Scanning.endsRun_nil _) dot
      | cons byte rest =>
        by_cases same : byte = 46
        · exact ⟨rest, by rw [same]⟩
        · have ends : EndsRun isDot (byte :: rest) :=
            Scanning.endsRun_cons rest (beq_false_of_ne same)
          exact absurd ends dot
    have fractionDigits := takeWhile_digits rest
    have fractionEnds := Scanning.endsRun_dropWhile asciiDecimalDigit rest
    have fractionParts := List.takeWhile_append_dropWhile (p := asciiDecimalDigit) (l := rest)
    generalize rest.takeWhile asciiDecimalDigit = fraction at fractionDigits fractionParts
    generalize rest.dropWhile asciiDecimalDigit = left at fractionEnds fractionParts
    have fractionLengths : fraction.length + left.length = rest.length := by
      rw [← fractionParts, List.length_append]
    have zeros := leadingZeros_le false whole
    rw [List.length_cons] at lengths
    have fractionRead := scanMantissa_digits fractionDigits
      ⟨whole ++ [46], [], whole.length, leadingZeros false whole, 0, 0, sign = some true⟩
      true (hasNonzero whole) left (by simp only; omega) zeros (Nat.zero_le _)
    rw [fractionParts] at fractionRead
    have dotRead : scanMantissa (afterDigits ⟨[], [], 0, 0, 0, 0, sign = some true⟩ false false whole)
        false (false || hasNonzero whole) (46 :: rest) =
          scanMantissa ⟨whole ++ [46], [], whole.length, leadingZeros false whole, 0, 0,
            sign = some true⟩ true (hasNonzero whole) rest := by
      rw [scanMantissa, if_neg (by decide), if_pos (by decide)]
      simp [afterDigits]
    refine ⟨⟨sign, whole, some fraction, wholeDigits, fractionDigits⟩, _, rfl, ?_,
      ⟨?_, (by intro same; cases same), ?_⟩, (wholeRead.trans dotRead).trans
        (fractionRead.trans (scanMantissa_stops fractionEnds (by intro same; cases same))),
      ⟨?_, ?_, ?_, ?_, rfl⟩, rfl⟩
    · simp [Mantissa.body, fractionSpelling, ← parts, ← fractionParts]
    · simpa [Mantissa.body, fractionSpelling, fractionParts, parts] using unsigned
    · exact fractionEnds
    · simp [afterDigits, Mantissa.body, fractionSpelling]
    · simp [afterDigits, Mantissa.digits]
    · simp [afterDigits, Mantissa.digits, leadingZeros_append]
    · simp [afterDigits, Mantissa.places]

/-! The exponent. -/

/-- What the scan keeps of an exponent. -/
def clampExponent (exponent : Int) : Int := max (-shiftLimit) (min shiftLimit exponent)

theorem digitsValue_cons (byte : UInt8) (digits : List UInt8) :
    digitsValue (byte :: digits) = digitValue byte * 10 ^ digits.length + digitsValue digits := by
  rw [digitsValue, List.map_cons, Decimal.value_cons, List.length_map]
  rfl

theorem digitValue_lt {byte : UInt8} (digit : asciiDecimalDigit byte = true) :
    digitValue byte < 10 := by
  have bound : byte ≤ 57 := of_decide_eq_true (Bool.and_eq_true_iff.mp digit).2
  have := UInt8.le_iff_toNat_le.mp bound
  have : byte.toNat ≤ 57 := this
  unfold digitValue
  omega

theorem scanExponent_eq {digits : List UInt8} (areDigits : AreDigits digits) (isNegative : Bool)
    {exponent : Nat} (inside : exponent ≤ shiftLimit) :
    scanExponent isNegative exponent digits =
      some (clampExponent (if isNegative
        then -(exponent * 10 ^ digits.length + digitsValue digits : Nat)
        else (exponent * 10 ^ digits.length + digitsValue digits : Nat))) := by
  have limit : shiftLimit = 1000000 := rfl
  induction digits generalizing exponent with
  | nil =>
    have nothing : exponent * 10 ^ ([] : List UInt8).length + digitsValue [] = exponent := by
      simp [digitsValue, Decimal.value]
    rw [nothing, scanExponent, clampExponent]
    cases isNegative with
    | false =>
      simp only [Bool.false_eq_true, if_false, Option.some.injEq]
      omega
    | true =>
      rw [if_pos rfl, if_pos rfl, int64_eq (by omega) (by omega), Option.some.injEq]
      omega
  | cons byte digits ih =>
    have small := digitValue_lt (areDigits byte List.mem_cons_self)
    have base : decimalBase = 10 := rfl
    rw [scanExponent, int64_eq (by omega) (by omega), Option.bind_some,
      Int.tdiv_eq_ediv_of_nonneg (by omega), base]
    have split : exponent * 10 ^ (byte :: digits).length + digitsValue (byte :: digits) =
        (exponent * 10 + digitValue byte) * 10 ^ digits.length + digitsValue digits := by
      rw [digitsValue_cons, List.length_cons, Nat.pow_succ, Nat.mul_comm (10 ^ _) 10, Nat.add_mul,
        Nat.mul_assoc, Nat.add_assoc]
    rw [split]
    split
    · rename_i beyond
      have factor : 1 ≤ 10 ^ digits.length := Nat.one_le_pow _ _ (by decide)
      have large : shiftLimit < (exponent * 10 + digitValue byte) * 10 ^ digits.length :=
        Nat.lt_of_lt_of_le (by omega) (Nat.le_mul_of_pos_right _ factor)
      generalize (exponent * 10 + digitValue byte) * 10 ^ digits.length = scaled at large
      rw [clampExponent]
      cases isNegative with
      | false =>
        simp only [Bool.false_eq_true, if_false, Option.some.injEq]
        omega
      | true =>
        rw [if_pos rfl, if_pos rfl, int64_eq (by omega) (by omega), Option.some.injEq]
        omega
    · rename_i fits
      have next : ((exponent : Int) * (10 : Nat) + digitValue byte) =
          ((exponent * 10 + digitValue byte : Nat) : Int) := by omega
      rw [int64_eq (by omega) (by omega), Option.bind_some, int64_eq (by omega) (by omega),
        Option.bind_some, next]
      exact ih (fun other mem => areDigits other (List.mem_cons_of_mem _ mem)) (by omega)

theorem clampExponent_zero : clampExponent 0 = 0 := by decide

/-- The text after a marker is an exponent, or it is left alone. -/
theorem scanExponentSuffix_reads {marker : UInt8} (isMarker : marker = 101 ∨ marker = 69)
    {scan : DecimalScan} (none : scan.exponent = 0) (rest : List UInt8) :
    ∃ (exponent : Option ExponentPart) (left suffix : List UInt8),
      marker :: rest = exponentSpelling exponent ++ left ∧ EndsRun asciiDecimalDigit left ∧
      (exponent = .none → ∀ (part : ExponentPart) (tail : List UInt8),
        left ≠ part.spelling ++ tail) ∧
      scanExponentSuffix scan rest = some { scan with
        exponent := clampExponent ((exponent.map ExponentPart.value).getD 0), suffix } := by
  obtain ⟨spelled, unsigned⟩ := scanSign_spelling rest
  rw [scanExponentSuffix]
  dsimp only
  generalize (scanSign rest).1 = sign at spelled unsigned
  generalize (scanSign rest).2 = start at spelled unsigned
  have areDigits := takeWhile_digits start
  have ends := Scanning.endsRun_dropWhile asciiDecimalDigit start
  have parts := List.takeWhile_append_dropWhile (p := asciiDecimalDigit) (l := start)
  generalize start.takeWhile asciiDecimalDigit = digits at areDigits parts
  generalize start.dropWhile asciiDecimalDigit = left at ends parts
  split
  · rename_i nonempty
    refine ⟨some ⟨marker, sign, digits, isMarker, areDigits, nonempty⟩, left, left, ?_, ends, nofun, ?_⟩
    · rw [exponentSpelling, ExponentPart.spelling, List.cons_append, List.append_assoc, parts, spelled]
    · have read := scanExponent_eq areDigits (decide (sign = some true)) (Nat.zero_le shiftLimit)
      rw [show (0 : Int) = ((0 : Nat) : Int) from rfl, read, Option.map_some, Nat.zero_mul,
        Nat.zero_add]
      simp only [decide_eq_true_eq, Option.map_some, Option.getD_some, ExponentPart.value]
  · rename_i empty
    rw [Decidable.not_not] at empty
    have noExponent (part : ExponentPart) (tail : List UInt8) :
        marker :: rest ≠ part.spelling ++ tail := by
      intro same
      have following : rest = signSpelling part.sign ++ part.digits ++ tail := (List.cons.inj same).2
      rw [← spelled, List.append_assoc] at following
      obtain ⟨_, starts⟩ := signSpelling_cancel following unsigned fun _ => part.unsigned tail
      rw [empty, List.nil_append] at parts
      rw [← parts] at starts
      cases digits : part.digits with
      | nil => exact part.nonempty digits
      | cons digit others =>
        have isDigit := part.areDigits digit (by rw [digits]; exact List.mem_cons_self)
        rw [ends digit (by rw [starts, digits]; rfl)] at isDigit
        cases isDigit
    have markerEnds : EndsRun asciiDecimalDigit (marker :: rest) := by
      rcases isMarker with rfl | rfl
      · exact Scanning.endsRun_cons _ rfl
      · exact Scanning.endsRun_cons _ rfl
    have unchanged : clampExponent (((.none : Option ExponentPart).map ExponentPart.value).getD 0) =
        scan.exponent := by rw [none]; exact clampExponent_zero
    split
    · exact ⟨.none, _, left, rfl, markerEnds, fun _ => noExponent, by rw [unchanged]⟩
    · exact ⟨.none, _, scan.suffix, rfl, markerEnds, fun _ => noExponent, by rw [unchanged]⟩

/-! The token. -/

/-- A scan holds what the longest numeral says, its exponent clamped. -/
structure DecimalScan.Reads (scan : DecimalScan) (numeral : Numeral) : Prop where
  mantissa : scan.ReadsMantissa numeral.toMantissa
  exponent : scan.exponent = clampExponent numeral.exponentValue

/-- The scan finds no numeral only where there is none, and reads the longest one. -/
theorem scanToken_reads (text : List UInt8) (fits : text.length ≤ 18446744073709551615) :
    (scanToken text = some none ∧ ∀ numeral : Numeral, ¬ numeral.spelling <+: text) ∨
      ∃ (numeral : Numeral) (rest : List UInt8) (scan : DecimalScan),
        text = numeral.spelling ++ rest ∧ numeral.Greedy rest ∧
        scanToken text = some (some scan) ∧ scan.Reads numeral := by
  obtain ⟨spelled, unsigned⟩ := scanSign_spelling text
  have startFits : (scanSign text).2.length ≤ 18446744073709551615 := by
    rw [← spelled, List.length_append] at fits
    omega
  obtain ⟨mantissa, scan, sign, body, greedy, scanned, reads, zero⟩ :=
    scanMantissa_reads _ _ startFits unsigned
  rw [scanToken]
  dsimp only
  rw [scanned, Option.bind_some, reads.digitCount]
  rw [← sign] at spelled
  split
  · rename_i noDigits
    refine Or.inl ⟨rfl, ?_⟩
    rw [← spelled, body]
    exact greedy.no_numeral (List.length_eq_zero_iff.mp noDigits)
  · rename_i someDigits
    have hasDigits : mantissa.digits ≠ [] := mt List.length_eq_zero_iff.mpr someDigits
    -- a mantissa in front of anything that is no exponent
    have plain (noExponent : ∀ (part : ExponentPart) (tail : List UInt8),
        scan.suffix ≠ part.spelling ++ tail) :
        ∃ (numeral : Numeral) (rest : List UInt8) (found : DecimalScan),
          text = numeral.spelling ++ rest ∧ numeral.Greedy rest ∧
          some (some scan) = some (some found) ∧ found.Reads numeral := by
      refine ⟨⟨mantissa, none, hasDigits⟩, scan.suffix, scan, ?_,
        ⟨greedy, fun _ => noExponent, greedy.digits⟩, rfl, reads, ?_⟩
      · simp only [Numeral.spelling, exponentSpelling, List.append_nil, List.append_assoc, ← body,
          spelled]
      · rw [zero]
        exact clampExponent_zero.symm
    right
    cases following : scan.suffix with
    | nil =>
      exact plain (by rw [following]; intro part tail same; cases same)
    | cons byte rest =>
      dsimp only
      split
      · rename_i marker
        obtain ⟨exponent, left, suffix, same, ends, noExponent, read⟩ :=
          scanExponentSuffix_reads marker zero rest
        rw [following, same] at greedy body
        refine ⟨⟨mantissa, exponent, hasDigits⟩, left, { scan with
            exponent := clampExponent ((exponent.map ExponentPart.value).getD 0), suffix }, ?_,
          ⟨greedy, noExponent, ends⟩, congrArg (Option.map some) read,
          ⟨reads.mantissa, reads.digitCount, reads.leadingZeroCount, reads.digitsAfterDot,
            reads.isNegative⟩, rfl⟩
        simp only [Numeral.spelling, List.append_assoc, ← body, spelled]
      · rename_i other
        refine plain fun part tail same => other ?_
        rw [following] at same
        rw [(List.cons.inj same).1]
        exact part.isMarker

end MyLite.Numeric
