import MyLite.Numeric.DecimalColumn
import MyLite.Numeric.NumeralScan

/-! What the scan of a numeric text records of its numeral. -/

namespace MyLite.DecimalColumn

open Numeric (asciiDecimalDigit asciiNumericWhitespace digitValue shiftLimit decimalBase scanSign
  suffixIsTruncated AreDigits Mantissa Numeral ExponentPart signSpelling fractionSpelling
  exponentSpelling hasNonzero leadingZeros isSign isDot clampExponent digitsValue)
open Scanning (EndsRun)

/-- A numeral and the white space around it. -/
structure NumericText where
  leading : List UInt8
  numeral : Numeral
  trailing : List UInt8
  leadingSpace : ∀ byte ∈ leading, asciiNumericWhitespace byte = true
  trailingSpace : ∀ byte ∈ trailing, asciiNumericWhitespace byte = true

def NumericText.spelling (text : NumericText) : List UInt8 :=
  text.leading ++ (text.numeral.spelling ++ text.trailing)

/-! Digits. -/

/-- The marks a scan keeps are those of the digits seen so far. -/
structure TokenScan.Marks (scan : TokenScan) (seen : List UInt8) : Prop where
  digits : copyScanDigits scan = seen
  digitCount : scan.digitCount = seen.length
  nonzero : scan.hasNonzeroDigits = hasNonzero seen
  first : scan.hasNonzeroDigits = true → scan.firstNonzeroDigitIndex = leadingZeros false seen
  last : ∀ index, hasNonzero (seen.drop index) =
    (scan.hasNonzeroDigits && decide (index ≤ scan.lastNonzeroDigitIndex))

/-- One digit of the loop. -/
def takeDigit (sawDot : Bool) (scan : TokenScan) (byte : UInt8) : TokenScan :=
  scanMantissaDigit { scan with mantissa := scan.mantissa ++ [byte] } byte sawDot

def takeDigits (sawDot : Bool) (scan : TokenScan) (digits : List UInt8) : TokenScan :=
  digits.foldl (takeDigit sawDot) scan

theorem hasNonzero_append (front back : List UInt8) :
    hasNonzero (front ++ back) = (hasNonzero front || hasNonzero back) := List.any_append

theorem leadingZeros_of_zeros {seen : List UInt8} (zeros : hasNonzero seen = false)
    (others : List UInt8) :
    leadingZeros false (seen ++ others) = seen.length + leadingZeros false others := by
  induction seen with
  | nil => simp
  | cons byte seen ih =>
    rw [Numeric.hasNonzero_cons, Bool.or_eq_false_iff] at zeros
    have zero : byte = 48 := by simpa using zeros.1
    rw [List.cons_append, Numeric.leadingZeros_cons, if_pos zero, ih zeros.2, List.length_cons]
    omega

theorem leadingZeros_of_nonzero {seen : List UInt8} (nonzero : hasNonzero seen = true)
    (others : List UInt8) : leadingZeros false (seen ++ others) = leadingZeros false seen := by
  rw [← Numeric.leadingZeros_append, nonzero]
  rfl

theorem takeDigit_zero (sawDot : Bool) (scan : TokenScan) :
    takeDigit sawDot scan 48 =
      { scan with
        mantissa := scan.mantissa ++ [48]
        digitCount := scan.digitCount + 1
        integerDigitCount := scan.integerDigitCount + if sawDot then 0 else 1 } := by
  cases sawDot <;> rfl

theorem takeDigit_nonzero (sawDot : Bool) (scan : TokenScan) {byte : UInt8}
    (nonzero : byte ≠ 48) :
    takeDigit sawDot scan byte =
      { scan with
        mantissa := scan.mantissa ++ [byte]
        digitCount := scan.digitCount + 1
        integerDigitCount := scan.integerDigitCount + if sawDot then 0 else 1
        firstNonzeroDigitIndex :=
          if scan.hasNonzeroDigits then scan.firstNonzeroDigitIndex else scan.digitCount
        lastNonzeroDigitIndex := scan.digitCount
        hasNonzeroDigits := true } := by
  rw [takeDigit, scanMantissaDigit]
  cases sawDot <;> simp [nonzero]

theorem takeDigit_marks {scan : TokenScan} {seen : List UInt8} (marks : scan.Marks seen)
    (sawDot : Bool) {byte : UInt8} (isDigit : asciiDecimalDigit byte = true) :
    (takeDigit sawDot scan byte).Marks (seen ++ [byte]) := by
  have copied : (scan.mantissa ++ [byte]).filter asciiDecimalDigit = seen ++ [byte] := by
    rw [List.filter_append, ← copyScanDigits, marks.digits]
    simp [isDigit]
  have counted : scan.digitCount + 1 = (seen ++ [byte]).length := by
    rw [marks.digitCount, List.length_append, List.length_singleton]
  by_cases zero : byte = 48
  · subst zero
    rw [takeDigit_zero]
    refine ⟨copied, counted, ?_, ?_, ?_⟩
    · rw [hasNonzero_append, ← marks.nonzero]
      exact (Bool.or_false _).symm
    · intro some
      have seenSome : hasNonzero seen = true := marks.nonzero ▸ some
      exact (marks.first some).trans (leadingZeros_of_nonzero seenSome _).symm
    · intro index
      have none : hasNonzero (([48] : List UInt8).drop (index - seen.length)) = false := by
        cases index - seen.length with
        | zero => rfl
        | succ more => simp [hasNonzero]
      rw [List.drop_append, hasNonzero_append, none, Bool.or_false]
      exact marks.last index
  · rw [takeDigit_nonzero sawDot scan zero]
    have counts : hasNonzero [byte] = true := by simp [hasNonzero, zero]
    refine ⟨copied, counted, ?_, ?_, ?_⟩
    · rw [hasNonzero_append, counts, Bool.or_true]
    · intro _
      dsimp only
      split
      · rename_i some
        have seenSome : hasNonzero seen = true := marks.nonzero ▸ some
        rw [marks.first some, leadingZeros_of_nonzero seenSome]
      · rename_i none
        rw [marks.nonzero, Bool.not_eq_true] at none
        rw [leadingZeros_of_zeros none, marks.digitCount, Numeric.leadingZeros_cons, if_neg zero,
          Nat.add_zero]
    · intro index
      rw [marks.digitCount, Bool.true_and, List.drop_append, hasNonzero_append]
      by_cases inside : index ≤ seen.length
      · rw [Nat.sub_eq_zero_of_le inside, decide_eq_true inside, List.drop_zero, counts,
          Bool.or_true]
      · have after : ([byte] : List UInt8).length ≤ index - seen.length := by
          rw [List.length_singleton]
          omega
        rw [List.drop_eq_nil_of_le (by omega), List.drop_eq_nil_of_le after,
          decide_eq_false inside]
        rfl

/-- What the digits leave alone, and the count in front of the dot. -/
theorem takeDigit_frame (sawDot : Bool) (scan : TokenScan) (byte : UInt8) :
    (takeDigit sawDot scan byte).exponent = scan.exponent ∧
      (takeDigit sawDot scan byte).isNegative = scan.isNegative ∧
      (takeDigit sawDot scan byte).integerDigitCount =
        scan.integerDigitCount + if sawDot then 0 else 1 := by
  by_cases zero : byte = 48
  · rw [zero, takeDigit_zero]
    exact ⟨rfl, rfl, rfl⟩
  · rw [takeDigit_nonzero sawDot scan zero]
    exact ⟨rfl, rfl, rfl⟩

theorem takeDigits_frame (sawDot : Bool) (scan : TokenScan) (digits : List UInt8) :
    (takeDigits sawDot scan digits).exponent = scan.exponent ∧
      (takeDigits sawDot scan digits).isNegative = scan.isNegative ∧
      (takeDigits sawDot scan digits).integerDigitCount =
        scan.integerDigitCount + if sawDot then 0 else digits.length := by
  induction digits generalizing scan with
  | nil => simp [takeDigits]
  | cons byte digits ih =>
    obtain ⟨exponent, isNegative, count⟩ := takeDigit_frame sawDot scan byte
    obtain ⟨exponents, areNegative, counts⟩ := ih (takeDigit sawDot scan byte)
    refine ⟨exponents.trans exponent, areNegative.trans isNegative, ?_⟩
    rw [takeDigits, List.foldl_cons, ← takeDigits, counts, count, List.length_cons]
    split <;> omega

theorem takeDigits_marks {scan : TokenScan} {seen : List UInt8} (marks : scan.Marks seen)
    (sawDot : Bool) {digits : List UInt8} (areDigits : AreDigits digits) :
    (takeDigits sawDot scan digits).Marks (seen ++ digits) := by
  induction digits generalizing scan seen with
  | nil => simpa [takeDigits] using marks
  | cons byte digits ih =>
    have step := takeDigit_marks marks sawDot (areDigits byte List.mem_cons_self)
    have rest := ih step fun other member => areDigits other (List.mem_cons_of_mem _ member)
    rwa [List.append_assoc, List.singleton_append] at rest

theorem scanMantissa_digits {digits : List UInt8} (areDigits : AreDigits digits) (scan : TokenScan)
    (sawDot sawDigit : Bool) (rest : List UInt8) :
    scanMantissa scan sawDot sawDigit (digits ++ rest) =
      scanMantissa (takeDigits sawDot scan digits) sawDot (sawDigit || !digits.isEmpty) rest := by
  induction digits generalizing scan sawDigit with
  | nil => simp [takeDigits]
  | cons byte digits ih =>
    rw [List.cons_append, scanMantissa, if_pos (areDigits byte List.mem_cons_self)]
    refine (ih (fun other member => areDigits other (List.mem_cons_of_mem _ member)) _ _).trans ?_
    simp [takeDigits, takeDigit]

theorem scanMantissa_stops {scan : TokenScan} {sawDot sawDigit : Bool} {rest : List UInt8}
    (ends : EndsRun asciiDecimalDigit rest) (noDot : sawDot = false → EndsRun isDot rest) :
    scanMantissa scan sawDot sawDigit rest = ({ scan with suffix := rest }, sawDigit) := by
  cases rest with
  | nil => rfl
  | cons byte rest =>
    have other : asciiDecimalDigit byte = false := ends byte rfl
    rw [scanMantissa, if_neg (by rw [other]; decide)]
    cases sawDot with
    | true => rfl
    | false =>
      have notDot : (byte == 46) = false := noDot rfl byte rfl
      rw [notDot]
      rfl

/-- What the scan records of a mantissa. -/
structure TokenScan.ReadsMantissa (scan : TokenScan) (mantissa : Mantissa) : Prop where
  marks : scan.Marks mantissa.digits
  integerDigitCount : scan.integerDigitCount = mantissa.whole.length
  isNegative : scan.isNegative = decide (mantissa.sign = some true)

def initialScan (sign : Option Bool) : TokenScan :=
  ⟨[], [], 0, 0, 0, 0, 0, sign = some true, false⟩

theorem initialScan_marks (sign : Option Bool) : (initialScan sign).Marks [] := by
  refine ⟨rfl, rfl, rfl, ?_, ?_⟩
  · intro some
    cases some
  · intro index
    rw [List.drop_nil]
    rfl

/-- The loop reads a mantissa in front of something else. -/
theorem scanMantissa_body (mantissa : Mantissa) {rest : List UInt8}
    (ends : EndsRun asciiDecimalDigit rest) (noDot : EndsRun isDot rest) :
    ∃ scan : TokenScan, scanMantissa (initialScan mantissa.sign) false false
        (mantissa.body ++ rest) = (scan, !mantissa.digits.isEmpty) ∧
      scan.ReadsMantissa mantissa ∧ scan.suffix = rest ∧ scan.exponent = 0 := by
  have wholeMarks := takeDigits_marks (initialScan_marks mantissa.sign) false mantissa.wholeDigits
  obtain ⟨wholeExponent, wholeNegative, wholeCount⟩ :=
    takeDigits_frame false (initialScan mantissa.sign) mantissa.whole
  rw [List.nil_append] at wholeMarks
  cases same : mantissa.fraction with
  | none =>
    have body : mantissa.body = mantissa.whole := by
      rw [Mantissa.body, same, fractionSpelling, List.append_nil]
    have digits : mantissa.digits = mantissa.whole := by
      rw [Mantissa.digits, same, Option.getD_none, List.append_nil]
    refine ⟨{ takeDigits false (initialScan mantissa.sign) mantissa.whole with suffix := rest }, ?_,
      ⟨?_, wholeCount.trans (Nat.zero_add _), wholeNegative⟩, rfl, wholeExponent⟩
    · rw [body, digits, scanMantissa_digits mantissa.wholeDigits,
        scanMantissa_stops ends fun _ => noDot, Bool.false_or]
    · rw [digits]
      exact ⟨wholeMarks.digits, wholeMarks.digitCount, wholeMarks.nonzero, wholeMarks.first,
        wholeMarks.last⟩
  | some fraction =>
    have fractionDigits : AreDigits fraction := by
      have digits := mantissa.fractionDigits
      rwa [same] at digits
    have body : mantissa.body ++ rest = mantissa.whole ++ (46 :: (fraction ++ rest)) := by
      rw [Mantissa.body, same, fractionSpelling, List.append_assoc, List.cons_append]
    have digits : mantissa.digits = mantissa.whole ++ fraction := by
      rw [Mantissa.digits, same, Option.getD_some]
    have wholeRead := scanMantissa_digits mantissa.wholeDigits (initialScan mantissa.sign) false
      false (46 :: (fraction ++ rest))
    generalize takeDigits false (initialScan mantissa.sign) mantissa.whole = whole at *
    -- the dot is no digit, so the marks do not see it
    have dotMarks : TokenScan.Marks { whole with mantissa := whole.mantissa ++ [46] }
        mantissa.whole := by
      refine ⟨?_, wholeMarks.digitCount, wholeMarks.nonzero, wholeMarks.first, wholeMarks.last⟩
      rw [copyScanDigits, List.filter_append, ← copyScanDigits, wholeMarks.digits]
      exact List.append_nil _
    have fractionMarks := takeDigits_marks dotMarks true fractionDigits
    obtain ⟨exponent, isNegative, count⟩ :=
      takeDigits_frame true { whole with mantissa := whole.mantissa ++ [46] } fraction
    refine ⟨{ takeDigits true { whole with mantissa := whole.mantissa ++ [46] } fraction with
        suffix := rest }, ?_, ⟨?_, count.trans (wholeCount.trans (Nat.zero_add _)),
          isNegative.trans wholeNegative⟩, rfl, exponent.trans wholeExponent⟩
    · have flag : (false || !mantissa.whole.isEmpty || !fraction.isEmpty) =
          !(mantissa.whole ++ fraction).isEmpty := by
        cases mantissa.whole with
        | nil => rfl
        | cons => rfl
      rw [body, digits, wholeRead, scanMantissa, if_neg (by decide), if_pos (by decide),
        scanMantissa_digits fractionDigits, flag,
        scanMantissa_stops ends fun never => absurd never (by decide)]
    · rw [digits]
      exact ⟨fractionMarks.digits, fractionMarks.digitCount, fractionMarks.nonzero,
        fractionMarks.first, fractionMarks.last⟩

/-! The exponent. -/

theorem scanExponent_eq {digits : List UInt8} (areDigits : AreDigits digits) (isNegative : Bool)
    {exponent : Nat} (inside : exponent ≤ shiftLimit) :
    some (scanExponent isNegative exponent digits) =
      Numeric.scanExponent isNegative exponent digits := by
  have limit : shiftLimit = 1000000 := rfl
  have base : decimalBase = 10 := rfl
  induction digits generalizing exponent with
  | nil =>
    rw [scanExponent, Numeric.scanExponent]
    split
    · rw [Numeric.int64_eq (by omega) (by omega)]
    · rfl
  | cons byte digits ih =>
    have small := Numeric.digitValue_lt (areDigits byte List.mem_cons_self)
    rw [scanExponent, Numeric.scanExponent, Numeric.int64_eq (by omega) (by omega),
      Option.bind_some]
    split
    · split
      · rw [Numeric.int64_eq (by omega) (by omega)]
      · rfl
    · rename_i fits
      rw [Int.tdiv_eq_ediv_of_nonneg (by omega), base] at fits
      have next : (exponent : Int) * decimalBase + digitValue byte =
          ((exponent * 10 + digitValue byte : Nat) : Int) := by
        rw [base]
        omega
      rw [Numeric.int64_eq (by omega) (by omega), Option.bind_some,
        Numeric.int64_eq (by omega) (by omega), Option.bind_some, next]
      exact ih (fun other member => areDigits other (List.mem_cons_of_mem _ member)) (by omega)

theorem scanExponent_value (part : ExponentPart) :
    scanExponent (decide (part.sign = some true)) 0 part.digits = clampExponent part.value := by
  have read := scanExponent_eq part.areDigits (decide (part.sign = some true))
    (Nat.zero_le shiftLimit)
  rw [Numeric.scanExponent_eq part.areDigits _ (Nat.zero_le shiftLimit), Nat.zero_mul, Nat.zero_add,
    Option.some.injEq] at read
  rw [ExponentPart.value]
  simpa using read

theorem scanSign_append (sign : Option Bool) {rest : List UInt8} (unsigned : EndsRun isSign rest) :
    scanSign (signSpelling sign ++ rest) = (sign, rest) := by
  cases sign with
  | none =>
    cases rest with
    | nil => rfl
    | cons byte rest =>
      have notSign : isSign byte = false := unsigned byte rfl
      rw [isSign, Bool.or_eq_false_iff, beq_eq_false_iff_ne, beq_eq_false_iff_ne] at notSign
      rw [signSpelling, List.nil_append, scanSign, if_neg notSign.1, if_neg notSign.2]
  | some negative => cases negative <;> rfl

/-! White space. -/

theorem space_cases {byte : UInt8} (space : asciiNumericWhitespace byte = true) :
    asciiDecimalDigit byte = false ∧ isDot byte = false ∧ isSign byte = false ∧ byte ≠ 101 ∧
      byte ≠ 69 := by
  rw [asciiNumericWhitespace, Bool.or_eq_true, beq_iff_eq, Bool.and_eq_true, decide_eq_true_eq,
    decide_eq_true_eq] at space
  rcases space with rfl | ⟨low, high⟩
  · decide
  · have lowNumber := UInt8.le_iff_toNat_le.mp low
    have highNumber := UInt8.le_iff_toNat_le.mp high
    have number : byte.toNat = 9 ∨ byte.toNat = 10 ∨ byte.toNat = 11 ∨ byte.toNat = 12 ∨
        byte.toNat = 13 := by
      change 9 ≤ byte.toNat at lowNumber
      change byte.toNat ≤ 13 at highNumber
      omega
    have cases : byte = 9 ∨ byte = 10 ∨ byte = 11 ∨ byte = 12 ∨ byte = 13 := by
      simp only [← UInt8.toNat_inj]
      exact number
    rcases cases with rfl | rfl | rfl | rfl | rfl <;> decide

theorem spaces_end {test : UInt8 → Bool} {spaces : List UInt8}
    (allSpaces : ∀ byte ∈ spaces, asciiNumericWhitespace byte = true)
    (other : ∀ byte, asciiNumericWhitespace byte = true → test byte = false) :
    EndsRun test spaces := by
  intro byte first
  exact other byte (allSpaces byte (List.mem_of_mem_head? first))

theorem suffixIsTruncated_spaces {spaces : List UInt8}
    (allSpaces : ∀ byte ∈ spaces, asciiNumericWhitespace byte = true) :
    suffixIsTruncated spaces = false := by
  rw [suffixIsTruncated, List.any_eq_false]
  intro byte member
  simp [allSpaces byte member]

/-! Numeric texts. -/

/-- What the scan records of a numeral. -/
structure TokenScan.Reads (scan : TokenScan) (numeral : Numeral) : Prop
    extends scan.ReadsMantissa numeral.toMantissa where
  exponent : scan.exponent = clampExponent numeral.exponentValue

theorem spelling_starts (numeral : Numeral) (rest : List UInt8) :
    ∃ byte others, numeral.spelling ++ rest = byte :: others ∧
      asciiNumericWhitespace byte = false := by
  have notSpace (byte : UInt8) (isDigit : asciiDecimalDigit byte = true) :
      asciiNumericWhitespace byte = false := by
    by_contra space
    rw [Bool.not_eq_false] at space
    rw [(space_cases space).1] at isDigit
    cases isDigit
  rw [Numeral.spelling, Mantissa.body]
  cases sign : numeral.sign with
  | some negative =>
    cases negative with
    | false => exact ⟨43, _, rfl, rfl⟩
    | true => exact ⟨45, _, rfl, rfl⟩
  | none =>
    cases whole : numeral.whole with
    | cons byte others =>
      have isDigit := numeral.wholeDigits byte (by rw [whole]; exact List.mem_cons_self)
      exact ⟨byte, _, rfl, notSpace byte isDigit⟩
    | nil =>
      cases fraction : numeral.fraction with
      | some digits => exact ⟨46, _, rfl, rfl⟩
      | none =>
        have nothing : numeral.digits = [] := by
          rw [Mantissa.digits, whole, fraction]
          rfl
        exact absurd nothing numeral.hasDigits

theorem scanToken_reads (numeral : Numeral) {spaces : List UInt8}
    (allSpaces : ∀ byte ∈ spaces, asciiNumericWhitespace byte = true) :
    ∃ scan, scanToken (numeral.spelling ++ spaces) = some scan ∧ scan.Reads numeral ∧
      scan.suffix = spaces := by
  have notDigit := spaces_end allSpaces fun byte space => (space_cases space).1
  have notDot := spaces_end allSpaces fun byte space => (space_cases space).2.1
  have text : numeral.spelling ++ spaces =
      signSpelling numeral.sign ++ (numeral.body ++ (exponentSpelling numeral.exponent ++ spaces)) := by
    simp only [Numeral.spelling, List.append_assoc]
  have signed := scanSign_append numeral.sign
    (numeral.toMantissa.body_unsigned numeral.hasDigits (exponentSpelling numeral.exponent ++ spaces))
  have some : numeral.digits.isEmpty = false := by
    simpa using numeral.hasDigits
  have ends : EndsRun asciiDecimalDigit (exponentSpelling numeral.exponent ++ spaces) ∧
      EndsRun isDot (exponentSpelling numeral.exponent ++ spaces) := by
    cases numeral.exponent with
    | none => exact ⟨notDigit, notDot⟩
    | some part =>
      have marker : asciiDecimalDigit part.marker = false ∧ isDot part.marker = false := by
        rcases part.isMarker with same | same <;> rw [same] <;> decide
      exact ⟨Scanning.endsRun_cons _ marker.1, Scanning.endsRun_cons _ marker.2⟩
  obtain ⟨scan, read, reads, suffix, exponent⟩ :=
    scanMantissa_body numeral.toMantissa ends.1 ends.2
  refine ⟨scanExponentSuffix scan, ?_, ?_⟩
  · rw [text, scanToken, signed]
    dsimp only
    rw [← initialScan, read, some]
    rfl
  · cases same : numeral.exponent with
    | none =>
      rw [same] at suffix
      have kept : scanExponentSuffix scan = scan := by
        rw [scanExponentSuffix, suffix, exponentSpelling, List.nil_append]
        cases spaces with
        | nil => rfl
        | cons byte others =>
          obtain ⟨-, -, -, notLower, notUpper⟩ := space_cases (allSpaces byte List.mem_cons_self)
          exact if_pos ⟨notLower, notUpper⟩
      have value : numeral.exponentValue = 0 := by
        rw [Numeral.exponentValue, same]
        rfl
      rw [kept, suffix]
      exact ⟨⟨reads, by rw [exponent, value, Numeric.clampExponent_zero]⟩, rfl⟩
    | some part =>
      rw [same] at suffix
      have marker : ¬ (part.marker ≠ 101 ∧ part.marker ≠ 69) := by
        rintro ⟨notLower, notUpper⟩
        rcases part.isMarker with lower | upper
        · exact notLower lower
        · exact notUpper upper
      have unsigned : EndsRun isSign (part.digits ++ spaces) := part.unsigned spaces
      have run := Scanning.run_append part.areDigits notDigit
      have filled : part.digits.isEmpty = false := by
        simpa using part.nonempty
      have value : numeral.exponentValue = part.value := by
        rw [Numeral.exponentValue, same]
        rfl
      have taken : scanExponentSuffix scan =
          { scan with exponent := clampExponent part.value, suffix := spaces } := by
        rw [scanExponentSuffix, suffix, exponentSpelling, ExponentPart.spelling, List.cons_append]
        dsimp only
        rw [if_neg marker, List.append_assoc, scanSign_append part.sign unsigned]
        dsimp only
        rw [run.1, run.2, filled, ← scanExponent_value part]
        rfl
      rw [taken]
      refine ⟨⟨⟨⟨reads.marks.digits, reads.marks.digitCount, reads.marks.nonzero,
        reads.marks.first, reads.marks.last⟩, reads.integerDigitCount, reads.isNegative⟩, ?_⟩, rfl⟩
      rw [value]

/-- The scan of a numeric text records its numeral, and nothing is cut off. -/
theorem scan_numericText (text : NumericText) :
    ∃ scan, scanDmlNumericStringText text.spelling = some (scan, false) ∧
      scan.Reads text.numeral := by
  obtain ⟨scan, read, reads, suffix⟩ := scanToken_reads text.numeral text.trailingSpace
  obtain ⟨byte, others, starts, notSpace⟩ := spelling_starts text.numeral text.trailing
  refine ⟨scan, ?_, reads⟩
  have skipped : text.spelling.dropWhile asciiNumericWhitespace = byte :: others := by
    rw [NumericText.spelling, List.dropWhile_append_of_pos text.leadingSpace, starts]
    simp [notSpace]
  rw [starts] at read
  rw [scanDmlNumericStringText, skipped]
  dsimp only
  rw [read, Option.map_some, suffix, suffixIsTruncated_spaces text.trailingSpace]

end MyLite.DecimalColumn
