import MyLite.Numeric.DecimalColumnString
import MyLite.Numeric.DecimalExact

/-! A quoted string and an unquoted literal of one value in a DECIMAL column: where both are
converted exactly. -/

namespace MyLite.DecimalColumn

open Numeric (asciiDecimalDigit digitValue AreDigits Mantissa Numeral digitsValue clampExponent
  exponentSpelling)
open Rounding (halfUp scaled roundAway)

/-! What a column makes of a number. -/

/-- The number in units of the last decimal, rounded. -/
def roundedUnits (info : TypeInfo) (number : ℚ) : ℤ := roundAway (number * 10 ^ info.scale)

def OutOfRange (info : TypeInfo) (number : ℚ) : Prop :=
  10 ^ info.precision ≤ (roundedUnits info number).natAbs ∨
    (info.isUnsigned = true ∧ number < 0)

def Dropped (info : TypeInfo) (number : ℚ) : Prop :=
  ¬ ∃ units : ℤ, number * 10 ^ info.scale = units

def storedText (info : TypeInfo) (number : ℚ) : List UInt8 :=
  decimalText info.scale (decide (roundedUnits info number < 0)) (roundedUnits info number).natAbs

/-- An error or a warning says that the value is out of range. -/
def Reported (column : Column) (row : Nat) (outcome : Except Report Stored) : Prop :=
  outcome = .error (.outOfRange column.name row) ∨
    ∃ stored, outcome = .ok stored ∧ Report.outOfRange column.name row ∈ stored.reports

/-- The conversion of a number, as it should be. -/
structure Meets (column : Column) (row : Nat) (number : ℚ) (outcome : Except Report Stored) :
    Prop where
  range : Reported column row outcome ↔ OutOfRange column.info number
  stored : ¬ OutOfRange column.info number → ∃ stored, outcome = .ok stored ∧
    stored.text = storedText column.info number ∧
    (Report.dataTruncated column.name row ∈ stored.reports ↔ Dropped column.info number)

/-- The unquoted literal of a numeral: a sign is an operator before it. -/
def literalNode (literal : Numeral) : ValueNode :=
  let operand :=
    if literal.exponent.isSome then
      Literal.float (literal.body ++ exponentSpelling literal.exponent)
    else if literal.fraction.isSome then .decimal literal.body
    else .integer literal.body
  if literal.sign.isSome then .unary (literal.sign = some true) operand else .literal operand

def quoted (text : NumericText) : ValueNode := .literal (.string text.spelling)

def storedOf (outcome : Except Report Stored) : Option (List UInt8) :=
  outcome.toOption.map Stored.text

/-- Both forms are converted as they should be, and alike. -/
structure Exact (column : Column) (row : Nat) (isStrict ignoreErrors : Bool) (text : NumericText)
    (literal : Numeral) : Prop where
  quoted : Meets column row text.numeral.value
    (convertDecimalLiteral column row (quoted text) isStrict ignoreErrors)
  unquoted : Meets column row literal.value
    (convertDecimalLiteral column row (literalNode literal) isStrict ignoreErrors)
  sameStored : storedOf (convertDecimalLiteral column row (DecimalColumn.quoted text) isStrict
      ignoreErrors) =
    storedOf (convertDecimalLiteral column row (literalNode literal) isStrict ignoreErrors)
  sameRange : Reported column row (convertDecimalLiteral column row (DecimalColumn.quoted text)
      isStrict ignoreErrors) ↔
    Reported column row (convertDecimalLiteral column row (literalNode literal) isStrict ignoreErrors)

/-! Where the clamps change the number. -/

/-- The number of integer digits that the exponent makes. -/
def position (numeral : Numeral) : Int := numeral.whole.length + numeral.exponentValue

/-- The position that the scan computes. -/
def clampedPosition (numeral : Numeral) : Int :=
  decimalPosition numeral.whole.length (clampExponent numeral.exponentValue)

/-- The number at the clamped position. -/
def clampedUnits (info : TypeInfo) (numeral : Numeral) : ℕ :=
  halfUp (scaled numeral.coefficient
    (clampedPosition numeral + info.scale - numeral.digits.length))

/-- The clamps do not change what becomes of the number. -/
def ClampsHarmless (info : TypeInfo) (numeral : Numeral) : Prop :=
  clampedPosition numeral = position numeral ∨
    (10 ^ info.precision ≤ clampedUnits info numeral ∧
      10 ^ info.precision ≤ (roundedUnits info numeral.value).natAbs) ∨
    (clampedUnits info numeral = 0 ∧ roundedUnits info numeral.value = 0)

/-! The number of a numeral, in the units of a column. -/

section

variable (info : TypeInfo) (numeral : Numeral)

/-- The magnitude in the units of the column, not rounded. -/
def units : ℚ := scaled numeral.coefficient (numeral.shift + info.scale)

theorem value_units : numeral.value * 10 ^ info.scale =
    if numeral.sign = some true then -units info numeral else units info numeral := by
  have same : scaled numeral.coefficient numeral.shift * 10 ^ info.scale = units info numeral := by
    rw [scaled, units, scaled, zpow_add₀ (by norm_num), zpow_natCast, mul_assoc]
  rw [Numeral.value]
  split
  · rw [neg_mul, same]
  · exact same

theorem roundedUnits_eq : roundedUnits info numeral.value =
    if numeral.sign = some true then -(halfUp (units info numeral) : ℤ)
    else halfUp (units info numeral) := by
  have nonneg := Rounding.scaled_nonneg numeral.coefficient (numeral.shift + info.scale)
  rw [roundedUnits, value_units]
  split
  · exact Rounding.roundAway_neg _ nonneg
  · exact Rounding.roundAway_of_nonneg nonneg

theorem roundedUnits_natAbs : (roundedUnits info numeral.value).natAbs =
    halfUp (units info numeral) := by
  rw [roundedUnits_eq]
  split <;> omega

theorem roundedUnits_neg : roundedUnits info numeral.value < 0 ↔
    numeral.sign = some true ∧ halfUp (units info numeral) ≠ 0 := by
  rw [roundedUnits_eq]
  split
  · rename_i negative
    simp only [negative, true_and]
    omega
  · rename_i positive
    simp only [positive, false_and, iff_false]
    omega

theorem value_neg : numeral.value < 0 ↔ numeral.sign = some true ∧ numeral.coefficient ≠ 0 := by
  have nonneg := Rounding.scaled_nonneg numeral.coefficient numeral.shift
  have power : (10 : ℚ) ^ numeral.shift ≠ 0 := by positivity
  have zero : scaled numeral.coefficient numeral.shift = 0 ↔ numeral.coefficient = 0 := by
    rw [scaled, mul_eq_zero, or_iff_left power, Nat.cast_eq_zero]
  rw [Numeral.value]
  split
  · rename_i negative
    rw [neg_lt_zero, lt_iff_le_and_ne, ne_comm, ne_eq, ne_eq, zero]
    simp [negative, nonneg]
  · rename_i positive
    simp [positive, not_lt.mpr nonneg]

theorem dropped_iff : Dropped info numeral.value ↔ ¬ ∃ whole : ℕ, units info numeral = whole := by
  have nonneg : 0 ≤ units info numeral :=
    Rounding.scaled_nonneg numeral.coefficient (numeral.shift + info.scale)
  rw [Dropped, value_units, not_iff_not]
  constructor
  · rintro ⟨number, same⟩
    refine ⟨number.natAbs, ?_⟩
    rw [Nat.cast_natAbs, Int.cast_abs, ← same]
    split
    · rw [abs_neg, abs_of_nonneg nonneg]
    · rw [abs_of_nonneg nonneg]
  · rintro ⟨whole, same⟩
    rw [same]
    split
    · exact ⟨-whole, by push_cast; rfl⟩
    · exact ⟨whole, by push_cast; rfl⟩

end

/-! The text of a magnitude tells it. -/

theorem ascii_isDigit {digit : ℕ} (small : digit < 10) :
    asciiDecimalDigit (FixedDigits.ascii digit) = true ∧
      digitValue (FixedDigits.ascii digit) = digit := by
  have number := FixedDigits.ascii_toNat small
  refine ⟨?_, ?_⟩
  · rw [asciiDecimalDigit, Bool.and_eq_true, decide_eq_true_eq, decide_eq_true_eq,
      UInt8.le_iff_toNat_le, UInt8.le_iff_toNat_le, number]
    change 48 ≤ 48 + digit ∧ 48 + digit ≤ 57
    omega
  · rw [digitValue, number, Nat.add_sub_cancel_left]

theorem ascii_areDigits {digits : List ℕ} (small : ∀ digit ∈ digits, digit < 10) :
    AreDigits (digits.map FixedDigits.ascii) := by
  intro byte member
  obtain ⟨digit, mem, rfl⟩ := List.mem_map.mp member
  exact (ascii_isDigit (small digit mem)).1

theorem ascii_value {digits : List ℕ} (small : ∀ digit ∈ digits, digit < 10) :
    digitsValue (digits.map FixedDigits.ascii) = Decimal.value digits := by
  rw [digitsValue, List.map_map]
  congr 1
  exact (List.map_congr_left fun digit member => (ascii_isDigit (small digit member)).2).trans
    (List.map_id _)

theorem numeral_isDigits (number : ℕ) : AreDigits (FixedDigits.numeral number) ∧
    digitsValue (FixedDigits.numeral number) = number := by
  have small : ∀ digit ∈ Decimal.digits number, digit < 10 := fun digit member =>
    Decimal.digits_lt member
  exact ⟨ascii_areDigits small, by rw [FixedDigits.numeral, ascii_value small,
    Decimal.value_digits]⟩

theorem decimalText_injective {scale : ℕ} {isNegative other : Bool} {left right : ℕ}
    (same : decimalText scale isNegative left = decimalText scale other right) : left = right := by
  have recovered (negative : Bool) (magnitude : ℕ) :
      digitsValue ((decimalText scale negative magnitude).filter asciiDecimalDigit) = magnitude := by
    obtain ⟨wholeDigits, wholeValue⟩ := numeral_isDigits (magnitude / 10 ^ scale)
    have sign : (if negative then [45] else []).filter asciiDecimalDigit = [] := by
      cases negative <;> rfl
    rw [decimalText, List.filter_append, List.filter_append, sign, List.nil_append,
      Numeric.filter_digits wholeDigits]
    split
    · rename_i positive
      have below : ((magnitude % 10 ^ scale : ℕ) : ℤ) < 10 ^ scale := by
        exact_mod_cast Nat.mod_lt _ (by positivity)
      obtain ⟨digits, padded, length, small, value⟩ :=
        FixedDigits.padded_digits (Nat.ne_of_gt positive) (Int.natCast_nonneg _) below
      rw [padded, List.filter_cons_of_neg (by decide), Numeric.filter_digits (ascii_areDigits small),
        digitsValue_append, wholeValue, List.length_map, length, ascii_value small,
        Nat.cast_inj.mp value, Nat.mul_comm, Nat.div_add_mod]
    · rename_i none
      have zero : scale = 0 := by omega
      rw [List.filter_nil, List.append_nil, wholeValue, zero, Nat.pow_zero, Nat.div_one]
  rw [← recovered isNegative left, same, recovered]

/-! Outcomes. -/

section

variable {column : Column} {row : Nat}

theorem handled_reported (isNegative ignoreErrors : Bool) :
    Reported column row (handleDecimalOutOfRange column row isNegative ignoreErrors) := by
  rw [handleDecimalOutOfRange]
  split
  · exact Or.inl rfl
  · exact Or.inr ⟨_, rfl, List.mem_singleton.mpr rfl⟩

theorem ok_reported_iff (text : List UInt8) (dropped : Bool) :
    ¬ Reported column row
      (.ok ⟨text, if dropped then [.dataTruncated column.name row] else []⟩) := by
  rintro (error | ⟨stored, same, member⟩)
  · cases error
  · cases same
    cases dropped with
    | false => cases member
    | true => cases List.mem_singleton.mp member

/-- A number that is out of range meets whatever reports it. -/
theorem meets_of_outOfRange {number : ℚ} {outcome : Except Report Stored}
    (outside : OutOfRange column.info number) :
    Meets column row number outcome ↔ Reported column row outcome := by
  constructor
  · intro meets
    exact meets.range.mpr outside
  · intro reported
    exact ⟨⟨fun _ => outside, fun _ => reported⟩, fun inside => absurd outside inside⟩

/-- A number that is not meets only its own text. -/
theorem meets_of_inRange {number : ℚ} {text : List UInt8} {dropped : Bool}
    (inside : ¬ OutOfRange column.info number) :
    Meets column row number
        (.ok ⟨text, if dropped then [.dataTruncated column.name row] else []⟩) ↔
      text = storedText column.info number ∧
        (dropped = true ↔ Dropped column.info number) := by
  have note : Report.dataTruncated column.name row ∈
      (if dropped then [Report.dataTruncated column.name row] else []) ↔ dropped = true := by
    cases dropped <;> simp
  constructor
  · intro meets
    obtain ⟨stored, same, texts, notes⟩ := meets.stored inside
    cases same
    exact ⟨texts, note.symm.trans notes⟩
  · rintro ⟨texts, notes⟩
    refine ⟨⟨fun reported => absurd reported (ok_reported_iff text dropped), fun outside =>
      absurd outside inside⟩, fun _ => ⟨_, rfl, texts, note.trans notes⟩⟩

theorem settled_form (column : Column) (row : Nat) (isNegative ignoreErrors : Bool)
    (magnitude : Nat) (dropped : Bool) :
    settled column row isNegative ignoreErrors magnitude dropped =
        handleDecimalOutOfRange column row isNegative ignoreErrors ∨
      ∃ text, settled column row isNegative ignoreErrors magnitude dropped =
        .ok ⟨text, if dropped then [.dataTruncated column.name row] else []⟩ := by
  rw [settled]
  split
  · exact Or.inl rfl
  · exact Or.inr ⟨_, rfl⟩

end

theorem outOfRange_numeral (info : TypeInfo) (numeral : Numeral) :
    OutOfRange info numeral.value ↔ 10 ^ info.precision ≤ halfUp (units info numeral) ∨
      (info.isUnsigned = true ∧ numeral.sign = some true ∧ numeral.coefficient ≠ 0) := by
  rw [OutOfRange, roundedUnits_natAbs, value_neg]

theorem storedText_numeral (info : TypeInfo) (numeral : Numeral) :
    storedText info numeral.value = decimalText info.scale
      (decide (numeral.sign = some true) && halfUp (units info numeral) != 0)
      (halfUp (units info numeral)) := by
  have sign : decide (roundedUnits info numeral.value < 0) =
      (decide (numeral.sign = some true) && halfUp (units info numeral) != 0) := by
    rw [Bool.eq_iff_iff, decide_eq_true_eq, roundedUnits_neg]
    simp
  rw [storedText, roundedUnits_natAbs, sign]

/-! Unquoted literals. -/

theorem dropped_body (info : TypeInfo) (mantissa : Mantissa) :
    Numeric.hasNonzero ((mantissa.fraction.getD []).drop info.scale) = true ↔
      ¬ ∃ whole : ℕ, scaled mantissa.coefficient (info.scale - mantissa.places) = whole := by
  have areDigits := Numeric.mantissa_areDigits mantissa
  have zeros := hasNonzero_drop_iff areDigits (mantissa.whole.length + info.scale)
  have whole := DigitPlaces.scaled_whole_iff (digits_small areDigits)
    (mantissa.whole.length + info.scale : ℕ)
  have dropped : mantissa.digits.drop (mantissa.whole.length + info.scale) =
      (mantissa.fraction.getD []).drop info.scale := by
    rw [Mantissa.digits, List.drop_length_add_append]
  have shift : ((mantissa.whole.length + info.scale : ℕ) : ℤ) -
      (mantissa.digits.map digitValue).length = info.scale - mantissa.places := by
    rw [List.length_map, Mantissa.digits, List.length_append, Mantissa.places]
    omega
  rw [dropped, ← whole, shift] at zeros
  rw [← Bool.not_eq_false, zeros]
  rfl

theorem literal_converts (column : Column) (row : Nat) (isStrict ignoreErrors : Bool)
    {literal : Numeral} (fixed : literal.exponent = none) :
    ∃ dropped : Bool, (dropped = true ↔ Dropped column.info literal.value) ∧
      convertDecimalLiteral column row (literalNode literal) isStrict ignoreErrors =
        settled column row (literal.sign = some true) ignoreErrors
          (halfUp (units column.info literal)) dropped := by
  have shift : literal.shift + column.info.scale = column.info.scale - literal.places := by
    rw [Numeral.shift, Numeral.exponentValue, fixed]
    simp only [Option.map_none, Option.getD_none]
    omega
  have converted (isNegative : Bool) := canonicalize_body column row literal.hasDigits isNegative
    ignoreErrors
  have operand (isNegative : Bool) : convertOperand column row isNegative
      (if literal.fraction.isSome then .decimal literal.body else .integer literal.body) isStrict
        ignoreErrors =
      canonicalizeDecimalText column row literal.body isNegative ignoreErrors := by
    split <;> rfl
  have none : literal.exponent.isSome = false := by
    rw [fixed]
    rfl
  refine ⟨_, (dropped_body column.info literal.toMantissa).trans ?_, ?_⟩
  · rw [dropped_iff, units, shift]
  · rw [literalNode, none]
    simp only [Bool.false_eq_true, if_false]
    rw [units, shift]
    cases sign : literal.sign with
    | none =>
      simp only [Option.isSome_none, Bool.false_eq_true, if_false]
      exact (operand false).trans (converted false)
    | some negative =>
      simp only [Option.isSome_some, if_true]
      exact (operand _).trans (converted _)

theorem float_not_meets (column : Column) (row : Nat) (isStrict ignoreErrors : Bool)
    {literal : Numeral} (exponent : literal.exponent ≠ none) (number : ℚ) :
    ¬ Meets column row number
      (convertDecimalLiteral column row (literalNode literal) isStrict ignoreErrors) := by
  have some : literal.exponent.isSome = true := Option.isSome_iff_ne_none.mpr exponent
  have refused : convertDecimalLiteral column row (literalNode literal) isStrict ignoreErrors =
      .error unsupportedValue := by
    rw [literalNode, some]
    simp only [if_true]
    split <;> rfl
  intro meets
  rw [refused] at meets
  rcases Classical.em (OutOfRange column.info number) with outside | inside
  · rcases meets.range.mpr outside with error | ⟨stored, same, -⟩
    · cases error
    · cases same
  · obtain ⟨stored, same, -⟩ := meets.stored inside
    cases same

/-- A fixed literal is converted as it should be, but for a negative one that rounds to
zero. -/
theorem literal_meets_iff (column : Column) (row : Nat) (isStrict ignoreErrors : Bool)
    {literal : Numeral} (fixed : literal.exponent = none) :
    Meets column row literal.value
        (convertDecimalLiteral column row (literalNode literal) isStrict ignoreErrors) ↔
      ¬ (column.info.isUnsigned = true ∧ literal.value < 0 ∧
        roundedUnits column.info literal.value = 0) := by
  obtain ⟨dropped, notes, converted⟩ := literal_converts column row isStrict ignoreErrors fixed
  have zero : roundedUnits column.info literal.value = 0 ↔
      halfUp (units column.info literal) = 0 := by
    rw [← roundedUnits_natAbs, Int.natAbs_eq_zero]
  have nonzero : halfUp (units column.info literal) ≠ 0 → literal.coefficient ≠ 0 := by
    intro some none
    exact some (by rw [units, none, Rounding.scaled_zero, Rounding.halfUp_zero])
  rw [converted, value_neg, zero, settled]
  split
  · rename_i reported
    have outside : OutOfRange column.info literal.value := by
      rw [outOfRange_numeral]
      rcases reported with large | ⟨isUnsigned, negative, some⟩
      · exact Or.inl large
      · exact Or.inr ⟨isUnsigned, of_decide_eq_true negative, nonzero some⟩
    have notZero : ¬ (column.info.isUnsigned = true ∧
        (literal.sign = some true ∧ literal.coefficient ≠ 0) ∧
          halfUp (units column.info literal) = 0) := by
      rintro ⟨-, -, none⟩
      rcases reported with large | ⟨-, -, some⟩
      · rw [none] at large
        exact absurd large (Nat.not_le.mpr (by positivity))
      · exact some none
    exact iff_of_true ((meets_of_outOfRange outside).mpr (handled_reported _ _)) notZero
  · rename_i kept
    rw [not_or] at kept
    constructor
    · rintro meets ⟨isUnsigned, negative, none⟩
      have outside : OutOfRange column.info literal.value := by
        rw [outOfRange_numeral]
        exact Or.inr ⟨isUnsigned, negative.1, negative.2⟩
      exact ok_reported_iff _ dropped (meets.range.mpr outside)
    · intro allowed
      have inside : ¬ OutOfRange column.info literal.value := by
        rw [outOfRange_numeral]
        rintro (large | ⟨isUnsigned, negative, some⟩)
        · exact kept.1 large
        · by_cases none : halfUp (units column.info literal) = 0
          · exact allowed ⟨isUnsigned, ⟨negative, some⟩, none⟩
          · exact kept.2 ⟨isUnsigned, decide_eq_true negative, none⟩
      exact (meets_of_inRange inside).mpr ⟨(storedText_numeral column.info literal).symm, notes⟩

/-! Quoted strings. -/

theorem zero_text (info : TypeInfo) :
    buildDecimalZeroValue info = decimalText info.scale false 0 := by
  rw [buildDecimalZeroValue, formatDecimalDigits, decimalText]
  cases info.scale with
  | zero => rfl
  | succ scale =>
    have zeros : FixedDigits.padded (scale + 1) ((0 % 10 ^ (scale + 1) : ℕ) : ℤ) =
        List.replicate (scale + 1) 48 := by
      rw [Nat.zero_mod, FixedDigits.padded, if_neg (by decide), List.replicate_succ']
      rfl
    have whole : FixedDigits.numeral (0 / 10 ^ (scale + 1)) = [48] := by
      rw [Nat.zero_div]
      rfl
    rw [zeros, whole]
    simp

/-- What the conversion of a numeric text becomes. -/
theorem string_converts (column : Column) (row : Nat) (isStrict ignoreErrors : Bool)
    (text : NumericText) :
    ∃ scan : TokenScan, scan.Reads text.numeral ∧
      convertDecimalLiteral column row (quoted text) isStrict ignoreErrors =
        convertDecimalScannedStringLiteral column row scan false
          (allowsAdjustment isStrict ignoreErrors) := by
  obtain ⟨scan, read, reads⟩ := scan_numericText text
  refine ⟨scan, reads, ?_⟩
  change convertDecimalStringText column row text.spelling isStrict ignoreErrors = _
  rw [convertDecimalStringText, read]
  rfl

theorem value_eq_zero_iff (numeral : Numeral) : numeral.value = 0 ↔ numeral.coefficient = 0 := by
  have power : (10 : ℚ) ^ numeral.shift ≠ 0 := by positivity
  rw [Numeral.value, scaled]
  split
  · rw [neg_eq_zero, mul_eq_zero, or_iff_left power, Nat.cast_eq_zero]
  · rw [mul_eq_zero, or_iff_left power, Nat.cast_eq_zero]

theorem zero_string {column : Column} {row : Nat} {scan : TokenScan} {numeral : Numeral}
    (reads : scan.Reads numeral) (zero : numeral.coefficient = 0) (adjustErrors : Bool) :
    convertDecimalScannedStringLiteral column row scan false adjustErrors =
      .ok ⟨decimalText column.info.scale false 0, []⟩ := by
  have none : scan.hasNonzeroDigits = false := by
    rw [← Bool.not_eq_true, hasNonzeroDigits_iff reads]
    exact not_not_intro zero
  rw [convertDecimalScannedStringLiteral, none, zero_text]
  rfl

theorem zero_facts (info : TypeInfo) {numeral : Numeral} (zero : numeral.coefficient = 0) :
    ¬ OutOfRange info numeral.value ∧ storedText info numeral.value = decimalText info.scale false 0 ∧
      ¬ Dropped info numeral.value := by
  have none : units info numeral = 0 := by
    rw [units, zero, Rounding.scaled_zero]
  refine ⟨?_, ?_, ?_⟩
  · rw [outOfRange_numeral, none, Rounding.halfUp_zero]
    rintro (large | ⟨-, -, some⟩)
    · exact absurd large (Nat.not_le.mpr (by positivity))
    · exact some zero
  · rw [storedText_numeral, none, Rounding.halfUp_zero]
    simp
  · rw [dropped_iff, none]
    exact not_not_intro ⟨0, by norm_num⟩

/-- The value of a number below a half is dropped whole. -/
theorem dropped_of_small {coefficient : ℕ} {shift : ℤ} (some : coefficient ≠ 0)
    (small : halfUp (scaled coefficient shift) = 0) :
    ¬ ∃ whole : ℕ, scaled coefficient shift = whole := by
  rintro ⟨whole, same⟩
  rw [same, Rounding.halfUp_natCast] at small
  rw [small, Nat.cast_zero, scaled, mul_eq_zero, Nat.cast_eq_zero] at same
  rcases same with zero | power
  · exact some zero
  · exact absurd power (by positivity)

/-- One number at two places rounds alike only to zero. -/
theorem halfUp_shifted {coefficient : ℕ} {left right : ℤ} (other : left ≠ right)
    (same : halfUp (scaled coefficient left) = halfUp (scaled coefficient right)) :
    halfUp (scaled coefficient left) = 0 := by
  rcases Int.lt_or_gt_of_ne other with less | greater
  · have tenth := Rounding.scaled_le_tenth coefficient less
    have small := (Rounding.halfUp_eq_of_tenth (Rounding.scaled_nonneg _ _) tenth).mp same
    rw [same, Rounding.halfUp_eq_zero_iff]
    exact small
  · have tenth := Rounding.scaled_le_tenth coefficient greater
    have small := (Rounding.halfUp_eq_of_tenth (Rounding.scaled_nonneg _ _) tenth).mp same.symm
    rw [Rounding.halfUp_eq_zero_iff]
    exact small

theorem position_shift (numeral : Numeral) :
    position numeral - numeral.digits.length = numeral.shift := by
  rw [position, Mantissa.digits, List.length_append, Numeral.shift, Mantissa.places]
  omega

/-- The number at the clamped position is converted as the number itself exactly where the
clamps are harmless. -/
theorem settled_meets_iff {column : Column} {row : Nat} {numeral : Numeral} {isNegative : Bool}
    {adjustErrors dropped : Bool} (sign : isNegative = true ↔ numeral.sign = some true)
    (some : numeral.coefficient ≠ 0)
    (allowed : ¬ (column.info.isUnsigned = true ∧ isNegative = true))
    (notes : dropped = true ↔ ¬ ∃ whole : ℕ, scaled numeral.coefficient
      (clampedPosition numeral + column.info.scale - numeral.digits.length) = whole) :
    Meets column row numeral.value (settled column row isNegative adjustErrors
        (clampedUnits column.info numeral) dropped) ↔ ClampsHarmless column.info numeral := by
  have range : OutOfRange column.info numeral.value ↔
      10 ^ column.info.precision ≤ halfUp (units column.info numeral) := by
    rw [outOfRange_numeral, or_iff_left]
    rintro ⟨isUnsigned, negative, -⟩
    exact allowed ⟨isUnsigned, sign.mpr negative⟩
  have exact : position numeral + column.info.scale - numeral.digits.length =
      numeral.shift + column.info.scale := by
    have shift := position_shift numeral
    omega
  have unclamped : clampedPosition numeral = position numeral →
      clampedUnits column.info numeral = halfUp (units column.info numeral) := by
    intro same
    rw [clampedUnits, same, exact, units]
  have positive : 10 ^ column.info.precision ≠ 0 := by positivity
  rw [ClampsHarmless, ← Int.natAbs_eq_zero, roundedUnits_natAbs]
  by_cases large : 10 ^ column.info.precision ≤ clampedUnits column.info numeral
  · rw [settled, if_pos (Or.inl large)]
    by_cases outside : OutOfRange column.info numeral.value
    · rw [meets_of_outOfRange outside]
      exact iff_of_true (handled_reported _ _) (Or.inr (Or.inl ⟨large, range.mp outside⟩))
    · have notLarge := mt range.mpr outside
      refine iff_of_false ?_ ?_
      · intro meets
        exact outside (meets.range.mp (handled_reported _ _))
      · rintro (same | ⟨-, alsoLarge⟩ | ⟨none, -⟩)
        · exact notLarge (unclamped same ▸ large)
        · exact notLarge alsoLarge
        · exact positive (Nat.le_zero.mp (none ▸ large))
  · have kept : ¬ (10 ^ column.info.precision ≤ clampedUnits column.info numeral ∨
        (column.info.isUnsigned = true ∧ isNegative = true ∧
          clampedUnits column.info numeral ≠ 0)) := by
      rintro (isLarge | ⟨isUnsigned, negative, -⟩)
      · exact large isLarge
      · exact allowed ⟨isUnsigned, negative⟩
    rw [settled, if_neg kept]
    by_cases outside : OutOfRange column.info numeral.value
    · have alsoLarge := range.mp outside
      rw [meets_of_outOfRange outside]
      refine iff_of_false (ok_reported_iff _ _) ?_
      rintro (same | ⟨isLarge, -⟩ | ⟨-, none⟩)
      · exact large (unclamped same ▸ alsoLarge)
      · exact large isLarge
      · exact positive (Nat.le_zero.mp (none ▸ alsoLarge))
    · have flag : isNegative = decide (numeral.sign = .some true) := by
        rw [Bool.eq_iff_iff, sign, decide_eq_true_eq]
      rw [meets_of_inRange outside, storedText_numeral, notes, dropped_iff, flag]
      constructor
      · rintro ⟨texts, -⟩
        have same := decimalText_injective texts
        by_cases unmoved : clampedPosition numeral = position numeral
        · exact Or.inl unmoved
        · have moved : clampedPosition numeral + column.info.scale - numeral.digits.length ≠
              numeral.shift + column.info.scale := by omega
          have none := halfUp_shifted moved same
          exact Or.inr (Or.inr ⟨none, same ▸ none⟩)
      · rintro (same | ⟨isLarge, -⟩ | ⟨none, alsoNone⟩)
        · rw [unclamped same, same, exact]
          exact ⟨rfl, Iff.rfl⟩
        · exact absurd isLarge large
        · rw [none, alsoNone]
          exact ⟨rfl, iff_of_true (dropped_of_small some none) (dropped_of_small some alsoNone)⟩

/-- A quoted string is converted as it should be where the clamps do not count. -/
theorem string_meets_iff (column : Column) (row : Nat) (isStrict ignoreErrors : Bool)
    (text : NumericText) :
    Meets column row text.numeral.value
        (convertDecimalLiteral column row (quoted text) isStrict ignoreErrors) ↔
      text.numeral.value = 0 ∨ (column.info.isUnsigned = true ∧ text.numeral.value < 0) ∨
        ClampsHarmless column.info text.numeral := by
  obtain ⟨scan, reads, converted⟩ := string_converts column row isStrict ignoreErrors text
  generalize text.numeral = numeral at *
  rw [converted, value_eq_zero_iff, value_neg]
  by_cases zero : numeral.coefficient = 0
  · obtain ⟨inside, stored, notDropped⟩ := zero_facts column.info zero
    rw [zero_string reads zero]
    refine iff_of_true ?_ (Or.inl zero)
    exact (@meets_of_inRange _ _ _ _ false inside).mpr
      ⟨stored.symm, ⟨fun never => absurd never (by decide), fun dropped => absurd dropped notDropped⟩⟩
  · obtain ⟨dropped, notes, settles⟩ := convertScanned_eq reads column row
      (allowsAdjustment isStrict ignoreErrors) zero
    have sign : scan.isNegative = true ↔ numeral.sign = some true := by
      rw [reads.isNegative, decide_eq_true_eq]
    have place : scan.decimalPosition = clampedPosition numeral := by
      rw [TokenScan.decimalPosition, reads.integerDigitCount, reads.exponent, clampedPosition]
    rw [place] at notes settles
    rw [settles]
    by_cases negative : column.info.isUnsigned = true ∧ scan.isNegative = true
    · have below : column.info.isUnsigned = true ∧ numeral.sign = some true ∧
          numeral.coefficient ≠ 0 := ⟨negative.1, sign.mp negative.2, zero⟩
      have outside : OutOfRange column.info numeral.value := by
        rw [outOfRange_numeral]
        exact Or.inr below
      rw [if_pos negative]
      exact iff_of_true ((meets_of_outOfRange outside).mpr (handled_reported _ _))
        (Or.inr (Or.inl below))
    · have notBelow : ¬ (column.info.isUnsigned = true ∧ numeral.sign = some true ∧
          numeral.coefficient ≠ 0) := by
        rintro ⟨isUnsigned, isNegative, -⟩
        exact negative ⟨isUnsigned, sign.mpr isNegative⟩
      rw [if_neg negative, or_iff_right zero, or_iff_right notBelow]
      exact settled_meets_iff sign zero negative notes

/-! Both forms. -/

theorem string_reported {column : Column} {row : Nat} {isStrict ignoreErrors : Bool}
    {text : NumericText}
    (reported : Reported column row
      (convertDecimalLiteral column row (quoted text) isStrict ignoreErrors)) :
    convertDecimalLiteral column row (quoted text) isStrict ignoreErrors =
      handleDecimalOutOfRange column row (text.numeral.sign = some true)
        (allowsAdjustment isStrict ignoreErrors) := by
  obtain ⟨scan, reads, converted⟩ := string_converts column row isStrict ignoreErrors text
  rw [converted] at reported ⊢
  by_cases zero : text.numeral.coefficient = 0
  · rw [zero_string reads zero] at reported
    exact absurd reported (ok_reported_iff _ false)
  · obtain ⟨dropped, -, settles⟩ := convertScanned_eq reads column row
      (allowsAdjustment isStrict ignoreErrors) zero
    rw [settles] at reported ⊢
    rw [← reads.isNegative]
    by_cases negative : column.info.isUnsigned = true ∧ scan.isNegative = true
    · rw [if_pos negative]
    · rw [if_neg negative] at reported ⊢
      rcases settled_form column row scan.isNegative (allowsAdjustment isStrict ignoreErrors)
        (halfUp (scaled text.numeral.coefficient
          (scan.decimalPosition + column.info.scale - text.numeral.digits.length))) dropped with
        handled | ⟨kept, stored⟩
      · exact handled
      · rw [stored] at reported
        exact absurd reported (ok_reported_iff _ _)

theorem literal_reported {column : Column} {row : Nat} {isStrict ignoreErrors : Bool}
    {literal : Numeral} (fixed : literal.exponent = none)
    (reported : Reported column row
      (convertDecimalLiteral column row (literalNode literal) isStrict ignoreErrors)) :
    convertDecimalLiteral column row (literalNode literal) isStrict ignoreErrors =
      handleDecimalOutOfRange column row (literal.sign = some true) ignoreErrors := by
  obtain ⟨dropped, -, converted⟩ := literal_converts column row isStrict ignoreErrors fixed
  rw [converted] at reported ⊢
  rcases settled_form column row (literal.sign = some true) ignoreErrors
    (halfUp (units column.info literal)) dropped with handled | ⟨kept, stored⟩
  · exact handled
  · rw [stored] at reported
    exact absurd reported (ok_reported_iff _ _)

/-- A clipped value is stored only where errors are adjusted. -/
theorem handled_stored_eq_iff (column : Column) (row : Nat) (isNegative left right : Bool) :
    storedOf (handleDecimalOutOfRange column row isNegative left) =
      storedOf (handleDecimalOutOfRange column row isNegative right) ↔ left = right := by
  cases left <;> cases right <;> simp [handleDecimalOutOfRange, storedOf, Except.toOption]

/-- Where a quoted string and an unquoted literal of one value are both converted exactly. -/
structure Handled (column : Column) (isStrict ignoreErrors : Bool) (text : NumericText)
    (literal : Numeral) : Prop where
  fixed : literal.exponent = none
  notTiny : ¬ (column.info.isUnsigned = true ∧ text.numeral.value < 0 ∧
    roundedUnits column.info text.numeral.value = 0)
  clamps : text.numeral.value = 0 ∨ (column.info.isUnsigned = true ∧ text.numeral.value < 0) ∨
    ClampsHarmless column.info text.numeral
  adjusted : isStrict = true ∨ ignoreErrors = true ∨ ¬ OutOfRange column.info text.numeral.value

/-- For every column, quoted numeric text and unquoted literal of its value. -/
theorem decimal_forms_exact_iff (column : Column) (row : Nat) (isStrict ignoreErrors : Bool)
    (text : NumericText) (literal : Numeral) (same : text.numeral.value = literal.value) :
    Exact column row isStrict ignoreErrors text literal ↔
      Handled column isStrict ignoreErrors text literal := by
  have quotedMeets := string_meets_iff column row isStrict ignoreErrors text
  by_cases fixed : literal.exponent = none
  · have unquotedMeets := literal_meets_iff column row isStrict ignoreErrors fixed
    rw [← same] at unquotedMeets
    -- both meet the number, so they can differ only where it is out of range
    have stored (left : Meets column row text.numeral.value
          (convertDecimalLiteral column row (quoted text) isStrict ignoreErrors))
        (right : Meets column row text.numeral.value
          (convertDecimalLiteral column row (literalNode literal) isStrict ignoreErrors)) :
        storedOf (convertDecimalLiteral column row (quoted text) isStrict ignoreErrors) =
            storedOf (convertDecimalLiteral column row (literalNode literal) isStrict
              ignoreErrors) ↔
          isStrict = true ∨ ignoreErrors = true ∨
            ¬ OutOfRange column.info text.numeral.value := by
      by_cases outside : OutOfRange column.info text.numeral.value
      · have some : text.numeral.coefficient ≠ 0 := fun zero =>
          (zero_facts column.info zero).1 outside
        have alsoSome : literal.coefficient ≠ 0 := by
          rw [ne_eq, ← value_eq_zero_iff, ← same, value_eq_zero_iff]
          exact some
        have signs : decide (literal.sign = .some true) =
            decide (text.numeral.sign = .some true) := by
          have negative := value_neg text.numeral
          rw [same, value_neg, and_iff_left some, and_iff_left alsoSome] at negative
          exact decide_eq_decide.mpr negative
        rw [string_reported (left.range.mpr outside), literal_reported fixed
          (right.range.mpr outside), signs, handled_stored_eq_iff, allowsAdjustment]
        cases isStrict <;> cases ignoreErrors <;> simp [outside]
      · obtain ⟨_, leftOk, leftText, -⟩ := left.stored outside
        obtain ⟨_, rightOk, rightText, -⟩ := right.stored outside
        rw [leftOk, rightOk]
        refine iff_of_true ?_ (Or.inr (Or.inr outside))
        change Option.some _ = Option.some _
        rw [leftText, rightText]
    constructor
    · intro exact
      have unquoted := exact.unquoted
      rw [← same] at unquoted
      exact ⟨fixed, unquotedMeets.mp unquoted, quotedMeets.mp exact.quoted,
        (stored exact.quoted unquoted).mp exact.sameStored⟩
    · intro handled
      have left := quotedMeets.mpr handled.clamps
      have right := unquotedMeets.mpr handled.notTiny
      exact ⟨left, same ▸ right, (stored left right).mpr handled.adjusted,
        left.range.trans right.range.symm⟩
  · constructor
    · intro exact
      exact absurd exact.unquoted (float_not_meets column row isStrict ignoreErrors fixed _)
    · intro handled
      exact absurd handled.fixed fixed

/-- A DECIMAL(5,2) column. -/
def priceColumn (isUnsigned : Bool) : Column where
  name := [97]
  info := ⟨5, 2, isUnsigned, by decide, by decide, by decide⟩

def fixedNumeral (sign : Option Bool) (whole fraction : List UInt8)
    (wholeDigits : whole.all asciiDecimalDigit = true)
    (fractionDigits : fraction.all asciiDecimalDigit = true) (nonempty : whole ≠ []) : Numeral where
  sign
  whole
  fraction := some fraction
  exponent := none
  wholeDigits := Numeric.areDigits_of_all _ wholeDigits
  fractionDigits := Numeric.areDigits_of_all _ fractionDigits
  hasDigits := fun empty => nonempty (List.append_eq_nil_iff.mp empty).1

def plainText (numeral : Numeral) : NumericText :=
  ⟨[], numeral, [], fun _ none => absurd none List.not_mem_nil,
    fun _ none => absurd none List.not_mem_nil⟩

/-- `12.345`. -/
def rounding : Numeral := fixedNumeral none [49, 50] [51, 52, 53] (by decide) (by decide) (by decide)

theorem decimal_forms_exact_rounding :
    Exact (priceColumn false) 1 true false (plainText rounding) rounding := by
  refine (decimal_forms_exact_iff (priceColumn false) 1 true false (plainText rounding) rounding
    rfl).mpr ⟨rfl, ?_, Or.inr (Or.inr (Or.inl ?_)), Or.inl rfl⟩
  · rintro ⟨never, -⟩
    cases never
  · decide

/-- `-0.001`. -/
def tiny : Numeral := fixedNumeral (some true) [48] [48, 48, 49] (by decide) (by decide) (by decide)

/-- A negative number that rounds to zero is out of range of an unsigned column as a string,
and stored as a literal. -/
theorem tiny_negative_not_exact : ¬ ∀ (column : Column) (row : Nat) (isStrict ignoreErrors : Bool)
    (text : NumericText) (literal : Numeral), text.numeral.value = literal.value →
      Exact column row isStrict ignoreErrors text literal := by
  intro exact
  have meets := (exact (priceColumn true) 1 true false (plainText tiny) tiny rfl).unquoted
  have negative : tiny.value < 0 := (value_neg tiny).mpr ⟨rfl, by decide⟩
  have none : roundedUnits (priceColumn true).info tiny.value = 0 := by
    have shift : tiny.shift + (priceColumn true).info.scale = -(0 + 1 : ℕ) := by decide
    have coefficient : tiny.coefficient = 1 := by decide
    rw [← Int.natAbs_eq_zero, roundedUnits_natAbs, units, shift, coefficient,
      Rounding.halfUp_scaled_neg]
    decide
  exact (literal_meets_iff (priceColumn true) 1 true false rfl).mp meets ⟨rfl, negative, none⟩

end MyLite.DecimalColumn
