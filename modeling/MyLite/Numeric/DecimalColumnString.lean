import MyLite.Numeric.DecimalColumnRound

/-! A scanned string is converted as the number it stands for at the decimal position. -/

namespace MyLite.DecimalColumn

open Numeric (asciiDecimalDigit digitValue AreDigits Mantissa Numeral digitsValue hasNonzero
  leadingZeros fractionSpelling)
open Rounding (halfUp scaled)
open DigitPlaces (digitAt front window)

/-! Virtual digits. -/

section

variable {scan : TokenScan} {digits : List UInt8}

theorem virtualDigit_isDigit (areDigits : AreDigits digits) (scan : TokenScan) (index : Int) :
    asciiDecimalDigit (virtualDigit digits scan index) = true := by
  rw [virtualDigit]
  split
  · rfl
  · cases same : digits[index.toNat]? with
    | none => rfl
    | some byte => exact areDigits byte (List.mem_of_getElem? same)

theorem virtualDigit_value (marks : scan.Marks digits) (index : Int) :
    digitValue (virtualDigit digits scan index) = digitAt (digits.map digitValue) index := by
  have count := marks.digitCount
  rw [virtualDigit]
  split
  · rename_i outside
    rcases outside with before | beyond
    · rw [DigitPlaces.digitAt_of_neg before]
      rfl
    · rw [DigitPlaces.digitAt_beyond (by rw [List.length_map]; omega)]
      rfl
  · rename_i inside
    obtain ⟨place, rfl⟩ : ∃ place : Nat, index = place := ⟨index.toNat, by omega⟩
    rw [digitAt_map, Int.toNat_natCast]
    cases digits[place]? with
    | none => rfl
    | some byte => rfl

theorem hasNonzeroVirtualDigit_iff (marks : scan.Marks digits) (areDigits : AreDigits digits)
    (some : scan.hasNonzeroDigits = true) (index : Int) :
    hasNonzeroVirtualDigitAtOrAfter scan index = true ↔
      ¬ ∀ other : Int, index ≤ other → digitAt (digits.map digitValue) other = 0 := by
  have after (place : Nat) := hasNonzero_drop_iff areDigits place
  have last (place : Nat) := marks.last place
  have whole : ¬ ∀ other : Int, 0 ≤ other → digitAt (digits.map digitValue) other = 0 := by
    have zero := after 0
    rw [List.drop_zero, ← marks.nonzero, some] at zero
    intro zeros
    cases zero.mpr zeros
  rw [hasNonzeroVirtualDigitAtOrAfter, some]
  simp only [Bool.not_true, Bool.false_eq_true, if_false]
  split
  · rename_i before
    constructor
    · intro _ zeros
      exact whole fun other later => zeros other (by omega)
    · intro _
      rfl
  · obtain ⟨place, rfl⟩ : ∃ place : Nat, index = place := ⟨index.toNat, by omega⟩
    rw [← after place, last place, some, Bool.true_and, decide_eq_true_eq, Bool.not_eq_false,
      decide_eq_true_eq]
    omega

/-- The first digit that is no zero, and the zeros in front of it. -/
theorem firstNonzero_spec (marks : scan.Marks digits) (areDigits : AreDigits digits)
    (some : scan.hasNonzeroDigits = true) :
    digitAt (digits.map digitValue) scan.firstNonzeroDigitIndex ≠ 0 ∧
      ∀ other : Int, other < scan.firstNonzeroDigitIndex →
        digitAt (digits.map digitValue) other = 0 := by
  have counted := marks.first some
  have nonzero := marks.nonzero ▸ some
  have parts := List.takeWhile_append_dropWhile (p := (· == 48)) (l := digits)
  have zeros : ∀ byte ∈ digits.takeWhile (· == 48), byte = 48 := by
    intro byte member
    have test := List.mem_takeWhile_imp (p := (· == 48)) member
    exact eq_of_beq test
  have ends := Scanning.endsRun_dropWhile (· == 48) digits
  rw [counted, leadingZeros, if_neg (by decide)]
  generalize digits.takeWhile (· == 48) = front at parts zeros
  generalize digits.dropWhile (· == 48) = back at parts ends
  subst parts
  cases back with
  | nil =>
    rw [List.append_nil, hasNonzero, List.any_eq_true] at nonzero
    obtain ⟨byte, member, other⟩ := nonzero
    rw [zeros byte member] at other
    cases other
  | cons byte others =>
    have other : (byte == 48) = false := ends byte rfl
    have isDigit := areDigits byte (List.mem_append_right _ List.mem_cons_self)
    constructor
    · rw [digitAt_map, List.getElem?_append_right (Nat.le_refl _), Nat.sub_self]
      change digitValue byte ≠ 0
      intro zero
      rw [(Numeric.digitValue_eq_zero isDigit).mp zero] at other
      cases other
    · intro place less
      by_cases negative : place < 0
      · exact DigitPlaces.digitAt_of_neg negative
      · obtain ⟨index, rfl⟩ : ∃ index : Nat, place = index := ⟨place.toNat, by omega⟩
        have inside : index < front.length := by omega
        rw [digitAt_map, List.getElem?_append_left inside, List.getElem?_eq_getElem inside,
          zeros _ (List.getElem_mem inside)]
        rfl

theorem exceedsDecimalRange_iff (info : TypeInfo) (some : scan.hasNonzeroDigits = true) :
    exceedsDecimalRange scan info = true ↔
      (info.isUnsigned = true ∧ scan.isNegative = true) ∨
        (info.precision - info.scale : ℕ) <
          scan.decimalPosition - (scan.firstNonzeroDigitIndex : ℤ) := by
  rw [exceedsDecimalRange, some, ← Bool.and_eq_true]
  by_cases negative : (info.isUnsigned && scan.isNegative) = true
  · simp [negative]
  · simp only [Bool.not_true, Bool.false_eq_true, if_false, negative, false_or]
    split
    · rename_i before
      constructor
      · intro never
        cases never
      · intro more
        omega
    · rw [decide_eq_true_eq]

end

/-! The rewritten text. -/

/-- The decimals of the column are copied. -/
theorem fractionDigits_front (scan : TokenScan) (digits : List UInt8) (info : TypeInfo) :
    (List.range info.scale).map (fractionDigit scan info digits) =
      (List.range info.scale).map fun index : ℕ =>
        virtualDigit digits scan (scan.decimalPosition + index) := by
  apply List.map_congr_left
  intro index member
  have less : index ≠ info.scale := Nat.ne_of_lt (List.mem_range.mp member)
  rw [fractionDigit]
  exact if_neg fun last => less last.1

section

variable {scan : TokenScan} {numeral : Numeral} (reads : scan.Reads numeral)

/-- The digits of the numeral. -/
def places (numeral : Numeral) : List ℕ := numeral.digits.map digitValue

include reads

theorem copyScanDigits_eq : copyScanDigits scan = numeral.digits := reads.marks.digits

theorem integerText_value (some : scan.hasNonzeroDigits = true) :
    AreDigits (integerText scan numeral.digits) ∧
      digitsValue (integerText scan numeral.digits) = front (places numeral) scan.decimalPosition ∧
      integerText scan numeral.digits ≠ [] := by
  have areDigits := Numeric.mantissa_areDigits numeral.toMantissa
  obtain ⟨-, zeros⟩ := firstNonzero_spec reads.marks areDigits some
  rw [integerText]
  split
  · rename_i before
    have nothing : front (places numeral) scan.decimalPosition = 0 :=
      DigitPlaces.front_eq_zero fun other less => zeros other (by omega)
    rw [nothing]
    exact ⟨Numeric.areDigits_of_all _ (by decide), rfl, List.cons_ne_nil _ _⟩
  · rename_i after
    have nothing : front (places numeral) scan.firstNonzeroDigitIndex = 0 :=
      DigitPlaces.front_eq_zero zeros
    obtain ⟨count, length⟩ : ∃ count : ℕ,
        scan.decimalPosition - scan.firstNonzeroDigitIndex = count :=
      ⟨(scan.decimalPosition - scan.firstNonzeroDigitIndex).toNat, by omega⟩
    have positive : count ≠ 0 := by omega
    have values := DigitPlaces.value_window (places numeral) scan.firstNonzeroDigitIndex count
    have position : (scan.firstNonzeroDigitIndex : ℤ) + count = scan.decimalPosition := by omega
    rw [nothing, Nat.zero_mul, Nat.zero_add, position] at values
    rw [length, Int.toNat_natCast]
    refine ⟨?_, ?_, ?_⟩
    · intro byte member
      obtain ⟨index, -, rfl⟩ := List.mem_map.mp member
      exact virtualDigit_isDigit areDigits scan _
    · rw [← values, digitsValue, List.map_map, window]
      congr 1
      apply List.map_congr_left
      intro index _
      exact virtualDigit_value reads.marks _
    · intro empty
      rw [List.map_eq_nil_iff, List.range_eq_nil] at empty
      exact positive empty

/-- The digit behind them rounds as the numeral's does, and it is zero only in front of
zeros. -/
theorem fractionDigit_last (info : TypeInfo) (some : scan.hasNonzeroDigits = true) :
    asciiDecimalDigit (fractionDigit scan info numeral.digits info.scale) = true ∧
      (5 ≤ digitValue (fractionDigit scan info numeral.digits info.scale) ↔
        5 ≤ digitAt (places numeral) (scan.decimalPosition + info.scale)) ∧
      (fractionDigit scan info numeral.digits info.scale = 48 ↔
        ∀ other : ℤ, scan.decimalPosition + info.scale ≤ other →
          digitAt (places numeral) other = 0) := by
  have areDigits := Numeric.mantissa_areDigits numeral.toMantissa
  have isDigit := virtualDigit_isDigit areDigits scan (scan.decimalPosition + info.scale)
  have value := virtualDigit_value reads.marks (scan.decimalPosition + info.scale)
  have zero := Numeric.digitValue_eq_zero isDigit
  have later := hasNonzeroVirtualDigit_iff reads.marks areDigits some
    (scan.decimalPosition + info.scale + 1)
  rw [value] at zero
  change digitAt (places numeral) _ = 0 ↔ _ at zero
  change _ ↔ ¬ ∀ other : ℤ, _ → digitAt (places numeral) other = 0 at later
  rw [fractionDigit]
  split
  · rename_i sticky
    obtain ⟨-, here, nonzero⟩ := sticky
    refine ⟨rfl, ?_, ?_⟩
    · rw [zero.mpr here]
      exact ⟨fun half => absurd half (by decide), fun half => absurd half (by decide)⟩
    · refine ⟨fun never => absurd never (by decide), fun zeros => ?_⟩
      exact absurd (fun other less => zeros other (by omega)) (later.mp nonzero)
  · rename_i plain
    refine ⟨isDigit, by rw [value]; rfl, ?_⟩
    constructor
    · intro here other less
      rcases Int.lt_or_eq_of_le less with beyond | rfl
      · by_contra nonzero
        apply plain
        refine ⟨rfl, here, later.mpr fun zeros => nonzero (zeros other (by omega))⟩
      · exact zero.mpr here
    · intro zeros
      exact zero.mp (zeros _ (Int.le_refl _))

/-- The rewritten text as a mantissa. -/
theorem rewritten_mantissa (info : TypeInfo) (some : scan.hasNonzeroDigits = true)
    (inside : exceedsDecimalRange scan info = false) :
    ∃ mantissa : Mantissa, buildDecimalTextFromNumericScan scan info = .some mantissa.body ∧
      mantissa.digits ≠ [] ∧ mantissa.places = info.scale + 1 ∧
      halfUp (scaled mantissa.coefficient (info.scale - mantissa.places)) =
        halfUp (scaled numeral.coefficient
          (scan.decimalPosition + info.scale - numeral.digits.length)) ∧
      (hasNonzero ((mantissa.fraction.getD []).drop info.scale) = true ↔
        ¬ ∃ whole : ℕ, scaled numeral.coefficient
          (scan.decimalPosition + info.scale - numeral.digits.length) = whole) := by
  have areDigits := Numeric.mantissa_areDigits numeral.toMantissa
  have small := digits_small areDigits
  obtain ⟨wholeDigits, wholeValue, wholeSome⟩ := integerText_value reads some
  obtain ⟨lastDigit, lastHalf, lastZero⟩ := fractionDigit_last reads info some
  have fraction : (List.range (info.scale + 1)).map (fractionDigit scan info numeral.digits) =
      ((List.range info.scale).map fun index : ℕ =>
        virtualDigit numeral.digits scan (scan.decimalPosition + index)) ++
          [fractionDigit scan info numeral.digits info.scale] := by
    rw [List.range_succ, List.map_append, fractionDigits_front scan numeral.digits info]
    rfl
  have frontDigits : AreDigits ((List.range info.scale).map fun index : ℕ =>
      virtualDigit numeral.digits scan (scan.decimalPosition + index)) := by
    intro byte member
    obtain ⟨index, -, rfl⟩ := List.mem_map.mp member
    exact virtualDigit_isDigit areDigits scan _
  have frontValue : digitsValue ((List.range info.scale).map fun index : ℕ =>
      virtualDigit numeral.digits scan (scan.decimalPosition + index)) =
        Decimal.value (window (places numeral) scan.decimalPosition info.scale) := by
    rw [digitsValue, List.map_map, window]
    congr 1
    apply List.map_congr_left
    intro index _
    exact virtualDigit_value reads.marks _
  have frontLength : ((List.range info.scale).map fun index : ℕ =>
      virtualDigit numeral.digits scan (scan.decimalPosition + index)).length = info.scale := by
    rw [List.length_map, List.length_range]
  generalize ((List.range info.scale).map fun index : ℕ =>
    virtualDigit numeral.digits scan (scan.decimalPosition + index)) = decimals at *
  generalize fractionDigit scan info numeral.digits info.scale = last at *
  have lastDigits : AreDigits [last] := fun byte member => by
    rw [List.mem_singleton.mp member]
    exact lastDigit
  have lastSmall := Numeric.digitValue_lt lastDigit
  refine ⟨⟨none, integerText scan numeral.digits, .some (decimals ++ [last]), wholeDigits,
    areDigits_append frontDigits lastDigits⟩, ?_, ?_, ?_, ?_, ?_⟩
  · rw [buildDecimalTextFromNumericScan, inside, copyScanDigits_eq reads, if_neg (by decide)]
    dsimp only
    rw [fraction]
    rfl
  · intro empty
    exact wholeSome (List.append_eq_nil_iff.mp empty).1
  · rw [Mantissa.places, Option.getD_some, List.length_append, frontLength, List.length_singleton]
  · have value : Mantissa.coefficient ⟨none, integerText scan numeral.digits,
        .some (decimals ++ [last]), wholeDigits, areDigits_append frontDigits lastDigits⟩ =
          front (places numeral) (scan.decimalPosition + info.scale) * 10 + digitValue last := by
      rw [Mantissa.coefficient, Mantissa.digits, Option.getD_some, ← List.append_assoc,
        digitsValue_snoc, digitsValue_append, wholeValue, frontValue, frontLength,
        DigitPlaces.value_window]
    have shift : (info.scale : ℤ) - (decimals ++ [last]).length = -(0 + 1 : ℕ) := by
      rw [List.length_append, frontLength, List.length_singleton]
      omega
    have rounded := DigitPlaces.halfUp_scaled small (scan.decimalPosition + info.scale)
    rw [List.length_map] at rounded
    rw [value, Mantissa.places, Option.getD_some, shift, Rounding.halfUp_scaled_neg]
    refine Eq.trans ?_ rounded.symm
    change _ = front (places numeral) _ + if 5 ≤ digitAt (places numeral) _ then 1 else 0
    simp only [← lastHalf]
    have quotient : (front (places numeral) (scan.decimalPosition + info.scale) * 10 +
        digitValue last) / 10 ^ (0 + 1) =
          front (places numeral) (scan.decimalPosition + info.scale) := by omega
    have remainder : (front (places numeral) (scan.decimalPosition + info.scale) * 10 +
        digitValue last) / 10 ^ 0 % 10 = digitValue last := by omega
    rw [quotient, remainder]
  · have whole := DigitPlaces.scaled_whole_iff small (scan.decimalPosition + info.scale)
    rw [List.length_map] at whole
    change (∃ number : ℕ, scaled numeral.coefficient _ = number) ↔
      ∀ other : ℤ, _ → digitAt (places numeral) other = 0 at whole
    rw [whole, ← lastZero, Option.getD_some, ← frontLength, List.drop_left, hasNonzero]
    simp

/-- A number with too many integer digits is too large. -/
theorem large_of_exceeds {info : TypeInfo} (some : scan.hasNonzeroDigits = true)
    (more : (info.precision - info.scale : ℕ) <
      scan.decimalPosition - (scan.firstNonzeroDigitIndex : ℤ)) :
    10 ^ info.precision ≤ halfUp (scaled numeral.coefficient
      (scan.decimalPosition + info.scale - numeral.digits.length)) := by
  have areDigits := Numeric.mantissa_areDigits numeral.toMantissa
  obtain ⟨first, -⟩ := firstNonzero_spec reads.marks areDigits some
  have fits := info.scaleFits
  have rounded := DigitPlaces.halfUp_scaled (digits_small areDigits)
    (scan.decimalPosition + info.scale)
  rw [List.length_map] at rounded
  obtain ⟨count, length⟩ : ∃ count : ℕ,
      scan.decimalPosition + info.scale = scan.firstNonzeroDigitIndex + (count + 1 : ℕ) :=
    ⟨(scan.decimalPosition + info.scale - scan.firstNonzeroDigitIndex - 1).toNat, by omega⟩
  have enough : info.precision ≤ count := by omega
  have values := DigitPlaces.value_window (numeral.digits.map digitValue)
    scan.firstNonzeroDigitIndex (count + 1)
  rw [← length] at values
  have lead : 10 ^ count ≤ Decimal.value (window (numeral.digits.map digitValue)
      scan.firstNonzeroDigitIndex (count + 1)) := by
    have split : window (numeral.digits.map digitValue) scan.firstNonzeroDigitIndex (count + 1) =
        digitAt (numeral.digits.map digitValue) scan.firstNonzeroDigitIndex ::
          (List.range count).map fun index : ℕ =>
            digitAt (numeral.digits.map digitValue)
              (scan.firstNonzeroDigitIndex + (index + 1 : ℕ)) := by
      rw [window, List.range_succ_eq_map, List.map_cons, List.map_map, Nat.cast_zero, add_zero]
      rfl
    have power := @Decimal.pow_le_value (digitAt (numeral.digits.map digitValue)
      scan.firstNonzeroDigitIndex) ((List.range count).map fun index : ℕ =>
        digitAt (numeral.digits.map digitValue) (scan.firstNonzeroDigitIndex + (index + 1 : ℕ))) first
    rw [List.length_map, List.length_range] at power
    rw [split]
    exact power
  calc 10 ^ info.precision ≤ 10 ^ count := Nat.pow_le_pow_right (by decide) enough
    _ ≤ front (numeral.digits.map digitValue) (scan.decimalPosition + info.scale) := by
        rw [← values]
        exact Nat.le_trans lead (Nat.le_add_left _ _)
    _ ≤ halfUp (scaled numeral.coefficient
          (scan.decimalPosition + info.scale - numeral.digits.length)) := by
        refine Nat.le_trans (Nat.le_add_right _ _) (Nat.le_of_eq rounded.symm)

theorem hasNonzeroDigits_iff : scan.hasNonzeroDigits = true ↔ numeral.coefficient ≠ 0 := by
  have areDigits := Numeric.mantissa_areDigits numeral.toMantissa
  have zero := digitsValue_eq_zero_iff areDigits
  have none : hasNonzero numeral.digits = !decimalDigitsAreZero numeral.digits := by
    rw [hasNonzero, decimalDigitsAreZero, List.not_all_eq_any_not]
    rfl
  rw [reads.marks.nonzero, none, Mantissa.coefficient, ne_eq, zero, Bool.not_eq_true',
    Bool.not_eq_true]

/-- A string of a number that is not zero is converted by the value at its decimal position,
but for the sign check that comes first. -/
theorem convertScanned_eq (column : Column) (row : Nat) (adjustErrors : Bool)
    (some : numeral.coefficient ≠ 0) :
    ∃ dropped : Bool, (dropped = true ↔ ¬ ∃ whole : ℕ, scaled numeral.coefficient
        (scan.decimalPosition + column.info.scale - numeral.digits.length) = whole) ∧
      convertDecimalScannedStringLiteral column row scan false adjustErrors =
        if column.info.isUnsigned = true ∧ scan.isNegative = true then
          handleDecimalOutOfRange column row scan.isNegative adjustErrors
        else settled column row scan.isNegative adjustErrors
          (halfUp (scaled numeral.coefficient
            (scan.decimalPosition + column.info.scale - numeral.digits.length))) dropped := by
  have areDigits := Numeric.mantissa_areDigits numeral.toMantissa
  have nonzero := (hasNonzeroDigits_iff reads).mpr some
  have later := hasNonzeroVirtualDigit_iff reads.marks areDigits nonzero
    (scan.decimalPosition + column.info.scale)
  have whole := DigitPlaces.scaled_whole_iff (digits_small areDigits)
    (scan.decimalPosition + column.info.scale)
  rw [List.length_map] at whole
  rw [← whole] at later
  change _ ↔ ¬ ∃ number : ℕ, scaled numeral.coefficient _ = number at later
  refine ⟨_, later, ?_⟩
  have unchanged (converted : Except Report Stored) :
      (converted.map fun stored => { stored with reports := [] ++ stored.reports }) = converted := by
    cases converted <;> rfl
  rw [convertDecimalScannedStringLiteral, nonzero]
  simp only [Bool.not_true, Bool.false_eq_true, if_false, unchanged]
  cases range : exceedsDecimalRange scan column.info with
  | true =>
    rw [buildDecimalTextFromNumericScan, if_pos range]
    dsimp only
    by_cases negative : column.info.isUnsigned = true ∧ scan.isNegative = true
    · rw [if_pos negative]
    · have more := ((exceedsDecimalRange_iff column.info nonzero).mp range).resolve_left negative
      have large := large_of_exceeds reads nonzero more
      rw [if_neg negative, settled, if_pos (Or.inl large)]
  | false =>
    obtain ⟨mantissa, built, hasDigits, -, magnitude, dropped⟩ :=
      rewritten_mantissa reads column.info nonzero range
    have allowed : ¬ (column.info.isUnsigned = true ∧ scan.isNegative = true) := by
      intro negative
      rw [(exceedsDecimalRange_iff column.info nonzero).mpr (Or.inl negative)] at range
      cases range
    have flag := Bool.eq_iff_iff.mpr (dropped.trans later.symm)
    rw [built, if_neg allowed]
    dsimp only
    rw [canonicalize_body column row hasDigits, magnitude, flag]

end

end MyLite.DecimalColumn
