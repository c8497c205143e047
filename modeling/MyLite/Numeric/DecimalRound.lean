import MyLite.Numeric.NumeralScan
import MyLite.Library.Rounding

/-! Shifting, rounding and accumulating the digits of a scanned numeral. -/

namespace MyLite.Numeric

open Rounding (halfUp scaled)

/-- A magnitude, or nothing where it does not fit. -/
def held (magnitude : Nat) : Option Nat := if magnitude ≤ uint64Max then some magnitude else none

theorem held_none_of_le {smaller larger : Nat} (le : smaller ≤ larger)
    (beyond : held smaller = none) : held larger = none := by
  unfold held at beyond ⊢
  split at beyond
  · cases beyond
  · exact if_neg (by omega)

theorem held_eq_some {magnitude kept : Nat} (fits : held magnitude = some kept) :
    kept = magnitude ∧ magnitude ≤ uint64Max := by
  unfold held at fits
  split at fits
  · exact ⟨(Option.some.inj fits).symm, ‹_›⟩
  · cases fits

theorem appendUint64DecimalDigit_eq {value digit : Nat} (small : digit < 10) :
    appendUint64DecimalDigit value digit = some (held (value * 10 + digit)) := by
  have maximum : uint64Max = 18446744073709551615 := rfl
  have base : decimalBase = 10 := rfl
  rw [appendUint64DecimalDigit, if_neg (by omega), sizeSubtract, if_pos (by omega),
    Option.bind_some, base, held]
  split
  · rename_i beyond
    rw [if_neg (by omega)]
  · rename_i fits
    rw [size_eq (by omega), Option.bind_some, size_eq (by omega), if_pos (by omega),
      Option.map_some]

/-! Digits taken from the mantissa. -/

/-- The digits that count, from the first nonzero one on. -/
def significant (inSignificantDigits : Bool) (bytes : List UInt8) : List Nat :=
  let digits := (bytes.filter asciiDecimalDigit).map digitValue
  if inSignificantDigits then digits else digits.dropWhile (· == 0)

/-- That many digits, padded with zeros. -/
def padded (count : Nat) (digits : List Nat) : List Nat :=
  digits.take count ++ List.replicate (count - digits.length) 0

theorem padded_zero (digits : List Nat) : padded 0 digits = [] := by
  simp [padded]

theorem padded_succ (count digit : Nat) (digits : List Nat) :
    padded (count + 1) (digit :: digits) = digit :: padded count digits := by
  simp [padded]

theorem padded_length (count : Nat) (digits : List Nat) : (padded count digits).length = count := by
  simp only [padded, List.length_append, List.length_take, List.length_replicate]
  omega

theorem padded_of_le {count : Nat} {digits : List Nat} (enough : count ≤ digits.length) :
    padded count digits = digits.take count := by
  rw [padded, Nat.sub_eq_zero_of_le enough, List.replicate_zero, List.append_nil]

theorem padded_of_ge (digits : List Nat) (more : Nat) :
    padded (digits.length + more) digits = digits ++ List.replicate more 0 := by
  rw [padded, List.take_of_length_le (Nat.le_add_right _ _), Nat.add_sub_cancel_left]

section Bytes

variable {byte : UInt8} (inSignificantDigits : Bool) (rest : List UInt8)

theorem significant_skip (other : asciiDecimalDigit byte = false) :
    significant inSignificantDigits (byte :: rest) = significant inSignificantDigits rest := by
  simp [significant, other]

theorem significant_zero (digit : asciiDecimalDigit byte = true) (zero : digitValue byte = 0) :
    significant false (byte :: rest) = significant false rest := by
  simp [significant, digit, zero]

variable {inSignificantDigits}

theorem significant_digit (digit : asciiDecimalDigit byte = true)
    (counts : ¬ (!inSignificantDigits && digitValue byte == 0) = true) :
    significant inSignificantDigits (byte :: rest) = digitValue byte :: significant true rest := by
  cases inSignificantDigits with
  | true => simp [significant, digit]
  | false =>
    have nonzero : digitValue byte ≠ 0 := by simpa using counts
    simp [significant, digit, nonzero]

end Bytes

theorem appendZeros_eq {magnitude : Nat} (fits : magnitude ≤ uint64Max) (remaining : Nat) :
    appendZeros magnitude remaining = some (held (magnitude * 10 ^ remaining)) := by
  induction remaining generalizing magnitude with
  | zero => rw [appendZeros, Nat.pow_zero, Nat.mul_one, held, if_pos fits]
  | succ remaining ih =>
    have total : magnitude * 10 ^ (remaining + 1) = (magnitude * 10 + 0) * 10 ^ remaining := by
      rw [Nat.pow_succ', Nat.add_zero, Nat.mul_assoc]
    rw [appendZeros, appendUint64DecimalDigit_eq (by decide), Option.bind_some, total]
    cases appended : held (magnitude * 10 + 0) with
    | none =>
      have less := Nat.le_mul_of_pos_right (magnitude * 10 + 0) (Nat.pow_pos (n := remaining)
        (show 0 < 10 by decide))
      rw [held_none_of_le less appended]
    | some value =>
      obtain ⟨rfl, small⟩ := held_eq_some appended
      exact ih small

/-- The loop appends that many of the digits that count, then zeros. -/
theorem appendScanDigits_eq {magnitude : Nat} (fits : magnitude ≤ uint64Max) (remaining : Nat)
    (inSignificantDigits : Bool) (bytes : List UInt8) :
    appendScanDigits remaining inSignificantDigits magnitude bytes =
      some (held (magnitude * 10 ^ remaining +
        Decimal.value (padded remaining (significant inSignificantDigits bytes)))) := by
  induction bytes generalizing magnitude remaining inSignificantDigits with
  | nil =>
    have zeros : padded remaining (significant inSignificantDigits []) =
        List.replicate remaining 0 := by
      cases inSignificantDigits <;> simp [padded, significant]
    rw [appendScanDigits, appendZeros_eq fits, zeros, Decimal.value_replicate_zero, Nat.add_zero]
  | cons byte rest ih =>
    rw [appendScanDigits.eq_def]
    dsimp only
    cases remaining with
    | zero =>
      dsimp only
      rw [padded_zero, Nat.pow_zero, Nat.mul_one, held]
      exact (congrArg some (if_pos fits)).symm
    | succ others =>
      dsimp only
      by_cases digit : asciiDecimalDigit byte = true
      · rw [if_neg (by simp [digit])]
        split
        · rename_i leading
          have inZeros : inSignificantDigits = false := by
            cases inSignificantDigits
            · rfl
            · cases leading
          subst inZeros
          have zero : digitValue byte = 0 := by simpa using leading
          rw [ih fits, significant_zero rest digit zero]
        · rename_i counts
          rw [appendUint64DecimalDigit_eq (digitValue_lt digit), Option.bind_some,
            significant_digit rest digit counts, padded_succ, Decimal.value_cons, padded_length,
            ← Nat.add_assoc, Nat.pow_succ', ← Nat.mul_assoc, ← Nat.add_mul]
          cases appended : held (magnitude * 10 + digitValue byte) with
          | none =>
            have less : magnitude * 10 + digitValue byte ≤
                (magnitude * 10 + digitValue byte) * 10 ^ others +
                  Decimal.value (padded others (significant true rest)) :=
              Nat.le_trans (Nat.le_mul_of_pos_right _ (Nat.pow_pos (by decide)))
                (Nat.le_add_right _ _)
            rw [held_none_of_le less appended]
          | some value =>
            obtain ⟨rfl, small⟩ := held_eq_some appended
            exact ih small ..
      · have other : asciiDecimalDigit byte = false := by simpa using digit
        rw [if_pos (by simp [other]), ih fits, significant_skip _ rest other]

theorem scanDigitAt_eq (offset : Nat) (inSignificantDigits : Bool) (bytes : List UInt8) :
    scanDigitAt offset inSignificantDigits bytes =
      (significant inSignificantDigits bytes)[offset]? := by
  induction bytes generalizing offset inSignificantDigits with
  | nil => cases inSignificantDigits <;> rfl
  | cons byte rest ih =>
    rw [scanDigitAt.eq_def]
    dsimp only
    by_cases digit : asciiDecimalDigit byte = true
    · rw [if_neg (by simp [digit])]
      split
      · rename_i leading
        have inZeros : inSignificantDigits = false := by
          cases inSignificantDigits
          · rfl
          · cases leading
        subst inZeros
        have zero : digitValue byte = 0 := by simpa using leading
        rw [ih, significant_zero rest digit zero]
      · rename_i counts
        rw [significant_digit rest digit counts]
        cases offset with
        | zero => rfl
        | succ others =>
          rw [List.getElem?_cons_succ]
          exact ih others true
    · have other : asciiDecimalDigit byte = false := by simpa using digit
      rw [if_pos (by simp [other]), ih, significant_skip _ rest other]

/-! The shift. -/

/-- The shift the clamps leave of an exponent and that many digits after the dot. -/
def clampShift (exponent : Int) (places : Nat) : Int :=
  let scale : Int := min shiftLimit places
  if shiftLimit ≤ exponent then shiftLimit
  else if exponent ≤ -shiftLimit then -shiftLimit
  else if shiftLimit - scale < exponent then shiftLimit
  else if exponent < -shiftLimit + scale then -shiftLimit
  else exponent - scale

theorem clampShift_clampExponent (exponent : Int) (places : Nat) :
    clampShift (clampExponent exponent) places = clampShift exponent places := by
  have limit : shiftLimit = 1000000 := rfl
  unfold clampShift clampExponent
  dsimp only
  split_ifs <;> omega

theorem clampShift_bounds (exponent : Int) (places : Nat) :
    -shiftLimit ≤ clampShift exponent places ∧ clampShift exponent places ≤ shiftLimit := by
  have limit : shiftLimit = 1000000 := rfl
  unfold clampShift
  dsimp only
  split_ifs <;> omega

/-- The shift is exact, or it was clamped upward, or downward from below. -/
theorem clampShift_cases (exponent : Int) (places : Nat) :
    clampShift exponent places = exponent - places ∨
      clampShift exponent places = shiftLimit ∨
      (clampShift exponent places = -shiftLimit ∧ exponent - places < -shiftLimit) := by
  have limit : shiftLimit = 1000000 := rfl
  unfold clampShift
  dsimp only
  split_ifs <;> omega

theorem decimalShift_eq {scan : DecimalScan} {exponent : Int}
    (read : scan.exponent = clampExponent exponent) :
    decimalShift scan = some (clampShift exponent scan.digitsAfterDot) := by
  have limit : shiftLimit = 1000000 := rfl
  have scale : (if shiftLimit < scan.digitsAfterDot then some (shiftLimit : Int)
      else int64 scan.digitsAfterDot) = some (min shiftLimit scan.digitsAfterDot : Int) := by
    split
    · rw [Int.min_eq_left (by omega)]
    · rw [int64_eq (by omega) (by omega), Int.min_eq_right (by omega)]
  have low : -shiftLimit ≤ clampExponent exponent := by unfold clampExponent; omega
  have high : clampExponent exponent ≤ shiftLimit := by unfold clampExponent; omega
  rw [← clampShift_clampExponent, ← read, decimalShift, scale, Option.bind_some, clampShift]
  rw [← read] at low high
  generalize scan.exponent = clamped at low high ⊢
  split
  · rfl
  · split
    · rfl
    · rw [int64_eq (by omega) (by omega), Option.bind_some]
      split
      · rfl
      · rw [int64_eq (by omega) (by omega), Option.bind_some]
        split
        · rfl
        · exact int64_eq (by omega) (by omega)

/-- The digits in front of the point, where an `int64_t` holds their number. -/
theorem integerDigitCount_eq {count : Nat} {shift : Int} (low : -shiftLimit ≤ shift)
    (high : shift ≤ shiftLimit) (fits : shift < 0 → count + shift ≤ 9223372036854775807) :
    integerDigitCount count shift =
      some (if 0 ≤ shift ∧ uint64DecimalDigitCapacity < count + shift then none
        else some (count + shift)) := by
  have limit : shiftLimit = 1000000 := rfl
  have capacity : uint64DecimalDigitCapacity = 20 := rfl
  rw [integerDigitCount]
  split
  · rename_i nonneg
    split
    · rename_i large
      rw [if_pos (by omega)]
    · rename_i small
      rw [size_eq (by omega), Option.bind_some]
      split
      · rename_i beyond
        rw [if_pos (by omega)]
      · rename_i within
        rw [if_neg (by omega), int64_eq (by omega) (by omega), Option.bind_some,
          int64_eq (by omega) (by omega), Option.map_some]
  · rename_i negative
    have room := fits (by omega)
    have right : ¬ (0 ≤ shift ∧ (uint64DecimalDigitCapacity : Int) < count + shift) :=
      fun both => negative both.1
    rw [int64_eq (by omega) (by omega), Option.bind_some, if_neg right]
    split
    · rename_i few
      rw [int64_eq (by omega) (by omega), Option.bind_some, int64_eq (by omega) (by omega),
        Option.map_some]
    · rename_i many
      have difference : ((count - (-shift).toNat : Nat) : Int) = count + shift := by omega
      rw [sizeSubtract, if_pos (by omega), Option.bind_some, difference,
        int64_eq (by omega) (by omega), Option.map_some]

/-- Elsewhere the conversion does not keep the number. -/
theorem integerDigitCount_eq_none {count : Nat} {shift : Int} (low : -shiftLimit ≤ shift)
    (negative : shift < 0) (beyond : 9223372036854775807 < count + shift) :
    integerDigitCount count shift = none := by
  have limit : shiftLimit = 1000000 := rfl
  rw [integerDigitCount, if_neg (by omega), int64_eq (by omega) (by omega), Option.bind_some,
    if_neg (by omega), sizeSubtract, if_pos (by omega), Option.bind_some, int64, if_neg]
  · rfl
  · rintro ⟨_, below⟩
    omega

/-! The rounding. -/

def significantDigits (mantissa : Mantissa) : List Nat := significant false mantissa.body

theorem digitValue_eq_zero {byte : UInt8} (digit : asciiDecimalDigit byte = true) :
    digitValue byte = 0 ↔ byte = 48 := by
  have low : 48 ≤ byte := of_decide_eq_true (Bool.and_eq_true_iff.mp digit).1
  have bound : 48 ≤ byte.toNat := UInt8.le_iff_toNat_le.mp low
  rw [digitValue, ← UInt8.toNat_inj]
  change byte.toNat - 48 = 0 ↔ byte.toNat = 48
  omega

theorem filter_digits {digits : List UInt8} (areDigits : AreDigits digits) :
    digits.filter asciiDecimalDigit = digits := List.filter_eq_self.mpr areDigits

theorem body_digits (mantissa : Mantissa) :
    mantissa.body.filter asciiDecimalDigit = mantissa.digits := by
  have fraction := mantissa.fractionDigits
  rw [Mantissa.body, Mantissa.digits, List.filter_append, filter_digits mantissa.wholeDigits]
  cases same : mantissa.fraction with
  | none => rfl
  | some digits =>
    rw [same, Option.getD_some] at fraction
    rw [fractionSpelling, List.filter_cons_of_neg (by decide), filter_digits fraction]
    rfl

theorem significantDigits_eq (mantissa : Mantissa) :
    significantDigits mantissa = (mantissa.digits.map digitValue).dropWhile (· == 0) := by
  rw [significantDigits, significant, body_digits]
  rfl

theorem mantissa_areDigits (mantissa : Mantissa) : AreDigits mantissa.digits := by
  intro byte mem
  rcases List.mem_append.mp mem with whole | fraction
  · exact mantissa.wholeDigits byte whole
  · exact mantissa.fractionDigits byte fraction

theorem significantDigits_small (mantissa : Mantissa) :
    ∀ digit ∈ significantDigits mantissa, digit < 10 := by
  intro digit mem
  rw [significantDigits_eq] at mem
  obtain ⟨byte, member, rfl⟩ := List.mem_map.mp ((List.dropWhile_sublist _).subset mem)
  exact digitValue_lt (mantissa_areDigits mantissa byte member)

theorem coefficient_eq (mantissa : Mantissa) :
    Decimal.value (significantDigits mantissa) = mantissa.coefficient := by
  rw [significantDigits_eq, Decimal.value_dropWhile_zero]
  rfl

theorem leadingZeros_significant {digits : List UInt8} (areDigits : AreDigits digits) :
    leadingZeros false digits + ((digits.map digitValue).dropWhile (· == 0)).length =
      digits.length := by
  induction digits with
  | nil => rfl
  | cons byte digits ih =>
    have zero := digitValue_eq_zero (areDigits byte List.mem_cons_self)
    have rest := ih fun other mem => areDigits other (List.mem_cons_of_mem _ mem)
    rw [leadingZeros_cons, List.map_cons, List.dropWhile_cons, List.length_cons]
    by_cases same : byte = 48
    · rw [if_pos same, if_pos (beq_iff_eq.mpr (zero.mpr same))]
      omega
    · rw [if_neg same, if_neg (mt beq_iff_eq.mp (mt zero.mp same)), List.length_cons,
        List.length_map]
      omega

/-- The first digit that counts is not zero. -/
theorem significantDigits_first {mantissa : Mantissa} {first : Nat} {others : List Nat}
    (same : significantDigits mantissa = first :: others) : first ≠ 0 := by
  rw [significantDigits_eq] at same
  have stops := List.head?_dropWhile_not (· == 0) (mantissa.digits.map digitValue)
  rw [same] at stops
  simpa using stops

theorem significantDigits_eq_nil_iff (mantissa : Mantissa) :
    significantDigits mantissa = [] ↔ mantissa.coefficient = 0 := by
  constructor
  · intro empty
    rw [← coefficient_eq, empty]
    rfl
  · intro zero
    cases same : significantDigits mantissa with
    | nil => rfl
    | cons first others =>
      have positive := @Decimal.pow_le_value first others (significantDigits_first same)
      rw [← same, coefficient_eq, zero] at positive
      exact absurd (Nat.pow_pos (by decide)) (Nat.not_lt.mpr positive)

theorem pow_le_coefficient {mantissa : Mantissa} (nonzero : mantissa.coefficient ≠ 0) :
    10 ^ ((significantDigits mantissa).length - 1) ≤ mantissa.coefficient := by
  cases same : significantDigits mantissa with
  | nil => exact absurd ((significantDigits_eq_nil_iff mantissa).mp same) nonzero
  | cons first others =>
    rw [← coefficient_eq, same, List.length_cons, Nat.add_sub_cancel]
    exact Decimal.pow_le_value (significantDigits_first same)

theorem coefficient_lt (mantissa : Mantissa) :
    mantissa.coefficient < 10 ^ (significantDigits mantissa).length := by
  rw [← coefficient_eq]
  exact Decimal.value_lt (significantDigits_small mantissa)

/-- The digits that count and the leading zeros are all digits. -/
theorem significantDigits_length (mantissa : Mantissa) :
    leadingZeros false mantissa.digits + (significantDigits mantissa).length =
      mantissa.digits.length := by
  rw [significantDigits_eq]
  exact leadingZeros_significant (mantissa_areDigits mantissa)

theorem pow_twenty_gt : uint64Max < 10 ^ 20 := by decide

/-- Twenty-one digits in front of the point are too many. -/
theorem halfUp_beyond {mantissa : Mantissa} {shift : Int} (nonzero : mantissa.coefficient ≠ 0)
    (many : 20 < (significantDigits mantissa).length + shift) :
    uint64Max < halfUp (scaled mantissa.coefficient shift) := by
  have large := pow_le_coefficient nonzero
  rcases Int.lt_or_le shift 0 with negative | nonneg
  · obtain ⟨places, rfl⟩ : ∃ places : Nat, shift = -(places + 1 : Nat) :=
      ⟨(-shift).toNat - 1, by omega⟩
    rw [Rounding.halfUp_scaled_neg]
    have quotient : 10 ^ 20 ≤ mantissa.coefficient / 10 ^ (places + 1) := by
      rw [Nat.le_div_iff_mul_le (by positivity), ← pow_add]
      exact Nat.le_trans (Nat.pow_le_pow_right (by decide) (by omega)) large
    have := pow_twenty_gt
    omega
  · obtain ⟨places, rfl⟩ := Int.eq_ofNat_of_zero_le nonneg
    rw [Rounding.halfUp_scaled_ofNat]
    calc uint64Max < 10 ^ 20 := pow_twenty_gt
      _ ≤ 10 ^ ((significantDigits mantissa).length - 1 + places) :=
          Nat.pow_le_pow_right (by decide) (by omega)
      _ = 10 ^ ((significantDigits mantissa).length - 1) * 10 ^ places := pow_add ..
      _ ≤ mantissa.coefficient * 10 ^ places := Nat.mul_le_mul_right _ large

/-- What the rounding answers on a magnitude. -/
def rounded (isNegative : Bool) (magnitude : Nat) : RoundAnswer :=
  if magnitude ≤ uint64Max then .ok magnitude (isNegative && magnitude != 0)
  else .overflow isNegative

theorem roundUp_eq {scan : DecimalScan} {mantissa : Mantissa} (reads : scan.ReadsMantissa mantissa)
    (count : Int) :
    roundUp scan (significantDigits mantissa).length count =
      (decide (0 ≤ count) && (significantDigits mantissa)[count.toNat]?.any (5 ≤ ·)) := by
  have digitAt (offset : Nat) : scanDigitAt offset false scan.mantissa =
      (significantDigits mantissa)[offset]? := by
    rw [scanDigitAt_eq, reads.mantissa]
    rfl
  rw [roundUp]
  dsimp only
  rw [digitAt, digitAt]
  by_cases zero : count = 0
  · rw [if_pos zero, zero, Int.toNat_zero]
    cases (significantDigits mantissa)[0]? <;> rfl
  · rw [if_neg zero]
    split
    · rename_i inside
      rw [decide_eq_true (by omega), Bool.true_and]
      cases (significantDigits mantissa)[count.toNat]? <;> rfl
    · rename_i outside
      by_cases nonneg : 0 ≤ count
      · rw [List.getElem?_eq_none (by omega), Option.any_none, Bool.and_false]
      · rw [decide_eq_false nonneg, Bool.false_and]

theorem checkedUint64Increment_eq {value : Nat} (fits : value ≤ uint64Max) :
    checkedUint64Increment value = some (held (value + 1)) := by
  have maximum : uint64Max = 18446744073709551615 := rfl
  rw [checkedUint64Increment, held]
  split
  · rw [if_neg (by omega)]
  · rw [size_eq (by omega), if_pos (by omega), Option.map_some]

/-- The front digits and the digit behind them round the shifted coefficient. -/
theorem rounded_digits {mantissa : Mantissa} (places : Nat) (count : Int)
    (length : count = (significantDigits mantissa).length - (places + 1 : Nat)) :
    halfUp (scaled mantissa.coefficient (-(places + 1 : Nat))) =
      (if 0 < count then Decimal.value ((significantDigits mantissa).take count.toNat) else 0) +
        if (decide (0 ≤ count) && (significantDigits mantissa)[count.toNat]?.any (5 ≤ ·)) then 1
        else 0 := by
  have small := significantDigits_small mantissa
  have below := coefficient_lt mantissa
  rw [Rounding.halfUp_scaled_neg, ← coefficient_eq]
  rw [← coefficient_eq] at below
  generalize significantDigits mantissa = digits at *
  by_cases nonneg : 0 ≤ count
  · have inside : count.toNat < digits.length := by omega
    have split : digits = digits.take count.toNat ++ digits[count.toNat] ::
        digits.drop (count.toNat + 1) := by
      rw [← List.drop_eq_getElem_cons inside, List.take_append_drop]
    have backSmall : ∀ digit ∈ digits.drop (count.toNat + 1), digit < 10 :=
      fun digit mem => small digit (List.mem_of_mem_drop mem)
    have backLength : (digits.drop (count.toNat + 1)).length = places := by
      rw [List.length_drop]
      omega
    have digitSmall : digits[count.toNat] < 10 := small _ (List.getElem_mem inside)
    have last : Decimal.value digits / 10 ^ places % 10 = digits[count.toNat] := by
      conv_lhs => rw [split, ← backLength]
      exact Decimal.value_digit digitSmall backSmall
    have front : Decimal.value digits / 10 ^ (places + 1) =
        Decimal.value (digits.take count.toNat) := by
      have frontSmall : ∀ digit ∈ digits[count.toNat] :: digits.drop (count.toNat + 1),
          digit < 10 := fun digit mem => small digit (by rw [split]; exact List.mem_append_right _ mem)
      have quotient := Decimal.value_front (digits.take count.toNat) frontSmall
      rwa [← split, List.length_cons, backLength] at quotient
    have taken : (if 0 < count then Decimal.value (digits.take count.toNat) else 0) =
        Decimal.value (digits.take count.toNat) := by
      split
      · rfl
      · have none : count.toNat = 0 := by omega
        rw [none]
        rfl
    rw [last, front, taken, List.getElem?_eq_getElem inside, Option.any_some,
      decide_eq_true nonneg, Bool.true_and]
    simp only [decide_eq_true_eq]
  · have tiny : Decimal.value digits < 10 ^ places :=
      Nat.lt_of_lt_of_le below (Nat.pow_le_pow_right (by decide) (by omega))
    have smaller : Decimal.value digits < 10 ^ (places + 1) :=
      Nat.lt_of_lt_of_le tiny (Nat.pow_le_pow_right (by decide) (Nat.le_succ _))
    have notPositive : ¬ 0 < count := by omega
    rw [Nat.div_eq_of_lt tiny, Nat.div_eq_of_lt smaller, if_neg notPositive, decide_eq_false nonneg]
    rfl

theorem rounded_beyond {isNegative : Bool} {magnitude : Nat} (beyond : held magnitude = none) :
    rounded isNegative magnitude = .overflow isNegative := by
  unfold held at beyond
  split at beyond
  · cases beyond
  · rename_i large
    exact if_neg large

theorem roundMagnitude_eq (isNegative up : Bool) (front : Nat) :
    roundMagnitude isNegative up (held front) =
      some (rounded isNegative (front + if up then 1 else 0)) := by
  cases kept : held front with
  | none => rw [roundMagnitude, rounded_beyond (held_none_of_le (Nat.le_add_right _ _) kept)]
  | some magnitude =>
    obtain ⟨rfl, fits⟩ := held_eq_some kept
    rw [roundMagnitude]
    cases up with
    | false =>
      rw [if_neg Bool.false_ne_true, if_neg Bool.false_ne_true, rounded, Nat.add_zero, if_pos fits]
      rfl
    | true =>
      rw [if_pos rfl, if_pos rfl, checkedUint64Increment_eq fits]
      cases next : held (magnitude + 1) with
      | none =>
        rw [rounded_beyond next]
        rfl
      | some value =>
        obtain ⟨rfl, small⟩ := held_eq_some next
        rw [rounded, if_pos small]
        rfl

/-- Rounding never wraps and rounds what the shift says, where an `int64_t` holds the number
of digits in front of the point. -/
theorem roundScan_eq {scan : DecimalScan} {mantissa : Mantissa} {exponent : Int}
    (reads : scan.ReadsMantissa mantissa) (read : scan.exponent = clampExponent exponent)
    (nonzero : mantissa.coefficient ≠ 0)
    (fits : clampShift exponent mantissa.places < 0 →
      (significantDigits mantissa).length + clampShift exponent mantissa.places ≤
        9223372036854775807) :
    roundScan scan = some (rounded (decide (mantissa.sign = some true))
      (halfUp (scaled mantissa.coefficient (clampShift exponent mantissa.places)))) := by
  have length := significantDigits_length mantissa
  have some_digits : significantDigits mantissa ≠ [] :=
    mt (significantDigits_eq_nil_iff mantissa).mp nonzero
  have positive := List.length_pos_of_ne_nil some_digits
  have capacity : uint64DecimalDigitCapacity = 20 := rfl
  obtain ⟨low, high⟩ := clampShift_bounds exponent mantissa.places
  have shifted := decimalShift_eq read
  rw [reads.digitsAfterDot] at shifted
  rw [roundScan, reads.digitCount, reads.leadingZeroCount, if_neg (by omega), sizeSubtract,
    if_pos (by omega), Option.bind_some, shifted, Option.bind_some, ← length,
    Nat.add_sub_cancel_left, integerDigitCount_eq low high fits, Option.bind_some]
  generalize clampShift exponent mantissa.places = shift at *
  by_cases many : (uint64DecimalDigitCapacity : Int) < (significantDigits mantissa).length + shift
  · have beyond := halfUp_beyond nonzero many
    have overflow : rounded scan.isNegative (halfUp (scaled mantissa.coefficient shift)) =
        .overflow scan.isNegative := if_neg (Nat.not_le.mpr beyond)
    rw [← reads.isNegative, overflow]
    by_cases nonneg : 0 ≤ shift
    · rw [if_pos ⟨nonneg, many⟩]
    · rw [if_neg (fun both => nonneg both.1)]
      dsimp only
      rw [if_pos many]
  · rw [if_neg (fun both => many both.2)]
    dsimp only
    rw [if_neg many, roundUp_eq reads, reads.mantissa, reads.isNegative]
    have appended : (if 0 < (significantDigits mantissa).length + shift then
        appendScanDigits ((significantDigits mantissa).length + shift).toNat false 0 mantissa.body
        else some (some 0)) =
        some (held (if 0 < (significantDigits mantissa).length + shift then
          Decimal.value (padded ((significantDigits mantissa).length + shift).toNat
            (significantDigits mantissa)) else 0)) := by
      split
      · rw [appendScanDigits_eq (Nat.zero_le _), Nat.zero_mul, Nat.zero_add]
        rfl
      · rfl
    rw [appended, Option.bind_some, roundMagnitude_eq]
    congr 2
    rcases Int.lt_or_le shift 0 with negative | nonneg
    · obtain ⟨places, rfl⟩ : ∃ places : Nat, shift = -(places + 1 : Nat) :=
        ⟨(-shift).toNat - 1, by omega⟩
      rw [rounded_digits places ((significantDigits mantissa).length + -(places + 1 : Nat))
        (by omega), padded_of_le (by omega)]
    · obtain ⟨places, rfl⟩ := Int.eq_ofNat_of_zero_le nonneg
      rw [Rounding.halfUp_scaled_ofNat, if_pos (by omega), List.getElem?_eq_none (by omega),
        Option.any_none, Bool.and_false, if_neg Bool.false_ne_true, Nat.add_zero,
        show ((significantDigits mantissa).length + (places : Int)).toNat =
          (significantDigits mantissa).length + places by omega, padded_of_ge, Decimal.value_append,
        Decimal.value_replicate_zero, List.length_replicate, Nat.add_zero, coefficient_eq]

theorem roundScan_zero {scan : DecimalScan} {mantissa : Mantissa}
    (reads : scan.ReadsMantissa mantissa) (zero : mantissa.coefficient = 0) :
    roundScan scan = some (.ok 0 false) := by
  have length := significantDigits_length mantissa
  rw [(significantDigits_eq_nil_iff mantissa).mpr zero, List.length_nil, Nat.add_zero] at length
  rw [roundScan, reads.digitCount, reads.leadingZeroCount, if_pos length]

/-- The number of digits in front of the point is lost where no `int64_t` holds it. -/
theorem roundScan_lost {scan : DecimalScan} {mantissa : Mantissa} {exponent : Int}
    (reads : scan.ReadsMantissa mantissa) (read : scan.exponent = clampExponent exponent)
    (nonzero : mantissa.coefficient ≠ 0)
    (negative : clampShift exponent mantissa.places < 0)
    (beyond : 9223372036854775807 <
      (significantDigits mantissa).length + clampShift exponent mantissa.places) :
    roundScan scan = none := by
  have length := significantDigits_length mantissa
  have positive := List.length_pos_of_ne_nil (mt (significantDigits_eq_nil_iff mantissa).mp nonzero)
  have shifted := decimalShift_eq read
  rw [reads.digitsAfterDot] at shifted
  rw [roundScan, reads.digitCount, reads.leadingZeroCount, if_neg (by omega), sizeSubtract,
    if_pos (by omega), Option.bind_some, shifted, Option.bind_some, ← length,
    Nat.add_sub_cancel_left,
    integerDigitCount_eq_none (clampShift_bounds exponent mantissa.places).1 negative beyond]
  rfl

end MyLite.Numeric
