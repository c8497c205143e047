import MyLite.Numeric.DecimalRound

/-! The integer of a text is its longest numeral rounded half away from zero, unless the clamped
shift decides. -/

namespace MyLite.Numeric

open Rounding (halfUp scaled roundAway)

/-- The number a numeral stands for. -/
def Numeral.value (numeral : Numeral) : ℚ :=
  if numeral.sign = some true then -scaled numeral.coefficient numeral.shift
  else scaled numeral.coefficient numeral.shift

/-- The answer is the number rounded, or an overflow where that is too large. -/
def ParseAnswer.Exact (answer : ParseAnswer) (number : ℚ) : Prop :=
  match answer with
  | .invalid => False
  | .overflow _ => uint64Max < (roundAway number).natAbs
  | .ok magnitude isNegative | .truncated magnitude isNegative =>
    (roundAway number).natAbs ≤ uint64Max ∧
      (if isNegative then -(magnitude : ℤ) else magnitude) = roundAway number

/-- The number in a text behind its white space. -/
def Text.number (text : Text) : List UInt8 := text.bytes.dropWhile asciiNumericWhitespace

/-- No computation wraps, the text is invalid only without a numeral, and the longest numeral
is answered exactly. -/
def ParsesExactly (text : Text) : Prop :=
  ∃ answer, parseDmlIntegerStringText text = some answer ∧
    (answer = .invalid ↔ ∀ numeral : Numeral, ¬ numeral.spelling <+: text.number) ∧
    ∀ numeral, LongestNumeral text.number numeral → answer.Exact numeral.value

/-- The shift the code uses. -/
def Numeral.clampedShift (numeral : Numeral) : Int :=
  clampShift numeral.exponentValue numeral.places

/-- The clamps do not change the answer, and an `int64_t` holds the number of digits in front
of the point. -/
def Numeral.Handled (numeral : Numeral) : Prop :=
  numeral.coefficient = 0 ∨
    (numeral.clampedShift < 0 →
      (significantDigits numeral.toMantissa).length + numeral.clampedShift ≤ 9223372036854775807) ∧
    (numeral.clampedShift = numeral.shift ∨
      uint64Max < halfUp (scaled numeral.coefficient numeral.shift) ∨
      (numeral.clampedShift = -shiftLimit ∧ 2 * numeral.coefficient < 10 ^ shiftLimit))

theorem roundAway_value (numeral : Numeral) :
    roundAway numeral.value =
      if numeral.sign = some true then -(halfUp (scaled numeral.coefficient numeral.shift) : ℤ)
      else halfUp (scaled numeral.coefficient numeral.shift) := by
  have nonneg := Rounding.scaled_nonneg numeral.coefficient numeral.shift
  unfold Numeral.value
  split
  · exact Rounding.roundAway_neg _ nonneg
  · exact Rounding.roundAway_of_nonneg nonneg

theorem roundAway_value_natAbs (numeral : Numeral) :
    (roundAway numeral.value).natAbs = halfUp (scaled numeral.coefficient numeral.shift) := by
  rw [roundAway_value]
  split <;> omega

/-- What the parser makes of a rounded magnitude. -/
def answerOf (suffix : List UInt8) : RoundAnswer → ParseAnswer
  | .overflow isNegative => .overflow isNegative
  | .ok magnitude isNegative =>
    if suffixIsTruncated suffix then .truncated magnitude isNegative else .ok magnitude isNegative

theorem answerOf_ne_invalid (suffix : List UInt8) (answer : RoundAnswer) :
    answerOf suffix answer ≠ .invalid := by
  cases answer with
  | overflow isNegative => exact nofun
  | ok magnitude isNegative =>
    rw [answerOf]
    split <;> exact nofun

theorem parse_of_token {text : Text} {scan : DecimalScan}
    (found : scanToken text.number = some (some scan)) :
    parseDmlIntegerStringText text = (roundScan scan).map (answerOf scan.suffix) := by
  rw [parseDmlIntegerStringText, ← Text.number]
  cases same : text.number with
  | nil =>
    rw [same] at found
    cases found
  | cons byte rest =>
    rw [same] at found
    dsimp only
    rw [found]
    rfl

theorem parse_invalid {text : Text} (notFound : scanToken text.number = some none) :
    parseDmlIntegerStringText text = some .invalid := by
  rw [parseDmlIntegerStringText, ← Text.number]
  cases same : text.number with
  | nil => rfl
  | cons byte rest =>
    rw [same] at notFound
    dsimp only
    rw [notFound]
    rfl

theorem answerOf_ok_exact_iff {suffix : List UInt8} {magnitude : ℕ} {isNegative : Bool}
    {number : ℚ} :
    (answerOf suffix (.ok magnitude isNegative)).Exact number ↔
      (roundAway number).natAbs ≤ uint64Max ∧
        (if isNegative then -(magnitude : ℤ) else magnitude) = roundAway number := by
  rw [answerOf]
  split <;> rfl

/-- A rounded magnitude is exact where it is the numeral's, or both are too large. -/
theorem rounded_exact_iff {suffix : List UInt8} {numeral : Numeral} {magnitude : ℕ} :
    (answerOf suffix (rounded (decide (numeral.sign = some true)) magnitude)).Exact numeral.value ↔
      (uint64Max < magnitude ∧ uint64Max < halfUp (scaled numeral.coefficient numeral.shift)) ∨
        (magnitude ≤ uint64Max ∧ halfUp (scaled numeral.coefficient numeral.shift) = magnitude) := by
  have absolute := roundAway_value_natAbs numeral
  have signed := roundAway_value numeral
  rw [rounded]
  split
  · rename_i fits
    rw [answerOf_ok_exact_iff, absolute, signed]
    have sign : (if (decide (numeral.sign = some true) && magnitude != 0) = true then
        -(magnitude : ℤ) else magnitude) =
          if numeral.sign = some true then -(magnitude : ℤ) else magnitude := by
      by_cases zero : magnitude = 0
      · simp [zero]
      · simp [zero]
    rw [sign]
    split <;> omega
  · rename_i large
    rw [answerOf, ParseAnswer.Exact, absolute]
    omega

/-! Where the clamps change the answer. -/

theorem scaled_neg_lt_half_iff {coefficient places : ℕ} :
    scaled coefficient (-places) < 1 / 2 ↔ 2 * coefficient < 10 ^ places := by
  rw [Rounding.scaled_neg, div_lt_iff₀ (by positivity), ← @Nat.cast_lt ℚ]
  push_cast
  constructor <;> intro less <;> linarith

theorem halfUp_shiftLimit {coefficient : ℕ} (nonzero : coefficient ≠ 0) :
    uint64Max < halfUp (scaled coefficient shiftLimit) := by
  rw [Rounding.halfUp_scaled_ofNat]
  calc uint64Max < 10 ^ 20 := pow_twenty_gt
    _ ≤ 10 ^ shiftLimit := Nat.pow_le_pow_right (by decide) (by decide)
    _ ≤ coefficient * 10 ^ shiftLimit := Nat.le_mul_of_pos_left _ (Nat.pos_of_ne_zero nonzero)

theorem clamped_agrees_iff {numeral : Numeral} (nonzero : numeral.coefficient ≠ 0) :
    ((uint64Max < halfUp (scaled numeral.coefficient numeral.clampedShift) ∧
        uint64Max < halfUp (scaled numeral.coefficient numeral.shift)) ∨
      (halfUp (scaled numeral.coefficient numeral.clampedShift) ≤ uint64Max ∧
        halfUp (scaled numeral.coefficient numeral.shift) =
          halfUp (scaled numeral.coefficient numeral.clampedShift))) ↔
    numeral.clampedShift = numeral.shift ∨
      uint64Max < halfUp (scaled numeral.coefficient numeral.shift) ∨
      (numeral.clampedShift = -shiftLimit ∧ 2 * numeral.coefficient < 10 ^ shiftLimit) := by
  have limit : (shiftLimit : Int) = 1000000 := rfl
  have cases := clampShift_cases numeral.exponentValue numeral.places
  rw [← Numeral.clampedShift, ← Numeral.shift] at cases
  by_cases exact : numeral.clampedShift = numeral.shift
  · rw [exact]
    omega
  · rcases cases with same | upward | ⟨downward, below⟩
    · exact absurd same exact
    · have large := halfUp_shiftLimit nonzero
      rw [upward] at exact ⊢
      omega
    · have tenth := Rounding.scaled_le_tenth numeral.coefficient below
      have nonneg := Rounding.scaled_nonneg numeral.coefficient numeral.shift
      have alike := (Rounding.halfUp_eq_of_tenth nonneg tenth).trans scaled_neg_lt_half_iff
      have less := Rounding.halfUp_mono (tenth.trans
        (div_le_self (Rounding.scaled_nonneg _ _) (by norm_num)))
      have zero : 2 * numeral.coefficient < 10 ^ shiftLimit →
          halfUp (scaled numeral.coefficient (-shiftLimit)) = 0 := fun small =>
        Rounding.halfUp_eq_zero_iff.mpr (scaled_neg_lt_half_iff.mpr small)
      rw [downward] at exact ⊢
      generalize 10 ^ shiftLimit = power at *
      omega

theorem exact_of_zero {numeral : Numeral} (zero : numeral.coefficient = 0)
    (suffix : List UInt8) : (answerOf suffix (.ok 0 false)).Exact numeral.value := by
  have value : roundAway numeral.value = 0 := by
    rw [roundAway_value, zero, Rounding.scaled_zero, Rounding.halfUp_zero]
    split <;> rfl
  rw [answerOf_ok_exact_iff, value]
  exact ⟨Nat.zero_le _, rfl⟩

theorem Text.number_length (text : Text) : text.number.length ≤ 18446744073709551615 :=
  Nat.le_trans (List.dropWhile_sublist _).length_le text.fits

/-- The text is parsed exactly if and only if its longest numeral is handled. -/
theorem parsesExactly_longest {text : Text} {numeral : Numeral}
    (longest : LongestNumeral text.number numeral) : ParsesExactly text ↔ numeral.Handled := by
  rcases scanToken_reads text.number text.number_length with
    ⟨_, none⟩ | ⟨read, rest, scan, spelled, greedy, found, reads⟩
  · exact absurd longest.1 (none numeral)
  · obtain rfl : numeral = read := greedy.eq_of_longest (spelled ▸ longest)
    have parsed := parse_of_token found
    -- the longest numeral is the only one the answer is compared with
    have only (answer : RoundAnswer) (rounds : roundScan scan = some answer) :
        ParsesExactly text ↔ (answerOf scan.suffix answer).Exact numeral.value := by
      rw [rounds, Option.map_some] at parsed
      constructor
      · rintro ⟨other, same, _, exact⟩
        rw [parsed] at same
        cases same
        exact exact numeral longest
      · intro exact
        refine ⟨_, parsed, ⟨?_, ?_⟩, ?_⟩
        · intro invalid
          exact absurd invalid (answerOf_ne_invalid _ _)
        · intro nothing
          exact absurd longest.1 (nothing numeral)
        · intro other otherLongest
          obtain rfl : other = numeral := greedy.eq_of_longest (spelled ▸ otherLongest)
          exact exact
    by_cases zero : numeral.coefficient = 0
    · have answered := only _ (roundScan_zero reads.mantissa zero)
      exact ⟨fun _ => Or.inl zero, fun _ => answered.mpr (exact_of_zero zero _)⟩
    · by_cases held : numeral.clampedShift < 0 →
          (significantDigits numeral.toMantissa).length + numeral.clampedShift ≤ 9223372036854775807
      · rw [only _ (roundScan_eq reads.mantissa reads.exponent zero held), rounded_exact_iff,
          ← Numeral.clampedShift, clamped_agrees_iff zero]
        constructor
        · exact fun agrees => Or.inr ⟨held, agrees⟩
        · rintro (isZero | ⟨_, agrees⟩)
          · exact absurd isZero zero
          · exact agrees
      · have negative : numeral.clampedShift < 0 := by
          by_contra nonneg
          exact held fun negative => absurd negative nonneg
        have beyond : 9223372036854775807 <
            (significantDigits numeral.toMantissa).length + numeral.clampedShift := by
          by_contra within
          exact held fun _ => by omega
        rw [roundScan_lost reads.mantissa reads.exponent zero negative beyond] at parsed
        constructor
        · rintro ⟨answer, same, _⟩
          rw [parsed] at same
          cases same
        · rintro (isZero | ⟨room, _⟩)
          · exact absurd isZero zero
          · exact absurd room held

/-- For every text: it is parsed exactly if and only if the clamps leave its longest numeral
alone. -/
theorem parses_exactly_iff (text : Text) :
    ParsesExactly text ↔ ∀ numeral, LongestNumeral text.number numeral → numeral.Handled := by
  constructor
  · intro exact numeral longest
    exact (parsesExactly_longest longest).mp exact
  · intro handled
    rcases scanToken_reads text.number text.number_length with
      ⟨notFound, nothing⟩ | ⟨numeral, rest, _, spelled, greedy, _⟩
    · refine ⟨.invalid, parse_invalid notFound, ⟨fun _ => nothing, fun _ => rfl⟩, ?_⟩
      intro numeral longest
      exact absurd longest.1 (nothing numeral)
    · have longest : LongestNumeral text.number numeral := spelled ▸ greedy.longestNumeral
      exact (parsesExactly_longest longest).mpr (handled numeral longest)

/-! A half behind many zeros, shifted back by its exponent. -/

/-- `0.0…05e500000` with that many zeros behind the dot. -/
def shiftedHalf (zeros : Nat) : Numeral where
  sign := none
  whole := [48]
  fraction := some (List.replicate zeros 48 ++ [53])
  exponent := some ⟨101, none, [53, 48, 48, 48, 48, 48], Or.inl rfl,
    areDigits_of_all _ (by decide), List.cons_ne_nil _ _⟩
  wholeDigits := areDigits_of_all _ (by decide)
  fractionDigits := by
    intro byte mem
    rcases List.mem_append.mp mem with zero | five
    · rw [(List.mem_replicate.mp zero).2]
      rfl
    · rw [List.mem_singleton.mp five]
      rfl
  hasDigits := List.cons_ne_nil _ _

theorem shiftedHalf_coefficient (zeros : Nat) : (shiftedHalf zeros).coefficient = 5 := by
  have spelled : (shiftedHalf zeros).digits.map digitValue =
      List.replicate (zeros + 1) 0 ++ [5] := by
    simp [shiftedHalf, Mantissa.digits, digitValue, List.replicate_succ]
  rw [Mantissa.coefficient, digitsValue, spelled, Decimal.value_append,
    Decimal.value_replicate_zero]
  rfl

theorem shiftedHalf_places (zeros : Nat) : (shiftedHalf zeros).places = zeros + 1 := by
  simp [shiftedHalf, Mantissa.places]

theorem shiftedHalf_exponentValue (zeros : Nat) : (shiftedHalf zeros).exponentValue = 500000 := by
  rfl

def shiftedHalfText : Text where
  bytes := (shiftedHalf 500000).spelling
  fits := by
    have length (zeros : Nat) : (shiftedHalf zeros).spelling.length = zeros + 10 := by
      simp [shiftedHalf, Numeral.spelling, Mantissa.body, signSpelling, fractionSpelling,
        exponentSpelling, ExponentPart.spelling]
    rw [length]
    decide

/-- One half is answered with an overflow. -/
theorem shifted_half_not_exact : ¬ ∀ text : Text, ParsesExactly text := by
  intro exact
  have number : shiftedHalfText.number = (shiftedHalf 500000).spelling := rfl
  have longest : LongestNumeral shiftedHalfText.number (shiftedHalf 500000) := by
    rw [number]
    exact ⟨List.prefix_rfl, fun other starts => starts.length_le⟩
  have clamped : (shiftedHalf 500000).clampedShift = 1000000 := by
    rw [Numeral.clampedShift, shiftedHalf_exponentValue, shiftedHalf_places]
    decide
  have shift : (shiftedHalf 500000).shift = -(0 + 1 : ℕ) := by
    rw [Numeral.shift, shiftedHalf_exponentValue, shiftedHalf_places]
    decide
  have half : halfUp (scaled 5 (-(0 + 1 : ℕ))) = 1 := by
    rw [Rounding.halfUp_scaled_neg]
    rfl
  rcases (parsesExactly_longest longest).mp (exact shiftedHalfText) with zero | ⟨_, agrees⟩
  · rw [shiftedHalf_coefficient] at zero
    cases zero
  · rw [clamped, shift, shiftedHalf_coefficient, half] at agrees
    rcases agrees with same | large | ⟨downward, _⟩
    · cases same
    · exact absurd large (by decide)
    · exact absurd downward (by decide)

end MyLite.Numeric
