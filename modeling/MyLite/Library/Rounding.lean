import MyLite.Library.Decimal
import Mathlib.Algebra.Order.Field.Power
import Mathlib.Algebra.Order.Floor.Semifield
import Mathlib.Data.Rat.Floor
import Mathlib.Tactic.FieldSimp
import Mathlib.Tactic.Linarith

/-! Rounding a decimal number half away from zero, and the digits that decide it. -/

namespace Rounding

/-- The nearest natural number, the larger of two. -/
def halfUp (number : ℚ) : ℕ := ⌊number + 1 / 2⌋₊

/-- The nearest integer, of two the one further from zero. -/
def roundAway (number : ℚ) : ℤ :=
  if 0 ≤ number then (halfUp number : ℤ) else -(halfUp (-number) : ℤ)

/-- A whole number scaled by a power of ten. -/
def scaled (coefficient : ℕ) (shift : ℤ) : ℚ := coefficient * 10 ^ shift

theorem halfUp_natCast (number : ℕ) : halfUp number = number := by
  rw [halfUp, Nat.floor_eq_iff (by positivity)]
  constructor <;> linarith

theorem halfUp_mono {smaller larger : ℚ} (le : smaller ≤ larger) :
    halfUp smaller ≤ halfUp larger := Nat.floor_mono (by linarith)

theorem halfUp_eq_zero_iff {number : ℚ} : halfUp number = 0 ↔ number < 1 / 2 := by
  rw [halfUp, Nat.floor_eq_zero]
  constructor <;> intro less <;> linarith

/-- A number and something at most a tenth of it round alike only to zero. -/
theorem halfUp_eq_of_tenth {smaller larger : ℚ} (nonneg : 0 ≤ smaller)
    (tenth : smaller ≤ larger / 10) : halfUp smaller = halfUp larger ↔ larger < 1 / 2 := by
  constructor
  · intro same
    by_contra large
    have positive : halfUp larger ≠ 0 := mt halfUp_eq_zero_iff.mp large
    have atLeast : (1 : ℚ) ≤ halfUp larger := by
      exact_mod_cast Nat.one_le_iff_ne_zero.mpr positive
    have below : larger + 1 / 2 < halfUp larger + 1 := Nat.lt_floor_add_one _
    have above : (halfUp smaller : ℚ) ≤ smaller + 1 / 2 := Nat.floor_le (by linarith)
    rw [same] at above
    linarith
  · intro small
    rw [halfUp_eq_zero_iff.mpr small, halfUp_eq_zero_iff]
    linarith

theorem scaled_nonneg (coefficient : ℕ) (shift : ℤ) : 0 ≤ scaled coefficient shift := by
  unfold scaled
  positivity

theorem scaled_zero (shift : ℤ) : scaled 0 shift = 0 := by
  rw [scaled, Nat.cast_zero, zero_mul]

theorem halfUp_zero : halfUp 0 = 0 := halfUp_natCast 0

theorem scaled_ofNat (coefficient shift : ℕ) :
    scaled coefficient shift = (coefficient * 10 ^ shift : ℕ) := by
  rw [scaled, zpow_natCast, Nat.cast_mul, Nat.cast_pow, Nat.cast_ofNat]

theorem scaled_neg (coefficient places : ℕ) :
    scaled coefficient (-places) = coefficient / 10 ^ places := by
  rw [scaled, zpow_neg, zpow_natCast, div_eq_mul_inv]

/-- One more shift to the right divides by ten or more. -/
theorem scaled_le_tenth (coefficient : ℕ) {shift other : ℤ} (less : shift < other) :
    scaled coefficient shift ≤ scaled coefficient other / 10 := by
  have power : (10 : ℚ) ^ shift ≤ 10 ^ (other - 1) :=
    zpow_le_zpow_right₀ (by norm_num) (by omega)
  calc scaled coefficient shift ≤ coefficient * 10 ^ (other - 1) :=
        mul_le_mul_of_nonneg_left power (by positivity)
    _ = scaled coefficient other / 10 := by
        rw [scaled, zpow_sub_one₀ (by norm_num), ← mul_assoc, div_eq_mul_inv]

theorem halfUp_scaled_ofNat (coefficient shift : ℕ) :
    halfUp (scaled coefficient shift) = coefficient * 10 ^ shift := by
  rw [scaled_ofNat, halfUp_natCast]

/-- Only the first digit behind the point decides. -/
theorem halfUp_scaled_neg (coefficient places : ℕ) :
    halfUp (scaled coefficient (-(places + 1 : ℕ))) =
      coefficient / 10 ^ (places + 1) +
        if 5 ≤ coefficient / 10 ^ places % 10 then 1 else 0 := by
  have sum : scaled coefficient (-(places + 1 : ℕ)) + 1 / 2 =
      ((coefficient + 5 * 10 ^ places : ℕ) : ℚ) / ((10 ^ places * 10 : ℕ) : ℚ) := by
    rw [scaled_neg]
    push_cast
    rw [pow_succ]
    field_simp
    ring
  rw [halfUp, sum, Nat.floor_div_eq_div, pow_succ, ← Nat.div_div_eq_div_mul,
    ← Nat.div_div_eq_div_mul, Nat.add_mul_div_right _ _ (by positivity)]
  split <;> omega

theorem roundAway_neg (number : ℚ) (nonneg : 0 ≤ number) :
    roundAway (-number) = -(halfUp number : ℤ) := by
  rw [roundAway]
  split
  · rename_i nonpos
    have zero : number = 0 := by linarith
    rw [zero, neg_zero, halfUp_zero]
    rfl
  · rw [neg_neg]

theorem roundAway_of_nonneg {number : ℚ} (nonneg : 0 ≤ number) :
    roundAway number = halfUp number := if_pos nonneg

end Rounding

namespace Decimal

theorem value_append (left right : List ℕ) :
    value (left ++ right) = value left * 10 ^ right.length + value right := by
  induction left with
  | nil => simp [value]
  | cons digit left ih =>
    rw [List.cons_append, value_cons, ih, value_cons, List.length_append, pow_add]
    ring

theorem value_replicate_zero (count : ℕ) : value (List.replicate count 0) = 0 := by
  induction count with
  | zero => rfl
  | succ count ih => rw [List.replicate_succ, value_cons, ih, Nat.zero_mul]

/-- Leading zeros do not count. -/
theorem value_dropWhile_zero (numeral : List ℕ) :
    value (numeral.dropWhile (· == 0)) = value numeral := by
  induction numeral with
  | nil => rfl
  | cons digit numeral ih =>
    rw [List.dropWhile_cons]
    split
    · rename_i zero
      rw [ih, value_cons, eq_of_beq zero, Nat.zero_mul, Nat.zero_add]
    · rfl

/-- The digits in front of the last ones are those of the quotient. -/
theorem value_front (front : List ℕ) {back : List ℕ} (small : ∀ digit ∈ back, digit < 10) :
    value (front ++ back) / 10 ^ back.length = value front := by
  rw [value_append, Nat.mul_comm, Nat.mul_add_div (by positivity),
    Nat.div_eq_of_lt (value_lt small), Nat.add_zero]

/-- A digit is the remainder of the quotient by the place it stands at. -/
theorem value_digit {front back : List ℕ} {digit : ℕ} (digitSmall : digit < 10)
    (small : ∀ digit ∈ back, digit < 10) :
    value (front ++ digit :: back) / 10 ^ back.length % 10 = digit := by
  have split : front ++ digit :: back = (front ++ [digit]) ++ back := by simp
  have last : value (front ++ [digit]) = value front * 10 + digit := by
    rw [value_append]
    simp [value]
  rw [split, value_front _ small, last]
  omega

theorem pow_le_value {first : ℕ} {numeral : List ℕ} (nonzero : first ≠ 0) :
    10 ^ numeral.length ≤ value (first :: numeral) := by
  rw [value_cons]
  have : 10 ^ numeral.length ≤ first * 10 ^ numeral.length :=
    Nat.le_mul_of_pos_left _ (Nat.pos_of_ne_zero nonzero)
  omega

end Decimal
