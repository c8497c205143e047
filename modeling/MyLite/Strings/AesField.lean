import Mathlib.Algebra.CharP.Lemmas
import Mathlib.Algebra.CharP.Two
import Mathlib.Tactic.LinearCombination
import MyLite.Strings.Aes

/-! The bytes as the field of 256 elements, and what follows for the substitution and for the
columns. -/

namespace MyLite.Aes

/-- A statement that was checked of every byte. -/
theorem allBytes {property : UInt8 → Prop}
    (checked : ∀ number < 256, property (UInt8.ofNat number)) (byte : UInt8) : property byte := by
  have known := checked byte.toNat byte.toNat_lt
  rwa [UInt8.ofNat_toNat] at known

/-! Multiplication. -/

theorem high_bit (value : UInt8) : value &&& 0x80 = 0 ∨ value &&& 0x80 = 0x80 := by
  revert value
  apply allBytes
  decide +kernel

theorem xor_and (left right mask : UInt8) :
    (left ^^^ right) &&& mask = (left &&& mask) ^^^ (right &&& mask) := by
  apply UInt8.toNat_inj.mp
  rw [UInt8.toNat_and, UInt8.toNat_xor, UInt8.toNat_xor, UInt8.toNat_and, UInt8.toNat_and,
    Nat.and_xor_distrib_right]

theorem xor_xor_xor_comm (first second third fourth : UInt8) :
    first ^^^ second ^^^ (third ^^^ fourth) = first ^^^ third ^^^ (second ^^^ fourth) := by
  rw [UInt8.xor_assoc, ← UInt8.xor_assoc second, UInt8.xor_comm second, UInt8.xor_assoc third,
    ← UInt8.xor_assoc]

theorem reduction_xor (left right : UInt8) :
    (if (left ^^^ right) &&& 0x80 ≠ 0 then (0x1b : UInt8) else 0) =
      (if left &&& 0x80 ≠ 0 then 0x1b else 0) ^^^ (if right &&& 0x80 ≠ 0 then 0x1b else 0) := by
  rw [xor_and]
  rcases high_bit left with low | high <;> rcases high_bit right with low' | high'
  · rw [low, low']
    rfl
  · rw [low, high']
    rfl
  · rw [high, low']
    rfl
  · rw [high, high']
    rfl

theorem xtime_xor (left right : UInt8) : xtime (left ^^^ right) = xtime left ^^^ xtime right := by
  rw [xtime, xtime, xtime, UInt8.shiftLeft_xor, reduction_xor, xor_xor_xor_comm]

theorem gfMulLoop_step (result left : UInt8) {right : UInt8} (some : right ≠ 0) :
    gfMulLoop result left right =
      gfMulLoop (if right &&& 1 ≠ 0 then result ^^^ left else result) (xtime left) (right >>> 1) := by
  rw [gfMulLoop, if_neg some]

/-- A linear map that commutes with `xtime` goes through the loop. -/
theorem gfMulLoop_map {map : UInt8 → UInt8} (linear : ∀ left right, map (left ^^^ right) =
    map left ^^^ map right) (commutes : ∀ value, map (xtime value) = xtime (map value))
    (result left right : UInt8) :
    map (gfMulLoop result left right) = gfMulLoop (map result) (map left) right := by
  induction result, left, right using gfMulLoop.induct with
  | case1 result left => rw [gfMulLoop, if_pos rfl, gfMulLoop, if_pos rfl]
  | case2 result left right some ih =>
    rw [dite_eq_ite] at ih
    rw [gfMulLoop_step result left some, gfMulLoop_step (map result) (map left) some, ih, commutes]
    by_cases odd : right &&& 1 ≠ 0
    · rw [if_pos odd, if_pos odd, linear]
    · rw [if_neg odd, if_neg odd]

theorem gfMulLoop_xor (result other left another right : UInt8) :
    gfMulLoop (result ^^^ other) (left ^^^ another) right =
      gfMulLoop result left right ^^^ gfMulLoop other another right := by
  induction result, left, right using gfMulLoop.induct generalizing other another with
  | case1 result left =>
    rw [gfMulLoop, if_pos rfl, gfMulLoop, if_pos rfl, gfMulLoop, if_pos rfl]
  | case2 result left right some ih =>
    rw [dite_eq_ite] at ih
    rw [gfMulLoop_step (result ^^^ other) (left ^^^ another) some, gfMulLoop_step result left some,
      gfMulLoop_step other another some, xtime_xor]
    by_cases odd : right &&& 1 ≠ 0
    · rw [if_pos odd] at ih
      rw [if_pos odd, if_pos odd, if_pos odd, xor_xor_xor_comm]
      exact ih (other ^^^ another) (xtime another)
    · rw [if_neg odd] at ih
      rw [if_neg odd, if_neg odd, if_neg odd]
      exact ih other (xtime another)

theorem gfMul_xor (left another right : UInt8) :
    gfMul (left ^^^ another) right = gfMul left right ^^^ gfMul another right :=
  gfMulLoop_xor 0 0 left another right

theorem xtime_gfMul (left right : UInt8) : gfMul (xtime left) right = xtime (gfMul left right) :=
  (gfMulLoop_map xtime_xor (fun _ => rfl) 0 left right).symm

theorem gfMul_zero_left (right : UInt8) : gfMul 0 right = 0 := by
  have doubled := gfMul_xor 0 0 right
  rwa [UInt8.xor_self, UInt8.xor_self] at doubled

theorem gfMul_right_comm (value left right : UInt8) :
    gfMul (gfMul value left) right = gfMul (gfMul value right) left := by
  have linear (first second : UInt8) := gfMul_xor first second right
  have commutes (first : UInt8) := xtime_gfMul first right
  have through := @gfMulLoop_map (fun first => gfMul first right) linear commutes 0 value left
  rwa [gfMul_zero_left] at through

theorem gfMul_two (value : UInt8) : gfMul value 2 = xtime value := by
  have even : (2 : UInt8) &&& 1 = 0 := by decide
  have halved : (2 : UInt8) >>> 1 = 1 := by decide
  rw [gfMul, gfMulLoop_step 0 value (by decide), if_neg (not_not_intro even), halved,
    gfMulLoop_step 0 (xtime value) (by decide), if_pos (by decide), gfMulLoop,
    if_pos (by decide), UInt8.zero_xor]

theorem one_gfMul (value : UInt8) : gfMul 1 value = value := by
  revert value
  apply allBytes
  decide +kernel

theorem gfMul_comm (left right : UInt8) : gfMul left right = gfMul right left := by
  have swapped := gfMul_right_comm 1 left right
  rwa [one_gfMul, one_gfMul] at swapped

theorem gfMul_assoc (first second third : UInt8) :
    gfMul (gfMul first second) third = gfMul first (gfMul second third) := by
  rw [gfMul_comm first second, gfMul_right_comm, gfMul_comm]

/-! The field. -/

/-- A byte as an element of the field. -/
@[ext] structure Element where
  byte : UInt8
  deriving DecidableEq

namespace Element

instance : Add Element := ⟨fun left right => ⟨left.byte ^^^ right.byte⟩⟩

instance : Mul Element := ⟨fun left right => ⟨gfMul left.byte right.byte⟩⟩

instance : Zero Element := ⟨⟨0⟩⟩

instance : One Element := ⟨⟨1⟩⟩

instance : Neg Element := ⟨id⟩

theorem add_byte (left right : Element) : (left + right).byte = left.byte ^^^ right.byte := rfl

theorem mul_byte (left right : Element) : (left * right).byte = gfMul left.byte right.byte := rfl

theorem right_linear (first second third : Element) :
    first * (second + third) = first * second + first * third := by
  apply Element.ext
  rw [add_byte, mul_byte, mul_byte, mul_byte, add_byte, gfMul_comm, gfMul_xor,
    gfMul_comm second.byte, gfMul_comm third.byte]

instance : CommRing Element where
  add_assoc _ _ _ := Element.ext (UInt8.xor_assoc _ _ _)
  zero_add _ := Element.ext UInt8.zero_xor
  add_zero _ := Element.ext UInt8.xor_zero
  add_comm _ _ := Element.ext (UInt8.xor_comm _ _)
  neg_add_cancel _ := Element.ext UInt8.xor_self
  mul_assoc _ _ _ := Element.ext (gfMul_assoc _ _ _)
  mul_comm _ _ := Element.ext (gfMul_comm _ _)
  one_mul _ := Element.ext (one_gfMul _)
  mul_one _ := Element.ext ((gfMul_comm _ _).trans (one_gfMul _))
  zero_mul _ := Element.ext (gfMul_zero_left _)
  mul_zero _ := Element.ext ((gfMul_comm _ _).trans (gfMul_zero_left _))
  left_distrib := right_linear
  right_distrib _ _ _ := Element.ext (gfMul_xor _ _ _)
  nsmul := nsmulRec
  zsmul := zsmulRec

theorem add_self (element : Element) : element + element = 0 := Element.ext UInt8.xor_self

instance : CharP Element 2 := by
  apply CharTwo.of_one_ne_zero_of_two_eq_zero
  · exact fun same => absurd (congrArg Element.byte same) (by decide)
  · rw [← one_add_one_eq_two]
    exact add_self 1

/-- An additive map that fixes one and goes through doubling fixes every element. -/
theorem fixed {map : Element → Element} (additive : ∀ left right, map (left + right) =
    map left + map right) (one : map 1 = 1) (commutes : ∀ element, map (element * ⟨2⟩) =
    map element * ⟨2⟩) (element : Element) : map element = element := by
  have linear (left right : UInt8) :
      (map ⟨left ^^^ right⟩).byte = (map ⟨left⟩).byte ^^^ (map ⟨right⟩).byte :=
    congrArg Element.byte (additive ⟨left⟩ ⟨right⟩)
  have doubled (value : UInt8) : (map ⟨xtime value⟩).byte = xtime (map ⟨value⟩).byte := by
    have bytes := congrArg Element.byte (commutes ⟨value⟩)
    rwa [mul_byte, gfMul_two, show (⟨value⟩ * ⟨2⟩ : Element) = ⟨gfMul value 2⟩ from rfl,
      gfMul_two] at bytes
  have zero : map 0 = 0 := by
    have twice := additive 0 0
    rwa [add_zero, left_eq_add] at twice
  have through := @gfMulLoop_map (fun value => (map ⟨value⟩).byte) linear doubled 0 1 element.byte
  apply Element.ext
  rw [show (map ⟨0⟩).byte = 0 from congrArg Element.byte zero,
    show (map ⟨1⟩).byte = 1 from congrArg Element.byte one] at through
  exact (congrArg (fun value => (map ⟨value⟩).byte) (one_gfMul element.byte)).symm.trans
    (through.trans (one_gfMul element.byte))

theorem generator_pow : (⟨2⟩ : Element) ^ 256 = ⟨2⟩ := by
  have square (value : UInt8) : (⟨value⟩ : Element) ^ 2 = ⟨gfMul value value⟩ := sq _
  calc (⟨2⟩ : Element) ^ 256
      _ = (((((((⟨2⟩ ^ 2) ^ 2) ^ 2) ^ 2) ^ 2) ^ 2) ^ 2) ^ 2 := by simp only [← pow_mul, Nat.reduceMul]
      _ = ⟨2⟩ := by
        simp only [square]
        decide +kernel

/-- The elements are the roots of one polynomial. -/
theorem pow_order (element : Element) : element ^ 256 = element := by
  refine @fixed (fun element => element ^ 256) ?_ ?_ ?_ element
  · intro left right
    exact add_pow_char_pow left right 2 8
  · exact one_pow _
  · intro element
    rw [mul_pow, generator_pow]

theorem pow_add_order (element : Element) (count : Nat) :
    element ^ (1 + 255 * count) = element := by
  induction count with
  | zero => exact pow_one element
  | succ count ih =>
    have exponent : 1 + 255 * (count + 1) = 255 + (1 + 255 * count) := by ring
    rw [exponent, pow_add, ih, ← pow_succ, pow_order]

end Element

/-! Substitution. -/

theorem powerLoop_eq (result base : UInt8) (exponent : Nat) :
    (⟨powerLoop result base exponent⟩ : Element) = ⟨result⟩ * ⟨base⟩ ^ exponent := by
  induction result, base, exponent using powerLoop.induct with
  | case1 result base => rw [powerLoop, if_pos rfl, pow_zero, mul_one]
  | case2 result base exponent some ih =>
    have halves : exponent >>> 1 = exponent / 2 := Nat.shiftRight_eq_div_pow exponent 1
    have low : exponent &&& 1 = exponent % 2 := Nat.and_two_pow_sub_one_eq_mod exponent 1
    have square : (⟨gfMul base base⟩ : Element) = ⟨base⟩ ^ 2 := (sq _).symm
    have split : exponent = exponent % 2 + 2 * (exponent / 2) := (Nat.mod_add_div exponent 2).symm
    rw [dite_eq_ite] at ih
    rw [powerLoop, if_neg some, ih, square, ← pow_mul, halves, low]
    conv_rhs => rw [split, pow_add]
    by_cases odd : exponent % 2 ≠ 0
    · have one : exponent % 2 = 1 := by omega
      rw [if_pos odd, one, pow_one, ← mul_assoc]
      rfl
    · rw [if_neg odd, not_not.mp odd, pow_zero, one_mul]

theorem multiplicativeInverse_eq (value : UInt8) :
    (⟨multiplicativeInverse value⟩ : Element) = ⟨value⟩ ^ 254 := by
  rw [multiplicativeInverse]
  by_cases zero : value = 0
  · rw [if_pos zero, zero]
    exact (zero_pow (by decide)).symm
  · rw [if_neg zero, powerLoop_eq]
    exact one_mul _

theorem multiplicativeInverse_involutive : Function.Involutive multiplicativeInverse := by
  intro value
  have twice : (⟨multiplicativeInverse (multiplicativeInverse value)⟩ : Element) = ⟨value⟩ := by
    rw [multiplicativeInverse_eq, multiplicativeInverse_eq, ← pow_mul]
    exact Element.pow_add_order _ 253
  exact congrArg Element.byte twice

/-- The substitution, past the inverse. -/
def affine (value : UInt8) : UInt8 :=
  value ^^^ rotl value 1 ^^^ rotl value 2 ^^^ rotl value 3 ^^^ rotl value 4 ^^^ 0x63

def unaffine (value : UInt8) : UInt8 := rotl value 1 ^^^ rotl value 3 ^^^ rotl value 6 ^^^ 0x05

theorem unaffine_affine : Function.LeftInverse unaffine affine := by
  apply allBytes
  decide +kernel

theorem sboxValue_injective : Function.Injective sboxValue :=
  unaffine_affine.injective.comp multiplicativeInverse_involutive.injective

/-! Columns. -/

namespace Element

variable (a b c d : Element)

/-- A row of the product of the two matrices of columns. -/
theorem product_row :
    (a * ⟨2⟩ + b * ⟨3⟩ + c + d) * ⟨14⟩ + (a + b * ⟨2⟩ + c * ⟨3⟩ + d) * ⟨11⟩ +
      (a + b + c * ⟨2⟩ + d * ⟨3⟩) * ⟨13⟩ + (a * ⟨3⟩ + b + c + d * ⟨2⟩) * ⟨9⟩ = a := by
  have three : (⟨3⟩ : Element) = ⟨2⟩ + 1 := by decide +kernel
  have nine : (⟨9⟩ : Element) = ⟨2⟩ * ⟨2⟩ * ⟨2⟩ + 1 := by decide +kernel
  have eleven : (⟨11⟩ : Element) = ⟨2⟩ * ⟨2⟩ * ⟨2⟩ + ⟨2⟩ + 1 := by decide +kernel
  have thirteen : (⟨13⟩ : Element) = ⟨2⟩ * ⟨2⟩ * ⟨2⟩ + ⟨2⟩ * ⟨2⟩ + 1 := by decide +kernel
  have fourteen : (⟨14⟩ : Element) = ⟨2⟩ * ⟨2⟩ * ⟨2⟩ + ⟨2⟩ * ⟨2⟩ + ⟨2⟩ := by decide +kernel
  have two : (2 : Element) = 0 := CharTwo.two_eq_zero
  rw [three, nine, eleven, thirteen, fourteen]
  generalize (⟨2⟩ : Element) = x
  linear_combination (a * (x ^ 4 + 2 * x ^ 3 + x ^ 2 + x + 1) +
    b * (x ^ 4 + 2 * x ^ 3 + 2 * x ^ 2 + x + 1) + c * (x ^ 4 + 2 * x ^ 3 + x ^ 2 + 2 * x + 1) +
    d * (x ^ 4 + 2 * x ^ 3 + x ^ 2 + 2 * x + 1)) * two

theorem product_row_second :
    (a * ⟨2⟩ + b * ⟨3⟩ + c + d) * ⟨9⟩ + (a + b * ⟨2⟩ + c * ⟨3⟩ + d) * ⟨14⟩ +
      (a + b + c * ⟨2⟩ + d * ⟨3⟩) * ⟨11⟩ + (a * ⟨3⟩ + b + c + d * ⟨2⟩) * ⟨13⟩ = b := by
  linear_combination product_row b c d a

theorem product_row_third :
    (a * ⟨2⟩ + b * ⟨3⟩ + c + d) * ⟨13⟩ + (a + b * ⟨2⟩ + c * ⟨3⟩ + d) * ⟨9⟩ +
      (a + b + c * ⟨2⟩ + d * ⟨3⟩) * ⟨14⟩ + (a * ⟨3⟩ + b + c + d * ⟨2⟩) * ⟨11⟩ = c := by
  linear_combination product_row c d a b

theorem product_row_fourth :
    (a * ⟨2⟩ + b * ⟨3⟩ + c + d) * ⟨11⟩ + (a + b * ⟨2⟩ + c * ⟨3⟩ + d) * ⟨13⟩ +
      (a + b + c * ⟨2⟩ + d * ⟨3⟩) * ⟨9⟩ + (a * ⟨3⟩ + b + c + d * ⟨2⟩) * ⟨14⟩ = d := by
  linear_combination product_row d a b c

end Element

theorem invMixColumn_mixColumn : Function.LeftInverse invMixColumn mixColumn := by
  intro col
  apply Vector.ext
  intro index below
  obtain rfl | rfl | rfl | rfl : index = 0 ∨ index = 1 ∨ index = 2 ∨ index = 3 := by omega
  · exact congrArg Element.byte (Element.product_row ⟨col[0]⟩ ⟨col[1]⟩ ⟨col[2]⟩ ⟨col[3]⟩)
  · exact congrArg Element.byte (Element.product_row_second ⟨col[0]⟩ ⟨col[1]⟩ ⟨col[2]⟩ ⟨col[3]⟩)
  · exact congrArg Element.byte (Element.product_row_third ⟨col[0]⟩ ⟨col[1]⟩ ⟨col[2]⟩ ⟨col[3]⟩)
  · exact congrArg Element.byte (Element.product_row_fourth ⟨col[0]⟩ ⟨col[1]⟩ ⟨col[2]⟩ ⟨col[3]⟩)

end MyLite.Aes
