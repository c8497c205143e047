import MyLite.Library.Checked

/-! The checked 64-bit operations of the arithmetic functions. -/

namespace MyLite.Numeric

open ExactInt64 (InRange ofExact ofExact_eq_some ofExact_eq_none toInt_inRange tdiv_inRange_iff
  tmod_inRange)

/-- `none` is undefined behaviour, and the inner `none` is the overflow the helper
reports. -/
abbrev Checked := Option (Option Int64)

/-- `||` between two guards: the second is evaluated only where the first is false. -/
def orElse (first second : Option Bool) : Option Bool :=
  first.bind fun holds => if holds then some true else second

def checkedInt64Add (left right : Int64) : Checked :=
  (orElse
    (if 0 < right then
      (ExactInt64.sub Int64.maxValue right).map fun bound => decide (bound < left)
    else some false)
    (if right < 0 then
      (ExactInt64.sub Int64.minValue right).map fun bound => decide (left < bound)
    else some false)).bind fun exceeds =>
  if exceeds then some none else (ExactInt64.add left right).map some

def checkedInt64Subtract (left right : Int64) : Checked :=
  (orElse
    (if right < 0 then
      (ExactInt64.add Int64.maxValue right).map fun bound => decide (bound < left)
    else some false)
    (if 0 < right then
      (ExactInt64.add Int64.minValue right).map fun bound => decide (left < bound)
    else some false)).bind fun exceeds =>
  if exceeds then some none else (ExactInt64.sub left right).map some

def checkedInt64Multiply (left right : Int64) : Checked :=
  if left = 0 ∨ right = 0 then some (some 0)
  else if left = Int64.minValue ∧ right = -1 ∨ right = Int64.minValue ∧ left = -1 then some none
  else
    (if 0 < left then
      if 0 < right then
        (ExactInt64.div Int64.maxValue right).map fun bound => decide (bound < left)
      else (ExactInt64.div Int64.minValue left).map fun bound => decide (right < bound)
    else if 0 < right then
      (ExactInt64.div Int64.minValue right).map fun bound => decide (left < bound)
    else (ExactInt64.div Int64.maxValue right).map fun bound => decide (left < bound)).bind
      fun exceeds => if exceeds then some none else (ExactInt64.mul left right).map some

inductive IntegerArithmeticOperation where
  | add
  | subtract
  | multiply
  | divide
  | integerDivide
  | modulo
  deriving DecidableEq, Repr

inductive Status where
  | ok
  | error
  | nomem
  deriving DecidableEq, Repr

/-- What the division helper reports, or the status it fails with. -/
inductive DivisionAnswer where
  | failed (rc : Status)
  | null
  | overflow
  | value (result : Int64)
  deriving DecidableEq, Repr

/-- `warning` is the status of `append_arithmetic_division_by_zero_warning`. A `/` that is
not integer division is computed elsewhere. -/
def checkedIntegerDivisionOperation (warning : Status) (operation : IntegerArithmeticOperation)
    (left right : Int64) : Option DivisionAnswer :=
  if right = 0 then some (if warning = .ok then .null else .failed warning)
  else
    match operation with
    | .divide => some (.value 0)
    | .integerDivide =>
      if left = Int64.minValue ∧ right = -1 then some .overflow
      else (ExactInt64.div left right).map .value
    | .modulo => if right = -1 then some (.value 0) else (ExactInt64.mod left right).map .value
    | .add | .subtract | .multiply => some (.failed .error)

/-! Exactness. -/

/-- The helper is defined, reports overflow exactly where the result does not fit, and
returns the result otherwise. -/
def Exact (answer : Checked) (exact : Int) : Prop :=
  ∃ reported, answer = some reported ∧ (reported = none ↔ ¬ InRange exact) ∧
    ∀ result, reported = some result → result.toInt = exact

theorem exact_ofExact {answer : Checked} {exact : Int} (same : answer = some (ofExact exact)) :
    Exact answer exact :=
  ⟨_, same, ofExact_eq_none, fun _ => ofExact_eq_some.mp⟩

theorem ofExact_some {exact : Int} (inRange : InRange exact) :
    ∃ value, ofExact exact = some value ∧ value.toInt = exact := by
  cases found : ofExact exact with
  | none => exact absurd inRange (ofExact_eq_none.mp found)
  | some value => exact ⟨value, rfl, ofExact_eq_some.mp found⟩

theorem maxValue_toInt : Int64.maxValue.toInt = 9223372036854775807 := by decide

theorem minValue_toInt : Int64.minValue.toInt = -9223372036854775808 := by decide

theorem zero_toInt : (0 : Int64).toInt = 0 := by decide

theorem minusOne_toInt : (-1 : Int64).toInt = -1 := by decide

theorem eq_iff_toInt {left right : Int64} : left = right ↔ left.toInt = right.toInt :=
  Int64.toInt_inj.symm

/-- A guard on a bound that can be computed compares with it exactly. -/
theorem bound_below {exact : Int} (inRange : InRange exact) (value : Int64) :
    ((ofExact exact).map fun bound => decide (bound < value)) =
      some (decide (exact < value.toInt)) := by
  obtain ⟨bound, found, same⟩ := ofExact_some inRange
  rw [found, Option.map_some, ← same]
  simp only [Int64.lt_iff_toInt_lt]

theorem bound_above {exact : Int} (inRange : InRange exact) (value : Int64) :
    ((ofExact exact).map fun bound => decide (value < bound)) =
      some (decide (value.toInt < exact)) := by
  obtain ⟨bound, found, same⟩ := ofExact_some inRange
  rw [found, Option.map_some, ← same]
  simp only [Int64.lt_iff_toInt_lt]

theorem guard_below {condition : Prop} [Decidable condition] {exact : Int}
    (inRange : condition → InRange exact) (value : Int64) :
    (if condition then (ofExact exact).map fun bound => decide (bound < value) else some false) =
      some (decide (condition ∧ exact < value.toInt)) := by
  split
  · rename_i holds
    rw [bound_below (inRange holds)]
    simp only [holds, true_and]
  · rename_i fails
    simp only [fails, false_and, decide_false]

theorem guard_above {condition : Prop} [Decidable condition] {exact : Int}
    (inRange : condition → InRange exact) (value : Int64) :
    (if condition then (ofExact exact).map fun bound => decide (value < bound) else some false) =
      some (decide (condition ∧ value.toInt < exact)) := by
  split
  · rename_i holds
    rw [bound_above (inRange holds)]
    simp only [holds, true_and]
  · rename_i fails
    simp only [fails, false_and, decide_false]

theorem orElse_some (first second : Bool) :
    orElse (some first) (some second) = some (first || second) := by
  cases first <;> rfl

/-- A guard that holds where the result is out of range makes the helper exact. -/
theorem exact_of_guard {guard : Option Bool} {exact : Int} {exceeds : Bool}
    (evaluated : guard = some exceeds) (outside : exceeds = true ↔ ¬ InRange exact) :
    Exact (guard.bind fun exceeds => if exceeds then some none else (ofExact exact).map some)
      exact := by
  apply exact_ofExact
  rw [evaluated, Option.bind_some]
  cases exceeds with
  | true =>
    rw [if_pos rfl, ofExact_eq_none.mpr (outside.mp rfl)]
  | false =>
    have inRange : InRange exact := by
      by_contra beyond
      cases outside.mpr beyond
    obtain ⟨value, found, _⟩ := ofExact_some inRange
    rw [if_neg Bool.false_ne_true, found, Option.map_some]

section Operations

variable (left right : Int64)

theorem checkedInt64Add_exact : Exact (checkedInt64Add left right) (left.toInt + right.toInt) := by
  obtain ⟨leftLow, leftHigh⟩ := toInt_inRange left
  obtain ⟨rightLow, rightHigh⟩ := toInt_inRange right
  unfold checkedInt64Add ExactInt64.sub
  simp only [Int64.lt_iff_toInt_lt (x := right), Int64.lt_iff_toInt_lt (y := right), zero_toInt,
    maxValue_toInt, minValue_toInt]
  rw [guard_below (by intro positive; unfold InRange; omega),
    guard_above (by intro negative; unfold InRange; omega), orElse_some]
  refine exact_of_guard rfl ?_
  simp only [Bool.or_eq_true, decide_eq_true_eq, InRange]
  omega

theorem checkedInt64Subtract_exact :
    Exact (checkedInt64Subtract left right) (left.toInt - right.toInt) := by
  obtain ⟨leftLow, leftHigh⟩ := toInt_inRange left
  obtain ⟨rightLow, rightHigh⟩ := toInt_inRange right
  unfold checkedInt64Subtract ExactInt64.add
  simp only [Int64.lt_iff_toInt_lt (x := right), Int64.lt_iff_toInt_lt (y := right), zero_toInt,
    maxValue_toInt, minValue_toInt]
  rw [guard_below (by intro negative; unfold InRange; omega),
    guard_above (by intro positive; unfold InRange; omega), orElse_some]
  refine exact_of_guard rfl ?_
  simp only [Bool.or_eq_true, decide_eq_true_eq, InRange]
  omega

/-! The quotients of the guards, in each sign quadrant. -/

theorem tdiv_lt_iff {bound factor other : Int} (nonneg : 0 ≤ bound) (positive : 0 < factor) :
    bound.tdiv factor < other ↔ bound < other * factor := by
  rw [Int.tdiv_eq_ediv_of_nonneg nonneg]
  exact Int.ediv_lt_iff_lt_mul positive

theorem lt_neg_tdiv_iff {bound factor other : Int} (nonneg : 0 ≤ bound) (positive : 0 < factor) :
    other < (-bound).tdiv factor ↔ other * factor < -bound := by
  have flipped : other < -(bound.tdiv factor) ↔ bound.tdiv factor < -other := by omega
  rw [Int.neg_tdiv, flipped, tdiv_lt_iff nonneg positive, Int.neg_mul]
  omega

theorem lt_tdiv_neg_iff {bound factor other : Int} (nonneg : 0 ≤ bound) (negative : factor < 0) :
    other < bound.tdiv factor ↔ bound < other * factor := by
  have quotient : bound.tdiv factor = -(bound.tdiv (-factor)) := by
    rw [Int.tdiv_neg, Int.neg_neg]
  have flipped : other < -(bound.tdiv (-factor)) ↔ bound.tdiv (-factor) < -other := by omega
  rw [quotient, flipped, tdiv_lt_iff nonneg (by omega), Int.neg_mul_neg]

variable {left right} in
theorem div_eq {bound : Int64} (nonzero : right.toInt ≠ 0) :
    ExactInt64.div bound right = ofExact (bound.toInt.tdiv right.toInt) := by
  have notZero : right ≠ 0 := by
    intro isZero
    rw [isZero] at nonzero
    exact nonzero zero_toInt
  rw [ExactInt64.div, if_neg notZero]

theorem checkedInt64Multiply_exact :
    Exact (checkedInt64Multiply left right) (left.toInt * right.toInt) := by
  have leftRange := toInt_inRange left
  have rightRange := toInt_inRange right
  unfold checkedInt64Multiply
  simp only [eq_iff_toInt, Int64.lt_iff_toInt_lt (x := 0), zero_toInt, minValue_toInt,
    minusOne_toInt]
  split
  · rename_i zero
    have product : left.toInt * right.toInt = 0 := Int.mul_eq_zero.mpr zero
    rw [product]
    exact exact_ofExact rfl
  · rename_i nonzero
    rw [not_or] at nonzero
    obtain ⟨leftNonzero, rightNonzero⟩ := nonzero
    split
    · rename_i minimum
      have product : left.toInt * right.toInt = 9223372036854775808 := by
        rcases minimum with ⟨atMin, minusOne⟩ | ⟨atMin, minusOne⟩ <;> rw [atMin, minusOne] <;> rfl
      rw [product]
      exact exact_ofExact rfl
    · have maxRange : InRange 9223372036854775807 := by decide
      have minRange : InRange (-9223372036854775808) := by decide
      have maxQuotient {factor : Int} (nonzero : factor ≠ 0) :
          InRange (Int.tdiv 9223372036854775807 factor) :=
        (tdiv_inRange_iff maxRange nonzero).mpr (by omega)
      have minQuotient {factor : Int} (positive : 0 < factor) :
          InRange (Int.tdiv (-9223372036854775808) factor) :=
        (tdiv_inRange_iff minRange (by omega)).mpr (by omega)
      unfold ExactInt64.mul
      rcases Int.lt_or_gt_of_ne leftNonzero with leftNegative | leftPositive
      · rw [if_neg (by omega)]
        rcases Int.lt_or_gt_of_ne rightNonzero with rightNegative | rightPositive
        · rw [if_neg (by omega), div_eq rightNonzero, maxValue_toInt]
          refine exact_of_guard (bound_above (maxQuotient rightNonzero) left) ?_
          have product := Int.mul_pos_of_neg_of_neg leftNegative rightNegative
          rw [decide_eq_true_eq, lt_tdiv_neg_iff (by decide) rightNegative, InRange]
          omega
        · rw [if_pos rightPositive, div_eq rightNonzero, minValue_toInt]
          refine exact_of_guard (bound_above (minQuotient rightPositive) left) ?_
          have product := Int.mul_neg_of_neg_of_pos leftNegative rightPositive
          rw [decide_eq_true_eq, lt_neg_tdiv_iff (by decide) rightPositive, InRange]
          omega
      · rw [if_pos leftPositive]
        rcases Int.lt_or_gt_of_ne rightNonzero with rightNegative | rightPositive
        · rw [if_neg (by omega), div_eq leftNonzero, minValue_toInt]
          refine exact_of_guard (bound_above (minQuotient leftPositive) right) ?_
          have product := Int.mul_neg_of_pos_of_neg leftPositive rightNegative
          rw [decide_eq_true_eq, lt_neg_tdiv_iff (by decide) leftPositive, InRange,
            Int.mul_comm right.toInt]
          omega
        · rw [if_pos rightPositive, div_eq rightNonzero, maxValue_toInt]
          refine exact_of_guard (bound_below (maxQuotient rightNonzero) left) ?_
          have product := Int.mul_pos leftPositive rightPositive
          rw [decide_eq_true_eq, tdiv_lt_iff (by decide) rightPositive, InRange]
          omega

/-! Division. -/

/-- The helper divided: it is defined, reports overflow exactly where the result does not
fit, and returns the result otherwise. -/
def ExactDivision (answer : Option DivisionAnswer) (exact : Int) : Prop :=
  (answer = some .overflow ∧ ¬ InRange exact) ∨
    ∃ result, answer = some (.value result) ∧ result.toInt = exact

theorem exactDivision_ofExact {exact : Int} (inRange : InRange exact) :
    ExactDivision ((ofExact exact).map .value) exact := by
  obtain ⟨value, found, same⟩ := ofExact_some inRange
  refine Or.inr ⟨value, ?_, same⟩
  rw [found, Option.map_some]

/-- A zero divisor is answered with null and a warning, and nothing is divided. -/
theorem division_by_zero (warning : Status) (operation : IntegerArithmeticOperation) :
    checkedIntegerDivisionOperation warning operation left 0 =
      some (if warning = .ok then .null else .failed warning) := by
  exact if_pos rfl

variable {right} in
theorem toInt_ne_zero (nonzero : right ≠ 0) : right.toInt ≠ 0 := by
  intro isZero
  exact nonzero (eq_iff_toInt.mpr (isZero.trans zero_toInt.symm))

variable {right} in
theorem integerDivide_exact (warning : Status) (nonzero : right ≠ 0) :
    ExactDivision (checkedIntegerDivisionOperation warning .integerDivide left right)
      (left.toInt.tdiv right.toInt) := by
  have fits := tdiv_inRange_iff (toInt_inRange left) (toInt_ne_zero nonzero)
  simp only [checkedIntegerDivisionOperation, if_neg nonzero]
  split
  · rename_i minimum
    rw [eq_iff_toInt, eq_iff_toInt, minValue_toInt, minusOne_toInt] at minimum
    exact Or.inl ⟨rfl, fun inRange => fits.mp inRange minimum⟩
  · rename_i inside
    rw [eq_iff_toInt, eq_iff_toInt, minValue_toInt, minusOne_toInt] at inside
    rw [div_eq (toInt_ne_zero nonzero)]
    exact exactDivision_ofExact (fits.mpr inside)

variable {right} in
theorem modulo_exact (warning : Status) (nonzero : right ≠ 0) :
    ExactDivision (checkedIntegerDivisionOperation warning .modulo left right)
      (left.toInt.tmod right.toInt) := by
  have fits := tdiv_inRange_iff (toInt_inRange left) (toInt_ne_zero nonzero)
  simp only [checkedIntegerDivisionOperation, if_neg nonzero]
  split
  · rename_i minusOne
    have remainder : left.toInt.tmod right.toInt = 0 := by
      rw [minusOne, minusOne_toInt, Int.tmod_neg, Int.tmod_one]
    rw [remainder]
    exact Or.inr ⟨0, rfl, zero_toInt⟩
  · rename_i other
    -- the quotient is defined as well, for the divisor is not -1
    have quotient : InRange (left.toInt.tdiv right.toInt) := by
      refine fits.mpr ?_
      rintro ⟨_, minusOne⟩
      exact other (eq_iff_toInt.mpr (minusOne.trans minusOne_toInt.symm))
    obtain ⟨divided, found, _⟩ := ofExact_some quotient
    rw [ExactInt64.mod, div_eq (toInt_ne_zero nonzero), found, Option.bind_some]
    exact exactDivision_ofExact (tmod_inRange (toInt_inRange left) right.toInt)

/-- Every checked helper is defined on all operands, reports overflow if and only if the
exact result is no `int64_t`, and returns the exact result otherwise; a zero divisor is
answered before anything is divided. -/
theorem checked_arithmetic_exact (warning : Status) :
    Exact (checkedInt64Add left right) (left.toInt + right.toInt) ∧
    Exact (checkedInt64Subtract left right) (left.toInt - right.toInt) ∧
    Exact (checkedInt64Multiply left right) (left.toInt * right.toInt) ∧
    (right = 0 → ∀ operation, checkedIntegerDivisionOperation warning operation left right =
      some (if warning = .ok then .null else .failed warning)) ∧
    (right ≠ 0 →
      ExactDivision (checkedIntegerDivisionOperation warning .integerDivide left right)
        (left.toInt.tdiv right.toInt) ∧
      ExactDivision (checkedIntegerDivisionOperation warning .modulo left right)
        (left.toInt.tmod right.toInt)) := by
  refine ⟨checkedInt64Add_exact left right, checkedInt64Subtract_exact left right,
    checkedInt64Multiply_exact left right, ?_, ?_⟩
  · rintro rfl operation
    exact division_by_zero left warning operation
  · intro nonzero
    exact ⟨integerDivide_exact left warning nonzero, modulo_exact left warning nonzero⟩

example : checkedInt64Multiply Int64.minValue (-1) = some none := by decide

end Operations

end MyLite.Numeric
