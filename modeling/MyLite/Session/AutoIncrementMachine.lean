import MyLite.Library.Progression
import MyLite.Library.Checked
import MyLite.Numeric.IntegerRange
import MyLite.Session.InsertCounter

/-! The arithmetic of AUTO_INCREMENT on `int64_t` and `uint64_t`: the functions of the
counter, with every operation checked, do what the functions over the integers do. -/

namespace MyLite.AutoIncrement

open Checked (Stop accept accept_ite int64 uint64 int64_eq uint64_eq ok_bind)
open InsertCounter (PlannedRow PlannedValue)
open Transactions (Session)
open Alignment (Aligned firstFrom stepsOver)

/-- The `steps` of `generated_auto_increment_value_for_lower_bound`. -/
def alignedSteps (delta increment : Int) : Except Stop Int :=
  if delta % increment ≠ 0 then uint64 (delta / increment + 1) else pure (delta / increment)

/-- The `candidate` of `generated_auto_increment_value_for_lower_bound`. -/
def alignedCandidate (offset increment lower : Int) : Except Stop Int :=
  if lower ≤ offset then pure offset
  else do
    let delta ← uint64 (lower - offset)
    let steps ← alignedSteps delta increment
    let room ← uint64 (18446744073709551615 - offset)
    if steps > room / increment then throw .refused
    else do
      let product ← uint64 (steps * increment)
      uint64 (offset + product)

/-- `generated_auto_increment_value_for_lower_bound`. -/
def generatedAutoIncrementValueForLowerBound (session : Session) (lowerBound : Int) :
    Except Stop Int :=
  if lowerBound ≤ 0 then throw .refused
  else if session.autoIncrementOffset > session.autoIncrementIncrement then throw .refused
  else do
    let lower ← uint64 lowerBound
    let candidate ←
      alignedCandidate session.autoIncrementOffset session.autoIncrementIncrement lower
    if candidate > 9223372036854775807 then throw .refused else int64 candidate

/-- `next_auto_increment_after_generated_value`. -/
def nextAutoIncrementAfterGeneratedValue (session : Session) (range : IntegerColumnRange)
    (value : Int) : Except Stop Int :=
  if value ≤ 0 then throw .refused
  else do
    let unsignedValue ← uint64 value
    if unsignedValue > range.positiveMax then throw .refused
    else if unsignedValue = range.positiveMax then pure value
    else do
      let room ← uint64 (range.positiveMax - unsignedValue)
      if room < session.autoIncrementIncrement then
        if (range.positiveMax : Int) > 9223372036854775807 then throw .refused
        else int64 range.positiveMax
      else do
        let increment ← int64 session.autoIncrementIncrement
        int64 (value + increment)

/-- `next_auto_increment_after_explicit_insert_value`. -/
def nextAutoIncrementAfterExplicitInsertValue (range : IntegerColumnRange)
    (currentNext value : Int) : Except Stop Int :=
  if currentNext ≤ 0 ∨ value ≤ 0 then throw .refused
  else if value < currentNext then pure currentNext
  else do
    let unsignedValue ← uint64 value
    if unsignedValue > range.positiveMax then throw .refused
    else if unsignedValue = range.positiveMax then pure value
    else int64 (value + 1)

/-- `next_auto_increment_after_update_value`. -/
def nextAutoIncrementAfterUpdateValue (session : Session) (range : IntegerColumnRange)
    (currentNext value : Int) : Except Stop Int :=
  if currentNext ≤ 0 ∨ value ≤ 0 then throw .refused
  else if value < currentNext then pure currentNext
  else do
    let unsignedValue ← uint64 value
    if unsignedValue > range.positiveMax then throw .refused
    else if unsignedValue = range.positiveMax then pure value
    else do
      let lowerBound ← int64 (value + 1)
      generatedAutoIncrementValueForLowerBound session lowerBound

/-- `plan_insert_auto_increment_row_value`. -/
def planInsertAutoIncrementRowValue (session : Session) (range : IntegerColumnRange) (next : Int)
    (row : PlannedRow) : Except Stop (Int × PlannedRow) :=
  if row.generated then do
    let value ← generatedAutoIncrementValueForLowerBound session next
    if value ≤ 0 then throw .refused
    else do
      let unsignedValue ← uint64 value
      if unsignedValue > range.positiveMax then throw .refused
      else do
        let after ← nextAutoIncrementAfterGeneratedValue session range value
        pure (after, { value := .integer value, generated := true })
  else
    match row.value with
    | .integer value =>
      if 0 < value then do
        let after ← nextAutoIncrementAfterExplicitInsertValue range next value
        pure (after, row)
      else pure (next, row)
    | _ => pure (next, row)

/-! The checked functions. -/

/-- The session variables are `uint64_t`; an increment is never zero, and an offset that is
greater than the increment generates nothing. -/
structure Steps (session : Session) : Prop where
  positiveOffset : 1 ≤ session.autoIncrementOffset
  ordered : session.autoIncrementOffset ≤ session.autoIncrementIncrement
  fits : session.autoIncrementIncrement ≤ 18446744073709551615

section

variable {session : Session} {range : IntegerColumnRange} {offset increment lower : Nat}
  {current value : Int}

theorem alignedSteps_eq {distance increment : Nat} (fits : distance ≤ 9223372036854775807) :
    alignedSteps distance increment = .ok (stepsOver distance increment : Nat) := by
  have quotient := Nat.div_le_self distance increment
  have nonneg := Int.ediv_nonneg (Int.natCast_nonneg distance) (Int.natCast_nonneg increment)
  rw [alignedSteps, stepsOver]
  by_cases remains : distance % increment = 0
  · rw [if_neg (by omega), if_neg (by omega)]
    rfl
  · rw [if_pos (by omega), if_pos (by omega)]
    exact uint64_eq (by omega) (by omega)

/-- A candidate that is refused is beyond `uint64_t`. -/
theorem alignedCandidate_eq (positive : 1 ≤ offset) (ordered : offset ≤ increment)
    (increments : increment ≤ 18446744073709551615) (fits : lower ≤ 9223372036854775807) :
    alignedCandidate offset increment lower =
      if firstFrom offset increment lower ≤ 18446744073709551615 then
        .ok (firstFrom offset increment lower : Nat)
      else .error .refused := by
  rw [alignedCandidate, firstFrom]
  by_cases below : lower ≤ offset
  · rw [if_pos (by omega), if_pos below, if_pos (by omega)]
    rfl
  · rw [if_neg (by omega), if_neg below]
    have distance : (lower : Int) - offset = (lower - offset : Nat) := by omega
    rw [distance, uint64_eq (by omega) (by omega), ok_bind]
    generalize atDistance : lower - offset = distance
    rw [alignedSteps_eq (by omega), ok_bind, uint64_eq (by omega) (by omega), ok_bind]
    have room : (18446744073709551615 - (offset : Int)) / increment =
        ((18446744073709551615 - offset) / increment : Nat) := by
      rw [Int.natCast_ediv]
      congr 1
      omega
    rw [room]
    generalize stepsOver distance increment = steps
    have product : (steps : Int) * increment = (steps * increment : Nat) := rfl
    by_cases roomy : steps ≤ (18446744073709551615 - offset) / increment
    · have small := (Nat.le_div_iff_mul_le (by omega)).mp roomy
      rw [if_neg (Int.not_lt.mpr (Int.ofNat_le.mpr roomy)), if_pos (by omega), product,
        uint64_eq (by omega) (by omega), ok_bind]
      exact uint64_eq (by omega) (by omega)
    · have large : ¬ steps * increment ≤ 18446744073709551615 - offset :=
        fun small => roomy ((Nat.le_div_iff_mul_le (by omega)).mpr small)
      rw [if_pos (Int.ofNat_lt.mpr (Nat.lt_of_not_le roomy)), if_neg (by omega)]
      rfl

theorem generated_eq (steps : Steps session) (positive : 1 ≤ lower)
    (fits : lower ≤ 9223372036854775807) :
    generatedAutoIncrementValueForLowerBound session lower =
      if firstFrom session.autoIncrementOffset session.autoIncrementIncrement lower ≤
          9223372036854775807 then
        .ok (firstFrom session.autoIncrementOffset session.autoIncrementIncrement lower : Nat)
      else .error .refused := by
  obtain ⟨positiveOffset, ordered, sessionFits⟩ := steps
  rw [generatedAutoIncrementValueForLowerBound, if_neg (by omega), if_neg (by omega),
    uint64_eq (by omega) (by omega), ok_bind,
    alignedCandidate_eq positiveOffset ordered sessionFits fits]
  generalize firstFrom session.autoIncrementOffset session.autoIncrementIncrement lower = first
  by_cases within : first ≤ 18446744073709551615
  · rw [if_pos within, ok_bind]
    by_cases small : first ≤ 9223372036854775807
    · rw [if_neg (by omega), if_pos small]
      exact int64_eq (by omega) (by omega)
    · rw [if_pos (by omega), if_neg small]
      rfl
  · rw [if_neg within, if_neg (by omega)]
    rfl

theorem generated_eq_firstFrom (steps : Steps session) (positive : 1 ≤ lower) :
    Transactions.generatedAutoIncrementValueForLowerBound session lower =
      if firstFrom session.autoIncrementOffset session.autoIncrementIncrement lower ≤
          9223372036854775807 then
        some ↑(firstFrom session.autoIncrementOffset session.autoIncrementIncrement lower)
      else none := by
  have accepted : ¬ ((decide ((lower : Int) ≤ 0) ||
      decide (session.autoIncrementOffset > session.autoIncrementIncrement)) = true) := by
    have ordered := steps.ordered
    simp only [Bool.or_eq_true, decide_eq_true_eq, not_or]
    omega
  rw [Transactions.generatedAutoIncrementValueForLowerBound]
  dsimp only
  rw [if_neg accepted, Int.toNat_natCast]
  change (if firstFrom session.autoIncrementOffset session.autoIncrementIncrement lower >
    9223372036854775807 then none else _) = _
  by_cases fits : firstFrom session.autoIncrementOffset session.autoIncrementIncrement lower ≤
      9223372036854775807
  · rw [if_pos fits, if_neg (Nat.not_lt.mpr fits)]
    rfl
  · rw [if_neg fits, if_pos (Nat.lt_of_not_le fits)]

theorem generated_eq_accept (steps : Steps session) (positive : 1 ≤ lower)
    (fits : lower ≤ 9223372036854775807) :
    generatedAutoIncrementValueForLowerBound session lower =
      accept (Transactions.generatedAutoIncrementValueForLowerBound session lower) := by
  rw [generated_eq steps positive fits, generated_eq_firstFrom steps positive, accept_ite]
  rfl

theorem afterGenerated_eq_accept (bounded : range.Bounded) (positive : 0 < value)
    (fits : value ≤ 9223372036854775807) :
    nextAutoIncrementAfterGeneratedValue session range value =
      accept (Transactions.nextAutoIncrementAfterGeneratedValue session range.positiveMax
        value) := by
  have largest := bounded.positiveFits
  have refused : (decide (value ≤ 0) || decide (value.toNat > range.positiveMax)) = true ↔
      value > range.positiveMax := by
    rw [Bool.or_eq_true, decide_eq_true_eq, decide_eq_true_eq]
    omega
  have isMax : value.toNat = range.positiveMax ↔ value = range.positiveMax := by omega
  rw [nextAutoIncrementAfterGeneratedValue, if_neg (Int.not_le.mpr positive),
    uint64_eq (by omega) (by omega), ok_bind, Transactions.nextAutoIncrementAfterGeneratedValue]
  simp only [refused, isMax]
  by_cases above : value > range.positiveMax
  · rw [if_pos above, if_pos above]
    rfl
  · rw [if_neg above, if_neg above]
    by_cases atMax : value = range.positiveMax
    · rw [if_pos atMax, if_pos atMax]
      rfl
    · have room : range.positiveMax - value.toNat < session.autoIncrementIncrement ↔
          (range.positiveMax : Int) - value < session.autoIncrementIncrement := by omega
      simp only [room]
      rw [if_neg atMax, if_neg atMax, uint64_eq (by omega) (by omega), ok_bind]
      by_cases short : (range.positiveMax : Int) - value < session.autoIncrementIncrement
      · rw [if_pos short, if_pos short, if_neg (Int.not_lt.mpr (by omega)),
          if_neg (Nat.not_lt.mpr largest)]
        exact int64_eq (by omega) (by omega)
      · rw [if_neg short, if_neg short, int64_eq (by omega) (by omega), ok_bind]
        exact int64_eq (by omega) (by omega)

theorem afterExplicit_eq_accept (bounded : range.Bounded) (fits : value ≤ 9223372036854775807) :
    nextAutoIncrementAfterExplicitInsertValue range current value =
      accept (Transactions.nextAutoIncrementAfterExplicitInsertValue range.positiveMax current
        value) := by
  have largest := bounded.positiveFits
  rw [nextAutoIncrementAfterExplicitInsertValue,
    Transactions.nextAutoIncrementAfterExplicitInsertValue]
  simp only [Bool.or_eq_true, decide_eq_true_eq]
  by_cases invalid : current ≤ 0 ∨ value ≤ 0
  · rw [if_pos invalid, if_pos invalid]
    rfl
  · have above : value.toNat > range.positiveMax ↔ value > range.positiveMax := by omega
    have isMax : value.toNat = range.positiveMax ↔ value = range.positiveMax := by omega
    simp only [above, isMax]
    rw [if_neg invalid, if_neg invalid]
    by_cases below : value < current
    · rw [if_pos below, if_pos below]
      rfl
    · rw [if_neg below, if_neg below, uint64_eq (by omega) (by omega), ok_bind]
      by_cases large : value > range.positiveMax
      · rw [if_pos large, if_pos large]
        rfl
      · rw [if_neg large, if_neg large]
        by_cases atMax : value = range.positiveMax
        · rw [if_pos atMax, if_pos atMax]
          rfl
        · rw [if_neg atMax, if_neg atMax]
          exact int64_eq (by omega) (by omega)

theorem afterUpdate_eq_accept (steps : Steps session) (bounded : range.Bounded)
    (fits : value ≤ 9223372036854775807) :
    nextAutoIncrementAfterUpdateValue session range current value =
      accept (Transactions.nextAutoIncrementAfterUpdateValue session range.positiveMax current
        value) := by
  have largest := bounded.positiveFits
  rw [nextAutoIncrementAfterUpdateValue, Transactions.nextAutoIncrementAfterUpdateValue]
  simp only [Bool.or_eq_true, decide_eq_true_eq]
  by_cases invalid : current ≤ 0 ∨ value ≤ 0
  · rw [if_pos invalid, if_pos invalid]
    rfl
  · have above : value.toNat > range.positiveMax ↔ value > range.positiveMax := by omega
    have isMax : value.toNat = range.positiveMax ↔ value = range.positiveMax := by omega
    simp only [above, isMax]
    rw [if_neg invalid, if_neg invalid]
    by_cases below : value < current
    · rw [if_pos below, if_pos below]
      rfl
    · rw [if_neg below, if_neg below, uint64_eq (by omega) (by omega), ok_bind]
      by_cases large : value > range.positiveMax
      · rw [if_pos large, if_pos large]
        rfl
      · rw [if_neg large, if_neg large]
        by_cases atMax : value = range.positiveMax
        · rw [if_pos atMax, if_pos atMax]
          rfl
        · rw [if_neg atMax, if_neg atMax, int64_eq (by omega) (by omega), ok_bind]
          have positive : 0 ≤ value + 1 := by omega
          obtain ⟨lower, counted⟩ := Int.eq_ofNat_of_zero_le positive
          rw [counted]
          exact generated_eq_accept steps (by omega) (by omega)

end

end MyLite.AutoIncrement
