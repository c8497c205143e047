import MyLite.Library.Checked
import MyLite.Numeric.IntegerRange
import MyLite.Numeric.UnsignedLiteral

/-! `UPDATE t SET c = c + n` and `UPDATE t SET c = c - n` on an integer column: one query looks
for a matched row whose result would leave the column, and then SQLite computes the results. -/

namespace MyLite.UpdateArithmetic

open Checked (Stop int64 uint64)
open UnsignedLiteral (parseUnsignedIntegerLiteral)

inductive Operator where
  | add
  | subtract
  deriving DecidableEq, Repr

structure PlannedUpdate where
  logicalType : String
  range : IntegerColumnRange
  rangeOfType : integerRangeForLogicalType logicalType = some range
  arithmeticOperator : Operator
  /-- The text of the literal. -/
  arithmeticDelta : List UInt8
  /-- A column of the target is written with its alias in the predicate. With
  `qualify_column_references`, which a subquery sets, every such column is; an `EXISTS` may name
  none. -/
  writesTargetAlias : Bool
  hasLimit : Bool

inductive Failure where
  | deltaOutOfRange
  | columnOutOfRange
  | bigintOutOfRange
  | bigintUnsignedOutOfRange
  /-- SQLite does not prepare the query. -/
  | physicalSqlite
  /-- An operation of the code left its type. -/
  | overflow
  deriving DecidableEq, Repr

/-! The thresholds. -/

def int64FromNegativeAbs (negativeAbs : Int) : Except Stop Int :=
  if negativeAbs = 0 then pure 0
  else if negativeAbs = 9223372036854775808 then pure (-9223372036854775808)
  else do
    let value ← int64 negativeAbs
    int64 (-value)

def updateArithmeticDomainWidth (range : IntegerColumnRange) : Except Stop Int :=
  uint64 (range.positiveMax + range.negativeAbsMax)

def updateArithmeticAdditionThreshold (range : IntegerColumnRange) (delta : Int) :
    Except Stop Int :=
  if delta ≤ range.positiveMax then do
    let threshold ← uint64 (range.positiveMax - delta)
    int64 threshold
  else do
    let negativeAbs ← uint64 (delta - range.positiveMax)
    int64FromNegativeAbs negativeAbs

def updateArithmeticSubtractionThreshold (range : IntegerColumnRange) (delta : Int) :
    Except Stop Int :=
  if delta ≤ range.negativeAbsMax then do
    let negativeAbs ← uint64 (range.negativeAbsMax - delta)
    int64FromNegativeAbs negativeAbs
  else do
    let threshold ← uint64 (delta - range.negativeAbsMax)
    int64 threshold

/-! The query for a row that is out of range. -/

inductive RangeCondition where
  | anyNonNull
  | greaterThan
  | lessThan
  deriving DecidableEq, Repr

structure RangeCheck where
  condition : RangeCondition
  threshold : Int
  errorKind : Failure
  deriving DecidableEq, Repr

/-- What the query selects among the matched rows; NULL is never selected. -/
def RangeCheck.matchesValue (check : RangeCheck) : Option Int → Bool
  | none => false
  | some value =>
    match check.condition with
    | .anyNonNull => true
    | .greaterThan => value > check.threshold
    | .lessThan => value < check.threshold

/-- Whether the names in the query resolve. `build_update_arithmetic_condition_sql` gives the
table no alias; the rowid subquery of a limited UPDATE gives its own. -/
def conditionSqlPrepares (plan : PlannedUpdate) : Bool :=
  !plan.writesTargetAlias || plan.hasLimit

/-- `update_arithmetic_condition_matches_row`, on the column of the matched rows. -/
def updateArithmeticConditionMatchesRow (plan : PlannedUpdate) (check : RangeCheck)
    (rows : List (Option Int)) : Except Failure Bool :=
  if conditionSqlPrepares plan then .ok (rows.any check.matchesValue)
  else .error .physicalSqlite

def validateUpdateArithmeticThresholdRange (plan : PlannedUpdate) (check : RangeCheck)
    (rows : List (Option Int)) : Except Failure Unit :=
  (updateArithmeticConditionMatchesRow plan check rows).bind fun hasOutOfRangeRow =>
    if hasOutOfRangeRow then .error check.errorKind else .ok ()

/-- `strstr(column->logical_type, "UNSIGNED") != NULL`, for the types of integer columns. -/
def updateArithmeticColumnIsUnsigned (plan : PlannedUpdate) : Bool :=
  ["TINYINT UNSIGNED", "SMALLINT UNSIGNED", "MEDIUMINT UNSIGNED", "INT UNSIGNED",
    "BIGINT UNSIGNED"].contains plan.logicalType

def updateArithmeticRangeErrorKindForPlan (plan : PlannedUpdate) : Failure :=
  if plan.arithmeticOperator = .subtract ∧ updateArithmeticColumnIsUnsigned plan then
    .bigintUnsignedOutOfRange
  else if plan.logicalType = "BIGINT" then .bigintOutOfRange
  else .columnOutOfRange

/-- The outcome of checked arithmetic within a statement. -/
def guarded {Value : Type} (computed : Except Stop Value) : Except Failure Value :=
  computed.mapError fun _ => .overflow

def validateUpdateArithmeticRange (plan : PlannedUpdate) (delta : Nat)
    (rows : List (Option Int)) : Except Failure Unit :=
  (guarded (updateArithmeticDomainWidth plan.range)).bind fun width =>
  if (delta : Int) > width then
    validateUpdateArithmeticThresholdRange plan
      ⟨.anyNonNull, 0, updateArithmeticRangeErrorKindForPlan plan⟩ rows
  else if plan.arithmeticOperator = .add then
    (guarded (updateArithmeticAdditionThreshold plan.range delta)).bind fun threshold =>
    validateUpdateArithmeticThresholdRange plan
      ⟨.greaterThan, threshold, updateArithmeticRangeErrorKindForPlan plan⟩ rows
  else
    (guarded (updateArithmeticSubtractionThreshold plan.range delta)).bind fun threshold =>
    validateUpdateArithmeticThresholdRange plan
      ⟨.lessThan, threshold,
        if updateArithmeticColumnIsUnsigned plan then .bigintUnsignedOutOfRange
        else updateArithmeticRangeErrorKindForPlan plan⟩ rows

/-- `prepare_update_arithmetic_assignment`: the delta that is bound. -/
def prepareUpdateArithmeticAssignment (plan : PlannedUpdate) (rows : List (Option Int)) :
    Except Failure Nat :=
  match (parseUnsignedIntegerLiteral plan.arithmeticDelta).filter (· ≤ 9223372036854775807) with
  | none =>
    (updateArithmeticConditionMatchesRow plan ⟨.anyNonNull, 0, .columnOutOfRange⟩ rows).bind
      fun hasNonNullRow => if hasNonNullRow then .error .deltaOutOfRange else .ok 0
  | some delta =>
    if delta = 0 then .ok delta
    else (validateUpdateArithmeticRange plan delta rows).map fun _ => delta

/-! The results. -/

/-- A value that SQLite computes. -/
inductive Computed where
  | null
  | integer (value : Int)
  /-- The exact result is no 64-bit integer, and SQLite computes with doubles. -/
  | real
  deriving DecidableEq, Repr

def Operator.apply : Operator → Int → Int → Int
  | .add, value, delta => value + delta
  | .subtract, value, delta => value - delta

/-- `c + ?1` and `c - ?1` in SQLite. -/
def sqliteArithmetic (operator : Operator) (delta : Nat) : Option Int → Computed
  | none => .null
  | some value =>
    if -9223372036854775808 ≤ operator.apply value delta ∧
        operator.apply value delta ≤ 9223372036854775807 then
      .integer (operator.apply value delta)
    else .real

/-- `prepare_executable_update_plan` and the physical UPDATE of the matched rows. -/
def executeUpdate (plan : PlannedUpdate) (rows : List (Option Int)) :
    Except Failure (List Computed) :=
  if rows = [] then .ok []
  else (prepareUpdateArithmeticAssignment plan rows).map fun delta =>
    rows.map (sqliteArithmetic plan.arithmeticOperator delta)

end MyLite.UpdateArithmetic
