import MyLite.Runtime.UpdateArithmetic

/-! The range check of UPDATE arithmetic is exact wherever its query can be prepared. -/

namespace MyLite.UpdateArithmetic

open Checked (int64 uint64 int64_eq uint64_eq ok_bind)
open UnsignedLiteral (Unsigned literalValue parseUnsignedIntegerLiteral
  parseUnsignedIntegerLiteral_eq)

/-! The delta. -/

/-- The delta of a literal in the range of `int64_t`. -/
theorem filter_parse {text : List UInt8} (literal : Unsigned text) :
    (parseUnsignedIntegerLiteral text).filter (· ≤ 9223372036854775807) =
      if literalValue text ≤ 9223372036854775807 then some (literalValue text) else none := by
  rw [parseUnsignedIntegerLiteral_eq literal]
  by_cases small : literalValue text ≤ 9223372036854775807
  · rw [if_pos (Nat.le_trans small (by decide)), if_pos small]
    simpa using small
  · rw [if_neg small]
    split
    · simpa using small
    · rfl

/-! The thresholds. -/

section Thresholds

variable {range : IntegerColumnRange} {delta : Nat}

theorem int64FromNegativeAbs_eq {negativeAbs : Int} (nonneg : 0 ≤ negativeAbs)
    (fits : negativeAbs ≤ 9223372036854775808) :
    int64FromNegativeAbs negativeAbs = .ok (-negativeAbs) := by
  rw [int64FromNegativeAbs]
  split
  · rename_i zero
    rw [zero]
    rfl
  · split
    · rename_i largest
      rw [largest]
      rfl
    · rw [int64_eq (by omega) (by omega), ok_bind]
      exact int64_eq (by omega) (by omega)

theorem updateArithmeticDomainWidth_eq (bounded : range.Bounded) :
    updateArithmeticDomainWidth range = .ok (range.positiveMax + range.negativeAbsMax) := by
  obtain ⟨_, positiveFits, negativeFits⟩ := bounded
  exact uint64_eq (by omega) (by omega)

/-- The largest value to which the delta can be added. -/
theorem updateArithmeticAdditionThreshold_eq (bounded : range.Bounded)
    (narrow : delta ≤ range.positiveMax + range.negativeAbsMax) :
    updateArithmeticAdditionThreshold range delta = .ok (range.positiveMax - delta) := by
  obtain ⟨_, positiveFits, negativeFits⟩ := bounded
  rw [updateArithmeticAdditionThreshold]
  split
  · rw [uint64_eq (by omega) (by omega), ok_bind]
    exact int64_eq (by omega) (by omega)
  · rw [uint64_eq (by omega) (by omega), ok_bind, int64FromNegativeAbs_eq (by omega) (by omega),
      Int.neg_sub]

/-- The smallest value from which the delta can be subtracted. -/
theorem updateArithmeticSubtractionThreshold_eq (bounded : range.Bounded)
    (narrow : delta ≤ range.positiveMax + range.negativeAbsMax) :
    updateArithmeticSubtractionThreshold range delta = .ok (delta - range.negativeAbsMax) := by
  obtain ⟨_, positiveFits, negativeFits⟩ := bounded
  rw [updateArithmeticSubtractionThreshold]
  split
  · rw [uint64_eq (by omega) (by omega), ok_bind, int64FromNegativeAbs_eq (by omega) (by omega),
      Int.neg_sub]
  · rw [uint64_eq (by omega) (by omega), ok_bind]
    exact int64_eq (by omega) (by omega)

end Thresholds

/-! The range check. -/

section Check

variable {plan : PlannedUpdate} {rows : List (Option Int)} {delta : Nat}

/-- The column holds the values of the rows. -/
def ColumnHolds (range : IntegerColumnRange) (rows : List (Option Int)) : Prop :=
  ∀ value, some value ∈ rows → range.Holds value

/-- Every result is one that the column holds. -/
def ResultsFit (plan : PlannedUpdate) (delta : Nat) (rows : List (Option Int)) : Prop :=
  ∀ value, some value ∈ rows → plan.range.Holds (plan.arithmeticOperator.apply value delta)

theorem any_eq_false {check : RangeCheck} : rows.any check.matchesValue = false ↔
    ∀ value, some value ∈ rows → check.matchesValue (some value) = false := by
  rw [List.any_eq_false]
  constructor
  · intro none value member
    exact Bool.eq_false_iff.mpr (none _ member)
  · rintro none row member
    cases row with
    | none => exact Bool.false_ne_true
    | some value => exact Bool.eq_false_iff.mp (none value member)

theorem validateThresholdRange_ok {check : RangeCheck}
    (prepares : conditionSqlPrepares plan = true) :
    validateUpdateArithmeticThresholdRange plan check rows = .ok () ↔
      rows.any check.matchesValue = false := by
  rw [validateUpdateArithmeticThresholdRange, updateArithmeticConditionMatchesRow, if_pos prepares]
  change (if rows.any check.matchesValue = true then Except.error check.errorKind
    else Except.ok ()) = _ ↔ _
  split
  · rename_i found
    rw [found]
    exact iff_of_false (fun impossible => by cases impossible) (fun impossible => by
      cases impossible)
  · rename_i none
    exact iff_of_true rfl (Bool.eq_false_iff.mpr none)

theorem matches_greaterThan {threshold value : Int} {errorKind : Failure} :
    (RangeCheck.mk .greaterThan threshold errorKind).matchesValue (some value) = false ↔
      value ≤ threshold := by
  refine decide_eq_false_iff_not.trans ?_
  exact Int.not_lt

theorem matches_lessThan {threshold value : Int} {errorKind : Failure} :
    (RangeCheck.mk .lessThan threshold errorKind).matchesValue (some value) = false ↔
      threshold ≤ value := by
  refine decide_eq_false_iff_not.trans ?_
  exact Int.not_lt

theorem any_anyNonNull {threshold : Int} {errorKind : Failure} :
    rows.any (RangeCheck.mk .anyNonNull threshold errorKind).matchesValue = false ↔
      ∀ value, some value ∉ rows := by
  rw [any_eq_false]
  refine forall_congr' fun value => ?_
  constructor
  · intro never member
    cases never member
  · intro absent member
    exact absurd member absent

theorem guarded_bind {Value Result : Type} (value : Value) (next : Value → Except Failure Result) :
    (guarded (.ok value)).bind next = next value := rfl

/-- The row that the query looks for is one whose result does not fit. -/
theorem validateUpdateArithmeticRange_ok (prepares : conditionSqlPrepares plan = true)
    (holds : ColumnHolds plan.range rows) :
    validateUpdateArithmeticRange plan delta rows = .ok () ↔ ResultsFit plan delta rows := by
  have bounded := integerRange_bounded plan.rangeOfType
  rw [validateUpdateArithmeticRange, updateArithmeticDomainWidth_eq bounded, guarded_bind]
  by_cases wide : (delta : Int) > plan.range.positiveMax + plan.range.negativeAbsMax
  · rw [if_pos wide, validateThresholdRange_ok prepares, any_anyNonNull]
    refine forall_congr' fun value => ⟨fun absent member => absurd member absent, ?_⟩
    intro fits member
    obtain ⟨low, high⟩ := holds value member
    obtain ⟨resultLow, resultHigh⟩ := fits member
    cases operator : plan.arithmeticOperator with
    | add =>
      rw [operator, Operator.apply] at resultHigh
      omega
    | subtract =>
      rw [operator, Operator.apply] at resultLow
      omega
  · rw [if_neg wide]
    cases operator : plan.arithmeticOperator with
    | add =>
      rw [if_pos rfl, updateArithmeticAdditionThreshold_eq bounded (by omega), guarded_bind,
        validateThresholdRange_ok prepares, any_eq_false]
      refine forall_congr' fun value => forall_congr' fun member => ?_
      obtain ⟨low, high⟩ := holds value member
      rw [operator, Operator.apply, matches_greaterThan]
      constructor
      · intro within
        constructor
        · omega
        · omega
      · rintro ⟨_, resultHigh⟩
        omega
    | subtract =>
      rw [if_neg (by decide), updateArithmeticSubtractionThreshold_eq bounded (by omega),
        guarded_bind, validateThresholdRange_ok prepares, any_eq_false]
      refine forall_congr' fun value => forall_congr' fun member => ?_
      obtain ⟨low, high⟩ := holds value member
      rw [operator, Operator.apply, matches_lessThan]
      constructor
      · intro within
        constructor
        · omega
        · omega
      · rintro ⟨resultLow, _⟩
        omega

theorem validateThresholdRange_overflow {check : RangeCheck} (kind : check.errorKind ≠ .overflow) :
    validateUpdateArithmeticThresholdRange plan check rows ≠ .error .overflow := by
  rw [validateUpdateArithmeticThresholdRange, updateArithmeticConditionMatchesRow]
  split
  · change (if rows.any check.matchesValue = true then Except.error check.errorKind
      else Except.ok ()) ≠ _
    split
    · intro same
      exact kind (Except.error.inj same)
    · intro same
      cases same
  · intro same
    cases same

theorem errorKind_ne_overflow : updateArithmeticRangeErrorKindForPlan plan ≠ .overflow := by
  rw [updateArithmeticRangeErrorKindForPlan]
  split
  · decide
  · split
    · decide
    · decide

/-- No arithmetic of the check overflows. -/
theorem validateUpdateArithmeticRange_overflow :
    validateUpdateArithmeticRange plan delta rows ≠ .error .overflow := by
  have bounded := integerRange_bounded plan.rangeOfType
  rw [validateUpdateArithmeticRange, updateArithmeticDomainWidth_eq bounded, guarded_bind]
  split
  · exact validateThresholdRange_overflow errorKind_ne_overflow
  · split
    · rw [updateArithmeticAdditionThreshold_eq bounded (by omega), guarded_bind]
      exact validateThresholdRange_overflow errorKind_ne_overflow
    · rw [updateArithmeticSubtractionThreshold_eq bounded (by omega), guarded_bind]
      apply validateThresholdRange_overflow
      dsimp only
      split
      · decide
      · exact errorKind_ne_overflow

theorem validateThresholdRange_unprepared {check : RangeCheck}
    (fails : conditionSqlPrepares plan = false) :
    validateUpdateArithmeticThresholdRange plan check rows = .error .physicalSqlite := by
  rw [validateUpdateArithmeticThresholdRange, updateArithmeticConditionMatchesRow, if_neg (by
    rw [fails]
    exact Bool.false_ne_true)]
  rfl

theorem validateUpdateArithmeticRange_unprepared (fails : conditionSqlPrepares plan = false) :
    validateUpdateArithmeticRange plan delta rows = .error .physicalSqlite := by
  have bounded := integerRange_bounded plan.rangeOfType
  rw [validateUpdateArithmeticRange, updateArithmeticDomainWidth_eq bounded, guarded_bind]
  split
  · exact validateThresholdRange_unprepared fails
  · split
    · rw [updateArithmeticAdditionThreshold_eq bounded (by omega), guarded_bind]
      exact validateThresholdRange_unprepared fails
    · rw [updateArithmeticSubtractionThreshold_eq bounded (by omega), guarded_bind]
      exact validateThresholdRange_unprepared fails

end Check

/-! The statement. -/

/-- The results fit, or there is none to compute. -/
def Acceptable (plan : PlannedUpdate) (rows : List (Option Int)) : Prop :=
  if literalValue plan.arithmeticDelta ≤ 9223372036854775807 then
    ResultsFit plan (literalValue plan.arithmeticDelta) rows
  else ∀ value, some value ∉ rows

/-- The statement is accepted where it should be, SQLite computes every result on integers and
no arithmetic of the check overflows. -/
structure Exact (plan : PlannedUpdate) (rows : List (Option Int)) : Prop where
  accepted : (∃ results, executeUpdate plan rows = .ok results) ↔ Acceptable plan rows
  integers : ∀ results, executeUpdate plan rows = .ok results → .real ∉ results
  noOverflow : executeUpdate plan rows ≠ .error .overflow

section Statement

variable {plan : PlannedUpdate} {rows : List (Option Int)}

theorem sqliteArithmetic_ne_real {delta : Nat} (bounded : plan.range.Bounded)
    (fit : ResultsFit plan delta rows) :
    Computed.real ∉ rows.map (sqliteArithmetic plan.arithmeticOperator delta) := by
  obtain ⟨_, positiveFits, negativeFits⟩ := bounded
  intro member
  obtain ⟨row, rowMember, computed⟩ := List.mem_map.mp member
  cases row with
  | none => cases computed
  | some value =>
    obtain ⟨low, high⟩ := fit value rowMember
    rw [sqliteArithmetic, if_pos ⟨by omega, by omega⟩] at computed
    cases computed

theorem resultsFit_zero (holds : ColumnHolds plan.range rows) : ResultsFit plan 0 rows := by
  intro value member
  cases operator : plan.arithmeticOperator with
  | add =>
    rw [Operator.apply, Int.natCast_zero, Int.add_zero]
    exact holds value member
  | subtract =>
    rw [Operator.apply, Int.natCast_zero, Int.sub_zero]
    exact holds value member

theorem prepare_of_small (literal : Unsigned plan.arithmeticDelta)
    (small : literalValue plan.arithmeticDelta ≤ 9223372036854775807) :
    prepareUpdateArithmeticAssignment plan rows =
      if literalValue plan.arithmeticDelta = 0 then .ok (literalValue plan.arithmeticDelta)
      else (validateUpdateArithmeticRange plan (literalValue plan.arithmeticDelta) rows).map
        fun _ => literalValue plan.arithmeticDelta := by
  rw [prepareUpdateArithmeticAssignment, filter_parse literal, if_pos small]

theorem prepare_of_large (literal : Unsigned plan.arithmeticDelta)
    (large : ¬ literalValue plan.arithmeticDelta ≤ 9223372036854775807) :
    prepareUpdateArithmeticAssignment plan rows =
      (updateArithmeticConditionMatchesRow plan ⟨.anyNonNull, 0, .columnOutOfRange⟩ rows).bind
        fun hasNonNullRow => if hasNonNullRow then .error .deltaOutOfRange else .ok 0 := by
  rw [prepareUpdateArithmeticAssignment, filter_parse literal, if_neg large]

theorem prepare_overflow (literal : Unsigned plan.arithmeticDelta) :
    prepareUpdateArithmeticAssignment plan rows ≠ .error .overflow := by
  by_cases small : literalValue plan.arithmeticDelta ≤ 9223372036854775807
  · rw [prepare_of_small literal small]
    split
    · intro impossible
      cases impossible
    · have checked := @validateUpdateArithmeticRange_overflow plan rows
        (literalValue plan.arithmeticDelta)
      cases outcome : validateUpdateArithmeticRange plan (literalValue plan.arithmeticDelta)
        rows with
      | ok =>
        intro impossible
        cases impossible
      | error failure =>
        rw [outcome] at checked
        exact fun same => checked (congrArg _ (Except.error.inj same))
  · rw [prepare_of_large literal small, updateArithmeticConditionMatchesRow]
    split
    · change (if _ then Except.error Failure.deltaOutOfRange else Except.ok 0) ≠ _
      split
      · intro impossible
        cases impossible
      · intro impossible
        cases impossible
    · intro impossible
      cases impossible

/-- What a prepared assignment computes fits. -/
theorem prepare_fits (literal : Unsigned plan.arithmeticDelta)
    (holds : ColumnHolds plan.range rows) {delta : Nat}
    (prepared : prepareUpdateArithmeticAssignment plan rows = .ok delta) :
    ResultsFit plan delta rows := by
  by_cases small : literalValue plan.arithmeticDelta ≤ 9223372036854775807
  · rw [prepare_of_small literal small] at prepared
    split at prepared
    · rename_i zero
      rw [zero] at prepared
      cases prepared
      exact resultsFit_zero holds
    · cases outcome : validateUpdateArithmeticRange plan (literalValue plan.arithmeticDelta)
        rows with
      | ok =>
        rw [outcome] at prepared
        cases prepared
        cases prepares : conditionSqlPrepares plan with
        | true => exact (validateUpdateArithmeticRange_ok prepares holds).mp outcome
        | false =>
          rw [validateUpdateArithmeticRange_unprepared prepares] at outcome
          cases outcome
      | error failure =>
        rw [outcome] at prepared
        cases prepared
  · rw [prepare_of_large literal small] at prepared
    cases matched : updateArithmeticConditionMatchesRow plan ⟨.anyNonNull, 0, .columnOutOfRange⟩
      rows with
    | error failure =>
      rw [matched] at prepared
      cases prepared
    | ok hasNonNullRow =>
      rw [matched] at prepared
      cases hasNonNullRow with
      | true => cases prepared
      | false =>
        cases prepared
        exact resultsFit_zero holds

/-- With a query that can be prepared, the assignment is prepared exactly where it should be. -/
theorem prepare_ok_iff (literal : Unsigned plan.arithmeticDelta)
    (holds : ColumnHolds plan.range rows) (prepares : conditionSqlPrepares plan = true) :
    (∃ delta, prepareUpdateArithmeticAssignment plan rows = .ok delta) ↔ Acceptable plan rows := by
  rw [Acceptable]
  by_cases small : literalValue plan.arithmeticDelta ≤ 9223372036854775807
  · rw [if_pos small, prepare_of_small literal small]
    by_cases zero : literalValue plan.arithmeticDelta = 0
    · rw [if_pos zero, zero]
      exact iff_of_true ⟨0, rfl⟩ (resultsFit_zero holds)
    · rw [if_neg zero, ← validateUpdateArithmeticRange_ok prepares holds]
      cases outcome : validateUpdateArithmeticRange plan (literalValue plan.arithmeticDelta)
        rows with
      | ok => exact iff_of_true ⟨_, rfl⟩ rfl
      | error failure =>
        refine iff_of_false ?_ ?_
        · rintro ⟨delta, impossible⟩
          cases impossible
        · intro impossible
          cases impossible
  · rw [if_neg small, prepare_of_large literal small, updateArithmeticConditionMatchesRow,
      if_pos prepares, ← any_anyNonNull]
    change (∃ delta, (if rows.any _ = true then Except.error Failure.deltaOutOfRange
      else Except.ok 0) = Except.ok delta) ↔ _
    split
    · rename_i found
      rw [found]
      refine iff_of_false ?_ (fun impossible => by cases impossible)
      rintro ⟨delta, impossible⟩
      cases impossible
    · rename_i none
      exact iff_of_true ⟨0, rfl⟩ (Bool.eq_false_iff.mpr none)

theorem prepare_unprepared (literal : Unsigned plan.arithmeticDelta)
    (nonzero : literalValue plan.arithmeticDelta ≠ 0)
    (fails : conditionSqlPrepares plan = false) :
    prepareUpdateArithmeticAssignment plan rows = .error .physicalSqlite := by
  by_cases small : literalValue plan.arithmeticDelta ≤ 9223372036854775807
  · rw [prepare_of_small literal small, if_neg nonzero,
      validateUpdateArithmeticRange_unprepared fails]
    rfl
  · rw [prepare_of_large literal small, updateArithmeticConditionMatchesRow, if_neg (by
      rw [fails]
      exact Bool.false_ne_true)]
    rfl

theorem executeUpdate_ok_iff : (∃ results, executeUpdate plan rows = .ok results) ↔
    rows = [] ∨ ∃ delta, prepareUpdateArithmeticAssignment plan rows = .ok delta := by
  rw [executeUpdate]
  split
  · rename_i empty
    exact iff_of_true ⟨[], rfl⟩ (.inl empty)
  · rename_i nonempty
    cases prepareUpdateArithmeticAssignment plan rows with
    | ok delta => exact iff_of_true ⟨_, rfl⟩ (.inr ⟨delta, rfl⟩)
    | error failure =>
      refine iff_of_false ?_ ?_
      · rintro ⟨results, impossible⟩
        cases impossible
      · rintro (empty | ⟨delta, impossible⟩)
        · exact nonempty empty
        · cases impossible

theorem acceptable_nil : Acceptable plan [] := by
  rw [Acceptable]
  split
  · exact fun value member => absurd member List.not_mem_nil
  · exact fun value => List.not_mem_nil

theorem acceptable_zero (holds : ColumnHolds plan.range rows)
    (zero : literalValue plan.arithmeticDelta = 0) : Acceptable plan rows := by
  rw [Acceptable, zero, if_pos (by decide)]
  exact resultsFit_zero holds

end Statement

/-- The statement does what it should exactly when its range check can be prepared, or is not
needed, or a result does not fit anyway: the query names the table without the alias that the
predicate may use for its columns. -/
theorem update_arithmetic_exact_iff {plan : PlannedUpdate} {rows : List (Option Int)}
    (literal : Unsigned plan.arithmeticDelta) (holds : ColumnHolds plan.range rows) :
    Exact plan rows ↔ plan.writesTargetAlias = false ∨ plan.hasLimit = true ∨ rows = [] ∨
      literalValue plan.arithmeticDelta = 0 ∨ ¬ Acceptable plan rows := by
  have bounded := integerRange_bounded plan.rangeOfType
  have integers : ∀ results, executeUpdate plan rows = .ok results → .real ∉ results := by
    intro results executed
    rw [executeUpdate] at executed
    split at executed
    · cases executed
      exact List.not_mem_nil
    · cases prepared : prepareUpdateArithmeticAssignment plan rows with
      | error failure =>
        rw [prepared] at executed
        cases executed
      | ok delta =>
        rw [prepared] at executed
        cases executed
        exact sqliteArithmetic_ne_real bounded (prepare_fits literal holds prepared)
  have noOverflow : executeUpdate plan rows ≠ .error .overflow := by
    rw [executeUpdate]
    split
    · intro impossible
      cases impossible
    · have checked := @prepare_overflow plan rows literal
      cases prepared : prepareUpdateArithmeticAssignment plan rows with
      | ok delta =>
        intro impossible
        cases impossible
      | error failure =>
        rw [prepared] at checked
        exact fun same => checked (congrArg _ (Except.error.inj same))
  constructor
  · rintro ⟨accepted, -, -⟩
    -- where no disjunct holds, the query fails although every result fits
    by_contra none
    simp only [not_or, Bool.not_eq_false, Bool.not_eq_true, not_not] at none
    obtain ⟨aliased, unlimited, matched, nonzero, acceptable⟩ := none
    have fails : conditionSqlPrepares plan = false := by
      rw [conditionSqlPrepares, aliased, unlimited]
      rfl
    obtain empty | ⟨delta, prepared⟩ := executeUpdate_ok_iff.mp (accepted.mpr acceptable)
    · exact matched empty
    · rw [prepare_unprepared literal nonzero fails] at prepared
      cases prepared
  · intro condition
    refine ⟨?_, integers, noOverflow⟩
    rw [executeUpdate_ok_iff]
    by_cases prepares : conditionSqlPrepares plan = true
    · rw [prepare_ok_iff literal holds prepares]
      constructor
      · rintro (rfl | acceptable)
        · exact acceptable_nil
        · exact acceptable
      · exact .inr
    · rw [Bool.not_eq_true] at prepares
      rcases condition with unaliased | limited | rfl | zero | unacceptable
      · rw [conditionSqlPrepares, unaliased] at prepares
        cases prepares
      · rw [conditionSqlPrepares, limited, Bool.or_true] at prepares
        cases prepares
      · exact iff_of_true (.inl rfl) acceptable_nil
      · refine iff_of_true (.inr ⟨0, ?_⟩) (acceptable_zero holds zero)
        rw [prepare_of_small literal (by omega), if_pos zero, zero]
      · refine iff_of_false ?_ unacceptable
        rintro (rfl | ⟨delta, prepared⟩)
        · exact unacceptable acceptable_nil
        · by_cases zero : literalValue plan.arithmeticDelta = 0
          · exact unacceptable (acceptable_zero holds zero)
          · rw [prepare_unprepared literal zero prepares] at prepared
            cases prepared

/-- `UPDATE t SET c = c + 1` on an INT column, with or without a predicate that writes a column
of `t` with the alias. -/
def increment (writesTargetAlias : Bool) : PlannedUpdate where
  logicalType := "INT"
  range := ⟨2147483647, 2147483648⟩
  rangeOfType := by decide
  arithmeticOperator := .add
  arithmeticDelta := [0x31]
  writesTargetAlias := writesTargetAlias
  hasLimit := false

theorem increment_literal (writesTargetAlias : Bool) :
    Unsigned (increment writesTargetAlias).arithmeticDelta := by
  constructor
  · exact List.cons_ne_nil _ _
  · intro byte member
    rw [increment, List.mem_singleton] at member
    rw [member]
    decide

theorem increment_holds (writesTargetAlias : Bool) :
    ColumnHolds (increment writesTargetAlias).range [some 1, none] := by
  intro value member
  rcases List.mem_cons.mp member with same | later
  · cases same
    decide +revert
  · cases List.mem_singleton.mp later

theorem update_arithmetic_exact_increment : Exact (increment false) [some 1, none] :=
  (update_arithmetic_exact_iff (increment_literal false) (increment_holds false)).mpr (.inl rfl)

/-- `UPDATE t SET c = c + 1 WHERE id IN (SELECT x FROM u)` fails where it should not. -/
theorem increment_in_subquery_fails : Unsigned (increment true).arithmeticDelta ∧
    ColumnHolds (increment true).range [some 1, none] ∧
    Acceptable (increment true) [some 1, none] ∧
    executeUpdate (increment true) [some 1, none] = .error .physicalSqlite ∧
    ¬ Exact (increment true) [some 1, none] := by
  have acceptable : Acceptable (increment true) [some 1, none] := by
    rw [Acceptable, if_pos (by decide)]
    intro value member
    rcases List.mem_cons.mp member with same | later
    · cases same
      decide
    · cases List.mem_singleton.mp later
  have failed : executeUpdate (increment true) [some 1, none] = .error .physicalSqlite := rfl
  refine ⟨increment_literal true, increment_holds true, acceptable, failed, ?_⟩
  rintro ⟨accepted, -, -⟩
  obtain ⟨results, executed⟩ := accepted.mpr acceptable
  rw [failed] at executed
  cases executed

end MyLite.UpdateArithmetic
