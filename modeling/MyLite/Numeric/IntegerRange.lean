import Mathlib.Tactic.Common

/-! The values that a column of an integer type holds. -/

namespace MyLite

structure IntegerColumnRange where
  positiveMax : Nat
  negativeAbsMax : Nat
  deriving DecidableEq, Repr

/-- The ranges of `integer_range_for_logical_type`; `BIGINT UNSIGNED` ends at the largest
value of SQLite. -/
def integerLogicalTypeRanges : List (String × IntegerColumnRange) := [
  ("TINYINT", ⟨127, 128⟩),
  ("TINYINT(1)", ⟨127, 128⟩),
  ("TINYINT UNSIGNED", ⟨255, 0⟩),
  ("SMALLINT", ⟨32767, 32768⟩),
  ("SMALLINT UNSIGNED", ⟨65535, 0⟩),
  ("MEDIUMINT", ⟨8388607, 8388608⟩),
  ("MEDIUMINT UNSIGNED", ⟨16777215, 0⟩),
  ("INT", ⟨2147483647, 2147483648⟩),
  ("INT UNSIGNED", ⟨4294967295, 0⟩),
  ("BIGINT", ⟨9223372036854775807, 9223372036854775808⟩),
  ("BIGINT UNSIGNED", ⟨9223372036854775807, 0⟩)]

/-- `integer_range_for_logical_type`, and `integer_range_for_column` for the logical type of a
column. -/
def integerRangeForLogicalType (logicalType : String) : Option IntegerColumnRange :=
  integerLogicalTypeRanges.lookup logicalType

namespace IntegerColumnRange

/-- The bounds of the ranges that an integer column can have. -/
structure Bounded (range : IntegerColumnRange) : Prop where
  largest : 127 ≤ range.positiveMax
  positiveFits : range.positiveMax ≤ 9223372036854775807
  negativeFits : range.negativeAbsMax ≤ range.positiveMax + 1

/-- The value is one of the column. -/
def Holds (range : IntegerColumnRange) (value : Int) : Prop :=
  -(range.negativeAbsMax : Int) ≤ value ∧ value ≤ range.positiveMax

instance (range : IntegerColumnRange) (value : Int) : Decidable (range.Holds value) :=
  inferInstanceAs (Decidable (_ ∧ _))

end IntegerColumnRange

theorem integerRange_bounded {logicalType : String} {range : IntegerColumnRange}
    (found : integerRangeForLogicalType logicalType = some range) : range.Bounded := by
  have every : ∀ entry ∈ integerLogicalTypeRanges, 127 ≤ entry.2.positiveMax ∧
      entry.2.positiveMax ≤ 9223372036854775807 ∧
      entry.2.negativeAbsMax ≤ entry.2.positiveMax + 1 := by decide
  obtain ⟨before, after, table, -⟩ := List.lookup_eq_some_iff.mp found
  obtain ⟨largest, positiveFits, negativeFits⟩ := every (logicalType, range) (by
    rw [table]
    exact List.mem_append_right _ List.mem_cons_self)
  exact ⟨largest, positiveFits, negativeFits⟩

end MyLite
