import MyLite.Session.AutoIncrementMachine

/-! Every generated value is the least one that the settings of the session allow, and every
counter passes the value it is computed from. -/

namespace MyLite.AutoIncrement

open Alignment (Aligned firstFrom firstFrom_isLeast)
open Checked (accept ok_bind uint64_eq)
open InsertCounter (PlannedRow)
open Transactions (Session initialSession)

/-- A counter that may follow a value: it never goes back, and it is past the value where
the column has room for that. -/
structure NextCounter (range : IntegerColumnRange) (current value next : Int) : Prop where
  positive : 0 < next
  fits : next ≤ 9223372036854775807
  grows : current ≤ next
  passes : value < next ∨ value = range.positiveMax

section

variable {session : Session} {range : IntegerColumnRange} {current value : Int} {lower : Nat}

theorem afterGenerated_next (steps : Steps session) (bounded : range.Bounded)
    (positive : 0 < value) (within : value ≤ range.positiveMax) (above : current ≤ value) :
    ∃ next, NextCounter range current value next ∧
      nextAutoIncrementAfterGeneratedValue session range value = .ok next := by
  have largest := bounded.positiveFits
  have ordered := steps.ordered
  have positiveOffset := steps.positiveOffset
  rw [afterGenerated_eq_accept bounded positive (by omega),
    Transactions.nextAutoIncrementAfterGeneratedValue]
  split
  · rename_i refused
    rw [Bool.or_eq_true, decide_eq_true_eq, decide_eq_true_eq] at refused
    omega
  · split
    · exact ⟨value, ⟨positive, by omega, above, .inr (by omega)⟩, rfl⟩
    · split
      · rw [if_neg (Nat.not_lt.mpr largest)]
        exact ⟨range.positiveMax, ⟨by omega, by omega, by omega, .inl (by omega)⟩, rfl⟩
      · exact ⟨value + session.autoIncrementIncrement,
          ⟨by omega, by omega, by omega, .inl (by omega)⟩, rfl⟩

theorem afterExplicit_next (bounded : range.Bounded) (currentPositive : 0 < current)
    (currentFits : current ≤ 9223372036854775807) (positive : 0 < value)
    (fits : value ≤ 9223372036854775807) :
    (∃ next, NextCounter range current value next ∧
      nextAutoIncrementAfterExplicitInsertValue range current value = .ok next) ∨
    nextAutoIncrementAfterExplicitInsertValue range current value = .error .refused ∧
      current ≤ value ∧ range.positiveMax < value := by
  have largest := bounded.positiveFits
  rw [afterExplicit_eq_accept bounded fits, Transactions.nextAutoIncrementAfterExplicitInsertValue]
  split
  · rename_i refused
    rw [Bool.or_eq_true, decide_eq_true_eq, decide_eq_true_eq] at refused
    omega
  · split
    · exact .inl ⟨current, ⟨currentPositive, currentFits, Int.le_refl _, .inl ‹_›⟩, rfl⟩
    · split
      · exact .inr ⟨rfl, by omega, by omega⟩
      · split
        · exact .inl ⟨value, ⟨positive, fits, by omega, .inr (by omega)⟩, rfl⟩
        · exact .inl ⟨value + 1, ⟨by omega, by omega, by omega, .inl (by omega)⟩, rfl⟩

theorem afterUpdate_next (steps : Steps session) (bounded : range.Bounded)
    (currentPositive : 0 < current) (currentFits : current ≤ 9223372036854775807)
    (positive : 0 < lower) (fits : lower ≤ 9223372036854775807) :
    (∃ next, NextCounter range current lower next ∧
      nextAutoIncrementAfterUpdateValue session range current lower = .ok next) ∨
    nextAutoIncrementAfterUpdateValue session range current lower = .error .refused ∧
      current ≤ lower ∧ (range.positiveMax < lower ∨ 9223372036854775807 <
        firstFrom session.autoIncrementOffset session.autoIncrementIncrement (lower + 1)) := by
  have largest := bounded.positiveFits
  have ordered := steps.ordered
  have positiveOffset := steps.positiveOffset
  rw [afterUpdate_eq_accept steps bounded (by omega),
    Transactions.nextAutoIncrementAfterUpdateValue]
  split
  · rename_i refused
    rw [Bool.or_eq_true, decide_eq_true_eq, decide_eq_true_eq] at refused
    omega
  · split
    · exact .inl ⟨current, ⟨currentPositive, currentFits, Int.le_refl _, .inl ‹_›⟩, rfl⟩
    · split
      · exact .inr ⟨rfl, by omega, .inl (by omega)⟩
      · split
        · exact .inl ⟨lower, ⟨by omega, by omega, by omega, .inr (by omega)⟩, rfl⟩
        · -- the next value that can be generated, from one past the updated value
          obtain ⟨⟨aboveLower, -⟩, -⟩ := firstFrom_isLeast session.autoIncrementOffset
            (lower + 1) (Nat.lt_of_lt_of_le positiveOffset ordered)
          have following : (lower : Int) + 1 = (lower + 1 : Nat) := rfl
          rw [following, generated_eq_firstFrom steps (Nat.le_add_left 1 lower)]
          split
          · exact .inl ⟨_, ⟨by omega, by omega, by omega, .inl (by omega)⟩, rfl⟩
          · exact .inr ⟨rfl, by omega, .inr (by omega)⟩

theorem planGenerated_next (steps : Steps session) (bounded : range.Bounded)
    (positive : 1 ≤ lower) (fits : lower ≤ 9223372036854775807) {row : PlannedRow}
    (generated : row.generated = true) :
    firstFrom session.autoIncrementOffset session.autoIncrementIncrement lower ≤
        range.positiveMax ∧
      (∃ next, NextCounter range lower
          (firstFrom session.autoIncrementOffset session.autoIncrementIncrement lower) next ∧
        planInsertAutoIncrementRowValue session range lower row = .ok (next,
          ⟨.integer (firstFrom session.autoIncrementOffset session.autoIncrementIncrement lower),
            true⟩)) ∨
    range.positiveMax <
        firstFrom session.autoIncrementOffset session.autoIncrementIncrement lower ∧
      planInsertAutoIncrementRowValue session range lower row = .error .refused := by
  have largest := bounded.positiveFits
  have positiveIncrement := Nat.lt_of_lt_of_le steps.positiveOffset steps.ordered
  obtain ⟨⟨aboveLower, -⟩, -⟩ := firstFrom_isLeast session.autoIncrementOffset lower
    positiveIncrement
  rw [planInsertAutoIncrementRowValue, if_pos generated, generated_eq steps positive fits]
  generalize firstFrom session.autoIncrementOffset session.autoIncrementIncrement lower = least at *
  by_cases small : least ≤ 9223372036854775807
  · rw [if_pos small, ok_bind, if_neg (by omega), uint64_eq (by omega) (by omega), ok_bind]
    by_cases within : least ≤ range.positiveMax
    · have leastPositive : (0 : Int) < least := by omega
      obtain ⟨next, follows, advanced⟩ := afterGenerated_next steps bounded leastPositive
        (Int.ofNat_le.mpr within) (Int.ofNat_le.mpr aboveLower)
      rw [if_neg (by omega), advanced, ok_bind]
      exact .inl ⟨within, next, follows, rfl⟩
    · rw [if_pos (by omega)]
      exact .inr ⟨by omega, rfl⟩
  · rw [if_neg small]
    exact .inr ⟨by omega, rfl⟩

end

/-- For an integer column and settings that generate values: a generated value is the least
one of the series at or above the counter and is refused exactly where that one does not fit,
and no counter that follows a generated, explicit or updated value goes back or overflows. -/
theorem auto_increment_arithmetic {session : Session} (steps : Steps session)
    {logicalType : String} {range : IntegerColumnRange}
    (found : integerRangeForLogicalType logicalType = some range) {current : Nat}
    (positive : 1 ≤ current) (fits : current ≤ 9223372036854775807) :
    ∃ least, IsLeast (Aligned session.autoIncrementOffset session.autoIncrementIncrement current)
        least ∧
      (∀ row : PlannedRow, row.generated = true →
        (planInsertAutoIncrementRowValue session range current row = .error .refused ↔
          range.positiveMax < least ∨ 9223372036854775807 < least) ∧
        (least ≤ range.positiveMax → ∃ next, NextCounter range current least next ∧
          planInsertAutoIncrementRowValue session range current row =
            .ok (next, ⟨.integer least, true⟩))) ∧
      (∀ value : Nat, 1 ≤ value → value ≤ 9223372036854775807 →
        ((∃ next, NextCounter range current value next ∧
            nextAutoIncrementAfterExplicitInsertValue range current value = .ok next) ∨
          nextAutoIncrementAfterExplicitInsertValue range current value = .error .refused ∧
            current ≤ value ∧ range.positiveMax < value) ∧
        ((∃ next, NextCounter range current value next ∧
            nextAutoIncrementAfterUpdateValue session range current value = .ok next) ∨
          nextAutoIncrementAfterUpdateValue session range current value = .error .refused ∧
            current ≤ value ∧ (range.positiveMax < value ∨
              ∀ following ∈ Aligned session.autoIncrementOffset session.autoIncrementIncrement
                (value + 1), 9223372036854775807 < following))) := by
  have bounded := integerRange_bounded found
  have largest := bounded.positiveFits
  have positiveIncrement := Nat.lt_of_lt_of_le steps.positiveOffset steps.ordered
  refine ⟨_, firstFrom_isLeast _ _ positiveIncrement, ?_, ?_⟩
  · intro row generated
    rcases planGenerated_next steps bounded positive fits generated with
      ⟨within, next, follows, planned⟩ | ⟨outside, refused⟩
    · refine ⟨⟨fun impossible => ?_, fun outside => ?_⟩, fun _ => ⟨next, follows, planned⟩⟩
      · rw [planned] at impossible
        cases impossible
      · omega
    · exact ⟨⟨fun _ => .inl outside, fun _ => refused⟩, fun within => by omega⟩
  · intro value valuePositive valueFits
    have currentPositive : (0 : Int) < current := by omega
    have currentFits : (current : Int) ≤ 9223372036854775807 := by omega
    constructor
    · rcases afterExplicit_next bounded currentPositive currentFits
        (Int.ofNat_lt.mpr valuePositive) (Int.ofNat_le.mpr valueFits) with
        advanced | ⟨refused, above, large⟩
      · exact .inl advanced
      · exact .inr ⟨refused, by omega, by omega⟩
    · rcases afterUpdate_next steps bounded currentPositive currentFits valuePositive valueFits with
        advanced | ⟨refused, above, large | beyond⟩
      · exact .inl advanced
      · exact .inr ⟨refused, by omega, .inl (by omega)⟩
      · refine .inr ⟨refused, by omega, .inr fun following aligned => ?_⟩
        have least := (firstFrom_isLeast _ _ positiveIncrement).2 aligned
        omega

/-- Values 3, 8, 13 and so on. -/
def fifthsSession : Session :=
  { initialSession 1 with autoIncrementIncrement := 5, autoIncrementOffset := 3 }

/-- The counter 124 has no value of the series below 128. -/
theorem auto_increment_arithmetic_tinyint :
    Steps fifthsSession ∧ integerRangeForLogicalType "TINYINT" = some ⟨127, 128⟩ ∧
      (∃ least, IsLeast (Aligned 3 5 121) least ∧ least ≤ 123) ∧
      planInsertAutoIncrementRowValue fifthsSession ⟨127, 128⟩ 124 ⟨.null, true⟩ =
        .error .refused := by
  have steps : Steps fifthsSession := ⟨by decide, by decide, by decide⟩
  have found : integerRangeForLogicalType "TINYINT" = some ⟨127, 128⟩ := by decide
  obtain ⟨least, isLeast, -⟩ := auto_increment_arithmetic steps found
    (show 1 ≤ 121 by decide) (by decide)
  have aligned : 123 ∈ Aligned 3 5 121 := ⟨by decide, by decide, by decide⟩
  obtain ⟨beyond, isBeyond, planned, -⟩ := auto_increment_arithmetic steps found
    (show 1 ≤ 124 by decide) (by decide)
  have tooLarge : 127 < beyond := by
    obtain ⟨above, -, inSeries⟩ := isBeyond.1
    have residue : beyond % 5 = 3 := inSeries
    omega
  exact ⟨steps, found, ⟨least, isLeast, isLeast.2 aligned⟩,
    (planned ⟨.null, true⟩ rfl).1.mpr (.inl tooLarge)⟩

end MyLite.AutoIncrement
