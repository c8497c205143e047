import MyLite.Session.InsertCounter

/-! INSERT raises the counter over what it stores, as long as it starts from no less
than the stored counter. -/

namespace MyLite.InsertCounter

open Transactions (Session generatedAutoIncrementValueForLowerBound
  nextAutoIncrementAfterGeneratedValue nextAutoIncrementAfterExplicitInsertValue
  readCurrentAutoIncrementNextAfterWriteLock ensurePersistentAutoIncrementHighWaterSlot
  recordPersistentAutoIncrementHighWater setHighWater generated_ge afterExplicit_ge
  afterExplicit_mono afterGenerated_ge)

/-! One advance. -/

/-- The counter is above the value, or both are the maximum of the column. -/
def Covers (positiveMax : Nat) (next value : Int) : Prop :=
  0 < value → value < next ∨ value = positiveMax ∧ next = positiveMax

/-- A move of the counter that loses no cover. -/
structure Advances (positiveMax : Nat) (before after : Int) : Prop where
  grows : before ≤ after
  staysAtMax : before = positiveMax → after = positiveMax

theorem Advances.refl (positiveMax : Nat) (next : Int) : Advances positiveMax next next :=
  ⟨Int.le_refl _, id⟩

theorem Covers.advance {positiveMax : Nat} {before after value : Int}
    (covers : Covers positiveMax before value) (advances : Advances positiveMax before after) :
    Covers positiveMax after value := by
  intro positive
  rcases covers positive with below | ⟨isMax, atMax⟩
  · exact .inl (Int.lt_of_lt_of_le below advances.grows)
  · exact .inr ⟨isMax, advances.staysAtMax atMax⟩

section Advance

variable {session : Session} {positiveMax : Nat} {value next : Int}

theorem afterGenerated_covers (positiveIncrement : 0 < session.autoIncrementIncrement)
    (advanced : nextAutoIncrementAfterGeneratedValue session positiveMax value = some next) :
    next ≤ positiveMax ∧ Covers positiveMax next value := by
  unfold nextAutoIncrementAfterGeneratedValue at advanced
  split at advanced
  · cases advanced
  · rename_i accepted
    simp only [Bool.or_eq_true, decide_eq_true_eq, not_or] at accepted
    split at advanced
    · cases advanced
      exact ⟨by omega, fun _ => .inr (by omega)⟩
    · split at advanced
      · split at advanced
        · cases advanced
        · cases advanced
          exact ⟨Int.le_refl _, fun _ => .inl (by omega)⟩
      · cases advanced
        exact ⟨by omega, fun _ => .inl (by omega)⟩

theorem afterExplicit_advances {current : Int}
    (advanced : nextAutoIncrementAfterExplicitInsertValue positiveMax current value = some next) :
    Advances positiveMax current next ∧ Covers positiveMax next value := by
  have grows := afterExplicit_ge advanced
  unfold nextAutoIncrementAfterExplicitInsertValue at advanced
  split at advanced
  · cases advanced
  · rename_i accepted
    simp only [Bool.or_eq_true, decide_eq_true_eq, not_or] at accepted
    split at advanced
    · cases advanced
      exact ⟨.refl _ _, fun _ => .inl ‹_›⟩
    · split at advanced
      · cases advanced
      · split at advanced
        · cases advanced
          exact ⟨⟨grows, fun _ => by omega⟩, fun _ => .inr (by omega)⟩
        · cases advanced
          exact ⟨⟨grows, fun _ => by omega⟩, fun _ => .inl (by omega)⟩

end Advance

/-! One row. -/

section Rows

variable {session : Session} {positiveMax : Nat} {given : Int → Prop} {lower next : Int}

/-- The statement stored the value in the column. -/
def Counters.Stores (counters : Counters) (value : Int) : Prop :=
  value ∈ counters.inserted ∨ value ∈ counters.assigned

/-- The counters of a statement that started from `lower`, where the rows still to
come are planned from `next` and the explicit values are `given`. -/
structure Counting (positiveMax : Nat) (given : Int → Prop) (lower next : Int)
    (counters : Counters) : Prop where
  started : Advances positiveMax lower counters.afterRows
  ahead : counters.afterRows ≤ next
  covered : ∀ value, counters.Stores value → Covers positiveMax counters.afterRows value
  fresh : ∀ id ∈ counters.generated, lower ≤ id ∧ id ∈ counters.inserted ∧ 0 < id
  known : ∀ value, counters.Stores value → lower ≤ value ∨ given value

theorem Advances.trans {before middle after : Int}
    (first : Advances positiveMax before middle) (second : Advances positiveMax middle after) :
    Advances positiveMax before after :=
  ⟨Int.le_trans first.grows second.grows, fun atMax => second.staysAtMax (first.staysAtMax atMax)⟩

theorem Counting.move {counters : Counters} {after : Int}
    (counting : Counting positiveMax given lower next counters)
    (advances : Advances positiveMax counters.afterRows after) (ahead : after ≤ next) :
    Counting positiveMax given lower next { counters with afterRows := after } where
  started := counting.started.trans advances
  ahead := ahead
  covered := fun value stores => (counting.covered value stores).advance advances
  fresh := counting.fresh
  known := counting.known

theorem Counting.later {counters : Counters} {after : Int}
    (counting : Counting positiveMax given lower next counters) (grows : next ≤ after) :
    Counting positiveMax given lower after counters where
  started := counting.started
  ahead := Int.le_trans counting.ahead grows
  covered := counting.covered
  fresh := counting.fresh
  known := counting.known

/-- An inserted row stores values that the counter covers. -/
theorem Counting.store {counters : Counters}
    (counting : Counting positiveMax given lower next counters)
    {values : List Int} {generated : Bool}
    (covers : ∀ value ∈ values, Covers positiveMax counters.afterRows value)
    (fresh : generated = true → ∀ value ∈ values, lower ≤ value ∧ 0 < value)
    (known : generated = false → ∀ value ∈ values, given value) :
    Counting positiveMax given lower next { counters with
      inserted := counters.inserted ++ values
      generated := counters.generated ++ if generated then values else [] } where
  started := counting.started
  ahead := counting.ahead
  covered := by
    intro stored stores
    rcases stores with inserted | assigned
    · rcases List.mem_append.mp inserted with old | new
      · exact counting.covered stored (.inl old)
      · exact covers stored new
    · exact counting.covered stored (.inr assigned)
  fresh := by
    intro id member
    rcases List.mem_append.mp member with old | new
    · obtain ⟨bound, inside, positive⟩ := counting.fresh id old
      exact ⟨bound, List.mem_append_left _ inside, positive⟩
    · cases generated with
      | false => cases new
      | true =>
        obtain ⟨bound, positive⟩ := fresh rfl id new
        exact ⟨bound, List.mem_append_right _ new, positive⟩
  known := by
    intro stored stores
    rcases stores with inserted | assigned
    · rcases List.mem_append.mp inserted with old | new
      · exact counting.known stored (.inl old)
      · cases generated with
        | false => exact .inr (known rfl stored new)
        | true => exact .inl (fresh rfl stored new).1
    · exact counting.known stored (.inr assigned)

/-- An existing row takes values that the counter covers. -/
theorem Counting.assign {counters : Counters}
    (counting : Counting positiveMax given lower next counters) {values : List Int}
    (covers : ∀ value ∈ values, Covers positiveMax counters.afterRows value)
    (known : ∀ value ∈ values, lower ≤ value ∨ given value) :
    Counting positiveMax given lower next { counters with
      assigned := counters.assigned ++ values } where
  started := counting.started
  ahead := counting.ahead
  covered := by
    intro stored stores
    rcases stores with inserted | assigned
    · exact counting.covered stored (.inl inserted)
    · rcases List.mem_append.mp assigned with old | new
      · exact counting.covered stored (.inr old)
      · exact covers stored new
  fresh := counting.fresh
  known := by
    intro stored stores
    rcases stores with inserted | assigned
    · exact counting.known stored (.inl inserted)
    · rcases List.mem_append.mp assigned with old | new
      · exact counting.known stored (.inr old)
      · exact known stored new

/-- A planned row: what it stores, and how the plan goes on. -/
inductive Planned (session : Session) (positiveMax : Nat) (next : Int) : Int → PlannedRow → Prop
  | generated {value after : Int} (positive : 0 < value) (allocated : next ≤ value)
      (advanced : nextAutoIncrementAfterGeneratedValue session positiveMax value = some after) :
      Planned session positiveMax next after ⟨.integer value, true⟩
  | explicit {value after : Int} (positive : 0 < value)
      (advanced : nextAutoIncrementAfterExplicitInsertValue positiveMax next value = some after) :
      Planned session positiveMax next after ⟨.integer value, false⟩
  | silent {value : PlannedValue} (notPositive : ∀ stored ∈ value.stored, stored ≤ 0) :
      Planned session positiveMax next next ⟨value, false⟩

theorem planRow_planned (positiveIncrement : 0 < session.autoIncrementIncrement)
    {row assigned : PlannedRow} {after : Int}
    (planned : planInsertAutoIncrementRowValue session positiveMax next row =
      some (after, assigned)) : Planned session positiveMax next after assigned := by
  obtain ⟨value, flag⟩ := row
  unfold planInsertAutoIncrementRowValue at planned
  cases flag with
  | true =>
    simp only [if_true] at planned
    obtain ⟨value, allocated, planned⟩ := Option.bind_eq_some_iff.mp planned
    split at planned
    · cases planned
    · rename_i accepted
      simp only [Bool.or_eq_true, decide_eq_true_eq, not_or] at accepted
      obtain ⟨moved, advanced, result⟩ := Option.map_eq_some_iff.mp planned
      cases result
      exact .generated (by omega) (generated_ge positiveIncrement allocated) advanced
  | false =>
    simp only [Bool.false_eq_true, if_false] at planned
    cases value with
    | null =>
      cases planned
      exact .silent fun stored member => by cases member
    | text =>
      cases planned
      exact .silent fun stored member => by cases member
    | integer value =>
      dsimp only at planned
      split at planned
      · rename_i positive
        obtain ⟨moved, advanced, result⟩ := Option.map_eq_some_iff.mp planned
        cases result
        exact .explicit positive advanced
      · rename_i notPositive
        cases planned
        refine .silent ?_
        intro stored member
        rw [List.mem_singleton.mp member]
        omega

theorem Planned.grows {row : PlannedRow} {after : Int}
    (planned : Planned session positiveMax next after row) : next ≤ after := by
  cases planned with
  | generated _ allocated advanced =>
    exact Int.le_trans allocated (afterGenerated_ge advanced)
  | explicit _ advanced => exact afterExplicit_ge advanced
  | silent _ => exact Int.le_refl _

/-- What a row that counts does to the counter, against its plan. -/
theorem Planned.advance {row : PlannedRow} {after moved : Int} {counters : Counters}
    (planned : Planned session positiveMax next after row)
    (positiveIncrement : 0 < session.autoIncrementIncrement)
    (ahead : counters.afterRows ≤ next)
    (advanced : advanceAutoIncrementAfterInsertRow session positiveMax row counters.afterRows =
      some moved) :
    Advances positiveMax counters.afterRows moved ∧ moved ≤ after ∧
      ∀ value ∈ row.value.stored, Covers positiveMax moved value ∧
        (row.generated = true → next ≤ value ∧ 0 < value) := by
  unfold advanceAutoIncrementAfterInsertRow at advanced
  cases planned with
  | @generated value after positive allocated toAfter =>
    have notNegative : ¬ value ≤ 0 := by omega
    simp only [if_neg notNegative, if_true, toAfter, Option.some.injEq] at advanced
    subst advanced
    obtain ⟨within, covers⟩ := afterGenerated_covers positiveIncrement toAfter
    have grown := afterGenerated_ge toAfter
    refine ⟨⟨by omega, fun atMax => by omega⟩, Int.le_refl _, ?_⟩
    intro stored member
    rw [List.mem_singleton.mp member]
    exact ⟨covers, fun _ => ⟨allocated, positive⟩⟩
  | @explicit value after positive toAfter =>
    have notNegative : ¬ value ≤ 0 := by omega
    simp only [if_neg notNegative, Bool.false_eq_true, if_false] at advanced
    obtain ⟨advances, covers⟩ := afterExplicit_advances advanced
    refine ⟨advances, afterExplicit_mono ahead advanced toAfter, ?_⟩
    intro stored member
    rw [List.mem_singleton.mp member]
    exact ⟨covers, fun generated => by cases generated⟩
  | @silent value notPositive =>
    have unmoved : moved = counters.afterRows := by
      cases value with
      | null => exact (Option.some.inj advanced).symm
      | text => exact (Option.some.inj advanced).symm
      | integer value =>
        have notAbove : value ≤ 0 := notPositive value (List.mem_singleton_self _)
        simp only [if_pos notAbove, Option.some.injEq] at advanced
        exact advanced.symm
    subst unmoved
    refine ⟨.refl _ _, ahead, ?_⟩
    intro stored member
    refine ⟨?_, fun generated => by cases generated⟩
    intro positive
    have := notPositive stored member
    omega

theorem Counting.row {row : PlannedRow} {outcome : RowOutcome} {after : Int}
    {counters done : Counters} (counting : Counting positiveMax given lower next counters)
    (positiveIncrement : 0 < session.autoIncrementIncrement)
    (planned : Planned session positiveMax next after row)
    (known : row.generated = false → outcome = .inserted → ∀ value ∈ row.value.stored, given value)
    (below : row.generated = false → outcome = .duplicateUpdated true →
      ∀ value ∈ row.value.stored, value < lower ∧ given value)
    (executed : executeInsertPlanRow session positiveMax counters row outcome = some done) :
    Counting positiveMax given lower after done := by
  have later := counting.later planned.grows
  have reaches : lower ≤ next := Int.le_trans counting.started.grows counting.ahead
  unfold executeInsertPlanRow at executed
  cases outcome with
  | inserted =>
    obtain ⟨moved, advanced, rfl⟩ := Option.map_eq_some_iff.mp executed
    obtain ⟨advances, ahead, stored⟩ := planned.advance positiveIncrement counting.ahead advanced
    have moves := later.move advances ahead
    refine moves.store (fun value member => (stored value member).1) ?_ fun explicit =>
      known explicit rfl
    intro generated value member
    obtain ⟨bound, positive⟩ := (stored value member).2 generated
    exact ⟨Int.le_trans reaches bound, positive⟩
  | duplicateUpdated assigned =>
    obtain ⟨moved, advanced, rfl⟩ := Option.map_eq_some_iff.mp executed
    unfold advanceAutoIncrementAfterDuplicateAttempt at advanced
    split at advanced
    · rename_i explicit
      cases advanced
      cases assigned with
      | false =>
        simp only [Bool.false_eq_true, if_false, List.append_nil]
        exact later
      | true =>
        have under := below (by simpa using explicit) rfl
        refine later.assign (fun value member _ => .inl ?_) fun value member =>
          .inr (under value member).2
        exact Int.lt_of_lt_of_le (under value member).1 counting.started.grows
    · rename_i generated
      obtain ⟨advances, ahead, stored⟩ := planned.advance positiveIncrement counting.ahead advanced
      have moves := later.move advances ahead
      cases assigned with
      | false =>
        simp only [Bool.false_eq_true, if_false, List.append_nil]
        exact moves
      | true =>
        refine moves.assign (fun value member => (stored value member).1) fun value member => ?_
        exact .inl (Int.le_trans reaches ((stored value member).2 (by simpa using generated)).1)
  | ignoredDuplicate =>
    obtain ⟨moved, advanced, rfl⟩ := Option.map_eq_some_iff.mp executed
    unfold advanceAutoIncrementAfterIgnoredDuplicate at advanced
    split at advanced
    · cases advanced
      exact later
    · obtain ⟨advances, ahead, _⟩ := planned.advance positiveIncrement counting.ahead advanced
      exact later.move advances ahead
  | skipped =>
    cases executed
    exact later
  | failed => cases executed

/-! All rows of a statement. -/

theorem Counting.rows (positiveIncrement : 0 < session.autoIncrementIncrement)
    {rows assigned : List PlannedRow} {outcomes : List RowOutcome} {last : Int}
    {counters done : Counters} (counting : Counting positiveMax given lower next counters)
    (planned : planRows session positiveMax next rows = some (last, assigned))
    (known : ∀ row ∈ assigned.zip outcomes, row.1.generated = false → row.2 = .inserted →
      ∀ value ∈ row.1.value.stored, given value)
    (below : ∀ row ∈ assigned.zip outcomes, row.1.generated = false →
      row.2 = .duplicateUpdated true → ∀ value ∈ row.1.value.stored, value < lower ∧ given value)
    (executed : executeInsertPlanRows session positiveMax counters (assigned.zip outcomes) =
      some done) : ∃ reached, Counting positiveMax given lower reached done := by
  induction rows generalizing next assigned outcomes counters with
  | nil =>
    cases planned
    cases executed
    exact ⟨_, counting⟩
  | cons row rest ih =>
    obtain ⟨first, toFirst, planned⟩ := Option.bind_eq_some_iff.mp planned
    obtain ⟨others, toOthers, result⟩ := Option.map_eq_some_iff.mp planned
    cases result
    cases outcomes with
    | nil =>
      cases executed
      exact ⟨_, counting⟩
    | cons outcome outcomes =>
      obtain ⟨middle, here, executed⟩ := Option.bind_eq_some_iff.mp executed
      have rowPlanned := planRow_planned positiveIncrement toFirst
      have reached := counting.row positiveIncrement rowPlanned
        (known (first.2, outcome) List.mem_cons_self)
        (below (first.2, outcome) List.mem_cons_self) here
      exact ih reached toOthers (fun row member => known row (List.mem_cons_of_mem _ member))
        (fun row member => below row (List.mem_cons_of_mem _ member)) executed

theorem planRow_explicit {row assigned : PlannedRow} {after : Int}
    (planned : planInsertAutoIncrementRowValue session positiveMax next row =
      some (after, assigned)) (explicit : assigned.generated = false) : assigned = row := by
  unfold planInsertAutoIncrementRowValue at planned
  split at planned
  · obtain ⟨value, _, planned⟩ := Option.bind_eq_some_iff.mp planned
    split at planned
    · cases planned
    · obtain ⟨moved, _, result⟩ := Option.map_eq_some_iff.mp planned
      cases result
      cases explicit
  · split at planned
    · split at planned
      · obtain ⟨moved, _, result⟩ := Option.map_eq_some_iff.mp planned
        cases result
        rfl
      · cases planned
        rfl
    · cases planned
      rfl

/-- Planning leaves the explicit rows as they are. -/
theorem planRows_explicit {rows assigned : List PlannedRow} {outcomes : List RowOutcome}
    {last : Int} (planned : planRows session positiveMax next rows = some (last, assigned))
    {row : PlannedRow × RowOutcome} (member : row ∈ assigned.zip outcomes)
    (explicit : row.1.generated = false) : row ∈ rows.zip outcomes := by
  induction rows generalizing next assigned outcomes with
  | nil =>
    cases planned
    exact member
  | cons head rest ih =>
    obtain ⟨first, toFirst, planned⟩ := Option.bind_eq_some_iff.mp planned
    obtain ⟨others, toOthers, result⟩ := Option.map_eq_some_iff.mp planned
    cases result
    cases outcomes with
    | nil => cases member
    | cons outcome outcomes =>
      rcases List.mem_cons.mp member with rfl | later
      · have same := planRow_explicit toFirst explicit
        rw [List.zip_cons_cons, ← same]
        exact List.mem_cons_self
      · exact List.mem_cons_of_mem _ (ih toOthers later)

theorem Counting.selectRows (positiveIncrement : 0 < session.autoIncrementIncrement)
    {noAutoValueOnZero : Bool} {rows : List (PlannedValue × RowOutcome)}
    {counters done : Counters}
    (counting : Counting positiveMax given lower counters.afterRows counters)
    (known : ∀ row ∈ rows, row.2 = .inserted → ∀ value ∈ row.1.stored, given value)
    (below : ∀ row ∈ rows, row.2 = .duplicateUpdated true →
      ∀ value ∈ row.1.stored, value < lower ∧ given value)
    (executed : executeInsertSelectRows session positiveMax noAutoValueOnZero counters rows =
      some done) : Counting positiveMax given lower done.afterRows done := by
  induction rows generalizing counters with
  | nil =>
    cases executed
    exact counting
  | cons row rest ih =>
    obtain ⟨planned, toPlanned, executed⟩ := Option.bind_eq_some_iff.mp executed
    obtain ⟨middle, here, executed⟩ := Option.bind_eq_some_iff.mp executed
    have rowPlanned := planRow_planned positiveIncrement toPlanned
    have rowKnown : planned.2.generated = false → row.2 = .inserted →
        ∀ value ∈ planned.2.value.stored, given value := by
      intro explicit inserted
      rw [planRow_explicit toPlanned explicit]
      exact known row List.mem_cons_self inserted
    have rowBelow : planned.2.generated = false → row.2 = .duplicateUpdated true →
        ∀ value ∈ planned.2.value.stored, value < lower ∧ given value := by
      intro explicit updated
      rw [planRow_explicit toPlanned explicit]
      exact below row List.mem_cons_self updated
    have reached := counting.row positiveIncrement rowPlanned rowKnown rowBelow here
    exact ih { reached with ahead := Int.le_refl _ }
      (fun other member => known other (List.mem_cons_of_mem _ member))
      (fun other member => below other (List.mem_cons_of_mem _ member)) executed

theorem Counting.start (positiveMax : Nat) (given : Int → Prop) (next : Int) :
    Counting positiveMax given next next ⟨next, [], [], []⟩ where
  started := .refl _ _
  ahead := Int.le_refl _
  covered := fun value stores => by rcases stores with member | member <;> cases member
  fresh := fun id member => by cases member
  known := fun value stores => by rcases stores with member | member <;> cases member

end Rows

/-! What the sessions remember of the counter. -/

/-- The high waters of a session are no higher than the stored counter. -/
structure Behind (table : AutoIncrementTable) (stored : Int) (session : Session) : Prop where
  positiveIncrement : 0 < session.autoIncrementIncrement
  highWaters : ∀ highWater ∈ session.autoIncrementHighWaters,
    highWater.tableId = table.tableId → highWater.nextValue ≤ stored

structure Consistent (table : AutoIncrementTable) (state : State) : Prop where
  positive : 0 < state.stored
  behind : ∀ connection, Behind table state.stored (state.sessions connection)

section Sessions

variable {table : AutoIncrementTable} {state : State} {session : Session} {stored after : Int}

theorem Behind.later (behind : Behind table stored session) (grows : stored ≤ after) :
    Behind table after session where
  positiveIncrement := behind.positiveIncrement
  highWaters := fun highWater member same =>
    Int.le_trans (behind.highWaters highWater member same) grows

theorem Behind.ensure (behind : Behind table stored session) (positive : 0 < stored) :
    Behind table stored (ensurePersistentAutoIncrementHighWaterSlot table.tableId session) := by
  unfold ensurePersistentAutoIncrementHighWaterSlot
  split
  · exact behind
  · split
    · exact behind
    · refine ⟨behind.positiveIncrement, ?_⟩
      intro highWater member same
      rcases List.mem_append.mp member with old | new
      · exact behind.highWaters highWater old same
      · rw [List.mem_singleton.mp new]
        exact Int.le_of_lt positive

theorem ensure_insertId (tableId : Int) (session : Session) :
    (ensurePersistentAutoIncrementHighWaterSlot tableId session).insertId = session.insertId := by
  unfold ensurePersistentAutoIncrementHighWaterSlot
  split
  · rfl
  · split <;> rfl

theorem setHighWater_mem {tableId next : Int} {replace : Int → Bool}
    {highWaters : List Transactions.HighWater} {highWater : Transactions.HighWater}
    (member : highWater ∈ setHighWater tableId next replace highWaters) :
    highWater = ⟨tableId, next⟩ ∨ highWater ∈ highWaters := by
  induction highWaters with
  | nil => cases member
  | cons first rest ih =>
    unfold setHighWater at member
    split at member
    · rcases List.mem_cons.mp member with here | later
      · split at here
        · exact .inl here
        · exact .inr (here ▸ List.mem_cons_self)
      · exact .inr (List.mem_cons_of_mem _ later)
    · rcases List.mem_cons.mp member with here | later
      · exact .inr (here ▸ List.mem_cons_self)
      · exact (ih later).imp id (List.mem_cons_of_mem _)

theorem Behind.set (behind : Behind table stored session) (replace : Int → Bool) :
    Behind table stored { session with
      autoIncrementHighWaters :=
        setHighWater table.tableId stored replace session.autoIncrementHighWaters } := by
  refine ⟨behind.positiveIncrement, ?_⟩
  intro highWater member same
  rcases setHighWater_mem member with rfl | old
  · exact Int.le_refl _
  · exact behind.highWaters highWater old same

theorem Behind.record (behind : Behind table stored session) (positive : 0 < stored) :
    Behind table stored (recordPersistentAutoIncrementHighWater table.tableId stored session) := by
  unfold recordPersistentAutoIncrementHighWater
  split
  · exact behind
  · split
    · exact behind.set _
    · exact (behind.ensure positive).set _

theorem Consistent.withSession {connection : Nat} (consistent : Consistent table state)
    (behind : Behind table state.stored session) :
    Consistent table (state.withSession connection session) where
  positive := consistent.positive
  behind := by
    intro other
    by_cases same : other = connection
    · subst same
      simp only [State.withSession, Function.update_self]
      exact behind
    · simp only [State.withSession, Function.update_of_ne same]
      exact consistent.behind other

/-! What a statement starts from. -/

theorem raisedNext_eq {tableId next : Int} {highWaters : List Transactions.HighWater}
    (below : ∀ highWater ∈ highWaters, highWater.tableId = tableId → highWater.nextValue ≤ next) :
    Transactions.raisedNext tableId highWaters next = next := by
  unfold Transactions.raisedNext
  induction highWaters with
  | nil => rfl
  | cons highWater rest ih =>
    have unmoved : ¬ (highWater.tableId = tableId && next < highWater.nextValue) = true := by
      simp only [Bool.and_eq_true, decide_eq_true_eq, not_and, Int.not_lt]
      exact below highWater List.mem_cons_self
    rw [List.foldl_cons, if_neg unmoved]
    exact ih fun other member => below other (List.mem_cons_of_mem _ member)

theorem read_start (positive : 0 < state.stored) (behind : Behind table state.stored session)
    {descriptorNext plannedNext next : Int}
    (fresh : session.insertId = 0 → 0 ≤ table.tableId ∨ descriptorNext = state.stored)
    (planned : initializeInsertAutoIncrementPlan session descriptorNext = some plannedNext)
    (read : readCurrentAutoIncrementNextAfterWriteLock (state.locked table session) table.tableId
      plannedNext true = some next) :
    if session.insertId = 0 then next = state.stored else next = session.insertId := by
  unfold initializeInsertAutoIncrementPlan at planned
  split
  · rename_i noInsertId
    rw [if_neg (by simp [noInsertId])] at planned
    by_cases temporary : table.tableId < 0
    · rcases fresh noInsertId with base | same
      · omega
      rw [same, if_pos positive, Option.some.injEq] at planned
      unfold readCurrentAutoIncrementNextAfterWriteLock at read
      have notNegative : ¬ plannedNext ≤ 0 := by omega
      rw [if_neg notNegative, if_neg (by simp [State.locked, noInsertId]), if_pos temporary,
        Option.some.injEq] at read
      omega
    · obtain ⟨_, current, found, raised⟩ :=
        Transactions.read_some (fun _ => noInsertId) (Int.not_lt.mp temporary) read
      have stored : current = state.stored := by
        simp only [State.locked, if_true, Option.some.injEq] at found
        exact found.symm
      rw [raised, stored]
      exact raisedNext_eq behind.highWaters
  · rename_i asked
    rw [if_pos asked] at planned
    split at planned
    · cases planned
    · cases planned
      unfold readCurrentAutoIncrementNextAfterWriteLock at read
      split at read
      · cases read
      · rw [if_pos (by simp [State.locked, asked]), Option.some.injEq] at read
        exact read.symm

/-- A value the statement gives that a row of the outcome stores. -/
def Gives (outcome : RowOutcome) (statement : InsertStatement) (value : Int) : Prop :=
  ∃ row ∈ statement.rows, row.1 = .integer value ∧ row.2 = outcome

/-- An explicit value that an inserted row stores. -/
def Given (statement : InsertStatement) (value : Int) : Prop :=
  Gives .inserted statement value

/-- An explicit value that ON DUPLICATE KEY UPDATE stores in an existing row. -/
def Assigned (statement : InsertStatement) (value : Int) : Prop :=
  Gives (.duplicateUpdated true) statement value

theorem mem_stored {planned : PlannedValue} {value : Int} (member : value ∈ planned.stored) :
    planned = .integer value := by
  cases planned with
  | null => cases member
  | text => cases member
  | integer given => rw [List.mem_singleton.mp member]

theorem gives_of_zip {noAutoValueOnZero : Bool} {statement : InsertStatement}
    {row : PlannedRow × RowOutcome}
    (member : row ∈ ((statement.rows.map Prod.fst).map (markRow noAutoValueOnZero)).zip
      (statement.rows.map Prod.snd)) :
    ∀ value ∈ row.1.value.stored, Gives row.2 statement value := by
  rw [List.map_map, List.zip_map', List.mem_map] at member
  obtain ⟨source, inside, rfl⟩ := member
  intro value stored
  exact ⟨source, inside, mem_stored stored, rfl⟩

/-- The rows of a statement, from the value they start from on. -/
theorem executeRows_counting {statement : InsertStatement} {next : Int} {counters : Counters}
    (positiveIncrement : 0 < session.autoIncrementIncrement)
    (below : ∀ value, Assigned statement value → value < next)
    (executed : executeRows table state session statement = some (next, counters)) :
    ∃ reached, Counting table.positiveMax
      (fun value => Given statement value ∨ Assigned statement value) next reached counters := by
  unfold executeRows at executed
  dsimp only at executed
  obtain ⟨plannedNext, _, executed⟩ := Option.bind_eq_some_iff.mp executed
  have start := Counting.start table.positiveMax
    (fun value => Given statement value ∨ Assigned statement value) next
  split at executed
  · obtain ⟨planned, toPlanned, executed⟩ := Option.bind_eq_some_iff.mp executed
    obtain ⟨current, _, executed⟩ := Option.bind_eq_some_iff.mp executed
    obtain ⟨⟨last, rebased⟩, toRebased, executed⟩ := Option.bind_eq_some_iff.mp executed
    obtain ⟨done, rows, result⟩ := Option.map_eq_some_iff.mp executed
    cases result
    unfold planInsertAutoIncrementValues at toPlanned
    dsimp only at toPlanned
    split at toPlanned
    · cases toPlanned
    · obtain ⟨⟨plannedLast, _⟩, toMarked, rfl⟩ := Option.map_eq_some_iff.mp toPlanned
      have source : ∀ row ∈ rebased.zip (statement.rows.map Prod.snd), row.1.generated = false →
          ∀ value ∈ row.1.value.stored, Gives row.2 statement value := by
        intro row member explicit
        have planned := planRows_explicit toRebased member explicit
        exact gives_of_zip (planRows_explicit toMarked planned explicit)
      refine start.rows positiveIncrement toRebased ?_ ?_ rows
      · intro row member explicit inserted value stored
        have gives := source row member explicit value stored
        rw [inserted] at gives
        exact .inl gives
      · intro row member explicit updated value stored
        have gives := source row member explicit value stored
        rw [updated] at gives
        exact ⟨below value gives, .inr gives⟩
  · obtain ⟨current, _, executed⟩ := Option.bind_eq_some_iff.mp executed
    obtain ⟨done, rows, result⟩ := Option.map_eq_some_iff.mp executed
    cases result
    refine ⟨_, start.selectRows positiveIncrement ?_ ?_ rows⟩
    · intro row member inserted value stored
      exact .inl ⟨row, member, mem_stored stored, inserted⟩
    · intro row member updated value stored
      have assigned : Assigned statement value := ⟨row, member, mem_stored stored, updated⟩
      exact ⟨below value assigned, .inr assigned⟩

theorem executeRows_start (positive : 0 < state.stored)
    (behind : Behind table state.stored session) {statement : InsertStatement} {next : Int}
    {counters : Counters}
    (fresh : session.insertId = 0 → 0 ≤ table.tableId ∨ statement.descriptorNext = state.stored)
    (executed : executeRows table state session statement = some (next, counters)) :
    if session.insertId = 0 then next = state.stored else next = session.insertId := by
  unfold executeRows at executed
  dsimp only at executed
  obtain ⟨plannedNext, initialized, executed⟩ := Option.bind_eq_some_iff.mp executed
  split at executed
  · obtain ⟨planned, _, executed⟩ := Option.bind_eq_some_iff.mp executed
    obtain ⟨current, read, executed⟩ := Option.bind_eq_some_iff.mp executed
    obtain ⟨rebased, _, executed⟩ := Option.bind_eq_some_iff.mp executed
    obtain ⟨done, _, result⟩ := Option.map_eq_some_iff.mp executed
    cases result
    exact read_start positive behind fresh initialized read
  · obtain ⟨current, read, executed⟩ := Option.bind_eq_some_iff.mp executed
    obtain ⟨done, _, result⟩ := Option.map_eq_some_iff.mp executed
    cases result
    exact read_start positive behind fresh initialized read

end Sessions

/-! Statements and runs. -/

/-- Without an INSERT_ID, the plan of a temporary table starts from the stored counter.
ON DUPLICATE KEY UPDATE stores explicit values below the counter only. And INSERT_ID
is zero or the stored counter; or it is above the counter and below the maximum of the
column, with no explicit value to store from the counter up to it. -/
def KeepsCounter (table : AutoIncrementTable) (state : State) (event : Event) : Prop :=
  match event.command with
  | .insert statement =>
    let insertId : Int := (state.sessions event.connection).insertId
    (insertId = 0 → 0 ≤ table.tableId ∨ statement.descriptorNext = state.stored) ∧
    (∀ value, Assigned statement value → value < state.stored) ∧
      (insertId = 0 ∨ insertId = state.stored ∨
        state.stored < insertId ∧ insertId < table.positiveMax ∧
          ∀ value, Given statement value → value < state.stored ∨ insertId ≤ value)
  | _ => True

/-- The counter a statement writes back. -/
theorem written_counter {positiveMax : Nat} {given : Int → Prop} {stored next : Int}
    {reached : Int} {counters : Counters}
    (counting : Counting positiveMax given next reached counters)
    (keeps : next = stored ∨ stored < next ∧ next < positiveMax ∧
      ∀ value, given value → value < stored ∨ next ≤ value) :
    let after := if counters.afterRows ≠ next then counters.afterRows else stored
    Advances positiveMax stored after ∧
      ∀ value, counters.Stores value → Covers positiveMax after value := by
  have reach : Advances positiveMax stored next := by
    rcases keeps with start | ⟨above, below, _⟩
    · rw [start]
      exact .refl _ _
    · exact ⟨Int.le_of_lt above, fun atMax => by omega⟩
  dsimp only
  split
  · exact ⟨reach.trans counting.started, counting.covered⟩
  · rename_i unmoved
    have same : counters.afterRows = next := by omega
    refine ⟨.refl _ _, ?_⟩
    intro value stores
    have covers := counting.covered value stores
    rcases keeps with start | ⟨above, below, apart⟩
    · rw [← start, ← same]
      exact covers
    · intro positive
      have under : value < next := by
        rcases covers positive with under | ⟨_, atMax⟩ <;> omega
      have low : value < stored := by
        rcases counting.known value stores with allocated | given
        · omega
        · rcases apart value given with low | high <;> omega
      exact .inl low

/-- What a statement leaves, and what it reports of it. -/
structure Kept (table : AutoIncrementTable) (state : State) (result : State × Option Report) :
    Prop where
  consistent : Consistent table result.1
  advances : Advances table.positiveMax state.stored result.1.stored
  reported : ∀ report, result.2 = some report →
    report.before = state.stored ∧ report.after = result.1.stored ∧
    (∀ value, value ∈ report.inserted ∨ value ∈ report.assigned →
      Covers table.positiveMax report.after value) ∧
    ∀ id ∈ report.generated, state.stored ≤ id ∧ id ∈ report.inserted ∧ 0 < id

section Runs

variable {table : AutoIncrementTable} {state : State}

theorem Kept.silent {connection : Nat} {session : Session} (consistent : Consistent table state)
    (behind : Behind table state.stored session) :
    Kept table state (state.withSession connection session, none) where
  consistent := consistent.withSession behind
  advances := .refl _ _
  reported := fun report reported => by cases reported

theorem executeInsert_kept {connection : Nat} {statement : InsertStatement}
    (consistent : Consistent table state)
    (keeps : KeepsCounter table state ⟨connection, .insert statement⟩) :
    Kept table state (executeInsert table state connection statement) := by
  have positive := consistent.positive
  have behind := (consistent.behind connection).ensure positive
  have sameId := ensure_insertId table.tableId (state.sessions connection)
  unfold executeInsert
  dsimp only
  generalize ensurePersistentAutoIncrementHighWaterSlot table.tableId
    (state.sessions connection) = session at *
  split
  · exact .silent consistent behind
  · rename_i next counters executed
    split
    · exact .silent consistent behind
    · dsimp only [KeepsCounter] at keeps
      rw [← sameId] at keeps
      obtain ⟨fresh, assigned, keeps⟩ := keeps
      have start := executeRows_start positive behind
        (fun noInsertId => fresh (by rw [noInsertId]; rfl)) executed
      have starts : next = state.stored ∨ state.stored < next ∧ next < table.positiveMax ∧
          ∀ value, Given statement value ∨ Assigned statement value →
            value < state.stored ∨ next ≤ value := by
        split at start
        · exact .inl start
        · rw [start]
          rcases keeps with zero | same | ⟨above, inside, apart⟩
          · omega
          · exact .inl same
          · refine .inr ⟨above, inside, fun value stores => ?_⟩
            rcases stores with given | updated
            · exact apart value given
            · exact .inl (assigned value updated)
      have below : ∀ value, Assigned statement value → value < next := by
        intro value updated
        have under := assigned value updated
        rcases starts with same | ⟨above, _⟩ <;> omega
      obtain ⟨reached, counting⟩ := executeRows_counting behind.positiveIncrement below executed
      obtain ⟨advances, covered⟩ := written_counter counting starts
      have grows := advances.grows
      have least : state.stored ≤ next := by
        rcases starts with same | above <;> omega
      generalize stored : (if counters.afterRows ≠ next then counters.afterRows
        else state.stored) = after at *
      have recordedBehind : Behind table after (if counters.afterRows ≠ next then
          recordPersistentAutoIncrementHighWater table.tableId counters.afterRows session
          else session) := by
        split
        · rename_i moved
          rw [if_pos moved] at stored
          rw [stored]
          exact (behind.later grows).record (by omega)
        · exact behind.later grows
      have later : Consistent table { state with stored := after } :=
        ⟨Int.lt_of_lt_of_le positive grows, fun other => (consistent.behind other).later grows⟩
      refine ⟨later.withSession ?_, advances, ?_⟩
      · split
        · exact ⟨recordedBehind.positiveIncrement, recordedBehind.highWaters⟩
        · exact recordedBehind
      · intro report reported
        cases reported
        refine ⟨rfl, rfl, covered, ?_⟩
        intro id member
        obtain ⟨bound, inside, above⟩ := counting.fresh id member
        exact ⟨Int.le_trans least bound, inside, above⟩

theorem step_kept {event : Event} (consistent : Consistent table state)
    (keeps : KeepsCounter table state event) : Kept table state (step table state event) := by
  obtain ⟨connection, command⟩ := event
  have behind := consistent.behind connection
  cases command with
  | setInsertId value =>
    exact .silent consistent ⟨behind.positiveIncrement, behind.highWaters⟩
  | setAutoIncrementIncrement value =>
    exact .silent consistent ⟨Transactions.autoIncrementStepValue_pos value, behind.highWaters⟩
  | setAutoIncrementOffset value =>
    exact .silent consistent ⟨behind.positiveIncrement, behind.highWaters⟩
  | insert statement => exact executeInsert_kept consistent keeps

theorem reports_cons (event : Event) (rest : List Event) :
    reports table state (event :: rest) = (step table state event).2.toList ++
      reports table (step table state event).1 rest := by
  unfold reports
  rw [Machine.run]
  cases (step table state event).2 with
  | none => rfl
  | some report => rfl

/-- What a run generates is not below the counter it started from. -/
theorem reports_fresh {events : List Event} (consistent : Consistent table state)
    (along : Machine.Along (step table) (KeepsCounter table) state events) {report : Report}
    (member : report ∈ reports table state events) :
    ∀ id ∈ report.generated, state.stored ≤ id := by
  induction events generalizing state with
  | nil => cases member
  | cons event rest ih =>
    have kept := step_kept consistent along.1
    rw [reports_cons] at member
    intro id generated
    rcases List.mem_append.mp member with here | later
    · obtain ⟨_, _, _, fresh⟩ := kept.reported report (Option.mem_toList.mp here)
      exact (fresh id generated).1
    · exact Int.le_trans kept.advances.grows (ih kept.consistent along.2 later id generated)

/-- Every INSERT leaves the counter no lower and, up to the maximum of the column, above
what it stored; two of them generate the same id only at that maximum. -/
theorem insert_never_lowers_counter {events : List Event} (consistent : Consistent table state)
    (along : Machine.Along (step table) (KeepsCounter table) state events) :
    (∀ report ∈ reports table state events, report.before ≤ report.after ∧
      ∀ value, value ∈ report.inserted ∨ value ∈ report.assigned → 0 < value →
        value < report.after ∨ report.after = table.positiveMax) ∧
    (reports table state events).Pairwise fun first second =>
      ∀ id : Int, id ∈ first.generated → id ∈ second.generated → id = table.positiveMax := by
  induction events generalizing state with
  | nil =>
    refine ⟨?_, List.Pairwise.nil⟩
    intro report member
    cases member
  | cons event rest ih =>
    have kept := step_kept consistent along.1
    obtain ⟨advance, apart⟩ := ih kept.consistent along.2
    rw [reports_cons]
    constructor
    · intro report member
      rcases List.mem_append.mp member with here | later
      · obtain ⟨before, after, covered, _⟩ := kept.reported report (Option.mem_toList.mp here)
        refine ⟨by rw [before, after]; exact kept.advances.grows, ?_⟩
        intro value stores positive
        exact (covered value stores positive).imp id fun atMax => atMax.2
      · exact advance report later
    · rw [List.pairwise_append]
      refine ⟨?_, apart, ?_⟩
      · cases (step table state event).2 with
        | none => exact List.Pairwise.nil
        | some report => exact List.pairwise_singleton _ _
      · intro first here second later id firstGenerated secondGenerated
        obtain ⟨_, after, covered, fresh⟩ := kept.reported first (Option.mem_toList.mp here)
        obtain ⟨_, inserted, positive⟩ := fresh id firstGenerated
        have next := reports_fresh kept.consistent along.2 later id secondGenerated
        rcases covered id (.inl inserted) positive with below | ⟨atMax, _⟩
        · omega
        · exact atMax

end Runs

/-- A TINYINT column. -/
def tinyTable : AutoIncrementTable where
  tableId := 1
  positiveMax := 127
  bounded := by decide

def counterAt (stored : Int) : State where
  stored := stored
  sessions := Transactions.initialSession

theorem counterAt_consistent {stored : Int} (positive : 0 < stored) :
    Consistent tinyTable (counterAt stored) where
  positive := positive
  behind := fun _ => ⟨Nat.one_pos, fun highWater member => by cases member⟩

/-- INSERT of one row. -/
def insertRow (value : PlannedValue) (outcome : RowOutcome) : Event where
  connection := 1
  command := .insert {
    form := .values
    descriptorNext := 1
    noAutoValueOnZero := false
    rows := [(value, outcome)]
    commits := true }

def insertOne (value : PlannedValue) : Event := insertRow value .inserted

def setInsertId (value : Nat) : Event := { connection := 1, command := .setInsertId value }

/-- A generated id, an INSERT_ID above the counter, and a value below it. -/
theorem insert_never_lowers_counter_run :
    let events := [insertOne .null, setInsertId 20, insertOne .null, insertOne (.integer 5)]
    (∀ report ∈ reports tinyTable (counterAt 1) events, report.before ≤ report.after ∧
      ∀ value, value ∈ report.inserted ∨ value ∈ report.assigned → 0 < value →
        value < report.after ∨ report.after = tinyTable.positiveMax) ∧
    (reports tinyTable (counterAt 1) events).Pairwise fun first second =>
      ∀ id : Int, id ∈ first.generated → id ∈ second.generated → id = tinyTable.positiveMax := by
  apply insert_never_lowers_counter (counterAt_consistent (by decide))
  have noneAssigned : ∀ (given : PlannedValue) (statement : InsertStatement) (value stored : Int),
      statement.rows = [(given, .inserted)] → Assigned statement value → value < stored := by
    intro given statement value stored rows assigned
    obtain ⟨row, member, _, updated⟩ := assigned
    rw [rows, List.mem_singleton] at member
    rw [member] at updated
    cases updated
  have noneGiven : ∀ (statement : InsertStatement) (value : Int) (apart : Prop),
      statement.rows = [(.null, .inserted)] → Given statement value → apart := by
    intro statement value apart rows given
    obtain ⟨row, member, same, _⟩ := given
    rw [rows, List.mem_singleton] at member
    rw [member] at same
    cases same
  have base : 0 ≤ tinyTable.tableId := by decide
  refine ⟨⟨fun _ => .inl base, fun value => noneAssigned .null _ value _ rfl, .inl (by decide)⟩,
    trivial,
    ⟨fun _ => .inl base, fun value => noneAssigned .null _ value _ rfl,
      .inr (.inr ⟨by decide, by decide, fun value => noneGiven _ value _ rfl⟩)⟩,
    ⟨fun _ => .inl base, fun value => noneAssigned (.integer 5) _ value _ rfl,
      .inl (by decide)⟩, trivial⟩

/-- INSERT_ID 8 below the counter 10 puts the counter back to 9. -/
theorem insert_id_lowers_counter :
    ¬ ∀ (table : AutoIncrementTable) (state : State) (events : List Event),
      Consistent table state →
      (∀ report ∈ reports table state events, report.before ≤ report.after ∧
        ∀ value, value ∈ report.inserted ∨ value ∈ report.assigned → 0 < value →
          value < report.after ∨ report.after = table.positiveMax) ∧
      (reports table state events).Pairwise fun first second =>
        ∀ id : Int, id ∈ first.generated → id ∈ second.generated → id = table.positiveMax := by
  intro claim
  have consistent : Consistent tinyTable (counterAt 9) := counterAt_consistent (by decide)
  obtain ⟨advance, _⟩ := claim tinyTable (counterAt 9)
    [insertOne .null, setInsertId 8, insertOne .null] consistent
  have ran : reports tinyTable (counterAt 9) [insertOne .null, setInsertId 8, insertOne .null] =
      [⟨9, 10, [9], [], [9]⟩, ⟨10, 9, [8], [], [8]⟩] := by decide +kernel
  rw [ran] at advance
  obtain ⟨lowered, _⟩ := advance ⟨10, 9, [8], [], [8]⟩ (List.mem_cons_of_mem _ List.mem_cons_self)
  exact absurd lowered (by decide)

/-- An INSERT_ID above an explicit value, or at the maximum of the column, leaves the
counter below what is stored. -/
example : reports tinyTable (counterAt 10)
    [setInsertId 20, insertOne (.integer 15), setInsertId 127, insertOne .null] =
      [⟨10, 10, [15], [], []⟩, ⟨10, 10, [127], [], [127]⟩] := by decide +kernel

/-- The id that a conflict on another key stores in an existing row passes the counter. -/
example : reports tinyTable (counterAt 2) [insertRow (.integer 100) (.duplicateUpdated true)] =
    [⟨2, 2, [], [100], []⟩] := by decide +kernel

end MyLite.InsertCounter
