import Mathlib.Data.List.Basic
import Mathlib.Tactic.Common
import MyLite.Runtime.BatchInsert
import MyLite.Runtime.ReplaceRows

/-! The batch and the row loop bind the same rows, so they differ only in what a value that
cannot be bound keeps them from trying. -/

namespace MyLite.BatchInsert

open Replace (SqliteValue PlannedValue)

section Parameters

variable {Table Real : Type}

theorem insertParameterRows_flatten (columnCount rowCount parameterIndex : Nat) :
    (insertParameterRows columnCount rowCount parameterIndex).flatten =
      List.range' parameterIndex (rowCount * columnCount) := by
  induction rowCount generalizing parameterIndex with
  | zero => simp [insertParameterRows]
  | succ rowCount ih =>
    rw [insertParameterRows, List.flatten_cons, ih, Nat.succ_mul,
      Nat.add_comm (rowCount * columnCount), ← List.range'_append_1]

theorem foldl_max_range' (bound count : Nat) :
    (List.range' (bound + 1) count).foldl max bound = bound + count := by
  induction count generalizing bound with
  | zero => rfl
  | succ count ih =>
    have larger : max bound (bound + 1) = bound + 1 := by omega
    rw [List.range'_succ, List.foldl_cons, larger, ih]
    omega

theorem parameterCount_build (plan : Plan Table Real) (rowCount : Nat) :
    (plan.buildInsertSqlForRowCount rowCount).parameterCount =
      rowCount * plan.physicalColumns.length := by
  simp only [InsertStatement.parameterCount, Plan.buildInsertSqlForRowCount,
    insertParameterRows_flatten]
  have counted := foldl_max_range' 0 (rowCount * plan.physicalColumns.length)
  simpa using counted

theorem range'_parameterValue (before row after : List (SqliteValue Real)) :
    (List.range' (before.length + 1) row.length).map (parameterValue (before ++ (row ++ after))) =
      row := by
  refine List.ext_getElem (by simp) fun index left right => ?_
  simp only [List.getElem_map, List.getElem_range', parameterValue]
  have position : before.length + 1 + 1 * index - 1 = before.length + index := by omega
  rw [position, List.getD_eq_getElem?_getD, List.getElem?_append_right (by omega)]
  simp only [Nat.add_sub_cancel_left, List.getElem?_append_left right,
    List.getElem?_eq_getElem right, Option.getD_some]

/-- Each row of a statement reads its own values. -/
theorem insertParameterRows_values {columnCount : Nat} (before : List (SqliteValue Real))
    {rows : List (List (SqliteValue Real))} (width : ∀ row ∈ rows, row.length = columnCount) :
    (insertParameterRows columnCount rows.length (before.length + 1)).map
      (fun parameters => parameters.map (parameterValue (before ++ rows.flatten))) = rows := by
  induction rows generalizing before with
  | nil => rfl
  | cons row rows ih =>
    have first : row.length = columnCount := width row List.mem_cons_self
    have others := ih (before ++ row) fun other member =>
      width other (List.mem_cons_of_mem row member)
    have next : (before ++ row).length + 1 = before.length + 1 + columnCount := by
      rw [List.length_append]
      omega
    rw [next, List.append_assoc] at others
    rw [List.length_cons, insertParameterRows, List.map_cons, List.flatten_cons, others, ← first,
      range'_parameterValue]

end Parameters

section Binding

variable {Table Real : Type}

/-- Whether SQLite takes a value. -/
def Sqlite.bindable (sqlite : Sqlite Table Real) (value : PlannedValue Real) : Bool :=
  match value.bound with
  | .text bytes => bytes.length ≤ intMax && bytes.length ≤ sqlite.lengthLimit
  | .blob bytes => bytes.length ≤ intMax && bytes.length ≤ sqlite.lengthLimit
  | _ => true

/-- Whether SQLite takes every value a row stores. -/
def Sqlite.rowBindable (sqlite : Sqlite Table Real) (columns : List Column)
    (values : List (PlannedValue Real)) : Bool :=
  (columns.zip values).all fun pair => pair.1.isGenerated || sqlite.bindable pair.2

/-- The values a row stores. -/
def boundRow (columns : List Column) (values : List (PlannedValue Real)) :
    List (SqliteValue Real) :=
  ((columns.zip values).filter fun pair => !pair.1.isGenerated).map fun pair => pair.2.bound

theorem within_limits {Result : Type} (length first second : Nat) (refused taken : Result) :
    (if length > first then refused else if length > second then refused else taken) =
      if (decide (length ≤ first) && decide (length ≤ second)) = true then taken
      else refused := by
  by_cases above : length > first
  · have outside : ¬ length ≤ first := by omega
    simp [above, outside]
  · by_cases long : length > second
    · have outside : ¬ length ≤ second := by omega
      simp [long, outside]
    · have inside : length ≤ first ∧ length ≤ second := by omega
      simp [above, long, inside]

theorem bindPlannedValueParameter_eq (sqlite : Sqlite Table Real) (value : PlannedValue Real) :
    sqlite.bindPlannedValueParameter value =
      if sqlite.bindable value then .ok value.bound else .error (.status .error) := by
  rw [Sqlite.bindPlannedValueParameter, Sqlite.bindable]
  cases value.bound with
  | null => rfl
  | integer stored => rfl
  | real stored => rfl
  | text bytes => exact within_limits bytes.length intMax sqlite.lengthLimit _ _
  | blob bytes => exact within_limits bytes.length intMax sqlite.lengthLimit _ _

theorem rowBindable_cons (sqlite : Sqlite Table Real) (column : Column) (columns : List Column)
    (value : PlannedValue Real) (values : List (PlannedValue Real)) :
    sqlite.rowBindable (column :: columns) (value :: values) =
      ((column.isGenerated || sqlite.bindable value) && sqlite.rowBindable columns values) := by
  simp [Sqlite.rowBindable]

theorem boundRow_generated {column : Column} (generated : column.isGenerated = true)
    (columns : List Column) (value : PlannedValue Real) (values : List (PlannedValue Real)) :
    boundRow (column :: columns) (value :: values) = boundRow columns values := by
  simp [boundRow, generated]

theorem boundRow_physical {column : Column} (physical : column.isGenerated = false)
    (columns : List Column) (value : PlannedValue Real) (values : List (PlannedValue Real)) :
    boundRow (column :: columns) (value :: values) = value.bound :: boundRow columns values := by
  simp [boundRow, physical]

theorem bindInsertRow_eq (sqlite : Sqlite Table Real) (columns : List Column)
    (values : List (PlannedValue Real)) :
    sqlite.bindInsertRow columns values =
      if sqlite.rowBindable columns values then .ok (boundRow columns values)
      else .error (.status .error) := by
  induction columns generalizing values with
  | nil => simp [Sqlite.bindInsertRow, Sqlite.rowBindable, boundRow]
  | cons column columns ih =>
    cases values with
    | nil => simp [Sqlite.bindInsertRow, Sqlite.rowBindable, boundRow]
    | cons value values =>
      rw [Sqlite.bindInsertRow, ih, rowBindable_cons, bindPlannedValueParameter_eq]
      cases generated : column.isGenerated with
      | true => simp [boundRow_generated generated]
      | false =>
        cases sqlite.bindable value <;> cases sqlite.rowBindable columns values <;>
          simp [boundRow_physical generated]

/-- As long as the index stays below the largest, a row of the batch is bound as the row loop
binds it. -/
theorem bindBatchRow_eq (sqlite : Sqlite Table Real) (columns : List Column)
    (values : List (PlannedValue Real)) {bindIndex : Nat} (bindings : List (SqliteValue Real))
    (below : bindIndex + (boundRow columns values).length ≤ intMax) :
    sqlite.bindBatchRow columns values bindIndex bindings =
      if sqlite.rowBindable columns values then
        .ok (bindIndex + (boundRow columns values).length, bindings ++ boundRow columns values)
      else .error (.status .error) := by
  induction columns generalizing values bindIndex bindings with
  | nil => simp [Sqlite.bindBatchRow, Sqlite.rowBindable, boundRow]
  | cons column columns ih =>
    cases values with
    | nil => simp [Sqlite.bindBatchRow, Sqlite.rowBindable, boundRow]
    | cons value values =>
      rw [Sqlite.bindBatchRow, rowBindable_cons, bindPlannedValueParameter_eq]
      cases generated : column.isGenerated with
      | true =>
        rw [boundRow_generated generated] at below ⊢
        simp [ih values bindings below]
      | false =>
        rw [boundRow_physical generated, List.length_cons] at below
        have inside : bindIndex ≠ intMax := by omega
        rw [boundRow_physical generated]
        cases sqlite.bindable value with
        | false => simp
        | true =>
          simp only [Bool.false_eq_true, if_false, if_true, inside, Bool.false_or, Bool.true_and,
            ih values (bindings ++ [value.bound])
              (by omega : bindIndex + 1 + (boundRow columns values).length ≤ intMax)]
          split
          · simp only [List.length_cons, List.append_assoc, List.cons_append, List.nil_append,
              Except.ok.injEq, Prod.mk.injEq, and_true]
            omega
          · rfl

theorem bindBatchRows_eq (sqlite : Sqlite Table Real) (columns : List Column)
    (rows : List (List (PlannedValue Real))) {bindIndex : Nat}
    (bindings : List (SqliteValue Real))
    (below : bindIndex + (rows.map (boundRow columns)).flatten.length ≤ intMax) :
    sqlite.bindBatchRows columns rows bindIndex bindings =
      if rows.all (sqlite.rowBindable columns) then
        .ok (bindIndex + (rows.map (boundRow columns)).flatten.length,
          bindings ++ (rows.map (boundRow columns)).flatten)
      else .error (.status .error) := by
  induction rows generalizing bindIndex bindings with
  | nil => simp [Sqlite.bindBatchRows]
  | cons row rows ih =>
    rw [List.map_cons, List.flatten_cons, List.length_append] at below
    rw [Sqlite.bindBatchRows, bindBatchRow_eq sqlite columns row bindings (by omega),
      List.all_cons]
    cases sqlite.rowBindable columns row with
    | false => simp
    | true =>
      simp only [if_true, Bool.true_and]
      rw [ih (bindings ++ boundRow columns row) (by omega)]
      simp only [List.map_cons, List.flatten_cons, List.length_append, List.append_assoc,
        Nat.add_assoc]

theorem boundRow_length {columns : List Column} {values : List (PlannedValue Real)}
    (sameLength : values.length = columns.length) :
    (boundRow columns values).length =
      (columns.filter fun column => !column.isGenerated).length := by
  induction columns generalizing values with
  | nil => simp [boundRow]
  | cons column columns ih =>
    cases values with
    | nil => simp at sameLength
    | cons value values =>
      have rest := ih (Nat.succ.inj sameLength)
      cases generated : column.isGenerated with
      | true => simp [boundRow_generated generated, generated, rest]
      | false => simp [boundRow_physical generated, generated, rest]

end Binding

section Rows

variable {Table Real : Type} {sqlite : Sqlite Table Real} {plan : Plan Table Real}

theorem step_build (sqlite : Sqlite Table Real) (plan : Plan Table Real) (table : Table)
    {rows : List (List (PlannedValue Real))}
    (lengths : ∀ row ∈ rows, row.length = plan.columns.length) :
    sqlite.step (plan.buildInsertSqlForRowCount rows.length)
        (rows.map (boundRow plan.columns)).flatten table =
      sqlite.insertRows table (rows.map (boundRow plan.columns)) := by
  have width : ∀ row ∈ rows.map (boundRow plan.columns),
      row.length = plan.physicalColumns.length := by
    intro row member
    obtain ⟨values, inRows, rfl⟩ := List.mem_map.mp member
    exact boundRow_length (lengths values inRows)
  have read := insertParameterRows_values [] width
  simp only [List.length_map, List.length_nil, Nat.zero_add, List.nil_append] at read
  rw [Sqlite.step, Plan.buildInsertSqlForRowCount, read]

theorem flatten_boundRow_length {rows : List (List (PlannedValue Real))}
    (lengths : ∀ row ∈ rows, row.length = plan.columns.length) :
    (rows.map (boundRow plan.columns)).flatten.length =
      rows.length * plan.physicalColumns.length := by
  induction rows with
  | nil => simp
  | cons row rows ih =>
    have first : (boundRow plan.columns row).length = plan.physicalColumns.length :=
      boundRow_length (lengths row List.mem_cons_self)
    have others := ih fun other member => lengths other (List.mem_cons_of_mem row member)
    rw [List.map_cons, List.flatten_cons, List.length_append, first, others, List.length_cons,
      Nat.succ_mul, Nat.add_comm]

theorem insertRows_single (sqlite : Sqlite Table Real) (table : Table)
    (row : List (SqliteValue Real)) :
    sqlite.insertRows table [row] = sqlite.insertRow table row := by
  rw [Sqlite.insertRows]
  cases sqlite.insertRow table row with
  | error status => rfl
  | ok inserted => rfl

theorem executeInsertPlanRow_unbound {table : Table} {values : List (PlannedValue Real)}
    (unbound : sqlite.rowBindable plan.columns values = false) :
    sqlite.executeInsertPlanRow plan plan.buildInsertSql table values =
      .error (.inl (.status .error)) := by
  simp [Sqlite.executeInsertPlanRow, bindInsertRow_eq, unbound]

theorem executeInsertPlanRow_step (table : Table) {values : List (PlannedValue Real)}
    (length : values.length = plan.columns.length)
    (bound : sqlite.rowBindable plan.columns values = true) :
    (∀ status, sqlite.insertRow table (boundRow plan.columns values) = .error status →
      sqlite.executeInsertPlanRow plan plan.buildInsertSql table values = .error (.inr status)) ∧
    (∀ inserted, sqlite.insertRow table (boundRow plan.columns values) = .ok inserted →
      sqlite.executeInsertPlanRow plan plan.buildInsertSql table values = .ok inserted) := by
  have counted : plan.buildInsertSql.parameterCount = (boundRow plan.columns values).length := by
    rw [Plan.buildInsertSql, parameterCount_build, boundRow_length length, Nat.one_mul,
      Plan.physicalColumns]
  have stepped : sqlite.step plan.buildInsertSql (boundRow plan.columns values) table =
      sqlite.insertRow table (boundRow plan.columns values) := by
    have single := @step_build _ _ sqlite plan table [values] (by simpa using length)
    simpa [insertRows_single, Plan.buildInsertSql] using single
  constructor
  · intro status refused
    simp [Sqlite.executeInsertPlanRow, bindInsertRow_eq, bound, counted, stepped, refused]
  · intro inserted accepted
    simp [Sqlite.executeInsertPlanRow, bindInsertRow_eq, bound, counted, stepped, accepted]

/-- Rows that SQLite takes all enter the table, and each is counted. -/
theorem executeInsertPlanRows_inserted {rows : List (List (PlannedValue Real))}
    (lengths : ∀ row ∈ rows, row.length = plan.columns.length)
    (bound : ∀ row ∈ rows, sqlite.rowBindable plan.columns row = true) {table inserted : Table}
    (taken : sqlite.insertRows table (rows.map (boundRow plan.columns)) = .ok inserted)
    (affectedRows rowIndex : Nat) :
    sqlite.executeInsertPlanRows plan plan.buildInsertSql table affectedRows rowIndex rows =
      ⟨inserted, affectedRows + rows.length, none⟩ := by
  induction rows generalizing table affectedRows rowIndex with
  | nil =>
    simp only [List.map_nil, Sqlite.insertRows, Except.ok.injEq] at taken
    simp [Sqlite.executeInsertPlanRows, taken]
  | cons row rows ih =>
    have stepped := executeInsertPlanRow_step table
      (lengths row List.mem_cons_self) (bound row List.mem_cons_self)
    rw [List.map_cons, Sqlite.insertRows] at taken
    cases first : sqlite.insertRow table (boundRow plan.columns row) with
    | error status => simp [first] at taken
    | ok next =>
      simp only [first] at taken
      simp only [Sqlite.executeInsertPlanRows, stepped.2 next first]
      rw [ih (fun other member => lengths other (List.mem_cons_of_mem row member))
        (fun other member => bound other (List.mem_cons_of_mem row member)) taken,
        List.length_cons, Nat.add_assoc, Nat.add_comm 1]

/-- A row that SQLite refuses stops the loop, whatever comes after it. -/
theorem executeInsertPlanRows_refused (later : List (List (PlannedValue Real)))
    {rows : List (List (PlannedValue Real))}
    (lengths : ∀ row ∈ rows, row.length = plan.columns.length)
    (bound : ∀ row ∈ rows, sqlite.rowBindable plan.columns row = true) {table : Table}
    {status : SqliteStatus}
    (refused : sqlite.insertRows table (rows.map (boundRow plan.columns)) = .error status)
    (affectedRows rowIndex : Nat) :
    ∃ failure, (sqlite.executeInsertPlanRows plan plan.buildInsertSql table affectedRows rowIndex
        (rows ++ later)).failure = some failure ∧
      (status.isConstraint = false → failure = .status status.toMylite) := by
  induction rows generalizing table affectedRows rowIndex with
  | nil => simp [Sqlite.insertRows] at refused
  | cons row rows ih =>
    have stepped := executeInsertPlanRow_step table
      (lengths row List.mem_cons_self) (bound row List.mem_cons_self)
    rw [List.map_cons, Sqlite.insertRows] at refused
    rw [List.cons_append]
    cases first : sqlite.insertRow table (boundRow plan.columns row) with
    | ok next =>
      simp only [first] at refused
      simp only [Sqlite.executeInsertPlanRows, stepped.2 next first]
      exact ih (fun other member => lengths other (List.mem_cons_of_mem row member))
        (fun other member => bound other (List.mem_cons_of_mem row member)) refused _ _
    | error reported =>
      simp only [first, Except.error.injEq] at refused
      subst refused
      simp only [Sqlite.executeInsertPlanRows, stepped.1 reported first]
      cases constraint : reported.isConstraint with
      | true => simp
      | false => simp

/-- The loop stops at the first value that cannot be bound, when it comes there. -/
theorem executeInsertPlanRows_unbound (later : List (List (PlannedValue Real)))
    {rows : List (List (PlannedValue Real))} {unbound : List (PlannedValue Real)}
    (lengths : ∀ row ∈ rows, row.length = plan.columns.length)
    (bound : ∀ row ∈ rows, sqlite.rowBindable plan.columns row = true)
    (notBound : sqlite.rowBindable plan.columns unbound = false) {table inserted : Table}
    (taken : sqlite.insertRows table (rows.map (boundRow plan.columns)) = .ok inserted)
    (affectedRows rowIndex : Nat) :
    (sqlite.executeInsertPlanRows plan plan.buildInsertSql table affectedRows rowIndex
      (rows ++ unbound :: later)).failure = some (.status .error) := by
  induction rows generalizing table affectedRows rowIndex with
  | nil => simp [Sqlite.executeInsertPlanRows, executeInsertPlanRow_unbound notBound]
  | cons row rows ih =>
    have stepped := executeInsertPlanRow_step table
      (lengths row List.mem_cons_self) (bound row List.mem_cons_self)
    rw [List.map_cons, Sqlite.insertRows] at taken
    cases first : sqlite.insertRow table (boundRow plan.columns row) with
    | error status => simp [first] at taken
    | ok next =>
      simp only [first] at taken
      simp only [List.cons_append, Sqlite.executeInsertPlanRows, stepped.2 next first]
      exact ih (fun other member => lengths other (List.mem_cons_of_mem row member))
        (fun other member => bound other (List.mem_cons_of_mem row member)) taken _ _

end Rows

section Batch

variable {Table Real : Type} {sqlite : Sqlite Table Real} {plan : Plan Table Real}

theorem accepted_below (accepted : plan.canExecuteAsBatch sqlite = true) :
    1 + (plan.rows.map (boundRow plan.columns)).flatten.length ≤ intMax := by
  simp only [Plan.canExecuteAsBatch, Bool.and_eq_true, decide_eq_true_eq] at accepted
  obtain ⟨⟨⟨-, physical⟩, -⟩, fits⟩ := accepted
  have positive : 0 < plan.physicalColumns.length := Nat.pos_of_ne_zero physical
  have total : plan.rows.length * plan.physicalColumns.length ≤ sqlite.parameterLimit :=
    (Nat.le_div_iff_mul_le positive).mp fits
  have limit := sqlite.parameterLimit_le
  rw [flatten_boundRow_length plan.rowLength, intMax]
  omega

theorem executeInsertPlanBatch_unbound (accepted : plan.canExecuteAsBatch sqlite = true)
    (unbound : plan.rows.all (sqlite.rowBindable plan.columns) = false) (table : Table) :
    sqlite.executeInsertPlanBatch plan plan.buildInsertRowsSql table =
      .error (.failed (.status .error)) := by
  have bindings := bindBatchRows_eq sqlite plan.columns plan.rows [] (accepted_below accepted)
  rw [unbound] at bindings
  simp [Sqlite.executeInsertPlanBatch, bindings]

/-- When every value is bound, the batch is the insertion of its rows in order. -/
theorem executeInsertPlanBatch_bound (accepted : plan.canExecuteAsBatch sqlite = true)
    (bound : plan.rows.all (sqlite.rowBindable plan.columns) = true) (table : Table) :
    (∀ inserted, sqlite.insertRows table (plan.rows.map (boundRow plan.columns)) = .ok inserted →
      sqlite.executeInsertPlanBatch plan plan.buildInsertRowsSql table =
        .ok (inserted, plan.rows.length)) ∧
    (∀ status, sqlite.insertRows table (plan.rows.map (boundRow plan.columns)) = .error status →
      sqlite.executeInsertPlanBatch plan plan.buildInsertRowsSql table =
        if status.isConstraint then .error .constraintFallback
        else .error (.failed (.status status.toMylite))) := by
  have bindings := bindBatchRows_eq sqlite plan.columns plan.rows [] (accepted_below accepted)
  have counted : plan.buildInsertRowsSql.parameterCount =
      (plan.rows.map (boundRow plan.columns)).flatten.length := by
    rw [Plan.buildInsertRowsSql, parameterCount_build, flatten_boundRow_length plan.rowLength]
  have stepped : sqlite.step plan.buildInsertRowsSql
      (plan.rows.map (boundRow plan.columns)).flatten table =
        sqlite.insertRows table (plan.rows.map (boundRow plan.columns)) :=
    step_build sqlite plan table plan.rowLength
  simp only [bound, if_true, List.nil_append] at bindings
  constructor
  · intro inserted taken
    simp [Sqlite.executeInsertPlanBatch, bindings, counted, stepped, taken]
  · intro status refused
    simp [Sqlite.executeInsertPlanBatch, bindings, counted, stepped, refused]

end Batch

section Transactions

variable {Table Real : Type}

/-- A statement transaction that has begun: whatever the rows did to the table, a rollback
brings back the table of the start. -/
structure Begun (table : Table) (begun : Database Table) (transaction : StatementTransaction) :
    Prop where
  table_eq : begun.table = table
  restores : ∀ changed : Table,
    ({ begun with table := changed }.rollbackStatementTransaction transaction).table = table

theorem begin_savepoint {database : Database Table}
    (inside : (database.userTransactionActive || database.writerStablePlanning) = true) :
    Begun database.table database.beginStatementTransaction.1
      database.beginStatementTransaction.2 := by
  rw [Database.beginStatementTransaction, if_pos inside]
  exact ⟨rfl, fun changed => rfl⟩

theorem Connection.begin_begun (connection : Connection Table) :
    Begun connection.table connection.toDatabase.beginStatementTransaction.1
      connection.toDatabase.beginStatementTransaction.2 := by
  cases inside : connection.userTransactionActive || connection.writerStablePlanning with
  | true => exact begin_savepoint inside
  | false =>
    have apart : connection.userTransactionActive = false ∧
        connection.writerStablePlanning = false := by
      simpa using inside
    have levels := connection.closed apart.1 apart.2
    cases automatic : connection.autocommitEnabled with
    | false =>
      simp only [Database.beginStatementTransaction, inside, automatic, Bool.false_eq_true,
        if_false, Bool.not_false, if_true]
      exact ⟨rfl, fun changed => rfl⟩
    | true =>
      simp only [Database.beginStatementTransaction, inside, automatic, Bool.false_eq_true,
        if_false, Bool.not_true, levels]
      exact ⟨rfl, fun changed => rfl⟩

theorem commit_table (database : Database Table) (transaction : StatementTransaction) :
    (database.commitStatementTransaction transaction).table = database.table := by
  cases transaction <;> rfl

variable {table : Table} {begun : Database Table} {transaction : StatementTransaction}

theorem Begun.finishRows_failed (started : Begun table begun transaction)
    {progress : Progress Table} {failure : Failure} (failed : progress.failure = some failure) :
    (begun.finishRows transaction progress).1.table = table ∧
      (begun.finishRows transaction progress).2 = .error failure.report := by
  simp only [Database.finishRows, failed, Database.finish, and_true]
  exact started.restores progress.table

/-- A failed batch left the table alone, in a transaction or without one. -/
theorem finish_unchanged (same : begun.table = table)
    (started : transaction = .none ∨ Begun table begun transaction) (failure : Failure) :
    (begun.finish transaction (.error failure)).1.table = table := by
  rcases started with rfl | started
  · exact same
  · exact started.restores begun.table

/-- The states a batch runs in and, after a failed constraint, its fallback. -/
theorem executeInsertFromPlan_states (connection : Connection Table)
    (sqlite : Sqlite Table Real) (plan : Plan Table Real) :
    ∃ begun transaction fallback fallbackTransaction,
      (transaction = .none ∨ Begun connection.table begun transaction) ∧
      begun.table = connection.table ∧
      Begun connection.table fallback fallbackTransaction ∧
      (∀ inserted affectedRows,
        sqlite.executeInsertPlanBatch plan plan.buildInsertRowsSql connection.table =
          .ok (inserted, affectedRows) →
        connection.toDatabase.executeInsertFromPlan sqlite plan =
          { begun with table := inserted }.finish transaction (.ok affectedRows)) ∧
      (∀ failure,
        sqlite.executeInsertPlanBatch plan plan.buildInsertRowsSql connection.table =
          .error (.failed failure) →
        connection.toDatabase.executeInsertFromPlan sqlite plan =
          begun.finish transaction (.error failure)) ∧
      (sqlite.executeInsertPlanBatch plan plan.buildInsertRowsSql connection.table =
          .error .constraintFallback →
        connection.toDatabase.executeInsertFromPlan sqlite plan =
          fallback.finishRows fallbackTransaction
            (sqlite.executeInsertPlanRows plan plan.buildInsertSql connection.table 0 0
              plan.rows)) := by
  have started := connection.begin_begun
  have begunTable := started.table_eq
  cases relies : connection.toDatabase.canRelyOnStatementAtomicity sqlite plan with
  | false =>
    refine ⟨_, _, _, _, .inr started, begunTable, started, ?_, ?_, ?_⟩
    · intro inserted affectedRows batch
      simp [Database.executeInsertFromPlan, relies, begunTable, batch]
    · intro failure batch
      simp [Database.executeInsertFromPlan, relies, begunTable, batch]
    · intro batch
      simp [Database.executeInsertFromPlan, relies, begunTable, batch]
  | true =>
    have inside : connection.userTransactionActive = true := by
      simp only [Database.canRelyOnStatementAtomicity, Bool.and_eq_true] at relies
      exact relies.1.1.1.1.1.1.1.1.1
    have savepoint : connection.userTransactionActive || connection.writerStablePlanning := by
      rw [inside, Bool.true_or]
    cases guarded : connection.writePlanGenerationGuard with
    | false =>
      refine ⟨connection.toDatabase, .none, _, _, .inl rfl, rfl, started, ?_, ?_, ?_⟩
      · intro inserted affectedRows batch
        simp [Database.executeInsertFromPlan, relies, guarded, batch]
      · intro failure batch
        simp [Database.executeInsertFromPlan, relies, guarded, batch]
      · intro batch
        simp [Database.executeInsertFromPlan, relies, guarded, batch, begunTable]
    | true =>
      -- The fallback opens a second savepoint inside the first.
      have still : connection.toDatabase.beginStatementTransaction.1.userTransactionActive ||
          connection.toDatabase.beginStatementTransaction.1.writerStablePlanning := by
        simp [Database.beginStatementTransaction, inside]
      have nested := begin_savepoint still
      have nestedTable := nested.table_eq
      rw [begunTable] at nested nestedTable
      refine ⟨_, _, _, _, .inr started, begunTable, nested, ?_, ?_, ?_⟩
      · intro inserted affectedRows batch
        simp [Database.executeInsertFromPlan, relies, guarded, begunTable, batch]
      · intro failure batch
        simp [Database.executeInsertFromPlan, relies, guarded, begunTable, batch]
      · intro batch
        simp [Database.executeInsertFromPlan, relies, guarded, begunTable, batch, nestedTable]

end Transactions

section Agreement

variable {Table Real : Type}

/-- A row with a value that cannot be bound comes after one that SQLite refuses. -/
def Plan.RefusedBeforeUnbound (plan : Plan Table Real) (sqlite : Sqlite Table Real)
    (table : Table) : Prop :=
  ∃ before unbound after status, plan.rows = before ++ unbound :: after ∧
    (∀ row ∈ before, sqlite.rowBindable plan.columns row = true) ∧
    sqlite.rowBindable plan.columns unbound = false ∧
    sqlite.insertRows table (before.map (boundRow plan.columns)) = .error status

/-- What the batch and the row loop have in common. -/
structure Agrees (plan : Plan Table Real) (sqlite : Sqlite Table Real) (table : Table)
    (batch rows : Database Table × Except InsertError Nat) : Prop where
  sameTable : batch.1.table = rows.1.table
  unchanged : ∀ error, batch.2 = .error error → batch.1.table = table
  sameCount : ∀ count, batch.2 = .ok count ↔ rows.2 = .ok count
  sameError : batch.2 = rows.2 ∨
    batch.2 = .error .physicalRow ∧ plan.RefusedBeforeUnbound sqlite table

variable {plan : Plan Table Real} {sqlite : Sqlite Table Real} {table : Table}
  {batch rows : Database Table × Except InsertError Nat}

theorem Agrees.of_inserted {inserted : Table} {count : Nat}
    (batchTable : batch.1.table = inserted) (batchCount : batch.2 = .ok count)
    (rowsTable : rows.1.table = inserted) (rowsCount : rows.2 = .ok count) :
    Agrees plan sqlite table batch rows where
  sameTable := by rw [batchTable, rowsTable]
  unchanged error failed := by simp [batchCount] at failed
  sameCount other := by rw [batchCount, rowsCount]
  sameError := .inl (by rw [batchCount, rowsCount])

theorem Agrees.of_failed {batchError rowsError : InsertError}
    (batchTable : batch.1.table = table) (batchFailed : batch.2 = .error batchError)
    (rowsTable : rows.1.table = table) (rowsFailed : rows.2 = .error rowsError)
    (errors : batchError = rowsError ∨
      batchError = .physicalRow ∧ plan.RefusedBeforeUnbound sqlite table) :
    Agrees plan sqlite table batch rows where
  sameTable := by rw [batchTable, rowsTable]
  unchanged error failed := batchTable
  sameCount other := by simp [batchFailed, rowsFailed]
  sameError := by
    rcases errors with same | ⟨physical, refused⟩
    · exact .inl (by rw [batchFailed, rowsFailed, same])
    · exact .inr ⟨by rw [batchFailed, physical], refused⟩

theorem first_unbound {columns : List Column} {values : List (List (PlannedValue Real))}
    (some_unbound : values.all (sqlite.rowBindable columns) = false) :
    ∃ before unbound after, values = before ++ unbound :: after ∧
      (∀ row ∈ before, sqlite.rowBindable columns row = true) ∧
      sqlite.rowBindable columns unbound = false := by
  induction values with
  | nil => simp at some_unbound
  | cons row values ih =>
    cases bound : sqlite.rowBindable columns row with
    | false => exact ⟨[], row, values, rfl, by simp, bound⟩
    | true =>
      rw [List.all_cons, bound, Bool.true_and] at some_unbound
      obtain ⟨before, unbound, after, split, earlier, notBound⟩ := ih some_unbound
      refine ⟨row :: before, unbound, after, by rw [split, List.cons_append], ?_, notBound⟩
      intro other member
      rcases List.mem_cons.mp member with rfl | member
      · exact bound
      · exact earlier other member

theorem insertRowByRow_eq (connection : Connection Table) (sqlite : Sqlite Table Real)
    (plan : Plan Table Real) :
    connection.toDatabase.insertRowByRow sqlite plan =
      connection.toDatabase.beginStatementTransaction.1.finishRows
        connection.toDatabase.beginStatementTransaction.2
        (sqlite.executeInsertPlanRows plan plan.buildInsertSql connection.table 0 0
          plan.rows) := by
  have begunTable := connection.begin_begun.table_eq
  rw [← begunTable]
  rfl

/-- The batch gives up before the first row enters; the row loop comes to the value, unless
an earlier row stops it. -/
theorem agrees_of_unbound (connection : Connection Table)
    (accepted : plan.canExecuteAsBatch sqlite = true)
    (unbound : plan.rows.all (sqlite.rowBindable plan.columns) = false) :
    Agrees plan sqlite connection.table (connection.toDatabase.executeInsertFromPlan sqlite plan)
      (connection.toDatabase.insertRowByRow sqlite plan) := by
  obtain ⟨begun, transaction, -, -, started, begunTable, -, -, fails, -⟩ :=
    executeInsertFromPlan_states connection sqlite plan
  have batchTable := finish_unchanged begunTable started (.status .error)
  obtain ⟨before, late, after, split, earlier, notBound⟩ := first_unbound unbound
  have lengths : ∀ row ∈ before, row.length = plan.columns.length := fun row member =>
    plan.rowLength row (by rw [split]; exact List.mem_append_left _ member)
  rw [fails _ (executeInsertPlanBatch_unbound accepted unbound connection.table),
    insertRowByRow_eq]
  cases lead : sqlite.insertRows connection.table (before.map (boundRow plan.columns)) with
  | ok inserted =>
    have stopped := executeInsertPlanRows_unbound after lengths earlier notBound lead 0 0
    rw [← split] at stopped
    have rowsEnd := connection.begin_begun.finishRows_failed stopped
    exact .of_failed batchTable rfl rowsEnd.1 rowsEnd.2 (.inl rfl)
  | error status =>
    obtain ⟨failure, stopped, -⟩ :=
      executeInsertPlanRows_refused (late :: after) lengths earlier lead 0 0
    rw [← split] at stopped
    have rowsEnd := connection.begin_begun.finishRows_failed stopped
    exact .of_failed batchTable rfl rowsEnd.1 rowsEnd.2
      (.inr ⟨rfl, before, late, after, status, split, earlier, notBound, lead⟩)

/-- With every value bound the batch is the row loop: a failed constraint makes it run. -/
theorem agrees_of_bound (connection : Connection Table)
    (accepted : plan.canExecuteAsBatch sqlite = true)
    (bound : plan.rows.all (sqlite.rowBindable plan.columns) = true) :
    Agrees plan sqlite connection.table (connection.toDatabase.executeInsertFromPlan sqlite plan)
      (connection.toDatabase.insertRowByRow sqlite plan) := by
  obtain ⟨begun, transaction, fallback, fallbackTransaction, started, begunTable, fallbackBegun,
    inserts, fails, fallsBack⟩ := executeInsertFromPlan_states connection sqlite plan
  have batchRun := executeInsertPlanBatch_bound accepted bound connection.table
  have each : ∀ row ∈ plan.rows, sqlite.rowBindable plan.columns row = true :=
    List.all_eq_true.mp bound
  rw [insertRowByRow_eq]
  cases whole : sqlite.insertRows connection.table (plan.rows.map (boundRow plan.columns)) with
  | ok inserted =>
    rw [inserts _ _ (batchRun.1 inserted whole),
      executeInsertPlanRows_inserted plan.rowLength each whole, Nat.zero_add]
    exact .of_inserted (commit_table _ transaction) rfl (commit_table _ _) rfl
  | error status =>
    have refusedBatch := batchRun.2 status whole
    obtain ⟨failure, stopped, plain⟩ :=
      executeInsertPlanRows_refused [] plan.rowLength each whole 0 0
    rw [List.append_nil] at stopped
    have rowsEnd := connection.begin_begun.finishRows_failed stopped
    cases constraint : status.isConstraint with
    | true =>
      simp only [constraint, if_true] at refusedBatch
      have batchEnd := fallbackBegun.finishRows_failed stopped
      rw [fallsBack refusedBatch]
      exact .of_failed batchEnd.1 batchEnd.2 rowsEnd.1 rowsEnd.2 (.inl rfl)
    | false =>
      simp only [constraint, Bool.false_eq_true, if_false] at refusedBatch
      have batchTable := finish_unchanged begunTable started (.status status.toMylite)
      rw [fails _ refusedBatch]
      exact .of_failed batchTable rfl rowsEnd.1 rowsEnd.2 (.inl (by rw [plain constraint]))

/-- A batch inserts the rows as the row loop does, or fails and leaves the table as the row
loop does. Its error is another one only where a value that cannot be bound comes after a row
that SQLite refuses. -/
theorem batch_insert_agrees (sqlite : Sqlite Table Real) (connection : Connection Table)
    (plan : Plan Table Real) (accepted : plan.canExecuteAsBatch sqlite = true) :
    Agrees plan sqlite connection.table (connection.toDatabase.executeInsertFromPlan sqlite plan)
      (connection.toDatabase.insertRowByRow sqlite plan) := by
  cases bound : plan.rows.all (sqlite.rowBindable plan.columns) with
  | false => exact agrees_of_unbound connection accepted bound
  | true => exact agrees_of_bound connection accepted bound

end Agreement

section Instance

abbrev Rows := List (List (SqliteValue Int))

/-- SQLite at its default limits, with a table that takes no first value twice. -/
def keyedSqlite : Sqlite Rows Int where
  parameterLimit := 32766
  lengthLimit := 1000000000
  parameterLimit_le := Nat.le_refl _
  insertRow table row :=
    if table.any (fun stored => stored.head? = row.head?) then .error .constraintFailed
    else .ok (table ++ [row])

def primaryKey : Index Rows Int where
  name := "PRIMARY"
  isUnique := true
  parts := [0]
  tupleExists table values :=
    .ok (table.any fun stored => stored.head? = values.head?.map PlannedValue.bound)
  formatTuple values := .ok (values.head?.elim "" fun value => toString value.integer)

/-- `INSERT INTO t (id, body) VALUES (first, 'x'), (2, text)`. -/
def insertTwo (first : Int) (text : List UInt8) : Plan Rows Int where
  tableName := "t"
  physicalName := "t"
  tableId := 1
  isBaseTable := true
  columns := [⟨"id", false, false⟩, ⟨"body", false, true⟩]
  checkConstraints := []
  indexes := [primaryKey]
  foreignKeyParents := []
  rows := [[Replace.keyValue first, Replace.textValue [120] none],
    [Replace.keyValue 2, Replace.textValue text none]]
  hasAutoIncrement := false
  ignoreErrors := false
  replaceExistingRows := false
  hasDuplicateUpdate := false
  rowLength := by simp

def oneRow : Connection Rows where
  table := [[.integer 1, .text [97]]]
  levels := []
  userTransactionActive := false
  autocommitEnabled := true
  writerStablePlanning := false
  writePlanGenerationGuard := true
  updatedTimeIsCached := false
  closed _ _ := rfl

/-- The first row is a duplicate: the batch falls back to the rows one by one. -/
theorem batch_insert_agrees_two :
    (insertTwo 1 [121]).canExecuteAsBatch keyedSqlite = true ∧
      keyedSqlite.executeInsertPlanBatch (insertTwo 1 [121]) (insertTwo 1 [121]).buildInsertRowsSql
        oneRow.table = .error .constraintFallback ∧
      Agrees (insertTwo 1 [121]) keyedSqlite oneRow.table
        (oneRow.toDatabase.executeInsertFromPlan keyedSqlite (insertTwo 1 [121]))
        (oneRow.toDatabase.insertRowByRow keyedSqlite (insertTwo 1 [121])) :=
  ⟨by decide, rfl, batch_insert_agrees keyedSqlite oneRow (insertTwo 1 [121]) (by decide)⟩

theorem insertTwo_unbound (first : Int) {text : List UInt8} (long : 1000000000 < text.length) :
    (insertTwo first text).rows.all
      (keyedSqlite.rowBindable (insertTwo first text).columns) = false := by
  have outside : ¬ text.length ≤ 1000000000 := by omega
  simp [insertTwo, keyedSqlite, Sqlite.rowBindable, Sqlite.bindable, PlannedValue.bound,
    PlannedValue.own, Replace.keyValue, Replace.textValue, outside]

/-- The first row is a duplicate and the text of the second is longer than SQLite takes: the
batch does not say which key is taken. -/
theorem long_text_hides_duplicate :
    (insertTwo 1 (List.replicate 1000000001 97)).canExecuteAsBatch keyedSqlite = true ∧
      (oneRow.toDatabase.executeInsertFromPlan keyedSqlite
        (insertTwo 1 (List.replicate 1000000001 97))).2 = .error .physicalRow ∧
      (oneRow.toDatabase.insertRowByRow keyedSqlite
        (insertTwo 1 (List.replicate 1000000001 97))).2 =
          .error (.duplicateKey "t" "PRIMARY" "1") := by
  have long : 1000000000 < (List.replicate 1000000001 (97 : UInt8)).length := by
    rw [List.length_replicate]
    omega
  generalize List.replicate 1000000001 (97 : UInt8) = text at long
  have accepted : (insertTwo 1 text).canExecuteAsBatch keyedSqlite = true := by
    simp [Plan.canExecuteAsBatch, Plan.physicalColumns, insertTwo, keyedSqlite]
  have unbound := insertTwo_unbound 1 long
  obtain ⟨begun, transaction, -, -, -, -, -, -, fails, -⟩ :=
    executeInsertFromPlan_states oneRow keyedSqlite (insertTwo 1 text)
  refine ⟨accepted, ?_, ?_⟩
  · rw [fails _ (executeInsertPlanBatch_unbound accepted unbound oneRow.table)]
    rfl
  · rfl

end Instance

end MyLite.BatchInsert
