import MyLite.Runtime.Replace

/-! INSERT of several rows: one SQLite statement for all of them, and the rows one by one
when a constraint fails. -/

namespace MyLite.BatchInsert

open Replace (SqliteValue PlannedValue KeyLookup rowHasNullPart)

/-- How a step of a SQLite statement fails, with what its message names. -/
inductive SqliteStatus where
  | checkFailed (physicalName : String)
  | notNullFailed (columnName : Option String)
  | constraintFailed
  | noMemory
  | misuse
  | failed
  deriving DecidableEq, Repr

inductive Status where
  | noMemory
  | misuse
  | error
  deriving DecidableEq, Repr

inductive InsertError where
  | outOfMemory
  | outOfRange (columnName : String) (rowNumber : Nat)
  | checkConstraintViolated (name : String)
  | badNull (columnName : String)
  | duplicateKey (tableName indexName value : String)
  | runtime (message : String)
  | physicalRow
  deriving DecidableEq, Repr

/-- A status that is not success: with the diagnostics still clear, or with an error set. -/
inductive Failure where
  | status (status : Status)
  | diagnostic (error : InsertError)
  deriving DecidableEq, Repr

/-- `sqlite_status_is_constraint`. -/
def SqliteStatus.isConstraint : SqliteStatus → Bool
  | .checkFailed _ => true
  | .notNullFailed _ => true
  | .constraintFailed => true
  | .noMemory => false
  | .misuse => false
  | .failed => false

/-- `mylite_sqlite_status_to_mylite`. -/
def SqliteStatus.toMylite : SqliteStatus → Status
  | .noMemory => .noMemory
  | .misuse => .misuse
  | _ => .error

/-- The error a failed INSERT reports. -/
def Failure.report : Failure → InsertError
  | .status .noMemory => .outOfMemory
  | .status _ => .physicalRow
  | .diagnostic error => error

structure Column where
  name : String
  isGenerated : Bool
  isNullable : Bool

/-- `struct mylite_catalog_check_constraint_descriptor`. -/
structure CheckConstraint where
  name : String
  physicalName : String

/-- `struct loaded_index_info`. How a tuple is looked up in the table and how it is
printed is left open. -/
structure Index (Table Real : Type) where
  name : String
  isUnique : Bool
  parts : List Nat
  tupleExists : Table → List (PlannedValue Real) → Except Failure Bool
  formatTuple : List (PlannedValue Real) → Except Failure String

/-- `struct planned_insert`. -/
structure Plan (Table Real : Type) where
  tableName : String
  physicalName : String
  tableId : Int
  isBaseTable : Bool
  columns : List Column
  checkConstraints : List CheckConstraint
  indexes : List (Index Table Real)
  foreignKeyParents : List Int
  rows : List (List (PlannedValue Real))
  hasAutoIncrement : Bool
  ignoreErrors : Bool
  replaceExistingRows : Bool
  hasDuplicateUpdate : Bool
  rowLength : ∀ row ∈ rows, row.length = columns.length

/-- SQLite with its limits. One row enters the table or fails; what decides that is left
open. -/
structure Sqlite (Table Real : Type) where
  parameterLimit : Nat
  lengthLimit : Nat
  parameterLimit_le : parameterLimit ≤ 32766
  insertRow : Table → List (SqliteValue Real) → Except SqliteStatus Table

/-- `INSERT INTO table (columns) VALUES (?1, …), …`. -/
structure InsertStatement where
  tableName : String
  columns : List String
  rows : List (List Nat)
  deriving DecidableEq, Repr

section Statement

variable {Table Real : Type}

/-- The columns a statement writes. -/
def Plan.physicalColumns (plan : Plan Table Real) : List Column :=
  plan.columns.filter fun column => !column.isGenerated

/-- `append_insert_parameters_from`, row after row. -/
def insertParameterRows (columnCount : Nat) : Nat → Nat → List (List Nat)
  | 0, _ => []
  | rowCount + 1, parameterIndex =>
    List.range' parameterIndex columnCount ::
      insertParameterRows columnCount rowCount (parameterIndex + columnCount)

/-- `build_insert_sql_for_row_count`. -/
def Plan.buildInsertSqlForRowCount (plan : Plan Table Real) (rowCount : Nat) :
    InsertStatement where
  tableName := plan.physicalName
  columns := plan.physicalColumns.map Column.name
  rows := insertParameterRows plan.physicalColumns.length rowCount 1

/-- `build_insert_sql`. -/
def Plan.buildInsertSql (plan : Plan Table Real) : InsertStatement :=
  plan.buildInsertSqlForRowCount 1

/-- `build_insert_rows_sql`. -/
def Plan.buildInsertRowsSql (plan : Plan Table Real) : InsertStatement :=
  plan.buildInsertSqlForRowCount plan.rows.length

/-- `sqlite3_bind_parameter_count`: the largest parameter number. -/
def InsertStatement.parameterCount (statement : InsertStatement) : Nat :=
  statement.rows.flatten.foldl max 0

/-- A parameter that is not bound is NULL. -/
def parameterValue (bindings : List (SqliteValue Real)) (parameter : Nat) : SqliteValue Real :=
  bindings.getD (parameter - 1) .null

/-- The rows of a statement enter the table in order. -/
def Sqlite.insertRows (sqlite : Sqlite Table Real) (table : Table) :
    List (List (SqliteValue Real)) → Except SqliteStatus Table
  | [] => .ok table
  | row :: rest =>
    match sqlite.insertRow table row with
    | .error status => .error status
    | .ok inserted => sqlite.insertRows inserted rest

/-- `sqlite3_step`. A statement that fails leaves the table as it was. -/
def Sqlite.step (sqlite : Sqlite Table Real) (statement : InsertStatement)
    (bindings : List (SqliteValue Real)) (table : Table) : Except SqliteStatus Table :=
  sqlite.insertRows table (statement.rows.map fun parameters =>
    parameters.map (parameterValue bindings))

/-- `INT_MAX`. -/
def intMax : Nat := 2147483647

/-- `bind_planned_value_parameter`: SQLite takes no text or blob above its length limit. -/
def Sqlite.bindPlannedValueParameter (sqlite : Sqlite Table Real) (value : PlannedValue Real) :
    Except Failure (SqliteValue Real) :=
  match value.bound with
  | .text bytes =>
    if bytes.length > intMax then .error (.status .error)
    else if bytes.length > sqlite.lengthLimit then .error (.status SqliteStatus.failed.toMylite)
    else .ok (.text bytes)
  | .blob bytes =>
    if bytes.length > intMax then .error (.status .error)
    else if bytes.length > sqlite.lengthLimit then .error (.status SqliteStatus.failed.toMylite)
    else .ok (.blob bytes)
  | bound => .ok bound

/-- `bind_insert_row`: the bindings of one row. -/
def Sqlite.bindInsertRow (sqlite : Sqlite Table Real) :
    List Column → List (PlannedValue Real) → Except Failure (List (SqliteValue Real))
  | column :: columns, value :: values =>
    if column.isGenerated then sqlite.bindInsertRow columns values
    else
      match sqlite.bindPlannedValueParameter value with
      | .error failure => .error failure
      | .ok bound =>
        match sqlite.bindInsertRow columns values with
        | .error failure => .error failure
        | .ok bindings => .ok (bound :: bindings)
  | _, _ => .ok []

/-- The inner loop of `execute_insert_plan_batch`: the next index and the bindings so far. -/
def Sqlite.bindBatchRow (sqlite : Sqlite Table Real) :
    List Column → List (PlannedValue Real) → Nat → List (SqliteValue Real) →
      Except Failure (Nat × List (SqliteValue Real))
  | column :: columns, value :: values, bindIndex, bindings =>
    if column.isGenerated then sqlite.bindBatchRow columns values bindIndex bindings
    else
      match sqlite.bindPlannedValueParameter value with
      | .error failure => .error failure
      | .ok bound =>
        if bindIndex = intMax then .error (.status .error)
        else sqlite.bindBatchRow columns values (bindIndex + 1) (bindings ++ [bound])
  | _, _, bindIndex, bindings => .ok (bindIndex, bindings)

/-- The outer loop of `execute_insert_plan_batch`. -/
def Sqlite.bindBatchRows (sqlite : Sqlite Table Real) (columns : List Column) :
    List (List (PlannedValue Real)) → Nat → List (SqliteValue Real) →
      Except Failure (Nat × List (SqliteValue Real))
  | [], bindIndex, bindings => .ok (bindIndex, bindings)
  | row :: rows, bindIndex, bindings =>
    match sqlite.bindBatchRow columns row bindIndex bindings with
    | .error failure => .error failure
    | .ok (nextIndex, bound) => sqlite.bindBatchRows columns rows nextIndex bound

end Statement

section Constraints

variable {Table Real : Type}

/-- `SIZE_MAX`. -/
def sizeMax : Nat := 18446744073709551615

/-- One digit of `generated_range_constraint_column_index`. -/
def columnIndexDigit (value : Nat) (character : Char) : Option Nat :=
  if character < '0' ∨ character > '9' then .none
  else
    let digit := character.toNat - '0'.toNat
    if value > (sizeMax - digit) / 10 then .none else some (value * 10 + digit)

/-- `generated_range_constraint_column_index`. -/
def generatedRangeConstraintColumnIndex (physicalName : String) : Option Nat :=
  match "_mylite_generated_column_range_".toList.isPrefixOf? physicalName.toList with
  | none => none
  | some [] => none
  | some digits => digits.foldlM columnIndexDigit 0

/-- `handle_generated_range_constraint_violation`. -/
def Plan.generatedRangeViolation (plan : Plan Table Real) (status : SqliteStatus)
    (rowNumber : Nat) : Option InsertError :=
  match status with
  | .checkFailed physicalName =>
    match generatedRangeConstraintColumnIndex physicalName with
    | none => none
    | some columnIndex =>
      match plan.columns[columnIndex]? with
      | none => none
      | some column =>
        if column.isGenerated then some (.outOfRange column.name rowNumber) else none
  | _ => none

/-- `handle_check_constraint_violation`. -/
def Plan.checkViolation (plan : Plan Table Real) (status : SqliteStatus) : Option InsertError :=
  match status with
  | .checkFailed physicalName =>
    (plan.checkConstraints.find? fun constraint => constraint.physicalName = physicalName).map
      fun constraint => .checkConstraintViolated constraint.name
  | _ => none

/-- `handle_generated_not_null_violation`. -/
def Plan.generatedNotNullViolation (plan : Plan Table Real) (status : SqliteStatus) :
    Option InsertError :=
  match status with
  | .notNullFailed (some columnName) =>
    (plan.columns.find? fun column =>
      column.isGenerated && !column.isNullable && column.name = columnName).map
        fun column => .badNull column.name
  | .notNullFailed none =>
    (plan.columns.find? fun column => column.isGenerated && !column.isNullable).map
      fun column => .badNull column.name
  | _ => none

/-- The lookup of the tuples of a row in the table. -/
def keyLookup (table : Table) (values : List (PlannedValue Real)) :
    KeyLookup (Index Table Real) Failure String where
  isUnique := Index.isUnique
  partCount index := index.parts.length
  rowHasNullPart index :=
    rowHasNullPart (.diagnostic (.runtime "invalid unique-index descriptor")) values index.parts
  tupleExists index := index.tupleExists table values
  formatTuple index := index.formatTuple values

/-- `find_insert_unique_key_conflict`: the conflicting index and the text of its tuple. -/
def findInsertUniqueKeyConflict (table : Table) (status : SqliteStatus)
    (values : List (PlannedValue Real)) (indexes : List (Index Table Real)) :
    Except Failure (Index Table Real × String) :=
  (keyLookup table values).findInsertUniqueKeyConflict (.status status.toMylite) indexes

/-- `handle_insert_unique_key_conflict`. -/
def Plan.uniqueKeyConflict (plan : Plan Table Real) (table : Table) (status : SqliteStatus)
    (values : List (PlannedValue Real)) : Failure :=
  match findInsertUniqueKeyConflict table status values plan.indexes with
  | .error failure => failure
  | .ok (index, valueText) => .diagnostic (.duplicateKey plan.tableName index.name valueText)

/-- `handle_insert_plan_constraint`, of a plan without IGNORE, REPLACE or
ON DUPLICATE KEY UPDATE. -/
def Plan.handleInsertPlanConstraint (plan : Plan Table Real) (table : Table)
    (status : SqliteStatus) (rowIndex : Nat) (values : List (PlannedValue Real)) : Failure :=
  match plan.generatedRangeViolation status (rowIndex + 1) with
  | some error => .diagnostic error
  | none =>
    match plan.checkViolation status with
    | some error => .diagnostic error
    | none =>
      match plan.generatedNotNullViolation status with
      | some error => .diagnostic error
      | none => plan.uniqueKeyConflict table status values

end Constraints

section Execution

variable {Table Real : Type}

/-- `execute_insert_plan_row`: a failed step has its status, a failed binding none. -/
def Sqlite.executeInsertPlanRow (sqlite : Sqlite Table Real) (plan : Plan Table Real)
    (statement : InsertStatement) (table : Table) (values : List (PlannedValue Real)) :
    Except (Failure ⊕ SqliteStatus) Table :=
  match sqlite.bindInsertRow plan.columns values with
  | .error failure => .error (.inl failure)
  | .ok bindings =>
    if statement.parameterCount ≠ bindings.length then .error (.inl (.status .error))
    else
      match sqlite.step statement bindings table with
      | .error status => .error (.inr status)
      | .ok inserted => .ok inserted

/-- The table and the count a loop over the rows leaves, and what stopped it. -/
structure Progress (Table : Type) where
  table : Table
  affectedRows : Nat
  failure : Option Failure

/-- `execute_insert_plan_rows`, of a plan that may be executed as a batch. -/
def Sqlite.executeInsertPlanRows (sqlite : Sqlite Table Real) (plan : Plan Table Real)
    (statement : InsertStatement) (table : Table) (affectedRows : Nat) :
    Nat → List (List (PlannedValue Real)) → Progress Table
  | _, [] => ⟨table, affectedRows, none⟩
  | rowIndex, values :: rows =>
    match sqlite.executeInsertPlanRow plan statement table values with
    | .ok inserted =>
      sqlite.executeInsertPlanRows plan statement inserted (affectedRows + 1) (rowIndex + 1) rows
    | .error (.inl failure) => ⟨table, affectedRows, some failure⟩
    | .error (.inr status) =>
      if status.isConstraint then
        ⟨table, affectedRows, some (plan.handleInsertPlanConstraint table status rowIndex values)⟩
      else ⟨table, affectedRows, some (.status status.toMylite)⟩

inductive BatchFailure where
  | constraintFallback
  | failed (failure : Failure)
  deriving DecidableEq, Repr

/-- `execute_insert_plan_batch`. -/
def Sqlite.executeInsertPlanBatch (sqlite : Sqlite Table Real) (plan : Plan Table Real)
    (statement : InsertStatement) (table : Table) : Except BatchFailure (Table × Nat) :=
  match sqlite.bindBatchRows plan.columns plan.rows 1 [] with
  | .error failure => .error (.failed failure)
  | .ok (bindIndex, bindings) =>
    if statement.parameterCount ≠ bindIndex - 1 then .error (.failed (.status .error))
    else
      match sqlite.step statement bindings table with
      | .ok inserted => .ok (inserted, plan.rows.length)
      | .error status =>
        if status.isConstraint then .error .constraintFallback
        else .error (.failed (.status status.toMylite))

/-- `insert_plan_can_execute_as_batch`. -/
def Plan.canExecuteAsBatch (plan : Plan Table Real) (sqlite : Sqlite Table Real) : Bool :=
  1 < plan.rows.length && plan.rows.length ≤ 9223372036854775807 && !plan.hasAutoIncrement &&
    !plan.ignoreErrors && !plan.replaceExistingRows && !plan.hasDuplicateUpdate &&
    plan.foreignKeyParents.isEmpty && plan.physicalColumns.length ≠ 0 &&
    0 < sqlite.parameterLimit &&
    plan.rows.length ≤ sqlite.parameterLimit / plan.physicalColumns.length

/-- `insert_plan_can_execute_with_foreign_key_guards`. -/
def Plan.canExecuteWithForeignKeyGuards (plan : Plan Table Real) : Bool :=
  plan.rows.length = 1 && !plan.foreignKeyParents.isEmpty && !plan.hasAutoIncrement &&
    !plan.ignoreErrors && !plan.replaceExistingRows && !plan.hasDuplicateUpdate &&
    plan.foreignKeyParents.all (· ≠ plan.tableId)

/-- The connection of a session. A level of the open SQLite transaction is the table it
began with, the innermost first: a savepoint, or `BEGIN` as the last. -/
structure Database (Table : Type) where
  table : Table
  levels : List Table
  userTransactionActive : Bool
  autocommitEnabled : Bool
  writerStablePlanning : Bool
  writePlanGenerationGuard : Bool
  updatedTimeIsCached : Bool

/-- A connection between two steps of a statement: without a user's or a planning
transaction none is open. -/
structure Connection (Table : Type) extends Database Table where
  closed : userTransactionActive = false → writerStablePlanning = false → levels = []

/-- `enum mylite_statement_transaction_kind`. -/
inductive StatementTransaction where
  | none
  | savepoint
  | direct
  deriving DecidableEq, Repr

/-- `mylite_execution_begin_statement_transaction`, of a plan whose catalog is current. -/
def Database.beginStatementTransaction (database : Database Table) :
    Database Table × StatementTransaction :=
  if database.userTransactionActive || database.writerStablePlanning then
    ({ database with levels := database.table :: database.levels }, .savepoint)
  else if !database.autocommitEnabled then
    ({ database with levels := database.table :: database.table :: database.levels
                     userTransactionActive := true }, .savepoint)
  else ({ database with levels := database.table :: database.levels }, .direct)

/-- `mylite_execution_commit_statement_transaction`. -/
def Database.commitStatementTransaction (database : Database Table) :
    StatementTransaction → Database Table
  | .none => database
  | .savepoint => { database with levels := database.levels.tail }
  | .direct => { database with levels := [] }

/-- `mylite_execution_rollback_statement_transaction`. -/
def Database.rollbackStatementTransaction (database : Database Table) :
    StatementTransaction → Database Table
  | .none => database
  | .savepoint =>
    { database with table := database.levels.headD database.table
                    levels := database.levels.tail }
  | .direct =>
    { database with table := database.levels.getLastD database.table, levels := [] }

/-- `insert_execution_can_rely_on_sqlite_statement_atomicity`. -/
def Database.canRelyOnStatementAtomicity (database : Database Table)
    (sqlite : Sqlite Table Real) (plan : Plan Table Real) : Bool :=
  database.userTransactionActive && plan.isBaseTable && 0 < plan.tableId &&
    (plan.rows.length = 1 || plan.canExecuteAsBatch sqlite) && !plan.hasAutoIncrement &&
    !plan.ignoreErrors && !plan.replaceExistingRows && !plan.hasDuplicateUpdate &&
    (plan.foreignKeyParents.isEmpty || plan.canExecuteWithForeignKeyGuards) &&
    database.updatedTimeIsCached

/-- How `execute_insert_from_plan` ends. -/
def Database.finish (database : Database Table) (transaction : StatementTransaction) :
    Except Failure Nat → Database Table × Except InsertError Nat
  | .ok affectedRows => (database.commitStatementTransaction transaction, .ok affectedRows)
  | .error failure =>
    (database.rollbackStatementTransaction transaction, .error failure.report)

/-- The row loop and the end of the statement. -/
def Database.finishRows (database : Database Table) (transaction : StatementTransaction)
    (progress : Progress Table) : Database Table × Except InsertError Nat :=
  { database with table := progress.table }.finish transaction
    (match progress.failure with
      | some failure => .error failure
      | .none => .ok progress.affectedRows)

/-- `execute_insert_from_plan`, of a plan that `insert_plan_can_execute_as_batch` accepts. -/
def Database.executeInsertFromPlan (database : Database Table) (sqlite : Sqlite Table Real)
    (plan : Plan Table Real) : Database Table × Except InsertError Nat :=
  let reliesOnAtomicity := database.canRelyOnStatementAtomicity sqlite plan
  let (begun, transaction) :=
    if !reliesOnAtomicity || database.writePlanGenerationGuard then
      database.beginStatementTransaction
    else (database, .none)
  match sqlite.executeInsertPlanBatch plan plan.buildInsertRowsSql begun.table with
  | .ok (inserted, affectedRows) =>
    { begun with table := inserted }.finish transaction (.ok affectedRows)
  | .error (.failed failure) => begun.finish transaction (.error failure)
  | .error .constraintFallback =>
    let (fallback, fallbackTransaction) :=
      if reliesOnAtomicity then begun.beginStatementTransaction else (begun, transaction)
    fallback.finishRows fallbackTransaction
      (sqlite.executeInsertPlanRows plan plan.buildInsertSql fallback.table 0 0 plan.rows)

/-- The rows one by one in a statement transaction. -/
def Database.insertRowByRow (database : Database Table) (sqlite : Sqlite Table Real)
    (plan : Plan Table Real) : Database Table × Except InsertError Nat :=
  let (begun, transaction) := database.beginStatementTransaction
  begun.finishRows transaction
    (sqlite.executeInsertPlanRows plan plan.buildInsertSql begun.table 0 0 plan.rows)

end Execution

end MyLite.BatchInsert
