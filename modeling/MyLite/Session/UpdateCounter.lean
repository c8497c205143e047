import MyLite.Library.Machine
import MyLite.Session.InsertRuns

/-! The AUTO_INCREMENT column of a table under INSERT and UPDATE, and the counter that
is to stay above it. -/

namespace MyLite.InsertCounter

open Transactions (Session nextAutoIncrementAfterUpdateValue generated_ge afterUpdate_ge
  readCurrentAutoIncrementNextAfterWriteLock ensurePersistentAutoIncrementHighWaterSlot
  recordPersistentAutoIncrementHighWater)

/-! Planning. -/

/-- What an assignment stores. A literal, DEFAULT, a constant expression and a scalar
subquery are one `value`; a copy stores in each row what another column of it holds. -/
inductive AssignedValue where
  | value (value : PlannedValue)
  | columnCopy (source : Nat → Int)
  | rowScalar
  | dateInterval
  | sameColumnArithmetic

structure Assignment where
  toAutoIncrement : Bool
  /-- DEFAULT for a generated column, which changes nothing. -/
  generatedDefaultNoop : Bool
  assigned : AssignedValue

/-- `plan_update_assignment`, for a single one. -/
def planUpdateAssignment (assignment : Assignment) : Bool :=
  assignment.generatedDefaultNoop ||
    match assignment.assigned with
    | .value _ | .columnCopy _ => true
    | .rowScalar | .dateInterval | .sameColumnArithmetic => !assignment.toAutoIncrement

/-- `plan_update_multiple_assignment`. -/
def planUpdateMultipleAssignment (assignment : Assignment) : Bool :=
  assignment.generatedDefaultNoop ||
    match assignment.assigned with
    | .value _ => true
    | .rowScalar => !assignment.toAutoIncrement
    | .columnCopy _ | .dateInterval | .sameColumnArithmetic => false

/-- The assignments are to pairwise distinct columns, so at most one is to the
AUTO_INCREMENT column. -/
def planUpdateAssignments : List Assignment → Bool
  | [] => false
  | [assignment] => planUpdateAssignment assignment
  | assignments =>
    assignments.all planUpdateMultipleAssignment &&
      (assignments.filter Assignment.toAutoIncrement).length ≤ 1

/-- `planned_update_auto_increment_assignment`. -/
def autoIncrementAssignment (assignments : List Assignment) : Option Assignment :=
  assignments.find? fun assignment =>
    !assignment.generatedDefaultNoop && assignment.toAutoIncrement

/-- `planned_update_assigns_auto_increment`. -/
def assignsAutoIncrement : List Assignment → Bool
  | [assignment] =>
    !assignment.generatedDefaultNoop &&
      match assignment.assigned with
      | .columnCopy _ | .rowScalar => false
      | _ => assignment.toAutoIncrement
  | assignments => (autoIncrementAssignment assignments).isSome

/-! Execution. -/

/-- The value for the column in one row; a NULL is refused by the column, and an
integer column is assigned no text. -/
def AssignedValue.cell (assigned : AssignedValue) (row : Nat) : Option Int :=
  match assigned with
  | .value (.integer stored) => some stored
  | .columnCopy source => some (source row)
  | _ => none

/-- The column after the rows from `row` on are updated where `changed` says so. -/
def updateColumn (cell : Nat → Option Int) (changed : Nat → Bool) :
    Nat → List Int → Option (List Int)
  | _, [] => some []
  | row, old :: rest =>
    (if changed row then cell row else some old).bind fun new =>
    (updateColumn cell changed (row + 1) rest).map fun others => new :: others

/-- `advance_auto_increment_after_update`. -/
def advanceAutoIncrementAfterUpdate (session : Session) (positiveMax : Nat)
    (assignments : List Assignment) (affectedRows : Nat) (current : Int) : Option Int :=
  if affectedRows = 0 then some current
  else
    match (autoIncrementAssignment assignments).map Assignment.assigned with
    | some (.value (.integer value)) =>
      if value ≤ 0 then some current
      else nextAutoIncrementAfterUpdateValue session positiveMax current value
    | _ => some current

/-- `changed` are the rows the WHERE, ORDER BY and LIMIT clauses or a join select and
in which some assigned column gets another value. -/
structure UpdateStatement where
  assignments : List Assignment
  descriptorNext : Int
  changed : Nat → Bool
  commits : Bool

structure TableState where
  counter : State
  column : List Int

/-- The counter before and after the statement, and the column. -/
def executeUpdateBody (table : AutoIncrementTable) (state : TableState) (session : Session)
    (statement : UpdateStatement) : Option (Int × Int × List Int) :=
  let assignments := statement.assignments
  let affectedRows := (List.range state.column.length).countP statement.changed
  if !planUpdateAssignments assignments then none
  else
    (if assignsAutoIncrement assignments then
      readCurrentAutoIncrementNextAfterWriteLock (state.counter.locked table session)
        table.tableId statement.descriptorNext false
    else some statement.descriptorNext).bind fun current =>
    (match autoIncrementAssignment assignments with
    | none => some state.column
    | some assignment =>
      updateColumn assignment.assigned.cell statement.changed 0 state.column).bind fun column =>
    (advanceAutoIncrementAfterUpdate session table.positiveMax assignments affectedRows
      current).map fun next => (current, next, column)

/-- `execute_update_from_plan`. -/
def executeUpdate (table : AutoIncrementTable) (state : TableState) (connection : Nat)
    (statement : UpdateStatement) : TableState :=
  let session := state.counter.sessions connection
  let reserved :=
    if assignsAutoIncrement statement.assignments then
      ensurePersistentAutoIncrementHighWaterSlot table.tableId session
    else session
  let unchanged := { state with counter := state.counter.withSession connection reserved }
  match executeUpdateBody table state reserved statement with
  | none => unchanged
  | some (current, next, column) =>
    if !statement.commits then unchanged
    else if next = current then { unchanged with column := column }
    else
      let recorded := recordPersistentAutoIncrementHighWater table.tableId next reserved
      { counter := { state.counter with stored := next }.withSession connection recorded
        column := column }

/-- The column after existing rows take new values, in order. -/
def assignRows (column : List Int) (updates : List (Nat × Int)) : List Int :=
  updates.foldl (fun rows update => rows.set update.1 update.2) column

/-- `conflicting` are the rows that ON DUPLICATE KEY UPDATE finds for the values it
assigns, counted in the table as the statement leaves it. -/
inductive TableEvent where
  | session (event : Event) (conflicting : List Nat)
  | update (connection : Nat) (statement : UpdateStatement)

def TableState.step (table : AutoIncrementTable) (state : TableState) :
    TableEvent → TableState
  | .session event conflicting =>
    let result := InsertCounter.step table state.counter event
    { counter := result.1
      column := match result.2 with
        | none => state.column
        | some report =>
          assignRows (state.column ++ report.inserted) (conflicting.zip report.assigned) }
  | .update connection statement => executeUpdate table state connection statement

end MyLite.InsertCounter
