import MyLite.Library.Machine
import MyLite.Session.HighWaters

/-! The AUTO_INCREMENT counter of a table under INSERT: planned, planned again under
the write lock, advanced by the rows, and written back when it moved. -/

namespace MyLite.InsertCounter

open Transactions (Session Connection Contents generatedAutoIncrementValueForLowerBound
  nextAutoIncrementAfterGeneratedValue nextAutoIncrementAfterExplicitInsertValue
  readCurrentAutoIncrementNextAfterWriteLock ensurePersistentAutoIncrementHighWaterSlot
  recordPersistentAutoIncrementHighWater autoIncrementStepValue)

/-- The value of the AUTO_INCREMENT column in a planned row. -/
inductive PlannedValue where
  | null
  | text
  | integer (value : Int)
  deriving DecidableEq, Repr

def PlannedValue.stored : PlannedValue → List Int
  | .integer value => [value]
  | _ => []

structure PlannedRow where
  value : PlannedValue
  generated : Bool
  deriving DecidableEq, Repr

/-- What SQLite and the handlers of its constraint errors make of a row. -/
inductive RowOutcome where
  | inserted
  /-- The clause of ON DUPLICATE KEY UPDATE changes an existing row; `assigned` where it
  assigns the AUTO_INCREMENT column, which it can do with `VALUES` of that column only. -/
  | duplicateUpdated (assigned : Bool)
  | ignoredDuplicate
  /-- Passed over by INSERT IGNORE, for a foreign key or a CHECK constraint. -/
  | skipped
  | failed
  deriving DecidableEq, Repr

structure AutoIncrementTable where
  /-- Negative for a temporary table. -/
  tableId : Int
  positiveMax : Nat
  bounded : positiveMax ≤ 9223372036854775807

/-! Planning. -/

/-- `generated_auto_increment_value_for_row`. -/
def generatedAutoIncrementValueForRow (noAutoValueOnZero : Bool) : PlannedValue → Bool
  | .null => true
  | .text => false
  | .integer value => !noAutoValueOnZero && value = 0

/-- `initialize_insert_auto_increment_plan`: the value the plan starts from. -/
def initializeInsertAutoIncrementPlan (session : Session) (descriptorNext : Int) : Option Int :=
  if session.insertId ≠ 0 then
    if session.insertId > 9223372036854775807 then none else some session.insertId
  else some (if 0 < descriptorNext then descriptorNext else 1)

/-- One row of `plan_insert_auto_increment_row_value`, and of the loop of
`rebase_insert_auto_increment_after_write_lock`. -/
def planInsertAutoIncrementRowValue (session : Session) (positiveMax : Nat) (next : Int)
    (row : PlannedRow) : Option (Int × PlannedRow) :=
  if row.generated then
    (generatedAutoIncrementValueForLowerBound session next).bind fun value =>
      if value ≤ 0 || value.toNat > positiveMax then none
      else (nextAutoIncrementAfterGeneratedValue session positiveMax value).map fun after =>
        (after, { value := .integer value, generated := true })
  else
    match row.value with
    | .integer value =>
      if 0 < value then
        (nextAutoIncrementAfterExplicitInsertValue positiveMax next value).map fun after =>
          (after, row)
      else some (next, row)
    | _ => some (next, row)

def planRows (session : Session) (positiveMax : Nat) :
    Int → List PlannedRow → Option (Int × List PlannedRow)
  | next, [] => some (next, [])
  | next, row :: rest =>
    (planInsertAutoIncrementRowValue session positiveMax next row).bind fun planned =>
    (planRows session positiveMax planned.1 rest).map fun others =>
      (others.1, planned.2 :: others.2)

def markRow (noAutoValueOnZero : Bool) (value : PlannedValue) : PlannedRow where
  value := value
  generated := generatedAutoIncrementValueForRow noAutoValueOnZero value

/-- `plan_insert_auto_increment_values`. -/
def planInsertAutoIncrementValues (session : Session) (positiveMax : Nat)
    (noAutoValueOnZero : Bool) (next : Int) (values : List PlannedValue) :
    Option (List PlannedRow) :=
  let rows := values.map (markRow noAutoValueOnZero)
  if 1 < rows.length && rows.any PlannedRow.generated &&
      rows.any (fun row => !row.generated) then none
  else (planRows session positiveMax next rows).map Prod.snd

/-! Execution. -/

/-- `insert_execution_counters`, with the values that inserted rows stored in the column,
those that ON DUPLICATE KEY UPDATE stored in existing rows and, of the first, every
generated one. -/
structure Counters where
  afterRows : Int
  inserted : List Int
  assigned : List Int
  generated : List Int
  deriving DecidableEq, Repr

/-- `advance_auto_increment_after_insert_row`. -/
def advanceAutoIncrementAfterInsertRow (session : Session) (positiveMax : Nat)
    (row : PlannedRow) (afterRows : Int) : Option Int :=
  match row.value with
  | .integer value =>
    if value ≤ 0 then some afterRows
    else if row.generated then nextAutoIncrementAfterGeneratedValue session positiveMax value
    else nextAutoIncrementAfterExplicitInsertValue positiveMax afterRows value
  | _ => some afterRows

/-- `advance_auto_increment_after_duplicate_attempt`. -/
def advanceAutoIncrementAfterDuplicateAttempt (session : Session) (positiveMax : Nat)
    (row : PlannedRow) (afterRows : Int) : Option Int :=
  if !row.generated then some afterRows
  else advanceAutoIncrementAfterInsertRow session positiveMax row afterRows

/-- `advance_auto_increment_after_ignored_duplicate`. -/
def advanceAutoIncrementAfterIgnoredDuplicate (session : Session) (positiveMax : Nat)
    (row : PlannedRow) (afterRows : Int) : Option Int :=
  if row.generated then some afterRows
  else advanceAutoIncrementAfterInsertRow session positiveMax row afterRows

/-- `execute_insert_plan_row_with_retries`, for what it does to the counters. -/
def executeInsertPlanRow (session : Session) (positiveMax : Nat) (counters : Counters)
    (row : PlannedRow) : RowOutcome → Option Counters
  | .inserted =>
    (advanceAutoIncrementAfterInsertRow session positiveMax row counters.afterRows).map fun next =>
      { counters with
        afterRows := next
        inserted := counters.inserted ++ row.value.stored
        generated := counters.generated ++ if row.generated then row.value.stored else [] }
  | .duplicateUpdated assigned =>
    (advanceAutoIncrementAfterDuplicateAttempt session positiveMax row counters.afterRows).map
      fun next => { counters with
        afterRows := next
        assigned := counters.assigned ++ if assigned then row.value.stored else [] }
  | .ignoredDuplicate =>
    (advanceAutoIncrementAfterIgnoredDuplicate session positiveMax row counters.afterRows).map
      fun next => { counters with afterRows := next }
  | .skipped => some counters
  | .failed => none

def executeInsertPlanRows (session : Session) (positiveMax : Nat) :
    Counters → List (PlannedRow × RowOutcome) → Option Counters
  | counters, [] => some counters
  | counters, (row, outcome) :: rest =>
    (executeInsertPlanRow session positiveMax counters row outcome).bind fun next =>
      executeInsertPlanRows session positiveMax next rest

/-- `execute_insert_select_insert`: a row is planned from the counter as it stands
when its turn comes. -/
def executeInsertSelectRows (session : Session) (positiveMax : Nat) (noAutoValueOnZero : Bool) :
    Counters → List (PlannedValue × RowOutcome) → Option Counters
  | counters, [] => some counters
  | counters, (value, outcome) :: rest =>
    (planInsertAutoIncrementRowValue session positiveMax counters.afterRows
      (markRow noAutoValueOnZero value)).bind fun planned =>
    (executeInsertPlanRow session positiveMax counters planned.2 outcome).bind fun next =>
      executeInsertSelectRows session positiveMax noAutoValueOnZero next rest

/-! Statements. -/

/-- The counter as it is stored, and the session of every connection. -/
structure State where
  stored : Int
  sessions : Nat → Session

inductive InsertForm where
  | values
  | select
  deriving DecidableEq, Repr

/-- `descriptorNext` is the counter of the plan. It may be out of date: a prepared INSERT
keeps its plan, and only a base table's counter is read again under the write lock.
`commits` is false where something after the rows fails. -/
structure InsertStatement where
  form : InsertForm
  descriptorNext : Int
  noAutoValueOnZero : Bool
  rows : List (PlannedValue × RowOutcome)
  commits : Bool
  deriving DecidableEq, Repr

inductive Command where
  | setInsertId (value : Nat)
  | setAutoIncrementIncrement (value : Int)
  | setAutoIncrementOffset (value : Int)
  | insert (statement : InsertStatement)
  deriving DecidableEq, Repr

structure Event where
  connection : Nat
  command : Command
  deriving DecidableEq, Repr

/-- What a successful INSERT did. -/
structure Report where
  before : Int
  after : Int
  inserted : List Int
  assigned : List Int
  generated : List Int
  deriving DecidableEq, Repr

/-- A connection that holds the write lock on the table. -/
def State.locked (state : State) (table : AutoIncrementTable) (session : Session) :
    Connection Unit :=
  let contents : Contents Unit := {
    rows := ()
    autoIncrementNext := fun tableId =>
      if tableId = table.tableId then some state.stored else none }
  { session := session
    sqlite := { data := contents, transaction := some ⟨contents, true, []⟩ }
    transactionStateUncertain := false
    writerStablePlanningTransactionActive := false }

/-- The rows between the plan and the end of the statement: the counter they start
from and what they leave. -/
def executeRows (table : AutoIncrementTable) (state : State) (session : Session)
    (statement : InsertStatement) : Option (Int × Counters) :=
  let current := fun plannedNext =>
    readCurrentAutoIncrementNextAfterWriteLock (state.locked table session) table.tableId
      plannedNext true
  (initializeInsertAutoIncrementPlan session statement.descriptorNext).bind fun plannedNext =>
  match statement.form with
  | .values =>
    (planInsertAutoIncrementValues session table.positiveMax statement.noAutoValueOnZero
      plannedNext (statement.rows.map Prod.fst)).bind fun planned =>
    (current plannedNext).bind fun next =>
    -- `rebase_insert_auto_increment_after_write_lock`
    (planRows session table.positiveMax next planned).bind fun rebased =>
    (executeInsertPlanRows session table.positiveMax ⟨next, [], [], []⟩
      (rebased.2.zip (statement.rows.map Prod.snd))).map fun counters => (next, counters)
  | .select =>
    (current plannedNext).bind fun next =>
    (executeInsertSelectRows session table.positiveMax statement.noAutoValueOnZero
      ⟨next, [], [], []⟩ statement.rows).map fun counters => (next, counters)

def State.withSession (state : State) (connection : Nat) (session : Session) : State :=
  { state with sessions := Function.update state.sessions connection session }

/-- `execute_insert_from_plan`, and `execute_insert_select_table`. -/
def executeInsert (table : AutoIncrementTable) (state : State) (connection : Nat)
    (statement : InsertStatement) : State × Option Report :=
  let session := ensurePersistentAutoIncrementHighWaterSlot table.tableId
    (state.sessions connection)
  match executeRows table state session statement with
  | none => (state.withSession connection session, none)
  | some (next, counters) =>
    if !statement.commits then (state.withSession connection session, none)
    else
      let after := if counters.afterRows ≠ next then counters.afterRows else state.stored
      let recorded :=
        if counters.afterRows ≠ next then
          recordPersistentAutoIncrementHighWater table.tableId counters.afterRows session
        else session
      let finished := if counters.generated ≠ [] then { recorded with insertId := 0 } else recorded
      ({ state with stored := after }.withSession connection finished, some {
        before := state.stored
        after := after
        inserted := counters.inserted
        assigned := counters.assigned
        generated := counters.generated })

def step (table : AutoIncrementTable) (state : State) (event : Event) : State × Option Report :=
  let session := state.sessions event.connection
  match event.command with
  | .setInsertId value =>
    (state.withSession event.connection { session with insertId := value }, none)
  | .setAutoIncrementIncrement value =>
    (state.withSession event.connection
      { session with autoIncrementIncrement := autoIncrementStepValue value }, none)
  | .setAutoIncrementOffset value =>
    (state.withSession event.connection
      { session with autoIncrementOffset := autoIncrementStepValue value }, none)
  | .insert statement => executeInsert table state event.connection statement

/-- What the successful INSERT statements of a run did, in order. -/
def reports (table : AutoIncrementTable) (state : State) (events : List Event) : List Report :=
  (Machine.run (step table) state events).filterMap id

end MyLite.InsertCounter
