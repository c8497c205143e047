import MyLite.Session.Transactions

/-! Statement transactions, the statements that run in them and the counters they
advance. -/

namespace MyLite.Transactions

inductive TransactionKind where
  | none
  | savepoint
  | direct
  deriving DecidableEq, Repr

/-- `struct mylite_statement_transaction`. -/
structure StatementTransaction where
  kind : TransactionKind
  active : Bool
  deriving DecidableEq, Repr

def noTransaction : StatementTransaction := { kind := .none, active := false }

def savepointTransaction : StatementTransaction := { kind := .savepoint, active := true }

def directTransaction : StatementTransaction := { kind := .direct, active := true }

variable {Rows : Type}

/-- A connection with its statement transaction, and whether all went well. -/
structure Progress (Rows : Type) where
  connection : Connection Rows
  transaction : StatementTransaction
  ok : Bool

/-- What both completions do once SQLite is back in autocommit mode. -/
def abandonUserTransaction (session : Session) : Session :=
  { session with
    userTransactionActive := false
    activeTransactionReadOnly := false
    activeTransactionIsolation := .repeatableRead }

/-- The emergency rollback of a completion that failed, and the mark that makes the
connection unusable. -/
def completionFailed (answers : Answers) (site : Site) (connection : Connection Rows)
    (transaction : StatementTransaction) : Progress Rows :=
  let rolledBack :=
    if connection.sqlite.isOpen then (call answers site .rollback connection).1 else connection
  let marked := { rolledBack with transactionStateUncertain := true }
  if rolledBack.sqlite.isOpen then { connection := marked, transaction := transaction, ok := false }
  else
    { connection := marked.withSession abandonUserTransaction
      transaction := noTransaction
      ok := false }

def completionControl (answers : Answers) (kind : TransactionKind) (connection : Connection Rows) :
    Result Rows :=
  match kind with
  | .savepoint => call answers .statementRelease (.release .statement) connection
  | _ => call answers .statementCommit .commit connection

def cleanupControl (answers : Answers) (kind : TransactionKind) (connection : Connection Rows) :
    Result Rows :=
  match kind with
  | .savepoint =>
    (call answers .statementRollbackTo (.rollbackTo .statement) connection).andThen
      (call answers .cleanupRelease (.release .statement))
  | _ => call answers .statementRollback .rollback connection

/-- `mylite_execution_commit_statement_transaction`. -/
def commitStatementTransaction (answers : Answers) (connection : Connection Rows)
    (transaction : StatementTransaction) : Progress Rows :=
  if !transaction.active then { connection := connection, transaction := transaction, ok := true }
  else
    let result := completionControl answers transaction.kind connection
    if result.2 then { connection := result.1, transaction := noTransaction, ok := true }
    else completionFailed answers .completionRollback result.1 transaction

/-- `mylite_execution_rollback_statement_transaction` for a statement that failed. -/
def rollbackStatementTransaction (answers : Answers) (connection : Connection Rows)
    (transaction : StatementTransaction) : Progress Rows :=
  if !transaction.active then { connection := connection, transaction := transaction, ok := false }
  else
    let result := cleanupControl answers transaction.kind connection
    if result.2 then { connection := result.1, transaction := noTransaction, ok := false }
    else completionFailed answers .cleanupRollback result.1 transaction

def began (transaction : StatementTransaction) (result : Result Rows) : Progress Rows :=
  { connection := result.1
    transaction := if result.2 then transaction else noTransaction
    ok := result.2 }

/-- The catalog snapshot is synchronized once the transaction is open; when that
fails, the transaction is left to its rollback. -/
def synchronized (answers : Answers) (progress : Progress Rows) : Progress Rows :=
  { progress with ok := progress.ok && answers .synchronize = .ok }

/-- `mylite_execution_begin_statement_transaction`. -/
def beginStatementTransaction (answers : Answers) (connection : Connection Rows) : Progress Rows :=
  if connection.session.userTransactionActive ||
      connection.writerStablePlanningTransactionActive then
    began savepointTransaction
      (call answers .statementSavepoint (.savepoint .statement) connection)
  else if !connection.session.autocommitEnabled then
    began savepointTransaction ((beginAutocommitDisabledTransaction answers connection).andThen
      (call answers .statementSavepoint (.savepoint .statement)))
  else
    let progress := synchronized answers
      (began directTransaction (call answers .statementBegin .begin connection))
    -- A plan made for another catalog generation is given up.
    if progress.ok && answers .replan ≠ .ok then
      rollbackStatementTransaction answers progress.connection progress.transaction
    else progress

/-- `mylite_execution_begin_read_statement_transaction`. -/
def beginReadStatementTransaction (answers : Answers) (connection : Connection Rows) :
    Progress Rows :=
  if connection.session.userTransactionActive || connection.sqlite.isOpen then
    synchronized answers (began noTransaction (connection, true))
  else if !connection.session.autocommitEnabled then
    synchronized answers (began noTransaction (beginAutocommitDisabledTransaction answers connection))
  else synchronized answers
    (began directTransaction (call answers .statementBegin .begin connection))

/-- `mylite_execution_begin_prepare_transaction`. -/
def beginPrepareTransaction (answers : Answers) (connection : Connection Rows) : Progress Rows :=
  if connection.sqlite.isOpen then synchronized answers (began noTransaction (connection, true))
  else synchronized answers
    (began directTransaction (call answers .statementBegin .begin connection))

/-- `mylite_execution_begin_writer_stable_planning_transaction`. -/
def beginWriterStablePlanningTransaction (answers : Answers) (connection : Connection Rows) :
    Progress Rows :=
  let progress := synchronized answers
    (began directTransaction (call answers .statementBegin .begin connection))
  if progress.ok then
    { progress with connection :=
        { progress.connection with writerStablePlanningTransactionActive := true } }
  else rollbackStatementTransaction answers progress.connection progress.transaction

/-- How every caller ends a statement transaction. -/
def finishStatementTransaction (answers : Answers) (progress : Progress Rows) : Result Rows :=
  let committed :=
    if progress.ok then commitStatementTransaction answers progress.connection progress.transaction
    else progress
  if committed.ok then (committed.connection, true)
  else
    ((rollbackStatementTransaction answers committed.connection committed.transaction).connection,
      false)

/-! The counter of an AUTO_INCREMENT table. -/

/-- `generated_auto_increment_value_for_lower_bound`. -/
def generatedAutoIncrementValueForLowerBound (session : Session) (lowerBound : Int) : Option Int :=
  let increment := session.autoIncrementIncrement
  let offset := session.autoIncrementOffset
  if lowerBound ≤ 0 || offset > increment then none
  else
    let lower := lowerBound.toNat
    let candidate :=
      if lower ≤ offset then offset
      else
        let delta := lower - offset
        let steps := delta / increment + (if delta % increment ≠ 0 then 1 else 0)
        offset + steps * increment
    if candidate > 9223372036854775807 then none else some candidate

/-- `next_auto_increment_after_generated_value`. -/
def nextAutoIncrementAfterGeneratedValue (session : Session) (positiveMax : Nat) (value : Int) :
    Option Int :=
  if value ≤ 0 || value.toNat > positiveMax then none
  else if value.toNat = positiveMax then some value
  else if positiveMax - value.toNat < session.autoIncrementIncrement then
    if positiveMax > 9223372036854775807 then none else some positiveMax
  else some (value + session.autoIncrementIncrement)

/-- `next_auto_increment_after_explicit_insert_value`. -/
def nextAutoIncrementAfterExplicitInsertValue (positiveMax : Nat) (currentNext value : Int) :
    Option Int :=
  if currentNext ≤ 0 || value ≤ 0 then none
  else if value < currentNext then some currentNext
  else if value.toNat > positiveMax then none
  else if value.toNat = positiveMax then some value
  else some (value + 1)

/-- `next_auto_increment_after_update_value`. -/
def nextAutoIncrementAfterUpdateValue (session : Session) (positiveMax : Nat)
    (currentNext value : Int) : Option Int :=
  if currentNext ≤ 0 || value ≤ 0 then none
  else if value < currentNext then some currentNext
  else if value.toNat > positiveMax then none
  else if value.toNat = positiveMax then some value
  else generatedAutoIncrementValueForLowerBound session (value + 1)

/-- The AUTO_INCREMENT value of a row; one that is not positive advances nothing. -/
inductive RowValue where
  | generated
  | explicit (value : Int)
  deriving DecidableEq, Repr

/-- The next value after the planned rows, and after the rows that were stored. -/
structure InsertCounter where
  planned : Int
  afterRows : Int
  deriving DecidableEq, Repr

/-- One row of an INSERT; `stored` says whether it moves the counter. -/
def advanceInsertCounter (session : Session) (positiveMax : Nat) (counter : InsertCounter)
    (row : RowValue × Bool) : Option InsertCounter :=
  match row.1 with
  | .generated =>
    (generatedAutoIncrementValueForLowerBound session counter.planned).bind fun value =>
    (nextAutoIncrementAfterGeneratedValue session positiveMax value).map fun next =>
      { planned := next, afterRows := if row.2 then next else counter.afterRows }
  | .explicit value =>
    if value ≤ 0 then some counter
    else
      (nextAutoIncrementAfterExplicitInsertValue positiveMax counter.planned value).bind fun next =>
      (nextAutoIncrementAfterExplicitInsertValue positiveMax counter.afterRows value).map
        fun after => { planned := next, afterRows := if row.2 then after else counter.afterRows }

inductive CounterChange where
  | insert (rows : List (RowValue × Bool))
  | update (value : Int)
  deriving DecidableEq, Repr

/-- What a statement does to the counter of its table; `plannedNext` is what the
plan read of it. -/
structure CounterWork where
  tableId : Int
  positiveMax : Nat
  plannedNext : Int
  change : CounterChange
  deriving DecidableEq, Repr

def CounterWork.usesSessionInsertId (work : CounterWork) : Bool :=
  match work.change with
  | .insert _ => true
  | .update _ => false

def CounterWork.planned (work : CounterWork) (session : Session) : Int :=
  if work.usesSessionInsertId && session.insertId ≠ 0 then session.insertId else work.plannedNext

/-- The value the statement leaves, from the value it read under the write lock. -/
def CounterWork.next (work : CounterWork) (session : Session) (current : Int) : Option Int :=
  match work.change with
  | .insert rows =>
    (rows.foldlM (advanceInsertCounter session work.positiveMax)
      { planned := current, afterRows := current }).map InsertCounter.afterRows
  | .update value =>
    if value ≤ 0 then some current
    else nextAutoIncrementAfterUpdateValue session work.positiveMax current value

structure Work (Rows : Type) where
  rows : Rows → Rows
  counter : Option CounterWork

/-- `mylite_catalog_update_table_auto_increment_next`. -/
def updateTableAutoIncrementNext (tableId next : Int) (contents : Contents Rows) :
    Option (Contents Rows) :=
  if tableId ≤ 0 || next ≤ 0 || (contents.autoIncrementNext tableId).isNone then none
  else some { contents with autoIncrementNext := fun other =>
    if other = tableId then some next else contents.autoIncrementNext other }

/-- The counter in the transaction of the statement: the contents with it, and the
value to record. -/
def advanceCounter (connection : Connection Rows) (work : CounterWork) :
    Option (Contents Rows × Option Int) :=
  (readCurrentAutoIncrementNextAfterWriteLock connection work.tableId
      (work.planned connection.session) work.usesSessionInsertId).bind fun current =>
  (work.next connection.session current).bind fun next =>
    if next = current then some (connection.sqlite.data, none)
    else (updateTableAutoIncrementNext work.tableId next connection.sqlite.data).map
      fun contents => (contents, some next)

/-- The statement between the begin and the end of its transaction. -/
def executeBody (answers : Answers) (work : Work Rows) (connection : Connection Rows) :
    Result Rows × Option Int :=
  let counted := match work.counter with
    | none => some (connection.sqlite.data, none)
    | some counter => advanceCounter connection counter
  match counted with
  | none => ((connection, false), none)
  | some (contents, recorded) =>
    let changed := { contents with rows := work.rows contents.rows }
    (({ connection with sqlite := connection.sqlite.write fun _ => changed },
      answers .body = .ok), recorded)

/-- Whether an INSERT stored a row with a generated value. -/
def CounterWork.storesGenerated (work : CounterWork) : Bool :=
  match work.change with
  | .insert rows => rows.any fun row => row.1 = .generated && row.2
  | .update _ => false

/-- What is left to do once the transaction of the statement is committed. -/
def recordCounter (counter : Option CounterWork) (recorded : Option Int) (session : Session) :
    Session :=
  match counter with
  | none => session
  | some work =>
    let session := match recorded with
      | none => session
      | some next => recordPersistentAutoIncrementHighWater work.tableId next session
    if work.storesGenerated then { session with insertId := 0 } else session

def reserveCounter (counter : Option CounterWork) (session : Session) : Session :=
  match counter with
  | none => session
  | some work => ensurePersistentAutoIncrementHighWaterSlot work.tableId session

/-- The body of a statement and the end of its transaction. -/
def executeBegun (work : Work Rows) (answers : Answers) (begun : Progress Rows) :
    Result Rows × Option Int :=
  let executed :=
    if begun.ok then executeBody answers work begun.connection
    else ((begun.connection, false), none)
  (finishStatementTransaction answers
    { connection := executed.1.1, transaction := begun.transaction, ok := executed.1.2 },
    executed.2)

/-- A statement that writes: INSERT, UPDATE, DELETE and their like. -/
def executeWrite (work : Work Rows) (answers : Answers) (connection : Connection Rows) :
    Result Rows × Option Int :=
  let reserved := connection.withSession (reserveCounter work.counter)
  let finished := executeBegun work answers (beginStatementTransaction answers reserved)
  if finished.1.2 then
    ((finished.1.1.withSession (recordCounter work.counter finished.2), true), finished.2)
  else (finished.1, none)

/-- A statement that only reads, in the transaction its begin gives it. -/
def executeRead (begin : Answers → Connection Rows → Progress Rows) (answers : Answers)
    (connection : Connection Rows) : Result Rows :=
  let begun := begin answers connection
  finishStatementTransaction answers { begun with ok := begun.ok && answers .body = .ok }

/-- A statement planned under the write lock, `execute_parsed_statement`: the
planning transaction is around the one of the statement. A failed commit of it is
not followed by a rollback. -/
def executePlanned (work : Work Rows) (commitsImplicitly : Bool) (inner answers : Answers)
    (connection : Connection Rows) : Result Rows × Option Int :=
  if connection.session.userTransactionActive then executeWrite work inner connection
  else if !connection.session.autocommitEnabled && !commitsImplicitly then
    let begun := beginAutocommitDisabledTransaction answers connection
    if begun.2 && answers .synchronize = .ok then executeWrite work inner begun.1
    else ((begun.1, false), none)
  else
    let begun := beginWriterStablePlanningTransaction answers connection
    if !begun.ok then ((begun.connection, false), none)
    else
      let executed := executeWrite work inner begun.connection
      let planned := { executed.1.1 with writerStablePlanningTransactionActive := false }
      if executed.1.2 && answers .body = .ok then
        let committed := commitStatementTransaction answers planned begun.transaction
        ((committed.connection, committed.ok), if committed.ok then executed.2 else none)
      else
        let rolledBack := rollbackStatementTransaction answers planned begun.transaction
        ((rolledBack.connection, false), none)

/-- `parse_set_auto_increment_step_value` of an integer: a value out of range is cut
off with a warning. -/
def autoIncrementStepValue (value : Int) : Nat :=
  if value ≤ 0 then 1 else if value > 65535 then 65535 else value.toNat

theorem autoIncrementStepValue_pos (value : Int) : 0 < autoIncrementStepValue value := by
  unfold autoIncrementStepValue
  split
  · exact Nat.one_pos
  · split <;> omega

inductive Statement (Rows : Type) where
  | startTransaction (readOnly : Option Bool) (isolation : Option Isolation)
  | commit (chain : Bool)
  | rollback (chain : Bool)
  | implicitCommit
  | savepoint (name : List UInt8)
  | rollbackToSavepoint (name : List UInt8)
  | releaseSavepoint (name : List UInt8)
  | setAutocommit (value : Bool)
  | setInsertId (value : Nat)
  | setAutoIncrementIncrement (value : Int)
  | setAutoIncrementOffset (value : Int)
  | write (work : Work Rows)
  | planned (work : Work Rows) (commitsImplicitly : Bool) (inner : Answers)
  | read
  | prepare

def executeStatement (answers : Answers) (connection : Connection Rows) :
    Statement Rows → Result Rows × Option Int
  | .startTransaction readOnly isolation =>
    (executeStartTransactionStatement readOnly isolation answers connection, none)
  | .commit chain => (executeCommitStatement chain answers connection, none)
  | .rollback chain => (executeRollbackStatement chain answers connection, none)
  | .implicitCommit => (commitActiveUserTransaction answers connection, none)
  | .savepoint name => (executeSavepointStatement name answers connection, none)
  | .rollbackToSavepoint name =>
    (executeRollbackToSavepointStatement name answers connection, none)
  | .releaseSavepoint name => (executeReleaseSavepointStatement name answers connection, none)
  | .setAutocommit value => (applySetAutocommit value answers connection, none)
  | .setInsertId value =>
    ((connection.withSession fun session => { session with insertId := value }, true), none)
  | .setAutoIncrementIncrement value =>
    ((connection.withSession fun session =>
      { session with autoIncrementIncrement := autoIncrementStepValue value }, true), none)
  | .setAutoIncrementOffset value =>
    ((connection.withSession fun session =>
      { session with autoIncrementOffset := autoIncrementStepValue value }, true), none)
  | .write work => executeWrite work answers connection
  | .planned work commitsImplicitly inner =>
    executePlanned work commitsImplicitly inner answers connection
  | .read => (executeRead beginReadStatementTransaction answers connection, none)
  | .prepare => (executeRead beginPrepareTransaction answers connection, none)

/-- A statement with the answers it gets. -/
structure Event (Rows : Type) where
  statement : Statement Rows
  answers : Answers

/-- `reject_poisoned_connection` comes before every statement. -/
def execute (connection : Connection Rows) (event : Event Rows) : Result Rows × Option Int :=
  if connection.transactionStateUncertain then ((connection, false), none)
  else executeStatement event.answers connection event.statement

/-- A session that has just been opened, with any settings that SET accepts. -/
structure Opened (connection : Connection Rows) : Prop where
  noTransaction : connection.session.userTransactionActive = false
  notReadOnly : connection.session.activeTransactionReadOnly = false
  noSavepoints : connection.session.savepoints = []
  noHighWaters : connection.session.autoIncrementHighWaters = []
  certain : connection.transactionStateUncertain = false
  notPlanning : connection.writerStablePlanningTransactionActive = false
  closed : connection.sqlite.transaction = none
  positiveIncrement : 0 < connection.session.autoIncrementIncrement

/-- The transaction state that `initialize_session_state` gives. -/
def initialSession (connectionId : Nat) : Session where
  connectionId := connectionId
  userTransactionActive := false
  activeTransactionReadOnly := false
  activeTransactionIsolation := .repeatableRead
  autocommitEnabled := true
  nextTransactionReadOnly := none
  nextTransactionIsolation := none
  sessionTransactionReadOnly := false
  sessionTransactionIsolation := .repeatableRead
  savepoints := []
  nextSavepointId := 1
  autoIncrementHighWaters := []
  insertId := 0
  autoIncrementIncrement := 1
  autoIncrementOffset := 1

def initialConnection (contents : Contents Rows) : Connection Rows where
  session := initialSession 1
  sqlite := { data := contents, transaction := none }
  transactionStateUncertain := false
  writerStablePlanningTransactionActive := false

theorem initialConnection_opened (contents : Contents Rows) :
    Opened (initialConnection contents) :=
  ⟨rfl, rfl, rfl, rfl, rfl, rfl, rfl, Nat.one_pos⟩

end MyLite.Transactions
