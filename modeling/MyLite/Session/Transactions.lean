import MyLite.Library.Snapshots

/-! The transaction state of a session and the statements that move it. SQLite is
a store with savepoints; how it answers each control call is part of a statement. -/

namespace MyLite.Transactions

open Snapshots (Store)

/-- `_mylite_statement`, and `_mylite_user_savepoint_<connection>_<id>`. -/
inductive SqliteName where
  | statement
  | user (connection id : Nat)
  deriving DecidableEq, Repr

/-- What SQLite holds: the rows and the catalog column `auto_increment_next`, where
the table has a row there. -/
structure Contents (Rows : Type) where
  rows : Rows
  autoIncrementNext : Int → Option Int

inductive Outcome where
  | ok
  | failed
  /-- A COMMIT that fails and leaves the transaction rolled back. -/
  | rolledBack
  deriving DecidableEq, Repr

inductive Control where
  | begin
  | commit
  | rollback
  | savepoint (name : SqliteName)
  | release (name : SqliteName)
  | rollbackTo (name : SqliteName)
  deriving DecidableEq, Repr

section Sqlite

variable {Data : Type}

def Control.apply (store : Store SqliteName Data) : Control → Option (Store SqliteName Data)
  | .begin => store.begin
  | .commit => store.commit
  | .rollback => store.rollback
  | .savepoint name => some (store.savepoint name)
  | .release name => store.release name
  | .rollbackTo name => store.rollbackTo name

/-- `execute_sqlite_control_sql`. -/
def executeControl (answer : Outcome) (command : Control) (store : Store SqliteName Data) :
    Store SqliteName Data × Bool :=
  match answer with
  | .ok => ((command.apply store).map (·, true)).getD (store, false)
  | .failed => (store, false)
  | .rolledBack =>
    if command = .commit then (store.rollback.getD store, false) else (store, false)

end Sqlite

inductive Isolation where
  | repeatableRead
  | readCommitted
  | readUncommitted
  | serializable
  deriving DecidableEq, Repr

structure Savepoint where
  name : List UInt8
  foldedName : List UInt8
  sqliteName : SqliteName
  deriving DecidableEq, Repr

structure HighWater where
  tableId : Int
  nextValue : Int
  deriving DecidableEq, Repr

structure Session where
  connectionId : Nat
  userTransactionActive : Bool
  activeTransactionReadOnly : Bool
  activeTransactionIsolation : Isolation
  autocommitEnabled : Bool
  nextTransactionReadOnly : Option Bool
  nextTransactionIsolation : Option Isolation
  sessionTransactionReadOnly : Bool
  sessionTransactionIsolation : Isolation
  savepoints : List Savepoint
  nextSavepointId : Nat
  autoIncrementHighWaters : List HighWater
  insertId : Nat
  autoIncrementIncrement : Nat
  autoIncrementOffset : Nat
  deriving DecidableEq, Repr

structure Connection (Rows : Type) where
  session : Session
  sqlite : Store SqliteName (Contents Rows)
  transactionStateUncertain : Bool
  writerStablePlanningTransactionActive : Bool

/-- The calls of a statement that can fail, each made at most once. -/
inductive Site where
  | begin
  | commit
  | rollback
  | reconcileBegin
  | applyHighWaters
  | reconcileCommit
  | reconcileRollback
  | temporaryTables
  | savepoint
  | rollbackTo
  | release
  | statementSavepoint
  | statementBegin
  | synchronize
  | replan
  | body
  | statementRelease
  | statementCommit
  | completionRollback
  | statementRollbackTo
  | cleanupRelease
  | statementRollback
  | cleanupRollback
  deriving DecidableEq, Repr

def Answers := Site → Outcome

def allOk : Answers := fun _ => .ok

variable {Rows : Type}

def Connection.withSession (connection : Connection Rows) (change : Session → Session) :
    Connection Rows :=
  { connection with session := change connection.session }

/-- A connection and whether the return code was MYLITE_OK. -/
abbrev Result (Rows : Type) := Connection Rows × Bool

def Result.andThen (result : Result Rows) (next : Connection Rows → Result Rows) : Result Rows :=
  if result.2 then next result.1 else (result.1, false)

def call (answers : Answers) (site : Site) (command : Control) (connection : Connection Rows) :
    Result Rows :=
  let result := executeControl (answers site) command connection.sqlite
  ({ connection with sqlite := result.1 }, result.2)

/-! Auto-increment high waters. -/

def hasPersistentAutoIncrementHighWaterUpdates (session : Session) : Bool :=
  session.autoIncrementHighWaters.any fun highWater =>
    0 < highWater.tableId && 0 < highWater.nextValue

/-- `UPDATE … SET auto_increment_next = ?1 WHERE table_id = ?2 AND
auto_increment_next < ?1`. -/
def applyPersistentAutoIncrementHighWater (contents : Contents Rows) (highWater : HighWater) :
    Contents Rows :=
  if highWater.tableId ≤ 0 || highWater.nextValue ≤ 0 then contents
  else { contents with autoIncrementNext := fun tableId =>
    if tableId = highWater.tableId then
      (contents.autoIncrementNext tableId).map fun next =>
        if next < highWater.nextValue then highWater.nextValue else next
    else contents.autoIncrementNext tableId }

def applyPersistentAutoIncrementHighWaters (highWaters : List HighWater)
    (contents : Contents Rows) : Contents Rows :=
  highWaters.foldl applyPersistentAutoIncrementHighWater contents

def applyHighWaters (answers : Answers) (connection : Connection Rows) : Result Rows :=
  let highWaters := connection.session.autoIncrementHighWaters
  let written := connection.sqlite.write (applyPersistentAutoIncrementHighWaters highWaters)
  if answers .applyHighWaters = .ok then ({ connection with sqlite := written }, true)
  else (connection, false)

/-- `reconcile_persistent_auto_increment_high_waters`: in the open transaction, or
in one of its own. -/
def reconcilePersistentAutoIncrementHighWaters (answers : Answers)
    (connection : Connection Rows) : Result Rows :=
  if !hasPersistentAutoIncrementHighWaterUpdates connection.session then (connection, true)
  else if connection.session.userTransactionActive || connection.sqlite.isOpen then
    applyHighWaters answers connection
  else
    (call answers .reconcileBegin .begin connection).andThen fun started =>
      let reconciled := (applyHighWaters answers started).andThen
        (call answers .reconcileCommit .commit)
      if reconciled.2 then reconciled
      else ((call answers .reconcileRollback .rollback reconciled.1).1, false)

def clearPersistentAutoIncrementHighWaters (session : Session) : Session :=
  { session with autoIncrementHighWaters := [] }

def ensurePersistentAutoIncrementHighWaterSlot (tableId : Int) (session : Session) : Session :=
  if !session.userTransactionActive || tableId ≤ 0 then session
  else if session.autoIncrementHighWaters.any fun highWater => highWater.tableId = tableId then
    session
  else { session with
    autoIncrementHighWaters := session.autoIncrementHighWaters ++ [⟨tableId, 0⟩] }

/-- The first entry of the table takes the value when `replace` says so. -/
def setHighWater (tableId nextValue : Int) (replace : Int → Bool) :
    List HighWater → List HighWater
  | [] => []
  | highWater :: rest =>
    if highWater.tableId = tableId then
      (if replace highWater.nextValue then ⟨tableId, nextValue⟩ else highWater) :: rest
    else highWater :: setHighWater tableId nextValue replace rest

def recordPersistentAutoIncrementHighWater (tableId nextValue : Int) (session : Session) :
    Session :=
  if !session.userTransactionActive || tableId ≤ 0 || nextValue ≤ 0 then session
  else if session.autoIncrementHighWaters.any fun highWater => highWater.tableId = tableId then
    { session with autoIncrementHighWaters :=
        setHighWater tableId nextValue (· < nextValue) session.autoIncrementHighWaters }
  else
    let reserved := ensurePersistentAutoIncrementHighWaterSlot tableId session
    { reserved with autoIncrementHighWaters :=
        setHighWater tableId nextValue (fun _ => true) reserved.autoIncrementHighWaters }

/-- `read_current_auto_increment_next_after_write_lock`; `none` is an error. -/
def readCurrentAutoIncrementNextAfterWriteLock (connection : Connection Rows) (tableId : Int)
    (plannedNext : Int) (useSessionInsertId : Bool) : Option Int :=
  if plannedNext ≤ 0 then none
  else if useSessionInsertId && connection.session.insertId ≠ 0 then some plannedNext
  else if tableId < 0 then some plannedNext
  else if !connection.sqlite.isOpen then none
  else
    (connection.sqlite.data.autoIncrementNext tableId).bind fun next =>
      let next := connection.session.autoIncrementHighWaters.foldl
        (fun next highWater =>
          if highWater.tableId = tableId && next < highWater.nextValue then highWater.nextValue
          else next) next
      if next ≤ 0 then none else some next

/-! The start and the end of a user transaction. -/

/-- `clear_active_transaction_characteristics` and `clear_user_savepoints` of a
transaction that is over. -/
def endUserTransaction (session : Session) : Session :=
  { session with
    userTransactionActive := false
    activeTransactionReadOnly := false
    activeTransactionIsolation := .repeatableRead
    savepoints := [] }

def startUserTransaction (readOnly : Bool) (isolation : Isolation) (session : Session) : Session :=
  { session with
    userTransactionActive := true
    activeTransactionReadOnly := readOnly
    activeTransactionIsolation := isolation
    nextTransactionReadOnly := none
    nextTransactionIsolation := none }

def currentTransactionReadOnly (session : Session) : Bool :=
  session.nextTransactionReadOnly.getD session.sessionTransactionReadOnly

def currentTransactionIsolation (session : Session) : Isolation :=
  session.nextTransactionIsolation.getD session.sessionTransactionIsolation

/-- `commit_active_user_transaction`, which START TRANSACTION and COMMIT repeat. -/
def commitActiveUserTransaction (answers : Answers) (connection : Connection Rows) : Result Rows :=
  if !connection.session.userTransactionActive then (connection, true)
  else
    ((reconcilePersistentAutoIncrementHighWaters answers connection).andThen
      (call answers .commit .commit)).andThen fun committed =>
        (committed.withSession fun session =>
          clearPersistentAutoIncrementHighWaters (endUserTransaction session), true)

/-- `begin_chained_transaction`, which START TRANSACTION repeats. -/
def beginUserTransaction (answers : Answers) (readOnly : Bool) (isolation : Isolation)
    (connection : Connection Rows) : Result Rows :=
  (call answers .begin .begin connection).andThen fun begun =>
    (begun.withSession (startUserTransaction readOnly isolation), true)

/-- `execute_start_transaction_statement_with_characteristics`. -/
def executeStartTransactionStatement (readOnly : Option Bool) (isolation : Option Isolation)
    (answers : Answers) (connection : Connection Rows) : Result Rows :=
  let effectiveIsolation := isolation.getD (currentTransactionIsolation connection.session)
  let effectiveReadOnly := readOnly.getD (currentTransactionReadOnly connection.session)
  (commitActiveUserTransaction answers connection).andThen
    (beginUserTransaction answers effectiveReadOnly effectiveIsolation)

/-- The characteristics that AND CHAIN hands on. -/
def chained (session : Session) : Bool × Isolation :=
  if session.userTransactionActive then
    (session.activeTransactionReadOnly, session.activeTransactionIsolation)
  else (currentTransactionReadOnly session, currentTransactionIsolation session)

def beginChained (chain : Bool) (answers : Answers) (characteristics : Bool × Isolation)
    (connection : Connection Rows) : Result Rows :=
  if chain then beginUserTransaction answers characteristics.1 characteristics.2 connection
  else (connection, true)

/-- `execute_commit_statement_with_chain`. -/
def executeCommitStatement (chain : Bool) (answers : Answers) (connection : Connection Rows) :
    Result Rows :=
  (commitActiveUserTransaction answers connection).andThen
    (beginChained chain answers (chained connection.session))

/-- The temporary tables and the high waters, after a ROLLBACK. -/
def reconcileAfterRollback (answers : Answers) (connection : Connection Rows) : Result Rows :=
  if answers .temporaryTables = .ok then
    (reconcilePersistentAutoIncrementHighWaters answers connection).andThen fun reconciled =>
      (reconciled.withSession clearPersistentAutoIncrementHighWaters, true)
  else (connection, false)

def rollbackActiveUserTransaction (answers : Answers) (connection : Connection Rows) :
    Result Rows :=
  if !connection.session.userTransactionActive then (connection, true)
  else
    (call answers .rollback .rollback connection).andThen fun rolledBack =>
      reconcileAfterRollback answers (rolledBack.withSession endUserTransaction)

/-- `execute_rollback_statement_with_chain`. -/
def executeRollbackStatement (chain : Bool) (answers : Answers) (connection : Connection Rows) :
    Result Rows :=
  (rollbackActiveUserTransaction answers connection).andThen
    (beginChained chain answers (chained connection.session))

/-- `mylite_execution_begin_autocommit_disabled_transaction`. -/
def beginAutocommitDisabledTransaction (answers : Answers) (connection : Connection Rows) :
    Result Rows :=
  if connection.session.userTransactionActive || connection.session.autocommitEnabled then
    (connection, true)
  else beginUserTransaction answers (currentTransactionReadOnly connection.session)
    (currentTransactionIsolation connection.session) connection

/-- `apply_set_autocommit_boolean_value`. -/
def applySetAutocommit (value : Bool) (answers : Answers) (connection : Connection Rows) :
    Result Rows :=
  (if value && !connection.session.autocommitEnabled then
    commitActiveUserTransaction answers connection
  else (connection, true)).andThen fun committed =>
    (committed.withSession fun session => { session with autocommitEnabled := value }, true)

/-! User savepoints. -/

def foldSavepointName (name : List UInt8) : List UInt8 :=
  name.map fun value => if 65 ≤ value ∧ value ≤ 90 then value + 32 else value

def findUserSavepoint (session : Session) (name : List UInt8) : Option Nat :=
  session.savepoints.findIdx? fun savepoint => savepoint.foldedName = foldSavepointName name

/-- `create_or_replace_user_savepoint`: the old savepoint of the name stays in SQLite. -/
def createOrReplaceUserSavepoint (name : List UInt8) (answers : Answers)
    (connection : Connection Rows) : Result Rows :=
  let session := connection.session
  if session.nextSavepointId = 18446744073709551615 then (connection, false)
  else
    let sqliteName := SqliteName.user session.connectionId session.nextSavepointId
    (call answers .savepoint (.savepoint sqliteName) connection).andThen fun set =>
      let kept := match findUserSavepoint session name with
        | none => session.savepoints
        | some existing => session.savepoints.eraseIdx existing
      (set.withSession fun session => { session with
        savepoints := kept ++ [⟨name, foldSavepointName name, sqliteName⟩]
        nextSavepointId := session.nextSavepointId + 1 }, true)

/-- `copy_savepoint_name` refuses what does not fit in 64 bytes with its NUL. -/
def executeSavepointStatement (name : List UInt8) (answers : Answers)
    (connection : Connection Rows) : Result Rows :=
  if name.length ≥ 64 then (connection, false)
  else if connection.session.userTransactionActive then
    createOrReplaceUserSavepoint name answers connection
  else if !connection.session.autocommitEnabled then
    (beginAutocommitDisabledTransaction answers connection).andThen
      (createOrReplaceUserSavepoint name answers)
  else (connection, true)

/-- The registered savepoint of a name, in an active transaction. -/
def registeredSavepoint (session : Session) (name : List UInt8) : Option (Nat × Savepoint) :=
  if name.length ≥ 64 || !session.userTransactionActive then none
  else (findUserSavepoint session name).bind fun index =>
    session.savepoints[index]?.map (index, ·)

/-- `rollback_to_user_savepoint`. -/
def executeRollbackToSavepointStatement (name : List UInt8) (answers : Answers)
    (connection : Connection Rows) : Result Rows :=
  match registeredSavepoint connection.session name with
  | none => (connection, false)
  | some (index, savepoint) =>
    (call answers .rollbackTo (.rollbackTo savepoint.sqliteName) connection).andThen fun restored =>
      (restored.withSession fun session => { session with
        savepoints := session.savepoints.take (index + 1) },
        answers .temporaryTables = .ok)

/-- `release_user_savepoint`. -/
def executeReleaseSavepointStatement (name : List UInt8) (answers : Answers)
    (connection : Connection Rows) : Result Rows :=
  match registeredSavepoint connection.session name with
  | none => (connection, false)
  | some (index, savepoint) =>
    (call answers .release (.release savepoint.sqliteName) connection).andThen fun released =>
      (released.withSession fun session => { session with
        savepoints := session.savepoints.take index }, true)

end MyLite.Transactions
