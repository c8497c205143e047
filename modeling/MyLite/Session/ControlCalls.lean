import MyLite.Session.Statements

/-! What each control call can do to a connection. -/

namespace MyLite.Transactions

open Snapshots (Store Transaction)

variable {Rows : Type} {answers : Answers} {site : Site} {connection : Connection Rows}

/-- A connection whose SQLite has other data or another transaction. -/
def Connection.withSqlite (connection : Connection Rows) (data : Contents Rows)
    (transaction : Option (Transaction SqliteName (Contents Rows))) : Connection Rows :=
  { connection with sqlite := { data := data, transaction := transaction } }

@[simp] theorem withSqlite_session (data : Contents Rows)
    (transaction : Option (Transaction SqliteName (Contents Rows))) :
    (connection.withSqlite data transaction).session = connection.session := rfl

@[simp] theorem withSqlite_uncertain (data : Contents Rows)
    (transaction : Option (Transaction SqliteName (Contents Rows))) :
    (connection.withSqlite data transaction).transactionStateUncertain =
      connection.transactionStateUncertain := rfl

@[simp] theorem withSqlite_planning (data : Contents Rows)
    (transaction : Option (Transaction SqliteName (Contents Rows))) :
    (connection.withSqlite data transaction).writerStablePlanningTransactionActive =
      connection.writerStablePlanningTransactionActive := rfl

@[simp] theorem withSqlite_data (data : Contents Rows)
    (transaction : Option (Transaction SqliteName (Contents Rows))) :
    (connection.withSqlite data transaction).sqlite.data = data := rfl

@[simp] theorem withSqlite_transaction (data : Contents Rows)
    (transaction : Option (Transaction SqliteName (Contents Rows))) :
    (connection.withSqlite data transaction).sqlite.transaction = transaction := rfl

@[simp] theorem withSession_session (change : Session → Session) :
    (connection.withSession change).session = change connection.session := rfl

@[simp] theorem withSession_sqlite (change : Session → Session) :
    (connection.withSession change).sqlite = connection.sqlite := rfl

@[simp] theorem withSession_uncertain (change : Session → Session) :
    (connection.withSession change).transactionStateUncertain =
      connection.transactionStateUncertain := rfl

@[simp] theorem withSession_planning (change : Session → Session) :
    (connection.withSession change).writerStablePlanningTransactionActive =
      connection.writerStablePlanningTransactionActive := rfl

theorem call_failed {command : Control} (answer : answers site ≠ .ok)
    (notCommit : command ≠ .commit) :
    call answers site command connection = (connection, false) := by
  unfold call executeControl
  cases given : answers site with
  | ok => exact absurd given answer
  | failed => rfl
  | rolledBack => rw [if_neg notCommit]

theorem call_begin (answers : Answers) (site : Site) (connection : Connection Rows) :
    (connection.sqlite.transaction = none ∧ answers site = .ok ∧
      call answers site .begin connection = (connection.withSqlite connection.sqlite.data
        (some ⟨connection.sqlite.data, true, []⟩), true)) ∨
    (call answers site .begin connection = (connection, false) ∧
      (connection.sqlite.transaction.isSome = true ∨ answers site ≠ .ok)) := by
  by_cases given : answers site = .ok
  · cases opened : connection.sqlite.transaction with
    | none =>
      refine Or.inl ⟨rfl, given, ?_⟩
      simp [call, executeControl, given, Control.apply, Store.begin, opened,
        Connection.withSqlite]
    | some transaction =>
      refine Or.inr ⟨?_, Or.inl rfl⟩
      simp [call, executeControl, given, Control.apply, Store.begin, opened]
  · exact Or.inr ⟨call_failed given (by decide), Or.inr given⟩

theorem call_commit (answers : Answers) (site : Site) (connection : Connection Rows) :
    (∃ transaction, connection.sqlite.transaction = some transaction ∧ answers site = .ok ∧
      call answers site .commit connection =
        (connection.withSqlite connection.sqlite.data none, true)) ∨
    (call answers site .commit connection = (connection, false) ∧
      (connection.sqlite.transaction = none ∨ answers site = .failed)) ∨
    (∃ transaction, connection.sqlite.transaction = some transaction ∧
      answers site = .rolledBack ∧
      call answers site .commit connection =
        (connection.withSqlite transaction.start none, false)) := by
  cases opened : connection.sqlite.transaction with
  | none =>
    refine Or.inr (Or.inl ⟨?_, Or.inl rfl⟩)
    cases given : answers site <;>
      simp [call, executeControl, given, Control.apply, Store.commit, Store.rollback, opened]
  | some transaction =>
    cases given : answers site with
    | ok =>
      refine Or.inl ⟨transaction, rfl, rfl, ?_⟩
      simp [call, executeControl, given, Control.apply, Store.commit, opened,
        Connection.withSqlite]
    | failed =>
      refine Or.inr (Or.inl ⟨?_, Or.inr rfl⟩)
      simp [call, executeControl, given]
    | rolledBack =>
      refine Or.inr (Or.inr ⟨transaction, rfl, rfl, ?_⟩)
      simp [call, executeControl, given, Store.rollback, opened, Connection.withSqlite]

theorem call_rollback (answers : Answers) (site : Site) (connection : Connection Rows) :
    (∃ transaction, connection.sqlite.transaction = some transaction ∧ answers site = .ok ∧
      call answers site .rollback connection =
        (connection.withSqlite transaction.start none, true)) ∨
    (call answers site .rollback connection = (connection, false) ∧
      (connection.sqlite.transaction = none ∨ answers site ≠ .ok)) := by
  by_cases given : answers site = .ok
  · cases opened : connection.sqlite.transaction with
    | none =>
      refine Or.inr ⟨?_, Or.inl rfl⟩
      simp [call, executeControl, given, Control.apply, Store.rollback, opened]
    | some transaction =>
      refine Or.inl ⟨transaction, rfl, given, ?_⟩
      simp [call, executeControl, given, Control.apply, Store.rollback, opened,
        Connection.withSqlite]
  · exact Or.inr ⟨call_failed given (by decide), Or.inr given⟩

section InTransaction

variable {transaction : Transaction SqliteName (Contents Rows)}

theorem call_savepoint (answers : Answers) (site : Site) (name : SqliteName)
    (opened : connection.sqlite.transaction = some transaction) :
    (answers site = .ok ∧ call answers site (.savepoint name) connection =
      (connection.withSqlite connection.sqlite.data (some { transaction with
        savepoints := (name, connection.sqlite.data) :: transaction.savepoints }), true)) ∨
    (answers site ≠ .ok ∧ call answers site (.savepoint name) connection =
      (connection, false)) := by
  by_cases given : answers site = .ok
  · refine Or.inl ⟨given, ?_⟩
    simp [call, executeControl, given, Control.apply, Store.savepoint, opened,
      Connection.withSqlite]
  · exact Or.inr ⟨given, call_failed given (by simp)⟩

/-- In a transaction that BEGIN started. -/
theorem call_release (answers : Answers) (site : Site) (name : SqliteName)
    (opened : connection.sqlite.transaction = some transaction)
    (explicit : transaction.explicit = true) :
    (∃ target below, Store.fromName transaction.savepoints name = target :: below ∧
      answers site = .ok ∧ call answers site (.release name) connection =
        (connection.withSqlite connection.sqlite.data
          (some { transaction with savepoints := below }), true)) ∨
    (call answers site (.release name) connection = (connection, false) ∧
      (Store.fromName transaction.savepoints name = [] ∨ answers site ≠ .ok)) := by
  by_cases given : answers site = .ok
  · cases found : Store.fromName transaction.savepoints name with
    | nil =>
      refine Or.inr ⟨?_, Or.inl rfl⟩
      simp [call, executeControl, given, Control.apply, Store.release, opened, found]
    | cons target below =>
      refine Or.inl ⟨target, below, rfl, given, ?_⟩
      simp [call, executeControl, given, Control.apply, Store.release, opened, found, explicit,
        Connection.withSqlite]
  · exact Or.inr ⟨call_failed given (by simp), Or.inr given⟩

theorem call_rollbackTo (answers : Answers) (site : Site) (name : SqliteName)
    (opened : connection.sqlite.transaction = some transaction) :
    (∃ target below, Store.fromName transaction.savepoints name = target :: below ∧
      answers site = .ok ∧ call answers site (.rollbackTo name) connection =
        (connection.withSqlite target.2
          (some { transaction with savepoints := target :: below }), true)) ∨
    (call answers site (.rollbackTo name) connection = (connection, false) ∧
      (Store.fromName transaction.savepoints name = [] ∨ answers site ≠ .ok)) := by
  by_cases given : answers site = .ok
  · cases found : Store.fromName transaction.savepoints name with
    | nil =>
      refine Or.inr ⟨?_, Or.inl rfl⟩
      simp [call, executeControl, given, Control.apply, Store.rollbackTo, opened, found]
    | cons target below =>
      refine Or.inl ⟨target, below, rfl, given, ?_⟩
      simp [call, executeControl, given, Control.apply, Store.rollbackTo, opened, found,
        Connection.withSqlite]
  · exact Or.inr ⟨call_failed given (by simp), Or.inr given⟩

end InTransaction

theorem Result.andThen_keeps {property : Connection Rows → Prop} {result : Result Rows}
    {next : Connection Rows → Result Rows} (kept : property result.1)
    (step : result.2 = true → property (next result.1).1) : property (result.andThen next).1 := by
  unfold Result.andThen
  split
  · rename_i succeeded
    exact step succeeded
  · exact kept

theorem andThen_true (connection : Connection Rows) (next : Connection Rows → Result Rows) :
    Result.andThen (connection, true) next = next connection := rfl

theorem andThen_false (connection : Connection Rows) (next : Connection Rows → Result Rows) :
    Result.andThen (connection, false) next = (connection, false) := rfl

theorem isOpen_of_some {transaction : Transaction SqliteName (Contents Rows)}
    (opened : connection.sqlite.transaction = some transaction) :
    connection.sqlite.isOpen = true := by
  rw [Store.isOpen, opened, Option.isSome_some]

theorem isOpen_of_none (closed : connection.sqlite.transaction = none) :
    connection.sqlite.isOpen = false := by
  rw [Store.isOpen, closed, Option.isSome_none]

theorem withSqlite_self : connection.withSqlite connection.sqlite.data
    connection.sqlite.transaction = connection := rfl

/-! The high waters. -/

/-- The contents with the counters raised to the high waters of the session. -/
def raised (connection : Connection Rows) : Contents Rows :=
  applyPersistentAutoIncrementHighWaters connection.session.autoIncrementHighWaters
    connection.sqlite.data

theorem applyHighWaters_cases (answers : Answers) (connection : Connection Rows) :
    (answers .applyHighWaters = .ok ∧ applyHighWaters answers connection =
      (connection.withSqlite (raised connection) connection.sqlite.transaction, true)) ∨
    (answers .applyHighWaters ≠ .ok ∧ applyHighWaters answers connection =
      (connection, false)) := by
  unfold applyHighWaters
  dsimp only
  split
  · rename_i applied
    exact Or.inl ⟨applied, rfl⟩
  · rename_i refused
    exact Or.inr ⟨refused, rfl⟩

/-- The transaction of a reconciliation is rolled back when it has to be. -/
def ReconciliationEnds (answers : Answers) : Prop :=
  answers .reconcileRollback = .ok ∨
    (answers .applyHighWaters = .ok ∧ answers .reconcileCommit ≠ .failed)

/-- In the transaction of a reconciliation. -/
def reconciling (connection : Connection Rows) (data : Contents Rows) : Connection Rows :=
  connection.withSqlite data (some ⟨connection.sqlite.data, true, []⟩)

/-- A reconciliation that fails and cannot roll its own transaction back. -/
def StuckReconciliation (answers : Answers) (connection : Connection Rows)
    (result : Result Rows) : Prop :=
  connection.session.userTransactionActive = false ∧ connection.sqlite.transaction = none ∧
    ¬ ReconciliationEnds answers ∧ ∃ data,
      (data = connection.sqlite.data ∨ data = raised connection) ∧
      result = (reconciling connection data, false)

/-- The end of a reconciliation in a transaction of its own that has not committed. -/
theorem reconcileRollback_cases (inactive : connection.session.userTransactionActive = false)
    (closed : connection.sqlite.transaction = none) {data : Contents Rows}
    (known : data = connection.sqlite.data ∨ data = raised connection)
    (failed : answers .reconcileRollback ≠ .ok → ¬ ReconciliationEnds answers) :
    let rolledBack := call answers .reconcileRollback .rollback (reconciling connection data)
    (rolledBack.1, false) = (connection, false) ∨
      StuckReconciliation answers connection (rolledBack.1, false) := by
  dsimp only
  rcases call_rollback answers .reconcileRollback (reconciling connection data) with
    ⟨transaction, opened, _, result⟩ | ⟨result, unanswered⟩
  · left
    cases opened
    rw [result]
    change (connection.withSqlite connection.sqlite.data none, false) = _
    rw [← closed, withSqlite_self]
  · right
    rcases unanswered with impossible | refused
    · cases impossible
    · refine ⟨inactive, closed, failed refused, data, known, ?_⟩
      rw [result]

theorem reconcile_cases (answers : Answers) (connection : Connection Rows) :
    let result := reconcilePersistentAutoIncrementHighWaters answers connection
    (hasPersistentAutoIncrementHighWaterUpdates connection.session = false ∧
      result = (connection, true)) ∨
    result = (connection.withSqlite (raised connection) connection.sqlite.transaction, true) ∨
    result = (connection, false) ∨ StuckReconciliation answers connection result := by
  unfold reconcilePersistentAutoIncrementHighWaters
  dsimp only
  split
  · rename_i none
    exact Or.inl ⟨by simpa using none, rfl⟩
  · right
    split
    · rcases applyHighWaters_cases answers connection with ⟨_, applied⟩ | ⟨_, refused⟩
      · exact Or.inl applied
      · exact Or.inr (Or.inl refused)
    · rename_i idle
      have inactive : connection.session.userTransactionActive = false := by
        cases active : connection.session.userTransactionActive with
        | false => rfl
        | true => simp [active] at idle
      rcases call_begin answers .reconcileBegin connection with ⟨closed, _, begun⟩ | ⟨refused, _⟩
      · have begun : call answers .reconcileBegin .begin connection =
            (reconciling connection connection.sqlite.data, true) := begun
        rw [begun, andThen_true]
        rcases applyHighWaters_cases answers (reconciling connection connection.sqlite.data) with
          ⟨applies, applied⟩ | ⟨refused, applied⟩
        · have applied : applyHighWaters answers (reconciling connection connection.sqlite.data) =
              (reconciling connection (raised connection), true) := applied
          rw [applied, andThen_true]
          rcases call_commit answers .reconcileCommit (reconciling connection (raised connection))
            with ⟨_, _, _, committed⟩ | ⟨refused, why⟩ | ⟨transaction, opened, _, committed⟩
          · left
            rw [committed, if_pos rfl, closed]
            rfl
          · right
            rw [refused, if_neg Bool.false_ne_true]
            exact reconcileRollback_cases inactive closed (Or.inr rfl) (by
              intro failed ends
              rcases ends with ends | ⟨_, ends⟩
              · exact failed ends
              · rcases why with impossible | answered
                · cases impossible
                · exact ends answered)
          · right
            left
            cases opened
            have committed : call answers .reconcileCommit .commit
                (reconciling connection (raised connection)) = (connection, false) := by
              rw [committed]
              change (connection.withSqlite connection.sqlite.data none, false) = _
              rw [← closed, withSqlite_self]
            rw [committed, if_neg Bool.false_ne_true]
            rcases call_rollback answers .reconcileRollback connection with
              ⟨transaction, opened, _⟩ | ⟨result, _⟩
            · rw [closed] at opened
              cases opened
            · rw [result]
        · right
          rw [applied, andThen_false, if_neg Bool.false_ne_true]
          exact reconcileRollback_cases inactive closed (Or.inl rfl) (by
            intro failed ends
            rcases ends with ends | ⟨applied, _⟩
            · exact failed ends
            · exact refused applied)
      · right
        left
        rw [refused, andThen_false]

/-! The savepoint of a statement. -/

theorem fromName_head (name : SqliteName) (data : Contents Rows)
    (below : List (SqliteName × Contents Rows)) :
    Store.fromName ((name, data) :: below) name = (name, data) :: below := by
  simp [Store.fromName]

section InSavepoint

variable {transaction : Transaction SqliteName (Contents Rows)}

/-- In the savepoint of a statement. -/
def inStatement (connection : Connection Rows)
    (transaction : Transaction SqliteName (Contents Rows)) (before after : Contents Rows) :
    Connection Rows :=
  connection.withSqlite after (some { transaction with
    savepoints := (.statement, before) :: transaction.savepoints })

theorem completion_inStatement (answers : Answers) (connection : Connection Rows)
    (explicit : transaction.explicit = true)
    (before after : Contents Rows) :
    (answers .statementRelease = .ok ∧
      completionControl answers .savepoint (inStatement connection transaction before after) =
        (connection.withSqlite after (some transaction), true)) ∨
    (answers .statementRelease ≠ .ok ∧
      completionControl answers .savepoint (inStatement connection transaction before after) =
        (inStatement connection transaction before after, false)) := by
  have opened : (inStatement connection transaction before after).sqlite.transaction = some
      { transaction with savepoints := (.statement, before) :: transaction.savepoints } := rfl
  rcases call_release answers .statementRelease .statement opened explicit with
    ⟨target, below, found, answered, result⟩ | ⟨result, failed⟩
  · rw [fromName_head] at found
    cases found
    exact Or.inl ⟨answered, result⟩
  · rcases failed with impossible | failed
    · rw [fromName_head] at impossible
      cases impossible
    · exact Or.inr ⟨failed, result⟩

theorem cleanup_inStatement (answers : Answers) (connection : Connection Rows)
    (explicit : transaction.explicit = true)
    (before after : Contents Rows) :
    cleanupControl answers .savepoint (inStatement connection transaction before after) =
      (connection.withSqlite before (some transaction), true) ∨
    (¬ (answers .statementRollbackTo = .ok ∧ answers .cleanupRelease = .ok) ∧
      ∃ data, cleanupControl answers .savepoint
        (inStatement connection transaction before after) =
          (inStatement connection transaction before data, false)) := by
  have opened : (inStatement connection transaction before after).sqlite.transaction = some
      { transaction with savepoints := (.statement, before) :: transaction.savepoints } := rfl
  have reopened : (inStatement connection transaction before before).sqlite.transaction = some
      { transaction with savepoints := (.statement, before) :: transaction.savepoints } := rfl
  unfold cleanupControl
  dsimp only
  rcases call_rollbackTo answers .statementRollbackTo .statement opened with
    ⟨target, below, found, answered, result⟩ | ⟨result, failed⟩
  · rw [fromName_head] at found
    cases found
    have result : call answers .statementRollbackTo (.rollbackTo .statement)
        (inStatement connection transaction before after) =
        (inStatement connection transaction before before, true) := result
    rw [result, andThen_true]
    rcases call_release answers .cleanupRelease .statement reopened explicit with
      ⟨target, below, found, _, result⟩ | ⟨result, failed⟩
    · rw [fromName_head] at found
      cases found
      exact Or.inl result
    · rcases failed with impossible | failed
      · rw [fromName_head] at impossible
        cases impossible
      · exact Or.inr ⟨fun both => failed both.2, before, result⟩
  · rw [result, andThen_false]
    rcases failed with impossible | failed
    · rw [fromName_head] at impossible
      cases impossible
    · exact Or.inr ⟨fun both => failed both.1, after, rfl⟩

end InSavepoint

/-! How a statement transaction ends, by the answer to its first call. -/

section Ends

variable {transaction : StatementTransaction} {after : Connection Rows}

theorem completionFailed_ok (answers : Answers) (site : Site) (connection : Connection Rows)
    (transaction : StatementTransaction) :
    (completionFailed answers site connection transaction).ok = false := by
  unfold completionFailed
  dsimp only
  generalize (if connection.sqlite.isOpen then
    (call answers site .rollback connection).1 else connection) = rolledBack
  split <;> rfl

theorem commitStatement_done (active : transaction.active = true)
    (done : completionControl answers transaction.kind connection = (after, true)) :
    commitStatementTransaction answers connection transaction =
      { connection := after, transaction := noTransaction, ok := true } := by
  simp [commitStatementTransaction, active, done]

theorem commitStatement_failed (active : transaction.active = true)
    (failed : completionControl answers transaction.kind connection = (after, false)) :
    commitStatementTransaction answers connection transaction =
      completionFailed answers .completionRollback after transaction := by
  simp [commitStatementTransaction, active, failed]

theorem rollbackStatement_done (active : transaction.active = true)
    (done : cleanupControl answers transaction.kind connection = (after, true)) :
    rollbackStatementTransaction answers connection transaction =
      { connection := after, transaction := noTransaction, ok := false } := by
  simp [rollbackStatementTransaction, active, done]

theorem rollbackStatement_failed (active : transaction.active = true)
    (failed : cleanupControl answers transaction.kind connection = (after, false)) :
    rollbackStatementTransaction answers connection transaction =
      completionFailed answers .cleanupRollback after transaction := by
  simp [rollbackStatementTransaction, active, failed]

theorem finish_not_ok (answers : Answers) (connection : Connection Rows)
    (transaction : StatementTransaction) :
    finishStatementTransaction answers
      { connection := connection, transaction := transaction, ok := false } =
      ((rollbackStatementTransaction answers connection transaction).connection, false) := rfl

theorem finish_ok {committed : Progress Rows}
    (commit : commitStatementTransaction answers connection transaction = committed) :
    finishStatementTransaction answers
      { connection := connection, transaction := transaction, ok := true } =
      if committed.ok then (committed.connection, true)
      else ((rollbackStatementTransaction answers committed.connection
        committed.transaction).connection, false) := by
  subst commit
  rfl

end Ends

end MyLite.Transactions
