import MyLite.Session.ControlCalls
import MyLite.Library.Machine

/-! The session's transaction flag against SQLite's transaction. -/

namespace MyLite.Transactions

open Snapshots (Store Transaction)

variable {Rows : Type} {answers : Answers} {connection : Connection Rows}

/-- Without a transaction there are no savepoints and no access mode. -/
def Idle (session : Session) : Prop :=
  session.userTransactionActive = false →
    session.savepoints = [] ∧ session.activeTransactionReadOnly = false

/-- The flag agrees with SQLite; `planning` says whether the planning transaction
of a statement is open, which has no flag. -/
structure Settled (planning : Bool) (connection : Connection Rows) : Prop where
  agrees : connection.sqlite.isOpen = (connection.session.userTransactionActive || planning)
  exclusive : planning = true → connection.session.userTransactionActive = false
  explicit : ∀ transaction, connection.sqlite.transaction = some transaction →
    transaction.explicit = true
  idle : Idle connection.session
  certain : connection.transactionStateUncertain = false
  planned : connection.writerStablePlanningTransactionActive = planning

theorem Settled.withData {planning : Bool} (settled : Settled planning connection)
    (data : Contents Rows) :
    Settled planning (connection.withSqlite data connection.sqlite.transaction) :=
  ⟨settled.agrees, settled.exclusive, settled.explicit, settled.idle, settled.certain,
    settled.planned⟩

theorem Settled.closed (settled : Settled false connection)
    (inactive : connection.session.userTransactionActive = false) :
    connection.sqlite.transaction = none := by
  have agrees := settled.agrees
  rw [inactive] at agrees
  unfold Store.isOpen at agrees
  simpa using agrees

theorem Settled.ended (settled : Settled false connection) (data : Contents Rows)
    (change : Session → Session)
    (ends : ∀ session, (change session).userTransactionActive = false ∧
      (change session).savepoints = [] ∧ (change session).activeTransactionReadOnly = false) :
    Settled false ((connection.withSqlite data none).withSession change) := by
  obtain ⟨inactive, savepoints, readOnly⟩ := ends connection.session
  refine ⟨?_, ?_, ?_, fun _ => ⟨savepoints, readOnly⟩, settled.certain, settled.planned⟩
  · rw [withSession_session, withSqlite_session, inactive]
    rfl
  · intro planning
    cases planning
  · intro transaction opened
    cases opened

/-- Outside a transaction there is nothing to reconcile with: the flag is off. -/
theorem Settled.reconcile (settled : Settled false connection) (answers : Answers)
    (ends : connection.session.userTransactionActive = true ∨ ReconciliationEnds answers) :
    Settled false (reconcilePersistentAutoIncrementHighWaters answers connection).1 ∧
      (reconcilePersistentAutoIncrementHighWaters answers connection).1.session =
        connection.session := by
  rcases reconcile_cases answers connection with ⟨_, result⟩ | result | result | stuck
  · rw [result]
    exact ⟨settled, rfl⟩
  · rw [result]
    exact ⟨settled.withData _, rfl⟩
  · rw [result]
    exact ⟨settled, rfl⟩
  · obtain ⟨inactive, _, notEnding, _⟩ := stuck
    rcases ends with active | ending
    · rw [inactive] at active
      cases active
    · exact absurd ending notEnding

/-- The end of a transaction: the session follows SQLite. -/
theorem Settled.commitCall (settled : Settled false connection)
    (commits : answers .commit ≠ .rolledBack) :
    Settled false ((call answers .commit .commit connection).andThen fun committed =>
      (committed.withSession fun session =>
        clearPersistentAutoIncrementHighWaters (endUserTransaction session), true)).1 := by
  rcases call_commit answers .commit connection with
    ⟨_, _, _, result⟩ | ⟨result, _⟩ | ⟨_, _, answered, _⟩
  · rw [result, andThen_true]
    dsimp only
    apply settled.ended
    intro session
    exact ⟨rfl, rfl, rfl⟩
  · rw [result, andThen_false]
    exact settled
  · exact absurd answered commits

theorem andThen_assoc (result : Result Rows) (first second : Connection Rows → Result Rows) :
    (result.andThen first).andThen second =
      result.andThen fun connection => (first connection).andThen second := by
  unfold Result.andThen
  cases result.2 <;> simp

theorem Settled.commitActive (settled : Settled false connection)
    (commits : connection.session.userTransactionActive = true → answers .commit ≠ .rolledBack) :
    Settled false (commitActiveUserTransaction answers connection).1 := by
  unfold commitActiveUserTransaction
  split
  · exact settled
  · rename_i running
    have active : connection.session.userTransactionActive = true := by simpa using running
    obtain ⟨kept, _⟩ := settled.reconcile answers (Or.inl active)
    rw [andThen_assoc]
    apply Result.andThen_keeps kept
    intro _
    exact kept.commitCall (commits active)

theorem Settled.beginUser (settled : Settled false connection) (answers : Answers)
    (readOnly : Bool) (isolation : Isolation) :
    Settled false (beginUserTransaction answers readOnly isolation connection).1 := by
  unfold beginUserTransaction
  rcases call_begin answers .begin connection with ⟨_, _, result⟩ | ⟨result, _⟩
  · rw [result, andThen_true]
    refine ⟨rfl, ?_, ?_, ?_, settled.certain, settled.planned⟩
    · intro planning
      cases planning
    · intro transaction opened
      cases opened
      rfl
    · intro inactive
      cases inactive
  · rw [result, andThen_false]
    exact settled

theorem Settled.beginChained (settled : Settled false connection) (chain : Bool)
    (characteristics : Bool × Isolation) :
    Settled false (beginChained chain answers characteristics connection).1 := by
  unfold Transactions.beginChained
  split
  · exact settled.beginUser _ _ _
  · exact settled

theorem Settled.startTransaction (settled : Settled false connection)
    (commits : connection.session.userTransactionActive = true → answers .commit ≠ .rolledBack)
    (readOnly : Option Bool) (isolation : Option Isolation) :
    Settled false (executeStartTransactionStatement readOnly isolation answers connection).1 := by
  unfold executeStartTransactionStatement
  have kept := settled.commitActive commits
  apply Result.andThen_keeps kept
  intro _
  exact kept.beginUser _ _ _

theorem Settled.commit (settled : Settled false connection)
    (commits : connection.session.userTransactionActive = true → answers .commit ≠ .rolledBack)
    (chain : Bool) : Settled false (executeCommitStatement chain answers connection).1 := by
  unfold executeCommitStatement
  have kept := settled.commitActive commits
  apply Result.andThen_keeps kept
  intro _
  exact kept.beginChained _ _

theorem Settled.setAutocommit (settled : Settled false connection)
    (commits : connection.session.userTransactionActive = true → answers .commit ≠ .rolledBack)
    (value : Bool) : Settled false (applySetAutocommit value answers connection).1 := by
  unfold applySetAutocommit
  apply Result.andThen_keeps
  · split
    · exact settled.commitActive commits
    · exact settled
  · intro _
    split
    · have kept := settled.commitActive commits
      exact ⟨kept.agrees, kept.exclusive, kept.explicit, kept.idle, kept.certain, kept.planned⟩
    · exact ⟨settled.agrees, settled.exclusive, settled.explicit, settled.idle, settled.certain,
        settled.planned⟩

theorem Settled.reconcileAfterRollback (settled : Settled false connection)
    (ends : ReconciliationEnds answers) :
    Settled false (reconcileAfterRollback answers connection).1 := by
  unfold Transactions.reconcileAfterRollback
  split
  · obtain ⟨kept, _⟩ := settled.reconcile answers (Or.inr ends)
    apply Result.andThen_keeps kept
    intro _
    exact ⟨kept.agrees, kept.exclusive, kept.explicit, kept.idle, kept.certain, kept.planned⟩
  · exact settled

theorem Settled.rollback (settled : Settled false connection)
    (ends : connection.session.userTransactionActive = true → ReconciliationEnds answers)
    (chain : Bool) : Settled false (executeRollbackStatement chain answers connection).1 := by
  have kept : Settled false (rollbackActiveUserTransaction answers connection).1 := by
    unfold rollbackActiveUserTransaction
    split
    · exact settled
    · rename_i running
      rcases call_rollback answers .rollback connection with ⟨_, _, _, result⟩ | ⟨result, _⟩
      · rw [result, andThen_true]
        apply Settled.reconcileAfterRollback _ (ends (by simpa using running))
        apply settled.ended
        intro session
        exact ⟨rfl, rfl, rfl⟩
      · rw [result, andThen_false]
        exact settled
  unfold executeRollbackStatement
  apply Result.andThen_keeps kept
  intro _
  exact kept.beginChained _ _

/-! Savepoints: the transaction stays open. -/

/-- What keeps the agreement: a change that leaves the transaction open or closed
and the flag as they are. -/
theorem Settled.changed {planning : Bool} (settled : Settled planning connection)
    {changed : Connection Rows} (sameOpen : changed.sqlite.isOpen = connection.sqlite.isOpen)
    (explicit : ∀ transaction, changed.sqlite.transaction = some transaction →
      transaction.explicit = true)
    (sameFlag : changed.session.userTransactionActive = connection.session.userTransactionActive)
    (idle : Idle changed.session)
    (sameCertain : changed.transactionStateUncertain = connection.transactionStateUncertain)
    (samePlanning : changed.writerStablePlanningTransactionActive =
      connection.writerStablePlanningTransactionActive) : Settled planning changed := by
  refine ⟨?_, ?_, explicit, idle, ?_, ?_⟩
  · rw [sameOpen, sameFlag]
    exact settled.agrees
  · rw [sameFlag]
    exact settled.exclusive
  · rw [sameCertain]
    exact settled.certain
  · rw [samePlanning]
    exact settled.planned

theorem Settled.opened {planning : Bool} (settled : Settled planning connection)
    (active : connection.session.userTransactionActive = true) :
    ∃ transaction, connection.sqlite.transaction = some transaction ∧
      transaction.explicit = true := by
  have agrees := settled.agrees
  rw [active, Bool.true_or] at agrees
  obtain ⟨transaction, opened⟩ := Option.isSome_iff_exists.mp agrees
  exact ⟨transaction, opened, settled.explicit transaction opened⟩

/-- The flag is on, so the registry may hold anything. -/
theorem Settled.inTransaction (settled : Settled false connection)
    (active : connection.session.userTransactionActive = true)
    {transaction : Transaction SqliteName (Contents Rows)} (explicit : transaction.explicit = true)
    (data : Contents Rows) (change : Session → Session)
    (sameFlag : ∀ session,
      (change session).userTransactionActive = session.userTransactionActive) :
    Settled false ((connection.withSqlite data (some transaction)).withSession change) := by
  obtain ⟨opened, isOpened, _⟩ := settled.opened active
  apply settled.changed
  · exact (isOpen_of_some isOpened).symm
  · intro other same
    cases same
    exact explicit
  · exact sameFlag connection.session
  · intro inactive
    have flag := sameFlag connection.session
    rw [withSession_session, withSqlite_session, flag, active] at inactive
    cases inactive
  · rfl
  · rfl

theorem Settled.createSavepoint (settled : Settled false connection)
    (active : connection.session.userTransactionActive = true) (name : List UInt8) :
    Settled false (createOrReplaceUserSavepoint name answers connection).1 := by
  obtain ⟨transaction, opened, explicit⟩ := settled.opened active
  unfold createOrReplaceUserSavepoint
  dsimp only
  split
  · exact settled
  · rcases call_savepoint answers .savepoint (.user connection.session.connectionId
        connection.session.nextSavepointId) opened with ⟨_, result⟩ | ⟨_, result⟩
    · rw [result, andThen_true]
      dsimp only
      apply settled.inTransaction active
      · exact explicit
      · intro session
        rfl
    · rw [result, andThen_false]
      exact settled

theorem beginUser_active {readOnly : Bool} {isolation : Isolation}
    (began : (beginUserTransaction answers readOnly isolation connection).2 = true) :
    (beginUserTransaction answers readOnly isolation connection).1.session.userTransactionActive =
      true := by
  unfold beginUserTransaction at began ⊢
  rcases call_begin answers .begin connection with ⟨_, _, result⟩ | ⟨result, _⟩
  · rw [result, andThen_true]
    rfl
  · rw [result, andThen_false] at began
    cases began

theorem Settled.savepoint (settled : Settled false connection) (name : List UInt8) :
    Settled false (executeSavepointStatement name answers connection).1 := by
  unfold executeSavepointStatement
  split
  · exact settled
  · split
    · rename_i active
      exact settled.createSavepoint active name
    · split
      · rename_i inactive disabled
        have flag : (connection.session.userTransactionActive ||
            connection.session.autocommitEnabled) = false := by
          simp only [Bool.not_eq_true] at inactive disabled
          rw [inactive]
          simpa using disabled
        unfold beginAutocommitDisabledTransaction
        rw [if_neg (by rw [flag]; decide)]
        have kept := settled.beginUser answers
          (currentTransactionReadOnly connection.session)
          (currentTransactionIsolation connection.session)
        apply Result.andThen_keeps kept
        intro began
        exact kept.createSavepoint (beginUser_active began) name
      · exact settled

theorem registered_active {name : List UInt8} {session : Session} {found : Nat × Savepoint}
    (registered : registeredSavepoint session name = some found) :
    session.userTransactionActive = true := by
  unfold registeredSavepoint at registered
  split at registered
  · cases registered
  · rename_i condition
    simp only [Bool.or_eq_true, not_or, Bool.not_eq_true] at condition
    simpa using condition.2

theorem Settled.rollbackToSavepoint (settled : Settled false connection) (name : List UInt8) :
    Settled false (executeRollbackToSavepointStatement name answers connection).1 := by
  unfold executeRollbackToSavepointStatement
  split
  · exact settled
  · rename_i index savepoint registered
    have active := registered_active registered
    obtain ⟨transaction, opened, explicit⟩ := settled.opened active
    rcases call_rollbackTo answers .rollbackTo savepoint.sqliteName opened with
      ⟨_, _, _, _, result⟩ | ⟨result, _⟩
    · rw [result, andThen_true]
      dsimp only
      apply settled.inTransaction active
      · exact explicit
      · intro session
        rfl
    · rw [result, andThen_false]
      exact settled

theorem Settled.releaseSavepoint (settled : Settled false connection) (name : List UInt8) :
    Settled false (executeReleaseSavepointStatement name answers connection).1 := by
  unfold executeReleaseSavepointStatement
  split
  · exact settled
  · rename_i index savepoint registered
    have active := registered_active registered
    obtain ⟨transaction, opened, explicit⟩ := settled.opened active
    rcases call_release answers .release savepoint.sqliteName opened explicit with
      ⟨_, _, _, _, result⟩ | ⟨result, _⟩
    · rw [result, andThen_true]
      dsimp only
      apply settled.inTransaction active
      · exact explicit
      · intro session
        rfl
    · rw [result, andThen_false]
      exact settled

/-! The end of a statement transaction. -/

/-- Unusable, and without savepoints that nobody cleared. -/
structure Poisoned (connection : Connection Rows) : Prop where
  uncertain : connection.transactionStateUncertain = true
  savepoints : connection.session.savepoints = []
  idle : Idle connection.session

theorem completionFailed_poisoned {site : Site} {transaction : StatementTransaction}
    (savepoints : connection.session.savepoints = []) (idle : Idle connection.session) :
    Poisoned (completionFailed answers site connection transaction).connection := by
  have session : (if connection.sqlite.isOpen then
      (call answers site .rollback connection).1 else connection).session =
      connection.session := by
    split <;> rfl
  unfold completionFailed
  dsimp only
  generalize (if connection.sqlite.isOpen then
    (call answers site .rollback connection).1 else connection) = rolledBack at *
  split
  · refine ⟨rfl, ?_, ?_⟩
    · exact session.symm ▸ savepoints
    · exact session.symm ▸ idle
  · refine ⟨rfl, ?_, ?_⟩
    · exact session.symm ▸ savepoints
    · intro _
      exact ⟨session.symm ▸ savepoints, rfl⟩

theorem cleanupControl_frame (answers : Answers) (kind : TransactionKind)
    (connection : Connection Rows) :
    (cleanupControl answers kind connection).1.session = connection.session ∧
      (cleanupControl answers kind connection).1.transactionStateUncertain =
        connection.transactionStateUncertain := by
  cases kind with
  | savepoint =>
    unfold cleanupControl
    dsimp only
    unfold Result.andThen
    split <;> exact ⟨rfl, rfl⟩
  | none => exact ⟨rfl, rfl⟩
  | direct => exact ⟨rfl, rfl⟩

/-- A rollback does not repair an unusable connection. -/
theorem Poisoned.rollbackStatement (poisoned : Poisoned connection) (answers : Answers)
    (transaction : StatementTransaction) :
    Poisoned (rollbackStatementTransaction answers connection transaction).connection := by
  obtain ⟨session, uncertain⟩ := cleanupControl_frame answers transaction.kind connection
  unfold rollbackStatementTransaction
  dsimp only
  split
  · exact poisoned
  · split
    · refine ⟨?_, ?_, ?_⟩
      · exact uncertain.trans poisoned.uncertain
      · exact session.symm ▸ poisoned.savepoints
      · exact session.symm ▸ poisoned.idle
    · apply completionFailed_poisoned
      · exact session.symm ▸ poisoned.savepoints
      · exact session.symm ▸ poisoned.idle

/-- Where the statement left things, `ok` or not, its end leaves them settled or
the connection unusable. -/
def Kept (planning : Bool) (connection : Connection Rows) : Prop :=
  Settled planning connection ∨ Poisoned connection

/-- The calls that end a statement savepoint succeed. -/
def SavepointEnds (answers : Answers) : Prop :=
  answers .statementRelease = .ok ∧ answers .statementRollbackTo = .ok ∧
    answers .cleanupRelease = .ok

theorem Settled.withDataOf {planning : Bool} (settled : Settled planning connection)
    {transaction : Transaction SqliteName (Contents Rows)}
    (opened : connection.sqlite.transaction = some transaction) (data : Contents Rows) :
    Settled planning (connection.withSqlite data (some transaction)) := by
  rw [← opened]
  exact settled.withData data

/-- A completion that failed is followed by a rollback of what is left. -/
theorem finish_failed {transaction : StatementTransaction} {after : Connection Rows}
    (active : transaction.active = true)
    (failed : completionControl answers transaction.kind connection = (after, false))
    (savepoints : after.session.savepoints = []) (idle : Idle after.session) :
    Poisoned (finishStatementTransaction answers
      { connection := connection, transaction := transaction, ok := true }).1 := by
  rw [finish_ok (commitStatement_failed active failed), completionFailed_ok,
    if_neg Bool.false_ne_true]
  exact (completionFailed_poisoned savepoints idle).rollbackStatement answers _

theorem Settled.finishSavepoint {planning : Bool} (settled : Settled planning connection)
    {transaction : Transaction SqliteName (Contents Rows)}
    (opened : connection.sqlite.transaction = some transaction)
    (ends : connection.session.savepoints = [] ∨ SavepointEnds answers)
    (before after : Contents Rows) (ok : Bool) :
    Kept planning (finishStatementTransaction answers
      { connection := inStatement connection transaction before after
        transaction := savepointTransaction
        ok := ok }).1 := by
  have explicit := settled.explicit transaction opened
  cases ok with
  | true =>
    rcases completion_inStatement answers connection explicit before after with
      ⟨_, result⟩ | ⟨failed, result⟩
    · rw [finish_ok (commitStatement_done rfl result)]
      exact Or.inl (settled.withDataOf opened after)
    · have savepoints : connection.session.savepoints = [] := by
        rcases ends with empty | answered
        · exact empty
        · exact absurd answered.1 failed
      exact Or.inr (finish_failed rfl result savepoints settled.idle)
  | false =>
    rw [finish_not_ok]
    rcases cleanup_inStatement answers connection explicit before after with
      result | ⟨failed, data, result⟩
    · rw [rollbackStatement_done rfl result]
      exact Or.inl (settled.withDataOf opened before)
    · have savepoints : connection.session.savepoints = [] := by
        rcases ends with empty | answered
        · exact empty
        · exact absurd answered.2 failed
      rw [rollbackStatement_failed rfl result]
      exact Or.inr (completionFailed_poisoned savepoints settled.idle)

/-- A statement transaction of its own: SQLite may be open, the flag is off. -/
structure Direct (connection : Connection Rows) : Prop where
  inactive : connection.session.userTransactionActive = false
  savepoints : connection.session.savepoints = []
  notReadOnly : connection.session.activeTransactionReadOnly = false
  certain : connection.transactionStateUncertain = false
  notPlanning : connection.writerStablePlanningTransactionActive = false

theorem Direct.idle (direct : Direct connection) : Idle connection.session :=
  fun _ => ⟨direct.savepoints, direct.notReadOnly⟩

theorem Direct.closed (direct : Direct connection) (data : Contents Rows) :
    Settled false (connection.withSqlite data none) := by
  refine ⟨?_, ?_, ?_, direct.idle, direct.certain, direct.notPlanning⟩
  · rw [withSqlite_session, direct.inactive]
    rfl
  · intro planning
    cases planning
  · intro transaction opened
    cases opened

theorem Direct.rollback (direct : Direct connection) (answers : Answers) :
    Kept false (rollbackStatementTransaction answers connection directTransaction).connection := by
  rcases call_rollback answers .statementRollback connection with
    ⟨transaction, _, _, result⟩ | ⟨result, _⟩
  · have result : cleanupControl answers directTransaction.kind connection = _ := result
    rw [rollbackStatement_done rfl result]
    exact Or.inl (direct.closed _)
  · have result : cleanupControl answers directTransaction.kind connection = _ := result
    rw [rollbackStatement_failed rfl result]
    exact Or.inr (completionFailed_poisoned direct.savepoints direct.idle)

theorem Direct.commit (direct : Direct connection) (answers : Answers) :
    Kept false (commitStatementTransaction answers connection directTransaction).connection := by
  rcases call_commit answers .statementCommit connection with
    ⟨_, _, _, result⟩ | ⟨result, _⟩ | ⟨transaction, _, _, result⟩
  · have result : completionControl answers directTransaction.kind connection = _ := result
    rw [commitStatement_done rfl result]
    exact Or.inl (direct.closed _)
  · have result : completionControl answers directTransaction.kind connection = _ := result
    rw [commitStatement_failed rfl result]
    exact Or.inr (completionFailed_poisoned direct.savepoints direct.idle)
  · have result : completionControl answers directTransaction.kind connection = _ := result
    rw [commitStatement_failed rfl result]
    exact Or.inr (completionFailed_poisoned direct.savepoints direct.idle)

theorem Direct.finish (direct : Direct connection) (answers : Answers) (ok : Bool) :
    Kept false (finishStatementTransaction answers
      { connection := connection, transaction := directTransaction, ok := ok }).1 := by
  cases ok with
  | false => exact direct.rollback answers
  | true =>
    rcases call_commit answers .statementCommit connection with
      ⟨_, _, _, result⟩ | ⟨result, _⟩ | ⟨transaction, _, _, result⟩
    · have result : completionControl answers directTransaction.kind connection = _ := result
      rw [finish_ok (commitStatement_done rfl result)]
      exact Or.inl (direct.closed _)
    · have result : completionControl answers directTransaction.kind connection = _ := result
      exact Or.inr (finish_failed rfl result direct.savepoints direct.idle)
    · have result : completionControl answers directTransaction.kind connection = _ := result
      exact Or.inr (finish_failed rfl result direct.savepoints direct.idle)

theorem finish_none (answers : Answers) (connection : Connection Rows) (ok : Bool) :
    (finishStatementTransaction answers
      { connection := connection, transaction := noTransaction, ok := ok }).1 = connection := by
  cases ok <;> rfl

/-! Statements. -/

/-- The session is as far in its transaction as before. -/
def SameTransaction (before after : Session) : Prop :=
  after.userTransactionActive = before.userTransactionActive ∧
    after.savepoints = before.savepoints ∧
    after.activeTransactionReadOnly = before.activeTransactionReadOnly

theorem Settled.frame {planning : Bool} (settled : Settled planning connection)
    (change : Session → Session)
    (frame : ∀ session, SameTransaction session (change session)) :
    Settled planning (connection.withSession change) := by
  obtain ⟨flag, savepoints, readOnly⟩ := frame connection.session
  apply settled.changed
  · rfl
  · exact settled.explicit
  · exact flag
  · intro inactive
    rw [withSession_session, savepoints, readOnly]
    apply settled.idle
    rw [← flag]
    exact inactive
  · rfl
  · rfl

theorem Poisoned.frame (poisoned : Poisoned connection) (change : Session → Session)
    (frame : ∀ session, SameTransaction session (change session)) :
    Poisoned (connection.withSession change) := by
  obtain ⟨flag, savepoints, readOnly⟩ := frame connection.session
  refine ⟨poisoned.uncertain, savepoints.trans poisoned.savepoints, ?_⟩
  intro inactive
  rw [withSession_session, savepoints, readOnly]
  apply poisoned.idle
  rw [← flag]
  exact inactive

theorem ensure_frame (tableId : Int) (session : Session) :
    SameTransaction session (ensurePersistentAutoIncrementHighWaterSlot tableId session) := by
  unfold ensurePersistentAutoIncrementHighWaterSlot
  split
  · exact ⟨rfl, rfl, rfl⟩
  · split <;> exact ⟨rfl, rfl, rfl⟩

theorem reserveCounter_frame (counter : Option CounterWork) (session : Session) :
    SameTransaction session (reserveCounter counter session) := by
  cases counter with
  | none => exact ⟨rfl, rfl, rfl⟩
  | some work => exact ensure_frame work.tableId session

theorem record_frame (tableId nextValue : Int) (session : Session) :
    SameTransaction session (recordPersistentAutoIncrementHighWater tableId nextValue session) := by
  unfold recordPersistentAutoIncrementHighWater
  split
  · exact ⟨rfl, rfl, rfl⟩
  · split
    · exact ⟨rfl, rfl, rfl⟩
    · exact ensure_frame tableId session

theorem recordCounter_frame (counter : Option CounterWork) (recorded : Option Int)
    (session : Session) : SameTransaction session (recordCounter counter recorded session) := by
  cases counter with
  | none => exact ⟨rfl, rfl, rfl⟩
  | some work =>
    unfold recordCounter
    dsimp only
    cases recorded with
    | none =>
      dsimp only
      split <;> exact ⟨rfl, rfl, rfl⟩
    | some next =>
      have frame := record_frame work.tableId next session
      dsimp only
      split <;> exact frame

theorem executeBody_frame (answers : Answers) (work : Work Rows) (connection : Connection Rows) :
    ∃ data, (executeBody answers work connection).1.1 =
      connection.withSqlite data connection.sqlite.transaction := by
  unfold executeBody
  dsimp only
  split
  · exact ⟨_, rfl⟩
  · exact ⟨_, rfl⟩

/-- Where the begin of a statement transaction can lead. -/
inductive Begun (answers : Answers) (planning : Bool) (progress : Progress Rows) : Prop where
  | none (transaction : progress.transaction = noTransaction)
      (settled : Settled planning progress.connection)
  | savepoint (base : Connection Rows) (opened : Transaction SqliteName (Contents Rows))
      (before : Contents Rows) (transaction : progress.transaction = savepointTransaction)
      (connection : progress.connection = inStatement base opened before before)
      (settled : Settled planning base) (isOpened : base.sqlite.transaction = some opened)
      (ends : base.session.savepoints = [] ∨ SavepointEnds answers)
  | direct (notPlanning : planning = false) (transaction : progress.transaction = directTransaction)
      (direct : Direct progress.connection)
  | poisoned (failed : progress.ok = false) (poisoned : Poisoned progress.connection)

/-- Whatever the statement writes, its end leaves things settled. -/
theorem Begun.finish {planning : Bool} {progress : Progress Rows}
    (begun : Begun answers planning progress) (data : Contents Rows) (ok : Bool)
    (failed : progress.ok = false → ok = false) :
    Kept planning (finishStatementTransaction answers
      { connection := progress.connection.withSqlite data progress.connection.sqlite.transaction
        transaction := progress.transaction
        ok := ok }).1 := by
  cases begun with
  | none transaction settled =>
    rw [transaction, finish_none]
    exact Or.inl (settled.withData data)
  | savepoint base opened before transaction connection settled isOpened ends =>
    rw [transaction, connection]
    exact settled.finishSavepoint isOpened ends before data ok
  | direct notPlanning transaction direct =>
    rw [transaction, notPlanning]
    apply Direct.finish
    exact ⟨direct.inactive, direct.savepoints, direct.notReadOnly, direct.certain,
      direct.notPlanning⟩
  | poisoned notOk poisoned =>
    rw [failed notOk, finish_not_ok]
    right
    apply Poisoned.rollbackStatement
    exact ⟨poisoned.uncertain, poisoned.savepoints, poisoned.idle⟩

theorem Settled.direct (settled : Settled false connection)
    (inactive : connection.session.userTransactionActive = false) (data : Contents Rows)
    (transaction : Option (Transaction SqliteName (Contents Rows))) :
    Direct (connection.withSqlite data transaction) := by
  obtain ⟨savepoints, readOnly⟩ := settled.idle inactive
  exact ⟨inactive, savepoints, readOnly, settled.certain, settled.planned⟩

theorem Settled.beginSavepoint {planning : Bool} (settled : Settled planning connection)
    {transaction : Transaction SqliteName (Contents Rows)}
    (opened : connection.sqlite.transaction = some transaction)
    (ends : connection.session.savepoints = [] ∨ SavepointEnds answers) :
    Begun answers planning (began savepointTransaction
      (call answers .statementSavepoint (.savepoint .statement) connection)) := by
  rcases call_savepoint answers .statementSavepoint .statement opened with
    ⟨_, result⟩ | ⟨_, result⟩
  · rw [result]
    exact .savepoint connection transaction connection.sqlite.data rfl rfl settled opened ends
  · rw [result]
    exact .none rfl settled

/-- The begin of a transaction of the statement's own. -/
theorem Settled.beginDirect (settled : Settled false connection) (answers : Answers)
    (inactive : connection.session.userTransactionActive = false) :
    Begun answers false (synchronized answers
      (began directTransaction (call answers .statementBegin .begin connection))) := by
  rcases call_begin answers .statementBegin connection with ⟨_, _, result⟩ | ⟨result, _⟩
  · rw [result]
    exact .direct rfl rfl (settled.direct inactive _ _)
  · rw [result]
    exact .none rfl settled

theorem Begun.replan {progress : Progress Rows} (begun : Begun answers false progress)
    (notSavepoint : progress.transaction ≠ savepointTransaction) (ok : progress.ok = true) :
    Begun answers false
      (rollbackStatementTransaction answers progress.connection progress.transaction) := by
  cases begun with
  | none transaction settled =>
    rw [transaction]
    exact .none rfl settled
  | savepoint base opened before transaction => exact absurd transaction notSavepoint
  | direct notPlanning transaction direct =>
    rw [transaction]
    rcases call_rollback answers .statementRollback progress.connection with
      ⟨rolled, _, _, result⟩ | ⟨result, _⟩
    · have result : cleanupControl answers directTransaction.kind progress.connection = _ := result
      rw [rollbackStatement_done rfl result]
      exact .none rfl (direct.closed _)
    · have result : cleanupControl answers directTransaction.kind progress.connection = _ := result
      rw [rollbackStatement_failed rfl result]
      exact .poisoned (completionFailed_ok _ _ _ _)
        (completionFailed_poisoned direct.savepoints direct.idle)
  | poisoned failed => rw [failed] at ok; cases ok

theorem Settled.beginDisabled (settled : Settled false connection) (answers : Answers) :
    Settled false (beginAutocommitDisabledTransaction answers connection).1 := by
  unfold beginAutocommitDisabledTransaction
  split
  · exact settled
  · exact settled.beginUser _ _ _

theorem Settled.openedOr {planning : Bool} (settled : Settled planning connection)
    (active : (connection.session.userTransactionActive || planning) = true) :
    ∃ transaction, connection.sqlite.transaction = some transaction := by
  have agrees := settled.agrees
  rw [active] at agrees
  exact Option.isSome_iff_exists.mp agrees

theorem beginUser_savepoints {readOnly : Bool} {isolation : Isolation} :
    (beginUserTransaction answers readOnly isolation connection).1.session.savepoints =
      connection.session.savepoints := by
  unfold beginUserTransaction Result.andThen
  split <;> rfl

theorem Settled.begin {planning : Bool} (settled : Settled planning connection)
    (ends : connection.session.savepoints = [] ∨ SavepointEnds answers) :
    Begun answers planning (beginStatementTransaction answers connection) := by
  unfold beginStatementTransaction
  rw [settled.planned]
  split
  · rename_i active
    obtain ⟨transaction, opened⟩ := settled.openedOr active
    exact settled.beginSavepoint opened ends
  · rename_i idle
    simp only [Bool.or_eq_true, not_or, Bool.not_eq_true] at idle
    obtain ⟨inactive, rfl⟩ := idle
    split
    · rename_i disabled
      have kept := settled.beginUser answers (currentTransactionReadOnly connection.session)
        (currentTransactionIsolation connection.session)
      unfold beginAutocommitDisabledTransaction
      rw [if_neg (by simpa [inactive] using disabled)]
      cases started : (beginUserTransaction answers (currentTransactionReadOnly connection.session)
          (currentTransactionIsolation connection.session) connection).2 with
      | false =>
        rw [Result.andThen, started, if_neg Bool.false_ne_true]
        exact .none rfl kept
      | true =>
        obtain ⟨transaction, opened, _⟩ := kept.opened (beginUser_active started)
        rw [Result.andThen, started, if_pos rfl]
        apply kept.beginSavepoint opened
        rw [beginUser_savepoints]
        exact ends
    · dsimp only
      have begun := settled.beginDirect answers inactive
      split
      · rename_i replan
        apply begun.replan
        · unfold synchronized began
          dsimp only
          split <;> decide
        · exact (Bool.and_eq_true_iff.mp replan).1
      · exact begun

theorem Kept.frame {planning : Bool} (kept : Kept planning connection)
    (change : Session → Session)
    (frame : ∀ session, SameTransaction session (change session)) :
    Kept planning (connection.withSession change) := by
  rcases kept with settled | poisoned
  · exact Or.inl (settled.frame change frame)
  · exact Or.inr (poisoned.frame change frame)

theorem Begun.execute {planning : Bool} {progress : Progress Rows}
    (begun : Begun answers planning progress) (work : Work Rows) :
    Kept planning (executeBegun work answers progress).1.1 := by
  unfold executeBegun
  dsimp only
  cases ok : progress.ok with
  | false =>
    rw [if_neg Bool.false_ne_true]
    exact begun.finish progress.connection.sqlite.data false (fun _ => rfl)
  | true =>
    rw [if_pos rfl]
    obtain ⟨data, frame⟩ := executeBody_frame answers work progress.connection
    rw [frame]
    apply begun.finish
    intro failed
    rw [ok] at failed
    cases failed

/-- A statement that writes, in a user transaction or not. -/
theorem Settled.write {planning : Bool} (settled : Settled planning connection)
    (ends : connection.session.savepoints = [] ∨ SavepointEnds answers) (work : Work Rows) :
    Kept planning (executeWrite work answers connection).1.1 := by
  have reserved := settled.frame _ (reserveCounter_frame work.counter)
  have savepoints : (connection.withSession (reserveCounter work.counter)).session.savepoints =
      connection.session.savepoints := (reserveCounter_frame work.counter connection.session).2.1
  have kept := (reserved.begin (savepoints ▸ ends)).execute work
  unfold executeWrite
  dsimp only
  split
  · exact kept.frame _ (recordCounter_frame work.counter _)
  · exact kept

/-- A statement that only reads. -/
theorem Begun.read {progress : Progress Rows} (begun : Begun answers false progress) :
    Kept false (finishStatementTransaction answers
      { progress with ok := progress.ok && answers .body = .ok }).1 := by
  apply begun.finish progress.connection.sqlite.data
  intro failed
  rw [failed, Bool.false_and]

theorem Settled.beginRead (settled : Settled false connection) (answers : Answers) :
    Begun answers false (beginReadStatementTransaction answers connection) := by
  unfold beginReadStatementTransaction
  split
  · exact .none rfl settled
  · rename_i idle
    simp only [Bool.or_eq_true, not_or, Bool.not_eq_true] at idle
    split
    · refine .none ?_ (settled.beginDisabled answers)
      unfold synchronized began
      dsimp only
      split <;> rfl
    · exact settled.beginDirect answers idle.1

theorem Settled.beginPrepare (settled : Settled false connection) (answers : Answers) :
    Begun answers false (beginPrepareTransaction answers connection) := by
  unfold beginPrepareTransaction
  split
  · exact .none rfl settled
  · rename_i closed
    have inactive : connection.session.userTransactionActive = false := by
      have agrees := settled.agrees
      rw [Bool.not_eq_true _ |>.mp closed] at agrees
      simpa using agrees.symm
    exact settled.beginDirect answers inactive

theorem completionControl_frame (answers : Answers) (kind : TransactionKind)
    (connection : Connection Rows) :
    (completionControl answers kind connection).1.session = connection.session ∧
      (completionControl answers kind connection).1.transactionStateUncertain =
        connection.transactionStateUncertain := by
  cases kind <;> exact ⟨rfl, rfl⟩

theorem Poisoned.commitStatement (poisoned : Poisoned connection) (answers : Answers)
    (transaction : StatementTransaction) :
    Poisoned (commitStatementTransaction answers connection transaction).connection := by
  obtain ⟨session, uncertain⟩ := completionControl_frame answers transaction.kind connection
  unfold commitStatementTransaction
  dsimp only
  split
  · exact poisoned
  · split
    · refine ⟨?_, ?_, ?_⟩
      · exact uncertain.trans poisoned.uncertain
      · exact session.symm ▸ poisoned.savepoints
      · exact session.symm ▸ poisoned.idle
    · apply completionFailed_poisoned
      · exact session.symm ▸ poisoned.savepoints
      · exact session.symm ▸ poisoned.idle

/-- The planning transaction is open and has no flag. -/
theorem Settled.beginPlanning (settled : Settled false connection) (answers : Answers)
    (inactive : connection.session.userTransactionActive = false) :
    let begun := beginWriterStablePlanningTransaction answers connection
    (begun.ok = true ∧ begun.transaction = directTransaction ∧ Settled true begun.connection) ∨
      (begun.ok = false ∧ Kept false begun.connection) := by
  have begun := settled.beginDirect answers inactive
  unfold beginWriterStablePlanningTransaction
  dsimp only
  split
  · rename_i ok
    left
    rcases call_begin answers .statementBegin connection with ⟨_, _, result⟩ | ⟨result, _⟩
    · obtain ⟨savepoints, readOnly⟩ := settled.idle inactive
      refine ⟨ok, ?_, ?_⟩
      · rw [result]
        rfl
      · rw [result]
        refine ⟨?_, fun _ => inactive, ?_, fun _ => ⟨savepoints, readOnly⟩, settled.certain, rfl⟩
        · exact (Bool.or_true _).symm
        · intro transaction opened
          cases opened
          rfl
    · rw [result] at ok
      cases ok
  · rename_i failed
    right
    have kept := begun.finish
      (synchronized answers
        (began directTransaction
          (call answers .statementBegin .begin connection))).connection.sqlite.data
      false (fun _ => rfl)
    refine ⟨?_, kept⟩
    unfold rollbackStatementTransaction
    dsimp only
    split
    · rfl
    · split
      · rfl
      · exact completionFailed_ok _ _ _ _

theorem Kept.endPlanning (kept : Kept true connection) :
    Direct { connection with writerStablePlanningTransactionActive := false } ∨
      Poisoned { connection with writerStablePlanningTransactionActive := false } := by
  rcases kept with settled | poisoned
  · left
    have inactive := settled.exclusive rfl
    obtain ⟨savepoints, readOnly⟩ := settled.idle inactive
    exact ⟨inactive, savepoints, readOnly, settled.certain, rfl⟩
  · right
    exact ⟨poisoned.uncertain, poisoned.savepoints, poisoned.idle⟩

theorem Settled.executePlanned (settled : Settled false connection) (work : Work Rows)
    (commitsImplicitly : Bool) (inner answers : Answers)
    (ends : connection.session.savepoints = [] ∨ SavepointEnds inner) :
    Kept false (executePlanned work commitsImplicitly inner answers connection).1.1 := by
  unfold Transactions.executePlanned
  split
  · exact settled.write ends work
  · rename_i idle
    have inactive : connection.session.userTransactionActive = false := by simpa using idle
    obtain ⟨savepoints, _⟩ := settled.idle inactive
    split
    · dsimp only
      have kept := settled.beginDisabled answers
      split
      · apply kept.write
        left
        unfold beginAutocommitDisabledTransaction
        split
        · exact savepoints
        · rw [beginUser_savepoints]
          exact savepoints
      · exact Or.inl kept
    · dsimp only
      have started := settled.beginPlanning answers inactive
      generalize beginWriterStablePlanningTransaction answers connection = begun at *
      rcases started with ⟨ok, transaction, planning⟩ | ⟨ok, kept⟩
      · rw [ok, if_neg (by decide), transaction]
        have executed : Kept true (executeWrite work inner begun.connection).1.1 :=
          planning.write (Or.inl (planning.idle (planning.exclusive rfl)).1) work
        split
        · rcases executed.endPlanning with direct | poisoned
          · exact direct.commit answers
          · exact Or.inr (poisoned.commitStatement answers _)
        · rcases executed.endPlanning with direct | poisoned
          · exact direct.rollback answers
          · exact Or.inr (poisoned.rollbackStatement answers _)
      · rw [ok, if_pos (by decide)]
        exact kept

/-! Whole runs. -/

/-- A COMMIT that fails leaves the user transaction open. -/
def CommitStays (answers : Answers) (session : Session) : Prop :=
  session.userTransactionActive = true → answers .commit ≠ .rolledBack

/-- The answers under which a statement keeps the agreement. -/
def Agreeable (connection : Connection Rows) (event : Event Rows) : Prop :=
  match event.statement with
  | .startTransaction _ _ => CommitStays event.answers connection.session
  | .commit _ => CommitStays event.answers connection.session
  | .implicitCommit => CommitStays event.answers connection.session
  | .setAutocommit _ => CommitStays event.answers connection.session
  | .rollback _ =>
    connection.session.userTransactionActive = true → ReconciliationEnds event.answers
  | .write _ => connection.session.savepoints = [] ∨ SavepointEnds event.answers
  | .planned _ _ inner => connection.session.savepoints = [] ∨ SavepointEnds inner
  | _ => True

theorem Settled.setInsertId (settled : Settled false connection) (value : Nat) :
    Settled false (connection.withSession fun session => { session with insertId := value }) := by
  apply settled.frame
  intro session
  exact ⟨rfl, rfl, rfl⟩

theorem Settled.setIncrement (settled : Settled false connection) (value : Nat) :
    Settled false (connection.withSession fun session =>
      { session with autoIncrementIncrement := value }) := by
  apply settled.frame
  intro session
  exact ⟨rfl, rfl, rfl⟩

theorem Settled.setOffset (settled : Settled false connection) (value : Nat) :
    Settled false (connection.withSession fun session =>
      { session with autoIncrementOffset := value }) := by
  apply settled.frame
  intro session
  exact ⟨rfl, rfl, rfl⟩

/-- One statement. -/
theorem Kept.execute (kept : Kept false connection) (event : Event Rows)
    (agreeable : Agreeable connection event) : Kept false (execute connection event).1.1 := by
  obtain ⟨statement, answers⟩ := event
  rcases kept with settled | poisoned
  · unfold Transactions.execute
    rw [settled.certain, if_neg Bool.false_ne_true]
    cases statement with
    | startTransaction readOnly isolation =>
      exact Or.inl (settled.startTransaction agreeable readOnly isolation)
    | commit chain => exact Or.inl (settled.commit agreeable chain)
    | rollback chain => exact Or.inl (settled.rollback agreeable chain)
    | implicitCommit => exact Or.inl (settled.commitActive agreeable)
    | savepoint name => exact Or.inl (settled.savepoint name)
    | rollbackToSavepoint name => exact Or.inl (settled.rollbackToSavepoint name)
    | releaseSavepoint name => exact Or.inl (settled.releaseSavepoint name)
    | setAutocommit value => exact Or.inl (settled.setAutocommit agreeable value)
    | setInsertId value => exact Or.inl (settled.setInsertId value)
    | setAutoIncrementIncrement value => exact Or.inl (settled.setIncrement _)
    | setAutoIncrementOffset value => exact Or.inl (settled.setOffset _)
    | write work => exact settled.write agreeable work
    | planned work commitsImplicitly inner =>
      exact settled.executePlanned work commitsImplicitly inner answers agreeable
    | read => exact (settled.beginRead answers).read
    | prepare => exact (settled.beginPrepare answers).read
  · unfold Transactions.execute
    rw [poisoned.uncertain, if_pos rfl]
    exact Or.inr poisoned

theorem Opened.settled (opened : Opened connection) : Settled false connection := by
  refine ⟨?_, ?_, ?_, ?_, opened.certain, opened.notPlanning⟩
  · rw [isOpen_of_none opened.closed, opened.noTransaction]
    rfl
  · intro planning
    cases planning
  · intro transaction isOpen
    rw [opened.closed] at isOpen
    cases isOpen
  · intro _
    exact ⟨opened.noSavepoints, opened.notReadOnly⟩

/-- The flag says whether SQLite has a transaction, or the connection is unusable;
without the flag there are no savepoints and no access mode. -/
def Consistent (connection : Connection Rows) : Prop :=
  (connection.transactionStateUncertain = true ∨
    (connection.session.userTransactionActive = true ↔ connection.sqlite.isOpen = true)) ∧
  (connection.session.userTransactionActive = false →
    connection.session.savepoints.length = 0 ∧
      connection.session.activeTransactionReadOnly = false)

theorem Idle.savepointCount {session : Session} (idle : Idle session)
    (inactive : session.userTransactionActive = false) :
    session.savepoints.length = 0 ∧ session.activeTransactionReadOnly = false := by
  obtain ⟨savepoints, readOnly⟩ := idle inactive
  exact ⟨List.length_eq_zero_iff.mpr savepoints, readOnly⟩

theorem Kept.consistent (kept : Kept false connection) : Consistent connection := by
  rcases kept with settled | poisoned
  · refine ⟨Or.inr ?_, settled.idle.savepointCount⟩
    rw [settled.agrees, Bool.or_false]
  · exact ⟨Or.inl poisoned.uncertain, poisoned.idle.savepointCount⟩

/-- One statement after another, whatever they answer. -/
def step (connection : Connection Rows) (event : Event Rows) : Option (Connection Rows) :=
  some (execute connection event).1.1

/-- In every run whose statements get the answers of `Agreeable`, the flag and
SQLite agree in every state reached. -/
theorem transaction_flag_agrees {start : Connection Rows} (opened : Opened start)
    (reached : Transition.Reaches step Agreeable start connection) : Consistent connection := by
  have kept : Kept false connection := by
    apply reached.invariant (Kept false) (Or.inl opened.settled)
    intro before event after kept agreeable taken
    cases taken
    exact kept.execute event agreeable
  exact kept.consistent

/-- A database without tables. -/
def emptyContents : Contents Unit := { rows := (), autoIncrementNext := fun _ => none }

/-- Every call answers, except the one named. -/
def answersExcept (site : Site) (outcome : Outcome) : Answers := fun other =>
  if other = site then outcome else .ok

def startTransactionEvent : Event Unit :=
  { statement := .startTransaction none none, answers := allOk }

def commitEvent (answers : Answers) : Event Unit :=
  { statement := .commit false, answers := answers }

/-- A busy COMMIT, after which the transaction is still there. -/
theorem transaction_flag_agrees_busyCommit :
    Opened (initialConnection emptyContents) ∧
    Consistent (execute (execute (initialConnection emptyContents) startTransactionEvent).1.1
      (commitEvent (answersExcept .commit .failed))).1.1 := by
  refine ⟨initialConnection_opened _, ?_⟩
  have started : Agreeable (initialConnection emptyContents) startTransactionEvent := by
    intro active
    cases active
  have busy : Agreeable (execute (initialConnection emptyContents) startTransactionEvent).1.1
      (commitEvent (answersExcept .commit .failed)) := by
    intro _
    decide
  apply transaction_flag_agrees (initialConnection_opened emptyContents)
  exact .next (.next .refl started rfl) busy rfl

/-- A COMMIT that SQLite turns into a rollback leaves the flag on. -/
theorem rolledBackCommit_keeps_flag :
    ¬ ∀ (start connection : Connection Unit), Opened start →
      Transition.Reaches step (fun _ _ => True) start connection → Consistent connection := by
  intro claim
  have consistent := claim (initialConnection emptyContents)
    (execute (execute (initialConnection emptyContents) startTransactionEvent).1.1
      (commitEvent (answersExcept .commit .rolledBack))).1.1
    (initialConnection_opened emptyContents)
    (.next (.next .refl trivial rfl) trivial rfl)
  rcases consistent.1 with uncertain | agrees
  · exact absurd uncertain (by decide)
  · exact absurd (agrees.mp (by decide)) (by decide)

end MyLite.Transactions
