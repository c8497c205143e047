import MyLite.Session.TransactionFlag

/-! The statements when SQLite answers every control call: what each can leave. -/

namespace MyLite.Transactions

open Snapshots (Store Transaction)

variable {Rows : Type} {answers : Answers} {site : Site} {connection : Connection Rows}

def Site.isControl : Site → Bool
  | .applyHighWaters => false
  | .temporaryTables => false
  | .synchronize => false
  | .replan => false
  | .body => false
  | _ => true

/-- Every control call succeeds; the work between them may fail. -/
def Answered (answers : Answers) : Prop :=
  ∀ site : Site, site.isControl = true → answers site = .ok

/-- After a BEGIN. -/
def opening (connection : Connection Rows) : Connection Rows :=
  connection.withSqlite connection.sqlite.data (some ⟨connection.sqlite.data, true, []⟩)

theorem Answered.begin (answered : Answered answers) (control : site.isControl = true)
    (closed : connection.sqlite.transaction = none) :
    call answers site .begin connection = (opening connection, true) := by
  rcases call_begin answers site connection with ⟨_, _, result⟩ | ⟨_, isOpen | refused⟩
  · exact result
  · rw [closed] at isOpen
    cases isOpen
  · exact absurd (answered site control) refused

section InTransaction

variable {transaction : Transaction SqliteName (Contents Rows)}

theorem Answered.commit (answered : Answered answers) (control : site.isControl = true)
    (opened : connection.sqlite.transaction = some transaction) :
    call answers site .commit connection =
      (connection.withSqlite connection.sqlite.data none, true) := by
  have answer := answered site control
  rcases call_commit answers site connection with
    ⟨_, _, _, result⟩ | ⟨_, closed | failed⟩ | ⟨_, _, failed, _⟩
  · exact result
  · rw [closed] at opened
    cases opened
  · rw [answer] at failed
    cases failed
  · rw [answer] at failed
    cases failed

theorem Answered.rollback (answered : Answered answers) (control : site.isControl = true)
    (opened : connection.sqlite.transaction = some transaction) :
    call answers site .rollback connection =
      (connection.withSqlite transaction.start none, true) := by
  rcases call_rollback answers site connection with
    ⟨other, isOpened, _, result⟩ | ⟨_, closed | refused⟩
  · rw [opened] at isOpened
    cases isOpened
    exact result
  · rw [closed] at opened
    cases opened
  · exact absurd (answered site control) refused

theorem Answered.savepoint (answered : Answered answers) (control : site.isControl = true)
    (name : SqliteName) (opened : connection.sqlite.transaction = some transaction) :
    call answers site (.savepoint name) connection =
      (connection.withSqlite connection.sqlite.data (some { transaction with
        savepoints := (name, connection.sqlite.data) :: transaction.savepoints }), true) := by
  rcases call_savepoint answers site name opened with ⟨_, result⟩ | ⟨refused, _⟩
  · exact result
  · exact absurd (answered site control) refused

end InTransaction

/-! The end of a user transaction. -/

/-- The data with the counters reconciled, where there is anything to reconcile. -/
def Flushed (connection : Connection Rows) (data : Contents Rows) : Prop :=
  (hasPersistentAutoIncrementHighWaterUpdates connection.session = false ∧
    data = connection.sqlite.data) ∨ data = raised connection

theorem Answered.reconcile (answered : Answered answers) (connection : Connection Rows) :
    (∃ data, Flushed connection data ∧
      reconcilePersistentAutoIncrementHighWaters answers connection =
        (connection.withSqlite data connection.sqlite.transaction, true)) ∨
    reconcilePersistentAutoIncrementHighWaters answers connection = (connection, false) := by
  rcases reconcile_cases answers connection with ⟨none, result⟩ | result | result | stuck
  · exact Or.inl ⟨connection.sqlite.data, Or.inl ⟨none, rfl⟩, result⟩
  · exact Or.inl ⟨raised connection, Or.inr rfl, result⟩
  · exact Or.inr result
  · obtain ⟨_, _, stays, _⟩ := stuck
    exact absurd (Or.inl (answered .reconcileRollback rfl)) stays

def committed (connection : Connection Rows) (data : Contents Rows) : Connection Rows :=
  (connection.withSqlite data none).withSession fun session =>
    clearPersistentAutoIncrementHighWaters (endUserTransaction session)

def rolledBack (connection : Connection Rows) (data : Contents Rows) : Connection Rows :=
  (connection.withSqlite data none).withSession endUserTransaction

/-- A connection without a user transaction, after the end of one if there was one. -/
inductive Ended (connection : Connection Rows) : Connection Rows → Prop where
  | idle (inactive : connection.session.userTransactionActive = false) :
      Ended connection connection
  | committed {data : Contents Rows}
      (active : connection.session.userTransactionActive = true)
      (flushed : Flushed connection data) : Ended connection (committed connection data)
  | rolledBack {transaction : Transaction SqliteName (Contents Rows)}
      (opened : connection.sqlite.transaction = some transaction) :
      Ended connection (rolledBack connection transaction.start)
  | reconciled {transaction : Transaction SqliteName (Contents Rows)} {data : Contents Rows}
      (opened : connection.sqlite.transaction = some transaction)
      (flushed : Flushed (Transactions.rolledBack connection transaction.start) data) :
      Ended connection (Transactions.committed connection data)

theorem Ended.settled {after : Connection Rows} (ended : Ended connection after)
    (settled : Settled false connection) : Settled false after := by
  cases ended with
  | idle => exact settled
  | committed => exact settled.ended _ _ fun _ => ⟨rfl, rfl, rfl⟩
  | rolledBack => exact settled.ended _ _ fun _ => ⟨rfl, rfl, rfl⟩
  | reconciled => exact settled.ended _ _ fun _ => ⟨rfl, rfl, rfl⟩

theorem Ended.inactive {after : Connection Rows} (ended : Ended connection after) :
    after.session.userTransactionActive = false := by
  cases ended with
  | idle inactive => exact inactive
  | committed => rfl
  | rolledBack => rfl
  | reconciled => rfl

theorem Answered.commitActive (answered : Answered answers) (settled : Settled false connection) :
    commitActiveUserTransaction answers connection = (connection, false) ∨
    ∃ after, Ended connection after ∧
      commitActiveUserTransaction answers connection = (after, true) := by
  unfold commitActiveUserTransaction
  split
  · rename_i inactive
    exact Or.inr ⟨connection, .idle (by simpa using inactive), rfl⟩
  · rename_i running
    have active : connection.session.userTransactionActive = true := by simpa using running
    obtain ⟨transaction, opened, _⟩ := settled.opened active
    rcases answered.reconcile connection with ⟨data, flushed, result⟩ | result
    · right
      refine ⟨committed connection data, .committed active flushed, ?_⟩
      have flushedOpen : (connection.withSqlite data connection.sqlite.transaction).sqlite.transaction =
          some transaction := opened
      rw [result, andThen_true, answered.commit rfl flushedOpen, andThen_true]
      rfl
    · left
      rw [result, andThen_false, andThen_false]

theorem Answered.rollbackActive (answered : Answered answers)
    (settled : Settled false connection) :
    ∃ after, Ended connection after ∧
      (rollbackActiveUserTransaction answers connection).1 = after := by
  refine ⟨_, ?_, rfl⟩
  unfold rollbackActiveUserTransaction
  split
  · rename_i inactive
    exact .idle (by simpa using inactive)
  · rename_i running
    have active : connection.session.userTransactionActive = true := by simpa using running
    obtain ⟨transaction, opened, _⟩ := settled.opened active
    rw [answered.rollback rfl opened, andThen_true]
    change Ended connection
      (reconcileAfterRollback answers (rolledBack connection transaction.start)).1
    unfold reconcileAfterRollback
    split
    · rcases answered.reconcile (rolledBack connection transaction.start) with
        ⟨data, flushed, result⟩ | result
      · rw [result, andThen_true]
        exact .reconciled opened flushed
      · rw [result, andThen_false]
        exact .rolledBack opened
    · exact .rolledBack opened

/-- A user transaction has been started. -/
def started (readOnly : Bool) (isolation : Isolation) (connection : Connection Rows) :
    Connection Rows :=
  (opening connection).withSession (startUserTransaction readOnly isolation)

theorem Answered.beginUser (answered : Answered answers)
    (closed : connection.sqlite.transaction = none) (readOnly : Bool) (isolation : Isolation) :
    beginUserTransaction answers readOnly isolation connection =
      (started readOnly isolation connection, true) := by
  unfold beginUserTransaction
  rw [answered.begin rfl closed, andThen_true]
  rfl

/-- What a statement that ends the transaction can leave. -/
inductive Ends (connection : Connection Rows) : Result Rows → Prop where
  | refused : Ends connection (connection, false)
  | ended {after : Connection Rows} (ok : Bool) (ended : Ended connection after) :
      Ends connection (after, ok)
  | chained {after : Connection Rows} (readOnly : Bool) (isolation : Isolation)
      (ended : Ended connection after) :
      Ends connection (started readOnly isolation after, true)

section TransactionStatements

variable (answered : Answered answers) (settled : Settled false connection)

include answered settled

theorem Answered.afterEnd {after : Connection Rows} (ended : Ended connection after)
    (readOnly : Bool) (isolation : Isolation) :
    Ends connection (beginUserTransaction answers readOnly isolation after) := by
  have closed := (ended.settled settled).closed ended.inactive
  rw [answered.beginUser closed]
  exact .chained readOnly isolation ended

theorem Answered.beginChained {after : Connection Rows} (ended : Ended connection after)
    (chain : Bool) (characteristics : Bool × Isolation) :
    Ends connection (beginChained chain answers characteristics after) := by
  unfold Transactions.beginChained
  split
  · exact answered.afterEnd settled ended _ _
  · exact .ended true ended

theorem Answered.startTransaction (readOnly : Option Bool) (isolation : Option Isolation) :
    Ends connection
      (executeStartTransactionStatement readOnly isolation answers connection) := by
  unfold executeStartTransactionStatement
  rcases answered.commitActive settled with result | ⟨after, ended, result⟩
  · rw [result, andThen_false]
    exact .refused
  · rw [result, andThen_true]
    exact answered.afterEnd settled ended _ _

theorem Answered.commitStatement (chain : Bool) :
    Ends connection (executeCommitStatement chain answers connection) := by
  unfold executeCommitStatement
  rcases answered.commitActive settled with result | ⟨after, ended, result⟩
  · rw [result, andThen_false]
    exact .refused
  · rw [result, andThen_true]
    exact answered.beginChained settled ended chain _

theorem Answered.implicitCommit :
    Ends connection (commitActiveUserTransaction answers connection) := by
  rcases answered.commitActive settled with result | ⟨after, ended, result⟩
  · rw [result]
    exact .refused
  · rw [result]
    exact .ended true ended

theorem Answered.rollbackStatement (chain : Bool) :
    Ends connection (executeRollbackStatement chain answers connection) := by
  obtain ⟨after, ended, result⟩ := answered.rollbackActive settled
  unfold executeRollbackStatement Result.andThen
  split
  · rw [result]
    exact answered.beginChained settled ended chain _
  · rw [result]
    exact .ended false ended

end TransactionStatements

/-! User savepoints. -/

section Savepoints

variable {transaction : Transaction SqliteName (Contents Rows)}

/-- The savepoint a name is registered with. -/
def newSavepoint (name : List UInt8) (session : Session) : Savepoint :=
  ⟨name, foldSavepointName name, .user session.connectionId session.nextSavepointId⟩

def registering (name : List UInt8) (session : Session) : Session :=
  { session with
    savepoints := session.savepoints.eraseP
      (fun savepoint => savepoint.foldedName = foldSavepointName name) ++
      [newSavepoint name session]
    nextSavepointId := session.nextSavepointId + 1 }

theorem Answered.createSavepoint (answered : Answered answers) (name : List UInt8)
    (opened : connection.sqlite.transaction = some transaction) :
    createOrReplaceUserSavepoint name answers connection = (connection, false) ∨
    createOrReplaceUserSavepoint name answers connection =
      ((connection.withSqlite connection.sqlite.data (some { transaction with
        savepoints := ((newSavepoint name connection.session).sqliteName, connection.sqlite.data) ::
          transaction.savepoints })).withSession (registering name), true) := by
  unfold createOrReplaceUserSavepoint
  dsimp only
  split
  · exact Or.inl rfl
  · right
    rw [answered.savepoint rfl _ opened, andThen_true]
    simp only [Connection.withSession, registering, withSqlite_session, List.eraseP_eq_eraseIdx]
    rfl

/-- How a rollback to a registered savepoint, or its release, can end. -/
theorem Answered.rollbackTo (answered : Answered answers) {name : List UInt8} {index : Nat}
    {savepoint : Savepoint}
    (registered : registeredSavepoint connection.session name = some (index, savepoint))
    (opened : connection.sqlite.transaction = some transaction)
    {target : SqliteName × Contents Rows} {below : List (SqliteName × Contents Rows)}
    (found : Store.fromName transaction.savepoints savepoint.sqliteName = target :: below) :
    executeRollbackToSavepointStatement name answers connection =
      ((connection.withSqlite target.2 (some { transaction with
        savepoints := target :: below })).withSession fun session =>
          { session with savepoints := session.savepoints.take (index + 1) },
        decide (answers .temporaryTables = .ok)) := by
  unfold executeRollbackToSavepointStatement
  rw [registered]
  dsimp only
  rcases call_rollbackTo answers .rollbackTo savepoint.sqliteName opened with
    ⟨target, rest, same, _, result⟩ | ⟨_, missing | refused⟩
  · rw [found] at same
    cases same
    rw [result, andThen_true]
  · rw [found] at missing
    cases missing
  · exact absurd (answered .rollbackTo rfl) refused

theorem Answered.release (answered : Answered answers) {name : List UInt8} {index : Nat}
    {savepoint : Savepoint}
    (registered : registeredSavepoint connection.session name = some (index, savepoint))
    (opened : connection.sqlite.transaction = some transaction)
    (explicit : transaction.explicit = true)
    {target : SqliteName × Contents Rows} {below : List (SqliteName × Contents Rows)}
    (found : Store.fromName transaction.savepoints savepoint.sqliteName = target :: below) :
    executeReleaseSavepointStatement name answers connection =
      ((connection.withSqlite connection.sqlite.data (some { transaction with
        savepoints := below })).withSession fun session =>
          { session with savepoints := session.savepoints.take index }, true) := by
  unfold executeReleaseSavepointStatement
  rw [registered]
  dsimp only
  rcases call_release answers .release savepoint.sqliteName opened explicit with
    ⟨_, rest, same, _, result⟩ | ⟨_, missing | refused⟩
  · rw [found] at same
    cases same
    rw [result, andThen_true]
  · rw [found] at missing
    cases missing
  · exact absurd (answered .release rfl) refused

end Savepoints

/-! Statement transactions. -/

section StatementTransactions

variable {transaction : Transaction SqliteName (Contents Rows)}

theorem Answered.finishSavepoint (answered : Answered answers) (connection : Connection Rows)
    (explicit : transaction.explicit = true) (before after : Contents Rows) (ok : Bool) :
    finishStatementTransaction answers
      { connection := inStatement connection transaction before after
        transaction := savepointTransaction
        ok := ok } =
      (connection.withSqlite (if ok then after else before) (some transaction), ok) := by
  cases ok with
  | true =>
    rcases completion_inStatement answers connection explicit before after with
      ⟨_, result⟩ | ⟨refused, _⟩
    · rw [finish_ok (commitStatement_done rfl result)]
      rfl
    · exact absurd (answered .statementRelease rfl) refused
  | false =>
    rcases cleanup_inStatement answers connection explicit before after with
      result | ⟨refused, _⟩
    · rw [finish_not_ok, rollbackStatement_done rfl result]
      rfl
    · exact absurd ⟨answered .statementRollbackTo rfl, answered .cleanupRelease rfl⟩ refused

theorem Answered.commitDirect (answered : Answered answers)
    (opened : connection.sqlite.transaction = some transaction) :
    commitStatementTransaction answers connection directTransaction =
      { connection := connection.withSqlite connection.sqlite.data none
        transaction := noTransaction
        ok := true } :=
  commitStatement_done rfl (answered.commit rfl opened)

theorem Answered.rollbackDirect (answered : Answered answers)
    (opened : connection.sqlite.transaction = some transaction) :
    rollbackStatementTransaction answers connection directTransaction =
      { connection := connection.withSqlite transaction.start none
        transaction := noTransaction
        ok := false } :=
  rollbackStatement_done rfl (answered.rollback rfl opened)

theorem Answered.finishDirect (answered : Answered answers)
    (opened : connection.sqlite.transaction = some transaction) (ok : Bool) :
    finishStatementTransaction answers
      { connection := connection, transaction := directTransaction, ok := ok } =
      (connection.withSqlite (if ok then connection.sqlite.data else transaction.start) none,
        ok) := by
  cases ok with
  | true =>
    rw [finish_ok (answered.commitDirect opened)]
    rfl
  | false =>
    rw [finish_not_ok, answered.rollbackDirect opened]
    rfl

end StatementTransactions

/-- What the counter work of a statement gives in a transaction on the connection. -/
def Counted (work : Work Rows) (home : Connection Rows) (contents : Contents Rows)
    (recorded : Option Int) : Prop :=
  match work.counter with
  | none => contents = home.sqlite.data ∧ recorded = none
  | some counter => ∃ transaction, advanceCounter
      (home.withSqlite home.sqlite.data (some transaction)) counter = some (contents, recorded)

/-- What a statement that writes leaves of the contents it counted on. -/
def Work.write (work : Work Rows) (contents : Contents Rows) : Contents Rows :=
  { contents with rows := work.rows contents.rows }

/-- A body that succeeds has written what it counted. -/
theorem executeBody_cases (answers : Answers) (work : Work Rows) (home : Connection Rows)
    (transaction : Transaction SqliteName (Contents Rows)) :
    ∃ data ok recorded,
      executeBody answers work (home.withSqlite home.sqlite.data (some transaction)) =
        ((home.withSqlite data (some transaction), ok), recorded) ∧
      (ok = true → ∃ contents, Counted work home contents recorded ∧
        data = work.write contents) := by
  unfold executeBody Counted
  cases work.counter with
  | none =>
    refine ⟨_, _, _, rfl, ?_⟩
    intro _
    exact ⟨home.sqlite.data, ⟨rfl, rfl⟩, rfl⟩
  | some counter =>
    dsimp only
    cases counted : advanceCounter (home.withSqlite home.sqlite.data (some transaction))
        counter with
    | none =>
      refine ⟨_, false, _, rfl, ?_⟩
      intro failed
      cases failed
    | some result =>
      refine ⟨_, _, _, rfl, ?_⟩
      intro _
      exact ⟨result.1, ⟨transaction, counted⟩, rfl⟩

/-- Where a statement runs: a session with autocommit disabled starts a transaction. -/
inductive Home (connection : Connection Rows) : Connection Rows → Prop where
  | same : Home connection connection
  | started (readOnly : Bool) (isolation : Isolation)
      (inactive : connection.session.userTransactionActive = false)
      (closed : connection.sqlite.transaction = none) :
      Home connection (started readOnly isolation connection)

theorem Home.settled {home : Connection Rows} (begun : Home connection home)
    (settled : Settled false connection) : Settled false home := by
  cases begun with
  | same => exact settled
  | started readOnly isolation inactive closed =>
    have answered : Answered allOk := fun _ _ => rfl
    have begun := settled.beginUser allOk readOnly isolation
    rw [answered.beginUser closed] at begun
    exact begun

/-- What a statement that writes can leave of the connection it runs on. -/
inductive Wrote (work : Work Rows) (home : Connection Rows) : Result Rows × Option Int → Prop where
  | failed (recorded : Option Int) : Wrote work home ((home, false), recorded)
  | wrote {contents : Contents Rows} {recorded : Option Int}
      (counted : Counted work home contents recorded) :
      Wrote work home
        ((home.withSqlite (work.write contents) home.sqlite.transaction, true), recorded)

/-- In a statement savepoint. -/
theorem Answered.executeInSavepoint (answered : Answered answers) (work : Work Rows)
    {home : Connection Rows} {transaction : Transaction SqliteName (Contents Rows)}
    (opened : home.sqlite.transaction = some transaction) (explicit : transaction.explicit = true)
    (begun : Progress Rows)
    (began : begun = { connection := inStatement home transaction home.sqlite.data home.sqlite.data
                       transaction := savepointTransaction
                       ok := true }) :
    Wrote work home (executeBegun work answers begun) := by
  subst began
  obtain ⟨data, ok, recorded, result, wrote⟩ := executeBody_cases answers work home
    { transaction with savepoints := (.statement, home.sqlite.data) :: transaction.savepoints }
  have result : executeBody answers work
      (inStatement home transaction home.sqlite.data home.sqlite.data) =
      ((inStatement home transaction home.sqlite.data data, ok), recorded) := result
  unfold executeBegun
  dsimp only
  rw [if_pos rfl, result, answered.finishSavepoint home explicit, ← opened]
  cases ok with
  | false => exact .failed recorded
  | true =>
    obtain ⟨contents, counted, rfl⟩ := wrote rfl
    exact .wrote counted

/-- In a transaction of the statement's own. -/
theorem Answered.executeDirect (answered : Answered answers) (work : Work Rows)
    {home : Connection Rows} (closed : home.sqlite.transaction = none) (begun : Progress Rows)
    (began : begun = { connection := opening home, transaction := directTransaction
                       ok := begun.ok }) :
    Wrote work home (executeBegun work answers begun) := by
  have opened : ∀ data, (home.withSqlite data
      (some ⟨home.sqlite.data, true, []⟩)).sqlite.transaction =
        some ⟨home.sqlite.data, true, []⟩ := fun _ => rfl
  have closing : ∀ data data', (home.withSqlite data
      (some ⟨home.sqlite.data, true, []⟩)).withSqlite data' none =
        home.withSqlite data' home.sqlite.transaction := by
    intro _ _
    rw [closed]
    rfl
  rw [began]
  unfold executeBegun
  dsimp only
  cases begun.ok with
  | false =>
    rw [if_neg Bool.false_ne_true, opening, answered.finishDirect (opened _), closing]
    exact .failed none
  | true =>
    obtain ⟨data, ok, recorded, result, wrote⟩ := executeBody_cases answers work home
      ⟨home.sqlite.data, true, []⟩
    rw [if_pos rfl, opening, result, answered.finishDirect (opened _), closing]
    cases ok with
    | false => exact .failed recorded
    | true =>
      obtain ⟨contents, counted, rfl⟩ := wrote rfl
      exact .wrote counted

/-- A plan that is given up closes its transaction. -/
theorem Answered.replan (answered : Answered answers)
    (closed : connection.sqlite.transaction = none) :
    rollbackStatementTransaction answers (opening connection) directTransaction =
      { connection := connection, transaction := noTransaction, ok := false } := by
  have opened : (opening connection).sqlite.transaction =
      some ⟨connection.sqlite.data, true, []⟩ := rfl
  have same : (opening connection).withSqlite connection.sqlite.data none = connection := by
    rw [← closed]
    rfl
  rw [answered.rollbackDirect opened, same]

theorem Answered.beginDisabled (answered : Answered answers)
    (closed : connection.sqlite.transaction = none)
    (disabled : (connection.session.userTransactionActive ||
      connection.session.autocommitEnabled) = false) :
    beginAutocommitDisabledTransaction answers connection =
      (started (currentTransactionReadOnly connection.session)
        (currentTransactionIsolation connection.session) connection, true) := by
  unfold beginAutocommitDisabledTransaction
  rw [disabled, if_neg Bool.false_ne_true, answered.beginUser closed]

theorem Answered.executeBegun {planning : Bool} (answered : Answered answers)
    (settled : Settled planning connection) (work : Work Rows) :
    ∃ home, Home connection home ∧
      Wrote work home (executeBegun work answers (beginStatementTransaction answers connection)) := by
  unfold beginStatementTransaction
  rw [settled.planned]
  split
  · rename_i active
    obtain ⟨transaction, opened⟩ := settled.openedOr active
    refine ⟨connection, .same, ?_⟩
    apply answered.executeInSavepoint work opened (settled.explicit transaction opened)
    rw [answered.savepoint rfl .statement opened]
    rfl
  · rename_i idle
    simp only [Bool.or_eq_true, not_or, Bool.not_eq_true] at idle
    obtain ⟨inactive, rfl⟩ := idle
    have closed := settled.closed inactive
    split
    · rename_i disabled
      have opened : (started (currentTransactionReadOnly connection.session)
          (currentTransactionIsolation connection.session) connection).sqlite.transaction =
          some ⟨connection.sqlite.data, true, []⟩ := rfl
      refine ⟨_, .started (currentTransactionReadOnly connection.session)
        (currentTransactionIsolation connection.session) inactive closed, ?_⟩
      rw [answered.beginDisabled closed (by simpa [inactive] using disabled), andThen_true,
        answered.savepoint rfl .statement opened]
      exact answered.executeInSavepoint work opened rfl _ rfl
    · refine ⟨connection, .same, ?_⟩
      rw [answered.begin rfl closed]
      dsimp only
      split
      · change Wrote work connection (Transactions.executeBegun work answers
          (rollbackStatementTransaction answers (opening connection) directTransaction))
        rw [answered.replan closed]
        exact .failed none
      · exact answered.executeDirect work closed _ rfl

/-- What a statement that writes can leave. -/
inductive Executed (work : Work Rows) (connection : Connection Rows) :
    Result Rows × Option Int → Prop where
  | failed {home : Connection Rows}
      (begun : Home (connection.withSession (reserveCounter work.counter)) home) :
      Executed work connection ((home, false), none)
  | wrote {home : Connection Rows} {contents : Contents Rows} {recorded : Option Int}
      (begun : Home (connection.withSession (reserveCounter work.counter)) home)
      (counted : Counted work home contents recorded) :
      Executed work connection
        (((home.withSqlite (work.write contents) home.sqlite.transaction).withSession
          (recordCounter work.counter recorded), true), recorded)

theorem Answered.write {planning : Bool} (answered : Answered answers)
    (settled : Settled planning connection) (work : Work Rows) :
    Executed work connection (executeWrite work answers connection) := by
  have reserved := settled.frame _ (reserveCounter_frame work.counter)
  obtain ⟨home, begun, wrote⟩ := answered.executeBegun reserved work
  unfold executeWrite
  dsimp only
  generalize Transactions.executeBegun work answers (beginStatementTransaction answers
    (connection.withSession (reserveCounter work.counter))) = result at wrote
  cases wrote with
  | failed recorded => exact .failed begun
  | wrote counted => exact .wrote begun counted

theorem Answered.readDirect (answered : Answered answers)
    (closed : connection.sqlite.transaction = none) :
    let begun := synchronized answers
      (began directTransaction (call answers .statementBegin .begin connection))
    Home connection (finishStatementTransaction answers
      { begun with ok := begun.ok && answers .body = .ok }).1 := by
  have opened : (opening connection).sqlite.transaction =
      some ⟨connection.sqlite.data, true, []⟩ := rfl
  have same : (opening connection).withSqlite connection.sqlite.data none = connection := by
    rw [← closed]
    rfl
  rw [answered.begin rfl closed]
  dsimp only [synchronized, began]
  rw [if_pos rfl, answered.finishDirect opened]
  have sameData : (opening connection).sqlite.data = connection.sqlite.data := rfl
  rw [sameData, ite_self, same]
  exact .same

/-- What a statement that only reads can leave. -/
theorem Answered.read (answered : Answered answers) (settled : Settled false connection) :
    Home connection (executeRead beginReadStatementTransaction answers connection).1 := by
  unfold executeRead beginReadStatementTransaction
  split
  · dsimp only [synchronized, began]
    rw [if_pos rfl, finish_none]
    exact .same
  · rename_i idle
    simp only [Bool.or_eq_true, not_or, Bool.not_eq_true] at idle
    have closed := settled.closed idle.1
    split
    · rename_i disabled
      rw [answered.beginDisabled closed (by simpa [idle.1] using disabled)]
      dsimp only [synchronized, began]
      rw [if_pos rfl, finish_none]
      exact .started _ _ idle.1 closed
    · exact answered.readDirect closed

theorem Answered.prepare (answered : Answered answers) (connection : Connection Rows) :
    Home connection (executeRead beginPrepareTransaction answers connection).1 := by
  unfold executeRead beginPrepareTransaction
  split
  · dsimp only [synchronized, began]
    rw [if_pos rfl, finish_none]
    exact .same
  · rename_i closed
    apply answered.readDirect
    simpa [Store.isOpen] using closed

/-! Statements planned under the write lock. -/

/-- In the planning transaction. -/
def planningOn (connection : Connection Rows) : Connection Rows :=
  { opening connection with writerStablePlanningTransactionActive := true }

theorem planningOn_settled (settled : Settled false connection)
    (inactive : connection.session.userTransactionActive = false) :
    Settled true (planningOn connection) := by
  refine ⟨?_, fun _ => inactive, ?_, settled.idle, settled.certain, rfl⟩
  · exact (Bool.or_true _).symm
  · intro transaction opened
    cases opened
    rfl

theorem Answered.beginPlanning (answered : Answered answers)
    (closed : connection.sqlite.transaction = none) :
    beginWriterStablePlanningTransaction answers connection =
      if answers .synchronize = .ok then
        { connection := planningOn connection, transaction := directTransaction, ok := true }
      else { connection := connection, transaction := noTransaction, ok := false } := by
  unfold beginWriterStablePlanningTransaction
  rw [answered.begin rfl closed]
  dsimp only [synchronized, began]
  by_cases synchronized : answers .synchronize = .ok
  · simp only [synchronized]
    rfl
  · rw [if_neg synchronized, if_pos rfl, decide_eq_false synchronized, Bool.and_false,
      if_neg Bool.false_ne_true, answered.replan closed]

/-- The planning transaction is over. -/
theorem endPlanning (settled : Settled false connection)
    (inactive : connection.session.userTransactionActive = false) (data after : Contents Rows)
    (change : Session → Session) (transaction : Option (Transaction SqliteName (Contents Rows))) :
    ({ ((planningOn connection).withSqlite data transaction).withSession change with
      writerStablePlanningTransactionActive := false }).withSqlite after none =
      (connection.withSqlite after connection.sqlite.transaction).withSession change := by
  have planned := settled.planned
  rw [settled.closed inactive]
  unfold planningOn opening Connection.withSession Connection.withSqlite
  dsimp only
  rw [planned]

theorem advanceCounter_congr {first second : Connection Rows}
    (session : first.session = second.session) (sqlite : first.sqlite = second.sqlite)
    (counter : CounterWork) : advanceCounter first counter = advanceCounter second counter := by
  unfold advanceCounter readCurrentAutoIncrementNextAfterWriteLock
  rw [session, sqlite]

theorem Counted.congr {work : Work Rows} {first second : Connection Rows} {contents : Contents Rows}
    {recorded : Option Int} (counted : Counted work first contents recorded)
    (session : first.session = second.session) (data : first.sqlite.data = second.sqlite.data) :
    Counted work second contents recorded := by
  unfold Counted at counted ⊢
  cases given : work.counter with
  | none =>
    rw [given] at counted
    exact ⟨counted.1.trans data, counted.2⟩
  | some counter =>
    rw [given] at counted
    obtain ⟨transaction, result⟩ := counted
    refine ⟨transaction, ?_⟩
    rw [← result]
    apply advanceCounter_congr
    · exact session.symm
    · rw [Connection.withSqlite, Connection.withSqlite, data]

/-- What a planned statement can leave; `abandoned` when its planning transaction is
rolled back after the statement. -/
inductive Planned (work : Work Rows) (connection : Connection Rows) :
    Result Rows × Option Int → Prop where
  | refused {home : Connection Rows} (begun : Home connection home) :
      Planned work connection ((home, false), none)
  | executed {home : Connection Rows} {result : Result Rows × Option Int}
      (begun : Home connection home) (executed : Executed work home result) :
      Planned work connection result
  | abandoned (recorded : Option Int)
      (inactive : connection.session.userTransactionActive = false) :
      Planned work connection
        (((connection.withSession (reserveCounter work.counter)).withSession
          (recordCounter work.counter recorded), false), none)

/-- The planning transaction has no statement transaction to start. -/
theorem planningOn_home {home : Connection Rows} {change : Session → Session}
    (begun : Home ((planningOn connection).withSession change) home) :
    home = (planningOn connection).withSession change := by
  cases begun with
  | same => rfl
  | started readOnly isolation inactive closed => cases closed

/-- How `execute_parsed_statement` ends the planning transaction. -/
theorem Answered.endPlanned (answered : Answered answers) (settled : Settled false connection)
    (inactive : connection.session.userTransactionActive = false) {work : Work Rows}
    {executed : Result Rows × Option Int}
    (written : Executed work (planningOn connection) executed) :
    let planned := { executed.1.1 with writerStablePlanningTransactionActive := false }
    Planned work connection (if executed.1.2 && answers .body = .ok then
      let committed := commitStatementTransaction answers planned directTransaction
      ((committed.connection, committed.ok), if committed.ok then executed.2 else none)
    else
      let rolledBack := rollbackStatementTransaction answers planned directTransaction
      ((rolledBack.connection, false), none)) := by
  dsimp only
  cases written with
  | failed begun =>
    rw [planningOn_home begun, Bool.false_and, if_neg Bool.false_ne_true,
      answered.rollbackDirect rfl]
    have failed : Executed work connection (((connection.withSqlite connection.sqlite.data
        connection.sqlite.transaction).withSession (reserveCounter work.counter), false), none) :=
      .failed .same
    rw [← endPlanning settled inactive connection.sqlite.data connection.sqlite.data
      (reserveCounter work.counter) (planningOn connection).sqlite.transaction] at failed
    exact .executed .same failed
  | @wrote home contents recorded begun counted =>
    have home := planningOn_home begun
    subst home
    let change := fun session =>
      recordCounter work.counter recorded (reserveCounter work.counter session)
    have ended := fun after => endPlanning settled inactive (work.write contents) after change
      (planningOn connection).sqlite.transaction
    split
    · rw [answered.commitDirect rfl]
      have wrote : Executed work connection (((connection.withSqlite (work.write contents)
          connection.sqlite.transaction).withSession change, true), recorded) :=
        .wrote .same (counted.congr rfl rfl)
      rw [← ended] at wrote
      exact .executed .same wrote
    · rw [answered.rollbackDirect rfl]
      have abandoned : Planned work connection (((connection.withSqlite connection.sqlite.data
          connection.sqlite.transaction).withSession change, false), none) :=
        .abandoned recorded inactive
      rw [← ended] at abandoned
      exact abandoned

theorem Answered.planned {inner : Answers} (answered : Answered answers)
    (innerAnswered : Answered inner) (settled : Settled false connection) (work : Work Rows)
    (commitsImplicitly : Bool) :
    Planned work connection
      (executePlanned work commitsImplicitly inner answers connection) := by
  unfold executePlanned
  split
  · exact .executed .same (innerAnswered.write settled work)
  · rename_i idle
    have inactive : connection.session.userTransactionActive = false := by simpa using idle
    have closed := settled.closed inactive
    split
    · rename_i disabled
      have enabled : connection.session.autocommitEnabled = false := by
        simp only [Bool.and_eq_true] at disabled
        simpa using disabled.1
      have home := Home.started (currentTransactionReadOnly connection.session)
        (currentTransactionIsolation connection.session) inactive closed
      have begun := settled.beginDisabled answers
      rw [answered.beginDisabled closed (by simp [inactive, enabled])] at begun ⊢
      dsimp only
      split
      · exact .executed home (innerAnswered.write begun work)
      · exact .refused home
    · rw [answered.beginPlanning closed]
      dsimp only
      by_cases synchronized : answers .synchronize = .ok
      · rw [if_pos synchronized]
        dsimp only
        rw [if_neg (by decide)]
        exact answered.endPlanned settled inactive
          (innerAnswered.write (planningOn_settled settled inactive) work)
      · rw [if_neg synchronized]
        exact .refused .same

/-! Whole statements. -/

/-- Every control call of the statement succeeds. -/
def Event.Answered (event : Event Rows) : Prop :=
  Transactions.Answered event.answers ∧
    match event.statement with
    | .planned _ _ inner => Transactions.Answered inner
    | _ => True

theorem Answered.commitStays (answered : Answered answers) (session : Session) :
    CommitStays answers session := by
  intro _ rolledBack
  rw [answered .commit rfl] at rolledBack
  cases rolledBack

theorem Answered.savepointEnds (answered : Answered answers) : SavepointEnds answers :=
  ⟨answered .statementRelease rfl, answered .statementRollbackTo rfl, answered .cleanupRelease rfl⟩

theorem Event.Answered.agreeable {event : Event Rows} (answered : event.Answered)
    (connection : Connection Rows) : Agreeable connection event := by
  obtain ⟨statement, answers⟩ := event
  obtain ⟨answered, inner⟩ := answered
  cases statement with
  | startTransaction => exact answered.commitStays _
  | commit => exact answered.commitStays _
  | implicitCommit => exact answered.commitStays _
  | setAutocommit => exact answered.commitStays _
  | rollback =>
    intro _
    exact Or.inl (answered .reconcileRollback rfl)
  | write => exact Or.inr answered.savepointEnds
  | planned => exact Or.inr inner.savepointEnds
  | savepoint => trivial
  | rollbackToSavepoint => trivial
  | releaseSavepoint => trivial
  | setInsertId => trivial
  | setAutoIncrementIncrement => trivial
  | setAutoIncrementOffset => trivial
  | read => trivial
  | prepare => trivial

theorem Home.uncertain {home : Connection Rows} (begun : Home connection home) :
    home.transactionStateUncertain = connection.transactionStateUncertain := by
  cases begun <;> rfl

theorem Executed.uncertain {work : Work Rows} {result : Result Rows × Option Int}
    (executed : Executed work connection result) :
    result.1.1.transactionStateUncertain = connection.transactionStateUncertain := by
  cases executed with
  | failed begun => exact begun.uncertain
  | wrote begun => exact begun.uncertain

theorem Planned.uncertain {work : Work Rows} {result : Result Rows × Option Int}
    (planned : Planned work connection result) :
    result.1.1.transactionStateUncertain = connection.transactionStateUncertain := by
  cases planned with
  | refused begun => exact begun.uncertain
  | executed begun executed => exact executed.uncertain.trans begun.uncertain
  | abandoned => rfl

theorem setAutocommit_cases (answered : Answered answers) (settled : Settled false connection)
    (value : Bool) :
    applySetAutocommit value answers connection = (connection, false) ∨
    ∃ after, (after = connection ∨ Ended connection after) ∧
      applySetAutocommit value answers connection =
        (after.withSession fun session => { session with autocommitEnabled := value }, true) := by
  unfold applySetAutocommit
  split
  · rcases answered.commitActive settled with result | ⟨after, ended, result⟩
    · left
      rw [result, andThen_false]
    · right
      exact ⟨after, Or.inr ended, by rw [result, andThen_true]⟩
  · exact Or.inr ⟨connection, Or.inl rfl, rfl⟩

theorem Kept.settled (kept : Kept false connection)
    (certain : connection.transactionStateUncertain = false) : Settled false connection := by
  rcases kept with settled | poisoned
  · exact settled
  · rw [poisoned.uncertain] at certain
    cases certain

/-- The connection stays usable. -/
theorem Event.Answered.settled {event : Event Rows} (answered : event.Answered)
    (settled : Settled false connection) : Settled false (execute connection event).1.1 := by
  have kept : Kept false (execute connection event).1.1 :=
    Kept.execute (Or.inl settled) event (answered.agreeable connection)
  obtain ⟨statement, answers⟩ := event
  obtain ⟨calls, inner⟩ := answered
  have certain := settled.certain
  unfold execute at kept ⊢
  rw [certain, if_neg Bool.false_ne_true] at kept ⊢
  cases statement with
  | startTransaction readOnly isolation =>
    exact settled.startTransaction (calls.commitStays _) readOnly isolation
  | commit chain => exact settled.commit (calls.commitStays _) chain
  | rollback chain =>
    exact settled.rollback (fun _ => Or.inl (calls .reconcileRollback rfl)) chain
  | implicitCommit => exact settled.commitActive (calls.commitStays _)
  | savepoint name => exact settled.savepoint name
  | rollbackToSavepoint name => exact settled.rollbackToSavepoint name
  | releaseSavepoint name => exact settled.releaseSavepoint name
  | setAutocommit value => exact settled.setAutocommit (calls.commitStays _) value
  | setInsertId value => exact settled.setInsertId value
  | setAutoIncrementIncrement value => exact settled.setIncrement _
  | setAutoIncrementOffset value => exact settled.setOffset _
  | write work => exact kept.settled ((calls.write settled work).uncertain.trans certain)
  | planned work commitsImplicitly other =>
    exact kept.settled ((calls.planned inner settled work _).uncertain.trans certain)
  | read => exact kept.settled ((calls.read settled).uncertain.trans certain)
  | prepare => exact kept.settled ((calls.prepare connection).uncertain.trans certain)

end MyLite.Transactions
