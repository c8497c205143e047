import MyLite.Session.SetVariables

/-! A SET list is undone from a snapshot of the session when one of its assignments fails; what
the snapshot leaves out keeps what the list wrote. -/

namespace MyLite.SetStatement

variable {Expression : Type}

inductive Scope
  | unscoped
  | session
  | global

/-- What reading a value comes to: an error, a fixed assignment that changes nothing, or the
value to store. -/
inductive Answer (Setting : Type)
  | refused
  | noOperation
  | value (setting : Setting)

structure Cell where
  value : Option (List UInt8)
  valueKind : UserVariableValueKind

/-- How value expressions are evaluated and checked, and whether a commit succeeds. -/
structure Reader (Expression : Type) where
  effects : Session → Option Variable → Expression → List ExpressionEffect
  read : Session → (target : Variable) → Scope → Expression → Answer target.Setting
  cell : Session → Expression → Option Cell
  connectionCharacterSet : Session → Expression → Option (List UInt8 × List UInt8)
  commitSucceeds : Session → Bool

/-- The target of an assignment, a user variable with its folded and its displayed name when
they are legal. -/
inductive Target
  | unresolved
  | systemVariable (target : Variable) (scope : Scope)
  | userVariable (names : Option (List UInt8 × List UInt8))

structure Assignment (Expression : Type) where
  target : Target
  value : Expression

def Answer.apply (commitSucceeds : Bool) (session : Session) (target : Variable) :
    Answer target.Setting → Applied
  | .refused => ⟨[], false⟩
  | .noOperation => ⟨[], true⟩
  | .value setting => target.store commitSucceeds session setting

def applySetSystemVariableAssignment (reader : Reader Expression) (session : Session)
    (target : Variable) (scope : Scope) (expression : Expression) : Applied :=
  let evaluated := expressionWrites session (reader.effects session (some target) expression)
  let current := Fields.storeAll session evaluated
  let applied := (reader.read current target scope expression).apply
    (reader.commitSucceeds current) current target
  ⟨evaluated ++ applied.writes, applied.succeeded⟩

def assignedUserVariable (names : List UInt8 × List UInt8) (cell : Cell) : UserVariable where
  name := names.1
  displayName := names.2
  value := cell.value
  valueKind := if cell.value.isNone then .null else cell.valueKind

def applySetUserVariableAssignment (reader : Reader Expression) (session : Session)
    (names : Option (List UInt8 × List UInt8)) (expression : Expression) : Applied :=
  let evaluated := expressionWrites session (reader.effects session none expression)
  let current := Fields.storeAll session evaluated
  match reader.cell current expression, names with
  | some cell, some names =>
    ⟨evaluated ++ [⟨.userVariables,
      setSessionUserVariable (current .userVariables) (assignedUserVariable names cell)⟩], true⟩
  | _, _ => ⟨evaluated, false⟩

def applySetAssignment (reader : Reader Expression) (session : Session)
    (assignment : Assignment Expression) : Applied :=
  match assignment.target with
  | .unresolved => ⟨[], false⟩
  | .systemVariable target scope =>
    applySetSystemVariableAssignment reader session target scope assignment.value
  | .userVariable names => applySetUserVariableAssignment reader session names assignment.value

/-- The loop over the list, which stops at the first assignment that fails. -/
def applySetAssignments (reader : Reader Expression) :
    Session → List (Assignment Expression) → Session × Bool
  | session, [] => (session, true)
  | session, assignment :: rest =>
    let applied := applySetAssignment reader session assignment
    let after := Fields.storeAll session applied.writes
    if applied.succeeded then applySetAssignments reader after rest else (after, false)

/-- The fields that `set_session_snapshot` holds. -/
def snapshotFields : List Field :=
  [.sqlMode, .insertId, .autoIncrementIncrement, .autoIncrementOffset, .temptableMaxRam,
    .sqlSelectLimit, .groupConcatMaxLen, .informationSchemaStatsExpiry, .maxErrorCount,
    .waitTimeout, .interactiveTimeout, .longQueryTimeMicroseconds, .lockWaitTimeout,
    .innodbLockWaitTimeout, .netReadTimeout, .netRetryCount, .netWriteTimeout,
    .connectionMemoryChunkSize, .connectionMemoryLimit, .joinBufferSize, .myisamSortBufferSize,
    .sortBufferSize, .timestampOverride, .timeZoneOffsetMinutes, .sessionTransactionIsolation,
    .sessionTransactionAccessMode, .nextTransactionIsolation, .nextTransactionAccessMode,
    .internalTmpMemStorageEngine, .myisamStatsMethod, .sqlModeIsPlaceholder,
    .timeZoneIsPlaceholder, .characterSetStateIsPlaceholder, .systemVariablesArePlaceholder,
    .temptableMaxRamHasOverride, .randSeedStateInitialized, .bigTables, .foreignKeyChecksEnabled,
    .sqlRequirePrimaryKey, .lowPriorityUpdates, .autocommitEnabled, .hasNextTransactionIsolation,
    .hasNextTransactionAccessMode, .nextTransactionIsolationFromSystemVariable,
    .nextTransactionAccessModeFromSystemVariable, .hasTimestampOverride, .timeZone,
    .characterSetClient, .characterSetConnection, .characterSetResults, .collationConnection,
    .sqlModeText, .randSeed1, .randSeed2, .userVariables, .systemVariableOverrides]

def restoreSetSessionSnapshot (snapshot session : Session) : Session :=
  Fields.restore snapshotFields snapshot session

/-- A SET statement with a list of assignments, alone or after SET NAMES and SET CHARACTER
SET. -/
inductive Statement (Expression : Type)
  | assignments (list : List (Assignment Expression))
  | connectionCharacterSet (value : Expression) (tail : List (Assignment Expression))

def connectionCharacterSetWrites (charset collation : List UInt8) : List Write :=
  [⟨.characterSetClient, charset⟩, ⟨.characterSetConnection, charset⟩,
    ⟨.characterSetResults, charset⟩, ⟨.collationConnection, collation⟩,
    ⟨.characterSetStateIsPlaceholder, false⟩, ⟨.systemVariablesArePlaceholder, false⟩]

def applyConnectionCharacterSet (reader : Reader Expression) (session : Session)
    (value : Expression) (tail : List (Assignment Expression)) : Session × Bool :=
  match reader.connectionCharacterSet session value with
  | none => (session, false)
  | some (charset, collation) =>
    applySetAssignments reader
      (Fields.storeAll session (connectionCharacterSetWrites charset collation)) tail

def applySetStatement (reader : Reader Expression) (session : Session) :
    Statement Expression → Session × Bool
  | .assignments list =>
    let result := applySetAssignments reader session list
    if result.2 then result else (restoreSetSessionSnapshot session result.1, false)
  | .connectionCharacterSet value tail =>
    let result := applyConnectionCharacterSet reader session value tail
    if result.2 then result else (restoreSetSessionSnapshot session result.1, false)

/-! What an assignment writes outside the snapshot. -/

/-- The insert id and the clocks of UUID() and UUID_SHORT(). -/
def unsavedEffect (session : Session) : ExpressionEffect → List Write
  | .lastInsertId value => [⟨.lastInsertId, value⟩]
  | .uuid randomSequence randomNode now => uuidWrites session randomSequence randomNode now
  | .uuidShort now => uuidShortWrites session now
  | .rand | .userVariable _ => []

def unsavedExpressionWrites (session : Session) : List ExpressionEffect → List Write
  | [] => []
  | effect :: rest =>
    unsavedEffect session effect ++
      unsavedExpressionWrites (Fields.storeAll session (effect.writes session)) rest

/-- Four variables are stored outside the snapshot: `last_insert_id`, `pseudo_thread_id`,
`innodb_parallel_read_threads`, and the transaction that `autocommit = 1` commits. -/
def unsavedSetting (commitSucceeds : Bool) (session : Session) :
    (target : Variable) → target.Setting → List Write
  | .lastInsertId, value | .identity, value => [⟨.lastInsertId, value⟩]
  | .pseudoThreadId, value => [⟨.connectionId, min value pseudoThreadIdMax⟩]
  | .innodbParallelReadThreads, value => [⟨.innodbParallelReadThreads, value⟩]
  | .autocommit, value =>
    if autocommitCommits session value && commitSucceeds then commitActiveUserTransactionWrites
    else []
  | _, _ => []

def unsavedAnswer (commitSucceeds : Bool) (session : Session) (target : Variable) :
    Answer target.Setting → List Write
  | .refused | .noOperation => []
  | .value setting => unsavedSetting commitSucceeds session target setting

def unsavedAssignment (reader : Reader Expression) (session : Session)
    (assignment : Assignment Expression) : List Write :=
  match assignment.target with
  | .unresolved => []
  | .systemVariable target scope =>
    let effects := reader.effects session (some target) assignment.value
    let current := Fields.storeAll session (expressionWrites session effects)
    unsavedExpressionWrites session effects ++
      unsavedAnswer (reader.commitSucceeds current) current target
        (reader.read current target scope assignment.value)
  | .userVariable _ =>
    unsavedExpressionWrites session (reader.effects session none assignment.value)

/-- The unsaved writes of the assignments that are reached, the failing one included. -/
def unsavedAssignments (reader : Reader Expression) :
    Session → List (Assignment Expression) → List Write
  | _, [] => []
  | session, assignment :: rest =>
    let applied := applySetAssignment reader session assignment
    unsavedAssignment reader session assignment ++
      if applied.succeeded then
        unsavedAssignments reader (Fields.storeAll session applied.writes) rest
      else []

def unsavedWrites (reader : Reader Expression) (session : Session) :
    Statement Expression → List Write
  | .assignments list => unsavedAssignments reader session list
  | .connectionCharacterSet value tail =>
    match reader.connectionCharacterSet session value with
    | none => []
    | some (charset, collation) =>
      unsavedAssignments reader
        (Fields.storeAll session (connectionCharacterSetWrites charset collation)) tail

/-- Whatever was written outside the snapshot was last given the value it had before. -/
def UnsavedUnchanged (reader : Reader Expression) (session : Session)
    (statement : Statement Expression) : Prop :=
  ∀ field value, Fields.lastWrite field (unsavedWrites reader session statement) = some value →
    value = session field

end MyLite.SetStatement
