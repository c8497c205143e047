import Mathlib.Data.Nat.Basic
import MyLite.Library.Fields

/-! The session fields that SET reads and writes, and what each assignable variable stores. -/

namespace MyLite.SetStatement

inductive TransactionIsolation
  | repeatableRead
  | readCommitted
  | readUncommitted
  | serializable
deriving DecidableEq, Inhabited

inductive TransactionAccessMode
  | readWrite
  | readOnly
deriving DecidableEq, Inhabited

inductive InternalTmpMemStorageEngine
  | temptable
  | memory
deriving DecidableEq, Inhabited

inductive MyisamStatsMethod
  | nullsUnequal
  | nullsEqual
  | nullsIgnored
deriving DecidableEq, Inhabited

inductive UserVariableValueKind
  | null
  | integer
  | string
  | decimal
deriving DecidableEq

structure UserVariable where
  name : List UInt8
  displayName : List UInt8
  value : Option (List UInt8)
  valueKind : UserVariableValueKind
deriving DecidableEq

structure SystemVariableOverride where
  kind : Nat
  value : List UInt8
deriving DecidableEq

structure AutoIncrementHighWater where
  tableId : Int
  nextValue : Int
deriving DecidableEq

/-- The fields of `mylite_session_state`, less those of other statements. -/
inductive Field
  | sqlMode | connectionId | previousRowCount | foundRows | lastInsertId | insertId | statementId
  | autoIncrementIncrement | autoIncrementOffset | temptableMaxRam | sqlSelectLimit
  | groupConcatMaxLen | informationSchemaStatsExpiry | maxErrorCount | waitTimeout
  | interactiveTimeout | longQueryTimeMicroseconds | lockWaitTimeout | innodbLockWaitTimeout
  | netReadTimeout | netRetryCount | netWriteTimeout | innodbParallelReadThreads
  | connectionMemoryChunkSize | connectionMemoryLimit | joinBufferSize | myisamSortBufferSize
  | sortBufferSize | uuidLastTimestamp100ns | uuidShortStartupSeconds | uuidShortCounter
  | savepoints | userVariables | systemVariableOverrides | autoIncrementHighWaters
  | timestampOverride | timeZoneOffsetMinutes | uuidNode | uuidClockSequence | randSeed1 | randSeed2
  | sessionTransactionIsolation | sessionTransactionAccessMode | nextTransactionIsolation
  | nextTransactionAccessMode | activeTransactionIsolation | internalTmpMemStorageEngine
  | myisamStatsMethod | hasSelectedSchema | sqlModeIsPlaceholder | timeZoneIsPlaceholder
  | characterSetStateIsPlaceholder | systemVariablesArePlaceholder | temptableMaxRamHasOverride
  | randSeedStateInitialized | bigTables | foreignKeyChecksEnabled | sqlRequirePrimaryKey
  | lowPriorityUpdates | autocommitEnabled | userTransactionActive | hasNextTransactionIsolation
  | hasNextTransactionAccessMode | nextTransactionIsolationFromSystemVariable
  | nextTransactionAccessModeFromSystemVariable | activeTransactionReadOnly | hasTimestampOverride
  | uuidStateInitialized | uuidShortStateInitialized | selectedSchema | timeZone
  | characterSetClient | characterSetConnection | characterSetResults | collationConnection
  | sqlModeText
deriving DecidableEq

abbrev Field.Value : Field → Type
  | .sqlMode | .connectionId | .foundRows | .lastInsertId | .insertId | .statementId
  | .autoIncrementIncrement | .autoIncrementOffset | .temptableMaxRam | .sqlSelectLimit
  | .groupConcatMaxLen | .informationSchemaStatsExpiry | .maxErrorCount | .waitTimeout
  | .interactiveTimeout | .longQueryTimeMicroseconds | .lockWaitTimeout | .innodbLockWaitTimeout
  | .netReadTimeout | .netRetryCount | .netWriteTimeout | .innodbParallelReadThreads
  | .connectionMemoryChunkSize | .connectionMemoryLimit | .joinBufferSize | .myisamSortBufferSize
  | .sortBufferSize | .uuidLastTimestamp100ns | .uuidShortStartupSeconds | .uuidShortCounter
  | .uuidClockSequence | .randSeed1 | .randSeed2 => Nat
  | .previousRowCount | .timestampOverride | .timeZoneOffsetMinutes => Int
  | .savepoints => List (List UInt8)
  | .userVariables => List UserVariable
  | .systemVariableOverrides => List SystemVariableOverride
  | .autoIncrementHighWaters => List AutoIncrementHighWater
  | .sessionTransactionIsolation | .nextTransactionIsolation | .activeTransactionIsolation =>
    TransactionIsolation
  | .sessionTransactionAccessMode | .nextTransactionAccessMode => TransactionAccessMode
  | .internalTmpMemStorageEngine => InternalTmpMemStorageEngine
  | .myisamStatsMethod => MyisamStatsMethod
  | .hasSelectedSchema | .sqlModeIsPlaceholder | .timeZoneIsPlaceholder
  | .characterSetStateIsPlaceholder | .systemVariablesArePlaceholder | .temptableMaxRamHasOverride
  | .randSeedStateInitialized | .bigTables | .foreignKeyChecksEnabled | .sqlRequirePrimaryKey
  | .lowPriorityUpdates | .autocommitEnabled | .userTransactionActive | .hasNextTransactionIsolation
  | .hasNextTransactionAccessMode | .nextTransactionIsolationFromSystemVariable
  | .nextTransactionAccessModeFromSystemVariable | .activeTransactionReadOnly
  | .hasTimestampOverride | .uuidStateInitialized | .uuidShortStateInitialized => Bool
  | .uuidNode | .selectedSchema | .timeZone | .characterSetClient | .characterSetConnection
  | .characterSetResults | .collationConnection | .sqlModeText => List UInt8

abbrev Session := (field : Field) → field.Value

abbrev Write := Fields.Write Field.Value

/-- What a handler wrote, and whether it returned success. -/
structure Applied where
  writes : List Write
  succeeded : Bool

/-! User variables and overrides. -/

def setSessionUserVariable (userVariables : List UserVariable) (assigned : UserVariable) :
    List UserVariable :=
  if userVariables.any fun other => other.name = assigned.name then
    userVariables.map fun other =>
      if other.name = assigned.name then { assigned with displayName := other.displayName }
      else other
  else userVariables ++ [assigned]

def setSessionSystemVariableOverride (overrides : List SystemVariableOverride)
    (override : SystemVariableOverride) : List SystemVariableOverride :=
  if overrides.any fun other => other.kind = override.kind then
    overrides.map fun other => if other.kind = override.kind then override else other
  else overrides ++ [override]

def overrideWrites (overrides : List SystemVariableOverride) : List Write :=
  [⟨.systemVariableOverrides, overrides⟩, ⟨.systemVariablesArePlaceholder, false⟩]

/-! What evaluating a value expression may change. -/

def randSeedStateModulus : Nat := 0x3fffffff

inductive ExpressionEffect
  | lastInsertId (value : Nat)
  | uuid (randomSequence : Nat) (randomNode : List UInt8) (now : Nat)
  | uuidShort (now : Nat)
  | rand
  | userVariable (assigned : UserVariable)

def uuidWrites (session : Session) (randomSequence : Nat) (randomNode : List UInt8) (now : Nat) :
    List Write :=
  (if session .uuidStateInitialized then []
    else
      [⟨.uuidNode, randomNode⟩, ⟨.uuidClockSequence, randomSequence % 0x4000⟩,
        ⟨.uuidStateInitialized, true⟩]) ++
    [⟨.uuidLastTimestamp100ns, max now (session .uuidLastTimestamp100ns + 1)⟩]

def uuidShortWrites (session : Session) (now : Nat) : List Write :=
  if session .uuidShortStateInitialized then
    [⟨.uuidShortCounter, session .uuidShortCounter + 1⟩]
  else
    [⟨.uuidShortStartupSeconds, now⟩, ⟨.uuidShortStateInitialized, true⟩, ⟨.uuidShortCounter, 1⟩]

def randWrites (session : Session) : List Write :=
  if session .randSeedStateInitialized then
    let first := (session .randSeed1 % randSeedStateModulus * 3 +
      session .randSeed2 % randSeedStateModulus) % randSeedStateModulus
    [⟨.randSeed1, first⟩,
      ⟨.randSeed2, (first + session .randSeed2 % randSeedStateModulus + 33) % randSeedStateModulus⟩]
  else []

def ExpressionEffect.writes (session : Session) : ExpressionEffect → List Write
  | .lastInsertId value => [⟨.lastInsertId, value⟩]
  | .uuid randomSequence randomNode now => uuidWrites session randomSequence randomNode now
  | .uuidShort now => uuidShortWrites session now
  | .rand => randWrites session
  | .userVariable assigned =>
    [⟨.userVariables, setSessionUserVariable (session .userVariables) assigned⟩]

def expressionWrites (session : Session) : List ExpressionEffect → List Write
  | [] => []
  | effect :: rest =>
    effect.writes session ++ expressionWrites (Fields.storeAll session (effect.writes session)) rest

/-! The assignable system variables. -/

def randCanonicalStateWord (value : Nat) : Nat :=
  value % randSeedStateModulus

def pseudoThreadIdMax : Nat := 4294967295

def charsetNameCapacity : Nat := 64

def maxJoinSizeKind : Nat := 513

def sqlBigSelectsKind : Nat := 22

inductive Variable
  | lastInsertId | identity | insertId | pseudoThreadId | randSeed1 | randSeed2 | temptableMaxRam
  | internalTmpMemStorageEngine | joinBufferSize | myisamSortBufferSize | myisamStatsMethod
  | innodbParallelReadThreads | maxJoinSize | characterSetPair (characterSetKind collationKind : Nat)
  | transactionIsolation | transactionReadOnly | characterSetClient | characterSetConnection
  | characterSetResults | collationConnection | longQueryTime | autoIncrementIncrement
  | autoIncrementOffset | sqlSelectLimit | groupConcatMaxLen | informationSchemaStatsExpiry
  | maxErrorCount | sortBufferSize | waitTimeout | interactiveTimeout | lockWaitTimeout
  | innodbLockWaitTimeout | netReadTimeout | netRetryCount | netWriteTimeout
  | connectionMemoryChunkSize | connectionMemoryLimit | foreignKeyChecks | sqlRequirePrimaryKey
  | bigTables | lowPriorityUpdates | autocommit | timeZone | sqlMode | timestamp
  | overridden (kind : Nat) | fixed (kind : Nat)
deriving DecidableEq

/-- A transaction characteristic, for the next transaction only when it is assigned to a bare
`@@` variable. -/
structure Characteristic (Value : Type) where
  value : Value
  forNextTransaction : Bool

/-- What the value of a variable is read into. -/
abbrev Variable.Setting : Variable → Type
  | .lastInsertId | .identity | .insertId | .pseudoThreadId | .randSeed1 | .randSeed2
  | .joinBufferSize | .myisamSortBufferSize | .innodbParallelReadThreads | .longQueryTime
  | .autoIncrementIncrement | .autoIncrementOffset | .sqlSelectLimit | .groupConcatMaxLen
  | .informationSchemaStatsExpiry | .maxErrorCount | .sortBufferSize | .waitTimeout
  | .interactiveTimeout | .lockWaitTimeout | .innodbLockWaitTimeout | .netReadTimeout
  | .netRetryCount | .netWriteTimeout | .connectionMemoryChunkSize | .connectionMemoryLimit
  | .timestamp => Nat
  | .temptableMaxRam => Option Nat
  | .maxJoinSize => List UInt8 × Bool
  | .characterSetPair _ _ => List UInt8 × List UInt8
  | .internalTmpMemStorageEngine => InternalTmpMemStorageEngine
  | .myisamStatsMethod => MyisamStatsMethod
  | .transactionIsolation => Characteristic TransactionIsolation
  | .transactionReadOnly => Characteristic TransactionAccessMode
  | .foreignKeyChecks | .sqlRequirePrimaryKey | .bigTables | .lowPriorityUpdates | .autocommit =>
    Bool
  | .timeZone => List UInt8 × Int
  | .sqlMode => Nat × List UInt8
  | .characterSetClient | .characterSetConnection | .characterSetResults | .collationConnection
  | .overridden _ => List UInt8
  | .fixed _ => Unit

/-- A field and the mark that some variable has been set. -/
def settingWrites (field : Field) (value : field.Value) : List Write :=
  [⟨field, value⟩, ⟨.systemVariablesArePlaceholder, false⟩]

def setTextSessionSystemVariable (field : Field) (fits : Bool) (value : field.Value) : Applied :=
  if fits then
    ⟨[⟨field, value⟩, ⟨.characterSetStateIsPlaceholder, false⟩,
      ⟨.systemVariablesArePlaceholder, false⟩], true⟩
  else ⟨[], false⟩

def applyTransactionIsolation (session : Session)
    (characteristic : Characteristic TransactionIsolation) : Applied :=
  if characteristic.forNextTransaction then
    if session .userTransactionActive then ⟨[], false⟩
    else
      ⟨[⟨.hasNextTransactionIsolation, true⟩, ⟨.nextTransactionIsolation, characteristic.value⟩,
        ⟨.nextTransactionIsolationFromSystemVariable, true⟩], true⟩
  else
    ⟨⟨.sessionTransactionIsolation, characteristic.value⟩ ::
      if session .userTransactionActive then []
      else
        [⟨.hasNextTransactionIsolation, false⟩,
          ⟨.nextTransactionIsolationFromSystemVariable, false⟩], true⟩

def applyTransactionReadOnly (session : Session)
    (characteristic : Characteristic TransactionAccessMode) : Applied :=
  if characteristic.forNextTransaction then
    if session .userTransactionActive then ⟨[], false⟩
    else
      ⟨[⟨.hasNextTransactionAccessMode, true⟩, ⟨.nextTransactionAccessMode, characteristic.value⟩,
        ⟨.nextTransactionAccessModeFromSystemVariable, true⟩], true⟩
  else
    ⟨⟨.sessionTransactionAccessMode, characteristic.value⟩ ::
      if session .userTransactionActive then []
      else
        [⟨.hasNextTransactionAccessMode, false⟩,
          ⟨.nextTransactionAccessModeFromSystemVariable, false⟩], true⟩

/-- What a commit of the active user transaction clears. -/
def commitActiveUserTransactionWrites : List Write :=
  [⟨.userTransactionActive, false⟩, ⟨.activeTransactionReadOnly, false⟩,
    ⟨.activeTransactionIsolation, TransactionIsolation.repeatableRead⟩, ⟨.savepoints, []⟩,
    ⟨.autoIncrementHighWaters, []⟩]

def autocommitCommits (session : Session) (value : Bool) : Bool :=
  value && !session .autocommitEnabled && session .userTransactionActive

def applySetAutocommitBooleanValue (commitSucceeds : Bool) (session : Session) (value : Bool) :
    Applied :=
  if autocommitCommits session value then
    if commitSucceeds then
      ⟨commitActiveUserTransactionWrites ++ settingWrites .autocommitEnabled value, true⟩
    else ⟨[], false⟩
  else ⟨settingWrites .autocommitEnabled value, true⟩

/-- What an admitted assignment stores, once its value is read. -/
def Variable.store (commitSucceeds : Bool) (session : Session) :
    (target : Variable) → target.Setting → Applied
  | .lastInsertId, value | .identity, value => ⟨[⟨.lastInsertId, value⟩], true⟩
  | .insertId, value => ⟨[⟨.insertId, value⟩], true⟩
  | .pseudoThreadId, value => ⟨[⟨.connectionId, min value pseudoThreadIdMax⟩], true⟩
  | .randSeed1, value =>
    ⟨[⟨.randSeed1, randCanonicalStateWord value⟩, ⟨.randSeedStateInitialized, true⟩], true⟩
  | .randSeed2, value =>
    ⟨[⟨.randSeed2, randCanonicalStateWord value⟩, ⟨.randSeedStateInitialized, true⟩], true⟩
  | .temptableMaxRam, value =>
    ⟨[⟨.temptableMaxRam, value.getD 0⟩, ⟨.temptableMaxRamHasOverride, value.isSome⟩], true⟩
  | .internalTmpMemStorageEngine, value => ⟨settingWrites .internalTmpMemStorageEngine value, true⟩
  | .joinBufferSize, value => ⟨settingWrites .joinBufferSize value, true⟩
  | .myisamSortBufferSize, value => ⟨settingWrites .myisamSortBufferSize value, true⟩
  | .myisamStatsMethod, value => ⟨settingWrites .myisamStatsMethod value, true⟩
  | .innodbParallelReadThreads, value => ⟨settingWrites .innodbParallelReadThreads value, true⟩
  | .maxJoinSize, value =>
    ⟨overrideWrites (setSessionSystemVariableOverride
      (setSessionSystemVariableOverride (session .systemVariableOverrides)
        ⟨maxJoinSizeKind, value.1⟩)
      ⟨sqlBigSelectsKind, if value.2 then [49] else [48]⟩), true⟩
  | .characterSetPair characterSetKind collationKind, value =>
    ⟨overrideWrites (setSessionSystemVariableOverride
      (setSessionSystemVariableOverride (session .systemVariableOverrides)
        ⟨characterSetKind, value.1⟩)
      ⟨collationKind, value.2⟩), true⟩
  | .transactionIsolation, value => applyTransactionIsolation session value
  | .transactionReadOnly, value => applyTransactionReadOnly session value
  | .characterSetClient, value =>
    setTextSessionSystemVariable .characterSetClient (value.length < charsetNameCapacity) value
  | .characterSetConnection, value =>
    setTextSessionSystemVariable .characterSetConnection (value.length < charsetNameCapacity) value
  | .characterSetResults, value =>
    setTextSessionSystemVariable .characterSetResults (value.length < charsetNameCapacity) value
  | .collationConnection, value =>
    setTextSessionSystemVariable .collationConnection (value.length < charsetNameCapacity) value
  | .longQueryTime, value => ⟨settingWrites .longQueryTimeMicroseconds value, true⟩
  | .autoIncrementIncrement, value => ⟨settingWrites .autoIncrementIncrement value, true⟩
  | .autoIncrementOffset, value => ⟨settingWrites .autoIncrementOffset value, true⟩
  | .sqlSelectLimit, value => ⟨settingWrites .sqlSelectLimit value, true⟩
  | .groupConcatMaxLen, value => ⟨settingWrites .groupConcatMaxLen value, true⟩
  | .informationSchemaStatsExpiry, value =>
    ⟨settingWrites .informationSchemaStatsExpiry value, true⟩
  | .maxErrorCount, value => ⟨settingWrites .maxErrorCount value, true⟩
  | .sortBufferSize, value => ⟨settingWrites .sortBufferSize value, true⟩
  | .waitTimeout, value => ⟨settingWrites .waitTimeout value, true⟩
  | .interactiveTimeout, value => ⟨settingWrites .interactiveTimeout value, true⟩
  | .lockWaitTimeout, value => ⟨settingWrites .lockWaitTimeout value, true⟩
  | .innodbLockWaitTimeout, value => ⟨settingWrites .innodbLockWaitTimeout value, true⟩
  | .netReadTimeout, value => ⟨settingWrites .netReadTimeout value, true⟩
  | .netRetryCount, value => ⟨settingWrites .netRetryCount value, true⟩
  | .netWriteTimeout, value => ⟨settingWrites .netWriteTimeout value, true⟩
  | .connectionMemoryChunkSize, value => ⟨settingWrites .connectionMemoryChunkSize value, true⟩
  | .connectionMemoryLimit, value => ⟨settingWrites .connectionMemoryLimit value, true⟩
  | .foreignKeyChecks, value => ⟨settingWrites .foreignKeyChecksEnabled value, true⟩
  | .sqlRequirePrimaryKey, value => ⟨settingWrites .sqlRequirePrimaryKey value, true⟩
  | .bigTables, value => ⟨settingWrites .bigTables value, true⟩
  | .lowPriorityUpdates, value => ⟨settingWrites .lowPriorityUpdates value, true⟩
  | .autocommit, value => applySetAutocommitBooleanValue commitSucceeds session value
  | .timeZone, value =>
    ⟨[⟨.timeZone, value.1⟩, ⟨.timeZoneOffsetMinutes, value.2⟩, ⟨.timeZoneIsPlaceholder, false⟩],
      true⟩
  | .sqlMode, value =>
    ⟨[⟨.sqlMode, value.1⟩, ⟨.sqlModeText, value.2⟩, ⟨.sqlModeIsPlaceholder, false⟩], true⟩
  | .timestamp, value =>
    ⟨[⟨.hasTimestampOverride, decide (value ≠ 0)⟩, ⟨.timestampOverride, (value : Int)⟩], true⟩
  | .overridden kind, value =>
    ⟨overrideWrites (setSessionSystemVariableOverride (session .systemVariableOverrides)
      ⟨kind, value⟩), true⟩
  | .fixed _, _ => ⟨[], true⟩

end MyLite.SetStatement
