import MyLite.Library.Program
import MyLite.Storage.OffsetVfs

/-! Opening, initializing and closing a main database file, as programs over the
methods of the inner file. An injected fault is an inner call that fails. -/

namespace MyLite.Storage

/-- The locks of `xLock` that the wrapper asks for. RESERVED and PENDING only
refuse further locks to others, so that they count as SHARED here. -/
inductive LockLevel where
  | none
  | shared
  | exclusive
  deriving DecidableEq, Repr

inductive InnerCall where
  | xOpen (exclusiveCreate : Bool)
  | xFileSize
  | xRead (amount offset : Nat)
  | xWrite (bytes : List UInt8) (offset : Nat)
  | xSync
  | xLock (level : LockLevel)
  | xUnlock
  | xSectorSize
  | xClose
  deriving DecidableEq, Repr

/-- What an inner call returns; `xOpen` also says whether the file is read-only. -/
abbrev InnerCall.Answer : InnerCall → Type
  | .xOpen _ => SqliteStatus × Bool
  | .xFileSize => SqliteStatus × Nat
  | .xRead _ _ => SqliteStatus × List UInt8
  | .xWrite _ _ => SqliteStatus
  | .xSync => SqliteStatus
  | .xLock _ => SqliteStatus
  | .xUnlock => SqliteStatus
  | .xSectorSize => Int
  | .xClose => SqliteStatus

abbrev FileProgram := Program InnerCall InnerCall.Answer OffsetFile

open Program (get modify)

namespace InnerFile

def xOpen (exclusiveCreate : Bool) : FileProgram (SqliteStatus × Bool) :=
  Program.call (InnerCall.xOpen exclusiveCreate)

def xFileSize : FileProgram (SqliteStatus × Nat) := Program.call InnerCall.xFileSize

def xRead (amount offset : Nat) : FileProgram (SqliteStatus × List UInt8) :=
  Program.call (InnerCall.xRead amount offset)

def xWrite (bytes : List UInt8) (offset : Nat) : FileProgram SqliteStatus :=
  Program.call (InnerCall.xWrite bytes offset)

def xSync : FileProgram SqliteStatus := Program.call InnerCall.xSync

def xLock (level : LockLevel) : FileProgram SqliteStatus := Program.call (InnerCall.xLock level)

def xUnlock : FileProgram SqliteStatus := Program.call InnerCall.xUnlock

def xSectorSize : FileProgram Int := Program.call InnerCall.xSectorSize

def xClose : FileProgram SqliteStatus := Program.call InnerCall.xClose

end InnerFile

/-- `"SQLite format 3"` with its terminating NUL. -/
def sqliteHeader : List UInt8 :=
  [0x53, 0x51, 0x4c, 0x69, 0x74, 0x65, 0x20, 0x66, 0x6f, 0x72, 0x6d, 0x61, 0x74, 0x20, 0x33, 0]

def acquireInitializationLock : FileProgram SqliteStatus := do
  let file ← get
  if file.initializationLockHeld then
    return .ok
  let rc ← InnerFile.xLock .shared
  if rc ≠ .ok then
    return rc
  let rc ← InnerFile.xLock .exclusive
  if rc ≠ .ok then
    let unlockRc ← InnerFile.xUnlock
    return if unlockRc = .ok then rc else unlockRc
  modify fun file => { file with initializationOwner := true, initializationLockHeld := true }
  return .ok

def releaseInitializationLock : FileProgram SqliteStatus := do
  let file ← get
  if ¬ file.initializationLockHeld then
    return .ok
  let rc ← InnerFile.xUnlock
  if rc = .ok then
    modify fun file =>
      { file with initializationOwner := false, initializationLockHeld := false }
  return rc

def validateSectorAlignment : FileProgram SqliteStatus := do
  let sectorSize ← InnerFile.xSectorSize
  if sectorSize ≤ 0 ∨ (fileSqlitePayloadOffset : Int) % sectorSize ≠ 0 then
    return .cantopen
  return .ok

def validateSqlitePayloadHeader : FileProgram SqliteStatus := do
  let (rc, physicalSize) ← InnerFile.xFileSize
  if rc ≠ .ok then
    return rc
  if physicalSize < fileSqlitePayloadOffset + fileSqliteMinimumDatabaseSize then
    return .notadb
  let (rc, actualHeader) ← InnerFile.xRead sqliteHeader.length fileSqlitePayloadOffset
  if rc ≠ .ok ∨ actualHeader ≠ sqliteHeader then
    return .notadb
  return .ok

/-- The write of `transition_initialization_state`: one byte, or the whole
preamble when none has been written yet. -/
def writeLifecycleState (state : LifecycleState) : FileProgram SqliteStatus := do
  let file ← get
  if file.initializationPreambleWritten then
    InnerFile.xWrite [state.toByte] fileLifecycleStateOffset
  else
    let rc ← InnerFile.xWrite (filePreambleInitWithState state) 0
    if rc = .ok then
      modify fun file => { file with initializationPreambleWritten := true }
    return rc

/-- The rest of `transition_initialization_state` once the state may be stored. -/
def storeLifecycleState (state : LifecycleState) : FileProgram SqliteStatus := do
  let rc ← writeLifecycleState state
  if rc ≠ .ok then
    return rc
  let rc ← InnerFile.xSync
  if rc = .ok then
    releaseInitializationLock
  else
    return rc

def transitionInitializationState (state : LifecycleState) : FileProgram SqliteStatus := do
  let file ← get
  if ¬ file.initializationOwner then
    return .ok
  if state = .committed then
    let rc ← validateSqlitePayloadHeader
    if rc ≠ .ok then
      return rc
    storeLifecycleState state
  else
    storeLifecycleState state

def initializeNewMainDatabaseFile : FileProgram SqliteStatus := do
  let (rc, physicalSize) ← InnerFile.xFileSize
  if rc ≠ .ok then
    return rc
  if physicalSize ≠ 0 then
    return .cantopen
  modify fun file => { file with formatVersion := fileFormatVersion }
  let rc ← acquireInitializationLock
  if rc ≠ .ok then
    return rc
  let rc ← InnerFile.xWrite (filePreambleInitWithState .initializing) 0
  if rc ≠ .ok then
    return rc
  modify fun file => { file with initializationPreambleWritten := true }
  InnerFile.xSync

def validateExistingMainDatabaseFile : FileProgram SqliteStatus := do
  let (rc, physicalSize) ← InnerFile.xFileSize
  if rc ≠ .ok then
    return rc
  if physicalSize < filePreambleSize then
    return .notadb
  let (rc, preamble) ← InnerFile.xRead filePreambleSize 0
  if rc ≠ .ok then
    return rc
  let lifecycleState := filePreambleLifecycleState preamble
  if lifecycleState = .invalid then
    return .notadb
  modify fun file => { file with formatVersion := filePreambleFormatVersion preamble }
  let file ← get
  if ¬ formatUsesLockGap file ∧ physicalSize > filePhysicalLockByte then
    return .notadb
  if lifecycleState = .committed then
    validateSqlitePayloadHeader
  else
    -- The lock is taken for the state read above; the byte is not read again under it.
    let rc ← acquireInitializationLock
    if rc ≠ .ok then
      return rc
    modify fun file => { file with initializationPreambleWritten := true }
    if physicalSize = filePreambleSize then
      return .ok
    validateSqlitePayloadHeader

def prepareMainDatabaseFile (exclusiveCreate : Bool) : FileProgram SqliteStatus :=
  if exclusiveCreate then initializeNewMainDatabaseFile else validateExistingMainDatabaseFile

/-- Whether a connection has its database file open once a program has ended. -/
inductive Handle where
  | opened
  | closed
  deriving DecidableEq, Repr

/-- An `OffsetFile` after `memset`. -/
def closedFile : OffsetFile where
  formatVersion := 0
  shiftsOffsets := false
  initializationOwner := false
  initializationLockHeld := false
  initializationPreambleWritten := false

/-- `offset_close`, and `close_failed_inner_file` once the inner file is open. -/
def offsetClose : FileProgram Handle := do
  let file ← get
  let _ ← if file.initializationOwner then
      transitionInitializationState .recoveryRequired
    else pure .ok
  let _ ← InnerFile.xClose
  modify fun _ => closedFile
  return .closed

def offsetVfsOpen (exclusiveCreate : Bool) : FileProgram Handle := do
  modify fun _ => closedFile
  let (rc, readonly) ← InnerFile.xOpen exclusiveCreate
  if rc ≠ .ok then
    return .closed
  if exclusiveCreate ∧ readonly then
    offsetClose
  else
    modify fun file => { file with shiftsOffsets := true }
    let rc ← prepareMainDatabaseFile exclusiveCreate
    let rc ← if rc = .ok then validateSectorAlignment else pure rc
    if rc ≠ .ok then
      offsetClose
    else
      return .opened

/-- `mylite_storage_vfs_transition_initialization` on an open file. -/
def transitionInitialization (commit : Bool) : FileProgram Handle := do
  let _ ← transitionInitializationState (if commit then .committed else .recoveryRequired)
  return .opened

end MyLite.Storage
