import Mathlib.Data.Fintype.Basic
import MyLite.Library.Machine
import MyLite.Storage.LifecycleDiscipline
import MyLite.Storage.OffsetVfsRefinement

/-! Any number of connections on one file. Their programs interleave at every
inner call; a process that dies loses its locks and all that its connections knew. -/

namespace MyLite.Storage

open ByteFile (File)
open Program Transition

/-- How an inner call ends: the file system decides. A write that fails has
written a part of its bytes. -/
inductive Outcome where
  | succeeds
  | opensReadonly
  | reports (sectorSize : Int)
  | fails (status : SqliteStatus) (written : Nat)
  deriving DecidableEq, Repr

structure System (n : Nat) where
  disk : Option File
  lock : Fin n → LockLevel
  task : Fin n → Tree InnerCall InnerCall.Answer OffsetFile Handle

/-- SHARED is refused beside another EXCLUSIVE, EXCLUSIVE beside any other lock. -/
def grants {n : Nat} (lock : Fin n → LockLevel) (c : Fin n) : LockLevel → Prop
  | .none => True
  | .shared => ∀ other, other ≠ c → lock other ≠ .exclusive
  | .exclusive => ∀ other, other ≠ c → lock other = .none

instance {n : Nat} (lock : Fin n → LockLevel) (c : Fin n) (level : LockLevel) :
    Decidable (grants lock c level) := by
  cases level <;> unfold grants <;> infer_instance

/-- The inner file under one call of connection `c`; `none` where the outcome
cannot occur. -/
def perform {n : Nat} (disk : Option File) (lock : Fin n → LockLevel) (c : Fin n) :
    (request : InnerCall) → Outcome →
      Option (request.Answer × Option File × (Fin n → LockLevel))
  | .xOpen true, .succeeds =>
    if disk.isNone then some ((.ok, false), some File.empty, lock) else none
  | .xOpen true, .opensReadonly =>
    if disk.isNone then some ((.ok, true), some File.empty, lock) else none
  | .xOpen false, .succeeds => if disk.isSome then some ((.ok, false), disk, lock) else none
  | .xOpen false, .opensReadonly => if disk.isSome then some ((.ok, true), disk, lock) else none
  | .xOpen _, .fails status _ =>
    if status = .ok then none else some ((status, false), disk, lock)
  | .xFileSize, .succeeds => disk.map fun file => ((.ok, file.size), disk, lock)
  | .xFileSize, .fails status _ => if status = .ok then none else some ((status, 0), disk, lock)
  | .xRead amount offset, .succeeds =>
    disk.map fun file => ((readStatus file offset amount, file.slice offset amount), disk, lock)
  | .xRead _ _, .fails status _ => if status = .ok then none else some ((status, []), disk, lock)
  | .xWrite bytes offset, .succeeds =>
    disk.map fun file => (.ok, some (file.write bytes offset), lock)
  | .xWrite bytes offset, .fails status written =>
    if status = .ok ∨ bytes.length ≤ written then none
    else disk.map fun file => (status, some (file.write (bytes.take written) offset), lock)
  | .xSync, .succeeds => some (.ok, disk, lock)
  | .xSync, .fails status _ => if status = .ok then none else some (status, disk, lock)
  | .xLock level, .succeeds =>
    if grants lock c level then some (.ok, disk, Function.update lock c level) else none
  | .xLock _, .fails status _ => if status = .ok then none else some (status, disk, lock)
  | .xUnlock, .succeeds => some (.ok, disk, Function.update lock c .none)
  | .xUnlock, .fails status _ => if status = .ok then none else some (status, disk, lock)
  | .xSectorSize, .reports size => some (size, disk, lock)
  | .xClose, .succeeds => some (.ok, disk, Function.update lock c .none)
  | .xClose, .fails status _ => some (status, disk, Function.update lock c .none)
  | _, _ => none

inductive Operation where
  | openFile (exclusiveCreate : Bool)
  | commit
  | abort
  | close
  deriving DecidableEq, Repr

/-- `inner` is one inner call of a running program. The pager's own calls and
locks on an open file are single events. -/
inductive Event (n : Nat) where
  | start (c : Fin n) (operation : Operation)
  | inner (c : Fin n) (outcome : Outcome)
  | pager (c : Fin n) (call : FileCall)
  | pagerLock (c : Fin n) (level : LockLevel)
  | pagerUnlock (c : Fin n)
  | die (process : Nat)

def FileCall.changes : FileCall → Bool
  | .write _ _ => true
  | .truncate _ => true
  | _ => false

/-- `process` says which connections die together. The pager changes its file
only under an EXCLUSIVE lock; while the initialization lock is held, `offset_lock`
and `offset_unlock` leave the inner lock alone. -/
def step {n : Nat} (process : Fin n → Nat) (system : System n) : Event n → Option (System n)
  | .start c operation =>
    match system.task c, operation with
    | .done file .closed, .openFile exclusiveCreate =>
      some { system with
        task := Function.update system.task c (offsetVfsOpen exclusiveCreate file) }
    | .done file .opened, .commit =>
      some { system with
        task := Function.update system.task c (transitionInitialization true file) }
    | .done file .opened, .abort =>
      some { system with
        task := Function.update system.task c (transitionInitialization false file) }
    | .done file .opened, .close =>
      some { system with task := Function.update system.task c (offsetClose file) }
    | _, _ => none
  | .inner c outcome =>
    match system.task c with
    | .done _ _ => none
    | .call _ request next =>
      (perform system.disk system.lock c request outcome).map fun (answer, disk, lock) =>
        { disk := disk, lock := lock, task := Function.update system.task c (next answer) }
  | .pager c call =>
    match system.task c, system.disk with
    | .done file .opened, some disk =>
      if call.changes ∧ system.lock c ≠ .exclusive then none
      else some { system with disk := some (offsetCall file disk call).1 }
    | _, _ => none
  | .pagerLock c level =>
    match system.task c with
    | .done file .opened =>
      if file.initializationLockHeld then some system
      else if grants system.lock c level then
        some { system with lock := Function.update system.lock c level }
      else none
    | _ => none
  | .pagerUnlock c =>
    match system.task c with
    | .done file .opened =>
      if file.initializationLockHeld then some system
      else some { system with lock := Function.update system.lock c .none }
    | _ => none
  | .die dead =>
    some { system with
      lock := fun c => if process c = dead then .none else system.lock c
      task := fun c => if process c = dead then .done closedFile .closed else system.task c }

/-- No connection is open; the disk may hold any file, or none. -/
def System.Initial {n : Nat} (system : System n) : Prop :=
  ∀ c, system.lock c = .none ∧ system.task c = .done closedFile .closed

/-- The stored lifecycle byte; zero when there is no file. -/
def lifecycleByte (disk : Option File) : UInt8 :=
  match disk with
  | none => 0
  | some file => file.byte fileLifecycleStateOffset

def Committed (disk : Option File) : Prop :=
  lifecycleByte disk = LifecycleState.committed.toByte

instance (disk : Option File) : Decidable (Committed disk) := by
  unfold Committed
  infer_instance

/-- What `validate_sqlite_payload_header` accepts. -/
def PayloadHeaderValid (disk : Option File) : Prop :=
  ∃ file, disk = some file ∧
    fileSqlitePayloadOffset + fileSqliteMinimumDatabaseSize ≤ file.size ∧
    file.slice fileSqlitePayloadOffset sqliteHeader.length = sqliteHeader

namespace System

variable {n : Nat}

def Owns (system : System n) (c : Fin n) : Prop :=
  (system.task c).state.initializationOwner = true

def SoleOwner (system : System n) : Prop :=
  ∀ c c', system.Owns c → system.Owns c' → c = c'

/-- The inner write that is next, if any, of the connection. -/
def Writing (system : System n) (c : Fin n) (bytes : List UInt8) (offset : Nat) : Prop :=
  ∃ file next, system.task c = .call file (.xWrite bytes offset) next

end System

/-- The value that a write puts into the lifecycle byte, if it reaches it. -/
def writtenLifecycleByte (bytes : List UInt8) (offset : Nat) : Option UInt8 :=
  if offset ≤ fileLifecycleStateOffset then bytes[fileLifecycleStateOffset - offset]? else none

/-- COMMITTED is about to be written only by an owner under its lock, with a
payload header that passes the check at this moment. -/
def System.ValidatedCommit {n : Nat} (system : System n) : Prop :=
  ∀ c bytes offset, system.Writing c bytes offset →
    writtenLifecycleByte bytes offset = some LifecycleState.committed.toByte →
      system.Owns c ∧ system.lock c = .exclusive ∧ PayloadHeaderValid system.disk

/-- The byte is changed by nothing but a connection's own inner write. -/
def System.ChangedByWrite {n : Nat} (before : System n) (event : Event n) (after : System n) :
    Prop :=
  lifecycleByte after.disk = lifecycleByte before.disk ∨
    ∃ c outcome bytes offset, event = .inner c outcome ∧ before.Writing c bytes offset

/-- No opener is granted the initialization lock on a file that says COMMITTED,
and an owner that has stored COMMITTED can sync and unlock. -/
def Orderly {n : Nat} (system : System n) : Event n → Prop
  | .inner c outcome =>
    match system.task c with
    | .call _ (.xLock .exclusive) _ => outcome = .succeeds → ¬ Committed system.disk
    | .call file .xSync _ =>
      file.initializationOwner = true → Committed system.disk → outcome = .succeeds
    | .call file .xUnlock _ =>
      file.initializationOwner = true → Committed system.disk → outcome = .succeeds
    | _ => True
  | _ => True

end MyLite.Storage
