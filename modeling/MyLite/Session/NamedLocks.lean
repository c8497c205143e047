import MyLite.Library.Compacted
import Mathlib.Logic.Function.Basic

/-! The named-lock registry of a process and the requests of its connections. Every
request runs under the registry mutex; a GET_LOCK gives it up while it sleeps. -/

namespace MyLite.NamedLocks

def uint64Max : Nat := 18446744073709551615

def int32Max : Int := 2147483647

structure Diagnostic where
  code : Nat
  sqlState : String
  message : String
  deriving DecidableEq, Repr

inductive LockError where
  | wrongName
  | nameTooLong
  | tooManyHolds
  | outOfMemory
  deriving DecidableEq, Repr

def LockError.diagnostic : LockError → Diagnostic
  | .wrongName => ⟨3057, "42000", "Incorrect user-level lock name. The name is empty or NULL"⟩
  | .nameTooLong => ⟨4163, "42000", "User-level lock name is too long"⟩
  | .tooManyHolds => ⟨7, "HY001", "too many recursive named lock holds"⟩
  | .outOfMemory => ⟨7, "HY001", "out of memory while recording named lock"⟩

/-- A name that has passed `named_lock_validate`. -/
structure LockName where
  bytes : List UInt8
  nonempty : bytes ≠ []
  fits : bytes.length ≤ 64
  deriving DecidableEq, Repr

/-- A NULL name has no bytes. -/
def namedLockValidate : Option (List UInt8) → Except LockError LockName
  | none => .error .wrongName
  | some bytes =>
    if nonempty : bytes = [] then .error .wrongName
    else if fits : bytes.length ≤ 64 then .ok ⟨bytes, nonempty, fits⟩
    else .error .nameTooLong

structure Entry where
  name : LockName
  owner : Nat
  holdCount : Nat
  deriving DecidableEq, Repr

def findNamedLockEntry (entries : List Entry) (name : LockName) : Option Nat :=
  entries.findIdx? fun entry => entry.name = name

/-- `try_get_named_lock`; `memory` says whether the registry can grow. -/
def tryGetNamedLock (memory : Bool) (entries : List Entry) (name : LockName) (connection : Nat) :
    Except LockError (Bool × List Entry) :=
  match (findNamedLockEntry entries name).bind fun index => entries[index]?.map (index, ·) with
  | none =>
    if memory then
      .ok (true, entries ++ [{ name := name, owner := connection, holdCount := 1 }])
    else .error .outOfMemory
  | some (index, entry) =>
    if entry.owner ≠ connection then .ok (false, entries)
    else if entry.holdCount = uint64Max then .error .tooManyHolds
    else .ok (true, entries.set index { entry with holdCount := entry.holdCount + 1 })

def namedLockTimeoutMilliseconds (timeout : Int) : Int :=
  if timeout < 0 then int32Max
  else if timeout > int32Max.tdiv 1000 then int32Max
  else timeout * 1000

def namedLockSleepMilliseconds (waitedMilliseconds timeoutSeconds : Int) : Int :=
  let remaining := namedLockTimeoutMilliseconds timeoutSeconds - waitedMilliseconds
  if timeoutSeconds < 0 then 10
  else if remaining ≤ 0 then 0
  else if remaining < 10 then remaining
  else 10

/-- `mylite_named_lock_release`: 1, 0 for another owner's lock, or NULL. -/
def release (entries : List Entry) (name : LockName) (connection : Nat) :
    List Entry × Option Int :=
  match (findNamedLockEntry entries name).bind fun index => entries[index]?.map (index, ·) with
  | none => (entries, none)
  | some (index, entry) =>
    if entry.owner ≠ connection then (entries, some 0)
    else
      let holdCount := (entry.holdCount + uint64Max) % (uint64Max + 1)
      let lowered := entries.set index { entry with holdCount := holdCount }
      if holdCount = 0 then (Compacted.swapRemove lowered index, some 1)
      else (lowered, some 1)

def addHoldCount (count : Nat) (entry : Entry) : Nat :=
  if count > uint64Max - entry.holdCount then uint64Max else count + entry.holdCount

/-- `mylite_named_lock_release_all`. -/
def releaseAll (entries : List Entry) (connection : Nat) : List Entry × Nat :=
  Compacted.sweep (fun entry => entry.owner = connection) addHoldCount entries 0 0

/-- `mylite_named_lock_release_all_for_connection`. -/
def releaseAllForConnection (entries : List Entry) (connection : Nat) : List Entry :=
  (Compacted.sweep (fun entry => entry.owner = connection) (fun count _ => count)
    entries 0 ()).1

/-! The connections of a process. -/

inductive Request where
  | get (name : Option (List UInt8)) (timeout : Int)
  | isFree (name : Option (List UInt8))
  | isUsed (name : Option (List UInt8))
  | release (name : Option (List UInt8))
  | releaseAll
  | close
  deriving DecidableEq, Repr

inductive Reply where
  | error (error : LockError)
  | value (value : Int)
  | null
  | connectionId (connection : Nat)
  | count (count : Nat)
  | sleeping
  | closed
  deriving DecidableEq, Repr

/-- A GET_LOCK between two attempts. -/
structure Wait where
  name : LockName
  timeout : Int
  waited : Int

/-- A request that starts, or a sleep that is over. -/
inductive Event where
  | request (connection : Nat) (request : Request) (memory : Bool)
  | wake (connection : Nat) (slept : Int) (memory : Bool)

def Event.connection : Event → Nat
  | .request connection _ _ => connection
  | .wake connection _ _ => connection

/-- The waits are the same whatever holds the locks. -/
structure State (Locks : Type) where
  locks : Locks
  waits : Nat → Option Wait

/-- What the requests do with the locks. -/
structure Operations (Locks : Type) where
  tryGet : Bool → Locks → LockName → Nat → Except LockError (Bool × Locks)
  owner : Locks → LockName → Option Nat
  release : Locks → LockName → Nat → Locks × Option Int
  releaseAll : Locks → Nat → Locks × Nat
  close : Locks → Nat → Locks

def registry : Operations (List Entry) where
  tryGet := tryGetNamedLock
  owner entries name :=
    (findNamedLockEntry entries name).bind fun index => entries[index]?.map Entry.owner
  release := release
  releaseAll := releaseAll
  close := releaseAllForConnection

section System

variable {Locks : Type} (operations : Operations Locks)

/-- One turn of the loop of `mylite_named_lock_get`. -/
def attempt (memory : Bool) (state : State Locks) (connection : Nat) (wait : Wait) :
    State Locks × Reply :=
  let ended := Function.update state.waits connection none
  match operations.tryGet memory state.locks wait.name connection with
  | .error error => ({ state with waits := ended }, .error error)
  | .ok (true, locks) => ({ locks := locks, waits := ended }, .value 1)
  | .ok (false, locks) =>
    if wait.timeout = 0 ∨ namedLockSleepMilliseconds wait.waited wait.timeout ≤ 0 then
      ({ locks := locks, waits := ended }, .value 0)
    else
      ({ locks := locks, waits := Function.update state.waits connection (some wait) }, .sleeping)

def serve (memory : Bool) (state : State Locks) (connection : Nat) :
    Request → State Locks × Reply
  | .get name timeout =>
    match namedLockValidate name with
    | .error error => (state, .error error)
    | .ok name => attempt operations memory state connection ⟨name, timeout, 0⟩
  | .isFree name =>
    match namedLockValidate name with
    | .error error => (state, .error error)
    | .ok name => (state, .value (if (operations.owner state.locks name).isNone then 1 else 0))
  | .isUsed name =>
    match namedLockValidate name with
    | .error error => (state, .error error)
    | .ok name => (state, ((operations.owner state.locks name).map .connectionId).getD .null)
  | .release name =>
    match namedLockValidate name with
    | .error error => (state, .error error)
    | .ok name =>
      let released := operations.release state.locks name connection
      ({ state with locks := released.1 }, (released.2.map .value).getD .null)
  | .releaseAll =>
    let released := operations.releaseAll state.locks connection
    ({ state with locks := released.1 }, .count released.2)
  | .close => ({ state with locks := operations.close state.locks connection }, .closed)

/-- A connection makes no request while its GET_LOCK sleeps. -/
def step (state : State Locks) : Event → Option (State Locks × Reply)
  | .request connection request memory =>
    match state.waits connection with
    | some _ => none
    | none => some (serve operations memory state connection request)
  | .wake connection slept memory =>
    match state.waits connection with
    | none => none
    | some wait =>
      let asked := namedLockSleepMilliseconds wait.waited wait.timeout
      let waited := wait.waited + (if slept > 0 then slept else asked)
      some (attempt operations memory state connection { wait with waited := waited })

end System

def initial : State (List Entry) := { locks := [], waits := fun _ => none }

end MyLite.NamedLocks
