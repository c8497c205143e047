import MyLite.Library.Interleaved
import MyLite.Session.UuidText

/-! `UUID()` and `UUID_SHORT()`: every session has generators of its own, which read the clock
of the process. -/

namespace MyLite.Uuid

open Interleaved (ownedBy parts)

/-- The generators of a session. -/
structure Generators where
  uuidStateInitialized : Bool
  uuidClockSequence : UInt16
  uuidNode : Vector UInt8 6
  uuidLastTimestamp100ns : UInt64
  uuidShortStateInitialized : Bool
  uuidShortStartupSeconds : UInt64
  uuidShortCounter : UInt64
  deriving DecidableEq, Repr

/-- The generators of a session that has just been opened. -/
def Generators.opened : Generators where
  uuidStateInitialized := false
  uuidClockSequence := 0
  uuidNode := Vector.replicate 6 0
  uuidLastTimestamp100ns := 0
  uuidShortStateInitialized := false
  uuidShortStartupSeconds := 0
  uuidShortCounter := 0

/-- A call, with the bytes that `sqlite3_randomness` has for it. -/
inductive Call where
  | uuid (sequence : UInt16) (node : Vector UInt8 6)
  | uuidShort
  deriving DecidableEq, Repr

/-- A call at a reading of the clock. -/
structure Moment where
  seconds : Int64
  call : Call
  deriving DecidableEq, Repr

inductive Returned where
  | uuid (text : List UInt8)
  | uuidShort (value : UInt64)
  deriving DecidableEq, Repr

def initializeUuidGenerationState (sequence : UInt16) (node : Vector UInt8 6)
    (session : Generators) : Generators :=
  { session with
    uuidClockSequence := sequence &&& 0x3fff
    uuidNode := node.set 0 (node[0] ||| 0x01)
    uuidStateInitialized := true }

def currentUuidTimestamp100ns (seconds : Int64) : UInt64 :=
  122192928000000000 + (if seconds < 0 then 0 else seconds).toUInt64 * 10000000

def nextUuidTimestamp100ns (seconds : Int64) (session : Generators) : Generators × UInt64 :=
  let timestamp :=
    if currentUuidTimestamp100ns seconds ≤ session.uuidLastTimestamp100ns then
      session.uuidLastTimestamp100ns + 1
    else currentUuidTimestamp100ns seconds
  ({ session with uuidLastTimestamp100ns := timestamp }, timestamp)

/-- `mylite_uuid_generate`. -/
def uuidGenerate (seconds : Int64) (sequence : UInt16) (node : Vector UInt8 6)
    (session : Generators) : Generators × List UInt8 :=
  let ready :=
    if session.uuidStateInitialized then session
    else initializeUuidGenerationState sequence node session
  let next := nextUuidTimestamp100ns seconds ready
  (next.1, formatUuidString (populateUuidBytes next.2 next.1.uuidClockSequence next.1.uuidNode))

def startupSeconds (seconds : Int64) : UInt64 :=
  if seconds < 0 then 0 else seconds.toUInt64

def initializeUuidShortGenerationState (seconds : Int64) (session : Generators) : Generators :=
  { session with
    uuidShortStartupSeconds := startupSeconds seconds
    uuidShortCounter := 0
    uuidShortStateInitialized := true }

/-- What the server and the start time contribute to `UUID_SHORT()`. -/
def shortBase (startup : UInt64) : UInt64 :=
  ((1 : UInt64) &&& 0xff) <<< 56 + startup <<< 24

/-- `mylite_uuid_short_generate`. -/
def uuidShortGenerate (seconds : Int64) (session : Generators) : Generators × UInt64 :=
  let ready :=
    if session.uuidShortStateInitialized then session
    else initializeUuidShortGenerationState seconds session
  ({ ready with uuidShortCounter := ready.uuidShortCounter + 1 },
    shortBase ready.uuidShortStartupSeconds + ready.uuidShortCounter)

def generate (session : Generators) (moment : Moment) : Generators × Returned :=
  match moment.call with
  | .uuid sequence node =>
    let next := uuidGenerate moment.seconds sequence node session
    (next.1, .uuid next.2)
  | .uuidShort =>
    let next := uuidShortGenerate moment.seconds session
    (next.1, .uuidShort next.2)

/-! The process. -/

def reports (events : List (Nat × Moment)) : List (Nat × Returned) :=
  Machine.run (Interleaved.step generate) (fun _ => .opened) events

def Returned.shortValue : Returned → Option UInt64
  | .uuidShort value => some value
  | .uuid _ => none

def Returned.uuidText : Returned → Option (List UInt8)
  | .uuidShort _ => none
  | .uuid text => some text

/-- The values of `UUID_SHORT()`, with the sessions that got them. -/
def shortValues (events : List (Nat × Moment)) : List (Nat × UInt64) :=
  parts Returned.shortValue (reports events)

/-- The texts that a session got from `UUID()`. -/
def uuidTexts (session : Nat) (events : List (Nat × Moment)) : List (List UInt8) :=
  (ownedBy session (reports events)).filterMap Returned.uuidText

/-- The time that the text of a UUID names. -/
def textTimestamp (text : List UInt8) : Option Nat :=
  (parseUuidString text).map encodedTimestamp

/-- The calls of `UUID_SHORT()` in a session. -/
def shortCalls (session : Nat) (events : List (Nat × Moment)) : List Moment :=
  (ownedBy session events).filter fun moment => moment.call = .uuidShort

/-- The start time that a session counts from: the reading at its first call. -/
def startOf (session : Nat) (events : List (Nat × Moment)) : Option UInt64 :=
  (shortCalls session events).head?.map fun moment => startupSeconds moment.seconds

/-- How far the values of a session with the second start time begin above those of one with
the first, on `uint64_t`. -/
def startDistance (first second : UInt64) : Nat := (shortBase second - shortBase first).toNat

end MyLite.Uuid
