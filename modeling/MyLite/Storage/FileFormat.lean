import Mathlib.Data.List.GetD
import Mathlib.Tactic.Common

/-! The fixed layout of a database file: one preamble page, then the SQLite
payload, with one page left out where SQLite takes its byte-range locks. -/

namespace MyLite.Storage

/-- `MYLITE_FILE_MAGIC_TEXT`, with its terminating NUL. -/
def fileMagic : List UInt8 :=
  [0x4d, 0x79, 0x4c, 0x69, 0x74, 0x65, 0x20, 0x66, 0x6f, 0x72, 0x6d, 0x61, 0x74, 0x20, 0x31, 0]

def fileFormatVersionOffset : Nat := 16
def fileLifecycleStateOffset : Nat := 18
def fileReservedOffset : Nat := 19
def fileLegacyFormatVersion : UInt16 := 1
def fileLifecycleFormatVersion : UInt16 := 2
def fileFormatVersion : UInt16 := 3
def filePreambleSize : Nat := 4096
def fileReservedSize : Nat := filePreambleSize - fileReservedOffset
def fileSqlitePayloadOffset : Nat := 4096
def fileSqliteMinimumDatabaseSize : Nat := 512
def filePhysicalLockByte : Nat := 1073741824
def fileLockGapLogicalOffset : Nat := filePhysicalLockByte - fileSqlitePayloadOffset
def fileLegacyMaxLogicalSize : Nat := fileLockGapLogicalOffset

inductive LifecycleState where
  | invalid
  | initializing
  | committed
  | recoveryRequired
  deriving DecidableEq, Repr

def LifecycleState.toByte : LifecycleState → UInt8
  | .invalid => 0
  | .initializing => 1
  | .committed => 2
  | .recoveryRequired => 3

def setU16 (value : UInt16) : List UInt8 :=
  [(value >>> 8).toUInt8, value.toUInt8]

def filePreambleInitWithState (state : LifecycleState) : List UInt8 :=
  fileMagic ++ setU16 fileFormatVersion ++ [state.toByte] ++
    List.replicate fileReservedSize 0

def filePreambleGetU16 (preamble : List UInt8) (offset : Nat) : UInt16 :=
  ((preamble.getD offset 0).toUInt16 <<< 8) ||| (preamble.getD (offset + 1) 0).toUInt16

def reservedBytesAreZero (preamble : List UInt8) (offset : Nat) : Bool :=
  ((preamble.take filePreambleSize).drop offset).all (· == 0)

def filePreambleLifecycleState (preamble : List UInt8) : LifecycleState :=
  if preamble.take fileMagic.length ≠ fileMagic then .invalid
  else
    let version := filePreambleGetU16 preamble fileFormatVersionOffset
    if version = fileLegacyFormatVersion then
      if reservedBytesAreZero preamble fileLifecycleStateOffset then .committed else .invalid
    else if version < fileLifecycleFormatVersion ∨ version > fileFormatVersion ∨
        ¬ reservedBytesAreZero preamble fileReservedOffset then .invalid
    else
      match preamble.getD fileLifecycleStateOffset 0 with
      | 1 => .initializing
      | 2 => .committed
      | 3 => .recoveryRequired
      | _ => .invalid

def filePreambleFormatVersion (preamble : List UInt8) : UInt16 :=
  if filePreambleLifecycleState preamble = .invalid then 0
  else filePreambleGetU16 preamble fileFormatVersionOffset

theorem filePreambleInitWithState_length (state : LifecycleState) :
    (filePreambleInitWithState state).length = filePreambleSize := by
  simp only [filePreambleInitWithState, List.length_append, List.length_replicate]
  rfl

end MyLite.Storage
