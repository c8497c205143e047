import MyLite.Library.ByteFile
import MyLite.Library.Machine
import MyLite.Storage.FileFormat

/-! The VFS wrapper that stores a SQLite database behind the preamble page. The
inner file is the operating system's; a range of the database that contains the
lock gap is transferred in two parts. -/

namespace MyLite.Storage

open ByteFile (File)

inductive SqliteStatus where
  | ok
  | ioerrRead
  | ioerrShortRead
  | ioerrWrite
  | ioerrTruncate
  | ioerrFstat
  | ioerrFsync
  | ioerrUnlock
  | busy
  | full
  | notadb
  | cantopen
  deriving DecidableEq, Repr

/-- `struct mylite_offset_file` without its inner file, which is passed beside it. -/
structure OffsetFile where
  formatVersion : UInt16
  shiftsOffsets : Bool
  initializationOwner : Bool
  initializationLockHeld : Bool
  initializationPreambleWritten : Bool
  deriving DecidableEq, Repr

def int64Max : Int := 9223372036854775807

def formatUsesLockGap (file : OffsetFile) : Bool := file.formatVersion ≥ fileFormatVersion

def logicalRangeEnd (offset amount : Int) : Option Int :=
  if offset < 0 ∨ amount < 0 ∨ offset > int64Max - amount then none else some (offset + amount)

def logicalOffsetToPhysical (file : OffsetFile) (logical : Int) : Option Int :=
  let physicalOffset : Int :=
    if formatUsesLockGap file ∧ logical ≥ fileLockGapLogicalOffset then
      fileSqlitePayloadOffset + fileSqlitePayloadOffset
    else fileSqlitePayloadOffset
  if logical < 0 ∨ logical > int64Max - physicalOffset then none
  else some (logical + physicalOffset)

def logicalSizeToPhysical (file : OffsetFile) (logical : Int) : Option Int :=
  let physicalOffset : Int :=
    if formatUsesLockGap file ∧ logical > fileLockGapLogicalOffset then
      fileSqlitePayloadOffset + fileSqlitePayloadOffset
    else fileSqlitePayloadOffset
  if logical < 0 ∨ logical > int64Max - physicalOffset then none
  else some (logical + physicalOffset)

def logicalSizeFromPhysical (file : OffsetFile) (physical : Int) : Option Int :=
  if physical < 0 then none
  else if physical ≤ fileSqlitePayloadOffset then some 0
  else if ¬ formatUsesLockGap file ∨ physical ≤ filePhysicalLockByte then
    some (physical - fileSqlitePayloadOffset)
  else if physical ≤ filePhysicalLockByte + fileSqlitePayloadOffset then none
  else some (physical - 2 * fileSqlitePayloadOffset)

/-- `xRead` of the inner file into `buffer + start`. -/
def xRead (inner : File) (buffer : List UInt8) (start amount offset : Int) :
    SqliteStatus × List UInt8 :=
  (if inner.covers offset.toNat amount.toNat then .ok else .ioerrShortRead,
    buffer.take start.toNat ++ inner.slice offset.toNat amount.toNat ++
      buffer.drop (start + amount).toNat)

/-- `xWrite` of `amount` bytes from `buffer + start` to the inner file. -/
def xWrite (inner : File) (buffer : List UInt8) (start amount offset : Int) :
    SqliteStatus × File :=
  (.ok, inner.write ((buffer.drop start.toNat).take amount.toNat) offset.toNat)

def xTruncate (inner : File) (size : Int) : SqliteStatus × File :=
  (.ok, inner.truncate size.toNat)

def xFileSize (inner : File) : SqliteStatus × Int := (.ok, inner.size)

/-- Returns the status and the caller's buffer as the call leaves it; `none` is
the NULL buffer. -/
def readShifted (file : OffsetFile) (inner : File) (buffer : Option (List UInt8))
    (amount logicalOffset : Int) : SqliteStatus × Option (List UInt8) :=
  match buffer, logicalRangeEnd logicalOffset amount with
  | none, _ => (.ioerrRead, none)
  | some buffer, none => (.ioerrRead, some buffer)
  | some buffer, some logicalEnd =>
    if ¬ formatUsesLockGap file ∧ logicalEnd > fileLegacyMaxLogicalSize then
      (.ioerrShortRead, some (List.replicate amount.toNat 0 ++ buffer.drop amount.toNat))
    else
      match logicalOffsetToPhysical file logicalOffset with
      | none => (.ioerrRead, some buffer)
      | some physicalOffset =>
        if ¬ formatUsesLockGap file ∨ logicalOffset ≥ fileLockGapLogicalOffset ∨
            logicalEnd ≤ fileLockGapLogicalOffset then
          let (rc, buffer) := xRead inner buffer 0 amount physicalOffset
          (rc, some buffer)
        else
          let firstAmount := fileLockGapLogicalOffset - logicalOffset
          let (rc, buffer) := xRead inner buffer 0 firstAmount physicalOffset
          -- A short first part ends the call here: the rest of the buffer is left as it was.
          if rc ≠ .ok then (rc, some buffer)
          else
            match logicalOffsetToPhysical file fileLockGapLogicalOffset with
            | none => (.ioerrRead, some buffer)
            | some physicalOffset =>
              let (rc, buffer) :=
                xRead inner buffer firstAmount (amount - firstAmount) physicalOffset
              (rc, some buffer)

def writeShifted (file : OffsetFile) (inner : File) (buffer : Option (List UInt8))
    (amount logicalOffset : Int) : SqliteStatus × File :=
  match buffer, logicalRangeEnd logicalOffset amount with
  | none, _ => (.ioerrWrite, inner)
  | some _, none => (.ioerrWrite, inner)
  | some buffer, some logicalEnd =>
    if ¬ formatUsesLockGap file ∧ logicalEnd > fileLegacyMaxLogicalSize then (.full, inner)
    else
      match logicalOffsetToPhysical file logicalOffset with
      | none => (.ioerrWrite, inner)
      | some physicalOffset =>
        if ¬ formatUsesLockGap file ∨ logicalOffset ≥ fileLockGapLogicalOffset ∨
            logicalEnd ≤ fileLockGapLogicalOffset then
          xWrite inner buffer 0 amount physicalOffset
        else
          let firstAmount := fileLockGapLogicalOffset - logicalOffset
          let (rc, inner) := xWrite inner buffer 0 firstAmount physicalOffset
          if rc ≠ .ok then (rc, inner)
          else
            match logicalOffsetToPhysical file fileLockGapLogicalOffset with
            | none => (.ioerrWrite, inner)
            | some physicalOffset =>
              xWrite inner buffer firstAmount (amount - firstAmount) physicalOffset

def offsetRead (file : OffsetFile) (inner : File) (buffer : Option (List UInt8))
    (amount offset : Int) : SqliteStatus × Option (List UInt8) :=
  if file.shiftsOffsets then readShifted file inner buffer amount offset
  else
    match buffer with
    | none => (.ioerrRead, none)
    | some buffer =>
      let (rc, buffer) := xRead inner buffer 0 amount offset
      (rc, some buffer)

def offsetWrite (file : OffsetFile) (inner : File) (buffer : Option (List UInt8))
    (amount offset : Int) : SqliteStatus × File :=
  if file.shiftsOffsets then writeShifted file inner buffer amount offset
  else
    match buffer with
    | none => (.ioerrWrite, inner)
    | some buffer => xWrite inner buffer 0 amount offset

def offsetTruncate (file : OffsetFile) (inner : File) (size : Int) : SqliteStatus × File :=
  if file.shiftsOffsets then
    if ¬ formatUsesLockGap file ∧ size > fileLegacyMaxLogicalSize then (.full, inner)
    else
      match logicalSizeToPhysical file size with
      | none => (.ioerrTruncate, inner)
      | some physicalSize => xTruncate inner physicalSize
  else xTruncate inner size

def offsetFileSize (file : OffsetFile) (inner : File) : SqliteStatus × Option Int :=
  let (rc, physicalSize) := xFileSize inner
  if rc ≠ .ok then (rc, none)
  else if file.shiftsOffsets then
    match logicalSizeFromPhysical file physicalSize with
    | none => (.ioerrFstat, none)
    | some size => (.ok, some size)
  else (.ok, some physicalSize)

end MyLite.Storage
