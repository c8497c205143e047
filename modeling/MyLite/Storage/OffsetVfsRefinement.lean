import MyLite.Storage.OffsetVfs

/-! The shifted database file seen as one flat file. A flat file is what SQLite
asks its VFS for; the shifted file keeps its bytes at other places. -/

namespace MyLite.Storage

open ByteFile (File)

/-- The calls a pager makes on its database file. -/
inductive FileCall where
  | read (offset : Int) (buffer : List UInt8)
  | write (offset : Int) (bytes : List UInt8)
  | truncate (size : Int)
  | fileSize
  deriving DecidableEq, Repr

/-- What a call shows to its caller: a status, the buffer of a read as the call
leaves it, and the size. -/
inductive FileReply where
  | read (status : SqliteStatus) (buffer : Option (List UInt8))
  | write (status : SqliteStatus)
  | truncate (status : SqliteStatus)
  | fileSize (status : SqliteStatus) (size : Option Int)
  deriving DecidableEq, Repr

def offsetCall (file : OffsetFile) (inner : File) : FileCall → File × FileReply
  | .read offset buffer =>
    let (rc, buffer) := offsetRead file inner (some buffer) buffer.length offset
    (inner, .read rc buffer)
  | .write offset bytes =>
    let (rc, inner) := offsetWrite file inner (some bytes) bytes.length offset
    (inner, .write rc)
  | .truncate size =>
    let (rc, inner) := offsetTruncate file inner size
    (inner, .truncate rc)
  | .fileSize =>
    let (rc, size) := offsetFileSize file inner
    (inner, .fileSize rc size)

/-- The plain flat file that receives the same logical calls. -/
def flatCall (flat : File) : FileCall → File × FileReply
  | .read offset buffer =>
    (flat, .read (if flat.covers offset.toNat buffer.length then .ok else .ioerrShortRead)
      (some (flat.slice offset.toNat buffer.length)))
  | .write offset bytes => (flat.write bytes offset.toNat, .write .ok)
  | .truncate size => (flat.truncate size.toNat, .truncate .ok)
  | .fileSize => (flat, .fileSize .ok (some flat.size))

/-- The offsets and sizes that the wrapper's own range checks let through. -/
def Admissible (file : OffsetFile) : FileCall → Prop
  | .read offset buffer =>
    (logicalRangeEnd offset buffer.length).isSome ∧ (logicalOffsetToPhysical file offset).isSome
  | .write offset bytes =>
    (logicalRangeEnd offset bytes.length).isSome ∧ (logicalOffsetToPhysical file offset).isSome
  | .truncate size => (logicalSizeToPhysical file size).isSome
  | .fileSize => True

instance (file : OffsetFile) (call : FileCall) : Decidable (Admissible file call) := by
  cases call <;> unfold Admissible <;> infer_instance

/-- Where a byte of the database lies in the inner file. -/
def physicalPosition (logical : Nat) : Nat :=
  if logical < fileLockGapLogicalOffset then fileSqlitePayloadOffset + logical
  else 2 * fileSqlitePayloadOffset + logical

def physicalSize (logical : Nat) : Nat :=
  if logical ≤ fileLockGapLogicalOffset then fileSqlitePayloadOffset + logical
  else 2 * fileSqlitePayloadOffset + logical

/-- The inner file holds the database `flat`. The preamble and the lock page are
not constrained. -/
structure Represents (inner flat : File) : Prop where
  size : inner.size = physicalSize flat.size
  byte : ∀ i, inner.byte (physicalPosition i) = flat.byte i

/-- A read meets the flat file unless its range contains the lock gap, the
database ends before the gap, and the buffer past the gap is not already zero. -/
def GapReadFilled (flat : File) : FileCall → Prop
  | .read offset buffer =>
    offset < fileLockGapLogicalOffset → fileLockGapLogicalOffset < offset + buffer.length →
      fileLockGapLogicalOffset ≤ flat.size ∨
        ∀ b ∈ buffer.drop (fileLockGapLogicalOffset - offset).toNat, b = 0
  | _ => True

private theorem shift_accepted {logical shift : Int}
    (accepted : (if logical < 0 ∨ logical > int64Max - shift then none
      else some (logical + shift)).isSome) :
    0 ≤ logical ∧ (if logical < 0 ∨ logical > int64Max - shift then none
      else some (logical + shift)) = some (logical + shift) := by
  split at accepted
  · simp at accepted
  · next inside => exact ⟨by omega, if_neg inside⟩

section Mapping

variable {file : OffsetFile} (gap : formatUsesLockGap file = true)

include gap

theorem logicalOffsetToPhysical_eq {logical : Int}
    (accepted : (logicalOffsetToPhysical file logical).isSome) :
    0 ≤ logical ∧ logicalOffsetToPhysical file logical = some ↑(physicalPosition logical.toNat) := by
  simp only [logicalOffsetToPhysical, gap, true_and] at accepted ⊢
  obtain ⟨nonneg, mapped⟩ := shift_accepted accepted
  refine ⟨nonneg, mapped.trans ?_⟩
  rw [Option.some.injEq, physicalPosition]
  by_cases below : logical < fileLockGapLogicalOffset
  · rw [if_neg (by omega), if_pos (by omega)]
    omega
  · rw [if_pos (by omega), if_neg (by omega)]
    omega

theorem logicalSizeToPhysical_eq {logical : Int}
    (accepted : (logicalSizeToPhysical file logical).isSome) :
    0 ≤ logical ∧ logicalSizeToPhysical file logical = some ↑(physicalSize logical.toNat) := by
  simp only [logicalSizeToPhysical, gap, true_and] at accepted ⊢
  obtain ⟨nonneg, mapped⟩ := shift_accepted accepted
  refine ⟨nonneg, mapped.trans ?_⟩
  rw [Option.some.injEq, physicalSize]
  by_cases below : logical ≤ fileLockGapLogicalOffset
  · rw [if_neg (by omega), if_pos (by omega)]
    omega
  · rw [if_pos (by omega), if_neg (by omega)]
    omega

/-- The size mapping is inverted on every size it produces: no database ends
inside the lock page. -/
theorem logicalSizeFromPhysical_physicalSize (logical : Nat) :
    logicalSizeFromPhysical file (physicalSize logical) = some ↑logical := by
  have payload : fileSqlitePayloadOffset = 4096 := rfl
  have lock : filePhysicalLockByte = fileLockGapLogicalOffset + fileSqlitePayloadOffset := rfl
  simp only [logicalSizeFromPhysical, gap, not_true, false_or]
  by_cases below : logical ≤ fileLockGapLogicalOffset
  · have size : physicalSize logical = fileSqlitePayloadOffset + logical := if_pos below
    rw [if_neg (by omega)]
    by_cases empty : logical = 0
    · rw [if_pos (by omega), empty]
      rfl
    · rw [if_neg (by omega), if_pos (by omega), Option.some.injEq]
      omega
  · have size : physicalSize logical = 2 * fileSqlitePayloadOffset + logical := if_neg below
    rw [if_neg (by omega), if_neg (by omega), if_neg (by omega), if_neg (by omega),
      Option.some.injEq]
    omega

theorem logicalOffsetToPhysical_gap :
    logicalOffsetToPhysical file fileLockGapLogicalOffset =
      some ↑(filePhysicalLockByte + fileSqlitePayloadOffset) := by
  simp [logicalOffsetToPhysical, gap, fileLockGapLogicalOffset, filePhysicalLockByte,
    fileSqlitePayloadOffset, int64Max]

end Mapping

theorem logicalRangeEnd_eq {offset amount : Int}
    (accepted : (logicalRangeEnd offset amount).isSome) :
    0 ≤ offset ∧ 0 ≤ amount ∧ logicalRangeEnd offset amount = some (offset + amount) := by
  unfold logicalRangeEnd at accepted ⊢
  split at accepted
  · simp at accepted
  · next inside => exact ⟨by omega, by omega, if_neg inside⟩

/-! Ranges on one side of the gap are contiguous in the inner file. -/

def Contiguous (offset amount : Nat) : Prop :=
  fileLockGapLogicalOffset ≤ offset ∨ offset + amount ≤ fileLockGapLogicalOffset

theorem contiguous_or_gap (offset amount : Nat) :
    Contiguous offset amount ∨
      ∃ first rest, offset + first = fileLockGapLogicalOffset ∧ 0 < first ∧
        amount = first + rest ∧ 0 < rest := by
  by_cases contiguous : Contiguous offset amount
  · exact .inl contiguous
  · unfold Contiguous at contiguous
    exact .inr ⟨fileLockGapLogicalOffset - offset, offset + amount - fileLockGapLogicalOffset,
      by omega, by omega, by omega, by omega⟩

theorem physicalPosition_add {offset amount i : Nat} (contiguous : Contiguous offset amount)
    (inside : i < amount) : physicalPosition (offset + i) = physicalPosition offset + i := by
  unfold Contiguous at contiguous
  unfold physicalPosition
  by_cases below : offset < fileLockGapLogicalOffset
  · rw [if_pos below, if_pos (by omega)]
    omega
  · rw [if_neg below, if_neg (by omega)]
    omega

theorem physicalPosition_injective {i j : Nat} (same : physicalPosition i = physicalPosition j) :
    i = j := by
  unfold physicalPosition at same
  split at same <;> split at same <;> omega

section Represents

variable {inner flat : File} (represents : Represents inner flat)

include represents

theorem Represents.slice {offset amount : Nat} (contiguous : Contiguous offset amount) :
    inner.slice (physicalPosition offset) amount = flat.slice offset amount := by
  apply File.slice_congr
  intro i inside
  rw [← physicalPosition_add contiguous inside, represents.byte]

theorem Represents.covers {offset amount : Nat} (contiguous : Contiguous offset amount) :
    inner.covers (physicalPosition offset) amount = flat.covers offset amount := by
  rw [Bool.eq_iff_iff, File.covers_iff, File.covers_iff, represents.size]
  unfold Contiguous at contiguous
  unfold physicalPosition physicalSize
  split <;> split <;> omega

theorem Represents.write {offset : Nat} {bytes : List UInt8}
    (contiguous : Contiguous offset bytes.length) :
    Represents (inner.write bytes (physicalPosition offset)) (flat.write bytes offset) := by
  by_cases empty : bytes = []
  · simpa [empty] using represents
  have positive : 0 < bytes.length := List.length_pos_iff.mpr empty
  constructor
  · rw [File.write_size empty, File.write_size empty, represents.size]
    unfold Contiguous at contiguous
    unfold physicalPosition physicalSize
    split <;> split <;> split <;> omega
  · intro i
    by_cases inside : offset ≤ i ∧ i < offset + bytes.length
    · obtain ⟨k, rfl⟩ := Nat.exists_eq_add_of_le inside.1
      have bound : k < bytes.length := by omega
      rw [physicalPosition_add contiguous bound, File.write_byte_inside bound,
        File.write_byte_inside bound]
    · have kept : (flat.write bytes offset).byte i = flat.byte i :=
        File.write_byte_outside (by omega)
      rw [kept, File.write_byte_outside, represents.byte]
      by_contra crossing
      -- A physical position inside the written range is the image of a logical one.
      obtain ⟨k, place⟩ : ∃ k, physicalPosition i = physicalPosition offset + k :=
        Nat.exists_eq_add_of_le (by omega)
      have bound : k < bytes.length := by omega
      rw [← physicalPosition_add contiguous bound] at place
      have same := physicalPosition_injective place
      omega

theorem Represents.truncate (size : Nat) :
    Represents (inner.truncate (physicalSize size)) (flat.truncate size) := by
  constructor
  · rfl
  · intro i
    rw [File.truncate_byte, File.truncate_byte, represents.byte]
    have sameSide : physicalPosition i < physicalSize size ↔ i < size := by
      unfold physicalPosition physicalSize
      split <;> split <;> omega
    simp only [sameSide]

end Represents

/-- `SQLITE_OK` or `SQLITE_IOERR_SHORT_READ`, as a flat file answers a read. -/
def readStatus (flat : File) (offset amount : Nat) : SqliteStatus :=
  if flat.covers offset amount then .ok else .ioerrShortRead

theorem xRead_front (inner : File) (buffer : List UInt8) (amount offset : Nat) :
    xRead inner buffer 0 amount offset =
      (readStatus inner offset amount, inner.slice offset amount ++ buffer.drop amount) := by
  simp [xRead, readStatus]

theorem xRead_back (inner : File) {head tail : List UInt8} {start amount : Nat} (offset : Nat)
    (headLength : head.length = start) (tailLength : tail.length = amount) :
    xRead inner (head ++ tail) start amount offset =
      (readStatus inner offset amount, head ++ inner.slice offset amount) := by
  subst headLength tailLength
  have all : ((head.length : Int) + tail.length).toNat = (head ++ tail).length := by
    rw [List.length_append]
    omega
  simp only [xRead, readStatus, Int.toNat_natCast, all, List.take_left, List.drop_length,
    List.append_nil]

section Steps

variable {file : OffsetFile} {inner flat : File} (gap : formatUsesLockGap file = true)

include gap

theorem writeShifted_contiguous {bytes : List UInt8} {offset : Nat}
    (admissible : Admissible file (.write offset bytes))
    (contiguous : Contiguous offset bytes.length) :
    writeShifted file inner (some bytes) bytes.length offset =
      (.ok, inner.write bytes (physicalPosition offset)) := by
  obtain ⟨_, _, range⟩ := logicalRangeEnd_eq admissible.1
  obtain ⟨_, physical⟩ := logicalOffsetToPhysical_eq gap admissible.2
  have whole : (offset : Int) ≥ fileLockGapLogicalOffset ∨
      (offset : Int) + bytes.length ≤ fileLockGapLogicalOffset := by
    unfold Contiguous at contiguous
    omega
  simp only [writeShifted, range, gap, physical, Int.toNat_natCast, not_true, false_and, if_false,
    false_or, if_pos whole]
  simp [xWrite]

variable (represents : Represents inner flat)

include represents

theorem readShifted_contiguous {buffer : List UInt8} {offset : Nat}
    (admissible : Admissible file (.read offset buffer))
    (contiguous : Contiguous offset buffer.length) :
    readShifted file inner (some buffer) buffer.length offset =
      (readStatus flat offset buffer.length, some (flat.slice offset buffer.length)) := by
  obtain ⟨_, _, range⟩ := logicalRangeEnd_eq admissible.1
  obtain ⟨_, physical⟩ := logicalOffsetToPhysical_eq gap admissible.2
  have whole : (offset : Int) ≥ fileLockGapLogicalOffset ∨
      (offset : Int) + buffer.length ≤ fileLockGapLogicalOffset := by
    unfold Contiguous at contiguous
    omega
  simp only [readShifted, range, gap, physical, Int.toNat_natCast, not_true, false_and, if_false,
    false_or, if_pos whole]
  simp [xRead_front, readStatus, represents.slice contiguous, represents.covers contiguous]

/-- Around the gap the first part decides: a short one is the whole answer. -/
theorem readShifted_gap {buffer : List UInt8} {offset first rest : Nat}
    (admissible : Admissible file (.read offset buffer))
    (before : offset + first = fileLockGapLogicalOffset) (firstPositive : 0 < first)
    (length : buffer.length = first + rest) (restPositive : 0 < rest) :
    readShifted file inner (some buffer) buffer.length offset =
      (readStatus flat offset buffer.length,
        some (flat.slice offset first ++
          if fileLockGapLogicalOffset ≤ flat.size then flat.slice fileLockGapLogicalOffset rest
          else buffer.drop first)) := by
  obtain ⟨_, _, range⟩ := logicalRangeEnd_eq admissible.1
  obtain ⟨_, physical⟩ := logicalOffsetToPhysical_eq gap admissible.2
  have split : ¬ ((offset : Int) ≥ fileLockGapLogicalOffset ∨
      (offset : Int) + buffer.length ≤ fileLockGapLogicalOffset) := by omega
  have firstAmount : (fileLockGapLogicalOffset : Int) - offset = first := by omega
  have restAmount : (buffer.length : Int) - first = rest := by omega
  have firstSide : Contiguous offset first := .inr (Nat.le_of_eq before)
  have restSide : Contiguous fileLockGapLogicalOffset rest := .inl (Nat.le_refl _)
  have restStart : filePhysicalLockByte + fileSqlitePayloadOffset =
      physicalPosition fileLockGapLogicalOffset := rfl
  have dropLength : (buffer.drop first).length = rest := by
    rw [List.length_drop]
    omega
  simp only [readShifted, range, gap, physical, Int.toNat_natCast, not_true, false_and, if_false,
    false_or, if_neg split, firstAmount, restAmount, logicalOffsetToPhysical_gap gap, xRead_front,
    restStart, represents.slice firstSide]
  rw [xRead_back inner _ (File.slice_length flat offset first) dropLength,
    represents.slice restSide]
  have firstStatus : readStatus inner (physicalPosition offset) first =
      if fileLockGapLogicalOffset ≤ flat.size then .ok else .ioerrShortRead := by
    simp only [readStatus, represents.covers firstSide, File.covers_iff]
    exact if_congr (by omega) rfl rfl
  have restStatus : readStatus inner (physicalPosition fileLockGapLogicalOffset) rest =
      readStatus flat offset buffer.length := by
    simp only [readStatus, represents.covers restSide, File.covers_iff]
    exact if_congr (by omega) rfl rfl
  rw [firstStatus, restStatus]
  by_cases reached : fileLockGapLogicalOffset ≤ flat.size
  · simp [if_pos reached]
  · have short : readStatus flat offset buffer.length = .ioerrShortRead := by
      simp only [readStatus, File.covers_iff]
      exact if_neg (by omega)
    simp [if_neg reached, short]

theorem writeShifted_gap {bytes : List UInt8} {offset first rest : Nat}
    (admissible : Admissible file (.write offset bytes))
    (before : offset + first = fileLockGapLogicalOffset) (firstPositive : 0 < first)
    (length : bytes.length = first + rest) (restPositive : 0 < rest) :
    ∃ inner', writeShifted file inner (some bytes) bytes.length offset = (.ok, inner') ∧
      Represents inner' (flat.write bytes offset) := by
  obtain ⟨_, _, range⟩ := logicalRangeEnd_eq admissible.1
  obtain ⟨_, physical⟩ := logicalOffsetToPhysical_eq gap admissible.2
  have split : ¬ ((offset : Int) ≥ fileLockGapLogicalOffset ∨
      (offset : Int) + bytes.length ≤ fileLockGapLogicalOffset) := by omega
  have firstAmount : (fileLockGapLogicalOffset : Int) - offset = first := by omega
  have restAmount : (bytes.length : Int) - first = rest := by omega
  have headLength : (bytes.take first).length = first := by
    rw [List.length_take]
    omega
  have tailLength : (bytes.drop first).length = rest := by
    rw [List.length_drop]
    omega
  refine ⟨(inner.write (bytes.take first) (physicalPosition offset)).write (bytes.drop first)
    (physicalPosition fileLockGapLogicalOffset), ?_, ?_⟩
  · simp only [writeShifted, range, gap, physical, Int.toNat_natCast, not_true, false_and,
      if_false, false_or, if_neg split, firstAmount, restAmount, logicalOffsetToPhysical_gap gap,
      xWrite, Int.toNat_zero, List.drop_zero,
      List.take_of_length_le (Nat.le_of_eq tailLength)]
    rfl
  · have joined : flat.write bytes offset =
        (flat.write (bytes.take first) offset).write (bytes.drop first)
          fileLockGapLogicalOffset := by
      rw [← before]
      conv_lhs => rw [← List.take_append_drop first bytes, File.write_append, headLength]
    rw [joined]
    refine Represents.write (represents.write (.inr ?_)) (.inl (Nat.le_refl _))
    rw [headLength]
    exact Nat.le_of_eq before

variable (shifts : file.shiftsOffsets = true)

include shifts

theorem offsetCall_represents {call : FileCall} (admissible : Admissible file call) :
    Represents (offsetCall file inner call).1 (flatCall flat call).1 := by
  cases call with
  | read offset buffer => exact represents
  | fileSize => exact represents
  | truncate size =>
    obtain ⟨_, physical⟩ := logicalSizeToPhysical_eq gap admissible
    simp only [offsetCall, offsetTruncate, shifts, gap, physical, not_true, false_and, if_false,
      if_true, xTruncate, Int.toNat_natCast]
    exact represents.truncate size.toNat
  | write offset bytes =>
    obtain ⟨nonneg, _, _⟩ := logicalRangeEnd_eq admissible.1
    lift offset to Nat using nonneg
    simp only [offsetCall, offsetWrite, shifts, if_true, flatCall, Int.toNat_natCast]
    rcases contiguous_or_gap offset bytes.length with contiguous | ⟨first, rest, h₁, h₂, h₃, h₄⟩
    · rw [writeShifted_contiguous gap admissible contiguous]
      exact represents.write contiguous
    · obtain ⟨inner', written, kept⟩ := writeShifted_gap gap represents admissible h₁ h₂ h₃ h₄
      rw [written]
      exact kept

/-- One call answers as the flat file does exactly when it is not a read that
stops short before the gap. -/
theorem offsetCall_reply_iff {call : FileCall} (admissible : Admissible file call) :
    (offsetCall file inner call).2 = (flatCall flat call).2 ↔ GapReadFilled flat call := by
  cases call with
  | fileSize =>
    refine iff_of_true ?_ trivial
    simp only [offsetCall, offsetFileSize, xFileSize, shifts, represents.size,
      logicalSizeFromPhysical_physicalSize gap, flatCall]
    rfl
  | truncate size =>
    refine iff_of_true ?_ trivial
    obtain ⟨_, physical⟩ := logicalSizeToPhysical_eq gap admissible
    simp only [offsetCall, offsetTruncate, shifts, gap, physical, not_true, false_and, if_false,
      if_true, xTruncate, flatCall]
  | write offset bytes =>
    refine iff_of_true ?_ trivial
    obtain ⟨nonneg, _, _⟩ := logicalRangeEnd_eq admissible.1
    lift offset to Nat using nonneg
    simp only [offsetCall, offsetWrite, shifts, if_true, flatCall]
    rcases contiguous_or_gap offset bytes.length with contiguous | ⟨first, rest, h₁, h₂, h₃, h₄⟩
    · rw [writeShifted_contiguous gap admissible contiguous]
    · obtain ⟨inner', written, _⟩ := writeShifted_gap gap represents admissible h₁ h₂ h₃ h₄
      rw [written]
  | read offset buffer =>
    obtain ⟨nonneg, _, _⟩ := logicalRangeEnd_eq admissible.1
    lift offset to Nat using nonneg
    simp only [offsetCall, offsetRead, shifts, if_true, flatCall, Int.toNat_natCast, GapReadFilled]
    rcases contiguous_or_gap offset buffer.length with contiguous | ⟨first, rest, h₁, h₂, h₃, h₄⟩
    · rw [readShifted_contiguous gap represents admissible contiguous]
      refine iff_of_true rfl ?_
      unfold Contiguous at contiguous
      omega
    · rw [readShifted_gap gap represents admissible h₁ h₂ h₃ h₄, ← readStatus, h₃,
        File.slice_add, h₁]
      have firstAmount : ((fileLockGapLogicalOffset : Int) - offset).toNat = first := by omega
      simp only [FileReply.read.injEq, true_and, Option.some.injEq, List.append_cancel_left_eq,
        firstAmount]
      by_cases reached : fileLockGapLogicalOffset ≤ flat.size
      · simp [reached]
      · rw [if_neg reached, File.slice_past flat (by omega), List.eq_replicate_iff]
        have dropLength : (buffer.drop first).length = rest := by
          rw [List.length_drop]
          omega
        constructor
        · intro filled _ _
          exact .inr filled.2
        · intro filled
          exact ⟨dropLength, (filled (by omega) (by omega)).resolve_left reached⟩

end Steps

/-- A whole run on a shifted version 3 file shows the caller what the flat file
shows, buffers and sizes and statuses, exactly when every read that crosses the
lock gap either finds the database reaching the gap or was given zeros past it. -/
theorem offset_run_eq_flat_iff {file : OffsetFile} (shifts : file.shiftsOffsets = true)
    (version : file.formatVersion = fileFormatVersion) {inner flat : File}
    (represents : Represents inner flat) {calls : List FileCall}
    (admissible : ∀ call ∈ calls, Admissible file call) :
    Machine.run (offsetCall file) inner calls = Machine.run flatCall flat calls ↔
      Machine.Along flatCall GapReadFilled flat calls := by
  have gap : formatUsesLockGap file = true := by
    rw [formatUsesLockGap, version]
    decide
  refine Machine.run_eq_iff ?_ ?_ admissible represents
  · intro state spec call accepted related
    exact offsetCall_represents gap related shifts accepted
  · intro state spec call accepted related
    exact offsetCall_reply_iff gap related shifts accepted

/-- A file that holds only its preamble, as creation leaves it. -/
def preambleOnly (state : LifecycleState) : File :=
  File.empty.write (filePreambleInitWithState state) 0

/-- The handle of an open version 3 main database. -/
def mainDatabaseFile : OffsetFile where
  formatVersion := fileFormatVersion
  shiftsOffsets := true
  initializationOwner := false
  initializationLockHeld := false
  initializationPreambleWritten := false

theorem preambleOnly_represents (state : LifecycleState) :
    Represents (preambleOnly state) File.empty := by
  have length := filePreambleInitWithState_length state
  have some : filePreambleInitWithState state ≠ [] := by
    intro empty
    rw [empty] at length
    exact absurd length (by decide)
  constructor
  · rw [preambleOnly, File.write_size some, length]
    decide
  · intro i
    rw [preambleOnly, File.write_byte_outside]
    · rfl
    · rw [length, physicalPosition]
      simp only [filePreambleSize, fileSqlitePayloadOffset]
      split <;> omega

/-- A write and a read across the gap. -/
theorem offset_run_eq_flat_grow_shrink :
    Machine.run (offsetCall mainDatabaseFile) (preambleOnly .committed)
        [.write 1073737727 [1, 2, 3], .read 1073737726 [9, 9, 9, 9], .truncate 1, .fileSize] =
      Machine.run flatCall File.empty
        [.write 1073737727 [1, 2, 3], .read 1073737726 [9, 9, 9, 9], .truncate 1, .fileSize] :=
  (offset_run_eq_flat_iff rfl rfl (preambleOnly_represents .committed) (by decide)).mpr
    ⟨trivial, fun _ _ => .inl (by decide), trivial, trivial, trivial⟩

/-- A read of two bytes across the gap of an empty database clears the first
byte of the buffer and leaves the second one. -/
theorem gap_read_leaves_buffer :
    Represents (preambleOnly .committed) File.empty ∧
      Admissible mainDatabaseFile (.read 1073737727 [0xff, 0xff]) ∧
      Machine.run (offsetCall mainDatabaseFile) (preambleOnly .committed)
        [.read 1073737727 [0xff, 0xff]] = [.read .ioerrShortRead (some [0, 0xff])] ∧
      Machine.run flatCall File.empty [.read 1073737727 [0xff, 0xff]] =
        [.read .ioerrShortRead (some [0, 0])] :=
  ⟨preambleOnly_represents .committed, by decide, by decide +kernel, by decide +kernel⟩

/-! The preamble belongs to the wrapper: no call of the pager reaches it, on a
file of any format version. -/

private theorem shift_le {logical shift physical : Int}
    (mapped : (if logical < 0 ∨ logical > int64Max - shift then none
      else some (logical + shift)) = some physical) : shift ≤ physical := by
  split at mapped
  · cases mapped
  · next inside =>
    cases mapped
    omega

theorem logicalOffsetToPhysical_ge {file : OffsetFile} {logical physical : Int}
    (mapped : logicalOffsetToPhysical file logical = some physical) :
    filePreambleSize ≤ physical := by
  have page : (filePreambleSize : Int) = fileSqlitePayloadOffset := rfl
  simp only [logicalOffsetToPhysical] at mapped
  have moved := shift_le mapped
  split at moved <;> omega

theorem logicalSizeToPhysical_ge {file : OffsetFile} {logical physical : Int}
    (mapped : logicalSizeToPhysical file logical = some physical) :
    filePreambleSize ≤ physical := by
  have page : (filePreambleSize : Int) = fileSqlitePayloadOffset := rfl
  simp only [logicalSizeToPhysical] at mapped
  have moved := shift_le mapped
  split at moved <;> omega

section Preamble

variable {i : Nat} (preamble : i < filePreambleSize)

include preamble

theorem xWrite_preamble {inner inner' : File} {buffer : List UInt8} {start amount offset : Int}
    {rc : SqliteStatus} (past : filePreambleSize ≤ offset)
    (written : xWrite inner buffer start amount offset = (rc, inner')) :
    inner'.byte i = inner.byte i := by
  cases written
  exact File.write_byte_outside (.inl (by omega))

theorem writeShifted_preamble (file : OffsetFile) (inner : File) (buffer : Option (List UInt8))
    (amount offset : Int) :
    (writeShifted file inner buffer amount offset).2.byte i = inner.byte i := by
  fun_cases writeShifted file inner buffer amount offset with
  | case5 _ _ _ _ _ mapped =>
    exact xWrite_preamble preamble (logicalOffsetToPhysical_ge mapped) rfl
  | case6 _ _ _ _ _ mapped _ _ _ _ first =>
    exact xWrite_preamble preamble (logicalOffsetToPhysical_ge mapped) first
  | case7 _ _ _ _ _ mapped _ _ _ _ first =>
    exact xWrite_preamble preamble (logicalOffsetToPhysical_ge mapped) first
  | case8 _ _ _ _ _ mapped _ _ _ _ first _ _ mappedGap =>
    have kept := xWrite_preamble preamble (logicalOffsetToPhysical_ge mapped) first
    exact (xWrite_preamble preamble (logicalOffsetToPhysical_ge mappedGap) rfl).trans kept
  | _ => rfl

theorem offsetCall_preamble {file : OffsetFile} (shifts : file.shiftsOffsets = true)
    (inner : File) (call : FileCall) :
    (offsetCall file inner call).1.byte i = inner.byte i := by
  cases call with
  | read offset buffer => rfl
  | fileSize => rfl
  | write offset bytes =>
    simp only [offsetCall, offsetWrite, shifts, if_true]
    exact writeShifted_preamble preamble file inner _ _ _
  | truncate size =>
    simp only [offsetCall, offsetTruncate, shifts, if_true]
    split
    · rfl
    · split
      · rfl
      · next mapped =>
        have past := logicalSizeToPhysical_ge mapped
        exact if_pos (by omega)

end Preamble

end MyLite.Storage
