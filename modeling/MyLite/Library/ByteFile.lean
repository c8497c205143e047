import Mathlib.Data.List.GetD
import Mathlib.Tactic.Common

/-! A plain file of bytes: what is read past its end is zero, and a write past
its end extends it with zeros. -/

namespace ByteFile

/-- A file is its size and its bytes; `zero_past` makes the bytes past the end
canonical, so that two files with one content are equal. -/
@[ext]
structure File where
  size : Nat
  byte : Nat → UInt8
  zero_past : ∀ i, size ≤ i → byte i = 0

namespace File

def empty : File := ⟨0, fun _ => 0, fun _ _ => rfl⟩

/-- The bytes of `[offset, offset + amount)`, with zeros past the end. -/
def slice (file : File) (offset amount : Nat) : List UInt8 :=
  (List.range amount).map fun i => file.byte (offset + i)

/-- Whether `[offset, offset + amount)` can be read without reaching past the end. -/
def covers (file : File) (offset amount : Nat) : Bool :=
  min amount (file.size - offset) == amount

/-- A write of no bytes never extends the file. -/
def write (file : File) (bytes : List UInt8) (offset : Nat) : File where
  size := if bytes = [] then file.size else max file.size (offset + bytes.length)
  byte i :=
    if offset ≤ i ∧ i < offset + bytes.length then bytes.getD (i - offset) 0 else file.byte i
  zero_past i h := by
    split at h
    · next empty => simp [empty, file.zero_past i h]
    · rw [if_neg (by omega)]
      exact file.zero_past i (by omega)

def truncate (file : File) (size : Nat) : File where
  size := size
  byte i := if i < size then file.byte i else 0
  zero_past i h := by rw [if_neg (by omega)]

theorem covers_iff {file : File} {offset amount : Nat} :
    file.covers offset amount = true ↔ amount = 0 ∨ offset + amount ≤ file.size := by
  simp only [covers, beq_iff_eq]
  omega

@[simp] theorem slice_length (file : File) (offset amount : Nat) :
    (file.slice offset amount).length = amount := by
  simp [slice]

theorem slice_add (file : File) (offset first rest : Nat) :
    file.slice offset (first + rest) =
      file.slice offset first ++ file.slice (offset + first) rest := by
  simp only [slice, List.range_add, List.map_append, List.map_map, Nat.add_assoc]
  rfl

theorem slice_congr {left right : File} {offset offset' amount : Nat}
    (same : ∀ i, i < amount → left.byte (offset + i) = right.byte (offset' + i)) :
    left.slice offset amount = right.slice offset' amount := by
  apply List.map_congr_left
  intro i inside
  exact same i (List.mem_range.mp inside)

theorem slice_past (file : File) {offset amount : Nat} (past : file.size ≤ offset) :
    file.slice offset amount = List.replicate amount 0 := by
  rw [slice, List.eq_replicate_iff]
  refine ⟨by simp, ?_⟩
  intro b member
  obtain ⟨i, _, rfl⟩ := List.mem_map.mp member
  exact file.zero_past _ (by omega)

@[simp] theorem write_nil (file : File) (offset : Nat) : file.write [] offset = file := by
  ext i
  · simp [write]
  · simp only [write, List.length_nil]
    rw [if_neg (by omega)]

theorem write_size {file : File} {bytes : List UInt8} {offset : Nat} (some : bytes ≠ []) :
    (file.write bytes offset).size = max file.size (offset + bytes.length) := by
  simp [write, some]

theorem write_byte_outside {file : File} {bytes : List UInt8} {offset i : Nat}
    (outside : i < offset ∨ offset + bytes.length ≤ i) :
    (file.write bytes offset).byte i = file.byte i := by
  simp only [write]
  rw [if_neg (by omega)]

theorem write_byte_inside {file : File} {bytes : List UInt8} {offset i : Nat}
    (inside : i < bytes.length) :
    (file.write bytes offset).byte (offset + i) = bytes.getD i 0 := by
  simp only [write]
  rw [if_pos (by omega), Nat.add_sub_cancel_left]

/-- Two adjacent writes are one write of the joined bytes. -/
theorem write_append (file : File) (head tail : List UInt8) (offset : Nat) :
    file.write (head ++ tail) offset =
      (file.write head offset).write tail (offset + head.length) := by
  ext i
  · by_cases headEmpty : head = []
    · simp [headEmpty]
    by_cases tailEmpty : tail = []
    · simp [tailEmpty]
    rw [write_size (by simp [headEmpty]), write_size tailEmpty, write_size headEmpty,
      List.length_append]
    omega
  · simp only [write, List.length_append]
    by_cases inTail : offset + head.length ≤ i
    · by_cases past : i < offset + head.length + tail.length
      · rw [if_pos (by omega), if_pos (by omega), List.getD_append_right _ _ _ _ (by omega),
          Nat.sub_sub]
      · rw [if_neg (by omega), if_neg (by omega), if_neg (by omega)]
    · by_cases before : i < offset
      · rw [if_neg (by omega), if_neg (by omega), if_neg (by omega)]
      · rw [if_pos (by omega), if_neg (by omega), if_pos (by omega),
          List.getD_append _ _ _ _ (by omega)]

theorem truncate_byte (file : File) (size i : Nat) :
    (file.truncate size).byte i = if i < size then file.byte i else 0 := rfl

end File

end ByteFile
