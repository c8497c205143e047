import Mathlib.Tactic.Common

/-! Texts in UTF-8: what the first byte of a character tells of the bytes after it. -/
namespace Utf8

def encode (chars : List Char) : List UInt8 :=
  chars.flatMap String.utf8EncodeChar

theorem encode_cons (char : Char) (chars : List Char) :
    encode (char :: chars) = String.utf8EncodeChar char ++ encode chars :=
  List.flatMap_cons

theorem encode_append (left right : List Char) :
    encode (left ++ right) = encode left ++ encode right :=
  List.flatMap_append

def Valid (text : List UInt8) : Prop :=
  ∃ chars, text = encode chars

theorem valid_nil : Valid [] :=
  ⟨[], rfl⟩

theorem Valid.append {left right : List UInt8} (leftValid : Valid left)
    (rightValid : Valid right) : Valid (left ++ right) := by
  obtain ⟨leftChars, rfl⟩ := leftValid
  obtain ⟨rightChars, rfl⟩ := rightValid
  exact ⟨leftChars ++ rightChars, (encode_append _ _).symm⟩

def Continuation (byte : UInt8) : Prop :=
  byte &&& 0xc0 = 0x80

/-- The first byte of a character and the number of continuation bytes after it. -/
inductive Leads (first : UInt8) : Nat → Prop where
  | ascii (small : first < 0x80) : Leads first 0
  | two (low : 0xc2 ≤ first) (high : first ≤ 0xdf) : Leads first 1
  | three (low : 0xe0 ≤ first) (high : first ≤ 0xef) : Leads first 2
  | four (low : 0xf0 ≤ first) (high : first ≤ 0xf4) : Leads first 3

theorem continuation_ofNat (value : Nat) : Continuation (UInt8.ofNat (value % 64 + 0x80)) := by
  have every : ∀ bits < 64, UInt8.ofNat (bits + 0x80) &&& 0xc0 = 0x80 := by decide
  exact every _ (Nat.mod_lt _ (by decide))

theorem utf8EncodeChar_shape (char : Char) :
    ∃ first following, String.utf8EncodeChar char = first :: following ∧
      Leads first following.length ∧ ∀ byte ∈ following, Continuation byte := by
  have valid := char.valid
  simp only [UInt32.isValidChar, Nat.isValidChar] at valid
  rw [String.utf8EncodeChar]
  split
  · rename_i small
    refine ⟨_, _, rfl, .ascii ?_, List.forall_mem_nil _⟩
    rw [UInt8.lt_iff_toNat_lt, UInt8.toNat_ofNat']
    exact Nat.lt_of_le_of_lt (Nat.mod_le _ _) (Nat.lt_succ_of_le small)
  · split
    · have bounds : ∀ bits < 32, 2 ≤ bits →
          0xc2 ≤ UInt8.ofNat (bits + 0xc0) ∧ UInt8.ofNat (bits + 0xc0) ≤ 0xdf := by
        decide
      obtain ⟨low, high⟩ := bounds (char.val.toNat / 64 % 32) (by omega) (by omega)
      refine ⟨_, _, rfl, .two low high, ?_⟩
      exact List.forall_mem_cons.2 ⟨continuation_ofNat _, List.forall_mem_nil _⟩
    · split
      · have bounds : ∀ bits < 16,
            0xe0 ≤ UInt8.ofNat (bits + 0xe0) ∧ UInt8.ofNat (bits + 0xe0) ≤ 0xef := by
          decide
        obtain ⟨low, high⟩ := bounds (char.val.toNat / 4096 % 16) (Nat.mod_lt _ (by decide))
        refine ⟨_, _, rfl, .three low high, ?_⟩
        exact List.forall_mem_cons.2 ⟨continuation_ofNat _,
          List.forall_mem_cons.2 ⟨continuation_ofNat _, List.forall_mem_nil _⟩⟩
      · have bounds : ∀ bits < 5,
            0xf0 ≤ UInt8.ofNat (bits + 0xf0) ∧ UInt8.ofNat (bits + 0xf0) ≤ 0xf4 := by
          decide
        obtain ⟨low, high⟩ := bounds (char.val.toNat / 262144 % 8) (by omega)
        refine ⟨_, _, rfl, .four low high, ?_⟩
        exact List.forall_mem_cons.2 ⟨continuation_ofNat _,
          List.forall_mem_cons.2 ⟨continuation_ofNat _,
            List.forall_mem_cons.2 ⟨continuation_ofNat _, List.forall_mem_nil _⟩⟩⟩

end Utf8
