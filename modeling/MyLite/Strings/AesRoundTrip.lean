import Mathlib.Data.Fintype.Pi
import MyLite.Library.Blockwise
import MyLite.Strings.AesField

/-! Decryption inverts encryption: of a block, under any round keys, and of a text. -/

namespace MyLite.Aes

theorem get_ofFn {α : Type} {size : Nat} (element : Fin size → α) (index : Fin size) :
    (Vector.ofFn element).get index = element index :=
  Vector.getElem_ofFn index.isLt

/-! Tables. -/

theorem lookup_set (table : Vector UInt8 256) (slot entry byte : UInt8) :
    lookup (table.set slot.toFin entry slot.toFin.isLt) byte =
      if slot = byte then entry else lookup table byte := by
  have entered : lookup (table.set slot.toFin entry slot.toFin.isLt) byte =
      if slot.toFin.val = byte.toFin.val then entry else lookup table byte :=
    Vector.getElem_set slot.toFin.isLt byte.toFin.isLt
  rw [entered]
  by_cases same : slot = byte
  · rw [if_pos same, if_pos (congrArg (fun byte => byte.toFin.val) same)]
  · have apart : slot.toFin.val ≠ byte.toFin.val :=
      fun equal => same (UInt8.toFin_inj.mp (Fin.ext equal))
    rw [if_neg same, if_neg apart]

/-- The tables have the entries of the value. -/
def Entered (sboxes : Sboxes) (value : UInt8) : Prop :=
  lookup sboxes.direct value = sboxValue value ∧ lookup sboxes.inverse (sboxValue value) = value

theorem setSboxes_entered (sboxes : Sboxes) (value : UInt8) :
    Entered (setSboxes sboxes value) value := by
  constructor
  · rw [setSboxes, lookup_set, if_pos rfl]
  · rw [setSboxes, lookup_set, if_pos rfl]

theorem Entered.setSboxes {sboxes : Sboxes} {value : UInt8} (entered : Entered sboxes value)
    (other : UInt8) : Entered (setSboxes sboxes other) value := by
  by_cases same : other = value
  · exact same ▸ setSboxes_entered sboxes other
  · have apart : sboxValue other ≠ sboxValue value := sboxValue_injective.ne same
    constructor
    · rw [Aes.setSboxes, lookup_set, if_neg same, entered.1]
    · rw [Aes.setSboxes, lookup_set, if_neg apart, entered.2]

theorem generated_entered (sboxes : Sboxes) (count : Nat) (value : UInt8)
    (below : value.toNat < count) :
    Entered ((List.range count).foldl (fun sboxes value => setSboxes sboxes (UInt8.ofNat value))
      sboxes) value := by
  induction count with
  | zero => cases below
  | succ count ih =>
    rw [List.range_succ, List.foldl_append, List.foldl_cons, List.foldl_nil]
    by_cases last : value.toNat = count
    · rw [← last, UInt8.ofNat_toNat]
      exact setSboxes_entered _ value
    · exact (ih (by omega)).setSboxes _

theorem generateSboxes_entered (sboxes : Sboxes) (value : UInt8) :
    Entered (generateSboxes sboxes) value :=
  generated_entered sboxes 256 value value.toNat_lt

theorem lookup_inverse_direct (sboxes : Sboxes) :
    Function.LeftInverse (lookup (generateSboxes sboxes).inverse)
      (lookup (generateSboxes sboxes).direct) := by
  intro value
  obtain ⟨direct, inverse⟩ := generateSboxes_entered sboxes value
  rw [direct, inverse]

/-! Steps of a round. -/

theorem addRoundKey_addRoundKey (roundKey state : Block) :
    addRoundKey (addRoundKey state roundKey) roundKey = state := by
  apply Vector.ext
  intro index below
  rw [addRoundKey, Vector.getElem_zipWith, addRoundKey, Vector.getElem_zipWith, UInt8.xor_assoc,
    UInt8.xor_self, UInt8.xor_zero]

theorem subBytes_subBytes {direct inverse : Vector UInt8 256}
    (undoes : Function.LeftInverse (lookup inverse) (lookup direct)) (state : Block) :
    subBytes inverse (subBytes direct state) = state := by
  apply Vector.ext
  intro index below
  rw [subBytes, Vector.getElem_map, subBytes, Vector.getElem_map, undoes]

theorem invShiftRows_shiftRows (state : Block) : invShiftRows (shiftRows state) = state := by
  have cells : ∀ index : Fin 16,
      cell ((cell (index.val % 4) ((index.val / 4 + 4 - index.val % 4) % 4)).val % 4)
        (((cell (index.val % 4) ((index.val / 4 + 4 - index.val % 4) % 4)).val / 4 +
          (cell (index.val % 4) ((index.val / 4 + 4 - index.val % 4) % 4)).val % 4) % 4) =
        index := by decide
  apply Vector.ext
  intro index below
  rw [invShiftRows, Vector.getElem_ofFn, shiftRows, get_ofFn]
  exact congrArg state.get (cells ⟨index, below⟩)

theorem cell_val {row column : Nat} (rowInside : row < 4) (columnInside : column < 4) :
    (cell row column).val = row + 4 * column :=
  Nat.mod_eq_of_lt (by omega)

theorem columnOf_mapColumns (transform : Column → Column) (state : Block) {column : Nat}
    (inside : column < 4) :
    columnOf (mapColumns transform state) column = transform (columnOf state column) := by
  apply Vector.ext
  intro row below
  have place := cell_val below inside
  have quotient : (cell row column).val / 4 = column := by omega
  have remainder : Fin.ofNat 4 (cell row column).val = ⟨row, below⟩ :=
    Fin.ext (show (cell row column).val % 4 = row by omega)
  rw [columnOf, Vector.getElem_ofFn, mapColumns, get_ofFn, quotient, remainder]
  rfl

theorem mapColumns_mapColumns {transform inverse : Column → Column}
    (undoes : Function.LeftInverse inverse transform) (state : Block) :
    mapColumns inverse (mapColumns transform state) = state := by
  apply Vector.ext
  intro index below
  have inside : index / 4 < 4 := by omega
  have place : cell (index % 4) (index / 4) = ⟨index, below⟩ := Fin.ext (by
    rw [cell_val (Nat.mod_lt _ (by decide)) inside]
    exact Nat.mod_add_div index 4)
  rw [mapColumns, Vector.getElem_ofFn, columnOf_mapColumns transform state inside, undoes,
    columnOf, get_ofFn]
  exact congrArg state.get place

/-! Blocks. -/

/-- A round of encryption before its columns are mixed. -/
def substituted (sboxes : Sboxes) (state : Block) : Block :=
  shiftRows (subBytes sboxes.direct state)

section Blocks

variable (roundKeys : RoundKeys) (sboxes : Sboxes)

theorem unsubstituted (state : Block) :
    subBytes (generateSboxes sboxes).inverse
      (invShiftRows (substituted (generateSboxes sboxes) state)) = state := by
  rw [substituted, invShiftRows_shiftRows, subBytes_subBytes (lookup_inverse_direct sboxes)]

/-- Decryption is half a round ahead. -/
theorem decryptRound_encryptRound (state : Block) (round : Nat) :
    decryptRound roundKeys (generateSboxes sboxes) (substituted (generateSboxes sboxes)
      (encryptRound roundKeys (generateSboxes sboxes) state round)) round =
      substituted (generateSboxes sboxes) state := by
  rw [decryptRound, unsubstituted, encryptRound, addRoundKey_addRoundKey, invMixColumns, mixColumns,
    mapColumns_mapColumns invMixColumn_mixColumn, substituted]

theorem decryptBlock_encryptBlock :
    Function.LeftInverse (decryptBlock roundKeys (generateSboxes sboxes))
      (encryptBlock roundKeys (generateSboxes sboxes)) := by
  intro input
  have rounds := Rounds.undo (decryptRound_encryptRound roundKeys sboxes) (List.range' 1 9)
    (addRoundKey input (roundKey roundKeys 0))
  rw [substituted] at rounds
  rw [decryptBlock, encryptBlock, addRoundKey_addRoundKey, rounds, unsubstituted,
    addRoundKey_addRoundKey]

instance : Finite Block :=
  Finite.of_injective (fun (block : Block) (index : Fin 16) => (block.get index).toFin) (by
    intro left right same
    apply Vector.ext
    intro index below
    exact UInt8.toFin_inj.mp (congrFun same ⟨index, below⟩))

theorem encryptBlock_decryptBlock :
    Function.RightInverse (decryptBlock roundKeys (generateSboxes sboxes))
      (encryptBlock roundKeys (generateSboxes sboxes)) := by
  have undoes := decryptBlock_encryptBlock roundKeys sboxes
  have reached := Finite.surjective_of_injective undoes.injective
  exact undoes.rightInverse_of_surjective reached

end Blocks

/-! Padding. -/

/-- What encryption appends. -/
def padded (plain : List UInt8) : List UInt8 :=
  plain ++ List.replicate (16 - plain.length % 16) (UInt8.ofNat (16 - plain.length % 16))

theorem length_padded (plain : List UInt8) :
    (padded plain).length = 16 * (plain.length / 16 + 1) := by
  rw [padded, List.length_append, List.length_replicate]
  omega

theorem padded_whole (plain : List UInt8) : 16 ∣ (padded plain).length :=
  ⟨_, length_padded plain⟩

theorem validPadding_padded (plain : List UInt8) :
    validPadding (padded plain) = some plain.length := by
  have total := length_padded plain
  rw [padded] at total ⊢
  have most : 16 - plain.length % 16 ≤ 16 := by omega
  have least : 0 < 16 - plain.length % 16 := by omega
  have whole : plain.length + (16 - plain.length % 16) = 16 * (plain.length / 16 + 1) := by omega
  generalize 16 - plain.length % 16 = count at *
  have number : (UInt8.ofNat count).toNat = count := Nat.mod_eq_of_lt (by omega)
  have last : (plain ++ List.replicate count (UInt8.ofNat count)).getD
      ((plain ++ List.replicate count (UInt8.ofNat count)).length - 1) 0 = UInt8.ofNat count := by
    rw [List.getD_eq_getElem?_getD, ← List.getLast?_eq_getElem?, List.getLast?_append,
      List.getLast?_replicate, if_neg (by omega)]
    rfl
  have size : (plain ++ List.replicate count (UInt8.ofNat count)).length - count = plain.length := by
    omega
  have accepted : ¬ (UInt8.ofNat count = 0 ∨ UInt8.ofNat count > 16 ∨
      (UInt8.ofNat count).toNat > (plain ++ List.replicate count (UInt8.ofNat count)).length) := by
    rintro (zero | large | long)
    · exact absurd (congrArg UInt8.toNat zero) (by rw [number]; exact Nat.ne_of_gt least)
    · exact absurd (UInt8.lt_iff_toNat_lt.mp large) (by rw [number]; exact Nat.not_lt.mpr most)
    · omega
  have same : (List.replicate count (UInt8.ofNat count)).all
      (fun byte => byte = UInt8.ofNat count) = true := by
    rw [List.all_replicate]
    simp
  rw [validPadding, if_neg (by omega), last, if_neg accepted, number, size, List.drop_left,
    if_pos same]

theorem padded_of_validPadding {bytes : List UInt8} {size : Nat} (whole : 16 ∣ bytes.length)
    (valid : validPadding bytes = some size) : padded (bytes.take size) = bytes := by
  rw [validPadding] at valid
  split at valid
  · cases valid
  · generalize bytes.getD (bytes.length - 1) 0 = padding at valid
    dsimp only at valid
    split at valid
    · cases valid
    · rename_i accepted
      split at valid
      · rename_i same
        have positive : padding.toNat ≠ 0 :=
          fun zero => accepted (.inl (UInt8.toNat_inj.mp zero))
        have most : padding.toNat ≤ 16 :=
          Nat.le_of_not_lt fun large => accepted (.inr (.inl (UInt8.lt_iff_toNat_lt.mpr large)))
        have inside : padding.toNat ≤ bytes.length :=
          Nat.le_of_not_lt fun long => accepted (.inr (.inr long))
        have taken : (bytes.take (bytes.length - padding.toNat)).length =
            bytes.length - padding.toNat := List.length_take_of_le (Nat.sub_le _ _)
        have count : 16 - (bytes.length - padding.toNat) % 16 = padding.toNat := by omega
        have rest : bytes.drop (bytes.length - padding.toNat) =
            List.replicate padding.toNat padding := by
          apply List.eq_replicate_iff.mpr
          constructor
          · rw [List.length_drop]
            omega
          · intro byte member
            exact of_decide_eq_true (List.all_eq_true.mp same byte member)
        cases valid
        rw [padded, taken, count, UInt8.ofNat_toNat, ← rest, List.take_append_drop]
      · cases valid

/-! Texts. -/

theorem encryptDefault_bytes (plain key : List UInt8) :
    (encryptDefault plain key).bytes = Blockwise.run
      (encryptBlock (expandFoldedKey key) (generateSboxes emptySboxes)) (padded plain) := rfl

theorem length_encryptDefault (plain key : List UInt8) :
    (encryptDefault plain key).bytes.length = 16 * (plain.length / 16 + 1) := by
  rw [encryptDefault_bytes, Blockwise.length_run _ (padded_whole plain), length_padded]

theorem decryptDefault_encryptDefault (plain key : List UInt8) :
    (decryptDefault (encryptDefault plain key).bytes key).bytes = some plain := by
  have length := length_encryptDefault plain key
  have whole : ¬ ((encryptDefault plain key).bytes.length = 0 ∨
      (encryptDefault plain key).bytes.length % blockSize ≠ 0) := by
    rw [length, blockSize]
    omega
  have undone := Blockwise.run_run
    (decryptBlock_encryptBlock (expandFoldedKey key) emptySboxes) (padded plain)
    (padded_whole plain)
  rw [decryptDefault]
  dsimp only
  rw [if_neg whole, encryptDefault_bytes, undone, validPadding_padded, Option.map_some, padded,
    List.take_left]

theorem encryptDefault_decryptDefault {cipher plain : List UInt8} (key : List UInt8)
    (decrypted : (decryptDefault cipher key).bytes = some plain) :
    (encryptDefault plain key).bytes = cipher := by
  rw [decryptDefault] at decrypted
  dsimp only at decrypted
  split at decrypted
  · cases decrypted
  · rename_i accepted
    obtain ⟨size, valid, rfl⟩ := Option.map_eq_some_iff.mp decrypted
    have whole : 16 ∣ cipher.length := Nat.dvd_of_mod_eq_zero (by
      by_contra rest
      exact accepted (.inr rest))
    have outputWhole : 16 ∣ (Blockwise.run
        (decryptBlock (expandFoldedKey key) (generateSboxes emptySboxes)) cipher).length := by
      rwa [Blockwise.length_run _ whole]
    rw [encryptDefault_bytes, padded_of_validPadding outputWhole valid]
    exact Blockwise.run_run (encryptBlock_decryptBlock (expandFoldedKey key) emptySboxes) cipher whole

/-- Encryption fills whole blocks, decryption inverts it in both directions, and so do the blocks
under any round keys. -/
theorem aes_round_trip :
    (∀ plain key : List UInt8,
      (encryptDefault plain key).bytes.length = 16 * (plain.length / 16 + 1)) ∧
    (∀ plain cipher key : List UInt8,
      (decryptDefault cipher key).bytes = some plain ↔ (encryptDefault plain key).bytes = cipher) ∧
    ∀ (roundKeys : RoundKeys) (sboxes : Sboxes),
      Function.LeftInverse (decryptBlock roundKeys (generateSboxes sboxes))
        (encryptBlock roundKeys (generateSboxes sboxes)) ∧
      Function.RightInverse (decryptBlock roundKeys (generateSboxes sboxes))
        (encryptBlock roundKeys (generateSboxes sboxes)) := by
  refine ⟨length_encryptDefault, ?_, ?_⟩
  · intro plain cipher key
    constructor
    · exact encryptDefault_decryptDefault key
    · rintro rfl
      exact decryptDefault_encryptDefault plain key
  · intro roundKeys sboxes
    exact ⟨decryptBlock_encryptBlock roundKeys sboxes, encryptBlock_decryptBlock roundKeys sboxes⟩

end MyLite.Aes
