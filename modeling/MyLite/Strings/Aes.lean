import MyLite.Library.Blockwise

/-! AES with 128-bit keys, block by block, with padding to whole blocks. -/

namespace MyLite.Aes

def blockSize : Nat := 16

def roundCount : Nat := 10

abbrev Block := Vector UInt8 16

abbrev Column := Vector UInt8 4

abbrev RoundKeys := Vector UInt8 176

structure Sboxes where
  direct : Vector UInt8 256
  inverse : Vector UInt8 256

/-- The entry of a table of bytes. -/
def lookup (table : Vector UInt8 256) (byte : UInt8) : UInt8 := table.get byte.toFin

/-! The field of 256 elements. -/

/-- `aes_xtime`. -/
def xtime (value : UInt8) : UInt8 :=
  (value <<< 1) ^^^ (if value &&& 0x80 ≠ 0 then 0x1b else 0)

/-- The loop of `aes_gf_mul`. -/
def gfMulLoop (result left right : UInt8) : UInt8 :=
  if right = 0 then result
  else gfMulLoop (if right &&& 1 ≠ 0 then result ^^^ left else result) (xtime left) (right >>> 1)
termination_by right.toNat
decreasing_by
  rename_i some
  have positive : right.toNat ≠ 0 := fun zero => some (UInt8.toNat_inj.mp zero)
  rw [UInt8.toNat_shiftRight]
  exact Nat.div_lt_self (Nat.pos_of_ne_zero positive) (by decide)

def gfMul (left right : UInt8) : UInt8 := gfMulLoop 0 left right

/-- The loop of `aes_multiplicative_inverse`. -/
def powerLoop (result base : UInt8) (exponent : Nat) : UInt8 :=
  if exponent = 0 then result
  else powerLoop (if exponent &&& 1 ≠ 0 then gfMul result base else result) (gfMul base base)
    (exponent >>> 1)
termination_by exponent
decreasing_by
  rename_i some
  rw [Nat.shiftRight_eq_div_pow]
  exact Nat.div_lt_self (Nat.pos_of_ne_zero some) (by decide)

def multiplicativeInverse (value : UInt8) : UInt8 :=
  if value = 0 then 0 else powerLoop 1 value 254

/-- `aes_rotl`. -/
def rotl (value shift : UInt8) : UInt8 := value <<< shift ||| value >>> (8 - shift)

/-! Tables. -/

/-- `aes_sbox_value`. -/
def sboxValue (value : UInt8) : UInt8 :=
  multiplicativeInverse value ^^^ rotl (multiplicativeInverse value) 1 ^^^
    rotl (multiplicativeInverse value) 2 ^^^ rotl (multiplicativeInverse value) 3 ^^^
    rotl (multiplicativeInverse value) 4 ^^^ 0x63

def setSboxes (sboxes : Sboxes) (value : UInt8) : Sboxes where
  direct := sboxes.direct.set value.toFin (sboxValue value) value.toFin.isLt
  inverse := sboxes.inverse.set (sboxValue value).toFin value (sboxValue value).toFin.isLt

/-- `aes_generate_sboxes`, over tables of any contents. -/
def generateSboxes (sboxes : Sboxes) : Sboxes :=
  (List.range 256).foldl (fun sboxes value => setSboxes sboxes (UInt8.ofNat value)) sboxes

/-! Keys. -/

/-- `aes_fold_mysql_key`. -/
def foldMysqlKey (key : List UInt8) : Block :=
  key.zipIdx.foldl
    (fun folded entry => folded.setIfInBounds (entry.2 % 16)
      (folded.getD (entry.2 % 16) 0 ^^^ entry.1))
    (Vector.replicate 16 0)

/-- The word of a round before the bytes that are generated. -/
def expandWord (sboxes : Sboxes) (bytes : List UInt8) (rcon : UInt8) : List UInt8 :=
  let temp := bytes.drop (bytes.length - 4)
  if bytes.length % 16 = 0 then
    [lookup sboxes.direct (temp.getD 1 0) ^^^ rcon, lookup sboxes.direct (temp.getD 2 0),
      lookup sboxes.direct (temp.getD 3 0), lookup sboxes.direct (temp.getD 0 0)]
  else temp

/-- The loop of `aes_expand_key`, over the bytes generated so far. -/
def expandLoop (sboxes : Sboxes) : Nat → List UInt8 → UInt8 → List UInt8
  | 0, bytes, _ => bytes
  | words + 1, bytes, rcon =>
    expandLoop sboxes words
      (bytes ++ (bytes.drop (bytes.length - 16)).zipWith (fun earlier byte => earlier ^^^ byte)
        (expandWord sboxes bytes rcon))
      (if bytes.length % 16 = 0 then xtime rcon else rcon)

def expandKey (key : Block) (sboxes : Sboxes) : RoundKeys :=
  Blockwise.first 176 (expandLoop sboxes 40 key.toList 1)

/-- `aes_round_key`. -/
def roundKey (roundKeys : RoundKeys) (round : Nat) : Block :=
  Vector.ofFn fun index => roundKeys.getD (round * 16 + index.val) 0

/-! Steps of a round. -/

def addRoundKey (state roundKey : Block) : Block :=
  Vector.zipWith (fun byte key => byte ^^^ key) state roundKey

/-- `aes_sub_bytes` and `aes_inv_sub_bytes`. -/
def subBytes (sbox : Vector UInt8 256) (state : Block) : Block := state.map (lookup sbox)

/-- The byte of a row and a column. -/
def cell (row column : Nat) : Fin 16 := Fin.ofNat 16 (row + 4 * column)

def shiftRows (state : Block) : Block :=
  Vector.ofFn fun index =>
    state.get (cell (index.val % 4) ((index.val / 4 + index.val % 4) % 4))

def invShiftRows (state : Block) : Block :=
  Vector.ofFn fun index =>
    state.get (cell (index.val % 4) ((index.val / 4 + 4 - index.val % 4) % 4))

def columnOf (state : Block) (column : Nat) : Column :=
  Vector.ofFn fun row => state.get (cell row.val column)

/-- The loop over the columns of `aes_mix_columns` and `aes_inv_mix_columns`. -/
def mapColumns (transform : Column → Column) (state : Block) : Block :=
  Vector.ofFn fun index =>
    (transform (columnOf state (index.val / 4))).get (Fin.ofNat 4 index.val)

def mixColumn (col : Column) : Column :=
  let a0 := col[0]
  let a1 := col[1]
  let a2 := col[2]
  let a3 := col[3]
  #v[gfMul a0 2 ^^^ gfMul a1 3 ^^^ a2 ^^^ a3,
    a0 ^^^ gfMul a1 2 ^^^ gfMul a2 3 ^^^ a3,
    a0 ^^^ a1 ^^^ gfMul a2 2 ^^^ gfMul a3 3,
    gfMul a0 3 ^^^ a1 ^^^ a2 ^^^ gfMul a3 2]

def mixColumns (state : Block) : Block := mapColumns mixColumn state

def invMixColumn (col : Column) : Column :=
  let a0 := col[0]
  let a1 := col[1]
  let a2 := col[2]
  let a3 := col[3]
  #v[gfMul a0 14 ^^^ gfMul a1 11 ^^^ gfMul a2 13 ^^^ gfMul a3 9,
    gfMul a0 9 ^^^ gfMul a1 14 ^^^ gfMul a2 11 ^^^ gfMul a3 13,
    gfMul a0 13 ^^^ gfMul a1 9 ^^^ gfMul a2 14 ^^^ gfMul a3 11,
    gfMul a0 11 ^^^ gfMul a1 13 ^^^ gfMul a2 9 ^^^ gfMul a3 14]

def invMixColumns (state : Block) : Block := mapColumns invMixColumn state

/-! Blocks. -/

/-- The body of the loop of `aes_encrypt_block`. -/
def encryptRound (roundKeys : RoundKeys) (sboxes : Sboxes) (state : Block) (round : Nat) : Block :=
  addRoundKey (mixColumns (shiftRows (subBytes sboxes.direct state))) (roundKey roundKeys round)

def encryptBlock (roundKeys : RoundKeys) (sboxes : Sboxes) (input : Block) : Block :=
  let state := addRoundKey input (roundKey roundKeys 0)
  let state := (List.range' 1 9).foldl (encryptRound roundKeys sboxes) state
  addRoundKey (shiftRows (subBytes sboxes.direct state)) (roundKey roundKeys roundCount)

/-- The body of the loop of `aes_decrypt_block`. -/
def decryptRound (roundKeys : RoundKeys) (sboxes : Sboxes) (state : Block) (round : Nat) : Block :=
  invMixColumns
    (addRoundKey (subBytes sboxes.inverse (invShiftRows state)) (roundKey roundKeys round))

def decryptBlock (roundKeys : RoundKeys) (sboxes : Sboxes) (input : Block) : Block :=
  let state := addRoundKey input (roundKey roundKeys roundCount)
  let state := (List.range' 1 9).reverse.foldl (decryptRound roundKeys sboxes) state
  addRoundKey (subBytes sboxes.inverse (invShiftRows state)) (roundKey roundKeys 0)

/-! Texts. -/

/-- `aes_valid_padding`: the size without the padding. -/
def validPadding (bytes : List UInt8) : Option Nat :=
  if bytes.length = 0 then none
  else
    let padding := bytes.getD (bytes.length - 1) 0
    if padding = 0 ∨ padding > 16 ∨ padding.toNat > bytes.length then none
    else if (bytes.drop (bytes.length - padding.toNat)).all fun byte => byte = padding then
      some (bytes.length - padding.toNat)
    else none

/-- The tables before they are generated. -/
def emptySboxes : Sboxes := ⟨Vector.replicate 256 0, Vector.replicate 256 0⟩

def expandFoldedKey (key : List UInt8) : RoundKeys :=
  expandKey (foldMysqlKey key) (generateSboxes emptySboxes)

structure Encrypted where
  bytes : List UInt8
  longKeyWarning : Bool

/-- `mylite_aes_encrypt_default`. -/
def encryptDefault (input key : List UInt8) : Encrypted :=
  let padding := blockSize - input.length % blockSize
  { bytes := Blockwise.run (encryptBlock (expandFoldedKey key) (generateSboxes emptySboxes))
      (input ++ List.replicate padding (UInt8.ofNat padding))
    longKeyWarning := key.length > blockSize }

/-- No bytes where the input is reported as invalid. -/
structure Decrypted where
  bytes : Option (List UInt8)
  longKeyWarning : Bool

/-- `mylite_aes_decrypt_default`. -/
def decryptDefault (input key : List UInt8) : Decrypted :=
  let output := Blockwise.run (decryptBlock (expandFoldedKey key) (generateSboxes emptySboxes)) input
  { bytes :=
      if input.length = 0 ∨ input.length % blockSize ≠ 0 then none
      else (validPadding output).map fun unpaddedSize => output.take unpaddedSize
    longKeyWarning := key.length > blockSize }

end MyLite.Aes
