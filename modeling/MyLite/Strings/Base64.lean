import Mathlib.Data.List.Basic
import Mathlib.Tactic.Common

/-! TO_BASE64 and FROM_BASE64: groups of three bytes as four characters, with a line break
after every 76 characters. -/

namespace MyLite.Base64

inductive Status where
  | noMemory
  deriving DecidableEq, Repr

/-- Bytes in memory: no object is larger than `PTRDIFF_MAX`. -/
structure Buffer where
  bytes : List UInt8
  size_le : bytes.length ≤ 9223372036854775807

/-- `SIZE_MAX`. -/
def sizeMax : Nat := 18446744073709551615

def encodedLineWidth : Nat := 76

def inputGroupSize : Nat := 3

def outputGroupSize : Nat := 4

def lineBreak : UInt8 := 10

def paddingCharacter : UInt8 := 61

/-- `A`–`Z`, `a`–`z`, `0`–`9`, `+` and `/`. -/
def alphabet : List UInt8 :=
  (List.range' 65 26 ++ List.range' 97 26 ++ List.range' 48 10 ++ [43, 47]).map UInt8.ofNat

/-- The character of a sextet. -/
def encodeSextet (sextet : Nat) : UInt8 := alphabet.getD sextet 0

/-- `base64_encoded_output_size`. -/
def encodedOutputSize (inputSize : Nat) : Except Status Nat :=
  if inputSize > sizeMax / outputGroupSize * inputGroupSize then .error .noMemory
  else if inputSize = 0 then .ok 0
  else
    let encodedSize := (inputSize + 2) / inputGroupSize * outputGroupSize
    let newlineCount := (encodedSize - 1) / encodedLineWidth
    if encodedSize > sizeMax - newlineCount - 1 then .error .noMemory
    else .ok (encodedSize + newlineCount)

/-- The four characters of one to three bytes; a byte that is missing counts as 0. -/
def encodeGroup (groupInputSize firstByte secondByte thirdByte : Nat) : List UInt8 :=
  [encodeSextet ((firstByte >>> 2) &&& 63),
   encodeSextet (((firstByte &&& 3) <<< 4) ||| ((secondByte >>> 4) &&& 15)),
   if groupInputSize > 1 then
     encodeSextet (((secondByte &&& 15) <<< 2) ||| ((thirdByte >>> 6) &&& 3))
   else paddingCharacter,
   if groupInputSize > 2 then encodeSextet (thirdByte &&& 63) else paddingCharacter]

/-- `base64_next_encode_group`: the characters of the next group and the bytes after it. -/
def nextEncodeGroup (firstByte : UInt8) (rest : List UInt8) : List UInt8 × List UInt8 :=
  let remaining := rest.length + 1
  let groupInputSize := if remaining ≥ inputGroupSize then inputGroupSize else remaining
  (encodeGroup groupInputSize firstByte.toNat (rest.headD 0).toNat (rest.tail.headD 0).toNat,
    rest.drop 2)

/-- `struct base64_encode_output_state`. -/
structure EncodeOutputState where
  output : List UInt8
  lineWidth : Nat

/-- `output[state->output_index++] = character`. -/
def EncodeOutputState.store (state : EncodeOutputState) (outputSize : Nat) (character : UInt8) :
    Except Status EncodeOutputState :=
  if state.output.length ≥ outputSize then .error .noMemory
  else .ok ⟨state.output ++ [character], state.lineWidth + 1⟩

/-- One character of `base64_append_encoded_group`. -/
def EncodeOutputState.append (state : EncodeOutputState) (outputSize : Nat)
    (character : UInt8) : Except Status EncodeOutputState :=
  if state.lineWidth = encodedLineWidth then
    match state.store outputSize lineBreak with
    | .error status => .error status
    | .ok broken => { broken with lineWidth := 0 }.store outputSize character
  else state.store outputSize character

/-- `base64_append_encoded_group`. -/
def EncodeOutputState.appendGroup (state : EncodeOutputState) (outputSize : Nat) :
    List UInt8 → Except Status EncodeOutputState
  | [] => .ok state
  | character :: group =>
    match state.append outputSize character with
    | .error status => .error status
    | .ok next => next.appendGroup outputSize group

/-- The loop of `mylite_string_base64_encode`. -/
def EncodeOutputState.encodeGroups (state : EncodeOutputState) (outputSize : Nat) :
    List UInt8 → Except Status EncodeOutputState
  | [] => .ok state
  | firstByte :: rest =>
    match state.appendGroup outputSize (nextEncodeGroup firstByte rest).1 with
    | .error status => .error status
    | .ok next => next.encodeGroups outputSize (nextEncodeGroup firstByte rest).2
termination_by bytes => bytes.length
decreasing_by
  simp only [nextEncodeGroup, List.length_drop, List.length_cons]
  omega

/-- `mylite_string_base64_encode`. -/
def encode (bytes : List UInt8) : Except Status (List UInt8) :=
  if bytes.length = 0 then .ok []
  else
    match encodedOutputSize bytes.length with
    | .error status => .error status
    | .ok outputSize =>
      match EncodeOutputState.encodeGroups ⟨[], 0⟩ outputSize bytes with
      | .error status => .error status
      | .ok state =>
        if state.output.length ≠ outputSize then .error .noMemory else .ok state.output

/-- `base64_ignored_whitespace`. -/
def ignoredWhitespace (byte : UInt8) : Bool :=
  byte = 32 || byte = 9 || byte = 13 || byte = 10

/-- `base64_char_value`. -/
def charValue (byte : UInt8) : Option Nat :=
  if 65 ≤ byte ∧ byte ≤ 90 then some (byte.toNat - 65)
  else if 97 ≤ byte ∧ byte ≤ 122 then some (byte.toNat - 97 + 26)
  else if 48 ≤ byte ∧ byte ≤ 57 then some (byte.toNat - 48 + 52)
  else if byte = 43 then some 62
  else if byte = 47 then some 63
  else none

/-- The loop of `base64_validate_normalized`: the padding characters of a valid text. -/
def countPadding (normalizedSize : Nat) : Nat → Nat → List UInt8 → Option Nat
  | _, padCount, [] => some padCount
  | index, padCount, byte :: rest =>
    if byte = paddingCharacter then
      if index < normalizedSize - 2 then none
      else countPadding normalizedSize (index + 1) (padCount + 1) rest
    else if padCount ≠ 0 ∨ charValue byte = none then none
    else countPadding normalizedSize (index + 1) padCount rest

/-- `base64_validate_normalized`. -/
def validateNormalized (normalized : List UInt8) : Except Status (Option Nat) :=
  if normalized.length % outputGroupSize ≠ 0 then .ok none
  else
    match countPadding normalized.length 0 0 normalized with
    | none => .ok none
    | some padCount =>
      if padCount > 2 then .ok none
      else if normalized.length / outputGroupSize > sizeMax / inputGroupSize then
        .error .noMemory
      else if normalized.length / outputGroupSize * inputGroupSize < padCount then .ok none
      else .ok (some padCount)

/-- `(unsigned char)`. -/
def narrow (value : Nat) : UInt8 := UInt8.ofNat (value % 256)

/-- One group of `base64_decode_valid_normalized`: a padding character counts as 0. -/
def decodeGroup (outputSize : Nat) (decoded : List UInt8) (group : List UInt8) : List UInt8 :=
  let padCount := group.countP fun byte => byte = paddingCharacter
  let sextets := group.map fun byte =>
    if byte = paddingCharacter then 0 else (charValue byte).getD 0
  let first := sextets.getD 0 0
  let second := sextets.getD 1 0
  let third := sextets.getD 2 0
  let fourth := sextets.getD 3 0
  let one := decoded ++ [narrow ((first <<< 2) ||| (second >>> 4))]
  let two :=
    if padCount < 2 ∧ one.length < outputSize then
      one ++ [narrow ((second <<< 4) ||| (third >>> 2))]
    else one
  if padCount = 0 ∧ two.length < outputSize then two ++ [narrow ((third <<< 6) ||| fourth)]
  else two

/-- `base64_decode_valid_normalized`. -/
def decodeValidNormalized (outputSize : Nat) (decoded : List UInt8) : List UInt8 → List UInt8
  | first :: second :: third :: fourth :: rest =>
    decodeValidNormalized outputSize
      (decodeGroup outputSize decoded [first, second, third, fourth]) rest
  | _ => decoded

/-- Decoded bytes and the size that is returned with them. -/
structure Decoded where
  bytes : List UInt8
  size : Nat
  deriving DecidableEq, Repr

/-- `base64_decode_normalized`; a text that is not valid has no result. -/
def decodeNormalized (normalized : List UInt8) : Except Status (Option Decoded) :=
  if normalized.length = 0 then .ok (some ⟨[], 0⟩)
  else
    match validateNormalized normalized with
    | .error status => .error status
    | .ok none => .ok none
    | .ok (some padCount) =>
      let outputSize := normalized.length / outputGroupSize * inputGroupSize - padCount
      .ok (some ⟨decodeValidNormalized outputSize [] normalized, outputSize⟩)

/-- `mylite_string_base64_decode`. -/
def decode (text : List UInt8) : Except Status (Option Decoded) :=
  if text.length = sizeMax then .error .noMemory
  else decodeNormalized (text.filter fun byte => !ignoredWhitespace byte)

end MyLite.Base64
