import MyLite.Numeric.UnsignedLiteral
import Mathlib.Data.List.Basic

/-! The conversion of a literal for a BIT column. -/

namespace MyLite.BitLiteral

open UnsignedLiteral (parseUnsignedIntegerLiteral)

/-! Columns. -/

/-- `bit_width_for_logical_type`, for the text `BIT(w)`. -/
def bitWidthForLogicalType (logicalType : List UInt8) : Option Nat :=
  if logicalType.length ≤ 5 ∨ logicalType.getLast? ≠ some 0x29 ∨
      logicalType.take 4 ≠ [0x42, 0x49, 0x54, 0x28] then none
  else
    (parseUnsignedIntegerLiteral ((logicalType.drop 4).take (logicalType.length - 5))).filter
      fun width => width ≠ 0 ∧ width ≤ 64

def bitByteWidth (width : Nat) : Nat := (width + 7) / 8

def bitWidthMaxValue (width : Nat) : UInt64 :=
  if width ≥ 64 then 0xffffffffffffffff else ((1 : UInt64) <<< UInt64.ofNat width) - 1

/-- `make_bit_blob_value`. -/
def makeBitBlobValue (width : Nat) (magnitude : UInt64) : List UInt8 :=
  (List.range (bitByteWidth width)).map fun index =>
    (magnitude >>> UInt64.ofNat ((bitByteWidth width - index - 1) * 8) &&& 0xff).toUInt8

/-! Literals. -/

/-- A literal, by its text; that of a string is its decoded bytes. -/
inductive Literal where
  | integer (text : List UInt8)
  | bit (text : List UInt8)
  | hex (text : List UInt8)
  | string (bytes : List UInt8)
  | boolean (value : Bool)
  deriving DecidableEq, Repr

inductive ValueNode where
  | literal (operand : Literal)
  /-- `-` or `+` before a literal. -/
  | unary (negative : Bool) (operand : Literal)
  deriving DecidableEq, Repr

/-- What the text of a literal stands for. -/
inductive Magnitude where
  | unsupported
  | overflow
  | value (magnitude : UInt64)
  deriving DecidableEq, Repr

def hexNibbleValue (byte : UInt8) : Option UInt8 :=
  if 0x30 ≤ byte ∧ byte ≤ 0x39 then some (byte - 0x30)
  else if 0x61 ≤ byte ∧ byte ≤ 0x66 then some (byte - 0x61 + 10)
  else if 0x41 ≤ byte ∧ byte ≤ 0x46 then some (byte - 0x41 + 10)
  else none

/-- The loop over pairs of digits of `decode_quoted_hex_literal` and `decode_0x_hex_literal`. -/
def decodeHexPairs : List UInt8 → Option (List UInt8)
  | high :: low :: rest =>
    (hexNibbleValue high).bind fun highValue =>
    (hexNibbleValue low).bind fun lowValue =>
    (decodeHexPairs rest).map fun bytes => (highValue <<< 4 ||| lowValue) :: bytes
  | _ => some []

def decodeQuotedHexLiteral (text : List UInt8) : Option (List UInt8) :=
  if (text[0]? ≠ some 0x78 ∧ text[0]? ≠ some 0x58) ∨ text[1]? ≠ some 0x27 ∨
      text.getLast? ≠ some 0x27 ∨ (text.length - 3) % 2 ≠ 0 then none
  else decodeHexPairs ((text.drop 2).take (text.length - 3))

def decode0xHexLiteral (text : List UInt8) : Option (List UInt8) :=
  if (text.length - 2) % 2 ≠ 0 then
    ((text[2]?).bind hexNibbleValue).bind fun low =>
    (decodeHexPairs (text.drop 3)).map fun bytes => low :: bytes
  else decodeHexPairs (text.drop 2)

def decodeBinaryHexLiteral (text : List UInt8) : Option (List UInt8) :=
  if text.length < 3 then none
  else if text[0]? = some 0x30 ∧ (text[1]? = some 0x78 ∨ text[1]? = some 0x58) then
    decode0xHexLiteral text
  else decodeQuotedHexLiteral text

def bitStringBytesToMagnitude (bytes : List UInt8) : Magnitude :=
  if bytes.length > 8 then .overflow
  else .value (bytes.foldl (fun magnitude byte => magnitude <<< 8 ||| byte.toUInt64) 0)

/-- The loop of `parse_bit_literal_magnitude`. -/
def parseBits (significantBits : Nat) (magnitude : UInt64) : List UInt8 → Magnitude
  | [] => .value magnitude
  | byte :: rest =>
    if byte ≠ 0x30 ∧ byte ≠ 0x31 then .unsupported
    else if significantBits = 0 ∧ byte = 0x30 then parseBits significantBits magnitude rest
    else if significantBits ≥ 64 then .overflow
    else parseBits (significantBits + 1)
      (magnitude <<< 1 ||| (if byte = 0x31 then 1 else 0)) rest

def parseBitLiteralMagnitude (text : List UInt8) : Magnitude :=
  if text.length ≥ 3 ∧ (text[0]? = some 0x62 ∨ text[0]? = some 0x42) ∧ text[1]? = some 0x27 ∧
      text.getLast? = some 0x27 then
    parseBits 0 0 ((text.drop 2).take (text.length - 3))
  else if text.length ≥ 3 ∧ text[0]? = some 0x30 ∧
      (text[1]? = some 0x62 ∨ text[1]? = some 0x42) then
    parseBits 0 0 (text.drop 2)
  else .unsupported

/-- The literal of `parse_bit_value_magnitude`, past the sign. -/
def parseLiteralMagnitude : Literal → Magnitude
  | .boolean truth => .value (if truth then 1 else 0)
  | .integer text =>
    match parseUnsignedIntegerLiteral text with
    | some magnitude => .value (UInt64.ofNat magnitude)
    | none => .overflow
  | .bit text => parseBitLiteralMagnitude text
  | _ => .unsupported

/-! The conversion. -/

inductive Failure where
  | unsupported
  | outOfRange
  | dataTooLong
  deriving DecidableEq, Repr

inductive Warning where
  | outOfRange
  | dataTooLong
  deriving DecidableEq, Repr

structure Stored where
  blob : List UInt8
  warnings : List Warning
  deriving DecidableEq, Repr

/-- `convert_bit_value_magnitude`, for a column of the width. -/
def convertBitValueMagnitude (width : Nat) (magnitude : UInt64) (isNegative ignoreErrors : Bool) :
    Except Failure Stored :=
  if isNegative ∧ magnitude ≠ 0 ∨ magnitude > bitWidthMaxValue width then
    if !ignoreErrors then .error .dataTooLong
    else .ok ⟨makeBitBlobValue width (bitWidthMaxValue width), [.dataTooLong]⟩
  else .ok ⟨makeBitBlobValue width magnitude, []⟩

/-- `clip_bit_value_for_column`. -/
def clipBitValueForColumn (width : Nat) (includeOutOfRangeWarning : Bool) : Stored where
  blob := makeBitBlobValue width (bitWidthMaxValue width)
  warnings := (if includeOutOfRangeWarning then [.outOfRange] else []) ++ [.dataTooLong]

def convertBytes (width : Nat) (bytes : List UInt8) (ignoreErrors : Bool) :
    Except Failure Stored :=
  match bitStringBytesToMagnitude bytes with
  | .value magnitude => convertBitValueMagnitude width magnitude false ignoreErrors
  | _ =>
    if !ignoreErrors then .error .dataTooLong else .ok (clipBitValueForColumn width false)

def convertNumber (width : Nat) (isNegative : Bool) (operand : Literal) (ignoreErrors : Bool) :
    Except Failure Stored :=
  match parseLiteralMagnitude operand with
  | .unsupported => .error .unsupported
  | .overflow =>
    if !ignoreErrors then .error .outOfRange else .ok (clipBitValueForColumn width true)
  | .value magnitude => convertBitValueMagnitude width magnitude isNegative ignoreErrors

def convertForWidth (width : Nat) (ignoreErrors : Bool) : ValueNode → Except Failure Stored
  | .literal (.string bytes) => convertBytes width bytes ignoreErrors
  | .literal (.hex text) =>
    match decodeBinaryHexLiteral text with
    | none => .error .unsupported
    | some bytes => convertBytes width bytes ignoreErrors
  | .literal operand => convertNumber width false operand ignoreErrors
  | .unary negative operand => convertNumber width negative operand ignoreErrors

/-- `convert_bit_literal`, for the logical type of the column. -/
def convertBitLiteral (logicalType : List UInt8) (node : ValueNode) (ignoreErrors : Bool) :
    Except Failure Stored :=
  match bitWidthForLogicalType logicalType with
  | none => .error .unsupported
  | some width => convertForWidth width ignoreErrors node

end MyLite.BitLiteral
