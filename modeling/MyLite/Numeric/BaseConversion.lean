import MyLite.Library.FixedDigits
import MyLite.Numeric.UnsignedLiteral

/-! `CONV` twice: over the rows of a query, as a callback, and of constant arguments. -/

namespace MyLite.BaseConversion

open UnsignedLiteral (parseUnsignedIntegerLiteral)

abbrev Text := List UInt8

def minBase : UInt32 := 2

def maxBase : UInt32 := 36

/-- `binary_integer_text_capacity`. -/
def integerTextCapacity : Nat := 32

/-- `binary_base_conversion_text_capacity`. -/
def textCapacity : Nat := 66

/-- The capacity of `staged_truncated_decimal_text`. -/
def stagedTextCapacity : Nat := 83

def uint64Max : UInt64 := 18446744073709551615

def int64Max : UInt64 := 9223372036854775807

inductive Failure where
  /-- An argument of a type that is not supported. -/
  | unsupported
  /-- A text that does not fit its buffer. -/
  | runtime
  deriving DecidableEq, Repr

/-- A result, none where it is `NULL`, and the messages of the warnings. -/
structure Answer where
  text : Option Text
  warnings : List Text
  deriving DecidableEq, Repr

/-- `Truncated incorrect DECIMAL value: '…'`. -/
def truncatedIncorrectDecimal (text : Text) : Text :=
  "Truncated incorrect DECIMAL value: '".toUTF8.toList ++ text ++ [0x27]

/-! What both have, each in a copy of its own. -/

/-- `absolute_conv_base`, with the conversion to `unsigned int`. -/
def absoluteConvBase (base : Int64) : UInt32 :=
  if base = Int64.minValue then maxBase + 1
  else if base < 0 then (-base).toUInt64.toUInt32
  else base.toUInt64.toUInt32

def baseIsSupported (base : UInt32) : Bool := minBase ≤ base && base ≤ maxBase

structure DigitParse where
  value : UInt64
  sawDigit : Bool
  overflowed : Bool
  deriving DecidableEq, Repr

/-- The loop of `parse_row_conv_input_digits` and `parse_conv_input_digits`. -/
def parseDigits (fromBase limit : UInt64) (parse : DigitParse) : Text → DigitParse
  | [] => parse
  | byte :: rest =>
    if byte < 0x30 ∨ byte > 0x39 then parse
    else
      let digit := (byte - 0x30).toUInt64
      if digit ≥ fromBase then parse
      else if parse.overflowed then parseDigits fromBase limit { parse with sawDigit := true } rest
      else if parse.value > (limit - digit) / fromBase then
        parseDigits fromBase limit ⟨limit, true, true⟩ rest
      else parseDigits fromBase limit ⟨parse.value * fromBase + digit, true, false⟩ rest

def parseConvInputDigits (inputText : Text) (fromBase : UInt32) (limit : UInt64) : DigitParse :=
  parseDigits fromBase.toUInt64 limit ⟨0, false, false⟩
    (if inputText.head? = some 0x2d then inputText.tail else inputText)

def digitByte (digit : UInt64) : UInt8 :=
  if digit < 10 then 0x30 + digit.toUInt8 else 0x41 + (digit - 10).toUInt8

/-- The loop of `mylite_execution_scalar_binary_format_base_conversion_value`, with the room that
is left for digits. -/
def reversedDigits (base : UInt64) : Nat → UInt64 → Option Text
  | 0, value => if value = 0 then some [] else none
  | room + 1, value =>
    if value = 0 then some []
    else (reversedDigits base room (value / base)).map fun digits =>
      digitByte (value % base) :: digits

def formatBaseConversionValue (value : UInt64) (base : UInt32) (bufferSize : Nat) :
    Except Failure Text :=
  if bufferSize = 0 ∨ !baseIsSupported base then .error .runtime
  else if value = 0 then if bufferSize < 2 then .error .runtime else .ok [0x30]
  else
    match reversedDigits base.toUInt64 textCapacity value with
    | none => .error .runtime
    | some reversed => if reversed.length ≥ bufferSize then .error .runtime else .ok reversed.reverse

/-- `format_row_conv_output_value` and `format_conv_output_value`. -/
def formatConvOutputValue (value : UInt64) (base : UInt32) (signedOutput : Bool)
    (bufferSize : Nat) : Except Failure Text :=
  if bufferSize = 0 ∨ !baseIsSupported base then .error .runtime
  else if signedOutput ∧ value > int64Max then
    if bufferSize < 2 then .error .runtime
    else (formatBaseConversionValue (0 - value) base (bufferSize - 1)).map fun text => 0x2d :: text
  else formatBaseConversionValue value base bufferSize

/-- A text written to a buffer. -/
def fitted (capacity : Nat) (text : Text) : Except Failure Text :=
  if text.length ≥ capacity then .error .runtime else .ok text

/-! The callback. -/

/-- An argument of the callback. -/
inductive SqliteValue where
  | null
  | integer (value : Int64)
  | other
  deriving DecidableEq, Repr

/-- `sqlite_value_int64_or_null`. -/
def sqliteValueInt64OrNull : SqliteValue → Except Failure (Option Int64)
  | .null => .ok none
  | .integer value => .ok (some value)
  | .other => .error .unsupported

def formatRowConvInputText (value : Int64) : Except Failure Text :=
  if value ≥ 0 then fitted integerTextCapacity (FixedDigits.numeral value.toUInt64.toNat)
  else
    let magnitude := if value = Int64.minValue then int64Max + 1 else (-value).toUInt64
    fitted integerTextCapacity (0x2d :: FixedDigits.numeral magnitude.toNat)

/-- `convert_conv_integer_value`, with the warnings. -/
def convertConvIntegerValue (value : Int64) (fromBase : UInt32) (signedInput : Bool) :
    Except Failure (UInt64 × List Text) :=
  let limit :=
    if signedInput then if value < 0 then int64Max + 1 else int64Max else uint64Max
  (formatRowConvInputText value).map fun inputText =>
    let parse := parseConvInputDigits inputText fromBase limit
    (if !parse.sawDigit then 0 else if value < 0 then 0 - parse.value else parse.value,
      if !parse.sawDigit || parse.overflowed then [truncatedIncorrectDecimal inputText] else [])

def convValues (value fromBaseValue toBaseValue : Int64) : Except Failure Answer :=
  let fromBase := absoluteConvBase fromBaseValue
  let toBase := absoluteConvBase toBaseValue
  if !baseIsSupported fromBase || !baseIsSupported toBase then .ok ⟨none, []⟩
  else
    (convertConvIntegerValue value fromBase (fromBaseValue < 0)).bind fun converted =>
    (formatConvOutputValue converted.1 toBase (toBaseValue < 0) textCapacity).map fun text =>
      ⟨some text, converted.2⟩

/-- `conv_result`. -/
def convResult (value fromBase toBase : SqliteValue) : Except Failure Answer :=
  (sqliteValueInt64OrNull value).bind fun value =>
  (sqliteValueInt64OrNull fromBase).bind fun fromBase =>
  (sqliteValueInt64OrNull toBase).bind fun toBase =>
    match value, fromBase, toBase with
    | some value, some fromBase, some toBase => convValues value fromBase toBase
    | _, _, _ => .ok ⟨none, []⟩

/-! Constant arguments. -/

/-- The first argument: a literal, or what a bitwise or an arithmetic expression evaluates to. -/
inductive ValueOperand where
  | null
  | boolean (truth : Bool)
  | integer (negative : Bool) (text : Text)
  | bitwise (value : Option UInt64)
  | arithmetic (value : Option Int64)
  | other
  deriving DecidableEq, Repr

structure ConvInputValue where
  isNegative : Bool
  magnitude : UInt64
  deriving DecidableEq, Repr

/-- The part of `evaluate_conv_value_operand` for an arithmetic value. -/
def arithmeticInput (value : Int64) : ConvInputValue :=
  if value < 0 then
    ⟨true, if value = Int64.minValue then int64Max + 1 else (-value).toUInt64⟩
  else ⟨false, value.toUInt64⟩

/-- The part of `evaluate_conv_direct_value_operand` for an integer literal. -/
def literalInput (negative : Bool) (text : Text) : Except Failure ConvInputValue :=
  match parseUnsignedIntegerLiteral text with
  | none => .error .unsupported
  | some magnitude =>
    if negative ∧ magnitude > 9223372036854775808 then .error .unsupported
    else .ok ⟨negative && magnitude ≠ 0, UInt64.ofNat magnitude⟩

/-- `evaluate_conv_value_operand`; none is `NULL`. -/
def evaluateConvValueOperand : ValueOperand → Except Failure (Option ConvInputValue)
  | .null => .ok none
  | .boolean truth => .ok (some ⟨false, if truth then 1 else 0⟩)
  | .integer negative text => (literalInput negative text).map some
  | .bitwise value => .ok (value.map fun magnitude => ⟨false, magnitude⟩)
  | .arithmetic value => .ok (value.map arithmeticInput)
  | .other => .error .unsupported

/-- The result of a constant expression, with a warning that is staged. -/
structure ScalarCell where
  text : Option Text
  stagedTruncatedDecimalText : Option Text
  deriving DecidableEq, Repr

def formatConvInputText (input : ConvInputValue) : Except Failure Text :=
  if !input.isNegative then fitted integerTextCapacity (FixedDigits.numeral input.magnitude.toNat)
  else fitted integerTextCapacity (0x2d :: FixedDigits.numeral input.magnitude.toNat)

/-- `convert_conv_value`, with the text that is staged. -/
def convertConvValue (input : ConvInputValue) (fromBase : UInt32) (signedInput : Bool) :
    Except Failure (UInt64 × Option Text) :=
  let limit :=
    if signedInput then if input.isNegative then int64Max + 1 else int64Max else uint64Max
  (formatConvInputText input).bind fun inputText =>
    let parse := parseConvInputDigits inputText fromBase limit
    let converted :=
      if !parse.sawDigit then 0 else if input.isNegative then 0 - parse.value else parse.value
    if !parse.sawDigit || parse.overflowed then
      (fitted stagedTextCapacity inputText).map fun staged => (converted, some staged)
    else .ok (converted, none)

def convInput (input : ConvInputValue) (fromBaseValue toBaseValue : Int64) :
    Except Failure ScalarCell :=
  let inputBase := absoluteConvBase fromBaseValue
  let outputBase := absoluteConvBase toBaseValue
  if !baseIsSupported inputBase || !baseIsSupported outputBase then .ok ⟨none, none⟩
  else
    (convertConvValue input inputBase (fromBaseValue < 0)).bind fun converted =>
    (formatConvOutputValue converted.1 outputBase (toBaseValue < 0) textCapacity).map fun text =>
      ⟨some text, converted.2⟩

/-- `mylite_execution_scalar_conv_function_value`, for bases that arithmetic evaluates. -/
def convFunctionValue (value : ValueOperand) (fromBase toBase : Option Int64) :
    Except Failure ScalarCell :=
  (evaluateConvValueOperand value).bind fun input =>
    match input, fromBase, toBase with
    | some input, some fromBase, some toBase => convInput input fromBase toBase
    | _, _, _ => .ok ⟨none, none⟩

/-- The warnings that are staged, appended after the statement. -/
def ScalarCell.answer (cell : ScalarCell) : Answer where
  text := cell.text
  warnings := cell.stagedTruncatedDecimalText.toList.map truncatedIncorrectDecimal

end MyLite.BaseConversion
