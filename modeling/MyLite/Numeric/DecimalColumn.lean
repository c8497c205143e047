import MyLite.Numeric.DecimalText
import MyLite.Library.FixedDigits
import MyLite.Runtime.BitLiteral

/-! The conversion of a DML value for a DECIMAL column. -/

namespace MyLite.DecimalColumn

open Numeric (asciiDecimalDigit asciiNumericWhitespace digitValue shiftLimit decimalBase
  suffixIsTruncated scanSign)

/-- `decimal_type_info`, of a column that DDL accepts. -/
structure TypeInfo where
  precision : Nat
  scale : Nat
  isUnsigned : Bool
  positive : 1 ≤ precision
  atMost : precision ≤ 65
  scaleFits : scale ≤ precision
  deriving DecidableEq, Repr

structure Column where
  name : List UInt8
  info : TypeInfo

/-- A literal, by its text; that of a string is its decoded bytes. -/
inductive Literal where
  | integer (text : List UInt8)
  | decimal (text : List UInt8)
  | float (text : List UInt8)
  | string (bytes : List UInt8)
  | hex (text : List UInt8)
  | boolean (value : Bool)
  | other
  deriving DecidableEq, Repr

inductive ValueNode where
  | literal (operand : Literal)
  /-- `-` or `+` before a literal. -/
  | unary (negative : Bool) (operand : Literal)
  deriving DecidableEq, Repr

/-! Diagnostics. -/

def bytes (text : String) : List UInt8 := text.toUTF8.toList

inductive Report where
  | outOfRange (column : List UInt8) (row : Nat)
  | incorrectDecimalValue (value column : List UInt8) (row : Nat)
  | dataTruncated (column : List UInt8) (row : Nat)
  | unsupported (message : List UInt8)
  deriving DecidableEq, Repr

/-- ` for column '%s' at row %zu`. -/
def place (column : List UInt8) (row : Nat) : List UInt8 :=
  bytes " for column '" ++ column ++ bytes "' at row " ++ FixedDigits.numeral row

def Report.message : Report → List UInt8
  | .outOfRange column row => bytes "Out of range value" ++ place column row
  | .incorrectDecimalValue value column row =>
    bytes "Incorrect decimal value: '" ++ value ++ bytes "'" ++ place column row
  | .dataTruncated column row => bytes "Data truncated" ++ place column row
  | .unsupported message => message

def unsupportedValue : Report :=
  .unsupported (bytes
    "DECIMAL values support only numeric, boolean, hex, NULL, and DEFAULT values")

/-- A stored text and the warnings and notes appended on the way. -/
structure Stored where
  text : List UInt8
  reports : List Report
  deriving DecidableEq, Repr

/-! Digits. -/

def decimalDigitsAreZero (digits : List UInt8) : Bool := digits.all (· == 48)

/-- The loop of `increment_decimal_digits`, from the last digit on. -/
def incrementReversed : List UInt8 → List UInt8
  | [] => [49]
  | digit :: rest => if digit < 57 then (digit + 1) :: rest else 48 :: incrementReversed rest

def incrementDecimalDigits (digits : List UInt8) : List UInt8 :=
  (incrementReversed digits.reverse).reverse

def formatDecimalDigits (digits : List UInt8) (isNegative : Bool) (scale : Nat) : List UInt8 :=
  let integerDigitCount := digits.length - scale
  let leadingFractionZeroes := scale - digits.length
  (if isNegative then [45] else []) ++
    (if integerDigitCount = 0 then [48] else digits.take integerDigitCount) ++
      if 0 < scale then
        46 :: (List.replicate leadingFractionZeroes 48 ++ digits.drop integerDigitCount)
      else []

/-! Fixed texts. -/

/-- `decimal_literal_parts`: the integer digits without leading zeros, and those behind the
dot. -/
structure LiteralParts where
  integer : List UInt8
  fraction : List UInt8
  deriving DecidableEq, Repr

def parseDecimalLiteralParts (text : List UInt8) : Option LiteralParts :=
  let integer := text.takeWhile asciiDecimalDigit
  let rest := text.dropWhile asciiDecimalDigit
  let sawDot := rest.head? == some 46
  let fraction := if sawDot then rest.tail.takeWhile asciiDecimalDigit else []
  let left := if sawDot then rest.tail.dropWhile asciiDecimalDigit else rest
  if integer.isEmpty && fraction.isEmpty || !left.isEmpty then none
  else some ⟨integer.dropWhile (· == 48), fraction⟩

/-- `decimal_digit_buffer`. -/
structure DigitBuffer where
  digits : List UInt8
  discardedNonzero : Bool
  deriving DecidableEq, Repr

def roundDecimalDigitBufferIfNeeded (info : TypeInfo) (parts : LiteralParts)
    (digits : List UInt8) : DigitBuffer :=
  match parts.fraction.drop info.scale with
  | [] => ⟨digits, false⟩
  | first :: others =>
    ⟨if first < 53 then digits else incrementDecimalDigits digits,
      (first :: others).any (· != 48)⟩

/-- The digits up to the scale, filled with zeros, then rounded. -/
def buildDecimalDigitBuffer (info : TypeInfo) (parts : LiteralParts) : DigitBuffer :=
  roundDecimalDigitBufferIfNeeded info parts
    (parts.integer ++ (parts.fraction.take info.scale ++
      List.replicate (info.scale - parts.fraction.length) 48))

def decimalValueIsOutOfRange (info : TypeInfo) (isNegative : Bool) (digits : List UInt8) :
    Bool :=
  if decimalDigitsAreZero digits then false
  else
    let integerDigits := if info.scale < digits.length then digits.length - info.scale else 0
    info.precision - info.scale < integerDigits || (info.isUnsigned && isNegative)

def buildDecimalZeroValue (info : TypeInfo) : List UInt8 := formatDecimalDigits [] false info.scale

def buildDecimalEndpointValue (info : TypeInfo) (isNegative : Bool) : List UInt8 :=
  formatDecimalDigits (List.replicate info.precision 57) (isNegative && !info.isUnsigned) info.scale

def handleDecimalOutOfRange (column : Column) (row : Nat) (isNegative ignoreErrors : Bool) :
    Except Report Stored :=
  if !ignoreErrors then .error (.outOfRange column.name row)
  else
    .ok ⟨if column.info.isUnsigned && isNegative then buildDecimalZeroValue column.info
      else buildDecimalEndpointValue column.info isNegative, [.outOfRange column.name row]⟩

def canonicalizeDecimalText (column : Column) (row : Nat) (text : List UInt8)
    (isNegative ignoreErrors : Bool) : Except Report Stored :=
  match parseDecimalLiteralParts text with
  | none =>
    .error (.unsupported (bytes "DECIMAL values support only fixed decimal and integer literals"))
  | some parts =>
    let buffer := buildDecimalDigitBuffer column.info parts
    if decimalValueIsOutOfRange column.info isNegative buffer.digits then
      handleDecimalOutOfRange column row isNegative ignoreErrors
    else
      let keepNegativeSign := isNegative && !decimalDigitsAreZero buffer.digits
      .ok ⟨formatDecimalDigits buffer.digits keepNegativeSign column.info.scale,
        if buffer.discardedNonzero then [.dataTruncated column.name row] else []⟩

/-! Scanning a string. -/

/-- `mylite_execution_dml_numeric_token_scan`: `mantissa` is the text between `mantissa_start`
and `mantissa_end`, and `suffix` the text from `token_end` on. -/
structure TokenScan where
  mantissa : List UInt8
  suffix : List UInt8
  digitCount : Nat
  integerDigitCount : Nat
  firstNonzeroDigitIndex : Nat
  lastNonzeroDigitIndex : Nat
  exponent : Int
  isNegative : Bool
  hasNonzeroDigits : Bool
  deriving DecidableEq, Repr

def scanMantissaDigit (scan : TokenScan) (byte : UInt8) (sawDot : Bool) : TokenScan :=
  let placed :=
    if sawDot then scan else { scan with integerDigitCount := scan.integerDigitCount + 1 }
  let marked :=
    if byte = 48 then placed
    else
      { placed with
        firstNonzeroDigitIndex :=
          if placed.hasNonzeroDigits then placed.firstNonzeroDigitIndex else placed.digitCount
        lastNonzeroDigitIndex := placed.digitCount
        hasNonzeroDigits := true }
  { marked with digitCount := marked.digitCount + 1 }

/-- The loop of `scan_dml_numeric_mantissa`, and whether it saw a digit. -/
def scanMantissa (scan : TokenScan) (sawDot sawDigit : Bool) : List UInt8 → TokenScan × Bool
  | [] => ({ scan with suffix := [] }, sawDigit)
  | byte :: rest =>
    let taken := { scan with mantissa := scan.mantissa ++ [byte] }
    if asciiDecimalDigit byte then scanMantissa (scanMantissaDigit taken byte sawDot) sawDot true rest
    else if !sawDot && byte == 46 then scanMantissa taken true sawDigit rest
    else ({ scan with suffix := byte :: rest }, sawDigit)

/-- The loop of `scan_dml_numeric_exponent`. -/
def scanExponent (isNegative : Bool) (exponent : Int) : List UInt8 → Int
  | [] => if isNegative then -exponent else exponent
  | byte :: rest =>
    if ((shiftLimit : Int) - digitValue byte).tdiv decimalBase < exponent then
      if isNegative then -shiftLimit else shiftLimit
    else scanExponent isNegative (exponent * decimalBase + digitValue byte) rest

def scanExponentSuffix (scan : TokenScan) : TokenScan :=
  match scan.suffix with
  | [] => scan
  | byte :: rest =>
    if byte ≠ 101 ∧ byte ≠ 69 then scan
    else
      let (sign, start) := scanSign rest
      let digits := start.takeWhile asciiDecimalDigit
      if digits.isEmpty then scan
      else
        { scan with
          exponent := scanExponent (sign = some true) 0 digits
          suffix := start.dropWhile asciiDecimalDigit }

/-- `scan_dml_numeric_token`; `none` is `INVALID`. -/
def scanToken (text : List UInt8) : Option TokenScan :=
  let (sign, start) := scanSign text
  let (scan, sawDigit) :=
    scanMantissa ⟨[], [], 0, 0, 0, 0, 0, sign = some true, false⟩ false false start
  if !sawDigit then none else some (scanExponentSuffix scan)

/-- The scan, and whether the result is `TRUNCATED`. -/
def scanDmlNumericStringText (text : List UInt8) : Option (TokenScan × Bool) :=
  match text.dropWhile asciiNumericWhitespace with
  | [] => none
  | byte :: rest => (scanToken (byte :: rest)).map fun scan => (scan, suffixIsTruncated scan.suffix)

/-! From a scan to a fixed text. -/

/-- `dml_numeric_scan_decimal_position`. -/
def decimalPosition (integerDigitCount : Nat) (exponent : Int) : Int :=
  let integerDigits : Int := if shiftLimit < integerDigitCount then shiftLimit else integerDigitCount
  if (shiftLimit : Int) - integerDigits < exponent then shiftLimit
  else if exponent < -(shiftLimit : Int) + integerDigits then -(shiftLimit : Int)
  else integerDigits + exponent

def TokenScan.decimalPosition (scan : TokenScan) : Int :=
  DecimalColumn.decimalPosition scan.integerDigitCount scan.exponent

def exceedsDecimalRange (scan : TokenScan) (info : TypeInfo) : Bool :=
  if !scan.hasNonzeroDigits then false
  else if info.isUnsigned && scan.isNegative then true
  else if scan.decimalPosition ≤ scan.firstNonzeroDigitIndex then false
  else decide ((info.precision - info.scale : Nat) <
    scan.decimalPosition - (scan.firstNonzeroDigitIndex : Int))

def copyScanDigits (scan : TokenScan) : List UInt8 := scan.mantissa.filter asciiDecimalDigit

def virtualDigit (digits : List UInt8) (scan : TokenScan) (index : Int) : UInt8 :=
  if index < 0 ∨ (scan.digitCount : Int) ≤ index then 48 else digits[index.toNat]?.getD 48

def hasNonzeroVirtualDigitAtOrAfter (scan : TokenScan) (index : Int) : Bool :=
  if !scan.hasNonzeroDigits then false
  else if index ≤ 0 then true
  else index ≤ (scan.lastNonzeroDigitIndex : Int)

/-- The digits in front of the dot of `build_decimal_text_from_numeric_scan`. -/
def integerText (scan : TokenScan) (digits : List UInt8) : List UInt8 :=
  let first : Int := scan.firstNonzeroDigitIndex
  if scan.decimalPosition ≤ first then [48]
  else
    (List.range (scan.decimalPosition - first).toNat).map fun index : Nat =>
      virtualDigit digits scan (first + index)

/-- One digit behind the dot: the last one is never `0` in front of what is cut off. -/
def fractionDigit (scan : TokenScan) (info : TypeInfo) (digits : List UInt8) (index : Nat) :
    UInt8 :=
  let digitIndex := scan.decimalPosition + index
  let digit := virtualDigit digits scan digitIndex
  if index = info.scale ∧ digit = 48 ∧
      hasNonzeroVirtualDigitAtOrAfter scan (digitIndex + 1) then 49
  else digit

/-- `none` is out of range. -/
def buildDecimalTextFromNumericScan (scan : TokenScan) (info : TypeInfo) : Option (List UInt8) :=
  if exceedsDecimalRange scan info then none
  else
    let digits := copyScanDigits scan
    some (integerText scan digits ++
      46 :: (List.range (info.scale + 1)).map (fractionDigit scan info digits))

/-! The conversions. -/

def convertDecimalScannedStringLiteral (column : Column) (row : Nat) (scan : TokenScan)
    (truncated adjustErrors : Bool) : Except Report Stored :=
  let note := if truncated then [Report.dataTruncated column.name row] else []
  let converted :=
    if !scan.hasNonzeroDigits then .ok ⟨buildDecimalZeroValue column.info, []⟩
    else
      match buildDecimalTextFromNumericScan scan column.info with
      | none => handleDecimalOutOfRange column row scan.isNegative adjustErrors
      | some text => canonicalizeDecimalText column row text scan.isNegative adjustErrors
  converted.map fun stored => { stored with reports := note ++ stored.reports }

/-- `dml_allows_missing_default_adjustment`. -/
def allowsAdjustment (isStrict ignoreErrors : Bool) : Bool := ignoreErrors || !isStrict

def convertDecimalStringText (column : Column) (row : Nat) (text : List UInt8)
    (isStrict ignoreErrors : Bool) : Except Report Stored :=
  let adjustErrors := allowsAdjustment isStrict ignoreErrors
  let incorrect := Report.incorrectDecimalValue text column.name row
  match scanDmlNumericStringText text with
  | none =>
    if !adjustErrors then .error incorrect
    else .ok ⟨buildDecimalZeroValue column.info, [incorrect]⟩
  | some (scan, truncated) =>
    if truncated && !adjustErrors then .error incorrect
    else convertDecimalScannedStringLiteral column row scan truncated adjustErrors

def convertDecimalHexLiteral (column : Column) (row : Nat) (text : List UInt8)
    (isNegative ignoreErrors : Bool) : Except Report Stored :=
  match BitLiteral.decodeBinaryHexLiteral text with
  | none => .error (.unsupported (bytes "Binary string values support only valid hex literals"))
  | some decoded =>
    let significant := decoded.dropWhile (· == 0)
    if 8 < significant.length then handleDecimalOutOfRange column row isNegative ignoreErrors
    else
      let magnitude : UInt64 :=
        significant.foldl (fun magnitude byte => magnitude <<< 8 ||| byte.toUInt64) 0
      canonicalizeDecimalText column row (FixedDigits.numeral magnitude.toNat) isNegative
        ignoreErrors

/-- `convert_decimal_literal` past the sign. -/
def convertOperand (column : Column) (row : Nat) (isNegative : Bool) (operand : Literal)
    (isStrict ignoreErrors : Bool) : Except Report Stored :=
  match operand with
  | .boolean value =>
    canonicalizeDecimalText column row (if value then [49] else [48]) isNegative ignoreErrors
  | .string text => convertDecimalStringText column row text isStrict ignoreErrors
  | .hex text => convertDecimalHexLiteral column row text isNegative ignoreErrors
  | .integer text | .decimal text =>
    canonicalizeDecimalText column row text isNegative ignoreErrors
  | .float _ | .other => .error unsupportedValue

def convertDecimalLiteral (column : Column) (row : Nat) (node : ValueNode)
    (isStrict ignoreErrors : Bool) : Except Report Stored :=
  match node with
  | .literal operand => convertOperand column row false operand isStrict ignoreErrors
  | .unary negative operand => convertOperand column row negative operand isStrict ignoreErrors

end MyLite.DecimalColumn
