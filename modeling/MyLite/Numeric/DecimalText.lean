import MyLite.Library.Checked

/-! The integer a text stands for in a DML value. Positions in the text are the bytes from them
on, and every computed value passes a check that its C type holds it. -/

namespace MyLite.Numeric

/-- A `size_t`; `none` where it would wrap. -/
def size (value : Nat) : Option Nat :=
  if value ≤ 18446744073709551615 then some value else none

/-- An `int64_t`; `none` where it would wrap. -/
def int64 (value : Int) : Option Int :=
  if ExactInt64.InRange value then some value else none

/-- A difference of two `size_t`. -/
def sizeSubtract (left right : Nat) : Option Nat :=
  if right ≤ left then some (left - right) else none

/-- A text with its `size_t` length. -/
structure Text where
  bytes : List UInt8
  fits : bytes.length ≤ 18446744073709551615

def decimalBase : Nat := 10

def decimalRoundHalfDigit : Nat := 5

def uint64DecimalDigitCapacity : Nat := 20

def shiftLimit : Nat := 1000000

def uint64Max : Nat := 18446744073709551615

def asciiDecimalDigit (byte : UInt8) : Bool := 48 ≤ byte && byte ≤ 57

def asciiNumericWhitespace (byte : UInt8) : Bool := byte == 32 || (9 ≤ byte && byte ≤ 13)

/-- `byte - '0'` of a digit. -/
def digitValue (byte : UInt8) : Nat := byte.toNat - 48

/-- `dml_integer_decimal_scan`: `mantissa` is the text between `mantissa_start` and
`mantissa_end`, and `suffix` the text from `token_end` on. -/
structure DecimalScan where
  mantissa : List UInt8
  suffix : List UInt8
  digitCount : Nat
  leadingZeroCount : Nat
  digitsAfterDot : Nat
  exponent : Int
  isNegative : Bool
  deriving DecidableEq, Repr

/-- An optional sign, and the text after it. -/
def scanSign : List UInt8 → Option Bool × List UInt8
  | [] => (none, [])
  | byte :: rest =>
    if byte = 43 then (some false, rest)
    else if byte = 45 then (some true, rest)
    else (none, byte :: rest)

def recordMantissaDigit (scan : DecimalScan) (byte : UInt8) (hasDot hasNonzeroDigit : Bool) :
    Option (DecimalScan × Bool) :=
  (size (scan.digitCount + 1)).bind fun digitCount =>
  (if hasDot then size (scan.digitsAfterDot + 1) else some scan.digitsAfterDot).bind
    fun digitsAfterDot =>
  let counted := { scan with digitCount, digitsAfterDot }
  if !hasNonzeroDigit && byte == 48 then
    (size (scan.leadingZeroCount + 1)).map fun leadingZeroCount =>
      ({ counted with leadingZeroCount }, false)
  else some (counted, true)

/-- The loop of `scan_dml_integer_decimal_mantissa`; the mantissa ends where `suffix`
begins. -/
def scanMantissa (scan : DecimalScan) (hasDot hasNonzeroDigit : Bool) :
    List UInt8 → Option DecimalScan
  | [] => some { scan with suffix := [] }
  | byte :: rest =>
    let taken := { scan with mantissa := scan.mantissa ++ [byte] }
    if asciiDecimalDigit byte then
      (recordMantissaDigit taken byte hasDot hasNonzeroDigit).bind fun (counted, nonzero) =>
        scanMantissa counted hasDot nonzero rest
    else if !hasDot && byte == 46 then scanMantissa taken true hasNonzeroDigit rest
    else some { scan with suffix := byte :: rest }

def suffixIsTruncated (suffix : List UInt8) : Bool :=
  suffix.any fun byte => !asciiNumericWhitespace byte

/-- The loop of `scan_dml_integer_decimal_exponent` over the digits between `start` and
`end`. -/
def scanExponent (isNegative : Bool) (exponent : Int) : List UInt8 → Option Int
  | [] => if isNegative then int64 (-exponent) else some exponent
  | byte :: rest =>
    (int64 ((shiftLimit : Int) - digitValue byte)).bind fun room =>
    if room.tdiv decimalBase < exponent then
      if isNegative then int64 (-shiftLimit) else some shiftLimit
    else
      (int64 (exponent * decimalBase)).bind fun scaled =>
      (int64 (scaled + digitValue byte)).bind fun next => scanExponent isNegative next rest

/-- `rest` is the text after the exponent marker. -/
def scanExponentSuffix (scan : DecimalScan) (rest : List UInt8) : Option DecimalScan :=
  let (sign, start) := scanSign rest
  let digits := start.takeWhile asciiDecimalDigit
  let suffix := start.dropWhile asciiDecimalDigit
  if digits ≠ [] then
    (scanExponent (sign = some true) 0 digits).map fun exponent => { scan with exponent, suffix }
  else if !suffixIsTruncated suffix then some { scan with suffix }
  else some scan

/-- The inner `none` is `INVALID`. -/
def scanToken (text : List UInt8) : Option (Option DecimalScan) :=
  let (sign, start) := scanSign text
  let initial : DecimalScan := ⟨[], [], 0, 0, 0, 0, sign = some true⟩
  (scanMantissa initial false false start).bind fun scan =>
  if scan.digitCount = 0 then some none
  else
    match scan.suffix with
    | [] => some (some scan)
    | byte :: rest =>
      if byte = 101 ∨ byte = 69 then (scanExponentSuffix scan rest).map some
      else some (some scan)

def decimalShift (scan : DecimalScan) : Option Int :=
  (if shiftLimit < scan.digitsAfterDot then some (shiftLimit : Int)
    else int64 scan.digitsAfterDot).bind fun scale =>
  if shiftLimit ≤ scan.exponent then some shiftLimit
  else if scan.exponent ≤ -shiftLimit then some (-shiftLimit)
  else
    (int64 (shiftLimit - scale)).bind fun above =>
    if above < scan.exponent then some shiftLimit
    else
      (int64 (-shiftLimit + scale)).bind fun below =>
      if scan.exponent < below then some (-shiftLimit) else int64 (scan.exponent - scale)

/-- The inner `none` is overflow. -/
def appendUint64DecimalDigit (value digit : Nat) : Option (Option Nat) :=
  if decimalBase ≤ digit then some none
  else
    (sizeSubtract uint64Max digit).bind fun room =>
    if room / decimalBase < value then some none
    else
      (size (value * decimalBase)).bind fun scaled => (size (scaled + digit)).map some

/-- The loop that pads with zeros. -/
def appendZeros (magnitude : Nat) : Nat → Option (Option Nat)
  | 0 => some (some magnitude)
  | remaining + 1 =>
    (appendUint64DecimalDigit magnitude 0).bind fun
      | none => some none
      | some appended => appendZeros appended remaining

/-- `remaining` is `integer_digit_count - appended_count`. -/
def appendScanDigits (remaining : Nat) (inSignificantDigits : Bool) (magnitude : Nat) :
    List UInt8 → Option (Option Nat)
  | [] => appendZeros magnitude remaining
  | byte :: rest =>
    match remaining with
    | 0 => some (some magnitude)
    | others + 1 =>
      if !asciiDecimalDigit byte then
        appendScanDigits remaining inSignificantDigits magnitude rest
      else if !inSignificantDigits && digitValue byte == 0 then
        appendScanDigits remaining inSignificantDigits magnitude rest
      else
        (appendUint64DecimalDigit magnitude (digitValue byte)).bind fun
          | none => some none
          | some appended => appendScanDigits others true appended rest

/-- `remaining` is `digit_offset - significant_seen`. -/
def scanDigitAt (remaining : Nat) (inSignificantDigits : Bool) : List UInt8 → Option Nat
  | [] => none
  | byte :: rest =>
    if !asciiDecimalDigit byte then scanDigitAt remaining inSignificantDigits rest
    else if !inSignificantDigits && digitValue byte == 0 then
      scanDigitAt remaining inSignificantDigits rest
    else
      match remaining with
      | 0 => some (digitValue byte)
      | others + 1 => scanDigitAt others true rest

def checkedUint64Increment (value : Nat) : Option (Option Nat) :=
  if value = uint64Max then some none else (size (value + 1)).map some

/-- The inner `none` is overflow. -/
def integerDigitCount (significantDigitCount : Nat) (shift : Int) : Option (Option Int) :=
  if 0 ≤ shift then
    if shiftLimit < significantDigitCount ∨ shiftLimit < shift then some none
    else
      (size (significantDigitCount + shift.toNat)).bind fun total =>
      if uint64DecimalDigitCapacity < total then some none
      else
        (int64 significantDigitCount).bind fun count => (int64 (count + shift)).map some
  else
    (int64 (-shift)).bind fun places =>
    if significantDigitCount ≤ places.toNat then
      (int64 significantDigitCount).bind fun count => (int64 (count + shift)).map some
    else
      (sizeSubtract significantDigitCount places.toNat).bind fun count => (int64 count).map some

inductive RoundAnswer where
  | overflow (isNegative : Bool)
  | ok (magnitude : Nat) (isNegative : Bool)
  deriving DecidableEq, Repr

def roundUp (scan : DecimalScan) (significantDigitCount : Nat) (count : Int) : Bool :=
  let atLeastHalf (offset : Nat) :=
    match scanDigitAt offset false scan.mantissa with
    | none => false
    | some digit => decimalRoundHalfDigit ≤ digit
  if count = 0 then atLeastHalf 0
  else if 0 < count ∧ count.toNat < significantDigitCount then atLeastHalf count.toNat
  else false

/-- The end of `round_dml_integer_decimal_scan`, from the appended digits on. -/
def roundMagnitude (isNegative roundUp : Bool) : Option Nat → Option RoundAnswer
  | none => some (.overflow isNegative)
  | some magnitude =>
    (if roundUp then checkedUint64Increment magnitude else some (some magnitude)).map fun
      | none => .overflow isNegative
      | some rounded => .ok rounded (isNegative && rounded != 0)

def roundScan (scan : DecimalScan) : Option RoundAnswer :=
  if scan.leadingZeroCount = scan.digitCount then some (.ok 0 false)
  else
    (sizeSubtract scan.digitCount scan.leadingZeroCount).bind fun significantDigitCount =>
    (decimalShift scan).bind fun shift =>
    (integerDigitCount significantDigitCount shift).bind fun
    | none => some (.overflow scan.isNegative)
    | some count =>
      if uint64DecimalDigitCapacity < count then some (.overflow scan.isNegative)
      else
        (if 0 < count then appendScanDigits count.toNat false 0 scan.mantissa
          else some (some 0)).bind
        (roundMagnitude scan.isNegative (roundUp scan significantDigitCount count))

inductive ParseAnswer where
  | invalid
  | overflow (isNegative : Bool)
  | ok (magnitude : Nat) (isNegative : Bool)
  | truncated (magnitude : Nat) (isNegative : Bool)
  deriving DecidableEq, Repr

/-- `none` where a computation on the way leaves its type. -/
def parseDmlIntegerStringText (text : Text) : Option ParseAnswer :=
  match text.bytes.dropWhile asciiNumericWhitespace with
  | [] => some .invalid
  | byte :: rest =>
    (scanToken (byte :: rest)).bind fun
    | none => some .invalid
    | some scan =>
      (roundScan scan).map fun
      | .overflow isNegative => .overflow isNegative
      | .ok magnitude isNegative =>
        if suffixIsTruncated scan.suffix then .truncated magnitude isNegative
        else .ok magnitude isNegative

end MyLite.Numeric
