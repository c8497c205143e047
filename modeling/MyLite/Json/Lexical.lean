import MyLite.Json.Value

/-! The scalars of `mylite_json_parse.c`: strings, numbers and literals. The parser's position is
the list of bytes still to read, and a failure records how many bytes are left at the position it
reports. -/
namespace MyLite.Json

inductive NormalizeStatus where
  | invalid
  | unsupported
  deriving DecidableEq, Repr

inductive ErrorDetail where
  | invalidValue
  | missingObjectMemberName
  deriving DecidableEq, Repr

/-- The result of a failed parse. -/
structure Failure where
  status : NormalizeStatus
  remaining : Nat
  detail : ErrorDetail
  exceededDepth : Bool
  deriving DecidableEq, Repr

def parserInvalidWithDetail (position : Bytes) (detail : ErrorDetail) : Failure :=
  ⟨.invalid, position.length, detail, false⟩

def parserInvalid (position : Bytes) : Failure :=
  parserInvalidWithDetail position .invalidValue

def parserUnsupported (position : Bytes) : Failure :=
  ⟨.unsupported, position.length, .invalidValue, false⟩

/-- What reading a piece of text gives: the piece and the bytes after it. -/
abbrev Reading (α : Type) := Except Failure (α × Bytes)

theorem map_ok {α β : Type} {result : Except Failure α} {f : α → β} {value : β}
    (mapped : result.map f = .ok value) : ∃ source, result = .ok source ∧ f source = value := by
  cases result with
  | error failure => cases mapped
  | ok source => exact ⟨source, rfl, Except.ok.inj mapped⟩

def isWhitespace (byte : UInt8) : Bool :=
  byte == 0x20 || byte == 0x09 || byte == 0x0a || byte == 0x0d

def skipWhitespace (input : Bytes) : Bytes :=
  input.dropWhile isWhitespace

/-- The bytes after `expected`, when the text starts with it. -/
def parserMatch (expected : UInt8) : Bytes → Option Bytes
  | [] => none
  | byte :: rest => if byte = expected then some rest else none

theorem parserMatch_eq_some {expected : UInt8} {input rest : Bytes} :
    parserMatch expected input = some rest ↔ input = expected :: rest := by
  cases input with
  | nil => simp [parserMatch]
  | cons byte tail =>
    simp only [parserMatch, List.cons.injEq]
    split <;> simp_all

theorem parserMatch_cons (expected : UInt8) (rest : Bytes) :
    parserMatch expected (expected :: rest) = some rest :=
  if_pos rfl

def isDecimalDigit (byte : UInt8) : Bool :=
  0x30 ≤ byte && byte ≤ 0x39

def jsonControlByteLimit : UInt8 := 0x20

def jsonAsciiByteLimit : Nat := 0x7f

/-! Strings. -/

def parseHexDigit (byte : UInt8) : Option Nat :=
  if 0x30 ≤ byte ∧ byte ≤ 0x39 then some (byte.toNat - 0x30)
  else if 0x61 ≤ byte ∧ byte ≤ 0x66 then some (byte.toNat - 0x61 + 10)
  else if 0x41 ≤ byte ∧ byte ≤ 0x46 then some (byte.toNat - 0x41 + 10)
  else none

/-- The digits of a `\u` escape. -/
def parseHexDigits : Nat → Nat → Bytes → Reading Nat
  | 0, codepoint, input => .ok (codepoint, input)
  | _ + 1, _, [] => .error (parserInvalid [])
  | count + 1, codepoint, byte :: rest =>
    match parseHexDigit byte with
    | some digit => parseHexDigits count (codepoint <<< 4 ||| digit) rest
    | none => .error (parserInvalid (byte :: rest))

/-- The byte an escape stands for. `escape` is the text from the backslash on and `input` the
text after it. -/
def parseStringEscape (escape input : Bytes) : Reading UInt8 :=
  match input with
  | [] => .error (parserInvalid escape)
  | escaped :: rest =>
    if escaped = 0x22 ∨ escaped = 0x5c ∨ escaped = 0x2f then .ok (escaped, rest)
    else if escaped = 0x62 then .ok (0x08, rest)
    else if escaped = 0x66 then .ok (0x0c, rest)
    else if escaped = 0x6e then .ok (0x0a, rest)
    else if escaped = 0x72 then .ok (0x0d, rest)
    else if escaped = 0x74 then .ok (0x09, rest)
    else if escaped = 0x75 then
      match parseHexDigits 4 0 rest with
      | .error failure => .error failure
      | .ok (codepoint, rest) =>
        if codepoint = 0 ∨ jsonAsciiByteLimit < codepoint then .error (parserUnsupported escape)
        else .ok (UInt8.ofNat codepoint, rest)
    else .error (parserInvalid (escaped :: rest))

theorem parseHexDigits_length {count codepoint : Nat} {input rest : Bytes} {value : Nat}
    (parsed : parseHexDigits count codepoint input = .ok (value, rest)) :
    rest.length ≤ input.length := by
  fun_induction parseHexDigits count codepoint input with
  | case1 codepoint input =>
    cases parsed
    exact Nat.le_refl _
  | case2 => cases parsed
  | case3 codepoint count byte input digit _ ih =>
    exact Nat.le_succ_of_le (ih parsed)
  | case4 => cases parsed

theorem parseStringEscape_length {escape input rest : Bytes} {byte : UInt8}
    (parsed : parseStringEscape escape input = .ok (byte, rest)) :
    rest.length < input.length := by
  cases input with
  | nil => cases parsed
  | cons escaped tail =>
    simp only [parseStringEscape] at parsed
    split at parsed
    all_goals try (cases parsed; exact Nat.lt_succ_self _)
    repeat' split at parsed
    all_goals try (cases parsed; exact Nat.lt_succ_self _)
    all_goals cases parsed
    exact Nat.lt_succ_of_le (parseHexDigits_length (by assumption))

/-- The bytes of a string from after its opening quote to its closing quote. -/
def parseStringBody : Bytes → Reading Bytes
  | [] => .error (parserInvalid [])
  | byte :: rest =>
    if byte = 0x22 then .ok ([], rest)
    else if byte = 0x5c then
      match _escaped : parseStringEscape (byte :: rest) rest with
      | .error failure => .error failure
      | .ok (char, after) =>
        match parseStringBody after with
        | .error failure => .error failure
        | .ok (text, after) => .ok (char :: text, after)
    else if byte = 0 then .error (parserUnsupported (byte :: rest))
    else if byte < jsonControlByteLimit then .error (parserInvalid (byte :: rest))
    else
      match parseStringBody rest with
      | .error failure => .error failure
      | .ok (text, after) => .ok (byte :: text, after)
termination_by input => input.length
decreasing_by
  · exact Nat.lt_succ_of_lt (parseStringEscape_length (by assumption))
  · exact Nat.lt_succ_self _

theorem parseStringBody_escape (rest : Bytes) :
    parseStringBody (0x5c :: rest) =
      match parseStringEscape (0x5c :: rest) rest with
      | .error failure => .error failure
      | .ok (char, after) =>
        (parseStringBody after).map fun (text, after) => (char :: text, after) := by
  rw [parseStringBody]
  simp only [if_neg (by decide : ¬(0x5c : UInt8) = 0x22), if_true]
  split
  · rename_i escaped
    rw [escaped]
  · rename_i char after escaped
    rw [escaped]
    dsimp only
    cases parseStringBody after <;> rfl

theorem parseStringBody_plain {byte : UInt8} (rest : Bytes) (unquoted : byte ≠ 0x22)
    (unescaped : byte ≠ 0x5c) (printable : jsonControlByteLimit ≤ byte) :
    parseStringBody (byte :: rest) =
      (parseStringBody rest).map fun (text, after) => (byte :: text, after) := by
  have nonzero : byte ≠ 0 := by
    rintro rfl
    exact absurd printable (by decide)
  rw [parseStringBody, if_neg unquoted, if_neg unescaped, if_neg nonzero,
    if_neg (UInt8.not_lt.2 printable)]
  cases parseStringBody rest <;> rfl

def parseString (input : Bytes) : Reading Bytes :=
  match parserMatch 0x22 input with
  | some rest => parseStringBody rest
  | none => .error (parserInvalid input)

theorem parseStringBody_length {input text rest : Bytes}
    (parsed : parseStringBody input = .ok (text, rest)) : rest.length < input.length := by
  fun_induction parseStringBody input generalizing text rest with
  | case1 => cases parsed
  | case2 =>
    cases parsed
    exact Nat.lt_succ_self _
  | case3 => cases parsed
  | case4 => cases parsed
  | case5 input char after _ _ body _ escaped ih =>
    cases parsed
    have escapeShorter := parseStringEscape_length escaped
    have bodyShorter := ih body
    simp only [List.length_cons]
    omega
  | case6 => cases parsed
  | case7 => cases parsed
  | case8 => cases parsed
  | case9 byte rest' _ _ _ _ text' after' body ih =>
    cases parsed
    exact Nat.lt_succ_of_lt (ih body)

theorem parseString_length {input text rest : Bytes}
    (parsed : parseString input = .ok (text, rest)) : rest.length < input.length := by
  simp only [parseString] at parsed
  split at parsed
  · rename_i body quote
    rw [parserMatch_eq_some.1 quote]
    exact Nat.lt_succ_of_lt (parseStringBody_length parsed)
  · cases parsed

/-! Numbers. The parts of a number are the bytes they take. -/

structure IntegerPart where
  isNegative : Bool
  digits : Bytes

def IntegerPart.text (part : IntegerPart) : Bytes :=
  (if part.isNegative then [0x2d] else []) ++ part.digits

/-- The digits after an optional sign; `start` is the text from the sign on. -/
def parseIntegerDigits (start : Bytes) (isNegative : Bool) (input : Bytes) :
    Reading IntegerPart :=
  match input with
  | [] => .error (parserInvalid start)
  | byte :: rest =>
    if byte = 0x30 then
      if (rest.head?).any isDecimalDigit then .error (parserInvalid rest)
      else .ok (⟨isNegative, [byte]⟩, rest)
    else if 0x31 ≤ byte ∧ byte ≤ 0x39 then
      .ok (⟨isNegative, byte :: rest.takeWhile isDecimalDigit⟩, rest.dropWhile isDecimalDigit)
    else .error (parserInvalid input)

def parseNumberIntegerPart (start : Bytes) : Reading IntegerPart :=
  match parserMatch 0x2d start with
  | some input => parseIntegerDigits start true input
  | none => parseIntegerDigits start false start

/-- One or more digits. -/
def parseDigits (input : Bytes) : Reading Bytes :=
  if (input.head?).any isDecimalDigit then
    .ok (input.takeWhile isDecimalDigit, input.dropWhile isDecimalDigit)
  else .error (parserInvalid input)

/-- The fraction, empty when there is none. -/
def parseNumberFractionPart (input : Bytes) : Reading Bytes :=
  match parserMatch 0x2e input with
  | some rest => (parseDigits rest).map fun (digits, rest) => (0x2e :: digits, rest)
  | none => .ok ([], input)

def isExponentMark (byte : UInt8) : Bool :=
  byte == 0x65 || byte == 0x45

def isSign (byte : UInt8) : Bool :=
  byte == 0x2b || byte == 0x2d

/-- The exponent, empty when there is none. -/
def parseNumberExponentPart (input : Bytes) : Reading Bytes :=
  match input with
  | [] => .ok ([], input)
  | mark :: rest =>
    if isExponentMark mark then
      let sign := (rest.take 1).filter isSign
      (parseDigits (rest.drop sign.length)).map fun (digits, rest) => (mark :: sign ++ digits, rest)
    else .ok ([], input)

def jsonSignedInt64DigitCount : Nat := 19

/-- The decimal spellings of `INT64_MAX` and of the magnitude of `INT64_MIN`. -/
def maximumDigits (isNegative : Bool) : Bytes :=
  [0x39, 0x32, 0x32, 0x33, 0x33, 0x37, 0x32, 0x30, 0x33, 0x36, 0x38, 0x35, 0x34, 0x37, 0x37, 0x35,
    0x38, 0x30, if isNegative then 0x38 else 0x37]

def integerNumberIsInSignedRange (digits : Bytes) (isNegative : Bool) : Bool :=
  if digits.length = 0 then false
  else if digits.length < jsonSignedInt64DigitCount then true
  else if jsonSignedInt64DigitCount < digits.length then false
  else (Lexicographic.sharedOrder digits (maximumDigits isNegative)).isLE

def parseIntegerNumber (start : Bytes) (part : IntegerPart) : Except Failure Value :=
  if !integerNumberIsInSignedRange part.digits part.isNegative then
    .error (parserUnsupported start)
  else if part.isNegative ∧ part.digits = [0x30] then .ok (.number .integer [0x30])
  else .ok (.number .integer part.text)

section Number

-- Whether `mylite_numeric_parse_double` takes the whole text and gives a finite value without a
-- range error.
variable (parsesDouble : Bytes → Bool)

def parseFloatingNumber (start text : Bytes) : Except Failure Value :=
  if parsesDouble text then .ok (.number .double text) else .error (parserUnsupported start)

def parseNumber (start : Bytes) : Reading Value :=
  match parseNumberIntegerPart start with
  | .error failure => .error failure
  | .ok (part, afterInteger) =>
    match parseNumberFractionPart afterInteger with
    | .error failure => .error failure
    | .ok (fraction, afterFraction) =>
      match parseNumberExponentPart afterFraction with
      | .error failure => .error failure
      | .ok (exponent, rest) =>
        if fraction ≠ [] ∨ exponent ≠ [] then
          (parseFloatingNumber parsesDouble start (part.text ++ fraction ++ exponent)).map (·, rest)
        else (parseIntegerNumber start part).map (·, rest)

end Number

/-! Literals. -/

def nullLiteral : Bytes := [0x6e, 0x75, 0x6c, 0x6c]

def trueLiteral : Bytes := [0x74, 0x72, 0x75, 0x65]

def falseLiteral : Bytes := [0x66, 0x61, 0x6c, 0x73, 0x65]

def parseLiteral (literal : Bytes) (value : Value) (input : Bytes) : Reading Value :=
  if literal.isPrefixOf input then .ok (value, input.drop literal.length)
  else .error (parserInvalid input)

/-! Every number takes the bytes of its parts off the front of the text. -/

theorem parseIntegerDigits_split {start input rest : Bytes} {isNegative : Bool}
    {part : IntegerPart} (parsed : parseIntegerDigits start isNegative input = .ok (part, rest)) :
    part.isNegative = isNegative ∧ part.digits ≠ [] ∧ input = part.digits ++ rest := by
  cases input with
  | nil => cases parsed
  | cons byte tail =>
    simp only [parseIntegerDigits] at parsed
    split at parsed
    · split at parsed
      · cases parsed
      · cases parsed
        exact ⟨rfl, by simp, rfl⟩
    · split at parsed
      · cases parsed
        exact ⟨rfl, by simp, by simp [List.takeWhile_append_dropWhile]⟩
      · cases parsed

theorem parseNumberIntegerPart_split {start rest : Bytes} {part : IntegerPart}
    (parsed : parseNumberIntegerPart start = .ok (part, rest)) :
    part.digits ≠ [] ∧ start = part.text ++ rest := by
  simp only [parseNumberIntegerPart] at parsed
  split at parsed
  · rename_i minus
    obtain ⟨sign, nonempty, split⟩ := parseIntegerDigits_split parsed
    exact ⟨nonempty, by simp [parserMatch_eq_some.1 minus, IntegerPart.text, sign, split]⟩
  · obtain ⟨sign, nonempty, split⟩ := parseIntegerDigits_split parsed
    exact ⟨nonempty, by simp only [IntegerPart.text, sign]; simpa using split⟩

theorem parseDigits_split {input digits rest : Bytes}
    (parsed : parseDigits input = .ok (digits, rest)) : input = digits ++ rest := by
  simp only [parseDigits] at parsed
  split at parsed
  · cases parsed
    exact List.takeWhile_append_dropWhile.symm
  · cases parsed

theorem parseNumberFractionPart_split {input fraction rest : Bytes}
    (parsed : parseNumberFractionPart input = .ok (fraction, rest)) :
    input = fraction ++ rest := by
  simp only [parseNumberFractionPart] at parsed
  split at parsed
  · rename_i point
    obtain ⟨⟨digits, after⟩, read, same⟩ := map_ok parsed
    cases same
    rw [parserMatch_eq_some.1 point, parseDigits_split read, List.cons_append]
  · cases parsed
    rfl

theorem filter_sign_take (rest : Bytes) :
    (rest.take 1).filter isSign ++ rest.drop ((rest.take 1).filter isSign).length = rest := by
  cases rest with
  | nil => rfl
  | cons byte tail => cases sign : isSign byte <;> simp [sign]

theorem parseNumberExponentPart_split {input exponent rest : Bytes}
    (parsed : parseNumberExponentPart input = .ok (exponent, rest)) :
    input = exponent ++ rest := by
  cases input with
  | nil =>
    cases parsed
    rfl
  | cons mark tail =>
    simp only [parseNumberExponentPart] at parsed
    split at parsed
    · obtain ⟨⟨digits, after⟩, read, same⟩ := map_ok parsed
      cases same
      simp only [List.cons_append, List.append_assoc]
      rw [← parseDigits_split read, filter_sign_take]
    · cases parsed
      rfl

theorem parseNumber_length {parsesDouble : Bytes → Bool} {start rest : Bytes} {value : Value}
    (parsed : parseNumber parsesDouble start = .ok (value, rest)) :
    rest.length < start.length := by
  simp only [parseNumber] at parsed
  split at parsed
  · cases parsed
  · rename_i part afterInteger integer
    split at parsed
    · cases parsed
    · rename_i fraction afterFraction fractionPart
      split at parsed
      · cases parsed
      · rename_i exponent afterExponent exponentPart
        have same : rest = afterExponent := by
          split at parsed
          all_goals
            obtain ⟨number, _, same⟩ := map_ok parsed
            cases same
            rfl
        obtain ⟨nonempty, integerSplit⟩ := parseNumberIntegerPart_split integer
        have digits := List.length_pos_of_ne_nil nonempty
        rw [same, integerSplit, parseNumberFractionPart_split fractionPart,
          parseNumberExponentPart_split exponentPart, IntegerPart.text]
        simp only [List.length_append]
        omega

end MyLite.Json
