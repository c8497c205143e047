import MyLite.Library.Scanning

/-! The tokens of `mylite_lexer.c`. A lexer keeps its whole input and the offset it has reached;
the bytes past the end read as zero. -/
namespace MyLite.Sql

structure SqlModes where
  ansiQuotes : Bool
  noBackslashEscapes : Bool
  ignoreSpace : Bool
  pipesAsConcat : Bool
  deriving DecidableEq, Repr

inductive SqlTokenKind where
  | eof
  | error
  | comment
  | versionComment
  | hintComment
  | identifier
  | quotedIdentifier
  | keyword
  | string
  | nationalString
  | hexLiteral
  | bitLiteral
  | integer
  | decimal
  | float
  | userVariable
  | systemVariable
  | parameter
  | operator
  | punctuation
  | charsetIntroducer
  | temporalLiteralIntroducer
  deriving DecidableEq, Repr

inductive SqlOperatorKind where
  | none
  | jsonUnquoteExtract
  | jsonExtract
  | nullSafeEqual
  | leftShift
  | rightShift
  | lessEqual
  | greaterEqual
  | notEqual
  | logicalAnd
  | logicalOr
  | assign
  | equal
  | less
  | greater
  | plus
  | minus
  | star
  | slash
  | percent
  | not
  | bitwiseNot
  | bitwiseXor
  | bitwiseAnd
  | bitwiseOr
  deriving DecidableEq, Repr

inductive SqlLexerError where
  | none
  | unexpectedByte
  | unterminatedString
  | unterminatedIdentifier
  | unterminatedComment
  | invalidHexLiteral
  | invalidBitLiteral
  | invalidVariable
  deriving DecidableEq, Repr

/-- `struct mylite_sql_keyword_lookup_result` of a word that is found. -/
structure Keyword where
  flags : Nat
  keywordIndex : Nat
  deriving DecidableEq, Repr

structure SqlToken where
  kind : SqlTokenKind
  operatorKind : SqlOperatorKind
  error : SqlLexerError
  hasLeadingSpace : Bool
  keyword : Option Keyword
  text : List UInt8
  length : Nat
  offset : Nat
  sourceLength : Nat
  deriving DecidableEq, Repr

structure SqlLexer where
  input : List UInt8
  offset : Nat
  modes : SqlModes
  deriving DecidableEq, Repr

structure TokenStart where
  offset : Nat
  hasLeadingSpace : Bool

/-! Bytes. -/

def ascii (letter : Char) : UInt8 := UInt8.ofNat letter.toNat

def singleQuote : UInt8 := 0x27
def doubleQuote : UInt8 := 0x22
def backtick : UInt8 := 0x60
def backslash : UInt8 := 0x5c

def isMysqlCommentSpace (byte : UInt8) : Bool :=
  byte ≤ 0x20

def isSpace (byte : UInt8) : Bool :=
  byte = 0x20 || byte = 0x09 || byte = 0x0a || byte = 0x0d || byte = 0x0c || byte = 0x0b

def isDigit (byte : UInt8) : Bool :=
  ascii '0' ≤ byte && byte ≤ ascii '9'

def isHexDigit (byte : UInt8) : Bool :=
  isDigit byte || (ascii 'A' ≤ byte && byte ≤ ascii 'F') ||
    (ascii 'a' ≤ byte && byte ≤ ascii 'f')

def isBitDigit (byte : UInt8) : Bool :=
  byte = ascii '0' || byte = ascii '1'

def isLetter (byte : UInt8) : Bool :=
  (ascii 'A' ≤ byte && byte ≤ ascii 'Z') || (ascii 'a' ≤ byte && byte ≤ ascii 'z')

def isIdentifierStart (byte : UInt8) : Bool :=
  isLetter byte || byte = ascii '_' || byte = ascii '$' || 0x80 ≤ byte

def isIdentifierPart (byte : UInt8) : Bool :=
  isIdentifierStart byte || isDigit byte

def isUserVariablePart (byte : UInt8) : Bool :=
  isDigit byte || isLetter byte || byte = ascii '.' || byte = ascii '_' || byte = ascii '$'

def isPunctuation (byte : UInt8) : Bool :=
  byte = ascii '(' || byte = ascii ')' || byte = ascii ',' || byte = ascii ';' ||
    byte = ascii '.' || byte = 0x7b || byte = 0x7d || byte = ascii '[' || byte = ascii ']' ||
    byte = ascii ':'

def isExponentMarker (byte : UInt8) : Bool :=
  byte = ascii 'e' || byte = ascii 'E'

def isSign (byte : UInt8) : Bool :=
  byte = ascii '+' || byte = ascii '-'

def isBinaryLiteralDigit (byte : UInt8) (hex : Bool) : Bool :=
  if hex then isHexDigit byte else isBitDigit byte

def binaryLiteralError (hex : Bool) : SqlLexerError :=
  if hex then .invalidHexLiteral else .invalidBitLiteral

def asciiUpper (byte : UInt8) : UInt8 :=
  if ascii 'a' ≤ byte ∧ byte ≤ ascii 'z' then byte - 0x20 else byte

/-! Moving the lexer. -/

namespace SqlLexer

def peekAt (lexer : SqlLexer) (lookahead : Nat) : UInt8 :=
  lexer.input.getD (lexer.offset + lookahead) 0

def hasAt (lexer : SqlLexer) (lookahead : Nat) : Bool :=
  lexer.offset + lookahead < lexer.input.length

def advanceOne (lexer : SqlLexer) : SqlLexer :=
  if lexer.offset ≥ lexer.input.length then lexer
  else { lexer with offset := lexer.offset + 1 }

def advanceTwo (lexer : SqlLexer) : SqlLexer :=
  lexer.advanceOne.advanceOne

def advanceToOffsetNoNewline (lexer : SqlLexer) (offset : Nat) : SqlLexer :=
  { lexer with offset := offset }

/-- The bytes a loop over the input has still in front of it. -/
def remaining (lexer : SqlLexer) : Nat :=
  lexer.input.length - lexer.offset

theorem advanceOne_remaining_le (lexer : SqlLexer) :
    lexer.advanceOne.remaining ≤ lexer.remaining := by
  unfold advanceOne remaining
  split
  · exact Nat.le_refl _
  · dsimp only
    omega

theorem advanceOne_remaining {lexer : SqlLexer} (inside : lexer.offset < lexer.input.length) :
    lexer.advanceOne.remaining < lexer.remaining := by
  unfold advanceOne remaining
  rw [if_neg (Nat.not_le.mpr inside)]
  dsimp only
  omega

theorem advanceTwo_remaining {lexer : SqlLexer} (inside : lexer.offset < lexer.input.length) :
    lexer.advanceTwo.remaining < lexer.remaining :=
  Nat.lt_of_le_of_lt (advanceOne_remaining_le _) (advanceOne_remaining inside)

def makeTokenStart (lexer : SqlLexer) (hasLeadingSpace : Bool) : TokenStart :=
  ⟨lexer.offset, hasLeadingSpace⟩

def setToken (lexer : SqlLexer) (kind : SqlTokenKind) (start : TokenStart) : SqlToken where
  kind := kind
  operatorKind := .none
  error := .none
  hasLeadingSpace := start.hasLeadingSpace
  keyword := none
  text := lexer.input.extract start.offset lexer.offset
  length := lexer.offset - start.offset
  offset := start.offset
  sourceLength := lexer.input.length

def setErrorToken (lexer : SqlLexer) (error : SqlLexerError) (start : TokenStart) : SqlToken :=
  { lexer.setToken .error start with error := error }

/-- Whether whitespace was consumed, and the lexer after it. -/
def consumeWhitespace (lexer : SqlLexer) : Bool × SqlLexer :=
  if lexer.offset ≥ lexer.input.length then (false, lexer)
  else
    let cursor := Cursor.skipWhile isSpace lexer.input lexer.offset
    if cursor = lexer.offset then (false, lexer)
    else (true, { lexer with offset := cursor })

/-! Comments. -/

def startsComment (lexer : SqlLexer) : Bool :=
  let first := lexer.peekAt 0
  let second := lexer.peekAt 1
  let third := lexer.peekAt 2
  first = ascii '#' ||
    (first = ascii '-' && second = ascii '-' && lexer.hasAt 2 && isMysqlCommentSpace third) ||
    (first = ascii '/' && second = ascii '*')

def startsLineComment (lexer : SqlLexer) : Bool :=
  lexer.peekAt 0 = ascii '#' || (lexer.peekAt 0 = ascii '-' && lexer.peekAt 1 = ascii '-')

def startsBlockComment (lexer : SqlLexer) : Bool :=
  lexer.peekAt 0 = ascii '/' && lexer.peekAt 1 = ascii '*'

def endsBlockComment (lexer : SqlLexer) : Bool :=
  lexer.peekAt 0 = ascii '*' && lexer.peekAt 1 = ascii '/'

def scanLineCommentBody (lexer : SqlLexer) : SqlLexer :=
  if lexer.offset < lexer.input.length then
    if lexer.peekAt 0 = 0x0a ∨ lexer.peekAt 0 = 0x0d then lexer
    else lexer.advanceOne.scanLineCommentBody
  else lexer
termination_by lexer.remaining
decreasing_by exact advanceOne_remaining (by assumption)

def blockCommentTokenKind (lexer : SqlLexer) : SqlTokenKind :=
  if lexer.peekAt 2 = ascii '!' then .versionComment
  else if lexer.peekAt 2 = ascii '+' then .hintComment
  else .comment

/-- The loop of `scan_inner_block_comment_body`. -/
def scanInnerBlockCommentRest (lexer : SqlLexer) : SqlLexer :=
  if lexer.offset < lexer.input.length then
    if lexer.endsBlockComment then lexer.advanceTwo
    else lexer.advanceOne.scanInnerBlockCommentRest
  else lexer
termination_by lexer.remaining
decreasing_by exact advanceOne_remaining (by assumption)

def scanInnerBlockCommentBody (lexer : SqlLexer) : SqlLexer :=
  lexer.advanceTwo.scanInnerBlockCommentRest

theorem scanInnerBlockCommentRest_remaining (lexer : SqlLexer) :
    lexer.scanInnerBlockCommentRest.remaining ≤ lexer.remaining := by
  fun_induction scanInnerBlockCommentRest lexer with
  | case1 lexer inside => exact Nat.le_of_lt (advanceTwo_remaining inside)
  | case2 lexer inside _ ih => exact Nat.le_trans ih (Nat.le_of_lt (advanceOne_remaining inside))
  | case3 => exact Nat.le_refl _

theorem scanInnerBlockCommentBody_remaining {lexer : SqlLexer}
    (inside : lexer.offset < lexer.input.length) :
    lexer.scanInnerBlockCommentBody.remaining < lexer.remaining :=
  Nat.lt_of_le_of_lt (scanInnerBlockCommentRest_remaining _) (advanceTwo_remaining inside)

/-- The lexer after the body, and whether the comment was terminated. -/
def scanBlockCommentBody (kind : SqlTokenKind) (lexer : SqlLexer) : SqlLexer × Bool :=
  if lexer.offset < lexer.input.length then
    if kind = .versionComment ∧ lexer.startsBlockComment then
      scanBlockCommentBody kind lexer.scanInnerBlockCommentBody
    else if lexer.endsBlockComment then (lexer.advanceTwo, true)
    else scanBlockCommentBody kind lexer.advanceOne
  else (lexer, false)
termination_by lexer.remaining
decreasing_by
  · exact scanInnerBlockCommentBody_remaining (by assumption)
  · exact advanceOne_remaining (by assumption)

def scanComment (lexer : SqlLexer) (hasLeadingSpace : Bool) : SqlToken × SqlLexer :=
  let start := lexer.makeTokenStart hasLeadingSpace
  if lexer.startsLineComment then
    let after := lexer.scanLineCommentBody
    (after.setToken .comment start, after)
  else
    let kind := lexer.blockCommentTokenKind
    match scanBlockCommentBody kind lexer.advanceTwo with
    | (after, true) => (after.setToken kind start, after)
    | (after, false) => (after.setErrorToken .unterminatedComment start, after)

/-! Quoted text. -/

/-- The loop over quoted text, and whether the quote was closed. A doubled quote stands for
itself. -/
def scanQuotedBody (quote : UInt8) (allowBackslash : Bool) (lexer : SqlLexer) :
    SqlLexer × Bool :=
  if lexer.offset < lexer.input.length then
    if lexer.peekAt 0 = quote then
      if lexer.advanceOne.peekAt 0 = quote then
        scanQuotedBody quote allowBackslash lexer.advanceTwo
      else (lexer.advanceOne, true)
    else if lexer.peekAt 0 = backslash ∧ allowBackslash ∧ lexer.hasAt 1 then
      scanQuotedBody quote allowBackslash lexer.advanceTwo
    else scanQuotedBody quote allowBackslash lexer.advanceOne
  else (lexer, false)
termination_by lexer.remaining
decreasing_by
  · exact advanceTwo_remaining (by assumption)
  · exact advanceTwo_remaining (by assumption)
  · exact advanceOne_remaining (by assumption)

def scanQuoted (lexer : SqlLexer) (start : TokenStart) (quote : UInt8) (allowBackslash : Bool)
    (kind : SqlTokenKind) (unterminated : SqlLexerError) : SqlToken × SqlLexer :=
  match scanQuotedBody quote allowBackslash lexer.advanceOne with
  | (after, true) => (after.setToken kind start, after)
  | (after, false) => (after.setErrorToken unterminated start, after)

def scanQuotedString (lexer : SqlLexer) (start : TokenStart) (kind : SqlTokenKind)
    (quote : UInt8) (allowBackslash : Bool) : SqlToken × SqlLexer :=
  lexer.scanQuoted start quote allowBackslash kind .unterminatedString

def scanQuotedIdentifier (lexer : SqlLexer) (start : TokenStart) (quote : UInt8) :
    SqlToken × SqlLexer :=
  lexer.scanQuoted start quote false .quotedIdentifier .unterminatedIdentifier

def scanQuotedVariable (lexer : SqlLexer) (start : TokenStart) (quote : UInt8) :
    SqlToken × SqlLexer :=
  let allowBackslash := quote ≠ backtick && !lexer.modes.noBackslashEscapes
  lexer.scanQuoted start quote allowBackslash .userVariable .invalidVariable

def scanQuotedSystemVariableComponent (lexer : SqlLexer) : SqlLexer × Bool :=
  scanQuotedBody backtick false lexer.advanceOne

theorem scanQuotedBody_remaining (quote : UInt8) (allowBackslash : Bool) (lexer : SqlLexer) :
    (scanQuotedBody quote allowBackslash lexer).1.remaining ≤ lexer.remaining := by
  fun_induction scanQuotedBody quote allowBackslash lexer with
  | case1 lexer inside _ _ ih => exact Nat.le_trans ih (Nat.le_of_lt (advanceTwo_remaining inside))
  | case2 lexer inside => exact Nat.le_of_lt (advanceOne_remaining inside)
  | case3 lexer inside _ _ ih => exact Nat.le_trans ih (Nat.le_of_lt (advanceTwo_remaining inside))
  | case4 lexer inside _ _ ih => exact Nat.le_trans ih (Nat.le_of_lt (advanceOne_remaining inside))
  | case5 => exact Nat.le_refl _

theorem scanQuotedSystemVariableComponent_remaining {lexer after : SqlLexer} {closed : Bool}
    (inside : lexer.offset < lexer.input.length)
    (component : lexer.scanQuotedSystemVariableComponent = (after, closed)) :
    after.remaining < lexer.remaining := by
  have body := scanQuotedBody_remaining backtick false lexer.advanceOne
  rw [scanQuotedSystemVariableComponent] at component
  rw [component] at body
  exact Nat.lt_of_le_of_lt body (advanceOne_remaining inside)

/-! Literals in quotes and numbers. -/

/-- The loop of `scan_quoted_hex_or_bit_literal`: the lexer after it, and whether the literal
is closed and valid. -/
def scanQuotedBinaryBody (hex : Bool) (lexer : SqlLexer) (digits : Nat) (valid : Bool) :
    SqlLexer × Bool :=
  if lexer.offset < lexer.input.length then
    if lexer.peekAt 0 = singleQuote then
      (lexer.advanceOne, valid && (!hex || digits % 2 = 0))
    else
      scanQuotedBinaryBody hex lexer.advanceOne (digits + 1)
        (valid && isBinaryLiteralDigit (lexer.peekAt 0) hex)
  else (lexer, false)
termination_by lexer.remaining
decreasing_by exact advanceOne_remaining (by assumption)

def scanQuotedHexOrBitLiteral (lexer : SqlLexer) (start : TokenStart) (kind : SqlTokenKind)
    (hex : Bool) : SqlToken × SqlLexer :=
  match scanQuotedBinaryBody hex lexer.advanceOne 0 true with
  | (after, true) => (after.setToken kind start, after)
  | (after, false) => (after.setErrorToken (binaryLiteralError hex) start, after)

def skipDigits (input : List UInt8) (cursor : Nat) : Nat :=
  Cursor.skipWhile isDigit input cursor

def skipIdentifierParts (input : List UInt8) (cursor : Nat) : Nat :=
  Cursor.skipWhile isIdentifierPart input cursor

def skipUserVariableParts (input : List UInt8) (cursor : Nat) : Nat :=
  Cursor.skipWhile isUserVariablePart input cursor

/-- Whether the byte at the cursor is there and passes. -/
def byteIs (input : List UInt8) (cursor : Nat) (test : UInt8 → Bool) : Bool :=
  input[cursor]?.any test

/-- The cursor after an exponent, or `none`. -/
def scanExponentSpan (input : List UInt8) (cursor : Nat) : Option Nat :=
  if !byteIs input cursor isExponentMarker then none
  else
    let exponent := if byteIs input (cursor + 1) isSign then cursor + 2 else cursor + 1
    if byteIs input exponent isDigit then some (skipDigits input (exponent + 1)) else none

def scanDigitLeadingIdentifier (lexer : SqlLexer) (hasLeadingSpace : Bool) :
    SqlToken × SqlLexer :=
  let start := lexer.makeTokenStart hasLeadingSpace
  let after := lexer.advanceToOffsetNoNewline (skipIdentifierParts lexer.input lexer.offset)
  (after.setToken .identifier start, after)

def scanPrefixedHexOrBitLiteral (lexer : SqlLexer) (start : TokenStart) (kind : SqlTokenKind)
    (hex : Bool) : SqlToken × SqlLexer :=
  let cursor := Cursor.skipWhile (isBinaryLiteralDigit · hex) lexer.input (lexer.offset + 2)
  if byteIs lexer.input cursor isIdentifierPart then
    lexer.scanDigitLeadingIdentifier start.hasLeadingSpace
  else
    let after := lexer.advanceToOffsetNoNewline cursor
    (after.setToken kind start, after)

/-- The cursor after the digits, the fraction and the exponent, and whether the last two were
seen; `none` when the digits begin an identifier. -/
def scanNumberSpan (input : List UInt8) (offset : Nat) : Option (Nat × Bool × Bool) :=
  let cursor := skipDigits input offset
  if byteIs input cursor isExponentMarker then
    (scanExponentSpan input cursor).map fun cursor => (cursor, false, true)
  else
    let sawDot := byteIs input cursor (· = ascii '.')
    let cursor := if sawDot then skipDigits input (cursor + 1) else cursor
    match scanExponentSpan input cursor with
    | some cursor => some (cursor, sawDot, true)
    | none =>
      if !sawDot && byteIs input cursor isIdentifierPart then none
      else some (cursor, sawDot, false)

def scanDigitLeadingToken (lexer : SqlLexer) (hasLeadingSpace : Bool) : SqlToken × SqlLexer :=
  let start := lexer.makeTokenStart hasLeadingSpace
  let cursor := lexer.offset
  let zero := byteIs lexer.input cursor (· = ascii '0')
  if zero && byteIs lexer.input (cursor + 1) (· = ascii 'x') &&
      byteIs lexer.input (cursor + 2) isHexDigit then
    lexer.scanPrefixedHexOrBitLiteral start .hexLiteral true
  else if zero && byteIs lexer.input (cursor + 1) (· = ascii 'b') &&
      byteIs lexer.input (cursor + 2) isBitDigit then
    lexer.scanPrefixedHexOrBitLiteral start .bitLiteral false
  else
    match scanNumberSpan lexer.input cursor with
    | none => lexer.scanDigitLeadingIdentifier hasLeadingSpace
    | some (cursor, sawDot, sawExponent) =>
      let after := lexer.advanceToOffsetNoNewline cursor
      let kind := if sawExponent then .float else if sawDot then .decimal else .integer
      (after.setToken kind start, after)

def scanDotOrNumber (lexer : SqlLexer) (hasLeadingSpace : Bool) : SqlToken × SqlLexer :=
  let start := lexer.makeTokenStart hasLeadingSpace
  if !isDigit (lexer.peekAt 1) then
    (lexer.advanceOne.setToken .punctuation start, lexer.advanceOne)
  else
    let cursor := skipDigits lexer.input (lexer.offset + 1)
    match scanExponentSpan lexer.input cursor with
    | some cursor =>
      let after := lexer.advanceToOffsetNoNewline cursor
      (after.setToken .float start, after)
    | none =>
      let after := lexer.advanceToOffsetNoNewline cursor
      (after.setToken .decimal start, after)

/-! Words. -/

def startsLiteralAfterCharsetIntroducer (lexer : SqlLexer) (cursor : Nat) : Bool :=
  let first := lexer.input.getD cursor 0
  let second := lexer.input.getD (cursor + 1) 0
  cursor < lexer.input.length &&
    (first = singleQuote || first = doubleQuote ||
      ((first = ascii 'X' || first = ascii 'x' || first = ascii 'B' || first = ascii 'b') &&
        second = singleQuote) ||
      (first = ascii '0' &&
        (second = ascii 'X' || second = ascii 'x' || second = ascii 'B' || second = ascii 'b')))

def identifierSpanIsCharsetIntroducer (lexer : SqlLexer) (start stop : Nat) : Bool :=
  byteIs lexer.input start (· = ascii '_') && 2 ≤ stop - start &&
    lexer.startsLiteralAfterCharsetIntroducer (Cursor.skipWhile isSpace lexer.input stop)

def identifierSpanEqualsKeyword (lexer : SqlLexer) (start stop : Nat) (keyword : List Char) :
    Bool :=
  (lexer.input.extract start stop).map asciiUpper = keyword.map ascii

def identifierSpanIsTemporalLiteralIntroducer (lexer : SqlLexer) (start stop : Nat) : Bool :=
  let cursor := Cursor.skipWhile isSpace lexer.input stop
  (lexer.identifierSpanEqualsKeyword start stop ['D', 'A', 'T', 'E'] ||
      lexer.identifierSpanEqualsKeyword start stop ['T', 'I', 'M', 'E'] ||
      lexer.identifierSpanEqualsKeyword start stop
        ['T', 'I', 'M', 'E', 'S', 'T', 'A', 'M', 'P']) &&
    byteIs lexer.input cursor fun byte =>
      byte = singleQuote || (byte = doubleQuote && !lexer.modes.ansiQuotes)

/-- The kind of an identifier span and its keyword; `keywordLookup` stands for
`mylite_sql_keyword_lookup`. -/
def scanUnquotedIdentifier (keywordLookup : List UInt8 → Option Keyword) (lexer : SqlLexer)
    (hasLeadingSpace : Bool) : SqlToken × SqlLexer :=
  let start := lexer.makeTokenStart hasLeadingSpace
  let stop := skipIdentifierParts lexer.input lexer.offset
  let after := lexer.advanceToOffsetNoNewline stop
  if after.identifierSpanIsCharsetIntroducer start.offset stop then
    (after.setToken .charsetIntroducer start, after)
  else if after.identifierSpanIsTemporalLiteralIntroducer start.offset stop then
    (after.setToken .temporalLiteralIntroducer start, after)
  else
    match keywordLookup (lexer.input.extract start.offset stop) with
    | some keyword => ({ after.setToken .keyword start with keyword := some keyword }, after)
    | none => (after.setToken .identifier start, after)

def scanWord (keywordLookup : List UInt8 → Option Keyword) (lexer : SqlLexer)
    (hasLeadingSpace : Bool) : SqlToken × SqlLexer :=
  let byte := lexer.peekAt 0
  let next := lexer.peekAt 1
  let start := lexer.makeTokenStart hasLeadingSpace
  if (byte = ascii 'N' ∨ byte = ascii 'n') ∧ next = singleQuote then
    lexer.advanceOne.scanQuotedString start .nationalString singleQuote
      (!lexer.modes.noBackslashEscapes)
  else if (byte = ascii 'X' ∨ byte = ascii 'x') ∧ next = singleQuote then
    lexer.advanceOne.scanQuotedHexOrBitLiteral start .hexLiteral true
  else if (byte = ascii 'B' ∨ byte = ascii 'b') ∧ next = singleQuote then
    lexer.advanceOne.scanQuotedHexOrBitLiteral start .bitLiteral false
  else lexer.scanUnquotedIdentifier keywordLookup hasLeadingSpace

/-! Variables. -/

/-- The loop of `scan_system_variable`, and whether its components were closed. -/
def scanSystemVariableBody (lexer : SqlLexer) : SqlLexer × Bool :=
  if lexer.offset < lexer.input.length then
    if isIdentifierPart (lexer.peekAt 0) ∨ lexer.peekAt 0 = ascii '.' then
      lexer.advanceOne.scanSystemVariableBody
    else if lexer.peekAt 0 = backtick then
      match _component : lexer.scanQuotedSystemVariableComponent with
      | (after, true) => after.scanSystemVariableBody
      | (after, false) => (after, false)
    else (lexer, true)
  else (lexer, true)
termination_by lexer.remaining
decreasing_by
  · exact advanceOne_remaining (by assumption)
  · exact scanQuotedSystemVariableComponent_remaining (by assumption) _component

def scanSystemVariable (lexer : SqlLexer) (start : TokenStart) : SqlToken × SqlLexer :=
  let byte := lexer.peekAt 0
  if ¬isIdentifierPart byte ∧ byte ≠ ascii '.' ∧ byte ≠ backtick then
    (lexer.setErrorToken .invalidVariable start, lexer)
  else
    match lexer.scanSystemVariableBody with
    | (after, true) => (after.setToken .systemVariable start, after)
    | (after, false) => (after.setErrorToken .invalidVariable start, after)

def scanVariable (lexer : SqlLexer) (hasLeadingSpace : Bool) : SqlToken × SqlLexer :=
  let start := lexer.makeTokenStart hasLeadingSpace
  let name := lexer.advanceOne
  let byte := name.peekAt 0
  if byte = ascii '@' then name.advanceOne.scanSystemVariable start
  else if byte = singleQuote ∨ byte = doubleQuote ∨ byte = backtick then
    name.scanQuotedVariable start byte
  else if ¬isUserVariablePart byte then (name.setToken .userVariable start, name)
  else
    let after := name.advanceToOffsetNoNewline (skipUserVariableParts name.input name.offset)
    (after.setToken .userVariable start, after)

end SqlLexer

/-! Operators. -/

def classifyMinusOperator (second third : UInt8) : SqlOperatorKind × Nat :=
  if second ≠ ascii '>' then (.minus, 1)
  else if third = ascii '>' then (.jsonUnquoteExtract, 3)
  else (.jsonExtract, 2)

def classifyLessOperator (second third : UInt8) : SqlOperatorKind × Nat :=
  if second = ascii '=' ∧ third = ascii '>' then (.nullSafeEqual, 3)
  else if second = ascii '<' then (.leftShift, 2)
  else if second = ascii '=' then (.lessEqual, 2)
  else if second = ascii '>' then (.notEqual, 2)
  else (.less, 1)

def classifyGreaterOperator (second : UInt8) : SqlOperatorKind × Nat :=
  if second = ascii '>' then (.rightShift, 2)
  else if second = ascii '=' then (.greaterEqual, 2)
  else (.greater, 1)

def classifyBangOperator (second : UInt8) : SqlOperatorKind × Nat :=
  if second = ascii '=' then (.notEqual, 2) else (.not, 1)

def classifyAmpersandOperator (second : UInt8) : SqlOperatorKind × Nat :=
  if second = ascii '&' then (.logicalAnd, 2) else (.bitwiseAnd, 1)

def classifyPipeOperator (second : UInt8) : SqlOperatorKind × Nat :=
  if second = ascii '|' then (.logicalOr, 2) else (.bitwiseOr, 1)

def classifyColonOperator (second : UInt8) : SqlOperatorKind × Nat :=
  if second = ascii '=' then (.assign, 2) else (.none, 0)

/-- The operator at three bytes and its length. -/
def classifyOperator (first second third : UInt8) : SqlOperatorKind × Nat :=
  if first = ascii '-' then classifyMinusOperator second third
  else if first = ascii '<' then classifyLessOperator second third
  else if first = ascii '>' then classifyGreaterOperator second
  else if first = ascii '!' then classifyBangOperator second
  else if first = ascii '&' then classifyAmpersandOperator second
  else if first = ascii '|' then classifyPipeOperator second
  else if first = ascii ':' then classifyColonOperator second
  else if first = ascii '=' then (.equal, 1)
  else if first = ascii '+' then (.plus, 1)
  else if first = ascii '*' then (.star, 1)
  else if first = ascii '/' then (.slash, 1)
  else if first = ascii '%' then (.percent, 1)
  else if first = ascii '~' then (.bitwiseNot, 1)
  else if first = ascii '^' then (.bitwiseXor, 1)
  else (.none, 0)

namespace SqlLexer

def scanOperatorOrPunctuation (lexer : SqlLexer) (hasLeadingSpace : Bool) :
    Option (SqlToken × SqlLexer) :=
  let start := lexer.makeTokenStart hasLeadingSpace
  let operatorMatch := classifyOperator (lexer.peekAt 0) (lexer.peekAt 1) (lexer.peekAt 2)
  if operatorMatch.1 ≠ .none then
    let after := lexer.advanceToOffsetNoNewline (lexer.offset + operatorMatch.2)
    some ({ after.setToken .operator start with operatorKind := operatorMatch.1 }, after)
  else if isPunctuation (lexer.peekAt 0) then
    let after := lexer.advanceToOffsetNoNewline (lexer.offset + 1)
    some (after.setToken .punctuation start, after)
  else none

/-- The token at a byte that is no whitespace. -/
def scanToken (keywordLookup : List UInt8 → Option Keyword) (lexer : SqlLexer)
    (hasLeadingSpace : Bool) : SqlToken × SqlLexer :=
  let byte := lexer.peekAt 0
  let start := lexer.makeTokenStart hasLeadingSpace
  if lexer.startsComment then lexer.scanComment hasLeadingSpace
  else if byte = backtick then lexer.scanQuotedIdentifier start backtick
  else if byte = singleQuote ∨ byte = doubleQuote then
    if byte = doubleQuote ∧ lexer.modes.ansiQuotes then
      lexer.scanQuotedIdentifier start doubleQuote
    else lexer.scanQuotedString start .string byte (!lexer.modes.noBackslashEscapes)
  else if isIdentifierStart byte then lexer.scanWord keywordLookup hasLeadingSpace
  else if isDigit byte then lexer.scanDigitLeadingToken hasLeadingSpace
  else if byte = ascii '.' then lexer.scanDotOrNumber hasLeadingSpace
  else if byte = ascii '@' then lexer.scanVariable hasLeadingSpace
  else if byte = ascii '?' then (lexer.advanceOne.setToken .parameter start, lexer.advanceOne)
  else
    match lexer.scanOperatorOrPunctuation hasLeadingSpace with
    | some scanned => scanned
    | none => (lexer.advanceOne.setErrorToken .unexpectedByte start, lexer.advanceOne)

/-- `mylite_sql_lexer_next`. -/
def next (keywordLookup : List UInt8 → Option Keyword) (lexer : SqlLexer) :
    SqlToken × SqlLexer :=
  let (hasLeadingSpace, lexer) := lexer.consumeWhitespace
  if lexer.offset ≥ lexer.input.length then
    (lexer.setToken .eof (lexer.makeTokenStart hasLeadingSpace), lexer)
  else lexer.scanToken keywordLookup hasLeadingSpace

/-- `mylite_sql_lexer_init`. -/
def init (input : List UInt8) (modes : SqlModes) : SqlLexer :=
  ⟨input, 0, modes⟩

end SqlLexer

end MyLite.Sql
