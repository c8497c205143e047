import MyLite.Sql.ParserFeed

/-! The digest text of a statement. Its loop runs over the lexer's own tokens, and a copied lexer
is the list of the tokens that are still to come. -/
namespace MyLite.Sql

/-- Why a statement has no digest; `parse` names the token of the message. -/
inductive DigestError where
  | misuse
  | parse (token : SqlToken)
  deriving DecidableEq, Repr

def bytesOf (word : List Char) : List UInt8 :=
  word.map ascii

/-- `token_is_ascii_keyword`, of a word in upper case. -/
def SqlToken.isAsciiKeyword (token : SqlToken) (word : List Char) : Bool :=
  token.kind = .keyword && token.text.map asciiUpper = bytesOf word

def SqlToken.isPunctuation (token : SqlToken) (punctuation : Char) : Bool :=
  token.kind = .punctuation && token.text = [ascii punctuation]

def inWord : List Char := ['I', 'N']
def isWord : List Char := ['I', 'S']
def notWord : List Char := ['N', 'O', 'T']
def nullWord : List Char := ['N', 'U', 'L', 'L']
def intWord : List Char := ['I', 'N', 'T']
def varcharWord : List Char := ['V', 'A', 'R', 'C', 'H', 'A', 'R']
def selectWord : List Char := ['S', 'E', 'L', 'E', 'C', 'T']
def integerText : List Char := ['I', 'N', 'T', 'E', 'G', 'E', 'R']
def varcharacterText : List Char :=
  ['V', 'A', 'R', 'C', 'H', 'A', 'R', 'A', 'C', 'T', 'E', 'R']
def placeholderText : List Char := ['?']
def listPlaceholderText : List Char := ['(', '.', '.', '.', ')']

/-! Output. -/

/-- `append_output_token_bytes`: a word after a space, unless it is the first. -/
def appendOutputTokenBytes (output text : List UInt8) : List UInt8 :=
  if output = [] then text else output ++ 0x20 :: text

def appendOutputToken (output : List UInt8) (text : List Char) : List UInt8 :=
  appendOutputTokenBytes output (bytesOf text)

/-- The name between quotes: a doubled quote stands for one. -/
def unquotedName (quote : UInt8) : List UInt8 → List UInt8
  | first :: second :: rest =>
    if first = quote ∧ second = quote then second :: unquotedName quote rest
    else first :: unquotedName quote (second :: rest)
  | rest => rest

def SqlToken.identifierName (token : SqlToken) : List UInt8 :=
  match token.kind, token.text with
  | .quotedIdentifier, quote :: second :: rest => unquotedName quote (second :: rest).dropLast
  | _, text => text

/-- A name in backticks, with its own backticks doubled. -/
def quoteIdentifier (name : List UInt8) : List UInt8 :=
  backtick :: name.flatMap (fun byte => if byte = backtick then [backtick, backtick] else [byte])
    ++ [backtick]

def appendQuotedIdentifierToken (output : List UInt8) (token : SqlToken) : List UInt8 :=
  appendOutputTokenBytes output (quoteIdentifier token.identifierName)

/-- The texts of `append_operator_token`. -/
def SqlOperatorKind.digestText : SqlOperatorKind → Option (List Char)
  | .jsonUnquoteExtract => some ['-', '>', '>']
  | .jsonExtract => some ['-', '>']
  | .nullSafeEqual => some ['<', '=', '>']
  | .leftShift => some ['<', '<']
  | .rightShift => some ['>', '>']
  | .lessEqual => some ['<', '=']
  | .greaterEqual => some ['>', '=']
  | .notEqual => some ['!', '=']
  | .logicalAnd => some ['A', 'N', 'D']
  | .logicalOr => some ['O', 'R']
  | .assign => some [':', '=']
  | .equal => some ['=']
  | .less => some ['<']
  | .greater => some ['>']
  | .plus => some ['+']
  | .minus => some ['-']
  | .star => some ['*']
  | .slash => some ['/']
  | .percent => some ['%']
  | .not => some ['!']
  | .bitwiseNot => some ['~']
  | .bitwiseXor => some ['^']
  | .bitwiseAnd => some ['&']
  | .bitwiseOr => some ['|']
  | .none => .none

def appendOperatorToken (output : List UInt8) (token : SqlToken) : List UInt8 :=
  match token.operatorKind.digestText with
  | some text => appendOutputToken output text
  | none => appendOutputTokenBytes output token.text

def appendKeywordToken (output : List UInt8) (token : SqlToken) : List UInt8 :=
  if token.isAsciiKeyword nullWord then appendOutputToken output placeholderText
  else if token.isAsciiKeyword intWord then appendOutputToken output integerText
  else if token.isAsciiKeyword varcharWord then appendOutputToken output varcharacterText
  else appendOutputTokenBytes output (token.text.map asciiUpper)

def appendNormalizedToken (output : List UInt8) (token : SqlToken) :
    Except DigestError (List UInt8) :=
  match token.kind with
  | .identifier | .quotedIdentifier => .ok (appendQuotedIdentifierToken output token)
  | .keyword => .ok (appendKeywordToken output token)
  | .string | .nationalString | .hexLiteral | .bitLiteral | .integer | .decimal | .float =>
    .ok (appendOutputToken output placeholderText)
  | .operator => .ok (appendOperatorToken output token)
  | .punctuation | .userVariable | .systemVariable | .temporalLiteralIntroducer =>
    .ok (appendOutputTokenBytes output token.text)
  | .charsetIntroducer | .comment | .versionComment | .hintComment | .eof => .ok output
  | .error | .parameter => .error .misuse

/-! Lists. -/

/-- The loop of `append_in_list_placeholder`: the tokens behind the parenthesis that closes. -/
def skipList : Nat → List SqlToken → Option (List SqlToken)
  | 0, tokens => some tokens
  | _ + 1, [] => none
  | depth + 1, token :: tokens =>
    if token.isPunctuation '(' then skipList (depth + 2) tokens
    else if token.isPunctuation ')' then skipList depth tokens
    else skipList (depth + 1) tokens

def startsSubquery (tokens : List SqlToken) : Bool :=
  tokens.head?.any (·.isAsciiKeyword selectWord)

/-- `append_in_list_placeholder`, with the tokens it leaves. -/
def appendInListPlaceholder (output : List UInt8) (tokens : List SqlToken) :
    Except DigestError (List UInt8 × List SqlToken) :=
  match tokens with
  | [] => .ok (output, [])
  | token :: rest =>
    if !token.isPunctuation '(' || startsSubquery rest then .ok (output, token :: rest)
    else
      match skipList 1 rest with
      | none => .error .misuse
      | some later => .ok (appendOutputToken output listPlaceholderText, later)

theorem skipList_length {depth : Nat} {tokens later : List SqlToken}
    (closed : skipList depth tokens = some later) : later.length ≤ tokens.length := by
  fun_induction skipList depth tokens with
  | case1 tokens =>
    cases closed
    exact Nat.le_refl _
  | case2 => cases closed
  | case3 depth token tokens _ ih => exact Nat.le_succ_of_le (ih closed)
  | case4 depth token tokens _ _ ih => exact Nat.le_succ_of_le (ih closed)
  | case5 depth token tokens _ _ ih => exact Nat.le_succ_of_le (ih closed)

theorem appendInListPlaceholder_length {output appended : List UInt8}
    {tokens later : List SqlToken}
    (result : appendInListPlaceholder output tokens = .ok (appended, later)) :
    later.length ≤ tokens.length := by
  unfold appendInListPlaceholder at result
  split at result
  · cases result
    exact Nat.le_refl _
  · split at result
    · cases result
      exact Nat.le_refl _
    · split at result
      · cases result
      · rename_i closed
        cases result
        exact Nat.le_succ_of_le (skipList_length closed)

/-- The loop of `normalize_statement_digest_sql`. -/
def normalizeTokens (output : List UInt8) (sawStatementTerminator previousTokenWasIs
    previousTokensWereIsNot : Bool) (tokens : List SqlToken) : Except DigestError (List UInt8) :=
  match tokens with
  | [] => .ok output
  | token :: rest =>
    if sawStatementTerminator then .error (.parse token)
    else if token.kind = .parameter then .error (.parse token)
    else if token.isAsciiKeyword inWord then
      match _list : appendInListPlaceholder (appendOutputToken output inWord) rest with
      | .error error => .error error
      | .ok (output, later) =>
        normalizeTokens output sawStatementTerminator previousTokenWasIs previousTokensWereIsNot
          later
    else
      let appended :=
        if token.isAsciiKeyword nullWord && (previousTokenWasIs || previousTokensWereIsNot) then
          .ok (appendOutputToken output nullWord)
        else appendNormalizedToken output token
      match appended with
      | .error error => .error error
      | .ok output =>
        normalizeTokens output (token.isPunctuation ';') (token.isAsciiKeyword isWord)
          (previousTokenWasIs && token.isAsciiKeyword notWord) rest
termination_by tokens.length
decreasing_by
  · exact Nat.lt_succ_of_le (appendInListPlaceholder_length _list)
  · exact Nat.lt_succ_self _

/-- `normalize_statement_digest_sql`: the text of a statement that the parser has accepted. -/
def normalizeStatementDigestSql (keywordLookup : List UInt8 → Option Keyword) (modes : SqlModes)
    (input : List UInt8) : Except DigestError (List UInt8) :=
  normalizeTokens [] false false false (significantTokens keywordLookup modes input)

end MyLite.Sql
