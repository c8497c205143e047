import MyLite.Library.Quoted
import MyLite.Sql.TokenSpelling

/-! The values of string literals, and that they are read as the lexer read them: the escapes a
decoder finds in a string token are those the lexer stepped over. -/
namespace MyLite.Sql

inductive LiteralKind where
  | none
  | integer
  | decimal
  | float
  | string
  | nationalString
  | hex
  | bit
  | true
  | false
  | null
  deriving DecidableEq, Repr

/-- A literal node without segments: one token. -/
structure LiteralSpan where
  kind : LiteralKind
  text : List UInt8
  deriving DecidableEq, Repr

inductive StringLiteralError where
  | parse
  | unsupported (message : String)
  | runtime (message : String)
  deriving DecidableEq, Repr

structure StringLiteralDecodeMessages where
  unsupported : String
  nul : String
  deriving DecidableEq, Repr

/-- The byte an escaped byte stands for; `%` and `_` keep their backslash. The cases are those
of `append_decoded_sql_string_escape` and `append_decoded_table_option_name_escape`. -/
def appendDecodedEscape (nulMessage : String) (allowNul : Bool) (escapedByte : UInt8) :
    Except StringLiteralError (List UInt8) :=
  if escapedByte = ascii '0' then
    if allowNul then .ok [0] else .error (.unsupported nulMessage)
  else if escapedByte = ascii 'n' then .ok [0x0a]
  else if escapedByte = ascii 'r' then .ok [0x0d]
  else if escapedByte = ascii 't' then .ok [0x09]
  else if escapedByte = ascii 'b' then .ok [0x08]
  else if escapedByte = ascii 'Z' then .ok [0x1a]
  else if escapedByte = ascii '%' ∨ escapedByte = ascii '_' then .ok [backslash, escapedByte]
  else .ok [escapedByte]

/-- The loop of the decoders over `text`, from `index` to the byte before the last. -/
def decodeQuotedBody (decodeEscape : UInt8 → Except StringLiteralError (List UInt8))
    (quote : UInt8) (allowBackslash : Bool) (text : List UInt8) (index : Nat)
    (string : List UInt8) : Except StringLiteralError (List UInt8) :=
  if index + 1 < text.length then
    let byte := text.getD index 0
    let next := text.getD (index + 1) 0
    if byte = quote ∧ index + 2 < text.length ∧ next = quote then
      decodeQuotedBody decodeEscape quote allowBackslash text (index + 2) (string ++ [quote])
    else if allowBackslash ∧ byte = backslash ∧ index + 2 < text.length then
      match decodeEscape next with
      | .ok bytes =>
        decodeQuotedBody decodeEscape quote allowBackslash text (index + 2) (string ++ bytes)
      | .error error => .error error
    else decodeQuotedBody decodeEscape quote allowBackslash text (index + 1) (string ++ [byte])
  else .ok string
termination_by text.length - index

/-- `append_decoded_sql_string_literal_span`: what it appends. -/
def appendDecodedSqlStringLiteralSpan (modes : SqlModes)
    (messages : StringLiteralDecodeMessages) (allowNul : Bool) (literal : LiteralSpan) :
    Except StringLiteralError (List UInt8) :=
  if literal.kind ≠ .string ∧ literal.kind ≠ .nationalString then
    .error (.unsupported messages.unsupported)
  else
    let quoteIndex := if literal.kind = .nationalString then 1 else 0
    if literal.text.length < quoteIndex + 2 then .error (.runtime "invalid string literal")
    else
      decodeQuotedBody (appendDecodedEscape messages.nul allowNul)
        (literal.text.getD quoteIndex 0) (!modes.noBackslashEscapes) literal.text
        (quoteIndex + 1) []

/-- `decode_table_option_string_literal`. -/
def decodeTableOptionStringLiteral (modes : SqlModes) (nulMessage : String)
    (literal : LiteralSpan) : Except StringLiteralError (List UInt8) :=
  if literal.kind ≠ .string then .error .parse
  else if literal.text.length < 2 then .error (.runtime "invalid table option name")
  else
    decodeQuotedBody (appendDecodedEscape nulMessage false) (literal.text.getD 0 0)
      (!modes.noBackslashEscapes) literal.text 1 []

/-! What the pieces of a quoted text stand for. -/

/-- The quoting of a string or a quoted name. -/
def sqlQuoting (quote : UInt8) (allowBackslash : Bool) : Quoted.Quoting UInt8 :=
  ⟨quote, if allowBackslash then some backslash else none⟩

def pieceValue (decodeEscape : UInt8 → Except StringLiteralError (List UInt8)) (quote : UInt8) :
    Quoted.Piece UInt8 → Except StringLiteralError (List UInt8)
  | .plain byte => .ok [byte]
  | .doubled => .ok [quote]
  | .escaped byte => decodeEscape byte

def piecesValue (decodeEscape : UInt8 → Except StringLiteralError (List UInt8)) (quote : UInt8) :
    List (Quoted.Piece UInt8) → Except StringLiteralError (List UInt8)
  | [] => .ok []
  | piece :: pieces => do
    let bytes ← pieceValue decodeEscape quote piece
    let rest ← piecesValue decodeEscape quote pieces
    return bytes ++ rest

theorem isQuote_ne_backslash {quote : UInt8} (quotes : isQuote quote = true) :
    quote ≠ backslash := by
  rintro rfl
  revert quotes
  decide

theorem isQuote_ne_zero {quote : UInt8} (quotes : isQuote quote = true) : quote ≠ 0 := by
  rintro rfl
  revert quotes
  decide

theorem sqlQuoting_escape {quote byte : UInt8} {allowBackslash : Bool} :
    (sqlQuoting quote allowBackslash).escape = some byte ↔
      allowBackslash = true ∧ byte = backslash := by
  cases allowBackslash
  · simp [sqlQuoting]
  · simp [sqlQuoting, eq_comm]

namespace SqlLexer

/-! The lexer's loop takes the pieces of the text in front of it. -/

theorem peekAt_head (lexer : SqlLexer) (lookahead : Nat) :
    lexer.peekAt lookahead = (lexer.input.drop (lexer.offset + lookahead)).head?.getD 0 := by
  rw [List.head?_drop, peekAt, List.getD_eq_getElem?_getD]

theorem ahead_at {lexer : SqlLexer} {lookahead : Nat}
    (inside : lexer.offset + lookahead < lexer.input.length) :
    lexer.input.drop (lexer.offset + lookahead) =
      lexer.peekAt lookahead :: lexer.input.drop (lexer.offset + lookahead + 1) := by
  rw [List.drop_eq_getElem_cons inside]
  simp [peekAt, inside]

theorem ahead_of_inside {lexer : SqlLexer} (inside : lexer.offset < lexer.input.length) :
    lexer.input.drop lexer.offset = lexer.peekAt 0 :: lexer.input.drop (lexer.offset + 1) :=
  @ahead_at lexer 0 inside

/-- The bytes in front of a lexer. -/
theorem ahead_cons {lexer : SqlLexer} {byte : UInt8} {rest : List UInt8}
    (ahead : lexer.input.drop lexer.offset = byte :: rest) :
    lexer.offset < lexer.input.length ∧ lexer.peekAt 0 = byte ∧
      lexer.input.drop (lexer.offset + 1) = rest := by
  obtain ⟨here, following, length⟩ := Cursor.drop_cons ahead
  refine ⟨by omega, ?_, following⟩
  rw [peekAt, Nat.add_zero, List.getD_eq_getElem?_getD, here]
  rfl

theorem advanceOne_eq {lexer : SqlLexer} (inside : lexer.offset < lexer.input.length) :
    lexer.advanceOne = { lexer with offset := lexer.offset + 1 } := by
  rw [advanceOne, if_neg (Nat.not_le.mpr inside)]

theorem advanceTwo_eq {lexer : SqlLexer} (inside : lexer.offset + 1 < lexer.input.length) :
    lexer.advanceTwo = { lexer with offset := lexer.offset + 2 } := by
  rw [advanceTwo, advanceOne_eq (Nat.lt_of_succ_lt inside)]
  exact @advanceOne_eq { lexer with offset := lexer.offset + 1 } inside

theorem peekAt_succ {lexer : SqlLexer} (inside : lexer.offset < lexer.input.length)
    (lookahead : Nat) : lexer.advanceOne.peekAt lookahead = lexer.peekAt (lookahead + 1) := by
  rw [advanceOne_eq inside, peekAt, peekAt, Nat.add_assoc, Nat.add_comm 1]

theorem second_ahead {lexer : SqlLexer} {byte : UInt8} {rest : List UInt8}
    (ahead : lexer.input.drop (lexer.offset + 1) = byte :: rest) :
    lexer.offset + 1 < lexer.input.length ∧ lexer.peekAt 1 = byte ∧
      lexer.input.drop (lexer.offset + 2) = rest :=
  @ahead_cons { lexer with offset := lexer.offset + 1 } byte rest ahead

/-- What the loop took when it met the closing quote. -/
theorem scanQuotedBody_scans {quote : UInt8} {allowBackslash : Bool} {lexer after : SqlLexer}
    (quotes : isQuote quote = true)
    (closed : scanQuotedBody quote allowBackslash lexer = (after, true)) :
    ∃ pieces, Quoted.Scans (sqlQuoting quote allowBackslash) (lexer.input.drop lexer.offset)
      pieces (lexer.input.drop after.offset) := by
  fun_induction scanQuotedBody quote allowBackslash lexer with
  | case1 lexer inside here doubled ih =>
    obtain ⟨pieces, scans⟩ := ih closed
    rw [peekAt_succ inside] at doubled
    have second : lexer.offset + 1 < lexer.input.length :=
      hasAt_of_peekAt (by rw [doubled]; exact isQuote_ne_zero quotes)
    rw [advanceTwo_eq second] at scans
    rw [ahead_of_inside inside, ahead_at second, here, doubled]
    exact ⟨_, scans.doubled⟩
  | case2 lexer inside here single =>
    cases closed
    rw [peekAt_succ inside] at single
    rw [ahead_of_inside inside, here, advanceOne_eq inside]
    refine ⟨[], .nil ?_⟩
    intro head
    rw [peekAt_head, head] at single
    exact single rfl
  | case3 lexer inside other escaped ih =>
    obtain ⟨pieces, scans⟩ := ih closed
    obtain ⟨here, allowed, second⟩ := escaped
    have second : lexer.offset + 1 < lexer.input.length := by simpa [hasAt] using second
    rw [advanceTwo_eq second] at scans
    rw [ahead_of_inside inside, ahead_at second, here]
    have apart := (isQuote_ne_backslash quotes).symm
    exact ⟨_, scans.escaped _ (sqlQuoting_escape.2 ⟨allowed, rfl⟩) apart⟩
  | case4 lexer inside other plain ih =>
    obtain ⟨pieces, scans⟩ := ih closed
    rw [advanceOne_eq inside] at scans
    rw [ahead_of_inside inside]
    refine ⟨.plain (lexer.peekAt 0) :: pieces, scans.plain other ?_⟩
    intro active
    obtain ⟨allowed, here⟩ := sqlQuoting_escape.1 active
    -- the closing quote is behind the backslash, so a byte is
    have second : lexer.offset + 1 < lexer.input.length := by
      by_contra outside
      have text := scans.text_eq
      rw [List.drop_eq_nil_of_le (Nat.le_of_not_lt outside)] at text
      simp at text
    exact plain ⟨here, allowed, decide_eq_true second⟩
  | case5 => cases closed

/-- The loop takes every piece in front of the closing quote. -/
theorem scanQuotedBody_of_scans {quote : UInt8} {allowBackslash : Bool} {lexer : SqlLexer}
    {pieces : List (Quoted.Piece UInt8)} {rest : List UInt8} (quotes : isQuote quote = true)
    (scans : Quoted.Scans (sqlQuoting quote allowBackslash) (lexer.input.drop lexer.offset)
      pieces rest) :
    scanQuotedBody quote allowBackslash lexer =
      ({ lexer with offset := lexer.offset +
          (Quoted.spell (sqlQuoting quote allowBackslash) pieces).length + 1 }, true) := by
  obtain ⟨ahead, valid, closed⟩ := scans
  induction pieces generalizing lexer with
  | nil =>
    obtain ⟨inside, here, following⟩ := ahead_cons ahead
    change lexer.peekAt 0 = quote at here
    have single : lexer.advanceOne.peekAt 0 ≠ quote := by
      rw [peekAt_succ inside, peekAt_head, following]
      intro same
      cases rest with
      | nil => exact isQuote_ne_zero quotes same.symm
      | cons byte rest => exact closed (congrArg some same)
    rw [scanQuotedBody, if_pos inside, if_pos here, if_neg single, advanceOne_eq inside]
    rfl
  | cons piece pieces ih =>
    obtain ⟨validPiece, validRest⟩ := List.forall_mem_cons.1 valid
    rw [Quoted.spell_cons, List.append_assoc] at ahead
    rw [Quoted.spell_cons, List.length_append]
    cases piece with
    | doubled =>
      obtain ⟨inside, here, following⟩ := ahead_cons ahead
      obtain ⟨second, doubled, behind⟩ := second_ahead following
      change lexer.peekAt 0 = quote at here
      change lexer.peekAt 1 = quote at doubled
      rw [← peekAt_succ inside] at doubled
      rw [scanQuotedBody, if_pos inside, if_pos here, if_pos doubled, advanceTwo_eq second,
        ih behind validRest]
      simp [Quoted.Piece.spelling]
      omega
    | escaped byte =>
      obtain ⟨escape, active, apart⟩ := validPiece
      obtain ⟨allowed, rfl⟩ := sqlQuoting_escape.1 active
      rw [Quoted.Piece.spelling, active] at ahead ⊢
      obtain ⟨inside, here, following⟩ := ahead_cons ahead
      obtain ⟨second, -, behind⟩ := second_ahead following
      have other : lexer.peekAt 0 ≠ quote := by rw [here]; exact apart
      rw [scanQuotedBody, if_pos inside, if_neg other,
        if_pos ⟨here, allowed, decide_eq_true second⟩, advanceTwo_eq second, ih behind validRest]
      simp
      omega
    | plain byte =>
      obtain ⟨apart, inactive⟩ := validPiece
      obtain ⟨inside, here, following⟩ := ahead_cons ahead
      have other : lexer.peekAt 0 ≠ quote := by rw [here]; exact apart
      have noEscape : ¬(lexer.peekAt 0 = backslash ∧ allowBackslash = true ∧
          lexer.hasAt 1 = true) := by
        rintro ⟨same, allowed, -⟩
        exact inactive (sqlQuoting_escape.2 ⟨allowed, here.symm.trans same⟩)
      rw [scanQuotedBody, if_pos inside, if_neg other, if_neg noEscape, advanceOne_eq inside,
        ih following validRest]
      simp [Quoted.Piece.spelling]
      omega

end SqlLexer

/-! The decoders take the pieces the lexer took. -/

section

variable {decodeEscape : UInt8 → Except StringLiteralError (List UInt8)} {quote : UInt8}
  {allowBackslash : Bool}

theorem piecesValue_cons (piece : Quoted.Piece UInt8) (pieces : List (Quoted.Piece UInt8))
    (string : List UInt8) :
    (piecesValue decodeEscape quote (piece :: pieces)).map (string ++ ·) =
      (pieceValue decodeEscape quote piece).bind fun bytes =>
        (piecesValue decodeEscape quote pieces).map (string ++ bytes ++ ·) := by
  rw [piecesValue]
  cases pieceValue decodeEscape quote piece with
  | error error => rfl
  | ok bytes =>
    cases piecesValue decodeEscape quote pieces with
    | error error => rfl
    | ok rest => simp [bind, pure, Except.bind, Except.pure, Except.map]

theorem piecesValue_cons_ok {piece : Quoted.Piece UInt8} {pieces : List (Quoted.Piece UInt8)}
    {value : List UInt8} :
    piecesValue decodeEscape quote (piece :: pieces) = .ok value ↔
      ∃ bytes rest, pieceValue decodeEscape quote piece = .ok bytes ∧
        piecesValue decodeEscape quote pieces = .ok rest ∧ value = bytes ++ rest := by
  rw [piecesValue]
  cases pieceValue decodeEscape quote piece with
  | error error => simp [bind, Except.bind]
  | ok bytes =>
    cases piecesValue decodeEscape quote pieces with
    | error error => simp [bind, Except.bind]
    | ok rest => simp [bind, pure, Except.bind, Except.pure, eq_comm]

/-- Pieces that stand for one byte each. -/
theorem piecesValue_map {spelled : UInt8 → Quoted.Piece UInt8} {value : List UInt8}
    (each : ∀ byte ∈ value, pieceValue decodeEscape quote (spelled byte) = .ok [byte]) :
    piecesValue decodeEscape quote (value.map spelled) = .ok value := by
  induction value with
  | nil => rfl
  | cons byte value ih =>
    obtain ⟨first, others⟩ := List.forall_mem_cons.1 each
    rw [List.map_cons, piecesValue_cons_ok]
    exact ⟨[byte], value, first, ih others, rfl⟩

theorem decodeQuotedBody_spell {text string : List UInt8} {index : Nat}
    {pieces : List (Quoted.Piece UInt8)} (quotes : isQuote quote = true)
    (valid : ∀ piece ∈ pieces, piece.Valid (sqlQuoting quote allowBackslash))
    (ahead : text.drop index = Quoted.spell (sqlQuoting quote allowBackslash) pieces ++ [quote]) :
    decodeQuotedBody decodeEscape quote allowBackslash text index string =
      (piecesValue decodeEscape quote pieces).map (string ++ ·) := by
  induction pieces generalizing index string with
  | nil =>
    obtain ⟨-, -, length⟩ := Cursor.drop_cons ahead
    rw [decodeQuotedBody, if_neg (by simp at length; omega)]
    simp [piecesValue, Except.map]
  | cons piece pieces ih =>
    obtain ⟨validPiece, validRest⟩ := List.forall_mem_cons.1 valid
    rw [Quoted.spell_cons, List.append_assoc] at ahead
    rw [piecesValue_cons]
    cases piece with
    | doubled =>
      obtain ⟨here, following, -⟩ := Cursor.drop_cons ahead
      obtain ⟨doubled, behind, length⟩ := Cursor.drop_cons following
      have room : index + 2 < text.length := by simp at length; omega
      change text[index]? = some quote at here
      change text[index + 1]? = some quote at doubled
      rw [decodeQuotedBody, if_pos (by omega)]
      simp only [here, doubled, room, and_self, ↓reduceIte, List.getD_eq_getElem?_getD,
        Option.getD_some, pieceValue]
      exact ih validRest behind
    | escaped byte =>
      obtain ⟨escape, active, apart⟩ := validPiece
      obtain ⟨rfl, rfl⟩ := sqlQuoting_escape.1 active
      rw [Quoted.Piece.spelling, active] at ahead
      obtain ⟨here, following, -⟩ := Cursor.drop_cons ahead
      obtain ⟨second, behind, length⟩ := Cursor.drop_cons following
      have room : index + 2 < text.length := by simp at length; omega
      rw [decodeQuotedBody, if_pos (by omega)]
      simp only [here, second, room, (isQuote_ne_backslash quotes).symm, false_and, ↓reduceIte,
        true_and, List.getD_eq_getElem?_getD, Option.getD_some, pieceValue]
      cases decodeEscape byte with
      | error error => rfl
      | ok bytes => exact ih validRest behind
    | plain byte =>
      obtain ⟨apart, inactive⟩ := validPiece
      obtain ⟨here, behind, length⟩ := Cursor.drop_cons ahead
      have apart : byte ≠ quote := apart
      have room : index + 1 < text.length := by simp at length; omega
      have noEscape : ¬(allowBackslash = true ∧ byte = backslash ∧ index + 2 < text.length) :=
        fun escape => inactive (sqlQuoting_escape.2 ⟨escape.1, escape.2.1⟩)
      rw [decodeQuotedBody, if_pos room]
      simp only [here, apart, noEscape, false_and, ↓reduceIte, List.getD_eq_getElem?_getD,
        Option.getD_some, pieceValue]
      exact ih validRest behind

end

/-! Tokens. -/

/-- A text that begins and ends with the quote, and what is between them. -/
def QuotedText (quote : UInt8) (allowBackslash : Bool) (text : List UInt8)
    (pieces : List (Quoted.Piece UInt8)) : Prop :=
  text = quote :: Quoted.spell (sqlQuoting quote allowBackslash) pieces ++ [quote] ∧
    ∀ piece ∈ pieces, piece.Valid (sqlQuoting quote allowBackslash)

/-- The letter in front of a national string. -/
def NationalLetter (letter : UInt8) : Prop := letter = ascii 'N' ∨ letter = ascii 'n'

/-- What the lexer guarantees of a token in quotes. -/
def SqlToken.InQuotes (escapes : Bool) (token : SqlToken) : Prop :=
  match token.kind with
  | .string => ∃ quote pieces, isQuote quote = true ∧ QuotedText quote escapes token.text pieces
  | .nationalString =>
    ∃ letter text pieces, NationalLetter letter ∧ token.text = letter :: text ∧
      QuotedText singleQuote escapes text pieces
  | .quotedIdentifier =>
    ∃ quote pieces, (quote = backtick ∨ quote = doubleQuote) ∧
      QuotedText quote false token.text pieces
  | _ => True

/-- The kinds of which nothing is to be shown. -/
def SqlTokenKind.isUnquoted (kind : SqlTokenKind) : Bool :=
  match kind with
  | .string | .nationalString | .quotedIdentifier => false
  | _ => true

theorem SqlToken.inQuotes_of_unquoted {escapes : Bool} {token : SqlToken}
    (unquoted : token.kind.isUnquoted = true) : token.InQuotes escapes := by
  unfold SqlToken.InQuotes
  unfold SqlTokenKind.isUnquoted at unquoted
  split <;> simp_all

namespace SqlLexer

/-- The text of a token that a quote opened and closed. -/
theorem quotedText_of_closed {quote : UInt8} {allowBackslash : Bool} {lexer after : SqlLexer}
    (quotes : isQuote quote = true) (inside : lexer.offset < lexer.input.length)
    (here : lexer.peekAt 0 = quote)
    (closed : scanQuotedBody quote allowBackslash lexer.advanceOne = (after, true)) :
    ∃ pieces, QuotedText quote allowBackslash
      (after.input.extract lexer.offset after.offset) pieces := by
  have continues := scanQuotedBody_continues quote allowBackslash lexer.advanceOne
  rw [closed] at continues
  obtain ⟨pieces, scans⟩ := scanQuotedBody_scans quotes closed
  have count : after.offset - lexer.advanceOne.offset =
      (Quoted.spell (sqlQuoting quote allowBackslash) pieces).length + 1 := by
    have total := congrArg List.length scans.text_eq
    have reached := continues.inside (by rw [advanceOne_eq inside]; exact inside)
    rw [List.length_drop, List.length_append, List.length_cons, List.length_drop] at total
    dsimp only at reached
    omega
  have input : after.input = lexer.input :=
    continues.input.trans (advanceOne_continues lexer).input
  refine ⟨pieces, ?_, scans.valid⟩
  rw [input, extract_advanceOne inside continues.forward, here, List.extract_eq_take_drop,
    scans.text_eq, count, List.take_length_add_append]
  rfl

theorem scanQuoted_inQuotes {escapes : Bool} {lexer : SqlLexer} (start : TokenStart)
    (quote : UInt8) (allowBackslash : Bool) {kind : SqlTokenKind} (unterminated : SqlLexerError)
    (closes : ∀ after, scanQuotedBody quote allowBackslash lexer.advanceOne = (after, true) →
      (after.setToken kind start).InQuotes escapes) :
    (lexer.scanQuoted start quote allowBackslash kind unterminated).1.InQuotes escapes := by
  unfold scanQuoted
  split
  · rename_i after closed
    exact closes after closed
  · exact SqlToken.inQuotes_of_unquoted rfl

/-! The scanners of the other tokens. -/

theorem scanComment_unquoted (lexer : SqlLexer) (hasLeadingSpace : Bool) :
    (lexer.scanComment hasLeadingSpace).1.kind.isUnquoted = true := by
  have block : lexer.blockCommentTokenKind.isUnquoted = true := by
    unfold blockCommentTokenKind
    split
    · rfl
    · split <;> rfl
  unfold scanComment
  dsimp only
  split
  · rfl
  · split
    · exact block
    · rfl

theorem scanQuotedHexOrBitLiteral_unquoted (lexer : SqlLexer) (start : TokenStart)
    {kind : SqlTokenKind} (hex : Bool) (unquoted : kind.isUnquoted = true) :
    (lexer.scanQuotedHexOrBitLiteral start kind hex).1.kind.isUnquoted = true := by
  unfold scanQuotedHexOrBitLiteral
  split
  · exact unquoted
  · rfl

theorem scanDigitLeadingToken_unquoted (lexer : SqlLexer) (hasLeadingSpace : Bool) :
    (lexer.scanDigitLeadingToken hasLeadingSpace).1.kind.isUnquoted = true := by
  have prefixed {kind : SqlTokenKind} (hex : Bool) (unquoted : kind.isUnquoted = true) :
      (lexer.scanPrefixedHexOrBitLiteral (lexer.makeTokenStart hasLeadingSpace) kind
        hex).1.kind.isUnquoted = true := by
    unfold scanPrefixedHexOrBitLiteral
    dsimp only
    split
    · rfl
    · exact unquoted
  unfold scanDigitLeadingToken
  dsimp only
  split
  · exact prefixed true rfl
  split
  · exact prefixed false rfl
  split
  · rfl
  · change SqlTokenKind.isUnquoted (if _ then _ else _) = true
    split
    · rfl
    · split <;> rfl

theorem scanDotOrNumber_unquoted (lexer : SqlLexer) (hasLeadingSpace : Bool) :
    (lexer.scanDotOrNumber hasLeadingSpace).1.kind.isUnquoted = true := by
  unfold scanDotOrNumber
  dsimp only
  split
  · rfl
  · split <;> rfl

theorem scanUnquotedIdentifier_unquoted (keywordLookup : List UInt8 → Option Keyword)
    (lexer : SqlLexer) (hasLeadingSpace : Bool) :
    (lexer.scanUnquotedIdentifier keywordLookup hasLeadingSpace).1.kind.isUnquoted = true := by
  unfold scanUnquotedIdentifier
  dsimp only
  split
  · rfl
  split
  · rfl
  split <;> rfl

theorem scanVariable_unquoted (lexer : SqlLexer) (hasLeadingSpace : Bool) :
    (lexer.scanVariable hasLeadingSpace).1.kind.isUnquoted = true := by
  unfold scanVariable
  dsimp only
  split
  · unfold scanSystemVariable
    dsimp only
    split
    · rfl
    · split <;> rfl
  split
  · unfold scanQuotedVariable scanQuoted
    dsimp only
    split <;> rfl
  split <;> rfl

theorem scanOperatorOrPunctuation_unquoted {lexer : SqlLexer} {hasLeadingSpace : Bool}
    {result : SqlToken × SqlLexer}
    (scanned : lexer.scanOperatorOrPunctuation hasLeadingSpace = some result) :
    result.1.kind.isUnquoted = true := by
  unfold scanOperatorOrPunctuation at scanned
  dsimp only at scanned
  split at scanned
  · cases scanned
    rfl
  · split at scanned
    · cases scanned
      rfl
    · cases scanned

theorem scanWord_inQuotes {keywordLookup : List UInt8 → Option Keyword} {lexer : SqlLexer}
    (hasLeadingSpace : Bool) (inside : lexer.offset < lexer.input.length) :
    (lexer.scanWord keywordLookup hasLeadingSpace).1.InQuotes
      (!lexer.modes.noBackslashEscapes) := by
  unfold scanWord
  dsimp only
  split
  · rename_i national
    rw [← peekAt_succ inside] at national
    have present : lexer.advanceOne.peekAt 0 ≠ 0 := by
      rw [national.2]
      decide
    have second : lexer.advanceOne.offset < lexer.advanceOne.input.length :=
      hasAt_of_peekAt present
    refine scanQuoted_inQuotes _ _ _ _ fun after closed => ?_
    obtain ⟨pieces, quoted⟩ := quotedText_of_closed (by decide) second national.2 closed
    have continues := (advanceOne_continues lexer.advanceOne).trans
      (scanQuotedBody_continues singleQuote (!lexer.modes.noBackslashEscapes) _)
    rw [closed] at continues
    refine ⟨lexer.peekAt 0, _, pieces, national.1, ?_, quoted⟩
    change after.input.extract lexer.offset after.offset = _
    rw [continues.input, (advanceOne_continues lexer).input,
      extract_advanceOne inside continues.forward, (advanceOne_continues lexer).input]
  split
  · exact SqlToken.inQuotes_of_unquoted (scanQuotedHexOrBitLiteral_unquoted _ _ _ rfl)
  split
  · exact SqlToken.inQuotes_of_unquoted (scanQuotedHexOrBitLiteral_unquoted _ _ _ rfl)
  · exact SqlToken.inQuotes_of_unquoted (scanUnquotedIdentifier_unquoted _ _ _)

theorem scanToken_inQuotes {keywordLookup : List UInt8 → Option Keyword} {lexer : SqlLexer}
    (hasLeadingSpace : Bool) (inside : lexer.offset < lexer.input.length) :
    (lexer.scanToken keywordLookup hasLeadingSpace).1.InQuotes
      (!lexer.modes.noBackslashEscapes) := by
  unfold scanToken
  dsimp only
  split
  · exact SqlToken.inQuotes_of_unquoted (scanComment_unquoted _ _)
  split
  · rename_i here
    refine scanQuoted_inQuotes _ _ _ _ fun after closed => ?_
    obtain ⟨pieces, quoted⟩ := quotedText_of_closed (by decide) inside here closed
    exact ⟨backtick, pieces, .inl rfl, quoted⟩
  split
  · rename_i quotes
    split
    · rename_i ansi
      refine scanQuoted_inQuotes _ _ _ _ fun after closed => ?_
      obtain ⟨pieces, quoted⟩ := quotedText_of_closed (by decide) inside ansi.1 closed
      exact ⟨doubleQuote, pieces, .inr rfl, quoted⟩
    · have quote : isQuote (lexer.peekAt 0) = true := by
        rcases quotes with here | here
        · rw [here]; rfl
        · rw [here]; rfl
      refine scanQuoted_inQuotes _ _ _ _ fun after closed => ?_
      obtain ⟨pieces, quoted⟩ := quotedText_of_closed quote inside rfl closed
      exact ⟨lexer.peekAt 0, pieces, quote, quoted⟩
  split
  · exact scanWord_inQuotes hasLeadingSpace inside
  split
  · exact SqlToken.inQuotes_of_unquoted (scanDigitLeadingToken_unquoted _ _)
  split
  · exact SqlToken.inQuotes_of_unquoted (scanDotOrNumber_unquoted _ _)
  split
  · exact SqlToken.inQuotes_of_unquoted (scanVariable_unquoted _ _)
  split
  · exact SqlToken.inQuotes_of_unquoted rfl
  split
  · rename_i scanned
    exact SqlToken.inQuotes_of_unquoted (scanOperatorOrPunctuation_unquoted scanned)
  · exact SqlToken.inQuotes_of_unquoted rfl

theorem next_inQuotes (keywordLookup : List UInt8 → Option Keyword) {lexer : SqlLexer}
    (inside : lexer.offset ≤ lexer.input.length) :
    (lexer.next keywordLookup).1.InQuotes (!lexer.modes.noBackslashEscapes) := by
  have after := consumeWhitespace_snd inside
  unfold next
  generalize lexer.consumeWhitespace = consumed at after
  obtain ⟨hasLeadingSpace, middle⟩ := consumed
  dsimp only at after
  subst after
  dsimp only
  split
  · exact SqlToken.inQuotes_of_unquoted rfl
  · rename_i notEnd
    exact scanToken_inQuotes hasLeadingSpace (Nat.lt_of_not_le notEnd)

theorem tokens_inQuotes (keywordLookup : List UInt8 → Option Keyword) {lexer : SqlLexer}
    (inside : lexer.offset ≤ lexer.input.length) :
    ∀ token ∈ lexer.tokens keywordLookup, token.InQuotes (!lexer.modes.noBackslashEscapes) := by
  induction bound : lexer.remaining using Nat.strongRecOn generalizing lexer with
  | ind _ ih =>
    intro token member
    rw [tokens] at member
    split at member
    · cases member
    · rename_i notEof
      rcases List.mem_cons.mp member with rfl | later
      · exact next_inQuotes keywordLookup inside
      · have continues := next_continues keywordLookup inside
        have less := next_remaining keywordLookup notEof
        rw [← continues.modes]
        refine ih _ ?_ ?_ rfl token later
        · omega
        · rw [continues.input]
          exact continues.inside inside

end SqlLexer

/-- What stands in front of the opening quote: nothing, or the letter of a national string. -/
def SqlTokenKind.IntroducedBy (kind : SqlTokenKind) (introducer : List UInt8) (quote : UInt8) :
    Prop :=
  (kind = .string ∧ introducer = []) ∨
    (kind = .nationalString ∧ quote = singleQuote ∧
      ∃ letter, NationalLetter letter ∧ introducer = [letter])

/-- The literal the grammar makes of a token. -/
def SqlToken.stringLiteral (token : SqlToken) : Option LiteralSpan :=
  match token.kind with
  | .string => some ⟨.string, token.text⟩
  | .nationalString => some ⟨.nationalString, token.text⟩
  | _ => none

theorem appendDecodedEscape_error {nulMessage : String} {allowNul : Bool} {byte : UInt8} :
    (∃ error, appendDecodedEscape nulMessage allowNul byte = .error error) ↔
      allowNul = false ∧ byte = ascii '0' := by
  unfold appendDecodedEscape
  split
  · rename_i zero
    cases allowNul <;> simp [zero]
  · rename_i other
    split_ifs <;> simp [other]

theorem piecesValue_error {nulMessage : String} {allowNul : Bool} {quote : UInt8}
    (pieces : List (Quoted.Piece UInt8)) :
    (∃ error, piecesValue (appendDecodedEscape nulMessage allowNul) quote pieces =
        .error error) ↔
      allowNul = false ∧ .escaped (ascii '0') ∈ pieces := by
  induction pieces with
  | nil => simp [piecesValue]
  | cons piece pieces ih =>
    have first : (∃ error, pieceValue (appendDecodedEscape nulMessage allowNul) quote piece =
        .error error) ↔ allowNul = false ∧ .escaped (ascii '0') = piece := by
      cases piece with
      | plain byte => simp [pieceValue]
      | doubled => simp [pieceValue]
      | escaped byte => simpa [pieceValue, eq_comm] using appendDecodedEscape_error
    rw [List.mem_cons, and_or_left, ← first, ← ih, piecesValue]
    cases pieceValue (appendDecodedEscape nulMessage allowNul) quote piece with
    | error error => simp [bind, Except.bind]
    | ok bytes =>
      cases piecesValue (appendDecodedEscape nulMessage allowNul) quote pieces <;>
        simp [bind, pure, Except.bind, Except.pure]

/-- The literal of a quoted text behind an introducer, decoded. -/
theorem appendDecodedSqlStringLiteralSpan_quoted {modes : SqlModes}
    (messages : StringLiteralDecodeMessages) (allowNul : Bool) (literal : LiteralSpan)
    (introducer : List UInt8) {quote : UInt8} {text : List UInt8}
    {pieces : List (Quoted.Piece UInt8)}
    (kind : (literal.kind = .string ∧ introducer.length = 0) ∨
      (literal.kind = .nationalString ∧ introducer.length = 1))
    (literalText : literal.text = introducer ++ text) (quotes : isQuote quote = true)
    (quoted : QuotedText quote (!modes.noBackslashEscapes) text pieces) :
    appendDecodedSqlStringLiteralSpan modes messages allowNul literal =
      piecesValue (appendDecodedEscape messages.nul allowNul) quote pieces := by
  obtain ⟨textEq, valid⟩ := quoted
  have quoteIndex : (if literal.kind = .nationalString then 1 else 0) = introducer.length := by
    rcases kind with ⟨kind, length⟩ | ⟨kind, length⟩
    · rw [kind, length]; rfl
    · rw [kind, length]; rfl
  have notOther : ¬(literal.kind ≠ .string ∧ literal.kind ≠ .nationalString) := by
    rcases kind with ⟨kind, -⟩ | ⟨kind, -⟩ <;> simp [kind]
  unfold appendDecodedSqlStringLiteralSpan
  rw [if_neg notOther]
  dsimp only
  rw [quoteIndex, literalText, textEq, if_neg (by simp)]
  have here : (introducer ++ (quote :: Quoted.spell (sqlQuoting quote
      (!modes.noBackslashEscapes)) pieces ++ [quote])).getD introducer.length 0 = quote := by
    simp
  rw [here, decodeQuotedBody_spell quotes valid (by simp)]
  cases piecesValue (appendDecodedEscape messages.nul allowNul) quote pieces <;>
    simp [Except.map]

/-- Every string token of every text is its opening quote, pieces and its closing quote, behind a
letter for a national string. The decoder reads it piece by piece as the lexer scanned it, and
refuses it only for an escaped NUL. -/
theorem stringTokens_decode (keywordLookup : List UInt8 → Option Keyword) (input : List UInt8)
    (modes : SqlModes) (messages : StringLiteralDecodeMessages) (allowNul : Bool) :
    ∀ token ∈ (SqlLexer.init input modes).tokens keywordLookup,
      ∀ literal, token.stringLiteral = some literal →
        ∃ introducer quote pieces, isQuote quote = true ∧
          token.kind.IntroducedBy introducer quote ∧
          token.text = introducer ++ quote ::
            Quoted.spell (sqlQuoting quote (!modes.noBackslashEscapes)) pieces ++ [quote] ∧
          (∀ piece ∈ pieces, piece.Valid (sqlQuoting quote (!modes.noBackslashEscapes))) ∧
          appendDecodedSqlStringLiteralSpan modes messages allowNul literal =
            piecesValue (appendDecodedEscape messages.nul allowNul) quote pieces ∧
          ((∃ error, appendDecodedSqlStringLiteralSpan modes messages allowNul literal =
              .error error) ↔ allowNul = false ∧ .escaped (ascii '0') ∈ pieces) := by
  intro token member literal made
  have inQuotes := SqlLexer.tokens_inQuotes keywordLookup (Nat.zero_le _) token member
  rw [SqlLexer.init] at inQuotes
  unfold SqlToken.InQuotes at inQuotes
  unfold SqlToken.stringLiteral at made
  split at made
  · rename_i kind
    cases made
    rw [kind] at inQuotes
    obtain ⟨quote, pieces, quotes, quoted⟩ := inQuotes
    have decoded := appendDecodedSqlStringLiteralSpan_quoted messages allowNul
      ⟨.string, token.text⟩ [] (.inl ⟨rfl, rfl⟩) rfl quotes quoted
    refine ⟨[], quote, pieces, quotes, .inl ⟨kind, rfl⟩, quoted.1, quoted.2, decoded, ?_⟩
    rw [decoded]
    exact piecesValue_error pieces
  · rename_i kind
    cases made
    rw [kind] at inQuotes
    obtain ⟨letter, text, pieces, national, tokenText, quoted⟩ := inQuotes
    have decoded := appendDecodedSqlStringLiteralSpan_quoted messages allowNul
      ⟨.nationalString, token.text⟩ [letter] (.inr ⟨rfl, rfl⟩) tokenText (by decide) quoted
    refine ⟨[letter], singleQuote, pieces, by decide,
      .inr ⟨kind, rfl, letter, national, rfl⟩, ?_, quoted.2, decoded, ?_⟩
    · rw [tokenText, quoted.1]
      rfl
    · rw [decoded]
      exact piecesValue_error pieces
  · cases made

theorem stringTokens_decode_doubled :
    ∃ introducer quote pieces, isQuote quote = true ∧
      SqlTokenKind.string.IntroducedBy introducer quote ∧
      [0x27, 0x61, 0x27, 0x27, 0x27] = introducer ++ quote ::
        Quoted.spell (sqlQuoting quote true) pieces ++ [quote] ∧
      (∀ piece ∈ pieces, piece.Valid (sqlQuoting quote true)) ∧
      appendDecodedSqlStringLiteralSpan ⟨false, false, false, false⟩ ⟨"", ""⟩ false
          ⟨.string, [0x27, 0x61, 0x27, 0x27, 0x27]⟩ =
        piecesValue (appendDecodedEscape "" false) quote pieces ∧
      ((∃ error, appendDecodedSqlStringLiteralSpan ⟨false, false, false, false⟩ ⟨"", ""⟩ false
          ⟨.string, [0x27, 0x61, 0x27, 0x27, 0x27]⟩ = .error error) ↔
        false = false ∧ .escaped (ascii '0') ∈ pieces) :=
  stringTokens_decode (fun _ => none) [0x20, 0x27, 0x61, 0x27, 0x27, 0x27]
    ⟨false, false, false, false⟩ ⟨"", ""⟩ false
    ⟨.string, .none, .none, true, none, [0x27, 0x61, 0x27, 0x27, 0x27], 5, 1, 6⟩
    (by decide +kernel) _ rfl

end MyLite.Sql
