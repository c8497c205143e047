import MyLite.Sql.StringLiteral

/-! The texts that quote a value or a name, QUOTE and those of SHOW CREATE, and whether the lexer
and the decoders read the value back from them. -/
namespace MyLite.Sql

/-! QUOTE. -/

/-- `append_quoted_byte`. -/
def appendQuotedByte (byte : UInt8) : List UInt8 :=
  if byte = 0 then [backslash, ascii '0']
  else if byte = 0x1a then [backslash, ascii 'Z']
  else if byte = backslash then [backslash, backslash]
  else if byte = singleQuote then [backslash, singleQuote]
  else [byte]

/-- `mylite_string_quote_sql_value`. -/
def stringQuoteSqlValue : Option (List UInt8) → List UInt8
  | none => [ascii 'N', ascii 'U', ascii 'L', ascii 'L']
  | some text => singleQuote :: text.flatMap appendQuotedByte ++ [singleQuote]

/-! SHOW CREATE. -/

/-- The byte of a default in `append_mysql_quoted_text`. -/
def mysqlQuotedByte (byte : UInt8) : List UInt8 :=
  if byte = singleQuote then [singleQuote, singleQuote]
  else if byte = backslash then [backslash, backslash]
  else if byte = 0x0a then [backslash, ascii 'n']
  else if byte = 0x0d then [backslash, ascii 'r']
  else if byte = 0x09 then [backslash, ascii 't']
  else [byte]

/-- `append_mysql_quoted_text`; the C string `text` has no NUL. -/
def mysqlQuotedText (text : List UInt8) : List UInt8 :=
  singleQuote :: text.flatMap mysqlQuotedByte ++ [singleQuote]

/-- A byte of a default in `append_mysql_quoted_binary_default_text`. -/
def mysqlQuotedBinaryByte (byte : UInt8) : List UInt8 :=
  if byte = 0 then [backslash, ascii '0'] else mysqlQuotedByte byte

/-- `append_mysql_quoted_binary_default_text`. -/
def mysqlQuotedBinaryDefaultText (text : List UInt8) : List UInt8 :=
  singleQuote :: text.flatMap mysqlQuotedBinaryByte ++ [singleQuote]

/-! Reading back. -/

/-- The lexer takes `text`, between two other texts, as one token. -/
def LexedAs (keywordLookup : List UInt8 → Option Keyword) (modes : SqlModes)
    (before text rest : List UInt8) (token : SqlToken) : Prop :=
  SqlLexer.next keywordLookup ⟨before ++ text ++ rest, before.length, modes⟩ =
    (token, ⟨before ++ text ++ rest, before.length + text.length, modes⟩)

/-- The text is one string token whose literal is decoded to the value. -/
def ReadsBack (keywordLookup : List UInt8 → Option Keyword) (modes : SqlModes)
    (decode : LiteralSpan → Except StringLiteralError (List UInt8))
    (before text rest value : List UInt8) : Prop :=
  ∃ token literal, LexedAs keywordLookup modes before text rest token ∧
    token.stringLiteral = some literal ∧ decode literal = .ok value

variable {keywordLookup : List UInt8 → Option Keyword} {modes : SqlModes}
  {before text rest : List UInt8}

/-- A byte that begins neither whitespace nor a comment. -/
def StartsToken (byte : UInt8) : Prop :=
  isSpace byte = false ∧ byte ≠ ascii '#' ∧ byte ≠ ascii '-' ∧ byte ≠ ascii '/'

theorem quote_startsToken {quote : UInt8} (quotes : isQuote quote = true) :
    StartsToken quote := by
  unfold isQuote at quotes
  simp only [Bool.or_eq_true, decide_eq_true_eq] at quotes
  rcases quotes with (rfl | rfl) | rfl <;> exact ⟨by decide, by decide, by decide, by decide⟩

namespace SqlLexer

/-- A lexer in front of such a byte takes a token there. -/
theorem next_of_starts {lexer : SqlLexer} {byte : UInt8} {behind : List UInt8}
    (starts : StartsToken byte) (ahead : lexer.input.drop lexer.offset = byte :: behind) :
    lexer.next keywordLookup = lexer.scanToken keywordLookup false ∧
      lexer.startsComment = false := by
  obtain ⟨inside, here, -⟩ := ahead_cons ahead
  obtain ⟨notSpace, first⟩ := starts
  have still : Cursor.skipWhile isSpace lexer.input lexer.offset = lexer.offset := by
    rw [Cursor.skipWhile, ahead, List.takeWhile_cons_of_neg (by simp [notSpace])]
    rfl
  constructor
  · rw [next, consumeWhitespace, if_neg (Nat.not_le.mpr inside)]
    dsimp only
    rw [if_pos still]
    exact if_neg (Nat.not_le.mpr inside)
  · simp [startsComment, here, first]

end SqlLexer

theorem lexedAs_quoted {quote : UInt8} {allowBackslash : Bool} {kind : SqlTokenKind}
    {pieces : List (Quoted.Piece UInt8)} (unterminated : SqlLexerError)
    (quotes : isQuote quote = true) (quoted : QuotedText quote allowBackslash text pieces)
    (closed : rest.head? ≠ some quote)
    (scans : ∀ lexer : SqlLexer, lexer.modes = modes → lexer.peekAt 0 = quote →
      lexer.startsComment = false →
      lexer.scanToken keywordLookup false =
        lexer.scanQuoted (lexer.makeTokenStart false) quote allowBackslash kind unterminated) :
    ∃ token, LexedAs keywordLookup modes before text rest token ∧ token.kind = kind ∧
      token.text = text := by
  obtain ⟨textEq, valid⟩ := quoted
  have ahead : (before ++ text ++ rest).drop before.length =
      quote :: (Quoted.spell (sqlQuoting quote allowBackslash) pieces ++ quote :: rest) := by
    simp [textEq]
  let lexer : SqlLexer := ⟨before ++ text ++ rest, before.length, modes⟩
  obtain ⟨inside, here, behind⟩ := @SqlLexer.ahead_cons lexer _ _ ahead
  obtain ⟨called, notComment⟩ :=
    @SqlLexer.next_of_starts keywordLookup lexer _ _ (quote_startsToken quotes) ahead
  have ready : Quoted.Scans (sqlQuoting quote allowBackslash)
      (lexer.advanceOne.input.drop lexer.advanceOne.offset) pieces rest := by
    rw [SqlLexer.advanceOne_eq inside]
    exact ⟨behind, valid, closed⟩
  have body := SqlLexer.scanQuotedBody_of_scans quotes ready
  have reached : before.length + 1 +
      (Quoted.spell (sqlQuoting quote allowBackslash) pieces).length + 1 =
        before.length + text.length := by
    simp [textEq]
    omega
  rw [SqlLexer.advanceOne_eq inside] at body
  have whole := scans lexer rfl here notComment
  rw [SqlLexer.scanQuoted, SqlLexer.advanceOne_eq inside, body] at whole
  change _ = (_, (⟨before ++ text ++ rest, before.length + 1 +
    (Quoted.spell (sqlQuoting quote allowBackslash) pieces).length + 1, modes⟩ : SqlLexer)) at whole
  rw [reached] at whole
  refine ⟨_, called.trans whole, rfl, ?_⟩
  change (before ++ text ++ rest).extract before.length (before.length + text.length) = text
  rw [List.extract_eq_take_drop]
  simp

theorem scanToken_singleQuote {lexer : SqlLexer} (here : lexer.peekAt 0 = singleQuote)
    (notComment : lexer.startsComment = false) :
    lexer.scanToken keywordLookup false =
      lexer.scanQuoted (lexer.makeTokenStart false) singleQuote
        (!lexer.modes.noBackslashEscapes) .string .unterminatedString := by
  have notBacktick : singleQuote ≠ backtick := by decide
  unfold SqlLexer.scanToken
  simp only [notComment, here, notBacktick, ↓reduceIte, true_or, Bool.false_eq_true]
  rfl

/-- A text in single quotes is a string token. -/
theorem lexedAs_string {pieces : List (Quoted.Piece UInt8)}
    (quoted : QuotedText singleQuote (!modes.noBackslashEscapes) text pieces)
    (closed : rest.head? ≠ some singleQuote) :
    ∃ token, LexedAs keywordLookup modes before text rest token ∧ token.kind = .string ∧
      token.text = text := by
  refine lexedAs_quoted .unterminatedString (by decide) quoted closed
    fun lexer same here notComment => ?_
  rw [← same]
  exact scanToken_singleQuote here notComment

/-- A string token that begins with a single quote is a text in single quotes. -/
theorem quotedText_of_lexedAs {body : List UInt8} {token : SqlToken}
    (lexed : LexedAs keywordLookup modes before (singleQuote :: body) rest token)
    (kind : token.kind ≠ .error) :
    token.kind = .string ∧ token.text = singleQuote :: body ∧
      ∃ pieces, QuotedText singleQuote (!modes.noBackslashEscapes) token.text pieces := by
  let lexer : SqlLexer := ⟨before ++ singleQuote :: body ++ rest, before.length, modes⟩
  have ahead : lexer.input.drop lexer.offset = singleQuote :: (body ++ rest) := by
    simp [lexer]
  obtain ⟨inside, here, -⟩ := SqlLexer.ahead_cons ahead
  obtain ⟨called, notComment⟩ :=
    @SqlLexer.next_of_starts keywordLookup lexer _ _ (quote_startsToken (by decide)) ahead
  have taken := (called.symm.trans lexed)
  rw [scanToken_singleQuote here notComment, SqlLexer.scanQuoted] at taken
  split at taken
  · rename_i after closed
    obtain ⟨made, reached⟩ := Prod.mk.inj taken
    obtain ⟨pieces, quoted⟩ := SqlLexer.quotedText_of_closed (by decide) inside here closed
    subst made
    refine ⟨rfl, ?_, pieces, quoted⟩
    change after.input.extract before.length after.offset = _
    rw [reached, List.extract_eq_take_drop]
    simp
  · rename_i after unclosed
    obtain ⟨made, -⟩ := Prod.mk.inj taken
    exact absurd (congrArg SqlToken.kind made).symm kind

/-- A name in backticks, or in double quotes where they quote names. -/
theorem lexedAs_quotedIdentifier {quote : UInt8} {pieces : List (Quoted.Piece UInt8)}
    (quotes : quote = backtick ∨ (quote = doubleQuote ∧ modes.ansiQuotes = true))
    (quoted : QuotedText quote false text pieces) (closed : rest.head? ≠ some quote) :
    ∃ token, LexedAs keywordLookup modes before text rest token ∧
      token.kind = .quotedIdentifier ∧ token.text = text := by
  have isQuote : isQuote quote = true := by
    rcases quotes with rfl | ⟨rfl, -⟩ <;> decide
  refine lexedAs_quoted .unterminatedIdentifier isQuote quoted closed
    fun lexer same here notComment => ?_
  unfold SqlLexer.scanToken
  rcases quotes with rfl | ⟨rfl, ansi⟩
  · simp only [notComment, here, ↓reduceIte, Bool.false_eq_true]
    rfl
  · have notBacktick : doubleQuote ≠ backtick := by decide
    simp only [notComment, here, notBacktick, same, ansi, ↓reduceIte, or_true, and_self,
      Bool.false_eq_true]
    rfl

/-! What is read back from a text in single quotes is the value of its pieces. -/

/-- A decoder of string literals gives them the value of their pieces. -/
def DecodesPieces (modes : SqlModes)
    (decode : LiteralSpan → Except StringLiteralError (List UInt8))
    (decodeEscape : UInt8 → Except StringLiteralError (List UInt8)) : Prop :=
  ∀ text pieces, QuotedText singleQuote (!modes.noBackslashEscapes) text pieces →
    decode ⟨.string, text⟩ = piecesValue decodeEscape singleQuote pieces

theorem sqlStringLiteral_decodesPieces (modes : SqlModes)
    (messages : StringLiteralDecodeMessages) (allowNul : Bool) :
    DecodesPieces modes (appendDecodedSqlStringLiteralSpan modes messages allowNul)
      (appendDecodedEscape messages.nul allowNul) := by
  intro text pieces quoted
  exact appendDecodedSqlStringLiteralSpan_quoted messages allowNul ⟨.string, text⟩ []
    (.inl ⟨rfl, rfl⟩) rfl (by decide) quoted

theorem tableOption_decodesPieces (modes : SqlModes) (nulMessage : String) :
    DecodesPieces modes (decodeTableOptionStringLiteral modes nulMessage)
      (appendDecodedEscape nulMessage false) := by
  intro text pieces quoted
  obtain ⟨rfl, valid⟩ := quoted
  unfold decodeTableOptionStringLiteral
  rw [if_neg (by simp), if_neg (by simp)]
  change decodeQuotedBody _ singleQuote _ _ _ _ = _
  rw [decodeQuotedBody_spell (by decide) valid rfl]
  cases piecesValue (appendDecodedEscape nulMessage false) singleQuote pieces <;>
    simp [Except.map]

section

variable {decode : LiteralSpan → Except StringLiteralError (List UInt8)}
  {decodeEscape : UInt8 → Except StringLiteralError (List UInt8)} {value : List UInt8}

theorem readsBack_iff {pieces : List (Quoted.Piece UInt8)}
    (decodes : DecodesPieces modes decode decodeEscape)
    (quoted : QuotedText singleQuote (!modes.noBackslashEscapes) text pieces)
    (closed : rest.head? ≠ some singleQuote) :
    ReadsBack keywordLookup modes decode before text rest value ↔
      piecesValue decodeEscape singleQuote pieces = .ok value := by
  obtain ⟨token, lexed, kind, tokenText⟩ :=
    @lexedAs_string keywordLookup modes before text rest pieces quoted closed
  have literal : token.stringLiteral = some ⟨.string, text⟩ := by
    rw [SqlToken.stringLiteral, kind, ← tokenText]
  rw [← decodes text pieces quoted]
  constructor
  · rintro ⟨other, made, again, same, decoded⟩
    have unique : other = token := (Prod.mk.inj (again.symm.trans lexed)).1
    rw [unique, literal] at same
    cases same
    exact decoded
  · intro decoded
    exact ⟨token, _, lexed, literal, decoded⟩

/-- Without escapes what is read back has the backslashes of the text. -/
theorem piecesValue_count {pieces : List (Quoted.Piece UInt8)}
    (valid : ∀ piece ∈ pieces, piece.Valid (sqlQuoting singleQuote false))
    (decoded : piecesValue decodeEscape singleQuote pieces = .ok value) :
    value.count backslash =
      (Quoted.spell (sqlQuoting singleQuote false) pieces).count backslash := by
  induction pieces generalizing value with
  | nil =>
    cases decoded
    rfl
  | cons piece pieces ih =>
    obtain ⟨first, others⟩ := List.forall_mem_cons.1 valid
    obtain ⟨bytes, rest, here, following, rfl⟩ := piecesValue_cons_ok.1 decoded
    rw [List.count_append, Quoted.spell_cons, List.count_append, ih others following]
    cases piece with
    | plain byte =>
      cases here
      rfl
    | doubled =>
      cases here
      exact congrArg (· + _) (by decide)
    | escaped byte =>
      obtain ⟨escape, active, -⟩ := first
      cases active

theorem piecesValue_mem {pieces : List (Quoted.Piece UInt8)}
    (valid : ∀ piece ∈ pieces, piece.Valid (sqlQuoting singleQuote false))
    (decoded : piecesValue decodeEscape singleQuote pieces = .ok value) :
    ∀ byte ∈ value, byte ∈ Quoted.spell (sqlQuoting singleQuote false) pieces := by
  induction pieces generalizing value with
  | nil =>
    cases decoded
    simp
  | cons piece pieces ih =>
    obtain ⟨first, others⟩ := List.forall_mem_cons.1 valid
    obtain ⟨bytes, rest, here, following, rfl⟩ := piecesValue_cons_ok.1 decoded
    intro byte member
    rw [Quoted.spell_cons, List.mem_append]
    rcases List.mem_append.1 member with taken | later
    · refine .inl ?_
      cases piece with
      | plain letter =>
        cases here
        exact taken
      | doubled =>
        cases here
        exact List.mem_cons_of_mem _ taken
      | escaped letter =>
        obtain ⟨escape, active, -⟩ := first
        cases active
    · exact .inr (ih others following byte later)

/-- What is read back where nothing is escaped. -/
theorem pieces_of_readsBack {body : List UInt8} (noEscapes : modes.noBackslashEscapes = true)
    (decodes : DecodesPieces modes decode decodeEscape)
    (reads : ReadsBack keywordLookup modes decode before
      (singleQuote :: body ++ [singleQuote]) rest value) :
    ∃ pieces, (∀ piece ∈ pieces, piece.Valid (sqlQuoting singleQuote false)) ∧
      body = Quoted.spell (sqlQuoting singleQuote false) pieces ∧
      piecesValue decodeEscape singleQuote pieces = .ok value := by
  obtain ⟨token, literal, lexed, made, decoded⟩ := reads
  have kind : token.kind ≠ .error := by
    intro error
    rw [SqlToken.stringLiteral, error] at made
    cases made
  obtain ⟨kind, tokenText, pieces, quoted⟩ := quotedText_of_lexedAs lexed kind
  rw [SqlToken.stringLiteral, kind] at made
  cases made
  rw [decodes _ _ quoted] at decoded
  rw [tokenText] at quoted
  obtain ⟨textEq, valid⟩ := quoted
  rw [noEscapes] at valid textEq
  have bodyEq := (List.cons.inj textEq).2
  exact ⟨pieces, valid, List.append_cancel_right bodyEq, decoded⟩

/-- Where nothing is escaped, a text that reads back has no more backslashes than the value. -/
theorem readsBack_count {body : List UInt8} (noEscapes : modes.noBackslashEscapes = true)
    (decodes : DecodesPieces modes decode decodeEscape)
    (reads : ReadsBack keywordLookup modes decode before
      (singleQuote :: body ++ [singleQuote]) rest value) :
    value.count backslash = body.count backslash := by
  obtain ⟨pieces, valid, rfl, decoded⟩ := pieces_of_readsBack noEscapes decodes reads
  exact piecesValue_count valid decoded

end

/-! Texts in which each byte is spelled on its own. -/

theorem count_le_flatMap {spelled : UInt8 → List UInt8} {byte : UInt8}
    (grows : ∀ value, [value].count byte ≤ (spelled value).count byte) (value : List UInt8) :
    value.count byte ≤ (value.flatMap spelled).count byte := by
  induction value with
  | nil => rfl
  | cons first value ih =>
    rw [List.flatMap_cons, List.count_append, ← List.singleton_append, List.count_append]
    exact Nat.add_le_add (grows first) ih

theorem count_flatMap_eq {spelled : UInt8 → List UInt8} {byte : UInt8}
    (grows : ∀ value, [value].count byte ≤ (spelled value).count byte) {value : List UInt8}
    (same : value.count byte = (value.flatMap spelled).count byte) :
    ∀ first ∈ value, (spelled first).count byte = [first].count byte := by
  induction value with
  | nil => simp
  | cons first value ih =>
    have here := grows first
    have others := count_le_flatMap grows value
    rw [List.flatMap_cons, List.count_append, ← List.singleton_append, List.count_append] at same
    exact List.forall_mem_cons.2 ⟨by omega, ih (by omega)⟩

theorem spell_map {quoting : Quoted.Quoting UInt8} {spelled : UInt8 → List UInt8}
    {piece : UInt8 → Quoted.Piece UInt8} (value : List UInt8)
    (spelling : ∀ byte ∈ value, (piece byte).spelling quoting = spelled byte) :
    Quoted.spell quoting (value.map piece) = value.flatMap spelled := by
  rw [Quoted.spell, List.flatMap_map]
  exact List.flatMap_congr spelling

theorem quotedText_map {quote : UInt8} {allowBackslash : Bool} {spelled : UInt8 → List UInt8}
    {piece : UInt8 → Quoted.Piece UInt8} {value : List UInt8}
    (each : ∀ byte ∈ value,
      (piece byte).spelling (sqlQuoting quote allowBackslash) = spelled byte ∧
      (piece byte).Valid (sqlQuoting quote allowBackslash)) :
    QuotedText quote allowBackslash (quote :: value.flatMap spelled ++ [quote])
      (value.map piece) := by
  constructor
  · rw [spell_map value fun byte member => (each byte member).1]
  · intro taken member
    obtain ⟨byte, inside, rfl⟩ := List.mem_map.1 member
    exact (each byte inside).2

/-- A text whose bytes are spelled as pieces that stand for them is read back. -/
theorem readsBack_bytes {decode : LiteralSpan → Except StringLiteralError (List UInt8)}
    {decodeEscape : UInt8 → Except StringLiteralError (List UInt8)}
    {spelled : UInt8 → List UInt8} (piece : UInt8 → Quoted.Piece UInt8) {value : List UInt8}
    (decodes : DecodesPieces modes decode decodeEscape) (closed : rest.head? ≠ some singleQuote)
    (each : ∀ byte ∈ value,
      (piece byte).spelling (sqlQuoting singleQuote (!modes.noBackslashEscapes)) = spelled byte ∧
      (piece byte).Valid (sqlQuoting singleQuote (!modes.noBackslashEscapes)) ∧
      pieceValue decodeEscape singleQuote (piece byte) = .ok [byte]) :
    ReadsBack keywordLookup modes decode before
      (singleQuote :: value.flatMap spelled ++ [singleQuote]) rest value := by
  have quoted := quotedText_map fun byte member =>
    ⟨(each byte member).1, (each byte member).2.1⟩
  rw [readsBack_iff decodes quoted closed]
  exact piecesValue_map fun byte member => (each byte member).2.2

/-- A way to spell any byte between single quotes where escapes are read. -/
structure ByteSpelling where
  piece : UInt8 → Quoted.Piece UInt8
  valid : ∀ byte, (piece byte).Valid (sqlQuoting singleQuote true)
  decoded : ∀ nulMessage byte,
    pieceValue (appendDecodedEscape nulMessage true) singleQuote (piece byte) = .ok [byte]
  nul : ∀ byte, piece byte = .escaped (ascii '0') ↔ byte = 0

namespace ByteSpelling

variable (spelling : ByteSpelling)

def spelled (byte : UInt8) : List UInt8 :=
  (spelling.piece byte).spelling (sqlQuoting singleQuote true)

/-- Whether the byte is spelled with a backslash. -/
def escapes (byte : UInt8) : Bool :=
  match spelling.piece byte with
  | .escaped _ => true
  | _ => false

/-- A decoder that refuses NUL bytes decodes the other bytes as well. -/
theorem decoded_of_nul {nulMessage : String} {allowNul : Bool} {byte : UInt8}
    (allowed : byte = 0 → allowNul = true) :
    pieceValue (appendDecodedEscape nulMessage allowNul) singleQuote (spelling.piece byte) =
      .ok [byte] := by
  cases allowNul with
  | true => exact spelling.decoded nulMessage byte
  | false =>
    have decoded := spelling.decoded nulMessage byte
    have notZero : spelling.piece byte ≠ .escaped (ascii '0') :=
      fun zero => Bool.false_ne_true (allowed ((spelling.nul byte).1 zero))
    generalize spelling.piece byte = piece at decoded notZero ⊢
    cases piece with
    | plain => exact decoded
    | doubled => exact decoded
    | escaped letter =>
      have other : letter ≠ ascii '0' := fun zero => notZero (congrArg _ zero)
      rw [pieceValue, appendDecodedEscape, if_neg other] at decoded ⊢
      exact decoded

/-- A byte without a backslash is spelled in the same way where no escapes are read. -/
theorem unescaped {byte : UInt8} (unescaped : spelling.escapes byte = false) :
    (spelling.piece byte).spelling (sqlQuoting singleQuote false) = spelling.spelled byte ∧
      (spelling.piece byte).Valid (sqlQuoting singleQuote false) := by
  have valid := spelling.valid byte
  unfold escapes at unescaped
  unfold spelled
  generalize spelling.piece byte = piece at unescaped valid ⊢
  cases piece with
  | plain letter => exact ⟨rfl, valid.1, by simp [sqlQuoting]⟩
  | doubled => exact ⟨rfl, trivial⟩
  | escaped letter => cases unescaped

theorem appendDecodedEscape_count {nulMessage : String} {letter byte : UInt8}
    (decoded : appendDecodedEscape nulMessage true letter = .ok [byte]) :
    [letter].count backslash = [byte].count backslash := by
  unfold appendDecodedEscape at decoded
  split_ifs at decoded <;> cases decoded <;> subst_vars <;> rfl

theorem count_spelled (byte : UInt8) :
    (spelling.spelled byte).count backslash =
      [byte].count backslash + (if spelling.escapes byte then 1 else 0) := by
  have decoded := spelling.decoded "" byte
  unfold spelled escapes
  generalize spelling.piece byte = piece at decoded ⊢
  cases piece with
  | plain letter =>
    cases decoded
    rfl
  | doubled =>
    cases decoded
    rfl
  | escaped letter =>
    have same := appendDecodedEscape_count decoded
    change ([backslash] ++ [letter]).count backslash = _ + 1
    rw [List.count_append, same]
    exact Nat.add_comm _ _

/-- Between single quotes the bytes are read back where escapes are, and elsewhere exactly when
none is spelled with a backslash; a decoder that refuses NUL bytes reads back no others. -/
theorem readsBack_iff (keywordLookup : List UInt8 → Option Keyword) (modes : SqlModes)
    (messages : StringLiteralDecodeMessages) (allowNul : Bool) (before rest value : List UInt8)
    (closed : rest.head? ≠ some singleQuote) :
    ReadsBack keywordLookup modes (appendDecodedSqlStringLiteralSpan modes messages allowNul)
        before (singleQuote :: value.flatMap spelling.spelled ++ [singleQuote]) rest value ↔
      (if modes.noBackslashEscapes then ∀ byte ∈ value, spelling.escapes byte = false
      else 0 ∈ value → allowNul = true) := by
  have decodes := sqlStringLiteral_decodesPieces modes messages allowNul
  cases escapes : modes.noBackslashEscapes with
  | true =>
    constructor
    · intro reads byte member
      have same := readsBack_count escapes decodes reads
      have grows (byte : UInt8) :
          [byte].count backslash ≤ (spelling.spelled byte).count backslash := by
        rw [count_spelled]
        exact Nat.le_add_right _ _
      have each := count_flatMap_eq grows same byte member
      rw [count_spelled] at each
      by_contra escaped
      rw [if_pos (by simpa using escaped)] at each
      omega
    · intro plain
      apply readsBack_bytes spelling.piece decodes closed
      intro byte member
      obtain ⟨spelled, valid⟩ := spelling.unescaped (plain byte member)
      rw [escapes]
      refine ⟨spelled, valid, spelling.decoded_of_nul ?_⟩
      rintro rfl
      have unescaped := plain 0 member
      rw [ByteSpelling.escapes, (spelling.nul 0).2 rfl] at unescaped
      cases unescaped
  | false =>
    constructor
    · intro reads zero
      have quoted := quotedText_map fun byte (_ : byte ∈ value) =>
        ⟨(rfl : _ = spelling.spelled byte), spelling.valid byte⟩
      have taken := (Sql.readsBack_iff decodes (by rw [escapes]; exact quoted) closed).1 reads
      by_contra refuses
      obtain ⟨error, refused⟩ :=
        (@piecesValue_error messages.nul allowNul singleQuote (value.map spelling.piece)).2
          ⟨Bool.eq_false_iff.2 refuses, List.mem_map.2 ⟨0, zero, (spelling.nul 0).2 rfl⟩⟩
      rw [taken] at refused
      cases refused
    · intro nul
      apply readsBack_bytes spelling.piece decodes closed
      intro byte member
      rw [escapes]
      refine ⟨rfl, spelling.valid byte, spelling.decoded_of_nul ?_⟩
      rintro rfl
      exact nul member

end ByteSpelling

/-! QUOTE. -/

/-- The bytes that QUOTE escapes. -/
def isQuoteEscaped (byte : UInt8) : Bool :=
  byte = 0 || byte = 0x1a || byte = backslash || byte = singleQuote

def quotedPiece (byte : UInt8) : Quoted.Piece UInt8 :=
  if byte = 0 then .escaped (ascii '0')
  else if byte = 0x1a then .escaped (ascii 'Z')
  else if byte = backslash ∨ byte = singleQuote then .escaped byte
  else .plain byte

theorem escaped_valid (letter : UInt8) :
    (Quoted.Piece.escaped letter).Valid (sqlQuoting singleQuote true) :=
  ⟨backslash, rfl, by decide⟩

def quoteSpelling : ByteSpelling where
  piece := quotedPiece
  valid byte := by
    unfold quotedPiece
    split
    · exact escaped_valid _
    split
    · exact escaped_valid _
    split
    · exact escaped_valid _
    · rename_i notEscaped
      refine ⟨fun same => notEscaped (.inr same), fun same => notEscaped (.inl ?_)⟩
      exact (sqlQuoting_escape.1 same).2
  decoded nulMessage byte := by
    unfold quotedPiece
    split_ifs with zero controlZ escaped
    · rw [zero]
      rfl
    · rw [controlZ]
      rfl
    · rcases escaped with rfl | rfl <;> rfl
    · rfl
  nul byte := by
    unfold quotedPiece
    split_ifs with zero controlZ escaped
    · simp [zero]
    · simp [zero, ascii]
    · rcases escaped with rfl | rfl <;> decide
    · simp [zero]

theorem quoteSpelling_spelled (byte : UInt8) :
    quoteSpelling.spelled byte = appendQuotedByte byte := by
  unfold ByteSpelling.spelled quoteSpelling appendQuotedByte
  dsimp only [quotedPiece]
  split_ifs <;> simp_all [Quoted.Piece.spelling, sqlQuoting]

theorem quoteSpelling_escapes (byte : UInt8) :
    quoteSpelling.escapes byte = isQuoteEscaped byte := by
  unfold ByteSpelling.escapes quoteSpelling isQuoteEscaped
  dsimp only [quotedPiece]
  split_ifs <;> simp_all

/-- QUOTE is read back where backslash escapes are, and elsewhere exactly when it escapes no
byte. -/
theorem quote_readsBack_iff (keywordLookup : List UInt8 → Option Keyword) (modes : SqlModes)
    (messages : StringLiteralDecodeMessages) (allowNul : Bool) (before rest value : List UInt8)
    (closed : rest.head? ≠ some singleQuote) :
    ReadsBack keywordLookup modes (appendDecodedSqlStringLiteralSpan modes messages allowNul)
        before (stringQuoteSqlValue (some value)) rest value ↔
      (if modes.noBackslashEscapes then ∀ byte ∈ value, isQuoteEscaped byte = false
      else 0 ∈ value → allowNul = true) := by
  have general := quoteSpelling.readsBack_iff keywordLookup modes messages allowNul before rest
    value closed
  simp only [quoteSpelling_escapes] at general
  have spelled : quoteSpelling.spelled = appendQuotedByte := funext quoteSpelling_spelled
  rw [spelled] at general
  exact general

theorem quote_readsBack_apostrophe :
    ReadsBack (fun _ => none) ⟨false, false, false, false⟩
      (appendDecodedSqlStringLiteralSpan ⟨false, false, false, false⟩ ⟨"", ""⟩ true) []
      (stringQuoteSqlValue (some [0x61, 0x27, 0x00])) [0x3b] [0x61, 0x27, 0x00] :=
  (quote_readsBack_iff (fun _ => none) ⟨false, false, false, false⟩ ⟨"", ""⟩ true [] [0x3b]
    [0x61, 0x27, 0x00] (by decide)).2 (by decide)

/-! SHOW CREATE. -/

/-- The bytes of a default that SHOW CREATE spells with a backslash. -/
def isMysqlEscaped (byte : UInt8) : Bool :=
  byte = 0 || byte = backslash || byte = 0x0a || byte = 0x0d || byte = 0x09

def mysqlPiece (byte : UInt8) : Quoted.Piece UInt8 :=
  if byte = 0 then .escaped (ascii '0')
  else if byte = singleQuote then .doubled
  else if byte = backslash then .escaped backslash
  else if byte = 0x0a then .escaped (ascii 'n')
  else if byte = 0x0d then .escaped (ascii 'r')
  else if byte = 0x09 then .escaped (ascii 't')
  else .plain byte

def mysqlSpelling : ByteSpelling where
  piece := mysqlPiece
  valid byte := by
    unfold mysqlPiece
    split_ifs with _ notQuote notBackslash
    · exact escaped_valid _
    · trivial
    · exact escaped_valid _
    · exact escaped_valid _
    · exact escaped_valid _
    · exact escaped_valid _
    · exact ⟨notQuote, fun same => notBackslash (sqlQuoting_escape.1 same).2⟩
  decoded nulMessage byte := by
    unfold mysqlPiece
    split_ifs <;> subst_vars <;> rfl
  nul byte := by
    unfold mysqlPiece
    split_ifs with zero <;> simp_all [ascii, backslash]

theorem mysqlSpelling_spelled (byte : UInt8) :
    mysqlSpelling.spelled byte = mysqlQuotedBinaryByte byte := by
  unfold ByteSpelling.spelled mysqlSpelling mysqlQuotedBinaryByte mysqlQuotedByte
  dsimp only [mysqlPiece]
  split_ifs <;> simp_all [Quoted.Piece.spelling, sqlQuoting]

theorem mysqlSpelling_escapes (byte : UInt8) :
    mysqlSpelling.escapes byte = isMysqlEscaped byte := by
  unfold ByteSpelling.escapes mysqlSpelling isMysqlEscaped
  dsimp only [mysqlPiece]
  split_ifs with _ quote
  · simp_all
  · rw [quote]
    decide
  all_goals simp_all

theorem mysqlQuotedText_eq {text : List UInt8} (noNul : 0 ∉ text) :
    mysqlQuotedText text = mysqlQuotedBinaryDefaultText text := by
  have same : text.flatMap mysqlQuotedByte = text.flatMap mysqlQuotedBinaryByte := by
    refine List.flatMap_congr fun byte member => ?_
    rw [mysqlQuotedBinaryByte, if_neg]
    rintro rfl
    exact noNul member
  rw [mysqlQuotedText, mysqlQuotedBinaryDefaultText, same]

/-- A text or binary default in SHOW CREATE TABLE is read back where backslash escapes are, and
elsewhere exactly when no byte of it is spelled with one. -/
theorem showCreateDefault_readsBack_iff (keywordLookup : List UInt8 → Option Keyword)
    (modes : SqlModes) (messages : StringLiteralDecodeMessages) (allowNul : Bool)
    (before rest value : List UInt8) (closed : rest.head? ≠ some singleQuote) :
    (ReadsBack keywordLookup modes (appendDecodedSqlStringLiteralSpan modes messages allowNul)
        before (mysqlQuotedBinaryDefaultText value) rest value ↔
      (if modes.noBackslashEscapes then ∀ byte ∈ value, isMysqlEscaped byte = false
      else 0 ∈ value → allowNul = true)) ∧
    (0 ∉ value →
      (ReadsBack keywordLookup modes (appendDecodedSqlStringLiteralSpan modes messages allowNul)
          before (mysqlQuotedText value) rest value ↔
        (modes.noBackslashEscapes = true → ∀ byte ∈ value, isMysqlEscaped byte = false))) := by
  have general := mysqlSpelling.readsBack_iff keywordLookup modes messages allowNul before rest
    value closed
  have spelled : mysqlSpelling.spelled = mysqlQuotedBinaryByte := funext mysqlSpelling_spelled
  rw [spelled] at general
  simp only [mysqlSpelling_escapes] at general
  refine ⟨general, fun noNul => ?_⟩
  rw [mysqlQuotedText_eq noNul]
  refine general.trans ?_
  cases modes.noBackslashEscapes <;> simp [noNul]

theorem showCreateDefault_readsBack_tab :
    ReadsBack (fun _ => none) ⟨false, false, false, false⟩
      (appendDecodedSqlStringLiteralSpan ⟨false, false, false, false⟩ ⟨"", ""⟩ false) []
      (mysqlQuotedText [0x09, 0x27]) [0x2c] [0x09, 0x27] :=
  ((showCreateDefault_readsBack_iff (fun _ => none) ⟨false, false, false, false⟩ ⟨"", ""⟩ false
    [] [0x2c] [0x09, 0x27] (by decide)).2 (by decide)).2 (by decide)

end MyLite.Sql
