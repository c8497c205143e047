import MyLite.Sql.ParserFeed
import MyLite.Library.Delimited

/-! How the lexer spells the tokens whose text a digest keeps: read byte by byte, each begins and
ends outside of quotes, and outside of quotes it has no space. -/
namespace MyLite.Sql

inductive QuoteState where
  | plain
  | quoted (quote : UInt8)
  | escaped (quote : UInt8)
  deriving DecidableEq, Repr

def isQuote (byte : UInt8) : Bool :=
  byte = singleQuote || byte = doubleQuote || byte = backtick

/-- One byte of a text; outside of quotes a space is refused. -/
def quoteStep (escapes : Bool) : QuoteState → UInt8 → Option QuoteState
  | .plain, byte =>
    if byte = 0x20 then none else if isQuote byte then some (.quoted byte) else some .plain
  | .quoted quote, byte =>
    if byte = quote then some .plain
    else if byte = backslash ∧ quote ≠ backtick ∧ escapes then some (.escaped quote)
    else some (.quoted quote)
  | .escaped quote, _ => some (.quoted quote)

def isPlain (byte : UInt8) : Bool :=
  byte ≠ 0x20 && !isQuote byte

theorem quoteStep_plain {escapes : Bool} {byte : UInt8} (plain : isPlain byte = true) :
    quoteStep escapes .plain byte = some .plain := by
  simp only [isPlain, Bool.and_eq_true, Bool.not_eq_true', decide_eq_true_eq] at plain
  rw [quoteStep, if_neg plain.1, plain.2, if_neg Bool.false_ne_true]

theorem quoteStep_open {escapes : Bool} {quote : UInt8} (isQuote : isQuote quote = true) :
    quoteStep escapes .plain quote = some (.quoted quote) := by
  have notSpace : quote ≠ 0x20 := by
    rintro rfl
    revert isQuote
    decide
  rw [quoteStep, if_neg notSpace, if_pos isQuote]

theorem quoteStep_close {escapes : Bool} (quote : UInt8) :
    quoteStep escapes (.quoted quote) quote = some .plain := by
  rw [quoteStep, if_pos rfl]

/-- A text that begins and ends outside of quotes. -/
def ReadsWhole (escapes : Bool) (text : List UInt8) : Prop :=
  Delimited.Reads (quoteStep escapes) .plain text .plain

theorem readsWhole_of_plain {escapes : Bool} {text : List UInt8}
    (plain : ∀ byte ∈ text, isPlain byte = true) : ReadsWhole escapes text :=
  Delimited.reads_of_all fun byte member => quoteStep_plain (plain byte member)

/-- A property of bytes that each of the 256 has. -/
theorem byte_forall (holds : UInt8 → Bool)
    (each : ∀ value : Fin 256, holds (UInt8.ofNat value.val) = true) (byte : UInt8) :
    holds byte = true := by
  have found := each ⟨byte.toNat, byte.toNat_lt⟩
  rwa [UInt8.ofNat_toNat] at found

theorem identifierPart_plain {byte : UInt8} (part : isIdentifierPart byte = true) :
    isPlain byte = true ∧ isPlain (asciiUpper byte) = true ∧ asciiUpper byte ≠ backtick ∧
      asciiUpper byte ≠ ascii '?' ∧ asciiUpper byte ≠ ascii '(' := by
  have all := byte_forall (fun byte => !isIdentifierPart byte ||
    (isPlain byte && isPlain (asciiUpper byte) && asciiUpper byte ≠ backtick &&
      asciiUpper byte ≠ ascii '?' && asciiUpper byte ≠ ascii '(')) (by decide +kernel) byte
  simpa [part, and_assoc] using all

theorem punctuation_plain {byte : UInt8} (punctuation : isPunctuation byte = true) :
    isPlain byte = true ∧ byte ≠ backtick ∧ byte ≠ ascii '?' := by
  have all := byte_forall (fun byte => !isPunctuation byte ||
    (isPlain byte && byte ≠ backtick && byte ≠ ascii '?')) (by decide +kernel) byte
  simpa [punctuation, and_assoc] using all

theorem userVariablePart_plain {byte : UInt8} (part : isUserVariablePart byte = true) :
    isPlain byte = true := by
  have all := byte_forall (fun byte => !isUserVariablePart byte || isPlain byte)
    (by decide +kernel) byte
  simpa [part] using all

/-- What the lexer guarantees of a token whose text or operator a digest keeps. -/
def SqlToken.Spelled (escapes : Bool) (token : SqlToken) : Prop :=
  match token.kind with
  | .keyword | .temporalLiteralIntroducer =>
    token.text ≠ [] ∧ ∀ byte ∈ token.text, isIdentifierPart byte = true
  | .operator => token.operatorKind ≠ .none
  | .punctuation => ∃ byte, token.text = [byte] ∧ Sql.isPunctuation byte = true
  | .userVariable | .systemVariable =>
    (∃ rest, token.text = ascii '@' :: rest) ∧ ReadsWhole escapes token.text
  | _ => True

/-- The kinds of which nothing is to be shown. -/
def SqlTokenKind.isFree (kind : SqlTokenKind) : Bool :=
  match kind with
  | .keyword | .temporalLiteralIntroducer | .operator | .punctuation | .userVariable
  | .systemVariable => false
  | _ => true

theorem SqlToken.spelled_of_free {escapes : Bool} {token : SqlToken}
    (free : token.kind.isFree = true) : token.Spelled escapes := by
  unfold SqlToken.Spelled
  unfold SqlTokenKind.isFree at free
  split <;> simp_all

namespace SqlLexer

/-! The text between two positions of the input. -/

theorem extract_peekAt {lexer : SqlLexer} {stop : Nat}
    (inside : lexer.offset < lexer.input.length) (forward : lexer.offset < stop) :
    lexer.input.extract lexer.offset stop =
      lexer.peekAt 0 :: lexer.input.extract (lexer.offset + 1) stop := by
  have first : lexer.input.drop lexer.offset =
      lexer.peekAt 0 :: lexer.input.drop (lexer.offset + 1) := by
    have byte : lexer.peekAt 0 = lexer.input[lexer.offset] := by
      rw [peekAt, List.getD_eq_getElem?_getD]
      exact congrArg (Option.getD · 0) (List.getElem?_eq_getElem inside)
    rw [List.drop_eq_getElem_cons inside, byte]
  have count : stop - lexer.offset = (stop - (lexer.offset + 1)) + 1 := by omega
  rw [List.extract_eq_take_drop, List.extract_eq_take_drop, first, count, List.take_succ_cons]

theorem extract_advanceOne {lexer : SqlLexer} {stop : Nat}
    (inside : lexer.offset < lexer.input.length) (forward : lexer.advanceOne.offset ≤ stop) :
    lexer.input.extract lexer.offset stop =
      lexer.peekAt 0 :: lexer.advanceOne.input.extract lexer.advanceOne.offset stop := by
  rw [advanceOne_offset inside] at forward ⊢
  rw [(advanceOne_continues lexer).input]
  exact extract_peekAt inside forward

/-- A loop over quoted text that closes the quote reads it. -/
theorem scanQuotedBody_reads {quote : UInt8} {escapes : Bool} {lexer after : SqlLexer}
    (isQuote : isQuote quote = true)
    (closed : scanQuotedBody quote (quote ≠ backtick && escapes) lexer = (after, true)) :
    Delimited.Reads (quoteStep escapes) (.quoted quote)
      (lexer.input.extract lexer.offset after.offset) .plain := by
  have forward := (scanQuotedBody_continues quote (quote ≠ backtick && escapes) lexer).forward
  rw [closed] at forward
  dsimp only at forward
  have notZero : quote ≠ 0 := by
    rintro rfl
    revert isQuote
    decide
  fun_induction scanQuotedBody quote (quote ≠ backtick && escapes) lexer with
  | case1 lexer inside here doubled ih =>
    have present : lexer.advanceOne.peekAt 0 ≠ 0 := by
      rw [doubled]
      exact notZero
    have next : lexer.advanceOne.offset < lexer.advanceOne.input.length :=
      hasAt_of_peekAt present
    have later := (scanQuotedBody_continues quote (quote ≠ backtick && escapes)
      lexer.advanceTwo).forward
    rw [closed] at later
    have middle := (advanceOne_continues lexer.advanceOne).forward
    rw [extract_advanceOne inside (Nat.le_trans middle later), here,
      extract_advanceOne next later, doubled]
    exact .cons (quoteStep_close quote) (.cons (quoteStep_open isQuote) (ih closed later))
  | case2 lexer inside here single =>
    cases closed
    rw [extract_advanceOne inside (Nat.le_refl _), here, List.extract_eq_take_drop,
      Nat.sub_self, List.take_zero]
    exact Delimited.reads_singleton (quoteStep_close quote)
  | case3 lexer inside different escape ih =>
    have next : lexer.advanceOne.offset < lexer.advanceOne.input.length := by
      rw [advanceOne_offset inside, (advanceOne_continues lexer).input]
      exact of_decide_eq_true escape.2.2
    have later := (scanQuotedBody_continues quote (quote ≠ backtick && escapes)
      lexer.advanceTwo).forward
    rw [closed] at later
    have middle := (advanceOne_continues lexer.advanceOne).forward
    have allowed : quote ≠ backtick ∧ escapes = true := by
      simpa only [Bool.and_eq_true, decide_eq_true_eq] using escape.2.1
    have opens : quoteStep escapes (.quoted quote) backslash = some (.escaped quote) := by
      rw [quoteStep, if_neg (by rw [← escape.1]; exact different), if_pos ⟨rfl, allowed⟩]
    rw [extract_advanceOne inside (Nat.le_trans middle later), escape.1,
      extract_advanceOne next later]
    exact .cons opens (.cons rfl (ih closed later))
  | case4 lexer inside different plain ih =>
    have later := (scanQuotedBody_continues quote (quote ≠ backtick && escapes)
      lexer.advanceOne).forward
    rw [closed] at later
    -- A backslash at the end of the input would have left the quote open.
    have noEscape : ¬(lexer.peekAt 0 = backslash ∧ quote ≠ backtick ∧ escapes = true) := by
      intro escape
      have last : ¬lexer.advanceOne.offset < lexer.advanceOne.input.length := by
        intro next
        rw [advanceOne_offset inside, (advanceOne_continues lexer).input] at next
        refine plain ⟨escape.1, ?_, decide_eq_true next⟩
        rw [Bool.and_eq_true, decide_eq_true_eq]
        exact escape.2
      rw [scanQuotedBody, if_neg last] at closed
      cases closed
    have stays : quoteStep escapes (.quoted quote) (lexer.peekAt 0) = some (.quoted quote) := by
      rw [quoteStep, if_neg different, if_neg noEscape]
    rw [extract_advanceOne inside later]
    exact .cons stays (ih closed later)
  | case5 lexer outside => cases closed

/-- The loop over a system variable's components reads them. -/
theorem scanSystemVariableBody_reads {escapes : Bool} {lexer after : SqlLexer}
    (closed : lexer.scanSystemVariableBody = (after, true)) :
    ReadsWhole escapes (lexer.input.extract lexer.offset after.offset) := by
  have whole (lexer : SqlLexer) :
      ReadsWhole escapes (lexer.input.extract lexer.offset lexer.offset) := by
    rw [List.extract_eq_take_drop, Nat.sub_self, List.take_zero]
    exact Delimited.reads_nil _
  fun_induction scanSystemVariableBody lexer with
  | case1 lexer inside part ih =>
    have later := (scanSystemVariableBody_continues lexer.advanceOne).forward
    rw [closed] at later
    have plain : isPlain (lexer.peekAt 0) = true := by
      rcases part with part | dot
      · exact (identifierPart_plain part).1
      · rw [dot]
        decide
    rw [extract_advanceOne inside later]
    exact .cons (quoteStep_plain plain) (ih closed)
  | case2 lexer inside notPart opens middle component ih =>
    have later := (scanSystemVariableBody_continues middle).forward
    rw [closed] at later
    rw [scanQuotedSystemVariableComponent] at component
    have body := scanQuotedBody_continues backtick false lexer.advanceOne
    rw [component] at body
    have noEscapes : (decide (backtick ≠ backtick) && escapes) = false := rfl
    rw [← noEscapes] at component
    have quoted := scanQuotedBody_reads (by decide) component
    rw [extract_advanceOne inside (Nat.le_trans body.forward later), opens,
      ← Cursor.extract_append_extract _ body.forward later]
    refine .cons (quoteStep_open (by decide)) (quoted.append ?_)
    rw [← body.input]
    exact ih closed
  | case3 => cases closed
  | case4 =>
    cases closed
    exact whole _
  | case5 =>
    cases closed
    exact whole _

/-! What each scanner takes is spelled so. -/

theorem scanQuoted_spelled {escapes : Bool} {start : TokenStart} {lexer : SqlLexer} (quote : UInt8)
    (allowBackslash : Bool) {kind : SqlTokenKind} (unterminated : SqlLexerError)
    (free : kind.isFree = true) :
    (lexer.scanQuoted start quote allowBackslash kind unterminated).1.Spelled escapes := by
  unfold scanQuoted
  split
  · exact SqlToken.spelled_of_free free
  · exact SqlToken.spelled_of_free rfl

theorem scanQuotedHexOrBitLiteral_spelled {escapes : Bool} {start : TokenStart}
    {lexer : SqlLexer} {kind : SqlTokenKind} (hex : Bool) (free : kind.isFree = true) :
    (lexer.scanQuotedHexOrBitLiteral start kind hex).1.Spelled escapes := by
  unfold scanQuotedHexOrBitLiteral
  split
  · exact SqlToken.spelled_of_free free
  · exact SqlToken.spelled_of_free rfl

theorem scanComment_spelled {escapes : Bool} (lexer : SqlLexer) (hasLeadingSpace : Bool) :
    (lexer.scanComment hasLeadingSpace).1.Spelled escapes := by
  have free : lexer.blockCommentTokenKind.isFree = true := by
    unfold blockCommentTokenKind
    split
    · rfl
    · split <;> rfl
  unfold scanComment
  dsimp only
  split
  · exact SqlToken.spelled_of_free rfl
  · split
    · exact SqlToken.spelled_of_free free
    · exact SqlToken.spelled_of_free rfl

theorem scanDigitLeadingToken_spelled {escapes : Bool} (lexer : SqlLexer)
    (hasLeadingSpace : Bool) :
    (lexer.scanDigitLeadingToken hasLeadingSpace).1.Spelled escapes := by
  have prefixed {kind : SqlTokenKind} (hex : Bool) (free : kind.isFree = true) :
      (lexer.scanPrefixedHexOrBitLiteral (lexer.makeTokenStart hasLeadingSpace) kind
        hex).1.Spelled escapes := by
    unfold scanPrefixedHexOrBitLiteral
    dsimp only
    split
    · exact SqlToken.spelled_of_free rfl
    · exact SqlToken.spelled_of_free free
  unfold scanDigitLeadingToken
  dsimp only
  split
  · exact prefixed true rfl
  split
  · exact prefixed false rfl
  split
  · exact SqlToken.spelled_of_free rfl
  · refine SqlToken.spelled_of_free ?_
    change SqlTokenKind.isFree (if _ then _ else _) = true
    split
    · rfl
    · split <;> rfl

theorem scanDotOrNumber_spelled {escapes : Bool} {lexer : SqlLexer} (hasLeadingSpace : Bool)
    (inside : lexer.offset < lexer.input.length) (dot : lexer.peekAt 0 = ascii '.') :
    (lexer.scanDotOrNumber hasLeadingSpace).1.Spelled escapes := by
  unfold scanDotOrNumber
  dsimp only
  split
  · refine ⟨ascii '.', ?_, by decide⟩
    change lexer.advanceOne.input.extract lexer.offset lexer.advanceOne.offset = _
    rw [(advanceOne_continues lexer).input, extract_advanceOne inside (Nat.le_refl _), dot,
      List.extract_eq_take_drop, Nat.sub_self, List.take_zero]
  · split
    · exact SqlToken.spelled_of_free rfl
    · exact SqlToken.spelled_of_free rfl

theorem scanUnquotedIdentifier_spelled {keywordLookup : List UInt8 → Option Keyword}
    {escapes : Bool} {lexer : SqlLexer} (hasLeadingSpace : Bool)
    (inside : lexer.offset < lexer.input.length)
    (starts : isIdentifierStart (lexer.peekAt 0) = true) :
    (lexer.scanUnquotedIdentifier keywordLookup hasLeadingSpace).1.Spelled escapes := by
  have part : isIdentifierPart (lexer.peekAt 0) = true := by
    rw [isIdentifierPart, starts, Bool.true_or]
  have word : lexer.input.extract lexer.offset (skipIdentifierParts lexer.input lexer.offset) ≠ []
      ∧ ∀ byte ∈ lexer.input.extract lexer.offset (skipIdentifierParts lexer.input lexer.offset),
        isIdentifierPart byte = true := by
    constructor
    · have forward : lexer.offset < skipIdentifierParts lexer.input lexer.offset :=
        skipWhile_forward inside part
      rw [extract_peekAt inside forward]
      exact List.cons_ne_nil _ _
    · intro byte member
      rw [skipIdentifierParts, Cursor.extract_skipWhile] at member
      exact List.mem_takeWhile_imp member
  unfold scanUnquotedIdentifier
  dsimp only
  split
  · exact SqlToken.spelled_of_free rfl
  split
  · exact word
  split
  · exact word
  · exact SqlToken.spelled_of_free rfl

theorem scanWord_spelled {keywordLookup : List UInt8 → Option Keyword} {escapes : Bool}
    {lexer : SqlLexer} (hasLeadingSpace : Bool) (inside : lexer.offset < lexer.input.length)
    (starts : isIdentifierStart (lexer.peekAt 0) = true) :
    (lexer.scanWord keywordLookup hasLeadingSpace).1.Spelled escapes := by
  unfold scanWord
  dsimp only
  split
  · exact scanQuoted_spelled _ _ _ rfl
  split
  · exact scanQuotedHexOrBitLiteral_spelled _ rfl
  split
  · exact scanQuotedHexOrBitLiteral_spelled _ rfl
  · exact scanUnquotedIdentifier_spelled hasLeadingSpace inside starts

/-- A variable: its sign, and a text that is read whole. -/
theorem variable_spelled {escapes : Bool} {start : TokenStart} {lexer after : SqlLexer}
    {kind : SqlTokenKind} (isVariable : kind = .userVariable ∨ kind = .systemVariable)
    (inside : lexer.offset < lexer.input.length) (starts : start.offset = lexer.offset)
    (sign : lexer.peekAt 0 = ascii '@') (continues : Continues lexer.advanceOne after)
    (reads : ReadsWhole escapes
      (lexer.advanceOne.input.extract lexer.advanceOne.offset after.offset)) :
    (after.setToken kind start).Spelled escapes := by
  have text : (after.setToken kind start).text =
      ascii '@' :: lexer.advanceOne.input.extract lexer.advanceOne.offset after.offset := by
    change after.input.extract start.offset after.offset = _
    rw [starts, continues.input, (advanceOne_continues lexer).input,
      extract_advanceOne inside continues.forward, sign, (advanceOne_continues lexer).input]
  have spelled : (∃ rest, (after.setToken kind start).text = ascii '@' :: rest) ∧
      ReadsWhole escapes (after.setToken kind start).text := by
    rw [text]
    exact ⟨⟨_, rfl⟩, .cons (quoteStep_plain (by decide)) reads⟩
  rcases isVariable with rfl | rfl
  · exact spelled
  · exact spelled

theorem scanVariable_spelled {escapes : Bool} {lexer : SqlLexer} (hasLeadingSpace : Bool)
    (inside : lexer.offset < lexer.input.length) (sign : lexer.peekAt 0 = ascii '@')
    (modes : escapes = !lexer.modes.noBackslashEscapes) :
    (lexer.scanVariable hasLeadingSpace).1.Spelled escapes := by
  have bounded : lexer.advanceOne.offset ≤ lexer.advanceOne.input.length := by
    rw [advanceOne_offset inside, (advanceOne_continues lexer).input]
    exact inside
  have present {byte : UInt8} (here : lexer.advanceOne.peekAt 0 = byte) (notZero : byte ≠ 0) :
      lexer.advanceOne.offset < lexer.advanceOne.input.length :=
    hasAt_of_peekAt (here ▸ notZero)
  have none (lexer : SqlLexer) :
      ReadsWhole escapes (lexer.input.extract lexer.offset lexer.offset) := by
    rw [List.extract_eq_take_drop, Nat.sub_self, List.take_zero]
    exact Delimited.reads_nil _
  unfold scanVariable
  dsimp only
  split
  · rename_i second
    have next := present second (by decide)
    unfold scanSystemVariable
    dsimp only
    split
    · exact SqlToken.spelled_of_free rfl
    · split
      · rename_i after closed
        have body := scanSystemVariableBody_continues lexer.advanceOne.advanceOne
        rw [closed] at body
        refine variable_spelled (.inr rfl) inside rfl sign
          ((advanceOne_continues lexer.advanceOne).trans body) ?_
        rw [extract_advanceOne next body.forward, second]
        exact .cons (quoteStep_plain (by decide)) (scanSystemVariableBody_reads closed)
      · exact SqlToken.spelled_of_free rfl
  split
  · rename_i quote
    have quoted : isQuote (lexer.advanceOne.peekAt 0) = true := by
      rcases quote with quote | quote | quote <;> rw [quote] <;> decide
    have notZero : lexer.advanceOne.peekAt 0 ≠ 0 := by
      rcases quote with quote | quote | quote <;> rw [quote] <;> decide
    have next := hasAt_of_peekAt notZero
    unfold scanQuotedVariable scanQuoted
    dsimp only
    rw [(advanceOne_continues lexer).modes, ← modes]
    split
    · rename_i after closed
      have body := scanQuotedBody_continues (lexer.advanceOne.peekAt 0)
        (lexer.advanceOne.peekAt 0 ≠ backtick && escapes) lexer.advanceOne.advanceOne
      rw [closed] at body
      refine variable_spelled (.inl rfl) inside rfl sign
        ((advanceOne_continues lexer.advanceOne).trans body) ?_
      rw [extract_advanceOne next body.forward]
      exact .cons (quoteStep_open quoted) (scanQuotedBody_reads quoted closed)
    · exact SqlToken.spelled_of_free rfl
  split
  · exact variable_spelled (.inl rfl) inside rfl sign (Continues.refl _) (none _)
  · have moves := skipWhile_moves isUserVariablePart lexer.advanceOne.input
      lexer.advanceOne.offset
    refine variable_spelled (.inl rfl) inside rfl sign
      (advanceToOffset_continues moves.1 (moves.2 bounded)) (readsWhole_of_plain ?_)
    intro byte member
    change byte ∈ lexer.advanceOne.input.extract lexer.advanceOne.offset
      (Cursor.skipWhile isUserVariablePart lexer.advanceOne.input lexer.advanceOne.offset) at member
    rw [Cursor.extract_skipWhile] at member
    exact userVariablePart_plain (List.mem_takeWhile_imp member)

theorem scanOperatorOrPunctuation_spelled {escapes : Bool} {lexer : SqlLexer}
    (hasLeadingSpace : Bool) {result : SqlToken × SqlLexer}
    (inside : lexer.offset < lexer.input.length)
    (scanned : lexer.scanOperatorOrPunctuation hasLeadingSpace = some result) :
    result.1.Spelled escapes := by
  unfold scanOperatorOrPunctuation at scanned
  dsimp only at scanned
  split at scanned
  · rename_i operator
    cases scanned
    exact operator
  · split at scanned
    · rename_i punctuation
      cases scanned
      refine ⟨lexer.peekAt 0, ?_, punctuation⟩
      change lexer.input.extract lexer.offset (lexer.offset + 1) = _
      rw [extract_peekAt inside (Nat.lt_succ_self _), List.extract_eq_take_drop, Nat.sub_self,
        List.take_zero]
    · cases scanned

theorem scanToken_spelled {keywordLookup : List UInt8 → Option Keyword} {escapes : Bool}
    {lexer : SqlLexer} (hasLeadingSpace : Bool) (inside : lexer.offset < lexer.input.length)
    (modes : escapes = !lexer.modes.noBackslashEscapes) :
    (lexer.scanToken keywordLookup hasLeadingSpace).1.Spelled escapes := by
  unfold scanToken
  dsimp only
  split
  · exact scanComment_spelled lexer hasLeadingSpace
  split
  · exact scanQuoted_spelled _ _ _ rfl
  split
  · split
    · exact scanQuoted_spelled _ _ _ rfl
    · exact scanQuoted_spelled _ _ _ rfl
  split
  · rename_i starts
    exact scanWord_spelled hasLeadingSpace inside starts
  split
  · exact scanDigitLeadingToken_spelled lexer hasLeadingSpace
  split
  · rename_i dot
    exact scanDotOrNumber_spelled hasLeadingSpace inside dot
  split
  · rename_i sign
    exact scanVariable_spelled hasLeadingSpace inside sign modes
  split
  · exact SqlToken.spelled_of_free rfl
  split
  · rename_i scanned
    exact scanOperatorOrPunctuation_spelled hasLeadingSpace inside scanned
  · exact SqlToken.spelled_of_free rfl

theorem next_spelled (keywordLookup : List UInt8 → Option Keyword) {escapes : Bool}
    {lexer : SqlLexer} (inside : lexer.offset ≤ lexer.input.length)
    (modes : escapes = !lexer.modes.noBackslashEscapes) :
    (lexer.next keywordLookup).1.Spelled escapes := by
  have after := consumeWhitespace_snd inside
  unfold next
  generalize lexer.consumeWhitespace = consumed at after
  obtain ⟨hasLeadingSpace, middle⟩ := consumed
  dsimp only at after
  subst after
  dsimp only
  split
  · exact SqlToken.spelled_of_free rfl
  · rename_i notEnd
    exact scanToken_spelled hasLeadingSpace (Nat.lt_of_not_le notEnd) modes

/-- Every token of an input is spelled so. -/
theorem tokens_spelled (keywordLookup : List UInt8 → Option Keyword) {escapes : Bool}
    {lexer : SqlLexer} (inside : lexer.offset ≤ lexer.input.length)
    (modes : escapes = !lexer.modes.noBackslashEscapes) :
    ∀ token ∈ lexer.tokens keywordLookup, token.Spelled escapes := by
  induction bound : lexer.remaining using Nat.strongRecOn generalizing lexer with
  | ind _ ih =>
    intro token member
    rw [tokens] at member
    split at member
    · cases member
    · rename_i notEof
      rcases List.mem_cons.mp member with rfl | later
      · exact next_spelled keywordLookup inside modes
      · have continues := next_continues keywordLookup inside
        have less := next_remaining keywordLookup notEof
        refine ih _ ?_ ?_ ?_ rfl token later
        · omega
        · rw [continues.input]
          exact continues.inside inside
        · rw [continues.modes]
          exact modes

end SqlLexer

end MyLite.Sql
