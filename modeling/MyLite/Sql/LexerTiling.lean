import MyLite.Sql.Lexer

/-! The tokens of a lexer tile its input: whatever the bytes, each call takes a token that is
not empty, until the end is reached. -/
namespace MyLite.Sql

variable {keywordLookup : List UInt8 → Option Keyword}

namespace SqlLexer

/-- A lexer further on in the same input. -/
structure Continues (before after : SqlLexer) : Prop where
  input : after.input = before.input
  modes : after.modes = before.modes
  forward : before.offset ≤ after.offset
  inside : before.offset ≤ before.input.length → after.offset ≤ before.input.length

theorem Continues.refl (lexer : SqlLexer) : Continues lexer lexer :=
  ⟨rfl, rfl, Nat.le_refl _, id⟩

theorem Continues.trans {first second third : SqlLexer} (earlier : Continues first second)
    (later : Continues second third) : Continues first third where
  input := later.input.trans earlier.input
  modes := later.modes.trans earlier.modes
  forward := Nat.le_trans earlier.forward later.forward
  inside bounded := by
    rw [← earlier.input]
    exact later.inside (by rw [earlier.input]; exact earlier.inside bounded)

theorem advanceOne_continues (lexer : SqlLexer) : Continues lexer lexer.advanceOne := by
  unfold advanceOne
  split
  · exact Continues.refl lexer
  · refine ⟨rfl, rfl, Nat.le_succ _, fun _ => ?_⟩
    dsimp only
    omega

theorem advanceOne_offset {lexer : SqlLexer} (inside : lexer.offset < lexer.input.length) :
    lexer.advanceOne.offset = lexer.offset + 1 := by
  rw [advanceOne, if_neg (Nat.not_le.mpr inside)]

theorem advanceTwo_continues (lexer : SqlLexer) : Continues lexer lexer.advanceTwo :=
  (advanceOne_continues lexer).trans (advanceOne_continues _)

theorem advanceToOffset_continues {lexer : SqlLexer} {offset : Nat}
    (forward : lexer.offset ≤ offset) (inside : offset ≤ lexer.input.length) :
    Continues lexer (lexer.advanceToOffsetNoNewline offset) :=
  ⟨rfl, rfl, forward, fun _ => inside⟩

/-- The bytes a lookahead finds. -/
theorem peekAt_ne_zero {lexer : SqlLexer} {lookahead : Nat}
    (present : lexer.peekAt lookahead ≠ 0) :
    lexer.input[lexer.offset + lookahead]? = some (lexer.peekAt lookahead) := by
  unfold peekAt at present ⊢
  rw [List.getD_eq_getElem?_getD] at present ⊢
  cases found : lexer.input[lexer.offset + lookahead]? with
  | none => exact absurd (by rw [found]; rfl) present
  | some byte => rfl

theorem hasAt_of_peekAt {lexer : SqlLexer} {lookahead : Nat}
    (present : lexer.peekAt lookahead ≠ 0) :
    lexer.offset + lookahead < lexer.input.length :=
  (List.getElem?_eq_some_iff.mp (peekAt_ne_zero present)).1

/-! The loops go forward and stay in the input. -/

theorem scanLineCommentBody_continues (lexer : SqlLexer) :
    Continues lexer lexer.scanLineCommentBody := by
  fun_induction scanLineCommentBody lexer with
  | case1 lexer => exact Continues.refl lexer
  | case2 lexer _ _ ih => exact (advanceOne_continues lexer).trans ih
  | case3 lexer => exact Continues.refl lexer

theorem scanInnerBlockCommentRest_continues (lexer : SqlLexer) :
    Continues lexer lexer.scanInnerBlockCommentRest := by
  fun_induction scanInnerBlockCommentRest lexer with
  | case1 lexer => exact advanceTwo_continues lexer
  | case2 lexer _ _ ih => exact (advanceOne_continues lexer).trans ih
  | case3 lexer => exact Continues.refl lexer

theorem scanBlockCommentBody_continues (kind : SqlTokenKind) (lexer : SqlLexer) :
    Continues lexer (scanBlockCommentBody kind lexer).1 := by
  fun_induction scanBlockCommentBody kind lexer with
  | case1 lexer _ _ ih =>
    exact ((advanceTwo_continues lexer).trans (scanInnerBlockCommentRest_continues _)).trans ih
  | case2 lexer => exact advanceTwo_continues lexer
  | case3 lexer _ _ _ ih => exact (advanceOne_continues lexer).trans ih
  | case4 lexer => exact Continues.refl lexer

theorem scanQuotedBody_continues (quote : UInt8) (allowBackslash : Bool) (lexer : SqlLexer) :
    Continues lexer (scanQuotedBody quote allowBackslash lexer).1 := by
  fun_induction scanQuotedBody quote allowBackslash lexer with
  | case1 lexer _ _ _ ih => exact (advanceTwo_continues lexer).trans ih
  | case2 lexer => exact advanceOne_continues lexer
  | case3 lexer _ _ _ ih => exact (advanceTwo_continues lexer).trans ih
  | case4 lexer _ _ _ ih => exact (advanceOne_continues lexer).trans ih
  | case5 lexer => exact Continues.refl lexer

theorem scanQuotedBinaryBody_continues (hex : Bool) (lexer : SqlLexer) (digits : Nat)
    (valid : Bool) : Continues lexer (scanQuotedBinaryBody hex lexer digits valid).1 := by
  fun_induction scanQuotedBinaryBody hex lexer digits valid with
  | case1 lexer => exact advanceOne_continues lexer
  | case2 lexer _ _ _ _ ih => exact (advanceOne_continues lexer).trans ih
  | case3 lexer => exact Continues.refl lexer

theorem scanSystemVariableBody_continues (lexer : SqlLexer) :
    Continues lexer lexer.scanSystemVariableBody.1 := by
  fun_induction scanSystemVariableBody lexer with
  | case1 lexer _ _ ih => exact (advanceOne_continues lexer).trans ih
  | case2 lexer _ _ _ after component ih =>
    have body := scanQuotedBody_continues backtick false lexer.advanceOne
    rw [scanQuotedSystemVariableComponent] at component
    rw [component] at body
    exact ((advanceOne_continues lexer).trans body).trans ih
  | case3 lexer _ _ _ after component =>
    have body := scanQuotedBody_continues backtick false lexer.advanceOne
    rw [scanQuotedSystemVariableComponent] at component
    rw [component] at body
    exact (advanceOne_continues lexer).trans body
  | case4 lexer => exact Continues.refl lexer
  | case5 lexer => exact Continues.refl lexer

/-! Spans of cursors. -/

theorem byteIs_lt {input : List UInt8} {cursor : Nat} {test : UInt8 → Bool}
    (here : byteIs input cursor test = true) : cursor < input.length := by
  unfold byteIs at here
  cases found : input[cursor]? with
  | none =>
    rw [found] at here
    cases here
  | some byte => exact (List.getElem?_eq_some_iff.mp found).1

/-- A cursor that has moved to `after` in the input. -/
def Moves (input : List UInt8) (before after : Nat) : Prop :=
  before ≤ after ∧ (before ≤ input.length → after ≤ input.length)

theorem skipWhile_moves (test : UInt8 → Bool) (input : List UInt8) (cursor : Nat) :
    Moves input cursor (Cursor.skipWhile test input cursor) :=
  ⟨Cursor.le_skipWhile test input cursor, Cursor.skipWhile_le test⟩

theorem Moves.trans {input : List UInt8} {first second third : Nat}
    (earlier : Moves input first second) (later : Moves input second third) :
    Moves input first third :=
  ⟨Nat.le_trans earlier.1 later.1, fun inside => later.2 (earlier.2 inside)⟩

theorem scanExponentSpan_moves {input : List UInt8} {cursor after : Nat}
    (scanned : scanExponentSpan input cursor = some after) : Moves input cursor after := by
  have digits (exponent : Nat) (forward : cursor ≤ exponent)
      (taken : (if byteIs input exponent isDigit then some (skipDigits input (exponent + 1))
        else none) = some after) : Moves input cursor after := by
    split at taken
    · rename_i digit
      have inside := byteIs_lt digit
      have moves := skipWhile_moves isDigit input (exponent + 1)
      cases taken
      exact ⟨by have := moves.1; unfold skipDigits; omega, fun _ => moves.2 inside⟩
    · cases taken
  unfold scanExponentSpan at scanned
  split at scanned
  · cases scanned
  · dsimp only at scanned
    by_cases signed : byteIs input (cursor + 1) isSign = true
    · rw [if_pos signed] at scanned
      exact digits (cursor + 2) (by omega) scanned
    · rw [if_neg signed] at scanned
      exact digits (cursor + 1) (by omega) scanned

theorem scanNumberSpan_moves {input : List UInt8} {offset cursor : Nat} {sawDot sawExponent : Bool}
    (scanned : scanNumberSpan input offset = some (cursor, sawDot, sawExponent)) :
    Moves input (skipDigits input offset) cursor := by
  unfold scanNumberSpan at scanned
  dsimp only at scanned
  split at scanned
  · obtain ⟨after, exponent, same⟩ := Option.map_eq_some_iff.mp scanned
    cases same
    exact scanExponentSpan_moves exponent
  · have fraction : Moves input (skipDigits input offset)
        (if byteIs input (skipDigits input offset) (· = ascii '.') then
          skipDigits input (skipDigits input offset + 1) else skipDigits input offset) := by
      split
      · rename_i dot
        have inside := byteIs_lt dot
        have moves := skipWhile_moves isDigit input (skipDigits input offset + 1)
        exact ⟨Nat.le_of_succ_le moves.1, fun _ => moves.2 inside⟩
      · exact ⟨Nat.le_refl _, id⟩
    generalize (if byteIs input (skipDigits input offset) (· = ascii '.') then
      skipDigits input (skipDigits input offset + 1) else skipDigits input offset) = stop
      at fraction scanned
    split at scanned
    · rename_i exponent
      cases scanned
      exact fraction.trans (scanExponentSpan_moves exponent)
    · split at scanned
      · cases scanned
      · cases scanned
        exact fraction

/-! Tokens. -/

/-- A scanner has taken a token that begins at `start`. -/
structure Takes (start : TokenStart) (lexer : SqlLexer) (result : SqlToken × SqlLexer) :
    Prop where
  continues : Continues lexer result.2
  kind : result.1.kind ≠ .eof
  offset : result.1.offset = start.offset
  length : start.offset + result.1.length = result.2.offset
  nonempty : start.offset < result.2.offset
  text : result.1.text = lexer.input.extract start.offset result.2.offset
  sourceLength : result.1.sourceLength = lexer.input.length

theorem takes_setToken {start : TokenStart} {lexer after : SqlLexer} {kind : SqlTokenKind}
    (continues : Continues lexer after) (nonempty : start.offset < after.offset)
    (notEof : kind ≠ .eof) : Takes start lexer (after.setToken kind start, after) where
  continues := continues
  kind := notEof
  offset := rfl
  length := Nat.add_sub_cancel' (Nat.le_of_lt nonempty)
  nonempty := nonempty
  text := by rw [← continues.input]; rfl
  sourceLength := congrArg List.length continues.input

theorem takes_setErrorToken {start : TokenStart} {lexer after : SqlLexer} (error : SqlLexerError)
    (continues : Continues lexer after) (nonempty : start.offset < after.offset) :
    Takes start lexer (after.setErrorToken error start, after) :=
  { takes_setToken continues nonempty (by decide : SqlTokenKind.error ≠ .eof) with }

/-- A scanner that starts further on. -/
theorem Takes.earlier {start : TokenStart} {lexer middle : SqlLexer}
    {result : SqlToken × SqlLexer} (continues : Continues lexer middle)
    (takes : Takes start middle result) : Takes start lexer result :=
  { takes with
    continues := continues.trans takes.continues
    text := by rw [takes.text, continues.input]
    sourceLength := by rw [takes.sourceLength, continues.input] }

/-! Each scanner takes a token from a byte that is there. -/

theorem scanQuoted_takes {start : TokenStart} {lexer : SqlLexer} (quote : UInt8)
    (allowBackslash : Bool) {kind : SqlTokenKind} (unterminated : SqlLexerError)
    (inside : lexer.offset < lexer.input.length) (started : start.offset ≤ lexer.offset)
    (notEof : kind ≠ .eof) :
    Takes start lexer (lexer.scanQuoted start quote allowBackslash kind unterminated) := by
  have body := scanQuotedBody_continues quote allowBackslash lexer.advanceOne
  have forward := body.forward
  rw [advanceOne_offset inside] at forward
  unfold scanQuoted
  split
  · rename_i after closed
    rw [closed] at body forward
    exact takes_setToken ((advanceOne_continues lexer).trans body)
      (Nat.lt_of_le_of_lt started forward) notEof
  · rename_i after unclosed
    rw [unclosed] at body forward
    exact takes_setErrorToken unterminated ((advanceOne_continues lexer).trans body)
      (Nat.lt_of_le_of_lt started forward)

theorem scanQuotedHexOrBitLiteral_takes {start : TokenStart} {lexer : SqlLexer}
    {kind : SqlTokenKind} (hex : Bool) (inside : lexer.offset < lexer.input.length)
    (started : start.offset ≤ lexer.offset) (notEof : kind ≠ .eof) :
    Takes start lexer (lexer.scanQuotedHexOrBitLiteral start kind hex) := by
  have body := scanQuotedBinaryBody_continues hex lexer.advanceOne 0 true
  have forward := body.forward
  rw [advanceOne_offset inside] at forward
  unfold scanQuotedHexOrBitLiteral
  split
  · rename_i after closed
    rw [closed] at body forward
    exact takes_setToken ((advanceOne_continues lexer).trans body)
      (Nat.lt_of_le_of_lt started forward) notEof
  · rename_i after unclosed
    rw [unclosed] at body forward
    exact takes_setErrorToken _ ((advanceOne_continues lexer).trans body)
      (Nat.lt_of_le_of_lt started forward)

theorem startsComment_inside {lexer : SqlLexer} (starts : lexer.startsComment = true) :
    lexer.offset < lexer.input.length := by
  have first : lexer.peekAt 0 ≠ 0 := by
    intro zero
    rw [startsComment, zero] at starts
    revert starts
    simp [ascii]
  exact hasAt_of_peekAt first

theorem scanLineCommentBody_forward {lexer : SqlLexer} (line : lexer.startsLineComment = true)
    (inside : lexer.offset < lexer.input.length) :
    lexer.offset < lexer.scanLineCommentBody.offset := by
  have notNewline : ¬(lexer.peekAt 0 = 0x0a ∨ lexer.peekAt 0 = 0x0d) := by
    rintro (newline | newline)
    all_goals
      rw [startsLineComment, newline] at line
      revert line
      simp [ascii]
  rw [scanLineCommentBody, if_pos inside, if_neg notNewline]
  have forward := (scanLineCommentBody_continues lexer.advanceOne).forward
  rw [advanceOne_offset inside] at forward
  exact forward

theorem blockCommentTokenKind_ne_eof (lexer : SqlLexer) : lexer.blockCommentTokenKind ≠ .eof := by
  unfold blockCommentTokenKind
  split
  · decide
  · split <;> decide

theorem scanComment_takes {lexer : SqlLexer} (hasLeadingSpace : Bool)
    (starts : lexer.startsComment = true) :
    Takes (lexer.makeTokenStart hasLeadingSpace) lexer (lexer.scanComment hasLeadingSpace) := by
  have inside := startsComment_inside starts
  unfold scanComment
  dsimp only
  split
  · rename_i line
    exact takes_setToken (scanLineCommentBody_continues lexer)
      (scanLineCommentBody_forward line inside) (by decide)
  · have body := scanBlockCommentBody_continues lexer.blockCommentTokenKind lexer.advanceTwo
    have continues := (advanceTwo_continues lexer).trans body
    have forward := ((advanceOne_continues lexer.advanceOne).trans body).forward
    rw [advanceOne_offset inside] at forward
    split
    · rename_i after terminated
      rw [terminated] at continues forward
      exact takes_setToken continues forward (blockCommentTokenKind_ne_eof lexer)
    · rename_i after unterminated
      rw [unterminated] at continues forward
      exact takes_setErrorToken _ continues forward

theorem takes_advanceTo {start : TokenStart} {lexer : SqlLexer} {offset : Nat}
    {kind : SqlTokenKind} (started : start.offset ≤ lexer.offset) (forward : lexer.offset < offset)
    (inside : offset ≤ lexer.input.length) (notEof : kind ≠ .eof) :
    Takes start lexer ((lexer.advanceToOffsetNoNewline offset).setToken kind start,
      lexer.advanceToOffsetNoNewline offset) :=
  takes_setToken (advanceToOffset_continues (Nat.le_of_lt forward) inside)
    (Nat.lt_of_le_of_lt started forward) notEof

theorem peekAt_here {lexer : SqlLexer} (inside : lexer.offset < lexer.input.length) :
    lexer.input[lexer.offset]? = some (lexer.peekAt 0) := by
  rw [peekAt, Nat.add_zero, List.getD_eq_getElem?_getD, List.getElem?_eq_getElem inside]
  rfl

theorem skipWhile_forward {lexer : SqlLexer} {test : UInt8 → Bool}
    (inside : lexer.offset < lexer.input.length) (accepted : test (lexer.peekAt 0) = true) :
    lexer.offset < Cursor.skipWhile test lexer.input lexer.offset :=
  Cursor.lt_skipWhile (peekAt_here inside) accepted

theorem scanDigitLeadingIdentifier_takes {lexer : SqlLexer} (hasLeadingSpace : Bool)
    (inside : lexer.offset < lexer.input.length) (digit : isDigit (lexer.peekAt 0) = true) :
    Takes (lexer.makeTokenStart hasLeadingSpace) lexer
      (lexer.scanDigitLeadingIdentifier hasLeadingSpace) := by
  have part : isIdentifierPart (lexer.peekAt 0) = true := by
    rw [isIdentifierPart, digit, Bool.or_true]
  exact takes_advanceTo (Nat.le_refl _) (skipWhile_forward inside part)
    (Cursor.skipWhile_le _ (Nat.le_of_lt inside)) (by decide)

theorem scanPrefixedHexOrBitLiteral_takes {lexer : SqlLexer} (hasLeadingSpace : Bool)
    {kind : SqlTokenKind} (hex : Bool) (long : lexer.offset + 2 < lexer.input.length)
    (digit : isDigit (lexer.peekAt 0) = true) (notEof : kind ≠ .eof) :
    Takes (lexer.makeTokenStart hasLeadingSpace) lexer
      (lexer.scanPrefixedHexOrBitLiteral (lexer.makeTokenStart hasLeadingSpace) kind hex) := by
  have moves := skipWhile_moves (isBinaryLiteralDigit · hex) lexer.input (lexer.offset + 2)
  unfold scanPrefixedHexOrBitLiteral
  dsimp only
  split
  · exact scanDigitLeadingIdentifier_takes hasLeadingSpace (by omega) digit
  · exact takes_advanceTo (Nat.le_refl _) (by have := moves.1; omega)
      (moves.2 (Nat.le_of_lt long)) notEof

theorem scanDigitLeadingToken_takes {lexer : SqlLexer} (hasLeadingSpace : Bool)
    (inside : lexer.offset < lexer.input.length) (digit : isDigit (lexer.peekAt 0) = true) :
    Takes (lexer.makeTokenStart hasLeadingSpace) lexer
      (lexer.scanDigitLeadingToken hasLeadingSpace) := by
  unfold scanDigitLeadingToken
  dsimp only
  split
  · rename_i hexadecimal
    exact scanPrefixedHexOrBitLiteral_takes hasLeadingSpace true
      (byteIs_lt (Bool.and_eq_true_iff.mp hexadecimal).2) digit (by decide)
  · split
    · rename_i binary
      exact scanPrefixedHexOrBitLiteral_takes hasLeadingSpace false
        (byteIs_lt (Bool.and_eq_true_iff.mp binary).2) digit (by decide)
    · split
      · exact scanDigitLeadingIdentifier_takes hasLeadingSpace inside digit
      · rename_i cursor sawDot sawExponent scanned
        have digits : lexer.offset < skipDigits lexer.input lexer.offset :=
          skipWhile_forward inside digit
        have moves := scanNumberSpan_moves scanned
        refine takes_advanceTo (Nat.le_refl _) (Nat.lt_of_lt_of_le digits moves.1)
          (moves.2 (Cursor.skipWhile_le _ (Nat.le_of_lt inside))) ?_
        cases sawExponent <;> cases sawDot <;> decide

theorem takes_advanceOne {lexer : SqlLexer} (hasLeadingSpace : Bool)
    {kind : SqlTokenKind} (inside : lexer.offset < lexer.input.length) (notEof : kind ≠ .eof) :
    Takes (lexer.makeTokenStart hasLeadingSpace) lexer
      (lexer.advanceOne.setToken kind (lexer.makeTokenStart hasLeadingSpace),
        lexer.advanceOne) := by
  refine takes_setToken (advanceOne_continues lexer) ?_ notEof
  rw [advanceOne_offset inside]
  exact Nat.lt_succ_self _

theorem scanDotOrNumber_takes {lexer : SqlLexer} (hasLeadingSpace : Bool)
    (inside : lexer.offset < lexer.input.length) :
    Takes (lexer.makeTokenStart hasLeadingSpace) lexer
      (lexer.scanDotOrNumber hasLeadingSpace) := by
  have digits := skipWhile_moves isDigit lexer.input (lexer.offset + 1)
  unfold scanDotOrNumber
  dsimp only
  split
  · exact takes_advanceOne hasLeadingSpace inside (by decide)
  · split
    · rename_i cursor scanned
      have moves := digits.trans (scanExponentSpan_moves scanned)
      exact takes_advanceTo (Nat.le_refl _) moves.1 (moves.2 inside) (by decide)
    · exact takes_advanceTo (Nat.le_refl _) digits.1 (digits.2 inside) (by decide)

theorem scanUnquotedIdentifier_takes {lexer : SqlLexer} (hasLeadingSpace : Bool)
    (inside : lexer.offset < lexer.input.length)
    (starts : isIdentifierStart (lexer.peekAt 0) = true) :
    Takes (lexer.makeTokenStart hasLeadingSpace) lexer
      (lexer.scanUnquotedIdentifier keywordLookup hasLeadingSpace) := by
  have part : isIdentifierPart (lexer.peekAt 0) = true := by
    rw [isIdentifierPart, starts, Bool.true_or]
  have takes {kind : SqlTokenKind} (notEof : kind ≠ .eof) :
      Takes (lexer.makeTokenStart hasLeadingSpace) lexer
        ((lexer.advanceToOffsetNoNewline (skipIdentifierParts lexer.input lexer.offset)).setToken
          kind (lexer.makeTokenStart hasLeadingSpace),
          lexer.advanceToOffsetNoNewline (skipIdentifierParts lexer.input lexer.offset)) :=
    takes_advanceTo (Nat.le_refl _) (skipWhile_forward inside part)
      (Cursor.skipWhile_le _ (Nat.le_of_lt inside)) notEof
  unfold scanUnquotedIdentifier
  dsimp only
  split
  · exact takes (by decide)
  · split
    · exact takes (by decide)
    · split
      · exact { takes (by decide : SqlTokenKind.keyword ≠ .eof) with }
      · exact takes (by decide)

theorem scanWord_takes {lexer : SqlLexer} (hasLeadingSpace : Bool)
    (inside : lexer.offset < lexer.input.length)
    (starts : isIdentifierStart (lexer.peekAt 0) = true) :
    Takes (lexer.makeTokenStart hasLeadingSpace) lexer
      (lexer.scanWord keywordLookup hasLeadingSpace) := by
  -- After the letter of a prefixed literal the lexer is still in front of its quote.
  have quoted (next : lexer.peekAt 1 = singleQuote) :
      lexer.advanceOne.offset < lexer.advanceOne.input.length := by
    have present : lexer.peekAt 1 ≠ 0 := by
      rw [next]
      decide
    rw [advanceOne_offset inside, (advanceOne_continues lexer).input]
    exact hasAt_of_peekAt present
  have started : lexer.offset ≤ lexer.advanceOne.offset := (advanceOne_continues lexer).forward
  unfold scanWord
  dsimp only
  split
  · rename_i national
    exact (scanQuoted_takes _ _ _ (quoted national.2) started (by decide)).earlier
      (advanceOne_continues lexer)
  · split
    · rename_i hexadecimal
      exact (scanQuotedHexOrBitLiteral_takes _ (quoted hexadecimal.2) started
        (by decide)).earlier (advanceOne_continues lexer)
    · split
      · rename_i binary
        exact (scanQuotedHexOrBitLiteral_takes _ (quoted binary.2) started
          (by decide)).earlier (advanceOne_continues lexer)
      · exact scanUnquotedIdentifier_takes hasLeadingSpace inside starts

theorem scanSystemVariable_takes {start : TokenStart} {lexer : SqlLexer}
    (started : start.offset < lexer.offset) :
    Takes start lexer (lexer.scanSystemVariable start) := by
  have body := scanSystemVariableBody_continues lexer
  have forward := Nat.lt_of_lt_of_le started body.forward
  unfold scanSystemVariable
  dsimp only
  split
  · exact takes_setErrorToken _ (Continues.refl lexer) started
  · split
    · rename_i after closed
      rw [closed] at body forward
      exact takes_setToken body forward (by decide)
    · rename_i after unclosed
      rw [unclosed] at body forward
      exact takes_setErrorToken _ body forward

theorem scanVariable_takes {lexer : SqlLexer} (hasLeadingSpace : Bool)
    (inside : lexer.offset < lexer.input.length) :
    Takes (lexer.makeTokenStart hasLeadingSpace) lexer
      (lexer.scanVariable hasLeadingSpace) := by
  have name := advanceOne_continues lexer
  have started : lexer.offset < lexer.advanceOne.offset := by
    rw [advanceOne_offset inside]
    exact Nat.lt_succ_self _
  have bounded : lexer.advanceOne.offset ≤ lexer.advanceOne.input.length := by
    rw [name.input]
    exact name.inside (Nat.le_of_lt inside)
  unfold scanVariable
  dsimp only
  split
  · have continues := advanceOne_continues lexer.advanceOne
    exact (scanSystemVariable_takes (Nat.lt_of_lt_of_le started continues.forward)).earlier
      (name.trans continues)
  · split
    · rename_i quote
      have present : lexer.advanceOne.peekAt 0 ≠ 0 := by
        rcases quote with quote | quote | quote <;> rw [quote] <;> decide
      exact (scanQuoted_takes _ _ _ (hasAt_of_peekAt present) (Nat.le_of_lt started)
        (by decide)).earlier name
    · split
      · exact takes_setToken name started (by decide)
      · have moves := skipWhile_moves isUserVariablePart lexer.advanceOne.input
          lexer.advanceOne.offset
        exact takes_setToken
          (name.trans (advanceToOffset_continues moves.1 (moves.2 bounded)))
          (Nat.lt_of_lt_of_le started moves.1) (by decide)

/-- An operator is no longer than the bytes that make it. -/
def FitsBytes (second third : UInt8) (operatorMatch : SqlOperatorKind × Nat) : Prop :=
  operatorMatch.1 ≠ .none →
    operatorMatch.2 = 1 ∨ (operatorMatch.2 = 2 ∧ second ≠ 0) ∨
      (operatorMatch.2 = 3 ∧ third ≠ 0)

theorem fitsBytes_one (second third : UInt8) (kind : SqlOperatorKind) :
    FitsBytes second third (kind, 1) :=
  fun _ => .inl rfl

theorem fitsBytes_two {second : UInt8} (third : UInt8) (kind : SqlOperatorKind)
    (present : second ≠ 0) : FitsBytes second third (kind, 2) :=
  fun _ => .inr (.inl ⟨rfl, present⟩)

theorem fitsBytes_three (second : UInt8) {third : UInt8} (kind : SqlOperatorKind)
    (present : third ≠ 0) : FitsBytes second third (kind, 3) :=
  fun _ => .inr (.inr ⟨rfl, present⟩)

theorem fitsBytes_second {second third byte : UInt8} {longer shorter : SqlOperatorKind}
    (present : byte ≠ 0) :
    FitsBytes second third (if second = byte then (longer, 2) else (shorter, 1)) := by
  split
  · rename_i same
    exact fitsBytes_two third longer (same ▸ present)
  · exact fitsBytes_one second third shorter

theorem classifyMinusOperator_fits (second third : UInt8) :
    FitsBytes second third (classifyMinusOperator second third) := by
  unfold classifyMinusOperator
  split
  · exact fitsBytes_one _ _ _
  · rename_i arrow
    rw [not_not] at arrow
    split
    · rename_i longer
      exact fitsBytes_three _ _ (by rw [longer]; decide)
    · exact fitsBytes_two _ _ (by rw [arrow]; decide)

theorem classifyLessOperator_fits (second third : UInt8) :
    FitsBytes second third (classifyLessOperator second third) := by
  unfold classifyLessOperator
  split
  · rename_i longer
    exact fitsBytes_three _ _ (by rw [longer.2]; decide)
  · split
    · rename_i shift
      exact fitsBytes_two _ _ (by rw [shift]; decide)
    · split
      · rename_i equal
        exact fitsBytes_two _ _ (by rw [equal]; decide)
      · exact fitsBytes_second (by decide)

theorem classifyGreaterOperator_fits (second third : UInt8) :
    FitsBytes second third (classifyGreaterOperator second) := by
  unfold classifyGreaterOperator
  split
  · rename_i shift
    exact fitsBytes_two _ _ (by rw [shift]; decide)
  · exact fitsBytes_second (by decide)

theorem classifyColonOperator_fits (second third : UInt8) :
    FitsBytes second third (classifyColonOperator second) := by
  unfold classifyColonOperator
  split
  · rename_i equal
    exact fitsBytes_two _ _ (by rw [equal]; decide)
  · exact fun present => absurd rfl present

theorem fitsBytes_if {second third : UInt8} {condition : Prop} [Decidable condition]
    {here later : SqlOperatorKind × Nat} (hereFits : FitsBytes second third here)
    (laterFits : FitsBytes second third later) :
    FitsBytes second third (if condition then here else later) := by
  split
  · exact hereFits
  · exact laterFits

theorem classifyOperator_fits (first second third : UInt8) :
    FitsBytes second third (classifyOperator first second third) := by
  unfold classifyOperator
  refine fitsBytes_if (classifyMinusOperator_fits second third) ?_
  refine fitsBytes_if (classifyLessOperator_fits second third) ?_
  refine fitsBytes_if (classifyGreaterOperator_fits second third) ?_
  refine fitsBytes_if (fitsBytes_second (by decide)) ?_
  refine fitsBytes_if (fitsBytes_second (by decide)) ?_
  refine fitsBytes_if (fitsBytes_second (by decide)) ?_
  refine fitsBytes_if (classifyColonOperator_fits second third) ?_
  refine fitsBytes_if (fitsBytes_one _ _ _) ?_
  refine fitsBytes_if (fitsBytes_one _ _ _) ?_
  refine fitsBytes_if (fitsBytes_one _ _ _) ?_
  refine fitsBytes_if (fitsBytes_one _ _ _) ?_
  refine fitsBytes_if (fitsBytes_one _ _ _) ?_
  refine fitsBytes_if (fitsBytes_one _ _ _) ?_
  refine fitsBytes_if (fitsBytes_one _ _ _) ?_
  exact fun present => absurd rfl present

theorem scanOperatorOrPunctuation_takes {lexer : SqlLexer} (hasLeadingSpace : Bool)
    {result : SqlToken × SqlLexer} (inside : lexer.offset < lexer.input.length)
    (scanned : lexer.scanOperatorOrPunctuation hasLeadingSpace = some result) :
    Takes (lexer.makeTokenStart hasLeadingSpace) lexer result := by
  unfold scanOperatorOrPunctuation at scanned
  dsimp only at scanned
  split at scanned
  · rename_i operator
    cases scanned
    have within : 0 < (classifyOperator (lexer.peekAt 0) (lexer.peekAt 1) (lexer.peekAt 2)).2 ∧
        lexer.offset + (classifyOperator (lexer.peekAt 0) (lexer.peekAt 1) (lexer.peekAt 2)).2 ≤
          lexer.input.length := by
      rcases classifyOperator_fits _ _ _ operator with one | ⟨two, present⟩ | ⟨three, present⟩
      · omega
      · have := hasAt_of_peekAt present
        omega
      · have := hasAt_of_peekAt present
        omega
    exact { takes_advanceTo (Nat.le_refl _) (Nat.lt_add_of_pos_right within.1) within.2
      (by decide : SqlTokenKind.operator ≠ .eof) with }
  · split at scanned
    · cases scanned
      exact takes_advanceTo (Nat.le_refl _) (Nat.lt_succ_self _) inside (by decide)
    · cases scanned

theorem scanToken_takes {lexer : SqlLexer} (hasLeadingSpace : Bool)
    (inside : lexer.offset < lexer.input.length) :
    Takes (lexer.makeTokenStart hasLeadingSpace) lexer
      (lexer.scanToken keywordLookup hasLeadingSpace) := by
  unfold scanToken
  dsimp only
  split
  · rename_i comment
    exact scanComment_takes hasLeadingSpace comment
  split
  · exact scanQuoted_takes _ _ _ inside (Nat.le_refl _) (by decide)
  split
  · split
    · exact scanQuoted_takes _ _ _ inside (Nat.le_refl _) (by decide)
    · exact scanQuoted_takes _ _ _ inside (Nat.le_refl _) (by decide)
  split
  · rename_i starts
    exact scanWord_takes hasLeadingSpace inside starts
  split
  · rename_i digit
    exact scanDigitLeadingToken_takes hasLeadingSpace inside digit
  split
  · exact scanDotOrNumber_takes hasLeadingSpace inside
  split
  · exact scanVariable_takes hasLeadingSpace inside
  split
  · exact takes_advanceOne hasLeadingSpace inside (by decide)
  split
  · rename_i scanned
    exact scanOperatorOrPunctuation_takes hasLeadingSpace inside scanned
  · refine takes_setErrorToken _ (advanceOne_continues lexer) ?_
    rw [advanceOne_offset inside]
    exact Nat.lt_succ_self _

/-! Calls. -/

theorem consumeWhitespace_snd {lexer : SqlLexer} (inside : lexer.offset ≤ lexer.input.length) :
    lexer.consumeWhitespace.2 =
      { lexer with offset := Cursor.skipWhile isSpace lexer.input lexer.offset } := by
  have moves := skipWhile_moves isSpace lexer.input lexer.offset
  unfold consumeWhitespace
  split
  · rename_i atEnd
    have same : Cursor.skipWhile isSpace lexer.input lexer.offset = lexer.offset :=
      Nat.le_antisymm (Nat.le_trans (moves.2 inside) atEnd) moves.1
    rw [same]
  · dsimp only
    split
    · rename_i same
      rw [same]
    · rfl

/-- One call skips whitespace and takes a token, or the end of the input. -/
theorem next_cases (keywordLookup : List UInt8 → Option Keyword) {lexer : SqlLexer}
    (inside : lexer.offset ≤ lexer.input.length) :
    (Cursor.skipWhile isSpace lexer.input lexer.offset = lexer.input.length ∧
      (lexer.next keywordLookup).1.kind = .eof ∧
      (lexer.next keywordLookup).1.offset = lexer.input.length ∧
      (lexer.next keywordLookup).1.length = 0 ∧
      (lexer.next keywordLookup).1.sourceLength = lexer.input.length) ∨
    ∃ start, start.offset = Cursor.skipWhile isSpace lexer.input lexer.offset ∧
      Takes start lexer (lexer.next keywordLookup) := by
  have after := consumeWhitespace_snd inside
  have moves := skipWhile_moves isSpace lexer.input lexer.offset
  generalize skipped : lexer.consumeWhitespace = consumed at after
  obtain ⟨hasLeadingSpace, middle⟩ := consumed
  dsimp only at after
  subst after
  unfold next
  rw [skipped]
  dsimp only
  split
  · rename_i atEnd
    have reached := Nat.le_antisymm (moves.2 inside) atEnd
    exact .inl ⟨reached, rfl, reached, Nat.sub_self _, rfl⟩
  · rename_i notEnd
    refine .inr ⟨_, rfl, (scanToken_takes hasLeadingSpace (Nat.lt_of_not_le notEnd)).earlier ?_⟩
    exact ⟨rfl, rfl, moves.1, moves.2⟩

theorem next_continues (keywordLookup : List UInt8 → Option Keyword) {lexer : SqlLexer}
    (inside : lexer.offset ≤ lexer.input.length) :
    Continues lexer (lexer.next keywordLookup).2 := by
  have after := consumeWhitespace_snd inside
  have moves := skipWhile_moves isSpace lexer.input lexer.offset
  unfold next
  generalize lexer.consumeWhitespace = consumed at after
  obtain ⟨hasLeadingSpace, middle⟩ := consumed
  dsimp only at after
  subst after
  have skipped : Continues lexer
      { lexer with offset := Cursor.skipWhile isSpace lexer.input lexer.offset } :=
    ⟨rfl, rfl, moves.1, moves.2⟩
  dsimp only
  split
  · exact skipped
  · rename_i notEnd
    exact skipped.trans (scanToken_takes hasLeadingSpace (Nat.lt_of_not_le notEnd)).continues

end SqlLexer

def SqlToken.piece (token : SqlToken) : Cursor.Piece UInt8 :=
  ⟨token.offset, token.length, token.text⟩

/-- The tokens that so many calls of `mylite_sql_lexer_next` give. -/
def SqlLexer.calls (keywordLookup : List UInt8 → Option Keyword) : Nat → SqlLexer → List SqlToken
  | 0, _ => []
  | count + 1, lexer =>
    (lexer.next keywordLookup).1 ::
      SqlLexer.calls keywordLookup count (lexer.next keywordLookup).2

/-- The calls from a lexer end with the end of the input and tile what it had in front. -/
theorem SqlLexer.calls_tile {lexer : SqlLexer} (inside : lexer.offset ≤ lexer.input.length) :
    ∃ tokens eof, SqlLexer.calls keywordLookup (tokens.length + 1) lexer = tokens ++ [eof] ∧
      tokens.length ≤ lexer.remaining ∧
      eof.kind = .eof ∧ eof.offset = lexer.input.length ∧ eof.length = 0 ∧
      (∀ token ∈ tokens, token.kind ≠ .eof) ∧
      Cursor.Tiles isSpace lexer.input lexer.offset (tokens.map SqlToken.piece) := by
  induction bound : lexer.remaining using Nat.strongRecOn generalizing lexer with
  | ind _ ih =>
    have skipped := Cursor.extract_skipWhile isSpace lexer.input lexer.offset
    rcases SqlLexer.next_cases keywordLookup inside with
      ⟨reached, kind, offset, length, _⟩ | ⟨start, gap, takes⟩
    · refine ⟨[], (lexer.next keywordLookup).1, rfl, Nat.zero_le _, kind, offset, length,
        fun _ member => absurd member List.not_mem_nil, ?_⟩
      intro symbol member
      rw [reached, List.extract_eq_take_drop, List.take_of_length_le
        (by rw [List.length_drop])] at skipped
      rw [skipped] at member
      exact List.mem_takeWhile_imp member
    · have after := takes.continues
      have forward : lexer.offset < (lexer.next keywordLookup).2.offset :=
        Nat.lt_of_le_of_lt (gap ▸ Cursor.le_skipWhile isSpace lexer.input lexer.offset)
          takes.nonempty
      have stop := after.inside inside
      have less : (lexer.next keywordLookup).2.remaining < lexer.remaining := by
        unfold SqlLexer.remaining
        rw [after.input]
        omega
      obtain ⟨tokens, eof, calls, few, kind, offset, length, kinds, tiles⟩ :=
        ih _ (bound ▸ less) (by rw [after.input]; exact stop) rfl
      rw [after.input] at offset tiles
      refine ⟨(lexer.next keywordLookup).1 :: tokens, eof, ?_, ?_, kind, offset, length, ?_, ?_⟩
      · rw [List.length_cons, SqlLexer.calls, calls, List.cons_append]
      · rw [List.length_cons]
        omega
      · intro token member
        rcases List.mem_cons.mp member with rfl | later
        · exact takes.kind
        · exact kinds token later
      · have taken : (lexer.next keywordLookup).1.offset + (lexer.next keywordLookup).1.length =
            (lexer.next keywordLookup).2.offset := by
          rw [takes.offset, takes.length]
        refine ⟨?_, ?_, ?_, ?_, ?_, ?_⟩
        · rw [SqlToken.piece, takes.offset, gap]
          exact Cursor.le_skipWhile isSpace lexer.input lexer.offset
        · have := takes.length
          have := takes.nonempty
          change 0 < (lexer.next keywordLookup).1.length
          omega
        · exact taken ▸ stop
        · change (lexer.next keywordLookup).1.text = _
          rw [takes.text, SqlToken.piece, taken, takes.offset]
        · intro symbol member
          rw [SqlToken.piece, takes.offset, gap, skipped] at member
          exact List.mem_takeWhile_imp member
        · change Cursor.Tiles isSpace lexer.input
            ((lexer.next keywordLookup).1.offset + (lexer.next keywordLookup).1.length) _
          rw [taken]
          exact tiles

/-- Whatever the bytes and the modes, calling the lexer reaches the end of the input; the tokens
before it lie in order in the input with only whitespace between them, and what is skipped and
the texts of the tokens are the input. -/
theorem tokens_tile_input (keywordLookup : List UInt8 → Option Keyword) (input : List UInt8)
    (modes : SqlModes) :
    ∃ tokens eof,
      SqlLexer.calls keywordLookup (tokens.length + 1) (SqlLexer.init input modes) =
        tokens ++ [eof] ∧
      tokens.length ≤ input.length ∧
      eof.kind = .eof ∧ eof.offset = input.length ∧ eof.length = 0 ∧
      (∀ token ∈ tokens, token.kind ≠ .eof) ∧
      Cursor.Tiles isSpace input 0 (tokens.map SqlToken.piece) ∧
      Cursor.reassemble input 0 (tokens.map SqlToken.piece) = input := by
  have inside : (SqlLexer.init input modes).offset ≤ (SqlLexer.init input modes).input.length :=
    Nat.zero_le _
  obtain ⟨tokens, eof, calls, few, kind, offset, length, kinds, tiles⟩ :=
    SqlLexer.calls_tile inside
  exact ⟨tokens, eof, calls, few, kind, offset, length, kinds, tiles, tiles.reassemble_eq⟩

end MyLite.Sql
