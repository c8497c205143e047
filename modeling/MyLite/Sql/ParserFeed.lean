import MyLite.Sql.LexerTiling

/-! The lexers the parser is fed from: that of the statement and, on a stack above it, those of
the bodies of active version comments. -/
namespace MyLite.Sql

/-- `struct mylite_sql_version_comment_payload`; the payload begins `offset` bytes into its
comment. -/
structure VersionCommentPayload where
  text : List UInt8
  offset : Nat
  active : Bool
  deriving DecidableEq, Repr

def mysqlVersionCommentGate : Nat := 80409

/-- The version of a comment from its digits. It stops growing above the gate. -/
def versionCommentVersion : Nat → List UInt8 → Nat
  | version, [] => version
  | version, digit :: digits =>
    if version ≤ mysqlVersionCommentGate then
      versionCommentVersion (version * 10 + (digit.toNat - 0x30)) digits
    else versionCommentVersion version digits

/-- `mylite_sql_version_comment_parse`. -/
def versionCommentParse (text : List UInt8) : Option VersionCommentPayload :=
  if text.length < 5 ∨ text.take 3 ≠ [ascii '/', ascii '*', ascii '!'] ∨
      text.drop (text.length - 2) ≠ [ascii '*', ascii '/'] then none
  else
    let body := text.extract 3 (text.length - 2)
    let digits := body.takeWhile isDigit
    some {
      text := body.drop digits.length
      offset := 3 + digits.length
      active := digits = [] || versionCommentVersion 0 digits ≤ mysqlVersionCommentGate }

inductive ParseStatus where
  | lexerError
  | syntaxError
  deriving DecidableEq, Repr

def tokenIsComment (kind : SqlTokenKind) : Bool :=
  kind = .comment || kind = .versionComment || kind = .hintComment

/-- A lexer of the stack, and where its input begins in the statement. -/
structure StackedLexer where
  lexer : SqlLexer
  base : Nat

/-- `rebase_token_to_root_input`. -/
def rebaseTokenToRootInput (token : SqlToken) (base rootLength : Nat) : Option SqlToken :=
  if base + token.offset > rootLength ∨ token.length > rootLength - (base + token.offset) then none
  else some { token with offset := base + token.offset, sourceLength := rootLength }

def versionCommentLexerStackLimit : Nat := 16

/-- `mylite_sql_parser_push_version_comment_payload_lexer`; the innermost lexer comes first. -/
def pushVersionCommentPayloadLexer (token : SqlToken) (modes : SqlModes)
    (stack : List StackedLexer) : Except ParseStatus (List StackedLexer) :=
  match versionCommentParse token.text with
  | none => .error .syntaxError
  | some payload =>
    if !payload.active || payload.text = [] then .ok stack
    else if stack.length ≥ versionCommentLexerStackLimit then .error .syntaxError
    else .ok (⟨SqlLexer.init payload.text modes, token.offset + payload.offset⟩ :: stack)

/-! Each token leaves less to read. -/

/-- A bound on the turns that are left. -/
def stackRemaining : List StackedLexer → Nat
  | [] => 0
  | current :: below => current.lexer.remaining + 1 + stackRemaining below

theorem SqlLexer.next_remaining (keywordLookup : List UInt8 → Option Keyword) {lexer : SqlLexer}
    (notEof : (lexer.next keywordLookup).1.kind ≠ .eof) :
    0 < (lexer.next keywordLookup).1.text.length ∧
      (lexer.next keywordLookup).2.remaining + (lexer.next keywordLookup).1.text.length ≤
        lexer.remaining := by
  have inside : lexer.offset ≤ lexer.input.length := by
    apply Nat.le_of_not_lt
    intro outside
    apply notEof
    have stays : lexer.consumeWhitespace = (false, lexer) := by
      rw [SqlLexer.consumeWhitespace, if_pos (Nat.le_of_lt outside)]
    rw [SqlLexer.next, stays]
    dsimp only
    rw [if_pos (Nat.le_of_lt outside)]
    rfl
  rcases SqlLexer.next_cases keywordLookup inside with ⟨_, eof, _⟩ | ⟨start, gap, takes⟩
  · exact absurd eof notEof
  · have stop := takes.continues.inside inside
    have forward := Cursor.le_skipWhile isSpace lexer.input lexer.offset
    have nonempty := takes.nonempty
    unfold SqlLexer.remaining
    rw [takes.text, List.extract_eq_take_drop, List.length_take, List.length_drop,
      takes.continues.input]
    omega

theorem versionCommentParse_length {text : List UInt8} {payload : VersionCommentPayload}
    (parsed : versionCommentParse text = some payload) :
    payload.text.length + 5 ≤ text.length := by
  unfold versionCommentParse at parsed
  split at parsed
  · cases parsed
  · rename_i shape
    have long : 5 ≤ text.length := Nat.le_of_not_lt fun short => shape (.inl short)
    cases parsed
    rw [List.length_drop, List.extract_eq_take_drop, List.length_take, List.length_drop]
    omega

theorem rebaseTokenToRootInput_some {token rebased : SqlToken} {base rootLength : Nat}
    (fits : rebaseTokenToRootInput token base rootLength = some rebased) :
    rebased.kind = token.kind ∧ rebased.text = token.text := by
  unfold rebaseTokenToRootInput at fits
  split at fits
  · cases fits
  · cases fits
    exact ⟨rfl, rfl⟩

theorem pushVersionCommentPayloadLexer_remaining {token : SqlToken} {modes : SqlModes}
    {stack pushed : List StackedLexer}
    (result : pushVersionCommentPayloadLexer token modes stack = .ok pushed) :
    stackRemaining pushed < stackRemaining stack + token.text.length := by
  unfold pushVersionCommentPayloadLexer at result
  split at result
  · cases result
  · rename_i payload parsed
    have short := versionCommentParse_length parsed
    split at result
    · cases result
      omega
    · split at result
      · cases result
      · cases result
        have whole : (SqlLexer.init payload.text modes).remaining = payload.text.length := rfl
        rw [stackRemaining, whole]
        omega

/-! The statement's own tokens. -/

/-- The tokens of a lexer up to the end of its input. -/
def SqlLexer.tokens (keywordLookup : List UInt8 → Option Keyword) (lexer : SqlLexer) :
    List SqlToken :=
  if (lexer.next keywordLookup).1.kind = .eof then []
  else (lexer.next keywordLookup).1 :: (lexer.next keywordLookup).2.tokens keywordLookup
termination_by lexer.remaining
decreasing_by
  have less := SqlLexer.next_remaining keywordLookup (by assumption)
  omega

def significantTokens (keywordLookup : List UInt8 → Option Keyword) (modes : SqlModes)
    (input : List UInt8) : List SqlToken :=
  ((SqlLexer.init input modes).tokens keywordLookup).filter fun token =>
    !tokenIsComment token.kind

/-- A version comment whose body the parser reads. -/
def SqlToken.isExecuted (token : SqlToken) : Bool :=
  token.kind = .versionComment &&
    (versionCommentParse token.text).any fun payload => payload.active && payload.text ≠ []

theorem SqlLexer.rebase_next (keywordLookup : List UInt8 → Option Keyword) {lexer : SqlLexer}
    (inside : lexer.offset ≤ lexer.input.length) :
    rebaseTokenToRootInput (lexer.next keywordLookup).1 0 lexer.input.length =
      some (lexer.next keywordLookup).1 := by
  have spans : (lexer.next keywordLookup).1.offset + (lexer.next keywordLookup).1.length ≤
      lexer.input.length ∧
      (lexer.next keywordLookup).1.sourceLength = lexer.input.length := by
    rcases SqlLexer.next_cases keywordLookup inside with
      ⟨_, _, offset, length, source⟩ | ⟨start, _, takes⟩
    · exact ⟨by omega, source⟩
    · rw [takes.offset, takes.length]
      exact ⟨takes.continues.inside inside, takes.sourceLength⟩
  rw [rebaseTokenToRootInput, if_neg (by omega), Nat.zero_add, ← spans.2]

end MyLite.Sql
