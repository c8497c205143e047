import MyLite.Sql.ParserFeed
import MyLite.Sql.KeywordTable

/-! What the generated parser receives of a statement: the tokens of its lexers, without the
targets of a locking clause. -/
namespace MyLite.Sql

/-- `struct mylite_sql_parser_token_history`. -/
structure TokenHistory where
  previousParserToken : Nat
  tokenBeforePreviousParserToken : Nat
  deriving DecidableEq, Repr

/-- `struct mylite_sql_parser_token_map`. -/
structure ParserTokenMap where
  parserToken : Nat
  previousTokenWasDot : Bool
  deriving DecidableEq, Repr

/-- The arguments of `mylite_sql_lemon`. -/
structure FedToken where
  parserToken : Nat
  token : SqlToken
  deriving DecidableEq, Repr

/-- What the build generates from the grammar: the numbers of its tokens, to which
`mylite_sql_parser_map_lexer_token` maps the lexer's, and whether the parser has failed on the
tokens it has received. -/
structure GrammarParser where
  tokenFor : Nat
  tokenUpdate : Nat
  tokenShare : Nat
  mapLexerToken : SqlLexer → SqlToken → Bool → TokenHistory → Option ParserTokenMap
  refuses : List FedToken → Bool

/-- Why the feed stopped. -/
inductive FeedStop where
  | fedEof
  | parserFailed
  | failed (status : ParseStatus)
  deriving DecidableEq, Repr

structure FeedResult where
  received : List FedToken
  stop : FeedStop
  deriving DecidableEq, Repr

/-- What `struct mylite_sql_parser_feed_context` carries from token to token. -/
structure FeedContext where
  history : TokenHistory
  previousTokenWasDot : Bool
  received : List FedToken
  deriving DecidableEq, Repr

def FeedContext.start : FeedContext :=
  ⟨⟨0, 0⟩, false, []⟩

def FeedContext.failed (context : FeedContext) (status : ParseStatus) : FeedResult :=
  ⟨context.received, .failed status⟩

def updateTokenHistory (history : TokenHistory) (parserToken : Nat) : TokenHistory :=
  ⟨parserToken, history.previousParserToken⟩

/-! The targets of a locking clause. -/

def tokenTextEquals (token : SqlToken) (text : List Char) : Bool :=
  token.text.map asciiUpper = text.map ascii

/-- `mylite_sql_parser_should_skip_select_lock_target_list`. -/
def shouldSkipSelectLockTargetList (grammar : GrammarParser) (token : SqlToken)
    (history : TokenHistory) : Bool :=
  tokenTextEquals token ['O', 'F'] &&
    history.tokenBeforePreviousParserToken = grammar.tokenFor &&
    (history.previousParserToken = grammar.tokenUpdate ||
      history.previousParserToken = grammar.tokenShare)

def tokenCanBeSelectLockTargetIdentifier (token : SqlToken) : Bool :=
  token.kind = .identifier || token.kind = .quotedIdentifier ||
    (token.kind = .keyword &&
      !(token.keyword.any fun keyword => keyword.flags &&& reserved ≠ 0) &&
      !tokenTextEquals token ['F', 'O', 'R'] &&
      !tokenTextEquals token ['L', 'O', 'C', 'K'] &&
      !tokenTextEquals token ['L', 'O', 'C', 'K', 'E', 'D'] &&
      !tokenTextEquals token ['N', 'O', 'W', 'A', 'I', 'T'] &&
      !tokenTextEquals token ['S', 'H', 'A', 'R', 'E'] &&
      !tokenTextEquals token ['S', 'K', 'I', 'P'] &&
      !tokenTextEquals token ['U', 'P', 'D', 'A', 'T', 'E'])

/-- The `.` of a qualified target, or the `,` before the next. -/
def tokenContinuesSelectLockTargets (token : SqlToken) : Bool :=
  token.kind = .punctuation && token.length = 1 &&
    (token.text.head? = some (ascii '.') || token.text.head? = some (ascii ','))

section Feed

variable (keywordLookup : List UInt8 → Option Keyword)

/-- `mylite_sql_parser_skip_select_lock_target_list`: the token after the list, and the lexer
after that token. -/
def skipSelectLockTargetList (expectingIdentifier : Bool) (lexer : SqlLexer) :
    Except ParseStatus (SqlToken × SqlLexer) :=
  let taken := lexer.next keywordLookup
  if _eof : taken.1.kind = .eof then
    if expectingIdentifier then .error .syntaxError else .ok taken
  else if tokenIsComment taken.1.kind then skipSelectLockTargetList expectingIdentifier taken.2
  else if taken.1.kind = .error then .error .lexerError
  else if expectingIdentifier then
    if tokenCanBeSelectLockTargetIdentifier taken.1 then skipSelectLockTargetList false taken.2
    else .error .syntaxError
  else if tokenContinuesSelectLockTargets taken.1 then skipSelectLockTargetList true taken.2
  else .ok taken
termination_by lexer.remaining
decreasing_by
  all_goals
    have less := SqlLexer.next_remaining keywordLookup _eof
    omega

variable (grammar : GrammarParser)

/-- The end of `feed_lexer_token`, where the token is mapped and fed. -/
def feedMappedToken (context : FeedContext) (lexer : SqlLexer) (token : SqlToken) :
    (FeedContext × SqlLexer) ⊕ FeedResult :=
  match grammar.mapLexerToken lexer token context.previousTokenWasDot context.history with
  | none => .inr (context.failed .syntaxError)
  | some tokenMap =>
    let received := context.received ++ [⟨tokenMap.parserToken, token⟩]
    if grammar.refuses received then .inr ⟨received, .parserFailed⟩
    else if token.kind = .eof then .inr ⟨received, .fedEof⟩
    else
      .inl ({
        history := updateTokenHistory context.history tokenMap.parserToken
        previousTokenWasDot := tokenMap.previousTokenWasDot
        received := received }, lexer)

/-- `feed_lexer_token`, without the row constructors a retry injects. -/
def feedLexerToken (context : FeedContext) (lexer : SqlLexer) (token : SqlToken) :
    (FeedContext × SqlLexer) ⊕ FeedResult :=
  if tokenIsComment token.kind then .inl (context, lexer)
  else if token.kind = .error then .inr (context.failed .lexerError)
  else if shouldSkipSelectLockTargetList grammar token context.history then
    match skipSelectLockTargetList keywordLookup true lexer with
    | .error status => .inr (context.failed status)
    | .ok (next, lexer) => feedMappedToken grammar context lexer next
  else feedMappedToken grammar context lexer token

variable (modes : SqlModes) (rootLength : Nat)

/-- One turn of the loop of `feed_lexer_tokens`. -/
def feedStackTurn (context : FeedContext) :
    List StackedLexer → (FeedContext × List StackedLexer) ⊕ FeedResult
  | [] => .inr ⟨context.received, .fedEof⟩
  | current :: below =>
    let taken := current.lexer.next keywordLookup
    match rebaseTokenToRootInput taken.1 current.base rootLength with
    | none => .inr (context.failed .syntaxError)
    | some token =>
      if token.kind = .eof ∧ below ≠ [] then .inl (context, below)
      else if token.kind = .versionComment then
        match pushVersionCommentPayloadLexer token modes (⟨taken.2, current.base⟩ :: below) with
        | .error status => .inr (context.failed status)
        | .ok stack => .inl (context, stack)
      else
        match feedLexerToken keywordLookup grammar context taken.2 token with
        | .inr result => .inr result
        | .inl (context, lexer) => .inl (context, ⟨lexer, current.base⟩ :: below)

end Feed

/-! Each turn leaves less to read. -/

variable {keywordLookup : List UInt8 → Option Keyword} {grammar : GrammarParser}

theorem SqlLexer.next_remaining_le (keywordLookup : List UInt8 → Option Keyword)
    (lexer : SqlLexer) :
    (lexer.next keywordLookup).2.remaining ≤ lexer.remaining := by
  by_cases eof : (lexer.next keywordLookup).1.kind = .eof
  · by_cases inside : lexer.offset ≤ lexer.input.length
    · have continues := SqlLexer.next_continues keywordLookup inside
      have forward := continues.forward
      rw [remaining, remaining, continues.input]
      omega
    · have stays : lexer.consumeWhitespace = (false, lexer) := by
        rw [consumeWhitespace, if_pos (Nat.le_of_not_le inside)]
      rw [next, stays]
      dsimp only
      rw [if_pos (Nat.le_of_not_le inside)]
  · have less := SqlLexer.next_remaining keywordLookup eof
    omega

theorem skipSelectLockTargetList_remaining {expectingIdentifier : Bool} {lexer after : SqlLexer}
    {token : SqlToken} (notEof : token.kind ≠ .eof)
    (skipped : skipSelectLockTargetList keywordLookup expectingIdentifier lexer =
      .ok (token, after)) : after.remaining < lexer.remaining := by
  fun_induction skipSelectLockTargetList keywordLookup expectingIdentifier lexer with
  | case1 | case4 | case6 => cases skipped
  | case2 expecting lexer taken eof =>
    have same : taken = (token, after) := Except.ok.inj skipped
    rw [same] at eof
    exact absurd eof notEof
  | case3 expecting lexer taken here _ ih | case5 lexer taken here _ _ _ ih
  | case7 expecting lexer taken here _ _ _ _ ih =>
    have less := SqlLexer.next_remaining keywordLookup here
    have rest : after.remaining < (lexer.next keywordLookup).2.remaining := ih skipped
    omega
  | case8 expecting lexer taken here =>
    have less := SqlLexer.next_remaining keywordLookup here
    have same : lexer.next keywordLookup = (token, after) := Except.ok.inj skipped
    rw [same] at less
    dsimp only at less
    omega

theorem feedMappedToken_goesOn {context later : FeedContext} {lexer after : SqlLexer}
    {token : SqlToken}
    (fed : feedMappedToken grammar context lexer token = .inl (later, after)) :
    after = lexer ∧ token.kind ≠ .eof := by
  unfold feedMappedToken at fed
  split at fed
  · cases fed
  · dsimp only at fed
    split at fed
    · cases fed
    · split at fed
      · cases fed
      · rename_i notEof
        cases fed
        exact ⟨rfl, notEof⟩

theorem feedLexerToken_remaining {context later : FeedContext} {lexer after : SqlLexer}
    {token : SqlToken}
    (fed : feedLexerToken keywordLookup grammar context lexer token = .inl (later, after)) :
    after.remaining < lexer.remaining ∨ (after = lexer ∧ token.kind ≠ .eof) := by
  unfold feedLexerToken at fed
  split at fed
  · rename_i comment
    cases fed
    refine .inr ⟨rfl, fun eof => ?_⟩
    rw [eof] at comment
    cases comment
  · split at fed
    · cases fed
    · split at fed
      · split at fed
        · cases fed
        · rename_i next skippedLexer skipped
          obtain ⟨rfl, notEof⟩ := feedMappedToken_goesOn fed
          exact .inl (skipSelectLockTargetList_remaining notEof skipped)
      · exact .inr (feedMappedToken_goesOn fed)

theorem feedStackTurn_remaining {modes : SqlModes} {rootLength : Nat}
    {context later : FeedContext} {stack rest : List StackedLexer}
    (turn : feedStackTurn keywordLookup grammar modes rootLength context stack =
      .inl (later, rest)) : stackRemaining rest < stackRemaining stack := by
  cases stack with
  | nil => cases turn
  | cons current below =>
    have notMore := SqlLexer.next_remaining_le keywordLookup current.lexer
    have less (notEof : (current.lexer.next keywordLookup).1.kind ≠ .eof) :=
      SqlLexer.next_remaining keywordLookup notEof
    rw [feedStackTurn] at turn
    split at turn
    · cases turn
    · rename_i rebased fits
      obtain ⟨kind, text⟩ := rebaseTokenToRootInput_some fits
      rw [← kind, ← text] at less
      split at turn
      · cases turn
        rw [stackRemaining]
        omega
      · split at turn
        · rename_i version
          have notEof : rebased.kind ≠ .eof := by
            rw [version]
            decide
          have shorter := less notEof
          split at turn
          · cases turn
          · rename_i pushed push
            cases turn
            have bound := pushVersionCommentPayloadLexer_remaining push
            simp only [stackRemaining] at bound ⊢
            omega
        · split at turn
          · cases turn
          · rename_i context after fed
            cases turn
            simp only [stackRemaining]
            rcases feedLexerToken_remaining fed with fewer | ⟨rfl, notEof⟩
            · omega
            · have shorter := less notEof
              omega

section Feed

variable (keywordLookup : List UInt8 → Option Keyword) (grammar : GrammarParser)
  (modes : SqlModes) (rootLength : Nat)

/-- The loop of `feed_lexer_tokens`. -/
def feedLexerStack (context : FeedContext) (stack : List StackedLexer) : FeedResult :=
  match _turn : feedStackTurn keywordLookup grammar modes rootLength context stack with
  | .inr result => result
  | .inl (later, rest) => feedLexerStack later rest
termination_by stackRemaining stack
decreasing_by exact feedStackTurn_remaining _turn

end Feed

/-- What the parser receives of a statement. -/
def feedStatement (keywordLookup : List UInt8 → Option Keyword) (grammar : GrammarParser)
    (modes : SqlModes) (input : List UInt8) : FeedResult :=
  feedLexerStack keywordLookup grammar modes input.length .start [⟨SqlLexer.init input modes, 0⟩]

end MyLite.Sql
