import MyLite.Sql.LexerTokenFeed
import MyLite.Sql.VersionCommentExpansion

/-! The parser receives what it would receive of the expanded statement. -/
namespace MyLite.Sql

/-- The target list of a locking clause in an expanded text: the token after it, the lexer after
that token and the pieces after both. `none` where an executed version comment begins in the
list. -/
def skipTargets (failure : Option ParseStatus) (expectingIdentifier : Bool) :
    List ExpandedPiece → Option (Except ParseStatus (SqlToken × SqlLexer × List ExpandedPiece))
  | [] => failure.map .error
  | .boundary :: _ => none
  | .token token lexer _ :: rest =>
    if token.kind = .eof then
      some (if expectingIdentifier then .error .syntaxError else .ok (token, lexer, rest))
    else if expectingIdentifier then
      if tokenCanBeSelectLockTargetIdentifier token then skipTargets failure false rest
      else some (.error .syntaxError)
    else if tokenContinuesSelectLockTargets token then skipTargets failure true rest
    else some (.ok (token, lexer, rest))

theorem skipTargets_length {failure : Option ParseStatus} {expectingIdentifier : Bool}
    {pieces rest : List ExpandedPiece} {token : SqlToken} {lexer : SqlLexer}
    (skipped : skipTargets failure expectingIdentifier pieces = some (.ok (token, lexer, rest))) :
    rest.length < pieces.length := by
  induction pieces generalizing expectingIdentifier with
  | nil =>
    rw [skipTargets] at skipped
    obtain ⟨_, _, error⟩ := Option.map_eq_some_iff.mp skipped
    cases error
  | cons piece later ih =>
    cases piece with
    | boundary => cases skipped
    | token here lexer depth =>
      rw [skipTargets] at skipped
      split at skipped
      · split at skipped
        · cases skipped
        · cases skipped
          exact Nat.lt_succ_self _
      · split at skipped
        · split at skipped
          · exact Nat.lt_succ_of_lt (ih skipped)
          · cases skipped
        · split at skipped
          · exact Nat.lt_succ_of_lt (ih skipped)
          · cases skipped
            exact Nat.lt_succ_self _

section Receive

variable (grammar : GrammarParser) (failure : Option ParseStatus)

/-- What the parser receives of an expanded text, the targets of locking clauses left out.
`none` where such a list stands in a version comment, or one begins in it. -/
def receive (context : FeedContext) : List ExpandedPiece → Option FeedResult
  | [] =>
    match failure with
    | none => some ⟨context.received, .fedEof⟩
    | some status => some (context.failed status)
  | .boundary :: rest => receive context rest
  | .token token lexer depth :: rest =>
    if shouldSkipSelectLockTargetList grammar token context.history then
      if depth ≠ 0 then none
      else
        match _skipped : skipTargets failure true rest with
        | none => none
        | some (.error status) => some (context.failed status)
        | some (.ok (next, lexer, later)) =>
          match feedMappedToken grammar context lexer next with
          | .inr result => some result
          | .inl (context, _) => receive context later
    else
      match feedMappedToken grammar context lexer token with
      | .inr result => some result
      | .inl (context, _) => receive context rest
termination_by pieces => pieces.length
decreasing_by
  · exact Nat.lt_succ_self _
  · exact Nat.lt_succ_of_lt (skipTargets_length _skipped)
  · exact Nat.lt_succ_self _

/-- The feed of an expanded text comes to the target list of a locking clause. -/
def hasLockTargetList (context : FeedContext) : List ExpandedPiece → Bool
  | [] => false
  | .boundary :: rest => hasLockTargetList context rest
  | .token token lexer _ :: rest =>
    shouldSkipSelectLockTargetList grammar token context.history ||
      match feedMappedToken grammar context lexer token with
      | .inr _ => false
      | .inl (later, _) => hasLockTargetList later rest

end Receive

variable {keywordLookup : List UInt8 → Option Keyword} {grammar : GrammarParser}
  {modes : SqlModes} {root : List UInt8}

/-- The lexer reads the statement itself. -/
structure SqlLexer.ReadsRoot (lexer : SqlLexer) (root : List UInt8) : Prop where
  input : lexer.input = root
  inside : lexer.offset ≤ lexer.input.length

theorem SqlLexer.ReadsRoot.after {lexer : SqlLexer} (reads : lexer.ReadsRoot root) :
    (lexer.next keywordLookup).2.ReadsRoot root := by
  have continues := SqlLexer.next_continues keywordLookup reads.inside
  refine ⟨continues.input.trans reads.input, ?_⟩
  rw [continues.input]
  exact continues.inside reads.inside

/-- The statement's own tokens are in their place. -/
theorem SqlLexer.ReadsRoot.rebased {lexer : SqlLexer} (reads : lexer.ReadsRoot root) :
    (lexer.next keywordLookup).1.rebased 0 root.length = (lexer.next keywordLookup).1 := by
  have here := SqlLexer.rebase_next keywordLookup reads.inside
  rw [rebaseTokenToRootInput] at here
  split at here
  · cases here
  · rw [reads.input] at here
    exact Option.some.inj here

section Skip

variable (keywordLookup modes root)

/-- The list `skip_select_lock_target_list` leaves out of the statement is the list left out of
the expansion. -/
def SkipsAlike (expectingIdentifier : Bool) (lexer : SqlLexer) (failure : Option ParseStatus)
    (outcome : Except ParseStatus (SqlToken × SqlLexer × List ExpandedPiece)) : Prop :=
  (∃ status, outcome = .error status ∧
    skipSelectLockTargetList keywordLookup expectingIdentifier lexer = .error status) ∨
  ∃ token after rest, outcome = .ok (token, after, rest) ∧
    skipSelectLockTargetList keywordLookup expectingIdentifier lexer = .ok (token, after) ∧
    after.ReadsRoot root ∧
    (token.kind ≠ .eof →
      expandLexer keywordLookup modes root.length 0 ⟨after, 0⟩ = ⟨rest, failure⟩)

end Skip

theorem skipTargets_alike {expectingIdentifier : Bool} {lexer : SqlLexer}
    (reads : lexer.ReadsRoot root)
    {outcome : Except ParseStatus (SqlToken × SqlLexer × List ExpandedPiece)}
    (skipped : skipTargets (expandLexer keywordLookup modes root.length 0 ⟨lexer, 0⟩).failure
      expectingIdentifier (expandLexer keywordLookup modes root.length 0 ⟨lexer, 0⟩).pieces =
        some outcome) :
    SkipsAlike keywordLookup modes root expectingIdentifier lexer
      (expandLexer keywordLookup modes root.length 0 ⟨lexer, 0⟩).failure outcome := by
  unfold SkipsAlike
  fun_induction skipSelectLockTargetList keywordLookup expectingIdentifier lexer with
  | case1 lexer taken eof =>
    rw [expandLexer_eof eof, if_pos rfl, skipTargets, reads.rebased, if_pos eof] at skipped
    exact .inl ⟨_, (Option.some.inj skipped).symm, rfl⟩
  | case2 expecting lexer taken eof identified =>
    rw [expandLexer_eof eof, if_pos rfl, skipTargets, reads.rebased, if_pos eof,
      if_neg identified] at skipped
    exact .inr ⟨_, _, _, (Option.some.inj skipped).symm, rfl, reads.after, absurd eof⟩
  | case3 expecting lexer taken notEof comment ih =>
    by_cases version : (lexer.next keywordLookup).1.kind = .versionComment
    · cases parsed : versionCommentParse (lexer.next keywordLookup).1.text with
      | none =>
        rw [expandLexer_malformed version parsed] at skipped
        cases skipped
      | some payload =>
        by_cases unexecuted : (!payload.active || payload.text = []) = true
        · rw [expandLexer_skipped version parsed unexecuted] at skipped ⊢
          exact ih reads.after skipped
        · rw [expandLexer_executed version parsed unexecuted] at skipped
          split at skipped
          · cases skipped
          · cases skipped
    · rw [expandLexer_comment version comment] at skipped ⊢
      exact ih reads.after skipped
  | case4 expecting lexer taken notEof notComment error =>
    rw [expandLexer_error error, skipTargets] at skipped
    exact .inl ⟨_, (Option.some.inj skipped).symm, rfl⟩
  | case5 lexer taken notEof notComment notError target ih =>
    rw [expandLexer_token notEof notComment notError] at skipped ⊢
    rw [Expansion.cons, skipTargets, reads.rebased, if_neg notEof, if_pos rfl,
      if_pos target] at skipped
    exact ih reads.after skipped
  | case6 lexer taken notEof notComment notError notTarget =>
    rw [expandLexer_token notEof notComment notError, Expansion.cons, skipTargets,
      reads.rebased, if_neg notEof, if_pos rfl, if_neg notTarget] at skipped
    exact .inl ⟨_, (Option.some.inj skipped).symm, rfl⟩
  | case7 expecting lexer taken notEof notComment notError identified continues ih =>
    rw [expandLexer_token notEof notComment notError] at skipped ⊢
    rw [Expansion.cons, skipTargets, reads.rebased, if_neg notEof, if_neg identified,
      if_pos continues] at skipped
    exact ih reads.after skipped
  | case8 expecting lexer taken notEof notComment notError identified ends =>
    rw [expandLexer_token notEof notComment notError] at skipped ⊢
    rw [Expansion.cons, skipTargets, reads.rebased, if_neg notEof, if_neg identified,
      if_neg ends] at skipped
    exact .inr ⟨_, _, _, (Option.some.inj skipped).symm, rfl, reads.after, fun _ => rfl⟩

/-! One turn of the loop takes the expansion of the stack on by as much. -/

/-- The lexers of a stack read parts of the statement, the outermost one the statement. -/
def StackReads (root : List UInt8) : List StackedLexer → Prop
  | [] => True
  | current :: below =>
    current.Reads root ∧ (below = [] → current.base = 0 ∧ current.lexer.input = root) ∧
      StackReads root below

theorem SqlLexer.ReadsRoot.stack {lexer : SqlLexer} (reads : lexer.ReadsRoot root) :
    StackReads root [⟨lexer, 0⟩] := by
  refine ⟨⟨reads.inside, ?_, ?_⟩, fun _ => ⟨rfl, reads.input⟩, trivial⟩
  · dsimp only
    rw [reads.input, Nat.zero_add]
  · dsimp only
    rw [reads.input, Nat.zero_add, List.extract_eq_take_drop, List.drop_zero, Nat.sub_zero,
      List.take_length]

/-- The parser, from a context on, receives of an expansion what a result says. -/
def Receives (grammar : GrammarParser) (context : FeedContext) (expansion : Expansion)
    (result : FeedResult) : Prop :=
  receive grammar expansion.failure context expansion.pieces = some result

theorem receives_boundary {context : FeedContext} {rest : Expansion} {result : FeedResult}
    (received : Receives grammar context (rest.cons .boundary) result) :
    Receives grammar context rest result := by
  rw [Receives, Expansion.cons, receive] at received
  exact received

theorem receives_failure {context : FeedContext} {status : ParseStatus} {rest : Expansion}
    {result : FeedResult}
    (received : Receives grammar context ((⟨[], some status⟩ : Expansion).append rest) result) :
    context.failed status = result := by
  rw [Receives, Expansion.append, if_neg (Option.some_ne_none status), receive] at received
  exact Option.some.inj received

theorem receives_boundary_failure {context : FeedContext} {status : ParseStatus}
    {rest : Expansion} {result : FeedResult}
    (received : Receives grammar context
      ((⟨[.boundary], some status⟩ : Expansion).append rest) result) :
    context.failed status = result := by
  have boundary : (⟨[.boundary], some status⟩ : Expansion) =
    Expansion.cons .boundary ⟨[], some status⟩ := rfl
  rw [boundary, Expansion.cons_append] at received
  exact receives_failure (receives_boundary received)

section Turn

variable (keywordLookup grammar modes root)

/-- A turn of the loop agrees with a result: it ends with it, or leaves a stack of whose
expansion the parser receives it. -/
def TurnAgrees (context : FeedContext) (stack : List StackedLexer) (result : FeedResult) : Prop :=
  feedStackTurn keywordLookup grammar modes root.length context stack = .inr result ∨
  ∃ later rest,
    feedStackTurn keywordLookup grammar modes root.length context stack = .inl (later, rest) ∧
    StackReads root rest ∧
    Receives grammar later (expandStack keywordLookup modes root.length rest) result

end Turn

theorem SqlToken.Spans.rebases {token : SqlToken} {base : Nat}
    (spans : (token.rebased base root.length).Spans root) :
    rebaseTokenToRootInput token base root.length = some (token.rebased base root.length) := by
  have inside : base + token.offset + token.length ≤ root.length := spans.inside
  rw [rebaseTokenToRootInput, if_neg (by omega)]
  rfl

theorem stackReads_after {lexer : SqlLexer} {base : Nat} {below : List StackedLexer}
    (reads : StackReads root (⟨lexer, base⟩ :: below)) :
    StackReads root (⟨(lexer.next keywordLookup).2, base⟩ :: below) := by
  obtain ⟨here, bottom, rest⟩ := reads
  refine ⟨here.after, fun alone => ?_, rest⟩
  obtain ⟨outermost, whole⟩ := bottom alone
  exact ⟨outermost, (SqlLexer.next_continues keywordLookup here.inside).input.trans whole⟩

theorem feedLexerToken_mapped {context : FeedContext} {lexer : SqlLexer} {token : SqlToken}
    (notComment : ¬tokenIsComment token.kind = true) (notError : token.kind ≠ .error)
    (kept : ¬shouldSkipSelectLockTargetList grammar token context.history = true) :
    feedLexerToken keywordLookup grammar context lexer token =
      feedMappedToken grammar context lexer token := by
  rw [feedLexerToken, if_neg notComment, if_neg notError, if_neg kept]

theorem feedStackTurn_eof {context : FeedContext} {lexer : SqlLexer} {base : Nat}
    {below : List StackedLexer} {result : FeedResult}
    (reads : StackReads root (⟨lexer, base⟩ :: below))
    (eof : (lexer.next keywordLookup).1.kind = .eof)
    (received : Receives grammar context
      (expandStack keywordLookup modes root.length (⟨lexer, base⟩ :: below)) result) :
    TurnAgrees keywordLookup grammar modes root context (⟨lexer, base⟩ :: below) result := by
  have spans := reads.1.next_spans keywordLookup
  rw [TurnAgrees, feedStackTurn, spans.rebases]
  dsimp only
  rw [expandStack, expandLexer_eof eof] at received
  by_cases alone : below = []
  · subst alone
    have empty : ((lexer.next keywordLookup).1.rebased base root.length).text = [] :=
      SqlLexer.next_eof_text eof
    have kept : ¬shouldSkipSelectLockTargetList grammar
        ((lexer.next keywordLookup).1.rebased base root.length) context.history = true := by
      rw [shouldSkipSelectLockTargetList, tokenTextEquals, empty]
      exact Bool.false_ne_true
    have plain {kind : SqlTokenKind} (other : SqlTokenKind.eof ≠ kind) :
        ((lexer.next keywordLookup).1.rebased base root.length).kind ≠ kind := by
      intro same
      exact other (eof.symm.trans same)
    have notComment : ¬tokenIsComment
        ((lexer.next keywordLookup).1.rebased base root.length).kind = true := by
      rw [SqlToken.rebased, eof]
      exact Bool.false_ne_true
    rw [if_neg (fun nested => nested.2 rfl), if_neg (plain (by decide)),
      feedLexerToken_mapped notComment (plain (by decide)) kept]
    rw [expandStack, Expansion.append_nil, List.length_nil, if_pos rfl, Receives, receive,
      if_neg kept] at received
    cases fed : feedMappedToken grammar context (lexer.next keywordLookup).2
      ((lexer.next keywordLookup).1.rebased base root.length) with
    | inr ended =>
      rw [fed] at received
      exact .inl (congrArg Sum.inr (Option.some.inj received))
    | inl next => exact absurd eof (feedMappedToken_goesOn fed).2
  · rw [if_pos ⟨eof, alone⟩]
    rw [if_neg (by rwa [List.length_eq_zero_iff])] at received
    exact .inr ⟨context, below, rfl, reads.2.2, receives_boundary received⟩

theorem feedStackTurn_versionComment {context : FeedContext} {lexer : SqlLexer} {base : Nat}
    {below : List StackedLexer} {result : FeedResult}
    (reads : StackReads root (⟨lexer, base⟩ :: below))
    (version : (lexer.next keywordLookup).1.kind = .versionComment)
    (received : Receives grammar context
      (expandStack keywordLookup modes root.length (⟨lexer, base⟩ :: below)) result) :
    TurnAgrees keywordLookup grammar modes root context (⟨lexer, base⟩ :: below) result := by
  have spans := reads.1.next_spans keywordLookup
  have notEof : (lexer.next keywordLookup).1.kind ≠ .eof := by
    rw [version]
    decide
  rw [TurnAgrees, feedStackTurn, spans.rebases]
  dsimp only
  rw [SqlToken.rebased_kind, if_neg (fun nested => notEof nested.1), if_pos version,
    pushVersionCommentPayloadLexer, SqlToken.rebased_text]
  rw [expandStack] at received
  cases parsed : versionCommentParse (lexer.next keywordLookup).1.text with
  | none =>
    rw [expandLexer_malformed version parsed] at received
    exact .inl (congrArg Sum.inr (receives_boundary_failure received))
  | some payload =>
    dsimp only
    by_cases unexecuted : (!payload.active || payload.text = []) = true
    · rw [if_pos unexecuted]
      rw [expandLexer_skipped version parsed unexecuted] at received
      exact .inr ⟨context, _, rfl, stackReads_after reads, received⟩
    · rw [if_neg unexecuted]
      rw [expandLexer_executed version parsed unexecuted] at received
      by_cases deep : below.length + 1 ≥ versionCommentLexerStackLimit
      · rw [if_pos deep] at received
        rw [List.length_cons, if_pos deep]
        exact .inl (congrArg Sum.inr (receives_boundary_failure received))
      · rw [if_neg deep, Expansion.cons_append, Expansion.append_assoc] at received
        rw [List.length_cons, if_neg deep]
        refine .inr ⟨context, _, rfl, ⟨?_, ?_, stackReads_after reads⟩, receives_boundary received⟩
        · exact StackedLexer.Reads.body spans parsed
        · exact fun alone => absurd alone (List.cons_ne_nil _ _)

/-- The token that begins the target list of a locking clause. -/
theorem feedStackTurn_lockTargets {context : FeedContext} {lexer : SqlLexer} {base : Nat}
    {below : List StackedLexer} {result : FeedResult}
    (reads : StackReads root (⟨lexer, base⟩ :: below))
    (notEof : (lexer.next keywordLookup).1.kind ≠ .eof)
    (notComment : ¬tokenIsComment (lexer.next keywordLookup).1.kind = true)
    (notError : (lexer.next keywordLookup).1.kind ≠ .error)
    (listed : shouldSkipSelectLockTargetList grammar
      ((lexer.next keywordLookup).1.rebased base root.length) context.history = true)
    (received : Receives grammar context
      (expandStack keywordLookup modes root.length (⟨lexer, base⟩ :: below)) result) :
    TurnAgrees keywordLookup grammar modes root context (⟨lexer, base⟩ :: below) result := by
  have spans := reads.1.next_spans keywordLookup
  rw [TurnAgrees, feedStackTurn, spans.rebases]
  dsimp only
  rw [SqlToken.rebased_kind, if_neg (fun nested => notEof nested.1),
    if_neg (notVersion_of_notComment notComment)]
  rw [expandStack, expandLexer_token notEof notComment notError, Expansion.cons_append, Receives,
    Expansion.cons, receive, if_pos listed] at received
  rw [← SqlToken.rebased_kind _ base root.length] at notComment notError
  rw [feedLexerToken, if_neg notComment, if_neg notError, if_pos listed]
  split at received
  · cases received
  · rename_i depth
    -- The list stands in the statement's own text, which only the outermost lexer reads.
    obtain rfl := List.length_eq_zero_iff.mp (Decidable.not_not.mp depth)
    obtain ⟨rfl, whole⟩ := reads.2.1 rfl
    have readsRoot : (lexer.next keywordLookup).2.ReadsRoot root :=
      SqlLexer.ReadsRoot.after ⟨whole, reads.1.inside⟩
    rw [expandStack, Expansion.append_nil, List.length_nil] at received
    split at received
    · cases received
    · rename_i status skipped
      rcases skipTargets_alike readsRoot skipped with ⟨_, same, ends⟩ | ⟨_, _, _, same, _⟩
      · cases same
        rw [ends]
        exact .inl (congrArg Sum.inr (Option.some.inj received))
      · cases same
    · rename_i next after rest skipped
      rcases skipTargets_alike readsRoot skipped with ⟨_, same, _⟩ |
        ⟨_, _, _, same, ends, readsAfter, goesOn⟩
      · cases same
      · cases same
        rw [ends]
        dsimp only
        cases fed : feedMappedToken grammar context after next with
        | inr ended =>
          rw [fed] at received
          exact .inl (congrArg Sum.inr (Option.some.inj received))
        | inl goneOn =>
          obtain ⟨later, kept⟩ := goneOn
          rw [fed] at received
          obtain ⟨rfl, notEnd⟩ := feedMappedToken_goesOn fed
          refine .inr ⟨later, _, rfl, readsAfter.stack, ?_⟩
          rw [expandStack, List.length_nil, goesOn notEnd, expandStack, Expansion.append_nil]
          exact received

/-- A token that is no comment and no error. -/
theorem feedStackTurn_token {context : FeedContext} {lexer : SqlLexer} {base : Nat}
    {below : List StackedLexer} {result : FeedResult}
    (reads : StackReads root (⟨lexer, base⟩ :: below))
    (notEof : (lexer.next keywordLookup).1.kind ≠ .eof)
    (notComment : ¬tokenIsComment (lexer.next keywordLookup).1.kind = true)
    (notError : (lexer.next keywordLookup).1.kind ≠ .error)
    (received : Receives grammar context
      (expandStack keywordLookup modes root.length (⟨lexer, base⟩ :: below)) result) :
    TurnAgrees keywordLookup grammar modes root context (⟨lexer, base⟩ :: below) result := by
  by_cases listed : shouldSkipSelectLockTargetList grammar
    ((lexer.next keywordLookup).1.rebased base root.length) context.history = true
  · exact feedStackTurn_lockTargets reads notEof notComment notError listed received
  · have spans := reads.1.next_spans keywordLookup
    rw [TurnAgrees, feedStackTurn, spans.rebases]
    dsimp only
    rw [SqlToken.rebased_kind, if_neg (fun nested => notEof nested.1),
      if_neg (notVersion_of_notComment notComment)]
    rw [expandStack, expandLexer_token notEof notComment notError, Expansion.cons_append,
      Receives, Expansion.cons, receive, if_neg listed] at received
    rw [← SqlToken.rebased_kind _ base root.length] at notComment notError
    rw [feedLexerToken_mapped notComment notError listed]
    cases fed : feedMappedToken grammar context (lexer.next keywordLookup).2
      ((lexer.next keywordLookup).1.rebased base root.length) with
    | inr ended =>
      rw [fed] at received
      exact .inl (congrArg Sum.inr (Option.some.inj received))
    | inl goneOn =>
      obtain ⟨later, after⟩ := goneOn
      rw [fed] at received
      obtain ⟨rfl, _⟩ := feedMappedToken_goesOn fed
      exact .inr ⟨later, _, rfl, stackReads_after reads, received⟩

theorem feedStackTurn_agrees {context : FeedContext} {stack : List StackedLexer}
    {result : FeedResult} (reads : StackReads root stack)
    (received : Receives grammar context (expandStack keywordLookup modes root.length stack)
      result) :
    TurnAgrees keywordLookup grammar modes root context stack result := by
  cases stack with
  | nil =>
    rw [Receives, expandStack, receive] at received
    exact .inl (congrArg Sum.inr (Option.some.inj received))
  | cons current below =>
    obtain ⟨lexer, base⟩ := current
    have spans := reads.1.next_spans keywordLookup
    by_cases eof : (lexer.next keywordLookup).1.kind = .eof
    · exact feedStackTurn_eof reads eof received
    · by_cases version : (lexer.next keywordLookup).1.kind = .versionComment
      · exact feedStackTurn_versionComment reads version received
      · by_cases comment : tokenIsComment (lexer.next keywordLookup).1.kind = true
        · rw [TurnAgrees, feedStackTurn, spans.rebases]
          dsimp only
          rw [SqlToken.rebased_kind, if_neg (fun nested => eof nested.1), if_neg version,
            feedLexerToken, SqlToken.rebased_kind, if_pos comment]
          rw [expandStack, expandLexer_comment version comment] at received
          exact .inr ⟨context, _, rfl, stackReads_after reads, received⟩
        · by_cases error : (lexer.next keywordLookup).1.kind = .error
          · rw [TurnAgrees, feedStackTurn, spans.rebases]
            dsimp only
            rw [SqlToken.rebased_kind, if_neg (fun nested => eof nested.1), if_neg version,
              feedLexerToken, SqlToken.rebased_kind, if_neg comment, if_pos error]
            rw [expandStack, expandLexer_error error] at received
            exact .inl (congrArg Sum.inr (receives_failure received))
          · exact feedStackTurn_token reads eof comment error received

/-- The whole loop feeds the parser what it receives of the expansion of the stack. -/
theorem feedLexerStack_receives {context : FeedContext} {stack : List StackedLexer}
    {result : FeedResult} (reads : StackReads root stack)
    (received : Receives grammar context (expandStack keywordLookup modes root.length stack)
      result) :
    feedLexerStack keywordLookup grammar modes root.length context stack = result := by
  fun_induction feedLexerStack keywordLookup grammar modes root.length context stack with
  | case1 context stack ended turn =>
    rcases feedStackTurn_agrees reads received with ends | ⟨later, rest, goesOn, _⟩
    · exact Sum.inr.inj (turn.symm.trans ends)
    · rw [turn] at goesOn
      cases goesOn
  | case2 context stack later rest turn ih =>
    rcases feedStackTurn_agrees reads received with ends | ⟨later, rest, goesOn, readsRest, more⟩
    · rw [turn] at ends
      cases ends
    · rw [turn] at goesOn
      cases goesOn
      exact ih readsRest more

end MyLite.Sql
