import MyLite.Sql.ExpansionFeed
import MyLite.Sql.KeywordLookup
import MyLite.Library.Machine

/-! The tokens the parser receives are those of the recursive expansion of the statement. -/
namespace MyLite.Sql

variable {keywordLookup : List UInt8 → Option Keyword} {grammar : GrammarParser}
  {modes : SqlModes}

/-! What is received comes from the expansion. -/

theorem feedMappedToken_ends {context : FeedContext} {lexer : SqlLexer} {token : SqlToken}
    {result : FeedResult} (fed : feedMappedToken grammar context lexer token = .inr result) :
    (result.received = context.received ∧ result.stop ≠ .fedEof) ∨
    ∃ parserToken, result.received = context.received ++ [⟨parserToken, token⟩] ∧
      (result.stop = .fedEof → token.kind = .eof) := by
  unfold feedMappedToken at fed
  split at fed
  · cases fed
    refine .inl ⟨rfl, fun fedEof => ?_⟩
    cases fedEof
  · rename_i tokenMap _
    dsimp only at fed
    split at fed
    · cases fed
      refine .inr ⟨tokenMap.parserToken, rfl, fun fedEof => ?_⟩
      cases fedEof
    · split at fed
      · rename_i eof
        cases fed
        exact .inr ⟨tokenMap.parserToken, rfl, fun _ => eof⟩
      · cases fed

theorem feedMappedToken_received {context later : FeedContext} {lexer after : SqlLexer}
    {token : SqlToken}
    (fed : feedMappedToken grammar context lexer token = .inl (later, after)) :
    ∃ parserToken, later.received = context.received ++ [⟨parserToken, token⟩] := by
  unfold feedMappedToken at fed
  split at fed
  · cases fed
  · rename_i tokenMap _
    dsimp only at fed
    split at fed
    · cases fed
    · split at fed
      · cases fed
      · cases fed
        exact ⟨tokenMap.parserToken, rfl⟩

theorem skipTargets_tokens {failure : Option ParseStatus} {expectingIdentifier : Bool}
    {pieces rest : List ExpandedPiece} {token : SqlToken} {lexer : SqlLexer}
    (skipped : skipTargets failure expectingIdentifier pieces = some (.ok (token, lexer, rest))) :
    token ∈ (Expansion.mk pieces failure).tokens ∧
      ∀ other ∈ (Expansion.mk rest failure).tokens,
        other ∈ (Expansion.mk pieces failure).tokens := by
  induction pieces generalizing expectingIdentifier with
  | nil =>
    rw [skipTargets] at skipped
    obtain ⟨_, _, error⟩ := Option.map_eq_some_iff.mp skipped
    cases error
  | cons piece later ih =>
    cases piece with
    | boundary => cases skipped
    | token here reader depth =>
      have further {expecting : Bool}
          (more : skipTargets failure expecting later = some (.ok (token, lexer, rest))) :
          token ∈ here :: (Expansion.mk later failure).tokens ∧
            ∀ other ∈ (Expansion.mk rest failure).tokens,
              other ∈ here :: (Expansion.mk later failure).tokens := by
        obtain ⟨taken, left⟩ := ih more
        exact ⟨List.mem_cons_of_mem _ taken,
          fun other member => List.mem_cons_of_mem _ (left other member)⟩
      rw [skipTargets] at skipped
      split at skipped
      · split at skipped
        · cases skipped
        · cases skipped
          exact ⟨List.mem_cons_self, fun other => List.mem_cons_of_mem _⟩
      · split at skipped
        · split at skipped
          · exact further skipped
          · cases skipped
        · split at skipped
          · exact further skipped
          · cases skipped
            exact ⟨List.mem_cons_self, fun other => List.mem_cons_of_mem _⟩

/-- What a result adds to a context are tokens of an expansion, and it is the whole of one only
when no error ends that expansion. -/
structure ReceivedFrom (context : FeedContext) (expansion : Expansion) (result : FeedResult) :
    Prop where
  tokens : ∀ fed ∈ result.received, fed ∈ context.received ∨ fed.token ∈ expansion.tokens
  fedEof : result.stop = .fedEof →
    expansion.failure = none ∨ ∃ token ∈ expansion.tokens, token.kind = .eof

theorem ReceivedFrom.ends {context : FeedContext} {expansion : Expansion} {result : FeedResult}
    {lexer : SqlLexer} {token : SqlToken} (member : token ∈ expansion.tokens)
    (fed : feedMappedToken grammar context lexer token = .inr result) :
    ReceivedFrom context expansion result := by
  rcases feedMappedToken_ends fed with ⟨same, notEof⟩ | ⟨parserToken, more, eof⟩
  · refine ⟨fun fed received => .inl ?_, fun ended => absurd ended notEof⟩
    rwa [same] at received
  · refine ⟨fun fed received => ?_, fun ended => .inr ⟨token, member, eof ended⟩⟩
    rw [more] at received
    rcases List.mem_append.mp received with earlier | last
    · exact .inl earlier
    · obtain rfl := List.mem_singleton.mp last
      exact .inr member

theorem ReceivedFrom.goesOn {context later : FeedContext} {expansion rest : Expansion}
    {result : FeedResult} {lexer after : SqlLexer} {token : SqlToken}
    (further : ReceivedFrom later rest result) (member : token ∈ expansion.tokens)
    (fed : feedMappedToken grammar context lexer token = .inl (later, after))
    (members : ∀ other ∈ rest.tokens, other ∈ expansion.tokens)
    (failure : rest.failure = expansion.failure) :
    ReceivedFrom context expansion result := by
  obtain ⟨parserToken, more⟩ := feedMappedToken_received fed
  constructor
  · intro fed received
    rcases further.tokens fed received with earlier | inRest
    · rw [more] at earlier
      rcases List.mem_append.mp earlier with before | last
      · exact .inl before
      · obtain rfl := List.mem_singleton.mp last
        exact .inr member
    · exact .inr (members _ inRest)
  · intro ended
    rcases further.fedEof ended with complete | ⟨last, inRest, eof⟩
    · exact .inl (failure.symm.trans complete)
    · exact .inr ⟨last, members last inRest, eof⟩

theorem FeedContext.failed_receivedFrom (context : FeedContext) (status : ParseStatus)
    (expansion : Expansion) : ReceivedFrom context expansion (context.failed status) := by
  refine ⟨fun fed received => .inl received, fun ended => ?_⟩
  cases ended

theorem receive_from {failure : Option ParseStatus} {context : FeedContext}
    {pieces : List ExpandedPiece} {result : FeedResult}
    (received : receive grammar failure context pieces = some result) :
    ReceivedFrom context ⟨pieces, failure⟩ result := by
  fun_induction receive grammar failure context pieces with
  | case1 context complete =>
    cases received
    exact ⟨fun fed received => .inl received, fun _ => .inl complete⟩
  | case2 context status | case6 context _ _ _ _ _ _ status =>
    cases received
    exact context.failed_receivedFrom status _
  | case3 context rest ih =>
    have further := ih received
    exact ⟨further.tokens, further.fedEof⟩
  | case4 | case5 => cases received
  | case7 context token lexer depth rest _ _ next after later skipped ended fed =>
    cases received
    exact .ends (List.mem_cons_of_mem _ (skipTargets_tokens skipped).1) fed
  | case8 context token lexer depth rest _ _ next after later skipped _ _ fed ih =>
    obtain ⟨taken, left⟩ := skipTargets_tokens skipped
    exact (ih received).goesOn (List.mem_cons_of_mem _ taken) fed
      (fun other member => List.mem_cons_of_mem _ (left other member)) rfl
  | case9 context token lexer depth rest _ ended fed =>
    cases received
    exact .ends List.mem_cons_self fed
  | case10 context token lexer depth rest _ later _ fed ih =>
    exact (ih received).goesOn List.mem_cons_self fed (fun other => List.mem_cons_of_mem _) rfl

/-! A statement without target lists. -/

theorem hasLockTargetList_of_unlisted {context : FeedContext} {failure : Option ParseStatus}
    {pieces : List ExpandedPiece}
    (unlisted : ∀ token ∈ (Expansion.mk pieces failure).tokens,
      tokenTextEquals token ['O', 'F'] = false) :
    hasLockTargetList grammar context pieces = false := by
  induction pieces generalizing context with
  | nil => rfl
  | cons piece rest ih =>
    cases piece with
    | boundary => exact ih unlisted
    | token token lexer depth =>
      have kept : shouldSkipSelectLockTargetList grammar token context.history = false := by
        rw [shouldSkipSelectLockTargetList, unlisted token List.mem_cons_self]
        rfl
      rw [hasLockTargetList, kept, Bool.false_or]
      split
      · rfl
      · exact ih fun other member => unlisted other (List.mem_cons_of_mem _ member)

/-- The parser receives the tokens of an expansion one after the other, until it fails. -/
theorem receive_prefix (grammar : GrammarParser) (context : FeedContext)
    {failure : Option ParseStatus} {pieces : List ExpandedPiece}
    (untargeted : hasLockTargetList grammar context pieces = false)
    (eofLast : (Expansion.mk pieces failure).tokens.Pairwise fun earlier _ => earlier.kind ≠ .eof) :
    ∃ result more, receive grammar failure context pieces = some result ∧
      result.received = context.received ++ more ∧
      more.map FedToken.token <+: (Expansion.mk pieces failure).tokens ∧
      (result.stop = .fedEof →
        more.map FedToken.token = (Expansion.mk pieces failure).tokens) := by
  induction pieces generalizing context with
  | nil =>
    cases failure with
    | none =>
      rw [receive]
      exact ⟨_, [], rfl, (List.append_nil _).symm, List.nil_prefix, fun _ => rfl⟩
    | some status =>
      rw [receive]
      refine ⟨_, [], rfl, (List.append_nil _).symm, List.nil_prefix, fun ended => ?_⟩
      cases ended
  | cons piece rest ih =>
    cases piece with
    | boundary =>
      rw [receive]
      exact ih context untargeted eofLast
    | token token lexer depth =>
      rw [hasLockTargetList, Bool.or_eq_false_iff] at untargeted
      obtain ⟨kept, untargeted⟩ := untargeted
      obtain ⟨here, eofLast⟩ := List.pairwise_cons.mp eofLast
      rw [receive, if_neg (Bool.not_eq_true _ ▸ kept)]
      cases fed : feedMappedToken grammar context lexer token with
      | inr result =>
        dsimp only
        rcases feedMappedToken_ends fed with ⟨same, notEof⟩ | ⟨parserToken, more, eof⟩
        · exact ⟨result, [], rfl, same.trans (List.append_nil _).symm, List.nil_prefix,
            fun ended => absurd ended notEof⟩
        · refine ⟨result, [⟨parserToken, token⟩], rfl, more, ⟨_, rfl⟩, fun ended => ?_⟩
          have last : (Expansion.mk rest failure).tokens = [] := by
            apply List.eq_nil_iff_forall_not_mem.mpr
            exact fun other member => here other member (eof ended)
          exact congrArg (token :: ·) last.symm
      | inl next =>
        obtain ⟨later, after⟩ := next
        obtain ⟨parserToken, received⟩ := feedMappedToken_received fed
        rw [fed] at untargeted
        obtain ⟨result, more, receives, whole, isPrefix, complete⟩ := ih later untargeted eofLast
        refine ⟨result, ⟨parserToken, token⟩ :: more, receives, ?_, ?_, fun ended => ?_⟩
        · rw [whole, received, List.append_assoc, List.singleton_append]
        · exact List.prefix_cons_inj token |>.mpr isPrefix
        · exact congrArg (token :: ·) (complete ended)

/-! The stack of lexers. -/

section Statement

variable (keywordLookup grammar modes)

/-- A turn of the loop of `feed_lexer_tokens` that does not end it. -/
def feedLoopStep (input : List UInt8) (state : FeedContext × List StackedLexer) (_ : Unit) :
    Option (FeedContext × List StackedLexer) :=
  (feedStackTurn keywordLookup grammar modes input.length state.1 state.2).getLeft?

/-- The loop can come to a state. -/
def FeedReaches (input : List UInt8) : FeedContext × List StackedLexer → Prop :=
  Transition.Reaches (feedLoopStep keywordLookup grammar modes input) (fun _ _ => True)
    (.start, [⟨SqlLexer.init input modes, 0⟩])

end Statement

theorem pushVersionCommentPayloadLexer_length {token : SqlToken} {stack pushed : List StackedLexer}
    (bounded : stack.length ≤ versionCommentLexerStackLimit)
    (push : pushVersionCommentPayloadLexer token modes stack = .ok pushed) :
    pushed.length ≤ versionCommentLexerStackLimit := by
  unfold pushVersionCommentPayloadLexer at push
  split at push
  · cases push
  · split at push
    · cases push
      exact bounded
    · split at push
      · cases push
      · rename_i shallow
        cases push
        exact Nat.lt_of_not_le shallow

theorem feedStackTurn_length {rootLength : Nat} {context later : FeedContext}
    {stack rest : List StackedLexer} (bounded : stack.length ≤ versionCommentLexerStackLimit)
    (turn : feedStackTurn keywordLookup grammar modes rootLength context stack =
      .inl (later, rest)) : rest.length ≤ versionCommentLexerStackLimit := by
  cases stack with
  | nil => cases turn
  | cons current below =>
    rw [feedStackTurn] at turn
    split at turn
    · cases turn
    · split at turn
      · cases turn
        exact Nat.le_of_succ_le bounded
      · split at turn
        · split at turn
          · cases turn
          · rename_i push
            cases turn
            refine pushVersionCommentPayloadLexer_length ?_ push
            exact bounded
        · split at turn
          · cases turn
          · cases turn
            exact bounded

theorem FeedReaches.bounded {input : List UInt8} {state : FeedContext × List StackedLexer}
    (reached : FeedReaches keywordLookup grammar modes input state) :
    state.2.length ≤ versionCommentLexerStackLimit := by
  refine Transition.Reaches.invariant
    (fun state => state.2.length ≤ versionCommentLexerStackLimit) reached ?_ ?_
  · rw [List.length_singleton]
    decide
  · intro before _ after bounded _ step
    exact feedStackTurn_length bounded (Sum.getLeft?_eq_some_iff.mp step)

/-! The statement. -/

section Statement

variable (keywordLookup grammar modes)

/-- No target list of a locking clause stands in an executed version comment or holds one. -/
def LockTargetsApart (input : List UInt8) : Prop :=
  (receive grammar (expandStatement keywordLookup modes input).failure .start
    (expandStatement keywordLookup modes input).pieces).isSome

/-- The parser receives the tokens of the expansion, one after the other: all of them, when the
feed comes to the end of the statement. -/
def ReceivesExpansion (input : List UInt8) : Prop :=
  ((feedStatement keywordLookup grammar modes input).received.map FedToken.token <+:
    (expandStatement keywordLookup modes input).tokens) ∧
  ((feedStatement keywordLookup grammar modes input).stop = .fedEof →
    (feedStatement keywordLookup grammar modes input).received.map FedToken.token =
      (expandStatement keywordLookup modes input).tokens)

end Statement

theorem feedStatement_receives {input : List UInt8} {result : FeedResult}
    (received : Receives grammar .start (expandStatement keywordLookup modes input) result) :
    feedStatement keywordLookup grammar modes input = result := by
  have readsRoot : (SqlLexer.init input modes).ReadsRoot input := ⟨rfl, Nat.zero_le _⟩
  apply feedLexerStack_receives readsRoot.stack
  rw [expandStack, expandStack, Expansion.append_nil]
  exact received

/-- Of a statement whose target lists stand apart from its executed version comments the parser
receives the expansion without these lists: every token spans its text in the statement, and an
expansion that an error ends is not taken for a whole statement. Where there are no lists the
tokens are those of the expansion. The lexers on the stack are never more than its limit. -/
theorem parser_receives_expansion (keywordLookup : List UInt8 → Option Keyword)
    (grammar : GrammarParser) (modes : SqlModes) (input : List UInt8) :
    (LockTargetsApart keywordLookup grammar modes input →
      Receives grammar .start (expandStatement keywordLookup modes input)
        (feedStatement keywordLookup grammar modes input) ∧
      (∀ fed ∈ (feedStatement keywordLookup grammar modes input).received,
        fed.token.Spans input) ∧
      ((expandStatement keywordLookup modes input).failure ≠ none →
        (feedStatement keywordLookup grammar modes input).stop ≠ .fedEof)) ∧
    ((∀ token ∈ (expandStatement keywordLookup modes input).tokens,
        tokenTextEquals token ['O', 'F'] = false) →
      LockTargetsApart keywordLookup grammar modes input ∧
      ReceivesExpansion keywordLookup grammar modes input) ∧
    (∀ state, FeedReaches keywordLookup grammar modes input state →
      state.2.length ≤ versionCommentLexerStackLimit) := by
  refine ⟨fun apart => ?_, fun unlisted => ?_, fun state reached => reached.bounded⟩
  · obtain ⟨result, received⟩ := Option.isSome_iff_exists.mp apart
    have readsRoot : (SqlLexer.init input modes).ReadsRoot input := ⟨rfl, Nat.zero_le _⟩
    have source := receive_from received
    rw [feedStatement_receives received]
    refine ⟨received, fun fed member => ?_, fun failed ended => ?_⟩
    · rcases source.tokens fed member with none | expanded
      · cases none
      · exact expandLexer_spans readsRoot.stack.1 _ expanded
    · rcases source.fedEof ended with complete | ⟨last, member, eof⟩
      · exact failed complete
      · exact failed (expandLexer_complete last member eof).2
  · obtain ⟨result, more, received, same, isPrefix, complete⟩ :=
      receive_prefix grammar .start (hasLockTargetList_of_unlisted unlisted) expandLexer_eof_last
    have nothing : FeedContext.start.received = [] := rfl
    rw [nothing, List.nil_append] at same
    rw [ReceivesExpansion, feedStatement_receives received, same]
    exact ⟨Option.isSome_iff_exists.mpr ⟨result, received⟩, isPrefix, complete⟩

/-! A statement that locks the rows of a table it names. -/

def noModes : SqlModes := ⟨false, false, false, false⟩

/-- A grammar that tells the words of a locking clause from the others and refuses nothing. -/
def lockingGrammar : GrammarParser where
  tokenFor := 1
  tokenUpdate := 2
  tokenShare := 3
  mapLexerToken _ token _ _ :=
    some ⟨if tokenTextEquals token ['F', 'O', 'R'] then 1
      else if tokenTextEquals token ['U', 'P', 'D', 'A', 'T', 'E'] then 2
      else if tokenTextEquals token ['S', 'H', 'A', 'R', 'E'] then 3
      else if token.kind = .eof then 0 else 4, false⟩
  refuses _ := false

/-- `SELECT 1 FROM t FOR UPDATE OF t`. -/
def lockingSelect : List UInt8 := spelling "SELECT 1 FROM t FOR UPDATE OF t"

/-- `SELECT /*!80000 1, /*! 2 */ */ FROM t FOR UPDATE OF t NOWAIT`. -/
def versionedSelect : List UInt8 :=
  spelling "SELECT /*!80000 1, /*! 2 */ */ FROM t FOR UPDATE OF t NOWAIT"

theorem parser_receives_expansion_versioned :
    Receives lockingGrammar .start (expandStatement sqlKeywordLookup noModes versionedSelect)
      (feedStatement sqlKeywordLookup lockingGrammar noModes versionedSelect) :=
  ((parser_receives_expansion sqlKeywordLookup lockingGrammar noModes versionedSelect).1
    (by unfold LockTargetsApart; decide +kernel)).1

/-- The parser does not receive the targets of a locking clause. -/
theorem locking_select_leaves_expansion :
    ¬ReceivesExpansion sqlKeywordLookup lockingGrammar noModes lockingSelect := by
  unfold ReceivesExpansion
  decide +kernel

end MyLite.Sql
