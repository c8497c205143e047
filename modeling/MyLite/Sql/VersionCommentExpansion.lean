import MyLite.Sql.ParserFeed

/-! The recursive expansion of a statement: the tokens of an executed version comment's body in
the comment's place, without the comments that are not executed. -/
namespace MyLite.Sql

/-- A token, the lexer that took it and the number of version comments it is in; or a boundary
of an executed version comment. -/
inductive ExpandedPiece where
  | token (token : SqlToken) (lexer : SqlLexer) (depth : Nat)
  | boundary

/-- What a text expands to, up to the error that ends it early. -/
structure Expansion where
  pieces : List ExpandedPiece
  failure : Option ParseStatus

namespace Expansion

def cons (piece : ExpandedPiece) (rest : Expansion) : Expansion :=
  ⟨piece :: rest.pieces, rest.failure⟩

def append (first second : Expansion) : Expansion :=
  if first.failure = none then ⟨first.pieces ++ second.pieces, second.failure⟩ else first

/-- The tokens, the one at the end of the statement among them. -/
def tokens (expansion : Expansion) : List SqlToken :=
  expansion.pieces.filterMap fun
    | .token token _ _ => some token
    | .boundary => none

end Expansion

/-- A token with its place in the statement. -/
def SqlToken.rebased (token : SqlToken) (base rootLength : Nat) : SqlToken :=
  { token with offset := base + token.offset, sourceLength := rootLength }

@[simp] theorem SqlToken.rebased_kind (token : SqlToken) (base rootLength : Nat) :
    (token.rebased base rootLength).kind = token.kind :=
  rfl

@[simp] theorem SqlToken.rebased_text (token : SqlToken) (base rootLength : Nat) :
    (token.rebased base rootLength).text = token.text :=
  rfl

section Expand

variable (keywordLookup : List UInt8 → Option Keyword) (modes : SqlModes) (rootLength : Nat)

/-- The expansion of what a lexer has still to read, `depth` version comments deep. -/
def expandLexer (depth : Nat) (current : StackedLexer) : Expansion :=
  let taken := current.lexer.next keywordLookup
  let token := taken.1.rebased current.base rootLength
  if _eof : taken.1.kind = .eof then
    ⟨if depth = 0 then [.token token taken.2 depth] else [.boundary], none⟩
  else if taken.1.kind = .versionComment then
    match _parsed : versionCommentParse taken.1.text with
    | none => ⟨[.boundary], some .syntaxError⟩
    | some payload =>
      if !payload.active || payload.text = [] then expandLexer depth ⟨taken.2, current.base⟩
      else if depth + 1 ≥ versionCommentLexerStackLimit then ⟨[.boundary], some .syntaxError⟩
      else
        ((expandLexer (depth + 1)
          ⟨SqlLexer.init payload.text modes, token.offset + payload.offset⟩).append
            (expandLexer depth ⟨taken.2, current.base⟩)).cons .boundary
  else if tokenIsComment taken.1.kind then expandLexer depth ⟨taken.2, current.base⟩
  else if taken.1.kind = .error then ⟨[], some .lexerError⟩
  else (expandLexer depth ⟨taken.2, current.base⟩).cons (.token token taken.2 depth)
termination_by current.lexer.remaining
decreasing_by
  all_goals have less := SqlLexer.next_remaining keywordLookup _eof
  · omega
  · have short := versionCommentParse_length _parsed
    change payload.text.length < current.lexer.remaining
    change payload.text.length + 5 ≤ (current.lexer.next keywordLookup).1.text.length at short
    omega
  · omega
  · omega
  · omega

/-- The expansion of a stack of lexers, the innermost first. -/
def expandStack : List StackedLexer → Expansion
  | [] => ⟨[], none⟩
  | current :: below =>
    (expandLexer keywordLookup modes rootLength below.length current).append (expandStack below)

end Expand

def expandStatement (keywordLookup : List UInt8 → Option Keyword) (modes : SqlModes)
    (input : List UInt8) : Expansion :=
  expandLexer keywordLookup modes input.length 0 ⟨SqlLexer.init input modes, 0⟩

namespace Expansion

theorem append_assoc (first second third : Expansion) :
    (first.append second).append third = first.append (second.append third) := by
  unfold append
  by_cases complete : first.failure = none
  · rw [if_pos complete, if_pos complete]
    by_cases secondComplete : second.failure = none
    · rw [if_pos secondComplete, if_pos secondComplete, List.append_assoc]
    · rw [if_neg secondComplete, if_neg secondComplete]
  · rw [if_neg complete, if_neg complete, if_neg complete]

theorem append_nil (expansion : Expansion) : expansion.append ⟨[], none⟩ = expansion := by
  unfold append
  split
  · rename_i complete
    rw [List.append_nil, ← complete]
  · rfl

theorem cons_append (piece : ExpandedPiece) (first second : Expansion) :
    (first.cons piece).append second = (first.append second).cons piece := by
  unfold append cons
  dsimp only
  split
  · rfl
  · rfl

end Expansion

/-! Where the tokens stand in the statement. -/

/-- The token is the text it spans in the statement. -/
structure SqlToken.Spans (token : SqlToken) (root : List UInt8) : Prop where
  inside : token.offset + token.length ≤ root.length
  text : token.text = root.extract token.offset (token.offset + token.length)
  sourceLength : token.sourceLength = root.length

/-- The lexer reads the part of the statement that begins at its base. -/
structure StackedLexer.Reads (current : StackedLexer) (root : List UInt8) : Prop where
  inside : current.lexer.offset ≤ current.lexer.input.length
  fits : current.base + current.lexer.input.length ≤ root.length
  input : current.lexer.input =
    root.extract current.base (current.base + current.lexer.input.length)

theorem extract_extract {root : List UInt8} {base length start stop : Nat}
    (forward : start ≤ stop) (inside : stop ≤ length) :
    (root.extract base (base + length)).extract start stop =
      root.extract (base + start) (base + stop) := by
  simp only [List.extract_eq_take_drop, List.drop_take, List.take_take, List.drop_drop]
  congr 1
  omega

variable {keywordLookup : List UInt8 → Option Keyword} {modes : SqlModes}

theorem SqlLexer.next_eof_text {lexer : SqlLexer}
    (eof : (lexer.next keywordLookup).1.kind = .eof) : (lexer.next keywordLookup).1.text = [] := by
  unfold next at eof ⊢
  generalize consumed : lexer.consumeWhitespace = start at eof ⊢
  dsimp only at eof ⊢
  split at eof
  · rename_i atEnd
    rw [if_pos atEnd, setToken, makeTokenStart, List.extract_eq_take_drop, Nat.sub_self,
      List.take_zero]
  · rename_i notEnd
    exact absurd eof (scanToken_takes _ (Nat.lt_of_not_le notEnd)).kind

/-- What a lexer takes spans its text in the statement. -/
theorem StackedLexer.Reads.next_spans {current : StackedLexer} {root : List UInt8}
    (reads : current.Reads root) (keywordLookup : List UInt8 → Option Keyword) :
    ((current.lexer.next keywordLookup).1.rebased current.base root.length).Spans root := by
  have fits := reads.fits
  rcases SqlLexer.next_cases keywordLookup reads.inside with
    ⟨_, eof, offset, length, _⟩ | ⟨start, _, takes⟩
  · have text := SqlLexer.next_eof_text eof
    refine ⟨?_, ?_, rfl⟩
    · rw [SqlToken.rebased, offset, length]
      exact fits
    · rw [SqlToken.rebased, text, length, List.extract_eq_take_drop, Nat.add_zero, Nat.sub_self,
        List.take_zero]
  · have stop := takes.continues.inside reads.inside
    have nonempty := takes.nonempty
    have length := takes.length
    refine ⟨?_, ?_, rfl⟩
    · rw [SqlToken.rebased, takes.offset]
      dsimp only
      omega
    · rw [SqlToken.rebased, takes.text, takes.offset]
      dsimp only
      rw [reads.input, extract_extract (Nat.le_of_lt nonempty) stop, Nat.add_assoc, length]

theorem StackedLexer.Reads.after {current : StackedLexer} {root : List UInt8}
    (reads : current.Reads root) :
    StackedLexer.Reads ⟨(current.lexer.next keywordLookup).2, current.base⟩ root := by
  have continues := SqlLexer.next_continues keywordLookup reads.inside
  have same := continues.input
  refine ⟨?_, ?_, ?_⟩
  · dsimp only
    rw [same]
    exact continues.inside reads.inside
  · dsimp only
    rw [same]
    exact reads.fits
  · dsimp only
    rw [same]
    exact reads.input

/-- The body of a version comment is the part of its text from the payload's offset on. -/
theorem versionCommentParse_slice {text : List UInt8} {payload : VersionCommentPayload}
    (parsed : versionCommentParse text = some payload) :
    payload.offset + payload.text.length ≤ text.length ∧
      payload.text = text.extract payload.offset (payload.offset + payload.text.length) := by
  unfold versionCommentParse at parsed
  split at parsed
  · cases parsed
  · rename_i shape
    have long : 5 ≤ text.length := Nat.le_of_not_lt fun short => shape (.inl short)
    dsimp only at parsed
    have digits : ((text.extract 3 (text.length - 2)).takeWhile isDigit).length ≤
        text.length - 5 := by
      have part : ((text.extract 3 (text.length - 2)).takeWhile isDigit).length ≤
          (text.extract 3 (text.length - 2)).length := (List.takeWhile_sublist _).length_le
      have whole : (text.extract 3 (text.length - 2)).length ≤ text.length - 2 - 3 := by
        rw [List.extract_eq_take_drop, List.length_take]
        exact Nat.min_le_left _ _
      omega
    generalize ((text.extract 3 (text.length - 2)).takeWhile isDigit) = version at parsed digits
    obtain rfl := Option.some.inj parsed
    dsimp only
    rw [List.extract_eq_take_drop, List.drop_take, List.drop_drop, List.length_take,
      List.length_drop, List.extract_eq_take_drop]
    constructor
    · omega
    · congr 1
      omega

/-- So does the lexer of a version comment's body. -/
theorem StackedLexer.Reads.body {token : SqlToken} {root : List UInt8}
    {payload : VersionCommentPayload} (spans : token.Spans root)
    (parsed : versionCommentParse token.text = some payload) :
    StackedLexer.Reads ⟨SqlLexer.init payload.text modes, token.offset + payload.offset⟩ root := by
  obtain ⟨fits, slice⟩ := versionCommentParse_slice parsed
  have inside := spans.inside
  have length : token.text.length = token.length := by
    rw [spans.text, List.extract_eq_take_drop, List.length_take, List.length_drop]
    omega
  refine ⟨Nat.zero_le _, ?_, ?_⟩
  · change token.offset + payload.offset + payload.text.length ≤ root.length
    omega
  · change payload.text = root.extract (token.offset + payload.offset)
      (token.offset + payload.offset + payload.text.length)
    have inner : (root.extract token.offset (token.offset + token.length)).extract payload.offset
        (payload.offset + payload.text.length) = _ :=
      extract_extract (Nat.le_add_right _ _) (by omega)
    rw [← spans.text, ← slice] at inner
    rw [Nat.add_assoc]
    exact inner

theorem notVersion_of_notComment {kind : SqlTokenKind} (notComment : ¬tokenIsComment kind = true) :
    kind ≠ .versionComment := by
  rintro rfl
  exact notComment rfl

/-! One token of an expansion. -/

section Step

variable {rootLength depth base : Nat} {lexer : SqlLexer}

theorem expandLexer_eof (eof : (lexer.next keywordLookup).1.kind = .eof) :
    expandLexer keywordLookup modes rootLength depth ⟨lexer, base⟩ =
      ⟨if depth = 0 then
        [.token ((lexer.next keywordLookup).1.rebased base rootLength)
          (lexer.next keywordLookup).2 depth]
      else [.boundary], none⟩ := by
  rw [expandLexer]
  exact dif_pos eof

/-- A version comment that is not executed leaves nothing behind. -/
theorem expandLexer_skipped {payload : VersionCommentPayload}
    (version : (lexer.next keywordLookup).1.kind = .versionComment)
    (parsed : versionCommentParse (lexer.next keywordLookup).1.text = some payload)
    (skipped : (!payload.active || payload.text = []) = true) :
    expandLexer keywordLookup modes rootLength depth ⟨lexer, base⟩ =
      expandLexer keywordLookup modes rootLength depth
        ⟨(lexer.next keywordLookup).2, base⟩ := by
  rw [expandLexer, dif_neg (by rw [version]; decide), if_pos version]
  split
  · rename_i failed
    rw [parsed] at failed
    cases failed
  · rename_i other found
    obtain rfl := Option.some.inj (parsed.symm.trans found)
    rw [if_pos skipped]

/-- An executed version comment stands for its body, between two boundaries. -/
theorem expandLexer_executed {payload : VersionCommentPayload}
    (version : (lexer.next keywordLookup).1.kind = .versionComment)
    (parsed : versionCommentParse (lexer.next keywordLookup).1.text = some payload)
    (executed : ¬(!payload.active || payload.text = []) = true) :
    expandLexer keywordLookup modes rootLength depth ⟨lexer, base⟩ =
      if depth + 1 ≥ versionCommentLexerStackLimit then ⟨[.boundary], some .syntaxError⟩
      else
        ((expandLexer keywordLookup modes rootLength (depth + 1)
          ⟨SqlLexer.init payload.text modes,
            base + (lexer.next keywordLookup).1.offset + payload.offset⟩).append
          (expandLexer keywordLookup modes rootLength depth
            ⟨(lexer.next keywordLookup).2, base⟩)).cons .boundary := by
  rw [expandLexer, dif_neg (by rw [version]; decide), if_pos version]
  split
  · rename_i failed
    rw [parsed] at failed
    cases failed
  · rename_i other found
    obtain rfl := Option.some.inj (parsed.symm.trans found)
    rw [if_neg executed]
    rfl

theorem expandLexer_malformed
    (version : (lexer.next keywordLookup).1.kind = .versionComment)
    (failed : versionCommentParse (lexer.next keywordLookup).1.text = none) :
    expandLexer keywordLookup modes rootLength depth ⟨lexer, base⟩ =
      ⟨[.boundary], some .syntaxError⟩ := by
  rw [expandLexer, dif_neg (by rw [version]; decide), if_pos version]
  split
  · rfl
  · rename_i other found
    rw [failed] at found
    cases found

theorem expandLexer_comment
    (notVersion : (lexer.next keywordLookup).1.kind ≠ .versionComment)
    (comment : tokenIsComment (lexer.next keywordLookup).1.kind = true) :
    expandLexer keywordLookup modes rootLength depth ⟨lexer, base⟩ =
      expandLexer keywordLookup modes rootLength depth
        ⟨(lexer.next keywordLookup).2, base⟩ := by
  have notEof : (lexer.next keywordLookup).1.kind ≠ .eof := by
    intro eof
    rw [eof] at comment
    cases comment
  rw [expandLexer, dif_neg notEof, if_neg notVersion, if_pos comment]

theorem expandLexer_error (error : (lexer.next keywordLookup).1.kind = .error) :
    expandLexer keywordLookup modes rootLength depth ⟨lexer, base⟩ = ⟨[], some .lexerError⟩ := by
  rw [expandLexer, dif_neg (by rw [error]; decide), if_neg (by rw [error]; decide),
    if_neg (by rw [error]; decide), if_pos error]

theorem expandLexer_token (notEof : (lexer.next keywordLookup).1.kind ≠ .eof)
    (notComment : ¬tokenIsComment (lexer.next keywordLookup).1.kind = true)
    (notError : (lexer.next keywordLookup).1.kind ≠ .error) :
    expandLexer keywordLookup modes rootLength depth ⟨lexer, base⟩ =
      (expandLexer keywordLookup modes rootLength depth
        ⟨(lexer.next keywordLookup).2, base⟩).cons
          (.token ((lexer.next keywordLookup).1.rebased base rootLength)
            (lexer.next keywordLookup).2 depth) := by
  rw [expandLexer, dif_neg notEof, if_neg (notVersion_of_notComment notComment),
    if_neg notComment, if_neg notError]

end Step

namespace Expansion

@[simp] theorem tokens_cons_token (token : SqlToken) (lexer : SqlLexer) (depth : Nat)
    (rest : Expansion) : (rest.cons (.token token lexer depth)).tokens = token :: rest.tokens :=
  rfl

@[simp] theorem tokens_cons_boundary (rest : Expansion) :
    (rest.cons .boundary).tokens = rest.tokens :=
  rfl

theorem mem_tokens_append {first second : Expansion} {token : SqlToken}
    (member : token ∈ (first.append second).tokens) :
    token ∈ first.tokens ∨ first.failure = none ∧ token ∈ second.tokens := by
  unfold append tokens at member
  split at member
  · rename_i complete
    rw [List.filterMap_append] at member
    rcases List.mem_append.mp member with inFirst | inSecond
    · exact .inl inFirst
    · exact .inr ⟨complete, inSecond⟩
  · exact .inl member

end Expansion

/-- Every token of the expansion spans its text in the statement. -/
theorem expandLexer_spans {root : List UInt8} {depth : Nat} {current : StackedLexer}
    (reads : current.Reads root) : ∀ token ∈
      (expandLexer keywordLookup modes root.length depth current).tokens, token.Spans root := by
  fun_induction expandLexer keywordLookup modes root.length depth current with
  | case1 depth current taken token eof =>
    intro other member
    split at member
    · obtain rfl := List.mem_singleton.mp member
      exact reads.next_spans keywordLookup
    · cases member
  | case2 | case4 | case7 =>
    intro other member
    cases member
  | case3 _ _ _ _ _ _ _ _ ih | case6 _ _ _ _ _ _ ih => exact ih reads.after
  | case5 depth current taken token _ _ payload parsed _ _ body rest =>
    intro other member
    rcases Expansion.mem_tokens_append member with inBody | ⟨complete, inRest⟩
    · exact body (StackedLexer.Reads.body (reads.next_spans keywordLookup) parsed) other inBody
    · exact rest reads.after other inRest
  | case8 depth current taken token _ _ _ _ ih =>
    intro other member
    rcases List.mem_cons.mp member with rfl | inRest
    · exact reads.next_spans keywordLookup
    · exact ih reads.after other inRest

/-- The end of the statement is a token of an expansion that no error ends. -/
theorem expandLexer_complete {rootLength depth : Nat} {current : StackedLexer} :
    ∀ token ∈ (expandLexer keywordLookup modes rootLength depth current).tokens,
      token.kind = .eof →
        depth = 0 ∧ (expandLexer keywordLookup modes rootLength depth current).failure = none := by
  fun_induction expandLexer keywordLookup modes rootLength depth current with
  | case1 depth current taken token eof =>
    intro other member _
    split at member
    · exact ⟨‹_›, rfl⟩
    · cases member
  | case2 | case4 | case7 =>
    intro other member
    cases member
  | case3 _ _ _ _ _ _ _ _ ih | case6 _ _ _ _ _ _ ih => exact ih
  | case5 depth current taken token _ _ payload parsed _ _ body rest =>
    intro other member eof
    rcases Expansion.mem_tokens_append member with inBody | ⟨complete, inRest⟩
    · exact absurd (body other inBody eof).1 (Nat.succ_ne_zero _)
    · obtain ⟨outermost, ended⟩ := rest other inRest eof
      refine ⟨outermost, ?_⟩
      rw [Expansion.cons, Expansion.append, if_pos complete]
      exact ended
  | case8 depth current taken token notEof _ _ _ ih =>
    intro other member eof
    rcases List.mem_cons.mp member with rfl | inRest
    · exact absurd eof notEof
    · exact ih other inRest eof

/-- Nothing comes after the end of the statement. -/
theorem expandLexer_eof_last {rootLength depth : Nat} {current : StackedLexer} :
    (expandLexer keywordLookup modes rootLength depth current).tokens.Pairwise
      fun earlier _ => earlier.kind ≠ .eof := by
  fun_induction expandLexer keywordLookup modes rootLength depth current with
  | case1 depth current taken token eof =>
    rw [Expansion.tokens]
    split
    · exact List.pairwise_singleton _ _
    · exact List.Pairwise.nil
  | case2 | case4 | case7 => exact List.Pairwise.nil
  | case3 _ _ _ _ _ _ _ _ ih | case6 _ _ _ _ _ _ ih => exact ih
  | case5 depth current taken token _ _ payload parsed _ _ body rest =>
    rw [Expansion.tokens_cons_boundary, Expansion.append]
    split
    · rw [Expansion.tokens, List.filterMap_append]
      refine List.pairwise_append.mpr ⟨body, rest, fun earlier inBody _ _ eof => ?_⟩
      exact absurd (expandLexer_complete earlier inBody eof).1 (Nat.succ_ne_zero _)
    · exact body
  | case8 depth current taken token notEof _ _ _ ih =>
    rw [Expansion.tokens_cons_token]
    exact List.pairwise_cons.mpr ⟨fun _ _ => notEof, ih⟩

/-! A statement without executed version comments. -/

theorem SqlLexer.next_rebased (keywordLookup : List UInt8 → Option Keyword) {lexer : SqlLexer}
    (inside : lexer.offset ≤ lexer.input.length) :
    (lexer.next keywordLookup).1.rebased 0 lexer.input.length = (lexer.next keywordLookup).1 := by
  have fits := lexer.rebase_next keywordLookup inside
  unfold rebaseTokenToRootInput at fits
  split at fits
  · cases fits
  · exact Option.some.inj fits

/-- Its expansion are its own tokens, without the comments and with the end of the input. -/
theorem expandLexer_unexecuted {lexer : SqlLexer} (inside : lexer.offset ≤ lexer.input.length)
    (unexecuted : ∀ token ∈ lexer.tokens keywordLookup, token.isExecuted = false)
    (complete : (expandLexer keywordLookup modes lexer.input.length 0 ⟨lexer, 0⟩).failure = none) :
    (expandLexer keywordLookup modes lexer.input.length 0 ⟨lexer, 0⟩).tokens.filter
        (fun token => token.kind ≠ .eof) =
      (lexer.tokens keywordLookup).filter fun token => !tokenIsComment token.kind := by
  induction bound : lexer.remaining using Nat.strongRecOn generalizing lexer with
  | ind _ ih =>
    by_cases eof : (lexer.next keywordLookup).1.kind = .eof
    · rw [expandLexer_eof eof, SqlLexer.tokens, if_pos eof]
      simp [Expansion.tokens, eof]
    rw [SqlLexer.tokens, if_neg eof] at unexecuted ⊢
    have here := unexecuted _ List.mem_cons_self
    have same := (SqlLexer.next_continues keywordLookup inside).input
    have less := SqlLexer.next_remaining keywordLookup eof
    have rest (complete : (expandLexer keywordLookup modes lexer.input.length 0
        ⟨(lexer.next keywordLookup).2, 0⟩).failure = none) :
        (expandLexer keywordLookup modes lexer.input.length 0
          ⟨(lexer.next keywordLookup).2, 0⟩).tokens.filter (fun token => token.kind ≠ .eof) =
        ((lexer.next keywordLookup).2.tokens keywordLookup).filter fun token =>
          !tokenIsComment token.kind := by
      have stop := (SqlLexer.next_continues keywordLookup inside).inside inside
      rw [← same] at stop complete ⊢
      exact ih _ (by omega) stop
        (fun token member => unexecuted token (List.mem_cons_of_mem _ member)) complete rfl
    by_cases comment : tokenIsComment (lexer.next keywordLookup).1.kind = true
    · rw [List.filter_cons_of_neg (by simp [comment])]
      by_cases version : (lexer.next keywordLookup).1.kind = .versionComment
      · cases parsed : versionCommentParse (lexer.next keywordLookup).1.text with
        | none =>
          rw [expandLexer_malformed version parsed] at complete
          cases complete
        | some payload =>
          have skipped : (!payload.active || payload.text = []) = true := by
            rw [SqlToken.isExecuted, version, parsed] at here
            simpa [Decidable.imp_iff_not_or] using here
          rw [expandLexer_skipped version parsed skipped] at complete ⊢
          exact rest complete
      · rw [expandLexer_comment version comment] at complete ⊢
        exact rest complete
    · rw [List.filter_cons_of_pos (by simp [comment])]
      by_cases error : (lexer.next keywordLookup).1.kind = .error
      · rw [expandLexer_error error] at complete
        cases complete
      · rw [expandLexer_token eof comment error] at complete ⊢
        rw [Expansion.tokens_cons_token, SqlLexer.next_rebased keywordLookup inside,
          List.filter_cons_of_pos (by simp [eof]), rest complete]

end MyLite.Sql
