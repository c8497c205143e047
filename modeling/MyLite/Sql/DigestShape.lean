import MyLite.Sql.StatementDigest

/-! The shape of a statement: its tokens without the values of literals. A digest renders the
shape of the tokens it reads. -/
namespace MyLite.Sql

/-- What a token leaves when literals are erased. Keywords and operators are taken up to the
spellings that the digest documents as one, identifiers without their quotes. -/
inductive Shape where
  | identifier (name : List UInt8)
  | symbol (text : List UInt8)
  | literal
  | literalList
  | refused
  deriving DecidableEq, Repr

def keywordShape (token : SqlToken) : Shape :=
  if token.isAsciiKeyword nullWord then .literal
  else if token.isAsciiKeyword intWord then .symbol (bytesOf integerText)
  else if token.isAsciiKeyword varcharWord then .symbol (bytesOf varcharacterText)
  else .symbol (token.text.map asciiUpper)

/-- To the parser `||` is another operator than `OR` when pipes concatenate. -/
def operatorShape (modes : SqlModes) (token : SqlToken) : Shape :=
  if modes.pipesAsConcat ∧ token.operatorKind = .logicalOr then .symbol (bytesOf ['|', '|'])
  else
    match token.operatorKind.digestText with
    | some text => .symbol (bytesOf text)
    | none => .symbol token.text

def tokenShapes (modes : SqlModes) (token : SqlToken) : List Shape :=
  match token.kind with
  | .identifier | .quotedIdentifier => [.identifier token.identifierName]
  | .keyword => [keywordShape token]
  | .string | .nationalString | .hexLiteral | .bitLiteral | .integer | .decimal | .float =>
    [.literal]
  | .operator => [operatorShape modes token]
  | .punctuation | .userVariable | .systemVariable => [.symbol token.text]
  | .temporalLiteralIntroducer => [.symbol (token.text.map asciiUpper)]
  | .charsetIntroducer | .comment | .versionComment | .hintComment | .eof => []
  | .error | .parameter => [.refused]

/-- The list that follows IN, if there is one and it is no subquery. -/
inductive InList where
  | absent
  | unclosed
  | closed (body later : List SqlToken)

def inList : List SqlToken → InList
  | [] => .absent
  | token :: rest =>
    if !token.isPunctuation '(' || startsSubquery rest then .absent
    else
      match skipList 1 rest with
      | none => .unclosed
      | some later => .closed (rest.take (rest.length - later.length)).dropLast later

theorem inList_length {tokens body later : List SqlToken}
    (closed : inList tokens = .closed body later) : later.length < tokens.length := by
  unfold inList at closed
  split at closed
  · cases closed
  · split at closed
    · cases closed
    · split at closed
      · cases closed
      · rename_i skipped
        cases closed
        exact Nat.lt_succ_of_le (skipList_length skipped)

section Erase

variable (isLiteralList : List SqlToken → Bool) (modes : SqlModes)

/-- The shape of a token list. NULL is a literal unless it follows IS or IS NOT, and a list after
IN that `isLiteralList` admits is erased whole. Nothing may follow the terminator. -/
def eraseLiterals (ended afterIs afterIsNot : Bool) (tokens : List SqlToken) : List Shape :=
  match tokens with
  | [] => []
  | token :: rest =>
    if ended then [.refused]
    else if token.isAsciiKeyword inWord then
      .symbol (bytesOf inWord) ::
        match _list : inList rest with
        | .absent => eraseLiterals ended afterIs afterIsNot rest
        | .unclosed => [.refused]
        | .closed body later =>
          if isLiteralList body then
            .literalList :: eraseLiterals ended afterIs afterIsNot later
          else eraseLiterals ended afterIs afterIsNot rest
    else
      (if token.isAsciiKeyword nullWord && (afterIs || afterIsNot) then
          [.symbol (bytesOf nullWord)]
        else tokenShapes modes token) ++
        eraseLiterals (token.isPunctuation ';') (token.isAsciiKeyword isWord)
          (afterIs && token.isAsciiKeyword notWord) rest
termination_by tokens.length
decreasing_by
  · exact Nat.lt_succ_self _
  · exact Nat.lt_succ_of_lt (inList_length _list)
  · exact Nat.lt_succ_self _
  · exact Nat.lt_succ_self _

def statementShape (tokens : List SqlToken) : List Shape :=
  eraseLiterals isLiteralList modes false false false tokens

end Erase

/-- The documented reading: every value list after IN is erased. -/
def isValueList (_body : List SqlToken) : Bool :=
  true

/-! The digest renders a shape. -/

def Shape.word : Shape → Option (List UInt8)
  | .identifier name => some (quoteIdentifier name)
  | .symbol text => some text
  | .literal => some (bytesOf placeholderText)
  | .literalList => some (bytesOf listPlaceholderText)
  | .refused => none

def renderShapes (output : List UInt8) : List Shape → Option (List UInt8)
  | [] => some output
  | shape :: shapes =>
    shape.word.bind fun word => renderShapes (appendOutputTokenBytes output word) shapes

theorem renderShapes_append (output : List UInt8) (first second : List Shape) :
    renderShapes output (first ++ second) =
      (renderShapes output first).bind fun rendered => renderShapes rendered second := by
  induction first generalizing output with
  | nil => rfl
  | cons shape first ih =>
    rw [List.cons_append, renderShapes, renderShapes, Option.bind_assoc]
    congr 1
    funext word
    exact ih _

theorem renderShapes_singleton {shape : Shape} {word : List UInt8} (output : List UInt8)
    (renders : shape.word = some word) :
    renderShapes output [shape] = some (appendOutputTokenBytes output word) := by
  rw [renderShapes, renders]
  rfl

/-- The digest spells the token as the parser reads it: a temporal introducer is in upper case,
and no `||` stands for concatenation. -/
structure SqlToken.SpelledAlike (modes : SqlModes) (token : SqlToken) : Prop where
  introducer : token.kind = .temporalLiteralIntroducer → token.text.map asciiUpper = token.text
  concatenation : modes.pipesAsConcat = true → token.operatorKind ≠ .logicalOr

/-- Every list after IN counts as a literal list. -/
def ListsAreLiteral (isLiteralList : List SqlToken → Bool) (tokens : List SqlToken) : Prop :=
  ∀ before token rest body later, tokens = before ++ token :: rest →
    token.isAsciiKeyword inWord = true → inList rest = .closed body later →
      isLiteralList body = true

theorem ListsAreLiteral.suffix {isLiteralList : List SqlToken → Bool}
    {tokens before later : List SqlToken} (lists : ListsAreLiteral isLiteralList tokens)
    (parts : tokens = before ++ later) : ListsAreLiteral isLiteralList later := by
  intro first token rest body behind split
  exact lists (before ++ first) token rest body behind (by rw [parts, split, List.append_assoc])

theorem appendKeywordToken_renders (output : List UInt8) (token : SqlToken) :
    renderShapes output [keywordShape token] = some (appendKeywordToken output token) := by
  unfold keywordShape appendKeywordToken
  split
  · exact renderShapes_singleton output rfl
  · split
    · exact renderShapes_singleton output rfl
    · split
      · exact renderShapes_singleton output rfl
      · exact renderShapes_singleton output rfl

theorem appendOperatorToken_renders {modes : SqlModes} {token : SqlToken} (output : List UInt8)
    (spelled : token.SpelledAlike modes) :
    renderShapes output [operatorShape modes token] = some (appendOperatorToken output token) := by
  unfold operatorShape appendOperatorToken
  rw [if_neg fun concat => spelled.concatenation concat.1 concat.2]
  cases token.operatorKind.digestText with
  | some text => exact renderShapes_singleton output rfl
  | none => exact renderShapes_singleton output rfl

theorem appendNormalizedToken_renders {modes : SqlModes} {token : SqlToken}
    (output : List UInt8) (spelled : token.SpelledAlike modes) :
    (appendNormalizedToken output token).toOption =
      renderShapes output (tokenShapes modes token) := by
  have introducer := spelled.introducer
  unfold appendNormalizedToken tokenShapes
  cases kind : token.kind with
  | identifier => exact (renderShapes_singleton output rfl).symm
  | quotedIdentifier => exact (renderShapes_singleton output rfl).symm
  | keyword => exact (appendKeywordToken_renders output token).symm
  | operator => exact (appendOperatorToken_renders output spelled).symm
  | temporalLiteralIntroducer =>
    dsimp only
    rw [introducer kind]
    exact (renderShapes_singleton output rfl).symm
  | _ => rfl

/-- The list after IN: what the digest appends for it and goes on with. -/
theorem appendInListPlaceholder_cases (output : List UInt8) (tokens : List SqlToken) :
    match inList tokens with
    | .absent => appendInListPlaceholder output tokens = .ok (output, tokens)
    | .unclosed => appendInListPlaceholder output tokens = .error .misuse
    | .closed _ later => appendInListPlaceholder output tokens =
        .ok (appendOutputToken output listPlaceholderText, later) := by
  cases tokens with
  | nil => rfl
  | cons token rest =>
    unfold inList appendInListPlaceholder
    by_cases absent : (!token.isPunctuation '(' || startsSubquery rest) = true
    · simp only [if_pos absent]
    · simp only [if_neg absent]
      cases skipList 1 rest <;> rfl

theorem skipList_suffix {depth : Nat} {tokens later : List SqlToken}
    (closed : skipList depth tokens = some later) : later <:+ tokens := by
  fun_induction skipList depth tokens with
  | case1 tokens =>
    cases closed
    exact List.suffix_rfl
  | case2 => cases closed
  | case3 depth token tokens _ ih => exact (ih closed).trans (List.suffix_cons token tokens)
  | case4 depth token tokens _ _ ih => exact (ih closed).trans (List.suffix_cons token tokens)
  | case5 depth token tokens _ _ ih => exact (ih closed).trans (List.suffix_cons token tokens)

theorem inList_suffix {tokens body later : List SqlToken}
    (closed : inList tokens = .closed body later) : later <:+ tokens := by
  unfold inList at closed
  split at closed
  · cases closed
  · rename_i token rest
    split at closed
    · cases closed
    · split at closed
      · cases closed
      · rename_i skipped
        cases closed
        exact (skipList_suffix skipped).trans (List.suffix_cons token rest)

theorem normalizeTokens_in {token : SqlToken} (isIn : token.isAsciiKeyword inWord = true)
    (output : List UInt8) (afterIs afterIsNot : Bool) (rest : List SqlToken) :
    normalizeTokens output false afterIs afterIsNot (token :: rest) =
      (appendInListPlaceholder (appendOutputToken output inWord) rest).bind fun appended =>
        normalizeTokens appended.1 false afterIs afterIsNot appended.2 := by
  have notParameter : token.kind ≠ .parameter := by
    intro parameter
    rw [SqlToken.isAsciiKeyword, parameter] at isIn
    cases isIn
  rw [normalizeTokens, if_neg Bool.false_ne_true, if_neg notParameter, if_pos isIn]
  split
  · rename_i failed
    rw [failed]
    rfl
  · rename_i appended
    rw [appended]
    rfl

/-- The loop of the digest renders the shape of the tokens it runs over. -/
theorem normalizeTokens_renders {isLiteralList : List SqlToken → Bool} {modes : SqlModes}
    {tokens : List SqlToken} (output : List UInt8) (ended afterIs afterIsNot : Bool)
    (spelled : ∀ token ∈ tokens, token.SpelledAlike modes)
    (lists : ListsAreLiteral isLiteralList tokens) :
    (normalizeTokens output ended afterIs afterIsNot tokens).toOption =
      renderShapes output
        (eraseLiterals isLiteralList modes ended afterIs afterIsNot tokens) := by
  induction bound : tokens.length using Nat.strongRecOn
    generalizing tokens output ended afterIs afterIsNot with
  | ind _ ih =>
    cases tokens with
    | nil =>
      rw [normalizeTokens, eraseLiterals]
      rfl
    | cons token rest =>
      have later {behind : List SqlToken} (suffix : behind <:+ rest) (output : List UInt8)
          (ended afterIs afterIsNot : Bool) :
          (normalizeTokens output ended afterIs afterIsNot behind).toOption =
            renderShapes output
              (eraseLiterals isLiteralList modes ended afterIs afterIsNot behind) := by
        obtain ⟨before, parts⟩ := suffix.trans (List.suffix_cons token rest)
        refine ih _ ?_ output ended afterIs afterIsNot
          (fun other member => spelled other ?_) (lists.suffix parts.symm) rfl
        · rw [← bound, List.length_cons]
          exact Nat.lt_succ_of_le suffix.length_le
        · rw [← parts]
          exact List.mem_append_right before member
      have here := spelled token (List.mem_cons_self ..)
      cases ended with
      | true =>
        rw [normalizeTokens, eraseLiterals, if_pos rfl, if_pos rfl]
        rfl
      | false =>
        by_cases isIn : token.isAsciiKeyword inWord = true
        · rw [normalizeTokens_in isIn, eraseLiterals, if_neg Bool.false_ne_true, if_pos isIn,
            renderShapes]
          change _ = renderShapes (appendOutputToken output inWord) _
          have listed := appendInListPlaceholder_cases (appendOutputToken output inWord) rest
          cases list : inList rest with
          | absent =>
            simp only [list] at listed
            simp only [listed]
            exact later List.suffix_rfl _ _ _ _
          | unclosed =>
            simp only [list] at listed
            simp only [listed]
            rfl
          | closed body behind =>
            simp only [list] at listed
            have literal := lists [] token rest body behind rfl isIn list
            simp only [listed, literal, if_true]
            exact later (inList_suffix list) _ _ _ _
        · rw [normalizeTokens, eraseLiterals, if_neg Bool.false_ne_true,
            if_neg Bool.false_ne_true, if_neg isIn, if_neg isIn, renderShapes_append]
          by_cases parameter : token.kind = .parameter
          · rw [if_pos parameter]
            have ordinary : token.isAsciiKeyword nullWord = false := by
              rw [SqlToken.isAsciiKeyword, parameter]
              rfl
            have refused : tokenShapes modes token = [.refused] := by
              rw [tokenShapes, parameter]
            rw [ordinary, Bool.false_and, if_neg Bool.false_ne_true, refused]
            rfl
          · rw [if_neg parameter]
            by_cases keeps :
                (token.isAsciiKeyword nullWord && (afterIs || afterIsNot)) = true
            · simp only [if_pos keeps]
              exact later List.suffix_rfl _ _ _ _
            · simp only [if_neg keeps]
              have renders := appendNormalizedToken_renders output here
              cases appended : appendNormalizedToken output token with
              | error error =>
                rw [appended] at renders
                rw [← renders]
                rfl
              | ok text =>
                rw [appended] at renders
                rw [← renders]
                exact later List.suffix_rfl _ _ _ _

end MyLite.Sql
