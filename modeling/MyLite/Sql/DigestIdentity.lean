import MyLite.Sql.DigestShape
import MyLite.Sql.ParserReceives
import MyLite.Sql.TokenSpelling

/-! Statements with one digest have one shape. The words of a digest are read back from it: none
has a space outside of quotes, and no two shapes are rendered alike. -/
namespace MyLite.Sql

/-- A text that is no identifier and no placeholder. -/
def IsSymbol (escapes : Bool) (text : List UInt8) : Prop :=
  ∃ first rest, text = first :: rest ∧ first ≠ backtick ∧ first ≠ ascii '?' ∧
    (first = ascii '(' → rest = []) ∧ ReadsWhole escapes text

def Shape.WellFormed (escapes : Bool) : Shape → Prop
  | .symbol text => IsSymbol escapes text
  | _ => True

/-! Identifiers. -/

def escapeBackticks (name : List UInt8) : List UInt8 :=
  name.flatMap fun byte => if byte = backtick then [backtick, backtick] else [byte]

theorem escapeBackticks_reads {escapes : Bool} (name : List UInt8) :
    Delimited.Reads (quoteStep escapes) (.quoted backtick) (escapeBackticks name)
      (.quoted backtick) := by
  induction name with
  | nil => exact Delimited.reads_nil _
  | cons byte name ih =>
    change Delimited.Reads _ _ ((if byte = backtick then [backtick, backtick] else [byte]) ++
      escapeBackticks name) _
    by_cases doubled : byte = backtick
    · rw [if_pos doubled]
      exact .cons (quoteStep_close backtick) (.cons (quoteStep_open (by decide)) ih)
    · rw [if_neg doubled]
      refine .cons ?_ ih
      rw [quoteStep, if_neg doubled, if_neg (fun escape => escape.2.1 rfl)]

theorem quoteIdentifier_reads {escapes : Bool} (name : List UInt8) :
    ReadsWhole escapes (quoteIdentifier name) :=
  .cons (quoteStep_open (by decide)) ((escapeBackticks_reads name).append
    (Delimited.reads_singleton (quoteStep_close backtick)))

theorem escapeBackticks_injective {first second : List UInt8}
    (same : escapeBackticks first = escapeBackticks second) : first = second := by
  induction first generalizing second with
  | nil =>
    cases second with
    | nil => rfl
    | cons byte second =>
      simp only [escapeBackticks, List.flatMap_nil, List.flatMap_cons] at same
      split at same <;> cases same
  | cons byte first ih =>
    cases second with
    | nil =>
      simp only [escapeBackticks, List.flatMap_nil, List.flatMap_cons] at same
      split at same <;> cases same
    | cons other second =>
      simp only [escapeBackticks, List.flatMap_cons] at same
      split at same
      · rename_i isBacktick
        split at same
        · rename_i otherBacktick
          rw [isBacktick, otherBacktick, ih (List.append_cancel_left same)]
        · rename_i otherPlain
          exact absurd (List.cons.inj same).1.symm otherPlain
      · rename_i plain
        split at same
        · exact absurd (List.cons.inj same).1 plain
        · obtain ⟨rfl, rest⟩ := List.cons.inj same
          rw [ih rest]

theorem quoteIdentifier_injective {first second : List UInt8}
    (same : quoteIdentifier first = quoteIdentifier second) : first = second :=
  escapeBackticks_injective (List.append_cancel_right (List.cons.inj same).2)

/-! Words. -/

theorem Shape.word_reads {escapes : Bool} {shape : Shape} {word : List UInt8}
    (wellFormed : shape.WellFormed escapes) (renders : shape.word = some word) :
    word ≠ [] ∧ ReadsWhole escapes word := by
  cases shape with
  | identifier name =>
    cases renders
    exact ⟨List.cons_ne_nil _ _, quoteIdentifier_reads name⟩
  | symbol text =>
    cases renders
    obtain ⟨first, rest, rfl, _, _, _, reads⟩ := wellFormed
    exact ⟨List.cons_ne_nil _ _, reads⟩
  | literal =>
    cases renders
    exact ⟨by decide, readsWhole_of_plain (List.all_eq_true.mp (by decide))⟩
  | literalList =>
    cases renders
    exact ⟨by decide, readsWhole_of_plain (List.all_eq_true.mp (by decide))⟩
  | refused => cases renders

/-- The shape that a word renders, but for the name of an identifier. -/
def Shape.ofWord (word : List UInt8) : Shape :=
  if word.head? = some backtick then .identifier []
  else if word = bytesOf placeholderText then .literal
  else if word = bytesOf listPlaceholderText then .literalList
  else .symbol word

def Shape.withoutName : Shape → Shape
  | .identifier _ => .identifier []
  | shape => shape

theorem Shape.ofWord_word {escapes : Bool} {shape : Shape} {word : List UInt8}
    (wellFormed : shape.WellFormed escapes) (renders : shape.word = some word) :
    Shape.ofWord word = shape.withoutName := by
  cases shape with
  | identifier name =>
    cases renders
    rfl
  | symbol text =>
    cases renders
    obtain ⟨first, rest, rfl, notBacktick, notPlaceholder, opening, _⟩ := wellFormed
    have notList : first :: rest ≠ bytesOf listPlaceholderText := by
      intro list
      obtain ⟨isOpening, more⟩ := List.cons.inj list
      rw [opening isOpening] at more
      cases more
    have notQuoted : (first :: rest).head? ≠ some backtick :=
      fun head => notBacktick (Option.some.inj head)
    have notLiteral : first :: rest ≠ bytesOf placeholderText :=
      fun placeholder => notPlaceholder (List.cons.inj placeholder).1
    rw [Shape.ofWord, if_neg notQuoted, if_neg notLiteral, if_neg notList]
    rfl
  | literal =>
    cases renders
    decide
  | literalList =>
    cases renders
    decide
  | refused => cases renders

/-- No two shapes are rendered alike. -/
theorem Shape.word_injective {escapes : Bool} {first second : Shape} {word : List UInt8}
    (firstWellFormed : first.WellFormed escapes) (secondWellFormed : second.WellFormed escapes)
    (firstRenders : first.word = some word) (secondRenders : second.word = some word) :
    first = second := by
  have same : first.withoutName = second.withoutName :=
    (Shape.ofWord_word firstWellFormed firstRenders).symm.trans
      (Shape.ofWord_word secondWellFormed secondRenders)
  cases first with
  | identifier name =>
    cases second with
    | identifier other =>
      have words := Option.some.inj (firstRenders.trans secondRenders.symm)
      rw [quoteIdentifier_injective words]
    | _ => cases same
  | _ =>
    cases second with
    | identifier other => cases same
    | _ => exact same

/-! Texts. -/

/-- The words of a rendered list of shapes. -/
inductive RendersWords : List Shape → List (List UInt8) → Prop where
  | nil : RendersWords [] []
  | cons {shape : Shape} {word : List UInt8} {shapes : List Shape} {words : List (List UInt8)}
      (renders : shape.word = some word) (rest : RendersWords shapes words) :
      RendersWords (shape :: shapes) (word :: words)

theorem renderShapes_words {output text : List UInt8} {shapes : List Shape}
    (rendered : renderShapes output shapes = some text) :
    ∃ words, RendersWords shapes words ∧ text = words.foldl appendOutputTokenBytes output := by
  induction shapes generalizing output with
  | nil =>
    cases rendered
    exact ⟨[], .nil, rfl⟩
  | cons shape shapes ih =>
    obtain ⟨word, renders, rest⟩ := Option.bind_eq_some_iff.mp rendered
    obtain ⟨words, restWords, rfl⟩ := ih rest
    exact ⟨word :: words, .cons renders restWords, rfl⟩

theorem RendersWords.reads {escapes : Bool} {shapes : List Shape} {words : List (List UInt8)}
    (renders : RendersWords shapes words)
    (wellFormed : ∀ shape ∈ shapes, shape.WellFormed escapes) :
    ∀ word ∈ words, word ≠ [] ∧ ReadsWhole escapes word := by
  induction renders with
  | nil => exact fun _ member => absurd member List.not_mem_nil
  | cons renders rest ih =>
    intro word member
    rcases List.mem_cons.mp member with rfl | later
    · exact Shape.word_reads (wellFormed _ (List.mem_cons_self ..)) renders
    · exact ih (fun shape member => wellFormed shape (List.mem_cons_of_mem _ member)) word later

theorem RendersWords.injective {escapes : Bool} {first second : List Shape}
    {words : List (List UInt8)} (firstRenders : RendersWords first words)
    (secondRenders : RendersWords second words)
    (firstWellFormed : ∀ shape ∈ first, shape.WellFormed escapes)
    (secondWellFormed : ∀ shape ∈ second, shape.WellFormed escapes) : first = second := by
  induction firstRenders generalizing second with
  | nil =>
    cases secondRenders
    rfl
  | cons renders rest ih =>
    cases secondRenders with
    | cons otherRenders otherRest =>
      rw [Shape.word_injective (firstWellFormed _ (List.mem_cons_self ..))
          (secondWellFormed _ (List.mem_cons_self ..)) renders otherRenders,
        ih otherRest (fun shape member => firstWellFormed shape (List.mem_cons_of_mem _ member))
          (fun shape member => secondWellFormed shape (List.mem_cons_of_mem _ member))]

theorem foldl_append_joined {output : List UInt8} {words : List (List UInt8)}
    (started : output ≠ []) :
    words.foldl appendOutputTokenBytes output = output ++ Delimited.joined 0x20 words := by
  induction words generalizing output with
  | nil => exact (List.append_nil output).symm
  | cons word words ih =>
    have next : appendOutputTokenBytes output word = output ++ 0x20 :: word := if_neg started
    rw [List.foldl_cons, next, ih (by simp), Delimited.joined, Delimited.joined,
      List.flatMap_cons, List.append_assoc]

/-- A text after one more separator is its words, each after a separator. -/
theorem separated_text {words : List (List UInt8)} (present : words ≠ [])
    (nonempty : ∀ word ∈ words, word ≠ []) :
    0x20 :: words.foldl appendOutputTokenBytes [] = Delimited.joined 0x20 words := by
  cases words with
  | nil => exact absurd rfl present
  | cons word words =>
    have first : appendOutputTokenBytes [] word = word := if_pos rfl
    rw [List.foldl_cons, first, foldl_append_joined (nonempty word (List.mem_cons_self ..))]
    rfl

theorem text_nil_iff {words : List (List UInt8)} (nonempty : ∀ word ∈ words, word ≠ []) :
    words.foldl appendOutputTokenBytes [] = [] ↔ words = [] := by
  constructor
  · intro empty
    by_contra present
    cases words with
    | nil => exact present rfl
    | cons word words =>
      have first : appendOutputTokenBytes [] word = word := if_pos rfl
      have start := nonempty word (List.mem_cons_self ..)
      rw [List.foldl_cons, first, foldl_append_joined start] at empty
      exact start (List.append_eq_nil_iff.mp empty).1
  · rintro rfl
    rfl

/-- The text of words that are read whole determines them. -/
theorem text_injective {escapes : Bool} {first second : List (List UInt8)}
    (firstReads : ∀ word ∈ first, word ≠ [] ∧ ReadsWhole escapes word)
    (secondReads : ∀ word ∈ second, word ≠ [] ∧ ReadsWhole escapes word)
    (same : first.foldl appendOutputTokenBytes [] = second.foldl appendOutputTokenBytes []) :
    first = second := by
  have firstNonempty := fun word member => (firstReads word member).1
  have secondNonempty := fun word member => (secondReads word member).1
  by_cases empty : first = []
  · rw [(text_nil_iff firstNonempty).mpr empty] at same
    rw [empty, (text_nil_iff secondNonempty).mp same.symm]
  · have present : second ≠ [] := by
      intro none
      rw [(text_nil_iff secondNonempty).mpr none] at same
      exact empty ((text_nil_iff firstNonempty).mp same)
    have refused : quoteStep escapes .plain 0x20 = none := rfl
    refine Delimited.joined_injective refused (fun word member => (firstReads word member).2)
      (fun word member => (secondReads word member).2) ?_
    rw [← separated_text empty firstNonempty, ← separated_text present secondNonempty, same]

theorem renderShapes_injective {escapes : Bool} {first second : List Shape} {text : List UInt8}
    (firstWellFormed : ∀ shape ∈ first, shape.WellFormed escapes)
    (secondWellFormed : ∀ shape ∈ second, shape.WellFormed escapes)
    (firstText : renderShapes [] first = some text)
    (secondText : renderShapes [] second = some text) : first = second := by
  obtain ⟨words, renders, rfl⟩ := renderShapes_words firstText
  obtain ⟨others, otherRenders, same⟩ := renderShapes_words secondText
  obtain rfl := text_injective (renders.reads firstWellFormed)
    (otherRenders.reads secondWellFormed) same
  exact renders.injective otherRenders firstWellFormed secondWellFormed

/-! The shapes of tokens that the lexer took. -/

theorem isSymbol_of_byte {escapes : Bool} {byte : UInt8} (plain : isPlain byte = true)
    (notBacktick : byte ≠ backtick) (notPlaceholder : byte ≠ ascii '?') :
    IsSymbol escapes [byte] := by
  refine ⟨byte, [], rfl, notBacktick, notPlaceholder, fun _ => rfl, readsWhole_of_plain ?_⟩
  intro other member
  rw [List.mem_singleton.mp member]
  exact plain

theorem isSymbol_of_word {escapes : Bool} {text : List UInt8} (nonempty : text ≠ [])
    (parts : ∀ byte ∈ text, isIdentifierPart byte = true) :
    IsSymbol escapes (text.map asciiUpper) := by
  cases text with
  | nil => exact absurd rfl nonempty
  | cons first rest =>
    obtain ⟨_, _, notBacktick, notPlaceholder, notOpening⟩ :=
      identifierPart_plain (parts first (List.mem_cons_self ..))
    refine ⟨_, _, rfl, notBacktick, notPlaceholder, fun opening => absurd opening notOpening,
      readsWhole_of_plain ?_⟩
    intro byte member
    obtain ⟨part, present, rfl⟩ := List.mem_map.mp member
    exact (identifierPart_plain (parts part present)).2.1

/-- The bytes of a text that is known, checked one by one. -/
def isSymbolText (text : List UInt8) : Bool :=
  text.all isPlain &&
    match text with
    | [] => false
    | first :: rest =>
      first ≠ backtick && first ≠ ascii '?' && (first ≠ ascii '(' || rest = [])

theorem isSymbol_of_text {escapes : Bool} {text : List UInt8} (known : isSymbolText text = true) :
    IsSymbol escapes text := by
  cases text with
  | nil => cases known
  | cons first rest =>
    simp only [isSymbolText, Bool.and_eq_true, Bool.or_eq_true, decide_eq_true_eq] at known
    obtain ⟨plain, ⟨notBacktick, notPlaceholder⟩, opening⟩ := known
    refine ⟨first, rest, rfl, notBacktick, notPlaceholder,
      fun isOpening => opening.resolve_left (absurd isOpening), readsWhole_of_plain ?_⟩
    exact List.all_eq_true.mp plain

theorem digestText_isSymbolText {kind : SqlOperatorKind} {text : List Char}
    (known : kind.digestText = some text) : isSymbolText (bytesOf text) = true := by
  cases kind <;> cases known <;> decide

theorem digestText_of_ne_none {kind : SqlOperatorKind} (operator : kind ≠ .none) :
    kind.digestText ≠ none := by
  cases kind with
  | none => exact absurd rfl operator
  | _ => exact Option.some_ne_none _

theorem keywordShape_wellFormed {escapes : Bool} {token : SqlToken} (nonempty : token.text ≠ [])
    (parts : ∀ byte ∈ token.text, isIdentifierPart byte = true) :
    (keywordShape token).WellFormed escapes := by
  unfold keywordShape
  split
  · trivial
  split
  · exact isSymbol_of_text (by decide)
  split
  · exact isSymbol_of_text (by decide)
  · exact isSymbol_of_word nonempty parts

theorem operatorShape_wellFormed {escapes : Bool} {modes : SqlModes} {token : SqlToken}
    (operator : token.operatorKind ≠ .none) :
    (operatorShape modes token).WellFormed escapes := by
  unfold operatorShape
  split
  · exact isSymbol_of_text (by decide)
  · split
    · rename_i known
      exact isSymbol_of_text (digestText_isSymbolText known)
    · rename_i unknown
      exact absurd unknown (digestText_of_ne_none operator)

theorem isSymbol_of_variable {escapes : Bool} {text : List UInt8}
    (isVariable : (∃ rest, text = ascii '@' :: rest) ∧ ReadsWhole escapes text) :
    IsSymbol escapes text := by
  obtain ⟨⟨rest, rfl⟩, reads⟩ := isVariable
  exact ⟨_, rest, rfl, by decide, by decide, fun opening => absurd opening (by decide), reads⟩

theorem tokenShapes_wellFormed {escapes : Bool} {modes : SqlModes} {token : SqlToken}
    (spelled : token.Spelled escapes) :
    ∀ shape ∈ tokenShapes modes token, shape.WellFormed escapes := by
  intro shape member
  unfold SqlToken.Spelled at spelled
  unfold tokenShapes at member
  cases kind : token.kind with
  | keyword =>
    simp only [kind, List.mem_singleton] at spelled member
    rw [member]
    exact keywordShape_wellFormed spelled.1 spelled.2
  | operator =>
    simp only [kind, List.mem_singleton] at spelled member
    rw [member]
    exact operatorShape_wellFormed spelled
  | punctuation =>
    simp only [kind, List.mem_singleton] at spelled member
    obtain ⟨byte, text, punctuation⟩ := spelled
    obtain ⟨plain, notBacktick, notPlaceholder⟩ := punctuation_plain punctuation
    rw [member, text]
    exact isSymbol_of_byte plain notBacktick notPlaceholder
  | userVariable =>
    simp only [kind, List.mem_singleton] at spelled member
    rw [member]
    exact isSymbol_of_variable spelled
  | systemVariable =>
    simp only [kind, List.mem_singleton] at spelled member
    rw [member]
    exact isSymbol_of_variable spelled
  | temporalLiteralIntroducer =>
    simp only [kind, List.mem_singleton] at spelled member
    rw [member]
    exact isSymbol_of_word spelled.1 spelled.2
  | eof | comment | versionComment | hintComment | charsetIntroducer =>
    simp only [kind, List.not_mem_nil] at member
  | _ =>
    simp only [kind, List.mem_singleton] at member
    rw [member]
    trivial

theorem eraseLiterals_wellFormed {escapes : Bool} (isLiteralList : List SqlToken → Bool)
    (modes : SqlModes) {tokens : List SqlToken} (ended afterIs afterIsNot : Bool)
    (spelled : ∀ token ∈ tokens, token.Spelled escapes) :
    ∀ shape ∈ eraseLiterals isLiteralList modes ended afterIs afterIsNot tokens,
      shape.WellFormed escapes := by
  have known {text : List Char} (symbol : isSymbolText (bytesOf text) = true) :
      (Shape.symbol (bytesOf text)).WellFormed escapes := isSymbol_of_text symbol
  have listed {behind before : List SqlToken} (suffix : behind <:+ before) {token : SqlToken}
      (every : ∀ other ∈ token :: before, other.Spelled escapes) :
      ∀ other ∈ behind, other.Spelled escapes :=
    fun other member => every other (List.mem_cons_of_mem _ (suffix.subset member))
  fun_induction eraseLiterals isLiteralList modes ended afterIs afterIsNot tokens with
  | case1 => exact fun _ member => absurd member List.not_mem_nil
  | case2 => exact List.forall_mem_singleton.mpr trivial
  | case3 ended afterIs afterIsNot token rest running isIn behind closedLater =>
    refine List.forall_mem_cons.mpr ⟨known (by decide), ?_⟩
    split
    · exact behind (listed List.suffix_rfl spelled)
    · exact List.forall_mem_singleton.mpr trivial
    · rename_i body later closed
      split
      · exact List.forall_mem_cons.mpr
          ⟨trivial, closedLater body later closed (listed (inList_suffix closed) spelled)⟩
      · exact behind (listed List.suffix_rfl spelled)
  | case4 ended afterIs afterIsNot token rest running notIn ih =>
    refine List.forall_mem_append.mpr ⟨?_, ih (listed List.suffix_rfl spelled)⟩
    split
    · exact List.forall_mem_singleton.mpr (known (by decide))
    · exact tokenShapes_wellFormed (spelled token (List.mem_cons_self ..))

/-! The tokens the parser takes. -/

section Consumed

variable (keywordLookup : List UInt8 → Option Keyword) (grammar : GrammarParser)
  (retry : List UInt8 → Option (List SqlToken)) (modes : SqlModes)

/-- The tokens from which the parser accepts a statement, without the end of the input: those
it receives, or those that an accepted retry feeds it in their place. -/
def consumedTokens (input : List UInt8) : Option (List SqlToken) :=
  match retry input with
  | some tokens => some tokens
  | none =>
    let first := feedStatement keywordLookup grammar modes input
    if first.stop = .fedEof then
      some ((first.received.map FedToken.token).filter fun token => token.kind ≠ .eof)
    else none

/-- The parser receives the statement's own tokens: it accepts no retry, reads no body of a
version comment and leaves out no targets of a locking clause. -/
structure ReceivesOwnTokens (input : List UInt8) : Prop where
  firstAttempt : retry input = none
  unexecuted : ∀ token ∈ (SqlLexer.init input modes).tokens keywordLookup,
    token.isExecuted = false
  untargeted : hasLockTargetList grammar .start
    (expandStatement keywordLookup modes input).pieces = false

end Consumed

theorem ReceivesOwnTokens.consumes {keywordLookup : List UInt8 → Option Keyword}
    {grammar : GrammarParser} {retry : List UInt8 → Option (List SqlToken)} {modes : SqlModes}
    {input : List UInt8} (own : ReceivesOwnTokens keywordLookup grammar retry modes input)
    {tokens : List SqlToken}
    (consumed : consumedTokens keywordLookup grammar retry modes input = some tokens) :
    tokens = significantTokens keywordLookup modes input := by
  obtain ⟨result, more, received, same, _, whole⟩ :=
    receive_prefix grammar .start own.untargeted expandLexer_eof_last
  have nothing : FeedContext.start.received = [] := rfl
  rw [nothing, List.nil_append] at same
  rw [consumedTokens, own.firstAttempt] at consumed
  dsimp only at consumed
  rw [feedStatement_receives received] at consumed
  split at consumed
  · rename_i fedEof
    have complete : (expandStatement keywordLookup modes input).failure = none := by
      rcases (receive_from received).fedEof fedEof with complete | ⟨last, member, eof⟩
      · exact complete
      · exact (expandLexer_complete last member eof).2
    have start : (SqlLexer.init input modes).offset ≤ (SqlLexer.init input modes).input.length :=
      Nat.zero_le _
    rw [← Option.some.inj consumed, same, whole fedEof]
    exact expandLexer_unexecuted start own.unexecuted complete
  · cases consumed

/-! Digests. -/

section Digests

variable (keywordLookup : List UInt8 → Option Keyword) (grammar : GrammarParser)
  (retry : List UInt8 → Option (List SqlToken)) (isLiteralList : List SqlToken → Bool)
  (modes : SqlModes)

/-- Of two statements that the parser accepts, the digests are equal if the shapes of the tokens
it consumes are, and only then. -/
def DigestIdentifiesShape (first second : List UInt8) : Prop :=
  ∀ firstTokens secondTokens,
    consumedTokens keywordLookup grammar retry modes first = some firstTokens →
    consumedTokens keywordLookup grammar retry modes second = some secondTokens →
      (statementShape isLiteralList modes firstTokens =
          statementShape isLiteralList modes secondTokens →
        (normalizeStatementDigestSql keywordLookup modes first).toOption =
          (normalizeStatementDigestSql keywordLookup modes second).toOption) ∧
      ∀ text, normalizeStatementDigestSql keywordLookup modes first = .ok text →
        normalizeStatementDigestSql keywordLookup modes second = .ok text →
          statementShape isLiteralList modes firstTokens =
            statementShape isLiteralList modes secondTokens

/-- The statement's own tokens are what the parser reads, in the spelling of the digest, and
every list after IN is a literal list. -/
structure DigestReadsStatement (input : List UInt8) : Prop where
  own : ReceivesOwnTokens keywordLookup grammar retry modes input
  spelledAlike : ∀ token ∈ significantTokens keywordLookup modes input, token.SpelledAlike modes
  lists : ListsAreLiteral isLiteralList (significantTokens keywordLookup modes input)

variable {keywordLookup grammar retry isLiteralList modes}

/-- The digest of such a statement renders the shape of the tokens the parser consumes. -/
theorem DigestReadsStatement.renders {input : List UInt8}
    (reads : DigestReadsStatement keywordLookup grammar retry isLiteralList modes input)
    {tokens : List SqlToken}
    (consumed : consumedTokens keywordLookup grammar retry modes input = some tokens) :
    (normalizeStatementDigestSql keywordLookup modes input).toOption =
        renderShapes [] (statementShape isLiteralList modes tokens) ∧
      ∀ shape ∈ statementShape isLiteralList modes tokens,
        shape.WellFormed (!modes.noBackslashEscapes) := by
  rw [reads.own.consumes consumed]
  refine ⟨normalizeTokens_renders [] false false false reads.spelledAlike reads.lists,
    eraseLiterals_wellFormed isLiteralList modes false false false ?_⟩
  intro token member
  have inside : (SqlLexer.init input modes).offset ≤ (SqlLexer.init input modes).input.length :=
    Nat.zero_le _
  exact SqlLexer.tokens_spelled keywordLookup inside rfl token (List.mem_filter.mp member).1

variable (keywordLookup grammar retry isLiteralList modes)

end Digests

/-- A keyword table that knows SELECT. -/
def selectLookup (word : List UInt8) : Option Keyword :=
  if word.map asciiUpper = bytesOf selectWord then some ⟨1, 662⟩ else none

def noRetry (_input : List UInt8) : Option (List SqlToken) :=
  none

def selectOne : List UInt8 := bytesOf (selectWord ++ [' ', '1'])

def selectTwo : List UInt8 := bytesOf ['s', 'e', 'l', 'e', 'c', 't', ' ', '2']

/-- `SELECT 1 /*! + 1 */`. -/
def selectOneMore : List UInt8 :=
  bytesOf (selectWord ++ [' ', '1', ' ', '/', '*', '!', ' ', '+', ' ', '1', ' ', '*', '/'])

/-- The shape that the parser consumes of a statement. -/
def consumedShape (input : List UInt8) : Option (List Shape) :=
  (consumedTokens selectLookup lockingGrammar noRetry noModes input).map
    (statementShape isValueList noModes)

/-- The parser leaves out the targets of a locking clause, and the digest keeps them. -/
example : consumedShape lockingSelect = consumedShape (lockingSelect.take 27) ∧
    normalizeStatementDigestSql selectLookup noModes lockingSelect ≠
      normalizeStatementDigestSql selectLookup noModes (lockingSelect.take 27) := by
  decide +kernel

end MyLite.Sql
