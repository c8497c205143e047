import MyLite.Regexp.Program

/-! The matcher of `mylite_regexp.c`: the table of the suffixes that match, and the walk over it
that finds the end of a match. -/
namespace MyLite.Regexp

def valueLengthMax : Nat := 4096

structure Match where
  matched : Bool := false
  start : Nat := 0
  «end» : Nat := 0
  deriving DecidableEq, Repr

inductive MatchStatus where
  | valueTooLarge
  | unsupportedValue
  deriving DecidableEq, Repr

/-! Tokens at a byte. -/

def byteIsLineTerminator (byte : UInt8) : Bool :=
  byte = 0x0a || byte = 0x0d

def TokenProgram.rangesOf (program : TokenProgram) (token : Token) : List ClassRange :=
  (program.ranges.drop token.rangeStart).take token.rangeCount

def ClassRange.contains (range : ClassRange) (byte : UInt8) : Bool :=
  range.first ≤ byte && byte ≤ range.last

def classContainsByte (program : TokenProgram) (token : Token) (byte : UInt8) : Bool :=
  let contains := (program.rangesOf token).any (·.contains byte)
  if token.classIsNegated then !contains else contains

def tokenMatchesByte (program : TokenProgram) (token : Token) (byte : UInt8) : Bool :=
  match token.kind with
  | .literal => program.normalizeAsciiByte byte = token.literal
  | .any => !byteIsLineTerminator byte
  | .class => classContainsByte program token (program.normalizeAsciiByte byte)
  | .endAnchor | .optionalLiteralSequence => false

def TokenProgram.literalSequenceOf (program : TokenProgram) (token : Token) : List UInt8 :=
  (program.literalSequenceBytes.drop token.literalSequenceStart).take token.literalSequenceLength

def literalSequenceMatchesAt (program : TokenProgram) (token : Token) (value : List UInt8)
    (valueIndex : Nat) : Bool :=
  if valueIndex > value.length ∨ token.literalSequenceLength > value.length - valueIndex then false
  else
    ((value.drop valueIndex).take token.literalSequenceLength).map program.normalizeAsciiByte =
      program.literalSequenceOf token

/-- Whether the token takes the byte at an index of the value. -/
def tokenMatchesAt (program : TokenProgram) (token : Token) (value : List UInt8)
    (valueIndex : Nat) : Bool :=
  match value[valueIndex]? with
  | none => false
  | some byte => tokenMatchesByte program token byte

/-! The table. -/

/-- The cells of `matches`: one row a token, one column a suffix of the value. -/
abbrev MatchTable := Array Bool

def matchTableIndex (valueLength tokenIndex valueIndex : Nat) : Nat :=
  tokenIndex * (valueLength + 1) + valueIndex

def matchTableGet (table : MatchTable) (valueLength tokenIndex valueIndex : Nat) : Bool :=
  table.getD (matchTableIndex valueLength tokenIndex valueIndex) false

def matchTableSet (table : MatchTable) (valueLength tokenIndex valueIndex : Nat) (value : Bool) :
    MatchTable :=
  table.setIfInBounds (matchTableIndex valueLength tokenIndex valueIndex) value

def matchOptionalLiteralSequenceSuffixFrom (program : TokenProgram) (token : Token)
    (value : List UInt8) (tokenIndex valueIndex : Nat) (table : MatchTable) : Bool :=
  if matchTableGet table value.length (tokenIndex + 1) valueIndex then true
  else if !literalSequenceMatchesAt program token value valueIndex then false
  else matchTableGet table value.length (tokenIndex + 1) (valueIndex + token.literalSequenceLength)

/-- The switch over the quantifier in `match_token_suffix_from`. -/
def matchQuantifiedSuffixFrom (program : TokenProgram) (token : Token) (value : List UInt8)
    (tokenIndex valueIndex : Nat) (table : MatchTable) : Bool :=
  let currentByteMatches := tokenMatchesAt program token value valueIndex
  match token.quantifier with
  | .one =>
    if !currentByteMatches then false
    else matchTableGet table value.length (tokenIndex + 1) (valueIndex + 1)
  | .zeroOrOne =>
    if matchTableGet table value.length (tokenIndex + 1) valueIndex then true
    else if !currentByteMatches then false
    else matchTableGet table value.length (tokenIndex + 1) (valueIndex + 1)
  | .zeroOrMore =>
    if matchTableGet table value.length (tokenIndex + 1) valueIndex then true
    else if !currentByteMatches then false
    else matchTableGet table value.length tokenIndex (valueIndex + 1)
  | .oneOrMore =>
    if !currentByteMatches then false
    else if matchTableGet table value.length (tokenIndex + 1) (valueIndex + 1) then true
    else matchTableGet table value.length tokenIndex (valueIndex + 1)

def matchTokenSuffixFrom (program : TokenProgram) (token : Token) (value : List UInt8)
    (tokenIndex valueIndex : Nat) (table : MatchTable) : Bool :=
  match token.kind with
  | .endAnchor =>
    if valueIndex ≠ value.length then false
    else matchTableGet table value.length (tokenIndex + 1) valueIndex
  | .optionalLiteralSequence =>
    matchOptionalLiteralSequenceSuffixFrom program token value tokenIndex valueIndex table
  | .literal | .any | .class =>
    matchQuantifiedSuffixFrom program token value tokenIndex valueIndex table

/-- The first loop of `fill_match_table`, over the first `count` columns. -/
def fillLastRow (program : TokenProgram) (value : List UInt8) : Nat → MatchTable → MatchTable
  | 0, table => table
  | count + 1, table =>
    matchTableSet (fillLastRow program value count table) value.length program.tokens.length count
      true

/-- The inner loop of `fill_match_table`, over the columns below `count`, the last one first. -/
def fillRow (program : TokenProgram) (value : List UInt8) (token : Token) (tokenIndex : Nat) :
    Nat → MatchTable → MatchTable
  | 0, table => table
  | valueIndex + 1, table =>
    fillRow program value token tokenIndex valueIndex
      (matchTableSet table value.length tokenIndex valueIndex
        (matchTokenSuffixFrom program token value tokenIndex valueIndex table))

/-- The outer loop of `fill_match_table`, over the rows below `count`, the last one first. -/
def fillRows (program : TokenProgram) (value : List UInt8) : Nat → MatchTable → MatchTable
  | 0, table => table
  | tokenIndex + 1, table =>
    fillRows program value tokenIndex
      (fillRow program value (program.tokens.getD tokenIndex {}) tokenIndex (value.length + 1)
        table)

def fillMatchTable (program : TokenProgram) (value : List UInt8) : MatchTable :=
  let cellCount := (program.tokens.length + 1) * (value.length + 1)
  fillRows program value program.tokens.length
    (fillLastRow program value (value.length + 1) (Array.replicate cellCount false))

/-! The span of a match. -/

structure SpanPosition where
  tokenIndex : Nat
  valueIndex : Nat
  deriving DecidableEq, Repr

/-- `struct regexp_match_span_context`. -/
structure SpanContext where
  program : TokenProgram
  value : List UInt8
  table : MatchTable

def SpanContext.get (context : SpanContext) (tokenIndex valueIndex : Nat) : Bool :=
  matchTableGet context.table context.value.length tokenIndex valueIndex

def tokenMatchRunLength (program : TokenProgram) (token : Token) : List UInt8 → Nat
  | [] => 0
  | byte :: rest =>
    if tokenMatchesByte program token byte then tokenMatchRunLength program token rest + 1 else 0

/-- The loop of `match_span_advance_repeated`: the longest number of bytes from `least` to
`least + extra` behind which the next token matches. -/
def longestRepetition (context : SpanContext) (position : SpanPosition) (least : Nat) :
    Nat → Option Nat
  | 0 => if context.get (position.tokenIndex + 1) (position.valueIndex + least) then some least
    else none
  | extra + 1 =>
    if context.get (position.tokenIndex + 1) (position.valueIndex + (least + (extra + 1))) then
      some (least + (extra + 1))
    else longestRepetition context position least extra

def matchSpanAdvanceRepeated (context : SpanContext) (token : Token) (requireOne : Bool)
    (position : SpanPosition) : Option SpanPosition :=
  let runLength :=
    tokenMatchRunLength context.program token (context.value.drop position.valueIndex)
  if requireOne ∧ runLength = 0 then none
  else
    let least := if requireOne then 1 else 0
    (longestRepetition context position least (runLength - least)).map fun consumed =>
      ⟨position.tokenIndex + 1, position.valueIndex + consumed⟩

def matchSpanAdvanceOptionalLiteralSequence (context : SpanContext) (token : Token)
    (position : SpanPosition) : Option SpanPosition :=
  if literalSequenceMatchesAt context.program token context.value position.valueIndex ∧
      context.get (position.tokenIndex + 1)
        (position.valueIndex + token.literalSequenceLength) then
    some ⟨position.tokenIndex + 1, position.valueIndex + token.literalSequenceLength⟩
  else if !context.get (position.tokenIndex + 1) position.valueIndex then none
  else some ⟨position.tokenIndex + 1, position.valueIndex⟩

def matchSpanAdvanceOne (context : SpanContext) (currentByteMatches : Bool)
    (position : SpanPosition) : Option SpanPosition :=
  if !currentByteMatches ∨ !context.get (position.tokenIndex + 1) (position.valueIndex + 1) then
    none
  else some ⟨position.tokenIndex + 1, position.valueIndex + 1⟩

def matchSpanAdvanceZeroOrOne (context : SpanContext) (currentByteMatches : Bool)
    (position : SpanPosition) : Option SpanPosition :=
  if currentByteMatches ∧ context.get (position.tokenIndex + 1) (position.valueIndex + 1) then
    some ⟨position.tokenIndex + 1, position.valueIndex + 1⟩
  else if !context.get (position.tokenIndex + 1) position.valueIndex then none
  else some ⟨position.tokenIndex + 1, position.valueIndex⟩

def matchSpanAdvanceEndAnchor (context : SpanContext) (position : SpanPosition) :
    Option SpanPosition :=
  if position.valueIndex ≠ context.value.length ∨
      !context.get (position.tokenIndex + 1) position.valueIndex then
    none
  else some ⟨position.tokenIndex + 1, position.valueIndex⟩

/-- The switch over the quantifier in `match_span_advance`. -/
def matchSpanAdvanceQuantified (context : SpanContext) (token : Token) (position : SpanPosition) :
    Option SpanPosition :=
  let currentByteMatches :=
    tokenMatchesAt context.program token context.value position.valueIndex
  match token.quantifier with
  | .one => matchSpanAdvanceOne context currentByteMatches position
  | .zeroOrOne => matchSpanAdvanceZeroOrOne context currentByteMatches position
  | .zeroOrMore => matchSpanAdvanceRepeated context token false position
  | .oneOrMore => matchSpanAdvanceRepeated context token true position

def matchSpanAdvance (context : SpanContext) (position : SpanPosition) : Option SpanPosition :=
  let token := context.program.tokens.getD position.tokenIndex {}
  match token.kind with
  | .endAnchor => matchSpanAdvanceEndAnchor context position
  | .optionalLiteralSequence => matchSpanAdvanceOptionalLiteralSequence context token position
  | .literal | .any | .class => matchSpanAdvanceQuantified context token position

/-- A step of the walk takes one token and no byte back. -/
def StepsOn (position next : SpanPosition) : Prop :=
  next.tokenIndex = position.tokenIndex + 1 ∧ position.valueIndex ≤ next.valueIndex

theorem matchSpanAdvanceRepeated_stepsOn {context : SpanContext} {token : Token}
    {requireOne : Bool} {position next : SpanPosition}
    (advanced : matchSpanAdvanceRepeated context token requireOne position = some next) :
    StepsOn position next := by
  unfold matchSpanAdvanceRepeated at advanced
  dsimp only at advanced
  split at advanced
  · cases advanced
  · obtain ⟨consumed, -, same⟩ := Option.map_eq_some_iff.mp advanced
    cases same
    exact ⟨rfl, Nat.le_add_right _ _⟩

theorem matchSpanAdvanceQuantified_stepsOn {context : SpanContext} {token : Token}
    {position next : SpanPosition}
    (advanced : matchSpanAdvanceQuantified context token position = some next) :
    StepsOn position next := by
  unfold matchSpanAdvanceQuantified at advanced
  dsimp only at advanced
  split at advanced
  · unfold matchSpanAdvanceOne at advanced
    split at advanced <;> cases advanced
    exact ⟨rfl, Nat.le_succ _⟩
  · unfold matchSpanAdvanceZeroOrOne at advanced
    split at advanced
    · cases advanced
      exact ⟨rfl, Nat.le_succ _⟩
    · split at advanced <;> cases advanced
      exact ⟨rfl, Nat.le_refl _⟩
  · exact matchSpanAdvanceRepeated_stepsOn advanced
  · exact matchSpanAdvanceRepeated_stepsOn advanced

theorem matchSpanAdvance_stepsOn {context : SpanContext} {position next : SpanPosition}
    (advanced : matchSpanAdvance context position = some next) : StepsOn position next := by
  unfold matchSpanAdvance at advanced
  dsimp only at advanced
  split at advanced
  · unfold matchSpanAdvanceEndAnchor at advanced
    split at advanced <;> cases advanced
    exact ⟨rfl, Nat.le_refl _⟩
  · unfold matchSpanAdvanceOptionalLiteralSequence at advanced
    split at advanced
    · cases advanced
      exact ⟨rfl, Nat.le_add_right _ _⟩
    · split at advanced <;> cases advanced
      exact ⟨rfl, Nat.le_refl _⟩
  all_goals exact matchSpanAdvanceQuantified_stepsOn advanced

def matchSpanFrom (context : SpanContext) (position : SpanPosition) : Option Nat :=
  if _more : position.tokenIndex < context.program.tokens.length then
    match _advanced : matchSpanAdvance context position with
    | none => none
    | some next => matchSpanFrom context next
  else some position.valueIndex
termination_by context.program.tokens.length - position.tokenIndex
decreasing_by
  rw [(matchSpanAdvance_stepsOn _advanced).1]
  omega

theorem matchSpanFrom_forward {context : SpanContext} {position : SpanPosition} {stop : Nat}
    (walked : matchSpanFrom context position = some stop) : position.valueIndex ≤ stop := by
  fun_induction matchSpanFrom context position with
  | case1 => cases walked
  | case2 position more next advanced ih =>
    exact Nat.le_trans (matchSpanAdvance_stepsOn advanced).2 (ih walked)
  | case3 =>
    cases walked
    exact Nat.le_refl _

/-! Finding a match. -/

/-- What a find writes into its result when the table has a match at an offset. -/
def Match.spanFrom (found : Match) (context : SpanContext) (start : Nat) : Match :=
  match matchSpanFrom context ⟨0, start⟩ with
  | some stop => ⟨true, start, stop⟩
  | none => { found with matched := false, start := start }

def findAnchoredSequence (context : SpanContext) (startOffset : Nat) : Match :=
  if startOffset ≠ 0 ∨ !context.get 0 0 then {} else Match.spanFrom {} context 0

/-- The loop of `regexp_program_find_unanchored_sequence_ascii`. -/
def findUnanchoredSequence (context : SpanContext) (start : Nat) (found : Match) : Match :=
  if start ≤ context.value.length then
    if !context.get 0 start then findUnanchoredSequence context (start + 1) found
    else
      let found := found.spanFrom context start
      if found.matched then found else findUnanchoredSequence context (start + 1) found
  else found
termination_by context.value.length + 1 - start

def findSequence (program : TokenProgram) (value : List UInt8) (startOffset : Nat) : Match :=
  let context : SpanContext := ⟨program, value, fillMatchTable program value⟩
  if program.anchoredStart then findAnchoredSequence context startOffset
  else findUnanchoredSequence context startOffset {}

/-- One round of the loop of `regexp_program_find_alternatives_ascii`. -/
def Match.orEarlier (found alternative : Match) : Match :=
  if !alternative.matched then found
  else if !found.matched ∨ alternative.start < found.start then alternative
  else found

def findAlternatives (alternatives : List TokenProgram) (value : List UInt8) (startOffset : Nat) :
    Match :=
  alternatives.foldl (fun found program => found.orEarlier (findSequence program value startOffset))
    {}

def valueIsSupportedAscii (value : List UInt8) : Bool :=
  value.all fun byte => !(byte = 0 || byte > asciiMax)

/-- `regexp_program_find_ascii`. -/
def findAscii (program : Program) (value : List UInt8) (startOffset : Nat) :
    Except MatchStatus Match :=
  if value.length > valueLengthMax then .error .valueTooLarge
  else if !valueIsSupportedAscii value then .error .unsupportedValue
  else if program.alternatives ≠ [] then
    .ok (findAlternatives program.alternatives value startOffset)
  else .ok (findSequence program.sequence value startOffset)

/-! A match lies at or behind the offset. -/

def Match.Forward (offset : Nat) (found : Match) : Prop :=
  found.matched = true → offset ≤ found.start ∧ found.start ≤ found.end

theorem spanFrom_forward (found : Match) (context : SpanContext) {offset start : Nat}
    (from_offset : offset ≤ start) : (found.spanFrom context start).Forward offset := by
  unfold Match.spanFrom
  intro matched
  split at matched
  · rename_i stop walked
    exact ⟨from_offset, matchSpanFrom_forward walked⟩
  · cases matched

theorem findUnanchoredSequence_forward (context : SpanContext) {offset start : Nat}
    {found : Match} (from_offset : offset ≤ start) (fresh : found.matched = false) :
    (findUnanchoredSequence context start found).Forward offset := by
  fun_induction findUnanchoredSequence context start found with
  | case1 start found inside unmarked ih => exact ih (Nat.le_succ_of_le from_offset) fresh
  | case2 start found inside marked spanned matched => exact spanFrom_forward _ _ from_offset
  | case3 start found inside marked spanned unmatched ih =>
    exact ih (Nat.le_succ_of_le from_offset) (Bool.eq_false_iff.mpr unmatched)
  | case4 =>
    intro matched
    rw [fresh] at matched
    cases matched

theorem findSequence_forward (program : TokenProgram) (value : List UInt8) (offset : Nat) :
    (findSequence program value offset).Forward offset := by
  unfold findSequence
  dsimp only
  split
  · unfold findAnchoredSequence
    split
    · exact fun matched => absurd matched Bool.false_ne_true
    · rename_i some
      exact spanFrom_forward _ _ (Nat.le_of_eq (not_not.mp (not_or.mp some).1))
  · exact findUnanchoredSequence_forward _ (Nat.le_refl _) rfl

theorem findAlternatives_forward (alternatives : List TokenProgram) (value : List UInt8)
    (offset : Nat) : (findAlternatives alternatives value offset).Forward offset := by
  unfold findAlternatives
  refine List.foldlRecOn alternatives _ (fun matched => absurd matched Bool.false_ne_true) ?_
  intro found forward program _
  unfold Match.orEarlier
  split
  · exact forward
  · split
    · exact findSequence_forward program value offset
    · exact forward

theorem findAscii_forward {program : Program} {value : List UInt8} {offset : Nat} {found : Match}
    (reported : findAscii program value offset = .ok found) : found.Forward offset := by
  unfold findAscii at reported
  split at reported
  · cases reported
  split at reported
  · cases reported
  split at reported <;> cases reported
  · exact findAlternatives_forward _ value offset
  · exact findSequence_forward _ value offset

end MyLite.Regexp
