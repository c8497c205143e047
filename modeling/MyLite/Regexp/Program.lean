import Mathlib.Data.List.Basic

/-! The token programs of `mylite_regexp.c` and their compiler. A cursor into the pattern is the
list of the bytes from it on. -/
namespace MyLite.Regexp

def ascii (letter : Char) : UInt8 := UInt8.ofNat letter.toNat

def asciiMax : UInt8 := 0x7f

def patternLengthMax : Nat := 256

inductive TokenKind where
  | literal
  | any
  | «class»
  | endAnchor
  | optionalLiteralSequence
  deriving DecidableEq, Repr

inductive Quantifier where
  | one
  | zeroOrOne
  | zeroOrMore
  | oneOrMore
  deriving DecidableEq, Repr

structure ClassRange where
  first : UInt8
  last : UInt8
  deriving DecidableEq, Repr

structure Token where
  kind : TokenKind := .literal
  quantifier : Quantifier := .one
  literal : UInt8 := 0
  classIsNegated : Bool := false
  rangeStart : Nat := 0
  rangeCount : Nat := 0
  literalSequenceStart : Nat := 0
  literalSequenceLength : Nat := 0
  deriving DecidableEq, Repr

/-- `struct mylite_regexp_program` without its alternatives. -/
structure TokenProgram where
  anchoredStart : Bool := false
  caseSensitive : Bool
  tokens : List Token := []
  ranges : List ClassRange := []
  literalSequenceBytes : List UInt8 := []
  deriving DecidableEq, Repr

/-- A compiled pattern; with alternatives its own tokens are empty. -/
structure Program where
  alternatives : List TokenProgram
  sequence : TokenProgram
  deriving DecidableEq, Repr

inductive CompileStatus where
  | unsupported
  | tooLarge
  | unclosedBracket
  | danglingEscape
  | invalidRange
  deriving DecidableEq, Repr

/-! Bytes. -/

def foldAscii (byte : UInt8) : UInt8 :=
  if ascii 'A' ≤ byte ∧ byte ≤ ascii 'Z' then byte + 0x20 else byte

def TokenProgram.normalizeAsciiByte (program : TokenProgram) (byte : UInt8) : UInt8 :=
  if program.caseSensitive then byte else foldAscii byte

def isSupportedLiteralEscape (byte : UInt8) : Bool :=
  [ascii '.', ascii '^', ascii '$', ascii '*', ascii '+', ascii '?', ascii '[', ascii ']',
    ascii '|', 0x5c].contains byte

def isSupportedClassEscape (byte : UInt8) : Bool :=
  [ascii ']', ascii '-', ascii '^', 0x5c].contains byte

def isQuantifierByte (byte : UInt8) : Bool :=
  byte = ascii '?' || byte = ascii '*' || byte = ascii '+'

def isUnsupportedRegexMetacharacter (byte : UInt8) : Bool :=
  [ascii '(', ascii ')', 0x7b, 0x7d, ascii '|', ascii ']'].contains byte

/-! Classes. -/

/-- `parse_class_byte`: the byte and the pattern behind it. -/
def parseClassByte : List UInt8 → Except CompileStatus (UInt8 × List UInt8)
  | [] => .error .unclosedBracket
  | byte :: rest =>
    if byte = 0x5c then
      match rest with
      | [] => .error .danglingEscape
      | escaped :: rest =>
        if escaped > asciiMax ∨ !isSupportedClassEscape escaped then .error .unsupported
        else .ok (escaped, rest)
    else if byte > asciiMax then .error .unsupported
    else .ok (byte, rest)

theorem parseClassByte_length {pattern rest : List UInt8} {byte : UInt8}
    (parsed : parseClassByte pattern = .ok (byte, rest)) : rest.length < pattern.length := by
  unfold parseClassByte at parsed
  split at parsed
  · cases parsed
  · split at parsed
    · split at parsed
      · cases parsed
      · split at parsed
        · cases parsed
        · cases parsed
          exact Nat.lt_succ_of_lt (Nat.lt_succ_self _)
    · split at parsed
      · cases parsed
      · cases parsed
        exact Nat.lt_succ_self _

/-- Whether a range goes on: a minus that is not the last of the class. -/
def rangeContinues : List UInt8 → Bool
  | minus :: next :: _ => minus = ascii '-' && next ≠ ascii ']'
  | _ => false

/-- One round of the loop of `compile_class_token`: the range and the pattern behind it. -/
def compileClassRange (program : TokenProgram) (pattern : List UInt8) :
    Except CompileStatus (ClassRange × List UInt8) :=
  match parseClassByte pattern with
  | .error status => .error status
  | .ok (byte, rest) =>
    let first := program.normalizeAsciiByte byte
    if rangeContinues rest then
      match parseClassByte rest.tail with
      | .error status => .error status
      | .ok (byte, rest) =>
        let last := program.normalizeAsciiByte byte
        if first > last then .error .invalidRange else .ok (⟨first, last⟩, rest)
    else .ok (⟨first, first⟩, rest)

theorem compileClassRange_length {program : TokenProgram} {pattern rest : List UInt8}
    {range : ClassRange} (compiled : compileClassRange program pattern = .ok (range, rest)) :
    rest.length < pattern.length := by
  unfold compileClassRange at compiled
  split at compiled
  · cases compiled
  · rename_i byte middle parsed
    have shorter := parseClassByte_length parsed
    dsimp only at compiled
    split at compiled
    · split at compiled
      · cases compiled
      · rename_i second later parsedLast
        have shorterLast := parseClassByte_length parsedLast
        rw [List.length_tail] at shorterLast
        split at compiled
        · cases compiled
        · cases compiled
          omega
    · cases compiled
      exact shorter

/-- The loop of `compile_class_token` up to the closing bracket. -/
def compileClassRanges (program : TokenProgram) (pattern : List UInt8) :
    Except CompileStatus (List ClassRange × List UInt8) :=
  match pattern with
  | [] => .error .unclosedBracket
  | byte :: rest =>
    if byte = ascii ']' then .ok ([], rest)
    else
      match _range : compileClassRange program (byte :: rest) with
      | .error status => .error status
      | .ok (range, later) =>
        (compileClassRanges program later).map fun compiled => (range :: compiled.1, compiled.2)
termination_by pattern.length
decreasing_by exact compileClassRange_length _range

/-- `compile_class_token`, of the pattern behind the bracket. -/
def compileClassToken (program : TokenProgram) (pattern : List UInt8) :
    Except CompileStatus (Token × TokenProgram × List UInt8) :=
  let negated := pattern.head? = some (ascii '^')
  match compileClassRanges program (if negated then pattern.tail else pattern) with
  | .error status => .error status
  | .ok (ranges, rest) =>
    if ranges = [] then .error .unsupported
    else
      .ok ({ kind := .class, classIsNegated := negated, rangeStart := program.ranges.length,
             rangeCount := ranges.length },
        { program with ranges := program.ranges ++ ranges }, rest)

/-! Literals and groups. -/

/-- `parse_escaped_literal`, of the pattern behind the backslash. -/
def parseEscapedLiteral : List UInt8 → Except CompileStatus (UInt8 × List UInt8)
  | [] => .error .danglingEscape
  | byte :: rest =>
    if byte > asciiMax ∨ !isSupportedLiteralEscape byte then .error .unsupported
    else .ok (byte, rest)

def parseLiteralGroupByte : List UInt8 → Except CompileStatus (UInt8 × List UInt8)
  | [] => .error .unsupported
  | byte :: rest =>
    if byte = 0x5c then parseEscapedLiteral rest
    else if byte > asciiMax ∨ byte = ascii '.' ∨ byte = ascii '^' ∨ byte = ascii '$' ∨
        byte = ascii '[' ∨ isQuantifierByte byte ∨ isUnsupportedRegexMetacharacter byte then
      .error .unsupported
    else .ok (byte, rest)

theorem parseEscapedLiteral_length {pattern rest : List UInt8} {byte : UInt8}
    (parsed : parseEscapedLiteral pattern = .ok (byte, rest)) : rest.length < pattern.length := by
  unfold parseEscapedLiteral at parsed
  split at parsed
  · cases parsed
  · split at parsed
    · cases parsed
    · cases parsed
      exact Nat.lt_succ_self _

theorem parseLiteralGroupByte_length {pattern rest : List UInt8} {byte : UInt8}
    (parsed : parseLiteralGroupByte pattern = .ok (byte, rest)) :
    rest.length < pattern.length := by
  unfold parseLiteralGroupByte at parsed
  split at parsed
  · cases parsed
  · split at parsed
    · exact Nat.lt_succ_of_lt (parseEscapedLiteral_length parsed)
    · split at parsed
      · cases parsed
      · cases parsed
        exact Nat.lt_succ_self _

/-- The loop of `compile_optional_literal_group_token`: the bytes of the group, and the pattern
from its closing parenthesis on. -/
def literalGroupBytes (program : TokenProgram) (pattern : List UInt8) :
    Except CompileStatus (List UInt8 × List UInt8) :=
  match pattern with
  | [] => .ok ([], [])
  | byte :: rest =>
    if byte = ascii ')' then .ok ([], byte :: rest)
    else
      match _byte : parseLiteralGroupByte (byte :: rest) with
      | .error status => .error status
      | .ok (literal, later) =>
        (literalGroupBytes program later).map fun group =>
          (program.normalizeAsciiByte literal :: group.1, group.2)
termination_by pattern.length
decreasing_by exact parseLiteralGroupByte_length _byte

/-- `compile_optional_literal_group_token`, of the pattern behind the parenthesis. -/
def compileOptionalLiteralGroupToken (program : TokenProgram) (pattern : List UInt8) :
    Except CompileStatus (Token × TokenProgram × List UInt8) :=
  if pattern.head?.all (· = ascii ')') then .error .unsupported
  else
    match literalGroupBytes program pattern with
    | .error status => .error status
    | .ok (bytes, closing :: question :: rest) =>
      if closing ≠ ascii ')' ∨ question ≠ ascii '?' then .error .unsupported
      else
        .ok ({ kind := .optionalLiteralSequence,
               literalSequenceStart := program.literalSequenceBytes.length,
               literalSequenceLength := bytes.length },
          { program with literalSequenceBytes := program.literalSequenceBytes ++ bytes }, rest)
    | .ok _ => .error .unsupported

/-- `compile_atom_token`. -/
def compileAtomToken (program : TokenProgram) (byte : UInt8) (rest : List UInt8) :
    Except CompileStatus (Token × TokenProgram × List UInt8) :=
  if byte = ascii '.' then .ok ({ kind := .any }, program, rest)
  else if byte = ascii '[' then compileClassToken program rest
  else if byte = 0x5c then
    (parseEscapedLiteral rest).map fun parsed =>
      ({ kind := .literal, literal := program.normalizeAsciiByte parsed.1 }, program, parsed.2)
  else if byte > asciiMax ∨ isQuantifierByte byte ∨ isUnsupportedRegexMetacharacter byte then
    .error .unsupported
  else .ok ({ kind := .literal, literal := program.normalizeAsciiByte byte }, program, rest)

/-! Repetitions. -/

def isDecimalDigit (byte : UInt8) : Bool :=
  ascii '0' ≤ byte && byte ≤ ascii '9'

/-- The loop of `parse_fixed_repetition_count`. -/
def fixedRepetitionDigits (count : Nat) (sawDigit : Bool) :
    List UInt8 → Except CompileStatus (Nat × Bool × List UInt8)
  | [] => .ok (count, sawDigit, [])
  | byte :: rest =>
    if isDecimalDigit byte then
      let digit := byte.toNat - 0x30
      if count > (patternLengthMax - digit) / 10 then .error .tooLarge
      else fixedRepetitionDigits (count * 10 + digit) true rest
    else .ok (count, sawDigit, byte :: rest)

/-- `parse_fixed_repetition_count`, of the pattern behind the brace. -/
def parseFixedRepetitionCount (pattern : List UInt8) :
    Except CompileStatus (Nat × List UInt8) :=
  match fixedRepetitionDigits 0 false pattern with
  | .error status => .error status
  | .ok (count, sawDigit, closing :: rest) =>
    if !sawDigit ∨ closing ≠ 0x7d then .error .unsupported
    else if count > patternLengthMax then .error .tooLarge
    else .ok (count, rest)
  | .ok _ => .error .unsupported

def TokenProgram.appendToken (program : TokenProgram) (token : Token) : TokenProgram :=
  { program with tokens := program.tokens ++ [token] }

def TokenProgram.appendRepeatedToken (program : TokenProgram) (token : Token) (count : Nat) :
    TokenProgram :=
  { program with tokens := program.tokens ++ List.replicate count token }

/-- The end of `compile_next_token`: the quantifier of an atom. -/
def compileQuantifier (token : Token) (program : TokenProgram) (pattern : List UInt8) :
    Except CompileStatus (TokenProgram × List UInt8) :=
  match pattern with
  | [] => .ok (program.appendToken token, [])
  | byte :: rest =>
    if byte = ascii '?' then
      .ok (program.appendToken { token with quantifier := .zeroOrOne }, rest)
    else if byte = ascii '*' then
      .ok (program.appendToken { token with quantifier := .zeroOrMore }, rest)
    else if byte = ascii '+' then
      .ok (program.appendToken { token with quantifier := .oneOrMore }, rest)
    else if byte = 0x7b then
      (parseFixedRepetitionCount rest).map fun parsed =>
        (program.appendRepeatedToken token parsed.1, parsed.2)
    else .ok (program.appendToken token, byte :: rest)

def compileNextToken (program : TokenProgram) (byte : UInt8) (rest : List UInt8) :
    Except CompileStatus (TokenProgram × List UInt8) :=
  if byte > asciiMax then .error .unsupported
  else if byte = ascii '^' then
    if program.tokens = [] ∧ !program.anchoredStart then
      .ok ({ program with anchoredStart := true }, rest)
    else .error .unsupported
  else if byte = ascii '$' then
    if rest ≠ [] then .error .unsupported
    else .ok (program.appendToken { kind := .endAnchor }, rest)
  else if byte = ascii '(' then
    (compileOptionalLiteralGroupToken program rest).map fun compiled =>
      (compiled.2.1.appendToken compiled.1, compiled.2.2)
  else
    match compileAtomToken program byte rest with
    | .error status => .error status
    | .ok (token, program, rest) => compileQuantifier token program rest

/-! Each token takes a byte of the pattern. -/

theorem map_ok {Source Result Status : Type} {result : Except Status Source}
    {convert : Source → Result} {value : Result} (mapped : result.map convert = .ok value) :
    ∃ source, result = .ok source ∧ convert source = value := by
  cases result with
  | error => cases mapped
  | ok source => exact ⟨source, rfl, Except.ok.inj mapped⟩

theorem compileClassRanges_length {program : TokenProgram} {pattern rest : List UInt8}
    {ranges : List ClassRange}
    (compiled : compileClassRanges program pattern = .ok (ranges, rest)) :
    rest.length ≤ pattern.length := by
  fun_induction compileClassRanges program pattern generalizing ranges with
  | case1 => cases compiled
  | case2 =>
    cases compiled
    exact Nat.le_succ _
  | case3 => cases compiled
  | case4 byte pattern notClosing range later parsed ih =>
    obtain ⟨found, inner, same⟩ := map_ok compiled
    cases same
    exact Nat.le_of_lt (Nat.lt_of_le_of_lt (ih inner) (compileClassRange_length parsed))

theorem compileClassToken_length {program after : TokenProgram} {pattern rest : List UInt8}
    {token : Token} (compiled : compileClassToken program pattern = .ok (token, after, rest)) :
    rest.length ≤ pattern.length := by
  unfold compileClassToken at compiled
  dsimp only at compiled
  split at compiled
  · cases compiled
  · rename_i ranges later parsed
    have shorter := compileClassRanges_length parsed
    have whole : (if pattern.head? = some (ascii '^') then pattern.tail
        else pattern).length ≤ pattern.length := by
      split
      · rw [List.length_tail]
        exact Nat.sub_le _ _
      · exact Nat.le_refl _
    split at compiled
    · cases compiled
    · cases compiled
      exact Nat.le_trans shorter whole

theorem literalGroupBytes_length {program : TokenProgram} {pattern bytes rest : List UInt8}
    (parsed : literalGroupBytes program pattern = .ok (bytes, rest)) :
    rest.length ≤ pattern.length := by
  fun_induction literalGroupBytes program pattern generalizing bytes with
  | case1 =>
    cases parsed
    exact Nat.le_refl _
  | case2 =>
    cases parsed
    exact Nat.le_refl _
  | case3 => cases parsed
  | case4 byte pattern notClosing literal later parsedByte ih =>
    obtain ⟨found, inner, same⟩ := map_ok parsed
    cases same
    exact Nat.le_of_lt (Nat.lt_of_le_of_lt (ih inner) (parseLiteralGroupByte_length parsedByte))

theorem compileOptionalLiteralGroupToken_length {program after : TokenProgram}
    {pattern rest : List UInt8} {token : Token}
    (compiled : compileOptionalLiteralGroupToken program pattern = .ok (token, after, rest)) :
    rest.length ≤ pattern.length := by
  unfold compileOptionalLiteralGroupToken at compiled
  split at compiled
  · cases compiled
  · split at compiled
    · cases compiled
    · rename_i bytes closing question later parsed
      have shorter := literalGroupBytes_length parsed
      rw [List.length_cons, List.length_cons] at shorter
      split at compiled
      · cases compiled
      · cases compiled
        omega
    · cases compiled

theorem compileAtomToken_length {program after : TokenProgram} {byte : UInt8}
    {pattern rest : List UInt8} {token : Token}
    (compiled : compileAtomToken program byte pattern = .ok (token, after, rest)) :
    rest.length ≤ pattern.length := by
  unfold compileAtomToken at compiled
  split at compiled
  · cases compiled
    exact Nat.le_refl _
  split at compiled
  · exact compileClassToken_length compiled
  split at compiled
  · obtain ⟨parsed, escaped, same⟩ := map_ok compiled
    cases same
    exact Nat.le_of_lt (parseEscapedLiteral_length escaped)
  split at compiled
  · cases compiled
  · cases compiled
    exact Nat.le_refl _

theorem fixedRepetitionDigits_length {count total : Nat} {sawDigit saw : Bool}
    {pattern rest : List UInt8}
    (parsed : fixedRepetitionDigits count sawDigit pattern = .ok (total, saw, rest)) :
    rest.length ≤ pattern.length := by
  fun_induction fixedRepetitionDigits count sawDigit pattern with
  | case1 =>
    cases parsed
    exact Nat.le_refl _
  | case2 => cases parsed
  | case3 count sawDigit byte pattern digit value small ih => exact Nat.le_succ_of_le (ih parsed)
  | case4 =>
    cases parsed
    exact Nat.le_refl _

theorem parseFixedRepetitionCount_length {count : Nat} {pattern rest : List UInt8}
    (parsed : parseFixedRepetitionCount pattern = .ok (count, rest)) :
    rest.length ≤ pattern.length := by
  unfold parseFixedRepetitionCount at parsed
  split at parsed
  · cases parsed
  · rename_i total saw closing later digits
    have shorter := fixedRepetitionDigits_length digits
    rw [List.length_cons] at shorter
    split at parsed
    · cases parsed
    · split at parsed
      · cases parsed
      · cases parsed
        exact Nat.le_of_lt shorter
  · cases parsed

theorem compileQuantifier_length {token : Token} {program after : TokenProgram}
    {pattern rest : List UInt8}
    (compiled : compileQuantifier token program pattern = .ok (after, rest)) :
    rest.length ≤ pattern.length := by
  unfold compileQuantifier at compiled
  split at compiled
  · cases compiled
    exact Nat.le_refl _
  split at compiled
  · cases compiled
    exact Nat.le_succ _
  split at compiled
  · cases compiled
    exact Nat.le_succ _
  split at compiled
  · cases compiled
    exact Nat.le_succ _
  split at compiled
  · obtain ⟨parsed, repetition, same⟩ := map_ok compiled
    cases same
    exact Nat.le_succ_of_le (parseFixedRepetitionCount_length repetition)
  · cases compiled
    exact Nat.le_refl _

theorem compileNextToken_length {program after : TokenProgram} {byte : UInt8}
    {pattern rest : List UInt8}
    (compiled : compileNextToken program byte pattern = .ok (after, rest)) :
    rest.length ≤ pattern.length := by
  unfold compileNextToken at compiled
  split at compiled
  · cases compiled
  split at compiled
  · split at compiled
    · cases compiled
      exact Nat.le_refl _
    · cases compiled
  split at compiled
  · split at compiled
    · cases compiled
    · cases compiled
      exact Nat.le_refl _
  split at compiled
  · obtain ⟨group, parsed, same⟩ := map_ok compiled
    cases same
    exact compileOptionalLiteralGroupToken_length parsed
  · split at compiled
    · cases compiled
    · rename_i atom
      exact Nat.le_trans (compileQuantifier_length compiled) (compileAtomToken_length atom)

/-! Sequences and alternatives. -/

/-- The loop of `regexp_compile_ascii_sequence`. -/
def compileTokens (program : TokenProgram) (pattern : List UInt8) :
    Except CompileStatus TokenProgram :=
  match pattern with
  | [] => .ok program
  | byte :: rest =>
    match _next : compileNextToken program byte rest with
    | .error status => .error status
    | .ok (program, later) => compileTokens program later
termination_by pattern.length
decreasing_by exact Nat.lt_succ_of_le (compileNextToken_length _next)

def compileAsciiSequence (pattern : List UInt8) (caseSensitive : Bool) :
    Except CompileStatus TokenProgram :=
  if pattern.length > patternLengthMax then .error .tooLarge
  else compileTokens { caseSensitive := caseSensitive } pattern

/-- The branches between the bars that stand outside of classes and escapes; `branch` is what was
read of the current one. -/
def alternativeBranches (inClass escaped : Bool) (branch : List UInt8) :
    List UInt8 → List (List UInt8)
  | [] => [branch]
  | byte :: rest =>
    if escaped then alternativeBranches inClass false (branch ++ [byte]) rest
    else if byte = 0x5c then alternativeBranches inClass true (branch ++ [byte]) rest
    else if inClass then alternativeBranches (byte ≠ ascii ']') false (branch ++ [byte]) rest
    else if byte = ascii '[' then alternativeBranches true false (branch ++ [byte]) rest
    else if byte = ascii '|' then branch :: alternativeBranches false false [] rest
    else alternativeBranches false false (branch ++ [byte]) rest

def compileAsciiAlternativeBranch (caseSensitive : Bool) (branch : List UInt8) :
    Except CompileStatus TokenProgram :=
  if branch = [] then .error .unsupported
  else compileAsciiSequence branch caseSensitive

/-- `regexp_compile_ascii`. A pattern with more than one branch compiles to its alternatives. -/
def compileAscii (pattern : List UInt8) (caseSensitive : Bool) : Except CompileStatus Program :=
  if pattern.length > patternLengthMax then .error .tooLarge
  else
    let branches := alternativeBranches false false [] pattern
    if branches.length > 1 then
      (branches.mapM (compileAsciiAlternativeBranch caseSensitive)).map fun alternatives =>
        ⟨alternatives, { caseSensitive := caseSensitive }⟩
    else (compileAsciiSequence pattern caseSensitive).map fun sequence => ⟨[], sequence⟩

end MyLite.Regexp
