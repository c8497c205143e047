import MyLite.Library.Letters
import MyLite.Regexp.Match

/-! The language of a token program, and that the match table holds the suffixes of the value that
start with a word of it. -/
namespace MyLite.Regexp
open Computability Letters

/-- The words of an optional literal sequence, up to the case of their letters. -/
def literalSequenceLanguage (program : TokenProgram) (token : Token) : Language UInt8 :=
  {word | word.length = token.literalSequenceLength ∧
    word.map program.normalizeAsciiByte = program.literalSequenceOf token}

/-- The words of a quantified expression. -/
def quantifiedLanguage (words : Language UInt8) : Quantifier → Language UInt8
  | .one => words
  | .zeroOrOne => 1 + words
  | .zeroOrMore => words∗
  | .oneOrMore => words * words∗

/-- The words a token stands for; the end anchor takes no byte. -/
def tokenLanguage (program : TokenProgram) (token : Token) : Language UInt8 :=
  match token.kind with
  | .endAnchor => 1
  | .optionalLiteralSequence => 1 + literalSequenceLanguage program token
  | .literal | .any | .class =>
    quantifiedLanguage (letters (tokenMatchesByte program token)) token.quantifier

def endAnchored (tokens : List Token) : Bool :=
  tokens.any (·.kind = .endAnchor)

/-- The words of a program, without its anchors. -/
def TokenProgram.language (program : TokenProgram) : Language UInt8 :=
  (program.tokens.map (tokenLanguage program)).prod

/-- A word of the program between what stands before and after it. -/
def TokenProgram.Occurs (program : TokenProgram) (before word after : List UInt8) : Prop :=
  word ∈ program.language ∧ (program.anchoredStart = true → before = []) ∧
    (endAnchored program.tokens = true → after = [])

/-- The alternatives, or the only sequence. -/
def Program.sequences (program : Program) : List TokenProgram :=
  if program.alternatives = [] then [program.sequence] else program.alternatives

def Program.Occurs (program : Program) (before word after : List UInt8) : Prop :=
  ∃ sequence ∈ program.sequences, sequence.Occurs before word after

/-! The end anchor stands last. -/

def EndAnchorLast : List Token → Prop
  | [] => True
  | token :: tokens => (token.kind = .endAnchor → tokens = []) ∧ EndAnchorLast tokens

/-- The texts that start with a word of the tokens, or are one if the tokens are end anchored. -/
def suffixLanguage (program : TokenProgram) (tokens : List Token) : Language UInt8 :=
  (tokens.map (tokenLanguage program)).prod * (if endAnchored tokens then 1 else ⊤)

theorem mem_suffixLanguage {program : TokenProgram} {tokens : List Token} {text : List UInt8} :
    text ∈ suffixLanguage program tokens ↔
      ∃ word after, text = word ++ after ∧ word ∈ (tokens.map (tokenLanguage program)).prod ∧
        (endAnchored tokens = true → after = []) := by
  unfold suffixLanguage
  rw [Language.mem_mul]
  constructor
  · rintro ⟨word, denoted, after, allowed, rfl⟩
    refine ⟨word, after, rfl, denoted, fun anchored => ?_⟩
    rw [if_pos anchored] at allowed
    exact allowed
  · rintro ⟨word, after, rfl, denoted, allowed⟩
    refine ⟨word, denoted, after, ?_, rfl⟩
    split
    · rename_i anchored
      exact allowed anchored
    · trivial

theorem mem_suffixLanguage_nil (program : TokenProgram) (text : List UInt8) :
    text ∈ suffixLanguage program [] := by
  rw [mem_suffixLanguage]
  refine ⟨[], text, rfl, rfl, ?_⟩
  intro anchored
  cases anchored

theorem suffixLanguage_cons {program : TokenProgram} {token : Token} {tokens : List Token}
    (inner : token.kind ≠ .endAnchor) :
    suffixLanguage program (token :: tokens) =
      tokenLanguage program token * suffixLanguage program tokens := by
  unfold suffixLanguage
  rw [List.map_cons, List.prod_cons, mul_assoc]
  congr 2
  simp [endAnchored, inner]

theorem mem_suffixLanguage_endAnchor {program : TokenProgram} {token : Token} {text : List UInt8}
    (kind : token.kind = .endAnchor) :
    text ∈ suffixLanguage program [token] ↔ text = [] := by
  have anchored : endAnchored [token] = true := by
    simp [endAnchored, kind]
  have empty : tokenLanguage program token = 1 := by
    simp [tokenLanguage, kind]
  unfold suffixLanguage
  rw [if_pos anchored, mul_one, List.map_singleton, List.prod_singleton, empty]
  exact Iff.rfl

/-! The table as a map of the cells. -/

theorem matchTableIndex_inj {length token value otherToken otherValue : Nat}
    (bounded : value ≤ length) (otherBounded : otherValue ≤ length)
    (same : matchTableIndex length token value = matchTableIndex length otherToken otherValue) :
    token = otherToken ∧ value = otherValue := by
  unfold matchTableIndex at same
  have rows : token = otherToken := by
    have first := congrArg (· / (length + 1)) same
    simp only [Nat.mul_comm _ (length + 1)] at first
    rwa [Nat.mul_add_div (Nat.succ_pos _), Nat.mul_add_div (Nat.succ_pos _),
      Nat.div_eq_of_lt (Nat.lt_succ_of_le bounded),
      Nat.div_eq_of_lt (Nat.lt_succ_of_le otherBounded)] at first
  subst rows
  exact ⟨rfl, Nat.add_left_cancel same⟩

theorem matchTableIndex_lt {length rows token value : Nat} (row : token < rows)
    (bounded : value ≤ length) : matchTableIndex length token value < rows * (length + 1) := by
  have whole : (token + 1) * (length + 1) ≤ rows * (length + 1) := Nat.mul_le_mul_right _ row
  rw [Nat.succ_mul] at whole
  unfold matchTableIndex
  omega

theorem matchTableSet_size (table : MatchTable) (length token value : Nat) (cell : Bool) :
    (matchTableSet table length token value cell).size = table.size :=
  Array.size_setIfInBounds

theorem matchTableGet_set_self {table : MatchTable} {length rows token value : Nat}
    (size : table.size = rows * (length + 1)) (row : token < rows) (bounded : value ≤ length)
    (cell : Bool) :
    matchTableGet (matchTableSet table length token value cell) length token value = cell := by
  have inside := matchTableIndex_lt row bounded
  rw [← size] at inside
  simp [matchTableGet, matchTableSet, inside]

theorem matchTableGet_set_of_ne {table : MatchTable} {length token value otherToken otherValue : Nat}
    (bounded : value ≤ length) (otherBounded : otherValue ≤ length)
    (other : token ≠ otherToken ∨ value ≠ otherValue) (cell : Bool) :
    matchTableGet (matchTableSet table length token value cell) length otherToken otherValue =
      matchTableGet table length otherToken otherValue := by
  have apart : matchTableIndex length token value ≠ matchTableIndex length otherToken otherValue :=
    fun same =>
      let found := matchTableIndex_inj bounded otherBounded same
      other.elim (fun differs => differs found.1) fun differs => differs found.2
  simp [matchTableGet, matchTableSet, Array.getElem?_setIfInBounds_ne apart]

/-! One cell of the table. -/

theorem tokenMatchesAt_lt {program : TokenProgram} {token : Token} {value : List UInt8}
    {index : Nat} (taken : tokenMatchesAt program token value index = true) :
    index < value.length := by
  unfold tokenMatchesAt at taken
  split at taken
  · cases taken
  · rename_i byte found
    exact (List.getElem?_eq_some_iff.mp found).1

theorem drop_mem_letters_mul {program : TokenProgram} {token : Token} {value : List UInt8}
    {index : Nat} {next : Language UInt8} :
    value.drop index ∈ letters (tokenMatchesByte program token) * next ↔
      tokenMatchesAt program token value index = true ∧ value.drop (index + 1) ∈ next := by
  unfold tokenMatchesAt
  by_cases inside : index < value.length
  · rw [List.drop_eq_getElem_cons inside, cons_mem_letters_mul, List.getElem?_eq_getElem inside]
  · have past := Nat.le_of_not_lt inside
    rw [List.drop_eq_nil_of_le past, List.getElem?_eq_none past]
    simp [nil_notMem_letters_mul]

theorem literalSequenceMatchesAt_le {program : TokenProgram} {token : Token} {value : List UInt8}
    {index : Nat} (found : literalSequenceMatchesAt program token value index = true) :
    index + token.literalSequenceLength ≤ value.length := by
  unfold literalSequenceMatchesAt at found
  split at found
  · cases found
  · omega

theorem drop_mem_literalSequence_mul {program : TokenProgram} {token : Token} {value : List UInt8}
    {index : Nat} (bounded : index ≤ value.length) {next : Language UInt8} :
    value.drop index ∈ literalSequenceLanguage program token * next ↔
      literalSequenceMatchesAt program token value index = true ∧
        value.drop (index + token.literalSequenceLength) ∈ next := by
  rw [Language.mem_mul]
  constructor
  · rintro ⟨word, ⟨length, same⟩, rest, later, whole⟩
    have enough : token.literalSequenceLength ≤ value.length - index := by
      rw [← List.length_drop, ← whole, List.length_append, length]
      exact Nat.le_add_right _ _
    have front : (value.drop index).take token.literalSequenceLength = word := by
      rw [← whole, ← length, List.take_left]
    have back : value.drop (index + token.literalSequenceLength) = rest := by
      rw [← List.drop_drop, ← whole, ← length, List.drop_left]
    refine ⟨?_, back ▸ later⟩
    unfold literalSequenceMatchesAt
    rw [if_neg (by omega), front]
    exact decide_eq_true same
  · rintro ⟨found, later⟩
    have enough := literalSequenceMatchesAt_le found
    unfold literalSequenceMatchesAt at found
    rw [if_neg (by omega)] at found
    refine ⟨_, ⟨?_, of_decide_eq_true found⟩, _, later, ?_⟩
    · rw [List.length_take, List.length_drop]
      omega
    · rw [← List.drop_drop, List.take_append_drop]

/-- The cells a cell is made from hold the suffixes that match. -/
structure Neighbours (program : TokenProgram) (token : Token) (tokens : List Token)
    (value : List UInt8) (tokenIndex index : Nat) (table : MatchTable) : Prop where
  below : ∀ column ≤ value.length,
    (matchTableGet table value.length (tokenIndex + 1) column = true ↔
      value.drop column ∈ suffixLanguage program tokens)
  beside : index < value.length →
    (matchTableGet table value.length tokenIndex (index + 1) = true ↔
      value.drop (index + 1) ∈ suffixLanguage program (token :: tokens))

theorem matchQuantifiedSuffixFrom_iff {program : TokenProgram} {token : Token}
    {tokens : List Token} {value : List UInt8} {tokenIndex index : Nat} {table : MatchTable}
    (bounded : index ≤ value.length)
    (neighbours : Neighbours program token tokens value tokenIndex index table)
    (inner : token.kind ≠ .endAnchor)
    (language : tokenLanguage program token =
      quantifiedLanguage (letters (tokenMatchesByte program token)) token.quantifier) :
    matchQuantifiedSuffixFrom program token value tokenIndex index table = true ↔
      value.drop index ∈ suffixLanguage program (token :: tokens) := by
  have ended := neighbours.below index bounded
  have advanced (taken : tokenMatchesAt program token value index = true) :=
    neighbours.below (index + 1) (tokenMatchesAt_lt taken)
  have repeated (taken : tokenMatchesAt program token value index = true) :=
    neighbours.beside (tokenMatchesAt_lt taken)
  rw [suffixLanguage_cons inner, language] at repeated ⊢
  unfold matchQuantifiedSuffixFrom
  cases quantifier : token.quantifier with
  | one =>
    simp only [quantifiedLanguage, drop_mem_letters_mul]
    by_cases taken : tokenMatchesAt program token value index = true
    · simp [taken, advanced taken]
    · simp [taken]
  | zeroOrOne =>
    simp only [quantifiedLanguage, add_mul, one_mul, Language.mem_add, drop_mem_letters_mul,
      ← ended]
    by_cases taken : tokenMatchesAt program token value index = true
    · simp [taken, ← advanced taken]
    · simp [taken]
  | zeroOrMore =>
    simp only [quantifier, quantifiedLanguage] at repeated ⊢
    rw [kstar_mul, Language.mem_add, drop_mem_letters_mul, ← ended]
    by_cases taken : tokenMatchesAt program token value index = true
    · simp [taken, ← repeated taken]
    · simp [taken]
  | oneOrMore =>
    simp only [quantifier, quantifiedLanguage, mul_assoc] at repeated ⊢
    rw [drop_mem_letters_mul, kstar_mul, Language.mem_add]
    by_cases taken : tokenMatchesAt program token value index = true
    · simp [taken, ← repeated taken, ← advanced taken]
    · simp [taken]

theorem matchOptionalLiteralSequenceSuffixFrom_iff {program : TokenProgram} {token : Token}
    {tokens : List Token} {value : List UInt8} {tokenIndex index : Nat} {table : MatchTable}
    (bounded : index ≤ value.length)
    (neighbours : Neighbours program token tokens value tokenIndex index table)
    (kind : token.kind = .optionalLiteralSequence) :
    matchOptionalLiteralSequenceSuffixFrom program token value tokenIndex index table = true ↔
      value.drop index ∈ suffixLanguage program (token :: tokens) := by
  have language : tokenLanguage program token = 1 + literalSequenceLanguage program token := by
    simp [tokenLanguage, kind]
  rw [suffixLanguage_cons (by simp [kind]), language, add_mul, one_mul, Language.mem_add,
    drop_mem_literalSequence_mul bounded, ← neighbours.below index bounded]
  unfold matchOptionalLiteralSequenceSuffixFrom
  by_cases found : literalSequenceMatchesAt program token value index = true
  · simp [found, neighbours.below _ (literalSequenceMatchesAt_le found)]
  · simp [found]

/-- A cell says whether the suffix matches when the cells it reads do. -/
theorem matchTokenSuffixFrom_iff {program : TokenProgram} {token : Token} {tokens : List Token}
    {value : List UInt8} {tokenIndex index : Nat} {table : MatchTable}
    (last : token.kind = .endAnchor → tokens = []) (bounded : index ≤ value.length)
    (neighbours : Neighbours program token tokens value tokenIndex index table) :
    matchTokenSuffixFrom program token value tokenIndex index table = true ↔
      value.drop index ∈ suffixLanguage program (token :: tokens) := by
  unfold matchTokenSuffixFrom
  split
  · rename_i kind
    cases last kind
    rw [mem_suffixLanguage_endAnchor kind, List.drop_eq_nil_iff]
    have ended := neighbours.below index bounded
    split
    · simp only [Bool.false_eq_true, false_iff]
      omega
    · simp only [ended, mem_suffixLanguage_nil, true_iff]
      omega
  · rename_i kind
    exact matchOptionalLiteralSequenceSuffixFrom_iff bounded neighbours kind
  all_goals
    rename_i kind
    exact matchQuantifiedSuffixFrom_iff bounded neighbours (by simp [kind])
      (by simp [tokenLanguage, kind])

/-! The whole table. -/

theorem EndAnchorLast.drop {tokens : List Token} (last : EndAnchorLast tokens) (count : Nat) :
    EndAnchorLast (tokens.drop count) := by
  induction count generalizing tokens with
  | zero => exact last
  | succ count ih =>
    cases tokens with
    | nil => trivial
    | cons token tokens => exact ih last.2

theorem tokens_drop {program : TokenProgram} {tokenIndex : Nat}
    (row : tokenIndex < program.tokens.length) :
    program.tokens.drop tokenIndex =
      program.tokens.getD tokenIndex {} :: program.tokens.drop (tokenIndex + 1) := by
  rw [List.drop_eq_getElem_cons row, List.getD_eq_getElem?_getD, List.getElem?_eq_getElem row,
    Option.getD_some]

/-- A cell says whether the suffix of the value starts with a word of the last tokens. -/
def RightCell (program : TokenProgram) (value : List UInt8) (table : MatchTable)
    (tokenIndex index : Nat) : Prop :=
  matchTableGet table value.length tokenIndex index = true ↔
    value.drop index ∈ suffixLanguage program (program.tokens.drop tokenIndex)

def TableSize (program : TokenProgram) (value : List UInt8) (table : MatchTable) : Prop :=
  table.size = (program.tokens.length + 1) * (value.length + 1)

theorem fillLastRow_right {program : TokenProgram} {value : List UInt8} {table : MatchTable}
    (size : TableSize program value table) {count : Nat} (bounded : count ≤ value.length + 1) :
    TableSize program value (fillLastRow program value count table) ∧
      ∀ index < count, RightCell program value (fillLastRow program value count table)
        program.tokens.length index := by
  induction count with
  | zero => exact ⟨size, fun index none => absurd none (Nat.not_lt_zero index)⟩
  | succ count ih =>
    obtain ⟨sized, filled⟩ := ih (Nat.le_of_succ_le bounded)
    have inside : count ≤ value.length := Nat.le_of_succ_le_succ bounded
    unfold fillLastRow
    refine ⟨(matchTableSet_size _ _ _ _ _).trans sized, ?_⟩
    intro index before
    unfold RightCell
    rw [List.drop_length]
    refine iff_of_true ?_ (mem_suffixLanguage_nil program _)
    by_cases same : index = count
    · subst same
      exact matchTableGet_set_self sized (Nat.lt_succ_self _) inside true
    · have old := filled index (by omega)
      unfold RightCell at old
      rw [List.drop_length] at old
      rw [matchTableGet_set_of_ne inside (by omega) (.inr (Ne.symm same))]
      exact old.mpr (mem_suffixLanguage_nil program _)

/-- The inner loop fills the row and leaves the others. -/
theorem fillRow_right {program : TokenProgram} {value : List UInt8} {tokenIndex count : Nat}
    {table : MatchTable} (last : EndAnchorLast program.tokens)
    (row : tokenIndex < program.tokens.length) (bounded : count ≤ value.length + 1)
    (size : TableSize program value table)
    (below : ∀ later, tokenIndex < later → later ≤ program.tokens.length →
      ∀ index ≤ value.length, RightCell program value table later index)
    (filled : ∀ index ≤ value.length, count ≤ index →
      RightCell program value table tokenIndex index) :
    TableSize program value
        (fillRow program value (program.tokens.getD tokenIndex {}) tokenIndex count table) ∧
      ∀ later, tokenIndex ≤ later → later ≤ program.tokens.length → ∀ index ≤ value.length,
        RightCell program value
          (fillRow program value (program.tokens.getD tokenIndex {}) tokenIndex count table)
          later index := by
  induction count generalizing table with
  | zero =>
    refine ⟨size, ?_⟩
    intro later from_row inside index column
    rcases Nat.eq_or_lt_of_le from_row with rfl | after
    · exact filled index column (Nat.zero_le _)
    · exact below later after inside index column
  | succ count ih =>
    have column : count ≤ value.length := Nat.le_of_succ_le_succ bounded
    have suffix := tokens_drop row
    have anchored := last.drop tokenIndex
    rw [suffix] at anchored
    -- the cell reads the row below and the cell at its right
    have cell : matchTokenSuffixFrom program (program.tokens.getD tokenIndex {}) value tokenIndex
        count table = true ↔
        value.drop count ∈ suffixLanguage program (program.tokens.drop tokenIndex) := by
      rw [suffix]
      refine matchTokenSuffixFrom_iff anchored.1 column ⟨?_, ?_⟩
      · exact below (tokenIndex + 1) (Nat.lt_succ_self _) row
      · intro inside
        rw [← suffix]
        exact filled (count + 1) inside (Nat.le_refl _)
    unfold fillRow
    refine ih (Nat.le_of_succ_le bounded) ((matchTableSet_size _ _ _ _ _).trans size) ?_ ?_
    · intro later after inside index bound
      unfold RightCell
      rw [matchTableGet_set_of_ne column bound (.inl (Nat.ne_of_lt after))]
      exact below later after inside index bound
    · intro index bound from_count
      unfold RightCell
      rcases Nat.eq_or_lt_of_le from_count with rfl | after
      · rw [matchTableGet_set_self size (Nat.lt_succ_of_lt row) column]
        exact cell
      · rw [matchTableGet_set_of_ne column bound (.inr (Nat.ne_of_lt after))]
        exact filled index bound after

theorem fillRows_right {program : TokenProgram} {value : List UInt8} {count : Nat}
    {table : MatchTable} (last : EndAnchorLast program.tokens)
    (bounded : count ≤ program.tokens.length) (size : TableSize program value table)
    (filled : ∀ tokenIndex, count ≤ tokenIndex → tokenIndex ≤ program.tokens.length →
      ∀ index ≤ value.length, RightCell program value table tokenIndex index) :
    ∀ tokenIndex ≤ program.tokens.length, ∀ index ≤ value.length,
      RightCell program value (fillRows program value count table) tokenIndex index := by
  induction count generalizing table with
  | zero => exact fun tokenIndex inside => filled tokenIndex (Nat.zero_le _) inside
  | succ count ih =>
    have row := fillRow_right last bounded (Nat.le_refl _) size filled
      (fun index inside none => absurd inside (Nat.not_le_of_lt none))
    exact ih (Nat.le_of_succ_le bounded) row.1 row.2

/-- `fill_match_table` marks the suffixes that start with a word of the last tokens. -/
theorem fillMatchTable_right {program : TokenProgram} (last : EndAnchorLast program.tokens)
    (value : List UInt8) {tokenIndex index : Nat} (row : tokenIndex ≤ program.tokens.length)
    (column : index ≤ value.length) :
    RightCell program value (fillMatchTable program value) tokenIndex index := by
  have fresh : TableSize program value
      (Array.replicate ((program.tokens.length + 1) * (value.length + 1)) false) :=
    Array.size_replicate
  obtain ⟨size, filled⟩ := fillLastRow_right fresh (Nat.le_refl _)
  refine fillRows_right last (Nat.le_refl _) size ?_ tokenIndex row index column
  intro later from_end inside index bound
  cases Nat.le_antisymm from_end inside
  exact filled index (Nat.lt_succ_of_le bound)

end MyLite.Regexp
