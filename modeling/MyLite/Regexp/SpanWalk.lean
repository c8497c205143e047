import MyLite.Regexp.Denotation

/-! The walk over the match table returns an end wherever the table says that the suffix of the
value matches, and the bytes it went over are a word of the tokens. -/
namespace MyLite.Regexp
open Computability Letters

/-! One step of the walk. -/

/-- The bytes of the value between two offsets. -/
def slice (value : List UInt8) (start stop : Nat) : List UInt8 :=
  (value.drop start).take (stop - start)

theorem slice_self (value : List UInt8) (start : Nat) : slice value start start = [] := by
  unfold slice
  rw [Nat.sub_self, List.take_zero]

theorem slice_append (value : List UInt8) {start middle stop : Nat} (first : start ≤ middle)
    (second : middle ≤ stop) :
    slice value start middle ++ slice value middle stop = slice value start stop := by
  unfold slice
  have whole : stop - start = (middle - start) + (stop - middle) := by omega
  rw [whole, List.take_add, List.drop_drop, Nat.add_sub_cancel' first]

/-- What a step of the walk over a token reaches. -/
structure Advanced (context : SpanContext) (token : Token) (position next : SpanPosition) :
    Prop where
  tokenIndex : next.tokenIndex = position.tokenIndex + 1
  forward : position.valueIndex ≤ next.valueIndex
  inside : next.valueIndex ≤ context.value.length
  marked : context.get next.tokenIndex next.valueIndex = true
  taken : slice context.value position.valueIndex next.valueIndex ∈
    tokenLanguage context.program token

section Step
variable {context : SpanContext} {position : SpanPosition} {token : Token} {tokens : List Token}

/-- The row below the position says which suffixes the later tokens match. -/
def RowBelow (context : SpanContext) (position : SpanPosition) (tokens : List Token) : Prop :=
  ∀ index ≤ context.value.length, (context.get (position.tokenIndex + 1) index = true ↔
    context.value.drop index ∈ suffixLanguage context.program tokens)

theorem advanced_empty (bounded : position.valueIndex ≤ context.value.length)
    (empty : [] ∈ tokenLanguage context.program token)
    (marked : context.get (position.tokenIndex + 1) position.valueIndex = true) :
    Advanced context token position ⟨position.tokenIndex + 1, position.valueIndex⟩ :=
  ⟨rfl, Nat.le_refl _, bounded, marked, by rwa [slice_self]⟩

theorem slice_byte {program : TokenProgram} {value : List UInt8} {index : Nat}
    (found : tokenMatchesAt program token value index = true) :
    slice value index (index + 1) ∈ letters (tokenMatchesByte program token) := by
  have inside := tokenMatchesAt_lt found
  unfold tokenMatchesAt at found
  rw [List.getElem?_eq_getElem inside] at found
  unfold slice
  rw [List.drop_eq_getElem_cons inside, Nat.add_sub_cancel_left]
  exact ⟨_, found, rfl⟩

theorem slice_literalSequence {program : TokenProgram} {value : List UInt8} {index : Nat}
    (found : literalSequenceMatchesAt program token value index = true) :
    slice value index (index + token.literalSequenceLength) ∈
      literalSequenceLanguage program token := by
  have enough := literalSequenceMatchesAt_le found
  unfold literalSequenceMatchesAt at found
  rw [if_neg (by omega)] at found
  unfold slice
  rw [Nat.add_sub_cancel_left]
  refine ⟨?_, of_decide_eq_true found⟩
  rw [List.length_take, List.length_drop]
  omega

theorem longestRepetition_some (extra : Nat) {least count : Nat} (lower : least ≤ count)
    (upper : count ≤ least + extra)
    (marked : context.get (position.tokenIndex + 1) (position.valueIndex + count) = true) :
    ∃ consumed, longestRepetition context position least extra = some consumed ∧
      least ≤ consumed ∧ consumed ≤ least + extra ∧
      context.get (position.tokenIndex + 1) (position.valueIndex + consumed) = true := by
  induction extra with
  | zero =>
    cases Nat.le_antisymm lower upper
    exact ⟨least, if_pos marked, lower, upper, marked⟩
  | succ extra ih =>
    unfold longestRepetition
    split
    · rename_i here
      exact ⟨_, rfl, Nat.le_add_right _ _, Nat.le_refl _, here⟩
    · rename_i other
      have shorter : count ≤ least + extra := by
        have differs : count ≠ least + (extra + 1) := fun same => other (same ▸ marked)
        omega
      obtain ⟨consumed, found, enough, most, here⟩ := ih shorter
      exact ⟨consumed, found, enough, by omega, here⟩

theorem tokenMatchRunLength_eq (program : TokenProgram) (token : Token) (text : List UInt8) :
    tokenMatchRunLength program token text =
      (text.takeWhile (tokenMatchesByte program token)).length := by
  induction text with
  | nil => rfl
  | cons byte rest ih =>
    unfold tokenMatchRunLength
    rw [List.takeWhile_cons]
    split
    · rw [ih, List.length_cons]
    · rfl

/-- The bytes behind the position that the token takes. -/
def runLength (context : SpanContext) (position : SpanPosition) (token : Token) : Nat :=
  ((context.value.drop position.valueIndex).takeWhile
    (tokenMatchesByte context.program token)).length

theorem runLength_le (context : SpanContext) (position : SpanPosition) (token : Token) :
    runLength context position token ≤ context.value.length - position.valueIndex := by
  unfold runLength
  rw [← List.length_drop]
  exact (List.takeWhile_sublist _).length_le

/-- The loop over the run finds an end whenever the later tokens match behind a part of it. -/
theorem matchSpanAdvanceRepeated_some {requireOne : Bool} {count : Nat}
    (bounded : position.valueIndex ≤ context.value.length)
    (run : count ≤ runLength context position token) (required : requireOne = true → 0 < count)
    (marked : context.get (position.tokenIndex + 1) (position.valueIndex + count) = true) :
    ∃ consumed, matchSpanAdvanceRepeated context token requireOne position =
        some ⟨position.tokenIndex + 1, position.valueIndex + consumed⟩ ∧
      (requireOne = true → 0 < consumed) ∧ consumed ≤ runLength context position token ∧
      position.valueIndex + consumed ≤ context.value.length ∧
      context.get (position.tokenIndex + 1) (position.valueIndex + consumed) = true := by
  unfold matchSpanAdvanceRepeated
  rw [tokenMatchRunLength_eq]
  have whole := runLength_le context position token
  unfold runLength at run whole ⊢
  generalize ((context.value.drop position.valueIndex).takeWhile
    (tokenMatchesByte context.program token)).length = length at run whole ⊢
  have least : (if requireOne then 1 else 0) ≤ count := by
    split
    · rename_i one
      exact required one
    · exact Nat.zero_le _
  obtain ⟨consumed, found, enough, most, here⟩ :=
    longestRepetition_some (length - if requireOne then 1 else 0) least (by omega) marked
  have some_byte : ¬(requireOne = true ∧ length = 0) := by
    rintro ⟨one, none⟩
    have some := required one
    omega
  refine ⟨consumed, ?_, ?_, by omega, by omega, here⟩
  · simp only [if_neg some_byte, found, Option.map_some]
  · intro one
    rw [if_pos one] at enough
    exact enough

theorem slice_run {consumed : Nat} (run : consumed ≤ runLength context position token) :
    slice context.value position.valueIndex (position.valueIndex + consumed) ∈
      (letters (tokenMatchesByte context.program token))∗ := by
  unfold slice
  rw [Nat.add_sub_cancel_left]
  exact take_mem_kstar run

/-- A run of at least one byte is a byte and a run. -/
theorem slice_run_one {consumed : Nat} (one : 0 < consumed)
    (run : consumed ≤ runLength context position token) :
    slice context.value position.valueIndex (position.valueIndex + consumed) ∈
      letters (tokenMatchesByte context.program token) *
        (letters (tokenMatchesByte context.program token))∗ := by
  have repeated := slice_run run
  rw [← Language.one_add_self_mul_kstar_eq_kstar, Language.mem_add] at repeated
  refine repeated.resolve_left fun empty => ?_
  have none := congrArg List.length ((Language.mem_one _).mp empty)
  have whole := runLength_le context position token
  unfold slice at none
  rw [List.length_take, List.length_drop, List.length_nil] at none
  omega

theorem matchSpanAdvanceQuantified_some
    (bounded : position.valueIndex ≤ context.value.length)
    (below : RowBelow context position tokens)
    (inner : token.kind ≠ .endAnchor)
    (language : tokenLanguage context.program token =
      quantifiedLanguage (letters (tokenMatchesByte context.program token)) token.quantifier)
    (starts : context.value.drop position.valueIndex ∈
      suffixLanguage context.program (token :: tokens)) :
    ∃ next, matchSpanAdvanceQuantified context token position = some next ∧
      Advanced context token position next := by
  rw [suffixLanguage_cons inner, language] at starts
  have advanced (taken : tokenMatchesAt context.program token context.value
      position.valueIndex = true) := below (position.valueIndex + 1) (tokenMatchesAt_lt taken)
  have ended := below position.valueIndex bounded
  have repeated {count : Nat} (run : count ≤ runLength context position token) :=
    below (position.valueIndex + count)
      (by have whole := runLength_le context position token; omega)
  unfold matchSpanAdvanceQuantified
  cases quantifier : token.quantifier with
  | one =>
    simp only [quantifier, quantifiedLanguage] at starts language
    obtain ⟨taken, later⟩ := drop_mem_letters_mul.mp starts
    have marked := (advanced taken).mpr later
    refine ⟨⟨position.tokenIndex + 1, position.valueIndex + 1⟩, ?_, rfl, Nat.le_succ _,
      tokenMatchesAt_lt taken, marked, ?_⟩
    · simp [matchSpanAdvanceOne, taken, marked]
    · rw [language]
      exact slice_byte taken
  | zeroOrOne =>
    simp only [quantifier, quantifiedLanguage, add_mul, one_mul, Language.mem_add,
      drop_mem_letters_mul] at starts language
    dsimp only
    unfold matchSpanAdvanceZeroOrOne
    split
    · rename_i found
      refine ⟨⟨position.tokenIndex + 1, position.valueIndex + 1⟩, rfl, rfl, Nat.le_succ _,
        tokenMatchesAt_lt found.1, found.2, ?_⟩
      rw [language]
      exact .inr (slice_byte found.1)
    · rename_i other
      have marked : context.get (position.tokenIndex + 1) position.valueIndex = true := by
        rcases starts with later | ⟨taken, later⟩
        · exact ended.mpr later
        · exact absurd ⟨taken, (advanced taken).mpr later⟩ other
      refine ⟨_, if_neg (by simp [marked]), advanced_empty bounded ?_ marked⟩
      rw [language]
      exact .inl rfl
  | zeroOrMore =>
    simp only [quantifier, quantifiedLanguage] at starts language
    obtain ⟨count, run, later⟩ := mem_kstar_letters_mul.mp starts
    rw [List.drop_drop] at later
    obtain ⟨consumed, found, -, taken, most, marked⟩ :=
      matchSpanAdvanceRepeated_some bounded run (fun one => absurd one Bool.false_ne_true)
        ((repeated run).mpr later)
    refine ⟨_, found, rfl, Nat.le_add_right _ _, most, marked, ?_⟩
    rw [language]
    exact slice_run taken
  | oneOrMore =>
    simp only [quantifier, quantifiedLanguage] at starts language
    obtain ⟨count, one, run, later⟩ := mem_letters_mul_kstar_mul.mp starts
    rw [List.drop_drop] at later
    obtain ⟨consumed, found, some, taken, most, marked⟩ :=
      matchSpanAdvanceRepeated_some bounded run (fun _ => one) ((repeated run).mpr later)
    refine ⟨_, found, rfl, Nat.le_add_right _ _, most, marked, ?_⟩
    rw [language]
    exact slice_run_one (some rfl) taken

theorem matchSpanAdvanceOptionalLiteralSequence_some
    (bounded : position.valueIndex ≤ context.value.length)
    (below : RowBelow context position tokens) (kind : token.kind = .optionalLiteralSequence)
    (starts : context.value.drop position.valueIndex ∈
      suffixLanguage context.program (token :: tokens)) :
    ∃ next, matchSpanAdvanceOptionalLiteralSequence context token position = some next ∧
      Advanced context token position next := by
  have language : tokenLanguage context.program token =
      1 + literalSequenceLanguage context.program token := by
    simp [tokenLanguage, kind]
  rw [suffixLanguage_cons (by simp [kind]), language, add_mul, one_mul, Language.mem_add,
    drop_mem_literalSequence_mul bounded] at starts
  unfold matchSpanAdvanceOptionalLiteralSequence
  split
  · rename_i found
    refine ⟨_, rfl, rfl, Nat.le_add_right _ _, literalSequenceMatchesAt_le found.1, found.2, ?_⟩
    rw [language]
    exact .inr (slice_literalSequence found.1)
  · rename_i other
    have marked : context.get (position.tokenIndex + 1) position.valueIndex = true := by
      rcases starts with later | ⟨taken, later⟩
      · exact (below _ bounded).mpr later
      · exact absurd ⟨taken, (below _ (literalSequenceMatchesAt_le taken)).mpr later⟩ other
    refine ⟨_, if_neg (by simp [marked]), advanced_empty bounded ?_ marked⟩
    rw [language]
    exact .inl rfl

theorem matchSpanAdvanceEndAnchor_some
    (below : RowBelow context position []) (kind : token.kind = .endAnchor)
    (bounded : position.valueIndex ≤ context.value.length)
    (starts : context.value.drop position.valueIndex ∈ suffixLanguage context.program [token]) :
    ∃ next, matchSpanAdvanceEndAnchor context position = some next ∧
      Advanced context token position next := by
  have marked := (below _ bounded).mpr (mem_suffixLanguage_nil _ _)
  have ended := List.drop_eq_nil_iff.mp ((mem_suffixLanguage_endAnchor kind).mp starts)
  have last : position.valueIndex = context.value.length := Nat.le_antisymm bounded ended
  refine ⟨_, if_neg ?_, advanced_empty bounded ?_ marked⟩
  · simp [last, last ▸ marked]
  · simp [tokenLanguage, kind]

/-- A step of the walk goes on wherever the table says that the suffix matches. -/
theorem matchSpanAdvance_some (last : EndAnchorLast (token :: tokens))
    (here : context.program.tokens.getD position.tokenIndex {} = token)
    (bounded : position.valueIndex ≤ context.value.length)
    (below : RowBelow context position tokens)
    (starts : context.value.drop position.valueIndex ∈
      suffixLanguage context.program (token :: tokens)) :
    ∃ next, matchSpanAdvance context position = some next ∧
      Advanced context token position next := by
  unfold matchSpanAdvance
  dsimp only
  rw [here]
  split
  · rename_i kind
    cases last.1 kind
    exact matchSpanAdvanceEndAnchor_some below kind bounded starts
  · rename_i kind
    exact matchSpanAdvanceOptionalLiteralSequence_some bounded below kind starts
  all_goals
    rename_i kind
    exact matchSpanAdvanceQuantified_some bounded below (by simp [kind])
      (by simp [tokenLanguage, kind]) starts

end Step

/-! The walk. -/

def SpanContext.of (program : TokenProgram) (value : List UInt8) : SpanContext :=
  ⟨program, value, fillMatchTable program value⟩

section Walk
variable {program : TokenProgram} {value : List UInt8}

/-- Where the walk over the tokens from an index on ends. -/
structure SpanEnd (program : TokenProgram) (value : List UInt8) (position : SpanPosition)
    (stop : Nat) : Prop where
  forward : position.valueIndex ≤ stop
  inside : stop ≤ value.length
  denoted : slice value position.valueIndex stop ∈
    ((program.tokens.drop position.tokenIndex).map (tokenLanguage program)).prod
  anchored : endAnchored (program.tokens.drop position.tokenIndex) = true → stop = value.length

/-- The walk returns an end wherever the table says that the suffix matches. -/
theorem matchSpanFrom_some (last : EndAnchorLast program.tokens) (position : SpanPosition)
    (row : position.tokenIndex ≤ program.tokens.length)
    (bounded : position.valueIndex ≤ value.length)
    (marked : (SpanContext.of program value).get position.tokenIndex position.valueIndex = true) :
    ∃ stop, matchSpanFrom (SpanContext.of program value) position = some stop ∧
      SpanEnd program value position stop := by
  -- the walk takes one token a step
  induction remaining : program.tokens.length - position.tokenIndex generalizing position with
  | zero =>
    have ended : program.tokens.drop position.tokenIndex = [] :=
      List.drop_eq_nil_of_le (by omega)
    refine ⟨position.valueIndex, ?_, Nat.le_refl _, bounded, ?_, ?_⟩
    · unfold matchSpanFrom
      exact dif_neg (Nat.not_lt_of_le (Nat.le_of_sub_eq_zero remaining))
    · rw [ended, slice_self]
      exact Language.nil_mem_one
    · rw [ended]
      intro none
      cases none
  | succ remaining ih =>
    have more : position.tokenIndex < program.tokens.length := by omega
    have suffix := tokens_drop more
    have suffixLast := last.drop position.tokenIndex
    have starts := (fillMatchTable_right last value row bounded).mp marked
    rw [suffix] at suffixLast starts
    have advance : ∃ next, matchSpanAdvance (SpanContext.of program value) position = some next ∧
        Advanced (SpanContext.of program value) (program.tokens.getD position.tokenIndex {})
          position next :=
      matchSpanAdvance_some suffixLast rfl bounded
        (fun index inside => fillMatchTable_right last value more inside) starts
    obtain ⟨next, advanced, step⟩ := advance
    have rest := ih next (by rw [step.tokenIndex]; exact more) step.inside step.marked
      (by rw [step.tokenIndex]; omega)
    obtain ⟨stop, found, spanned⟩ := rest
    refine ⟨stop, ?_, Nat.le_trans step.forward spanned.forward, spanned.inside, ?_, ?_⟩
    · unfold matchSpanFrom
      rw [dif_pos (show position.tokenIndex < (SpanContext.of program value).program.tokens.length
        from more)]
      split
      · rename_i failed
        rw [advanced] at failed
        cases failed
      · rename_i other moved
        rw [advanced] at moved
        cases moved
        exact found
    · rw [suffix, List.map_cons, List.prod_cons, ← slice_append value step.forward spanned.forward]
      have later := spanned.denoted
      rw [step.tokenIndex] at later
      exact Language.append_mem_mul step.taken later
    · intro anchored
      rw [suffix] at anchored
      by_cases kind : (program.tokens.getD position.tokenIndex {}).kind = .endAnchor
      · rw [suffixLast.1 kind] at starts
        have ended := List.drop_eq_nil_iff.mp ((mem_suffixLanguage_endAnchor kind).mp starts)
        have forward := Nat.le_trans step.forward spanned.forward
        have inside := spanned.inside
        omega
      · refine spanned.anchored ?_
        rw [step.tokenIndex]
        simp only [endAnchored, List.any_cons, kind, decide_false, Bool.false_or] at anchored
        exact anchored

end Walk

end MyLite.Regexp
