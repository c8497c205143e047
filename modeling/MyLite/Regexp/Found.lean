import MyLite.Regexp.SpanWalk

/-! What a find reports: a leftmost word of the compiled program, whenever there is one. -/
namespace MyLite.Regexp
open Letters

/-! Compiled sequences have their end anchor last. -/

def NoEndAnchor (tokens : List Token) : Prop :=
  ∀ token ∈ tokens, token.kind ≠ .endAnchor

theorem EndAnchorLast.append {tokens : List Token} (inner : NoEndAnchor tokens)
    (last : Token) : EndAnchorLast (tokens ++ [last]) := by
  induction tokens with
  | nil => exact ⟨fun _ => rfl, trivial⟩
  | cons token tokens ih =>
    obtain ⟨here, later⟩ := List.forall_mem_cons.mp inner
    exact ⟨fun kind => absurd kind here, ih later⟩

theorem NoEndAnchor.last {tokens : List Token} (inner : NoEndAnchor tokens) :
    EndAnchorLast tokens := by
  induction tokens with
  | nil => trivial
  | cons token tokens ih =>
    obtain ⟨here, later⟩ := List.forall_mem_cons.mp inner
    exact ⟨fun kind => absurd kind here, ih later⟩

theorem NoEndAnchor.append {tokens added : List Token} (inner : NoEndAnchor tokens)
    (more : NoEndAnchor added) : NoEndAnchor (tokens ++ added) :=
  List.forall_mem_append.mpr ⟨inner, more⟩

/-- An atom adds no token itself and is no end anchor. -/
theorem compileAtomToken_inner {program after : TokenProgram} {byte : UInt8}
    {pattern rest : List UInt8} {token : Token}
    (compiled : compileAtomToken program byte pattern = .ok (token, after, rest)) :
    token.kind ≠ .endAnchor ∧ after.tokens = program.tokens := by
  unfold compileAtomToken at compiled
  split at compiled
  · cases compiled
    exact ⟨by simp, rfl⟩
  split at compiled
  · unfold compileClassToken at compiled
    dsimp only at compiled
    split at compiled
    · cases compiled
    · split at compiled <;> cases compiled
      exact ⟨by simp, rfl⟩
  split at compiled
  · obtain ⟨parsed, -, same⟩ := map_ok compiled
    cases same
    exact ⟨by simp, rfl⟩
  split at compiled <;> cases compiled
  exact ⟨by simp, rfl⟩

theorem compileOptionalLiteralGroupToken_inner {program after : TokenProgram}
    {pattern rest : List UInt8} {token : Token}
    (compiled : compileOptionalLiteralGroupToken program pattern = .ok (token, after, rest)) :
    token.kind ≠ .endAnchor ∧ after.tokens = program.tokens := by
  unfold compileOptionalLiteralGroupToken at compiled
  split at compiled
  · cases compiled
  · split at compiled
    · cases compiled
    · split at compiled <;> cases compiled
      exact ⟨by simp, rfl⟩
    · cases compiled

theorem compileQuantifier_inner {token : Token} {program after : TokenProgram}
    {pattern rest : List UInt8} (inner : token.kind ≠ .endAnchor)
    (before : NoEndAnchor program.tokens)
    (compiled : compileQuantifier token program pattern = .ok (after, rest)) :
    NoEndAnchor after.tokens := by
  have one {added : Token} (kind : added.kind = token.kind) :
      NoEndAnchor (program.appendToken added).tokens := by
    refine before.append ?_
    intro found mem
    rw [List.mem_singleton.mp mem, kind]
    exact inner
  unfold compileQuantifier at compiled
  split at compiled
  · cases compiled
    exact one rfl
  split at compiled
  · cases compiled
    exact one rfl
  split at compiled
  · cases compiled
    exact one rfl
  split at compiled
  · cases compiled
    exact one rfl
  split at compiled
  · obtain ⟨parsed, -, same⟩ := map_ok compiled
    cases same
    refine before.append ?_
    intro found mem
    rw [List.eq_of_mem_replicate mem]
    exact inner
  · cases compiled
    exact one rfl

/-- Only the last token of a pattern is an end anchor. -/
theorem compileNextToken_inner {program after : TokenProgram} {byte : UInt8}
    {pattern rest : List UInt8} (before : NoEndAnchor program.tokens)
    (compiled : compileNextToken program byte pattern = .ok (after, rest)) :
    NoEndAnchor after.tokens ∨ (rest = [] ∧ EndAnchorLast after.tokens) := by
  unfold compileNextToken at compiled
  split at compiled
  · cases compiled
  split at compiled
  · split at compiled <;> cases compiled
    exact .inl before
  split at compiled
  · split at compiled
    · cases compiled
    · rename_i ended
      cases compiled
      exact .inr ⟨not_not.mp ended, EndAnchorLast.append before _⟩
  split at compiled
  · obtain ⟨group, parsed, same⟩ := map_ok compiled
    cases same
    obtain ⟨inner, tokens⟩ := compileOptionalLiteralGroupToken_inner parsed
    refine .inl ?_
    unfold TokenProgram.appendToken
    rw [tokens]
    refine before.append ?_
    intro found mem
    rw [List.mem_singleton.mp mem]
    exact inner
  · split at compiled
    · cases compiled
    · rename_i atom
      obtain ⟨inner, tokens⟩ := compileAtomToken_inner atom
      exact .inl (compileQuantifier_inner inner (tokens ▸ before) compiled)

theorem compileTokens_last {program after : TokenProgram} {pattern : List UInt8}
    (before : NoEndAnchor program.tokens) (compiled : compileTokens program pattern = .ok after) :
    EndAnchorLast after.tokens := by
  fun_induction compileTokens program pattern with
  | case1 =>
    cases compiled
    exact before.last
  | case2 => cases compiled
  | case3 program byte rest next later taken ih =>
    rcases compileNextToken_inner before taken with inner | ⟨ended, last⟩
    · exact ih inner compiled
    · subst ended
      unfold compileTokens at compiled
      cases compiled
      exact last

theorem compileAsciiSequence_last {pattern : List UInt8} {caseSensitive : Bool}
    {program : TokenProgram} (compiled : compileAsciiSequence pattern caseSensitive = .ok program) :
    EndAnchorLast program.tokens := by
  unfold compileAsciiSequence at compiled
  split at compiled
  · cases compiled
  · refine compileTokens_last ?_ compiled
    intro token none
    cases none

/-! Finding a match. -/

/-- A find's answer: a word at its span, and no word that starts earlier. -/
structure Leftmost (occurs : List UInt8 → List UInt8 → List UInt8 → Prop) (value : List UInt8)
    (offset : Nat) (found : Match) : Prop where
  spans : found.matched = true → offset ≤ found.start ∧ found.start ≤ found.end ∧
    found.end ≤ value.length ∧
    occurs (value.take found.start) (slice value found.start found.end) (value.drop found.end)
  first : ∀ before word after, value = before ++ word ++ after → offset ≤ before.length →
    occurs before word after → found.matched = true ∧ found.start ≤ before.length

section Find
variable {program : TokenProgram} {value : List UInt8}

/-- The first row of the table says where a word starts. -/
theorem get_start (last : EndAnchorLast program.tokens) {start : Nat}
    (bounded : start ≤ value.length) :
    (SpanContext.of program value).get 0 start = true ↔
      ∃ word after, value.drop start = word ++ after ∧ word ∈ program.language ∧
        (endAnchored program.tokens = true → after = []) :=
  (fillMatchTable_right last value (Nat.zero_le _) bounded).trans mem_suffixLanguage

theorem spanFrom_matched (last : EndAnchorLast program.tokens) {start : Nat}
    (bounded : start ≤ value.length) (found : Match)
    (marked : (SpanContext.of program value).get 0 start = true) :
    ∃ stop, found.spanFrom (SpanContext.of program value) start = ⟨true, start, stop⟩ ∧
      start ≤ stop ∧ stop ≤ value.length ∧ slice value start stop ∈ program.language ∧
      (endAnchored program.tokens = true → value.drop stop = []) := by
  obtain ⟨stop, walked, spanned⟩ :=
    matchSpanFrom_some last ⟨0, start⟩ (Nat.zero_le _) bounded marked
  refine ⟨stop, ?_, spanned.forward, spanned.inside, spanned.denoted, ?_⟩
  · unfold Match.spanFrom
    rw [walked]
  · intro anchored
    rw [spanned.anchored anchored]
    exact List.drop_length

/-- No word starts where the table has no mark. -/
theorem occurs_marked (last : EndAnchorLast program.tokens) {before word after : List UInt8}
    (whole : value = before ++ word ++ after) (occurs : program.Occurs before word after) :
    (SpanContext.of program value).get 0 before.length = true := by
  have bounded : before.length ≤ value.length := by
    rw [whole, List.append_assoc, List.length_append]
    exact Nat.le_add_right _ _
  rw [get_start last bounded]
  refine ⟨word, after, ?_, occurs.1, occurs.2.2⟩
  rw [whole, List.append_assoc, List.drop_left]

theorem findUnanchoredSequence_leftmost (last : EndAnchorLast program.tokens)
    (free : program.anchoredStart = false) (start : Nat) (found : Match)
    (fresh : found.matched = false) :
    Leftmost program.Occurs value start
      (findUnanchoredSequence (SpanContext.of program value) start found) := by
  induction remaining : value.length + 1 - start generalizing start with
  | zero =>
    unfold findUnanchoredSequence
    have past : ¬start ≤ (SpanContext.of program value).value.length :=
      Nat.not_le_of_lt (Nat.le_of_sub_eq_zero remaining)
    rw [if_neg past]
    refine ⟨fun matched => absurd (fresh.symm.trans matched) Bool.false_ne_true, ?_⟩
    intro before word after whole from_start
    have bounded : before.length ≤ value.length := by
      rw [whole, List.append_assoc, List.length_append]
      exact Nat.le_add_right _ _
    omega
  | succ remaining ih =>
    unfold findUnanchoredSequence
    have inside : start ≤ value.length := by omega
    rw [if_pos (show start ≤ (SpanContext.of program value).value.length from inside)]
    cases marked : (SpanContext.of program value).get 0 start with
    | false =>
      obtain ⟨spans, first⟩ := ih (start + 1) (by omega)
      refine ⟨?_, ?_⟩
      · intro matched
        obtain ⟨after_start, span⟩ := spans matched
        exact ⟨Nat.le_of_succ_le after_start, span⟩
      · intro before word after whole from_start occurs
        refine first before word after whole ?_ occurs
        refine Nat.lt_of_le_of_ne from_start ?_
        intro same
        have here := occurs_marked last whole occurs
        rw [← same, marked] at here
        cases here
    | true =>
      obtain ⟨stop, walked, forward, bounded, denoted, anchored⟩ :=
        spanFrom_matched last inside found marked
      rw [if_neg (by simp)]
      dsimp only
      rw [walked, if_pos rfl]
      refine ⟨fun _ => ⟨Nat.le_refl _, forward, bounded, denoted, ?_, anchored⟩, ?_⟩
      · intro anchoredStart
        rw [free] at anchoredStart
        cases anchoredStart
      · intro before word after whole from_start occurs
        exact ⟨rfl, from_start⟩

theorem findAnchoredSequence_leftmost (last : EndAnchorLast program.tokens)
    (anchoredStart : program.anchoredStart = true) (offset : Nat) :
    Leftmost program.Occurs value offset
      (findAnchoredSequence (SpanContext.of program value) offset) := by
  unfold findAnchoredSequence
  split
  · rename_i none
    refine ⟨fun matched => absurd matched Bool.false_ne_true, ?_⟩
    intro before word after whole from_offset occurs
    have empty := occurs.2.1 anchoredStart
    have marked := occurs_marked last whole occurs
    rw [empty, List.length_nil] at from_offset marked
    rcases none with later | unmarked
    · exact absurd (Nat.le_zero.mp from_offset) later
    · rw [marked] at unmarked
      cases unmarked
  · rename_i some
    obtain ⟨start, marked⟩ := not_or.mp some
    cases not_not.mp start
    obtain ⟨stop, walked, forward, bounded, denoted, anchored⟩ :=
      spanFrom_matched last (Nat.zero_le _) {} (by simpa using marked)
    rw [walked]
    refine ⟨fun _ => ⟨Nat.le_refl _, forward, bounded, denoted, fun _ => rfl, anchored⟩, ?_⟩
    intro before word after whole from_offset occurs
    exact ⟨rfl, Nat.zero_le _⟩

theorem findSequence_leftmost (last : EndAnchorLast program.tokens) (offset : Nat) :
    Leftmost program.Occurs value offset (findSequence program value offset) := by
  unfold findSequence
  dsimp only
  split
  · rename_i anchored
    exact findAnchoredSequence_leftmost last anchored offset
  · rename_i free
    exact findUnanchoredSequence_leftmost last (Bool.eq_false_iff.mpr free) offset {} rfl

end Find

/-! Alternatives. -/

def OccursIn (sequences : List TokenProgram) (before word after : List UInt8) : Prop :=
  ∃ sequence ∈ sequences, sequence.Occurs before word after

theorem occursIn_append {sequences : List TokenProgram} {sequence : TokenProgram}
    {before word after : List UInt8} :
    OccursIn (sequences ++ [sequence]) before word after ↔
      OccursIn sequences before word after ∨ sequence.Occurs before word after := by
  simp [OccursIn, or_and_right, exists_or]

/-- The earlier one of two leftmost matches is leftmost. -/
theorem Leftmost.orEarlier {value : List UInt8} {offset : Nat} {found alternative : Match}
    {sequences : List TokenProgram} {sequence : TokenProgram}
    (old : Leftmost (OccursIn sequences) value offset found)
    (new : Leftmost sequence.Occurs value offset alternative) :
    Leftmost (OccursIn (sequences ++ [sequence])) value offset (found.orEarlier alternative) := by
  have kept (matched : found.matched = true) : offset ≤ found.start ∧ found.start ≤ found.end ∧
      found.end ≤ value.length ∧ OccursIn (sequences ++ [sequence]) (value.take found.start)
        (slice value found.start found.end) (value.drop found.end) := by
    obtain ⟨lower, forward, inside, occurs⟩ := old.spans matched
    exact ⟨lower, forward, inside, occursIn_append.mpr (.inl occurs)⟩
  unfold Match.orEarlier
  cases taken : alternative.matched with
  | false =>
    refine ⟨kept, ?_⟩
    intro before word after whole from_offset occurs
    rcases occursIn_append.mp occurs with earlier | here
    · exact old.first before word after whole from_offset earlier
    · have matched := (new.first before word after whole from_offset here).1
      rw [taken] at matched
      cases matched
  | true =>
    rw [if_neg (by simp)]
    split
    · rename_i earlierStart
      refine ⟨?_, ?_⟩
      · intro matched
        obtain ⟨lower, forward, inside, occurs⟩ := new.spans matched
        exact ⟨lower, forward, inside, occursIn_append.mpr (.inr occurs)⟩
      · intro before word after whole from_offset occurs
        refine ⟨taken, ?_⟩
        rcases occursIn_append.mp occurs with earlier | here
        · obtain ⟨matched, start⟩ := old.first before word after whole from_offset earlier
          simp only [matched, Bool.not_true, Bool.false_eq_true, false_or] at earlierStart
          exact Nat.le_trans (Nat.le_of_lt earlierStart) start
        · exact (new.first before word after whole from_offset here).2
    · rename_i later
      simp only [Bool.not_eq_true', not_or, Bool.not_eq_false, Nat.not_lt] at later
      refine ⟨kept, ?_⟩
      intro before word after whole from_offset occurs
      refine ⟨later.1, ?_⟩
      rcases occursIn_append.mp occurs with earlier | here
      · exact (old.first before word after whole from_offset earlier).2
      · exact Nat.le_trans later.2 (new.first before word after whole from_offset here).2

theorem findAlternatives_leftmost {alternatives : List TokenProgram}
    (last : ∀ sequence ∈ alternatives, EndAnchorLast sequence.tokens) (value : List UInt8)
    (offset : Nat) :
    Leftmost (OccursIn alternatives) value offset
      (findAlternatives alternatives value offset) := by
  unfold findAlternatives
  induction alternatives using List.reverseRecOn with
  | nil =>
    refine ⟨fun matched => absurd matched Bool.false_ne_true, ?_⟩
    rintro before word after - - ⟨sequence, none, -⟩
    cases none
  | append_singleton alternatives sequence ih =>
    obtain ⟨earlier, here⟩ := List.forall_mem_append.mp last
    rw [List.foldl_append]
    exact (ih earlier).orEarlier
      (findSequence_leftmost (here sequence (List.mem_singleton.mpr rfl)) offset)

/-! Compiled programs. -/

theorem mapM_ok_forall {Source Result Status : Type} {convert : Source → Except Status Result}
    {sources : List Source} {results : List Result} {holds : Result → Prop}
    (each : ∀ source result, convert source = .ok result → holds result)
    (mapped : sources.mapM convert = .ok results) : ∀ result ∈ results, holds result := by
  induction sources generalizing results with
  | nil =>
    cases mapped
    intro result none
    cases none
  | cons source sources ih =>
    rw [List.mapM_cons] at mapped
    cases first : convert source with
    | error status =>
      rw [first] at mapped
      cases mapped
    | ok result =>
      rw [first] at mapped
      cases rest : sources.mapM convert with
      | error status =>
        rw [rest] at mapped
        cases mapped
      | ok later =>
        rw [rest] at mapped
        cases mapped
        exact List.forall_mem_cons.mpr ⟨each source result first, ih rest⟩

theorem compileAsciiAlternativeBranch_last {branch : List UInt8} {caseSensitive : Bool}
    {program : TokenProgram}
    (compiled : compileAsciiAlternativeBranch caseSensitive branch = .ok program) :
    EndAnchorLast program.tokens := by
  unfold compileAsciiAlternativeBranch at compiled
  split at compiled
  · cases compiled
  · exact compileAsciiSequence_last compiled

theorem compileAscii_last {pattern : List UInt8} {caseSensitive : Bool} {program : Program}
    (compiled : compileAscii pattern caseSensitive = .ok program) :
    ∀ sequence ∈ program.sequences, EndAnchorLast sequence.tokens := by
  unfold compileAscii at compiled
  split at compiled
  · cases compiled
  dsimp only at compiled
  split at compiled
  · obtain ⟨alternatives, mapped, same⟩ := map_ok compiled
    cases same
    have each : ∀ sequence ∈ alternatives, EndAnchorLast sequence.tokens :=
      mapM_ok_forall (fun branch sequence => compileAsciiAlternativeBranch_last) mapped
    unfold Program.sequences
    dsimp only
    split
    · intro sequence mem
      cases List.mem_singleton.mp mem
      trivial
    · exact each
  · obtain ⟨sequence, sequenced, same⟩ := map_ok compiled
    cases same
    intro found mem
    cases List.mem_singleton.mp mem
    exact compileAsciiSequence_last sequenced

/-- A find in a supported value. -/
theorem findAscii_leftmost {pattern : List UInt8} {caseSensitive : Bool} {program : Program}
    (compiled : compileAscii pattern caseSensitive = .ok program) {value : List UInt8}
    (short : value.length ≤ valueLengthMax) (supported : valueIsSupportedAscii value = true)
    (offset : Nat) :
    ∃ found, findAscii program value offset = .ok found ∧
      Leftmost program.Occurs value offset found := by
  have last := compileAscii_last compiled
  unfold findAscii
  rw [if_neg (Nat.not_lt_of_le short), if_neg (by simp [supported])]
  split
  · rename_i several
    have sequences : program.sequences = program.alternatives := if_neg several
    rw [sequences] at last
    refine ⟨_, rfl, ?_⟩
    have leftmost := findAlternatives_leftmost last value offset
    unfold Program.Occurs
    rw [sequences]
    exact leftmost
  · rename_i one
    have sequences : program.sequences = [program.sequence] := if_pos (not_not.mp one)
    rw [sequences] at last
    refine ⟨_, rfl, ?_⟩
    have leftmost : Leftmost program.sequence.Occurs value offset
        (findSequence program.sequence value offset) :=
      findSequence_leftmost (last _ (List.mem_singleton.mpr rfl)) offset
    have same : program.Occurs = program.sequence.Occurs := by
      funext before word after
      simp [Program.Occurs, sequences]
    rw [same]
    exact leftmost

/-- What a find of a compiled program in a value comes to. -/
structure FindReports (program : Program) (value : List UInt8) (offset : Nat) : Prop where
  tooLarge : value.length > valueLengthMax →
    findAscii program value offset = .error .valueTooLarge
  unsupported : value.length ≤ valueLengthMax → valueIsSupportedAscii value = false →
    findAscii program value offset = .error .unsupportedValue
  reports : value.length ≤ valueLengthMax → valueIsSupportedAscii value = true →
    ∃ found, findAscii program value offset = .ok found ∧
      (found.matched = true ↔ ∃ before word after, value = before ++ word ++ after ∧
        offset ≤ before.length ∧ program.Occurs before word after) ∧
      (found.matched = true →
        program.Occurs (value.take found.start) (slice value found.start found.end)
          (value.drop found.end) ∧
        ∀ before word after, value = before ++ word ++ after → offset ≤ before.length →
          program.Occurs before word after → found.start ≤ before.length)
  walks : ∀ sequence ∈ program.sequences, ∀ tokenIndex ≤ sequence.tokens.length,
    ∀ index ≤ value.length,
      matchTableGet (fillMatchTable sequence value) value.length tokenIndex index = true →
      ∃ stop, matchSpanFrom ⟨sequence, value, fillMatchTable sequence value⟩
        ⟨tokenIndex, index⟩ = some stop

theorem slice_decompose {value : List UInt8} {start stop : Nat} (forward : start ≤ stop) :
    value = value.take start ++ slice value start stop ++ value.drop stop := by
  unfold slice
  have rest : value.drop stop = (value.drop start).drop (stop - start) := by
    rw [List.drop_drop, Nat.add_sub_cancel' forward]
  rw [rest, List.append_assoc, List.take_append_drop, List.take_append_drop]

/-- A find in a supported value reports a leftmost word of the compiled program if there is one,
and the walk ends wherever the table has a mark. -/
theorem findAscii_reports (pattern : List UInt8) (caseSensitive : Bool) (program : Program)
    (compiled : compileAscii pattern caseSensitive = .ok program) (value : List UInt8)
    (offset : Nat) : FindReports program value offset := by
  refine ⟨fun long => if_pos long, ?_, ?_, ?_⟩
  · intro short foreign
    unfold findAscii
    rw [if_neg (Nat.not_lt_of_le short), if_pos (by simp [foreign])]
  · intro short supported
    obtain ⟨found, result, leftmost⟩ := findAscii_leftmost compiled short supported offset
    refine ⟨found, result, ⟨?_, ?_⟩, ?_⟩
    · intro matched
      obtain ⟨lower, forward, inside, occurs⟩ := leftmost.spans matched
      refine ⟨_, _, _, slice_decompose forward, ?_, occurs⟩
      rw [List.length_take]
      exact Nat.le_min.mpr ⟨lower, Nat.le_trans lower (Nat.le_trans (by omega) inside)⟩
    · rintro ⟨before, word, after, whole, from_offset, occurs⟩
      exact (leftmost.first before word after whole from_offset occurs).1
    · intro matched
      refine ⟨(leftmost.spans matched).2.2.2, ?_⟩
      intro before word after whole from_offset occurs
      exact (leftmost.first before word after whole from_offset occurs).2
  · intro sequence mem tokenIndex row index column marked
    obtain ⟨stop, walked, -⟩ := matchSpanFrom_some (compileAscii_last compiled sequence mem)
      ⟨tokenIndex, index⟩ row column marked
    exact ⟨stop, walked⟩

/-- `a+$|b`, of letters in any case. -/
def alternation : Program where
  sequence := { caseSensitive := false }
  alternatives := [
    { caseSensitive := false
      tokens := [{ quantifier := .oneOrMore, literal := ascii 'a' }, { kind := .endAnchor }] },
    { caseSensitive := false, tokens := [{ literal := ascii 'b' }] }]

theorem findAscii_reports_alternation :
    FindReports alternation [ascii 'x', ascii 'A', ascii 'b'] 0 :=
  findAscii_reports [ascii 'a', ascii '+', ascii '$', ascii '|', ascii 'b'] false alternation
    (by decide +kernel) _ 0

/-- `a`. -/
def letterA : Program :=
  ⟨[], { caseSensitive := true, tokens := [{ literal := ascii 'a' }] }⟩

/-- A byte outside of ASCII hides the match before it. -/
theorem foreign_byte_is_no_match :
    ∃ pattern program value, compileAscii pattern true = .ok program ∧
      (∃ before word after, value = before ++ word ++ after ∧
        program.Occurs before word after) ∧
      ∀ found, findAscii program value 0 ≠ .ok found := by
  refine ⟨[ascii 'a'], letterA, [ascii 'a', 0x80], by decide +kernel,
    ⟨[], [ascii 'a'], [0x80], rfl, letterA.sequence, List.mem_singleton.mpr rfl, ?_,
      by decide, by decide⟩, ?_⟩
  · unfold TokenProgram.language
    rw [show letterA.sequence.tokens = [{ literal := ascii 'a' }] from rfl, List.map_singleton,
      List.prod_singleton]
    exact ⟨ascii 'a', by decide, rfl⟩
  · intro found
    have refused : findAscii letterA [ascii 'a', 0x80] 0 = .error .unsupportedValue := by
      decide +kernel
    rw [refused]
    intro same
    cases same

end MyLite.Regexp
