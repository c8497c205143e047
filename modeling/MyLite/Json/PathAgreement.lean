import MyLite.Json.Path
import MyLite.Library.Scanning

/-! The paths of extraction are the paths of mutation without a leading zero in an index. -/
namespace MyLite.Json

/-! What is read off the front of a text does not depend on the text after it. -/

theorem parseHexDigits_append {count codepoint value : Nat} {input rest : Bytes}
    (parsed : parseHexDigits count codepoint input = .ok (value, rest)) :
    ∃ taken, input = taken ++ rest ∧ taken.length = count ∧
      ∀ after, parseHexDigits count codepoint (taken ++ after) = .ok (value, after) := by
  fun_induction parseHexDigits count codepoint input with
  | case1 codepoint input =>
    cases parsed
    exact ⟨[], rfl, rfl, fun after => rfl⟩
  | case2 => cases parsed
  | case3 codepoint count byte tail digit isDigit ih =>
    obtain ⟨taken, rfl, length, again⟩ := ih parsed
    refine ⟨byte :: taken, rfl, by rw [List.length_cons, length], ?_⟩
    intro after
    simp only [List.cons_append, parseHexDigits, isDigit]
    exact again after
  | case4 => cases parsed

theorem parseStringEscape_append {escape input rest : Bytes} {byte : UInt8}
    (parsed : parseStringEscape escape input = .ok (byte, rest)) :
    ∃ taken, input = taken ++ rest ∧
      ∀ escape after, parseStringEscape escape (taken ++ after) = .ok (byte, after) := by
  cases input with
  | nil => cases parsed
  | cons escaped tail =>
    simp only [parseStringEscape] at parsed
    -- All escapes but the numeric one are one byte.
    have simple {char : UInt8} (found : ∀ escape after,
        parseStringEscape escape (escaped :: after) = .ok (char, after))
        (same : (char, tail) = (byte, rest)) :
        ∃ taken, escaped :: tail = taken ++ rest ∧
          ∀ escape after, parseStringEscape escape (taken ++ after) = .ok (byte, after) := by
      cases same
      exact ⟨[escaped], rfl, found⟩
    split at parsed
    · rename_i plain
      exact simple (fun escape after => by simp only [parseStringEscape, if_pos plain])
        (Except.ok.inj parsed)
    · iterate 5
        split at parsed
        · rename_i same
          subst same
          exact simple (fun _ _ => rfl) (Except.ok.inj parsed)
      split at parsed
      · rename_i unicode
        subst unicode
        split at parsed
        · cases parsed
        · rename_i codepoint afterDigits digits
          obtain ⟨taken, rfl, -, again⟩ := parseHexDigits_append digits
          split at parsed
          · cases parsed
          · rename_i inside
            cases parsed
            refine ⟨0x75 :: taken, rfl, ?_⟩
            intro escape after
            simp [parseStringEscape, again, inside]
      · cases parsed

theorem parseStringBody_append {input text rest : Bytes}
    (parsed : parseStringBody input = .ok (text, rest)) :
    ∃ taken, input = taken ++ rest ∧
      ∀ after, parseStringBody (taken ++ after) = .ok (text, after) := by
  fun_induction parseStringBody input generalizing text rest with
  | case1 => cases parsed
  | case2 tail =>
    cases parsed
    exact ⟨[0x22], rfl, fun after => by simp [parseStringBody]⟩
  | case3 => cases parsed
  | case4 => cases parsed
  | case5 tail char after text' after' body _ escaped ih =>
    cases parsed
    obtain ⟨escapeTaken, rfl, escapeAgain⟩ := parseStringEscape_append escaped
    obtain ⟨taken, rfl, again⟩ := ih body
    refine ⟨0x5c :: (escapeTaken ++ taken), by simp, ?_⟩
    intro after
    rw [List.cons_append, parseStringBody_escape, List.append_assoc, escapeAgain]
    dsimp only
    rw [again]
    rfl
  | case6 => cases parsed
  | case7 => cases parsed
  | case8 => cases parsed
  | case9 byte tail unquoted unescaped _ printable text' after' body ih =>
    cases parsed
    obtain ⟨taken, rfl, again⟩ := ih body
    refine ⟨byte :: taken, rfl, ?_⟩
    intro after
    rw [List.cons_append, parseStringBody_plain _ unquoted unescaped (UInt8.not_lt.1 printable),
      again]
    rfl

theorem parseString_append {input text rest : Bytes}
    (parsed : parseString input = .ok (text, rest)) :
    ∃ taken, input = 0x22 :: taken ++ rest ∧
      ∀ after, parseString (0x22 :: taken ++ after) = .ok (text, after) := by
  simp only [parseString] at parsed
  split at parsed
  · rename_i body quote
    obtain ⟨taken, rfl, again⟩ := parseStringBody_append parsed
    refine ⟨taken, parserMatch_eq_some.1 quote, ?_⟩
    intro after
    rw [List.cons_append, parseString, parserMatch_cons]
    exact again after
  · cases parsed

/-- The text after a leg cannot be taken for more of it. -/
abbrev LegEnds (rest : Bytes) : Prop :=
  Scanning.EndsRun pathIdentifierByte rest

theorem parsePathMember_append {input name rest : Bytes}
    (parsed : parsePathMember input = .ok (name, rest)) :
    ∃ taken, input = taken ++ rest ∧
      ∀ after, LegEnds after → parsePathMember (taken ++ after) = .ok (name, after) := by
  cases input with
  | nil => cases parsed
  | cons byte tail =>
    simp only [parsePathMember] at parsed
    split at parsed
    · rename_i quote
      subst quote
      simp only [parsePathQuotedMember] at parsed
      split at parsed
      · cases parsed
      · rename_i string
        split at parsed
        · rename_i ascii
          cases parsed
          obtain ⟨taken, split, again⟩ := parseString_append string
          refine ⟨0x22 :: taken, split, ?_⟩
          intro after _
          have reread := again after
          simp only [List.cons_append] at reread ⊢
          simp only [parsePathMember, parsePathQuotedMember, if_true, reread, if_pos ascii]
        · cases parsed
    · rename_i unquoted
      split at parsed
      · rename_i starts
        cases parsed
        refine ⟨byte :: tail.takeWhile pathIdentifierByte,
          by rw [List.cons_append, List.takeWhile_append_dropWhile], ?_⟩
        intro after ends
        obtain ⟨taken, dropped⟩ := Scanning.run_append
          (fun _ mem => List.mem_takeWhile_imp (l := tail) mem) ends
        simp only [List.cons_append, parsePathMember, if_neg unquoted, if_pos starts, taken,
          dropped]
      · split at parsed <;> cases parsed

/-! Indexes. -/

theorem parseIndexDigits_ends (start : Bytes) (value : Nat) {after : Bytes}
    (ends : Scanning.EndsRun isDecimalDigit after) :
    parseIndexDigits start value after = .ok (value, after) := by
  cases after with
  | nil => rfl
  | cons byte tail =>
    have other : isDecimalDigit byte = false := ends byte rfl
    simp [parseIndexDigits, other]

theorem parseIndexDigits_append {start input rest : Bytes} {value index : Nat}
    (parsed : parseIndexDigits start value input = .ok (index, rest)) :
    Scanning.EndsRun isDecimalDigit rest ∧
    ∃ taken, input = taken ++ rest ∧
      ∀ start after, Scanning.EndsRun isDecimalDigit after →
        parseIndexDigits start value (taken ++ after) = .ok (index, after) := by
  fun_induction parseIndexDigits start value input with
  | case1 value =>
    cases parsed
    exact ⟨Scanning.endsRun_nil _, [], rfl, fun start after => parseIndexDigits_ends start _⟩
  | case2 => cases parsed
  | case3 value byte tail digit fits ih =>
    obtain ⟨noDigit, taken, rfl, again⟩ := ih parsed
    refine ⟨noDigit, byte :: taken, rfl, ?_⟩
    intro start after ends
    simp only [List.cons_append, parseIndexDigits, if_pos digit, if_neg fits]
    exact again start after ends
  | case4 value byte tail other =>
    cases parsed
    have noDigit : isDecimalDigit byte = false := by simpa using other
    exact ⟨Scanning.endsRun_cons _ noDigit, [], rfl,
      fun start after => parseIndexDigits_ends start _⟩

theorem parseJsonSetPathArrayIndex_append {input rest : Bytes} {index : Nat}
    (parsed : parseJsonSetPathArrayIndex input = .ok (index, rest)) :
    ∃ taken, input = taken ++ rest ∧ ∀ after, Scanning.EndsRun isDecimalDigit after →
      parseJsonSetPathArrayIndex (taken ++ after) = .ok (index, after) := by
  cases input with
  | nil => cases parsed
  | cons byte tail =>
    simp only [parseJsonSetPathArrayIndex] at parsed
    split at parsed
    · cases parsed
    · rename_i noKeyword
      split at parsed
      · cases parsed
      · rename_i digits
        split at parsed
        · rename_i isDigit
          cases parsed
          obtain ⟨ends, taken, split, again⟩ := parseIndexDigits_append digits
          refine ⟨taken, split, ?_⟩
          intro after afterEnds
          cases taken with
          | nil =>
            rw [List.nil_append] at split
            have other : isDecimalDigit byte = false := ends byte (by rw [← split]; rfl)
            rw [other] at isDigit
            cases isDigit
          | cons first more =>
            cases split
            simp only [List.cons_append, parseJsonSetPathArrayIndex, if_neg noKeyword]
            rw [← List.cons_append, again _ after afterEnds]
            simp only [if_pos isDigit]
        · cases parsed

/-- An index of extraction is the same index for mutation. -/
theorem parseJsonSetPathArrayIndex_of_extraction {input rest : Bytes} {index : Nat}
    (parsed : parsePathArrayIndex input = .ok (index, rest)) :
    parseJsonSetPathArrayIndex input = .ok (index, rest) := by
  cases input with
  | nil => cases parsed
  | cons byte tail =>
    simp only [parsePathArrayIndex] at parsed
    split at parsed
    · cases parsed
    · rename_i noKeyword
      split at parsed
      · cases parsed
      · rename_i digit
        have isDigit : isDecimalDigit byte = true := by simpa using digit
        split at parsed
        · rename_i zero
          split at parsed
          · cases parsed
          · rename_i alone
            cases parsed
            subst zero
            have ends : Scanning.EndsRun isDecimalDigit rest := by
              intro next mem
              rw [Option.mem_def] at mem
              simpa [mem] using alone
            have zeroDigit : parseIndexDigits (0x30 :: rest) 0 (0x30 :: rest) = .ok (0, rest) := by
              simp only [parseIndexDigits, if_pos isDigit]
              rw [if_neg (by decide)]
              exact parseIndexDigits_ends _ _ ends
            simp only [parseJsonSetPathArrayIndex, if_neg noKeyword, zeroDigit, if_pos isDigit]
        · simp only [parseJsonSetPathArrayIndex, if_neg noKeyword, parsed, if_pos isDigit]

/-- An index of mutation is an index of extraction, unless it has a leading zero. -/
theorem parsePathArrayIndex_of_mutation {input rest : Bytes} {index : Nat}
    (parsed : parseJsonSetPathArrayIndex input = .ok (index, rest)) :
    parsePathArrayIndex input = .ok (index, rest) ∨
      ∃ digit after, input = 0x30 :: digit :: after ∧ isDecimalDigit digit = true := by
  cases input with
  | nil => cases parsed
  | cons byte tail =>
    simp only [parseJsonSetPathArrayIndex] at parsed
    split at parsed
    · cases parsed
    · rename_i noKeyword
      split at parsed
      · cases parsed
      · rename_i digits
        split at parsed
        · rename_i isDigit
          cases parsed
          by_cases zero : byte = 0x30
          · subst zero
            cases tail with
            | nil =>
              cases digits
              exact .inl rfl
            | cons next after =>
              by_cases nextDigit : isDecimalDigit next = true
              · exact .inr ⟨next, after, rfl, nextDigit⟩
              · left
                have ends : Scanning.EndsRun isDecimalDigit (next :: after) :=
                  Scanning.endsRun_cons _ (by simpa using nextDigit)
                rw [parseIndexDigits, if_pos isDigit, if_neg (by decide),
                  parseIndexDigits_ends _ _ ends] at digits
                cases digits
                simp only [parsePathArrayIndex, if_neg noKeyword, isDigit]
                simp [nextDigit]
          · left
            simp only [parsePathArrayIndex, if_neg noKeyword, isDigit, if_neg zero]
            exact digits
        · cases parsed

/-! Legs. -/

theorem parsePathLeg_mutation_append {input rest : Bytes} {leg : PathLeg}
    (parsed : parsePathLeg .mutation input = .ok (leg, rest)) :
    ∃ taken, input = taken ++ rest ∧
      ∀ after, LegEnds after → parsePathLeg .mutation (taken ++ after) = .ok (leg, after) := by
  cases input with
  | nil => cases parsed
  | cons byte tail =>
    simp only [parsePathLeg] at parsed
    split at parsed
    · rename_i dot
      obtain ⟨⟨name, afterName⟩, member, same⟩ := map_ok parsed
      cases same
      obtain ⟨taken, rfl, again⟩ := parsePathMember_append member
      refine ⟨byte :: taken, rfl, ?_⟩
      intro after ends
      simp only [List.cons_append, parsePathLeg, if_pos dot, again after ends]
      rfl
    · rename_i noDot
      split at parsed
      · rename_i bracket
        obtain ⟨⟨index, afterIndex⟩, array, same⟩ := map_ok parsed
        cases same
        simp only [parsePathArray] at array
        split at array
        · cases array
        · rename_i digits
          split at array
          · rename_i closes
            cases array
            obtain ⟨taken, rfl, again⟩ := parseJsonSetPathArrayIndex_append digits
            rw [parserMatch_eq_some.1 closes]
            refine ⟨byte :: (taken ++ [0x5d]), by simp, ?_⟩
            intro after ends
            have reread := again (0x5d :: after) (Scanning.endsRun_cons _ (by decide))
            have closed : taken ++ [0x5d] ++ after = taken ++ 0x5d :: after := by simp
            simp only [List.cons_append, parsePathLeg, if_neg noDot, if_pos bracket,
              parsePathArray, PathParser.parseIndex, closed, reread, parserMatch_cons]
            rfl
          · cases array
      · split at parsed <;> cases parsed

theorem parsePathLeg_mutation_of_extraction {input rest : Bytes} {leg : PathLeg}
    (parsed : parsePathLeg .extraction input = .ok (leg, rest)) :
    parsePathLeg .mutation input = .ok (leg, rest) := by
  cases input with
  | nil => cases parsed
  | cons byte tail =>
    simp only [parsePathLeg] at parsed ⊢
    split at parsed
    · rename_i dot
      rw [if_pos dot]
      exact parsed
    · rename_i noDot
      rw [if_neg noDot]
      split at parsed
      · rename_i bracket
        rw [if_pos bracket]
        obtain ⟨⟨index, afterIndex⟩, array, same⟩ := map_ok parsed
        simp only [parsePathArray, PathParser.parseIndex] at array ⊢
        split at array
        · cases array
        · rename_i digits
          rw [parseJsonSetPathArrayIndex_of_extraction digits]
          dsimp only
          rw [array]
          exact congrArg Except.ok same
      · split at parsed <;> cases parsed

theorem parsePathLeg_extraction_of_mutation {input rest : Bytes} {leg : PathLeg}
    (parsed : parsePathLeg .mutation input = .ok (leg, rest)) :
    parsePathLeg .extraction input = .ok (leg, rest) ∨
      ∃ digit after, input = 0x5b :: 0x30 :: digit :: after ∧ isDecimalDigit digit = true := by
  cases input with
  | nil => cases parsed
  | cons byte tail =>
    simp only [parsePathLeg] at parsed ⊢
    split at parsed
    · rename_i dot
      rw [if_pos dot]
      exact .inl parsed
    · rename_i noDot
      rw [if_neg noDot]
      split at parsed
      · rename_i bracket
        rw [if_pos bracket]
        obtain ⟨⟨index, afterIndex⟩, array, same⟩ := map_ok parsed
        simp only [parsePathArray, PathParser.parseIndex] at array ⊢
        split at array
        · cases array
        · rename_i digits
          rcases parsePathArrayIndex_of_mutation digits with extracted | ⟨digit, after, rfl, isDigit⟩
          · left
            rw [extracted]
            dsimp only
            rw [array]
            exact congrArg Except.ok same
          · exact .inr ⟨digit, after, by rw [bracket], isDigit⟩
      · split at parsed <;> cases parsed

theorem parsePathLeg_extraction_leadingZero (digit : UInt8) (after : Bytes)
    (isDigit : isDecimalDigit digit = true) {leg : PathLeg} {rest : Bytes} :
    parsePathLeg .extraction (0x5b :: 0x30 :: digit :: after) ≠ .ok (leg, rest) := by
  have index : parsePathArrayIndex (0x30 :: digit :: after) =
      .error (parserInvalid (digit :: after)) := by
    have noKeyword : ¬isIndexKeyword 0x30 = true := by decide
    have zero : isDecimalDigit 0x30 = true := by decide
    simp only [parsePathArrayIndex, if_neg noKeyword]
    simp [isDigit, zero]
  intro parsed
  simp only [parsePathLeg, parsePathArray, PathParser.parseIndex, index] at parsed
  cases parsed

/-! Whole paths. -/

/-- The legs a text spells for one of the parsers. -/
inductive ReadsPath (parser : PathParser) : Bytes → List PathLeg → Prop where
  | nil : ReadsPath parser [] []
  | cons {input rest : Bytes} {leg : PathLeg} {legs : List PathLeg}
      (first : parsePathLeg parser input = .ok (leg, rest)) (others : ReadsPath parser rest legs) :
      ReadsPath parser input (leg :: legs)

theorem walkPath_ok_iff {α : Type} {parser : PathParser} {act : α → PathLeg → α}
    {state final : α} {input : Bytes} :
    walkPath parser act state input = .ok final ↔
      ∃ legs, ReadsPath parser input legs ∧ legs.foldl act state = final := by
  constructor
  · intro walked
    fun_induction walkPath parser act state input with
    | case1 => exact ⟨[], .nil, Except.ok.inj walked⟩
    | case2 => cases walked
    | case3 state input _ leg rest parsed ih =>
      obtain ⟨legs, reads, folded⟩ := ih walked
      exact ⟨leg :: legs, .cons parsed reads, folded⟩
  · rintro ⟨legs, reads, rfl⟩
    induction reads generalizing state with
    | nil => rw [walkPath, if_pos rfl, List.foldl_nil]
    | @cons input rest leg legs first others ih =>
      have nonempty : input ≠ [] := by
        rintro rfl
        cases first
      rw [walkPath, if_neg nonempty]
      split
      · rename_i failed
        rw [failed] at first
        cases first
      · rename_i parsed
        rw [parsed] at first
        cases first
        exact ih

theorem ReadsPath.legEnds {parser : PathParser} {input : Bytes} {legs : List PathLeg}
    (reads : ReadsPath parser input legs) : LegEnds input := by
  cases reads with
  | nil => exact Scanning.endsRun_nil _
  | cons first others =>
    cases input with
    | nil => exact Scanning.endsRun_nil _
    | cons byte tail =>
      refine Scanning.endsRun_cons _ ?_
      simp only [parsePathLeg] at first
      split at first
      · rename_i dot
        subst dot
        decide
      · split at first
        · rename_i bracket
          subst bracket
          decide
        · split at first <;> cases first

theorem ReadsPath.exists_first {parser : PathParser} {input : Bytes} {legs : List PathLeg}
    (reads : ReadsPath parser input legs) (nonempty : input ≠ []) :
    ∃ leg rest others, parsePathLeg parser input = .ok (leg, rest) ∧
      ReadsPath parser rest others := by
  cases reads with
  | nil => exact absurd rfl nonempty
  | cons first others => exact ⟨_, _, _, first, others⟩

theorem ReadsPath.mutation_of_extraction {input : Bytes} {legs : List PathLeg}
    (reads : ReadsPath .extraction input legs) : ReadsPath .mutation input legs := by
  induction reads with
  | nil => exact .nil
  | cons first others ih => exact .cons (parsePathLeg_mutation_of_extraction first) ih

/-- An index with a leading zero after a path that is read so far. -/
def LeadingZeroAfter (input : Bytes) : Prop :=
  ∃ before digit after legs, input = before ++ 0x5b :: 0x30 :: digit :: after ∧
    isDecimalDigit digit = true ∧ ReadsPath .mutation before legs

theorem ReadsPath.extraction_noLeadingZero {input : Bytes} {legs : List PathLeg}
    (reads : ReadsPath .extraction input legs) : ¬LeadingZeroAfter input := by
  rintro ⟨before, digit, after, seen, rfl, isDigit, readsBefore⟩
  induction readsBefore generalizing legs with
  | nil =>
    cases reads with
    | cons first others => exact parsePathLeg_extraction_leadingZero digit after isDigit first
  | @cons before rest leg seen first others ih =>
    obtain ⟨taken, rfl, again⟩ := parsePathLeg_mutation_append first
    have ends : LegEnds (rest ++ 0x5b :: 0x30 :: digit :: after) := by
      cases others with
      | nil => exact Scanning.endsRun_cons _ (by decide)
      | cons next more =>
        cases rest with
        | nil => cases next
        | cons byte tail =>
          exact Scanning.endsRun_cons _ ((ReadsPath.cons next more).legEnds byte rfl)
    have whole := again _ ends
    rw [← List.append_assoc] at whole
    -- Extraction takes the same leg off the longer text.
    obtain ⟨_, _, _, firstAgain, othersAgain⟩ := reads.exists_first (by simp)
    rw [parsePathLeg_mutation_of_extraction firstAgain] at whole
    cases whole
    exact ih othersAgain

theorem ReadsPath.extraction_of_mutation {input : Bytes} {legs : List PathLeg}
    (reads : ReadsPath .mutation input legs) (noZero : ¬LeadingZeroAfter input) :
    ReadsPath .extraction input legs := by
  induction reads with
  | nil => exact .nil
  | @cons input rest leg legs first others ih =>
    rcases parsePathLeg_extraction_of_mutation first with extracted | ⟨digit, after, rfl, isDigit⟩
    · refine .cons extracted (ih ?_)
      rintro ⟨before, digit, after, seen, rfl, isDigit, readsBefore⟩
      obtain ⟨taken, rfl, again⟩ := parsePathLeg_mutation_append first
      refine noZero ⟨taken ++ before, digit, after, leg :: seen, by simp, isDigit, ?_⟩
      exact .cons (again before readsBefore.legEnds) readsBefore
    · exact absurd ⟨[], digit, after, [], rfl, isDigit, .nil⟩ noZero

/-- Some index in the path, after a path that mutation accepts, has a leading zero. -/
def HasLeadingZeroIndex (path : Bytes) : Prop :=
  ∃ before digit after legs, path = before ++ 0x5b :: 0x30 :: digit :: after ∧
    isDecimalDigit digit = true ∧ parseSetPath before = .ok legs

theorem walkWholePath_ok_iff {α : Type} {parser : PathParser} {act : α → PathLeg → α}
    {state final : α} {path : Bytes} :
    walkWholePath parser act state path = .ok final ↔
      ∃ input legs, path = 0x24 :: input ∧ ReadsPath parser input legs ∧
        legs.foldl act state = final := by
  rw [walkWholePath]
  cases root : parserMatch 0x24 path with
  | none =>
    constructor
    · exact nofun
    · rintro ⟨input, legs, rfl, -, -⟩
      rw [parserMatch_cons] at root
      cases root
  | some input =>
    rw [parserMatch_eq_some] at root
    subst root
    dsimp only
    rw [walkPath_ok_iff]
    constructor
    · rintro ⟨legs, reads, folded⟩
      exact ⟨input, legs, rfl, reads, folded⟩
    · rintro ⟨other, legs, same, reads, folded⟩
      cases same
      exact ⟨legs, reads, folded⟩

theorem foldl_appendLeg (before legs : List PathLeg) :
    legs.foldl appendLeg before = before ++ legs := by
  induction legs generalizing before with
  | nil => rw [List.foldl_nil, List.append_nil]
  | cons leg legs ih =>
    rw [List.foldl_cons, ih, appendLeg, List.append_assoc, List.singleton_append]

theorem parseSetPath_ok_iff {path : Bytes} {legs : List PathLeg} :
    parseSetPath path = .ok legs ↔
      ∃ input, path = 0x24 :: input ∧ ReadsPath .mutation input legs := by
  rw [parseSetPath, walkWholePath_ok_iff]
  simp only [foldl_appendLeg, List.nil_append]
  constructor
  · rintro ⟨input, others, root, reads, rfl⟩
    exact ⟨input, root, reads⟩
  · rintro ⟨input, root, reads⟩
    exact ⟨input, legs, root, reads, rfl⟩

theorem hasLeadingZeroIndex_iff {input : Bytes} :
    HasLeadingZeroIndex (0x24 :: input) ↔ LeadingZeroAfter input := by
  constructor
  · rintro ⟨before, digit, after, legs, same, isDigit, accepted⟩
    obtain ⟨tail, rfl, reads⟩ := parseSetPath_ok_iff.1 accepted
    cases same
    exact ⟨tail, digit, after, legs, rfl, isDigit, reads⟩
  · rintro ⟨before, digit, after, legs, rfl, isDigit, reads⟩
    exact ⟨0x24 :: before, digit, after, legs, rfl, isDigit,
      parseSetPath_ok_iff.2 ⟨before, rfl, reads⟩⟩

/-- Extraction reads a path as the legs mutation reads, when no index has a leading zero. -/
theorem extractPathValue_eq_legs {root result : Option Value} {path : Bytes} :
    extractPathValue root path = .ok result ↔
      ∃ legs, parseSetPath path = .ok legs ∧ ¬HasLeadingZeroIndex path ∧
        legs.foldl followLeg root = result := by
  rw [extractPathValue, walkWholePath_ok_iff]
  constructor
  · rintro ⟨input, legs, rfl, reads, folded⟩
    refine ⟨legs, parseSetPath_ok_iff.2 ⟨input, rfl, reads.mutation_of_extraction⟩, ?_, folded⟩
    rw [hasLeadingZeroIndex_iff]
    exact reads.extraction_noLeadingZero
  · rintro ⟨legs, accepted, noZero, folded⟩
    obtain ⟨input, rfl, reads⟩ := parseSetPath_ok_iff.1 accepted
    rw [hasLeadingZeroIndex_iff] at noZero
    exact ⟨input, legs, rfl, reads.extraction_of_mutation noZero, folded⟩

end MyLite.Json
