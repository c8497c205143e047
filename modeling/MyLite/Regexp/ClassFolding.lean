import MyLite.Regexp.Match

/-! Bracket classes of a case insensitive program. The compiler folds the end points of a range,
not the bytes between them. -/
namespace MyLite.Regexp

def unfoldAscii (byte : UInt8) : UInt8 :=
  if ascii 'a' ≤ byte ∧ byte ≤ ascii 'z' then byte - 0x20 else byte

/-! A class as its text writes it. -/

/-- The range at the front of a class text, with its bytes as written. -/
def classItem (text : List UInt8) : Except CompileStatus (ClassRange × List UInt8) :=
  match parseClassByte text with
  | .error status => .error status
  | .ok (first, rest) =>
    if rangeContinues rest then
      match parseClassByte rest.tail with
      | .error status => .error status
      | .ok (last, rest) => .ok (⟨first, last⟩, rest)
    else .ok (⟨first, first⟩, rest)

theorem classItem_length {text rest : List UInt8} {item : ClassRange}
    (read : classItem text = .ok (item, rest)) : rest.length < text.length := by
  unfold classItem at read
  split at read
  · cases read
  · rename_i first middle parsed
    have shorter := parseClassByte_length parsed
    split at read
    · split at read
      · cases read
      · rename_i last later parsedLast
        have shorterLast := parseClassByte_length parsedLast
        rw [List.length_tail] at shorterLast
        cases read
        omega
    · cases read
      exact shorter

/-- The ranges of a class text up to its closing bracket. -/
def classItems (text : List UInt8) : Except CompileStatus (List ClassRange × List UInt8) :=
  match text with
  | [] => .error .unclosedBracket
  | byte :: rest =>
    if byte = ascii ']' then .ok ([], rest)
    else
      match _item : classItem (byte :: rest) with
      | .error status => .error status
      | .ok (item, later) => (classItems later).map fun read => (item :: read.1, read.2)
termination_by text.length
decreasing_by exact classItem_length _item

/-- The class text behind the bracket and its negation. -/
def classBody (text : List UInt8) : List UInt8 :=
  if text.head? = some (ascii '^') then text.tail else text

def ClassRange.normalized (program : TokenProgram) (item : ClassRange) : ClassRange :=
  ⟨program.normalizeAsciiByte item.first, program.normalizeAsciiByte item.last⟩

def ClassRange.ordered (range : ClassRange) : Prop :=
  range.first ≤ range.last

/-- The compiler reads the range, normalizes its end points and then checks their order. -/
theorem compileClassRange_eq (program : TokenProgram) (text : List UInt8) :
    compileClassRange program text =
      match classItem text with
      | .error status => .error status
      | .ok (item, rest) =>
        if (item.normalized program).first > (item.normalized program).last then
          .error .invalidRange
        else .ok (item.normalized program, rest) := by
  unfold compileClassRange classItem
  cases parseClassByte text with
  | error => rfl
  | ok parsed =>
    obtain ⟨first, rest⟩ := parsed
    dsimp only
    cases rangeContinues rest with
    | false =>
      simp only [Bool.false_eq_true, if_false]
      rw [if_neg (by unfold ClassRange.normalized; exact UInt8.lt_irrefl _)]
      rfl
    | true =>
      simp only [if_true]
      cases parseClassByte rest.tail <;> rfl

theorem compileClassRange_ok {program : TokenProgram} {text rest : List UInt8}
    {range : ClassRange} :
    compileClassRange program text = .ok (range, rest) ↔
      ∃ item, classItem text = .ok (item, rest) ∧ range = item.normalized program ∧
        range.ordered := by
  rw [compileClassRange_eq]
  cases classItem text with
  | error => simp
  | ok read =>
    obtain ⟨item, later⟩ := read
    dsimp only
    split
    · rename_i backward
      refine iff_of_false (by simp) ?_
      rintro ⟨_, same, rfl, ordered⟩
      cases same
      exact absurd ordered (UInt8.not_le.mpr backward)
    · rename_i forward
      constructor
      · intro same
        cases same
        exact ⟨item, rfl, rfl, UInt8.not_lt.mp forward⟩
      · rintro ⟨_, same, rfl, -⟩
        cases same
        rfl

theorem compileClassRanges_cons {program : TokenProgram} {byte : UInt8} {rest : List UInt8}
    (inside : byte ≠ ascii ']') :
    compileClassRanges program (byte :: rest) =
      match compileClassRange program (byte :: rest) with
      | .error status => .error status
      | .ok (range, later) =>
        (compileClassRanges program later).map fun compiled =>
          (range :: compiled.1, compiled.2) := by
  conv =>
    lhs
    unfold compileClassRanges
  rw [if_neg inside]
  split <;> rename_i compiled <;> rw [compiled]

/-- The ranges of a compiled class are those of its text, normalized and in order. -/
theorem compileClassRanges_ok {program : TokenProgram} {text rest : List UInt8}
    {ranges : List ClassRange} :
    compileClassRanges program text = .ok (ranges, rest) ↔
      ∃ items, classItems text = .ok (items, rest) ∧
        ranges = items.map (ClassRange.normalized program) ∧ ∀ range ∈ ranges, range.ordered := by
  fun_induction classItems text generalizing ranges with
  | case1 =>
    unfold compileClassRanges
    simp
  | case2 later =>
    unfold compileClassRanges
    rw [if_pos rfl]
    constructor
    · intro same
      cases same
      exact ⟨[], rfl, rfl, by simp⟩
    · rintro ⟨_, same, rfl, -⟩
      cases same
      rfl
  | case3 byte later inside status failed =>
    rw [compileClassRanges_cons inside, compileClassRange_eq, failed]
    simp
  | case4 byte text inside item later read ih =>
    rw [compileClassRanges_cons inside]
    constructor
    · intro compiled
      cases first : compileClassRange program (byte :: text) with
      | error =>
        rw [first] at compiled
        cases compiled
      | ok result =>
        obtain ⟨range, middle⟩ := result
        rw [first] at compiled
        obtain ⟨found, inner, same⟩ := map_ok compiled
        cases same
        obtain ⟨_, again, rfl, ordered⟩ := compileClassRange_ok.mp first
        rw [read] at again
        cases again
        obtain ⟨items, whole, ranges, each⟩ := ih.mp inner
        refine ⟨item :: items, by rw [whole]; rfl, by rw [ranges]; rfl, ?_⟩
        exact List.forall_mem_cons.mpr ⟨ordered, each⟩
    · rintro ⟨_, whole, rfl, ordered⟩
      obtain ⟨found, inner, same⟩ := map_ok whole
      cases same
      obtain ⟨here, each⟩ := List.forall_mem_cons.mp ordered
      rw [compileClassRange_ok.mpr ⟨item, read, rfl, here⟩]
      dsimp only
      rw [ih.mpr ⟨found.1, inner, rfl, each⟩]
      rfl

/-! The class of a program. -/

/-- A text is compiled when it has ranges and all are in order. -/
theorem compileClassToken_ok {program : TokenProgram} {text rest : List UInt8} {token : Token}
    {after : TokenProgram} :
    compileClassToken program text = .ok (token, after, rest) ↔
      ∃ items, classItems (classBody text) = .ok (items, rest) ∧ items ≠ [] ∧
        (∀ item ∈ items, (item.normalized program).ordered) ∧
        token = { kind := .class, classIsNegated := decide (text.head? = some (ascii '^')),
                  rangeStart := program.ranges.length, rangeCount := items.length } ∧
        after = { program with
          ranges := program.ranges ++ items.map (ClassRange.normalized program) } := by
  unfold compileClassToken
  dsimp only
  constructor
  · intro compiled
    split at compiled
    · cases compiled
    · rename_i ranges later parsed
      split at compiled
      · cases compiled
      · rename_i some
        obtain ⟨items, read, rfl, ordered⟩ := compileClassRanges_ok.mp parsed
        cases compiled
        refine ⟨items, by simpa [classBody] using read, ?_, ?_, ?_, rfl⟩
        · rintro rfl
          exact some rfl
        · intro item mem
          exact ordered _ (List.mem_map_of_mem mem)
        · rw [List.length_map]
  · rintro ⟨items, read, some, ordered, rfl, rfl⟩
    have parsed : compileClassRanges program (classBody text) =
        .ok (items.map (ClassRange.normalized program), rest) :=
      compileClassRanges_ok.mpr ⟨items, read, rfl, List.forall_mem_map.mpr ordered⟩
    simp only [classBody] at parsed
    simp [parsed, some]

/-! Folded and written ranges. -/

/-- Whether the folded range contains the byte without its case. -/
def ClassRange.foldedContains (range : ClassRange) (byte : UInt8) : Prop :=
  foldAscii range.first ≤ foldAscii byte ∧ foldAscii byte ≤ foldAscii range.last

/-- Whether the written range contains a lower-case or upper-case form of the byte. -/
def ClassRange.containsForm (range : ClassRange) (byte : UInt8) : Prop :=
  range.contains (foldAscii byte) = true ∨ range.contains (unfoldAscii byte) = true

/-- Folding moves the end of a range from below `A` to a capital over the bytes between the
alphabets. -/
def ClassRange.gains (range : ClassRange) (byte : UInt8) : Prop :=
  range.first < ascii 'A' ∧ (ascii 'A' ≤ range.last ∧ range.last ≤ ascii 'Z') ∧
    ascii 'Z' < byte ∧ byte < ascii 'a'

/-- A range over the end of the capitals keeps no capital behind its folded end, and one that
starts at a capital keeps nothing in front of its folded start. -/
def ClassRange.loses (range : ClassRange) (byte : UInt8) : Prop :=
  ascii 'Z' < range.last ∧
    ((range.first < ascii 'A' ∧ range.last < byte ∧ ascii 'a' ≤ byte ∧ byte ≤ ascii 'z') ∨
      (ascii 'A' ≤ range.first ∧ range.first ≤ ascii 'Z' ∧
        ((ascii 'Z' < byte ∧ byte ≤ range.last ∧ byte < foldAscii range.first) ∨
          (foldAscii range.first ≤ byte ∧ range.last < byte ∧ ascii 'a' ≤ byte ∧
            byte ≤ ascii 'z'))))

theorem foldAscii_cases (byte : UInt8) :
    (65 ≤ byte.toNat ∧ byte.toNat ≤ 90 ∧ (foldAscii byte).toNat = byte.toNat + 32) ∨
      ((byte.toNat < 65 ∨ 90 < byte.toNat) ∧ (foldAscii byte).toNat = byte.toNat) := by
  have first : (ascii 'A').toNat = 65 := rfl
  have last : (ascii 'Z').toNat = 90 := rfl
  unfold foldAscii
  split
  · rename_i upper
    rw [UInt8.le_iff_toNat_le, UInt8.le_iff_toNat_le] at upper
    rw [UInt8.toNat_add]
    have delta : (0x20 : UInt8).toNat = 32 := rfl
    omega
  · rename_i other
    rw [UInt8.le_iff_toNat_le, UInt8.le_iff_toNat_le] at other
    omega

theorem unfoldAscii_cases (byte : UInt8) :
    (97 ≤ byte.toNat ∧ byte.toNat ≤ 122 ∧ (unfoldAscii byte).toNat + 32 = byte.toNat) ∨
      ((byte.toNat < 97 ∨ 122 < byte.toNat) ∧ (unfoldAscii byte).toNat = byte.toNat) := by
  have first : (ascii 'a').toNat = 97 := rfl
  have last : (ascii 'z').toNat = 122 := rfl
  unfold unfoldAscii
  split
  · rename_i lower
    rw [UInt8.le_iff_toNat_le, UInt8.le_iff_toNat_le] at lower
    have delta : (0x20 : UInt8).toNat = 32 := rfl
    rw [UInt8.toNat_sub_of_le _ _ (by rw [UInt8.le_iff_toNat_le]; omega)]
    omega
  · rename_i other
    rw [UInt8.le_iff_toNat_le, UInt8.le_iff_toNat_le] at other
    omega

section Bytes
variable {range : ClassRange} {byte : UInt8}

theorem contains_iff :
    range.contains byte = true ↔
      range.first.toNat ≤ byte.toNat ∧ byte.toNat ≤ range.last.toNat := by
  simp [ClassRange.contains, UInt8.le_iff_toNat_le]

theorem foldedContains_iff :
    range.foldedContains byte ↔ (foldAscii range.first).toNat ≤ (foldAscii byte).toNat ∧
      (foldAscii byte).toNat ≤ (foldAscii range.last).toNat :=
  Iff.rfl

theorem gains_iff :
    range.gains byte ↔ range.first.toNat < 65 ∧ (65 ≤ range.last.toNat ∧ range.last.toNat ≤ 90) ∧
      90 < byte.toNat ∧ byte.toNat < 97 :=
  Iff.rfl

theorem loses_iff :
    range.loses byte ↔ 90 < range.last.toNat ∧
      ((range.first.toNat < 65 ∧ range.last.toNat < byte.toNat ∧ 97 ≤ byte.toNat ∧
          byte.toNat ≤ 122) ∨
        (65 ≤ range.first.toNat ∧ range.first.toNat ≤ 90 ∧
          ((90 < byte.toNat ∧ byte.toNat ≤ range.last.toNat ∧
              byte.toNat < (foldAscii range.first).toNat) ∨
            ((foldAscii range.first).toNat ≤ byte.toNat ∧ range.last.toNat < byte.toNat ∧
              97 ≤ byte.toNat ∧ byte.toNat ≤ 122)))) :=
  Iff.rfl

/-- What a folded range contains was written or is gained. -/
theorem foldedContains_written (ordered : range.ordered) (folded : range.foldedContains byte) :
    range.containsForm byte ∨ range.gains (foldAscii byte) := by
  unfold ClassRange.ordered at ordered
  rw [UInt8.le_iff_toNat_le] at ordered
  unfold ClassRange.containsForm
  rw [foldedContains_iff] at folded
  rw [contains_iff, contains_iff, gains_iff]
  have first := foldAscii_cases range.first
  have last := foldAscii_cases range.last
  have lower := foldAscii_cases byte
  have upper := unfoldAscii_cases byte
  omega

/-- What was written is in the folded range or is lost. -/
theorem containsForm_folded (ordered : range.ordered) (written : range.containsForm byte) :
    range.foldedContains byte ∨ range.loses (foldAscii byte) := by
  unfold ClassRange.ordered at ordered
  rw [UInt8.le_iff_toNat_le] at ordered
  unfold ClassRange.containsForm at written
  rw [contains_iff, contains_iff] at written
  rw [foldedContains_iff, loses_iff]
  have first := foldAscii_cases range.first
  have last := foldAscii_cases range.last
  have lower := foldAscii_cases byte
  have upper := unfoldAscii_cases byte
  omega

theorem gains_folded (gained : range.gains byte) :
    range.foldedContains byte ∧ byte ≤ asciiMax ∧ foldAscii byte = byte ∧
      unfoldAscii byte = byte := by
  rw [gains_iff] at gained
  rw [foldedContains_iff, UInt8.le_iff_toNat_le, ← UInt8.toNat_inj, ← UInt8.toNat_inj]
  have most : asciiMax.toNat = 127 := rfl
  have first := foldAscii_cases range.first
  have last := foldAscii_cases range.last
  have lower := foldAscii_cases byte
  have upper := unfoldAscii_cases byte
  omega

theorem loses_written (lost : range.loses byte) :
    range.containsForm byte ∧ byte ≤ asciiMax ∧ foldAscii byte = byte := by
  rw [loses_iff] at lost
  unfold ClassRange.containsForm
  rw [contains_iff, contains_iff, UInt8.le_iff_toNat_le, ← UInt8.toNat_inj]
  have most : asciiMax.toNat = 127 := rfl
  have first := foldAscii_cases range.first
  have lower := foldAscii_cases byte
  have upper := unfoldAscii_cases byte
  omega

end Bytes

/-! Classes in both modes. -/

def TokenProgram.insensitive (program : TokenProgram) : TokenProgram :=
  { program with caseSensitive := false }

def TokenProgram.sensitive (program : TokenProgram) : TokenProgram :=
  { program with caseSensitive := true }

/-- The class without its negation. -/
def Token.positive (token : Token) : Token :=
  { token with classIsNegated := false }

/-- Whether a class contains the lower-case or the upper-case form of a byte. -/
def ContainsForm (program : TokenProgram) (token : Token) (byte : UInt8) : Prop :=
  tokenMatchesByte program token (foldAscii byte) = true ∨
    tokenMatchesByte program token (unfoldAscii byte) = true

/-- The class of a text folds case: it compiles in both modes or in none, and without case it
contains a byte when the sensitive class contains a form of it. -/
structure ClassFolds (program : TokenProgram) (text : List UInt8) : Prop where
  compiles : (∃ compiled, compileClassToken program.insensitive text = .ok compiled) ↔
    ∃ compiled, compileClassToken program.sensitive text = .ok compiled
  contains : ∀ folded afterFolded restFolded written afterWritten restWritten,
    compileClassToken program.insensitive text = .ok (folded, afterFolded, restFolded) →
    compileClassToken program.sensitive text = .ok (written, afterWritten, restWritten) →
    ∀ byte ≤ asciiMax, (tokenMatchesByte afterFolded folded byte = true ↔
      if written.classIsNegated then ¬ContainsForm afterWritten written.positive byte
      else ContainsForm afterWritten written byte)

/-- The ranges of a class mean the same with folded end points: they are in order both ways or
neither way, every byte one of them gains is written elsewhere, and every byte one of them loses
is in another folded range. -/
structure FoldsAlike (items : List ClassRange) : Prop where
  orders : (∀ item ∈ items, item.first ≤ item.last) ↔
    ∀ item ∈ items, foldAscii item.first ≤ foldAscii item.last
  gained : (∀ item ∈ items, item.first ≤ item.last) → ∀ item ∈ items, ∀ byte, item.gains byte →
    ∃ other ∈ items, other.contains byte = true
  lost : (∀ item ∈ items, item.first ≤ item.last) → ∀ item ∈ items, ∀ byte, item.loses byte →
    ∃ other ∈ items, other.foldedContains byte

section Classes
variable {program after : TokenProgram} {text rest : List UInt8} {token : Token}
  {items : List ClassRange}

theorem compiled_items (read : classItems (classBody text) = .ok (items, rest)) :
    (∃ compiled, compileClassToken program text = .ok compiled) ↔
      items ≠ [] ∧ ∀ item ∈ items, (item.normalized program).ordered := by
  constructor
  · rintro ⟨⟨token, after, later⟩, compiled⟩
    obtain ⟨found, again, some, ordered, -⟩ := compileClassToken_ok.mp compiled
    rw [read] at again
    cases again
    exact ⟨some, ordered⟩
  · rintro ⟨some, ordered⟩
    exact ⟨_, compileClassToken_ok.mpr ⟨items, read, some, ordered, rfl, rfl⟩⟩

theorem compiled_rangesOf (program : TokenProgram) (items : List ClassRange) (negated : Bool) :
    TokenProgram.rangesOf { program with
        ranges := program.ranges ++ items.map (ClassRange.normalized program) }
      { kind := .class, classIsNegated := negated, rangeStart := program.ranges.length,
        rangeCount := items.length } = items.map (ClassRange.normalized program) := by
  unfold TokenProgram.rangesOf
  dsimp only
  rw [List.drop_left]
  exact List.take_of_length_le (Nat.le_of_eq (List.length_map _))

/-- A compiled class contains what one of its ranges contains, or what none does. -/
theorem compiled_matches (read : classItems (classBody text) = .ok (items, rest))
    {later : List UInt8} (compiled : compileClassToken program text = .ok (token, after, later))
    (byte : UInt8) :
    (tokenMatchesByte after token.positive byte = true ↔ ∃ item ∈ items,
      (item.normalized program).contains (program.normalizeAsciiByte byte) = true) ∧
    (tokenMatchesByte after token byte = true ↔
      if token.classIsNegated then ¬tokenMatchesByte after token.positive byte = true
      else tokenMatchesByte after token.positive byte = true) := by
  obtain ⟨_, again, -, -, rfl, rfl⟩ := compileClassToken_ok.mp compiled
  rw [read] at again
  cases again
  refine ⟨?_, ?_⟩
  · unfold tokenMatchesByte classContainsByte Token.positive
    dsimp only
    rw [compiled_rangesOf, if_neg Bool.false_ne_true, List.any_map, List.any_eq_true]
    rfl
  · unfold tokenMatchesByte classContainsByte Token.positive
    dsimp only
    rw [compiled_rangesOf, compiled_rangesOf, if_neg Bool.false_ne_true]
    cases decide (text.head? = some (ascii '^')) <;> simp

end Classes

theorem foldAscii_fold (byte : UInt8) : foldAscii (foldAscii byte) = foldAscii byte := by
  rw [← UInt8.toNat_inj]
  have once := foldAscii_cases byte
  have twice := foldAscii_cases (foldAscii byte)
  omega

/-- Ordered ranges contain the same bytes folded and written when the gained and the lost bytes
are found elsewhere. -/
theorem contents_iff {items : List ClassRange} (ordered : ∀ item ∈ items, item.first ≤ item.last) :
    (∀ byte ≤ asciiMax, (∃ item ∈ items, item.foldedContains byte) ↔
      ∃ item ∈ items, item.containsForm byte) ↔
      (∀ item ∈ items, ∀ byte, item.gains byte → ∃ other ∈ items, other.contains byte = true) ∧
        ∀ item ∈ items, ∀ byte, item.loses byte →
          ∃ other ∈ items, other.foldedContains byte := by
  constructor
  · intro same
    refine ⟨?_, ?_⟩
    · intro item mem byte gained
      obtain ⟨folded, bounded, lower, upper⟩ := gains_folded gained
      obtain ⟨other, found, written⟩ := (same byte bounded).mp ⟨item, mem, folded⟩
      unfold ClassRange.containsForm at written
      rw [lower, upper, or_self] at written
      exact ⟨other, found, written⟩
    · intro item mem byte lost
      obtain ⟨written, bounded, -⟩ := loses_written lost
      exact (same byte bounded).mpr ⟨item, mem, written⟩
  · rintro ⟨gained, lost⟩ byte -
    constructor
    · rintro ⟨item, mem, folded⟩
      rcases foldedContains_written (ordered item mem) folded with written | gains
      · exact ⟨item, mem, written⟩
      · obtain ⟨other, found, contains⟩ := gained item mem _ gains
        exact ⟨other, found, .inl contains⟩
    · rintro ⟨item, mem, written⟩
      rcases containsForm_folded (ordered item mem) written with folded | loses
      · exact ⟨item, mem, folded⟩
      · obtain ⟨other, found, folded⟩ := lost item mem _ loses
        unfold ClassRange.foldedContains at folded
        rw [foldAscii_fold] at folded
        exact ⟨other, found, folded⟩

/-- What two compiled classes of one text say about a byte. -/
theorem contains_iff_forms {program : TokenProgram} {text rest : List UInt8}
    {items : List ClassRange} (read : classItems (classBody text) = .ok (items, rest))
    {folded written : Token} {afterFolded afterWritten : TokenProgram}
    {restFolded restWritten : List UInt8}
    (insensitive : compileClassToken program.insensitive text =
      .ok (folded, afterFolded, restFolded))
    (sensitive : compileClassToken program.sensitive text =
      .ok (written, afterWritten, restWritten)) (byte : UInt8) :
    (tokenMatchesByte afterFolded folded byte = true ↔
        if written.classIsNegated then ¬ContainsForm afterWritten written.positive byte
        else ContainsForm afterWritten written byte) ↔
      ((∃ item ∈ items, item.foldedContains byte) ↔ ∃ item ∈ items, item.containsForm byte) := by
  obtain ⟨positiveFolded, matchesFolded⟩ := compiled_matches read insensitive byte
  have negation : folded.classIsNegated = written.classIsNegated := by
    obtain ⟨_, -, -, -, rfl, -⟩ := compileClassToken_ok.mp insensitive
    obtain ⟨_, -, -, -, rfl, -⟩ := compileClassToken_ok.mp sensitive
    rfl
  have contents : (∃ item ∈ items, (item.normalized program.insensitive).contains
      (program.insensitive.normalizeAsciiByte byte) = true) ↔
      ∃ item ∈ items, item.foldedContains byte := by
    refine exists_congr fun item => and_congr_right fun mem => ?_
    simp [ClassRange.contains, ClassRange.foldedContains, ClassRange.normalized,
      TokenProgram.normalizeAsciiByte, TokenProgram.insensitive]
  have forms : ContainsForm afterWritten written.positive byte ↔
      ∃ item ∈ items, item.containsForm byte := by
    unfold ContainsForm ClassRange.containsForm
    rw [(compiled_matches read sensitive _).1, (compiled_matches read sensitive _).1]
    simp only [and_or_left, exists_or]
    rfl
  have plain : written.classIsNegated = false → (ContainsForm afterWritten written byte ↔
      ContainsForm afterWritten written.positive byte) := by
    intro positive
    have same : written.positive = written := by
      unfold Token.positive
      rw [← positive]
    rw [same]
  rw [matchesFolded, negation, positiveFolded, contents]
  cases negated : written.classIsNegated with
  | false =>
    simp only [Bool.false_eq_true, if_false]
    rw [plain negated, forms]
  | true =>
    simp only [if_true]
    rw [forms]
    exact not_iff_not

/-- Compilation without case folds a class exactly when its ranges mean the same with folded end
points. -/
theorem classFolds_iff (program : TokenProgram) (text : List UInt8) :
    ClassFolds program text ↔
      ∀ items rest, classItems (classBody text) = .ok (items, rest) → FoldsAlike items := by
  constructor
  · rintro ⟨compiles, contains⟩ items rest read
    rw [compiled_items read, compiled_items read] at compiles
    by_cases some : items = []
    · subst some
      exact ⟨by simp, by simp, by simp⟩
    have orders : (∀ item ∈ items, item.first ≤ item.last) ↔
        ∀ item ∈ items, foldAscii item.first ≤ foldAscii item.last :=
      ⟨fun ordered => (compiles.mpr ⟨some, ordered⟩).2, fun ordered =>
        (compiles.mp ⟨some, ordered⟩).2⟩
    have contents : (∀ item ∈ items, item.first ≤ item.last) → ∀ byte ≤ asciiMax,
        ((∃ item ∈ items, item.foldedContains byte) ↔
          ∃ item ∈ items, item.containsForm byte) := by
      intro ordered byte bounded
      have compiledWritten : ∃ compiled, compileClassToken program.sensitive text = .ok compiled :=
        (compiled_items read).mpr ⟨some, ordered⟩
      have compiledFolded :
          ∃ compiled, compileClassToken program.insensitive text = .ok compiled :=
        (compiled_items read).mpr ⟨some, orders.mp ordered⟩
      obtain ⟨⟨written, afterWritten, restWritten⟩, sensitive⟩ := compiledWritten
      obtain ⟨⟨folded, afterFolded, restFolded⟩, insensitive⟩ := compiledFolded
      exact (contains_iff_forms read insensitive sensitive byte).mp
        (contains _ _ _ _ _ _ insensitive sensitive byte bounded)
    exact ⟨orders, fun ordered => ((contents_iff ordered).mp (contents ordered)).1,
      fun ordered => ((contents_iff ordered).mp (contents ordered)).2⟩
  · intro alike
    refine ⟨?_, ?_⟩
    · cases read : classItems (classBody text) with
      | error status =>
        have fails (mode : TokenProgram) :
            ¬∃ compiled, compileClassToken mode text = .ok compiled := by
          rintro ⟨⟨token, after, rest⟩, compiled⟩
          obtain ⟨items, again, -⟩ := compileClassToken_ok.mp compiled
          rw [read] at again
          cases again
        exact iff_of_false (fails _) (fails _)
      | ok parsed =>
        obtain ⟨items, rest⟩ := parsed
        rw [compiled_items read, compiled_items read]
        exact and_congr_right fun some => (alike items rest read).orders.symm
    · intro folded afterFolded restFolded written afterWritten restWritten insensitive sensitive
        byte bounded
      obtain ⟨items, read, -, ordered, -⟩ := compileClassToken_ok.mp sensitive
      have same := alike items restWritten read
      exact (contains_iff_forms read insensitive sensitive byte).mpr
        ((contents_iff ordered).mpr ⟨same.gained ordered, same.lost ordered⟩ byte bounded)

/-- `[A-z]` with the underscore behind the capitals. -/
theorem underscore_is_lost :
    ¬ClassFolds { caseSensitive := true } [ascii 'A', ascii '-', ascii 'z', ascii ']'] := by
  rintro ⟨-, contains⟩
  have folded := (contains { kind := .class, rangeCount := 1 }
    { caseSensitive := false, ranges := [⟨ascii 'a', ascii 'z'⟩] } []
    { kind := .class, rangeCount := 1 }
    { caseSensitive := true, ranges := [⟨ascii 'A', ascii 'z'⟩] } [] (by decide +kernel)
    (by decide +kernel) (ascii '_') (by decide)).mpr (.inl (by decide))
  exact absurd folded (by decide)

end MyLite.Regexp
