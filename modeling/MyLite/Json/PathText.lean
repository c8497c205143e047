import MyLite.Json.PathAgreement
import MyLite.Json.RoundTrip
import MyLite.Json.Search

/-! The text that a search spells for a path. Its legs can be told apart, and the path parser reads
them back when the member names are ASCII. -/
namespace MyLite.Json

/-- What the search appends for a leg. -/
def PathLeg.text : PathLeg → Bytes
  | .member name => jsonSearchAppendMemberLeg [] name
  | .array index => jsonSearchAppendArrayLeg [] index

def legsText (legs : List PathLeg) : Bytes :=
  legs.flatMap PathLeg.text

/-- A leg of a document: a name holds no NUL byte and an index is a `size_t`. -/
def PathLeg.Spelled : PathLeg → Prop
  | .member name => 0 ∉ name
  | .array index => index ≤ sizeMax

/-- A name the path parser takes. -/
def PathLeg.Ascii : PathLeg → Prop
  | .member name => pathTextIsAscii name = true
  | .array _ => True

theorem jsonSearchAppendMemberLeg_eq (path name : Bytes) :
    jsonSearchAppendMemberLeg path name = path ++ (PathLeg.member name).text := by
  simp [jsonSearchAppendMemberLeg, PathLeg.text]

theorem jsonSearchAppendArrayLeg_eq (path : Bytes) (index : Nat) :
    jsonSearchAppendArrayLeg path index = path ++ (PathLeg.array index).text := by
  simp [jsonSearchAppendArrayLeg, PathLeg.text]

theorem legEnds_legsText (legs : List PathLeg) : LegEnds (legsText legs) := by
  cases legs with
  | nil => exact Scanning.endsRun_nil _
  | cons leg legs =>
    cases leg with
    | member name => exact Scanning.endsRun_cons _ (by decide)
    | array index => exact Scanning.endsRun_cons _ (by decide)

/-! Names. -/

/-- The text of a name. -/
def nameText (name : Bytes) : Bytes :=
  if jsonSearchMemberCanUseIdentifier name then name else emitString name

theorem member_text (name : Bytes) : (PathLeg.member name).text = 0x2e :: nameText name :=
  rfl

/-- A name that is spelled as it is. -/
theorem identifier_parts {name : Bytes}
    (identifier : jsonSearchMemberCanUseIdentifier name = true) :
    ∃ byte rest, name = byte :: rest ∧ pathIdentifierStartByte byte = true ∧
      ∀ other ∈ rest, pathIdentifierByte other = true := by
  cases name with
  | nil => cases identifier
  | cons byte rest =>
    rw [jsonSearchMemberCanUseIdentifier, Bool.and_eq_true, List.all_eq_true] at identifier
    exact ⟨byte, rest, rfl, identifier.1, identifier.2⟩

theorem pathIdentifierStartByte_ascii {byte : UInt8} (start : pathIdentifierStartByte byte = true) :
    byte ≠ 0 ∧ byte ≠ 0x22 ∧ byte.toNat ≤ jsonAsciiByteLimit := by
  refine ⟨?_, ?_, ?_⟩
  · rintro rfl
    exact absurd start (by decide)
  · rintro rfl
    exact absurd start (by decide)
  · simp only [pathIdentifierStartByte, Bool.or_eq_true, Bool.and_eq_true, decide_eq_true_eq,
      beq_iff_eq, UInt8.le_iff_toNat_le] at start
    rcases start with ((⟨_, high⟩ | ⟨_, high⟩) | rfl) | rfl
    · exact Nat.le_trans high (by decide)
    · exact Nat.le_trans high (by decide)
    · decide
    · decide

theorem pathIdentifierByte_ascii {byte : UInt8} (identifier : pathIdentifierByte byte = true) :
    byte ≠ 0 ∧ byte.toNat ≤ jsonAsciiByteLimit := by
  rw [pathIdentifierByte, Bool.or_eq_true] at identifier
  rcases identifier with start | digit
  · have ascii := pathIdentifierStartByte_ascii start
    exact ⟨ascii.1, ascii.2.2⟩
  · simp only [Bool.and_eq_true, decide_eq_true_eq, UInt8.le_iff_toNat_le] at digit
    refine ⟨?_, Nat.le_trans digit.2 (by decide)⟩
    rintro rfl
    exact absurd digit.1 (by decide)

theorem pathTextIsAscii_of_identifier {name : Bytes}
    (identifier : jsonSearchMemberCanUseIdentifier name = true) : pathTextIsAscii name = true := by
  obtain ⟨byte, rest, rfl, start, others⟩ := identifier_parts identifier
  have first := pathIdentifierStartByte_ascii start
  rw [pathTextIsAscii, List.all_cons, Bool.and_eq_true, List.all_eq_true]
  refine ⟨by simp [first.1, first.2.2], fun other mem => ?_⟩
  have ascii := pathIdentifierByte_ascii (others other mem)
  simp [ascii.1, ascii.2]

/-- The name in front of a text, ASCII or not. -/
def readNameText (input : Bytes) : Option (Bytes × Bytes) :=
  if input.head? = some 0x22 then (parseString input).toOption
  else some (input.takeWhile pathIdentifierByte, input.dropWhile pathIdentifierByte)

theorem head_emitString (name rest : Bytes) : (emitString name ++ rest).head? = some 0x22 := by
  simp [emitString]

theorem readNameText_nameText {name rest : Bytes} (noNul : 0 ∉ name) (ends : LegEnds rest) :
    readNameText (nameText name ++ rest) = some (name, rest) := by
  rw [nameText]
  split
  · rename_i identifier
    obtain ⟨byte, others, rfl, start, all⟩ := identifier_parts identifier
    have whole : ∀ other ∈ byte :: others, pathIdentifierByte other = true := by
      intro other mem
      rcases List.mem_cons.1 mem with rfl | mem
      · rw [pathIdentifierByte, start, Bool.true_or]
      · exact all other mem
    obtain ⟨taken, dropped⟩ := Scanning.run_append whole ends
    have noQuote := (pathIdentifierStartByte_ascii start).2.1
    rw [readNameText, if_neg (by simp [noQuote]), taken, dropped]
  · rw [readNameText, if_pos (head_emitString _ _), parseString_emitString noNul]
    rfl

/-- The path parser reads a name back, or refuses it if it is not ASCII. -/
theorem parsePathMember_nameText {name rest : Bytes} (noNul : 0 ∉ name) (ends : LegEnds rest) :
    parsePathMember (nameText name ++ rest) =
      if pathTextIsAscii name then .ok (name, rest)
      else .error (parserUnsupported (nameText name ++ rest)) := by
  rw [nameText]
  split
  · rename_i identifier
    rw [if_pos (pathTextIsAscii_of_identifier identifier)]
    obtain ⟨byte, others, rfl, start, all⟩ := identifier_parts identifier
    obtain ⟨taken, dropped⟩ := Scanning.run_append all ends
    have noQuote := (pathIdentifierStartByte_ascii start).2.1
    rw [List.cons_append, parsePathMember, if_neg noQuote, if_pos start, taken, dropped]
  · have read := parseString_emitString noNul rest
    obtain ⟨tail, quoted⟩ : ∃ tail, emitString name ++ rest = 0x22 :: tail :=
      ⟨name.flatMap emitByte ++ 0x22 :: rest, by simp [emitString]⟩
    rw [quoted] at read ⊢
    rw [parsePathMember, if_pos rfl, parsePathQuotedMember, read]

/-! Indexes. -/

theorem digitByte_toNat {digit : Nat} (small : digit < 10) :
    (digitByte digit).toNat - 0x30 = digit := by
  revert digit
  decide

theorem digitByte_digit {digit : Nat} (small : digit < 10) :
    isDecimalDigit (digitByte digit) = true ∧ isIndexKeyword (digitByte digit) = false := by
  revert digit
  decide

theorem digitByte_ne_zero {digit : Nat} (small : digit < 10) (nonzero : digit ≠ 0) :
    digitByte digit ≠ 0x30 := by
  revert digit
  decide

/-- The digits of a number that fits are read one after the other. -/
theorem parseIndexDigits_digits (start : Bytes) {numeral : List Nat} {after : Bytes} (value : Nat)
    (small : ∀ digit ∈ numeral, digit < 10) (ends : Scanning.EndsRun isDecimalDigit after)
    (fits : value * 10 ^ numeral.length + Decimal.value numeral ≤ sizeMax) :
    parseIndexDigits start value (numeral.map digitByte ++ after) =
      .ok (value * 10 ^ numeral.length + Decimal.value numeral, after) := by
  induction numeral generalizing value with
  | nil =>
    rw [List.map_nil, List.nil_append, parseIndexDigits_ends start value ends]
    simp [Decimal.value]
  | cons digit numeral ih =>
    have digitSmall := small digit (List.mem_cons_self ..)
    have sum : value * 10 ^ (digit :: numeral).length + Decimal.value (digit :: numeral) =
        (value * 10 + digit) * 10 ^ numeral.length + Decimal.value numeral := by
      rw [Decimal.value_cons, List.length_cons, Nat.pow_succ]
      ring
    rw [sum] at fits ⊢
    have one : 1 ≤ 10 ^ numeral.length := Nat.one_le_pow _ _ (by decide)
    have next : value * 10 + digit ≤ sizeMax :=
      calc value * 10 + digit ≤ (value * 10 + digit) * 10 ^ numeral.length :=
            Nat.le_mul_of_pos_right _ one
        _ ≤ _ := Nat.le_add_right ..
        _ ≤ sizeMax := fits
    have room : ¬value > (sizeMax - digit) / jsonDecimalBase := by
      rw [Nat.not_lt, jsonDecimalBase, Nat.le_div_iff_mul_le (by decide)]
      omega
    rw [List.map_cons, List.cons_append, parseIndexDigits, if_pos (digitByte_digit digitSmall).1,
      digitByte_toNat digitSmall, if_neg room]
    exact ih _ (fun other mem => small other (List.mem_cons_of_mem _ mem)) fits

theorem parsePathArrayIndex_sizeText {index : Nat} (fits : index ≤ sizeMax) (rest : Bytes) :
    parsePathArrayIndex (sizeText index ++ 0x5d :: rest) = .ok (index, 0x5d :: rest) := by
  by_cases zero : index = 0
  · subst zero
    rfl
  · obtain ⟨first, others, spelled, nonzero⟩ := Decimal.digits_head zero
    have small : ∀ digit ∈ Decimal.digits index, digit < 10 := fun digit => Decimal.digits_lt
    have firstSmall := small first (spelled ▸ List.mem_cons_self ..)
    have ends : Scanning.EndsRun isDecimalDigit (0x5d :: rest) :=
      Scanning.endsRun_cons _ (by decide)
    have read := parseIndexDigits_digits (sizeText index ++ 0x5d :: rest) 0 small ends
      (by simpa [Decimal.value_digits] using fits)
    rw [Decimal.value_digits, Nat.zero_mul, Nat.zero_add] at read
    have start : sizeText index ++ 0x5d :: rest =
        digitByte first :: (others.map digitByte ++ 0x5d :: rest) := by
      rw [sizeText, spelled]
      rfl
    rw [sizeText] at start read ⊢
    rw [start] at read ⊢
    rw [parsePathArrayIndex, if_neg (by simp [(digitByte_digit firstSmall).2]),
      if_neg (by simp [(digitByte_digit firstSmall).1]), if_neg (digitByte_ne_zero firstSmall nonzero)]
    exact read

theorem sizeText_injective : Function.Injective sizeText := by
  intro left right same
  have digits : Decimal.digits left = Decimal.digits right := by
    have values := congrArg (List.map fun byte : UInt8 => byte.toNat - 0x30) same
    have back (number : Nat) : (sizeText number).map (fun byte => byte.toNat - 0x30) =
        Decimal.digits number := by
      rw [sizeText, List.map_map]
      exact (List.map_congr_left fun digit mem =>
        digitByte_toNat (Decimal.digits_lt mem)).trans (List.map_id _)
    rwa [back, back] at values
  rw [← Decimal.value_digits left, digits, Decimal.value_digits]

theorem sizeText_digits (index : Nat) : ∀ byte ∈ sizeText index, isDecimalDigit byte = true := by
  intro byte mem
  obtain ⟨digit, isDigit, rfl⟩ := List.mem_map.1 mem
  exact (digitByte_digit (Decimal.digits_lt isDigit)).1

/-! Legs. -/

/-- The path parser reads a leg back, or refuses it if its name is not ASCII. -/
theorem parsePathLeg_text {leg : PathLeg} {rest : Bytes} (spelled : leg.Spelled)
    (ends : LegEnds rest) :
    (leg.Ascii → parsePathLeg .extraction (leg.text ++ rest) = .ok (leg, rest)) ∧
    (¬leg.Ascii → ∃ position,
      parsePathLeg .extraction (leg.text ++ rest) = .error (parserUnsupported position)) := by
  cases leg with
  | member name =>
    have read := parsePathMember_nameText spelled ends
    have leg : parsePathLeg .extraction ((PathLeg.member name).text ++ rest) =
        (parsePathMember (nameText name ++ rest)).map
          (fun found => (PathLeg.member found.1, found.2)) := by
      rw [member_text, List.cons_append, parsePathLeg, if_pos rfl]
    rw [leg, read]
    refine ⟨fun ascii : pathTextIsAscii name = true => ?_,
      fun notAscii : ¬pathTextIsAscii name = true => ?_⟩
    · rw [if_pos ascii]
      rfl
    · rw [if_neg notAscii]
      exact ⟨_, rfl⟩
  | array index =>
    refine ⟨fun _ => ?_, fun notAscii => absurd trivial notAscii⟩
    have text : (PathLeg.array index).text ++ rest = 0x5b :: (sizeText index ++ 0x5d :: rest) := by
      simp [PathLeg.text, jsonSearchAppendArrayLeg]
    rw [text, parsePathLeg, if_neg (by decide), if_pos rfl, parsePathArray, PathParser.parseIndex,
      parsePathArrayIndex_sizeText spelled]
    rfl

/-- Two legs with the same text in front of what can follow a leg are the same. -/
theorem leg_text_inj {left right : PathLeg} {rest other : Bytes} (leftSpelled : left.Spelled)
    (rightSpelled : right.Spelled) (leftEnds : LegEnds rest) (rightEnds : LegEnds other)
    (same : left.text ++ rest = right.text ++ other) : left = right ∧ rest = other := by
  cases left with
  | member name =>
    cases right with
    | member second =>
      have names : nameText name ++ rest = nameText second ++ other := (List.cons.inj same).2
      have read := readNameText_nameText leftSpelled leftEnds
      rw [names, readNameText_nameText rightSpelled rightEnds] at read
      cases read
      exact ⟨rfl, rfl⟩
    | array index => exact absurd (List.cons.inj same).1 (by decide)
  | array index =>
    cases right with
    | member name => exact absurd (List.cons.inj same).1 (by decide)
    | array second =>
      have text (number : Nat) (tail : Bytes) : (PathLeg.array number).text ++ tail =
          0x5b :: (sizeText number ++ 0x5d :: tail) := by
        simp [PathLeg.text, jsonSearchAppendArrayLeg]
      rw [text, text] at same
      have numbers := (List.cons.inj same).2
      have ends (tail : Bytes) : Scanning.EndsRun isDecimalDigit (0x5d :: tail) :=
        Scanning.endsRun_cons _ (by decide)
      have run (number : Nat) (tail : Bytes) :=
        Scanning.run_append (sizeText_digits number) (ends tail)
      have taken := congrArg (List.takeWhile isDecimalDigit) numbers
      have dropped := congrArg (List.dropWhile isDecimalDigit) numbers
      rw [(run _ _).1, (run _ _).1] at taken
      rw [(run _ _).2, (run _ _).2] at dropped
      exact ⟨congrArg PathLeg.array (sizeText_injective taken), (List.cons.inj dropped).2⟩

theorem legsText_inj {left right : List PathLeg} (leftSpelled : ∀ leg ∈ left, leg.Spelled)
    (rightSpelled : ∀ leg ∈ right, leg.Spelled) (same : legsText left = legsText right) :
    left = right := by
  have nonempty (leg : PathLeg) (legs : List PathLeg) : legsText (leg :: legs) ≠ [] := by
    cases leg <;> simp [legsText, PathLeg.text, jsonSearchAppendMemberLeg, jsonSearchAppendArrayLeg]
  induction left generalizing right with
  | nil =>
    cases right with
    | nil => rfl
    | cons leg legs => exact absurd same.symm (nonempty leg legs)
  | cons leg legs ih =>
    cases right with
    | nil => exact absurd same (nonempty leg legs)
    | cons other others =>
      have both := leg_text_inj (leftSpelled leg (List.mem_cons_self ..))
        (rightSpelled other (List.mem_cons_self ..)) (legEnds_legsText legs)
        (legEnds_legsText others) same
      rw [both.1, ih (fun found mem => leftSpelled found (List.mem_cons_of_mem _ mem))
        (fun found mem => rightSpelled found (List.mem_cons_of_mem _ mem)) both.2]

/-- Extraction reads the legs of a path back, or refuses the path if a name on it is not ASCII. -/
theorem extractPathValue_legsText {legs : List PathLeg} (spelled : ∀ leg ∈ legs, leg.Spelled)
    (root : Option Value) :
    ((∀ leg ∈ legs, leg.Ascii) →
      extractPathValue root (0x24 :: legsText legs) = .ok (legs.foldl followLeg root)) ∧
    ((¬∀ leg ∈ legs, leg.Ascii) → ∃ position,
      extractPathValue root (0x24 :: legsText legs) = .error (parserUnsupported position)) := by
  have whole : extractPathValue root (0x24 :: legsText legs) =
      walkPath .extraction followLeg root (legsText legs) := by
    rw [extractPathValue, walkWholePath, parserMatch_cons]
  rw [whole]
  clear whole
  induction legs generalizing root with
  | nil =>
    refine ⟨fun _ => ?_, fun notAscii => absurd (by simp) notAscii⟩
    have empty : legsText [] = [] := rfl
    rw [empty, walkPath, if_pos rfl]
    rfl
  | cons leg legs ih =>
    have read := parsePathLeg_text (spelled leg (List.mem_cons_self ..)) (legEnds_legsText legs)
    have later := ih (fun other mem => spelled other (List.mem_cons_of_mem _ mem))
      (followLeg root leg)
    have text : legsText (leg :: legs) = leg.text ++ legsText legs := rfl
    have nonempty : leg.text ++ legsText legs ≠ [] := by
      cases leg <;> simp [PathLeg.text, jsonSearchAppendMemberLeg, jsonSearchAppendArrayLeg]
    rw [text, List.forall_mem_cons, walkPath, if_neg nonempty]
    split
    · rename_i failure failed
      refine ⟨fun ascii => ?_, fun notAscii => ?_⟩
      · rw [read.1 ascii.1] at failed
        cases failed
      · by_cases ascii : leg.Ascii
        · rw [read.1 ascii] at failed
          cases failed
        · obtain ⟨position, refused⟩ := read.2 ascii
          rw [refused] at failed
          cases failed
          exact ⟨position, rfl⟩
    · rename_i found rest parsed
      by_cases ascii : leg.Ascii
      · rw [read.1 ascii] at parsed
        cases parsed
        exact ⟨fun all => later.1 all.2, fun notAll => later.2 fun all => notAll ⟨ascii, all⟩⟩
      · obtain ⟨position, refused⟩ := read.2 ascii
        rw [refused] at parsed
        cases parsed

end MyLite.Json
