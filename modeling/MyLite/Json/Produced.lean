import MyLite.Json.Ordered
import MyLite.Json.PathAgreement

/-! Every value the operations produce has its objects in order, and its text is normal when no SQL
string brought a NUL byte in. -/
namespace MyLite.Json

/-! The spelling of an SQL integer. -/

theorem digitByte_compare : ∀ left < 10, ∀ right < 10,
    compare (digitByte left) (digitByte right) = compare left right := by
  decide

theorem digitByte_isDecimalDigit {digit : Nat} (small : digit < 10) :
    isDecimalDigit (digitByte digit) = true := by
  revert digit
  decide

theorem digitByte_nonzero {digit : Nat} (small : digit < 10) (nonzero : digit ≠ 0) :
    0x31 ≤ digitByte digit ∧ digitByte digit ≤ 0x39 ∧ digitByte digit ≠ 0x30 := by
  revert digit
  decide

/-- The digits of the bounds of `int64_t`. -/
def boundDigits (isNegative : Bool) : List Nat :=
  [9, 2, 2, 3, 3, 7, 2, 0, 3, 6, 8, 5, 4, 7, 7, 5, 8, 0, if isNegative then 8 else 7]

theorem integerNumberIsInSignedRange_digits {magnitude : Nat} {isNegative : Bool}
    (inRange : magnitude ≤ if isNegative then 2 ^ 63 else 2 ^ 63 - 1) :
    integerNumberIsInSignedRange ((Decimal.digits magnitude).map digitByte) isNegative = true := by
  have bytes : maximumDigits isNegative = (boundDigits isNegative).map digitByte := by
    cases isNegative <;> rfl
  have small : ∀ digit ∈ boundDigits isNegative, digit < 10 := by
    cases isNegative <;> decide
  have bound : Decimal.value (boundDigits isNegative) =
      if isNegative then 2 ^ 63 else 2 ^ 63 - 1 := by
    cases isNegative <;> rfl
  have length : (Decimal.digits magnitude).length ≤ jsonSignedInt64DigitCount := by
    refine Decimal.digits_length_le (by decide) (Nat.lt_of_le_of_lt inRange ?_)
    cases isNegative <;> decide
  have nonempty : (Decimal.digits magnitude).length ≠ 0 :=
    mt List.length_eq_zero_iff.1 (Decimal.digits_ne_nil magnitude)
  rw [integerNumberIsInSignedRange, List.length_map, if_neg nonempty]
  split
  · rfl
  · rename_i long
    rw [if_neg (Nat.not_lt.2 length), bytes, Lexicographic.sharedOrder_map]
    · refine Decimal.sharedOrder_isLE ?_ (fun _ => Decimal.digits_lt) small ?_
      · exact Nat.le_antisymm length (Nat.not_lt.1 long)
      · rw [Decimal.value_digits, bound]
        exact inRange
    · exact fun first mem second mem' => digitByte_compare _ (Decimal.digits_lt mem) _ (small _ mem')

theorem parseIntegerDigits_digits (start : Bytes) (isNegative : Bool) (magnitude : Nat) :
    parseIntegerDigits start isNegative ((Decimal.digits magnitude).map digitByte) =
      .ok (⟨isNegative, (Decimal.digits magnitude).map digitByte⟩, []) := by
  by_cases zero : magnitude = 0
  · subst zero
    rfl
  · obtain ⟨first, others, spelled, nonzero⟩ := Decimal.digits_head zero
    have small : ∀ digit ∈ first :: others, digit < 10 := fun digit mem =>
      Decimal.digits_lt (spelled ▸ mem)
    obtain ⟨low, high, notZero⟩ := digitByte_nonzero (small first (List.mem_cons_self ..)) nonzero
    have all : ∀ byte ∈ others.map digitByte, isDecimalDigit byte = true := by
      intro byte mem
      obtain ⟨digit, isOther, rfl⟩ := List.mem_map.1 mem
      exact digitByte_isDecimalDigit (small digit (List.mem_cons_of_mem _ isOther))
    obtain ⟨taken, dropped⟩ := Scanning.run_append all (Scanning.endsRun_nil _)
    rw [List.append_nil] at taken dropped
    rw [spelled, List.map_cons]
    simp only [parseIntegerDigits, if_neg notZero, if_pos (And.intro low high), taken, dropped]

/-- An SQL integer is spelled as the parser keeps it. -/
theorem copyIntegerText_numberText (parsesDouble : Bytes → Bool) (value : Int64) :
    NumberText parsesDouble .integer (copyIntegerText value) := by
  have lower := value.le_toInt
  have upper := value.toInt_lt
  have inRange : value.toInt.natAbs ≤
      if decide (value.toInt < 0) then 2 ^ 63 else 2 ^ 63 - 1 := by
    split
    · omega
    · rename_i nonnegative
      rw [decide_eq_true_eq] at nonnegative
      omega
  have start : parseNumberIntegerPart (copyIntegerText value) =
      .ok (⟨decide (value.toInt < 0), (Decimal.digits value.toInt.natAbs).map digitByte⟩, []) := by
    by_cases negative : value.toInt < 0
    · rw [copyIntegerText, if_pos negative, List.singleton_append, parseNumberIntegerPart,
        parserMatch_cons, decide_eq_true negative]
      exact parseIntegerDigits_digits _ true _
    · obtain ⟨first, others, spelled⟩ := List.exists_cons_of_ne_nil
        (Decimal.digits_ne_nil value.toInt.natAbs)
      have small : first < 10 := Decimal.digits_lt (spelled ▸ List.mem_cons_self ..)
      have noSign : parserMatch 0x2d ((Decimal.digits value.toInt.natAbs).map digitByte) = none := by
        have digit := digitByte_isDecimalDigit small
        have other : digitByte first ≠ 0x2d := by
          intro same
          rw [same] at digit
          exact absurd digit (by decide)
        rw [spelled, List.map_cons, parserMatch, if_neg other]
      rw [copyIntegerText, if_neg negative, List.nil_append, parseNumberIntegerPart, noSign,
        decide_eq_false negative]
      exact parseIntegerDigits_digits _ false _
  have notNegativeZero : ¬(decide (value.toInt < 0) = true ∧
      (Decimal.digits value.toInt.natAbs).map digitByte = [0x30]) := by
    rintro ⟨negative, zero⟩
    rw [decide_eq_true_eq] at negative
    obtain ⟨first, others, spelled, nonzero⟩ := Decimal.digits_head (by omega : value.toInt.natAbs ≠ 0)
    rw [spelled, List.map_cons] at zero
    have small : first < 10 := Decimal.digits_lt (spelled ▸ List.mem_cons_self ..)
    exact (digitByte_nonzero small nonzero).2.2 (List.cons.inj zero).1
  have spelling : NumberText parsesDouble .integer _ := numberText_of_parts start rfl rfl
    ⟨⟨rfl, rfl⟩, integerNumberIsInSignedRange_digits inRange, notNegativeZero⟩
  have text : copyIntegerText value = (IntegerPart.mk (decide (value.toInt < 0))
      ((Decimal.digits value.toInt.natAbs).map digitByte)).text ++ [] ++ [] := by
    simp [copyIntegerText, IntegerPart.text]
  rw [text]
  exact spelling

/-! Values whose text can be read. -/

def ReadableScalar (parsesDouble : Bytes → Bool) : Value → Prop
  | .number kind text => NumberText parsesDouble kind text
  | .string text => 0 ∉ text
  | _ => True

def NoNul (text : Bytes) : Prop :=
  0 ∉ text

/-- Ordered, with scalars and keys that read back. -/
abbrev Readable (parsesDouble : Bytes → Bool) : Value → Prop :=
  Ordered (ReadableScalar parsesDouble) NoNul

section Readable

variable {parsesDouble : Bytes → Bool}

theorem Printable.readable {room : Nat} {value : Value}
    (printable : Printable parsesDouble room value) : Readable parsesDouble value := by
  induction printable with
  | null => exact .scalar rfl trivial
  | bool => exact .scalar rfl trivial
  | number room spelling => exact .scalar rfl spelling
  | string room noNul => exact .scalar rfl noNul
  | emptyArray => exact .array nofun
  | emptyObject => exact .object List.Pairwise.nil nofun nofun
  | array nonempty items ih => exact .array ih
  | object nonempty sorted noNul items ih => exact .object sorted noNul ih

/-- A value that is written onto a stack leaves room for its containers, and its text is
appended. -/
theorem Readable.printable_of_emit {value : Value} (readable : Readable parsesDouble value)
    {stack : EmitStack} {writer text : Bytes} (shallow : stack.length ≤ jsonMaxNestingDepth)
    (written : ((emitValueStart value stack writer).bind fun (stack, writer) =>
      emitLoop stack writer) = some text) :
    Printable parsesDouble (jsonMaxNestingDepth - stack.length) value ∧
      emitLoop stack (writer ++ value.text) = some text := by
  induction readable generalizing stack writer text with
  | @scalar value leaf passes =>
    cases value with
    | null => exact ⟨.null _, written⟩
    | bool boolean => exact ⟨.bool _ boolean, written⟩
    | number kind spelling => exact ⟨.number _ passes, written⟩
    | string content => exact ⟨.string _ passes, written⟩
    | array values => cases leaf
    | object members => cases leaf
  | @array values items ih =>
    by_cases empty : values = []
    · subst empty
      refine ⟨.emptyArray _, ?_⟩
      simpa [emitValueStart, Value.text, elementsText] using written
    · have filled : values.isEmpty = false := by simpa using empty
      simp only [emitValueStart, filled, Bool.false_eq_true, if_false, emitStackPush] at written
      split at written
      · cases written
      · rename_i room
        simp only [Option.map_some, Option.bind_some] at written
        have elements (rest : List Value) (index : Nat) (writer : Bytes)
            (subset : ∀ value ∈ rest, value ∈ values)
            (loop : emitLoop (.array index rest :: stack) writer = some text) :
            (∀ value ∈ rest, Printable parsesDouble (jsonMaxNestingDepth - (stack.length + 1))
              value) ∧ emitLoop stack (writer ++ elementsText index rest) = some text := by
          induction rest generalizing index writer with
          | nil =>
            rw [emitLoop_cons] at loop
            refine ⟨?_, loop⟩
            intro other mem
            cases mem
          | cons value rest ihRest =>
            rw [emitLoop_cons] at loop
            dsimp only [emitNext] at loop
            obtain ⟨first, after⟩ := ih value (subset value (List.mem_cons_self ..))
              (by rw [List.length_cons]; omega) loop
            obtain ⟨others, done⟩ := ihRest _ _
              (fun other mem => subset other (List.mem_cons_of_mem _ mem)) after
            refine ⟨?_, ?_⟩
            · intro other mem
              rcases List.mem_cons.1 mem with rfl | mem
              · exact first
              · exact others other mem
            · rw [elementsText]
              simpa only [List.append_assoc] using done
        obtain ⟨printable, done⟩ := elements values 0 _ (fun _ mem => mem) written
        have depth : jsonMaxNestingDepth - stack.length =
            jsonMaxNestingDepth - (stack.length + 1) + 1 := by omega
        rw [depth]
        refine ⟨.array empty printable, ?_⟩
        rw [Value.text]
        simpa only [List.append_assoc, List.singleton_append] using done
  | @object members sorted keys items ih =>
    by_cases empty : members = []
    · subst empty
      refine ⟨.emptyObject _, ?_⟩
      simpa [emitValueStart, Value.text, membersText] using written
    · have filled : members.isEmpty = false := by simpa using empty
      simp only [emitValueStart, filled, Bool.false_eq_true, if_false, emitStackPush] at written
      split at written
      · cases written
      · rename_i room
        simp only [Option.map_some, Option.bind_some] at written
        have pairs (rest : List Member) (index : Nat) (writer : Bytes)
            (subset : ∀ member ∈ rest, member ∈ members)
            (loop : emitLoop (.object index rest :: stack) writer = some text) :
            (∀ member ∈ rest, Printable parsesDouble (jsonMaxNestingDepth - (stack.length + 1))
              member.2) ∧ emitLoop stack (writer ++ membersText index rest) = some text := by
          induction rest generalizing index writer with
          | nil =>
            rw [emitLoop_cons] at loop
            refine ⟨?_, loop⟩
            intro other mem
            cases mem
          | cons member rest ihRest =>
            obtain ⟨name, value⟩ := member
            rw [emitLoop_cons] at loop
            dsimp only [emitNext] at loop
            obtain ⟨first, after⟩ := ih (name, value) (subset _ (List.mem_cons_self ..))
              (by rw [List.length_cons]; omega) loop
            obtain ⟨others, done⟩ := ihRest _ _
              (fun other mem => subset other (List.mem_cons_of_mem _ mem)) after
            refine ⟨?_, ?_⟩
            · intro other mem
              rcases List.mem_cons.1 mem with rfl | mem
              · exact first
              · exact others other mem
            · rw [membersText]
              simpa only [List.append_assoc] using done
        obtain ⟨printable, done⟩ := pairs members 0 _ (fun _ mem => mem) written
        have depth : jsonMaxNestingDepth - stack.length =
            jsonMaxNestingDepth - (stack.length + 1) + 1 := by omega
        rw [depth]
        refine ⟨.object empty sorted keys printable, ?_⟩
        rw [Value.text]
        simpa only [List.append_assoc, List.singleton_append] using done

/-- A readable value that can be written at all is written as a normal text. -/
theorem Readable.jsonNormalize_emitted {value : Value} {text : Bytes}
    (readable : Readable parsesDouble value) (emitted : emitValue value = some text) :
    jsonNormalize parsesDouble text = .ok text := by
  have written : ((emitValueStart value [] []).bind fun (stack, writer) =>
      emitLoop stack writer) = some text := by
    rw [← emitted, emitValue]
    cases emitValueStart value [] [] <;> rfl
  obtain ⟨printable, -⟩ := readable.printable_of_emit (Nat.zero_le _) written
  have same := emitValue_text printable
  rw [same] at emitted
  cases emitted
  rw [jsonNormalize, printable.parseDocument_text]
  dsimp only
  rw [same]

end Readable

/-! Where values, keys and legs come from. -/

theorem pathIdentifierByte_ne_zero {byte : UInt8} (identifier : pathIdentifierByte byte = true) :
    byte ≠ 0 := by
  rintro rfl
  exact absurd identifier (by decide)

theorem parsePathMember_noNul {input name rest : Bytes}
    (parsed : parsePathMember input = .ok (name, rest)) : NoNul name := by
  cases input with
  | nil => cases parsed
  | cons byte tail =>
    simp only [parsePathMember, parsePathQuotedMember] at parsed
    split at parsed
    · split at parsed
      · cases parsed
      · split at parsed
        · rename_i ascii
          cases parsed
          intro nul
          have nonzero := List.all_eq_true.1 ascii 0 nul
          exact absurd nonzero (by decide)
        · cases parsed
    · split at parsed
      · rename_i starts
        cases parsed
        rw [NoNul, List.mem_cons, not_or]
        refine ⟨?_, ?_⟩
        · have identifier : pathIdentifierByte byte = true := by simp [pathIdentifierByte, starts]
          exact (pathIdentifierByte_ne_zero identifier).symm
        · exact fun nul => pathIdentifierByte_ne_zero (List.mem_takeWhile_imp nul) rfl
      · split at parsed <;> cases parsed

theorem parseSetPath_noNul {path : Bytes} {legs : List PathLeg}
    (accepted : parseSetPath path = .ok legs) : ∀ leg ∈ legs, leg.Passes NoNul := by
  obtain ⟨input, -, reads⟩ := parseSetPath_ok_iff.1 accepted
  clear accepted
  induction reads with
  | nil => exact nofun
  | @cons input rest leg legs first others ih =>
    intro other mem
    rcases List.mem_cons.1 mem with rfl | mem
    · cases input with
      | nil => cases first
      | cons byte tail =>
        simp only [parsePathLeg] at first
        split at first
        · obtain ⟨⟨name, after⟩, member, same⟩ := map_ok first
          cases same
          exact parsePathMember_noNul member
        · split at first
          · obtain ⟨⟨index, after⟩, array, same⟩ := map_ok first
            cases same
            trivial
          · split at first <;> cases first
    · exact ih other mem

theorem copyIntegerText_noNul (value : Int64) : NoNul (copyIntegerText value) := by
  intro nul
  rw [copyIntegerText, List.mem_append] at nul
  rcases nul with sign | digit
  · split at sign
    · exact absurd sign (by decide)
    · cases sign
  · obtain ⟨digit, mem, zero⟩ := List.mem_map.1 digit
    have isDigit := digitByte_isDecimalDigit (Decimal.digits_lt mem)
    rw [zero] at isDigit
    exact absurd isDigit (by decide)

/-- No NUL byte in a string. -/
def SqlValue.NulFree : SqlValue → Prop
  | .string text => 0 ∉ text
  | _ => True

instance (value : SqlValue) : Decidable value.NulFree :=
  match value with
  | .null => isTrue trivial
  | .integer _ => isTrue trivial
  | .boolean _ => isTrue trivial
  | .string text => inferInstanceAs (Decidable (0 ∉ text))
  | .json _ => isTrue trivial

section Produced

variable (parsesDouble : Bytes → Bool)

/-- The values of the parser, of any sequence of mutations, of merges and of the constructor, from
the SQL values that `admits` lets in. -/
inductive Produced (admits : SqlValue → Prop) : Value → Prop where
  | parsed {text : Bytes} {value : Value} (parse : parseDocument parsesDouble text = .ok value) :
      Produced admits value
  | mutated {mode : MutationMode} {document value : Value} {path : Bytes} {sqlValue : SqlValue}
      (before : Produced admits document) (admitted : admits sqlValue)
      (mutate : mutateOnce parsesDouble mode document path sqlValue = .ok value) :
      Produced admits value
  | merged {mode : MergeMode} {target source : Value} (left : Produced admits target)
      (right : Produced admits source) : Produced admits (mergeValues mode target source)
  | constructed {pairs : List (SqlValue × SqlValue)} {value : Value}
      (admitted : ∀ pair ∈ pairs, admits pair.1 ∧ admits pair.2)
      (construct : objectFromSqlValues parsesDouble pairs = .ok value) : Produced admits value

/-- What enters a document passes the tests on scalars and keys. -/
structure Sources (admits : SqlValue → Prop) (scalar : Value → Prop) (key : Bytes → Prop) :
    Prop where
  parsed : ∀ text value, parseDocument parsesDouble text = .ok value → Ordered scalar key value
  scalars : ∀ sqlValue value, admits sqlValue →
    jsonValueFromSqlValue parsesDouble sqlValue = .ok value → Ordered scalar key value
  null : scalar .null
  keys : ∀ sqlValue name, admits sqlValue → jsonObjectKeyFromSqlValue sqlValue = .ok name → key name
  legs : ∀ path legs, parseSetPath path = .ok legs → ∀ leg ∈ legs, leg.Passes key

variable {parsesDouble} {admits : SqlValue → Prop} {scalar : Value → Prop} {key : Bytes → Prop}

theorem mutateOnce_ordered (sources : Sources parsesDouble admits scalar key)
    {mode : MutationMode} {document value : Value} {path : Bytes} {sqlValue : SqlValue}
    (ordered : Ordered scalar key document) (admitted : admits sqlValue)
    (mutate : mutateOnce parsesDouble mode document path sqlValue = .ok value) :
    Ordered scalar key value := by
  simp only [mutateOnce] at mutate
  split at mutate
  · cases mutate
  · rename_i legs accepted
    split at mutate
    · cases mutate
    · split at mutate
      · cases mutate
      · split at mutate
        · cases mutate
        · rename_i new read
          have newOrdered : Ordered scalar key new := by
            split at read
            · cases read
              exact .scalar rfl sources.null
            · exact sources.scalars _ _ admitted read
          split at mutate
          · cases mutate
          · rename_i after applied
            cases mutate
            exact applyMutationPath_ordered (sources.legs _ _ accepted) ordered newOrdered applied

theorem objectMembersFromSqlValues_stored (sources : Sources parsesDouble admits scalar key)
    {pairs : List (SqlValue × SqlValue)} {before members : List Member}
    (admitted : ∀ pair ∈ pairs, admits pair.1 ∧ admits pair.2)
    (stored : Stored scalar key before)
    (construct : objectMembersFromSqlValues parsesDouble before pairs = .ok members) :
    Stored scalar key members := by
  induction pairs generalizing before with
  | nil =>
    cases construct
    exact stored
  | cons pair pairs ih =>
    obtain ⟨keyAdmitted, valueAdmitted⟩ := admitted pair (List.mem_cons_self ..)
    simp only [objectMembersFromSqlValues] at construct
    split at construct
    · cases construct
    · rename_i name named
      split at construct
      · cases construct
      · rename_i value read
        refine ih (fun other mem => admitted other (List.mem_cons_of_mem _ mem)) ?_ construct
        exact stored.append (sources.keys _ _ keyAdmitted named)
          (sources.scalars _ _ valueAdmitted read)

theorem Produced.ordered (sources : Sources parsesDouble admits scalar key) {value : Value}
    (produced : Produced parsesDouble admits value) : Ordered scalar key value := by
  induction produced with
  | parsed parse => exact sources.parsed _ _ parse
  | mutated before admitted mutate ih => exact mutateOnce_ordered sources ih admitted mutate
  | merged left right leftOrdered rightOrdered => exact mergeValues_ordered leftOrdered rightOrdered
  | constructed admitted construct =>
    simp only [objectFromSqlValues] at construct
    split at construct
    · cases construct
    · rename_i members stored
      cases construct
      exact (objectMembersFromSqlValues_stored sources admitted .nil stored).sort

theorem sources_any (parsesDouble : Bytes → Bool) :
    Sources parsesDouble (fun _ => True) (fun _ => True) (fun _ => True) where
  parsed text value parse :=
    (parseDocument_printable parse).readable.mono (fun _ _ => trivial) fun _ _ => trivial
  scalars sqlValue value _ read := by
    cases sqlValue with
    | json text =>
      simp only [jsonValueFromSqlValue] at read
      split at read
      · cases read
      · rename_i found parse
        cases read
        exact (parseDocument_printable parse).readable.mono (fun _ _ => trivial) fun _ _ => trivial
    | _ =>
      cases read
      exact .scalar rfl trivial
  null := trivial
  keys _ _ _ _ := trivial
  legs path legs _ leg _ := by
    cases leg <;> trivial

theorem sources_nulFree (parsesDouble : Bytes → Bool) :
    Sources parsesDouble SqlValue.NulFree (ReadableScalar parsesDouble) NoNul where
  parsed text value parse := (parseDocument_printable parse).readable
  scalars sqlValue value nulFree read := by
    cases sqlValue with
    | null =>
      cases read
      exact .scalar rfl trivial
    | integer number =>
      cases read
      exact .scalar rfl (copyIntegerText_numberText parsesDouble number)
    | boolean boolean =>
      cases read
      exact .scalar rfl trivial
    | string text =>
      cases read
      exact .scalar rfl nulFree
    | json text =>
      simp only [jsonValueFromSqlValue] at read
      split at read
      · cases read
      · rename_i found parse
        cases read
        exact (parseDocument_printable parse).readable
  null := trivial
  keys sqlValue name nulFree read := by
    cases sqlValue with
    | null => cases read
    | integer number =>
      cases read
      exact copyIntegerText_noNul number
    | boolean boolean =>
      cases read
      cases boolean <;> simp [NoNul]
    | string text =>
      cases read
      exact nulFree
    | json text => cases read
  legs path legs accepted := parseSetPath_noNul accepted

theorem Produced.normal {value : Value} {text : Bytes}
    (produced : Produced parsesDouble SqlValue.NulFree value)
    (emitted : emitValue value = some text) :
    jsonNormalize parsesDouble text = .ok text :=
  Readable.jsonNormalize_emitted (produced.ordered (sources_nulFree parsesDouble)) emitted

/-! The loops over the arguments of a call. -/

theorem mutateAll_produced {mode : MutationMode} {document value : Value}
    {pairs : List (Bytes × SqlValue)} (before : Produced parsesDouble admits document)
    (admitted : ∀ pair ∈ pairs, admits pair.2)
    (mutated : mutateAll parsesDouble mode document pairs = .ok value) :
    Produced parsesDouble admits value := by
  induction pairs generalizing document with
  | nil =>
    cases mutated
    exact before
  | cons pair pairs ih =>
    rw [mutateAll] at mutated
    split at mutated
    · cases mutated
    · rename_i after once
      have here := Produced.mutated before (admitted pair List.mem_cons_self) once
      exact ih here (fun other member => admitted other (List.mem_cons_of_mem _ member)) mutated

theorem mergeAll_produced {mode : MergeMode} {result value : Value} {documents : List Bytes}
    (before : Produced parsesDouble admits result)
    (merged : mergeAll parsesDouble mode result documents = .ok value) :
    Produced parsesDouble admits value := by
  induction documents generalizing result with
  | nil =>
    cases merged
    exact before
  | cons document documents ih =>
    rw [mergeAll] at merged
    split at merged
    · cases merged
    · rename_i next parse
      exact ih (.merged before (.parsed parse)) merged

theorem emitValue_of_constructed {value : Value} {written : Bytes}
    (constructed : emitConstructedJson value = .ok written) : emitValue value = some written := by
  unfold emitConstructedJson at constructed
  split at constructed
  · cases constructed
  · rename_i emitted
    cases constructed
    exact emitted

/-- What a mutation writes from SQL strings without NUL is normal. -/
theorem mutateJsonDocument_normal {mode : MutationMode} {text written : Bytes}
    {pairs : List (Bytes × SqlValue)} (nulFree : ∀ pair ∈ pairs, pair.2.NulFree)
    (mutated : mutateJsonDocument parsesDouble mode text pairs = .ok written) :
    jsonNormalize parsesDouble written = .ok written := by
  rw [mutateJsonDocument] at mutated
  split at mutated
  · cases mutated
  · rename_i document parse
    split at mutated
    · cases mutated
    · rename_i value all
      have produced := mutateAll_produced (Produced.parsed parse) nulFree all
      exact produced.normal (emitValue_of_constructed mutated)

/-- What a merge writes is normal. -/
theorem mergeJsonDocuments_normal {mode : MergeMode} {documents : List Bytes} {written : Bytes}
    (merged : mergeJsonDocuments parsesDouble mode documents = .ok written) :
    jsonNormalize parsesDouble written = .ok written := by
  unfold mergeJsonDocuments at merged
  split at merged
  · cases merged
  · split at merged
    · cases merged
    · rename_i first parse
      split at merged
      · cases merged
      · rename_i value all
        have produced : Produced parsesDouble SqlValue.NulFree value :=
          mergeAll_produced (.parsed parse) all
        exact produced.normal (emitValue_of_constructed merged)

/-- Every object inside a produced value has its keys in strictly increasing order; and what is
written of a value from SQL strings without NUL is a fixed point of normalization. -/
theorem produced_sortedKeys_normal (parsesDouble : Bytes → Bool) (value : Value) :
    (Produced parsesDouble (fun _ => True) value → ∀ members,
      Value.Within (.object members) value → SortedKeys members) ∧
    (Produced parsesDouble SqlValue.NulFree value → ∀ text, emitValue value = some text →
      jsonNormalize parsesDouble text = .ok text) :=
  ⟨fun produced _ within => (produced.ordered (sources_any parsesDouble)).sortedKeys_within within,
    fun produced _ emitted => produced.normal emitted⟩

/-- `JSON_OBJECT('b', TRUE, 'a', NULL)`. -/
theorem produced_sortedKeys_normal_pair :
    SortedKeys [([0x61], .null), ([0x62], .bool true)] ∧
    jsonNormalize (fun _ => true)
        (0x7b :: membersText 0 [([0x61], .null), ([0x62], .bool true)]) =
      .ok (0x7b :: membersText 0 [([0x61], .null), ([0x62], .bool true)]) := by
  have constructed : objectFromSqlValues (fun _ => true)
      [(.string [0x62], .boolean true), (.string [0x61], .null)] =
      .ok (.object [([0x61], .null), ([0x62], .bool true)]) := rfl
  have produced := produced_sortedKeys_normal (fun _ => true)
    (.object [([0x61], .null), ([0x62], .bool true)])
  refine ⟨produced.1 (.constructed (fun _ _ => ⟨trivial, trivial⟩) constructed) _ .refl, ?_⟩
  refine produced.2 (.constructed ?_ constructed) _ ?_
  · decide
  · rw [membersText, membersText, membersText]
    decide +kernel

/-- `JSON_OBJECT('k', '\0')` is written as a text that the parser does not support. -/
theorem nulString_not_normal :
    ¬∀ (pairs : List (SqlValue × SqlValue)) (value : Value) (text : Bytes),
      (∀ pair ∈ pairs, pair.1.NulFree) →
      objectFromSqlValues (fun _ => true) pairs = .ok value → emitValue value = some text →
      jsonNormalize (fun _ => true) text = .ok text := by
  intro normal
  have constructed : objectFromSqlValues (fun _ => true) [(.string [0x6b], .string [0])] =
      .ok (.object [([0x6b], .string [0])]) := rfl
  have emitted : emitValue (.object [([0x6b], .string [0])]) =
      some [0x7b, 0x22, 0x6b, 0x22, 0x3a, 0x20, 0x22, 0x5c, 0x75, 0x30, 0x30, 0x30, 0x30, 0x22,
        0x7d] := by
    decide +kernel
  have unsupported : jsonNormalize (fun _ => true)
      [0x7b, 0x22, 0x6b, 0x22, 0x3a, 0x20, 0x22, 0x5c, 0x75, 0x30, 0x30, 0x30, 0x30, 0x22, 0x7d] =
      .error (.parse ⟨.unsupported, 8, .invalidValue, false⟩) := by
    decide +kernel
  have claimed := normal _ _ _ (by decide) constructed emitted
  rw [unsupported] at claimed
  cases claimed

end Produced

end MyLite.Json
