import MyLite.Json.Emit
import MyLite.Json.Reader
import MyLite.Library.Scanning

/-! The values whose text reads back: numbers in a spelling the parser keeps, strings without NUL,
objects with their members in order, and no more nested containers than the stacks hold. Parsing
gives such values, and writing one gives the text the recursion gives. -/
namespace MyLite.Json

/-- The text after a number cannot be taken for more of it. -/
def NumberEnds (rest : Bytes) : Prop :=
  ∀ byte ∈ rest.head?, isDecimalDigit byte = false ∧ byte ≠ 0x2e ∧ isExponentMark byte = false

section Printable

variable (parsesDouble : Bytes → Bool)

/-- A spelling that reads as itself. -/
structure NumberText (kind : NumberKind) (text : Bytes) : Prop where
  starts : ∃ byte tail, text = byte :: tail ∧ (byte = 0x2d ∨ isDecimalDigit byte = true)
  reads : ∀ rest, NumberEnds rest →
    parseNumber parsesDouble (text ++ rest) = .ok (.number kind text, rest)

/-- A value that can be written and read back inside `room` further containers. -/
inductive Printable : Nat → Value → Prop where
  | null (room : Nat) : Printable room .null
  | bool (room : Nat) (boolean : Bool) : Printable room (.bool boolean)
  | number (room : Nat) {kind : NumberKind} {text : Bytes}
      (spelling : NumberText parsesDouble kind text) : Printable room (.number kind text)
  | string (room : Nat) {text : Bytes} (noNul : 0 ∉ text) : Printable room (.string text)
  | emptyArray (room : Nat) : Printable room (.array [])
  | emptyObject (room : Nat) : Printable room (.object [])
  | array {room : Nat} {values : List Value} (nonempty : values ≠ [])
      (items : ∀ value ∈ values, Printable room value) : Printable (room + 1) (.array values)
  | object {room : Nat} {members : List Member} (nonempty : members ≠ [])
      (sorted : SortedKeys members) (noNul : ∀ member ∈ members, 0 ∉ member.1)
      (items : ∀ member ∈ members, Printable room member.2) :
      Printable (room + 1) (.object members)

variable {parsesDouble}

theorem Printable.mono {room more : Nat} {value : Value}
    (printable : Printable parsesDouble room value) (le : room ≤ more) :
    Printable parsesDouble more value := by
  induction printable generalizing more with
  | null => exact .null _
  | bool room boolean => exact .bool _ boolean
  | number room spelling => exact .number _ spelling
  | string room noNul => exact .string _ noNul
  | emptyArray => exact .emptyArray _
  | emptyObject => exact .emptyObject _
  | array nonempty items ih =>
    obtain ⟨more, rfl⟩ := Nat.exists_eq_succ_of_ne_zero (by omega : more ≠ 0)
    exact .array nonempty fun value mem => ih value mem (Nat.le_of_succ_le_succ le)
  | object nonempty sorted noNul items ih =>
    obtain ⟨more, rfl⟩ := Nat.exists_eq_succ_of_ne_zero (by omega : more ≠ 0)
    exact .object nonempty sorted noNul fun member mem => ih member mem (Nat.le_of_succ_le_succ le)

/-! Writing. -/

theorem emitLoop_cons (frame : EmitFrame) (stack : EmitStack) (writer : Bytes) :
    emitLoop (frame :: stack) writer =
      match emitNext frame with
      | (piece, none) => emitLoop stack (writer ++ piece)
      | (piece, some (child, frame)) =>
        (emitValueStart child (frame :: stack) (writer ++ piece)).bind fun (stack, writer) =>
          emitLoop stack writer := by
  rw [emitLoop.eq_def]
  split
  · rename_i same
    cases same
  · rename_i same
    cases same
    split
    · rename_i next
      rw [next]
    · rename_i next
      rw [next]
      dsimp only
      split
      · rename_i start
        rw [start]
        rfl
      · rename_i start
        rw [start]
        rfl

/-- Writing a value onto any stack appends its text and goes on with the stack. -/
theorem emitValueStart_text {room : Nat} {value : Value}
    (printable : Printable parsesDouble room value) (stack : EmitStack) (writer : Bytes)
    (fits : stack.length + room ≤ jsonMaxNestingDepth) :
    ((emitValueStart value stack writer).bind fun (stack, writer) => emitLoop stack writer) =
      emitLoop stack (writer ++ value.text) := by
  induction printable generalizing stack writer with
  | null => rfl
  | bool room boolean => rfl
  | number room spelling => rfl
  | string room noNul => rfl
  | emptyArray => simp [emitValueStart, Value.text, elementsText]
  | emptyObject => simp [emitValueStart, Value.text, membersText]
  | @array room values nonempty items ih =>
    have elements (rest : List Value) (index : Nat) (writer : Bytes)
        (subset : ∀ value ∈ rest, value ∈ values) :
        emitLoop (.array index rest :: stack) writer =
          emitLoop stack (writer ++ elementsText index rest) := by
      induction rest generalizing index writer with
      | nil => rw [emitLoop_cons]; rfl
      | cons value rest ihRest =>
        rw [emitLoop_cons]
        dsimp only [emitNext]
        rw [ih value (subset value (List.mem_cons_self ..)) _ _
            (by rw [List.length_cons]; omega),
          ihRest _ _ fun other mem => subset other (List.mem_cons_of_mem _ mem), elementsText]
        simp only [List.append_assoc]
    have push : emitStackPush stack (.array 0 values) = some (.array 0 values :: stack) :=
      if_neg (by omega)
    have filled : values.isEmpty = false := by simpa using nonempty
    have started : emitValueStart (.array values) stack writer =
        some (.array 0 values :: stack, writer ++ [0x5b]) := by
      simp [emitValueStart, filled, push]
    rw [started, Option.bind_some]
    dsimp only
    rw [elements values 0 _ fun _ mem => mem, Value.text]
    simp only [List.append_assoc, List.singleton_append]
  | @object room members nonempty sorted noNul items ih =>
    have written (rest : List Member) (index : Nat) (writer : Bytes)
        (subset : ∀ member ∈ rest, member ∈ members) :
        emitLoop (.object index rest :: stack) writer =
          emitLoop stack (writer ++ membersText index rest) := by
      induction rest generalizing index writer with
      | nil => rw [emitLoop_cons]; rfl
      | cons member rest ihRest =>
        obtain ⟨key, value⟩ := member
        rw [emitLoop_cons]
        dsimp only [emitNext]
        rw [ih (key, value) (subset _ (List.mem_cons_self ..)) _ _
            (by rw [List.length_cons]; omega),
          ihRest _ _ fun other mem => subset other (List.mem_cons_of_mem _ mem), membersText]
        simp only [List.append_assoc]
    have push : emitStackPush stack (.object 0 members) = some (.object 0 members :: stack) :=
      if_neg (by omega)
    have filled : members.isEmpty = false := by simpa using nonempty
    have started : emitValueStart (.object members) stack writer =
        some (.object 0 members :: stack, writer ++ [0x7b]) := by
      simp [emitValueStart, filled, push]
    rw [started, Option.bind_some]
    dsimp only
    rw [written members 0 _ fun _ mem => mem, Value.text]
    simp only [List.append_assoc, List.singleton_append]

/-- Emitting a printable value succeeds with its text. -/
theorem emitValue_text {value : Value}
    (printable : Printable parsesDouble jsonMaxNestingDepth value) :
    emitValue value = some value.text := by
  have written := emitValueStart_text printable [] [] (by simp)
  rw [emitLoop, List.nil_append] at written
  rw [← written, emitValue]
  cases emitValueStart value [] [] <;> rfl

/-! What the scalar parsers give. -/

theorem parseStringEscape_ne_zero {escape input rest : Bytes} {byte : UInt8}
    (parsed : parseStringEscape escape input = .ok (byte, rest)) : byte ≠ 0 := by
  cases input with
  | nil => cases parsed
  | cons escaped tail =>
    simp only [parseStringEscape] at parsed
    split at parsed
    · rename_i simple
      cases parsed
      rintro rfl
      revert simple
      decide
    · repeat' split at parsed
      all_goals cases parsed
      all_goals try decide
      rename_i codepoint inside _
      simp only [not_or, Nat.not_lt, jsonAsciiByteLimit] at inside
      intro zero
      have same := congrArg UInt8.toNat zero
      simp at same
      omega

theorem parseStringBody_noNul {input text rest : Bytes}
    (parsed : parseStringBody input = .ok (text, rest)) : 0 ∉ text := by
  fun_induction parseStringBody input generalizing text rest with
  | case1 => cases parsed
  | case2 =>
    cases parsed
    exact List.not_mem_nil
  | case3 => cases parsed
  | case4 => cases parsed
  | case5 input char after _ _ body _ escaped ih =>
    cases parsed
    rw [List.mem_cons, not_or]
    exact ⟨(parseStringEscape_ne_zero escaped).symm, ih body⟩
  | case6 => cases parsed
  | case7 => cases parsed
  | case8 => cases parsed
  | case9 byte rest' _ _ nonzero _ text' after' body ih =>
    cases parsed
    rw [List.mem_cons, not_or]
    exact ⟨Ne.symm nonzero, ih body⟩

theorem parseString_noNul {input text rest : Bytes}
    (parsed : parseString input = .ok (text, rest)) : 0 ∉ text := by
  simp only [parseString] at parsed
  split at parsed
  · exact parseStringBody_noNul parsed
  · cases parsed

/-! A number read once reads again, before any text that ends it. -/

theorem parseDigits_head {input digits rest : Bytes}
    (parsed : parseDigits input = .ok (digits, rest)) :
    ∃ byte tail, digits = byte :: tail ∧ isDecimalDigit byte = true := by
  simp only [parseDigits] at parsed
  split at parsed
  · rename_i starts
    cases parsed
    cases input with
    | nil => exact absurd starts (by simp)
    | cons byte tail =>
      have digit : isDecimalDigit byte = true := starts
      exact ⟨byte, tail.takeWhile isDecimalDigit, by simp [digit], digit⟩
  · cases parsed

theorem parseDigits_reread {input digits rest after : Bytes}
    (parsed : parseDigits input = .ok (digits, rest))
    (ends : Scanning.EndsRun isDecimalDigit after) :
    parseDigits (digits ++ after) = .ok (digits, after) := by
  simp only [parseDigits] at parsed
  split at parsed
  · rename_i starts
    cases parsed
    have all : ∀ byte ∈ input.takeWhile isDecimalDigit, isDecimalDigit byte = true :=
      fun byte mem => List.mem_takeWhile_imp mem
    obtain ⟨taken, dropped⟩ := Scanning.run_append all ends
    have again : ((input.takeWhile isDecimalDigit ++ after).head?).any isDecimalDigit = true := by
      obtain ⟨byte, tail, digits, digit⟩ := parseDigits_head (if_pos starts)
      simp [digits, digit]
    rw [parseDigits, if_pos again, taken, dropped]
  · cases parsed

theorem parseIntegerDigits_reread {start start' input rest after : Bytes} {isNegative : Bool}
    {part : IntegerPart} (parsed : parseIntegerDigits start isNegative input = .ok (part, rest))
    (ends : Scanning.EndsRun isDecimalDigit after) :
    parseIntegerDigits start' isNegative (part.digits ++ after) = .ok (part, after) := by
  cases input with
  | nil => cases parsed
  | cons byte tail =>
    simp only [parseIntegerDigits] at parsed
    split at parsed
    · rename_i zero
      split at parsed
      · cases parsed
      · cases parsed
        have noMore : ¬(after.head?).any isDecimalDigit = true := by
          cases after with
          | nil => simp
          | cons next more =>
            have other : isDecimalDigit next = false := ends next rfl
            simp [other]
        simp only [parseIntegerDigits, List.singleton_append, if_pos zero, if_neg noMore]
    · rename_i nonzero
      split at parsed
      · rename_i digit
        cases parsed
        have all : ∀ byte ∈ tail.takeWhile isDecimalDigit, isDecimalDigit byte = true :=
          fun byte mem => List.mem_takeWhile_imp mem
        obtain ⟨taken, dropped⟩ := Scanning.run_append all ends
        simp only [parseIntegerDigits, List.cons_append, if_neg nonzero, if_pos digit, taken,
          dropped]
      · cases parsed

theorem parseIntegerDigits_head {start input rest : Bytes} {isNegative : Bool} {part : IntegerPart}
    (parsed : parseIntegerDigits start isNegative input = .ok (part, rest)) :
    ∃ byte tail, part.digits = byte :: tail ∧ isDecimalDigit byte = true := by
  cases input with
  | nil => cases parsed
  | cons byte tail =>
    simp only [parseIntegerDigits] at parsed
    split at parsed
    · rename_i zero
      split at parsed
      · cases parsed
      · cases parsed
        exact ⟨byte, [], rfl, by subst zero; decide⟩
    · split at parsed
      · rename_i digit
        cases parsed
        refine ⟨byte, _, rfl, ?_⟩
        simp only [isDecimalDigit, Bool.and_eq_true, decide_eq_true_eq]
        exact ⟨UInt8.le_trans (by decide) digit.1, digit.2⟩
      · cases parsed

theorem parseNumberIntegerPart_reread {start rest after : Bytes} {part : IntegerPart}
    (parsed : parseNumberIntegerPart start = .ok (part, rest))
    (ends : Scanning.EndsRun isDecimalDigit after) :
    parseNumberIntegerPart (part.text ++ after) = .ok (part, after) := by
  simp only [parseNumberIntegerPart] at parsed
  split at parsed
  · rename_i minus
    obtain ⟨sign, -, -⟩ := parseIntegerDigits_split parsed
    have text : part.text ++ after = 0x2d :: (part.digits ++ after) := by
      simp [IntegerPart.text, sign]
    rw [text]
    simp only [parseNumberIntegerPart, parserMatch_cons]
    exact parseIntegerDigits_reread parsed ends
  · obtain ⟨sign, -, -⟩ := parseIntegerDigits_split parsed
    obtain ⟨byte, tail, digits, isDigit⟩ := parseIntegerDigits_head parsed
    have text : part.text ++ after = part.digits ++ after := by
      simp [IntegerPart.text, sign]
    have noSign : parserMatch 0x2d (part.digits ++ after) = none := by
      have other : byte ≠ 0x2d := by
        rintro rfl
        exact absurd isDigit (by decide)
      simp [digits, parserMatch, other]
    rw [text]
    simp only [parseNumberIntegerPart, noSign]
    exact parseIntegerDigits_reread parsed ends

theorem parseNumberFractionPart_reread {input fraction rest after : Bytes}
    (parsed : parseNumberFractionPart input = .ok (fraction, rest))
    (ends : Scanning.EndsRun isDecimalDigit after) (noPoint : 0x2e ∉ after.head?) :
    parseNumberFractionPart (fraction ++ after) = .ok (fraction, after) := by
  simp only [parseNumberFractionPart] at parsed
  split at parsed
  · obtain ⟨⟨digits, afterDigits⟩, read, same⟩ := map_ok parsed
    cases same
    simp only [parseNumberFractionPart, List.cons_append, parserMatch_cons]
    rw [parseDigits_reread read ends]
    rfl
  · cases parsed
    have noMatch : parserMatch 0x2e after = none := by
      cases after with
      | nil => rfl
      | cons byte tail =>
        have other : byte ≠ 0x2e := fun same => noPoint (by simp [same])
        simp [parserMatch, other]
    simp only [parseNumberFractionPart, List.nil_append, noMatch]

theorem parseNumberExponentPart_reread {input exponent rest after : Bytes}
    (parsed : parseNumberExponentPart input = .ok (exponent, rest)) (ends : NumberEnds after) :
    parseNumberExponentPart (exponent ++ after) = .ok (exponent, after) := by
  have none : parseNumberExponentPart ([] ++ after) = .ok ([], after) := by
    cases after with
    | nil => rfl
    | cons byte tail =>
      have other : isExponentMark byte = false := (ends byte rfl).2.2
      simp [parseNumberExponentPart, other]
  cases input with
  | nil =>
    cases parsed
    exact none
  | cons mark tail =>
    simp only [parseNumberExponentPart] at parsed
    split at parsed
    · rename_i isMark
      obtain ⟨⟨digits, afterDigits⟩, read, same⟩ := map_ok parsed
      cases same
      have noDigit : Scanning.EndsRun isDecimalDigit after := fun byte mem => (ends byte mem).1
      have reread := parseDigits_reread read noDigit
      obtain ⟨byte, more, starts, isDigit⟩ := parseDigits_head read
      have unsigned : isSign byte = false := by
        simp only [isDecimalDigit] at isDigit
        simp only [isSign]
        grind
      have sign : (((tail.take 1).filter isSign ++ (digits ++ after)).take 1).filter isSign =
          (tail.take 1).filter isSign := by
        cases tail with
        | nil => simp [starts, unsigned]
        | cons first _ => cases isFirst : isSign first <;> simp [isFirst, starts, unsigned]
      simp only [parseNumberExponentPart, List.cons_append, List.append_assoc, if_pos isMark, sign,
        List.drop_left]
      rw [reread]
      rfl
    · cases parsed
      exact none

theorem parseNumberFractionPart_head {input fraction rest : Bytes}
    (parsed : parseNumberFractionPart input = .ok (fraction, rest)) :
    fraction = [] ∨ fraction.head? = some 0x2e := by
  simp only [parseNumberFractionPart] at parsed
  split at parsed
  · obtain ⟨_, _, same⟩ := map_ok parsed
    cases same
    exact .inr rfl
  · cases parsed
    exact .inl rfl

theorem parseNumberExponentPart_head {input exponent rest : Bytes}
    (parsed : parseNumberExponentPart input = .ok (exponent, rest)) :
    exponent = [] ∨ ∃ mark ∈ exponent.head?, isExponentMark mark = true := by
  cases input with
  | nil =>
    cases parsed
    exact .inl rfl
  | cons mark tail =>
    simp only [parseNumberExponentPart] at parsed
    split at parsed
    · rename_i isMark
      obtain ⟨_, _, same⟩ := map_ok parsed
      cases same
      exact .inr ⟨mark, rfl, isMark⟩
    · cases parsed
      exact .inl rfl

theorem exponentMark_ne {mark : UInt8} (isMark : isExponentMark mark = true) :
    isDecimalDigit mark = false ∧ mark ≠ 0x2e := by
  simp only [isExponentMark, Bool.or_eq_true, beq_iff_eq] at isMark
  rcases isMark with rfl | rfl <;> decide

/-- Whether a number with these parts is kept as it is spelled. -/
def KeepsSpelling (parsesDouble : Bytes → Bool) (part : IntegerPart) (fraction exponent : Bytes) :
    NumberKind → Prop
  | .double => (fraction ≠ [] ∨ exponent ≠ []) ∧
      parsesDouble (part.text ++ fraction ++ exponent) = true
  | .integer => (fraction = [] ∧ exponent = []) ∧
      integerNumberIsInSignedRange part.digits part.isNegative = true ∧
      ¬(part.isNegative = true ∧ part.digits = [0x30])

theorem numberText_of_parts {start afterInteger afterFraction rest fraction exponent : Bytes}
    {part : IntegerPart} {kind : NumberKind}
    (integerPart : parseNumberIntegerPart start = .ok (part, afterInteger))
    (fractionPart : parseNumberFractionPart afterInteger = .ok (fraction, afterFraction))
    (exponentPart : parseNumberExponentPart afterFraction = .ok (exponent, rest))
    (keeps : KeepsSpelling parsesDouble part fraction exponent kind) :
    NumberText parsesDouble kind (part.text ++ fraction ++ exponent) := by
  have starts : ∃ byte tail, part.text ++ fraction ++ exponent = byte :: tail ∧
      (byte = 0x2d ∨ isDecimalDigit byte = true) := by
    simp only [parseNumberIntegerPart] at integerPart
    split at integerPart
    · obtain ⟨sign, -, -⟩ := parseIntegerDigits_split integerPart
      exact ⟨0x2d, _, by simp only [IntegerPart.text, sign]; rfl, .inl rfl⟩
    · obtain ⟨sign, -, -⟩ := parseIntegerDigits_split integerPart
      obtain ⟨byte, tail, digits, isDigit⟩ := parseIntegerDigits_head integerPart
      exact ⟨byte, _, by simp only [IntegerPart.text, sign, digits]; rfl, .inr isDigit⟩
  refine ⟨starts, ?_⟩
  intro after ends
  have exponentEnds : ∀ byte ∈ (exponent ++ after).head?,
      isDecimalDigit byte = false ∧ byte ≠ 0x2e := by
    intro byte mem
    rcases parseNumberExponentPart_head exponentPart with rfl | ⟨mark, head, isMark⟩
    · exact ⟨(ends byte mem).1, (ends byte mem).2.1⟩
    · rw [List.head?_append, Option.mem_def.1 head] at mem
      cases mem
      exact exponentMark_ne isMark
  have fractionEnds : Scanning.EndsRun isDecimalDigit (fraction ++ (exponent ++ after)) := by
    intro byte mem
    rcases parseNumberFractionPart_head fractionPart with rfl | head
    · exact (exponentEnds byte mem).1
    · rw [List.head?_append, head] at mem
      cases mem
      decide
  have integerAgain := parseNumberIntegerPart_reread integerPart fractionEnds
  have fractionAgain := parseNumberFractionPart_reread fractionPart
    (fun byte mem => (exponentEnds byte mem).1)
    (fun mem => (exponentEnds _ mem).2 rfl)
  have exponentAgain := parseNumberExponentPart_reread exponentPart ends
  simp only [parseNumber, List.append_assoc, integerAgain, fractionAgain, exponentAgain]
  cases kind with
  | double =>
    obtain ⟨floating, accepted⟩ := keeps
    simp only [List.append_assoc] at accepted
    rw [if_pos floating, parseFloatingNumber, if_pos accepted]
    rfl
  | integer =>
    obtain ⟨⟨rfl, rfl⟩, inRange, notNegativeZero⟩ := keeps
    rw [if_neg (by simp), parseIntegerNumber]
    simp only [inRange, Bool.not_true, Bool.false_eq_true, if_false, if_neg notNegativeZero]
    simp [Except.map]

theorem numberText_zero : NumberText parsesDouble .integer [0x30] := by
  have integerPart : parseNumberIntegerPart [0x30] = .ok (⟨false, [0x30]⟩, []) := rfl
  exact numberText_of_parts integerPart rfl rfl ⟨⟨rfl, rfl⟩, by decide, by simp⟩

theorem parseNumber_numberText {start rest : Bytes} {value : Value}
    (parsed : parseNumber parsesDouble start = .ok (value, rest)) :
    ∃ kind text, value = .number kind text ∧ NumberText parsesDouble kind text := by
  simp only [parseNumber] at parsed
  split at parsed
  · cases parsed
  · rename_i part afterInteger integerPart
    split at parsed
    · cases parsed
    · rename_i fraction afterFraction fractionPart
      split at parsed
      · cases parsed
      · rename_i exponent afterExponent exponentPart
        split at parsed
        · rename_i isFloating
          obtain ⟨number, floating, same⟩ := map_ok parsed
          cases same
          simp only [parseFloatingNumber] at floating
          split at floating
          · rename_i accepted
            cases floating
            exact ⟨.double, _, rfl,
              numberText_of_parts integerPart fractionPart exponentPart ⟨isFloating, accepted⟩⟩
          · cases floating
        · rename_i notFloating
          obtain ⟨number, integer, same⟩ := map_ok parsed
          cases same
          simp only [not_or, not_not] at notFloating
          simp only [parseIntegerNumber] at integer
          split at integer
          · cases integer
          · rename_i inRange
            split at integer
            · cases integer
              exact ⟨.integer, _, rfl, numberText_zero⟩
            · rename_i notNegativeZero
              cases integer
              refine ⟨.integer, _, rfl, ?_⟩
              have text : NumberText parsesDouble .integer (part.text ++ fraction ++ exponent) :=
                numberText_of_parts integerPart fractionPart exponentPart
                  ⟨notFloating, by simpa using inRange, notNegativeZero⟩
              rw [notFloating.1, notFloating.2, List.append_nil, List.append_nil] at text
              exact text

/-! Reading gives printable values. -/

theorem parseNextValue_printable {input rest : Bytes} {value : Value} (room : Nat)
    (read : parseNextValue parsesDouble input = .ok (.complete value, rest)) :
    Printable parsesDouble room value := by
  have opening {kind : ContainerKind} {tail : Bytes}
      (opened : parseOpening kind tail = (.complete value, rest)) :
      Printable parsesDouble room value := by
    simp only [parseOpening] at opened
    split at opened
    · cases opened
      cases kind with
      | object => exact .emptyObject room
      | array => exact .emptyArray room
    · cases opened
  have literal {text : Bytes} {found : Value} (printable : Printable parsesDouble room found)
      (parsed : ((parseLiteral text found input).map fun read =>
        (ParsedValue.complete read.1, read.2)) = .ok (.complete value, rest)) :
      Printable parsesDouble room value := by
    obtain ⟨⟨result, after⟩, literal, same⟩ := map_ok parsed
    cases same
    simp only [parseLiteral] at literal
    split at literal
    · cases literal
      exact printable
    · cases literal
  cases input with
  | nil => cases read
  | cons byte tail =>
    simp only [parseNextValue] at read
    split at read
    · exact opening (Except.ok.inj read)
    · split at read
      · exact opening (Except.ok.inj read)
      · split at read
        · obtain ⟨⟨text, after⟩, string, same⟩ := map_ok read
          cases same
          exact .string room (parseString_noNul string)
        · split at read
          · obtain ⟨⟨number, after⟩, parsed, same⟩ := map_ok read
            cases same
            obtain ⟨kind, text, rfl, spelling⟩ := parseNumber_numberText parsed
            exact .number room spelling
          · split at read
            · exact literal (.null room) read
            · split at read
              · exact literal (.bool room true) read
              · split at read
                · exact literal (.bool room false) read
                · cases read

/-- What has been read into an open container can be written again. -/
def Container.Printable (parsesDouble : Bytes → Bool) (room : Nat) : Container → Prop
  | .array values => ∀ value ∈ values, Json.Printable parsesDouble room value
  | .object members => (members.map Prod.fst).Nodup ∧
      ∀ member ∈ members, 0 ∉ member.1 ∧ Json.Printable parsesDouble room member.2

theorem Container.Printable.empty (room : Nat) (kind : ContainerKind) :
    (Container.empty kind).Printable parsesDouble room := by
  cases kind with
  | object => exact ⟨List.nodup_nil, nofun⟩
  | array => exact nofun

/-- Storing an item into a container keeps it printable, and it is not empty then. -/
theorem Container.Printable.store {room : Nat} {container : Container} {input rest : Bytes}
    {waiting : Waiting} {value : Value} (printable : container.Printable parsesDouble room)
    (position : parseNextPosition container input = .ok (waiting, rest))
    (item : Json.Printable parsesDouble room value) :
    (waiting.store value).Printable parsesDouble room ∧
      Json.Printable parsesDouble (room + 1) (waiting.store value).close := by
  cases container with
  | array values =>
    cases position
    have items : ∀ other ∈ values ++ [value], Json.Printable parsesDouble room other := by
      intro other mem
      rcases List.mem_append.1 mem with mem | mem
      · exact printable other mem
      · rw [List.mem_singleton.1 mem]
        exact item
    exact ⟨items, .array (by simp) items⟩
  | object members =>
    obtain ⟨⟨key, after⟩, name, same⟩ := map_ok position
    cases same
    have noNul : 0 ∉ key := by
      simp only [parseMemberName] at name
      split at name
      · cases name
      · split at name
        · cases name
        · rename_i string
          split at name
          · cases name
            exact parseString_noNul string
          · cases name
    obtain ⟨nodup, items⟩ := printable
    have nodupAfter := objectAppendMember_nodup key value nodup
    have itemsAfter : ∀ member ∈ objectAppendMember members key value,
        0 ∉ member.1 ∧ Json.Printable parsesDouble room member.2 := by
      intro member mem
      rcases mem_objectAppendMember mem with ⟨sameValue, sameKey⟩ | mem
      · rw [sameValue, sameKey]
        exact ⟨noNul, item⟩
      · exact items member mem
    have nonempty : sortObjectMembers (objectAppendMember members key value) ≠ [] := by
      intro empty
      have length := (sortObjectMembers_perm (objectAppendMember members key value)).length_eq
      rw [empty] at length
      cases members with
      | nil => cases length
      | cons member members =>
        simp only [objectAppendMember] at length
        split at length <;> cases length
    refine ⟨⟨nodupAfter, itemsAfter⟩, .object nonempty (sortObjectMembers_sorted nodupAfter) ?_ ?_⟩
    · exact fun member mem => (itemsAfter member (mem_sortObjectMembers.1 mem)).1
    · exact fun member mem => (itemsAfter member (mem_sortObjectMembers.1 mem)).2

theorem parseNextItem_ok {container : Container} {input rest : Bytes} {waiting : Waiting}
    {parsed : ParsedValue}
    (read : parseNextItem parsesDouble container input = .ok ((waiting, parsed), rest)) :
    ∃ valueStart, parseNextPosition container input = .ok (waiting, valueStart) ∧
      parseNextValue parsesDouble valueStart = .ok (parsed, rest) := by
  simp only [parseNextItem] at read
  split at read
  · cases read
  · rename_i found valueStart position
    obtain ⟨⟨value, after⟩, parsedValue, same⟩ := map_ok read
    cases same
    exact ⟨valueStart, position, parsedValue⟩

/-- A container read to its end is printable within the nesting it was read with. -/
theorem readContainer_printable {fuel depth room : Nat} {limit : Nat → Bool}
    {container : Container} {input rest : Bytes} {nested : Nested}
    (read : readContainer parsesDouble limit fuel depth container input = .ok (nested, rest))
    (printable : container.Printable parsesDouble room) (fits : nested.openNesting ≤ room + 1) :
    Printable parsesDouble (room + 1) nested.value := by
  induction fuel generalizing depth room container input rest nested with
  | zero => cases read
  | succ fuel ih =>
    obtain ⟨waiting, parsed, afterStart, child, afterChild, start, childRead, separated⟩ :=
      readContainer_ok_iff.1 read
    obtain ⟨valueStart, position, value⟩ := parseNextItem_ok start
    have childPrintable (childFits : child.openNesting ≤ room) :
        Printable parsesDouble room child.value := by
      cases parsed with
      | complete found =>
        cases childRead
        exact parseNextValue_printable room value
      | opens kind =>
        simp only [readChild] at childRead
        split at childRead
        · have positive := readContainer_openNesting_pos childRead
          obtain ⟨room, rfl⟩ := Nat.exists_eq_succ_of_ne_zero (by omega : room ≠ 0)
          exact ih childRead (.empty _ kind) childFits
        · cases childRead
    rcases separated with ⟨separator, rfl⟩ | ⟨afterComma, items, separator, itemsRead, rfl⟩
    · exact (printable.store position (childPrintable (Nat.le_of_succ_le_succ fits))).2
    · simp only [Nested.join] at fits ⊢
      have stored := printable.store position (childPrintable (by omega))
      exact ih itemsRead stored.1 (by omega)

/-- A parsed document can be written again. -/
theorem parseDocument_printable {text : Bytes} {value : Value}
    (parsed : parseDocument parsesDouble text = .ok value) :
    Printable parsesDouble jsonMaxNestingDepth value := by
  rw [parseDocument_eq_reader] at parsed
  obtain ⟨nested, document, rfl⟩ := map_ok parsed
  have fits := ((readDocument_limit text nested).1 document).2
  simp only [readDocument] at document
  split at document
  · cases document
  · rename_i found rest value
    obtain ⟨finished, _, rfl⟩ := map_ok document
    simp only [readValue] at value
    split at value
    · cases value
    · rename_i start
      cases value
      exact parseNextValue_printable _ start
    · rename_i kind afterStart start
      split at value
      · exact readContainer_printable value (.empty _ kind) fits
      · cases value

end Printable

end MyLite.Json
