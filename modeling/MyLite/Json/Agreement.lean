import MyLite.Json.Reader
import MyLite.Json.Validate

/-! The parser and the validator walk a text in step. What the parser reads, the validator accepts
when the text nests at most 100 containers; what the parser calls invalid, it rejects. -/
namespace MyLite.Json

/-! Scalars. -/

def StartsWithDigit (input : Bytes) : Prop :=
  (input.head?).any isDecimalDigit = true

/-- The validator ends where the parser does, and fails where the parser finds the text
invalid. -/
def Agrees {α : Type} (parsed : Reading α) (valid : Option Bytes) : Prop :=
  match parsed with
  | .ok (_, rest) => valid = some rest
  | .error failure => failure.status = .invalid → valid = none

/-- As `Agrees`, but where the text is invalid the validator may also stop before a digit (a number
with a leading zero), where no state can go on. -/
def AgreesBeforeDigit {α : Type} (parsed : Reading α) (valid : Option Bytes) : Prop :=
  match parsed with
  | .ok (_, rest) => valid = some rest
  | .error failure => failure.status = .invalid → ∀ rest, valid = some rest → StartsWithDigit rest

theorem Agrees.beforeDigit {α : Type} {parsed : Reading α} {valid : Option Bytes}
    (agrees : Agrees parsed valid) : AgreesBeforeDigit parsed valid := by
  cases parsed with
  | ok result => exact agrees
  | error failure =>
    intro invalid rest accepted
    rw [agrees invalid] at accepted
    cases accepted

theorem isHexDigit_eq (byte : UInt8) : isHexDigit byte = (parseHexDigit byte).isSome := by
  simp only [isHexDigit, parseHexDigit]
  grind

theorem hexDigits_agree (count codepoint : Nat) (input : Bytes) :
    Agrees (parseHexDigits count codepoint input) (validateHexDigits count input) := by
  fun_induction parseHexDigits count codepoint input with
  | case1 => rfl
  | case2 => exact fun _ => rfl
  | case3 codepoint count byte rest digit found ih =>
    rw [validateHexDigits, isHexDigit_eq, found]
    exact ih
  | case4 codepoint count byte rest missing =>
    intro _
    rw [validateHexDigits, isHexDigit_eq, missing]
    rfl

theorem stringEscape_agree (escape input : Bytes) :
    Agrees (parseStringEscape escape input) (validateStringEscape input) := by
  cases input with
  | nil => exact fun _ => rfl
  | cons byte rest =>
    by_cases unicode : byte = 0x75
    · subst unicode
      have digits := hexDigits_agree 4 0 rest
      have valid : validateStringEscape (0x75 :: rest) = validateHexDigits 4 rest := by
        simp [validateStringEscape, isSimpleEscape]
      rw [valid]
      simp only [parseStringEscape]
      cases read : parseHexDigits 4 0 rest with
      | error failure =>
        rw [read] at digits
        simpa [Agrees] using digits
      | ok result =>
        obtain ⟨codepoint, after⟩ := result
        rw [read] at digits
        by_cases outside : codepoint = 0 ∨ jsonAsciiByteLimit < codepoint
        · simp [Agrees, outside, parserUnsupported]
        · simpa [Agrees, outside] using digits
    · simp only [parseStringEscape, validateStringEscape, isSimpleEscape, unicode, if_false]
      repeat' split
      all_goals simp_all [Agrees, parserInvalid, parserInvalidWithDetail]

theorem Agrees.map {α β : Type} {parsed : Reading α} {valid : Option Bytes}
    {f : α × Bytes → β × Bytes} (agrees : Agrees parsed valid)
    (keeps : ∀ result, (f result).2 = result.2) : Agrees (parsed.map f) valid := by
  cases parsed with
  | error failure => exact agrees
  | ok result =>
    have same : valid = some result.2 := agrees
    show valid = some (f result).2
    rw [keeps, same]

theorem stringBody_agree (input : Bytes) :
    Agrees (parseStringBody input) (validateStringBody input) := by
  induction length : input.length using Nat.strong_induction_on generalizing input with
  | _ n ih =>
    cases input with
    | nil =>
      rw [parseStringBody, validateStringBody]
      exact fun _ => rfl
    | cons byte rest =>
      have shorter {after : Bytes} (bound : after.length ≤ rest.length) : after.length < n := by
        rw [← length]
        exact Nat.lt_succ_of_le bound
      by_cases quote : byte = 0x22
      · subst quote
        rw [parseStringBody, validateStringBody]
        rfl
      · by_cases escape : byte = 0x5c
        · subst escape
          have agrees := stringEscape_agree (0x5c :: rest) rest
          rw [parseStringBody_escape, validateStringBody_escape]
          cases read : parseStringEscape (0x5c :: rest) rest with
          | error failure =>
            rw [read] at agrees
            intro invalid
            rw [agrees invalid]
            rfl
          | ok result =>
            obtain ⟨char, after⟩ := result
            rw [read] at agrees
            have valid : validateStringEscape rest = some after := agrees
            rw [valid]
            have body := ih _ (shorter (Nat.le_of_lt (parseStringEscape_length read))) after rfl
            exact body.map fun _ => rfl
        · rw [validateStringBody, if_neg quote, if_neg escape]
          by_cases control : byte < jsonControlByteLimit
          · rw [if_pos control]
            rw [parseStringBody, if_neg quote, if_neg escape, if_pos control]
            split
            · exact fun _ => rfl
            · exact fun _ => rfl
          · rw [if_neg control, parseStringBody_plain rest quote escape (UInt8.not_lt.1 control)]
            exact (ih _ (shorter (Nat.le_refl _)) rest rfl).map fun _ => rfl

theorem string_agree (input : Bytes) : Agrees (parseString input) (validateString input) := by
  simp only [parseString, validateString]
  cases parserMatch 0x22 input with
  | none => exact fun _ => rfl
  | some rest => exact stringBody_agree rest

theorem digits_agree (input : Bytes) : Agrees (parseDigits input) (validateDigits input) := by
  simp only [parseDigits, validateDigits]
  split
  · rfl
  · exact fun _ => rfl

theorem fraction_agree (input : Bytes) :
    Agrees (parseNumberFractionPart input) (validateFraction input) := by
  simp only [parseNumberFractionPart, validateFraction]
  cases parserMatch 0x2e input with
  | none => rfl
  | some rest => exact (digits_agree rest).map fun _ => rfl

theorem exponent_agree (input : Bytes) :
    Agrees (parseNumberExponentPart input) (validateExponent input) := by
  cases input with
  | nil => rfl
  | cons mark rest =>
    simp only [parseNumberExponentPart, validateExponent]
    by_cases exponent : isExponentMark mark = true
    · simp only [if_pos exponent]
      cases rest with
      | nil => exact fun _ => rfl
      | cons byte after =>
        cases sign : isSign byte with
        | true =>
          have signText : ((byte :: after).take 1).filter isSign = [byte] := by simp [sign]
          simp only [signText, sign]
          exact Agrees.map (f := fun x => ([mark, byte] ++ x.1, x.2)) (digits_agree after)
            fun _ => rfl
        | false =>
          have signText : ((byte :: after).take 1).filter isSign = [] := by simp [sign]
          simp only [signText, sign]
          exact Agrees.map (f := fun x => ([mark] ++ x.1, x.2)) (digits_agree (byte :: after))
            fun _ => rfl
    · simp only [if_neg exponent]
      rfl

theorem integerDigits_agree (start : Bytes) (isNegative : Bool) (input : Bytes) :
    AgreesBeforeDigit (parseIntegerDigits start isNegative input)
      (validateIntegerDigits input) := by
  cases input with
  | nil => exact Agrees.beforeDigit (fun _ => rfl)
  | cons byte rest =>
    simp only [parseIntegerDigits, validateIntegerDigits]
    by_cases zero : byte = 0x30
    · simp only [if_pos zero]
      split
      · rename_i digit
        intro _ after valid
        cases valid
        exact digit
      · rfl
    · simp only [if_neg zero]
      by_cases digit : 0x31 ≤ byte ∧ byte ≤ 0x39
      · have valid : ¬(byte < 0x31 ∨ 0x39 < byte) := by
          simp only [not_or, UInt8.not_lt]
          exact digit
        rw [if_pos digit, if_neg valid]
        rfl
      · have invalid : byte < 0x31 ∨ 0x39 < byte := by
          by_contra neither
          simp only [not_or, UInt8.not_lt] at neither
          exact digit neither
        rw [if_neg digit, if_pos invalid]
        exact Agrees.beforeDigit (fun _ => rfl)

theorem validateFraction_digit {input : Bytes} (digit : StartsWithDigit input) :
    validateFraction input = some input := by
  simp only [validateFraction]
  split
  · rename_i point
    rw [parserMatch_eq_some.1 point] at digit
    exact absurd digit (by simp [StartsWithDigit, isDecimalDigit])
  · rfl

theorem validateExponent_digit {input : Bytes} (digit : StartsWithDigit input) :
    validateExponent input = some input := by
  cases input with
  | nil => rfl
  | cons byte rest =>
    have notMark : isExponentMark byte = false := by
      simp only [StartsWithDigit, List.head?_cons, Option.any_some, isDecimalDigit] at digit
      simp only [isExponentMark]
      grind
    simp [validateExponent, notMark]

theorem number_agree (parsesDouble : Bytes → Bool) (start : Bytes) :
    AgreesBeforeDigit (parseNumber parsesDouble start) (validateNumber start) := by
  have integer : AgreesBeforeDigit (parseNumberIntegerPart start)
      (validateIntegerDigits ((parserMatch 0x2d start).getD start)) := by
    simp only [parseNumberIntegerPart]
    cases parserMatch 0x2d start with
    | none => exact integerDigits_agree _ _ _
    | some input => exact integerDigits_agree _ _ _
  simp only [parseNumber, validateNumber]
  cases integerPart : parseNumberIntegerPart start with
  | error failure =>
    rw [integerPart] at integer
    intro invalid rest valid
    cases validInteger : validateIntegerDigits ((parserMatch 0x2d start).getD start) with
    | none =>
      rw [validInteger] at valid
      cases valid
    | some after =>
      have digit := integer invalid after validInteger
      rw [validInteger] at valid
      simp only [validateFraction_digit digit, validateExponent_digit digit] at valid
      cases valid
      exact digit
  | ok result =>
    obtain ⟨part, afterInteger⟩ := result
    rw [integerPart] at integer
    have validInteger : validateIntegerDigits ((parserMatch 0x2d start).getD start) =
        some afterInteger := integer
    have fraction := fraction_agree afterInteger
    simp only [validInteger]
    cases fractionPart : parseNumberFractionPart afterInteger with
    | error failure =>
      rw [fractionPart] at fraction
      refine Agrees.beforeDigit fun invalid => ?_
      rw [fraction invalid]
    | ok result =>
      obtain ⟨fractionText, afterFraction⟩ := result
      rw [fractionPart] at fraction
      have validFraction : validateFraction afterInteger = some afterFraction := fraction
      have exponent := exponent_agree afterFraction
      simp only [validFraction]
      cases exponentPart : parseNumberExponentPart afterFraction with
      | error failure =>
        rw [exponentPart] at exponent
        exact Agrees.beforeDigit exponent
      | ok result =>
        obtain ⟨exponentText, rest⟩ := result
        rw [exponentPart] at exponent
        have validExponent : validateExponent afterFraction = some rest := exponent
        simp only [validExponent]
        split
        · simp only [parseFloatingNumber]
          split
          · rfl
          · intro invalid
            cases invalid
        · simp only [parseIntegerNumber]
          split
          · intro invalid
            cases invalid
          · split <;> rfl

theorem literal_agree (literal : Bytes) (value : Value) (input : Bytes) :
    Agrees (parseLiteral literal value input) (validateLiteralToken literal input) := by
  simp only [parseLiteral, validateLiteralToken]
  split
  · rfl
  · exact fun _ => rfl

/-! The states of the validator at the positions of the parser. -/

def Container.kind : Container → ContainerKind
  | .object _ => .object
  | .array _ => .array

def Waiting.kind : Waiting → ContainerKind
  | .object _ _ => .object
  | .array _ => .array

theorem Waiting.store_kind (waiting : Waiting) (value : Value) :
    (waiting.store value).kind = waiting.kind := by
  cases waiting <;> rfl

/-- At the next item of an open container. -/
def itemState : ContainerKind → ValidateState
  | .object => .objectKeyRequired
  | .array => .arrayValueRequired

/-- After an item of an open container. -/
def separatorState : ContainerKind → ValidateState
  | .object => .objectCommaOrEnd
  | .array => .arrayCommaOrEnd

theorem validateLoop_cons (state : ValidateState) (stack : ValidateStack) (input : Bytes) :
    validateLoop (state :: stack) input =
      match validateState stack input state with
      | none => false
      | some (stack, rest) => validateLoop stack rest := by
  rw [validateLoop.eq_def]
  split
  · rename_i same
    cases same
  · rename_i same
    cases same
    split
    · rename_i step
      rw [step]
    · rename_i step
      rw [step]

theorem validateLoop_step {state : ValidateState} {stack after : ValidateStack}
    {input rest : Bytes} (step : validateState stack input state = some (after, rest)) :
    validateLoop (state :: stack) input = validateLoop after rest := by
  rw [validateLoop_cons, step]

theorem validateLoop_fail {state : ValidateState} {stack : ValidateStack} {input : Bytes}
    (step : validateState stack input state = none) :
    validateLoop (state :: stack) input = false := by
  rw [validateLoop_cons, step]

theorem validateStackPush_of_lt {stack : ValidateStack} (state : ValidateState)
    (bound : stack.length < jsonMaxNestingDepth + 2) :
    validateStackPush stack state = some (state :: stack) :=
  if_neg (Nat.not_le.2 bound)

theorem skipWhitespace_idem (input : Bytes) :
    skipWhitespace (skipWhitespace input) = skipWhitespace input := by
  simp only [skipWhitespace]
  induction input with
  | nil => rfl
  | cons byte rest ih =>
    cases space : isWhitespace byte with
    | true => simpa [space] using ih
    | false => simp [space]

theorem validateLoop_value_skip (stack : ValidateStack) (input : Bytes) :
    validateLoop (.value :: stack) (skipWhitespace input) = validateLoop (.value :: stack) input := by
  rw [validateLoop_cons, validateLoop_cons, validateState, validateState, validateValueState,
    validateValueState, skipWhitespace_idem]

/-- No state goes on at a digit after a value. -/
def StopsAtDigit (stack : ValidateStack) : Prop :=
  ∀ input, StartsWithDigit input → validateLoop stack input = false

theorem skipWhitespace_digit {input : Bytes} (digit : StartsWithDigit input) :
    ∃ byte rest, input = byte :: rest ∧ isDecimalDigit byte = true ∧
      skipWhitespace input = byte :: rest := by
  cases input with
  | nil => exact absurd digit (by simp [StartsWithDigit])
  | cons byte rest =>
    have isDigit : isDecimalDigit byte = true := digit
    refine ⟨byte, rest, rfl, isDigit, ?_⟩
    have notSpace : isWhitespace byte = false := by
      simp only [isDecimalDigit] at isDigit
      simp only [isWhitespace]
      grind
    simp [skipWhitespace, notSpace]

theorem stopsAtDigit_nil : StopsAtDigit [] := by
  intro input digit
  obtain ⟨byte, rest, rfl, -, skipped⟩ := skipWhitespace_digit digit
  rw [validateLoop, skipped]
  rfl

theorem stopsAtDigit_separator (kind : ContainerKind) (stack : ValidateStack) :
    StopsAtDigit (separatorState kind :: stack) := by
  intro input digit
  obtain ⟨byte, rest, rfl, isDigit, skipped⟩ := skipWhitespace_digit digit
  have notComma : byte ≠ 0x2c := by
    rintro rfl
    exact absurd isDigit (by decide)
  have notObject : byte ≠ 0x7d := by
    rintro rfl
    exact absurd isDigit (by decide)
  have notArray : byte ≠ 0x5d := by
    rintro rfl
    exact absurd isDigit (by decide)
  apply validateLoop_fail
  cases kind with
  | object => simp [separatorState, validateState, validateCommaOrEndState, *]
  | array => simp [separatorState, validateState, validateCommaOrEndState, *]

section Walk

variable {parsesDouble : Bytes → Bool}

/-- What the validator does at a value position, against what the parser finds there. -/
def ValueStep (stack : ValidateStack) (input : Bytes) (parsed : Reading ParsedValue) : Prop :=
  match parsed with
  | .ok (.complete value, rest) =>
    validateLoop (.value :: stack) input =
      (decide (stack.length + (Nested.leaf value).nesting ≤ jsonMaxNestingDepth) &&
        validateLoop stack rest)
  | .ok (.opens kind, rest) => stack.length < jsonMaxNestingDepth →
    validateLoop (.value :: stack) input = validateLoop (itemState kind :: stack) rest
  | .error failure => failure.status = .invalid → validateLoop (.value :: stack) input = false

theorem valueStep_scalar {α : Type} {parsed : Reading α} (toValue : α → Value)
    {valid : Option Bytes} {stack : ValidateStack} {input : Bytes} (stops : StopsAtDigit stack)
    (shallow : stack.length ≤ jsonMaxNestingDepth) (agrees : AgreesBeforeDigit parsed valid)
    (scalar : ∀ result rest, parsed = .ok (result, rest) → (toValue result).isContainer = false)
    (step : validateState stack input .value = valid.map (stack, ·)) :
    ValueStep stack input
      (parsed.map fun (result, rest) => (.complete (toValue result), rest)) := by
  cases parsed with
  | error failure =>
    intro invalid
    rw [validateLoop_cons, step]
    cases accepted : valid with
    | none => rfl
    | some rest => exact stops rest (agrees invalid rest accepted)
  | ok result =>
    obtain ⟨result, rest⟩ := result
    have accepted : valid = some rest := agrees
    have flat : (Nested.leaf (toValue result)).nesting = 0 := by
      rw [Nested.leaf, scalar result rest rfl]
      rfl
    show validateLoop _ _ = _
    rw [validateLoop_cons, step, accepted, flat]
    simp [shallow]

theorem valueStep_opening {stack : ValidateStack} {kind : ContainerKind} {rest input : Bytes}
    (first : ValidateState)
    (opens : validateState stack input .value = validateOpen stack first rest)
    (closes : ∀ after, parserMatch (Container.empty kind).closing (skipWhitespace rest) = some after →
      validateState stack rest first = some (stack, after))
    (goesOn : parserMatch (Container.empty kind).closing (skipWhitespace rest) = none →
      validateState stack rest first = validateState stack (skipWhitespace rest) (itemState kind)) :
    ValueStep stack input (.ok (parseOpening kind rest)) := by
  have opened (shallow : stack.length < jsonMaxNestingDepth) :
      validateLoop (.value :: stack) input = validateLoop (first :: stack) rest := by
    apply validateLoop_step
    rw [opens, validateOpen, validateStackPush_of_lt first (by omega)]
    simp [validateContainerDepthAvailable, shallow]
  simp only [parseOpening]
  cases closing : parserMatch (Container.empty kind).closing (skipWhitespace rest) with
  | some after =>
    have container : (Nested.leaf (Container.empty kind).close).nesting = 1 := by
      cases kind <;> rfl
    show validateLoop _ _ = _
    rw [container]
    by_cases shallow : stack.length < jsonMaxNestingDepth
    · rw [opened shallow, validateLoop_step (closes after closing)]
      simp [Nat.succ_le_of_lt shallow]
    · have deep : validateState stack input .value = none := by
        rw [opens, validateOpen]
        simp [validateContainerDepthAvailable, shallow]
      rw [validateLoop_fail deep, decide_eq_false (by omega), Bool.false_and]
  | none =>
    intro shallow
    rw [opened shallow, validateLoop_cons, goesOn closing, ← validateLoop_cons]

theorem parseNumber_scalar {start rest : Bytes} {value : Value}
    (parsed : parseNumber parsesDouble start = .ok (value, rest)) :
    value.isContainer = false := by
  simp only [parseNumber] at parsed
  split at parsed
  · cases parsed
  · split at parsed
    · cases parsed
    · split at parsed
      · cases parsed
      · split at parsed
        · obtain ⟨number, floating, same⟩ := map_ok parsed
          cases same
          simp only [parseFloatingNumber] at floating
          split at floating
          · cases floating
            rfl
          · cases floating
        · obtain ⟨number, integer, same⟩ := map_ok parsed
          cases same
          simp only [parseIntegerNumber] at integer
          split at integer
          · cases integer
          · split at integer
            all_goals
              cases integer
              rfl

theorem validateLoop_value (parsesDouble : Bytes → Bool) {stack : ValidateStack} {input : Bytes}
    (start : skipWhitespace input = input) (stops : StopsAtDigit stack)
    (shallow : stack.length ≤ jsonMaxNestingDepth) :
    ValueStep stack input (parseNextValue parsesDouble input) := by
  cases input with
  | nil =>
    intro _
    exact validateLoop_fail rfl
  | cons byte rest =>
    have step : validateState stack (byte :: rest) .value =
        validateValueState stack (byte :: rest) := rfl
    simp only [validateValueState, start] at step
    simp only [parseNextValue]
    by_cases object : byte = 0x7b
    · subst object
      refine valueStep_opening .objectKeyOrEnd step ?_ ?_
      · intro after closing
        have closing : parserMatch 0x7d (skipWhitespace rest) = some after := closing
        simp only [validateState, closing]
      · intro closing
        have closing : parserMatch 0x7d (skipWhitespace rest) = none := closing
        simp only [validateState, closing, itemState]
    · by_cases array : byte = 0x5b
      · subst array
        refine valueStep_opening .arrayValueOrEnd step ?_ ?_
        · intro after closing
          have closing : parserMatch 0x5d (skipWhitespace rest) = some after := closing
          simp only [validateState, closing]
        · intro closing
          have closing : parserMatch 0x5d (skipWhitespace rest) = none := closing
          simp only [validateState, closing, itemState]
      · simp only [if_neg object, if_neg array] at step ⊢
        by_cases string : byte = 0x22
        · simp only [if_pos string] at step ⊢
          exact valueStep_scalar .string stops shallow (string_agree _).beforeDigit
            (fun _ _ _ => rfl) step
        · by_cases number : byte = 0x2d ∨ isDecimalDigit byte = true
          · have notTrue : byte ≠ 0x74 := by rintro rfl; revert number; decide
            have notFalse : byte ≠ 0x66 := by rintro rfl; revert number; decide
            have notNull : byte ≠ 0x6e := by rintro rfl; revert number; decide
            simp only [if_neg string, if_pos number, if_neg notTrue, if_neg notFalse,
              if_neg notNull] at step ⊢
            exact valueStep_scalar id stops shallow (number_agree parsesDouble _)
              (fun _ _ parsed => parseNumber_scalar parsed) step
          · simp only [if_neg string, if_neg number] at step ⊢
            have literal (text : Bytes) (value : Value) (scalar : value.isContainer = false)
                (read : validateState stack (byte :: rest) .value =
                  (validateLiteralToken text (byte :: rest)).map (stack, ·)) :
                ValueStep stack (byte :: rest)
                  ((parseLiteral text value (byte :: rest)).map fun read =>
                    (.complete read.1, read.2)) := by
              refine valueStep_scalar id stops shallow (literal_agree text value _).beforeDigit ?_ read
              intro result after parsed
              simp only [parseLiteral] at parsed
              split at parsed
              · cases parsed
                exact scalar
              · cases parsed
            by_cases isNull : byte = 0x6e
            · subst isNull
              exact literal nullLiteral .null rfl step
            · by_cases isTrue : byte = 0x74
              · subst isTrue
                exact literal trueLiteral (.bool true) rfl step
              · by_cases isFalse : byte = 0x66
                · subst isFalse
                  exact literal falseLiteral (.bool false) rfl step
                · simp only [if_neg isNull, if_neg isTrue, if_neg isFalse] at step ⊢
                  exact fun _ => validateLoop_fail step

theorem validatePushValue_of_lt {stack : ValidateStack} (state : ValidateState) (input : Bytes)
    (shallow : stack.length < jsonMaxNestingDepth) :
    validatePushValue stack state input = some (.value :: state :: stack, input) := by
  rw [validatePushValue, validateStackPush_of_lt state (by omega)]
  simp only []
  rw [validateStackPush_of_lt .value (by rw [List.length_cons]; omega)]
  rfl

/-- The validator at the next item, against the parser's reading of the member name. -/
theorem validateLoop_item (container : Container) {stack : ValidateStack} {input : Bytes}
    (start : skipWhitespace input = input) (shallow : stack.length < jsonMaxNestingDepth) :
    match parseNextPosition container input with
    | .ok (_, rest) =>
      validateLoop (itemState container.kind :: stack) input =
        validateLoop (.value :: separatorState container.kind :: stack) rest
    | .error failure => failure.status = .invalid →
      validateLoop (itemState container.kind :: stack) input = false := by
  cases container with
  | array values => exact validateLoop_step (validatePushValue_of_lt .arrayCommaOrEnd input shallow)
  | object members =>
    have step : validateState stack input .objectKeyRequired =
        (validateString input).map fun rest => (.objectColon :: stack, rest) := by
      simp only [validateState, validateObjectKeyRequiredState, start]
      rw [validateStackPush_of_lt .objectColon (by omega)]
      cases validateString input <;> rfl
    simp only [parseNextPosition, parseMemberName, Container.kind, itemState, separatorState]
    by_cases quote : input.head? = some 0x22
    · have string := string_agree input
      simp only [ne_eq, quote, not_true, if_false]
      cases read : parseString input with
      | error failure =>
        rw [read] at string
        intro invalid
        rw [string invalid] at step
        exact validateLoop_fail step
      | ok result =>
        obtain ⟨key, rest⟩ := result
        rw [read] at string
        have valid : validateString input = some rest := string
        rw [valid] at step
        have colon : validateState stack rest .objectColon =
            (parserMatch 0x3a (skipWhitespace rest)).bind
              (validatePushValue stack .objectCommaOrEnd) := by
          simp only [validateState]
          cases parserMatch 0x3a (skipWhitespace rest) <;> rfl
        dsimp only
        cases found : parserMatch 0x3a (skipWhitespace rest) with
        | none =>
          rw [found] at colon
          intro _
          rw [validateLoop_step step, validateLoop_fail colon]
        | some after =>
          rw [found] at colon
          show validateLoop _ _ = _
          rw [validateLoop_step step, validateLoop_step
            (colon.trans (validatePushValue_of_lt _ _ shallow)), validateLoop_value_skip]
    · have noString : validateString input = none := by
        cases input with
        | nil => rfl
        | cons byte rest =>
          have other : byte ≠ 0x22 := by simpa using quote
          simp [validateString, parserMatch, other]
      rw [noString] at step
      simp only [ne_eq, quote, not_false_eq_true, if_true]
      exact fun _ => validateLoop_fail step

theorem validateLoop_item_skip {kind : ContainerKind} {stack : ValidateStack} (input : Bytes)
    (shallow : stack.length < jsonMaxNestingDepth) :
    validateLoop (itemState kind :: stack) (skipWhitespace input) =
      validateLoop (itemState kind :: stack) input := by
  cases kind with
  | object =>
    rw [validateLoop_cons, validateLoop_cons, itemState, validateState, validateState,
      validateObjectKeyRequiredState, validateObjectKeyRequiredState, skipWhitespace_idem]
  | array =>
    have step (start : Bytes) : validateState stack start .arrayValueRequired =
        some (.value :: .arrayCommaOrEnd :: stack, start) :=
      validatePushValue_of_lt _ _ shallow
    rw [itemState, validateLoop_step (step _), validateLoop_step (step _), validateLoop_value_skip]

/-- The validator after an item. -/
theorem validateLoop_separator (container : Container) {stack : ValidateStack} (input : Bytes)
    (shallow : stack.length < jsonMaxNestingDepth) :
    validateLoop (separatorState container.kind :: stack) input =
      match readSeparator container input with
      | .ok (.close, rest) => validateLoop stack rest
      | .ok (.comma, rest) => validateLoop (itemState container.kind :: stack) rest
      | .error _ => false := by
  have step : validateState stack input (separatorState container.kind) =
      validateCommaOrEndState stack container.closing (itemState container.kind) input := by
    cases container <;> rfl
  simp only [validateCommaOrEndState] at step
  simp only [readSeparator]
  cases skipped : skipWhitespace input with
  | nil =>
    rw [skipped] at step
    exact validateLoop_fail step
  | cons byte rest =>
    simp only [skipped] at step
    by_cases closes : byte = container.closing
    · simp only [if_pos closes] at step ⊢
      exact validateLoop_step step
    · by_cases comma : byte = 0x2c
      · simp only [if_neg closes, if_pos comma] at step ⊢
        rw [validateStackPush_of_lt _ (by omega)] at step
        rw [validateLoop_step step, validateLoop_item_skip rest shallow]
      · simp only [if_neg closes, if_neg comma] at step ⊢
        exact validateLoop_fail step

theorem parseNextPosition_spec {container : Container} {input rest : Bytes} {waiting : Waiting}
    (read : parseNextPosition container input = .ok (waiting, rest))
    (start : skipWhitespace input = input) :
    waiting.kind = container.kind ∧ skipWhitespace rest = rest := by
  cases container with
  | array values =>
    cases read
    exact ⟨rfl, start⟩
  | object members =>
    obtain ⟨⟨key, after⟩, name, same⟩ := map_ok read
    cases same
    refine ⟨rfl, ?_⟩
    simp only [parseMemberName] at name
    split at name
    · cases name
    · split at name
      · cases name
      · split at name
        · cases name
          exact skipWhitespace_idem _
        · cases name

theorem parseNextValue_opens {input rest : Bytes} {kind : ContainerKind}
    (read : parseNextValue parsesDouble input = .ok (.opens kind, rest)) :
    skipWhitespace rest = rest := by
  have opening {kind' : ContainerKind} {tail : Bytes}
      (opened : parseOpening kind' tail = (.opens kind, rest)) : skipWhitespace rest = rest := by
    simp only [parseOpening] at opened
    split at opened
    · cases opened
    · cases opened
      exact skipWhitespace_idem _
  cases input with
  | nil => cases read
  | cons byte tail =>
    simp only [parseNextValue] at read
    split at read
    · exact opening (Except.ok.inj read)
    · split at read
      · exact opening (Except.ok.inj read)
      · repeat' split at read
        all_goals first
          | cases read
          | obtain ⟨_, _, same⟩ := map_ok read
            cases same

theorem readSeparator_comma {container : Container} {input rest : Bytes}
    (read : readSeparator container input = .ok (.comma, rest)) : skipWhitespace rest = rest := by
  simp only [readSeparator] at read
  split at read
  · cases read
  · split at read
    · cases read
    · split at read
      · cases read
        exact skipWhitespace_idem _
      · cases read

/-- What the validator accepts at a position, against what the reader reads there inside `depth`
open containers: the same bytes, if they do not nest too deeply. -/
def Walks (depth : Nat) (stack : ValidateStack) (accepts : Bool) (read : Reading Nested) : Prop :=
  match read with
  | .ok (nested, rest) =>
    accepts = (decide (depth + nested.nesting ≤ jsonMaxNestingDepth) && validateLoop stack rest)
  | .error failure => failure.status = .invalid → accepts = false

/-- The validator walks a container in step with the reader. -/
theorem validateLoop_container (parsesDouble : Bytes → Bool) (fuel : Nat)
    (container : Container) (stack : ValidateStack) (input : Bytes)
    (start : skipWhitespace input = input) (shallow : stack.length < jsonMaxNestingDepth) :
    Walks stack.length stack (validateLoop (itemState container.kind :: stack) input)
      (readContainer parsesDouble parserRoom fuel (stack.length + 1) container input) := by
  induction fuel generalizing container stack input with
  | zero =>
    intro invalid
    cases invalid
  | succ fuel ih =>
    have position := validateLoop_item container start shallow
    rw [readContainer_succ, parseNextItem]
    cases positionRead : parseNextPosition container input with
    | error failure =>
      rw [positionRead] at position
      exact position
    | ok result =>
      obtain ⟨waiting, valueStart⟩ := result
      rw [positionRead] at position
      have atValue : validateLoop (itemState container.kind :: stack) input =
        validateLoop (.value :: separatorState container.kind :: stack) valueStart := position
      obtain ⟨sameKind, valueSkipped⟩ := parseNextPosition_spec positionRead start
      have value := validateLoop_value parsesDouble valueSkipped
        (stopsAtDigit_separator container.kind stack) (Nat.succ_le_of_lt shallow)
      rw [atValue]
      dsimp only
      cases valueRead : parseNextValue parsesDouble valueStart with
      | error failure =>
        rw [valueRead] at value
        exact value
      | ok result =>
        obtain ⟨parsed, afterStart⟩ := result
        rw [valueRead] at value
        -- The child, whether it is complete or opens a container.
        have child : Walks (stack.length + 1) (separatorState container.kind :: stack)
            (validateLoop (.value :: separatorState container.kind :: stack) valueStart)
            (readChild parsesDouble parserRoom fuel (stack.length + 1) parsed afterStart) := by
          cases parsed with
          | complete value' => exact value
          | opens kind =>
            simp only [readChild]
            by_cases room : parserRoom (stack.length + 1) = true
            · have deeper : stack.length + 1 < jsonMaxNestingDepth := by
                simpa [parserRoom] using room
              have emptyKind : (Container.empty kind).kind = kind := by cases kind <;> rfl
              have inner := ih (Container.empty kind) (separatorState container.kind :: stack)
                afterStart (parseNextValue_opens valueRead) deeper
              rw [emptyKind] at inner
              rw [if_pos room, value deeper]
              exact inner
            · rw [if_neg room]
              intro invalid
              cases invalid
        simp only [Except.map]
        cases childRead : readChild parsesDouble parserRoom fuel (stack.length + 1) parsed
          afterStart with
        | error failure =>
          rw [childRead] at child
          exact child
        | ok result =>
          obtain ⟨inner, afterChild⟩ := result
          rw [childRead] at child
          have accepts : validateLoop (.value :: separatorState container.kind :: stack) valueStart =
            (decide (stack.length + 1 + inner.nesting ≤ jsonMaxNestingDepth) &&
              validateLoop (separatorState container.kind :: stack) afterChild) := child
          have storedKind : (waiting.store inner.value).kind = container.kind :=
            (waiting.store_kind inner.value).trans sameKind
          have separator := validateLoop_separator (waiting.store inner.value) afterChild shallow
          rw [storedKind] at separator
          rw [accepts, separator]
          simp only [readItemsAfter]
          cases separatorRead : readSeparator (waiting.store inner.value) afterChild with
          | error failure => exact fun _ => Bool.and_false _
          | ok result =>
            obtain ⟨kind, rest⟩ := result
            cases kind with
            | close =>
              show _ = _
              rw [Nested.enclose, Nat.add_right_comm, Nat.add_assoc]
            | comma =>
              have items := ih (waiting.store inner.value) stack rest
                (readSeparator_comma separatorRead) shallow
              rw [storedKind] at items
              dsimp only
              cases itemsRead : readContainer parsesDouble parserRoom fuel (stack.length + 1)
                (waiting.store inner.value) rest with
              | error failure =>
                rw [itemsRead] at items
                intro invalid
                rw [items invalid, Bool.and_false]
              | ok result =>
                obtain ⟨nested, afterItems⟩ := result
                rw [itemsRead] at items
                have acceptsItems : validateLoop (itemState container.kind :: stack) rest = _ := items
                show _ = _
                rw [acceptsItems, ← Bool.and_assoc, ← Bool.decide_and, Nested.join]
                congr 2
                simp only [eq_iff_iff]
                omega

end Walk

section Document

variable (parsesDouble : Bytes → Bool)

/-- On a whole text the validator accepts what the parser reads, up to the nesting of the text. -/
theorem validateDocument_reader (text : Bytes) :
    match readDocument parsesDouble parserRoom text with
    | .ok nested => validateDocument text = decide (nested.nesting ≤ jsonMaxNestingDepth)
    | .error failure => failure.status = .invalid → validateDocument text = false := by
  have start : validateDocument text = validateLoop [.value] (skipWhitespace text) :=
    (validateLoop_value_skip [] text).symm
  have walk : Walks 0 [] (validateDocument text)
      (readValue parsesDouble parserRoom (text.length + 1) text) := by
    have value := validateLoop_value parsesDouble (skipWhitespace_idem text) stopsAtDigit_nil
      (Nat.zero_le _)
    rw [start, readValue]
    cases valueRead : parseNextValue parsesDouble (skipWhitespace text) with
    | error failure =>
      rw [valueRead] at value
      exact value
    | ok result =>
      obtain ⟨parsed, rest⟩ := result
      rw [valueRead] at value
      cases parsed with
      | complete found => exact value
      | opens kind =>
        have emptyKind : (Container.empty kind).kind = kind := by cases kind <;> rfl
        have inner := validateLoop_container parsesDouble (text.length + 1)
          (Container.empty kind) [] rest (parseNextValue_opens valueRead) (by decide)
        rw [emptyKind] at inner
        rw [value (by decide)]
        exact inner
  simp only [readDocument]
  cases read : readValue parsesDouble parserRoom (text.length + 1) text with
  | error failure =>
    rw [read] at walk
    exact walk
  | ok result =>
    obtain ⟨nested, rest⟩ := result
    rw [read] at walk
    have accepts : validateDocument text =
      (decide (0 + nested.nesting ≤ jsonMaxNestingDepth) && validateLoop [] rest) := walk
    rw [validateLoop, Nat.zero_add] at accepts
    simp only [finishDocument]
    cases skipped : skipWhitespace rest with
    | nil =>
      rw [skipped] at accepts
      show validateDocument text = _
      simpa using accepts
    | cons byte after =>
      rw [skipped] at accepts
      intro _
      simpa using accepts

/-- Parser and validator agree on a text: what parses is valid, and what is valid never fails to
parse as invalid. -/
def ParserValidatorAgree (text : Bytes) : Prop :=
  (∀ value, parseDocument parsesDouble text = .ok value → validateDocument text = true) ∧
    (validateDocument text = true →
      ∀ failure, parseDocument parsesDouble text = .error failure → failure.status ≠ .invalid)

/-- A text whose containers with content nest at most 100 deep nests at most 100 deep with its empty
containers too. -/
def EmptyContainersFit (text : Bytes) : Prop :=
  ∀ nested, readDocument parsesDouble noLimit text = .ok nested →
    nested.openNesting ≤ jsonMaxNestingDepth → nested.nesting ≤ jsonMaxNestingDepth

/-- The parser counts only containers with content, the validator counts all of them. They agree
exactly on the texts where that makes no difference. -/
theorem parserValidatorAgree_iff (text : Bytes) :
    ParserValidatorAgree parsesDouble text ↔ EmptyContainersFit parsesDouble text := by
  have validates := validateDocument_reader parsesDouble text
  have parser := parseDocument_eq_reader parsesDouble text
  constructor
  · rintro ⟨accepts, _⟩ nested read bound
    have limited := (readDocument_limit text nested).2 ⟨read, bound⟩
    rw [limited] at validates parser
    have valid := accepts nested.value parser
    rw [show validateDocument text = _ from validates] at valid
    exact of_decide_eq_true valid
  · intro fits
    cases read : readDocument parsesDouble parserRoom text with
    | ok nested =>
      obtain ⟨free, bound⟩ := (readDocument_limit text nested).1 read
      rw [read] at validates parser
      have valid : validateDocument text = true := by
        rw [show validateDocument text = _ from validates]
        exact decide_eq_true (fits nested free bound)
      refine ⟨fun _ _ => valid, ?_⟩
      intro _ failure failed
      rw [show parseDocument parsesDouble text = .ok nested.value from parser] at failed
      cases failed
    | error failure =>
      rw [read] at validates parser
      have failed : parseDocument parsesDouble text = .error failure := parser
      refine ⟨?_, ?_⟩
      · intro value parsed
        rw [failed] at parsed
        cases parsed
      · intro valid other otherFailed invalid
        rw [failed] at otherFailed
        cases otherFailed
        rw [validates invalid] at valid
        cases valid

/-- 100 nested arrays around an empty one. -/
def emptyArrayAtLimit : Bytes :=
  List.replicate 101 0x5b ++ List.replicate 101 0x5d

end Document

/-- The parser reads an empty array inside 100 others, and the validator rejects it. -/
theorem emptyArrayAtLimit_parsed_not_valid :
    (parseDocument (fun _ => true) emptyArrayAtLimit).isOk = true ∧
      validateDocument emptyArrayAtLimit = false ∧
      ¬ParserValidatorAgree (fun _ => true) emptyArrayAtLimit := by
  have parsed : (parseDocument (fun _ => true) emptyArrayAtLimit).isOk = true := by
    decide +kernel
  have rejected : validateDocument emptyArrayAtLimit = false := by
    decide +kernel
  refine ⟨parsed, rejected, ?_⟩
  rintro ⟨accepts, _⟩
  cases read : parseDocument (fun _ => true) emptyArrayAtLimit with
  | error failure =>
    rw [read] at parsed
    cases parsed
  | ok value =>
    rw [accepts value read] at rejected
    cases rejected

end MyLite.Json
