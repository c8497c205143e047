import MyLite.Json.Parse

/-! The validator of `mylite_json_validate.c`: a stack of states and no document value. -/
namespace MyLite.Json

/-! Scalars: the bytes after one, or `none`. -/

def isHexDigit (byte : UInt8) : Bool :=
  (0x30 ≤ byte && byte ≤ 0x39) || (0x41 ≤ byte && byte ≤ 0x46) || (0x61 ≤ byte && byte ≤ 0x66)

def validateHexDigits : Nat → Bytes → Option Bytes
  | 0, input => some input
  | _ + 1, [] => none
  | count + 1, byte :: rest => if isHexDigit byte then validateHexDigits count rest else none

def isSimpleEscape (byte : UInt8) : Bool :=
  byte == 0x22 || byte == 0x5c || byte == 0x2f || byte == 0x62 || byte == 0x66 || byte == 0x6e ||
    byte == 0x72 || byte == 0x74

def validateStringEscape : Bytes → Option Bytes
  | [] => none
  | byte :: rest =>
    if isSimpleEscape byte then some rest
    else if byte = 0x75 then validateHexDigits 4 rest
    else none

theorem validateHexDigits_length {count : Nat} {input rest : Bytes}
    (valid : validateHexDigits count input = some rest) : rest.length ≤ input.length := by
  fun_induction validateHexDigits count input with
  | case1 input =>
    cases valid
    exact Nat.le_refl _
  | case2 => cases valid
  | case3 count byte input _ ih => exact Nat.le_succ_of_le (ih valid)
  | case4 => cases valid

theorem validateStringEscape_length {input rest : Bytes}
    (valid : validateStringEscape input = some rest) : rest.length < input.length := by
  cases input with
  | nil => cases valid
  | cons byte tail =>
    simp only [validateStringEscape] at valid
    split at valid
    · cases valid
      exact Nat.lt_succ_self _
    · split at valid
      · exact Nat.lt_succ_of_le (validateHexDigits_length valid)
      · cases valid

def validateStringBody : Bytes → Option Bytes
  | [] => none
  | byte :: rest =>
    if byte = 0x22 then some rest
    else if byte = 0x5c then
      match _escape : validateStringEscape rest with
      | none => none
      | some after => validateStringBody after
    else if byte < jsonControlByteLimit then none
    else validateStringBody rest
termination_by input => input.length
decreasing_by
  · exact Nat.lt_succ_of_lt (validateStringEscape_length (by assumption))
  · exact Nat.lt_succ_self _

theorem validateStringBody_escape (rest : Bytes) :
    validateStringBody (0x5c :: rest) = (validateStringEscape rest).bind validateStringBody := by
  rw [validateStringBody]
  simp only [if_neg (by decide : ¬(0x5c : UInt8) = 0x22), if_true]
  split
  · rename_i escape
    rw [escape]
    rfl
  · rename_i escape
    rw [escape]
    rfl

def validateString (input : Bytes) : Option Bytes :=
  (parserMatch 0x22 input).bind validateStringBody

def validateIntegerDigits : Bytes → Option Bytes
  | [] => none
  | byte :: rest =>
    if byte = 0x30 then some rest
    else if byte < 0x31 ∨ 0x39 < byte then none
    else some (rest.dropWhile isDecimalDigit)

/-- The digits that a fraction or an exponent must have. -/
def validateDigits (input : Bytes) : Option Bytes :=
  if (input.head?).any isDecimalDigit then some (input.dropWhile isDecimalDigit) else none

def validateFraction (input : Bytes) : Option Bytes :=
  match parserMatch 0x2e input with
  | some rest => validateDigits rest
  | none => some input

def validateExponent : Bytes → Option Bytes
  | [] => some []
  | mark :: rest =>
    if isExponentMark mark then
      match rest with
      | [] => none
      | byte :: after => if isSign byte then validateDigits after else validateDigits rest
    else some (mark :: rest)

def validateNumber (input : Bytes) : Option Bytes :=
  match validateIntegerDigits ((parserMatch 0x2d input).getD input) with
  | none => none
  | some afterInteger =>
    match validateFraction afterInteger with
    | none => none
    | some afterFraction => validateExponent afterFraction

def validateLiteralToken (literal input : Bytes) : Option Bytes :=
  if literal.isPrefixOf input then some (input.drop literal.length) else none

/-! The states. -/

inductive ValidateState where
  | value
  | objectKeyOrEnd
  | objectKeyRequired
  | objectColon
  | objectCommaOrEnd
  | arrayValueOrEnd
  | arrayValueRequired
  | arrayCommaOrEnd
  deriving DecidableEq, Repr

abbrev ValidateStack := List ValidateState

def validateStackPush (stack : ValidateStack) (state : ValidateState) : Option ValidateStack :=
  if stack.length ≥ jsonMaxNestingDepth + 2 then none else some (state :: stack)

def validateContainerDepthAvailable (stack : ValidateStack) : Bool :=
  stack.length < jsonMaxNestingDepth

/-- A step leaves the stack and the bytes still to read. -/
abbrev ValidateStep := Option (ValidateStack × Bytes)

def validateOpen (stack : ValidateStack) (state : ValidateState) (rest : Bytes) : ValidateStep :=
  if !validateContainerDepthAvailable stack then none
  else (validateStackPush stack state).map (·, rest)

def validateValueState (stack : ValidateStack) (input : Bytes) : ValidateStep :=
  match skipWhitespace input with
  | [] => none
  | byte :: rest =>
    if byte = 0x7b then validateOpen stack .objectKeyOrEnd rest
    else if byte = 0x5b then validateOpen stack .arrayValueOrEnd rest
    else if byte = 0x22 then (validateString (byte :: rest)).map (stack, ·)
    else if byte = 0x74 then (validateLiteralToken trueLiteral (byte :: rest)).map (stack, ·)
    else if byte = 0x66 then (validateLiteralToken falseLiteral (byte :: rest)).map (stack, ·)
    else if byte = 0x6e then (validateLiteralToken nullLiteral (byte :: rest)).map (stack, ·)
    else if byte = 0x2d ∨ isDecimalDigit byte then (validateNumber (byte :: rest)).map (stack, ·)
    else none

def validateObjectKeyRequiredState (stack : ValidateStack) (input : Bytes) : ValidateStep :=
  match validateString (skipWhitespace input) with
  | none => none
  | some rest => (validateStackPush stack .objectColon).map (·, rest)

/-- Pushes the state after a value and, above it, the value. -/
def validatePushValue (stack : ValidateStack) (after : ValidateState) (input : Bytes) :
    ValidateStep :=
  match validateStackPush stack after with
  | none => none
  | some stack => (validateStackPush stack .value).map (·, input)

/-- A closing bracket ends the container, a comma asks for what `required` reads. -/
def validateCommaOrEndState (stack : ValidateStack) (closing : UInt8) (required : ValidateState)
    (input : Bytes) : ValidateStep :=
  match skipWhitespace input with
  | [] => none
  | byte :: rest =>
    if byte = closing then some (stack, rest)
    else if byte = 0x2c then (validateStackPush stack required).map (·, rest)
    else none

def validateState (stack : ValidateStack) (input : Bytes) : ValidateState → ValidateStep
  | .value => validateValueState stack input
  | .objectKeyOrEnd =>
    match parserMatch 0x7d (skipWhitespace input) with
    | some rest => some (stack, rest)
    | none => validateObjectKeyRequiredState stack (skipWhitespace input)
  | .objectKeyRequired => validateObjectKeyRequiredState stack input
  | .objectColon =>
    match parserMatch 0x3a (skipWhitespace input) with
    | some rest => validatePushValue stack .objectCommaOrEnd rest
    | none => none
  | .objectCommaOrEnd => validateCommaOrEndState stack 0x7d .objectKeyRequired input
  | .arrayValueOrEnd =>
    match parserMatch 0x5d (skipWhitespace input) with
    | some rest => some (stack, rest)
    | none => validatePushValue stack .arrayCommaOrEnd (skipWhitespace input)
  | .arrayValueRequired => validatePushValue stack .arrayCommaOrEnd input
  | .arrayCommaOrEnd => validateCommaOrEndState stack 0x5d .arrayValueRequired input

/-! Every step reads bytes or lowers the weight of the stack. -/

theorem validateStringBody_length {input rest : Bytes}
    (valid : validateStringBody input = some rest) : rest.length < input.length := by
  fun_induction validateStringBody input with
  | case1 => cases valid
  | case2 =>
    cases valid
    exact Nat.lt_succ_self _
  | case3 => cases valid
  | case4 input after escape _ ih =>
    have escapeShorter := validateStringEscape_length escape
    have bodyShorter := ih valid
    simp only [List.length_cons]
    omega
  | case5 => cases valid
  | case6 byte input _ _ _ ih => exact Nat.lt_succ_of_lt (ih valid)

theorem validateString_length {input rest : Bytes} (valid : validateString input = some rest) :
    rest.length < input.length := by
  obtain ⟨body, quote, validBody⟩ := Option.bind_eq_some_iff.1 valid
  rw [parserMatch_eq_some.1 quote]
  exact Nat.lt_succ_of_lt (validateStringBody_length validBody)

theorem dropWhile_length (test : UInt8 → Bool) (input : Bytes) :
    (input.dropWhile test).length ≤ input.length :=
  (List.dropWhile_sublist test).length_le

theorem validateDigits_length {input rest : Bytes} (valid : validateDigits input = some rest) :
    rest.length ≤ input.length := by
  simp only [validateDigits] at valid
  split at valid
  · cases valid
    exact dropWhile_length _ _
  · cases valid

theorem validateNumber_length {input rest : Bytes} (valid : validateNumber input = some rest) :
    rest.length < input.length := by
  have integer {start rest : Bytes} (valid : validateIntegerDigits start = some rest) :
      rest.length < start.length := by
    cases start with
    | nil => cases valid
    | cons byte tail =>
      have shorter := dropWhile_length isDecimalDigit tail
      simp only [validateIntegerDigits] at valid
      split at valid
      · cases valid
        exact Nat.lt_succ_self _
      · split at valid
        · cases valid
        · cases valid
          exact Nat.lt_succ_of_le shorter
  have fraction {start rest : Bytes} (valid : validateFraction start = some rest) :
      rest.length ≤ start.length := by
    simp only [validateFraction] at valid
    split at valid
    · rename_i point
      rw [parserMatch_eq_some.1 point]
      exact Nat.le_succ_of_le (validateDigits_length valid)
    · cases valid
      exact Nat.le_refl _
  have exponent {start rest : Bytes} (valid : validateExponent start = some rest) :
      rest.length ≤ start.length := by
    rw [validateExponent.eq_def] at valid
    split at valid
    · cases valid
      exact Nat.le_refl _
    · split at valid
      · split at valid
        · cases valid
        · split at valid
          · exact Nat.le_succ_of_le (Nat.le_succ_of_le (validateDigits_length valid))
          · exact Nat.le_succ_of_le (validateDigits_length valid)
      · cases valid
        exact Nat.le_refl _
  simp only [validateNumber] at valid
  split at valid
  · cases valid
  · rename_i afterInteger integerPart
    split at valid
    · cases valid
    · rename_i afterFraction fractionPart
      have first := integer integerPart
      have second := fraction fractionPart
      have third := exponent valid
      have signed : ((parserMatch 0x2d input).getD input).length ≤ input.length := by
        cases minus : parserMatch 0x2d input with
        | none => exact Nat.le_refl _
        | some after =>
          rw [parserMatch_eq_some.1 minus]
          exact Nat.le_succ _
      omega

theorem validateLiteralToken_length {literal input rest : Bytes} (nonempty : 0 < literal.length)
    (valid : validateLiteralToken literal input = some rest) : rest.length < input.length := by
  simp only [validateLiteralToken] at valid
  split at valid
  · rename_i isPrefix
    cases valid
    have bound := (List.isPrefixOf_iff_prefix.1 isPrefix).length_le
    rw [List.length_drop]
    omega
  · cases valid

def ValidateState.weight : ValidateState → Nat
  | .arrayValueOrEnd => 3
  | .arrayValueRequired => 3
  | _ => 1

def validateMeasure (stack : ValidateStack) (input : Bytes) : Nat :=
  4 * input.length + stack.foldr (fun state total => state.weight + total) 0

theorem ValidateState.weight_le (state : ValidateState) : state.weight ≤ 3 := by
  cases state <;> decide

theorem ValidateState.weight_pos (state : ValidateState) : 1 ≤ state.weight := by
  cases state <;> decide

/-- A step that reads a byte and pushes at most one state. -/
theorem validateMeasure_push {state pushed : ValidateState} {stack after : ValidateStack}
    {input rest : Bytes} (shorter : rest.length < input.length)
    (push : validateStackPush stack pushed = some after) :
    validateMeasure after rest < validateMeasure (state :: stack) input := by
  simp only [validateStackPush] at push
  split at push
  · cases push
  · cases push
    have light := pushed.weight_le
    simp only [validateMeasure, List.foldr_cons]
    omega

theorem validateMeasure_pop {state : ValidateState} {stack : ValidateStack} {input rest : Bytes}
    (shorter : rest.length < input.length) :
    validateMeasure stack rest < validateMeasure (state :: stack) input := by
  simp only [validateMeasure, List.foldr_cons]
  omega

theorem validateMeasure_pushValue {state commaOrEnd : ValidateState}
    {stack after : ValidateStack} {input start rest : Bytes} (shorter : start.length ≤ input.length)
    (light : commaOrEnd.weight = 1) (room : start.length < input.length ∨ state.weight = 3)
    (push : validatePushValue stack commaOrEnd start = some (after, rest)) :
    validateMeasure after rest < validateMeasure (state :: stack) input := by
  simp only [validatePushValue, validateStackPush] at push
  split at push
  · cases push
  · rename_i pushed
    split at pushed
    · cases pushed
    · cases pushed
      split at push
      · cases push
      · cases push
        have positive := state.weight_pos
        have value : ValidateState.value.weight = 1 := rfl
        simp only [validateMeasure, List.foldr_cons, light, value]
        omega

theorem map_some {α β : Type} {result : Option α} {f : α → β} {value : β}
    (mapped : result.map f = some value) : ∃ source, result = some source ∧ f source = value :=
  Option.map_eq_some_iff.1 mapped

theorem validateValueState_measure {stack after : ValidateStack} {input rest : Bytes}
    (step : validateValueState stack input = some (after, rest)) :
    validateMeasure after rest < validateMeasure (.value :: stack) input := by
  have skipped := skipWhitespace_length input
  simp only [validateValueState] at step
  split at step
  · cases step
  · rename_i byte tail start
    rw [start] at skipped
    have opening (state : ValidateState)
        (opened : validateOpen stack state tail = some (after, rest)) :
        validateMeasure after rest < validateMeasure (.value :: stack) input := by
      simp only [validateOpen] at opened
      split at opened
      · cases opened
      · obtain ⟨pushed, push, same⟩ := map_some opened
        cases same
        exact validateMeasure_push (Nat.lt_of_succ_le skipped) push
    have scalar {result : Option Bytes}
        (shorter : ∀ rest, result = some rest → rest.length < (byte :: tail).length)
        (read : result.map (stack, ·) = some (after, rest)) :
        validateMeasure after rest < validateMeasure (.value :: stack) input := by
      obtain ⟨source, valid, same⟩ := map_some read
      cases same
      exact validateMeasure_pop (Nat.lt_of_lt_of_le (shorter _ valid) skipped)
    split at step
    · exact opening .objectKeyOrEnd step
    · split at step
      · exact opening .arrayValueOrEnd step
      · repeat' split at step
        · exact scalar (fun _ => validateString_length) step
        · exact scalar (fun _ => validateLiteralToken_length (by decide)) step
        · exact scalar (fun _ => validateLiteralToken_length (by decide)) step
        · exact scalar (fun _ => validateLiteralToken_length (by decide)) step
        · exact scalar (fun _ => validateNumber_length) step
        · cases step

theorem validateObjectKeyRequiredState_measure {state : ValidateState}
    {stack after : ValidateStack} {input start rest : Bytes} (shorter : start.length ≤ input.length)
    (step : validateObjectKeyRequiredState stack start = some (after, rest)) :
    validateMeasure after rest < validateMeasure (state :: stack) input := by
  have skipped := skipWhitespace_length start
  simp only [validateObjectKeyRequiredState] at step
  split at step
  · cases step
  · rename_i string
    have stringShorter := validateString_length string
    obtain ⟨pushed, push, same⟩ := map_some step
    cases same
    exact validateMeasure_push (by omega) push

theorem validateCommaOrEndState_measure {state required : ValidateState} {closing : UInt8}
    {stack after : ValidateStack} {input rest : Bytes}
    (step : validateCommaOrEndState stack closing required input = some (after, rest)) :
    validateMeasure after rest < validateMeasure (state :: stack) input := by
  have skipped := skipWhitespace_length input
  simp only [validateCommaOrEndState] at step
  split at step
  · cases step
  · rename_i byte tail start
    rw [start, List.length_cons] at skipped
    split at step
    · cases step
      exact validateMeasure_pop (by omega)
    · split at step
      · obtain ⟨pushed, push, same⟩ := map_some step
        cases same
        exact validateMeasure_push (by omega) push
      · cases step

theorem validateState_measure {state : ValidateState} {stack after : ValidateStack}
    {input rest : Bytes} (step : validateState stack input state = some (after, rest)) :
    validateMeasure after rest < validateMeasure (state :: stack) input := by
  have skipped := skipWhitespace_length input
  cases state with
  | value => exact validateValueState_measure step
  | objectKeyOrEnd =>
    simp only [validateState] at step
    split at step
    · rename_i start
      cases step
      rw [parserMatch_eq_some.1 start, List.length_cons] at skipped
      exact validateMeasure_pop (by omega)
    · exact validateObjectKeyRequiredState_measure skipped step
  | objectKeyRequired => exact validateObjectKeyRequiredState_measure (Nat.le_refl _) step
  | objectColon =>
    simp only [validateState] at step
    split at step
    · rename_i start
      rw [parserMatch_eq_some.1 start, List.length_cons] at skipped
      exact validateMeasure_pushValue (by omega) rfl (.inl (by omega)) step
    · cases step
  | objectCommaOrEnd => exact validateCommaOrEndState_measure step
  | arrayValueOrEnd =>
    simp only [validateState] at step
    split at step
    · rename_i start
      cases step
      rw [parserMatch_eq_some.1 start, List.length_cons] at skipped
      exact validateMeasure_pop (by omega)
    · exact validateMeasure_pushValue skipped rfl (.inr rfl) step
  | arrayValueRequired => exact validateMeasure_pushValue (Nat.le_refl _) rfl (.inr rfl) step
  | arrayCommaOrEnd => exact validateCommaOrEndState_measure step

/-- The loop of `validate_document`. -/
def validateLoop (stack : ValidateStack) (input : Bytes) : Bool :=
  match stack with
  | [] => (skipWhitespace input).isEmpty
  | state :: stack =>
    match _step : validateState stack input state with
    | none => false
    | some (stack, rest) => validateLoop stack rest
termination_by validateMeasure stack input
decreasing_by exact validateState_measure (by assumption)

def validateDocument (text : Bytes) : Bool :=
  match validateStackPush [] .value with
  | none => false
  | some stack => validateLoop stack text

end MyLite.Json
