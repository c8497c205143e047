import MyLite.Json.Lexical

/-! The document parser of `mylite_json_parse.c`, with its explicit stack of open containers.

A frame of the C stack points at a container that is already stored in its parent and still
empty; here the parent waits for the finished container instead. Allocation never fails. -/
namespace MyLite.Json

def jsonMaxNestingDepth : Nat := 100

inductive ContainerKind where
  | object
  | array
  deriving DecidableEq, Repr

/-- An open container, with what has been read into it. -/
inductive Container where
  | object (members : List Member)
  | array (values : List Value)

def Container.empty : ContainerKind → Container
  | .object => .object []
  | .array => .array []

def Container.closing : Container → UInt8
  | .object _ => 0x7d
  | .array _ => 0x5d

/-- `close_completed_container`. -/
def Container.close : Container → Value
  | .object members => .object (sortObjectMembers members)
  | .array values => .array values

/-- A container that waits for the value to store next. -/
inductive Waiting where
  | object (members : List Member) (key : Bytes)
  | array (values : List Value)

def Waiting.store : Waiting → Value → Container
  | .object members key, value => .object (objectAppendMember members key value)
  | .array values, value => .array (values ++ [value])

/-- What starts at a value position. A container that does not close at once opens. -/
inductive ParsedValue where
  | complete (value : Value)
  | opens (kind : ContainerKind)

section Parse

variable (parsesDouble : Bytes → Bool)

/-- After the opening bracket of a container. -/
def parseOpening (kind : ContainerKind) (rest : Bytes) : ParsedValue × Bytes :=
  match parserMatch (Container.empty kind).closing (skipWhitespace rest) with
  | some after => (.complete (Container.empty kind).close, after)
  | none => (.opens kind, skipWhitespace rest)

def parseNextValue (input : Bytes) : Reading ParsedValue :=
  match input with
  | [] => .error (parserInvalid [])
  | byte :: rest =>
    if byte = 0x7b then .ok (parseOpening .object rest)
    else if byte = 0x5b then .ok (parseOpening .array rest)
    else if byte = 0x22 then
      (parseString input).map fun (text, rest) => (.complete (.string text), rest)
    else if byte = 0x2d ∨ isDecimalDigit byte then
      (parseNumber parsesDouble input).map fun (value, rest) => (.complete value, rest)
    else if byte = 0x6e then
      (parseLiteral nullLiteral .null input).map fun (value, rest) => (.complete value, rest)
    else if byte = 0x74 then
      (parseLiteral trueLiteral (.bool true) input).map fun (value, rest) => (.complete value, rest)
    else if byte = 0x66 then
      (parseLiteral falseLiteral (.bool false) input).map fun (value, rest) =>
        (.complete value, rest)
    else .error (parserInvalid input)

/-- The name of an object member, up to the position of its value. -/
def parseMemberName (input : Bytes) : Reading Bytes :=
  if input.head? ≠ some 0x22 then
    .error (parserInvalidWithDetail input .missingObjectMemberName)
  else
    match parseString input with
    | .error failure => .error failure
    | .ok (key, rest) =>
      match parserMatch 0x3a (skipWhitespace rest) with
      | some rest => .ok (key, skipWhitespace rest)
      | none => .error (parserInvalid (skipWhitespace rest))

/-- The position in a container where the next value goes. -/
def parseNextPosition (container : Container) (input : Bytes) : Reading Waiting :=
  match container with
  | .object members => (parseMemberName input).map fun (key, rest) => (.object members key, rest)
  | .array values => .ok (.array values, input)

/-- `parse_next_object_member` and `parse_next_array_value`, up to storing the value. -/
def parseNextItem (container : Container) (input : Bytes) : Reading (Waiting × ParsedValue) :=
  match parseNextPosition container input with
  | .error failure => .error failure
  | .ok (waiting, rest) =>
    (parseNextValue parsesDouble rest).map fun (parsed, rest) => ((waiting, parsed), rest)

/-- Where the parser stands after a completed value. -/
inductive Progress where
  | done (value : Value)
  | next (container : Container) (parents : List Waiting) (input : Bytes)

/-- `finish_completed_value` with no open container. -/
def finishDocument (value : Value) (input : Bytes) : Except Failure Value :=
  match skipWhitespace input with
  | [] => .ok value
  | rest => .error (parserInvalid rest)

/-- `finish_completed_value` with open containers. -/
def finishCompletedValue (container : Container) (parents : List Waiting) (input : Bytes) :
    Except Failure Progress :=
  match skipWhitespace input with
  | [] => .error (parserInvalid [])
  | byte :: rest =>
    if byte = container.closing then
      match parents with
      | [] => (finishDocument container.close rest).map .done
      | parent :: parents => finishCompletedValue (parent.store container.close) parents rest
    else if byte = 0x2c then .ok (.next container parents (skipWhitespace rest))
    else .error (parserInvalid (byte :: rest))
termination_by structural parents

def exceededDepth (position : Bytes) : Failure :=
  { parserUnsupported position with exceededDepth := true }

theorem skipWhitespace_length (input : Bytes) : (skipWhitespace input).length ≤ input.length :=
  (List.dropWhile_sublist _).length_le

theorem parseOpening_length (kind : ContainerKind) (rest : Bytes) :
    (parseOpening kind rest).2.length ≤ rest.length := by
  have shorter := skipWhitespace_length rest
  simp only [parseOpening]
  split
  · rename_i after closes
    rw [parserMatch_eq_some.1 closes, List.length_cons] at shorter
    exact Nat.le_of_succ_le shorter
  · exact shorter

theorem parseLiteral_length {literal input rest : Bytes} {value result : Value}
    (nonempty : 0 < literal.length)
    (read : parseLiteral literal value input = .ok (result, rest)) :
    rest.length < input.length := by
  simp only [parseLiteral] at read
  split at read
  · rename_i isPrefix
    cases read
    have bound := (List.isPrefixOf_iff_prefix.1 isPrefix).length_le
    rw [List.length_drop]
    omega
  · cases read

theorem parseMemberName_length {input key rest : Bytes}
    (read : parseMemberName input = .ok (key, rest)) : rest.length < input.length := by
  simp only [parseMemberName] at read
  split at read
  · cases read
  · split at read
    · cases read
    · rename_i name after string
      have shorter := parseString_length string
      have skipped := skipWhitespace_length after
      split at read
      · rename_i afterColon colon
        cases read
        rw [parserMatch_eq_some.1 colon, List.length_cons] at skipped
        have skippedAgain := skipWhitespace_length afterColon
        omega
      · cases read

theorem parseNextValue_length {input rest : Bytes} {parsed : ParsedValue}
    (read : parseNextValue parsesDouble input = .ok (parsed, rest)) :
    rest.length < input.length := by
  cases input with
  | nil => cases read
  | cons byte tail =>
    have opening (kind : ContainerKind)
        (opened : (Except.ok (parseOpening kind tail) : Reading ParsedValue) = .ok (parsed, rest)) :
        rest.length < (byte :: tail).length := by
      have shorter := parseOpening_length kind tail
      rw [Except.ok.inj opened] at shorter
      exact Nat.lt_succ_of_le shorter
    simp only [parseNextValue] at read
    split at read
    · exact opening .object read
    · split at read
      · exact opening .array read
      · split at read
        · obtain ⟨⟨text, after⟩, string, same⟩ := map_ok read
          cases same
          exact parseString_length string
        · split at read
          · obtain ⟨⟨value, after⟩, number, same⟩ := map_ok read
            cases same
            exact parseNumber_length number
          · repeat' split at read
            all_goals first
              | cases read
              | obtain ⟨⟨value, after⟩, literal, same⟩ := map_ok read
                cases same
                exact parseLiteral_length (by decide) literal

theorem parseNextItem_length {container : Container} {input rest : Bytes}
    {item : Waiting × ParsedValue}
    (read : parseNextItem parsesDouble container input = .ok (item, rest)) :
    rest.length < input.length := by
  simp only [parseNextItem] at read
  split at read
  · cases read
  · rename_i waiting afterPosition position
    obtain ⟨⟨parsed, after⟩, value, same⟩ := map_ok read
    cases same
    have valueShorter := parseNextValue_length parsesDouble value
    cases container with
    | object members =>
      obtain ⟨⟨key, after'⟩, name, same⟩ := map_ok position
      cases same
      exact Nat.lt_trans valueShorter (parseMemberName_length name)
    | array values =>
      cases position
      exact valueShorter

theorem finishCompletedValue_length {container next : Container} {parents after : List Waiting}
    {input rest : Bytes}
    (finished : finishCompletedValue container parents input = .ok (.next next after rest)) :
    rest.length < input.length := by
  induction parents generalizing container input with
  | nil =>
    have shorter := skipWhitespace_length input
    rw [finishCompletedValue] at finished
    split at finished
    · cases finished
    · rename_i byte tail skipped
      rw [skipped, List.length_cons] at shorter
      split at finished
      · obtain ⟨value, _, same⟩ := map_ok finished
        cases same
      · split at finished
        · cases finished
          exact Nat.lt_of_le_of_lt (skipWhitespace_length tail) shorter
        · cases finished
  | cons parent parents ih =>
    have shorter := skipWhitespace_length input
    rw [finishCompletedValue] at finished
    split at finished
    · cases finished
    · rename_i byte tail skipped
      rw [skipped, List.length_cons] at shorter
      split at finished
      · exact Nat.lt_trans (ih finished) shorter
      · split at finished
        · cases finished
          exact Nat.lt_of_le_of_lt (skipWhitespace_length tail) shorter
        · cases finished

/-- The loop of `parse_document`. -/
def parseLoop (container : Container) (parents : List Waiting) (input : Bytes) :
    Except Failure Value :=
  match _item : parseNextItem parsesDouble container input with
  | .error failure => .error failure
  | .ok ((waiting, .opens kind), rest) =>
    if parents.length + 1 ≥ jsonMaxNestingDepth then .error (exceededDepth rest)
    else parseLoop (Container.empty kind) (waiting :: parents) rest
  | .ok ((waiting, .complete value), rest) =>
    match _finished : finishCompletedValue (waiting.store value) parents rest with
    | .error failure => .error failure
    | .ok (.done value) => .ok value
    | .ok (.next container parents rest) => parseLoop container parents rest
termination_by input.length
decreasing_by
  · exact parseNextItem_length parsesDouble (by assumption)
  · exact Nat.lt_trans (finishCompletedValue_length (by assumption))
      (parseNextItem_length parsesDouble (by assumption))

def parseDocument (text : Bytes) : Except Failure Value :=
  match parseNextValue parsesDouble (skipWhitespace text) with
  | .error failure => .error failure
  | .ok (.opens kind, rest) => parseLoop parsesDouble (Container.empty kind) [] rest
  | .ok (.complete value, rest) => finishDocument value rest

end Parse

end MyLite.Json
