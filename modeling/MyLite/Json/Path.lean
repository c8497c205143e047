import MyLite.Json.Lexical

/-! The two path parsers of `mylite_json_path.c`. Extraction follows each leg as it is read,
mutation collects the legs first. They read the same legs but for the array indexes. -/
namespace MyLite.Json

inductive PathLeg where
  | member (name : Bytes)
  | array (index : Nat)
  deriving DecidableEq, Repr

def pathIdentifierStartByte (byte : UInt8) : Bool :=
  (0x41 ≤ byte && byte ≤ 0x5a) || (0x61 ≤ byte && byte ≤ 0x7a) || byte == 0x5f || byte == 0x24

def pathIdentifierByte (byte : UInt8) : Bool :=
  pathIdentifierStartByte byte || (0x30 ≤ byte && byte ≤ 0x39)

def pathTextIsAscii (text : Bytes) : Bool :=
  text.all fun byte => byte != 0 && byte.toNat ≤ jsonAsciiByteLimit

/-- A member name in quotes. -/
def parsePathQuotedMember (input : Bytes) : Reading Bytes :=
  match parseString input with
  | .error failure => .error failure
  | .ok (member, rest) =>
    if pathTextIsAscii member then .ok (member, rest) else .error (parserUnsupported input)

/-- The member name after a dot, the same in both parsers. -/
def parsePathMember (input : Bytes) : Reading Bytes :=
  match input with
  | [] => .error (parserInvalid [])
  | byte :: rest =>
    if byte = 0x22 then parsePathQuotedMember input
    else if pathIdentifierStartByte byte then
      .ok (byte :: rest.takeWhile pathIdentifierByte, rest.dropWhile pathIdentifierByte)
    else if byte = 0x2a then .error (parserUnsupported input)
    else .error (parserInvalid input)

def sizeMax : Nat := 0xffffffffffffffff

def jsonDecimalBase : Nat := 10

/-- The digits of an index; `start` is the text from its first digit on. -/
def parseIndexDigits (start : Bytes) : Nat → Bytes → Reading Nat
  | value, [] => .ok (value, [])
  | value, byte :: rest =>
    if isDecimalDigit byte then
      if value > (sizeMax - (byte.toNat - 0x30)) / jsonDecimalBase then
        .error (parserUnsupported start)
      else parseIndexDigits start (value * jsonDecimalBase + (byte.toNat - 0x30)) rest
    else .ok (value, byte :: rest)

/-- `*` and the keyword `last` are not supported as an index. -/
def isIndexKeyword (byte : UInt8) : Bool :=
  byte == 0x2a || byte == 0x6c || byte == 0x4c

/-- The index parser of extraction. -/
def parsePathArrayIndex (input : Bytes) : Reading Nat :=
  match input with
  | [] => .error (parserInvalid [])
  | byte :: rest =>
    if isIndexKeyword byte then .error (parserUnsupported input)
    else if !isDecimalDigit byte then .error (parserInvalid input)
    else if byte = 0x30 then
      if (rest.head?).any isDecimalDigit then .error (parserInvalid rest) else .ok (0, rest)
    else parseIndexDigits input 0 input

/-- The index parser of mutation. -/
def parseJsonSetPathArrayIndex (input : Bytes) : Reading Nat :=
  match input with
  | [] => .error (parserInvalid [])
  | byte :: _ =>
    if isIndexKeyword byte then .error (parserUnsupported input)
    else
      match parseIndexDigits input 0 input with
      | .error failure => .error failure
      | .ok (value, rest) =>
        if isDecimalDigit byte then .ok (value, rest) else .error (parserInvalid rest)

inductive PathParser where
  | extraction
  | mutation
  deriving DecidableEq, Repr

def PathParser.parseIndex : PathParser → Bytes → Reading Nat
  | .extraction => parsePathArrayIndex
  | .mutation => parseJsonSetPathArrayIndex

/-- The index after an opening bracket, with the bracket that closes it. -/
def parsePathArray (parser : PathParser) (input : Bytes) : Reading Nat :=
  match parser.parseIndex input with
  | .error failure => .error failure
  | .ok (index, rest) =>
    match parserMatch 0x5d rest with
    | some rest => .ok (index, rest)
    | none => .error (parserInvalid rest)

def parsePathLeg (parser : PathParser) (input : Bytes) : Reading PathLeg :=
  match input with
  | [] => .error (parserInvalid [])
  | byte :: rest =>
    if byte = 0x2e then (parsePathMember rest).map fun (name, rest) => (.member name, rest)
    else if byte = 0x5b then
      (parsePathArray parser rest).map fun (index, rest) => (.array index, rest)
    else if byte = 0x2a then .error (parserUnsupported input)
    else .error (parserInvalid input)

theorem parsePathMember_length {input name rest : Bytes}
    (parsed : parsePathMember input = .ok (name, rest)) : rest.length < input.length := by
  cases input with
  | nil => cases parsed
  | cons byte tail =>
    simp only [parsePathMember, parsePathQuotedMember] at parsed
    split at parsed
    · split at parsed
      · cases parsed
      · rename_i string
        split at parsed
        · cases parsed
          exact parseString_length string
        · cases parsed
    · split at parsed
      · cases parsed
        exact Nat.lt_succ_of_le (List.dropWhile_sublist _).length_le
      · split at parsed <;> cases parsed

theorem parseIndexDigits_length {start input rest : Bytes} {value index : Nat}
    (parsed : parseIndexDigits start value input = .ok (index, rest)) :
    rest.length ≤ input.length := by
  fun_induction parseIndexDigits start value input with
  | case1 =>
    cases parsed
    exact Nat.le_refl _
  | case2 => cases parsed
  | case3 value byte tail _ _ ih => exact Nat.le_succ_of_le (ih parsed)
  | case4 =>
    cases parsed
    exact Nat.le_refl _

theorem parseIndex_length {parser : PathParser} {input rest : Bytes} {index : Nat}
    (parsed : parser.parseIndex input = .ok (index, rest)) : rest.length ≤ input.length := by
  cases input with
  | nil => cases parser <;> cases parsed
  | cons byte tail =>
    cases parser with
    | extraction =>
      simp only [PathParser.parseIndex, parsePathArrayIndex] at parsed
      repeat' split at parsed
      · cases parsed
      · cases parsed
      · cases parsed
      · cases parsed
        exact Nat.le_succ _
      · exact parseIndexDigits_length parsed
    | mutation =>
      simp only [PathParser.parseIndex, parseJsonSetPathArrayIndex] at parsed
      repeat' split at parsed
      · cases parsed
      · cases parsed
      · cases parsed
        exact parseIndexDigits_length (by assumption)
      · cases parsed

theorem parsePathLeg_length {parser : PathParser} {input rest : Bytes} {leg : PathLeg}
    (parsed : parsePathLeg parser input = .ok (leg, rest)) : rest.length < input.length := by
  cases input with
  | nil => cases parsed
  | cons byte tail =>
    simp only [parsePathLeg] at parsed
    split at parsed
    · obtain ⟨⟨name, after⟩, member, same⟩ := map_ok parsed
      cases same
      exact Nat.lt_succ_of_lt (parsePathMember_length member)
    · split at parsed
      · obtain ⟨⟨index, after⟩, array, same⟩ := map_ok parsed
        cases same
        simp only [parsePathArray] at array
        split at array
        · cases array
        · rename_i digits
          have shorter := parseIndex_length digits
          split at array
          · rename_i closes
            cases array
            rw [parserMatch_eq_some.1 closes] at shorter
            exact Nat.lt_succ_of_lt shorter
          · cases array
      · split at parsed <;> cases parsed

/-- The loop over the legs, with what each leg does to the state. -/
def walkPath {α : Type} (parser : PathParser) (act : α → PathLeg → α) (state : α) (input : Bytes) :
    Except Failure α :=
  if input = [] then .ok state
  else
    match _leg : parsePathLeg parser input with
    | .error failure => .error failure
    | .ok (leg, rest) => walkPath parser act (act state leg) rest
termination_by input.length
decreasing_by exact parsePathLeg_length (by assumption)

/-- A path from its `$` on. -/
def walkWholePath {α : Type} (parser : PathParser) (act : α → PathLeg → α) (state : α)
    (text : Bytes) : Except Failure α :=
  match parserMatch 0x24 text with
  | some input => walkPath parser act state input
  | none => .error (parserInvalid text)

/-- `object_member_value` and `array_index_value`. -/
def Value.child : Value → PathLeg → Option Value
  | .object members, .member name => objectMemberValue members name
  | .array values, .array index => values[index]?
  | _, _ => none

/-- A leg from a value, or from none when an earlier leg matched nothing. -/
def followLeg (value : Option Value) (leg : PathLeg) : Option Value :=
  value.bind fun value => value.child leg

/-- `mylite_json_internal_extract_path_value`. Without a root it validates the path. -/
def extractPathValue (root : Option Value) (path : Bytes) : Except Failure (Option Value) :=
  walkWholePath .extraction followLeg root path

def appendLeg (legs : List PathLeg) (leg : PathLeg) : List PathLeg :=
  legs ++ [leg]

/-- `mylite_json_internal_parse_set_path`. -/
def parseSetPath (path : Bytes) : Except Failure (List PathLeg) :=
  walkWholePath .mutation appendLeg [] path

end MyLite.Json
