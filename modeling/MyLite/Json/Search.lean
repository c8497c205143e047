import MyLite.Json.Path
import MyLite.Json.SqlValue
import MyLite.Runtime.LikeMatch

/-! `JSON_SEARCH`, from `mylite_json_search.c`: a walk over the document that spells the path it is
at and collects the paths of the strings that match. -/
namespace MyLite.Json

open Like (jsonSearchPatternMatches)

inductive JsonSearchMode where
  | one
  | all
  deriving DecidableEq, Repr

def jsonSearchHasMatch (paths : List Bytes) (path : Bytes) : Bool :=
  paths.any fun candidate => candidate == path

def jsonSearchAppendMatch (paths : List Bytes) (path : Bytes) : List Bytes :=
  if jsonSearchHasMatch paths path then paths else paths ++ [path]

/-- A `size_t` as `snprintf` spells it. -/
def sizeText (size : Nat) : Bytes :=
  (Decimal.digits size).map digitByte

def jsonSearchAppendArrayLeg (path : Bytes) (index : Nat) : Bytes :=
  path ++ (0x5b :: sizeText index ++ [0x5d])

def jsonSearchIdentifierStartByte (byte : UInt8) : Bool :=
  (0x41 ≤ byte && byte ≤ 0x5a) || (0x61 ≤ byte && byte ≤ 0x7a) || byte == 0x5f || byte == 0x24

def jsonSearchIdentifierByte (byte : UInt8) : Bool :=
  jsonSearchIdentifierStartByte byte || (0x30 ≤ byte && byte ≤ 0x39)

def jsonSearchMemberCanUseIdentifier : Bytes → Bool
  | [] => false
  | byte :: rest => jsonSearchIdentifierStartByte byte && rest.all jsonSearchIdentifierByte

def jsonSearchAppendMemberLeg (path member : Bytes) : Bytes :=
  path ++ 0x2e :: (if jsonSearchMemberCanUseIdentifier member then member else emitString member)

section Search

variable (pattern : Bytes) (escapeEnabled : Bool) (escape : UInt8) (mode : JsonSearchMode)

mutual

def jsonSearchValue : Value → Bytes → List Bytes → List Bytes
  | .string text, path, paths =>
    if jsonSearchPatternMatches pattern text escapeEnabled escape then
      jsonSearchAppendMatch paths path
    else paths
  | .array values, path, paths => jsonSearchArrayValue 0 values path paths
  | .object members, path, paths => jsonSearchObjectValue members path paths
  | .null, _, paths => paths
  | .bool _, _, paths => paths
  | .number _ _, _, paths => paths

def jsonSearchArrayValue : Nat → List Value → Bytes → List Bytes → List Bytes
  | _, [], _, paths => paths
  | index, value :: rest, path, paths =>
    let after := jsonSearchValue value (jsonSearchAppendArrayLeg path index) paths
    if mode = .one ∧ after ≠ [] then after
    else jsonSearchArrayValue (index + 1) rest path after

def jsonSearchObjectValue : List (Bytes × Value) → Bytes → List Bytes → List Bytes
  | [], _, paths => paths
  | (key, value) :: rest, path, paths =>
    let after := jsonSearchValue value (jsonSearchAppendMemberLeg path key) paths
    if mode = .one ∧ after ≠ [] then after
    else jsonSearchObjectValue rest path after

end

/-- The search below each of the given paths. -/
def jsonSearchPaths (document : Value) :
    List Bytes → List Bytes → Except OperationFailure (List Bytes)
  | [], paths => .ok paths
  | path :: rest, paths =>
    match extractPathValue (some document) path with
    | .error failure => .error (.path failure)
    | .ok none => jsonSearchPaths document rest paths
    | .ok (some value) =>
      let after := jsonSearchValue pattern escapeEnabled escape mode value path paths
      if mode = .one ∧ after ≠ [] then .ok after
      else jsonSearchPaths document rest after

/-- The paths found in a document, below the given paths or from its root on. -/
def jsonSearchMatches (document : Value) (paths : List Bytes) :
    Except OperationFailure (List Bytes) :=
  if paths = [] then .ok (jsonSearchValue pattern escapeEnabled escape mode document [0x24] [])
  else jsonSearchPaths pattern escapeEnabled escape mode document paths []

/-- SQL `NULL` is `none`. -/
def jsonSearchFormatResult : List Bytes → Option Bytes
  | [] => none
  | [path] => some (emitString path)
  | path :: paths =>
    some (0x5b :: emitString path ++ paths.flatMap (fun path => [0x2c, 0x20] ++ emitString path) ++
      [0x5d])

/-- `mylite_json_search`. -/
def jsonSearch (parsesDouble : Bytes → Bool) (text : Bytes) (paths : List Bytes) :
    Except OperationFailure (Option Bytes) :=
  match parseDocument parsesDouble text with
  | .error failure => .error (.document failure)
  | .ok document =>
    (jsonSearchMatches pattern escapeEnabled escape mode document paths).map jsonSearchFormatResult

end Search

end MyLite.Json
