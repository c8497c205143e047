import MyLite.Json.Path
import MyLite.Json.SqlValue

/-! The document mutations of `mylite_json_mutation.c`. The C code walks a pointer to the value a
path leads to and writes through it; here the value is put back into the document. -/
namespace MyLite.Json

inductive MutationMode where
  | set
  | replace
  | insert
  | arrayAppend
  | arrayInsert
  | remove
  deriving DecidableEq, Repr

/-- Writes through the pointer to a child that is there. -/
def Value.putChild : Value → PathLeg → Value → Value
  | .object members, .member name, child => .object (objectAppendMember members name child)
  | .array values, .array index, child => .array (values.set index child)
  | value, _, _ => value

/-- The value a leg leads to and the way back. -/
abbrev Descent := Value → PathLeg → Option (Value × (Value → Value))

/-- `object_member_value_mutable` and `array_index_value_mutable`. -/
def descendChild : Descent := fun target leg =>
  (target.child leg).map fun child => (child, target.putChild leg)

def Value.isArray : Value → Bool
  | .array _ => true
  | _ => false

/-- The walk of removal and array append: index 0 of a value that is no array is the value. -/
def descendWrapped : Descent := fun target leg =>
  match leg with
  | .member _ => descendChild target leg
  | .array index =>
    if target.isArray then descendChild target leg
    else if index = 0 then some (target, id)
    else none

/-- Updates the value the legs lead to. A leg that leads nowhere leaves the document as it is, and
`none` is `MYLITE_MISUSE`. -/
def updateTarget (descend : Descent) (update : Value → Option Value) :
    List PathLeg → Value → Option Value
  | [], target => update target
  | leg :: legs, target =>
    match descend target leg with
    | none => some target
    | some (child, put) => (updateTarget descend update legs child).map put

/-- Updates the parent of the last leg; `root` is what happens to the path `$`. -/
def updateParent (descend : Descent) (update : PathLeg → Value → Option Value)
    (root : Option Value) (legs : List PathLeg) (document : Value) : Option Value :=
  match legs.getLast? with
  | none => root
  | some last => updateTarget descend (update last) legs.dropLast document

def storeSorted (members : List Member) (name : Bytes) (value : Value) : Value :=
  .object (sortObjectMembers (objectAppendMember members name value))

def applyJsonSetLeg (value : Value) : PathLeg → Value → Option Value
  | .member name, .object members => some (storeSorted members name value)
  | .member _, target => some target
  | .array index, .array values =>
    some (.array (if index < values.length then values.set index value else values ++ [value]))
  | .array index, target => some (if index = 0 then value else .array [target, value])

def applyJsonSetPath (document : Value) (legs : List PathLeg) (value : Value) : Option Value :=
  updateParent descendChild (applyJsonSetLeg value) (some value) legs document

def applyJsonInsertLeg (value : Value) : PathLeg → Value → Option Value
  | .member name, .object members =>
    some (if (objectMemberValue members name).isSome then .object members
      else storeSorted members name value)
  | .member _, target => some target
  | .array index, .array values =>
    some (.array (if index < values.length then values else values ++ [value]))
  | .array index, target => some (if index = 0 then target else .array [target, value])

def applyJsonInsertPath (document : Value) (legs : List PathLeg) (value : Value) : Option Value :=
  updateParent descendChild (applyJsonInsertLeg value) (some document) legs document

def appendJsonArrayAppendValue (value : Value) : Value → Option Value
  | .array values => some (.array (values ++ [value]))
  | target => some (.array [target, value])

def applyJsonArrayAppendPath (document : Value) (legs : List PathLeg) (value : Value) :
    Option Value :=
  updateTarget descendWrapped (appendJsonArrayAppendValue value) legs document

def insertJsonArrayLeg (value : Value) : PathLeg → Value → Option Value
  | .member _, _ => none
  | .array index, .array values =>
    some (.array (if index ≥ values.length then values ++ [value]
      else values.take index ++ value :: values.drop index))
  | .array _, target => some target

def applyJsonArrayInsertPath (document : Value) (legs : List PathLeg) (value : Value) :
    Option Value :=
  updateParent descendChild (insertJsonArrayLeg value) none legs document

def applyJsonReplaceLeg (value : Value) : PathLeg → Value → Option Value
  | .member name, .object members =>
    some (if (objectMemberValue members name).isSome then
        .object (objectAppendMember members name value)
      else .object members)
  | .member _, target => some target
  | .array index, .array values => some (.array (values.set index value))
  | .array index, target => some (if index = 0 then value else target)

def applyJsonReplacePath (document : Value) (legs : List PathLeg) (value : Value) : Option Value :=
  updateParent descendChild (applyJsonReplaceLeg value) (some value) legs document

def applyJsonRemoveLeg : PathLeg → Value → Option Value
  | .member name, .object members => some (.object (members.eraseP fun member => member.1 = name))
  | .member _, target => some target
  | .array index, .array values => some (.array (values.eraseIdx index))
  | .array _, target => some target

def applyJsonRemovePath (document : Value) (legs : List PathLeg) : Option Value :=
  updateParent descendWrapped applyJsonRemoveLeg none legs document

/-- `mylite_json_internal_apply_mutation_path`. -/
def applyMutationPath (document : Value) (legs : List PathLeg) (value : Value) :
    MutationMode → Option Value
  | .set => applyJsonSetPath document legs value
  | .replace => applyJsonReplacePath document legs value
  | .insert => applyJsonInsertPath document legs value
  | .arrayAppend => applyJsonArrayAppendPath document legs value
  | .arrayInsert => applyJsonArrayInsertPath document legs value
  | .remove => applyJsonRemovePath document legs

def jsonArrayInsertPathIsArrayCell (legs : List PathLeg) : Bool :=
  match legs.getLast? with
  | some (.array _) => true
  | _ => false

section Mutate

variable (parsesDouble : Bytes → Bool)

/-- One round of the loop of `mutate_json_document`. Removal reads no value. -/
def mutateOnce (mode : MutationMode) (document : Value) (path : Bytes) (sqlValue : SqlValue) :
    Except OperationFailure Value :=
  match parseSetPath path with
  | .error failure => .error (.path failure)
  | .ok legs =>
    if mode = .remove ∧ legs = [] then .error .pathNotAllowed
    else if mode = .arrayInsert ∧ !jsonArrayInsertPathIsArrayCell legs then
      .error .pathNotArrayCell
    else
      match if mode = .remove then .ok .null else jsonValueFromSqlValue parsesDouble sqlValue with
      | .error failure => .error failure
      | .ok value =>
        match applyMutationPath document legs value mode with
        | none => .error .misuse
        | some document => .ok document

def mutateAll (mode : MutationMode) (document : Value) :
    List (Bytes × SqlValue) → Except OperationFailure Value
  | [] => .ok document
  | (path, sqlValue) :: pairs =>
    match mutateOnce parsesDouble mode document path sqlValue with
    | .error failure => .error failure
    | .ok document => mutateAll mode document pairs

/-- `mutate_json_document`. -/
def mutateJsonDocument (mode : MutationMode) (text : Bytes) (pairs : List (Bytes × SqlValue)) :
    Except OperationFailure Bytes :=
  match parseDocument parsesDouble text with
  | .error failure => .error (.document failure)
  | .ok document =>
    match mutateAll parsesDouble mode document pairs with
    | .error failure => .error failure
    | .ok document => emitConstructedJson document

end Mutate

end MyLite.Json
