import MyLite.Json.SqlValue

/-! `mylite_json_merge.c`: documents merged as patches, and with all their values kept. -/
namespace MyLite.Json

def removeMember (members : List Member) (key : Bytes) : List Member :=
  members.eraseP fun member => member.1 = key

mutual

/-- The members of a patch, applied to the target's members one after the other. -/
def applyPatchMembers (target : List (Bytes × Value)) :
    List (Bytes × Value) → List (Bytes × Value)
  | [] => target
  | (key, value) :: rest => applyPatchMembers (applyPatchMember target key value) rest

def applyPatchMember (target : List (Bytes × Value)) (key : Bytes) :
    Value → List (Bytes × Value)
  | .null => removeMember target key
  | .object patch =>
    match objectMemberValue target key with
    | some (.object members) =>
      objectAppendMember target key (.object (sortObjectMembers (applyPatchMembers members patch)))
    | _ => objectAppendMember target key (.object patch)
  | value => objectAppendMember target key value

end

/-- `apply_json_merge_patch_object`. -/
def applyJsonMergePatchObject (target patch : List Member) : List Member :=
  sortObjectMembers (applyPatchMembers target patch)

def applyJsonMergePatchValue (target : Value) : Value → Value
  | .object patch =>
    match target with
    | .object members => .object (applyJsonMergePatchObject members patch)
    | _ => .object (applyJsonMergePatchObject [] patch)
  | patch => patch

/-- `merge_json_preserve_autowrap_values`. -/
def mergeJsonPreserveAutowrapValues : Value → Value → Value
  | .array target, .array source => .array (target ++ source)
  | .array target, source => .array (target ++ [source])
  | target, .array source => .array (target :: source)
  | target, source => .array [target, source]

mutual

/-- The members of a source, merged into the target's members one after the other. -/
def mergePreserveMembers (target : List (Bytes × Value)) :
    List (Bytes × Value) → List (Bytes × Value)
  | [] => target
  | (key, value) :: rest => mergePreserveMembers (mergePreserveMember target key value) rest

def mergePreserveMember (target : List (Bytes × Value)) (key : Bytes) :
    Value → List (Bytes × Value)
  | .object source =>
    match objectMemberValue target key with
    | none => objectAppendMember target key (.object source)
    | some (.object members) =>
      objectAppendMember target key
        (.object (sortObjectMembers (mergePreserveMembers members source)))
    | some found =>
      objectAppendMember target key (mergeJsonPreserveAutowrapValues found (.object source))
  | value =>
    match objectMemberValue target key with
    | none => objectAppendMember target key value
    | some found => objectAppendMember target key (mergeJsonPreserveAutowrapValues found value)

end

/-- `merge_json_preserve_objects`. -/
def mergeJsonPreserveObjects (target source : List Member) : List Member :=
  sortObjectMembers (mergePreserveMembers target source)

def mergeJsonPreserveValues : Value → Value → Value
  | .object target, .object source => .object (mergeJsonPreserveObjects target source)
  | target, source => mergeJsonPreserveAutowrapValues target source

inductive MergeMode where
  | patch
  | preserve
  deriving DecidableEq, Repr

def mergeValues : MergeMode → Value → Value → Value
  | .patch => applyJsonMergePatchValue
  | .preserve => mergeJsonPreserveValues

section Merge

variable (parsesDouble : Bytes → Bool)

def mergeAll (mode : MergeMode) (result : Value) : List Bytes → Except OperationFailure Value
  | [] => .ok result
  | document :: documents =>
    match parseDocument parsesDouble document with
    | .error failure => .error (.document failure)
    | .ok next => mergeAll mode (mergeValues mode result next) documents

/-- `merge_json_documents`. -/
def mergeJsonDocuments (mode : MergeMode) : List Bytes → Except OperationFailure Bytes
  | [] => .error .misuse
  | document :: documents =>
    match parseDocument parsesDouble document with
    | .error failure => .error (.document failure)
    | .ok result =>
      match mergeAll parsesDouble mode result documents with
      | .error failure => .error failure
      | .ok result => emitConstructedJson result

end Merge

end MyLite.Json
