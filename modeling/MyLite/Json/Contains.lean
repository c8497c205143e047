import MyLite.Library.Machine
import MyLite.Json.Parse

/-! The containment check of `mylite_json_contains.c`: a loop over a stack of frames of bounded
size. The top frame comes first in the list. -/
namespace MyLite.Json

inductive ContainsFrameKind where
  | check
  | arrayValue
  | arrayCandidate
  | objectCandidate
  deriving DecidableEq, Repr

structure ContainsFrame where
  kind : ContainsFrameKind
  target : Value
  candidate : Value
  targetIndex : Nat
  candidateIndex : Nat
  waitingChild : Bool
  childResult : Bool

abbrev ContainsStack := List ContainsFrame

def jsonContainsStackCapacity : Nat := jsonMaxNestingDepth * 2 + 2

/-- How the loop ends: the bottom frame is done, or a round made no progress. -/
inductive ContainsEnd where
  | done (result : Bool)
  | notProgressed
  deriving DecidableEq, Repr

abbrev ContainsRound := ContainsStack ⊕ ContainsEnd

def checkFrame (target candidate : Value) : ContainsFrame :=
  ⟨.check, target, candidate, 0, 0, false, false⟩

def jsonContainsStackPush (stack : ContainsStack) (target candidate : Value) : ContainsRound :=
  if stack.length ≥ jsonContainsStackCapacity then .inr .notProgressed
  else .inl (checkFrame target candidate :: stack)

/-- Pops the top frame; `parents` are the frames below it. -/
def jsonContainsStackComplete (parents : ContainsStack) (result : Bool) : ContainsRound :=
  match parents with
  | [] => .inr (.done result)
  | parent :: parents => .inl ({ parent with childResult := result } :: parents)

def jsonScalarValuesEqual : Value → Value → Bool
  | .null, .null => true
  | .bool left, .bool right => left == right
  | .number _ left, .number _ right => left == right
  | .string left, .string right => left == right
  | _, _ => false

/-- The frame of a container that starts over its items. -/
def ContainsFrame.start (frame : ContainsFrame) (kind : ContainsFrameKind) : ContainsFrame :=
  { frame with
    kind
    targetIndex := 0
    candidateIndex := 0
    waitingChild := false
    childResult := false }

def jsonContainsProcessCheckFrame (frame : ContainsFrame) (parents : ContainsStack) :
    ContainsRound :=
  match frame.target, frame.candidate with
  | .array _, .array _ => .inl (frame.start .arrayCandidate :: parents)
  | .array _, _ => .inl (frame.start .arrayValue :: parents)
  | .object _, .object _ => .inl (frame.start .objectCandidate :: parents)
  | target, candidate =>
    jsonContainsStackComplete parents (jsonScalarValuesEqual target candidate)

def jsonContainsProcessArrayValueFrame (frame : ContainsFrame) (parents : ContainsStack) :
    ContainsRound :=
  match frame.target with
  | .array values =>
    if frame.waitingChild ∧ frame.childResult then jsonContainsStackComplete parents true
    else
      let index := if frame.waitingChild then frame.targetIndex + 1 else frame.targetIndex
      match values[index]? with
      | none => jsonContainsStackComplete parents false
      | some value =>
        jsonContainsStackPush ({ frame with targetIndex := index, waitingChild := true } :: parents)
          value frame.candidate
  | _ => jsonContainsStackComplete parents false

def jsonContainsProcessArrayCandidateFrame (frame : ContainsFrame) (parents : ContainsStack) :
    ContainsRound :=
  match frame.target, frame.candidate with
  | .array values, .array candidates =>
    if frame.candidateIndex ≥ candidates.length then jsonContainsStackComplete parents true
    else
      let contained := frame.waitingChild && frame.childResult
      let candidateIndex :=
        if contained then frame.candidateIndex + 1 else frame.candidateIndex
      let targetIndex :=
        if contained then 0
        else if frame.waitingChild then frame.targetIndex + 1
        else frame.targetIndex
      match candidates[candidateIndex]?, values[targetIndex]? with
      | none, _ => jsonContainsStackComplete parents true
      | some _, none => jsonContainsStackComplete parents false
      | some candidate, some value =>
        jsonContainsStackPush
          ({ frame with candidateIndex, targetIndex, waitingChild := true } :: parents)
          value candidate
  | _, _ => jsonContainsStackComplete parents false

def jsonContainsProcessObjectCandidateFrame (frame : ContainsFrame) (parents : ContainsStack) :
    ContainsRound :=
  match frame.target, frame.candidate with
  | .object members, .object candidates =>
    if frame.candidateIndex ≥ candidates.length then jsonContainsStackComplete parents true
    else if frame.waitingChild ∧ ¬frame.childResult then jsonContainsStackComplete parents false
    else
      let index := if frame.waitingChild then frame.candidateIndex + 1 else frame.candidateIndex
      match candidates[index]? with
      | none => jsonContainsStackComplete parents true
      | some candidate =>
        match objectMemberValue members candidate.1 with
        | none => jsonContainsStackComplete parents false
        | some value =>
          jsonContainsStackPush
            ({ frame with candidateIndex := index, waitingChild := true } :: parents)
            value candidate.2
  | _, _ => jsonContainsStackComplete parents false

/-- One round of the loop of `value_contains`. The stack is not empty until the loop is done. -/
def containsRound : ContainsStack → ContainsRound
  | [] => .inr .notProgressed
  | frame :: parents =>
    match frame.kind with
    | .check => jsonContainsProcessCheckFrame frame parents
    | .arrayValue => jsonContainsProcessArrayValueFrame frame parents
    | .arrayCandidate => jsonContainsProcessArrayCandidateFrame frame parents
    | .objectCandidate => jsonContainsProcessObjectCandidateFrame frame parents

/-- How the loop of `value_contains` ends, if `fuel` rounds are enough. -/
def valueContainsEnd (fuel : Nat) (target candidate : Value) : Option ContainsEnd :=
  match jsonContainsStackPush [] target candidate with
  | .inr ended => some ended
  | .inl stack => Loop.iterate containsRound fuel stack

def ContainsEnd.result : ContainsEnd → Bool
  | .done result => result
  | .notProgressed => false

/-- `mylite_json_internal_value_contains`. -/
def valueContains (fuel : Nat) (target candidate : Value) : Option Bool :=
  (valueContainsEnd fuel target candidate).map ContainsEnd.result

end MyLite.Json
