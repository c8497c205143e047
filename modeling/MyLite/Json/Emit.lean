import MyLite.Json.Parse

/-! The writer of `mylite_json_dom.c`, with its explicit stack of containers being written, and
`mylite_json_normalize`. A frame holds the items still to write and how many were written. -/
namespace MyLite.Json

def hexDigitByte (value : UInt8) : UInt8 :=
  if value < 10 then 0x30 + value else 0x61 + (value - 10)

def writerAppendJsonEscape (byte : UInt8) : Bytes :=
  if byte = 0x22 then [0x5c, 0x22]
  else if byte = 0x5c then [0x5c, 0x5c]
  else if byte = 0x08 then [0x5c, 0x62]
  else if byte = 0x0c then [0x5c, 0x66]
  else if byte = 0x0a then [0x5c, 0x6e]
  else if byte = 0x0d then [0x5c, 0x72]
  else if byte = 0x09 then [0x5c, 0x74]
  else [0x5c, 0x75, 0x30, 0x30, hexDigitByte (byte >>> 4), hexDigitByte (byte &&& 0x0f)]

def emitByte (byte : UInt8) : Bytes :=
  if byte = 0x22 ∨ byte = 0x5c ∨ byte < jsonControlByteLimit then writerAppendJsonEscape byte
  else [byte]

def emitString (text : Bytes) : Bytes :=
  [0x22] ++ text.flatMap emitByte ++ [0x22]

def emitBoolValue (boolean : Bool) : Bytes :=
  if boolean then trueLiteral else falseLiteral

inductive EmitFrame where
  | array (index : Nat) (rest : List Value)
  | object (index : Nat) (rest : List Member)

abbrev EmitStack := List EmitFrame

def emitStackPush (stack : EmitStack) (frame : EmitFrame) : Option EmitStack :=
  if stack.length ≥ jsonMaxNestingDepth then none else some (frame :: stack)

/-- The start of a value: the stack and the text after it. `none` is `MYLITE_ERROR`. -/
def emitValueStart (value : Value) (stack : EmitStack) (writer : Bytes) :
    Option (EmitStack × Bytes) :=
  match value with
  | .null => some (stack, writer ++ nullLiteral)
  | .bool boolean => some (stack, writer ++ emitBoolValue boolean)
  | .number _ text => some (stack, writer ++ text)
  | .string text => some (stack, writer ++ emitString text)
  | .array values =>
    if values.isEmpty then some (stack, writer ++ [0x5b] ++ [0x5d])
    else (emitStackPush stack (.array 0 values)).map (·, writer ++ [0x5b])
  | .object members =>
    if members.isEmpty then some (stack, writer ++ [0x7b] ++ [0x7d])
    else (emitStackPush stack (.object 0 members)).map (·, writer ++ [0x7b])

def itemSeparator (index : Nat) : Bytes :=
  if index > 0 then [0x2c, 0x20] else []

/-- `emit_array_next_value` and `emit_object_next_member`: the text up to the next item, and the
item with the frame after it, if there is one. -/
def emitNext : EmitFrame → Bytes × Option (Value × EmitFrame)
  | .array _ [] => ([0x5d], none)
  | .array index (value :: rest) => (itemSeparator index, some (value, .array (index + 1) rest))
  | .object _ [] => ([0x7d], none)
  | .object index ((key, value) :: rest) =>
    (itemSeparator index ++ emitString key ++ [0x3a, 0x20], some (value, .object (index + 1) rest))

/-- Twice the size of what a frame has still to write. -/
noncomputable def EmitFrame.weight : EmitFrame → Nat
  | .array _ rest => 2 * sizeOf rest + 1
  | .object _ rest => 2 * sizeOf rest + 1

noncomputable def emitWeight (stack : EmitStack) : Nat :=
  stack.foldr (fun frame total => frame.weight + total) 0

theorem Value.sizeOf_pos (value : Value) : 0 < 2 * sizeOf value := by
  cases value
  all_goals
    simp only [Value.null.sizeOf_spec, Value.bool.sizeOf_spec, Value.number.sizeOf_spec,
      Value.string.sizeOf_spec, Value.array.sizeOf_spec, Value.object.sizeOf_spec]
    omega

theorem emitValueStart_weight {value : Value} {stack after : EmitStack} {writer text : Bytes}
    (started : emitValueStart value stack writer = some (after, text)) :
    emitWeight after < emitWeight stack + 2 * sizeOf value := by
  cases value with
  | array values =>
    simp only [emitValueStart, emitStackPush] at started
    split at started
    · cases started
      exact Nat.lt_add_of_pos_right (Value.sizeOf_pos _)
    · split at started
      · cases started
      · cases started
        simp only [emitWeight, List.foldr_cons, EmitFrame.weight,
          Value.array.sizeOf_spec]
        omega
  | object members =>
    simp only [emitValueStart, emitStackPush] at started
    split at started
    · cases started
      exact Nat.lt_add_of_pos_right (Value.sizeOf_pos _)
    · split at started
      · cases started
      · cases started
        simp only [emitWeight, List.foldr_cons, EmitFrame.weight,
          Value.object.sizeOf_spec]
        omega
  | _ =>
    cases started
    exact Nat.lt_add_of_pos_right (Value.sizeOf_pos _)

theorem emitNext_weight {frame after : EmitFrame} {piece : Bytes} {child : Value}
    (next : emitNext frame = (piece, some (child, after))) :
    after.weight + 2 * sizeOf child < frame.weight := by
  cases frame with
  | array index rest =>
    cases rest with
    | nil => cases next
    | cons value rest =>
      cases next
      simp only [EmitFrame.weight, List.cons.sizeOf_spec]
      omega
  | object index rest =>
    cases rest with
    | nil => cases next
    | cons member rest =>
      obtain ⟨key, value⟩ := member
      cases next
      simp only [EmitFrame.weight, List.cons.sizeOf_spec, Prod.mk.sizeOf_spec]
      omega

theorem EmitFrame.weight_pos (frame : EmitFrame) : 0 < frame.weight := by
  cases frame <;> exact Nat.succ_pos _

/-- The loop of `emit_value`. -/
def emitLoop (stack : EmitStack) (writer : Bytes) : Option Bytes :=
  match stack with
  | [] => some writer
  | frame :: stack =>
    match _next : emitNext frame with
    | (piece, none) => emitLoop stack (writer ++ piece)
    | (piece, some (child, frame)) =>
      match _start : emitValueStart child (frame :: stack) (writer ++ piece) with
      | none => none
      | some (stack, writer) => emitLoop stack writer
termination_by emitWeight stack
decreasing_by
  · have positive := frame.weight_pos
    simp only [emitWeight, List.foldr_cons]
    omega
  · have lighter := emitNext_weight (by assumption)
    have started := emitValueStart_weight (by assumption)
    simp only [emitWeight, List.foldr_cons] at started ⊢
    omega

def emitValue (value : Value) : Option Bytes :=
  match emitValueStart value [] [] with
  | none => none
  | some (stack, writer) => emitLoop stack writer

inductive NormalizeFailure where
  | parse (failure : Failure)
  | emit
  deriving DecidableEq, Repr

/-- `mylite_json_normalize`. -/
def jsonNormalize (parsesDouble : Bytes → Bool) (text : Bytes) : Except NormalizeFailure Bytes :=
  match parseDocument parsesDouble text with
  | .error failure => .error (.parse failure)
  | .ok value =>
    match emitValue value with
    | none => .error .emit
    | some emitted => .ok emitted

/-! The text of a value, by recursion. -/

mutual

def Value.text : Value → Bytes
  | .null => nullLiteral
  | .bool boolean => emitBoolValue boolean
  | .number _ text => text
  | .string text => emitString text
  | .array values => 0x5b :: elementsText 0 values
  | .object members => 0x7b :: membersText 0 members

def elementsText : Nat → List Value → Bytes
  | _, [] => [0x5d]
  | index, value :: rest => itemSeparator index ++ value.text ++ elementsText (index + 1) rest

def membersText : Nat → List (Bytes × Value) → Bytes
  | _, [] => [0x7d]
  | index, (key, value) :: rest =>
    itemSeparator index ++ emitString key ++ [0x3a, 0x20] ++ value.text ++
      membersText (index + 1) rest

end

end MyLite.Json
