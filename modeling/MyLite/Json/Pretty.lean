import MyLite.Json.RoundTrip

/-! `mylite_json_pretty`: a value over several lines, each indented by its depth. -/
namespace MyLite.Json

def jsonPrettyIndentWidth : Nat :=
  2

def emitPrettyIndent (depth : Nat) : Bytes :=
  List.replicate (depth * jsonPrettyIndentWidth) 0x20

/-- The scalar writer starts the value on an empty stack. -/
def emitPrettyScalarValue (value : Value) : Option Bytes :=
  (emitValueStart value [] []).map Prod.snd

/-- The end of an item's line. -/
def prettyItemEnd (isLast : Bool) : Bytes :=
  if isLast then [0x0a] else [0x2c, 0x0a]

mutual

/-- The text that `emit_pretty_value` appends. `none` is `MYLITE_ERROR`. -/
def emitPrettyValue (depth : Nat) : Value → Option Bytes
  | .array values =>
    if values.isEmpty then some [0x5b, 0x5d]
    else do
      let items ← emitPrettyElements (depth + 1) values
      some (0x5b :: 0x0a :: (items ++ emitPrettyIndent depth ++ [0x5d]))
  | .object members =>
    if members.isEmpty then some [0x7b, 0x7d]
    else do
      let items ← emitPrettyMembers (depth + 1) members
      some (0x7b :: 0x0a :: (items ++ emitPrettyIndent depth ++ [0x7d]))
  | .null => emitPrettyScalarValue .null
  | .bool boolean => emitPrettyScalarValue (.bool boolean)
  | .number kind text => emitPrettyScalarValue (.number kind text)
  | .string text => emitPrettyScalarValue (.string text)

/-- The loop of `emit_pretty_array_value`, with the depth of the items. -/
def emitPrettyElements (depth : Nat) : List Value → Option Bytes
  | [] => some []
  | value :: rest => do
    let item ← emitPrettyValue depth value
    let others ← emitPrettyElements depth rest
    some (emitPrettyIndent depth ++ item ++ prettyItemEnd rest.isEmpty ++ others)

/-- The loop of `emit_pretty_object_value`. -/
def emitPrettyMembers (depth : Nat) : List (Bytes × Value) → Option Bytes
  | [] => some []
  | (key, value) :: rest => do
    let item ← emitPrettyValue depth value
    let others ← emitPrettyMembers depth rest
    some (emitPrettyIndent depth ++ (emitString key ++ [0x3a, 0x20] ++ item) ++
      prettyItemEnd rest.isEmpty ++ others)

end

/-- `mylite_json_pretty`. -/
def jsonPretty (parsesDouble : Bytes → Bool) (text : Bytes) : Except NormalizeFailure Bytes :=
  match parseDocument parsesDouble text with
  | .error failure => .error (.parse failure)
  | .ok value =>
    match emitPrettyValue 0 value with
    | none => .error .emit
    | some emitted => .ok emitted

theorem emitPrettyScalarValue_eq {value : Value} (leaf : value.isContainer = false) :
    emitPrettyScalarValue value = some value.text := by
  cases value with
  | array values => cases leaf
  | object members => cases leaf
  | _ => simp [emitPrettyScalarValue, emitValueStart, Value.text]

/-! The lines of a container's items. -/

/-- The blanks in front of an item that is not the first one. -/
def lineBreak (depth : Nat) : Bytes :=
  0x0a :: emitPrettyIndent depth

theorem lineBreak_blank (depth : Nat) : Blank (lineBreak depth) := by
  intro byte mem
  simp only [lineBreak, emitPrettyIndent, List.mem_cons, List.mem_replicate] at mem
  obtain rfl | ⟨_, rfl⟩ := mem
  · rfl
  · rfl

def prettyLines (depth : Nat) : List Bytes → Bytes
  | [] => []
  | text :: rest =>
    emitPrettyIndent depth ++ text ++ prettyItemEnd rest.isEmpty ++ prettyLines depth rest

theorem prettyLines_cons (depth : Nat) (text : Bytes) (texts : List Bytes) :
    prettyLines depth (text :: texts) =
      emitPrettyIndent depth ++ (text ++ (separatedBy (lineBreak depth) texts ++ [0x0a])) := by
  induction texts generalizing text with
  | nil => simp [prettyLines, prettyItemEnd, separatedBy]
  | cons next texts ih =>
    rw [prettyLines, ih]
    simp [prettyItemEnd, separatedBy, lineBreak]

theorem emitPrettyElements_eq {depth : Nat} {spell : Value → Bytes} {values : List Value}
    (emits : ∀ value ∈ values, emitPrettyValue depth value = some (spell value)) :
    emitPrettyElements depth values = some (prettyLines depth (values.map spell)) := by
  induction values with
  | nil => rw [emitPrettyElements, List.map_nil, prettyLines]
  | cons value values ih =>
    rw [List.forall_mem_cons] at emits
    rw [emitPrettyElements, emits.1, ih emits.2]
    simp [prettyLines]

theorem emitPrettyMembers_eq {depth : Nat} {spell : Value → Bytes} {members : List Member}
    (emits : ∀ member ∈ members, emitPrettyValue depth member.2 = some (spell member.2)) :
    emitPrettyMembers depth members = some (prettyLines depth
      (members.map fun member => memberSpelling member.1 (spell member.2))) := by
  induction members with
  | nil => rw [emitPrettyMembers, List.map_nil, prettyLines]
  | cons member members ih =>
    rw [List.forall_mem_cons] at emits
    rw [emitPrettyMembers, emits.1, ih emits.2]
    simp [prettyLines, memberSpelling]

theorem emitPrettyValue_array {depth : Nat} {value : Value} {values : List Value} {items : Bytes}
    (lines : emitPrettyElements (depth + 1) (value :: values) = some items) :
    emitPrettyValue depth (.array (value :: values)) =
      some (0x5b :: 0x0a :: (items ++ emitPrettyIndent depth ++ [0x5d])) := by
  simp [emitPrettyValue, lines]

theorem emitPrettyValue_object {depth : Nat} {member : Member} {members : List Member}
    {items : Bytes} (lines : emitPrettyMembers (depth + 1) (member :: members) = some items) :
    emitPrettyValue depth (.object (member :: members)) =
      some (0x7b :: 0x0a :: (items ++ emitPrettyIndent depth ++ [0x7d])) := by
  simp [emitPrettyValue, lines]

/-- The items of a container that all emit, with one function for their texts. -/
theorem emitPrettyValue_spelled {depth : Nat} {values : List Value}
    (emits : ∀ value ∈ values, ∃ text,
      emitPrettyValue depth value = some text ∧ Layout value text) :
    ∃ spell : Value → Bytes, ∀ value ∈ values,
      emitPrettyValue depth value = some (spell value) ∧ Layout value (spell value) := by
  refine ⟨fun value => (emitPrettyValue depth value).getD [], ?_⟩
  intro value mem
  obtain ⟨text, emitted, layout⟩ := emits value mem
  simp only [emitted, Option.getD_some, layout, and_self]

/-- Every value is written, and the text is one of the texts of the value. -/
theorem emitPrettyValue_layout (value : Value) (depth : Nat) :
    ∃ text, emitPrettyValue depth value = some text ∧ Layout value text := by
  induction value using Value.inductionOn generalizing depth with
  | array values ih =>
    cases values with
    | nil => exact ⟨_, by rw [emitPrettyValue, List.isEmpty_nil, if_pos rfl], .emptyArray⟩
    | cons value values =>
      obtain ⟨spell, items⟩ := emitPrettyValue_spelled fun item mem => ih item mem (depth + 1)
      have lines := emitPrettyElements_eq fun item mem => (items item mem).1
      refine ⟨_, emitPrettyValue_array lines, ?_⟩
      have layout := Layout.array (lineBreak_blank (depth + 1)) (lineBreak_blank (depth + 1))
        (lineBreak_blank depth) fun item mem => (items item mem).2
      rw [List.map_cons, prettyLines_cons]
      simpa [lineBreak] using layout
  | object members ih =>
    cases members with
    | nil => exact ⟨_, by rw [emitPrettyValue, List.isEmpty_nil, if_pos rfl], .emptyObject⟩
    | cons member members =>
      have emits : ∀ item ∈ (member :: members).map Prod.snd, ∃ text,
          emitPrettyValue (depth + 1) item = some text ∧ Layout item text := by
        intro item mem
        obtain ⟨source, found, rfl⟩ := List.mem_map.1 mem
        exact ih source found (depth + 1)
      obtain ⟨spell, items⟩ := emitPrettyValue_spelled emits
      have each (item : Member) (mem : item ∈ member :: members) :=
        items item.2 (List.mem_map_of_mem mem)
      have lines := emitPrettyMembers_eq fun item mem => (each item mem).1
      refine ⟨_, emitPrettyValue_object lines, ?_⟩
      have layout := Layout.object (lineBreak_blank (depth + 1)) (lineBreak_blank (depth + 1))
        (lineBreak_blank depth) fun item mem => (each item mem).2
      rw [List.map_cons, prettyLines_cons]
      simpa [lineBreak] using layout
  | _ =>
    refine ⟨_, ?_, .scalar rfl⟩
    rw [emitPrettyValue, emitPrettyScalarValue_eq rfl]

/-- Every text the parser accepts is written over several lines, and what is written normalizes
to what the text normalizes to. -/
theorem jsonPretty_normalize (parsesDouble : Bytes → Bool) (text : Bytes) (value : Value)
    (accepted : parseDocument parsesDouble text = .ok value) :
    ∃ pretty normalized, jsonPretty parsesDouble text = .ok pretty ∧
      jsonNormalize parsesDouble text = .ok normalized ∧
      jsonNormalize parsesDouble pretty = .ok normalized := by
  obtain ⟨pretty, emitted, layout⟩ := emitPrettyValue_layout value 0
  have printable := parseDocument_printable accepted
  have again := layout.parseDocument printable
  refine ⟨pretty, value.text, ?_, ?_, ?_⟩
  · rw [jsonPretty, accepted]
    dsimp only
    rw [emitted]
  · rw [jsonNormalize, accepted]
    dsimp only
    rw [emitValue_text printable]
  · rw [jsonNormalize, again]
    dsimp only
    rw [emitValue_text printable]

/-- `[1,{}]` over several lines. -/
theorem jsonPretty_normalize_nested :
    ∃ pretty normalized,
      jsonPretty (fun _ => true) [0x5b, 0x31, 0x2c, 0x7b, 0x7d, 0x5d] = .ok pretty ∧
      jsonNormalize (fun _ => true) [0x5b, 0x31, 0x2c, 0x7b, 0x7d, 0x5d] = .ok normalized ∧
      jsonNormalize (fun _ => true) pretty = .ok normalized := by
  refine jsonPretty_normalize (fun _ => true) [0x5b, 0x31, 0x2c, 0x7b, 0x7d, 0x5d]
    (.array [.number .integer [0x31], .object []]) ?_
  rw [parseDocument_eq_reader]
  rfl

end MyLite.Json
