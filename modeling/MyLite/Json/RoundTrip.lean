import MyLite.Json.Layout

/-! What the writer writes of a parsed document parses to the same document, so normalizing a
normalized text changes nothing. -/
namespace MyLite.Json

/-- The items after the first one. -/
def separated (texts : List Bytes) : Bytes :=
  texts.flatMap fun text => 0x2c :: 0x20 :: text

def memberText (member : Member) : Bytes :=
  emitString member.1 ++ 0x3a :: 0x20 :: member.2.text

theorem elementsText_succ (index : Nat) (values : List Value) :
    elementsText (index + 1) values = separated (values.map Value.text) ++ [0x5d] := by
  induction values generalizing index with
  | nil => simp [elementsText, separated]
  | cons value values ih =>
    rw [elementsText, ih]
    simp [itemSeparator, separated]

theorem membersText_succ (index : Nat) (members : List Member) :
    membersText (index + 1) members = separated (members.map memberText) ++ [0x7d] := by
  induction members generalizing index with
  | nil => simp [membersText, separated]
  | cons member members ih =>
    rw [membersText, ih]
    simp [itemSeparator, separated, memberText]

/-- The text that is written is one of the texts of a value. -/
theorem Value.text_layout (value : Value) : Layout value value.text := by
  induction value using Value.inductionOn with
  | array values ih =>
    cases values with
    | nil =>
      rw [Value.text, elementsText]
      exact .emptyArray
    | cons value values =>
      have blank : Blank [0x20] := by simp [Blank, isWhitespace]
      have layout := Layout.array blank_nil blank blank_nil ih
      rw [Value.text, elementsText, elementsText_succ]
      simpa [itemSeparator, separated, separatedBy] using layout
  | object members ih =>
    cases members with
    | nil =>
      rw [Value.text, membersText]
      exact .emptyObject
    | cons member members =>
      have blank : Blank [0x20] := by simp [Blank, isWhitespace]
      have layout := Layout.object blank_nil blank blank_nil ih
      have texts : (members.map fun item => memberSpelling item.1 item.2.text) =
          members.map memberText := rfl
      rw [texts] at layout
      rw [Value.text, membersText, membersText_succ]
      simpa [itemSeparator, separated, separatedBy, memberSpelling] using layout
  | _ => exact .scalar rfl

section RoundTrip

variable {parsesDouble : Bytes → Bool}

/-- The text of a printable value parses to the value. -/
theorem Printable.parseDocument_text {value : Value}
    (printable : Printable parsesDouble jsonMaxNestingDepth value) :
    parseDocument parsesDouble value.text = .ok value :=
  value.text_layout.parseDocument printable

/-- Every text the parser accepts has a value that is written, and what is written parses to the
same value; so normalizing a normalized text changes nothing. -/
theorem parseDocument_emitValue_roundTrip (parsesDouble : Bytes → Bool) (text : Bytes) :
    (∀ value, parseDocument parsesDouble text = .ok value →
      ∃ emitted, emitValue value = some emitted ∧
        parseDocument parsesDouble emitted = .ok value) ∧
    ∀ normalized, jsonNormalize parsesDouble text = .ok normalized →
      jsonNormalize parsesDouble normalized = .ok normalized := by
  have roundTrip (value : Value) (parsed : parseDocument parsesDouble text = .ok value) :
      ∃ emitted, emitValue value = some emitted ∧
        parseDocument parsesDouble emitted = .ok value :=
    have printable := parseDocument_printable parsed
    ⟨value.text, emitValue_text printable, printable.parseDocument_text⟩
  refine ⟨roundTrip, ?_⟩
  intro normalized accepted
  rw [jsonNormalize] at accepted
  split at accepted
  · cases accepted
  · rename_i value parsed
    obtain ⟨emitted, emit, again⟩ := roundTrip value parsed
    rw [emit] at accepted
    cases accepted
    rw [jsonNormalize, again]
    dsimp only
    rw [emit]

/-- `[ 1,-0]` is normalized to `[1, 0]`. -/
theorem parseDocument_emitValue_roundTrip_negativeZero :
    (∃ emitted, emitValue (.array [.number .integer [0x31], .number .integer [0x30]]) =
        some emitted ∧
      parseDocument (fun _ => true) emitted =
        .ok (.array [.number .integer [0x31], .number .integer [0x30]])) ∧
    jsonNormalize (fun _ => true) [0x5b, 0x31, 0x2c, 0x20, 0x30, 0x5d] =
      .ok [0x5b, 0x31, 0x2c, 0x20, 0x30, 0x5d] := by
  have text := parseDocument_emitValue_roundTrip (fun _ => true)
    [0x5b, 0x20, 0x31, 0x2c, 0x2d, 0x30, 0x5d]
  refine ⟨text.1 _ ?_, text.2 _ (by decide +kernel)⟩
  rw [parseDocument_eq_reader]
  rfl

end RoundTrip

end MyLite.Json
