import MyLite.Json.Parse

/-! Recursive descent over the same text: a container is read to its end, its inner containers by
recursion. The reader also says how deeply the text nests, which the value alone does not (a later
member replaces an earlier one of the same name). The parser's loop computes the reader. -/
namespace MyLite.Json

/-- A value read from a text, with the nesting of that text. -/
structure Nested where
  value : Value
  /-- The most containers with content open at once. -/
  openNesting : Nat
  /-- The most containers open at once, empty ones included. -/
  nesting : Nat

def Value.isContainer : Value → Bool
  | .array _ => true
  | .object _ => true
  | _ => false

/-- A scalar or an empty container. -/
def Nested.leaf (value : Value) : Nested :=
  ⟨value, 0, if value.isContainer then 1 else 0⟩

/-- The container that closes after its item `child`. -/
def Nested.enclose (child : Nested) (value : Value) : Nested :=
  ⟨value, child.openNesting + 1, child.nesting + 1⟩

/-- The container whose items are `child` and those of `items`. -/
def Nested.join (child items : Nested) : Nested :=
  ⟨items.value, max (child.openNesting + 1) items.openNesting,
    max (child.nesting + 1) items.nesting⟩

inductive Separator where
  | close
  | comma

/-- What follows an item. -/
def readSeparator (container : Container) (input : Bytes) : Reading Separator :=
  match skipWhitespace input with
  | [] => .error (parserInvalid [])
  | byte :: rest =>
    if byte = container.closing then .ok (.close, rest)
    else if byte = 0x2c then .ok (.comma, skipWhitespace rest)
    else .error (parserInvalid (byte :: rest))

section Reader

variable (parsesDouble : Bytes → Bool)

-- Whether a container may open inside this many open ones.
variable (room : Nat → Bool)

/-- The items of a container from a value position on, and its closing bracket. `depth` containers
are open. -/
def readContainer : Nat → Nat → Container → Bytes → Reading Nested
  | 0, _, _, input => .error (parserUnsupported input)
  | fuel + 1, depth, container, input =>
    match parseNextItem parsesDouble container input with
    | .error failure => .error failure
    | .ok ((waiting, parsed), afterStart) =>
      let child : Reading Nested :=
        match parsed with
        | .complete value => .ok (.leaf value, afterStart)
        | .opens kind =>
          if room depth then readContainer fuel (depth + 1) (Container.empty kind) afterStart
          else .error (exceededDepth afterStart)
      match child with
      | .error failure => .error failure
      | .ok (child, afterChild) =>
        match readSeparator (waiting.store child.value) afterChild with
        | .error failure => .error failure
        | .ok (.close, rest) => .ok (child.enclose (waiting.store child.value).close, rest)
        | .ok (.comma, rest) =>
          match readContainer fuel depth (waiting.store child.value) rest with
          | .error failure => .error failure
          | .ok (items, rest) => .ok (child.join items, rest)

def readValue (fuel : Nat) (text : Bytes) : Reading Nested :=
  match parseNextValue parsesDouble (skipWhitespace text) with
  | .error failure => .error failure
  | .ok (.complete value, rest) => .ok (.leaf value, rest)
  | .ok (.opens kind, rest) =>
    if room 0 then readContainer parsesDouble room fuel 1 (Container.empty kind) rest
    else .error (exceededDepth rest)

/-- A whole text as one value. -/
def readDocument (text : Bytes) : Except Failure Nested :=
  match readValue parsesDouble room (text.length + 1) text with
  | .error failure => .error failure
  | .ok (nested, rest) => (finishDocument nested.value rest).map fun _ => nested

/-! One item of a container, as an inversion of the reader. -/

/-- The child an item's start leads to. -/
def readChild (fuel depth : Nat) (parsed : ParsedValue) (rest : Bytes) : Reading Nested :=
  match parsed with
  | .complete value => .ok (.leaf value, rest)
  | .opens kind =>
    if room depth then
      readContainer parsesDouble room fuel (depth + 1) (Container.empty kind) rest
    else .error (exceededDepth rest)

/-- The items after one that was read. -/
def readItemsAfter (fuel depth : Nat) (waiting : Waiting) (child : Nested) (rest : Bytes) :
    Reading Nested :=
  match readSeparator (waiting.store child.value) rest with
  | .error failure => .error failure
  | .ok (.close, rest) => .ok (child.enclose (waiting.store child.value).close, rest)
  | .ok (.comma, rest) =>
    match readContainer parsesDouble room fuel depth (waiting.store child.value) rest with
    | .error failure => .error failure
    | .ok (items, rest) => .ok (child.join items, rest)

theorem readContainer_succ (fuel depth : Nat) (container : Container) (input : Bytes) :
    readContainer parsesDouble room (fuel + 1) depth container input =
      match parseNextItem parsesDouble container input with
      | .error failure => .error failure
      | .ok ((waiting, parsed), rest) =>
        match readChild parsesDouble room fuel depth parsed rest with
        | .error failure => .error failure
        | .ok (child, rest) => readItemsAfter parsesDouble room fuel depth waiting child rest := by
  rw [readContainer]
  rfl

end Reader

theorem readSeparator_length {container : Container} {input rest : Bytes} {separator : Separator}
    (read : readSeparator container input = .ok (separator, rest)) :
    rest.length < input.length := by
  have shorter := skipWhitespace_length input
  simp only [readSeparator] at read
  split at read
  · cases read
  · rename_i byte tail skipped
    rw [skipped, List.length_cons] at shorter
    have tailShorter := skipWhitespace_length tail
    split at read
    · cases read
      omega
    · split at read
      · cases read
        omega
      · cases read

section Inversion

variable {parsesDouble : Bytes → Bool} {room : Nat → Bool}

/-- Reading a container reads an item and then its closing bracket, or a comma and the other
items. -/
theorem readContainer_ok_iff {fuel depth : Nat} {container : Container} {input rest : Bytes}
    {nested : Nested} :
    readContainer parsesDouble room (fuel + 1) depth container input = .ok (nested, rest) ↔
      ∃ waiting parsed afterStart child afterChild,
        parseNextItem parsesDouble container input = .ok ((waiting, parsed), afterStart) ∧
        readChild parsesDouble room fuel depth parsed afterStart = .ok (child, afterChild) ∧
        (readSeparator (waiting.store child.value) afterChild = .ok (.close, rest) ∧
            nested = child.enclose (waiting.store child.value).close ∨
          ∃ afterComma items,
            readSeparator (waiting.store child.value) afterChild = .ok (.comma, afterComma) ∧
            readContainer parsesDouble room fuel depth (waiting.store child.value) afterComma =
              .ok (items, rest) ∧
            nested = child.join items) := by
  rw [readContainer_succ]
  constructor
  · intro read
    split at read
    · cases read
    · rename_i waiting parsed afterStart start
      split at read
      · cases read
      · rename_i child afterChild readChild
        refine ⟨waiting, parsed, afterStart, child, afterChild, start, readChild, ?_⟩
        simp only [readItemsAfter] at read
        split at read
        · cases read
        · rename_i separator
          cases read
          exact .inl ⟨separator, rfl⟩
        · rename_i afterComma separator
          split at read
          · cases read
          · rename_i items afterItems readItems
            cases read
            exact .inr ⟨afterComma, items, separator, readItems, rfl⟩
  · rintro ⟨waiting, parsed, afterStart, child, afterChild, start, readChild, separated⟩
    rw [start]
    dsimp only
    rw [readChild]
    dsimp only
    rw [readItemsAfter]
    rcases separated with ⟨separator, rfl⟩ | ⟨afterComma, items, separator, readItems, rfl⟩
    · rw [separator]
    · rw [separator]
      dsimp only
      rw [readItems]

theorem readContainer_length {fuel depth : Nat} {container : Container} {input rest : Bytes}
    {nested : Nested}
    (read : readContainer parsesDouble room fuel depth container input = .ok (nested, rest)) :
    rest.length < input.length := by
  induction fuel generalizing depth container input nested rest with
  | zero => cases read
  | succ fuel ih =>
    obtain ⟨waiting, parsed, afterStart, child, afterChild, start, readChild, separated⟩ :=
      readContainer_ok_iff.1 read
    have startShorter := parseNextItem_length parsesDouble start
    have childShorter : afterChild.length ≤ afterStart.length := by
      cases parsed with
      | complete value =>
        cases readChild
        exact Nat.le_refl _
      | opens kind =>
        simp only [Json.readChild] at readChild
        split at readChild
        · exact Nat.le_of_lt (ih readChild)
        · cases readChild
    rcases separated with ⟨separator, _⟩ | ⟨afterComma, items, separator, readItems, _⟩
    · have separatorShorter := readSeparator_length separator
      omega
    · have separatorShorter := readSeparator_length separator
      have itemsShorter := ih readItems
      omega

theorem readContainer_openNesting_pos {fuel depth : Nat} {container : Container}
    {input rest : Bytes} {nested : Nested}
    (read : readContainer parsesDouble room fuel depth container input = .ok (nested, rest)) :
    1 ≤ nested.openNesting := by
  cases fuel with
  | zero => cases read
  | succ fuel =>
    obtain ⟨_, _, _, child, _, _, _, separated⟩ := readContainer_ok_iff.1 read
    rcases separated with ⟨_, rfl⟩ | ⟨_, items, _, _, rfl⟩
    · exact Nat.le_add_left ..
    · exact Nat.le_trans (Nat.le_add_left ..) (Nat.le_max_left ..)

end Inversion

/-! The parser's loop runs the reader, with the open containers as the calls still to return. -/

section Refinement

variable (parsesDouble : Bytes → Bool)

/-- The limit of the parser's stack. -/
def parserRoom (depth : Nat) : Bool :=
  depth < jsonMaxNestingDepth

/-- The loop after `finish_completed_value`. -/
def resume : Except Failure Progress → Except Failure Value
  | .error failure => .error failure
  | .ok (.done value) => .ok value
  | .ok (.next container parents input) => parseLoop parsesDouble container parents input

/-- A completed value goes to the innermost open container, or ends the document. -/
def finishValue (value : Value) (parents : List Waiting) (input : Bytes) :
    Except Failure Progress :=
  match parents with
  | [] => (finishDocument value input).map .done
  | parent :: parents => finishCompletedValue (parent.store value) parents input

theorem finishCompletedValue_eq (container : Container) (parents : List Waiting) (input : Bytes) :
    finishCompletedValue container parents input =
      match readSeparator container input with
      | .error failure => .error failure
      | .ok (.close, rest) => finishValue container.close parents rest
      | .ok (.comma, rest) => .ok (.next container parents rest) := by
  rw [finishCompletedValue.eq_def, readSeparator]
  cases skipWhitespace input with
  | nil => rfl
  | cons byte rest =>
    by_cases closes : byte = container.closing
    · simp only [if_pos closes]
      cases parents <;> rfl
    · by_cases comma : byte = 0x2c
      · simp only [if_neg closes, if_pos comma]
      · simp only [if_neg closes, if_neg comma]

theorem parseLoop_eq (container : Container) (parents : List Waiting) (input : Bytes) :
    parseLoop parsesDouble container parents input =
      match parseNextItem parsesDouble container input with
      | .error failure => .error failure
      | .ok ((waiting, .opens kind), rest) =>
        if parserRoom (parents.length + 1) then
          parseLoop parsesDouble (Container.empty kind) (waiting :: parents) rest
        else .error (exceededDepth rest)
      | .ok ((waiting, .complete value), rest) =>
        resume parsesDouble (finishCompletedValue (waiting.store value) parents rest) := by
  rw [parseLoop.eq_def]
  split
  · rename_i start
    rw [start]
  · rename_i start
    rw [start]
    by_cases full : parents.length + 1 ≥ jsonMaxNestingDepth
    · have noRoom : ¬parserRoom (parents.length + 1) = true := by
        simpa [parserRoom] using full
      rw [if_pos full]
      simp only [if_neg noRoom]
    · have hasRoom : parserRoom (parents.length + 1) = true := by
        simpa [parserRoom] using full
      rw [if_neg full]
      simp only [if_pos hasRoom]
  · rename_i start
    rw [start]
    simp only [resume]
    split <;> simp_all

/-- From an open container on, the loop reads it to its end and hands the value to the container
around it. -/
theorem parseLoop_eq_reader (fuel : Nat) (container : Container) (parents : List Waiting)
    (input : Bytes) (enough : input.length < fuel) :
    parseLoop parsesDouble container parents input =
      match readContainer parsesDouble parserRoom fuel (parents.length + 1) container input with
      | .error failure => .error failure
      | .ok (nested, rest) => resume parsesDouble (finishValue nested.value parents rest) := by
  induction fuel generalizing container parents input with
  | zero => exact absurd enough (Nat.not_lt_zero _)
  | succ fuel ih =>
    -- The items after a child, on both sides.
    have after (waiting : Waiting) (child : Nested) (rest : Bytes)
        (shorter : rest.length < input.length) :
        resume parsesDouble (finishCompletedValue (waiting.store child.value) parents rest) =
          match readItemsAfter parsesDouble parserRoom fuel (parents.length + 1) waiting child
            rest with
          | .error failure => .error failure
          | .ok (nested, rest) => resume parsesDouble (finishValue nested.value parents rest) := by
      rw [finishCompletedValue_eq, readItemsAfter]
      cases separator : readSeparator (waiting.store child.value) rest with
      | error failure => rfl
      | ok found =>
        obtain ⟨kind, afterSeparator⟩ := found
        cases kind with
        | close => rfl
        | comma =>
          have separatorShorter := readSeparator_length separator
          simp only [resume]
          rw [ih _ parents afterSeparator (by omega)]
          cases readContainer parsesDouble parserRoom fuel (parents.length + 1)
            (waiting.store child.value) afterSeparator <;> rfl
    rw [parseLoop_eq, readContainer_succ]
    cases start : parseNextItem parsesDouble container input with
    | error failure => rfl
    | ok item =>
      obtain ⟨⟨waiting, parsed⟩, afterStart⟩ := item
      have startShorter := parseNextItem_length parsesDouble start
      cases parsed with
      | complete value =>
        exact after waiting (.leaf value) afterStart startShorter
      | opens kind =>
        simp only [readChild]
        by_cases hasRoom : parserRoom (parents.length + 1) = true
        · rw [if_pos hasRoom, if_pos hasRoom,
            ih (Container.empty kind) (waiting :: parents) afterStart (by omega)]
          simp only [List.length_cons]
          cases inner : readContainer parsesDouble parserRoom fuel (parents.length + 1 + 1)
            (Container.empty kind) afterStart with
          | error failure => rfl
          | ok found =>
            obtain ⟨child, afterChild⟩ := found
            have childShorter := readContainer_length inner
            exact after waiting child afterChild (by omega)
        · rw [if_neg hasRoom, if_neg hasRoom]

/-- The parser is the reader with room for 100 containers. -/
theorem parseDocument_eq_reader (text : Bytes) :
    parseDocument parsesDouble text =
      (readDocument parsesDouble parserRoom text).map Nested.value := by
  have finished (value : Value) (rest : Bytes) :
      resume parsesDouble (finishValue value [] rest) = finishDocument value rest := by
    rw [finishValue]
    cases finishDocument value rest <;> rfl
  have document (nested : Nested) (rest : Bytes) :
      finishDocument nested.value rest =
        ((finishDocument nested.value rest).map fun _ => nested).map Nested.value := by
    rw [finishDocument]
    split <;> rfl
  rw [parseDocument, readDocument, readValue]
  cases start : parseNextValue parsesDouble (skipWhitespace text) with
  | error failure => rfl
  | ok item =>
    obtain ⟨parsed, rest⟩ := item
    cases parsed with
    | complete value => exact document (.leaf value) rest
    | opens kind =>
      have hasRoom : parserRoom 0 = true := rfl
      have shorter := parseNextValue_length parsesDouble start
      have skipped := skipWhitespace_length text
      simp only [if_pos hasRoom]
      rw [parseLoop_eq_reader parsesDouble (text.length + 1) _ _ _ (by omega)]
      simp only [List.length_nil, Nat.zero_add]
      cases readContainer parsesDouble parserRoom (text.length + 1) 1 (Container.empty kind)
        rest with
      | error failure => rfl
      | ok found =>
        obtain ⟨nested, after⟩ := found
        simp only [finished]
        exact document nested after

end Refinement

/-! The limit, as a condition on a text that is read without one. -/

def noLimit (_ : Nat) : Bool := true

section Limit

variable {parsesDouble : Bytes → Bool}

/-- Reading within the limit is reading without one a text that opens few enough containers. -/
theorem readContainer_limit (fuel depth : Nat) (container : Container) (input : Bytes)
    (nested : Nested) (rest : Bytes) (shallow : depth ≤ jsonMaxNestingDepth) :
    readContainer parsesDouble parserRoom fuel depth container input = .ok (nested, rest) ↔
      readContainer parsesDouble noLimit fuel depth container input = .ok (nested, rest) ∧
        depth + nested.openNesting ≤ jsonMaxNestingDepth + 1 := by
  induction fuel generalizing depth container input nested rest with
  | zero => simp [readContainer]
  | succ fuel ih =>
    have child (parsed : ParsedValue) (start after : Bytes) (inner : Nested) :
        readChild parsesDouble parserRoom fuel depth parsed start = .ok (inner, after) ↔
          readChild parsesDouble noLimit fuel depth parsed start = .ok (inner, after) ∧
            depth + inner.openNesting ≤ jsonMaxNestingDepth := by
      cases parsed with
      | complete value =>
        simp only [readChild, Except.ok.injEq, Prod.mk.injEq]
        constructor
        · rintro ⟨rfl, rfl⟩
          exact ⟨⟨rfl, rfl⟩, shallow⟩
        · exact fun both => both.1
      | opens kind =>
        simp only [readChild, noLimit, if_true]
        by_cases room : parserRoom depth = true
        · have deeper : depth < jsonMaxNestingDepth := by simpa [parserRoom] using room
          rw [if_pos room, ih (depth + 1) _ _ _ _ deeper]
          simp only [and_congr_right_iff]
          omega
        · have full : jsonMaxNestingDepth ≤ depth := by simpa [parserRoom] using room
          rw [if_neg room]
          constructor
          · exact nofun
          · rintro ⟨read, bound⟩
            have positive := readContainer_openNesting_pos read
            omega
    constructor
    · intro read
      obtain ⟨waiting, parsed, afterStart, inner, afterChild, start, innerRead, separated⟩ :=
        readContainer_ok_iff.1 read
      obtain ⟨innerFree, innerBound⟩ := (child _ _ _ _).1 innerRead
      rcases separated with ⟨separator, rfl⟩ | ⟨afterComma, items, separator, itemsRead, rfl⟩
      · refine ⟨readContainer_ok_iff.2 ⟨_, _, _, _, _, start, innerFree, .inl ⟨separator, rfl⟩⟩, ?_⟩
        simp only [Nested.enclose]
        omega
      · obtain ⟨itemsFree, itemsBound⟩ := (ih depth _ _ _ _ shallow).1 itemsRead
        refine ⟨readContainer_ok_iff.2 ⟨_, _, _, _, _, start, innerFree,
          .inr ⟨_, _, separator, itemsFree, rfl⟩⟩, ?_⟩
        simp only [Nested.join]
        omega
    · rintro ⟨read, bound⟩
      obtain ⟨waiting, parsed, afterStart, inner, afterChild, start, innerFree, separated⟩ :=
        readContainer_ok_iff.1 read
      rcases separated with ⟨separator, rfl⟩ | ⟨afterComma, items, separator, itemsFree, rfl⟩
      · simp only [Nested.enclose] at bound
        have innerRead := (child _ _ _ _).2 ⟨innerFree, by omega⟩
        exact readContainer_ok_iff.2 ⟨_, _, _, _, _, start, innerRead, .inl ⟨separator, rfl⟩⟩
      · simp only [Nested.join] at bound
        have innerRead := (child _ _ _ _).2 ⟨innerFree, by omega⟩
        have itemsRead := (ih depth _ _ _ _ shallow).2 ⟨itemsFree, by omega⟩
        exact readContainer_ok_iff.2 ⟨_, _, _, _, _, start, innerRead,
          .inr ⟨_, _, separator, itemsRead, rfl⟩⟩

theorem readDocument_limit (text : Bytes) (nested : Nested) :
    readDocument parsesDouble parserRoom text = .ok nested ↔
      readDocument parsesDouble noLimit text = .ok nested ∧
        nested.openNesting ≤ jsonMaxNestingDepth := by
  have value (rest : Bytes) (found : Nested) :
      readValue parsesDouble parserRoom (text.length + 1) text = .ok (found, rest) ↔
        readValue parsesDouble noLimit (text.length + 1) text = .ok (found, rest) ∧
          found.openNesting ≤ jsonMaxNestingDepth := by
    have room : parserRoom 0 = true := rfl
    simp only [readValue]
    cases parseNextValue parsesDouble (skipWhitespace text) with
    | error failure => simp
    | ok result =>
      obtain ⟨parsed, afterStart⟩ := result
      cases parsed with
      | complete value =>
        simp only [Except.ok.injEq, Prod.mk.injEq]
        constructor
        · rintro ⟨rfl, rfl⟩
          exact ⟨⟨rfl, rfl⟩, Nat.zero_le _⟩
        · exact fun both => both.1
      | opens kind =>
        simp only [room, noLimit, if_true]
        rw [readContainer_limit (text.length + 1) 1 _ _ _ _ (by decide)]
        simp only [and_congr_right_iff]
        intro _
        omega
  have document {room : Nat → Bool} :
      readDocument parsesDouble room text = .ok nested ↔
        ∃ rest, readValue parsesDouble room (text.length + 1) text = .ok (nested, rest) ∧
          skipWhitespace rest = [] := by
    simp only [readDocument]
    cases readValue parsesDouble room (text.length + 1) text with
    | error failure => simp
    | ok result =>
      obtain ⟨found, rest⟩ := result
      simp only [finishDocument]
      cases skipped : skipWhitespace rest with
      | nil => simp [Except.map, skipped]
      | cons byte after => simp [Except.map, skipped]
  rw [document, document]
  constructor
  · rintro ⟨rest, read, finished⟩
    obtain ⟨free, bound⟩ := (value rest nested).1 read
    exact ⟨⟨rest, free, finished⟩, bound⟩
  · rintro ⟨⟨rest, free, finished⟩, bound⟩
    exact ⟨rest, (value rest nested).2 ⟨free, bound⟩, finished⟩

end Limit

end MyLite.Json
