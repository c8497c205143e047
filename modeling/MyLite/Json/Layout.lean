import MyLite.Json.Printable

/-! The texts of a value with any blanks between its tokens: the parser reads each of them as the
value. -/
namespace MyLite.Json

/-! Strings. -/

theorem hexDigits_control : ∀ value < 32,
    parseHexDigit (hexDigitByte (UInt8.ofNat value >>> 4)) = some (value / 16) ∧
      parseHexDigit (hexDigitByte (UInt8.ofNat value &&& 0x0f)) = some (value % 16) ∧
      (value / 16) <<< 4 ||| value % 16 = value := by
  decide

/-- The four digits of an escaped control byte. -/
theorem parseHexDigits_control {byte : UInt8} (control : byte < jsonControlByteLimit)
    (rest : Bytes) :
    parseHexDigits 4 0
        (0x30 :: 0x30 :: hexDigitByte (byte >>> 4) :: hexDigitByte (byte &&& 0x0f) :: rest) =
      .ok (byte.toNat, rest) := by
  obtain ⟨high, low, joined⟩ := hexDigits_control byte.toNat control
  rw [UInt8.ofNat_toNat] at high low
  have zero : parseHexDigit 0x30 = some 0 := rfl
  simp only [parseHexDigits, zero, high, low, Nat.zero_shiftLeft, Nat.zero_or, joined]

theorem parseStringEscape_writerAppendJsonEscape {byte : UInt8} (nonzero : byte ≠ 0)
    (escaped : byte = 0x22 ∨ byte = 0x5c ∨ byte < jsonControlByteLimit) (rest : Bytes) :
    ∃ tail, writerAppendJsonEscape byte ++ rest = 0x5c :: tail ∧
      parseStringEscape (0x5c :: tail) tail = .ok (byte, rest) := by
  rw [writerAppendJsonEscape]
  repeat'
    split
    · rename_i same
      subst same
      exact ⟨_, rfl, rfl⟩
  rename_i notQuote notBackslash _ _ _ _ _
  have control : byte < jsonControlByteLimit := by
    simpa only [notQuote, notBackslash, false_or] using escaped
  have small : byte.toNat < 32 := control
  have inside : ¬(byte.toNat = 0 ∨ jsonAsciiByteLimit < byte.toNat) := by
    rw [not_or]
    refine ⟨fun zero => nonzero ?_, by rw [jsonAsciiByteLimit]; omega⟩
    rw [← UInt8.ofNat_toNat (x := byte), zero]
    rfl
  refine ⟨_, rfl, ?_⟩
  simp only [parseStringEscape, List.append_eq, List.nil_append, List.cons_append]
  rw [parseHexDigits_control control]
  simp [inside]

theorem parseStringBody_emitByte {byte : UInt8} (nonzero : byte ≠ 0) (rest : Bytes) :
    parseStringBody (emitByte byte ++ rest) =
      (parseStringBody rest).map fun (text, after) => (byte :: text, after) := by
  by_cases escaped : byte = 0x22 ∨ byte = 0x5c ∨ byte < jsonControlByteLimit
  · obtain ⟨tail, text, escape⟩ := parseStringEscape_writerAppendJsonEscape nonzero escaped rest
    rw [emitByte, if_pos escaped, text, parseStringBody_escape, escape]
  · rw [emitByte, if_neg escaped]
    simp only [not_or, UInt8.not_lt] at escaped
    exact parseStringBody_plain rest escaped.1 escaped.2.1 escaped.2.2

theorem parseString_emitString {text : Bytes} (noNul : 0 ∉ text) (rest : Bytes) :
    parseString (emitString text ++ rest) = .ok (text, rest) := by
  have body : parseStringBody (text.flatMap emitByte ++ 0x22 :: rest) = .ok (text, rest) := by
    induction text with
    | nil => rw [List.flatMap_nil, List.nil_append, parseStringBody, if_pos rfl]
    | cons byte text ih =>
      rw [List.mem_cons, not_or] at noNul
      rw [List.flatMap_cons, List.append_assoc, parseStringBody_emitByte (Ne.symm noNul.1),
        ih noNul.2]
      rfl
  have quoted : emitString text ++ rest = 0x22 :: (text.flatMap emitByte ++ 0x22 :: rest) := by
    simp [emitString]
  rw [quoted, parseString, parserMatch_cons]
  exact body

/-! The bytes around a value. -/

/-- A byte that can start a value: no blank and no closing bracket. -/
def StartsValue (byte : UInt8) : Prop :=
  isWhitespace byte = false ∧ byte ≠ 0x5d ∧ byte ≠ 0x7d

instance (byte : UInt8) : Decidable (StartsValue byte) :=
  inferInstanceAs (Decidable (_ ∧ _ ∧ _))

theorem skipWhitespace_cons {byte : UInt8} (rest : Bytes) (visible : isWhitespace byte = false) :
    skipWhitespace (byte :: rest) = byte :: rest := by
  simp [skipWhitespace, visible]

theorem startsValue_of_isDecimalDigit {byte : UInt8} (digit : isDecimalDigit byte = true) :
    StartsValue byte := by
  simp only [isDecimalDigit, Bool.and_eq_true, decide_eq_true_eq] at digit
  refine ⟨?_, ?_, ?_⟩
  · simp only [isWhitespace]
    grind
  · rintro rfl
    exact absurd digit.2 (by decide)
  · rintro rfl
    exact absurd digit.2 (by decide)

/-! Blanks. -/

def Blank (blanks : Bytes) : Prop :=
  ∀ byte ∈ blanks, isWhitespace byte = true

theorem blank_nil : Blank [] :=
  nofun

theorem skipWhitespace_blank {blanks : Bytes} (blank : Blank blanks) (rest : Bytes) :
    skipWhitespace (blanks ++ rest) = skipWhitespace rest :=
  List.dropWhile_append_of_pos blank

theorem skipWhitespace_blank_cons {blanks : Bytes} {byte : UInt8} (blank : Blank blanks)
    (rest : Bytes) (visible : isWhitespace byte = false) :
    skipWhitespace (blanks ++ byte :: rest) = byte :: rest := by
  rw [skipWhitespace_blank blank, skipWhitespace_cons rest visible]

theorem numberEnds_cons {byte : UInt8} (rest : Bytes)
    (ends : isDecimalDigit byte = false ∧ byte ≠ 0x2e ∧ isExponentMark byte = false) :
    NumberEnds (byte :: rest) := by
  intro other mem
  cases mem
  exact ends

theorem numberEnds_blank {blanks rest : Bytes} (blank : Blank blanks) (ends : NumberEnds rest) :
    NumberEnds (blanks ++ rest) := by
  cases blanks with
  | nil => exact ends
  | cons byte blanks =>
    have white := blank byte (List.mem_cons_self ..)
    simp only [isWhitespace, Bool.or_eq_true, beq_iff_eq] at white
    rcases white with ((rfl | rfl) | rfl) | rfl
    all_goals exact numberEnds_cons _ (by decide)

section Layout

variable {parsesDouble : Bytes → Bool}

theorem Printable.text_head {room : Nat} {value : Value}
    (printable : Printable parsesDouble room value) :
    ∃ byte tail, value.text = byte :: tail ∧ StartsValue byte := by
  cases printable with
  | null => exact ⟨_, _, by rw [Value.text]; rfl, by decide⟩
  | bool room boolean =>
    cases boolean
    · exact ⟨0x66, _, by rw [Value.text]; rfl, by decide⟩
    · exact ⟨0x74, _, by rw [Value.text]; rfl, by decide⟩
  | number room spelling =>
    obtain ⟨byte, tail, text, minus | digit⟩ := spelling.starts
    · subst minus
      exact ⟨_, _, by rw [Value.text, text], by decide⟩
    · exact ⟨_, _, by rw [Value.text, text], startsValue_of_isDecimalDigit digit⟩
  | string room noNul => exact ⟨0x22, _, by rw [Value.text]; rfl, by decide⟩
  | emptyArray => exact ⟨0x5b, _, by rw [Value.text], by decide⟩
  | emptyObject => exact ⟨0x7b, _, by rw [Value.text], by decide⟩
  | array nonempty items => exact ⟨0x5b, _, by rw [Value.text], by decide⟩
  | object nonempty sorted noNul items =>
    exact ⟨0x7b, _, by rw [Value.text], by decide⟩

/-- An item followed by its container's closing bracket ends the container. -/
theorem readContainer_close {fuel depth : Nat} {container : Container}
    {input start blanks rest : Bytes} {waiting : Waiting} {parsed : ParsedValue} {child : Nested}
    (item : parseNextItem parsesDouble container input = .ok ((waiting, parsed), start))
    (blank : Blank blanks)
    (read : readChild parsesDouble parserRoom fuel depth parsed start =
      .ok (child, blanks ++ (waiting.store child.value).closing :: rest)) :
    readContainer parsesDouble parserRoom (fuel + 1) depth container input =
      .ok (child.enclose (waiting.store child.value).close, rest) := by
  have visible : isWhitespace (waiting.store child.value).closing = false := by
    cases waiting <;> rfl
  refine readContainer_ok_iff.2 ⟨_, _, _, _, _, item, read, .inl ⟨?_, rfl⟩⟩
  rw [readSeparator, skipWhitespace_blank_cons blank _ visible]
  simp only [if_true]

/-- An item followed by a separator goes on with the next item. -/
theorem readContainer_comma {fuel depth : Nat} {container : Container} {byte : UInt8}
    {input start blanks tail rest : Bytes} {waiting : Waiting} {parsed : ParsedValue}
    {child items : Nested}
    (item : parseNextItem parsesDouble container input = .ok ((waiting, parsed), start))
    (blank : Blank blanks)
    (read : readChild parsesDouble parserRoom fuel depth parsed start =
      .ok (child, 0x2c :: (blanks ++ byte :: tail)))
    (visible : isWhitespace byte = false)
    (others : readContainer parsesDouble parserRoom fuel depth (waiting.store child.value)
      (byte :: tail) = .ok (items, rest)) :
    readContainer parsesDouble parserRoom (fuel + 1) depth container input =
      .ok (child.join items, rest) := by
  have goesOn : ¬(0x2c : UInt8) = (waiting.store child.value).closing := by
    cases waiting with
    | object members key => exact (by decide : ¬(0x2c : UInt8) = 0x7d)
    | array values => exact (by decide : ¬(0x2c : UInt8) = 0x5d)
  refine readContainer_ok_iff.2 ⟨_, _, _, _, _, item, read, .inr ⟨_, _, ?_, others, rfl⟩⟩
  rw [readSeparator, skipWhitespace_cons _ (by decide)]
  simp only [if_neg goesOn, if_true, skipWhitespace_blank_cons blank _ visible]

/-- The text in front of `rest` reads as the value inside `depth` open containers. -/
def ReadsAs (parsesDouble : Bytes → Bool) (fuel depth : Nat) (value : Value) (text rest : Bytes) :
    Prop :=
  ∃ parsed start nested,
    parseNextValue parsesDouble (text ++ rest) = .ok (parsed, start) ∧
    readChild parsesDouble parserRoom fuel depth parsed start = .ok (nested, rest) ∧
    nested.value = value

theorem readsAs_complete {fuel depth : Nat} {value : Value} {text rest : Bytes}
    (read : parseNextValue parsesDouble (text ++ rest) = .ok (.complete value, rest)) :
    ReadsAs parsesDouble fuel depth value text rest :=
  ⟨_, _, .leaf value, read, rfl, rfl⟩

/-- A container that opens reads as a value when its items do. -/
theorem readsAs_opens {fuel depth : Nat} {value : Value} {text rest items : Bytes}
    (kind : ContainerKind) {nested : Nested} (room : depth < jsonMaxNestingDepth)
    (opened : parseNextValue parsesDouble (text ++ rest) = .ok (.opens kind, items))
    (read : readContainer parsesDouble parserRoom fuel (depth + 1) (Container.empty kind) items =
      .ok (nested, rest))
    (same : nested.value = value) : ReadsAs parsesDouble fuel depth value text rest := by
  refine ⟨_, _, nested, opened, ?_, same⟩
  have allowed : parserRoom depth = true := by simpa [parserRoom] using room
  simp only [readChild, if_pos allowed]
  exact read

/-- The items after the first one, each behind a comma and blanks. -/
def separatedBy (blanks : Bytes) (texts : List Bytes) : Bytes :=
  texts.flatMap fun text => 0x2c :: (blanks ++ text)

def memberSpelling (key text : Bytes) : Bytes :=
  emitString key ++ 0x3a :: 0x20 :: text

theorem numberEnds_separatedBy (blanks : Bytes) {last : Bytes} (texts : List Bytes)
    (container : Container) (rest : Bytes) (blank : Blank last) :
    NumberEnds (separatedBy blanks texts ++ (last ++ container.closing :: rest)) := by
  cases texts with
  | nil =>
    rw [separatedBy, List.flatMap_nil, List.nil_append]
    refine numberEnds_blank blank ?_
    cases container with
    | object members => exact @numberEnds_cons 0x7d _ (by decide)
    | array values => exact @numberEnds_cons 0x5d _ (by decide)
  | cons text texts => exact numberEnds_cons _ (by decide)

/-- `text` in front of a separator is an item that makes `next` of `container`. -/
structure ReadsItem (parsesDouble : Bytes → Bool) (depth : Nat) (container next : Container)
    (text : Bytes) : Prop where
  visible : ∃ byte tail, text = byte :: tail ∧ isWhitespace byte = false
  reads : ∀ fuel rest, NumberEnds rest → (text ++ rest).length ≤ fuel →
    ∃ waiting parsed start child,
      parseNextItem parsesDouble container (text ++ rest) = .ok ((waiting, parsed), start) ∧
      readChild parsesDouble parserRoom fuel depth parsed start = .ok (child, rest) ∧
      waiting.store child.value = next

/-- A first item and the others after it, up to the last container. -/
inductive ReadsItems (parsesDouble : Bytes → Bool) (depth : Nat) :
    Container → Bytes → List Bytes → Container → Prop where
  | last {container final : Container} {text : Bytes}
      (item : ReadsItem parsesDouble depth container final text) :
      ReadsItems parsesDouble depth container text [] final
  | more {container next final : Container} {text second : Bytes} {texts : List Bytes}
      (item : ReadsItem parsesDouble depth container next text)
      (items : ReadsItems parsesDouble depth next second texts final) :
      ReadsItems parsesDouble depth container text (second :: texts) final

theorem ReadsItems.readContainer {depth : Nat} {container final : Container} {text : Bytes}
    {texts : List Bytes} (items : ReadsItems parsesDouble depth container text texts final)
    {between last : Bytes} (betweenBlank : Blank between) (lastBlank : Blank last) (fuel : Nat)
    (rest : Bytes)
    (enough : (text ++ (separatedBy between texts ++ (last ++ final.closing :: rest))).length <
      fuel) :
    ∃ nested, Json.readContainer parsesDouble parserRoom fuel depth container
        (text ++ (separatedBy between texts ++ (last ++ final.closing :: rest))) =
          .ok (nested, rest) ∧
      nested.value = final.close := by
  induction items generalizing fuel with
  | @last container final text item =>
    obtain ⟨fuel, rfl⟩ := Nat.exists_eq_succ_of_ne_zero (by omega : fuel ≠ 0)
    obtain ⟨waiting, parsed, start, child, position, read, rfl⟩ :=
      item.reads fuel _ (numberEnds_separatedBy between [] final rest lastBlank) (by omega)
    exact ⟨_, readContainer_close position lastBlank read, rfl⟩
  | @more container next final text second texts item items ih =>
    obtain ⟨fuel, rfl⟩ := Nat.exists_eq_succ_of_ne_zero (by omega : fuel ≠ 0)
    obtain ⟨waiting, parsed, start, child, position, read, rfl⟩ :=
      item.reads fuel _ (numberEnds_separatedBy between (second :: texts) final rest lastBlank)
        (by omega)
    obtain ⟨byte, tail, secondText, visible⟩ : ∃ byte tail, second = byte :: tail ∧
        isWhitespace byte = false := by
      cases items with
      | last item => exact item.visible
      | more item items => exact item.visible
    have after : separatedBy between (second :: texts) ++ (last ++ final.closing :: rest) =
        0x2c :: (between ++
          (second ++ (separatedBy between texts ++ (last ++ final.closing :: rest)))) := by
      simp [separatedBy]
    rw [after] at read position enough ⊢
    obtain ⟨nested, others, value⟩ := ih fuel (by
      simp only [List.length_append, List.length_cons] at enough ⊢
      omega)
    rw [secondText, List.cons_append] at read others position ⊢
    exact ⟨_, readContainer_comma position betweenBlank read visible others, value⟩

theorem readsItems_array {depth : Nat} (done : List Value) {values : List Value} {value : Value}
    {spell : Value → Bytes}
    (reads : ∀ other ∈ value :: values, ∀ container : List Value,
      ReadsItem parsesDouble depth (.array container) (.array (container ++ [other]))
        (spell other)) :
    ReadsItems parsesDouble depth (.array done) (spell value) (values.map spell)
      (.array (done ++ value :: values)) := by
  induction values generalizing done value with
  | nil => exact .last (reads value (List.mem_cons_self ..) done)
  | cons next values ih =>
    have items := ih (done ++ [value]) fun other mem =>
      reads other (List.mem_cons_of_mem _ mem)
    rw [List.append_assoc, List.singleton_append] at items
    exact .more (reads value (List.mem_cons_self ..) done) items

theorem SortedKeys.notMem_before {done members : List Member} {member : Member}
    (sorted : SortedKeys (done ++ member :: members)) : member.1 ∉ done.map Prod.fst := by
  intro mem
  obtain ⟨other, inDone, same⟩ := List.mem_map.1 mem
  have less := (List.pairwise_append.1 sorted).2.2 other inDone member (List.mem_cons_self ..)
  exact less.ne same

/-- Members in key order are stored one after the other. -/
theorem readsItems_object {depth : Nat} (done : List Member) {members : List Member}
    {member : Member} {spell : Member → Bytes}
    (sorted : SortedKeys (done ++ member :: members))
    (reads : ∀ other ∈ member :: members, ∀ container : List Member,
      ReadsItem parsesDouble depth (.object container)
        (.object (objectAppendMember container other.1 other.2)) (spell other)) :
    ReadsItems parsesDouble depth (.object done) (spell member) (members.map spell)
      (.object (done ++ member :: members)) := by
  induction members generalizing done member with
  | nil =>
    have item := reads member (List.mem_cons_self ..) done
    rw [objectAppendMember_of_notMem _ sorted.notMem_before] at item
    exact .last item
  | cons next members ih =>
    have item := reads member (List.mem_cons_self ..) done
    rw [objectAppendMember_of_notMem _ sorted.notMem_before] at item
    have items := ih (done ++ [member])
      (by rw [List.append_assoc, List.singleton_append]; exact sorted)
      fun other mem => reads other (List.mem_cons_of_mem _ mem)
    rw [List.append_assoc, List.singleton_append] at items
    exact .more item items

/-- A text that starts a value, and reads as it in front of anything. -/
structure ReadsValue (parsesDouble : Bytes → Bool) (depth : Nat) (value : Value) (text : Bytes) :
    Prop where
  starts : ∃ byte tail, text = byte :: tail ∧ StartsValue byte
  back : ∀ fuel rest, NumberEnds rest → (text ++ rest).length ≤ fuel →
    ReadsAs parsesDouble fuel depth value text rest

theorem ReadsValue.element {depth : Nat} {value : Value} {text : Bytes}
    (reads : ReadsValue parsesDouble depth value text) (container : List Value) :
    ReadsItem parsesDouble depth (.array container) (.array (container ++ [value])) text := by
  obtain ⟨byte, tail, same, starts⟩ := reads.starts
  refine ⟨⟨byte, tail, same, starts.1⟩, ?_⟩
  intro fuel rest ends enough
  obtain ⟨parsed, start, child, read, childRead, rfl⟩ := reads.back fuel rest ends enough
  refine ⟨.array container, parsed, start, child, ?_, childRead, rfl⟩
  simp only [parseNextItem, parseNextPosition, read]
  rfl

theorem ReadsValue.member {depth : Nat} {key text : Bytes} {value : Value} (noNul : 0 ∉ key)
    (reads : ReadsValue parsesDouble depth value text) (container : List Member) :
    ReadsItem parsesDouble depth (.object container)
      (.object (objectAppendMember container key value)) (memberSpelling key text) := by
  obtain ⟨byte, tail, same, starts⟩ := reads.starts
  refine ⟨⟨0x22, _, rfl, rfl⟩, ?_⟩
  intro fuel rest ends enough
  have whole : memberSpelling key text ++ rest =
      emitString key ++ 0x3a :: 0x20 :: (text ++ rest) := by
    simp [memberSpelling]
  have shorter : (text ++ rest).length ≤ fuel := by
    rw [whole] at enough
    simp only [List.length_append, List.length_cons] at enough ⊢
    omega
  obtain ⟨parsed, start, child, read, childRead, rfl⟩ := reads.back fuel rest ends shorter
  refine ⟨.object container key, parsed, start, child, ?_, childRead, rfl⟩
  have skipped : skipWhitespace (0x20 :: (text ++ rest)) = text ++ rest := by
    have blank : isWhitespace 0x20 = true := rfl
    simp only [same, List.cons_append]
    simp [skipWhitespace, blank, starts.1]
  have name : parseMemberName (memberSpelling key text ++ rest) = .ok (key, text ++ rest) := by
    have quote : (memberSpelling key text ++ rest).head? = some 0x22 := rfl
    rw [parseMemberName, if_neg (not_not.2 quote), whole, parseString_emitString noNul]
    simp only [skipWhitespace_cons _ (by decide : isWhitespace 0x3a = false), parserMatch_cons,
      skipped]
  simp only [parseNextItem, parseNextPosition, name, Except.map, read]

theorem parseOpening_opens (kind : ContainerKind) {blanks : Bytes} {byte : UInt8} (tail : Bytes)
    (blank : Blank blanks) (starts : StartsValue byte) :
    parseOpening kind (blanks ++ byte :: tail) = (.opens kind, byte :: tail) := by
  have noClose : parserMatch (Container.empty kind).closing (byte :: tail) = none := by
    cases kind with
    | object => exact if_neg starts.2.2
    | array => exact if_neg starts.2.1
  rw [parseOpening, skipWhitespace_blank_cons blank _ starts.1, noClose]

/-- A scalar or an empty container reads back from its text. -/
theorem Printable.readsScalar {room : Nat} {value : Value}
    (printable : Printable parsesDouble room value) (leaf : value.isContainer = false)
    (depth : Nat) : ReadsValue parsesDouble depth value value.text := by
  refine ⟨printable.text_head, fun fuel rest ends _ => readsAs_complete ?_⟩
  cases printable with
  | null => rfl
  | bool room boolean => cases boolean <;> rfl
  | @number room kind text spelling =>
    obtain ⟨byte, tail, rfl, first⟩ := spelling.starts
    have digit : byte = 0x2d ∨ isDecimalDigit byte = true := first
    have others : byte ≠ 0x7b ∧ byte ≠ 0x5b ∧ byte ≠ 0x22 := by
      refine ⟨?_, ?_, ?_⟩
      all_goals
        rintro rfl
        exact absurd first (by decide)
    have read := spelling.reads rest ends
    rw [Value.text, List.cons_append] at *
    simp only [parseNextValue, if_neg others.1, if_neg others.2.1, if_neg others.2.2, if_pos digit,
      read]
    rfl
  | @string room text noNul =>
    have read := parseString_emitString noNul rest
    rw [Value.text]
    simp only [emitString, List.cons_append] at read ⊢
    simp only [parseNextValue, read]
    rfl
  | _ => cases leaf

/-- The texts of a value. -/
inductive Layout : Value → Bytes → Prop where
  | scalar {value : Value} (leaf : value.isContainer = false) : Layout value value.text
  | emptyArray : Layout (.array []) [0x5b, 0x5d]
  | emptyObject : Layout (.object []) [0x7b, 0x7d]
  | array {value : Value} {values : List Value} {spell : Value → Bytes}
      {first between last : Bytes} (firstBlank : Blank first) (betweenBlank : Blank between)
      (lastBlank : Blank last) (items : ∀ item ∈ value :: values, Layout item (spell item)) :
      Layout (.array (value :: values))
        (0x5b :: (first ++
          (spell value ++ (separatedBy between (values.map spell) ++ (last ++ [0x5d])))))
  | object {member : Member} {members : List Member} {spell : Value → Bytes}
      {first between last : Bytes} (firstBlank : Blank first) (betweenBlank : Blank between)
      (lastBlank : Blank last)
      (items : ∀ item ∈ member :: members, Layout item.2 (spell item.2)) :
      Layout (.object (member :: members))
        (0x7b :: (first ++
          (memberSpelling member.1 (spell member.2) ++
            (separatedBy between (members.map fun item => memberSpelling item.1 (spell item.2)) ++
              (last ++ [0x7d])))))

/-- Every text of a printable value reads as the value. -/
theorem Layout.reads {value : Value} {text : Bytes} (layout : Layout value text) {room : Nat}
    (printable : Printable parsesDouble room value) (depth : Nat)
    (fits : depth + room ≤ jsonMaxNestingDepth) : ReadsValue parsesDouble depth value text := by
  induction layout generalizing room depth with
  | scalar leaf => exact printable.readsScalar leaf depth
  | emptyArray => exact ⟨⟨_, _, rfl, by decide⟩, fun _ _ _ _ => readsAs_complete rfl⟩
  | emptyObject => exact ⟨⟨_, _, rfl, by decide⟩, fun _ _ _ _ => readsAs_complete rfl⟩
  | @array value values spell first between last firstBlank betweenBlank lastBlank layouts ih =>
    cases printable with
    | @array room _ nonempty items =>
      refine ⟨⟨_, _, rfl, by decide⟩, fun fuel rest ends enough => ?_⟩
      have reads (other : Value) (mem : other ∈ value :: values) :=
        ih other mem (items other mem) (depth + 1) (by omega)
      obtain ⟨byte, tail, same, starts⟩ := (reads value (List.mem_cons_self ..)).starts
      have whole : 0x5b :: (first ++ (spell value ++
          (separatedBy between (values.map spell) ++ (last ++ [0x5d])))) ++ rest =
          0x5b :: (first ++ (spell value ++
            (separatedBy between (values.map spell) ++ (last ++ 0x5d :: rest)))) := by
        simp
      rw [whole, List.length_cons, List.length_append] at enough
      have shorter : (spell value ++ (separatedBy between (values.map spell) ++
          (last ++ 0x5d :: rest))).length < fuel := by
        omega
      obtain ⟨nested, read, value⟩ :=
        (readsItems_array [] fun other mem => (reads other mem).element).readContainer betweenBlank
          lastBlank fuel rest shorter
      refine readsAs_opens .array (by omega) ?_ read value
      rw [whole, same, List.cons_append]
      exact congrArg Except.ok (parseOpening_opens .array _ firstBlank starts)
  | @object member members spell first between last firstBlank betweenBlank lastBlank layouts ih =>
    cases printable with
    | @object room _ nonempty sorted noNul items =>
      refine ⟨⟨_, _, rfl, by decide⟩, fun fuel rest ends enough => ?_⟩
      have reads (other : Member) (mem : other ∈ member :: members) (container : List Member) :=
        (ih other mem (items other mem) (depth + 1) (by omega)).member (noNul other mem) container
      have whole : 0x7b :: (first ++ (memberSpelling member.1 (spell member.2) ++
          (separatedBy between (members.map fun item => memberSpelling item.1 (spell item.2)) ++
            (last ++ [0x7d])))) ++ rest =
          0x7b :: (first ++ (memberSpelling member.1 (spell member.2) ++
            (separatedBy between (members.map fun item => memberSpelling item.1 (spell item.2)) ++
              (last ++ 0x7d :: rest)))) := by
        simp
      rw [whole, List.length_cons, List.length_append] at enough
      have shorter : (memberSpelling member.1 (spell member.2) ++
          (separatedBy between (members.map fun item => memberSpelling item.1 (spell item.2)) ++
            (last ++ 0x7d :: rest))).length < fuel := by
        omega
      obtain ⟨nested, read, value⟩ := (readsItems_object [] sorted reads).readContainer betweenBlank
        lastBlank fuel rest shorter
      refine readsAs_opens .object (by omega) ?_ read ?_
      · rw [whole]
        exact congrArg Except.ok
          (parseOpening_opens .object _ firstBlank (by decide : StartsValue 0x22))
      · rw [value, Container.close, List.nil_append, sorted.sort_eq]

/-- Every text of a printable value parses to the value. -/
theorem Layout.parseDocument {value : Value} {text : Bytes} (layout : Layout value text)
    (printable : Printable parsesDouble jsonMaxNestingDepth value) :
    Json.parseDocument parsesDouble text = .ok value := by
  have reads := layout.reads printable 0 (by decide)
  obtain ⟨byte, tail, same, starts⟩ := reads.starts
  have skipped : skipWhitespace text = text := by
    rw [same, skipWhitespace_cons _ starts.1]
  obtain ⟨parsed, start, nested, read, childRead, found⟩ :=
    reads.back (text.length + 1) [] nofun (by simp)
  rw [List.append_nil] at read
  have whole : readValue parsesDouble parserRoom (text.length + 1) text = .ok (nested, []) := by
    rw [readValue, skipped, read]
    cases parsed <;> exact childRead
  rw [parseDocument_eq_reader, readDocument, whole, ← found]
  rfl

end Layout

end MyLite.Json
