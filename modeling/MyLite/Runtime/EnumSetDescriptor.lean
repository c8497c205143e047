import Mathlib.Data.List.DropRight
import MyLite.Library.Quoted

/-! The descriptor texts of ENUM and SET columns: what CREATE TABLE accepts and writes, and what
every later statement reads back. -/

namespace MyLite.EnumSet

def quote : UInt8 := 0x27

def backslash : UInt8 := 0x5c

def comma : UInt8 := 0x2c

def closing : UInt8 := 0x29

def space : UInt8 := 0x20

/-- `MYLITE_CATALOG_TYPE_NAME_CAPACITY`. -/
def typeNameCapacity : Nat := 1024

/-! UTF-8 texts. -/

def utf8ByteIsContinuation (byte : UInt8) : Bool := byte &&& 0xc0 = 0x80

/-- The length of the character a text begins with. -/
def utf8SequenceWidth : List UInt8 → Option Nat
  | [] => none
  | byte :: rest =>
    let second := rest.getD 0 0
    let third := rest.getD 1 0
    let fourth := rest.getD 2 0
    if byte ≤ 0x7f then some 1
    else if 0xc2 ≤ byte ∧ byte ≤ 0xdf then
      if 0 < rest.length ∧ utf8ByteIsContinuation second then some 2 else none
    else if byte = 0xe0 then
      if 1 < rest.length ∧ 0xa0 ≤ second ∧ second ≤ 0xbf ∧ utf8ByteIsContinuation third then some 3
      else none
    else if (0xe1 ≤ byte ∧ byte < 0xed) ∨ (0xed < byte ∧ byte ≤ 0xef) then
      if 1 < rest.length ∧ utf8ByteIsContinuation second ∧ utf8ByteIsContinuation third then some 3
      else none
    else if byte = 0xed then
      if 1 < rest.length ∧ 0x80 ≤ second ∧ second ≤ 0x9f ∧ utf8ByteIsContinuation third then some 3
      else none
    else if byte = 0xf0 then
      if 2 < rest.length ∧ 0x90 ≤ second ∧ second ≤ 0xbf ∧ utf8ByteIsContinuation third ∧
          utf8ByteIsContinuation fourth then some 4
      else none
    else if 0xf1 ≤ byte ∧ byte ≤ 0xf3 then
      if 2 < rest.length ∧ utf8ByteIsContinuation second ∧ utf8ByteIsContinuation third ∧
          utf8ByteIsContinuation fourth then some 4
      else none
    else if byte = 0xf4 then
      if 2 < rest.length ∧ 0x80 ≤ second ∧ second ≤ 0x8f ∧ utf8ByteIsContinuation third ∧
          utf8ByteIsContinuation fourth then some 4
      else none
    else none

/-- The characters from the byte after the next `skipped` ones on. -/
def countCharacters : Nat → List UInt8 → Option Nat
  | _, [] => some 0
  | skipped + 1, _ :: rest => countCharacters skipped rest
  | 0, byte :: rest =>
    match utf8SequenceWidth (byte :: rest) with
    | none => none
    | some width => (countCharacters (width - 1) rest).map (· + 1)

/-- The character count of a UTF-8 text. -/
def validateUtf8Text (text : List UInt8) : Option Nat := countCharacters 0 text

/-! The labels of an ENUM and the members of a SET. -/

def asciiLower (byte : UInt8) : UInt8 :=
  if 0x41 ≤ byte ∧ byte ≤ 0x5a then byte + 0x20 else byte

/-- `enum_label_equals_ascii_case_insensitive`. -/
def labelEquals (left right : List UInt8) : Bool := left.map asciiLower = right.map asciiLower

def trimTrailingAsciiSpaces (text : List UInt8) : List UInt8 :=
  text.rdropWhile fun byte => byte = space

structure LabelDescriptor where
  text : List UInt8
  characterLength : Nat
  deriving DecidableEq, Repr

/-- `struct enum_type_info` and `struct set_type_info`; `width` is the longest label of an ENUM and
the longest value of a SET. -/
structure TypeInfo where
  labels : List LabelDescriptor
  decodedLength : Nat
  width : Nat
  deriving DecidableEq, Repr

def TypeInfo.empty : TypeInfo := ⟨[], 0, 0⟩

inductive DescriptorError where
  | parse
  | unsupported (message : String)
  | duplicatedValue (label : List UInt8)
  | illegalSetValue (member : List UInt8)
  deriving DecidableEq, Repr

/-- What the functions for ENUM and those for SET differ in. -/
structure Kind where
  opening : List UInt8
  countCapacity : Nat
  tooMany : String
  hasNul : String
  notUtf8 : String
  tooLarge : String
  invalid : String
  /-- What only one kind refuses. -/
  refusal : List UInt8 → Option DescriptorError
  widen : TypeInfo → Nat → Nat

def enumKind : Kind where
  opening := [0x45, 0x4e, 0x55, 0x4d, 0x28]
  countCapacity := 255
  tooMany := "ENUM supports at most 255 labels in this build"
  hasNul := "ENUM labels do not support NUL bytes"
  notUtf8 := "ENUM labels must be valid UTF-8"
  tooLarge := "ENUM definition is too large for this MyLite build"
  invalid := "invalid ENUM descriptor"
  refusal _ := none
  widen info characterLength := max info.width characterLength

def setMemberContainsComma (text : List UInt8) : Bool := text.contains comma

def setKind : Kind where
  opening := [0x53, 0x45, 0x54, 0x28]
  countCapacity := 64
  tooMany := "SET supports at most 64 members in this build"
  hasNul := "SET members do not support NUL bytes"
  notUtf8 := "SET members must be valid UTF-8"
  tooLarge := "SET definition is too large for this MyLite build"
  invalid := "invalid SET descriptor"
  refusal text :=
    if text.isEmpty then some (.unsupported "SET empty-string members are not yet supported")
    else if setMemberContainsComma text then some (.illegalSetValue text)
    else none
  widen info characterLength :=
    if info.labels.isEmpty then info.width + characterLength
    else info.width + characterLength + 1

def TypeInfo.addLabel (kind : Kind) (info : TypeInfo) (text : List UInt8) (characterLength : Nat) :
    TypeInfo where
  labels := info.labels ++ [⟨text, characterLength⟩]
  decodedLength := info.decodedLength + text.length + 1
  width := kind.widen info characterLength

/-! CREATE TABLE. -/

/-- The escape of one byte of a label, as a piece of the quoted text. -/
def labelPiece (byte : UInt8) : Quoted.Piece UInt8 :=
  if byte = quote then .doubled
  else if byte = backslash then .escaped backslash
  else if byte = 0x0a then .escaped 0x6e
  else if byte = 0x0d then .escaped 0x72
  else if byte = 0x09 then .escaped 0x74
  else .plain byte

def labelQuoting : Quoted.Quoting UInt8 := ⟨quote, some backslash⟩

/-- `append_enum_quoted_label`: the bytes it appends. -/
def quotedLabel (text : List UInt8) : List UInt8 :=
  quote :: Quoted.spell labelQuoting (text.map labelPiece) ++ [quote]

/-- `append_enum_descriptor_label`. -/
def appendDescriptorLabel (descriptor text : List UInt8) (needsComma : Bool) : List UInt8 :=
  descriptor ++ (if needsComma then [comma] else []) ++ quotedLabel text

/-- `map_enum_label` and `map_set_member`, on the decoded literal. -/
def mapLabel (kind : Kind) (info : TypeInfo) (descriptor literal : List UInt8) :
    Except DescriptorError (TypeInfo × List UInt8) :=
  if info.labels.length ≥ kind.countCapacity then .error (.unsupported kind.tooMany)
  else if literal.contains 0 then .error (.unsupported kind.hasNul)
  else
    let text := trimTrailingAsciiSpaces literal
    match kind.refusal text with
    | some error => .error error
    | none =>
      match validateUtf8Text text with
      | none => .error (.unsupported kind.notUtf8)
      | some characterLength =>
        match info.labels.find? fun previous => labelEquals previous.text text with
        | some previous => .error (.duplicatedValue previous.text)
        | none =>
          if info.decodedLength + text.length + 1 > typeNameCapacity then
            .error (.unsupported kind.tooLarge)
          else
            .ok (info.addLabel kind text characterLength,
              appendDescriptorLabel descriptor text (info.labels.length ≠ 0))

def mapLabels (kind : Kind) (info : TypeInfo) (descriptor : List UInt8) :
    List (List UInt8) → Except DescriptorError (TypeInfo × List UInt8)
  | [] => .ok (info, descriptor)
  | literal :: rest =>
    match mapLabel kind info descriptor literal with
    | .error error => .error error
    | .ok (info, descriptor) => mapLabels kind info descriptor rest

/-- `map_enum_type` and `map_set_type`: the logical type. -/
def mapType (kind : Kind) (literals : List (List UInt8)) : Except DescriptorError (List UInt8) :=
  if literals.isEmpty then .error .parse
  else
    match mapLabels kind .empty kind.opening literals with
    | .error error => .error error
    | .ok (_, descriptor) =>
      let logicalType := descriptor ++ [closing]
      if logicalType.length ≥ typeNameCapacity then .error (.unsupported kind.tooLarge)
      else .ok logicalType

def mapEnumType : List (List UInt8) → Except DescriptorError (List UInt8) := mapType enumKind

def mapSetType : List (List UInt8) → Except DescriptorError (List UInt8) := mapType setKind

/-! Reading a descriptor. -/

/-- `read_enum_descriptor_escaped_byte` after its bounds check. -/
def descriptorEscapedByte (byte : UInt8) : UInt8 :=
  if byte = 0x6e then 0x0a
  else if byte = 0x72 then 0x0d
  else if byte = 0x74 then 0x09
  else byte

/-- `parse_enum_descriptor_label` behind the opening quote: the label and what follows it. -/
def parseLabelBytes (kind : Kind) (decodedLength : Nat) (label : List UInt8) :
    List UInt8 → Except DescriptorError (List UInt8 × List UInt8)
  | [] => .error (.unsupported kind.invalid)
  | [byte] =>
    if byte = quote then .ok (label, [])
    else if byte ≠ backslash ∧ decodedLength ≥ typeNameCapacity then
      .error (.unsupported kind.tooLarge)
    else .error (.unsupported kind.invalid)
  | byte :: next :: rest =>
    if byte = quote then
      if next ≠ quote then .ok (label, next :: rest)
      else if decodedLength ≥ typeNameCapacity then .error (.unsupported kind.tooLarge)
      else parseLabelBytes kind (decodedLength + 1) (label ++ [quote]) rest
    else if decodedLength ≥ typeNameCapacity then .error (.unsupported kind.tooLarge)
    else if byte = backslash then
      parseLabelBytes kind (decodedLength + 1) (label ++ [descriptorEscapedByte next]) rest
    else parseLabelBytes kind (decodedLength + 1) (label ++ [byte]) (next :: rest)

/-- `parse_enum_descriptor_label` with `finish_parse_enum_descriptor_label`. -/
def parseDescriptorLabel (kind : Kind) (info : TypeInfo) :
    List UInt8 → Except DescriptorError (TypeInfo × List UInt8)
  | [] => .error (.unsupported kind.invalid)
  | byte :: rest =>
    if byte ≠ quote then .error (.unsupported kind.invalid)
    else
      match parseLabelBytes kind info.decodedLength [] rest with
      | .error error => .error error
      | .ok (text, after) =>
        if info.decodedLength + text.length ≥ typeNameCapacity then
          .error (.unsupported kind.tooLarge)
        else
          match validateUtf8Text text with
          | none => .error (.unsupported kind.invalid)
          | some characterLength => .ok (info.addLabel kind text characterLength, after)

/-- The loop over the labels, for at most `fuel` of them. -/
def parseDescriptorLabels (kind : Kind) (unsupportedMessage : String) :
    Nat → TypeInfo → List UInt8 → Except DescriptorError TypeInfo
  | _, info, [] => .ok info
  | 0, _, _ :: _ => .error (.unsupported unsupportedMessage)
  | fuel + 1, info, byte :: rest =>
    match parseDescriptorLabel kind info (byte :: rest) with
    | .error error => .error error
    | .ok (info, []) => .ok info
    | .ok (info, next :: after) =>
      if next ≠ comma then .error (.unsupported unsupportedMessage)
      else parseDescriptorLabels kind unsupportedMessage fuel info after

/-- `enum_type_info_for_logical_type` and `set_type_info_for_logical_type`. The label count that
ends the loop is its fuel. -/
def typeInfoForLogicalType (kind : Kind) (unsupportedMessage : String) (logicalType : List UInt8) :
    Except DescriptorError TypeInfo :=
  if logicalType.length ≤ kind.opening.length + 1 ∨ ¬ kind.opening <+: logicalType ∨
      logicalType.getLast? ≠ some closing then
    .error (.unsupported unsupportedMessage)
  else
    match parseDescriptorLabels kind unsupportedMessage kind.countCapacity .empty
        ((logicalType.drop kind.opening.length).dropLast) with
    | .error error => .error error
    | .ok info => if info.labels.isEmpty then .error (.unsupported unsupportedMessage) else .ok info

def enumTypeInfoForLogicalType : String → List UInt8 → Except DescriptorError TypeInfo :=
  typeInfoForLogicalType enumKind

def setTypeInfoForLogicalType : String → List UInt8 → Except DescriptorError TypeInfo :=
  typeInfoForLogicalType setKind

/-! A label that was written. -/

theorem descriptorEscapedByte_piece {byte escaped : UInt8}
    (piece : labelPiece byte = .escaped escaped) : descriptorEscapedByte escaped = byte := by
  unfold labelPiece at piece
  split at piece
  · cases piece
  · split at piece
    · rename_i isBackslash
      cases piece
      exact isBackslash.symm
    · split at piece
      · rename_i isNewline
        cases piece
        exact isNewline.symm
      · split at piece
        · rename_i isReturn
          cases piece
          exact isReturn.symm
        · split at piece
          · rename_i isTab
            cases piece
            exact isTab.symm
          · cases piece

theorem labelPiece_plain {byte symbol : UInt8} (piece : labelPiece byte = .plain symbol) :
    symbol = byte ∧ byte ≠ quote ∧ byte ≠ backslash := by
  unfold labelPiece at piece
  split at piece
  · cases piece
  · split at piece
    · cases piece
    · rename_i notQuote notBackslash
      split at piece
      · cases piece
      · split at piece
        · cases piece
        · split at piece
          · cases piece
          · cases piece
            exact ⟨rfl, notQuote, notBackslash⟩

theorem labelPiece_doubled {byte : UInt8} (piece : labelPiece byte = .doubled) : byte = quote := by
  unfold labelPiece at piece
  split at piece
  · assumption
  · split at piece
    · cases piece
    · split at piece
      · cases piece
      · split at piece
        · cases piece
        · split at piece <;> cases piece

variable {kind : Kind} {info : TypeInfo} {text rest : List UInt8}

/-- The bytes of a label are read back as they were before they were escaped. -/
theorem parseLabelBytes_spell (kind : Kind) (label text : List UInt8) {decodedLength : Nat}
    (room : decodedLength + text.length ≤ typeNameCapacity)
    (closed : rest.head? ≠ some quote) :
    parseLabelBytes kind decodedLength label
        (Quoted.spell labelQuoting (text.map labelPiece) ++ quote :: rest) =
      .ok (label ++ text, rest) := by
  induction text generalizing decodedLength label with
  | nil =>
    cases rest with
    | nil => simp [parseLabelBytes]
    | cons next rest =>
      have apart : next ≠ quote := by simpa using closed
      simp [parseLabelBytes, apart]
  | cons byte text ih =>
    rw [List.length_cons] at room
    have notFull : ¬ decodedLength ≥ typeNameCapacity := by omega
    have later : ∀ added, parseLabelBytes kind (decodedLength + 1) (label ++ [added])
        (Quoted.spell labelQuoting (text.map labelPiece) ++ quote :: rest) =
          .ok (label ++ added :: text, rest) := by
      intro added
      rw [ih _ (by omega), List.append_assoc, List.singleton_append]
    rw [List.map_cons, Quoted.spell_cons, List.append_assoc]
    cases piece : labelPiece byte with
    | doubled =>
      have isQuote := labelPiece_doubled piece
      subst isQuote
      simp only [Quoted.Piece.spelling, labelQuoting, List.cons_append, List.nil_append,
        parseLabelBytes, if_neg notFull, if_true, ne_eq, not_true_eq_false, if_false]
      exact later quote
    | escaped symbol =>
      have stands := descriptorEscapedByte_piece piece
      have apart : backslash ≠ quote := by decide
      simp only [Quoted.Piece.spelling, labelQuoting, Option.toList_some, List.cons_append,
        List.nil_append, parseLabelBytes, if_neg notFull, if_neg apart, if_true, stands]
      exact later _
    | plain symbol =>
      obtain ⟨rfl, notQuote, notBackslash⟩ := labelPiece_plain piece
      -- what follows a plain byte is never empty: the closing quote is there
      obtain ⟨next, following, spelled⟩ : ∃ next following,
          Quoted.spell labelQuoting (text.map labelPiece) ++ quote :: rest = next :: following :=
        List.exists_cons_of_ne_nil (by simp)
      rw [spelled] at later ⊢
      simp only [Quoted.Piece.spelling, List.cons_append, List.nil_append, parseLabelBytes,
        if_neg notQuote, if_neg notFull, if_neg notBackslash]
      exact later _

/-- A written label is read as it is. -/
theorem parseDescriptorLabel_quoted (kind : Kind) (info : TypeInfo) {characterLength : Nat}
    (room : info.decodedLength + text.length + 1 ≤ typeNameCapacity)
    (valid : validateUtf8Text text = some characterLength) (closed : rest.head? ≠ some quote) :
    parseDescriptorLabel kind info (quotedLabel text ++ rest) =
      .ok (info.addLabel kind text characterLength, rest) := by
  have read := parseLabelBytes_spell kind [] text
    (Nat.le_trans (Nat.le_succ _) room : info.decodedLength + text.length ≤ typeNameCapacity)
    closed
  have notFull : ¬ info.decodedLength + text.length ≥ typeNameCapacity := by omega
  have spelled : quotedLabel text ++ rest =
      quote :: (Quoted.spell labelQuoting (text.map labelPiece) ++ quote :: rest) := by
    simp [quotedLabel]
  rw [spelled, parseDescriptorLabel, if_neg (not_not_intro rfl), read]
  simp only [List.nil_append, if_neg notFull, valid]

theorem length_quotedLabel (text : List UInt8) : text.length + 2 ≤ (quotedLabel text).length := by
  have grows : text.length ≤ (Quoted.spell labelQuoting (text.map labelPiece)).length := by
    induction text with
    | nil => exact Nat.le_refl 0
    | cons byte text ih =>
      rw [List.map_cons, Quoted.spell_cons, List.length_append, List.length_cons]
      have one : 1 ≤ ((labelPiece byte).spelling labelQuoting).length := by
        cases labelPiece byte <;> simp [Quoted.Piece.spelling, labelQuoting]
      omega
  simp only [quotedLabel, List.length_append, List.length_cons, List.length_nil]
  omega

/-! A whole descriptor. -/

/-- The labels behind the first one, each after its comma. -/
def laterLabels (texts : List (List UInt8)) : List UInt8 :=
  texts.flatMap fun text => comma :: quotedLabel text

/-- The descriptor of the labels. -/
def descriptorText (kind : Kind) : List (List UInt8) → List UInt8
  | [] => kind.opening ++ [closing]
  | text :: texts => kind.opening ++ (quotedLabel text ++ laterLabels texts) ++ [closing]

/-- The labels as a statement knows them. -/
def TypeInfo.addLabels (kind : Kind) (info : TypeInfo) (texts : List (List UInt8)) : TypeInfo :=
  texts.foldl (fun info text => info.addLabel kind text ((validateUtf8Text text).getD 0)) info

theorem addLabels_labels (kind : Kind) (info : TypeInfo) (texts : List (List UInt8)) :
    (info.addLabels kind texts).labels.map LabelDescriptor.text =
      info.labels.map LabelDescriptor.text ++ texts := by
  induction texts generalizing info with
  | nil => simp [TypeInfo.addLabels]
  | cons text texts ih =>
    rw [TypeInfo.addLabels, List.foldl_cons, ← TypeInfo.addLabels, ih]
    simp [TypeInfo.addLabel]

/-- The room that the labels take, each with the NUL behind it. -/
def decodedRoom (texts : List (List UInt8)) : Nat :=
  texts.foldr (fun text room => text.length + 1 + room) 0

theorem laterLabels_head (texts : List (List UInt8)) :
    (laterLabels texts).head? ≠ some quote := by
  cases texts with
  | nil => simp [laterLabels]
  | cons text texts =>
    have apart : comma ≠ quote := by decide
    simp [laterLabels, apart]

/-- What the first label adds to those that are known. -/
theorem addLabels_cons {characterLength : Nat} (kind : Kind) (info : TypeInfo)
    (texts : List (List UInt8)) (counted : validateUtf8Text text = some characterLength) :
    info.addLabels kind (text :: texts) =
      (info.addLabel kind text characterLength).addLabels kind texts := by
  rw [TypeInfo.addLabels, List.foldl_cons, counted]
  rfl

/-- Labels that are separated by commas are read one after the other. -/
theorem parseDescriptorLabels_joined (kind : Kind) (info : TypeInfo) (unsupportedMessage : String)
    {texts : List (List UInt8)} {rounds : Nat} (count : texts.length ≤ rounds)
    (valid : ∀ each ∈ text :: texts, (validateUtf8Text each).isSome = true)
    (room : info.decodedLength + decodedRoom (text :: texts) ≤ typeNameCapacity) :
    parseDescriptorLabels kind unsupportedMessage (rounds + 1) info
        (quotedLabel text ++ laterLabels texts) =
      .ok (info.addLabels kind (text :: texts)) := by
  induction texts generalizing info text rounds with
  | nil =>
    obtain ⟨characterLength, counted⟩ := Option.isSome_iff_exists.mp (valid text List.mem_cons_self)
    simp only [decodedRoom, List.foldr_cons, List.foldr_nil] at room
    have read := parseDescriptorLabel_quoted kind info (by omega) counted (laterLabels_head [])
    have behind : quotedLabel text ++ laterLabels [] =
        quote :: ((quotedLabel text).tail ++ laterLabels []) := rfl
    rw [addLabels_cons kind info [] counted, behind, parseDescriptorLabels, ← behind, read]
    rfl
  | cons next texts ih =>
    obtain ⟨characterLength, counted⟩ := Option.isSome_iff_exists.mp (valid text List.mem_cons_self)
    rw [decodedRoom, List.foldr_cons, ← decodedRoom] at room
    have read := parseDescriptorLabel_quoted kind info (by omega) counted
      (laterLabels_head (next :: texts))
    have behind : quotedLabel text ++ laterLabels (next :: texts) =
        quote :: ((quotedLabel text).tail ++ laterLabels (next :: texts)) := rfl
    have separated : laterLabels (next :: texts) =
        comma :: (quotedLabel next ++ laterLabels texts) := rfl
    obtain ⟨fewer, rfl⟩ := Nat.exists_eq_add_of_le' (Nat.le_trans (Nat.succ_pos _) count)
    rw [addLabels_cons kind info (next :: texts) counted, behind, parseDescriptorLabels, ← behind,
      read, separated]
    simp only [ne_eq, not_true_eq_false, if_false]
    refine ih _ (Nat.le_of_succ_le_succ count)
      (fun each member => valid each (List.mem_cons_of_mem _ member)) ?_
    simp only [TypeInfo.addLabel]
    omega

/-! What CREATE TABLE accepts. -/

/-- A literal that can become the next label. -/
structure TakesLabel (kind : Kind) (info : TypeInfo) (literal : List UInt8)
    (characterLength : Nat) : Prop where
  count : info.labels.length < kind.countCapacity
  noNul : 0 ∉ literal
  allowed : kind.refusal (trimTrailingAsciiSpaces literal) = none
  utf8 : validateUtf8Text (trimTrailingAsciiSpaces literal) = some characterLength
  fresh : ∀ previous ∈ info.labels,
    labelEquals previous.text (trimTrailingAsciiSpaces literal) = false
  room : info.decodedLength + (trimTrailingAsciiSpaces literal).length + 1 ≤ typeNameCapacity

theorem mapLabel_ok_iff {descriptor literal : List UInt8} {next : TypeInfo × List UInt8} :
    mapLabel kind info descriptor literal = .ok next ↔
      ∃ characterLength, TakesLabel kind info literal characterLength ∧
        next = (info.addLabel kind (trimTrailingAsciiSpaces literal) characterLength,
          appendDescriptorLabel descriptor (trimTrailingAsciiSpaces literal)
            (info.labels.length ≠ 0)) := by
  unfold mapLabel
  dsimp only
  generalize named : trimTrailingAsciiSpaces literal = text
  constructor
  · intro mapped
    split at mapped
    · cases mapped
    · rename_i count
      split at mapped
      · cases mapped
      · rename_i noNul
        cases allowed : kind.refusal text with
        | some error =>
          rw [allowed] at mapped
          cases mapped
        | none =>
          rw [allowed] at mapped
          cases utf8 : validateUtf8Text text with
          | none =>
            rw [utf8] at mapped
            cases mapped
          | some characterLength =>
            rw [utf8] at mapped
            dsimp only at mapped
            split at mapped
            · cases mapped
            · rename_i fresh
              split at mapped
              · cases mapped
              · rename_i room
                refine ⟨characterLength, ⟨Nat.lt_of_not_ge count, ?_, ?_, ?_, ?_, ?_⟩,
                  (Except.ok.inj mapped).symm⟩
                · simpa using noNul
                · rw [named]
                  exact allowed
                · rw [named]
                  exact utf8
                · intro previous member
                  rw [named]
                  simpa using List.find?_eq_none.mp fresh previous member
                · rw [named]
                  exact Nat.le_of_not_gt room
  · rintro ⟨characterLength, takes, rfl⟩
    obtain ⟨count, noNul, allowed, utf8, fresh, room⟩ := takes
    rw [named] at allowed utf8 fresh room
    have fresh' : info.labels.find? (fun previous => labelEquals previous.text text) = none :=
      List.find?_eq_none.mpr fun previous member => by simp [fresh previous member]
    rw [if_neg (Nat.not_le_of_lt count), if_neg (by simpa using noNul)]
    simp only [allowed, utf8, fresh']
    rw [if_neg (Nat.not_lt_of_le room)]

/-- Literals that can become the next labels. -/
structure TakesLabels (kind : Kind) (info : TypeInfo) (literals : List (List UInt8)) : Prop where
  count : literals ≠ [] → info.labels.length + literals.length ≤ kind.countCapacity
  noNul : ∀ literal ∈ literals, 0 ∉ literal
  allowed : ∀ literal ∈ literals, kind.refusal (trimTrailingAsciiSpaces literal) = none
  utf8 : ∀ literal ∈ literals,
    (validateUtf8Text (trimTrailingAsciiSpaces literal)).isSome = true
  distinct : (literals.map trimTrailingAsciiSpaces).Pairwise
    fun left right => labelEquals left right = false
  fresh : ∀ previous ∈ info.labels, ∀ literal ∈ literals,
    labelEquals previous.text (trimTrailingAsciiSpaces literal) = false
  room : literals ≠ [] → info.decodedLength +
    decodedRoom (literals.map trimTrailingAsciiSpaces) ≤ typeNameCapacity

theorem decodedRoom_cons (text : List UInt8) (texts : List (List UInt8)) :
    decodedRoom (text :: texts) = text.length + 1 + decodedRoom texts := rfl

theorem takesLabels_cons {literal : List UInt8} {literals : List (List UInt8)} :
    TakesLabels kind info (literal :: literals) ↔
      ∃ characterLength, TakesLabel kind info literal characterLength ∧
        TakesLabels kind
          (info.addLabel kind (trimTrailingAsciiSpaces literal) characterLength) literals := by
  constructor
  · intro takes
    obtain ⟨characterLength, utf8⟩ := Option.isSome_iff_exists.mp
      (takes.utf8 literal List.mem_cons_self)
    have count := takes.count (List.cons_ne_nil _ _)
    have room := takes.room (List.cons_ne_nil _ _)
    rw [List.map_cons, decodedRoom_cons] at room
    rw [List.length_cons] at count
    have distinct := takes.distinct
    rw [List.map_cons, List.pairwise_cons] at distinct
    refine ⟨characterLength, ⟨by omega, takes.noNul literal List.mem_cons_self,
      takes.allowed literal List.mem_cons_self, utf8,
      fun previous member => takes.fresh previous member literal List.mem_cons_self, by omega⟩,
      ⟨fun _ => ?_, fun later member => takes.noNul later (List.mem_cons_of_mem _ member),
        fun later member => takes.allowed later (List.mem_cons_of_mem _ member),
        fun later member => takes.utf8 later (List.mem_cons_of_mem _ member), distinct.2, ?_,
        fun _ => ?_⟩⟩
    · simp only [TypeInfo.addLabel, List.length_append, List.length_singleton]
      omega
    · intro previous member later laterMember
      rcases List.mem_append.mp member with known | new
      · exact takes.fresh previous known later (List.mem_cons_of_mem _ laterMember)
      · rw [List.mem_singleton.mp new]
        exact distinct.1 _ (List.mem_map_of_mem laterMember)
    · simp only [TypeInfo.addLabel]
      omega
  · rintro ⟨characterLength, first, others⟩
    have others' := others.fresh ⟨trimTrailingAsciiSpaces literal, characterLength⟩
      (by simp [TypeInfo.addLabel])
    refine ⟨fun _ => ?_, ?_, ?_, ?_, ?_, ?_, fun _ => ?_⟩
    · have count := first.count
      have more := others.count
      simp only [TypeInfo.addLabel, List.length_append, List.length_singleton] at more
      cases literals with
      | nil => exact count
      | cons _ _ =>
        have total := more (List.cons_ne_nil _ _)
        simp only [List.length_cons] at total ⊢
        omega
    · exact List.forall_mem_cons.mpr ⟨first.noNul, others.noNul⟩
    · exact List.forall_mem_cons.mpr ⟨first.allowed, others.allowed⟩
    · exact List.forall_mem_cons.mpr ⟨by rw [first.utf8]; rfl, others.utf8⟩
    · rw [List.map_cons, List.pairwise_cons]
      refine ⟨fun text member => ?_, others.distinct⟩
      obtain ⟨later, laterMember, rfl⟩ := List.mem_map.mp member
      exact others' later laterMember
    · intro previous member
      refine List.forall_mem_cons.mpr ⟨first.fresh previous member, fun later laterMember => ?_⟩
      exact others.fresh previous (List.mem_append_left _ member) later laterMember
    · have room := first.room
      have more := others.room
      rw [List.map_cons, decodedRoom_cons]
      simp only [TypeInfo.addLabel] at more
      cases literals with
      | nil =>
        simp only [List.map_nil, decodedRoom, List.foldr_nil]
        omega
      | cons _ _ =>
        have total := more (List.cons_ne_nil _ _)
        omega

/-- The descriptor with labels behind it. -/
def appendLabels (descriptor : List UInt8) (needsComma : Bool) : List (List UInt8) → List UInt8
  | [] => descriptor
  | text :: texts => appendLabels (appendDescriptorLabel descriptor text needsComma) true texts

theorem appendLabels_true (descriptor : List UInt8) (texts : List (List UInt8)) :
    appendLabels descriptor true texts = descriptor ++ laterLabels texts := by
  induction texts generalizing descriptor with
  | nil => exact (List.append_nil _).symm
  | cons text texts ih =>
    rw [appendLabels, ih]
    simp [appendDescriptorLabel, laterLabels]

theorem mapLabels_ok_iff {descriptor : List UInt8} {literals : List (List UInt8)}
    {next : TypeInfo × List UInt8} :
    mapLabels kind info descriptor literals = .ok next ↔
      TakesLabels kind info literals ∧
        next = (info.addLabels kind (literals.map trimTrailingAsciiSpaces),
          appendLabels descriptor (info.labels.length ≠ 0)
            (literals.map trimTrailingAsciiSpaces)) := by
  induction literals generalizing info descriptor with
  | nil =>
    have takes : TakesLabels kind info [] :=
      ⟨fun some_ => absurd rfl some_, by simp, by simp, by simp, .nil, by simp,
        fun some_ => absurd rfl some_⟩
    rw [mapLabels, Except.ok.injEq]
    exact ⟨fun same => ⟨takes, same.symm⟩, fun same => same.2.symm⟩
  | cons literal literals ih =>
    rw [mapLabels, takesLabels_cons]
    cases mapped : mapLabel kind info descriptor literal with
    | error error =>
      constructor
      · intro failed
        cases failed
      · rintro ⟨⟨characterLength, takes, -⟩, -⟩
        rw [mapLabel_ok_iff.mpr ⟨characterLength, takes, rfl⟩] at mapped
        cases mapped
    | ok middle =>
      obtain ⟨characterLength, takes, rfl⟩ := mapLabel_ok_iff.mp mapped
      have notFirst : decide ((info.addLabel kind (trimTrailingAsciiSpaces literal)
          characterLength).labels.length ≠ 0) = true := by
        simp [TypeInfo.addLabel]
      dsimp only
      rw [ih, notFirst, List.map_cons, addLabels_cons kind info _ takes.utf8, appendLabels]
      constructor
      · rintro ⟨others, rfl⟩
        exact ⟨⟨characterLength, takes, others⟩, rfl⟩
      · rintro ⟨⟨other, takes', others⟩, rfl⟩
        have same : other = characterLength :=
          Option.some.inj (takes'.utf8.symm.trans takes.utf8)
        subst same
        exact ⟨others, rfl⟩

/-- A list of labels that makes a column type. -/
structure Definition (kind : Kind) (literals : List (List UInt8)) : Prop where
  nonempty : literals ≠ []
  count : literals.length ≤ kind.countCapacity
  noNul : ∀ literal ∈ literals, 0 ∉ literal
  allowed : ∀ literal ∈ literals, kind.refusal (trimTrailingAsciiSpaces literal) = none
  utf8 : ∀ literal ∈ literals,
    (validateUtf8Text (trimTrailingAsciiSpaces literal)).isSome = true
  distinct : (literals.map trimTrailingAsciiSpaces).Pairwise
    fun left right => labelEquals left right = false

theorem decodedRoom_laterLabels (texts : List (List UInt8)) :
    decodedRoom texts ≤ (laterLabels texts).length := by
  induction texts with
  | nil => exact Nat.le_refl 0
  | cons text texts ih =>
    have quoted := length_quotedLabel text
    simp only [decodedRoom_cons, laterLabels, List.flatMap_cons, List.length_append,
      List.length_cons] at ih ⊢
    omega

/-- The labels of a descriptor take less room than the descriptor. -/
theorem decodedRoom_descriptorText (kind : Kind) (texts : List (List UInt8)) :
    decodedRoom texts ≤ (descriptorText kind texts).length := by
  cases texts with
  | nil => exact Nat.zero_le _
  | cons text texts =>
    have quoted := length_quotedLabel text
    have later := decodedRoom_laterLabels texts
    simp only [decodedRoom_cons, descriptorText, List.length_append]
    omega

theorem appendLabels_descriptorText (kind : Kind) {texts : List (List UInt8)}
    (nonempty : texts ≠ []) :
    appendLabels kind.opening false texts ++ [closing] = descriptorText kind texts := by
  cases texts with
  | nil => exact absurd rfl nonempty
  | cons text texts =>
    rw [appendLabels, appendLabels_true]
    simp [appendDescriptorLabel, descriptorText]

/-- CREATE TABLE accepts exactly the definitions whose descriptor fits, and stores it. -/
theorem mapType_eq_ok_iff (kind : Kind) (literals : List (List UInt8))
    (logicalType : List UInt8) :
    mapType kind literals = .ok logicalType ↔
      Definition kind literals ∧
        logicalType = descriptorText kind (literals.map trimTrailingAsciiSpaces) ∧
        logicalType.length < typeNameCapacity := by
  unfold mapType
  by_cases nonempty : literals = []
  · subst nonempty
    constructor
    · intro failed
      cases failed
    · rintro ⟨definition, -⟩
      exact absurd rfl definition.nonempty
  · have some_ : literals.isEmpty = false := by simpa using nonempty
    have textsSome : literals.map trimTrailingAsciiSpaces ≠ [] := by simpa using nonempty
    have text := appendLabels_descriptorText kind textsSome
    have smaller := decodedRoom_descriptorText kind (literals.map trimTrailingAsciiSpaces)
    rw [some_, if_neg Bool.false_ne_true]
    constructor
    · intro mapped
      split at mapped
      · cases mapped
      · rename_i next result
        obtain ⟨takes, same⟩ := mapLabels_ok_iff.mp result
        cases same
        dsimp only at mapped
        split at mapped
        · cases mapped
        · rename_i fits
          cases mapped
          have count := takes.count nonempty
          rw [show TypeInfo.empty.labels.length = 0 from rfl, Nat.zero_add] at count
          exact ⟨⟨nonempty, count, takes.noNul, takes.allowed, takes.utf8, takes.distinct⟩, text,
            Nat.lt_of_not_ge fits⟩
    · rintro ⟨definition, rfl, fits⟩
      have takes : TakesLabels kind .empty literals := by
        refine ⟨fun _ => ?_, definition.noNul, definition.allowed, definition.utf8,
          definition.distinct, fun previous member => ?_, fun _ => ?_⟩
        · simpa [TypeInfo.empty] using definition.count
        · cases member
        · simp only [TypeInfo.empty]
          omega
      have mapped : mapLabels kind .empty kind.opening literals = .ok
          (TypeInfo.empty.addLabels kind (literals.map trimTrailingAsciiSpaces),
            appendLabels kind.opening false (literals.map trimTrailingAsciiSpaces)) :=
        mapLabels_ok_iff.mpr ⟨takes, rfl⟩
      simp only [mapped, text]
      rw [if_neg (Nat.not_le_of_lt fits)]

/-- What is read back from the descriptor of a definition. -/
theorem typeInfo_descriptorText (unsupportedMessage : String) {literals : List (List UInt8)}
    (definition : Definition kind literals)
    (fits : (descriptorText kind (literals.map trimTrailingAsciiSpaces)).length <
      typeNameCapacity) :
    typeInfoForLogicalType kind unsupportedMessage
        (descriptorText kind (literals.map trimTrailingAsciiSpaces)) =
      .ok (TypeInfo.empty.addLabels kind (literals.map trimTrailingAsciiSpaces)) := by
  have smaller := decodedRoom_descriptorText kind (literals.map trimTrailingAsciiSpaces)
  have count := definition.count
  have utf8 : ∀ text ∈ literals.map trimTrailingAsciiSpaces,
      (validateUtf8Text text).isSome = true := List.forall_mem_map.mpr definition.utf8
  have labels := addLabels_labels kind .empty (literals.map trimTrailingAsciiSpaces)
  cases literals with
  | nil => exact absurd rfl definition.nonempty
  | cons literal literals =>
    rw [List.length_cons] at count
    obtain ⟨rounds, capacity⟩ := Nat.exists_eq_add_of_le' (Nat.le_trans (Nat.succ_pos _) count)
    rw [List.map_cons] at fits smaller utf8 labels ⊢
    have quoted := length_quotedLabel (trimTrailingAsciiSpaces literal)
    have opened : kind.opening <+: descriptorText kind
        (trimTrailingAsciiSpaces literal :: literals.map trimTrailingAsciiSpaces) := by
      rw [descriptorText, List.append_assoc]
      exact List.prefix_append _ _
    have inner : ((descriptorText kind (trimTrailingAsciiSpaces literal ::
        literals.map trimTrailingAsciiSpaces)).drop kind.opening.length).dropLast =
          quotedLabel (trimTrailingAsciiSpaces literal) ++
            laterLabels (literals.map trimTrailingAsciiSpaces) := by
      rw [descriptorText, List.append_assoc, List.drop_left, List.dropLast_concat]
    have enough : (literals.map trimTrailingAsciiSpaces).length ≤ rounds := by
      rw [List.length_map]
      omega
    have read := parseDescriptorLabels_joined kind .empty unsupportedMessage enough utf8
      (by simp only [TypeInfo.empty]; omega)
    have some_ : (TypeInfo.empty.addLabels kind (trimTrailingAsciiSpaces literal ::
        literals.map trimTrailingAsciiSpaces)).labels.isEmpty = false := by
      rw [← List.isEmpty_map (f := LabelDescriptor.text), labels]
      rfl
    unfold typeInfoForLogicalType
    rw [inner, capacity, if_neg, read]
    · simp only [some_, Bool.false_eq_true, if_false]
    · simp only [not_or, not_not]
      refine ⟨?_, opened, ?_⟩
      · simp only [descriptorText, List.length_append, List.length_singleton]
        omega
      · rw [descriptorText, List.getLast?_concat]

theorem addLabels_characterLength (kind : Kind) {info : TypeInfo} {texts : List (List UInt8)}
    (counted : ∀ label ∈ info.labels, validateUtf8Text label.text = some label.characterLength)
    (valid : ∀ text ∈ texts, (validateUtf8Text text).isSome = true) :
    ∀ label ∈ (info.addLabels kind texts).labels,
      validateUtf8Text label.text = some label.characterLength := by
  induction texts generalizing info with
  | nil => exact counted
  | cons text texts ih =>
    obtain ⟨characterLength, utf8⟩ := Option.isSome_iff_exists.mp (valid text List.mem_cons_self)
    rw [addLabels_cons kind info texts utf8]
    refine ih (fun label member => ?_)
      (fun later member => valid later (List.mem_cons_of_mem _ member))
    rcases List.mem_append.mp member with known | new
    · exact counted label known
    · rw [List.mem_singleton.mp new]
      exact utf8

/-- CREATE TABLE accepts exactly the definitions whose descriptor fits, and every later statement
reads their labels back from it. -/
theorem definition_stored (kind : Kind) (unsupportedMessage : String)
    (literals : List (List UInt8)) :
    (∃ logicalType info, mapType kind literals = .ok logicalType ∧
      typeInfoForLogicalType kind unsupportedMessage logicalType = .ok info ∧
      info.labels.map LabelDescriptor.text = literals.map trimTrailingAsciiSpaces ∧
      ∀ label ∈ info.labels, validateUtf8Text label.text = some label.characterLength) ↔
    Definition kind literals ∧
      (descriptorText kind (literals.map trimTrailingAsciiSpaces)).length < typeNameCapacity := by
  constructor
  · rintro ⟨logicalType, info, mapped, -⟩
    obtain ⟨definition, rfl, fits⟩ := (mapType_eq_ok_iff kind literals logicalType).mp mapped
    exact ⟨definition, fits⟩
  · rintro ⟨definition, fits⟩
    refine ⟨_, _, (mapType_eq_ok_iff kind literals _).mpr ⟨definition, rfl, fits⟩,
      typeInfo_descriptorText unsupportedMessage definition fits, ?_, ?_⟩
    · rw [addLabels_labels]
      rfl
    · refine addLabels_characterLength kind (fun label member => ?_)
        (List.forall_mem_map.mpr definition.utf8)
      cases member

end MyLite.EnumSet
