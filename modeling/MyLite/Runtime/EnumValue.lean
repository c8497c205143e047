import MyLite.Numeric.UnsignedLiteral
import MyLite.Runtime.EnumSetDescriptor

/-! The values of ENUM columns: the label that a literal stores, and the rows that a literal in
WHERE selects. -/

namespace MyLite.EnumSet

open UnsignedLiteral (parseUnsignedIntegerLiteral)

structure Column where
  name : List UInt8
  logicalType : List UInt8
  deriving DecidableEq, Repr

inductive ValueError where
  | unsupported (message : String)
  | descriptor (error : DescriptorError)
  | dataTruncated (column : List UInt8) (rowNumber : Nat)
  | misuse
  deriving DecidableEq, Repr

inductive Sign where
  | negative
  | positive
  | other
  deriving DecidableEq, Repr

/-- A string literal is its decoded bytes. -/
inductive Literal where
  | string (text : List UInt8)
  | integer (text : List UInt8)
  | other
  deriving DecidableEq, Repr

/-- A literal, or a unary expression of one. -/
structure ValueNode where
  sign : Option Sign
  literal : Literal
  deriving DecidableEq, Repr

/-- `enum_literal_ordinal`: the ordinal, and whether it is negative. -/
def enumLiteralOrdinal (node : ValueNode) : Option (Nat × Bool) :=
  match node.literal with
  | .integer text =>
    if node.sign = some .other then none
    else (parseUnsignedIntegerLiteral text).map (·, node.sign = some .negative)
  | _ => none

/-! ENUM. -/

def enumFindLabel (info : TypeInfo) (text : List UInt8) : Option LabelDescriptor :=
  info.labels.find? fun label => labelEquals label.text text

def enumFindOrdinal (info : TypeInfo) (ordinal : Nat) : Option LabelDescriptor :=
  if ordinal = 0 then none else info.labels[ordinal - 1]?

def enumDescriptorMessage : String := "statement supports only baseline ENUM descriptors"

structure EnumStringPolicy where
  allowNumericOrdinalFallback : Bool
  missingIsError : Bool
  trimsTrailingSpaces : Bool

/-- The label that a text names when no label is equal to it. -/
def enumOrdinalFallback (policy : EnumStringPolicy) (info : TypeInfo) (text : List UInt8) :
    Option LabelDescriptor :=
  if policy.allowNumericOrdinalFallback then
    (parseUnsignedIntegerLiteral text).bind (enumFindOrdinal info)
  else none

def convertEnumStringLiteral (column : Column) (rowNumber : Nat) (policy : EnumStringPolicy)
    (node : ValueNode) : Except ValueError (List UInt8) :=
  match node.sign, node.literal with
  | none, .string decoded =>
    if (validateUtf8Text decoded).isNone then
      .error (.unsupported "ENUM values must be valid UTF-8")
    else
      let text := if policy.trimsTrailingSpaces then trimTrailingAsciiSpaces decoded else decoded
      match enumTypeInfoForLogicalType enumDescriptorMessage column.logicalType with
      | .error error => .error (.descriptor error)
      | .ok info =>
        match (enumFindLabel info text).or (enumOrdinalFallback policy info text) with
        | some label => .ok label.text
        | none =>
          if policy.missingIsError then .error (.dataTruncated column.name rowNumber)
          else .ok text
  | _, _ => .error (.unsupported "ENUM values support only string or integer literals")

/-- `convert_enum_integer_literal`; the value of no label is one NUL. -/
def convertEnumIntegerLiteral (column : Column) (rowNumber : Nat) (missingIsError : Bool)
    (node : ValueNode) : Except ValueError (List UInt8) :=
  match enumLiteralOrdinal node with
  | none => .error (.unsupported "ENUM values support only string or integer literals")
  | some (ordinal, isNegative) =>
    match enumTypeInfoForLogicalType enumDescriptorMessage column.logicalType with
    | .error error => .error (.descriptor error)
    | .ok info =>
      match if isNegative then none else enumFindOrdinal info ordinal with
      | some label => .ok label.text
      | none =>
        if missingIsError then .error (.dataTruncated column.name rowNumber) else .ok [0]

/-- The value that INSERT stores. -/
def convertEnumLiteral (column : Column) (rowNumber : Nat) (node : ValueNode) :
    Except ValueError (List UInt8) :=
  match node.literal with
  | .string _ => convertEnumStringLiteral column rowNumber ⟨true, true, true⟩ node
  | _ => convertEnumIntegerLiteral column rowNumber true node

/-- The value that WHERE compares the stored one with. -/
def convertPredicateEnumLiteral (column : Column) (node : ValueNode) :
    Except ValueError (List UInt8) :=
  match node.literal with
  | .string _ => convertEnumStringLiteral column 1 ⟨false, false, false⟩ node
  | _ => convertEnumIntegerLiteral column 1 false node

/-! Labels that differ. -/

theorem labelEquals_iff {left right : List UInt8} :
    labelEquals left right = true ↔ left.map asciiLower = right.map asciiLower := by
  rw [labelEquals, decide_eq_true_iff]

theorem labelEquals_self (text : List UInt8) : labelEquals text text = true :=
  labelEquals_iff.mpr rfl

section Labels

variable {labels : List (List UInt8)}

/-- No two labels are equal but for case. -/
def Distinct (labels : List (List UInt8)) : Prop :=
  labels.Pairwise fun left right => labelEquals left right = false

theorem Distinct.index_eq (distinct : Distinct labels) {left right : Nat}
    {leftLabel rightLabel text : List UInt8} (leftStands : labels[left]? = some leftLabel)
    (rightStands : labels[right]? = some rightLabel) (leftNamed : labelEquals leftLabel text = true)
    (rightNamed : labelEquals rightLabel text = true) : left = right := by
  obtain ⟨leftBound, rfl⟩ := List.getElem?_eq_some_iff.mp leftStands
  obtain ⟨rightBound, rfl⟩ := List.getElem?_eq_some_iff.mp rightStands
  have same : (labels[left]).map asciiLower = (labels[right]).map asciiLower :=
    (labelEquals_iff.mp leftNamed).trans (labelEquals_iff.mp rightNamed).symm
  have apart := List.pairwise_iff_getElem.mp distinct
  rcases Nat.lt_trichotomy left right with below | rfl | above
  · have differ := apart left right leftBound rightBound below
    rw [labelEquals_iff.mpr same] at differ
    cases differ
  · rfl
  · have differ := apart right left rightBound leftBound above
    rw [labelEquals_iff.mpr same.symm] at differ
    cases differ

/-- A text names one label at most. -/
theorem find_label_iff (distinct : Distinct labels) {text label : List UInt8} :
    labels.find? (fun each => labelEquals each text) = some label ↔
      label ∈ labels ∧ labelEquals label text = true := by
  constructor
  · intro found
    exact ⟨List.mem_of_find?_eq_some found,
      List.find?_some (p := fun each => labelEquals each text) found⟩
  · rintro ⟨member, named⟩
    cases found : labels.find? (fun each => labelEquals each text) with
    | none => exact absurd named (List.find?_eq_none.mp found label member)
    | some other =>
      have otherNamed := List.find?_some (p := fun each => labelEquals each text) found
      obtain ⟨index, stands⟩ := List.getElem?_of_mem member
      obtain ⟨otherIndex, otherStands⟩ :=
        List.getElem?_of_mem (List.mem_of_find?_eq_some found)
      have same := distinct.index_eq otherStands stands otherNamed named
      rw [same, stands] at otherStands
      exact otherStands.symm

end Labels

/-- What every statement knows of a column that was created with these literals. -/
structure Known (kind : Kind) (literals : List (List UInt8)) (logicalType : List UInt8)
    (info : TypeInfo) : Prop where
  read : ∀ unsupportedMessage, typeInfoForLogicalType kind unsupportedMessage logicalType = .ok info
  labels : info.labels.map LabelDescriptor.text = literals.map trimTrailingAsciiSpaces
  definition : Definition kind literals

theorem mapType_known {kind : Kind} {literals : List (List UInt8)} {logicalType : List UInt8}
    (created : mapType kind literals = .ok logicalType) :
    ∃ info, Known kind literals logicalType info := by
  obtain ⟨definition, rfl, fits⟩ := (mapType_eq_ok_iff kind literals logicalType).mp created
  exact ⟨_, fun message => typeInfo_descriptorText message definition fits,
    addLabels_labels kind .empty _, definition⟩

section Known

variable {kind : Kind} {literals : List (List UInt8)} {logicalType : List UInt8} {info : TypeInfo}

theorem Known.findLabel (known : Known kind literals logicalType info) (text : List UInt8) :
    (enumFindLabel info text).map LabelDescriptor.text =
      (literals.map trimTrailingAsciiSpaces).find? fun label => labelEquals label text := by
  rw [← known.labels, List.find?_map]
  rfl

theorem Known.findOrdinal (known : Known kind literals logicalType info) (ordinal : Nat) :
    (enumFindOrdinal info (ordinal + 1)).map LabelDescriptor.text =
      (literals.map trimTrailingAsciiSpaces)[ordinal]? := by
  rw [← known.labels, List.getElem?_map]
  rfl

theorem Known.length (known : Known kind literals logicalType info) :
    info.labels.length = literals.length := by
  rw [← List.length_map LabelDescriptor.text, known.labels, List.length_map]

end Known

/-! What an ENUM stores, and what WHERE selects. -/

/-- The literal names the label: by its text, by its ordinal, or by a text that is an ordinal and
no label. -/
inductive NamesLabel (labels : List (List UInt8)) : ValueNode → List UInt8 → Prop where
  | text {text label : List UInt8} (utf8 : (validateUtf8Text text).isSome = true)
      (member : label ∈ labels)
      (named : labelEquals label (trimTrailingAsciiSpaces text) = true) :
      NamesLabel labels ⟨none, .string text⟩ label
  | textOrdinal {text label : List UInt8} {index : Nat}
      (utf8 : (validateUtf8Text text).isSome = true)
      (unnamed : ∀ other ∈ labels, labelEquals other (trimTrailingAsciiSpaces text) = false)
      (number : parseUnsignedIntegerLiteral (trimTrailingAsciiSpaces text) = some (index + 1))
      (stands : labels[index]? = some label) :
      NamesLabel labels ⟨none, .string text⟩ label
  | ordinal {node : ValueNode} {label : List UInt8} {index : Nat}
      (number : enumLiteralOrdinal node = some (index + 1, false))
      (stands : labels[index]? = some label) :
      NamesLabel labels node label

/-- The literal names the label in WHERE, where the text stands as it is. -/
inductive SelectsLabel (labels : List (List UInt8)) : ValueNode → List UInt8 → Prop where
  | text {text label : List UInt8} (utf8 : (validateUtf8Text text).isSome = true)
      (named : labelEquals label text = true) :
      SelectsLabel labels ⟨none, .string text⟩ label
  | ordinal {node : ValueNode} {label : List UInt8} {index : Nat}
      (number : enumLiteralOrdinal node = some (index + 1, false))
      (stands : labels[index]? = some label) :
      SelectsLabel labels node label

theorem exists_parsed_iff {number : Nat} {isNegative : Bool} {property : Nat → Bool → Prop} :
    (∃ other otherNegative, some (number, isNegative) = some (other, otherNegative) ∧
      property other otherNegative) ↔ property number isNegative := by
  constructor
  · rintro ⟨other, otherNegative, same, holds⟩
    cases same
    exact holds
  · intro holds
    exact ⟨_, _, rfl, holds⟩

section Enum

variable {literals : List (List UInt8)} {column : Column} {info : TypeInfo}

theorem convertEnumStringLiteral_ok_iff (known : Known enumKind literals column.logicalType info)
    (rowNumber : Nat) (policy : EnumStringPolicy) {sign : Option Sign}
    {decoded text stored : List UInt8}
    (shown : text =
      if policy.trimsTrailingSpaces then trimTrailingAsciiSpaces decoded else decoded) :
    convertEnumStringLiteral column rowNumber policy ⟨sign, .string decoded⟩ = .ok stored ↔
      sign = none ∧ (validateUtf8Text decoded).isSome = true ∧
        (((enumFindLabel info text).or (enumOrdinalFallback policy info text)).map
            LabelDescriptor.text = some stored ∨
          (enumFindLabel info text).or (enumOrdinalFallback policy info text) = none ∧
            policy.missingIsError = false ∧ stored = text) := by
  have read := known.read enumDescriptorMessage
  cases sign with
  | some sign =>
    constructor
    · intro converted
      cases converted
    · rintro ⟨absent, -⟩
      cases absent
  | none =>
    cases utf8 : validateUtf8Text decoded with
    | none => simp [convertEnumStringLiteral, utf8]
    | some characterLength =>
      simp only [convertEnumStringLiteral, utf8, Option.isNone_some, Bool.false_eq_true, if_false,
        enumTypeInfoForLogicalType, read, ← shown, Option.isSome_some, true_and]
      cases (enumFindLabel info text).or (enumOrdinalFallback policy info text) with
      | some label => simp
      | none =>
        cases policy.missingIsError with
        | true => simp
        | false => simp [eq_comm]

theorem findOrdinal_text_iff (known : Known enumKind literals column.logicalType info)
    {ordinal : Nat} {stored : List UInt8} :
    (enumFindOrdinal info ordinal).map LabelDescriptor.text = some stored ↔
      ∃ index, ordinal = index + 1 ∧
        (literals.map trimTrailingAsciiSpaces)[index]? = some stored := by
  cases ordinal with
  | zero => simp [enumFindOrdinal]
  | succ index =>
    rw [known.findOrdinal]
    constructor
    · intro stands
      exact ⟨index, rfl, stands⟩
    · rintro ⟨other, same, stands⟩
      cases same
      exact stands

theorem convertEnumIntegerLiteral_ok_iff (known : Known enumKind literals column.logicalType info)
    (rowNumber : Nat) (missingIsError : Bool) {node : ValueNode} {stored : List UInt8} :
    convertEnumIntegerLiteral column rowNumber missingIsError node = .ok stored ↔
      ∃ ordinal isNegative, enumLiteralOrdinal node = some (ordinal, isNegative) ∧
        ((if isNegative then none else enumFindOrdinal info ordinal).map LabelDescriptor.text =
            some stored ∨
          (if isNegative then none else enumFindOrdinal info ordinal) = none ∧
            missingIsError = false ∧ stored = [0]) := by
  have read := known.read enumDescriptorMessage
  unfold convertEnumIntegerLiteral
  cases number : enumLiteralOrdinal node with
  | none => simp
  | some parsed =>
    obtain ⟨ordinal, isNegative⟩ := parsed
    rw [exists_parsed_iff]
    simp only [enumTypeInfoForLogicalType, read]
    cases if isNegative then none else enumFindOrdinal info ordinal with
    | some label => simp
    | none => cases missingIsError <;> simp [eq_comm]

/-- A number is the label at its ordinal. -/
theorem integer_label_iff (known : Known enumKind literals column.logicalType info)
    {ordinal : Nat} {isNegative : Bool} {stored : List UInt8} :
    (if isNegative then none else enumFindOrdinal info ordinal).map LabelDescriptor.text =
        some stored ↔
      ∃ index, ordinal = index + 1 ∧ isNegative = false ∧
        (literals.map trimTrailingAsciiSpaces)[index]? = some stored := by
  cases isNegative with
  | true => simp
  | false =>
    rw [if_neg Bool.false_ne_true, findOrdinal_text_iff known]
    simp

/-- The label that a text is, or whose ordinal it is. -/
theorem text_label_iff (known : Known enumKind literals column.logicalType info)
    {policy : EnumStringPolicy} (fallback : policy.allowNumericOrdinalFallback = true)
    {text stored : List UInt8} :
    ((enumFindLabel info text).or (enumOrdinalFallback policy info text)).map
        LabelDescriptor.text = some stored ↔
      (stored ∈ literals.map trimTrailingAsciiSpaces ∧ labelEquals stored text = true) ∨
      (∀ other ∈ literals.map trimTrailingAsciiSpaces, labelEquals other text = false) ∧
        ∃ index, parseUnsignedIntegerLiteral text = some (index + 1) ∧
          (literals.map trimTrailingAsciiSpaces)[index]? = some stored := by
  have distinct : Distinct (literals.map trimTrailingAsciiSpaces) := known.definition.distinct
  have found := known.findLabel text
  rw [← find_label_iff distinct, ← found]
  cases equal : enumFindLabel info text with
  | some label =>
    rw [equal] at found
    have named := (find_label_iff distinct).mp found.symm
    rw [Option.some_or, or_iff_left]
    rintro ⟨unnamed, -⟩
    rw [unnamed _ named.1] at named
    cases named.2
  | none =>
    rw [equal] at found
    have unnamed := List.find?_eq_none.mp found.symm
    rw [Option.none_or, Option.map_none, or_iff_right (Option.some_ne_none _).symm,
      enumOrdinalFallback, if_pos fallback]
    constructor
    · intro chosen
      refine ⟨fun other member => by simpa using unnamed other member, ?_⟩
      cases number : parseUnsignedIntegerLiteral text with
      | none =>
        rw [number] at chosen
        cases chosen
      | some ordinal =>
        rw [number, Option.bind_some] at chosen
        obtain ⟨index, rfl, stands⟩ := (findOrdinal_text_iff known).mp chosen
        exact ⟨index, rfl, stands⟩
    · rintro ⟨-, index, number, stands⟩
      rw [number, Option.bind_some, findOrdinal_text_iff known]
      exact ⟨index, rfl, stands⟩

theorem equal_label_iff (known : Known enumKind literals column.logicalType info)
    {policy : EnumStringPolicy} (noFallback : policy.allowNumericOrdinalFallback = false)
    {text stored : List UInt8} :
    ((enumFindLabel info text).or (enumOrdinalFallback policy info text)).map
        LabelDescriptor.text = some stored ↔
      stored ∈ literals.map trimTrailingAsciiSpaces ∧ labelEquals stored text = true := by
  rw [enumOrdinalFallback, noFallback, if_neg Bool.false_ne_true, Option.or_none, known.findLabel]
  exact find_label_iff known.definition.distinct

theorem integer_stored_iff (known : Known enumKind literals column.logicalType info)
    (rowNumber : Nat) {node : ValueNode} {stored : List UInt8} :
    convertEnumIntegerLiteral column rowNumber true node = .ok stored ↔
      ∃ index, enumLiteralOrdinal node = some (index + 1, false) ∧
        (literals.map trimTrailingAsciiSpaces)[index]? = some stored := by
  rw [convertEnumIntegerLiteral_ok_iff known]
  constructor
  · rintro ⟨ordinal, isNegative, number, found | ⟨-, missing, -⟩⟩
    · obtain ⟨index, rfl, rfl, stands⟩ := (integer_label_iff known).mp found
      exact ⟨index, number, stands⟩
    · cases missing
  · rintro ⟨index, number, stands⟩
    exact ⟨_, _, number, .inl ((integer_label_iff known).mpr ⟨index, rfl, rfl, stands⟩)⟩

/-- A literal is stored as the label it names, and refused when it names none. -/
theorem enum_stored_iff {literals : List (List UInt8)} {column : Column}
    (created : mapEnumType literals = .ok column.logicalType) (rowNumber : Nat) (node : ValueNode)
    (stored : List UInt8) :
    convertEnumLiteral column rowNumber node = .ok stored ↔
      NamesLabel (literals.map trimTrailingAsciiSpaces) node stored := by
  obtain ⟨info, known⟩ := mapType_known created
  have numbered : convertEnumIntegerLiteral column rowNumber true node = .ok stored →
      NamesLabel (literals.map trimTrailingAsciiSpaces) node stored := by
    intro converted
    obtain ⟨index, number, stands⟩ := (integer_stored_iff known rowNumber).mp converted
    exact .ordinal number stands
  obtain ⟨sign, literal⟩ := node
  constructor
  · intro converted
    cases literal with
    | string decoded =>
      obtain ⟨rfl, utf8, chosen | ⟨-, missing, -⟩⟩ :=
        (convertEnumStringLiteral_ok_iff known rowNumber ⟨true, true, true⟩ rfl).mp converted
      · obtain ⟨member, named⟩ | ⟨unnamed, index, number, stands⟩ :=
          (text_label_iff known rfl).mp chosen
        · exact .text utf8 member named
        · exact .textOrdinal utf8 unnamed number stands
      · cases missing
    | integer text => exact numbered converted
    | other => exact numbered converted
  · intro names
    cases names with
    | text utf8 member named =>
      exact (convertEnumStringLiteral_ok_iff known rowNumber ⟨true, true, true⟩ rfl).mpr
        ⟨rfl, utf8, .inl ((text_label_iff known rfl).mpr (.inl ⟨member, named⟩))⟩
    | textOrdinal utf8 unnamed number stands =>
      exact (convertEnumStringLiteral_ok_iff known rowNumber ⟨true, true, true⟩ rfl).mpr
        ⟨rfl, utf8, .inl ((text_label_iff known rfl).mpr (.inr ⟨unnamed, _, number, stands⟩))⟩
    | ordinal number stands =>
      have converted := (integer_stored_iff known rowNumber).mpr ⟨_, number, stands⟩
      cases literal with
      | string decoded => cases number
      | integer text => exact converted
      | other => exact converted

theorem enum_stored_iff_lower :
    convertEnumLiteral
        ⟨[0x73], [0x45, 0x4e, 0x55, 0x4d, 0x28, 0x27, 0x53, 0x27, 0x2c, 0x27, 0x4c, 0x27, 0x29]⟩ 1
        ⟨none, .string [0x6c, 0x20]⟩ = .ok [0x4c] := by
  have created : mapEnumType [[0x53], [0x4c, 0x20]] =
      .ok [0x45, 0x4e, 0x55, 0x4d, 0x28, 0x27, 0x53, 0x27, 0x2c, 0x27, 0x4c, 0x27, 0x29] := rfl
  exact (enum_stored_iff created 1 _ _).mpr (.text rfl (by decide) (by decide))

/-- WHERE compares with a stored label exactly when the literal names that label. -/
theorem enum_selected_iff {literals : List (List UInt8)} {column : Column} {label : List UInt8}
    (created : mapEnumType literals = .ok column.logicalType) (node : ValueNode)
    (member : label ∈ literals.map trimTrailingAsciiSpaces) :
    convertPredicateEnumLiteral column node = .ok label ↔
      SelectsLabel (literals.map trimTrailingAsciiSpaces) node label := by
  obtain ⟨info, known⟩ := mapType_known created
  have noNul : label ≠ [0] := by
    rintro rfl
    obtain ⟨literal, literalMember, trimmed⟩ := List.mem_map.mp member
    refine known.definition.noNul literal literalMember ?_
    have inside := (List.rdropWhile_prefix (fun byte => byte = space) literal).subset
    rw [← trimTrailingAsciiSpaces, trimmed] at inside
    exact inside List.mem_cons_self
  have numbered : convertEnumIntegerLiteral column 1 false node = .ok label ↔
      ∃ index, enumLiteralOrdinal node = some (index + 1, false) ∧
        (literals.map trimTrailingAsciiSpaces)[index]? = some label := by
    rw [convertEnumIntegerLiteral_ok_iff known]
    constructor
    · rintro ⟨ordinal, isNegative, number, found | ⟨-, -, same⟩⟩
      · obtain ⟨index, rfl, rfl, stands⟩ := (integer_label_iff known).mp found
        exact ⟨index, number, stands⟩
      · exact absurd same noNul
    · rintro ⟨index, number, stands⟩
      exact ⟨_, _, number, .inl ((integer_label_iff known).mpr ⟨index, rfl, rfl, stands⟩)⟩
  have selected : convertEnumIntegerLiteral column 1 false node = .ok label →
      SelectsLabel (literals.map trimTrailingAsciiSpaces) node label := by
    intro converted
    obtain ⟨index, number, stands⟩ := numbered.mp converted
    exact .ordinal number stands
  obtain ⟨sign, literal⟩ := node
  constructor
  · intro converted
    cases literal with
    | string decoded =>
      obtain ⟨rfl, utf8, chosen | ⟨none_, -, rfl⟩⟩ :=
        (convertEnumStringLiteral_ok_iff known 1 ⟨false, false, false⟩ rfl).mp converted
      · exact .text utf8 ((equal_label_iff known rfl).mp chosen).2
      · exact .text utf8 (labelEquals_self _)
    | integer text => exact selected converted
    | other => exact selected converted
  · intro names
    cases names with
    | text utf8 named =>
      exact (convertEnumStringLiteral_ok_iff known 1 ⟨false, false, false⟩ rfl).mpr
        ⟨rfl, utf8, .inl ((equal_label_iff known rfl).mpr ⟨member, named⟩)⟩
    | ordinal number stands =>
      have converted := numbered.mpr ⟨_, number, stands⟩
      cases literal with
      | string decoded => cases number
      | integer text => exact converted
      | other => exact converted

theorem enum_selected_iff_ordinal :
    convertPredicateEnumLiteral
        ⟨[0x73], [0x45, 0x4e, 0x55, 0x4d, 0x28, 0x27, 0x53, 0x27, 0x2c, 0x27, 0x4c, 0x27, 0x29]⟩
        ⟨none, .integer [0x32]⟩ = .ok [0x4c] := by
  have created : mapEnumType [[0x53], [0x4c, 0x20]] =
      .ok [0x45, 0x4e, 0x55, 0x4d, 0x28, 0x27, 0x53, 0x27, 0x2c, 0x27, 0x4c, 0x27, 0x29] := rfl
  exact (enum_selected_iff created _ (by decide)).mpr
    (.ordinal (rfl : _ = some (1 + 1, false)) rfl)

end Enum

end MyLite.EnumSet
