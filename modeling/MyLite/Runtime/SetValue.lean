import Mathlib.Data.List.Forall2
import Mathlib.Data.Nat.Bitwise
import MyLite.Runtime.EnumValue

/-! The values of SET columns: the subset of the members that a literal stores, and the rows that a
literal in WHERE selects. -/

namespace MyLite.EnumSet

open UnsignedLiteral (parseUnsignedIntegerLiteral)

def setFindMember (info : TypeInfo) (text : List UInt8) : Option Nat :=
  info.labels.findIdx? fun member => labelEquals member.text text

def setBitmapIsValid (info : TypeInfo) (bitmap : Nat) : Bool :=
  if info.labels.length = 0 ∨ info.labels.length > setKind.countCapacity then false
  else if info.labels.length = setKind.countCapacity then true
  else bitmap >>> info.labels.length = 0

/-- The members whose bit is set, in the order of the definition. -/
def selectedMembers (bitmap : Nat) (members : List (List UInt8)) : List (List UInt8) :=
  (members.zipIdx.filter fun member => bitmap.testBit member.2).map Prod.fst

def setText (bitmap : Nat) (members : List (List UInt8)) : List UInt8 :=
  [comma].intercalate (selectedMembers bitmap members)

def copySetBitmapValue (info : TypeInfo) (bitmap : Nat) : Except ValueError (List UInt8) :=
  if setBitmapIsValid info bitmap then
    .ok (setText bitmap (info.labels.map LabelDescriptor.text))
  else .error .misuse

def setDescriptorMessage : String := "statement supports only baseline SET descriptors"

/-- The bitmap of the tokens between the commas, up to a token that is no member. -/
def setBitmapOfTokens (info : TypeInfo) (bitmap : Nat) : List (List UInt8) → Option Nat
  | [] => some bitmap
  | token :: tokens =>
    match setFindMember info token with
    | none => none
    | some memberIndex => setBitmapOfTokens info (bitmap ||| 1 <<< memberIndex) tokens

/-- `append_set_predicate_member_text`: a member stands as it is defined. A token that is none is
appended as a C string. -/
def setPredicateMemberText (info : TypeInfo) (token : List UInt8) : List UInt8 :=
  match enumFindLabel info token with
  | none => token.takeWhile (· ≠ 0)
  | some member => member.text

structure SetStringPolicy where
  allowNumericBitmapFallback : Bool
  missingIsError : Bool
  canonicalDefinitionOrder : Bool

/-- The value of no member is one byte 1. -/
def setNoMatchValue : List UInt8 := [1]

/-- `finish_set_member_list_conversion` in the order of the definition. -/
def finishSetMemberListConversion (column : Column) (rowNumber : Nat) (policy : SetStringPolicy)
    (info : TypeInfo) (text : List UInt8) : Option Nat → Except ValueError (List UInt8)
  | some bitmap => copySetBitmapValue info bitmap
  | none =>
    let numericBitmap :=
      if policy.allowNumericBitmapFallback ∧ ¬ text.contains comma then
        (parseUnsignedIntegerLiteral text).filter (setBitmapIsValid info)
      else none
    match numericBitmap with
    | some bitmap => copySetBitmapValue info bitmap
    | none =>
      if policy.missingIsError then .error (.dataTruncated column.name rowNumber)
      else .ok setNoMatchValue

def convertSetMemberListLiteral (column : Column) (rowNumber : Nat) (policy : SetStringPolicy)
    (info : TypeInfo) (text : List UInt8) : Except ValueError (List UInt8) :=
  let tokens := text.splitOn comma
  if policy.canonicalDefinitionOrder then
    finishSetMemberListConversion column rowNumber policy info text
      (setBitmapOfTokens info 0 tokens)
  else .ok ([comma].intercalate (tokens.map (setPredicateMemberText info)))

def convertSetStringLiteral (column : Column) (rowNumber : Nat) (policy : SetStringPolicy)
    (decoded : List UInt8) : Except ValueError (List UInt8) :=
  if (validateUtf8Text decoded).isNone then .error (.unsupported "SET values must be valid UTF-8")
  else
    let text := trimTrailingAsciiSpaces decoded
    match setTypeInfoForLogicalType setDescriptorMessage column.logicalType with
    | .error error => .error (.descriptor error)
    | .ok info =>
      if text.isEmpty then
        if policy.canonicalDefinitionOrder then copySetBitmapValue info 0 else .ok []
      else convertSetMemberListLiteral column rowNumber policy info text

def convertSetIntegerLiteral (column : Column) (rowNumber : Nat) (missingIsError : Bool)
    (node : ValueNode) : Except ValueError (List UInt8) :=
  match enumLiteralOrdinal node with
  | none => .error (.unsupported "SET values support only string or integer literals")
  | some (bitmap, isNegative) =>
    match setTypeInfoForLogicalType setDescriptorMessage column.logicalType with
    | .error error => .error (.descriptor error)
    | .ok info =>
      if !isNegative && setBitmapIsValid info bitmap then copySetBitmapValue info bitmap
      else if missingIsError then .error (.dataTruncated column.name rowNumber)
      else .ok setNoMatchValue

/-- The value that INSERT stores. -/
def convertSetLiteral (column : Column) (rowNumber : Nat) (node : ValueNode) :
    Except ValueError (List UInt8) :=
  match node.literal with
  | .string decoded => convertSetStringLiteral column rowNumber ⟨true, true, true⟩ decoded
  | _ => convertSetIntegerLiteral column rowNumber true node

/-- The value that WHERE compares the stored one with. -/
def convertPredicateSetLiteral (column : Column) (node : ValueNode) :
    Except ValueError (List UInt8) :=
  match node.literal with
  | .string decoded => convertSetStringLiteral column 1 ⟨false, false, false⟩ decoded
  | _ => convertSetIntegerLiteral column 1 false node

/-! Finding a member. -/

theorem findIdx_label_iff {labels : List (List UInt8)} (distinct : Distinct labels)
    {text : List UInt8} {index : Nat} :
    labels.findIdx? (fun each => labelEquals each text) = some index ↔
      ∃ label, labels[index]? = some label ∧ labelEquals label text = true := by
  constructor
  · intro found
    obtain ⟨bound, named, -⟩ := List.findIdx?_eq_some_iff_getElem.mp found
    exact ⟨labels[index], List.getElem?_eq_getElem bound, named⟩
  · rintro ⟨label, stands, named⟩
    cases found : labels.findIdx? (fun each => labelEquals each text) with
    | none =>
      have unnamed := List.findIdx?_eq_none_iff.mp found label (List.mem_of_getElem? stands)
      rw [named] at unnamed
      cases unnamed
    | some other =>
      obtain ⟨bound, otherNamed, -⟩ := List.findIdx?_eq_some_iff_getElem.mp found
      rw [distinct.index_eq (List.getElem?_eq_getElem bound) stands otherNamed named]

theorem Known.findMember {kind : Kind} {literals : List (List UInt8)} {logicalType : List UInt8}
    {info : TypeInfo} (known : Known kind literals logicalType info) (text : List UInt8) :
    setFindMember info text =
      (literals.map trimTrailingAsciiSpaces).findIdx? fun label => labelEquals label text := by
  rw [← known.labels, List.findIdx?_map]
  rfl

/-! Texts that are joined by commas. -/

/-- What follows a whole character does not change its length. -/
theorem utf8SequenceWidth_append {byte : UInt8} {rest : List UInt8} {width : Nat}
    (counted : utf8SequenceWidth (byte :: rest) = some width) (more : List UInt8) :
    utf8SequenceWidth (byte :: (rest ++ more)) = some width ∧ width ≤ rest.length + 1 := by
  rcases rest with _ | ⟨second, _ | ⟨third, _ | ⟨fourth, rest⟩⟩⟩
  all_goals
    simp only [utf8SequenceWidth, List.length_nil, List.length_cons, List.length_append,
      List.nil_append, List.cons_append, List.getD_cons_zero, List.getD_cons_succ] at counted ⊢
    grind

theorem countCharacters_append {left : List UInt8} {skipped count : Nat}
    (counted : countCharacters skipped left = some count) (within : skipped ≤ left.length)
    (right : List UInt8) :
    countCharacters skipped (left ++ right) = (validateUtf8Text right).map (count + ·) := by
  induction left generalizing skipped count with
  | nil =>
    cases Nat.le_zero.mp within
    cases counted
    simp [validateUtf8Text]
  | cons byte left ih =>
    cases skipped with
    | succ skipped => exact ih counted (Nat.le_of_succ_le_succ within)
    | zero =>
      rw [countCharacters] at counted
      split at counted
      · cases counted
      · rename_i width measured
        obtain ⟨before, remaining, rfl⟩ := Option.map_eq_some_iff.mp counted
        obtain ⟨same, fits⟩ := utf8SequenceWidth_append measured right
        rw [List.cons_append, countCharacters, same]
        dsimp only
        rw [ih remaining (by omega), Option.map_map]
        congr 1
        funext after
        simp only [Function.comp_apply]
        omega

theorem validateUtf8Text_append {left right : List UInt8}
    (leftValid : (validateUtf8Text left).isSome = true)
    (rightValid : (validateUtf8Text right).isSome = true) :
    (validateUtf8Text (left ++ right)).isSome = true := by
  obtain ⟨count, counted⟩ := Option.isSome_iff_exists.mp leftValid
  rw [validateUtf8Text, countCharacters_append counted (Nat.zero_le _), Option.isSome_map]
  exact rightValid

/-- A text that stands between commas. -/
structure Token (text : List UInt8) : Prop where
  nonempty : text ≠ []
  noComma : comma ∉ text
  noNul : 0 ∉ text
  trimmed : trimTrailingAsciiSpaces text = text
  utf8 : (validateUtf8Text text).isSome = true

theorem trim_append (left : List UInt8) {right : List UInt8} (nonempty : right ≠ [])
    (trimmed : trimTrailingAsciiSpaces right = right) :
    trimTrailingAsciiSpaces (left ++ right) = left ++ right := by
  rw [trimTrailingAsciiSpaces, List.rdropWhile_eq_self_iff] at trimmed ⊢
  intro someText
  rw [List.getLast_append_of_ne_nil _ nonempty]
  exact trimmed nonempty

theorem joined_nonempty {texts : List (List UInt8)} (tokens : ∀ text ∈ texts, Token text)
    (nonempty : texts ≠ []) : [comma].intercalate texts ≠ [] := by
  cases texts with
  | nil => exact absurd rfl nonempty
  | cons text texts =>
    intro empty
    cases texts with
    | nil =>
      rw [List.intercalate_singleton] at empty
      exact (tokens text List.mem_cons_self).nonempty empty
    | cons _ _ => simp [List.intercalate_cons_cons] at empty

/-- Tokens that are joined stay valid and end in no space. -/
theorem joined_text {texts : List (List UInt8)} (tokens : ∀ text ∈ texts, Token text) :
    (validateUtf8Text ([comma].intercalate texts)).isSome = true ∧
      trimTrailingAsciiSpaces ([comma].intercalate texts) = [comma].intercalate texts := by
  induction texts with
  | nil => exact ⟨rfl, rfl⟩
  | cons text texts ih =>
    have first := tokens text List.mem_cons_self
    have others : ∀ other ∈ texts, Token other :=
      fun other member => tokens other (List.mem_cons_of_mem _ member)
    cases texts with
    | nil =>
      rw [List.intercalate_singleton]
      exact ⟨first.utf8, first.trimmed⟩
    | cons next texts =>
      obtain ⟨utf8, trimmed⟩ := ih others
      rw [List.intercalate_cons_cons]
      constructor
      · exact validateUtf8Text_append (validateUtf8Text_append first.utf8 rfl) utf8
      · exact trim_append _ (joined_nonempty others (List.cons_ne_nil _ _)) trimmed

theorem joined_split {texts : List (List UInt8)} (tokens : ∀ text ∈ texts, Token text)
    (nonempty : texts ≠ []) : ([comma].intercalate texts).splitOn comma = texts :=
  List.splitOn_intercalate comma (fun text member => (tokens text member).noComma) nonempty

/-- The texts between the commas have none. -/
theorem splitOn_noComma (text : List UInt8) : ∀ token ∈ text.splitOn comma, comma ∉ token := by
  induction text with
  | nil => simp
  | cons byte text ih =>
    rw [List.splitOn_cons_eq_if_modifyHead]
    split
    · simpa using ih
    · rename_i notComma
      cases pieces : text.splitOn comma with
      | nil => exact absurd pieces (List.splitOn_ne_nil _ _)
      | cons piece pieces' =>
        rw [pieces] at ih
        rw [List.modifyHead_cons]
        refine List.forall_mem_cons.mpr ⟨?_, fun token member => ih token (.tail _ member)⟩
        rintro (_ | ⟨_, inside⟩)
        · exact notComma BEq.rfl
        · exact ih piece List.mem_cons_self inside

/-! Subsets of the members. -/

section Subsets

variable {labels : List (List UInt8)}

/-- The bitmap has no bit behind the last member. -/
def FitsMembers (labels : List (List UInt8)) (bitmap : Nat) : Prop := bitmap >>> labels.length = 0

instance (labels : List (List UInt8)) (bitmap : Nat) : Decidable (FitsMembers labels bitmap) :=
  inferInstanceAs (Decidable (_ = _))

theorem FitsMembers.testBit {bitmap : Nat} (fits : FitsMembers labels bitmap) {index : Nat}
    (behind : labels.length ≤ index) : bitmap.testBit index = false := by
  have shifted : (bitmap >>> labels.length).testBit (index - labels.length) = false := by
    rw [show bitmap >>> labels.length = 0 from fits, Nat.zero_testBit]
  rwa [Nat.testBit_shiftRight, Nat.add_sub_of_le behind] at shifted

theorem fitsMembers_of_testBit {bitmap : Nat}
    (within : ∀ index, bitmap.testBit index = true → index < labels.length) :
    FitsMembers labels bitmap := by
  apply Nat.eq_of_testBit_eq
  intro index
  rw [Nat.testBit_shiftRight, Nat.zero_testBit]
  cases bit : bitmap.testBit (labels.length + index) with
  | false => rfl
  | true => exact absurd (within _ bit) (by omega)

theorem mem_selectedMembers {bitmap : Nat} {label : List UInt8} :
    label ∈ selectedMembers bitmap labels ↔
      ∃ index, labels[index]? = some label ∧ bitmap.testBit index = true := by
  simp only [selectedMembers, List.mem_map, List.mem_filter]
  constructor
  · rintro ⟨⟨_, index⟩, ⟨member, bit⟩, rfl⟩
    exact ⟨index, List.mem_zipIdx_iff_getElem?.mp member, bit⟩
  · rintro ⟨index, stands, bit⟩
    exact ⟨(label, index), ⟨List.mem_zipIdx_iff_getElem?.mpr stands, bit⟩, rfl⟩

/-- The bit of a member says whether the member is selected. -/
theorem testBit_selected (distinct : Distinct labels) {bitmap index : Nat} {label : List UInt8}
    (stands : labels[index]? = some label) :
    bitmap.testBit index = true ↔ label ∈ selectedMembers bitmap labels := by
  rw [mem_selectedMembers]
  constructor
  · intro bit
    exact ⟨index, stands, bit⟩
  · rintro ⟨other, otherStands, bit⟩
    rwa [distinct.index_eq stands otherStands (labelEquals_self _) (labelEquals_self _)]

theorem bitmap_eq_of_selected (distinct : Distinct labels) {left right : Nat}
    (leftFits : FitsMembers labels left) (rightFits : FitsMembers labels right)
    (same : selectedMembers left labels = selectedMembers right labels) : left = right := by
  apply Nat.eq_of_testBit_eq
  intro index
  cases stands : labels[index]? with
  | none =>
    have behind := List.getElem?_eq_none_iff.mp stands
    rw [leftFits.testBit behind, rightFits.testBit behind]
  | some label =>
    rw [Bool.eq_iff_iff, testBit_selected distinct stands, same,
      ← testBit_selected distinct stands]

theorem selectedMembers_zero (labels : List (List UInt8)) : selectedMembers 0 labels = [] := by
  apply List.eq_nil_iff_forall_not_mem.mpr
  intro label member
  obtain ⟨index, -, bit⟩ := mem_selectedMembers.mp member
  rw [Nat.zero_testBit] at bit
  cases bit

/-- The text of a subset tells its members. -/
theorem selected_eq_of_setText (tokens : ∀ label ∈ labels, Token label) {left right : Nat}
    (same : setText left labels = setText right labels) :
    selectedMembers left labels = selectedMembers right labels := by
  have selectedTokens : ∀ bitmap, ∀ label ∈ selectedMembers bitmap labels, Token label := by
    intro bitmap label member
    obtain ⟨index, stands, -⟩ := mem_selectedMembers.mp member
    exact tokens label (List.mem_of_getElem? stands)
  have leftTokens := selectedTokens left
  have rightTokens := selectedTokens right
  unfold setText at same
  by_cases leftNone : selectedMembers left labels = []
  · by_cases rightNone : selectedMembers right labels = []
    · rw [leftNone, rightNone]
    · rw [leftNone] at same
      exact absurd same.symm (joined_nonempty rightTokens rightNone)
  · by_cases rightNone : selectedMembers right labels = []
    · rw [rightNone] at same
      exact absurd same (joined_nonempty leftTokens leftNone)
    · rw [← joined_split leftTokens leftNone, same, joined_split rightTokens rightNone]

end Subsets

/-- The text names each of its members, in any order and any number of times. -/
structure NamesMembers (labels : List (List UInt8)) (text : List UInt8) (bitmap : Nat) : Prop where
  known : ∀ token ∈ text.splitOn comma, ∃ label ∈ labels, labelEquals label token = true
  bits : ∀ index, bitmap.testBit index = true ↔
    ∃ label, labels[index]? = some label ∧
      ∃ token ∈ text.splitOn comma, labelEquals label token = true

/-- The literal names the subset: by its members, by its bitmap, or by a text that is a bitmap and
no member. -/
inductive NamesSubset (labels : List (List UInt8)) : ValueNode → Nat → Prop where
  | empty {sign : Option Sign} {text : List UInt8} (utf8 : (validateUtf8Text text).isSome = true)
      (blank : trimTrailingAsciiSpaces text = []) : NamesSubset labels ⟨sign, .string text⟩ 0
  | members {sign : Option Sign} {text : List UInt8} {bitmap : Nat}
      (utf8 : (validateUtf8Text text).isSome = true)
      (names : NamesMembers labels (trimTrailingAsciiSpaces text) bitmap) :
      NamesSubset labels ⟨sign, .string text⟩ bitmap
  | textNumber {sign : Option Sign} {text : List UInt8} {bitmap : Nat}
      (utf8 : (validateUtf8Text text).isSome = true)
      (unnamed : ∀ label ∈ labels, labelEquals label (trimTrailingAsciiSpaces text) = false)
      (number : parseUnsignedIntegerLiteral (trimTrailingAsciiSpaces text) = some bitmap)
      (fits : FitsMembers labels bitmap) : NamesSubset labels ⟨sign, .string text⟩ bitmap
  | number {node : ValueNode} {bitmap : Nat}
      (number : enumLiteralOrdinal node = some (bitmap, false))
      (fits : FitsMembers labels bitmap) : NamesSubset labels node bitmap

section Set

variable {literals : List (List UInt8)} {column : Column} {info : TypeInfo}

theorem Known.token {logicalType : List UInt8} (known : Known setKind literals logicalType info) :
    ∀ label ∈ literals.map trimTrailingAsciiSpaces, Token label := by
  intro label member
  obtain ⟨literal, literalMember, rfl⟩ := List.mem_map.mp member
  have allowed := known.definition.allowed literal literalMember
  have noNul : 0 ∉ trimTrailingAsciiSpaces literal := fun nul =>
    known.definition.noNul literal literalMember ((List.rdropWhile_prefix _ _).mem nul)
  have utf8 := known.definition.utf8 literal literalMember
  have trimmed : trimTrailingAsciiSpaces (trimTrailingAsciiSpaces literal) =
      trimTrailingAsciiSpaces literal := List.rdropWhile_idempotent _ _
  simp only [setKind] at allowed
  split at allowed
  · cases allowed
  · rename_i someText
    split at allowed
    · cases allowed
    · rename_i noComma
      exact ⟨by simpa using someText, by simpa [setMemberContainsComma] using noComma, noNul,
        trimmed, utf8⟩

/-- The bitmap of tokens has the bits of the members they name. -/
theorem setBitmapOfTokens_eq_some_iff (known : Known setKind literals column.logicalType info)
    (start : Nat) (tokens : List (List UInt8)) {bitmap : Nat} :
    setBitmapOfTokens info start tokens = some bitmap ↔
      (∀ token ∈ tokens, ∃ label ∈ literals.map trimTrailingAsciiSpaces,
        labelEquals label token = true) ∧
      ∀ index, bitmap.testBit index = true ↔ start.testBit index = true ∨
        ∃ label, (literals.map trimTrailingAsciiSpaces)[index]? = some label ∧
          ∃ token ∈ tokens, labelEquals label token = true := by
  have distinct : Distinct (literals.map trimTrailingAsciiSpaces) := known.definition.distinct
  have named : ∀ {token : List UInt8} {index : Nat}, setFindMember info token = some index ↔
      ∃ label, (literals.map trimTrailingAsciiSpaces)[index]? = some label ∧
        labelEquals label token = true := by
    intro token index
    rw [known.findMember, findIdx_label_iff distinct]
  generalize literals.map trimTrailingAsciiSpaces = labels at *
  induction tokens generalizing start with
  | nil =>
    rw [setBitmapOfTokens, Option.some.injEq]
    constructor
    · rintro rfl
      simp
    · rintro ⟨-, bits⟩
      apply Nat.eq_of_testBit_eq
      intro index
      have bit := bits index
      simp only [List.not_mem_nil, false_and, exists_false, and_false, or_false] at bit
      rw [Bool.eq_iff_iff, bit]
  | cons token tokens ih =>
    rw [setBitmapOfTokens]
    cases found : setFindMember info token with
    | none =>
      constructor
      · intro failed
        cases failed
      · rintro ⟨allNamed, -⟩
        obtain ⟨label, member, equal⟩ := allNamed token List.mem_cons_self
        obtain ⟨index, stands⟩ := List.getElem?_of_mem member
        rw [named.mpr ⟨label, stands, equal⟩] at found
        cases found
    | some memberIndex =>
      obtain ⟨label, stands, equal⟩ := named.mp found
      have bit : ∀ index, (start ||| 1 <<< memberIndex).testBit index = true ↔
          start.testBit index = true ∨
            ∃ label, labels[index]? = some label ∧ labelEquals label token = true := by
        intro index
        rw [Nat.testBit_or, Nat.one_shiftLeft, Nat.testBit_two_pow, Bool.or_eq_true,
          decide_eq_true_iff, ← named, found, Option.some.injEq]
      refine (ih _).trans ?_
      constructor
      · rintro ⟨others, bits⟩
        refine ⟨List.forall_mem_cons.mpr
          ⟨⟨label, List.mem_of_getElem? stands, equal⟩, others⟩, fun index => ?_⟩
        rw [bits, bit]
        simp only [List.mem_cons, or_and_right, and_or_left, exists_or, or_assoc, exists_eq_left]
      · rintro ⟨allNamed, bits⟩
        refine ⟨fun other member => allNamed other (List.mem_cons_of_mem _ member),
          fun index => ?_⟩
        rw [bits, bit]
        simp only [List.mem_cons, or_and_right, and_or_left, exists_or, or_assoc, exists_eq_left]

theorem parseDigits_le {text : List UInt8} {value number : Nat}
    (small : value ≤ 18446744073709551615)
    (parsed : UnsignedLiteral.parseDigits value text = some number) :
    number ≤ 18446744073709551615 := by
  induction text generalizing value with
  | nil =>
    cases parsed
    exact small
  | cons byte text ih =>
    rw [UnsignedLiteral.parseDigits] at parsed
    split at parsed
    · cases parsed
    · rename_i digit
      split at parsed
      · cases parsed
      · rename_i room
        refine ih ?_ parsed
        have low : byte.toNat ≤ 57 := by
          have notAbove := (not_or.mp digit).2
          exact UInt8.le_iff_toNat_le.mp (UInt8.not_lt.mp notAbove)
        omega

theorem parseUnsignedIntegerLiteral_lt {text : List UInt8} {number : Nat}
    (parsed : parseUnsignedIntegerLiteral text = some number) :
    number >>> setKind.countCapacity = 0 := by
  rw [parseUnsignedIntegerLiteral] at parsed
  split at parsed
  · cases parsed
  · have small := parseDigits_le (Nat.zero_le _) parsed
    rw [Nat.shiftRight_eq_div_pow]
    exact Nat.div_eq_of_lt (Nat.lt_of_le_of_lt small (by decide))

theorem setBitmapIsValid_iff {logicalType : List UInt8}
    (known : Known setKind literals logicalType info) {bitmap : Nat}
    (small : bitmap >>> setKind.countCapacity = 0) :
    setBitmapIsValid info bitmap = true ↔
      FitsMembers (literals.map trimTrailingAsciiSpaces) bitmap := by
  have length := known.length
  have some_ := List.length_pos_of_ne_nil known.definition.nonempty
  have count := known.definition.count
  rw [FitsMembers, List.length_map, ← length, setBitmapIsValid]
  rw [← length] at some_ count
  rw [if_neg (by omega)]
  by_cases full : info.labels.length = setKind.countCapacity
  · rw [if_pos full, full]
    exact ⟨fun _ => small, fun _ => rfl⟩
  · rw [if_neg full, decide_eq_true_iff]

theorem FitsMembers.small {logicalType : List UInt8}
    (known : Known setKind literals logicalType info) {bitmap : Nat}
    (fits : FitsMembers (literals.map trimTrailingAsciiSpaces) bitmap) :
    bitmap >>> setKind.countCapacity = 0 := by
  have count := known.definition.count
  rw [FitsMembers, List.length_map] at fits
  obtain ⟨more, same⟩ := Nat.exists_eq_add_of_le count
  rw [same, Nat.shiftRight_add, fits, Nat.zero_shiftRight]

/-- A bitmap becomes the text of its members. -/
theorem copySetBitmapValue_ok {logicalType : List UInt8}
    (known : Known setKind literals logicalType info) {bitmap : Nat}
    (fits : FitsMembers (literals.map trimTrailingAsciiSpaces) bitmap) :
    copySetBitmapValue info bitmap =
      .ok (setText bitmap (literals.map trimTrailingAsciiSpaces)) := by
  rw [copySetBitmapValue, if_pos ((setBitmapIsValid_iff known (fits.small known)).mpr fits),
    known.labels]

theorem setBitmapOfTokens_iff_names (known : Known setKind literals column.logicalType info)
    (text : List UInt8) {bitmap : Nat} :
    setBitmapOfTokens info 0 (text.splitOn comma) = some bitmap ↔
      NamesMembers (literals.map trimTrailingAsciiSpaces) text bitmap := by
  rw [setBitmapOfTokens_eq_some_iff known]
  constructor
  · rintro ⟨allNamed, bits⟩
    refine ⟨allNamed, fun index => ?_⟩
    rw [bits, Nat.zero_testBit, or_iff_right Bool.false_ne_true]
  · rintro ⟨allNamed, bits⟩
    refine ⟨allNamed, fun index => ?_⟩
    rw [bits, Nat.zero_testBit, or_iff_right Bool.false_ne_true]

theorem NamesMembers.fits {labels : List (List UInt8)} {text : List UInt8} {bitmap : Nat}
    (names : NamesMembers labels text bitmap) : FitsMembers labels bitmap := by
  apply fitsMembers_of_testBit
  intro index bit
  obtain ⟨label, stands, -⟩ := (names.bits index).mp bit
  exact (List.getElem?_eq_some_iff.mp stands).1

theorem parseDigits_noComma {text : List UInt8} {value number : Nat}
    (parsed : UnsignedLiteral.parseDigits value text = some number) : comma ∉ text := by
  induction text generalizing value with
  | nil => exact List.not_mem_nil
  | cons byte text ih =>
    rw [UnsignedLiteral.parseDigits] at parsed
    split at parsed
    · cases parsed
    · rename_i digit
      split at parsed
      · cases parsed
      · rintro (_ | ⟨_, inside⟩)
        · exact digit (.inl (by decide))
        · exact ih parsed inside

theorem number_someText {text : List UInt8} {number : Nat}
    (parsed : parseUnsignedIntegerLiteral text = some number) : text ≠ [] := by
  rintro rfl
  cases parsed

/-- A number has no comma. -/
theorem number_splitOn {text : List UInt8} {number : Nat}
    (parsed : parseUnsignedIntegerLiteral text = some number) : text.splitOn comma = [text] := by
  rw [parseUnsignedIntegerLiteral] at parsed
  split at parsed
  · cases parsed
  · exact List.splitOn_eq_singleton (parseDigits_noComma parsed)

theorem convertSetMemberListLiteral_ok_iff
    (known : Known setKind literals column.logicalType info) (rowNumber : Nat)
    (text : List UInt8) {stored : List UInt8} :
    convertSetMemberListLiteral column rowNumber ⟨true, true, true⟩ info text = .ok stored ↔
      ∃ bitmap, (NamesMembers (literals.map trimTrailingAsciiSpaces) text bitmap ∨
          (∀ label ∈ literals.map trimTrailingAsciiSpaces, labelEquals label text = false) ∧
            parseUnsignedIntegerLiteral text = some bitmap ∧
            FitsMembers (literals.map trimTrailingAsciiSpaces) bitmap) ∧
        stored = setText bitmap (literals.map trimTrailingAsciiSpaces) := by
  have names : ∀ bitmap, setBitmapOfTokens info 0 (text.splitOn comma) = some bitmap ↔
      NamesMembers (literals.map trimTrailingAsciiSpaces) text bitmap :=
    fun _ => setBitmapOfTokens_iff_names known text
  simp only [convertSetMemberListLiteral, if_true]
  cases found : setBitmapOfTokens info 0 (text.splitOn comma) with
  | some bitmap =>
    have named := (names bitmap).mp found
    rw [finishSetMemberListConversion, copySetBitmapValue_ok known named.fits, Except.ok.injEq]
    constructor
    · rintro rfl
      exact ⟨bitmap, .inl named, rfl⟩
    · rintro ⟨other, otherNamed | ⟨unnamed, number, -⟩, rfl⟩
      · have same := (names other).mpr otherNamed
        rw [found] at same
        rw [Option.some.inj same]
      · have known_ := named.known
        rw [number_splitOn number] at known_
        obtain ⟨label, member, equal⟩ := known_ text List.mem_cons_self
        rw [unnamed label member] at equal
        cases equal
  | none =>
    have unnamed : ∀ bitmap, ¬ NamesMembers (literals.map trimTrailingAsciiSpaces) text bitmap := by
      intro bitmap named
      rw [(names bitmap).mpr named] at found
      cases found
    have noMember : text.splitOn comma = [text] →
        ∀ label ∈ literals.map trimTrailingAsciiSpaces, labelEquals label text = false := by
      intro single label member
      rw [single, setBitmapOfTokens, known.findMember] at found
      split at found
      · rename_i absent
        exact List.findIdx?_eq_none_iff.mp absent label member
      · cases found
    simp only [finishSetMemberListConversion, true_and]
    constructor
    · intro finished
      split at finished
      · rename_i bitmap chosen
        split at chosen
        · obtain ⟨number, valid⟩ := Option.filter_eq_some_iff.mp chosen
          have fits := (setBitmapIsValid_iff known (parseUnsignedIntegerLiteral_lt number)).mp valid
          rw [copySetBitmapValue_ok known fits] at finished
          exact ⟨bitmap, .inr ⟨noMember (number_splitOn number), number, fits⟩,
            (Except.ok.inj finished).symm⟩
        · cases chosen
      · cases finished
    · rintro ⟨bitmap, named | ⟨-, number, fits⟩, rfl⟩
      · exact absurd named (unnamed bitmap)
      · have valid := (setBitmapIsValid_iff known (parseUnsignedIntegerLiteral_lt number)).mpr fits
        have noComma := splitOn_noComma text text (by simp [number_splitOn number])
        rw [if_pos (by simpa using noComma), number, Option.filter_some, if_pos valid]
        exact copySetBitmapValue_ok known fits

theorem convertSetStringLiteral_eq (known : Known setKind literals column.logicalType info)
    (rowNumber : Nat) (policy : SetStringPolicy) {decoded : List UInt8}
    (utf8 : (validateUtf8Text decoded).isSome = true) :
    convertSetStringLiteral column rowNumber policy decoded =
      if trimTrailingAsciiSpaces decoded = [] then .ok []
      else convertSetMemberListLiteral column rowNumber policy info
        (trimTrailingAsciiSpaces decoded) := by
  have read := known.read setDescriptorMessage
  have empty := copySetBitmapValue_ok known
    (show FitsMembers (literals.map trimTrailingAsciiSpaces) 0 from Nat.zero_shiftRight _)
  rw [setText, selectedMembers_zero, List.intercalate_nil] at empty
  obtain ⟨characterLength, counted⟩ := Option.isSome_iff_exists.mp utf8
  simp only [convertSetStringLiteral, counted, Option.isNone_some, Bool.false_eq_true, if_false,
    setTypeInfoForLogicalType, read, empty, ite_self, List.isEmpty_iff]

theorem enumLiteralOrdinal_small {node : ValueNode} {bitmap : Nat} {isNegative : Bool}
    (number : enumLiteralOrdinal node = some (bitmap, isNegative)) :
    bitmap >>> setKind.countCapacity = 0 := by
  unfold enumLiteralOrdinal at number
  split at number
  · split at number
    · cases number
    · obtain ⟨parsed, isNumber, same⟩ := Option.map_eq_some_iff.mp number
      cases same
      exact parseUnsignedIntegerLiteral_lt isNumber
  · cases number

theorem convertSetIntegerLiteral_ok_iff (known : Known setKind literals column.logicalType info)
    (rowNumber : Nat) (missingIsError : Bool) {node : ValueNode} {stored : List UInt8} :
    convertSetIntegerLiteral column rowNumber missingIsError node = .ok stored ↔
      ∃ bitmap isNegative, enumLiteralOrdinal node = some (bitmap, isNegative) ∧
        if isNegative = false ∧ FitsMembers (literals.map trimTrailingAsciiSpaces) bitmap then
          stored = setText bitmap (literals.map trimTrailingAsciiSpaces)
        else missingIsError = false ∧ stored = setNoMatchValue := by
  have read := known.read setDescriptorMessage
  unfold convertSetIntegerLiteral
  cases number : enumLiteralOrdinal node with
  | none => simp
  | some parsed =>
    obtain ⟨bitmap, isNegative⟩ := parsed
    have small := enumLiteralOrdinal_small number
    have valid := setBitmapIsValid_iff known small
    rw [exists_parsed_iff]
    simp only [setTypeInfoForLogicalType, read]
    by_cases accepted : isNegative = false ∧
        FitsMembers (literals.map trimTrailingAsciiSpaces) bitmap
    · rw [if_pos accepted, if_pos (by simp [accepted.1, valid.mpr accepted.2]),
        copySetBitmapValue_ok known accepted.2, Except.ok.injEq, eq_comm]
    · rw [if_neg accepted, if_neg (by simpa [valid] using accepted)]
      cases missingIsError <;> simp [eq_comm]

theorem integer_subset_iff (known : Known setKind literals column.logicalType info)
    (rowNumber : Nat) {node : ValueNode} {stored : List UInt8} :
    convertSetIntegerLiteral column rowNumber true node = .ok stored ↔
      ∃ bitmap, enumLiteralOrdinal node = some (bitmap, false) ∧
        FitsMembers (literals.map trimTrailingAsciiSpaces) bitmap ∧
        stored = setText bitmap (literals.map trimTrailingAsciiSpaces) := by
  rw [convertSetIntegerLiteral_ok_iff known]
  constructor
  · rintro ⟨bitmap, isNegative, number, chosen⟩
    split at chosen
    · rename_i accepted
      obtain ⟨rfl, fits⟩ := accepted
      exact ⟨bitmap, number, fits, chosen⟩
    · cases chosen.1
  · rintro ⟨bitmap, number, fits, same⟩
    refine ⟨bitmap, false, number, ?_⟩
    rwa [if_pos ⟨rfl, fits⟩]

theorem names_someText (known : Known setKind literals column.logicalType info)
    {text : List UInt8} {bitmap : Nat}
    (names : NamesMembers (literals.map trimTrailingAsciiSpaces) text bitmap) : text ≠ [] := by
  rintro rfl
  obtain ⟨label, member, equal⟩ := names.known [] (by simp)
  refine (known.token label member).nonempty ?_
  simpa using labelEquals_iff.mp equal

theorem convertSetLiteral_string (column : Column) (rowNumber : Nat) (sign : Option Sign)
    (text : List UInt8) :
    convertSetLiteral column rowNumber ⟨sign, .string text⟩ =
      convertSetStringLiteral column rowNumber ⟨true, true, true⟩ text := rfl

/-- A literal becomes the text of the subset it names. -/
theorem convertSetLiteral_ok_iff (known : Known setKind literals column.logicalType info)
    (rowNumber : Nat) (node : ValueNode) (stored : List UInt8) :
    convertSetLiteral column rowNumber node = .ok stored ↔
      ∃ bitmap, NamesSubset (literals.map trimTrailingAsciiSpaces) node bitmap ∧
        stored = setText bitmap (literals.map trimTrailingAsciiSpaces) := by
  have numbered : convertSetIntegerLiteral column rowNumber true node = .ok stored →
      ∃ bitmap, NamesSubset (literals.map trimTrailingAsciiSpaces) node bitmap ∧
        stored = setText bitmap (literals.map trimTrailingAsciiSpaces) := by
    intro converted
    obtain ⟨bitmap, number, fits, same⟩ := (integer_subset_iff known rowNumber).mp converted
    exact ⟨bitmap, .number number fits, same⟩
  have empty : setText 0 (literals.map trimTrailingAsciiSpaces) = [] := by
    rw [setText, selectedMembers_zero, List.intercalate_nil]
  obtain ⟨sign, literal⟩ := node
  constructor
  · intro converted
    cases literal with
    | string text =>
      rw [convertSetLiteral_string] at converted
      cases counted : validateUtf8Text text with
      | none => simp [convertSetStringLiteral, counted] at converted
      | some characterLength =>
        have utf8 : (validateUtf8Text text).isSome = true := by rw [counted]; rfl
        rw [convertSetStringLiteral_eq known rowNumber _ utf8] at converted
        split at converted
        · rename_i blank
          cases converted
          exact ⟨0, .empty utf8 blank, empty.symm⟩
        · obtain ⟨bitmap, names | ⟨unnamed, number, fits⟩, same⟩ :=
            (convertSetMemberListLiteral_ok_iff known rowNumber _).mp converted
          · exact ⟨bitmap, .members utf8 names, same⟩
          · exact ⟨bitmap, .textNumber utf8 unnamed number fits, same⟩
    | integer text => exact numbered converted
    | other => exact numbered converted
  · rintro ⟨bitmap, names, rfl⟩
    cases names with
    | empty utf8 blank =>
      rw [convertSetLiteral_string, convertSetStringLiteral_eq known rowNumber _ utf8,
        if_pos blank, empty]
    | members utf8 names =>
      rw [convertSetLiteral_string, convertSetStringLiteral_eq known rowNumber _ utf8,
        if_neg (names_someText known names)]
      exact (convertSetMemberListLiteral_ok_iff known rowNumber _).mpr ⟨bitmap, .inl names, rfl⟩
    | textNumber utf8 unnamed number fits =>
      rw [convertSetLiteral_string, convertSetStringLiteral_eq known rowNumber _ utf8,
        if_neg (number_someText number)]
      exact (convertSetMemberListLiteral_ok_iff known rowNumber _).mpr
        ⟨bitmap, .inr ⟨unnamed, number, fits⟩, rfl⟩
    | number number fits =>
      have converted := (integer_subset_iff known rowNumber).mpr ⟨bitmap, number, fits, rfl⟩
      cases literal with
      | string text => cases number
      | integer text => exact converted
      | other => exact converted

/-- A literal is stored as the text of the subset it names, in the order of the definition, and
refused when it names none. -/
theorem set_stored_iff {literals : List (List UInt8)} {column : Column}
    (created : mapSetType literals = .ok column.logicalType) (rowNumber : Nat) (node : ValueNode)
    (stored : List UInt8) :
    convertSetLiteral column rowNumber node = .ok stored ↔
      ∃ bitmap, NamesSubset (literals.map trimTrailingAsciiSpaces) node bitmap ∧
        stored = setText bitmap (literals.map trimTrailingAsciiSpaces) := by
  obtain ⟨info, known⟩ := mapType_known created
  exact convertSetLiteral_ok_iff known rowNumber node stored

theorem set_stored_iff_both :
    convertSetLiteral
        ⟨[0x73], [0x53, 0x45, 0x54, 0x28, 0x27, 0x61, 0x27, 0x2c, 0x27, 0x62, 0x27, 0x29]⟩ 1
        ⟨none, .integer [0x33]⟩ = .ok [0x61, 0x2c, 0x62] := by
  have created : mapSetType [[0x61], [0x62]] =
      .ok [0x53, 0x45, 0x54, 0x28, 0x27, 0x61, 0x27, 0x2c, 0x27, 0x62, 0x27, 0x29] := rfl
  have fits : FitsMembers ([[0x61], [0x62]].map trimTrailingAsciiSpaces) 3 := rfl
  exact (set_stored_iff created 1 _ _).mpr ⟨3, .number rfl fits, rfl⟩

theorem selected_token (known : Known setKind literals column.logicalType info) (bitmap : Nat) :
    ∀ label ∈ selectedMembers bitmap (literals.map trimTrailingAsciiSpaces),
      label ∈ literals.map trimTrailingAsciiSpaces ∧ Token label := by
  intro label member
  obtain ⟨index, stands, -⟩ := mem_selectedMembers.mp member
  have inside := List.mem_of_getElem? stands
  exact ⟨inside, known.token label inside⟩

/-- The text of a subset names the subset. -/
theorem namesSubset_setText (known : Known setKind literals column.logicalType info)
    (sign : Option Sign) {bitmap : Nat}
    (fits : FitsMembers (literals.map trimTrailingAsciiSpaces) bitmap) :
    NamesSubset (literals.map trimTrailingAsciiSpaces)
      ⟨sign, .string (setText bitmap (literals.map trimTrailingAsciiSpaces))⟩ bitmap := by
  have distinct : Distinct (literals.map trimTrailingAsciiSpaces) := known.definition.distinct
  have members := selected_token known bitmap
  have tokens := fun label member => (members label member).2
  obtain ⟨utf8, trimmed⟩ := joined_text tokens
  by_cases someMember : selectedMembers bitmap (literals.map trimTrailingAsciiSpaces) = []
  · have zero : bitmap = 0 := by
      refine bitmap_eq_of_selected distinct fits (Nat.zero_shiftRight _) ?_
      rw [someMember, selectedMembers_zero]
    subst zero
    refine .empty utf8 ?_
    rw [setText, someMember]
    rfl
  · refine .members utf8 ⟨?_, fun index => ?_⟩
    · rw [setText, trimmed, joined_split tokens someMember]
      intro token member
      exact ⟨token, (members token member).1, labelEquals_self token⟩
    · rw [setText, trimmed, joined_split tokens someMember]
      constructor
      · intro bit
        cases stands : (literals.map trimTrailingAsciiSpaces)[index]? with
        | none =>
          rw [fits.testBit (List.getElem?_eq_none_iff.mp stands)] at bit
          cases bit
        | some label =>
          exact ⟨label, rfl, label, (testBit_selected distinct stands).mp bit,
            labelEquals_self label⟩
      · rintro ⟨label, stands, token, member, equal⟩
        obtain ⟨other, otherStands, bit⟩ := mem_selectedMembers.mp member
        rwa [distinct.index_eq stands otherStands equal (labelEquals_self token)]

/-- What a SET stores is a subset of its members: each has one text, no two the same, and the text
is stored as it is. -/
theorem set_values_apart {literals : List (List UInt8)} {column : Column} {left right : Nat}
    (created : mapSetType literals = .ok column.logicalType)
    (leftFits : FitsMembers (literals.map trimTrailingAsciiSpaces) left)
    (rightFits : FitsMembers (literals.map trimTrailingAsciiSpaces) right) :
    (∀ rowNumber sign, convertSetLiteral column rowNumber
        ⟨sign, .string (setText left (literals.map trimTrailingAsciiSpaces))⟩ =
      .ok (setText left (literals.map trimTrailingAsciiSpaces))) ∧
    (setText left (literals.map trimTrailingAsciiSpaces) =
      setText right (literals.map trimTrailingAsciiSpaces) ↔ left = right) := by
  obtain ⟨info, known⟩ := mapType_known created
  constructor
  · intro rowNumber sign
    exact (convertSetLiteral_ok_iff known rowNumber _ _).mpr
      ⟨left, namesSubset_setText known sign leftFits, rfl⟩
  · constructor
    · intro same
      exact bitmap_eq_of_selected known.definition.distinct leftFits rightFits
        (selected_eq_of_setText known.token same)
    · rintro rfl
      rfl

theorem set_values_apart_both :
    convertSetLiteral
        ⟨[0x73], [0x53, 0x45, 0x54, 0x28, 0x27, 0x61, 0x27, 0x2c, 0x27, 0x62, 0x27, 0x29]⟩ 1
        ⟨none, .string [0x61, 0x2c, 0x62]⟩ = .ok [0x61, 0x2c, 0x62] ∧
      setText 3 [[0x61], [0x62]] ≠ setText 1 [[0x61], [0x62]] := by
  have values := @set_values_apart [[0x61], [0x62]]
    ⟨[0x73], [0x53, 0x45, 0x54, 0x28, 0x27, 0x61, 0x27, 0x2c, 0x27, 0x62, 0x27, 0x29]⟩ 3 1
    rfl rfl rfl
  exact ⟨values.1 1 none, fun same => absurd (values.2.mp same) (by decide)⟩

/-! SET in WHERE. -/

/-- A text between commas is compared as this member: it is the label but for ASCII case, or the
label itself in front of a zero byte. -/
def SaysMember (label token : List UInt8) : Prop :=
  labelEquals label token = true ∨ ∃ behind, token = label ++ 0 :: behind

theorem labelEquals_noNul {label token : List UInt8} (equal : labelEquals label token = true)
    (noNul : 0 ∉ label) : 0 ∉ token := by
  intro nul
  have lower : ∀ byte, asciiLower byte = 0 → byte = 0 := by
    intro byte
    grind [asciiLower]
  have inLabel : (0 : UInt8) ∈ label.map asciiLower := by
    rw [labelEquals_iff.mp equal]
    exact List.mem_map.mpr ⟨0, nul, rfl⟩
  obtain ⟨byte, member, zero⟩ := List.mem_map.mp inLabel
  exact noNul (lower byte zero ▸ member)

/-- A text is all of its C string, or the string in front of a zero byte. -/
theorem takeWhile_nonzero_iff {text start : List UInt8} (noNul : 0 ∉ start) :
    text.takeWhile (· ≠ 0) = start ↔ text = start ∨ ∃ behind, text = start ++ 0 :: behind := by
  have nonzero : ∀ byte ∈ start, (decide (byte ≠ 0)) = true := fun byte member =>
    decide_eq_true fun zero => noNul (zero ▸ member)
  constructor
  · rintro rfl
    have split := (List.takeWhile_append_dropWhile (p := (· ≠ 0)) (l := text)).symm
    cases rest : text.dropWhile (· ≠ 0) with
    | nil =>
      rw [rest, List.append_nil] at split
      exact .inl split
    | cons byte behind =>
      have someRest : text.dropWhile (· ≠ 0) ≠ [] := rest ▸ List.cons_ne_nil _ _
      have stopped := List.head_dropWhile_not _ someRest
      simp only [rest, List.head_cons, decide_eq_false_iff_not, not_not] at stopped
      rw [rest, stopped] at split
      exact .inr ⟨behind, split⟩
  · rintro (rfl | ⟨behind, rfl⟩)
    · exact List.takeWhile_eq_self_iff.mpr nonzero
    · rw [List.takeWhile_append_of_pos nonzero, List.takeWhile_cons_of_neg (by simp),
        List.append_nil]

theorem predicateMember_iff (known : Known setKind literals column.logicalType info)
    {token label : List UInt8} (member : label ∈ literals.map trimTrailingAsciiSpaces) :
    setPredicateMemberText info token = label ↔ SaysMember label token := by
  have distinct : Distinct (literals.map trimTrailingAsciiSpaces) := known.definition.distinct
  have found := known.findLabel token
  rw [setPredicateMemberText]
  cases equal : enumFindLabel info token with
  | none =>
    rw [equal] at found
    have unnamed := List.find?_eq_none.mp found.symm label member
    refine (takeWhile_nonzero_iff (known.token label member).noNul).trans ?_
    constructor
    · rintro (rfl | cut)
      · exact absurd (labelEquals_self token) unnamed
      · exact .inr cut
    · rintro (named | cut)
      · exact absurd named unnamed
      · exact .inr cut
  | some other =>
    rw [equal] at found
    have named := (find_label_iff distinct).mp found.symm
    dsimp only
    constructor
    · rintro rfl
      exact .inl named.2
    · rintro (labelNamed | ⟨behind, rfl⟩)
      · rw [(find_label_iff distinct).mpr ⟨member, labelNamed⟩] at found
        exact Option.some.inj found
      · -- no label is equal to a text with a zero byte
        have noNul := labelEquals_noNul named.2 (known.token other.text named.1).noNul
        exact absurd (by simp) noNul

theorem predicateMember_kept (known : Known setKind literals column.logicalType info)
    {token : List UInt8} (noComma : comma ∉ token) :
    comma ∉ setPredicateMemberText info token ∧
      (setPredicateMemberText info token = [] ↔ token = [] ∨ ∃ behind, token = 0 :: behind) := by
  have found := known.findLabel token
  have cut := @takeWhile_nonzero_iff token [] List.not_mem_nil
  rw [setPredicateMemberText]
  cases equal : enumFindLabel info token with
  | none => exact ⟨fun member => noComma ((List.takeWhile_sublist _).mem member), cut⟩
  | some label =>
    rw [equal] at found
    have isToken := known.token label.text (List.mem_of_find?_eq_some found.symm)
    have named := List.find?_some found.symm
    refine ⟨isToken.noComma, iff_of_false isToken.nonempty ?_⟩
    rintro (rfl | ⟨behind, rfl⟩)
    · exact isToken.nonempty (by simpa using labelEquals_iff.mp named)
    · exact labelEquals_noNul named isToken.noNul List.mem_cons_self

theorem predicateMembers_iff (known : Known setKind literals column.logicalType info)
    {tokens labels : List (List UInt8)}
    (members : ∀ label ∈ labels, label ∈ literals.map trimTrailingAsciiSpaces) :
    tokens.map (setPredicateMemberText info) = labels ↔
      List.Forall₂ SaysMember labels tokens := by
  induction tokens generalizing labels with
  | nil => cases labels <;> simp [List.forall₂_nil_right_iff]
  | cons token tokens ih =>
    cases labels with
    | nil => simp [List.forall₂_nil_left_iff]
    | cons label labels =>
      obtain ⟨member, others⟩ := List.forall_mem_cons.mp members
      rw [List.map_cons, List.cons.injEq, List.forall₂_cons, predicateMember_iff known member,
        ih others]

/-- The predicate text of tokens is the text of a subset when they are its members in order. One
that a zero byte cuts to nothing is the text of the empty subset. -/
theorem predicateText_iff (known : Known setKind literals column.logicalType info)
    {text : List UInt8} (someText : text ≠ []) (bitmap : Nat) :
    [comma].intercalate ((text.splitOn comma).map (setPredicateMemberText info)) =
        setText bitmap (literals.map trimTrailingAsciiSpaces) ↔
      List.Forall₂ SaysMember (selectedMembers bitmap (literals.map trimTrailingAsciiSpaces))
          (text.splitOn comma) ∨
        (selectedMembers bitmap (literals.map trimTrailingAsciiSpaces) = [] ∧ comma ∉ text ∧
          ∃ behind, text = 0 :: behind) := by
  have members := selected_token known bitmap
  rw [← predicateMembers_iff known fun label member => (members label member).1, setText]
  have noComma : ∀ token ∈ (text.splitOn comma).map (setPredicateMemberText info),
      comma ∉ token := by
    intro shown member
    obtain ⟨token, tokenMember, rfl⟩ := List.mem_map.mp member
    exact (predicateMember_kept known (splitOn_noComma text token tokenMember)).1
  have someToken : (text.splitOn comma).map (setPredicateMemberText info) ≠ [] := by
    simp [List.splitOn_ne_nil]
  have split := List.splitOn_intercalate comma noComma someToken
  constructor
  · intro same
    rw [same] at split
    by_cases someMember : selectedMembers bitmap (literals.map trimTrailingAsciiSpaces) = []
    · -- the only text without members is empty, and so is what it was made of
      rw [someMember, List.intercalate_nil, List.splitOn_nil] at split
      obtain ⟨token, isToken, empty⟩ := List.map_eq_singleton_iff.mp split.symm
      have tokenNoComma := splitOn_noComma text token (by simp [isToken])
      have joined : [comma].intercalate (text.splitOn comma) = text :=
        List.intercalate_splitOn comma
      rw [isToken, List.intercalate_singleton] at joined
      subst joined
      exact .inr ⟨someMember, tokenNoComma,
        ((predicateMember_kept known tokenNoComma).2.mp empty).resolve_left someText⟩
    · rw [← split]
      exact .inl (joined_split (fun label member => (members label member).2) someMember)
  · rintro (same | ⟨none, textNoComma, cut⟩)
    · rw [same]
    · rw [none, List.splitOn_eq_singleton textNoComma, List.map_singleton,
        List.intercalate_singleton, List.intercalate_nil]
      exact (predicateMember_kept known textNoComma).2.mpr (.inr cut)

/-- The literal stands for the stored subset in WHERE: its members in the order of the definition,
its bitmap, or a number that is no bitmap where the subset has the text of no member. A zero byte
ends what a text between commas says. -/
inductive SelectsSubset (labels : List (List UInt8)) : ValueNode → Nat → Prop where
  | empty {sign : Option Sign} {text : List UInt8} (utf8 : (validateUtf8Text text).isSome = true)
      (blank : trimTrailingAsciiSpaces text = []) : SelectsSubset labels ⟨sign, .string text⟩ 0
  | nul {sign : Option Sign} {text behind : List UInt8}
      (utf8 : (validateUtf8Text text).isSome = true)
      (cut : trimTrailingAsciiSpaces text = 0 :: behind) (alone : comma ∉ 0 :: behind) :
      SelectsSubset labels ⟨sign, .string text⟩ 0
  | members {sign : Option Sign} {text : List UInt8} {bitmap : Nat}
      (utf8 : (validateUtf8Text text).isSome = true)
      (inOrder : List.Forall₂ SaysMember (selectedMembers bitmap labels)
        ((trimTrailingAsciiSpaces text).splitOn comma)) :
      SelectsSubset labels ⟨sign, .string text⟩ bitmap
  | number {node : ValueNode} {bitmap : Nat}
      (number : enumLiteralOrdinal node = some (bitmap, false)) : SelectsSubset labels node bitmap
  | noSubset {node : ValueNode} {bitmap other : Nat} {isNegative : Bool}
      (number : enumLiteralOrdinal node = some (other, isNegative))
      (refused : ¬ (isNegative = false ∧ FitsMembers labels other))
      (same : setText bitmap labels = setNoMatchValue) : SelectsSubset labels node bitmap

theorem inOrder_someText (known : Known setKind literals column.logicalType info)
    {text : List UInt8} {bitmap : Nat}
    (inOrder : List.Forall₂ SaysMember
      (selectedMembers bitmap (literals.map trimTrailingAsciiSpaces)) (text.splitOn comma)) :
    text ≠ [] := by
  rintro rfl
  rw [List.splitOn_nil] at inOrder
  obtain ⟨label, rest, said, -, selected⟩ := List.forall₂_cons_right_iff.mp inOrder
  have isToken := (selected_token known bitmap label (by simp [selected])).2
  rcases said with equal | ⟨behind, cut⟩
  · exact isToken.nonempty (by simpa using labelEquals_iff.mp equal)
  · simp at cut

theorem convertPredicateSetLiteral_string (column : Column) (sign : Option Sign)
    (text : List UInt8) :
    convertPredicateSetLiteral column ⟨sign, .string text⟩ =
      convertSetStringLiteral column 1 ⟨false, false, false⟩ text := rfl

/-- WHERE compares with a stored subset exactly when the literal stands for it: the members of a
text count in the order of the definition only. -/
theorem set_selected_iff {literals : List (List UInt8)} {column : Column} {bitmap : Nat}
    (created : mapSetType literals = .ok column.logicalType) (node : ValueNode)
    (fits : FitsMembers (literals.map trimTrailingAsciiSpaces) bitmap) :
    convertPredicateSetLiteral column node =
        .ok (setText bitmap (literals.map trimTrailingAsciiSpaces)) ↔
      SelectsSubset (literals.map trimTrailingAsciiSpaces) node bitmap := by
  obtain ⟨info, known⟩ := mapType_known created
  have distinct : Distinct (literals.map trimTrailingAsciiSpaces) := known.definition.distinct
  have empty : setText 0 (literals.map trimTrailingAsciiSpaces) = [] := by
    rw [setText, selectedMembers_zero, List.intercalate_nil]
  have apart : ∀ {other : Nat}, FitsMembers (literals.map trimTrailingAsciiSpaces) other →
      setText bitmap (literals.map trimTrailingAsciiSpaces) =
        setText other (literals.map trimTrailingAsciiSpaces) → other = bitmap := by
    intro other otherFits same
    exact (bitmap_eq_of_selected distinct fits otherFits
      (selected_eq_of_setText known.token same)).symm
  have numbered : convertSetIntegerLiteral column 1 false node =
        .ok (setText bitmap (literals.map trimTrailingAsciiSpaces)) →
      SelectsSubset (literals.map trimTrailingAsciiSpaces) node bitmap := by
    intro converted
    obtain ⟨other, isNegative, number, chosen⟩ :=
      (convertSetIntegerLiteral_ok_iff known 1 false).mp converted
    split at chosen
    · rename_i accepted
      obtain ⟨rfl, otherFits⟩ := accepted
      rw [apart otherFits chosen] at number
      exact .number number
    · rename_i refused
      exact .noSubset number refused chosen.2
  obtain ⟨sign, literal⟩ := node
  constructor
  · intro converted
    cases literal with
    | string text =>
      rw [convertPredicateSetLiteral_string] at converted
      cases counted : validateUtf8Text text with
      | none => simp [convertSetStringLiteral, counted] at converted
      | some characterLength =>
        have utf8 : (validateUtf8Text text).isSome = true := by rw [counted]; rfl
        rw [convertSetStringLiteral_eq known 1 _ utf8] at converted
        split at converted
        · rename_i blank
          rw [← apart (Nat.zero_shiftRight _) (by rw [empty]; exact (Except.ok.inj converted).symm)]
          exact .empty utf8 blank
        · rename_i someText
          rcases (predicateText_iff known someText bitmap).mp (Except.ok.inj converted) with
            inOrder | ⟨none, alone, behind, cut⟩
          · exact .members utf8 inOrder
          · rw [← apart (Nat.zero_shiftRight _) (by rw [empty, setText, none]; rfl)]
            exact .nul utf8 cut (cut ▸ alone)
    | integer text => exact numbered converted
    | other => exact numbered converted
  · intro selects
    cases selects with
    | empty utf8 blank =>
      rw [convertPredicateSetLiteral_string, convertSetStringLiteral_eq known 1 _ utf8,
        if_pos blank, empty]
    | nul utf8 cut alone =>
      have someText : trimTrailingAsciiSpaces _ ≠ [] := cut ▸ List.cons_ne_nil _ _
      rw [convertPredicateSetLiteral_string, convertSetStringLiteral_eq known 1 _ utf8,
        if_neg someText]
      exact congrArg Except.ok ((predicateText_iff known someText 0).mpr
        (.inr ⟨selectedMembers_zero _, cut ▸ alone, _, cut⟩))
    | members utf8 inOrder =>
      have someText := inOrder_someText known inOrder
      rw [convertPredicateSetLiteral_string, convertSetStringLiteral_eq known 1 _ utf8,
        if_neg someText]
      exact congrArg Except.ok ((predicateText_iff known someText bitmap).mpr (.inl inOrder))
    | number number =>
      have converted := (convertSetIntegerLiteral_ok_iff known 1 false).mpr
        ⟨bitmap, false, number, by rw [if_pos ⟨rfl, fits⟩]⟩
      cases literal with
      | string text => cases number
      | integer text => exact converted
      | other => exact converted
    | noSubset number refused same =>
      have converted := (convertSetIntegerLiteral_ok_iff known 1 false).mpr
        ⟨_, _, number, by rw [if_neg refused]; exact ⟨rfl, same⟩⟩
      cases literal with
      | string text => cases number
      | integer text => exact converted
      | other => exact converted

theorem set_selected_iff_ordered :
    convertPredicateSetLiteral
        ⟨[0x73], [0x53, 0x45, 0x54, 0x28, 0x27, 0x61, 0x27, 0x2c, 0x27, 0x62, 0x27, 0x29]⟩
        ⟨none, .string [0x41, 0x2c, 0x62]⟩ = .ok (setText 3 [[0x61], [0x62]]) := by
  have created : mapSetType [[0x61], [0x62]] =
      .ok [0x53, 0x45, 0x54, 0x28, 0x27, 0x61, 0x27, 0x2c, 0x27, 0x62, 0x27, 0x29] := rfl
  have fits : FitsMembers ([[0x61], [0x62]].map trimTrailingAsciiSpaces) 3 := rfl
  refine (set_selected_iff created ⟨none, .string [0x41, 0x2c, 0x62]⟩ fits).mpr (.members rfl ?_)
  exact .cons (.inl (by decide)) (.cons (.inl (by decide)) .nil)

end Set

end MyLite.EnumSet
