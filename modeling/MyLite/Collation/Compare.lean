import MyLite.Collation.UnicodeFold
import MyLite.Library.Lexicographic

/-! The comparison of `mylite_collation.c`. A text is its list of bytes, an iterator holds the
bytes and pending weights it has not read yet, and the C results -1, 0 and 1 are `.lt`, `.eq`
and `.gt`. -/
namespace MyLite.Collation

inductive CollationKind where
  | utf8mb4_0900_ai_ci
  | utf8mb4_0900_as_ci
  | utf8mb4_0900_as_cs
  | binary
  deriving DecidableEq, Repr

inductive CollationLevel where
  | primary
  | secondary
  | tertiary
  deriving DecidableEq, Repr

def invalidUtf8WeightBase : Nat := 0x110000

def compatibilitySecondaryWeightBase : Nat := 0x120000

def asciiCodePointLimit : UInt8 := 0x80

def utf8IsContinuation (byte : UInt8) : Bool :=
  byte &&& 0xc0 == 0x80

def payloadBits (byte mask : UInt8) : Nat :=
  (byte &&& mask).toNat

/-- The code point at `first :: rest` and the bytes after it. A byte that starts no well-formed
sequence is read alone, as a weight above every code point. -/
def decodeUtf8Codepoint (first : UInt8) (rest : List UInt8) : Nat × List UInt8 :=
  let second := rest.getD 0 0
  let third := rest.getD 1 0
  let fourth := rest.getD 2 0
  if first < 0x80 then (first.toNat, rest)
  else if 0xc2 ≤ first ∧ first ≤ 0xdf ∧ 0 < rest.length ∧ utf8IsContinuation second then
    (payloadBits first 0x1f <<< 6 ||| payloadBits second 0x3f, rest.drop 1)
  else if 0xe0 ≤ first ∧ first ≤ 0xef ∧ 1 < rest.length ∧ utf8IsContinuation second ∧
      utf8IsContinuation third ∧ ¬(first = 0xe0 ∧ second < 0xa0) ∧
      ¬(first = 0xed ∧ 0xa0 ≤ second) then
    (payloadBits first 0x0f <<< 12 ||| payloadBits second 0x3f <<< 6 |||
      payloadBits third 0x3f, rest.drop 2)
  else if 0xf0 ≤ first ∧ first ≤ 0xf4 ∧ 2 < rest.length ∧ utf8IsContinuation second ∧
      utf8IsContinuation third ∧ utf8IsContinuation fourth ∧
      ¬(first = 0xf0 ∧ second < 0x90) ∧ ¬(first = 0xf4 ∧ 0x90 ≤ second) then
    (payloadBits first 0x07 <<< 18 ||| payloadBits second 0x3f <<< 12 |||
      payloadBits third 0x3f <<< 6 ||| payloadBits fourth 0x3f, rest.drop 3)
  else (invalidUtf8WeightBase + first.toNat, rest)

theorem decodeUtf8Codepoint_ascii (first : UInt8) (rest : List UInt8)
    (ascii : first < asciiCodePointLimit) :
    decodeUtf8Codepoint first rest = (first.toNat, rest) :=
  if_pos ascii

theorem decodeUtf8Codepoint_length (first : UInt8) (rest : List UInt8) :
    (decodeUtf8Codepoint first rest).2.length ≤ rest.length := by
  simp only [decodeUtf8Codepoint]
  split
  · exact Nat.le_refl _
  · split
    · simp only [List.length_drop, Nat.sub_le]
    · split
      · simp only [List.length_drop, Nat.sub_le]
      · split
        · simp only [List.length_drop, Nat.sub_le]
        · exact Nat.le_refl _

def collationCodepointIsCombiningMark (codepoint : Nat) : Bool :=
  (0x0300 ≤ codepoint && codepoint ≤ 0x036f) || (0x1ab0 ≤ codepoint && codepoint ≤ 0x1aff) ||
  (0x1dc0 ≤ codepoint && codepoint ≤ 0x1dff) || (0x20d0 ≤ codepoint && codepoint ≤ 0x20ff) ||
  (0xfe20 ≤ codepoint && codepoint ≤ 0xfe2f)

def collationPrimaryExpansion (codepoint : Nat) : List Nat :=
  match codepoint with
  | 0x00c6 | 0x00e6 => [0x61, 0x65]
  | 0x00df | 0x1e9e => [0x73, 0x73]
  | 0x0132 | 0x0133 => [0x69, 0x6a]
  | 0x0152 | 0x0153 => [0x6f, 0x65]
  | 0xfb00 => [0x66, 0x66]
  | 0xfb01 => [0x66, 0x69]
  | 0xfb02 => [0x66, 0x6c]
  | 0xfb03 => [0x66, 0x66, 0x69]
  | 0xfb04 => [0x66, 0x66, 0x6c]
  | 0xfb05 | 0xfb06 => [0x73, 0x74]
  | _ => []

/-- The combining accent of a precomposed Latin-1 letter, or 0. -/
def collationCanonicalAccent (codepoint : Nat) : Nat :=
  match codepoint with
  | 0x00c0 | 0x00c8 | 0x00cc | 0x00d2 | 0x00d9 | 0x00e0 | 0x00e8 | 0x00ec | 0x00f2 | 0x00f9 =>
    0x0300
  | 0x00c1 | 0x00c9 | 0x00cd | 0x00d3 | 0x00da | 0x00dd | 0x00e1 | 0x00e9 | 0x00ed | 0x00f3
  | 0x00fa | 0x00fd => 0x0301
  | 0x00c2 | 0x00ca | 0x00ce | 0x00d4 | 0x00db | 0x00e2 | 0x00ea | 0x00ee | 0x00f4 | 0x00fb =>
    0x0302
  | 0x00c3 | 0x00d1 | 0x00d5 | 0x00e3 | 0x00f1 | 0x00f5 => 0x0303
  | 0x00c4 | 0x00cb | 0x00cf | 0x00d6 | 0x00dc | 0x00e4 | 0x00eb | 0x00ef | 0x00f6 | 0x00fc
  | 0x00ff => 0x0308
  | 0x00c5 | 0x00e5 => 0x030a
  | 0x00c7 | 0x00e7 => 0x0327
  | _ => 0

/-- The primary weight of a code point and the weights it leaves pending in the iterator, as for
the other two levels; `none` skips the code point. -/
def collationPrimaryWeight (codepoint : Nat) : Option (Nat × List Nat) :=
  if invalidUtf8WeightBase ≤ codepoint then some (codepoint, [])
  else if collationCodepointIsCombiningMark codepoint then none
  else
    match collationPrimaryExpansion codepoint with
    | first :: pending => some (first, pending)
    | [] => some (unicodeFold codepoint .complex, [])

def collationSecondaryWeight (codepoint : Nat) : Option (Nat × List Nat) :=
  if invalidUtf8WeightBase ≤ codepoint then some (codepoint, [])
  else if collationCodepointIsCombiningMark codepoint then some (codepoint, [])
  else if collationCanonicalAccent codepoint ≠ 0 then
    some (1, [collationCanonicalAccent codepoint])
  else if collationPrimaryExpansion codepoint ≠ [] then
    some (1, [compatibilitySecondaryWeightBase + codepoint])
  else if unicodeFold codepoint .keep ≠ unicodeFold codepoint .complex then
    some (1, [compatibilitySecondaryWeightBase + codepoint])
  else some (1, [])

def collationTertiaryWeight (codepoint : Nat) : Option (Nat × List Nat) :=
  if invalidUtf8WeightBase ≤ codepoint then some (codepoint, [])
  else if collationCodepointIsCombiningMark codepoint then none
  else some (if unicodeFold codepoint .keep = codepoint then 1 else 2, [])

/-- The weight function that `collation_iterator_next` picks for a level. -/
def collationWeight : CollationLevel → Nat → Option (Nat × List Nat)
  | .primary => collationPrimaryWeight
  | .secondary => collationSecondaryWeight
  | .tertiary => collationTertiaryWeight

theorem collationWeight_pending_length (level : CollationLevel) (codepoint : Nat)
    {weight : Nat} {pending : List Nat}
    (weighted : collationWeight level codepoint = some (weight, pending)) :
    pending.length ≤ 2 := by
  cases level with
  | primary =>
    simp only [collationWeight, collationPrimaryWeight, collationPrimaryExpansion] at weighted
    grind
  | secondary =>
    simp only [collationWeight, collationSecondaryWeight] at weighted
    grind
  | tertiary =>
    simp only [collationWeight, collationTertiaryWeight] at weighted
    grind

structure CollationIterator where
  level : CollationLevel
  text : List UInt8
  pending : List Nat

/-- The loop of `collation_iterator_next`: pending weights first, then the next code point that
is not skipped. -/
def nextWeight (level : CollationLevel) :
    List UInt8 → List Nat → Option (Nat × CollationIterator)
  | text, weight :: pending => some (weight, ⟨level, text, pending⟩)
  | [], [] => none
  | first :: rest, [] =>
    match collationWeight level (decodeUtf8Codepoint first rest).1 with
    | some (weight, pending) =>
      some (weight, ⟨level, (decodeUtf8Codepoint first rest).2, pending⟩)
    | none => nextWeight level (decodeUtf8Codepoint first rest).2 []
termination_by text _ => text.length
decreasing_by
  have shorter := decodeUtf8Codepoint_length first rest
  simp only [List.length_cons]
  omega

def CollationIterator.next (iterator : CollationIterator) : Option (Nat × CollationIterator) :=
  nextWeight iterator.level iterator.text iterator.pending

/-- A bound on the weights an iterator can still yield. -/
def CollationIterator.measure (iterator : CollationIterator) : Nat :=
  3 * iterator.text.length + iterator.pending.length

theorem nextWeight_measure (level : CollationLevel) (text : List UInt8) (pending : List Nat)
    {weight : Nat} {after : CollationIterator}
    (step : nextWeight level text pending = some (weight, after)) :
    after.measure < 3 * text.length + pending.length := by
  fun_induction nextWeight level text pending with
  | case1 text first pending =>
    cases step
    simp only [CollationIterator.measure, List.length_cons]
    omega
  | case2 => cases step
  | case3 first rest first pending weighted =>
    cases step
    have shorter := decodeUtf8Codepoint_length first rest
    have short := collationWeight_pending_length level _ weighted
    simp only [CollationIterator.measure, List.length_cons, List.length_nil]
    omega
  | case4 first rest skipped ih =>
    have smaller := ih step
    have shorter := decodeUtf8Codepoint_length first rest
    simp only [List.length_cons, List.length_nil] at smaller ⊢
    omega

theorem CollationIterator.next_measure {iterator after : CollationIterator} {weight : Nat}
    (step : iterator.next = some (weight, after)) : after.measure < iterator.measure :=
  nextWeight_measure _ _ _ step

/-- The loop of `compare_unicode_level`. -/
def compareWeights (left right : CollationIterator) : Ordering :=
  match _step : left.next, right.next with
  | some (leftWeight, left'), some (rightWeight, right') =>
    (compare leftWeight rightWeight).then (compareWeights left' right')
  | some _, none => .gt
  | none, some _ => .lt
  | none, none => .eq
termination_by left.measure
decreasing_by exact CollationIterator.next_measure (by assumption)

def compareUnicodeLevel (level : CollationLevel) (left right : List UInt8) : Ordering :=
  compareWeights ⟨level, left, []⟩ ⟨level, right, []⟩

/-- `memcmp` over the shared length, then the sizes. -/
def compareBinary (left right : List UInt8) : Ordering :=
  (Lexicographic.sharedOrder left right).then (compare left.length right.length)

def asciiFold (byte : UInt8) : UInt8 :=
  if 0x41 ≤ byte ∧ byte ≤ 0x5a then byte + 0x20 else byte

/-- The first loop of `compare_ascii`, over the shared length: `none` at a byte that is not
ASCII, the order of the first two bytes that fold differently, `.eq` at the shared end. -/
def compareAsciiFolded : List UInt8 → List UInt8 → Option Ordering
  | left :: lefts, right :: rights =>
    if left ≥ asciiCodePointLimit ∨ right ≥ asciiCodePointLimit then none
    else
      match compare (asciiFold left) (asciiFold right) with
      | .eq => compareAsciiFolded lefts rights
      | different => some different
  | _, _ => some .eq

def asciiCaseWeight (byte : UInt8) : Nat :=
  if asciiFold byte = byte then 1 else 2

/-- The fast path: the fold of the shared bytes, the sizes, and with `_cs` upper case after lower
case. `none` leaves the comparison to the Unicode levels. -/
def compareAscii (kind : CollationKind) (left right : List UInt8) : Option Ordering :=
  let sharedSize := min left.length right.length
  match compareAsciiFolded left right with
  | some .eq =>
    if (left.drop sharedSize).any (· ≥ asciiCodePointLimit) then none
    else if (right.drop sharedSize).any (· ≥ asciiCodePointLimit) then none
    else if left.length ≠ right.length then some (compare left.length right.length)
    else if kind = .utf8mb4_0900_as_cs then
      some (Lexicographic.sharedOrder (left.map asciiCaseWeight) (right.map asciiCaseWeight))
    else some .eq
  | decided => decided

def collationCompare (kind : CollationKind) (left right : List UInt8) : Ordering :=
  if kind = .binary then compareBinary left right
  else
    match compareAscii kind left right with
    | some result => result
    | none =>
      let result := compareUnicodeLevel .primary left right
      let result :=
        if result = .eq ∧ kind ≠ .utf8mb4_0900_ai_ci then compareUnicodeLevel .secondary left right
        else result
      if result = .eq ∧ kind = .utf8mb4_0900_as_cs then compareUnicodeLevel .tertiary left right
      else result

end MyLite.Collation
