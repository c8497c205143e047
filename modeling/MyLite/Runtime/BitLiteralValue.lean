import Mathlib.Data.List.Forall2
import MyLite.Library.Decimal
import MyLite.Runtime.BitLiteral

/-! What a BIT column stores for a literal: the value where it fits, whatever the spelling, as
long as the digits of a hexadecimal literal fit eight bytes. -/

namespace MyLite.BitLiteral

open UnsignedLiteral (Unsigned literalValue parseUnsignedIntegerLiteral
  parseUnsignedIntegerLiteral_eq)

/-! Columns. -/

/-- The number of a blob, read big-endian. -/
def blobValue (blob : List UInt8) : Nat := Radix.value 256 (blob.map UInt8.toNat)

section Columns

variable {width : Nat}

theorem width_bounds {logicalType : List UInt8}
    (column : bitWidthForLogicalType logicalType = some width) : 1 ≤ width ∧ width ≤ 64 := by
  rw [bitWidthForLogicalType] at column
  split at column
  · cases column
  · obtain ⟨-, bounds⟩ := Option.filter_eq_some_iff.mp column
    have bounds := of_decide_eq_true bounds
    omega

theorem bitWidthMaxValue_toNat (wide : width ≤ 64) :
    (bitWidthMaxValue width).toNat = 2 ^ width - 1 := by
  rw [bitWidthMaxValue]
  split
  · have full : width = 64 := by omega
    rw [full]
    rfl
  · have positive : 1 ≤ 2 ^ width := Nat.one_le_two_pow
    have small : 2 ^ width < 2 ^ 64 := Nat.pow_lt_pow_right (by decide) (by omega)
    have shift : (UInt64.ofNat width).toNat = width := UInt64.toNat_ofNat_of_lt' (by
      rw [UInt64.size]
      omega)
    have amount : width % 64 = width := Nat.mod_eq_of_lt (by omega)
    have one : ((1 : UInt64) <<< UInt64.ofNat width).toNat = 2 ^ width := by
      rw [UInt64.toNat_shiftLeft, shift, UInt64.toNat_one, amount, Nat.shiftLeft_eq, Nat.one_mul,
        Nat.mod_eq_of_lt small]
    rw [UInt64.toNat_sub_of_le _ _ (by
      rw [UInt64.le_iff_toNat_le, one]
      exact positive), one]
    rfl

theorem makeBitBlobValue_fixed (wide : width ≤ 64) (magnitude : UInt64) :
    (makeBitBlobValue width magnitude).map UInt8.toNat =
      Radix.fixed 256 (bitByteWidth width) magnitude.toNat := by
  rw [makeBitBlobValue, Radix.fixed, List.map_map]
  refine List.map_congr_left fun index member => ?_
  have below := List.mem_range.mp member
  have eight : bitByteWidth width ≤ 8 := by
    rw [bitByteWidth]
    omega
  rw [Function.comp_apply]
  generalize places : bitByteWidth width - index - 1 = place
  have amount : place * 8 % 64 = place * 8 := Nat.mod_eq_of_lt (by omega)
  have shift : (UInt64.ofNat (place * 8)).toNat = place * 8 := UInt64.toNat_ofNat_of_lt' (by
    rw [UInt64.size]
    omega)
  have mask : ∀ number : Nat, number &&& 255 = number % 256 := fun number =>
    Nat.and_two_pow_sub_one_eq_mod number 8
  rw [UInt64.toNat_toUInt8, UInt64.toNat_and, UInt64.toNat_shiftRight, shift, amount,
    Nat.shiftRight_eq_div_pow, show (0xff : UInt64).toNat = 255 from rfl, mask,
    Nat.mul_comm place, Nat.pow_mul]
  exact Nat.mod_mod _ _

/-- The blob has the bytes of the column and reads as the number. -/
structure BlobOf (width number : Nat) (blob : List UInt8) : Prop where
  length : blob.length = (width + 7) / 8
  reads : blobValue blob = number

theorem makeBitBlobValue_blobOf (wide : width ≤ 64) {magnitude : UInt64}
    (small : magnitude.toNat < 2 ^ width) :
    BlobOf width magnitude.toNat (makeBitBlobValue width magnitude) := by
  constructor
  · rw [makeBitBlobValue, List.length_map, List.length_range, bitByteWidth]
  · rw [blobValue, makeBitBlobValue_fixed wide, Radix.value_fixed]
    refine Nat.mod_eq_of_lt (Nat.lt_of_lt_of_le small ?_)
    rw [show 256 = 2 ^ 8 from rfl, ← Nat.pow_mul]
    refine Nat.pow_le_pow_right (by decide) ?_
    rw [bitByteWidth]
    omega

end Columns

/-! Bytes. -/

theorem shifted_or {magnitude : UInt64} (byte : UInt8) (small : magnitude.toNat < 2 ^ 56) :
    (magnitude <<< 8 ||| byte.toUInt64).toNat = magnitude.toNat * 256 + byte.toNat := by
  have shift : magnitude.toNat <<< 8 % 2 ^ 64 = magnitude.toNat <<< 8 := by
    rw [Nat.shiftLeft_eq]
    exact Nat.mod_eq_of_lt (by omega)
  rw [UInt64.toNat_or, UInt64.toNat_shiftLeft, UInt8.toNat_toUInt64,
    show (8 : UInt64).toNat % 64 = 8 from rfl, shift,
    ← Nat.shiftLeft_add_eq_or_of_lt (by exact byte.toNat_lt), Nat.shiftLeft_eq]

theorem foldl_bytes {magnitude : UInt64} {bytes : List UInt8} {places : Nat}
    (small : magnitude.toNat < 256 ^ places) (fits : places + bytes.length ≤ 8) :
    (bytes.foldl (fun (number : UInt64) byte => number <<< 8 ||| byte.toUInt64) magnitude).toNat =
      (bytes.map UInt8.toNat).foldl (fun number digit => number * 256 + digit)
        magnitude.toNat := by
  induction bytes generalizing magnitude places with
  | nil => rfl
  | cons byte rest ih =>
    rw [List.length_cons] at fits
    have byteSmall := byte.toNat_lt
    have room : 256 ^ places ≤ 256 ^ 7 := Nat.pow_le_pow_right (by decide) (by omega)
    have step := shifted_or byte (Nat.lt_of_lt_of_le small room)
    rw [List.foldl_cons, List.map_cons, List.foldl_cons, ← step]
    have grown : (magnitude <<< 8 ||| byte.toUInt64).toNat < 256 ^ (places + 1) := by
      rw [step, Nat.pow_succ]
      omega
    exact ih grown (by omega)

theorem bitStringBytesToMagnitude_value {bytes : List UInt8} (short : bytes.length ≤ 8) :
    ∃ magnitude, bitStringBytesToMagnitude bytes = .value magnitude ∧
      magnitude.toNat = blobValue bytes := by
  have fits : 0 + bytes.length ≤ 8 := by omega
  have zero : (0 : UInt64).toNat < 256 ^ 0 := by decide
  refine ⟨_, ?_, foldl_bytes zero fits⟩
  rw [bitStringBytesToMagnitude, if_neg (by omega)]

/-! Hexadecimal digits. -/

/-- The byte spells the digit. -/
def HexDigit (byte : UInt8) (digit : Nat) : Prop :=
  (48 ≤ byte.toNat ∧ byte.toNat ≤ 57 ∧ digit = byte.toNat - 48) ∨
  (97 ≤ byte.toNat ∧ byte.toNat ≤ 102 ∧ digit = byte.toNat - 87) ∨
  (65 ≤ byte.toNat ∧ byte.toNat ≤ 70 ∧ digit = byte.toNat - 55)

instance (byte : UInt8) (digit : Nat) : Decidable (HexDigit byte digit) :=
  inferInstanceAs (Decidable (_ ∨ _))

theorem hexNibbleValue_digit {byte : UInt8} {digit : Nat} (hex : HexDigit byte digit) :
    ∃ nibble, hexNibbleValue byte = some nibble ∧ nibble.toNat = digit ∧ digit < 16 := by
  have below (bound : UInt8) : bound ≤ byte ↔ bound.toNat ≤ byte.toNat := UInt8.le_iff_toNat_le
  have above (bound : UInt8) : byte ≤ bound ↔ byte.toNat ≤ bound.toNat := UInt8.le_iff_toNat_le
  have sub (bound : UInt8) (le : bound.toNat ≤ byte.toNat) :
      (byte - bound).toNat = byte.toNat - bound.toNat :=
    UInt8.toNat_sub_of_le _ _ ((below bound).mpr le)
  have ten (number : UInt8) (small : number.toNat < 6) :
      (number + 10).toNat = number.toNat + 10 := by
    rw [UInt8.toNat_add]
    exact Nat.mod_eq_of_lt (by exact Nat.lt_trans (Nat.add_lt_add_right small 10) (by decide))
  rw [hexNibbleValue]
  simp only [below, above, UInt8.reduceToNat]
  rcases hex with ⟨low, high, rfl⟩ | ⟨low, high, rfl⟩ | ⟨low, high, rfl⟩
  · rw [if_pos ⟨low, high⟩]
    exact ⟨_, rfl, sub 0x30 low, by omega⟩
  · have difference : (byte - 0x61).toNat = byte.toNat - 97 := sub 0x61 low
    rw [if_neg (by omega), if_pos ⟨low, high⟩]
    refine ⟨_, rfl, ?_, by omega⟩
    rw [ten _ (by omega)]
    omega
  · have difference : (byte - 0x41).toNat = byte.toNat - 65 := sub 0x41 low
    rw [if_neg (by omega), if_neg (by omega), if_pos ⟨low, high⟩]
    refine ⟨_, rfl, ?_, by omega⟩
    rw [ten _ (by omega)]
    omega

theorem paired_toNat {high low : UInt8} (highSmall : high.toNat < 16) (lowSmall : low.toNat < 16) :
    (high <<< 4 ||| low).toNat = high.toNat * 16 + low.toNat := by
  have shift : high.toNat <<< 4 % 2 ^ 8 = high.toNat <<< 4 := by
    rw [Nat.shiftLeft_eq]
    exact Nat.mod_eq_of_lt (by omega)
  rw [UInt8.toNat_or, UInt8.toNat_shiftLeft, show (4 : UInt8).toNat % 8 = 4 from rfl, shift,
    ← Nat.shiftLeft_add_eq_or_of_lt (by exact lowSmall), Nat.shiftLeft_eq]

theorem decodeHexPairs_value {text : List UInt8} {digits : List Nat}
    (spelled : List.Forall₂ HexDigit text digits) (even : text.length % 2 = 0) :
    ∃ bytes, decodeHexPairs text = some bytes ∧ 2 * bytes.length = digits.length ∧
      blobValue bytes = Radix.value 16 digits := by
  induction text using decodeHexPairs.induct generalizing digits with
  | case1 high low rest ih =>
    obtain ⟨highDigit, _, highHex, lowSpelled, rfl⟩ := List.forall₂_cons_left_iff.mp spelled
    obtain ⟨lowDigit, restDigits, lowHex, restSpelled, rfl⟩ :=
      List.forall₂_cons_left_iff.mp lowSpelled
    obtain ⟨highNibble, highValue, highNat, highSmall⟩ := hexNibbleValue_digit highHex
    obtain ⟨lowNibble, lowValue, lowNat, lowSmall⟩ := hexNibbleValue_digit lowHex
    rw [List.length_cons, List.length_cons] at even
    obtain ⟨bytes, decoded, length, reads⟩ := ih restSpelled (by omega)
    have pair := paired_toNat (highNat ▸ highSmall) (lowNat ▸ lowSmall)
    have power : 256 ^ bytes.length = 16 ^ restDigits.length := by
      rw [← length, Nat.pow_mul]
    refine ⟨(highNibble <<< 4 ||| lowNibble) :: bytes, ?_, ?_, ?_⟩
    · rw [decodeHexPairs, highValue, lowValue, decoded]
      rfl
    · rw [List.length_cons, List.length_cons, List.length_cons]
      omega
    · rw [blobValue, List.map_cons, Radix.value_cons, Radix.value_cons, Radix.value_cons, pair,
        List.length_map, power, highNat, lowNat, List.length_cons, Nat.pow_succ, ← reads, blobValue]
      ring
  | case2 text short =>
    have empty : text = [] := by
      rcases text with - | ⟨first, - | ⟨second, rest⟩⟩
      · rfl
      · cases even
      · exact absurd rfl (short first second rest)
    subst empty
    cases spelled
    exact ⟨[], rfl, rfl, rfl⟩

theorem decode0xHexLiteral_value (prefixText : List UInt8) {text : List UInt8} {digits : List Nat}
    (two : prefixText.length = 2) (spelled : List.Forall₂ HexDigit text digits) :
    ∃ bytes, decode0xHexLiteral (prefixText ++ text) = some bytes ∧
      bytes.length = (digits.length + 1) / 2 ∧ blobValue bytes = Radix.value 16 digits := by
  have length := spelled.length_eq
  have dropped : (prefixText ++ text).drop 2 = text := List.drop_left' two
  have total : (prefixText ++ text).length = 2 + text.length := by
    rw [List.length_append, two]
  rw [decode0xHexLiteral, total, Nat.add_sub_cancel_left, dropped]
  by_cases even : text.length % 2 = 0
  · obtain ⟨bytes, decoded, count, reads⟩ := decodeHexPairs_value spelled even
    rw [if_neg (by rw [even]; exact fun other => other rfl)]
    exact ⟨bytes, decoded, by omega, reads⟩
  · rw [if_pos even]
    cases spelled with
    | nil => exact absurd rfl even
    | @cons first digit rest restDigits hex restSpelled =>
      obtain ⟨nibble, value, nat, -⟩ := hexNibbleValue_digit hex
      rw [List.length_cons] at even
      rw [List.length_cons, List.length_cons] at length
      obtain ⟨bytes, decoded, count, reads⟩ := decodeHexPairs_value restSpelled (by omega)
      have head : (prefixText ++ first :: rest)[2]? = some first := by
        rw [List.getElem?_append_right (Nat.le_of_eq two), two]
        rfl
      have tail : (prefixText ++ first :: rest).drop 3 = rest := by
        rw [show 3 = 2 + 1 from rfl, ← List.drop_drop, dropped]
        rfl
      have power : 256 ^ bytes.length = 16 ^ restDigits.length := by
        rw [← count, Nat.pow_mul]
      refine ⟨nibble :: bytes, ?_, ?_, ?_⟩
      · rw [head, tail, Option.bind_some, value, decoded]
        rfl
      · rw [List.length_cons, List.length_cons]
        omega
      · rw [blobValue, List.map_cons, Radix.value_cons, Radix.value_cons, List.length_map, power, nat,
          ← reads, blobValue]

/-! Bits. -/

/-- The byte spells the bit. -/
def BitDigit (byte : UInt8) (bit : Nat) : Prop :=
  (byte = 0x30 ∧ bit = 0) ∨ (byte = 0x31 ∧ bit = 1)

theorem shifted_bit {magnitude : UInt64} {byte : UInt8} {bit : Nat} (digit : BitDigit byte bit)
    (small : magnitude.toNat < 2 ^ 63) :
    (magnitude <<< 1 ||| (if byte = 0x31 then 1 else 0)).toNat = magnitude.toNat * 2 + bit := by
  have shift : magnitude.toNat <<< 1 % 2 ^ 64 = magnitude.toNat <<< 1 := by
    rw [Nat.shiftLeft_eq]
    exact Nat.mod_eq_of_lt (by omega)
  have low : (if byte = 0x31 then (1 : UInt64) else 0).toNat = bit := by
    rcases digit with ⟨rfl, rfl⟩ | ⟨rfl, rfl⟩ <;> rfl
  have bitSmall : bit < 2 ^ 1 := by
    rcases digit with ⟨-, rfl⟩ | ⟨-, rfl⟩ <;> decide
  rw [UInt64.toNat_or, UInt64.toNat_shiftLeft, low, show (1 : UInt64).toNat % 64 = 1 from rfl, shift,
    ← Nat.shiftLeft_add_eq_or_of_lt bitSmall, Nat.shiftLeft_eq]

/-- The magnitude has the significant bits that were counted. -/
structure Counted (significantBits : Nat) (magnitude : UInt64) : Prop where
  bounded : significantBits ≤ 64
  below : magnitude.toNat < 2 ^ significantBits
  above : significantBits ≠ 0 → 2 ^ (significantBits - 1) ≤ magnitude.toNat

/-- What a decoder of digits returns for a number. -/
def Decodes (number : Nat) (magnitude : Magnitude) : Prop :=
  if number < 2 ^ 64 then ∃ word : UInt64, magnitude = .value word ∧ word.toNat = number
  else magnitude = .overflow

theorem parseBits_decodes {text : List UInt8} {bits : List Nat}
    (spelled : List.Forall₂ BitDigit text bits) {significantBits : Nat} {magnitude : UInt64}
    (counted : Counted significantBits magnitude) :
    Decodes (magnitude.toNat * 2 ^ bits.length + Radix.value 2 bits)
      (parseBits significantBits magnitude text) := by
  induction spelled generalizing significantBits magnitude with
  | nil =>
    have small := magnitude.toNat_lt
    rw [Decodes, List.length_nil, Nat.pow_zero, Nat.mul_one, Radix.value, List.foldl_nil,
      Nat.add_zero, if_pos small]
    exact ⟨magnitude, rfl, rfl⟩
  | @cons byte bit rest restBits digit restSpelled ih =>
    have known : ¬ (byte ≠ 0x30 ∧ byte ≠ 0x31) := by
      rcases digit with ⟨rfl, -⟩ | ⟨rfl, -⟩ <;> decide
    have total : magnitude.toNat * 2 ^ (restBits.length + 1) +
        (bit * 2 ^ restBits.length + Radix.value 2 restBits) =
        (magnitude.toNat * 2 + bit) * 2 ^ restBits.length + Radix.value 2 restBits := by
      ring
    rw [parseBits, if_neg known, Radix.value_cons, List.length_cons, total]
    by_cases leading : significantBits = 0 ∧ byte = 0x30
    · obtain ⟨rfl, rfl⟩ := leading
      have zero : magnitude.toNat = 0 := Nat.lt_one_iff.mp counted.below
      have bitZero : bit = 0 := by
        rcases digit with ⟨-, rfl⟩ | ⟨one, -⟩
        · rfl
        · cases one
      have later := ih counted
      rw [zero, Nat.zero_mul] at later
      rwa [if_pos ⟨rfl, rfl⟩, bitZero, Nat.add_zero, zero, Nat.zero_mul]
    · rw [if_neg leading]
      by_cases full : significantBits ≥ 64
      · have exact64 : significantBits = 64 := Nat.le_antisymm counted.bounded full
        have above : 2 ^ 63 ≤ magnitude.toNat := by
          have bound := counted.above (by omega)
          rwa [exact64] at bound
        have scaled : (magnitude.toNat * 2 + bit) * 1 ≤
            (magnitude.toNat * 2 + bit) * 2 ^ restBits.length :=
          Nat.mul_le_mul_left _ Nat.one_le_two_pow
        rw [if_pos full, Decodes, if_neg (by omega)]
      · have room : 2 ^ significantBits ≤ 2 ^ 63 := Nat.pow_le_pow_right (by decide) (by omega)
        have step := shifted_bit digit (Nat.lt_of_lt_of_le counted.below room)
        rw [if_neg full, ← step]
        apply ih
        constructor
        · omega
        · have below := counted.below
          have bitSmall : bit ≤ 1 := by
            rcases digit with ⟨-, rfl⟩ | ⟨-, rfl⟩ <;> decide
          rw [step, Nat.pow_succ]
          omega
        · intro _
          rw [step, Nat.add_sub_cancel]
          by_cases first : significantBits = 0
          · have bitOne : bit = 1 := by
              rcases digit with ⟨zero, -⟩ | ⟨-, one⟩
              · exact absurd ⟨first, zero⟩ leading
              · exact one
            rw [first, bitOne]
            exact Nat.le_add_left _ _
          · have above := counted.above first
            have power : 2 ^ significantBits = 2 ^ (significantBits - 1) * 2 := by
              rw [← Nat.pow_succ, Nat.succ_eq_add_one, Nat.sub_add_cancel (by omega)]
            omega

theorem parseBits_value {text : List UInt8} {bits : List Nat}
    (spelled : List.Forall₂ BitDigit text bits) :
    Decodes (Radix.value 2 bits) (parseBits 0 0 text) := by
  have start : Counted 0 0 := ⟨by decide, by decide, fun some => absurd rfl some⟩
  have decoded := parseBits_decodes spelled start
  rwa [show (0 : UInt64).toNat = 0 from rfl, Nat.zero_mul, Nat.zero_add] at decoded

/-! Spellings. -/

/-- The well-formed literals of a number. -/
inductive Spells : Nat → Literal → Prop
  | integer {text : List UInt8} (unsigned : Unsigned text) :
    Spells (literalValue text) (.integer text)
  | quotedBit {letter : UInt8} {text : List UInt8} {bits : List Nat}
    (isB : letter = 0x62 ∨ letter = 0x42) (spelled : List.Forall₂ BitDigit text bits) :
    Spells (Radix.value 2 bits) (.bit ([letter, 0x27] ++ text ++ [0x27]))
  | prefixedBit {letter : UInt8} {text : List UInt8} {bits : List Nat}
    (isB : letter = 0x62 ∨ letter = 0x42) (spelled : List.Forall₂ BitDigit text bits)
    (some : text ≠ []) :
    Spells (Radix.value 2 bits) (.bit ([0x30, letter] ++ text))
  | quotedHex {letter : UInt8} {text : List UInt8} {digits : List Nat}
    (isX : letter = 0x78 ∨ letter = 0x58) (spelled : List.Forall₂ HexDigit text digits)
    (even : text.length % 2 = 0) :
    Spells (Radix.value 16 digits) (.hex ([letter, 0x27] ++ text ++ [0x27]))
  | prefixedHex {letter : UInt8} {text : List UInt8} {digits : List Nat}
    (isX : letter = 0x78 ∨ letter = 0x58) (spelled : List.Forall₂ HexDigit text digits)
    (some : text ≠ []) :
    Spells (Radix.value 16 digits) (.hex ([0x30, letter] ++ text))

/-- The digits of a hexadecimal literal. -/
def hexDigitCount : Literal → Nat
  | .hex text => if text[0]? = some 0x30 then text.length - 2 else text.length - 3
  | _ => 0

/-- The outcome that the width and the number call for. -/
def Meets (width number : Nat) (ignoreErrors : Bool) (outcome : Except Failure Stored) : Prop :=
  (number < 2 ^ width → ∃ stored, outcome = .ok stored ∧ BlobOf width number stored.blob) ∧
  (2 ^ width ≤ number →
    if ignoreErrors then ∃ stored, outcome = .ok stored ∧ BlobOf width (2 ^ width - 1) stored.blob
    else ∃ failure, outcome = .error failure)

section Outcomes

variable {width : Nat}

theorem pow_width_le (wide : width ≤ 64) : 2 ^ width ≤ 2 ^ 64 :=
  Nat.pow_le_pow_right (by decide) wide

theorem maximum_blobOf (wide : width ≤ 64) :
    BlobOf width (2 ^ width - 1) (makeBitBlobValue width (bitWidthMaxValue width)) := by
  have maximum := bitWidthMaxValue_toNat wide
  have positive : 1 ≤ 2 ^ width := Nat.one_le_two_pow
  have small : (bitWidthMaxValue width).toNat < 2 ^ width := by omega
  have blob := makeBitBlobValue_blobOf wide small
  rwa [maximum] at blob

theorem convertBitValueMagnitude_meets (wide : width ≤ 64) (magnitude : UInt64)
    (ignoreErrors : Bool) :
    Meets width magnitude.toNat ignoreErrors
      (convertBitValueMagnitude width magnitude false ignoreErrors) := by
  have maximum := bitWidthMaxValue_toNat wide
  have positive : 1 ≤ 2 ^ width := Nat.one_le_two_pow
  have beyond : magnitude > bitWidthMaxValue width ↔ 2 ^ width ≤ magnitude.toNat := by
    rw [gt_iff_lt, UInt64.lt_iff_toNat_lt, maximum]
    omega
  rw [convertBitValueMagnitude]
  constructor
  · intro small
    have fits : ¬ (false = true ∧ magnitude ≠ 0 ∨ magnitude > bitWidthMaxValue width) := by
      rw [beyond]
      simp only [Bool.false_eq_true, false_and, false_or]
      omega
    rw [if_neg fits]
    exact ⟨_, rfl, makeBitBlobValue_blobOf wide small⟩
  · intro large
    have refused : false = true ∧ magnitude ≠ 0 ∨ magnitude > bitWidthMaxValue width :=
      .inr (beyond.mpr large)
    rw [if_pos refused]
    cases ignoreErrors
    · exact ⟨.dataTooLong, rfl⟩
    · exact ⟨_, rfl, maximum_blobOf wide⟩

/-- An overflow is reported, or clipped. -/
theorem clipped_meets_iff (number : Nat) (wide : width ≤ 64) (failure : Failure)
    (warns ignoreErrors : Bool) :
    Meets width number ignoreErrors
        (if !ignoreErrors then .error failure else .ok (clipBitValueForColumn width warns)) ↔
      2 ^ width ≤ number ∨ (ignoreErrors = true ∧ number = 2 ^ width - 1) := by
  have positive : 1 ≤ 2 ^ width := Nat.one_le_two_pow
  have blob : BlobOf width (2 ^ width - 1) (clipBitValueForColumn width warns).blob :=
    maximum_blobOf wide
  constructor
  · rintro ⟨fits, -⟩
    by_cases small : number < 2 ^ width
    · obtain ⟨stored, outcome, reads⟩ := fits small
      cases ignoreErrors
      · cases outcome
      · cases outcome
        exact .inr ⟨rfl, reads.reads.symm.trans blob.reads⟩
    · exact .inl (Nat.le_of_not_lt small)
  · rintro (large | ⟨rfl, rfl⟩)
    · constructor
      · intro small
        omega
      · intro _
        cases ignoreErrors
        · exact ⟨failure, rfl⟩
        · exact ⟨_, rfl, blob⟩
    · constructor
      · intro _
        exact ⟨_, rfl, blob⟩
      · intro _
        omega

theorem convertBytes_meets_iff (wide : width ≤ 64) (bytes : List UInt8) (ignoreErrors : Bool) :
    Meets width (blobValue bytes) ignoreErrors (convertBytes width bytes ignoreErrors) ↔
      bytes.length ≤ 8 ∨ 2 ^ width ≤ blobValue bytes ∨
        (ignoreErrors = true ∧ blobValue bytes = 2 ^ width - 1) := by
  by_cases short : bytes.length ≤ 8
  · obtain ⟨magnitude, decoded, reads⟩ := bitStringBytesToMagnitude_value short
    have met := convertBitValueMagnitude_meets wide magnitude ignoreErrors
    rw [convertBytes, decoded, ← reads]
    exact ⟨fun _ => .inl short, fun _ => met⟩
  · have overflow : bitStringBytesToMagnitude bytes = .overflow := by
      rw [bitStringBytesToMagnitude, if_pos (by omega)]
    have clipped := clipped_meets_iff (blobValue bytes) wide .dataTooLong false
      ignoreErrors
    rw [convertBytes, overflow]
    exact clipped.trans (by simp only [short, false_or])

theorem convertNumber_meets {number : Nat} {operand : Literal} (wide : width ≤ 64)
    (decodes : Decodes number (parseLiteralMagnitude operand)) (ignoreErrors : Bool) :
    Meets width number ignoreErrors (convertNumber width false operand ignoreErrors) := by
  rw [Decodes] at decodes
  split at decodes
  · obtain ⟨word, decoded, rfl⟩ := decodes
    rw [convertNumber, decoded]
    exact convertBitValueMagnitude_meets wide word ignoreErrors
  · have power := pow_width_le wide
    rw [convertNumber, decodes]
    exact (clipped_meets_iff number wide .outOfRange true ignoreErrors).mpr (.inl (by omega))

end Outcomes

/-! Decoders. -/

theorem quoted_length (letter : UInt8) (text : List UInt8) :
    ([letter, 0x27] ++ text ++ [0x27]).length = text.length + 3 := by
  rw [List.length_append, List.length_append, Nat.add_comm [letter, 0x27].length]
  rfl

theorem quoted_inner (letter : UInt8) (text : List UInt8) :
    (([letter, 0x27] ++ text ++ [0x27]).drop 2).take
      (([letter, 0x27] ++ text ++ [0x27]).length - 3) = text := by
  have dropped : ([letter, 0x27] ++ text ++ [0x27]).drop 2 = text ++ [0x27] := rfl
  rw [quoted_length, dropped, Nat.add_sub_cancel]
  exact List.take_left

theorem integer_decodes {text : List UInt8} (unsigned : Unsigned text) :
    Decodes (literalValue text) (parseLiteralMagnitude (.integer text)) := by
  rw [parseLiteralMagnitude, parseUnsignedIntegerLiteral_eq unsigned, Decodes]
  by_cases small : literalValue text ≤ 18446744073709551615
  · have inside : literalValue text < 2 ^ 64 := Nat.lt_succ_of_le small
    rw [if_pos small, if_pos inside]
    exact ⟨_, rfl, UInt64.toNat_ofNat_of_lt' inside⟩
  · have outside : ¬ literalValue text < 2 ^ 64 := fun inside => small (Nat.le_of_lt_succ inside)
    rw [if_neg small, if_neg outside]

theorem quotedBit_decodes {letter : UInt8} {text : List UInt8} {bits : List Nat}
    (isB : letter = 0x62 ∨ letter = 0x42) (spelled : List.Forall₂ BitDigit text bits) :
    Decodes (Radix.value 2 bits)
      (parseLiteralMagnitude (.bit ([letter, 0x27] ++ text ++ [0x27]))) := by
  have last : ([letter, 0x27] ++ text ++ [0x27]).getLast? = some 0x27 := List.getLast?_concat
  have isSome : some letter = some 0x62 ∨ some letter = some 0x42 := by
    rcases isB with rfl | rfl <;> decide
  have long : ([letter, 0x27] ++ text ++ [0x27]).length ≥ 3 := by
    rw [quoted_length]
    exact Nat.le_add_left _ _
  rw [parseLiteralMagnitude, parseBitLiteralMagnitude, if_pos ⟨long, isSome, rfl, last⟩,
    quoted_inner]
  exact parseBits_value spelled

theorem prefixedBit_decodes {letter : UInt8} {text : List UInt8} {bits : List Nat}
    (isB : letter = 0x62 ∨ letter = 0x42) (spelled : List.Forall₂ BitDigit text bits)
    (some : text ≠ []) :
    Decodes (Radix.value 2 bits) (parseLiteralMagnitude (.bit ([0x30, letter] ++ text))) := by
  have isSome : Option.some letter = .some 0x62 ∨ Option.some letter = .some 0x42 := by
    rcases isB with rfl | rfl <;> decide
  have long : ([0x30, letter] ++ text).length ≥ 3 := by
    have positive := List.length_pos_iff.mpr some
    rw [List.length_append]
    exact Nat.add_le_add_left positive 2
  have unquoted : ¬ (([0x30, letter] ++ text).length ≥ 3 ∧
      (([0x30, letter] ++ text)[0]? = .some 0x62 ∨ ([0x30, letter] ++ text)[0]? = .some 0x42) ∧
      ([0x30, letter] ++ text)[1]? = .some 0x27 ∧
      ([0x30, letter] ++ text).getLast? = .some 0x27) := by
    rintro ⟨-, zero | zero, -⟩
    · exact absurd (Option.some.inj zero) (by decide)
    · exact absurd (Option.some.inj zero) (by decide)
  rw [parseLiteralMagnitude, parseBitLiteralMagnitude, if_neg unquoted, if_pos ⟨long, rfl, isSome⟩]
  exact parseBits_value spelled

theorem quotedHex_decodes {letter : UInt8} {text : List UInt8} {digits : List Nat}
    (isX : letter = 0x78 ∨ letter = 0x58) (spelled : List.Forall₂ HexDigit text digits)
    (even : text.length % 2 = 0) :
    ∃ bytes, decodeBinaryHexLiteral ([letter, 0x27] ++ text ++ [0x27]) = some bytes ∧
      2 * bytes.length = text.length ∧ blobValue bytes = Radix.value 16 digits := by
  have last : ([letter, 0x27] ++ text ++ [0x27]).getLast? = some 0x27 := List.getLast?_concat
  have accepted : ¬ ((some letter ≠ some 0x78 ∧ some letter ≠ some 0x58) ∨
      ([letter, 0x27] ++ text ++ [0x27])[1]? ≠ some 0x27 ∨
      ([letter, 0x27] ++ text ++ [0x27]).getLast? ≠ some 0x27 ∨
      (([letter, 0x27] ++ text ++ [0x27]).length - 3) % 2 ≠ 0) := by
    rintro (⟨lower, upper⟩ | second | final | odd)
    · rcases isX with rfl | rfl
      · exact lower rfl
      · exact upper rfl
    · exact second rfl
    · exact final last
    · rw [quoted_length, Nat.add_sub_cancel] at odd
      exact odd even
  have unprefixed : ¬ (some letter = some 0x30 ∧
      (([letter, 0x27] ++ text ++ [0x27])[1]? = some 0x78 ∨
        ([letter, 0x27] ++ text ++ [0x27])[1]? = some 0x58)) := by
    rintro ⟨zero, -⟩
    rcases isX with rfl | rfl <;> exact absurd zero (by decide)
  have long : ¬ ([letter, 0x27] ++ text ++ [0x27]).length < 3 := by
    rw [quoted_length]
    omega
  obtain ⟨bytes, decoded, count, reads⟩ := decodeHexPairs_value spelled even
  refine ⟨bytes, ?_, count.trans spelled.length_eq.symm, reads⟩
  rw [← quoted_inner letter text] at decoded
  rw [decodeBinaryHexLiteral, if_neg long]
  exact (if_neg unprefixed).trans ((if_neg accepted).trans decoded)

theorem prefixedHex_decodes {letter : UInt8} {text : List UInt8} {digits : List Nat}
    (isX : letter = 0x78 ∨ letter = 0x58) (spelled : List.Forall₂ HexDigit text digits)
    (some : text ≠ []) :
    ∃ bytes, decodeBinaryHexLiteral ([0x30, letter] ++ text) = .some bytes ∧
      bytes.length = (text.length + 1) / 2 ∧ blobValue bytes = Radix.value 16 digits := by
  have isSome : Option.some letter = .some 0x78 ∨ Option.some letter = .some 0x58 := by
    rcases isX with rfl | rfl <;> decide
  have long : ¬ ([0x30, letter] ++ text).length < 3 := by
    have positive := List.length_pos_iff.mpr some
    rw [List.length_append]
    exact Nat.not_lt.mpr (Nat.add_le_add_left positive 2)
  obtain ⟨bytes, decoded, count, reads⟩ :=
    decode0xHexLiteral_value [0x30, letter] rfl spelled
  refine ⟨bytes, ?_, spelled.length_eq ▸ count, reads⟩
  rw [decodeBinaryHexLiteral, if_neg long]
  exact (if_pos ⟨rfl, isSome⟩).trans decoded

theorem hex_meets_iff {width number count : Nat} {text bytes : List UInt8}
    (wide : width ≤ 64) (decoded : decodeBinaryHexLiteral text = some bytes)
    (length : bytes.length = (count + 1) / 2) (reads : blobValue bytes = number)
    (ignoreErrors : Bool) :
    Meets width number ignoreErrors (convertForWidth width ignoreErrors (.literal (.hex text))) ↔
      count ≤ 16 ∨ 2 ^ width ≤ number ∨ (ignoreErrors = true ∧ number = 2 ^ width - 1) := by
  have met := convertBytes_meets_iff wide bytes ignoreErrors
  have short : bytes.length ≤ 8 ↔ count ≤ 16 := by omega
  rwa [short, reads, show convertBytes width bytes ignoreErrors =
    convertForWidth width ignoreErrors (.literal (.hex text)) by rw [convertForWidth, decoded]]
    at met

/-- A literal of a BIT column has the outcome of its number, unless it is written with more than
sixteen hexadecimal digits for a number that the column holds. -/
theorem bit_literal_meets_iff {logicalType : List UInt8} {width number : Nat} {literal : Literal}
    (column : bitWidthForLogicalType logicalType = some width) (spells : Spells number literal)
    (ignoreErrors : Bool) :
    Meets width number ignoreErrors (convertBitLiteral logicalType (.literal literal) ignoreErrors) ↔
      hexDigitCount literal ≤ 16 ∨ 2 ^ width ≤ number ∨
        (ignoreErrors = true ∧ number = 2 ^ width - 1) := by
  have wide := (width_bounds column).2
  rw [convertBitLiteral, column]
  have always {operand : Literal} (none : hexDigitCount operand = 0)
      (met : Meets width number ignoreErrors (convertForWidth width ignoreErrors (.literal operand))) :
      Meets width number ignoreErrors (convertForWidth width ignoreErrors (.literal operand)) ↔
        hexDigitCount operand ≤ 16 ∨ 2 ^ width ≤ number ∨
          (ignoreErrors = true ∧ number = 2 ^ width - 1) :=
    ⟨fun _ => .inl (by omega), fun _ => met⟩
  cases spells with
  | integer unsigned => exact always rfl (convertNumber_meets wide (integer_decodes unsigned) _)
  | quotedBit isB spelled =>
    exact always rfl (convertNumber_meets wide (quotedBit_decodes isB spelled) _)
  | prefixedBit isB spelled some =>
    exact always rfl (convertNumber_meets wide (prefixedBit_decodes isB spelled some) _)
  | @quotedHex letter text digits isX spelled even =>
    obtain ⟨bytes, decoded, length, reads⟩ := quotedHex_decodes isX spelled even
    have count : hexDigitCount (.hex ([letter, 0x27] ++ text ++ [0x27])) = text.length := by
      have letterX : ¬ ([letter, 0x27] ++ text ++ [0x27])[0]? = some 0x30 := by
        rcases isX with rfl | rfl <;> exact fun zero => absurd (Option.some.inj zero) (by decide)
      rw [hexDigitCount, if_neg letterX, quoted_length, Nat.add_sub_cancel]
    rw [count]
    exact hex_meets_iff wide decoded (by omega) reads ignoreErrors
  | @prefixedHex letter text digits isX spelled some =>
    obtain ⟨bytes, decoded, length, reads⟩ := prefixedHex_decodes isX spelled some
    have count : hexDigitCount (.hex ([0x30, letter] ++ text)) = text.length := by
      have letterZero : ([0x30, letter] ++ text)[0]? = .some 0x30 := rfl
      rw [hexDigitCount, if_pos letterZero, List.length_append]
      exact Nat.add_sub_cancel_left 2 _
    rw [count]
    exact hex_meets_iff wide decoded length reads ignoreErrors

/-- `x'FF'` in a BIT(8) column. -/
theorem bit_literal_meets_bit8 :
    Meets 8 255 false (convertBitLiteral [0x42, 0x49, 0x54, 0x28, 0x38, 0x29]
      (.literal (.hex [0x78, 0x27, 0x46, 0x46, 0x27])) false) := by
  have column : bitWidthForLogicalType [0x42, 0x49, 0x54, 0x28, 0x38, 0x29] = some 8 := by decide
  have spelled : List.Forall₂ HexDigit [0x46, 0x46] [15, 15] := by decide
  exact (bit_literal_meets_iff column (.quotedHex (.inl rfl) spelled rfl) false).mpr
    (.inl (by decide))

/-- `x'000000000000000001'` in a BIT(8) column. -/
theorem bit_literal_long_hex :
    bitWidthForLogicalType [0x42, 0x49, 0x54, 0x28, 0x38, 0x29] = some 8 ∧
      Spells 1 (.hex ([0x78, 0x27] ++ (List.replicate 17 0x30 ++ [0x31]) ++ [0x27])) ∧
      ¬ Meets 8 1 false (convertBitLiteral [0x42, 0x49, 0x54, 0x28, 0x38, 0x29]
        (.literal (.hex ([0x78, 0x27] ++ (List.replicate 17 0x30 ++ [0x31]) ++ [0x27]))) false) := by
  have spelled : List.Forall₂ HexDigit (List.replicate 17 0x30 ++ [0x31])
      (List.replicate 17 0 ++ [1]) := by decide
  refine ⟨by decide, .quotedHex (.inl rfl) spelled (by decide), ?_⟩
  rintro ⟨fits, -⟩
  obtain ⟨stored, outcome, -⟩ := fits (by decide)
  have refused : convertBitLiteral [0x42, 0x49, 0x54, 0x28, 0x38, 0x29]
      (.literal (.hex ([0x78, 0x27] ++ (List.replicate 17 0x30 ++ [0x31]) ++ [0x27]))) false =
      .error .dataTooLong := rfl
  rw [refused] at outcome
  cases outcome

end MyLite.BitLiteral
