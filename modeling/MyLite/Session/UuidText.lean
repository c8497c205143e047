import Mathlib.Tactic.Common
import Mathlib.Data.List.Basic

/-! The 16 bytes of a UUID, its text, and the reader of `UUID_TO_BIN`. -/

namespace MyLite.Uuid

/-! The bytes. -/

/-- `store_uuid_uint32`. -/
def storeUuidUint32 (value : UInt32) : List UInt8 :=
  [(value >>> 24 &&& 0xff).toUInt8, (value >>> 16 &&& 0xff).toUInt8,
    (value >>> 8 &&& 0xff).toUInt8, (value &&& 0xff).toUInt8]

/-- `store_uuid_uint16`. -/
def storeUuidUint16 (value : UInt16) : List UInt8 :=
  [(value >>> 8 &&& 0xff).toUInt8, (value &&& 0xff).toUInt8]

/-- `populate_uuid_bytes`. -/
def populateUuidBytes (timestamp100ns : UInt64) (clockSequence : UInt16)
    (node : Vector UInt8 6) : List UInt8 :=
  let timeLow := (timestamp100ns &&& 0xffffffff).toUInt32
  let timeMid := (timestamp100ns >>> 32 &&& 0xffff).toUInt16
  let timeHigh := (timestamp100ns >>> 48 &&& 0x0fff).toUInt16
  storeUuidUint32 timeLow ++ storeUuidUint16 timeMid ++ storeUuidUint16 (timeHigh ||| 0x1000) ++
    [((0x80 : UInt16) ||| (clockSequence >>> 8 &&& 0x3f)).toUInt8,
      (clockSequence &&& 0xff).toUInt8] ++ node.toList

def bigEndian (bytes : List UInt8) : Nat :=
  bytes.foldl (fun value byte => value * 256 + byte.toNat) 0

/-- The 60 bits of a version 1 UUID that hold its time: the high bits lie behind the version. -/
def encodedTimestamp (bytes : List UInt8) : Nat :=
  bigEndian ((bytes.drop 6).take 2) % 4096 * 281474976710656 +
    bigEndian ((bytes.drop 4).take 2) * 4294967296 + bigEndian (bytes.take 4)

/-! The text. -/

def dash : UInt8 := 0x2d

/-- `digits` of `format_uuid_string`. -/
def digits : List UInt8 :=
  [0x30, 0x31, 0x32, 0x33, 0x34, 0x35, 0x36, 0x37, 0x38, 0x39, 0x61, 0x62, 0x63, 0x64, 0x65,
    0x66]

def hexPair (byte : UInt8) : List UInt8 :=
  [digits.getD (byte >>> 4).toNat 0, digits.getD (byte &&& 0x0f).toNat 0]

/-- The loop of `format_uuid_string`. -/
def formatFrom : Nat → List UInt8 → List UInt8
  | _, [] => []
  | index, byte :: rest =>
    (if index = 4 ∨ index = 6 ∨ index = 8 ∨ index = 10 then [dash] else []) ++ hexPair byte ++
      formatFrom (index + 1) rest

def formatUuidString (input : List UInt8) : List UInt8 := formatFrom 0 input

def hexDigitValue (byte : UInt8) : Option UInt8 :=
  if 0x30 ≤ byte ∧ byte ≤ 0x39 then some (byte - 0x30)
  else if 0x41 ≤ byte ∧ byte ≤ 0x46 then some (byte - 0x41 + 10)
  else if 0x61 ≤ byte ∧ byte ≤ 0x66 then some (byte - 0x61 + 10)
  else none

def hexPairValue (high low : UInt8) : Option UInt8 :=
  (hexDigitValue high).bind fun highValue =>
  (hexDigitValue low).map fun lowValue => highValue <<< 4 ||| lowValue

/-- The loop of `parse_compact_uuid`. -/
def hexPairValues : List UInt8 → Option (List UInt8)
  | high :: low :: rest =>
    (hexPairValue high low).bind fun value =>
    (hexPairValues rest).map fun others => value :: others
  | _ => some []

def parseCompactUuid (bytes : List UInt8) : Option (List UInt8) :=
  if bytes.length ≠ 32 then none else hexPairValues bytes

/-- The loop of `parse_dashed_uuid`, which leaves the dashes out. -/
def undash : Nat → List UInt8 → Option (List UInt8)
  | _, [] => some []
  | index, byte :: rest =>
    if index = 8 ∨ index = 13 ∨ index = 18 ∨ index = 23 then
      if byte ≠ dash then none else undash (index + 1) rest
    else (undash (index + 1) rest).map fun others => byte :: others

def parseDashedUuid (bytes : List UInt8) : Option (List UInt8) :=
  if bytes.length ≠ 36 then none else (undash 0 bytes).bind parseCompactUuid

/-- `parse_uuid_string`. -/
def parseUuidString (input : List UInt8) : Option (List UInt8) :=
  if input.length = 32 then parseCompactUuid input
  else if input.length = 36 then parseDashedUuid input
  else if input.length = 38 ∧ input.head? = some 0x7b ∧ input.getLast? = some 0x7d then
    parseDashedUuid ((input.drop 1).take 36)
  else none

/-! The text is read back. -/

section

variable {byte : UInt8} {bytes : List UInt8}

theorem hexPair_agrees : (List.range 256).all (fun code =>
    hexPairValue (digits.getD (UInt8.ofNat code >>> 4).toNat 0)
      (digits.getD (UInt8.ofNat code &&& 0x0f).toNat 0) = some (UInt8.ofNat code)) = true := by
  decide +kernel

theorem hexPairValue_hexPair (byte : UInt8) : hexPairValue
    (digits.getD (byte >>> 4).toNat 0) (digits.getD (byte &&& 0x0f).toNat 0) = some byte := by
  have agree := List.all_eq_true.mp hexPair_agrees byte.toNat (List.mem_range.mpr byte.toNat_lt)
  rw [UInt8.ofNat_toNat, decide_eq_true_eq] at agree
  exact agree

theorem hexPairValues_flatMap (bytes : List UInt8) :
    hexPairValues (bytes.flatMap hexPair) = some bytes := by
  induction bytes with
  | nil => rfl
  | cons byte rest ih =>
    rw [List.flatMap_cons, hexPair, List.cons_append, List.cons_append, List.nil_append,
      hexPairValues, hexPairValue_hexPair, Option.bind_some, ih, Option.map_some]

/-- Where the digits of a byte begin in the text, or the dash before them. -/
def position (index : Nat) : Nat :=
  if index ≤ 4 then 2 * index
  else if index ≤ 6 then 2 * index + 1
  else if index ≤ 8 then 2 * index + 2
  else if index ≤ 10 then 2 * index + 3
  else 2 * index + 4

theorem position_cases (index : Nat) :
    index ≤ 4 ∧ position index = 2 * index ∨
    4 < index ∧ index ≤ 6 ∧ position index = 2 * index + 1 ∨
    6 < index ∧ index ≤ 8 ∧ position index = 2 * index + 2 ∨
    8 < index ∧ index ≤ 10 ∧ position index = 2 * index + 3 ∨
    10 < index ∧ position index = 2 * index + 4 := by
  rw [position]
  split
  · omega
  · split
    · omega
    · split
      · omega
      · split
        · omega
        · omega

/-- Reading from a byte on leaves out the dashes that writing from it put in. -/
theorem undash_formatFrom (index : Nat) (bytes : List UInt8) :
    undash (position index) (formatFrom index bytes) = some (bytes.flatMap hexPair) := by
  induction bytes generalizing index with
  | nil => rfl
  | cons byte rest ih =>
    have next := ih (index + 1)
    have here := position_cases index
    have after := position_cases (index + 1)
    rw [formatFrom, hexPair, List.flatMap_cons, hexPair]
    by_cases dashed : index = 4 ∨ index = 6 ∨ index = 8 ∨ index = 10
    · have third : position (index + 1) = position index + 1 + 1 + 1 := by omega
      rw [if_pos dashed, List.cons_append, List.nil_append, List.cons_append, List.cons_append,
        List.cons_append, List.nil_append, undash, if_pos (by omega), if_neg (not_not.mpr rfl),
        undash, if_neg (by omega), undash, if_neg (by omega), ← third, next]
      rfl
    · have second : position (index + 1) = position index + 1 + 1 := by omega
      rw [if_neg dashed, List.nil_append, List.cons_append, List.cons_append, List.nil_append,
        undash, if_neg (by omega), undash, if_neg (by omega), ← second, next]
      rfl

theorem length_flatMap_hexPair (bytes : List UInt8) :
    (bytes.flatMap hexPair).length = 2 * bytes.length := by
  induction bytes with
  | nil => rfl
  | cons byte rest ih =>
    rw [List.flatMap_cons, List.length_append, ih, List.length_cons, hexPair, List.length_cons,
      List.length_singleton]
    omega

theorem length_formatFrom (index : Nat) (bytes : List UInt8) :
    position index + (formatFrom index bytes).length = position (index + bytes.length) := by
  induction bytes generalizing index with
  | nil => rfl
  | cons byte rest ih =>
    have next := ih (index + 1)
    have here := position_cases index
    have after := position_cases (index + 1)
    rw [Nat.add_assoc, Nat.add_comm 1] at next
    rw [formatFrom, hexPair, List.length_cons, ← next, List.length_append, List.length_append,
      List.length_cons, List.length_singleton]
    split
    · rw [List.length_singleton]
      omega
    · rw [List.length_nil]
      omega

/-- The text of 16 bytes is 36 characters that `UUID_TO_BIN` reads as these bytes. -/
theorem parseUuidString_formatUuidString {bytes : List UInt8} (sixteen : bytes.length = 16) :
    parseUuidString (formatUuidString bytes) = some bytes := by
  have size : (formatUuidString bytes).length = 36 := by
    have counted := length_formatFrom 0 bytes
    rw [sixteen, show position 0 = 0 from rfl, show position (0 + 16) = 36 from rfl,
      Nat.zero_add] at counted
    exact counted
  have digitsRead := undash_formatFrom 0 bytes
  rw [show position 0 = 0 from rfl] at digitsRead
  rw [parseUuidString, if_neg (by omega), if_pos size, parseDashedUuid, if_neg (not_not.mpr size),
    formatUuidString, digitsRead, Option.bind_some, parseCompactUuid, length_flatMap_hexPair,
    if_neg (by omega), hexPairValues_flatMap]

/-! The time is read back. -/

theorem and_255 (value : Nat) : value &&& 255 = value % 256 :=
  Nat.and_two_pow_sub_one_eq_mod value 8

theorem and_4095 (value : Nat) : value &&& 4095 = value % 4096 :=
  Nat.and_two_pow_sub_one_eq_mod value 12

theorem and_65535 (value : Nat) : value &&& 65535 = value % 65536 :=
  Nat.and_two_pow_sub_one_eq_mod value 16

theorem and_4294967295 (value : Nat) : value &&& 4294967295 = value % 4294967296 :=
  Nat.and_two_pow_sub_one_eq_mod value 32

theorem bigEndian_storeUuidUint32 (value : UInt32) :
    bigEndian (storeUuidUint32 value) = value.toNat := by
  have small := value.toNat_lt
  simp only [storeUuidUint32, bigEndian, List.foldl_cons, List.foldl_nil, UInt32.toNat_toUInt8,
    UInt32.toNat_and, UInt32.toNat_shiftRight, UInt32.reduceToNat, Nat.reduceMod, and_255,
    Nat.shiftRight_eq_div_pow, Nat.reducePow]
  omega

theorem bigEndian_storeUuidUint16 (value : UInt16) :
    bigEndian (storeUuidUint16 value) = value.toNat := by
  have small := value.toNat_lt
  simp only [storeUuidUint16, bigEndian, List.foldl_cons, List.foldl_nil, UInt16.toNat_toUInt8,
    UInt16.toNat_and, UInt16.toNat_shiftRight, UInt16.reduceToNat, Nat.reduceMod, and_255,
    Nat.shiftRight_eq_div_pow, Nat.reducePow]
  omega

/-- The version bits lie above the time. -/
theorem version_mod (value : Nat) : (value % 4096 ||| 4096) % 4096 = value % 4096 := by
  have low := @Nat.or_mod_two_pow (value % 4096) 4096 12
  simp only [Nat.reducePow, Nat.mod_self, Nat.or_zero, Nat.mod_mod] at low
  exact low

theorem encodedTimestamp_populate (timestamp100ns : UInt64) (clockSequence : UInt16)
    (node : Vector UInt8 6) :
    encodedTimestamp (populateUuidBytes timestamp100ns clockSequence node) =
      timestamp100ns.toNat % 1152921504606846976 := by
  have small := timestamp100ns.toNat_lt
  have low : (populateUuidBytes timestamp100ns clockSequence node).take 4 =
      storeUuidUint32 (timestamp100ns &&& 0xffffffff).toUInt32 := rfl
  have mid : ((populateUuidBytes timestamp100ns clockSequence node).drop 4).take 2 =
      storeUuidUint16 (timestamp100ns >>> 32 &&& 0xffff).toUInt16 := rfl
  have high : ((populateUuidBytes timestamp100ns clockSequence node).drop 6).take 2 =
      storeUuidUint16 ((timestamp100ns >>> 48 &&& 0x0fff).toUInt16 ||| 0x1000) := rfl
  rw [encodedTimestamp, low, mid, high, bigEndian_storeUuidUint32, bigEndian_storeUuidUint16,
    bigEndian_storeUuidUint16]
  simp only [UInt64.toNat_toUInt16, UInt64.toNat_toUInt32, UInt16.toNat_or, UInt64.toNat_and,
    UInt64.toNat_shiftRight, UInt64.reduceToNat, UInt16.reduceToNat, Nat.reduceMod, and_4095,
    and_65535, and_4294967295, Nat.shiftRight_eq_div_pow, Nat.reducePow]
  have twelve : timestamp100ns.toNat / 281474976710656 % 4096 < 65536 := by omega
  rw [Nat.mod_eq_of_lt twelve, version_mod]
  omega

theorem length_populate (timestamp100ns : UInt64) (clockSequence : UInt16)
    (node : Vector UInt8 6) :
    (populateUuidBytes timestamp100ns clockSequence node).length = 16 := by
  rw [populateUuidBytes, List.length_append, Vector.length_toList]
  rfl

end

end MyLite.Uuid
