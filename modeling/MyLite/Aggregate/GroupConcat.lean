import MyLite.Aggregate.Bitwise
import MyLite.Collation.DistinctKeys

/-! `mylite_group_concat_aggregate.c`: GROUP_CONCAT up to the session's maximal length, and the hash
table that finds the rows that are no longer distinct. -/
namespace MyLite.Aggregate

open Collation (CollationKind asciiFold collationMakeKey)

/-! The collation of a name. -/

/-- The bytes of a C string. -/
def cString (text : List UInt8) : List UInt8 :=
  text.takeWhile fun byte => byte ≠ 0

def textEqualsAsciiCaseInsensitive : List UInt8 → List UInt8 → Bool
  | [], [] => true
  | left :: lefts, right :: rights =>
    if asciiFold left ≠ asciiFold right then false
    else textEqualsAsciiCaseInsensitive lefts rights
  | _, _ => false

def textHasAsciiCaseInsensitiveSuffix (text suffix : List UInt8) : Bool :=
  suffix.length ≤ text.length &&
    textEqualsAsciiCaseInsensitive (text.drop (text.length - suffix.length)) suffix

def asciiText (text : String) : List UInt8 :=
  text.toList.map fun letter => UInt8.ofNat letter.toNat

/-- `mylite_collation_kind_from_name`. -/
def collationKindFromName (name : List UInt8) : CollationKind :=
  if textEqualsAsciiCaseInsensitive name (asciiText "binary") ||
      textHasAsciiCaseInsensitiveSuffix name (asciiText "_bin") then .binary
  else if textHasAsciiCaseInsensitiveSuffix name (asciiText "_cs") then .utf8mb4_0900_as_cs
  else if textHasAsciiCaseInsensitiveSuffix name (asciiText "_as_ci") then .utf8mb4_0900_as_ci
  else .utf8mb4_0900_ai_ci

/-! The state. -/

structure DistinctEntry where
  key : List UInt8
  hash : UInt64
  deriving DecidableEq, Repr

structure GroupConcatState where
  bytes : List UInt8
  distinctEntries : List (Option DistinctEntry)
  distinctCount : Nat
  distinctCollation : Option CollationKind
  cutOrdinal : Nat
  sawValue : Bool
  truncated : Bool
  deriving DecidableEq, Repr

/-- The zeroed state of the first row. -/
def GroupConcatState.zero : GroupConcatState :=
  ⟨[], [], 0, none, 0, false, false⟩

/-- Why a row gave no state: an error that was reported, or a probe that never ends. -/
inductive GroupConcatFailure where
  | reported (message : String)
  | endlessProbe
  deriving DecidableEq, Repr

/-! The table. -/

def groupConcatDistinctHash (key : List UInt8) : UInt64 :=
  key.foldl (fun hash byte => (hash ^^^ byte.toUInt64) * 1099511628211) 14695981039346656037

/-- The loop of `group_concat_distinct_slot`. A walk over more slots than there are comes back to
where it has been. -/
def groupConcatDistinctWalk (entries : List (Option DistinctEntry)) (hash : UInt64)
    (key : List UInt8) : Nat → Nat → Option (Nat × Bool)
  | 0, _ => none
  | fuel + 1, slot =>
    match entries[slot]? with
    | none => none
    | some none => some (slot, false)
    | some (some entry) =>
      if entry.hash = hash ∧ entry.key.length = key.length ∧
          (key.length = 0 ∨ entry.key = key) then some (slot, true)
      else groupConcatDistinctWalk entries hash key fuel ((slot + 1) &&& (entries.length - 1))

def groupConcatDistinctSlot (entries : List (Option DistinctEntry)) (hash : UInt64)
    (key : List UInt8) : Option (Nat × Bool) :=
  groupConcatDistinctWalk entries hash key entries.length (hash.toNat &&& (entries.length - 1))

/-- The loop of `group_concat_distinct_reserve`: the old entries move to the new table. -/
def groupConcatDistinctMove : List (Option DistinctEntry) → List (Option DistinctEntry) →
    Option (List (Option DistinctEntry))
  | [], entries => some entries
  | none :: rest, entries => groupConcatDistinctMove rest entries
  | some entry :: rest, entries =>
    match groupConcatDistinctSlot entries entry.hash entry.key with
    | none => none
    | some (slot, _) => groupConcatDistinctMove rest (entries.set slot (some entry))

def groupConcatDistinctInitialCapacity : Nat := 16

def groupConcatDistinctReserve (entries : List (Option DistinctEntry)) (requiredCount : Nat) :
    Option (List (Option DistinctEntry)) :=
  if entries.length ≠ 0 ∧ requiredCount ≤ entries.length - entries.length / 4 then some entries
  else
    let capacity :=
      if entries.length = 0 then groupConcatDistinctInitialCapacity else entries.length * 2
    groupConcatDistinctMove entries (List.replicate capacity none)

def groupConcatAppendFailed : GroupConcatFailure :=
  .reported "MyLite GROUP_CONCAT append failed"

/-- The state with the text's key in it, and whether the key was there before. -/
def groupConcatRecordDistinctValue (state : GroupConcatState) (text : List UInt8)
    (collation : CollationKind) : Except GroupConcatFailure (GroupConcatState × Bool) :=
  if state.distinctCollation.any (· ≠ collation) then .error groupConcatAppendFailed
  else
    let key := collationMakeKey collation text
    let hash := groupConcatDistinctHash key
    match groupConcatDistinctReserve state.distinctEntries (state.distinctCount + 1) with
    | none => .error .endlessProbe
    | some entries =>
      let state := { state with distinctCollation := some collation, distinctEntries := entries }
      match groupConcatDistinctSlot entries hash key with
      | none => .error .endlessProbe
      | some (slot, found) =>
        if found then .ok (state, true)
        else .ok ({ state with
          distinctEntries := entries.set slot (some ⟨key, hash⟩)
          distinctCount := state.distinctCount + 1 }, false)

/-! The text. -/

/-- The length a first byte stands for; 0 for a byte that starts no character. -/
def utf8SequenceLength (first : UInt8) : Nat :=
  if first < 0x80 then 1
  else if 0xc2 ≤ first ∧ first ≤ 0xdf then 2
  else if 0xe0 ≤ first ∧ first ≤ 0xef then 3
  else if 0xf0 ≤ first ∧ first ≤ 0xf4 then 4
  else 0

/-- `group_concat_valid_utf8_prefix`, from one character on: the length of the characters that are
whole. -/
def groupConcatValidUtf8Prefix : List UInt8 → Nat
  | [] => 0
  | first :: rest =>
    let sequenceLength := utf8SequenceLength first
    if sequenceLength = 0 then 0
    else if sequenceLength > rest.length + 1 then 0
    else if (rest.take (sequenceLength - 1)).any (fun byte => byte &&& 0xc0 ≠ 0x80) then 0
    else sequenceLength + groupConcatValidUtf8Prefix (rest.drop (sequenceLength - 1))
termination_by bytes => bytes.length
decreasing_by
  rw [List.length_drop, List.length_cons]
  omega

/-- The bytes after a request, and whether all of it was appended. -/
def groupConcatAppendBytes (bytes request : List UInt8) (limit : Nat) : List UInt8 × Bool :=
  if request.length = 0 then (bytes, true)
  else if bytes.length ≥ limit then (bytes, false)
  else
    let available := limit - bytes.length
    let copyCount := if request.length ≤ available then request.length else available
    let copyCount := groupConcatValidUtf8Prefix (request.take copyCount)
    (bytes ++ request.take copyCount, copyCount = request.length)

def uint64Max : Nat := 18446744073709551615

/-- `size_t` has 64 bits. -/
def groupConcatSizeLimit (value : Nat) : Nat :=
  if value > uint64Max then uint64Max else value

/-- The end of `group_concat_append_value`: the value itself, behind the bytes before it. -/
def groupConcatAppendText (state : GroupConcatState) (bytes value : List UInt8)
    (limit ordinal : Nat) : GroupConcatState :=
  let (bytes, complete) := groupConcatAppendBytes bytes value limit
  if !complete then
    { state with bytes := bytes, sawValue := true, truncated := true, cutOrdinal := ordinal }
  else { state with bytes := bytes, sawValue := true }

/-- The separator, unless the value is the first one, and the value. -/
def groupConcatAppendKept (state : GroupConcatState) (value separator : List UInt8)
    (limit ordinal : Nat) : GroupConcatState :=
  if state.sawValue then
    let (bytes, complete) := groupConcatAppendBytes state.bytes separator limit
    if !complete then { state with bytes := bytes, truncated := true, cutOrdinal := ordinal }
    else groupConcatAppendText state bytes value limit ordinal
  else groupConcatAppendText state state.bytes value limit ordinal

def groupConcatAppendValue (isDistinct : Bool) (limit ordinal : Nat) (state : GroupConcatState)
    (value separator : Argument) (collation : CollationKind) :
    Except GroupConcatFailure GroupConcatState :=
  if separator.type = .null then .error groupConcatAppendFailed
  else if isDistinct then
    match groupConcatRecordDistinctValue state value.text collation with
    | .error failure => .error failure
    | .ok (state, duplicate) =>
      if duplicate then .ok state
      else .ok (groupConcatAppendKept state value.text separator.text limit ordinal)
  else .ok (groupConcatAppendKept state value.text separator.text limit ordinal)

/-- The session's `group_concat_max_len` and `group_concat_value_ordinal`. -/
structure GroupConcatSession where
  maxLen : Nat
  valueOrdinal : Nat
  deriving DecidableEq, Repr

structure GroupConcatRow where
  value : Argument
  separator : Argument
  collation : Argument

def groupConcatOrdinalOverflow : GroupConcatFailure :=
  .reported "MyLite GROUP_CONCAT row ordinal overflow"

def groupConcatStep (isDistinct : Bool) (session : GroupConcatSession)
    (state : Option GroupConcatState) (row : GroupConcatRow) :
    Except GroupConcatFailure (GroupConcatSession × Option GroupConcatState) :=
  if row.value.type = .null then .ok (session, state)
  else
    let state := state.getD .zero
    if state.truncated then .ok (session, some state)
    else if session.valueOrdinal = uint64Max then .error groupConcatOrdinalOverflow
    else
      let session := { session with valueOrdinal := session.valueOrdinal + 1 }
      if row.collation.type = .null then .error (.reported "missing MyLite GROUP_CONCAT collation")
      else
        match groupConcatAppendValue isDistinct (groupConcatSizeLimit session.maxLen)
            session.valueOrdinal state row.value row.separator
            (collationKindFromName (cString row.collation.text)) with
        | .error failure => .error failure
        | .ok state => .ok (session, some state)

/-- The steps of a statement; the first error ends it. -/
def groupConcatRun (isDistinct : Bool) (session : GroupConcatSession)
    (state : Option GroupConcatState) :
    List GroupConcatRow → Except GroupConcatFailure (GroupConcatSession × Option GroupConcatState)
  | [] => .ok (session, state)
  | row :: rows =>
    match groupConcatStep isDistinct session state row with
    | .error failure => .error failure
    | .ok (session, state) => groupConcatRun isDistinct session state rows

/-- The result, and the row that the warning of a cut names. -/
def groupConcatFinal : Option GroupConcatState → CallbackResult × Option Nat
  | none => (.null, none)
  | some state =>
    if !state.sawValue then (.null, none)
    else (.text state.bytes, if state.truncated then some state.cutOrdinal else none)

end MyLite.Aggregate
