import MyLite.Library.Window
import MyLite.Library.Decimal

/-! `mylite_bitwise_aggregate.c`: BIT_AND, BIT_OR and BIT_XOR over a window, by counters of the
rows that have each bit set. -/
namespace MyLite.Aggregate

/-! The arguments and results of the callbacks. -/

inductive SqliteType where
  | null
  | integer
  | float
  | text
  | blob
  deriving DecidableEq, Repr

/-- What the callbacks read of an argument: its type, `sqlite3_value_int64` and
`sqlite3_value_text`. -/
structure Argument where
  type : SqliteType
  int64 : Int64
  text : List UInt8
  deriving DecidableEq, Repr

inductive CallbackResult where
  | null
  | text (bytes : List UInt8)
  | error (message : String)
  deriving DecidableEq, Repr

/-! The counters. -/

inductive BitwiseOperation where
  | and
  | or
  | xor
  deriving DecidableEq, Repr

structure BitwiseConfig where
  operation : BitwiseOperation
  neutralValue : BitVec 64

/-- The configurations that the functions are registered with. -/
def BitwiseOperation.config (operation : BitwiseOperation) : BitwiseConfig where
  operation := operation
  neutralValue :=
    match operation with
    | .and => BitVec.allOnes 64
    | .or => 0#64
    | .xor => 0#64

def bitwiseAggregateBitCount : Nat := 64

/-- The counters are 64 bits wide in the source; `bitwiseAggregate_counters_le` bounds them by
the window. -/
structure BitwiseState where
  nonNullCount : Nat
  bitCounts : List Nat
  deriving DecidableEq, Repr

/-- The zeroed state of the first row. -/
def BitwiseState.zero : BitwiseState :=
  ⟨0, List.replicate bitwiseAggregateBitCount 0⟩

def bitMask (index : Nat) : BitVec 64 :=
  1#64 <<< index

/-- `none` is NULL. -/
def readBitwiseAggregateArgument (argument : Argument) : Except String (Option (BitVec 64)) :=
  match argument.type with
  | .null => .ok none
  | .integer => .ok (some argument.int64.toBitVec)
  | _ => .error "invalid MyLite bitwise aggregate input type"

/-- The loop of `add_bitwise_aggregate_value`, from one bit on. -/
def addBits (value : BitVec 64) : Nat → List Nat → List Nat
  | _, [] => []
  | index, count :: counts =>
    (if value &&& bitMask index ≠ 0#64 then count + 1 else count) ::
      addBits value (index + 1) counts

def addBitwiseAggregateValue (state : BitwiseState) (value : BitVec 64) : BitwiseState :=
  ⟨state.nonNullCount + 1, addBits value 0 state.bitCounts⟩

/-- The loop of `remove_bitwise_aggregate_value`; it stops at a set bit that no row has. -/
def removeBits (value : BitVec 64) : Nat → List Nat → List Nat × Bool
  | _, [] => ([], true)
  | index, count :: counts =>
    if value &&& bitMask index = 0#64 then
      let (rest, removed) := removeBits value (index + 1) counts
      (count :: rest, removed)
    else if count = 0 then (count :: counts, false)
    else
      let (rest, removed) := removeBits value (index + 1) counts
      ((count - 1) :: rest, removed)

def invalidBitwiseWindowState : String :=
  "invalid MyLite bitwise aggregate window state"

def removeBitwiseAggregateValue (state : BitwiseState) (value : BitVec 64) :
    BitwiseState × Option String :=
  if state.nonNullCount = 0 then (state, some invalidBitwiseWindowState)
  else
    let (bitCounts, removed) := removeBits value 0 state.bitCounts
    (⟨state.nonNullCount - 1, bitCounts⟩, if removed then none else some invalidBitwiseWindowState)

/-- The state after a row, and the error it is reported with. -/
def bitwiseAggregateStep (state : Option BitwiseState) (argument : Argument) :
    Option BitwiseState × Option String :=
  match readBitwiseAggregateArgument argument with
  | .error message => (state, some message)
  | .ok none => (state, none)
  | .ok (some value) => (some (addBitwiseAggregateValue (state.getD .zero) value), none)

def bitwiseAggregateInverse (state : Option BitwiseState) (argument : Argument) :
    Option BitwiseState × Option String :=
  match readBitwiseAggregateArgument argument with
  | .error message => (state, some message)
  | .ok none => (state, none)
  | .ok (some value) =>
    match state with
    | none => (none, some invalidBitwiseWindowState)
    | some state =>
      let (state, error) := removeBitwiseAggregateValue state value
      (some state, error)

def setsBit (operation : BitwiseOperation) (nonNullCount bitCount : Nat) : Bool :=
  match operation with
  | .and => bitCount = nonNullCount
  | .or => bitCount ≠ 0
  | .xor => bitCount % 2 ≠ 0

/-- The loop of `bitwise_aggregate_result`. -/
def resultBits (operation : BitwiseOperation) (nonNullCount : Nat) :
    Nat → List Nat → BitVec 64 → BitVec 64
  | _, [], result => result
  | index, bitCount :: bitCounts, result =>
    resultBits operation nonNullCount (index + 1) bitCounts
      (if setsBit operation nonNullCount bitCount then result ||| bitMask index else result)

def bitwiseAggregateResult (config : BitwiseConfig) : Option BitwiseState → BitVec 64
  | none => config.neutralValue
  | some state =>
    if state.nonNullCount = 0 then config.neutralValue
    else resultBits config.operation state.nonNullCount 0 state.bitCounts 0#64

def decimalText (value : Nat) : List UInt8 :=
  (Decimal.digits value).map fun digit => UInt8.ofNat (0x30 + digit)

def setBitwiseAggregateResult (value : BitVec 64) : CallbackResult :=
  .text (decimalText value.toNat)

/-- `bitwise_aggregate_value` and `bitwise_aggregate_final`. -/
def bitwiseAggregateValue (config : BitwiseConfig) (state : Option BitwiseState) :
    CallbackResult :=
  setBitwiseAggregateResult (bitwiseAggregateResult config state)

def bitwiseAggregate : Window.Aggregate (Option BitwiseState) Argument where
  start := none
  step state argument := (bitwiseAggregateStep state argument).1
  inverse state argument := (bitwiseAggregateInverse state argument).1

/-! What the functions stand for. -/

def BitwiseOperation.apply (operation : BitwiseOperation) (left right : BitVec 64) : BitVec 64 :=
  match operation with
  | .and => left &&& right
  | .or => left ||| right
  | .xor => left ^^^ right

/-- The value of a row that is neither NULL nor refused. -/
def bitwiseValue (row : Argument) : Option (BitVec 64) :=
  match readBitwiseAggregateArgument row with
  | .ok value => value
  | .error _ => none

def bitwiseValues (rows : List Argument) : List (BitVec 64) :=
  rows.filterMap bitwiseValue

def foldBitwise (operation : BitwiseOperation) (values : List (BitVec 64)) : BitVec 64 :=
  values.foldl operation.apply operation.config.neutralValue

/-! Bits. -/

theorem bitMask_eq (index : Nat) : bitMask index = BitVec.twoPow 64 index :=
  (BitVec.twoPow_eq 64 index).symm

theorem and_bitMask_eq_zero {value : BitVec 64} {index : Nat} (inside : index < 64) :
    value &&& bitMask index = 0#64 ↔ value.getLsbD index = false := by
  rw [bitMask_eq, BitVec.and_twoPow]
  cases bit : value.getLsbD index with
  | false => simp
  | true =>
    have self : (BitVec.twoPow 64 index).getLsbD index = true := by
      simp [inside]
    simp only [if_true, Bool.true_eq_false, iff_false]
    intro zero
    rw [zero, BitVec.getLsbD_zero] at self
    cases self

/-- The number of values that have the bit. -/
def bitCount (values : List (BitVec 64)) (index : Nat) : Nat :=
  values.countP fun value => value.getLsbD index

/-- The counters of the values of a window. -/
def BitwiseState.counting (values : List (BitVec 64)) : BitwiseState :=
  ⟨values.length, (List.range' 0 bitwiseAggregateBitCount).map (bitCount values)⟩

theorem addBits_range (value : BitVec 64) (counter : Nat → Nat) (index width : Nat)
    (inside : index + width ≤ 64) :
    addBits value index ((List.range' index width).map counter) =
      (List.range' index width).map fun bit =>
        counter bit + if value.getLsbD bit then 1 else 0 := by
  induction width generalizing index with
  | zero => rfl
  | succ width ih =>
    simp only [List.range'_succ, List.map_cons, addBits]
    rw [ih (index + 1) (by omega)]
    congr 1
    simp only [ne_eq, and_bitMask_eq_zero (by omega : index < 64)]
    cases value.getLsbD index <;> rfl

theorem removeBits_range (value : BitVec 64) (counter : Nat → Nat) (index width : Nat)
    (inside : index + width ≤ 64) (counted : ∀ bit, value.getLsbD bit = true → 0 < counter bit) :
    removeBits value index ((List.range' index width).map counter) =
      ((List.range' index width).map fun bit =>
        counter bit - if value.getLsbD bit then 1 else 0, true) := by
  induction width generalizing index with
  | zero => rfl
  | succ width ih =>
    simp only [List.range'_succ, List.map_cons, removeBits]
    rw [ih (index + 1) (by omega)]
    simp only [and_bitMask_eq_zero (by omega : index < 64)]
    cases bit : value.getLsbD index with
    | false => rfl
    | true =>
      have positive := counted index bit
      simp [Nat.ne_of_gt positive]

theorem resultBits_range (operation : BitwiseOperation) (nonNullCount : Nat)
    (counter : Nat → Nat) (index width : Nat) (result : BitVec 64) (bit : Nat) (inside : bit < 64) :
    (resultBits operation nonNullCount index
        ((List.range' index width).map counter) result).getLsbD bit =
      (result.getLsbD bit ||
        (decide (index ≤ bit ∧ bit < index + width) &&
          setsBit operation nonNullCount (counter bit))) := by
  induction width generalizing index result with
  | zero =>
    have outside : ¬(index ≤ bit ∧ bit < index + 0) := by omega
    rw [List.range'_zero, List.map_nil, resultBits, decide_eq_false outside, Bool.false_and,
      Bool.or_false]
  | succ width ih =>
    simp only [List.range'_succ, List.map_cons, resultBits]
    rw [ih]
    by_cases here : index = bit
    · subst here
      cases set : setsBit operation nonNullCount (counter index) with
      | false => simp
      | true => simp [bitMask_eq, inside]
    · have next : (index + 1 ≤ bit ∧ bit < index + 1 + width) ↔
          (index ≤ bit ∧ bit < index + (width + 1)) := by
        omega
      simp only [next]
      congr 1
      split
      · simp [bitMask_eq, here]
      · rfl

/-! One call. -/

theorem bitCount_append (values : List (BitVec 64)) (value : BitVec 64) (bit : Nat) :
    bitCount (values ++ [value]) bit =
      bitCount values bit + if value.getLsbD bit then 1 else 0 := by
  simp [bitCount, List.countP_append, List.countP_singleton]

theorem bitCount_cons (value : BitVec 64) (values : List (BitVec 64)) (bit : Nat) :
    bitCount (value :: values) bit =
      bitCount values bit + if value.getLsbD bit then 1 else 0 :=
  List.countP_cons

theorem addBitwiseAggregateValue_counting (values : List (BitVec 64)) (value : BitVec 64) :
    addBitwiseAggregateValue (.counting values) value = .counting (values ++ [value]) := by
  have counted : bitCount (values ++ [value]) =
      fun bit => bitCount values bit + if value.getLsbD bit then 1 else 0 :=
    funext (bitCount_append values value)
  simp only [addBitwiseAggregateValue, BitwiseState.counting, counted, List.length_append,
    List.length_singleton]
  rw [addBits_range value (bitCount values) 0 _ (by decide)]

theorem removeBitwiseAggregateValue_counting (values : List (BitVec 64)) (value : BitVec 64) :
    removeBitwiseAggregateValue (.counting (value :: values)) value =
      (.counting values, none) := by
  have counted (bit : Nat) (set : value.getLsbD bit = true) :
      0 < bitCount (value :: values) bit := by
    rw [bitCount_cons, if_pos set]
    exact Nat.succ_pos _
  have restored : (fun bit => bitCount (value :: values) bit -
      if value.getLsbD bit then 1 else 0) = bitCount values := by
    funext bit
    rw [bitCount_cons, Nat.add_sub_cancel]
  have nonempty : ¬(BitwiseState.counting (value :: values)).nonNullCount = 0 :=
    Nat.succ_ne_zero _
  rw [removeBitwiseAggregateValue, if_neg nonempty]
  have removed := removeBits_range value (bitCount (value :: values)) 0 bitwiseAggregateBitCount
    (by decide) counted
  rw [restored] at removed
  simp only [BitwiseState.counting, removed]
  rfl

/-- The counters decide each bit of the fold. -/
theorem getLsbD_foldBitwise (operation : BitwiseOperation) (values : List (BitVec 64)) {bit : Nat}
    (inside : bit < 64) :
    (foldBitwise operation values).getLsbD bit =
      setsBit operation values.length (bitCount values bit) := by
  induction values using List.reverseRecOn with
  | nil =>
    cases operation with
    | and =>
      have set : (BitVec.allOnes 64).getLsbD bit = true := by
        rw [BitVec.getLsbD_allOnes, decide_eq_true inside]
      exact set
    | or => simp [foldBitwise, BitwiseOperation.config, setsBit, bitCount]
    | xor => simp [foldBitwise, BitwiseOperation.config, setsBit, bitCount]
  | append_singleton values value ih =>
    have bounded : bitCount values bit ≤ values.length := List.countP_le_length
    have last : foldBitwise operation (values ++ [value]) =
        operation.apply (foldBitwise operation values) value := by
      rw [foldBitwise, List.foldl_append]
      rfl
    rw [last, bitCount_append, List.length_append, List.length_singleton]
    cases operation with
    | and =>
      rw [BitwiseOperation.apply, BitVec.getLsbD_and, ih]
      simp only [setsBit]
      cases value.getLsbD bit with
      | false =>
        have fewer : ¬bitCount values bit = values.length + 1 := by omega
        simp [fewer]
      | true => simp
    | or =>
      rw [BitwiseOperation.apply, BitVec.getLsbD_or, ih]
      simp only [setsBit]
      cases value.getLsbD bit <;> simp
    | xor =>
      rw [BitwiseOperation.apply, BitVec.getLsbD_xor, ih]
      simp only [setsBit]
      cases value.getLsbD bit with
      | false => simp
      | true =>
        rcases Nat.mod_two_eq_zero_or_one (bitCount values bit) with even | odd
        · simp [even, Nat.add_mod]
        · simp [odd, Nat.add_mod]

theorem bitwiseAggregateResult_counting (operation : BitwiseOperation)
    (values : List (BitVec 64)) :
    bitwiseAggregateResult operation.config (some (.counting values)) =
      foldBitwise operation values := by
  rw [bitwiseAggregateResult]
  split
  · rename_i none
    rw [List.eq_nil_of_length_eq_zero none]
    rfl
  · refine BitVec.eq_of_getLsbD_eq fun bit inside => ?_
    have same : operation.config.operation = operation := rfl
    rw [getLsbD_foldBitwise operation values inside, same, BitwiseState.counting,
      resultBits_range _ _ _ _ _ _ _ inside]
    simp [bitwiseAggregateBitCount, inside]

/-! Whole runs. -/

/-- The counters are those of the rows that have a value. -/
def CountsRows (state : Option BitwiseState) (window : List Argument) : Prop :=
  state.getD .zero = .counting (bitwiseValues window)

theorem bitwiseAggregate_tracks : bitwiseAggregate.Tracks CountsRows where
  start := rfl
  step {state window} row held := by
    have values : bitwiseValues (window ++ [row]) =
        bitwiseValues window ++ (bitwiseValue row).toList := by
      rw [bitwiseValues, List.filterMap_append, ← bitwiseValues]
      cases value : bitwiseValue row <;> simp [value]
    simp only [CountsRows, values, bitwiseAggregate, bitwiseAggregateStep, bitwiseValue] at held ⊢
    cases read : readBitwiseAggregateArgument row with
    | error message => simpa using held
    | ok value =>
      cases value with
      | none => simpa using held
      | some value =>
        simp only [held, addBitwiseAggregateValue_counting]
        rfl
  inverse {state window row} held := by
    have values : bitwiseValues (row :: window) =
        (bitwiseValue row).toList ++ bitwiseValues window := by
      rw [bitwiseValues, List.filterMap_cons, ← bitwiseValues]
      cases value : bitwiseValue row <;> simp
    simp only [CountsRows, values, bitwiseAggregate, bitwiseAggregateInverse, bitwiseValue]
      at held ⊢
    cases read : readBitwiseAggregateArgument row with
    | error message => simpa [read] using held
    | ok value =>
      cases value with
      | none => simpa [read] using held
      | some value =>
        simp only [read, Option.toList_some, List.singleton_append] at held
        cases state with
        | none => cases held
        | some state =>
          rw [Option.getD_some] at held
          simp only [held, removeBitwiseAggregateValue_counting]
          rfl

/-- No counter exceeds the rows of the window. -/
theorem bitwiseAggregate_counters_le {calls : List (Window.Call Argument)}
    {window : List Argument} (slides : Window.Slides [] calls window) :
    let state := (bitwiseAggregate.run calls).getD .zero
    ∀ counter ∈ state.nonNullCount :: state.bitCounts, counter ≤ window.length := by
  have held : (bitwiseAggregate.run calls).getD .zero = _ := bitwiseAggregate_tracks.run slides
  have fewer : (bitwiseValues window).length ≤ window.length := List.length_filterMap_le ..
  dsimp only
  rw [held, BitwiseState.counting]
  refine List.forall_mem_cons.mpr ⟨fewer, fun counter member => ?_⟩
  obtain ⟨bit, _, rfl⟩ := List.mem_map.mp member
  exact Nat.le_trans List.countP_le_length fewer

/-- The value is the fold of the operator over the rows in the window. -/
theorem bitwiseAggregate_value (operation : BitwiseOperation)
    {calls : List (Window.Call Argument)} {window : List Argument}
    (slides : Window.Slides [] calls window) :
    bitwiseAggregateValue operation.config (bitwiseAggregate.run calls) =
      setBitwiseAggregateResult (foldBitwise operation (bitwiseValues window)) := by
  have held := bitwiseAggregate_tracks.run slides
  rw [bitwiseAggregateValue, ← bitwiseAggregateResult_counting, ← held]
  cases bitwiseAggregate.run calls <;> rfl

end MyLite.Aggregate
