import Mathlib.Data.List.Basic
import Mathlib.Tactic.Common

/-! REPLACE of one row: insert, and on a conflict delete what is in the way and try
again. A row is the values of the columns that are not generated; those are never in a
key. -/

namespace MyLite.Replace

inductive SqliteValue (Real : Type) where
  | null
  | integer (value : Int)
  | real (value : Real)
  | text (bytes : List UInt8)
  | blob (bytes : List UInt8)
  deriving DecidableEq

/-- What every value of a column that is not NULL is stored as. -/
inductive StorageClass where
  | integer
  | real
  | text
  | blob
  deriving DecidableEq

/-- How SQLite reads a column as another class than it was stored with is left open. -/
structure ColumnReads (Real : Type) where
  int64 : SqliteValue Real → Int
  double : SqliteValue Real → Real
  bytes : SqliteValue Real → List UInt8
  int64_integer : ∀ value, int64 (.integer value) = value
  double_real : ∀ value, double (.real value) = value
  bytes_text : ∀ value, bytes (.text value) = value
  bytes_blob : ∀ value, bytes (.blob value) = value

/-- `struct planned_value`. Text bound to a parameter stays with its binding. -/
structure PlannedValue (Real : Type) where
  isNull : Bool
  isText : Bool
  isBlob : Bool
  isReal : Bool
  integer : Int
  real : Real
  text : List UInt8
  externalBinding : Option (List UInt8)

abbrev Row (Real : Type) := List (SqliteValue Real)

/-- A key part compares the prefix of its column's value, under the column's collation. -/
structure IndexPart (Real : Type) where
  columnIndex : Nat
  prefixLength : Option Nat
  normalize : SqliteValue Real → SqliteValue Real

structure Index (Real : Type) where
  isUnique : Bool
  parts : List (IndexPart Real)

/-! The key that is in the way. -/

/-- What the lookup of a conflict asks about an index. -/
structure KeyLookup (Key Failure Text : Type) where
  isUnique : Key → Bool
  partCount : Key → Nat
  rowHasNullPart : Key → Except Failure Bool
  tupleExists : Key → Except Failure Bool
  formatTuple : Key → Except Failure Text

section Lookup

variable {Key Failure Text Real : Type}

/-- `insert_unique_key_row_has_null_part`. -/
def rowHasNullPart (invalidDescriptor : Failure) (values : List (PlannedValue Real)) :
    List Nat → Except Failure Bool
  | [] => .ok false
  | part :: parts =>
    match values[part]? with
    | none => .error invalidDescriptor
    | some value =>
      if value.isNull then .ok true else rowHasNullPart invalidDescriptor values parts

/-- Whether the index holds the tuple of the new row. -/
def KeyLookup.conflicts (lookup : KeyLookup Key Failure Text) (candidate : Key) :
    Except Failure Bool :=
  if !lookup.isUnique candidate || lookup.partCount candidate = 0 then .ok false
  else
    match lookup.rowHasNullPart candidate with
    | .error failure => .error failure
    | .ok true => .ok false
    | .ok false => lookup.tupleExists candidate

/-- `find_insert_unique_key_conflict`: the first index that conflicts and the text of its tuple.
Without one the failure is that of the step. -/
def KeyLookup.findInsertUniqueKeyConflict (lookup : KeyLookup Key Failure Text) (step : Failure) :
    List Key → Except Failure (Key × Text)
  | [] => .error step
  | candidate :: indexes =>
    match lookup.conflicts candidate with
    | .error failure => .error failure
    | .ok false => lookup.findInsertUniqueKeyConflict step indexes
    | .ok true => (lookup.formatTuple candidate).map fun valueText => (candidate, valueText)

end Lookup

section Values

variable {Real : Type} [DecidableEq Real]

/-- The value a planned value holds itself. -/
def PlannedValue.own (value : PlannedValue Real) : SqliteValue Real :=
  if value.isNull then .null
  else if value.isText then .text value.text
  else if value.isBlob then .blob value.text
  else if value.isReal then .real value.real
  else .integer value.integer

/-- `bind_planned_value_parameter`. -/
def PlannedValue.bound (value : PlannedValue Real) : SqliteValue Real :=
  match value.externalBinding with
  | some bytes => .text bytes
  | none => value.own

/-- `sqlite_column_matches_planned_value`. -/
def PlannedValue.matchesColumn (reads : ColumnReads Real) (value : PlannedValue Real)
    (stored : SqliteValue Real) : Bool :=
  if value.isNull then stored = .null
  else if stored = .null then false
  else if value.isBlob then reads.bytes stored = value.text
  else if value.isText then reads.bytes stored = value.text
  else if value.isReal then reads.double stored = value.real
  else reads.int64 stored = value.integer

/-- What the conversions to a column's type leave. -/
def PlannedValue.Fits (storage : StorageClass) (value : PlannedValue Real) : Prop :=
  (value.isNull = true ∧ value.externalBinding = none) ∨
  (value.isNull = false ∧
    match storage with
    | .integer => value.isText = false ∧ value.isBlob = false ∧ value.isReal = false ∧
        value.externalBinding = none
    | .real => value.isText = false ∧ value.isBlob = false ∧ value.isReal = true ∧
        value.externalBinding = none
    | .blob => value.isText = false ∧ value.isBlob = true ∧ value.externalBinding = none
    | .text => value.isText = true ∧ value.isBlob = false ∧
        (value.externalBinding ≠ none → value.text = []))

def SqliteValue.Fits (storage : StorageClass) : SqliteValue Real → Prop
  | .null => True
  | .integer _ => storage = .integer
  | .real _ => storage = .real
  | .text _ => storage = .text
  | .blob _ => storage = .blob

def Row.at (row : Row Real) (columnIndex : Nat) : SqliteValue Real :=
  row.getD columnIndex .null

/-- SQL equality of a key part: NULL equals nothing. -/
def IndexPart.equal (part : IndexPart Real) (stored value : SqliteValue Real) : Bool :=
  stored ≠ .null && value ≠ .null && part.normalize stored = part.normalize value

/-- `MYLITE_DIAGNOSTIC_MESSAGE_CAPACITY`. -/
def diagnosticMessageCapacity : Nat := 256

/-- `resolve_external_text_key_value`: the text of a value in a key. -/
def PlannedValue.keyText (value : PlannedValue Real) : List UInt8 :=
  value.externalBinding.getD value.text

/-- `format_key_part_value`, as far as it fails: a text, or its prefix, has to fit in a buffer
with its NUL. -/
def IndexPart.formats (part : IndexPart Real) (value : PlannedValue Real) : Bool :=
  value.isNull || !value.isText ||
    min value.keyText.length (part.prefixLength.getD value.keyText.length) <
      diagnosticMessageCapacity

/-- `format_key_tuple`, as far as it fails. -/
def Index.formats (index : Index Real) (values : List (PlannedValue Real)) : Bool :=
  index.parts.all fun part => (values[part.columnIndex]?).any part.formats

/-- Whether the tuples of two rows are equal and without NULL. -/
def Index.sameTuple (index : Index Real) (stored row : Row Real) : Bool :=
  index.parts.all fun part => part.equal (stored.at part.columnIndex) (row.at part.columnIndex)

end Values

/-- `struct planned_insert`, for one row. -/
structure Plan (Real : Type) where
  columns : List StorageClass
  indexes : List (Index Real)
  values : List (PlannedValue Real)
  fits : List.Forall₂ PlannedValue.Fits columns values
  parts : ∀ index ∈ indexes, index.parts ≠ []
  inRange : ∀ index ∈ indexes, ∀ part ∈ index.parts, part.columnIndex < columns.length

/-- How the lookup of a conflict fails. -/
inductive KeyLookupError where
  /-- Nothing is in the way: the status of the step. -/
  | constraint
  | invalidDescriptor
  | keyNotFormatted
  deriving DecidableEq, Repr

inductive ReplaceError where
  | retryLimit
  | keyLookup (error : KeyLookupError)
  | disappeared
  | notDeleted
  deriving DecidableEq, Repr

section Loop

variable {Real : Type} [DecidableEq Real]

/-- The row that is stored. -/
def Plan.row (plan : Plan Real) : Row Real := plan.values.map PlannedValue.bound

/-- SQLite refuses a row that is equal to another on a unique index. -/
def Plan.insertFails (plan : Plan Real) (rows : List (Row Real)) : Bool :=
  plan.indexes.any fun index => index.isUnique && rows.any (index.sameTuple · plan.row)

/-- The lookup of the new row's tuples, whose text nothing reads. -/
def Plan.keyLookup (plan : Plan Real) (rows : List (Row Real)) :
    KeyLookup (Index Real × Nat) KeyLookupError Unit where
  isUnique index := index.1.isUnique
  partCount index := index.1.parts.length
  rowHasNullPart index :=
    rowHasNullPart .invalidDescriptor plan.values (index.1.parts.map IndexPart.columnIndex)
  tupleExists index := .ok (rows.any (index.1.sameTuple · plan.row))
  formatTuple index := if index.1.formats plan.values then .ok () else .error .keyNotFormatted

/-- `find_insert_unique_key_conflict`: the index and its place. -/
def Plan.findInsertUniqueKeyConflict (plan : Plan Real) (rows : List (Row Real)) :
    Except KeyLookupError (Index Real × Nat) :=
  ((plan.keyLookup rows).findInsertUniqueKeyConflict .constraint plan.indexes.zipIdx).map Prod.fst

/-- `compare_replace_conflicting_row`. -/
def Plan.matchesRow (plan : Plan Real) (reads : ColumnReads Real) (stored : Row Real) : Bool :=
  (plan.values.zip stored).all fun column => column.1.matchesColumn reads column.2

/-- `handle_replace_unique_key_conflict`: the rows that are left, and the rows that count
as affected. -/
def Plan.handleConflict (plan : Plan Real) (reads : ColumnReads Real) (rows : List (Row Real)) :
    Except ReplaceError (List (Row Real) × Nat) :=
  match plan.findInsertUniqueKeyConflict rows with
  | .error error => .error (.keyLookup error)
  | .ok (index, _) =>
    match rows.find? (index.sameTuple · plan.row) with
    | none => .error .disappeared
    | some conflicting =>
      let deleted := rows.countP (index.sameTuple · plan.row)
      if deleted = 0 then .error .notDeleted
      else .ok (rows.filter fun row => !index.sameTuple row plan.row,
        if plan.matchesRow reads conflicting then 0 else deleted)

/-- `execute_insert_plan_row_with_retries` of a REPLACE: the rows and the affected rows. -/
def Plan.replaceRow (plan : Plan Real) (reads : ColumnReads Real) (attempts : Nat)
    (rows : List (Row Real)) (affected : Nat) : Except ReplaceError (List (Row Real) × Nat) :=
  if plan.insertFails rows then
    if attempts ≥ plan.indexes.length then .error .retryLimit
    else
      match plan.handleConflict reads rows with
      | .error error => .error error
      | .ok (remaining, replaced) =>
        plan.replaceRow reads (attempts + 1) remaining (affected + replaced)
  else .ok (rows ++ [plan.row], affected + 1)
termination_by plan.indexes.length - attempts

end Loop

end MyLite.Replace
