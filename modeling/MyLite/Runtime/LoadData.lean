import Mathlib.Data.List.Basic
import Mathlib.Tactic.Common

/-! LOAD DATA INFILE: the reader that is fed a file chunk by chunk, and the rows it gives on.
What a row becomes in the table is left open. -/

namespace MyLite.LoadData

def backslash : UInt8 := 92

def tabulator : UInt8 := 9

def newline : UInt8 := 10

/-- `SIZE_MAX`. -/
def sizeMax : Nat := 18446744073709551615

/-- `struct load_data_field`. A NULL has no text. -/
structure Field where
  text : List UInt8
  isNull : Bool
  deriving DecidableEq, Repr

/-- `struct load_data_reader`; the fields of the row so far are in order. -/
structure Reader where
  field : List UInt8
  row : List Field
  physicalRowNumber : Nat
  loadedRowCount : Nat
  escapePending : Bool
  fieldHasEscape : Bool
  rowPending : Bool
  deriving DecidableEq, Repr

/-- The zeroed reader. -/
def Reader.initial : Reader where
  field := []
  row := []
  physicalRowNumber := 0
  loadedRowCount := 0
  escapePending := false
  fieldHasEscape := false
  rowPending := false

inductive LoadError (ImportError : Type) where
  | tooManyRows
  | importFailed (error : ImportError)

/-- `struct planned_load_data_infile`, with `execute_load_data_import_row` as a change of the
target. -/
structure Plan (Target ImportError : Type) where
  ignoreLineCount : Nat
  importRow : Target → List Field → Nat → Except ImportError Target

/-- The character of an escape. -/
def escapedCharacter (byte : UInt8) : UInt8 :=
  if byte = 48 then 0
  else if byte = 98 then 8
  else if byte = 110 then 10
  else if byte = 114 then 13
  else if byte = 116 then 9
  else if byte = 90 then 26
  else if byte = 92 then 92
  else byte

/-- The loop of `decode_load_data_field_text`. -/
def decodeText : List UInt8 → List UInt8
  | [] => []
  | [byte] => [byte]
  | byte :: next :: rest =>
    if byte = backslash then escapedCharacter next :: decodeText rest
    else byte :: decodeText (next :: rest)

/-- `decode_load_data_field_text`. -/
def decodeLoadDataFieldText (rawText : List UInt8) : Field :=
  if rawText = [backslash, 78] then ⟨[], true⟩ else ⟨decodeText rawText, false⟩

/-- `load_data_row_append_field`. -/
def Reader.appendField (reader : Reader) : Reader :=
  let field :=
    if reader.fieldHasEscape then decodeLoadDataFieldText reader.field else ⟨reader.field, false⟩
  { reader with row := reader.row ++ [field], field := [] }

/-- `finish_load_data_field`. -/
def Reader.finishField (reader : Reader) : Reader :=
  let whole :=
    if reader.escapePending then
      { reader with field := reader.field ++ [backslash], escapePending := false }
    else reader
  { whole.appendField with fieldHasEscape := false }

section Reading

variable {Target ImportError : Type}

/-- `process_load_data_row`: the target and the number of loaded rows. -/
def Plan.processLoadDataRow (plan : Plan Target ImportError) (target : Target)
    (row : List Field) (physicalRowNumber loadedRowCount : Nat) :
    Except (LoadError ImportError) (Target × Nat) :=
  if physicalRowNumber ≤ plan.ignoreLineCount then .ok (target, loadedRowCount)
  else if loadedRowCount = sizeMax then .error .tooManyRows
  else
    match plan.importRow target row (loadedRowCount + 1) with
    | .error error => .error (.importFailed error)
    | .ok imported => .ok (imported, loadedRowCount + 1)

/-- What the reader does with a row that is complete. -/
def Plan.processRow (plan : Plan Target ImportError) (target : Target) (reader : Reader) :
    Except (LoadError ImportError) (Target × Reader) :=
  match plan.processLoadDataRow target reader.row (reader.physicalRowNumber + 1)
      reader.loadedRowCount with
  | .error error => .error error
  | .ok (imported, loadedRowCount) =>
    .ok (imported, { reader with
      physicalRowNumber := reader.physicalRowNumber + 1
      loadedRowCount := loadedRowCount })

/-- A byte that neither ends a field or a row nor starts an escape. -/
def isOrdinary (byte : UInt8) : Bool :=
  byte ≠ backslash && byte ≠ tabulator && byte ≠ newline

/-- The bytes up to the next one that is not ordinary. -/
def Reader.appendRun (reader : Reader) (run : List UInt8) : Reader :=
  if run.isEmpty then reader
  else { reader with field := reader.field ++ run, rowPending := true }

/-- `consume_load_data_input`. -/
def Plan.consumeLoadDataInput (plan : Plan Target ImportError) (target : Target)
    (reader : Reader) : List UInt8 → Except (LoadError ImportError) (Target × Reader)
  | [] => .ok (target, reader)
  | byte :: rest =>
    if reader.escapePending then
      plan.consumeLoadDataInput target
        { reader with
          field := reader.field ++ [backslash] ++ [byte]
          escapePending := false
          rowPending := true } rest
    else
      let ran := reader.appendRun ((byte :: rest).takeWhile isOrdinary)
      match _remaining : (byte :: rest).dropWhile isOrdinary with
      | [] => .ok (target, ran)
      | delimiter :: after =>
        let pending := { ran with rowPending := true }
        if delimiter = backslash then
          plan.consumeLoadDataInput target
            { pending with escapePending := true, fieldHasEscape := true } after
        else if delimiter = tabulator then
          plan.consumeLoadDataInput target pending.finishField after
        else
          match plan.processRow target pending.finishField with
          | .error error => .error error
          | .ok (imported, processed) =>
            plan.consumeLoadDataInput imported
              { processed with row := [], rowPending := false } after
termination_by input => input.length
decreasing_by
  · simp
  all_goals
    have shorter := (List.dropWhile_suffix isOrdinary (l := byte :: rest)).length_le
    rw [_remaining] at shorter
    simp only [List.length_cons] at shorter ⊢
    omega

/-- The chunks of a file, one after the other. -/
def Plan.consumeChunks (plan : Plan Target ImportError) (target : Target) (reader : Reader) :
    List (List UInt8) → Except (LoadError ImportError) (Target × Reader)
  | [] => .ok (target, reader)
  | chunk :: chunks =>
    match plan.consumeLoadDataInput target reader chunk with
    | .error error => .error error
    | .ok (consumed, next) => plan.consumeChunks consumed next chunks

/-- The last row, when the file does not end with a newline. -/
def Plan.finishRows (plan : Plan Target ImportError) (target : Target) (reader : Reader) :
    Except (LoadError ImportError) Target :=
  if reader.rowPending then
    match plan.processRow target reader.finishField with
    | .error error => .error error
    | .ok (imported, _) => .ok imported
  else .ok target

/-- `execute_load_data_file_rows`, of a file that is read in the given chunks. -/
def Plan.executeLoadDataFileRows (plan : Plan Target ImportError) (target : Target)
    (chunks : List (List UInt8)) : Except (LoadError ImportError) Target :=
  match plan.consumeChunks target .initial chunks with
  | .error error => .error error
  | .ok (consumed, reader) => plan.finishRows consumed reader

/-- The chunks that `fread` gives: all but the last fill the buffer. -/
def inputChunks (chunkSize : Nat) (content : List UInt8) : List (List UInt8) :=
  if chunkSize = 0 ∨ content.length < chunkSize then [content]
  else content.take chunkSize :: inputChunks chunkSize (content.drop chunkSize)
termination_by content.length
decreasing_by
  rename_i full
  rw [List.length_drop]
  omega

end Reading

end MyLite.LoadData
