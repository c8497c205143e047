import MyLite.Library.Machine
import MyLite.Numeric.UnsignedLiteral

/-! The diagnostics area of a connection: the conditions that a statement raises, and what SHOW
WARNINGS, SHOW ERRORS and the counting system variables say of the statement before. -/

namespace MyLite.DiagnosticsArea

def cText (text : String) : List UInt8 := text.toList.map fun letter => UInt8.ofNat letter.toNat

def sizeMax : Nat := 18446744073709551615

/-- `MYLITE_SESSION_MAX_ERROR_COUNT_MAX_VALUE`. -/
def maxErrorCountMaxValue : Nat := 65535

inductive Level where
  | error
  | warning
  | note
  deriving DecidableEq, Repr

/-- The texts that a record has room for. -/
structure Record where
  level : Level
  code : Int
  sqlstate : List UInt8
  message : List UInt8
  sqlstateFits : sqlstate.length = 5
  messageFits : message.length ≤ 255
  deriving DecidableEq, Repr

def misuseSqlstate : List UInt8 := cText "HY000"

def setSqlstate (sqlstate : List UInt8) : List UInt8 :=
  if sqlstate.length = 5 then sqlstate else misuseSqlstate

theorem setSqlstate_length (sqlstate : List UInt8) : (setSqlstate sqlstate).length = 5 := by
  unfold setSqlstate
  split
  · assumption
  · decide

/-- `copy_text` into the message buffer. -/
def copyText (source : List UInt8) : List UInt8 := source.take 255

def setRecord (level : Level) (code : Int) (sqlstate message : List UInt8) : Record where
  level := level
  code := code
  sqlstate := setSqlstate sqlstate
  message := copyText message
  sqlstateFits := setSqlstate_length sqlstate
  messageFits := List.length_take_le 255 message

/-- A record keeps what it is set to from another record. -/
@[simp] theorem setRecord_self (record : Record) :
    setRecord record.level record.code record.sqlstate record.message = record := by
  obtain ⟨level, code, sqlstate, message, sqlstateFits, messageFits⟩ := record
  simp only [setRecord, setSqlstate, copyText, if_pos sqlstateFits, Record.mk.injEq, true_and]
  exact List.take_of_length_le messageFits

def codeOk : Int := 0

def okRecord : Record := setRecord .error codeOk (cText "00000") (cText "not an error")

/-- The warning count is the number of stored warnings. -/
structure Diagnostics where
  condition : Record
  warnings : List Record
  warningTotalCount : Nat
  countOnlyWarningTotalCount : Nat
  errorWarningTotalCount : Nat
  maxWarningCount : Nat
  notesEnabled : Bool
  deriving DecidableEq, Repr

namespace Diagnostics

def init : Diagnostics where
  condition := okRecord
  warnings := []
  warningTotalCount := 0
  countOnlyWarningTotalCount := 0
  errorWarningTotalCount := 0
  maxWarningCount := sizeMax
  notesEnabled := true

def clearCondition (diagnostics : Diagnostics) : Diagnostics :=
  { diagnostics with condition := okRecord }

def reset (diagnostics : Diagnostics) : Diagnostics :=
  { diagnostics.clearCondition with
    warnings := []
    warningTotalCount := 0
    countOnlyWarningTotalCount := 0
    errorWarningTotalCount := 0 }

def setError (diagnostics : Diagnostics) (code : Int) (sqlstate message : List UInt8) :
    Diagnostics :=
  { diagnostics with condition := setRecord .error code sqlstate message }

/-- A condition counts also when there is no room to store it. -/
def appendWarningWithLevel (diagnostics : Diagnostics) (level : Level) (code : Int)
    (sqlstate message : List UInt8) : Diagnostics :=
  let counted := { diagnostics with
    warningTotalCount := diagnostics.warningTotalCount + 1
    errorWarningTotalCount :=
      if level = .error then diagnostics.errorWarningTotalCount + 1
      else diagnostics.errorWarningTotalCount }
  if counted.warnings.length ≥ counted.maxWarningCount then counted
  else { counted with warnings := counted.warnings ++ [setRecord level code sqlstate message] }

def appendWarning (diagnostics : Diagnostics) (code : Int) (sqlstate message : List UInt8) :
    Diagnostics :=
  diagnostics.appendWarningWithLevel .warning code sqlstate message

def appendError (diagnostics : Diagnostics) (code : Int) (sqlstate message : List UInt8) :
    Diagnostics :=
  diagnostics.appendWarningWithLevel .error code sqlstate message

def appendNote (diagnostics : Diagnostics) (code : Int) (sqlstate message : List UInt8) :
    Diagnostics :=
  if !diagnostics.notesEnabled then diagnostics
  else diagnostics.appendWarningWithLevel .note code sqlstate message

def incrementCountOnlyWarningTotalCount (diagnostics : Diagnostics) (count : Nat) : Diagnostics :=
  { diagnostics with
    warningTotalCount := diagnostics.warningTotalCount + count
    countOnlyWarningTotalCount := diagnostics.countOnlyWarningTotalCount + count }

/-- What `mylite_diagnostics_replace` puts in place of the destination. -/
def replace (source : Diagnostics) : Diagnostics :=
  let appended := source.warnings.foldl
    (fun copy warning =>
      copy.appendWarningWithLevel warning.level warning.code warning.sqlstate warning.message)
    { init with condition := source.condition }
  let restored := { appended with condition := source.condition }
  let cleared := if source.maxWarningCount = 0 then restored.clearCondition else restored
  { cleared with
    warningTotalCount := source.warningTotalCount
    countOnlyWarningTotalCount := source.countOnlyWarningTotalCount
    errorWarningTotalCount := source.errorWarningTotalCount
    maxWarningCount := source.maxWarningCount
    notesEnabled := source.notesEnabled }

def errcode (diagnostics : Diagnostics) : Int := diagnostics.condition.code

def errmsg (diagnostics : Diagnostics) : List UInt8 :=
  if diagnostics.condition.message.isEmpty then cText "not an error"
  else diagnostics.condition.message

def showWarningTotalCount (diagnostics : Diagnostics) : Nat :=
  if diagnostics.warningTotalCount < diagnostics.countOnlyWarningTotalCount then 0
  else diagnostics.warningTotalCount - diagnostics.countOnlyWarningTotalCount

def hasErrorCondition (diagnostics : Diagnostics) : Bool := diagnostics.errcode ≠ codeOk

/-- `previous_diagnostics_condition_count`. -/
def conditionCount (diagnostics : Diagnostics) : Nat :=
  if diagnostics.hasErrorCondition then 1 else 0

/-- `previous_diagnostics_error_count`. -/
def errorCount (diagnostics : Diagnostics) : Nat :=
  if diagnostics.hasErrorCondition then diagnostics.errorWarningTotalCount + 1
  else diagnostics.errorWarningTotalCount

/-- `diagnostics_count_system_variable_value` for `@@warning_count`. -/
def warningCountVariable (diagnostics : Diagnostics) : Nat :=
  diagnostics.conditionCount + diagnostics.warningTotalCount

end Diagnostics

/-! The rows of a diagnostics SHOW statement. -/

/-- The planned LIMIT of a diagnostics SHOW statement. -/
structure ShowLimit where
  hasLimit : Bool
  rowCount : Nat
  hasOffset : Bool
  offset : Nat
  deriving DecidableEq, Repr

inductive LimitLiteral where
  | integer (text : List UInt8)
  | other
  deriving DecidableEq, Repr

structure LimitClause where
  rowCount : LimitLiteral
  offset : Option LimitLiteral
  deriving DecidableEq, Repr

inductive LimitError where
  | notUnsignedInteger
  | outOfRange
  deriving DecidableEq, Repr

def mysqlErrorParse : Int := 1064

def LimitError.message : LimitError → List UInt8
  | .notUnsignedInteger =>
    cText "diagnostics SHOW supports only unsigned decimal integer LIMIT literals"
  | .outOfRange => cText "LIMIT literal is outside the supported range"

def convertDiagnosticsShowLimitIntegerLiteral : LimitLiteral → Except LimitError Nat
  | .other => .error .notUnsignedInteger
  | .integer text =>
    match UnsignedLiteral.parseUnsignedIntegerLiteral text with
    | none => .error .outOfRange
    | some value => .ok value

def planDiagnosticsShowLimit : Option LimitClause → Except LimitError ShowLimit
  | none => .ok ⟨false, sizeMax, false, 0⟩
  | some clause => do
    let rowCount ← convertDiagnosticsShowLimitIntegerLiteral clause.rowCount
    match clause.offset with
    | none => pure ⟨true, rowCount, false, 0⟩
    | some literal =>
      let offset ← convertDiagnosticsShowLimitIntegerLiteral literal
      pure ⟨true, rowCount, true, offset⟩

/-- A row of SHOW WARNINGS and SHOW ERRORS. -/
structure Row where
  level : Level
  code : Int
  message : List UInt8
  deriving DecidableEq, Repr

def showDiagnosticsRow (level : Level) (record : Record) : Row :=
  ⟨level, record.code, record.message⟩

def ShowLimit.startIndex (limit : ShowLimit) : Nat := if limit.hasOffset then limit.offset else 0

def ShowLimit.rowLimit (limit : ShowLimit) : Nat :=
  if limit.hasLimit then limit.rowCount else sizeMax

/-- The row that one round of `append_show_diagnostics_rows` appends. -/
def showDiagnosticsRowAt (diagnostics : Diagnostics) (index : Nat) : Option Row :=
  match diagnostics.warnings[index]? with
  | some warning => some (showDiagnosticsRow warning.level warning)
  | none =>
    if diagnostics.conditionCount ≠ 0 then
      some (showDiagnosticsRow .error diagnostics.condition)
    else none

/-- The loop of `append_show_diagnostics_rows`, with `remaining` conditions left. -/
def showDiagnosticsRowsFrom (diagnostics : Diagnostics) (rowCount index emittedCount : Nat) :
    Nat → List Row
  | 0 => []
  | remaining + 1 =>
    if emittedCount < rowCount then
      (showDiagnosticsRowAt diagnostics index).toList ++
        showDiagnosticsRowsFrom diagnostics rowCount (index + 1) (emittedCount + 1) remaining
    else []

/-- `append_show_diagnostics_rows`. -/
def appendShowDiagnosticsRows (diagnostics : Diagnostics) (limit : ShowLimit) : List Row :=
  let totalCount := diagnostics.conditionCount + diagnostics.warnings.length
  showDiagnosticsRowsFrom diagnostics limit.rowLimit limit.startIndex 0
    (totalCount - limit.startIndex)

/-- The loop of `append_show_errors_rows`; the rows, and the counters it ends with. -/
def showErrorsRowsFrom (startIndex rowCount : Nat) :
    Nat → Nat → List Record → List Row × Nat × Nat
  | errorIndex, emittedCount, [] => ([], errorIndex, emittedCount)
  | errorIndex, emittedCount, record :: rest =>
    if record.level ≠ .error then
      showErrorsRowsFrom startIndex rowCount errorIndex emittedCount rest
    else if errorIndex ≥ startIndex ∧ emittedCount < rowCount then
      let later := showErrorsRowsFrom startIndex rowCount (errorIndex + 1) (emittedCount + 1) rest
      (showDiagnosticsRow .error record :: later.1, later.2)
    else showErrorsRowsFrom startIndex rowCount (errorIndex + 1) emittedCount rest

/-- `append_show_errors_rows`. -/
def appendShowErrorsRows (diagnostics : Diagnostics) (limit : ShowLimit) : List Row :=
  if limit.rowLimit = 0 then []
  else
    let (rows, errorIndex, emittedCount) :=
      showErrorsRowsFrom limit.startIndex limit.rowLimit 0 0 diagnostics.warnings
    if diagnostics.hasErrorCondition ∧ errorIndex ≥ limit.startIndex ∧
        emittedCount < limit.rowLimit then
      rows ++ [showDiagnosticsRow .error diagnostics.condition]
    else rows

/-! Statements. -/

/-- The session variables `max_error_count` and `sql_notes`. -/
structure Settings where
  maxErrorCount : Nat
  sqlNotes : Bool
  bounded : maxErrorCount ≤ maxErrorCountMaxValue
  deriving DecidableEq, Repr

def Settings.default : Settings := ⟨1024, true, by decide⟩

structure Connection where
  diagnostics : Diagnostics
  previousDiagnostics : Diagnostics
  settings : Settings
  deriving DecidableEq, Repr

def Connection.opened : Connection := ⟨.init, .init, .default⟩

/-- What a statement does with the diagnostics while it runs. -/
inductive Action where
  | warning (code : Int) (sqlstate message : List UInt8)
  | error (code : Int) (sqlstate message : List UInt8)
  | note (code : Int) (sqlstate message : List UInt8)
  | countOnly (count : Nat)
  | setError (code : Int) (sqlstate message : List UInt8)
  | clearCondition
  | readWarningCount
  | readErrorCount
  deriving DecidableEq, Repr

/-- A failing return code. -/
inductive Failure where
  | error
  | outOfMemory
  | misuse
  deriving DecidableEq, Repr

namespace Connection

/-- `system_variable_count_diagnostics`. -/
def countDiagnostics (connection : Connection) : Diagnostics :=
  if connection.diagnostics.errcode ≠ codeOk ∨ connection.diagnostics.warningTotalCount > 0 then
    connection.diagnostics
  else connection.previousDiagnostics

def act (connection : Connection) : Action → Connection × Option Nat
  | .warning code sqlstate message =>
    ({ connection with
        diagnostics := connection.diagnostics.appendWarning code sqlstate message }, none)
  | .error code sqlstate message =>
    ({ connection with
        diagnostics := connection.diagnostics.appendError code sqlstate message }, none)
  | .note code sqlstate message =>
    ({ connection with
        diagnostics := connection.diagnostics.appendNote code sqlstate message }, none)
  | .countOnly count =>
    ({ connection with
        diagnostics := connection.diagnostics.incrementCountOnlyWarningTotalCount count }, none)
  | .setError code sqlstate message =>
    ({ connection with
        diagnostics := connection.diagnostics.setError code sqlstate message }, none)
  | .clearCondition =>
    ({ connection with diagnostics := connection.diagnostics.clearCondition }, none)
  | .readWarningCount => (connection, some connection.countDiagnostics.warningCountVariable)
  | .readErrorCount => (connection, some connection.countDiagnostics.errorCount)

/-- `mylite_statement_context_begin`. -/
def beginStatement (connection : Connection) : Connection :=
  { connection with
    diagnostics := { connection.diagnostics.reset with
      maxWarningCount := connection.settings.maxErrorCount
      notesEnabled := connection.settings.sqlNotes } }

/-- `set_internal_error_if_clear`, for a statement. -/
def setInternalErrorIfClear (diagnostics : Diagnostics) (failure : Failure) : Diagnostics :=
  if diagnostics.errcode ≠ codeOk then diagnostics
  else match failure with
    | .outOfMemory => diagnostics.setError 7 (cText "HY001") (cText "out of memory")
    | .misuse =>
      diagnostics.setError 21 (cText "HY000") (cText "bad parameter or other API misuse")
    | .error => diagnostics.setError 1105 (cText "HY000") (cText "statement execution failed")

/-- `mylite_statement_completion_capture` and `mylite_statement_completion_publish`. -/
def publish (connection : Connection) (preservesDiagnosticsSnapshot : Bool) : Connection :=
  let captured := connection.diagnostics.replace
  if preservesDiagnosticsSnapshot then connection
  else { connection with previousDiagnostics := captured.replace }

def finishFailedStatement (connection : Connection) (failure : Failure) : Connection :=
  publish { connection with
    diagnostics := setInternalErrorIfClear connection.diagnostics failure } false

def finishCompletedStatement (connection : Connection) (preserve : Bool) : Connection :=
  if preserve then publish connection true
  else publish { connection with diagnostics := connection.diagnostics.clearCondition } false

end Connection

/-- What a statement goes through: its transaction boundary, the attempts that ask for a new
plan, the last attempt with the end of its transaction, and the settings it leaves. -/
structure Program where
  boundary : List Action
  replanned : List (List Action)
  attempt : List Action
  failure : Option Failure
  settings : Settings
  deriving DecidableEq, Repr

inductive Statement where
  | showWarnings (limit : Option LimitClause)
  | showCountWarnings
  | showErrors (limit : Option LimitClause)
  | showCountErrors
  | other (program : Program)
  deriving DecidableEq, Repr

inductive Call where
  | execute (statement : Statement)
  /-- A command refused before its statement begins. -/
  | refused (code : Int) (sqlstate message : List UInt8)
  | errcode
  | errmsg
  deriving DecidableEq, Repr

inductive Answer where
  | rows (rows : List Row)
  | count (count : Nat)
  | completed (read : List (Option Nat))
  | failed
  | code (code : Int)
  | message (message : List UInt8)
  deriving DecidableEq, Repr

namespace Connection

/-- An attempt that asks for a new plan leaves the diagnostics it started from. -/
def replan (initial : Diagnostics) (connection : Connection) (attempt : List Action) :
    Connection :=
  { Machine.final act connection attempt with diagnostics := initial.replace }

/-- `execute_parsed_statement` up to its last attempt. -/
def planned (connection : Connection) (program : Program) : Connection :=
  let prepared := Machine.final act connection program.boundary
  let initial := prepared.diagnostics.replace
  program.replanned.foldl (replan initial) prepared

def executeOther (connection : Connection) (program : Program) : Connection × Answer :=
  let start := connection.beginStatement.planned program
  let executed := Machine.final act start program.attempt
  let settled := { executed with settings := program.settings }
  match program.failure with
  | some failure => (settled.finishFailedStatement failure, .failed)
  | none =>
    (settled.finishCompletedStatement false, .completed (Machine.run act start program.attempt))

/-- SHOW WARNINGS and SHOW ERRORS, which differ in the rows they append. -/
def executeShow (appendRows : Diagnostics → ShowLimit → List Row) (connection : Connection)
    (clause : Option LimitClause) : Connection × Answer :=
  let begun := connection.beginStatement
  match planDiagnosticsShowLimit clause with
  | .error error =>
    let failed := { begun with
      diagnostics := begun.diagnostics.setError mysqlErrorParse (cText "42000") error.message }
    (failed.finishFailedStatement .error, .failed)
  | .ok limit =>
    (begun.finishCompletedStatement true, .rows (appendRows begun.previousDiagnostics limit))

/-- SHOW COUNT(*) WARNINGS and SHOW COUNT(*) ERRORS. -/
def executeShowCount (count : Diagnostics → Nat) (connection : Connection) :
    Connection × Answer :=
  let begun := connection.beginStatement
  (begun.finishCompletedStatement true, .count (count begun.previousDiagnostics))

/-- `append_show_count_warnings_row`. -/
def showWarningCount (diagnostics : Diagnostics) : Nat :=
  diagnostics.conditionCount + diagnostics.showWarningTotalCount

/-- `mylite_execute`. -/
def execute (connection : Connection) : Statement → Connection × Answer
  | .showWarnings limit => connection.executeShow appendShowDiagnosticsRows limit
  | .showCountWarnings => connection.executeShowCount showWarningCount
  | .showErrors limit => connection.executeShow appendShowErrorsRows limit
  | .showCountErrors => connection.executeShowCount Diagnostics.errorCount
  | .other program => connection.executeOther program

def call (connection : Connection) : Call → Connection × Answer
  | .execute statement => connection.execute statement
  | .refused code sqlstate message =>
    ({ connection with
        diagnostics := connection.diagnostics.setError code sqlstate message }, .failed)
  | .errcode => (connection, .code connection.diagnostics.errcode)
  | .errmsg => (connection, .message connection.diagnostics.errmsg)

end Connection

end MyLite.DiagnosticsArea
