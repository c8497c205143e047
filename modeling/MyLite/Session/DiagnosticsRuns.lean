import MyLite.Session.DiagnosticsArea

/-! The diagnostics area against all that statements raise, over whole runs of calls. -/

namespace MyLite.DiagnosticsArea

/-! What the area is for: a statement raises conditions, of which the area lists some and
counts all. -/

/-- All that a statement raises, in order, and the settings it begins with. -/
structure Transcript where
  limit : Nat
  notes : Bool
  raised : List Record
  countOnly : Nat
  condition : Record
  deriving DecidableEq, Repr

def Record.isError (record : Record) : Bool := record.level = .error

namespace Transcript

def begun (settings : Settings) : Transcript :=
  ⟨settings.maxErrorCount, settings.sqlNotes, [], 0, okRecord⟩

/-- The error that a statement ends with. -/
def failure (transcript : Transcript) : List Record :=
  if transcript.condition.code = codeOk then [] else [transcript.condition]

def listed (transcript : Transcript) : List Record :=
  transcript.raised.take transcript.limit ++ transcript.failure

def warningCount (transcript : Transcript) : Nat :=
  transcript.failure.length + transcript.raised.length

def errorCount (transcript : Transcript) : Nat :=
  transcript.failure.length + transcript.raised.countP Record.isError

def raise (transcript : Transcript) (record : Record) : Transcript :=
  { transcript with raised := transcript.raised ++ [record] }

/-- An area that has no room for conditions has none for the error. -/
def retained (transcript : Transcript) : Transcript :=
  if transcript.limit = 0 then { transcript with condition := okRecord } else transcript

def record (transcript : Transcript) : Action → Transcript
  | .warning code sqlstate message => transcript.raise (setRecord .warning code sqlstate message)
  | .error code sqlstate message => transcript.raise (setRecord .error code sqlstate message)
  | .note code sqlstate message =>
    if transcript.notes then transcript.raise (setRecord .note code sqlstate message)
    else transcript
  | .countOnly count => { transcript with countOnly := transcript.countOnly + count }
  | .setError code sqlstate message =>
    { transcript with condition := setRecord .error code sqlstate message }
  | .clearCondition => { transcript with condition := okRecord }
  | .readWarningCount => transcript
  | .readErrorCount => transcript

/-- A statement that has raised nothing reads the counts of the one before. -/
def readable (previous transcript : Transcript) : Transcript :=
  if transcript.warningCount + transcript.countOnly = 0 then previous else transcript

def act (previous transcript : Transcript) (action : Action) : Transcript × Option Nat :=
  (transcript.record action, match action with
    | .readWarningCount =>
      some ((readable previous transcript).warningCount +
        (readable previous transcript).countOnly)
    | .readErrorCount => some (readable previous transcript).errorCount
    | _ => none)

def internalError : Failure → Record
  | .outOfMemory => setRecord .error 7 (cText "HY001") (cText "out of memory")
  | .misuse => setRecord .error 21 (cText "HY000") (cText "bad parameter or other API misuse")
  | .error => setRecord .error 1105 (cText "HY000") (cText "statement execution failed")

/-- A statement ends without an error, or with one. -/
def ended (transcript : Transcript) : Option Failure → Transcript
  | none => { transcript with condition := okRecord }
  | some failure =>
    if transcript.condition.code = codeOk then
      { transcript with condition := internalError failure }
    else transcript

end Transcript

/-- The transcript that the last attempt starts from: earlier attempts leave nothing. -/
def Program.start (program : Program) (settings : Settings) : Transcript :=
  let boundary := program.boundary.foldl Transcript.record (.begun settings)
  if program.replanned = [] then boundary else boundary.retained

def Program.transcript (program : Program) (settings : Settings) : Transcript :=
  (program.attempt.foldl Transcript.record (program.start settings)).ended program.failure

/-- The rows that a LIMIT leaves. -/
def ShowLimit.window {α : Type} (limit : ShowLimit) (rows : List α) : List α :=
  let later := if limit.hasOffset then rows.drop limit.offset else rows
  if limit.hasLimit then later.take limit.rowCount else later

def recordRow (record : Record) : Row := showDiagnosticsRow record.level record

/-- The statement that runs or ran last, and the one that SHOW statements tell of. -/
structure Ledger where
  settings : Settings
  current : Transcript
  published : Transcript
  deriving DecidableEq, Repr

namespace Ledger

def opened : Ledger :=
  ⟨.default, ⟨sizeMax, true, [], 0, okRecord⟩, ⟨sizeMax, true, [], 0, okRecord⟩⟩

def executeShow (rows : Transcript → List Record) (ledger : Ledger)
    (clause : Option LimitClause) : Ledger × Answer :=
  match planDiagnosticsShowLimit clause with
  | .error error =>
    let failed := { Transcript.begun ledger.settings with
      condition := setRecord .error mysqlErrorParse (cText "42000") error.message }
    ({ ledger with current := failed, published := failed.retained }, .failed)
  | .ok limit =>
    ({ ledger with current := .begun ledger.settings },
      .rows (limit.window ((rows ledger.published).map recordRow)))

def executeShowCount (count : Transcript → Nat) (ledger : Ledger) : Ledger × Answer :=
  ({ ledger with current := .begun ledger.settings }, .count (count ledger.published))

def executeOther (ledger : Ledger) (program : Program) : Ledger × Answer :=
  let ended := program.transcript ledger.settings
  ({ settings := program.settings, current := ended, published := ended.retained },
    if program.failure.isSome then .failed
    else .completed (Machine.run (Transcript.act ledger.published)
      (program.start ledger.settings) program.attempt))

def execute (ledger : Ledger) : Statement → Ledger × Answer
  | .showWarnings clause => ledger.executeShow Transcript.listed clause
  | .showCountWarnings => ledger.executeShowCount Transcript.warningCount
  | .showErrors clause =>
    ledger.executeShow (fun transcript => transcript.listed.filter Record.isError) clause
  | .showCountErrors => ledger.executeShowCount Transcript.errorCount
  | .other program => ledger.executeOther program

def call (ledger : Ledger) : Call → Ledger × Answer
  | .execute statement => ledger.execute statement
  | .refused code sqlstate message =>
    ({ ledger with current := { ledger.current with
        condition := setRecord .error code sqlstate message } }, .failed)
  | .errcode => (ledger, .code ledger.current.condition.code)
  | .errmsg =>
    (ledger, .message (if ledger.current.condition.message.isEmpty then cText "not an error"
      else ledger.current.condition.message))

end Ledger

/-! One action. -/

/-- What an area holds of all that a statement raised. -/
structure Describes (diagnostics : Diagnostics) (transcript : Transcript) : Prop where
  limit : diagnostics.maxWarningCount = transcript.limit
  notes : diagnostics.notesEnabled = transcript.notes
  condition : diagnostics.condition = transcript.condition
  conditionLevel : transcript.condition.level = .error
  warnings : diagnostics.warnings = transcript.raised.take transcript.limit
  total : diagnostics.warningTotalCount = transcript.raised.length + transcript.countOnly
  countOnly : diagnostics.countOnlyWarningTotalCount = transcript.countOnly
  errors : diagnostics.errorWarningTotalCount = transcript.raised.countP Record.isError
  fits : diagnostics.warnings.length ≤ maxErrorCountMaxValue

variable {diagnostics : Diagnostics} {transcript : Transcript}

/-- A list that is cut at a limit grows while there is room. -/
theorem take_concat {α : Type} (limit : Nat) (items : List α) (item : α) :
    (items ++ [item]).take limit =
      if limit ≤ (items.take limit).length then items.take limit
      else items.take limit ++ [item] := by
  have cut : (items.take limit).length = min limit items.length := List.length_take
  split
  · exact List.take_append_of_le_length (by omega)
  · rw [List.take_of_length_le (by simp only [List.length_append, List.length_singleton]; omega),
      List.take_of_length_le (by omega)]

theorem describes_append (describes : Describes diagnostics transcript)
    (bounded : transcript.limit ≤ maxErrorCountMaxValue) (level : Level) (code : Int)
    (sqlstate message : List UInt8) :
    Describes (diagnostics.appendWarningWithLevel level code sqlstate message)
      (transcript.raise (setRecord level code sqlstate message)) := by
  obtain ⟨limit, notes, condition, conditionLevel, warnings, total, countOnly, errors, fits⟩ :=
    describes
  have grown := take_concat transcript.limit transcript.raised
    (setRecord level code sqlstate message)
  have errorTotal : (if level = .error then diagnostics.errorWarningTotalCount + 1
      else diagnostics.errorWarningTotalCount) =
        (transcript.raised ++ [setRecord level code sqlstate message]).countP Record.isError := by
    simp only [List.countP_append, List.countP_singleton, Record.isError, setRecord, errors,
      decide_eq_true_eq]
    split <;> rfl
  have wholeTotal : diagnostics.warningTotalCount + 1 =
      (transcript.raised ++ [setRecord level code sqlstate message]).length +
        transcript.countOnly := by
    simp only [total, List.length_append, List.length_singleton]
    omega
  unfold Diagnostics.appendWarningWithLevel
  dsimp only
  rw [limit, warnings]
  rw [warnings] at fits
  split
  · rename_i full
    rw [if_pos full] at grown
    exact ⟨rfl, notes, condition, conditionLevel, grown.symm, wholeTotal, countOnly, errorTotal,
      fits⟩
  · rename_i room
    rw [if_neg room] at grown
    refine ⟨rfl, notes, condition, conditionLevel, grown.symm, wholeTotal, countOnly,
      errorTotal, ?_⟩
    simp only [List.length_append, List.length_singleton]
    omega

theorem describes_setError (describes : Describes diagnostics transcript) (code : Int)
    (sqlstate message : List UInt8) :
    Describes (diagnostics.setError code sqlstate message)
      { transcript with condition := setRecord .error code sqlstate message } :=
  { describes with condition := rfl, conditionLevel := rfl }

theorem describes_clearCondition (describes : Describes diagnostics transcript) :
    Describes diagnostics.clearCondition { transcript with condition := okRecord } :=
  { describes with condition := rfl, conditionLevel := rfl }

variable {connection : Connection} {previous : Transcript}

/-- One action keeps the area and the transcript together. -/
theorem describes_act (describes : Describes connection.diagnostics transcript)
    (bounded : transcript.limit ≤ maxErrorCountMaxValue) (action : Action) :
    Describes (connection.act action).1.diagnostics (transcript.record action) := by
  cases action with
  | warning code sqlstate message => exact describes_append describes bounded _ _ _ _
  | error code sqlstate message => exact describes_append describes bounded _ _ _ _
  | note code sqlstate message =>
    simp only [Connection.act, Transcript.record, Diagnostics.appendNote, describes.notes]
    cases transcript.notes with
    | false => exact describes
    | true => exact describes_append describes bounded _ _ _ _
  | countOnly count =>
    refine { describes with total := ?_, countOnly := ?_ }
    · simp only [Connection.act, Diagnostics.incrementCountOnlyWarningTotalCount,
        Transcript.record, describes.total]
      omega
    · simp only [Connection.act, Diagnostics.incrementCountOnlyWarningTotalCount,
        Transcript.record, describes.countOnly]
  | setError code sqlstate message => exact describes_setError describes _ _ _
  | clearCondition => exact describes_clearCondition describes
  | readWarningCount => exact describes
  | readErrorCount => exact describes

theorem record_limit (transcript : Transcript) (action : Action) :
    (transcript.record action).limit = transcript.limit := by
  cases action with
  | note code sqlstate message =>
    simp only [Transcript.record]
    split <;> rfl
  | _ => rfl

theorem act_frame (connection : Connection) (action : Action) :
    (connection.act action).1.previousDiagnostics = connection.previousDiagnostics ∧
      (connection.act action).1.settings = connection.settings := by
  cases action <;> exact ⟨rfl, rfl⟩

/-! What the area counts. -/

theorem hasErrorCondition_eq (describes : Describes diagnostics transcript) :
    diagnostics.hasErrorCondition = !transcript.failure.isEmpty := by
  unfold Diagnostics.hasErrorCondition Diagnostics.errcode Transcript.failure
  rw [describes.condition]
  split <;> simp_all

theorem conditionCount_eq (describes : Describes diagnostics transcript) :
    diagnostics.conditionCount = transcript.failure.length := by
  unfold Diagnostics.conditionCount
  rw [hasErrorCondition_eq describes]
  unfold Transcript.failure
  split <;> rfl

theorem errorCount_eq (describes : Describes diagnostics transcript) :
    diagnostics.errorCount = transcript.errorCount := by
  unfold Diagnostics.errorCount Transcript.errorCount
  rw [hasErrorCondition_eq describes, describes.errors]
  unfold Transcript.failure
  split
  · simp
  · simp [Nat.add_comm]

theorem warningCountVariable_eq (describes : Describes diagnostics transcript) :
    diagnostics.warningCountVariable = transcript.warningCount + transcript.countOnly := by
  simp only [Diagnostics.warningCountVariable, conditionCount_eq describes, describes.total,
    Transcript.warningCount]
  omega

theorem showWarningCount_eq (describes : Describes diagnostics transcript) :
    Connection.showWarningCount diagnostics = transcript.warningCount := by
  simp only [Connection.showWarningCount, Diagnostics.showWarningTotalCount,
    conditionCount_eq describes, describes.total, describes.countOnly, Transcript.warningCount]
  split <;> omega

/-! The copy of an area. -/

theorem appended_warnings (records : List Record) (copy : Diagnostics)
    (unbounded : copy.maxWarningCount = sizeMax)
    (room : copy.warnings.length + records.length ≤ sizeMax) :
    (records.foldl (fun copy warning =>
      copy.appendWarningWithLevel warning.level warning.code warning.sqlstate warning.message)
      copy).warnings = copy.warnings ++ records := by
  induction records generalizing copy with
  | nil => exact (List.append_nil _).symm
  | cons warning rest ih =>
    rw [List.length_cons] at room
    have notFull : ¬ (copy.warnings.length ≥ copy.maxWarningCount) := by omega
    have grown : (copy.appendWarningWithLevel warning.level warning.code warning.sqlstate
        warning.message).warnings = copy.warnings ++ [warning] := by
      simp only [Diagnostics.appendWarningWithLevel, if_neg notFull, setRecord_self]
    have still : (copy.appendWarningWithLevel warning.level warning.code warning.sqlstate
        warning.message).maxWarningCount = sizeMax := by
      simp only [Diagnostics.appendWarningWithLevel, if_neg notFull]
      exact unbounded
    rw [List.foldl_cons, ih _ still, grown, List.append_assoc, List.singleton_append]
    rw [grown, List.length_append, List.length_singleton]
    omega

/-- A copy holds all that the area holds, but no error where there is no room for one. -/
theorem replace_eq (fits : diagnostics.warnings.length ≤ maxErrorCountMaxValue) :
    diagnostics.replace =
      if diagnostics.maxWarningCount = 0 then diagnostics.clearCondition else diagnostics := by
  have room : ([] : List Record).length + diagnostics.warnings.length ≤ sizeMax := by
    simp only [maxErrorCountMaxValue, sizeMax, List.length_nil] at fits ⊢
    omega
  have copied := appended_warnings diagnostics.warnings
    { Diagnostics.init with condition := diagnostics.condition } rfl room
  simp only [Diagnostics.init, List.nil_append] at copied
  unfold Diagnostics.replace
  simp only [Diagnostics.clearCondition, Diagnostics.init]
  split
  · simp only [copied]
  · simp only [copied]

theorem describes_replace (describes : Describes diagnostics transcript) :
    Describes diagnostics.replace transcript.retained := by
  rw [replace_eq describes.fits, describes.limit, Transcript.retained]
  split
  · exact describes_clearCondition describes
  · exact describes

theorem retained_retained (transcript : Transcript) :
    transcript.retained.retained = transcript.retained := by
  by_cases empty : transcript.limit = 0
  · simp only [Transcript.retained, if_pos empty]
  · simp only [Transcript.retained, if_neg empty]

theorem retained_limit (transcript : Transcript) :
    transcript.retained.limit = transcript.limit := by
  unfold Transcript.retained
  split <;> rfl

/-! One attempt. -/

/-- A statement runs: its area has the limit that the session set, and the area of the
statement before it stays. -/
structure Runs (connection : Connection) (transcript : Transcript) (before : Connection)
    (previous : Transcript) : Prop where
  current : Describes connection.diagnostics transcript
  bounded : transcript.limit ≤ maxErrorCountMaxValue
  published : Describes before.previousDiagnostics previous
  previousKept : connection.previousDiagnostics = before.previousDiagnostics
  settingsKept : connection.settings = before.settings

variable {before : Connection}

theorem runs_act (runs : Runs connection transcript before previous) (action : Action) :
    Runs (connection.act action).1 (Transcript.act previous transcript action).1 before
      previous := by
  obtain ⟨previousSame, settingsSame⟩ := act_frame connection action
  refine ⟨describes_act runs.current runs.bounded action, ?_, runs.published, ?_, ?_⟩
  · exact (record_limit transcript action).symm ▸ runs.bounded
  · exact previousSame.trans runs.previousKept
  · exact settingsSame.trans runs.settingsKept

theorem readable_describes (runs : Runs connection transcript before previous) :
    Describes connection.countDiagnostics (Transcript.readable previous transcript) := by
  have silent : ¬ (connection.diagnostics.errcode ≠ codeOk ∨
      connection.diagnostics.warningTotalCount > 0) ↔
        transcript.warningCount + transcript.countOnly = 0 := by
    rw [Diagnostics.errcode, runs.current.condition, runs.current.total]
    unfold Transcript.warningCount Transcript.failure
    split <;> simp_all
  unfold Connection.countDiagnostics Transcript.readable
  split
  · rename_i spoken
    rw [if_neg fun zero => silent.mpr zero spoken]
    exact runs.current
  · rename_i quiet
    rw [if_pos (silent.mp quiet), runs.previousKept]
    exact runs.published

theorem runs_answer (runs : Runs connection transcript before previous) (action : Action) :
    (connection.act action).2 = (Transcript.act previous transcript action).2 := by
  have readable := readable_describes runs
  cases action with
  | readWarningCount => exact congrArg some (warningCountVariable_eq readable)
  | readErrorCount => exact congrArg some (errorCount_eq readable)
  | _ => rfl

theorem act_final (previous transcript : Transcript) (actions : List Action) :
    Machine.final (Transcript.act previous) transcript actions =
      actions.foldl Transcript.record transcript := by
  induction actions generalizing transcript with
  | nil => rfl
  | cons action rest ih => exact ih (transcript.record action)

theorem runs_attempt (runs : Runs connection transcript before previous)
    (attempt : List Action) :
    Runs (Machine.final Connection.act connection attempt)
      (attempt.foldl Transcript.record transcript) before previous := by
  rw [← act_final previous]
  exact Machine.final_related
    (fun connection transcript => Runs connection transcript before previous)
    (fun _ _ action runs => runs_act runs action) runs

theorem attempt_answers (runs : Runs connection transcript before previous)
    (attempt : List Action) :
    Machine.run Connection.act connection attempt =
      Machine.run (Transcript.act previous) transcript attempt := by
  induction attempt generalizing connection transcript with
  | nil => rfl
  | cons action rest ih =>
    rw [Machine.run, Machine.run, runs_answer runs action, ih (runs_act runs action)]

/-! The rows of the SHOW statements. -/

theorem failure_eq (describes : Describes diagnostics transcript) :
    transcript.failure =
      if diagnostics.hasErrorCondition then [diagnostics.condition] else [] := by
  rw [hasErrorCondition_eq describes, describes.condition]
  unfold Transcript.failure
  split <;> rfl

theorem failure_level (conditionLevel : transcript.condition.level = .error) {record : Record}
    (member : record ∈ transcript.failure) : record.level = .error := by
  unfold Transcript.failure at member
  split at member
  · cases member
  · exact List.mem_singleton.mp member ▸ conditionLevel

theorem listed_eq (describes : Describes diagnostics transcript) :
    transcript.listed = diagnostics.warnings ++ transcript.failure := by
  rw [describes.warnings]
  rfl

/-- The row at an index, from the stored warnings or from the error. -/
theorem listed_row (describes : Describes diagnostics transcript) {index : Nat}
    (inside : index < transcript.listed.length) :
    showDiagnosticsRowAt diagnostics index =
      some (recordRow (transcript.listed.get ⟨index, inside⟩)) := by
  have length : transcript.listed.length =
      diagnostics.warnings.length + transcript.failure.length := by
    rw [listed_eq describes, List.length_append]
  have found : transcript.listed[index]? = some (transcript.listed.get ⟨index, inside⟩) :=
    List.getElem?_eq_getElem inside
  generalize transcript.listed.get ⟨index, inside⟩ = record at found ⊢
  rw [listed_eq describes] at found
  by_cases stored : index < diagnostics.warnings.length
  · rw [List.getElem?_append_left stored, List.getElem?_eq_getElem stored] at found
    simp only [showDiagnosticsRowAt, List.getElem?_eq_getElem stored, recordRow,
      ← Option.some.inj found]
  · rw [List.getElem?_append_right (by omega)] at found
    have some_ : transcript.failure.length ≠ 0 := by omega
    have member := List.mem_of_getElem? found
    have level := failure_level describes.conditionLevel member
    have beyond : diagnostics.warnings[index]? = none := List.getElem?_eq_none (by omega)
    rw [failure_eq describes] at member
    simp only [showDiagnosticsRowAt, beyond, conditionCount_eq describes]
    rw [if_pos some_, recordRow, level]
    split at member
    · rw [← List.mem_singleton.mp member]
    · cases member

theorem showDiagnosticsRowsFrom_eq (describes : Describes diagnostics transcript)
    (rowCount : Nat) {index emittedCount remaining : Nat}
    (left : remaining = transcript.listed.length - index) :
    showDiagnosticsRowsFrom diagnostics rowCount index emittedCount remaining =
      ((transcript.listed.drop index).take (rowCount - emittedCount)).map recordRow := by
  induction remaining generalizing index emittedCount with
  | zero =>
    rw [List.drop_eq_nil_of_le (by omega), List.take_nil]
    rfl
  | succ remaining ih =>
    have inside : index < transcript.listed.length := by omega
    rw [showDiagnosticsRowsFrom, List.drop_eq_getElem_cons inside]
    split
    · have more : rowCount - emittedCount = rowCount - (emittedCount + 1) + 1 := by omega
      rw [listed_row describes inside, ih (by omega), more, List.take_succ_cons]
      rfl
    · have none_ : rowCount - emittedCount = 0 := by omega
      rw [none_, List.take_zero]
      rfl

theorem listed_length_le (describes : Describes diagnostics transcript) :
    transcript.listed.length ≤ sizeMax := by
  have fits := describes.fits
  have short : transcript.failure.length ≤ 1 := by
    unfold Transcript.failure
    split
    · exact Nat.zero_le 1
    · exact Nat.le_refl 1
  rw [listed_eq describes, List.length_append]
  simp only [maxErrorCountMaxValue, sizeMax] at fits ⊢
  omega

/-- A list that is short enough is not cut where no LIMIT stands. -/
theorem window_eq {α : Type} (limit : ShowLimit) {rows : List α} (short : rows.length ≤ sizeMax) :
    (rows.drop limit.startIndex).take limit.rowLimit = limit.window rows := by
  have whole : ((rows.drop limit.startIndex).take sizeMax) = rows.drop limit.startIndex :=
    List.take_of_length_le (by rw [List.length_drop]; omega)
  unfold ShowLimit.window ShowLimit.rowLimit
  cases limit.hasLimit with
  | false =>
    simp only [Bool.false_eq_true, if_false]
    rw [whole, ShowLimit.startIndex]
    split <;> rfl
  | true =>
    simp only [if_true, ShowLimit.startIndex]
    split <;> rfl

theorem window_map {α β : Type} (limit : ShowLimit) (row : α → β) (items : List α) :
    (limit.window items).map row = limit.window (items.map row) := by
  unfold ShowLimit.window
  dsimp only
  split <;> split <;> simp only [List.map_take, List.map_drop]

theorem appendShowDiagnosticsRows_eq (describes : Describes diagnostics transcript)
    (limit : ShowLimit) :
    appendShowDiagnosticsRows diagnostics limit =
      limit.window (transcript.listed.map recordRow) := by
  have length : diagnostics.conditionCount + diagnostics.warnings.length =
      transcript.listed.length := by
    rw [conditionCount_eq describes, listed_eq describes, List.length_append, Nat.add_comm]
  unfold appendShowDiagnosticsRows
  rw [length, showDiagnosticsRowsFrom_eq describes _ rfl, Nat.sub_zero,
    window_eq limit (listed_length_le describes), window_map]

/-- The errors among the records, from an index and while rows are left. -/
theorem showErrorsRowsFrom_eq (startIndex rowCount : Nat) (records : List Record)
    (errorIndex emittedCount : Nat) :
    let errors := records.filter Record.isError
    let taken := (errors.drop (startIndex - errorIndex)).take (rowCount - emittedCount)
    showErrorsRowsFrom startIndex rowCount errorIndex emittedCount records =
      (taken.map recordRow, errorIndex + errors.length, emittedCount + taken.length) := by
  induction records generalizing errorIndex emittedCount with
  | nil => simp [showErrorsRowsFrom]
  | cons record rest ih =>
    rw [showErrorsRowsFrom]
    by_cases isError : record.level = .error
    · have kept : (record :: rest).filter Record.isError =
          record :: rest.filter Record.isError := List.filter_cons_of_pos (decide_eq_true isError)
      rw [if_neg (not_not_intro isError), kept]
      split
      · rename_i shown
        have first : startIndex - errorIndex = 0 := by omega
        have later : startIndex - (errorIndex + 1) = 0 := by omega
        have more : rowCount - emittedCount = rowCount - (emittedCount + 1) + 1 := by omega
        simp only [ih, first, later, more, List.drop_zero, List.take_succ_cons, List.map_cons,
          List.length_cons, recordRow, isError, Prod.mk.injEq, true_and]
        omega
      · rename_i skipped
        rcases Nat.lt_or_ge errorIndex startIndex with before | reached
        · have further : startIndex - errorIndex = startIndex - (errorIndex + 1) + 1 := by omega
          simp only [ih, further, List.drop_succ_cons, List.length_cons, Prod.mk.injEq, true_and,
            and_true]
          omega
        · have full : rowCount - emittedCount = 0 := by omega
          simp only [ih, full, List.take_zero, List.length_cons, Prod.mk.injEq, true_and,
            and_true]
          omega
    · have dropped : (record :: rest).filter Record.isError = rest.filter Record.isError :=
        List.filter_cons_of_neg (by simp [Record.isError, isError])
      rw [if_pos isError, dropped]
      exact ih errorIndex emittedCount

/-- One more item is in the window when the window has come to it and has room. -/
theorem window_concat {α : Type} (start count : Nat) (items : List α) (item : α) :
    ((items ++ [item]).drop start).take count =
      if start ≤ items.length ∧ ((items.drop start).take count).length < count then
        (items.drop start).take count ++ [item]
      else (items.drop start).take count := by
  by_cases reached : start ≤ items.length
  · rw [List.drop_append_of_le_length reached, take_concat]
    by_cases full : count ≤ ((items.drop start).take count).length
    · rw [if_pos full, if_neg (by omega)]
    · rw [if_neg full, if_pos ⟨reached, by omega⟩]
  · rw [if_neg (by omega), List.drop_eq_nil_of_le (by simp; omega),
      List.drop_eq_nil_of_le (by omega)]

theorem appendShowErrorsRows_eq (describes : Describes diagnostics transcript)
    (limit : ShowLimit) :
    appendShowErrorsRows diagnostics limit =
      limit.window ((transcript.listed.filter Record.isError).map recordRow) := by
  have short : (transcript.listed.filter Record.isError).length ≤ sizeMax :=
    Nat.le_trans (List.length_filter_le _ _) (listed_length_le describes)
  have errors : transcript.listed.filter Record.isError =
      diagnostics.warnings.filter Record.isError ++ transcript.failure := by
    rw [listed_eq describes, List.filter_append]
    congr 1
    exact List.filter_eq_self.mpr fun record member =>
      decide_eq_true (failure_level describes.conditionLevel member)
  rw [← window_map, ← window_eq limit short, errors]
  unfold appendShowErrorsRows
  split
  · rename_i noRows
    rw [noRows, List.take_zero]
    rfl
  · have walked := showErrorsRowsFrom_eq limit.startIndex limit.rowLimit diagnostics.warnings 0 0
    dsimp only at walked
    rw [walked, failure_eq describes]
    simp only [Nat.sub_zero, Nat.zero_add]
    cases diagnostics.hasErrorCondition with
    | false => simp
    | true =>
      have label : showDiagnosticsRow .error diagnostics.condition =
          recordRow diagnostics.condition := by
        rw [recordRow, describes.condition, describes.conditionLevel]
      simp only [if_true, true_and, window_concat, label]
      split
      · rw [List.map_append]
        rfl
      · rfl

/-! One call. -/

/-- A connection and the ledger of what its statements raised. -/
structure Related (connection : Connection) (ledger : Ledger) : Prop where
  settings : connection.settings = ledger.settings
  current : Describes connection.diagnostics ledger.current
  published : Describes connection.previousDiagnostics ledger.published

variable {ledger : Ledger}

theorem related_opened : Related .opened .opened :=
  ⟨rfl, ⟨rfl, rfl, rfl, rfl, rfl, rfl, rfl, rfl, Nat.zero_le _⟩,
    ⟨rfl, rfl, rfl, rfl, rfl, rfl, rfl, rfl, Nat.zero_le _⟩⟩

theorem begun_runs (related : Related connection ledger) :
    Runs connection.beginStatement (.begun ledger.settings) connection ledger.published where
  current :=
    ⟨congrArg Settings.maxErrorCount related.settings, congrArg Settings.sqlNotes related.settings,
      rfl, rfl, List.take_nil.symm, rfl, rfl, rfl, Nat.zero_le _⟩
  bounded := ledger.settings.bounded
  published := related.published
  previousKept := rfl
  settingsKept := rfl

theorem replanned_runs {initial : Diagnostics} {boundary : Transcript}
    (snapshot : Describes initial boundary) (kept : boundary.retained = boundary)
    (bounded : boundary.limit ≤ maxErrorCountMaxValue) (attempts : List (List Action))
    (runs : Runs connection transcript before previous) :
    Runs (attempts.foldl (Connection.replan initial) connection)
      (if attempts = [] then transcript else boundary) before previous := by
  induction attempts generalizing connection transcript with
  | nil => exact runs
  | cons attempt rest ih =>
    have attempted := runs_attempt runs attempt
    have restored : Runs (connection.replan initial attempt) boundary before previous :=
      { attempted with
        current := by
          have copied := describes_replace snapshot
          rw [kept] at copied
          exact copied
        bounded := bounded }
    have later := ih restored
    simp only [ite_self] at later
    rw [if_neg (List.cons_ne_nil attempt rest)]
    exact later

theorem planned_runs (related : Related connection ledger) (program : Program) :
    Runs (connection.beginStatement.planned program) (program.start ledger.settings) connection
      ledger.published := by
  have prepared := runs_attempt (begun_runs related) program.boundary
  refine replanned_runs (describes_replace prepared.current) (retained_retained _) ?_
    program.replanned prepared
  rw [retained_limit]
  exact prepared.bounded

theorem setInternalErrorIfClear_describes (describes : Describes diagnostics transcript)
    (failure : Failure) :
    Describes (Connection.setInternalErrorIfClear diagnostics failure)
      (transcript.ended (some failure)) := by
  unfold Connection.setInternalErrorIfClear Transcript.ended
  rw [Diagnostics.errcode, describes.condition]
  by_cases clear : transcript.condition.code = codeOk
  · rw [if_neg (not_not_intro clear)]
    simp only [if_pos clear]
    cases failure with
    | outOfMemory => exact describes_setError describes _ _ _
    | misuse => exact describes_setError describes _ _ _
    | error => exact describes_setError describes _ _ _
  · rw [if_pos clear]
    simp only [if_neg clear]
    exact describes

theorem published_describes (describes : Describes connection.diagnostics transcript) :
    Describes (connection.publish false).previousDiagnostics transcript.retained := by
  have twice := describes_replace (describes_replace describes)
  rw [retained_retained] at twice
  exact twice

/-- A statement that fails ends with its error, which SHOW statements then tell of. -/
theorem failed_related (connection : Connection)
    (describes : Describes connection.diagnostics transcript) (failure : Failure) :
    Related (connection.finishFailedStatement failure)
      { settings := connection.settings
        current := transcript.ended (some failure)
        published := (transcript.ended (some failure)).retained } where
  settings := rfl
  current := setInternalErrorIfClear_describes describes failure
  published := published_describes (setInternalErrorIfClear_describes describes failure)

theorem executeOther_related (related : Related connection ledger) (program : Program) :
    Related (connection.executeOther program).1 (ledger.executeOther program).1 ∧
      (connection.executeOther program).2 = (ledger.executeOther program).2 := by
  have planned := planned_runs related program
  have attempted := runs_attempt planned program.attempt
  have answers := attempt_answers planned program.attempt
  unfold Connection.executeOther Ledger.executeOther Program.transcript
  dsimp only
  generalize Machine.final Connection.act (connection.beginStatement.planned program)
    program.attempt = executed at attempted ⊢
  cases program.failure with
  | some failure =>
    exact ⟨failed_related { executed with settings := program.settings } attempted.current failure,
      rfl⟩
  | none =>
    have cleared := describes_clearCondition attempted.current
    exact ⟨⟨rfl, cleared, published_describes cleared⟩, congrArg Answer.completed answers⟩

/-- A SHOW statement tells of the statement before it and leaves that one published; with a
LIMIT that it cannot read it is itself a statement that fails. -/
theorem executeShow_related (related : Related connection ledger)
    {appendRows : Diagnostics → ShowLimit → List Row} {rows : Transcript → List Record}
    (appended : ∀ {diagnostics transcript}, Describes diagnostics transcript → ∀ limit,
      appendRows diagnostics limit = limit.window ((rows transcript).map recordRow))
    (clause : Option LimitClause) :
    Related (connection.executeShow appendRows clause).1 (ledger.executeShow rows clause).1 ∧
      (connection.executeShow appendRows clause).2 = (ledger.executeShow rows clause).2 := by
  have begun := begun_runs related
  unfold Connection.executeShow Ledger.executeShow
  cases planDiagnosticsShowLimit clause with
  | error error =>
    have failing := describes_setError begun.current mysqlErrorParse (cText "42000") error.message
    have failed := failed_related
      { connection.beginStatement with
        diagnostics := connection.beginStatement.diagnostics.setError mysqlErrorParse
          (cText "42000") error.message } failing .error
    exact ⟨⟨related.settings, failed.current, failed.published⟩, rfl⟩
  | ok limit =>
    exact ⟨⟨related.settings, begun.current, related.published⟩,
      congrArg Answer.rows (appended related.published limit)⟩

theorem executeShowCount_related (related : Related connection ledger)
    {count : Diagnostics → Nat} {counted : Transcript → Nat}
    (counts : ∀ {diagnostics transcript}, Describes diagnostics transcript →
      count diagnostics = counted transcript) :
    Related (connection.executeShowCount count).1 (ledger.executeShowCount counted).1 ∧
      (connection.executeShowCount count).2 = (ledger.executeShowCount counted).2 :=
  ⟨⟨related.settings, (begun_runs related).current, related.published⟩,
    congrArg Answer.count (counts related.published)⟩

/-- One call keeps a connection and its ledger together, and both answer alike. -/
theorem call_related (related : Related connection ledger) (call : Call) :
    Related (connection.call call).1 (ledger.call call).1 ∧
      (connection.call call).2 = (ledger.call call).2 := by
  cases call with
  | execute statement =>
    cases statement with
    | showWarnings clause => exact executeShow_related related appendShowDiagnosticsRows_eq clause
    | showCountWarnings => exact executeShowCount_related related showWarningCount_eq
    | showErrors clause => exact executeShow_related related appendShowErrorsRows_eq clause
    | showCountErrors => exact executeShowCount_related related errorCount_eq
    | other program => exact executeOther_related related program
  | refused code sqlstate message =>
    exact ⟨⟨related.settings, describes_setError related.current _ _ _, related.published⟩, rfl⟩
  | errcode =>
    have condition := related.current.condition
    exact ⟨related, congrArg (fun record : Record => Answer.code record.code) condition⟩
  | errmsg =>
    have condition := related.current.condition
    exact ⟨related, congrArg (fun record : Record => Answer.message
      (if record.message.isEmpty then cText "not an error" else record.message)) condition⟩

/-! Whole runs. -/

theorem related_final (related : Related connection ledger) (calls : List Call) :
    Related (Machine.final Connection.call connection calls)
      (Machine.final Ledger.call ledger calls) :=
  Machine.final_related Related (fun _ _ call related => (call_related related call).1) related

theorem related_run (related : Related connection ledger) (calls : List Call) :
    Machine.run Connection.call connection calls = Machine.run Ledger.call ledger calls := by
  induction calls generalizing connection ledger with
  | nil => rfl
  | cons call rest ih =>
    obtain ⟨kept, answered⟩ := call_related related call
    rw [Machine.run, Machine.run, answered, ih kept]

/-- In every run a connection answers every call as the ledger of all that its statements
raised does. -/
theorem diagnostics_refine (calls : List Call) :
    Machine.run Connection.call .opened calls = Machine.run Ledger.call .opened calls :=
  related_run related_opened calls

/-- A call that leaves the published diagnostics as they are. -/
def Call.quiet : Call → Bool
  | .execute (.showWarnings clause) => (planDiagnosticsShowLimit clause).isOk
  | .execute (.showErrors clause) => (planDiagnosticsShowLimit clause).isOk
  | .execute (.other _) => false
  | _ => true

theorem executeShow_quiet {clause : Option LimitClause}
    (readable : (planDiagnosticsShowLimit clause).isOk = true)
    (rows : Transcript → List Record) (ledger : Ledger) :
    (ledger.executeShow rows clause).1.published = ledger.published := by
  unfold Ledger.executeShow
  cases planned : planDiagnosticsShowLimit clause with
  | error error =>
    rw [planned] at readable
    cases readable
  | ok limit => rfl

theorem quiet_published (ledger : Ledger) {call : Call} (quiet : call.quiet = true) :
    (ledger.call call).1.published = ledger.published := by
  cases call with
  | execute statement =>
    cases statement with
    | showWarnings clause => exact executeShow_quiet quiet Transcript.listed ledger
    | showCountWarnings => rfl
    | showErrors clause =>
      exact executeShow_quiet quiet (fun transcript => transcript.listed.filter Record.isError)
        ledger
    | showCountErrors => rfl
    | other program => cases quiet
  | refused code sqlstate message => rfl
  | errcode => rfl
  | errmsg => rfl

theorem quiet_run (ledger : Ledger) {calls : List Call}
    (quiet : ∀ call ∈ calls, call.quiet = true) :
    (Machine.final Ledger.call ledger calls).published = ledger.published :=
  Machine.final_invariant (fun call => call.quiet = true)
    (fun state => state.published = ledger.published)
    (fun state _ isQuiet same => (quiet_published state isQuiet).trans same) quiet rfl

/-- What the four SHOW statements answer. -/
structure Shows (connection : Connection) (area : Transcript) : Prop where
  warnings : ∀ clause limit, planDiagnosticsShowLimit clause = .ok limit →
    (connection.execute (.showWarnings clause)).2 =
      .rows (limit.window (area.listed.map recordRow))
  errors : ∀ clause limit, planDiagnosticsShowLimit clause = .ok limit →
    (connection.execute (.showErrors clause)).2 =
      .rows (limit.window ((area.listed.filter Record.isError).map recordRow))
  countWarnings : (connection.execute .showCountWarnings).2 = .count area.warningCount
  countErrors : (connection.execute .showCountErrors).2 = .count area.errorCount

theorem related_shows (related : Related connection ledger) :
    Shows connection ledger.published where
  warnings clause limit planned := by
    rw [show connection.execute (.showWarnings clause) = connection.call
      (.execute (.showWarnings clause)) from rfl, (call_related related _).2]
    simp only [Ledger.call, Ledger.execute, Ledger.executeShow, planned]
  errors clause limit planned := by
    rw [show connection.execute (.showErrors clause) = connection.call
      (.execute (.showErrors clause)) from rfl, (call_related related _).2]
    simp only [Ledger.call, Ledger.execute, Ledger.executeShow, planned]
  countWarnings := (call_related related (.execute .showCountWarnings)).2
  countErrors := (call_related related (.execute .showCountErrors)).2

/-- After any run the SHOW statements tell of the last statement that is not one of them: the
conditions that its last attempt raised, as many as `max_error_count` allowed when it began, and
the error that it failed with. -/
theorem statement_shown (before quiet : List Call) (program : Program)
    (areQuiet : ∀ call ∈ quiet, call.quiet = true) :
    Shows
      (Machine.final Connection.call .opened (before ++ .execute (.other program) :: quiet))
      (program.transcript (Machine.final Connection.call .opened before).settings).retained := by
  have start := related_final related_opened before
  have executed := (call_related start (.execute (.other program))).1
  have later := related_final executed quiet
  have told := related_shows later
  rw [quiet_run _ areQuiet] at told
  rw [Machine.final_append, start.settings]
  exact told

theorem statement_shown_note :
    Shows
      (Machine.final Connection.call .opened
        ([] ++ .execute (.other ⟨[], [], [.note 1051 [] []], none, .default⟩) ::
          [.execute .showCountErrors, .errcode]))
      ((Program.mk [] [] [.note 1051 [] []] none .default).transcript
        (Machine.final Connection.call .opened []).settings).retained :=
  statement_shown [] [.execute .showCountErrors, .errcode]
    ⟨[], [], [.note 1051 [] []], none, .default⟩ (by decide)

/-- An action that sets no error. -/
def Action.clean : Action → Bool
  | .setError _ _ _ => false
  | _ => true

theorem clean_condition {actions : List Action} (clean : ∀ action ∈ actions, action.clean = true)
    (start : transcript.condition = okRecord) :
    (actions.foldl Transcript.record transcript).condition = okRecord := by
  induction actions generalizing transcript with
  | nil => exact start
  | cons action rest ih =>
    refine ih (fun later member => clean later (List.mem_cons_of_mem _ member)) ?_
    have first := clean action List.mem_cons_self
    cases action with
    | setError code sqlstate message => cases first
    | note code sqlstate message =>
      simp only [Transcript.record]
      split
      · exact start
      · exact start
    | clearCondition => rfl
    | _ => exact start

theorem start_replanned {program : Program}
    (clean : ∀ action ∈ program.boundary, action.clean = true) (settings : Settings) :
    program.start settings = { program with replanned := [] }.start settings := by
  have condition : (program.boundary.foldl Transcript.record (.begun settings)).condition =
      okRecord := clean_condition clean rfl
  have kept : (program.boundary.foldl Transcript.record (.begun settings)).retained =
      program.boundary.foldl Transcript.record (.begun settings) := by
    unfold Transcript.retained
    split
    · rw [← condition]
    · rfl
  unfold Program.start
  dsimp only
  rw [kept, ite_self, ite_self]

/-- However often a statement is planned anew, its answer and those of all calls after it are
the ones of its last attempt alone. -/
theorem replanned_vanish (before after : List Call) (program : Program)
    (clean : ∀ action ∈ program.boundary, action.clean = true) :
    Machine.run Connection.call .opened (before ++ .execute (.other program) :: after) =
      Machine.run Connection.call .opened
        (before ++ .execute (.other { program with replanned := [] }) :: after) := by
  have same : ∀ ledger : Ledger, ledger.call (.execute (.other program)) =
      ledger.call (.execute (.other { program with replanned := [] })) := by
    intro ledger
    simp only [Ledger.call, Ledger.execute, Ledger.executeOther, Program.transcript,
      start_replanned clean]
  rw [diagnostics_refine, diagnostics_refine]
  generalize Ledger.opened = ledger
  induction before generalizing ledger with
  | nil => simp only [List.nil_append, Machine.run, same]
  | cons call rest ih => simp only [List.cons_append, Machine.run, ih]

theorem replanned_vanish_warning :
    Machine.run Connection.call .opened
        ([] ++ .execute (.other ⟨[.countOnly 1], [[.setError 1 [] []]], [], none, .default⟩) ::
          [.execute .showCountWarnings]) =
      Machine.run Connection.call .opened
        ([] ++ .execute (.other ⟨[.countOnly 1], [], [], none, .default⟩) ::
          [.execute .showCountWarnings]) :=
  replanned_vanish [] [.execute .showCountWarnings]
    ⟨[.countOnly 1], [[.setError 1 [] []]], [], none, .default⟩ (by decide)

/-- The lists and the counts of the SHOW statements agree with one another. -/
structure Agree (warnings errors : List Row) (warningCount errorCount : Nat) : Prop where
  filtered : errors = warnings.filter fun row => row.level = .error
  warningsCounted : warnings.length ≤ warningCount
  errorsCounted : errors.length ≤ errorCount
  errorsAmong : errorCount ≤ warningCount
  complete : warnings.length = warningCount → errors.length = errorCount

theorem transcript_agree (transcript : Transcript)
    (conditionLevel : transcript.condition.level = .error) :
    Agree (transcript.listed.map recordRow)
      ((transcript.listed.filter Record.isError).map recordRow) transcript.warningCount
      transcript.errorCount := by
  have failures : transcript.failure.countP Record.isError = transcript.failure.length :=
    List.countP_eq_length.mpr fun record member =>
      decide_eq_true (failure_level conditionLevel member)
  have among : transcript.raised.countP Record.isError ≤ transcript.raised.length :=
    List.countP_le_length
  have shorter : (transcript.raised.take transcript.limit).countP Record.isError ≤
      transcript.raised.countP Record.isError := (List.take_sublist _ _).countP_le
  have cut : (transcript.raised.take transcript.limit).length =
      min transcript.limit transcript.raised.length := List.length_take
  refine ⟨?_, ?_, ?_, ?_, ?_⟩
  · rw [List.filter_map]
    rfl
  · rw [List.length_map, Transcript.listed, List.length_append, Transcript.warningCount]
    omega
  · rw [List.length_map, ← List.countP_eq_length_filter, Transcript.listed, List.countP_append,
      failures, Transcript.errorCount]
    omega
  · rw [Transcript.errorCount, Transcript.warningCount]
    omega
  · rw [List.length_map, List.length_map, ← List.countP_eq_length_filter, Transcript.listed,
      List.length_append, List.countP_append, failures, Transcript.errorCount,
      Transcript.warningCount]
    intro whole
    rw [List.take_of_length_le (by omega)]
    omega

/-- In every reachable state SHOW ERRORS lists the errors among the rows of SHOW WARNINGS, and
the counts are those of the lists, unless `max_error_count` left conditions out. -/
theorem shows_agree (calls : List Call) :
    ∃ warnings errors warningCount errorCount,
      let connection := Machine.final Connection.call .opened calls
      (connection.execute (.showWarnings none)).2 = .rows warnings ∧
      (connection.execute (.showErrors none)).2 = .rows errors ∧
      (connection.execute .showCountWarnings).2 = .count warningCount ∧
      (connection.execute .showCountErrors).2 = .count errorCount ∧
      Agree warnings errors warningCount errorCount := by
  have related := related_final related_opened calls
  have shows := related_shows related
  exact ⟨_, _, _, _, shows.warnings none _ rfl, shows.errors none _ rfl, shows.countWarnings,
    shows.countErrors, transcript_agree _ related.published.conditionLevel⟩

end MyLite.DiagnosticsArea
