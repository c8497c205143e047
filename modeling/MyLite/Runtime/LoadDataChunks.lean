import Mathlib.Data.List.TakeWhile
import MyLite.Runtime.LoadData

/-! The rows of a file do not depend on the chunks it is read in: they are those of a
tokenization that sees the whole content. -/

namespace MyLite.LoadData

section Reference

/-- A byte, an escape, or a backslash that nothing follows. -/
inductive Piece where
  | plain (byte : UInt8)
  | escaped (byte : UInt8)
  | trailing
  deriving DecidableEq, Repr

def pieces : List UInt8 → List Piece
  | [] => []
  | [byte] => if byte = backslash then [.trailing] else [.plain byte]
  | byte :: next :: rest =>
    if byte = backslash then .escaped next :: pieces rest else .plain byte :: pieces (next :: rest)

def Piece.decoded : Piece → UInt8
  | .plain byte => byte
  | .escaped byte => escapedCharacter byte
  | .trailing => backslash

/-- `\N` alone is NULL. -/
def fieldOf (field : List Piece) : Field :=
  if field = [.escaped 78] then ⟨[], true⟩ else ⟨field.map Piece.decoded, false⟩

def Piece.isTabulator (piece : Piece) : Bool := piece = .plain tabulator

def Piece.isNewline (piece : Piece) : Bool := piece = .plain newline

def rowOf (line : List Piece) : List Field := (line.splitOnP Piece.isTabulator).map fieldOf

/-- The lines are the rows, but for an empty one at the end. -/
def rowsOf : List (List Piece) → List (List Field)
  | [] => []
  | [line] => if line.isEmpty then [] else [rowOf line]
  | line :: lines => rowOf line :: rowsOf lines

def referenceRows (content : List UInt8) : List (List Field) :=
  rowsOf ((pieces content).splitOnP Piece.isNewline)

/-- The rows, given on one after the other. -/
def Plan.importRows {Target ImportError : Type} (plan : Plan Target ImportError)
    (target : Target) (physicalRowNumber loadedRowCount : Nat) :
    List (List Field) → Except (LoadError ImportError) Target
  | [] => .ok target
  | row :: rows =>
    match plan.processLoadDataRow target row (physicalRowNumber + 1) loadedRowCount with
    | .error error => .error error
    | .ok (imported, loaded) => plan.importRows imported (physicalRowNumber + 1) loaded rows

theorem rowsOf_cons (line : List Piece) {lines : List (List Piece)} (more : lines ≠ []) :
    rowsOf (line :: lines) = rowOf line :: rowsOf lines := by
  cases lines with
  | nil => exact absurd rfl more
  | cons next others => rfl

theorem pieces_plain {byte : UInt8} (ordinary : byte ≠ backslash) (rest : List UInt8) :
    pieces (byte :: rest) = .plain byte :: pieces rest := by
  cases rest with
  | nil => simp [pieces, ordinary]
  | cons next rest => simp [pieces, ordinary]

end Reference

section Bytes

variable {Target ImportError : Type}

/-- One byte of the input. -/
def Plan.readByte (plan : Plan Target ImportError) (target : Target) (reader : Reader)
    (byte : UInt8) : Except (LoadError ImportError) (Target × Reader) :=
  if reader.escapePending then
    .ok (target, { reader with
      field := reader.field ++ [backslash] ++ [byte]
      escapePending := false
      rowPending := true })
  else if byte = backslash then
    .ok (target, { reader with
      escapePending := true, fieldHasEscape := true, rowPending := true })
  else if byte = tabulator then .ok (target, { reader with rowPending := true }.finishField)
  else if byte = newline then
    match plan.processRow target { reader with rowPending := true }.finishField with
    | .error error => .error error
    | .ok (imported, processed) =>
      .ok (imported, { processed with row := [], rowPending := false })
  else .ok (target, { reader with field := reader.field ++ [byte], rowPending := true })

def Plan.readBytes (plan : Plan Target ImportError) (target : Target) (reader : Reader) :
    List UInt8 → Except (LoadError ImportError) (Target × Reader)
  | [] => .ok (target, reader)
  | byte :: rest =>
    match plan.readByte target reader byte with
    | .error error => .error error
    | .ok (read, next) => plan.readBytes read next rest

variable {plan : Plan Target ImportError} {target : Target} {reader : Reader}

theorem readByte_ordinary (settled : reader.escapePending = false) {byte : UInt8}
    (ordinary : isOrdinary byte = true) :
    plan.readByte target reader byte =
      .ok (target, { reader with field := reader.field ++ [byte], rowPending := true }) := by
  simp only [isOrdinary, Bool.and_eq_true, decide_eq_true_eq] at ordinary
  obtain ⟨⟨notBackslash, notTabulator⟩, notNewline⟩ := ordinary
  simp [Plan.readByte, settled, notBackslash, notTabulator, notNewline]

/-- A run of ordinary bytes is appended whole. -/
theorem readBytes_run (settled : reader.escapePending = false) {run : List UInt8}
    (ordinary : ∀ byte ∈ run, isOrdinary byte = true) (rest : List UInt8) :
    plan.readBytes target reader (run ++ rest) =
      plan.readBytes target (reader.appendRun run) rest := by
  induction run generalizing reader with
  | nil => rfl
  | cons byte run ih =>
    have first := @readByte_ordinary _ _ plan target reader settled byte
      (ordinary byte List.mem_cons_self)
    have others := @ih { reader with field := reader.field ++ [byte], rowPending := true } settled
      fun later member => ordinary later (List.mem_cons_of_mem byte member)
    rw [List.cons_append, Plan.readBytes, first]
    simp only [others]
    cases run with
    | nil => simp [Reader.appendRun]
    | cons next run => simp [Reader.appendRun, List.append_assoc]

theorem appendRun_escapePending (reader : Reader) (run : List UInt8) :
    (reader.appendRun run).escapePending = reader.escapePending := by
  rw [Reader.appendRun]
  split <;> rfl

/-- Feeding a chunk is feeding its bytes. -/
theorem consumeLoadDataInput_eq (bound : Nat) (input : List UInt8) (small : input.length ≤ bound)
    (target : Target) (reader : Reader) :
    plan.consumeLoadDataInput target reader input = plan.readBytes target reader input := by
  induction bound generalizing input target reader with
  | zero =>
    obtain rfl := List.length_eq_zero_iff.mp (Nat.le_zero.mp small)
    rw [Plan.consumeLoadDataInput, Plan.readBytes]
  | succ bound ih =>
    cases input with
    | nil => rw [Plan.consumeLoadDataInput, Plan.readBytes]
    | cons byte rest =>
      rw [Plan.consumeLoadDataInput]
      by_cases pending : reader.escapePending = true
      · rw [if_pos pending, ih rest (by simpa using small), Plan.readBytes, Plan.readByte,
          if_pos pending]
      · have settled : reader.escapePending = false := Bool.not_eq_true _ ▸ pending
        have shorter := (List.dropWhile_suffix isOrdinary (l := byte :: rest)).length_le
        have whole : (byte :: rest).takeWhile isOrdinary ++ (byte :: rest).dropWhile isOrdinary =
            byte :: rest := List.takeWhile_append_dropWhile
        have runs := @readBytes_run _ _ plan target reader settled
          ((byte :: rest).takeWhile isOrdinary) (fun _ member => List.mem_takeWhile_imp member)
          ((byte :: rest).dropWhile isOrdinary)
        have stillSettled := appendRun_escapePending reader ((byte :: rest).takeWhile isOrdinary)
        rw [whole] at runs
        rw [settled] at stillSettled
        rw [if_neg pending, runs]
        dsimp only
        generalize reader.appendRun ((byte :: rest).takeWhile isOrdinary) = ran at stillSettled ⊢
        split
        · rename_i remaining
          rw [remaining, Plan.readBytes]
        · rename_i delimiter after remaining
          have special : isOrdinary delimiter = false := by
            have stopped := List.head?_dropWhile_not isOrdinary (byte :: rest)
            simpa [remaining] using stopped
          rw [remaining, List.length_cons] at shorter
          simp only [List.length_cons] at small shorter
          have next := fun imported later => ih after (by omega) imported later
          rw [remaining, Plan.readBytes, Plan.readByte, stillSettled]
          simp only [Bool.false_eq_true, if_false, next]
          by_cases isBackslash : delimiter = backslash
          · simp only [if_pos isBackslash]
          · by_cases isTabulator : delimiter = tabulator
            · simp only [if_neg isBackslash, if_pos isTabulator]
            · have isNewline : delimiter = newline := by
                simpa [isOrdinary, isBackslash, isTabulator] using special
              simp only [if_neg isBackslash, if_neg isTabulator, if_pos isNewline]
              generalize plan.processRow target _ = outcome
              cases outcome with
              | error error => rfl
              | ok processed => rfl

theorem readBytes_append (first second : List UInt8) (target : Target) (reader : Reader) :
    plan.readBytes target reader (first ++ second) =
      (plan.readBytes target reader first).bind fun read =>
        plan.readBytes read.1 read.2 second := by
  induction first generalizing target reader with
  | nil => rfl
  | cons byte first ih =>
    rw [List.cons_append, Plan.readBytes, Plan.readBytes]
    cases plan.readByte target reader byte with
    | error error => rfl
    | ok read => exact ih read.1 read.2

/-- The chunks together are their bytes. -/
theorem consumeChunks_eq (chunks : List (List UInt8)) (target : Target) (reader : Reader) :
    plan.consumeChunks target reader chunks = plan.readBytes target reader chunks.flatten := by
  induction chunks generalizing target reader with
  | nil => rfl
  | cons chunk chunks ih =>
    rw [Plan.consumeChunks, consumeLoadDataInput_eq chunk.length chunk (Nat.le_refl _),
      List.flatten_cons, readBytes_append]
    cases plan.readBytes target reader chunk with
    | error error => rfl
    | ok read => exact ih read.1 read.2

end Bytes

section Fields

/-- The bytes a piece was read from. -/
def Piece.raw : Piece → List UInt8
  | .plain byte => [byte]
  | .escaped byte => [backslash, byte]
  | .trailing => [backslash]

/-- A piece that more input cannot change. -/
def Piece.Complete : Piece → Prop
  | .plain byte => byte ≠ backslash
  | .escaped _ => True
  | .trailing => False

def Piece.isEscaped : Piece → Bool
  | .plain _ => false
  | .escaped _ => true
  | .trailing => true

theorem decodeText_complete {piece : Piece} (complete : piece.Complete) (rest : List UInt8) :
    decodeText (piece.raw ++ rest) = piece.decoded :: decodeText rest := by
  cases piece with
  | plain byte =>
    have ordinary : byte ≠ backslash := complete
    cases rest with
    | nil => rfl
    | cons next rest => simp [Piece.raw, Piece.decoded, decodeText, ordinary]
  | escaped byte => simp [Piece.raw, Piece.decoded, decodeText]
  | trailing => exact absurd complete not_false

theorem decodeText_raw {field : List Piece} (complete : ∀ piece ∈ field, piece.Complete)
    (rest : List UInt8) :
    decodeText (field.flatMap Piece.raw ++ rest) =
      field.map Piece.decoded ++ decodeText rest := by
  induction field with
  | nil => rfl
  | cons piece field ih =>
    have first := complete piece List.mem_cons_self
    have others := ih fun other member => complete other (List.mem_cons_of_mem piece member)
    rw [List.flatMap_cons, List.append_assoc, decodeText_complete first, others, List.map_cons,
      List.cons_append]

theorem map_decoded_plain {field : List Piece} (plain : field.any Piece.isEscaped = false) :
    field.map Piece.decoded = field.flatMap Piece.raw := by
  induction field with
  | nil => rfl
  | cons piece field ih =>
    rw [List.any_cons, Bool.or_eq_false_iff] at plain
    cases piece with
    | plain byte => simp [Piece.raw, Piece.decoded, ih plain.2]
    | escaped byte => exact absurd plain.1 (by simp [Piece.isEscaped])
    | trailing => exact absurd plain.1 (by simp [Piece.isEscaped])

/-- Only `\N` itself reads as NULL. -/
theorem raw_eq_null_iff {field : List Piece} (complete : ∀ piece ∈ field, piece.Complete) :
    field.flatMap Piece.raw = [backslash, 78] ↔ field = [.escaped 78] := by
  constructor
  · intro same
    cases field with
    | nil => simp at same
    | cons piece field =>
      have first := complete piece List.mem_cons_self
      have others := fun other member => complete other (List.mem_cons_of_mem piece member)
      cases piece with
      | plain byte =>
        simp only [List.flatMap_cons, Piece.raw, List.cons_append, List.nil_append,
          List.cons.injEq] at same
        exact absurd same.1 first
      | escaped byte =>
        simp only [List.flatMap_cons, Piece.raw, List.cons_append, List.nil_append,
          List.cons.injEq] at same
        obtain ⟨-, rfl, rest⟩ := same
        cases field with
        | nil => rfl
        | cons next field => cases next <;> simp [Piece.raw] at rest
      | trailing => exact absurd first not_false
  · rintro rfl
    rfl

/-- The field of the pieces so far, with or without a backslash that nothing follows. -/
theorem decode_fieldOf {field : List Piece} (complete : ∀ piece ∈ field, piece.Complete)
    (trailing : Bool) :
    decodeLoadDataFieldText
        (field.flatMap Piece.raw ++ if trailing then [backslash] else []) =
      fieldOf (field ++ if trailing then [.trailing] else []) := by
  cases trailing with
  | false =>
    have text := decodeText_raw complete []
    rw [List.append_nil] at text
    simp only [Bool.false_eq_true, if_false, List.append_nil, decodeLoadDataFieldText, fieldOf,
      raw_eq_null_iff complete, text, decodeText]
  | true =>
    have text := decodeText_raw complete [backslash]
    have notNull : field.flatMap Piece.raw ++ [backslash] ≠ [backslash, 78] := by
      intro same
      have last := congrArg List.getLast? same
      simp [backslash] at last
    have notEscape : field ++ [.trailing] ≠ [.escaped 78] := by
      intro same
      have last := congrArg List.getLast? same
      simp at last
    simp only [if_true, decodeLoadDataFieldText, fieldOf, if_neg notNull, if_neg notEscape, text,
      decodeText, List.map_append, List.map_cons, List.map_nil, Piece.decoded]

end Fields

section Lines

variable {Target ImportError : Type} {plan : Plan Target ImportError}

/-- The pieces of a line: complete fields, each with its tabulator, and the field that is
read. -/
def lineOf (done : List (List Piece)) (current : List Piece) : List Piece :=
  done.flatMap (fun field => field ++ [.plain tabulator]) ++ current

/-- What the reader holds of the line it reads. -/
structure Reads (reader : Reader) (done : List (List Piece)) (current : List Piece) : Prop where
  row : reader.row = done.map fieldOf
  field : reader.field = current.flatMap Piece.raw
  complete : ∀ piece ∈ current, piece.Complete
  escapes : reader.fieldHasEscape = (current.any Piece.isEscaped || reader.escapePending)
  doneApart : ∀ field ∈ done, ∀ piece ∈ field,
    piece.isTabulator = false ∧ piece.isNewline = false
  currentApart : ∀ piece ∈ current, piece.isTabulator = false ∧ piece.isNewline = false
  pending : reader.rowPending = (!(lineOf done current).isEmpty || reader.escapePending)

theorem splitOnP_lineOf {done : List (List Piece)} {current : List Piece}
    (doneApart : ∀ field ∈ done, ∀ piece ∈ field, piece.isTabulator = false)
    (currentApart : ∀ piece ∈ current, piece.isTabulator = false) :
    (lineOf done current).splitOnP Piece.isTabulator = done ++ [current] := by
  induction done with
  | nil => exact List.splitOnP_eq_singleton currentApart
  | cons field done ih =>
    have others := ih fun other member => doneApart other (List.mem_cons_of_mem field member)
    have split := List.splitOnP_append_cons_of_forall_mem
      (doneApart field List.mem_cons_self) (.plain tabulator) (by decide) (lineOf done current)
    have shape : lineOf (field :: done) current =
        field ++ Piece.plain tabulator :: lineOf done current := by
      simp [lineOf]
    rw [shape, split, others, List.cons_append]

theorem lineOf_apart {done : List (List Piece)} {current : List Piece}
    (doneApart : ∀ field ∈ done, ∀ piece ∈ field, piece.isNewline = false)
    (currentApart : ∀ piece ∈ current, piece.isNewline = false) :
    ∀ piece ∈ lineOf done current, piece.isNewline = false := by
  intro piece member
  simp only [lineOf, List.mem_append, List.mem_flatMap, List.mem_singleton] at member
  rcases member with ⟨field, inDone, inField | rfl⟩ | inCurrent
  · exact doneApart field inDone piece inField
  · decide
  · exact currentApart piece inCurrent

theorem lineOf_append (done : List (List Piece)) (current : List Piece) (piece : Piece) :
    lineOf done (current ++ [piece]) = lineOf done current ++ [piece] := by
  simp [lineOf]

theorem lineOf_tabulator (done : List (List Piece)) (current : List Piece) :
    lineOf (done ++ [current]) [] = lineOf done current ++ [.plain tabulator] := by
  simp [lineOf]

variable {reader : Reader} {done : List (List Piece)} {current : List Piece}

theorem Reads.noNewline (reads : Reads reader done current) :
    ∀ piece ∈ lineOf done current, piece.isNewline = false :=
  lineOf_apart (fun field inDone piece inField => (reads.doneApart field inDone piece inField).2)
    fun piece member => (reads.currentApart piece member).2

/-- The pieces of the field when the line or the input ends here. -/
def Reader.lastField (reader : Reader) (current : List Piece) : List Piece :=
  current ++ if reader.escapePending then [.trailing] else []

theorem Reads.lastField_apart (reads : Reads reader done current) :
    ∀ piece ∈ reader.lastField current, piece.isTabulator = false ∧ piece.isNewline = false := by
  intro piece member
  rcases List.mem_append.mp member with before | last
  · exact reads.currentApart piece before
  · split at last
    · rw [List.mem_singleton.mp last]
      exact ⟨rfl, rfl⟩
    · cases last

theorem Reads.rowOf_line (reads : Reads reader done current) :
    rowOf (lineOf done (reader.lastField current)) =
      (done ++ [reader.lastField current]).map fieldOf := by
  rw [rowOf, splitOnP_lineOf
    (fun field inDone piece inField => (reads.doneApart field inDone piece inField).1)
    fun piece member => (reads.lastField_apart piece member).1]

/-- A field that is finished is the field of its pieces. -/
theorem Reads.finishField (reads : Reads reader done current) :
    reader.finishField = { reader with
      row := rowOf (lineOf done (reader.lastField current))
      field := []
      escapePending := false
      fieldHasEscape := false } := by
  have decoded := decode_fieldOf reads.complete reader.escapePending
  rw [← reads.field] at decoded
  rw [Reader.finishField, reads.rowOf_line, Reader.lastField]
  by_cases pending : reader.escapePending = true
  · have escapes : reader.fieldHasEscape = true := by rw [reads.escapes, pending, Bool.or_true]
    rw [pending] at decoded
    simp only [if_true] at decoded
    simp only [pending, if_true, Reader.appendField, escapes, decoded, reads.row, List.map_append,
      List.map_cons, List.map_nil]
  · have settled : reader.escapePending = false := Bool.not_eq_true _ ▸ pending
    rw [settled] at decoded
    simp only [Bool.false_eq_true, if_false, List.append_nil] at decoded
    have escapes := reads.escapes
    rw [settled, Bool.or_false] at escapes
    simp only [settled, Bool.false_eq_true, if_false, Reader.appendField, List.append_nil,
      List.map_append, List.map_cons, List.map_nil, reads.row]
    cases escaped : reader.fieldHasEscape with
    | true => simp only [if_true, decoded]
    | false =>
      rw [escaped] at escapes
      have plain := map_decoded_plain escapes.symm
      have notNull : current ≠ [.escaped 78] := by
        rintro rfl
        simp [Piece.isEscaped] at escapes
      simp only [Bool.false_eq_true, if_false, fieldOf, if_neg notNull, plain, reads.field]

theorem reads_empty {reader : Reader} (row : reader.row = []) (field : reader.field = [])
    (escapePending : reader.escapePending = false) (fieldHasEscape : reader.fieldHasEscape = false)
    (rowPending : reader.rowPending = false) : Reads reader [] [] where
  row := row
  field := field
  complete := by simp
  escapes := by rw [fieldHasEscape, escapePending]; rfl
  doneApart := by simp
  currentApart := by simp
  pending := by rw [rowPending, escapePending]; rfl

/-- Reading one more piece that neither ends the field nor the row. -/
theorem Reads.append (reads : Reads reader done current) {piece : Piece} {next : Reader}
    (complete : piece.Complete)
    (apart : piece.isTabulator = false ∧ piece.isNewline = false)
    (row : next.row = reader.row) (field : next.field = current.flatMap Piece.raw ++ piece.raw)
    (escapePending : next.escapePending = false)
    (escapes : next.fieldHasEscape = (current.any Piece.isEscaped || piece.isEscaped))
    (rowPending : next.rowPending = true) : Reads next done (current ++ [piece]) where
  row := by rw [row, reads.row]
  field := by simp [field]
  complete := by
    intro other member
    rcases List.mem_append.mp member with before | last
    · exact reads.complete other before
    · rw [List.mem_singleton.mp last]
      exact complete
  escapes := by simp [escapes, escapePending]
  doneApart := reads.doneApart
  currentApart := by
    intro other member
    rcases List.mem_append.mp member with before | last
    · exact reads.currentApart other before
    · rw [List.mem_singleton.mp last]
      exact apart
  pending := by
    rw [rowPending, lineOf_append]
    simp

/-- What is left to do: the bytes, and then the row that no newline ends. -/
def Plan.finishReading (plan : Plan Target ImportError) (target : Target) (reader : Reader)
    (bytes : List UInt8) : Except (LoadError ImportError) Target :=
  (plan.readBytes target reader bytes).bind fun read => plan.finishRows read.1 read.2

theorem finishReading_cons {byte : UInt8} {rest : List UInt8} {target read : Target}
    {reader next : Reader} (step : plan.readByte target reader byte = .ok (read, next)) :
    plan.finishReading target reader (byte :: rest) = plan.finishReading read next rest := by
  rw [Plan.finishReading, Plan.readBytes, step]
  rfl

/-- A row that is complete is given on as the row of its line. -/
theorem Reads.processRow (reads : Reads reader done current) (target : Target)
    (rowPending : Bool) :
    plan.processRow target { reader.finishField with rowPending := rowPending } =
      (plan.processLoadDataRow target (rowOf (lineOf done (reader.lastField current)))
        (reader.physicalRowNumber + 1) reader.loadedRowCount).map fun processed =>
          (processed.1, { reader.finishField with
            physicalRowNumber := reader.physicalRowNumber + 1
            loadedRowCount := processed.2
            rowPending := rowPending }) := by
  rw [reads.finishField, Plan.processRow]
  dsimp only
  generalize plan.processLoadDataRow target _ _ _ = processed
  cases processed with
  | error error => rfl
  | ok imported => rfl

/-- The end of the input gives on the row that is pending. -/
theorem Reads.finishRows (reads : Reads reader done current) (target : Target) :
    plan.finishRows target reader =
      plan.importRows target reader.physicalRowNumber reader.loadedRowCount
        (rowsOf ((lineOf done (reader.lastField current)).splitOnP Piece.isNewline)) := by
  have noNewline := lineOf_apart
    (fun field inDone piece inField => (reads.doneApart field inDone piece inField).2)
    fun piece member => (reads.lastField_apart piece member).2
  have rowPending : reader.rowPending = !(lineOf done (reader.lastField current)).isEmpty := by
    rw [reads.pending, Reader.lastField]
    cases reader.escapePending <;> simp [lineOf]
  have given := @Reads.processRow _ _ plan _ _ _ reads target reader.finishField.rowPending
  rw [List.splitOnP_eq_singleton noNewline, Plan.finishRows, rowPending, rowsOf, given]
  cases empty : (lineOf done (reader.lastField current)).isEmpty with
  | true => rfl
  | false =>
    simp only [Bool.not_false, if_true, Bool.false_eq_true, if_false, Plan.importRows]
    generalize plan.processLoadDataRow target _ _ _ = processed
    cases processed with
    | error error => rfl
    | ok imported => rfl

/-- A newline gives on the row of the line, and the reader starts afresh. -/
theorem finishReading_newline (reads : Reads reader done current)
    (settled : reader.escapePending = false) {byte : UInt8} (isNewline : byte = newline)
    {rest : List UInt8} {target : Target}
    (rounds : ∀ {imported : Target} {next : Reader} {done : List (List Piece)}
      {current : List Piece}, Reads next done current →
      plan.finishReading imported next rest =
        plan.importRows imported next.physicalRowNumber next.loadedRowCount
          (rowsOf ((lineOf done current ++
            pieces (if next.escapePending then backslash :: rest else rest)).splitOnP
              Piece.isNewline))) :
    plan.finishReading target reader (byte :: rest) =
      plan.importRows target reader.physicalRowNumber reader.loadedRowCount
        (rowsOf ((lineOf done current ++ .plain byte :: pieces rest).splitOnP
          Piece.isNewline)) := by
  have split := List.splitOnP_append_cons_of_forall_mem reads.noNewline (.plain newline) (by decide)
    (pieces rest)
  have whole : reader.lastField current = current := by simp [Reader.lastField, settled]
  have given := @Reads.processRow _ _ plan _ _ _ reads target true
  have marked : Reader.finishField { reader with rowPending := true } =
      { reader.finishField with rowPending := true } := by
    simp only [Reader.finishField, Reader.appendField]
    split <;> rfl
  have step : plan.readByte target reader byte =
      (plan.processRow target { reader.finishField with rowPending := true }).map fun processed =>
        (processed.1, { processed.2 with row := [], rowPending := false }) := by
    rw [Plan.readByte, if_neg (by simp [settled]), if_neg (by rw [isNewline]; decide),
      if_neg (by rw [isNewline]; decide), if_pos isNewline, marked]
    generalize plan.processRow target _ = outcome
    cases outcome with
    | error error => rfl
    | ok processed => rfl
  rw [whole] at given
  rw [isNewline, split, rowsOf_cons _ (List.splitOnP_ne_nil _ _), Plan.importRows]
  rw [isNewline, given] at step
  cases processed : plan.processLoadDataRow target (rowOf (lineOf done current))
      (reader.physicalRowNumber + 1) reader.loadedRowCount with
  | error error =>
    rw [processed] at step
    rw [Plan.finishReading, Plan.readBytes, step]
    rfl
  | ok imported =>
    rw [processed] at step
    rw [finishReading_cons step]
    have fresh := reads.finishField
    rw [fresh]
    exact rounds (reads_empty rfl rfl rfl rfl rfl)

/-- From any state of the reader, the rest of the input gives the rows of the pieces read so far
and of those to come. -/
theorem finishReading_eq (bytes : List UInt8) {target : Target} {reader : Reader}
    {done : List (List Piece)} {current : List Piece} (reads : Reads reader done current) :
    plan.finishReading target reader bytes =
      plan.importRows target reader.physicalRowNumber reader.loadedRowCount
        (rowsOf ((lineOf done current ++
          pieces (if reader.escapePending then backslash :: bytes else bytes)).splitOnP
            Piece.isNewline)) := by
  induction bytes generalizing target reader done current with
  | nil =>
    have ends := @Reads.finishRows _ _ plan _ _ _ reads target
    have tail : lineOf done current ++
        pieces (if reader.escapePending then [backslash] else []) =
          lineOf done (reader.lastField current) := by
      rw [Reader.lastField]
      cases reader.escapePending <;> simp [pieces, lineOf]
    rw [tail, ← ends, Plan.finishReading, Plan.readBytes]
    rfl
  | cons byte rest ih =>
    by_cases pending : reader.escapePending = true
    · have step : plan.readByte target reader byte = .ok (target, { reader with
          field := reader.field ++ [backslash] ++ [byte]
          escapePending := false
          rowPending := true }) := by
        rw [Plan.readByte, if_pos pending]
      have next := @Reads.append _ _ _ reads (.escaped byte) { reader with
          field := reader.field ++ [backslash] ++ [byte]
          escapePending := false
          rowPending := true } trivial ⟨rfl, rfl⟩ rfl (by simp [reads.field, Piece.raw]) rfl
        (by simp [reads.escapes, pending, Piece.isEscaped]) rfl
      rw [finishReading_cons step, ih next, lineOf_append, pending]
      simp [pieces]
    · have settled : reader.escapePending = false := Bool.not_eq_true _ ▸ pending
      rw [if_neg pending]
      by_cases isBackslash : byte = backslash
      · have step : plan.readByte target reader byte = .ok (target, { reader with
            escapePending := true, fieldHasEscape := true, rowPending := true }) := by
          rw [Plan.readByte, if_neg pending, if_pos isBackslash]
        have next : Reads { reader with
            escapePending := true, fieldHasEscape := true, rowPending := true } done current :=
          { reads with
            escapes := by simp
            pending := by simp }
        rw [finishReading_cons step, ih next, isBackslash]
        rfl
      · rw [pieces_plain isBackslash]
        by_cases isTabulator : byte = tabulator
        · have step : plan.readByte target reader byte =
              .ok (target, { reader with rowPending := true }.finishField) := by
            rw [Plan.readByte, if_neg pending, if_neg isBackslash, if_pos isTabulator]
          have marked : Reader.finishField { reader with rowPending := true } =
              { reader.finishField with rowPending := true } := by
            simp only [Reader.finishField, Reader.appendField]
            split <;> rfl
          have next : Reads { reader.finishField with rowPending := true }
              (done ++ [current]) [] := by
            rw [reads.finishField, reads.rowOf_line, Reader.lastField, settled]
            refine ⟨by simp, rfl, by simp, rfl, ?_, by simp, by simp [lineOf]⟩
            intro field member
            rcases List.mem_append.mp member with before | last
            · exact reads.doneApart field before
            · rw [List.mem_singleton.mp last]
              exact reads.currentApart
          rw [marked] at step
          rw [finishReading_cons step, ih next, lineOf_tabulator, isTabulator, reads.finishField]
          simp
        · by_cases isNewline : byte = newline
          · exact finishReading_newline reads settled isNewline ih
          · have ordinary : isOrdinary byte = true := by
              simp [isOrdinary, isBackslash, isTabulator, isNewline]
            have next := @Reads.append _ _ _ reads (.plain byte)
              { reader with field := reader.field ++ [byte], rowPending := true } isBackslash
              ⟨by simp [Piece.isTabulator, isTabulator], by simp [Piece.isNewline, isNewline]⟩ rfl
              (by simp [reads.field, Piece.raw]) settled
              (by simp [reads.escapes, settled, Piece.isEscaped]) rfl
            rw [finishReading_cons (readByte_ordinary settled ordinary), ih next, lineOf_append,
              settled]
            simp

theorem executeLoadDataFileRows_eq (plan : Plan Target ImportError) (target : Target)
    (chunks : List (List UInt8)) :
    plan.executeLoadDataFileRows target chunks =
      plan.importRows target 0 0 (referenceRows chunks.flatten) := by
  have start := @finishReading_eq _ _ plan chunks.flatten target .initial [] []
    (reads_empty rfl rfl rfl rfl rfl)
  rw [Plan.finishReading, ← consumeChunks_eq] at start
  rw [Plan.executeLoadDataFileRows]
  cases consumed : plan.consumeChunks target .initial chunks with
  | error error =>
    rw [consumed] at start
    exact start
  | ok read =>
    rw [consumed] at start
    exact start

theorem inputChunks_flatten (chunkSize bound : Nat) (content : List UInt8)
    (small : content.length ≤ bound) : (inputChunks chunkSize content).flatten = content := by
  induction bound generalizing content with
  | zero =>
    obtain rfl := List.length_eq_zero_iff.mp (Nat.le_zero.mp small)
    rw [inputChunks]
    split
    · rfl
    · rename_i large
      simp at large
  | succ bound ih =>
    rw [inputChunks]
    split
    · simp
    · rename_i large
      obtain ⟨positive, full⟩ := not_or.mp large
      have rest := ih (content.drop chunkSize) (by rw [List.length_drop]; omega)
      rw [List.flatten_cons, rest, List.take_append_drop]

/-- However a file is split into chunks, its rows are those of its whole content; so the size of
the buffer does not matter. -/
theorem load_data_chunk_independent (plan : Plan Target ImportError) (target : Target) :
    (∀ chunks : List (List UInt8), plan.executeLoadDataFileRows target chunks =
      plan.importRows target 0 0 (referenceRows chunks.flatten)) ∧
    ∀ (chunkSize : Nat) (content : List UInt8),
      plan.executeLoadDataFileRows target (inputChunks chunkSize content) =
        plan.importRows target 0 0 (referenceRows content) := by
  constructor
  · intro chunks
    exact executeLoadDataFileRows_eq plan target chunks
  · intro chunkSize content
    rw [executeLoadDataFileRows_eq,
      inputChunks_flatten chunkSize content.length content (Nat.le_refl _)]

end Lines

end MyLite.LoadData
