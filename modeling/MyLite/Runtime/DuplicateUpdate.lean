import MyLite.Library.Ternary
import MyLite.Runtime.Replace

/-! ON DUPLICATE KEY UPDATE of one row: the values the clause assigns, the check that no
other row has the keys they lead to, and the UPDATE. -/

namespace MyLite.DuplicateUpdate

open Replace (SqliteValue PlannedValue StorageClass IndexPart Index Row KeyLookupError)

structure IntegerRange where
  positiveMax : Nat
  negativeAbsMax : Nat
  deriving DecidableEq, Repr

/-- A column that is not generated. `normalize` is what its own collation compares, and
`convert` what the conversion to its type makes of a value that is read back. -/
structure Column (Real : Type) where
  logicalType : String
  physicalType : String
  characterSetName : String
  collationName : String
  isStringFamily : Bool
  isAutoIncrement : Bool
  storage : StorageClass
  integerRange : Option IntegerRange
  normalize : SqliteValue Real → SqliteValue Real
  convert : SqliteValue Real → Option (SqliteValue Real)

/-- `planned_insert_duplicate_update_value_kind`. A literal is what its conversion to the
column gives; a row scalar is evaluated by SQLite in the row that is updated. -/
inductive AssignedValue (Real : Type) where
  | literal (value : Option (PlannedValue Real))
  | valuesReference (valuesColumn : Nat)
  | sameColumnArithmetic (subtract : Bool) (delta : Option Nat)
  | rowScalar (evaluate : Row Real → Option (SqliteValue Real))

structure Target (Real : Type) where
  column : Nat
  value : AssignedValue Real

/-- The row to insert and the clause. An assignment of DEFAULT to a generated column is
`none`, since every loop passes over it. `admits` are the constraints SQLite checks
before the unique indexes. -/
structure Plan (Real : Type) extends Replace.Plan Real where
  descriptors : List (Column Real)
  described : columns = descriptors.map Column.storage
  assignments : List (Option (Target Real))
  literals : ∀ target ∈ assignments.filterMap id, ∀ value,
    target.value = .literal (some value) → ∃ storage, value.Fits storage
  parentForeignKeyColumns : List Nat
  isInsertSelect : Bool
  admits : Row Real → Bool

inductive DuplicateUpdateError where
  | keyLookup (error : KeyLookupError)
  | notConverted
  | disappeared
  /-- The check found the tuple of the index at this place. -/
  | duplicateKey (position : Nat)
  | uniqueConstraint
  | otherConstraint
  | evaluation
  deriving DecidableEq, Repr

section Planning

variable {Real : Type} (plan : Plan Real)

def Plan.executable : List (Target Real) := plan.assignments.filterMap id

/-- `insert_duplicate_assignment_is_same_column_values_reference`. -/
def Target.isSameColumnValuesReference (target : Target Real) : Bool :=
  match target.value with
  | .valuesReference valuesColumn => valuesColumn = target.column
  | _ => false

def Target.isSameColumnArithmetic (target : Target Real) : Bool :=
  match target.value with
  | .sameColumnArithmetic _ _ => true
  | _ => false

/-- `insert_duplicate_values_reference_columns_are_copy_compatible`. -/
def copyCompatible (source target : Column Real) : Bool :=
  source.logicalType = target.logicalType && source.physicalType = target.physicalType &&
    (!target.isStringFamily ||
      source.characterSetName = target.characterSetName &&
        source.collationName = target.collationName)

/-- `insert_duplicate_column_index_is_keyed`. -/
def Plan.isKeyed (column : Nat) : Bool :=
  plan.indexes.any fun index =>
    index.isUnique && index.parts.any fun part => part.columnIndex = column

/-- `plan_insert_duplicate_assignment_value`. -/
def Plan.planTarget (target : Target Real) : Bool :=
  match plan.descriptors[target.column]? with
  | none => false
  | some column =>
    match target.value with
    | .literal _ => true
    | .valuesReference valuesColumn =>
      (plan.descriptors[valuesColumn]?).any fun source => copyCompatible source column
    | .sameColumnArithmetic _ _ =>
      column.integerRange.isSome && !column.isAutoIncrement && !plan.isKeyed target.column &&
        !plan.isInsertSelect
    | .rowScalar _ => !column.isAutoIncrement && !plan.isKeyed target.column

/-- `insert_duplicate_assignment_targets_auto_increment`. -/
def Plan.targetsAutoIncrement : Bool :=
  plan.executable.any fun target =>
    !target.isSameColumnValuesReference &&
      (plan.descriptors[target.column]?).any Column.isAutoIncrement

/-- `plan_insert_duplicate_update`. -/
def Plan.planInsertDuplicateUpdate : Bool :=
  !plan.assignments.isEmpty && decide (plan.executable.map Target.column).Nodup &&
    plan.executable.all plan.planTarget && !plan.targetsAutoIncrement &&
    (!plan.executable.any (fun target => plan.isKeyed target.column) ||
      plan.executable.all fun target => !plan.parentForeignKeyColumns.contains target.column)

end Planning

section Values

variable {Real : Type} [Inhabited Real]

/-- A planned value that is held, not bound. -/
def planned : SqliteValue Real → PlannedValue Real
  | .null => ⟨true, false, false, false, 0, default, [], none⟩
  | .integer value => ⟨false, false, false, false, value, default, [], none⟩
  | .real value => ⟨false, false, false, true, 0, value, [], none⟩
  | .text bytes => ⟨false, true, false, false, 0, default, bytes, none⟩
  | .blob bytes => ⟨false, false, true, false, 0, default, bytes, none⟩

/-- `materialize_insert_select_selected_value`, of a column into itself. -/
def materialize (column : Column Real) : SqliteValue Real → Option (PlannedValue Real)
  | .null => some (planned .null)
  | stored => (column.convert stored).map planned

def materializeRow : List (Column Real) → Row Real → Option (List (PlannedValue Real))
  | column :: columns, stored :: rest =>
    (materialize column stored).bind fun first =>
    (materializeRow columns rest).map fun others => first :: others
  | _, _ => some []

/-- `assign_insert_duplicate_arithmetic_result`. -/
def arithmeticResult (range : IntegerRange) (subtract : Bool) (current : Int) (delta : Nat) :
    Option Int :=
  if delta > range.positiveMax + range.negativeAbsMax then none
  else if subtract then
    if current < (delta : Int) - range.negativeAbsMax then none else some (current - delta)
  else if current > (range.positiveMax : Int) - delta then none
  else some (current + delta)

/-- `convert_insert_duplicate_arithmetic_value`. -/
def convertArithmeticValue (column : Column Real) (subtract : Bool) (delta : Option Nat)
    (current : PlannedValue Real) : Option (PlannedValue Real) :=
  if current.isNull then some (planned .null)
  else if current.isText || current.isBlob || current.isReal then none
  else
    delta.bind fun delta =>
    column.integerRange.bind fun range =>
    (arithmeticResult range subtract current.integer delta).map fun result =>
      planned (.integer result)

end Values

section Execution

variable {Real : Type} [DecidableEq Real] [Inhabited Real] (plan : Plan Real)

/-- `part = ?` in a WHERE clause. -/
def keyPartEqual (part : IndexPart Real) (stored value : SqliteValue Real) : Option Bool :=
  if stored = .null ∨ value = .null then none
  else some (decide (part.normalize stored = part.normalize value))

/-- `append_insert_duplicate_key_predicate_sql_from_parameters`. -/
def keyPredicate (index : Index Real) (stored row : Row Real) : Option Bool :=
  Ternary.all (index.parts.map fun part =>
    keyPartEqual part (stored.at part.columnIndex) (row.at part.columnIndex))

/-- `fetch_insert_duplicate_current_row_values`. -/
def Plan.fetchCurrentRowValues (conflicting : Index Real) (rows : List (Row Real)) :
    Option (List (PlannedValue Real)) :=
  (rows.find? fun stored => keyPredicate conflicting stored plan.row = some true).bind
    (materializeRow plan.descriptors)

/-- `convert_insert_duplicate_update_value`. -/
def Plan.convertUpdateValue (current : Option (List (PlannedValue Real))) (target : Target Real) :
    Option (PlannedValue Real) :=
  match target.value with
  | .literal value => value
  | .valuesReference valuesColumn => plan.values[valuesColumn]?
  | .sameColumnArithmetic subtract delta =>
    current.bind fun values =>
    values[target.column]?.bind fun value =>
    plan.descriptors[target.column]?.bind fun column =>
      convertArithmeticValue column subtract delta value
  | .rowScalar _ => some (planned .null)

def convertTargets (convert : Target Real → Option (PlannedValue Real)) :
    List (Target Real) → Option (List (Target Real × PlannedValue Real))
  | [] => some []
  | target :: rest =>
    (convert target).bind fun value =>
    (convertTargets convert rest).map fun others => (target, value) :: others

/-- `convert_insert_duplicate_update_values`: the current values where they had to be
read, and the assigned ones. -/
def Plan.convertUpdateValues (conflicting : Index Real) (rows : List (Row Real)) :
    Option (Option (List (PlannedValue Real)) × List (Target Real × PlannedValue Real)) :=
  (if plan.executable.any Target.isSameColumnArithmetic then
    (plan.fetchCurrentRowValues conflicting rows).map some
  else some none).bind fun current =>
  (convertTargets (plan.convertUpdateValue current) plan.executable).map fun assigned =>
    (current, assigned)

/-! The check. -/

/-- `insert_duplicate_index_has_assignment_requiring_validation`. -/
def Plan.requiresValidation (conflict : Nat) (index : Index Real × Nat) : Bool :=
  index.1.parts.any fun part => plan.executable.any fun target =>
    target.column = part.columnIndex &&
      !(index.2 = conflict && target.isSameColumnValuesReference)

/-- `project_insert_duplicate_updated_row_values`. -/
def projectUpdatedRowValues (current : List (PlannedValue Real))
    (assigned : List (Target Real × PlannedValue Real)) : List (PlannedValue Real) :=
  current.mapIdx fun column value =>
    ((assigned.find? fun assignment => assignment.1.column = column).map Prod.snd).getD value

/-- `insert_duplicate_key_tuple_has_null_part`. -/
def tupleHasNullPart (index : Index Real) (values : List (PlannedValue Real)) : Bool :=
  index.parts.any fun part => (values[part.columnIndex]?.map PlannedValue.isNull).getD true

/-- `unique_key_tuple_exists_excluding_insert_duplicate_row`. -/
def Plan.tupleExistsExcludingRow (candidate conflicting : Index Real) (rows : List (Row Real))
    (projected : List (PlannedValue Real)) : Bool :=
  rows.any fun stored =>
    Ternary.and (keyPredicate candidate stored (projected.map PlannedValue.bound))
      (Ternary.not (keyPredicate conflicting stored plan.row)) = some true

/-- `validate_insert_duplicate_key_assignment_conflicts`. -/
def Plan.validateKeyAssignmentConflicts (conflict : Nat) (conflicting : Index Real)
    (rows : List (Row Real)) (current : Option (List (PlannedValue Real)))
    (assigned : List (Target Real × PlannedValue Real)) : Except DuplicateUpdateError Unit :=
  let requiring := plan.indexes.zipIdx.filter fun index =>
    index.1.isUnique && plan.requiresValidation conflict index
  if requiring.isEmpty then .ok ()
  else
    match current.or (plan.fetchCurrentRowValues conflicting rows) with
    | none => .error .disappeared
    | some values =>
      let projected := projectUpdatedRowValues values assigned
      match requiring.find? fun index =>
        !index.1.parts.isEmpty && !tupleHasNullPart index.1 projected &&
          plan.tupleExistsExcludingRow index.1 conflicting rows projected with
      | some index =>
        if index.1.formats projected then .error (.duplicateKey index.2)
        else .error (.keyLookup .keyNotFormatted)
      | none => .ok ()

/-! The UPDATE. -/

/-- The right-hand side of an assignment in the SET clause. -/
def assignedValue (stored : Row Real) (assignment : Target Real × PlannedValue Real) :
    Option (SqliteValue Real) :=
  match assignment.1.value with
  | .rowScalar evaluate => evaluate stored
  | _ => some assignment.2.bound

/-- The SET clause, from the left. -/
def assignRow (stored : Row Real) :
    Row Real → List (Target Real × PlannedValue Real) → Option (Row Real)
  | row, [] => some row
  | row, assignment :: rest =>
    (assignedValue stored assignment).bind fun value =>
      assignRow stored (row.set assignment.1.column value) rest

/-- `append_insert_duplicate_changed_condition_sql`, and its like for a row scalar. -/
def Plan.changedCondition (stored : Row Real) (assignment : Target Real × PlannedValue Real) :
    Bool :=
  let old := stored.at assignment.1.column
  let differs := fun new =>
    match plan.descriptors[assignment.1.column]? with
    | none => false
    | some column => decide (column.normalize old ≠ column.normalize new)
  match assignedValue stored assignment with
  | none => false
  | some .null => old ≠ .null
  | some new => old = .null || differs new

end Execution

section Update

variable {Real : Type} [DecidableEq Real] [Inhabited Real]

/-- SQLite runs `UPDATE ... SET ... WHERE key AND changed` over the rows in turn. -/
def Plan.updateRows (plan : Plan Real) (conflicting : Index Real)
    (assigned : List (Target Real × PlannedValue Real)) :
    List (Row Real) → List (Row Real) → Except DuplicateUpdateError (List (Row Real) × Nat)
  | before, [] => .ok (before, 0)
  | before, stored :: rest =>
    if keyPredicate conflicting stored plan.row = some true then
      match assignRow stored stored assigned with
      | none => .error .evaluation
      | some updated =>
        if assigned.any (plan.changedCondition stored) then
          if !plan.admits updated then .error .otherConstraint
          else if plan.indexes.any fun index =>
              index.isUnique && (before ++ rest).any (index.sameTuple · updated) then
            .error .uniqueConstraint
          else
            (plan.updateRows conflicting assigned (before ++ [updated]) rest).map fun result =>
              (result.1, result.2 + 1)
        else plan.updateRows conflicting assigned (before ++ [stored]) rest
    else plan.updateRows conflicting assigned (before ++ [stored]) rest

/-- `handle_insert_duplicate_key_update` and `apply_insert_duplicate_key_update`: the rows,
and what is added to the affected rows. -/
def Plan.applyInsertDuplicateKeyUpdate (plan : Plan Real) (rows : List (Row Real)) :
    Except DuplicateUpdateError (List (Row Real) × Nat) :=
  match plan.findInsertUniqueKeyConflict rows with
  | .error error => .error (.keyLookup error)
  | .ok (conflicting, conflict) =>
    match plan.convertUpdateValues conflicting rows with
    | none => .error .notConverted
    | some (current, assigned) =>
      match plan.validateKeyAssignmentConflicts conflict conflicting rows current assigned with
      | .error error => .error error
      | .ok () =>
        if plan.executable.isEmpty then .ok (rows, 0)
        else
          (plan.updateRows conflicting assigned [] rows).map fun result =>
            (result.1, if 0 < result.2 then 2 else 0)

end Update

end MyLite.DuplicateUpdate
