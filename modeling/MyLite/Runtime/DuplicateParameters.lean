import MyLite.Library.Placeholders
import MyLite.Runtime.Replace

/-! The UPDATE of ON DUPLICATE KEY UPDATE as SQL text with numbered parameters, and what is bound
to them. -/

namespace MyLite.DuplicateParameters

open Placeholders
open Replace (SqliteValue PlannedValue)

inductive UpdateError where
  | error
  | misuse
  | runtime (message : String)
  deriving DecidableEq, Repr

inductive SqlText where
  | sql (text : String)
  | quotedIdentifier (name : String)
  deriving DecidableEq, Repr

abbrev Sql := List (Segment SqlText)

/-- What SQLite reads as the number of a parameter and what is bound to it. -/
abbrev Bindings (Real : Type) := List (Nat × SqliteValue Real)

/-- `struct planned_row_scalar_expression`. `reference` is the column of a `VALUES()`, and the
details are the fields that have no values in them. -/
inductive RowScalarExpression (Details Real : Type) where
  | node (details : Details) (value : PlannedValue Real) (reference : Option Nat)
      (arguments : List (RowScalarExpression Details Real))

/-- What the SQL text of an expression is made from. -/
inductive Shape (Details : Type) where
  | node (details : Details) (arguments : List (Shape Details))

/-- A literal and an arithmetic assignment come with what their conversions leave. -/
inductive AssignedValue (Details Real : Type) where
  | literal (converted : Except UpdateError (PlannedValue Real))
  | valuesReference (valuesColumnIndex : Nat)
  | sameColumnArithmetic (converted : Except UpdateError (PlannedValue Real))
  | rowScalar (expression : RowScalarExpression Details Real)

structure Assignment (Details Real : Type) where
  assignmentColumnIndex : Nat
  value : AssignedValue Details Real
  generatedDefaultNoop : Bool

/-- `struct loaded_index_part`. The collation is what a key of the column is compared under,
TEXT columns counting or not; a name that is not known is an error. -/
structure LoadedIndexPart where
  columnIndex : Nat
  columnName : String
  prefixLength : Option Int
  keyCollation : Bool → Except UpdateError (Option String)

/-- The row to insert, and the clause. -/
structure Plan (Details Real : Type) where
  physicalName : String
  columns : List String
  values : List (PlannedValue Real)
  assignments : List (Assignment Details Real)
  full : values.length = columns.length
  inRange : ∀ assignment ∈ assignments, assignment.assignmentColumnIndex < columns.length
  referencesInRange : ∀ assignment ∈ assignments, ∀ column,
    assignment.value = .valuesReference column → column < values.length

/-- `append_row_scalar_expression_sql`, as the text with a hole for every parameter it takes, and
`bind_row_scalar_expression_parameters`, as what it binds in turn. -/
structure RowScalars (Details Real : Type) where
  sql : Shape Details → Except UpdateError (Template SqlText)
  values : RowScalarExpression Details Real → Except UpdateError (List (PlannedValue Real))

section Expressions

variable {Details Real : Type}

mutual

def RowScalarExpression.shape : RowScalarExpression Details Real → Shape Details
  | .node details _ _ arguments => .node details (shapes arguments)

def shapes : List (RowScalarExpression Details Real) → List (Shape Details)
  | [] => []
  | argument :: arguments => argument.shape :: shapes arguments

end

/-- The value of a node: of a `VALUES()`, that of the row. -/
def referencedValue (row : List (PlannedValue Real)) (value : PlannedValue Real) :
    Option Nat → Except UpdateError (PlannedValue Real)
  | none => .ok value
  | some column =>
    match row[column]? with
    | none => .error (.runtime "invalid INSERT VALUES() row-scalar reference")
    | some value => .ok value

mutual

/-- `materialize_insert_duplicate_row_scalar_expression`. -/
def materialize (row : List (PlannedValue Real)) :
    RowScalarExpression Details Real → Except UpdateError (RowScalarExpression Details Real)
  | .node details value reference arguments =>
    (referencedValue row value reference).bind fun value =>
    (materializeArguments row arguments).map fun arguments => .node details value none arguments

def materializeArguments (row : List (PlannedValue Real)) :
    List (RowScalarExpression Details Real) →
      Except UpdateError (List (RowScalarExpression Details Real))
  | [] => .ok []
  | argument :: arguments =>
    (materialize row argument).bind fun argument =>
    (materializeArguments row arguments).map fun arguments => argument :: arguments

end

end Expressions

section Loops

variable {Item Real : Type}

/-- The items one after the other, with a separator before all but the first. -/
def appendEach (separator : String) (append : Nat → Item → Except UpdateError (Sql × Nat))
    (hasPrevious : Bool) (nextParameter : Nat) : List Item → Except UpdateError (Sql × Nat)
  | [] => .ok ([], nextParameter)
  | item :: items =>
    (append nextParameter item).bind fun appended =>
    (appendEach separator append true appended.2 items).map fun rest =>
      ((if hasPrevious then [.text (.sql separator)] else []) ++ appended.1 ++ rest.1, rest.2)

def bindEach (bind : Nat → Item → Except UpdateError (Bindings Real × Nat))
    (parameterIndex : Nat) : List Item → Except UpdateError (Bindings Real × Nat)
  | [] => .ok ([], parameterIndex)
  | item :: items =>
    (bind parameterIndex item).bind fun bound =>
    (bindEach bind bound.2 items).map fun rest => (bound.1 ++ rest.1, rest.2)

/-- `bind_planned_value_parameter`. -/
def bindPlannedValueParameter (parameterIndex : Nat) (value : PlannedValue Real) :
    Bindings Real × Nat :=
  ([(parameterIndex, value.bound)], parameterIndex + 1)

end Loops

section Builder

variable {Details Real : Type}

/-- `insert_duplicate_assignment_is_noop`. -/
def Assignment.isNoop (assignment : Assignment Details Real) : Bool :=
  assignment.generatedDefaultNoop

/-- What the loops do not pass over. -/
def Plan.executable (plan : Plan Details Real) : List (Assignment Details Real) :=
  plan.assignments.filter fun assignment => !assignment.isNoop

def Plan.columnName (plan : Plan Details Real) (columnIndex : Nat) : String :=
  plan.columns.getD columnIndex ""

def words (texts : List SqlText) : Sql := texts.map .text

/-- ` COLLATE ` and the name, for a key that has a collation of its own. -/
def LoadedIndexPart.collationSql (part : LoadedIndexPart) (includeTextFamily : Bool) :
    Except UpdateError (List SqlText) :=
  (part.keyCollation includeTextFamily).map fun
    | none => []
    | some sqliteName => [.sql " COLLATE ", .quotedIdentifier sqliteName]

/-- `append_loaded_key_part_sql`. -/
def LoadedIndexPart.sql (part : LoadedIndexPart) : Except UpdateError (List SqlText) :=
  match part.prefixLength with
  | some length =>
    (part.collationSql true).map fun collation =>
      [.sql "substr(", .quotedIdentifier part.columnName, .sql ", 1, ", .sql (toString length),
        .sql ")"] ++ collation
  | none =>
    (part.collationSql false).map fun collation => .quotedIdentifier part.columnName :: collation

/-- `append_loaded_key_part_parameter_sql`. -/
def LoadedIndexPart.parameterSql (part : LoadedIndexPart) (parameterIndex : Nat) :
    Except UpdateError Sql :=
  match part.prefixLength with
  | some length =>
    (part.collationSql true).map fun collation =>
      words [.sql "substr("] ++ [.parameter parameterIndex] ++
        words ([.sql ", 1, ", .sql (toString length), .sql ")"] ++ collation)
  | none => .ok [.parameter parameterIndex]

def LoadedIndexPart.equalitySql (nextParameter : Nat) (part : LoadedIndexPart) :
    Except UpdateError (Sql × Nat) :=
  part.sql.bind fun column =>
  (part.parameterSql nextParameter).map fun parameter =>
    (words (column ++ [.sql " = "]) ++ parameter, nextParameter + 1)

/-- `append_insert_duplicate_key_predicate_sql_from_parameters`. -/
def keyPredicateSqlFromParameters (index : List LoadedIndexPart) (firstParameter : Nat) :
    Except UpdateError Sql :=
  if index.isEmpty then .error .error
  else (appendEach " AND " LoadedIndexPart.equalitySql false firstParameter index).map Prod.fst

/-- `append_insert_duplicate_key_predicate_sql`. -/
def keyPredicateSql (index : List LoadedIndexPart) (nextParameter : Nat) :
    Except UpdateError (Sql × Nat) :=
  (keyPredicateSqlFromParameters index nextParameter).map fun sql =>
    (sql, nextParameter + index.length)

/-- `append_row_scalar_expression_sql` from a parameter on. -/
def RowScalars.appendSql (scalars : RowScalars Details Real) (nextParameter : Nat)
    (expression : RowScalarExpression Details Real) : Except UpdateError (Sql × Nat) :=
  (scalars.sql expression.shape).map fun template =>
    (template.partsFrom nextParameter, nextParameter + template.holes)

variable (scalars : RowScalars Details Real) (plan : Plan Details Real)

/-- A turn of the loop of `append_insert_duplicate_assignments_sql`. -/
def Plan.assignmentSql (nextParameter : Nat) (assignment : Assignment Details Real) :
    Except UpdateError (Sql × Nat) :=
  let column : Sql :=
    words [.quotedIdentifier (plan.columnName assignment.assignmentColumnIndex), .sql " = "]
  match assignment.value with
  | .rowScalar expression =>
    (scalars.appendSql nextParameter expression).map fun value => (column ++ value.1, value.2)
  | _ => .ok (column ++ [.parameter nextParameter], nextParameter + 1)

/-- `append_insert_duplicate_assignments_sql`. -/
def Plan.assignmentsSql (nextParameter : Nat) : Except UpdateError (Sql × Nat) :=
  appendEach ", " (plan.assignmentSql scalars) false nextParameter plan.executable

/-- `append_update_assignment_row_scalar_changed_condition_sql`. -/
def rowScalarChangedConditionSql (column : String)
    (expression : RowScalarExpression Details Real) (nextParameter : Nat) :
    Except UpdateError (Sql × Nat) :=
  (scalars.appendSql nextParameter expression).bind fun whenNull =>
  (scalars.appendSql whenNull.2 expression).bind fun whenNotNull =>
  (scalars.appendSql whenNotNull.2 expression).map fun compared =>
    (words [.sql "(", .quotedIdentifier column, .sql " IS NULL AND "] ++ whenNull.1 ++
      words [.sql " IS NOT NULL OR ", .quotedIdentifier column, .sql " IS NOT NULL AND "] ++
      whenNotNull.1 ++
      words [.sql " IS NULL OR ", .quotedIdentifier column, .sql " <> "] ++ compared.1 ++
      words [.sql ")"], compared.2)

/-- `append_insert_duplicate_changed_condition_sql`. -/
def changedConditionSql (column : String) (value : PlannedValue Real) (nextParameter : Nat) :
    Sql × Nat :=
  if value.isNull then (words [.quotedIdentifier column, .sql " IS NOT NULL"], nextParameter)
  else
    (words [.sql "(", .quotedIdentifier column, .sql " IS NULL OR ", .quotedIdentifier column,
      .sql " <> "] ++ [.parameter nextParameter] ++ words [.sql ")"], nextParameter + 1)

/-- The assignments with their values, `struct insert_duplicate_assignment_values`, less those
the loops pass over. -/
def executableValues
    (values : List (Assignment Details Real × PlannedValue Real)) :
    List (Assignment Details Real × PlannedValue Real) :=
  values.filter fun assigned => !assigned.1.isNoop

def Plan.assignedConditionSql (nextParameter : Nat)
    (assigned : Assignment Details Real × PlannedValue Real) : Except UpdateError (Sql × Nat) :=
  match assigned.1.value with
  | .rowScalar expression =>
    rowScalarChangedConditionSql scalars (plan.columnName assigned.1.assignmentColumnIndex)
      expression nextParameter
  | _ =>
    .ok (changedConditionSql (plan.columnName assigned.1.assignmentColumnIndex) assigned.2
      nextParameter)

/-- `append_insert_duplicate_changed_conditions_sql`. -/
def Plan.changedConditionsSql (values : List (Assignment Details Real × PlannedValue Real))
    (nextParameter : Nat) : Except UpdateError (Sql × Nat) :=
  (appendEach " OR " (plan.assignedConditionSql scalars) false nextParameter
    (executableValues values)).map fun conditions =>
  (words [.sql "("] ++ conditions.1 ++ words [.sql ")"], conditions.2)

/-- `build_insert_duplicate_update_sql`. -/
def Plan.buildUpdateSql (conflictingIndex : List LoadedIndexPart)
    (values : List (Assignment Details Real × PlannedValue Real)) : Except UpdateError Sql :=
  if conflictingIndex.isEmpty then .error .error
  else if plan.executable.isEmpty then .error .error
  else
    (plan.assignmentsSql scalars 1).bind fun assignments =>
    (keyPredicateSql conflictingIndex assignments.2).bind fun predicate =>
    (plan.changedConditionsSql scalars values predicate.2).map fun conditions =>
      words [.sql "UPDATE ", .quotedIdentifier plan.physicalName, .sql " SET "] ++
        assignments.1 ++ words [.sql " WHERE "] ++ predicate.1 ++ words [.sql " AND "] ++
        conditions.1

end Builder

section Binder

variable {Details Real : Type} (scalars : RowScalars Details Real) (plan : Plan Details Real)

def nullValue [Inhabited Real] : PlannedValue Real :=
  ⟨true, false, false, false, 0, default, [], none⟩

/-- `convert_insert_duplicate_update_value`, and the `VALUES()` that are taken as they are. -/
def Plan.convertUpdateValue [Inhabited Real] (assignment : Assignment Details Real) :
    Except UpdateError (PlannedValue Real) :=
  match assignment.value with
  | .valuesReference column => .ok (plan.values.getD column nullValue)
  | .sameColumnArithmetic converted => converted
  | .rowScalar _ => .ok nullValue
  | .literal converted => if assignment.isNoop then .ok nullValue else converted

def convertEach (convert : Assignment Details Real → Except UpdateError (PlannedValue Real)) :
    List (Assignment Details Real) →
      Except UpdateError (List (Assignment Details Real × PlannedValue Real))
  | [] => .ok []
  | assignment :: assignments =>
    (convert assignment).bind fun value =>
    (convertEach convert assignments).map fun values => (assignment, value) :: values

/-- `convert_insert_duplicate_update_values`. -/
def Plan.convertUpdateValues [Inhabited Real] :
    Except UpdateError (List (Assignment Details Real × PlannedValue Real)) :=
  convertEach plan.convertUpdateValue plan.assignments

/-- `bind_row_scalar_expression_parameters` of the materialized expression. -/
def RowScalars.bind (parameterIndex : Nat) (row : List (PlannedValue Real))
    (expression : RowScalarExpression Details Real) :
    Except UpdateError (Bindings Real × Nat) :=
  (materialize row expression).bind fun materialized =>
  (scalars.values materialized).map fun values =>
    (bindFrom parameterIndex (values.map PlannedValue.bound), parameterIndex + values.length)

/-- A turn of the loop of `bind_insert_duplicate_assignment_parameters`. -/
def Plan.bindAssignment (parameterIndex : Nat)
    (assigned : Assignment Details Real × PlannedValue Real) :
    Except UpdateError (Bindings Real × Nat) :=
  match assigned.1.value with
  | .rowScalar expression => scalars.bind parameterIndex plan.values expression
  | _ => .ok (bindPlannedValueParameter parameterIndex assigned.2)

/-- `bind_insert_duplicate_assignment_parameters`. -/
def Plan.bindAssignments (parameterIndex : Nat)
    (values : List (Assignment Details Real × PlannedValue Real)) :
    Except UpdateError (Bindings Real × Nat) :=
  bindEach (plan.bindAssignment scalars) parameterIndex (executableValues values)

def Plan.bindKeyPart (parameterIndex : Nat) (part : LoadedIndexPart) :
    Except UpdateError (Bindings Real × Nat) :=
  match plan.values[part.columnIndex]? with
  | none => .error .error
  | some value => .ok (bindPlannedValueParameter parameterIndex value)

/-- `bind_update_row_scalar_changed_condition_parameters`. -/
def RowScalars.bindChangedCondition (parameterIndex : Nat) (row : List (PlannedValue Real))
    (expression : RowScalarExpression Details Real) :
    Except UpdateError (Bindings Real × Nat) :=
  bindEach (fun index (_ : Nat) => scalars.bind index row expression) parameterIndex
    (List.range 3)

def Plan.bindChangedCondition (parameterIndex : Nat)
    (assigned : Assignment Details Real × PlannedValue Real) :
    Except UpdateError (Bindings Real × Nat) :=
  match assigned.1.value with
  | .rowScalar expression => scalars.bindChangedCondition parameterIndex plan.values expression
  | _ =>
    if assigned.2.isNull then .ok ([], parameterIndex)
    else .ok (bindPlannedValueParameter parameterIndex assigned.2)

/-- `bind_insert_duplicate_changed_condition_parameters`. -/
def Plan.bindChangedConditions (parameterIndex : Nat)
    (values : List (Assignment Details Real × PlannedValue Real)) :
    Except UpdateError (Bindings Real × Nat) :=
  bindEach (plan.bindChangedCondition scalars) parameterIndex (executableValues values)

/-- `bind_insert_duplicate_update_parameters`. -/
def Plan.bindUpdateParameters (conflictingIndex : List LoadedIndexPart)
    (values : List (Assignment Details Real × PlannedValue Real)) :
    Except UpdateError (Bindings Real) :=
  (plan.bindAssignments scalars 1 values).bind fun assignments =>
  (bindEach plan.bindKeyPart assignments.2 conflictingIndex).bind fun keys =>
  (plan.bindChangedConditions scalars keys.2 values).map fun conditions =>
    assignments.1 ++ keys.1 ++ conditions.1

end Binder

end MyLite.DuplicateParameters
