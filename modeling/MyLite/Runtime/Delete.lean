import Mathlib.Logic.Function.Basic
import MyLite.Runtime.ForeignKey

/-! `DELETE` on a parent table: the referential actions of its foreign keys, then
the rows themselves, in one transaction. Every generated statement evaluates the
selection of the plan again, on the tables as they are then. -/

namespace MyLite.Runtime

variable {Tab Col Val : Type} [DecidableEq Tab] [DecidableEq Col]

/-- `struct planned_delete`. `selects` is the WHERE clause, the join, or the rowid
subquery of an ORDER BY / LIMIT: which rows of `table` it picks in a given state. -/
structure DeletePlan (Tab Col Val : Type) where
  table : Tab
  isJoined : Bool
  /-- A column of `table` is written with its alias in the predicate, as next to or
  inside a subquery. -/
  writesTargetAlias : Bool
  selects : Database Tab Col Val → Row Col Val → Bool

inductive DeleteError (Tab Col : Type) where
  | rowIsReferenced (fk : ForeignKey Tab Col)
  | unsupported (message : String)
  | setNullConstraint (childTable : Tab)
  /-- SQLite does not prepare a generated statement. -/
  | physicalSqlite

/-- What SQLite provides: equality of key values, and whether the constraints of a
table let an UPDATE replace its rows. -/
structure Engine (Tab Col Val : Type) where
  sqlEq : Val → Val → Bool
  constraintsAllow : Tab → List (Row Col Val) → List (Row Col Val) → Bool

variable (engine : Engine Tab Col Val) (catalog : List (ForeignKey Tab Col))
  (plan : DeletePlan Tab Col Val)

/-- `append_parent_delete_child_key_filter_sql`: the child's key is in the keys of
the parent rows that the plan selects now. -/
def parentDeleteChildKeyFilter (db : Database Tab Col Val) (fk : ForeignKey Tab Col)
    (child : Row Col Val) : Bool :=
  (db fk.parentTable).any fun parent =>
    plan.selects db parent && keysMatch engine.sqlEq fk child parent

/-- Whether the names in that filter resolve. Without a join, `append_parent_delete_target_sql`
writes the predicate where the parent is named "p", or has no alias under a LIMIT. -/
def childKeyFilterPrepares : Bool :=
  plan.isJoined || !plan.writesTargetAlias

def rejectParentDeleteWithReferences (db : Database Tab Col Val) (fk : ForeignKey Tab Col) :
    Except (DeleteError Tab Col) (Database Tab Col Val) :=
  if ¬ childKeyFilterPrepares plan then .error .physicalSqlite
  else if (db fk.childTable).any (parentDeleteChildKeyFilter engine plan db fk) then
    .error (.rowIsReferenced fk)
  else .ok db

def executeParentDeleteCascade (db : Database Tab Col Val) (fk : ForeignKey Tab Col) :
    Except (DeleteError Tab Col) (Database Tab Col Val) :=
  if ¬ childKeyFilterPrepares plan then .error .physicalSqlite
  else .ok (Function.update db fk.childTable
    ((db fk.childTable).filter fun child => !parentDeleteChildKeyFilter engine plan db fk child))

def executeParentDeleteSetNull (db : Database Tab Col Val) (fk : ForeignKey Tab Col) :
    Except (DeleteError Tab Col) (Database Tab Col Val) :=
  let rows := (db fk.childTable).map fun child =>
    if parentDeleteChildKeyFilter engine plan db fk child then setKeyNull fk child else child
  if ¬ childKeyFilterPrepares plan then .error .physicalSqlite
  else if engine.constraintsAllow fk.childTable (db fk.childTable) rows then
    .ok (Function.update db fk.childTable rows)
  else .error (.setNullConstraint fk.childTable)

/-- `reject_unsupported_recursive_foreign_key_action`. -/
def rejectUnsupportedRecursiveForeignKeyAction (fk : ForeignKey Tab Col) :
    Except (DeleteError Tab Col) Unit :=
  if fk.childTable = fk.parentTable then
    .error (.unsupported "recursive foreign-key action is not supported")
  else if parentForeignKeys catalog fk.childTable ≠ [] then
    .error (.unsupported "recursive foreign-key action is not supported")
  else .ok ()

def applyParentDeleteAction (db : Database Tab Col Val) (fk : ForeignKey Tab Col) :
    Except (DeleteError Tab Col) (Database Tab Col Val) :=
  if fk.deleteRule ≠ .cascade ∧ fk.deleteRule ≠ .setNull then
    if fk.childTable ≠ fk.parentTable then rejectParentDeleteWithReferences engine plan db fk
    else .ok db
  else
    match rejectUnsupportedRecursiveForeignKeyAction catalog fk with
    | .error error => .error error
    | .ok () =>
      if fk.deleteRule = .setNull then executeParentDeleteSetNull engine plan db fk
      else executeParentDeleteCascade engine plan db fk

/-- The loop of `apply_parent_delete_actions`. -/
def applyParentDeleteActions (db : Database Tab Col Val) :
    List (ForeignKey Tab Col) → Except (DeleteError Tab Col) (Database Tab Col Val)
  | [] => .ok db
  | fk :: rest =>
    match applyParentDeleteAction engine catalog plan db fk with
    | .error error => .error error
    | .ok db => applyParentDeleteActions db rest

/-- `validate_self_referencing_parent_foreign_keys_after_delete`. -/
def validateSelfReferencingParentForeignKeysAfterDelete (db : Database Tab Col Val) :
    List (ForeignKey Tab Col) → Except (DeleteError Tab Col) Unit
  | [] => .ok ()
  | fk :: rest =>
    if fk.childTable = plan.table ∧ ¬ foreignKeyHolds engine.sqlEq db fk then
      .error (.rowIsReferenced fk)
    else validateSelfReferencingParentForeignKeysAfterDelete db rest

/-- The statements of `execute_delete_from_plan` inside its transaction. The deletion itself
names the table with the alias that the predicate uses. -/
def deleteTransaction (db : Database Tab Col Val) :
    Except (DeleteError Tab Col) (Database Tab Col Val) :=
  let parentForeignKeys := parentForeignKeys catalog plan.table
  match applyParentDeleteActions engine catalog plan db parentForeignKeys with
  | .error error => .error error
  | .ok acted =>
    let deleted := Function.update acted plan.table
      ((acted plan.table).filter fun row => !plan.selects acted row)
    match validateSelfReferencingParentForeignKeysAfterDelete engine plan deleted
        parentForeignKeys with
    | .error error => .error error
    | .ok () => .ok deleted

/-- A transaction that fails is rolled back. -/
def executeDeleteFromPlan (db : Database Tab Col Val) :
    Except (DeleteError Tab Col) Unit × Database Tab Col Val :=
  match deleteTransaction engine catalog plan db with
  | .error error => (.error error, db)
  | .ok deleted => (.ok (), deleted)

end MyLite.Runtime
