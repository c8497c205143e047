import Mathlib.Data.List.Basic
import Mathlib.Tactic.Common

/-! Tables of rows and the foreign keys between them. Tables, columns and values
are arbitrary; `sqlEq` is the comparison that the generated SQL uses on a key. -/

namespace MyLite.Runtime

/-- A stored row; NULL is `none`. -/
structure Row (Col Val : Type) where
  rowid : Int
  value : Col → Option Val

abbrev Database (Tab Col Val : Type) := Tab → List (Row Col Val)

inductive ReferentialRule where
  | noAction
  | restrict
  | cascade
  | setNull
  deriving DecidableEq, Repr

/-- `struct loaded_foreign_key_info`. A part pairs a child column with the parent
column it references. -/
structure ForeignKey (Tab Col : Type) where
  childTable : Tab
  parentTable : Tab
  parts : List (Col × Col)
  deleteRule : ReferentialRule
  updateRule : ReferentialRule
  parts_nonempty : parts ≠ []

variable {Tab Col Val : Type} (sqlEq : Val → Val → Bool)

/-- SQL equality: NULL equals nothing. -/
def valuesMatch : Option Val → Option Val → Bool
  | some a, some b => sqlEq a b
  | _, _ => false

/-- `append_foreign_key_parent_match_checks`: every part of the child's key equals
the parent's. -/
def keysMatch (fk : ForeignKey Tab Col) (child parent : Row Col Val) : Bool :=
  fk.parts.all fun part => valuesMatch sqlEq (child.value part.1) (parent.value part.2)

/-- `append_foreign_key_child_not_null_checks`. -/
def childKeyNotNull (fk : ForeignKey Tab Col) (child : Row Col Val) : Bool :=
  fk.parts.all fun part => (child.value part.1).isSome

/-- The rows that `build_foreign_key_validation_sql` looks for. -/
def dangling (db : Database Tab Col Val) (fk : ForeignKey Tab Col) (child : Row Col Val) : Bool :=
  childKeyNotNull fk child && !(db fk.parentTable).any fun parent => keysMatch sqlEq fk child parent

def Holds (db : Database Tab Col Val) (fk : ForeignKey Tab Col) : Prop :=
  ∀ child ∈ db fk.childTable, dangling sqlEq db fk child = false

/-- The query of `validate_foreign_key_references`. -/
def foreignKeyHolds (db : Database Tab Col Val) (fk : ForeignKey Tab Col) : Bool :=
  !(db fk.childTable).any fun child => dangling sqlEq db fk child

/-- `append_foreign_key_child_set_null_assignments_sql`. -/
def setKeyNull [DecidableEq Col] (fk : ForeignKey Tab Col) (child : Row Col Val) : Row Col Val :=
  { child with value := fun col => if col ∈ fk.parts.map Prod.fst then none else child.value col }

/-- `mylite_execution_load_parent_foreign_key_infos`, in catalog order. -/
def parentForeignKeys [DecidableEq Tab] (catalog : List (ForeignKey Tab Col)) (table : Tab) :
    List (ForeignKey Tab Col) :=
  catalog.filter fun fk => fk.parentTable = table

variable {sqlEq}

theorem foreignKeyHolds_iff {db : Database Tab Col Val} {fk : ForeignKey Tab Col} :
    foreignKeyHolds sqlEq db fk = true ↔ Holds sqlEq db fk := by
  simp [foreignKeyHolds, Holds]

theorem dangling_eq_false_iff {db : Database Tab Col Val} {fk : ForeignKey Tab Col}
    {child : Row Col Val} :
    dangling sqlEq db fk child = false ↔
      (childKeyNotNull fk child = true →
        ∃ parent ∈ db fk.parentTable, keysMatch sqlEq fk child parent = true) := by
  cases notNull : childKeyNotNull fk child <;> simp [dangling, notNull]

theorem keysMatch_notNull {fk : ForeignKey Tab Col} {child parent : Row Col Val}
    (matched : keysMatch sqlEq fk child parent = true) : childKeyNotNull fk child = true := by
  simp only [keysMatch, childKeyNotNull, List.all_eq_true] at matched ⊢
  intro part member
  have found := matched part member
  cases value : child.value part.1 with
  | none => simp [valuesMatch, value] at found
  | some v => rfl

theorem keysMatch_congr {fk : ForeignKey Tab Col} {child child' parent : Row Col Val}
    (same : ∀ part ∈ fk.parts, child'.value part.1 = child.value part.1) :
    keysMatch sqlEq fk child' parent = keysMatch sqlEq fk child parent := by
  simp only [keysMatch]
  rw [Bool.eq_iff_iff, List.all_eq_true, List.all_eq_true]
  exact forall₂_congr fun part member => by rw [same part member]

end MyLite.Runtime
