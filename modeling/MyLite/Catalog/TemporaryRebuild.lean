import MyLite.Catalog.TemporaryRuns

/-! The rebuild of a temporary table from its descriptors after a rollback,
`rebuild_temporary_create_table_plan`. -/
namespace MyLite.TemporaryCatalog

structure PlannedColumn where
  name : String
  isNullable : Bool
  isPrimaryKey : Bool := false
  deriving DecidableEq, Repr

structure PlannedPrimaryKeyPart where
  columnIndex : Nat
  sortDirection : SortDirection
  deriving DecidableEq, Repr

structure PlannedSecondaryIndexPart where
  columnIndex : Nat
  prefixLength : Option Int
  sortDirection : SortDirection
  deriving DecidableEq, Repr

structure PlannedSecondaryIndex where
  indexId : Int
  kind : IndexKind
  isUnique : Bool
  name : String
  physicalName : String
  parts : List PlannedSecondaryIndexPart
  deriving DecidableEq, Repr

structure PlannedCreateTable where
  schemaName : String
  tableName : String
  autoIncrementNext : Int
  comment : String
  columns : List PlannedColumn
  hasPrimaryKey : Bool := false
  primaryKeyIndexId : Int := 0
  primaryKeyPhysicalName : String := ""
  primaryKeyParts : List PlannedPrimaryKeyPart := []
  secondaryIndexes : List PlannedSecondaryIndex := []
  deriving DecidableEq, Repr

/-- The places of the rebuild that return `MYLITE_ERROR`. -/
inductive RebuildFailure where
  | emptyIndex
  | missingPart
  | missingColumn
  | unsupportedKind
  deriving DecidableEq, Repr

def temporaryIndexPartCount (table : CatalogTable) (indexId : Int) : Nat :=
  (table.partsOf indexId).length

def temporaryIndexPartByOrdinal (table : CatalogTable) (indexId ordinalPosition : Int) :
    Option IndexColumnDescriptor :=
  table.indexColumns.find? fun part =>
    part.indexId = indexId && part.ordinalPosition = ordinalPosition

def temporaryColumnIndexById (table : CatalogTable) (columnId : Int) : Option Nat :=
  table.columns.findIdx? fun column => column.columnId = columnId

/-- The part of an index with an ordinal position and the position of its column. -/
def rebuiltPart (table : CatalogTable) (indexId : Int) (partIndex : Nat) :
    Except RebuildFailure (IndexColumnDescriptor × Nat) :=
  match temporaryIndexPartByOrdinal table indexId ((partIndex : Int) + 1) with
  | none => .error .missingPart
  | some part =>
    match temporaryColumnIndexById table part.columnId with
    | none => .error .missingColumn
    | some columnIndex => .ok (part, columnIndex)

/-- The loop over the parts of an index, from a part on. -/
def rebuiltParts (table : CatalogTable) (indexId : Int) (partIndex : Nat) :
    Nat → Except RebuildFailure (List (IndexColumnDescriptor × Nat))
  | 0 => .ok []
  | count + 1 =>
    match rebuiltPart table indexId partIndex with
    | .error failure => .error failure
    | .ok part => (rebuiltParts table indexId (partIndex + 1) count).map (part :: ·)

def markPrimaryKey (columns : List PlannedColumn) (part : IndexColumnDescriptor × Nat) :
    List PlannedColumn :=
  columns.modify part.2 fun column => { column with isPrimaryKey := true, isNullable := false }

def rebuildPrimaryIndex (table : CatalogTable) (index : IndexDescriptor)
    (plan : PlannedCreateTable) : Except RebuildFailure PlannedCreateTable :=
  let partCount := temporaryIndexPartCount table index.indexId
  if partCount = 0 then .error .emptyIndex
  else
    (rebuiltParts table index.indexId 0 partCount).map fun parts =>
      { plan with
        hasPrimaryKey := true
        primaryKeyIndexId := index.indexId
        primaryKeyPhysicalName := index.physicalName
        primaryKeyParts := plan.primaryKeyParts ++
          parts.map fun part => ⟨part.2, part.1.sortDirection⟩
        columns := parts.foldl markPrimaryKey plan.columns }

def rebuildSecondaryIndex (table : CatalogTable) (index : IndexDescriptor)
    (plan : PlannedCreateTable) : Except RebuildFailure PlannedCreateTable :=
  let partCount := temporaryIndexPartCount table index.indexId
  if partCount = 0 then .error .emptyIndex
  else
    (rebuiltParts table index.indexId 0 partCount).map fun parts =>
      { plan with
        secondaryIndexes := plan.secondaryIndexes ++
          [{ indexId := index.indexId
             kind := index.kind
             isUnique := index.isUnique
             name := index.name
             physicalName := index.physicalName
             parts := parts.map fun part =>
              ⟨part.2, part.1.prefixLength, part.1.sortDirection⟩ }] }

/-- The loop of `rebuild_temporary_create_table_indexes`. -/
def rebuildIndexes (table : CatalogTable) :
    List IndexDescriptor → PlannedCreateTable → Except RebuildFailure PlannedCreateTable
  | [], plan => .ok plan
  | index :: rest, plan =>
    match
      match index.kind with
      | .primary => rebuildPrimaryIndex table index plan
      | .secondary => rebuildSecondaryIndex table index plan
      | .fulltext | .spatial => .error .unsupportedKind with
    | .error failure => .error failure
    | .ok plan => rebuildIndexes table rest plan

def rebuildTemporaryCreateTablePlan (table : CatalogTable) :
    Except RebuildFailure PlannedCreateTable :=
  rebuildIndexes table table.indexes
    { schemaName := table.schemaName
      tableName := table.table.name
      autoIncrementNext :=
        if table.table.autoIncrementNext > 0 then table.table.autoIncrementNext else 1
      comment := table.table.comment
      columns := table.columns.map fun column =>
        { name := column.name, isNullable := column.isNullable } }

section Rebuild
variable {table : CatalogTable}

theorem rebuiltPart_ok (well : table.WellFormed) {index : IndexDescriptor}
    (mem : index ∈ table.indexes) {partIndex : Nat}
    (inside : partIndex < temporaryIndexPartCount table index.indexId) :
    ∃ part, rebuiltPart table index.indexId partIndex = .ok part := by
  obtain ⟨-, ordinals⟩ := well.partOrdinals index mem
  have counted : ((partIndex : Int) + 1) ∈
      (table.partsOf index.indexId).map (·.ordinalPosition) := by
    rw [ordinals]
    exact List.mem_map.mpr ⟨partIndex, List.mem_range.mpr inside, rfl⟩
  obtain ⟨part, found, ordinal⟩ := List.mem_map.mp counted
  obtain ⟨there, own⟩ := List.mem_filter.mp found
  unfold rebuiltPart
  cases read : temporaryIndexPartByOrdinal table index.indexId ((partIndex : Int) + 1) with
  | none =>
    have absent := List.find?_eq_none.mp read part there
    simp [of_decide_eq_true own, ordinal] at absent
  | some readPart =>
    have stored := List.mem_of_find?_eq_some read
    dsimp only
    cases named : temporaryColumnIndexById table readPart.columnId with
    | none =>
      obtain ⟨column, listed, same⟩ := List.mem_map.mp (well.partColumns readPart stored)
      have absent := List.findIdx?_eq_none_iff.mp named column listed
      simp [same] at absent
    | some columnIndex => exact ⟨_, rfl⟩

theorem rebuiltParts_ok (well : table.WellFormed) {index : IndexDescriptor}
    (mem : index ∈ table.indexes) (partIndex count : Nat)
    (inside : partIndex + count ≤ temporaryIndexPartCount table index.indexId) :
    ∃ parts, rebuiltParts table index.indexId partIndex count = .ok parts := by
  induction count generalizing partIndex with
  | zero => exact ⟨[], rfl⟩
  | succ count ih =>
    obtain ⟨part, first⟩ := rebuiltPart_ok well mem (show partIndex < _ by omega)
    obtain ⟨parts, rest⟩ := ih (partIndex + 1) (by omega)
    exact ⟨part :: parts, by rw [rebuiltParts, first, rest]; rfl⟩

/-- The indexes of a well formed table are rebuilt, but for those of an unsupported kind. -/
theorem rebuildIndexes_failure (well : table.WellFormed) {indexes : List IndexDescriptor}
    (listed : ∀ index ∈ indexes, index ∈ table.indexes) {plan : PlannedCreateTable}
    {failure : RebuildFailure} (failed : rebuildIndexes table indexes plan = .error failure) :
    failure = .unsupportedKind := by
  induction indexes generalizing plan with
  | nil => cases failed
  | cons index rest ih =>
    obtain ⟨here, later⟩ := List.forall_mem_cons.mp listed
    obtain ⟨some, -⟩ := well.partOrdinals index here
    have counted : temporaryIndexPartCount table index.indexId ≠ 0 :=
      fun none => some (List.eq_nil_of_length_eq_zero none)
    obtain ⟨parts, read⟩ := rebuiltParts_ok well here 0 _ (Nat.le_of_eq (Nat.zero_add _))
    unfold rebuildIndexes at failed
    cases kind : index.kind with
    | primary =>
      simp only [kind, rebuildPrimaryIndex, if_neg counted, read] at failed
      exact ih later failed
    | secondary =>
      simp only [kind, rebuildSecondaryIndex, if_neg counted, read] at failed
      exact ih later failed
    | fulltext =>
      simp only [kind] at failed
      exact (Except.error.inj failed).symm
    | spatial =>
      simp only [kind] at failed
      exact (Except.error.inj failed).symm

end Rebuild

/-- What a run leaves behind. -/
structure Kept (operations : List Operation) : Prop where
  consistent : (Machine.final step {} operations).Consistent
  freshIds : ∀ kind, (allocated kind {} operations).Nodup
  errors : ∀ operation, (step (Machine.final step {} operations) operation).2.status ≠ .ok →
    (step (Machine.final step {} operations) operation).1.tables =
        (Machine.final step {} operations).tables ∧
      (operation.allocates = none → (step (Machine.final step {} operations) operation).1 =
        Machine.final step {} operations)
  others : ∀ operation tableId, (∀ target, operation.target = some target → target = tableId) →
    (step (Machine.final step {} operations) operation).1.tables.filter
        (fun table => table.table.tableId ≠ tableId) =
      (Machine.final step {} operations).tables.filter fun table => table.table.tableId ≠ tableId
  rebuilds : ∀ table ∈ (Machine.final step {} operations).tables, ∀ failure,
    rebuildTemporaryCreateTablePlan table = .error failure → failure = .unsupportedKind

theorem final_consistent {catalog : Catalog} (consistent : catalog.Consistent)
    {operations : List Operation} (meets : Machine.Along step Meets catalog operations) :
    (Machine.final step catalog operations).Consistent := by
  induction operations generalizing catalog with
  | nil => exact consistent
  | cons operation rest ih => exact ih (step_consistent consistent meets.1) meets.2

theorem initial_consistent : Catalog.Consistent {} where
  names := List.nodup_nil
  ids := List.nodup_nil
  tables := fun _ none => absurd none List.not_mem_nil

/-- A run whose operations fit the catalog keeps its descriptors together, and every table in it
can be rebuilt. -/
theorem temporary_catalog_kept (operations : List Operation)
    (meets : Machine.Along step Meets {} operations) : Kept operations where
  consistent := final_consistent initial_consistent meets
  freshIds := fun kind => (allocated_descends kind {} operations).1
  errors := fun _ failed => step_error failed
  others := fun _ _ about => step_others about
  rebuilds := by
    intro table mem failure failed
    have well := (final_consistent initial_consistent meets).tables table mem
    exact rebuildIndexes_failure well (fun _ listed => listed) failed

/-- `CREATE TEMPORARY TABLE t (a, b, KEY k (b))`. -/
def keyedTable : CatalogTable where
  schemaName := "s"
  table :=
    { tableId := -1, name := "t", physicalName := "_mylite_temp_table_1", autoIncrementNext := 1
      comment := "" }
  columns :=
    [{ columnId := -1, tableId := -1, ordinalPosition := 1, name := "a", isNullable := true },
      { columnId := -2, tableId := -1, ordinalPosition := 2, name := "b", isNullable := true }]
  indexes :=
    [{ indexId := -1, tableId := -1, name := "k", kind := .secondary, isUnique := false
       physicalName := "_mylite_temp_index_1" }]
  indexColumns :=
    [{ indexColumnId := -1, indexId := -1, tableId := -1, columnId := -2, ordinalPosition := 1
       prefixLength := none, sortDirection := .asc }]

theorem keyedTable_wellFormed : keyedTable.WellFormed := by
  constructor <;> decide

theorem temporary_catalog_kept_drop :
    Kept [.allocateTableIdentity 128, .appendTable keyedTable, .removeColumnById (-1) (-1),
      .removeIndexById (-1) (-1)] := by
  refine temporary_catalog_kept _ ⟨trivial, ⟨keyedTable_wellFormed, by decide⟩, ?_, trivial,
    trivial⟩
  intro table found part mem
  cases found
  cases List.mem_singleton.mp mem
  decide

/-- `t` made with identifiers of the catalog, and the column of `k` removed. -/
def removedColumnRun : List Operation :=
  [.allocateTableIdentity 128, .allocateIndexIdentity 128, .allocateColumnId, .allocateColumnId,
    .allocateIndexColumnId, .appendTable keyedTable, .removeColumnById (-1) (-2)]

/-- The part of `k` stays behind, and the rebuild fails on its column. -/
theorem removed_column_dangles : ¬Kept removedColumnRun := by
  intro kept
  have run : (Machine.final step {} removedColumnRun).tables =
      [{ keyedTable with columns := keyedTable.columns.take 1 }] := by decide +kernel
  have failed : rebuildTemporaryCreateTablePlan
      { keyedTable with columns := keyedTable.columns.take 1 } = .error .missingColumn := by
    decide +kernel
  have cause := kept.rebuilds _ (run ▸ List.mem_singleton.mpr rfl) _ failed
  cases cause

end MyLite.TemporaryCatalog
