import MyLite.Catalog.TemporaryInvariant

/-! Runs of operations on the catalog of temporary tables. -/
namespace MyLite.TemporaryCatalog

/-! A table changed in place. -/

theorem findTableById_some {catalog : Catalog} {tableId : Int} {table : CatalogTable}
    (found : catalog.findTableById tableId = some table) :
    table ∈ catalog.tables ∧ table.table.tableId = tableId :=
  ⟨List.mem_of_find?_eq_some found, by simpa using List.find?_some found⟩

theorem mem_replaceTable {tableId : Int} {changed table : CatalogTable}
    {tables : List CatalogTable} (mem : table ∈ replaceTable tableId changed tables) :
    table = changed ∨ table ∈ tables := by
  induction tables with
  | nil => cases mem
  | cons first rest ih =>
    unfold replaceTable at mem
    split at mem
    · rcases List.mem_cons.mp mem with same | later
      · exact .inl same
      · exact .inr (List.mem_cons_of_mem _ later)
    · rcases List.mem_cons.mp mem with rfl | later
      · exact .inr List.mem_cons_self
      · exact (ih later).imp_right (List.mem_cons_of_mem _)

/-- What the table keeps the list keeps. -/
theorem replaceTable_map {Key : Type} {key : CatalogTable → Key} {tableId : Int}
    {table changed : CatalogTable} {tables : List CatalogTable}
    (found : tables.find? (fun table => table.table.tableId = tableId) = some table)
    (same : key changed = key table) :
    (replaceTable tableId changed tables).map key = tables.map key := by
  induction tables with
  | nil => cases found
  | cons first rest ih =>
    rw [List.find?_cons] at found
    unfold replaceTable
    by_cases here : first.table.tableId = tableId
    · simp only [here, decide_true, Option.some.injEq] at found
      subst found
      rw [if_pos here, List.map_cons, List.map_cons, same]
    · simp only [here, decide_false] at found
      rw [if_neg here, List.map_cons, List.map_cons, ih found]

theorem replaceTable_others {tableId : Int} {changed : CatalogTable}
    (same : changed.table.tableId = tableId) (tables : List CatalogTable) :
    (replaceTable tableId changed tables).filter (fun table => table.table.tableId ≠ tableId) =
      tables.filter fun table => table.table.tableId ≠ tableId := by
  induction tables with
  | nil => rfl
  | cons first rest ih =>
    unfold replaceTable
    split
    · rename_i here
      simp [same, here]
    · rename_i other
      simp only [List.filter_cons, ih]

/-- A change of a table's descriptors that leaves what the table is found by. -/
def KeepsIdentity (change : CatalogTable → Except Status CatalogTable) : Prop :=
  ∀ table changed, change table = .ok changed →
    changed.qualifiedName = table.qualifiedName ∧ changed.table.tableId = table.table.tableId

section Change
variable {catalog : Catalog} {tableId : Int} {change : CatalogTable → Except Status CatalogTable}

theorem Catalog.Consistent.changeTable (consistent : catalog.Consistent)
    (identity : KeepsIdentity change)
    (keeps : ∀ table changed, catalog.findTableById tableId = some table →
      table.WellFormed → change table = .ok changed → changed.WellFormed) :
    (catalog.changeTable tableId change).1.Consistent := by
  unfold Catalog.changeTable
  split
  · exact consistent
  · rename_i table found
    split
    · exact consistent
    · rename_i changed applied
      obtain ⟨name, id⟩ := identity table changed applied
      obtain ⟨mem, -⟩ := findTableById_some found
      have well := keeps table changed found (consistent.tables table mem) applied
      have names : (replaceTable tableId changed catalog.tables).map (·.qualifiedName) =
          catalog.tables.map (·.qualifiedName) := replaceTable_map found name
      have ids : (replaceTable tableId changed catalog.tables).map (·.table.tableId) =
          catalog.tables.map (·.table.tableId) := replaceTable_map found id
      exact {
        names := names ▸ consistent.names
        ids := ids ▸ consistent.ids
        tables := by
          intro other there
          rcases mem_replaceTable there with rfl | old
          · exact well
          · exact consistent.tables other old }

theorem changeTable_error (failed : (catalog.changeTable tableId change).2 ≠ .ok) :
    (catalog.changeTable tableId change).1 = catalog := by
  unfold Catalog.changeTable at failed ⊢
  split
  · rfl
  · rename_i table found
    split
    · rfl
    · rename_i changed applied
      simp only [found, applied] at failed
      exact absurd rfl failed

theorem changeTable_others (identity : KeepsIdentity change) :
    (catalog.changeTable tableId change).1.tables.filter
        (fun table => table.table.tableId ≠ tableId) =
      catalog.tables.filter fun table => table.table.tableId ≠ tableId := by
  unfold Catalog.changeTable
  split
  · rfl
  · rename_i table found
    split
    · rfl
    · rename_i changed applied
      exact replaceTable_others
        ((identity table changed applied).2.trans (findTableById_some found).2) _

end Change

theorem appendColumnTo_identity (column : ColumnDescriptor) (target : Nat) :
    KeepsIdentity (appendColumnTo column target) := by
  intro table changed applied
  unfold appendColumnTo at applied
  split at applied
  · cases applied
  · split at applied <;> cases applied
    exact ⟨rfl, rfl⟩

theorem replaceColumnIn_identity (columnId : Int) (column : ColumnDescriptor) :
    KeepsIdentity (replaceColumnIn columnId column) := by
  intro table changed applied
  unfold replaceColumnIn at applied
  split at applied
  · cases applied
  · split at applied <;> cases applied
    exact ⟨rfl, rfl⟩

theorem replaceColumnsIn_identity (tableId : Int) (columns : List ColumnDescriptor) :
    KeepsIdentity (replaceColumnsIn tableId columns) := by
  intro table changed applied
  unfold replaceColumnsIn at applied
  cases checked : checkReplacement tableId [] columns with
  | error status =>
    rw [checked] at applied
    cases applied
  | ok =>
    rw [checked] at applied
    cases applied
    exact ⟨rfl, rfl⟩

theorem removeColumnFrom_identity (columnId : Int) :
    KeepsIdentity (removeColumnFrom columnId) := by
  intro table changed applied
  unfold removeColumnFrom at applied
  split at applied <;> cases applied
  exact ⟨rfl, rfl⟩

theorem appendIndexTo_identity (index : IndexDescriptor) (parts : List IndexColumnDescriptor) :
    KeepsIdentity (appendIndexTo index parts) := by
  intro table changed applied
  unfold appendIndexTo at applied
  split at applied <;> cases applied
  exact ⟨rfl, rfl⟩

theorem removeIndexFrom_identity (indexId : Int) : KeepsIdentity (removeIndexFrom indexId) := by
  intro table changed applied
  unfold removeIndexFrom at applied
  split at applied <;> cases applied
  exact ⟨rfl, rfl⟩

theorem setAutoIncrement_identity (next : Int) :
    KeepsIdentity fun table =>
      .ok { table with table := { table.table with autoIncrementNext := next } } := by
  intro table changed applied
  cases applied
  exact ⟨rfl, rfl⟩

theorem setComment_identity (comment : String) :
    KeepsIdentity fun table =>
      .ok { table with table := { table.table with comment := comment } } := by
  intro table changed applied
  cases applied
  exact ⟨rfl, rfl⟩

/-! Tables added and removed. -/

theorem Catalog.Consistent.appendTable {catalog : Catalog} (consistent : catalog.Consistent)
    {table : CatalogTable} (well : table.WellFormed)
    (fresh : table.table.tableId ∉ catalog.tables.map (·.table.tableId)) :
    (catalog.appendTable table).1.Consistent := by
  unfold Catalog.appendTable
  split
  · exact consistent
  · split
    · exact consistent
    · rename_i free
      have newName : table.qualifiedName ∉ catalog.tables.map (·.qualifiedName) := by
        intro mem
        obtain ⟨other, found, same⟩ := List.mem_map.mp mem
        obtain ⟨schema, name⟩ := Prod.mk.inj same
        apply free
        unfold Catalog.findTableBySchemaName
        rw [List.find?_isSome]
        exact ⟨other, found, by simp [schema, name]⟩
      have extended {Key : Type} {key : CatalogTable → Key}
          (distinct : (catalog.tables.map key).Nodup) (new : key table ∉ catalog.tables.map key) :
          ((catalog.tables ++ [table]).map key).Nodup := by
        rw [List.map_append, List.map_singleton]
        refine List.Nodup.append distinct (List.nodup_singleton _) ?_
        intro value mem last
        exact new (List.mem_singleton.mp last ▸ mem)
      exact {
        names := extended consistent.names newName
        ids := extended consistent.ids fresh
        tables := by
          intro other mem
          rcases List.mem_append.mp mem with old | new
          · exact consistent.tables other old
          · exact List.mem_singleton.mp new ▸ well }

theorem Catalog.Consistent.removeTableById {catalog : Catalog} (consistent : catalog.Consistent)
    (tableId : Int) : (catalog.removeTableById tableId).1.Consistent := by
  unfold Catalog.removeTableById
  split
  · exact consistent
  · split
    · exact consistent
    · have erased : (catalog.tables.eraseP fun table => table.table.tableId = tableId).Sublist
          catalog.tables := List.eraseP_sublist
      exact {
        names := consistent.names.sublist (erased.map _)
        ids := consistent.ids.sublist (erased.map _)
        tables := fun table mem => consistent.tables table (erased.subset mem) }

theorem filter_eraseP_self {Item : Type} (test : Item → Bool) (items : List Item) :
    (items.eraseP test).filter (fun item => !test item) = items.filter fun item => !test item := by
  induction items with
  | nil => rfl
  | cons first rest ih =>
    cases here : test first with
    | true => simp [here]
    | false => simp [here, ih]

/-! One operation. -/

/-- What the caller of an operation sees to: the descriptors of a new table or index fit together
and into the catalog, and no column that an index part names goes away. -/
def Meets (catalog : Catalog) : Operation → Prop
  | .appendTable table =>
    table.WellFormed ∧ table.table.tableId ∉ catalog.tables.map (·.table.tableId)
  | .replaceColumns tableId columns => ∀ table, catalog.findTableById tableId = some table →
    ∀ part ∈ table.indexColumns, part.columnId ∈ columns.map (·.columnId)
  | .removeColumnById tableId columnId => ∀ table, catalog.findTableById tableId = some table →
    ∀ part ∈ table.indexColumns, part.columnId ≠ columnId
  | .appendIndex tableId _ parts =>
    (parts ≠ [] ∧ parts.map (·.ordinalPosition) = positions parts.length) ∧
    ∀ table, catalog.findTableById tableId = some table →
      ∀ part ∈ parts, part.columnId ∈ table.columns.map (·.columnId)
  | _ => True

/-- An allocation only moves the counters. -/
theorem allocate_tables (catalog : Catalog) (capacity : Nat) :
    (catalog.allocateTableIdentity capacity).1.tables = catalog.tables ∧
      catalog.allocateColumnId.1.tables = catalog.tables ∧
      (catalog.allocateIndexIdentity capacity).1.tables = catalog.tables ∧
      catalog.allocateIndexColumnId.1.tables = catalog.tables := by
  unfold Catalog.allocateTableIdentity Catalog.allocateColumnId Catalog.allocateIndexIdentity
    Catalog.allocateIndexColumnId
  refine ⟨?_, ?_, ?_, ?_⟩
  · split
    · rfl
    · split
      · rfl
      · split <;> rfl
  · split <;> rfl
  · split
    · rfl
    · split
      · rfl
      · split <;> rfl
  · split <;> rfl

theorem Catalog.Consistent.congr {catalog other : Catalog} (consistent : catalog.Consistent)
    (same : other.tables = catalog.tables) : other.Consistent where
  names := same ▸ consistent.names
  ids := same ▸ consistent.ids
  tables := same ▸ consistent.tables

/-- An operation whose caller sees to its part keeps the catalog consistent. -/
theorem step_consistent {catalog : Catalog} (consistent : catalog.Consistent)
    {operation : Operation} (meets : Meets catalog operation) :
    (step catalog operation).1.Consistent := by
  cases operation with
  | allocateTableIdentity capacity => exact consistent.congr (allocate_tables catalog capacity).1
  | allocateColumnId => exact consistent.congr (allocate_tables catalog 0).2.1
  | allocateIndexIdentity capacity =>
    exact consistent.congr (allocate_tables catalog capacity).2.2.1
  | allocateIndexColumnId => exact consistent.congr (allocate_tables catalog 0).2.2.2
  | appendTable table => exact consistent.appendTable meets.1 meets.2
  | removeTableById tableId => exact consistent.removeTableById tableId
  | updateTableAutoIncrementNext tableId next =>
    show (catalog.updateTableAutoIncrementNext tableId next).1.Consistent
    unfold Catalog.updateTableAutoIncrementNext
    split
    · exact consistent
    · split
      · exact consistent
      · refine consistent.changeTable (setAutoIncrement_identity next) ?_
        intro table changed _ well applied
        cases applied
        exact { well with }
  | updateTableComment tableId comment =>
    show (catalog.updateTableComment tableId comment).1.Consistent
    unfold Catalog.updateTableComment
    split
    · exact consistent
    · split
      · exact consistent
      · refine consistent.changeTable (setComment_identity comment) ?_
        intro table changed _ well applied
        cases applied
        exact { well with }
  | appendColumn tableId column target =>
    show (catalog.appendColumn tableId column target).1.Consistent
    unfold Catalog.appendColumn
    split
    · exact consistent
    · exact consistent.changeTable (appendColumnTo_identity column target)
        fun table changed _ well applied => appendColumnTo_wellFormed well applied
  | replaceColumn tableId columnId column =>
    show (catalog.replaceColumn tableId columnId column).1.Consistent
    unfold Catalog.replaceColumn
    split
    · exact consistent
    · rename_i allowed
      have same : column.columnId = columnId := by
        simp only [not_or, not_not] at allowed
        exact allowed.2.2.2
      exact consistent.changeTable (replaceColumnIn_identity columnId column)
        fun table changed _ well applied => replaceColumnIn_wellFormed well same applied
  | replaceColumns tableId columns =>
    show (catalog.replaceColumns tableId columns).1.Consistent
    unfold Catalog.replaceColumns
    split
    · exact consistent
    · exact consistent.changeTable (replaceColumnsIn_identity tableId columns)
        fun table changed found well applied =>
          replaceColumnsIn_wellFormed well (meets table found) applied
  | removeColumnById tableId columnId =>
    show (catalog.removeColumnById tableId columnId).1.Consistent
    unfold Catalog.removeColumnById
    split
    · exact consistent
    · exact consistent.changeTable (removeColumnFrom_identity columnId)
        fun table changed found well applied =>
          removeColumnFrom_wellFormed well (meets table found) applied
  | appendIndex tableId index parts =>
    show (catalog.appendIndex tableId index parts).1.Consistent
    unfold Catalog.appendIndex
    split
    · exact consistent
    · split
      · exact consistent
      · rename_i own
        obtain ⟨⟨some, ordinals⟩, named⟩ := meets
        have parted : ∀ part ∈ parts, part.indexId = index.indexId := by
          intro part mem
          have tested := any_false own part mem
          simp only [Bool.or_eq_false_iff, decide_eq_false_iff_not, not_not] at tested
          exact tested.1.2
        exact consistent.changeTable (appendIndexTo_identity index parts)
          fun table changed found well applied =>
            appendIndexTo_wellFormed well parted some ordinals (named table found) applied
  | removeIndexById tableId indexId =>
    show (catalog.removeIndexById tableId indexId).1.Consistent
    unfold Catalog.removeIndexById
    split
    · exact consistent
    · exact consistent.changeTable (removeIndexFrom_identity indexId)
        fun table changed _ well applied => removeIndexFrom_wellFormed well applied

/-! Errors and frames. -/

inductive IdKind where
  | table
  | column
  | index
  | indexColumn
  deriving DecidableEq, Repr

def Operation.allocates : Operation → Option IdKind
  | .allocateTableIdentity _ => some .table
  | .allocateColumnId => some .column
  | .allocateIndexIdentity _ => some .index
  | .allocateIndexColumnId => some .indexColumn
  | _ => none

/-- The table an operation is about. -/
def Operation.target : Operation → Option Int
  | .allocateTableIdentity _ | .allocateColumnId | .allocateIndexIdentity _
  | .allocateIndexColumnId => none
  | .appendTable table => some table.table.tableId
  | .removeTableById tableId | .updateTableAutoIncrementNext tableId _
  | .updateTableComment tableId _ | .appendColumn tableId _ _ | .replaceColumn tableId _ _
  | .replaceColumns tableId _ | .removeColumnById tableId _ | .appendIndex tableId _ _
  | .removeIndexById tableId _ => some tableId

/-- What an operation can do to the catalog. -/
inductive Effect (catalog : Catalog) (operation : Operation) : Prop where
  | allocated (kind : IdKind) (allocates : operation.allocates = some kind)
      (tables : (step catalog operation).1.tables = catalog.tables)
  | refused (status : Status) (failed : status ≠ .ok)
      (taken : step catalog operation = withStatus (catalog, status))
  | appended (table : CatalogTable) (target : operation.target = some table.table.tableId)
      (taken : step catalog operation =
        withStatus ({ catalog with tables := catalog.tables ++ [table] }, .ok))
  | removed (tableId : Int) (target : operation.target = some tableId)
      (taken : step catalog operation = withStatus
        ({ catalog with
            tables := catalog.tables.eraseP fun table => table.table.tableId = tableId }, .ok))
  | changed (tableId : Int) (target : operation.target = some tableId)
      (change : CatalogTable → Except Status CatalogTable) (identity : KeepsIdentity change)
      (taken : step catalog operation = withStatus (catalog.changeTable tableId change))

theorem effect_if {catalog : Catalog} {operation : Operation} {refuses : Prop}
    [Decidable refuses] {status : Status} (failed : status ≠ .ok) {result : Catalog × Status}
    (taken : step catalog operation =
      withStatus (if refuses then (catalog, status) else result))
    (otherwise : step catalog operation = withStatus result → Effect catalog operation) :
    Effect catalog operation := by
  split at taken
  · exact .refused status failed taken
  · exact otherwise taken

theorem step_effect (catalog : Catalog) (operation : Operation) : Effect catalog operation := by
  cases operation with
  | allocateTableIdentity capacity => exact .allocated _ rfl (allocate_tables catalog capacity).1
  | allocateColumnId => exact .allocated _ rfl (allocate_tables catalog 0).2.1
  | allocateIndexIdentity capacity =>
    exact .allocated _ rfl (allocate_tables catalog capacity).2.2.1
  | allocateIndexColumnId => exact .allocated _ rfl (allocate_tables catalog 0).2.2.2
  | appendTable table =>
    exact effect_if (by decide) rfl fun taken => effect_if (by decide) taken (.appended table rfl)
  | removeTableById tableId =>
    exact effect_if (by decide) rfl fun taken => effect_if (by decide) taken (.removed tableId rfl)
  | updateTableAutoIncrementNext tableId next =>
    exact effect_if (by decide) rfl fun taken =>
      effect_if (by decide) taken (.changed tableId rfl _ (setAutoIncrement_identity next))
  | updateTableComment tableId comment =>
    exact effect_if (by decide) rfl fun taken =>
      effect_if (by decide) taken (.changed tableId rfl _ (setComment_identity comment))
  | appendColumn tableId column target =>
    exact effect_if (by decide) rfl (.changed tableId rfl _ (appendColumnTo_identity column target))
  | replaceColumn tableId columnId column =>
    exact effect_if (by decide) rfl
      (.changed tableId rfl _ (replaceColumnIn_identity columnId column))
  | replaceColumns tableId columns =>
    exact effect_if (by decide) rfl
      (.changed tableId rfl _ (replaceColumnsIn_identity tableId columns))
  | removeColumnById tableId columnId =>
    exact effect_if (by decide) rfl (.changed tableId rfl _ (removeColumnFrom_identity columnId))
  | appendIndex tableId index parts =>
    exact effect_if (by decide) rfl fun taken =>
      effect_if (by decide) taken (.changed tableId rfl _ (appendIndexTo_identity index parts))
  | removeIndexById tableId indexId =>
    exact effect_if (by decide) rfl (.changed tableId rfl _ (removeIndexFrom_identity indexId))

/-- An operation that does not succeed leaves the descriptors as they were, and all of the catalog
unless it allocates an identifier. -/
theorem step_error {catalog : Catalog} {operation : Operation}
    (failed : (step catalog operation).2.status ≠ .ok) :
    (step catalog operation).1.tables = catalog.tables ∧
      (operation.allocates = none → (step catalog operation).1 = catalog) := by
  have whole (same : (step catalog operation).1 = catalog) :
      (step catalog operation).1.tables = catalog.tables ∧
        (operation.allocates = none → (step catalog operation).1 = catalog) :=
    ⟨congrArg Catalog.tables same, fun _ => same⟩
  cases step_effect catalog operation with
  | allocated kind allocates tables =>
    refine ⟨tables, fun none => ?_⟩
    rw [allocates] at none
    cases none
  | refused status _ taken => exact whole (congrArg Prod.fst taken)
  | appended table target taken =>
    rw [taken] at failed
    exact absurd rfl failed
  | removed tableId target taken =>
    rw [taken] at failed
    exact absurd rfl failed
  | changed tableId target change identity taken =>
    rw [taken] at failed
    exact whole ((congrArg Prod.fst taken).trans (changeTable_error failed))

/-- An operation leaves the tables it is not about. -/
theorem step_others {catalog : Catalog} {operation : Operation} {tableId : Int}
    (about : ∀ target, operation.target = some target → target = tableId) :
    (step catalog operation).1.tables.filter (fun table => table.table.tableId ≠ tableId) =
      catalog.tables.filter fun table => table.table.tableId ≠ tableId := by
  cases step_effect catalog operation with
  | allocated kind allocates tables => rw [tables]
  | refused status _ taken => rw [taken, withStatus]
  | appended table target taken =>
    cases about _ target
    rw [taken, withStatus]
    simp
  | removed removedId target taken =>
    cases about _ target
    rw [taken, withStatus]
    have kept := filter_eraseP_self (fun table : CatalogTable => table.table.tableId = tableId)
      catalog.tables
    simpa using kept
  | changed changedId target change identity taken =>
    cases about _ target
    rw [taken]
    exact changeTable_others identity

/-! Identifiers handed out by a run. -/

def Catalog.nextId (catalog : Catalog) : IdKind → Int
  | .table => catalog.nextTableId
  | .column => catalog.nextColumnId
  | .index => catalog.nextIndexId
  | .indexColumn => catalog.nextIndexColumnId

/-- The identifiers of a kind that a run hands out, in order. -/
def allocated (kind : IdKind) : Catalog → List Operation → List Int
  | _, [] => []
  | catalog, operation :: rest =>
    (if operation.allocates = some kind then (step catalog operation).2.id.toList else []) ++
      allocated kind (step catalog operation).1 rest

theorem allocateNegativeId_some {nextId id next : Int}
    (taken : allocateNegativeId nextId = some (id, next)) : id = nextId ∧ next = nextId - 1 := by
  unfold allocateNegativeId at taken
  split at taken <;> cases taken
  exact ⟨rfl, rfl⟩

/-- How an operation moves the counter of a kind: it hands out the identifier and counts down, or
hands out none and leaves it. -/
def CountsDown (catalog : Catalog) (operation : Operation) (kind : IdKind) : Prop :=
  (operation.allocates = some kind ∧
      (step catalog operation).2.id = some (catalog.nextId kind) ∧
      (step catalog operation).1.nextId kind = catalog.nextId kind - 1) ∨
    ((operation.allocates = some kind → (step catalog operation).2.id = none) ∧
      (step catalog operation).1.nextId kind = catalog.nextId kind)

theorem changeTable_nextId (catalog : Catalog) (tableId : Int)
    (change : CatalogTable → Except Status CatalogTable) (kind : IdKind) :
    (catalog.changeTable tableId change).1.nextId kind = catalog.nextId kind := by
  unfold Catalog.changeTable
  split
  · rfl
  · split <;> cases kind <;> rfl

/-- An allocation of a kind: it hands out the next identifier of the kind, or none. -/
def Allocates (catalog : Catalog) (kind : IdKind) (result : Catalog × Reply) : Prop :=
  (result.2.id = none ∧ ∀ other, result.1.nextId other = catalog.nextId other) ∨
    (result.2.id = some (catalog.nextId kind) ∧ ∀ other, result.1.nextId other =
      if other = kind then catalog.nextId kind - 1 else catalog.nextId other)

theorem allocateTableIdentity_allocates (catalog : Catalog) (capacity : Nat) :
    Allocates catalog .table (catalog.allocateTableIdentity capacity) := by
  unfold Catalog.allocateTableIdentity
  split
  · exact .inl ⟨rfl, fun _ => rfl⟩
  · split
    · exact .inl ⟨rfl, fun _ => rfl⟩
    · rename_i id next taken
      obtain ⟨rfl, rfl⟩ := allocateNegativeId_some taken
      split
      · exact .inr ⟨rfl, fun other => by cases other <;> rfl⟩
      · exact .inr ⟨rfl, fun other => by cases other <;> rfl⟩

theorem allocateColumnId_allocates (catalog : Catalog) :
    Allocates catalog .column catalog.allocateColumnId := by
  unfold Catalog.allocateColumnId
  split
  · exact .inl ⟨rfl, fun _ => rfl⟩
  · rename_i id next taken
    obtain ⟨rfl, rfl⟩ := allocateNegativeId_some taken
    exact .inr ⟨rfl, fun other => by cases other <;> rfl⟩

theorem allocateIndexIdentity_allocates (catalog : Catalog) (capacity : Nat) :
    Allocates catalog .index (catalog.allocateIndexIdentity capacity) := by
  unfold Catalog.allocateIndexIdentity
  split
  · exact .inl ⟨rfl, fun _ => rfl⟩
  · split
    · exact .inl ⟨rfl, fun _ => rfl⟩
    · rename_i id next taken
      obtain ⟨rfl, rfl⟩ := allocateNegativeId_some taken
      split
      · exact .inr ⟨rfl, fun other => by cases other <;> rfl⟩
      · exact .inr ⟨rfl, fun other => by cases other <;> rfl⟩

theorem allocateIndexColumnId_allocates (catalog : Catalog) :
    Allocates catalog .indexColumn catalog.allocateIndexColumnId := by
  unfold Catalog.allocateIndexColumnId
  split
  · exact .inl ⟨rfl, fun _ => rfl⟩
  · rename_i id next taken
    obtain ⟨rfl, rfl⟩ := allocateNegativeId_some taken
    exact .inr ⟨rfl, fun other => by cases other <;> rfl⟩

theorem Allocates.countsDown {catalog : Catalog} {operation : Operation} {allocated : IdKind}
    (allocates : operation.allocates = some allocated)
    (result : Allocates catalog allocated (step catalog operation)) (kind : IdKind) :
    CountsDown catalog operation kind := by
  rcases result with ⟨none, kept⟩ | ⟨some, moved⟩
  · exact .inr ⟨fun _ => none, kept kind⟩
  · by_cases own : kind = allocated
    · subst own
      exact .inl ⟨allocates, some, by rw [moved, if_pos rfl]⟩
    · refine .inr ⟨fun found => ?_, by rw [moved, if_neg own]⟩
      rw [allocates] at found
      exact absurd (Option.some.inj found).symm own

theorem step_nextId (catalog : Catalog) (operation : Operation) (kind : IdKind) :
    CountsDown catalog operation kind := by
  cases step_effect catalog operation with
  | allocated allocated allocates _ =>
    refine Allocates.countsDown allocates ?_ kind
    cases operation with
    | allocateTableIdentity capacity =>
      cases allocates
      exact allocateTableIdentity_allocates catalog capacity
    | allocateColumnId =>
      cases allocates
      exact allocateColumnId_allocates catalog
    | allocateIndexIdentity capacity =>
      cases allocates
      exact allocateIndexIdentity_allocates catalog capacity
    | allocateIndexColumnId =>
      cases allocates
      exact allocateIndexColumnId_allocates catalog
    | _ => cases allocates
  | refused status failed taken =>
    exact .inr ⟨fun _ => by rw [taken, withStatus], by rw [taken, withStatus]⟩
  | appended table target taken =>
    refine .inr ⟨fun _ => by rw [taken, withStatus], ?_⟩
    rw [taken, withStatus]
    cases kind <;> rfl
  | removed tableId target taken =>
    refine .inr ⟨fun _ => by rw [taken, withStatus], ?_⟩
    rw [taken, withStatus]
    cases kind <;> rfl
  | changed tableId target change identity taken =>
    refine .inr ⟨fun _ => by rw [taken, withStatus], ?_⟩
    rw [taken]
    exact changeTable_nextId catalog tableId change kind

/-- A run hands out identifiers from the counter downwards, none of them twice. -/
theorem allocated_descends (kind : IdKind) (catalog : Catalog) (operations : List Operation) :
    (allocated kind catalog operations).Nodup ∧
      ∀ id ∈ allocated kind catalog operations, id ≤ catalog.nextId kind := by
  induction operations generalizing catalog with
  | nil =>
    refine ⟨List.nodup_nil, ?_⟩
    intro id none
    cases none
  | cons operation rest ih =>
    obtain ⟨distinct, below⟩ := ih (step catalog operation).1
    unfold allocated
    rcases step_nextId catalog operation kind with ⟨allocates, handed, moved⟩ | ⟨none, kept⟩
    · rw [if_pos allocates, handed]
      rw [moved] at below
      refine ⟨List.nodup_cons.mpr ⟨?_, distinct⟩, ?_⟩
      · intro again
        have lower := below _ again
        omega
      · intro id mem
        rcases List.mem_cons.mp mem with rfl | later
        · exact Int.le_refl _
        · have lower := below id later
          omega
    · have nothing : (if operation.allocates = some kind then
          (step catalog operation).2.id.toList else []) = [] := by
        split
        · rename_i allocates
          rw [none allocates, Option.toList_none]
        · rfl
      rw [nothing, List.nil_append]
      exact ⟨distinct, fun id mem => kept ▸ below id mem⟩

end MyLite.TemporaryCatalog
