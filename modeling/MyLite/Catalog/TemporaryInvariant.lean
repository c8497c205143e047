import MyLite.Library.Machine
import MyLite.Library.Keyed
import MyLite.Catalog.TemporaryCatalog

/-! What every operation on the catalog of temporary tables keeps. -/
namespace MyLite.TemporaryCatalog

def positions (count : Nat) : List Int :=
  (List.range count).map fun (index : Nat) => (index : Int) + 1

def CatalogTable.partsOf (table : CatalogTable) (indexId : Int) : List IndexColumnDescriptor :=
  table.indexColumns.filter fun part => part.indexId = indexId

/-- A table whose descriptors fit together. -/
structure CatalogTable.WellFormed (table : CatalogTable) : Prop where
  columnIds : (table.columns.map (·.columnId)).Nodup
  columnNames : (table.columns.map (·.name)).Nodup
  ordinals : table.columns.map (·.ordinalPosition) = positions table.columns.length
  indexIds : (table.indexes.map (·.indexId)).Nodup
  indexNames : (table.indexes.map (·.name)).Nodup
  partIndexes : ∀ part ∈ table.indexColumns, part.indexId ∈ table.indexes.map (·.indexId)
  partColumns : ∀ part ∈ table.indexColumns, part.columnId ∈ table.columns.map (·.columnId)
  partOrdinals : ∀ index ∈ table.indexes, table.partsOf index.indexId ≠ [] ∧
    (table.partsOf index.indexId).map (·.ordinalPosition) =
      positions (table.partsOf index.indexId).length

/-- The schema and the name of a table. -/
def CatalogTable.qualifiedName (table : CatalogTable) : String × String :=
  (table.schemaName, table.table.name)

structure Catalog.Consistent (catalog : Catalog) : Prop where
  names : (catalog.tables.map (·.qualifiedName)).Nodup
  ids : (catalog.tables.map (·.table.tableId)).Nodup
  tables : ∀ table ∈ catalog.tables, table.WellFormed

/-! Columns and their positions. -/

theorem renumber_ids (columns : List ColumnDescriptor) :
    (renumber columns).map (·.columnId) = columns.map (·.columnId) := by
  apply List.ext_getElem
  · simp [renumber]
  · intro index _ _
    simp [renumber]

theorem renumber_names (columns : List ColumnDescriptor) :
    (renumber columns).map (·.name) = columns.map (·.name) := by
  apply List.ext_getElem
  · simp [renumber]
  · intro index _ _
    simp [renumber]

theorem renumber_ordinals (columns : List ColumnDescriptor) :
    (renumber columns).map (·.ordinalPosition) = positions (renumber columns).length := by
  apply List.ext_getElem
  · simp [renumber, positions]
  · intro index _ _
    simp [renumber, positions]

/-- A table whose columns are replaced by a renumbered list stays well formed as long as the list
keeps the columns of the index parts. -/
theorem CatalogTable.WellFormed.renumbered {table : CatalogTable} (well : table.WellFormed)
    {columns : List ColumnDescriptor} (ids : (columns.map (·.columnId)).Nodup)
    (names : (columns.map (·.name)).Nodup)
    (parts : ∀ part ∈ table.indexColumns, part.columnId ∈ columns.map (·.columnId)) :
    CatalogTable.WellFormed { table with columns := renumber columns } where
  columnIds := by rwa [renumber_ids]
  columnNames := by rwa [renumber_names]
  ordinals := renumber_ordinals columns
  indexIds := well.indexIds
  indexNames := well.indexNames
  partIndexes := well.partIndexes
  partColumns := by
    intro part mem
    rw [renumber_ids]
    exact parts part mem
  partOrdinals := well.partOrdinals

theorem any_false {Item : Type} {items : List Item} {test : Item → Bool}
    (none : ¬items.any test = true) : ∀ item ∈ items, test item = false := by
  simpa using none

theorem nodup_insertIdx {Key : Type} {rows : List ColumnDescriptor} {key : ColumnDescriptor → Key}
    {index : Nat} {row : ColumnDescriptor} (bounded : index ≤ rows.length)
    (distinct : (rows.map key).Nodup) (fresh : ∀ other ∈ rows, key other ≠ key row) :
    ((rows.insertIdx index row).map key).Nodup := by
  have moved := (List.perm_insertIdx row rows bounded).map key
  rw [moved.nodup_iff, List.map_cons, List.nodup_cons]
  refine ⟨?_, distinct⟩
  intro mem
  obtain ⟨other, found, same⟩ := List.mem_map.mp mem
  exact fresh other found same

theorem appendColumnTo_wellFormed {table changed : CatalogTable} {column : ColumnDescriptor}
    {target : Nat} (well : table.WellFormed)
    (appended : appendColumnTo column target table = .ok changed) : changed.WellFormed := by
  unfold appendColumnTo at appended
  split at appended
  · cases appended
  · rename_i inside
    split at appended
    · cases appended
    · rename_i fresh
      cases appended
      have bounded := Nat.le_of_not_lt inside
      have others := any_false fresh
      refine well.renumbered (nodup_insertIdx bounded well.columnIds ?_)
        (nodup_insertIdx bounded well.columnNames ?_) ?_
      · intro other mem same
        have differs := others other mem
        simp [same] at differs
      · intro other mem same
        have differs := others other mem
        simp [same] at differs
      · intro part mem
        obtain ⟨named, found, same⟩ := List.mem_map.mp (well.partColumns part mem)
        exact List.mem_map.mpr ⟨named, (List.mem_insertIdx bounded).mpr (.inr found), same⟩

theorem removeColumnFrom_wellFormed {table changed : CatalogTable} {columnId : Int}
    (well : table.WellFormed) (unused : ∀ part ∈ table.indexColumns, part.columnId ≠ columnId)
    (removed : removeColumnFrom columnId table = .ok changed) : changed.WellFormed := by
  unfold removeColumnFrom at removed
  split at removed
  · cases removed
  · cases removed
    have erased : (table.columns.eraseP fun column => column.columnId = columnId).Sublist
        table.columns := List.eraseP_sublist
    refine well.renumbered (well.columnIds.sublist (erased.map _))
      (well.columnNames.sublist (erased.map _)) ?_
    intro part mem
    obtain ⟨column, found, same⟩ := List.mem_map.mp (well.partColumns part mem)
    refine List.mem_map.mpr ⟨column, ?_, same⟩
    refine (List.mem_eraseP_of_neg ?_).mpr found
    have other := unused part mem
    simpa [same] using other

/-! A column replaced in place. -/

theorem replaceColumnAt_ids {columnId : Int} {column : ColumnDescriptor}
    (same : column.columnId = columnId) (position : Nat) (columns : List ColumnDescriptor) :
    (replaceColumnAt columnId column position columns).map (·.columnId) =
      columns.map (·.columnId) := by
  induction columns generalizing position with
  | nil => rfl
  | cons current rest ih =>
    unfold replaceColumnAt
    split
    · rename_i here
      simp [same, here]
    · rw [List.map_cons, ih, List.map_cons]

theorem name_of_mem_replaceColumnAt {columnId : Int} {column found : ColumnDescriptor}
    {position : Nat} {columns : List ColumnDescriptor}
    (mem : found ∈ replaceColumnAt columnId column position columns) :
    found.name ∈ columns.map (·.name) ∨ found.name = column.name := by
  induction columns generalizing position with
  | nil => cases mem
  | cons current rest ih =>
    unfold replaceColumnAt at mem
    split at mem
    · rcases List.mem_cons.mp mem with rfl | later
      · exact .inr rfl
      · exact .inl (List.mem_cons_of_mem _ (List.mem_map_of_mem later))
    · rcases List.mem_cons.mp mem with rfl | later
      · exact .inl List.mem_cons_self
      · exact (ih later).imp_left (List.mem_cons_of_mem _)

/-- The names stay distinct when no other column has the new name. -/
theorem replaceColumnAt_names {columnId : Int} {column : ColumnDescriptor}
    {columns : List ColumnDescriptor} (position : Nat)
    (ids : (columns.map (·.columnId)).Nodup) (names : (columns.map (·.name)).Nodup)
    (free : ∀ other ∈ columns, other.columnId ≠ columnId → other.name ≠ column.name) :
    ((replaceColumnAt columnId column position columns).map (·.name)).Nodup := by
  induction columns generalizing position with
  | nil => exact List.nodup_nil
  | cons current rest ih =>
    obtain ⟨freshId, ids⟩ := List.nodup_cons.mp ids
    obtain ⟨freshName, names⟩ := List.nodup_cons.mp names
    obtain ⟨here, free⟩ := List.forall_mem_cons.mp free
    unfold replaceColumnAt
    split
    · rename_i found
      refine List.nodup_cons.mpr ⟨?_, names⟩
      intro mem
      obtain ⟨other, later, same⟩ := List.mem_map.mp mem
      refine free other later ?_ same
      intro again
      exact freshId (List.mem_map.mpr ⟨other, later, again.trans found.symm⟩)
    · rename_i differs
      refine List.nodup_cons.mpr ⟨?_, ih _ ids names free⟩
      intro mem
      obtain ⟨other, later, same⟩ := List.mem_map.mp mem
      rcases name_of_mem_replaceColumnAt later with earlier | new
      · exact freshName (same ▸ earlier)
      · exact here differs (same.symm.trans new)

theorem replaceColumnAt_ordinals (columnId : Int) (column : ColumnDescriptor)
    {columns : List ColumnDescriptor} {position : Nat}
    (counted : ∀ index (inside : index < columns.length),
      columns[index].ordinalPosition = (position : Int) + (index : Int) + 1) :
    (replaceColumnAt columnId column position columns).map (·.ordinalPosition) =
      columns.map (·.ordinalPosition) := by
  induction columns generalizing position with
  | nil => rfl
  | cons current rest ih =>
    have first := counted 0 (Nat.succ_pos _)
    unfold replaceColumnAt
    split
    · simp only [List.map_cons]
      rw [List.getElem_cons_zero] at first
      simp [first]
    · rw [List.map_cons, List.map_cons, ih]
      intro index inside
      have later := counted (index + 1) (Nat.succ_lt_succ inside)
      rw [List.getElem_cons_succ] at later
      rw [later]
      omega

theorem CatalogTable.WellFormed.counted {table : CatalogTable} (well : table.WellFormed)
    (index : Nat) (inside : index < table.columns.length) :
    table.columns[index].ordinalPosition = ((0 : Nat) : Int) + (index : Int) + 1 := by
  have found := congrArg (·[index]?) well.ordinals
  simp only [List.getElem?_map, List.getElem?_eq_getElem inside, Option.map_some] at found
  simpa [positions, inside] using found

theorem replaceColumnIn_wellFormed {table changed : CatalogTable} {columnId : Int}
    {column : ColumnDescriptor} (well : table.WellFormed) (same : column.columnId = columnId)
    (replaced : replaceColumnIn columnId column table = .ok changed) : changed.WellFormed := by
  unfold replaceColumnIn at replaced
  split at replaced
  · cases replaced
  · rename_i free
    split at replaced
    · cases replaced
    · cases replaced
      have others := any_false free
      have ids := replaceColumnAt_ids same 0 table.columns
      have length := congrArg List.length ids
      rw [List.length_map, List.length_map] at length
      exact {
        columnIds := by rw [ids]; exact well.columnIds
        columnNames := by
          refine replaceColumnAt_names 0 well.columnIds well.columnNames ?_
          intro other mem differs named
          have taken := others other mem
          simp [differs, named] at taken
        ordinals := by
          rw [replaceColumnAt_ordinals columnId column well.counted, length]
          exact well.ordinals
        indexIds := well.indexIds
        indexNames := well.indexNames
        partIndexes := well.partIndexes
        partColumns := by
          intro part mem
          rw [ids]
          exact well.partColumns part mem
        partOrdinals := well.partOrdinals }

theorem checkReplacement_distinct {Key : Type} (key : ColumnDescriptor → Key) {tableId : Int}
    (prior : List ColumnDescriptor) {columns : List ColumnDescriptor}
    (separate : ∀ earlier later, (earlier.columnId = later.columnId || earlier.name = later.name)
      = false → key earlier ≠ key later)
    (distinct : (prior.map key).Nodup)
    (checked : checkReplacement tableId prior columns = .ok ()) :
    ((prior ++ columns).map key).Nodup := by
  induction columns generalizing prior with
  | nil => rwa [List.append_nil]
  | cons column rest ih =>
    unfold checkReplacement at checked
    split at checked
    · cases checked
    · split at checked
      · cases checked
      · rename_i fresh
        have grown : ((prior ++ [column]).map key).Nodup := by
          rw [List.map_append, List.map_singleton]
          refine List.Nodup.append distinct (List.nodup_singleton _) ?_
          intro value mem last
          obtain ⟨earlier, found, rfl⟩ := List.mem_map.mp mem
          exact separate earlier column (any_false fresh earlier found) (List.mem_singleton.mp last)
        have whole := ih _ grown checked
        rwa [List.append_assoc] at whole

theorem replaceColumnsIn_wellFormed {table changed : CatalogTable} {tableId : Int}
    {columns : List ColumnDescriptor} (well : table.WellFormed)
    (kept : ∀ part ∈ table.indexColumns, part.columnId ∈ columns.map (·.columnId))
    (replaced : replaceColumnsIn tableId columns table = .ok changed) : changed.WellFormed := by
  unfold replaceColumnsIn at replaced
  cases checked : checkReplacement tableId [] columns with
  | error status =>
    rw [checked] at replaced
    cases replaced
  | ok =>
    rw [checked] at replaced
    cases replaced
    have ids : (columns.map (·.columnId)).Nodup :=
      checkReplacement_distinct (·.columnId) [] (fun _ _ apart same => by simp [same] at apart)
        List.nodup_nil checked
    have names : (columns.map (·.name)).Nodup :=
      checkReplacement_distinct (·.name) [] (fun _ _ apart same => by simp [same] at apart)
        List.nodup_nil checked
    exact well.renumbered ids names kept

/-! Indexes and their parts. -/

theorem appendIndexTo_wellFormed {table changed : CatalogTable} {index : IndexDescriptor}
    {parts : List IndexColumnDescriptor} (well : table.WellFormed)
    (own : ∀ part ∈ parts, part.indexId = index.indexId) (some : parts ≠ [])
    (ordinals : parts.map (·.ordinalPosition) = positions parts.length)
    (named : ∀ part ∈ parts, part.columnId ∈ table.columns.map (·.columnId))
    (appended : appendIndexTo index parts table = .ok changed) : changed.WellFormed := by
  unfold appendIndexTo at appended
  split at appended
  · cases appended
  · rename_i free
    cases appended
    have others := any_false free
    have freshId : index.indexId ∉ table.indexes.map (·.indexId) := by
      intro mem
      obtain ⟨other, found, same⟩ := List.mem_map.mp mem
      have differs := others other found
      simp [same] at differs
    have freshName : index.name ∉ table.indexes.map (·.name) := by
      intro mem
      obtain ⟨other, found, same⟩ := List.mem_map.mp mem
      have differs := others other found
      simp [same] at differs
    have extended {Key : Type} {key : IndexDescriptor → Key}
        (distinct : (table.indexes.map key).Nodup) (fresh : key index ∉ table.indexes.map key) :
        ((table.indexes ++ [index]).map key).Nodup := by
      rw [List.map_append, List.map_singleton]
      refine List.Nodup.append distinct (List.nodup_singleton _) ?_
      intro value mem last
      exact fresh (List.mem_singleton.mp last ▸ mem)
    exact {
      columnIds := well.columnIds
      columnNames := well.columnNames
      ordinals := well.ordinals
      indexIds := extended well.indexIds freshId
      indexNames := extended well.indexNames freshName
      partIndexes := by
        intro part mem
        rw [List.map_append, List.mem_append]
        rcases List.mem_append.mp mem with old | new
        · exact .inl (well.partIndexes part old)
        · exact .inr (List.mem_singleton.mpr (own part new))
      partColumns := by
        intro part mem
        rcases List.mem_append.mp mem with old | new
        · exact well.partColumns part old
        · exact named part new
      partOrdinals := by
        intro current mem
        unfold CatalogTable.partsOf
        rw [List.filter_append]
        rcases List.mem_append.mp mem with old | new
        · have none : parts.filter (fun part => part.indexId = current.indexId) = [] := by
            refine List.filter_eq_nil_iff.mpr ?_
            intro part found
            have other : index.indexId ≠ current.indexId :=
              fun same => freshId (same ▸ List.mem_map_of_mem old)
            simpa [own part found] using other
          rw [none, List.append_nil]
          exact well.partOrdinals current old
        · cases List.mem_singleton.mp new
          have none : table.indexColumns.filter (fun part => part.indexId = index.indexId) = [] := by
            refine List.filter_eq_nil_iff.mpr ?_
            intro part found
            have other : part.indexId ≠ index.indexId :=
              fun same => freshId (same ▸ well.partIndexes part found)
            simpa using other
          have all : parts.filter (fun part => part.indexId = index.indexId) = parts :=
            List.filter_eq_self.mpr fun part found => by simpa using own part found
          rw [none, all, List.nil_append]
          exact ⟨some, ordinals⟩ }

theorem removeIndexFrom_wellFormed {table changed : CatalogTable} {indexId : Int}
    (well : table.WellFormed) (removed : removeIndexFrom indexId table = .ok changed) :
    changed.WellFormed := by
  unfold removeIndexFrom at removed
  split at removed
  · cases removed
  · cases removed
    have erased : (table.indexes.eraseP fun index => index.indexId = indexId).Sublist
        table.indexes := List.eraseP_sublist
    exact {
      columnIds := well.columnIds
      columnNames := well.columnNames
      ordinals := well.ordinals
      indexIds := well.indexIds.sublist (erased.map _)
      indexNames := well.indexNames.sublist (erased.map _)
      partIndexes := by
        intro part mem
        obtain ⟨found, other⟩ := List.mem_filter.mp mem
        obtain ⟨index, there, same⟩ := List.mem_map.mp (well.partIndexes part found)
        refine List.mem_map.mpr ⟨index, (List.mem_eraseP_of_neg ?_).mpr there, same⟩
        simpa [same] using other
      partColumns := fun part mem => well.partColumns part (List.mem_filter.mp mem).1
      partOrdinals := by
        intro index mem
        have other : index.indexId ≠ indexId :=
          Keyed.key_ne_of_mem_eraseP well.indexIds mem
        have same : (table.indexColumns.filter fun part => part.indexId ≠ indexId).filter
            (fun part => part.indexId = index.indexId) = table.partsOf index.indexId := by
          unfold CatalogTable.partsOf
          rw [List.filter_filter]
          refine List.filter_congr fun part _ => ?_
          by_cases named : part.indexId = index.indexId
          · simp [named, other]
          · simp [named]
        have old := well.partOrdinals index (erased.subset mem)
        unfold CatalogTable.partsOf
        rw [same]
        exact old }

end MyLite.TemporaryCatalog
