import Mathlib.Data.List.Nodup

/-! The session's catalog of temporary tables, `mylite_temporary_catalog.c`: its descriptors and
the operations on them. -/
namespace MyLite.TemporaryCatalog

inductive Status where
  | ok
  | misuse
  | error
  deriving DecidableEq, Repr

inductive IndexKind where
  | primary
  | secondary
  | fulltext
  | spatial
  deriving DecidableEq, Repr

inductive SortDirection where
  | asc
  | desc
  deriving DecidableEq, Repr

structure ColumnDescriptor where
  columnId : Int
  tableId : Int
  ordinalPosition : Int
  name : String
  isNullable : Bool
  deriving DecidableEq, Repr

structure IndexDescriptor where
  indexId : Int
  tableId : Int
  name : String
  kind : IndexKind
  isUnique : Bool
  physicalName : String
  deriving DecidableEq, Repr

structure IndexColumnDescriptor where
  indexColumnId : Int
  indexId : Int
  tableId : Int
  columnId : Int
  ordinalPosition : Int
  prefixLength : Option Int
  sortDirection : SortDirection
  deriving DecidableEq, Repr

structure TableDescriptor where
  tableId : Int
  name : String
  physicalName : String
  autoIncrementNext : Int
  comment : String
  deriving DecidableEq, Repr

/-- `struct mylite_temporary_catalog_table`. -/
structure CatalogTable where
  schemaName : String
  table : TableDescriptor
  columns : List ColumnDescriptor
  indexes : List IndexDescriptor
  indexColumns : List IndexColumnDescriptor
  deriving DecidableEq, Repr

/-- `struct mylite_temporary_catalog`. -/
structure Catalog where
  nextTableId : Int := -1
  nextColumnId : Int := -1
  nextIndexId : Int := -1
  nextIndexColumnId : Int := -1
  nextPhysicalTableId : Nat := 1
  nextPhysicalIndexId : Nat := 1
  tables : List CatalogTable := []
  deriving DecidableEq, Repr

def int64Min : Int := -9223372036854775808

def uint64Max : Nat := 18446744073709551615

def tableCommentCapacity : Nat := 2048 * 4 + 1

/-! Identifiers. -/

/-- `allocate_negative_id`: the identifier and the next one. -/
def allocateNegativeId (nextId : Int) : Option (Int × Int) :=
  if nextId ≥ 0 ∨ nextId = int64Min then none else some (nextId, nextId - 1)

/-- What an operation hands back. -/
structure Reply where
  status : Status
  id : Option Int := none
  physicalName : Option String := none
  deriving DecidableEq, Repr

def buildTemporaryTableName (physicalId capacity : Nat) : Option String :=
  let name := "_mylite_temp_table_" ++ toString physicalId
  if name.length ≥ capacity then none else some name

def buildTemporaryIndexName (physicalId capacity : Nat) : Option String :=
  let name := "_mylite_temp_index_" ++ toString physicalId
  if name.length ≥ capacity then none else some name

def Catalog.allocateTableIdentity (catalog : Catalog) (capacity : Nat) : Catalog × Reply :=
  if catalog.nextPhysicalTableId = uint64Max then (catalog, { status := .error })
  else
    match allocateNegativeId catalog.nextTableId with
    | none => (catalog, { status := .error })
    | some (id, next) =>
      match buildTemporaryTableName catalog.nextPhysicalTableId capacity with
      | none => ({ catalog with nextTableId := next }, { status := .error, id := id })
      | some name =>
        ({ catalog with
            nextTableId := next
            nextPhysicalTableId := catalog.nextPhysicalTableId + 1 },
          { status := .ok, id := id, physicalName := name })

def Catalog.allocateColumnId (catalog : Catalog) : Catalog × Reply :=
  match allocateNegativeId catalog.nextColumnId with
  | none => (catalog, { status := .error })
  | some (id, next) => ({ catalog with nextColumnId := next }, { status := .ok, id := id })

def Catalog.allocateIndexIdentity (catalog : Catalog) (capacity : Nat) : Catalog × Reply :=
  if catalog.nextPhysicalIndexId = uint64Max then (catalog, { status := .error })
  else
    match allocateNegativeId catalog.nextIndexId with
    | none => (catalog, { status := .error })
    | some (id, next) =>
      match buildTemporaryIndexName catalog.nextPhysicalIndexId capacity with
      | none => ({ catalog with nextIndexId := next }, { status := .error, id := id })
      | some name =>
        ({ catalog with
            nextIndexId := next
            nextPhysicalIndexId := catalog.nextPhysicalIndexId + 1 },
          { status := .ok, id := id, physicalName := name })

def Catalog.allocateIndexColumnId (catalog : Catalog) : Catalog × Reply :=
  match allocateNegativeId catalog.nextIndexColumnId with
  | none => (catalog, { status := .error })
  | some (id, next) => ({ catalog with nextIndexColumnId := next }, { status := .ok, id := id })

/-! Tables. -/

def Catalog.findTableById (catalog : Catalog) (tableId : Int) : Option CatalogTable :=
  catalog.tables.find? fun table => table.table.tableId = tableId

def Catalog.findTableBySchemaName (catalog : Catalog) (schemaName tableName : String) :
    Option CatalogTable :=
  catalog.tables.find? fun table =>
    table.schemaName = schemaName && table.table.name = tableName

def Catalog.appendTable (catalog : Catalog) (table : CatalogTable) : Catalog × Status :=
  if table.table.tableId ≥ 0 ∨ table.schemaName = "" ∨ table.table.name = "" then
    (catalog, .misuse)
  else if (catalog.findTableBySchemaName table.schemaName table.table.name).isSome then
    (catalog, .error)
  else ({ catalog with tables := catalog.tables ++ [table] }, .ok)

def Catalog.removeTableById (catalog : Catalog) (tableId : Int) : Catalog × Status :=
  if tableId ≥ 0 then (catalog, .misuse)
  else if (catalog.findTableById tableId).isNone then (catalog, .error)
  else
    ({ catalog with tables := catalog.tables.eraseP fun table => table.table.tableId = tableId },
      .ok)

/-- The first table with the identifier exchanged for another one. -/
def replaceTable (tableId : Int) (changed : CatalogTable) : List CatalogTable → List CatalogTable
  | [] => []
  | table :: rest =>
    if table.table.tableId = tableId then changed :: rest
    else table :: replaceTable tableId changed rest

/-- A change in place of the table that `find_table_by_id_mutable` finds. -/
def Catalog.changeTable (catalog : Catalog) (tableId : Int)
    (change : CatalogTable → Except Status CatalogTable) : Catalog × Status :=
  match catalog.findTableById tableId with
  | none => (catalog, .error)
  | some table =>
    match change table with
    | .error status => (catalog, status)
    | .ok changed => ({ catalog with tables := replaceTable tableId changed catalog.tables }, .ok)

def Catalog.updateTableAutoIncrementNext (catalog : Catalog) (tableId autoIncrementNext : Int) :
    Catalog × Status :=
  if tableId ≥ 0 then (catalog, .misuse)
  else if autoIncrementNext ≤ 0 then (catalog, .error)
  else
    catalog.changeTable tableId fun table =>
      .ok { table with table := { table.table with autoIncrementNext := autoIncrementNext } }

def Catalog.updateTableComment (catalog : Catalog) (tableId : Int) (comment : String) :
    Catalog × Status :=
  if tableId ≥ 0 then (catalog, .misuse)
  else if comment.utf8ByteSize ≥ tableCommentCapacity then (catalog, .error)
  else
    catalog.changeTable tableId fun table =>
      .ok { table with table := { table.table with comment := comment } }

/-! Columns. -/

/-- The ordinal positions 1, 2, … in the order of the columns. -/
def renumber (columns : List ColumnDescriptor) : List ColumnDescriptor :=
  columns.mapIdx fun index column => { column with ordinalPosition := (index : Int) + 1 }

def appendColumnTo (column : ColumnDescriptor) (targetColumnIndex : Nat) (table : CatalogTable) :
    Except Status CatalogTable :=
  if targetColumnIndex > table.columns.length then .error .error
  else if table.columns.any fun current =>
      current.columnId = column.columnId || current.name = column.name then .error .error
  else
    .ok { table with columns := renumber (table.columns.insertIdx targetColumnIndex column) }

def Catalog.appendColumn (catalog : Catalog) (tableId : Int) (column : ColumnDescriptor)
    (targetColumnIndex : Nat) : Catalog × Status :=
  if tableId ≥ 0 ∨ column.columnId ≥ 0 ∨ column.tableId ≠ tableId then (catalog, .misuse)
  else catalog.changeTable tableId (appendColumnTo column targetColumnIndex)

/-- The first column with the identifier exchanged for another one, at its position. -/
def replaceColumnAt (columnId : Int) (column : ColumnDescriptor) :
    Nat → List ColumnDescriptor → List ColumnDescriptor
  | _, [] => []
  | position, current :: rest =>
    if current.columnId = columnId then
      { column with ordinalPosition := (position : Int) + 1 } :: rest
    else current :: replaceColumnAt columnId column (position + 1) rest

def replaceColumnIn (columnId : Int) (column : ColumnDescriptor) (table : CatalogTable) :
    Except Status CatalogTable :=
  if table.columns.any fun current =>
      current.columnId ≠ columnId && current.name = column.name then .error .error
  else if !(table.columns.any fun current => current.columnId = columnId) then .error .error
  else .ok { table with columns := replaceColumnAt columnId column 0 table.columns }

def Catalog.replaceColumn (catalog : Catalog) (tableId columnId : Int)
    (column : ColumnDescriptor) : Catalog × Status :=
  if tableId ≥ 0 ∨ columnId ≥ 0 ∨ column.tableId ≠ tableId ∨ column.columnId ≠ columnId then
    (catalog, .misuse)
  else catalog.changeTable tableId (replaceColumnIn columnId column)

/-- The loop of `mylite_temporary_catalog_replace_columns` over the new columns, with those in
front of it. -/
def checkReplacement (tableId : Int) :
    List ColumnDescriptor → List ColumnDescriptor → Except Status Unit
  | _, [] => .ok ()
  | prior, column :: rest =>
    if column.tableId ≠ tableId ∨ column.columnId ≥ 0 then .error .misuse
    else if prior.any fun earlier =>
        earlier.columnId = column.columnId || earlier.name = column.name then .error .error
    else checkReplacement tableId (prior ++ [column]) rest

def replaceColumnsIn (tableId : Int) (columns : List ColumnDescriptor) (table : CatalogTable) :
    Except Status CatalogTable :=
  (checkReplacement tableId [] columns).map fun _ => { table with columns := renumber columns }

def Catalog.replaceColumns (catalog : Catalog) (tableId : Int)
    (columns : List ColumnDescriptor) : Catalog × Status :=
  if tableId ≥ 0 ∨ columns = [] then (catalog, .misuse)
  else catalog.changeTable tableId (replaceColumnsIn tableId columns)

def removeColumnFrom (columnId : Int) (table : CatalogTable) : Except Status CatalogTable :=
  if !(table.columns.any fun current => current.columnId = columnId) then .error .error
  else
    .ok { table with
      columns := renumber (table.columns.eraseP fun current => current.columnId = columnId) }

def Catalog.removeColumnById (catalog : Catalog) (tableId columnId : Int) : Catalog × Status :=
  if tableId ≥ 0 ∨ columnId ≥ 0 then (catalog, .misuse)
  else catalog.changeTable tableId (removeColumnFrom columnId)

/-! Indexes. -/

def appendIndexTo (index : IndexDescriptor) (indexColumns : List IndexColumnDescriptor)
    (table : CatalogTable) : Except Status CatalogTable :=
  if table.indexes.any fun current =>
      current.indexId = index.indexId || current.name = index.name then .error .error
  else
    .ok { table with
      indexes := table.indexes ++ [index]
      indexColumns := table.indexColumns ++ indexColumns }

def Catalog.appendIndex (catalog : Catalog) (tableId : Int) (index : IndexDescriptor)
    (indexColumns : List IndexColumnDescriptor) : Catalog × Status :=
  if tableId ≥ 0 ∨ index.indexId ≥ 0 ∨ index.tableId ≠ tableId then (catalog, .misuse)
  else if indexColumns.any fun part =>
      part.indexColumnId ≥ 0 || part.indexId ≠ index.indexId || part.tableId ≠ tableId then
    (catalog, .misuse)
  else catalog.changeTable tableId (appendIndexTo index indexColumns)

def removeIndexFrom (indexId : Int) (table : CatalogTable) : Except Status CatalogTable :=
  if !(table.indexes.any fun current => current.indexId = indexId) then .error .error
  else
    .ok { table with
      indexes := table.indexes.eraseP fun current => current.indexId = indexId
      indexColumns := table.indexColumns.filter fun part => part.indexId ≠ indexId }

def Catalog.removeIndexById (catalog : Catalog) (tableId indexId : Int) : Catalog × Status :=
  if tableId ≥ 0 ∨ indexId ≥ 0 then (catalog, .misuse)
  else catalog.changeTable tableId (removeIndexFrom indexId)

/-! Operations. -/

inductive Operation where
  | allocateTableIdentity (capacity : Nat)
  | allocateColumnId
  | allocateIndexIdentity (capacity : Nat)
  | allocateIndexColumnId
  | appendTable (table : CatalogTable)
  | removeTableById (tableId : Int)
  | updateTableAutoIncrementNext (tableId autoIncrementNext : Int)
  | updateTableComment (tableId : Int) (comment : String)
  | appendColumn (tableId : Int) (column : ColumnDescriptor) (targetColumnIndex : Nat)
  | replaceColumn (tableId columnId : Int) (column : ColumnDescriptor)
  | replaceColumns (tableId : Int) (columns : List ColumnDescriptor)
  | removeColumnById (tableId columnId : Int)
  | appendIndex (tableId : Int) (index : IndexDescriptor)
      (indexColumns : List IndexColumnDescriptor)
  | removeIndexById (tableId indexId : Int)
  deriving DecidableEq, Repr

def withStatus (result : Catalog × Status) : Catalog × Reply :=
  (result.1, { status := result.2 })

def step (catalog : Catalog) : Operation → Catalog × Reply
  | .allocateTableIdentity capacity => catalog.allocateTableIdentity capacity
  | .allocateColumnId => catalog.allocateColumnId
  | .allocateIndexIdentity capacity => catalog.allocateIndexIdentity capacity
  | .allocateIndexColumnId => catalog.allocateIndexColumnId
  | .appendTable table => withStatus (catalog.appendTable table)
  | .removeTableById tableId => withStatus (catalog.removeTableById tableId)
  | .updateTableAutoIncrementNext tableId next =>
    withStatus (catalog.updateTableAutoIncrementNext tableId next)
  | .updateTableComment tableId comment =>
    withStatus (catalog.updateTableComment tableId comment)
  | .appendColumn tableId column target =>
    withStatus (catalog.appendColumn tableId column target)
  | .replaceColumn tableId columnId column =>
    withStatus (catalog.replaceColumn tableId columnId column)
  | .replaceColumns tableId columns => withStatus (catalog.replaceColumns tableId columns)
  | .removeColumnById tableId columnId => withStatus (catalog.removeColumnById tableId columnId)
  | .appendIndex tableId index parts => withStatus (catalog.appendIndex tableId index parts)
  | .removeIndexById tableId indexId => withStatus (catalog.removeIndexById tableId indexId)

end MyLite.TemporaryCatalog
