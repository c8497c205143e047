import Mathlib.Data.Fintype.Basic
import MyLite.Library.Keyed
import MyLite.Library.Machine

/-! The descriptor caches of the connections that share one file, and the
catalog generation by which a connection decides that its own are stale. -/

namespace MyLite.Catalog

/-- The columns of a table's row that data statements write. -/
structure TableStatus where
  autoIncrementNext : Nat
  autoIncrementStatus : Nat
  updatedTimeUtcEpoch : Nat
  nextPositive : 0 < autoIncrementNext
  deriving DecidableEq

/-- `payload` stands for the columns that no cache reads. -/
structure SchemaDescriptor (Payload : Type) where
  schemaId : Int
  name : List UInt8
  payload : Payload
  deriving DecidableEq

structure TableDefinition (Payload : Type) where
  tableId : Int
  schemaId : Int
  name : List UInt8
  payload : Payload
  deriving DecidableEq

structure TableDescriptor (Payload : Type) where
  definition : TableDefinition Payload
  status : TableStatus
  deriving DecidableEq

/-- The catalog tables, under the keys that their definitions declare. -/
structure Contents (Payload : Type) where
  schemas : List (SchemaDescriptor Payload)
  tables : List (TableDefinition Payload)
  columns : Int → Option Payload
  keyMetadata : Int → Option Payload
  schemaIds : (schemas.map SchemaDescriptor.schemaId).Nodup
  schemaNames : (schemas.map SchemaDescriptor.name).Nodup
  tableIds : (tables.map TableDefinition.tableId).Nodup
  tableNames : (tables.map fun table => (table.schemaId, table.name)).Nodup

/-- One state of the file. -/
structure Snapshot (Payload : Type) where
  generation : Nat
  contents : Contents Payload
  status : Int → TableStatus

inductive TransactionKind where
  /-- `mylite_execution_begin_read_statement_transaction` -/
  | read
  /-- `mylite_execution_begin_statement_transaction` -/
  | statement
  /-- `mylite_execution_begin_writer_stable_planning_transaction` -/
  | planning
  | user (readOnly : Bool)
  deriving DecidableEq, Repr

/-- Whether the transaction starts with BEGIN IMMEDIATE, and so holds the write lock. -/
def TransactionKind.immediate : TransactionKind → Bool
  | .read => false
  | .statement | .planning => true
  | .user readOnly => !readOnly

def TransactionKind.isUser : TransactionKind → Bool
  | .user _ => true
  | _ => false

/-- `synchronized` records that a synchronization has ended inside the transaction. -/
structure Transaction (Payload : Type) where
  kind : TransactionKind
  view : Snapshot Payload
  dataVersion : Nat
  savepoints : List (Snapshot Payload)
  synchronized : Bool

/-- `struct loaded_table_columns_cache_entry`, and the one for key metadata. -/
structure LoadedEntry (Payload : Type) where
  tableId : Int
  catalogGeneration : Nat
  payload : Payload

structure CachedTable (Payload : Type) where
  descriptor : TableDescriptor Payload
  statusIsStale : Bool

def CachedTable.tableId {Payload : Type} (entry : CachedTable Payload) : Int :=
  entry.descriptor.definition.tableId

/-- `struct mylite_catalog` with the caches of loaded tables; `cachedGeneration`
is `none` while `descriptor_cache_is_valid` is false. -/
structure CatalogState (Payload : Type) where
  generation : Nat
  observedDataVersion : Option Nat
  tableColumnsCache : List (LoadedEntry Payload)
  tableKeyMetadataCache : List (LoadedEntry Payload)
  cachedGeneration : Option Nat
  schemas : List (SchemaDescriptor Payload)
  tables : List (CachedTable Payload)

/-- `dataVersion` is what PRAGMA data_version answers outside a transaction, and
`pending` the answer that a synchronization under way has read. -/
structure Connection (Payload : Type) where
  catalog : CatalogState Payload
  snapshotSynchronized : Bool
  dataVersion : Nat
  transaction : Option (Transaction Payload)
  pending : Option Nat

variable {Payload : Type}

namespace Snapshot

def readSchemaById (snapshot : Snapshot Payload) : Int → Option (SchemaDescriptor Payload) :=
  Keyed.lookup SchemaDescriptor.schemaId snapshot.contents.schemas

def readSchemaByName (snapshot : Snapshot Payload) :
    List UInt8 → Option (SchemaDescriptor Payload) :=
  Keyed.lookup SchemaDescriptor.name snapshot.contents.schemas

/-- A table's whole row. -/
def describe (snapshot : Snapshot Payload) (definition : TableDefinition Payload) :
    TableDescriptor Payload :=
  { definition := definition, status := snapshot.status definition.tableId }

def readTableById (snapshot : Snapshot Payload) (tableId : Int) :
    Option (TableDescriptor Payload) :=
  (Keyed.lookup TableDefinition.tableId snapshot.contents.tables tableId).map snapshot.describe

def readTableByName (snapshot : Snapshot Payload) (schemaId : Int) (name : List UInt8) :
    Option (TableDescriptor Payload) :=
  (Keyed.lookup (fun table => (table.schemaId, table.name)) snapshot.contents.tables
    (schemaId, name)).map snapshot.describe

end Snapshot

def identifierCapacity : Nat := 64

/-- `mylite_catalog_validate_required_name`. -/
def validateRequiredName (name : List UInt8) : Bool :=
  !name.isEmpty && name.length < identifierCapacity

namespace CatalogState

/-- `mylite_catalog_initialize_file_backed`. -/
def initializeFileBacked (snapshot : Snapshot Payload) : CatalogState Payload where
  generation := snapshot.generation
  observedDataVersion := none
  tableColumnsCache := []
  tableKeyMetadataCache := []
  cachedGeneration := none
  schemas := []
  tables := []

/-- `mylite_catalog_invalidate_descriptor_cache`. -/
def invalidateDescriptorCache (catalog : CatalogState Payload) : CatalogState Payload :=
  { catalog with
    tableColumnsCache := [], tableKeyMetadataCache := [], cachedGeneration := none
    schemas := [], tables := [] }

/-- `mylite_catalog_table_cache_invalidate_status`. -/
def invalidateStatus (catalog : CatalogState Payload) : CatalogState Payload :=
  { catalog with
    tables := catalog.tables.map fun entry => { entry with statusIsStale := true } }

/-- `mylite_catalog_table_cache_invalidate_entry`. -/
def invalidateEntry (catalog : CatalogState Payload) (tableId : Int) : CatalogState Payload :=
  { catalog with
    tables := catalog.tables.eraseP fun entry => entry.tableId = tableId }

/-- `find_table_columns_cache_entry` and `find_table_key_metadata_cache_entry`. -/
def findLoadedEntry (catalog : CatalogState Payload) (cache : List (LoadedEntry Payload))
    (tableId : Int) : Option (LoadedEntry Payload) :=
  cache.find? fun entry =>
    entry.tableId = tableId && entry.catalogGeneration = catalog.generation

/-- The answer for a table whose columns or key metadata are asked for, and the
cache afterwards. -/
def acquireLoaded (catalog : CatalogState Payload) (cache : List (LoadedEntry Payload))
    (stored : Int → Option Payload) (tableId : Int) :
    Option Payload × List (LoadedEntry Payload) :=
  if tableId < 0 then (stored tableId, cache)
  else match catalog.findLoadedEntry cache tableId with
    | some entry => (some entry.payload, cache)
    | none => match stored tableId with
      | none => (none, cache)
      | some payload => (some payload, ⟨tableId, catalog.generation, payload⟩ :: cache)

/-- `mylite_execution_acquire_table_columns`. -/
def acquireTableColumns (catalog : CatalogState Payload) (snapshot : Snapshot Payload)
    (tableId : Int) : Option Payload × CatalogState Payload :=
  let acquired :=
    catalog.acquireLoaded catalog.tableColumnsCache snapshot.contents.columns tableId
  (acquired.1, { catalog with tableColumnsCache := acquired.2 })

/-- `mylite_execution_acquire_table_key_metadata`. -/
def acquireTableKeyMetadata (catalog : CatalogState Payload) (snapshot : Snapshot Payload)
    (tableId : Int) : Option Payload × CatalogState Payload :=
  let acquired :=
    catalog.acquireLoaded catalog.tableKeyMetadataCache snapshot.contents.keyMetadata tableId
  (acquired.1, { catalog with tableKeyMetadataCache := acquired.2 })

/-- Whether `find_cached_schema_by_name` and its siblings look at their entries. -/
def descriptorCacheUsable (catalog : CatalogState Payload) : Bool :=
  catalog.cachedGeneration = some catalog.generation

/-- `cache_schema_descriptor`. -/
def cacheSchemaDescriptor (catalog : CatalogState Payload)
    (schema : SchemaDescriptor Payload) : CatalogState Payload :=
  { catalog with
    schemas := schema :: catalog.schemas
    cachedGeneration := some catalog.generation }

/-- `cache_table_descriptor`. -/
def cacheTableDescriptor (catalog : CatalogState Payload)
    (table : TableDescriptor Payload) : CatalogState Payload :=
  { catalog with
    tables := { descriptor := table, statusIsStale := false } :: catalog.tables
    cachedGeneration := some catalog.generation }

/-- `mylite_catalog_read_schema_by_id` and `mylite_catalog_try_read_schema_by_name`
after their argument checks, for the key that each compares. -/
def readSchema {Key : Type} [DecidableEq Key] (catalog : CatalogState Payload)
    (snapshot : Snapshot Payload) (key : SchemaDescriptor Payload → Key) (value : Key) :
    Option (SchemaDescriptor Payload) × CatalogState Payload :=
  let cached :=
    if catalog.descriptorCacheUsable then Keyed.lookup key catalog.schemas value else none
  match cached with
  | some schema => (some schema, catalog)
  | none => match Keyed.lookup key snapshot.contents.schemas value with
    | none => (none, catalog)
    | some schema => (some schema, catalog.cacheSchemaDescriptor schema)

def readSchemaById (catalog : CatalogState Payload) (snapshot : Snapshot Payload)
    (schemaId : Int) : Option (SchemaDescriptor Payload) × CatalogState Payload :=
  if schemaId ≤ 0 then (none, catalog)
  else catalog.readSchema snapshot SchemaDescriptor.schemaId schemaId

def tryReadSchemaByName (catalog : CatalogState Payload) (snapshot : Snapshot Payload)
    (name : List UInt8) : Option (SchemaDescriptor Payload) × CatalogState Payload :=
  if !validateRequiredName name then (none, catalog)
  else catalog.readSchema snapshot SchemaDescriptor.name name

/-- `refresh_cached_table_status`; it fails where the table's row is gone. -/
def refreshCachedTableStatus (snapshot : Snapshot Payload) (entry : CachedTable Payload) :
    Option (CachedTable Payload) :=
  if entry.statusIsStale then
    (snapshot.readTableById entry.tableId).map fun stored =>
      { descriptor := { entry.descriptor with status := stored.status }, statusIsStale := false }
  else some entry

/-- `mylite_catalog_read_table_by_id` and `mylite_catalog_try_read_table_by_name`
after their argument checks. -/
def readTable {Key : Type} [DecidableEq Key] (catalog : CatalogState Payload)
    (snapshot : Snapshot Payload) (key : TableDefinition Payload → Key) (value : Key) :
    Option (TableDescriptor Payload) × CatalogState Payload :=
  let position :=
    if catalog.descriptorCacheUsable then
      catalog.tables.findIdx? fun entry => key entry.descriptor.definition = value
    else none
  match position with
  | some index => match catalog.tables[index]?.bind (refreshCachedTableStatus snapshot) with
    | none => (none, catalog)
    | some entry => (some entry.descriptor, { catalog with
        tables := catalog.tables.set index entry })
  | none => match Keyed.lookup key snapshot.contents.tables value with
    | none => (none, catalog)
    | some table => (some (snapshot.describe table),
        catalog.cacheTableDescriptor (snapshot.describe table))

def readTableById (catalog : CatalogState Payload) (snapshot : Snapshot Payload)
    (tableId : Int) : Option (TableDescriptor Payload) × CatalogState Payload :=
  if tableId ≤ 0 then (none, catalog)
  else catalog.readTable snapshot TableDefinition.tableId tableId

def tryReadTableByName (catalog : CatalogState Payload) (snapshot : Snapshot Payload)
    (schemaId : Int) (name : List UInt8) :
    Option (TableDescriptor Payload) × CatalogState Payload :=
  if schemaId ≤ 0 || !validateRequiredName name then (none, catalog)
  else catalog.readTable snapshot (fun table => (table.schemaId, table.name)) (schemaId, name)

/-- `mylite_catalog_synchronize_snapshot` once the stored generation is read. -/
def compareGeneration (catalog : CatalogState Payload) (dataVersion stored : Nat) :
    CatalogState Payload :=
  let compared :=
    if stored ≠ catalog.generation then
      { catalog with generation := stored }.invalidateDescriptorCache
    else if catalog.observedDataVersion.isSome then catalog.invalidateStatus
    else catalog
  { compared with observedDataVersion := some dataVersion }

end CatalogState

namespace Connection

def initializeFileBacked (snapshot : Snapshot Payload) (dataVersion : Nat) :
    Connection Payload where
  catalog := .initializeFileBacked snapshot
  snapshotSynchronized := false
  dataVersion := dataVersion
  transaction := none
  pending := none

def userTransactionActive (connection : Connection Payload) : Bool :=
  match connection.transaction with
  | some transaction => transaction.kind.isUser
  | none => false

/-- What the connection's next read sees. -/
def current (connection : Connection Payload) (file : Snapshot Payload) : Snapshot Payload :=
  match connection.transaction with
  | some transaction => transaction.view
  | none => file

/-- `read_data_version`. -/
def readDataVersion (connection : Connection Payload) : Nat :=
  match connection.transaction with
  | some transaction => transaction.dataVersion
  | none => connection.dataVersion

def holdsWriteLock (connection : Connection Payload) : Bool :=
  match connection.transaction with
  | some transaction => transaction.kind.immediate
  | none => false

/-- Every way out of `mylite_catalog_synchronize_snapshot` that answers MYLITE_OK. -/
def finishSynchronization (connection : Connection Payload) (catalog : CatalogState Payload) :
    Connection Payload :=
  { connection with
    catalog := catalog
    snapshotSynchronized := connection.userTransactionActive
    transaction := connection.transaction.map fun transaction =>
      { transaction with synchronized := true }
    pending := none }

/-- `mylite_catalog_synchronize_snapshot` up to the answer of PRAGMA data_version.
Outside a user transaction the flag of the last one is dropped first. -/
def synchronizeSnapshot (connection : Connection Payload) : Connection Payload :=
  if connection.userTransactionActive && connection.snapshotSynchronized then
    connection.finishSynchronization connection.catalog
  else if connection.catalog.observedDataVersion = some connection.readDataVersion then
    connection.finishSynchronization connection.catalog
  else
    { connection with
      snapshotSynchronized := false
      pending := some connection.readDataVersion }

end Connection

end MyLite.Catalog
