import MyLite.Catalog.Cache

/-! What the connections do between them, one action at a time. A catalog change
is one action: its contents are open to the connection alone, and every way out
of it empties the caches. -/

namespace MyLite.Catalog

variable {Payload : Type}

/-- The descriptor a statement asks for. -/
inductive Lookup where
  | columns (tableId : Int)
  | keyMetadata (tableId : Int)
  | schemaById (schemaId : Int)
  | schemaByName (name : List UInt8)
  | tableById (tableId : Int)
  | tableByName (schemaId : Int) (name : List UInt8)
  deriving DecidableEq, Repr

inductive Descriptor (Payload : Type) where
  | loaded (payload : Payload)
  | schema (descriptor : SchemaDescriptor Payload)
  | table (descriptor : TableDescriptor Payload)
  deriving DecidableEq

def Snapshot.read (snapshot : Snapshot Payload) : Lookup → Option (Descriptor Payload)
  | .columns tableId => (snapshot.contents.columns tableId).map .loaded
  | .keyMetadata tableId => (snapshot.contents.keyMetadata tableId).map .loaded
  | .schemaById schemaId => (snapshot.readSchemaById schemaId).map .schema
  | .schemaByName name => (snapshot.readSchemaByName name).map .schema
  | .tableById tableId => (snapshot.readTableById tableId).map .table
  | .tableByName schemaId name => (snapshot.readTableByName schemaId name).map .table

/-- What a connection answers through its caches, and the caches afterwards. -/
def CatalogState.lookup (catalog : CatalogState Payload) (snapshot : Snapshot Payload) :
    Lookup → Option (Descriptor Payload) × CatalogState Payload
  | .columns tableId =>
    (catalog.acquireTableColumns snapshot tableId).map (Option.map .loaded) id
  | .keyMetadata tableId =>
    (catalog.acquireTableKeyMetadata snapshot tableId).map (Option.map .loaded) id
  | .schemaById schemaId =>
    (catalog.readSchemaById snapshot schemaId).map (Option.map .schema) id
  | .schemaByName name =>
    (catalog.tryReadSchemaByName snapshot name).map (Option.map .schema) id
  | .tableById tableId =>
    (catalog.readTableById snapshot tableId).map (Option.map .table) id
  | .tableByName schemaId name =>
    (catalog.tryReadTableByName snapshot schemaId name).map (Option.map .table) id

inductive CacheName where
  | columns
  | keyMetadata
  | schema
  | table
  deriving DecidableEq, Repr

/-- A cache gives up an entry for another. -/
def CatalogState.evict (catalog : CatalogState Payload) (position : Nat) :
    CacheName → CatalogState Payload
  | .columns => { catalog with
      tableColumnsCache := catalog.tableColumnsCache.eraseIdx position }
  | .keyMetadata => { catalog with
      tableKeyMetadataCache := catalog.tableKeyMetadataCache.eraseIdx position }
  | .schema => { catalog with schemas := catalog.schemas.eraseIdx position }
  | .table => { catalog with tables := catalog.tables.eraseIdx position }

/-- `guarded` is `write_plan_generation_guard_active`. -/
inductive CatalogChange where
  | mutation (guarded : Bool)
  | generationChange
  deriving DecidableEq, Repr

inductive Action (Payload : Type) where
  | openFile
  | beginTransaction (kind : TransactionKind)
  | synchronize
  | compareGeneration
  | lookup (key : Lookup)
  | evict (cache : CacheName) (position : Nat)
  | writeStatus (tableId : Int) (status : TableStatus)
  | reconcileHighWaters (status : Int → TableStatus)
  | changeCatalog (change : CatalogChange) (contents : Contents Payload)
      (status : Int → TableStatus)
  | failCatalogChange
  | savepoint
  | rollbackToSavepoint
  | releaseSavepoint
  | commit
  | rollback

/-- One connection after its action, and the snapshot that the action commits. -/
structure Outcome (Payload : Type) where
  connection : Connection Payload
  published : Option (Snapshot Payload)

def Outcome.unpublished (connection : Connection Payload) : Outcome Payload :=
  { connection := connection, published := none }

def uint64Max : Nat := 18446744073709551615

/-- The number of a change that goes through, from the stored generation:
`mylite_catalog_begin_mutation` plans again where the guard's generation is another. -/
def CatalogChange.next (change : CatalogChange) (catalog : CatalogState Payload)
    (stored : Nat) : Option Nat :=
  match change with
  | .mutation guarded =>
    if (guarded && stored ≠ catalog.generation) || stored = uint64Max then none
    else some (stored + 1)
  | .generationChange => if stored = uint64Max then none else some (stored + 1)

/-- A change that ends without writing. Only a mutation that has no number left
empties the caches. -/
def CatalogChange.refuse (change : CatalogChange) (catalog : CatalogState Payload)
    (stored : Nat) : CatalogState Payload :=
  match change with
  | .mutation guarded =>
    if guarded && stored ≠ catalog.generation then catalog
    else catalog.invalidateDescriptorCache
  | .generationChange => catalog

/-- `mylite_catalog_commit_mutation` and `mylite_catalog_finish_generation_change`. -/
def CatalogState.finishChange (catalog : CatalogState Payload) (generation : Nat) :
    CatalogState Payload :=
  { catalog with generation := generation }.invalidateDescriptorCache

/-- Inside a planning transaction a change is a savepoint of it; without one it
is a transaction of its own, under the write lock. -/
def changeCatalog (file : Snapshot Payload) (lockFree : Bool) (connection : Connection Payload)
    (change : CatalogChange) (contents : Contents Payload) (status : Int → TableStatus) :
    Option (Outcome Payload) :=
  let catalog := connection.catalog
  let stored := (connection.current file).generation
  match connection.transaction with
  | none =>
    if !lockFree then none
    else match change.next catalog stored with
      | none => some (.unpublished { connection with catalog := change.refuse catalog stored })
      | some generation => some {
          connection := { connection with catalog := catalog.finishChange generation }
          published := some ⟨generation, contents, status⟩ }
  | some transaction =>
    if transaction.kind ≠ .planning then none
    else match change.next catalog stored with
      | none => some (.unpublished { connection with catalog := change.refuse catalog stored })
      | some generation => some (.unpublished { connection with
          catalog := catalog.finishChange generation
          transaction := some { transaction with view := ⟨generation, contents, status⟩ } })

/-- `mylite_catalog_update_table_auto_increment_next` and its siblings. -/
def writeStatus (connection : Connection Payload) (transaction : Transaction Payload)
    (tableId : Int) (status : TableStatus) : Connection Payload :=
  { connection with
    catalog := connection.catalog.invalidateEntry tableId
    transaction := some { transaction with
      view := { transaction.view with
        status := Function.update transaction.view.status tableId status } } }

/-- One action of a connection. A deferred BEGIN is taken at its first read,
before which it has seen nothing; `lockFree` says that no other connection
writes. Descriptors are read only after a first synchronization. -/
def act (file : Snapshot Payload) (lockFree : Bool) (connection : Connection Payload) :
    Action Payload → Option (Outcome Payload)
  | .openFile =>
    if connection.transaction.isSome then none
    else some (.unpublished (.initializeFileBacked file connection.dataVersion))
  | .beginTransaction kind =>
    if connection.transaction.isSome || (kind.immediate && !lockFree) then none
    else some (.unpublished { connection with
      transaction := some {
        kind := kind, view := file, dataVersion := connection.dataVersion
        savepoints := [], synchronized := false }
      snapshotSynchronized := !kind.isUser && connection.snapshotSynchronized })
  | .synchronize => some (.unpublished connection.synchronizeSnapshot)
  | .compareGeneration => connection.pending.map fun dataVersion =>
    .unpublished (connection.finishSynchronization
      (connection.catalog.compareGeneration dataVersion (connection.current file).generation))
  | .lookup key =>
    if connection.catalog.observedDataVersion.isNone then none
    else some (.unpublished { connection with
      catalog := (connection.catalog.lookup (connection.current file) key).2 })
  | .evict cache position => some (.unpublished { connection with
      catalog := connection.catalog.evict position cache })
  | .writeStatus tableId status =>
    (connection.transaction.filter fun transaction => transaction.kind.immediate).map
      fun transaction => .unpublished (writeStatus connection transaction tableId status)
  | .reconcileHighWaters status =>
    (connection.transaction.filter fun transaction => transaction.kind.immediate).map
      fun transaction => .unpublished { connection with
        catalog := connection.catalog.invalidateDescriptorCache
        transaction := some { transaction with
          view := { transaction.view with status := status } } }
  | .changeCatalog change contents status =>
    changeCatalog file lockFree connection change contents status
  | .failCatalogChange => some (.unpublished { connection with
      catalog := connection.catalog.invalidateDescriptorCache })
  | .savepoint =>
    connection.transaction.map fun transaction => .unpublished { connection with
      transaction := some { transaction with
        savepoints := transaction.view :: transaction.savepoints } }
  | .rollbackToSavepoint =>
    connection.transaction.bind fun transaction =>
      transaction.savepoints.head?.map fun view => .unpublished { connection with
        catalog := connection.catalog.invalidateDescriptorCache
        transaction := some { transaction with view := view } }
  | .releaseSavepoint =>
    connection.transaction.map fun transaction => .unpublished { connection with
      transaction := some { transaction with savepoints := transaction.savepoints.tail } }
  | .commit => connection.transaction.map fun transaction => {
      connection := { connection with transaction := none }
      published := if transaction.kind.immediate then some transaction.view else none }
  | .rollback => connection.transaction.map fun _ => .unpublished { connection with
      catalog := connection.catalog.invalidateDescriptorCache
      transaction := none }

structure State (n : Nat) (Payload : Type) where
  file : Snapshot Payload
  connection : Fin n → Connection Payload

structure Event (n : Nat) (Payload : Type) where
  connection : Fin n
  action : Action Payload

variable {n : Nat}

def State.lockFree (state : State n Payload) (c : Fin n) : Bool :=
  decide (∀ other, other ≠ c → (state.connection other).holdsWriteLock = false)

/-- PRAGMA data_version changes for every connection but the one that commits. -/
def Connection.observeCommit (connection : Connection Payload) : Connection Payload :=
  { connection with dataVersion := connection.dataVersion + 1 }

def State.apply (state : State n Payload) (c : Fin n) (outcome : Outcome Payload) :
    State n Payload :=
  match outcome.published with
  | none => { state with connection := Function.update state.connection c outcome.connection }
  | some snapshot => {
      file := snapshot
      connection := fun other =>
        if other = c then outcome.connection else (state.connection other).observeCommit }

/-- A connection that is inside a synchronization does nothing else. -/
def admits (connection : Connection Payload) (action : Action Payload) : Bool :=
  match action with
  | .compareGeneration => true
  | _ => connection.pending.isNone

def step (state : State n Payload) (event : Event n Payload) : Option (State n Payload) :=
  let connection := state.connection event.connection
  if admits connection event.action then
    (act state.file (state.lockFree event.connection) connection event.action).map
      (state.apply event.connection)
  else none

/-- Every connection has just opened the file. -/
def initial (n : Nat) (file : Snapshot Payload) : State n Payload where
  file := file
  connection := fun _ => .initializeFileBacked file 0

/-- The generation that an action writes to the file where it commits. -/
def publishedGeneration (file : Snapshot Payload) (connection : Connection Payload) :
    Action Payload → Option Nat
  | .changeCatalog _ _ _ =>
    if connection.transaction.isNone then some (file.generation + 1) else none
  | .commit => (connection.transaction.filter fun transaction => transaction.kind.immediate).map
      fun transaction => transaction.view.generation
  | _ => none

/-- No other connection holds the generation that an event newly publishes. -/
def GenerationUnused (state : State n Payload) (event : Event n Payload) : Prop :=
  ∀ generation,
    publishedGeneration state.file (state.connection event.connection) event.action =
      some generation →
    generation ≠ state.file.generation →
    ∀ other, other ≠ event.connection →
      (state.connection other).catalog.generation ≠ generation

end MyLite.Catalog
