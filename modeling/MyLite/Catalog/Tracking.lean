import MyLite.Catalog.Agreement

/-! What a connection's caches have to do with the file and with the snapshot of
its transaction at every moment, and that its own actions keep it so. -/

namespace MyLite.Catalog

variable {Payload : Type} {catalog catalog' : CatalogState Payload}
  {file : Snapshot Payload} {connection : Connection Payload}
  {transaction : Transaction Payload}

/-- Within a generation the catalog tables keep their contents. -/
def Precedes (earlier later : Snapshot Payload) : Prop :=
  earlier.generation ≤ later.generation ∧
    (earlier.generation = later.generation → earlier.contents = later.contents)

theorem Precedes.refl (snapshot : Snapshot Payload) : Precedes snapshot snapshot :=
  ⟨Nat.le_refl _, fun _ => rfl⟩

theorem Precedes.trans {first second third : Snapshot Payload} (left : Precedes first second)
    (right : Precedes second third) : Precedes first third := by
  constructor
  · exact Nat.le_trans left.1 right.1
  · intro same
    have middle : first.generation = second.generation := by
      have := left.1
      have := right.1
      omega
    exact (left.2 middle).trans (right.2 (middle.symm.trans same))

theorem Precedes.of_lt {earlier later : Snapshot Payload}
    (less : earlier.generation < later.generation) : Precedes earlier later :=
  ⟨Nat.le_of_lt less, fun same => absurd same (Nat.ne_of_lt less)⟩

/-- What a synchronization may rely on: the caches are right for a snapshot
whose data version they have been checked at, and right up to the statuses for
one whose generation they carry. -/
structure Follows (catalog : CatalogState Payload) (snapshot : Snapshot Payload)
    (dataVersion : Nat) : Prop where
  observed : catalog.observedDataVersion = some dataVersion → Agrees catalog snapshot
  sameGeneration : catalog.generation = snapshot.generation →
    CatalogAgrees catalog snapshot.contents

theorem Follows.of_agrees {snapshot : Snapshot Payload} (agrees : Agrees catalog snapshot)
    (dataVersion : Nat) : Follows catalog snapshot dataVersion :=
  ⟨fun _ => agrees, fun _ => agrees.1⟩

structure ReaderTracks (file : Snapshot Payload) (connection : Connection Payload)
    (transaction : Transaction Payload) : Prop where
  precedes : Precedes transaction.view file
  latest : transaction.dataVersion = connection.dataVersion → transaction.view = file
  generation : connection.catalog.generation = file.generation →
    transaction.view.generation = file.generation
  savepoints : ∀ saved ∈ transaction.savepoints, saved = transaction.view

structure WriterTracks (file : Snapshot Payload) (connection : Connection Payload)
    (transaction : Transaction Payload) : Prop where
  dataVersion : transaction.dataVersion = connection.dataVersion
  precedes : Precedes file transaction.view
  savepoints : ∀ saved ∈ transaction.savepoints, Precedes file saved

structure Inside (file : Snapshot Payload) (connection : Connection Payload)
    (transaction : Transaction Payload) : Prop where
  follows : Follows connection.catalog transaction.view transaction.dataVersion
  synchronized : transaction.synchronized = true → Agrees connection.catalog transaction.view
  flagged : transaction.kind.isUser = true → connection.snapshotSynchronized = true →
    transaction.synchronized = true
  dataVersion : transaction.dataVersion ≤ connection.dataVersion
  reader : transaction.kind.immediate = false → ReaderTracks file connection transaction
  writer : transaction.kind.immediate = true → WriterTracks file connection transaction

/-- The invariant of one connection. -/
structure Tracks (file : Snapshot Payload) (connection : Connection Payload) : Prop where
  observedLe : ∀ version, connection.catalog.observedDataVersion = some version →
    version ≤ connection.readDataVersion
  pendingLe : ∀ version, connection.pending = some version →
    version ≤ connection.readDataVersion
  unobserved : connection.catalog.observedDataVersion = none → connection.catalog.tables = []
  outside : connection.transaction = none →
    Follows connection.catalog file connection.dataVersion
  inside : ∀ transaction, connection.transaction = some transaction →
    Inside file connection transaction

theorem Connection.current_none (none : connection.transaction = none) :
    connection.current file = file := by
  simp [Connection.current, none]

theorem Connection.current_some (some : connection.transaction = some transaction) :
    connection.current file = transaction.view := by
  simp [Connection.current, some]

theorem Connection.readDataVersion_none (none : connection.transaction = none) :
    connection.readDataVersion = connection.dataVersion := by
  simp [Connection.readDataVersion, none]

theorem Connection.readDataVersion_some (some : connection.transaction = some transaction) :
    connection.readDataVersion = transaction.dataVersion := by
  simp [Connection.readDataVersion, some]

/-- Whatever the connection reads now, its caches follow it. -/
theorem Tracks.followsCurrent (tracks : Tracks file connection) :
    Follows connection.catalog (connection.current file) connection.readDataVersion := by
  cases active : connection.transaction with
  | none =>
    rw [Connection.current_none active, Connection.readDataVersion_none active]
    exact tracks.outside active
  | some transaction =>
    rw [Connection.current_some active, Connection.readDataVersion_some active]
    exact (tracks.inside transaction active).follows

/-- A reader's caches follow the file as well as its own snapshot. -/
theorem Tracks.readerFollows (tracks : Tracks file connection)
    (active : connection.transaction = some transaction)
    (reads : transaction.kind.immediate = false) :
    Follows connection.catalog file connection.dataVersion := by
  have inside := tracks.inside transaction active
  have reader := inside.reader reads
  constructor
  · intro observed
    have bounded := tracks.observedLe _ observed
    rw [Connection.readDataVersion_some active] at bounded
    have same := Nat.le_antisymm inside.dataVersion bounded
    rw [← reader.latest same]
    exact inside.follows.observed (by rw [observed, same])
  · intro same
    have viewed := reader.generation same
    rw [← reader.precedes.2 viewed]
    exact inside.follows.sameGeneration (same.trans viewed.symm)

/-! Each kind of change keeps the invariant. -/

/-- Entries come and go; the generation and the observed version stay. -/
theorem Tracks.recache (tracks : Tracks file connection)
    (generation : catalog'.generation = connection.catalog.generation)
    (observed : catalog'.observedDataVersion = connection.catalog.observedDataVersion)
    (unobserved : connection.catalog.observedDataVersion = none → catalog'.tables = [])
    (known : CatalogAgrees connection.catalog (connection.current file).contents →
      CatalogAgrees catalog' (connection.current file).contents)
    (agrees : Agrees connection.catalog (connection.current file) →
      Agrees catalog' (connection.current file)) :
    Tracks file { connection with catalog := catalog' } := by
  constructor
  · intro version now
    exact tracks.observedLe version (observed ▸ now)
  · exact tracks.pendingLe
  · intro never
    exact unobserved (observed ▸ never)
  · intro active
    change connection.transaction = none at active
    rw [Connection.current_none active] at known agrees
    have follows := tracks.outside active
    exact ⟨fun now => agrees (follows.observed (observed ▸ now)),
      fun same => known (follows.sameGeneration (generation ▸ same))⟩
  · intro transaction active
    change connection.transaction = some transaction at active
    rw [Connection.current_some active] at known agrees
    have inside := tracks.inside transaction active
    refine { inside with follows := ?_, synchronized := ?_, reader := ?_, writer := ?_ }
    · exact ⟨fun now => agrees (inside.follows.observed (observed ▸ now)),
        fun same => known (inside.follows.sameGeneration (generation ▸ same))⟩
    · intro done
      exact agrees (inside.synchronized done)
    · intro reads
      refine { inside.reader reads with generation := ?_ }
      intro same
      exact (inside.reader reads).generation (generation ▸ same)
    · intro writes
      exact { inside.writer writes with }

theorem Tracks.invalidate (tracks : Tracks file connection) :
    Tracks file { connection with catalog := connection.catalog.invalidateDescriptorCache } :=
  tracks.recache rfl rfl (fun _ => rfl)
    (fun _ => ((invalidateDescriptorCache_empty _).agrees (connection.current file)).1)
    (fun _ => (invalidateDescriptorCache_empty _).agrees _)

/-- A synchronization that ends with caches that are right for what it read. -/
theorem Tracks.finishSynchronization (tracks : Tracks file connection)
    (agrees : Agrees catalog' (connection.current file))
    (generation : catalog'.generation = connection.catalog.generation ∨
      catalog'.generation = (connection.current file).generation)
    (observedLe : ∀ version, catalog'.observedDataVersion = some version →
      version ≤ connection.readDataVersion)
    (unobserved : catalog'.observedDataVersion = none → catalog'.tables = []) :
    Tracks file (connection.finishSynchronization catalog') := by
  have reads : (connection.finishSynchronization catalog').readDataVersion =
      connection.readDataVersion := by
    cases active : connection.transaction <;>
      simp [Connection.finishSynchronization, Connection.readDataVersion, active]
  constructor
  · intro version now
    rw [reads]
    exact observedLe version now
  · intro version now
    cases now
  · exact unobserved
  · intro active
    have none := Option.map_eq_none_iff.mp active
    rw [Connection.current_none none] at agrees
    exact .of_agrees agrees _
  · intro transaction after
    obtain ⟨before, active, rfl⟩ := Option.map_eq_some_iff.mp after
    rw [Connection.current_some active] at agrees generation
    have inside := tracks.inside before active
    constructor
    · exact .of_agrees agrees _
    · intro _
      exact agrees
    · intro _ _
      rfl
    · exact inside.dataVersion
    · intro reading
      refine { inside.reader reading with generation := ?_ }
      intro same
      rcases generation with kept | viewed
      · exact (inside.reader reading).generation (kept.symm.trans same)
      · exact viewed.symm.trans same
    · intro writing
      exact { inside.writer writing with }

/-- The writer's snapshot moves, and its caches with it. -/
theorem Tracks.rewrite (tracks : Tracks file connection)
    (active : connection.transaction = some transaction)
    {view : Snapshot Payload}
    (observed : catalog'.observedDataVersion = connection.catalog.observedDataVersion)
    (unobserved : connection.catalog.observedDataVersion = none → catalog'.tables = [])
    (follows : Follows catalog' view transaction.dataVersion)
    (synchronized : transaction.synchronized = true → Agrees catalog' view)
    (reader : transaction.kind.immediate = false →
      view = transaction.view ∧ catalog'.generation = connection.catalog.generation)
    (writer : transaction.kind.immediate = true → Precedes file view) :
    Tracks file { connection with
      catalog := catalog'
      transaction := some { transaction with view := view } } := by
  have inside := tracks.inside transaction active
  have reads := Connection.readDataVersion_some active
  constructor
  · intro version now
    have bounded := tracks.observedLe version (observed ▸ now)
    rw [reads] at bounded
    exact bounded
  · intro version now
    have bounded := tracks.pendingLe version now
    rw [reads] at bounded
    exact bounded
  · intro never
    exact unobserved (observed ▸ never)
  · intro none
    cases none
  · intro after same
    cases same
    constructor
    · exact follows
    · exact synchronized
    · exact inside.flagged
    · exact inside.dataVersion
    · intro reading
      obtain ⟨rfl, generation⟩ := reader reading
      refine { inside.reader reading with generation := ?_ }
      intro same
      exact (inside.reader reading).generation (generation ▸ same)
    · intro writing
      exact { inside.writer writing with precedes := writer writing }

theorem Tracks.rewriteEmpty (tracks : Tracks file connection)
    (active : connection.transaction = some transaction) {view : Snapshot Payload}
    (observed : catalog'.observedDataVersion = connection.catalog.observedDataVersion)
    (empty : catalog'.Empty)
    (reader : transaction.kind.immediate = false →
      view = transaction.view ∧ catalog'.generation = connection.catalog.generation)
    (writer : transaction.kind.immediate = true → Precedes file view) :
    Tracks file { connection with
      catalog := catalog'
      transaction := some { transaction with view := view } } :=
  tracks.rewrite active observed (fun _ => empty.2.2.2) (.of_agrees (empty.agrees view) _)
    (fun _ => empty.agrees view) reader writer

theorem Tracks.resave (tracks : Tracks file connection)
    (active : connection.transaction = some transaction) {savepoints : List (Snapshot Payload)}
    (saved : ∀ snapshot ∈ savepoints,
      snapshot = transaction.view ∨ snapshot ∈ transaction.savepoints) :
    Tracks file { connection with
      transaction := some { transaction with savepoints := savepoints } } := by
  have inside := tracks.inside transaction active
  have reads := Connection.readDataVersion_some active
  constructor
  · intro version now
    have bounded := tracks.observedLe version now
    rw [reads] at bounded
    exact bounded
  · intro version now
    have bounded := tracks.pendingLe version now
    rw [reads] at bounded
    exact bounded
  · exact tracks.unobserved
  · intro none
    cases none
  · intro after same
    cases same
    refine { inside with reader := ?_, writer := ?_ }
    · intro reading
      refine { inside.reader reading with savepoints := ?_ }
      intro snapshot member
      rcases saved snapshot member with rfl | old
      · rfl
      · exact (inside.reader reading).savepoints snapshot old
    · intro writing
      refine { inside.writer writing with savepoints := ?_ }
      intro snapshot member
      rcases saved snapshot member with rfl | old
      · exact (inside.writer writing).precedes
      · exact (inside.writer writing).savepoints snapshot old

theorem Tracks.synchronizeSnapshot (tracks : Tracks file connection) :
    Tracks file connection.synchronizeSnapshot := by
  have follows := tracks.followsCurrent
  unfold Connection.synchronizeSnapshot
  split
  · rename_i flagged
    -- The flag was set by a synchronization inside the same user transaction.
    have agrees : Agrees connection.catalog (connection.current file) := by
      simp only [Bool.and_eq_true, Connection.userTransactionActive] at flagged
      cases active : connection.transaction with
      | none => simp [active] at flagged
      | some transaction =>
        rw [active] at flagged
        have inside := tracks.inside transaction active
        rw [Connection.current_some active]
        exact inside.synchronized (inside.flagged flagged.1 flagged.2)
    exact tracks.finishSynchronization agrees (.inl rfl) tracks.observedLe tracks.unobserved
  · split
    · rename_i unchanged
      exact tracks.finishSynchronization (follows.observed unchanged) (.inl rfl)
        tracks.observedLe tracks.unobserved
    · refine { tracks with pendingLe := ?_, inside := ?_, outside := ?_ }
      · intro version now
        cases now
        exact Nat.le_refl _
      · exact tracks.outside
      · intro transaction active
        have inside := tracks.inside transaction active
        refine { inside with flagged := ?_, reader := ?_, writer := ?_ }
        · intro _ set
          cases set
        · exact fun reads => { inside.reader reads with }
        · exact fun writes => { inside.writer writes with }

theorem compareGeneration_generation (catalog : CatalogState Payload)
    (dataVersion stored : Nat) :
    (catalog.compareGeneration dataVersion stored).generation = stored := by
  unfold CatalogState.compareGeneration
  dsimp only
  split
  · rfl
  · rename_i same
    have same := not_not.mp same
    split <;> exact same.symm

theorem Tracks.compareGeneration (tracks : Tracks file connection) {dataVersion : Nat}
    (pending : connection.pending = some dataVersion) :
    Tracks file (connection.finishSynchronization
      (connection.catalog.compareGeneration dataVersion (connection.current file).generation)) := by
  have agrees := compareGeneration_agrees dataVersion tracks.followsCurrent.sameGeneration
    tracks.unobserved
  apply tracks.finishSynchronization agrees
  · exact .inr (compareGeneration_generation _ _ _)
  · intro version now
    cases now
    exact tracks.pendingLe dataVersion pending
  · intro never
    cases never

theorem Tracks.lookup (tracks : Tracks file connection)
    (observed : connection.catalog.observedDataVersion ≠ none) (key : Lookup) :
    Tracks file { connection with
      catalog := (connection.catalog.lookup (connection.current file) key).2 } := by
  obtain ⟨generation, version⟩ := lookup_frame connection.catalog (connection.current file) key
  apply tracks.recache generation version
  · intro never
    exact absurd never observed
  · exact lookup_catalogAgrees key
  · intro agrees
    exact ⟨lookup_catalogAgrees key agrees.1, lookup_statusAgrees key agrees⟩

theorem Tracks.evict (tracks : Tracks file connection) (cache : CacheName) (position : Nat) :
    Tracks file { connection with catalog := connection.catalog.evict position cache } := by
  apply tracks.recache
  · cases cache <;> rfl
  · cases cache <;> rfl
  · intro never
    have empty := tracks.unobserved never
    cases cache <;> simp [CatalogState.evict, empty]
  · exact evict_catalogAgrees cache position
  · intro agrees
    exact ⟨evict_catalogAgrees cache position agrees.1,
      evict_statusAgrees cache position agrees.2⟩

theorem Tracks.beginTransaction (tracks : Tracks file connection)
    (idle : connection.transaction = none) (kind : TransactionKind) :
    Tracks file { connection with
      transaction := some {
        kind := kind, view := file, dataVersion := connection.dataVersion
        savepoints := [], synchronized := false }
      snapshotSynchronized := !kind.isUser && connection.snapshotSynchronized } := by
  have reads := Connection.readDataVersion_none idle
  constructor
  · intro version now
    have bounded := tracks.observedLe version now
    rw [reads] at bounded
    exact bounded
  · intro version now
    have bounded := tracks.pendingLe version now
    rw [reads] at bounded
    exact bounded
  · exact tracks.unobserved
  · intro none
    cases none
  · intro transaction active
    cases active
    constructor
    · exact tracks.outside idle
    · intro done
      cases done
    · intro user flagged
      simp [user] at flagged
    · exact Nat.le_refl _
    · intro _
      exact ⟨.refl file, fun _ => rfl, fun _ => rfl, fun saved member => by cases member⟩
    · intro _
      exact ⟨rfl, .refl file, fun saved member => by cases member⟩

/-- A transaction ends with the caches following the file it leaves behind. -/
theorem Tracks.endTransaction (tracks : Tracks file connection) {after : Snapshot Payload}
    (active : connection.transaction = some transaction)
    (observed : catalog'.observedDataVersion = connection.catalog.observedDataVersion)
    (unobserved : connection.catalog.observedDataVersion = none → catalog'.tables = [])
    (follows : Follows catalog' after connection.dataVersion) :
    Tracks after { connection with catalog := catalog', transaction := none } := by
  have inside := tracks.inside transaction active
  have reads := Connection.readDataVersion_some active
  constructor
  · intro version now
    have bounded := tracks.observedLe version (observed ▸ now)
    rw [reads] at bounded
    exact Nat.le_trans bounded inside.dataVersion
  · intro version now
    have bounded := tracks.pendingLe version now
    rw [reads] at bounded
    exact Nat.le_trans bounded inside.dataVersion
  · intro never
    exact unobserved (observed ▸ never)
  · intro _
    exact follows
  · intro transaction none
    cases none

theorem Tracks.writeStatus (tracks : Tracks file connection)
    (active : connection.transaction = some transaction)
    (writes : transaction.kind.immediate = true) (tableId : Int) (status : TableStatus) :
    Tracks file (writeStatus connection transaction tableId status) := by
  have inside := tracks.inside transaction active
  have moved : ∀ {catalog : CatalogState Payload}, Agrees catalog transaction.view →
      Agrees (catalog.invalidateEntry tableId)
        { transaction.view with
          status := Function.update transaction.view.status tableId status } :=
    fun agrees => ⟨invalidateEntry_catalogAgrees agrees.1, invalidateEntry_statusAgrees agrees⟩
  apply tracks.rewrite active
  · rfl
  · intro never
    simp [CatalogState.invalidateEntry, tracks.unobserved never]
  · constructor
    · intro now
      exact moved (inside.follows.observed now)
    · intro same
      exact invalidateEntry_catalogAgrees (inside.follows.sameGeneration same)
  · intro done
    exact moved (inside.synchronized done)
  · intro reads
    rw [writes] at reads
    cases reads
  · intro _
    exact (inside.writer writes).precedes

/-- The same for a connection outside a transaction. -/
theorem Tracks.idle (tracks : Tracks file connection) {after : Snapshot Payload}
    (idle : connection.transaction = none)
    (observed : catalog'.observedDataVersion = connection.catalog.observedDataVersion)
    (unobserved : connection.catalog.observedDataVersion = none → catalog'.tables = [])
    (follows : Follows catalog' after connection.dataVersion) :
    Tracks after { connection with catalog := catalog' } := by
  constructor
  · intro version now
    exact tracks.observedLe version (observed ▸ now)
  · exact tracks.pendingLe
  · intro never
    exact unobserved (observed ▸ never)
  · intro _
    exact follows
  · intro transaction active
    change connection.transaction = some transaction at active
    rw [idle] at active
    cases active

theorem initializeFileBacked_tracks (file : Snapshot Payload) (dataVersion : Nat) :
    Tracks file (.initializeFileBacked file dataVersion) := by
  have empty : (CatalogState.initializeFileBacked file).Empty := ⟨rfl, rfl, rfl, rfl⟩
  constructor
  · intro version now
    cases now
  · intro version now
    cases now
  · intro _
    rfl
  · intro _
    exact .of_agrees (empty.agrees file) dataVersion
  · intro transaction active
    cases active

end MyLite.Catalog
