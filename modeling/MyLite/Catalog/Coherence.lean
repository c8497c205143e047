import MyLite.Catalog.Tracking

/-! The caches of a connection that has synchronized inside its transaction hold
what the transaction's snapshot holds, over every run in which no commit takes a
generation that another connection is still at. -/

namespace MyLite.Catalog

open Transition

variable {Payload : Type} {n : Nat} {catalog : CatalogState Payload}
  {file : Snapshot Payload} {connection : Connection Payload}
  {transaction : Transaction Payload}

/-! One action: its own connection, the lock, and what it commits. -/

theorem CatalogChange.next_eq {change : CatalogChange} {stored generation : Nat}
    (next : change.next catalog stored = some generation) : generation = stored + 1 := by
  unfold CatalogChange.next at next
  split at next
  all_goals
    split at next
    · cases next
    · exact (Option.some.inj next).symm

theorem Tracks.refuse (tracks : Tracks file connection) (change : CatalogChange) (stored : Nat) :
    Tracks file { connection with catalog := change.refuse connection.catalog stored } := by
  unfold CatalogChange.refuse
  split
  · split
    · exact tracks
    · exact tracks.invalidate
  · exact tracks

structure Acts (file : Snapshot Payload) (lockFree : Bool) (connection : Connection Payload)
    (action : Action Payload) (outcome : Outcome Payload) : Prop where
  tracks : Tracks (outcome.published.getD file) outcome.connection
  lock : outcome.connection.holdsWriteLock = true →
    connection.holdsWriteLock = true ∨ lockFree = true
  published : ∀ snapshot, outcome.published = some snapshot →
    Precedes file snapshot ∧
      publishedGeneration file connection action = some snapshot.generation ∧
      (connection.holdsWriteLock = true ∨ lockFree = true)

variable {lockFree : Bool} {action : Action Payload}

theorem Acts.unpublished {after : Connection Payload} (tracks : Tracks file after)
    (lock : after.holdsWriteLock = true → connection.holdsWriteLock = true ∨ lockFree = true) :
    Acts file lockFree connection action (.unpublished after) := by
  refine ⟨tracks, lock, ?_⟩
  intro snapshot now
  cases now

theorem Connection.holdsWriteLock_some (some : connection.transaction = some transaction) :
    connection.holdsWriteLock = transaction.kind.immediate := by
  simp [Connection.holdsWriteLock, some]

theorem Connection.finishSynchronization_holdsWriteLock :
    (connection.finishSynchronization catalog).holdsWriteLock = connection.holdsWriteLock := by
  unfold Connection.finishSynchronization Connection.holdsWriteLock
  cases connection.transaction <;> rfl

theorem Connection.synchronizeSnapshot_holdsWriteLock :
    connection.synchronizeSnapshot.holdsWriteLock = connection.holdsWriteLock := by
  unfold Connection.synchronizeSnapshot
  split
  · exact Connection.finishSynchronization_holdsWriteLock
  · split
    · exact Connection.finishSynchronization_holdsWriteLock
    · rfl

theorem changeCatalog_acts (tracks : Tracks file connection) {change : CatalogChange}
    {contents : Contents Payload} {status : Int → TableStatus} {outcome : Outcome Payload}
    (taken : changeCatalog file lockFree connection change contents status = some outcome) :
    Acts file lockFree connection (.changeCatalog change contents status) outcome := by
  have empty : ∀ generation, (connection.catalog.finishChange generation).Empty :=
    fun generation => invalidateDescriptorCache_empty _
  unfold changeCatalog at taken
  dsimp only at taken
  split at taken
  case h_1 idle =>
    split at taken
    · cases taken
    · rename_i free
      have free : lockFree = true := by simpa using free
      split at taken
      · cases taken
        exact .unpublished (tracks.refuse change _) fun _ => .inr free
      · rename_i generation next
        cases taken
        have numbered := CatalogChange.next_eq next
        rw [Connection.current_none idle] at numbered
        constructor
        · exact tracks.idle idle rfl (fun _ => rfl)
            (.of_agrees ((empty generation).agrees _) connection.dataVersion)
        · exact fun _ => .inr free
        · intro snapshot now
          cases now
          refine ⟨.of_lt ?_, ?_, .inr free⟩
          · change file.generation < generation
            omega
          · simp [publishedGeneration, idle, numbered]
  case h_2 transaction active =>
    split at taken
    · cases taken
    · rename_i planning
      have planning : transaction.kind = .planning := by simpa using planning
      have writes : transaction.kind.immediate = true := by rw [planning]; rfl
      have held : connection.holdsWriteLock = true :=
        (Connection.holdsWriteLock_some active).trans writes
      split at taken
      · cases taken
        exact .unpublished (tracks.refuse change _) fun _ => .inl held
      · rename_i generation next
        cases taken
        have numbered := CatalogChange.next_eq next
        rw [Connection.current_some active] at numbered
        refine .unpublished ?_ fun _ => .inl held
        apply tracks.rewriteEmpty active (by rfl) (empty generation)
        · intro reads
          rw [writes] at reads
          cases reads
        · intro _
          have before := ((tracks.inside transaction active).writer writes).precedes.1
          apply Precedes.of_lt
          change file.generation < generation
          omega

theorem act_acts (tracks : Tracks file connection) {outcome : Outcome Payload}
    (taken : act file lockFree connection action = some outcome) :
    Acts file lockFree connection action outcome := by
  have kept : ∀ {after : Connection Payload}, after.transaction = connection.transaction →
      after.holdsWriteLock = true → connection.holdsWriteLock = true ∨ lockFree = true := by
    intro after same held
    left
    simpa [Connection.holdsWriteLock, same] using held
  cases action with
  | openFile =>
    simp only [act] at taken
    split at taken
    · cases taken
    · cases taken
      refine .unpublished (initializeFileBacked_tracks file _) fun held => ?_
      cases held
  | beginTransaction kind =>
    simp only [act] at taken
    split at taken
    · cases taken
    · rename_i allowed
      cases taken
      simp only [Bool.or_eq_true, Bool.and_eq_true, not_or, Bool.not_eq_true,
        Option.isSome_eq_false_iff, Option.isNone_iff_eq_none, Bool.not_eq_true', not_and,
        Bool.not_eq_false] at allowed
      exact .unpublished (tracks.beginTransaction allowed.1 kind) fun held =>
        .inr (allowed.2 held)
  | synchronize =>
    cases taken
    refine .unpublished tracks.synchronizeSnapshot fun held => .inl ?_
    rw [Connection.synchronizeSnapshot_holdsWriteLock] at held
    exact held
  | compareGeneration =>
    obtain ⟨dataVersion, pending, rfl⟩ := Option.map_eq_some_iff.mp taken
    refine .unpublished (tracks.compareGeneration pending) fun held => .inl ?_
    rw [Connection.finishSynchronization_holdsWriteLock] at held
    exact held
  | lookup key =>
    simp only [act] at taken
    split at taken
    · cases taken
    · rename_i observed
      cases taken
      exact .unpublished (tracks.lookup (by simpa using observed) key) (kept rfl)
  | evict cache position =>
    cases taken
    exact .unpublished (tracks.evict cache position) (kept rfl)
  | writeStatus tableId status =>
    obtain ⟨transaction, chosen, rfl⟩ := Option.map_eq_some_iff.mp taken
    obtain ⟨active, writes⟩ := Option.filter_eq_some_iff.mp chosen
    refine .unpublished (tracks.writeStatus active writes tableId status) fun _ => .inl ?_
    exact (Connection.holdsWriteLock_some active).trans writes
  | reconcileHighWaters status =>
    obtain ⟨transaction, chosen, rfl⟩ := Option.map_eq_some_iff.mp taken
    obtain ⟨active, writes⟩ := Option.filter_eq_some_iff.mp chosen
    refine .unpublished ?_ fun _ => .inl ((Connection.holdsWriteLock_some active).trans writes)
    apply tracks.rewriteEmpty active (by rfl) (invalidateDescriptorCache_empty _)
    · intro reads
      rw [writes] at reads
      cases reads
    · intro _
      exact ((tracks.inside transaction active).writer writes).precedes
  | changeCatalog change contents status => exact changeCatalog_acts tracks taken
  | failCatalogChange =>
    cases taken
    exact .unpublished tracks.invalidate (kept rfl)
  | savepoint =>
    obtain ⟨transaction, active, rfl⟩ := Option.map_eq_some_iff.mp taken
    refine .unpublished (tracks.resave active ?_) fun held => .inl ?_
    · intro snapshot member
      exact List.mem_cons.mp member
    · exact (Connection.holdsWriteLock_some active).trans held
  | rollbackToSavepoint =>
    obtain ⟨transaction, active, restored⟩ := Option.bind_eq_some_iff.mp taken
    obtain ⟨view, newest, rfl⟩ := Option.map_eq_some_iff.mp restored
    have inside := tracks.inside transaction active
    have saved : view ∈ transaction.savepoints := List.mem_of_mem_head? newest
    refine .unpublished ?_ fun held =>
      .inl ((Connection.holdsWriteLock_some active).trans held)
    apply tracks.rewriteEmpty active (by rfl) (invalidateDescriptorCache_empty _)
    · intro reads
      exact ⟨(inside.reader reads).savepoints view saved, rfl⟩
    · intro writes
      exact (inside.writer writes).savepoints view saved
  | releaseSavepoint =>
    obtain ⟨transaction, active, rfl⟩ := Option.map_eq_some_iff.mp taken
    refine .unpublished (tracks.resave active ?_) fun held => .inl ?_
    · intro snapshot member
      exact .inr (List.mem_of_mem_tail member)
    · exact (Connection.holdsWriteLock_some active).trans held
  | commit =>
    obtain ⟨transaction, active, rfl⟩ := Option.map_eq_some_iff.mp taken
    have inside := tracks.inside transaction active
    cases kind : transaction.kind.immediate with
    | false =>
      refine .unpublished ?_ fun held => ?_
      · exact tracks.endTransaction active rfl tracks.unobserved
          (tracks.readerFollows active kind)
      · cases held
    | true =>
      have writer := inside.writer kind
      have follows := inside.follows
      rw [writer.dataVersion] at follows
      refine ⟨tracks.endTransaction active rfl tracks.unobserved follows, ?_, ?_⟩
      · intro held
        cases held
      · intro snapshot now
        cases now
        refine ⟨writer.precedes, ?_, .inl ((Connection.holdsWriteLock_some active).trans kind)⟩
        simp [publishedGeneration, active, kind]
  | rollback =>
    obtain ⟨transaction, active, rfl⟩ := Option.map_eq_some_iff.mp taken
    refine .unpublished ?_ fun held => ?_
    · exact tracks.endTransaction active (by rfl) (fun _ => rfl)
        (.of_agrees ((invalidateDescriptorCache_empty _).agrees file) _)
    · cases held

/-! The other connections see a commit, and the whole system. -/

theorem Tracks.observeCommit (tracks : Tracks file connection) {snapshot : Snapshot Payload}
    (unlocked : connection.holdsWriteLock = false) (later : Precedes file snapshot)
    (unused : snapshot.generation ≠ file.generation →
      connection.catalog.generation ≠ snapshot.generation) :
    Tracks snapshot connection.observeCommit := by
  -- At the old generation nothing has changed, and the new one is not in use here.
  have behind : connection.catalog.generation = snapshot.generation →
      connection.catalog.generation = file.generation ∧ file.contents = snapshot.contents := by
    intro same
    by_cases kept : snapshot.generation = file.generation
    · exact ⟨same.trans kept, later.2 kept.symm⟩
    · exact absurd same (unused kept)
  have reads : connection.readDataVersion ≤ connection.observeCommit.readDataVersion := by
    cases active : connection.transaction <;>
      simp [Connection.observeCommit, Connection.readDataVersion, active]
  constructor
  · intro version now
    exact Nat.le_trans (tracks.observedLe version now) reads
  · intro version now
    exact Nat.le_trans (tracks.pendingLe version now) reads
  · exact tracks.unobserved
  · intro idle
    change connection.transaction = none at idle
    constructor
    · intro observed
      have bounded := tracks.observedLe _ observed
      rw [Connection.readDataVersion_none idle] at bounded
      exact absurd bounded (Nat.not_succ_le_self _)
    · intro same
      obtain ⟨before, contents⟩ := behind same
      rw [← contents]
      exact (tracks.outside idle).sameGeneration before
  · intro transaction active
    change connection.transaction = some transaction at active
    have inside := tracks.inside transaction active
    have reading : transaction.kind.immediate = false :=
      (Connection.holdsWriteLock_some active).symm.trans unlocked
    have reader := inside.reader reading
    refine { inside with dataVersion := ?_, reader := fun _ => ?_, writer := fun writes => ?_ }
    · exact Nat.le_succ_of_le inside.dataVersion
    · constructor
      · exact reader.precedes.trans later
      · intro newest
        have bounded := inside.dataVersion
        change transaction.dataVersion = connection.dataVersion + 1 at newest
        omega
      · intro same
        have viewed := reader.generation (behind same).1
        exact viewed.trans ((behind same).1.symm.trans same)
      · exact reader.savepoints
    · rw [reading] at writes
      cases writes

/-- The invariant of the system. -/
structure Coherent (state : State n Payload) : Prop where
  tracks : ∀ c, Tracks state.file (state.connection c)
  exclusive : ∀ c other, c ≠ other → (state.connection c).holdsWriteLock = true →
    (state.connection other).holdsWriteLock = false

theorem initial_coherent (n : Nat) (file : Snapshot Payload) : Coherent (initial n file) := by
  constructor
  · intro c
    exact initializeFileBacked_tracks file 0
  · intro c other _ held
    cases held

theorem State.lockFree_iff {state : State n Payload} {c : Fin n} :
    state.lockFree c = true ↔
      ∀ other, other ≠ c → (state.connection other).holdsWriteLock = false := by
  simp [State.lockFree]

theorem step_coherent {state after : State n Payload} {event : Event n Payload}
    (coherent : Coherent state) (unused : GenerationUnused state event)
    (taken : step state event = some after) : Coherent after := by
  obtain ⟨c, action⟩ := event
  simp only [step] at taken
  split at taken
  case isFalse => cases taken
  obtain ⟨outcome, acted, rfl⟩ := Option.map_eq_some_iff.mp taken
  have acts := act_acts (coherent.tracks c) acted
  -- Nobody else writes while this connection does, or could start to.
  have alone : (state.connection c).holdsWriteLock = true ∨ state.lockFree c = true →
      ∀ other, other ≠ c → (state.connection other).holdsWriteLock = false := by
    rintro (held | free) other different
    · exact coherent.exclusive c other different.symm held
    · exact State.lockFree_iff.mp free other different
  have exclusive : ∀ {next : State n Payload}, next.connection c = outcome.connection →
      (∀ other, other ≠ c → (next.connection other).holdsWriteLock =
        (state.connection other).holdsWriteLock) →
      ∀ first second, first ≠ second → (next.connection first).holdsWriteLock = true →
        (next.connection second).holdsWriteLock = false := by
    intro next own others first second different held
    by_cases mine : first = c
    · subst mine
      rw [own] at held
      rw [others second different.symm]
      exact alone (acts.lock held) second different.symm
    · rw [others first mine] at held
      by_cases yours : second = c
      · subst yours
        rw [own]
        refine Bool.eq_false_iff.mpr fun both => ?_
        rw [alone (acts.lock both) first different] at held
        cases held
      · rw [others second yours]
        exact coherent.exclusive first second different held
  have tracks := acts.tracks
  unfold State.apply
  split
  case h_1 unpublished =>
    rw [unpublished] at tracks
    constructor
    · intro other
      by_cases same : other = c
      · subst same
        simpa using tracks
      · simpa [same] using coherent.tracks other
    · apply exclusive
      · simp
      · intro other different
        simp [different]
  case h_2 snapshot published =>
    rw [published] at tracks
    obtain ⟨later, numbered, writer⟩ := acts.published snapshot published
    constructor
    · intro other
      by_cases same : other = c
      · subst same
        simpa using tracks
      · simp only [same, if_false]
        apply (coherent.tracks other).observeCommit (alone writer other same) later
        intro fresh
        exact unused snapshot.generation numbered fresh other same
    · apply exclusive
      · simp
      · intro other different
        simp only [different, if_false]
        rfl

theorem reached_coherent {state : State n Payload}
    (reached : Reaches step GenerationUnused (initial n file) state) : Coherent state :=
  reached.invariant Coherent (initial_coherent n file)
    fun _ _ _ coherent unused taken => step_coherent coherent unused taken

/-- Whatever a connection that has synchronized inside its transaction looks up,
it is given what its snapshot of the file holds. -/
theorem synchronized_lookup_stored {state : State n Payload}
    (reached : Reaches step GenerationUnused (initial n file) state) {c : Fin n}
    {transaction : Transaction Payload}
    (inside : (state.connection c).transaction = some transaction)
    (synchronized : transaction.synchronized = true) {key : Lookup}
    {descriptor : Descriptor Payload}
    (returned : ((state.connection c).catalog.lookup transaction.view key).1 =
      some descriptor) :
    transaction.view.read key = some descriptor := by
  have tracks := (reached_coherent reached).tracks c
  exact lookup_stored ((tracks.inside transaction inside).synchronized synchronized) returned

instance (state : State n Payload) (event : Event n Payload) :
    Decidable (GenerationUnused state event) :=
  decidable_of_iff
    (∀ generation ∈ (publishedGeneration state.file (state.connection event.connection)
      event.action).toList, generation ≠ state.file.generation →
      ∀ other, other ≠ event.connection →
        (state.connection other).catalog.generation ≠ generation)
    (by simp [GenerationUnused])

section Runs

/-- A catalog that holds the columns of table 1. -/
def columnsOnly (columns : Nat) : Contents Nat where
  schemas := []
  tables := []
  columns := fun tableId => if tableId = 1 then some columns else none
  keyMetadata := fun _ => none
  schemaIds := List.nodup_nil
  schemaNames := List.nodup_nil
  tableIds := List.nodup_nil
  tableNames := List.nodup_nil

def unusedStatus (_ : Int) : TableStatus := ⟨1, 0, 0, Nat.one_pos⟩

def firstSnapshot : Snapshot Nat := ⟨1, columnsOnly 10, unusedStatus⟩

def plannedChange (c : Fin 2) (columns : Nat) : List (Event 2 Nat) :=
  [⟨c, .beginTransaction .planning⟩, ⟨c, .synchronize⟩, ⟨c, .compareGeneration⟩,
    ⟨c, .changeCatalog (.mutation true) (columnsOnly columns) unusedStatus⟩]

def beginRead (c : Fin 2) : List (Event 2 Nat) :=
  [⟨c, .beginTransaction .read⟩, ⟨c, .synchronize⟩]

/-- What a connection is answered for the columns of table 1 inside a
synchronized transaction, and what its snapshot holds. -/
def columnsSeen (c : Fin 2) (state : State 2 Nat) :
    Option (Bool × Option (Descriptor Nat) × Option (Descriptor Nat)) :=
  (state.connection c).transaction.map fun transaction =>
    (transaction.synchronized,
      ((state.connection c).catalog.lookup transaction.view (.columns 1)).1,
      transaction.view.read (.columns 1))

/-- One connection changes the catalog between two reads of the other. -/
def orderlyRun (reader writer : Fin 2) : List (Event 2 Nat) :=
  beginRead reader ++
    [⟨reader, .compareGeneration⟩, ⟨reader, .lookup (.columns 1)⟩, ⟨reader, .commit⟩] ++
    plannedChange writer 30 ++ [⟨writer, .commit⟩] ++
    beginRead reader ++ [⟨reader, .compareGeneration⟩]

/-- A connection's change is rolled back; it reads the old columns again at the
new generation, which the other connection then publishes. -/
def reusedGenerationRun (reader writer : Fin 2) : List (Event 2 Nat) :=
  plannedChange reader 20 ++ [⟨reader, .rollback⟩] ++
    beginRead reader ++ [⟨reader, .lookup (.columns 1)⟩, ⟨reader, .commit⟩] ++
    plannedChange writer 30 ++ [⟨writer, .commit⟩] ++
    beginRead reader ++ [⟨reader, .compareGeneration⟩]

theorem synchronized_lookup_stored_orderly :
    ∃ state transaction, Reaches step GenerationUnused (initial 2 firstSnapshot) state ∧
      (state.connection 0).transaction = some transaction ∧ transaction.synchronized = true ∧
      ((state.connection 0).catalog.lookup transaction.view (.columns 1)).1 =
        some (.loaded 30) ∧
      transaction.view.read (.columns 1) = some (.loaded 30) := by
  have seen : ((runFrom (fun state event =>
      if GenerationUnused state event then step state event else none)
      (initial 2 firstSnapshot) (orderlyRun 0 1)).bind (columnsSeen 0)) =
      some (true, some (.loaded 30), some (.loaded 30)) := by decide +kernel
  obtain ⟨state, run, seen⟩ := Option.bind_eq_some_iff.mp seen
  obtain ⟨transaction, inside, seen⟩ := Option.map_eq_some_iff.mp seen
  obtain ⟨synchronized, returned, _⟩ := Prod.mk.inj seen |>.imp_right Prod.mk.inj
  have reached := Reaches.refl.guarded run
  exact ⟨state, transaction, reached, inside, synchronized, returned,
    synchronized_lookup_stored reached inside synchronized returned⟩

/-- A generation used twice: the caches of the first use answer in the second. -/
theorem reusedGeneration_lookup_stale :
    ¬ ∀ state, Reaches step (fun _ _ => True) (initial 2 firstSnapshot) state →
      ∀ c transaction, (state.connection c).transaction = some transaction →
        transaction.synchronized = true → ∀ key descriptor,
        ((state.connection c).catalog.lookup transaction.view key).1 = some descriptor →
        transaction.view.read key = some descriptor := by
  intro coherent
  have seen : ((runFrom step (initial 2 firstSnapshot) (reusedGenerationRun 0 1)).bind
      (columnsSeen 0)) = some (true, some (.loaded 10), some (.loaded 30)) := by decide +kernel
  obtain ⟨state, run, seen⟩ := Option.bind_eq_some_iff.mp seen
  obtain ⟨transaction, inside, seen⟩ := Option.map_eq_some_iff.mp seen
  obtain ⟨synchronized, returned, stored⟩ := Prod.mk.inj seen |>.imp_right Prod.mk.inj
  have same := coherent state (Reaches.refl.append run) 0 transaction inside synchronized
    (.columns 1) (.loaded 10) returned
  rw [stored] at same
  exact absurd same (by decide)

end Runs

end MyLite.Catalog
