import MyLite.Catalog.Interleaving

/-! When the entries of a connection's caches are the rows of a snapshot, and
what keeps them so. -/

namespace MyLite.Catalog

variable {Payload : Type} {catalog : CatalogState Payload} {snapshot : Snapshot Payload}
  {contents : Contents Payload}

/-- Every entry is a row of the catalog tables. The status columns of a table
are left out here: they change without a new generation. -/
structure CatalogAgrees (catalog : CatalogState Payload) (contents : Contents Payload) :
    Prop where
  columns : ∀ entry ∈ catalog.tableColumnsCache,
    contents.columns entry.tableId = some entry.payload
  keyMetadata : ∀ entry ∈ catalog.tableKeyMetadataCache,
    contents.keyMetadata entry.tableId = some entry.payload
  schemas : ∀ schema ∈ catalog.schemas, schema ∈ contents.schemas
  tables : ∀ entry ∈ catalog.tables, entry.descriptor.definition ∈ contents.tables
  distinct : (catalog.tables.map CachedTable.tableId).Nodup
  usable : catalog.tables ≠ [] → catalog.descriptorCacheUsable = true

/-- Every table status that a lookup returns as it is cached. -/
def StatusAgrees (catalog : CatalogState Payload) (status : Int → TableStatus) : Prop :=
  ∀ entry ∈ catalog.tables, entry.statusIsStale = false →
    entry.descriptor.status = status entry.tableId

def Agrees (catalog : CatalogState Payload) (snapshot : Snapshot Payload) : Prop :=
  CatalogAgrees catalog snapshot.contents ∧ StatusAgrees catalog snapshot.status

def CatalogState.Empty (catalog : CatalogState Payload) : Prop :=
  catalog.tableColumnsCache = [] ∧ catalog.tableKeyMetadataCache = [] ∧
    catalog.schemas = [] ∧ catalog.tables = []

theorem CatalogState.Empty.agrees (empty : catalog.Empty) (snapshot : Snapshot Payload) :
    Agrees catalog snapshot := by
  obtain ⟨columns, keyMetadata, schemas, tables⟩ := empty
  constructor
  · constructor
    · simp [columns]
    · simp [keyMetadata]
    · simp [schemas]
    · simp [tables]
    · simp [tables]
    · simp [tables]
  · simp [StatusAgrees, tables]

theorem Agrees.observe (agrees : Agrees catalog snapshot) (dataVersion : Option Nat) :
    Agrees { catalog with observedDataVersion := dataVersion } snapshot :=
  ⟨{ agrees.1 with }, agrees.2⟩

theorem invalidateDescriptorCache_empty (catalog : CatalogState Payload) :
    catalog.invalidateDescriptorCache.Empty :=
  ⟨rfl, rfl, rfl, rfl⟩

/-! A lookup through agreeing caches answers what is stored. -/

theorem acquireLoaded_stored {cache : List (LoadedEntry Payload)}
    {stored : Int → Option Payload} {tableId : Int} {payload : Payload}
    (agrees : ∀ entry ∈ cache, stored entry.tableId = some entry.payload)
    (returned : (catalog.acquireLoaded cache stored tableId).1 = some payload) :
    stored tableId = some payload := by
  unfold CatalogState.acquireLoaded at returned
  split at returned
  · exact returned
  · split at returned
    case h_1 entry found =>
      have same := List.find?_some found
      simp only [Bool.and_eq_true, decide_eq_true_eq] at same
      have known := agrees entry (List.mem_of_find?_eq_some found)
      rw [same.1] at known
      exact known.trans returned
    case h_2 =>
      split at returned
      case h_1 => cases returned
      case h_2 payload' found =>
        rw [found]
        exact returned

theorem acquireLoaded_agrees {cache : List (LoadedEntry Payload)}
    {stored : Int → Option Payload} {tableId : Int}
    (agrees : ∀ entry ∈ cache, stored entry.tableId = some entry.payload) :
    ∀ entry ∈ (catalog.acquireLoaded cache stored tableId).2,
      stored entry.tableId = some entry.payload := by
  unfold CatalogState.acquireLoaded
  split
  · exact agrees
  · split
    case h_1 => exact agrees
    case h_2 =>
      split
      case h_1 => exact agrees
      case h_2 payload found =>
        intro entry member
        rcases List.mem_cons.mp member with rfl | old
        · exact found
        · exact agrees entry old

section Schemas

variable {Key : Type} [DecidableEq Key] {key : SchemaDescriptor Payload → Key} {value : Key}

theorem readSchema_stored {schema : SchemaDescriptor Payload}
    (distinct : (snapshot.contents.schemas.map key).Nodup)
    (agrees : CatalogAgrees catalog snapshot.contents)
    (returned : (catalog.readSchema snapshot key value).1 = some schema) :
    Keyed.lookup key snapshot.contents.schemas value = some schema := by
  unfold CatalogState.readSchema at returned
  dsimp only at returned
  split at returned
  case h_1 cached hit =>
    cases returned
    split at hit
    · obtain ⟨member, rfl⟩ := Keyed.lookup_some hit
      exact Keyed.lookup_of_mem distinct (agrees.schemas schema member)
    · cases hit
  case h_2 =>
    split at returned
    case h_1 => cases returned
    case h_2 stored found =>
      rw [found]
      exact returned

theorem readSchema_agrees (agrees : CatalogAgrees catalog snapshot.contents) :
    CatalogAgrees (catalog.readSchema snapshot key value).2 snapshot.contents := by
  unfold CatalogState.readSchema
  dsimp only
  split
  case h_1 => exact agrees
  case h_2 =>
    split
    case h_1 => exact agrees
    case h_2 stored found =>
      refine { agrees with schemas := ?_, usable := fun _ => decide_eq_true rfl }
      intro schema member
      rcases List.mem_cons.mp member with rfl | old
      · exact (Keyed.lookup_some found).1
      · exact agrees.schemas schema old

@[simp] theorem readSchema_tables :
    (catalog.readSchema snapshot key value).2.tables = catalog.tables := by
  unfold CatalogState.readSchema
  dsimp only
  split
  · rfl
  · split <;> rfl

end Schemas

section Tables

variable {Key : Type} [DecidableEq Key] {key : TableDefinition Payload → Key} {value : Key}

theorem refreshCachedTableStatus_definition {entry refreshed : CachedTable Payload}
    (refresh : CatalogState.refreshCachedTableStatus snapshot entry = some refreshed) :
    refreshed.descriptor.definition = entry.descriptor.definition := by
  unfold CatalogState.refreshCachedTableStatus at refresh
  split at refresh
  · obtain ⟨stored, _, rfl⟩ := Option.map_eq_some_iff.mp refresh
    rfl
  · cases refresh
    rfl

theorem readTableById_of_mem {definition : TableDefinition Payload}
    (member : definition ∈ snapshot.contents.tables) :
    snapshot.readTableById definition.tableId = some (snapshot.describe definition) := by
  unfold Snapshot.readTableById
  rw [Keyed.lookup_of_mem snapshot.contents.tableIds member]
  rfl

theorem refreshCachedTableStatus_describe {entry refreshed : CachedTable Payload}
    (member : entry.descriptor.definition ∈ snapshot.contents.tables)
    (current : entry.statusIsStale = false →
      entry.descriptor.status = snapshot.status entry.tableId)
    (refresh : CatalogState.refreshCachedTableStatus snapshot entry = some refreshed) :
    refreshed.descriptor = snapshot.describe entry.descriptor.definition := by
  unfold CatalogState.refreshCachedTableStatus at refresh
  split at refresh
  · obtain ⟨stored, found, rfl⟩ := Option.map_eq_some_iff.mp refresh
    have same := (readTableById_of_mem member).symm.trans found
    cases same
    rfl
  · rename_i fresh
    cases refresh
    have status := current (Bool.eq_false_iff.mpr fresh)
    calc entry.descriptor
        = ⟨entry.descriptor.definition, entry.descriptor.status⟩ := rfl
      _ = snapshot.describe entry.descriptor.definition := by rw [status]; rfl

/-- A cache hit: the entry that matches, and what it is refreshed to. -/
theorem readTable_hit {index : Nat} {refreshed : CachedTable Payload}
    (found : (if catalog.descriptorCacheUsable then
      catalog.tables.findIdx? fun entry => decide (key entry.descriptor.definition = value)
      else none) = some index)
    (refresh : catalog.tables[index]?.bind
      (CatalogState.refreshCachedTableStatus snapshot) = some refreshed) :
    ∃ entry, catalog.tables[index]? = some entry ∧ entry ∈ catalog.tables ∧
      key entry.descriptor.definition = value ∧
      CatalogState.refreshCachedTableStatus snapshot entry = some refreshed := by
  obtain ⟨entry, here, refresh⟩ := Option.bind_eq_some_iff.mp refresh
  split at found
  · obtain ⟨bound, matching, _⟩ := List.findIdx?_eq_some_iff_getElem.mp found
    obtain ⟨_, same⟩ := List.getElem?_eq_some_iff.mp here
    subst same
    exact ⟨_, here, List.getElem_mem bound, of_decide_eq_true matching, refresh⟩
  · cases found

theorem readTable_stored {table : TableDescriptor Payload}
    (distinct : (snapshot.contents.tables.map key).Nodup) (agrees : Agrees catalog snapshot)
    (returned : (catalog.readTable snapshot key value).1 = some table) :
    (Keyed.lookup key snapshot.contents.tables value).map snapshot.describe = some table := by
  unfold CatalogState.readTable at returned
  dsimp only at returned
  split at returned
  case h_1 index found =>
    split at returned
    case h_1 => cases returned
    case h_2 refreshed refresh =>
      cases returned
      obtain ⟨entry, _, member, rfl, refresh⟩ := readTable_hit found refresh
      have stored := agrees.1.tables entry member
      rw [Keyed.lookup_of_mem distinct stored,
        refreshCachedTableStatus_describe stored (agrees.2 entry member) refresh]
      rfl
  case h_2 =>
    split at returned
    case h_1 => cases returned
    case h_2 stored found =>
      rw [found]
      exact returned

/-- On a miss the table is not cached under any key. -/
theorem readTable_miss {table : TableDefinition Payload}
    (agrees : CatalogAgrees catalog snapshot.contents)
    (absent : (if catalog.descriptorCacheUsable then
      catalog.tables.findIdx? fun entry => decide (key entry.descriptor.definition = value)
      else none) = none)
    (found : Keyed.lookup key snapshot.contents.tables value = some table) :
    table.tableId ∉ catalog.tables.map CachedTable.tableId := by
  intro member
  obtain ⟨entry, member, same⟩ := List.mem_map.mp member
  obtain ⟨stored, matching⟩ := Keyed.lookup_some found
  have equal : entry.descriptor.definition = table :=
    List.inj_on_of_nodup_map snapshot.contents.tableIds (agrees.tables entry member) stored same
  rw [agrees.usable (List.ne_nil_of_mem member), if_pos rfl] at absent
  have other := List.findIdx?_eq_none_iff.mp absent entry member
  rw [equal, matching] at other
  simp at other

theorem readTable_agrees (agrees : CatalogAgrees catalog snapshot.contents) :
    CatalogAgrees (catalog.readTable snapshot key value).2 snapshot.contents := by
  unfold CatalogState.readTable
  dsimp only
  split
  case h_1 index found =>
    split
    case h_1 => exact agrees
    case h_2 refreshed refresh =>
      obtain ⟨entry, here, member, _, refresh⟩ := readTable_hit found refresh
      have kept := refreshCachedTableStatus_definition refresh
      refine { agrees with tables := ?_, distinct := ?_, usable := ?_ }
      · intro other present
        rcases List.mem_or_eq_of_mem_set present with old | rfl
        · exact agrees.tables other old
        · rw [kept]
          exact agrees.tables entry member
      · have same : (catalog.tables.set index refreshed).map CachedTable.tableId =
            catalog.tables.map CachedTable.tableId :=
          Keyed.map_set here (congrArg TableDefinition.tableId kept)
        rw [same]
        exact agrees.distinct
      · intro _
        exact agrees.usable (List.ne_nil_of_mem member)
  case h_2 absent =>
    split
    case h_1 => exact agrees
    case h_2 table found =>
      have fresh := readTable_miss agrees absent found
      refine { agrees with tables := ?_, distinct := ?_, usable := fun _ => decide_eq_true rfl }
      · intro entry member
        rcases List.mem_cons.mp member with rfl | old
        · exact (Keyed.lookup_some found).1
        · exact agrees.tables entry old
      · exact List.nodup_cons.mpr ⟨fresh, agrees.distinct⟩

theorem readTable_statusAgrees (agrees : Agrees catalog snapshot) :
    StatusAgrees (catalog.readTable snapshot key value).2 snapshot.status := by
  unfold CatalogState.readTable
  dsimp only
  split
  case h_1 index found =>
    split
    case h_1 => exact agrees.2
    case h_2 refreshed refresh =>
      obtain ⟨entry, here, member, _, refresh⟩ := readTable_hit found refresh
      have described := refreshCachedTableStatus_describe (agrees.1.tables entry member)
        (agrees.2 entry member) refresh
      intro other present current
      rcases List.mem_or_eq_of_mem_set present with old | rfl
      · exact agrees.2 other old current
      · unfold CachedTable.tableId
        rw [described]
        rfl
  case h_2 =>
    split
    case h_1 => exact agrees.2
    case h_2 =>
      intro entry member current
      rcases List.mem_cons.mp member with rfl | old
      · rfl
      · exact agrees.2 entry old current

end Tables

/-! All the lookups together. -/

theorem lookup_stored {key : Lookup} {descriptor : Descriptor Payload}
    (agrees : Agrees catalog snapshot)
    (returned : (catalog.lookup snapshot key).1 = some descriptor) :
    snapshot.read key = some descriptor := by
  cases key with
  | columns tableId =>
    simp only [CatalogState.lookup, Prod.map_fst] at returned
    obtain ⟨payload, answered, rfl⟩ := Option.map_eq_some_iff.mp returned
    have stored := acquireLoaded_stored agrees.1.columns answered
    exact congrArg (Option.map Descriptor.loaded) stored
  | keyMetadata tableId =>
    simp only [CatalogState.lookup, Prod.map_fst] at returned
    obtain ⟨payload, answered, rfl⟩ := Option.map_eq_some_iff.mp returned
    have stored := acquireLoaded_stored agrees.1.keyMetadata answered
    exact congrArg (Option.map Descriptor.loaded) stored
  | schemaById schemaId =>
    simp only [CatalogState.lookup, Prod.map_fst] at returned
    obtain ⟨schema, answered, rfl⟩ := Option.map_eq_some_iff.mp returned
    unfold CatalogState.readSchemaById at answered
    split at answered
    · cases answered
    · have stored := readSchema_stored snapshot.contents.schemaIds agrees.1 answered
      exact congrArg (Option.map Descriptor.schema) stored
  | schemaByName name =>
    simp only [CatalogState.lookup, Prod.map_fst] at returned
    obtain ⟨schema, answered, rfl⟩ := Option.map_eq_some_iff.mp returned
    unfold CatalogState.tryReadSchemaByName at answered
    split at answered
    · cases answered
    · have stored := readSchema_stored snapshot.contents.schemaNames agrees.1 answered
      exact congrArg (Option.map Descriptor.schema) stored
  | tableById tableId =>
    simp only [CatalogState.lookup, Prod.map_fst] at returned
    obtain ⟨table, answered, rfl⟩ := Option.map_eq_some_iff.mp returned
    unfold CatalogState.readTableById at answered
    split at answered
    · cases answered
    · have stored := readTable_stored snapshot.contents.tableIds agrees answered
      exact congrArg (Option.map Descriptor.table) stored
  | tableByName schemaId name =>
    simp only [CatalogState.lookup, Prod.map_fst] at returned
    obtain ⟨table, answered, rfl⟩ := Option.map_eq_some_iff.mp returned
    unfold CatalogState.tryReadTableByName at answered
    split at answered
    · cases answered
    · have stored := readTable_stored snapshot.contents.tableNames agrees answered
      exact congrArg (Option.map Descriptor.table) stored

theorem lookup_catalogAgrees (key : Lookup) (agrees : CatalogAgrees catalog snapshot.contents) :
    CatalogAgrees (catalog.lookup snapshot key).2 snapshot.contents := by
  cases key with
  | columns tableId => exact { agrees with columns := acquireLoaded_agrees agrees.columns }
  | keyMetadata tableId =>
    exact { agrees with keyMetadata := acquireLoaded_agrees agrees.keyMetadata }
  | schemaById schemaId =>
    change CatalogAgrees (catalog.readSchemaById snapshot schemaId).2 _
    unfold CatalogState.readSchemaById
    split
    · exact agrees
    · exact readSchema_agrees agrees
  | schemaByName name =>
    change CatalogAgrees (catalog.tryReadSchemaByName snapshot name).2 _
    unfold CatalogState.tryReadSchemaByName
    split
    · exact agrees
    · exact readSchema_agrees agrees
  | tableById tableId =>
    change CatalogAgrees (catalog.readTableById snapshot tableId).2 _
    unfold CatalogState.readTableById
    split
    · exact agrees
    · exact readTable_agrees agrees
  | tableByName schemaId name =>
    change CatalogAgrees (catalog.tryReadTableByName snapshot schemaId name).2 _
    unfold CatalogState.tryReadTableByName
    split
    · exact agrees
    · exact readTable_agrees agrees

theorem lookup_statusAgrees (key : Lookup) (agrees : Agrees catalog snapshot) :
    StatusAgrees (catalog.lookup snapshot key).2 snapshot.status := by
  cases key with
  | columns tableId => exact agrees.2
  | keyMetadata tableId => exact agrees.2
  | schemaById schemaId =>
    change StatusAgrees (catalog.readSchemaById snapshot schemaId).2 _
    unfold CatalogState.readSchemaById
    split
    · exact agrees.2
    · simpa [StatusAgrees] using agrees.2
  | schemaByName name =>
    change StatusAgrees (catalog.tryReadSchemaByName snapshot name).2 _
    unfold CatalogState.tryReadSchemaByName
    split
    · exact agrees.2
    · simpa [StatusAgrees] using agrees.2
  | tableById tableId =>
    change StatusAgrees (catalog.readTableById snapshot tableId).2 _
    unfold CatalogState.readTableById
    split
    · exact agrees.2
    · exact readTable_statusAgrees agrees
  | tableByName schemaId name =>
    change StatusAgrees (catalog.tryReadTableByName snapshot schemaId name).2 _
    unfold CatalogState.tryReadTableByName
    split
    · exact agrees.2
    · exact readTable_statusAgrees agrees

/-- A lookup fills the caches and nothing else. -/
theorem lookup_frame (catalog : CatalogState Payload) (snapshot : Snapshot Payload)
    (key : Lookup) :
    (catalog.lookup snapshot key).2.generation = catalog.generation ∧
      (catalog.lookup snapshot key).2.observedDataVersion = catalog.observedDataVersion := by
  cases key with
  | columns tableId => exact ⟨rfl, rfl⟩
  | keyMetadata tableId => exact ⟨rfl, rfl⟩
  | schemaById schemaId =>
    simp only [CatalogState.lookup, CatalogState.readSchemaById, CatalogState.readSchema]
    repeat' split
    all_goals exact ⟨rfl, rfl⟩
  | schemaByName name =>
    simp only [CatalogState.lookup, CatalogState.tryReadSchemaByName, CatalogState.readSchema]
    repeat' split
    all_goals exact ⟨rfl, rfl⟩
  | tableById tableId =>
    simp only [CatalogState.lookup, CatalogState.readTableById, CatalogState.readTable]
    repeat' split
    all_goals exact ⟨rfl, rfl⟩
  | tableByName schemaId name =>
    simp only [CatalogState.lookup, CatalogState.tryReadTableByName, CatalogState.readTable]
    repeat' split
    all_goals exact ⟨rfl, rfl⟩

/-! The other changes of the caches. -/

theorem catalogAgrees_of_sublist {tables : List (CachedTable Payload)}
    (kept : tables.Sublist catalog.tables) (agrees : CatalogAgrees catalog contents) :
    CatalogAgrees { catalog with tables := tables } contents := by
  refine { agrees with
    tables := fun entry member => agrees.tables entry (kept.mem member)
    distinct := agrees.distinct.sublist (kept.map _)
    usable := fun filled => agrees.usable ?_ }
  intro empty
  rw [empty] at kept
  exact filled (List.sublist_nil.mp kept)

theorem evict_catalogAgrees (cache : CacheName) (position : Nat)
    (agrees : CatalogAgrees catalog contents) :
    CatalogAgrees (catalog.evict position cache) contents := by
  cases cache with
  | columns =>
    refine { agrees with columns := fun entry member => ?_ }
    exact agrees.columns entry (List.mem_of_mem_eraseIdx member)
  | keyMetadata =>
    refine { agrees with keyMetadata := fun entry member => ?_ }
    exact agrees.keyMetadata entry (List.mem_of_mem_eraseIdx member)
  | schema =>
    refine { agrees with schemas := fun entry member => ?_ }
    exact agrees.schemas entry (List.mem_of_mem_eraseIdx member)
  | table => exact catalogAgrees_of_sublist (List.eraseIdx_sublist _ _) agrees

theorem evict_statusAgrees {status : Int → TableStatus} (cache : CacheName) (position : Nat)
    (agrees : StatusAgrees catalog status) :
    StatusAgrees (catalog.evict position cache) status := by
  cases cache with
  | table => exact fun entry member => agrees entry (List.mem_of_mem_eraseIdx member)
  | columns => exact agrees
  | keyMetadata => exact agrees
  | schema => exact agrees

theorem invalidateEntry_catalogAgrees {tableId : Int} (agrees : CatalogAgrees catalog contents) :
    CatalogAgrees (catalog.invalidateEntry tableId) contents :=
  catalogAgrees_of_sublist (List.eraseP_sublist) agrees

/-- Writing a table's status leaves no entry for that table behind. -/
theorem invalidateEntry_statusAgrees {tableId : Int} {status : TableStatus}
    (agrees : Agrees catalog snapshot) :
    StatusAgrees (catalog.invalidateEntry tableId)
      (Function.update snapshot.status tableId status) := by
  intro entry member fresh
  have other : entry.tableId ≠ tableId := Keyed.key_ne_of_mem_eraseP agrees.1.distinct member
  rw [Function.update_of_ne other]
  exact agrees.2 entry (List.mem_of_mem_eraseP member) fresh

theorem invalidateStatus_agrees (agrees : CatalogAgrees catalog snapshot.contents) :
    Agrees catalog.invalidateStatus snapshot := by
  constructor
  · refine { agrees with tables := ?_, distinct := ?_, usable := ?_ }
    · intro entry stale
      obtain ⟨entry, member, rfl⟩ := List.mem_map.mp stale
      exact agrees.tables entry member
    · have same : catalog.invalidateStatus.tables.map CachedTable.tableId =
          catalog.tables.map CachedTable.tableId := by
        simp only [CatalogState.invalidateStatus, List.map_map]
        rfl
      rw [same]
      exact agrees.distinct
    · intro filled
      apply agrees.usable
      intro empty
      exact filled (by simp [CatalogState.invalidateStatus, empty])
  · intro entry member fresh
    obtain ⟨entry, member, rfl⟩ := List.mem_map.mp member
    cases fresh

/-- A compared catalog is right for the snapshot whose generation it was compared
with, if it was so up to the statuses where the generations were the same. -/
theorem compareGeneration_agrees (dataVersion : Nat)
    (same : catalog.generation = snapshot.generation → CatalogAgrees catalog snapshot.contents)
    (unobserved : catalog.observedDataVersion = none → catalog.tables = []) :
    Agrees (catalog.compareGeneration dataVersion snapshot.generation) snapshot := by
  unfold CatalogState.compareGeneration
  dsimp only
  split
  · exact CatalogState.Empty.agrees ⟨rfl, rfl, rfl, rfl⟩ snapshot
  · rename_i equal
    have known := same (not_not.mp equal).symm
    split
    · exact (invalidateStatus_agrees known).observe _
    · rename_i never
      have empty := unobserved (by simpa using never)
      have current : StatusAgrees catalog snapshot.status := by simp [StatusAgrees, empty]
      exact Agrees.observe ⟨known, current⟩ _

end MyLite.Catalog
