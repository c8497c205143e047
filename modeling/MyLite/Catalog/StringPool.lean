import MyLite.Library.OpenAddressing
import MyLite.Library.Machine

/-! The string pool of the catalog: the texts of each generation are interned in a hash table of
their own, and a generation lives on as long as it is the current one or referenced. -/

namespace MyLite.StringPool

abbrev Bytes := List UInt8

/-- `SIZE_MAX`. -/
def sizeMax : Nat := 18446744073709551615

def entrySize : Nat := 16

def slotSize : Nat := 8

def generationSize : Nat := 56

def initialCapacity : Nat := 64

inductive Status where
  | misuse
  | noMemory
  deriving DecidableEq, Repr

/-- An object is told from the others by its number, that of its allocation. -/
structure Entry where
  object : Nat
  hash : UInt64
  text : Bytes
  deriving DecidableEq, Repr

/-- The capacity is the length of the slots. -/
structure Generation where
  object : Nat
  generationId : UInt64
  slots : List (Option Entry)
  count : Nat
  byteCount : Nat
  referenceCount : Nat
  deriving DecidableEq, Repr

/-- `allocated` counts the objects that were ever allocated. -/
structure Pool where
  generations : List Generation
  currentGeneration : Option Nat
  currentGenerationId : UInt64
  hasCurrentGeneration : Bool
  count : Nat
  byteCount : Nat
  generationCount : Nat
  allocated : Nat
  deriving DecidableEq, Repr

/-- Which allocations of a call succeed. -/
structure Allocations where
  generation : Bool
  slots : Bool
  entry : Bool
  deriving DecidableEq, Repr

section Table

/-- `catalog_string_hash`, a turn of its loop. -/
def hashByte (hash : UInt64) (byte : UInt8) : UInt64 :=
  (hash ^^^ byte.toUInt64) * 1099511628211

/-- `catalog_string_hash`. -/
def catalogStringHash (text : Bytes) : UInt64 :=
  text.foldl hashByte 14695981039346656037

def Entry.isText (entry : Entry) (text : Bytes) (hash : UInt64) : Bool :=
  entry.hash = hash && (entry.text.length = text.length && entry.text = text)

/-- The loop of `find_catalog_string`: `none` when it does not end. -/
def findEntryFrom (slots : List (Option Entry)) (text : Bytes) (hash : UInt64) :
    Nat → Nat → Option (Option Entry)
  | 0, _ => none
  | fuel + 1, index =>
    match slots[index]? with
    | none => none
    | some none => some none
    | some (some entry) =>
      if entry.isText text hash then some (some entry)
      else findEntryFrom slots text hash fuel ((index + 1) % slots.length)

/-- `find_catalog_string`. -/
def Generation.findCatalogString (generation : Generation) (text : Bytes) (hash : UInt64) :
    Option (Option Entry) :=
  if generation.slots.length = 0 then some none
  else
    findEntryFrom generation.slots text hash generation.slots.length
      (hash.toNat % generation.slots.length)

/-- `insert_catalog_string_entry`. -/
def insertCatalogStringEntry (slots : List (Option Entry)) (entry : Entry) :
    Option (List (Option Entry)) :=
  (OpenAddressing.firstFree slots slots.length (entry.hash.toNat % slots.length)).map fun index =>
    slots.set index (some entry)

/-- The entries of the old slots, one after the other. -/
def insertEntries : List (Option Entry) → List (Option Entry) → Option (List (Option Entry))
  | [], slots => some slots
  | none :: rest, slots => insertEntries rest slots
  | some entry :: rest, slots =>
    (insertCatalogStringEntry slots entry).bind fun slots => insertEntries rest slots

/-- `catalog_string_pool_load_limit`. -/
def loadLimit (capacity : Nat) : Nat :=
  capacity / 10 * 7 + capacity % 10 * 7 / 10

/-- The capacity after the present one; twice as many wrap around. -/
def nextCapacity (capacity : Nat) : Nat :=
  if capacity = 0 then initialCapacity else capacity * 2 % (sizeMax + 1)

end Table

section Generations

/-- `find_generation`. -/
def Pool.findGeneration (pool : Pool) (generationId : UInt64) : Option Generation :=
  pool.generations.find? fun generation => generation.generationId = generationId

/-- What a pointer to a generation points to. -/
def Pool.generationAt (pool : Pool) (object : Nat) : Option Generation :=
  pool.generations.find? fun generation => generation.object = object

/-- Writes through a pointer to a generation. -/
def Pool.write (pool : Pool) (object : Nat) (generation : Generation) : Pool :=
  { pool with
    generations := pool.generations.map fun other =>
      if other.object = object then generation else other }

/-- `remove_generation`. -/
def Pool.removeGeneration (pool : Pool) (object : Nat) : Pool :=
  match pool.generationAt object with
  | none => pool
  | some generation =>
    { pool with
      generations := pool.generations.eraseP fun other => other.object = object
      count := pool.count - generation.count
      byteCount := pool.byteCount - generation.byteCount
      generationCount := pool.generationCount - 1 }

/-- The loop of `collect_retired_generations`, over the generations that are listed at first. -/
def Pool.collect (pool : Pool) : List Generation → Pool
  | [] => pool
  | generation :: rest =>
    if pool.currentGeneration ≠ some generation.object ∧ generation.referenceCount = 0 then
      (pool.removeGeneration generation.object).collect rest
    else pool.collect rest

/-- `collect_retired_generations`. -/
def Pool.collectRetiredGenerations (pool : Pool) : Pool := pool.collect pool.generations

/-- `mylite_catalog_string_pool_set_generation`. -/
def Pool.setGeneration (pool : Pool) (generationId : UInt64) : Pool :=
  if pool.hasCurrentGeneration = true ∧ pool.currentGenerationId = generationId then pool
  else
    Pool.collectRetiredGenerations { pool with
      currentGeneration := (pool.findGeneration generationId).map Generation.object
      currentGenerationId := generationId
      hasCurrentGeneration := true }

/-- `ensure_current_generation`. -/
def Pool.ensureCurrentGeneration (pool : Pool) (allocations : Allocations) : Except Status Pool :=
  if pool.currentGeneration.isSome then .ok pool
  else if !allocations.generation then .error .noMemory
  else if generationSize > sizeMax - pool.byteCount then .error .noMemory
  else
    .ok { pool with
      generations := ⟨pool.allocated, pool.currentGenerationId, [], 0, generationSize, 0⟩ ::
        pool.generations
      currentGeneration := some pool.allocated
      byteCount := pool.byteCount + generationSize
      generationCount := pool.generationCount + 1
      allocated := pool.allocated + 1 }

end Generations

section Interning

/-- `reserve_catalog_string_pool`. Outside it is `none` when the entries do not find their slots. -/
def Pool.reserve (pool : Pool) (generation : Generation) (allocations : Allocations)
    (requiredCount : Nat) : Option (Except Status (Pool × Generation)) :=
  let capacity := nextCapacity generation.slots.length
  let moreBytes := capacity * slotSize - generation.slots.length * slotSize
  if requiredCount ≤ loadLimit generation.slots.length then some (.ok (pool, generation))
  else if capacity < generation.slots.length ∨ capacity > sizeMax / slotSize then
    some (.error .noMemory)
  else if moreBytes > sizeMax - generation.byteCount ∨ moreBytes > sizeMax - pool.byteCount then
    some (.error .noMemory)
  else if !allocations.slots then some (.error .noMemory)
  else
    (insertEntries generation.slots (List.replicate capacity none)).map fun slots =>
      let grown := { generation with slots, byteCount := generation.byteCount + moreBytes }
      .ok ({ pool with byteCount := pool.byteCount + moreBytes }.write generation.object grown,
        grown)

/-- The new entry of a generation that has room for it. -/
def Pool.addEntry (pool : Pool) (generation : Generation) (allocations : Allocations)
    (text : Bytes) (hash : UInt64) : Option (Pool × Except Status Nat) :=
  let allocationSize := entrySize + text.length + 1
  if text.length = sizeMax ∨ entrySize > sizeMax - text.length - 1 then
    some (pool, .error .noMemory)
  else if allocationSize > sizeMax - generation.byteCount ∨
      allocationSize > sizeMax - pool.byteCount then
    some (pool, .error .noMemory)
  else if !allocations.entry then some (pool, .error .noMemory)
  else
    (insertCatalogStringEntry generation.slots ⟨pool.allocated, hash, text⟩).map fun slots =>
      let added : Generation := { generation with
        slots
        count := generation.count + 1
        byteCount := generation.byteCount + allocationSize }
      ({ pool with
        count := pool.count + 1
        byteCount := pool.byteCount + allocationSize
        allocated := pool.allocated + 1 }.write generation.object added, .ok pool.allocated)

/-- A text in the current generation: the entry it has, or a new one. -/
def Pool.internIn (pool : Pool) (generation : Generation) (allocations : Allocations)
    (text : Bytes) : Option (Pool × Except Status Nat) :=
  let hash := catalogStringHash text
  (generation.findCatalogString text hash).bind fun found =>
    match found with
    | some entry => some (pool, .ok entry.object)
    | none =>
      if generation.count = sizeMax ∨ pool.count = sizeMax then some (pool, .error .noMemory)
      else
        (pool.reserve generation allocations (generation.count + 1)).bind fun reserved =>
          match reserved with
          | .error status => some (pool, .error status)
          | .ok roomy => roomy.1.addEntry roomy.2 allocations text hash

/-- `mylite_catalog_string_pool_intern_for_generation`. What it gives outside of memory that is
there or of a loop that ends is `none`. -/
def Pool.internForGeneration (pool : Pool) (generationId : UInt64) (allocations : Allocations)
    (text : Bytes) : Option (Pool × Except Status Nat) :=
  let pool := pool.setGeneration generationId
  match pool.ensureCurrentGeneration allocations with
  | .error status => some (pool, .error status)
  | .ok pool =>
    pool.currentGeneration.bind fun object =>
    (pool.generationAt object).bind fun generation => pool.internIn generation allocations text

/-- `mylite_catalog_string_pool_intern`. -/
def Pool.intern (pool : Pool) (allocations : Allocations) (text : Bytes) :
    Option (Pool × Except Status Nat) :=
  let pool := if pool.hasCurrentGeneration then pool else pool.setGeneration 0
  pool.internForGeneration pool.currentGenerationId allocations text

end Interning

section References

/-- `mylite_catalog_string_pool_reference_acquire`: the generation of the reference. -/
def Pool.acquire (pool : Pool) (generationId : UInt64) : Pool × Except Status Nat :=
  match pool.findGeneration generationId with
  | none => (pool, .error .misuse)
  | some generation =>
    if generation.referenceCount = sizeMax then (pool, .error .noMemory)
    else
      (pool.write generation.object
        { generation with referenceCount := generation.referenceCount + 1 }, .ok generation.object)

/-- `mylite_catalog_string_pool_reference_release`, of a reference that is not empty. -/
def Pool.release (pool : Pool) (object : Nat) : Option Pool :=
  (pool.generationAt object).map fun generation =>
    if generation.referenceCount = 0 then pool
    else
      let released := pool.write object
        { generation with referenceCount := generation.referenceCount - 1 }
      if generation.referenceCount - 1 = 0 ∧ pool.currentGeneration ≠ some object then
        released.removeGeneration object
      else released

end References

section Calls

/-- The pool and the references that callers have, by the order in which they asked for them;
an empty one is `none`. -/
structure System where
  pool : Pool
  references : List (Option Nat)
  deriving DecidableEq, Repr

/-- A text is interned in the current generation unless one is given. -/
inductive Call where
  | setGeneration (generationId : UInt64)
  | intern (generationId : Option UInt64) (allocations : Allocations) (text : Bytes)
  | acquire (generationId : UInt64)
  | release (reference : Nat)
  deriving DecidableEq, Repr

def Call.internedBy (pool : Pool) (allocations : Allocations) (text : Bytes) :
    Option UInt64 → Option (Pool × Except Status Nat)
  | none => pool.intern allocations text
  | some generationId => pool.internForGeneration generationId allocations text

/-- `mylite_catalog_string_pool_init`. -/
def start : System := ⟨⟨[], none, 0, false, 0, 0, 0, 0⟩, []⟩

/-- A call makes the reference it releases empty, and puts the one it acquires behind the others,
where it is empty when the call fails. -/
def step (system : System) : Call → Option System
  | .setGeneration generationId =>
    some { system with pool := system.pool.setGeneration generationId }
  | .intern generationId allocations text =>
    (Call.internedBy system.pool allocations text generationId).map fun interned =>
      { system with pool := interned.1 }
  | .acquire generationId =>
    let acquired := system.pool.acquire generationId
    some ⟨acquired.1, system.references ++ [acquired.2.toOption]⟩
  | .release reference =>
    match system.references[reference]? with
    | some (some object) =>
      (system.pool.release object).map fun pool => ⟨pool, system.references.set reference none⟩
    | _ => some system

end Calls

end MyLite.StringPool
