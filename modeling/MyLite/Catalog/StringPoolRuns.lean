import MyLite.Catalog.StringPoolInvariant

/-! The calls of the string pool keep its invariant, in every order. -/

namespace MyLite.StringPool

/-- From one well-formed pool to another, with what it has and what is referenced. -/
structure Proceeds (old new : Pool) : Prop where
  wellFormed : new.WellFormed
  inUse : new.InUse
  more : Extends old new
  references : KeepsReferences old new

theorem Proceeds.refl {pool : Pool} (wellFormed : pool.WellFormed) (inUse : pool.InUse) :
    Proceeds pool pool :=
  ⟨wellFormed, inUse, .refl pool, .refl pool⟩

theorem Proceeds.trans {first second third : Pool} (before : Proceeds first second)
    (after : Proceeds second third) : Proceeds first third :=
  ⟨after.wellFormed, after.inUse, before.more.trans after.more,
    before.references.trans before.more.allocated after.references⟩

section Retiring

variable {pool : Pool}

/-- Of the generations that are gone through, those stay that are current or referenced. -/
theorem Pool.collect_spec (wellFormed : pool.WellFormed) (rest : List Generation)
    (distinct : (rest.map Generation.object).Nodup)
    (inside : ∀ generation ∈ rest, generation ∈ pool.generations) :
    (pool.collect rest).WellFormed ∧ (pool.collect rest).allocated = pool.allocated ∧
      (pool.collect rest).currentGeneration = pool.currentGeneration ∧
      ∀ one, one ∈ (pool.collect rest).generations ↔ one ∈ pool.generations ∧
        (one ∈ rest → pool.currentGeneration = some one.object ∨ 0 < one.referenceCount) := by
  induction rest generalizing pool with
  | nil =>
    refine ⟨wellFormed, rfl, rfl, fun one => ?_⟩
    exact ⟨fun there => ⟨there, fun none => absurd none List.not_mem_nil⟩, And.left⟩
  | cons generation rest ih =>
    have member := inside generation List.mem_cons_self
    rw [List.map_cons, List.nodup_cons] at distinct
    rw [Pool.collect]
    split
    · rename_i retired
      obtain ⟨kept, members⟩ := wellFormed.removeGeneration member retired.1
      have sameCurrent : (pool.removeGeneration generation.object).currentGeneration =
          pool.currentGeneration := by
        rw [Pool.removeGeneration, wellFormed.listed.generationAt member]
      have sameAllocated : (pool.removeGeneration generation.object).allocated =
          pool.allocated := by
        rw [Pool.removeGeneration, wellFormed.listed.generationAt member]
      have others : ∀ other ∈ rest,
          other ∈ (pool.removeGeneration generation.object).generations := by
        intro other there
        refine (members other).mpr ⟨inside other (List.mem_cons_of_mem _ there), ?_⟩
        intro same
        exact distinct.1 (List.mem_map.mpr ⟨other, there, same⟩)
      obtain ⟨stays, allocated, current, remain⟩ := ih kept distinct.2 others
      refine ⟨stays, allocated.trans sameAllocated, current.trans sameCurrent, ?_⟩
      intro one
      rw [remain, members, sameCurrent, List.mem_cons]
      constructor
      · rintro ⟨⟨there, other⟩, used⟩
        refine ⟨there, ?_⟩
        rintro (rfl | later)
        · exact absurd rfl other
        · exact used later
      · rintro ⟨there, used⟩
        refine ⟨⟨there, ?_⟩, fun later => used (.inr later)⟩
        intro same
        obtain rfl := wellFormed.listed.same_object there member same
        rcases used (.inl rfl) with current | positive
        · exact retired.1 current
        · exact Nat.ne_of_gt positive retired.2
    · rename_i used
      obtain ⟨stays, allocated, current, remain⟩ := ih wellFormed distinct.2
        (fun other there => inside other (List.mem_cons_of_mem _ there))
      refine ⟨stays, allocated, current, ?_⟩
      intro one
      rw [remain, List.mem_cons]
      constructor
      · rintro ⟨there, later⟩
        refine ⟨there, ?_⟩
        rintro (rfl | rest)
        · by_cases current : pool.currentGeneration = some one.object
          · exact .inl current
          · exact .inr (Nat.pos_of_ne_zero fun none => used ⟨current, none⟩)
        · exact later rest
      · rintro ⟨there, all⟩
        exact ⟨there, fun later => all (.inr later)⟩

theorem Pool.setGeneration_spec (wellFormed : pool.WellFormed) (inUse : pool.InUse)
    (generationId : UInt64) :
    Proceeds pool (pool.setGeneration generationId) ∧
      (pool.setGeneration generationId).allocated = pool.allocated := by
  rw [Pool.setGeneration]
  split
  · exact ⟨.refl wellFormed inUse, rfl⟩
  · have turned : Pool.WellFormed { pool with
        currentGeneration := (pool.findGeneration generationId).map Generation.object
        currentGenerationId := generationId
        hasCurrentGeneration := true } := by
      refine { wellFormed with current := ?_, absent := ?_ }
      · intro object is
        obtain ⟨generation, found, same⟩ := Option.map_eq_some_iff.mp is
        refine ⟨generation, List.mem_of_find?_eq_some found, same, ?_⟩
        have matching := List.find?_some
          (p := fun other : Generation => other.generationId = generationId) found
        exact of_decide_eq_true matching
      · intro none generation member
        have missing := List.find?_eq_none.mp (Option.map_eq_none_iff.mp none) generation member
        exact fun same => missing (decide_eq_true same)
    obtain ⟨stays, allocated, current, remain⟩ := Pool.collect_spec turned pool.generations
      wellFormed.listed.objects (fun _ there => there)
    refine ⟨⟨stays, ?_, ⟨Nat.le_of_eq allocated.symm, ?_⟩, ⟨?_, ?_⟩⟩, allocated⟩
    · intro generation there
      have used := (remain generation).mp there
      rw [Pool.collectRetiredGenerations, current]
      exact used.2 used.1
    · intro later there
      exact .inr ⟨later, ((remain later).mp there).1, rfl, fun _ has => has⟩
    · intro later there
      exact .inr ⟨later, ((remain later).mp there).1, rfl, rfl⟩
    · intro generation member positive
      exact ⟨generation, (remain generation).mpr ⟨member, fun _ => .inr positive⟩, rfl, rfl⟩

theorem newGeneration_sound (object : Nat) (generationId : UInt64) :
    Generation.Sound ⟨object, generationId, [], 0, generationSize, 0⟩ :=
  ⟨stored_replicate 0, List.nodup_nil, .inl rfl, Nat.le_refl _, rfl, rfl⟩

/-- A generation of the current id, where there is none. -/
theorem Proceeds.opening (wellFormed : pool.WellFormed) (inUse : pool.InUse)
    (none : pool.currentGeneration = none) (room : pool.byteCount + generationSize ≤ sizeMax) :
    Proceeds pool { pool with
      generations := ⟨pool.allocated, pool.currentGenerationId, [], 0, generationSize, 0⟩ ::
        pool.generations
      currentGeneration := some pool.allocated
      byteCount := pool.byteCount + generationSize
      generationCount := pool.generationCount + 1
      allocated := pool.allocated + 1 } := by
  have absent := wellFormed.absent none
  have listed : Listed (⟨pool.allocated, pool.currentGenerationId, [], 0, generationSize, 0⟩ ::
      pool.generations) (pool.allocated + 1) := by
    constructor
    · intro one member
      rcases List.mem_cons.mp member with rfl | old
      · exact newGeneration_sound _ _
      · exact wellFormed.listed.sound one old
    · rw [List.map_cons, List.nodup_cons]
      refine ⟨?_, wellFormed.listed.objects⟩
      intro taken
      obtain ⟨one, old, same⟩ := List.mem_map.mp taken
      exact Nat.ne_of_lt (wellFormed.listed.numbered one old).1 same
    · rw [List.map_cons, List.nodup_cons]
      refine ⟨?_, wellFormed.listed.ids⟩
      intro taken
      obtain ⟨one, old, same⟩ := List.mem_map.mp taken
      exact absent one old same
    · intro one member
      rcases List.mem_cons.mp member with rfl | old
      · exact ⟨Nat.lt_succ_self _, fun entry there => absurd there List.not_mem_nil⟩
      · obtain ⟨small, smaller⟩ := wellFormed.listed.numbered one old
        exact ⟨Nat.lt_succ_of_lt small,
          fun entry there => Nat.lt_succ_of_lt (smaller entry there)⟩
  refine ⟨⟨listed, ?_, ?_, ?_, ?_, ?_, room⟩, ?_, ⟨Nat.le_succ _, ?_⟩, ⟨?_, ?_⟩⟩
  · intro object is
    obtain rfl := Option.some.inj is
    exact ⟨_, List.mem_cons_self, rfl, rfl⟩
  · intro is
    cases is
  · change pool.count = 0 + total Generation.count pool.generations
    rw [Nat.zero_add]
    exact wellFormed.count
  · change pool.byteCount + generationSize =
      generationSize + total Generation.byteCount pool.generations
    rw [wellFormed.bytes, Nat.add_comm]
  · exact congrArg (· + 1) wellFormed.generations
  · intro one member
    rcases List.mem_cons.mp member with rfl | old
    · exact .inl rfl
    · rcases inUse one old with is | positive
      · rw [none] at is
        cases is
      · exact .inr positive
  · intro later member
    rcases List.mem_cons.mp member with rfl | old
    · exact .inl (Nat.le_refl _)
    · exact .inr ⟨later, old, rfl, fun _ has => has⟩
  · intro later member
    rcases List.mem_cons.mp member with rfl | old
    · exact .inl ⟨Nat.le_refl _, rfl⟩
    · exact .inr ⟨later, old, rfl, rfl⟩
  · intro one member _
    exact ⟨one, List.mem_cons_of_mem _ member, rfl, rfl⟩

/-- There is a current generation then, or there was no memory. -/
theorem Pool.ensureCurrentGeneration_spec (wellFormed : pool.WellFormed) (inUse : pool.InUse)
    (allocations : Allocations) :
    (∃ status, pool.ensureCurrentGeneration allocations = .error status) ∨
      ∃ next, pool.ensureCurrentGeneration allocations = .ok next ∧ Proceeds pool next ∧
        ∃ generation ∈ next.generations, next.currentGeneration = some generation.object := by
  rw [Pool.ensureCurrentGeneration]
  split
  · rename_i present
    obtain ⟨object, current⟩ := Option.isSome_iff_exists.mp present
    obtain ⟨generation, member, same, _⟩ := wellFormed.current object current
    exact .inr ⟨pool, rfl, .refl wellFormed inUse, generation, member, current.trans
      (congrArg some same.symm)⟩
  rename_i missing
  split
  · exact .inl ⟨_, rfl⟩
  split
  · exact .inl ⟨_, rfl⟩
  · rename_i room
    have none : pool.currentGeneration = none := Option.not_isSome_iff_eq_none.mp missing
    have bounded := wellFormed.bounded
    exact .inr ⟨_, rfl, .opening wellFormed inUse none (by omega), _, List.mem_cons_self, rfl⟩

end Retiring

section Tables

variable {generation : Generation}

theorem Generation.Sound.room (sound : generation.Sound) (used : generation.slots.length ≠ 0) :
    (entries generation.slots).length < generation.slots.length := by
  have load := sound.load
  rw [sound.count] at load
  omega

/-- A text is found in a generation if it is there, and its search ends. -/
theorem Generation.Sound.find (sound : generation.Sound) (text : Bytes) :
    ∃ found, generation.findCatalogString text (catalogStringHash text) = some found ∧
      (∀ entry, found = some entry → entry ∈ entries generation.slots ∧ entry.text = text) ∧
      (found = none → ∀ entry ∈ entries generation.slots, entry.text ≠ text) := by
  rw [Generation.findCatalogString]
  split
  · rename_i empty
    have none : generation.slots = [] := List.length_eq_zero_iff.mp empty
    refine ⟨.none, rfl, ?_, ?_⟩
    · intro entry is
      cases is
    · rw [none]
      intro _ entry there
      cases there
  · rename_i used
    exact sound.stored.find (sound.room used) text

/-- A text of the generation is found at its entry. -/
theorem Generation.Sound.find_entry (sound : generation.Sound) {entry : Entry}
    (member : entry ∈ entries generation.slots) :
    generation.findCatalogString entry.text (catalogStringHash entry.text) = some (some entry) := by
  obtain ⟨found, searched, present, absent⟩ := sound.find entry.text
  cases found with
  | none => exact absurd rfl (absent rfl entry member)
  | some other =>
    obtain ⟨there, same⟩ := present other rfl
    rw [searched, List.inj_on_of_nodup_map sound.stored.distinct there member same]

theorem loadLimit_le (capacity : Nat) : 10 * loadLimit capacity ≤ 7 * capacity := by
  rw [loadLimit]
  omega

/-- Twice the slots, or the first ones: no wrapping around, and room for one more. -/
theorem nextCapacity_spec {capacity count : Nat} (small : capacity * slotSize ≤ sizeMax)
    (shape : capacity = 0 ∨ initialCapacity ≤ capacity) (load : 10 * count ≤ 7 * capacity) :
    capacity ≤ nextCapacity capacity ∧ initialCapacity ≤ nextCapacity capacity ∧
      10 * (count + 1) ≤ 7 * nextCapacity capacity := by
  have limit : sizeMax = 18446744073709551615 := rfl
  have slot : slotSize = 8 := rfl
  have first : initialCapacity = 64 := rfl
  rw [limit, slot] at small
  rw [nextCapacity, limit, first]
  rw [first] at shape
  split
  · omega
  · rename_i used
    rw [Nat.mod_eq_of_lt (by omega)]
    omega

end Tables

section Interning

variable {pool : Pool} {generation : Generation}

theorem Pool.WellFormed.byteCount_le (wellFormed : pool.WellFormed)
    (member : generation ∈ pool.generations) : generation.byteCount ≤ pool.byteCount := by
  rw [wellFormed.bytes]
  exact le_total Generation.byteCount member

/-- Room for one more entry, with every entry where it is found, or no memory. -/
theorem Pool.reserve_spec (wellFormed : pool.WellFormed) (inUse : pool.InUse)
    (member : generation ∈ pool.generations) (allocations : Allocations) :
    ∃ reserved, pool.reserve generation allocations (generation.count + 1) = some reserved ∧
      ∀ roomy, reserved = .ok roomy → Proceeds pool roomy.1 ∧ roomy.2 ∈ roomy.1.generations ∧
        roomy.2.object = generation.object ∧
        roomy.1.currentGeneration = pool.currentGeneration ∧
        roomy.2.count = generation.count ∧
        10 * (generation.count + 1) ≤ 7 * roomy.2.slots.length ∧
        (entries roomy.2.slots).Perm (entries generation.slots) := by
  have sound := wellFormed.listed.sound generation member
  rw [Pool.reserve]
  dsimp only
  split
  · rename_i enough
    have load := loadLimit_le generation.slots.length
    refine ⟨_, rfl, ?_⟩
    rintro roomy is
    obtain rfl := Except.ok.inj is
    refine ⟨.refl wellFormed inUse, member, rfl, rfl, rfl, ?_, .refl _⟩
    change 10 * (generation.count + 1) ≤ 7 * generation.slots.length
    omega
  split
  · exact ⟨_, rfl, fun _ is => by cases is⟩
  split
  · exact ⟨_, rfl, fun _ is => by cases is⟩
  split
  · exact ⟨_, rfl, fun _ is => by cases is⟩
  rename_i full fits memory _
  have smaller := wellFormed.byteCount_le member
  have bounded := wellFormed.bounded
  have bytes := sound.bytes
  obtain ⟨larger, first, load⟩ := nextCapacity_spec (by omega) sound.capacity sound.load
  have count := sound.count
  have none : entries (List.replicate (nextCapacity generation.slots.length) .none) = [] := by
    rw [entries, List.filterMap_eq_nil_iff]
    exact fun slot there => List.eq_of_mem_replicate there
  obtain ⟨slots, inserted, length, stored, members⟩ :=
    @Stored.insertEntries _ (stored_replicate (nextCapacity generation.slots.length))
      generation.slots
      (by rw [none, List.length_nil, List.length_replicate]; omega)
      sound.stored.hashed
      (by rw [none, List.append_nil]; exact sound.stored.distinct)
  rw [none, List.append_nil] at members
  rw [List.length_replicate] at length
  refine ⟨_, by rw [inserted]; rfl, ?_⟩
  rintro roomy is
  obtain rfl := Except.ok.inj is
  dsimp only
  have slot : slotSize = 8 := rfl
  have grown : Generation.Sound { generation with
      slots := slots
      byteCount := generation.byteCount + (nextCapacity generation.slots.length * slotSize -
        generation.slots.length * slotSize) } := by
    refine ⟨stored, ?_, .inr ?_, ?_, ?_, ?_⟩
    · exact ((members.map Entry.object).nodup_iff).mpr sound.objects
    · exact length ▸ first
    · dsimp only
      rw [length]
      omega
    · exact count.trans members.length_eq.symm
    · dsimp only
      rw [length, total_perm _ members, slot]
      rw [slot] at bytes
      omega
  refine ⟨⟨?_, ?_, ?_, ?_⟩, ?_, rfl, rfl, rfl, ?_, members⟩
  · refine wellFormed.placing member rfl rfl grown (Nat.le_refl _) ?_ rfl ?_ (by omega)
    · exact fun entry there =>
        (wellFormed.listed.numbered generation member).2 entry (members.mem_iff.mp there)
    · dsimp only
      omega
  · exact inUse.placing wellFormed member rfl (Nat.le_refl _)
  · exact Extends.placing wellFormed member rfl (Nat.le_refl _)
      fun entry there => members.mem_iff.mpr there
  · exact KeepsReferences.placing wellFormed member rfl rfl
  · exact Pool.mem_placing wellFormed member
  · exact length ▸ load

/-- The text has an entry of its own then, or there was no memory. -/
theorem Pool.addEntry_spec (wellFormed : pool.WellFormed) (inUse : pool.InUse)
    (member : generation ∈ pool.generations) (allocations : Allocations) (text : Bytes)
    (load : 10 * (generation.count + 1) ≤ 7 * generation.slots.length)
    (new : ∀ entry ∈ entries generation.slots, entry.text ≠ text) :
    ∃ next result, pool.addEntry generation allocations text (catalogStringHash text) =
        some (next, result) ∧ Proceeds pool next ∧
      next.currentGeneration = pool.currentGeneration ∧
      ∀ object, result = .ok object → ∃ later ∈ next.generations,
        later.object = generation.object ∧ ∃ entry ∈ entries later.slots,
          entry.object = object ∧ entry.text = text := by
  have sound := wellFormed.listed.sound generation member
  have unchanged : ∀ object, (Except.error Status.noMemory : Except Status Nat) = .ok object →
      ∃ later ∈ pool.generations, later.object = generation.object ∧
        ∃ entry ∈ entries later.slots, entry.object = object ∧ entry.text = text :=
    fun object is => by cases is
  rw [Pool.addEntry]
  dsimp only
  split
  · exact ⟨pool, _, rfl, .refl wellFormed inUse, rfl, unchanged⟩
  split
  · exact ⟨pool, _, rfl, .refl wellFormed inUse, rfl, unchanged⟩
  split
  · exact ⟨pool, _, rfl, .refl wellFormed inUse, rfl, unchanged⟩
  rename_i _ fits _
  have count := sound.count
  have bytes := sound.bytes
  have bounded := wellFormed.bounded
  have numbered := wellFormed.listed.numbered generation member
  obtain ⟨slots, inserted, length, stored, members⟩ :=
    @Stored.insert generation.slots sound.stored (by omega)
      ⟨pool.allocated, catalogStringHash text, text⟩ rfl new
  have added : Generation.Sound { generation with
      slots := slots
      count := generation.count + 1
      byteCount := generation.byteCount + (entrySize + text.length + 1) } := by
    refine ⟨stored, ?_, ?_, ?_, ?_, ?_⟩
    · rw [((members.map Entry.object).nodup_iff), List.map_cons, List.nodup_cons]
      refine ⟨?_, sound.objects⟩
      intro taken
      obtain ⟨entry, there, same⟩ := List.mem_map.mp taken
      exact Nat.ne_of_lt (numbered.2 entry there) same
    · exact length ▸ sound.capacity
    · exact length ▸ load
    · dsimp only
      rw [members.length_eq, List.length_cons, count]
    · dsimp only
      rw [length, total_perm _ members, total, Entry.size]
      dsimp only
      omega
  refine ⟨pool.placing generation _ (pool.count + 1)
    (pool.byteCount + (entrySize + text.length + 1)) (pool.allocated + 1), .ok pool.allocated,
    congrArg _ inserted, ⟨?_, ?_, ?_, ?_⟩, rfl, ?_⟩
  · refine wellFormed.placing member rfl rfl added (Nat.le_succ _) ?_ ?_ ?_ (by omega)
    · intro entry there
      rcases List.mem_cons.mp (members.mem_iff.mp there) with rfl | old
      · exact Nat.lt_succ_self _
      · exact Nat.lt_succ_of_lt (numbered.2 entry old)
    · dsimp only
      omega
    · dsimp only
      omega
  · exact inUse.placing wellFormed member rfl (Nat.le_refl _)
  · exact Extends.placing wellFormed member rfl (Nat.le_succ _)
      fun entry there => members.mem_iff.mpr (List.mem_cons_of_mem _ there)
  · exact KeepsReferences.placing wellFormed member rfl rfl
  · intro object is
    obtain rfl := Except.ok.inj is
    exact ⟨_, Pool.mem_placing wellFormed member, rfl, _,
      members.mem_iff.mpr List.mem_cons_self, rfl, rfl⟩

theorem Pool.internIn_spec (wellFormed : pool.WellFormed) (inUse : pool.InUse)
    (member : generation ∈ pool.generations) (allocations : Allocations) (text : Bytes) :
    ∃ next result, pool.internIn generation allocations text = some (next, result) ∧
      Proceeds pool next ∧ next.currentGeneration = pool.currentGeneration ∧
      ∀ object, result = .ok object → ∃ later ∈ next.generations,
        later.object = generation.object ∧ ∃ entry ∈ entries later.slots,
          entry.object = object ∧ entry.text = text := by
  have sound := wellFormed.listed.sound generation member
  have unchanged : ∀ status object, (Except.error status : Except Status Nat) = .ok object →
      ∃ later ∈ pool.generations, later.object = generation.object ∧
        ∃ entry ∈ entries later.slots, entry.object = object ∧ entry.text = text :=
    fun status object is => by cases is
  obtain ⟨found, searched, present, absent⟩ := sound.find text
  rw [Pool.internIn, searched, Option.bind_some]
  cases found with
  | some entry =>
    obtain ⟨there, same⟩ := present entry rfl
    refine ⟨pool, _, rfl, .refl wellFormed inUse, rfl, ?_⟩
    intro object is
    obtain rfl := Except.ok.inj is
    exact ⟨generation, member, rfl, entry, there, rfl, same⟩
  | none =>
    dsimp only
    split
    · exact ⟨pool, _, rfl, .refl wellFormed inUse, rfl, unchanged _⟩
    obtain ⟨reserved, made, roomy⟩ := pool.reserve_spec wellFormed inUse member allocations
    rw [made, Option.bind_some]
    cases reserved with
    | error status => exact ⟨pool, _, rfl, .refl wellFormed inUse, rfl, unchanged status⟩
    | ok room =>
      obtain ⟨proceeds, there, object, current, count, load, members⟩ := roomy room rfl
      obtain ⟨next, result, done, goesOn, stays, stored⟩ := room.1.addEntry_spec
        proceeds.wellFormed proceeds.inUse there allocations text (by rw [count]; exact load)
        (fun entry has => absent rfl entry (members.mem_iff.mp has))
      exact ⟨next, result, done, proceeds.trans goesOn, stays.trans current, object ▸ stored⟩

/-- A text that is interned has an entry in the generation that is current then. -/
theorem Pool.internForGeneration_spec (wellFormed : pool.WellFormed) (inUse : pool.InUse)
    (generationId : UInt64) (allocations : Allocations) (text : Bytes) :
    ∃ next result, pool.internForGeneration generationId allocations text = some (next, result) ∧
      Proceeds pool next ∧
      ∀ object, result = .ok object → ∃ later ∈ next.generations,
        next.currentGeneration = some later.object ∧ ∃ entry ∈ entries later.slots,
          entry.object = object ∧ entry.text = text := by
  obtain ⟨turned, _⟩ := pool.setGeneration_spec wellFormed inUse generationId
  rw [Pool.internForGeneration]
  rcases (pool.setGeneration generationId).ensureCurrentGeneration_spec turned.wellFormed
    turned.inUse allocations with ⟨status, failed⟩ | ⟨opened, done, proceeds, generation, member,
      current⟩
  · rw [failed]
    refine ⟨_, _, rfl, turned, ?_⟩
    intro object is
    cases is
  · rw [done]
    dsimp only
    rw [current, Option.bind_some, proceeds.wellFormed.listed.generationAt member,
      Option.bind_some]
    obtain ⟨next, result, interned, goesOn, stays, stored⟩ :=
      opened.internIn_spec proceeds.wellFormed proceeds.inUse member allocations text
    refine ⟨next, result, interned, (turned.trans proceeds).trans goesOn, ?_⟩
    intro object is
    obtain ⟨later, there, same, entry, has, rest⟩ := stored object is
    exact ⟨later, there, stays.trans (current.trans (congrArg some same.symm)), entry, has, rest⟩

theorem Call.internedBy_spec (wellFormed : pool.WellFormed) (inUse : pool.InUse)
    (generationId : Option UInt64) (allocations : Allocations) (text : Bytes) :
    ∃ next result, Call.internedBy pool allocations text generationId = some (next, result) ∧
      Proceeds pool next ∧
      ∀ object, result = .ok object → ∃ later ∈ next.generations,
        next.currentGeneration = some later.object ∧ ∃ entry ∈ entries later.slots,
          entry.object = object ∧ entry.text = text := by
  cases generationId with
  | some generationId =>
    exact pool.internForGeneration_spec wellFormed inUse generationId allocations text
  | none =>
    rw [Call.internedBy, Pool.intern]
    split
    · exact pool.internForGeneration_spec wellFormed inUse _ allocations text
    · obtain ⟨turned, _⟩ := pool.setGeneration_spec wellFormed inUse 0
      obtain ⟨next, result, interned, goesOn, stored⟩ :=
        (pool.setGeneration 0).internForGeneration_spec turned.wellFormed turned.inUse
          (pool.setGeneration 0).currentGenerationId allocations text
      exact ⟨next, result, interned, turned.trans goesOn, stored⟩

end Interning

section References

/-- The references that callers have are counted, and what they refer to is listed. -/
structure System.Sound (system : System) : Prop where
  wellFormed : system.pool.WellFormed
  inUse : system.pool.InUse
  counted : ∀ generation ∈ system.pool.generations,
    generation.referenceCount = system.references.count (some generation.object)
  live : ∀ object, some object ∈ system.references →
    ∃ generation ∈ system.pool.generations, generation.object = object

variable {pool next : Pool} {references : List (Option Nat)}

theorem System.Sound.proceeds (sound : System.Sound ⟨pool, references⟩)
    (proceeds : Proceeds pool next) : System.Sound ⟨next, references⟩ := by
  refine ⟨proceeds.wellFormed, proceeds.inUse, ?_, ?_⟩
  · intro later member
    rcases proceeds.references.origin later member with ⟨new, none⟩ | ⟨generation, old, same, count⟩
    · rw [none]
      refine (List.count_eq_zero.mpr fun there => ?_).symm
      obtain ⟨generation, old, same⟩ := sound.live later.object there
      have small := (sound.wellFormed.listed.numbered generation old).1
      dsimp only at small
      omega
    · rw [← count, sound.counted generation old, same]
  · intro object there
    obtain ⟨generation, old, same⟩ := sound.live object there
    have counted := sound.counted generation old
    rw [same] at counted
    have positive : 0 < generation.referenceCount :=
      counted ▸ List.count_pos_iff.mpr there
    obtain ⟨later, member, equal, _⟩ := proceeds.references.kept generation old positive
    exact ⟨later, member, equal.trans same⟩

theorem Pool.WellFormed.recount (wellFormed : pool.WellFormed) {generation : Generation}
    (member : generation ∈ pool.generations) (count : Nat) :
    (pool.placing generation { generation with referenceCount := count } pool.count
      pool.byteCount pool.allocated).WellFormed := by
  have sound := wellFormed.listed.sound generation member
  exact wellFormed.placing member rfl rfl
    ⟨sound.stored, sound.objects, sound.capacity, sound.load, sound.count, sound.bytes⟩
    (Nat.le_refl _) (wellFormed.listed.numbered generation member).2 rfl rfl wellFormed.bounded

/-- A reference more or less, of a generation that stays. -/
theorem System.Sound.counting (sound : System.Sound ⟨pool, references⟩) {generation : Generation}
    (member : generation ∈ pool.generations) (count : Nat)
    (used : pool.currentGeneration = some generation.object ∨ 0 < count)
    {others : List (Option Nat)} (counted : count = others.count (some generation.object))
    (same : ∀ object, object ≠ generation.object →
      others.count (some object) = references.count (some object)) :
    System.Sound ⟨pool.placing generation { generation with referenceCount := count } pool.count
      pool.byteCount pool.allocated, others⟩ := by
  obtain ⟨rest, before, differ, places⟩ := sound.wellFormed.place member
  have after := places { generation with referenceCount := count } pool.count pool.byteCount
    pool.allocated
  refine ⟨sound.wellFormed.recount member count, ?_, ?_, ?_⟩
  · intro later there
    rcases List.mem_cons.mp (after.mem_iff.mp there) with rfl | other
    · exact used
    · exact sound.inUse later (before.mem_iff.mpr (List.mem_cons_of_mem _ other))
  · intro later there
    rcases List.mem_cons.mp (after.mem_iff.mp there) with rfl | other
    · exact counted
    · rw [sound.counted later (before.mem_iff.mpr (List.mem_cons_of_mem _ other)),
        same later.object (differ later other)]
  · intro object there
    by_cases equal : object = generation.object
    · exact ⟨_, after.mem_iff.mpr List.mem_cons_self, equal.symm⟩
    · have positive := List.count_pos_iff.mpr there
      rw [same object equal] at positive
      obtain ⟨later, member, is⟩ := sound.live object (List.count_pos_iff.mp positive)
      rcases List.mem_cons.mp (before.mem_iff.mp member) with rfl | other
      · exact absurd is.symm equal
      · exact ⟨later, after.mem_iff.mpr (List.mem_cons_of_mem _ other), is⟩

theorem System.Sound.acquire (sound : System.Sound ⟨pool, references⟩) (generationId : UInt64) :
    System.Sound ⟨(pool.acquire generationId).1,
      references ++ [(pool.acquire generationId).2.toOption]⟩ ∧
    Extends pool (pool.acquire generationId).1 := by
  have refused : System.Sound ⟨pool, references ++ [none]⟩ := by
    refine ⟨sound.wellFormed, sound.inUse, ?_, ?_⟩
    · intro generation member
      rw [List.count_append, List.count_singleton, if_neg (by simp), Nat.add_zero]
      exact sound.counted generation member
    · intro object there
      rcases List.mem_append.mp there with old | last
      · exact sound.live object old
      · cases List.mem_singleton.mp last
  rw [Pool.acquire]
  cases found : pool.findGeneration generationId with
  | none => exact ⟨refused, .refl pool⟩
  | some generation =>
    have member : generation ∈ pool.generations := List.mem_of_find?_eq_some found
    dsimp only
    split
    · exact ⟨refused, .refl pool⟩
    · have counted := sound.counted generation member
      refine ⟨sound.counting member (generation.referenceCount + 1) (.inr (Nat.succ_pos _)) ?_ ?_,
        Extends.placing sound.wellFormed member rfl (Nat.le_refl _) fun _ has => has⟩
      · rw [List.count_append, ← counted]
        exact congrArg _ (List.count_singleton_self).symm
      · intro object other
        rw [List.count_append]
        refine (congrArg _ (List.count_eq_zero.mpr ?_)).trans (Nat.add_zero _)
        intro there
        exact other (Option.some.inj (List.mem_singleton.mp there))

/-- What a reference that is emptied leaves of the counts. -/
theorem count_set_none {reference object : Nat}
    (held : references[reference]? = some (some object)) :
    (references.set reference none).count (some object) + 1 = references.count (some object) ∧
      ∀ other, other ≠ object →
        (references.set reference none).count (some other) = references.count (some other) := by
  obtain ⟨inside, same⟩ := List.getElem?_eq_some_iff.mp held
  constructor
  · have positive : 0 < references.count (some object) :=
      List.count_pos_iff.mpr (List.mem_of_getElem? held)
    rw [List.count_set inside, same, if_pos (beq_self_eq_true _), if_neg (by simp)]
    omega
  · intro other differs
    rw [List.count_set inside, same, if_neg (by simpa using differs.symm), if_neg (by simp)]
    omega

/-- The last reference of a generation that is not the current one. -/
theorem System.Sound.retire (sound : System.Sound ⟨pool, references⟩) {generation : Generation}
    (member : generation ∈ pool.generations)
    (retired : pool.currentGeneration ≠ some generation.object) {count : Nat}
    {others : List (Option Nat)} (none : others.count (some generation.object) = 0)
    (same : ∀ object, object ≠ generation.object →
      others.count (some object) = references.count (some object)) :
    System.Sound ⟨(pool.placing generation { generation with referenceCount := count } pool.count
        pool.byteCount pool.allocated).removeGeneration generation.object, others⟩ ∧
      Extends pool ((pool.placing generation { generation with referenceCount := count } pool.count
        pool.byteCount pool.allocated).removeGeneration generation.object) := by
  obtain ⟨rest, before, differ, places⟩ := sound.wellFormed.place member
  have after := places { generation with referenceCount := count } pool.count pool.byteCount
    pool.allocated
  have placed := sound.wellFormed.recount member count
  obtain ⟨kept, members⟩ := @Pool.WellFormed.removeGeneration _
    { generation with referenceCount := count } placed
    (after.mem_iff.mpr List.mem_cons_self) retired
  have remaining : ∀ one, one ∈ ((pool.placing generation
      { generation with referenceCount := count } pool.count pool.byteCount
      pool.allocated).removeGeneration generation.object).generations ↔
        one ∈ pool.generations ∧ one.object ≠ generation.object := by
    intro one
    rw [members, after.mem_iff, before.mem_iff, List.mem_cons, List.mem_cons]
    constructor
    · rintro ⟨rfl | there, other⟩
      · exact absurd rfl other
      · exact ⟨.inr there, other⟩
    · rintro ⟨rfl | there, other⟩
      · exact absurd rfl other
      · exact ⟨.inr there, other⟩
  have current : ((pool.placing generation { generation with referenceCount := count } pool.count
      pool.byteCount pool.allocated).removeGeneration generation.object).currentGeneration =
        pool.currentGeneration := by
    rw [Pool.removeGeneration]
    split <;> rfl
  have allocated : ((pool.placing generation { generation with referenceCount := count }
      pool.count pool.byteCount pool.allocated).removeGeneration generation.object).allocated =
        pool.allocated := by
    rw [Pool.removeGeneration]
    split <;> rfl
  refine ⟨⟨kept, ?_, ?_, ?_⟩, Nat.le_of_eq allocated.symm, ?_⟩
  · intro one there
    have used := sound.inUse one ((remaining one).mp there).1
    rw [current]
    exact used
  · intro one there
    obtain ⟨old, other⟩ := (remaining one).mp there
    rw [sound.counted one old, same one.object other]
  · intro object there
    have positive := List.count_pos_iff.mpr there
    by_cases equal : object = generation.object
    · rw [equal, none] at positive
      exact absurd positive (Nat.lt_irrefl 0)
    · rw [same object equal] at positive
      obtain ⟨later, old, is⟩ := sound.live object (List.count_pos_iff.mp positive)
      exact ⟨later, (remaining later).mpr ⟨old, is ▸ equal⟩, is⟩
  · intro later there
    exact .inr ⟨later, ((remaining later).mp there).1, rfl, fun _ has => has⟩

theorem System.Sound.release (sound : System.Sound ⟨pool, references⟩) {reference object : Nat}
    (held : references[reference]? = some (some object)) :
    ∃ next, pool.release object = some next ∧
      System.Sound ⟨next, references.set reference none⟩ ∧ Extends pool next := by
  obtain ⟨generation, member, rfl⟩ := sound.live object (List.mem_of_getElem? held)
  obtain ⟨fewer, others⟩ := count_set_none held
  have counted := sound.counted generation member
  dsimp only at counted
  rw [← counted] at fewer
  have positive : generation.referenceCount ≠ 0 := by omega
  have less : generation.referenceCount - 1 =
      (references.set reference none).count (some generation.object) := by omega
  have extended : Extends pool (pool.placing generation
      { generation with referenceCount := generation.referenceCount - 1 } pool.count
      pool.byteCount pool.allocated) :=
    Extends.placing sound.wellFormed member rfl (Nat.le_refl _) fun _ has => has
  rw [Pool.release, sound.wellFormed.listed.generationAt member, Option.map_some,
    if_neg positive]
  dsimp only
  split
  · rename_i last
    refine ⟨_, rfl, ?_⟩
    exact sound.retire member last.2 (less.symm.trans last.1) others
  · rename_i used
    refine ⟨_, rfl, sound.counting member _ ?_ less others, extended⟩
    by_cases current : pool.currentGeneration = some generation.object
    · exact .inl current
    · exact .inr (Nat.pos_of_ne_zero fun zero => used ⟨zero, current⟩)

end References

section Runs

variable {system : System}

theorem start_sound : start.Sound := by
  refine ⟨⟨⟨?_, List.nodup_nil, List.nodup_nil, ?_⟩, ?_, ?_, rfl, rfl, rfl, Nat.zero_le _⟩,
    ?_, ?_, ?_⟩
  · exact fun _ none => absurd none List.not_mem_nil
  · exact fun _ none => absurd none List.not_mem_nil
  · exact fun _ is => by cases is
  · exact fun _ _ none => absurd none List.not_mem_nil
  · exact fun _ none => absurd none List.not_mem_nil
  · exact fun _ none => absurd none List.not_mem_nil
  · exact fun _ none => absurd none List.not_mem_nil

/-- Every call is carried out, and keeps the invariant. -/
theorem System.Sound.step (sound : system.Sound) (call : Call) :
    ∃ next, StringPool.step system call = some next ∧ next.Sound ∧
      Extends system.pool next.pool := by
  cases call with
  | setGeneration generationId =>
    obtain ⟨proceeds, _⟩ := system.pool.setGeneration_spec sound.wellFormed sound.inUse
      generationId
    exact ⟨_, rfl, sound.proceeds proceeds, proceeds.more⟩
  | intern generationId allocations text =>
    obtain ⟨next, result, interned, proceeds, _⟩ := Call.internedBy_spec sound.wellFormed
      sound.inUse generationId allocations text
    refine ⟨⟨next, system.references⟩, ?_, sound.proceeds proceeds, proceeds.more⟩
    rw [StringPool.step, interned, Option.map_some]
  | acquire generationId =>
    obtain ⟨kept, more⟩ := System.Sound.acquire sound generationId
    exact ⟨_, rfl, kept, more⟩
  | release reference =>
    cases held : system.references[reference]? with
    | none => exact ⟨system, by rw [StringPool.step, held], sound, .refl system.pool⟩
    | some content =>
      cases content with
      | none => exact ⟨system, by rw [StringPool.step, held], sound, .refl system.pool⟩
      | some object =>
        obtain ⟨next, released, kept, more⟩ := System.Sound.release sound held
        refine ⟨⟨next, system.references.set reference none⟩, ?_, kept, more⟩
        rw [StringPool.step, held]
        dsimp only
        rw [released, Option.map_some]

theorem System.Sound.run (sound : system.Sound) (calls : List Call) :
    ∃ last, Transition.runFrom StringPool.step system calls = some last ∧ last.Sound ∧
      Extends system.pool last.pool := by
  induction calls generalizing system with
  | nil => exact ⟨system, rfl, sound, .refl system.pool⟩
  | cons call calls ih =>
    obtain ⟨next, taken, kept, more⟩ := sound.step call
    obtain ⟨last, ran, stays, further⟩ := ih kept
    refine ⟨last, ?_, stays, more.trans further⟩
    rw [Transition.runFrom, taken, Option.bind_some, ran]

/-- A generation that lives on keeps its entries. -/
theorem Extends.entries_subset {old new : Pool} (extended : Extends old new)
    (wellFormed : old.WellFormed) {generation later : Generation}
    (member : generation ∈ old.generations) (there : later ∈ new.generations)
    (same : generation.object = later.object) :
    entries generation.slots ⊆ entries later.slots := by
  rcases extended.origin later there with new | ⟨other, before, equal, more⟩
  · have small := (wellFormed.listed.numbered generation member).1
    omega
  · obtain rfl := wellFormed.listed.same_object before member (equal.trans same.symm)
    exact more

theorem Generation.Sound.same_entry {generation : Generation} (sound : generation.Sound)
    {first second : Entry} (one : first ∈ entries generation.slots)
    (two : second ∈ entries generation.slots) :
    first.object = second.object ↔ first.text = second.text := by
  constructor
  · intro same
    rw [List.inj_on_of_nodup_map sound.objects one two same]
  · intro same
    rw [List.inj_on_of_nodup_map sound.stored.distinct one two same]

theorem entries_add_free (slots : List (Option Entry)) :
    (entries slots).length + slots.countP Option.isNone = slots.length := by
  induction slots with
  | nil => rfl
  | cons slot slots ih =>
    cases slot with
    | none =>
      rw [List.countP_cons_of_pos rfl, List.length_cons, ← ih]
      rfl
    | some entry =>
      have more : entries (some entry :: slots) = entry :: entries slots := rfl
      rw [more, List.countP_cons_of_neg (by simp), List.length_cons, List.length_cons, ← ih]
      omega

/-- The bytes of a generation, its table and its entries. -/
def Generation.size (generation : Generation) : Nat :=
  generationSize + generation.slots.length * slotSize +
    total Entry.size (entries generation.slots)

theorem total_congr {Item : Type} {first second : Item → Nat} {items : List Item}
    (same : ∀ item ∈ items, first item = second item) :
    total first items = total second items := by
  induction items with
  | nil => rfl
  | cons item items ih =>
    rw [total, total, same item List.mem_cons_self,
      ih fun other member => same other (List.mem_cons_of_mem _ member)]

/-- What holds of a pool whatever was called. -/
structure Guarantees (system : System) : Prop where
  found : ∀ generation ∈ system.pool.generations, ∀ entry ∈ entries generation.slots,
    generation.findCatalogString entry.text (catalogStringHash entry.text) = some (some entry)
  ends : ∀ generation ∈ system.pool.generations, ∀ text,
    ∃ found, generation.findCatalogString text (catalogStringHash text) = some found
  free : ∀ generation ∈ system.pool.generations,
    3 * generation.slots.length ≤ 10 * generation.slots.countP Option.isNone
  referenced : ∀ object, some object ∈ system.references →
    ∃ generation ∈ system.pool.generations, generation.object = object
  retired : ∀ generation ∈ system.pool.generations,
    system.pool.currentGeneration = some generation.object ∨
      some generation.object ∈ system.references
  count : system.pool.count =
    total (fun generation => (entries generation.slots).length) system.pool.generations
  bytes : system.pool.byteCount = total Generation.size system.pool.generations
  generationCount : system.pool.generationCount = system.pool.generations.length

theorem System.Sound.guarantees (sound : system.Sound) : Guarantees system := by
  have listed := sound.wellFormed.listed
  constructor
  · exact fun generation member entry there => (listed.sound generation member).find_entry there
  · intro generation member text
    obtain ⟨found, searched, _⟩ := (listed.sound generation member).find text
    exact ⟨found, searched⟩
  · intro generation member
    have load := (listed.sound generation member).load
    have count := (listed.sound generation member).count
    have all := entries_add_free generation.slots
    omega
  · exact sound.live
  · intro generation member
    rcases sound.inUse generation member with current | positive
    · exact .inl current
    · rw [sound.counted generation member] at positive
      exact .inr (List.count_pos_iff.mp positive)
  · rw [sound.wellFormed.count]
    exact total_congr fun generation member => (listed.sound generation member).count
  · rw [sound.wellFormed.bytes]
    exact total_congr fun generation member => (listed.sound generation member).bytes
  · exact sound.wellFormed.generations

/-- Every sequence of calls is carried out, with every entry where it is looked for, the
referenced generations there, the retired ones gone, and the counts right; a generation that lives
on loses no entry; and two texts interned in one generation have the same entry if and only if
they are equal. -/
theorem string_pool_runs :
    (∀ calls, ∃ system, Transition.runFrom step start calls = some system ∧ Guarantees system) ∧
    (∀ calls more system last, Transition.runFrom step start calls = some system →
      Transition.runFrom step system more = some last →
      ∀ generation ∈ system.pool.generations, ∀ later ∈ last.pool.generations,
        generation.object = later.object → entries generation.slots ⊆ entries later.slots) ∧
    ∀ calls more system last firstGeneration firstAllocations firstText firstPool firstEntry
        secondGeneration secondAllocations secondText secondPool secondEntry,
      Transition.runFrom step start calls = some system →
      Call.internedBy system.pool firstAllocations firstText firstGeneration =
        some (firstPool, .ok firstEntry) →
      Transition.runFrom step ⟨firstPool, system.references⟩ more = some last →
      Call.internedBy last.pool secondAllocations secondText secondGeneration =
        some (secondPool, .ok secondEntry) →
      firstPool.currentGeneration = secondPool.currentGeneration →
      (firstEntry = secondEntry ↔ firstText = secondText) := by
  refine ⟨?_, ?_, ?_⟩
  · intro calls
    obtain ⟨system, ran, sound, _⟩ := start_sound.run calls
    exact ⟨system, ran, sound.guarantees⟩
  · intro calls more system last ran later
    obtain ⟨reached, same, sound, _⟩ := start_sound.run calls
    obtain rfl := Option.some.inj (same.symm.trans ran)
    obtain ⟨reachedLast, same, _, extended⟩ := sound.run more
    obtain rfl := Option.some.inj (same.symm.trans later)
    exact fun generation member other there => extended.entries_subset sound.wellFormed member there
  · intro calls more system last firstGeneration firstAllocations firstText firstPool firstEntry
      secondGeneration secondAllocations secondText secondPool secondEntry ran first between second
      same
    obtain ⟨reached, is, sound, _⟩ := start_sound.run calls
    obtain rfl := Option.some.inj (is.symm.trans ran)
    obtain ⟨pool, result, interned, proceeds, placed⟩ := Call.internedBy_spec sound.wellFormed
      sound.inUse firstGeneration firstAllocations firstText
    obtain ⟨rfl, rfl⟩ := Prod.mk.inj (Option.some.inj (interned.symm.trans first))
    obtain ⟨generation, member, current, entry, there, rfl, rfl⟩ := placed firstEntry rfl
    have soundFirst := @System.Sound.proceeds reached.pool _ reached.references sound proceeds
    obtain ⟨reachedLast, is, soundLast, extended⟩ := soundFirst.run more
    obtain rfl := Option.some.inj (is.symm.trans between)
    obtain ⟨nextPool, nextResult, internedNext, goesOn, placedNext⟩ := Call.internedBy_spec
      soundLast.wellFormed soundLast.inUse secondGeneration secondAllocations secondText
    obtain ⟨rfl, rfl⟩ := Prod.mk.inj (Option.some.inj (internedNext.symm.trans second))
    obtain ⟨later, laterMember, laterCurrent, other, otherThere, rfl, rfl⟩ :=
      placedNext secondEntry rfl
    have object : generation.object = later.object := by
      rw [current, laterCurrent] at same
      exact Option.some.inj same
    have kept := (extended.trans goesOn.more).entries_subset soundFirst.wellFormed member
      laterMember object
    exact (goesOn.wellFormed.listed.sound later laterMember).same_entry (kept there) otherThere

/-- `a` of generation 7, which a reference keeps while generation 8 is current, and `b` of it. -/
def pinnedSystem : System := ((Transition.runFrom step start [.setGeneration 7]).getD start)

def pinnedAllocations : Allocations := ⟨true, true, true⟩

def pinnedCalls : List Call := [.acquire 7, .setGeneration 8]

def pinnedFirst : Pool × Except Status Nat :=
  (Call.internedBy pinnedSystem.pool pinnedAllocations [97] none).getD (start.pool, .ok 0)

def pinnedLast : System :=
  (Transition.runFrom step ⟨pinnedFirst.1, pinnedSystem.references⟩ pinnedCalls).getD start

def pinnedSecond : Pool × Except Status Nat :=
  (Call.internedBy pinnedLast.pool pinnedAllocations [98] (some 7)).getD (start.pool, .ok 0)

theorem string_pool_runs_pinned :
    ∃ firstEntry secondEntry,
      pinnedFirst.2.toOption = some firstEntry ∧ pinnedSecond.2.toOption = some secondEntry ∧
        (firstEntry = secondEntry ↔ ([97] : Bytes) = [98]) :=
  ⟨1, 2, by decide +kernel, by decide +kernel,
    string_pool_runs.2.2 [.setGeneration 7] pinnedCalls pinnedSystem pinnedLast none
      pinnedAllocations [97] pinnedFirst.1 1 (some 7) pinnedAllocations [98] pinnedSecond.1 2
      (by decide +kernel) (by decide +kernel) (by decide +kernel) (by decide +kernel)
      (by decide +kernel)⟩

end Runs

end MyLite.StringPool
