import MyLite.Catalog.StringPoolTable

/-! What every call of the string pool keeps: the tables, the counts, and which generations are
listed. -/

namespace MyLite.StringPool

section Totals

variable {Item : Type}

def total (measure : Item → Nat) : List Item → Nat
  | [] => 0
  | item :: items => measure item + total measure items

theorem total_perm (measure : Item → Nat) {items others : List Item} (same : items.Perm others) :
    total measure items = total measure others := by
  induction same with
  | nil => rfl
  | cons item _ ih => rw [total, total, ih]
  | swap first second items => simp only [total]; omega
  | trans _ _ ih ih' => exact ih.trans ih'

theorem le_total (measure : Item → Nat) {items : List Item} {item : Item} (member : item ∈ items) :
    measure item ≤ total measure items := by
  induction items with
  | nil => cases member
  | cons first items ih =>
    rw [total]
    rcases List.mem_cons.mp member with rfl | later
    · exact Nat.le_add_right _ _
    · exact Nat.le_trans (ih later) (Nat.le_add_left _ _)

end Totals

def Entry.size (entry : Entry) : Nat := entrySize + entry.text.length + 1

/-- The table of a generation is at most seven tenths full, and its counts are those of what is
in it. -/
structure Generation.Sound (generation : Generation) : Prop where
  stored : Stored generation.slots
  objects : ((entries generation.slots).map Entry.object).Nodup
  capacity : generation.slots.length = 0 ∨ initialCapacity ≤ generation.slots.length
  load : 10 * generation.count ≤ 7 * generation.slots.length
  count : generation.count = (entries generation.slots).length
  bytes : generation.byteCount =
    generationSize + generation.slots.length * slotSize +
      total Entry.size (entries generation.slots)

/-- Generations that are told apart by their objects and by their ids. -/
structure Listed (generations : List Generation) (allocated : Nat) : Prop where
  sound : ∀ generation ∈ generations, generation.Sound
  objects : (generations.map Generation.object).Nodup
  ids : (generations.map Generation.generationId).Nodup
  numbered : ∀ generation ∈ generations, generation.object < allocated ∧
    ∀ entry ∈ entries generation.slots, entry.object < allocated

structure Pool.WellFormed (pool : Pool) : Prop where
  listed : Listed pool.generations pool.allocated
  current : ∀ object, pool.currentGeneration = some object →
    ∃ generation ∈ pool.generations, generation.object = object ∧
      generation.generationId = pool.currentGenerationId
  absent : pool.currentGeneration = none → ∀ generation ∈ pool.generations,
    generation.generationId ≠ pool.currentGenerationId
  count : pool.count = total Generation.count pool.generations
  bytes : pool.byteCount = total Generation.byteCount pool.generations
  generations : pool.generationCount = pool.generations.length
  bounded : pool.byteCount ≤ sizeMax

/-- No generation stays without a reference once it is not the current one. -/
def Pool.InUse (pool : Pool) : Prop :=
  ∀ generation ∈ pool.generations,
    pool.currentGeneration = some generation.object ∨ 0 < generation.referenceCount

/-- The generations are those from before, with all their entries, and new ones. -/
structure Extends (old new : Pool) : Prop where
  allocated : old.allocated ≤ new.allocated
  origin : ∀ later ∈ new.generations, old.allocated ≤ later.object ∨
    ∃ generation ∈ old.generations, generation.object = later.object ∧
      entries generation.slots ⊆ entries later.slots

/-- No reference is taken or given back, and no generation that has one is lost. -/
structure KeepsReferences (old new : Pool) : Prop where
  origin : ∀ later ∈ new.generations,
    (old.allocated ≤ later.object ∧ later.referenceCount = 0) ∨
    ∃ generation ∈ old.generations, generation.object = later.object ∧
      generation.referenceCount = later.referenceCount
  kept : ∀ generation ∈ old.generations, 0 < generation.referenceCount →
    ∃ later ∈ new.generations, later.object = generation.object ∧
      later.referenceCount = generation.referenceCount

section Relations

variable {first second third : Pool}

theorem Extends.refl (pool : Pool) : Extends pool pool :=
  ⟨Nat.le_refl _, fun later member => .inr ⟨later, member, rfl, fun _ there => there⟩⟩

theorem Extends.trans (before : Extends first second) (after : Extends second third) :
    Extends first third := by
  refine ⟨Nat.le_trans before.allocated after.allocated, ?_⟩
  intro later member
  rcases after.origin later member with new | ⟨middle, there, same, more⟩
  · exact .inl (Nat.le_trans before.allocated new)
  · rcases before.origin middle there with new | ⟨generation, old, equal, some⟩
    · exact .inl (same ▸ new)
    · exact .inr ⟨generation, old, equal.trans same, fun _ has => more (some has)⟩

theorem KeepsReferences.refl (pool : Pool) : KeepsReferences pool pool :=
  ⟨fun later member => .inr ⟨later, member, rfl, rfl⟩,
    fun generation member _ => ⟨generation, member, rfl, rfl⟩⟩

theorem KeepsReferences.trans (grows : first.allocated ≤ second.allocated)
    (before : KeepsReferences first second) (after : KeepsReferences second third) :
    KeepsReferences first third := by
  constructor
  · intro later member
    rcases after.origin later member with ⟨new, none⟩ | ⟨middle, there, same, count⟩
    · exact .inl ⟨Nat.le_trans grows new, none⟩
    · rcases before.origin middle there with ⟨new, none⟩ | ⟨generation, old, equal, counts⟩
      · exact .inl ⟨same ▸ new, count ▸ none⟩
      · exact .inr ⟨generation, old, equal.trans same, counts.trans count⟩
  · intro generation member positive
    obtain ⟨middle, there, same, count⟩ := before.kept generation member positive
    obtain ⟨later, last, equal, counts⟩ := after.kept middle there (count ▸ positive)
    exact ⟨later, last, equal.trans same, counts.trans count⟩

end Relations

section Lists

variable {generations others : List Generation} {generation replacement : Generation}
  {allocated : Nat}

theorem Listed.perm (listed : Listed generations allocated) (same : generations.Perm others) :
    Listed others allocated :=
  ⟨fun one member => listed.sound one (same.mem_iff.mpr member),
    ((same.map _).nodup_iff).mp listed.objects, ((same.map _).nodup_iff).mp listed.ids,
    fun one member => listed.numbered one (same.mem_iff.mpr member)⟩

theorem Listed.tail (listed : Listed (generation :: others) allocated) : Listed others allocated :=
  ⟨fun one member => listed.sound one (List.mem_cons_of_mem _ member),
    (List.nodup_cons.mp listed.objects).2, (List.nodup_cons.mp listed.ids).2,
    fun one member => listed.numbered one (List.mem_cons_of_mem _ member)⟩

/-- A generation may take the place of one with the same object and id. -/
theorem Listed.replace (listed : Listed (generation :: others) allocated) {later : Nat}
    (grows : allocated ≤ later) (object : replacement.object = generation.object)
    (generationId : replacement.generationId = generation.generationId)
    (sound : replacement.Sound)
    (numbered : ∀ entry ∈ entries replacement.slots, entry.object < later) :
    Listed (replacement :: others) later := by
  constructor
  · intro one member
    rcases List.mem_cons.mp member with rfl | other
    · exact sound
    · exact listed.sound one (List.mem_cons_of_mem _ other)
  · have objects := listed.objects
    rw [List.map_cons] at objects ⊢
    rwa [object]
  · have ids := listed.ids
    rw [List.map_cons] at ids ⊢
    rwa [generationId]
  · intro one member
    rcases List.mem_cons.mp member with rfl | other
    · refine ⟨?_, numbered⟩
      rw [object]
      exact Nat.lt_of_lt_of_le (listed.numbered generation List.mem_cons_self).1 grows
    · obtain ⟨small, smaller⟩ := listed.numbered one (List.mem_cons_of_mem _ other)
      exact ⟨Nat.lt_of_lt_of_le small grows,
        fun entry there => Nat.lt_of_lt_of_le (smaller entry there) grows⟩

theorem Listed.same_object (listed : Listed generations allocated)
    {first second : Generation} (one : first ∈ generations) (two : second ∈ generations)
    (object : first.object = second.object) : first = second :=
  List.inj_on_of_nodup_map listed.objects one two object

end Lists

section Pointers

variable {pool : Pool} {generation : Generation}

/-- The generations around one, which all are other objects. -/
theorem Listed.split {generations : List Generation} {allocated : Nat}
    (listed : Listed generations allocated) (member : generation ∈ generations) :
    ∃ before after, generations = before ++ generation :: after ∧
      ∀ other ∈ before ++ after, other.object ≠ generation.object := by
  obtain ⟨before, after, rfl⟩ := List.append_of_mem member
  refine ⟨before, after, rfl, ?_⟩
  have objects := ((@List.perm_middle Generation generation before after).map
    Generation.object).nodup_iff.mp listed.objects
  rw [List.map_cons, List.nodup_cons] at objects
  intro other there same
  exact objects.1 (List.mem_map.mpr ⟨other, there, same⟩)

theorem Listed.generationAt (listed : Listed pool.generations pool.allocated)
    (member : generation ∈ pool.generations) :
    pool.generationAt generation.object = some generation := by
  cases found : pool.generationAt generation.object with
  | none =>
    have absent := List.find?_eq_none.mp found generation member
    simp at absent
  | some other =>
    have same := List.find?_some found
    exact congrArg some (listed.same_object (List.mem_of_find?_eq_some found) member
      (of_decide_eq_true same))

/-- What a write or a removal leaves: the other generations, with and without one in the place. -/
theorem Listed.place (listed : Listed pool.generations pool.allocated)
    (member : generation ∈ pool.generations) :
    ∃ others, pool.generations.Perm (generation :: others) ∧
      (∀ other ∈ others, other.object ≠ generation.object) ∧
      (∀ replacement, (pool.write generation.object replacement).generations.Perm
        (replacement :: others)) ∧
      (pool.generations.eraseP fun other => other.object = generation.object).Perm others := by
  obtain ⟨before, after, split, differ⟩ := listed.split member
  refine ⟨before ++ after, ?_, differ, ?_, ?_⟩
  · rw [split]
    exact List.perm_middle
  · intro replacement
    have kept : ∀ part : List Generation, (∀ other ∈ part, other ∈ before ++ after) →
        (part.map fun other =>
          if other.object = generation.object then replacement else other) = part := by
      intro part inside
      refine (List.map_congr_left fun other there => ?_).trans (List.map_id part)
      rw [if_neg (differ other (inside other there)), id]
    rw [Pool.write, split, List.map_append, List.map_cons, if_pos rfl,
      kept before fun _ there => List.mem_append_left _ there,
      kept after fun _ there => List.mem_append_right _ there]
    exact List.perm_middle
  · have passed : ∀ other ∈ before, ¬ decide (other.object = generation.object) = true := by
      intro other there same
      exact differ other (List.mem_append_left _ there) (of_decide_eq_true same)
    rw [split, List.eraseP_append_right _ passed,
      @List.eraseP_cons_of_pos Generation generation _
        (fun other => decide (other.object = generation.object)) (decide_eq_true rfl)]

end Pointers

section Changes

variable {pool : Pool} {generation replacement : Generation} {count byteCount allocated : Nat}

/-- The pool with another generation in the place of one, and with other counts. -/
def Pool.placing (pool : Pool) (generation replacement : Generation)
    (count byteCount allocated : Nat) : Pool :=
  Pool.write { pool with count := count, byteCount := byteCount, allocated := allocated }
    generation.object replacement

theorem Pool.WellFormed.place (wellFormed : pool.WellFormed)
    (member : generation ∈ pool.generations) :
    ∃ others, pool.generations.Perm (generation :: others) ∧
      (∀ other ∈ others, other.object ≠ generation.object) ∧
      ∀ replacement count byteCount allocated,
        (pool.placing generation replacement count byteCount allocated).generations.Perm
          (replacement :: others) := by
  obtain ⟨others, before, differ, writes, _⟩ := wellFormed.listed.place member
  exact ⟨others, before, differ, fun replacement _ _ _ => writes replacement⟩

theorem Pool.WellFormed.placing (wellFormed : pool.WellFormed)
    (member : generation ∈ pool.generations) (object : replacement.object = generation.object)
    (generationId : replacement.generationId = generation.generationId)
    (sound : replacement.Sound) (grows : pool.allocated ≤ allocated)
    (numbered : ∀ entry ∈ entries replacement.slots, entry.object < allocated)
    (counted : count + generation.count = pool.count + replacement.count)
    (bytes : byteCount + generation.byteCount = pool.byteCount + replacement.byteCount)
    (bounded : byteCount ≤ sizeMax) :
    (pool.placing generation replacement count byteCount allocated).WellFormed := by
  obtain ⟨others, before, differ, places⟩ := wellFormed.place member
  have after := places replacement count byteCount allocated
  have counts := wellFormed.count
  have sizes := wellFormed.bytes
  rw [total_perm _ before, total] at counts sizes
  constructor
  · exact ((wellFormed.listed.perm before).replace grows object generationId sound numbered).perm
      after.symm
  · intro current is
    obtain ⟨one, there, same, equal⟩ := wellFormed.current current is
    rcases List.mem_cons.mp (before.mem_iff.mp there) with rfl | other
    · exact ⟨replacement, after.mem_iff.mpr List.mem_cons_self, object.trans same,
        generationId.trans equal⟩
    · exact ⟨one, after.mem_iff.mpr (List.mem_cons_of_mem _ other), same, equal⟩
  · intro none one there
    rcases List.mem_cons.mp (after.mem_iff.mp there) with rfl | other
    · rw [generationId]
      exact wellFormed.absent none generation member
    · exact wellFormed.absent none one (before.mem_iff.mpr (List.mem_cons_of_mem _ other))
  · rw [total_perm _ after, total]
    change count = _
    omega
  · rw [total_perm _ after, total]
    change byteCount = _
    omega
  · rw [after.length_eq, List.length_cons]
    have length := wellFormed.generations
    rw [before.length_eq, List.length_cons] at length
    exact length
  · exact bounded

theorem Pool.InUse.placing (inUse : pool.InUse) (wellFormed : pool.WellFormed)
    (member : generation ∈ pool.generations) (object : replacement.object = generation.object)
    (references : generation.referenceCount ≤ replacement.referenceCount) :
    (pool.placing generation replacement count byteCount allocated).InUse := by
  obtain ⟨others, before, _, places⟩ := wellFormed.place member
  intro one there
  rcases List.mem_cons.mp ((places replacement count byteCount allocated).mem_iff.mp there)
    with rfl | other
  · rcases inUse generation member with current | positive
    · exact .inl (current.trans (congrArg some object.symm))
    · exact .inr (Nat.lt_of_lt_of_le positive references)
  · exact inUse one (before.mem_iff.mpr (List.mem_cons_of_mem _ other))

theorem Extends.placing (wellFormed : pool.WellFormed) (member : generation ∈ pool.generations)
    (object : replacement.object = generation.object) (grows : pool.allocated ≤ allocated)
    (more : entries generation.slots ⊆ entries replacement.slots) :
    Extends pool (pool.placing generation replacement count byteCount allocated) := by
  obtain ⟨others, before, _, places⟩ := wellFormed.place member
  refine ⟨grows, ?_⟩
  intro later there
  rcases List.mem_cons.mp ((places replacement count byteCount allocated).mem_iff.mp there)
    with rfl | other
  · exact .inr ⟨generation, member, object.symm, more⟩
  · exact .inr ⟨later, before.mem_iff.mpr (List.mem_cons_of_mem _ other), rfl,
      fun _ has => has⟩

theorem KeepsReferences.placing (wellFormed : pool.WellFormed)
    (member : generation ∈ pool.generations) (object : replacement.object = generation.object)
    (references : replacement.referenceCount = generation.referenceCount) :
    KeepsReferences pool (pool.placing generation replacement count byteCount allocated) := by
  obtain ⟨others, before, _, places⟩ := wellFormed.place member
  have after := places replacement count byteCount allocated
  constructor
  · intro later there
    rcases List.mem_cons.mp (after.mem_iff.mp there) with rfl | other
    · exact .inr ⟨generation, member, object.symm, references.symm⟩
    · exact .inr ⟨later, before.mem_iff.mpr (List.mem_cons_of_mem _ other), rfl, rfl⟩
  · intro one there _
    rcases List.mem_cons.mp (before.mem_iff.mp there) with rfl | other
    · exact ⟨replacement, after.mem_iff.mpr List.mem_cons_self, object, references⟩
    · exact ⟨one, after.mem_iff.mpr (List.mem_cons_of_mem _ other), rfl, rfl⟩

theorem Pool.mem_placing (wellFormed : pool.WellFormed) (member : generation ∈ pool.generations) :
    replacement ∈ (pool.placing generation replacement count byteCount allocated).generations := by
  obtain ⟨others, _, _, places⟩ := wellFormed.place member
  exact (places replacement count byteCount allocated).mem_iff.mpr List.mem_cons_self

/-- A generation that is not the current one may go. -/
theorem Pool.WellFormed.removeGeneration (wellFormed : pool.WellFormed)
    (member : generation ∈ pool.generations)
    (retired : pool.currentGeneration ≠ some generation.object) :
    (pool.removeGeneration generation.object).WellFormed ∧
      ∀ one, one ∈ (pool.removeGeneration generation.object).generations ↔
        one ∈ pool.generations ∧ one.object ≠ generation.object := by
  obtain ⟨others, before, differ, _, after⟩ := wellFormed.listed.place member
  have counts := wellFormed.count
  have sizes := wellFormed.bytes
  have length := wellFormed.generations
  rw [total_perm _ before, total] at counts sizes
  rw [before.length_eq, List.length_cons] at length
  have members : ∀ one, one ∈ others ↔ one ∈ pool.generations ∧
      one.object ≠ generation.object := by
    intro one
    rw [before.mem_iff, List.mem_cons]
    constructor
    · exact fun there => ⟨.inr there, differ one there⟩
    · rintro ⟨rfl | there, other⟩
      · exact absurd rfl other
      · exact there
  rw [Pool.removeGeneration, wellFormed.listed.generationAt member]
  constructor
  · constructor
    · exact ((wellFormed.listed.perm before).tail).perm after.symm
    · intro current is
      obtain ⟨one, there, same, equal⟩ := wellFormed.current current is
      refine ⟨one, after.mem_iff.mpr ((members one).mpr ⟨there, ?_⟩), same, equal⟩
      rintro object
      exact retired (is.trans (congrArg some (same.symm.trans object)))
    · intro none one there
      exact wellFormed.absent none one ((members one).mp (after.mem_iff.mp there)).1
    · change pool.count - generation.count = _
      rw [total_perm _ after]
      omega
    · change pool.byteCount - generation.byteCount = _
      rw [total_perm _ after]
      omega
    · change pool.generationCount - 1 = _
      rw [after.length_eq]
      omega
    · exact Nat.le_trans (Nat.sub_le _ _) wellFormed.bounded
  · intro one
    exact after.mem_iff.trans (members one)

end Changes

end MyLite.StringPool
