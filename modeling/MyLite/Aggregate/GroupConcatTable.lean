import MyLite.Aggregate.GroupConcat
import MyLite.Library.OpenAddressing

/-! The hash table of GROUP_CONCAT DISTINCT is open addressing over a power of two of slots, a
quarter of which stays free. -/
namespace MyLite.Aggregate

open Collation (CollationKind collationMakeKey)
open OpenAddressing (Placed occupied)

/-- The entry of a text. -/
def distinctEntry (collation : CollationKind) (text : List UInt8) : DistinctEntry :=
  ⟨collationMakeKey collation text, groupConcatDistinctHash (collationMakeKey collation text)⟩

theorem distinctEntry_inj {collation : CollationKind} {left right : List UInt8} :
    distinctEntry collation left = distinctEntry collation right ↔
      collationMakeKey collation left = collationMakeKey collation right := by
  simp only [distinctEntry, DistinctEntry.mk.injEq]
  constructor
  · exact And.left
  · intro same
    exact ⟨same, congrArg groupConcatDistinctHash same⟩

def entryHash (entry : DistinctEntry) : Nat :=
  entry.hash.toNat

theorem entry_matches (entry : DistinctEntry) (hash : UInt64) (key : List UInt8) :
    (entry.hash = hash ∧ entry.key.length = key.length ∧ (key.length = 0 ∨ entry.key = key)) ↔
      entry = ⟨key, hash⟩ := by
  constructor
  · rintro ⟨rfl, lengths, empty | rfl⟩
    · rw [empty] at lengths
      rw [List.eq_nil_of_length_eq_zero empty, ← List.eq_nil_of_length_eq_zero lengths]
    · rfl
  · rintro rfl
    exact ⟨rfl, rfl, .inr rfl⟩

section Probes

variable {entries : List (Option DistinctEntry)} {exponent : Nat}

/-- With a power of two of slots the mask goes around the end of the table. -/
theorem groupConcatDistinctWalk_eq (sized : entries.length = 2 ^ exponent) (hash : UInt64)
    (key : List UInt8) (fuel slot : Nat) :
    groupConcatDistinctWalk entries hash key fuel slot =
      OpenAddressing.probe entries ⟨key, hash⟩ fuel slot := by
  induction fuel generalizing slot with
  | zero => rfl
  | succ fuel ih =>
    rw [groupConcatDistinctWalk, OpenAddressing.probe]
    cases entries[slot]? with
    | none => rfl
    | some held =>
      cases held with
      | none => rfl
      | some entry =>
        simp only [entry_matches, ih, sized, Nat.and_two_pow_sub_one_eq_mod]

theorem groupConcatDistinctSlot_eq (sized : entries.length = 2 ^ exponent) (hash : UInt64)
    (key : List UInt8) :
    groupConcatDistinctSlot entries hash key =
      OpenAddressing.find entryHash entries ⟨key, hash⟩ := by
  rw [groupConcatDistinctSlot, groupConcatDistinctWalk_eq sized, OpenAddressing.find]
  simp only [sized, Nat.and_two_pow_sub_one_eq_mod, entryHash]

theorem groupConcatDistinctMove_eq (sized : entries.length = 2 ^ exponent)
    (source : List (Option DistinctEntry)) :
    groupConcatDistinctMove source entries =
      OpenAddressing.storeAll entryHash source entries := by
  induction source generalizing entries with
  | nil => rfl
  | cons held source ih =>
    cases held with
    | none => exact ih sized
    | some entry =>
      rw [groupConcatDistinctMove, OpenAddressing.storeAll, groupConcatDistinctSlot_eq sized]
      cases OpenAddressing.find entryHash entries ⟨entry.key, entry.hash⟩ with
      | none => rfl
      | some stopped => exact ih (by rw [List.length_set, sized])

end Probes

/-- A table with room for some keys: a power of two of slots, three quarters of which may be
occupied. -/
structure HasRoom (entries : List (Option DistinctEntry)) (count : Nat) : Prop where
  sized : ∃ exponent, entries.length = 2 ^ (exponent + 4)
  fits : count ≤ entries.length - entries.length / 4
  placed : Placed entryHash entries

/-- The table after a row: no table at all, or one with room for its keys. -/
structure HoldsKeys (entries : List (Option DistinctEntry)) (count : Nat) : Prop where
  counted : occupied entries ≤ count
  room : entries = [] ∧ count = 0 ∨ HasRoom entries count

theorem holdsKeys_zero : HoldsKeys GroupConcatState.zero.distinctEntries
    GroupConcatState.zero.distinctCount :=
  ⟨Nat.le_refl _, .inl ⟨rfl, rfl⟩⟩

theorem length_ge {entries : List (Option DistinctEntry)}
    (sized : ∃ exponent, entries.length = 2 ^ (exponent + 4)) : 16 ≤ entries.length := by
  obtain ⟨exponent, sized⟩ := sized
  rw [sized, Nat.pow_add]
  exact Nat.le_mul_of_pos_left _ (Nat.two_pow_pos exponent)

theorem HasRoom.lt {entries : List (Option DistinctEntry)} {count : Nat}
    (room : HasRoom entries count) : count < entries.length := by
  have large := length_ge room.sized
  have fits := room.fits
  omega

/-- A power of two of slots, one of which is free, so that every probe ends. -/
def ProbesEnd (entries : List (Option DistinctEntry)) : Prop :=
  (∃ exponent, entries.length = 2 ^ exponent) ∧ none ∈ entries ∧
    ∀ hash key, ∃ slot found, groupConcatDistinctSlot entries hash key = some (slot, found)

theorem HasRoom.probesEnd {entries : List (Option DistinctEntry)} {count : Nat}
    (room : HasRoom entries count) (counted : occupied entries ≤ count) : ProbesEnd entries := by
  obtain ⟨exponent, sized⟩ := room.sized
  have less := room.lt
  have space : occupied entries < entries.length := by omega
  refine ⟨⟨_, sized⟩, OpenAddressing.free_of_occupied space, fun hash key => ?_⟩
  obtain ⟨slot, found, probed, -⟩ := room.placed.find space ⟨key, hash⟩
  exact ⟨slot, found, by rw [groupConcatDistinctSlot_eq sized, probed]⟩

/-- Growth keeps the keys and makes room for one more. -/
theorem groupConcatDistinctReserve_room {entries : List (Option DistinctEntry)} {count : Nat}
    (holds : HoldsKeys entries count) :
    ∃ grown, groupConcatDistinctReserve entries (count + 1) = some grown ∧
      HasRoom grown (count + 1) ∧ occupied grown ≤ count ∧
      ∀ entry, some entry ∈ grown ↔ some entry ∈ entries := by
  rw [groupConcatDistinctReserve]
  split
  · rename_i fits
    rcases holds.room with ⟨empty, -⟩ | room
    · rw [empty] at fits
      exact absurd rfl fits.1
    · exact ⟨entries, rfl, ⟨room.sized, fits.2, room.placed⟩, holds.counted, fun _ => Iff.rfl⟩
  · rename_i full
    have capacity : ∃ exponent, (if entries.length = 0 then groupConcatDistinctInitialCapacity
        else entries.length * 2) = 2 ^ (exponent + 4) ∧
          count + 1 ≤ 2 ^ (exponent + 4) - 2 ^ (exponent + 4) / 4 := by
      rcases holds.room with ⟨rfl, rfl⟩ | room
      · exact ⟨0, rfl, by decide⟩
      · have large := length_ge room.sized
        have fits := room.fits
        obtain ⟨exponent, sized⟩ := room.sized
        have doubled : 2 ^ (exponent + 1 + 4) = entries.length * 2 := by
          rw [sized, ← Nat.pow_succ]
        refine ⟨exponent + 1, ?_, ?_⟩
        · rw [if_neg (by omega), doubled]
        · rw [doubled]
          omega
    obtain ⟨exponent, sized, fits⟩ := capacity
    have large : 16 ≤ 2 ^ (exponent + 4) := by
      rw [Nat.pow_add]
      exact Nat.le_mul_of_pos_left _ (Nat.two_pow_pos exponent)
    have empty : occupied (List.replicate (2 ^ (exponent + 4)) (none : Option DistinctEntry)) =
        0 := by
      simp [occupied, List.countP_replicate]
    have counted := holds.counted
    have space : occupied (List.replicate (2 ^ (exponent + 4)) (none : Option DistinctEntry)) +
        occupied entries < (List.replicate (2 ^ (exponent + 4))
          (none : Option DistinctEntry)).length := by
      rw [empty, List.length_replicate]
      omega
    obtain ⟨stored, done, length, placed, small, members⟩ :=
      (OpenAddressing.placed_replicate entryHash (2 ^ (exponent + 4))).storeAll space
    rw [List.length_replicate] at length
    simp only [sized]
    refine ⟨stored, ?_, ⟨⟨exponent, length⟩, by rw [length]; exact fits, placed⟩, by omega, ?_⟩
    · rw [groupConcatDistinctMove_eq List.length_replicate, done]
    · intro entry
      rw [members]
      simp [List.mem_replicate]

/-- A text is a duplicate exactly when its entry is in the table, and afterwards it is. -/
theorem groupConcatRecordDistinctValue_holds {state : GroupConcatState} {collation : CollationKind}
    (holds : HoldsKeys state.distinctEntries state.distinctCount)
    (sameCollation : state.distinctCollation = none ∨ state.distinctCollation = some collation)
    (text : List UInt8) :
    ∃ entries count duplicate,
      groupConcatRecordDistinctValue state text collation =
        .ok ({ state with
          distinctEntries := entries
          distinctCount := count
          distinctCollation := some collation }, duplicate) ∧
      HoldsKeys entries count ∧
      (duplicate = true ↔ some (distinctEntry collation text) ∈ state.distinctEntries) ∧
      ∀ entry, some entry ∈ entries ↔
        entry = distinctEntry collation text ∨ some entry ∈ state.distinctEntries := by
  obtain ⟨grown, reserved, room, counted, members⟩ := groupConcatDistinctReserve_room holds
  obtain ⟨exponent, sized⟩ := room.sized
  have less := room.lt
  obtain ⟨slot, found, probed, inside, present, placed, added⟩ :=
    room.placed.find (by omega) (distinctEntry collation text)
  rw [distinctEntry, ← groupConcatDistinctSlot_eq sized] at probed
  have accepted : ¬state.distinctCollation.any (fun other => other ≠ collation) := by
    rcases sameCollation with unset | same
    · simp [unset]
    · simp [same]
  rw [groupConcatRecordDistinctValue, if_neg accepted, reserved]
  simp only [probed]
  rw [members] at present
  cases found with
  | true =>
    refine ⟨grown, state.distinctCount, true, rfl, ⟨counted, .inr ⟨room.sized, ?_, room.placed⟩⟩,
      present, fun entry => ?_⟩
    · have fits := room.fits
      omega
    · rw [members]
      constructor
      · exact .inr
      · rintro (rfl | before)
        · exact present.1 rfl
        · exact before
  | false =>
    refine ⟨grown.set slot (some (distinctEntry collation text)), state.distinctCount + 1, false,
      rfl, ⟨?_, .inr ⟨?_, ?_, placed⟩⟩, present, fun entry => ?_⟩
    · have grew := OpenAddressing.occupied_set inside (distinctEntry collation text)
      omega
    · rw [List.length_set]
      exact room.sized
    · rw [List.length_set]
      exact room.fits
    · rw [added, members]

end MyLite.Aggregate
