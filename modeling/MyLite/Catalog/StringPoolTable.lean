import Mathlib.Data.List.Nodup
import MyLite.Catalog.StringPool

/-! The hash table of a generation: which entries it has, that they are found, and that a new one
or a larger table loses none. -/

namespace MyLite.StringPool

section Contents

variable {slots : List (Option Entry)}

def entries (slots : List (Option Entry)) : List Entry := slots.filterMap id

def texts (slots : List (Option Entry)) : List (Option Bytes) := slots.map (Option.map Entry.text)

def textHash (text : Bytes) : Nat := (catalogStringHash text).toNat

theorem mem_entries {entry : Entry} : entry ∈ entries slots ↔ some entry ∈ slots := by
  rw [entries, List.mem_filterMap]
  constructor
  · rintro ⟨slot, member, rfl⟩
    exact member
  · intro member
    exact ⟨some entry, member, rfl⟩

theorem texts_length : (texts slots).length = slots.length := List.length_map _

theorem mem_texts {text : Bytes} : some text ∈ texts slots ↔ ∃ entry ∈ entries slots,
    entry.text = text := by
  rw [texts, List.mem_map]
  constructor
  · rintro ⟨slot, member, same⟩
    obtain ⟨entry, rfl, rfl⟩ := Option.map_eq_some_iff.mp same
    exact ⟨entry, mem_entries.mpr member, rfl⟩
  · rintro ⟨entry, member, rfl⟩
    exact ⟨some entry, mem_entries.mp member, rfl⟩

theorem occupied_texts : OpenAddressing.occupied (texts slots) = (entries slots).length := by
  induction slots with
  | nil => rfl
  | cons slot slots ih =>
    rw [OpenAddressing.occupied] at ih ⊢
    cases slot with
    | none => exact ih
    | some entry =>
      have more : entries (some entry :: slots) = entry :: entries slots := rfl
      rw [more, List.length_cons, ← ih, texts, List.map_cons, List.countP_cons]
      rfl

theorem firstFree_texts (fuel index : Nat) :
    OpenAddressing.firstFree (texts slots) fuel index =
      OpenAddressing.firstFree slots fuel index := by
  induction fuel generalizing index with
  | zero => rfl
  | succ fuel ih =>
    have read : (texts slots)[index]? = slots[index]?.map (Option.map Entry.text) :=
      List.getElem?_map ..
    rw [OpenAddressing.firstFree, OpenAddressing.firstFree, read]
    cases slots[index]? with
    | none => rfl
    | some slot =>
      cases slot with
      | none => rfl
      | some entry =>
        rw [texts_length]
        exact ih _

theorem free_slot (room : (entries slots).length < slots.length) : none ∈ texts slots := by
  apply OpenAddressing.free_of_occupied
  rwa [occupied_texts, texts_length]

/-- A free slot that is written adds an entry. -/
theorem entries_set {index : Nat} (free : slots[index]? = some none) (entry : Entry) :
    (entries (slots.set index (some entry))).Perm (entry :: entries slots) := by
  induction slots generalizing index with
  | nil => cases free
  | cons slot slots ih =>
    cases index with
    | zero =>
      obtain rfl := Option.some.inj free
      exact .refl _
    | succ index =>
      have later := @ih index free
      cases slot with
      | none => exact later
      | some first => exact (later.cons first).trans (.swap entry first (entries slots))

end Contents

/-- The entries lie where they are looked for, with the hashes and without two of one text. -/
structure Stored (slots : List (Option Entry)) : Prop where
  placed : OpenAddressing.Placed textHash (texts slots)
  hashed : ∀ entry ∈ entries slots, entry.hash = catalogStringHash entry.text
  distinct : ((entries slots).map Entry.text).Nodup

section Lookup

variable {slots : List (Option Entry)}

theorem Entry.isText_iff {entry : Entry} (hashed : entry.hash = catalogStringHash entry.text)
    (text : Bytes) : entry.isText text (catalogStringHash text) = true ↔ entry.text = text := by
  rw [Entry.isText, Bool.and_eq_true, Bool.and_eq_true, decide_eq_true_iff, decide_eq_true_iff,
    decide_eq_true_iff]
  constructor
  · exact fun same => same.2.2
  · rintro rfl
    exact ⟨hashed, rfl, rfl⟩

/-- The search is the walk of the table of texts. -/
theorem findEntryFrom_eq
    (hashed : ∀ entry ∈ entries slots, entry.hash = catalogStringHash entry.text) (text : Bytes)
    (fuel index : Nat) :
    findEntryFrom slots text (catalogStringHash text) fuel index =
      (OpenAddressing.probe (texts slots) text fuel index).bind fun stop => slots[stop.1]? := by
  induction fuel generalizing index with
  | zero => rfl
  | succ fuel ih =>
    have read : (texts slots)[index]? = slots[index]?.map (Option.map Entry.text) :=
      List.getElem?_map ..
    rw [findEntryFrom, OpenAddressing.probe, read]
    cases held : slots[index]? with
    | none => rfl
    | some slot =>
      cases slot with
      | none => exact held.symm
      | some entry =>
        have isText := Entry.isText_iff
          (hashed entry (mem_entries.mpr (List.mem_of_getElem? held))) text
        dsimp only [Option.map_some]
        by_cases same : entry.text = text
        · rw [if_pos (isText.mpr same), if_pos same]
          exact held.symm
        · rw [if_neg (fun holds => same (isText.mp holds)), if_neg same, texts_length]
          exact ih _

/-- Where the table has room the search ends, with the entry of the text if there is one. -/
theorem Stored.find (stored : Stored slots) (room : (entries slots).length < slots.length)
    (text : Bytes) :
    ∃ found, findEntryFrom slots text (catalogStringHash text) slots.length
        ((catalogStringHash text).toNat % slots.length) = some found ∧
      (∀ entry, found = some entry → entry ∈ entries slots ∧ entry.text = text) ∧
      (found = none → ∀ entry ∈ entries slots, entry.text ≠ text) := by
  obtain ⟨steps, _, passes, present, probed, held⟩ :=
    OpenAddressing.probe_stops (free_slot room) text (textHash text)
  rw [texts_length] at probed held
  have read := List.getElem?_map (f := Option.map Entry.text) (l := slots)
    (i := (textHash text + steps) % slots.length)
  rw [← texts, held] at read
  obtain ⟨slot, there, content⟩ := Option.map_eq_some_iff.mp read.symm
  refine ⟨slot, ?_, ?_, ?_⟩
  · rw [findEntryFrom_eq stored.hashed]
    have walked : OpenAddressing.probe (texts slots) text slots.length
        ((catalogStringHash text).toNat % slots.length) =
          some ((textHash text + steps) % slots.length, present) := probed
    rw [walked]
    exact there
  · rintro entry rfl
    refine ⟨mem_entries.mpr (List.mem_of_getElem? there), ?_⟩
    cases present with
    | true => exact Option.some.inj content
    | false => cases content
  · rintro rfl entry member same
    cases present with
    | true => cases content
    | false =>
      refine stored.placed.absent passes ?_ (mem_texts.mpr ⟨entry, member, same⟩)
      rwa [texts_length]

end Lookup

section Insertion

variable {slots : List (Option Entry)}

theorem stored_replicate (capacity : Nat) : Stored (List.replicate capacity none) := by
  have empty : entries (List.replicate capacity none) = [] := by
    rw [entries, List.filterMap_eq_nil_iff]
    intro slot member
    exact List.eq_of_mem_replicate member
  refine ⟨?_, ?_, ?_⟩
  · rw [texts, List.map_replicate]
    exact OpenAddressing.placed_replicate textHash capacity
  · rw [empty]
    exact fun entry member => absurd member List.not_mem_nil
  · rw [empty]
    exact List.nodup_nil

/-- An entry with a text that the table does not have finds a slot. -/
theorem Stored.insert (stored : Stored slots) (room : (entries slots).length < slots.length)
    {entry : Entry} (hashed : entry.hash = catalogStringHash entry.text)
    (new : ∀ other ∈ entries slots, other.text ≠ entry.text) :
    ∃ next, insertCatalogStringEntry slots entry = some next ∧ next.length = slots.length ∧
      Stored next ∧ (entries next).Perm (entry :: entries slots) := by
  have absent : some entry.text ∉ texts slots := by
    intro member
    obtain ⟨other, there, same⟩ := mem_texts.mp member
    exact new other there same
  obtain ⟨steps, _, passes, present, probed, held⟩ :=
    OpenAddressing.probe_stops (free_slot room) entry.text (textHash entry.text)
  have free : present = false := by
    cases present with
    | true => exact absurd (List.mem_of_getElem? held) absent
    | false => rfl
  subst free
  have empty : slots[(textHash entry.text + steps) % (texts slots).length]? = some none := by
    have read := List.getElem?_map (f := Option.map Entry.text) (l := slots)
      (i := (textHash entry.text + steps) % (texts slots).length)
    rw [← texts, held] at read
    obtain ⟨slot, there, content⟩ := Option.map_eq_some_iff.mp read.symm
    rw [there, Option.map_eq_none_iff.mp content]
  have walked : OpenAddressing.firstFree slots slots.length
      (entry.hash.toNat % slots.length) =
        some ((textHash entry.text + steps) % (texts slots).length) := by
    rw [hashed, ← firstFree_texts, OpenAddressing.firstFree_eq_probe absent, ← texts_length]
    exact congrArg (Option.map Prod.fst) probed
  refine ⟨_, by rw [insertCatalogStringEntry, walked, Option.map_some], List.length_set, ?_,
    entries_set empty entry⟩
  have members := entries_set empty entry
  refine ⟨?_, ?_, ?_⟩
  · rw [texts, List.map_set]
    exact stored.placed.set passes held
  · intro other member
    rcases List.mem_cons.mp (members.mem_iff.mp member) with rfl | old
    · exact hashed
    · exact stored.hashed other old
  · rw [(members.map Entry.text).nodup_iff, List.map_cons, List.nodup_cons]
    refine ⟨?_, stored.distinct⟩
    intro member
    obtain ⟨other, there, same⟩ := List.mem_map.mp member
    exact new other there same

/-- A larger table takes the entries of another one. -/
theorem Stored.insertEntries (stored : Stored slots) {source : List (Option Entry)}
    (room : (entries source).length + (entries slots).length < slots.length)
    (hashed : ∀ entry ∈ entries source, entry.hash = catalogStringHash entry.text)
    (distinct : ((entries source ++ entries slots).map Entry.text).Nodup) :
    ∃ next, StringPool.insertEntries source slots = some next ∧ next.length = slots.length ∧
      Stored next ∧ (entries next).Perm (entries source ++ entries slots) := by
  induction source generalizing slots with
  | nil => exact ⟨slots, rfl, rfl, stored, .refl _⟩
  | cons slot source ih =>
    cases slot with
    | none => exact ih stored room hashed distinct
    | some entry =>
      have more : entries (some entry :: source) = entry :: entries source := rfl
      rw [more] at room hashed distinct ⊢
      rw [List.length_cons] at room
      rw [List.cons_append, List.map_cons, List.nodup_cons] at distinct
      obtain ⟨first, inserted, length, kept, members⟩ := stored.insert (by omega)
        (hashed entry List.mem_cons_self) (by
          intro other member same
          exact distinct.1 (List.mem_map.mpr ⟨other, List.mem_append_right _ member, same⟩))
      have arranged : (entries source ++ entries first).Perm
          (entry :: entries source ++ entries slots) :=
        (members.append_left (entries source)).trans List.perm_middle
      obtain ⟨next, done, nextLength, stays, nextMembers⟩ := ih kept
        (by rw [members.length_eq, length, List.length_cons]; omega)
        (fun other member => hashed other (List.mem_cons_of_mem entry member))
        (by
          rw [(arranged.map Entry.text).nodup_iff, List.cons_append, List.map_cons,
            List.nodup_cons]
          exact distinct)
      refine ⟨next, ?_, nextLength.trans length, stays, nextMembers.trans arranged⟩
      rw [StringPool.insertEntries, inserted, Option.bind_some, done]

end Insertion

end MyLite.StringPool
