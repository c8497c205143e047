import Mathlib.Data.List.Basic
import Mathlib.Data.Nat.Find
import Mathlib.Tactic.Common

/-! Hash tables with open addressing: a key lies in the first slot, from its own slot on and around
the end of the table, that was free when it was stored. -/
namespace OpenAddressing

variable {κ : Type}

/-- Walks from a slot to the first one that is free or holds the key. -/
def probe [DecidableEq κ] (table : List (Option κ)) (key : κ) : Nat → Nat → Option (Nat × Bool)
  | 0, _ => none
  | fuel + 1, slot =>
    match table[slot]? with
    | none => none
    | some none => some (slot, false)
    | some (some other) =>
      if other = key then some (slot, true)
      else probe table key fuel ((slot + 1) % table.length)

/-- Walks from a slot to the first one that is free. -/
def firstFree (table : List (Option κ)) : Nat → Nat → Option Nat
  | 0, _ => none
  | fuel + 1, slot =>
    match table[slot]? with
    | none => none
    | some none => some slot
    | some (some _) => firstFree table fuel ((slot + 1) % table.length)

/-- The slots from one on hold other keys. -/
def Passes (table : List (Option κ)) (key : κ) (slot steps : Nat) : Prop :=
  ∀ step < steps, ∃ other, table[(slot + step) % table.length]? = some (some other) ∧ other ≠ key

variable {table : List (Option κ)} {key : κ}

theorem Passes.probe [DecidableEq κ] {slot steps : Nat} (passes : Passes table key slot steps)
    (fuel : Nat) :
    OpenAddressing.probe table key (steps + fuel) (slot % table.length) =
      OpenAddressing.probe table key fuel ((slot + steps) % table.length) := by
  induction steps generalizing slot with
  | zero => rw [Nat.zero_add, Nat.add_zero]
  | succ steps ih =>
    obtain ⟨other, held, differs⟩ := passes 0 (Nat.succ_pos _)
    have later : Passes table key (slot + 1) steps := by
      intro step less
      rw [Nat.add_assoc, Nat.add_comm 1 step]
      exact passes (step + 1) (by omega)
    rw [Nat.add_zero] at held
    rw [Nat.succ_add, OpenAddressing.probe, held]
    simp only [if_neg differs, Nat.mod_add_mod]
    rw [ih later, Nat.add_assoc, Nat.add_comm 1 steps]

/-- A table without the key is walked to the same slot for it. -/
theorem firstFree_eq_probe [DecidableEq κ] (absent : some key ∉ table) (fuel slot : Nat) :
    firstFree table fuel slot = (probe table key fuel slot).map Prod.fst := by
  induction fuel generalizing slot with
  | zero => rfl
  | succ fuel ih =>
    rw [firstFree, probe]
    cases held : table[slot]? with
    | none => rfl
    | some content =>
      cases content with
      | none => rfl
      | some other =>
        have differs : other ≠ key := by
          rintro rfl
          exact absent (List.mem_of_getElem? held)
        simp only [if_neg differs]
        exact ih _

theorem slot_lt (free : none ∈ table) (slot : Nat) : slot % table.length < table.length :=
  Nat.mod_lt _ (List.length_pos_of_mem free)

/-- Where a table has a free slot, every probe ends before it has seen a slot twice. -/
theorem probe_stops [DecidableEq κ] (free : none ∈ table) (key : κ) (slot : Nat) :
    ∃ steps < table.length, Passes table key slot steps ∧
      ∃ found, probe table key table.length (slot % table.length) =
          some ((slot + steps) % table.length, found) ∧
        table[(slot + steps) % table.length]? = some (if found then some key else none) := by
  classical
  have stops : ∃ steps, table[(slot + steps) % table.length]? = some none ∨
      table[(slot + steps) % table.length]? = some (some key) := by
    obtain ⟨index, inside, same⟩ := List.mem_iff_getElem.1 free
    refine ⟨index + (table.length - slot % table.length), .inl ?_⟩
    have small := slot_lt free slot
    have around : (slot + (index + (table.length - slot % table.length))) % table.length =
        index := by
      have whole : slot + (index + (table.length - slot % table.length)) =
          index + table.length + table.length * (slot / table.length) := by
        have division := Nat.mod_add_div slot table.length
        omega
      rw [whole, Nat.add_mul_mod_self_left, Nat.add_mod_right, Nat.mod_eq_of_lt inside]
    rw [around, List.getElem?_eq_getElem inside, same]
  have passes : Passes table key slot (Nat.find stops) := by
    intro step less
    have goesOn := Nat.find_min stops less
    rw [not_or] at goesOn
    have inside := slot_lt free (slot + step)
    rw [List.getElem?_eq_getElem inside] at goesOn ⊢
    cases held : table[(slot + step) % table.length] with
    | none => exact absurd (congrArg some held) goesOn.1
    | some other =>
      refine ⟨other, rfl, ?_⟩
      rintro rfl
      exact goesOn.2 (congrArg some held)
  have stopped := Nat.find_spec stops
  have bounded : Nat.find stops < table.length := by
    refine Nat.lt_of_not_le fun long => ?_
    -- A walk around the whole table would have met the slot where it stops.
    have again := passes (Nat.find stops % table.length)
      (Nat.lt_of_lt_of_le (slot_lt free _) long)
    rw [Nat.add_mod_mod] at again
    obtain ⟨other, held, differs⟩ := again
    rcases stopped with empty | found
    · rw [empty] at held
      cases held
    · rw [found] at held
      cases held
      exact differs rfl
  refine ⟨Nat.find stops, bounded, passes, ?_⟩
  obtain ⟨fuel, whole⟩ : ∃ fuel, table.length = Nat.find stops + (fuel + 1) :=
    ⟨table.length - Nat.find stops - 1, by omega⟩
  have walked := passes.probe (fuel + 1)
  rw [← whole, probe] at walked
  rcases stopped with empty | found
  · rw [empty] at walked
    exact ⟨false, walked, empty⟩
  · rw [found] at walked
    simp only [if_true] at walked
    exact ⟨true, walked, found⟩

section Placed

variable {hash : κ → Nat}

/-- Every key lies behind slots with other keys, from its own slot on. -/
def Placed (hash : κ → Nat) (table : List (Option κ)) : Prop :=
  ∀ slot key, table[slot]? = some (some key) →
    ∃ steps, Passes table key (hash key) steps ∧ slot = (hash key + steps) % table.length

theorem placed_replicate (hash : κ → Nat) (capacity : Nat) :
    Placed hash (List.replicate capacity none) := by
  intro slot key held
  rw [List.getElem?_replicate] at held
  split at held <;> cases held

/-- A probe that stops at a free slot has not missed the key. -/
theorem Placed.absent (placed : Placed hash table) {steps : Nat}
    (passes : Passes table key (hash key) steps)
    (free : table[(hash key + steps) % table.length]? = some none) : some key ∉ table := by
  intro mem
  obtain ⟨slot, found⟩ := List.getElem?_of_mem mem
  obtain ⟨length, before, rfl⟩ := placed slot key found
  rcases Nat.lt_trichotomy steps length with less | same | greater
  · obtain ⟨other, held, -⟩ := before steps less
    rw [free] at held
    cases held
  · rw [same, found] at free
    cases free
  · obtain ⟨other, held, differs⟩ := passes length greater
    rw [found] at held
    cases held
    exact differs rfl

theorem Passes.set {other : κ} {start steps slot : Nat} (free : table[slot]? = some none)
    (passes : Passes table other start steps) :
    Passes (table.set slot (some key)) other start steps := by
  intro step less
  obtain ⟨between, held, differs⟩ := passes step less
  rw [List.length_set]
  refine ⟨between, ?_, differs⟩
  rw [List.getElem?_set_ne ?_]
  · exact held
  · rintro rfl
    rw [free] at held
    cases held

/-- Storing a key at the free slot where its probe stops keeps every key in its place. -/
theorem Placed.set (placed : Placed hash table) {steps : Nat}
    (passes : Passes table key (hash key) steps)
    (free : table[(hash key + steps) % table.length]? = some none) :
    Placed hash (table.set ((hash key + steps) % table.length) (some key)) := by
  intro slot other held
  by_cases same : (hash key + steps) % table.length = slot
  · subst same
    have inside := (List.getElem?_eq_some_iff.1 free).1
    rw [List.getElem?_set_self inside] at held
    cases held
    exact ⟨steps, passes.set free, by rw [List.length_set]⟩
  · rw [List.getElem?_set_ne same] at held
    obtain ⟨length, before, rfl⟩ := placed slot other held
    exact ⟨length, before.set free, by rw [List.length_set]⟩

/-- The number of slots that are not free. -/
def occupied (table : List (Option κ)) : Nat :=
  table.countP Option.isSome

theorem free_of_occupied (room : occupied table < table.length) : none ∈ table := by
  by_contra full
  refine Nat.ne_of_lt room (List.countP_eq_length.2 fun slot mem => ?_)
  cases slot with
  | none => exact absurd mem full
  | some key => rfl

theorem occupied_set {slot : Nat} (inside : slot < table.length) (key : κ) :
    occupied (table.set slot (some key)) ≤ occupied table + 1 := by
  rw [occupied, occupied, List.countP_set inside]
  simp only [Option.isSome_some, if_true]
  exact Nat.add_le_add_right (Nat.sub_le ..) 1

theorem mem_set_free {slot : Nat} (free : table[slot]? = some none) (other : κ) :
    some other ∈ table.set slot (some key) ↔ other = key ∨ some other ∈ table := by
  have inside := (List.getElem?_eq_some_iff.1 free).1
  constructor
  · intro mem
    rcases List.mem_or_eq_of_mem_set mem with before | same
    · exact .inr before
    · exact .inl (Option.some.inj same)
  · rintro (rfl | before)
    · exact List.mem_of_getElem? (List.getElem?_set_self inside)
    · obtain ⟨index, found⟩ := List.getElem?_of_mem before
      have kept : (table.set slot (some key))[index]? = some (some other) := by
        rw [List.getElem?_set_ne ?_]
        · exact found
        · rintro rfl
          rw [free] at found
          cases found
      exact List.mem_of_getElem? kept

def find [DecidableEq κ] (hash : κ → Nat) (table : List (Option κ)) (key : κ) :
    Option (Nat × Bool) :=
  probe table key table.length (hash key % table.length)

/-- A probe tells whether the table has the key, and stops at the slot for it. -/
theorem Placed.find [DecidableEq κ] (placed : Placed hash table)
    (room : occupied table < table.length) (key : κ) :
    ∃ slot found, OpenAddressing.find hash table key = some (slot, found) ∧
      slot < table.length ∧ (found = true ↔ some key ∈ table) ∧
      Placed hash (table.set slot (some key)) ∧
      ∀ other, some other ∈ table.set slot (some key) ↔ other = key ∨ some other ∈ table := by
  have free := free_of_occupied room
  obtain ⟨steps, -, passes, found, probed, held⟩ := probe_stops free key (hash key)
  refine ⟨_, found, probed, slot_lt free _, ?_⟩
  cases found with
  | false =>
    refine ⟨?_, placed.set passes held, mem_set_free held⟩
    simp only [Bool.false_eq_true, false_iff]
    exact placed.absent passes held
  | true =>
    have mem := List.mem_of_getElem? held
    obtain ⟨inside, same⟩ := List.getElem?_eq_some_iff.1 held
    have unchanged : table.set ((hash key + steps) % table.length) (some key) = table := by
      have written : some key = table[(hash key + steps) % table.length] := same.symm
      rw [written, List.set_getElem_self]
    rw [unchanged]
    refine ⟨iff_of_true rfl mem, placed, fun other => ?_⟩
    constructor
    · exact .inr
    · rintro (rfl | before)
      · exact mem
      · exact before

/-- Stores the keys of one table in another. -/
def storeAll [DecidableEq κ] (hash : κ → Nat) :
    List (Option κ) → List (Option κ) → Option (List (Option κ))
  | [], table => some table
  | none :: rest, table => storeAll hash rest table
  | some key :: rest, table =>
    match OpenAddressing.find hash table key with
    | none => none
    | some (slot, _) => storeAll hash rest (table.set slot (some key))

/-- A larger table takes the keys of another one. -/
theorem Placed.storeAll [DecidableEq κ] (placed : Placed hash table) {source : List (Option κ)}
    (room : occupied table + occupied source < table.length) :
    ∃ stored, OpenAddressing.storeAll hash source table = some stored ∧
      stored.length = table.length ∧ Placed hash stored ∧
      occupied stored ≤ occupied table + occupied source ∧
      ∀ other, some other ∈ stored ↔ some other ∈ source ∨ some other ∈ table := by
  induction source generalizing table with
  | nil => exact ⟨table, rfl, rfl, placed, Nat.le_refl _, fun other => by simp⟩
  | cons slot source ih =>
    cases slot with
    | none =>
      obtain ⟨stored, done, length, kept, count, members⟩ := ih placed room
      refine ⟨stored, done, length, kept, count, fun other => ?_⟩
      rw [members]
      simp
    | some key =>
      have counted : occupied (some key :: source) = occupied source + 1 := by
        simp [occupied]
      rw [counted] at room ⊢
      obtain ⟨slot, found, probed, inside, -, next, added⟩ := placed.find (by omega) key
      have grown := occupied_set inside key
      obtain ⟨stored, done, length, kept, count, members⟩ :=
        ih next (by rw [List.length_set]; omega)
      refine ⟨stored, ?_, ?_, kept, by omega, fun other => ?_⟩
      · rw [OpenAddressing.storeAll, probed]
        exact done
      · rw [length, List.length_set]
      · rw [members, added, List.mem_cons, Option.some.injEq]
        grind

end Placed

end OpenAddressing
