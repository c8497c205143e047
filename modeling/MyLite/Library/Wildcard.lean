import Mathlib.Tactic.Common

/-! Patterns with a wildcard for any sequence and one for any single element, the words they
match, and why a matcher need only return to its last sequence wildcard. -/

namespace Wildcard

inductive Item (α : Type) where
  | sequence
  | one
  | literal (element : α)
  deriving DecidableEq, Repr

variable {α β : Type}

/-- One item that is no sequence takes one element. -/
def Item.Takes (equal : α → β → Prop) : Item α → β → Prop
  | .sequence, _ => False
  | .one, _ => True
  | .literal element, value => equal element value

inductive Matches (equal : α → β → Prop) : List (Item α) → List β → Prop where
  | nil : Matches equal [] []
  | sequence (front : List β) {rest : List (Item α)} {back : List β} :
      Matches equal rest back → Matches equal (.sequence :: rest) (front ++ back)
  | single {item : Item α} {rest : List (Item α)} {value : β} {others : List β} :
      item.Takes equal value → Matches equal rest others →
      Matches equal (item :: rest) (value :: others)

section Relation

variable {equal : α → β → Prop} {rest : List (Item α)} {word : List β}

theorem matches_sequence_iff :
    Matches equal (.sequence :: rest) word ↔
      ∃ front back, word = front ++ back ∧ Matches equal rest back := by
  constructor
  · intro found
    cases found with
    | sequence front found => exact ⟨front, _, rfl, found⟩
    | single takes => exact takes.elim
  · rintro ⟨front, back, rfl, found⟩
    exact .sequence front found

theorem matches_single_iff {item : Item α} (single : item ≠ .sequence) :
    Matches equal (item :: rest) word ↔
      ∃ value others, word = value :: others ∧ item.Takes equal value ∧ Matches equal rest others := by
  constructor
  · intro found
    cases found with
    | sequence front found => exact absurd rfl single
    | single takes found => exact ⟨_, _, rfl, takes, found⟩
  · rintro ⟨value, others, rfl, takes, found⟩
    exact .single takes found

/-- A sequence wildcard takes more in front as well. -/
theorem sequence_append (front : List β) (found : Matches equal (.sequence :: rest) word) :
    Matches equal (.sequence :: rest) (front ++ word) := by
  obtain ⟨taken, back, rfl, others⟩ := matches_sequence_iff.mp found
  rw [← List.append_assoc]
  exact .sequence _ others

theorem sequence_cons_iff {value : β} :
    Matches equal (.sequence :: rest) (value :: word) ↔
      Matches equal rest (value :: word) ∨ Matches equal (.sequence :: rest) word := by
  constructor
  · intro found
    obtain ⟨front, back, same, others⟩ := matches_sequence_iff.mp found
    cases front with
    | nil =>
      rw [same]
      exact Or.inl others
    | cons first front =>
      cases same
      exact Or.inr (.sequence front others)
  · rintro (found | found)
    · exact .sequence [] found
    · exact sequence_append [value] found

theorem sequence_nil_iff :
    Matches equal (.sequence :: rest) [] ↔ Matches equal rest [] := by
  constructor
  · intro found
    obtain ⟨front, back, same, found⟩ := matches_sequence_iff.mp found
    obtain ⟨rfl, rfl⟩ := List.append_eq_nil_iff.mp same.symm
    exact found
  · exact .sequence []

theorem sequence_sequence_iff :
    Matches equal (.sequence :: .sequence :: rest) word ↔ Matches equal (.sequence :: rest) word := by
  constructor
  · intro found
    obtain ⟨front, back, rfl, others⟩ := matches_sequence_iff.mp found
    exact sequence_append front others
  · exact .sequence []

/-- Items that are no sequence take one element each. -/
theorem singles_append {singles : List (Item α)} (noSequence : .sequence ∉ singles)
    (found : Matches equal (singles ++ rest) word) :
    singles.length ≤ word.length ∧ Matches equal rest (word.drop singles.length) := by
  induction singles generalizing word with
  | nil => exact ⟨Nat.zero_le _, found⟩
  | cons item singles ih =>
    rw [List.mem_cons, not_or] at noSequence
    obtain ⟨value, others, rfl, _, found⟩ :=
      (matches_single_iff (Ne.symm noSequence.1)).mp found
    obtain ⟨shorter, found⟩ := ih noSequence.2 found
    exact ⟨Nat.succ_le_succ shorter, found⟩

/-- Once the next sequence wildcard is reached, starting the one before it later finds no
more. -/
theorem sequence_leftmost {singles : List (Item α)} (noSequence : .sequence ∉ singles)
    {start : List β} {value : β}
    (later : Matches equal (.sequence :: (singles ++ .sequence :: rest)) start) :
    Matches equal (.sequence :: rest) ((value :: start).drop singles.length) := by
  obtain ⟨front, back, rfl, found⟩ := matches_sequence_iff.mp later
  obtain ⟨_, found⟩ := singles_append noSequence found
  have suffix : back.drop singles.length <:+ (value :: (front ++ back)).drop singles.length := by
    have same : back.drop singles.length =
        ((value :: (front ++ back)).drop singles.length).drop (front.length + 1) := by
      rw [List.drop_drop, ← Nat.add_comm (front.length + 1), ← List.drop_drop]
      simp
    rw [same]
    exact List.drop_suffix _ _
  obtain ⟨skipped, same⟩ := suffix
  rw [← same]
  exact sequence_append skipped found

end Relation

/-! What the words of a pattern say about its wildcards. -/

section Words

variable {items : List (Item α)}

/-- A word the pattern matches, with `filler` for each single wildcard. -/
def shortest (filler : α) : List (Item α) → List α
  | [] => []
  | .sequence :: rest => shortest filler rest
  | .one :: rest => filler :: shortest filler rest
  | .literal element :: rest => element :: shortest filler rest

theorem shortest_matches (filler : α) (items : List (Item α)) :
    Matches Eq items (shortest filler items) := by
  induction items with
  | nil => exact .nil
  | cons item rest ih =>
    cases item with
    | sequence => exact .sequence [] ih
    | one => exact .single trivial ih
    | literal element => exact .single rfl ih

/-- No word is shorter. -/
theorem shortest_length_le (filler : α) {word : List α} (found : Matches Eq items word) :
    (shortest filler items).length ≤ word.length := by
  induction found with
  | nil => exact Nat.le_refl _
  | sequence front _ ih =>
    rw [List.length_append]
    exact Nat.le_trans ih (Nat.le_add_left _ _)
  | @single item _ _ _ takes _ ih =>
    cases item with
    | sequence => exact takes.elim
    | one => exact Nat.succ_le_succ ih
    | literal element => exact Nat.succ_le_succ ih

/-- Without single wildcards there is one shortest word. -/
theorem eq_shortest (noOne : .one ∉ items) (filler : α) {word : List α}
    (found : Matches Eq items word) (short : word.length ≤ (shortest filler items).length) :
    word = shortest filler items := by
  induction found with
  | nil => rfl
  | @sequence front _ _ others ih =>
    rw [List.mem_cons, not_or] at noOne
    have atLeast := shortest_length_le filler others
    rw [shortest, List.length_append] at short
    have empty : front = [] := List.length_eq_zero_iff.mp (by omega)
    rw [empty]
    exact ih noOne.2 (by omega)
  | @single item _ _ _ takes _ ih =>
    rw [List.mem_cons, not_or] at noOne
    cases item with
    | sequence => exact takes.elim
    | one => exact absurd rfl noOne.1
    | literal element =>
      exact congrArg₂ List.cons takes.symm (ih noOne.2 (Nat.le_of_succ_le_succ short))

theorem shortest_injective {first second : α} (different : first ≠ second)
    (one : .one ∈ items) : shortest first items ≠ shortest second items := by
  induction items with
  | nil => cases one
  | cons item rest ih =>
    cases item with
    | sequence => exact ih (List.mem_of_ne_of_mem (by exact nofun) one)
    | one => exact fun same => different (List.cons.inj same).1
    | literal element =>
      exact fun same => ih (List.mem_of_ne_of_mem (by exact nofun) one) (List.cons.inj same).2

theorem shortest_length (first second : α) (items : List (Item α)) :
    (shortest first items).length = (shortest second items).length :=
  Nat.le_antisymm (shortest_length_le first (shortest_matches second items))
    (shortest_length_le second (shortest_matches first items))

/-- Two patterns with the same words both have single wildcards, or none has. -/
theorem one_mem_of_same {left right : List (Item α)} {first second : α} (different : first ≠ second)
    (same : ∀ word, Matches Eq left word ↔ Matches Eq right word) (one : .one ∈ left) :
    .one ∈ right := by
  by_contra noOne
  have shorter := shortest_length_le first ((same _).mpr (shortest_matches first right))
  have firstWord := eq_shortest noOne first ((same _).mp (shortest_matches first left)) shorter
  have secondWord := eq_shortest noOne first ((same _).mp (shortest_matches second left))
    (shortest_length first second left ▸ shorter)
  exact shortest_injective different one (firstWord.trans secondWord.symm)

/-- Without sequence wildcards all words have one length. -/
theorem length_eq (noSequence : .sequence ∉ items) {word : List α} (found : Matches Eq items word) :
    word.length = items.length := by
  induction found with
  | nil => rfl
  | sequence front _ ih => exact absurd List.mem_cons_self noSequence
  | single takes _ ih => exact congrArg Nat.succ (ih (mt (List.mem_cons_of_mem _) noSequence))

/-- With one a longer word is matched as well. -/
theorem longer_matches (sequence : .sequence ∈ items) (filler : α) {word : List α}
    (found : Matches Eq items word) :
    ∃ longer : List α, longer.length = word.length + 1 ∧ Matches Eq items longer := by
  induction found with
  | nil => cases sequence
  | sequence front others _ =>
    exact ⟨filler :: (front ++ _), rfl, .sequence (filler :: front) others⟩
  | @single item _ value _ takes _ ih =>
    have inRest := List.mem_of_ne_of_mem (by rintro rfl; exact takes) sequence
    obtain ⟨longer, length, found⟩ := ih inRest
    exact ⟨value :: longer, congrArg Nat.succ length, .single takes found⟩

/-- Two patterns with the same words both have sequence wildcards, or none has. -/
theorem sequence_mem_of_same {left right : List (Item α)} (filler : α)
    (same : ∀ word, Matches Eq left word ↔ Matches Eq right word) (sequence : .sequence ∈ left) :
    .sequence ∈ right := by
  by_contra noSequence
  have word := shortest_matches filler left
  obtain ⟨longer, length, found⟩ := longer_matches sequence filler word
  have shortLength := length_eq noSequence ((same _).mp word)
  have longLength := length_eq noSequence ((same _).mp found)
  omega

end Words

end Wildcard
