import Mathlib.Computability.Language

/-! Languages of one-letter words, and what reading such words off the front of a text leaves. -/
namespace Letters
open Computability

variable {α : Type}

/-- The one-letter words whose letter passes a test. -/
def letters (test : α → Bool) : Language α :=
  {word | ∃ letter, test letter = true ∧ word = [letter]}

theorem mem_letters_mul {test : α → Bool} {next : Language α} {word : List α} :
    word ∈ letters test * next ↔
      ∃ letter rest, word = letter :: rest ∧ test letter = true ∧ rest ∈ next := by
  rw [Language.mem_mul]
  constructor
  · rintro ⟨_, ⟨letter, passes, rfl⟩, rest, later, rfl⟩
    exact ⟨letter, rest, rfl, passes, later⟩
  · rintro ⟨letter, rest, rfl, passes, later⟩
    exact ⟨[letter], ⟨letter, passes, rfl⟩, rest, later, rfl⟩

theorem nil_notMem_letters_mul (test : α → Bool) (next : Language α) :
    [] ∉ letters test * next := by
  rw [mem_letters_mul]
  rintro ⟨letter, rest, same, -⟩
  cases same

theorem cons_mem_letters_mul {test : α → Bool} {next : Language α} {letter : α} {rest : List α} :
    letter :: rest ∈ letters test * next ↔ test letter = true ∧ rest ∈ next := by
  rw [mem_letters_mul]
  constructor
  · rintro ⟨_, _, same, passes, later⟩
    cases same
    exact ⟨passes, later⟩
  · rintro ⟨passes, later⟩
    exact ⟨letter, rest, rfl, passes, later⟩

/-- A repetition ends at once or reads one word and goes on. -/
theorem kstar_mul (language next : Language α) :
    language∗ * next = next + language * (language∗ * next) := by
  calc language∗ * next = (1 + language * language∗) * next := by
        rw [Language.one_add_self_mul_kstar_eq_kstar]
    _ = next + language * (language∗ * next) := by
        rw [add_mul, one_mul, mul_assoc]

/-- A repetition of letters takes some part of the longest run. -/
theorem mem_kstar_letters_mul {test : α → Bool} {next : Language α} {word : List α} :
    word ∈ (letters test)∗ * next ↔
      ∃ count ≤ (word.takeWhile test).length, word.drop count ∈ next := by
  induction word with
  | nil =>
    rw [kstar_mul, Language.mem_add]
    simp [nil_notMem_letters_mul]
  | cons letter rest ih =>
    rw [kstar_mul, Language.mem_add, cons_mem_letters_mul, ih, List.takeWhile_cons]
    cases passes : test letter with
    | false => simp
    | true =>
      simp only [true_and, if_true, List.length_cons]
      constructor
      · rintro (now | ⟨count, bounded, later⟩)
        · exact ⟨0, Nat.zero_le _, now⟩
        · exact ⟨count + 1, Nat.succ_le_succ bounded, later⟩
      · rintro ⟨count, bounded, later⟩
        cases count with
        | zero => exact .inl later
        | succ count => exact .inr ⟨count, Nat.le_of_succ_le_succ bounded, later⟩

theorem mem_letters_mul_kstar_mul {test : α → Bool} {next : Language α} {word : List α} :
    word ∈ letters test * (letters test)∗ * next ↔
      ∃ count, 0 < count ∧ count ≤ (word.takeWhile test).length ∧ word.drop count ∈ next := by
  rw [mul_assoc]
  cases word with
  | nil =>
    refine iff_of_false (nil_notMem_letters_mul _ _) ?_
    rintro ⟨count, some, none, -⟩
    exact absurd none (Nat.not_le_of_lt some)
  | cons letter rest =>
    rw [cons_mem_letters_mul, mem_kstar_letters_mul, List.takeWhile_cons]
    constructor
    · rintro ⟨passes, count, bounded, later⟩
      rw [if_pos passes]
      exact ⟨count + 1, Nat.succ_pos _, Nat.succ_le_succ bounded, later⟩
    · rintro ⟨count, some, bounded, later⟩
      obtain ⟨count, rfl⟩ := Nat.exists_eq_succ_of_ne_zero (Nat.ne_of_gt some)
      split at bounded
      · rename_i passes
        exact ⟨passes, count, Nat.le_of_succ_le_succ bounded, later⟩
      · exact absurd bounded (Nat.not_succ_le_zero count)

theorem cons_mem_kstar {test : α → Bool} {letter : α} {rest : List α}
    (passes : test letter = true) (repeated : rest ∈ (letters test)∗) :
    letter :: rest ∈ (letters test)∗ := by
  rw [← Language.one_add_self_mul_kstar_eq_kstar, Language.mem_add, cons_mem_letters_mul]
  exact .inr ⟨passes, repeated⟩

/-- A part of the longest run is a repetition. -/
theorem take_mem_kstar {test : α → Bool} {word : List α} {count : Nat}
    (bounded : count ≤ (word.takeWhile test).length) : word.take count ∈ (letters test)∗ := by
  induction word generalizing count with
  | nil =>
    rw [List.take_nil]
    exact Language.nil_mem_kstar _
  | cons letter rest ih =>
    cases count with
    | zero => exact Language.nil_mem_kstar _
    | succ count =>
      rw [List.takeWhile_cons] at bounded
      split at bounded
      · rename_i passes
        exact cons_mem_kstar passes (ih (Nat.le_of_succ_le_succ bounded))
      · exact absurd bounded (Nat.not_succ_le_zero count)

end Letters
