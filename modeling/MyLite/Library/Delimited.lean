import Mathlib.Data.List.Basic

/-! Words that an automaton reads from its start back to its start, joined by a separator the
start refuses: the text determines the words. -/
namespace Delimited

variable {State Symbol : Type} {step : State → Symbol → Option State} {start : State}
  {separator : Symbol}

/-- A word the automaton reads from one state to another. -/
def Reads (step : State → Symbol → Option State) (before : State) (word : List Symbol)
    (after : State) : Prop :=
  word.foldlM step before = some after

theorem Reads.append {before middle after : State} {first second : List Symbol}
    (earlier : Reads step before first middle) (later : Reads step middle second after) :
    Reads step before (first ++ second) after := by
  unfold Reads at *
  rw [List.foldlM_append, earlier]
  exact later

theorem reads_nil (state : State) : Reads step state [] state := rfl

theorem reads_singleton {before after : State} {symbol : Symbol}
    (moves : step before symbol = some after) : Reads step before [symbol] after := by
  unfold Reads
  rw [List.foldlM_cons, moves]
  rfl

theorem Reads.cons {before middle after : State} {symbol : Symbol} {word : List Symbol}
    (moves : step before symbol = some middle) (later : Reads step middle word after) :
    Reads step before (symbol :: word) after :=
  (reads_singleton moves).append later

/-- A word of symbols that each leave the automaton where it is. -/
theorem reads_of_all {state : State} {word : List Symbol}
    (stays : ∀ symbol ∈ word, step state symbol = some state) : Reads step state word state := by
  induction word with
  | nil => exact reads_nil state
  | cons symbol word ih =>
    exact .cons (stays symbol (List.mem_cons_self ..))
      (ih fun other member => stays other (List.mem_cons_of_mem _ member))

/-- No word reads on past a separator. -/
theorem not_reads_separated (refused : step start separator = none) {word rest : List Symbol}
    {after : State} (reads : Reads step start word start) :
    ¬Reads step start (word ++ separator :: rest) after := by
  intro longer
  unfold Reads at *
  rw [List.foldlM_append, reads] at longer
  change (separator :: rest).foldlM step start = some after at longer
  rw [List.foldlM_cons, refused] at longer
  cases longer

/-- The text of words that each follow a separator. -/
def joined (separator : Symbol) (words : List (List Symbol)) : List Symbol :=
  words.flatMap (separator :: ·)

theorem joined_cases (separator : Symbol) (words : List (List Symbol)) :
    joined separator words = [] ∨ ∃ rest, joined separator words = separator :: rest := by
  cases words with
  | nil => exact .inl rfl
  | cons word words => exact .inr ⟨word ++ joined separator words, by simp [joined]⟩

/-- A word that is followed by a separator or by nothing ends where another does. -/
theorem word_unique (refused : step start separator = none) {first second : List Symbol}
    (firstReads : Reads step start first start) (secondReads : Reads step start second start)
    {firstWords secondWords : List (List Symbol)}
    (same : first ++ joined separator firstWords = second ++ joined separator secondWords) :
    first = second ∧ joined separator firstWords = joined separator secondWords := by
  rcases List.append_eq_append_iff.mp same with ⟨more, longer, rest⟩ | ⟨more, longer, rest⟩
  · cases more with
    | nil => exact ⟨by rw [longer, List.append_nil], by rw [rest, List.nil_append]⟩
    | cons symbol more =>
      rcases joined_cases separator firstWords with none | ⟨tail, some⟩
      · rw [none] at rest
        cases rest
      · rw [some] at rest
        obtain ⟨rfl, _⟩ := List.cons.inj rest
        rw [longer] at secondReads
        exact absurd secondReads (not_reads_separated refused firstReads)
  · cases more with
    | nil => exact ⟨by rw [longer, List.append_nil], by rw [rest, List.nil_append]⟩
    | cons symbol more =>
      rcases joined_cases separator secondWords with none | ⟨tail, some⟩
      · rw [none] at rest
        cases rest
      · rw [some] at rest
        obtain ⟨rfl, _⟩ := List.cons.inj rest
        rw [longer] at firstReads
        exact absurd firstReads (not_reads_separated refused secondReads)

theorem joined_injective (refused : step start separator = none)
    {first second : List (List Symbol)} (firstReads : ∀ word ∈ first, Reads step start word start)
    (secondReads : ∀ word ∈ second, Reads step start word start)
    (same : joined separator first = joined separator second) : first = second := by
  induction first generalizing second with
  | nil =>
    cases second with
    | nil => rfl
    | cons word second => cases same
  | cons word first ih =>
    cases second with
    | nil => cases same
    | cons word' second =>
      obtain ⟨sameWord, sameRest⟩ := word_unique refused
        (firstReads word (List.mem_cons_self ..)) (secondReads word' (List.mem_cons_self ..))
        (List.cons.inj same).2
      rw [sameWord, ih (fun other member => firstReads other (List.mem_cons_of_mem _ member))
        (fun other member => secondReads other (List.mem_cons_of_mem _ member)) sameRest]

end Delimited
