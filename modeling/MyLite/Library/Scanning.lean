import Mathlib.Data.List.TakeWhile

/-! A scanner that takes the longest run of elements passing a test. -/
namespace Scanning

variable {α : Type}

/-- A run of elements passing the test stops in front of `rest`. -/
def EndsRun (test : α → Bool) (rest : List α) : Prop :=
  ∀ value ∈ rest.head?, test value = false

theorem endsRun_nil (test : α → Bool) : EndsRun test [] := nofun

theorem endsRun_cons {test : α → Bool} {value : α} (rest : List α) (other : test value = false) :
    EndsRun test (value :: rest) := by
  intro found mem
  cases mem
  exact other

theorem endsRun_dropWhile (test : α → Bool) (input : List α) :
    EndsRun test (input.dropWhile test) := by
  intro value mem
  rw [Option.mem_def] at mem
  have first := List.head?_dropWhile_not test input
  rw [mem] at first
  simpa using first

/-- The run is what it was before the text that ends it was exchanged. -/
theorem run_append {test : α → Bool} {run rest : List α} (all : ∀ value ∈ run, test value = true)
    (ends : EndsRun test rest) :
    (run ++ rest).takeWhile test = run ∧ (run ++ rest).dropWhile test = rest := by
  rw [List.takeWhile_append_of_pos all, List.dropWhile_append_of_pos all]
  cases rest with
  | nil => simp
  | cons value tail =>
    have other : test value = false := ends value rfl
    simp [other]

end Scanning

/-! A cursor that moves over a list, and the tiling of the list by the pieces it takes. -/
namespace Cursor

variable {Symbol : Type}

/-- The first position from the cursor on whose symbol is not accepted. -/
def skipWhile (accepts : Symbol → Bool) (input : List Symbol) (cursor : Nat) : Nat :=
  cursor + ((input.drop cursor).takeWhile accepts).length

theorem le_skipWhile (accepts : Symbol → Bool) (input : List Symbol) (cursor : Nat) :
    cursor ≤ skipWhile accepts input cursor :=
  Nat.le_add_right ..

theorem skipWhile_le (accepts : Symbol → Bool) {input : List Symbol} {cursor : Nat}
    (inside : cursor ≤ input.length) : skipWhile accepts input cursor ≤ input.length := by
  have taken := List.takeWhile_sublist accepts (l := input.drop cursor) |>.length_le
  rw [List.length_drop] at taken
  unfold skipWhile
  omega

theorem lt_skipWhile {accepts : Symbol → Bool} {input : List Symbol} {cursor : Nat}
    {symbol : Symbol} (here : input[cursor]? = some symbol) (accepted : accepts symbol = true) :
    cursor < skipWhile accepts input cursor := by
  have head : input.drop cursor = symbol :: input.drop (cursor + 1) := by
    obtain ⟨inside, rfl⟩ := List.getElem?_eq_some_iff.mp here
    exact List.drop_eq_getElem_cons inside
  rw [skipWhile, head, List.takeWhile_cons_of_pos accepted, List.length_cons]
  omega

/-- The symbol a cursor stands at, and what is behind it. -/
theorem drop_cons {input rest : List Symbol} {cursor : Nat} {symbol : Symbol}
    (ahead : input.drop cursor = symbol :: rest) :
    input[cursor]? = some symbol ∧ input.drop (cursor + 1) = rest ∧
      input.length = cursor + 1 + rest.length := by
  have inside : cursor < input.length := by
    by_contra outside
    rw [List.drop_eq_nil_of_le (Nat.le_of_not_lt outside)] at ahead
    cases ahead
  have length := congrArg List.length ahead
  rw [List.length_drop, List.length_cons] at length
  rw [List.drop_eq_getElem_cons inside] at ahead
  obtain ⟨here, following⟩ := List.cons.inj ahead
  refine ⟨?_, following, by omega⟩
  rw [List.getElem?_eq_getElem inside, here]

/-- What is skipped is accepted. -/
theorem extract_skipWhile (accepts : Symbol → Bool) (input : List Symbol) (cursor : Nat) :
    input.extract cursor (skipWhile accepts input cursor) =
      (input.drop cursor).takeWhile accepts := by
  rw [List.extract_eq_take_drop, skipWhile, Nat.add_sub_cancel_left]
  exact (List.prefix_iff_eq_take.mp (List.takeWhile_prefix accepts)).symm

theorem extract_append_extract (input : List Symbol) {first second third : Nat}
    (below : first ≤ second) (above : second ≤ third) :
    input.extract first second ++ input.extract second third = input.extract first third := by
  rw [List.extract_eq_take_drop, List.extract_eq_take_drop, List.extract_eq_take_drop]
  have apart : third - first = (second - first) + (third - second) := by omega
  have rest : input.drop second = (input.drop first).drop (second - first) := by
    rw [List.drop_drop, Nat.add_sub_cancel' below]
  rw [apart, List.take_add, rest]

/-- A piece of the input that was taken, with its text. -/
structure Piece (Symbol : Type) where
  offset : Nat
  length : Nat
  text : List Symbol

/-- From `position` on, the pieces are not empty, lie in the input one behind the other, and
take all of it but skipped symbols. -/
def Tiles (skipped : Symbol → Bool) (input : List Symbol) : Nat → List (Piece Symbol) → Prop
  | position, [] => ∀ symbol ∈ input.drop position, skipped symbol = true
  | position, piece :: pieces =>
    position ≤ piece.offset ∧ 0 < piece.length ∧ piece.offset + piece.length ≤ input.length ∧
      piece.text = input.extract piece.offset (piece.offset + piece.length) ∧
      (∀ symbol ∈ input.extract position piece.offset, skipped symbol = true) ∧
      Tiles skipped input (piece.offset + piece.length) pieces

/-- What was skipped and the texts of the pieces in order. -/
def reassemble (input : List Symbol) : Nat → List (Piece Symbol) → List Symbol
  | position, [] => input.drop position
  | position, piece :: pieces =>
    input.extract position piece.offset ++
      (piece.text ++ reassemble input (piece.offset + piece.length) pieces)

theorem Tiles.reassemble_eq {skipped : Symbol → Bool} {input : List Symbol}
    {pieces : List (Piece Symbol)} {position : Nat}
    (tiles : Tiles skipped input position pieces) :
    reassemble input position pieces = input.drop position := by
  induction pieces generalizing position with
  | nil => rfl
  | cons piece pieces ih =>
    obtain ⟨below, _, inside, text, _, rest⟩ := tiles
    rw [reassemble, ih rest, text, ← List.append_assoc,
      extract_append_extract input below (Nat.le_add_right ..), List.extract_eq_take_drop]
    have tail : input.drop (piece.offset + piece.length) =
        (input.drop position).drop (piece.offset + piece.length - position) := by
      rw [List.drop_drop]
      congr 1
      omega
    rw [tail, List.take_append_drop]

end Cursor
