import Mathlib.Logic.Function.Basic
import Mathlib.Algebra.Order.Ring.Nat
import Mathlib.Tactic.Common

/-! Lists taken in blocks of a fixed size. -/

namespace Blockwise

variable {α : Type} {size : Nat}

/-- The first block; what the list does not reach is the default. -/
def first [Inhabited α] (size : Nat) (elements : List α) : Vector α size :=
  Vector.ofFn fun index => elements.getD index.val default

/-- Every block, transformed. -/
def run [Inhabited α] [NeZero size] (transform : Vector α size → Vector α size)
    (elements : List α) : List α :=
  if elements.isEmpty then []
  else (transform (first size elements)).toList ++ run transform (elements.drop size)
termination_by elements.length
decreasing_by
  rename_i some
  have positive := List.length_pos_iff.mpr (List.isEmpty_iff.not.mp some)
  have sized := Nat.pos_of_neZero size
  rw [List.length_drop]
  omega

theorem first_append [Inhabited α] (block : Vector α size) (rest : List α) :
    first size (block.toList ++ rest) = block := by
  apply Vector.ext
  intro index below
  have inside : index < block.toList.length := by rwa [Vector.length_toList]
  rw [first, Vector.getElem_ofFn, List.getD_eq_getElem?_getD, List.getElem?_append_left inside,
    List.getElem?_eq_getElem inside, Option.getD_some, Vector.getElem_toList]

/-- A list of whole blocks is empty or begins with one. -/
theorem split {elements : List α} (whole : size ∣ elements.length) (some : elements ≠ []) :
    ∃ (block : Vector α size) (rest : List α),
      elements = block.toList ++ rest ∧ size ∣ rest.length := by
  have positive := List.length_pos_iff.mpr some
  have enough : size ≤ elements.length := Nat.le_of_dvd positive whole
  have taken : (elements.take size).length = size := List.length_take_of_le enough
  refine ⟨⟨(elements.take size).toArray, taken⟩, elements.drop size, ?_, ?_⟩
  · exact (List.take_append_drop size elements).symm
  · rw [List.length_drop]
    exact Nat.dvd_sub whole (Nat.dvd_refl size)

section Run

variable [Inhabited α] [NeZero size] {transform inverse : Vector α size → Vector α size}

theorem run_append (block : Vector α size) (rest : List α) :
    run transform (block.toList ++ rest) = (transform block).toList ++ run transform rest := by
  have some : block.toList ++ rest ≠ [] := by
    intro empty
    have none := congrArg List.length empty
    have sized := Nat.pos_of_neZero size
    rw [List.length_append, Vector.length_toList, List.length_nil] at none
    omega
  have dropped : (block.toList ++ rest).drop size = rest :=
    List.drop_left' Vector.length_toList
  rw [run, if_neg (List.isEmpty_iff.not.mpr some), first_append, dropped]

omit [Inhabited α] in
/-- Induction over the blocks of a list. -/
theorem induct {motive : List α → Prop} (nil : motive [])
    (append : ∀ (block : Vector α size) rest, motive rest → motive (block.toList ++ rest))
    (elements : List α) (whole : size ∣ elements.length) : motive elements := by
  induction length : elements.length using Nat.strongRecOn generalizing elements with
  | ind count ih =>
    rcases Classical.em (elements = []) with rfl | some
    · exact nil
    · obtain ⟨block, rest, rfl, later⟩ := split whole some
      have sized := Nat.pos_of_neZero size
      rw [List.length_append, Vector.length_toList] at length
      exact append block rest (ih rest.length (by omega) rest later rfl)

theorem run_nil : run transform [] = [] := by
  rw [run, if_pos List.isEmpty_nil]

theorem length_run (elements : List α) (whole : size ∣ elements.length) :
    (run transform elements).length = elements.length := by
  apply induct _ _ elements whole
  · rw [run_nil]
  · intro block rest ih
    rw [run_append, List.length_append, List.length_append, Vector.length_toList,
      Vector.length_toList, ih]

/-- An inverse of the blocks is an inverse of the lists. -/
theorem run_run (undoes : Function.LeftInverse inverse transform) (elements : List α)
    (whole : size ∣ elements.length) : run inverse (run transform elements) = elements := by
  apply induct _ _ elements whole
  · rw [run_nil, run_nil]
  · intro block rest ih
    rw [run_append, run_append, undoes, ih]

end Run

end Blockwise

/-! Rounds undone in the reverse order. -/

namespace Rounds

variable {State View Round : Type} {forward : State → Round → State}
  {backward : View → Round → View} {view : State → View}

/-- Where one round is undone by another on what it views, a run of rounds is undone backwards. -/
theorem undo (undoes : ∀ state round, backward (view (forward state round)) round = view state)
    (rounds : List Round) (state : State) :
    rounds.reverse.foldl backward (view (rounds.foldl forward state)) = view state := by
  induction rounds generalizing state with
  | nil => rfl
  | cons round rest ih =>
    have later := ih (forward state round)
    rw [List.reverse_cons, List.foldl_append, List.foldl_cons, List.foldl_nil]
    exact (congrArg (fun inner => backward inner round) later).trans (undoes state round)

end Rounds
