import Mathlib.Order.Basic

/-! Comparison of two sequences over their shared length, as C's `memcmp` does it, and its relation
to the lexicographic order of lists. -/
namespace Lexicographic

variable {α : Type} [Ord α]

/-- The order of the first two entries that differ, `.eq` when the shared length has none. -/
def sharedOrder : List α → List α → Ordering
  | left :: lefts, right :: rights => (compare left right).then (sharedOrder lefts rights)
  | _, _ => .eq

/-- Breaking ties of the shared length by the sizes is the lexicographic order. -/
theorem sharedOrder_then_length (left right : List α) :
    (sharedOrder left right).then (compare left.length right.length) = compare left right := by
  induction left generalizing right with
  | nil =>
    cases right with
    | nil => rfl
    | cons right rights =>
      simp [sharedOrder, List.compare_nil_cons, Nat.compare_eq_lt]
  | cons left lefts ih =>
    cases right with
    | nil => simp [sharedOrder, List.compare_cons_nil, Nat.compare_eq_gt]
    | cons right rights =>
      have lengths : compare (left :: lefts).length (right :: rights).length =
          compare lefts.length rights.length := by
        simp [Nat.compare_eq_ite_lt]
      rw [sharedOrder, Ordering.then_assoc, lengths, ih, List.compare_cons_cons]

theorem sharedOrder_eq_compare (left right : List α) (sameLength : left.length = right.length) :
    sharedOrder left right = compare left right := by
  rw [← sharedOrder_then_length, sameLength, Std.ReflOrd.compare_self, Ordering.then_eq]

/-- An encoding that keeps the order of the entries keeps the order of the sequences. -/
theorem sharedOrder_map {β : Type} [Ord β] (encode : α → β) {left right : List α}
    (keeps : ∀ first ∈ left, ∀ second ∈ right,
      compare (encode first) (encode second) = compare first second) :
    sharedOrder (left.map encode) (right.map encode) = sharedOrder left right := by
  induction left generalizing right with
  | nil => rfl
  | cons first left ih =>
    cases right with
    | nil => rfl
    | cons second right =>
      rw [List.map_cons, List.map_cons, sharedOrder, sharedOrder,
        keeps first (List.mem_cons_self ..) second (List.mem_cons_self ..),
        ih fun third mem fourth mem' =>
          keeps third (List.mem_cons_of_mem _ mem) fourth (List.mem_cons_of_mem _ mem')]

end Lexicographic
