import Mathlib.Tactic.Common

/-! Binary search in a half-open range of positions, by how what is looked for compares with
each. -/

namespace BinarySearch

def search (compare : Nat → Ordering) (low high : Nat) : Option Nat :=
  if low < high then
    let middle := low + (high - low) / 2
    match compare middle with
    | .eq => some middle
    | .lt => search compare low middle
    | .gt => search compare (middle + 1) high
  else none
  termination_by high - low

/-- What is not after a position is before all later ones. -/
def Ascending (compare : Nat → Ordering) (low high : Nat) : Prop :=
  ∀ first second, low ≤ first → first < second → second < high →
    compare first ≠ .gt → compare second = .lt

variable {compare : Nat → Ordering} {low high : Nat}

theorem Ascending.narrow (ascending : Ascending compare low high) {left right : Nat}
    (above : low ≤ left) (below : right ≤ high) : Ascending compare left right :=
  fun first second inside before after =>
    ascending first second (Nat.le_trans above inside) before (Nat.lt_of_lt_of_le after below)

/-- What the search finds is in the range and equal. -/
theorem search_sound {found : Nat} (result : search compare low high = some found) :
    low ≤ found ∧ found < high ∧ compare found = .eq := by
  fun_induction search compare low high with
  | case1 low high inside middle same =>
    rw [← Option.some.inj result]
    exact ⟨by omega, by omega, same⟩
  | case2 low high inside middle before ih =>
    obtain ⟨above, below, equal⟩ := ih result
    exact ⟨above, by omega, equal⟩
  | case3 low high inside middle after ih =>
    obtain ⟨above, below, equal⟩ := ih result
    exact ⟨by omega, below, equal⟩
  | case4 low high outside => cases result

/-- An equal position of an ascending range is found. -/
theorem search_complete (ascending : Ascending compare low high) {position : Nat}
    (above : low ≤ position) (below : position < high) (equal : compare position = .eq) :
    search compare low high = some position := by
  fun_induction search compare low high with
  | case1 low high inside middle same =>
    rcases Nat.lt_trichotomy middle position with less | rfl | greater
    · have later := ascending middle position (by omega) less below (by rw [same]; decide)
      rw [equal] at later
      cases later
    · rfl
    · have later := ascending position middle above greater (by omega) (by rw [equal]; decide)
      rw [same] at later
      cases later
  | case2 low high inside middle before ih =>
    have inFront : position < middle := by
      by_contra behind
      rcases Nat.lt_or_eq_of_le (Nat.le_of_not_lt behind) with less | rfl
      · have later := ascending middle position (by omega) less below (by rw [before]; decide)
        rw [equal] at later
        cases later
      · rw [before] at equal
        cases equal
    exact ih (ascending.narrow (Nat.le_refl _) (by omega)) above inFront
  | case3 low high inside middle after ih =>
    have behind : middle + 1 ≤ position := by
      by_contra inFront
      rcases Nat.lt_or_eq_of_le (Nat.le_of_lt_succ (Nat.lt_of_not_le inFront)) with less | rfl
      · have later := ascending position middle above less (by omega) (by rw [equal]; decide)
        rw [after] at later
        cases later
      · rw [after] at equal
        cases equal
    exact ih (ascending.narrow (by omega) (Nat.le_refl _)) behind below
  | case4 low high outside => omega

end BinarySearch
