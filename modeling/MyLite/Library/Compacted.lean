import Mathlib.Data.List.Perm.Basic
import Mathlib.Tactic.Common

/-! Arrays without an order, kept without gaps: a removed row is overwritten by
the last one. -/

namespace Compacted

variable {Row Result : Type*}

def swapRemove (rows : List Row) (index : Nat) : List Row :=
  if index < rows.length then ((rows.getLast?.map (rows.set index ·)).getD rows).dropLast
  else rows

theorem swapRemove_concat_of_lt {front : List Row} {last : Row} {index : Nat}
    (before : index < front.length) :
    swapRemove (front ++ [last]) index = front.set index last := by
  have within : index < (front ++ [last]).length := by
    rw [List.length_append]
    omega
  unfold swapRemove
  rw [if_pos within, List.getLast?_concat, Option.map_some, Option.getD_some,
    List.set_append_left _ _ before, List.dropLast_concat]

theorem swapRemove_concat_length (front : List Row) (last : Row) :
    swapRemove (front ++ [last]) front.length = front := by
  simp [swapRemove]

theorem eq_concat_of_getElem? {rows : List Row} {index : Nat} {row : Row}
    (here : rows[index]? = some row) : ∃ front last, rows = front ++ [last] := by
  rcases List.eq_nil_or_concat rows with rfl | ⟨front, last, rfl⟩
  · cases here
  · exact ⟨front, last, List.concat_eq_append⟩

theorem swapRemove_perm {rows : List Row} {index : Nat} {row : Row}
    (here : rows[index]? = some row) : (row :: swapRemove rows index).Perm rows := by
  obtain ⟨front, last, rfl⟩ := eq_concat_of_getElem? here
  by_cases before : index < front.length
  · rw [List.getElem?_append_left before] at here
    obtain ⟨_, same⟩ := List.getElem?_eq_some_iff.mp here
    rw [swapRemove_concat_of_lt before]
    calc
      (row :: front.set index last).Perm (row :: last :: front.eraseIdx index) :=
        (List.set_perm_cons_eraseIdx before last).cons row
      _ |>.Perm (last :: row :: front.eraseIdx index) := List.Perm.swap _ _ _
      _ |>.Perm (last :: front) := by
        rw [← same]
        exact (List.getElem_cons_eraseIdx_perm before).cons last
      _ |>.Perm (front ++ [last]) := (List.perm_append_singleton last front).symm
  · have length := (List.getElem?_eq_some_iff.mp here).1
    have atEnd : index = front.length := by
      rw [List.length_append] at length
      simp at length
      omega
    subst atEnd
    have same : row = last := by simpa using here.symm
    rw [swapRemove_concat_length, same]
    exact (List.perm_append_singleton last front).symm

theorem length_swapRemove {rows : List Row} {index : Nat} {row : Row}
    (here : rows[index]? = some row) : (swapRemove rows index).length + 1 = rows.length :=
  (swapRemove_perm here).length_eq

theorem take_swapRemove {rows : List Row} {index : Nat} {row : Row}
    (here : rows[index]? = some row) : (swapRemove rows index).take index = rows.take index := by
  obtain ⟨front, last, rfl⟩ := eq_concat_of_getElem? here
  have length := (List.getElem?_eq_some_iff.mp here).1
  rw [List.length_append, List.length_singleton] at length
  by_cases before : index < front.length
  · rw [swapRemove_concat_of_lt before, List.take_set_of_le (Nat.le_refl index),
      List.take_append_of_le_length (Nat.le_of_lt before)]
  · have atEnd : index = front.length := by omega
    subst atEnd
    rw [swapRemove_concat_length, List.take_left, List.take_length]

/-- The loop that removes every row of a kind, and what it collects of them. -/
def sweep (remove : Row → Bool) (collect : Result → Row → Result) (rows : List Row)
    (index : Nat) (result : Result) : List Row × Result :=
  match _h : rows[index]? with
  | none => (rows, result)
  | some row =>
    if remove row then sweep remove collect (swapRemove rows index) index (collect result row)
    else sweep remove collect rows (index + 1) result
termination_by rows.length - index
decreasing_by
  · have length := length_swapRemove (by assumption)
    have within := (List.getElem?_eq_some_iff.mp (by assumption)).1
    omega
  · have within := (List.getElem?_eq_some_iff.mp (by assumption)).1
    omega

/-- The rows before the index have been seen and kept; the loop takes the others
in some order. -/
theorem sweep_spec (remove : Row → Bool) (collect : Result → Row → Result) (rows : List Row)
    (index : Nat) (result : Result) (kept : ∀ row ∈ rows.take index, remove row = false) :
    ∃ removed : List Row, removed.Perm (rows.filter remove) ∧
      (sweep remove collect rows index result).2 = removed.foldl collect result ∧
      (sweep remove collect rows index result).1.Perm (rows.filter fun row => !remove row) := by
  fun_induction sweep remove collect rows index result with
  | case1 rows index result past =>
    rw [List.take_of_length_le (List.getElem?_eq_none_iff.mp past)] at kept
    have none : rows.filter remove = [] := by
      rw [List.filter_eq_nil_iff]
      intro row member
      simp [kept row member]
    have all : rows.filter (fun row => !remove row) = rows := by
      rw [List.filter_eq_self]
      intro row member
      simp [kept row member]
    rw [none, all]
    exact ⟨[], List.Perm.refl _, rfl, List.Perm.refl _⟩
  | case2 rows index result row here matched ih =>
    obtain ⟨removed, taken, collected, left⟩ := ih (by
      rw [take_swapRemove here]
      exact kept)
    have same := swapRemove_perm here
    refine ⟨row :: removed, ?_, collected, ?_⟩
    · have filtered := same.filter remove
      rw [List.filter_cons_of_pos matched] at filtered
      exact (taken.cons row).trans filtered
    · have filtered := same.filter fun row => !remove row
      rw [List.filter_cons_of_neg (by simp [matched])] at filtered
      exact left.trans filtered
  | case3 rows index result row here kind ih =>
    apply ih
    intro seen member
    rw [List.take_add_one, here, Option.toList_some, List.mem_append,
      List.mem_singleton] at member
    rcases member with earlier | rfl
    · exact kept seen earlier
    · simpa using kind

end Compacted
