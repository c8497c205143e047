import Mathlib.Data.List.Basic
import Mathlib.Tactic.Common

/-! Lists broken into lines: a separator before the item that would not fit the line, so
none at the end. -/
namespace Wrapped

variable {α : Type}

/-- The items with their separators, from a column on. -/
def wrapFrom (width : Nat) (separator : α) : Nat → List α → List α
  | _, [] => []
  | column, item :: rest =>
    if column = width then separator :: item :: wrapFrom width separator 1 rest
    else item :: wrapFrom width separator (column + 1) rest

variable {width : Nat} {separator : α}

theorem wrapFrom_break (item : α) (rest : List α) :
    wrapFrom width separator width (item :: rest) =
      separator :: item :: wrapFrom width separator 1 rest := by
  rw [wrapFrom, if_pos rfl]

theorem wrapFrom_next {column : Nat} (fits : column ≠ width) (item : α) (rest : List α) :
    wrapFrom width separator column (item :: rest) =
      item :: wrapFrom width separator (column + 1) rest := by
  rw [wrapFrom, if_neg fits]

theorem length_wrapFrom (positive : 0 < width) (column : Nat) (items : List α)
    (inside : column ≤ width) :
    (wrapFrom width separator column items).length =
      items.length + (column + items.length - 1) / width := by
  induction items generalizing column with
  | nil =>
    have none_yet : (column - 1) / width = 0 := Nat.div_eq_of_lt (by omega)
    simp [wrapFrom, none_yet]
  | cons item rest ih =>
    by_cases full : column = width
    · subst full
      have wrapped := ih 1 positive
      have one_more : (column + (rest.length + 1) - 1) / column = rest.length / column + 1 := by
        rw [show column + (rest.length + 1) - 1 = rest.length + column by omega,
          Nat.add_div_right _ positive]
      rw [wrapFrom_break]
      simp only [List.length_cons, wrapped, one_more, Nat.add_sub_cancel_left]
      omega
    · have wrapped := ih (column + 1) (by omega)
      have same : column + 1 + rest.length - 1 = column + (rest.length + 1) - 1 := by omega
      rw [wrapFrom_next full]
      simp only [List.length_cons, wrapped, same]
      omega

/-- A separator stands behind every `width` items and nowhere else. -/
theorem wrapFrom_separator_iff (positive : 0 < width) (column : Nat) {items : List α}
    (inside : column ≤ width) (absent : separator ∉ items) (index : Nat) :
    (wrapFrom width separator column items)[index]? = some separator ↔
      index < (wrapFrom width separator column items).length ∧
        (index + column) % (width + 1) = width := by
  induction items generalizing column index with
  | nil => simp [wrapFrom]
  | cons item rest ih =>
    have differs : separator ≠ item := List.ne_of_not_mem_cons absent
    have later : separator ∉ rest := List.not_mem_of_not_mem_cons absent
    by_cases full : column = width
    · subst full
      rw [wrapFrom_break]
      cases index with
      | zero => simp
      | succ index =>
        cases index with
        | zero =>
          have small : (0 + 1 + column) % (column + 1) = 0 := by
            rw [Nat.zero_add, Nat.add_comm, Nat.mod_self]
          have apart : ¬ (0 = column) := by omega
          simp [small, apart, Ne.symm differs]
        | succ index =>
          have around : (index + 1 + 1 + column) % (column + 1) = (index + 1) % (column + 1) := by
            rw [show index + 1 + 1 + column = index + 1 + (column + 1) by omega,
              Nat.add_mod_right]
          simp only [List.getElem?_cons_succ, List.length_cons, Nat.add_lt_add_iff_right, around]
          exact ih 1 positive later index
    · rw [wrapFrom_next full]
      cases index with
      | zero =>
        have small : column % (width + 1) = column := Nat.mod_eq_of_lt (by omega)
        simp [small, full, Ne.symm differs]
      | succ index =>
        have same : index + 1 + column = index + (column + 1) := by omega
        simp only [List.getElem?_cons_succ, List.length_cons, Nat.add_lt_add_iff_right, same]
        exact ih (column + 1) (by omega) later index

theorem getLast?_wrapFrom (column : Nat) (items : List α) :
    (wrapFrom width separator column items).getLast? = items.getLast? := by
  induction items generalizing column with
  | nil => rfl
  | cons item rest ih =>
    by_cases full : column = width
    · subst full
      rw [wrapFrom_break, List.getLast?_cons_cons]
      simp only [List.getLast?_cons, ih]
    · rw [wrapFrom_next full]
      simp only [List.getLast?_cons, ih]

/-- Without its separators a wrapped list is the list. -/
theorem filter_wrapFrom {keeps : α → Bool} (dropped : keeps separator = false) (column : Nat)
    {items : List α} (kept : ∀ item ∈ items, keeps item = true) :
    (wrapFrom width separator column items).filter keeps = items := by
  induction items generalizing column with
  | nil => rfl
  | cons item rest ih =>
    have first := kept item List.mem_cons_self
    have others := fun other member => kept other (List.mem_cons_of_mem item member)
    by_cases full : column = width
    · subst full
      rw [wrapFrom_break, List.filter_cons_of_neg (by simp [dropped]),
        List.filter_cons_of_pos first, ih 1 others]
    · rw [wrapFrom_next full, List.filter_cons_of_pos first, ih (column + 1) others]

end Wrapped
