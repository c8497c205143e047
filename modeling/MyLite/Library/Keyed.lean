import Mathlib.Data.List.Nodup

/-! Lists of rows with a key that no two of them share. -/

namespace Keyed

variable {Row Key : Type*} [DecidableEq Key]

def lookup (key : Row → Key) (rows : List Row) (value : Key) : Option Row :=
  rows.find? fun row => key row = value

theorem lookup_some {key : Row → Key} {rows : List Row} {value : Key} {row : Row}
    (found : lookup key rows value = some row) : row ∈ rows ∧ key row = value :=
  ⟨List.mem_of_find?_eq_some found, by simpa using List.find?_some found⟩

theorem lookup_none {key : Row → Key} {rows : List Row} {value : Key}
    (absent : lookup key rows value = none) {row : Row} (member : row ∈ rows) :
    key row ≠ value := by
  simpa using List.find?_eq_none.mp absent row member

theorem lookup_of_mem {key : Row → Key} {rows : List Row} (distinct : (rows.map key).Nodup)
    {row : Row} (member : row ∈ rows) : lookup key rows (key row) = some row := by
  induction rows with
  | nil => cases member
  | cons first rest ih =>
    obtain ⟨fresh, distinct⟩ := List.nodup_cons.mp distinct
    rcases List.mem_cons.mp member with rfl | later
    · simp [lookup]
    · have other : key first ≠ key row := by
        intro same
        exact fresh (same ▸ List.mem_map_of_mem later)
      have rest := ih distinct later
      simpa [lookup, other] using rest

/-- The order of the rows does not matter. -/
theorem lookup_perm {key : Row → Key} {rows others : List Row} (same : rows.Perm others)
    (distinct : (rows.map key).Nodup) : lookup key rows = lookup key others := by
  funext value
  cases found : lookup key rows value with
  | none =>
    symm
    apply List.find?_eq_none.mpr
    intro row member
    simpa using lookup_none found (same.mem_iff.mpr member)
  | some row =>
    obtain ⟨member, rfl⟩ := lookup_some found
    exact (lookup_of_mem ((same.map key).nodup_iff.mp distinct) (same.mem_iff.mp member)).symm

/-- Erasing the row with a key erases every row with it. -/
theorem eraseP_eq_filter {key : Row → Key} {rows : List Row} (distinct : (rows.map key).Nodup)
    (value : Key) :
    (rows.eraseP fun row => key row = value) = rows.filter fun row => key row ≠ value := by
  induction rows with
  | nil => rfl
  | cons first rest ih =>
    obtain ⟨fresh, distinct⟩ := List.nodup_cons.mp distinct
    by_cases here : key first = value
    · have others : rest.filter (fun row => key row ≠ value) = rest := by
        apply List.filter_eq_self.mpr
        intro row member
        have other : key row ≠ value := by
          intro same
          exact fresh ((here.trans same.symm) ▸ List.mem_map_of_mem member)
        simpa using other
      rw [List.eraseP_cons_of_pos (by simpa using here), List.filter_cons_of_neg (by simpa using here),
        others]
    · rw [List.eraseP_cons_of_neg (by simpa using here), List.filter_cons_of_pos (by simpa using here),
        ih distinct]

/-- No row with the key is left once the first one is erased. -/
theorem key_ne_of_mem_eraseP {key : Row → Key} {rows : List Row} {value : Key} {row : Row}
    (distinct : (rows.map key).Nodup)
    (member : row ∈ rows.eraseP fun row => key row = value) : key row ≠ value := by
  induction rows with
  | nil => cases member
  | cons first rest ih =>
    obtain ⟨fresh, distinct⟩ := List.nodup_cons.mp distinct
    by_cases here : key first = value
    · rw [List.eraseP_cons_of_pos (by simpa using here)] at member
      intro same
      exact fresh ((here.trans same.symm) ▸ List.mem_map_of_mem member)
    · rw [List.eraseP_cons_of_neg (by simpa using here)] at member
      rcases List.mem_cons.mp member with rfl | later
      · exact here
      · exact ih distinct later

omit [DecidableEq Key] in
/-- A row replaced by one with its key keeps all the keys. -/
theorem map_set {key : Row → Key} {rows : List Row} {index : Nat} {row replacement : Row}
    (here : rows[index]? = some row) (same : key replacement = key row) :
    (rows.set index replacement).map key = rows.map key := by
  induction rows generalizing index with
  | nil => rfl
  | cons first rest ih =>
    cases index with
    | zero =>
      cases here
      simp [same]
    | succ index =>
      have rest := ih (by simpa using here)
      simpa using rest

end Keyed
