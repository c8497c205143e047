import Mathlib.Data.List.Basic
import Mathlib.Tactic.Common

/-! The logic of SQL, where `none` is UNKNOWN. -/

namespace Ternary

def and : Option Bool → Option Bool → Option Bool
  | some false, _ => some false
  | _, some false => some false
  | some true, other => other
  | none, _ => none

def not : Option Bool → Option Bool := Option.map Bool.not

/-- The conjunction of a list. -/
def all (answers : List (Option Bool)) : Option Bool := answers.foldr and (some true)

theorem and_eq_true {left right : Option Bool} :
    and left right = some true ↔ left = some true ∧ right = some true := by
  rcases left with _ | _ | _ <;> rcases right with _ | _ | _ <;> simp [and]

theorem not_eq_true {answer : Option Bool} : not answer = some true ↔ answer = some false := by
  rcases answer with _ | _ | _ <;> simp [not]

theorem all_eq_true {answers : List (Option Bool)} :
    all answers = some true ↔ ∀ answer ∈ answers, answer = some true := by
  induction answers with
  | nil => simp [all]
  | cons first rest ih =>
    rw [List.forall_mem_cons, ← ih]
    exact and_eq_true

end Ternary
