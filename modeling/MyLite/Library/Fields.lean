import Mathlib.Logic.Function.Basic

/-! Records whose fields have their own types, changed by writes of single fields and put
back from a copy that holds some of them. -/

namespace Fields

variable {Name : Type} {Value : Name → Type}

structure Write (Value : Name → Type) where
  name : Name
  value : Value name

variable [DecidableEq Name]

def store (record : (name : Name) → Value name) (write : Write Value) :
    (name : Name) → Value name :=
  Function.update record write.name write.value

def storeAll (record : (name : Name) → Value name) (writes : List (Write Value)) :
    (name : Name) → Value name :=
  writes.foldl store record

/-- The value that the last write of a field gives it. -/
def lastWrite (name : Name) : List (Write Value) → Option (Value name)
  | [] => none
  | write :: rest =>
    (lastWrite name rest).or
      (if same : write.name = name then some (same ▸ write.value) else none)

/-- Put the saved fields back. -/
def restore (saved : List Name) (before after : (name : Name) → Value name) :
    (name : Name) → Value name :=
  fun name => if name ∈ saved then before name else after name

theorem storeAll_append (record : (name : Name) → Value name) (first second : List (Write Value)) :
    storeAll record (first ++ second) = storeAll (storeAll record first) second :=
  List.foldl_append

theorem storeAll_apply (record : (name : Name) → Value name) (writes : List (Write Value))
    (name : Name) : storeAll record writes name = (lastWrite name writes).getD (record name) := by
  induction writes generalizing record with
  | nil => rfl
  | cons write rest ih =>
    have step : storeAll record (write :: rest) name = storeAll (store record write) rest name := rfl
    rw [step, ih]
    by_cases same : write.name = name
    · subst same
      have written : store record write write.name = write.value :=
        Function.update_self write.name write.value record
      rw [written]
      cases last : lastWrite write.name rest <;> simp [lastWrite, last]
    · have kept : store record write name = record name :=
        Function.update_of_ne (Ne.symm same) write.value record
      rw [kept]
      simp [lastWrite, same]

theorem lastWrite_eq_none {name : Name} {writes : List (Write Value)}
    (absent : ∀ write ∈ writes, write.name ≠ name) : lastWrite name writes = none := by
  induction writes with
  | nil => rfl
  | cons write rest ih =>
    have here := absent write List.mem_cons_self
    have later := ih fun other member => absent other (List.mem_cons_of_mem write member)
    simp [lastWrite, later, here]

/-- The writes of the fields left out of a list. -/
def outside (saved : List Name) (writes : List (Write Value)) : List (Write Value) :=
  writes.filter fun write => write.name ∉ saved

theorem outside_append (saved : List Name) (first second : List (Write Value)) :
    outside saved (first ++ second) = outside saved first ++ outside saved second :=
  List.filter_append ..

theorem lastWrite_outside {saved : List Name} {name : Name} (unsaved : name ∉ saved)
    (writes : List (Write Value)) :
    lastWrite name (outside saved writes) = lastWrite name writes := by
  induction writes with
  | nil => rfl
  | cons write rest ih =>
    by_cases member : write.name ∈ saved
    · have other : write.name ≠ name := by
        intro same
        exact unsaved (same ▸ member)
      have step : outside saved (write :: rest) = outside saved rest := by
        simp [outside, member]
      simp [step, ih, lastWrite, other]
    · have step : outside saved (write :: rest) = write :: outside saved rest := by
        simp [outside, member]
      simp [step, ih, lastWrite]

/-- Restoring undoes the writes exactly when every field left out was last given the value
it had before. -/
theorem restore_storeAll_iff (saved : List Name) (record : (name : Name) → Value name)
    (writes : List (Write Value)) :
    restore saved record (storeAll record writes) = record ↔
      ∀ name value, lastWrite name (outside saved writes) = some value → value = record name := by
  constructor
  · intro undone name value last
    by_cases member : name ∈ saved
    · have absent : lastWrite name (outside saved writes) = none := by
        apply lastWrite_eq_none
        intro write written same
        have left := (List.mem_filter.mp written).2
        simp [same, member] at left
      simp [absent] at last
    · have here := congrFun undone name
      rw [lastWrite_outside member] at last
      simpa [restore, member, storeAll_apply, last] using here
  · intro same
    funext name
    by_cases member : name ∈ saved
    · simp [restore, member]
    · cases last : lastWrite name writes with
      | none => simp [restore, member, storeAll_apply, last]
      | some value =>
        have kept := same name value ((lastWrite_outside member writes).trans last)
        simp [restore, member, storeAll_apply, last, kept]

end Fields
