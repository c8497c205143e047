import Mathlib.Tactic.Common

/-! A store with one transaction at a time and named savepoints in it. A
transaction keeps the data it started from, a savepoint the data it was set on. -/

namespace Snapshots

structure Transaction (Name Data : Type) where
  start : Data
  /-- Started by BEGIN; otherwise by its outermost savepoint. -/
  explicit : Bool
  /-- The most recent first. -/
  savepoints : List (Name × Data)

structure Store (Name Data : Type) where
  data : Data
  transaction : Option (Transaction Name Data)

variable {Name Data : Type} [DecidableEq Name]

namespace Store

def isOpen (store : Store Name Data) : Bool := store.transaction.isSome

def write (store : Store Name Data) (change : Data → Data) : Store Name Data :=
  { store with data := change store.data }

/-- The savepoints from the most recent one of a name on. -/
def fromName (savepoints : List (Name × Data)) (name : Name) : List (Name × Data) :=
  savepoints.dropWhile fun savepoint => savepoint.1 ≠ name

def begin (store : Store Name Data) : Option (Store Name Data) :=
  match store.transaction with
  | some _ => none
  | none => some { store with
      transaction := some { start := store.data, explicit := true, savepoints := [] } }

def commit (store : Store Name Data) : Option (Store Name Data) :=
  store.transaction.map fun _ => { store with transaction := none }

def rollback (store : Store Name Data) : Option (Store Name Data) :=
  store.transaction.map fun transaction => { data := transaction.start, transaction := none }

def savepoint (store : Store Name Data) (name : Name) : Store Name Data :=
  match store.transaction with
  | some transaction => { store with transaction := some { transaction with
      savepoints := (name, store.data) :: transaction.savepoints } }
  | none => { store with transaction := some {
      start := store.data, explicit := false, savepoints := [(name, store.data)] } }

/-- Releasing the savepoint that started the transaction commits it. -/
def release (store : Store Name Data) (name : Name) : Option (Store Name Data) :=
  store.transaction.bind fun transaction =>
    match fromName transaction.savepoints name with
    | [] => none
    | _ :: below =>
      if transaction.explicit = false ∧ below = [] then some { store with transaction := none }
      else some { store with transaction := some { transaction with savepoints := below } }

def rollbackTo (store : Store Name Data) (name : Name) : Option (Store Name Data) :=
  store.transaction.bind fun transaction =>
    match fromName transaction.savepoints name with
    | [] => none
    | target :: below => some {
        data := target.2
        transaction := some { transaction with savepoints := target :: below } }

theorem fromName_append {before below : List (Name × Data)} {name : Name} {data : Data}
    (absent : ∀ savepoint ∈ before, savepoint.1 ≠ name) :
    fromName (before ++ (name, data) :: below) name = (name, data) :: below := by
  unfold fromName
  rw [List.dropWhile_append_of_pos]
  · simp
  · simpa using absent

/-- Marks that were set in this order are found in the stack, the earlier ones below. -/
theorem fromName_of_sublist {stack earlier later : List (Name × Data)} {name : Name} {data : Data}
    (unique : (stack.map Prod.fst).Nodup)
    (ordered : (earlier ++ (name, data) :: later).reverse.Sublist stack) :
    ∃ below, fromName stack name = (name, data) :: below ∧
      ((name, data) :: below).Sublist stack ∧ earlier.reverse.Sublist below := by
  simp only [List.reverse_append, List.reverse_cons, List.append_assoc, List.singleton_append,
    List.append_sublist_iff, List.cons_sublist_iff] at ordered
  obtain ⟨above, _, rfl, _, upper, lower, rfl, member, earlierBelow⟩ := ordered
  obtain ⟨between, rest, rfl⟩ := List.append_of_mem member
  have split : above ++ (between ++ (name, data) :: rest ++ lower) =
      (above ++ between) ++ (name, data) :: (rest ++ lower) := by simp
  have absent : ∀ savepoint ∈ above ++ between, savepoint.1 ≠ name := by
    intro savepoint inside same
    rw [split, List.map_append, List.nodup_append] at unique
    exact unique.2.2 savepoint.1 (List.mem_map_of_mem inside) name (by simp) same
  refine ⟨rest ++ lower, ?_, ?_, ?_⟩
  · rw [split, fromName_append absent]
  · rw [split]
    exact List.sublist_append_right _ _
  · exact earlierBelow.trans (List.sublist_append_right _ _)

end Store

end Snapshots
