import MyLite.Session.NamedLocks
import MyLite.Library.Keyed
import MyLite.Library.Machine
import Mathlib.Algebra.BigOperators.Finprod

/-! The lock registry is a map from names to owners and hold counts: a request on
the one does what it does on the other. -/

namespace MyLite.NamedLocks

structure Hold where
  owner : Nat
  count : Nat

abbrev Table := LockName → Option Hold

/-- The holds of a connection, summed over all names. -/
noncomputable def Table.held (table : Table) (connection : Nat) : Nat :=
  finsum fun name => ((table name).filter fun hold => hold.owner = connection).elim 0 Hold.count

def Table.without (table : Table) (connection : Nat) : Table :=
  fun name => (table name).filter fun hold => hold.owner ≠ connection

def Table.set (table : Table) (name : LockName) (hold : Option Hold) : Table :=
  Function.update table name hold

@[simp] theorem Table.set_set (table : Table) (name : LockName) (first second : Option Hold) :
    (table.set name first).set name second = table.set name second := by
  unfold Table.set
  rw [Function.update_idem]

@[simp] theorem Table.set_self (table : Table) (name : LockName) :
    table.set name (table name) = table := by
  unfold Table.set
  rw [Function.update_eq_self]

/-- What the requests do to the map. -/
noncomputable def lockTable : Operations Table where
  tryGet memory table name connection :=
    match table name with
    | none =>
      if memory then .ok (true, table.set name (some ⟨connection, 1⟩)) else .error .outOfMemory
    | some hold =>
      if hold.owner ≠ connection then .ok (false, table)
      else if hold.count = uint64Max then .error .tooManyHolds
      else .ok (true, table.set name (some ⟨connection, hold.count + 1⟩))
  owner table name := (table name).map Hold.owner
  release table name connection :=
    match table name with
    | none => (table, none)
    | some hold =>
      if hold.owner ≠ connection then (table, some 0)
      else if hold.count = 1 then (table.set name none, some 1)
      else (table.set name (some ⟨connection, hold.count - 1⟩), some 1)
  releaseAll table connection :=
    (table.without connection, min uint64Max (table.held connection))
  close table connection := table.without connection

def Entry.hold (entry : Entry) : Hold := ⟨entry.owner, entry.holdCount⟩

/-- The map that a registry stands for. -/
def tableOf (entries : List Entry) : Table :=
  fun name => (Keyed.lookup Entry.name entries name).map Entry.hold

structure Registered (entries : List Entry) : Prop where
  distinct : (entries.map Entry.name).Nodup
  held : ∀ entry ∈ entries, 1 ≤ entry.holdCount ∧ entry.holdCount ≤ uint64Max

variable {entries others rest : List Entry} {entry : Entry} {name : LockName} {connection : Nat}

theorem Registered.perm (registered : Registered entries) (same : entries.Perm others) :
    Registered others := by
  constructor
  · exact (same.map Entry.name).nodup_iff.mp registered.distinct
  · intro entry member
    exact registered.held entry (same.mem_iff.mpr member)

theorem Registered.tail (registered : Registered (entry :: rest)) : Registered rest := by
  constructor
  · exact (List.nodup_cons.mp registered.distinct).2
  · intro other member
    exact registered.held other (List.mem_cons_of_mem _ member)

theorem Registered.cons_of_same_name (registered : Registered (entry :: rest)) {other : Entry}
    (same : other.name = entry.name)
    (held : 1 ≤ other.holdCount ∧ other.holdCount ≤ uint64Max) : Registered (other :: rest) := by
  constructor
  · have distinct := registered.distinct
    rw [List.map_cons] at distinct ⊢
    rw [same]
    exact distinct
  · intro member isMember
    rcases List.mem_cons.mp isMember with rfl | later
    · exact held
    · exact registered.tail.held member later

theorem tableOf_perm (registered : Registered entries) (same : entries.Perm others) :
    tableOf entries = tableOf others := by
  unfold tableOf
  rw [Keyed.lookup_perm same registered.distinct]

theorem tableOf_cons (entry : Entry) (rest : List Entry) :
    tableOf (entry :: rest) = (tableOf rest).set entry.name (some entry.hold) := by
  funext name
  by_cases same : name = entry.name
  · subst same
    simp [tableOf, Table.set, Keyed.lookup]
  · have other : ¬ entry.name = name := fun equal => same equal.symm
    simp [tableOf, Table.set, Function.update_of_ne same, Keyed.lookup, other]

theorem tableOf_fresh (fresh : name ∉ entries.map Entry.name) : tableOf entries name = none := by
  have absent : Keyed.lookup Entry.name entries name = none := by
    apply List.find?_eq_none.mpr
    intro entry member same
    exact fresh (of_decide_eq_true same ▸ List.mem_map_of_mem member)
  rw [tableOf, absent, Option.map_none]

theorem tableOf_tail (registered : Registered (entry :: rest)) :
    tableOf rest = (tableOf (entry :: rest)).set entry.name none := by
  have fresh := (List.nodup_cons.mp registered.distinct).1
  rw [tableOf_cons, Table.set_set, ← tableOf_fresh fresh, Table.set_self]

theorem tableOf_of_mem (registered : Registered entries) (member : entry ∈ entries) :
    tableOf entries entry.name = some entry.hold := by
  rw [tableOf, Keyed.lookup_of_mem registered.distinct member, Option.map_some]

/-! The entry of a name. -/

theorem found_none
    (absent : ((findNamedLockEntry entries name).bind fun index =>
      entries[index]?.map (index, ·)) = none) : name ∉ entries.map Entry.name := by
  intro member
  obtain ⟨entry, isMember, same⟩ := List.mem_map.mp member
  cases found : findNamedLockEntry entries name with
  | none =>
    have other := List.findIdx?_eq_none_iff.mp found entry isMember
    simp [same] at other
  | some index =>
    obtain ⟨within, _, _⟩ := List.findIdx?_eq_some_iff_getElem.mp found
    rw [found, Option.bind_some, List.getElem?_eq_getElem within] at absent
    cases absent

theorem found_some {index : Nat}
    (found : ((findNamedLockEntry entries name).bind fun index =>
      entries[index]?.map (index, ·)) = some (index, entry)) :
    entries[index]? = some entry ∧ entry.name = name := by
  obtain ⟨position, atPosition, fetched⟩ := Option.bind_eq_some_iff.mp found
  obtain ⟨row, here, pair⟩ := Option.map_eq_some_iff.mp fetched
  cases pair
  obtain ⟨within, matched, _⟩ := List.findIdx?_eq_some_iff_getElem.mp atPosition
  rw [List.getElem?_eq_getElem within] at here
  cases here
  exact ⟨List.getElem?_eq_getElem within, of_decide_eq_true matched⟩

/-- An entry, and the list with it replaced, up to their order. -/
theorem entry_perm {index : Nat} (here : entries[index]? = some entry) (other : Entry) :
    entries.Perm (entry :: entries.eraseIdx index) ∧
      (entries.set index other).Perm (other :: entries.eraseIdx index) := by
  obtain ⟨within, rfl⟩ := List.getElem?_eq_some_iff.mp here
  exact ⟨(List.getElem_cons_eraseIdx_perm within).symm, List.set_perm_cons_eraseIdx within other⟩

theorem Registered.set (registered : Registered entries) {index : Nat}
    (here : entries[index]? = some entry) {other : Entry} (same : other.name = entry.name)
    (held : 1 ≤ other.holdCount ∧ other.holdCount ≤ uint64Max) :
    Registered (entries.set index other) ∧
      tableOf (entries.set index other) = (tableOf entries).set entry.name (some other.hold) := by
  obtain ⟨before, after⟩ := entry_perm here other
  have split := registered.perm before
  have changed := split.cons_of_same_name same held
  refine ⟨changed.perm after.symm, ?_⟩
  rw [← tableOf_perm changed after.symm, tableOf_perm registered before, tableOf_cons,
    tableOf_cons, same, Table.set_set]

/-- The entry is overwritten by the last one, whatever was written to it before. -/
theorem Registered.swapRemove (registered : Registered entries) {index : Nat}
    (here : entries[index]? = some entry) (other : Entry) :
    Registered (Compacted.swapRemove (entries.set index other) index) ∧
      tableOf (Compacted.swapRemove (entries.set index other) index) =
        (tableOf entries).set entry.name none := by
  obtain ⟨before, after⟩ := entry_perm here other
  have within := (List.getElem?_eq_some_iff.mp here).1
  have removed := Compacted.swapRemove_perm (List.getElem?_set_self (a := other) within)
  have left := (removed.trans after).cons_inv
  have split := registered.perm before
  refine ⟨split.tail.perm left.symm, ?_⟩
  rw [← tableOf_perm split.tail left.symm, tableOf_tail split, tableOf_perm registered before]

/-! One request. -/

theorem tryGet_refines (registered : Registered entries) (memory : Bool) (name : LockName)
    (connection : Nat) :
    (tryGetNamedLock memory entries name connection).map (Prod.map id tableOf) =
        lockTable.tryGet memory (tableOf entries) name connection ∧
      ∀ got after, tryGetNamedLock memory entries name connection = .ok (got, after) →
        Registered after := by
  unfold tryGetNamedLock lockTable
  cases found : (findNamedLockEntry entries name).bind fun index =>
      entries[index]?.map (index, ·) with
  | none =>
    have fresh := found_none found
    have appended := List.perm_append_singleton
      ({ name := name, owner := connection, holdCount := 1 } : Entry) entries
    have added : Registered ({ name := name, owner := connection, holdCount := 1 } :: entries) :=
      ⟨List.nodup_cons.mpr ⟨fresh, registered.distinct⟩, by
        intro entry member
        rcases List.mem_cons.mp member with rfl | earlier
        · exact ⟨Nat.le_refl 1, show 1 ≤ uint64Max by decide⟩
        · exact registered.held entry earlier⟩
    dsimp only
    rw [tableOf_fresh fresh]
    cases memory with
    | false => exact ⟨rfl, by intro got after failed; cases failed⟩
    | true =>
      constructor
      · have same := tableOf_perm added appended.symm
        rw [tableOf_cons] at same
        simp only [if_true, Except.map, Prod.map, id_eq, ← same]
        rfl
      · intro got after succeeded
        cases succeeded
        exact added.perm appended.symm
  | some pair =>
    obtain ⟨index, entry⟩ := pair
    obtain ⟨here, rfl⟩ := found_some found
    have member := List.mem_of_getElem? here
    dsimp only
    rw [tableOf_of_mem registered member]
    dsimp only [Entry.hold]
    split
    · exact ⟨rfl, by intro got after kept; cases kept; exact registered⟩
    · rename_i own
      split
      · exact ⟨rfl, by intro got after failed; cases failed⟩
      · have bounds := registered.held entry member
        obtain ⟨kept, table⟩ := registered.set here
          (show ({ entry with holdCount := entry.holdCount + 1 } : Entry).name = entry.name from rfl)
          (show 1 ≤ entry.holdCount + 1 ∧ entry.holdCount + 1 ≤ uint64Max by omega)
        constructor
        · simp only [Except.map, Prod.map, id_eq, table]
          rw [not_not.mp own]
          rfl
        · intro got after succeeded
          cases succeeded
          exact kept

theorem release_refines (registered : Registered entries) (name : LockName) (connection : Nat) :
    Prod.map tableOf id (release entries name connection) =
        lockTable.release (tableOf entries) name connection ∧
      Registered (release entries name connection).1 := by
  unfold release lockTable
  cases found : (findNamedLockEntry entries name).bind fun index =>
      entries[index]?.map (index, ·) with
  | none =>
    dsimp only
    rw [tableOf_fresh (found_none found)]
    exact ⟨rfl, registered⟩
  | some pair =>
    obtain ⟨index, entry⟩ := pair
    obtain ⟨here, rfl⟩ := found_some found
    have member := List.mem_of_getElem? here
    have bounds := registered.held entry member
    have lowered : (entry.holdCount + uint64Max) % (uint64Max + 1) = entry.holdCount - 1 := by
      unfold uint64Max at bounds ⊢
      omega
    dsimp only
    rw [tableOf_of_mem registered member]
    dsimp only [Entry.hold]
    split
    · exact ⟨rfl, registered⟩
    · rename_i own
      rw [lowered]
      by_cases last : entry.holdCount = 1
      · rw [if_pos (by omega), if_pos last]
        obtain ⟨kept, table⟩ := registered.swapRemove here
          { entry with holdCount := entry.holdCount - 1 }
        refine ⟨?_, kept⟩
        simp only [Prod.map, id_eq, table]
      · rw [if_neg (by omega), if_neg last]
        obtain ⟨kept, table⟩ := registered.set here
          (show ({ entry with holdCount := entry.holdCount - 1 } : Entry).name = entry.name from rfl)
          (show 1 ≤ entry.holdCount - 1 ∧ entry.holdCount - 1 ≤ uint64Max by omega)
        refine ⟨?_, kept⟩
        simp only [Prod.map, id_eq, table]
        rw [not_not.mp own]
        rfl

theorem tableOf_filter (registered : Registered entries) (connection : Nat) :
    tableOf (entries.filter fun entry => !decide (entry.owner = connection)) =
      (tableOf entries).without connection := by
  induction entries with
  | nil => rfl
  | cons entry rest ih =>
    have rest := ih registered.tail
    funext name
    have here := congrFun rest name
    by_cases own : entry.owner = connection
    · rw [List.filter_cons_of_neg (by simp [own]), here, tableOf_cons]
      unfold Table.without Table.set
      by_cases same : name = entry.name
      · subst same
        rw [tableOf_fresh (List.nodup_cons.mp registered.distinct).1, Function.update_self]
        simp [Option.filter_some, Entry.hold, own]
      · rw [Function.update_of_ne same]
    · rw [List.filter_cons_of_pos (by simp [own]), tableOf_cons, tableOf_cons]
      unfold Table.without Table.set at *
      by_cases same : name = entry.name
      · subst same
        rw [Function.update_self, Function.update_self]
        simp [Option.filter_some, Entry.hold, own]
      · rw [Function.update_of_ne same, Function.update_of_ne same]
        exact here

theorem Registered.filter (registered : Registered entries) (keep : Entry → Bool) :
    Registered (entries.filter keep) := by
  constructor
  · exact registered.distinct.sublist (List.filter_sublist.map Entry.name)
  · intro entry member
    exact registered.held entry (List.mem_of_mem_filter member)

/-- Holds add up to the largest 64-bit value at most. -/
theorem foldl_addHoldCount (held : ∀ entry ∈ entries, entry.holdCount ≤ uint64Max) {count : Nat}
    (bounded : count ≤ uint64Max) : entries.foldl addHoldCount count =
      min uint64Max (count + (entries.map Entry.holdCount).sum) := by
  induction entries generalizing count with
  | nil =>
    simp only [List.foldl_nil, List.map_nil, List.sum_nil]
    omega
  | cons entry rest ih =>
    have first := held entry List.mem_cons_self
    have added : addHoldCount count entry = min uint64Max (count + entry.holdCount) := by
      unfold addHoldCount
      split <;> omega
    rw [List.foldl_cons, added, ih (fun other member => held other (List.mem_cons_of_mem _ member))
      (by omega), List.map_cons, List.sum_cons]
    omega

theorem sum_map_filter (connection : Nat) (entries : List Entry) :
    (entries.map fun entry => if entry.owner = connection then entry.holdCount else 0).sum =
      ((entries.filter fun entry => entry.owner = connection).map Entry.holdCount).sum := by
  induction entries with
  | nil => rfl
  | cons entry rest ih =>
    rw [List.map_cons, List.sum_cons, ih]
    by_cases own : entry.owner = connection
    · rw [if_pos own, List.filter_cons_of_pos (by simpa using own), List.map_cons, List.sum_cons]
    · rw [if_neg own, List.filter_cons_of_neg (by simpa using own), Nat.zero_add]

theorem held_tableOf (registered : Registered entries) (connection : Nat) :
    (tableOf entries).held connection =
      ((entries.filter fun entry => entry.owner = connection).map Entry.holdCount).sum := by
  have inside : (Function.support fun name => (((tableOf entries) name).filter
      fun hold => hold.owner = connection).elim 0 Hold.count) ⊆
      ((entries.map Entry.name).toFinset : Set LockName) := by
    intro name counted
    by_contra outside
    have fresh : name ∉ entries.map Entry.name := by simpa using outside
    rw [Function.mem_support, tableOf_fresh fresh] at counted
    exact counted rfl
  unfold Table.held
  rw [finsum_eq_sum_of_support_subset _ inside, List.sum_toFinset _ registered.distinct,
    List.map_map, ← sum_map_filter]
  congr 1
  apply List.map_congr_left
  intro entry member
  rw [Function.comp_apply, tableOf_of_mem registered member]
  by_cases own : entry.owner = connection
  · simp [Option.filter_some, Entry.hold, own]
  · simp [Option.filter_some, Entry.hold, own]

/-- Both loops leave the locks of the others. -/
theorem sweep_refines {Result : Type} (registered : Registered entries) (connection : Nat)
    (collect : Result → Entry → Result) (result : Result) :
    ∃ removed : List Entry,
      removed.Perm (entries.filter fun entry => entry.owner = connection) ∧
      (Compacted.sweep (fun entry => entry.owner = connection) collect entries 0 result).2 =
        removed.foldl collect result ∧
      Registered (Compacted.sweep (fun entry => entry.owner = connection) collect
        entries 0 result).1 ∧
      tableOf (Compacted.sweep (fun entry => entry.owner = connection) collect
        entries 0 result).1 = (tableOf entries).without connection := by
  obtain ⟨removed, taken, collected, left⟩ :=
    Compacted.sweep_spec (fun entry => decide (entry.owner = connection)) collect entries 0 result
      (by
        intro row member
        cases member)
  have filtered := registered.filter fun entry => !decide (entry.owner = connection)
  refine ⟨removed, taken, collected, filtered.perm left.symm, ?_⟩
  rw [← tableOf_perm filtered left.symm, tableOf_filter registered]

theorem releaseAll_refines (registered : Registered entries) (connection : Nat) :
    Prod.map tableOf id (releaseAll entries connection) =
        lockTable.releaseAll (tableOf entries) connection ∧
      Registered (releaseAll entries connection).1 := by
  obtain ⟨removed, taken, collected, kept, table⟩ :=
    sweep_refines registered connection addHoldCount 0
  refine ⟨?_, kept⟩
  have total : (releaseAll entries connection).2 =
      min uint64Max ((tableOf entries).held connection) := by
    unfold releaseAll
    rw [collected, foldl_addHoldCount _ (Nat.zero_le _), Nat.zero_add, held_tableOf registered,
      (taken.map Entry.holdCount).sum_eq]
    intro entry member
    exact (registered.held entry (List.mem_of_mem_filter (taken.mem_iff.mp member))).2
  exact Prod.ext table total

theorem close_refines (registered : Registered entries) (connection : Nat) :
    tableOf (releaseAllForConnection entries connection) =
        lockTable.close (tableOf entries) connection ∧
      Registered (releaseAllForConnection entries connection) := by
  obtain ⟨_, _, _, kept, table⟩ := sweep_refines registered connection (fun count _ => count) ()
  exact ⟨table, kept⟩

theorem owner_refines (registered : Registered entries) (name : LockName) :
    registry.owner entries name = lockTable.owner (tableOf entries) name := by
  have fetched : registry.owner entries name = ((findNamedLockEntry entries name).bind fun index =>
      entries[index]?.map (index, ·)).map fun pair => pair.2.owner := by
    unfold registry
    dsimp only
    cases findNamedLockEntry entries name with
    | none => rfl
    | some index =>
      rw [Option.bind_some, Option.bind_some, Option.map_map]
      rfl
  unfold lockTable
  dsimp only
  rw [fetched]
  cases found : (findNamedLockEntry entries name).bind fun index =>
      entries[index]?.map (index, ·) with
  | none =>
    rw [tableOf_fresh (found_none found)]
    rfl
  | some pair =>
    obtain ⟨index, entry⟩ := pair
    obtain ⟨here, rfl⟩ := found_some found
    rw [tableOf_of_mem registered (List.mem_of_getElem? here)]
    rfl

/-! The system of the connections. -/

/-- The state of the connections over the map. -/
def State.table (state : State (List Entry)) : State Table :=
  { locks := tableOf state.locks, waits := state.waits }

variable {state : State (List Entry)}

theorem attempt_refines (registered : Registered state.locks) (memory : Bool) (connection : Nat)
    (wait : Wait) :
    attempt lockTable memory state.table connection wait =
        Prod.map State.table id (attempt registry memory state connection wait) ∧
      Registered (attempt registry memory state connection wait).1.locks := by
  obtain ⟨same, kept⟩ := tryGet_refines registered memory wait.name connection
  have abstract : lockTable.tryGet memory state.table.locks wait.name connection =
      (registry.tryGet memory state.locks wait.name connection).map (Prod.map id tableOf) :=
    same.symm
  unfold attempt
  dsimp only
  rw [abstract]
  cases outcome : registry.tryGet memory state.locks wait.name connection with
  | error error => exact ⟨rfl, registered⟩
  | ok pair =>
    obtain ⟨got, after⟩ := pair
    have remains := kept got after outcome
    cases got with
    | true => exact ⟨rfl, remains⟩
    | false =>
      dsimp only [Except.map, Prod.map, id_eq]
      split
      · exact ⟨rfl, remains⟩
      · exact ⟨rfl, remains⟩

theorem serve_refines (registered : Registered state.locks) (memory : Bool) (connection : Nat)
    (request : Request) :
    serve lockTable memory state.table connection request =
        Prod.map State.table id (serve registry memory state connection request) ∧
      Registered (serve registry memory state connection request).1.locks := by
  cases request with
  | get name timeout =>
    unfold serve
    dsimp only
    cases namedLockValidate name with
    | error error => exact ⟨rfl, registered⟩
    | ok name => exact attempt_refines registered memory connection _
  | isFree name =>
    unfold serve
    dsimp only
    cases namedLockValidate name with
    | error error => exact ⟨rfl, registered⟩
    | ok name =>
      refine ⟨?_, registered⟩
      have owner := owner_refines registered name
      simp only [Prod.map, id_eq, owner]
      rfl
  | isUsed name =>
    unfold serve
    dsimp only
    cases namedLockValidate name with
    | error error => exact ⟨rfl, registered⟩
    | ok name =>
      refine ⟨?_, registered⟩
      have owner := owner_refines registered name
      simp only [Prod.map, id_eq, owner]
      rfl
  | release name =>
    unfold serve
    dsimp only
    cases namedLockValidate name with
    | error error => exact ⟨rfl, registered⟩
    | ok name =>
      obtain ⟨same, kept⟩ := release_refines registered name connection
      refine ⟨?_, kept⟩
      dsimp only
      rw [show lockTable.release state.table.locks name connection = _ from same.symm]
      rfl
  | releaseAll =>
    obtain ⟨same, kept⟩ := releaseAll_refines registered connection
    refine ⟨?_, kept⟩
    unfold serve
    dsimp only
    rw [show lockTable.releaseAll state.table.locks connection = _ from same.symm]
    rfl
  | close =>
    obtain ⟨same, kept⟩ := close_refines registered connection
    refine ⟨?_, kept⟩
    unfold serve
    dsimp only
    rw [show lockTable.close state.table.locks connection = _ from same.symm]
    rfl

/-- One event does on the registry what it does on the map. -/
theorem step_refines (registered : Registered state.locks) (event : Event) :
    step lockTable state.table event =
        (step registry state event).map (Prod.map State.table id) ∧
      ∀ after reply, step registry state event = some (after, reply) →
        Registered after.locks := by
  cases event with
  | request connection request memory =>
    obtain ⟨same, kept⟩ := serve_refines registered memory connection request
    unfold step
    dsimp only
    rw [same, show state.table.waits = state.waits from rfl]
    cases state.waits connection with
    | some wait => exact ⟨rfl, by intro after reply refused; cases refused⟩
    | none =>
      refine ⟨rfl, ?_⟩
      intro after reply served
      rw [Option.some.inj served] at kept
      exact kept
  | wake connection slept memory =>
    unfold step
    dsimp only
    rw [show state.table.waits = state.waits from rfl]
    cases state.waits connection with
    | none => exact ⟨rfl, by intro after reply refused; cases refused⟩
    | some wait =>
      obtain ⟨same, kept⟩ := attempt_refines registered memory connection
        { wait with waited := wait.waited +
          (if slept > 0 then slept else namedLockSleepMilliseconds wait.waited wait.timeout) }
      dsimp only
      rw [same]
      refine ⟨rfl, ?_⟩
      intro after reply served
      rw [Option.some.inj served] at kept
      exact kept

/-- What an event may do to the locks. -/
structure Served (before after : Table) (event : Event) (reply : Reply) : Prop where
  othersKept : ∀ name hold, before name = some hold → hold.owner ≠ event.connection →
    after name = some hold
  released : ∀ connection bytes memory name, event = .request connection (.release bytes) memory →
    namedLockValidate bytes = .ok name → ∀ hold, before name = some hold →
      hold.owner = connection →
      after = before.set name (if hold.count = 1 then none else some ⟨connection, hold.count - 1⟩)
  notReleased : ∀ connection bytes memory, event = .request connection (.release bytes) memory →
    (∀ name hold, namedLockValidate bytes = .ok name → before name = some hold →
      hold.owner ≠ connection) → after = before
  releasedAll : ∀ connection memory, event = .request connection .releaseAll memory →
    reply = .count (min uint64Max (before.held connection)) ∧ after = before.without connection

theorem Table.without_other {table : Table} {name : LockName} {hold : Hold}
    (held : table name = some hold) (other : hold.owner ≠ connection) :
    table.without connection name = some hold := by
  unfold Table.without
  rw [held, Option.filter_some, if_pos (by simpa using other)]

theorem Table.set_other {table : Table} {name changed : LockName} {hold : Hold}
    {value : Option Hold} (held : table name = some hold)
    (own : ∀ hold, table changed = some hold → hold.owner = connection)
    (other : hold.owner ≠ connection) : table.set changed value name = some hold := by
  have different : name ≠ changed := by
    intro same
    exact other (own hold (same ▸ held))
  unfold Table.set
  rw [Function.update_of_ne different, held]

/-- A table operation of a connection leaves what others hold. -/
theorem tryGet_others {table after : Table} {memory got : Bool} {name held : LockName}
    (tried : lockTable.tryGet memory table name connection = .ok (got, after)) {hold : Hold}
    (holds : table held = some hold) (other : hold.owner ≠ connection) :
    after held = some hold := by
  unfold lockTable at tried
  dsimp only at tried
  split at tried
  · rename_i free
    split at tried
    · cases tried
      exact Table.set_other holds (by intro hold taken; rw [free] at taken; cases taken) other
    · cases tried
  · rename_i taken found
    split at tried
    · cases tried
      exact holds
    · rename_i own
      split at tried
      · cases tried
      · cases tried
        apply Table.set_other holds _ other
        intro hold same
        rw [found] at same
        cases same
        exact not_not.mp own

theorem release_others {table : Table} {name held : LockName} {hold : Hold}
    (holds : table held = some hold) (other : hold.owner ≠ connection) :
    (lockTable.release table name connection).1 held = some hold := by
  unfold lockTable
  dsimp only
  split
  · exact holds
  · rename_i taken found
    split
    · exact holds
    · rename_i mine
      have only : ∀ hold, table name = some hold → hold.owner = connection := by
        intro hold same
        rw [found] at same
        cases same
        exact not_not.mp mine
      split
      · exact Table.set_other holds only other
      · exact Table.set_other holds only other

theorem attempt_others {before : State Table} (memory : Bool) (wait : Wait) {held : LockName}
    {hold : Hold} (holds : before.locks held = some hold) (other : hold.owner ≠ connection) :
    (attempt lockTable memory before connection wait).1.locks held = some hold := by
  unfold attempt
  dsimp only
  split
  · exact holds
  · rename_i tried
    exact tryGet_others tried holds other
  · rename_i tried
    split
    · exact tryGet_others tried holds other
    · exact tryGet_others tried holds other

theorem serve_others {before : State Table} (memory : Bool) (request : Request) {held : LockName}
    {hold : Hold} (holds : before.locks held = some hold) (other : hold.owner ≠ connection) :
    (serve lockTable memory before connection request).1.locks held = some hold := by
  cases request with
  | get name timeout =>
    unfold serve
    dsimp only
    split
    · exact holds
    · exact attempt_others memory _ holds other
  | isFree name =>
    unfold serve
    dsimp only
    split <;> exact holds
  | isUsed name =>
    unfold serve
    dsimp only
    split <;> exact holds
  | release name =>
    unfold serve
    dsimp only
    split
    · exact holds
    · exact release_others holds other
  | releaseAll => exact Table.without_other holds other
  | close => exact Table.without_other holds other

theorem release_own {table : Table} {name : LockName} {hold : Hold}
    (holds : table name = some hold) (own : hold.owner = connection) :
    (lockTable.release table name connection).1 =
      table.set name (if hold.count = 1 then none else some ⟨connection, hold.count - 1⟩) := by
  unfold lockTable
  dsimp only
  rw [holds]
  dsimp only
  rw [if_neg (not_not.mpr own)]
  split <;> rfl

theorem release_foreign {table : Table} {name : LockName}
    (foreign : ∀ hold, table name = some hold → hold.owner ≠ connection) :
    (lockTable.release table name connection).1 = table := by
  unfold lockTable
  dsimp only
  cases held : table name with
  | none => rfl
  | some hold =>
    dsimp only
    rw [if_pos (foreign hold held)]

theorem step_request {Locks : Type} {operations : Operations Locks} {before after : State Locks}
    {request : Request} {memory : Bool} {reply : Reply}
    (stepped : step operations before (.request connection request memory) =
      some (after, reply)) :
    serve operations memory before connection request = (after, reply) := by
  unfold step at stepped
  dsimp only at stepped
  split at stepped
  · cases stepped
  · exact Option.some.inj stepped

theorem step_served {before after : State Table} {event : Event} {reply : Reply}
    (stepped : step lockTable before event = some (after, reply)) :
    Served before.locks after.locks event reply := by
  constructor
  · intro name hold holds other
    cases event with
    | request connection request memory =>
      have served := serve_others memory request holds
        (show hold.owner ≠ connection from other)
      rw [step_request stepped] at served
      exact served
    | wake connection slept memory =>
      unfold step at stepped
      dsimp only at stepped
      split at stepped
      · cases stepped
      · rename_i wait _
        have served := attempt_others memory { wait with waited := wait.waited +
          (if slept > 0 then slept else namedLockSleepMilliseconds wait.waited wait.timeout) }
          holds (show hold.owner ≠ connection from other)
        rw [Option.some.inj stepped] at served
        exact served
  · intro connection bytes memory name same validated hold holds own
    subst same
    have served := step_request stepped
    unfold serve at served
    simp only [validated, Prod.mk.injEq] at served
    rw [← served.1]
    exact release_own holds own
  · intro connection bytes memory same foreign
    subst same
    have served := step_request stepped
    unfold serve at served
    dsimp only at served
    split at served
    · cases served
      rfl
    · rename_i name validated
      rw [Prod.mk.injEq] at served
      rw [← served.1]
      exact release_foreign (fun hold held => foreign name hold validated held)
  · intro connection memory same
    subst same
    have served := step_request stepped
    cases served
    exact ⟨rfl, rfl⟩

/-! Runs of the process. -/

def Reached (state : State (List Entry)) : Prop :=
  Transition.Reaches (fun state event => (step registry state event).map Prod.fst)
    (fun _ _ => True) initial state

theorem Reached.registered (reached : Reached state) : Registered state.locks := by
  refine Transition.Reaches.invariant (fun state => Registered state.locks) reached ?_ ?_
  · exact ⟨List.nodup_nil, by intro entry member; cases member⟩
  · intro before event after registered _ stepped
    obtain ⟨pair, served, rfl⟩ := Option.map_eq_some_iff.mp stepped
    exact (step_refines registered event).2 pair.1 pair.2 served

/-- In every run the registry is the map, and each event does to it what it does
to the map. -/
theorem registry_refines_table (reached : Reached state) :
    Registered state.locks ∧ ∀ event,
      step lockTable state.table event =
        (step registry state event).map (Prod.map State.table id) ∧
      ∀ after reply, step registry state event = some (after, reply) →
        Served (tableOf state.locks) (tableOf after.locks) event reply := by
  refine ⟨reached.registered, ?_⟩
  intro event
  have refined := (step_refines reached.registered event).1
  refine ⟨refined, ?_⟩
  intro after reply stepped
  rw [stepped] at refined
  exact step_served refined

def firstName : LockName := ⟨[97], by decide, by decide⟩

def secondName : LockName := ⟨[98], by decide, by decide⟩

def heldBy (locks : List Entry) : State (List Entry) := { locks := locks, waits := fun _ => none }

theorem namedLockValidate_bytes (name : LockName) :
    namedLockValidate (some name.bytes) = .ok name := by
  unfold namedLockValidate
  dsimp only
  rw [dif_neg name.nonempty, dif_pos name.fits]

/-- A GET_LOCK that succeeds at once. -/
theorem Reached.get {locks after : List Entry} (reached : Reached (heldBy locks))
    (name : LockName) (connection : Nat)
    (tried : tryGetNamedLock true locks name connection = .ok (true, after)) :
    Reached (heldBy after) := by
  have idle : Function.update (fun _ => none : Nat → Option Wait) connection none =
      fun _ => none := Function.update_eq_self connection _
  have tried : registry.tryGet true locks name connection = .ok (true, after) := tried
  have stepped : (step registry (heldBy locks)
      (.request connection (.get (some name.bytes) 0) true)).map Prod.fst =
      some (heldBy after) := by
    simp only [step, heldBy, serve, namedLockValidate_bytes, attempt, tried, idle, Option.map_some]
  exact .next reached trivial stepped

theorem reached_first (count : Nat) (bounded : count < uint64Max) :
    Reached (heldBy [{ name := firstName, owner := 1, holdCount := count + 1 }]) := by
  induction count with
  | zero => exact Reached.get .refl firstName 1 (by decide)
  | succ count ih =>
    apply Reached.get (ih (by omega)) firstName 1
    have more : count + 1 ≠ uint64Max := by omega
    simp [tryGetNamedLock, findNamedLockEntry, more]

theorem reached_second (count : Nat) (bounded : count < uint64Max) :
    Reached (heldBy [{ name := firstName, owner := 1, holdCount := uint64Max },
      { name := secondName, owner := 1, holdCount := count + 1 }]) := by
  have other : (firstName = secondName) = False := by simp [firstName, secondName]
  induction count with
  | zero =>
    have first := reached_first (uint64Max - 1) (by decide)
    rw [show uint64Max - 1 + 1 = uint64Max from rfl] at first
    apply Reached.get first secondName 1
    simp [tryGetNamedLock, findNamedLockEntry, other]
  | succ count ih =>
    apply Reached.get (ih (by omega)) secondName 1
    have more : count + 1 ≠ uint64Max := by omega
    simp [tryGetNamedLock, findNamedLockEntry, List.findIdx?_cons, other, more]

/-- A connection that holds two locks as often as a lock can be held. -/
def fullHolds : List Entry :=
  [{ name := firstName, owner := 1, holdCount := uint64Max },
    { name := secondName, owner := 1, holdCount := uint64Max }]

theorem reached_fullHolds : Reached (heldBy fullHolds) :=
  reached_second (uint64Max - 1) (by decide)

/-- RELEASE_ALL_LOCKS cannot return the sum of the two. -/
theorem fullHolds_count_not_sum :
    ¬ ∀ state, Reached state → ∀ connection memory after count,
      step registry state (.request connection .releaseAll memory) = some (after, .count count) →
        count = (tableOf state.locks).held connection := by
  intro summed
  have registered := reached_fullHolds.registered
  have held : (tableOf fullHolds).held 1 = uint64Max + uint64Max :=
    held_tableOf registered 1
  have sum := summed _ reached_fullHolds 1 true
    { heldBy fullHolds with locks := (releaseAll fullHolds 1).1 } (releaseAll fullHolds 1).2 rfl
  have capped : (releaseAll fullHolds 1).2 = min uint64Max ((tableOf fullHolds).held 1) :=
    congrArg Prod.snd (releaseAll_refines registered 1).1
  rw [show (heldBy fullHolds).locks = fullHolds from rfl, held] at sum
  rw [capped, held] at sum
  unfold uint64Max at sum
  omega

/-- One connection holds the lock and another asks for it. -/
theorem registry_refines_table_contended :
    Reached (heldBy [{ name := firstName, owner := 1, holdCount := 1 }]) ∧
    Registered [{ name := firstName, owner := 1, holdCount := 1 }] ∧
    Served (tableOf [{ name := firstName, owner := 1, holdCount := 1 }])
      (tableOf [{ name := firstName, owner := 1, holdCount := 1 }])
      (.request 2 (.get (some [97]) 0) true) (.value 0) := by
  have reached := reached_first 0 (by decide)
  obtain ⟨registered, events⟩ := registry_refines_table reached
  refine ⟨reached, registered, ?_⟩
  have idle : Function.update (fun _ => none : Nat → Option Wait) 2 none =
      fun _ => none := Function.update_eq_self 2 _
  apply (events _).2 (heldBy [{ name := firstName, owner := 1, holdCount := 1 }])
  have refused : registry.tryGet true [{ name := firstName, owner := 1, holdCount := 1 }]
      firstName 2 = .ok (false, [{ name := firstName, owner := 1, holdCount := 1 }]) := by decide
  have validated : namedLockValidate (some [97]) = .ok firstName := namedLockValidate_bytes firstName
  simp only [step, heldBy, serve, validated, attempt, refused, idle]
  rfl

end MyLite.NamedLocks
