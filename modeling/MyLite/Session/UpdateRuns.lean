import MyLite.Session.UpdateCounter

/-! The counter stays above the AUTO_INCREMENT column, as long as no UPDATE copies a
larger value into it. -/

namespace MyLite.InsertCounter

open Transactions (Session nextAutoIncrementAfterUpdateValue generated_ge afterUpdate_ge
  readCurrentAutoIncrementNextAfterWriteLock)

variable {table : AutoIncrementTable} {state : TableState} {session : Session}

/-! One UPDATE. -/

theorem afterUpdate_advances {positiveMax : Nat} {current value next : Int}
    (positiveIncrement : 0 < session.autoIncrementIncrement)
    (advanced : nextAutoIncrementAfterUpdateValue session positiveMax current value = some next) :
    Advances positiveMax current next ∧ Covers positiveMax next value := by
  have grows := afterUpdate_ge positiveIncrement advanced
  unfold nextAutoIncrementAfterUpdateValue at advanced
  split at advanced
  · cases advanced
  · split at advanced
    · cases advanced
      exact ⟨.refl _ _, fun _ => .inl ‹_›⟩
    · split at advanced
      · cases advanced
      · split at advanced
        · cases advanced
          exact ⟨⟨grows, fun _ => by omega⟩, fun _ => .inr (by omega)⟩
        · have above := generated_ge positiveIncrement advanced
          exact ⟨⟨grows, fun _ => by omega⟩, fun _ => .inl (by omega)⟩

/-- What an updated column holds. -/
theorem updateColumn_mem {cell : Nat → Option Int} {changed : Nat → Bool} {row : Nat}
    {column updated : List Int} (update : updateColumn cell changed row column = some updated)
    {value : Int} (member : value ∈ updated) :
    value ∈ column ∨ ∃ position, row ≤ position ∧ position < row + column.length ∧
      changed position = true ∧ cell position = some value := by
  induction column generalizing row updated with
  | nil =>
    cases update
    cases member
  | cons old rest ih =>
    obtain ⟨new, toNew, update⟩ := Option.bind_eq_some_iff.mp update
    obtain ⟨others, toOthers, result⟩ := Option.map_eq_some_iff.mp update
    cases result
    rw [List.length_cons]
    rcases List.mem_cons.mp member with rfl | later
    · split at toNew
      · rename_i isChanged
        exact .inr ⟨row, Nat.le_refl _, by omega, isChanged, toNew⟩
      · cases toNew
        exact .inl List.mem_cons_self
    · rcases ih toOthers later with kept | ⟨position, from_, below, isChanged, stored⟩
      · exact .inl (List.mem_cons_of_mem _ kept)
      · exact .inr ⟨position, by omega, by omega, isChanged, stored⟩

theorem read_update (behind : Behind table state.counter.stored session)
    (base : 0 ≤ table.tableId) {descriptorNext next : Int}
    (read : readCurrentAutoIncrementNextAfterWriteLock (state.counter.locked table session)
      table.tableId descriptorNext false = some next) : next = state.counter.stored := by
  obtain ⟨_, current, found, raised⟩ :=
    Transactions.read_some (fun asked => by cases asked) base read
  have stored : current = state.counter.stored := by
    simp only [State.locked, if_true, Option.some.injEq] at found
    exact found.symm
  rw [raised, stored]
  exact raisedNext_eq behind.highWaters

/-- The positive values an UPDATE copies into the column are below the counter. -/
def CopiesBelow (state : TableState) (statement : UpdateStatement) : Prop :=
  ∀ assignment source, autoIncrementAssignment statement.assignments = some assignment →
    assignment.assigned = .columnCopy source →
    ∀ row < state.column.length, statement.changed row = true →
      0 < source row → source row < state.counter.stored

theorem assignsAutoIncrement_value {assignments : List Assignment} {assignment : Assignment}
    {value : PlannedValue} (found : autoIncrementAssignment assignments = some assignment)
    (assigned : assignment.assigned = .value value) : assignsAutoIncrement assignments = true := by
  unfold assignsAutoIncrement
  split
  · rename_i only
    have same : only = assignment := List.mem_singleton.mp (List.mem_of_find?_eq_some found) ▸ rfl
    have isTarget := List.find?_some found
    subst same
    rw [assigned]
    exact isTarget
  · rw [found]
    rfl

/-- An UPDATE leaves the counter as it read it and stores nothing above it; or it read
the stored counter and raises it over what it stores. -/
theorem executeUpdateBody_covers {statement : UpdateStatement} {current next : Int}
    {column : List Int} (behind : Behind table state.counter.stored session)
    (base : 0 ≤ table.tableId) (below : CopiesBelow state statement)
    (covered : ∀ value ∈ state.column, Covers table.positiveMax state.counter.stored value)
    (executed : executeUpdateBody table state session statement = some (current, next, column)) :
    next = current ∧ (∀ value ∈ column, Covers table.positiveMax state.counter.stored value) ∨
    current = state.counter.stored ∧ Advances table.positiveMax current next ∧
      ∀ value ∈ column, Covers table.positiveMax next value := by
  unfold executeUpdateBody at executed
  dsimp only at executed
  split at executed
  · cases executed
  · obtain ⟨read, toRead, executed⟩ := Option.bind_eq_some_iff.mp executed
    obtain ⟨updated, update, executed⟩ := Option.bind_eq_some_iff.mp executed
    obtain ⟨moved, advanced, result⟩ := Option.map_eq_some_iff.mp executed
    cases result
    unfold advanceAutoIncrementAfterUpdate at advanced
    cases found : autoIncrementAssignment statement.assignments with
    | none =>
      simp only [found, Option.some.injEq] at update
      simp only [found, Option.map_none, ite_self, Option.some.injEq] at advanced
      subst update
      exact .inl ⟨advanced.symm, covered⟩
    | some assignment =>
      simp only [found] at update
      simp only [found, Option.map_some] at advanced
      -- what the rows of the update add to the column
      have stored : ∀ value ∈ column, value ∈ state.column ∨
          ∃ row < state.column.length, statement.changed row = true ∧
            assignment.assigned.cell row = some value := by
        intro value member
        rcases updateColumn_mem update member with kept | ⟨row, _, inside, changed, cell⟩
        · exact .inl kept
        · exact .inr ⟨row, by omega, changed, cell⟩
      have keepsColumn (noCell : ∀ row, assignment.assigned.cell row = none) :
          ∀ value ∈ column, Covers table.positiveMax state.counter.stored value := by
        intro value member
        rcases stored value member with kept | ⟨row, _, _, cell⟩
        · exact covered value kept
        · rw [noCell row] at cell
          cases cell
      cases assigned : assignment.assigned with
      | value planned =>
        cases planned with
        | integer value =>
          simp only [assigned] at advanced
          split at advanced
          · rename_i none
            cases advanced
            refine .inl ⟨rfl, ?_⟩
            intro other member
            rcases stored other member with kept | ⟨row, inside, changed, _⟩
            · exact covered other kept
            · rw [List.countP_eq_zero] at none
              exact absurd changed (none row (List.mem_range.mpr inside))
          · have isValue : ∀ other ∈ column, other ∈ state.column ∨ other = value := by
              intro other member
              rcases stored other member with kept | ⟨row, _, _, cell⟩
              · exact .inl kept
              · rw [assigned, AssignedValue.cell, Option.some.injEq] at cell
                exact .inr cell.symm
            split at advanced
            · rename_i notPositive
              cases advanced
              refine .inl ⟨rfl, ?_⟩
              intro other member
              rcases isValue other member with kept | rfl
              · exact covered other kept
              · intro positive
                omega
            · rw [if_pos (assignsAutoIncrement_value found assigned)] at toRead
              have atStored := read_update behind base toRead
              obtain ⟨advances, covers⟩ := afterUpdate_advances behind.positiveIncrement advanced
              refine .inr ⟨atStored, advances, ?_⟩
              intro other member
              rcases isValue other member with kept | rfl
              · exact Covers.advance (atStored ▸ covered other kept) advances
              · exact covers
        | null =>
          simp only [assigned, ite_self, Option.some.injEq] at advanced
          exact .inl ⟨advanced.symm, keepsColumn fun row => by rw [assigned]; rfl⟩
        | text =>
          simp only [assigned, ite_self, Option.some.injEq] at advanced
          exact .inl ⟨advanced.symm, keepsColumn fun row => by rw [assigned]; rfl⟩
      | columnCopy source =>
        simp only [assigned, ite_self, Option.some.injEq] at advanced
        refine .inl ⟨advanced.symm, ?_⟩
        intro other member
        rcases stored other member with kept | ⟨row, inside, changed, cell⟩
        · exact covered other kept
        · rw [assigned, AssignedValue.cell, Option.some.injEq] at cell
          subst cell
          intro positive
          exact .inl (below assignment source found assigned row inside changed positive)
      | rowScalar =>
        simp only [assigned, ite_self, Option.some.injEq] at advanced
        exact .inl ⟨advanced.symm, keepsColumn fun row => by rw [assigned]; rfl⟩
      | dateInterval =>
        simp only [assigned, ite_self, Option.some.injEq] at advanced
        exact .inl ⟨advanced.symm, keepsColumn fun row => by rw [assigned]; rfl⟩
      | sameColumnArithmetic =>
        simp only [assigned, ite_self, Option.some.injEq] at advanced
        exact .inl ⟨advanced.symm, keepsColumn fun row => by rw [assigned]; rfl⟩

/-! Runs. -/

/-- The counter is above every positive value of the column, or at the maximum that is
stored there. -/
structure Covered (table : AutoIncrementTable) (state : TableState) : Prop where
  consistent : Consistent table state.counter
  covers : ∀ value ∈ state.column, Covers table.positiveMax state.counter.stored value

/-- No INSERT uses a session INSERT_ID. -/
def NoInsertId (state : TableState) : TableEvent → Prop
  | .session event _ =>
    match event.command with
    | .insert _ => (state.counter.sessions event.connection).insertId = 0
    | _ => True
  | .update _ _ => True

/-- No UPDATE copies a value into the column that is not below the counter, nor does
the clause of ON DUPLICATE KEY UPDATE store an explicit one. -/
def CopiesBelowCounter (state : TableState) : TableEvent → Prop
  | .session event _ =>
    match event.command with
    | .insert statement => ∀ value, Assigned statement value → value < state.counter.stored
    | _ => True
  | .update _ statement => CopiesBelow state statement

theorem noInsertId_keepsCounter (base : 0 ≤ table.tableId) {event : Event}
    {conflicting : List Nat} (noInsertId : NoInsertId state (.session event conflicting))
    (below : CopiesBelowCounter state (.session event conflicting)) :
    KeepsCounter table state.counter event := by
  unfold KeepsCounter
  split
  · rename_i insert command
    rw [NoInsertId, command] at noInsertId
    rw [CopiesBelowCounter, command] at below
    exact ⟨fun _ => .inl base, below, .inl (Int.natCast_eq_zero.mpr noInsertId)⟩
  · trivial

theorem mem_assignRows {column : List Int} {updates : List (Nat × Int)} {value : Int}
    (member : value ∈ assignRows column updates) :
    value ∈ column ∨ ∃ update ∈ updates, update.2 = value := by
  unfold assignRows at member
  induction updates generalizing column with
  | nil => exact .inl member
  | cons update rest ih =>
    rcases ih member with first | ⟨later, inside, same⟩
    · rcases List.mem_or_eq_of_mem_set first with kept | new
      · exact .inl kept
      · exact .inr ⟨update, List.mem_cons_self, new.symm⟩
    · exact .inr ⟨later, List.mem_cons_of_mem _ inside, same⟩

theorem Covered.afterInsert (covered : Covered table state) (base : 0 ≤ table.tableId)
    {event : Event} {conflicting : List Nat}
    (noInsertId : NoInsertId state (.session event conflicting))
    (below : CopiesBelowCounter state (.session event conflicting)) :
    Covered table (state.step table (.session event conflicting)) := by
  have kept := step_kept covered.consistent (noInsertId_keepsCounter base noInsertId below)
  refine ⟨kept.consistent, ?_⟩
  intro value member
  have old (inside : value ∈ state.column) : Covers table.positiveMax
      (InsertCounter.step table state.counter event).1.stored value :=
    (covered.covers value inside).advance kept.advances
  dsimp only [TableState.step] at member
  split at member
  · exact old member
  · rename_i report reported
    obtain ⟨_, after, covers, _⟩ := kept.reported report reported
    rw [after] at covers
    rcases mem_assignRows member with stays | ⟨update, inside, same⟩
    · rcases List.mem_append.mp stays with before | new
      · exact old before
      · exact covers value (.inl new)
    · rw [← same]
      exact covers update.2 (.inr (List.of_mem_zip (b := update.2) inside).2)

theorem Covered.update (covered : Covered table state) (base : 0 ≤ table.tableId)
    {connection : Nat} {statement : UpdateStatement} (below : CopiesBelow state statement) :
    Covered table (executeUpdate table state connection statement) := by
  obtain ⟨consistent, covers⟩ := covered
  have positive := consistent.positive
  have behind : Behind table state.counter.stored
      (if assignsAutoIncrement statement.assignments then
        Transactions.ensurePersistentAutoIncrementHighWaterSlot table.tableId
          (state.counter.sessions connection)
      else state.counter.sessions connection) := by
    split
    · exact (consistent.behind connection).ensure positive
    · exact consistent.behind connection
  unfold executeUpdate
  dsimp only
  generalize (if assignsAutoIncrement statement.assignments then
    Transactions.ensurePersistentAutoIncrementHighWaterSlot table.tableId
      (state.counter.sessions connection)
    else state.counter.sessions connection) = reserved at *
  have unchanged := @Consistent.withSession table state.counter reserved connection consistent behind
  split
  · exact ⟨unchanged, covers⟩
  · rename_i current next column executed
    have spec := executeUpdateBody_covers behind base below covers executed
    split
    · exact ⟨unchanged, covers⟩
    · split
      · rename_i unmoved
        rcases spec with ⟨_, stays⟩ | ⟨atStored, _, stays⟩
        · exact ⟨unchanged, stays⟩
        · rw [unmoved, atStored] at stays
          exact ⟨unchanged, stays⟩
      · rename_i moved
        rcases spec with ⟨unmoved, _⟩ | ⟨atStored, advances, raised⟩
        · exact absurd unmoved moved
        · rw [atStored] at advances
          have later : Consistent table { state.counter with stored := next } :=
            ⟨Int.lt_of_lt_of_le positive advances.grows,
              fun other => (consistent.behind other).later advances.grows⟩
          exact ⟨later.withSession ((behind.later advances.grows).record later.positive), raised⟩

/-- In every run from an empty table the counter is above each positive value of the
column that is not its maximum, and no INSERT generates an id that the column holds. -/
theorem counter_covers_column {start : TableState} (base : 0 ≤ table.tableId)
    (consistent : Consistent table start.counter) (empty : start.column = [])
    (reached : Transition.Reaches (fun before event => some (TableState.step table before event))
      (fun before event => NoInsertId before event ∧ CopiesBelowCounter before event)
      start state) :
    (∀ value ∈ state.column, 0 < value →
      value < state.counter.stored ∨ value = table.positiveMax) ∧
    ∀ event conflicting report, NoInsertId state (.session event conflicting) →
      CopiesBelowCounter state (.session event conflicting) →
      (InsertCounter.step table state.counter event).2 = some report →
      ∀ id : Int, id ∈ report.generated → id ∈ state.column → id = table.positiveMax := by
  have covered : Covered table state := by
    apply reached.invariant (Covered table)
    · refine ⟨consistent, ?_⟩
      rw [empty]
      intro value member
      cases member
    · intro before event after covered allowed taken
      cases taken
      cases event with
      | session event conflicting => exact covered.afterInsert base allowed.1 allowed.2
      | update connection statement => exact covered.update base allowed.2
  constructor
  · intro value member positive
    exact (covered.covers value member positive).imp id fun atMax => atMax.1
  · intro event conflicting report noInsertId below reported id generated member
    have kept := step_kept covered.consistent (noInsertId_keepsCounter base noInsertId below)
    obtain ⟨_, _, _, fresh⟩ := kept.reported report reported
    obtain ⟨bound, _, positive⟩ := fresh id generated
    rcases covered.covers id member positive with below | ⟨atMax, _⟩
    · omega
    · exact atMax

def emptyTable : TableState where
  counter := counterAt 1
  column := []

/-- UPDATE of every row. -/
def updateAll (assigned : AssignedValue) : TableEvent :=
  .update 1 {
    assignments := [⟨true, false, assigned⟩]
    descriptorNext := 1
    changed := fun _ => true
    commits := true }

def tableAfter (events : List TableEvent) : TableState :=
  events.foldl (TableState.step tinyTable) emptyTable

/-- A generated id, an id set to 50, and a smaller one copied into the column. -/
theorem counter_covers_column_run :
    let state := tableAfter [.session (insertOne .null) [], updateAll (.value (.integer 50)),
      updateAll (.columnCopy fun _ => 7)]
    (∀ value ∈ state.column, 0 < value →
      value < state.counter.stored ∨ value = tinyTable.positiveMax) ∧
    ∀ event conflicting report, NoInsertId state (.session event conflicting) →
      CopiesBelowCounter state (.session event conflicting) →
      (InsertCounter.step tinyTable state.counter event).2 = some report →
      ∀ id : Int, id ∈ report.generated → id ∈ state.column → id = tinyTable.positiveMax := by
  have consistent : Consistent tinyTable emptyTable.counter := counterAt_consistent (by decide)
  refine counter_covers_column (by decide) consistent rfl ?_
  have first : NoInsertId emptyTable (.session (insertOne .null) []) ∧
      CopiesBelowCounter emptyTable (.session (insertOne .null) []) := by
    refine ⟨rfl, ?_⟩
    intro value assigned
    obtain ⟨row, member, _, updated⟩ := assigned
    rw [List.mem_singleton.mp member] at updated
    cases updated
  have second : NoInsertId (tableAfter [.session (insertOne .null) []])
        (updateAll (.value (.integer 50))) ∧
      CopiesBelowCounter (tableAfter [.session (insertOne .null) []])
        (updateAll (.value (.integer 50))) := by
    refine ⟨trivial, ?_⟩
    intro assignment source found assigned
    cases found
    cases assigned
  have third : NoInsertId (tableAfter [.session (insertOne .null) [],
        updateAll (.value (.integer 50))]) (updateAll (.columnCopy fun _ => 7)) ∧
      CopiesBelowCounter (tableAfter [.session (insertOne .null) [],
        updateAll (.value (.integer 50))]) (updateAll (.columnCopy fun _ => 7)) := by
    refine ⟨trivial, ?_⟩
    intro assignment source found assigned row _ _ _
    cases found
    cases assigned
    have above : (7 : Int) < (tableAfter [.session (insertOne .null) [],
        updateAll (.value (.integer 50))]).counter.stored := by decide +kernel
    exact above
  exact .next (.next (.next .refl first rfl) second rfl) third rfl

/-- UPDATE copies 100 into the column, and the counter stays at 2. -/
theorem column_copy_passes_counter :
    ¬ ∀ (table : AutoIncrementTable) (start state : TableState), 0 ≤ table.tableId →
      Consistent table start.counter → start.column = [] →
      Transition.Reaches (fun before event => some (TableState.step table before event))
        (fun before event => NoInsertId before event) start state →
      (∀ value ∈ state.column, 0 < value →
        value < state.counter.stored ∨ value = table.positiveMax) ∧
      ∀ event conflicting report, NoInsertId state (.session event conflicting) →
        (InsertCounter.step table state.counter event).2 = some report →
        ∀ id : Int, id ∈ report.generated → id ∈ state.column → id = table.positiveMax := by
  intro claim
  have consistent : Consistent tinyTable emptyTable.counter := counterAt_consistent (by decide)
  have reached : Transition.Reaches
      (fun before event => some (TableState.step tinyTable before event))
      (fun before event => NoInsertId before event) emptyTable
      (tableAfter [.session (insertOne .null) [], updateAll (.columnCopy fun _ => 100)]) := by
    have first : NoInsertId emptyTable (.session (insertOne .null) []) := rfl
    have second : NoInsertId (tableAfter [.session (insertOne .null) []])
        (updateAll (.columnCopy fun _ => 100)) := trivial
    exact .next (.next .refl first rfl) second rfl
  obtain ⟨covers, _⟩ := claim tinyTable _ _ (by decide) consistent rfl reached
  have column : (tableAfter [.session (insertOne .null) [],
      updateAll (.columnCopy fun _ => 100)]).column = [100] := by decide +kernel
  have stored : (tableAfter [.session (insertOne .null) [],
      updateAll (.columnCopy fun _ => 100)]).counter.stored = 2 := by decide +kernel
  rw [column, stored] at covers
  exact absurd (covers 100 List.mem_cons_self (by decide)) (by decide)

/-- So does the explicit id that a conflict on another key stores in the existing row. -/
example :
    let state := tableAfter [.session (insertOne .null) [],
      .session (insertRow (.integer 100) (.duplicateUpdated true)) [0]]
    state.column = [100] ∧ state.counter.stored = 2 := by decide +kernel

end MyLite.InsertCounter
