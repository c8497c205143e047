import MyLite.Session.AnsweredCalls

/-! The AUTO_INCREMENT counters never go back: a rollback restores the catalog row, and
the high waters of the session stand in for what it lost. -/

namespace MyLite.Transactions

open Snapshots (Store Transaction)

variable {Rows : Type} {answers : Answers} {connection : Connection Rows} {tableId value : Int}

/-- The counter of a table, where it has one, is at least a value. -/
def AtLeast (contents : Contents Rows) (tableId value : Int) : Prop :=
  ∀ next, contents.autoIncrementNext tableId = some next → value ≤ next

def GuardedBy (highWaters : List HighWater) (tableId value : Int) : Prop :=
  ∃ highWater ∈ highWaters, highWater.tableId = tableId ∧ value ≤ highWater.nextValue

/-! Applying the high waters. -/

/-- What applying high waters does to one counter. -/
theorem applyHighWater_cases (contents : Contents Rows) (highWater : HighWater) {next : Int}
    (found : (applyPersistentAutoIncrementHighWater contents highWater).autoIncrementNext tableId =
      some next) :
    ∃ before, contents.autoIncrementNext tableId = some before ∧ before ≤ next ∧
      (highWater.tableId = tableId → 0 < tableId → 0 < highWater.nextValue →
        highWater.nextValue ≤ next) := by
  unfold applyPersistentAutoIncrementHighWater at found
  split at found
  · rename_i skipped
    refine ⟨next, found, Int.le_refl _, ?_⟩
    intro same positive positiveValue
    simp only [Bool.or_eq_true, decide_eq_true_eq] at skipped
    omega
  · dsimp only at found
    split at found
    · obtain ⟨before, had, result⟩ := Option.map_eq_some_iff.mp found
      refine ⟨before, had, ?_, ?_⟩
      · split at result <;> omega
      · intro _ _ _
        split at result <;> omega
    · rename_i other
      refine ⟨next, found, Int.le_refl _, ?_⟩
      intro same
      exact absurd same.symm other

theorem AtLeast.applyHighWaters {contents : Contents Rows} (least : AtLeast contents tableId value)
    (highWaters : List HighWater) :
    AtLeast (applyPersistentAutoIncrementHighWaters highWaters contents) tableId value := by
  unfold applyPersistentAutoIncrementHighWaters
  induction highWaters generalizing contents with
  | nil => exact least
  | cons highWater rest ih =>
    apply ih
    intro next found
    obtain ⟨before, had, grown, _⟩ := applyHighWater_cases contents highWater found
    exact Int.le_trans (least before had) grown

theorem GuardedBy.applied {highWaters : List HighWater}
    (guarded : GuardedBy highWaters tableId value)
    (positiveTable : 0 < tableId) (positive : 0 < value) (contents : Contents Rows) :
    AtLeast (applyPersistentAutoIncrementHighWaters highWaters contents) tableId value := by
  obtain ⟨highWater, member, same, bound⟩ := guarded
  unfold applyPersistentAutoIncrementHighWaters
  induction highWaters generalizing contents with
  | nil => cases member
  | cons first rest ih =>
    rcases List.mem_cons.mp member with rfl | later
    · have here : AtLeast (applyPersistentAutoIncrementHighWater contents highWater) tableId
          value := by
        intro next found
        obtain ⟨_, _, _, reached⟩ := applyHighWater_cases contents highWater found
        exact Int.le_trans bound (reached same positiveTable (by omega))
      exact here.applyHighWaters rest
    · exact ih _ later

theorem GuardedBy.updates {session : Session}
    (guarded : GuardedBy session.autoIncrementHighWaters tableId value)
    (positiveTable : 0 < tableId) (positive : 0 < value) :
    hasPersistentAutoIncrementHighWaterUpdates session = true := by
  obtain ⟨highWater, member, same, bound⟩ := guarded
  unfold hasPersistentAutoIncrementHighWaterUpdates
  rw [List.any_eq_true]
  refine ⟨highWater, member, ?_⟩
  simp only [Bool.and_eq_true, decide_eq_true_eq]
  omega

/-! Recording. -/

theorem GuardedBy.append {highWaters : List HighWater}
    (guarded : GuardedBy highWaters tableId value)
    (more : List HighWater) : GuardedBy (highWaters ++ more) tableId value := by
  obtain ⟨highWater, member, fits⟩ := guarded
  exact ⟨highWater, List.mem_append_left more member, fits⟩

theorem GuardedBy.ensure {session : Session}
    (guarded : GuardedBy session.autoIncrementHighWaters tableId value) (other : Int) :
    GuardedBy (ensurePersistentAutoIncrementHighWaterSlot other session).autoIncrementHighWaters
      tableId value := by
  unfold ensurePersistentAutoIncrementHighWaterSlot
  split
  · exact guarded
  · split
    · exact guarded
    · exact guarded.append _

/-- A value that only replaces smaller ones takes nothing away. -/
theorem GuardedBy.set {highWaters : List HighWater} (guarded : GuardedBy highWaters tableId value)
    (other next : Int) (replace : Int → Bool)
    (raises : ∀ highWater ∈ highWaters, highWater.tableId = other →
      replace highWater.nextValue = true → highWater.nextValue ≤ next) :
    GuardedBy (setHighWater other next replace highWaters) tableId value := by
  induction highWaters with
  | nil => exact guarded
  | cons first rest ih =>
    obtain ⟨highWater, member, same, bound⟩ := guarded
    unfold setHighWater
    split
    · rename_i here
      rcases List.mem_cons.mp member with rfl | later
      · refine ⟨_, List.mem_cons_self, ?_, ?_⟩
        · split
          · exact here.symm.trans same
          · exact same
        · split
          · rename_i replaced
            exact Int.le_trans bound (raises highWater List.mem_cons_self here replaced)
          · exact bound
      · exact ⟨highWater, List.mem_cons_of_mem _ later, same, bound⟩
    · rcases List.mem_cons.mp member with rfl | later
      · exact ⟨highWater, List.mem_cons_self, same, bound⟩
      · obtain ⟨kept, inside, fits⟩ := ih ⟨highWater, later, same, bound⟩
          fun entry inRest => raises entry (List.mem_cons_of_mem _ inRest)
        exact ⟨kept, List.mem_cons_of_mem _ inside, fits⟩

/-- The value itself is among the high waters afterwards. -/
theorem setHighWater_guards {highWaters : List HighWater} {next : Int} {replace : Int → Bool}
    (present : ∃ highWater ∈ highWaters, highWater.tableId = tableId)
    (raises : ∀ current, replace current = false → next ≤ current) :
    GuardedBy (setHighWater tableId next replace highWaters) tableId next := by
  induction highWaters with
  | nil =>
    obtain ⟨_, member, _⟩ := present
    cases member
  | cons first rest ih =>
    unfold setHighWater
    split
    · rename_i here
      refine ⟨_, List.mem_cons_self, ?_, ?_⟩
      · split
        · rfl
        · exact here
      · split
        · exact Int.le_refl _
        · rename_i kept
          exact raises first.nextValue (by simpa using kept)
    · rename_i other
      obtain ⟨highWater, member, same⟩ := present
      rcases List.mem_cons.mp member with rfl | later
      · exact absurd same other
      · obtain ⟨kept, inside, fits⟩ := ih ⟨highWater, later, same⟩
        exact ⟨kept, List.mem_cons_of_mem _ inside, fits⟩

theorem GuardedBy.record {session : Session}
    (guarded : GuardedBy session.autoIncrementHighWaters tableId value) (other next : Int) :
    GuardedBy (recordPersistentAutoIncrementHighWater other next session).autoIncrementHighWaters
      tableId value := by
  unfold recordPersistentAutoIncrementHighWater
  split
  · exact guarded
  · rename_i accepted
    simp only [Bool.or_eq_true, decide_eq_true_eq, not_or] at accepted
    split
    · apply guarded.set
      intro highWater _ _ smaller
      simp only [decide_eq_true_eq] at smaller
      omega
    · rename_i missing
      apply (guarded.ensure other).set
      intro highWater member here _
      unfold ensurePersistentAutoIncrementHighWaterSlot at member
      split at member
      · exact absurd (List.any_eq_true.mpr ⟨highWater, member, by simpa using here⟩) missing
      · rcases List.mem_append.mp member with old | new
        · exact absurd (List.any_eq_true.mpr ⟨highWater, old, by simpa using here⟩) missing
        · rw [List.mem_singleton.mp new]
          dsimp only
          omega

/-- In a user transaction a value that is recorded is guarded from then on. -/
theorem record_guards {session : Session} (active : session.userTransactionActive = true)
    {next : Int} (positiveTable : 0 < tableId) (positive : 0 < next) :
    GuardedBy (recordPersistentAutoIncrementHighWater tableId next session).autoIncrementHighWaters
      tableId next := by
  have accepted : ¬ (!session.userTransactionActive || tableId ≤ 0 || next ≤ 0) = true := by
    simp only [active, Bool.not_true, Bool.false_or, Bool.or_eq_true, decide_eq_true_eq]
    omega
  unfold recordPersistentAutoIncrementHighWater
  rw [if_neg accepted]
  split
  · rename_i present
    apply setHighWater_guards
    · obtain ⟨highWater, member, here⟩ := List.any_eq_true.mp present
      exact ⟨highWater, member, by simpa using here⟩
    · intro current kept
      simp only [decide_eq_false_iff_not] at kept
      omega
  · rename_i missing
    apply setHighWater_guards
    · unfold ensurePersistentAutoIncrementHighWaterSlot
      have taken : ¬ (!session.userTransactionActive || tableId ≤ 0) = true := by
        simp only [active, Bool.not_true, Bool.false_or, decide_eq_true_eq]
        omega
      rw [if_neg taken, if_neg missing]
      exact ⟨⟨tableId, 0⟩, List.mem_append_right _ (List.mem_singleton_self _), rfl⟩
    · intro current kept
      cases kept

/-! Reading. -/

/-- The larger of the catalog's value and the table's high waters. -/
def raisedNext (tableId : Int) (highWaters : List HighWater) (next : Int) : Int :=
  highWaters.foldl (fun next highWater =>
    if highWater.tableId = tableId && next < highWater.nextValue then highWater.nextValue
    else next) next

theorem le_raisedNext (tableId : Int) (highWaters : List HighWater) (next : Int) :
    next ≤ raisedNext tableId highWaters next := by
  unfold raisedNext
  induction highWaters generalizing next with
  | nil => exact Int.le_refl _
  | cons highWater rest ih =>
    refine Int.le_trans ?_ (ih _)
    dsimp only
    split
    · rename_i raised
      simp only [Bool.and_eq_true, decide_eq_true_eq] at raised
      omega
    · exact Int.le_refl _

theorem GuardedBy.le_raisedNext {highWaters : List HighWater}
    (guarded : GuardedBy highWaters tableId value) (next : Int) :
    value ≤ raisedNext tableId highWaters next := by
  obtain ⟨highWater, member, same, bound⟩ := guarded
  induction highWaters generalizing next with
  | nil => cases member
  | cons first rest ih =>
    rcases List.mem_cons.mp member with rfl | later
    · refine Int.le_trans ?_ (Transactions.le_raisedNext tableId rest _)
      dsimp only
      split
      · exact bound
      · rename_i kept
        simp only [same, Bool.and_eq_true, decide_eq_true_eq, true_and] at kept
        omega
    · exact ih _ later

/-- What a read under the write lock returns, where it does not ask for INSERT_ID. -/
theorem read_some {plannedNext next : Int} {useSessionInsertId : Bool}
    (notAsked : useSessionInsertId = true → connection.session.insertId = 0)
    (base : 0 ≤ tableId)
    (read : readCurrentAutoIncrementNextAfterWriteLock connection tableId plannedNext
      useSessionInsertId = some next) :
    0 < next ∧ ∃ current, connection.sqlite.data.autoIncrementNext tableId = some current ∧
      next = raisedNext tableId connection.session.autoIncrementHighWaters current := by
  unfold readCurrentAutoIncrementNextAfterWriteLock at read
  split at read
  · cases read
  · split at read
    · rename_i uses
      simp only [Bool.and_eq_true, decide_eq_true_eq] at uses
      exact absurd (notAsked uses.1) uses.2
    · split at read
      · omega
      · split at read
        · cases read
        · obtain ⟨current, found, result⟩ := Option.bind_eq_some_iff.mp read
          dsimp only at result
          split at result
          · cases result
          · rename_i positive
            cases result
            exact ⟨by omega, current, found, rfl⟩

/-! The work of a statement on a counter. -/

section Work

variable {session : Session} {positiveMax : Nat}

theorem generated_ge (positiveIncrement : 0 < session.autoIncrementIncrement) {lower next : Int}
    (generated : generatedAutoIncrementValueForLowerBound session lower = some next) :
    lower ≤ next := by
  unfold generatedAutoIncrementValueForLowerBound at generated
  dsimp only at generated
  split at generated
  · cases generated
  · rename_i accepted
    simp only [Bool.or_eq_true, decide_eq_true_eq, not_or] at accepted
    split at generated
    · split at generated
      · cases generated
      · cases generated
        omega
    · rename_i above
      -- the steps round the distance up to a multiple of the increment
      generalize session.autoIncrementIncrement = increment at *
      generalize session.autoIncrementOffset = offset at *
      have division := Nat.div_add_mod (lower.toNat - offset) increment
      have remainder := Nat.mod_lt (lower.toNat - offset) positiveIncrement
      generalize (lower.toNat - offset) / increment = quotient at *
      generalize (lower.toNat - offset) % increment = rest at *
      rw [Nat.mul_comm] at division
      split at generated
      · split at generated
        · cases generated
        · cases generated
          have product : (quotient + 1) * increment = quotient * increment + increment :=
            Nat.succ_mul quotient increment
          omega
      · split at generated
        · cases generated
        · cases generated
          rw [Nat.add_zero]
          omega

theorem afterGenerated_ge {current next : Int}
    (advanced : nextAutoIncrementAfterGeneratedValue session positiveMax current = some next) :
    current ≤ next := by
  unfold nextAutoIncrementAfterGeneratedValue at advanced
  split at advanced
  · cases advanced
  · rename_i accepted
    simp only [Bool.or_eq_true, decide_eq_true_eq, not_or] at accepted
    split at advanced
    · cases advanced
      exact Int.le_refl _
    · split at advanced
      · split at advanced
        · cases advanced
        · cases advanced
          omega
      · cases advanced
        omega

theorem afterExplicit_ge {current inserted next : Int}
    (advanced : nextAutoIncrementAfterExplicitInsertValue positiveMax current inserted =
      some next) : current ≤ next := by
  unfold nextAutoIncrementAfterExplicitInsertValue at advanced
  split at advanced
  · cases advanced
  · split at advanced
    · cases advanced
      exact Int.le_refl _
    · split at advanced
      · cases advanced
      · split at advanced
        · cases advanced
          omega
        · cases advanced
          omega

theorem afterExplicit_mono {first second inserted firstNext secondNext : Int}
    (ordered : first ≤ second)
    (firstAdvanced : nextAutoIncrementAfterExplicitInsertValue positiveMax first inserted =
      some firstNext)
    (secondAdvanced : nextAutoIncrementAfterExplicitInsertValue positiveMax second inserted =
      some secondNext) : firstNext ≤ secondNext := by
  unfold nextAutoIncrementAfterExplicitInsertValue at firstAdvanced secondAdvanced
  split at firstAdvanced
  · cases firstAdvanced
  · split at secondAdvanced
    · cases secondAdvanced
    · grind

theorem afterUpdate_ge (positiveIncrement : 0 < session.autoIncrementIncrement)
    {current updated next : Int}
    (advanced : nextAutoIncrementAfterUpdateValue session positiveMax current updated =
      some next) : current ≤ next := by
  unfold nextAutoIncrementAfterUpdateValue at advanced
  split at advanced
  · cases advanced
  · split at advanced
    · cases advanced
      exact Int.le_refl _
    · split at advanced
      · cases advanced
      · split at advanced
        · cases advanced
          omega
        · have grown := generated_ge positiveIncrement advanced
          omega

theorem advanceInsertCounter_ge (positiveIncrement : 0 < session.autoIncrementIncrement)
    {counter next : InsertCounter} {row : RowValue × Bool}
    (ordered : counter.afterRows ≤ counter.planned)
    (advanced : advanceInsertCounter session positiveMax counter row = some next) :
    counter.afterRows ≤ next.afterRows ∧ next.afterRows ≤ next.planned := by
  unfold advanceInsertCounter at advanced
  split at advanced
  · obtain ⟨generated, allocated, advanced⟩ := Option.bind_eq_some_iff.mp advanced
    obtain ⟨after, moved, rfl⟩ := Option.map_eq_some_iff.mp advanced
    have first := generated_ge positiveIncrement allocated
    have second := afterGenerated_ge moved
    dsimp only
    split <;> omega
  · split at advanced
    · cases advanced
      exact ⟨Int.le_refl _, ordered⟩
    · obtain ⟨planned, moved, advanced⟩ := Option.bind_eq_some_iff.mp advanced
      obtain ⟨after, stored, rfl⟩ := Option.map_eq_some_iff.mp advanced
      have first := afterExplicit_ge moved
      have second := afterExplicit_ge stored
      dsimp only
      split
      · exact ⟨second, afterExplicit_mono ordered stored moved⟩
      · omega

theorem insertRows_ge (positiveIncrement : 0 < session.autoIncrementIncrement)
    {rows : List (RowValue × Bool)} {counter last : InsertCounter}
    (ordered : counter.afterRows ≤ counter.planned)
    (advanced : rows.foldlM (advanceInsertCounter session positiveMax) counter = some last) :
    counter.afterRows ≤ last.afterRows := by
  induction rows generalizing counter with
  | nil =>
    cases advanced
    exact Int.le_refl _
  | cons row rest ih =>
    rw [List.foldlM_cons] at advanced
    obtain ⟨next, first, later⟩ := Option.bind_eq_some_iff.mp advanced
    obtain ⟨grown, ordered⟩ := advanceInsertCounter_ge positiveIncrement ordered first
    exact Int.le_trans grown (ih ordered later)

/-- A statement never lowers the value it reads. -/
theorem CounterWork.next_ge (positiveIncrement : 0 < session.autoIncrementIncrement)
    {work : CounterWork} {current next : Int} (advanced : work.next session current = some next) :
    current ≤ next := by
  unfold CounterWork.next at advanced
  split at advanced
  · obtain ⟨last, inserted, rfl⟩ := Option.map_eq_some_iff.mp advanced
    have ordered : (InsertCounter.mk current current).afterRows ≤
        (InsertCounter.mk current current).planned := Int.le_refl _
    exact insertRows_ge positiveIncrement ordered inserted
  · split at advanced
    · cases advanced
      exact Int.le_refl _
    · exact afterUpdate_ge positiveIncrement advanced

/-- A counter moves up, or nothing is recorded. -/
theorem advanceCounter_cases (connection : Connection Rows)
    (noInsertId : connection.session.insertId = 0)
    (positiveIncrement : 0 < connection.session.autoIncrementIncrement) {work : CounterWork}
    {contents : Contents Rows} {recorded : Option Int}
    (advanced : advanceCounter connection work = some (contents, recorded)) :
    (contents = connection.sqlite.data ∧ recorded = none) ∨
    ∃ next, recorded = some next ∧ 0 < work.tableId ∧ 0 < next ∧
      (∃ current, connection.sqlite.data.autoIncrementNext work.tableId = some current ∧
        current ≤ next) ∧
      contents.autoIncrementNext = fun other =>
        if other = work.tableId then some next
        else connection.sqlite.data.autoIncrementNext other := by
  unfold advanceCounter at advanced
  obtain ⟨current, read, advanced⟩ := Option.bind_eq_some_iff.mp advanced
  obtain ⟨next, moved, advanced⟩ := Option.bind_eq_some_iff.mp advanced
  split at advanced
  · cases advanced
    exact Or.inl ⟨rfl, rfl⟩
  · right
    obtain ⟨updated, written, result⟩ := Option.map_eq_some_iff.mp advanced
    cases result
    unfold updateTableAutoIncrementNext at written
    split at written
    · cases written
    · rename_i accepted
      cases written
      simp only [Bool.or_eq_true, decide_eq_true_eq, not_or] at accepted
      refine ⟨next, rfl, by omega, by omega, ?_, rfl⟩
      obtain ⟨_, before, found, raised⟩ := read_some (fun _ => noInsertId) (by omega) read
      have lower := le_raisedNext work.tableId connection.session.autoIncrementHighWaters before
      have grown := CounterWork.next_ge positiveIncrement moved
      exact ⟨before, found, by omega⟩

end Work

/-! The invariant. -/

/-- All the contents that SQLite has or can go back to. -/
def snapshots (connection : Connection Rows) : List (Contents Rows) :=
  connection.sqlite.data :: match connection.sqlite.transaction with
    | none => []
    | some transaction => transaction.start :: transaction.savepoints.map Prod.snd

/-- A recorded value is a high water, or below the counter wherever SQLite can go. -/
def Covered (connection : Connection Rows) (tableId value : Int) : Prop :=
  GuardedBy connection.session.autoIncrementHighWaters tableId value ∨
    ∀ contents ∈ snapshots connection, AtLeast contents tableId value

theorem Covered.moved {after : Connection Rows} (covered : Covered connection tableId value)
    (highWaters : GuardedBy connection.session.autoIncrementHighWaters tableId value →
      GuardedBy after.session.autoIncrementHighWaters tableId value)
    (fewer : snapshots after ⊆ snapshots connection) : Covered after tableId value := by
  rcases covered with guarded | least
  · exact Or.inl (highWaters guarded)
  · exact Or.inr fun contents member => least contents (fewer member)

theorem Covered.flushed (covered : Covered connection tableId value) (positiveTable : 0 < tableId)
    (positive : 0 < value) {data : Contents Rows} (flushed : Flushed connection data) :
    AtLeast data tableId value := by
  rcases covered with guarded | least
  · rcases flushed with ⟨none, _⟩ | rfl
    · rw [guarded.updates positiveTable positive] at none
      cases none
    · exact guarded.applied positiveTable positive _
  · have current := least connection.sqlite.data List.mem_cons_self
    rcases flushed with ⟨_, rfl⟩ | rfl
    · exact current
    · exact current.applyHighWaters _

theorem Covered.committed (covered : Covered connection tableId value)
    (positiveTable : 0 < tableId) (positive : 0 < value) {data : Contents Rows}
    (flushed : Flushed connection data) : Covered (committed connection data) tableId value := by
  right
  intro contents member
  rw [List.mem_singleton.mp member]
  exact covered.flushed positiveTable positive flushed

theorem Covered.rolledBack (covered : Covered connection tableId value)
    {transaction : Transaction SqliteName (Contents Rows)}
    (opened : connection.sqlite.transaction = some transaction) :
    Covered (rolledBack connection transaction.start) tableId value := by
  apply covered.moved
  · exact id
  · intro contents member
    rw [List.mem_singleton.mp member, snapshots, opened]
    exact List.mem_cons_of_mem _ List.mem_cons_self

theorem Covered.ended (covered : Covered connection tableId value) (positiveTable : 0 < tableId)
    (positive : 0 < value) {after : Connection Rows} (ended : Ended connection after) :
    Covered after tableId value := by
  cases ended with
  | idle => exact covered
  | committed active flushed => exact covered.committed positiveTable positive flushed
  | rolledBack opened => exact covered.rolledBack opened
  | reconciled opened flushed =>
    exact (covered.rolledBack opened).committed positiveTable positive flushed

theorem Covered.started (covered : Covered connection tableId value) (readOnly : Bool)
    (isolation : Isolation) : Covered (started readOnly isolation connection) tableId value := by
  apply covered.moved
  · exact id
  · intro contents member
    have member : contents ∈ [connection.sqlite.data, connection.sqlite.data] := member
    have same : contents = connection.sqlite.data := by simpa using member
    rw [same]
    exact List.mem_cons_self

theorem Covered.ends (covered : Covered connection tableId value) (positiveTable : 0 < tableId)
    (positive : 0 < value) {result : Result Rows} (ends : Ends connection result) :
    Covered result.1 tableId value := by
  cases ends with
  | refused => exact covered
  | ended ok ended => exact covered.ended positiveTable positive ended
  | chained readOnly isolation ended =>
    exact (covered.ended positiveTable positive ended).started readOnly isolation

theorem Covered.home (covered : Covered connection tableId value) {home : Connection Rows}
    (begun : Home connection home) : Covered home tableId value := by
  cases begun with
  | same => exact covered
  | started readOnly isolation => exact covered.started readOnly isolation

theorem reserveCounter_guarded {session : Session} (counter : Option CounterWork)
    (guarded : GuardedBy session.autoIncrementHighWaters tableId value) :
    GuardedBy (reserveCounter counter session).autoIncrementHighWaters tableId value := by
  cases counter with
  | none => exact guarded
  | some work => exact guarded.ensure work.tableId

theorem recordCounter_guarded {session : Session} (counter : Option CounterWork)
    (recorded : Option Int) (guarded : GuardedBy session.autoIncrementHighWaters tableId value) :
    GuardedBy (recordCounter counter recorded session).autoIncrementHighWaters tableId value := by
  cases counter with
  | none => exact guarded
  | some work =>
    unfold recordCounter
    cases recorded with
    | none =>
      dsimp only
      split <;> exact guarded
    | some next =>
      dsimp only
      split <;> exact guarded.record work.tableId next

theorem Covered.session (covered : Covered connection tableId value) {change : Session → Session}
    (highWaters : ∀ session : Session, GuardedBy session.autoIncrementHighWaters tableId value →
      GuardedBy (change session).autoIncrementHighWaters tableId value) :
    Covered (connection.withSession change) tableId value :=
  covered.moved (highWaters connection.session) (List.Subset.refl _)

/-- The session settings that the counters depend on. -/
structure Counting (session : Session) : Prop where
  noInsertId : session.insertId = 0
  positiveIncrement : 0 < session.autoIncrementIncrement

theorem Counted.cases {work : Work Rows} {home : Connection Rows} {contents : Contents Rows}
    {recorded : Option Int} (counted : Counted work home contents recorded)
    (counting : Counting home.session) :
    (contents.autoIncrementNext = home.sqlite.data.autoIncrementNext ∧ recorded = none) ∨
    ∃ counter next, work.counter = some counter ∧ recorded = some next ∧ 0 < counter.tableId ∧
      0 < next ∧
      (∃ current, home.sqlite.data.autoIncrementNext counter.tableId = some current ∧
        current ≤ next) ∧
      contents.autoIncrementNext = fun other =>
        if other = counter.tableId then some next else home.sqlite.data.autoIncrementNext other := by
  unfold Counted at counted
  cases given : work.counter with
  | none =>
    rw [given] at counted
    exact Or.inl ⟨counted.1 ▸ rfl, counted.2⟩
  | some counter =>
    rw [given] at counted
    obtain ⟨transaction, advanced⟩ := counted
    have outcome := advanceCounter_cases (home.withSqlite home.sqlite.data (some transaction))
      counting.noInsertId counting.positiveIncrement advanced
    rcases outcome with ⟨rfl, none⟩ | ⟨next, some, table, positive, raised, moved⟩
    · exact Or.inl ⟨rfl, none⟩
    · exact Or.inr ⟨counter, next, rfl, some, table, positive, raised, moved⟩

theorem Counted.keeps {work : Work Rows} {home : Connection Rows} {contents : Contents Rows}
    {recorded : Option Int} (counted : Counted work home contents recorded)
    (counting : Counting home.session)
    (least : AtLeast home.sqlite.data tableId value) : AtLeast contents tableId value := by
  intro next found
  rcases counted.cases counting with
    ⟨same, _⟩ | ⟨counter, written, _, _, _, _, ⟨current, stored, raised⟩, moved⟩
  · rw [same] at found
    exact least next found
  · rw [moved] at found
    dsimp only at found
    split at found
    · rename_i here
      cases found
      have before := least current (here ▸ stored)
      omega
    · exact least next found

/-- A value recorded earlier stays covered when a statement writes. -/
theorem Covered.wrote {home : Connection Rows} (covered : Covered home tableId value)
    (counting : Counting home.session) {work : Work Rows} {contents : Contents Rows}
    {recorded : Option Int} (counted : Counted work home contents recorded) :
    Covered ((home.withSqlite (work.write contents) home.sqlite.transaction).withSession
      (recordCounter work.counter recorded)) tableId value := by
  rcases covered with guarded | least
  · exact Or.inl (recordCounter_guarded work.counter recorded guarded)
  · right
    intro other member
    rcases List.mem_cons.mp member with rfl | inTransaction
    · exact counted.keeps counting (least home.sqlite.data List.mem_cons_self)
    · exact least other (List.mem_cons_of_mem _ inTransaction)

/-- The value a statement records is covered: a high water in a user transaction,
committed outside one. -/
theorem Counted.covers {home : Connection Rows} (settled : Settled false home)
    (counting : Counting home.session) {work : Work Rows} {counter : CounterWork}
    (given : work.counter = some counter) {contents : Contents Rows} {next : Int}
    (counted : Counted work home contents (some next)) :
    0 < counter.tableId ∧ 0 < next ∧
      Covered ((home.withSqlite (work.write contents) home.sqlite.transaction).withSession
        (recordCounter work.counter (some next))) counter.tableId next := by
  rcases counted.cases counting with
    ⟨_, none⟩ | ⟨same, written, given', some, table, positive, _, moved⟩
  · cases none
  · rw [given] at given'
    cases given'
    cases some
    refine ⟨table, positive, ?_⟩
    cases active : home.session.userTransactionActive with
    | true =>
      left
      rw [given]
      unfold recordCounter
      dsimp only [withSession_session]
      split <;> exact record_guards active table positive
    | false =>
      right
      intro other member
      rw [settled.closed active] at member
      rw [List.mem_singleton.mp member]
      intro stored found
      have moved : (work.write contents).autoIncrementNext = _ := moved
      rw [withSession_sqlite, withSqlite_data, moved] at found
      dsimp only at found
      rw [if_pos rfl] at found
      cases found
      exact Int.le_refl _

/-! User savepoints. -/

theorem fromName_suffix {savepoints below : List (SqliteName × Contents Rows)} {name : SqliteName}
    {target : SqliteName × Contents Rows}
    (found : Store.fromName savepoints name = target :: below) :
    target :: below ⊆ savepoints := by
  rw [← found]
  exact (List.dropWhile_suffix _).subset

section Savepoints

variable {transaction : Transaction SqliteName (Contents Rows)}

theorem snapshots_of_some (opened : connection.sqlite.transaction = some transaction) :
    snapshots connection = connection.sqlite.data :: transaction.start ::
      transaction.savepoints.map Prod.snd := by
  rw [snapshots, opened]

theorem Covered.createSavepoint (covered : Covered connection tableId value)
    (answered : Answered answers) (name : List UInt8)
    (opened : connection.sqlite.transaction = some transaction) :
    Covered (createOrReplaceUserSavepoint name answers connection).1 tableId value := by
  rcases answered.createSavepoint name opened with result | result
  · rw [result]
    exact covered
  · rw [result]
    apply covered.moved
    · exact id
    · rw [snapshots_of_some opened]
      intro contents member
      have member : contents ∈ connection.sqlite.data :: transaction.start ::
        connection.sqlite.data :: transaction.savepoints.map Prod.snd := member
      simp only [List.mem_cons] at member ⊢
      tauto

/-- The contents of a savepoint, and those of the savepoints below it. -/
theorem Covered.cut (covered : Covered connection tableId value)
    (opened : connection.sqlite.transaction = some transaction) {data : Contents Rows}
    {savepoints : List (SqliteName × Contents Rows)} (fewer : savepoints ⊆ transaction.savepoints)
    (known : data = connection.sqlite.data ∨ ∃ name, (name, data) ∈ savepoints)
    {change : Session → Session}
    (sameHighWaters : ∀ session : Session,
      (change session).autoIncrementHighWaters = session.autoIncrementHighWaters) :
    Covered ((connection.withSqlite data (some { transaction with
      savepoints := savepoints })).withSession change) tableId value := by
  apply covered.moved
  · rw [withSession_session, withSqlite_session, sameHighWaters]
    exact id
  · rw [snapshots_of_some opened]
    intro contents member
    have member : contents ∈ data :: transaction.start :: savepoints.map Prod.snd := member
    have inTransaction : ∀ other ∈ savepoints.map Prod.snd,
        other ∈ transaction.savepoints.map Prod.snd := by
      intro other inside
      exact List.map_subset _ fewer inside
    simp only [List.mem_cons] at member ⊢
    rcases member with rfl | rfl | inside
    · rcases known with rfl | ⟨name, inside⟩
      · exact Or.inl rfl
      · exact Or.inr (Or.inr (inTransaction _ (List.mem_map_of_mem inside)))
    · exact Or.inr (Or.inl rfl)
    · exact Or.inr (Or.inr (inTransaction _ inside))

end Savepoints

/-! Statements. -/

theorem ensure_counting {session : Session} (counting : Counting session) (other : Int) :
    Counting (ensurePersistentAutoIncrementHighWaterSlot other session) := by
  unfold ensurePersistentAutoIncrementHighWaterSlot
  split
  · exact counting
  · split <;> exact ⟨counting.noInsertId, counting.positiveIncrement⟩

theorem reserveCounter_counting {session : Session} (counting : Counting session)
    (counter : Option CounterWork) : Counting (reserveCounter counter session) := by
  cases counter with
  | none => exact counting
  | some work => exact ensure_counting counting work.tableId

theorem record_counting {session : Session} (counting : Counting session) (other next : Int) :
    Counting (recordPersistentAutoIncrementHighWater other next session) := by
  unfold recordPersistentAutoIncrementHighWater
  split
  · exact counting
  · split
    · exact ⟨counting.noInsertId, counting.positiveIncrement⟩
    · obtain ⟨noInsertId, positiveIncrement⟩ := ensure_counting counting other
      exact ⟨noInsertId, positiveIncrement⟩

theorem recordCounter_counting {session : Session} (counting : Counting session)
    (counter : Option CounterWork) (recorded : Option Int) :
    Counting (recordCounter counter recorded session) := by
  cases counter with
  | none => exact counting
  | some work =>
    unfold recordCounter
    cases recorded with
    | none =>
      dsimp only
      split
      · exact ⟨rfl, counting.positiveIncrement⟩
      · exact counting
    | some next =>
      have recorded := record_counting counting work.tableId next
      dsimp only
      split
      · exact ⟨rfl, recorded.positiveIncrement⟩
      · exact recorded

theorem Ended.counting {after : Connection Rows} (ended : Ended connection after)
    (counting : Counting connection.session) : Counting after.session := by
  cases ended <;> exact ⟨counting.noInsertId, counting.positiveIncrement⟩

theorem Ends.counting {result : Result Rows} (ends : Ends connection result)
    (counting : Counting connection.session) : Counting result.1.session := by
  cases ends with
  | refused => exact counting
  | ended ok ended => exact ended.counting counting
  | chained readOnly isolation ended =>
    obtain ⟨noInsertId, positiveIncrement⟩ := ended.counting counting
    exact ⟨noInsertId, positiveIncrement⟩

theorem Home.counting {home : Connection Rows} (begun : Home connection home)
    (counting : Counting connection.session) : Counting home.session := by
  cases begun <;> exact ⟨counting.noInsertId, counting.positiveIncrement⟩

/-- What a statement leaves: the settings, the values covered before it and the value it
records itself. -/
structure Keeps (connection : Connection Rows) (counter : Option CounterWork)
    (result : Result Rows × Option Int) : Prop where
  counting : Counting result.1.1.session
  covered : ∀ tableId value, 0 < tableId → 0 < value → Covered connection tableId value →
    Covered result.1.1 tableId value
  recorded : ∀ next, result.2 = some next → ∃ work, counter = some work ∧ 0 < work.tableId ∧
    0 < next ∧ Covered result.1.1 work.tableId next

/-- A statement that records nothing. -/
theorem Keeps.silent {counter : Option CounterWork} {result : Result Rows}
    (counting : Counting result.1.session)
    (covered : ∀ tableId value, 0 < tableId → 0 < value → Covered connection tableId value →
      Covered result.1 tableId value) : Keeps connection counter (result, none) := by
  refine ⟨counting, covered, ?_⟩
  intro next recorded
  cases recorded

theorem Ends.keeps {counter : Option CounterWork} {result : Result Rows}
    (ends : Ends connection result) (counting : Counting connection.session) :
    Keeps connection counter (result, none) := by
  apply Keeps.silent (ends.counting counting)
  intro tableId value positiveTable positive covered
  exact covered.ends positiveTable positive ends

theorem Executed.keeps {work : Work Rows} {result : Result Rows × Option Int}
    (executed : Executed work connection result) (settled : Settled false connection)
    (counting : Counting connection.session) : Keeps connection work.counter result := by
  have reserved : Counting (connection.withSession (reserveCounter work.counter)).session :=
    reserveCounter_counting counting work.counter
  have reservedSettled := settled.frame _ (reserveCounter_frame work.counter)
  have covered : ∀ {home : Connection Rows} {tableId value : Int},
      Home (connection.withSession (reserveCounter work.counter)) home →
      Covered connection tableId value → Covered home tableId value := by
    intro home tableId value begun covered
    exact (covered.session fun _ => reserveCounter_guarded work.counter).home begun
  cases executed with
  | failed begun =>
    apply Keeps.silent (begun.counting reserved)
    intro tableId value _ _ before
    exact covered begun before
  | @wrote home contents recorded begun counted =>
    have homeCounting := begun.counting reserved
    refine ⟨recordCounter_counting homeCounting work.counter recorded, ?_, ?_⟩
    · intro tableId value _ _ before
      exact (covered begun before).wrote homeCounting counted
    · intro next same
      have same : recorded = some next := same
      subst same
      rcases counted.cases homeCounting with ⟨_, none⟩ | ⟨counter, _, given, _⟩
      · cases none
      · exact ⟨counter, given,
          counted.covers (begun.settled reservedSettled) homeCounting given⟩

theorem Planned.keeps {work : Work Rows} {result : Result Rows × Option Int}
    (planned : Planned work connection result) (settled : Settled false connection)
    (counting : Counting connection.session) : Keeps connection work.counter result := by
  cases planned with
  | refused begun =>
    apply Keeps.silent (begun.counting counting)
    intro tableId value _ _ before
    exact before.home begun
  | executed begun executed =>
    have kept := executed.keeps (begun.settled settled) (begun.counting counting)
    refine ⟨kept.counting, ?_, kept.recorded⟩
    intro tableId value positiveTable positive before
    exact kept.covered tableId value positiveTable positive (before.home begun)
  | abandoned recorded inactive =>
    apply Keeps.silent
    · exact recordCounter_counting (reserveCounter_counting counting work.counter) work.counter
        recorded
    · intro tableId value _ _ before
      have reserved := before.session fun _ => reserveCounter_guarded work.counter
      exact reserved.session fun _ => recordCounter_guarded work.counter recorded

theorem createSavepoint_counting (counting : Counting connection.session)
    (answered : Answered answers) (name : List UInt8)
    {transaction : Transaction SqliteName (Contents Rows)}
    (opened : connection.sqlite.transaction = some transaction) :
    Counting (createOrReplaceUserSavepoint name answers connection).1.session := by
  rcases answered.createSavepoint name opened with result | result
  · rw [result]
    exact counting
  · rw [result]
    exact ⟨counting.noInsertId, counting.positiveIncrement⟩

section SavepointStatements

variable {counter : Option CounterWork} (settled : Settled false connection)
  (counting : Counting connection.session) (answered : Answered answers) (name : List UInt8)

include settled counting answered

theorem Answered.savepointKeeps :
    Keeps connection counter (executeSavepointStatement name answers connection, none) := by
  unfold executeSavepointStatement
  split
  · exact .silent counting fun _ _ _ _ => id
  · split
    · rename_i active
      obtain ⟨transaction, opened, _⟩ := settled.opened active
      apply Keeps.silent (createSavepoint_counting counting answered name opened)
      intro tableId value _ _ before
      exact before.createSavepoint answered name opened
    · rename_i idle
      have inactive : connection.session.userTransactionActive = false := by simpa using idle
      split
      · rename_i disabled
        have enabled : connection.session.autocommitEnabled = false := by simpa using disabled
        rw [answered.beginDisabled (settled.closed inactive) (by simp [inactive, enabled]),
          andThen_true]
        have begun := Home.started (currentTransactionReadOnly connection.session)
          (currentTransactionIsolation connection.session) inactive (settled.closed inactive)
        apply Keeps.silent (createSavepoint_counting (begun.counting counting) answered name rfl)
        intro tableId value _ _ before
        exact (before.home begun).createSavepoint answered name rfl
      · exact .silent counting fun _ _ _ _ => id

theorem Answered.rollbackToKeeps :
    Keeps connection counter
      (executeRollbackToSavepointStatement name answers connection, none) := by
  cases found : registeredSavepoint connection.session name with
  | none =>
    unfold executeRollbackToSavepointStatement
    rw [found]
    exact .silent counting fun _ _ _ _ => id
  | some entry =>
    obtain ⟨index, savepoint⟩ := entry
    obtain ⟨transaction, opened, _⟩ := settled.opened (registered_active found)
    cases located : Store.fromName transaction.savepoints savepoint.sqliteName with
    | nil =>
      unfold executeRollbackToSavepointStatement
      rw [found]
      dsimp only
      rcases call_rollbackTo answers .rollbackTo savepoint.sqliteName opened with
        ⟨_, _, same, _⟩ | ⟨result, _⟩
      · rw [located] at same
        cases same
      · rw [result, andThen_false]
        exact .silent counting fun _ _ _ _ => id
    | cons target below =>
      rw [answered.rollbackTo found opened located]
      apply Keeps.silent
      · exact ⟨counting.noInsertId, counting.positiveIncrement⟩
      · intro tableId value _ _ before
        apply before.cut opened (fromName_suffix located)
        · exact Or.inr ⟨target.1, List.mem_cons_self⟩
        · intro session
          rfl

theorem Answered.releaseKeeps :
    Keeps connection counter (executeReleaseSavepointStatement name answers connection, none) := by
  cases found : registeredSavepoint connection.session name with
  | none =>
    unfold executeReleaseSavepointStatement
    rw [found]
    exact .silent counting fun _ _ _ _ => id
  | some entry =>
    obtain ⟨index, savepoint⟩ := entry
    obtain ⟨transaction, opened, explicit⟩ := settled.opened (registered_active found)
    cases located : Store.fromName transaction.savepoints savepoint.sqliteName with
    | nil =>
      unfold executeReleaseSavepointStatement
      rw [found]
      dsimp only
      rcases call_release answers .release savepoint.sqliteName opened explicit with
        ⟨_, _, same, _⟩ | ⟨result, _⟩
      · rw [located] at same
        cases same
      · rw [result, andThen_false]
        exact .silent counting fun _ _ _ _ => id
    | cons target below =>
      rw [answered.release found opened explicit located]
      apply Keeps.silent
      · exact ⟨counting.noInsertId, counting.positiveIncrement⟩
      · intro tableId value _ _ before
        apply before.cut opened
        · exact List.Subset.trans (List.subset_cons_self _ _) (fromName_suffix located)
        · exact Or.inl rfl
        · intro session
          rfl

theorem Answered.setAutocommitKeeps (value : Bool) :
    Keeps connection counter (applySetAutocommit value answers connection, none) := by
  rcases setAutocommit_cases answered settled value with result | ⟨after, rfl | ended, result⟩
  · rw [result]
    exact .silent counting fun _ _ _ _ => id
  · rw [result]
    apply Keeps.silent
    · exact ⟨counting.noInsertId, counting.positiveIncrement⟩
    · intro tableId _ _ _ before
      exact before.session fun _ => id
  · rw [result]
    obtain ⟨noInsertId, positiveIncrement⟩ := ended.counting counting
    apply Keeps.silent
    · exact ⟨noInsertId, positiveIncrement⟩
    · intro tableId _ positiveTable positive before
      exact (before.ended positiveTable positive ended).session fun _ => id

end SavepointStatements

/-! Whole runs. -/

def Statement.counter : Statement Rows → Option CounterWork
  | .write work => work.counter
  | .planned work _ _ => work.counter
  | _ => none

/-- A run with the values recorded in it, by table. -/
structure History (Rows : Type) where
  connection : Connection Rows
  recorded : List (Int × Int)

/-- The table and the value a statement records. -/
def recordedBy (counter : Option CounterWork) (recorded : Option Int) : List (Int × Int) :=
  match counter, recorded with
  | some work, some next => [(work.tableId, next)]
  | _, _ => []

def History.step (history : History Rows) (event : Event Rows) : Option (History Rows) :=
  let result := execute history.connection event
  some {
    connection := result.1.1
    recorded := recordedBy event.statement.counter result.2 ++ history.recorded }

/-- The statement asks for no AUTO_INCREMENT value of its own. -/
def Statement.KeepsInsertId : Statement Rows → Prop
  | .setInsertId value => value = 0
  | _ => True

/-- One statement. -/
theorem Event.Answered.keeps {event : Event Rows} (answered : event.Answered)
    (settled : Settled false connection) (counting : Counting connection.session)
    (keepsInsertId : event.statement.KeepsInsertId) :
    Keeps connection event.statement.counter (execute connection event) := by
  obtain ⟨statement, answers⟩ := event
  obtain ⟨calls, inner⟩ := answered
  unfold execute
  rw [settled.certain, if_neg Bool.false_ne_true]
  cases statement with
  | startTransaction readOnly isolation =>
    exact (calls.startTransaction settled readOnly isolation).keeps counting
  | commit chain => exact (calls.commitStatement settled chain).keeps counting
  | rollback chain => exact (calls.rollbackStatement settled chain).keeps counting
  | implicitCommit => exact (calls.implicitCommit settled).keeps counting
  | savepoint name => exact calls.savepointKeeps settled counting name
  | rollbackToSavepoint name => exact calls.rollbackToKeeps settled counting name
  | releaseSavepoint name => exact calls.releaseKeeps settled counting name
  | setAutocommit value => exact calls.setAutocommitKeeps settled counting value
  | setInsertId value =>
    apply Keeps.silent
    · exact ⟨keepsInsertId, counting.positiveIncrement⟩
    · intro _ _ _ _ before
      exact before.session fun _ => id
  | setAutoIncrementIncrement value =>
    apply Keeps.silent
    · exact ⟨counting.noInsertId, autoIncrementStepValue_pos value⟩
    · intro _ _ _ _ before
      exact before.session fun _ => id
  | setAutoIncrementOffset value =>
    apply Keeps.silent
    · exact ⟨counting.noInsertId, counting.positiveIncrement⟩
    · intro _ _ _ _ before
      exact before.session fun _ => id
  | write work => exact (calls.write settled work).keeps settled counting
  | planned work commitsImplicitly other =>
    exact (calls.planned inner settled work commitsImplicitly).keeps settled counting
  | read =>
    have begun := calls.read settled
    apply Keeps.silent (begun.counting counting)
    intro _ _ _ _ before
    exact before.home begun
  | prepare =>
    have begun := calls.prepare connection
    apply Keeps.silent (begun.counting counting)
    intro _ _ _ _ before
    exact before.home begun

/-- The invariant of a run. -/
structure Tracked (history : History Rows) : Prop where
  settled : Settled false history.connection
  counting : Counting history.connection.session
  covered : ∀ entry ∈ history.recorded, 0 < entry.1 ∧ 0 < entry.2 ∧
    Covered history.connection entry.1 entry.2

theorem Tracked.step {history after : History Rows} (tracked : Tracked history)
    {event : Event Rows} (answered : event.Answered)
    (keepsInsertId : event.statement.KeepsInsertId) (taken : history.step event = some after) :
    Tracked after := by
  cases taken
  have kept := answered.keeps tracked.settled tracked.counting keepsInsertId
  refine ⟨answered.settled tracked.settled, kept.counting, ?_⟩
  intro entry member
  rcases List.mem_append.mp member with new | old
  · unfold recordedBy at new
    split at new
    · rename_i work next given recorded
      rw [List.mem_singleton.mp new]
      obtain ⟨same, found, covers⟩ := kept.recorded next recorded
      rw [given] at found
      cases found
      exact covers
    · cases new
  · obtain ⟨table, positive, covered⟩ := tracked.covered entry old
    exact ⟨table, positive, kept.covered entry.1 entry.2 table positive covered⟩

/-- The connection in a write transaction, for a statement that works on a counter. -/
def reading (connection : Connection Rows) (counter : Option CounterWork)
    (transaction : Transaction SqliteName (Contents Rows)) : Connection Rows :=
  (connection.withSession (reserveCounter counter)).withSqlite connection.sqlite.data
    (some transaction)

/-- What a covered value means to a read. -/
theorem Covered.le_read (covered : Covered connection tableId value) (table : 0 < tableId)
    (counting : Counting connection.session) {counter : Option CounterWork}
    {transaction : Transaction SqliteName (Contents Rows)} {plannedNext next : Int}
    {useSessionInsertId : Bool}
    (read : readCurrentAutoIncrementNextAfterWriteLock (reading connection counter transaction)
      tableId plannedNext useSessionInsertId = some next) : value ≤ next := by
  have reserved := reserveCounter_counting counting counter
  obtain ⟨_, current, stored, raised⟩ :=
    read_some (fun _ => reserved.noInsertId) (Int.le_of_lt table) read
  rw [raised]
  rcases covered with guarded | least
  · exact (reserveCounter_guarded counter guarded).le_raisedNext current
  · exact Int.le_trans (least connection.sqlite.data List.mem_cons_self current stored)
      (le_raisedNext tableId _ current)

/-- In every run whose control calls succeed, and in which the session asks for no
INSERT_ID, a read returns at least every value recorded before. -/
theorem auto_increment_never_goes_back {start : Connection Rows} (opened : Opened start)
    (noInsertId : start.session.insertId = 0) {history : History Rows}
    (reached : Transition.Reaches History.step
      (fun _ event => event.Answered ∧ event.statement.KeepsInsertId) ⟨start, []⟩ history)
    (recorded : (tableId, value) ∈ history.recorded) (counter : Option CounterWork)
    (transaction : Transaction SqliteName (Contents Rows)) {plannedNext next : Int}
    {useSessionInsertId : Bool}
    (read : readCurrentAutoIncrementNextAfterWriteLock
      (reading history.connection counter transaction) tableId plannedNext useSessionInsertId =
        some next) : value ≤ next := by
  have tracked : Tracked history := by
    apply reached.invariant Tracked
    · refine ⟨opened.settled, ⟨noInsertId, opened.positiveIncrement⟩, ?_⟩
      intro entry member
      cases member
    · intro before event after tracked allowed taken
      exact tracked.step allowed.1 allowed.2 taken
  obtain ⟨table, _, covered⟩ := tracked.covered _ recorded
  exact covered.le_read table tracked.counting read

/-- An INSERT of one row with a generated value. -/
def generatedInsert : CounterWork where
  tableId := 1
  positiveMax := 100
  plannedNext := 1
  change := .insert [(.generated, true)]

def oneTable : Contents Unit := { rows := (), autoIncrementNext := fun _ => some 1 }

def unitEvent (statement : Statement Unit) : Event Unit :=
  { statement := statement, answers := allOk }

def insertRun : List (Event Unit) :=
  [unitEvent (.startTransaction none none), unitEvent (.savepoint [97]),
    unitEvent (.write { rows := id, counter := some generatedInsert })]

def historyAfter (events : List (Event Unit)) : History Unit :=
  events.foldl (fun history event => (history.step event).getD history)
    ⟨initialConnection oneTable, []⟩

theorem insertRun_answered {event : Event Unit} (member : event ∈ insertRun) :
    event.Answered ∧ event.statement.KeepsInsertId := by
  simp only [insertRun, List.mem_cons, List.not_mem_nil, or_false] at member
  rcases member with rfl | rfl | rfl <;> exact ⟨⟨fun _ _ => rfl, trivial⟩, trivial⟩

def afterPartialRollback : History Unit :=
  historyAfter (insertRun ++ [unitEvent (.rollbackToSavepoint [97])])

/-- What the next INSERT reads after the partial rollback. -/
def readAfterPartialRollback : Option Int :=
  readCurrentAutoIncrementNextAfterWriteLock
    (reading afterPartialRollback.connection (some generatedInsert) ⟨oneTable, true, []⟩) 1 1 true

/-- After a partial rollback the catalog row is back at 1, and the read returns 2. -/
theorem auto_increment_never_goes_back_rollbackTo :
    afterPartialRollback.connection.sqlite.data.autoIncrementNext 1 = some 1 ∧
    (1, 2) ∈ afterPartialRollback.recorded ∧ readAfterPartialRollback = some 2 ∧
    ∀ next, readAfterPartialRollback = some next → (2 : Int) ≤ next := by
  have reached : Transition.Reaches History.step
      (fun _ event => event.Answered ∧ event.statement.KeepsInsertId)
      ⟨initialConnection oneTable, []⟩ afterPartialRollback := by
    apply Transition.Reaches.refl.foldl (fun _ _ => rfl)
    intro event member _
    rcases List.mem_append.mp member with inserts | last
    · exact insertRun_answered inserts
    · rw [List.mem_singleton.mp last]
      exact ⟨⟨fun _ _ => rfl, trivial⟩, trivial⟩
  have recorded : ((1 : Int), (2 : Int)) ∈ afterPartialRollback.recorded := by decide +kernel
  refine ⟨rfl, recorded, by decide +kernel, ?_⟩
  intro next read
  exact auto_increment_never_goes_back (initialConnection_opened oneTable) rfl reached recorded
    (some generatedInsert) ⟨oneTable, true, []⟩ read

/-- A nonzero INSERT_ID is taken as it is. -/
theorem insertId_goes_back :
    ¬ ∀ (start : Connection Unit) (history : History Unit), Opened start →
      Transition.Reaches History.step (fun _ event => event.Answered) ⟨start, []⟩ history →
      ∀ (tableId value : Int), (tableId, value) ∈ history.recorded →
      ∀ (counter : Option CounterWork) (transaction : Transaction SqliteName (Contents Unit))
        (plannedNext next : Int) (useSessionInsertId : Bool),
        readCurrentAutoIncrementNextAfterWriteLock
          (reading history.connection counter transaction) tableId plannedNext
          useSessionInsertId = some next → value ≤ next := by
  intro claim
  have reached : Transition.Reaches History.step (fun _ event => event.Answered)
      ⟨initialConnection oneTable, []⟩
      (historyAfter (insertRun ++ [unitEvent (.setInsertId 1)])) := by
    apply Transition.Reaches.refl.foldl (fun _ _ => rfl)
    intro event member _
    rcases List.mem_append.mp member with inserts | last
    · exact (insertRun_answered inserts).1
    · rw [List.mem_singleton.mp last]
      exact ⟨fun _ _ => rfl, trivial⟩
  have lower := claim _ _ (initialConnection_opened oneTable) reached 1 2 (by decide +kernel)
    (some generatedInsert) ⟨oneTable, true, []⟩ 1 1 true (by decide +kernel)
  exact absurd lower (by decide)

end MyLite.Transactions
