import MyLite.Session.AnsweredCalls
import MyLite.Library.Keyed

/-! The session's savepoints against MySQL's: one savepoint a name, in the order they
were last set, each with the data it was set on. -/

namespace MyLite.Transactions

open Snapshots (Store Transaction)

/-- The savepoints of a MySQL transaction, the earliest first. -/
structure MySqlSavepoints (Name Data : Type) where
  data : Data
  savepoints : List (Name × Data)

namespace MySqlSavepoints

variable {Name Data : Type} [DecidableEq Name]

/-- SAVEPOINT: an old savepoint of the name is deleted. -/
def set (mysql : MySqlSavepoints Name Data) (name : Name) : MySqlSavepoints Name Data :=
  { mysql with savepoints :=
      mysql.savepoints.filter (fun savepoint => savepoint.1 ≠ name) ++ [(name, mysql.data)] }

/-- The savepoints set before the one of a name. -/
def before (mysql : MySqlSavepoints Name Data) (name : Name) : List (Name × Data) :=
  mysql.savepoints.takeWhile fun savepoint => savepoint.1 ≠ name

/-- ROLLBACK TO SAVEPOINT; without the savepoint it is an error. -/
def rollbackTo (mysql : MySqlSavepoints Name Data) (name : Name) :
    Option (MySqlSavepoints Name Data) :=
  (Keyed.lookup Prod.fst mysql.savepoints name).map fun savepoint =>
    { data := savepoint.2, savepoints := mysql.before name ++ [savepoint] }

/-- RELEASE SAVEPOINT. -/
def release (mysql : MySqlSavepoints Name Data) (name : Name) :
    Option (MySqlSavepoints Name Data) :=
  (Keyed.lookup Prod.fst mysql.savepoints name).map fun _ =>
    { mysql with savepoints := mysql.before name }

/-- The outcome of ROLLBACK TO SAVEPOINT; it can report an error once it has restored
the data. -/
def RollsBackTo (mysql : MySqlSavepoints Name Data) (name : Name) (ok : Bool)
    (after : MySqlSavepoints Name Data) : Prop :=
  match mysql.rollbackTo name with
  | none => ok = false ∧ after = mysql
  | some restored => after = restored

/-- The outcome of RELEASE SAVEPOINT. -/
def Releases (mysql : MySqlSavepoints Name Data) (name : Name) (ok : Bool)
    (after : MySqlSavepoints Name Data) : Prop :=
  match mysql.release name with
  | none => ok = false ∧ after = mysql
  | some released => ok = true ∧ after = released

variable {mysql : MySqlSavepoints Name Data} {earlier later : List (Name × Data)} {name : Name}
  {data : Data}

theorem lookup_split (split : mysql.savepoints = earlier ++ (name, data) :: later)
    (first : ∀ savepoint ∈ earlier, savepoint.1 ≠ name) :
    Keyed.lookup Prod.fst mysql.savepoints name = some (name, data) ∧
      mysql.before name = earlier := by
  unfold Keyed.lookup before
  rw [split]
  constructor
  · rw [List.find?_append, List.find?_eq_none.mpr (by simpa using first)]
    simp
  · rw [List.takeWhile_append_of_pos (by simpa using first)]
    simp

theorem lookup_absent (absent : ∀ savepoint ∈ mysql.savepoints, savepoint.1 ≠ name) :
    Keyed.lookup Prod.fst mysql.savepoints name = none := by
  apply List.find?_eq_none.mpr
  simpa using absent

end MySqlSavepoints

variable {Rows : Type} {answers : Answers} {connection : Connection Rows}

/-- SQLite's savepoints, the most recent first. -/
def stack (connection : Connection Rows) : List (SqliteName × Contents Rows) :=
  match connection.sqlite.transaction with
  | none => []
  | some transaction => transaction.savepoints

/-- The registry as MySQL sees it: each savepoint with the data SQLite has for it. -/
def mysqlView (connection : Connection Rows) : MySqlSavepoints (List UInt8) (Contents Rows) where
  data := connection.sqlite.data
  savepoints := connection.session.savepoints.filterMap fun savepoint =>
    (Keyed.lookup Prod.fst (stack connection) savepoint.sqliteName).map fun entry =>
      (savepoint.foldedName, entry.2)

/-- The registry in step with the stack: `marks` are its savepoints with the data they
were set on. -/
structure Registered (connection : Connection Rows) (marks : List (Savepoint × Contents Rows)) :
    Prop where
  registry : connection.session.savepoints = marks.map Prod.fst
  ordered : (marks.map fun mark => (mark.1.sqliteName, mark.2)).reverse.Sublist (stack connection)
  distinct : (marks.map fun mark => mark.1.foldedName).Nodup
  short : ∀ mark ∈ marks, mark.1.foldedName.length < 64
  unique : ((stack connection).map Prod.fst).Nodup
  allocated : ∀ entry ∈ stack connection, ∃ id < connection.session.nextSavepointId,
    entry.1 = .user connection.session.connectionId id

theorem stack_of_some {transaction : Transaction SqliteName (Contents Rows)}
    (opened : connection.sqlite.transaction = some transaction) :
    stack connection = transaction.savepoints := by
  rw [stack, opened]

theorem stack_of_none (closed : connection.sqlite.transaction = none) : stack connection = [] := by
  rw [stack, closed]

section Registry

variable {marks : List (Savepoint × Contents Rows)}

theorem Registered.empty (savepoints : connection.session.savepoints = [])
    (noStack : stack connection = []) : Registered connection [] := by
  refine ⟨savepoints, List.nil_sublist _, List.nodup_nil, ?_, ?_, ?_⟩
  · intro mark member
    cases member
  · rw [noStack]
    exact List.nodup_nil
  · intro entry member
    rw [noStack] at member
    cases member

/-- What does not touch the savepoints. -/
theorem Registered.frame (registered : Registered connection marks) {after : Connection Rows}
    (sameStack : stack after = stack connection)
    (sameSavepoints : after.session.savepoints = connection.session.savepoints)
    (sameNext : after.session.nextSavepointId = connection.session.nextSavepointId)
    (sameConnection : after.session.connectionId = connection.session.connectionId) :
    Registered after marks := by
  refine ⟨sameSavepoints.trans registered.registry, ?_, registered.distinct, registered.short,
    ?_, ?_⟩
  · rw [sameStack]
    exact registered.ordered
  · rw [sameStack]
    exact registered.unique
  · rw [sameStack, sameNext, sameConnection]
    exact registered.allocated

theorem Registered.lookup (registered : Registered connection marks)
    {mark : Savepoint × Contents Rows} (member : mark ∈ marks) :
    Keyed.lookup Prod.fst (stack connection) mark.1.sqliteName =
      some (mark.1.sqliteName, mark.2) := by
  have inStack : (mark.1.sqliteName, mark.2) ∈ stack connection := by
    apply registered.ordered.subset
    rw [List.mem_reverse]
    exact List.mem_map_of_mem member
  exact Keyed.lookup_of_mem registered.unique inStack

/-- MySQL's view of the registry. -/
theorem Registered.view (registered : Registered connection marks) :
    (mysqlView connection).savepoints =
      marks.map fun mark => (mark.1.foldedName, mark.2) := by
  unfold mysqlView
  rw [registered.registry, List.filterMap_map, ← List.filterMap_eq_map]
  apply List.filterMap_congr
  intro mark member
  simp [registered.lookup member]

theorem Registered.found {earlier later : List (Savepoint × Contents Rows)} {savepoint : Savepoint}
    {data : Contents Rows}
    (registered : Registered connection (earlier ++ (savepoint, data) :: later)) :
    ∃ below, Store.fromName (stack connection) savepoint.sqliteName =
        (savepoint.sqliteName, data) :: below ∧
      ((savepoint.sqliteName, data) :: below).Sublist (stack connection) ∧
      (earlier.map fun mark => (mark.1.sqliteName, mark.2)).reverse.Sublist below := by
  apply Store.fromName_of_sublist registered.unique
  simpa using registered.ordered

theorem foldSavepointName_length (name : List UInt8) :
    (foldSavepointName name).length = name.length := by
  rw [foldSavepointName, List.length_map]

/-- The marks once a name is set. -/
def setMarks (marks : List (Savepoint × Contents Rows)) (connection : Connection Rows)
    (name : List UInt8) : List (Savepoint × Contents Rows) :=
  marks.filter (fun mark => mark.1.foldedName ≠ foldSavepointName name) ++
    [(newSavepoint name connection.session, connection.sqlite.data)]

/-- The new SQLite savepoint goes on top; an old one of the name stays where it is. -/
theorem Registered.set (registered : Registered connection marks) {name : List UInt8}
    (short : name.length < 64) {transaction : Transaction SqliteName (Contents Rows)}
    (opened : connection.sqlite.transaction = some transaction) {after : Connection Rows}
    (result : after = (connection.withSqlite connection.sqlite.data (some { transaction with
        savepoints := ((newSavepoint name connection.session).sqliteName, connection.sqlite.data) ::
          transaction.savepoints })).withSession (registering name)) :
    Registered after (setMarks marks connection name) := by
  have pushed : stack after = ((newSavepoint name connection.session).sqliteName,
      connection.sqlite.data) :: stack connection := by
    rw [result, stack_of_some opened]
    rfl
  have kept : connection.session.savepoints.eraseP
      (fun savepoint => savepoint.foldedName = foldSavepointName name) =
      (marks.filter fun mark => mark.1.foldedName ≠ foldSavepointName name).map Prod.fst := by
    have distinct : ((marks.map Prod.fst).map Savepoint.foldedName).Nodup := by
      rw [List.map_map]
      exact registered.distinct
    rw [registered.registry, Keyed.eraseP_eq_filter distinct, List.filter_map]
    rfl
  refine ⟨?_, ?_, ?_, ?_, ?_, ?_⟩
  · rw [result, setMarks, List.map_append, ← kept]
    rfl
  · rw [pushed, setMarks, List.map_append, List.reverse_append]
    apply List.Sublist.cons_cons
    apply List.Sublist.trans _ registered.ordered
    exact (List.filter_sublist.map _).reverse
  · rw [setMarks, List.map_append, List.nodup_append]
    refine ⟨registered.distinct.sublist (List.filter_sublist.map _), by simp, ?_⟩
    intro first inFirst second inSecond same
    obtain ⟨mark, member, rfl⟩ := List.mem_map.mp inFirst
    simp only [List.map_cons, List.map_nil, List.mem_singleton] at inSecond
    have other := (List.mem_filter.mp member).2
    simp only [ne_eq, decide_eq_true_eq] at other
    exact other (same.trans inSecond)
  · intro mark member
    rcases List.mem_append.mp member with old | new
    · exact registered.short mark (List.mem_filter.mp old).1
    · rw [List.mem_singleton.mp new]
      exact lt_of_eq_of_lt (foldSavepointName_length name) short
  · rw [pushed, List.map_cons, List.nodup_cons]
    refine ⟨?_, registered.unique⟩
    intro member
    obtain ⟨entry, inStack, same⟩ := List.mem_map.mp member
    obtain ⟨id, bound, name⟩ := registered.allocated entry inStack
    rw [name] at same
    cases same
    exact Nat.lt_irrefl _ bound
  · rw [pushed, result]
    intro entry member
    rcases List.mem_cons.mp member with rfl | inStack
    · exact ⟨connection.session.nextSavepointId, Nat.lt_succ_self _, rfl⟩
    · obtain ⟨id, bound, name⟩ := registered.allocated entry inStack
      exact ⟨id, Nat.lt_succ_of_lt bound, name⟩

theorem setMarks_view (registered : Registered connection marks) (name : List UInt8) :
    ((setMarks marks connection name).map fun mark => (mark.1.foldedName, mark.2)) =
      ((mysqlView connection).set (foldSavepointName name)).savepoints := by
  unfold MySqlSavepoints.set
  rw [registered.view, List.filter_map, setMarks, List.map_append]
  rfl

/-- The marks up to one of them, with the stack cut off at it. -/
theorem Registered.cut {earlier later : List (Savepoint × Contents Rows)}
    (registered : Registered connection (earlier ++ later)) {after : Connection Rows}
    (savepoints : after.session.savepoints = earlier.map Prod.fst)
    (cut : (stack after).Sublist (stack connection))
    (ordered : (earlier.map fun mark => (mark.1.sqliteName, mark.2)).reverse.Sublist (stack after))
    (sameNext : after.session.nextSavepointId = connection.session.nextSavepointId)
    (sameConnection : after.session.connectionId = connection.session.connectionId) :
    Registered after earlier := by
  have fewer : earlier.Sublist (earlier ++ later) := List.sublist_append_left _ _
  refine ⟨savepoints, ordered, ?_, ?_, ?_, ?_⟩
  · exact registered.distinct.sublist (fewer.map _)
  · intro mark member
    exact registered.short mark (fewer.subset member)
  · exact registered.unique.sublist (cut.map _)
  · intro entry member
    rw [sameNext, sameConnection]
    exact registered.allocated entry (cut.subset member)

theorem registeredSavepoint_some {session : Session} {name : List UInt8} {index : Nat}
    {savepoint : Savepoint}
    (found : registeredSavepoint session name = some (index, savepoint)) :
    savepoint.foldedName = foldSavepointName name ∧
      ∃ earlier later, session.savepoints = earlier ++ savepoint :: later ∧
        earlier.length = index ∧ ∀ other ∈ earlier, other.foldedName ≠ foldSavepointName name := by
  unfold registeredSavepoint at found
  split at found
  · cases found
  · obtain ⟨_, located, entry⟩ := Option.bind_eq_some_iff.mp found
    obtain ⟨_, entry, same⟩ := Option.map_eq_some_iff.mp entry
    cases same
    obtain ⟨inside, matching, first⟩ := List.findIdx?_eq_some_iff_getElem.mp located
    rw [List.getElem?_eq_getElem inside] at entry
    cases entry
    refine ⟨by simpa using matching, session.savepoints.take index,
      session.savepoints.drop (index + 1), ?_, ?_, ?_⟩
    · simp
    · rw [List.length_take]
      omega
    · intro other member
      obtain ⟨position, bound, rfl⟩ := List.mem_iff_getElem.mp member
      rw [List.length_take] at bound
      simpa using first position (by omega)

theorem registeredSavepoint_none {session : Session} {name : List UInt8}
    (missing : registeredSavepoint session name = none) :
    64 ≤ name.length ∨ session.userTransactionActive = false ∨
      ∀ savepoint ∈ session.savepoints, savepoint.foldedName ≠ foldSavepointName name := by
  unfold registeredSavepoint at missing
  split at missing
  · rename_i condition
    simp only [Bool.or_eq_true, decide_eq_true_eq, Bool.not_eq_true'] at condition
    rcases condition with long | inactive
    · exact Or.inl long
    · exact Or.inr (Or.inl inactive)
  · right
    right
    rcases Option.bind_eq_none_iff.mp missing with absent
    cases located : findUserSavepoint session name with
    | none =>
      intro savepoint member
      simpa using List.findIdx?_eq_none_iff.mp located savepoint member
    | some index =>
      obtain ⟨inside, _⟩ := List.findIdx?_eq_some_iff_getElem.mp located
      have impossible := absent index located
      rw [List.getElem?_eq_getElem inside] at impossible
      cases impossible

/-- A registered savepoint among the marks. -/
theorem Registered.split (registered : Registered connection marks) {name : List UInt8}
    {index : Nat} {savepoint : Savepoint}
    (found : registeredSavepoint connection.session name = some (index, savepoint)) :
    ∃ earlier data later, marks = earlier ++ (savepoint, data) :: later ∧
      earlier.length = index ∧ savepoint.foldedName = foldSavepointName name ∧
      ∀ mark ∈ earlier, mark.1.foldedName ≠ foldSavepointName name := by
  obtain ⟨folded, before, after, savepoints, length, first⟩ := registeredSavepoint_some found
  rw [registered.registry] at savepoints
  obtain ⟨earlier, rest, rfl, rfl, tail⟩ := List.map_eq_append_iff.mp savepoints
  obtain ⟨mark, later, rfl, rfl, _⟩ := List.map_eq_cons_iff.mp tail
  refine ⟨earlier, mark.2, later, rfl, ?_, folded, ?_⟩
  · simpa using length
  · intro other member
    exact first other.1 (List.mem_map_of_mem member)

/-- A name that is not registered is not one of MySQL's savepoints either. -/
theorem Registered.absent (registered : Registered connection marks)
    (settled : Settled false connection) {name : List UInt8}
    (missing : registeredSavepoint connection.session name = none) :
    Keyed.lookup Prod.fst (mysqlView connection).savepoints (foldSavepointName name) = none := by
  apply MySqlSavepoints.lookup_absent
  rw [registered.view]
  intro savepoint member same
  obtain ⟨mark, inMarks, rfl⟩ := List.mem_map.mp member
  have inRegistry : mark.1 ∈ connection.session.savepoints := by
    rw [registered.registry]
    exact List.mem_map_of_mem inMarks
  rcases registeredSavepoint_none missing with long | inactive | absent
  · have short := registered.short mark inMarks
    rw [show mark.1.foldedName = foldSavepointName name from same,
      foldSavepointName_length] at short
    omega
  · rw [(settled.idle inactive).1] at inRegistry
    cases inRegistry
  · exact absent mark.1 inRegistry same

/-- MySQL's savepoint of a registered name, and those before it. -/
theorem Registered.view_split {earlier later : List (Savepoint × Contents Rows)}
    {savepoint : Savepoint} {data : Contents Rows} {name : List UInt8}
    (registered : Registered connection (earlier ++ (savepoint, data) :: later))
    (folded : savepoint.foldedName = foldSavepointName name)
    (first : ∀ mark ∈ earlier, mark.1.foldedName ≠ foldSavepointName name) :
    Keyed.lookup Prod.fst (mysqlView connection).savepoints (foldSavepointName name) =
        some (foldSavepointName name, data) ∧
      (mysqlView connection).before (foldSavepointName name) =
        earlier.map fun mark => (mark.1.foldedName, mark.2) := by
  apply MySqlSavepoints.lookup_split
  · rw [registered.view, List.map_append, List.map_cons, folded]
  · intro entry member
    obtain ⟨mark, inEarlier, rfl⟩ := List.mem_map.mp member
    exact first mark inEarlier

/-! Statements. -/

theorem Registered.sameView (registered : Registered connection marks) {after : Connection Rows}
    (still : Registered after marks) (sameData : after.sqlite.data = connection.sqlite.data) :
    mysqlView after = mysqlView connection := by
  have savepoints := still.view.trans registered.view.symm
  unfold mysqlView at savepoints ⊢
  rw [sameData]
  rw [MySqlSavepoints.mk.injEq]
  exact ⟨rfl, savepoints⟩

/-- A session whose registry is the same. -/
def SameRegistry (before after : Session) : Prop :=
  after.savepoints = before.savepoints ∧ after.nextSavepointId = before.nextSavepointId ∧
    after.connectionId = before.connectionId

theorem Registered.session (registered : Registered connection marks) {change : Session → Session}
    (same : ∀ session, SameRegistry session (change session)) :
    Registered (connection.withSession change) marks := by
  obtain ⟨savepoints, next, connectionId⟩ := same connection.session
  exact registered.frame rfl savepoints next connectionId

theorem Registered.data (registered : Registered connection marks) (data : Contents Rows) :
    Registered (connection.withSqlite data connection.sqlite.transaction) marks :=
  registered.frame rfl rfl rfl rfl

theorem ensure_registry (tableId : Int) (session : Session) :
    SameRegistry session (ensurePersistentAutoIncrementHighWaterSlot tableId session) := by
  unfold ensurePersistentAutoIncrementHighWaterSlot
  split
  · exact ⟨rfl, rfl, rfl⟩
  · split <;> exact ⟨rfl, rfl, rfl⟩

theorem reserveCounter_registry (counter : Option CounterWork) (session : Session) :
    SameRegistry session (reserveCounter counter session) := by
  cases counter with
  | none => exact ⟨rfl, rfl, rfl⟩
  | some work => exact ensure_registry work.tableId session

theorem record_registry (tableId nextValue : Int) (session : Session) :
    SameRegistry session (recordPersistentAutoIncrementHighWater tableId nextValue session) := by
  unfold recordPersistentAutoIncrementHighWater
  split
  · exact ⟨rfl, rfl, rfl⟩
  · split
    · exact ⟨rfl, rfl, rfl⟩
    · exact ensure_registry tableId session

theorem recordCounter_registry (counter : Option CounterWork) (recorded : Option Int)
    (session : Session) : SameRegistry session (recordCounter counter recorded session) := by
  cases counter with
  | none => exact ⟨rfl, rfl, rfl⟩
  | some work =>
    unfold recordCounter
    dsimp only
    cases recorded with
    | none =>
      dsimp only
      split <;> exact ⟨rfl, rfl, rfl⟩
    | some next =>
      have same := record_registry work.tableId next session
      dsimp only
      split <;> exact same

/-- Outside a transaction the registry is empty. -/
theorem Registered.idle (registered : Registered connection marks)
    (settled : Settled false connection)
    (inactive : connection.session.userTransactionActive = false) : marks = [] := by
  have savepoints := registered.registry
  rw [(settled.idle inactive).1] at savepoints
  exact List.map_eq_nil_iff.mp savepoints.symm

theorem Registered.started (registered : Registered connection marks)
    (settled : Settled false connection)
    (inactive : connection.session.userTransactionActive = false) (readOnly : Bool)
    (isolation : Isolation) : Registered (started readOnly isolation connection) marks := by
  rw [registered.idle settled inactive]
  exact .empty (settled.idle inactive).1 rfl

theorem Registered.home (registered : Registered connection marks)
    (settled : Settled false connection) {home : Connection Rows} (begun : Home connection home) :
    Registered home marks ∧ home.sqlite.data = connection.sqlite.data := by
  cases begun with
  | same => exact ⟨registered, rfl⟩
  | started readOnly isolation inactive closed =>
    exact ⟨registered.started settled inactive readOnly isolation, rfl⟩

/-- A statement that writes leaves the registry; when it fails, also the data. -/
theorem Registered.executed (registered : Registered connection marks)
    (settled : Settled false connection) {work : Work Rows} {result : Result Rows × Option Int}
    (executed : Executed work connection result) :
    Registered result.1.1 marks ∧
      (result.1.2 = false → result.1.1.sqlite.data = connection.sqlite.data) := by
  have reserved := registered.session (reserveCounter_registry work.counter)
  have reservedSettled := settled.frame _ (reserveCounter_frame work.counter)
  cases executed with
  | failed begun =>
    obtain ⟨still, data⟩ := reserved.home reservedSettled begun
    exact ⟨still, fun _ => data⟩
  | @wrote home contents recorded begun counted =>
    obtain ⟨still, _⟩ := reserved.home reservedSettled begun
    refine ⟨(still.data _).session (recordCounter_registry work.counter recorded), ?_⟩
    intro failed
    cases failed

theorem Registered.planned (registered : Registered connection marks)
    (settled : Settled false connection) {work : Work Rows} {result : Result Rows × Option Int}
    (planned : Planned work connection result) :
    Registered result.1.1 marks ∧
      (result.1.2 = false → result.1.1.sqlite.data = connection.sqlite.data) := by
  cases planned with
  | refused begun =>
    obtain ⟨still, data⟩ := registered.home settled begun
    exact ⟨still, fun _ => data⟩
  | executed begun executed =>
    obtain ⟨still, data⟩ := registered.home settled begun
    obtain ⟨after, kept⟩ := still.executed (begun.settled settled) executed
    exact ⟨after, fun failed => (kept failed).trans data⟩
  | abandoned recorded inactive =>
    refine ⟨?_, fun _ => rfl⟩
    exact (registered.session (reserveCounter_registry work.counter)).session
      (recordCounter_registry work.counter recorded)

theorem Ended.registered {after : Connection Rows} (ended : Ended connection after)
    (settled : Settled false connection) : Registered after [] := by
  have afterSettled := ended.settled settled
  apply Registered.empty
  · exact (afterSettled.idle ended.inactive).1
  · exact stack_of_none (afterSettled.closed ended.inactive)

/-- The end of a transaction empties the registry; refused, it changes nothing. -/
theorem Ends.registered {result : Result Rows} (ends : Ends connection result)
    (settled : Settled false connection) :
    Registered result.1 [] ∨ result = (connection, false) := by
  cases ends with
  | refused => exact Or.inr rfl
  | ended ok ended => exact Or.inl (ended.registered settled)
  | chained readOnly isolation ended =>
    left
    exact (ended.registered settled).started (ended.settled settled) ended.inactive
      readOnly isolation

theorem Registered.createSavepoint (registered : Registered connection marks)
    (answered : Answered answers) {name : List UInt8} (short : name.length < 64)
    {transaction : Transaction SqliteName (Contents Rows)}
    (opened : connection.sqlite.transaction = some transaction) :
    let result := createOrReplaceUserSavepoint name answers connection
    (result = (connection, false)) ∨
      (result.2 = true ∧ Registered result.1 (setMarks marks connection name) ∧
        mysqlView result.1 = (mysqlView connection).set (foldSavepointName name)) := by
  dsimp only
  rcases answered.createSavepoint name opened with result | result
  · exact Or.inl result
  · right
    rw [result]
    have set := registered.set short opened rfl
    refine ⟨rfl, set, ?_⟩
    unfold MySqlSavepoints.set
    rw [MySqlSavepoints.mk.injEq]
    exact ⟨rfl, set.view.trans (setMarks_view registered name)⟩

/-- SAVEPOINT sets its name in a transaction, which it starts if it has to. -/
theorem Registered.savepoint (registered : Registered connection marks)
    (settled : Settled false connection) (answered : Answered answers) (name : List UInt8) :
    let result := executeSavepointStatement name answers connection
    (∃ marks, Registered result.1 marks) ∧
      ((result.2 = false ∧ mysqlView result.1 = mysqlView connection) ∨
        (result.2 = true ∧ mysqlView result.1 =
          if connection.session.userTransactionActive || !connection.session.autocommitEnabled then
            (mysqlView connection).set (foldSavepointName name)
          else mysqlView connection)) := by
  dsimp only
  unfold executeSavepointStatement
  split
  · exact ⟨⟨marks, registered⟩, Or.inl ⟨rfl, rfl⟩⟩
  · rename_i fits
    have short : name.length < 64 := by omega
    split
    · rename_i active
      obtain ⟨transaction, opened, _⟩ := settled.opened active
      rcases registered.createSavepoint answered short opened with result | ⟨ok, set, view⟩
      · rw [result]
        exact ⟨⟨marks, registered⟩, Or.inl ⟨rfl, rfl⟩⟩
      · refine ⟨⟨_, set⟩, Or.inr ⟨ok, ?_⟩⟩
        rw [active, Bool.true_or, if_pos rfl]
        exact view
    · rename_i idle
      have inactive : connection.session.userTransactionActive = false := by simpa using idle
      split
      · rename_i disabled
        have enabled : connection.session.autocommitEnabled = false := by simpa using disabled
        have begun := registered.started settled inactive
          (currentTransactionReadOnly connection.session)
          (currentTransactionIsolation connection.session)
        have sameView := registered.sameView begun rfl
        rw [answered.beginDisabled (settled.closed inactive) (by simp [inactive, enabled]),
          andThen_true]
        rcases begun.createSavepoint answered short rfl with result | ⟨ok, set, view⟩
        · rw [result]
          exact ⟨⟨marks, begun⟩, Or.inl ⟨rfl, sameView⟩⟩
        · refine ⟨⟨_, set⟩, Or.inr ⟨ok, ?_⟩⟩
          rw [enabled, Bool.not_false, Bool.or_true, if_pos rfl, view, sameView]
      · rename_i enabled
        refine ⟨⟨marks, registered⟩, Or.inr ⟨rfl, ?_⟩⟩
        rw [inactive, Bool.false_or, if_neg enabled]

/-- ROLLBACK TO SAVEPOINT does what MySQL's does. -/
theorem Registered.rollbackTo (registered : Registered connection marks)
    (settled : Settled false connection) (answered : Answered answers) (name : List UInt8) :
    let result := executeRollbackToSavepointStatement name answers connection
    (∃ marks, Registered result.1 marks) ∧
      (mysqlView connection).RollsBackTo (foldSavepointName name) result.2
        (mysqlView result.1) := by
  dsimp only
  unfold MySqlSavepoints.RollsBackTo
  cases found : registeredSavepoint connection.session name with
  | none =>
    have absent := registered.absent settled found
    unfold executeRollbackToSavepointStatement
    rw [MySqlSavepoints.rollbackTo, absent, found]
    exact ⟨⟨marks, registered⟩, rfl, rfl⟩
  | some entry =>
    obtain ⟨index, savepoint⟩ := entry
    obtain ⟨transaction, opened, _⟩ := settled.opened (registered_active found)
    obtain ⟨earlier, data, later, rfl, rfl, folded, first⟩ := registered.split found
    obtain ⟨below, located, cut, kept⟩ := registered.found
    obtain ⟨lookup, before⟩ := registered.view_split folded first
    have split : earlier ++ (savepoint, data) :: later =
        (earlier ++ [(savepoint, data)]) ++ later := by simp
    have savepoints := registered.registry
    rw [stack_of_some opened] at located
    rw [split] at registered savepoints
    rw [answered.rollbackTo found opened located, MySqlSavepoints.rollbackTo, lookup, before]
    generalize result : (connection.withSqlite data (some { transaction with
      savepoints := (savepoint.sqliteName, data) :: below })).withSession (fun session =>
        { session with savepoints := session.savepoints.take (earlier.length + 1) }) = after
    have restored : Registered after (earlier ++ [(savepoint, data)]) := by
      subst result
      apply registered.cut
      · rw [withSession_session, withSqlite_session, savepoints, List.map_append]
        apply List.take_left'
        simp
      · exact cut
      · rw [List.map_append, List.reverse_append]
        exact kept.cons_cons _
      · rfl
      · rfl
    refine ⟨⟨_, restored⟩, ?_⟩
    have view : mysqlView after = ⟨data, (mysqlView after).savepoints⟩ := by
      subst result
      rfl
    dsimp only [Option.map_some]
    rw [view, restored.view, List.map_append, ← folded]
    rfl

/-- RELEASE SAVEPOINT does what MySQL's does. -/
theorem Registered.release (registered : Registered connection marks)
    (settled : Settled false connection) (answered : Answered answers) (name : List UInt8) :
    let result := executeReleaseSavepointStatement name answers connection
    (∃ marks, Registered result.1 marks) ∧
      (mysqlView connection).Releases (foldSavepointName name) result.2 (mysqlView result.1) := by
  dsimp only
  unfold MySqlSavepoints.Releases
  cases found : registeredSavepoint connection.session name with
  | none =>
    have absent := registered.absent settled found
    unfold executeReleaseSavepointStatement
    rw [MySqlSavepoints.release, absent, found]
    exact ⟨⟨marks, registered⟩, rfl, rfl⟩
  | some entry =>
    obtain ⟨index, savepoint⟩ := entry
    obtain ⟨transaction, opened, explicit⟩ := settled.opened (registered_active found)
    obtain ⟨earlier, data, later, rfl, rfl, folded, first⟩ := registered.split found
    obtain ⟨below, located, cut, kept⟩ := registered.found
    obtain ⟨lookup, before⟩ := registered.view_split folded first
    have savepoints := registered.registry
    rw [stack_of_some opened] at located
    rw [answered.release found opened explicit located, MySqlSavepoints.release, lookup, before]
    generalize result : (connection.withSqlite connection.sqlite.data (some { transaction with
      savepoints := below })).withSession (fun session =>
        { session with savepoints := session.savepoints.take earlier.length }) = after
    have released : Registered after earlier := by
      subst result
      apply registered.cut
      · rw [withSession_session, withSqlite_session, savepoints, List.map_append]
        apply List.take_left'
        simp
      · exact (List.sublist_cons_self _ _).trans cut
      · exact kept
      · rfl
      · rfl
    refine ⟨⟨_, released⟩, rfl, ?_⟩
    have view : mysqlView after = ⟨connection.sqlite.data, (mysqlView after).savepoints⟩ := by
      subst result
      rfl
    rw [view, released.view]
    rfl

end Registry

/-! Whole runs. -/

/-- What MySQL lets a statement do to the savepoints. -/
def MySqlSavepoints.Allows (session : Session) (statement : Statement Rows)
    (before : MySqlSavepoints (List UInt8) (Contents Rows)) (ok : Bool)
    (after : MySqlSavepoints (List UInt8) (Contents Rows)) : Prop :=
  match statement with
  | .savepoint name =>
    (ok = false ∧ after = before) ∨
      (ok = true ∧ after =
        if session.userTransactionActive || !session.autocommitEnabled then
          before.set (foldSavepointName name)
        else before)
  | .rollbackToSavepoint name => before.RollsBackTo (foldSavepointName name) ok after
  | .releaseSavepoint name => before.Releases (foldSavepointName name) ok after
  | .startTransaction _ _ => after.savepoints = [] ∨ (ok = false ∧ after = before)
  | .commit _ => after.savepoints = [] ∨ (ok = false ∧ after = before)
  | .rollback _ => after.savepoints = [] ∨ (ok = false ∧ after = before)
  | .implicitCommit => after.savepoints = [] ∨ (ok = false ∧ after = before)
  | .setAutocommit _ => after.savepoints = [] ∨ after = before
  | .write _ => after.savepoints = before.savepoints ∧ (ok = false → after = before)
  | .planned _ _ _ => after.savepoints = before.savepoints ∧ (ok = false → after = before)
  | .setInsertId _ => after = before
  | .setAutoIncrementIncrement _ => after = before
  | .setAutoIncrementOffset _ => after = before
  | .read => after = before
  | .prepare => after = before

section Runs

variable {marks : List (Savepoint × Contents Rows)}

theorem Ends.allowed {result : Result Rows} (ends : Ends connection result)
    (registered : Registered connection marks) (settled : Settled false connection) :
    (∃ marks, Registered result.1 marks) ∧
      ((mysqlView result.1).savepoints = [] ∨
        (result.2 = false ∧ mysqlView result.1 = mysqlView connection)) := by
  rcases ends.registered settled with empty | same
  · exact ⟨⟨[], empty⟩, Or.inl empty.view⟩
  · rw [same]
    exact ⟨⟨marks, registered⟩, Or.inr ⟨rfl, rfl⟩⟩

theorem Registered.setAutocommit (registered : Registered connection marks)
    (settled : Settled false connection) (answered : Answered answers) (value : Bool) :
    let result := applySetAutocommit value answers connection
    (∃ marks, Registered result.1 marks) ∧
      ((mysqlView result.1).savepoints = [] ∨ mysqlView result.1 = mysqlView connection) := by
  have same : ∀ session : Session,
      SameRegistry session { session with autocommitEnabled := value } := fun _ => ⟨rfl, rfl, rfl⟩
  dsimp only
  rcases setAutocommit_cases answered settled value with result | ⟨after, rfl | ended, result⟩
  · rw [result]
    exact ⟨⟨marks, registered⟩, Or.inr rfl⟩
  · rw [result]
    exact ⟨⟨marks, registered.session same⟩, Or.inr rfl⟩
  · rw [result]
    have empty := (ended.registered settled).session same
    exact ⟨⟨[], empty⟩, Or.inl empty.view⟩

theorem Registered.home_allowed (registered : Registered connection marks)
    (settled : Settled false connection) {home : Connection Rows} (begun : Home connection home) :
    (∃ marks, Registered home marks) ∧ mysqlView home = mysqlView connection := by
  obtain ⟨still, data⟩ := registered.home settled begun
  exact ⟨⟨marks, still⟩, registered.sameView still data⟩

theorem Registered.written_allowed (registered : Registered connection marks)
    {result : Result Rows} (written : Registered result.1 marks ∧
      (result.2 = false → result.1.sqlite.data = connection.sqlite.data)) :
    (∃ marks, Registered result.1 marks) ∧
      (mysqlView result.1).savepoints = (mysqlView connection).savepoints ∧
      (result.2 = false → mysqlView result.1 = mysqlView connection) := by
  obtain ⟨still, data⟩ := written
  refine ⟨⟨marks, still⟩, still.view.trans registered.view.symm, ?_⟩
  intro failed
  exact registered.sameView still (data failed)

/-- One statement. -/
theorem Registered.execute (registered : Registered connection marks)
    (settled : Settled false connection) {event : Event Rows} (answered : event.Answered) :
    (∃ marks, Registered (execute connection event).1.1 marks) ∧
      (mysqlView connection).Allows connection.session event.statement
        (execute connection event).1.2 (mysqlView (execute connection event).1.1) := by
  obtain ⟨statement, answers⟩ := event
  obtain ⟨calls, inner⟩ := answered
  unfold Transactions.execute
  rw [settled.certain, if_neg Bool.false_ne_true]
  cases statement with
  | startTransaction readOnly isolation =>
    exact (calls.startTransaction settled readOnly isolation).allowed registered settled
  | commit chain => exact (calls.commitStatement settled chain).allowed registered settled
  | rollback chain => exact (calls.rollbackStatement settled chain).allowed registered settled
  | implicitCommit => exact (calls.implicitCommit settled).allowed registered settled
  | savepoint name => exact registered.savepoint settled calls name
  | rollbackToSavepoint name => exact registered.rollbackTo settled calls name
  | releaseSavepoint name => exact registered.release settled calls name
  | setAutocommit value => exact registered.setAutocommit settled calls value
  | setInsertId value =>
    have same : ∀ session : Session,
        SameRegistry session { session with insertId := value } := fun _ => ⟨rfl, rfl, rfl⟩
    exact ⟨⟨marks, registered.session same⟩, rfl⟩
  | setAutoIncrementIncrement value =>
    have same : ∀ session : Session, SameRegistry session
        { session with autoIncrementIncrement := autoIncrementStepValue value } :=
      fun _ => ⟨rfl, rfl, rfl⟩
    exact ⟨⟨marks, registered.session same⟩, rfl⟩
  | setAutoIncrementOffset value =>
    have same : ∀ session : Session, SameRegistry session
        { session with autoIncrementOffset := autoIncrementStepValue value } :=
      fun _ => ⟨rfl, rfl, rfl⟩
    exact ⟨⟨marks, registered.session same⟩, rfl⟩
  | write work =>
    exact registered.written_allowed (registered.executed settled (calls.write settled work))
  | planned work commitsImplicitly other =>
    exact registered.written_allowed
      (registered.planned settled (calls.planned inner settled work commitsImplicitly))
  | read => exact registered.home_allowed settled (calls.read settled)
  | prepare => exact registered.home_allowed settled (calls.prepare connection)

theorem Registered.names (registered : Registered connection marks) :
    (connection.session.savepoints.map Savepoint.sqliteName).Sublist
      ((stack connection).map Prod.fst).reverse := by
  have names := (registered.ordered.map Prod.fst).reverse
  rw [← List.map_reverse, List.reverse_reverse, List.map_map] at names
  rw [registered.registry, List.map_map]
  exact names

/-- SQLite knows every registered savepoint. -/
theorem Registered.known (registered : Registered connection marks)
    (settled : Settled false connection) {savepoint : Savepoint}
    (member : savepoint ∈ connection.session.savepoints) :
    ((Control.rollbackTo savepoint.sqliteName).apply connection.sqlite).isSome = true ∧
      ((Control.release savepoint.sqliteName).apply connection.sqlite).isSome = true := by
  have active : connection.session.userTransactionActive = true := by
    rw [← Bool.not_eq_false]
    intro inactive
    rw [(settled.idle inactive).1] at member
    cases member
  obtain ⟨transaction, opened, explicit⟩ := settled.opened active
  rw [registered.registry] at member
  obtain ⟨mark, inMarks, rfl⟩ := List.mem_map.mp member
  obtain ⟨earlier, later, rfl⟩ := List.append_of_mem inMarks
  obtain ⟨below, located, _, _⟩ := registered.found
  rw [stack_of_some opened] at located
  constructor
  · simp [Control.apply, Store.rollbackTo, opened, located]
  · simp [Control.apply, Store.release, opened, located, explicit]

/-- In every run whose control calls succeed the registry refines MySQL's savepoints. -/
theorem savepoint_registry_refines {start : Connection Rows} (opened : Opened start)
    (reached : Transition.Reaches step (fun _ event => event.Answered) start connection) :
    (connection.session.savepoints.map Savepoint.foldedName).Nodup ∧
    (connection.session.savepoints.map Savepoint.sqliteName).Sublist
      ((stack connection).map Prod.fst).reverse ∧
    (∀ savepoint ∈ connection.session.savepoints,
      ((Control.rollbackTo savepoint.sqliteName).apply connection.sqlite).isSome = true ∧
      ((Control.release savepoint.sqliteName).apply connection.sqlite).isSome = true) ∧
    (mysqlView connection).savepoints.map Prod.fst =
      connection.session.savepoints.map Savepoint.foldedName ∧
    ∀ event : Event Rows, event.Answered →
      (mysqlView connection).Allows connection.session event.statement
        (execute connection event).1.2 (mysqlView (execute connection event).1.1) := by
  have kept : Settled false connection ∧ ∃ marks, Registered connection marks := by
    apply reached.invariant (fun state => Settled false state ∧ ∃ marks, Registered state marks)
    · exact ⟨opened.settled, [], .empty opened.noSavepoints (stack_of_none opened.closed)⟩
    · intro before event after invariant answered taken
      obtain ⟨settled, marks, registered⟩ := invariant
      cases taken
      exact ⟨answered.settled settled, (registered.execute settled answered).1⟩
  obtain ⟨settled, marks, registered⟩ := kept
  refine ⟨?_, registered.names, fun _ member => registered.known settled member, ?_, ?_⟩
  · rw [registered.registry, List.map_map]
    exact registered.distinct
  · rw [registered.view, registered.registry, List.map_map, List.map_map]
    rfl
  · intro event answered
    exact (registered.execute settled answered).2

end Runs

def allOkEvent (statement : Statement Nat) : Event Nat :=
  { statement := statement, answers := allOk }

/-- A name set again in another letter case, with a write after each. -/
def resetRun : List (Event Nat) :=
  [allOkEvent (.startTransaction none none), allOkEvent (.savepoint [97]),
    allOkEvent (.write { rows := Nat.succ, counter := none }), allOkEvent (.savepoint [65]),
    allOkEvent (.write { rows := Nat.succ, counter := none })]

def counterless : Contents Nat := { rows := 0, autoIncrementNext := fun _ => none }

def afterResetRun : Connection Nat :=
  resetRun.foldl (fun connection event => (execute connection event).1.1)
    (initialConnection counterless)

theorem savepoint_registry_refines_resetRun :
    Opened (initialConnection counterless) ∧
    (stack afterResetRun).map Prod.fst = [.user 1 2, .user 1 1] ∧
    afterResetRun.session.savepoints = [⟨[65], [97], .user 1 2⟩] ∧
    (execute afterResetRun (allOkEvent (.rollbackToSavepoint [97]))).1.1.sqlite.data.rows = 1 ∧
    (mysqlView afterResetRun).Allows afterResetRun.session (.rollbackToSavepoint [97])
      (execute afterResetRun (allOkEvent (.rollbackToSavepoint [97]))).1.2
      (mysqlView (execute afterResetRun (allOkEvent (.rollbackToSavepoint [97]))).1.1) := by
  have answered : ∀ event ∈ resetRun, ∀ _ : Connection Nat, event.Answered := by
    intro event member _
    simp only [resetRun, List.mem_cons, List.not_mem_nil, or_false] at member
    rcases member with rfl | rfl | rfl | rfl | rfl <;> exact ⟨fun _ _ => rfl, trivial⟩
  have reached : Transition.Reaches step (fun _ event => event.Answered)
      (initialConnection counterless) afterResetRun :=
    Transition.Reaches.refl.foldl (fun _ _ => rfl) resetRun answered
  refine ⟨initialConnection_opened _, rfl, rfl, rfl, ?_⟩
  exact (savepoint_registry_refines (initialConnection_opened counterless) reached).2.2.2.2
    (allOkEvent (.rollbackToSavepoint [97])) ⟨fun _ _ => rfl, trivial⟩

end MyLite.Transactions
