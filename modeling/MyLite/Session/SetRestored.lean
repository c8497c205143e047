import MyLite.Session.SetAtomicity

/-! A failed SET list leaves the session as it was exactly when what it wrote outside the
snapshot was last given its old value. -/

namespace MyLite.SetStatement

open Fields (outside outside_append storeAll storeAll_append)

variable {Expression : Type}

theorem outside_effect (session : Session) (effect : ExpressionEffect) :
    outside snapshotFields (effect.writes session) = unsavedEffect session effect := by
  cases effect with
  | lastInsertId value => rfl
  | uuid randomSequence randomNode now =>
    simp only [ExpressionEffect.writes, unsavedEffect, uuidWrites]
    split <;> rfl
  | uuidShort now =>
    simp only [ExpressionEffect.writes, unsavedEffect, uuidShortWrites]
    split <;> rfl
  | rand =>
    simp only [ExpressionEffect.writes, randWrites]
    split <;> rfl
  | userVariable assigned => rfl

theorem outside_expressionWrites (session : Session) (effects : List ExpressionEffect) :
    outside snapshotFields (expressionWrites session effects) =
      unsavedExpressionWrites session effects := by
  induction effects generalizing session with
  | nil => rfl
  | cons effect rest ih =>
    rw [expressionWrites, outside_append, outside_effect, ih]
    rfl

theorem outside_autocommit (commitSucceeds : Bool) (session : Session) (value : Bool) :
    outside snapshotFields (applySetAutocommitBooleanValue commitSucceeds session value).writes =
      if autocommitCommits session value && commitSucceeds then commitActiveUserTransactionWrites
      else [] := by
  unfold applySetAutocommitBooleanValue
  cases autocommitCommits session value <;> cases commitSucceeds <;> rfl

theorem outside_transactionIsolation (session : Session)
    (characteristic : Characteristic TransactionIsolation) :
    outside snapshotFields (applyTransactionIsolation session characteristic).writes = [] := by
  unfold applyTransactionIsolation
  cases characteristic.forNextTransaction <;> cases session .userTransactionActive <;> rfl

theorem outside_transactionReadOnly (session : Session)
    (characteristic : Characteristic TransactionAccessMode) :
    outside snapshotFields (applyTransactionReadOnly session characteristic).writes = [] := by
  unfold applyTransactionReadOnly
  cases characteristic.forNextTransaction <;> cases session .userTransactionActive <;> rfl

theorem outside_text {field : Field} (saved : field ∈ snapshotFields) (fits : Bool)
    (value : field.Value) :
    outside snapshotFields (setTextSessionSystemVariable field fits value).writes = [] := by
  cases fits with
  | false => rfl
  | true =>
    apply List.filter_eq_nil_iff.mpr
    intro write member
    rcases List.mem_cons.mp member with rfl | member
    · simpa using saved
    · rcases List.mem_cons.mp member with rfl | member
      · decide
      · obtain rfl := List.mem_singleton.mp member
        decide

/-- One case a variable: the snapshot holds what it stores, or the list of unsaved settings
names it. -/
theorem outside_store (commitSucceeds : Bool) (session : Session) (target : Variable)
    (setting : target.Setting) :
    outside snapshotFields (target.store commitSucceeds session setting).writes =
      unsavedSetting commitSucceeds session target setting := by
  cases target with
  | transactionIsolation => exact outside_transactionIsolation session setting
  | transactionReadOnly => exact outside_transactionReadOnly session setting
  | characterSetClient =>
    have saved : Field.characterSetClient ∈ snapshotFields := by decide
    exact outside_text saved _ setting
  | characterSetConnection =>
    have saved : Field.characterSetConnection ∈ snapshotFields := by decide
    exact outside_text saved _ setting
  | characterSetResults =>
    have saved : Field.characterSetResults ∈ snapshotFields := by decide
    exact outside_text saved _ setting
  | collationConnection =>
    have saved : Field.collationConnection ∈ snapshotFields := by decide
    exact outside_text saved _ setting
  | autocommit => exact outside_autocommit commitSucceeds session setting
  | _ => rfl

theorem outside_answer (commitSucceeds : Bool) (session : Session) (target : Variable)
    (answer : Answer target.Setting) :
    outside snapshotFields (answer.apply commitSucceeds session target).writes =
      unsavedAnswer commitSucceeds session target answer := by
  cases answer with
  | refused => rfl
  | noOperation => rfl
  | value setting => exact outside_store commitSucceeds session target setting

theorem outside_applySetAssignment (reader : Reader Expression) (session : Session)
    (assignment : Assignment Expression) :
    outside snapshotFields (applySetAssignment reader session assignment).writes =
      unsavedAssignment reader session assignment := by
  obtain ⟨target, expression⟩ := assignment
  cases target with
  | unresolved => rfl
  | systemVariable target scope =>
    simp only [applySetAssignment, applySetSystemVariableAssignment, unsavedAssignment]
    rw [outside_append, outside_expressionWrites, outside_answer]
  | userVariable names =>
    simp only [applySetAssignment, applySetUserVariableAssignment, unsavedAssignment]
    split
    · rw [outside_append, outside_expressionWrites]
      exact List.append_nil _
    · exact outside_expressionWrites session _

/-- The loop only stores writes, and these are its writes outside the snapshot. -/
theorem applySetAssignments_stores (reader : Reader Expression) (session : Session)
    (list : List (Assignment Expression)) :
    ∃ writes, (applySetAssignments reader session list).1 = storeAll session writes ∧
      outside snapshotFields writes = unsavedAssignments reader session list := by
  induction list generalizing session with
  | nil => exact ⟨[], rfl, rfl⟩
  | cons assignment rest ih =>
    have here := outside_applySetAssignment reader session assignment
    simp only [applySetAssignments, unsavedAssignments]
    split
    · obtain ⟨later, stored, unsaved⟩ :=
        ih (storeAll session (applySetAssignment reader session assignment).writes)
      refine ⟨(applySetAssignment reader session assignment).writes ++ later, ?_, ?_⟩
      · rw [stored, storeAll_append]
      · rw [outside_append, here, unsaved]
    · exact ⟨(applySetAssignment reader session assignment).writes, rfl, by simp [here]⟩

theorem applyConnectionCharacterSet_stores (reader : Reader Expression) (session : Session)
    (value : Expression) (tail : List (Assignment Expression)) :
    ∃ writes, (applyConnectionCharacterSet reader session value tail).1 = storeAll session writes ∧
      outside snapshotFields writes =
        unsavedWrites reader session (.connectionCharacterSet value tail) := by
  simp only [applyConnectionCharacterSet, unsavedWrites]
  split
  · exact ⟨[], rfl, rfl⟩
  · rename_i charset collation _
    obtain ⟨later, stored, unsaved⟩ := applySetAssignments_stores reader
      (storeAll session (connectionCharacterSetWrites charset collation)) tail
    refine ⟨connectionCharacterSetWrites charset collation ++ later, ?_, ?_⟩
    · rw [stored, storeAll_append]
    · rw [outside_append, unsaved]
      rfl

theorem restored_iff {reader : Reader Expression} {session after : Session}
    {statement : Statement Expression}
    (stores : ∃ writes, after = storeAll session writes ∧
      outside snapshotFields writes = unsavedWrites reader session statement) :
    restoreSetSessionSnapshot session after = session ↔
      UnsavedUnchanged reader session statement := by
  obtain ⟨writes, rfl, unsaved⟩ := stores
  unfold UnsavedUnchanged
  rw [← unsaved]
  exact Fields.restore_storeAll_iff snapshotFields session writes

/-- A SET list that fails leaves every session field and every user variable as it was exactly
when `last_insert_id`, the connection id, `innodb_parallel_read_threads`, the UUID clocks and
the transaction state were not given another value by an assignment it reached. -/
theorem failed_set_restores_iff (reader : Reader Expression) (session : Session)
    (statement : Statement Expression)
    (failed : (applySetStatement reader session statement).2 = false) :
    (applySetStatement reader session statement).1 = session ↔
      UnsavedUnchanged reader session statement := by
  cases statement with
  | assignments list =>
    have stores := applySetAssignments_stores reader session list
    simp only [applySetStatement] at failed ⊢
    cases outcome : (applySetAssignments reader session list).2 with
    | true => simp [outcome] at failed
    | false => exact restored_iff stores
  | connectionCharacterSet value tail =>
    have stores := applyConnectionCharacterSet_stores reader session value tail
    simp only [applySetStatement] at failed ⊢
    cases outcome : (applyConnectionCharacterSet reader session value tail).2 with
    | true => simp [outcome] at failed
    | false => exact restored_iff stores

/-! The integer literals of two variables. -/

/-- `parse_set_last_insert_id_system_variable_value` and `parse_set_auto_increment_step_value` on
integer literals; other variables are refused. -/
def integerReader : Reader Int where
  effects _ _ _ := []
  read _ target _ literal :=
    match target with
    | .lastInsertId | .identity =>
      if literal < 18446744073709551616 then .value literal.toNat else .refused
    | .autoIncrementIncrement | .autoIncrementOffset =>
      .value (min 65535 (max 1 literal.toNat))
    | _ => .refused
  cell _ _ := none
  connectionCharacterSet _ _ := none
  commitSucceeds _ := true

instance (field : Field) : Inhabited field.Value := by
  cases field <;> infer_instance

def openedSession : Session :=
  storeAll (fun _ => default)
    [⟨.connectionId, 1⟩, ⟨.autocommitEnabled, true⟩, ⟨.autoIncrementIncrement, 1⟩,
      ⟨.autoIncrementOffset, 1⟩, ⟨.foreignKeyChecksEnabled, true⟩]

theorem failed_set_restores_iff_increment :
    (applySetStatement integerReader openedSession
      (.assignments [⟨.systemVariable .autoIncrementIncrement .unscoped, 7⟩, ⟨.unresolved, 1⟩])).1 =
      openedSession := by
  apply (failed_set_restores_iff integerReader openedSession _ rfl).mpr
  intro field value last
  have none : Fields.lastWrite field ([] : List Write) = some value := last
  cases none

/-- `SET last_insert_id = 5, no_such_variable = 1` fails and leaves 5. -/
theorem failed_set_keeps_last_insert_id :
    (applySetStatement integerReader openedSession
      (.assignments [⟨.systemVariable .lastInsertId .unscoped, 5⟩, ⟨.unresolved, 1⟩])).2 = false ∧
    openedSession .lastInsertId = 0 ∧
    (applySetStatement integerReader openedSession
      (.assignments [⟨.systemVariable .lastInsertId .unscoped, 5⟩, ⟨.unresolved, 1⟩])).1
        .lastInsertId = 5 := by
  decide

end MyLite.SetStatement
