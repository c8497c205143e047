import MyLite.Library.Checked
import MyLite.Runtime.DuplicateParameters

/-! The parameters of the UPDATE and what is bound to them: with the bindings in their places,
the SQL text is the statement with every expression written out. -/

namespace MyLite.DuplicateParameters

open Placeholders
open Replace (SqliteValue PlannedValue)

/-- SQL with values where the parameters are. -/
abbrev Written (Real : Type) := List (Piece SqlText (SqliteValue Real))

section Written

variable {Details Real Item : Type}

def writtenWords (texts : List SqlText) : Written Real := texts.map .text

def joined (separator : String) (hasPrevious : Bool) : List (Written Real) → Written Real
  | [] => []
  | item :: items =>
    (if hasPrevious then [.text (.sql separator)] else []) ++ item ++ joined separator true items

def writeEach (write : Item → Except UpdateError (Written Real)) :
    List Item → Except UpdateError (List (Written Real))
  | [] => .ok []
  | item :: items =>
    (write item).bind fun written =>
    (writeEach write items).map fun rest => written :: rest

/-- `append_loaded_key_part_parameter_sql` with the value in it. -/
def LoadedIndexPart.writtenParameter (part : LoadedIndexPart) (value : PlannedValue Real) :
    Except UpdateError (Written Real) :=
  match part.prefixLength with
  | some length =>
    (part.collationSql true).map fun collation =>
      writtenWords [.sql "substr("] ++ [.value value.bound] ++
        writtenWords ([.sql ", 1, ", .sql (toString length), .sql ")"] ++ collation)
  | none => .ok [.value value.bound]

variable (scalars : RowScalars Details Real) (plan : Plan Details Real)

/-- An expression of the clause with the values of the row to insert. -/
def RowScalars.written (row : List (PlannedValue Real))
    (expression : RowScalarExpression Details Real) : Except UpdateError (Written Real) :=
  (scalars.sql expression.shape).bind fun template =>
  (materialize row expression).bind fun materialized =>
  (scalars.values materialized).map fun values =>
    template.piecesOf (values.map PlannedValue.bound)

/-- The key part is the value that the row to insert has there. -/
def Plan.writtenKeyPart (part : LoadedIndexPart) : Except UpdateError (Written Real) :=
  match plan.values[part.columnIndex]? with
  | none => .error .error
  | some value =>
    part.sql.bind fun column =>
    (part.writtenParameter value).map fun parameter =>
      writtenWords (column ++ [.sql " = "]) ++ parameter

def Plan.writtenAssignment (assigned : Assignment Details Real × PlannedValue Real) :
    Except UpdateError (Written Real) :=
  let column : Written Real :=
    writtenWords [.quotedIdentifier (plan.columnName assigned.1.assignmentColumnIndex), .sql " = "]
  match assigned.1.value with
  | .rowScalar expression => (scalars.written plan.values expression).map (column ++ ·)
  | _ => .ok (column ++ [.value assigned.2.bound])

/-- The column changes. -/
def Plan.writtenCondition (assigned : Assignment Details Real × PlannedValue Real) :
    Except UpdateError (Written Real) :=
  let column : SqlText := .quotedIdentifier (plan.columnName assigned.1.assignmentColumnIndex)
  match assigned.1.value with
  | .rowScalar expression =>
    (scalars.written plan.values expression).map fun value =>
      writtenWords [.sql "(", column, .sql " IS NULL AND "] ++ value ++
        writtenWords [.sql " IS NOT NULL OR ", column, .sql " IS NOT NULL AND "] ++ value ++
        writtenWords [.sql " IS NULL OR ", column, .sql " <> "] ++ value ++
        writtenWords [.sql ")"]
  | _ =>
    if assigned.2.isNull then .ok (writtenWords [column, .sql " IS NOT NULL"])
    else .ok (writtenWords [.sql "(", column, .sql " IS NULL OR ", column, .sql " <> "] ++
      [.value assigned.2.bound] ++ writtenWords [.sql ")"])

/-- The UPDATE with its values written out. -/
def Plan.writtenUpdate (conflictingIndex : List LoadedIndexPart)
    (values : List (Assignment Details Real × PlannedValue Real)) :
    Except UpdateError (Written Real) :=
  (writeEach (plan.writtenAssignment scalars) (executableValues values)).bind fun assignments =>
  (writeEach plan.writtenKeyPart conflictingIndex).bind fun keys =>
  (writeEach (plan.writtenCondition scalars) (executableValues values)).map fun conditions =>
    writtenWords [.sql "UPDATE ", .quotedIdentifier plan.physicalName, .sql " SET "] ++
      joined ", " false assignments ++ writtenWords [.sql " WHERE "] ++
      joined " AND " false keys ++ writtenWords [.sql " AND "] ++
      (writtenWords [.sql "("] ++ joined " OR " false conditions ++ writtenWords [.sql ")"])

/-- The text of an expression has as many parameters as are bound for it. -/
def RowScalars.CountsAgree : Prop :=
  ∀ (expression : RowScalarExpression Details Real) (template : Template SqlText)
    (values : List (PlannedValue Real)), scalars.sql expression.shape = .ok template →
      scalars.values expression = .ok values → values.length = template.holes

/-- What a step of the builder appends and what the same step of the binder binds make what is
written. -/
def Agree (next : Nat) (append : Except UpdateError (Sql × Nat))
    (bind : Except UpdateError (Bindings Real × Nat)) (write : Except UpdateError (Written Real)) :
    Prop :=
  ∀ (built : Sql × Nat) (bound : Bindings Real × Nat), append = .ok built → bind = .ok bound →
    ∃ written, write = .ok written ∧ Aligned next built.1 bound.1 written built.2 ∧
      bound.2 = built.2

end Written

section Loops

variable {Item Other Real : Type}

theorem bindEach_cons {bind : Nat → Item → Except UpdateError (Bindings Real × Nat)} {next : Nat}
    {item : Item} {items : List Item} {bound : Bindings Real × Nat}
    (binds : bindEach bind next (item :: items) = .ok bound) :
    ∃ first rest, bind next item = .ok first ∧ bindEach bind first.2 items = .ok rest ∧
      (first.1 ++ rest.1, rest.2) = bound := by
  obtain ⟨first, firstBinds, others⟩ := Fallible.bind_ok binds
  obtain ⟨rest, restBinds, whole⟩ := Fallible.map_ok others
  exact ⟨first, rest, firstBinds, restBinds, whole⟩

/-- The two loops stay in step. -/
theorem appendEach_agrees (separator : String)
    {append : Nat → Item → Except UpdateError (Sql × Nat)}
    {bind : Nat → Item → Except UpdateError (Bindings Real × Nat)}
    {write : Item → Except UpdateError (Written Real)}
    (steps : ∀ next item, Agree next (append next item) (bind next item) (write item))
    (items : List Item) (hasPrevious : Bool) (next : Nat) :
    Agree next (appendEach separator append hasPrevious next items) (bindEach bind next items)
      ((writeEach write items).map (joined separator hasPrevious)) := by
  induction items generalizing hasPrevious next with
  | nil =>
    intro built bound appended binds
    obtain rfl := Except.ok.inj appended
    obtain rfl := Except.ok.inj binds
    exact ⟨[], rfl, .nil next, rfl⟩
  | cons item items ih =>
    intro built bound appended binds
    obtain ⟨first, firstAppended, others⟩ := Fallible.bind_ok appended
    obtain ⟨rest, restAppended, rfl⟩ := Fallible.map_ok others
    obtain ⟨firstBound, restBound, firstBinds, restBinds, rfl⟩ := bindEach_cons binds
    obtain ⟨written, wrote, aligned, same⟩ :=
      steps next item first firstBound firstAppended firstBinds
    rw [same] at restBinds
    obtain ⟨rows, wroteRest, alignedRest, sameRest⟩ :=
      ih true first.2 rest restBound restAppended restBinds
    obtain ⟨pieces, wroteEach, rfl⟩ := Fallible.map_ok wroteRest
    refine ⟨joined separator hasPrevious (written :: pieces), ?_, ?_, sameRest⟩
    · rw [writeEach, wrote, Except.bind, wroteEach]
      rfl
    · have separated : Aligned next (if hasPrevious then [.text (.sql separator)] else []) []
          (if hasPrevious then [.text (.sql separator)] else [] : Written Real) next := by
        cases hasPrevious with
        | false => exact .nil next
        | true => exact Aligned.words [SqlText.sql separator] next
      exact (separated.append aligned).append alignedRest

theorem appendEach_map (separator : String)
    (append : Nat → Other → Except UpdateError (Sql × Nat)) (convert : Item → Other)
    (items : List Item) (hasPrevious : Bool) (next : Nat) :
    appendEach separator append hasPrevious next (items.map convert) =
      appendEach separator (fun next item => append next (convert item)) hasPrevious next
        items := by
  induction items generalizing hasPrevious next with
  | nil => rfl
  | cons item items ih =>
    rw [List.map_cons, appendEach, appendEach]
    simp only [ih]

theorem appendEach_next {separator : String}
    {append : Nat → Item → Except UpdateError (Sql × Nat)}
    (one : ∀ next item built, append next item = .ok built → built.2 = next + 1)
    {items : List Item} {hasPrevious : Bool} {next : Nat} {built : Sql × Nat}
    (appended : appendEach separator append hasPrevious next items = .ok built) :
    built.2 = next + items.length := by
  induction items generalizing hasPrevious next built with
  | nil =>
    obtain rfl := Except.ok.inj appended
    rfl
  | cons item items ih =>
    obtain ⟨first, firstAppended, others⟩ := Fallible.bind_ok appended
    obtain ⟨rest, restAppended, rfl⟩ := Fallible.map_ok others
    have numbered := ih restAppended
    rw [one next item first firstAppended] at numbered
    rw [List.length_cons]
    omega

/-- Words before what is appended. -/
theorem Agree.led {next : Nat} {append : Except UpdateError (Sql × Nat)}
    {bind : Except UpdateError (Bindings Real × Nat)} {write : Except UpdateError (Written Real)}
    (agree : Agree next append bind write) (before : List SqlText) :
    Agree next (append.map fun built => (words before ++ built.1, built.2)) bind
      (write.map (writtenWords before ++ ·)) := by
  intro built bound appended binds
  obtain ⟨inner, innerAppended, rfl⟩ := Fallible.map_ok appended
  obtain ⟨written, wrote, aligned, same⟩ := agree inner bound innerAppended binds
  refine ⟨writtenWords before ++ written, by rw [wrote]; rfl, ?_, same⟩
  exact (@Aligned.words SqlText (SqliteValue Real) before next).append aligned

/-- Words around what is appended. -/
theorem Agree.framed {next : Nat} {append : Except UpdateError (Sql × Nat)}
    {bind : Except UpdateError (Bindings Real × Nat)} {write : Except UpdateError (Written Real)}
    (agree : Agree next append bind write) (before after : List SqlText) :
    Agree next (append.map fun built => (words before ++ built.1 ++ words after, built.2)) bind
      (write.map fun written => writtenWords before ++ written ++ writtenWords after) := by
  intro built bound appended binds
  obtain ⟨inner, innerAppended, rfl⟩ := Fallible.map_ok appended
  have opened := agree.led before (words before ++ inner.1, inner.2) bound
    (by rw [innerAppended]; rfl) binds
  obtain ⟨written, wrote, aligned, same⟩ := opened
  obtain ⟨value, writes, rfl⟩ := Fallible.map_ok wrote
  refine ⟨writtenWords before ++ value ++ writtenWords after, by rw [writes]; rfl, ?_, same⟩
  have closed := aligned.append (Aligned.words after inner.2)
  rwa [List.append_nil] at closed

end Loops

section Steps

variable {Details Real : Type} {scalars : RowScalars Details Real} (plan : Plan Details Real)

mutual

theorem materialize_shape {row : List (PlannedValue Real)}
    (expression : RowScalarExpression Details Real)
    {materialized : RowScalarExpression Details Real}
    (done : materialize row expression = .ok materialized) :
    materialized.shape = expression.shape := by
  cases expression with
  | node details value reference arguments =>
    rw [materialize] at done
    obtain ⟨value, _, done⟩ := Fallible.bind_ok done
    obtain ⟨arguments, each, rfl⟩ := Fallible.map_ok done
    rw [RowScalarExpression.shape, RowScalarExpression.shape, materializeArguments_shapes _ each]

theorem materializeArguments_shapes {row : List (PlannedValue Real)}
    (arguments : List (RowScalarExpression Details Real))
    {materialized : List (RowScalarExpression Details Real)}
    (done : materializeArguments row arguments = .ok materialized) :
    shapes materialized = shapes arguments := by
  cases arguments with
  | nil =>
    obtain rfl := Except.ok.inj done
    rfl
  | cons argument arguments =>
    rw [materializeArguments] at done
    obtain ⟨first, one, done⟩ := Fallible.bind_ok done
    obtain ⟨rest, others, rfl⟩ := Fallible.map_ok done
    rw [shapes, shapes, materialize_shape argument one,
      materializeArguments_shapes arguments others]

end

theorem RowScalars.agrees (counts : scalars.CountsAgree) (next : Nat)
    (row : List (PlannedValue Real)) (expression : RowScalarExpression Details Real) :
    Agree next (scalars.appendSql next expression) (scalars.bind next row expression)
      (scalars.written row expression) := by
  intro built bound appended binds
  obtain ⟨template, sql, rfl⟩ := Fallible.map_ok appended
  obtain ⟨materialized, done, binds⟩ := Fallible.bind_ok binds
  obtain ⟨values, taken, rfl⟩ := Fallible.map_ok binds
  have sameSql : scalars.sql materialized.shape = .ok template := by
    rw [materialize_shape expression done, sql]
  have count := counts materialized template values sameSql taken
  refine ⟨template.piecesOf (values.map PlannedValue.bound), ?_, ?_, ?_⟩
  · rw [RowScalars.written, sql, Except.bind, done, Except.bind, taken]
    rfl
  · exact Aligned.template template _ next (by rw [List.length_map, count])
  · rw [count]

/-- A parameter and a value that is bound to it. -/
theorem Agree.one (next : Nat) (value : PlannedValue Real) :
    Agree next (.ok ([.parameter next], next + 1)) (.ok (bindPlannedValueParameter next value))
      (.ok [.value value.bound]) := by
  intro built bound appended binds
  obtain rfl := Except.ok.inj appended
  obtain rfl := Except.ok.inj binds
  exact ⟨_, rfl, Aligned.one next value.bound, rfl⟩

theorem LoadedIndexPart.parameter_agrees (part : LoadedIndexPart) (next : Nat)
    (value : PlannedValue Real) :
    Agree next ((part.parameterSql next).map fun sql => (sql, next + 1))
      (.ok (bindPlannedValueParameter next value)) (part.writtenParameter value) := by
  unfold LoadedIndexPart.parameterSql LoadedIndexPart.writtenParameter
  cases part.prefixLength with
  | none => exact Agree.one next value
  | some length =>
    cases part.collationSql true with
    | error failure =>
      intro built bound appended
      cases appended
    | ok collation =>
      exact (Agree.one next value).framed [.sql "substr("]
        ([.sql ", 1, ", .sql (toString length), .sql ")"] ++ collation)

theorem LoadedIndexPart.equalitySql_next (part : LoadedIndexPart) {next : Nat}
    {built : Sql × Nat} (appended : part.equalitySql next = .ok built) : built.2 = next + 1 := by
  obtain ⟨column, _, appended⟩ := Fallible.bind_ok appended
  obtain ⟨parameter, _, rfl⟩ := Fallible.map_ok appended
  rfl

theorem Plan.keyPart_agrees (next : Nat) (part : LoadedIndexPart) :
    Agree next (part.equalitySql next) (plan.bindKeyPart next part) (plan.writtenKeyPart part) := by
  unfold Plan.bindKeyPart Plan.writtenKeyPart LoadedIndexPart.equalitySql
  cases plan.values[part.columnIndex]? with
  | none =>
    intro built bound _ binds
    cases binds
  | some value =>
    cases part.sql with
    | error failure =>
      intro built bound appended
      cases appended
    | ok column =>
      intro built bound appended binds
      obtain ⟨parameter, sql, rfl⟩ := Fallible.map_ok appended
      exact (part.parameter_agrees next value).led (column ++ [.sql " = "]) _ bound
        (by rw [sql]; rfl) binds

theorem Plan.assignment_agrees (counts : scalars.CountsAgree) (next : Nat)
    (assigned : Assignment Details Real × PlannedValue Real) :
    Agree next (plan.assignmentSql scalars next assigned.1)
      (plan.bindAssignment scalars next assigned) (plan.writtenAssignment scalars assigned) := by
  unfold Plan.assignmentSql Plan.bindAssignment Plan.writtenAssignment
  cases assigned.1.value with
  | rowScalar expression => exact (scalars.agrees counts next plan.values expression).led _
  | literal converted => exact (Agree.one next assigned.2).led _
  | valuesReference column => exact (Agree.one next assigned.2).led _
  | sameColumnArithmetic converted => exact (Agree.one next assigned.2).led _

/-- The expression of a changed condition stands there three times, and is bound three times. -/
theorem RowScalars.changedCondition_agrees (counts : scalars.CountsAgree) (next : Nat)
    (row : List (PlannedValue Real)) (name : String)
    (expression : RowScalarExpression Details Real) :
    Agree next (rowScalarChangedConditionSql scalars name expression next)
      (scalars.bindChangedCondition next row expression)
      ((scalars.written row expression).map fun value =>
        writtenWords [.sql "(", .quotedIdentifier name, .sql " IS NULL AND "] ++ value ++
          writtenWords [.sql " IS NOT NULL OR ", .quotedIdentifier name,
            .sql " IS NOT NULL AND "] ++ value ++
          writtenWords [.sql " IS NULL OR ", .quotedIdentifier name, .sql " <> "] ++ value ++
          writtenWords [.sql ")"]) := by
  intro built bound appended binds
  obtain ⟨whenNull, firstSql, appended⟩ := Fallible.bind_ok appended
  obtain ⟨whenNotNull, secondSql, appended⟩ := Fallible.bind_ok appended
  obtain ⟨compared, thirdSql, rfl⟩ := Fallible.map_ok appended
  obtain ⟨first, rest, firstBinds, restBinds, rfl⟩ := bindEach_cons binds
  obtain ⟨second, last, secondBinds, lastBinds, rfl⟩ := bindEach_cons restBinds
  obtain ⟨third, empty, thirdBinds, emptyBinds, rfl⟩ := bindEach_cons lastBinds
  obtain rfl := Except.ok.inj emptyBinds
  obtain ⟨value, wrote, firstAligned, firstNext⟩ :=
    scalars.agrees counts next row expression whenNull first firstSql firstBinds
  rw [firstNext] at secondBinds
  obtain ⟨again, wroteAgain, secondAligned, secondNext⟩ :=
    scalars.agrees counts whenNull.2 row expression whenNotNull second secondSql secondBinds
  obtain rfl := Except.ok.inj (wrote.symm.trans wroteAgain)
  rw [secondNext] at thirdBinds
  obtain ⟨again, wroteAgain, thirdAligned, thirdNext⟩ :=
    scalars.agrees counts whenNotNull.2 row expression compared third thirdSql thirdBinds
  obtain rfl := Except.ok.inj (wrote.symm.trans wroteAgain)
  refine ⟨_, by rw [wrote]; rfl, ?_, thirdNext⟩
  have opened := (@Aligned.words SqlText (SqliteValue Real)
    [.sql "(", .quotedIdentifier name, .sql " IS NULL AND "] next).append firstAligned
  have middle := (opened.append (Aligned.words
    [.sql " IS NOT NULL OR ", .quotedIdentifier name, .sql " IS NOT NULL AND "]
    whenNull.2)).append secondAligned
  have last := (middle.append (Aligned.words
    [.sql " IS NULL OR ", .quotedIdentifier name, .sql " <> "] whenNotNull.2)).append thirdAligned
  have closed := last.append (Aligned.words [.sql ")"] compared.2)
  simpa only [words, writtenWords, List.nil_append, List.append_nil, List.append_assoc]
    using closed

theorem changedCondition_agrees (next : Nat) (name : String) (value : PlannedValue Real) :
    Agree next (.ok (changedConditionSql name value next))
      (if value.isNull then .ok ([], next) else .ok (bindPlannedValueParameter next value))
      (if value.isNull then .ok (writtenWords [.quotedIdentifier name, .sql " IS NOT NULL"])
      else .ok (writtenWords [.sql "(", .quotedIdentifier name, .sql " IS NULL OR ",
        .quotedIdentifier name, .sql " <> "] ++ [.value value.bound] ++
          writtenWords [.sql ")"])) := by
  unfold changedConditionSql
  by_cases null : value.isNull = true
  · rw [if_pos null, if_pos null, if_pos null]
    intro built bound appended binds
    obtain rfl := Except.ok.inj appended
    obtain rfl := Except.ok.inj binds
    exact ⟨_, rfl, Aligned.words _ next, rfl⟩
  · rw [if_neg null, if_neg null, if_neg null]
    exact (Agree.one next value).framed _ [.sql ")"]

theorem Plan.condition_agrees (counts : scalars.CountsAgree) (next : Nat)
    (assigned : Assignment Details Real × PlannedValue Real) :
    Agree next (plan.assignedConditionSql scalars next assigned)
      (plan.bindChangedCondition scalars next assigned)
      (plan.writtenCondition scalars assigned) := by
  unfold Plan.assignedConditionSql Plan.bindChangedCondition Plan.writtenCondition
  cases assigned.1.value with
  | rowScalar expression =>
    exact scalars.changedCondition_agrees counts next plan.values _ expression
  | literal converted => exact changedCondition_agrees next _ assigned.2
  | valuesReference column => exact changedCondition_agrees next _ assigned.2
  | sameColumnArithmetic converted => exact changedCondition_agrees next _ assigned.2

end Steps

section Statement

variable {Details Real : Type} {scalars : RowScalars Details Real} (plan : Plan Details Real)

theorem convertEach_assignments
    {convert : Assignment Details Real → Except UpdateError (PlannedValue Real)}
    (assignments : List (Assignment Details Real))
    {values : List (Assignment Details Real × PlannedValue Real)}
    (converted : convertEach convert assignments = .ok values) :
    values.map Prod.fst = assignments := by
  induction assignments generalizing values with
  | nil =>
    obtain rfl := Except.ok.inj converted
    rfl
  | cons assignment assignments ih =>
    obtain ⟨value, _, others⟩ := Fallible.bind_ok converted
    obtain ⟨rest, restConverted, rfl⟩ := Fallible.map_ok others
    rw [List.map_cons, ih restConverted]

/-- Both passes leave out the same assignments. -/
theorem Plan.executable_eq {values : List (Assignment Details Real × PlannedValue Real)}
    (complete : values.map Prod.fst = plan.assignments) :
    plan.executable = (executableValues values).map Prod.fst := by
  rw [Plan.executable, ← complete, List.filter_map]
  rfl

theorem Plan.assignments_agree (counts : scalars.CountsAgree) (next : Nat)
    {values : List (Assignment Details Real × PlannedValue Real)}
    (complete : values.map Prod.fst = plan.assignments) :
    Agree next (plan.assignmentsSql scalars next) (plan.bindAssignments scalars next values)
      ((writeEach (plan.writtenAssignment scalars) (executableValues values)).map
        (joined ", " false)) := by
  rw [Plan.assignmentsSql, plan.executable_eq complete, appendEach_map]
  exact appendEach_agrees ", " (plan.assignment_agrees counts) _ false next

theorem Plan.keys_agree (next : Nat) (conflictingIndex : List LoadedIndexPart) :
    Agree next (keyPredicateSql conflictingIndex next)
      (bindEach plan.bindKeyPart next conflictingIndex)
      ((writeEach plan.writtenKeyPart conflictingIndex).map (joined " AND " false)) := by
  intro built bound appended binds
  obtain ⟨sql, predicate, rfl⟩ := Fallible.map_ok appended
  rw [keyPredicateSqlFromParameters] at predicate
  split at predicate
  · cases predicate
  · obtain ⟨whole, each, rfl⟩ := Fallible.map_ok predicate
    obtain ⟨written, wrote, aligned, same⟩ := appendEach_agrees " AND " plan.keyPart_agrees
      conflictingIndex false next whole bound each binds
    have parts : whole.2 = next + conflictingIndex.length :=
      appendEach_next (fun next part built done => part.equalitySql_next done) each
    rw [parts] at aligned same
    exact ⟨written, wrote, aligned, same⟩

theorem Plan.conditions_agree (counts : scalars.CountsAgree) (next : Nat)
    (values : List (Assignment Details Real × PlannedValue Real)) :
    Agree next (plan.changedConditionsSql scalars values next)
      (plan.bindChangedConditions scalars next values)
      (((writeEach (plan.writtenCondition scalars) (executableValues values)).map
        (joined " OR " false)).map fun conditions =>
          writtenWords [.sql "("] ++ conditions ++ writtenWords [.sql ")"]) :=
  (appendEach_agrees " OR " (plan.condition_agrees counts) _ false next).framed [.sql "("]
    [.sql ")"]

/-- The placeholders of the UPDATE are numbered from one on, in the order in which they stand;
the same numbers are bound, in the same order, and with the bindings in their places the
statement has the value of every expression where the expression stands. -/
theorem duplicate_update_parameters_aligned [Inhabited Real] (counts : scalars.CountsAgree)
    (conflictingIndex : List LoadedIndexPart)
    (values : List (Assignment Details Real × PlannedValue Real)) (sql : Sql)
    (bindings : Bindings Real) (converted : plan.convertUpdateValues = .ok values)
    (built : plan.buildUpdateSql scalars conflictingIndex values = .ok sql)
    (bound : plan.bindUpdateParameters scalars conflictingIndex values = .ok bindings) :
    numbers sql = List.range' 1 bindings.length ∧
    bindings.map Prod.fst = List.range' 1 bindings.length ∧
    ∃ written, plan.writtenUpdate scalars conflictingIndex values = .ok written ∧
      sql.map (fill bindings) = written.map some := by
  have complete := convertEach_assignments plan.assignments converted
  rw [Plan.buildUpdateSql] at built
  split at built
  · cases built
  split at built
  · cases built
  obtain ⟨assignments, assignmentsBuilt, rest⟩ := Fallible.bind_ok built
  obtain ⟨predicate, predicateBuilt, others⟩ := Fallible.bind_ok rest
  obtain ⟨conditions, conditionsBuilt, rfl⟩ := Fallible.map_ok others
  obtain ⟨assigned, assignmentsBound, rest⟩ := Fallible.bind_ok bound
  obtain ⟨keys, keysBound, others⟩ := Fallible.bind_ok rest
  obtain ⟨changed, conditionsBound, rfl⟩ := Fallible.map_ok others
  obtain ⟨first, wroteAssignments, assignmentsAligned, sameAssignments⟩ :=
    plan.assignments_agree counts 1 complete assignments assigned assignmentsBuilt assignmentsBound
  rw [sameAssignments] at keysBound
  obtain ⟨second, wroteKeys, keysAligned, sameKeys⟩ :=
    plan.keys_agree assignments.2 conflictingIndex predicate keys predicateBuilt keysBound
  rw [sameKeys] at conditionsBound
  obtain ⟨third, wroteConditions, conditionsAligned, _⟩ :=
    plan.conditions_agree counts predicate.2 values conditions changed conditionsBuilt
      conditionsBound
  obtain ⟨rows, assignmentsWritten, rfl⟩ := Fallible.map_ok wroteAssignments
  obtain ⟨parts, keysWritten, rfl⟩ := Fallible.map_ok wroteKeys
  obtain ⟨joinedRows, joinedWritten, rfl⟩ := Fallible.map_ok wroteConditions
  obtain ⟨changes, conditionsWritten, rfl⟩ := Fallible.map_ok joinedWritten
  have opened := (@Aligned.words SqlText (SqliteValue Real)
    [.sql "UPDATE ", .quotedIdentifier plan.physicalName, .sql " SET "] 1).append assignmentsAligned
  have located := (opened.append (Aligned.words [.sql " WHERE "] assignments.2)).append keysAligned
  have whole := (located.append (Aligned.words [.sql " AND "] predicate.2)).append conditionsAligned
  simp only [List.nil_append, List.append_nil] at whole
  refine ⟨whole.numbers_eq.trans whole.bound, whole.bound, _, ?_, whole.filled⟩
  rw [Plan.writtenUpdate, assignmentsWritten, Except.bind, keysWritten, Except.bind,
    conditionsWritten]
  rfl

end Statement

section Concatenation

/-- The kinds of expression in `CONCAT(a, VALUES(a))`. -/
inductive ConcatKind where
  | value
  | column (name : String)
  | concat
  deriving DecidableEq, Repr

def concatSql : Shape ConcatKind → Except UpdateError (Template SqlText)
  | .node .concat [.node (.column name) [], .node .value []] =>
    .ok [some (.sql "("), some (.quotedIdentifier name), some (.sql " || "), none, some (.sql ")")]
  | _ => .error .error

def concatValues :
    RowScalarExpression ConcatKind Unit → Except UpdateError (List (PlannedValue Unit))
  | .node .concat _ _ [.node (.column _) _ _ [], .node .value value _ []] => .ok [value]
  | _ => .error .error

def concatScalars : RowScalars ConcatKind Unit := ⟨concatSql, concatValues⟩

theorem concatScalars_countsAgree : concatScalars.CountsAgree := by
  intro expression template values sql bound
  change concatValues expression = .ok values at bound
  unfold concatValues at bound
  split at bound
  · obtain rfl := Except.ok.inj bound
    obtain rfl := Except.ok.inj sql
    rfl
  · cases bound

def textValue (bytes : List UInt8) : PlannedValue Unit :=
  ⟨false, true, false, false, 0, (), bytes, none⟩

def integerValue (value : Int) : PlannedValue Unit :=
  ⟨false, false, false, false, value, (), [], none⟩

/-- `INSERT INTO t (id, a, b) VALUES (7, 'x', NULL) ON DUPLICATE KEY UPDATE
a = CONCAT(a, VALUES(a)), b = VALUES(b)`. -/
def concatPlan : Plan ConcatKind Unit where
  physicalName := "t"
  columns := ["id", "a", "b"]
  values := [integerValue 7, textValue [120], nullValue]
  assignments := [
    ⟨1, .rowScalar (.node .concat nullValue none
      [.node (.column "a") nullValue none [], .node .value nullValue (some 1) []]), false⟩,
    ⟨2, .valuesReference 2, false⟩]
  full := rfl
  inRange := by
    intro assignment member
    simp only [List.mem_cons, List.not_mem_nil, or_false] at member
    obtain rfl | rfl := member <;> simp
  referencesInRange := by
    intro assignment member column value
    simp only [List.mem_cons, List.not_mem_nil, or_false] at member
    obtain rfl | rfl := member
    · cases value
    · obtain rfl := AssignedValue.valuesReference.inj value
      simp

def primaryKey : List LoadedIndexPart := [⟨0, "id", none, fun _ => .ok none⟩]

def concatConverted : List (Assignment ConcatKind Unit × PlannedValue Unit) :=
  concatPlan.assignments.zip [nullValue, nullValue]

/-- The text of the statement, with `a` and its new value, the key, and the changes. -/
def concatUpdate : Sql :=
  let value (number : Nat) : Sql :=
    [.text (.sql "("), .text (.quotedIdentifier "a"), .text (.sql " || "), .parameter number,
      .text (.sql ")")]
  words [.sql "UPDATE ", .quotedIdentifier "t", .sql " SET ", .quotedIdentifier "a", .sql " = "] ++
    value 1 ++ words [.sql ", ", .quotedIdentifier "b", .sql " = "] ++ [.parameter 2] ++
    words [.sql " WHERE ", .quotedIdentifier "id", .sql " = "] ++ [.parameter 3] ++
    words [.sql " AND ", .sql "(", .sql "(", .quotedIdentifier "a", .sql " IS NULL AND "] ++
    value 4 ++ words [.sql " IS NOT NULL OR ", .quotedIdentifier "a", .sql " IS NOT NULL AND "] ++
    value 5 ++ words [.sql " IS NULL OR ", .quotedIdentifier "a", .sql " <> "] ++ value 6 ++
    words [.sql ")", .sql " OR ", .quotedIdentifier "b", .sql " IS NOT NULL", .sql ")"]

def concatBindings : Bindings Unit :=
  [(1, .text [120]), (2, .null), (3, .integer 7), (4, .text [120]), (5, .text [120]),
    (6, .text [120])]

theorem concat_update_parameters_aligned :
    numbers concatUpdate = List.range' 1 6 ∧
    concatBindings.map Prod.fst = List.range' 1 6 ∧
    ∃ written, concatPlan.writtenUpdate concatScalars primaryKey concatConverted = .ok written ∧
      concatUpdate.map (fill concatBindings) = written.map some :=
  duplicate_update_parameters_aligned concatPlan concatScalars_countsAgree primaryKey
    concatConverted concatUpdate concatBindings rfl rfl rfl

end Concatenation

end MyLite.DuplicateParameters
