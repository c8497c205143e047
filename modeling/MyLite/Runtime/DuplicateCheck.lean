import Mathlib.Data.List.Forall2
import MyLite.Runtime.DuplicateUpdate
import MyLite.Runtime.ReplaceRows

/-! The check of ON DUPLICATE KEY UPDATE against the UPDATE that follows it. -/

namespace MyLite.DuplicateUpdate

open Replace (SqliteValue PlannedValue IndexPart Index Row)

variable {Real : Type} [DecidableEq Real] [Inhabited Real] {plan : Plan Real}

/-! Key predicates. -/

omit [Inhabited Real] in
theorem keyPartEqual_true {part : IndexPart Real} {stored value : SqliteValue Real} :
    keyPartEqual part stored value = some true ↔ part.equal stored value = true := by
  rw [IndexPart.equal_iff]
  unfold keyPartEqual
  split
  · rename_i unknown
    constructor
    · intro impossible
      cases impossible
    · rintro ⟨stored, value, _⟩
      rcases unknown with isNull | isNull <;> contradiction
  · rename_i known
    rw [not_or] at known
    simp [known.1, known.2]

omit [Inhabited Real] in
theorem keyPredicate_true {index : Index Real} {stored row : Row Real} :
    keyPredicate index stored row = some true ↔ index.sameTuple stored row = true := by
  rw [keyPredicate, Ternary.all_eq_true, List.forall_mem_map, Index.sameTuple, List.all_eq_true]
  exact forall₂_congr fun part _ => keyPartEqual_true

omit [Inhabited Real] in
theorem sameTuple_symm {index : Index Real} {first second : Row Real}
    (same : index.sameTuple first second = true) : index.sameTuple second first = true := by
  unfold Index.sameTuple at *
  rw [List.all_eq_true] at *
  intro part member
  obtain ⟨firstPresent, secondPresent, equal⟩ := IndexPart.equal_iff.mp (same part member)
  exact IndexPart.equal_iff.mpr ⟨secondPresent, firstPresent, equal.symm⟩

omit [Inhabited Real] in
/-- Only the columns of the key count. -/
theorem sameTuple_congr {index : Index Real} {first second : Row Real}
    (agree : ∀ part ∈ index.parts, first.at part.columnIndex = second.at part.columnIndex)
    (other : Row Real) : index.sameTuple other first = index.sameTuple other second := by
  unfold Index.sameTuple
  rw [Bool.eq_iff_iff, List.all_eq_true, List.all_eq_true]
  refine forall₂_congr fun part member => ?_
  rw [agree part member]

/-! Values that are read back. -/

omit [DecidableEq Real] in
@[simp]
theorem planned_bound (value : SqliteValue Real) : (planned value).bound = value := by
  cases value <;> rfl

omit [DecidableEq Real] in
theorem planned_isNull {value : SqliteValue Real} (isNull : (planned value).isNull = true) :
    value = .null := by
  cases value with
  | null => rfl
  | integer | real | text | blob => cases isNull

/-- The table holds what its conversions leave as it is, and no two rows with one key. -/
structure TableState (plan : Plan Real) (rows : List (Row Real)) : Prop
    extends Replace.TableState plan.toPlan rows where
  converted : ∀ row ∈ rows, List.Forall₂
    (fun column value => value = .null ∨ column.convert value = some value) plan.descriptors row

omit [DecidableEq Real] in
theorem materializeRow_eq {columns : List (Column Real)} {row : Row Real}
    (converted : List.Forall₂ (fun column value =>
      value = .null ∨ column.convert value = some value) columns row) :
    materializeRow columns row = some (row.map planned) := by
  induction converted with
  | nil => rfl
  | @cons column value columns rest here _ ih =>
    have first : materialize column value = some (planned value) := by
      rcases here with rfl | unchanged
      · rfl
      · cases value with
        | null => rfl
        | integer | real | text | blob => exact Option.map_eq_some_iff.mpr ⟨_, unchanged, rfl⟩
    rw [materializeRow, first, Option.bind_some, ih, Option.map_some, List.map_cons]

/-! Assigned values. -/

omit [DecidableEq Real] [Inhabited Real] in
theorem convertTargets_targets {convert : Target Real → Option (PlannedValue Real)}
    {targets : List (Target Real)} {assigned : List (Target Real × PlannedValue Real)}
    (converted : convertTargets convert targets = some assigned) :
    assigned.map Prod.fst = targets ∧
      ∀ assignment ∈ assigned, convert assignment.1 = some assignment.2 := by
  induction targets generalizing assigned with
  | nil =>
    cases converted
    exact ⟨rfl, fun assignment member => by cases member⟩
  | cons target rest ih =>
    obtain ⟨value, here, converted⟩ := Option.bind_eq_some_iff.mp converted
    obtain ⟨others, later, result⟩ := Option.map_eq_some_iff.mp converted
    cases result
    obtain ⟨targets, each⟩ := ih later
    refine ⟨by rw [List.map_cons, targets], ?_⟩
    intro assignment member
    rcases List.mem_cons.mp member with rfl | member
    · exact here
    · exact each assignment member

omit [DecidableEq Real] in
theorem convertArithmeticValue_null {column : Column Real} {subtract : Bool} {delta : Option Nat}
    {current value : PlannedValue Real}
    (converted : convertArithmeticValue column subtract delta current = some value) :
    ∃ stored, value = planned stored := by
  unfold convertArithmeticValue at converted
  split at converted
  · cases converted
    exact ⟨.null, rfl⟩
  · obtain ⟨_, converted⟩ := Option.ite_none_left_eq_some.mp converted
    obtain ⟨delta, _, converted⟩ := Option.bind_eq_some_iff.mp converted
    obtain ⟨range, _, converted⟩ := Option.bind_eq_some_iff.mp converted
    obtain ⟨result, _, same⟩ := Option.map_eq_some_iff.mp converted
    exact ⟨.integer result, same.symm⟩

omit [DecidableEq Real] in
/-- What is NULL is bound as NULL. -/
theorem convertUpdateValue_null {current : Option (List (PlannedValue Real))}
    {target : Target Real} {value : PlannedValue Real} (executable : target ∈ plan.executable)
    (converted : plan.convertUpdateValue current target = some value)
    (isNull : value.isNull = true) : value.bound = .null := by
  have ofPlanned {stored : SqliteValue Real} (same : value = planned stored) :
      value.bound = .null := by
    rw [same] at isNull ⊢
    rw [planned_bound, planned_isNull isNull]
  unfold Plan.convertUpdateValue at converted
  split at converted
  · rename_i literal kind
    subst converted
    obtain ⟨storage, fits⟩ := plan.literals target executable value kind
    exact PlannedValue.bound_null fits isNull
  · obtain ⟨storage, fits⟩ := Replace.forall₂_getElem plan.fits converted
    exact PlannedValue.bound_null fits isNull
  · obtain ⟨values, _, converted⟩ := Option.bind_eq_some_iff.mp converted
    obtain ⟨old, _, converted⟩ := Option.bind_eq_some_iff.mp converted
    obtain ⟨column, _, converted⟩ := Option.bind_eq_some_iff.mp converted
    obtain ⟨stored, same⟩ := convertArithmeticValue_null converted
    exact ofPlanned same
  · exact ofPlanned (Option.some.inj converted).symm

omit [DecidableEq Real] [Inhabited Real] in
theorem row_at_set {row : Row Real} {column : Nat} (inside : column < row.length)
    (value : SqliteValue Real) : Row.at (row.set column value) column = value := by
  rw [Row.at, List.getD_eq_getElem?_getD, List.getElem?_set_self inside, Option.getD_some]

omit [DecidableEq Real] [Inhabited Real] in
theorem row_at_set_of_ne {row : Row Real} {column other : Nat} (apart : other ≠ column)
    (value : SqliteValue Real) : Row.at (row.set other value) column = Row.at row column := by
  rw [Row.at, Row.at, List.getD_eq_getElem?_getD, List.getElem?_set_ne apart,
    List.getD_eq_getElem?_getD]

omit [DecidableEq Real] [Inhabited Real] in
theorem assignRow_untouched {stored row updated : Row Real}
    {assigned : List (Target Real × PlannedValue Real)} {column : Nat}
    (result : assignRow stored row assigned = some updated)
    (apart : ∀ assignment ∈ assigned, assignment.1.column ≠ column) :
    updated.at column = row.at column := by
  induction assigned generalizing row with
  | nil =>
    cases result
    rfl
  | cons assignment rest ih =>
    obtain ⟨value, _, result⟩ := Option.bind_eq_some_iff.mp result
    rw [ih result fun other member => apart other (List.mem_cons_of_mem _ member)]
    exact row_at_set_of_ne (apart assignment List.mem_cons_self) value

omit [DecidableEq Real] [Inhabited Real] in
theorem assignRow_assigned {stored row updated : Row Real}
    {assigned : List (Target Real × PlannedValue Real)}
    (distinct : (assigned.map fun assignment => assignment.1.column).Nodup)
    (result : assignRow stored row assigned = some updated)
    {assignment : Target Real × PlannedValue Real} (member : assignment ∈ assigned)
    (inside : assignment.1.column < row.length) :
    assignedValue stored assignment = some (updated.at assignment.1.column) := by
  induction assigned generalizing row with
  | nil => cases member
  | cons first rest ih =>
    obtain ⟨value, here, result⟩ := Option.bind_eq_some_iff.mp result
    obtain ⟨fresh, distinct⟩ := List.nodup_cons.mp distinct
    rcases List.mem_cons.mp member with rfl | later
    · have untouched := assignRow_untouched result fun other member same =>
        fresh (List.mem_map.mpr ⟨other, member, same⟩)
      rw [untouched, row_at_set inside, here]
    · exact ih distinct result later (by rwa [List.length_set])

/-! One conflict. -/

/-- The new row conflicts on an index, the first one on which it does, and the values of the clause
are converted. -/
structure Conflict (plan : Plan Real) (rows : List (Row Real)) (conflict : Nat)
    (conflicting : Index Real) (current : Option (List (PlannedValue Real)))
    (assigned : List (Target Real × PlannedValue Real)) : Prop where
  accepted : plan.planInsertDuplicateUpdate = true
  state : TableState plan rows
  found : plan.indexes.findIdx? (plan.isTaken rows) = some conflict
  isIndex : plan.indexes[conflict]? = some conflicting
  converted : plan.convertUpdateValues conflicting rows = some (current, assigned)

/-- One row has the key, and no other has a unique key of it. -/
structure Single (plan : Plan Real) (conflicting : Index Real) (front : List (Row Real))
    (stored : Row Real) (back : List (Row Real)) : Prop where
  hasKey : keyPredicate conflicting stored plan.row = some true
  others : ∀ other ∈ front ++ back, keyPredicate conflicting other plan.row ≠ some true
  apart : ∀ index ∈ plan.indexes, index.isUnique = true → ∀ other ∈ front ++ back,
    index.sameTuple other stored = false

section Conflict

variable {rows : List (Row Real)} {conflict : Nat} {conflicting : Index Real}
  {current : Option (List (PlannedValue Real))}
  {assigned : List (Target Real × PlannedValue Real)}

theorem Conflict.isUnique (conflicted : Conflict plan rows conflict conflicting current assigned) :
    conflicting ∈ plan.indexes ∧ conflicting.isUnique = true ∧
      rows.any (conflicting.sameTuple · plan.row) = true := by
  obtain ⟨inside, holds, _⟩ := List.findIdx?_eq_some_iff_getElem.mp conflicted.found
  have same : plan.indexes[conflict] = conflicting := by
    have isIndex := conflicted.isIndex
    rwa [List.getElem?_eq_getElem inside, Option.some.injEq] at isIndex
  rw [same] at holds
  exact ⟨same ▸ List.getElem_mem inside, Bool.and_eq_true_iff.mp holds⟩

/-- The conflict is found where the new key can be formatted. -/
theorem Conflict.lookup (conflicted : Conflict plan rows conflict conflicting current assigned) :
    plan.findInsertUniqueKeyConflict rows =
      if conflicting.formats plan.values then .ok (conflicting, conflict)
      else .error .keyNotFormatted := by
  have found := conflicted.found
  rw [List.findIdx?_eq_fst_find?_zipIdx] at found
  obtain ⟨⟨index, place⟩, first, rfl⟩ := Option.map_eq_some_iff.mp found
  have isIndex := List.mem_zipIdx_iff_getElem?.mp (List.mem_of_find?_eq_some first)
  have same : index = conflicting := by
    rw [conflicted.isIndex, Option.some.injEq] at isIndex
    exact isIndex.symm
  have taken : (plan.indexes.zipIdx.find? fun index => plan.isTaken rows index.1) =
      some (index, place) := first
  rw [Replace.Plan.findInsertUniqueKeyConflict_eq, taken, Option.elim_some, same]

theorem Conflict.single (conflicted : Conflict plan rows conflict conflicting current assigned) :
    ∃ front stored back, rows = front ++ stored :: back ∧
      Single plan conflicting front stored back := by
  obtain ⟨isIndex, isUnique, any⟩ := conflicted.isUnique
  obtain ⟨stored, member, same⟩ := List.any_eq_true.mp any
  obtain ⟨front, back, split⟩ := List.append_of_mem member
  have unique := conflicted.state.unique
  rw [split, List.pairwise_append] at unique
  obtain ⟨_, unique, across⟩ := unique
  have apart : ∀ index ∈ plan.indexes, index.isUnique = true → ∀ other ∈ front ++ back,
      index.sameTuple other stored = false := by
    intro index isIndex isUnique other member
    rcases List.mem_append.mp member with before | after
    · exact across other before stored List.mem_cons_self index isIndex isUnique
    · have apart := (List.pairwise_cons.mp unique).1 other after index isIndex isUnique
      rw [← Bool.not_eq_true] at apart ⊢
      exact fun same => apart (sameTuple_symm same)
  refine ⟨front, stored, back, split, keyPredicate_true.mpr same, ?_, apart⟩
  intro other member otherSame
  have joined := Index.sameTuple_join (keyPredicate_true.mp otherSame) same
  rw [apart conflicting isIndex isUnique other member] at joined
  cases joined

theorem Conflict.targets (conflicted : Conflict plan rows conflict conflicting current assigned) :
    assigned.map Prod.fst = plan.executable ∧
      ∀ assignment ∈ assigned, plan.convertUpdateValue current assignment.1 = some assignment.2 := by
  obtain ⟨read, _, converted⟩ := Option.bind_eq_some_iff.mp conflicted.converted
  obtain ⟨values, targets, result⟩ := Option.map_eq_some_iff.mp converted
  cases result
  exact convertTargets_targets targets

theorem Conflict.distinct (conflicted : Conflict plan rows conflict conflicting current assigned) :
    (assigned.map fun assignment => assignment.1.column).Nodup := by
  have accepted := conflicted.accepted
  simp only [Plan.planInsertDuplicateUpdate, Bool.and_eq_true, decide_eq_true_eq] at accepted
  have distinct := accepted.1.1.1.2
  rwa [← conflicted.targets.1, List.map_map] at distinct

/-- No assignment to a key is evaluated in the row. -/
theorem Conflict.assignedValue_keyed
    (conflicted : Conflict plan rows conflict conflicting current assigned)
    {assignment : Target Real × PlannedValue Real} (member : assignment ∈ assigned)
    (keyed : plan.isKeyed assignment.1.column = true) (stored : Row Real) :
    assignedValue stored assignment = some assignment.2.bound := by
  have accepted := conflicted.accepted
  simp only [Plan.planInsertDuplicateUpdate, Bool.and_eq_true] at accepted
  have executable : assignment.1 ∈ plan.executable := by
    rw [← conflicted.targets.1]
    exact List.mem_map_of_mem member
  have target := List.all_eq_true.mp accepted.1.1.2 assignment.1 executable
  unfold assignedValue
  split
  · rename_i evaluate kind
    unfold Plan.planTarget at target
    split at target
    · cases target
    · simp [kind, keyed] at target
  · rfl

omit [Inhabited Real] in
theorem Single.find? {front back : List (Row Real)} {stored : Row Real}
    (single : Single plan conflicting front stored back) :
    (front ++ stored :: back).find?
      (fun row => keyPredicate conflicting row plan.row = some true) = some stored := by
  rw [List.find?_append, List.find?_eq_none.mpr, Option.none_or, List.find?_cons_of_pos]
  · exact decide_eq_true single.hasKey
  · intro other member
    rw [decide_eq_true_eq]
    exact single.others other (List.mem_append_left _ member)

/-! The projected row. -/

/-- The row the check looks for. -/
def Plan.projectedRow (plan : Plan Real) (conflicting : Index Real) (rows : List (Row Real))
    (assigned : List (Target Real × PlannedValue Real)) : Option (Row Real) :=
  (plan.fetchCurrentRowValues conflicting rows).map fun current =>
    (projectUpdatedRowValues current assigned).map PlannedValue.bound

theorem Conflict.fetch (conflicted : Conflict plan rows conflict conflicting current assigned)
    {front back : List (Row Real)} {stored : Row Real} (split : rows = front ++ stored :: back)
    (single : Single plan conflicting front stored back) :
    plan.fetchCurrentRowValues conflicting rows = some (stored.map planned) := by
  have member : stored ∈ rows := by
    rw [split]
    exact List.mem_append_right _ List.mem_cons_self
  rw [Plan.fetchCurrentRowValues, split, single.find?, Option.bind_some]
  exact materializeRow_eq (conflicted.state.converted stored member)

/-- The values that were read for an arithmetic assignment are those the check reads. -/
theorem Conflict.current_or (conflicted : Conflict plan rows conflict conflicting current assigned) :
    current.or (plan.fetchCurrentRowValues conflicting rows) =
      plan.fetchCurrentRowValues conflicting rows := by
  obtain ⟨read, toRead, converted⟩ := Option.bind_eq_some_iff.mp conflicted.converted
  obtain ⟨values, _, result⟩ := Option.map_eq_some_iff.mp converted
  cases result
  split at toRead
  · obtain ⟨fetched, fetch, rfl⟩ := Option.map_eq_some_iff.mp toRead
    rw [fetch, Option.some_or]
  · cases toRead
    exact Option.none_or

omit [DecidableEq Real] in
variable (assigned) in
theorem project_at {stored : Row Real} {column : Nat} (inside : column < stored.length) :
    let projected : Row Real :=
      (projectUpdatedRowValues (stored.map planned) assigned).map PlannedValue.bound
    (∃ assignment ∈ assigned, assignment.1.column = column ∧
        projected.at column = assignment.2.bound) ∨
      (∀ assignment ∈ assigned, assignment.1.column ≠ column) ∧
        projected.at column = stored.at column := by
  dsimp only
  have value : Row.at ((projectUpdatedRowValues (stored.map planned) assigned).map
      PlannedValue.bound) column = (((assigned.find? fun assignment =>
        assignment.1.column = column).map Prod.snd).getD (planned (stored.at column))).bound := by
    rw [Row.at, Row.at, List.getD_eq_getElem?_getD, List.getElem?_map, projectUpdatedRowValues,
      List.getElem?_mapIdx, List.getElem?_map, List.getElem?_eq_getElem inside,
      List.getD_eq_getElem?_getD, List.getElem?_eq_getElem inside]
    rfl
  rw [value]
  cases found : assigned.find? fun assignment => assignment.1.column = column with
  | none =>
    refine .inr ⟨?_, planned_bound _⟩
    intro assignment member
    simpa using List.find?_eq_none.mp found assignment member
  | some assignment =>
    have same := List.find?_some found
    rw [decide_eq_true_eq] at same
    exact .inl ⟨assignment, List.mem_of_find?_eq_some found, same, rfl⟩

/-- On every unique index the projected tuple is that of the updated row. -/
theorem Conflict.project_agrees
    (conflicted : Conflict plan rows conflict conflicting current assigned)
    {stored updated : Row Real} (member : stored ∈ rows)
    (result : assignRow stored stored assigned = some updated) {index : Index Real}
    (isIndex : index ∈ plan.indexes) (isUnique : index.isUnique = true) {part : IndexPart Real}
    (isPart : part ∈ index.parts) :
    Row.at ((projectUpdatedRowValues (stored.map planned) assigned).map PlannedValue.bound)
      part.columnIndex = updated.at part.columnIndex := by
  have inside : part.columnIndex < stored.length := by
    have sameLength := (conflicted.state.typed stored member).length_eq
    rw [← sameLength]
    exact plan.inRange index isIndex part isPart
  have keyed : plan.isKeyed part.columnIndex = true := by
    refine List.any_eq_true.mpr ⟨index, isIndex, ?_⟩
    rw [isUnique, Bool.true_and]
    exact List.any_eq_true.mpr ⟨part, isPart, decide_eq_true rfl⟩
  rcases project_at assigned inside with
    ⟨assignment, isAssigned, column, projected⟩ | ⟨apart, projected⟩
  · rw [← column] at inside keyed
    have assignedHere := assignRow_assigned conflicted.distinct result isAssigned inside
    rw [conflicted.assignedValue_keyed isAssigned keyed, Option.some.injEq] at assignedHere
    rw [projected, assignedHere, column]
  · rw [projected, assignRow_untouched result apart]

/-! The UPDATE. -/

omit [Inhabited Real] in
theorem updateRows_others {before rest : List (Row Real)}
    (others : ∀ other ∈ rest, keyPredicate conflicting other plan.row ≠ some true) :
    plan.updateRows conflicting assigned before rest = .ok (before ++ rest, 0) := by
  induction rest generalizing before with
  | nil => rw [Plan.updateRows, List.append_nil]
  | cons other rest ih =>
    rw [Plan.updateRows, if_neg (others other List.mem_cons_self),
      ih fun row member => others row (List.mem_cons_of_mem _ member), List.append_assoc,
      List.singleton_append]

omit [Inhabited Real] in
theorem updateRows_skip {before front rest : List (Row Real)}
    (others : ∀ other ∈ front, keyPredicate conflicting other plan.row ≠ some true) :
    plan.updateRows conflicting assigned before (front ++ rest) =
      plan.updateRows conflicting assigned (before ++ front) rest := by
  induction front generalizing before with
  | nil => rw [List.nil_append, List.append_nil]
  | cons other front ih =>
    rw [List.cons_append, Plan.updateRows, if_neg (others other List.mem_cons_self),
      ih fun row member => others row (List.mem_cons_of_mem _ member), List.append_assoc,
      List.singleton_append]

/-- What the UPDATE makes of the one row that has the key. -/
inductive Updated (plan : Plan Real) (assigned : List (Target Real × PlannedValue Real))
    (front : List (Row Real)) (stored : Row Real) (back : List (Row Real)) :
    Except DuplicateUpdateError (List (Row Real) × Nat) → Prop
  | evaluation (failed : assignRow stored stored assigned = none) :
      Updated plan assigned front stored back (.error .evaluation)
  | unchanged {updated : Row Real} (result : assignRow stored stored assigned = some updated)
      (same : assigned.any (plan.changedCondition stored) = false) :
      Updated plan assigned front stored back (.ok (front ++ stored :: back, 0))
  | refused {updated : Row Real} (result : assignRow stored stored assigned = some updated)
      (refuses : plan.admits updated = false) :
      Updated plan assigned front stored back (.error .otherConstraint)
  | conflicts {updated : Row Real} (result : assignRow stored stored assigned = some updated)
      (changed : assigned.any (plan.changedCondition stored) = true)
      (admitted : plan.admits updated = true) {index : Index Real}
      (isIndex : index ∈ plan.indexes) (isUnique : index.isUnique = true) {other : Row Real}
      (isOther : other ∈ front ++ back) (same : index.sameTuple other updated = true) :
      Updated plan assigned front stored back (.error .uniqueConstraint)
  | stores {updated : Row Real} (result : assignRow stored stored assigned = some updated)
      (changed : assigned.any (plan.changedCondition stored) = true)
      (admitted : plan.admits updated = true)
      (free : ∀ index ∈ plan.indexes, index.isUnique = true → ∀ other ∈ front ++ back,
        index.sameTuple other updated = false) :
      Updated plan assigned front stored back (.ok (front ++ updated :: back, 1))

omit [Inhabited Real] in
theorem Single.updateRows {front back : List (Row Real)} {stored : Row Real}
    (single : Single plan conflicting front stored back) :
    Updated plan assigned front stored back
      (plan.updateRows conflicting assigned [] (front ++ stored :: back)) := by
  have others (other : Row Real) (member : other ∈ back) :=
    single.others other (List.mem_append_right _ member)
  rw [updateRows_skip fun other member => single.others other (List.mem_append_left _ member),
    Plan.updateRows, if_pos single.hasKey, List.nil_append]
  split
  · exact .evaluation ‹_›
  · rename_i updated result
    split
    · rename_i changed
      split
      · rename_i refuses
        exact .refused result (by simpa using refuses)
      · rename_i admitted
        have admitted : plan.admits updated = true := by simpa using admitted
        split
        · rename_i conflicts
          obtain ⟨index, isIndex, holds⟩ := List.any_eq_true.mp conflicts
          rw [Bool.and_eq_true] at holds
          obtain ⟨other, isOther, same⟩ := List.any_eq_true.mp holds.2
          exact .conflicts result changed admitted isIndex holds.1 isOther same
        · rename_i free
          rw [updateRows_others others, List.append_assoc]
          refine .stores result changed admitted ?_
          intro index isIndex isUnique other isOther
          rw [← Bool.not_eq_true]
          intro same
          refine free (List.any_eq_true.mpr ⟨index, isIndex, ?_⟩)
          rw [isUnique, Bool.true_and]
          exact List.any_eq_true.mpr ⟨other, isOther, same⟩
    · rename_i same
      rw [updateRows_others others, List.append_assoc]
      exact .unchanged result (by simpa using same)

/-! The check. -/

/-- A row with the projected tuple of some index that the clause assigns, for which the key
of the conflict is answered so. -/
def Plan.TupleTaken (plan : Plan Real) (conflict : Nat) (conflicting : Index Real)
    (rows : List (Row Real)) (assigned : List (Target Real × PlannedValue Real))
    (answer : Option Bool) : Prop :=
  ∃ projected, plan.projectedRow conflicting rows assigned = some projected ∧
    ∃ index ∈ plan.indexes.zipIdx, index.1.isUnique = true ∧
      plan.requiresValidation conflict index = true ∧
      ∃ other ∈ rows, index.1.sameTuple other projected = true ∧
        keyPredicate conflicting other plan.row = answer

theorem Conflict.sound (conflicted : Conflict plan rows conflict conflicting current assigned)
    {assignment : Target Real × PlannedValue Real} (member : assignment ∈ assigned)
    (isNull : assignment.2.isNull = true) : assignment.2.bound = .null := by
  refine convertUpdateValue_null ?_ (conflicted.targets.2 assignment member) isNull
  rw [← conflicted.targets.1]
  exact List.mem_map_of_mem member

/-- The NULL parts the check looks for are NULL in the projected row. -/
theorem Conflict.sameTuple_of_null
    (conflicted : Conflict plan rows conflict conflicting current assigned) {stored : Row Real}
    {index : Index Real}
    (hasNull : tupleHasNullPart index
      (projectUpdatedRowValues (stored.map planned) assigned) = true) (other : Row Real) :
    index.sameTuple other
      ((projectUpdatedRowValues (stored.map planned) assigned).map PlannedValue.bound) = false := by
  obtain ⟨part, isPart, isNull⟩ := List.any_eq_true.mp hasNull
  rw [← Bool.not_eq_true]
  intro same
  obtain ⟨_, present, _⟩ := IndexPart.equal_iff.mp (List.all_eq_true.mp same part isPart)
  apply present
  rw [Row.at, List.getD_eq_getElem?_getD, List.getElem?_map]
  rw [projectUpdatedRowValues, List.getElem?_mapIdx, List.getElem?_map] at *
  cases found : stored[part.columnIndex]? with
  | none => rfl
  | some value =>
    rw [found] at isNull
    simp only [Option.map_some, Option.getD_some] at isNull ⊢
    cases assignedHere : assigned.find? fun assignment =>
        assignment.1.column = part.columnIndex with
    | none =>
      rw [assignedHere] at isNull
      rw [Option.map_none, Option.getD_none, planned_bound]
      exact planned_isNull isNull
    | some assignment =>
      rw [assignedHere] at isNull
      exact conflicted.sound (List.mem_of_find?_eq_some assignedHere) isNull

omit [Inhabited Real] in
theorem tupleExistsExcludingRow_iff {candidate : Index Real}
    {projected : List (PlannedValue Real)} :
    plan.tupleExistsExcludingRow candidate conflicting rows projected = true ↔
      ∃ other ∈ rows, candidate.sameTuple other (projected.map PlannedValue.bound) = true ∧
        keyPredicate conflicting other plan.row = some false := by
  rw [Plan.tupleExistsExcludingRow, List.any_eq_true]
  refine exists_congr fun other => and_congr_right fun _ => ?_
  rw [decide_eq_true_eq, Ternary.and_eq_true, Ternary.not_eq_true, keyPredicate_true]

/-- The check refuses what another row holds, if it can tell that row from the one it
updates. -/
theorem Conflict.validate (conflicted : Conflict plan rows conflict conflicting current assigned) :
    (plan.validateKeyAssignmentConflicts conflict conflicting rows current assigned = .ok () ∧
      ¬ plan.TupleTaken conflict conflicting rows assigned (some false)) ∨
    ∃ error, plan.validateKeyAssignmentConflicts conflict conflicting rows current assigned =
        .error error ∧ error ≠ .uniqueConstraint ∧
      plan.TupleTaken conflict conflicting rows assigned (some false) := by
  obtain ⟨front, stored, back, split, single⟩ := conflicted.single
  have fetch := conflicted.fetch split single
  unfold Plan.validateKeyAssignmentConflicts
  rw [conflicted.current_or, fetch]
  dsimp only
  split
  · rename_i noneRequires
    refine .inl ⟨rfl, ?_⟩
    rintro ⟨projected, _, index, isIndex, isUnique, requires, _⟩
    rw [List.isEmpty_iff, List.filter_eq_nil_iff] at noneRequires
    exact noneRequires index isIndex (by rw [isUnique, requires]; rfl)
  · split
    · rename_i index found
      have isRequiring := List.mem_of_find?_eq_some found
      have refuses := List.find?_some found
      rw [List.mem_filter, Bool.and_eq_true] at isRequiring
      rw [Bool.and_eq_true, tupleExistsExcludingRow_iff] at refuses
      obtain ⟨isIndex, isUnique, requires⟩ := isRequiring
      have taken : plan.TupleTaken conflict conflicting rows assigned (some false) := by
        refine ⟨_, ?_, index, isIndex, isUnique, requires, refuses.2⟩
        rw [Plan.projectedRow, fetch, Option.map_some]
      split
      · exact .inr ⟨.duplicateKey index.2, rfl, DuplicateUpdateError.noConfusion, taken⟩
      · exact .inr ⟨.keyLookup .keyNotFormatted, rfl, DuplicateUpdateError.noConfusion, taken⟩
    · rename_i noneFound
      refine .inl ⟨rfl, ?_⟩
      rintro ⟨projected, isProjected, index, isIndex, isUnique, requires, taken⟩
      rw [Plan.projectedRow, fetch, Option.map_some, Option.some.injEq] at isProjected
      subst isProjected
      have passes := List.find?_eq_none.mp noneFound index
        (List.mem_filter.mpr ⟨isIndex, by rw [isUnique, requires]; rfl⟩)
      obtain ⟨other, isOther, same, known⟩ := taken
      apply passes
      have noNull : tupleHasNullPart index.1
          (projectUpdatedRowValues (stored.map planned) assigned) = false := by
        rw [← Bool.not_eq_true]
        intro hasNull
        rw [conflicted.sameTuple_of_null hasNull other] at same
        cases same
      have parts : index.1.parts.isEmpty = false := by
        rw [← Bool.not_eq_true, List.isEmpty_iff]
        exact plan.parts index.1 (List.mem_of_getElem? (List.mem_zipIdx_iff_getElem?.mp isIndex))
      rw [parts, noNull, tupleExistsExcludingRow_iff.mpr ⟨other, isOther, same, known⟩]
      rfl

/-! The check against the UPDATE. -/

/-- A unique key that another row holds after the UPDATE is one the check looks at: an
index that the clause does not assign keeps the key of the row it had. -/
theorem Conflict.requires (conflicted : Conflict plan rows conflict conflicting current assigned)
    {front back : List (Row Real)} {stored updated : Row Real}
    (split : rows = front ++ stored :: back) (single : Single plan conflicting front stored back)
    (result : assignRow stored stored assigned = some updated) {index : Index Real}
    {position : Nat} (isIndex : plan.indexes[position]? = some index)
    (isUnique : index.isUnique = true) {other : Row Real} (isOther : other ∈ front ++ back)
    (same : index.sameTuple other updated = true) :
    plan.requiresValidation conflict (index, position) = true := by
  by_contra notRequired
  have member : stored ∈ rows := by
    rw [split]
    exact List.mem_append_right _ List.mem_cons_self
  have kept : index.sameTuple other stored = true := by
    refine List.all_eq_true.mpr fun part isPart => ?_
    obtain ⟨otherPresent, updatedPresent, equal⟩ :=
      IndexPart.equal_iff.mp (List.all_eq_true.mp same part isPart)
    rw [IndexPart.equal_iff]
    by_cases touched : ∃ assignment ∈ assigned, assignment.1.column = part.columnIndex
    · obtain ⟨assignment, isAssigned, column⟩ := touched
      have executable : assignment.1 ∈ plan.executable := by
        rw [← conflicted.targets.1]
        exact List.mem_map_of_mem isAssigned
      -- only the index of the conflict leaves out an assigned part
      have skipped : position = conflict ∧ assignment.1.isSameColumnValuesReference = true := by
        by_contra other
        refine notRequired (List.any_eq_true.mpr ⟨part, isPart, List.any_eq_true.mpr
          ⟨assignment.1, executable, ?_⟩⟩)
        simp only [Bool.and_eq_true, decide_eq_true_eq, Bool.not_eq_true', ← Bool.not_eq_true]
        exact ⟨column, other⟩
      obtain ⟨rfl, reference⟩ := skipped
      obtain rfl : index = conflicting := by
        rw [conflicted.isIndex, Option.some.injEq] at isIndex
        exact isIndex.symm
      have inside : assignment.1.column < stored.length := by
        rw [column, ← (conflicted.state.typed stored member).length_eq]
        exact plan.inRange index conflicted.isUnique.1 part isPart
      have value := assignRow_assigned conflicted.distinct result isAssigned inside
      have converted := conflicted.targets.2 assignment isAssigned
      unfold Target.isSameColumnValuesReference at reference
      split at reference
      · rename_i valuesColumn kind
        rw [decide_eq_true_eq] at reference
        simp only [Plan.convertUpdateValue, kind, reference] at converted
        simp only [assignedValue, kind, Option.some.injEq] at value
        have new : plan.row.at part.columnIndex = updated.at part.columnIndex := by
          rw [← column, ← value, Row.at, Replace.Plan.row, List.getD_eq_getElem?_getD,
            List.getElem?_map, converted]
          rfl
        obtain ⟨storedPresent, _, keyEqual⟩ := IndexPart.equal_iff.mp
          (List.all_eq_true.mp (keyPredicate_true.mp single.hasKey) part isPart)
        rw [new] at keyEqual
        exact ⟨otherPresent, storedPresent, equal.trans keyEqual.symm⟩
      · cases reference
    · have untouched := assignRow_untouched result fun assignment isAssigned column =>
        touched ⟨assignment, isAssigned, column⟩
      rw [untouched] at updatedPresent equal
      exact ⟨otherPresent, updatedPresent, equal⟩
  rw [single.apart index (List.mem_of_getElem? isIndex) isUnique other isOther] at kept
  cases kept

/-- What SQLite finds in the unique indexes is what the check finds or overlooks. -/
theorem Conflict.taken_iff (conflicted : Conflict plan rows conflict conflicting current assigned)
    {front back : List (Row Real)} {stored updated : Row Real}
    (split : rows = front ++ stored :: back) (single : Single plan conflicting front stored back)
    (result : assignRow stored stored assigned = some updated) :
    (∃ index ∈ plan.indexes, index.isUnique = true ∧ ∃ other ∈ front ++ back,
      index.sameTuple other updated = true) ↔
    plan.TupleTaken conflict conflicting rows assigned none ∨
      plan.TupleTaken conflict conflicting rows assigned (some false) := by
  have member : stored ∈ rows := by
    rw [split]
    exact List.mem_append_right _ List.mem_cons_self
  have projected : plan.projectedRow conflicting rows assigned = some
      ((projectUpdatedRowValues (stored.map planned) assigned).map PlannedValue.bound) := by
    rw [Plan.projectedRow, conflicted.fetch split single, Option.map_some]
  have agrees (index : Index Real) (isIndex : index ∈ plan.indexes)
      (isUnique : index.isUnique = true) := sameTuple_congr fun part isPart =>
    conflicted.project_agrees member result isIndex isUnique isPart
  constructor
  · rintro ⟨index, isIndex, isUnique, other, isOther, same⟩
    obtain ⟨position, here⟩ := List.getElem?_of_mem isIndex
    have requires := conflicted.requires split single result here isUnique isOther same
    have inRows : other ∈ rows := by
      rw [split]
      rcases List.mem_append.mp isOther with before | after
      · exact List.mem_append_left _ before
      · exact List.mem_append_right _ (List.mem_cons_of_mem _ after)
    have taken (answer : Option Bool) (answered : keyPredicate conflicting other plan.row = answer) :
        plan.TupleTaken conflict conflicting rows assigned answer :=
      ⟨_, projected, (index, position), List.mem_zipIdx_iff_getElem?.mpr here, isUnique, requires,
        other, inRows, (agrees index isIndex isUnique other).trans same, answered⟩
    have notTrue := single.others other isOther
    cases answered : keyPredicate conflicting other plan.row with
    | none => exact .inl (taken none answered)
    | some answer =>
      cases answer with
      | true => exact absurd answered notTrue
      | false => exact .inr (taken (some false) answered)
  · intro taken
    obtain ⟨answer, notTrue, found, isProjected, index, isIndex, isUnique, _, other, isOther, same,
        answered⟩ : ∃ answer, answer ≠ some true ∧
          plan.TupleTaken conflict conflicting rows assigned answer := by
      rcases taken with overlooked | known
      · exact ⟨none, by simp, overlooked⟩
      · exact ⟨some false, by simp, known⟩
    rw [projected, Option.some.injEq] at isProjected
    subst isProjected
    have isIndex := List.mem_of_getElem? (List.mem_zipIdx_iff_getElem?.mp isIndex)
    refine ⟨index.1, isIndex, isUnique, other, ?_, (agrees index.1 isIndex isUnique other) ▸ same⟩
    rw [split] at isOther
    rcases List.mem_append.mp isOther with before | after
    · exact List.mem_append_left _ before
    · rcases List.mem_cons.mp after with rfl | after
      · exact absurd (answered.symm.trans single.hasKey) notTrue
      · exact List.mem_append_right _ after

/-- The check foretells what the UPDATE does to the unique indexes. -/
structure Predicts (plan : Plan Real) (rows : List (Row Real)) (conflicting : Index Real)
    (assigned : List (Target Real × PlannedValue Real)) : Prop where
  tuples : ∀ stored ∈ rows, keyPredicate conflicting stored plan.row = some true →
    ∀ updated, assignRow stored stored assigned = some updated →
    ∃ projected, plan.projectedRow conflicting rows assigned = some projected ∧
      ∀ index ∈ plan.indexes, index.isUnique = true → ∀ part ∈ index.parts,
        projected.at part.columnIndex = updated.at part.columnIndex
  passes : plan.applyInsertDuplicateKeyUpdate rows ≠ .error .uniqueConstraint
  rejects : ∀ error, plan.applyInsertDuplicateKeyUpdate rows = .error error →
    ∀ result, plan.updateRows conflicting assigned [] rows ≠ .ok result

/-- The UPDATE changes the row, and the constraints before the unique indexes admit it. -/
def Plan.Writes (plan : Plan Real) (conflicting : Index Real) (rows : List (Row Real))
    (assigned : List (Target Real × PlannedValue Real)) : Prop :=
  ∃ stored ∈ rows, keyPredicate conflicting stored plan.row = some true ∧
    ∃ updated, assignRow stored stored assigned = some updated ∧
      assigned.any (plan.changedCondition stored) = true ∧ plan.admits updated = true

/-- No assigned column compares different, and the UPDATE leaves the row. -/
def Plan.Leaves (plan : Plan Real) (conflicting : Index Real) (rows : List (Row Real))
    (assigned : List (Target Real × PlannedValue Real)) : Prop :=
  ∃ stored ∈ rows, keyPredicate conflicting stored plan.row = some true ∧
    ∃ updated, assignRow stored stored assigned = some updated ∧
      assigned.any (plan.changedCondition stored) = false

/-- Where the UPDATE writes, no row with the projected tuple is overlooked alone, for a
NULL in its key of the conflict; where it leaves the row, no row is found. A new key that
cannot be formatted is met only by an UPDATE that would fail. -/
structure Foreseen (plan : Plan Real) (conflict : Nat) (conflicting : Index Real)
    (rows : List (Row Real)) (assigned : List (Target Real × PlannedValue Real)) : Prop where
  writes : conflicting.formats plan.values = true → plan.Writes conflicting rows assigned →
    plan.TupleTaken conflict conflicting rows assigned none →
    plan.TupleTaken conflict conflicting rows assigned (some false)
  leaves : conflicting.formats plan.values = true → plan.Leaves conflicting rows assigned →
    ¬ plan.TupleTaken conflict conflicting rows assigned (some false)
  unformatted : conflicting.formats plan.values = false →
    ¬ plan.Leaves conflicting rows assigned ∧ (plan.Writes conflicting rows assigned →
      plan.TupleTaken conflict conflicting rows assigned none ∨
        plan.TupleTaken conflict conflicting rows assigned (some false))

omit [Inhabited Real] in
theorem Single.only {front back : List (Row Real)} {stored other : Row Real}
    (single : Single plan conflicting front stored back) (member : other ∈ front ++ stored :: back)
    (hasKey : keyPredicate conflicting other plan.row = some true) : other = stored := by
  rcases List.mem_append.mp member with before | after
  · exact absurd hasKey (single.others other (List.mem_append_left _ before))
  · rcases List.mem_cons.mp after with same | after
    · exact same
    · exact absurd hasKey (single.others other (List.mem_append_right _ after))

theorem Conflict.apply_unformatted
    (conflicted : Conflict plan rows conflict conflicting current assigned)
    (unformatted : conflicting.formats plan.values = false) :
    plan.applyInsertDuplicateKeyUpdate rows = .error (.keyLookup .keyNotFormatted) := by
  have lookup := conflicted.lookup
  rw [unformatted, if_neg Bool.false_ne_true] at lookup
  rw [Plan.applyInsertDuplicateKeyUpdate, lookup]

theorem Conflict.apply_refused
    (conflicted : Conflict plan rows conflict conflicting current assigned)
    (formats : conflicting.formats plan.values = true) {error : DuplicateUpdateError}
    (refuses : plan.validateKeyAssignmentConflicts conflict conflicting rows current assigned =
      .error error) : plan.applyInsertDuplicateKeyUpdate rows = .error error := by
  have lookup := conflicted.lookup
  rw [if_pos formats] at lookup
  simp only [Plan.applyInsertDuplicateKeyUpdate, lookup, conflicted.converted, refuses]

theorem Conflict.apply_passed
    (conflicted : Conflict plan rows conflict conflicting current assigned)
    (formats : conflicting.formats plan.values = true)
    (passes : plan.validateKeyAssignmentConflicts conflict conflicting rows current assigned =
      .ok ()) :
    plan.applyInsertDuplicateKeyUpdate rows =
      if assigned.isEmpty then .ok (rows, 0)
      else
        (plan.updateRows conflicting assigned [] rows).map fun result =>
          (result.1, if 0 < result.2 then 2 else 0) := by
  have lookup := conflicted.lookup
  rw [if_pos formats] at lookup
  have empty : plan.executable.isEmpty = assigned.isEmpty := by
    rw [← conflicted.targets.1]
    cases assigned <;> rfl
  simp only [Plan.applyInsertDuplicateKeyUpdate, lookup, conflicted.converted, passes, empty]

theorem Conflict.update (conflicted : Conflict plan rows conflict conflicting current assigned) :
    ∃ front stored back, rows = front ++ stored :: back ∧
      Single plan conflicting front stored back ∧
      Updated plan assigned front stored back (plan.updateRows conflicting assigned [] rows) := by
  obtain ⟨front, stored, back, split, single⟩ := conflicted.single
  refine ⟨front, stored, back, split, single, ?_⟩
  rw [split]
  exact single.updateRows

theorem Conflict.writes_conflicts
    (conflicted : Conflict plan rows conflict conflicting current assigned)
    (writes : plan.Writes conflicting rows assigned)
    (taken : plan.TupleTaken conflict conflicting rows assigned none ∨
      plan.TupleTaken conflict conflicting rows assigned (some false)) :
    plan.updateRows conflicting assigned [] rows = .error .uniqueConstraint := by
  obtain ⟨front, stored, back, split, single, spec⟩ := conflicted.update
  obtain ⟨here, member, hasKey, updated, result, changed, admitted⟩ := writes
  obtain rfl := single.only (split ▸ member) hasKey
  obtain ⟨index, isIndex, isUnique, other, isOther, same⟩ :=
    (conflicted.taken_iff split single result).mpr taken
  generalize plan.updateRows conflicting assigned [] rows = outcome at spec
  cases spec with
  | evaluation failed =>
    rw [result] at failed
    cases failed
  | unchanged _ unchanged =>
    rw [changed] at unchanged
    cases unchanged
  | refused other refuses =>
    rw [result, Option.some.injEq] at other
    rw [← other, admitted] at refuses
    cases refuses
  | conflicts => rfl
  | stores also _ _ free =>
    rw [result, Option.some.injEq] at also
    have apart := free index isIndex isUnique other isOther
    rw [← also, same] at apart
    cases apart

theorem Conflict.leaves_ok (conflicted : Conflict plan rows conflict conflicting current assigned)
    (leaves : plan.Leaves conflicting rows assigned) :
    plan.updateRows conflicting assigned [] rows = .ok (rows, 0) := by
  obtain ⟨front, stored, back, split, single, spec⟩ := conflicted.update
  obtain ⟨here, member, hasKey, updated, result, same⟩ := leaves
  obtain rfl := single.only (split ▸ member) hasKey
  have others (other : Row Real) (member : other ∈ back) :=
    single.others other (List.mem_append_right _ member)
  rw [split, updateRows_skip fun other member =>
    single.others other (List.mem_append_left _ member), Plan.updateRows, if_pos hasKey, result]
  simp only [same, Bool.false_eq_true, if_false]
  rw [updateRows_others others, List.nil_append, List.append_assoc, List.singleton_append]

theorem Conflict.writes_ok (conflicted : Conflict plan rows conflict conflicting current assigned)
    (writes : plan.Writes conflicting rows assigned)
    (free : ¬(plan.TupleTaken conflict conflicting rows assigned none ∨
      plan.TupleTaken conflict conflicting rows assigned (some false))) :
    ∃ result, plan.updateRows conflicting assigned [] rows = .ok result := by
  obtain ⟨front, stored, back, split, single, spec⟩ := conflicted.update
  obtain ⟨here, member, hasKey, updated, result, changed, admitted⟩ := writes
  obtain rfl := single.only (split ▸ member) hasKey
  generalize plan.updateRows conflicting assigned [] rows = outcome at spec
  cases spec with
  | evaluation failed =>
    rw [result] at failed
    cases failed
  | unchanged _ unchanged => exact ⟨_, rfl⟩
  | refused other refuses =>
    rw [result, Option.some.injEq] at other
    rw [← other, admitted] at refuses
    cases refuses
  | @conflicts other also _ _ index isIndex isUnique row isOther same =>
    exact absurd ((conflicted.taken_iff split single also).mp
      ⟨index, isIndex, isUnique, row, isOther, same⟩) free
  | stores => exact ⟨_, rfl⟩

/-- An UPDATE that succeeds leaves the row, or writes it where no other row has its tuple. -/
theorem Conflict.update_ok (conflicted : Conflict plan rows conflict conflicting current assigned)
    {outcome : List (Row Real) × Nat}
    (succeeds : plan.updateRows conflicting assigned [] rows = .ok outcome) :
    plan.Leaves conflicting rows assigned ∨ (plan.Writes conflicting rows assigned ∧
      ¬(plan.TupleTaken conflict conflicting rows assigned none ∨
        plan.TupleTaken conflict conflicting rows assigned (some false))) := by
  obtain ⟨front, stored, back, split, single, spec⟩ := conflicted.update
  have member : stored ∈ rows := by
    rw [split]
    exact List.mem_append_right _ List.mem_cons_self
  rw [succeeds] at spec
  cases spec with
  | @unchanged updated result same =>
    exact .inl ⟨stored, member, single.hasKey, updated, result, same⟩
  | @stores updated result changed admitted free =>
    refine .inr ⟨⟨stored, member, single.hasKey, updated, result, changed, admitted⟩, ?_⟩
    intro taken
    obtain ⟨index, isIndex, isUnique, other, isOther, same⟩ :=
      (conflicted.taken_iff split single result).mpr taken
    rw [free index isIndex isUnique other isOther] at same
    cases same

/-- A unique-constraint error of the UPDATE comes from a row whose tuple it writes. -/
theorem Conflict.update_conflicts
    (conflicted : Conflict plan rows conflict conflicting current assigned)
    (fails : plan.updateRows conflicting assigned [] rows = .error .uniqueConstraint) :
    plan.Writes conflicting rows assigned ∧
      (plan.TupleTaken conflict conflicting rows assigned none ∨
        plan.TupleTaken conflict conflicting rows assigned (some false)) := by
  obtain ⟨front, stored, back, split, single, spec⟩ := conflicted.update
  have member : stored ∈ rows := by
    rw [split]
    exact List.mem_append_right _ List.mem_cons_self
  rw [fails] at spec
  cases spec with
  | @conflicts updated result changed admitted index isIndex isUnique other isOther same =>
    exact ⟨⟨stored, member, single.hasKey, updated, result, changed, admitted⟩,
      (conflicted.taken_iff split single result).mp
        ⟨index, isIndex, isUnique, other, isOther, same⟩⟩

/-- The projected tuples are those of the updated row. -/
theorem Conflict.tuples (conflicted : Conflict plan rows conflict conflicting current assigned) :
    ∀ stored ∈ rows, keyPredicate conflicting stored plan.row = some true →
      ∀ updated, assignRow stored stored assigned = some updated →
      ∃ projected, plan.projectedRow conflicting rows assigned = some projected ∧
        ∀ index ∈ plan.indexes, index.isUnique = true → ∀ part ∈ index.parts,
          projected.at part.columnIndex = updated.at part.columnIndex := by
  obtain ⟨front, stored, back, split, single⟩ := conflicted.single
  have member : stored ∈ rows := by
    rw [split]
    exact List.mem_append_right _ List.mem_cons_self
  intro here isHere hasKey updated result
  obtain rfl := single.only (split ▸ isHere) hasKey
  refine ⟨_, by rw [Plan.projectedRow, conflicted.fetch split single, Option.map_some], ?_⟩
  intro index isIndex isUnique part isPart
  exact conflicted.project_agrees member result isIndex isUnique isPart

/-- ON DUPLICATE KEY UPDATE foretells the UPDATE exactly where its check overlooks no row and
refuses none that the UPDATE would leave, and where the new key can be formatted unless the
UPDATE would fail anyway. -/
theorem duplicate_update_predicted_iff
    (conflicted : Conflict plan rows conflict conflicting current assigned) :
    Predicts plan rows conflicting assigned ↔
      Foreseen plan conflict conflicting rows assigned := by
  constructor
  · intro predicts
    refine ⟨?_, ?_, ?_⟩
    · intro formats writes overlooked
      have fails := conflicted.writes_conflicts writes (.inl overlooked)
      rcases conflicted.validate with ⟨passes, _⟩ | ⟨_, _, _, known⟩
      · have notEmpty : assigned.isEmpty = false := by
          obtain ⟨_, _, _, _, _, changed, _⟩ := writes
          cases assigned with
          | nil => cases changed
          | cons assignment rest => rfl
        have answer := conflicted.apply_passed formats passes
        rw [notEmpty, fails] at answer
        exact absurd answer predicts.passes
      · exact known
    · intro formats leaves known
      rcases conflicted.validate with ⟨_, unknown⟩ | ⟨error, refuses, _⟩
      · exact unknown known
      · exact predicts.rejects error (conflicted.apply_refused formats refuses) _
          (conflicted.leaves_ok leaves)
    · intro unformatted
      have rejected := predicts.rejects _ (conflicted.apply_unformatted unformatted)
      refine ⟨fun leaves => rejected _ (conflicted.leaves_ok leaves), fun writes => ?_⟩
      by_contra free
      obtain ⟨result, succeeds⟩ := conflicted.writes_ok writes free
      exact rejected result succeeds
  · intro foreseen
    cases formats : conflicting.formats plan.values with
    | false =>
      obtain ⟨notLeft, taken⟩ := foreseen.unformatted formats
      refine ⟨conflicted.tuples, ?_, ?_⟩
      · rw [conflicted.apply_unformatted formats]
        exact fun same => by cases same
      · intro error _ result succeeds
        rcases conflicted.update_ok succeeds with leaves | ⟨writes, free⟩
        · exact notLeft leaves
        · exact free (taken writes)
    | true =>
      refine ⟨conflicted.tuples, ?_, ?_⟩
      · intro fails
        rcases conflicted.validate with ⟨passes, unknown⟩ | ⟨error, refuses, other, _⟩
        · rw [conflicted.apply_passed formats passes] at fails
          split at fails
          · cases fails
          · cases outcome : plan.updateRows conflicting assigned [] rows with
            | ok result =>
              rw [outcome] at fails
              cases fails
            | error error =>
              rw [outcome] at fails
              cases fails
              obtain ⟨writes, taken⟩ := conflicted.update_conflicts outcome
              rcases taken with overlooked | known
              · exact unknown (foreseen.writes formats writes overlooked)
              · exact unknown known
        · rw [conflicted.apply_refused formats refuses] at fails
          exact other (Except.error.inj fails)
      · intro error refused outcome succeeds
        rcases conflicted.validate with ⟨passes, _⟩ | ⟨_, _, _, known⟩
        · rw [conflicted.apply_passed formats passes, succeeds] at refused
          split at refused
          · cases refused
          · cases refused
        · rcases conflicted.update_ok succeeds with leaves | ⟨_, free⟩
          · exact foreseen.leaves formats leaves known
          · exact free (.inr known)

end Conflict

/-- `a INT UNIQUE, b INT UNIQUE`. -/
def uniqueColumn (column : Nat) : Index Int where
  isUnique := true
  parts := [⟨column, none, id⟩]

def integerColumn : Column Int where
  logicalType := "INT"
  physicalType := "INTEGER"
  characterSetName := ""
  collationName := ""
  isStringFamily := false
  isAutoIncrement := false
  storage := .integer
  integerRange := some ⟨2147483647, 2147483648⟩
  normalize := id
  convert := some

/-- `INSERT INTO t VALUES (1, 30) ON DUPLICATE KEY UPDATE b = 20`. -/
def setSecond : Plan Int where
  columns := [.integer, .integer]
  indexes := [uniqueColumn 0, uniqueColumn 1]
  values := [planned (.integer 1), planned (.integer 30)]
  fits := .cons (.inr ⟨rfl, rfl, rfl, rfl, rfl⟩) (.cons (.inr ⟨rfl, rfl, rfl, rfl, rfl⟩) .nil)
  parts := by simp [uniqueColumn]
  inRange := by simp [uniqueColumn]
  descriptors := [integerColumn, integerColumn]
  described := rfl
  assignments := [some ⟨1, .literal (some (planned (.integer 20)))⟩]
  literals := by
    intro target member value kind
    rw [List.mem_singleton.mp member, AssignedValue.literal.injEq, Option.some.injEq] at kind
    exact ⟨.integer, kind ▸ .inr ⟨rfl, rfl, rfl, rfl, rfl⟩⟩
  parentForeignKeyColumns := []
  isInsertSelect := false
  admits := fun _ => true

def secondSet : List (Target Int × PlannedValue Int) :=
  [(⟨1, .literal (some (planned (.integer 20)))⟩, planned (.integer 20))]

theorem setSecond_conflict {other : SqliteValue Int} (typed : other.Fits .integer)
    (apart : other ≠ .integer 1) :
    Conflict setSecond [[.integer 1, .integer 10], [other, .integer 20]] 0 (uniqueColumn 0) none
      secondSet where
  accepted := by decide
  state := by
    have converted (value : SqliteValue Int) :
        value = .null ∨ integerColumn.convert value = some value := .inr rfl
    refine ⟨⟨?_, ?_⟩, ?_⟩
    · rintro row member
      rcases List.mem_cons.mp member with rfl | member
      · exact .cons rfl (.cons rfl .nil)
      · rw [List.mem_singleton.mp member]
        exact .cons typed (.cons rfl .nil)
    · refine List.pairwise_pair.mpr ?_
      intro index member _
      rcases List.mem_cons.mp member with rfl | member
      · cases other <;> simp_all [uniqueColumn, Index.sameTuple, IndexPart.equal, Row.at]
        exact fun same => apart same.symm
      · rw [List.mem_singleton.mp member]
        rfl
    · intro row member
      rcases List.mem_cons.mp member with rfl | member
      · exact .cons (converted _) (.cons (converted _) .nil)
      · rw [List.mem_singleton.mp member]
        exact .cons (converted _) (.cons (converted _) .nil)
  found := rfl
  isIndex := rfl
  converted := rfl

theorem duplicate_update_predicted_row :
    Predicts setSecond [[.integer 1, .integer 10], [.integer 2, .integer 20]] (uniqueColumn 0)
        secondSet ↔
      Foreseen setSecond 0 (uniqueColumn 0) [[.integer 1, .integer 10], [.integer 2, .integer 20]]
        secondSet :=
  duplicate_update_predicted_iff (setSecond_conflict rfl (by decide))

/-- The row with NULL in the key of the conflict has the new tuple: the check passes, and
the UPDATE raises a unique-constraint error. -/
theorem null_key_overlooked :
    ¬ ∀ (plan : Plan Int) (rows : List (Row Int)) (conflict : Nat) (conflicting : Index Int)
      (current : Option (List (PlannedValue Int))) (assigned : List (Target Int × PlannedValue Int)),
      Conflict plan rows conflict conflicting current assigned →
        Predicts plan rows conflicting assigned := by
  intro claim
  have predicts := claim _ _ _ _ _ _ (@setSecond_conflict .null trivial (by decide))
  exact predicts.passes rfl

end MyLite.DuplicateUpdate
