import Mathlib.Data.List.Forall2
import MyLite.Runtime.Replace

/-! What REPLACE leaves of the table, and the rows it reports. -/

namespace MyLite.Replace

variable {Real : Type} [DecidableEq Real] {plan : Plan Real} {reads : ColumnReads Real}

/-! Values. -/

/-- A planned value matches what it holds itself, not what it binds. -/
theorem PlannedValue.matchesColumn_iff {storage : StorageClass} {value : PlannedValue Real}
    {stored : SqliteValue Real} (fits : value.Fits storage) (typed : stored.Fits storage) :
    value.matchesColumn reads stored = true ↔ stored = value.own := by
  unfold PlannedValue.matchesColumn PlannedValue.own
  rcases fits with ⟨isNull, _⟩ | ⟨notNull, flags⟩
  · simp [isNull]
  · rw [notNull]
    cases storage with
    | integer =>
      obtain ⟨notText, notBlob, notReal, _⟩ := flags
      cases stored <;>
        simp_all [SqliteValue.Fits, reads.int64_integer]
    | real =>
      obtain ⟨notText, notBlob, isReal, _⟩ := flags
      cases stored <;> simp_all [SqliteValue.Fits, reads.double_real]
    | blob =>
      obtain ⟨notText, isBlob, _⟩ := flags
      cases stored <;> simp_all [SqliteValue.Fits, reads.bytes_blob]
    | text =>
      obtain ⟨isText, notBlob, _⟩ := flags
      cases stored <;> simp_all [SqliteValue.Fits, reads.bytes_text]

omit [DecidableEq Real] in
theorem PlannedValue.bound_null {storage : StorageClass} {value : PlannedValue Real}
    (fits : value.Fits storage) (isNull : value.isNull = true) : value.bound = .null := by
  rcases fits with ⟨_, unbound⟩ | ⟨notNull, _⟩
  · rw [PlannedValue.bound, unbound]
    simp [PlannedValue.own, isNull]
  · rw [isNull] at notNull
    cases notNull

/-- The row as the planned values hold it: empty where text is bound to a parameter. -/
def Plan.ownRow (plan : Plan Real) : Row Real := plan.values.map PlannedValue.own

theorem zip_matches {columns : List StorageClass} {values : List (PlannedValue Real)}
    {stored : Row Real} (fits : List.Forall₂ PlannedValue.Fits columns values)
    (typed : List.Forall₂ SqliteValue.Fits columns stored) :
    ((values.zip stored).all fun column => column.1.matchesColumn reads column.2) = true ↔
      stored = values.map PlannedValue.own := by
  induction fits generalizing stored with
  | nil =>
    cases typed
    simp
  | cons here _ ih =>
    cases typed with
    | cons typedHere typedRest =>
      rw [List.zip_cons_cons, List.all_cons, Bool.and_eq_true, ih typedRest,
        PlannedValue.matchesColumn_iff here typedHere, List.map_cons, List.cons.injEq]

theorem Plan.matchesRow_iff (plan : Plan Real) (reads : ColumnReads Real) {stored : Row Real}
    (typed : List.Forall₂ SqliteValue.Fits plan.columns stored) :
    plan.matchesRow reads stored = true ↔ stored = plan.ownRow :=
  zip_matches plan.fits typed

/-! Tuples. -/

theorem IndexPart.equal_iff {part : IndexPart Real} {stored value : SqliteValue Real} :
    part.equal stored value = true ↔
      stored ≠ .null ∧ value ≠ .null ∧ part.normalize stored = part.normalize value := by
  simp [IndexPart.equal, and_assoc]

/-- Two rows with the tuple of a third have one tuple. -/
theorem Index.sameTuple_join {index : Index Real} {first second row : Row Real}
    (firstSame : index.sameTuple first row = true)
    (secondSame : index.sameTuple second row = true) :
    index.sameTuple first second = true := by
  unfold Index.sameTuple at *
  rw [List.all_eq_true] at *
  intro part member
  obtain ⟨firstPresent, _, firstEqual⟩ := IndexPart.equal_iff.mp (firstSame part member)
  obtain ⟨secondPresent, _, secondEqual⟩ := IndexPart.equal_iff.mp (secondSame part member)
  exact IndexPart.equal_iff.mpr ⟨firstPresent, secondPresent, firstEqual.trans secondEqual.symm⟩

omit [DecidableEq Real] in
theorem forall₂_getElem {columns : List StorageClass} {values : List (PlannedValue Real)}
    (fits : List.Forall₂ PlannedValue.Fits columns values) {position : Nat}
    {value : PlannedValue Real} (found : values[position]? = some value) :
    ∃ storage, value.Fits storage := by
  induction fits generalizing position with
  | nil => cases found
  | cons here _ ih =>
    cases position with
    | zero =>
      cases found
      exact ⟨_, here⟩
    | succ position => exact ih (by simpa using found)

/-- A key with a NULL part conflicts with nothing. -/
theorem Plan.sameTuple_of_null {index : Index Real} {part : IndexPart Real}
    (member : part ∈ index.parts) {value : PlannedValue Real}
    (found : plan.values[part.columnIndex]? = some value) (isNull : value.isNull = true)
    (stored : Row Real) : index.sameTuple stored plan.row = false := by
  rw [← Bool.not_eq_true]
  intro same
  obtain ⟨_, present, _⟩ := IndexPart.equal_iff.mp (List.all_eq_true.mp same part member)
  obtain ⟨storage, fits⟩ := forall₂_getElem plan.fits found
  apply present
  rw [Row.at, Plan.row, List.getD_eq_getElem?_getD, List.getElem?_map, found, Option.map_some,
    Option.getD_some, PlannedValue.bound_null fits isNull]

/-! The lookup. -/

omit [DecidableEq Real] in
/-- The NULL parts of a key over the columns of the row. -/
theorem rowHasNullPart_ok {Failure : Type} {invalidDescriptor : Failure}
    {values : List (PlannedValue Real)} {parts : List Nat}
    (inside : ∀ part ∈ parts, part < values.length) :
    rowHasNullPart invalidDescriptor values parts = .ok false ∨
      (rowHasNullPart invalidDescriptor values parts = .ok true ∧
        ∃ part ∈ parts, ∃ value, values[part]? = some value ∧ value.isNull = true) := by
  induction parts with
  | nil => exact .inl rfl
  | cons part parts ih =>
    obtain ⟨here, others⟩ := List.forall_mem_cons.mp inside
    have found := List.getElem?_eq_getElem here
    rw [rowHasNullPart, found]
    dsimp only
    split
    · rename_i isNull
      exact .inr ⟨rfl, part, List.mem_cons_self, _, found, isNull⟩
    · rcases ih others with none | ⟨null, later, member, isNull⟩
      · exact .inl none
      · exact .inr ⟨null, later, List.mem_cons_of_mem _ member, isNull⟩

/-- The first key that is taken is found, and its tuple is formatted. -/
theorem KeyLookup.findInsertUniqueKeyConflict_eq {Key Failure Text : Type}
    {lookup : KeyLookup Key Failure Text} {taken : Key → Bool} (step : Failure) {keys : List Key}
    (answers : ∀ key ∈ keys, lookup.conflicts key = .ok (taken key)) :
    lookup.findInsertUniqueKeyConflict step keys =
      (keys.find? taken).elim (.error step) fun key =>
        (lookup.formatTuple key).map fun text => (key, text) := by
  induction keys with
  | nil => rfl
  | cons key keys ih =>
    obtain ⟨here, others⟩ := List.forall_mem_cons.mp answers
    rw [KeyLookup.findInsertUniqueKeyConflict, here]
    cases isTaken : taken key with
    | false =>
      rw [List.find?_cons_of_neg (by simp [isTaken])]
      exact ih others
    | true =>
      rw [List.find?_cons_of_pos isTaken]
      rfl

/-! Conflicts. -/

/-- A row that is in the way of the new one on some unique index. -/
def Plan.conflicts (plan : Plan Real) (stored : Row Real) : Bool :=
  plan.indexes.any fun index => index.isUnique && index.sameTuple stored plan.row

/-- The rows of a table that its columns and its unique indexes allow. -/
structure TableState (plan : Plan Real) (rows : List (Row Real)) : Prop where
  typed : ∀ row ∈ rows, List.Forall₂ SqliteValue.Fits plan.columns row
  unique : rows.Pairwise fun first second => ∀ index ∈ plan.indexes, index.isUnique = true →
    index.sameTuple first second = false

theorem TableState.filter {rows : List (Row Real)} (state : TableState plan rows)
    (keep : Row Real → Bool) : TableState plan (rows.filter keep) :=
  ⟨fun row member => state.typed row (List.mem_filter.mp member).1, state.unique.filter keep⟩

/-- Only one row has the tuple of the new one. -/
theorem TableState.one {rows : List (Row Real)} (state : TableState plan rows)
    {index : Index Real} (member : index ∈ plan.indexes) (isUnique : index.isUnique = true)
    {conflicting : Row Real}
    (found : rows.find? (index.sameTuple · plan.row) = some conflicting) :
    rows.filter (index.sameTuple · plan.row) = [conflicting] := by
  have unique := state.unique
  clear state
  induction rows with
  | nil => cases found
  | cons row rest ih =>
    obtain ⟨apart, unique⟩ := List.pairwise_cons.mp unique
    cases same : index.sameTuple row plan.row with
    | false =>
      rw [List.find?_cons_of_neg (by simpa using same)] at found
      rw [List.filter_cons_of_neg (by simpa using same)]
      exact ih found unique
    | true =>
      rw [List.find?_cons_of_pos (by simpa using same)] at found
      cases found
      rw [List.filter_cons_of_pos (by simpa using same), List.cons.injEq]
      refine ⟨rfl, List.filter_eq_nil_iff.mpr ?_⟩
      intro other inRest otherSame
      have joined := Index.sameTuple_join same otherSame
      rw [apart other inRest index member isUnique] at joined
      cases joined

/-- Some row has the new tuple of this unique index. -/
def Plan.isTaken (plan : Plan Real) (rows : List (Row Real)) (index : Index Real) : Bool :=
  index.isUnique && rows.any (index.sameTuple · plan.row)

theorem Plan.keyLookup_conflicts {rows : List (Row Real)} {index : Index Real × Nat}
    (member : index.1 ∈ plan.indexes) :
    (plan.keyLookup rows).conflicts index = .ok (plan.isTaken rows index.1) := by
  have inside : ∀ column ∈ index.1.parts.map IndexPart.columnIndex,
      column < plan.values.length := by
    intro column listed
    obtain ⟨part, inParts, rfl⟩ := List.mem_map.mp listed
    rw [← plan.fits.length_eq]
    exact plan.inRange index.1 member part inParts
  unfold KeyLookup.conflicts Plan.isTaken
  by_cases isUnique : index.1.isUnique = true
  · have proceeds : ¬ (!(plan.keyLookup rows).isUnique index ||
        decide ((plan.keyLookup rows).partCount index = 0)) = true := by
      have someParts : index.1.parts.length ≠ 0 :=
        fun empty => plan.parts index.1 member (List.length_eq_zero_iff.mp empty)
      simp [Plan.keyLookup, isUnique, someParts]
    rw [if_neg proceeds, isUnique, Bool.true_and]
    dsimp only [Plan.keyLookup]
    rcases rowHasNullPart_ok inside with none | ⟨null, column, listed, value, found, isNull⟩
    · rw [none]
    · obtain ⟨part, inParts, rfl⟩ := List.mem_map.mp listed
      have free : rows.any (index.1.sameTuple · plan.row) = false :=
        List.any_eq_false.mpr fun row _ =>
          Bool.eq_false_iff.mp (Plan.sameTuple_of_null inParts found isNull row)
      rw [null, free]
  · have skipped : (!(plan.keyLookup rows).isUnique index ||
        decide ((plan.keyLookup rows).partCount index = 0)) = true := by
      simp [Plan.keyLookup, isUnique]
    rw [if_pos skipped, Bool.eq_false_iff.mpr isUnique, Bool.false_and]

/-- The first unique index that is taken is found, if the new key of it can be formatted. -/
theorem Plan.findInsertUniqueKeyConflict_eq (plan : Plan Real) (rows : List (Row Real)) :
    plan.findInsertUniqueKeyConflict rows =
      (plan.indexes.zipIdx.find? fun index => plan.isTaken rows index.1).elim
        (.error .constraint) fun index =>
          if index.1.formats plan.values then .ok index else .error .keyNotFormatted := by
  have answers : ∀ index ∈ plan.indexes.zipIdx,
      (plan.keyLookup rows).conflicts index = .ok (plan.isTaken rows index.1) := fun index member =>
    Plan.keyLookup_conflicts (List.mem_of_getElem? (List.mem_zipIdx_iff_getElem?.mp member))
  rw [Plan.findInsertUniqueKeyConflict, KeyLookup.findInsertUniqueKeyConflict_eq _ answers]
  cases plan.indexes.zipIdx.find? fun index => plan.isTaken rows index.1 with
  | none => rfl
  | some index =>
    dsimp only [Option.elim_some, Plan.keyLookup]
    cases index.1.formats plan.values with
    | false => rfl
    | true => rfl

/-- The unique index that the loop handles: one with a row in the way, and none before it has
one. -/
structure FirstTaken (plan : Plan Real) (rows : List (Row Real)) (before : List (Index Real))
    (index : Index Real) (after : List (Index Real)) : Prop where
  split : plan.indexes = before ++ index :: after
  isUnique : index.isUnique = true
  taken : rows.any (index.sameTuple · plan.row) = true
  earlier : ∀ other ∈ before, other.isUnique = true → ∀ row ∈ rows,
    other.sameTuple row plan.row = false

/-- SQLite refuses the row just when a conflict is found. -/
theorem Plan.firstTaken {rows : List (Row Real)} (fails : plan.insertFails rows = true) :
    ∃ before index after, FirstTaken plan rows before index after ∧
      plan.findInsertUniqueKeyConflict rows =
        if index.formats plan.values then .ok (index, before.length)
        else .error .keyNotFormatted := by
  have present : (plan.indexes.zipIdx.find? fun index => plan.isTaken rows index.1).isSome =
      true := by
    obtain ⟨index, member, holds⟩ := List.any_eq_true.mp fails
    obtain ⟨place, inside, rfl⟩ := List.getElem_of_mem member
    rw [List.find?_isSome]
    exact ⟨(_, place), List.mk_mem_zipIdx_iff_getElem?.mpr (List.getElem?_eq_getElem inside),
      holds⟩
  obtain ⟨⟨index, place⟩, found⟩ := Option.isSome_iff_exists.mp present
  have answer := plan.findInsertUniqueKeyConflict_eq rows
  rw [found, Option.elim_some] at answer
  obtain ⟨holds, before, after, split, free⟩ := List.find?_eq_some_iff_append.mp found
  obtain ⟨isUnique, taken⟩ := Bool.and_eq_true_iff.mp holds
  have here : place = before.length := by
    have inZip : plan.indexes.zipIdx[before.length]? = some (index, place) := by
      rw [split, List.getElem?_append_right (Nat.le_refl _), Nat.sub_self, List.getElem?_cons_zero]
    rw [List.getElem?_zipIdx] at inZip
    obtain ⟨stands, _, same⟩ := Option.map_eq_some_iff.mp inZip
    cases same
    exact Nat.zero_add _
  refine ⟨before.map Prod.fst, index, after.map Prod.fst, ⟨?_, isUnique, taken, ?_⟩, ?_⟩
  · have first := congrArg (List.map Prod.fst) split
    rwa [List.zipIdx_map_fst, List.map_append, List.map_cons] at first
  · intro other member otherUnique row inRows
    obtain ⟨⟨_, otherPlace⟩, inBefore, rfl⟩ := List.mem_map.mp member
    have notTaken := free _ inBefore
    rw [Bool.not_eq_true', Plan.isTaken, otherUnique, Bool.true_and] at notTaken
    exact Bool.eq_false_iff.mpr (List.any_eq_false.mp notTaken row inRows)
  · rw [answer, List.length_map, here]

/-- One attempt deletes one row, if the key in the way can be formatted. -/
theorem FirstTaken.handleConflict (reads : ColumnReads Real) {rows : List (Row Real)}
    (state : TableState plan rows) {before : List (Index Real)} {index : Index Real}
    {after : List (Index Real)} (first : FirstTaken plan rows before index after)
    (found : plan.findInsertUniqueKeyConflict rows =
      if index.formats plan.values then .ok (index, before.length)
      else .error .keyNotFormatted) :
    ∃ conflicting, rows.filter (index.sameTuple · plan.row) = [conflicting] ∧
      plan.handleConflict reads rows =
        if index.formats plan.values then
          .ok (rows.filter fun row => !index.sameTuple row plan.row,
            if plan.matchesRow reads conflicting then 0 else 1)
        else .error (.keyLookup .keyNotFormatted) := by
  have member : index ∈ plan.indexes := by
    rw [first.split]
    exact List.mem_append_right _ List.mem_cons_self
  obtain ⟨row, inRows, same⟩ := List.any_eq_true.mp first.taken
  have present : (rows.find? (index.sameTuple · plan.row)).isSome = true := by
    rw [List.find?_isSome]
    exact ⟨row, inRows, same⟩
  obtain ⟨conflicting, firstRow⟩ := Option.isSome_iff_exists.mp present
  have one := state.one member first.isUnique firstRow
  have count : rows.countP (index.sameTuple · plan.row) = 1 := by
    rw [List.countP_eq_length_filter, one, List.length_singleton]
  refine ⟨conflicting, one, ?_⟩
  unfold Plan.handleConflict
  rw [found]
  by_cases formats : index.formats plan.values = true
  · rw [if_pos formats, if_pos formats]
    dsimp only
    rw [firstRow]
    dsimp only
    rw [count, if_neg Nat.one_ne_zero]
  · rw [if_neg formats, if_neg formats]

/-! The loop. -/

/-- The unique indexes on which something is still in the way. -/
def Plan.openConflicts (plan : Plan Real) (rows : List (Row Real)) : Nat :=
  plan.indexes.countP fun index => index.isUnique && rows.any (index.sameTuple · plan.row)

theorem Plan.openConflicts_le (plan : Plan Real) (rows : List (Row Real)) :
    plan.openConflicts rows ≤ plan.indexes.length :=
  List.countP_le_length

/-- A stronger condition that fails for one of the elements holds for fewer of them. -/
theorem countP_lt {Element : Type} {elements : List Element} {stronger weaker : Element → Bool}
    {element : Element} (member : element ∈ elements)
    (implies : ∀ other, stronger other = true → weaker other = true)
    (fails : stronger element = false) (holds : weaker element = true) :
    elements.countP stronger < elements.countP weaker := by
  induction elements with
  | nil => cases member
  | cons first rest ih =>
    have rest_le : rest.countP stronger ≤ rest.countP weaker :=
      List.countP_mono_left fun other _ => implies other
    rw [List.countP_cons, List.countP_cons]
    rcases List.mem_cons.mp member with rfl | later
    · rw [fails, holds, if_neg Bool.false_ne_true, if_pos rfl]
      omega
    · have fewer := ih later
      cases here : stronger first with
      | false =>
        rw [if_neg Bool.false_ne_true]
        omega
      | true =>
        rw [implies first here]
        omega

/-- The index of the conflict is done with, and no other one opens. -/
theorem Plan.openConflicts_lt {rows : List (Row Real)} {index : Index Real}
    (member : index ∈ plan.indexes) (isUnique : index.isUnique = true)
    (conflict : rows.any (index.sameTuple · plan.row) = true) :
    plan.openConflicts (rows.filter fun row => !index.sameTuple row plan.row) <
      plan.openConflicts rows := by
  unfold Plan.openConflicts
  apply countP_lt member
  · intro other still
    obtain ⟨otherUnique, otherConflict⟩ := Bool.and_eq_true_iff.mp still
    obtain ⟨row, left, same⟩ := List.any_eq_true.mp otherConflict
    rw [otherUnique, Bool.true_and]
    exact List.any_eq_true.mpr ⟨row, (List.mem_filter.mp left).1, same⟩
  · simp
  · rw [isUnique, conflict]
    rfl

theorem Plan.conflicts_of_sameTuple {index : Index Real} (member : index ∈ plan.indexes)
    (isUnique : index.isUnique = true) {row : Row Real}
    (same : index.sameTuple row plan.row = true) : plan.conflicts row = true :=
  List.any_eq_true.mpr ⟨index, member, by rw [isUnique, same]; rfl⟩

/-- Deleting conflicting rows first leaves the same rows in the end. -/
theorem filter_conflicts {rows : List (Row Real)} {gone : Row Real → Bool}
    (conflicting : ∀ row, gone row = true → plan.conflicts row = true) :
    (rows.filter fun row => !gone row).filter (fun row => !plan.conflicts row) =
      rows.filter fun row => !plan.conflicts row := by
  rw [List.filter_filter]
  apply List.filter_congr
  intro row _
  cases deleted : gone row with
  | false => simp
  | true => simp [conflicting row deleted]

/-- A count over the conflicting rows is one over those deleted first and one over the
others. -/
theorem countP_conflicts (rows : List (Row Real)) {gone counted : Row Real → Bool}
    (conflicting : ∀ row, gone row = true → plan.conflicts row = true) :
    rows.countP (fun row => plan.conflicts row && counted row) =
      (rows.filter gone).countP counted +
        (rows.filter fun row => !gone row).countP
          (fun row => plan.conflicts row && counted row) := by
  induction rows with
  | nil => rfl
  | cons row rest ih =>
    cases deleted : gone row with
    | false => simp [deleted, ih, List.countP_cons]; omega
    | true => simp [deleted, conflicting row deleted, ih, List.countP_cons]; omega

theorem no_conflicts {rows : List (Row Real)} (fits : plan.insertFails rows = false) :
    ∀ row ∈ rows, plan.conflicts row = false := by
  intro row member
  rw [← Bool.not_eq_true]
  intro conflict
  obtain ⟨index, inPlan, holds⟩ := List.any_eq_true.mp conflict
  obtain ⟨isUnique, same⟩ := Bool.and_eq_true_iff.mp holds
  have fails : plan.insertFails rows = true := by
    refine List.any_eq_true.mpr ⟨index, inPlan, ?_⟩
    rw [isUnique, Bool.true_and]
    exact List.any_eq_true.mpr ⟨row, member, same⟩
  rw [fits] at fails
  cases fails

/-- The new key can be formatted for every unique index that the loop handles: one on which a row
is in the way that is so on no unique index before it. -/
def Plan.KeysFormat (plan : Plan Real) (rows : List (Row Real)) : Prop :=
  ∀ before index after, plan.indexes = before ++ index :: after → index.isUnique = true →
    (∃ row ∈ rows, index.sameTuple row plan.row = true ∧
      ∀ earlier ∈ before, earlier.isUnique = true → earlier.sameTuple row plan.row = false) →
    index.formats plan.values = true

theorem keysFormat_of_insertFails {rows : List (Row Real)} (fits : plan.insertFails rows = false) :
    plan.KeysFormat rows := by
  rintro before index after split isUnique ⟨row, member, same, _⟩
  have free := no_conflicts fits row member
  rw [Plan.conflicts_of_sameTuple (by rw [split]; simp) isUnique same] at free
  cases free

/-- The first key in the way is formatted, and then the keys in the way of the rows that stay. -/
theorem FirstTaken.keysFormat_iff {rows : List (Row Real)} {before : List (Index Real)}
    {index : Index Real} {after : List (Index Real)}
    (first : FirstTaken plan rows before index after) :
    plan.KeysFormat rows ↔ index.formats plan.values = true ∧
      plan.KeysFormat (rows.filter fun row => !index.sameTuple row plan.row) := by
  constructor
  · intro keys
    constructor
    · obtain ⟨row, member, same⟩ := List.any_eq_true.mp first.taken
      exact keys before index after first.split first.isUnique
        ⟨row, member, same,
          fun other inBefore unique => first.earlier other inBefore unique row member⟩
    · rintro front other back split isUnique ⟨row, member, found⟩
      exact keys front other back split isUnique ⟨row, (List.mem_filter.mp member).1, found⟩
  · rintro ⟨formats, keys⟩ front other back split isUnique ⟨row, member, same, free⟩
    cases here : index.sameTuple row plan.row with
    | false =>
      exact keys front other back split isUnique
        ⟨row, List.mem_filter.mpr ⟨member, by rw [here]; rfl⟩, same, free⟩
    | true =>
      -- both are the first unique index on which this row is in the way
      have splits := first.split.symm.trans split
      rcases List.append_eq_append_iff.mp splits with ⟨between, right, left⟩ | ⟨between, left, right⟩
      · cases between with
        | nil =>
          cases left
          exact formats
        | cons next between =>
          cases left
          have apart := free index (by rw [right]; simp) first.isUnique
          rw [here] at apart
          cases apart
      · cases between with
        | nil =>
          cases right
          exact formats
        | cons next between =>
          cases right
          have apart := first.earlier other (by rw [left]; simp) isUnique row member
          rw [same] at apart
          cases apart

/-- The loop ends with the rows that are in nobody's way and the new one, or with an error where a
key in the way cannot be formatted. -/
theorem TableState.replaceRow_eq {rows : List (Row Real)} (state : TableState plan rows)
    (reads : ColumnReads Real) (attempts affected : Nat)
    (within : attempts + plan.openConflicts rows ≤ plan.indexes.length) :
    (plan.KeysFormat rows → plan.replaceRow reads attempts rows affected =
      .ok (rows.filter (fun row => !plan.conflicts row) ++ [plan.row],
        affected +
          rows.countP (fun row => plan.conflicts row && !plan.matchesRow reads row) + 1)) ∧
    (¬ plan.KeysFormat rows → plan.replaceRow reads attempts rows affected =
      .error (.keyLookup .keyNotFormatted)) := by
  induction remaining : plan.openConflicts rows using Nat.strongRecOn
      generalizing attempts rows affected with
  | ind remaining ih =>
    rw [Plan.replaceRow]
    cases fails : plan.insertFails rows with
    | false =>
      have none := no_conflicts fails
      refine ⟨fun _ => ?_, fun unformatted => absurd (keysFormat_of_insertFails fails) unformatted⟩
      rw [if_neg Bool.false_ne_true]
      have kept : rows.filter (fun row => !plan.conflicts row) = rows := by
        apply List.filter_eq_self.mpr
        intro row member
        rw [none row member]
        rfl
      have uncounted : rows.countP (fun row => plan.conflicts row && !plan.matchesRow reads row) =
          0 := by
        apply List.countP_eq_zero.mpr
        intro row member
        simp [none row member]
      rw [kept, uncounted, Nat.add_zero]
    | true =>
      obtain ⟨before, index, after, first, found⟩ := Plan.firstTaken fails
      obtain ⟨conflicting, one, handled⟩ := first.handleConflict reads state found
      have member : index ∈ plan.indexes := by
        rw [first.split]
        exact List.mem_append_right _ List.mem_cons_self
      have fewer := Plan.openConflicts_lt member first.isUnique first.taken
      have conflicts : ∀ row, index.sameTuple row plan.row = true → plan.conflicts row = true :=
        fun row same => Plan.conflicts_of_sameTuple member first.isUnique same
      rw [if_pos rfl, if_neg (by omega), handled, first.keysFormat_iff]
      by_cases formats : index.formats plan.values = true
      · obtain ⟨ends, stops⟩ := ih _ (remaining ▸ fewer) (state.filter _) (attempts + 1)
          (affected + if plan.matchesRow reads conflicting then 0 else 1) (by omega) rfl
        rw [if_pos formats]
        dsimp only
        refine ⟨fun keys => ?_, fun unformatted => stops fun later => unformatted ⟨formats, later⟩⟩
        rw [ends keys.2, filter_conflicts conflicts, countP_conflicts rows conflicts, one]
        have deleted : [conflicting].countP (fun row => !plan.matchesRow reads row) =
            if plan.matchesRow reads conflicting then 0 else 1 := by
          rw [List.countP_singleton]
          cases plan.matchesRow reads conflicting with
          | false => rfl
          | true => rfl
        rw [deleted, Nat.add_assoc affected]
      · rw [if_neg formats]
        exact ⟨fun keys => absurd keys.1 formats, fun _ => rfl⟩

/-! The report. -/

/-- What REPLACE is for: the rows in the way go, the new one comes, and those that went
count unless they were the new one. -/
def ReplaceMeets (plan : Plan Real) (reads : ColumnReads Real) (rows : List (Row Real)) : Prop :=
  plan.replaceRow reads 0 rows 0 =
    .ok (rows.filter (fun row => !plan.conflicts row) ++ [plan.row],
      1 + (rows.filter plan.conflicts).countP fun row => decide (row ≠ plan.row))

/-- No two rows that are in the way are the same row. -/
theorem TableState.nodup_conflicts {rows : List (Row Real)} (state : TableState plan rows) :
    (rows.filter plan.conflicts).Nodup := by
  have apart := state.unique.filter plan.conflicts
  refine List.Pairwise.imp_of_mem ?_ apart
  rintro first second firstMember _ separate rfl
  obtain ⟨index, inPlan, holds⟩ := List.any_eq_true.mp (List.mem_filter.mp firstMember).2
  obtain ⟨isUnique, same⟩ := Bool.and_eq_true_iff.mp holds
  have itself := Index.sameTuple_join same same
  rw [separate index inPlan isUnique] at itself
  cases itself

/-- Among rows that differ, all but one are unlike a given row that is one of them. -/
theorem countP_ne_add {rows : List (Row Real)} (nodup : rows.Nodup) (row : Row Real) :
    rows.countP (fun other => decide (other ≠ row)) + (if row ∈ rows then 1 else 0) =
      rows.length := by
  rw [← nodup.count, List.length_eq_countP_add_countP (fun other => decide (other ≠ row)),
    List.count]
  congr 1
  apply List.countP_congr
  intro other _
  simp

theorem countP_ne_iff {rows : List (Row Real)} (nodup : rows.Nodup) (first second : Row Real) :
    rows.countP (fun other => decide (other ≠ first)) =
        rows.countP (fun other => decide (other ≠ second)) ↔
      (second ∈ rows ↔ first ∈ rows) := by
  have firstCount := countP_ne_add nodup first
  have secondCount := countP_ne_add nodup second
  by_cases inFirst : first ∈ rows
  · rw [if_pos inFirst] at firstCount
    by_cases inSecond : second ∈ rows
    · rw [if_pos inSecond] at secondCount
      exact ⟨fun _ => iff_of_true inSecond inFirst, fun _ => by omega⟩
    · rw [if_neg inSecond] at secondCount
      exact ⟨fun _ => by omega, fun both => absurd (both.mpr inFirst) inSecond⟩
  · rw [if_neg inFirst] at firstCount
    by_cases inSecond : second ∈ rows
    · rw [if_pos inSecond] at secondCount
      exact ⟨fun _ => by omega, fun both => absurd (both.mp inSecond) inFirst⟩
    · rw [if_neg inSecond] at secondCount
      exact ⟨fun _ => iff_of_false inSecond inFirst, fun _ => by omega⟩

/-- The rows that count are those that are not the row as the planned values hold it. -/
theorem TableState.counted {rows : List (Row Real)} (state : TableState plan rows)
    (reads : ColumnReads Real) :
    rows.countP (fun row => plan.conflicts row && !plan.matchesRow reads row) =
      (rows.filter plan.conflicts).countP fun row => decide (row ≠ plan.ownRow) := by
  rw [List.countP_filter]
  apply List.countP_congr
  intro row member
  have matched := plan.matchesRow_iff reads (state.typed row member)
  by_cases own : row = plan.ownRow
  · simp [matched.mpr own, decide_eq_false (not_not_intro own)]
  · have unmatched : plan.matchesRow reads row = false := by
      rw [← Bool.not_eq_true, matched]
      exact own
    simp [unmatched, own]

/-- REPLACE does what it should just when the keys in the way can be formatted and the row with
empty text for every bound text is in the way of the new row exactly if the new row itself is
already there. -/
theorem replace_reports_changed_rows (plan : Plan Real) (reads : ColumnReads Real)
    (rows : List (Row Real)) (state : TableState plan rows) :
    ReplaceMeets plan reads rows ↔ plan.KeysFormat rows ∧
      (plan.row ∈ rows.filter plan.conflicts ↔ plan.ownRow ∈ rows.filter plan.conflicts) := by
  obtain ⟨ends, stops⟩ := state.replaceRow_eq reads 0 0
    (by rw [Nat.zero_add]; exact plan.openConflicts_le rows)
  rw [← countP_ne_iff state.nodup_conflicts plan.ownRow plan.row, ReplaceMeets]
  by_cases keys : plan.KeysFormat rows
  · rw [ends keys, state.counted reads, Nat.zero_add, Nat.add_comm]
    constructor
    · intro same
      have counts := congrArg Prod.snd (Except.ok.inj same)
      exact ⟨keys, Nat.add_left_cancel counts⟩
    · rintro ⟨_, counts⟩
      rw [counts]
  · rw [stops keys]
    exact iff_of_false (fun same => by cases same) fun both => keys both.1

/-! A table of an integer key and a text column. -/

def keyValue (value : Int) : PlannedValue Int where
  isNull := false
  isText := false
  isBlob := false
  isReal := false
  integer := value
  real := 0
  text := []
  externalBinding := none

def textValue (text : List UInt8) (externalBinding : Option (List UInt8)) : PlannedValue Int where
  isNull := false
  isText := true
  isBlob := false
  isReal := false
  integer := 0
  real := 0
  text := text
  externalBinding := externalBinding

def keyAndText (text : List UInt8) (externalBinding : Option (List UInt8))
    (unbound : externalBinding ≠ none → text = []) : Plan Int where
  columns := [.integer, .text]
  indexes := [⟨true, [⟨0, none, id⟩]⟩]
  values := [keyValue 1, textValue text externalBinding]
  fits := .cons (.inr ⟨rfl, rfl, rfl, rfl, rfl⟩) (.cons (.inr ⟨rfl, rfl, rfl, unbound⟩) .nil)
  parts := by simp
  inRange := by simp

/-- Values of another class read as nothing. -/
def plainReads : ColumnReads Int where
  int64
    | .integer value => value
    | _ => 0
  double
    | .real value => value
    | _ => 0
  bytes
    | .text value => value
    | .blob value => value
    | _ => []
  int64_integer _ := rfl
  double_real _ := rfl
  bytes_text _ := rfl
  bytes_blob _ := rfl

def storedRow : Row Int := [.integer 1, .text [97, 98, 99]]

theorem storedRow_state (text : List UInt8) (externalBinding : Option (List UInt8))
    (unbound : externalBinding ≠ none → text = []) :
    TableState (keyAndText text externalBinding unbound) [storedRow] := by
  refine ⟨?_, List.pairwise_singleton _ _⟩
  intro row member
  rw [List.mem_singleton.mp member]
  exact .cons rfl (.cons rfl .nil)

/-- The key is an integer. -/
theorem storedRow_keysFormat (text : List UInt8) (externalBinding : Option (List UInt8))
    (unbound : externalBinding ≠ none → text = []) :
    (keyAndText text externalBinding unbound).KeysFormat [storedRow] := by
  intro before index after split _ _
  have member : index ∈ (keyAndText text externalBinding unbound).indexes := by
    rw [split]
    exact List.mem_append_right _ List.mem_cons_self
  rw [List.mem_singleton.mp member]
  rfl

/-- The same text bound to a parameter counts as a change. -/
theorem bound_text_counts_as_changed :
    TableState (keyAndText [] (some [97, 98, 99]) fun _ => rfl) [storedRow] ∧
      ¬ ReplaceMeets (keyAndText [] (some [97, 98, 99]) fun _ => rfl) plainReads [storedRow] := by
  have state := storedRow_state [] (some [97, 98, 99]) fun _ => rfl
  refine ⟨state, ?_⟩
  have keys := storedRow_keysFormat [] (some [97, 98, 99]) fun _ => rfl
  rw [ReplaceMeets, (state.replaceRow_eq plainReads 0 0 (by decide)).1 keys]
  intro same
  have counts := congrArg Prod.snd (Except.ok.inj same)
  revert counts
  decide

/-- The same text in the statement does not. -/
theorem literal_text_is_unchanged :
    ReplaceMeets (keyAndText [97, 98, 99] none fun bound => absurd rfl bound) plainReads
      [storedRow] :=
  (replace_reports_changed_rows _ plainReads [storedRow]
    (storedRow_state [97, 98, 99] none fun bound => absurd rfl bound)).mpr
      ⟨storedRow_keysFormat [97, 98, 99] none fun bound => absurd rfl bound, by decide⟩

end MyLite.Replace
