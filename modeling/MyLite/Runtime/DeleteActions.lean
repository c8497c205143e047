import Mathlib.Data.List.Induction
import MyLite.Runtime.Delete

/-! What a `DELETE` is meant to do, stated on the state before it, and when the
sequence of generated statements does that. -/

namespace MyLite.Runtime

variable {Tab Col Val : Type} [DecidableEq Tab] [DecidableEq Col]

variable (engine : Engine Tab Col Val) (catalog : List (ForeignKey Tab Col))
  (plan : DeletePlan Tab Col Val) (db : Database Tab Col Val)

/-- The rows that the plan selects before anything has changed. -/
def selected (row : Row Col Val) : Bool := plan.selects db row

/-- The child references a row that is to be deleted. -/
def referencesSelected (fk : ForeignKey Tab Col) (child : Row Col Val) : Bool :=
  (db fk.parentTable).any fun parent =>
    selected plan db parent && keysMatch engine.sqlEq fk child parent

def cascades (fk : ForeignKey Tab Col) (table : Tab) (child : Row Col Val) : Bool :=
  fk.childTable = table ∧ fk.deleteRule = .cascade ∧
    referencesSelected engine plan db fk child

def nulls (fk : ForeignKey Tab Col) (table : Tab) (child : Row Col Val) : Bool :=
  fk.childTable = table ∧ fk.deleteRule = .setNull ∧
    referencesSelected engine plan db fk child

/-- The row stays, as far as these foreign keys are concerned. -/
def keptBy (fks : List (ForeignKey Tab Col)) (table : Tab) (child : Row Col Val) : Bool :=
  fks.all fun fk => !cascades engine plan db fk table child

def nulledBy (fks : List (ForeignKey Tab Col)) (table : Tab) (child : Row Col Val) :
    Row Col Val :=
  fks.foldl (fun row fk => if nulls engine plan db fk table child then setKeyNull fk row else row)
    child

/-- The tables once the actions of these foreign keys have been taken for the rows
selected at the start. -/
def actedBy (fks : List (ForeignKey Tab Col)) : Database Tab Col Val := fun table =>
  ((db table).filter (keptBy engine plan db fks table)).map (nulledBy engine plan db fks table)

/-- The selected rows are gone, their children are deleted or hold NULL keys, and
every other row is what it was. -/
def expectedDelete : Database Tab Col Val := fun table =>
  ((db table).filter fun row =>
      keptBy engine plan db (parentForeignKeys catalog plan.table) table row &&
        !(table = plan.table && selected plan db row)).map
    (nulledBy engine plan db (parentForeignKeys catalog plan.table) table)

/-- Every later evaluation of the selection, for each foreign key and for the
deletion itself, picks the rows that were picked at the start. -/
def SelectionStable : Prop :=
  ∀ done rest, parentForeignKeys catalog plan.table = done ++ rest →
    ∀ row ∈ db plan.table, plan.selects (actedBy engine plan db done) row = plan.selects db row

/-- No child that an earlier SET NULL action changes is needed by a later action
through a column that the earlier one has set to NULL. -/
def ActionsDisjoint : Prop :=
  ∀ done fk rest, parentForeignKeys catalog plan.table = done ++ fk :: rest →
    fk.deleteRule = .cascade ∨ fk.deleteRule = .setNull →
    ∀ row ∈ db fk.childTable, keptBy engine plan db done fk.childTable row = true →
      referencesSelected engine plan db fk row = true →
      ∀ earlier ∈ done, nulls engine plan db earlier fk.childTable row = true →
        ∀ part ∈ fk.parts, part.1 ∉ earlier.parts.map Prod.fst

section Rows

variable {engine plan db}

omit [DecidableEq Col] in
theorem keptBy_append (done rest : List (ForeignKey Tab Col)) (table : Tab)
    (row : Row Col Val) :
    keptBy engine plan db (done ++ rest) table row =
      (keptBy engine plan db done table row && keptBy engine plan db rest table row) := by
  simp only [keptBy, List.all_append]

theorem nulledBy_concat (done : List (ForeignKey Tab Col)) (fk : ForeignKey Tab Col)
    (table : Tab) (row : Row Col Val) :
    nulledBy engine plan db (done ++ [fk]) table row =
      if nulls engine plan db fk table row then
        setKeyNull fk (nulledBy engine plan db done table row)
      else nulledBy engine plan db done table row := by
  simp only [nulledBy, List.foldl_append, List.foldl_cons, List.foldl_nil]

/-- A column is NULL afterwards when one of the actions sets it; otherwise it keeps
its value. -/
theorem nulledBy_value (fks : List (ForeignKey Tab Col)) (table : Tab) (row : Row Col Val)
    (col : Col) :
    (nulledBy engine plan db fks table row).value col =
      if ∃ fk ∈ fks, nulls engine plan db fk table row = true ∧ col ∈ fk.parts.map Prod.fst then
        none
      else row.value col := by
  induction fks using List.reverseRecOn with
  | nil => simp [nulledBy]
  | append_singleton done fk ih =>
    rw [nulledBy_concat]
    by_cases sets : nulls engine plan db fk table row = true ∧ col ∈ fk.parts.map Prod.fst
    · have found : ∃ key ∈ done ++ [fk], nulls engine plan db key table row = true ∧
          col ∈ key.parts.map Prod.fst := ⟨fk, by simp, sets⟩
      rw [if_pos sets.1, if_pos found]
      simp only [setKeyNull]
      rw [if_pos sets.2]
    · have same : (∃ key ∈ done ++ [fk], nulls engine plan db key table row = true ∧
          col ∈ key.parts.map Prod.fst) ↔
          ∃ key ∈ done, nulls engine plan db key table row = true ∧
            col ∈ key.parts.map Prod.fst := by
        constructor
        · rintro ⟨key, member, holds⟩
          rcases List.mem_append.mp member with member | member
          · exact ⟨key, member, holds⟩
          · rw [List.mem_singleton.mp member] at holds
            exact absurd holds sets
        · rintro ⟨key, member, holds⟩
          exact ⟨key, List.mem_append_left _ member, holds⟩
      rw [if_congr same rfl rfl, ← ih]
      split
      · next isNulled =>
        simp only [setKeyNull]
        rw [if_neg fun member => sets ⟨isNulled, member⟩]
      · rfl

theorem nulledBy_of_none {fks : List (ForeignKey Tab Col)} {table : Tab} {row : Row Col Val}
    (none : ∀ fk ∈ fks, nulls engine plan db fk table row = false) :
    nulledBy engine plan db fks table row = row := by
  induction fks using List.reverseRecOn with
  | nil => rfl
  | append_singleton done fk ih =>
    rw [nulledBy_concat, none fk (by simp)]
    exact ih fun key member => none key (List.mem_append_left _ member)

/-- A key that is complete afterwards was not touched, at any earlier point either. -/
theorem nulledBy_value_of_notNull {done fks : List (ForeignKey Tab Col)}
    {fk : ForeignKey Tab Col} {table : Tab} {row : Row Col Val} (earlier : done ⊆ fks)
    (complete : childKeyNotNull fk (nulledBy engine plan db fks table row) = true) :
    ∀ part ∈ fk.parts, (nulledBy engine plan db done table row).value part.1 =
      row.value part.1 := by
  intro part member
  have present := List.all_eq_true.mp complete part member
  rw [nulledBy_value] at present ⊢
  rw [if_neg]
  rintro ⟨key, found, holds⟩
  rw [if_pos ⟨key, earlier found, holds⟩] at present
  cases present

omit [DecidableEq Tab] [DecidableEq Col] in
theorem referencesSelected_congr {fk : ForeignKey Tab Col} {row row' : Row Col Val}
    (same : ∀ part ∈ fk.parts, row'.value part.1 = row.value part.1) :
    referencesSelected engine plan db fk row' = referencesSelected engine plan db fk row := by
  simp only [referencesSelected, keysMatch_congr same]

omit [DecidableEq Tab] [DecidableEq Col] in
theorem referencesSelected_notNull {fk : ForeignKey Tab Col} {row : Row Col Val}
    (references : referencesSelected engine plan db fk row = true) :
    childKeyNotNull fk row = true := by
  obtain ⟨parent, _, found⟩ := List.any_eq_true.mp references
  exact keysMatch_notNull (Bool.and_eq_true_iff.mp found).2

end Rows

/-- The foreign key does not act on its own parent table. -/
def ActsElsewhere (fk : ForeignKey Tab Col) : Prop :=
  fk.deleteRule = .cascade ∨ fk.deleteRule = .setNull →
    fk.childTable ≠ fk.parentTable ∧ parentForeignKeys catalog fk.childTable = []

section Loop

variable {engine catalog plan db}

section Untouched

variable {fks : List (ForeignKey Tab Col)} {table : Tab}
  (untouched : ∀ fk ∈ fks, fk.deleteRule = .cascade ∨ fk.deleteRule = .setNull →
    fk.childTable ≠ table)

include untouched

omit [DecidableEq Col] in
theorem keptBy_untouched (row : Row Col Val) : keptBy engine plan db fks table row = true := by
  rw [keptBy, List.all_eq_true]
  intro fk member
  by_contra cascaded
  simp only [cascades, Bool.not_eq_true', decide_eq_false_iff_not, not_not] at cascaded
  exact untouched fk member (.inl cascaded.2.1) cascaded.1

theorem nulledBy_untouched (row : Row Col Val) : nulledBy engine plan db fks table row = row := by
  apply nulledBy_of_none
  intro fk member
  by_contra nulled
  simp only [nulls, Bool.not_eq_false, decide_eq_true_eq] at nulled
  exact untouched fk member (.inr nulled.2.1) nulled.1

/-- A table on which none of these foreign keys acts is untouched. -/
theorem actedBy_untouched : actedBy engine plan db fks table = db table := by
  rw [actedBy, List.filter_eq_self.mpr fun row _ => keptBy_untouched untouched row]
  exact (List.map_congr_left fun row _ => nulledBy_untouched untouched row).trans (List.map_id _)

end Untouched

/-- One more foreign key takes its action on the rows that are still there. -/
theorem actedBy_concat (done : List (ForeignKey Tab Col)) (fk : ForeignKey Tab Col) (table : Tab) :
    actedBy engine plan db (done ++ [fk]) table =
      (((db table).filter (keptBy engine plan db done table)).filter fun row =>
          !cascades engine plan db fk table row).map fun row =>
        if nulls engine plan db fk table row then
          setKeyNull fk (nulledBy engine plan db done table row)
        else nulledBy engine plan db done table row := by
  rw [actedBy, List.filter_filter]
  have kept : keptBy engine plan db (done ++ [fk]) table = fun row =>
      !cascades engine plan db fk table row && keptBy engine plan db done table row := by
    funext row
    rw [keptBy_append, Bool.and_comm]
    simp [keptBy]
  have nulled : nulledBy engine plan db (done ++ [fk]) table = fun row =>
      if nulls engine plan db fk table row then
        setKeyNull fk (nulledBy engine plan db done table row)
      else nulledBy engine plan db done table row := by
    funext row
    exact nulledBy_concat done fk table row
  rw [kept, nulled]

theorem actedBy_concat_idle {done : List (ForeignKey Tab Col)} {fk : ForeignKey Tab Col}
    {table : Tab} (notCascade : ∀ row, cascades engine plan db fk table row = false)
    (notNull : ∀ row, nulls engine plan db fk table row = false) :
    actedBy engine plan db (done ++ [fk]) table = actedBy engine plan db done table := by
  rw [actedBy_concat, actedBy]
  simp [notCascade, notNull]

omit [DecidableEq Col] in
theorem actsElsewhere_of_allowed {fk : ForeignKey Tab Col}
    (allowed : rejectUnsupportedRecursiveForeignKeyAction catalog fk = .ok ()) :
    ActsElsewhere catalog fk := by
  intro _
  simp only [rejectUnsupportedRecursiveForeignKeyAction] at allowed
  split at allowed
  · cases allowed
  · next different =>
    split at allowed
    · cases allowed
    · next childless => exact ⟨different, not_not.mp childless⟩

omit [DecidableEq Col] in
/-- A cascade that is carried out has removed the children of its filter. -/
theorem executeParentDeleteCascade_ok {before next : Database Tab Col Val}
    {fk : ForeignKey Tab Col}
    (ok : executeParentDeleteCascade engine plan before fk = .ok next) :
    next = Function.update before fk.childTable ((before fk.childTable).filter fun child =>
      !parentDeleteChildKeyFilter engine plan before fk child) := by
  rw [executeParentDeleteCascade] at ok
  split at ok
  · cases ok
  · exact (Except.ok.inj ok).symm

theorem executeParentDeleteSetNull_ok {before next : Database Tab Col Val}
    {fk : ForeignKey Tab Col}
    (ok : executeParentDeleteSetNull engine plan before fk = .ok next) :
    next = Function.update before fk.childTable ((before fk.childTable).map fun child =>
      if parentDeleteChildKeyFilter engine plan before fk child then setKeyNull fk child
      else child) := by
  simp only [executeParentDeleteSetNull] at ok
  split at ok
  · cases ok
  · split at ok
    · exact (Except.ok.inj ok).symm
    · cases ok

/-- What the loop has found out about a foreign key it has passed, with the
tables as the earlier keys left them. -/
structure Passed (engine : Engine Tab Col Val) (catalog : List (ForeignKey Tab Col))
    (plan : DeletePlan Tab Col Val) (db : Database Tab Col Val) (done : List (ForeignKey Tab Col))
    (fk : ForeignKey Tab Col) : Prop where
  elsewhere : ActsElsewhere catalog fk
  unreferenced : fk.deleteRule ≠ .cascade ∧ fk.deleteRule ≠ .setNull →
    fk.childTable ≠ fk.parentTable → ∀ child ∈ actedBy engine plan db done fk.childTable,
      referencesSelected engine plan db fk child = false

variable {done rest : List (ForeignKey Tab Col)} {fk : ForeignKey Tab Col}
  (parents : parentForeignKeys catalog plan.table = done ++ fk :: rest)

include parents

omit [DecidableEq Col] in
theorem parent_of_split : fk.parentTable = plan.table := by
  have member : fk ∈ parentForeignKeys catalog plan.table := by
    rw [parents]
    simp
  simpa [parentForeignKeys] using (List.mem_filter.mp member).2

variable (disjoint : ActionsDisjoint engine catalog plan db)

include disjoint

/-- Earlier SET NULL actions do not hide a child from this one. -/
theorem referencesSelected_nulledBy
    (acts : fk.deleteRule = .cascade ∨ fk.deleteRule = .setNull) {row : Row Col Val}
    (member : row ∈ db fk.childTable)
    (kept : keptBy engine plan db done fk.childTable row = true) :
    referencesSelected engine plan db fk (nulledBy engine plan db done fk.childTable row) =
      referencesSelected engine plan db fk row := by
  by_cases references : referencesSelected engine plan db fk row = true
  · apply referencesSelected_congr
    intro part found
    rw [nulledBy_value, if_neg]
    rintro ⟨earlier, before, nulled, shared⟩
    exact disjoint done fk rest parents acts row member kept references earlier before nulled part
      found shared
  · rw [Bool.not_eq_true] at references
    rw [references, ← Bool.not_eq_true]
    intro now
    -- A key that still references is complete, so that nothing was changed in it.
    have complete := referencesSelected_notNull now
    have same := nulledBy_value_of_notNull (List.Subset.refl _) complete
    rw [referencesSelected_congr same, references] at now
    cases now

variable (stable : SelectionStable engine catalog plan db)
  (untouched : actedBy engine plan db done plan.table = db plan.table)

include stable untouched

omit disjoint in
/-- Each statement finds its children by the rows selected at the start. -/
theorem parentDeleteChildKeyFilter_acted (child : Row Col Val) :
    parentDeleteChildKeyFilter engine plan (actedBy engine plan db done) fk child =
      referencesSelected engine plan db fk child := by
  have parent := parent_of_split parents
  simp only [parentDeleteChildKeyFilter, referencesSelected, parent, untouched]
  rw [Bool.eq_iff_iff, List.any_eq_true, List.any_eq_true]
  refine exists_congr fun row => and_congr_right fun member => ?_
  rw [stable done (fk :: rest) parents row member, selected]

/-- One turn of the loop takes exactly the action meant for its foreign key. -/
theorem applyParentDeleteAction_acted {next : Database Tab Col Val}
    (ok : applyParentDeleteAction engine catalog plan (actedBy engine plan db done) fk = .ok next) :
    next = actedBy engine plan db (done ++ [fk]) ∧ Passed engine catalog plan db done fk := by
  have found := parentDeleteChildKeyFilter_acted parents stable untouched
  simp only [applyParentDeleteAction] at ok
  split at ok
  · next passive =>
    have idle : next = actedBy engine plan db done ∧
        (fk.childTable ≠ fk.parentTable → ∀ child ∈ actedBy engine plan db done fk.childTable,
          referencesSelected engine plan db fk child = false) := by
      split at ok
      · simp only [rejectParentDeleteWithReferences] at ok
        split at ok
        · cases ok
        · split at ok <;> cases ok
          next unreferenced =>
          simp only [List.any_eq_true, not_exists, not_and, found, Bool.not_eq_true]
            at unreferenced
          exact ⟨rfl, fun _ => unreferenced⟩
      · next own =>
        cases ok
        exact ⟨rfl, fun other => absurd other own⟩
    refine ⟨?_, ?_, fun _ => idle.2⟩
    · rw [idle.1]
      funext table
      refine (actedBy_concat_idle (fun row => ?_) fun row => ?_).symm
      · simp [cascades, passive.1]
      · simp [nulls, passive.2]
    · rintro (cascade | setNull)
      · exact absurd cascade passive.1
      · exact absurd setNull passive.2
  · next acting =>
    have acts : fk.deleteRule = .cascade ∨ fk.deleteRule = .setNull := by
      by_contra neither
      exact acting (not_or.mp neither)
    split at ok
    · cases ok
    · next allowed =>
      refine ⟨?_, actsElsewhere_of_allowed allowed, fun passive => absurd passive acting⟩
      have rows : next fk.childTable = actedBy engine plan db (done ++ [fk]) fk.childTable ∧
          ∀ table, table ≠ fk.childTable → next table = actedBy engine plan db done table := by
        split at ok
        · next setNull =>
          obtain rfl := executeParentDeleteSetNull_ok ok
          refine ⟨?_, fun table other => Function.update_of_ne other _ _⟩
          have notCascade : ∀ row, cascades engine plan db fk fk.childTable row = false := by
            simp [cascades, setNull]
          rw [Function.update_self, actedBy_concat, actedBy, List.map_map]
          simp only [notCascade, Bool.not_false, List.filter_true]
          apply List.map_congr_left
          intro row member
          obtain ⟨stored, kept⟩ := List.mem_filter.mp member
          simp only [Function.comp, found, nulls, setNull,
            referencesSelected_nulledBy parents disjoint acts stored kept, true_and,
            Bool.decide_eq_true]
        · next notSetNull =>
          have cascade := acts.resolve_right notSetNull
          obtain rfl := executeParentDeleteCascade_ok ok
          refine ⟨?_, fun table other => Function.update_of_ne other _ _⟩
          have notNull : ∀ row, nulls engine plan db fk fk.childTable row = false := by
            simp [nulls, cascade]
          rw [Function.update_self, actedBy_concat, actedBy, List.filter_map]
          simp only [notNull, Bool.false_eq_true, if_false]
          congr 1
          apply List.filter_congr
          intro row member
          obtain ⟨stored, kept⟩ := List.mem_filter.mp member
          simp only [Function.comp, found, cascades, cascade,
            referencesSelected_nulledBy parents disjoint acts stored kept, true_and,
            Bool.decide_eq_true]
      funext table
      by_cases own : table = fk.childTable
      · rw [own]
        exact rows.1
      · rw [rows.2 table own]
        refine (actedBy_concat_idle (fun row => ?_) fun row => ?_).symm
        · simp [cascades, Ne.symm own]
        · simp [nulls, Ne.symm own]

end Loop

section Transaction

variable {engine catalog plan db}

omit [DecidableEq Col] in
theorem mem_parentForeignKeys {fk : ForeignKey Tab Col} {table : Tab} :
    fk ∈ parentForeignKeys catalog table ↔ fk ∈ catalog ∧ fk.parentTable = table := by
  simp [parentForeignKeys]

/-- A parent table is never changed by the actions on its own children. -/
theorem actedBy_parent {done : List (ForeignKey Tab Col)}
    (parent : ∀ fk ∈ done, fk.parentTable = plan.table)
    (elsewhere : ∀ fk ∈ done, ActsElsewhere catalog fk) :
    actedBy engine plan db done plan.table = db plan.table := by
  apply actedBy_untouched
  intro fk member acts
  rw [← parent fk member]
  exact (elsewhere fk member acts).1

theorem applyParentDeleteActions_acted (stable : SelectionStable engine catalog plan db)
    (disjoint : ActionsDisjoint engine catalog plan db) {done rest : List (ForeignKey Tab Col)}
    {acted : Database Tab Col Val} (parents : parentForeignKeys catalog plan.table = done ++ rest)
    (elsewhere : ∀ fk ∈ done, ActsElsewhere catalog fk)
    (ok : applyParentDeleteActions engine catalog plan (actedBy engine plan db done) rest =
      .ok acted) :
    acted = actedBy engine plan db (done ++ rest) ∧
      ∀ fk ∈ rest, ∃ before, before ⊆ done ++ rest ∧ Passed engine catalog plan db before fk := by
  induction rest generalizing done with
  | nil =>
    cases ok
    exact ⟨by rw [List.append_nil], nofun⟩
  | cons fk rest ih =>
    have parent : ∀ key ∈ done, key.parentTable = plan.table := by
      intro key member
      have listed : key ∈ parentForeignKeys catalog plan.table := by
        rw [parents]
        exact List.mem_append_left _ member
      exact (mem_parentForeignKeys.mp listed).2
    simp only [applyParentDeleteActions] at ok
    split at ok
    · cases ok
    · next next taken =>
      obtain ⟨rfl, passed⟩ := applyParentDeleteAction_acted parents disjoint stable
        (actedBy_parent parent elsewhere) taken
      have regroup : done ++ fk :: rest = (done ++ [fk]) ++ rest := by simp
      rw [regroup] at parents
      have elsewhere' : ∀ key ∈ done ++ [fk], ActsElsewhere catalog key := by
        intro key member
        rcases List.mem_append.mp member with member | member
        · exact elsewhere key member
        · rw [List.mem_singleton.mp member]
          exact passed.elsewhere
      obtain ⟨same, later⟩ := ih parents elsewhere' ok
      refine ⟨by rw [same, regroup], ?_⟩
      intro key member
      rcases List.mem_cons.mp member with rfl | member
      · exact ⟨done, List.subset_append_left _ _, passed⟩
      · rw [regroup]
        exact later key member

omit [DecidableEq Col] in
theorem validateSelfReferencing_holds {deleted : Database Tab Col Val}
    {fks : List (ForeignKey Tab Col)}
    (ok : validateSelfReferencingParentForeignKeysAfterDelete engine plan deleted fks = .ok ()) :
    ∀ fk ∈ fks, fk.childTable = plan.table → Holds engine.sqlEq deleted fk := by
  induction fks with
  | nil => nofun
  | cons fk rest ih =>
    simp only [validateSelfReferencingParentForeignKeysAfterDelete] at ok
    split at ok
    · cases ok
    · next valid =>
      intro key member own
      rcases List.mem_cons.mp member with rfl | member
      · rw [not_and, not_not] at valid
        exact foreignKeyHolds_iff.mp (valid own)
      · exact ih ok key member own

/-- The meant state, table by table: the actions everywhere, and the selected rows
gone from their own table. -/
theorem expectedDelete_eq
    (elsewhere : ∀ fk ∈ parentForeignKeys catalog plan.table, ActsElsewhere catalog fk) :
    expectedDelete engine catalog plan db =
      Function.update (actedBy engine plan db (parentForeignKeys catalog plan.table)) plan.table
        ((db plan.table).filter fun row => !selected plan db row) := by
  have untouched : ∀ fk ∈ parentForeignKeys catalog plan.table,
      fk.deleteRule = .cascade ∨ fk.deleteRule = .setNull → fk.childTable ≠ plan.table := by
    intro fk member acts
    rw [← (mem_parentForeignKeys.mp member).2]
    exact (elsewhere fk member acts).1
  funext table
  by_cases own : table = plan.table
  · subst own
    rw [Function.update_self, expectedDelete]
    simp only [keptBy_untouched untouched, decide_true, Bool.true_and]
    exact (List.map_congr_left fun row _ => nulledBy_untouched untouched row).trans
      (List.map_id _)
  · rw [Function.update_of_ne own, expectedDelete, actedBy]
    simp [own]

/-- A row that is still there with a complete key does not reference a selected row. -/
theorem selected_unreferenced {fks : List (ForeignKey Tab Col)}
    (passed : ∀ fk ∈ fks, ∃ before, before ⊆ fks ∧ Passed engine catalog plan db before fk)
    {fk : ForeignKey Tab Col} (member : fk ∈ fks) (other : fk.childTable ≠ fk.parentTable)
    {row : Row Col Val} (stored : row ∈ db fk.childTable)
    (kept : keptBy engine plan db fks fk.childTable row = true)
    (complete : childKeyNotNull fk (nulledBy engine plan db fks fk.childTable row) = true) :
    referencesSelected engine plan db fk row ≠ true := by
  intro references
  by_cases cascade : fk.deleteRule = .cascade
  · have stays := List.all_eq_true.mp kept fk member
    simp [cascades, cascade, references] at stays
  by_cases setNull : fk.deleteRule = .setNull
  · obtain ⟨part, inside⟩ := List.exists_mem_of_ne_nil fk.parts fk.parts_nonempty
    have present := List.all_eq_true.mp complete part inside
    have nulled : nulls engine plan db fk fk.childTable row = true := by
      simp [nulls, setNull, references]
    rw [nulledBy_value, if_pos ⟨fk, member, nulled, List.mem_map_of_mem inside⟩] at present
    cases present
  obtain ⟨before, earlier, passedKey⟩ := passed fk member
  have keptBefore : keptBy engine plan db before fk.childTable row = true := by
    rw [keptBy, List.all_eq_true] at kept ⊢
    exact fun key found => kept key (earlier found)
  have found : nulledBy engine plan db before fk.childTable row ∈
      actedBy engine plan db before fk.childTable :=
    List.mem_map_of_mem (List.mem_filter.mpr ⟨stored, keptBefore⟩)
  have unreferenced := passedKey.unreferenced ⟨cascade, setNull⟩ other _ found
  rw [referencesSelected_congr (nulledBy_value_of_notNull earlier complete), references]
    at unreferenced
  cases unreferenced

/-- No foreign key dangles once the meant actions have been taken, as far as the
loop lets them be taken. -/
theorem expectedDelete_holds (holds : ∀ fk ∈ catalog, Holds engine.sqlEq db fk)
    (passed : ∀ fk ∈ parentForeignKeys catalog plan.table, ∃ before,
      before ⊆ parentForeignKeys catalog plan.table ∧ Passed engine catalog plan db before fk)
    {fk : ForeignKey Tab Col} (listed : fk ∈ catalog)
    (notOwn : fk.parentTable = plan.table → fk.childTable ≠ plan.table) :
    Holds engine.sqlEq (expectedDelete engine catalog plan db) fk := by
  have elsewhere : ∀ key ∈ parentForeignKeys catalog plan.table, ActsElsewhere catalog key := by
    intro key member
    obtain ⟨_, _, passedKey⟩ := passed key member
    exact passedKey.elsewhere
  intro child member
  rw [dangling_eq_false_iff]
  intro complete
  obtain ⟨row, found, rfl⟩ := List.mem_map.mp member
  obtain ⟨stored, stays⟩ := List.mem_filter.mp found
  have kept := (Bool.and_eq_true_iff.mp stays).1
  -- The key is complete, so it is the key the row had at the start.
  have same := nulledBy_value_of_notNull (List.Subset.refl _) complete
  have rowComplete : childKeyNotNull fk row = true := by
    rw [← complete, childKeyNotNull, childKeyNotNull, Bool.eq_iff_iff, List.all_eq_true,
      List.all_eq_true]
    exact forall₂_congr fun part inside => by rw [same part inside]
  obtain ⟨parent, present, matched⟩ :=
    dangling_eq_false_iff.mp (holds fk listed row stored) rowComplete
  refine ⟨parent, ?_, (keysMatch_congr same).trans matched⟩
  rw [expectedDelete_eq elsewhere]
  by_cases own : fk.parentTable = plan.table
  · rw [own] at present ⊢
    rw [Function.update_self, List.mem_filter]
    refine ⟨present, ?_⟩
    rw [Bool.not_eq_true', ← Bool.not_eq_true]
    intro isSelected
    have references : referencesSelected engine plan db fk row = true := by
      rw [referencesSelected, List.any_eq_true, own]
      exact ⟨parent, present, by rw [isSelected, matched]; rfl⟩
    have other : fk.childTable ≠ fk.parentTable := by
      rw [own]
      exact notOwn own
    exact selected_unreferenced passed (mem_parentForeignKeys.mpr ⟨listed, own⟩) other
      stored kept complete references
  · rw [Function.update_of_ne own, actedBy_untouched]
    · exact present
    · intro key member acts onParent
      have childless := (elsewhere key member acts).2
      rw [onParent] at childless
      have listed' := mem_parentForeignKeys.mpr ⟨listed, rfl⟩
      rw [childless] at listed'
      cases listed'

theorem deleteTransaction_acted (stable : SelectionStable engine catalog plan db)
    (disjoint : ActionsDisjoint engine catalog plan db) {deleted : Database Tab Col Val}
    (ok : deleteTransaction engine catalog plan db = .ok deleted) :
    deleted = expectedDelete engine catalog plan db ∧
      (∀ fk ∈ parentForeignKeys catalog plan.table, ∃ before,
        before ⊆ parentForeignKeys catalog plan.table ∧
          Passed engine catalog plan db before fk) ∧
      ∀ fk ∈ parentForeignKeys catalog plan.table, fk.childTable = plan.table →
        Holds engine.sqlEq deleted fk := by
  simp only [deleteTransaction] at ok
  split at ok
  · cases ok
  · next acted applied =>
    split at ok
    · cases ok
    · next validated =>
      cases ok
      have start : actedBy engine plan db [] = db := funext fun _ => actedBy_untouched nofun
      obtain ⟨rfl, passed⟩ := applyParentDeleteActions_acted stable disjoint
        (List.nil_append _).symm nofun (start.symm ▸ applied)
      rw [List.nil_append] at *
      have elsewhere : ∀ fk ∈ parentForeignKeys catalog plan.table, ActsElsewhere catalog fk := by
        intro fk member
        obtain ⟨_, _, passedKey⟩ := passed fk member
        exact passedKey.elsewhere
      refine ⟨?_, passed, validateSelfReferencing_holds validated⟩
      rw [expectedDelete_eq elsewhere,
        actedBy_parent (fun fk member => (mem_parentForeignKeys.mp member).2) elsewhere]
      congr 1
      apply List.filter_congr
      intro row stored
      rw [stable _ [] (List.append_nil _).symm row stored, selected]

end Transaction

/-- A `DELETE` that fails changes nothing. One that succeeds, with a selection that
stays the same under its own actions and with actions that do not hide children
from each other, removes exactly the selected rows, takes exactly the actions
meant for their children, and leaves every foreign key holding. -/
theorem executeDelete_spec (holds : ∀ fk ∈ catalog, Holds engine.sqlEq db fk) :
    (∀ error, (executeDeleteFromPlan engine catalog plan db).1 = .error error →
      (executeDeleteFromPlan engine catalog plan db).2 = db) ∧
    (SelectionStable engine catalog plan db → ActionsDisjoint engine catalog plan db →
      (executeDeleteFromPlan engine catalog plan db).1 = .ok () →
        (executeDeleteFromPlan engine catalog plan db).2 =
          expectedDelete engine catalog plan db ∧
        ∀ fk ∈ catalog, Holds engine.sqlEq (executeDeleteFromPlan engine catalog plan db).2 fk) := by
  unfold executeDeleteFromPlan
  constructor
  · intro error failed
    split at failed
    · rfl
    · cases failed
  · intro stable disjoint succeeded
    split at succeeded
    · cases succeeded
    · next deleted ok =>
      obtain ⟨rfl, passed, validated⟩ := deleteTransaction_acted stable disjoint ok
      refine ⟨rfl, fun fk listed => ?_⟩
      by_cases own : fk.parentTable = plan.table ∧ fk.childTable = plan.table
      · exact validated fk (mem_parentForeignKeys.mpr ⟨listed, own.1⟩) own.2
      · exact expectedDelete_holds holds passed listed (not_and.mp own)

/-! A parent table 1 with the key column 0 and a child table 2 whose column 1
references it, ON DELETE CASCADE. -/

def integerEngine : Engine Nat Nat Int where
  sqlEq a b := a == b
  constraintsAllow _ _ _ := true

def cascadeKey : ForeignKey Nat Nat where
  childTable := 2
  parentTable := 1
  parts := [(1, 0)]
  deleteRule := .cascade
  updateRule := .cascade
  parts_nonempty := by decide

/-- One parent with the key 1 and one child that references it. -/
def parentAndChild : Database Nat Nat Int
  | 1 => [⟨1, fun col => if col = 0 then some 1 else none⟩]
  | 2 => [⟨1, fun col => if col = 1 then some 1 else none⟩]
  | _ => []

/-- `DELETE FROM p WHERE p.id = 1`. -/
def deleteByKey : DeletePlan Nat Nat Int where
  table := 1
  isJoined := false
  writesTargetAlias := false
  selects _ row := row.value 0 == some 1

/-- `DELETE p FROM p JOIN c ON c.pid = p.id`. -/
def deleteReferenced : DeletePlan Nat Nat Int where
  table := 1
  isJoined := true
  writesTargetAlias := false
  selects db row :=
    (db 2).any fun child => valuesMatch integerEngine.sqlEq (child.value 1) (row.value 0)

theorem parentAndChild_holds :
    ∀ fk ∈ [cascadeKey], Holds integerEngine.sqlEq parentAndChild fk := by
  intro fk member
  rw [List.mem_singleton.mp member, ← foreignKeyHolds_iff]
  decide

theorem executeDelete_spec_byKey :
    (executeDeleteFromPlan integerEngine [cascadeKey] deleteByKey parentAndChild).2 =
      expectedDelete integerEngine [cascadeKey] deleteByKey parentAndChild := by
  refine ((executeDelete_spec integerEngine [cascadeKey] deleteByKey parentAndChild
    parentAndChild_holds).2 (fun _ _ _ _ _ => rfl) ?_ rfl).1
  intro done fk rest parents _ _ _ _ _ earlier before
  have alone : done = [] := by
    have length := congrArg List.length parents
    simp only [List.length_append, List.length_cons] at length
    have one : (parentForeignKeys [cascadeKey] deleteByKey.table).length = 1 := rfl
    rw [one] at length
    exact List.length_eq_zero_iff.mp (by omega)
  rw [alone] at before
  cases before

/-- The cascade removes the child, after which the same join no longer selects the
parent: the statement succeeds and leaves the row it was asked to delete. -/
theorem referenced_parent_survives :
    (∀ fk ∈ [cascadeKey], Holds integerEngine.sqlEq parentAndChild fk) ∧
      (executeDeleteFromPlan integerEngine [cascadeKey] deleteReferenced parentAndChild).1 =
        .ok () ∧
      ((executeDeleteFromPlan integerEngine [cascadeKey] deleteReferenced parentAndChild).2 1).map
        Row.rowid = [1] ∧
      ((executeDeleteFromPlan integerEngine [cascadeKey] deleteReferenced parentAndChild).2 2).map
        Row.rowid = [] ∧
      (expectedDelete integerEngine [cascadeKey] deleteReferenced parentAndChild 1).map
        Row.rowid = [] :=
  ⟨parentAndChild_holds, rfl, rfl, rfl, rfl⟩

end MyLite.Runtime
