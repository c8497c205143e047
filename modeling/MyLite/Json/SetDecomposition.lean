import MyLite.Json.Produced
import MyLite.Json.SetExtract

/-! JSON_SET is JSON_INSERT and then JSON_REPLACE at the same path, and the three touch nothing
outside of it. -/
namespace MyLite.Json

/-- A parent as the last leg reads it: under an index a value that is no array stands for the array
of itself. -/
def Value.asParent (parent : Value) : PathLeg → Value
  | .member _ => parent
  | .array _ => if parent.isArray then parent else .array [parent]

/-- The document with the parent of a path as the last leg reads it. -/
def Value.withParent (document : Value) (legs : List PathLeg) : Value :=
  (updateParent descendChild (fun last parent => some (parent.asParent last)) (some document) legs
    document).getD document

/-- The path leads to a value that is there. -/
def Value.Selects (document : Value) (legs : List PathLeg) : Prop :=
  ∃ value, legs.foldl followLeg (some (document.withParent legs)) = some value

/-- The paths lead to values none of which is inside the other. -/
def Apart (path other : List PathLeg) : Prop :=
  ¬path <+: other ∧ ¬other <+: path

/-! Writing through one leg. -/

theorem objectAppendMember_twice (members : List Member) (name : Bytes) (first second : Value) :
    objectAppendMember (objectAppendMember members name first) name second =
      objectAppendMember members name second := by
  induction members with
  | nil => simp [objectAppendMember]
  | cons member members ih =>
    by_cases same : member.1 = name
    · simp [objectAppendMember, same]
    · simp [objectAppendMember, same, ih]

theorem objectMemberValue_append_other {members : List Member} {name other : Bytes} (value : Value)
    (differs : other ≠ name) :
    objectMemberValue (objectAppendMember members name value) other =
      objectMemberValue members other := by
  induction members with
  | nil => simp [objectAppendMember, objectMemberValue, differs.symm]
  | cons member members ih =>
    by_cases same : member.1 = name
    · simp [objectAppendMember, objectMemberValue, same, differs.symm]
    · simp only [objectAppendMember, same, if_false, objectMemberValue, List.find?_cons] at ih ⊢
      split
      · rfl
      · exact ih

theorem Value.putChild_twice (value first second : Value) (leg : PathLeg) :
    (value.putChild leg first).putChild leg second = value.putChild leg second := by
  cases value with
  | array values =>
    cases leg with
    | member name => rfl
    | array index => simp [Value.putChild]
  | object members =>
    cases leg with
    | member name => simp [Value.putChild, objectAppendMember_twice]
    | array index => rfl
  | _ => cases leg <;> rfl

theorem Value.child_putChild_other (value new : Value) {leg other : PathLeg}
    (differs : other ≠ leg) : (value.putChild leg new).child other = value.child other := by
  cases value with
  | array values =>
    cases leg with
    | member name => rfl
    | array index =>
      cases other with
      | member name => rfl
      | array second =>
        have apart : index ≠ second := fun same => differs (congrArg PathLeg.array same.symm)
        exact List.getElem?_set_ne apart
  | object members =>
    cases leg with
    | member name =>
      cases other with
      | member second =>
        exact objectMemberValue_append_other new fun same => differs (congrArg PathLeg.member same)
      | array index => rfl
    | array index => rfl
  | _ => cases leg <;> rfl

/-! Two updates of one parent. -/

theorem updateTarget_bind (first second : Value → Option Value) (legs : List PathLeg)
    (document : Value) :
    (updateTarget descendChild first legs document).bind (updateTarget descendChild second legs) =
      updateTarget descendChild (fun target => (first target).bind second) legs document := by
  induction legs generalizing document with
  | nil => rfl
  | cons leg legs ih =>
    cases found : document.child leg with
    | none => simp [updateTarget, descendChild, found]
    | some child =>
      have inside := ih child
      simp only [updateTarget, descendChild, found, Option.map_some] at inside ⊢
      rw [← inside]
      cases updateTarget descendChild first legs child with
      | none => rfl
      | some inner =>
        have same : (document.putChild leg inner).putChild leg = document.putChild leg :=
          funext fun new => Value.putChild_twice document inner new leg
        simp only [Option.map_some, Option.bind_some, Value.child_putChild found, same]

/-- An update is known by what it does to the parent that is reached. -/
theorem updateTarget_congr {first second : Value → Option Value} {legs : List PathLeg}
    {document : Value}
    (agree : ∀ parent, legs.foldl followLeg (some document) = some parent →
      first parent = second parent) :
    updateTarget descendChild first legs document =
      updateTarget descendChild second legs document := by
  induction legs generalizing document with
  | nil => exact agree document rfl
  | cons leg legs ih =>
    rw [updateTarget, updateTarget, descendChild]
    cases found : document.child leg with
    | none => rfl
    | some child =>
      have inside : updateTarget descendChild first legs child =
          updateTarget descendChild second legs child := by
        refine ih fun parent reached => agree parent ?_
        rw [List.foldl_cons, followLeg, Option.bind_some, found, reached]
      simp only [Option.map_some, inside]

theorem updateTarget_some (legs : List PathLeg) (document : Value) :
    updateTarget descendChild some legs document = some document := by
  cases reached : legs.foldl followLeg (some document) with
  | none => exact updateTarget_unreached reached
  | some parent =>
    clear reached
    induction legs generalizing document with
    | nil => rfl
    | cons leg legs ih =>
      rw [updateTarget, descendChild]
      cases found : document.child leg with
      | none => rfl
      | some child => simp only [Option.map_some, ih, Value.putChild_self found]

/-- An update that leaves the parent as it is leaves the document as it is. -/
theorem updateTarget_unchanged {update : Value → Option Value} {legs : List PathLeg}
    {document : Value}
    (unchanged : ∀ parent, legs.foldl followLeg (some document) = some parent →
      update parent = some parent) :
    updateTarget descendChild update legs document = some document := by
  rw [updateTarget_congr unchanged, updateTarget_some]

/-- What is apart from the path is kept when the parent keeps what is not under the last leg. -/
theorem updateTarget_keeps {first second : Value → Option Value} {legs : List PathLeg}
    {last : PathLeg}
    (keeps : ∀ parent old new, first parent = some old → second parent = some new →
      ∀ leg child, leg ≠ last → old.child leg = some child → new.child leg = some child)
    {document old new value : Value} {path : List PathLeg} (apart : Apart (legs ++ [last]) path)
    (before : updateTarget descendChild first legs document = some old)
    (after : updateTarget descendChild second legs document = some new)
    (found : path.foldl followLeg (some old) = some value) :
    path.foldl followLeg (some new) = some value := by
  induction legs generalizing document old new path with
  | nil =>
    cases path with
    | nil => exact absurd List.nil_prefix apart.2
    | cons leg path =>
      have differs : leg ≠ last := by
        rintro rfl
        exact apart.1 (List.prefix_cons_inj leg |>.mpr List.nil_prefix)
      rw [List.foldl_cons, followLeg, Option.bind_some] at found ⊢
      cases child : old.child leg with
      | none =>
        rw [child, foldl_followLeg_none] at found
        cases found
      | some inner =>
        rw [keeps document old new before after leg inner differs child]
        rw [child] at found
        exact found
  | cons step legs ih =>
    cases path with
    | nil => exact absurd List.nil_prefix apart.2
    | cons leg path =>
      rw [updateTarget, descendChild] at before after
      cases child : document.child step with
      | none =>
        rw [child] at before after
        cases before
        cases after
        exact found
      | some inner =>
        rw [child] at before after
        obtain ⟨oldInner, oldUpdate, rfl⟩ := Option.map_eq_some_iff.1 before
        obtain ⟨newInner, newUpdate, rfl⟩ := Option.map_eq_some_iff.1 after
        rw [List.foldl_cons, followLeg, Option.bind_some] at found ⊢
        by_cases same : leg = step
        · subst same
          rw [Value.child_putChild child] at found ⊢
          refine ih ⟨fun starts => apart.1 ?_, fun starts => apart.2 ?_⟩ oldUpdate newUpdate found
          · exact (List.prefix_cons_inj leg).mpr starts
          · exact (List.prefix_cons_inj leg).mpr starts
        · rw [Value.child_putChild_other _ _ same] at found ⊢
          exact found

/-! The last leg. -/

theorem SortedKeys.storeSorted {members : List Member} {name : Bytes} (value : Value)
    (sorted : SortedKeys members) (present : (objectMemberValue members name).isSome) :
    storeSorted members name value = .object (objectAppendMember members name value) := by
  obtain ⟨old, found⟩ := Option.isSome_iff_exists.1 present
  have mem := List.mem_map_of_mem (f := Prod.fst) (mem_of_objectMemberValue found)
  rw [Json.storeSorted, (sorted.replace value mem).sort_eq]

theorem objectMemberValue_storeSorted (members : List Member) (name : Bytes) (value : Value) :
    objectMemberValue (sortObjectMembers (objectAppendMember members name value)) name =
      some value := by
  rw [objectMemberValue_sort, objectMemberValue_append]

/-- At an ordered parent a set is an insert and then a replace. -/
theorem applyJsonSetLeg_eq {scalar : Value → Prop} {key : Bytes → Prop} {parent : Value}
    (ordered : Ordered scalar key parent) (value : Value) (last : PathLeg) :
    applyJsonSetLeg value last parent =
      (applyJsonInsertLeg value last parent).bind (applyJsonReplaceLeg value last) := by
  cases last with
  | member name =>
    cases parent with
    | object members =>
      simp only [applyJsonSetLeg, applyJsonInsertLeg, Option.bind_some]
      split
      · rename_i present
        simp only [applyJsonReplaceLeg, present, if_true,
          ordered.stored.1.storeSorted value present]
      · have stored : SortedKeys (sortObjectMembers (objectAppendMember members name value)) :=
          sortObjectMembers_sorted (objectAppendMember_nodup name value ordered.stored.2.nodup)
        have found := objectMemberValue_storeSorted members name value
        simp only [storeSorted, applyJsonReplaceLeg, found, Option.isSome_some, if_true,
          objectAppendMember_self found]
    | _ => rfl
  | array index =>
    cases parent with
    | array values =>
      simp only [applyJsonSetLeg, applyJsonInsertLeg, Option.bind_some]
      split
      · rfl
      · rename_i outside
        simp only [applyJsonReplaceLeg, Option.some.injEq, Value.array.injEq]
        rcases Nat.eq_or_lt_of_le (Nat.not_lt.1 outside) with atEnd | beyond
        · rw [← atEnd, List.set_append_right _ _ (Nat.le_refl _), Nat.sub_self, List.set_cons_zero]
        · rw [List.set_eq_of_length_le]
          rw [List.length_append]
          exact beyond
    | _ =>
      simp only [applyJsonSetLeg, applyJsonInsertLeg, Option.bind_some]
      split
      · rename_i zero
        simp [applyJsonReplaceLeg, zero]
      · rename_i nonzero
        cases index with
        | zero => exact absurd rfl nonzero
        | succ index =>
          cases index with
          | zero => rfl
          | succ index => rfl

theorem Value.asParent_array (values : List Value) (last : PathLeg) :
    (Value.array values).asParent last = .array values := by
  cases last <;> rfl

/-- An insert leaves a parent alone whose last leg leads to a value. -/
theorem applyJsonInsertLeg_present {parent child : Value} {last : PathLeg} (value : Value)
    (found : (parent.asParent last).child last = some child) :
    applyJsonInsertLeg value last parent = some parent := by
  cases last with
  | member name =>
    cases parent with
    | object members =>
      have present : objectMemberValue members name = some child := found
      simp [applyJsonInsertLeg, present]
    | _ => rfl
  | array index =>
    cases parent with
    | array values =>
      obtain ⟨inside, -⟩ := List.getElem?_eq_some_iff.1 found
      simp [applyJsonInsertLeg, inside]
    | _ =>
      obtain ⟨inside, -⟩ := List.getElem?_eq_some_iff.1 found
      have zero : index = 0 := Nat.lt_one_iff.1 inside
      simp [applyJsonInsertLeg, zero]

/-- A replace leaves a parent alone whose last leg leads nowhere. -/
theorem applyJsonReplaceLeg_absent {parent : Value} {last : PathLeg} (value : Value)
    (absent : (parent.asParent last).child last = none) :
    applyJsonReplaceLeg value last parent = some parent := by
  cases last with
  | member name =>
    cases parent with
    | object members =>
      have absent : objectMemberValue members name = none := absent
      simp [applyJsonReplaceLeg, absent]
    | _ => rfl
  | array index =>
    cases parent with
    | array values =>
      have outside := List.getElem?_eq_none_iff.1 absent
      simp [applyJsonReplaceLeg, List.set_eq_of_length_le outside]
    | _ =>
      have outside : 1 ≤ index := List.getElem?_eq_none_iff.1 absent
      have nonzero : index ≠ 0 := Nat.one_le_iff_ne_zero.1 outside
      simp [applyJsonReplaceLeg, nonzero]

/-- What a mutation of the last leg keeps of its parent. -/
def KeepsSiblings (update : PathLeg → Value → Option Value) : Prop :=
  ∀ last parent after, update last parent = some after → ∀ leg child, leg ≠ last →
    (parent.asParent last).child leg = some child → (after.asParent last).child leg = some child

theorem asParent_child_array {parent child : Value} {index : Nat} {leg : PathLeg}
    (other : leg ≠ .array index) (notArray : parent.isArray = false)
    (found : (parent.asParent (.array index)).child leg = some child) :
    leg = .array 0 ∧ index ≠ 0 ∧ child = parent := by
  rw [Value.asParent, notArray, if_neg Bool.false_ne_true] at found
  cases leg with
  | member name => cases found
  | array second =>
    obtain ⟨inside, same⟩ := List.getElem?_eq_some_iff.1 found
    have zero : second = 0 := Nat.lt_one_iff.1 inside
    subst zero
    refine ⟨rfl, fun same => other (congrArg PathLeg.array same.symm), ?_⟩
    exact same.symm

theorem child_objectAppendMember {members : List Member} {name : Bytes} {leg : PathLeg}
    (value : Value) (other : leg ≠ .member name) :
    (Value.object (objectAppendMember members name value)).child leg =
      (Value.object members).child leg :=
  Value.child_putChild_other (.object members) value other

theorem child_storeSorted {members : List Member} {name : Bytes} {leg : PathLeg}
    (value : Value) (other : leg ≠ .member name) :
    (storeSorted members name value).child leg = (Value.object members).child leg := by
  rw [← child_objectAppendMember value other]
  cases leg with
  | member second => exact objectMemberValue_sort _ second
  | array index => rfl

theorem child_set {values : List Value} {index : Nat} {leg : PathLeg} (value : Value)
    (other : leg ≠ .array index) :
    (Value.array (values.set index value)).child leg = (Value.array values).child leg :=
  Value.child_putChild_other (.array values) value other

theorem child_append {values : List Value} {leg : PathLeg} {child : Value} (value : Value)
    (found : (Value.array values).child leg = some child) :
    (Value.array (values ++ [value])).child leg = some child := by
  cases leg with
  | member name => cases found
  | array index =>
    obtain ⟨inside, -⟩ := List.getElem?_eq_some_iff.1 found
    exact (List.getElem?_append_left inside).trans found

theorem applyJsonInsertLeg_keepsSiblings (value : Value) :
    KeepsSiblings (applyJsonInsertLeg value) := by
  intro last parent after applied leg child other found
  cases last with
  | member name =>
    cases parent with
    | object members =>
      cases applied
      by_cases present : (objectMemberValue members name).isSome
      · rw [if_pos present]
        exact found
      · rw [if_neg present]
        exact (child_storeSorted value other).trans found
    | _ =>
      cases applied
      exact found
  | array index =>
    cases parent with
    | array values =>
      cases applied
      rw [Value.asParent_array] at found ⊢
      split
      · exact found
      · exact child_append value found
    | _ =>
      cases applied
      obtain ⟨rfl, nonzero, rfl⟩ := asParent_child_array other rfl found
      rw [if_neg nonzero]
      rfl

theorem applyJsonReplaceLeg_keepsSiblings (value : Value) :
    KeepsSiblings (applyJsonReplaceLeg value) := by
  intro last parent after applied leg child other found
  cases last with
  | member name =>
    cases parent with
    | object members =>
      cases applied
      split
      · exact (child_objectAppendMember value other).trans found
      · exact found
    | _ =>
      cases applied
      exact found
  | array index =>
    cases parent with
    | array values =>
      cases applied
      exact (child_set value other).trans found
    | _ =>
      cases applied
      obtain ⟨rfl, nonzero, rfl⟩ := asParent_child_array other rfl found
      rw [if_neg nonzero]
      rfl

theorem applyJsonSetLeg_keepsSiblings (value : Value) : KeepsSiblings (applyJsonSetLeg value) := by
  intro last parent after applied leg child other found
  cases last with
  | member name =>
    cases parent with
    | object members =>
      cases applied
      exact (child_storeSorted value other).trans found
    | _ =>
      cases applied
      exact found
  | array index =>
    cases parent with
    | array values =>
      cases applied
      rw [Value.asParent_array] at found ⊢
      split
      · exact (child_set value other).trans found
      · exact child_append value found
    | _ =>
      cases applied
      obtain ⟨rfl, nonzero, rfl⟩ := asParent_child_array other rfl found
      rw [if_neg nonzero]
      rfl

/-! The whole path. -/

theorem updateParent_append (update : PathLeg → Value → Option Value) (root : Option Value)
    (legs : List PathLeg) (last : PathLeg) (document : Value) :
    updateParent descendChild update root (legs ++ [last]) document =
      updateTarget descendChild (update last) legs document := by
  simp [updateParent]

theorem updateTarget_total (update : Value → Option Value)
    (total : ∀ target, ∃ updated, update target = some updated) (legs : List PathLeg)
    (document : Value) : ∃ after, updateTarget descendChild update legs document = some after := by
  cases reached : legs.foldl followLeg (some document) with
  | none => exact ⟨document, updateTarget_unreached reached⟩
  | some parent =>
    obtain ⟨updated, done⟩ := total parent
    obtain ⟨after, update, -⟩ := updateTarget_reached reached done
    exact ⟨after, update⟩

theorem withParent_append (document : Value) (legs : List PathLeg) (last : PathLeg) :
    updateTarget descendChild (fun parent => some (parent.asParent last)) legs document =
      some (document.withParent (legs ++ [last])) := by
  obtain ⟨after, done⟩ := updateTarget_total (fun parent => some (parent.asParent last))
    (fun parent => ⟨_, rfl⟩) legs document
  rw [Value.withParent, updateParent_append, done]
  rfl

/-- The path selects what its last leg finds in the parent that is reached. -/
theorem follow_withParent (document : Value) (legs : List PathLeg) (last : PathLeg) :
    (legs ++ [last]).foldl followLeg (some (document.withParent (legs ++ [last]))) =
      (legs.foldl followLeg (some document)).bind fun parent =>
        (parent.asParent last).child last := by
  have done := withParent_append document legs last
  rw [List.foldl_append, List.foldl_cons, List.foldl_nil]
  cases reached : legs.foldl followLeg (some document) with
  | none =>
    rw [updateTarget_unreached reached] at done
    rw [← Option.some.inj done, reached]
    rfl
  | some parent =>
    let view (parent : Value) : Option Value := some (parent.asParent last)
    have viewed : view parent = some (parent.asParent last) := rfl
    obtain ⟨after, update, follows⟩ := updateTarget_reached reached viewed
    rw [update] at done
    rw [← Option.some.inj done, follows]
    rfl

theorem Ordered.reached {scalar : Value → Prop} {key : Bytes → Prop} {document parent : Value}
    {legs : List PathLeg} (ordered : Ordered scalar key document)
    (reached : legs.foldl followLeg (some document) = some parent) :
    Ordered scalar key parent := by
  induction legs generalizing document with
  | nil =>
    cases reached
    exact ordered
  | cons leg legs ih =>
    rw [List.foldl_cons, followLeg, Option.bind_some] at reached
    cases found : document.child leg with
    | none =>
      rw [found, foldl_followLeg_none] at reached
      cases reached
    | some child =>
      rw [found] at reached
      exact ih (ordered.child found) reached

theorem applyJsonSetPath_eq {scalar : Value → Prop} {key : Bytes → Prop} {document : Value}
    (ordered : Ordered scalar key document) (value : Value) (legs : List PathLeg) :
    applyJsonSetPath document legs value =
      (applyJsonInsertPath document legs value).bind fun inserted =>
        applyJsonReplacePath inserted legs value := by
  rcases List.eq_nil_or_concat legs with rfl | ⟨parents, last, rfl⟩
  · rfl
  · simp only [List.concat_eq_append, applyJsonSetPath, applyJsonInsertPath, applyJsonReplacePath,
      updateParent_append]
    rw [updateTarget_bind]
    exact updateTarget_congr fun parent reached =>
      applyJsonSetLeg_eq (ordered.reached reached) value last

theorem applyJsonInsertPath_selected {document : Value} {legs : List PathLeg} (value : Value)
    (selects : document.Selects legs) :
    applyJsonInsertPath document legs value = some document := by
  rcases List.eq_nil_or_concat legs with rfl | ⟨parents, last, rfl⟩
  · rfl
  · rw [List.concat_eq_append] at selects ⊢
    obtain ⟨found, selects⟩ := selects
    rw [follow_withParent] at selects
    rw [applyJsonInsertPath, updateParent_append]
    refine updateTarget_unchanged fun parent reached => ?_
    rw [reached, Option.bind_some] at selects
    exact applyJsonInsertLeg_present value selects

theorem asParent_child {parent child : Value} {last : PathLeg}
    (found : parent.child last = some child) : (parent.asParent last).child last = some child := by
  cases last with
  | member name => exact found
  | array index =>
    cases parent with
    | array values => exact found
    | _ => cases found

/-- What extraction finds, the path selects. -/
theorem selects_of_follow {document value : Value} {legs : List PathLeg}
    (found : legs.foldl followLeg (some document) = some value) : document.Selects legs := by
  rcases List.eq_nil_or_concat legs with rfl | ⟨parents, last, rfl⟩
  · exact ⟨document, rfl⟩
  · rw [List.concat_eq_append] at found ⊢
    rw [List.foldl_append, List.foldl_cons, List.foldl_nil] at found
    obtain ⟨parent, reached, child⟩ := Option.bind_eq_some_iff.1 found
    refine ⟨value, ?_⟩
    rw [follow_withParent, reached]
    exact asParent_child child

theorem applyJsonReplacePath_unselected {document : Value} {legs : List PathLeg} (value : Value)
    (unselected : ¬document.Selects legs) :
    applyJsonReplacePath document legs value = some document := by
  rcases List.eq_nil_or_concat legs with rfl | ⟨parents, last, rfl⟩
  · exact absurd ⟨document, rfl⟩ unselected
  · rw [List.concat_eq_append] at unselected ⊢
    rw [Value.Selects, follow_withParent] at unselected
    rw [applyJsonReplacePath, updateParent_append]
    refine updateTarget_unchanged fun parent reached => ?_
    rw [reached, Option.bind_some] at unselected
    exact applyJsonReplaceLeg_absent value (Option.eq_none_iff_forall_ne_some.2 fun child found =>
      unselected ⟨child, found⟩)

/-- A mutation whose last leg keeps its siblings keeps everything apart from the path. -/
theorem updateParent_keeps {update : PathLeg → Value → Option Value} {root : Option Value}
    (siblings : KeepsSiblings update) {document after value : Value} {legs path : List PathLeg}
    (updated : updateParent descendChild update root legs document = some after)
    (apart : Apart legs path)
    (found : path.foldl followLeg (some (document.withParent legs)) = some value) :
    path.foldl followLeg (some (after.withParent legs)) = some value := by
  rcases List.eq_nil_or_concat legs with rfl | ⟨parents, last, rfl⟩
  · exact absurd List.nil_prefix apart.1
  · rw [List.concat_eq_append] at updated apart found ⊢
    rw [updateParent_append] at updated
    have viewed := updateTarget_bind (update last) (fun parent => some (parent.asParent last))
      parents document
    rw [updated, Option.bind_some, withParent_append] at viewed
    refine updateTarget_keeps ?_ apart (withParent_append document parents last) viewed.symm found
    intro parent old new before done leg child other inside
    cases before
    obtain ⟨changed, applied, same⟩ := Option.bind_eq_some_iff.1 done
    cases same
    exact siblings last parent _ applied leg child other inside

/-- A set is an insert and then a replace; an insert changes nothing where the path selects a
value, and a replace nothing where it selects none; and each of the three keeps every value apart
from the path. -/
theorem set_decomposes (parsesDouble : Bytes → Bool) {document : Value}
    (produced : Produced parsesDouble (fun _ => True) document) (legs : List PathLeg)
    (value : Value) :
    (∃ inserted after, applyMutationPath document legs value .insert = some inserted ∧
      applyMutationPath inserted legs value .replace = some after ∧
      applyMutationPath document legs value .set = some after) ∧
    ((legs.foldl followLeg (some document)).isSome → document.Selects legs) ∧
    (document.Selects legs → applyMutationPath document legs value .insert = some document) ∧
    (¬document.Selects legs → applyMutationPath document legs value .replace = some document) ∧
    ∀ mode, mode = .set ∨ mode = .insert ∨ mode = .replace → ∀ after,
      applyMutationPath document legs value mode = some after →
      ∀ path, Apart legs path → ∀ kept,
        path.foldl followLeg (some (document.withParent legs)) = some kept →
        path.foldl followLeg (some (after.withParent legs)) = some kept := by
  refine ⟨?_, ?_, applyJsonInsertPath_selected value, applyJsonReplacePath_unselected value, ?_⟩
  · obtain ⟨after, set, -⟩ := applyJsonSetPath_follow document value legs
    have both := set
    rw [applyJsonSetPath_eq (produced.ordered (sources_any parsesDouble))] at both
    obtain ⟨inserted, insert, replace⟩ := Option.bind_eq_some_iff.1 both
    exact ⟨inserted, after, insert, replace, set⟩
  · intro found
    obtain ⟨selected, follows⟩ := Option.isSome_iff_exists.1 found
    exact selects_of_follow follows
  · rintro mode (rfl | rfl | rfl) after applied path apart kept found
    · exact updateParent_keeps (applyJsonSetLeg_keepsSiblings value) applied apart found
    · exact updateParent_keeps (applyJsonInsertLeg_keepsSiblings value) applied apart found
    · exact updateParent_keeps (applyJsonReplaceLeg_keepsSiblings value) applied apart found

/-- `$.b[1]` in `{"b": true}` makes `{"b": [true, null]}`, where `$.b[0]` is still true. -/
theorem set_decomposes_wrapped :
    [.member [0x62], .array 0].foldl followLeg
        (some (.object [([0x62], .array [.bool true, .null])])) = some (.bool true) := by
  have constructed : objectFromSqlValues (fun _ => true) [(.string [0x62], .boolean true)] =
      .ok (.object [([0x62], .bool true)]) := rfl
  have decomposes := set_decomposes (fun _ => true)
    (.constructed (fun _ _ => ⟨trivial, trivial⟩) constructed) [.member [0x62], .array 1] .null
  have set : applyMutationPath (.object [([0x62], .bool true)]) [.member [0x62], .array 1] .null
      .set = some (.object [([0x62], .array [.bool true, .null])]) := rfl
  have apart : Apart [.member [0x62], .array 1] [.member [0x62], .array 0] := by
    unfold Apart
    decide
  exact decomposes.2.2.2.2 .set (Or.inl rfl) _ set _ apart _ rfl

end MyLite.Json
