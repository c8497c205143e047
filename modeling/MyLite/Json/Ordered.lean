import MyLite.Json.Mutation
import MyLite.Json.Merge
import MyLite.Json.RoundTrip

/-! The order of object members is an invariant of every document value: the parser, the
mutations, the merges and the constructor all keep it. -/
namespace MyLite.Json

/-- `inner` is the value `outer` or a value inside it. -/
inductive Value.Within (inner : Value) : Value → Prop where
  | refl : Within inner inner
  | element {values : List Value} {value : Value} (mem : value ∈ values)
      (within : Within inner value) : Within inner (.array values)
  | member {members : List Member} {member : Member} (mem : member ∈ members)
      (within : Within inner member.2) : Within inner (.object members)

/-- Every object has its members in order, and the scalars and keys pass a test. -/
inductive Ordered (scalar : Value → Prop) (key : Bytes → Prop) : Value → Prop where
  | scalar {value : Value} (leaf : value.isContainer = false) (passes : scalar value) :
      Ordered scalar key value
  | array {values : List Value} (items : ∀ value ∈ values, Ordered scalar key value) :
      Ordered scalar key (.array values)
  | object {members : List Member} (sorted : SortedKeys members)
      (keys : ∀ member ∈ members, key member.1)
      (items : ∀ member ∈ members, Ordered scalar key member.2) :
      Ordered scalar key (.object members)

/-- Members on their way into an object: stored, but perhaps not yet sorted. -/
structure Stored (scalar : Value → Prop) (key : Bytes → Prop) (members : List Member) : Prop where
  nodup : (members.map Prod.fst).Nodup
  keys : ∀ member ∈ members, key member.1
  items : ∀ member ∈ members, Ordered scalar key member.2

section Ordered

variable {scalar : Value → Prop} {key : Bytes → Prop}

theorem Ordered.sortedKeys_within {value : Value} {members : List Member}
    (ordered : Ordered scalar key value) (within : Value.Within (.object members) value) :
    SortedKeys members := by
  induction ordered with
  | scalar leaf passes =>
    cases within with
    | refl => cases leaf
    | element => cases leaf
    | member => cases leaf
  | array items ih =>
    cases within with
    | element mem within => exact ih _ mem within
  | object sorted keys items ih =>
    cases within with
    | refl => exact sorted
    | member mem within => exact ih _ mem within

theorem Ordered.mono {scalar' : Value → Prop} {key' : Bytes → Prop} {value : Value}
    (ordered : Ordered scalar key value) (scalars : ∀ value, scalar value → scalar' value)
    (allKeys : ∀ name, key name → key' name) : Ordered scalar' key' value := by
  induction ordered with
  | scalar leaf passes => exact .scalar leaf (scalars _ passes)
  | array items ih => exact .array ih
  | object sorted keys items ih =>
    exact .object sorted (fun member mem => allKeys _ (keys member mem)) ih

theorem Ordered.elements {values : List Value} (ordered : Ordered scalar key (.array values)) :
    ∀ value ∈ values, Ordered scalar key value := by
  cases ordered with
  | scalar leaf passes => cases leaf
  | array items => exact items

theorem Ordered.stored {members : List Member} (ordered : Ordered scalar key (.object members)) :
    SortedKeys members ∧ Stored scalar key members := by
  cases ordered with
  | scalar leaf passes => cases leaf
  | object sorted keys items => exact ⟨sorted, sorted.nodup, keys, items⟩

/-! Storing, sorting, replacing and removing members. -/

theorem Stored.nil : Stored scalar key [] :=
  ⟨List.nodup_nil, nofun, nofun⟩

theorem Stored.append {members : List Member} {name : Bytes} {value : Value}
    (stored : Stored scalar key members) (passes : key name)
    (ordered : Ordered scalar key value) :
    Stored scalar key (objectAppendMember members name value) := by
  refine ⟨objectAppendMember_nodup name value stored.nodup, ?_, ?_⟩
  · intro member mem
    rcases mem_objectAppendMember mem with ⟨-, same⟩ | mem
    · rw [same]
      exact passes
    · exact stored.keys member mem
  · intro member mem
    rcases mem_objectAppendMember mem with ⟨same, -⟩ | mem
    · rw [same]
      exact ordered
    · exact stored.items member mem

theorem Stored.sort {members : List Member} (stored : Stored scalar key members) :
    Ordered scalar key (.object (sortObjectMembers members)) :=
  .object (sortObjectMembers_sorted stored.nodup)
    (fun member mem => stored.keys member (mem_sortObjectMembers.1 mem))
    fun member mem => stored.items member (mem_sortObjectMembers.1 mem)

theorem Stored.eraseP {members : List Member} (stored : Stored scalar key members)
    (test : Member → Bool) : Stored scalar key (members.eraseP test) :=
  have sublist := List.eraseP_sublist (p := test) (l := members)
  ⟨stored.nodup.sublist (sublist.map Prod.fst),
    fun member mem => stored.keys member (sublist.subset mem),
    fun member mem => stored.items member (sublist.subset mem)⟩

theorem mem_of_objectMemberValue {members : List Member} {name : Bytes} {value : Value}
    (found : objectMemberValue members name = some value) : (name, value) ∈ members := by
  rw [objectMemberValue, Option.map_eq_some_iff] at found
  obtain ⟨member, first, rfl⟩ := found
  have mem := List.mem_of_find?_eq_some first
  have same := List.find?_some first
  rw [decide_eq_true_eq] at same
  rw [← same]
  exact mem

/-- A member that is there keeps its place. -/
theorem SortedKeys.replace {members : List Member} {name : Bytes} (value : Value)
    (sorted : SortedKeys members) (mem : name ∈ members.map Prod.fst) :
    SortedKeys (objectAppendMember members name value) := by
  have keys := objectAppendMember_of_mem value mem
  have byKeys (list : List Member) : SortedKeys list ↔ (list.map Prod.fst).Pairwise KeyLt := by
    rw [SortedKeys, List.pairwise_map]
  rw [byKeys, keys, ← byKeys]
  exact sorted

theorem Ordered.replaceMember {members : List Member} {name : Bytes} {old value : Value}
    (ordered : Ordered scalar key (.object members))
    (found : objectMemberValue members name = some old) (new : Ordered scalar key value) :
    Ordered scalar key (.object (objectAppendMember members name value)) := by
  obtain ⟨sorted, stored⟩ := ordered.stored
  have mem := mem_of_objectMemberValue found
  have after := stored.append (stored.keys _ mem) new
  exact .object (sorted.replace value (List.mem_map_of_mem mem)) after.keys after.items

/-! The mutations. -/

theorem Ordered.setElement {values : List Value} {value : Value}
    (ordered : Ordered scalar key (.array values)) (new : Ordered scalar key value) (index : Nat) :
    Ordered scalar key (.array (values.set index value)) := by
  refine .array fun other mem => ?_
  rcases List.mem_or_eq_of_mem_set mem with mem | rfl
  · exact ordered.elements other mem
  · exact new

theorem Ordered.child {value child : Value} {leg : PathLeg} (ordered : Ordered scalar key value)
    (found : value.child leg = some child) : Ordered scalar key child := by
  cases value with
  | array values =>
    cases leg with
    | member name => cases found
    | array index => exact ordered.elements child (List.mem_of_getElem? found)
  | object members =>
    cases leg with
    | member name => exact ordered.stored.2.items _ (mem_of_objectMemberValue found)
    | array index => cases found
  | _ => cases leg <;> cases found

theorem Ordered.putChild {value old child : Value} {leg : PathLeg}
    (ordered : Ordered scalar key value) (found : value.child leg = some old)
    (new : Ordered scalar key child) : Ordered scalar key (value.putChild leg child) := by
  cases value with
  | array values =>
    cases leg with
    | member name => cases found
    | array index => exact ordered.setElement new index
  | object members =>
    cases leg with
    | member name => exact ordered.replaceMember found new
    | array index => cases found
  | _ => cases leg <;> cases found

/-- What a walk needs to keep the order: the value a leg leads to is ordered, and putting an
ordered value back gives one. -/
def KeepsOrder (scalar : Value → Prop) (key : Bytes → Prop) (descend : Descent) : Prop :=
  ∀ target leg child put, Ordered scalar key target → descend target leg = some (child, put) →
    Ordered scalar key child ∧
      ∀ new, Ordered scalar key new → Ordered scalar key (put new)

theorem descendChild_keepsOrder : KeepsOrder scalar key descendChild := by
  intro target leg child put ordered descended
  rw [descendChild, Option.map_eq_some_iff] at descended
  obtain ⟨found, isChild, same⟩ := descended
  cases same
  exact ⟨ordered.child isChild, fun new newOrdered => ordered.putChild isChild newOrdered⟩

theorem descendWrapped_keepsOrder : KeepsOrder scalar key descendWrapped := by
  intro target leg child put ordered descended
  cases leg with
  | member name => exact descendChild_keepsOrder _ _ _ _ ordered descended
  | array index =>
    simp only [descendWrapped] at descended
    split at descended
    · exact descendChild_keepsOrder _ _ _ _ ordered descended
    · split at descended
      · cases descended
        exact ⟨ordered, fun new newOrdered => newOrdered⟩
      · cases descended

theorem updateTarget_ordered {descend : Descent} (keeps : KeepsOrder scalar key descend)
    {update : Value → Option Value}
    (updates : ∀ target updated, Ordered scalar key target → update target = some updated →
      Ordered scalar key updated)
    {legs : List PathLeg} {document after : Value} (ordered : Ordered scalar key document)
    (updated : updateTarget descend update legs document = some after) :
    Ordered scalar key after := by
  induction legs generalizing document after with
  | nil => exact updates _ _ ordered updated
  | cons leg legs ih =>
    rw [updateTarget] at updated
    split at updated
    · cases updated
      exact ordered
    · rename_i child put descended
      obtain ⟨childOrdered, putBack⟩ := keeps _ _ _ _ ordered descended
      rw [Option.map_eq_some_iff] at updated
      obtain ⟨new, inner, rfl⟩ := updated
      exact putBack new (ih childOrdered inner)

theorem updateParent_ordered {descend : Descent} (keeps : KeepsOrder scalar key descend)
    {update : PathLeg → Value → Option Value} {root : Option Value} {legs : List PathLeg}
    {document after : Value}
    (updates : ∀ last ∈ legs, ∀ target updated, Ordered scalar key target →
      update last target = some updated → Ordered scalar key updated)
    (atRoot : ∀ value, root = some value → Ordered scalar key value)
    (ordered : Ordered scalar key document)
    (updated : updateParent descend update root legs document = some after) :
    Ordered scalar key after := by
  rw [updateParent] at updated
  split at updated
  · exact atRoot after updated
  · rename_i last isLast
    exact updateTarget_ordered keeps (updates last (List.mem_of_getLast? isLast)) ordered updated

/-- The name of a member leg passes the test on keys. -/
def PathLeg.Passes (key : Bytes → Prop) : PathLeg → Prop
  | .member name => key name
  | .array _ => True

theorem Ordered.arrayAppend {values others : List Value}
    (ordered : ∀ value ∈ values, Ordered scalar key value)
    (new : ∀ value ∈ others, Ordered scalar key value) :
    Ordered scalar key (.array (values ++ others)) := by
  refine .array fun value mem => ?_
  rcases List.mem_append.1 mem with mem | mem
  · exact ordered value mem
  · exact new value mem

theorem forall_mem_singleton {value : Value} (ordered : Ordered scalar key value) :
    ∀ other ∈ [value], Ordered scalar key other := by
  intro other mem
  rw [List.mem_singleton.1 mem]
  exact ordered

theorem Ordered.pair {left right : Value} (leftOrdered : Ordered scalar key left)
    (rightOrdered : Ordered scalar key right) : Ordered scalar key (.array [left, right]) :=
  .arrayAppend (forall_mem_singleton leftOrdered) (forall_mem_singleton rightOrdered)

theorem storeSorted_ordered {members : List Member} {name : Bytes} {value : Value}
    (ordered : Ordered scalar key (.object members)) (passes : key name)
    (new : Ordered scalar key value) : Ordered scalar key (storeSorted members name value) :=
  (ordered.stored.2.append passes new).sort

section Legs

variable {value target updated : Value} {last : PathLeg}

theorem applyJsonSetLeg_ordered (new : Ordered scalar key value) (passes : last.Passes key)
    (ordered : Ordered scalar key target)
    (applied : applyJsonSetLeg value last target = some updated) :
    Ordered scalar key updated := by
  cases last with
  | member name =>
    cases target with
    | object members =>
      cases applied
      exact storeSorted_ordered ordered passes new
    | _ =>
      cases applied
      exact ordered
  | array index =>
    cases target with
    | array values =>
      cases applied
      split
      · exact ordered.setElement new index
      · exact .arrayAppend ordered.elements (forall_mem_singleton new)
    | _ =>
      cases applied
      split
      · exact new
      · exact ordered.pair new

theorem applyJsonInsertLeg_ordered (new : Ordered scalar key value) (passes : last.Passes key)
    (ordered : Ordered scalar key target)
    (applied : applyJsonInsertLeg value last target = some updated) :
    Ordered scalar key updated := by
  cases last with
  | member name =>
    cases target with
    | object members =>
      cases applied
      split
      · exact ordered
      · exact storeSorted_ordered ordered passes new
    | _ =>
      cases applied
      exact ordered
  | array index =>
    cases target with
    | array values =>
      cases applied
      split
      · exact ordered
      · exact .arrayAppend ordered.elements (forall_mem_singleton new)
    | _ =>
      cases applied
      split
      · exact ordered
      · exact ordered.pair new

theorem appendJsonArrayAppendValue_ordered (new : Ordered scalar key value)
    (ordered : Ordered scalar key target)
    (applied : appendJsonArrayAppendValue value target = some updated) :
    Ordered scalar key updated := by
  cases target with
  | array values =>
    cases applied
    exact .arrayAppend ordered.elements (forall_mem_singleton new)
  | _ =>
    cases applied
    exact ordered.pair new

theorem insertJsonArrayLeg_ordered (new : Ordered scalar key value)
    (ordered : Ordered scalar key target)
    (applied : insertJsonArrayLeg value last target = some updated) :
    Ordered scalar key updated := by
  cases last with
  | member name => cases applied
  | array index =>
    cases target with
    | array values =>
      cases applied
      split
      · exact .arrayAppend ordered.elements (forall_mem_singleton new)
      · refine .arrayAppend (fun other mem => ordered.elements other (List.mem_of_mem_take mem)) ?_
        intro other mem
        rcases List.mem_cons.1 mem with rfl | mem
        · exact new
        · exact ordered.elements other (List.mem_of_mem_drop mem)
    | _ =>
      cases applied
      exact ordered

theorem applyJsonReplaceLeg_ordered (new : Ordered scalar key value)
    (ordered : Ordered scalar key target)
    (applied : applyJsonReplaceLeg value last target = some updated) :
    Ordered scalar key updated := by
  cases last with
  | member name =>
    cases target with
    | object members =>
      cases applied
      split
      · rename_i present
        obtain ⟨old, found⟩ := Option.isSome_iff_exists.1 present
        exact ordered.replaceMember found new
      · exact ordered
    | _ =>
      cases applied
      exact ordered
  | array index =>
    cases target with
    | array values =>
      cases applied
      exact ordered.setElement new index
    | _ =>
      cases applied
      split
      · exact new
      · exact ordered

theorem applyJsonRemoveLeg_ordered (ordered : Ordered scalar key target)
    (applied : applyJsonRemoveLeg last target = some updated) : Ordered scalar key updated := by
  cases last with
  | member name =>
    cases target with
    | object members =>
      cases applied
      obtain ⟨sorted, stored⟩ := ordered.stored
      have after := stored.eraseP fun member => member.1 = name
      exact .object (sorted.sublist List.eraseP_sublist) after.keys after.items
    | _ =>
      cases applied
      exact ordered
  | array index =>
    cases target with
    | array values =>
      cases applied
      exact .array fun other mem => ordered.elements other (List.mem_of_mem_eraseIdx mem)
    | _ =>
      cases applied
      exact ordered

end Legs

theorem applyMutationPath_ordered {document value after : Value} {legs : List PathLeg}
    {mode : MutationMode} (passes : ∀ leg ∈ legs, leg.Passes key)
    (ordered : Ordered scalar key document) (new : Ordered scalar key value)
    (applied : applyMutationPath document legs value mode = some after) :
    Ordered scalar key after := by
  have atValue : ∀ root, some value = some root → Ordered scalar key root := by
    rintro root ⟨⟩
    exact new
  have atDocument : ∀ root, some document = some root → Ordered scalar key root := by
    rintro root ⟨⟩
    exact ordered
  have nowhere : ∀ root, none = some root → Ordered scalar key root := nofun
  cases mode with
  | set =>
    exact updateParent_ordered descendChild_keepsOrder
      (fun last mem _ _ => applyJsonSetLeg_ordered new (passes last mem)) atValue ordered applied
  | replace =>
    exact updateParent_ordered descendChild_keepsOrder
      (fun _ _ _ _ => applyJsonReplaceLeg_ordered new) atValue ordered applied
  | insert =>
    exact updateParent_ordered descendChild_keepsOrder
      (fun last mem _ _ => applyJsonInsertLeg_ordered new (passes last mem)) atDocument ordered
      applied
  | arrayAppend =>
    exact updateTarget_ordered descendWrapped_keepsOrder
      (fun _ _ => appendJsonArrayAppendValue_ordered new) ordered applied
  | arrayInsert =>
    exact updateParent_ordered descendChild_keepsOrder
      (fun _ _ _ _ => insertJsonArrayLeg_ordered new) nowhere ordered applied
  | remove =>
    exact updateParent_ordered descendWrapped_keepsOrder
      (fun _ _ _ _ => applyJsonRemoveLeg_ordered) nowhere ordered applied

/-! The merges. -/

theorem Ordered.autowrap {target source : Value} (left : Ordered scalar key target)
    (right : Ordered scalar key source) :
    Ordered scalar key (mergeJsonPreserveAutowrapValues target source) := by
  cases target with
  | array targets =>
    cases source with
    | array sources => exact .arrayAppend left.elements right.elements
    | _ => exact .arrayAppend left.elements (forall_mem_singleton right)
  | _ =>
    cases source with
    | array sources => exact .arrayAppend (forall_mem_singleton left) right.elements
    | _ => exact left.pair right

/-- Members that come one after the other are stored when each one is. -/
theorem foldl_stored {merge : List Member → Bytes → Value → List Member} {source : List Member}
    {target : List Member}
    (each : ∀ member ∈ source, ∀ target, Stored scalar key target →
      Stored scalar key (merge target member.1 member.2))
    (stored : Stored scalar key target) :
    Stored scalar key (source.foldl (fun target member => merge target member.1 member.2) target) := by
  induction source generalizing target with
  | nil => exact stored
  | cons member source ih =>
    exact ih (fun other mem => each other (List.mem_cons_of_mem _ mem))
      (each member (List.mem_cons_self ..) target stored)

theorem applyPatchMembers_eq_foldl (target patch : List Member) :
    applyPatchMembers target patch =
      patch.foldl (fun target member => applyPatchMember target member.1 member.2) target := by
  induction patch generalizing target with
  | nil => rw [applyPatchMembers, List.foldl_nil]
  | cons member patch ih => rw [applyPatchMembers, ih, List.foldl_cons]

theorem mergePreserveMembers_eq_foldl (target source : List Member) :
    mergePreserveMembers target source =
      source.foldl (fun target member => mergePreserveMember target member.1 member.2) target := by
  induction source generalizing target with
  | nil => rw [mergePreserveMembers, List.foldl_nil]
  | cons member source ih => rw [mergePreserveMembers, ih, List.foldl_cons]

theorem applyPatchMember_stored {patch : Value} {target : List Member} {name : Bytes}
    (ordered : Ordered scalar key patch) (passes : key name)
    (stored : Stored scalar key target) :
    Stored scalar key (applyPatchMember target name patch) := by
  induction ordered generalizing target name with
  | @scalar value leaf ok =>
    have appended := stored.append passes (.scalar leaf ok)
    cases value with
    | null =>
      rw [applyPatchMember]
      exact stored.eraseP _
    | array values => cases leaf
    | object members => cases leaf
    | _ =>
      rw [applyPatchMember]
      · exact appended
      all_goals nofun
  | array items ih =>
    rw [applyPatchMember]
    · exact stored.append passes (.array items)
    all_goals nofun
  | @object members sorted keys items ih =>
    rw [applyPatchMember]
    split
    · rename_i old found
      have before := (stored.items _ (mem_of_objectMemberValue found)).stored.2
      refine stored.append passes (Stored.sort ?_)
      rw [applyPatchMembers_eq_foldl]
      exact foldl_stored (fun member mem _ => ih member mem (keys member mem)) before
    · exact stored.append passes (.object sorted keys items)

/-- A source that is no object is appended, or wrapped with the value that is there. -/
theorem wrapMember_stored {target : List Member} {name : Bytes} {value : Value}
    (stored : Stored scalar key target) (passes : key name)
    (ordered : Ordered scalar key value) :
    Stored scalar key
      (match objectMemberValue target name with
      | none => objectAppendMember target name value
      | some found =>
        objectAppendMember target name (mergeJsonPreserveAutowrapValues found value)) := by
  split
  · exact stored.append passes ordered
  · rename_i found member
    have old := stored.items _ (mem_of_objectMemberValue member)
    exact stored.append passes (old.autowrap ordered)

theorem mergePreserveMember_stored {source : Value} {target : List Member} {name : Bytes}
    (ordered : Ordered scalar key source) (passes : key name)
    (stored : Stored scalar key target) :
    Stored scalar key (mergePreserveMember target name source) := by
  induction ordered generalizing target name with
  | @scalar value leaf ok =>
    cases value with
    | array values => cases leaf
    | object members => cases leaf
    | _ =>
      rw [mergePreserveMember]
      · exact wrapMember_stored stored passes (.scalar leaf ok)
      all_goals nofun
  | array items ih =>
    rw [mergePreserveMember]
    · exact wrapMember_stored stored passes (.array items)
    all_goals nofun
  | @object members sorted keys items ih =>
    have whole : Ordered scalar key (.object members) := .object sorted keys items
    rw [mergePreserveMember]
    split
    · exact stored.append passes whole
    · rename_i old found
      have before := (stored.items _ (mem_of_objectMemberValue found)).stored.2
      refine stored.append passes (Stored.sort ?_)
      rw [mergePreserveMembers_eq_foldl]
      exact foldl_stored (fun member mem _ => ih member mem (keys member mem)) before
    · rename_i found _ member
      have old := stored.items _ (mem_of_objectMemberValue member)
      exact stored.append passes (old.autowrap whole)

theorem mergeValues_ordered {mode : MergeMode} {target source : Value}
    (left : Ordered scalar key target) (right : Ordered scalar key source) :
    Ordered scalar key (mergeValues mode target source) := by
  cases mode with
  | patch =>
    have patched {members patch : List Member} (stored : Stored scalar key members)
        (ordered : Ordered scalar key (.object patch)) :
        Ordered scalar key (.object (applyJsonMergePatchObject members patch)) := by
      refine Stored.sort ?_
      rw [applyPatchMembers_eq_foldl]
      exact foldl_stored (fun member mem _ => applyPatchMember_stored
        (ordered.stored.2.items member mem) (ordered.stored.2.keys member mem)) stored
    cases source with
    | object patch =>
      cases target with
      | object members => exact patched left.stored.2 right
      | _ => exact patched .nil right
    | _ => exact right
  | preserve =>
    cases target with
    | object members =>
      cases source with
      | object sources =>
        refine Stored.sort ?_
        rw [mergePreserveMembers_eq_foldl]
        exact foldl_stored (fun member mem _ => mergePreserveMember_stored
          (right.stored.2.items member mem) (right.stored.2.keys member mem)) left.stored.2
      | _ => exact left.autowrap right
    | _ => exact left.autowrap right

end Ordered

end MyLite.Json
