import MyLite.Json.Produced
import MyLite.Json.SetExtract
import MyLite.Library.Keyed

/-! Merging as RFC 7396 says, and when `apply_json_merge_patch_value` does it: it copies a patch's
object as it stands where the target has none, so a null member in it stays. -/
namespace MyLite.Json

def Value.isNull : Value → Bool
  | .null => true
  | _ => false

def Value.isObject : Value → Bool
  | .object _ => true
  | _ => false

/-- The members of an object; any other value counts as an empty object. -/
def Value.members : Value → List Member
  | .object members => members
  | _ => []

mutual

/-- The function MergePatch of RFC 7396. The members of its object are put in display order. -/
def rfcMergePatch (target : Value) : Value → Value
  | .object patch => .object (sortObjectMembers (rfcMergeMembers target.members patch))
  | patch => patch

def rfcMergeMembers (target : List (Bytes × Value)) : List (Bytes × Value) → List (Bytes × Value)
  | [] => target
  | (key, value) :: rest =>
    rfcMergeMembers
      (if value.isNull then removeMember target key
      else
        objectAppendMember target key
          (rfcMergePatch ((objectMemberValue target key).getD .null) value))
      rest

end

mutual

/-- No object of the value, reached through objects, has a null member. -/
def nullFree : Value → Bool
  | .object members => nullFreeMembers members
  | _ => true

def nullFreeMembers : List (Bytes × Value) → Bool
  | [] => true
  | (_, value) :: rest => !value.isNull && nullFree value && nullFreeMembers rest

end

mutual

/-- Where the patch has an object in an object, the target has an object too, or the patch's
object has no null member in it. -/
def patchMeetsObjects (target : Value) : Value → Bool
  | .object patch => patchMembersMeetObjects target.members patch
  | _ => true

def patchMembersMeetObjects (target : List (Bytes × Value)) : List (Bytes × Value) → Bool
  | [] => true
  | (key, value) :: rest =>
    (if ((objectMemberValue target key).getD .null).isObject then
        patchMeetsObjects ((objectMemberValue target key).getD .null) value
      else nullFree value) &&
      patchMembersMeetObjects target rest

end

/-! Members that are merged one by one. -/

/-- One member is merged with what is stored under its key, and nothing else changes. -/
structure MergesMember (merge : List Member → Bytes → Value → List Member)
    (combine : Option Value → Value → Option Value) (value : Value) : Prop where
  nodup {members : List Member} (name : Bytes) (distinct : (members.map Prod.fst).Nodup) :
    ((merge members name value).map Prod.fst).Nodup
  lookup {members : List Member} (name other : Bytes) (distinct : (members.map Prod.fst).Nodup) :
    objectMemberValue (merge members name value) other =
      if other = name then combine (objectMemberValue members name) value
      else objectMemberValue members other

theorem objectMemberValue_eq_lookup (members : List Member) (name : Bytes) :
    objectMemberValue members name = (Keyed.lookup Prod.fst members name).map Prod.snd := rfl

theorem objectMemberValue_cons (member : Member) (members : List Member) (name : Bytes) :
    objectMemberValue (member :: members) name =
      if member.1 = name then some member.2 else objectMemberValue members name := by
  by_cases same : member.1 = name
  · simp [objectMemberValue, same]
  · simp [objectMemberValue, same]

theorem objectMemberValue_none {members : List Member} {name : Bytes}
    (absent : name ∉ members.map Prod.fst) : objectMemberValue members name = none := by
  cases found : objectMemberValue members name with
  | none => rfl
  | some value => exact absurd (List.mem_map_of_mem (mem_of_objectMemberValue found)) absent

theorem objectMemberValue_of_mem {members : List Member}
    (distinct : (members.map Prod.fst).Nodup) {member : Member} (mem : member ∈ members) :
    objectMemberValue members member.1 = some member.2 := by
  rw [objectMemberValue_eq_lookup, Keyed.lookup_of_mem distinct mem]
  rfl

theorem objectMemberValue_append_ite (members : List Member) (name other : Bytes)
    (value : Value) :
    objectMemberValue (objectAppendMember members name value) other =
      if other = name then some value else objectMemberValue members other := by
  by_cases same : other = name
  · rw [if_pos same, same]
    exact objectMemberValue_append members name value
  · rw [if_neg same]
    induction members with
    | nil =>
      rw [objectAppendMember, objectMemberValue_cons, if_neg (Ne.symm same)]
    | cons member members ih =>
      rw [objectAppendMember]
      split
      · rename_i here
        rw [objectMemberValue_cons, objectMemberValue_cons, if_neg, if_neg]
        · exact fun found => same (found.symm.trans here)
        · exact fun found => same (found.symm.trans here)
      · rw [objectMemberValue_cons, objectMemberValue_cons, ih]

theorem objectMemberValue_remove {members : List Member} (name other : Bytes)
    (distinct : (members.map Prod.fst).Nodup) :
    objectMemberValue (removeMember members name) other =
      if other = name then none else objectMemberValue members other := by
  rw [removeMember, Keyed.eraseP_eq_filter distinct]
  by_cases same : other = name
  · rw [if_pos same, same]
    apply objectMemberValue_none
    rintro member
    obtain ⟨kept, present, key⟩ := List.mem_map.mp member
    exact of_decide_eq_true (List.mem_filter.mp present).2 key
  · rw [if_neg same, objectMemberValue, List.find?_filter, objectMemberValue]
    congr 2
    funext member
    by_cases here : member.1 = other
    · simp [here, same]
    · simp [here]

/-- Merging all members of a patch with distinct keys. -/
theorem foldl_mergesMembers {merge : List Member → Bytes → Value → List Member}
    {combine : Option Value → Value → Option Value} {patch target : List Member}
    (merges : ∀ member ∈ patch, MergesMember merge combine member.2)
    (distinct : (target.map Prod.fst).Nodup) (patchDistinct : (patch.map Prod.fst).Nodup) :
    ((patch.foldl (fun target member => merge target member.1 member.2) target).map
        Prod.fst).Nodup ∧
      ∀ name, objectMemberValue
          (patch.foldl (fun target member => merge target member.1 member.2) target) name =
        match objectMemberValue patch name with
        | none => objectMemberValue target name
        | some value => combine (objectMemberValue target name) value := by
  induction patch generalizing target with
  | nil => exact ⟨distinct, fun name => rfl⟩
  | cons member patch ih =>
    have first := merges member (List.mem_cons_self ..)
    obtain ⟨fresh, patchDistinct⟩ := List.nodup_cons.mp patchDistinct
    obtain ⟨nodup, lookup⟩ := ih (fun other mem => merges other (List.mem_cons_of_mem _ mem))
      (first.nodup member.1 distinct) patchDistinct
    refine ⟨nodup, fun name => ?_⟩
    rw [List.foldl_cons, lookup, objectMemberValue_cons, first.lookup _ _ distinct]
    by_cases here : member.1 = name
    · subst here
      rw [objectMemberValue_none fresh, if_pos rfl, if_pos rfl]
    · rw [if_neg here, if_neg (Ne.symm here)]

/-- Objects in display order are equal when each key finds the same. -/
theorem SortedKeys.ext {left right : List Member} (leftSorted : SortedKeys left)
    (rightSorted : SortedKeys right)
    (same : ∀ name, objectMemberValue left name = objectMemberValue right name) :
    left = right := by
  have inside {first second : List Member} (firstSorted : SortedKeys first)
      (same : ∀ name, objectMemberValue first name = objectMemberValue second name)
      {member : Member} (mem : member ∈ first) : member ∈ second := by
    have found := objectMemberValue_of_mem firstSorted.nodup mem
    rw [same] at found
    exact mem_of_objectMemberValue found
  have perm : left.Perm right := by
    rw [List.perm_ext_iff_of_nodup leftSorted.nodup.of_map rightSorted.nodup.of_map]
    exact fun member => ⟨inside leftSorted same, inside rightSorted fun name => (same name).symm⟩
  refine perm.eq_of_pairwise ?_ leftSorted rightSorted
  intro first second _ _ less greater
  exact absurd rfl (less.trans greater).ne

/-! What a member's value becomes, in the code and in the RFC. -/

def patchedMember : Option Value → Value → Option Value
  | _, .null => none
  | some (.object members), .object patch =>
    some (.object (applyJsonMergePatchObject members patch))
  | _, value => some value

def rfcPatchedMember (old : Option Value) (value : Value) : Option Value :=
  if value.isNull then none else some (rfcMergePatch (old.getD .null) value)

theorem mergesMember_append (name : Bytes) {members : List Member} {value : Value}
    {combined : Option Value} (stores : combined = some value) (other : Bytes) :
    objectMemberValue (objectAppendMember members name value) other =
      if other = name then combined else objectMemberValue members other := by
  rw [stores, objectMemberValue_append_ite]

theorem removeMember_nodup (name : Bytes) {members : List Member}
    (distinct : (members.map Prod.fst).Nodup) :
    ((removeMember members name).map Prod.fst).Nodup :=
  distinct.sublist (List.eraseP_sublist.map Prod.fst)

theorem applyPatchMember_merges (value : Value) :
    MergesMember applyPatchMember patchedMember value := by
  have appended {value : Value} (plain : ∀ members name,
      applyPatchMember members name value = objectAppendMember members name value)
      (keeps : ∀ old, patchedMember old value = some value) :
      MergesMember applyPatchMember patchedMember value := by
    constructor
    · intro members name distinct
      rw [plain]
      exact objectAppendMember_nodup name value distinct
    · intro members name other distinct
      rw [plain]
      exact mergesMember_append name (keeps _) other
  cases value with
  | null =>
    constructor
    · intro members name distinct
      rw [applyPatchMember]
      exact removeMember_nodup name distinct
    · intro members name other distinct
      rw [applyPatchMember]
      exact objectMemberValue_remove name other distinct
  | object patch =>
    constructor
    · intro members name distinct
      rw [applyPatchMember]
      split
      · exact objectAppendMember_nodup name _ distinct
      · exact objectAppendMember_nodup name _ distinct
    · intro members name other distinct
      rw [applyPatchMember]
      split
      · rename_i old found
        exact mergesMember_append name (by rw [found]; rfl) other
      · rename_i noObject
        refine mergesMember_append name ?_ other
        cases found : objectMemberValue members name with
        | none => rfl
        | some old =>
          cases old with
          | object inner => exact absurd found (noObject inner)
          | _ => rfl
  | bool _ => exact appended (fun _ _ => rfl) fun _ => by simp [patchedMember]
  | number _ _ => exact appended (fun _ _ => rfl) fun _ => by simp [patchedMember]
  | string _ => exact appended (fun _ _ => rfl) fun _ => by simp [patchedMember]
  | array _ => exact appended (fun _ _ => rfl) fun _ => by simp [patchedMember]

/-- The step of MergePatch for one member. -/
def rfcMergeMember (target : List Member) (key : Bytes) (value : Value) : List Member :=
  if value.isNull then removeMember target key
  else
    objectAppendMember target key
      (rfcMergePatch ((objectMemberValue target key).getD .null) value)

theorem rfcMergeMembers_eq_foldl (target patch : List Member) :
    rfcMergeMembers target patch =
      patch.foldl (fun target member => rfcMergeMember target member.1 member.2) target := by
  induction patch generalizing target with
  | nil => rw [rfcMergeMembers, List.foldl_nil]
  | cons member patch ih =>
    rw [rfcMergeMembers, ih, List.foldl_cons]
    rfl

theorem rfcMergeMember_merges (value : Value) :
    MergesMember rfcMergeMember rfcPatchedMember value := by
  constructor
  · intro members name distinct
    unfold rfcMergeMember
    split
    · exact removeMember_nodup name distinct
    · exact objectAppendMember_nodup name _ distinct
  · intro members name other distinct
    unfold rfcMergeMember rfcPatchedMember
    split
    · exact objectMemberValue_remove name other distinct
    · exact objectMemberValue_append_ite members name other _

/-! Where the two agree. -/

theorem nullFreeMembers_iff (members : List Member) :
    nullFreeMembers members = true ↔
      ∀ member ∈ members, member.2.isNull = false ∧ nullFree member.2 = true := by
  induction members with
  | nil => simp [nullFreeMembers]
  | cons member members ih => simp [nullFreeMembers, ih, and_assoc]

theorem patchMembersMeetObjects_iff (target patch : List Member) :
    patchMembersMeetObjects target patch = true ↔
      ∀ member ∈ patch,
        (if ((objectMemberValue target member.1).getD .null).isObject then
          patchMeetsObjects ((objectMemberValue target member.1).getD .null) member.2
        else nullFree member.2) = true := by
  induction patch with
  | nil => simp [patchMembersMeetObjects]
  | cons member patch ih =>
    rw [patchMembersMeetObjects, Bool.and_eq_true, ih, List.forall_mem_cons]

/-- An object that holds what the members of a patch become, and the target's other members. -/
structure Merged (combine : Option Value → Value → Option Value) (target patch result : List Member) :
    Prop where
  sorted : SortedKeys result
  lookup (name : Bytes) : objectMemberValue result name =
    match objectMemberValue patch name with
    | none => objectMemberValue target name
    | some value => combine (objectMemberValue target name) value

theorem merged_foldl {merge : List Member → Bytes → Value → List Member}
    {combine : Option Value → Value → Option Value} {patch target : List Member}
    (merges : ∀ value, MergesMember merge combine value)
    (distinct : (target.map Prod.fst).Nodup) (patchDistinct : (patch.map Prod.fst).Nodup) :
    Merged combine target patch (sortObjectMembers
      (patch.foldl (fun target member => merge target member.1 member.2) target)) := by
  obtain ⟨nodup, lookup⟩ :=
    foldl_mergesMembers (fun member _ => merges member.2) distinct patchDistinct
  refine ⟨sortObjectMembers_sorted nodup, fun name => ?_⟩
  rw [objectMemberValue_sort, lookup]

/-- A patch is itself merged into the empty object when its members stay as they are. -/
theorem merged_self {patch : List Member} (sorted : SortedKeys patch) :
    Merged (fun _ value => some value) [] patch patch := by
  refine ⟨sorted, fun name => ?_⟩
  cases found : objectMemberValue patch name with
  | none => rfl
  | some value => rfl

/-- Two merges give the same object when every member of the patch becomes the same. -/
theorem Merged.eq_iff {combine other : Option Value → Value → Option Value}
    {target patch result otherResult : List Member} (merged : Merged combine target patch result)
    (otherMerged : Merged other target patch otherResult)
    (patchDistinct : (patch.map Prod.fst).Nodup) :
    result = otherResult ↔
      ∀ member ∈ patch,
        combine (objectMemberValue target member.1) member.2 =
          other (objectMemberValue target member.1) member.2 := by
  constructor
  · rintro rfl member mem
    have found := objectMemberValue_of_mem patchDistinct mem
    have here := (merged.lookup member.1).symm.trans (otherMerged.lookup member.1)
    rw [found] at here
    exact here
  · intro each
    refine merged.sorted.ext otherMerged.sorted ?_
    intro name
    rw [merged.lookup, otherMerged.lookup]
    cases found : objectMemberValue patch name with
    | none => rfl
    | some value => exact each _ (mem_of_objectMemberValue found)

theorem merged_rfc {target patch : List Member} (distinct : (target.map Prod.fst).Nodup)
    (patchDistinct : (patch.map Prod.fst).Nodup) :
    Merged rfcPatchedMember target patch (sortObjectMembers (rfcMergeMembers target patch)) := by
  rw [rfcMergeMembers_eq_foldl]
  exact merged_foldl rfcMergeMember_merges distinct patchDistinct

theorem merged_patch {target patch : List Member} (distinct : (target.map Prod.fst).Nodup)
    (patchDistinct : (patch.map Prod.fst).Nodup) :
    Merged patchedMember target patch (applyJsonMergePatchObject target patch) := by
  rw [applyJsonMergePatchObject, applyPatchMembers_eq_foldl]
  exact merged_foldl applyPatchMember_merges distinct patchDistinct

section Agree

variable {scalar : Value → Prop} {key : Bytes → Prop}

theorem rfcPatchedMember_eq_some_iff {old : Option Value} {value : Value} :
    rfcPatchedMember old value = some value ↔
      value.isNull = false ∧ rfcMergePatch (old.getD .null) value = value := by
  unfold rfcPatchedMember
  cases value.isNull with
  | true => simp
  | false => simp

/-- MergePatch of an object into what is no object returns it if it has no null members. -/
theorem rfcMergePatch_eq_self_iff {value target : Value} (ordered : Ordered scalar key value)
    (noObject : target.members = []) :
    rfcMergePatch target value = value ↔ nullFree value = true := by
  induction ordered generalizing target with
  | @scalar value leaf passes =>
    cases value with
    | object members => cases leaf
    | _ => simp [rfcMergePatch, nullFree]
  | array items ih => simp [rfcMergePatch, nullFree]
  | @object members sorted keys items ih =>
    have none : (([] : List Member).map Prod.fst).Nodup := List.nodup_nil
    rw [rfcMergePatch, nullFree, nullFreeMembers_iff, noObject, Value.object.injEq,
      (merged_rfc none sorted.nodup).eq_iff (merged_self sorted) sorted.nodup]
    refine forall₂_congr fun member mem => ?_
    rw [rfcPatchedMember_eq_some_iff, ih member mem rfl]

/-- A member of the patch becomes the same in the code and in the RFC. -/
theorem patchedMember_eq_iff {old : Option Value} {value : Value}
    (ordered : Ordered scalar key value)
    (inner : ∀ members, old = some (.object members) →
      (applyJsonMergePatchValue (.object members) value =
          rfcMergePatch (.object members) value ↔
        patchMeetsObjects (.object members) value = true)) :
    patchedMember old value = rfcPatchedMember old value ↔
      (if (old.getD .null).isObject then patchMeetsObjects (old.getD .null) value
      else nullFree value) = true := by
  cases value with
  | object patch =>
    have copied {old : Option Value} (noObject : (old.getD .null).members = []) :
        some (.object patch) = rfcPatchedMember old (.object patch) ↔
          nullFree (.object patch) = true := by
      rw [eq_comm, rfcPatchedMember_eq_some_iff, rfcMergePatch_eq_self_iff ordered noObject]
      exact and_iff_right rfl
    cases old with
    | none => exact copied rfl
    | some old =>
      cases old with
      | object members => exact Option.some_inj.trans (inner members rfl)
      | _ => exact copied rfl
  | _ =>
    simp [patchedMember, rfcPatchedMember, Value.isNull, rfcMergePatch, nullFree,
      patchMeetsObjects]

theorem applyJsonMergePatchValue_object (target : Value) (patch : List Member) :
    applyJsonMergePatchValue target (.object patch) =
      .object (applyJsonMergePatchObject target.members patch) := by
  cases target <;> rfl

theorem Ordered.members_stored {value : Value} (ordered : Ordered scalar key value) :
    Stored scalar key value.members := by
  cases value with
  | object members => exact ordered.stored.2
  | _ => exact .nil

/-- The code does what the RFC says if and only if wherever the patch has an object in an object,
the target has one there too, or the patch's object has no null member. -/
theorem applyJsonMergePatchValue_eq_iff {target patch : Value}
    (targetOrdered : Ordered scalar key target) (ordered : Ordered scalar key patch) :
    applyJsonMergePatchValue target patch = rfcMergePatch target patch ↔
      patchMeetsObjects target patch = true := by
  induction ordered generalizing target with
  | @scalar patch leaf passes =>
    cases patch with
    | object members => cases leaf
    | _ => simp [applyJsonMergePatchValue, rfcMergePatch, patchMeetsObjects]
  | array items ih => simp [applyJsonMergePatchValue, rfcMergePatch, patchMeetsObjects]
  | @object patch sorted keys items ih =>
    have stored := targetOrdered.members_stored
    rw [applyJsonMergePatchValue_object, rfcMergePatch, patchMeetsObjects,
      patchMembersMeetObjects_iff, Value.object.injEq,
      (merged_patch stored.nodup sorted.nodup).eq_iff (merged_rfc stored.nodup sorted.nodup)
        sorted.nodup]
    refine forall₂_congr fun member mem => ?_
    refine patchedMember_eq_iff (items member mem) fun members found => ?_
    exact ih member mem (stored.items _ (mem_of_objectMemberValue found))

end Agree

/-- JSON_MERGE_PATCH of two parsed documents is MergePatch of RFC 7396 if and only if wherever the
patch has an object in an object, the target has one there too, or the patch's object has no null
member. -/
theorem applyJsonMergePatchValue_eq_rfc_iff (parsesDouble : Bytes → Bool)
    {targetText patchText : Bytes} {target patch : Value}
    (targetParsed : parseDocument parsesDouble targetText = .ok target)
    (patchParsed : parseDocument parsesDouble patchText = .ok patch) :
    applyJsonMergePatchValue target patch = rfcMergePatch target patch ↔
      patchMeetsObjects target patch = true :=
  applyJsonMergePatchValue_eq_iff (parseDocument_printable targetParsed).readable
    (parseDocument_printable patchParsed).readable

/-- What two documents make of each other, if both are parsed. -/
def withParsed {Result : Type} (targetText patchText : Bytes) (use : Value → Value → Result) :
    Option Result :=
  (parseDocument (fun _ => true) targetText).toOption.bind fun target =>
    (parseDocument (fun _ => true) patchText).toOption.map (use target)

theorem withParsed_some {Result : Type} {targetText patchText : Bytes}
    {use : Value → Value → Result} {result : Result}
    (parsed : withParsed targetText patchText use = some result) :
    ∃ target patch, parseDocument (fun _ => true) targetText = .ok target ∧
      parseDocument (fun _ => true) patchText = .ok patch ∧ use target patch = result := by
  unfold withParsed at parsed
  cases target : parseDocument (fun _ => true) targetText with
  | error failure =>
    rw [target] at parsed
    cases parsed
  | ok targetValue =>
    cases patch : parseDocument (fun _ => true) patchText with
    | error failure =>
      rw [target, patch] at parsed
      cases parsed
    | ok patchValue =>
      rw [target, patch] at parsed
      exact ⟨targetValue, patchValue, rfl, rfl, Option.some.inj parsed⟩

/-- `{"a":{"b":1}}`. -/
def nestedText : Bytes :=
  [0x7b, 0x22, 0x61, 0x22, 0x3a, 0x7b, 0x22, 0x62, 0x22, 0x3a, 0x31, 0x7d, 0x7d]

/-- `{"a":{"b":null}}`. -/
def nestedNullText : Bytes :=
  [0x7b, 0x22, 0x61, 0x22, 0x3a, 0x7b, 0x22, 0x62, 0x22, 0x3a, 0x6e, 0x75, 0x6c, 0x6c, 0x7d, 0x7d]

/-- `{}`. -/
def emptyObjectText : Bytes := [0x7b, 0x7d]

theorem applyJsonMergePatchValue_eq_rfc_nested :
    ∃ target patch, parseDocument (fun _ => true) nestedText = .ok target ∧
      parseDocument (fun _ => true) nestedNullText = .ok patch ∧
      applyJsonMergePatchValue target patch = rfcMergePatch target patch := by
  have meets : withParsed nestedText nestedNullText patchMeetsObjects = some true := by
    decide +kernel
  obtain ⟨target, patch, targetParsed, patchParsed, meets⟩ := withParsed_some meets
  exact ⟨target, patch, targetParsed, patchParsed,
    (applyJsonMergePatchValue_eq_rfc_iff (fun _ => true) targetParsed patchParsed).mpr meets⟩

/-- `{"a":{"b":null}}` merged into `{}` keeps the null that the RFC drops. -/
theorem nested_null_is_copied :
    ¬∀ targetText patchText target patch,
      parseDocument (fun _ => true) targetText = .ok target →
      parseDocument (fun _ => true) patchText = .ok patch →
      applyJsonMergePatchValue target patch = rfcMergePatch target patch := by
  intro claimed
  have differ : withParsed emptyObjectText nestedNullText (fun target patch =>
      decide (emitValue (applyJsonMergePatchValue target patch) =
        emitValue (rfcMergePatch target patch))) = some false := by
    decide +kernel
  obtain ⟨target, patch, targetParsed, patchParsed, differ⟩ := withParsed_some differ
  exact of_decide_eq_false differ (congrArg emitValue (claimed _ _ _ _ targetParsed patchParsed))

end MyLite.Json
