import MyLite.Library.Lexicographic
import Mathlib.Data.List.Sort
import Mathlib.Data.List.Nodup

/-! The JSON document values of `mylite_json_dom.c`: members of an object are stored in a list,
in MySQL's display order of their keys. -/
namespace MyLite.Json

abbrev Bytes := List UInt8

inductive NumberKind where
  | integer
  | double
  deriving DecidableEq, Repr

/-- A document value. A number keeps its spelling. -/
inductive Value where
  | null
  | bool (boolean : Bool)
  | number (kind : NumberKind) (text : Bytes)
  | string (text : Bytes)
  | array (values : List Value)
  | object (members : List (Bytes × Value))
  deriving Repr, BEq

abbrev Member := Bytes × Value

/-- Induction on a value from the values inside it. -/
@[elab_as_elim]
theorem Value.inductionOn {motive : Value → Prop} (value : Value) (null : motive .null)
    (bool : ∀ boolean, motive (.bool boolean)) (number : ∀ kind text, motive (.number kind text))
    (string : ∀ text, motive (.string text))
    (array : ∀ values, (∀ value ∈ values, motive value) → motive (.array values))
    (object : ∀ members : List Member, (∀ member ∈ members, motive member.2) →
      motive (.object members)) : motive value := by
  induction size : sizeOf value using Nat.strongRecOn generalizing value with
  | ind size ih =>
    cases value with
    | null => exact null
    | bool boolean => exact bool boolean
    | number kind text => exact number kind text
    | string text => exact string text
    | array values =>
      refine array values fun value mem => ih _ ?_ value rfl
      have smaller := List.sizeOf_lt_of_mem mem
      rw [Value.array.sizeOf_spec] at size
      omega
    | object members =>
      refine object members ?_
      rintro ⟨name, value⟩ mem
      refine ih _ ?_ value rfl
      have smaller := List.sizeOf_lt_of_mem mem
      rw [Prod.mk.sizeOf_spec] at smaller
      rw [Value.object.sizeOf_spec] at size
      omega

/-- Display order of keys: shorter keys first, then by bytes. -/
def compareObjectMemberKeys (left right : Bytes) : Ordering :=
  (compare left.length right.length).then (Lexicographic.sharedOrder left right)

def objectMemberIsAfter (left right : Member) : Bool :=
  compareObjectMemberKeys left.1 right.1 = .gt

/-- Stores a member, replacing the value of a key that is already there. -/
def objectAppendMember : List Member → Bytes → Value → List Member
  | [], key, value => [(key, value)]
  | member :: members, key, value =>
    if member.1 = key then (member.1, value) :: members
    else member :: objectAppendMember members key value

/-- One round of the insertion sort. The sorted members are given from the last one back, as the
loop walks them. -/
def insertMember (member : Member) : List Member → List Member
  | [] => [member]
  | last :: before =>
    if objectMemberIsAfter last member then last :: insertMember member before
    else member :: last :: before

def sortObjectMembers (members : List Member) : List Member :=
  (members.foldl (fun sorted member => insertMember member sorted) []).reverse

def objectMemberValue (members : List Member) (key : Bytes) : Option Value :=
  (members.find? (fun member => member.1 = key)).map Prod.snd

/-! The key order is a strict linear order. -/

def KeyLt (left right : Bytes) : Prop :=
  compareObjectMemberKeys left right = .lt

theorem compareObjectMemberKeys_eq (left right : Bytes) :
    compareObjectMemberKeys left right =
      compareLex (compareOn List.length) compare left right := by
  rw [compareObjectMemberKeys, compareLex, compareOn]
  cases lengths : compare left.length right.length with
  | lt => rfl
  | gt => rfl
  | eq => rw [Lexicographic.sharedOrder_eq_compare _ _ (Nat.compare_eq_eq.1 lengths)]

theorem compareObjectMemberKeys_swap (left right : Bytes) :
    (compareObjectMemberKeys left right).swap = compareObjectMemberKeys right left := by
  simp only [compareObjectMemberKeys_eq]
  exact Std.OrientedCmp.eq_swap.symm

theorem compareObjectMemberKeys_eq_iff (left right : Bytes) :
    compareObjectMemberKeys left right = .eq ↔ left = right := by
  rw [compareObjectMemberKeys_eq]
  constructor
  · intro same
    rw [compareLex, Ordering.then_eq_eq] at same
    exact Std.LawfulEqCmp.eq_of_compare same.2
  · rintro rfl
    exact Std.ReflCmp.compare_self

theorem KeyLt.trans {left middle right : Bytes} (first : KeyLt left middle)
    (second : KeyLt middle right) : KeyLt left right := by
  simp only [KeyLt, compareObjectMemberKeys_eq] at *
  exact Std.TransCmp.lt_trans first second

theorem KeyLt.ne {left right : Bytes} (less : KeyLt left right) : left ≠ right := by
  rintro rfl
  rw [KeyLt, (compareObjectMemberKeys_eq_iff left left).2 rfl] at less
  cases less

/-- The members are stored in strictly increasing key order, so no key occurs twice. -/
def SortedKeys (members : List Member) : Prop :=
  members.Pairwise fun left right => KeyLt left.1 right.1

theorem SortedKeys.nodup {members : List Member} (sorted : SortedKeys members) :
    (members.map Prod.fst).Nodup := by
  rw [List.Nodup, List.pairwise_map]
  exact List.Pairwise.imp (fun less => less.ne) sorted

/-! Storing a member keeps the keys distinct. -/

theorem objectAppendMember_of_mem {members : List Member} {key : Bytes} (value : Value)
    (mem : key ∈ members.map Prod.fst) :
    (objectAppendMember members key value).map Prod.fst = members.map Prod.fst := by
  induction members with
  | nil => cases mem
  | cons member members ih =>
    rw [objectAppendMember]
    split
    · rfl
    · rename_i other
      rw [List.map_cons, List.mem_cons] at mem
      rcases mem with same | mem
      · exact absurd same.symm other
      · rw [List.map_cons, List.map_cons, ih mem]

theorem objectAppendMember_of_notMem {members : List Member} {key : Bytes} (value : Value)
    (new : key ∉ members.map Prod.fst) :
    objectAppendMember members key value = members ++ [(key, value)] := by
  induction members with
  | nil => rfl
  | cons member members ih =>
    rw [List.map_cons, List.mem_cons, not_or] at new
    rw [objectAppendMember, if_neg (Ne.symm new.1), ih new.2, List.cons_append]

theorem objectAppendMember_nodup {members : List Member} (key : Bytes) (value : Value)
    (nodup : (members.map Prod.fst).Nodup) :
    ((objectAppendMember members key value).map Prod.fst).Nodup := by
  by_cases mem : key ∈ members.map Prod.fst
  · rw [objectAppendMember_of_mem value mem]
    exact nodup
  · rw [objectAppendMember_of_notMem value mem, List.map_append, List.nodup_append]
    refine ⟨nodup, by simp, ?_⟩
    intro other inMembers last inLast same
    simp only [List.map_cons, List.map_nil, List.mem_singleton] at inLast
    exact mem (inLast ▸ same ▸ inMembers)

theorem mem_objectAppendMember {members : List Member} {key : Bytes} {value : Value}
    {member : Member} (mem : member ∈ objectAppendMember members key value) :
    member.2 = value ∧ member.1 = key ∨ member ∈ members := by
  induction members with
  | nil =>
    simp only [objectAppendMember, List.mem_singleton] at mem
    subst mem
    exact .inl ⟨rfl, rfl⟩
  | cons first members ih =>
    rw [objectAppendMember] at mem
    split at mem
    · rename_i same
      rcases List.mem_cons.1 mem with rfl | mem
      · exact .inl ⟨rfl, same⟩
      · exact .inr (List.mem_cons_of_mem _ mem)
    · rcases List.mem_cons.1 mem with rfl | mem
      · exact .inr (List.mem_cons_self ..)
      · exact (ih mem).imp_right (List.mem_cons_of_mem _)

/-! The sort restores the order. -/

/-- The relation the walk stops at: `member` belongs right after `last`. -/
def Follows (member last : Member) : Prop :=
  objectMemberIsAfter last member = false

instance : DecidableRel Follows := fun member last =>
  inferInstanceAs (Decidable (objectMemberIsAfter last member = false))

theorem follows_iff (member last : Member) :
    Follows member last ↔ (KeyLt last.1 member.1 ∨ last.1 = member.1) := by
  rw [Follows, objectMemberIsAfter, decide_eq_false_iff_not, KeyLt,
    ← compareObjectMemberKeys_eq_iff]
  cases compareObjectMemberKeys last.1 member.1 <;> simp

instance : Std.Total Follows where
  total member last := by
    rw [follows_iff, follows_iff]
    have swapped := compareObjectMemberKeys_swap last.1 member.1
    simp only [KeyLt, ← compareObjectMemberKeys_eq_iff]
    rw [← swapped]
    cases compareObjectMemberKeys last.1 member.1 <;> simp

instance : IsTrans Member Follows where
  trans first second third firstSecond secondThird := by
    rw [follows_iff] at *
    rcases firstSecond with less | same
    · rcases secondThird with less' | same'
      · exact .inl (less'.trans less)
      · exact .inl (same' ▸ less)
    · rw [← same]
      exact secondThird

theorem insertMember_eq (member : Member) (sorted : List Member) :
    insertMember member sorted = sorted.orderedInsert Follows member := by
  induction sorted with
  | nil => rfl
  | cons last before ih =>
    rw [insertMember, List.orderedInsert_cons, ih]
    cases after : objectMemberIsAfter last member <;> simp [Follows, after]

theorem sortObjectMembers_eq (members : List Member) :
    sortObjectMembers members = (members.reverse.insertionSort Follows).reverse := by
  rw [sortObjectMembers, ← List.foldr_reverse]
  congr 1
  induction members.reverse with
  | nil => rfl
  | cons member members ih =>
    rw [List.foldr_cons, ih, List.insertionSort_cons, insertMember_eq]

theorem sortObjectMembers_perm (members : List Member) :
    (sortObjectMembers members).Perm members := by
  rw [sortObjectMembers_eq]
  exact (List.reverse_perm _).trans
    ((List.perm_insertionSort _ _).trans (List.reverse_perm _))

theorem mem_sortObjectMembers {members : List Member} {member : Member} :
    member ∈ sortObjectMembers members ↔ member ∈ members :=
  (sortObjectMembers_perm members).mem_iff

/-- Distinct keys are sorted strictly. -/
theorem sortObjectMembers_sorted {members : List Member}
    (nodup : (members.map Prod.fst).Nodup) : SortedKeys (sortObjectMembers members) := by
  have weak : (sortObjectMembers members).Pairwise fun left right => Follows right left := by
    rw [sortObjectMembers_eq, List.pairwise_reverse]
    exact List.pairwise_insertionSort Follows members.reverse
  have distinct : ((sortObjectMembers members).map Prod.fst).Nodup :=
    ((sortObjectMembers_perm members).map Prod.fst).nodup_iff.2 nodup
  rw [List.Nodup, List.pairwise_map] at distinct
  refine (weak.and distinct).imp ?_
  rintro left right ⟨follows, different⟩
  exact ((follows_iff right left).1 follows).resolve_right different

theorem SortedKeys.sort_eq {members : List Member} (sorted : SortedKeys members) :
    sortObjectMembers members = members := by
  have descending : members.reverse.Pairwise Follows := by
    rw [List.pairwise_reverse]
    exact sorted.imp fun less => (follows_iff _ _).2 (.inl less)
  rw [sortObjectMembers_eq, descending.insertionSort_eq, List.reverse_reverse]

end MyLite.Json
