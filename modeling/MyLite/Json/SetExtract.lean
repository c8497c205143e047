import MyLite.Json.Mutation
import MyLite.Json.PathAgreement

/-! Extraction after a set finds the value at the path, when the path's parent can take it. -/
namespace MyLite.Json

/-! Looking up what was stored. -/

theorem objectMemberValue_append (members : List Member) (name : Bytes) (value : Value) :
    objectMemberValue (objectAppendMember members name value) name = some value := by
  induction members with
  | nil => simp [objectAppendMember, objectMemberValue]
  | cons member members ih =>
    rw [objectAppendMember]
    split
    · rename_i same
      simp [objectMemberValue, same]
    · rename_i other
      simpa [objectMemberValue, other] using ih

theorem objectAppendMember_self {members : List Member} {name : Bytes} {value : Value}
    (found : objectMemberValue members name = some value) :
    objectAppendMember members name value = members := by
  induction members with
  | nil => cases found
  | cons member members ih =>
    rw [objectAppendMember]
    split
    · rename_i same
      simp only [objectMemberValue, List.find?_cons, same, decide_true, Option.map_some,
        Option.some.injEq] at found
      rw [← found]
    · rename_i other
      simp only [objectMemberValue, List.find?_cons, other, decide_false] at found
      rw [ih found]

/-- The sort is stable, so a key finds what it found before. -/
theorem objectMemberValue_sort (members : List Member) (name : Bytes) :
    objectMemberValue (sortObjectMembers members) name = objectMemberValue members name := by
  have chosen : (members.reverse.filter fun member => member.1 = name).Sublist
      (members.reverse.insertionSort Follows) := by
    refine List.sublist_insertionSort ?_ List.filter_sublist
    refine List.Pairwise.imp_of_mem ?_ (List.pairwise_of_forall fun _ _ => trivial)
    intro left right leftMem rightMem _
    have leftKey := of_decide_eq_true (List.mem_filter.1 leftMem).2
    have rightKey := of_decide_eq_true (List.mem_filter.1 rightMem).2
    exact (follows_iff left right).2 (.inr (rightKey.trans leftKey.symm))
  have sameReversed : (members.reverse.filter fun member => member.1 = name) =
      (members.reverse.insertionSort Follows).filter fun member => member.1 = name := by
    have inside := chosen.filter fun member => member.1 = name
    rw [List.filter_filter] at inside
    simp only [Bool.and_self] at inside
    refine inside.eq_of_length ?_
    exact ((List.perm_insertionSort Follows members.reverse).filter _).length_eq.symm
  have same : (sortObjectMembers members).filter (fun member => member.1 = name) =
      members.filter fun member => member.1 = name := by
    rw [sortObjectMembers_eq, List.filter_reverse, ← sameReversed, List.filter_reverse,
      List.reverse_reverse]
  simp only [objectMemberValue, ← List.head?_filter, same]

/-! Following the legs of a set. -/

theorem foldl_followLeg_none (legs : List PathLeg) : legs.foldl followLeg none = none := by
  induction legs with
  | nil => rfl
  | cons leg legs ih => exact ih

theorem Value.child_putChild {value old new : Value} {leg : PathLeg}
    (found : value.child leg = some old) : (value.putChild leg new).child leg = some new := by
  cases value with
  | array values =>
    cases leg with
    | member name => cases found
    | array index =>
      obtain ⟨inside, -⟩ := List.getElem?_eq_some_iff.1 found
      exact List.getElem?_set_self inside
  | object members =>
    cases leg with
    | member name => exact objectMemberValue_append members name new
    | array index => cases found
  | _ => cases leg <;> cases found

theorem Value.putChild_self {value old : Value} {leg : PathLeg}
    (found : value.child leg = some old) : value.putChild leg old = value := by
  cases value with
  | array values =>
    cases leg with
    | member name => cases found
    | array index =>
      obtain ⟨inside, same⟩ := List.getElem?_eq_some_iff.1 found
      rw [Value.putChild, ← same, List.set_getElem_self]
  | object members =>
    cases leg with
    | member name => rw [Value.putChild, objectAppendMember_self found]
    | array index => cases found
  | _ => cases leg <;> cases found

/-- The legs lead to the updated value after the update. -/
theorem updateTarget_reached {update : Value → Option Value} {legs : List PathLeg}
    {document parent updated : Value}
    (reached : legs.foldl followLeg (some document) = some parent)
    (done : update parent = some updated) :
    ∃ after, updateTarget descendChild update legs document = some after ∧
      legs.foldl followLeg (some after) = some updated := by
  induction legs generalizing document with
  | nil =>
    cases reached
    exact ⟨updated, done, rfl⟩
  | cons leg legs ih =>
    rw [List.foldl_cons, followLeg, Option.bind_some] at reached
    cases found : document.child leg with
    | none =>
      rw [found, foldl_followLeg_none] at reached
      cases reached
    | some child =>
      rw [found] at reached
      obtain ⟨inner, update, follow⟩ := ih reached
      refine ⟨document.putChild leg inner, ?_, ?_⟩
      · rw [updateTarget, descendChild, found]
        simp only [Option.map_some, update]
      · rw [List.foldl_cons, followLeg, Option.bind_some, Value.child_putChild found]
        exact follow

/-- Legs that lead nowhere leave the document as it is. -/
theorem updateTarget_unreached {update : Value → Option Value} {legs : List PathLeg}
    {document : Value} (unreached : legs.foldl followLeg (some document) = none) :
    updateTarget descendChild update legs document = some document := by
  induction legs generalizing document with
  | nil => cases unreached
  | cons leg legs ih =>
    rw [List.foldl_cons, followLeg, Option.bind_some] at unreached
    cases found : document.child leg with
    | none => rw [updateTarget, descendChild, found, Option.map_none]
    | some child =>
      rw [found] at unreached
      rw [updateTarget, descendChild, found]
      simp only [Option.map_some, ih unreached, Value.putChild_self found]

/-- A parent that takes a value at its last leg and gives it back there: an object takes a member,
an array takes an element up to its end, and any other value takes a second element. -/
def Value.Takes : Value → PathLeg → Prop
  | .object _, .member _ => True
  | _, .member _ => False
  | .array values, .array index => index ≤ values.length
  | _, .array index => index = 1

theorem Value.child_ne_self (value : Value) (leg : PathLeg) : value.child leg ≠ some value := by
  intro found
  cases value with
  | array values =>
    cases leg with
    | member name => cases found
    | array index =>
      have smaller := List.sizeOf_lt_of_mem (List.mem_of_getElem? found)
      simp only [Value.array.sizeOf_spec] at smaller
      omega
  | object members =>
    cases leg with
    | member name =>
      rw [Value.child, objectMemberValue, Option.map_eq_some_iff] at found
      obtain ⟨⟨key, child⟩, first, same⟩ := found
      have smaller := List.sizeOf_lt_of_mem (List.mem_of_find?_eq_some first)
      dsimp only at same
      rw [same] at smaller
      simp only [Prod.mk.sizeOf_spec, Value.object.sizeOf_spec] at smaller
      omega
    | array index => cases found
  | _ => cases leg <;> cases found

/-- The last leg leads to the value set, when the parent takes it. -/
theorem applyJsonSetLeg_child (value parent : Value) (last : PathLeg) :
    ∃ updated, applyJsonSetLeg value last parent = some updated ∧
      (updated.child last = some value ↔ parent.Takes last) := by
  cases last with
  | member name =>
    cases parent with
    | object members =>
      refine ⟨_, rfl, iff_of_true ?_ trivial⟩
      rw [storeSorted, Value.child, objectMemberValue_sort]
      exact objectMemberValue_append members name value
    | _ => exact ⟨_, rfl, iff_of_false nofun id⟩
  | array index =>
    cases parent with
    | array values =>
      refine ⟨_, rfl, ?_⟩
      simp only [Value.child, Value.Takes]
      split
      · rename_i inside
        exact iff_of_true (List.getElem?_set_self inside) (Nat.le_of_lt inside)
      · rename_i outside
        rcases Nat.lt_or_ge values.length index with beyond | atEnd
        · refine iff_of_false ?_ (Nat.not_le.2 beyond)
          rw [List.getElem?_eq_none (by rw [List.length_append]; exact beyond)]
          exact nofun
        · have same : index = values.length := Nat.le_antisymm atEnd (Nat.not_lt.1 outside)
          subst same
          exact iff_of_true List.getElem?_concat_length (Nat.le_refl _)
    | _ =>
      refine ⟨_, rfl, ?_⟩
      simp only [Value.Takes]
      split
      · rename_i zero
        refine iff_of_false (Value.child_ne_self value _) ?_
        omega
      · match index with
        | 0 => contradiction
        | 1 => exact iff_of_true rfl rfl
        | index + 2 => exact iff_of_false nofun (by omega)

/-- The path is `$`, or its parent is there and takes the last leg. -/
def Value.TakesPath (document : Value) (legs : List PathLeg) : Prop :=
  match legs.getLast? with
  | none => True
  | some last => ∃ parent, legs.dropLast.foldl followLeg (some document) = some parent ∧
      parent.Takes last

/-- Setting gives a document, and the legs lead to the value in it exactly when the path takes the
value. -/
theorem applyJsonSetPath_follow (document value : Value) (legs : List PathLeg) :
    ∃ after, applyJsonSetPath document legs value = some after ∧
      (legs.foldl followLeg (some after) = some value ↔ document.TakesPath legs) := by
  rw [applyJsonSetPath, updateParent, Value.TakesPath]
  cases isLast : legs.getLast? with
  | none =>
    rw [List.getLast?_eq_none_iff] at isLast
    subst isLast
    exact ⟨value, rfl, iff_of_true rfl trivial⟩
  | some last =>
    have split : legs = legs.dropLast ++ [last] :=
      (List.dropLast_append_getLast? last isLast).symm
    have follow (after : Value) : legs.foldl followLeg (some after) =
        followLeg (legs.dropLast.foldl followLeg (some after)) last := by
      conv_lhs => rw [split]
      rw [List.foldl_append, List.foldl_cons, List.foldl_nil]
    simp only [follow]
    cases reached : legs.dropLast.foldl followLeg (some document) with
    | none =>
      refine ⟨document, updateTarget_unreached reached, iff_of_false ?_ ?_⟩
      · rw [reached]
        exact nofun
      · rintro ⟨parent, same, -⟩
        cases same
    | some parent =>
      obtain ⟨updated, done, child⟩ := applyJsonSetLeg_child value parent last
      obtain ⟨after, update, reaches⟩ := updateTarget_reached reached done
      refine ⟨after, update, ?_⟩
      rw [reaches, followLeg, Option.bind_some, child]
      constructor
      · exact fun takes => ⟨parent, rfl, takes⟩
      · rintro ⟨other, same, takes⟩
        cases same
        exact takes

/-- Extraction accepts the paths mutation accepts, but for leading zeros in an index; it follows
the same legs; and it finds what a set stored exactly when the path's parent takes the value. -/
theorem pathParsers_agree (path : Bytes) :
    (∀ root, (∃ result, extractPathValue root path = .ok result) ↔
      (∃ legs, parseSetPath path = .ok legs) ∧ ¬HasLeadingZeroIndex path) ∧
    ∀ legs, parseSetPath path = .ok legs → ¬HasLeadingZeroIndex path →
      (∀ root, extractPathValue root path = .ok (legs.foldl followLeg root)) ∧
      ∀ document value, ∃ after, applyJsonSetPath document legs value = some after ∧
        (extractPathValue (some after) path = .ok (some value) ↔ document.TakesPath legs) := by
  have follows (legs : List PathLeg) (accepted : parseSetPath path = .ok legs)
      (noZero : ¬HasLeadingZeroIndex path) (root : Option Value) :
      extractPathValue root path = .ok (legs.foldl followLeg root) :=
    extractPathValue_eq_legs.2 ⟨legs, accepted, noZero, rfl⟩
  refine ⟨?_, ?_⟩
  · intro root
    constructor
    · rintro ⟨result, extracted⟩
      obtain ⟨legs, accepted, noZero, -⟩ := extractPathValue_eq_legs.1 extracted
      exact ⟨⟨legs, accepted⟩, noZero⟩
    · rintro ⟨⟨legs, accepted⟩, noZero⟩
      exact ⟨_, follows legs accepted noZero root⟩
  · intro legs accepted noZero
    refine ⟨follows legs accepted noZero, ?_⟩
    intro document value
    obtain ⟨after, set, found⟩ := applyJsonSetPath_follow document value legs
    refine ⟨after, set, ?_⟩
    rw [follows legs accepted noZero, Except.ok.injEq, found]

/-- `$.a[0]` on `{"a": []}`. -/
theorem pathParsers_agree_element :
    ∃ after, applyJsonSetPath (.object [([0x61], .array [])]) [.member [0x61], .array 0]
        (.bool true) = some after ∧
      extractPathValue (some after) [0x24, 0x2e, 0x61, 0x5b, 0x30, 0x5d] = .ok (some (.bool true)) := by
  have accepted : parseSetPath [0x24, 0x2e, 0x61, 0x5b, 0x30, 0x5d] =
      .ok [.member [0x61], .array 0] := by
    decide +kernel
  have both := pathParsers_agree [0x24, 0x2e, 0x61, 0x5b, 0x30, 0x5d]
  have valid : (extractPathValue none [0x24, 0x2e, 0x61, 0x5b, 0x30, 0x5d]).map Option.isSome =
      .ok false := by
    decide +kernel
  obtain ⟨result, extracted, -⟩ := map_ok valid
  obtain ⟨after, set, found⟩ := (both.2 _ accepted ((both.1 none).1 ⟨result, extracted⟩).2).2
    (.object [([0x61], .array [])]) (.bool true)
  exact ⟨after, set, found.2 ⟨.array [], rfl, Nat.zero_le _⟩⟩

/-- Mutation accepts `$[01]`, and a set at `$[5]` in `[]` stores the value at its end. -/
theorem pathParsers_disagree :
    ¬(∀ path, (∃ legs, parseSetPath path = .ok legs) ↔
      ∃ result, extractPathValue none path = .ok result) ∧
    ¬∀ path legs last document parent value after, parseSetPath path = .ok (legs ++ [last]) →
      legs.foldl followLeg (some document) = some parent →
      applyJsonSetPath document (legs ++ [last]) value = some after →
      extractPathValue (some after) path = .ok (some value) := by
  refine ⟨?_, ?_⟩
  · intro agree
    have accepted : parseSetPath [0x24, 0x5b, 0x30, 0x31, 0x5d] = .ok [.array 1] := by
      decide +kernel
    obtain ⟨result, extracted⟩ := (agree _).1 ⟨_, accepted⟩
    have refused : (extractPathValue none [0x24, 0x5b, 0x30, 0x31, 0x5d]).map Option.isSome =
        .error (parserInvalid [0x31, 0x5d]) := by
      decide +kernel
    rw [extracted] at refused
    cases refused
  · intro found
    have accepted : parseSetPath [0x24, 0x5b, 0x35, 0x5d] = .ok ([] ++ [.array 5]) := by
      decide +kernel
    have extracted := found _ [] (.array 5) (.array []) (.array []) .null (.array [.null]) accepted
      rfl rfl
    have nothing : (extractPathValue (some (.array [.null]))
        [0x24, 0x5b, 0x35, 0x5d]).map Option.isSome = .ok false := by
      decide +kernel
    rw [extracted] at nothing
    cases nothing

end MyLite.Json
