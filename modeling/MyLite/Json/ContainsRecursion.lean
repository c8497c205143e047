import MyLite.Json.Contains
import MyLite.Json.Ordered

/-! The containment check computes a recursion, its stack has room for it, and the relation is a
preorder. -/
namespace MyLite.Json

/-- The recursion: an array contains an array if some element contains each candidate, and any
other value if some element does; an object contains an object if each candidate has a member of
its name that contains it; a scalar contains what equals it. -/
def Value.contains : Value → Value → Bool
  | .array values, .array candidates =>
    candidates.all fun candidate => values.attach.any fun value => value.1.contains candidate
  | .array values, candidate => values.attach.any fun value => value.1.contains candidate
  | .object members, .object candidates =>
    candidates.all fun candidate =>
      members.attach.any fun member =>
        member.1.1 == candidate.1 && member.1.2.contains candidate.2
  | target, candidate => jsonScalarValuesEqual target candidate
termination_by target => sizeOf target
decreasing_by
  · have smaller := List.sizeOf_lt_of_mem value.2
    simp only [Value.array.sizeOf_spec]
    omega
  · have smaller := List.sizeOf_lt_of_mem value.2
    simp only [Value.array.sizeOf_spec]
    omega
  · have smaller := List.sizeOf_lt_of_mem member.2
    have inside : sizeOf member.1.2 < sizeOf member.1 := by
      obtain ⟨⟨name, value⟩, mem⟩ := member
      simp only [Prod.mk.sizeOf_spec]
      omega
    simp only [Value.object.sizeOf_spec]
    omega

theorem any_attach {α : Type} (list : List α) (test : α → Bool) :
    (list.attach.any fun item => test item.1) = list.any test := by
  rw [List.any_subtype fun _ _ => rfl, List.unattach_attach]

theorem contains_array_array (values candidates : List Value) :
    (Value.array values).contains (.array candidates) =
      candidates.all fun candidate => values.any fun value => value.contains candidate := by
  rw [Value.contains]
  exact congrArg candidates.all (funext fun candidate =>
    any_attach values fun value => value.contains candidate)

theorem contains_array {candidate : Value} (notArray : candidate.isArray = false)
    (values : List Value) :
    (Value.array values).contains candidate =
      values.any fun value => value.contains candidate := by
  rw [Value.contains]
  · exact any_attach values fun value => value.contains candidate
  · rintro candidates rfl
    cases notArray

theorem contains_object (members candidates : List Member) :
    (Value.object members).contains (.object candidates) =
      candidates.all fun candidate =>
        members.any fun member => member.1 == candidate.1 && member.2.contains candidate.2 := by
  rw [Value.contains]
  exact congrArg candidates.all (funext fun candidate =>
    any_attach members fun member => member.1 == candidate.1 && member.2.contains candidate.2)

theorem contains_scalar {target : Value} (leaf : target.isContainer = false) (candidate : Value) :
    target.contains candidate = jsonScalarValuesEqual target candidate := by
  cases target with
  | array values => cases leaf
  | object members => cases leaf
  | _ => rw [Value.contains] <;> simp

theorem object_contains_other {candidate : Value} (members : List Member)
    (notObject : ∀ candidates, candidate ≠ .object candidates) :
    (Value.object members).contains candidate = false := by
  cases candidate with
  | object candidates => exact absurd rfl (notObject candidates)
  | _ => rw [Value.contains] <;> simp [jsonScalarValuesEqual]

/-! A preorder. -/

theorem jsonScalarValuesEqual_self {value : Value} (leaf : value.isContainer = false) :
    jsonScalarValuesEqual value value = true := by
  cases value with
  | array values => cases leaf
  | object members => cases leaf
  | _ => simp [jsonScalarValuesEqual]

theorem jsonScalarValuesEqual_trans {target middle candidate : Value}
    (first : jsonScalarValuesEqual target middle = true)
    (second : jsonScalarValuesEqual middle candidate = true) :
    jsonScalarValuesEqual target candidate = true := by
  cases target <;> cases middle <;> cases candidate <;>
    simp_all [jsonScalarValuesEqual]

theorem contains_refl (value : Value) : value.contains value = true := by
  induction value using Value.inductionOn with
  | array values ih =>
    rw [contains_array_array, List.all_eq_true]
    intro candidate mem
    exact List.any_eq_true.2 ⟨candidate, mem, ih candidate mem⟩
  | object members ih =>
    rw [contains_object, List.all_eq_true]
    intro member mem
    exact List.any_eq_true.2 ⟨member, mem, by simp [ih member mem]⟩
  | _ => rw [contains_scalar rfl, jsonScalarValuesEqual_self rfl]

theorem notArray_contains_array {target : Value} (notArray : target.isArray = false)
    (candidates : List Value) : target.contains (.array candidates) = false := by
  cases target with
  | array values => cases notArray
  | object members => exact object_contains_other members fun _ same => by cases same
  | _ => rw [contains_scalar rfl]; rfl

theorem contains_elements {values candidates : List Value} :
    (Value.array values).contains (.array candidates) = true ↔
      ∀ candidate ∈ candidates, ∃ value ∈ values, value.contains candidate = true := by
  simp only [contains_array_array, List.all_eq_true, List.any_eq_true]

theorem contains_element {values : List Value} {candidate : Value}
    (notArray : candidate.isArray = false) :
    (Value.array values).contains candidate = true ↔
      ∃ value ∈ values, value.contains candidate = true := by
  simp only [contains_array notArray, List.any_eq_true]

theorem contains_members {members candidates : List Member} :
    (Value.object members).contains (.object candidates) = true ↔
      ∀ candidate ∈ candidates, ∃ member ∈ members,
        member.1 = candidate.1 ∧ member.2.contains candidate.2 = true := by
  simp only [contains_object, List.all_eq_true, List.any_eq_true, Bool.and_eq_true, beq_iff_eq]

theorem contains_scalar_leaf {target candidate : Value} (leaf : target.isContainer = false)
    (contained : target.contains candidate = true) : candidate.isContainer = false := by
  rw [contains_scalar leaf] at contained
  cases candidate with
  | array values => cases target <;> simp [jsonScalarValuesEqual] at contained
  | object members => cases target <;> simp [jsonScalarValuesEqual] at contained
  | _ => rfl

theorem object_contains_object {members : List Member} {candidate : Value}
    (contained : (Value.object members).contains candidate = true) :
    ∃ candidates, candidate = .object candidates := by
  by_contra notObject
  rw [object_contains_other members fun candidates same => notObject ⟨candidates, same⟩] at contained
  cases contained

theorem Value.eq_array {value : Value} (isArray : value.isArray = true) :
    ∃ values, value = .array values := by
  cases value with
  | array values => exact ⟨values, rfl⟩
  | _ => cases isArray

theorem contains_trans {target middle candidate : Value}
    (first : target.contains middle = true) (second : middle.contains candidate = true) :
    target.contains candidate = true := by
  induction target using Value.inductionOn generalizing middle candidate with
  | array values ih =>
    cases middleArray : middle.isArray with
    | true =>
      obtain ⟨middles, rfl⟩ := Value.eq_array middleArray
      rw [contains_elements] at first
      cases candidateArray : candidate.isArray with
      | true =>
        obtain ⟨candidates, rfl⟩ := Value.eq_array candidateArray
        rw [contains_elements] at second ⊢
        intro inner mem
        obtain ⟨between, betweenMem, right⟩ := second inner mem
        obtain ⟨value, valueMem, left⟩ := first between betweenMem
        exact ⟨value, valueMem, ih value valueMem left right⟩
      | false =>
        rw [contains_element candidateArray] at second ⊢
        obtain ⟨between, betweenMem, right⟩ := second
        obtain ⟨value, valueMem, left⟩ := first between betweenMem
        exact ⟨value, valueMem, ih value valueMem left right⟩
    | false =>
      have candidateNotArray : candidate.isArray = false := by
        rw [Bool.eq_false_iff]
        intro candidateArray
        obtain ⟨candidates, rfl⟩ := Value.eq_array candidateArray
        rw [notArray_contains_array middleArray] at second
        cases second
      rw [contains_element middleArray] at first
      rw [contains_element candidateNotArray]
      obtain ⟨value, valueMem, left⟩ := first
      exact ⟨value, valueMem, ih value valueMem left second⟩
  | object members ih =>
    obtain ⟨middles, rfl⟩ := object_contains_object first
    obtain ⟨candidates, rfl⟩ := object_contains_object second
    rw [contains_members] at first second ⊢
    intro inner mem
    obtain ⟨between, betweenMem, betweenName, right⟩ := second inner mem
    obtain ⟨member, memberMem, memberName, left⟩ := first between betweenMem
    exact ⟨member, memberMem, memberName.trans betweenName, ih member memberMem left right⟩
  | _ =>
    have leaf := contains_scalar_leaf rfl first
    rw [contains_scalar rfl] at first ⊢
    rw [contains_scalar leaf] at second
    exact jsonScalarValuesEqual_trans first second

/-! The loop. -/

/-- Checking the target on top of any frames completes them with what the recursion says, if there
is room for `room` more frames. -/
def ChecksIn (room : Nat) (target : Value) : Prop :=
  ∀ candidate parents, parents.length + room < jsonContainsStackCapacity →
    Loop.Leads containsRound (checkFrame target candidate :: parents)
      (jsonContainsStackComplete parents (target.contains candidate))

theorem jsonContainsStackPush_room {stack : ContainsStack}
    (room : stack.length < jsonContainsStackCapacity) (target candidate : Value) :
    jsonContainsStackPush stack target candidate = .inl (checkFrame target candidate :: stack) :=
  if_neg (Nat.not_le.2 room)

/-- A child is checked, and its parent frame takes the result. -/
theorem ChecksIn.pushed {room : Nat} {target : Value} (checks : ChecksIn room target)
    {parents : ContainsStack} (fits : parents.length + (room + 1) < jsonContainsStackCapacity)
    (state : ContainsStack) (frame : ContainsFrame) (candidate : Value)
    (stepped : containsRound state = jsonContainsStackPush (frame :: parents) target candidate) :
    Loop.Leads containsRound state
      (.inl ({ frame with childResult := target.contains candidate } :: parents)) := by
  have enough : (frame :: parents).length + room < jsonContainsStackCapacity := by
    rw [List.length_cons]
    omega
  rw [jsonContainsStackPush_room (by omega)] at stepped
  exact .next stepped (checks candidate (frame :: parents) enough)

section Containers

variable {room : Nat} {parents : ContainsStack}

/-- The frame over the elements for one candidate, before the element at `index`. -/
theorem arrayValue_leads {values : List Value} (checks : ∀ value ∈ values, ChecksIn room value)
    (fits : parents.length + (room + 1) < jsonContainsStackCapacity) (candidate : Value)
    (index : Nat) (childResult : Bool) :
    Loop.Leads containsRound
      (⟨.arrayValue, .array values, candidate, index, 0, false, childResult⟩ :: parents)
      (jsonContainsStackComplete parents
        ((values.drop index).any fun value => value.contains candidate)) := by
  induction left : values.length - index generalizing index childResult with
  | zero =>
    have outside : values.length ≤ index := Nat.sub_eq_zero_iff_le.1 left
    refine .last ?_
    simp [containsRound, jsonContainsProcessArrayValueFrame, List.getElem?_eq_none outside,
      List.drop_eq_nil_of_le outside]
  | succ left ih =>
    have inside : index < values.length := by omega
    have value := List.getElem?_eq_getElem inside
    have checked := (checks _ (List.getElem_mem inside)).pushed fits
      (⟨.arrayValue, .array values, candidate, index, 0, false, childResult⟩ :: parents)
      ⟨.arrayValue, .array values, candidate, index, 0, true, childResult⟩ candidate
      (by simp [containsRound, jsonContainsProcessArrayValueFrame, value])
    refine checked.trans ?_
    rw [List.drop_eq_getElem_cons inside, List.any_cons]
    cases found : values[index].contains candidate with
    | true => exact .last (by simp [containsRound, jsonContainsProcessArrayValueFrame])
    | false =>
      refine .of_step_eq ?_ (ih (index + 1) false (by omega))
      simp [containsRound, jsonContainsProcessArrayValueFrame]

/-- The frame over the elements for the candidate at `position`, when the candidates after it are
already accounted for. -/
theorem arrayCandidate_element_leads {values candidates : List Value}
    (checks : ∀ value ∈ values, ChecksIn room value)
    (fits : parents.length + (room + 1) < jsonContainsStackCapacity) {position : Nat}
    (present : position < candidates.length) {others : Bool}
    (after : Loop.Leads containsRound
      (⟨.arrayCandidate, .array values, .array candidates, 0, position + 1, false, true⟩ :: parents)
      (jsonContainsStackComplete parents others)) (index : Nat) (childResult : Bool) :
    Loop.Leads containsRound
      (⟨.arrayCandidate, .array values, .array candidates, index, position, false, childResult⟩ ::
        parents)
      (jsonContainsStackComplete parents
        (((values.drop index).any fun value => value.contains candidates[position]) && others)) := by
  induction left : values.length - index generalizing index childResult with
  | zero =>
    have outside : values.length ≤ index := Nat.sub_eq_zero_iff_le.1 left
    refine .last ?_
    simp [containsRound, jsonContainsProcessArrayCandidateFrame, present,
      List.getElem?_eq_none outside, List.drop_eq_nil_of_le outside]
  | succ left ih =>
    have inside : index < values.length := by omega
    have value := List.getElem?_eq_getElem inside
    have checked := (checks _ (List.getElem_mem inside)).pushed fits
      (⟨.arrayCandidate, .array values, .array candidates, index, position, false,
        childResult⟩ :: parents)
      ⟨.arrayCandidate, .array values, .array candidates, index, position, true, childResult⟩
      candidates[position]
      (by simp [containsRound, jsonContainsProcessArrayCandidateFrame, present, value])
    refine checked.trans ?_
    rw [List.drop_eq_getElem_cons inside, List.any_cons]
    cases found : values[index].contains candidates[position] with
    | true =>
      refine .of_step_eq ?_ after
      rcases Nat.lt_or_ge (position + 1) candidates.length with more | last
      · simp [containsRound, jsonContainsProcessArrayCandidateFrame, Nat.not_le.2 present,
          Nat.not_le.2 more]
      · simp [containsRound, jsonContainsProcessArrayCandidateFrame, last]
    | false =>
      refine .of_step_eq ?_ (ih (index + 1) false (by omega))
      simp [containsRound, jsonContainsProcessArrayCandidateFrame, present]

theorem arrayCandidate_leads {values : List Value} (candidates : List Value)
    (checks : ∀ value ∈ values, ChecksIn room value)
    (fits : parents.length + (room + 1) < jsonContainsStackCapacity) (position : Nat)
    (childResult : Bool) :
    Loop.Leads containsRound
      (⟨.arrayCandidate, .array values, .array candidates, 0, position, false, childResult⟩ ::
        parents)
      (jsonContainsStackComplete parents ((candidates.drop position).all fun candidate =>
        values.any fun value => value.contains candidate)) := by
  induction left : candidates.length - position generalizing position childResult with
  | zero =>
    have outside : candidates.length ≤ position := Nat.sub_eq_zero_iff_le.1 left
    refine .last ?_
    simp [containsRound, jsonContainsProcessArrayCandidateFrame, outside,
      List.drop_eq_nil_of_le outside]
  | succ left ih =>
    have present : position < candidates.length := by omega
    rw [List.drop_eq_getElem_cons present, List.all_cons]
    exact arrayCandidate_element_leads checks fits present (ih (position + 1) true (by omega)) 0 _

/-- A name finds at most one member of an object in order. -/
theorem any_named {members : List Member} (sorted : SortedKeys members) (name : Bytes)
    (test : Value → Bool) :
    (members.any fun member => member.1 == name && test member.2) =
      (match objectMemberValue members name with
      | none => false
      | some value => test value) := by
  induction members with
  | nil => rfl
  | cons member members ih =>
    have later := (List.pairwise_cons.1 sorted).1
    rw [List.any_cons, ih (List.pairwise_cons.1 sorted).2]
    by_cases same : member.1 = name
    · have absent : objectMemberValue members name = none := by
        rw [objectMemberValue, Option.map_eq_none_iff, List.find?_eq_none]
        intro other mem found
        rw [decide_eq_true_eq] at found
        exact (later other mem).ne (same.trans found.symm)
      rw [absent]
      simp [objectMemberValue, same]
    · simp [objectMemberValue, same]

/-- The frame over the candidates of an object, before the one at `position`. -/
theorem objectCandidate_leads {members : List Member} (sorted : SortedKeys members)
    (candidates : List Member) (checks : ∀ member ∈ members, ChecksIn room member.2)
    (fits : parents.length + (room + 1) < jsonContainsStackCapacity) (position : Nat)
    (childResult : Bool) :
    Loop.Leads containsRound
      (⟨.objectCandidate, .object members, .object candidates, 0, position, false, childResult⟩ ::
        parents)
      (jsonContainsStackComplete parents ((candidates.drop position).all fun candidate =>
        members.any fun member => member.1 == candidate.1 && member.2.contains candidate.2)) := by
  induction left : candidates.length - position generalizing position childResult with
  | zero =>
    have outside : candidates.length ≤ position := Nat.sub_eq_zero_iff_le.1 left
    refine .last ?_
    simp [containsRound, jsonContainsProcessObjectCandidateFrame, outside,
      List.drop_eq_nil_of_le outside]
  | succ left ih =>
    have present : position < candidates.length := by omega
    rw [List.drop_eq_getElem_cons present, List.all_cons,
      any_named sorted _ fun value => value.contains candidates[position].2]
    cases named : objectMemberValue members candidates[position].1 with
    | none =>
      refine .last ?_
      simp [containsRound, jsonContainsProcessObjectCandidateFrame, present, named]
    | some value =>
      have checked := (checks _ (mem_of_objectMemberValue named)).pushed fits
        (⟨.objectCandidate, .object members, .object candidates, 0, position, false,
          childResult⟩ :: parents)
        ⟨.objectCandidate, .object members, .object candidates, 0, position, true, childResult⟩
        candidates[position].2
        (by simp [containsRound, jsonContainsProcessObjectCandidateFrame, present, named])
      refine checked.trans ?_
      dsimp only
      cases found : value.contains candidates[position].2 with
      | false =>
        refine .last ?_
        simp [containsRound, jsonContainsProcessObjectCandidateFrame, Nat.not_le.2 present]
      | true =>
        refine .of_step_eq ?_ (ih (position + 1) true (by omega))
        rcases Nat.lt_or_ge (position + 1) candidates.length with more | last
        · simp [containsRound, jsonContainsProcessObjectCandidateFrame, Nat.not_le.2 present,
            Nat.not_le.2 more]
        · simp [containsRound, jsonContainsProcessObjectCandidateFrame, last]

end Containers

theorem Printable.checksIn {parsesDouble : Bytes → Bool} {room : Nat} {target : Value}
    (printable : Printable parsesDouble room target) : ChecksIn room target := by
  induction printable with
  | null room | bool room boolean | number room spelling | string room noNul =>
    intro candidate parents _
    rw [contains_scalar rfl]
    exact .last rfl
  | emptyArray room =>
    intro candidate parents _
    cases candidate with
    | array candidates =>
      rw [contains_array_array]
      refine .next rfl (.last ?_)
      cases candidates <;> simp [containsRound, ContainsFrame.start, checkFrame,
        jsonContainsProcessArrayCandidateFrame]
    | _ =>
      rw [contains_array rfl]
      exact .next rfl (.last rfl)
  | emptyObject room =>
    intro candidate parents _
    cases candidate with
    | object candidates =>
      rw [contains_object]
      refine .next rfl (.last ?_)
      cases candidates <;> simp [containsRound, ContainsFrame.start, checkFrame,
        jsonContainsProcessObjectCandidateFrame, objectMemberValue]
    | _ =>
      rw [object_contains_other [] (by simp)]
      exact .last rfl
  | @array room values nonempty items ih =>
    intro candidate parents fits
    cases candidate with
    | array candidates =>
      rw [contains_array_array]
      exact .next rfl (arrayCandidate_leads candidates ih fits 0 false)
    | _ =>
      rw [contains_array rfl]
      exact .next rfl (arrayValue_leads ih fits _ 0 false)
  | @object room members nonempty sorted noNul items ih =>
    intro candidate parents fits
    cases candidate with
    | object candidates =>
      rw [contains_object]
      exact .next rfl (objectCandidate_leads sorted candidates ih fits 0 false)
    | _ =>
      rw [object_contains_other members (by simp)]
      exact .last rfl

theorem Printable.within {parsesDouble : Bytes → Bool} {room : Nat} {inner outer : Value}
    (printable : Printable parsesDouble room outer) (within : Value.Within inner outer) :
    Printable parsesDouble room inner := by
  induction within generalizing room with
  | refl => exact printable
  | element mem within ih =>
    cases printable with
    | emptyArray => cases mem
    | array nonempty items => exact (ih (items _ mem)).mono (Nat.le_succ _)
  | member mem within ih =>
    cases printable with
    | emptyObject => cases mem
    | object nonempty sorted noNul items => exact (ih (items _ mem)).mono (Nat.le_succ _)

/-- For a target inside a parsed document the loop ends with what the recursion says, its stack
never full; and the recursion is reflexive and transitive. -/
theorem valueContains_correct (parsesDouble : Bytes → Bool) {text : Bytes}
    {document target : Value} (parsed : parseDocument parsesDouble text = .ok document)
    (within : Value.Within target document) :
    (∀ candidate, ∃ fuel, ∀ more, fuel ≤ more →
      valueContainsEnd more target candidate = some (.done (target.contains candidate)) ∧
        valueContains more target candidate = some (target.contains candidate)) ∧
    target.contains target = true ∧
    ∀ middle candidate, target.contains middle = true → middle.contains candidate = true →
      target.contains candidate = true := by
  refine ⟨fun candidate => ?_, contains_refl target, fun _ _ => contains_trans⟩
  have printable := (parseDocument_printable parsed).within within
  have leads := printable.checksIn candidate [] (by decide)
  obtain ⟨fuel, ends⟩ := Loop.Leads.iterate leads
  refine ⟨fuel, fun more enough => ?_⟩
  have done : valueContainsEnd more target candidate =
      some (.done (target.contains candidate)) := by
    rw [valueContainsEnd, jsonContainsStackPush_room (by decide)]
    exact ends more enough
  exact ⟨done, by rw [valueContains, done]; rfl⟩

/-- `[[true]]` contains `true`, two levels down. -/
theorem valueContains_correct_nested :
    ∃ document, parseDocument (fun _ => true)
        [0x5b, 0x5b, 0x74, 0x72, 0x75, 0x65, 0x5d, 0x5d] = .ok document ∧
      ∃ fuel, ∀ more, fuel ≤ more → valueContains more document (.bool true) = some true := by
  have found : (parseDocument (fun _ => true)
      [0x5b, 0x5b, 0x74, 0x72, 0x75, 0x65, 0x5d, 0x5d]).map
        (fun document => document.contains (.bool true)) = .ok true := by
    decide +kernel
  obtain ⟨document, parsed, contained⟩ := map_ok found
  obtain ⟨fuel, ends⟩ := (valueContains_correct _ parsed .refl).1 (.bool true)
  exact ⟨document, parsed, fuel, fun more enough => (ends more enough).2.trans
    (congrArg some contained)⟩

end MyLite.Json
