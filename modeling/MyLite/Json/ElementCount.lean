import MyLite.Json.Ordered

/-! How many elements an array of a parsed document can have. -/
namespace MyLite.Json

/-- No array in the value has more elements. -/
def Value.Counts (bound : Nat) (value : Value) : Prop :=
  ∀ values, Value.Within (.array values) value → values.length ≤ bound

theorem Value.counts_leaf (bound : Nat) {value : Value} (leaf : value.isContainer = false) :
    value.Counts bound := by
  intro values within
  cases within <;> cases leaf

theorem Value.counts_array {bound : Nat} {values : List Value} (few : values.length ≤ bound)
    (items : ∀ value ∈ values, value.Counts bound) : (Value.array values).Counts bound := by
  intro others within
  cases within with
  | refl => exact few
  | element mem within => exact items _ mem others within

theorem Value.counts_object {bound : Nat} {members : List Member}
    (items : ∀ member ∈ members, member.2.Counts bound) : (Value.object members).Counts bound := by
  intro others within
  cases within with
  | member mem within => exact items _ mem others within

/-- What has been read into an open container, with `left` bytes to go. -/
def Container.Counts (bound left : Nat) : Container → Prop
  | .array values => values.length + left ≤ bound ∧ ∀ value ∈ values, value.Counts bound
  | .object members => left ≤ bound ∧ ∀ member ∈ members, member.2.Counts bound

theorem Container.Counts.store {bound left : Nat} {container : Container} {input rest : Bytes}
    {waiting : Waiting} {value : Value} (counts : container.Counts bound (left + 1))
    (position : parseNextPosition container input = .ok (waiting, rest))
    (item : value.Counts bound) :
    (waiting.store value).Counts bound left ∧ (waiting.store value).close.Counts bound := by
  cases container with
  | array values =>
    cases position
    have items : ∀ other ∈ values ++ [value], other.Counts bound := by
      intro other mem
      rcases List.mem_append.1 mem with mem | mem
      · exact counts.2 other mem
      · rw [List.mem_singleton.1 mem]
        exact item
    have few : (values ++ [value]).length + left ≤ bound := by
      have room := counts.1
      rw [List.length_append, List.length_singleton]
      omega
    exact ⟨⟨few, items⟩, Value.counts_array (Nat.le_of_add_right_le few) items⟩
  | object members =>
    obtain ⟨⟨key, after⟩, name, same⟩ := map_ok position
    cases same
    have items : ∀ member ∈ objectAppendMember members key value, member.2.Counts bound := by
      intro member mem
      rcases mem_objectAppendMember mem with ⟨sameValue, -⟩ | mem
      · rw [sameValue]
        exact item
      · exact counts.2 member mem
    refine ⟨⟨Nat.le_of_succ_le counts.1, items⟩, Value.counts_object fun member mem => ?_⟩
    exact items member (mem_sortObjectMembers.1 mem)

theorem Container.Counts.mono {bound left less : Nat} {container : Container}
    (counts : container.Counts bound left) (le : less ≤ left) : container.Counts bound less := by
  cases container with
  | array values =>
    have room := counts.1
    exact ⟨by omega, counts.2⟩
  | object members => exact ⟨Nat.le_trans le counts.1, counts.2⟩

theorem Container.Counts.empty {bound left : Nat} (room : left ≤ bound) (kind : ContainerKind) :
    (Container.empty kind).Counts bound left := by
  cases kind with
  | object => exact ⟨room, nofun⟩
  | array => exact ⟨by simpa using room, nofun⟩

theorem Container.Counts.left_le {bound left : Nat} {container : Container}
    (counts : container.Counts bound left) : left ≤ bound := by
  cases container with
  | array values => exact Nat.le_of_add_left_le counts.1
  | object members => exact counts.1

theorem Printable.counts {parsesDouble : Bytes → Bool} {value : Value} (bound : Nat)
    (printable : Printable parsesDouble 0 value) : value.Counts bound := by
  cases printable with
  | emptyArray => exact Value.counts_array (Nat.zero_le _) nofun
  | emptyObject => exact Value.counts_object nofun
  | _ => exact Value.counts_leaf bound rfl

/-- A container has no more elements than bytes were read for them. -/
theorem readContainer_counts {parsesDouble : Bytes → Bool} {limit : Nat → Bool}
    {fuel depth bound : Nat} {container : Container} {input rest : Bytes} {nested : Nested}
    (read : readContainer parsesDouble limit fuel depth container input = .ok (nested, rest))
    (counts : container.Counts bound input.length) : nested.value.Counts bound := by
  induction fuel generalizing depth container input rest nested with
  | zero => cases read
  | succ fuel ih =>
    obtain ⟨waiting, parsed, afterStart, child, afterChild, start, childRead, separated⟩ :=
      readContainer_ok_iff.1 read
    have shorter := parseNextItem_length parsesDouble start
    obtain ⟨valueStart, position, value⟩ := parseNextItem_ok start
    have childCounts : child.value.Counts bound ∧ afterChild.length ≤ afterStart.length := by
      cases parsed with
      | complete found =>
        cases childRead
        exact ⟨(parseNextValue_printable 0 value).counts bound, Nat.le_refl _⟩
      | opens kind =>
        simp only [readChild] at childRead
        split at childRead
        · have room : afterStart.length ≤ bound :=
            Nat.le_trans (Nat.le_of_lt shorter) counts.left_le
          exact ⟨ih childRead (.empty room kind), Nat.le_of_lt (readContainer_length childRead)⟩
        · cases childRead
    have before : container.Counts bound (afterChild.length + 1) := counts.mono (by omega)
    have stored := before.store position childCounts.1
    rcases separated with ⟨separator, rfl⟩ | ⟨afterComma, items, separator, itemsRead, rfl⟩
    · exact stored.2
    · have commaShorter := readSeparator_length separator
      show items.value.Counts bound
      exact ih itemsRead (stored.1.mono (Nat.le_of_lt commaShorter))

/-- A parsed document has no array with more elements than the text has bytes. -/
theorem parseDocument_counts {parsesDouble : Bytes → Bool} {text : Bytes} {document : Value}
    (parsed : parseDocument parsesDouble text = .ok document) :
    document.Counts text.length := by
  rw [parseDocument_eq_reader] at parsed
  obtain ⟨nested, read, rfl⟩ := map_ok parsed
  simp only [readDocument] at read
  split at read
  · cases read
  · rename_i found rest value
    obtain ⟨finished, _, rfl⟩ := map_ok read
    simp only [readValue] at value
    have skipped := skipWhitespace_length text
    split at value
    · cases value
    · rename_i start
      cases value
      exact (parseNextValue_printable 0 start).counts _
    · rename_i kind afterStart start
      have shorter := parseNextValue_length parsesDouble start
      split at value
      · exact readContainer_counts value (.empty (by omega) kind)
      · cases value

end MyLite.Json
