import MyLite.Json.ElementCount
import MyLite.Json.PathText
import MyLite.Json.Produced
import MyLite.Json.SetExtract
import MyLite.Runtime.LikeAgreement

/-! A search finds the string leaves that match, in the order of the document, and spells paths
that lead back to them where their names are ASCII. -/
namespace MyLite.Json

open Like (jsonSearchPatternMatches)

/-- A string in a document, with the legs that lead to it. -/
structure Leaf where
  legs : List PathLeg
  text : Bytes

def Leaf.under (leg : PathLeg) (leaf : Leaf) : Leaf :=
  ⟨leg :: leaf.legs, leaf.text⟩

mutual

/-- The string leaves, in the order of the document. -/
def Value.stringLeaves : Value → List Leaf
  | .string text => [⟨[], text⟩]
  | .array values => elementLeaves 0 values
  | .object members => memberLeaves members
  | .null => []
  | .bool _ => []
  | .number _ _ => []

def elementLeaves : Nat → List Value → List Leaf
  | _, [] => []
  | index, value :: rest =>
    value.stringLeaves.map (Leaf.under (.array index)) ++ elementLeaves (index + 1) rest

def memberLeaves : List (Bytes × Value) → List Leaf
  | [] => []
  | (key, value) :: rest =>
    value.stringLeaves.map (Leaf.under (.member key)) ++ memberLeaves rest

end

/-! The leaves are what the legs lead to. -/

theorem mem_elementLeaves {index : Nat} {values : List Value} {leaf : Leaf} :
    leaf ∈ elementLeaves index values ↔
      ∃ (offset : Nat) (value : Value) (inner : Leaf),
        values[offset]? = some value ∧ inner ∈ value.stringLeaves ∧
          inner.under (.array (index + offset)) = leaf := by
  induction values generalizing index with
  | nil => simp [elementLeaves]
  | cons value values ih =>
    rw [elementLeaves, List.mem_append, List.mem_map, ih]
    constructor
    · rintro (⟨inner, mem, rfl⟩ | ⟨offset, found, inner, at_, mem, rfl⟩)
      · exact ⟨0, value, inner, rfl, mem, rfl⟩
      · refine ⟨offset + 1, found, inner, at_, mem, ?_⟩
        rw [Nat.add_right_comm, Nat.add_assoc]
    · rintro ⟨offset, found, inner, at_, mem, rfl⟩
      cases offset with
      | zero =>
        cases at_
        exact Or.inl ⟨inner, mem, rfl⟩
      | succ offset =>
        refine Or.inr ⟨offset, found, inner, at_, mem, ?_⟩
        rw [Nat.add_right_comm, Nat.add_assoc]

theorem mem_memberLeaves {members : List Member} {leaf : Leaf} :
    leaf ∈ memberLeaves members ↔
      ∃ member ∈ members, ∃ inner ∈ member.2.stringLeaves, inner.under (.member member.1) = leaf := by
  induction members with
  | nil => simp [memberLeaves]
  | cons member members ih =>
    obtain ⟨key, value⟩ := member
    rw [memberLeaves, List.mem_append, List.mem_map, ih]
    simp only [List.exists_mem_cons_iff]

/-- An object in order finds the members it holds. -/
theorem SortedKeys.objectMemberValue_iff {members : List Member} (sorted : SortedKeys members)
    {name : Bytes} {value : Value} :
    objectMemberValue members name = some value ↔ (name, value) ∈ members := by
  refine ⟨mem_of_objectMemberValue, fun mem => ?_⟩
  induction members with
  | nil => cases mem
  | cons member members ih =>
    have later := List.pairwise_cons.1 sorted
    rcases List.mem_cons.1 mem with rfl | mem
    · simp [objectMemberValue]
    · have differs : member.1 ≠ name := (later.1 _ mem).ne
      have found := ih later.2 mem
      rw [objectMemberValue] at found ⊢
      rw [List.find?_cons_of_neg (by simpa using differs)]
      exact found

theorem foldl_followLeg_cons (value : Value) (leg : PathLeg) (legs : List PathLeg) :
    (leg :: legs).foldl followLeg (some value) = legs.foldl followLeg (value.child leg) :=
  rfl

section Leaves

variable {scalar : Value → Prop} {key : Bytes → Prop}

/-- The string leaves are the strings that legs lead to. -/
theorem mem_stringLeaves {document : Value} (ordered : Ordered scalar key document)
    {legs : List PathLeg} {text : Bytes} :
    ⟨legs, text⟩ ∈ document.stringLeaves ↔
      legs.foldl followLeg (some document) = some (.string text) := by
  induction document using Value.inductionOn generalizing legs with
  | string found =>
    rw [Value.stringLeaves, List.mem_singleton]
    cases legs with
    | nil => simp [eq_comm]
    | cons leg legs =>
      have nowhere : (Value.string found).child leg = none := by cases leg <;> rfl
      rw [foldl_followLeg_cons, nowhere, foldl_followLeg_none]
      simp
  | array values ih =>
    rw [Value.stringLeaves, mem_elementLeaves]
    constructor
    · rintro ⟨offset, value, ⟨innerLegs, innerText⟩, found, mem, same⟩
      cases same
      have inside := List.mem_of_getElem? found
      rw [Nat.zero_add, foldl_followLeg_cons, Value.child, found]
      exact (ih value inside (ordered.elements value inside)).1 mem
    · intro reached
      cases legs with
      | nil => cases reached
      | cons leg legs =>
        rw [foldl_followLeg_cons] at reached
        cases leg with
        | member name =>
          have nowhere : (Value.array values).child (.member name) = none := rfl
          rw [nowhere, foldl_followLeg_none] at reached
          cases reached
        | array index =>
          rw [Value.child] at reached
          cases found : values[index]? with
          | none =>
            rw [found, foldl_followLeg_none] at reached
            cases reached
          | some value =>
            rw [found] at reached
            have inside := List.mem_of_getElem? found
            refine ⟨index, value, ⟨legs, text⟩, found, ?_, by rw [Nat.zero_add]; rfl⟩
            exact (ih value inside (ordered.elements value inside)).2 reached
  | object members ih =>
    obtain ⟨sorted, stored⟩ := ordered.stored
    rw [Value.stringLeaves, mem_memberLeaves]
    constructor
    · rintro ⟨⟨name, value⟩, inside, ⟨innerLegs, innerText⟩, mem, same⟩
      cases same
      have found := sorted.objectMemberValue_iff.2 inside
      rw [foldl_followLeg_cons, Value.child, found]
      exact (ih _ inside (stored.items _ inside)).1 mem
    · intro reached
      cases legs with
      | nil => cases reached
      | cons leg legs =>
        rw [foldl_followLeg_cons] at reached
        cases leg with
        | array index =>
          have nowhere : (Value.object members).child (.array index) = none := rfl
          rw [nowhere, foldl_followLeg_none] at reached
          cases reached
        | member name =>
          rw [Value.child] at reached
          cases found : objectMemberValue members name with
          | none =>
            rw [found, foldl_followLeg_none] at reached
            cases reached
          | some value =>
            rw [found] at reached
            have inside := sorted.objectMemberValue_iff.1 found
            refine ⟨(name, value), inside, ⟨legs, text⟩, ?_, rfl⟩
            exact (ih _ inside (stored.items _ inside)).2 reached
  | _ =>
    rw [Value.stringLeaves]
    cases legs with
    | nil => simp
    | cons leg legs =>
      rw [foldl_followLeg_cons]
      cases leg <;> simp [Value.child, foldl_followLeg_none]

/-! The leaves lie apart, and their legs can be spelled. -/

theorem under_legs_nodup {leaves : List Leaf} (leg : PathLeg)
    (nodup : (leaves.map Leaf.legs).Nodup) :
    ((leaves.map (Leaf.under leg)).map Leaf.legs).Nodup := by
  have legs : (leaves.map (Leaf.under leg)).map Leaf.legs =
      (leaves.map Leaf.legs).map (leg :: ·) := by
    rw [List.map_map, List.map_map]
    rfl
  rw [legs]
  exact nodup.map fun left right same => (List.cons.inj same).2

theorem elementLeaves_nodup {values : List Value}
    (each : ∀ value ∈ values, (value.stringLeaves.map Leaf.legs).Nodup) (index : Nat) :
    ((elementLeaves index values).map Leaf.legs).Nodup := by
  induction values generalizing index with
  | nil => exact List.nodup_nil
  | cons value values ih =>
    rw [elementLeaves, List.map_append, List.nodup_append]
    refine ⟨under_legs_nodup _ (each value (List.mem_cons_self ..)),
      ih (fun other mem => each other (List.mem_cons_of_mem _ mem)) _, ?_⟩
    intro left leftMem right rightMem same
    obtain ⟨leftLeaf, isLeft, rfl⟩ := List.mem_map.1 leftMem
    obtain ⟨rightLeaf, isRight, rfl⟩ := List.mem_map.1 rightMem
    obtain ⟨inner, _, rfl⟩ := List.mem_map.1 isLeft
    obtain ⟨offset, _, other, _, _, rfl⟩ := mem_elementLeaves.1 isRight
    have heads := PathLeg.array.inj (List.cons.inj same).1
    omega

theorem memberLeaves_nodup {members : List Member} (sorted : SortedKeys members)
    (each : ∀ member ∈ members, (member.2.stringLeaves.map Leaf.legs).Nodup) :
    ((memberLeaves members).map Leaf.legs).Nodup := by
  induction members with
  | nil => exact List.nodup_nil
  | cons member members ih =>
    obtain ⟨key, value⟩ := member
    have later := List.pairwise_cons.1 sorted
    rw [memberLeaves, List.map_append, List.nodup_append]
    refine ⟨under_legs_nodup _ (each _ (List.mem_cons_self ..)),
      ih later.2 (fun other mem => each other (List.mem_cons_of_mem _ mem)), ?_⟩
    intro left leftMem right rightMem same
    obtain ⟨leftLeaf, isLeft, rfl⟩ := List.mem_map.1 leftMem
    obtain ⟨rightLeaf, isRight, rfl⟩ := List.mem_map.1 rightMem
    obtain ⟨inner, _, rfl⟩ := List.mem_map.1 isLeft
    obtain ⟨other, isMember, _, _, rfl⟩ := mem_memberLeaves.1 isRight
    exact (later.1 other isMember).ne (PathLeg.member.inj (List.cons.inj same).1)

theorem stringLeaves_nodup {document : Value} (ordered : Ordered scalar key document) :
    (document.stringLeaves.map Leaf.legs).Nodup := by
  induction document using Value.inductionOn with
  | string text => simp [Value.stringLeaves]
  | array values ih =>
    rw [Value.stringLeaves]
    exact elementLeaves_nodup (fun value mem => ih value mem (ordered.elements value mem)) 0
  | object members ih =>
    obtain ⟨sorted, stored⟩ := ordered.stored
    rw [Value.stringLeaves]
    exact memberLeaves_nodup sorted fun member mem => ih member mem (stored.items member mem)
  | _ => simp [Value.stringLeaves]

theorem stringLeaves_spelled {document : Value}
    (ordered : Ordered scalar NoNul document) (counts : document.Counts sizeMax) :
    ∀ leaf ∈ document.stringLeaves, ∀ leg ∈ leaf.legs, leg.Spelled := by
  induction document using Value.inductionOn with
  | string text =>
    intro leaf mem
    rw [Value.stringLeaves, List.mem_singleton] at mem
    rw [mem]
    nofun
  | array values ih =>
    intro leaf mem
    rw [Value.stringLeaves] at mem
    obtain ⟨offset, value, inner, found, isInner, rfl⟩ := mem_elementLeaves.1 mem
    have inside := List.mem_of_getElem? found
    have below := (List.getElem?_eq_some_iff.1 found).1
    have few := counts values .refl
    rw [Leaf.under, List.forall_mem_cons]
    refine ⟨?_, ih value inside (ordered.elements value inside) ?_ inner isInner⟩
    · rw [Nat.zero_add]
      exact Nat.le_trans (Nat.le_of_lt below) few
    · exact fun others within => counts others (.element inside within)
  | object members ih =>
    intro leaf mem
    have stored := ordered.stored.2
    rw [Value.stringLeaves] at mem
    obtain ⟨member, inside, inner, isInner, rfl⟩ := mem_memberLeaves.1 mem
    rw [Leaf.under, List.forall_mem_cons]
    refine ⟨stored.keys member inside, ih member inside (stored.items member inside) ?_ inner isInner⟩
    exact fun others within => counts others (.member inside within)
  | _ =>
    intro leaf mem
    rw [Value.stringLeaves] at mem
    cases mem

end Leaves

/-! The walk collects the paths of the leaves that match. -/

section Collect

variable (mode : JsonSearchMode)

/-- The matches stored one after the other; one is enough for the mode `one`. -/
def collectMatches : List Bytes → List Bytes → List Bytes
  | [], paths => paths
  | path :: rest, paths =>
    let after := jsonSearchAppendMatch paths path
    if mode = .one ∧ after ≠ [] then after else collectMatches rest after

theorem collectMatches_append {paths : List Bytes} (goesOn : ¬(mode = .one ∧ paths ≠ []))
    (first second : List Bytes) :
    collectMatches mode (first ++ second) paths =
      if mode = .one ∧ collectMatches mode first paths ≠ [] then collectMatches mode first paths
      else collectMatches mode second (collectMatches mode first paths) := by
  induction first generalizing paths with
  | nil => rw [List.nil_append, collectMatches, if_neg goesOn]
  | cons path first ih =>
    rw [List.cons_append, collectMatches, collectMatches]
    by_cases enough : mode = .one ∧ jsonSearchAppendMatch paths path ≠ []
    · simp only [if_pos enough]
    · simp only [if_neg enough]
      exact ih enough

theorem jsonSearchAppendMatch_new {paths : List Bytes} {path : Bytes} (new : path ∉ paths) :
    jsonSearchAppendMatch paths path = paths ++ [path] := by
  have absent : jsonSearchHasMatch paths path = false := by
    rw [jsonSearchHasMatch, List.any_eq_false]
    intro candidate mem same
    exact new (eq_of_beq same ▸ mem)
  rw [jsonSearchAppendMatch, absent, if_neg Bool.false_ne_true]

theorem collectMatches_all {paths found : List Bytes} (nodup : (paths ++ found).Nodup) :
    collectMatches .all found paths = paths ++ found := by
  induction found generalizing paths with
  | nil => rw [collectMatches, List.append_nil]
  | cons path found ih =>
    have new : path ∉ paths := fun mem =>
      (List.nodup_append.1 nodup).2.2 path mem path (List.mem_cons_self ..) rfl
    rw [collectMatches, jsonSearchAppendMatch_new new, if_neg (by simp), ih (by simpa using nodup)]
    simp

theorem collectMatches_one (found : List Bytes) :
    collectMatches .one found [] = found.take 1 := by
  cases found with
  | nil => rfl
  | cons path found => rfl

end Collect

section Walk

variable (pattern : Bytes) (escapeEnabled : Bool) (escape : UInt8) (mode : JsonSearchMode)

/-- The paths of the leaves that match, spelled behind the path of the value. -/
def matchingPaths (path : Bytes) (leaves : List Leaf) : List Bytes :=
  (leaves.filter fun leaf => jsonSearchPatternMatches pattern leaf.text escapeEnabled escape).map
    fun leaf => path ++ legsText leaf.legs

variable {pattern escapeEnabled escape mode}

theorem matchingPaths_append (path : Bytes) (first second : List Leaf) :
    matchingPaths pattern escapeEnabled escape path (first ++ second) =
      matchingPaths pattern escapeEnabled escape path first ++
        matchingPaths pattern escapeEnabled escape path second := by
  simp only [matchingPaths, List.filter_append, List.map_append]

theorem matchingPaths_under (path : Bytes) (leg : PathLeg) (leaves : List Leaf) :
    matchingPaths pattern escapeEnabled escape path (leaves.map (Leaf.under leg)) =
      matchingPaths pattern escapeEnabled escape (path ++ leg.text) leaves := by
  rw [matchingPaths, matchingPaths, List.filter_map, List.map_map]
  refine List.map_congr_left fun leaf mem => ?_
  simp only [Function.comp_apply, Leaf.under, legsText, List.flatMap_cons, List.append_assoc]

/-- What the walk does below one value. -/
def WalksLeaves (pattern : Bytes) (escapeEnabled : Bool) (escape : UInt8) (mode : JsonSearchMode)
    (value : Value) : Prop :=
  ∀ path paths, ¬(mode = .one ∧ paths ≠ []) →
    jsonSearchValue pattern escapeEnabled escape mode value path paths =
      collectMatches mode (matchingPaths pattern escapeEnabled escape path value.stringLeaves) paths

theorem jsonSearchArrayValue_collects {values : List Value}
    (each : ∀ value ∈ values, WalksLeaves pattern escapeEnabled escape mode value)
    (index : Nat) (path : Bytes) {paths : List Bytes} (goesOn : ¬(mode = .one ∧ paths ≠ [])) :
    jsonSearchArrayValue pattern escapeEnabled escape mode index values path paths =
      collectMatches mode
        (matchingPaths pattern escapeEnabled escape path (elementLeaves index values)) paths := by
  induction values generalizing index paths with
  | nil =>
    rw [jsonSearchArrayValue, elementLeaves]
    rfl
  | cons value values ih =>
    rw [jsonSearchArrayValue, elementLeaves, matchingPaths_append, matchingPaths_under,
      collectMatches_append mode goesOn, jsonSearchAppendArrayLeg_eq,
      each value (List.mem_cons_self ..) _ _ goesOn]
    split
    · rfl
    · rename_i more
      exact ih (fun other mem => each other (List.mem_cons_of_mem _ mem)) _ more

theorem jsonSearchObjectValue_collects {members : List Member}
    (each : ∀ member ∈ members, WalksLeaves pattern escapeEnabled escape mode member.2)
    (path : Bytes) {paths : List Bytes} (goesOn : ¬(mode = .one ∧ paths ≠ [])) :
    jsonSearchObjectValue pattern escapeEnabled escape mode members path paths =
      collectMatches mode
        (matchingPaths pattern escapeEnabled escape path (memberLeaves members)) paths := by
  induction members generalizing paths with
  | nil =>
    rw [jsonSearchObjectValue, memberLeaves]
    rfl
  | cons member members ih =>
    obtain ⟨key, value⟩ := member
    rw [jsonSearchObjectValue, memberLeaves, matchingPaths_append, matchingPaths_under,
      collectMatches_append mode goesOn, jsonSearchAppendMemberLeg_eq,
      each _ (List.mem_cons_self ..) _ _ goesOn]
    split
    · rfl
    · rename_i more
      exact ih (fun other mem => each other (List.mem_cons_of_mem _ mem)) more

theorem jsonSearchValue_collects (value : Value) :
    WalksLeaves pattern escapeEnabled escape mode value := by
  induction value using Value.inductionOn with
  | string text =>
    intro path paths goesOn
    rw [jsonSearchValue, Value.stringLeaves]
    by_cases found : jsonSearchPatternMatches pattern text escapeEnabled escape = true
    · simp [found, matchingPaths, collectMatches, legsText]
    · simp [found, matchingPaths, collectMatches]
  | array values ih =>
    intro path paths goesOn
    rw [jsonSearchValue, Value.stringLeaves]
    exact jsonSearchArrayValue_collects ih 0 path goesOn
  | object members ih =>
    intro path paths goesOn
    rw [jsonSearchValue, Value.stringLeaves]
    exact jsonSearchObjectValue_collects ih path goesOn
  | _ =>
    intro path paths goesOn
    rw [jsonSearchValue, Value.stringLeaves]
    rfl

theorem jsonSearchMatches_collects (document : Value) :
    jsonSearchMatches pattern escapeEnabled escape mode document [] =
      .ok (collectMatches mode
        (matchingPaths pattern escapeEnabled escape [0x24] document.stringLeaves) []) := by
  rw [jsonSearchMatches, if_pos rfl, jsonSearchValue_collects]
  exact fun more => more.2 rfl

theorem mem_matchingPaths {leaves : List Leaf} {path found : Bytes} :
    found ∈ matchingPaths pattern escapeEnabled escape path leaves ↔
      ∃ leaf ∈ leaves, jsonSearchPatternMatches pattern leaf.text escapeEnabled escape = true ∧
        path ++ legsText leaf.legs = found := by
  simp only [matchingPaths, List.mem_map, List.mem_filter, and_assoc]

/-- Leaves that lie apart have different paths. -/
theorem matchingPaths_nodup {leaves : List Leaf} (path : Bytes)
    (nodup : (leaves.map Leaf.legs).Nodup)
    (spelled : ∀ leaf ∈ leaves, ∀ leg ∈ leaf.legs, leg.Spelled) :
    (matchingPaths pattern escapeEnabled escape path leaves).Nodup := by
  have texts : (leaves.map fun leaf => path ++ legsText leaf.legs).Nodup := by
    rw [List.Nodup, List.pairwise_map] at nodup ⊢
    refine nodup.imp_of_mem fun {left right} leftMem rightMem apart same => ?_
    exact apart (legsText_inj (spelled left leftMem) (spelled right rightMem)
      (List.append_cancel_left same))
  exact texts.sublist (List.filter_sublist.map _)

end Walk

/-- The search finds the paths of the string leaves that match, each once and in the order of the
document; and extraction follows the legs of a path found, or refuses the path if a name on it is
not ASCII. -/
theorem jsonSearch_finds (parsesDouble : Bytes → Bool) (pattern : Bytes) (escapeEnabled : Bool)
    (escape : UInt8) {text : Bytes} {document : Value}
    (parsed : parseDocument parsesDouble text = .ok document) (fits : text.length ≤ sizeMax) :
    ∃ found, found = matchingPaths pattern escapeEnabled escape [0x24] document.stringLeaves ∧
      jsonSearch pattern escapeEnabled escape .all parsesDouble text [] =
        .ok (jsonSearchFormatResult found) ∧
      jsonSearch pattern escapeEnabled escape .one parsesDouble text [] =
        .ok (jsonSearchFormatResult (found.take 1)) ∧
      found.Nodup ∧
      (∀ path, path ∈ found ↔ ∃ legs leaf,
        legs.foldl followLeg (some document) = some (.string leaf) ∧
        Like.Means Eq (if escapeEnabled then some escape else none) pattern leaf ∧
        path = 0x24 :: legsText legs) ∧
      ∀ legs leaf, legs.foldl followLeg (some document) = some (.string leaf) → ∀ root,
        ((∀ leg ∈ legs, leg.Ascii) →
          extractPathValue root (0x24 :: legsText legs) = .ok (legs.foldl followLeg root)) ∧
        ((¬∀ leg ∈ legs, leg.Ascii) → ∃ position,
          extractPathValue root (0x24 :: legsText legs) = .error (parserUnsupported position)) := by
  have ordered := (parseDocument_printable parsed).readable
  have counts : document.Counts sizeMax := fun values within =>
    Nat.le_trans (parseDocument_counts parsed values within) fits
  have spelled := stringLeaves_spelled ordered counts
  have nodup :
      (matchingPaths pattern escapeEnabled escape [0x24] document.stringLeaves).Nodup :=
    matchingPaths_nodup [0x24] (stringLeaves_nodup ordered) spelled
  have searched (mode : JsonSearchMode) :
      jsonSearch pattern escapeEnabled escape mode parsesDouble text [] =
        .ok (jsonSearchFormatResult (collectMatches mode
          (matchingPaths pattern escapeEnabled escape [0x24] document.stringLeaves) [])) := by
    rw [jsonSearch, parsed]
    dsimp only
    rw [jsonSearchMatches_collects]
    rfl
  refine ⟨_, rfl, ?_, ?_, nodup, fun path => ?_, fun legs leaf reached root => ?_⟩
  · rw [searched, collectMatches_all nodup, List.nil_append]
  · rw [searched, collectMatches_one]
  · rw [mem_matchingPaths]
    constructor
    · rintro ⟨⟨legs, leaf⟩, mem, found, rfl⟩
      exact ⟨legs, leaf, (mem_stringLeaves ordered).1 mem, (Like.jsonSearch_iff ..).1 found, rfl⟩
    · rintro ⟨legs, leaf, reached, means, rfl⟩
      exact ⟨⟨legs, leaf⟩, (mem_stringLeaves ordered).2 reached, (Like.jsonSearch_iff ..).2 means,
        rfl⟩
  · exact extractPathValue_legsText (spelled _ ((mem_stringLeaves ordered).2 reached)) root

/-- A document with one string leaf, from the legs of its leaves. -/
theorem parsed_leaf (text : Bytes) (legs : List PathLeg) (leaf : Bytes)
    (computed : (parseDocument (fun _ => true) text).map
      (fun document => document.stringLeaves.map fun leaf => (leaf.legs, leaf.text)) =
        .ok [(legs, leaf)]) :
    ∃ document, parseDocument (fun _ => true) text = .ok document ∧
      document.stringLeaves = [⟨legs, leaf⟩] := by
  obtain ⟨document, parsed, same⟩ := map_ok computed
  obtain ⟨found, leaves, pair⟩ := List.map_eq_singleton_iff.1 same
  cases pair
  exact ⟨document, parsed, leaves⟩

/-- `{"a": ""}` searched for the empty string. -/
theorem jsonSearch_finds_member :
    ∃ found, jsonSearch [] false 0 .all (fun _ => true)
        [0x7b, 0x22, 0x61, 0x22, 0x3a, 0x22, 0x22, 0x7d] [] =
          .ok (jsonSearchFormatResult found) ∧ [0x24, 0x2e, 0x61] ∈ found := by
  obtain ⟨document, parsed, leaves⟩ := parsed_leaf
    [0x7b, 0x22, 0x61, 0x22, 0x3a, 0x22, 0x22, 0x7d] [.member [0x61]] [] (by decide +kernel)
  obtain ⟨found, _, all, _, _, mem, _⟩ := jsonSearch_finds (fun _ => true) [] false 0 parsed
    (by decide)
  have ordered := (parseDocument_printable parsed).readable
  refine ⟨found, all, (mem _).2 ⟨[.member [0x61]], [], ?_, .nil, rfl⟩⟩
  exact (mem_stringLeaves ordered).1 (by rw [leaves]; exact List.mem_singleton_self _)

/-- `{"é": ""}` searched for the empty string: extraction refuses the path found. -/
theorem jsonSearch_path_refused :
    ¬∀ (text pattern : Bytes) (escapeEnabled : Bool) (escape : UInt8) (document : Value)
      (found : List Bytes), parseDocument (fun _ => true) text = .ok document →
      jsonSearchMatches pattern escapeEnabled escape .all document [] = .ok found →
      ∀ path ∈ found, ∃ leaf, extractPathValue (some document) path = .ok (some (.string leaf)) := by
  intro selects
  obtain ⟨document, parsed, leaves⟩ := parsed_leaf
    [0x7b, 0x22, 0xc3, 0xa9, 0x22, 0x3a, 0x22, 0x22, 0x7d] [.member [0xc3, 0xa9]] []
    (by decide +kernel)
  have matched : jsonSearchPatternMatches [] [] false 0 = true :=
    (Like.jsonSearch_iff [] [] false 0).2 .nil
  have found : jsonSearchMatches [] false 0 .all document [] =
      .ok [0x24 :: legsText [.member [0xc3, 0xa9]]] := by
    rw [jsonSearchMatches_collects, leaves]
    simp [matchingPaths, matched, collectMatches, jsonSearchAppendMatch, jsonSearchHasMatch]
  have spelled : ∀ leg ∈ [PathLeg.member [0xc3, 0xa9]], leg.Spelled := by
    simp [PathLeg.Spelled]
  obtain ⟨position, refused⟩ := (extractPathValue_legsText spelled (some document)).2
    (by simp [PathLeg.Ascii, pathTextIsAscii, jsonAsciiByteLimit])
  obtain ⟨leaf, selected⟩ := selects _ [] false 0 document _ parsed found _
    (List.mem_singleton_self _)
  rw [refused] at selected
  cases selected

end MyLite.Json
