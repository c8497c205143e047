import MyLite.Regexp.Found

/-! `REGEXP_REPLACE`: the loop of `regexp_sqlite_replace_all` puts the replacement in the place of
the leftmost matches that do not overlap. -/
namespace MyLite.Regexp

/-- The loop of `regexp_sqlite_replace_all`. -/
def replaceAllLoop (program : Program) (value replacement buffer : List UInt8)
    (appendOffset searchOffset : Nat) : Except MatchStatus (List UInt8) :=
  if _more : searchOffset ≤ value.length then
    match _reported : findAscii program value searchOffset with
    | .error status => .error status
    | .ok found =>
      if _matched : found.matched = true then
        let replaced := buffer ++ slice value appendOffset found.start ++ replacement
        if _empty : found.start = found.end then
          if found.end ≥ value.length then .ok (replaced ++ value.drop found.end)
          else
            replaceAllLoop program value replacement
              (replaced ++ slice value found.end (found.end + 1)) (found.end + 1) (found.end + 1)
        else replaceAllLoop program value replacement replaced found.end found.end
      else .ok (buffer ++ value.drop appendOffset)
  else .ok (buffer ++ value.drop appendOffset)
termination_by value.length + 1 - searchOffset
decreasing_by
  -- an empty match moves on by the byte it copies, another one by its own bytes
  · have forward := findAscii_forward _reported _matched
    omega
  · have forward := findAscii_forward _reported _matched
    omega

theorem replaceAllLoop_step {program : Program} {value : List UInt8} {searchOffset : Nat}
    {found : Match} (inside : searchOffset ≤ value.length)
    (reported : findAscii program value searchOffset = .ok found)
    (replacement buffer : List UInt8) (appendOffset : Nat) :
    replaceAllLoop program value replacement buffer appendOffset searchOffset =
      if found.matched = true then
        let replaced := buffer ++ slice value appendOffset found.start ++ replacement
        if found.start = found.end then
          if found.end ≥ value.length then .ok (replaced ++ value.drop found.end)
          else
            replaceAllLoop program value replacement
              (replaced ++ slice value found.end (found.end + 1)) (found.end + 1) (found.end + 1)
        else replaceAllLoop program value replacement replaced found.end found.end
      else .ok (buffer ++ value.drop appendOffset) := by
  conv =>
    lhs
    unfold replaceAllLoop
  rw [dif_pos inside]
  split
  · rename_i status failed
    rw [reported] at failed
    cases failed
  · rename_i other same
    rw [reported] at same
    cases same
    rfl

/-- `regexp_sqlite_replace_all`. -/
def replaceAll (program : Program) (value replacement : List UInt8) :
    Except MatchStatus (List UInt8) :=
  if value.length = 0 then .ok [] else replaceAllLoop program value replacement [] 0 0

/-- `regexp_sqlite_replace_prepare_arguments` and the loop. -/
def regexpReplace (program : Program) (value replacement : List UInt8) :
    Except MatchStatus (List UInt8) :=
  if !valueIsSupportedAscii replacement then .error .unsupportedValue
  else if !valueIsSupportedAscii value then .error .unsupportedValue
  else replaceAll program value replacement

/-! The matches that do not overlap. -/

/-- The offset behind a match; an empty one takes the next byte with it. -/
def Match.resume (found : Match) : Nat :=
  if found.start = found.end then found.end + 1 else found.end

/-- The leftmost matches from an offset on, each found behind the one before it. -/
inductive Selected (program : Program) (value : List UInt8) : Nat → List Match → Prop
  | done {offset : Nat}
      (none : ∀ before word after, value = before ++ word ++ after → offset ≤ before.length →
        ¬program.Occurs before word after) : Selected program value offset []
  | next {offset : Nat} {found : Match} {later : List Match}
      (reported : findAscii program value offset = .ok found) (matched : found.matched = true)
      (leftmost : Leftmost program.Occurs value offset found)
      (rest : Selected program value found.resume later) :
      Selected program value offset (found :: later)

/-- The value from an offset on with a text in the place of every match. -/
def substituted (value : List UInt8) (text : Match → List UInt8) : Nat → List Match → List UInt8
  | offset, [] => value.drop offset
  | offset, found :: later =>
    slice value offset found.start ++ text found ++ substituted value text found.end later

section Replace
variable {program : Program} {value : List UInt8}

/-- Nothing starts behind the end of the value. -/
theorem Selected.past {offset : Nat} (past : value.length < offset) :
    Selected program value offset [] := by
  refine .done ?_
  intro before word after whole from_offset
  have bounded : before.length ≤ value.length := by
    rw [whole, List.append_assoc, List.length_append]
    exact Nat.le_add_right _ _
  omega

theorem slice_drop (value : List UInt8) {start stop : Nat} (forward : start ≤ stop) :
    slice value start stop ++ value.drop stop = value.drop start := by
  unfold slice
  rw [show value.drop stop = (value.drop start).drop (stop - start) by
    rw [List.drop_drop, Nat.add_sub_cancel' forward], List.take_append_drop]

/-- Bytes in front of the first match are copied. -/
theorem substituted_skip (text : Match → List UInt8) {copied offset : Nat}
    (behind : copied ≤ offset) {spans : List Match}
    (selected : Selected program value offset spans) :
    slice value copied offset ++ substituted value text offset spans =
      substituted value text copied spans := by
  cases selected with
  | done => exact slice_drop value behind
  | next reported matched leftmost rest =>
    obtain ⟨lower, -⟩ := leftmost.spans matched
    unfold substituted
    rw [← List.append_assoc, ← List.append_assoc, slice_append value behind lower]

theorem Match.le_resume (found : Match) : found.end ≤ found.resume := by
  unfold Match.resume
  split
  · exact Nat.le_succ _
  · exact Nat.le_refl _

/-- With the matched words themselves the value comes back: no other byte is lost or doubled. -/
theorem substituted_words {offset : Nat} {spans : List Match}
    (selected : Selected program value offset spans) :
    substituted value (fun found => slice value found.start found.end) offset spans =
      value.drop offset := by
  induction selected with
  | done => rfl
  | @next offset found later reported matched leftmost rest ih =>
    obtain ⟨lower, forward, inside, -⟩ := leftmost.spans matched
    unfold substituted
    rw [← substituted_skip _ found.le_resume rest, ih, slice_drop value found.le_resume,
      List.append_assoc, slice_drop value forward, slice_drop value lower]

/-- From every offset the loop appends the rest of the value with its matches replaced. -/
theorem replaceAllLoop_selected {pattern : List UInt8} {caseSensitive : Bool}
    (compiled : compileAscii pattern caseSensitive = .ok program)
    (short : value.length ≤ valueLengthMax) (supported : valueIsSupportedAscii value = true)
    (replacement buffer : List UInt8) (offset : Nat) :
    ∃ spans, Selected program value offset spans ∧
      replaceAllLoop program value replacement buffer offset offset =
        .ok (buffer ++ substituted value (fun _ => replacement) offset spans) := by
  induction remaining : value.length + 1 - offset using Nat.strong_induction_on
    generalizing buffer offset with
  | _ remaining ih =>
    by_cases inside : offset ≤ value.length
    · obtain ⟨found, reported, leftmost⟩ := findAscii_leftmost compiled short supported offset
      rw [replaceAllLoop_step inside reported]
      by_cases matched : found.matched = true
      · obtain ⟨lower, forward, bounded, -⟩ := leftmost.spans matched
        rw [if_pos matched]
        dsimp only
        by_cases empty : found.start = found.end
        · have resume : found.resume = found.end + 1 := if_pos empty
          rw [if_pos empty]
          by_cases last : found.end ≥ value.length
          · rw [if_pos last]
            refine ⟨[found], .next reported matched leftmost (.past (by omega)), ?_⟩
            simp only [substituted, List.append_assoc]
          · rw [if_neg last]
            obtain ⟨later, rest, result⟩ := ih _ (by omega)
              (buffer ++ slice value offset found.start ++ replacement ++
                slice value found.end (found.end + 1)) (found.end + 1) rfl
            have behind := substituted_skip (fun _ => replacement) (Nat.le_succ found.end) rest
            refine ⟨found :: later, .next reported matched leftmost (resume ▸ rest), ?_⟩
            rw [result, List.append_assoc, behind]
            simp only [substituted, List.append_assoc]
        · have resume : found.resume = found.end := if_neg empty
          rw [if_neg empty]
          obtain ⟨later, rest, result⟩ := ih _ (by omega)
            (buffer ++ slice value offset found.start ++ replacement) found.end rfl
          refine ⟨found :: later, .next reported matched leftmost (resume ▸ rest), ?_⟩
          rw [result]
          simp only [substituted, List.append_assoc]
      · rw [if_neg matched]
        refine ⟨[], .done ?_, rfl⟩
        intro before word after whole from_offset occurs
        exact matched (leftmost.first before word after whole from_offset occurs).1
    · refine ⟨[], .past (Nat.lt_of_not_le inside), ?_⟩
      unfold replaceAllLoop
      exact dif_neg inside

end Replace

/-- What a replacement of all matches comes to. -/
structure Replaces (program : Program) (value replacement : List UInt8) : Prop where
  empty : value = [] → replaceAll program value replacement = .ok []
  tooLarge : value.length > valueLengthMax →
    replaceAll program value replacement = .error .valueTooLarge
  unsupported : value.length ≤ valueLengthMax → valueIsSupportedAscii value = false →
    replaceAll program value replacement = .error .unsupportedValue
  replaces : value ≠ [] → value.length ≤ valueLengthMax → valueIsSupportedAscii value = true →
    ∃ spans, Selected program value 0 spans ∧
      replaceAll program value replacement =
        .ok (substituted value (fun _ => replacement) 0 spans) ∧
      substituted value (fun found => slice value found.start found.end) 0 spans = value

theorem replaceAllLoop_error {program : Program} {value : List UInt8} {status : MatchStatus}
    (failed : findAscii program value 0 = .error status) (replacement : List UInt8) :
    replaceAllLoop program value replacement [] 0 0 = .error status := by
  unfold replaceAllLoop
  rw [dif_pos (Nat.zero_le _)]
  split
  · rename_i other same
    rw [failed] at same
    cases same
    rfl
  · rename_i found same
    rw [failed] at same
    cases same

/-- Of a value that is not empty the loop replaces the leftmost matches that do not overlap and
copies every other byte once. -/
theorem replaceAll_replaces (pattern : List UInt8) (caseSensitive : Bool) (program : Program)
    (compiled : compileAscii pattern caseSensitive = .ok program)
    (value replacement : List UInt8) : Replaces program value replacement := by
  have some_byte {holds : Prop} (other : holds) (none : value = [] → ¬holds) :
      ¬value.length = 0 := fun empty => none (List.eq_nil_of_length_eq_zero empty) other
  refine ⟨?_, ?_, ?_, ?_⟩
  · rintro rfl
    rfl
  · intro long
    unfold replaceAll
    rw [if_neg (by omega)]
    exact replaceAllLoop_error (if_pos long) replacement
  · intro short foreign
    unfold replaceAll
    rw [if_neg (some_byte foreign (by rintro rfl; decide))]
    refine replaceAllLoop_error ?_ replacement
    unfold findAscii
    rw [if_neg (Nat.not_lt_of_le short), if_pos (by simp [foreign])]
  · intro some short supported
    unfold replaceAll
    rw [if_neg (some_byte some fun none => not_not.mpr none)]
    obtain ⟨spans, selected, result⟩ :=
      replaceAllLoop_selected compiled short supported replacement [] 0
    exact ⟨spans, selected, result, substituted_words selected⟩

/-! What a replacement returns. -/

theorem slice_supported {value : List UInt8} (supported : valueIsSupportedAscii value = true)
    (start stop : Nat) : valueIsSupportedAscii (slice value start stop) = true := by
  unfold valueIsSupportedAscii at supported ⊢
  rw [List.all_eq_true] at supported ⊢
  intro byte member
  exact supported byte (List.mem_of_mem_drop (List.mem_of_mem_take member))

theorem supported_append {first second : List UInt8} :
    valueIsSupportedAscii (first ++ second) = true ↔
      valueIsSupportedAscii first = true ∧ valueIsSupportedAscii second = true := by
  simp only [valueIsSupportedAscii, List.all_append, Bool.and_eq_true]

theorem substituted_supported {value replacement : List UInt8}
    (supported : valueIsSupportedAscii value = true)
    (inserted : valueIsSupportedAscii replacement = true) (offset : Nat) (spans : List Match) :
    valueIsSupportedAscii (substituted value (fun _ => replacement) offset spans) = true := by
  induction spans generalizing offset with
  | nil =>
    have whole := slice_supported supported offset value.length
    rwa [slice, List.take_of_length_le (by rw [List.length_drop])] at whole
  | cons found later ih =>
    rw [substituted, supported_append, supported_append]
    exact ⟨⟨slice_supported supported offset found.start, inserted⟩, ih found.end⟩

/-- `REGEXP_REPLACE` returns a text that the matcher supports. -/
theorem regexpReplace_supported {pattern : List UInt8} {caseSensitive : Bool} {program : Program}
    (compiled : compileAscii pattern caseSensitive = .ok program)
    {value replacement text : List UInt8}
    (replaced : regexpReplace program value replacement = .ok text) :
    valueIsSupportedAscii text = true := by
  unfold regexpReplace at replaced
  split at replaced
  · cases replaced
  rename_i inserted
  split at replaced
  · cases replaced
  rename_i supported
  rw [Bool.not_eq_true', Bool.not_eq_false] at inserted supported
  unfold replaceAll at replaced
  split at replaced
  · cases replaced
    rfl
  · by_cases short : value.length ≤ valueLengthMax
    · obtain ⟨spans, _, result⟩ :=
        replaceAllLoop_selected compiled short supported replacement [] 0
      rw [result] at replaced
      cases replaced
      exact substituted_supported supported inserted 0 spans
    · rw [replaceAllLoop_error (if_pos (Nat.lt_of_not_le short))] at replaced
      cases replaced

/-- `a*`, which matches the empty text everywhere. -/
def starA : Program :=
  ⟨[], { caseSensitive := true, tokens := [{ literal := ascii 'a', quantifier := .zeroOrMore }] }⟩

theorem replaceAll_replaces_star :
    Replaces starA [ascii 'b', ascii 'a', ascii 'c'] [ascii 'x'] :=
  replaceAll_replaces [ascii 'a', ascii '*'] true starA (by decide +kernel) _ _

/-- In an empty value the match of the empty text is not replaced. -/
theorem empty_value_stays_empty :
    compileAscii [ascii 'a', ascii '*'] true = .ok starA ∧
      findAscii starA [] 0 = .ok ⟨true, 0, 0⟩ ∧ Leftmost starA.Occurs [] 0 ⟨true, 0, 0⟩ ∧
      ∀ spans, Selected starA [] 0 spans →
        replaceAll starA [] [ascii 'x'] ≠ .ok (substituted [] (fun _ => [ascii 'x']) 0 spans) := by
  have compiled : compileAscii [ascii 'a', ascii '*'] true = .ok starA := by decide +kernel
  have reported : findAscii starA [] 0 = .ok ⟨true, 0, 0⟩ := by decide +kernel
  have find : ∃ found, findAscii starA [] 0 = .ok found ∧ Leftmost starA.Occurs [] 0 found :=
    findAscii_leftmost compiled (Nat.zero_le _) (by decide) 0
  obtain ⟨found, same, leftmost⟩ := find
  rw [reported] at same
  cases same
  refine ⟨compiled, reported, leftmost, ?_⟩
  intro spans selected output
  cases selected with
  | done none =>
    obtain ⟨-, -, -, occurs⟩ := leftmost.spans rfl
    exact none _ _ _ rfl (Nat.zero_le _) occurs
  | next again matched first rest =>
    rw [reported] at again
    cases again
    have emitted := Except.ok.inj output
    simp [substituted, slice] at emitted

example : replaceAll starA [ascii 'b', ascii 'a', ascii 'c'] [ascii 'x'] =
    .ok [ascii 'x', ascii 'b', ascii 'x', ascii 'x', ascii 'c', ascii 'x'] := by decide +kernel

end MyLite.Regexp
