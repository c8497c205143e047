import MyLite.Aggregate.GroupConcatTable
import MyLite.Aggregate.GroupConcatText

/-! What a run of GROUP_CONCAT has of the texts it was given. -/
namespace MyLite.Aggregate

open Collation (CollationKind collationCompare collationMakeKey)

/-! What is joined. -/

/-- The texts that compare equal to no text before them. -/
def firstOfEachClass (collation : CollationKind) (earlier : List (List UInt8)) :
    List (List UInt8) → List (List UInt8)
  | [] => []
  | text :: texts =>
    if earlier.any fun other => collationCompare collation other text = .eq then
      firstOfEachClass collation (earlier ++ [text]) texts
    else text :: firstOfEachClass collation (earlier ++ [text]) texts

def nonNullTexts (values : List Argument) : List (List UInt8) :=
  (values.filter fun value => value.type ≠ .null).map Argument.text

/-- The texts of the rows that are kept, when `earlier` came before them. -/
def keptAfter (isDistinct : Bool) (collation : CollationKind) (earlier : List (List UInt8))
    (values : List Argument) : List (List UInt8) :=
  if isDistinct then firstOfEachClass collation earlier (nonNullTexts values)
  else nonNullTexts values

def keptTexts (isDistinct : Bool) (collation : CollationKind) (values : List Argument) :
    List (List UInt8) :=
  keptAfter isDistinct collation [] values

/-- What a text adds to the kept ones. -/
def keptText (isDistinct : Bool) (collation : CollationKind) (earlier : List (List UInt8))
    (text : List UInt8) : List (List UInt8) :=
  if isDistinct && earlier.any fun other => collationCompare collation other text = .eq then []
  else [text]

theorem keptAfter_cons {isDistinct : Bool} {collation : CollationKind}
    {earlier : List (List UInt8)} {value : Argument} (values : List Argument)
    (nonNull : value.type ≠ .null) :
    keptAfter isDistinct collation earlier (value :: values) =
      keptText isDistinct collation earlier value.text ++
        keptAfter isDistinct collation (earlier ++ [value.text]) values := by
  have texts : nonNullTexts (value :: values) = value.text :: nonNullTexts values := by
    simp [nonNullTexts, nonNull]
  cases isDistinct with
  | false => simp [keptAfter, keptText, texts]
  | true =>
    simp only [keptAfter, keptText, texts, if_true, firstOfEachClass, Bool.true_and]
    split <;> rfl

theorem nonNullTexts_null {value : Argument} (values : List Argument) (null : value.type = .null) :
    nonNullTexts (value :: values) = nonNullTexts values := by
  simp [nonNullTexts, null]

theorem intercalate_append_singleton (separator : List UInt8) {texts : List (List UInt8)}
    (nonempty : texts ≠ []) (text : List UInt8) :
    separator.intercalate (texts ++ [text]) =
      separator.intercalate texts ++ (separator ++ text) := by
  induction texts with
  | nil => exact absurd rfl nonempty
  | cons first texts ih =>
    cases texts with
    | nil => simp [List.intercalate]
    | cons second texts =>
      have later := ih (List.cons_ne_nil _ _)
      simp only [List.intercalate, List.cons_append, List.intersperse_cons_cons,
        List.flatten_cons] at later ⊢
      rw [later]
      simp

/-! The state against the kept texts. -/

/-- The separator and the kept texts are UTF-8. -/
def ValidInputs (separator : List UInt8) (kept : List (List UInt8)) : Prop :=
  Utf8.Valid separator ∧ ∀ text ∈ kept, Utf8.Valid text

/-- The state has the beginning of the joined texts. -/
structure Joins (separator : List UInt8) (limit : Nat) (kept : List (List UInt8))
    (state : GroupConcatState) : Prop where
  saw : state.sawValue = true ↔ kept ≠ []
  cut : ∃ dropped, Cut limit (ValidInputs separator kept) (separator.intercalate kept) state.bytes
    dropped state.truncated

section Joins

variable {separator : List UInt8} {limit : Nat} {kept : List (List UInt8)}
  {state : GroupConcatState}

theorem joins_zero (separator : List UInt8) (limit : Nat) : Joins separator limit [] .zero :=
  ⟨by simp [GroupConcatState.zero], [], cut_nil limit _⟩

theorem ValidInputs.of_append {text : List UInt8} (valid : ValidInputs separator (kept ++ [text])) :
    ValidInputs separator kept ∧ Utf8.Valid text := by
  obtain ⟨validSeparator, validTexts⟩ := valid
  rw [List.forall_mem_append, List.forall_mem_singleton] at validTexts
  exact ⟨⟨validSeparator, validTexts.1⟩, validTexts.2⟩

theorem Joins.nonempty (joins : Joins separator limit kept state)
    (truncated : state.truncated = true) : kept ≠ [] := by
  rintro rfl
  obtain ⟨dropped, cut⟩ := joins.cut
  have parts : [] = state.bytes ++ dropped := cut.parts
  exact cut.flag.1 truncated (List.append_eq_nil_iff.1 parts.symm).2

/-- A state that was cut takes nothing more. -/
theorem Joins.skip (joins : Joins separator limit kept state)
    (truncated : state.truncated = true) (text : List UInt8) :
    Joins separator limit (kept ++ [text]) state := by
  have nonempty := joins.nonempty truncated
  obtain ⟨dropped, cut⟩ := joins.cut
  rw [truncated] at cut
  refine ⟨by simp [joins.saw.2 nonempty], dropped ++ (separator ++ text), ?_⟩
  rw [intercalate_append_singleton separator nonempty, truncated]
  refine (cut.mono fun valid => valid.of_append.1).skip fun valid => ?_
  exact valid.1.append valid.of_append.2

theorem Joins.appendText {joined bytes text : List UInt8} (uncut : state.truncated = false)
    (cut : Cut limit (ValidInputs separator (kept ++ [text])) joined bytes [] false)
    (last : separator.intercalate (kept ++ [text]) = joined ++ text) (ordinal : Nat) :
    Joins separator limit (kept ++ [text])
      (groupConcatAppendText state bytes text limit ordinal) := by
  obtain ⟨dropped, appended⟩ := cut.append  fun valid => valid.of_append.2
  rw [← last] at appended
  rw [groupConcatAppendText]
  generalize groupConcatAppendBytes bytes text limit = result at appended ⊢
  obtain ⟨bytes, complete⟩ := result
  cases complete with
  | false => exact ⟨by simp, dropped, appended⟩
  | true =>
    refine ⟨by simp, dropped, ?_⟩
    simp only [Bool.not_true] at appended
    simpa [uncut] using appended

/-- A kept row is appended behind a separator, unless it is the first one. -/
theorem Joins.append (joins : Joins separator limit kept state) (uncut : state.truncated = false)
    (text : List UInt8) (ordinal : Nat) :
    Joins separator limit (kept ++ [text])
      (groupConcatAppendKept state text separator limit ordinal) := by
  obtain ⟨dropped, cut⟩ := joins.cut
  rw [uncut] at cut
  rw [cut.dropped_nil] at cut
  have before : Cut limit (ValidInputs separator (kept ++ [text])) _ state.bytes [] false :=
    cut.mono fun valid => valid.of_append.1
  rw [groupConcatAppendKept]
  by_cases saw : state.sawValue = true
  · have joined := intercalate_append_singleton separator (joins.saw.1 saw) text
    rw [← List.append_assoc] at joined
    obtain ⟨rest, separated⟩ := before.append  fun valid => valid.1
    rw [if_pos saw]
    generalize groupConcatAppendBytes state.bytes separator limit = result at separated ⊢
    obtain ⟨bytes, complete⟩ := result
    cases complete with
    | false =>
      refine ⟨by simp [saw], rest ++ text, ?_⟩
      rw [joined]
      exact separated.skip fun valid => valid.of_append.2
    | true =>
      simp only [Bool.not_true] at separated
      rw [separated.dropped_nil] at separated
      exact Joins.appendText uncut separated joined ordinal
  · have first : kept = [] := by
      simpa [saw] using joins.saw
    subst first
    rw [if_neg saw]
    exact Joins.appendText uncut before (by simp [List.intercalate]) ordinal

end Joins

/-! Runs. -/

def textArgument (text : List UInt8) : Argument :=
  ⟨.text, 0, text⟩

/-- The rows of values that are joined by one separator under one collation. -/
def groupConcatRows (separator collationName : List UInt8) (values : List Argument) :
    List GroupConcatRow :=
  values.map fun value => ⟨value, textArgument separator, textArgument collationName⟩

/-- What the state has of the texts that came so far and those of them that were kept. -/
structure Tracks (isDistinct : Bool) (collation : CollationKind) (separator : List UInt8)
    (limit : Nat) (seen kept : List (List UInt8)) (state : GroupConcatState) : Prop where
  joins : Joins separator limit kept state
  table : HoldsKeys state.distinctEntries state.distinctCount
  sameCollation : state.distinctCollation = none ∨ state.distinctCollation = some collation
  recorded : isDistinct = true → state.truncated = false →
    ∀ entry, some entry ∈ state.distinctEntries ↔
      ∃ text ∈ seen, entry = distinctEntry collation text

section Runs

variable {isDistinct : Bool} {collation : CollationKind} {separator : List UInt8} {limit : Nat}
  {seen kept : List (List UInt8)} {state : GroupConcatState}

theorem tracks_zero (isDistinct : Bool) (collation : CollationKind) (separator : List UInt8)
    (limit : Nat) : Tracks isDistinct collation separator limit [] [] .zero :=
  ⟨joins_zero separator limit, holdsKeys_zero, .inl rfl, by simp [GroupConcatState.zero]⟩

theorem Tracks.skip (tracks : Tracks isDistinct collation separator limit seen kept state)
    (truncated : state.truncated = true) (text : List UInt8) :
    Tracks isDistinct collation separator limit (seen ++ [text])
      (kept ++ keptText isDistinct collation seen text) state := by
  refine ⟨?_, tracks.table, tracks.sameCollation, ?_⟩
  · rw [keptText]
    split
    · rw [List.append_nil]
      exact tracks.joins
    · exact tracks.joins.skip truncated text
  · intro _ uncut
    rw [truncated] at uncut
    cases uncut

/-- A recorded key is the key of an earlier text that compares equal. -/
theorem Tracks.duplicate_iff (tracks : Tracks true collation separator limit seen kept state)
    (uncut : state.truncated = false) (text : List UInt8) :
    some (distinctEntry collation text) ∈ state.distinctEntries ↔
      (seen.any fun other => collationCompare collation other text = .eq) = true := by
  rw [tracks.recorded rfl uncut, List.any_eq_true]
  simp only [distinctEntry_inj, decide_eq_true_eq, ← Collation.collationMakeKey_eq_iff]
  constructor
  · rintro ⟨other, mem, same⟩
    exact ⟨other, mem, same.symm⟩
  · rintro ⟨other, mem, same⟩
    exact ⟨other, mem, same.symm⟩

/-- Appending keeps the table. -/
theorem groupConcatAppendKept_table (state : GroupConcatState) (value separator : List UInt8)
    (limit ordinal : Nat) :
    (groupConcatAppendKept state value separator limit ordinal).distinctEntries =
        state.distinctEntries ∧
      (groupConcatAppendKept state value separator limit ordinal).distinctCount =
        state.distinctCount ∧
      (groupConcatAppendKept state value separator limit ordinal).distinctCollation =
        state.distinctCollation := by
  simp only [groupConcatAppendKept, groupConcatAppendText]
  refine ⟨?_, ?_, ?_⟩ <;> grind

theorem groupConcatAppendValue_tracks
    (tracks : Tracks isDistinct collation separator limit seen kept state)
    (uncut : state.truncated = false) (ordinal : Nat) (value : Argument) :
    ∃ after, groupConcatAppendValue isDistinct limit ordinal state value (textArgument separator)
        collation = .ok after ∧
      Tracks isDistinct collation separator limit (seen ++ [value.text])
        (kept ++ keptText isDistinct collation seen value.text) after := by
  have present : ¬(textArgument separator).type = .null := by
    rintro ⟨⟩
  rw [groupConcatAppendValue, if_neg present]
  cases isDistinct with
  | false =>
    obtain ⟨entries, count, same⟩ := groupConcatAppendKept_table state value.text separator limit
      ordinal
    refine ⟨_, rfl, tracks.joins.append uncut value.text ordinal, ?_, ?_, ?_⟩
    · rw [textArgument, entries, count]
      exact tracks.table
    · rw [textArgument, same]
      exact tracks.sameCollation
    · intro distinct
      cases distinct
  | true =>
    obtain ⟨entries, count, duplicate, recorded, table, found, members⟩ :=
      groupConcatRecordDistinctValue_holds tracks.table tracks.sameCollation value.text
    rw [tracks.duplicate_iff uncut] at found
    have seenMembers (entry : DistinctEntry) : some entry ∈ entries ↔
        ∃ text ∈ seen ++ [value.text], entry = distinctEntry collation text := by
      rw [members, tracks.recorded rfl uncut]
      simp only [List.mem_append, List.mem_singleton]
      grind
    have joins : Joins separator limit kept { state with
        distinctEntries := entries
        distinctCount := count
        distinctCollation := some collation } :=
      ⟨tracks.joins.saw, tracks.joins.cut⟩
    simp only [if_true, recorded]
    cases duplicate with
    | true =>
      refine ⟨_, rfl, ?_, table, .inr rfl, fun _ _ => seenMembers⟩
      rw [keptText, Bool.true_and, if_pos (found.1 rfl), List.append_nil]
      exact joins
    | false =>
      have new : ¬(seen.any fun other => collationCompare collation other value.text = .eq) =
          true := by
        rw [← found]
        exact Bool.false_ne_true
      obtain ⟨sameEntries, sameCount, same⟩ := groupConcatAppendKept_table { state with
        distinctEntries := entries
        distinctCount := count
        distinctCollation := some collation } value.text separator limit ordinal
      rw [keptText, Bool.true_and, if_neg new]
      refine ⟨_, rfl, joins.append uncut value.text ordinal, ?_, ?_, ?_⟩
      · rw [textArgument, sameEntries, sameCount]
        exact table
      · rw [textArgument, same]
        exact .inr rfl
      · intro _ _ entry
        rw [textArgument, sameEntries]
        exact seenMembers entry

/-- A row with a value: the session's row ordinal runs over, or the state goes on. -/
theorem groupConcatStep_tracks {session : GroupConcatSession} {start : Option GroupConcatState}
    {collationName : List UInt8} {value : Argument}
    (tracks : Tracks isDistinct (collationKindFromName (cString collationName)) separator
      (groupConcatSizeLimit session.maxLen) seen kept (start.getD .zero))
    (nonNull : value.type ≠ .null) :
    (groupConcatStep isDistinct session start
        ⟨value, textArgument separator, textArgument collationName⟩ =
        .error groupConcatOrdinalOverflow ∧ session.valueOrdinal = uint64Max) ∨
    ∃ next after, groupConcatStep isDistinct session start
        ⟨value, textArgument separator, textArgument collationName⟩ = .ok (next, some after) ∧
      next.maxLen = session.maxLen ∧ next.valueOrdinal ≤ session.valueOrdinal + 1 ∧
      Tracks isDistinct (collationKindFromName (cString collationName)) separator
        (groupConcatSizeLimit session.maxLen) (seen ++ [value.text])
        (kept ++ keptText isDistinct (collationKindFromName (cString collationName)) seen
          value.text) after := by
  have named : ¬(textArgument collationName).type = .null := by
    rintro ⟨⟩
  rw [groupConcatStep, if_neg nonNull]
  dsimp only
  by_cases truncated : (start.getD .zero).truncated = true
  · rw [if_pos truncated]
    exact .inr ⟨_, _, rfl, rfl, Nat.le_succ _, tracks.skip truncated value.text⟩
  · rw [if_neg truncated]
    by_cases full : session.valueOrdinal = uint64Max
    · rw [if_pos full]
      exact .inl ⟨rfl, full⟩
    · rw [if_neg full, if_neg named]
      obtain ⟨after, appended, kept⟩ := groupConcatAppendValue_tracks tracks
        (Bool.eq_false_iff.2 truncated) (session.valueOrdinal + 1) value
      have sameName : (textArgument collationName).text = collationName := rfl
      rw [sameName, appended]
      exact .inr ⟨_, _, rfl, rfl, Nat.le_refl _, kept⟩

theorem keptAfter_null {isDistinct : Bool} {collation : CollationKind}
    {earlier : List (List UInt8)} {value : Argument} (values : List Argument)
    (null : value.type = .null) :
    keptAfter isDistinct collation earlier (value :: values) =
      keptAfter isDistinct collation earlier values := by
  rw [keptAfter, nonNullTexts_null values null, ← keptAfter]

theorem groupConcatRun_tracks {collationName : List UInt8} (values : List Argument)
    {session : GroupConcatSession} {start : Option GroupConcatState}
    (tracks : Tracks isDistinct (collationKindFromName (cString collationName)) separator
      (groupConcatSizeLimit session.maxLen) seen kept (start.getD .zero)) :
    (groupConcatRun isDistinct session start (groupConcatRows separator collationName values) =
        .error groupConcatOrdinalOverflow ∧ uint64Max < session.valueOrdinal + values.length) ∨
    ∃ last final, groupConcatRun isDistinct session start
        (groupConcatRows separator collationName values) = .ok (last, final) ∧
      Tracks isDistinct (collationKindFromName (cString collationName)) separator
        (groupConcatSizeLimit session.maxLen) (seen ++ nonNullTexts values)
        (kept ++ keptAfter isDistinct (collationKindFromName (cString collationName)) seen values)
        (final.getD .zero) := by
  induction values generalizing session start seen kept with
  | nil =>
    refine .inr ⟨session, start, rfl, ?_⟩
    have none : keptAfter isDistinct (collationKindFromName (cString collationName)) seen [] =
        [] := by
      cases isDistinct <;> rfl
    rw [none, List.append_nil]
    simpa [nonNullTexts] using tracks
  | cons value values ih =>
    have rows : groupConcatRows separator collationName (value :: values) =
        ⟨value, textArgument separator, textArgument collationName⟩ ::
          groupConcatRows separator collationName values := rfl
    rw [rows, groupConcatRun, List.length_cons]
    by_cases null : value.type = .null
    · have stays : groupConcatStep isDistinct session start
          ⟨value, textArgument separator, textArgument collationName⟩ = .ok (session, start) := by
        rw [groupConcatStep, if_pos null]
      rw [stays, nonNullTexts_null values null, keptAfter_null values null]
      rcases ih tracks with ⟨failed, overflow⟩ | done
      · exact .inl ⟨failed, by omega⟩
      · exact .inr done
    · rcases groupConcatStep_tracks tracks null with ⟨failed, full⟩ | ⟨next, after, stepped, maxLen,
        ordinal, tracks⟩
      · rw [failed]
        exact .inl ⟨rfl, by omega⟩
      · rw [stepped]
        rw [← maxLen] at tracks
        have texts : seen ++ nonNullTexts (value :: values) =
            seen ++ [value.text] ++ nonNullTexts values := by
          simp [nonNullTexts, null]
        rw [keptAfter_cons values null, ← List.append_assoc, texts, ← maxLen]
        rcases @ih _ _ next (some after) tracks with ⟨failed, overflow⟩ | done
        · exact .inl ⟨failed, by omega⟩
        · exact .inr done

end Runs

theorem groupConcatSizeLimit_le (value : Nat) : groupConcatSizeLimit value ≤ value := by
  rw [groupConcatSizeLimit]
  split
  · rename_i large
    exact Nat.le_of_lt large
  · exact Nat.le_refl _

/-- The result over the kept texts: NULL without any, and otherwise the beginning of the joined
texts. The rest of them was dropped, which the flag and the warning tell. -/
structure IsResult (separator : List UInt8) (maxLen : Nat) (kept : List (List UInt8))
    (final : Option GroupConcatState) : Prop where
  null : kept = [] → groupConcatFinal final = (.null, none)
  text : kept ≠ [] → ∃ state dropped, final = some state ∧
    (groupConcatFinal final).1 = .text state.bytes ∧
    (groupConcatFinal final).2.isSome = state.truncated ∧
    separator.intercalate kept = state.bytes ++ dropped ∧
    state.bytes.length ≤ maxLen ∧
    (state.truncated = true ↔ dropped ≠ []) ∧
    (ValidInputs separator kept → Utf8.Valid state.bytes ∧ Utf8.Valid dropped)

theorem Joins.isResult {separator : List UInt8} {maxLen : Nat} {kept : List (List UInt8)}
    {final : Option GroupConcatState}
    (joins : Joins separator (groupConcatSizeLimit maxLen) kept (final.getD .zero)) :
    IsResult separator maxLen kept final := by
  constructor
  · rintro rfl
    have unseen : (final.getD .zero).sawValue = false := by
      simpa using joins.saw
    cases final with
    | none => rfl
    | some state =>
      rw [Option.getD_some] at unseen
      rw [groupConcatFinal, unseen]
      rfl
  · intro nonempty
    have saw := joins.saw.2 nonempty
    cases final with
    | none => cases saw
    | some state =>
      rw [Option.getD_some] at saw joins
      obtain ⟨dropped, cut⟩ := joins.cut
      refine ⟨state, dropped, rfl, ?_, ?_, cut.parts,
        Nat.le_trans cut.short (groupConcatSizeLimit_le maxLen), cut.flag, cut.whole⟩
      · simp [groupConcatFinal, saw]
      · cases truncated : state.truncated <;> simp [groupConcatFinal, saw, truncated]

/-- GROUP_CONCAT over any rows. Unless the session runs out of row ordinals, every probe of the
table ends; the result is the beginning of the kept texts joined, within the maximal length; the
texts that DISTINCT keeps are those that compare equal to no earlier one; and the table has a power
of two of slots, one of them free. -/
theorem groupConcat_result (isDistinct : Bool) (session : GroupConcatSession)
    (separator collationName : List UInt8) (values : List Argument) :
    (groupConcatRun isDistinct session none (groupConcatRows separator collationName values) =
        .error groupConcatOrdinalOverflow ∧ uint64Max < session.valueOrdinal + values.length) ∨
    ∃ last final, groupConcatRun isDistinct session none
        (groupConcatRows separator collationName values) = .ok (last, final) ∧
      IsResult separator session.maxLen
        (keptTexts isDistinct (collationKindFromName (cString collationName)) values) final ∧
      ∀ state ∈ final, state.distinctEntries = [] ∨ ProbesEnd state.distinctEntries := by
  have start : Tracks isDistinct (collationKindFromName (cString collationName)) separator
      (groupConcatSizeLimit session.maxLen) [] [] ((none : Option GroupConcatState).getD .zero) :=
    tracks_zero ..
  rcases groupConcatRun_tracks values start with overflow | ⟨last, final, run, tracks⟩
  · exact .inl overflow
  · refine .inr ⟨last, final, run, tracks.joins.isResult, ?_⟩
    rintro state ⟨⟩
    rcases tracks.table.room with ⟨empty, -⟩ | room
    · exact .inl empty
    · exact .inr (room.probesEnd tracks.table.counted)

end MyLite.Aggregate
