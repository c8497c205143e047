import MyLite.Library.Wildcard
import MyLite.Runtime.LikeMatch

/-! What a LIKE pattern means, and that the loop of the matchers decides it. -/

namespace MyLite.Like

open Wildcard (Item Matches)

/-- `%` stands for any bytes, `_` for one, and the byte behind the escape for itself, also
where the escape is one of the two. An escape at the end stands for itself. -/
inductive Means (equal : UInt8 → UInt8 → Prop) (escape : Option UInt8) :
    List UInt8 → List UInt8 → Prop where
  | nil : Means equal escape [] []
  | escaped {mark byte other : UInt8} {pattern value : List UInt8} :
      escape = some mark → equal byte other → Means equal escape pattern value →
      Means equal escape (mark :: byte :: pattern) (other :: value)
  | dangling {mark other : UInt8} :
      escape = some mark → equal mark other → Means equal escape [mark] [other]
  | percent (front : List UInt8) {pattern value : List UInt8} :
      escape ≠ some 37 → Means equal escape pattern value →
      Means equal escape (37 :: pattern) (front ++ value)
  | underscore {other : UInt8} {pattern value : List UInt8} :
      escape ≠ some 95 → Means equal escape pattern value →
      Means equal escape (95 :: pattern) (other :: value)
  | literal {byte other : UInt8} {pattern value : List UInt8} :
      escape ≠ some byte → byte ≠ 37 → byte ≠ 95 → equal byte other →
      Means equal escape pattern value → Means equal escape (byte :: pattern) (other :: value)

/-- What a byte stands for that no escape precedes. -/
def plainItem (byte : UInt8) : Item UInt8 :=
  if byte = 37 then .sequence else if byte = 95 then .one else .literal byte

/-- The items of a pattern. -/
def items (escape : Option UInt8) : List UInt8 → List (Item UInt8)
  | [] => []
  | [byte] => [if escape = some byte then .literal byte else plainItem byte]
  | byte :: next :: others =>
    if escape = some byte then .literal next :: items escape others
    else plainItem byte :: items escape (next :: others)

section Items

variable {escape : Option UInt8} {byte : UInt8} (rest : List UInt8)

theorem items_escaped (mark : escape = some byte) :
    items escape (byte :: rest) =
      .literal (escapedByte byte rest).1 :: items escape (escapedByte byte rest).2 := by
  cases rest with
  | nil => rw [items, if_pos mark]; rfl
  | cons escaped others => rw [items, if_pos mark]; rfl

theorem items_plain (other : escape ≠ some byte) :
    items escape (byte :: rest) = plainItem byte :: items escape rest := by
  cases rest with
  | nil => simp only [items, if_neg other]
  | cons escaped others => simp only [items, if_neg other]

theorem plainItem_literal (notPercent : byte ≠ 37) (notUnderscore : byte ≠ 95) :
    plainItem byte = .literal byte := by
  rw [plainItem, if_neg notPercent, if_neg notUnderscore]

theorem plainItem_sequence : plainItem byte = .sequence ↔ byte = 37 := by
  unfold plainItem
  split_ifs with percent underscore <;> simp [percent]

end Items

theorem means_of_plain {equal : UInt8 → UInt8 → Prop} {escape : Option UInt8} {byte : UInt8}
    {rest value : List UInt8} (plain : escape ≠ some byte)
    (found : Matches equal (plainItem byte :: items escape rest) value)
    (others : ∀ {value}, Matches equal (items escape rest) value → Means equal escape rest value) :
    Means equal escape (byte :: rest) value := by
  by_cases percent : byte = 37
  · rw [plainItem_sequence.mpr percent] at found
    obtain ⟨front, back, rfl, following⟩ := Wildcard.matches_sequence_iff.mp found
    subst percent
    exact .percent front plain (others following)
  · obtain ⟨other, back, rfl, takes, following⟩ :=
      (Wildcard.matches_single_iff (mt plainItem_sequence.mp percent)).mp found
    by_cases underscore : byte = 95
    · subst underscore
      exact .underscore plain (others following)
    · rw [plainItem_literal percent underscore] at takes
      exact .literal plain percent underscore takes (others following)

/-- A pattern means what its items match. -/
theorem means_iff_matches {equal : UInt8 → UInt8 → Prop} {escape : Option UInt8}
    {pattern value : List UInt8} :
    Means equal escape pattern value ↔ Matches equal (items escape pattern) value := by
  constructor
  · intro found
    induction found with
    | nil => exact .nil
    | escaped mark same _ ih =>
      rw [items_escaped _ mark]
      exact .single same ih
    | dangling mark same =>
      rw [items_escaped _ mark]
      exact .single same .nil
    | percent front other _ ih =>
      rw [items_plain _ other]
      exact .sequence front ih
    | underscore other _ ih =>
      rw [items_plain _ other]
      exact .single trivial ih
    | literal other notPercent notUnderscore same _ ih =>
      rw [items_plain _ other, plainItem_literal notPercent notUnderscore]
      exact .single same ih
  · intro found
    fun_induction items escape pattern generalizing value with
    | case1 =>
      cases found
      exact .nil
    | case2 byte =>
      split at found
      · rename_i mark
        obtain ⟨other, back, rfl, takes, ended⟩ :=
          (Wildcard.matches_single_iff (by exact nofun)).mp found
        cases ended
        exact .dangling mark takes
      · rename_i plain
        refine means_of_plain plain found fun others => ?_
        cases others
        exact .nil
    | case3 byte next others mark ih =>
      obtain ⟨other, back, rfl, takes, following⟩ :=
        (Wildcard.matches_single_iff (by exact nofun)).mp found
      exact .escaped mark takes (ih following)
    | case4 byte next others plain ih => exact means_of_plain plain found ih

/-! The loop. -/

/-- The matcher reads the items of a pattern one by one. -/
structure Matcher.Reads (matcher : Matcher) (equal : UInt8 → UInt8 → Prop)
    (read : List UInt8 → List (Item UInt8)) : Prop where
  nil : read [] = []
  percent : ∀ {byte : UInt8} {rest : List UInt8}, matcher.percent byte = true →
    read (byte :: rest) = .sequence :: read rest
  ended : ∀ byte, matcher.item [] byte = none
  single : ∀ (byte : UInt8) (rest : List UInt8), matcher.percent byte = false →
    ∃ (item : Item UInt8) (next : List UInt8), item ≠ .sequence ∧
      read (byte :: rest) = item :: read next ∧
      ∀ other, (item.Takes equal other → matcher.item (byte :: rest) other = some next) ∧
        (¬ item.Takes equal other → matcher.item (byte :: rest) other = none)

section Loop

variable {matcher : Matcher} {equal : UInt8 → UInt8 → Prop} {read : List UInt8 → List (Item UInt8)}

/-- A match from here, or from a later start behind the last run of percents. -/
def MatchesFrom (equal : UInt8 → UInt8 → Prop) (read : List UInt8 → List (Item UInt8))
    (state : LoopState) : Prop :=
  Matches equal (read state.pattern) state.value ∨
    ∃ start ∈ state.retry, ∃ byte later, start.value = byte :: later ∧
      Matches equal (.sequence :: read start.pattern) later

/-- Between the start to retry from and the state stand only items of one byte each. -/
def Tracks (read : List UInt8 → List (Item UInt8)) (state : LoopState) : Prop :=
  ∀ start ∈ state.retry, ∃ singles : List (Item UInt8), .sequence ∉ singles ∧
    read start.pattern = singles ++ read state.pattern ∧
    singles.length ≤ start.value.length ∧ state.value = start.value.drop singles.length

theorem tracks_initial (pattern value : List UInt8) : Tracks read (.initial pattern value) := by
  intro start mem
  cases mem

theorem tracks_restart (pattern value : List UInt8) : Tracks read (.restart pattern value) := by
  intro start mem
  cases mem
  exact ⟨[], List.not_mem_nil, rfl, Nat.zero_le _, rfl⟩

theorem skip_matches (reads : matcher.Reads equal read) (pattern : List UInt8)
    {word : List UInt8} :
    Matches equal (.sequence :: read pattern) word ↔
      Matches equal (.sequence :: read (skipPercentRun matcher pattern)) word := by
  induction pattern with
  | nil => rfl
  | cons byte rest ih =>
    rw [skipPercentRun, List.dropWhile_cons]
    split
    · rename_i percent
      rw [reads.percent percent, Wildcard.sequence_sequence_iff]
      exact ih
    · rfl

theorem percent_matches (reads : matcher.Reads equal read) {pattern word : List UInt8}
    (percent : startsPercentRun matcher pattern = true) :
    Matches equal (read pattern) word ↔
      Matches equal (.sequence :: read (skipPercentRun matcher pattern)) word := by
  cases pattern with
  | nil => cases percent
  | cons byte rest =>
    rw [startsPercentRun] at percent
    rw [skipPercentRun, List.dropWhile_cons, if_pos percent, reads.percent percent]
    exact skip_matches reads rest

/-- At the end of the value only percents may be left. -/
theorem matches_end_iff (reads : matcher.Reads equal read) (pattern : List UInt8) :
    Matches equal (read pattern) [] ↔ (skipPercentRun matcher pattern).isEmpty = true := by
  induction pattern with
  | nil => simp [reads.nil, skipPercentRun, Matches.nil]
  | cons byte rest ih =>
    rw [skipPercentRun, List.dropWhile_cons]
    split
    · rename_i percent
      rw [reads.percent percent, Wildcard.sequence_nil_iff]
      exact ih
    · rename_i other
      obtain ⟨item, next, single, same, _⟩ := reads.single byte rest (Bool.eq_false_iff.mpr other)
      rw [same, Wildcard.matches_single_iff single]
      simp

/-- A new start behind a run of percents finds whatever an earlier one would. -/
theorem matchesFrom_percent (reads : matcher.Reads equal read) {state : LoopState}
    (tracks : Tracks read state) (percent : startsPercentRun matcher state.pattern = true) :
    MatchesFrom equal read state ↔ Matches equal (read state.pattern) state.value := by
  constructor
  · rintro (here | ⟨start, mem, byte, later, value, found⟩)
    · exact here
    · obtain ⟨singles, noSequence, same, _, reached⟩ := tracks start mem
      cases pattern : state.pattern with
      | nil =>
        rw [pattern] at percent
        cases percent
      | cons first rest =>
        rw [pattern, startsPercentRun] at percent
        rw [same, pattern, reads.percent percent] at found
        rw [reached, value, reads.percent percent]
        exact Wildcard.sequence_leftmost noSequence found
  · exact Or.inl

theorem matchesFrom_restart (pattern value : List UInt8) :
    MatchesFrom equal read (.restart pattern value) ↔
      Matches equal (.sequence :: read pattern) value := by
  unfold MatchesFrom LoopState.restart
  simp only [Option.mem_some_iff, exists_eq_left']
  cases value with
  | nil =>
    rw [Wildcard.sequence_nil_iff]
    simp
  | cons byte later =>
    rw [Wildcard.sequence_cons_iff]
    simp

/-- At the end of the value a later start would have even less to take. -/
theorem matchesFrom_end {state : LoopState} (tracks : Tracks read state)
    (ended : state.value = []) :
    MatchesFrom equal read state ↔ Matches equal (read state.pattern) [] := by
  constructor
  · rintro (here | ⟨start, mem, byte, later, value, found⟩)
    · rwa [ended] at here
    · obtain ⟨singles, noSequence, same, shorter, reached⟩ := tracks start mem
      obtain ⟨front, back, rfl, others⟩ := Wildcard.matches_sequence_iff.mp found
      rw [same] at others
      have fits := (Wildcard.singles_append noSequence others).1
      rw [ended, eq_comm, List.drop_eq_nil_iff, value, List.length_cons, List.length_append] at reached
      omega
  · intro here
    left
    rwa [ended]

theorem tracks_advance {state : LoopState} (tracks : Tracks read state) {item : Item UInt8}
    (single : item ≠ .sequence) {pattern value : List UInt8} {byte : UInt8}
    (same : read state.pattern = item :: read pattern) (taken : state.value = byte :: value)
    (shorterPattern : pattern.length ≤ state.pattern.length)
    (shorterValue : value.length ≤ state.value.length) :
    Tracks read (state.advance pattern value shorterPattern shorterValue) := by
  intro start mem
  obtain ⟨singles, noSequence, front, fits, reached⟩ := tracks start mem
  rw [taken] at reached
  have inside : singles.length < start.value.length := by
    by_contra outside
    rw [List.drop_eq_nil_of_le (Nat.le_of_not_lt outside)] at reached
    cases reached
  refine ⟨singles ++ [item], ?_, ?_, ?_, ?_⟩
  · simp [noSequence, Ne.symm single]
  · rw [front, same]
    simp [LoopState.advance]
  · rw [List.length_append, List.length_singleton]
    omega
  · rw [List.length_append, List.length_singleton, ← List.drop_drop, ← reached]
    rfl

theorem item_takes (reads : matcher.Reads equal read) {pattern next : List UInt8} {byte : UInt8}
    (other : ¬ startsPercentRun matcher pattern = true)
    (taken : matcher.item pattern byte = some next) :
    ∃ item : Item UInt8, item ≠ .sequence ∧ read pattern = item :: read next ∧
      item.Takes equal byte := by
  cases pattern with
  | nil =>
    rw [reads.ended byte] at taken
    cases taken
  | cons first rest =>
    obtain ⟨item, following, single, same, decides⟩ :=
      reads.single first rest (Bool.eq_false_iff.mpr other)
    by_cases takes : item.Takes equal byte
    · rw [(decides byte).1 takes] at taken
      cases taken
      exact ⟨item, single, same, takes⟩
    · rw [(decides byte).2 takes] at taken
      cases taken

theorem item_rejects (reads : matcher.Reads equal read) {pattern : List UInt8} {byte : UInt8}
    (other : ¬ startsPercentRun matcher pattern = true) (rest : List UInt8)
    (rejected : matcher.item pattern byte = none) :
    ¬ Matches equal (read pattern) (byte :: rest) := by
  intro found
  cases pattern with
  | nil =>
    rw [reads.nil] at found
    cases found
  | cons first following =>
    obtain ⟨item, next, single, same, decides⟩ :=
      reads.single first following (Bool.eq_false_iff.mpr other)
    rw [same] at found
    obtain ⟨_, _, values, takes, _⟩ := (Wildcard.matches_single_iff single).mp found
    cases values
    rw [(decides byte).1 takes] at rejected
    cases rejected

/-- The loop decides whether the pattern matches from its state on. -/
theorem matchLoop_iff (reads : matcher.Reads equal read) (state : LoopState)
    (tracks : Tracks read state) :
    matchLoop matcher state = true ↔ MatchesFrom equal read state := by
  fun_induction matchLoop matcher state with
  | case1 state ended => rw [matchesFrom_end tracks ended, matches_end_iff reads]
  | case2 state byte rest value percent atEnd =>
    rw [matchesFrom_percent reads tracks percent, percent_matches reads percent,
      List.isEmpty_iff.mp atEnd, reads.nil]
    constructor
    · intro _
      rw [← List.append_nil state.value]
      exact .sequence _ .nil
    · exact fun _ => rfl
  | case3 state byte rest value percent more ih =>
    rw [ih (tracks_restart _ _), matchesFrom_restart, matchesFrom_percent reads tracks percent,
      percent_matches reads percent]
  | case4 state byte rest value other next item shorter ih =>
    obtain ⟨taken, single, same, takes⟩ := item_takes reads other item
    rw [ih (tracks_advance tracks single same value _ _)]
    unfold MatchesFrom
    rw [same, value, Wildcard.matches_single_iff single]
    constructor
    · rintro (here | later)
      · exact Or.inl ⟨byte, rest, rfl, takes, here⟩
      · exact Or.inr later
    · rintro (⟨_, _, values, _, here⟩ | later)
      · cases values
        exact Or.inl here
      · exact Or.inr later
  | case5 state byte rest value other item retry =>
    constructor
    · exact fun impossible => absurd impossible Bool.false_ne_true
    · rintro (here | ⟨start, mem, _⟩)
      · rw [value] at here
        exact absurd here (item_rejects reads other rest item)
      · rw [retry] at mem
        cases mem
  | case6 state byte rest value other item start retry none =>
    -- the start is no later than the value, which is not at its end
    have shorter := (state.bounded start retry).2
    rw [none, value] at shorter
    cases shorter
  | case7 state byte rest value other item start retry first later same ih =>
    rw [ih (tracks_restart _ _), matchesFrom_restart]
    constructor
    · exact fun found => Or.inr ⟨start, retry, first, later, same, found⟩
    · rintro (here | ⟨earlier, mem, _, _, values, found⟩)
      · rw [value] at here
        exact absurd here (item_rejects reads other rest item)
      · rw [retry] at mem
        cases mem
        rw [same] at values
        cases values
        exact found

/-- The matcher decides what its items match. -/
theorem patternMatches_iff (reads : matcher.Reads equal read) (pattern value : List UInt8) :
    patternMatches matcher pattern value = true ↔ Matches equal (read pattern) value := by
  rw [patternMatches, matchLoop_iff reads _ (tracks_initial pattern value)]
  constructor
  · rintro (here | ⟨start, mem, _⟩)
    · exact here
    · cases mem
  · exact Or.inl

end Loop

end MyLite.Like
