import MyLite.Runtime.LikeMeaning

/-! Where the three LIKE matchers agree with the meaning of a pattern. Two of them look for a
wildcard before the escape. -/

namespace MyLite.Like

open Wildcard (Item Matches)

theorem jsonSearchMatcher_reads (escapeEnabled : Bool) (escape : UInt8) :
    (jsonSearchMatcher escapeEnabled escape).Reads Eq
      (items (if escapeEnabled then some escape else none)) where
  nil := rfl
  ended := fun _ => rfl
  percent := by
    intro byte rest percent
    obtain ⟨isPercent, plain⟩ := Bool.and_eq_true_iff.mp percent
    obtain rfl := eq_of_beq isPercent
    rw [items_plain]
    · rfl
    · cases escapeEnabled with
      | false => exact nofun
      | true =>
        rintro same
        obtain rfl := Option.some.inj same
        cases plain
  single := by
    intro byte rest other
    have marked : (escapeEnabled && byte == escape) = true ↔
        (if escapeEnabled then some escape else none) = some byte := by
      cases escapeEnabled with
      | false => simp
      | true => rw [Bool.true_and, beq_iff_eq, if_pos rfl, Option.some.injEq, eq_comm]
    by_cases mark : (escapeEnabled && byte == escape) = true
    · refine ⟨_, _, by exact nofun, items_escaped rest (marked.mp mark), fun value => ?_⟩
      simp only [jsonSearchMatcher, jsonSearchPatternItemMatches, if_pos mark, Item.Takes]
      exact ⟨fun same => if_pos same, fun differs => if_neg differs⟩
    · have notPercent : byte ≠ 37 := by
        rintro rfl
        simp only [jsonSearchMatcher, jsonSearchPercent, beq_self_eq_true, Bool.true_and] at other
        cases escapeEnabled with
        | false => cases other
        | true =>
          rw [Bool.true_and] at mark
          simp only [Bool.not_true, Bool.false_or, bne_eq_false_iff_eq] at other
          exact mark (beq_iff_eq.mpr other)
      refine ⟨_, _, mt plainItem_sequence.mp notPercent, items_plain rest (mt marked.mpr mark),
        fun value => ?_⟩
      simp only [jsonSearchMatcher, jsonSearchPatternItemMatches, if_neg mark]
      by_cases underscore : byte = 95
      · subst underscore
        exact ⟨fun _ => if_pos rfl, fun rejects => absurd trivial rejects⟩
      · rw [plainItem_literal notPercent underscore, if_neg underscore]
        exact ⟨fun same => if_pos same, fun differs => if_neg differs⟩

/-- The escape the other two matchers heed: none where it is zero or a wildcard. -/
def heededEscape (escapeCharacter : UInt8) : Option UInt8 :=
  if escapeCharacter = 0 ∨ escapeCharacter = 37 ∨ escapeCharacter = 95 then none
  else some escapeCharacter

theorem itemMatcher_reads (caseSensitive : Bool) (escapeCharacter : UInt8) :
    (itemMatcher caseSensitive escapeCharacter).Reads
      (fun byte other => bytesEqual byte other caseSensitive = true)
      (items (heededEscape escapeCharacter)) where
  nil := rfl
  ended := fun _ => rfl
  percent := by
    intro byte rest percent
    obtain rfl := eq_of_beq percent
    rw [items_plain]
    · rfl
    · unfold heededEscape
      split
      · intro same
        cases same
      · rename_i heeded
        simp_all
  single := by
    intro byte rest other
    have notPercent : byte ≠ 37 := ne_of_beq_false other
    by_cases underscore : byte = 95
    · subst underscore
      have plain : heededEscape escapeCharacter ≠ some 95 := by
        unfold heededEscape
        split
        · intro same
          cases same
        · rename_i heeded
          simp_all
      refine ⟨_, _, mt plainItem_sequence.mp notPercent, items_plain rest plain, fun value => ?_⟩
      have taken : patternItemMatches caseSensitive escapeCharacter (95 :: rest) value = some rest := by
        simp [patternItemMatches]
      exact ⟨fun _ => taken, fun rejects => absurd trivial rejects⟩
    · have marked : heededEscape escapeCharacter = some byte ↔
          escapeCharacter ≠ 0 ∧ byte = escapeCharacter := by
        unfold heededEscape
        split_ifs with ignored
        · constructor
          · intro same
            cases same
          · rintro ⟨nonzero, rfl⟩
            simp_all
        · rw [Option.some.injEq, eq_comm]
          exact ⟨fun same => ⟨fun zero => ignored (Or.inl zero), same⟩, fun both => both.2⟩
      by_cases mark : escapeCharacter ≠ 0 ∧ byte = escapeCharacter
      · refine ⟨_, _, ?_, items_escaped rest (marked.mpr mark), fun value => ?_⟩
        · intro same
          cases same
        simp only [itemMatcher, patternItemMatches, if_neg underscore, if_pos mark, Item.Takes]
        exact ⟨fun same => if_pos same, fun differs => if_neg differs⟩
      · refine ⟨_, _, mt plainItem_sequence.mp notPercent, items_plain rest (mt marked.mp mark),
          fun value => ?_⟩
        rw [plainItem_literal notPercent underscore]
        simp only [itemMatcher, patternItemMatches, if_neg underscore, if_neg mark, Item.Takes]
        exact ⟨fun same => if_pos same, fun differs => if_neg differs⟩

/-- `JSON_SEARCH` matches what the pattern means. -/
theorem jsonSearch_iff (pattern value : List UInt8) (escapeEnabled : Bool) (escape : UInt8) :
    jsonSearchPatternMatches pattern value escapeEnabled escape = true ↔
      Means Eq (if escapeEnabled then some escape else none) pattern value := by
  rw [jsonSearchPatternMatches, patternMatches_iff (jsonSearchMatcher_reads escapeEnabled escape),
    means_iff_matches]

theorem bytesEqual_sensitive : (fun byte other : UInt8 => bytesEqual byte other true = true) = Eq := by
  funext byte other
  exact propext beq_iff_eq

/-- The other two match what it means with the escape they heed. -/
theorem itemMatcher_iff (pattern value : List UInt8) (escapeCharacter : UInt8) :
    patternMatches (itemMatcher true escapeCharacter) pattern value = true ↔
      Matches Eq (items (heededEscape escapeCharacter) pattern) value := by
  have decided := patternMatches_iff (itemMatcher_reads true escapeCharacter) pattern value
  rwa [bytesEqual_sensitive] at decided

/-! The words of a pattern with and without its escape. -/

theorem items_absent {mark : UInt8} {pattern : List UInt8} (absent : mark ∉ pattern) :
    items (some mark) pattern = items none pattern := by
  induction pattern with
  | nil => rfl
  | cons byte rest ih =>
    rw [List.mem_cons, not_or] at absent
    have plain : some mark ≠ some byte := fun same => absent.1 (Option.some.inj same)
    rw [items_plain rest plain, items_plain rest (by exact nofun), ih absent.2]

theorem plainItem_mem {byte : UInt8} {pattern : List UInt8} (mem : byte ∈ pattern) :
    plainItem byte ∈ items none pattern := by
  induction pattern with
  | nil => cases mem
  | cons first rest ih =>
    rw [items_plain rest (by exact nofun)]
    rcases List.mem_cons.mp mem with rfl | inRest
    · exact List.mem_cons_self
    · exact List.mem_cons_of_mem _ (ih inRest)

/-- A wildcard that is the escape is none. -/
theorem plainItem_not_mem {mark : UInt8} (wildcard : mark = 37 ∨ mark = 95)
    (pattern : List UInt8) : plainItem mark ∉ items (some mark) pattern := by
  have noLiteral (byte : UInt8) : plainItem mark ≠ .literal byte := by
    rcases wildcard with rfl | rfl <;> exact nofun
  have others {byte : UInt8} (plain : some mark ≠ some byte) : plainItem mark ≠ plainItem byte := by
    intro same
    apply plain
    unfold plainItem at same
    rcases wildcard with rfl | rfl <;> split_ifs at same <;> simp_all
  intro mem
  fun_induction items (some mark) pattern with
  | case1 => cases mem
  | case2 byte =>
    split at mem
    · exact noLiteral _ (List.mem_singleton.mp mem)
    · rename_i plain
      exact others plain (List.mem_singleton.mp mem)
  | case3 byte next rest same ih =>
    rcases List.mem_cons.mp mem with first | inRest
    · exact noLiteral _ first
    · exact ih inRest
  | case4 byte next rest plain ih =>
    rcases List.mem_cons.mp mem with first | inRest
    · exact others plain first
    · exact ih inRest

/-- The three matchers answer what the pattern means; a zero escape character is none. -/
def Agrees (pattern value : List UInt8) (escapeCharacter : UInt8) : Prop :=
  (jsonSearchPatternMatches pattern value (escapeCharacter != 0) escapeCharacter = true ↔
    Means Eq (if escapeCharacter = 0 then none else some escapeCharacter) pattern value) ∧
  (likePatternMatches pattern value true escapeCharacter = true ↔
    Means Eq (if escapeCharacter = 0 then none else some escapeCharacter) pattern value) ∧
  (showLikePatternMatchesWithEscape pattern value true escapeCharacter = true ↔
    Means Eq (if escapeCharacter = 0 then none else some escapeCharacter) pattern value)

/-- The matcher of `JSON_SEARCH` answers what the pattern means on all inputs; all three do on
every value if and only if the escape is no wildcard or does not occur in the pattern. -/
theorem like_matchers_agree_iff (pattern : List UInt8) (escapeCharacter : UInt8) :
    (∀ (escapeEnabled : Bool) (escape : UInt8) (value : List UInt8),
      jsonSearchPatternMatches pattern value escapeEnabled escape = true ↔
        Means Eq (if escapeEnabled then some escape else none) pattern value) ∧
    ((∀ value, Agrees pattern value escapeCharacter) ↔
      (escapeCharacter ≠ 37 ∧ escapeCharacter ≠ 95) ∨ escapeCharacter ∉ pattern) := by
  refine ⟨fun enabled escape value => jsonSearch_iff pattern value enabled escape, ?_, ?_⟩
  · intro agrees
    by_contra fails
    rw [not_or, not_and_or, Decidable.not_not, Decidable.not_not, Decidable.not_not] at fails
    obtain ⟨wildcard, mem⟩ := fails
    have nonzero : escapeCharacter ≠ 0 := by rcases wildcard with rfl | rfl <;> decide
    have heeded : heededEscape escapeCharacter = none := if_pos (Or.inr wildcard)
    -- the words with the escape would be those without it
    have same (word : List UInt8) : Matches Eq (items none pattern) word ↔
        Matches Eq (items (some escapeCharacter) pattern) word := by
      have answered := (agrees word).2.1
      rw [likePatternMatches, itemMatcher_iff, heeded, means_iff_matches, if_neg nonzero] at answered
      exact answered
    have present := plainItem_mem mem
    have missing := plainItem_not_mem wildcard pattern
    rcases wildcard with rfl | rfl
    · exact missing (Wildcard.sequence_mem_of_same 0 same present)
    · exact missing (Wildcard.one_mem_of_same (show (0 : UInt8) ≠ 1 by decide) same present)
  · intro condition value
    have read : items (heededEscape escapeCharacter) pattern =
        items (if escapeCharacter = 0 then none else some escapeCharacter) pattern := by
      unfold heededEscape
      by_cases zero : escapeCharacter = 0
      · rw [if_pos (Or.inl zero), if_pos zero]
      · rw [if_neg zero]
        split
        · rename_i ignored
          rcases condition with ⟨notPercent, notUnderscore⟩ | absent
          · rcases ignored with isZero | percent | underscore
            · exact absurd isZero zero
            · exact absurd percent notPercent
            · exact absurd underscore notUnderscore
          · exact (items_absent absent).symm
        · rfl
    have decided := itemMatcher_iff pattern value escapeCharacter
    rw [read, ← means_iff_matches] at decided
    refine ⟨?_, decided, decided⟩
    rw [jsonSearch_iff]
    by_cases zero : escapeCharacter = 0
    · rw [zero]
      rfl
    · rw [if_neg zero, if_pos (bne_iff_ne.mpr zero)]

/-- With `%` as its own escape, `%%` is one percent sign; two matchers take it for any
bytes. -/
theorem percent_escape_disagrees : ¬ Agrees [37, 37] [120] 37 := by
  rintro ⟨_, like, _⟩
  have matched : likePatternMatches [37, 37] [120] true 37 = true :=
    (itemMatcher_iff [37, 37] [120] 37).mpr (.sequence [120] (.sequence [] .nil))
  have means := like.mp matched
  rw [means_iff_matches] at means
  obtain ⟨_, _, same, takes, _⟩ := (Wildcard.matches_single_iff (by exact nofun)).mp means
  cases same
  cases takes

end MyLite.Like
