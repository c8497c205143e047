import MyLite.Sql.KeywordLookup

/-! The keyword lookup finds what a linear scan of its table finds. -/

namespace MyLite.Sql

open BinarySearch (Ascending search search_sound search_complete)

/-- The text is the word but for the case of ASCII letters. -/
def EqualsIgnoringCase (text word : List UInt8) : Prop :=
  text.map asciiUpper = word.map asciiUpper

/-- The comparison of the lookup is the lexicographic one, the text in upper case. -/
theorem compareBytes_eq (text keyword : List UInt8) :
    compareBytes text keyword = compare (text.map asciiUpper) keyword := by
  induction text generalizing keyword with
  | nil => cases keyword <;> rfl
  | cons byte text ih =>
    cases keyword with
    | nil => rfl
    | cons expected keyword =>
      have bytes : compare (asciiUpper byte) expected =
          if asciiUpper byte < expected then .lt
          else if asciiUpper byte = expected then .eq else .gt := rfl
      rw [compareBytes, List.map_cons, ih]
      have split : compare (asciiUpper byte :: text.map asciiUpper) (expected :: keyword) =
          (compare (asciiUpper byte) expected).then (compare (text.map asciiUpper) keyword) :=
        List.compareLex_cons_cons
      rw [split, bytes]
      split
      · rfl
      · rename_i notLess
        split
        · rename_i less
          have different : asciiUpper byte ≠ expected := by
            intro same
            rw [same] at less
            exact UInt8.lt_irrefl _ less
          rw [if_neg different]
          rfl
        · rename_i notGreater
          rw [if_pos (UInt8.le_antisymm (UInt8.not_lt.mp notGreater) (UInt8.not_lt.mp notLess))]
          rfl

theorem compareKeywordText_eq (text : List UInt8) (word : String) :
    compareKeywordText text word = compare (text.map asciiUpper).tail (spelling word).tail := by
  rw [compareKeywordText, compareBytes_eq, List.map_tail]

/-- Two texts that differ in case only are looked up among the hot words alike. -/
theorem lookupHotKeywordIndex_congr {text other : List UInt8}
    (same : text.map asciiUpper = other.map asciiUpper) (length : Nat) (first : UInt8) :
    lookupHotKeywordIndex text length first = lookupHotKeywordIndex other length first := by
  unfold lookupHotKeywordIndex
  simp only [compareKeywordText_eq, same]

/-! The table. -/

theorem entryReachable_of_mem {position index : Nat} {entries : List KeywordEntry}
    (reachable : entriesReachable position entries = true) {entry : KeywordEntry}
    (listed : entries[index]? = some entry) : entryReachable entry (position + index) = true := by
  induction entries generalizing position index with
  | nil => cases listed
  | cons first rest ih =>
    obtain ⟨here, later⟩ := Bool.and_eq_true_iff.mp reachable
    cases index with
    | zero =>
      cases listed
      exact here
    | succ index =>
      have shifted : position + (index + 1) = position + 1 + index := by omega
      rw [shifted]
      exact ih later listed

/-- What the table is checked for, at one of its entries. -/
theorem entry_reachable {position : Nat} {entry : KeywordEntry}
    (listed : keywords[position]? = some entry) :
    ∃ (first : UInt8) (rest : List UInt8) (range : KeywordRange),
      spelling entry.word = first :: rest ∧
      (first :: rest).map asciiUpper = first :: rest ∧
      rest.length < maximumKeywordLength ∧
      keywordLengthIsPossible first (rest.length + 1) = true ∧
      keywordSearchRange first = some range ∧
      (lookupHotKeywordIndex (first :: rest) (rest.length + 1) first = some position ∨
        (lookupHotKeywordIndex (first :: rest) (rest.length + 1) first = none ∧
          keywordSecondCharIsPossible first (rest.headD 0) (rest.length + 1) = true ∧
          range.low ≤ position ∧ position < range.high)) := by
  have reachable := entryReachable_of_mem entries_reachable listed
  rw [Nat.zero_add, entryReachable] at reachable
  cases spelled : spelling entry.word with
  | nil =>
    rw [spelled] at reachable
    cases reachable
  | cons first rest =>
    rw [spelled] at reachable
    simp only [Bool.and_eq_true, Option.any_eq_true, decide_eq_true_eq] at reachable
    obtain ⟨⟨⟨upper, short⟩, possible⟩, range, found, inside⟩ := reachable
    refine ⟨first, rest, range, rfl, ?_, short, possible, found, ?_⟩
    · rw [List.map_congr_left fun byte mem => eq_of_beq (List.all_eq_true.mp upper byte mem)]
      exact List.map_id' _
    · split at inside
      · rename_i index hot
        rw [eq_of_beq inside] at hot
        exact Or.inl hot
      · rename_i notHot
        simp only [Bool.and_eq_true, decide_eq_true_eq] at inside
        exact Or.inr ⟨notHot, inside.1.1, inside.1.2, inside.2⟩

/-- A hot word stands in the table at its index and starts with the byte of its case. -/
theorem hot_listed {text : List UInt8} {length index : Nat} {first : UInt8}
    (found : lookupHotKeywordIndex text length first = some index) :
    ∃ entry, keywords[index]? = some entry ∧ (spelling entry.word).head? = some first ∧
      compareKeywordText text entry.word = .eq := by
  unfold lookupHotKeywordIndex at found
  simp only [Option.map_eq_some_iff, Option.bind_eq_some_iff] at found
  obtain ⟨⟨word, index⟩, ⟨cases, ofLength, words, ofFirst, chosen⟩, rfl⟩ := found
  obtain ⟨before, after, lengths, _⟩ := List.lookup_eq_some_iff.mp ofLength
  obtain ⟨earlier, later, firsts, _⟩ := List.lookup_eq_some_iff.mp ofFirst
  have listed := List.all_eq_true.mp hot_keywords_listed (length, cases) (by rw [lengths]; simp)
  have inCase := List.all_eq_true.mp listed (first, words) (by rw [firsts]; simp)
  have hot := List.all_eq_true.mp inCase (word, index) (List.mem_of_find?_eq_some chosen)
  have equal := List.find?_some chosen
  simp only [hotKeywordListed, Bool.and_eq_true, Option.any_eq_true, beq_iff_eq] at hot
  obtain ⟨⟨entry, atIndex, same⟩, head⟩ := hot
  refine ⟨entry, atIndex, by rw [same]; exact head, ?_⟩
  rw [compareKeywordText, same]
  exact eq_of_beq equal

/-- Ascending words are pairwise so. -/
theorem ascendingWords_pairwise {words : List (List UInt8)}
    (upper : ∀ word ∈ words, word.map asciiUpper = word) (ascending : ascendingWords words = true)
    {first second : Nat} (before : first < second) {left right : List UInt8}
    (leftListed : words[first]? = some left) (rightListed : words[second]? = some right) :
    compare left.tail right.tail = .lt := by
  induction words generalizing first second left with
  | nil => cases leftListed
  | cons word rest ih =>
    have upperRest : ∀ word ∈ rest, word.map asciiUpper = word :=
      fun word mem => upper word (List.mem_cons_of_mem _ mem)
    cases second with
    | zero => exact absurd before (Nat.not_lt_zero _)
    | succ second =>
      rw [List.getElem?_cons_succ] at rightListed
      cases rest with
      | nil => cases rightListed
      | cons next rest =>
        obtain ⟨less, others⟩ := Bool.and_eq_true_iff.mp ascending
        cases first with
        | succ first => exact ih upperRest others (Nat.lt_of_succ_lt_succ before) leftListed rightListed
        | zero =>
          cases leftListed
          have step : compare word.tail next.tail = .lt := by
            have compared := eq_of_beq less
            rwa [compareBytes_eq, List.map_tail, upper word List.mem_cons_self] at compared
          cases second with
          | zero =>
            cases rightListed
            exact step
          | succ second =>
            have later := ih upperRest others (Nat.succ_pos second) rfl rightListed
            exact Std.TransCmp.lt_trans step later

/-- The words of the table are in upper case. -/
theorem spelling_upper {position : Nat} {entry : KeywordEntry}
    (listed : keywords[position]? = some entry) :
    (spelling entry.word).map asciiUpper = spelling entry.word := by
  obtain ⟨first, rest, _, spelled, upper, _⟩ := entry_reachable listed
  rw [spelled, upper]

theorem keywordSearchRange_mem {first : UInt8} {range : KeywordRange}
    (found : keywordSearchRange first = some range) :
    rangeSorted range = true ∧ range.first = first :=
  ⟨List.all_eq_true.mp ranges_sorted range (List.mem_of_find?_eq_some found),
    by simpa using List.find?_some found⟩

/-- A position of a range is one of the table, whose word starts with the range's byte. -/
theorem range_listed {range : KeywordRange} (sorted : rangeSorted range = true) {position : Nat}
    (above : range.low ≤ position) (below : position < range.high) :
    ∃ entry, keywords[position]? = some entry ∧
      (spelling entry.word).head? = some range.first ∧
      ((((keywords.drop range.low).take (range.high - range.low)).map fun entry =>
        spelling entry.word)[position - range.low]? = some (spelling entry.word)) := by
  simp only [rangeSorted, Bool.and_eq_true, beq_iff_eq] at sorted
  obtain ⟨⟨length, heads⟩, _⟩ := sorted
  have place : (keywords.drop range.low)[position - range.low]? = keywords[position]? := by
    rw [List.getElem?_drop, Nat.add_sub_cancel' above]
  have inside : ((((keywords.drop range.low).take (range.high - range.low)).map fun entry =>
      spelling entry.word)[position - range.low]?) =
        keywords[position]?.map fun entry => spelling entry.word := by
    rw [List.getElem?_map, List.getElem?_take_of_lt (by omega), place]
  have isSome : position - range.low < ((((keywords.drop range.low).take
      (range.high - range.low)).map fun entry => spelling entry.word).length) := by
    rw [length]
    omega
  rw [List.getElem?_eq_getElem isSome] at inside
  obtain ⟨entry, listed, same⟩ := Option.map_eq_some_iff.mp inside.symm
  refine ⟨entry, listed, ?_, ?_⟩
  · have head := List.all_eq_true.mp heads _ (List.getElem_mem isSome)
    rw [← same] at head
    exact eq_of_beq head
  · rw [List.getElem?_eq_getElem isSome, same]

theorem range_ascending {range : KeywordRange} (sorted : rangeSorted range = true)
    (text : List UInt8) :
    Ascending (compareAt text) range.low range.high := by
  intro first second above before below notAfter
  obtain ⟨left, leftListed, _, leftWord⟩ := range_listed sorted above (by omega)
  obtain ⟨right, rightListed, _, rightWord⟩ := range_listed sorted (by omega) below
  have ascends : ascendingWords (((keywords.drop range.low).take (range.high - range.low)).map
      fun entry => spelling entry.word) = true := (Bool.and_eq_true_iff.mp sorted).2
  have upper : ∀ word ∈ ((keywords.drop range.low).take (range.high - range.low)).map
      (fun entry => spelling entry.word), word.map asciiUpper = word := by
    intro word mem
    obtain ⟨entry, member, rfl⟩ := List.mem_map.mp mem
    obtain ⟨position, listed⟩ := List.mem_iff_getElem?.mp
      (List.mem_of_mem_drop (List.mem_of_mem_take member))
    exact spelling_upper listed
  have less := ascendingWords_pairwise upper ascends (by omega) leftWord rightWord
  rw [compareAt, leftListed] at notAfter
  rw [compareAt, rightListed]
  dsimp only at notAfter ⊢
  rw [compareKeywordText_eq] at notAfter ⊢
  exact Std.TransCmp.lt_of_isLE_of_lt (Ordering.isLE_iff_ne_gt.mpr notAfter) less

/-! The lookup. -/

/-- Equal tails behind equal first bytes. -/
theorem map_upper_eq {byte first : UInt8} {text : List UInt8} {word : List UInt8}
    (head : word.head? = some first) (same : asciiUpper byte = first)
    (tails : (text.map asciiUpper) = word.tail) : (byte :: text).map asciiUpper = word := by
  cases word with
  | nil => cases head
  | cons letter rest =>
    cases head
    rw [List.map_cons, same, tails]
    rfl

theorem lookup_sound {text : List UInt8} {keyword : Keyword}
    (found : sqlKeywordLookup text = some keyword) :
    ∃ entry, keywords[keyword.keywordIndex]? = some entry ∧ keyword.flags = entry.flags ∧
      EqualsIgnoringCase text (spelling entry.word) := by
  cases text with
  | nil => cases found
  | cons byte rest =>
    have equal {position : Nat} {entry : KeywordEntry} (listed : keywords[position]? = some entry)
        (head : (spelling entry.word).head? = some (asciiUpper byte))
        (compared : compareKeywordText (byte :: rest) entry.word = .eq) :
        EqualsIgnoringCase (byte :: rest) (spelling entry.word) := by
      rw [compareKeywordText_eq] at compared
      rw [EqualsIgnoringCase, spelling_upper listed]
      exact map_upper_eq head rfl (Std.LawfulEqCmp.compare_eq_iff_eq.mp compared)
    have atPosition {position : Nat} {entry : KeywordEntry}
        (listed : keywords[position]? = some entry)
        (chosen : keywordAt position = some keyword) :
        keyword.keywordIndex = position ∧ keyword.flags = entry.flags := by
      rw [keywordAt, listed] at chosen
      cases chosen
      exact ⟨rfl, rfl⟩
    rw [sqlKeywordLookup] at found
    dsimp only at found
    split at found
    · cases found
    · split at found
      · cases found
      · rename_i range ofFirst
        split at found
        · cases found
        · split at found
          · rename_i index hot
            obtain ⟨entry, listed, head, compared⟩ := hot_listed hot
            obtain ⟨rfl, flags⟩ := atPosition listed found
            exact ⟨entry, listed, flags, equal listed head compared⟩
          · split at found
            · cases found
            · obtain ⟨position, searched, chosen⟩ := Option.bind_eq_some_iff.mp found
              obtain ⟨above, below, compared⟩ := search_sound searched
              obtain ⟨sorted, first⟩ := keywordSearchRange_mem ofFirst
              obtain ⟨entry, listed, head, _⟩ := range_listed sorted above below
              rw [compareAt, listed] at compared
              rw [first] at head
              obtain ⟨rfl, flags⟩ := atPosition listed chosen
              exact ⟨entry, listed, flags, equal listed head compared⟩

theorem secondIndex_upper (byte : UInt8) (upper : asciiUpper (asciiUpper byte) = asciiUpper byte) :
    secondIndex (asciiUpper byte) = secondIndex byte := by
  rw [secondIndex, upper]
  rfl

theorem lookup_complete {text : List UInt8} {position : Nat} {entry : KeywordEntry}
    (listed : keywords[position]? = some entry)
    (same : EqualsIgnoringCase text (spelling entry.word)) :
    sqlKeywordLookup text = some ⟨entry.flags, position⟩ := by
  obtain ⟨first, rest, range, spelled, upper, short, possible, ofFirst, reached⟩ :=
    entry_reachable listed
  have word : text.map asciiUpper = first :: rest := by
    rw [same, spelled, upper]
  have atIndex : keywordAt position = some ⟨entry.flags, position⟩ := by
    rw [keywordAt, listed]
    rfl
  cases text with
  | nil => cases word
  | cons byte others =>
    obtain ⟨head, tail⟩ := List.cons.inj word
    have length : (byte :: others).length = rest.length + 1 := by
      rw [← tail, List.length_map, List.length_cons]
    have sameUpper : (byte :: others).map asciiUpper = (first :: rest).map asciiUpper :=
      word.trans upper.symm
    have hot := lookupHotKeywordIndex_congr sameUpper (rest.length + 1) first
    rw [sqlKeywordLookup]
    dsimp only
    rw [length, if_neg (by omega), head, ofFirst]
    dsimp only
    rw [possible, hot, if_neg (by decide)]
    rcases reached with isHot | ⟨notHot, second, above, below⟩
    · rw [isHot]
      exact atIndex
    · have secondSame : secondIndex (others.headD 0) = secondIndex (rest.headD 0) := by
        rw [List.map_cons] at upper
        have upperRest := (List.cons.inj upper).2
        rw [← tail] at upperRest ⊢
        cases others with
        | nil => rfl
        | cons next others =>
          rw [List.map_cons, List.map_cons] at upperRest
          exact (secondIndex_upper next (List.cons.inj upperRest).1).symm
      have secondPossible : keywordSecondCharIsPossible first (others.headD 0) (rest.length + 1) =
          true := by
        rw [← second, keywordSecondCharIsPossible, keywordSecondCharIsPossible, secondSame]
      rw [notHot]
      dsimp only
      rw [secondPossible, if_neg (by decide)]
      have compared : compareAt (byte :: others) position = .eq := by
        rw [compareAt, listed]
        dsimp only
        rw [compareKeywordText_eq, word, spelled]
        exact Std.ReflCmp.compare_self
      rw [search_complete (range_ascending (keywordSearchRange_mem ofFirst).1 _) above below compared]
      exact atIndex

/-! The linear scan. -/

theorem linearScan_sound {text : List UInt8} {position : Nat} {entries : List KeywordEntry}
    {keyword : Keyword} (found : linearScan text position entries = some keyword) :
    ∃ index entry, entries[index]? = some entry ∧ keyword = ⟨entry.flags, position + index⟩ ∧
      EqualsIgnoringCase text (spelling entry.word) := by
  induction entries generalizing position with
  | nil => cases found
  | cons entry rest ih =>
    rw [linearScan] at found
    split at found
    · rename_i same
      cases found
      exact ⟨0, entry, rfl, rfl, same⟩
    · obtain ⟨index, other, listed, shape, same⟩ := ih found
      refine ⟨index + 1, other, listed, ?_, same⟩
      rw [shape, Nat.add_assoc, Nat.add_comm 1]

theorem linearScan_none {text : List UInt8} {position : Nat} {entries : List KeywordEntry}
    (none : linearScan text position entries = none) :
    ∀ entry ∈ entries, ¬ EqualsIgnoringCase text (spelling entry.word) := by
  induction entries generalizing position with
  | nil =>
    intro entry mem
    cases mem
  | cons first rest ih =>
    rw [linearScan] at none
    split at none
    · cases none
    · rename_i different
      intro entry mem
      rcases List.mem_cons.mp mem with rfl | inRest
      · exact different
      · exact ih none entry inRest

/-- The lookup answers what a linear scan of the whole table answers, and a keyword with an
index if and only if the text is the word there but for the case of its letters. -/
theorem keyword_lookup_iff (text : List UInt8) :
    sqlKeywordLookup text = linearScan text 0 keywords ∧
      ∀ keyword, sqlKeywordLookup text = some keyword ↔
        ∃ entry, keywords[keyword.keywordIndex]? = some entry ∧ keyword.flags = entry.flags ∧
          EqualsIgnoringCase text (spelling entry.word) := by
  constructor
  · cases scanned : linearScan text 0 keywords with
    | none =>
      cases found : sqlKeywordLookup text with
      | none => rfl
      | some keyword =>
        obtain ⟨entry, listed, _, same⟩ := lookup_sound found
        exact absurd same (linearScan_none scanned entry (List.mem_of_getElem? listed))
    | some keyword =>
      obtain ⟨index, entry, listed, rfl, same⟩ := linearScan_sound scanned
      rw [Nat.zero_add]
      exact lookup_complete listed same
  · intro keyword
    constructor
    · exact lookup_sound
    · rintro ⟨entry, listed, flags, same⟩
      rw [lookup_complete listed same, ← flags]

end MyLite.Sql
