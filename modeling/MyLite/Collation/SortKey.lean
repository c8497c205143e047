import MyLite.Collation.Compare

/-! Every collation orders texts by a sort key: the lists of weights of its levels, compared
lexicographically. The iterators and the ASCII fast path compute exactly that order, so each
collation is a total preorder of all byte strings. -/
namespace MyLite.Collation

/-- The code points of a text, with a weight of its own for each byte that is not UTF-8. -/
def codepoints : List UInt8 → List Nat
  | [] => []
  | first :: rest =>
    (decodeUtf8Codepoint first rest).1 :: codepoints (decodeUtf8Codepoint first rest).2
termination_by text => text.length
decreasing_by
  have shorter := decodeUtf8Codepoint_length first rest
  simp only [List.length_cons]
  omega

def codepointWeights (level : CollationLevel) (codepoint : Nat) : List Nat :=
  match collationWeight level codepoint with
  | some (weight, pending) => weight :: pending
  | none => []

def levelWeights (level : CollationLevel) (text : List UInt8) : List Nat :=
  (codepoints text).flatMap (codepointWeights level)

/-- What a collation orders texts by. -/
def sortKey (kind : CollationKind) (text : List UInt8) : List (List Nat) :=
  match kind with
  | .utf8mb4_0900_ai_ci => [levelWeights .primary text]
  | .utf8mb4_0900_as_ci => [levelWeights .primary text, levelWeights .secondary text]
  | .utf8mb4_0900_as_cs =>
    [levelWeights .primary text, levelWeights .secondary text, levelWeights .tertiary text]
  | .binary => [text.map UInt8.toNat]

@[simp]
theorem levelWeights_nil (level : CollationLevel) : levelWeights level [] = [] := by
  simp [levelWeights, codepoints]

theorem levelWeights_cons (level : CollationLevel) (first : UInt8) (rest : List UInt8) :
    levelWeights level (first :: rest) =
      codepointWeights level (decodeUtf8Codepoint first rest).1 ++
        levelWeights level (decodeUtf8Codepoint first rest).2 := by
  rw [levelWeights, codepoints, List.flatMap_cons]
  rfl

/-- The weights an iterator has still to yield. -/
def CollationIterator.weights (iterator : CollationIterator) : List Nat :=
  iterator.pending ++ levelWeights iterator.level iterator.text

theorem nextWeight_weights (level : CollationLevel) (text : List UInt8) (pending : List Nat) :
    (nextWeight level text pending).elim [] (fun step => step.1 :: step.2.weights) =
      pending ++ levelWeights level text := by
  fun_induction nextWeight level text pending with
  | case1 text weight pending => rfl
  | case2 => simp
  | case3 first rest weight pending weighted =>
    simp [CollationIterator.weights, levelWeights_cons, codepointWeights, weighted]
  | case4 first rest skipped ih =>
    simp only [List.nil_append] at ih ⊢
    rw [ih, levelWeights_cons, codepointWeights, skipped, List.nil_append]

theorem CollationIterator.next_weights (iterator : CollationIterator) :
    iterator.next.elim [] (fun step => step.1 :: step.2.weights) = iterator.weights :=
  nextWeight_weights _ _ _

/-- Two iterators run in step compare their weights lexicographically. -/
theorem compareWeights_eq (left right : CollationIterator) :
    compareWeights left right = compare left.weights right.weights := by
  have leftWeights := left.next_weights
  have rightWeights := right.next_weights
  fun_induction compareWeights left right with
  | case1 left right leftWeight left' rightWeight right' stepLeft stepRight ih =>
    rw [← leftWeights, ← rightWeights, stepLeft, stepRight]
    simp only [Option.elim_some, List.compare_cons_cons]
    rw [ih left'.next_weights right'.next_weights]
  | case2 left right step stepLeft stepRight =>
    rw [← leftWeights, ← rightWeights, stepLeft, stepRight]
    simp
  | case3 left right step stepLeft stepRight =>
    rw [← leftWeights, ← rightWeights, stepLeft, stepRight]
    simp
  | case4 left right stepLeft stepRight =>
    rw [← leftWeights, ← rightWeights, stepLeft, stepRight]
    simp

theorem compareUnicodeLevel_eq (level : CollationLevel) (left right : List UInt8) :
    compareUnicodeLevel level left right =
      compare (levelWeights level left) (levelWeights level right) := by
  rw [compareUnicodeLevel, compareWeights_eq]
  rfl

/-! The weights of ASCII bytes. -/

theorem asciiFold_toNat (byte : UInt8) (ascii : byte < asciiCodePointLimit) :
    (asciiFold byte).toNat =
      if 65 ≤ byte.toNat ∧ byte.toNat ≤ 90 then byte.toNat + 32 else byte.toNat := by
  have small : byte.toNat < 128 := ascii
  have upper_iff : (0x41 ≤ byte ∧ byte ≤ 0x5a) ↔ (65 ≤ byte.toNat ∧ byte.toNat ≤ 90) := Iff.rfl
  simp only [asciiFold, upper_iff]
  split
  · simp only [UInt8.toNat_add, UInt8.reduceToNat]
    omega
  · rfl

theorem combiningMark_ascii {codepoint : Nat} (ascii : codepoint < 128) :
    collationCodepointIsCombiningMark codepoint = false := by
  simp only [collationCodepointIsCombiningMark]
  grind

theorem primaryExpansion_ascii {codepoint : Nat} (ascii : codepoint < 128) :
    collationPrimaryExpansion codepoint = [] := by
  unfold collationPrimaryExpansion
  split
  all_goals first | omega | rfl

theorem canonicalAccent_ascii {codepoint : Nat} (ascii : codepoint < 128) :
    collationCanonicalAccent codepoint = 0 := by
  unfold collationCanonicalAccent
  split
  all_goals omega

/-- The weight an ASCII byte has at each level. -/
def asciiWeight (level : CollationLevel) (byte : UInt8) : Nat :=
  match level with
  | .primary => (asciiFold byte).toNat
  | .secondary => 1
  | .tertiary => asciiCaseWeight byte

theorem codepointWeights_ascii (level : CollationLevel) (byte : UInt8)
    (ascii : byte < asciiCodePointLimit) :
    codepointWeights level byte.toNat = [asciiWeight level byte] := by
  have small : byte.toNat < 128 := ascii
  have valid : ¬invalidUtf8WeightBase ≤ byte.toNat := by
    simp only [invalidUtf8WeightBase]
    omega
  have folded := asciiFold_toNat byte ascii
  have unmarked := combiningMark_ascii small
  cases level with
  | primary =>
    simp [codepointWeights, collationWeight, collationPrimaryWeight, valid, unmarked,
      primaryExpansion_ascii small, unicodeFold_ascii _ _ small, asciiWeight, folded]
  | secondary =>
    simp [codepointWeights, collationWeight, collationSecondaryWeight, valid, unmarked,
      primaryExpansion_ascii small, canonicalAccent_ascii small, unicodeFold_ascii _ _ small,
      asciiWeight]
  | tertiary =>
    simp [codepointWeights, collationWeight, collationTertiaryWeight, valid, unmarked,
      unicodeFold_ascii _ _ small, asciiWeight, asciiCaseWeight, ← UInt8.toNat_inj, folded]

theorem levelWeights_ascii_cons (level : CollationLevel) (byte : UInt8) (rest : List UInt8)
    (ascii : byte < asciiCodePointLimit) :
    levelWeights level (byte :: rest) = asciiWeight level byte :: levelWeights level rest := by
  rw [levelWeights_cons, decodeUtf8Codepoint_ascii byte rest ascii,
    codepointWeights_ascii level byte ascii]
  rfl

def IsAscii (text : List UInt8) : Prop :=
  ∀ byte ∈ text, byte < asciiCodePointLimit

theorem levelWeights_ascii (level : CollationLevel) (text : List UInt8) (ascii : IsAscii text) :
    levelWeights level text = text.map (asciiWeight level) := by
  induction text with
  | nil => simp
  | cons byte rest ih =>
    rw [levelWeights_ascii_cons level byte rest (ascii byte (List.mem_cons_self ..)),
      ih fun other mem => ascii other (List.mem_cons_of_mem _ mem), List.map_cons]

theorem compare_toNat (left right : UInt8) :
    compare left.toNat right.toNat = compare left right := by
  simp only [compare, compareOfLessAndEq, UInt8.lt_iff_toNat_lt, ← UInt8.toNat_inj]

theorem compare_map_toNat (left right : List UInt8) :
    compare (left.map UInt8.toNat) (right.map UInt8.toNat) = compare left right := by
  induction left generalizing right with
  | nil => cases right <;> rfl
  | cons left lefts ih =>
    cases right with
    | nil => rfl
    | cons right rights =>
      rw [List.map_cons, List.map_cons, List.compare_cons_cons, compare_toNat, ih,
        List.compare_cons_cons]

/-- A difference the first loop of the fast path finds is a difference of primary weights. -/
theorem compareAsciiFolded_decides (left right : List UInt8) {result : Ordering}
    (decided : compareAsciiFolded left right = some result) (different : result ≠ .eq) :
    compare (levelWeights .primary left) (levelWeights .primary right) = result := by
  fun_induction compareAsciiFolded left right with
  | case1 => cases decided
  | case2 left lefts right rights ascii same ih =>
    simp only [not_or, ge_iff_le, UInt8.not_le] at ascii
    rw [levelWeights_ascii_cons _ _ _ ascii.1, levelWeights_ascii_cons _ _ _ ascii.2,
      List.compare_cons_cons, asciiWeight, asciiWeight, compare_toNat, same, ih decided]
    rfl
  | case3 left lefts right rights ascii notSame =>
    simp only [not_or, ge_iff_le, UInt8.not_le] at ascii
    simp only [Option.some.injEq] at decided
    rw [levelWeights_ascii_cons _ _ _ ascii.1, levelWeights_ascii_cons _ _ _ ascii.2,
      List.compare_cons_cons, asciiWeight, asciiWeight, compare_toNat, decided]
    cases result with
    | eq => exact absurd rfl different
    | lt => rfl
    | gt => rfl
  | case4 =>
    cases decided
    exact absurd rfl different

/-- When it finds none, the shared bytes are ASCII and fold alike. -/
theorem compareAsciiFolded_shared (left right : List UInt8)
    (same : compareAsciiFolded left right = some .eq) :
    IsAscii (left.take (min left.length right.length)) ∧
      IsAscii (right.take (min left.length right.length)) ∧
      Lexicographic.sharedOrder (left.map (asciiWeight .primary))
        (right.map (asciiWeight .primary)) = .eq := by
  fun_induction compareAsciiFolded left right with
  | case1 => cases same
  | case2 left lefts right rights ascii sameFold ih =>
    simp only [not_or, ge_iff_le, UInt8.not_le] at ascii
    obtain ⟨leftAscii, rightAscii, order⟩ := ih same
    have shared : min (left :: lefts).length (right :: rights).length =
        min lefts.length rights.length + 1 := by
      simp only [List.length_cons]
      omega
    rw [shared, List.take_succ_cons, List.take_succ_cons]
    refine ⟨?_, ?_, ?_⟩
    · intro byte mem
      rcases List.mem_cons.1 mem with rfl | mem
      · exact ascii.1
      · exact leftAscii byte mem
    · intro byte mem
      rcases List.mem_cons.1 mem with rfl | mem
      · exact ascii.2
      · exact rightAscii byte mem
    · rw [List.map_cons, List.map_cons, Lexicographic.sharedOrder, order]
      simp only [asciiWeight, compare_toNat, sameFold, Ordering.then_eq]
  | case3 left lefts right rights ascii notSame =>
    simp only [Option.some.injEq] at same
    exact absurd same notSame
  | case4 left right noPair =>
    rcases left with _ | ⟨byte, lefts⟩
    · simp [IsAscii, Lexicographic.sharedOrder]
    · rcases right with _ | ⟨byte', rights⟩
      · simp [IsAscii, Lexicographic.sharedOrder]
      · exact (noPair _ _ _ _ rfl rfl).elim

theorem isAscii_of_parts {text : List UInt8} (size : Nat) (shared : IsAscii (text.take size))
    (tail : ¬(text.drop size).any (· ≥ asciiCodePointLimit) = true) : IsAscii text := by
  intro byte mem
  rw [← List.take_append_drop size text] at mem
  rcases List.mem_append.1 mem with inShared | inTail
  · exact shared byte inShared
  · by_contra large
    apply tail
    rw [List.any_eq_true]
    exact ⟨byte, inTail, by simpa using large⟩

/-- The order of two sort keys, level by level. -/
theorem compare_sortKey (kind : CollationKind) (left right : List UInt8) :
    compare (sortKey kind left) (sortKey kind right) =
      match kind with
      | .utf8mb4_0900_ai_ci => compareUnicodeLevel .primary left right
      | .utf8mb4_0900_as_ci =>
        (compareUnicodeLevel .primary left right).then (compareUnicodeLevel .secondary left right)
      | .utf8mb4_0900_as_cs =>
        (compareUnicodeLevel .primary left right).then
          ((compareUnicodeLevel .secondary left right).then
            (compareUnicodeLevel .tertiary left right))
      | .binary => compare left right := by
  cases kind with
  | binary =>
    simp only [sortKey, List.compare_cons_cons, List.compare_nil_nil, Ordering.then_eq,
      compare_map_toNat]
  | _ =>
    simp only [sortKey, compareUnicodeLevel_eq, List.compare_cons_cons, List.compare_nil_nil,
      Ordering.then_eq]

theorem compareLevel_ascii (level : CollationLevel) {left right : List UInt8}
    (leftAscii : IsAscii left) (rightAscii : IsAscii right) :
    compareUnicodeLevel level left right =
      compare (left.map (asciiWeight level)) (right.map (asciiWeight level)) := by
  rw [compareUnicodeLevel_eq, levelWeights_ascii level left leftAscii,
    levelWeights_ascii level right rightAscii]

theorem compareSecondary_ascii {left right : List UInt8} (leftAscii : IsAscii left)
    (rightAscii : IsAscii right) (sameLength : left.length = right.length) :
    compareUnicodeLevel .secondary left right = .eq := by
  have constant (text : List UInt8) :
      text.map (asciiWeight .secondary) = List.replicate text.length 1 :=
    List.map_const'
  rw [compareLevel_ascii _ leftAscii rightAscii, constant, constant, sameLength,
    Std.ReflOrd.compare_self]

/-- Whatever the fast path decides is the order of the sort keys. -/
theorem compareAscii_sound (kind : CollationKind) (left right : List UInt8) {result : Ordering}
    (unicode : kind ≠ .binary) (decided : compareAscii kind left right = some result) :
    compare (sortKey kind left) (sortKey kind right) = result := by
  have primary_decides (different : result ≠ .eq)
      (primary : compareUnicodeLevel .primary left right = result) :
      compare (sortKey kind left) (sortKey kind right) = result := by
    rw [compare_sortKey]
    cases kind <;> cases result <;> simp_all
  simp only [compareAscii] at decided
  split at decided
  · rename_i same
    obtain ⟨leftShared, rightShared, order⟩ := compareAsciiFolded_shared left right same
    split at decided
    · cases decided
    · rename_i leftTail
      split at decided
      · cases decided
      · rename_i rightTail
        have leftAscii := isAscii_of_parts _ leftShared leftTail
        have rightAscii := isAscii_of_parts _ rightShared rightTail
        have primary : compareUnicodeLevel .primary left right =
            compare left.length right.length := by
          rw [compareLevel_ascii _ leftAscii rightAscii, ← Lexicographic.sharedOrder_then_length,
            order, List.length_map, List.length_map]
          rfl
        split at decided
        · rename_i lengths
          cases decided
          refine primary_decides ?_ primary
          rw [Ne, Nat.compare_eq_eq]
          exact lengths
        · rename_i lengths
          have sameLength : left.length = right.length := not_not.1 lengths
          have secondary := compareSecondary_ascii leftAscii rightAscii sameLength
          rw [sameLength, Std.ReflOrd.compare_self] at primary
          rw [compare_sortKey]
          split at decided
          · rename_i caseSensitive
            subst caseSensitive
            cases decided
            rw [primary, secondary, compareLevel_ascii _ leftAscii rightAscii,
              Lexicographic.sharedOrder_eq_compare _ _ (by simpa using sameLength)]
            rfl
          · cases decided
            cases kind <;> simp_all
  · refine primary_decides ?_ ?_
    · rintro rfl
      simp_all
    · rw [compareUnicodeLevel_eq]
      exact compareAsciiFolded_decides left right decided (by rintro rfl; simp_all)

/-- The comparison is the lexicographic order of the sort keys. -/
theorem collationCompare_eq_sortKey (kind : CollationKind) (left right : List UInt8) :
    collationCompare kind left right = compare (sortKey kind left) (sortKey kind right) := by
  by_cases binary : kind = .binary
  · subst binary
    rw [compare_sortKey, collationCompare, if_pos rfl, compareBinary,
      Lexicographic.sharedOrder_then_length]
  · rw [collationCompare, if_neg binary]
    split
    · rename_i result decided
      exact (compareAscii_sound kind left right binary decided).symm
    · rw [compare_sortKey]
      cases kind with
      | binary => exact absurd rfl binary
      | utf8mb4_0900_ai_ci => simp
      | utf8mb4_0900_as_ci =>
        cases primary : compareUnicodeLevel .primary left right <;> simp
      | utf8mb4_0900_as_cs =>
        cases primary : compareUnicodeLevel .primary left right <;>
          cases secondary : compareUnicodeLevel .secondary left right <;> simp

/-- Each collation is a total preorder of all byte strings: swapping the texts reverses the
result, every text equals itself, `≤` is transitive, and equal texts compare alike with every
other text. -/
theorem collationCompare_total_preorder (kind : CollationKind) :
    (∀ left right, collationCompare kind right left = (collationCompare kind left right).swap) ∧
      (∀ text, collationCompare kind text text = .eq) ∧
      (∀ first second third, (collationCompare kind first second).isLE →
        (collationCompare kind second third).isLE → (collationCompare kind first third).isLE) ∧
      ∀ first second, collationCompare kind first second = .eq → ∀ other,
        collationCompare kind first other = collationCompare kind second other ∧
          collationCompare kind other first = collationCompare kind other second := by
  simp only [collationCompare_eq_sortKey]
  refine ⟨?_, ?_, ?_, ?_⟩
  · intro left right
    exact Std.OrientedCmp.eq_swap
  · intro text
    exact Std.ReflCmp.compare_self
  · intro first second third firstSecond secondThird
    exact Std.TransCmp.isLE_trans firstSecond secondThird
  · intro first second same other
    exact ⟨Std.TransCmp.congr_left same, Std.TransCmp.congr_right same⟩

/-- `É` and `e` are equal under `utf8mb4_0900_ai_ci`, so both compare alike with a lone
continuation byte. -/
theorem collationCompare_total_preorder_eacute :
    collationCompare .utf8mb4_0900_ai_ci [0xc3, 0x89] [0x65] = .eq ∧
      collationCompare .utf8mb4_0900_ai_ci [0xc3, 0x89] [0x80] =
        collationCompare .utf8mb4_0900_ai_ci [0x65] [0x80] := by
  have same : collationCompare .utf8mb4_0900_ai_ci [0xc3, 0x89] [0x65] = .eq := by
    decide +kernel
  exact ⟨same,
    ((collationCompare_total_preorder .utf8mb4_0900_ai_ci).2.2.2 _ _ same [0x80]).1⟩

end MyLite.Collation
