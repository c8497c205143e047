import MyLite.Collation.SortKey

/-! The keys DISTINCT compares texts by: the weights of every level as big-endian words, with
a word that is no weight between two levels. -/
namespace MyLite.Collation

/-! The keys. -/

def collationKeyLevelSeparator : Nat := 0xffffffff

/-- `append_collation_key_weight`. -/
def appendCollationKeyWeight (key : List UInt8) (weight : Nat) : List UInt8 :=
  key ++ [UInt8.ofNat (weight >>> 24), UInt8.ofNat (weight >>> 16), UInt8.ofNat (weight >>> 8),
    UInt8.ofNat weight]

/-- The loop of `append_collation_level_key`. -/
def appendLevelWeights (key : List UInt8) (iterator : CollationIterator) : List UInt8 :=
  match _step : iterator.next with
  | some (weight, after) => appendLevelWeights (appendCollationKeyWeight key weight) after
  | none => key
termination_by iterator.measure
decreasing_by exact CollationIterator.next_measure (by assumption)

def appendCollationLevelKey (key : List UInt8) (level : CollationLevel) (text : List UInt8) :
    List UInt8 :=
  appendLevelWeights key ⟨level, text, []⟩

def collationMakeKey (kind : CollationKind) (text : List UInt8) : List UInt8 :=
  if kind = .binary then text
  else
    let key := appendCollationLevelKey [] .primary text
    let key :=
      if kind ≠ .utf8mb4_0900_ai_ci then
        appendCollationLevelKey (appendCollationKeyWeight key collationKeyLevelSeparator)
          .secondary text
      else key
    if kind = .utf8mb4_0900_as_cs then
      appendCollationLevelKey (appendCollationKeyWeight key collationKeyLevelSeparator)
        .tertiary text
    else key

/-- A row is new unless its key is one of those recorded. -/
def distinctByKey (kind : CollationKind) : List (List UInt8) → List (List UInt8) →
    List (List UInt8)
  | _, [] => []
  | recorded, row :: rows =>
    if collationMakeKey kind row ∈ recorded then distinctByKey kind recorded rows
    else row :: distinctByKey kind (collationMakeKey kind row :: recorded) rows

/-- A row is new unless it compares equal to one of those kept. -/
def distinctByComparison (kind : CollationKind) : List (List UInt8) → List (List UInt8) →
    List (List UInt8)
  | _, [] => []
  | kept, row :: rows =>
    if kept.any fun earlier => collationCompare kind earlier row = .eq then
      distinctByComparison kind kept rows
    else row :: distinctByComparison kind (row :: kept) rows

/-! Weights are words below the separator. -/

theorem unicodeFold_lt (c : Nat) (mode : DiacriticMode) (small : c < 2097152) :
    unicodeFold c mode < 2097256 := by
  have removed (c : Nat) (complex : Bool) (small : c < 2097152) :
      removeDiacritic c complex < 2097152 := by
    simp only [removeDiacritic]
    split
    · exact small
    · split
      · exact small
      · exact Nat.lt_of_le_of_lt Nat.and_le_right (by decide)
  have folded (c : Nat) (applies : Prop) [Decidable applies] (offset : Nat) (small : c < 2097152) :
      (if applies then (c + offset) &&& 0xffff else c) < 2097152 := by
    split
    · exact Nat.lt_of_le_of_lt Nat.and_le_right (by decide)
    · exact small
  simp only [unicodeFold]
  split
  · split <;> omega
  · split
    · cases mode with
      | keep => exact Nat.lt_trans (folded _ _ _ small) (by decide)
      | simple => exact Nat.lt_trans (removed _ _ (folded _ _ _ small)) (by decide)
      | complex => exact Nat.lt_trans (removed _ _ (folded _ _ _ small)) (by decide)
    · split <;> omega

theorem payloadBits_le (byte mask : UInt8) : payloadBits byte mask ≤ mask.toNat := by
  rw [payloadBits, UInt8.toNat_and]
  exact Nat.and_le_right

theorem payloadBits_shift_lt (byte mask : UInt8) {shift bound : Nat}
    (fits : mask.toNat <<< shift < bound) : payloadBits byte mask <<< shift < bound := by
  rw [Nat.shiftLeft_eq] at fits ⊢
  exact Nat.lt_of_le_of_lt (Nat.mul_le_mul_right _ (payloadBits_le byte mask)) fits

theorem or_lt {left right : Nat} (leftSmall : left < 2097152) (rightSmall : right < 2097152) :
    left ||| right < 2097152 :=
  Nat.or_lt_two_pow (n := 21) leftSmall rightSmall

theorem decodeUtf8Codepoint_lt (first : UInt8) (rest : List UInt8) :
    (decodeUtf8Codepoint first rest).1 < 2097152 := by
  have last (byte : UInt8) : payloadBits byte 0x3f < 2097152 :=
    Nat.lt_of_le_of_lt (payloadBits_le byte 0x3f) (by decide)
  have second (byte : UInt8) : payloadBits byte 0x3f <<< 6 < 2097152 :=
    payloadBits_shift_lt byte 0x3f (by decide)
  have third (byte : UInt8) : payloadBits byte 0x3f <<< 12 < 2097152 :=
    payloadBits_shift_lt byte 0x3f (by decide)
  have byteBound := first.toNat_lt
  simp only [decodeUtf8Codepoint]
  split
  · change first.toNat < 2097152
    omega
  · split
    · exact or_lt (payloadBits_shift_lt _ _ (by decide)) (last _)
    · split
      · exact or_lt (or_lt (payloadBits_shift_lt _ _ (by decide)) (second _)) (last _)
      · split
        · exact or_lt (or_lt (or_lt (payloadBits_shift_lt _ _ (by decide)) (third _)) (second _))
            (last _)
        · change invalidUtf8WeightBase + first.toNat < 2097152
          rw [invalidUtf8WeightBase]
          omega

theorem collationPrimaryExpansion_lt (codepoint : Nat) :
    ∀ weight ∈ collationPrimaryExpansion codepoint, weight < 128 := by
  unfold collationPrimaryExpansion
  split <;> decide

theorem collationCanonicalAccent_lt (codepoint : Nat) :
    collationCanonicalAccent codepoint < 1024 := by
  unfold collationCanonicalAccent
  split <;> decide

/-- Whatever the level, the weights of a code point are below the separator. -/
theorem codepointWeights_lt (level : CollationLevel) {codepoint : Nat}
    (small : codepoint < 2097152) :
    ∀ weight ∈ codepointWeights level codepoint, weight < collationKeyLevelSeparator := by
  intro weight member
  have accent := collationCanonicalAccent_lt codepoint
  have keep := unicodeFold_lt codepoint .keep small
  have complex := unicodeFold_lt codepoint .complex small
  unfold collationKeyLevelSeparator
  unfold codepointWeights at member
  cases level with
  | primary =>
    simp only [collationWeight, collationPrimaryWeight] at member
    have expansion := collationPrimaryExpansion_lt codepoint
    grind
  | secondary =>
    simp only [collationWeight, collationSecondaryWeight, compatibilitySecondaryWeightBase]
      at member
    grind
  | tertiary =>
    simp only [collationWeight, collationTertiaryWeight] at member
    grind

theorem codepoints_lt (text : List UInt8) : ∀ codepoint ∈ codepoints text, codepoint < 2097152 := by
  fun_induction codepoints text with
  | case1 =>
    intro codepoint member
    cases member
  | case2 first rest ih =>
    intro codepoint member
    rcases List.mem_cons.1 member with rfl | later
    · exact decodeUtf8Codepoint_lt first rest
    · exact ih codepoint later

theorem levelWeights_lt (level : CollationLevel) (text : List UInt8) :
    ∀ weight ∈ levelWeights level text, weight < collationKeyLevelSeparator := by
  intro weight member
  obtain ⟨codepoint, inText, inWeights⟩ := List.mem_flatMap.1 member
  exact codepointWeights_lt level (codepoints_lt text codepoint inText) weight inWeights

theorem sortKey_ne_nil (kind : CollationKind) (text : List UInt8) : sortKey kind text ≠ [] := by
  cases kind <;> simp [sortKey]

theorem sortKey_lt (kind : CollationKind) (text : List UInt8) :
    ∀ weights ∈ sortKey kind text, ∀ weight ∈ weights, weight < collationKeyLevelSeparator := by
  intro weights member weight inWeights
  cases kind with
  | binary =>
    simp only [sortKey, List.mem_singleton] at member
    subst member
    obtain ⟨byte, _, rfl⟩ := List.mem_map.1 inWeights
    have byteBound := byte.toNat_lt
    unfold collationKeyLevelSeparator
    omega
  | utf8mb4_0900_ai_ci =>
    simp only [sortKey, List.mem_singleton] at member
    subst member
    exact levelWeights_lt _ text weight inWeights
  | utf8mb4_0900_as_ci =>
    simp only [sortKey, List.mem_cons, List.not_mem_nil, or_false] at member
    rcases member with rfl | rfl
    · exact levelWeights_lt _ text weight inWeights
    · exact levelWeights_lt _ text weight inWeights
  | utf8mb4_0900_as_cs =>
    simp only [sortKey, List.mem_cons, List.not_mem_nil, or_false] at member
    rcases member with rfl | rfl | rfl
    · exact levelWeights_lt _ text weight inWeights
    · exact levelWeights_lt _ text weight inWeights
    · exact levelWeights_lt _ text weight inWeights

/-! The words of a key determine its weights. -/

/-- Four bytes of a key. -/
def weightBytes (weight : Nat) : List UInt8 :=
  appendCollationKeyWeight [] weight

theorem appendCollationKeyWeight_eq (key : List UInt8) (weight : Nat) :
    appendCollationKeyWeight key weight = key ++ weightBytes weight :=
  rfl

theorem weightBytes_injective {left right : Nat} (leftSmall : left < 4294967296)
    (rightSmall : right < 4294967296) (same : weightBytes left = weightBytes right) :
    left = right := by
  simp only [weightBytes, appendCollationKeyWeight, List.nil_append, List.cons.injEq, and_true,
    ← UInt8.toNat_inj, UInt8.toNat_ofNat', Nat.shiftRight_eq_div_pow] at same
  omega

theorem flatMap_weightBytes_injective {left right : List Nat}
    (leftSmall : ∀ weight ∈ left, weight < 4294967296)
    (rightSmall : ∀ weight ∈ right, weight < 4294967296)
    (same : left.flatMap weightBytes = right.flatMap weightBytes) : left = right := by
  induction left generalizing right with
  | nil =>
    cases right with
    | nil => rfl
    | cons weight right => cases same
  | cons weight left ih =>
    cases right with
    | nil => cases same
    | cons weight' right =>
      rw [List.flatMap_cons, List.flatMap_cons] at same
      obtain ⟨sameWord, sameRest⟩ := List.append_inj same rfl
      rw [weightBytes_injective (leftSmall weight (List.mem_cons_self ..))
          (rightSmall weight' (List.mem_cons_self ..)) sameWord,
        ih (fun other member => leftSmall other (List.mem_cons_of_mem _ member))
          (fun other member => rightSmall other (List.mem_cons_of_mem _ member)) sameRest]

theorem mem_intercalate {separator weight : Nat} {levels : List (List Nat)}
    (member : weight ∈ [separator].intercalate levels) :
    weight = separator ∨ ∃ weights ∈ levels, weight ∈ weights := by
  induction levels with
  | nil => cases member
  | cons first rest ih =>
    cases rest with
    | nil =>
      rw [List.intercalate_singleton] at member
      exact .inr ⟨first, List.mem_singleton_self first, member⟩
    | cons second rest =>
      rw [List.intercalate_cons_cons, List.mem_append, List.mem_append, List.mem_singleton]
        at member
      rcases member with (inFirst | separated) | inRest
      · exact .inr ⟨first, List.mem_cons_self .., inFirst⟩
      · exact .inl separated
      · rcases ih inRest with separated | ⟨weights, inLevels, inWeights⟩
        · exact .inl separated
        · exact .inr ⟨weights, List.mem_cons_of_mem _ inLevels, inWeights⟩

/-- The weights of all levels with the separator between them. -/
def keyWeights (kind : CollationKind) (text : List UInt8) : List Nat :=
  [collationKeyLevelSeparator].intercalate (sortKey kind text)

theorem keyWeights_lt (kind : CollationKind) (text : List UInt8) :
    ∀ weight ∈ keyWeights kind text, weight < 4294967296 := by
  intro weight member
  rcases mem_intercalate member with separator | ⟨weights, inKey, inWeights⟩
  · subst separator
    decide
  · exact Nat.lt_trans (sortKey_lt kind text weights inKey weight inWeights) (by decide)

theorem keyWeights_inj {kind : CollationKind} {left right : List UInt8} :
    keyWeights kind left = keyWeights kind right ↔ sortKey kind left = sortKey kind right := by
  have levels (text : List UInt8) :
      (keyWeights kind text).splitOn collationKeyLevelSeparator = sortKey kind text := by
    apply List.splitOn_intercalate _ _ (sortKey_ne_nil kind text)
    intro weights inKey inWeights
    exact Nat.lt_irrefl _ (sortKey_lt kind text weights inKey _ inWeights)
  constructor
  · intro same
    rw [← levels left, ← levels right, same]
  · intro same
    rw [keyWeights, keyWeights, same]

/-! A key is its words. -/

theorem appendLevelWeights_eq (key : List UInt8) (iterator : CollationIterator) :
    appendLevelWeights key iterator = key ++ iterator.weights.flatMap weightBytes := by
  have yielded := iterator.next_weights
  fun_induction appendLevelWeights key iterator with
  | case1 key iterator weight after step ih =>
    rw [← yielded, step, ih after.next_weights, appendCollationKeyWeight_eq]
    simp only [Option.elim_some, List.flatMap_cons, List.append_assoc]
  | case2 key iterator step =>
    rw [← yielded, step]
    simp only [Option.elim_none, List.flatMap_nil, List.append_nil]

theorem appendCollationLevelKey_eq (key : List UInt8) (level : CollationLevel)
    (text : List UInt8) :
    appendCollationLevelKey key level text =
      key ++ (levelWeights level text).flatMap weightBytes :=
  appendLevelWeights_eq key ⟨level, text, []⟩

theorem collationMakeKey_eq {kind : CollationKind} (unicode : kind ≠ .binary)
    (text : List UInt8) :
    collationMakeKey kind text = (keyWeights kind text).flatMap weightBytes := by
  rw [collationMakeKey, if_neg unicode]
  cases kind with
  | binary => exact absurd rfl unicode
  | utf8mb4_0900_ai_ci =>
    simp [appendCollationLevelKey_eq, keyWeights, sortKey, List.intercalate]
  | utf8mb4_0900_as_ci =>
    simp [appendCollationLevelKey_eq, appendCollationKeyWeight_eq, keyWeights, sortKey,
      List.intercalate]
  | utf8mb4_0900_as_cs =>
    simp [appendCollationLevelKey_eq, appendCollationKeyWeight_eq, keyWeights, sortKey,
      List.intercalate]

theorem collationMakeKey_inj (kind : CollationKind) (left right : List UInt8) :
    collationMakeKey kind left = collationMakeKey kind right ↔
      sortKey kind left = sortKey kind right := by
  by_cases binary : kind = .binary
  · subst binary
    rw [collationMakeKey, if_pos rfl, collationMakeKey, if_pos rfl, sortKey, sortKey,
      List.cons.injEq, List.map_inj_right fun _ _ same => UInt8.toNat_inj.mp same]
    simp
  · rw [collationMakeKey_eq binary, collationMakeKey_eq binary, ← keyWeights_inj]
    constructor
    · exact flatMap_weightBytes_injective (keyWeights_lt kind left) (keyWeights_lt kind right)
    · intro same
      rw [same]

/-- Keys are equal just when the texts compare equal. -/
theorem collationMakeKey_eq_iff (kind : CollationKind) (left right : List UInt8) :
    collationMakeKey kind left = collationMakeKey kind right ↔
      collationCompare kind left right = .eq := by
  rw [collationMakeKey_inj, collationCompare_eq_sortKey, Std.LawfulEqCmp.compare_eq_iff_eq]

theorem distinctByKey_eq (kind : CollationKind) (kept rows : List (List UInt8)) :
    distinctByKey kind (kept.map (collationMakeKey kind)) rows =
      distinctByComparison kind kept rows := by
  induction rows generalizing kept with
  | nil => rfl
  | cons row rows ih =>
    have recorded : collationMakeKey kind row ∈ kept.map (collationMakeKey kind) ↔
        (kept.any fun earlier => collationCompare kind earlier row = .eq) = true := by
      simp only [List.mem_map, List.any_eq_true, decide_eq_true_eq, collationMakeKey_eq_iff]
    rw [distinctByKey, distinctByComparison]
    by_cases duplicate : collationMakeKey kind row ∈ kept.map (collationMakeKey kind)
    · rw [if_pos duplicate, if_pos (recorded.1 duplicate), ih]
    · rw [if_neg duplicate, if_neg fun same => duplicate (recorded.2 same), ← List.map_cons, ih]

/-- Equality of keys is equality under the collation, so DISTINCT keeps the same rows by
either. -/
theorem collationKeys_decide_distinct (kind : CollationKind) :
    (∀ left right, collationMakeKey kind left = collationMakeKey kind right ↔
      collationCompare kind left right = .eq) ∧
    ∀ rows, distinctByKey kind [] rows = distinctByComparison kind [] rows :=
  ⟨collationMakeKey_eq_iff kind, distinctByKey_eq kind []⟩

end MyLite.Collation
