import MyLite.Collation.SortKey

/-! On ASCII texts the fast path of the comparison decides, and decides as the levels would. -/
namespace MyLite.Collation

/-- The general path of `mylite_collation_compare`: what follows `compare_ascii`. -/
def compareLevels (kind : CollationKind) (left right : List UInt8) : Ordering :=
  let result := compareUnicodeLevel .primary left right
  let result :=
    if result = .eq ∧ kind ≠ .utf8mb4_0900_ai_ci then compareUnicodeLevel .secondary left right
    else result
  if result = .eq ∧ kind = .utf8mb4_0900_as_cs then compareUnicodeLevel .tertiary left right
  else result

theorem compareLevels_eq_sortKey {kind : CollationKind} (unicode : kind ≠ .binary)
    (left right : List UInt8) :
    compareLevels kind left right = compare (sortKey kind left) (sortKey kind right) := by
  rw [compare_sortKey, compareLevels]
  cases kind with
  | binary => exact absurd rfl unicode
  | utf8mb4_0900_ai_ci => simp
  | utf8mb4_0900_as_ci => cases primary : compareUnicodeLevel .primary left right <;> simp
  | utf8mb4_0900_as_cs =>
    cases primary : compareUnicodeLevel .primary left right <;>
      cases secondary : compareUnicodeLevel .secondary left right <;> simp

/-! The fast path decides. -/

theorem IsAscii.tail {byte : UInt8} {text : List UInt8} (ascii : IsAscii (byte :: text)) :
    IsAscii text :=
  fun other member => ascii other (List.mem_cons_of_mem _ member)

theorem compareAsciiFolded_isSome {left right : List UInt8} (leftAscii : IsAscii left)
    (rightAscii : IsAscii right) : (compareAsciiFolded left right).isSome = true := by
  induction left generalizing right with
  | nil => simp [compareAsciiFolded]
  | cons leftByte lefts ih =>
    cases right with
    | nil => simp [compareAsciiFolded]
    | cons rightByte rights =>
      have leftSmall := leftAscii leftByte (List.mem_cons_self ..)
      have rightSmall := rightAscii rightByte (List.mem_cons_self ..)
      rw [compareAsciiFolded, if_neg (by simp [leftSmall, rightSmall])]
      split
      · exact ih leftAscii.tail rightAscii.tail
      · rfl

theorem IsAscii.noneLarge {text : List UInt8} (ascii : IsAscii text) (size : Nat) :
    ¬(text.drop size).any (· ≥ asciiCodePointLimit) = true := by
  rw [List.any_eq_true]
  rintro ⟨byte, member, large⟩
  have small := ascii byte (List.mem_of_mem_drop member)
  exact UInt8.not_le.mpr small (of_decide_eq_true large)

theorem compareAscii_isSome (kind : CollationKind) {left right : List UInt8}
    (leftAscii : IsAscii left) (rightAscii : IsAscii right) :
    (compareAscii kind left right).isSome = true := by
  have folded := compareAsciiFolded_isSome leftAscii rightAscii
  unfold compareAscii
  dsimp only
  split
  · rw [if_neg (leftAscii.noneLarge _), if_neg (rightAscii.noneLarge _)]
    split
    · rfl
    · split <;> rfl
  · exact folded

/-- For every collation the fast path gives the result of the general path on ASCII texts. -/
theorem compareAscii_eq_levels (kind : CollationKind) {left right : List UInt8}
    (leftAscii : IsAscii left) (rightAscii : IsAscii right) :
    compareAscii kind left right = some (compareLevels kind left right) := by
  have unicode (kind : CollationKind) (notBinary : kind ≠ .binary) :
      compareAscii kind left right = some (compareLevels kind left right) := by
    obtain ⟨result, decided⟩ := Option.isSome_iff_exists.mp
      (compareAscii_isSome kind leftAscii rightAscii)
    rw [decided, compareLevels_eq_sortKey notBinary,
      compareAscii_sound kind left right notBinary decided]
  cases kind with
  | binary =>
    -- Neither path tells a kind without a tertiary level from `as_ci`.
    have sensitive := unicode .utf8mb4_0900_as_ci (by decide)
    simpa [compareAscii, compareLevels] using sensitive
  | _ => exact unicode _ (by decide)

/-- `a` and `A` followed by a space. -/
theorem compareAscii_eq_levels_case :
    compareAscii .utf8mb4_0900_as_cs [0x61, 0x20] [0x41] =
      some (compareLevels .utf8mb4_0900_as_cs [0x61, 0x20] [0x41]) :=
  compareAscii_eq_levels .utf8mb4_0900_as_cs
    (List.forall_mem_cons.mpr ⟨by decide, List.forall_mem_singleton.mpr (by decide)⟩)
    (List.forall_mem_singleton.mpr (by decide))

end MyLite.Collation
