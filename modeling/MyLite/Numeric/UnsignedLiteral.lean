import Mathlib.Tactic.Common

/-! The number of an unsigned integer literal. -/

namespace MyLite.UnsignedLiteral

/-- The loop of `parse_unsigned_integer_literal`. -/
def parseDigits (value : Nat) : List UInt8 → Option Nat
  | [] => some value
  | byte :: rest =>
    if byte < 0x30 ∨ byte > 0x39 then none
    else if value > (18446744073709551615 - (byte.toNat - 48)) / 10 then none
    else parseDigits (value * 10 + (byte.toNat - 48)) rest

def parseUnsignedIntegerLiteral (text : List UInt8) : Option Nat :=
  if text = [] then none else parseDigits 0 text

/-- The number that a literal denotes. -/
def literalValue (text : List UInt8) : Nat :=
  text.foldl (fun value byte => value * 10 + (byte.toNat - 48)) 0

/-- The text of an unsigned integer literal. -/
def Unsigned (text : List UInt8) : Prop :=
  text ≠ [] ∧ ∀ byte ∈ text, 0x30 ≤ byte ∧ byte ≤ 0x39

theorem le_foldl (text : List UInt8) (value : Nat) :
    value ≤ text.foldl (fun value byte => value * 10 + (byte.toNat - 48)) value := by
  induction text generalizing value with
  | nil => exact Nat.le_refl _
  | cons byte rest ih =>
    rw [List.foldl_cons]
    exact Nat.le_trans (by omega) (ih _)

theorem parseDigits_eq {text : List UInt8} (digits : ∀ byte ∈ text, 0x30 ≤ byte ∧ byte ≤ 0x39)
    {value : Nat} (small : value ≤ 18446744073709551615) :
    parseDigits value text =
      if text.foldl (fun value byte => value * 10 + (byte.toNat - 48)) value ≤
          18446744073709551615 then
        some (text.foldl (fun value byte => value * 10 + (byte.toNat - 48)) value)
      else none := by
  induction text generalizing value with
  | nil => rw [parseDigits, List.foldl_nil, if_pos small]
  | cons byte rest ih =>
    obtain ⟨low, high⟩ := digits byte List.mem_cons_self
    have highNat : byte.toNat ≤ 57 := UInt8.le_iff_toNat_le.mp high
    have digitSmall : byte.toNat - 48 ≤ 9 := by omega
    have outside : ¬ (byte < 0x30 ∨ byte > 0x39) := by
      rintro (below | above)
      · exact absurd low (UInt8.not_le.mpr below)
      · exact absurd high (UInt8.not_le.mpr above)
    rw [parseDigits, if_neg outside, List.foldl_cons]
    generalize byte.toNat - 48 = digit at *
    by_cases room : value > (18446744073709551615 - digit) / 10
    · have grows := le_foldl rest (value * 10 + digit)
      rw [if_pos room, if_neg (by omega)]
    · rw [if_neg room]
      exact ih (fun other member => digits other (List.mem_cons_of_mem _ member)) (by omega)

theorem parseUnsignedIntegerLiteral_eq {text : List UInt8} (literal : Unsigned text) :
    parseUnsignedIntegerLiteral text =
      if literalValue text ≤ 18446744073709551615 then some (literalValue text) else none := by
  rw [parseUnsignedIntegerLiteral, if_neg literal.1]
  exact parseDigits_eq literal.2 (Nat.zero_le _)

end MyLite.UnsignedLiteral
