import MyLite.Library.Lexicographic
import Mathlib.Algebra.Order.Ring.Nat
import Mathlib.Data.Nat.Digits.Defs
import Mathlib.Data.Nat.Digits.Lemmas
import Mathlib.Tactic.Common
import Mathlib.Tactic.Ring

/-! Decimal numerals, most significant digit first: those of one length are ordered as the
numbers they stand for. And numerals in any base. -/
namespace Decimal

open Lexicographic

def digits (number : Nat) : List Nat :=
  if number = 0 then [0] else (Nat.digits 10 number).reverse

def value (numeral : List Nat) : Nat :=
  Nat.ofDigits 10 numeral.reverse

theorem value_digits (number : Nat) : value (digits number) = number := by
  rw [digits]
  split
  · rename_i zero
    rw [zero]
    rfl
  · rw [value, List.reverse_reverse, Nat.ofDigits_digits]

theorem value_cons (digit : Nat) (numeral : List Nat) :
    value (digit :: numeral) = digit * 10 ^ numeral.length + value numeral := by
  rw [value, List.reverse_cons, Nat.ofDigits_append, Nat.ofDigits_singleton, List.length_reverse,
    value, Nat.mul_comm]
  exact Nat.add_comm ..

theorem value_lt {numeral : List Nat} (small : ∀ digit ∈ numeral, digit < 10) :
    value numeral < 10 ^ numeral.length := by
  rw [value, ← List.length_reverse]
  exact Nat.ofDigits_lt_base_pow_length (by decide) fun digit mem =>
    small digit (List.mem_reverse.1 mem)

theorem digits_lt {number digit : Nat} (mem : digit ∈ digits number) : digit < 10 := by
  rw [digits] at mem
  split at mem
  · rw [List.mem_singleton.1 mem]
    decide
  · exact Nat.digits_lt_base (by decide) (List.mem_reverse.1 mem)

theorem digits_head {number : Nat} (positive : number ≠ 0) :
    ∃ first others, digits number = first :: others ∧ first ≠ 0 := by
  have nonempty : Nat.digits 10 number ≠ [] := Nat.digits_ne_nil_iff_ne_zero.2 positive
  have last := Nat.getLast_digit_ne_zero 10 positive
  refine ⟨_, (Nat.digits 10 number).dropLast.reverse, ?_, last⟩
  rw [digits, if_neg positive, ← List.reverse_concat,
    List.dropLast_append_getLast nonempty]

theorem digits_ne_nil (number : Nat) : digits number ≠ [] := by
  by_cases zero : number = 0
  · rw [digits, if_pos zero]
    exact List.cons_ne_nil _ _
  · obtain ⟨first, others, same, -⟩ := digits_head zero
    rw [same]
    exact List.cons_ne_nil _ _

theorem digits_length_le {number width : Nat} (nonzero : width ≠ 0)
    (small : number < 10 ^ width) : (digits number).length ≤ width := by
  rw [digits]
  split
  · exact Nat.one_le_iff_ne_zero.2 nonzero
  · rw [List.length_reverse]
    exact (Nat.digits_length_le_iff (by decide) number).2 small

/-- A numeral that comes after another of its length stands for a larger number. -/
theorem value_lt_of_sharedOrder_gt {left right : List Nat} (sameLength : left.length = right.length)
    (leftSmall : ∀ digit ∈ left, digit < 10) (rightSmall : ∀ digit ∈ right, digit < 10)
    (after : sharedOrder left right = .gt) : value right < value left := by
  induction left generalizing right with
  | nil => cases after
  | cons first left ih =>
    cases right with
    | nil => cases after
    | cons second right =>
      have lengths : left.length = right.length := Nat.succ.inj sameLength
      have rest := value_lt fun digit mem => rightSmall digit (List.mem_cons_of_mem _ mem)
      rw [sharedOrder, Ordering.then_eq_gt, Nat.compare_eq_gt, Nat.compare_eq_eq] at after
      rw [value_cons, value_cons, lengths]
      rcases after with greater | ⟨rfl, after⟩
      · calc second * 10 ^ right.length + value right
            < second * 10 ^ right.length + 10 ^ right.length := Nat.add_lt_add_left rest _
          _ = (second + 1) * 10 ^ right.length := by rw [Nat.succ_mul]
          _ ≤ first * 10 ^ right.length := Nat.mul_le_mul_right _ greater
          _ ≤ first * 10 ^ right.length + value left := Nat.le_add_right ..
      · have less := ih lengths (fun digit mem => leftSmall digit (List.mem_cons_of_mem _ mem))
          (fun digit mem => rightSmall digit (List.mem_cons_of_mem _ mem)) after
        omega

theorem sharedOrder_isLE {left right : List Nat} (sameLength : left.length = right.length)
    (leftSmall : ∀ digit ∈ left, digit < 10) (rightSmall : ∀ digit ∈ right, digit < 10)
    (le : value left ≤ value right) : (sharedOrder left right).isLE = true := by
  cases order : sharedOrder left right with
  | lt => rfl
  | eq => rfl
  | gt =>
    have less := value_lt_of_sharedOrder_gt sameLength leftSmall rightSmall order
    omega

end Decimal

/-! Numerals in any base, most significant digit first. -/

namespace Radix

def value (base : Nat) (numeral : List Nat) : Nat :=
  numeral.foldl (fun number digit => number * base + digit) 0

/-- The numeral of a fixed length, for the number modulo a power of the base. -/
def fixed (base length number : Nat) : List Nat :=
  (List.range length).map fun index => number / base ^ (length - index - 1) % base

theorem foldl_eq (base : Nat) (numeral : List Nat) (start : Nat) :
    numeral.foldl (fun number digit => number * base + digit) start =
      start * base ^ numeral.length + value base numeral := by
  rw [value]
  induction numeral generalizing start with
  | nil => simp
  | cons digit rest ih =>
    rw [List.foldl_cons, List.foldl_cons, ih (start * base + digit), ih (0 * base + digit),
      List.length_cons]
    ring

theorem value_cons (base digit : Nat) (rest : List Nat) :
    value base (digit :: rest) = digit * base ^ rest.length + value base rest := by
  rw [value, List.foldl_cons, foldl_eq, Nat.zero_mul, Nat.zero_add]

theorem value_concat (base digit : Nat) (high : List Nat) :
    value base (high ++ [digit]) = value base high * base + digit := by
  rw [value, List.foldl_append, List.foldl_cons, List.foldl_nil, value]

theorem value_reverse (base : Nat) (numeral : List Nat) :
    value base numeral.reverse = Nat.ofDigits base numeral := by
  induction numeral with
  | nil => rfl
  | cons digit rest ih =>
    rw [List.reverse_cons, value_concat, ih, Nat.ofDigits_cons, Nat.mul_comm, Nat.add_comm]

theorem fixed_succ (base length number : Nat) :
    fixed base (length + 1) number = fixed base length (number / base) ++ [number % base] := by
  rw [fixed, List.range_succ, List.map_append, List.map_singleton, fixed]
  congr 1
  · refine List.map_congr_left fun index member => ?_
    have below := List.mem_range.mp member
    have exponent : length + 1 - index - 1 = length - index - 1 + 1 := by omega
    rw [exponent, Nat.pow_succ, Nat.mul_comm, Nat.div_div_eq_div_mul]
  · rw [Nat.add_sub_cancel_left, Nat.sub_self, Nat.pow_zero, Nat.div_one]

theorem value_fixed (base length number : Nat) :
    value base (fixed base length number) = number % base ^ length := by
  induction length generalizing number with
  | zero => rw [Nat.pow_zero, Nat.mod_one]; rfl
  | succ length ih =>
    rw [fixed_succ, value_concat, ih, Nat.pow_succ, Nat.mul_comm (base ^ length) base,
      Nat.mod_mul]
    ring

end Radix
