import Mathlib.Tactic.Common

/-! Code that may stop: machine arithmetic where an operation would overflow or wrap or the code
refuses an input, the exact operations on `int64_t`, and steps that may fail. -/

namespace Checked

inductive Stop where
  /-- An operation left its type. -/
  | wraps
  /-- The code returned `false`. -/
  | refused
  deriving DecidableEq, Repr

/-- A value of a type that holds the integers from `low` to `high`. -/
def within (low high value : Int) : Except Stop Int :=
  if low ≤ value ∧ value ≤ high then .ok value else .error .wraps

def int32 (value : Int) : Except Stop Int := within (-2147483648) 2147483647 value

def int64 (value : Int) : Except Stop Int :=
  within (-9223372036854775808) 9223372036854775807 value

def uint32 (value : Int) : Except Stop Int := within 0 4294967295 value

def uint64 (value : Int) : Except Stop Int := within 0 18446744073709551615 value

/-- The outcome of code that only refuses. -/
def accept {Value : Type} : Option Value → Except Stop Value
  | none => .error .refused
  | some value => .ok value

section

variable {Value Result : Type} {value : Int}

theorem ok_bind (value : Value) (next : Value → Except Stop Result) :
    Except.ok value >>= next = next value := rfl

theorem within_eq {low high : Int} (above : low ≤ value) (below : value ≤ high) :
    within low high value = .ok value := by
  rw [within, if_pos ⟨above, below⟩]

theorem int32_eq (above : -2147483648 ≤ value) (below : value ≤ 2147483647) :
    int32 value = .ok value := within_eq above below

theorem int64_eq (above : -9223372036854775808 ≤ value) (below : value ≤ 9223372036854775807) :
    int64 value = .ok value := within_eq above below

theorem uint32_eq (above : 0 ≤ value) (below : value ≤ 4294967295) :
    uint32 value = .ok value := within_eq above below

theorem uint64_eq (above : 0 ≤ value) (below : value ≤ 18446744073709551615) :
    uint64 value = .ok value := within_eq above below

theorem accept_ite (condition : Prop) [Decidable condition] (value : Value) :
    accept (if condition then some value else none) =
      if condition then pure value else throw .refused := by
  split
  · rfl
  · rfl

end

end Checked

/-! Arithmetic on `int64_t` in C: an operation whose exact result is no `int64_t`, or that
divides by zero, is undefined and has no result here. -/

namespace ExactInt64

def InRange (exact : Int) : Prop :=
  -9223372036854775808 ≤ exact ∧ exact ≤ 9223372036854775807

instance (exact : Int) : Decidable (InRange exact) := inferInstanceAs (Decidable (_ ∧ _))

def ofExact (exact : Int) : Option Int64 :=
  if InRange exact then some (Int64.ofInt exact) else none

def add (left right : Int64) : Option Int64 := ofExact (left.toInt + right.toInt)

def sub (left right : Int64) : Option Int64 := ofExact (left.toInt - right.toInt)

def mul (left right : Int64) : Option Int64 := ofExact (left.toInt * right.toInt)

/-- The quotient is truncated. -/
def div (left right : Int64) : Option Int64 :=
  if right = 0 then none else ofExact (left.toInt.tdiv right.toInt)

/-- The remainder is undefined where the quotient is. -/
def mod (left right : Int64) : Option Int64 :=
  (div left right).bind fun _ => ofExact (left.toInt.tmod right.toInt)

theorem toInt_inRange (value : Int64) : InRange value.toInt := by
  have low := value.le_toInt
  have high := value.toInt_lt
  unfold InRange
  omega

theorem toInt_ofInt {exact : Int} (inRange : InRange exact) :
    (Int64.ofInt exact).toInt = exact := by
  obtain ⟨low, high⟩ := inRange
  exact Int64.toInt_ofInt_of_le (by omega) (by omega)

theorem ofExact_eq_some {exact : Int} {value : Int64} :
    ofExact exact = some value ↔ value.toInt = exact := by
  unfold ofExact
  split
  · rename_i inRange
    rw [Option.some.injEq, ← Int64.toInt_inj, toInt_ofInt inRange]
    exact eq_comm
  · rename_i outside
    constructor
    · intro impossible
      cases impossible
    · intro same
      exact absurd (same ▸ toInt_inRange value) outside

theorem ofExact_eq_none {exact : Int} : ofExact exact = none ↔ ¬ InRange exact := by
  unfold ofExact
  split <;> simp_all

/-- The only quotient that is out of range. -/
theorem tdiv_inRange_iff {left right : Int} (inRange : InRange left) (nonzero : right ≠ 0) :
    InRange (left.tdiv right) ↔ ¬ (left = -9223372036854775808 ∧ right = -1) := by
  obtain ⟨low, high⟩ := inRange
  constructor
  · rintro ⟨_, above⟩ ⟨rfl, rfl⟩
    exact absurd above (by decide)
  · intro fits
    unfold InRange
    by_cases unit : right.natAbs = 1
    · rcases Int.natAbs_eq right with positive | negative
      · rw [positive, unit, Int.natCast_one, Int.tdiv_one]
        exact ⟨low, high⟩
      · rw [negative, unit, Int.natCast_one, Int.tdiv_neg, Int.tdiv_one]
        omega
    · have half : (left.tdiv right).natAbs ≤ left.natAbs / 2 := by
        rw [Int.natAbs_tdiv]
        exact Nat.div_le_div_left (by omega) (by decide)
      omega

/-- A remainder is no larger than what is divided. -/
theorem tmod_inRange {left : Int} (inRange : InRange left) (right : Int) :
    InRange (left.tmod right) := by
  obtain ⟨low, high⟩ := inRange
  have size : (left.tmod right).natAbs ≤ left.natAbs := by
    rw [Int.natAbs_tmod]
    exact Nat.mod_le _ _
  have sign : left < 0 → left.tmod right ≤ 0 := by
    intro negative
    have flipped := Int.tmod_nonneg right (a := -left) (by omega)
    rw [Int.neg_tmod] at flipped
    omega
  unfold InRange
  by_cases negative : left < 0
  · have := sign negative
    omega
  · omega

end ExactInt64

/-! Steps that may fail, one after the other: what a success says of each. -/

namespace Fallible

variable {Error Source Result : Type}

theorem bind_ok {first : Except Error Source} {next : Source → Except Error Result}
    {value : Result} (bound : first.bind next = .ok value) :
    ∃ source, first = .ok source ∧ next source = .ok value := by
  cases first with
  | error => cases bound
  | ok source => exact ⟨source, rfl, bound⟩

theorem map_ok {first : Except Error Source} {convert : Source → Result} {value : Result}
    (mapped : first.map convert = .ok value) :
    ∃ source, first = .ok source ∧ convert source = value := by
  cases first with
  | error => cases mapped
  | ok source => exact ⟨source, rfl, Except.ok.inj mapped⟩

end Fallible
