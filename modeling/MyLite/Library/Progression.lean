import Mathlib.Data.List.Nodup
import Mathlib.Data.Nat.ModEq
import Mathlib.Order.Bounds.Basic

/-! Consecutive values of a 64-bit counter that wraps, and the values of a series with a step
and an offset. -/

namespace Progression

/-- The `count` values that a counter gives from `first` on. -/
def values (first : UInt64) (count : Nat) : List UInt64 :=
  (List.range count).map fun index => first + UInt64.ofNat index

variable {first second value : UInt64} {count others : Nat}

theorem values_succ (first : UInt64) (count : Nat) :
    values first (count + 1) = first :: values (first + 1) count := by
  rw [values, List.range_succ_eq_map, List.map_cons, List.map_map, values]
  refine congrArg₂ List.cons (UInt64.add_zero first) (List.map_congr_left fun index _ => ?_)
  rw [Function.comp_apply, Nat.succ_eq_add_one, UInt64.ofNat_add, UInt64.add_assoc,
    UInt64.add_comm (UInt64.ofNat index)]
  rfl

theorem mem_values : value ∈ values first count ↔ (value - first).toNat < count := by
  rw [values, List.mem_map]
  constructor
  · rintro ⟨index, below, rfl⟩
    rw [List.mem_range] at below
    rw [UInt64.add_comm, UInt64.add_sub_cancel, UInt64.toNat_ofNat']
    exact Nat.lt_of_le_of_lt (Nat.mod_le _ _) below
  · intro below
    refine ⟨(value - first).toNat, List.mem_range.mpr below, ?_⟩
    rw [UInt64.ofNat_toNat, UInt64.add_comm, UInt64.sub_add_cancel]

theorem value_inj {index other : Nat} :
    first + UInt64.ofNat index = first + UInt64.ofNat other ↔
      index % 18446744073709551616 = other % 18446744073709551616 := by
  rw [UInt64.add_right_inj, ← UInt64.toNat_inj, UInt64.toNat_ofNat', UInt64.toNat_ofNat']

theorem nodup_values : (values first count).Nodup ↔ count ≤ 18446744073709551616 := by
  rw [values, List.nodup_map_iff_inj_on List.nodup_range]
  constructor
  · intro distinct
    by_contra more
    -- the counter is back where it started
    have same := distinct 0 (List.mem_range.mpr (by omega)) 18446744073709551616
      (List.mem_range.mpr (by omega)) (value_inj.mpr (by omega))
    omega
  · intro few index below other otherBelow same
    rw [List.mem_range] at below otherBelow
    have residues := value_inj.mp same
    omega

/-- Two counters give no value in common when each stops before it reaches the start of the
other. -/
theorem disjoint_values (positive : 0 < count) (othersPositive : 0 < others) :
    (values first count).Disjoint (values second others) ↔
      count ≤ (second - first).toNat ∧ others ≤ (first - second).toNat := by
  constructor
  · intro disjoint
    constructor
    · by_contra reaches
      refine disjoint (a := second) (mem_values.mpr (by omega)) (mem_values.mpr ?_)
      rw [UInt64.sub_self]
      exact othersPositive
    · by_contra reaches
      refine disjoint (a := first) (mem_values.mpr ?_) (mem_values.mpr (by omega))
      rw [UInt64.sub_self]
      exact positive
  · rintro ⟨before, otherBefore⟩ value member otherMember
    rw [mem_values] at member otherMember
    have low := value.toNat_lt
    have firstLow := first.toNat_lt
    have secondLow := second.toNat_lt
    rw [UInt64.toNat_sub] at *
    omega

end Progression

/-! The least number of a residue class at or above a bound. -/

namespace Alignment

/-- The numbers from `offset` on, in steps of `increment`, that are no less than `lower`. -/
def Aligned (offset increment lower : Nat) : Set Nat :=
  {value | lower ≤ value ∧ offset ≤ value ∧ value ≡ offset [MOD increment]}

/-- The least number of steps that cover a distance. -/
def stepsOver (distance increment : Nat) : Nat :=
  distance / increment + (if distance % increment ≠ 0 then 1 else 0)

def firstFrom (offset increment lower : Nat) : Nat :=
  if lower ≤ offset then offset else offset + stepsOver (lower - offset) increment * increment

section

variable {distance increment : Nat}

theorem stepsOver_covers (distance : Nat) (positive : 0 < increment) :
    distance ≤ stepsOver distance increment * increment := by
  have division := Nat.div_add_mod distance increment
  have remainder := Nat.mod_lt distance positive
  rw [stepsOver, Nat.add_mul, Nat.mul_comm (distance / increment)]
  split
  · omega
  · omega

theorem stepsOver_least {steps : Nat}
    (covers : distance ≤ steps * increment) : stepsOver distance increment ≤ steps := by
  have quotient : distance / increment ≤ steps := Nat.div_le_of_le_mul (by
    rw [Nat.mul_comm]
    exact covers)
  rw [stepsOver]
  split
  · rename_i remains
    -- with a remainder, the quotient alone does not cover the distance
    have short : distance / increment ≠ steps := by
      rintro rfl
      have division := Nat.div_add_mod distance increment
      rw [Nat.mul_comm] at division
      omega
    omega
  · omega

theorem firstFrom_mem (offset lower : Nat) (positive : 0 < increment) :
    firstFrom offset increment lower ∈ Aligned offset increment lower := by
  rw [firstFrom]
  split
  · exact ⟨‹_›, Nat.le_refl _, Nat.ModEq.refl _⟩
  · have covers := stepsOver_covers (lower - offset) positive
    refine ⟨by omega, Nat.le_add_right _ _, ?_⟩
    rw [Nat.ModEq, Nat.add_mul_mod_self_right]

theorem firstFrom_isLeast (offset lower : Nat) (positive : 0 < increment) :
    IsLeast (Aligned offset increment lower) (firstFrom offset increment lower) := by
  constructor
  · exact firstFrom_mem offset lower positive
  · rintro value ⟨above, aboveOffset, aligned⟩
    rw [firstFrom]
    split
    · exact aboveOffset
    · obtain ⟨steps, apart⟩ := (Nat.modEq_iff_dvd' aboveOffset).mp aligned.symm
      have reached : stepsOver (lower - offset) increment ≤ steps := by
        apply stepsOver_least
        rw [Nat.mul_comm]
        omega
      have scaled := Nat.mul_le_mul_right increment reached
      rw [Nat.mul_comm steps] at scaled
      omega

end

end Alignment
