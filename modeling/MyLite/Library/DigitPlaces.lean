import MyLite.Library.Rounding

/-! The digits of a numeral by their places, behind and in front of it zeros. -/

namespace DigitPlaces

open Rounding (halfUp scaled)

def digitAt (digits : List ℕ) (place : ℤ) : ℕ :=
  if 0 ≤ place then digits[place.toNat]?.getD 0 else 0

/-- The number that the digits in front of a place stand for. -/
def front (digits : List ℕ) (place : ℤ) : ℕ :=
  Decimal.value ((List.range place.toNat).map fun index => digits[index]?.getD 0)

/-- The digits from a place on. -/
def window (digits : List ℕ) (place : ℤ) (count : ℕ) : List ℕ :=
  (List.range count).map fun index : ℕ => digitAt digits (place + index)

variable {digits : List ℕ}

theorem digitAt_ofNat (digits : List ℕ) (index : ℕ) :
    digitAt digits index = digits[index]?.getD 0 := by
  rw [digitAt, if_pos (Int.natCast_nonneg index), Int.toNat_natCast]

theorem digitAt_of_neg {place : ℤ} (before : place < 0) : digitAt digits place = 0 :=
  if_neg (by omega)

theorem digitAt_beyond {place : ℤ} (beyond : (digits.length : ℤ) ≤ place) :
    digitAt digits place = 0 := by
  rw [digitAt, if_pos (by omega), List.getElem?_eq_none (by omega)]
  rfl

theorem front_of_nonpos {place : ℤ} (before : place ≤ 0) : front digits place = 0 := by
  rw [front, Int.toNat_of_nonpos before]
  rfl

theorem front_succ (digits : List ℕ) (place : ℤ) :
    front digits (place + 1) = front digits place * 10 + digitAt digits place := by
  by_cases nonneg : 0 ≤ place
  · have next : (place + 1).toNat = place.toNat + 1 := by omega
    rw [front, next, List.range_succ, List.map_append, Decimal.value_append, front, digitAt,
      if_pos nonneg]
    simp [Decimal.value]
  · rw [front_of_nonpos (by omega), front_of_nonpos (by omega), digitAt_of_neg (by omega)]

/-- A window continues the digits in front of it. -/
theorem value_window (digits : List ℕ) (place : ℤ) (count : ℕ) :
    front digits place * 10 ^ count + Decimal.value (window digits place count) =
      front digits (place + count) := by
  induction count with
  | zero => simp [window, Decimal.value]
  | succ count ih =>
    have next : place + (count + 1 : ℕ) = place + count + 1 := by omega
    have last : window digits place (count + 1) =
        window digits place count ++ [digitAt digits (place + count)] := by
      rw [window, List.range_succ, List.map_append]
      rfl
    rw [next, front_succ, ← ih, last, Decimal.value_append, pow_succ]
    simp [Decimal.value]
    ring

/-- The digits in front of a place, filled with zeros. -/
theorem range_eq (digits : List ℕ) (count : ℕ) :
    (List.range count).map (fun index => digits[index]?.getD 0) =
      digits.take count ++ List.replicate (count - digits.length) 0 := by
  apply List.ext_getElem
  · simp only [List.length_map, List.length_range, List.length_append, List.length_take,
      List.length_replicate]
    omega
  · intro index left right
    rw [List.getElem_map, List.getElem_range, List.getElem_append]
    split
    · rename_i inside
      have less : index < digits.length := by
        rw [List.length_take] at inside
        omega
      rw [List.getElem_take, List.getElem?_eq_getElem less, Option.getD_some]
    · rename_i outside
      have beyond : digits.length ≤ index := by
        rw [List.length_take] at outside
        rw [List.length_map, List.length_range] at left
        omega
      rw [List.getElem_replicate, List.getElem?_eq_none beyond, Option.getD_none]

theorem front_ofNat (digits : List ℕ) (count : ℕ) :
    front digits count =
      Decimal.value (digits.take count ++ List.replicate (count - digits.length) 0) := by
  rw [front, Int.toNat_natCast, range_eq]

theorem range_inside {count : ℕ} (inside : count ≤ digits.length) :
    (List.range count).map (fun index => digits[index]?.getD 0) = digits.take count := by
  rw [range_eq, Nat.sub_eq_zero_of_le inside, List.replicate_zero, List.append_nil]

theorem range_beyond (more : ℕ) :
    (List.range (digits.length + more)).map (fun index => digits[index]?.getD 0) =
      digits ++ List.replicate more 0 := by
  rw [range_eq, List.take_of_length_le (Nat.le_add_right _ _), Nat.add_sub_cancel_left]

/-- Zeros in front of a place stand for nothing. -/
theorem front_eq_zero {place : ℤ} (zeros : ∀ other : ℤ, other < place → digitAt digits other = 0) :
    front digits place = 0 := by
  by_cases before : place ≤ 0
  · exact front_of_nonpos before
  · obtain ⟨count, rfl⟩ : ∃ count : ℕ, place = count := ⟨place.toNat, by omega⟩
    clear before
    induction count with
    | zero => exact front_of_nonpos (Int.le_refl _)
    | succ count ih =>
      rw [Nat.cast_succ, front_succ, ih fun other less => zeros other (by omega),
        zeros count (by omega)]

theorem front_beyond (more : ℕ) :
    front digits (digits.length + more) = Decimal.value digits * 10 ^ more := by
  rw [front]
  have count : ((digits.length : ℤ) + more).toNat = digits.length + more := by omega
  rw [count, range_beyond, Decimal.value_append, Decimal.value_replicate_zero, List.length_replicate,
    Nat.add_zero]

theorem front_length (digits : List ℕ) : front digits digits.length = Decimal.value digits := by
  rw [front, Int.toNat_natCast, range_inside (Nat.le_refl _), List.take_length]

/-- A place inside a numeral splits it. -/
theorem split_at {index : ℕ} (inside : index < digits.length) :
    digits = digits.take index ++ digits[index]?.getD 0 :: digits.drop (index + 1) := by
  rw [List.getElem?_eq_getElem inside, Option.getD_some, ← List.drop_eq_getElem_cons inside,
    List.take_append_drop]

variable (small : ∀ digit ∈ digits, digit < 10)

include small

theorem front_quotient {places : ℕ} (inside : places ≤ digits.length) :
    front digits (digits.length - places) = Decimal.value digits / 10 ^ places := by
  have count : ((digits.length : ℤ) - places).toNat = digits.length - places := by omega
  have back : (digits.drop (digits.length - places)).length = places := by
    rw [List.length_drop]
    omega
  have backSmall : ∀ digit ∈ digits.drop (digits.length - places), digit < 10 :=
    fun digit member => small digit (List.mem_of_mem_drop member)
  have quotient := Decimal.value_front (digits.take (digits.length - places)) backSmall
  rw [List.take_append_drop, back] at quotient
  rw [quotient, front, count, range_inside (by omega)]

theorem digitAt_remainder {places : ℕ} (inside : places < digits.length) :
    digitAt digits (digits.length - (places + 1 : ℕ)) = Decimal.value digits / 10 ^ places % 10 := by
  have place : ((digits.length : ℤ) - (places + 1 : ℕ)) = (digits.length - (places + 1) : ℕ) := by
    omega
  have less : digits.length - (places + 1) < digits.length := by omega
  have split := split_at less
  have back : (digits.drop (digits.length - (places + 1) + 1)).length = places := by
    rw [List.length_drop]
    omega
  have digitSmall : digits[digits.length - (places + 1)]?.getD 0 < 10 := by
    rw [List.getElem?_eq_getElem less]
    exact small _ (List.getElem_mem less)
  have backSmall : ∀ digit ∈ digits.drop (digits.length - (places + 1) + 1), digit < 10 :=
    fun digit member => small digit (List.mem_of_mem_drop member)
  have remainder := @Decimal.value_digit (digits.take (digits.length - (places + 1))) _ _ digitSmall
    backSmall
  rw [← split, back] at remainder
  rw [place, digitAt_ofNat, remainder]

/-- A numeral moved to end at a place is rounded by the digits in front of it and the one
there. -/
theorem halfUp_scaled (place : ℤ) :
    halfUp (scaled (Decimal.value digits) (place - digits.length)) =
      front digits place + if 5 ≤ digitAt digits place then 1 else 0 := by
  by_cases beyond : (digits.length : ℤ) ≤ place
  · obtain ⟨more, rfl⟩ : ∃ more : ℕ, place = digits.length + more := ⟨(place - digits.length).toNat,
      by omega⟩
    rw [digitAt_beyond beyond, front_beyond, add_sub_cancel_left, Rounding.halfUp_scaled_ofNat]
    rfl
  · obtain ⟨places, rfl⟩ : ∃ places : ℕ, place = digits.length - (places + 1 : ℕ) :=
      ⟨(digits.length - place - 1).toNat, by omega⟩
    rw [sub_sub_cancel_left, Rounding.halfUp_scaled_neg]
    by_cases inside : places < digits.length
    · rw [digitAt_remainder small inside, front_quotient small (by omega)]
    · have tiny : Decimal.value digits < 10 ^ places :=
        lt_of_lt_of_le (Decimal.value_lt small) (Nat.pow_le_pow_right (by omega) (by omega))
      have smaller : Decimal.value digits < 10 ^ (places + 1) :=
        lt_of_lt_of_le tiny (Nat.pow_le_pow_right (by omega) (by omega))
      rw [Nat.div_eq_of_lt tiny, Nat.div_eq_of_lt smaller, front_of_nonpos (by omega),
        digitAt_of_neg (by omega)]

/-- Nothing is left behind a place exactly if the number moved there is whole. -/
theorem scaled_whole_iff (place : ℤ) :
    (∃ number : ℕ, scaled (Decimal.value digits) (place - digits.length) = number) ↔
      ∀ other : ℤ, place ≤ other → digitAt digits other = 0 := by
  by_cases beyond : (digits.length : ℤ) ≤ place
  · obtain ⟨more, rfl⟩ : ∃ more : ℕ, place = digits.length + more :=
      ⟨(place - digits.length).toNat, by omega⟩
    constructor
    · intro _ other later
      exact digitAt_beyond (by omega)
    · intro _
      rw [add_sub_cancel_left, Rounding.scaled_ofNat]
      exact ⟨_, rfl⟩
  · obtain ⟨places, rfl⟩ : ∃ places : ℕ, place = digits.length - (places : ℤ) :=
      ⟨(digits.length - place).toNat, by omega⟩
    have power : (10 : ℚ) ^ places ≠ 0 := by positivity
    rw [sub_sub_cancel_left, Rounding.scaled_neg]
    constructor
    · rintro ⟨number, whole⟩ other later
      have multiple : Decimal.value digits = number * 10 ^ places := by
        rw [div_eq_iff power] at whole
        exact_mod_cast whole
      by_cases inside : 0 ≤ other ∧ other < digits.length
      · obtain ⟨fewer, rfl⟩ : ∃ fewer : ℕ, other = digits.length - (fewer + 1 : ℕ) :=
          ⟨(digits.length - other - 1).toNat, by omega⟩
        obtain ⟨more, rfl⟩ : ∃ more : ℕ, places = fewer + (more + 1) :=
          ⟨places - fewer - 1, by omega⟩
        have quotient : number * 10 ^ (fewer + (more + 1)) / 10 ^ fewer =
            number * 10 ^ more * 10 := by
          rw [pow_add, ← mul_assoc, mul_right_comm, Nat.mul_div_cancel _ (by positivity), pow_succ,
            mul_assoc]
        rw [digitAt_remainder small (by omega), multiple, quotient, Nat.mul_mod_left]
      · by_cases negative : other < 0
        · exact digitAt_of_neg negative
        · exact digitAt_beyond (by omega)
    · intro zeros
      have empty : window digits (digits.length - (places : ℤ)) places =
          List.replicate places 0 := by
        rw [List.eq_replicate_iff]
        refine ⟨by simp [window], fun digit member => ?_⟩
        obtain ⟨index, _, rfl⟩ := List.mem_map.mp member
        exact zeros _ (by omega)
      have value := value_window digits (digits.length - (places : ℤ)) places
      rw [empty, Decimal.value_replicate_zero, sub_add_cancel, front_length, Nat.add_zero] at value
      refine ⟨front digits (digits.length - (places : ℤ)), ?_⟩
      rw [div_eq_iff power, ← value]
      push_cast
      rfl

end DigitPlaces
