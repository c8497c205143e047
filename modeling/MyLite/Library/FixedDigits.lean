import MyLite.Library.Decimal

/-! Numbers in a field of decimal digits: `%0*d` of C, and the loop that reads digits. -/

namespace FixedDigits

def ascii (digit : Nat) : UInt8 := UInt8.ofNat (48 + digit)

/-- `%d` of a number that is not negative. -/
def numeral (number : Nat) : List UInt8 := (Decimal.digits number).map ascii

/-- `%lld`. -/
def decimal (value : Int) : List UInt8 :=
  if value < 0 then 45 :: numeral value.natAbs else numeral value.toNat

/-- `%0*d`. -/
def padded (width : Nat) (value : Int) : List UInt8 :=
  if value < 0 then
    45 :: (List.replicate (width - 1 - (numeral value.natAbs).length) 48 ++ numeral value.natAbs)
  else List.replicate (width - (numeral value.toNat).length) 48 ++ numeral value.toNat

/-- The loop over the digits, from a value on. -/
def parseFrom (value : Int) : List UInt8 → Option Int
  | [] => some value
  | byte :: bytes =>
    if byte < 48 ∨ byte > 57 then none else parseFrom (value * 10 + (byte.toNat - 48 : Nat)) bytes

def parse (text : List UInt8) : Option Int :=
  if text.isEmpty then none else parseFrom 0 text

theorem ascii_toNat {digit : Nat} (small : digit < 10) : (ascii digit).toNat = 48 + digit := by
  rw [ascii, UInt8.toNat_ofNat']
  omega

theorem ascii_isDigit {digit : Nat} (small : digit < 10) :
    ¬ (ascii digit < 48 ∨ ascii digit > 57) := by
  have number := ascii_toNat small
  rw [UInt8.lt_iff_toNat_lt, gt_iff_lt, UInt8.lt_iff_toNat_lt, number]
  change ¬ (48 + digit < 48 ∨ 57 < 48 + digit)
  omega

theorem ascii_of_byte {byte : UInt8} (isDigit : ¬ (byte < 48 ∨ byte > 57)) :
    byte.toNat - 48 < 10 ∧ ascii (byte.toNat - 48) = byte := by
  rw [UInt8.lt_iff_toNat_lt, gt_iff_lt, UInt8.lt_iff_toNat_lt] at isDigit
  change ¬ (byte.toNat < 48 ∨ 57 < byte.toNat) at isDigit
  refine ⟨by omega, ?_⟩
  rw [ascii, Nat.add_sub_of_le (by omega), UInt8.ofNat_toNat]

theorem parseFrom_map {digits : List Nat} (small : ∀ digit ∈ digits, digit < 10) (value : Nat) :
    parseFrom value (digits.map ascii) =
      some ((value * 10 ^ digits.length + Decimal.value digits : Nat) : Int) := by
  induction digits generalizing value with
  | nil => simp [parseFrom, Decimal.value]
  | cons digit digits ih =>
    have first := small digit List.mem_cons_self
    have later := ih (fun other member => small other (List.mem_cons_of_mem _ member))
      (value * 10 + digit)
    rw [List.map_cons, parseFrom, if_neg (ascii_isDigit first), ascii_toNat first,
      Nat.add_sub_cancel_left]
    have stepped : (value : Int) * 10 + (digit : Nat) = ((value * 10 + digit : Nat) : Int) := by
      push_cast
      rfl
    rw [stepped, later, Decimal.value_cons, List.length_cons, Nat.pow_succ]
    congr 2
    ring

/-- What the loop accepts is digits. -/
theorem parseFrom_digits {text : List UInt8} {value result : Int}
    (read : parseFrom value text = some result) :
    ∃ digits : List Nat, text = digits.map ascii ∧ ∀ digit ∈ digits, digit < 10 := by
  induction text generalizing value with
  | nil => exact ⟨[], rfl, fun _ none => absurd none List.not_mem_nil⟩
  | cons byte text ih =>
    rw [parseFrom] at read
    split at read
    · cases read
    · rename_i isDigit
      obtain ⟨small, same⟩ := ascii_of_byte isDigit
      obtain ⟨digits, rfl, all⟩ := ih read
      refine ⟨(byte.toNat - 48) :: digits, ?_, ?_⟩
      · rw [List.map_cons, same]
      · intro digit member
        rcases List.mem_cons.mp member with rfl | later
        · exact small
        · exact all digit later

theorem value_replicate (count : Nat) (digits : List Nat) :
    Decimal.value (List.replicate count 0 ++ digits) = Decimal.value digits := by
  induction count with
  | zero => rfl
  | succ count ih =>
    rw [List.replicate_succ, List.cons_append, Decimal.value_cons, Nat.zero_mul, Nat.zero_add, ih]

/-- A number that fits its field has as many digits as the field. -/
theorem padded_digits {width : Nat} {value : Int} (nonzero : width ≠ 0) (low : 0 ≤ value)
    (high : value < 10 ^ width) :
    ∃ digits : List Nat, padded width value = digits.map ascii ∧ digits.length = width ∧
      (∀ digit ∈ digits, digit < 10) ∧ (Decimal.value digits : Int) = value := by
  have number : value.toNat < 10 ^ width := by
    have cast : ((10 ^ width : Nat) : Int) = 10 ^ width := by push_cast; rfl
    omega
  have short := Decimal.digits_length_le nonzero number
  refine ⟨List.replicate (width - (Decimal.digits value.toNat).length) 0 ++
    Decimal.digits value.toNat, ?_, ?_, ?_, ?_⟩
  · rw [padded, if_neg (by omega), numeral, List.length_map, List.map_append, List.map_replicate]
    rfl
  · rw [List.length_append, List.length_replicate]
    omega
  · intro digit member
    rcases List.mem_append.mp member with zero | own
    · rw [List.eq_of_mem_replicate zero]
      decide
    · exact Decimal.digits_lt own
  · rw [value_replicate, Decimal.value_digits]
    omega

theorem padded_length {width : Nat} {value : Int} (nonzero : width ≠ 0) (low : 0 ≤ value)
    (high : value < 10 ^ width) : (padded width value).length = width := by
  obtain ⟨digits, same, length, _⟩ := padded_digits nonzero low high
  rw [same, List.length_map, length]

theorem parse_padded {width : Nat} {value : Int} (nonzero : width ≠ 0) (low : 0 ≤ value)
    (high : value < 10 ^ width) : parse (padded width value) = some value := by
  obtain ⟨digits, same, length, small, stands⟩ := padded_digits nonzero low high
  have filled : ¬ (padded width value).isEmpty = true := by
    rw [same, List.isEmpty_iff, List.map_eq_nil_iff]
    rintro rfl
    exact nonzero length.symm
  have read := parseFrom_map small 0
  rw [Nat.zero_mul, Nat.zero_add, stands] at read
  rw [parse, if_neg filled, same]
  exact read

theorem parse_bounds {text : List UInt8} {value : Int} (read : parse text = some value) :
    0 ≤ value ∧ value < 10 ^ text.length := by
  rw [parse] at read
  split at read
  · cases read
  · obtain ⟨digits, rfl, small⟩ := parseFrom_digits read
    have same := parseFrom_map small 0
    rw [Nat.zero_mul, Nat.zero_add] at same
    have equal := Option.some.inj (read.symm.trans same)
    have less := Decimal.value_lt small
    rw [equal, List.length_map]
    refine ⟨Int.natCast_nonneg _, ?_⟩
    exact_mod_cast less

/-- A field of digits is the number it stands for in that field. -/
theorem padded_parse {text : List UInt8} {value : Int} (read : parse text = some value) :
    padded text.length value = text := by
  obtain ⟨low, high⟩ := parse_bounds read
  rw [parse] at read
  split at read
  · cases read
  · rename_i filled
    have nonzero : text.length ≠ 0 := by
      intro none
      exact filled (List.isEmpty_iff.mpr (List.length_eq_zero_iff.mp none))
    obtain ⟨digits, same, length, small, stands⟩ := padded_digits nonzero low high
    obtain ⟨others, written, alsoSmall⟩ := parseFrom_digits read
    have other := parseFrom_map alsoSmall 0
    rw [Nat.zero_mul, Nat.zero_add, ← written] at other
    have equal := Option.some.inj (read.symm.trans other)
    have values : Decimal.value digits = Decimal.value others := by omega
    have lengths : digits.length = others.length := by
      rw [length, written, List.length_map]
    have reversed : digits.reverse = others.reverse := by
      apply Nat.ofDigits_inj_of_len_eq (by decide : 1 < 10)
      · rw [List.length_reverse, List.length_reverse, lengths]
      · exact fun digit member => small digit (List.mem_reverse.mp member)
      · exact fun digit member => alsoSmall digit (List.mem_reverse.mp member)
      · exact values
    rw [same, written, List.reverse_inj.mp reversed]

end FixedDigits
