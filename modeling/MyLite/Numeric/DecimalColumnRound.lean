import MyLite.Numeric.DecimalColumnScan
import MyLite.Numeric.DecimalRound
import MyLite.Library.DigitPlaces

/-! The digit buffer of a DECIMAL column: its carry, its range check, the text made of it. -/

namespace MyLite.DecimalColumn

open Numeric (asciiDecimalDigit digitValue AreDigits Mantissa digitsValue hasNonzero
  fractionSpelling)
open Rounding (halfUp scaled)

/-- The text of a number of that many decimals. -/
def decimalText (scale : Nat) (isNegative : Bool) (magnitude : Nat) : List UInt8 :=
  (if isNegative then [45] else []) ++ FixedDigits.numeral (magnitude / 10 ^ scale) ++
    if 0 < scale then 46 :: FixedDigits.padded scale (magnitude % 10 ^ scale : Nat) else []

/-! Digits and their values. -/

theorem digits_small {digits : List UInt8} (areDigits : AreDigits digits) :
    ∀ digit ∈ digits.map digitValue, digit < 10 := by
  intro digit member
  obtain ⟨byte, mem, rfl⟩ := List.mem_map.mp member
  exact Numeric.digitValue_lt (areDigits byte mem)

theorem ascii_digitValue {byte : UInt8} (isDigit : asciiDecimalDigit byte = true) :
    FixedDigits.ascii (digitValue byte) = byte := by
  rw [asciiDecimalDigit, Bool.and_eq_true, decide_eq_true_eq, decide_eq_true_eq] at isDigit
  have inside : ¬ (byte < 48 ∨ byte > 57) := by
    rintro (less | greater)
    · exact absurd isDigit.1 (UInt8.not_le.mpr less)
    · exact absurd isDigit.2 (UInt8.not_le.mpr greater)
  exact (FixedDigits.ascii_of_byte inside).2

theorem map_ascii {digits : List UInt8} (areDigits : AreDigits digits) :
    (digits.map digitValue).map FixedDigits.ascii = digits := by
  rw [List.map_map]
  exact (List.map_congr_left fun byte member => ascii_digitValue (areDigits byte member)).trans
    (List.map_id _)

theorem digitsValue_append (front back : List UInt8) :
    digitsValue (front ++ back) = digitsValue front * 10 ^ back.length + digitsValue back := by
  rw [digitsValue, List.map_append, Decimal.value_append, List.length_map]
  rfl

theorem digitsValue_lt {digits : List UInt8} (areDigits : AreDigits digits) :
    digitsValue digits < 10 ^ digits.length := by
  have less := Decimal.value_lt (digits_small areDigits)
  rwa [List.length_map] at less

theorem areDigits_append {front back : List UInt8} (frontDigits : AreDigits front)
    (backDigits : AreDigits back) : AreDigits (front ++ back) := by
  intro byte member
  rcases List.mem_append.mp member with inFront | inBack
  · exact frontDigits byte inFront
  · exact backDigits byte inBack

theorem areDigits_zeros (count : Nat) : AreDigits (List.replicate count 48) := by
  intro byte member
  rw [List.eq_of_mem_replicate member]
  rfl

/-- Digits are all zero exactly if they stand for nothing. -/
theorem digitsValue_eq_zero_iff {digits : List UInt8} (areDigits : AreDigits digits) :
    digitsValue digits = 0 ↔ decimalDigitsAreZero digits = true := by
  induction digits with
  | nil => exact ⟨fun _ => rfl, fun _ => rfl⟩
  | cons byte digits ih =>
    have rest := ih fun other member => areDigits other (List.mem_cons_of_mem _ member)
    have zero := Numeric.digitValue_eq_zero (areDigits byte List.mem_cons_self)
    have power : 10 ^ digits.length ≠ 0 := by positivity
    have both : decimalDigitsAreZero (byte :: digits) =
        (byte == 48 && decimalDigitsAreZero digits) := rfl
    rw [Numeric.digitsValue_cons, Nat.add_eq_zero_iff, Nat.mul_eq_zero, rest, both, Bool.and_eq_true,
      beq_iff_eq, zero, or_iff_left power]

/-- Digits that do not start with a zero are the numeral of what they stand for. -/
theorem numeral_digitsValue {digits : List UInt8} (areDigits : AreDigits digits)
    (nonempty : digits ≠ []) (lead : 10 ^ (digits.length - 1) ≤ digitsValue digits) :
    FixedDigits.numeral (digitsValue digits) = digits := by
  have small := digits_small areDigits
  obtain ⟨first, others, rfl⟩ := List.exists_cons_of_ne_nil nonempty
  have firstNonzero : digitValue first ≠ 0 := by
    intro zero
    have less := digitsValue_lt fun other member => areDigits other (List.mem_cons_of_mem first member)
    rw [Numeric.digitsValue_cons, zero, Nat.zero_mul, Nat.zero_add, List.length_cons,
      Nat.add_sub_cancel] at lead
    omega
  have positive : digitsValue (first :: others) ≠ 0 := by
    have power : 0 < 10 ^ ((first :: others).length - 1) := by positivity
    omega
  have digits : Nat.digits 10 (digitsValue (first :: others)) =
      ((first :: others).map digitValue).reverse := by
    apply Nat.digits_ofDigits 10 (by decide)
    · intro digit member
      exact small digit (List.mem_reverse.mp member)
    · intro filled
      rw [List.getLast_reverse]
      exact firstNonzero
  rw [FixedDigits.numeral, Decimal.digits, if_neg positive, digits, List.reverse_reverse,
    map_ascii areDigits]

theorem padded_digitsValue {digits : List UInt8} (areDigits : AreDigits digits)
    (nonempty : digits ≠ []) : FixedDigits.padded digits.length (digitsValue digits) = digits := by
  apply FixedDigits.padded_parse
  have read := FixedDigits.parseFrom_map (digits_small areDigits) 0
  rw [map_ascii areDigits, Nat.zero_mul, Nat.zero_add] at read
  rw [FixedDigits.parse, if_neg (by simpa using nonempty)]
  exact read

/-! The carry. -/

theorem digit_succ {byte : UInt8} (isDigit : asciiDecimalDigit byte = true) (less : byte < 57) :
    asciiDecimalDigit (byte + 1) = true ∧ digitValue (byte + 1) = digitValue byte + 1 := by
  rw [asciiDecimalDigit, Bool.and_eq_true, decide_eq_true_eq, decide_eq_true_eq] at isDigit
  have low : 48 ≤ byte.toNat := UInt8.le_iff_toNat_le.mp isDigit.1
  have high : byte.toNat < 57 := UInt8.lt_iff_toNat_lt.mp less
  have next : (byte + 1).toNat = byte.toNat + 1 := by
    rw [UInt8.toNat_add]
    change (byte.toNat + 1) % 256 = byte.toNat + 1
    omega
  refine ⟨?_, ?_⟩
  · rw [asciiDecimalDigit, Bool.and_eq_true, decide_eq_true_eq, decide_eq_true_eq,
      UInt8.le_iff_toNat_le, UInt8.le_iff_toNat_le, next]
    change 48 ≤ byte.toNat + 1 ∧ byte.toNat + 1 ≤ 57
    omega
  · rw [digitValue, next, digitValue]
    omega

theorem digit_nine {byte : UInt8} (isDigit : asciiDecimalDigit byte = true)
    (notLess : ¬ byte < 57) :
    digitValue byte = 9 := by
  have small := Numeric.digitValue_lt isDigit
  have high : 57 ≤ byte.toNat := UInt8.le_iff_toNat_le.mp (UInt8.not_lt.mp notLess)
  rw [digitValue] at small ⊢
  omega

theorem digitsValue_snoc (front : List UInt8) (last : UInt8) :
    digitsValue (front ++ [last]) = digitsValue front * 10 + digitValue last := by
  rw [digitsValue_append, List.length_singleton, Nat.pow_one]
  simp [digitsValue, Decimal.value]

/-- Digits from the last one on: the carry adds one, and a new digit only in front of zeros. -/
theorem incrementReversed_spec {digits : List UInt8} (areDigits : AreDigits digits) :
    AreDigits (incrementReversed digits) ∧
      digitsValue (incrementReversed digits).reverse = digitsValue digits.reverse + 1 ∧
      ((incrementReversed digits).length = digits.length ∨
        (incrementReversed digits).length = digits.length + 1 ∧
          digitsValue (incrementReversed digits).reverse = 10 ^ digits.length) := by
  induction digits with
  | nil => exact ⟨Numeric.areDigits_of_all _ (by decide), rfl, Or.inr ⟨rfl, rfl⟩⟩
  | cons byte digits ih =>
    have isDigit := areDigits byte List.mem_cons_self
    have others : AreDigits digits := fun other member =>
      areDigits other (List.mem_cons_of_mem _ member)
    rw [incrementReversed, List.reverse_cons, digitsValue_snoc]
    split
    · rename_i less
      obtain ⟨nextDigit, next⟩ := digit_succ isDigit less
      refine ⟨?_, ?_, Or.inl rfl⟩
      · intro other member
        rcases List.mem_cons.mp member with rfl | later
        · exact nextDigit
        · exact others other later
      · rw [List.reverse_cons, digitsValue_snoc, next, Nat.add_assoc]
    · rename_i notLess
      have nine := digit_nine isDigit notLess
      have zero : digitValue 48 = 0 := rfl
      obtain ⟨carried, sum, lengths⟩ := ih others
      rw [List.reverse_cons, digitsValue_snoc, zero]
      refine ⟨?_, ?_, ?_⟩
      · intro other member
        rcases List.mem_cons.mp member with rfl | later
        · rfl
        · exact carried other later
      · omega
      · rcases lengths with same | ⟨more, power⟩
        · exact Or.inl (by rw [List.length_cons, same, List.length_cons])
        · refine Or.inr ⟨by rw [List.length_cons, more, List.length_cons], ?_⟩
          rw [power, List.length_cons, Nat.pow_succ, Nat.add_zero]

/-- A digit buffer: the decimals, and in front of them no leading zero. -/
structure Canonical (scale : Nat) (digits : List UInt8) : Prop where
  areDigits : AreDigits digits
  enough : scale ≤ digits.length
  lead : digits.length = scale ∨ 10 ^ (digits.length - 1) ≤ digitsValue digits

theorem increment_canonical {scale : Nat} {digits : List UInt8}
    (canonical : Canonical scale digits) :
    Canonical scale (incrementDecimalDigits digits) ∧
      digitsValue (incrementDecimalDigits digits) = digitsValue digits + 1 := by
  have reversed : AreDigits digits.reverse := fun byte member =>
    canonical.areDigits byte (List.mem_reverse.mp member)
  obtain ⟨carried, sum, lengths⟩ := incrementReversed_spec reversed
  rw [List.reverse_reverse] at sum
  rw [List.length_reverse] at lengths
  have enough := canonical.enough
  refine ⟨⟨fun byte member => carried byte (List.mem_reverse.mp member), ?_, ?_⟩, sum⟩
  · rw [incrementDecimalDigits, List.length_reverse]
    omega
  · rw [incrementDecimalDigits, List.length_reverse]
    rcases lengths with same | ⟨more, power⟩
    · rw [same, sum]
      rcases canonical.lead with short | lead
      · exact Or.inl short
      · exact Or.inr (by omega)
    · rw [more, power, Nat.add_sub_cancel]
      exact Or.inr (Nat.le_refl _)

/-! What is made of a buffer. -/

theorem formatDecimalDigits_eq {scale : Nat} {digits : List UInt8}
    (canonical : Canonical scale digits) (isNegative : Bool) :
    formatDecimalDigits digits isNegative scale =
      decimalText scale isNegative (digitsValue digits) := by
  have enough := canonical.enough
  have split := List.take_append_drop (digits.length - scale) digits
  have frontDigits : AreDigits (digits.take (digits.length - scale)) := fun byte member =>
    canonical.areDigits byte (List.mem_of_mem_take member)
  have backDigits : AreDigits (digits.drop (digits.length - scale)) := fun byte member =>
    canonical.areDigits byte (List.mem_of_mem_drop member)
  have frontLength : (digits.take (digits.length - scale)).length = digits.length - scale := by
    rw [List.length_take]
    omega
  have backLength : (digits.drop (digits.length - scale)).length = scale := by
    rw [List.length_drop]
    omega
  have value := digitsValue_append (digits.take (digits.length - scale))
    (digits.drop (digits.length - scale))
  have below := digitsValue_lt backDigits
  rw [split, backLength] at value
  rw [backLength] at below
  have power : 0 < 10 ^ scale := by positivity
  have quotient : digitsValue digits / 10 ^ scale =
      digitsValue (digits.take (digits.length - scale)) := by
    rw [value, Nat.mul_comm, Nat.mul_add_div power, Nat.div_eq_of_lt below, Nat.add_zero]
  have remainder : digitsValue digits % 10 ^ scale =
      digitsValue (digits.drop (digits.length - scale)) := by
    rw [value, Nat.mul_comm, Nat.mul_add_mod, Nat.mod_eq_of_lt below]
  have integers : (if digits.length - scale = 0 then [48]
      else digits.take (digits.length - scale)) =
        FixedDigits.numeral (digitsValue digits / 10 ^ scale) := by
    rw [quotient]
    split
    · rename_i none
      rw [none]
      rfl
    · rename_i some
      have lead : 10 ^ (digits.length - 1) ≤ digitsValue digits := by
        rcases canonical.lead with short | lead
        · omega
        · exact lead
      refine (numeral_digitsValue frontDigits ?_ ?_).symm
      · intro empty
        rw [empty] at frontLength
        exact some frontLength.symm
      · rw [frontLength, ← quotient, Nat.le_div_iff_mul_le power, ← Nat.pow_add]
        have exponent : digits.length - scale - 1 + scale = digits.length - 1 := by omega
        rwa [exponent]
  have decimals : (if 0 < scale then
      46 :: (List.replicate (scale - digits.length) 48 ++ digits.drop (digits.length - scale))
      else []) =
        if 0 < scale then 46 :: FixedDigits.padded scale (digitsValue digits % 10 ^ scale : Nat)
        else [] := by
    split
    · rename_i positive
      have nonempty : digits.drop (digits.length - scale) ≠ [] := by
        intro empty
        rw [empty] at backLength
        simp only [List.length_nil] at backLength
        omega
      have padded := padded_digitsValue backDigits nonempty
      rw [backLength] at padded
      rw [remainder, padded, Nat.sub_eq_zero_of_le enough]
      rfl
    · rfl
  rw [formatDecimalDigits, decimalText, integers, decimals]

theorem outOfRange_iff {info : TypeInfo} {digits : List UInt8}
    (canonical : Canonical info.scale digits) (isNegative : Bool) :
    decimalValueIsOutOfRange info isNegative digits = true ↔
      10 ^ info.precision ≤ digitsValue digits ∨
        (info.isUnsigned = true ∧ isNegative = true ∧ digitsValue digits ≠ 0) := by
  have fits := info.scaleFits
  have enough := canonical.enough
  have below := digitsValue_lt canonical.areDigits
  rw [decimalValueIsOutOfRange]
  split
  · rename_i zero
    rw [← digitsValue_eq_zero_iff canonical.areDigits] at zero
    have power : 10 ^ info.precision ≠ 0 := by positivity
    simp [zero]
  · rename_i nonzero
    rw [← digitsValue_eq_zero_iff canonical.areDigits] at nonzero
    have long : info.precision < digits.length ↔ 10 ^ info.precision ≤ digitsValue digits := by
      constructor
      · intro more
        rcases canonical.lead with short | lead
        · omega
        · exact Nat.le_trans (Nat.pow_le_pow_right (by decide) (by omega)) lead
      · intro large
        exact (Nat.pow_lt_pow_iff_right (by decide)).mp (Nat.lt_of_le_of_lt large below)
    have counted : info.precision - info.scale <
        (if info.scale < digits.length then digits.length - info.scale else 0) ↔
          info.precision < digits.length := by
      split <;> omega
    rw [Bool.or_eq_true, decide_eq_true_eq, counted, long, Bool.and_eq_true]
    simp [nonzero]

/-! Digits by their places. -/

open DigitPlaces (digitAt front window)

theorem digitAt_map (digits : List UInt8) (index : Nat) :
    digitAt (digits.map digitValue) index = (digits[index]?.map digitValue).getD 0 := by
  rw [DigitPlaces.digitAt_ofNat, List.getElem?_map]

theorem hasNonzero_drop_iff {digits : List UInt8} (areDigits : AreDigits digits) (index : Nat) :
    hasNonzero (digits.drop index) = false ↔
      ∀ other : Int, index ≤ other → digitAt (digits.map digitValue) other = 0 := by
  rw [hasNonzero, List.any_eq_false]
  constructor
  · intro zeros other later
    obtain ⟨more, rfl⟩ : ∃ more : Nat, other = (index + more : Nat) :=
      ⟨(other - index).toNat, by omega⟩
    rw [digitAt_map, ← List.getElem?_drop]
    cases same : (digits.drop index)[more]? with
    | none => rfl
    | some byte =>
      have zero : byte = 48 := by simpa using zeros byte (List.mem_of_getElem? same)
      rw [zero]
      rfl
  · intro zeros byte member
    obtain ⟨more, same⟩ := List.getElem?_of_mem member
    have zero := zeros (index + more : Nat) (by omega)
    rw [digitAt_map, ← List.getElem?_drop, same, Option.map_some, Option.getD_some,
      Numeric.digitValue_eq_zero (areDigits byte (List.mem_of_mem_drop member))] at zero
    simp [zero]

theorem digitsValue_strip (digits : List UInt8) (areDigits : AreDigits digits) :
    digitsValue (digits.dropWhile (· == 48)) = digitsValue digits := by
  induction digits with
  | nil => rfl
  | cons byte digits ih =>
    rw [List.dropWhile_cons]
    split
    · rename_i zero
      have value : digitValue byte = 0 := by
        rw [eq_of_beq zero]
        rfl
      rw [ih fun other member => areDigits other (List.mem_cons_of_mem _ member),
        Numeric.digitsValue_cons, value, Nat.zero_mul, Nat.zero_add]
    · rfl

theorem strip_canonical {scale : Nat} {whole decimals : List UInt8} (wholeDigits : AreDigits whole)
    (decimalDigits : AreDigits decimals) (length : decimals.length = scale) :
    Canonical scale (whole.dropWhile (· == 48) ++ decimals) := by
  have strippedDigits : AreDigits (whole.dropWhile (· == 48)) := fun byte member =>
    wholeDigits byte ((List.dropWhile_sublist _).subset member)
  refine ⟨areDigits_append strippedDigits decimalDigits, ?_, ?_⟩
  · rw [List.length_append, length]
    omega
  · have ends := Scanning.endsRun_dropWhile (· == 48) whole
    cases same : whole.dropWhile (· == 48) with
    | nil => exact Or.inl length
    | cons first others =>
      rw [same] at ends strippedDigits
      have nonzero : (first == 48) = false := ends first rfl
      have value : digitValue first ≠ 0 := by
        intro zero
        rw [(Numeric.digitValue_eq_zero (strippedDigits first List.mem_cons_self)).mp zero] at nonzero
        cases nonzero
      refine Or.inr ?_
      have lead := @Decimal.pow_le_value (digitValue first)
        ((others ++ decimals).map digitValue) value
      rw [List.length_map] at lead
      exact lead

theorem digit_half {byte : UInt8} (isDigit : asciiDecimalDigit byte = true) :
    5 ≤ digitValue byte ↔ ¬ byte < 53 := by
  rw [asciiDecimalDigit, Bool.and_eq_true, decide_eq_true_eq, decide_eq_true_eq] at isDigit
  have low : 48 ≤ byte.toNat := UInt8.le_iff_toNat_le.mp isDigit.1
  rw [UInt8.lt_iff_toNat_lt, digitValue]
  change 5 ≤ byte.toNat - 48 ↔ ¬ byte.toNat < 53
  omega

/-- The buffer holds the number rounded half away from zero to the decimals of the column. -/
theorem buffer_spec (info : TypeInfo) {whole fraction : List UInt8} (wholeDigits : AreDigits whole)
    (fractionDigits : AreDigits fraction) {buffer : DigitBuffer}
    (built : buffer =
      buildDecimalDigitBuffer info ⟨whole.dropWhile (· == 48), fraction⟩) :
    Canonical info.scale buffer.digits ∧
      digitsValue buffer.digits =
        halfUp (scaled (digitsValue (whole ++ fraction)) (info.scale - fraction.length)) ∧
      buffer.discardedNonzero = hasNonzero (fraction.drop info.scale) := by
  have allDigits := areDigits_append wholeDigits fractionDigits
  have decimalDigits : AreDigits (fraction.take info.scale ++
      List.replicate (info.scale - fraction.length) 48) :=
    areDigits_append (fun byte member => fractionDigits byte (List.mem_of_mem_take member))
      (areDigits_zeros _)
  have decimalLength : (fraction.take info.scale ++
      List.replicate (info.scale - fraction.length) 48).length = info.scale := by
    rw [List.length_append, List.length_take, List.length_replicate]
    omega
  have canonical := strip_canonical wholeDigits decimalDigits decimalLength
  have place : (info.scale : Int) - fraction.length =
      (whole.length + info.scale : Nat) - ((whole ++ fraction).map digitValue).length := by
    rw [List.length_map, List.length_append]
    omega
  have rounded := DigitPlaces.halfUp_scaled (digits_small allDigits)
    (whole.length + info.scale : Nat)
  rw [← place] at rounded
  have taken : digitsValue (whole.dropWhile (· == 48) ++ (fraction.take info.scale ++
      List.replicate (info.scale - fraction.length) 48)) =
        front ((whole ++ fraction).map digitValue) (whole.length + info.scale : Nat) := by
    have more : whole.length + info.scale - (whole ++ fraction).length =
        info.scale - fraction.length := by
      rw [List.length_append]
      omega
    rw [digitsValue_append, digitsValue_strip whole wholeDigits, ← digitsValue_append,
      DigitPlaces.front_ofNat, List.length_map, more, ← List.map_take, List.take_length_add_append,
      digitsValue, List.map_append, List.map_append, List.map_replicate, List.map_append,
      List.append_assoc]
    rfl
  have digit : digitAt ((whole ++ fraction).map digitValue) (whole.length + info.scale : Nat) =
      ((fraction.drop info.scale)[0]?.map digitValue).getD 0 := by
    rw [digitAt_map, List.getElem?_append_right (Nat.le_add_right _ _), Nat.add_sub_cancel_left,
      List.getElem?_drop, Nat.add_zero]
  rw [← taken, digit] at rounded
  rw [buildDecimalDigitBuffer, roundDecimalDigitBufferIfNeeded] at built
  dsimp only at built
  cases rest : fraction.drop info.scale with
  | nil =>
    rw [rest] at built rounded
    rw [built]
    exact ⟨canonical, rounded.symm, rfl⟩
  | cons first others =>
    have isDigit : asciiDecimalDigit first = true :=
      fractionDigits first (List.mem_of_mem_drop (by rw [rest]; exact List.mem_cons_self))
    rw [rest] at built rounded
    have half := digit_half isDigit
    obtain ⟨carried, sum⟩ := increment_canonical canonical
    rw [built]
    dsimp only
    change halfUp (scaled (digitsValue (whole ++ fraction)) _) =
      _ + if 5 ≤ digitValue first then 1 else 0 at rounded
    rw [rounded]
    by_cases small : first < 53
    · rw [if_pos small, if_neg (by rw [half]; exact not_not_intro small)]
      exact ⟨canonical, rfl, rfl⟩
    · rw [if_neg small, if_pos (half.mpr small)]
      exact ⟨carried, sum, rfl⟩

/-! The conversion of a fixed text. -/

/-- What becomes of a rounded magnitude. -/
def settled (column : Column) (row : Nat) (isNegative ignoreErrors : Bool) (magnitude : Nat)
    (dropped : Bool) : Except Report Stored :=
  if 10 ^ column.info.precision ≤ magnitude ∨
      (column.info.isUnsigned = true ∧ isNegative = true ∧ magnitude ≠ 0) then
    handleDecimalOutOfRange column row isNegative ignoreErrors
  else
    .ok ⟨decimalText column.info.scale (isNegative && magnitude != 0) magnitude,
      if dropped then [.dataTruncated column.name row] else []⟩

theorem parseDecimalLiteralParts_body (mantissa : Mantissa) (hasDigits : mantissa.digits ≠ []) :
    parseDecimalLiteralParts mantissa.body =
      some ⟨mantissa.whole.dropWhile (· == 48), mantissa.fraction.getD []⟩ := by
  have filled : (mantissa.whole.isEmpty && (mantissa.fraction.getD []).isEmpty) = false := by
    by_contra both
    rw [Bool.not_eq_false, Bool.and_eq_true, List.isEmpty_iff, List.isEmpty_iff] at both
    exact hasDigits (by rw [Mantissa.digits, both.1, both.2]; rfl)
  have fractionDigits := mantissa.fractionDigits
  rw [parseDecimalLiteralParts, Mantissa.body]
  cases same : mantissa.fraction with
  | none =>
    rw [same] at filled
    have run := Scanning.run_append mantissa.wholeDigits (Scanning.endsRun_nil asciiDecimalDigit)
    rw [fractionSpelling, run.1, run.2]
    simpa using filled
  | some fraction =>
    rw [same, Option.getD_some] at fractionDigits filled
    have dotEnds : Scanning.EndsRun asciiDecimalDigit (46 :: fraction) :=
      Scanning.endsRun_cons fraction rfl
    have run := Scanning.run_append mantissa.wholeDigits dotEnds
    have fractionRun := Scanning.run_append fractionDigits
      (Scanning.endsRun_nil asciiDecimalDigit)
    rw [List.append_nil] at fractionRun
    rw [fractionSpelling, run.1, run.2]
    have dot : ((46 :: fraction).head? == some 46) = true := rfl
    simp only [dot, if_true, List.tail_cons, fractionRun.1, fractionRun.2, filled,
      List.isEmpty_nil, Bool.not_true, Bool.or_false, Bool.false_eq_true, if_false,
      Option.getD_some]

/-- A fixed text is converted by its rounded value. -/
theorem canonicalize_body (column : Column) (row : Nat) {mantissa : Mantissa}
    (hasDigits : mantissa.digits ≠ []) (isNegative ignoreErrors : Bool) :
    canonicalizeDecimalText column row mantissa.body isNegative ignoreErrors =
      settled column row isNegative ignoreErrors
        (halfUp (scaled mantissa.coefficient (column.info.scale - mantissa.places)))
        (hasNonzero ((mantissa.fraction.getD []).drop column.info.scale)) := by
  rw [canonicalizeDecimalText, parseDecimalLiteralParts_body mantissa hasDigits]
  dsimp only
  generalize made : buildDecimalDigitBuffer column.info
    ⟨mantissa.whole.dropWhile (· == 48), mantissa.fraction.getD []⟩ = buffer
  obtain ⟨canonical, value, dropped⟩ :=
    buffer_spec column.info mantissa.wholeDigits mantissa.fractionDigits made.symm
  have range := outOfRange_iff canonical isNegative
  have zero := digitsValue_eq_zero_iff canonical.areDigits
  have sign : (!decimalDigitsAreZero buffer.digits) = (digitsValue buffer.digits != 0) := by
    by_cases none : digitsValue buffer.digits = 0
    · rw [zero.mp none, none]
      rfl
    · have nonzero : decimalDigitsAreZero buffer.digits = false := by
        rw [← Bool.not_eq_true, ← zero]
        exact none
      rw [nonzero]
      simpa using none
  rw [formatDecimalDigits_eq canonical, sign, dropped, settled, Mantissa.coefficient, Mantissa.digits,
    Mantissa.places, ← value]
  by_cases outside : decimalValueIsOutOfRange column.info isNegative buffer.digits = true
  · rw [if_pos outside, if_pos (range.mp outside)]
  · rw [if_neg outside, if_neg (mt range.mpr outside)]

end MyLite.DecimalColumn
