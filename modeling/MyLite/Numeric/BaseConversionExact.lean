import Mathlib.Data.Nat.Digits.Lemmas
import MyLite.Library.Decimal
import MyLite.Numeric.BaseConversion

/-! What `CONV` returns: the same for rows and for constants, and as its definition says unless a
base is one that narrows. -/

namespace MyLite.BaseConversion

open UnsignedLiteral (Unsigned literalValue parseUnsignedIntegerLiteral
  parseUnsignedIntegerLiteral_eq)

/-! Sixty-four bits. -/

theorem toInt_eq (value : Int64) :
    value.toInt = if value.toUInt64.toNat < 2 ^ 63 then (value.toUInt64.toNat : Int)
      else value.toUInt64.toNat - 2 ^ 64 := by
  have cases : value.toInt = if 2 * value.toUInt64.toNat < 2 ^ 64 then (value.toUInt64.toNat : Int)
      else value.toUInt64.toNat - (2 ^ 64 : Nat) := BitVec.toInt_eq_toNat_cond _
  rw [cases]
  split <;> split <;> omega

theorem lt_zero_iff (value : Int64) : value < 0 ↔ value.toInt < 0 := Int64.lt_iff_toInt_lt

theorem neg_toNat {value : Int64} (negative : value < 0) :
    (-value).toUInt64.toNat = value.toInt.natAbs := by
  have number := toInt_eq value
  have below := (lt_zero_iff value).mp negative
  have bits : (-value).toUInt64.toNat = (2 ^ 64 - value.toUInt64.toNat) % 2 ^ 64 :=
    BitVec.toNat_neg _
  have small := value.toUInt64.toNat_lt
  rw [bits]
  omega

theorem nonneg_toNat {value : Int64} (nonnegative : ¬ value < 0) :
    value.toUInt64.toNat = value.toInt.natAbs := by
  have number := toInt_eq value
  rw [lt_zero_iff] at nonnegative
  have small := value.toUInt64.toNat_lt
  omega

theorem magnitude_toNat {value : Int64} (negative : value < 0) :
    (if value = Int64.minValue then int64Max + 1 else (-value).toUInt64).toNat =
      value.toInt.natAbs := by
  split
  · rename_i least
    rw [least]
    rfl
  · exact neg_toNat negative

/-! Bases. -/

/-- The absolute value of the base is no base. -/
def Outside (base : Int64) : Prop := base.toInt.natAbs < 2 ∨ 36 < base.toInt.natAbs

/-- The low 32 bits of the absolute value are a base. -/
def Narrowed (base : Int64) : Prop :=
  2 ≤ base.toInt.natAbs % 2 ^ 32 ∧ base.toInt.natAbs % 2 ^ 32 ≤ 36

theorem baseIsSupported_iff (base : UInt32) :
    baseIsSupported base = true ↔ 2 ≤ base.toNat ∧ base.toNat ≤ 36 := by
  rw [baseIsSupported, Bool.and_eq_true, decide_eq_true_iff, decide_eq_true_iff,
    UInt32.le_iff_toNat_le, UInt32.le_iff_toNat_le]
  rfl

theorem absoluteConvBase_toNat {base : Int64} (some : base ≠ Int64.minValue) :
    (absoluteConvBase base).toNat = base.toInt.natAbs % 2 ^ 32 := by
  rw [absoluteConvBase, if_neg some]
  split
  · rename_i negative
    rw [UInt64.toNat_toUInt32, neg_toNat negative]
  · rename_i nonnegative
    rw [UInt64.toNat_toUInt32, nonneg_toNat nonnegative]

theorem absoluteConvBase_supported_iff (base : Int64) :
    baseIsSupported (absoluteConvBase base) = true ↔ Narrowed base := by
  rw [baseIsSupported_iff, Narrowed]
  by_cases least : base = Int64.minValue
  · rw [least]
    decide
  · rw [absoluteConvBase_toNat least]

theorem narrowed_of_inside {base : Int64} (inside : ¬ Outside base) :
    Narrowed base ∧ (absoluteConvBase base).toNat = base.toInt.natAbs := by
  rw [Outside] at inside
  have some : base ≠ Int64.minValue := by
    rintro rfl
    exact inside (.inr (by decide))
  rw [Narrowed, absoluteConvBase_toNat some]
  omega

/-! Input. -/

theorem digits_length_le {number : Nat} (small : number < 2 ^ 64) :
    (FixedDigits.numeral number).length ≤ 20 := by
  rw [FixedDigits.numeral, List.length_map]
  exact Decimal.digits_length_le (by decide) (Nat.lt_trans small (by decide))

theorem fitted_eq {capacity : Nat} {text : Text} (short : text.length < capacity) :
    fitted capacity text = .ok text := by
  rw [fitted, if_neg (by omega)]

/-- The sign and the magnitude of the value. -/
structure Represents (input : ConvInputValue) (value : Int64) : Prop where
  sign : input.isNegative = true ↔ value < 0
  magnitude : input.magnitude.toNat = value.toInt.natAbs

theorem decimal_of_neg {value : Int} (negative : value < 0) :
    FixedDigits.decimal value = 0x2d :: FixedDigits.numeral value.natAbs := by
  rw [FixedDigits.decimal, if_pos negative]

theorem decimal_of_nonneg {value : Int} (nonnegative : ¬ value < 0) :
    FixedDigits.decimal value = FixedDigits.numeral value.natAbs := by
  have same : value.toNat = value.natAbs := by omega
  rw [FixedDigits.decimal, if_neg nonnegative, same]

theorem decimal_length {value : Int64} : (FixedDigits.decimal value.toInt).length ≤ 21 := by
  have number := toInt_eq value
  have small := value.toUInt64.toNat_lt
  have digits : (FixedDigits.numeral value.toInt.natAbs).length ≤ 20 :=
    digits_length_le (by omega)
  by_cases negative : value.toInt < 0
  · rw [decimal_of_neg negative, List.length_cons]
    omega
  · rw [decimal_of_nonneg negative]
    omega

theorem formatRowConvInputText_eq (value : Int64) :
    formatRowConvInputText value = .ok (FixedDigits.decimal value.toInt) := by
  have short : (FixedDigits.decimal value.toInt).length < integerTextCapacity :=
    Nat.lt_of_le_of_lt decimal_length (by decide)
  rw [formatRowConvInputText]
  by_cases negative : value < 0
  · have below : ¬ value ≥ 0 := Int64.not_le.mpr negative
    rw [decimal_of_neg ((lt_zero_iff value).mp negative)] at short ⊢
    rw [if_neg below]
    dsimp only
    rw [magnitude_toNat negative]
    exact fitted_eq short
  · have above : value ≥ 0 := Int64.not_lt.mp negative
    rw [decimal_of_nonneg (fun below => negative ((lt_zero_iff value).mpr below))] at short ⊢
    rw [if_pos above, nonneg_toNat negative]
    exact fitted_eq short

theorem formatConvInputText_eq {input : ConvInputValue} {value : Int64}
    (represents : Represents input value) :
    formatConvInputText input = .ok (FixedDigits.decimal value.toInt) := by
  have short : (FixedDigits.decimal value.toInt).length < integerTextCapacity :=
    Nat.lt_of_le_of_lt decimal_length (by decide)
  rw [formatConvInputText, represents.magnitude]
  by_cases negative : value < 0
  · have sign := represents.sign.mpr negative
    rw [decimal_of_neg ((lt_zero_iff value).mp negative)] at short ⊢
    rw [sign]
    exact fitted_eq short
  · have sign : input.isNegative = false :=
      Bool.eq_false_iff.mpr fun sign => negative (represents.sign.mp sign)
    rw [decimal_of_nonneg (fun below => negative ((lt_zero_iff value).mpr below))] at short ⊢
    rw [sign]
    exact fitted_eq short

/-- The digits of the base at the beginning of a decimal numeral. -/
def leadingDigits (base : Nat) (digits : List Nat) : List Nat :=
  digits.takeWhile fun digit => digit < base

/-- The loop has read the number, up to the limit. -/
structure Tracks (limit : UInt64) (number : Nat) (parse : DigitParse) : Prop where
  value : parse.value.toNat = min number limit.toNat
  overflowed : parse.overflowed = true ↔ limit.toNat < number

section Parse

variable {fromBase limit : UInt64}

theorem room_iff {value digit : UInt64} (positive : 0 < fromBase.toNat)
    (small : digit.toNat ≤ limit.toNat) :
    value > (limit - digit) / fromBase ↔
      limit.toNat < value.toNat * fromBase.toNat + digit.toNat := by
  rw [gt_iff_lt, UInt64.lt_iff_toNat_lt, UInt64.toNat_div,
    UInt64.toNat_sub_of_le _ _ (UInt64.le_iff_toNat_le.mpr small), Nat.div_lt_iff_lt_mul positive]
  omega

theorem Tracks.step {number : Nat} {parse : DigitParse} {digit : UInt64}
    (tracks : Tracks limit number parse) (running : parse.overflowed = false)
    (positive : 0 < fromBase.toNat) (small : digit.toNat ≤ limit.toNat) :
    Tracks limit (number * fromBase.toNat + digit.toNat)
      (if parse.value > (limit - digit) / fromBase then ⟨limit, true, true⟩
        else ⟨parse.value * fromBase + digit, true, false⟩) := by
  have inside : ¬ limit.toNat < number := fun above =>
    absurd (tracks.overflowed.mpr above) (by rw [running]; decide)
  have exact : parse.value.toNat = number := by
    rw [tracks.value]
    exact Nat.min_eq_left (Nat.le_of_not_lt inside)
  have room := @room_iff fromBase limit parse.value digit positive small
  have limitSmall := limit.toNat_lt
  rw [exact] at room
  split
  · rename_i full
    have above := room.mp full
    constructor
    · exact (Nat.min_eq_right (Nat.le_of_lt above)).symm
    · exact ⟨fun _ => above, fun _ => rfl⟩
  · rename_i fits
    have below : number * fromBase.toNat + digit.toNat ≤ limit.toNat :=
      Nat.le_of_not_lt fun above => fits (room.mpr above)
    constructor
    · rw [Nat.min_eq_left below]
      dsimp only
      rw [UInt64.toNat_add, UInt64.toNat_mul, exact, Nat.mod_eq_of_lt (by omega),
        Nat.mod_eq_of_lt (by omega)]
    · exact ⟨fun no => absurd no Bool.false_ne_true, fun above => absurd below (Nat.not_le.mpr above)⟩

theorem Tracks.overflow {number : Nat} {parse : DigitParse} (tracks : Tracks limit number parse)
    (spent : parse.overflowed = true) (positive : 0 < fromBase.toNat) (digit : Nat) :
    Tracks limit (number * fromBase.toNat + digit) { parse with sawDigit := true } := by
  have above := tracks.overflowed.mp spent
  have grows : number ≤ number * fromBase.toNat := Nat.le_mul_of_pos_right _ positive
  constructor
  · have value := tracks.value
    rw [Nat.min_eq_right (Nat.le_of_lt above)] at value
    rw [Nat.min_eq_right (by omega)]
    exact value
  · exact ⟨fun _ => by omega, fun _ => spent⟩

theorem digit_toNat {digit : Nat} (small : digit < 10) :
    (FixedDigits.ascii digit - 0x30).toUInt64.toNat = digit := by
  have number := FixedDigits.ascii_toNat small
  have low : (0x30 : UInt8) ≤ FixedDigits.ascii digit := UInt8.le_iff_toNat_le.mpr (by
    rw [number]
    exact Nat.le_add_right _ _)
  rw [UInt8.toNat_toUInt64, UInt8.toNat_sub_of_le _ _ low, number]
  exact Nat.add_sub_cancel_left 48 digit

/-- The loop stops at the first byte that is no digit of the base. -/
theorem parseDigits_tracks (base : 2 ≤ fromBase.toNat) (large : 9 ≤ limit.toNat)
    {digits : List Nat} (decimal : ∀ digit ∈ digits, digit < 10) {number : Nat}
    {parse : DigitParse} (tracks : Tracks limit number parse) :
    Tracks limit ((leadingDigits fromBase.toNat digits).foldl
        (fun number digit => number * fromBase.toNat + digit) number)
      (parseDigits fromBase limit parse (digits.map FixedDigits.ascii)) ∧
    ((parseDigits fromBase limit parse (digits.map FixedDigits.ascii)).sawDigit = true ↔
      parse.sawDigit = true ∨ leadingDigits fromBase.toNat digits ≠ []) := by
  induction digits generalizing number parse with
  | nil => exact ⟨tracks, (or_iff_left (not_not_intro rfl)).symm⟩
  | cons digit rest ih =>
    have first := decimal digit List.mem_cons_self
    have later := fun other member => decimal other (List.mem_cons_of_mem digit member)
    have positive : 0 < fromBase.toNat := by omega
    have digitNat := digit_toNat first
    rw [List.map_cons, parseDigits, if_neg (FixedDigits.ascii_isDigit first)]
    dsimp only
    generalize (FixedDigits.ascii digit - 0x30).toUInt64 = word at digitNat ⊢
    have invalid : word ≥ fromBase ↔ ¬ digit < fromBase.toNat := by
      rw [ge_iff_le, UInt64.le_iff_toNat_le, digitNat, Nat.not_lt]
    by_cases valid : digit < fromBase.toNat
    · have leading : leadingDigits fromBase.toNat (digit :: rest) =
          digit :: leadingDigits fromBase.toNat rest :=
        List.takeWhile_cons_of_pos (decide_eq_true valid)
      have seen {next : DigitParse} (saw : next.sawDigit = true) :
          (next.sawDigit = true ∨ leadingDigits fromBase.toNat rest ≠ []) ↔
            (parse.sawDigit = true ∨ digit :: leadingDigits fromBase.toNat rest ≠ []) :=
        ⟨fun _ => .inr (List.cons_ne_nil _ _), fun _ => .inl saw⟩
      rw [if_neg (invalid.not.mpr (not_not_intro valid)), leading, List.foldl_cons]
      by_cases spent : parse.overflowed = true
      · rw [if_pos spent]
        have next := ih later (tracks.overflow spent positive digit)
        exact ⟨next.1, next.2.trans (seen rfl)⟩
      · have stepped := tracks.step (Bool.eq_false_iff.mpr spent) positive
          (show word.toNat ≤ limit.toNat by omega)
        rw [digitNat] at stepped
        rw [if_neg spent]
        by_cases full : parse.value > (limit - word) / fromBase
        · rw [if_pos full] at stepped ⊢
          have next := ih later stepped
          exact ⟨next.1, next.2.trans (seen rfl)⟩
        · rw [if_neg full] at stepped ⊢
          have next := ih later stepped
          exact ⟨next.1, next.2.trans (seen rfl)⟩
    · have leading : leadingDigits fromBase.toNat (digit :: rest) = [] :=
        List.takeWhile_cons_of_neg (by rwa [decide_eq_true_iff])
      rw [if_pos (invalid.mpr valid), leading]
      exact ⟨tracks, (or_iff_left (not_not_intro rfl)).symm⟩

end Parse

/-- The number that the decimal text of a magnitude denotes in a base. -/
def readMagnitude (base number : Nat) : Nat :=
  Radix.value base (leadingDigits base (Decimal.digits number))

theorem unsigned_decimal (value : Int) :
    (if (FixedDigits.decimal value).head? = some 0x2d then (FixedDigits.decimal value).tail
      else FixedDigits.decimal value) = (Decimal.digits value.natAbs).map FixedDigits.ascii := by
  by_cases negative : value < 0
  · rw [decimal_of_neg negative]
    exact if_pos rfl
  · rw [decimal_of_nonneg negative, FixedDigits.numeral]
    rcases shape : Decimal.digits value.natAbs with - | ⟨digit, rest⟩
    · rfl
    · have member : digit ∈ Decimal.digits value.natAbs := shape ▸ List.mem_cons_self
      have number := FixedDigits.ascii_toNat (Decimal.digits_lt member)
      have unsigned : ¬ ((digit :: rest).map FixedDigits.ascii).head? = some 0x2d := by
        intro sign
        have byte : (FixedDigits.ascii digit).toNat = 45 :=
          congrArg UInt8.toNat (Option.some.inj sign)
        omega
      exact if_neg unsigned

theorem parseConvInputDigits_tracks (value : Int) {fromBase : UInt32} {limit : UInt64}
    (base : 2 ≤ fromBase.toNat) (large : 9 ≤ limit.toNat) :
    Tracks limit (readMagnitude fromBase.toNat value.natAbs)
      (parseConvInputDigits (FixedDigits.decimal value) fromBase limit) ∧
    ((parseConvInputDigits (FixedDigits.decimal value) fromBase limit).sawDigit = true ↔
      leadingDigits fromBase.toNat (Decimal.digits value.natAbs) ≠ []) := by
  have start : Tracks limit 0 ⟨0, false, false⟩ := by
    constructor
    · exact (Nat.zero_min _).symm
    · exact ⟨fun no => absurd no Bool.false_ne_true, fun above => absurd above (Nat.not_lt_zero _)⟩
  have wide : fromBase.toUInt64.toNat = fromBase.toNat := UInt32.toNat_toUInt64 _
  have wideBase : 2 ≤ fromBase.toUInt64.toNat := by rwa [wide]
  have small (digit : Nat) (member : digit ∈ Decimal.digits value.natAbs) : digit < 10 :=
    Decimal.digits_lt member
  have read := parseDigits_tracks wideBase large small start
  rw [wide] at read
  rw [parseConvInputDigits, unsigned_decimal]
  exact ⟨read.1, read.2.trans (or_iff_right Bool.false_ne_true)⟩

/-! Conversion. -/

theorem convertConvValue_agrees {input : ConvInputValue} {value : Int64}
    (represents : Represents input value) (fromBase : UInt32) (signedInput : Bool) :
    ∃ converted staged,
      convertConvValue input fromBase signedInput = .ok (converted, staged) ∧
      convertConvIntegerValue value fromBase signedInput =
        .ok (converted, staged.toList.map truncatedIncorrectDecimal) := by
  have short : (FixedDigits.decimal value.toInt).length < stagedTextCapacity :=
    Nat.lt_of_le_of_lt decimal_length (by decide)
  have sign : (input.isNegative = true) = (value < 0) := propext represents.sign
  rw [convertConvValue, convertConvIntegerValue, formatConvInputText_eq represents,
    formatRowConvInputText_eq]
  dsimp only [Except.bind, Except.map]
  simp only [sign]
  generalize parseConvInputDigits (FixedDigits.decimal value.toInt) fromBase _ = parse
  by_cases warns : (!parse.sawDigit || parse.overflowed) = true
  · rw [if_pos warns, if_pos warns, fitted_eq short]
    exact ⟨_, some (FixedDigits.decimal value.toInt), rfl, rfl⟩
  · rw [if_neg warns, if_neg warns]
    exact ⟨_, none, rfl, rfl⟩

/-- The greatest magnitude, for the signs of the base and of the value. -/
def limitOf (value fromBase : Int64) : Nat :=
  if fromBase.toInt < 0 then if value.toInt < 0 then 2 ^ 63 else 2 ^ 63 - 1 else 2 ^ 64 - 1

/-- The number that `CONV` converts. -/
def converted (value fromBase : Int64) : Int :=
  let magnitude :=
    min (readMagnitude fromBase.toInt.natAbs value.toInt.natAbs) (limitOf value fromBase)
  if value.toInt < 0 then -magnitude else magnitude

theorem limit_toNat (value fromBase : Int64) :
    (if decide (fromBase < 0) = true then if value < 0 then int64Max + 1 else int64Max
      else uint64Max).toNat = limitOf value fromBase := by
  rw [limitOf]
  simp only [decide_eq_true_iff, lt_zero_iff]
  split
  · split
    · rfl
    · rfl
  · rfl

theorem limitOf_bounds (value fromBase : Int64) :
    9 ≤ limitOf value fromBase ∧ limitOf value fromBase < 2 ^ 64 := by
  rw [limitOf]
  split
  · split <;> decide
  · decide

/-- What the digits that were read stand for, with the sign. -/
theorem signed_word {limit : UInt64} {number : Nat} {parse : DigitParse} {value : Int64}
    (tracks : Tracks limit number parse) (digits : parse.sawDigit = true ∨ number = 0) :
    ((if (!parse.sawDigit) = true then 0
      else if value < 0 then 0 - parse.value else parse.value : UInt64).toNat : Int) =
      (if value.toInt < 0 then -((min number limit.toNat : Nat) : Int)
        else (min number limit.toNat : Nat)) % 2 ^ 64 := by
  have small := parse.value.toNat_lt
  rw [← tracks.value]
  by_cases saw : parse.sawDigit = true
  · rw [saw, if_neg (by decide)]
    by_cases negative : value < 0
    · have zero : (0 - parse.value).toNat = (2 ^ 64 - parse.value.toNat + 0) % 2 ^ 64 :=
        UInt64.toNat_sub _ _
      rw [if_pos negative, if_pos ((lt_zero_iff value).mp negative), zero]
      omega
    · rw [if_neg negative, if_neg (fun below => negative ((lt_zero_iff value).mpr below))]
      omega
  · have none := digits.resolve_left saw
    have value : parse.value.toNat = 0 := by
      rw [tracks.value, none]
      exact Nat.zero_min _
    rw [Bool.eq_false_iff.mpr saw, if_pos (by decide), value]
    split <;> rfl

theorem convertConvIntegerValue_converted (value : Int64) {fromBase : Int64}
    (inside : ¬ Outside fromBase) :
    ∃ word warnings,
      convertConvIntegerValue value (absoluteConvBase fromBase) (fromBase < 0) =
        .ok (word, warnings) ∧ (word.toNat : Int) = converted value fromBase % 2 ^ 64 := by
  obtain ⟨-, base⟩ := narrowed_of_inside inside
  have limit := limit_toNat value fromBase
  have bounds := limitOf_bounds value fromBase
  have two : 2 ≤ (absoluteConvBase fromBase).toNat := by
    rw [Outside] at inside
    omega
  rw [convertConvIntegerValue, formatRowConvInputText_eq]
  dsimp only [Except.map]
  generalize (if decide (fromBase < 0) = true then if value < 0 then int64Max + 1 else int64Max
    else uint64Max) = word at limit ⊢
  obtain ⟨tracks, saw⟩ := parseConvInputDigits_tracks value.toInt two (limit ▸ bounds.1)
  have digits : (parseConvInputDigits (FixedDigits.decimal value.toInt) (absoluteConvBase fromBase)
      word).sawDigit = true ∨
      readMagnitude (absoluteConvBase fromBase).toNat value.toInt.natAbs = 0 := by
    by_cases none : leadingDigits (absoluteConvBase fromBase).toNat
        (Decimal.digits value.toInt.natAbs) = []
    · rw [readMagnitude, none]
      exact .inr rfl
    · exact .inl (saw.mpr none)
  have signed := @signed_word _ _ _ value tracks digits
  rw [base, limit] at signed
  exact ⟨_, _, rfl, signed⟩

/-! Output. -/

/-- The digit of a byte of the output. -/
def digitOf (byte : UInt8) : Option Nat :=
  if 0x30 ≤ byte ∧ byte ≤ 0x39 then some (byte.toNat - 48)
  else if 0x41 ≤ byte ∧ byte ≤ 0x5a then some (byte.toNat - 55)
  else none

/-- The number of a text of digits of the base. -/
def readNumeral (base : Nat) (text : Text) : Option Nat :=
  if text = [] then none
  else (text.mapM fun byte => (digitOf byte).filter fun digit => digit < base).map (Radix.value base)

/-- The number of a text, with its sign. -/
def readBack (base : Nat) (text : Text) : Option Int :=
  if text.head? = some 0x2d then (readNumeral base text.tail).map fun number => -(number : Int)
  else (readNumeral base text).map fun number => number

/-- The byte of a digit. -/
def digitText (digit : Nat) : UInt8 := digitByte (UInt64.ofNat digit)

theorem digitOf_digitText {digit : Nat} (small : digit < 36) :
    digitOf (digitText digit) = some digit ∧ digitText digit ≠ 0x2d := by
  have table : ∀ digit < 36, digitOf (digitText digit) = some digit ∧ digitText digit ≠ 0x2d := by
    decide
  exact table digit small

theorem readNumeral_map {base : Nat} (small : base ≤ 36) {digits : List Nat} (some : digits ≠ [])
    (inside : ∀ digit ∈ digits, digit < base) :
    readNumeral base (digits.map digitText) = .some (Radix.value base digits) := by
  have read : (digits.map digitText).mapM
      (fun byte => (digitOf byte).filter fun digit => digit < base) = .some digits := by
    clear some
    induction digits with
    | nil => rfl
    | cons digit rest ih =>
      have first := inside digit List.mem_cons_self
      have later := ih fun other member => inside other (List.mem_cons_of_mem _ member)
      have digitRead := (digitOf_digitText (Nat.lt_of_lt_of_le first small)).1
      rw [List.map_cons, List.mapM_cons, digitRead, later, Option.filter_some,
        if_pos (decide_eq_true first)]
      rfl
  rw [readNumeral, if_neg (fun none => some (List.map_eq_nil_iff.mp none)), read]
  rfl

theorem head_map {base : Nat} (small : base ≤ 36) {digits : List Nat}
    (inside : ∀ digit ∈ digits, digit < base) :
    (digits.map digitText).head? ≠ some 0x2d := by
  rcases digits with - | ⟨digit, rest⟩
  · intro none
    cases none
  · have first := inside digit List.mem_cons_self
    exact fun sign => (digitOf_digitText (Nat.lt_of_lt_of_le first small)).2 (Option.some.inj sign)

section Format

variable {base : UInt32}

theorem reversedDigits_eq (two : 2 ≤ base.toNat) {room : Nat} {value : UInt64}
    (fits : (Nat.digits base.toNat value.toNat).length ≤ room) :
    reversedDigits base.toUInt64 room value =
      some ((Nat.digits base.toNat value.toNat).map digitText) := by
  induction room generalizing value with
  | zero =>
    have none := List.length_eq_zero_iff.mp (Nat.le_zero.mp fits)
    have zero : value = 0 := UInt64.toNat_inj.mp (Nat.digits_eq_nil_iff_eq_zero.mp none)
    rw [reversedDigits, if_pos zero, none]
    rfl
  | succ room ih =>
    rw [reversedDigits]
    by_cases zero : value = 0
    · have none : Nat.digits base.toNat (0 : UInt64).toNat = [] := Nat.digits_zero _
      rw [if_pos zero, zero, none]
      rfl
    · have positive : 0 < value.toNat :=
        Nat.pos_of_ne_zero fun none => zero (UInt64.toNat_inj.mp none)
      have quotient : (value / base.toUInt64).toNat = value.toNat / base.toNat := by
        rw [UInt64.toNat_div, UInt32.toNat_toUInt64]
      have remainder : value % base.toUInt64 = UInt64.ofNat (value.toNat % base.toNat) := by
        apply UInt64.toNat_inj.mp
        rw [UInt64.toNat_mod, UInt32.toNat_toUInt64]
        have small := value.toNat_lt
        have less := Nat.mod_le value.toNat base.toNat
        exact (UInt64.toNat_ofNat_of_lt' (Nat.lt_of_le_of_lt less small)).symm
      have split := Nat.digits_def' two positive
      rw [split, List.length_cons] at fits
      rw [if_neg zero, ih (quotient ▸ Nat.le_of_succ_le_succ fits), quotient, remainder, split]
      rfl

theorem formatBaseConversionValue_reads (supported : baseIsSupported base = true) (value : UInt64)
    {bufferSize : Nat} (room : 64 < bufferSize) :
    ∃ text, formatBaseConversionValue value base bufferSize = .ok text ∧
      readNumeral base.toNat text = some value.toNat ∧ text.head? ≠ some 0x2d := by
  obtain ⟨two, most⟩ := (baseIsSupported_iff base).mp supported
  have accepted : ¬ (bufferSize = 0 ∨ (!baseIsSupported base) = true) := by
    rintro (zero | unsupported)
    · omega
    · rw [supported] at unsupported
      cases unsupported
  rw [formatBaseConversionValue, if_neg accepted]
  by_cases zero : value = 0
  · have inside : ∀ digit ∈ [0], digit < base.toNat := by
      intro digit member
      rw [List.mem_singleton.mp member]
      omega
    have byte : [0].map digitText = [0x30] := by decide
    have number : Radix.value base.toNat [0] = (0 : UInt64).toNat := by
      rw [Radix.value_cons, Nat.zero_mul]
      rfl
    have read := readNumeral_map most (List.cons_ne_nil 0 []) inside
    have head := head_map most inside
    rw [byte, number] at read
    rw [byte] at head
    rw [if_pos zero, if_neg (by omega), zero]
    exact ⟨_, rfl, read, head⟩
  · have some : value.toNat ≠ 0 := fun none => zero (UInt64.toNat_inj.mp none)
    have power : 2 ^ 64 ≤ base.toNat ^ 64 := Nat.pow_le_pow_left two 64
    have short : (Nat.digits base.toNat value.toNat).length ≤ 64 :=
      (Nat.digits_length_le_iff two _).mpr (Nat.lt_of_lt_of_le value.toNat_lt power)
    have inside : ∀ digit ∈ (Nat.digits base.toNat value.toNat).reverse, digit < base.toNat :=
      fun digit member => Nat.digits_lt_base two (List.mem_reverse.mp member)
    have nonempty : (Nat.digits base.toNat value.toNat).reverse ≠ [] := by
      rw [ne_eq, List.reverse_eq_nil_iff]
      exact Nat.digits_ne_nil_iff_ne_zero.mpr some
    have capacity : (Nat.digits base.toNat value.toNat).length ≤ textCapacity :=
      Nat.le_trans short (by decide)
    have read := readNumeral_map most nonempty inside
    rw [Radix.value_reverse, Nat.ofDigits_digits] at read
    rw [if_neg zero, reversedDigits_eq two capacity]
    dsimp only
    rw [List.length_map, if_neg (by omega), ← List.map_reverse]
    exact ⟨_, rfl, read, head_map most inside⟩

/-- The number that is printed for 64 bits. -/
def printed (signed : Bool) (number : Int) : Int :=
  if signed ∧ 2 ^ 63 ≤ number % 2 ^ 64 then number % 2 ^ 64 - 2 ^ 64 else number % 2 ^ 64

theorem formatConvOutputValue_reads (supported : baseIsSupported base = true) (value : UInt64)
    (signedOutput : Bool) :
    ∃ text, formatConvOutputValue value base signedOutput textCapacity = .ok text ∧
      readBack base.toNat text = some (printed signedOutput value.toNat) := by
  have accepted : ¬ (textCapacity = 0 ∨ (!baseIsSupported base) = true) := by
    rintro (zero | unsupported)
    · cases zero
    · rw [supported] at unsupported
      cases unsupported
  have small := value.toNat_lt
  have large : value > int64Max ↔ 2 ^ 63 ≤ value.toNat := by
    rw [gt_iff_lt, UInt64.lt_iff_toNat_lt]
    exact Nat.lt_iff_add_one_le
  have wrapped : (value.toNat : Int) % 2 ^ 64 = value.toNat := by omega
  rw [formatConvOutputValue, if_neg accepted, printed, wrapped]
  by_cases negative : signedOutput = true ∧ value > int64Max
  · have above := large.mp negative.2
    have magnitude : (0 - value).toNat = 2 ^ 64 - value.toNat := by
      have zero : (0 - value).toNat = (2 ^ 64 - value.toNat + 0) % 2 ^ 64 := UInt64.toNat_sub _ _
      omega
    obtain ⟨text, formatted, read, -⟩ := formatBaseConversionValue_reads supported (0 - value)
      (show 64 < textCapacity - 1 by decide)
    rw [if_pos negative, if_neg (by decide), formatted,
      if_pos ⟨negative.1, by omega⟩]
    refine ⟨_, rfl, ?_⟩
    have signed : readBack base.toNat (0x2d :: text) =
        (readNumeral base.toNat text).map fun number => -(number : Int) := if_pos rfl
    have number : -(((0 - value).toNat : Nat) : Int) = value.toNat - 2 ^ 64 := by omega
    rw [signed, read]
    exact congrArg some number
  · obtain ⟨text, formatted, read, unsigned⟩ := formatBaseConversionValue_reads supported value
      (show 64 < textCapacity by decide)
    have below : ¬ (signedOutput = true ∧ (2 ^ 63 : Int) ≤ value.toNat) := by
      rintro ⟨signed, above⟩
      exact negative ⟨signed, large.mpr (by omega)⟩
    rw [if_neg negative, formatted, if_neg below]
    refine ⟨text, rfl, ?_⟩
    rw [readBack, if_neg unsigned, read]
    rfl

end Format

/-! Arguments. -/

/-- The constant argument has the value. -/
inductive Denotes (value : Int64) : ValueOperand → Prop
  | boolean {truth : Bool} (same : value.toInt = if truth then 1 else 0) :
    Denotes value (.boolean truth)
  | integer {negative : Bool} {text : Text} (unsigned : Unsigned text)
    (same : value.toInt = if negative then -(literalValue text : Int) else literalValue text) :
    Denotes value (.integer negative text)
  | bitwise {magnitude : UInt64} (same : value.toInt = magnitude.toNat) :
    Denotes value (.bitwise (some magnitude))
  | arithmetic : Denotes value (.arithmetic (some value))

theorem arithmeticInput_represents (value : Int64) : Represents (arithmeticInput value) value := by
  rw [arithmeticInput]
  by_cases negative : value < 0
  · rw [if_pos negative]
    constructor
    · exact ⟨fun _ => negative, fun _ => rfl⟩
    · exact magnitude_toNat negative
  · rw [if_neg negative]
    constructor
    · exact ⟨fun no => absurd no Bool.false_ne_true, fun below => absurd below negative⟩
    · exact nonneg_toNat negative

theorem unsigned_represents {magnitude : UInt64} {value : Int64}
    (same : value.toInt = magnitude.toNat) : Represents ⟨false, magnitude⟩ value := by
  constructor
  · rw [lt_zero_iff, same]
    exact ⟨fun no => absurd no Bool.false_ne_true, fun below => by omega⟩
  · rw [same]
    rfl

theorem literalInput_represents {value : Int64} {negative : Bool} {text : Text}
    (unsigned : Unsigned text)
    (same : value.toInt = if negative then -(literalValue text : Int) else literalValue text) :
    ∃ input, literalInput negative text = .ok input ∧ Represents input value := by
  have number := toInt_eq value
  have bits := value.toUInt64.toNat_lt
  have small : literalValue text ≤ 9223372036854775808 := by
    split at same <;> omega
  have fits : literalValue text ≤ 18446744073709551615 := Nat.le_trans small (by decide)
  have word : (UInt64.ofNat (literalValue text)).toNat = literalValue text :=
    UInt64.toNat_ofNat_of_lt' (Nat.lt_of_le_of_lt fits (by decide))
  have accepted : ¬ (negative = true ∧ literalValue text > 9223372036854775808) := by omega
  rw [literalInput, parseUnsignedIntegerLiteral_eq unsigned, if_pos fits]
  dsimp only
  rw [if_neg accepted]
  refine ⟨_, rfl, ?_, ?_⟩
  · rw [lt_zero_iff, same, Bool.and_eq_true, decide_eq_true_iff]
    cases negative
    · simp only [Bool.false_eq_true, false_and, if_false]
      constructor
      · exact False.elim
      · intro below
        omega
    · simp only [true_and, if_true]
      constructor
      · intro some
        omega
      · intro below
        omega
  · rw [word, same]
    split <;> omega

theorem evaluateConvValueOperand_represents {value : Int64} {operand : ValueOperand}
    (denotes : Denotes value operand) :
    ∃ input, evaluateConvValueOperand operand = .ok (some input) ∧ Represents input value := by
  cases denotes with
  | @boolean truth same =>
    refine ⟨_, rfl, unsigned_represents ?_⟩
    rw [same]
    cases truth <;> rfl
  | integer unsigned same =>
    obtain ⟨input, evaluated, represents⟩ := literalInput_represents unsigned same
    rw [evaluateConvValueOperand, evaluated]
    exact ⟨input, rfl, represents⟩
  | bitwise same => exact ⟨_, rfl, unsigned_represents same⟩
  | arithmetic => exact ⟨_, rfl, arithmeticInput_represents value⟩

/-! Results. -/

/-- The definition of `CONV`. -/
structure Defined (value fromBase toBase : Int64) (answer : Answer) : Prop where
  null : answer.text = none ↔ Outside fromBase ∨ Outside toBase
  reads : ∀ text, answer.text = some text →
    readBack toBase.toInt.natAbs text =
      some (printed (toBase.toInt < 0) (converted value fromBase))

section Results

variable (value fromBase toBase : Int64)

theorem convInput_agrees {input : ConvInputValue} (represents : Represents input value) :
    (convInput input fromBase toBase).map ScalarCell.answer = convValues value fromBase toBase := by
  obtain ⟨word, staged, constant, row⟩ := convertConvValue_agrees represents
    (absoluteConvBase fromBase) (fromBase < 0)
  rw [convInput, convValues]
  by_cases unsupported : (!baseIsSupported (absoluteConvBase fromBase) ||
      !baseIsSupported (absoluteConvBase toBase)) = true
  · rw [if_pos unsupported, if_pos unsupported]
    rfl
  · rw [if_neg unsupported, if_neg unsupported, constant, row]
    dsimp only [Except.bind]
    rcases formatConvOutputValue word (absoluteConvBase toBase) (toBase < 0) textCapacity with
      failure | text
    · rfl
    · rfl

theorem convFunctionValue_agrees {operand : ValueOperand} (denotes : Denotes value operand) :
    (convFunctionValue operand (some fromBase) (some toBase)).map ScalarCell.answer =
      convResult (.integer value) (.integer fromBase) (.integer toBase) := by
  obtain ⟨input, evaluated, represents⟩ := evaluateConvValueOperand_represents denotes
  rw [convFunctionValue, evaluated]
  exact convInput_agrees value fromBase toBase represents

theorem convValues_null (unsupported : ¬ (Narrowed fromBase ∧ Narrowed toBase)) :
    convValues value fromBase toBase = .ok ⟨none, []⟩ := by
  have refused : (!baseIsSupported (absoluteConvBase fromBase) ||
      !baseIsSupported (absoluteConvBase toBase)) = true := by
    rw [← absoluteConvBase_supported_iff, ← absoluteConvBase_supported_iff] at unsupported
    rw [Bool.or_eq_true, Bool.not_eq_true', Bool.not_eq_true', Bool.eq_false_iff, Bool.eq_false_iff]
    exact not_and_or.mp unsupported
  rw [convValues]
  exact if_pos refused

theorem convertConvIntegerValue_ok (base : UInt32) (signedInput : Bool) :
    ∃ word warnings, convertConvIntegerValue value base signedInput = .ok (word, warnings) := by
  rw [convertConvIntegerValue, formatRowConvInputText_eq]
  exact ⟨_, _, rfl⟩

theorem convValues_text (narrowed : Narrowed fromBase ∧ Narrowed toBase) :
    ∃ word warnings text,
      convertConvIntegerValue value (absoluteConvBase fromBase) (fromBase < 0) =
        .ok (word, warnings) ∧
      convValues value fromBase toBase = .ok ⟨some text, warnings⟩ ∧
      readBack (absoluteConvBase toBase).toNat text =
        some (printed (toBase < 0) word.toNat) := by
  have fromSupported := (absoluteConvBase_supported_iff fromBase).mpr narrowed.1
  have toSupported := (absoluteConvBase_supported_iff toBase).mpr narrowed.2
  obtain ⟨word, warnings, converts⟩ :=
    convertConvIntegerValue_ok value (absoluteConvBase fromBase) (fromBase < 0)
  obtain ⟨text, formatted, read⟩ := formatConvOutputValue_reads toSupported word (toBase < 0)
  refine ⟨word, warnings, text, converts, ?_, read⟩
  rw [convValues, fromSupported, toSupported, if_neg (by decide), converts]
  dsimp only [Except.bind]
  rw [formatted]
  rfl

theorem convResult_defined (inside : ¬ Outside fromBase ∧ ¬ Outside toBase) :
    ∃ answer, convResult (.integer value) (.integer fromBase) (.integer toBase) = .ok answer ∧
      Defined value fromBase toBase answer := by
  obtain ⟨fromNarrowed, -⟩ := narrowed_of_inside inside.1
  obtain ⟨toNarrowed, toBaseNat⟩ := narrowed_of_inside inside.2
  obtain ⟨word, warnings, text, converts, result, read⟩ :=
    convValues_text value fromBase toBase ⟨fromNarrowed, toNarrowed⟩
  obtain ⟨_, _, converts', wrapped⟩ := convertConvIntegerValue_converted value inside.1
  rw [converts] at converts'
  cases converts'
  refine ⟨_, result, ?_, ?_⟩
  · constructor
    · intro null
      cases null
    · exact fun outside => absurd outside (not_or.mpr inside)
  · intro other same
    cases same
    have sign : decide (toBase < 0) = decide (toBase.toInt < 0) :=
      decide_eq_decide.mpr (lt_zero_iff toBase)
    rw [toBaseNat, sign] at read
    rw [read, wrapped, printed, printed, Int.emod_emod_of_dvd _ (Int.dvd_refl _)]

end Results

/-- Rows and constants agree, and both are as `CONV` is defined unless both bases narrow to bases
and one of them is none. -/
theorem conv_defined_iff (value fromBase toBase : Int64) :
    ((∃ answer, convResult (.integer value) (.integer fromBase) (.integer toBase) = .ok answer ∧
        Defined value fromBase toBase answer) ∧
      ∀ operand, Denotes value operand →
        (convFunctionValue operand (some fromBase) (some toBase)).map ScalarCell.answer =
          convResult (.integer value) (.integer fromBase) (.integer toBase)) ↔
    (Narrowed fromBase ∧ Narrowed toBase → ¬ Outside fromBase ∧ ¬ Outside toBase) := by
  constructor
  · rintro ⟨⟨answer, result, defined⟩, -⟩ narrowed
    obtain ⟨_, _, text, -, written, -⟩ := convValues_text value fromBase toBase narrowed
    have same : Except.ok answer = Except.ok ⟨some text, _⟩ := result.symm.trans written
    cases same
    exact not_or.mp fun outside => absurd (defined.null.mpr outside) (Option.some_ne_none text)
  · intro condition
    refine ⟨?_, fun operand => convFunctionValue_agrees value fromBase toBase⟩
    by_cases narrowed : Narrowed fromBase ∧ Narrowed toBase
    · exact convResult_defined value fromBase toBase (condition narrowed)
    · refine ⟨_, convValues_null value fromBase toBase narrowed, ?_, ?_⟩
      · refine ⟨fun _ => ?_, fun _ => rfl⟩
        by_contra inside
        obtain ⟨fromInside, toInside⟩ := not_or.mp inside
        exact narrowed ⟨(narrowed_of_inside fromInside).1, (narrowed_of_inside toInside).1⟩
      · intro text none
        cases none

/-- `CONV(10, 4294967306, 10)`. -/
theorem conv_narrowed_base :
    ¬ ∃ answer, convResult (.integer 10) (.integer 4294967306) (.integer 10) = .ok answer ∧
      Defined 10 4294967306 10 answer := by
  rintro ⟨answer, result, defined⟩
  have text : convResult (.integer 10) (.integer 4294967306) (.integer 10) =
      .ok ⟨some [0x31, 0x30], []⟩ := by decide +kernel
  rw [text] at result
  cases result
  have outside : Outside 4294967306 := .inr (by decide)
  exact absurd (defined.null.mpr (.inl outside)) (Option.some_ne_none _)

end MyLite.BaseConversion
