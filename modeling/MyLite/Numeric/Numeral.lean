import MyLite.Numeric.DecimalText
import MyLite.Library.Decimal
import MyLite.Library.Scanning

/-! Decimal numerals with a sign, a fraction and an exponent, and the longest one a text starts
with. -/

namespace MyLite.Numeric

open Scanning (EndsRun)

def AreDigits (bytes : List UInt8) : Prop := ∀ byte ∈ bytes, asciiDecimalDigit byte = true

theorem areDigits_of_all (bytes : List UInt8) (all : bytes.all asciiDecimalDigit = true) :
    AreDigits bytes :=
  List.all_eq_true.mp all

def signSpelling : Option Bool → List UInt8
  | none => []
  | some false => [43]
  | some true => [45]

def fractionSpelling : Option (List UInt8) → List UInt8
  | none => []
  | some digits => 46 :: digits

structure Mantissa where
  sign : Option Bool
  whole : List UInt8
  fraction : Option (List UInt8)
  wholeDigits : AreDigits whole
  fractionDigits : AreDigits (fraction.getD [])

structure ExponentPart where
  marker : UInt8
  sign : Option Bool
  digits : List UInt8
  isMarker : marker = 101 ∨ marker = 69
  areDigits : AreDigits digits
  nonempty : digits ≠ []

def Mantissa.digits (mantissa : Mantissa) : List UInt8 :=
  mantissa.whole ++ mantissa.fraction.getD []

/-- The mantissa without its sign. -/
def Mantissa.body (mantissa : Mantissa) : List UInt8 :=
  mantissa.whole ++ fractionSpelling mantissa.fraction

def ExponentPart.spelling (part : ExponentPart) : List UInt8 :=
  part.marker :: (signSpelling part.sign ++ part.digits)

def exponentSpelling : Option ExponentPart → List UInt8
  | none => []
  | some part => part.spelling

structure Numeral extends Mantissa where
  exponent : Option ExponentPart
  hasDigits : toMantissa.digits ≠ []

def Numeral.spelling (numeral : Numeral) : List UInt8 :=
  signSpelling numeral.sign ++ (numeral.body ++ exponentSpelling numeral.exponent)

/-- The numeral stands at the start of the text, and no longer one does. -/
def LongestNumeral (text : List UInt8) (numeral : Numeral) : Prop :=
  numeral.spelling <+: text ∧
    ∀ other : Numeral, other.spelling <+: text → other.spelling.length ≤ numeral.spelling.length

/-! What a numeral stands for. -/

def digitsValue (bytes : List UInt8) : Nat := Decimal.value (bytes.map digitValue)

def ExponentPart.value (part : ExponentPart) : Int :=
  if part.sign = some true then -digitsValue part.digits else digitsValue part.digits

def Numeral.exponentValue (numeral : Numeral) : Int :=
  (numeral.exponent.map ExponentPart.value).getD 0

def Mantissa.coefficient (mantissa : Mantissa) : Nat := digitsValue mantissa.digits

def Mantissa.places (mantissa : Mantissa) : Nat := (mantissa.fraction.getD []).length

/-- The power of ten the coefficient is scaled by. -/
def Numeral.shift (numeral : Numeral) : Int := numeral.exponentValue - numeral.places

/-! Spelling. -/

def isSign (byte : UInt8) : Bool := byte == 43 || byte == 45

def isDot (byte : UInt8) : Bool := byte == 46

theorem not_digit_of_sign {byte : UInt8} (sign : isSign byte = true) :
    asciiDecimalDigit byte = false := by
  rcases Bool.or_eq_true_iff.mp sign with plus | minus
  · rw [eq_of_beq plus]
    rfl
  · rw [eq_of_beq minus]
    rfl

/-- A mantissa does not start with a sign. -/
theorem Mantissa.body_unsigned {mantissa : Mantissa} (hasDigits : mantissa.digits ≠ [])
    (rest : List UInt8) : EndsRun isSign (mantissa.body ++ rest) := by
  intro byte first
  cases whole : mantissa.whole with
  | cons digit others =>
    have same : digit = byte := by simpa [body, whole] using first
    have digits := mantissa.wholeDigits digit (by rw [whole]; exact List.mem_cons_self)
    by_contra sign
    rw [← same, Bool.not_eq_false] at sign
    rw [not_digit_of_sign sign] at digits
    cases digits
  | nil =>
    cases fraction : mantissa.fraction with
    | none =>
      rw [digits, whole, fraction] at hasDigits
      exact absurd rfl hasDigits
    | some fractionDigits =>
      have same : 46 = byte := by simpa [body, whole, fraction, fractionSpelling] using first
      rw [← same]
      rfl

theorem unsigned_ne_signed {rest : List UInt8} (unsigned : EndsRun isSign rest) (negative : Bool)
    (other : List UInt8) : rest ≠ signSpelling (some negative) ++ other := by
  rintro rfl
  cases negative with
  | false => cases unsigned 43 rfl
  | true => cases unsigned 45 rfl

/-- Two signed texts are one only if their signs are, once no missing sign stands before a
sign. -/
theorem signSpelling_cancel {left right : Option Bool} {rest other : List UInt8}
    (same : signSpelling left ++ rest = signSpelling right ++ other)
    (leftUnsigned : left = none → EndsRun isSign rest)
    (rightUnsigned : right = none → EndsRun isSign other) : left = right ∧ rest = other := by
  cases left with
  | none =>
    cases right with
    | none => exact ⟨rfl, same⟩
    | some negative => exact absurd same (unsigned_ne_signed (leftUnsigned rfl) negative other)
  | some negative =>
    cases right with
    | none => exact absurd same.symm (unsigned_ne_signed (rightUnsigned rfl) negative rest)
    | some other => cases negative <;> cases other <;> simp_all [signSpelling]

/-- A run of digits at the start of a text is its longest one, or another digit follows. -/
theorem run_prefix {run tail long rest : List UInt8} (runDigits : AreDigits run)
    (longDigits : AreDigits long) (ends : EndsRun asciiDecimalDigit rest)
    (same : run ++ tail = long ++ rest) :
    (run = long ∧ tail = rest) ∨
      (run.length < long.length ∧ ∃ digit ∈ tail.head?, asciiDecimalDigit digit = true) := by
  induction run generalizing long with
  | nil =>
    cases long with
    | nil => exact Or.inl ⟨rfl, same⟩
    | cons digit others =>
      rw [List.nil_append] at same
      rw [same]
      exact Or.inr ⟨Nat.succ_pos _, digit, rfl, longDigits digit List.mem_cons_self⟩
  | cons first run ih =>
    have firstDigit := runDigits first List.mem_cons_self
    cases long with
    | nil =>
      rw [List.nil_append] at same
      have stops := ends first (by rw [← same]; rfl)
      rw [stops] at firstDigit
      cases firstDigit
    | cons digit others =>
      obtain ⟨rfl, following⟩ := List.cons.inj same
      rcases ih (fun byte mem => runDigits byte (List.mem_cons_of_mem _ mem))
        (fun byte mem => longDigits byte (List.mem_cons_of_mem _ mem)) following with ⟨rfl, rest⟩ | less
      · exact Or.inl ⟨rfl, rest⟩
      · exact Or.inr ⟨Nat.succ_lt_succ less.1, less.2⟩

/-! The longest numeral. -/

/-- The mantissa was read from a text as far as it goes, and `rest` is left. -/
structure Mantissa.Greedy (mantissa : Mantissa) (rest : List UInt8) : Prop where
  sign : mantissa.sign = none → EndsRun isSign (mantissa.body ++ rest)
  fraction : mantissa.fraction = none → EndsRun isDot rest
  digits : EndsRun asciiDecimalDigit rest

theorem fractionSpelling_ends {fraction : Option (List UInt8)} {rest : List UInt8}
    (ends : EndsRun asciiDecimalDigit rest) :
    EndsRun asciiDecimalDigit (fractionSpelling fraction ++ rest) := by
  cases fraction with
  | none => exact ends
  | some digits => exact Scanning.endsRun_cons _ rfl

/-- A mantissa is the one read from the text, or it is shorter and stops in front of a digit
or the dot. -/
theorem Mantissa.Greedy.longest {taken other : Mantissa} {rest tail : List UInt8}
    (greedy : taken.Greedy rest) (hasDigits : other.digits ≠ [])
    (same : signSpelling other.sign ++ (other.body ++ tail) =
      signSpelling taken.sign ++ (taken.body ++ rest)) :
    other.sign = taken.sign ∧
      ((other.whole = taken.whole ∧ other.fraction = taken.fraction ∧ tail = rest) ∨
        (other.body.length < taken.body.length ∧ other.digits.length ≤ taken.digits.length ∧
          ∃ byte ∈ tail.head?, asciiDecimalDigit byte = true ∨ isDot byte = true)) := by
  obtain ⟨sign, bodies⟩ := signSpelling_cancel same
    (fun _ => Mantissa.body_unsigned hasDigits tail) greedy.sign
  refine ⟨sign, ?_⟩
  simp only [Mantissa.body, Mantissa.digits, List.append_assoc] at bodies ⊢
  rcases run_prefix other.wholeDigits taken.wholeDigits (fractionSpelling_ends greedy.digits)
    bodies with ⟨whole, fractions⟩ | ⟨shorter, digit, next, isDigit⟩
  · rw [whole]
    cases otherFraction : other.fraction with
    | none =>
      rw [otherFraction] at fractions
      cases takenFraction : taken.fraction with
      | none =>
        rw [takenFraction] at fractions
        exact Or.inl ⟨rfl, rfl, fractions⟩
      | some digits =>
        rw [takenFraction] at fractions
        refine Or.inr ⟨?_, ?_, 46, ?_, Or.inr rfl⟩
        · simp [fractionSpelling]
        · simp
        · rw [show tail = _ from fractions]
          rfl
    | some otherDigits =>
      rw [otherFraction] at fractions
      cases takenFraction : taken.fraction with
      | none =>
        have dot := greedy.fraction takenFraction 46
        rw [takenFraction] at fractions
        cases dot (by rw [← show _ = rest from fractions]; rfl)
      | some digits =>
        have otherAll := other.fractionDigits
        have takenAll := taken.fractionDigits
        rw [otherFraction] at otherAll
        rw [takenFraction] at fractions takenAll
        rcases run_prefix otherAll takenAll greedy.digits (List.cons.inj fractions).2 with
          ⟨equal, rests⟩ | ⟨shorter, digit, next, isDigit⟩
        · rw [Option.getD_some, Option.getD_some] at equal
          exact Or.inl ⟨rfl, congrArg some equal, rests⟩
        · rw [Option.getD_some, Option.getD_some] at shorter
          refine Or.inr ⟨?_, ?_, digit, next, Or.inl isDigit⟩
          · simpa [fractionSpelling] using shorter
          · simpa using Nat.le_of_lt shorter
  · cases otherFraction : other.fraction with
    | none =>
      rw [otherFraction] at next
      refine Or.inr ⟨?_, ?_, digit, next, Or.inl isDigit⟩
      · simp only [fractionSpelling, List.append_nil, List.length_append]
        omega
      · simp only [Option.getD_none, List.append_nil, List.length_append]
        omega
    | some digits =>
      -- what follows is the dot, which is no digit
      rw [otherFraction] at next
      cases next
      cases isDigit

/-- The numeral was read from a text as far as it goes, and `rest` is left. -/
structure Numeral.Greedy (numeral : Numeral) (rest : List UInt8) : Prop where
  mantissa : numeral.toMantissa.Greedy (exponentSpelling numeral.exponent ++ rest)
  exponent : numeral.exponent = none → ∀ (part : ExponentPart) (tail : List UInt8),
    rest ≠ part.spelling ++ tail
  digits : EndsRun asciiDecimalDigit rest

theorem ExponentPart.unsigned (part : ExponentPart) (tail : List UInt8) :
    EndsRun isSign (part.digits ++ tail) := by
  have body := @Mantissa.body_unsigned ⟨none, part.digits, none, part.areDigits, nofun⟩
    (by simpa [Mantissa.digits] using part.nonempty) tail
  simpa [Mantissa.body, fractionSpelling] using body

theorem ExponentPart.longest {taken other : ExponentPart} {rest tail : List UInt8}
    (ends : EndsRun asciiDecimalDigit rest)
    (same : other.spelling ++ tail = taken.spelling ++ rest) :
    other = taken ∨ other.spelling.length < taken.spelling.length := by
  obtain ⟨marker, following⟩ : other.marker = taken.marker ∧
      (signSpelling other.sign ++ other.digits) ++ tail =
        (signSpelling taken.sign ++ taken.digits) ++ rest := List.cons.inj same
  rw [List.append_assoc, List.append_assoc] at following
  obtain ⟨sign, digits⟩ := signSpelling_cancel following (fun _ => other.unsigned tail)
    (fun _ => taken.unsigned rest)
  rcases run_prefix other.areDigits taken.areDigits ends digits with ⟨equal, _⟩ | ⟨shorter, _⟩
  · left
    cases other
    cases taken
    cases marker
    cases sign
    cases equal
    rfl
  · right
    simp only [spelling, sign, List.length_cons, List.length_append]
    omega

/-- A numeral the text starts with is the one read, or it is shorter. -/
theorem Numeral.Greedy.longest {taken other : Numeral} {rest tail : List UInt8}
    (greedy : taken.Greedy rest) (same : other.spelling ++ tail = taken.spelling ++ rest) :
    other = taken ∨ other.spelling.length < taken.spelling.length := by
  simp only [spelling, List.append_assoc] at same
  obtain ⟨sign, equal | ⟨shorter, _, byte, next, stops⟩⟩ :=
    greedy.mantissa.longest other.hasDigits same
  · obtain ⟨whole, fraction, tails⟩ := equal
    have bodies : other.body = taken.body := by rw [Mantissa.body, whole, fraction, Mantissa.body]
    have mantissas : other.toMantissa = taken.toMantissa := by
      cases other with
      | mk mantissa => cases mantissa; cases taken with
        | mk mantissa => cases mantissa; simp_all
    cases otherExponent : other.exponent with
    | none =>
      cases takenExponent : taken.exponent with
      | none =>
        left
        cases other
        cases taken
        cases mantissas
        cases otherExponent
        cases takenExponent
        rfl
      | some part =>
        right
        simp only [spelling, sign, bodies, otherExponent, takenExponent, exponentSpelling,
          ExponentPart.spelling, List.length_append, List.length_cons, List.length_nil]
        omega
    | some otherPart =>
      cases takenExponent : taken.exponent with
      | none =>
        rw [otherExponent, takenExponent] at tails
        exact absurd tails.symm (greedy.exponent takenExponent otherPart tail)
      | some part =>
        rw [otherExponent, takenExponent] at tails
        rcases ExponentPart.longest greedy.digits tails with rfl | shorter
        · left
          cases other
          cases taken
          cases mantissas
          cases otherExponent
          cases takenExponent
          rfl
        · right
          simp only [spelling, sign, bodies, otherExponent, takenExponent, exponentSpelling,
            List.length_append]
          omega
  · cases otherExponent : other.exponent with
    | none =>
      right
      simp only [spelling, sign, otherExponent, exponentSpelling, List.length_append,
        List.length_nil]
      omega
    | some part =>
      -- a marker is neither a digit nor the dot
      rw [otherExponent] at next
      cases next
      rcases part.isMarker with lower | upper
      · rw [lower] at stops
        rcases stops with digit | dot
        · cases digit
        · cases dot
      · rw [upper] at stops
        rcases stops with digit | dot
        · cases digit
        · cases dot

theorem Numeral.Greedy.longestNumeral {numeral : Numeral} {rest : List UInt8}
    (greedy : numeral.Greedy rest) : LongestNumeral (numeral.spelling ++ rest) numeral := by
  refine ⟨List.prefix_append _ _, ?_⟩
  rintro other ⟨tail, same⟩
  rcases greedy.longest same with rfl | shorter
  · exact Nat.le_refl _
  · exact Nat.le_of_lt shorter

/-- It is the only longest one. -/
theorem Numeral.Greedy.eq_of_longest {numeral other : Numeral} {rest : List UInt8}
    (greedy : numeral.Greedy rest) (longest : LongestNumeral (numeral.spelling ++ rest) other) :
    other = numeral := by
  obtain ⟨⟨tail, same⟩, atLeast⟩ := longest
  rcases greedy.longest same with equal | shorter
  · exact equal
  · exact absurd (atLeast numeral (List.prefix_append _ _)) (Nat.not_le.mpr shorter)

/-- A text that starts with no digit behind its sign and its dot starts with no numeral. -/
theorem Mantissa.Greedy.no_numeral {mantissa : Mantissa} {rest : List UInt8}
    (greedy : mantissa.Greedy rest) (noDigits : mantissa.digits = []) (numeral : Numeral) :
    ¬ numeral.spelling <+: signSpelling mantissa.sign ++ (mantissa.body ++ rest) := by
  rintro ⟨tail, same⟩
  rw [Numeral.spelling, List.append_assoc, List.append_assoc] at same
  obtain ⟨_, equal | ⟨_, fewer, _⟩⟩ := greedy.longest numeral.hasDigits same
  · obtain ⟨whole, fraction, _⟩ := equal
    refine numeral.hasDigits ?_
    rw [← noDigits, Mantissa.digits, whole, fraction, Mantissa.digits]
  · rw [noDigits, List.length_nil, Nat.le_zero, List.length_eq_zero_iff] at fewer
    exact numeral.hasDigits fewer

end MyLite.Numeric
