import Mathlib.Algebra.Group.Nat.Defs
import MyLite.Library.Wrapped
import MyLite.Strings.Base64

/-! Decoding an encoded text gives the bytes back, and what is decoded is what the grammar of
padded groups admits. -/

namespace MyLite.Base64

open Wrapped (wrapFrom)

section Characters

theorem charValue_encodeSextet {sextet : Nat} (small : sextet < 64) :
    charValue (encodeSextet sextet) = some sextet := by
  revert sextet
  decide +kernel

theorem encodeSextet_mem {sextet : Nat} (small : sextet < 64) :
    encodeSextet sextet ∈ alphabet := by
  have inside : sextet < alphabet.length := small
  rw [encodeSextet, List.getD_eq_getElem?_getD, List.getElem?_eq_getElem inside]
  exact List.getElem_mem inside

theorem bytes_agree :
    (List.range 256).all (fun code =>
      (charValue (UInt8.ofNat code)).isSome = alphabet.contains (UInt8.ofNat code)) = true := by
  decide +kernel

/-- The values are those of the alphabet. -/
theorem charValue_isSome_iff (byte : UInt8) : (charValue byte).isSome = true ↔ byte ∈ alphabet := by
  have agree := List.all_eq_true.mp bytes_agree byte.toNat (List.mem_range.mpr byte.toNat_lt)
  rw [UInt8.ofNat_toNat, decide_eq_true_eq] at agree
  rw [agree, List.contains_iff_mem]

theorem charValue_eq_none_iff (byte : UInt8) : charValue byte = none ↔ byte ∉ alphabet := by
  rw [← charValue_isSome_iff]
  cases charValue byte <;> simp

theorem padding_not_mem : paddingCharacter ∉ alphabet := by
  decide

theorem alphabet_kept : alphabet.all (fun byte => !ignoredWhitespace byte) = true := by
  decide

theorem lineBreak_ignored : ignoredWhitespace lineBreak = true := by
  decide

end Characters

section Groups

theorem shiftLeft_or {high low shift : Nat} (small : low < 2 ^ shift) :
    (high <<< shift) ||| low = high * 2 ^ shift + low := by
  rw [← Nat.shiftLeft_add_eq_or_of_lt small, Nat.shiftLeft_eq]

theorem first_sextet (first : Nat) (byte : first < 256) : (first >>> 2) &&& 63 = first / 4 := by
  have masked := Nat.and_two_pow_sub_one_eq_mod (first >>> 2) 6
  rw [show (63 : Nat) = 2 ^ 6 - 1 from rfl, masked, Nat.shiftRight_eq_div_pow]
  omega

theorem second_sextet (first second : Nat) (byte : second < 256) :
    ((first &&& 3) <<< 4) ||| ((second >>> 4) &&& 15) = first % 4 * 16 + second / 16 := by
  have low : first &&& 3 = first % 4 := Nat.and_two_pow_sub_one_eq_mod first 2
  have high : (second >>> 4) &&& 15 = second / 16 := by
    have masked := Nat.and_two_pow_sub_one_eq_mod (second >>> 4) 4
    rw [show (15 : Nat) = 2 ^ 4 - 1 from rfl, masked, Nat.shiftRight_eq_div_pow]
    omega
  rw [low, high]
  exact shiftLeft_or (by omega)

theorem third_sextet (second third : Nat) (byte : third < 256) :
    ((second &&& 15) <<< 2) ||| ((third >>> 6) &&& 3) = second % 16 * 4 + third / 64 := by
  have low : second &&& 15 = second % 16 := Nat.and_two_pow_sub_one_eq_mod second 4
  have high : (third >>> 6) &&& 3 = third / 64 := by
    have masked := Nat.and_two_pow_sub_one_eq_mod (third >>> 6) 2
    rw [show (3 : Nat) = 2 ^ 2 - 1 from rfl, masked, Nat.shiftRight_eq_div_pow]
    omega
  rw [low, high]
  exact shiftLeft_or (by omega)

theorem fourth_sextet (third : Nat) : third &&& 63 = third % 64 :=
  Nat.and_two_pow_sub_one_eq_mod third 6

theorem first_byte (first second : Nat) (byte : first < 256) (other : second < 256) :
    narrow (((first / 4) <<< 2) ||| ((first % 4 * 16 + second / 16) >>> 4)) =
      UInt8.ofNat first := by
  rw [Nat.shiftRight_eq_div_pow, shiftLeft_or (by omega), narrow]
  congr 1
  omega

theorem second_byte (first second third : Nat) (byte : second < 256) (other : third < 256) :
    narrow (((first % 4 * 16 + second / 16) <<< 4) ||| ((second % 16 * 4 + third / 64) >>> 2)) =
      UInt8.ofNat second := by
  rw [Nat.shiftRight_eq_div_pow, shiftLeft_or (by omega), narrow]
  congr 1
  omega

theorem third_byte (second third : Nat) (byte : third < 256) :
    narrow (((second % 16 * 4 + third / 64) <<< 6) ||| (third % 64)) = UInt8.ofNat third := by
  rw [shiftLeft_or (by omega), narrow]
  congr 1
  omega

/-- The characters of one to three bytes, in arithmetic. -/
theorem encodeGroup_eq (groupInputSize : Nat) {first second third : Nat} (firstByte : first < 256)
    (secondByte : second < 256) (thirdByte : third < 256) :
    encodeGroup groupInputSize first second third =
      [encodeSextet (first / 4), encodeSextet (first % 4 * 16 + second / 16),
       if groupInputSize > 1 then encodeSextet (second % 16 * 4 + third / 64)
       else paddingCharacter,
       if groupInputSize > 2 then encodeSextet (third % 64) else paddingCharacter] := by
  rw [encodeGroup, first_sextet first firstByte, second_sextet first second secondByte,
    third_sextet second third thirdByte, fourth_sextet]

theorem encodeSextet_ne_padding {sextet : Nat} (small : sextet < 64) :
    encodeSextet sextet ≠ paddingCharacter := by
  intro same
  exact padding_not_mem (same ▸ encodeSextet_mem small)

theorem decodeGroup_three {first second third outputSize : Nat} (firstByte : first < 256)
    (secondByte : second < 256) (thirdByte : third < 256) {decoded : List UInt8}
    (room : decoded.length + 3 ≤ outputSize) :
    decodeGroup outputSize decoded (encodeGroup 3 first second third) =
      decoded ++ [UInt8.ofNat first, UInt8.ofNat second, UInt8.ofNat third] := by
  have one : first / 4 < 64 := by omega
  have two : first % 4 * 16 + second / 16 < 64 := by omega
  have three : second % 16 * 4 + third / 64 < 64 := by omega
  have four : third % 64 < 64 := by omega
  have fits : decoded.length + 1 < outputSize := by omega
  have more : decoded.length + 1 + 1 < outputSize := by omega
  rw [encodeGroup_eq 3 firstByte secondByte thirdByte]
  simp [decodeGroup, charValue_encodeSextet, encodeSextet_ne_padding, one, two, three, four,
    first_byte first second firstByte secondByte,
    second_byte first second third secondByte thirdByte, third_byte second third thirdByte, fits,
    more]

theorem decodeGroup_two {first second outputSize : Nat} (firstByte : first < 256)
    (secondByte : second < 256) {decoded : List UInt8}
    (room : decoded.length + 2 ≤ outputSize) :
    decodeGroup outputSize decoded (encodeGroup 2 first second 0) =
      decoded ++ [UInt8.ofNat first, UInt8.ofNat second] := by
  have one : first / 4 < 64 := by omega
  have two : first % 4 * 16 + second / 16 < 64 := by omega
  have three : second % 16 * 4 + 0 / 64 < 64 := by omega
  have fits : decoded.length + 1 < outputSize := by omega
  have last := second_byte first second 0 secondByte (by omega)
  rw [encodeGroup_eq 2 firstByte secondByte (by omega)]
  simp only [Nat.zero_div, Nat.add_zero] at three last
  simp [decodeGroup, charValue_encodeSextet, encodeSextet_ne_padding, one, two, three,
    first_byte first second firstByte secondByte, last, fits]

theorem decodeGroup_one {first outputSize : Nat} (firstByte : first < 256)
    {decoded : List UInt8} :
    decodeGroup outputSize decoded (encodeGroup 1 first 0 0) =
      decoded ++ [UInt8.ofNat first] := by
  have one : first / 4 < 64 := by omega
  have two : first % 4 * 16 + 0 / 16 < 64 := by omega
  have only := first_byte first 0 firstByte (by omega)
  rw [encodeGroup_eq 1 firstByte (by omega) (by omega)]
  simp only [Nat.zero_div, Nat.add_zero] at two only
  simp [decodeGroup, charValue_encodeSextet, encodeSextet_ne_padding, one, two, only]

end Groups

section Grammar

/-- Complete groups of four characters, with padding only at the end. -/
inductive Groups : List UInt8 → Prop where
  | nil : Groups []
  | full {first second third fourth : UInt8} {rest : List UInt8}
      (firstMem : first ∈ alphabet) (secondMem : second ∈ alphabet) (thirdMem : third ∈ alphabet)
      (fourthMem : fourth ∈ alphabet) (groups : Groups rest) :
      Groups (first :: second :: third :: fourth :: rest)
  | onePadding {first second third : UInt8} (firstMem : first ∈ alphabet)
      (secondMem : second ∈ alphabet) (thirdMem : third ∈ alphabet) :
      Groups [first, second, third, paddingCharacter]
  | twoPadding {first second : UInt8} (firstMem : first ∈ alphabet)
      (secondMem : second ∈ alphabet) :
      Groups [first, second, paddingCharacter, paddingCharacter]

theorem Groups.length_mod {text : List UInt8} (groups : Groups text) : text.length % 4 = 0 := by
  induction groups with
  | nil => rfl
  | full _ _ _ _ _ ih =>
    simp only [List.length_cons]
    omega
  | onePadding => simp
  | twoPadding => simp

/-- The alphabet's characters and up to two of padding. -/
theorem Groups.split {text : List UInt8} (groups : Groups text) :
    ∃ body padCount, text = body ++ List.replicate padCount paddingCharacter ∧
      (∀ byte ∈ body, byte ∈ alphabet) ∧ padCount ≤ 2 := by
  induction groups with
  | nil => exact ⟨[], 0, rfl, by simp, by omega⟩
  | @full first second third fourth rest firstMem secondMem thirdMem fourthMem _ ih =>
    obtain ⟨body, padCount, rfl, members, small⟩ := ih
    refine ⟨first :: second :: third :: fourth :: body, padCount, rfl, ?_, small⟩
    simp only [List.mem_cons, forall_eq_or_imp]
    exact ⟨firstMem, secondMem, thirdMem, fourthMem, members⟩
  | @onePadding first second third firstMem secondMem thirdMem =>
    refine ⟨[first, second, third], 1, rfl, ?_, by omega⟩
    simp only [List.mem_cons, forall_eq_or_imp, List.not_mem_nil, false_imp_iff, implies_true]
    exact ⟨firstMem, secondMem, thirdMem, trivial⟩
  | @twoPadding first second firstMem secondMem =>
    refine ⟨[first, second], 2, rfl, ?_, by omega⟩
    simp only [List.mem_cons, forall_eq_or_imp, List.not_mem_nil, false_imp_iff, implies_true]
    exact ⟨firstMem, secondMem, trivial⟩

theorem groups_of_split {padCount : Nat} (small : padCount ≤ 2) (bound : Nat) (body : List UInt8)
    (bounded : body.length ≤ bound) (members : ∀ byte ∈ body, byte ∈ alphabet)
    (whole : (body.length + padCount) % 4 = 0) :
    Groups (body ++ List.replicate padCount paddingCharacter) := by
  induction bound generalizing body with
  | zero =>
    obtain rfl := List.length_eq_zero_iff.mp (Nat.le_zero.mp bounded)
    have none : padCount = 0 := by
      simp only [List.length_nil] at whole
      omega
    subst none
    exact .nil
  | succ bound ih =>
    rcases body with _ | ⟨first, _ | ⟨second, _ | ⟨third, _ | ⟨fourth, rest⟩⟩⟩⟩
    · have none : padCount = 0 := by
        simp only [List.length_nil] at whole
        omega
      subst none
      exact .nil
    · simp only [List.length_cons, List.length_nil] at whole
      omega
    · have two : padCount = 2 := by
        simp only [List.length_cons, List.length_nil] at whole
        omega
      subst two
      exact .twoPadding (members _ (by simp)) (members _ (by simp))
    · have one : padCount = 1 := by
        simp only [List.length_cons, List.length_nil] at whole
        omega
      subst one
      exact .onePadding (members _ (by simp)) (members _ (by simp)) (members _ (by simp))
    · simp only [List.length_cons] at bounded whole
      refine .full (members _ (by simp)) (members _ (by simp)) (members _ (by simp))
        (members _ (by simp)) (ih rest (by omega) ?_ (by omega))
      intro byte member
      exact members byte (by simp [member])

end Grammar

section Validation

theorem countPadding_body (size index : Nat) {body : List UInt8}
    (members : ∀ byte ∈ body, byte ∈ alphabet) (rest : List UInt8) :
    countPadding size index 0 (body ++ rest) = countPadding size (index + body.length) 0 rest := by
  induction body generalizing index with
  | nil => rfl
  | cons byte body ih =>
    have member := members byte List.mem_cons_self
    have other : byte ≠ paddingCharacter := fun same => padding_not_mem (same ▸ member)
    have valued : charValue byte ≠ none := fun none => (charValue_eq_none_iff byte).mp none member
    rw [List.cons_append, countPadding, if_neg other, if_neg (by simp [valued]),
      ih (index + 1) fun later inBody => members later (List.mem_cons_of_mem byte inBody),
      List.length_cons, Nat.add_assoc, Nat.add_comm 1]

theorem countPadding_padding {size index : Nat} (late : size - 2 ≤ index) (padCount more : Nat) :
    countPadding size index padCount (List.replicate more paddingCharacter) =
      some (padCount + more) := by
  induction more generalizing index padCount with
  | zero => rfl
  | succ more ih =>
    rw [List.replicate_succ, countPadding, if_pos rfl, if_neg (by omega),
      ih (by omega : size - 2 ≤ index + 1), Nat.add_assoc, Nat.add_comm 1]

theorem countPadding_some {size index padCount total : Nat} {text : List UInt8}
    (counted : countPadding size index padCount text = some total) :
    padCount ≤ total ∧ ∃ body, text = body ++ List.replicate (total - padCount) paddingCharacter ∧
      (∀ byte ∈ body, byte ∈ alphabet) ∧ (padCount ≠ 0 → body = []) ∧
      (padCount < total → size - 2 ≤ index + body.length) := by
  induction text generalizing index padCount with
  | nil =>
    obtain rfl : padCount = total := by simpa [countPadding] using counted
    exact ⟨Nat.le_refl _, [], by simp, by simp, by simp, by omega⟩
  | cons byte text ih =>
    rw [countPadding] at counted
    split at counted
    · rename_i padding
      split at counted
      · cases counted
      · rename_i late
        obtain ⟨less, body, split, members, alone, -⟩ := ih counted
        obtain rfl := alone (Nat.succ_ne_zero padCount)
        refine ⟨by omega, [], ?_, by simp, by simp, by simp only [List.length_nil]; omega⟩
        have more : total - padCount = total - (padCount + 1) + 1 := by omega
        rw [split, padding, more, List.replicate_succ, List.nil_append, List.nil_append]
    · split at counted
      · cases counted
      · rename_i valid
        obtain ⟨fresh, valued⟩ := not_or.mp valid
        have zero : padCount = 0 := Decidable.not_not.mp fresh
        subst zero
        obtain ⟨less, body, split, members, -, late⟩ := ih counted
        refine ⟨less, byte :: body, by rw [split, List.cons_append], ?_, by simp, ?_⟩
        · intro other member
          rcases List.mem_cons.mp member with rfl | member
          · exact Decidable.not_not.mp fun outside =>
              valued ((charValue_eq_none_iff other).mpr outside)
          · exact members other member
        · intro some_padding
          have reached := late some_padding
          rw [List.length_cons]
          omega

theorem validateNormalized_groups {text : List UInt8} (groups : Groups text)
    (nonempty : text.length ≠ 0) (fits : text.length ≤ 18446744073709551615) :
    ∃ padCount, validateNormalized text = .ok (some padCount) ∧
      ∃ body, text = body ++ List.replicate padCount paddingCharacter ∧
        ∀ byte ∈ body, byte ∈ alphabet := by
  have whole := groups.length_mod
  obtain ⟨body, padCount, rfl, members, small⟩ := groups.split
  refine ⟨padCount, ?_, body, rfl, members⟩
  have counted : countPadding (body ++ List.replicate padCount paddingCharacter).length 0 0
      (body ++ List.replicate padCount paddingCharacter) = some padCount := by
    rw [countPadding_body _ 0 members, countPadding_padding, Nat.zero_add]
    simp only [List.length_append, List.length_replicate]
    omega
  generalize body ++ List.replicate padCount paddingCharacter = text at *
  have complete : ¬ text.length % outputGroupSize ≠ 0 := fun left => left whole
  have bounded : ¬ text.length / outputGroupSize > sizeMax / inputGroupSize := by
    simp only [sizeMax, inputGroupSize, outputGroupSize]
    omega
  have enough : ¬ text.length / outputGroupSize * inputGroupSize < padCount := by
    simp only [inputGroupSize, outputGroupSize]
    omega
  rw [validateNormalized, if_neg complete, counted]
  simp only [if_neg (by omega : ¬ padCount > 2), if_neg bounded, if_neg enough]

theorem validateNormalized_sound {text : List UInt8} {padCount : Nat}
    (valid : validateNormalized text = .ok (some padCount)) : Groups text := by
  rw [validateNormalized] at valid
  split at valid
  · cases valid
  · rename_i left
    have whole : text.length % 4 = 0 := Decidable.not_not.mp left
    split at valid
    · cases valid
    · rename_i total counted
      obtain ⟨-, body, split, members, -, late⟩ := countPadding_some counted
      rw [Nat.sub_zero] at split
      have length := congrArg List.length split
      rw [List.length_append, List.length_replicate] at length
      have small : total ≤ 2 := by
        by_cases some_padding : 0 < total
        · have reached := late some_padding
          omega
        · omega
      rw [split]
      exact groups_of_split small body.length body (Nat.le_refl _) members (by omega)

theorem validateNormalized_ok {text : List UInt8} (fits : text.length ≤ 18446744073709551615) :
    ∃ result, validateNormalized text = .ok result := by
  rw [validateNormalized]
  split
  · exact ⟨_, rfl⟩
  · split
    · exact ⟨_, rfl⟩
    · split
      · exact ⟨_, rfl⟩
      · split
        · rename_i _ _ _ _ _ large
          simp only [sizeMax, inputGroupSize, outputGroupSize] at large
          omega
        · split
          · exact ⟨_, rfl⟩
          · exact ⟨_, rfl⟩

theorem decodeNormalized_ok {text : List UInt8} (fits : text.length ≤ 18446744073709551615) :
    ∃ result, decodeNormalized text = .ok result := by
  obtain ⟨result, valid⟩ := validateNormalized_ok fits
  rw [decodeNormalized, valid]
  split
  · exact ⟨_, rfl⟩
  · cases result with
    | none => exact ⟨_, rfl⟩
    | some padCount => exact ⟨_, rfl⟩

/-- What is accepted without its whitespace is what the grammar admits. -/
theorem decodeNormalized_accepts_iff {text : List UInt8}
    (fits : text.length ≤ 18446744073709551615) :
    (∃ decoded, decodeNormalized text = .ok (some decoded)) ↔ Groups text := by
  rw [decodeNormalized]
  by_cases empty : text.length = 0
  · obtain rfl := List.length_eq_zero_iff.mp empty
    simp [Groups.nil]
  · rw [if_neg empty]
    constructor
    · rintro ⟨decoded, accepted⟩
      cases valid : validateNormalized text with
      | error status => simp [valid] at accepted
      | ok result =>
        cases result with
        | none => simp [valid] at accepted
        | some padCount => exact validateNormalized_sound valid
    · intro groups
      obtain ⟨padCount, valid, -⟩ := validateNormalized_groups groups empty fits
      simp [valid]

end Validation

section Encoding

/-- The groups without line breaks. -/
def plainText : List UInt8 → List UInt8
  | [] => []
  | [first] => encodeGroup 1 first.toNat 0 0
  | [first, second] => encodeGroup 2 first.toNat second.toNat 0
  | first :: second :: third :: rest =>
    encodeGroup 3 first.toNat second.toNat third.toNat ++ plainText rest

theorem plainText_length (bytes : List UInt8) :
    (plainText bytes).length = (bytes.length + 2) / 3 * 4 := by
  induction bytes using plainText.induct with
  | case1 => rfl
  | case2 first => simp [plainText, encodeGroup]
  | case3 first second => simp [plainText, encodeGroup]
  | case4 first second third rest ih =>
    simp only [plainText, encodeGroup, List.length_append, List.length_cons, List.length_nil, ih]
    omega

theorem plainText_groups (bytes : List UInt8) : Groups (plainText bytes) := by
  induction bytes using plainText.induct with
  | case1 => exact .nil
  | case2 first =>
    have firstByte := first.toNat_lt
    rw [plainText, encodeGroup_eq 1 firstByte (by omega) (by omega)]
    exact .twoPadding (encodeSextet_mem (by omega)) (encodeSextet_mem (by omega))
  | case3 first second =>
    have firstByte := first.toNat_lt
    have secondByte := second.toNat_lt
    rw [plainText, encodeGroup_eq 2 firstByte secondByte (by omega)]
    exact .onePadding (encodeSextet_mem (by omega)) (encodeSextet_mem (by omega))
      (encodeSextet_mem (by omega))
  | case4 first second third rest ih =>
    have firstByte := first.toNat_lt
    have secondByte := second.toNat_lt
    have thirdByte := third.toNat_lt
    rw [plainText, encodeGroup_eq 3 firstByte secondByte thirdByte]
    exact .full (encodeSextet_mem (by omega)) (encodeSextet_mem (by omega))
      (encodeSextet_mem (by omega)) (encodeSextet_mem (by omega)) ih

/-- The padding makes up for the bytes that are missing from the last group. -/
theorem plainText_padding {bytes body : List UInt8} {padCount : Nat}
    (split : plainText bytes = body ++ List.replicate padCount paddingCharacter)
    (members : ∀ byte ∈ body, byte ∈ alphabet) :
    (bytes.length + padCount) % 3 = 0 ∧ padCount ≤ 2 := by
  have counted := congrArg (List.countP fun byte => decide (byte = paddingCharacter)) split
  have noneInBody : body.countP (fun byte => decide (byte = paddingCharacter)) = 0 := by
    rw [List.countP_eq_zero]
    intro byte member padding
    rw [decide_eq_true_eq] at padding
    exact padding_not_mem (padding ▸ members byte member)
  have all : (List.replicate padCount paddingCharacter).countP
      (fun byte => decide (byte = paddingCharacter)) = padCount := by
    rw [List.countP_replicate]
    simp
  rw [List.countP_append, noneInBody, all, Nat.zero_add] at counted
  rw [← counted]
  clear counted split all
  induction bytes using plainText.induct with
  | case1 => simp [plainText]
  | case2 first =>
    have firstByte := first.toNat_lt
    rw [plainText, encodeGroup_eq 1 firstByte (by omega) (by omega)]
    simp [encodeSextet_ne_padding (by omega : first.toNat / 4 < 64),
      encodeSextet_ne_padding (by omega : first.toNat % 4 * 16 < 64)]
  | case3 first second =>
    have firstByte := first.toNat_lt
    have secondByte := second.toNat_lt
    rw [plainText, encodeGroup_eq 2 firstByte secondByte (by omega)]
    simp [encodeSextet_ne_padding (by omega : first.toNat / 4 < 64),
      encodeSextet_ne_padding (by omega : first.toNat % 4 * 16 + second.toNat / 16 < 64),
      encodeSextet_ne_padding (by omega : second.toNat % 16 * 4 < 64)]
  | case4 first second third rest ih =>
    have firstByte := first.toNat_lt
    have secondByte := second.toNat_lt
    have thirdByte := third.toNat_lt
    have noneHere : (encodeGroup 3 first.toNat second.toNat third.toNat).countP
        (fun byte => decide (byte = paddingCharacter)) = 0 := by
      rw [encodeGroup_eq 3 firstByte secondByte thirdByte]
      simp [encodeSextet_ne_padding (by omega : first.toNat / 4 < 64),
        encodeSextet_ne_padding (by omega : first.toNat % 4 * 16 + second.toNat / 16 < 64),
        encodeSextet_ne_padding (by omega : second.toNat % 16 * 4 + third.toNat / 64 < 64),
        encodeSextet_ne_padding (by omega : third.toNat % 64 < 64)]
    rw [plainText, List.countP_append, noneHere, Nat.zero_add]
    simp only [List.length_cons]
    omega

/-- Decoding the groups appends the bytes they were made of. -/
theorem decodeValidNormalized_plainText (bytes : List UInt8) {outputSize : Nat}
    (decoded : List UInt8) (room : decoded.length + bytes.length ≤ outputSize) :
    decodeValidNormalized outputSize decoded (plainText bytes) = decoded ++ bytes := by
  induction bytes using plainText.induct generalizing decoded with
  | case1 => simp [plainText, decodeValidNormalized]
  | case2 first =>
    have group := @decodeGroup_one first.toNat outputSize first.toNat_lt decoded
    rw [UInt8.ofNat_toNat] at group
    rw [← group]
    rfl
  | case3 first second =>
    have group := decodeGroup_two first.toNat_lt second.toNat_lt room
    rw [UInt8.ofNat_toNat, UInt8.ofNat_toNat] at group
    rw [← group]
    rfl
  | case4 first second third rest ih =>
    simp only [List.length_cons] at room
    have group := decodeGroup_three first.toNat_lt second.toNat_lt third.toNat_lt
      (by omega : decoded.length + 3 ≤ outputSize)
    rw [UInt8.ofNat_toNat, UInt8.ofNat_toNat, UInt8.ofNat_toNat] at group
    have next : decodeValidNormalized outputSize decoded
        (plainText (first :: second :: third :: rest)) =
          decodeValidNormalized outputSize (decodeGroup outputSize decoded
            (encodeGroup 3 first.toNat second.toNat third.toNat)) (plainText rest) := rfl
    rw [next, group, ih _ (by simp only [List.length_append, List.length_cons, List.length_nil]
                              omega)]
    simp

/-- The groups decode to the bytes. -/
theorem decodeNormalized_plainText {bytes : List UInt8}
    (fits : bytes.length ≤ 9223372036854775807) :
    decodeNormalized (plainText bytes) = .ok (some ⟨bytes, bytes.length⟩) := by
  have length := plainText_length bytes
  rw [decodeNormalized]
  by_cases empty : (plainText bytes).length = 0
  · have none : bytes = [] := List.length_eq_zero_iff.mp (by omega)
    subst none
    rfl
  · obtain ⟨padCount, valid, body, split, members⟩ :=
      validateNormalized_groups (plainText_groups bytes) empty (by omega)
    obtain ⟨whole, small⟩ := plainText_padding split members
    have size : (plainText bytes).length / outputGroupSize * inputGroupSize - padCount =
        bytes.length := by
      simp only [outputGroupSize, inputGroupSize, length]
      omega
    rw [if_neg empty, valid]
    simp only [size]
    rw [decodeValidNormalized_plainText bytes [] (by simp), List.nil_append]

end Encoding

section Lines

theorem store_ok {state : EncodeOutputState} {outputSize : Nat}
    (room : state.output.length < outputSize) (character : UInt8) :
    state.store outputSize character =
      .ok ⟨state.output ++ [character], state.lineWidth + 1⟩ := by
  rw [EncodeOutputState.store, if_neg (by omega)]

/-- One character is appended with the line break before it, when the line is full. -/
theorem append_ok {state : EncodeOutputState} {outputSize : Nat} (character : UInt8)
    (inside : state.lineWidth ≤ 76)
    (room : state.output.length +
      (wrapFrom 76 lineBreak state.lineWidth [character]).length ≤ outputSize) :
    ∃ next, state.append outputSize character = .ok next ∧ next.lineWidth ≤ 76 ∧
      next.output = state.output ++ wrapFrom 76 lineBreak state.lineWidth [character] ∧
      ∀ later, wrapFrom 76 lineBreak state.lineWidth (character :: later) =
        wrapFrom 76 lineBreak state.lineWidth [character] ++
          wrapFrom 76 lineBreak next.lineWidth later := by
  rw [EncodeOutputState.append]
  by_cases full : state.lineWidth = 76
  · rw [full] at room ⊢
    rw [Wrapped.wrapFrom_break] at room ⊢
    simp only [wrapFrom, List.length_cons, List.length_nil] at room
    have fullLine : 76 = encodedLineWidth := rfl
    rw [if_pos fullLine, store_ok (by omega)]
    simp only
    rw [store_ok (by simp only [List.length_append, List.length_cons, List.length_nil]; omega)]
    refine ⟨_, rfl, by simp only; omega, by simp [wrapFrom], ?_⟩
    intro later
    rw [Wrapped.wrapFrom_break]
    simp [wrapFrom]
  · rw [Wrapped.wrapFrom_next full] at room ⊢
    simp only [wrapFrom, List.length_cons, List.length_nil] at room
    have openLine : state.lineWidth ≠ encodedLineWidth := full
    rw [if_neg openLine, store_ok (by omega)]
    refine ⟨_, rfl, by simp only; omega, by simp [wrapFrom], ?_⟩
    intro later
    rw [Wrapped.wrapFrom_next full]
    simp [wrapFrom]

theorem appendGroup_ok {state : EncodeOutputState} {outputSize : Nat} (group : List UInt8)
    (inside : state.lineWidth ≤ 76)
    (room : state.output.length +
      (wrapFrom 76 lineBreak state.lineWidth group).length ≤ outputSize) :
    ∃ next, state.appendGroup outputSize group = .ok next ∧ next.lineWidth ≤ 76 ∧
      next.output = state.output ++ wrapFrom 76 lineBreak state.lineWidth group ∧
      ∀ later, wrapFrom 76 lineBreak state.lineWidth (group ++ later) =
        wrapFrom 76 lineBreak state.lineWidth group ++
          wrapFrom 76 lineBreak next.lineWidth later := by
  induction group generalizing state with
  | nil => exact ⟨state, rfl, inside, by simp [wrapFrom], by simp [wrapFrom]⟩
  | cons character group ih =>
    have short : (wrapFrom 76 lineBreak state.lineWidth [character]).length ≤
        (wrapFrom 76 lineBreak state.lineWidth (character :: group)).length := by
      simp only [Wrapped.length_wrapFrom (by decide : 0 < 76) _ _ inside, List.length_cons,
        List.length_nil]
      omega
    obtain ⟨first, appended, firstInside, firstOutput, firstWraps⟩ :=
      append_ok character inside (by omega : state.output.length +
        (wrapFrom 76 lineBreak state.lineWidth [character]).length ≤ outputSize)
    have rest := firstWraps group
    obtain ⟨next, grouped, nextInside, nextOutput, nextWraps⟩ := ih firstInside (by
      rw [firstOutput, List.length_append, Nat.add_assoc, ← List.length_append, ← rest]
      exact room)
    refine ⟨next, ?_, nextInside, ?_, ?_⟩
    · rw [EncodeOutputState.appendGroup, appended]
      exact grouped
    · rw [nextOutput, firstOutput, rest, List.append_assoc]
    · intro later
      rw [List.cons_append, firstWraps (group ++ later), nextWraps, rest, List.append_assoc]

theorem nextEncodeGroup_one (first : UInt8) :
    nextEncodeGroup first [] = (encodeGroup 1 first.toNat 0 0, []) := rfl

theorem nextEncodeGroup_two (first second : UInt8) :
    nextEncodeGroup first [second] = (encodeGroup 2 first.toNat second.toNat 0, []) := rfl

theorem nextEncodeGroup_three (first second third : UInt8) (rest : List UInt8) :
    nextEncodeGroup first (second :: third :: rest) =
      (encodeGroup 3 first.toNat second.toNat third.toNat, rest) := by
  have many : second :: third :: rest ≠ [] := List.cons_ne_nil _ _
  simp [nextEncodeGroup, inputGroupSize]

/-- A loop round appends a group, and the rounds after it the rest. -/
theorem encodeGroups_cons {state : EncodeOutputState} {outputSize : Nat} {first : UInt8}
    {rest group remaining : List UInt8} (inside : state.lineWidth ≤ 76)
    (next : nextEncodeGroup first rest = (group, remaining))
    (room : state.output.length +
      (wrapFrom 76 lineBreak state.lineWidth (group ++ plainText remaining)).length ≤ outputSize)
    (rounds : ∀ later : EncodeOutputState, later.lineWidth ≤ 76 →
      later.output.length + (wrapFrom 76 lineBreak later.lineWidth (plainText remaining)).length ≤
        outputSize →
      ∃ final, later.encodeGroups outputSize remaining = .ok final ∧ final.output =
        later.output ++ wrapFrom 76 lineBreak later.lineWidth (plainText remaining)) :
    ∃ final, state.encodeGroups outputSize (first :: rest) = .ok final ∧ final.output =
      state.output ++ wrapFrom 76 lineBreak state.lineWidth (group ++ plainText remaining) := by
  have short : (wrapFrom 76 lineBreak state.lineWidth group).length ≤
      (wrapFrom 76 lineBreak state.lineWidth (group ++ plainText remaining)).length := by
    simp only [Wrapped.length_wrapFrom (by decide : 0 < 76) _ _ inside, List.length_append]
    omega
  obtain ⟨later, appended, laterInside, laterOutput, wraps⟩ :=
    appendGroup_ok group inside (by omega : state.output.length +
      (wrapFrom 76 lineBreak state.lineWidth group).length ≤ outputSize)
  have both := wraps (plainText remaining)
  obtain ⟨final, ran, output⟩ := rounds later laterInside (by
    rw [laterOutput, List.length_append, Nat.add_assoc, ← List.length_append, ← both]
    exact room)
  refine ⟨final, ?_, ?_⟩
  · rw [EncodeOutputState.encodeGroups, next]
    simp only [appended]
    exact ran
  · rw [output, laterOutput, both, List.append_assoc]

theorem encodeGroups_ok (bytes : List UInt8) {outputSize : Nat} {state : EncodeOutputState}
    (inside : state.lineWidth ≤ 76)
    (room : state.output.length +
      (wrapFrom 76 lineBreak state.lineWidth (plainText bytes)).length ≤ outputSize) :
    ∃ final, state.encodeGroups outputSize bytes = .ok final ∧ final.output =
      state.output ++ wrapFrom 76 lineBreak state.lineWidth (plainText bytes) := by
  induction bytes using plainText.induct generalizing state with
  | case1 =>
    refine ⟨state, ?_, by simp [plainText, wrapFrom]⟩
    rw [EncodeOutputState.encodeGroups]
  | case2 first =>
    have alone : plainText [first] = encodeGroup 1 first.toNat 0 0 ++ plainText [] := by
      rw [plainText, plainText, List.append_nil]
    rw [alone] at room ⊢
    refine encodeGroups_cons inside (nextEncodeGroup_one first) room fun later _ _ => ?_
    exact ⟨later, by rw [EncodeOutputState.encodeGroups], by simp [plainText, wrapFrom]⟩
  | case3 first second =>
    have alone : plainText [first, second] =
        encodeGroup 2 first.toNat second.toNat 0 ++ plainText [] := by
      rw [plainText, plainText, List.append_nil]
    rw [alone] at room ⊢
    refine encodeGroups_cons inside (nextEncodeGroup_two first second) room fun later _ _ => ?_
    exact ⟨later, by rw [EncodeOutputState.encodeGroups], by simp [plainText, wrapFrom]⟩
  | case4 first second third rest ih =>
    rw [plainText] at room ⊢
    exact encodeGroups_cons inside (nextEncodeGroup_three first second third rest) room
      fun later laterInside laterRoom => ih laterInside laterRoom

/-- The predicted size is that of the wrapped groups. -/
theorem encodedOutputSize_eq {bytes : List UInt8} (fits : bytes.length ≤ 9223372036854775807) :
    encodedOutputSize bytes.length =
      .ok (wrapFrom 76 lineBreak 0 (plainText bytes)).length := by
  have positive : 0 < 76 := by decide
  have bounded : ¬ bytes.length > sizeMax / outputGroupSize * inputGroupSize := by
    simp only [sizeMax, outputGroupSize, inputGroupSize]
    omega
  rw [Wrapped.length_wrapFrom positive 0 _ (by omega), plainText_length, encodedOutputSize,
    if_neg bounded]
  by_cases empty : bytes.length = 0
  · rw [if_pos empty, empty]
  · have small : ¬ (bytes.length + 2) / inputGroupSize * outputGroupSize > sizeMax -
        ((bytes.length + 2) / inputGroupSize * outputGroupSize - 1) / encodedLineWidth - 1 := by
      simp only [sizeMax, outputGroupSize, inputGroupSize, encodedLineWidth]
      omega
    rw [if_neg empty]
    simp only [if_neg small]
    simp only [outputGroupSize, inputGroupSize, encodedLineWidth, Nat.zero_add]

/-- Encoding wraps the groups. -/
theorem encode_eq {bytes : List UInt8} (fits : bytes.length ≤ 9223372036854775807) :
    encode bytes = .ok (wrapFrom 76 lineBreak 0 (plainText bytes)) := by
  rw [encode]
  by_cases empty : bytes.length = 0
  · obtain rfl := List.length_eq_zero_iff.mp empty
    rfl
  · have inside : (⟨[], 0⟩ : EncodeOutputState).lineWidth ≤ 76 := Nat.zero_le _
    have room : (⟨[], 0⟩ : EncodeOutputState).output.length +
        (wrapFrom 76 lineBreak 0 (plainText bytes)).length ≤
          (wrapFrom 76 lineBreak 0 (plainText bytes)).length := by simp
    obtain ⟨final, ran, output⟩ := encodeGroups_ok bytes inside room
    rw [if_neg empty, encodedOutputSize_eq fits]
    simp only [ran, output, List.nil_append]
    simp

end Lines

section RoundTrip

theorem plainText_kept (bytes : List UInt8) :
    ∀ byte ∈ plainText bytes, (!ignoredWhitespace byte) = true := by
  intro byte member
  obtain ⟨body, padCount, split, members, -⟩ := (plainText_groups bytes).split
  rw [split, List.mem_append] at member
  rcases member with inBody | inPadding
  · exact List.all_eq_true.mp alphabet_kept byte (members byte inBody)
  · rw [List.eq_of_mem_replicate inPadding]
    decide

/-- An encoded text has the predicted length, breaks after every 76 characters and nowhere
else, and decodes to the bytes; a text is decoded if and only if it consists, without its
whitespace, of complete groups with padding only at the end. -/
theorem base64_round_trip :
    (∀ input : Buffer, ∃ text, encode input.bytes = .ok text ∧
      encodedOutputSize input.bytes.length = .ok text.length ∧
      (∀ index, text[index]? = some lineBreak ↔ index < text.length ∧ index % 77 = 76) ∧
      text.getLast? ≠ some lineBreak ∧
      decode text = .ok (some ⟨input.bytes, input.bytes.length⟩)) ∧
    ∀ input : Buffer,
      (Groups (input.bytes.filter fun byte => !ignoredWhitespace byte) ∧
        ∃ decoded, decode input.bytes = .ok (some decoded)) ∨
      (¬ Groups (input.bytes.filter fun byte => !ignoredWhitespace byte) ∧
        decode input.bytes = .ok none) := by
  constructor
  · intro input
    have kept := plainText_kept input.bytes
    have absent : lineBreak ∉ plainText input.bytes := by
      intro member
      have notIgnored := kept lineBreak member
      rw [lineBreak_ignored] at notIgnored
      cases notIgnored
    have positive : 0 < 76 := by decide
    have dropped : (!ignoredWhitespace lineBreak) = false := by rw [lineBreak_ignored]; rfl
    refine ⟨_, encode_eq input.size_le, encodedOutputSize_eq input.size_le, ?_, ?_, ?_⟩
    · intro index
      have breaks := Wrapped.wrapFrom_separator_iff positive 0 (Nat.zero_le 76) absent index
      rwa [Nat.add_zero] at breaks
    · rw [Wrapped.getLast?_wrapFrom]
      intro last
      exact absent (List.mem_of_getLast? last)
    · have size := input.size_le
      have short : ¬ (wrapFrom 76 lineBreak 0 (plainText input.bytes)).length = sizeMax := by
        rw [Wrapped.length_wrapFrom positive 0 _ (Nat.zero_le 76), plainText_length, sizeMax]
        omega
      have unwrapped := @Wrapped.filter_wrapFrom _ 76 lineBreak
        (fun byte => !ignoredWhitespace byte) dropped 0 _ kept
      rw [decode, if_neg short, unwrapped, decodeNormalized_plainText size]
  · intro input
    have size := input.size_le
    have shorter := List.length_filter_le (fun byte => !ignoredWhitespace byte) input.bytes
    have small : ¬ input.bytes.length = sizeMax := by
      rw [sizeMax]
      omega
    have accepts := decodeNormalized_accepts_iff (by omega :
      (input.bytes.filter fun byte => !ignoredWhitespace byte).length ≤ 18446744073709551615)
    rw [decode, if_neg small]
    by_cases groups : Groups (input.bytes.filter fun byte => !ignoredWhitespace byte)
    · exact .inl ⟨groups, accepts.mpr groups⟩
    · refine .inr ⟨groups, ?_⟩
      obtain ⟨result, answered⟩ := decodeNormalized_ok (by omega :
        (input.bytes.filter fun byte => !ignoredWhitespace byte).length ≤ 18446744073709551615)
      cases result with
      | none => exact answered
      | some decoded => exact absurd (accepts.mp ⟨decoded, answered⟩) groups

end RoundTrip

end MyLite.Base64
