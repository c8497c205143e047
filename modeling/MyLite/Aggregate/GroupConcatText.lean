import MyLite.Aggregate.GroupConcat
import MyLite.Library.Utf8
import Mathlib.Data.List.Basic

/-! The text of GROUP_CONCAT: a prefix of the joined texts, within the limit, that ends with a
whole character where the texts are UTF-8. -/
namespace MyLite.Aggregate

/-! Whole characters. -/

theorem utf8SequenceLength_leads {first : UInt8} {following : Nat}
    (leads : Utf8.Leads first following) : utf8SequenceLength first = following + 1 := by
  simp only [utf8SequenceLength]
  cases leads with
  | ascii small => rw [if_pos small]
  | two low high =>
    have large : ¬first < 0x80 := by
      simp only [UInt8.lt_iff_toNat_lt, UInt8.le_iff_toNat_le, UInt8.toNat_ofNat] at *
      omega
    rw [if_neg large, if_pos ⟨low, high⟩]
  | three low high =>
    have large : ¬first < 0x80 ∧ ¬(0xc2 ≤ first ∧ first ≤ 0xdf) := by
      simp only [UInt8.lt_iff_toNat_lt, UInt8.le_iff_toNat_le, UInt8.toNat_ofNat] at *
      omega
    rw [if_neg large.1, if_neg large.2, if_pos ⟨low, high⟩]
  | four low high =>
    have large : ¬first < 0x80 ∧ ¬(0xc2 ≤ first ∧ first ≤ 0xdf) ∧
        ¬(0xe0 ≤ first ∧ first ≤ 0xef) := by
      simp only [UInt8.lt_iff_toNat_lt, UInt8.le_iff_toNat_le, UInt8.toNat_ofNat] at *
      omega
    rw [if_neg large.1, if_neg large.2.1, if_neg large.2.2, if_pos ⟨low, high⟩]

theorem groupConcatValidUtf8Prefix_le (bytes : List UInt8) :
    groupConcatValidUtf8Prefix bytes ≤ bytes.length := by
  fun_induction groupConcatValidUtf8Prefix bytes with
  | case1 => exact Nat.le_refl _
  | case2 => exact Nat.zero_le _
  | case3 => exact Nat.zero_le _
  | case4 => exact Nat.zero_le _
  | case5 first rest sequenceLength positive fits continued ih =>
    rw [List.length_drop] at ih
    rw [List.length_cons]
    omega

/-- A whole character is passed over. -/
theorem groupConcatValidUtf8Prefix_char (char : Char) (rest : List UInt8) :
    groupConcatValidUtf8Prefix (String.utf8EncodeChar char ++ rest) =
      (String.utf8EncodeChar char).length + groupConcatValidUtf8Prefix rest := by
  obtain ⟨first, following, spelled, leads, continued⟩ := Utf8.utf8EncodeChar_shape char
  have sequence := utf8SequenceLength_leads leads
  have wellFormed : (following.any fun byte => byte &&& 0xc0 ≠ 0x80) = false := by
    rw [List.any_eq_false]
    intro byte mem
    have continuation : byte &&& 0xc0 = 0x80 := continued byte mem
    simp [continuation]
  rw [spelled, List.cons_append, groupConcatValidUtf8Prefix]
  simp only [sequence, Nat.add_sub_cancel, List.take_left, List.drop_left, wellFormed]
  simp

/-- A character that is not whole ends the prefix. -/
theorem groupConcatValidUtf8Prefix_partial (char : Char) {count : Nat}
    (part : count < (String.utf8EncodeChar char).length) :
    groupConcatValidUtf8Prefix ((String.utf8EncodeChar char).take count) = 0 := by
  obtain ⟨first, following, spelled, leads, -⟩ := Utf8.utf8EncodeChar_shape char
  have sequence := utf8SequenceLength_leads leads
  rw [spelled, List.length_cons] at part
  rw [spelled]
  cases count with
  | zero => rw [List.take_zero, groupConcatValidUtf8Prefix]
  | succ count =>
    have short : following.length + 1 > (following.take count).length + 1 := by
      rw [List.length_take]
      omega
    rw [List.take_succ_cons, groupConcatValidUtf8Prefix]
    simp only [sequence, if_pos short, Nat.succ_ne_zero, if_false]

/-- The prefix of a cut text is the text of its first characters. -/
theorem groupConcatValidUtf8Prefix_encode (chars : List Char) (count : Nat) :
    ∃ kept dropped, chars = kept ++ dropped ∧
      groupConcatValidUtf8Prefix ((Utf8.encode chars).take count) = (Utf8.encode kept).length := by
  induction chars generalizing count with
  | nil =>
    refine ⟨[], [], rfl, ?_⟩
    have empty : (Utf8.encode []).take count = [] := List.take_nil
    rw [empty, groupConcatValidUtf8Prefix]
    rfl
  | cons char chars ih =>
    rw [Utf8.encode_cons]
    by_cases part : count < (String.utf8EncodeChar char).length
    · refine ⟨[], char :: chars, rfl, ?_⟩
      rw [List.take_append_of_le_length (Nat.le_of_lt part),
        groupConcatValidUtf8Prefix_partial char part]
      rfl
    · obtain ⟨kept, dropped, rfl, length⟩ := ih (count - (String.utf8EncodeChar char).length)
      refine ⟨char :: kept, dropped, rfl, ?_⟩
      rw [List.take_append, List.take_of_length_le (Nat.le_of_not_lt part),
        groupConcatValidUtf8Prefix_char, length, Utf8.encode_cons, List.length_append]

/-! One append. -/

/-- What an append took of its request, and what it dropped. -/
structure Appended (bytes request : List UInt8) (limit : Nat) (result : List UInt8 × Bool)
    (taken dropped : List UInt8) : Prop where
  grows : result.1 = bytes ++ taken
  parts : request = taken ++ dropped
  complete : result.2 = true ↔ dropped = []
  short : bytes.length ≤ limit → result.1.length ≤ limit
  whole : Utf8.Valid request → Utf8.Valid taken ∧ Utf8.Valid dropped

theorem groupConcatAppendBytes_appended (bytes request : List UInt8) (limit : Nat) :
    ∃ taken dropped,
      Appended bytes request limit (groupConcatAppendBytes bytes request limit) taken dropped := by
  rw [groupConcatAppendBytes]
  split
  · rename_i empty
    rw [List.eq_nil_of_length_eq_zero empty]
    exact ⟨[], [], (List.append_nil _).symm, rfl, iff_of_true rfl rfl, id,
      fun valid => ⟨valid, valid⟩⟩
  · rename_i nonempty
    split
    · refine ⟨[], request, (List.append_nil _).symm, rfl, ?_, id,
        fun valid => ⟨Utf8.valid_nil, valid⟩⟩
      simp only [Bool.false_eq_true, false_iff]
      rintro rfl
      exact nonempty rfl
    · rename_i space
      have counted : (if request.length ≤ limit - bytes.length then request.length
          else limit - bytes.length) = min request.length (limit - bytes.length) := by
        split <;> omega
      dsimp only
      rw [counted]
      have bound := groupConcatValidUtf8Prefix_le
        (request.take (min request.length (limit - bytes.length)))
      rw [List.length_take] at bound
      generalize copied : groupConcatValidUtf8Prefix
        (request.take (min request.length (limit - bytes.length))) = copyCount at bound
      refine ⟨request.take copyCount, request.drop copyCount, rfl,
        (List.take_append_drop _ _).symm, ?_, ?_, ?_⟩
      · rw [decide_eq_true_eq, List.drop_eq_nil_iff]
        omega
      · intro within
        rw [List.length_append, List.length_take]
        omega
      · rintro ⟨chars, rfl⟩
        obtain ⟨kept, dropped, rfl, length⟩ := groupConcatValidUtf8Prefix_encode chars
          (min (Utf8.encode chars).length (limit - bytes.length))
        rw [copied] at length
        rw [length, Utf8.encode_append, List.take_left, List.drop_left]
        exact ⟨⟨kept, rfl⟩, ⟨dropped, rfl⟩⟩

/-! Several appends. -/

/-- The bytes begin the joined text within the limit, the rest of it was dropped, and neither part
has a piece of a character where the inputs are UTF-8. -/
structure Cut (limit : Nat) (inputs : Prop) (joined bytes dropped : List UInt8)
    (truncated : Bool) : Prop where
  parts : joined = bytes ++ dropped
  flag : truncated = true ↔ dropped ≠ []
  short : bytes.length ≤ limit
  whole : inputs → Utf8.Valid bytes ∧ Utf8.Valid dropped

section Cut

variable {limit : Nat} {inputs : Prop} {joined bytes dropped request : List UInt8}

theorem cut_nil (limit : Nat) (inputs : Prop) : Cut limit inputs [] [] [] false :=
  ⟨rfl, by simp, Nat.zero_le _, fun _ => ⟨Utf8.valid_nil, Utf8.valid_nil⟩⟩

theorem Cut.mono {truncated : Bool} {stronger : Prop} (implies : stronger → inputs)
    (cut : Cut limit inputs joined bytes dropped truncated) :
    Cut limit stronger joined bytes dropped truncated :=
  ⟨cut.parts, cut.flag, cut.short, fun valid => cut.whole (implies valid)⟩

theorem Cut.append (cut : Cut limit inputs joined bytes [] false)
    (valid : inputs → Utf8.Valid request) :
    ∃ dropped, Cut limit inputs (joined ++ request) (groupConcatAppendBytes bytes request limit).1
      dropped (!(groupConcatAppendBytes bytes request limit).2) := by
  obtain ⟨taken, dropped, appended⟩ := groupConcatAppendBytes_appended bytes request limit
  refine ⟨dropped, ?_, ?_, appended.short cut.short, ?_⟩
  · have parts := cut.parts
    rw [List.append_nil] at parts
    rw [appended.grows, parts, appended.parts, List.append_assoc]
  · rw [Bool.not_eq_true', Bool.eq_false_iff, ne_eq, not_iff_not]
    exact appended.complete
  · intro holds
    obtain ⟨takenValid, droppedValid⟩ := appended.whole (valid holds)
    rw [appended.grows]
    exact ⟨(cut.whole holds).1.append takenValid, droppedValid⟩

/-- What comes after a cut is dropped. -/
theorem Cut.skip (cut : Cut limit inputs joined bytes dropped true)
    (valid : inputs → Utf8.Valid request) :
    Cut limit inputs (joined ++ request) bytes (dropped ++ request) true := by
  refine ⟨by rw [cut.parts, List.append_assoc], ?_, cut.short, ?_⟩
  · have some := cut.flag.1 rfl
    simp [some]
  · intro holds
    obtain ⟨bytesValid, droppedValid⟩ := cut.whole holds
    exact ⟨bytesValid, droppedValid.append (valid holds)⟩

/-- Nothing is dropped without the flag. -/
theorem Cut.dropped_nil (cut : Cut limit inputs joined bytes dropped false) : dropped = [] := by
  simpa using cut.flag

end Cut

end MyLite.Aggregate
