import MyLite.Library.Checked
import MyLite.Library.Scanning
import MyLite.Library.Utf8
import MyLite.Sql.StringQuoting

/-! The comments and the names of SHOW CREATE, and whether they are read back as they were
stored. -/
namespace MyLite.Sql

/-- A byte of a comment in `append_mysql_quoted_comment_text`, which has no case for a tab. -/
def mysqlQuotedCommentByte (byte : UInt8) : List UInt8 :=
  if byte = singleQuote then [singleQuote, singleQuote]
  else if byte = backslash then [backslash, backslash]
  else if byte = 0x0a then [backslash, ascii 'n']
  else if byte = 0x0d then [backslash, ascii 'r']
  else [byte]

/-- The loop of `append_mysql_quoted_comment_text`: a backslash before `0` is copied. -/
def mysqlQuotedCommentBody : List UInt8 → List UInt8
  | [] => []
  | [byte] => mysqlQuotedCommentByte byte
  | byte :: next :: rest =>
    if byte = backslash ∧ next = ascii '0' then
      backslash :: ascii '0' :: mysqlQuotedCommentBody rest
    else mysqlQuotedCommentByte byte ++ mysqlQuotedCommentBody (next :: rest)

/-- `append_mysql_quoted_comment_text`. -/
def mysqlQuotedCommentText (text : List UInt8) : List UInt8 :=
  singleQuote :: mysqlQuotedCommentBody text ++ [singleQuote]

/-- `normalize_mysql_comment_text`: a character of four bytes is stored as a question mark. -/
def normalizeMysqlCommentText : List UInt8 → List UInt8
  | [] => []
  | byte :: rest =>
    if byte = 0 then backslash :: ascii '0' :: normalizeMysqlCommentText rest
    else if 0xf0 ≤ byte ∧ byte ≤ 0xf4 ∧ 3 ≤ rest.length then
      ascii '?' :: normalizeMysqlCommentText (rest.drop 3)
    else byte :: normalizeMysqlCommentText rest
termination_by text => text.length
decreasing_by all_goals simp only [List.length_cons, List.length_drop]; omega

variable {keywordLookup : List UInt8 → Option Keyword} {modes : SqlModes}
  {before rest : List UInt8}

def commentPiece (byte : UInt8) : Quoted.Piece UInt8 :=
  if byte = singleQuote then .doubled
  else if byte = backslash then .escaped backslash
  else if byte = 0x0a then .escaped (ascii 'n')
  else if byte = 0x0d then .escaped (ascii 'r')
  else .plain byte

/-- What `append_mysql_quoted_comment_text` writes where escapes are read. -/
def commentPieces : List UInt8 → List (Quoted.Piece UInt8)
  | [] => []
  | [byte] => [commentPiece byte]
  | byte :: next :: rest =>
    if byte = backslash ∧ next = ascii '0' then .escaped (ascii '0') :: commentPieces rest
    else commentPiece byte :: commentPieces (next :: rest)

theorem commentPiece_spelling (byte : UInt8) :
    (commentPiece byte).spelling (sqlQuoting singleQuote true) = mysqlQuotedCommentByte byte := by
  unfold commentPiece mysqlQuotedCommentByte
  split_ifs <;> simp_all [Quoted.Piece.spelling, sqlQuoting]

theorem commentPiece_valid (byte : UInt8) :
    (commentPiece byte).Valid (sqlQuoting singleQuote true) := by
  unfold commentPiece
  split_ifs with notQuote notBackslash
  · trivial
  · exact escaped_valid _
  · exact escaped_valid _
  · exact escaped_valid _
  · exact ⟨notQuote, fun same => notBackslash (sqlQuoting_escape.1 same).2⟩

theorem commentPiece_value (nulMessage : String) (byte : UInt8) :
    pieceValue (appendDecodedEscape nulMessage false) singleQuote (commentPiece byte) =
      .ok [byte] := by
  unfold commentPiece
  split_ifs <;> subst_vars <;> rfl

theorem commentPiece_ne_nul (byte : UInt8) : commentPiece byte ≠ .escaped (ascii '0') := by
  unfold commentPiece
  split_ifs <;> simp [ascii, backslash]

theorem spell_commentPieces (text : List UInt8) :
    Quoted.spell (sqlQuoting singleQuote true) (commentPieces text) =
      mysqlQuotedCommentBody text := by
  fun_induction mysqlQuotedCommentBody text with
  | case1 => rfl
  | case2 byte => simp [commentPieces, commentPiece_spelling]
  | case3 byte next rest nul ih =>
    rw [commentPieces, if_pos nul, Quoted.spell_cons, ih]
    rfl
  | case4 byte next rest other ih =>
    rw [commentPieces, if_neg other, Quoted.spell_cons, ih, commentPiece_spelling]

theorem commentPieces_valid (text : List UInt8) :
    ∀ piece ∈ commentPieces text, piece.Valid (sqlQuoting singleQuote true) := by
  fun_induction commentPieces text with
  | case1 => simp
  | case2 byte => simpa using commentPiece_valid byte
  | case3 byte next rest nul ih => exact List.forall_mem_cons.2 ⟨escaped_valid _, ih⟩
  | case4 byte next rest other ih => exact List.forall_mem_cons.2 ⟨commentPiece_valid byte, ih⟩

theorem commentText_quoted (text : List UInt8) :
    QuotedText singleQuote true (mysqlQuotedCommentText text) (commentPieces text) := by
  refine ⟨?_, commentPieces_valid text⟩
  rw [mysqlQuotedCommentText, spell_commentPieces]

theorem escapedNul_mem_commentPieces (text : List UInt8) :
    .escaped (ascii '0') ∈ commentPieces text ↔ [backslash, ascii '0'] <:+: text := by
  fun_induction commentPieces text with
  | case1 => simp
  | case2 byte =>
    constructor
    · intro member
      exact absurd (List.mem_singleton.1 member).symm (commentPiece_ne_nul byte)
    · intro infixed
      exact absurd infixed.length_le (by simp)
  | case3 byte next rest nul ih =>
    obtain ⟨rfl, rfl⟩ := nul
    simp only [List.mem_cons, true_or, true_iff]
    exact ⟨[], rest, rfl⟩
  | case4 byte next rest other ih =>
    have shifted : [backslash, ascii '0'] <:+: byte :: next :: rest ↔
        [backslash, ascii '0'] <+: byte :: next :: rest ∨
          [backslash, ascii '0'] <:+: next :: rest := List.infix_cons_iff
    rw [List.mem_cons, ih, shifted]
    constructor
    · rintro (same | later)
      · exact absurd same.symm (commentPiece_ne_nul byte)
      · exact .inr later
    · rintro (leading | later)
      · obtain ⟨here, following⟩ := List.cons_prefix_cons.1 leading
        exact absurd ⟨here.symm, (List.cons_prefix_cons.1 following).1.symm⟩ other
      · exact .inr later

theorem piecesValue_commentPieces (nulMessage : String) {text : List UInt8}
    (noNul : ¬[backslash, ascii '0'] <:+: text) :
    piecesValue (appendDecodedEscape nulMessage false) singleQuote (commentPieces text) =
      .ok text := by
  rw [← escapedNul_mem_commentPieces] at noNul
  fun_induction commentPieces text with
  | case1 => rfl
  | case2 byte => exact piecesValue_cons_ok.2 ⟨_, _, commentPiece_value _ _, rfl, rfl⟩
  | case3 byte next rest nul ih => exact absurd List.mem_cons_self noNul
  | case4 byte next rest other ih =>
    have following := ih fun member => noNul (List.mem_cons_of_mem _ member)
    exact piecesValue_cons_ok.2 ⟨_, _, commentPiece_value _ _, following, rfl⟩

/-! Where no escapes are read. -/

/-- A byte of a comment that is spelled without a backslash. -/
def isCommentPlain (byte : UInt8) : Bool :=
  byte ≠ backslash && byte ≠ 0x0a && byte ≠ 0x0d

/-- A comment whose only backslashes are those in front of `0`. -/
def CommentPlain (text : List UInt8) : Prop :=
  (∀ byte ∈ text, byte ≠ 0x0a ∧ byte ≠ 0x0d) ∧
    ∀ front back, text = front ++ backslash :: back → back.head? = some (ascii '0')

theorem mysqlQuotedCommentByte_count (byte : UInt8) :
    (mysqlQuotedCommentByte byte).count backslash =
      [byte].count backslash + (if isCommentPlain byte then 0 else 1) := by
  have all := byte_forall (fun byte => (mysqlQuotedCommentByte byte).count backslash =
    [byte].count backslash + (if isCommentPlain byte then 0 else 1)) (by decide +kernel) byte
  simpa using all

theorem count_le_commentBody (text : List UInt8) :
    text.count backslash ≤ (mysqlQuotedCommentBody text).count backslash := by
  fun_induction mysqlQuotedCommentBody text with
  | case1 => rfl
  | case2 byte =>
    rw [mysqlQuotedCommentByte_count]
    exact Nat.le_add_right _ _
  | case3 byte next rest nul ih =>
    obtain ⟨rfl, rfl⟩ := nul
    simpa [List.count_cons] using ih
  | case4 byte next rest other ih =>
    rw [List.count_append, mysqlQuotedCommentByte_count, ← List.singleton_append,
      List.count_append]
    omega

theorem commentPlain_cons {byte : UInt8} {rest : List UInt8} :
    CommentPlain (byte :: rest) ↔ (byte ≠ 0x0a ∧ byte ≠ 0x0d) ∧
      (byte = backslash → rest.head? = some (ascii '0')) ∧ CommentPlain rest := by
  constructor
  · rintro ⟨lines, backslashes⟩
    obtain ⟨first, others⟩ := List.forall_mem_cons.1 lines
    refine ⟨first, ?_, others, ?_⟩
    · rintro rfl
      exact backslashes [] rest rfl
    · rintro front back rfl
      exact backslashes (byte :: front) back rfl
  · rintro ⟨first, here, others, later⟩
    refine ⟨List.forall_mem_cons.2 ⟨first, others⟩, fun front back split => ?_⟩
    cases front with
    | nil =>
      obtain ⟨same, rfl⟩ := List.cons.inj split
      exact here same
    | cons head front =>
      obtain ⟨-, same⟩ := List.cons.inj split
      exact later front back same

theorem commentPlain_cons_of_plain {byte : UInt8} {rest : List UInt8}
    (plain : isCommentPlain byte = true) (others : CommentPlain rest) :
    CommentPlain (byte :: rest) := by
  simp only [isCommentPlain, Bool.and_eq_true, decide_eq_true_eq] at plain
  exact commentPlain_cons.2 ⟨⟨plain.1.2, plain.2⟩, fun same => absurd same plain.1.1, others⟩

theorem commentPlain_of_count {text : List UInt8}
    (same : text.count backslash = (mysqlQuotedCommentBody text).count backslash) :
    CommentPlain text := by
  fun_induction mysqlQuotedCommentBody text with
  | case1 => exact ⟨by simp, by simp⟩
  | case2 byte =>
    rw [mysqlQuotedCommentByte_count] at same
    refine commentPlain_cons_of_plain ?_ ⟨by simp, by simp⟩
    by_contra escaped
    rw [if_neg escaped] at same
    omega
  | case3 byte next rest nul ih =>
    obtain ⟨rfl, rfl⟩ := nul
    have others := ih (by simpa [List.count_cons] using same)
    have following := commentPlain_cons_of_plain (by decide : isCommentPlain (ascii '0') = true)
      others
    exact commentPlain_cons.2 ⟨by decide, fun _ => rfl, following⟩
  | case4 byte next rest other ih =>
    have later := count_le_commentBody (next :: rest)
    rw [List.count_append, mysqlQuotedCommentByte_count, ← List.singleton_append,
      List.count_append] at same
    refine commentPlain_cons_of_plain ?_ (ih (by omega))
    by_contra escaped
    rw [if_neg escaped] at same
    omega

/-- A quote doubled, any other byte alone. -/
def quoteDoubled (byte : UInt8) : List UInt8 :=
  if byte = singleQuote then [singleQuote, singleQuote] else [byte]

theorem mysqlQuotedCommentByte_plain {byte : UInt8} (plain : isCommentPlain byte = true) :
    mysqlQuotedCommentByte byte = quoteDoubled byte := by
  simp only [isCommentPlain, Bool.and_eq_true, decide_eq_true_eq] at plain
  rw [mysqlQuotedCommentByte, quoteDoubled, if_neg plain.1.1, if_neg plain.1.2, if_neg plain.2]

theorem commentBody_of_plain {text : List UInt8} (plain : CommentPlain text) :
    mysqlQuotedCommentBody text = text.flatMap quoteDoubled := by
  fun_induction mysqlQuotedCommentBody text with
  | case1 => rfl
  | case2 byte =>
    obtain ⟨first, backslashes, -⟩ := commentPlain_cons.1 plain
    have notBackslash : byte ≠ backslash := fun same => by simpa using backslashes same
    rw [mysqlQuotedCommentByte_plain (by simp [isCommentPlain, first, notBackslash])]
    simp
  | case3 byte next rest nul ih =>
    obtain ⟨rfl, rfl⟩ := nul
    have others := (commentPlain_cons.1 (commentPlain_cons.1 plain).2.2).2.2
    rw [ih others]
    rfl
  | case4 byte next rest other ih =>
    obtain ⟨first, backslashes, others⟩ := commentPlain_cons.1 plain
    have notBackslash : byte ≠ backslash :=
      fun same => other ⟨same, by simpa using backslashes same⟩
    rw [mysqlQuotedCommentByte_plain (by simp [isCommentPlain, first, notBackslash]), ih others]
    rfl

/-- A comment in SHOW CREATE TABLE is read back where backslash escapes are exactly when it has
no backslash in front of `0`, and elsewhere exactly when it has no others and no line ends. -/
theorem comment_readsBack_iff (keywordLookup : List UInt8 → Option Keyword) (modes : SqlModes)
    (nulMessage : String) (before rest comment : List UInt8)
    (closed : rest.head? ≠ some singleQuote) :
    ReadsBack keywordLookup modes (decodeTableOptionStringLiteral modes nulMessage) before
        (mysqlQuotedCommentText comment) rest comment ↔
      (if modes.noBackslashEscapes then CommentPlain comment
      else ¬[backslash, ascii '0'] <:+: comment) := by
  have decodes := tableOption_decodesPieces modes nulMessage
  cases escapes : modes.noBackslashEscapes with
  | true =>
    constructor
    · intro reads
      exact commentPlain_of_count (readsBack_count escapes decodes reads)
    · intro plain
      rw [mysqlQuotedCommentText, commentBody_of_plain plain]
      apply readsBack_bytes (fun byte => if byte = singleQuote then .doubled else .plain byte)
        decodes closed
      intro byte _
      rw [escapes, quoteDoubled]
      split
      · rename_i quote
        rw [quote]
        exact ⟨rfl, trivial, rfl⟩
      · rename_i other
        exact ⟨rfl, ⟨other, by simp [sqlQuoting]⟩, rfl⟩
  | false =>
    rw [Sql.readsBack_iff decodes (by rw [escapes]; exact commentText_quoted comment) closed]
    constructor
    · intro taken nul
      obtain ⟨error, refused⟩ :=
        (@piecesValue_error nulMessage false singleQuote (commentPieces comment)).2
          ⟨rfl, (escapedNul_mem_commentPieces comment).2 nul⟩
      rw [taken] at refused
      cases refused
    · intro noNul
      exact piecesValue_commentPieces nulMessage noNul

/-! Stored comments. -/

/-- A text without the bytes that `normalize_mysql_comment_text` exchanges. -/
def Normalized (text : List UInt8) : Prop :=
  ∀ byte ∈ text, byte ≠ 0 ∧ ¬(0xf0 ≤ byte ∧ byte ≤ 0xf4)

theorem normalize_of_normalized {text : List UInt8} (normalized : Normalized text) :
    normalizeMysqlCommentText text = text := by
  induction text with
  | nil => rw [normalizeMysqlCommentText]
  | cons byte rest ih =>
    obtain ⟨⟨nul, wide⟩, others⟩ := List.forall_mem_cons.1 normalized
    have narrow : ¬(0xf0 ≤ byte ∧ byte ≤ 0xf4 ∧ 3 ≤ rest.length) :=
      fun both => wide ⟨both.1, both.2.1⟩
    rw [normalizeMysqlCommentText, if_neg nul, if_neg narrow, ih others]

def isWideLead (byte : UInt8) : Bool :=
  0xf0 ≤ byte && byte ≤ 0xf4

theorem continuation_narrow {byte : UInt8} (continuation : Utf8.Continuation byte) :
    isWideLead byte = false := by
  have all := byte_forall (fun byte => byte &&& 0xc0 ≠ 0x80 || !isWideLead byte)
    (by decide +kernel) byte
  rw [Utf8.Continuation] at continuation
  simpa [continuation] using all

/-- Bytes that begin no character of four bytes. -/
theorem normalized_append {front rest : List UInt8}
    (narrow : ∀ byte ∈ front, isWideLead byte = false)
    (normalized : Normalized (normalizeMysqlCommentText rest)) :
    Normalized (normalizeMysqlCommentText (front ++ rest)) := by
  induction front with
  | nil => exact normalized
  | cons byte front ih =>
    obtain ⟨first, others⟩ := List.forall_mem_cons.1 narrow
    have wide : ¬(0xf0 ≤ byte ∧ byte ≤ 0xf4) := by simpa [isWideLead] using first
    have later := ih others
    rw [List.cons_append, normalizeMysqlCommentText]
    split
    · exact List.forall_mem_cons.2 ⟨by decide, List.forall_mem_cons.2 ⟨by decide, later⟩⟩
    · rename_i nul
      rw [if_neg fun both => wide ⟨both.1, both.2.1⟩]
      exact List.forall_mem_cons.2 ⟨⟨nul, wide⟩, later⟩

theorem normalized_normalize {text : List UInt8} (valid : Utf8.Valid text) :
    Normalized (normalizeMysqlCommentText text) := by
  obtain ⟨chars, rfl⟩ := valid
  induction chars with
  | nil =>
    rw [Utf8.encode, List.flatMap_nil, normalizeMysqlCommentText]
    exact List.forall_mem_nil _
  | cons char chars ih =>
    obtain ⟨first, following, encoded, leads, continuations⟩ := Utf8.utf8EncodeChar_shape char
    rw [Utf8.encode_cons, encoded]
    by_cases wide : isWideLead first = true
    · have count : following.length = 3 := by
        simp only [isWideLead, Bool.and_eq_true, decide_eq_true_eq] at wide
        generalize following.length = count at leads
        cases leads with
        | four => rfl
        | ascii small => exact absurd (UInt8.lt_of_le_of_lt wide.1 small) (by decide)
        | two _ high => exact absurd (UInt8.le_trans wide.1 high) (by decide)
        | three _ high => exact absurd (UInt8.le_trans wide.1 high) (by decide)
      have lead : first ≠ 0 ∧ (0xf0 ≤ first ∧ first ≤ 0xf4) := by
        simp only [isWideLead, Bool.and_eq_true, decide_eq_true_eq] at wide
        refine ⟨?_, wide⟩
        rintro rfl
        exact absurd wide.1 (by decide)
      rw [List.cons_append, normalizeMysqlCommentText, if_neg lead.1,
        if_pos ⟨lead.2.1, lead.2.2, by simp [count]⟩, ← count, List.drop_left]
      exact List.forall_mem_cons.2 ⟨by decide, ih⟩
    · refine normalized_append ?_ ih
      refine List.forall_mem_cons.2 ⟨Bool.eq_false_iff.2 wide, fun byte member => ?_⟩
      exact continuation_narrow (continuations byte member)

theorem normalized_commentBody {text : List UInt8} (normalized : Normalized text) :
    Normalized (mysqlQuotedCommentBody text) := by
  have each {byte : UInt8} (alone : byte ≠ 0 ∧ ¬(0xf0 ≤ byte ∧ byte ≤ 0xf4)) :
      Normalized (mysqlQuotedCommentByte byte) := by
    unfold mysqlQuotedCommentByte
    split_ifs
    · exact List.forall_mem_cons.2 ⟨by decide, List.forall_mem_singleton.2 (by decide)⟩
    · exact List.forall_mem_cons.2 ⟨by decide, List.forall_mem_singleton.2 (by decide)⟩
    · exact List.forall_mem_cons.2 ⟨by decide, List.forall_mem_singleton.2 (by decide)⟩
    · exact List.forall_mem_cons.2 ⟨by decide, List.forall_mem_singleton.2 (by decide)⟩
    · exact List.forall_mem_singleton.2 alone
  fun_induction mysqlQuotedCommentBody text with
  | case1 => exact normalized
  | case2 byte => exact each (normalized byte (List.mem_singleton_self byte))
  | case3 byte next rest nul ih =>
    obtain ⟨-, following⟩ := List.forall_mem_cons.1 normalized
    obtain ⟨-, others⟩ := List.forall_mem_cons.1 following
    exact List.forall_mem_cons.2 ⟨by decide, List.forall_mem_cons.2 ⟨by decide, ih others⟩⟩
  | case4 byte next rest other ih =>
    obtain ⟨first, others⟩ := List.forall_mem_cons.1 normalized
    exact List.forall_mem_append.2 ⟨each first, ih others⟩

/-- What is read from a shown comment needs no more normalizing. -/
theorem shownComment_eq {nulMessage : String} {stored shown : List UInt8}
    (normalized : Normalized stored) (closed : rest.head? ≠ some singleQuote)
    (reads : ReadsBack keywordLookup modes (decodeTableOptionStringLiteral modes nulMessage)
      before (mysqlQuotedCommentText stored) rest shown)
    (again : normalizeMysqlCommentText shown = stored) : shown = stored := by
  have decodes := tableOption_decodesPieces modes nulMessage
  cases escapes : modes.noBackslashEscapes with
  | true =>
    obtain ⟨pieces, valid, body, value⟩ := pieces_of_readsBack escapes decodes reads
    have bytes := piecesValue_mem valid value
    rw [← body] at bytes
    rw [← again, normalize_of_normalized]
    exact fun byte member => normalized_commentBody normalized byte (bytes byte member)
  | false =>
    rw [readsBack_iff decodes (by rw [escapes]; exact commentText_quoted stored) closed] at reads
    by_cases nul : [backslash, ascii '0'] <:+: stored
    · obtain ⟨error, refused⟩ :=
        (@piecesValue_error nulMessage false singleQuote (commentPieces stored)).2
          ⟨rfl, (escapedNul_mem_commentPieces stored).2 nul⟩
      rw [reads] at refused
      cases refused
    · rw [piecesValue_commentPieces nulMessage nul] at reads
      exact (Except.ok.inj reads).symm

/-- A stored comment, shown and read again, is stored as it was under the same condition. -/
theorem storedComment_readsBack_iff (keywordLookup : List UInt8 → Option Keyword)
    (modes : SqlModes) (nulMessage : String) (before rest decoded : List UInt8)
    (valid : Utf8.Valid decoded) (closed : rest.head? ≠ some singleQuote) :
    ReadsBack keywordLookup modes
        (fun literal =>
          (decodeTableOptionStringLiteral modes nulMessage literal).map
            normalizeMysqlCommentText)
        before (mysqlQuotedCommentText (normalizeMysqlCommentText decoded)) rest
        (normalizeMysqlCommentText decoded) ↔
      (if modes.noBackslashEscapes then CommentPlain (normalizeMysqlCommentText decoded)
      else ¬[backslash, ascii '0'] <:+: normalizeMysqlCommentText decoded) := by
  have normalized := normalized_normalize valid
  generalize normalizeMysqlCommentText decoded = stored at normalized ⊢
  rw [← comment_readsBack_iff keywordLookup modes nulMessage before rest stored closed]
  constructor
  · rintro ⟨token, literal, lexed, made, value⟩
    obtain ⟨shown, read, again⟩ := Fallible.map_ok value
    have same := shownComment_eq normalized closed ⟨token, literal, lexed, made, read⟩ again
    rw [same] at read
    exact ⟨token, literal, lexed, made, read⟩
  · rintro ⟨token, literal, lexed, made, read⟩
    refine ⟨token, literal, lexed, made, ?_⟩
    dsimp only
    rw [read]
    exact congrArg Except.ok (normalize_of_normalized normalized)

theorem storedComment_readsBack_line :
    ReadsBack (fun _ => none) ⟨false, false, false, false⟩
      (fun literal =>
        (decodeTableOptionStringLiteral ⟨false, false, false, false⟩ "" literal).map
          normalizeMysqlCommentText)
      [] (mysqlQuotedCommentText (normalizeMysqlCommentText [0x61, 0x0a])) [0x2c]
      (normalizeMysqlCommentText [0x61, 0x0a]) :=
  (storedComment_readsBack_iff (fun _ => none) ⟨false, false, false, false⟩ "" [] [0x2c]
    [0x61, 0x0a] ⟨['a', Char.ofNat 10], by decide⟩ (by decide)).2
    (by rw [if_neg (by decide)]; decide +kernel)

/-! Names. -/

/-- `append_quoted_identifier`; the C string `text` has no NUL. -/
def appendQuotedIdentifier (text : List UInt8) (quote : UInt8) : List UInt8 :=
  quote :: text.flatMap (fun byte => if byte = quote then [byte, quote] else [byte]) ++ [quote]

def showCreateIdentifierStartByteIsBare (byte : UInt8) : Bool :=
  isLetter byte || byte = ascii '_' || byte = ascii '$'

def showCreateIdentifierPartByteIsBare (byte : UInt8) : Bool :=
  showCreateIdentifierStartByteIsBare byte || isDigit byte

/-- `MYLITE_SQL_KEYWORD_RESERVED` in the flags of a keyword. -/
def Keyword.isReserved (keyword : Keyword) : Bool :=
  keyword.flags &&& 1 ≠ 0

/-- `show_create_identifier_is_reserved_keyword`. -/
def showCreateIdentifierIsReservedKeyword (keywordLookup : List UInt8 → Option Keyword)
    (identifier : List UInt8) : Bool :=
  (keywordLookup identifier).any Keyword.isReserved

/-- `show_create_identifier_requires_quotes`. -/
def showCreateIdentifierRequiresQuotes (keywordLookup : List UInt8 → Option Keyword) :
    List UInt8 → Bool
  | [] => true
  | first :: rest =>
    if !showCreateIdentifierStartByteIsBare first then true
    else if !rest.all showCreateIdentifierPartByteIsBare then true
    else showCreateIdentifierIsReservedKeyword keywordLookup (first :: rest)

/-- `append_show_create_identifier`; the flag is `sql_quote_show_create`. -/
def appendShowCreateIdentifier (keywordLookup : List UInt8 → Option Keyword)
    (quoteShowCreate : Bool) (identifier : List UInt8) : List UInt8 :=
  if quoteShowCreate || showCreateIdentifierRequiresQuotes keywordLookup identifier then
    appendQuotedIdentifier identifier backtick
  else identifier

/-- The loop of `mylite_execution_copy_quoted_identifier_text`. -/
def copyQuotedIdentifierLoop (source : List UInt8) (destinationSize : Nat) (quote : UInt8)
    (sourceIndex : Nat) (destination : List UInt8) : Option (List UInt8) :=
  if sourceIndex + 1 < source.length then
    if destination.length + 1 ≥ destinationSize then none
    else if source.getD sourceIndex 0 = quote ∧ source.getD (sourceIndex + 1) 0 = quote then
      copyQuotedIdentifierLoop source destinationSize quote (sourceIndex + 2)
        (destination ++ [quote])
    else
      copyQuotedIdentifierLoop source destinationSize quote (sourceIndex + 1)
        (destination ++ [source.getD sourceIndex 0])
  else some destination
termination_by source.length - sourceIndex

/-- `mylite_execution_copy_quoted_identifier_text`, which refuses an empty name. -/
def copyQuotedIdentifierText (source : List UInt8) (destinationSize : Nat) :
    Option (List UInt8) :=
  let quote := source.getD 0 0
  if (quote ≠ backtick ∧ quote ≠ doubleQuote) ∨ source.length < 2 ∨
      source.getD (source.length - 1) 0 ≠ quote then none
  else
    (copyQuotedIdentifierLoop source destinationSize quote 1 []).filter (!·.isEmpty)

/-- `mylite_execution_copy_unquoted_identifier_text`. -/
def copyUnquotedIdentifierText (source : List UInt8) (destinationSize : Nat) :
    Option (List UInt8) :=
  if source.isEmpty || source.length ≥ destinationSize then none else some source

inductive IdentifierError where
  | parse
  | tooLong
  deriving DecidableEq, Repr

/-- `mylite_execution_copy_identifier_text` of an identifier's span. -/
def copyIdentifierText (source : List UInt8) (destinationSize : Nat) :
    Except IdentifierError (List UInt8) :=
  if source.isEmpty then .error .parse
  else
    let copied :=
      if source.getD 0 0 = backtick ∨ source.getD 0 0 = doubleQuote then
        copyQuotedIdentifierText source destinationSize
      else copyUnquotedIdentifierText source destinationSize
    match copied with
    | some name => .ok name
    | none => .error .tooLong

/-- A token the grammar takes for a name. -/
def SqlToken.isName (token : SqlToken) : Bool :=
  match token.kind with
  | .identifier | .quotedIdentifier => true
  | .keyword => token.keyword.any (!·.isReserved)
  | _ => false

/-- The text is one name token, and the name is copied from it. -/
def NameReadsBack (keywordLookup : List UInt8 → Option Keyword) (modes : SqlModes)
    (destinationSize : Nat) (before text rest name : List UInt8) : Prop :=
  ∃ token, LexedAs keywordLookup modes before text rest token ∧ token.isName = true ∧
    copyIdentifierText token.text destinationSize = .ok name

/-- A text that begins a literal an introducer can stand in front of. -/
def startsLiteral (text : List UInt8) : Bool :=
  match text with
  | [] => false
  | first :: rest =>
    let second := rest.headD 0
    first = singleQuote || first = doubleQuote ||
      ((first = ascii 'X' || first = ascii 'x' || first = ascii 'B' || first = ascii 'b') &&
        second = singleQuote) ||
      (first = ascii '0' &&
        (second = ascii 'X' || second = ascii 'x' || second = ascii 'B' || second = ascii 'b'))

/-- A text behind a name that neither goes on with it nor makes an introducer of it. -/
structure EndsName (rest : List UInt8) : Prop where
  notPart : ∀ byte ∈ rest.head?, byte ≠ backtick ∧ isIdentifierPart byte = false
  noLiteral : startsLiteral (rest.dropWhile isSpace) = false

/-! Quoted names. -/

/-- A quote is doubled, any other byte stands alone. -/
def identifierPiece (quote byte : UInt8) : Quoted.Piece UInt8 :=
  if byte = quote then .doubled else .plain byte

theorem appendQuotedIdentifier_quoted (text : List UInt8) (quote : UInt8) :
    QuotedText quote false (appendQuotedIdentifier text quote)
      (text.map (identifierPiece quote)) := by
  apply quotedText_map
  intro byte _
  unfold identifierPiece
  split
  · rename_i same
    rw [same]
    exact ⟨rfl, trivial⟩
  · rename_i other
    exact ⟨rfl, other, by simp [sqlQuoting]⟩

/-- The loop copies the name as long as there is room. -/
theorem copyQuotedIdentifierLoop_eq {source : List UInt8} {destinationSize sourceIndex : Nat}
    {quote : UInt8} {name destination : List UInt8}
    (ahead : source.drop sourceIndex =
      name.flatMap (fun byte => if byte = quote then [byte, quote] else [byte]) ++ [quote])
    (room : destination.length + name.length < destinationSize) :
    copyQuotedIdentifierLoop source destinationSize quote sourceIndex destination =
      some (destination ++ name) := by
  induction name generalizing sourceIndex destination with
  | nil =>
    obtain ⟨-, -, length⟩ := Cursor.drop_cons ahead
    rw [copyQuotedIdentifierLoop, if_neg (by simp at length; omega), List.append_nil]
  | cons byte name ih =>
    rw [List.length_cons] at room
    rw [List.flatMap_cons, List.append_assoc] at ahead
    by_cases same : byte = quote
    · rw [if_pos same, same] at ahead
      obtain ⟨here, following, -⟩ := Cursor.drop_cons ahead
      obtain ⟨doubled, behind, length⟩ := Cursor.drop_cons following
      rw [copyQuotedIdentifierLoop, if_pos (by omega), if_neg (by omega),
        if_pos ⟨by simp [here], by simp [doubled]⟩,
        ih behind (by simp only [List.length_append, List.length_singleton]; omega), same]
      simp
    · rw [if_neg same] at ahead
      obtain ⟨here, behind, length⟩ := Cursor.drop_cons ahead
      have value : source.getD sourceIndex 0 = byte := by simp [here]
      have more : sourceIndex + 1 < source.length := by simp at length; omega
      rw [copyQuotedIdentifierLoop, if_pos more, if_neg (by omega),
        if_neg fun both => same (value ▸ both.1), value,
        ih behind (by simp only [List.length_append, List.length_singleton]; omega)]
      simp

theorem copyIdentifierText_quoted {quote : UInt8} {name : List UInt8} {destinationSize : Nat}
    (quotes : quote = backtick ∨ quote = doubleQuote) (nonempty : name ≠ [])
    (room : name.length < destinationSize) :
    copyIdentifierText (appendQuotedIdentifier name quote) destinationSize = .ok name := by
  have loop : copyQuotedIdentifierLoop (appendQuotedIdentifier name quote) destinationSize quote
      1 [] = some name :=
    copyQuotedIdentifierLoop_eq rfl (by simpa using room)
  have first : (appendQuotedIdentifier name quote).getD 0 0 = quote := rfl
  have last : (appendQuotedIdentifier name quote).getD
      ((appendQuotedIdentifier name quote).length - 1) 0 = quote := by
    simp [appendQuotedIdentifier]
  have copied : copyQuotedIdentifierText (appendQuotedIdentifier name quote) destinationSize =
      some name := by
    unfold copyQuotedIdentifierText
    dsimp only
    rw [first, last, if_neg, loop]
    · simp [Option.filter, nonempty]
    · rintro (other | short | other)
      · rcases quotes with same | same
        · exact other.1 same
        · exact other.2 same
      · simp only [appendQuotedIdentifier, List.length_append, List.length_cons] at short
        omega
      · exact other rfl
  unfold copyIdentifierText
  rw [if_neg (by simp [appendQuotedIdentifier])]
  dsimp only
  rw [first, if_pos quotes, copied]

/-! Bare names. -/

theorem bareByte_facts (byte : UInt8) :
    (showCreateIdentifierStartByteIsBare byte = true → isIdentifierStart byte = true ∧
      StartsToken byte ∧ byte ≠ backtick ∧ byte ≠ singleQuote ∧ byte ≠ doubleQuote) ∧
    (showCreateIdentifierPartByteIsBare byte = true → isIdentifierPart byte = true ∧
      byte ≠ singleQuote) := by
  have all := byte_forall (fun byte =>
    (!showCreateIdentifierStartByteIsBare byte || (isIdentifierStart byte &&
      (!isSpace byte && byte ≠ ascii '#' && byte ≠ ascii '-' && byte ≠ ascii '/') &&
      byte ≠ backtick && byte ≠ singleQuote && byte ≠ doubleQuote)) &&
    (!showCreateIdentifierPartByteIsBare byte || (isIdentifierPart byte &&
      byte ≠ singleQuote))) (by decide +kernel) byte
  simp only [Bool.and_eq_true, Bool.or_eq_true, Bool.not_eq_true', decide_eq_true_eq] at all
  constructor
  · intro start
    obtain other | ⟨⟨⟨⟨part, ⟨⟨space, hash⟩, minus⟩, slash⟩, tick⟩, single⟩, double⟩ := all.1
    · rw [start] at other
      cases other
    · exact ⟨part, ⟨space, hash, minus, slash⟩, tick, single, double⟩
  · intro part
    obtain other | facts := all.2
    · rw [part] at other
      cases other
    · exact facts

/-- A bare name begins with the start of an identifier and goes on with parts of it. -/
theorem bare_cases {name : List UInt8}
    (bare : showCreateIdentifierRequiresQuotes keywordLookup name = false) :
    ∃ first others, name = first :: others ∧
      showCreateIdentifierStartByteIsBare first = true ∧
      (∀ byte ∈ others, showCreateIdentifierPartByteIsBare byte = true) ∧
      showCreateIdentifierIsReservedKeyword keywordLookup name = false := by
  cases name with
  | nil => cases bare
  | cons first others =>
    rw [showCreateIdentifierRequiresQuotes] at bare
    split at bare
    · cases bare
    · rename_i start
      split at bare
      · cases bare
      · rename_i parts
        refine ⟨first, others, rfl, by simpa using start, ?_, bare⟩
        simpa using parts

namespace SqlLexer

theorem startsLiteralAfterCharsetIntroducer_eq (lexer : SqlLexer) (cursor : Nat) :
    lexer.startsLiteralAfterCharsetIntroducer cursor = startsLiteral (lexer.input.drop cursor) := by
  unfold startsLiteralAfterCharsetIntroducer
  cases ahead : lexer.input.drop cursor with
  | nil =>
    have outside : ¬cursor < lexer.input.length :=
      Nat.not_lt.mpr (List.drop_eq_nil_iff.1 ahead)
    simp [outside, startsLiteral]
  | cons first rest =>
    obtain ⟨here, behind, length⟩ := Cursor.drop_cons ahead
    have inside : cursor < lexer.input.length := by omega
    have second : lexer.input.getD (cursor + 1) 0 = rest.headD 0 := by
      rw [← behind, List.headD_eq_head?_getD, List.head?_drop, List.getD_eq_getElem?_getD]
    have firstEq : lexer.input.getD cursor 0 = first := by simp [here]
    simp only [inside, firstEq, second, startsLiteral, decide_true, Bool.true_and]

theorem byteIs_drop (input : List UInt8) (cursor : Nat) (test : UInt8 → Bool) :
    byteIs input cursor test = (input.drop cursor).head?.any test := by
  rw [byteIs, List.head?_drop]

/-- A bare word in front of a text that ends it. -/
theorem scanUnquotedIdentifier_bare {name : List UInt8} (ends : EndsName rest)
    (parts : ∀ byte ∈ name, isIdentifierPart byte = true)
    (notReserved : showCreateIdentifierIsReservedKeyword keywordLookup name = false) :
    ∃ token, scanUnquotedIdentifier keywordLookup
        ⟨before ++ name ++ rest, before.length, modes⟩ false =
          (token, ⟨before ++ name ++ rest, before.length + name.length, modes⟩) ∧
      token.isName = true ∧ token.text = name := by
  have ahead : (before ++ name ++ rest).drop before.length = name ++ rest := by simp
  have endsRun : Scanning.EndsRun isIdentifierPart rest :=
    fun byte head => (ends.notPart byte head).2
  have stop : skipIdentifierParts (before ++ name ++ rest) before.length =
      before.length + name.length := by
    rw [skipIdentifierParts, Cursor.skipWhile, ahead, (Scanning.run_append parts endsRun).1]
  have word : (before ++ name ++ rest).extract before.length (before.length + name.length) =
      name := by
    rw [List.extract_eq_take_drop]
    simp
  let after : SqlLexer := ⟨before ++ name ++ rest, before.length + name.length, modes⟩
  -- behind the spaces after the name no literal begins
  have behind : (before ++ name ++ rest).drop
      (Cursor.skipWhile isSpace (before ++ name ++ rest) (before.length + name.length)) =
        rest.dropWhile isSpace := by
    have shifted : (before ++ name ++ rest).drop (before.length + name.length) = rest := by
      simp
    have split := @List.takeWhile_append_dropWhile _ isSpace rest
    rw [Cursor.skipWhile, shifted, ← List.drop_drop, shifted]
    exact (congrArg (List.drop _) split.symm).trans List.drop_left
  have noIntroducer : after.identifierSpanIsCharsetIntroducer before.length
      (before.length + name.length) = false := by
    rw [identifierSpanIsCharsetIntroducer, startsLiteralAfterCharsetIntroducer_eq, behind,
      ends.noLiteral, Bool.and_false]
  have noTemporal : after.identifierSpanIsTemporalLiteralIntroducer before.length
      (before.length + name.length) = false := by
    rw [identifierSpanIsTemporalLiteralIntroducer, byteIs_drop, behind]
    have noLiteral := ends.noLiteral
    cases ahead : rest.dropWhile isSpace with
    | nil => simp
    | cons byte following =>
      rw [ahead, startsLiteral] at noLiteral
      simp only [Bool.or_eq_false_iff, decide_eq_false_iff_not] at noLiteral
      simp [noLiteral.1.1.1, noLiteral.1.1.2]
  unfold scanUnquotedIdentifier
  dsimp only [makeTokenStart, advanceToOffsetNoNewline]
  rw [stop, noIntroducer, noTemporal, word]
  rw [showCreateIdentifierIsReservedKeyword] at notReserved
  cases found : keywordLookup name with
  | none => exact ⟨_, rfl, rfl, word⟩
  | some keyword =>
    rw [found] at notReserved
    refine ⟨_, rfl, ?_, word⟩
    change (!keyword.isReserved) = true
    simpa using notReserved

end SqlLexer

/-- A bare name is an identifier token or that of a keyword which is not reserved. -/
theorem lexedAs_bare {name : List UInt8}
    (bare : showCreateIdentifierRequiresQuotes keywordLookup name = false)
    (ends : EndsName rest) :
    ∃ token, LexedAs keywordLookup modes before name rest token ∧ token.isName = true ∧
      token.text = name := by
  obtain ⟨first, others, rfl, start, parts, notReserved⟩ := bare_cases bare
  obtain ⟨identifierStart, starts, notBacktick, notSingle, notDouble⟩ :=
    (bareByte_facts first).1 start
  let lexer : SqlLexer := ⟨before ++ first :: others ++ rest, before.length, modes⟩
  have ahead : lexer.input.drop lexer.offset = first :: (others ++ rest) := by
    simp [lexer]
  obtain ⟨inside, here, behind⟩ := SqlLexer.ahead_cons ahead
  obtain ⟨called, notComment⟩ := @SqlLexer.next_of_starts keywordLookup lexer _ _ starts ahead
  -- the byte behind the first is no quote: it is in the name or ends it
  have notQuoted : lexer.peekAt 1 ≠ singleQuote := by
    rw [SqlLexer.peekAt_head, behind]
    cases others with
    | cons byte others =>
      exact ((bareByte_facts byte).2 (parts byte List.mem_cons_self)).2
    | nil =>
      cases rest with
      | nil => decide
      | cons byte rest =>
        rintro rfl
        exact absurd ends.noLiteral (by simp [isSpace, singleQuote, startsLiteral])
  have allParts : ∀ byte ∈ first :: others, isIdentifierPart byte = true := by
    refine List.forall_mem_cons.2 ⟨?_, fun byte member => ((bareByte_facts byte).2 ?_).1⟩
    · rw [isIdentifierPart, identifierStart, Bool.true_or]
    · exact parts byte member
  obtain ⟨token, scanned, isName, text⟩ :=
    @SqlLexer.scanUnquotedIdentifier_bare keywordLookup modes before rest _ ends allParts
      notReserved
  refine ⟨token, called.trans ?_, isName, text⟩
  unfold SqlLexer.scanToken SqlLexer.scanWord
  simp only [notComment, here, notBacktick, notSingle, notDouble, identifierStart, notQuoted,
    and_false, or_self, ↓reduceIte, Bool.false_eq_true]
  exact scanned

/-- A name in SHOW CREATE, quoted or bare, is read back in every SQL mode. -/
theorem showCreateIdentifier_readsBack (keywordLookup : List UInt8 → Option Keyword)
    (modes : SqlModes) (quoteShowCreate : Bool) (destinationSize : Nat)
    (before rest name : List UInt8) (nonempty : name ≠ [])
    (room : name.length < destinationSize) (ends : EndsName rest) :
    NameReadsBack keywordLookup modes destinationSize before
      (appendShowCreateIdentifier keywordLookup quoteShowCreate name) rest name := by
  unfold appendShowCreateIdentifier
  split
  · have closed : rest.head? ≠ some backtick := by
      intro head
      exact (ends.notPart backtick head).1 rfl
    obtain ⟨token, lexed, kind, text⟩ :=
      @lexedAs_quotedIdentifier keywordLookup modes before _ rest backtick _ (.inl rfl)
        (appendQuotedIdentifier_quoted name backtick) closed
    refine ⟨token, lexed, ?_, ?_⟩
    · rw [SqlToken.isName, kind]
    · rw [text]
      exact copyIdentifierText_quoted (.inl rfl) nonempty room
  · rename_i shown
    have bare : showCreateIdentifierRequiresQuotes keywordLookup name = false := by
      simp only [Bool.or_eq_true, not_or, Bool.not_eq_true] at shown
      exact shown.2
    obtain ⟨token, lexed, isName, text⟩ :=
      @lexedAs_bare keywordLookup modes before rest name bare ends
    obtain ⟨first, others, rfl, start, -, -⟩ := bare_cases bare
    obtain ⟨-, -, notBacktick, -, notDouble⟩ := (bareByte_facts first).1 start
    have copied : copyUnquotedIdentifierText (first :: others) destinationSize =
        some (first :: others) := by
      rw [copyUnquotedIdentifierText, if_neg]
      simp only [List.isEmpty_cons, Bool.false_or, decide_eq_true_eq]
      omega
    refine ⟨token, lexed, isName, ?_⟩
    rw [text]
    simp [copyIdentifierText, notBacktick, notDouble, copied]

theorem showCreateIdentifier_readsBack_backtick :
    NameReadsBack (fun _ => none) ⟨false, false, false, false⟩ 65 []
      (appendShowCreateIdentifier (fun _ => none) false [0x61, 0x60]) [0x20, 0x28]
      [0x61, 0x60] :=
  showCreateIdentifier_readsBack (fun _ => none) ⟨false, false, false, false⟩ false 65 []
    [0x20, 0x28] [0x61, 0x60] (by decide) (by decide)
    ⟨fun byte member => by cases member; decide, by decide⟩

end MyLite.Sql
