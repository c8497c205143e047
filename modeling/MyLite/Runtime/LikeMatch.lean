import Mathlib.Data.Prod.Lex
import Mathlib.Tactic.Common

/-! The three LIKE matchers: of `JSON_SEARCH`, of the binary comparison and of the SHOW filters.
An index into the pattern or the value is the list of bytes from it on. -/

namespace MyLite.Like

/-- The parts in which the matchers differ: the bytes their percent runs skip, and the match of
one pattern item with a byte, which gives the next pattern index. -/
structure Matcher where
  percent : UInt8 → Bool
  item : List UInt8 → UInt8 → Option (List UInt8)
  shrinks : ∀ {pattern : List UInt8} {byte : UInt8} {next : List UInt8},
    item pattern byte = some next → next.length ≤ pattern.length

def skipPercentRun (matcher : Matcher) (pattern : List UInt8) : List UInt8 :=
  pattern.dropWhile matcher.percent

theorem skipPercentRun_length (matcher : Matcher) (pattern : List UInt8) :
    (skipPercentRun matcher pattern).length ≤ pattern.length :=
  (List.dropWhile_sublist _).length_le

structure Retry where
  pattern : List UInt8
  value : List UInt8
  deriving DecidableEq, Repr

/-- The indexes of the loop; none is before the one to retry from. -/
structure LoopState where
  pattern : List UInt8
  value : List UInt8
  retry : Option Retry
  bounded : ∀ start ∈ retry, pattern.length ≤ start.pattern.length ∧
    value.length ≤ start.value.length

def LoopState.initial (pattern value : List UInt8) : LoopState where
  pattern := pattern
  value := value
  retry := none
  bounded := by
    intro start mem
    cases mem

/-- Both indexes stand at the one to retry from. -/
def LoopState.restart (pattern value : List UInt8) : LoopState where
  pattern := pattern
  value := value
  retry := some ⟨pattern, value⟩
  bounded := by
    intro start mem
    cases mem
    exact ⟨Nat.le_refl _, Nat.le_refl _⟩

def LoopState.advance (state : LoopState) (pattern value : List UInt8)
    (shorterPattern : pattern.length ≤ state.pattern.length)
    (shorterValue : value.length ≤ state.value.length) : LoopState where
  pattern := pattern
  value := value
  retry := state.retry
  bounded := fun start mem =>
    ⟨Nat.le_trans shorterPattern (state.bounded start mem).1,
      Nat.le_trans shorterValue (state.bounded start mem).2⟩

def LoopState.valueRank (state : LoopState) : Nat :=
  match state.retry with
  | none => state.value.length + 1
  | some start => start.value.length

def LoopState.patternRank (state : LoopState) : Nat :=
  match state.retry with
  | none => 0
  | some start => start.pattern.length

def startsPercentRun (matcher : Matcher) : List UInt8 → Bool
  | [] => false
  | byte :: _ => matcher.percent byte

theorem skipPercentRun_lt {matcher : Matcher} {pattern : List UInt8}
    (percent : startsPercentRun matcher pattern = true) :
    (skipPercentRun matcher pattern).length < pattern.length := by
  cases pattern with
  | nil => cases percent
  | cons byte rest =>
    rw [startsPercentRun] at percent
    rw [skipPercentRun, List.dropWhile_cons, if_pos percent]
    exact Nat.lt_succ_of_le (skipPercentRun_length matcher rest)

/-- The order the loop descends in: the value to retry from, the pattern to retry from, the
value. -/
def LoopState.rank (state : LoopState) : Nat ×ₗ Nat ×ₗ Nat :=
  toLex (state.valueRank, toLex (state.patternRank, state.value.length))

theorem rank_restart_percent {matcher : Matcher} {state : LoopState}
    (percent : startsPercentRun matcher state.pattern = true) :
    (LoopState.restart (skipPercentRun matcher state.pattern) state.value).rank < state.rank := by
  have shorter := skipPercentRun_lt percent
  have bounded := state.bounded
  rw [LoopState.rank, LoopState.rank, Prod.Lex.toLex_lt_toLex, Prod.Lex.toLex_lt_toLex]
  cases same : state.retry with
  | none =>
    left
    simp [LoopState.valueRank, LoopState.restart, same]
  | some start =>
    obtain ⟨patternBound, valueBound⟩ := bounded start same
    simp only [LoopState.valueRank, LoopState.patternRank, LoopState.restart, same]
    omega

theorem rank_advance {state : LoopState} {pattern value : List UInt8}
    (shorterPattern : pattern.length ≤ state.pattern.length)
    (shorterValue : value.length < state.value.length) :
    (state.advance pattern value shorterPattern (Nat.le_of_lt shorterValue)).rank < state.rank := by
  rw [LoopState.rank, LoopState.rank, Prod.Lex.toLex_lt_toLex, Prod.Lex.toLex_lt_toLex]
  cases same : state.retry with
  | none =>
    left
    simpa [LoopState.valueRank, LoopState.advance, same] using shorterValue
  | some start =>
    simp only [LoopState.valueRank, LoopState.patternRank, LoopState.advance, same]
    exact Or.inr ⟨trivial, Or.inr ⟨trivial, shorterValue⟩⟩

theorem rank_restart_retry {state : LoopState} {start : Retry} (retry : state.retry = some start)
    {byte : UInt8} {later : List UInt8} (value : start.value = byte :: later) :
    (LoopState.restart start.pattern later).rank < state.rank := by
  rw [LoopState.rank, LoopState.rank, Prod.Lex.toLex_lt_toLex]
  left
  simp [LoopState.valueRank, LoopState.restart, retry, value]

/-- The loop of the matchers. -/
def matchLoop (matcher : Matcher) (state : LoopState) : Bool :=
  match _value : state.value with
  | [] => (skipPercentRun matcher state.pattern).isEmpty
  | byte :: rest =>
    if _percent : startsPercentRun matcher state.pattern = true then
      if (skipPercentRun matcher state.pattern).isEmpty then true
      else matchLoop matcher (.restart (skipPercentRun matcher state.pattern) state.value)
    else
      match _item : matcher.item state.pattern byte with
      | some next =>
        have shorter : rest.length < state.value.length := by
          rw [_value]
          exact Nat.lt_succ_self _
        matchLoop matcher (state.advance next rest (matcher.shrinks _item) (Nat.le_of_lt shorter))
      | none =>
        match _retry : state.retry with
        | none => false
        | some start =>
          match _start : start.value with
          | [] => false
          | _ :: later => matchLoop matcher (.restart start.pattern later)
  termination_by state.rank
  decreasing_by
    · exact rank_restart_percent _percent
    · exact rank_advance _ shorter
    · exact rank_restart_retry _retry _start

def patternMatches (matcher : Matcher) (pattern value : List UInt8) : Bool :=
  matchLoop matcher (.initial pattern value)

/-! The matcher of `JSON_SEARCH`. -/

def jsonSearchPercent (escapeEnabled : Bool) (escape byte : UInt8) : Bool :=
  byte == 37 && (!escapeEnabled || byte != escape)

/-- The byte behind an escape, and what follows it; an escape at the end stands for itself. -/
def escapedByte (escape : UInt8) : List UInt8 → UInt8 × List UInt8
  | [] => (escape, [])
  | escaped :: others => (escaped, others)

def jsonSearchPatternItemMatches (escapeEnabled : Bool) (escape : UInt8) :
    List UInt8 → UInt8 → Option (List UInt8)
  | [], _ => none
  | patternByte :: rest, value =>
    if escapeEnabled && patternByte == escape then
      let (escaped, next) := escapedByte patternByte rest
      if escaped = value then some next else none
    else if patternByte = 95 then some rest
    else if patternByte = value then some rest
    else none

theorem escapedByte_length (escape : UInt8) (rest : List UInt8) :
    (escapedByte escape rest).2.length ≤ rest.length := by
  cases rest with
  | nil => exact Nat.le_refl _
  | cons escaped others => exact Nat.le_succ _

theorem jsonSearchPatternItemMatches_shrinks {escapeEnabled : Bool} {escape byte : UInt8}
    {pattern next : List UInt8}
    (found : jsonSearchPatternItemMatches escapeEnabled escape pattern byte = some next) :
    next.length ≤ pattern.length := by
  cases pattern with
  | nil => cases found
  | cons patternByte rest =>
    have shorter := escapedByte_length patternByte rest
    simp only [jsonSearchPatternItemMatches] at found
    split_ifs at found <;> cases found <;> simp only [List.length_cons] <;> omega

def jsonSearchMatcher (escapeEnabled : Bool) (escape : UInt8) : Matcher where
  percent := jsonSearchPercent escapeEnabled escape
  item := jsonSearchPatternItemMatches escapeEnabled escape
  shrinks := jsonSearchPatternItemMatches_shrinks

def jsonSearchPatternMatches (pattern value : List UInt8) (escapeEnabled : Bool)
    (escape : UInt8) : Bool :=
  patternMatches (jsonSearchMatcher escapeEnabled escape) pattern value

/-! The matchers of the binary comparison and of the SHOW filters, whose bytes are `char`. -/

def asciiLower (byte : UInt8) : UInt8 := if 65 ≤ byte ∧ byte ≤ 90 then byte - 65 + 97 else byte

def bytesEqual (left right : UInt8) (caseSensitive : Bool) : Bool :=
  if caseSensitive then left == right else asciiLower left == asciiLower right

def patternItemMatches (caseSensitive : Bool) (escapeCharacter : UInt8) :
    List UInt8 → UInt8 → Option (List UInt8)
  | [], _ => none
  | patternByte :: rest, valueByte =>
    if patternByte = 95 then some rest
    else
      let (literal, next) :=
        if escapeCharacter ≠ 0 ∧ patternByte = escapeCharacter then escapedByte patternByte rest
        else (patternByte, rest)
      if bytesEqual literal valueByte caseSensitive then some next else none

theorem patternItemMatches_shrinks {caseSensitive : Bool} {escapeCharacter byte : UInt8}
    {pattern next : List UInt8}
    (found : patternItemMatches caseSensitive escapeCharacter pattern byte = some next) :
    next.length ≤ pattern.length := by
  cases pattern with
  | nil => cases found
  | cons patternByte rest =>
    have shorter := escapedByte_length patternByte rest
    simp only [patternItemMatches] at found
    split_ifs at found <;> cases found <;> simp only [List.length_cons] <;> omega

def itemMatcher (caseSensitive : Bool) (escapeCharacter : UInt8) : Matcher where
  percent := fun byte => byte == 37
  item := patternItemMatches caseSensitive escapeCharacter
  shrinks := patternItemMatches_shrinks

def likePatternMatches (pattern value : List UInt8) (caseSensitive : Bool)
    (escapeCharacter : UInt8) : Bool :=
  patternMatches (itemMatcher caseSensitive escapeCharacter) pattern value

def showLikePatternMatchesWithEscape (pattern value : List UInt8) (caseSensitive : Bool)
    (escapeCharacter : UInt8) : Bool :=
  patternMatches (itemMatcher caseSensitive escapeCharacter) pattern value

end MyLite.Like
