import MyLite.Sql.KeywordTable
import MyLite.Library.BinarySearch

/-! `mylite_sql_keyword_lookup` and the filters in front of its binary search. -/

namespace MyLite.Sql

/-- The bytes of a word of the table, none of which is zero. -/
def spelling (word : String) : List UInt8 := word.toByteArray.data.toList

def maximumKeywordLength : Nat := 38

def keywordSearchRange (first : UInt8) : Option KeywordRange :=
  keywordRanges.find? fun range => range.first == first

def keywordLengthIsPossible (first : UInt8) (length : Nat) : Bool :=
  if 64 ≤ length then false
  else
    match keywordLengthMasks.lookup first with
    | none => false
    | some mask => mask &&& (1 <<< length) != 0

/-- The loop of `compare_keyword_text`, on the bytes from its index on. -/
def compareBytes : List UInt8 → List UInt8 → Ordering
  | [], [] => .eq
  | [], _ :: _ => .lt
  | _ :: _, [] => .gt
  | byte :: text, expected :: keyword =>
    if asciiUpper byte < expected then .lt
    else if expected < asciiUpper byte then .gt
    else compareBytes text keyword

/-- The first bytes are not compared. -/
def compareKeywordText (text : List UInt8) (word : String) : Ordering :=
  compareBytes text.tail (spelling word).tail

def lookupHotKeywordIndex (text : List UInt8) (length : Nat) (first : UInt8) : Option Nat :=
  ((hotKeywords.lookup length).bind fun cases =>
    (cases.lookup first).bind fun words =>
      words.find? fun word => compareKeywordText text word.1 == .eq).map Prod.snd

def keywordFirstCount : Nat := 27

def keywordSecondCount : Nat := 37

def keywordLengthCount : Nat := 39

def keywordInvalidIndex : Nat := 64

def firstIndex (first : UInt8) : Nat :=
  if 65 ≤ first ∧ first ≤ 90 then (first - 65).toNat
  else if first = 95 then 26
  else keywordInvalidIndex

def secondIndex (second : UInt8) : Nat :=
  let second := asciiUpper second
  if 65 ≤ second ∧ second ≤ 90 then (second - 65).toNat
  else if second = 95 then 26
  else if 48 ≤ second ∧ second ≤ 57 then 27 + (second - 48).toNat
  else keywordInvalidIndex

def keywordSecondCharIsPossible (first second : UInt8) (length : Nat) : Bool :=
  if length ≤ 1 then true
  else if keywordLengthCount ≤ length then false
  else if keywordFirstCount ≤ firstIndex first ∨ keywordSecondCount ≤ secondIndex second then false
  else
    (((secondMasks.getD (firstIndex first) []).lookup length).getD 0) &&&
      (1 <<< secondIndex second) != 0

/-- How the text compares with the word at a position of the table. -/
def compareAt (text : List UInt8) (position : Nat) : Ordering :=
  match keywords[position]? with
  | none => .lt
  | some entry => compareKeywordText text entry.word

def keywordAt (position : Nat) : Option Keyword :=
  keywords[position]?.map fun entry => ⟨entry.flags, position⟩

def sqlKeywordLookup : List UInt8 → Option Keyword
  | [] => none
  | byte :: rest =>
    let text := byte :: rest
    if maximumKeywordLength < text.length then none
    else
      let first := asciiUpper byte
      match keywordSearchRange first with
      | none => none
      | some range =>
        if !keywordLengthIsPossible first text.length then none
        else
          match lookupHotKeywordIndex text text.length first with
          | some index => keywordAt index
          | none =>
            if !keywordSecondCharIsPossible first (rest.headD 0) text.length then none
            else (BinarySearch.search (compareAt text) range.low range.high).bind keywordAt

/-- What a scan of the table from a position on finds: the first entry that is the text but for
the case of its letters. -/
def linearScan (text : List UInt8) : Nat → List KeywordEntry → Option Keyword
  | _, [] => none
  | position, entry :: rest =>
    if text.map asciiUpper = (spelling entry.word).map asciiUpper then some ⟨entry.flags, position⟩
    else linearScan text (position + 1) rest

/-! What the table is checked for. -/

/-- An entry passes the filters, and is a hot word or in the range of its first byte. -/
def entryReachable (entry : KeywordEntry) (position : Nat) : Bool :=
  match spelling entry.word with
  | [] => false
  | first :: rest =>
    (first :: rest).all (fun byte => asciiUpper byte == byte) &&
    rest.length < maximumKeywordLength &&
    keywordLengthIsPossible first (rest.length + 1) &&
    (keywordSearchRange first).any fun range =>
      match lookupHotKeywordIndex (first :: rest) (rest.length + 1) first with
      | some index => index == position
      | none =>
        keywordSecondCharIsPossible first (rest.headD 0) (rest.length + 1) &&
          range.low ≤ position && position < range.high

def entriesReachable : Nat → List KeywordEntry → Bool
  | _, [] => true
  | position, entry :: rest => entryReachable entry position && entriesReachable (position + 1) rest

theorem entries_reachable : entriesReachable 0 keywords = true := by decide +kernel

def ascendingWords : List (List UInt8) → Bool
  | first :: second :: rest =>
    compareBytes first.tail second.tail == .lt && ascendingWords (second :: rest)
  | _ => true

/-- The entries of a range start with its byte and ascend. -/
def rangeSorted (range : KeywordRange) : Bool :=
  let words := ((keywords.drop range.low).take (range.high - range.low)).map fun entry =>
    spelling entry.word
  words.length == range.high - range.low &&
    words.all (fun word => word.head? == some range.first) && ascendingWords words

theorem ranges_sorted : keywordRanges.all rangeSorted = true := by decide +kernel

/-- A hot word is the one of the table at its index, and starts with the byte of its case. -/
def hotKeywordListed (first : UInt8) (hot : String × Nat) : Bool :=
  (keywords[hot.2]?.any fun entry => spelling entry.word == spelling hot.1) &&
    (spelling hot.1).head? == some first

theorem hot_keywords_listed :
    (hotKeywords.all fun cases => cases.2.all fun words => words.2.all (hotKeywordListed words.1)) =
      true := by
  decide +kernel

end MyLite.Sql
