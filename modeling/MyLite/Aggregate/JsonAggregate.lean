import MyLite.Aggregate.Bitwise
import MyLite.Json.SetDecomposition

/-! `mylite_json_aggregate.c`: JSON_ARRAYAGG and JSON_OBJECTAGG over a window. The state keeps the
converted rows in order; a row that leaves is the first one that equals it. -/
namespace MyLite.Aggregate

open Json (Bytes SqlValue Value Member OperationFailure)

def jsonAggregateValueKindIsValid (kind : Int64) (allowJson : Bool) : Bool :=
  kind = 0 || kind = 1 || kind = 2 || kind = 3 || (allowJson && kind = 4)

/-- `none` is `MYLITE_ERROR`. -/
def jsonAggregateConvertValue (tag value : Argument) (allowJson : Bool) : Option SqlValue :=
  if tag.type ≠ .integer then none
  else if !jsonAggregateValueKindIsValid tag.int64 allowJson then none
  else if value.type = .null then some .null
  else if tag.int64 = 0 then some .null
  else if tag.int64 = 1 then
    if value.type ≠ .integer then none else some (.integer value.int64)
  else if tag.int64 = 2 then
    if value.type ≠ .integer then none else some (.boolean (value.int64 ≠ 0))
  else if tag.int64 = 3 then some (.string value.text)
  else some (.json value.text)

/-- `memcmp` of texts of one length. -/
def jsonAggregateTextsEqual (left right : Bytes) : Bool :=
  if left.length ≠ right.length then false
  else if left.length = 0 then true
  else left = right

def jsonAggregateValuesEqual : SqlValue → SqlValue → Bool
  | .null, .null => true
  | .integer left, .integer right => left = right
  | .boolean left, .boolean right => left = right
  | .string left, .string right => jsonAggregateTextsEqual left right
  | .json left, .json right => jsonAggregateTextsEqual left right
  | _, _ => false

abbrev Pair := SqlValue × SqlValue

def jsonAggregatePairsEqual (left right : Pair) : Bool :=
  jsonAggregateValuesEqual left.1 right.1 && jsonAggregateValuesEqual left.2 right.2

/-- The loops of `json_aggregate_remove_array_value` and `json_aggregate_remove_object_pair`: what
is left without the first row that is equal. -/
def jsonAggregateRemove {α : Type} (equal : α → α → Bool) (removed : α) : List α → Option (List α)
  | [] => none
  | row :: rows =>
    if equal row removed then some rows
    else (jsonAggregateRemove equal removed rows).map (row :: ·)

structure ArrayaggRow where
  tag : Argument
  value : Argument

structure ObjectaggRow where
  keyTag : Argument
  key : Argument
  valueTag : Argument
  value : Argument

def unsupportedJsonValue : String :=
  "Unsupported JSON value in JSON constructor"

/-- The value of a row, or the error that it is refused with. -/
def readArrayaggRow (row : ArrayaggRow) : Except String SqlValue :=
  match jsonAggregateConvertValue row.tag row.value true with
  | none => .error unsupportedJsonValue
  | some value => .ok value

def readObjectaggRow (row : ObjectaggRow) : Except String Pair :=
  match jsonAggregateConvertValue row.keyTag row.key false with
  | none => .error unsupportedJsonValue
  | some key =>
    match jsonAggregateConvertValue row.valueTag row.value true with
    | none => .error unsupportedJsonValue
    | some value =>
      if key = .null then .error "JSON documents may not contain NULL member names."
      else .ok (key, value)

/-- The two step callbacks, by what they read of a row. -/
def jsonAggregateStep {α ρ : Type} (read : ρ → Except String α) (state : Option (List α))
    (row : ρ) : Option (List α) × Option String :=
  match read row with
  | .error message => (state, some message)
  | .ok value => (some (state.getD [] ++ [value]), none)

/-- The two inverse callbacks. -/
def jsonAggregateInverse {α ρ : Type} (read : ρ → Except String α) (equal : α → α → Bool)
    (invalidState : String) (state : Option (List α)) (row : ρ) :
    Option (List α) × Option String :=
  match read row with
  | .error message => (state, some message)
  | .ok value =>
    match state.bind (jsonAggregateRemove equal value) with
    | none => (state, some invalidState)
    | some rest => (some rest, none)

def jsonArrayaggStep (state : Option (List SqlValue)) (row : ArrayaggRow) :
    Option (List SqlValue) × Option String :=
  jsonAggregateStep readArrayaggRow state row

def jsonArrayaggInverse (state : Option (List SqlValue)) (row : ArrayaggRow) :
    Option (List SqlValue) × Option String :=
  jsonAggregateInverse readArrayaggRow jsonAggregateValuesEqual
    "invalid MyLite JSON_ARRAYAGG window state" state row

def jsonObjectaggStep (state : Option (List Pair)) (row : ObjectaggRow) :
    Option (List Pair) × Option String :=
  jsonAggregateStep readObjectaggRow state row

def jsonObjectaggInverse (state : Option (List Pair)) (row : ObjectaggRow) :
    Option (List Pair) × Option String :=
  jsonAggregateInverse readObjectaggRow jsonAggregatePairsEqual
    "invalid MyLite JSON_OBJECTAGG window state" state row

def jsonAggregateFinishResult : Except OperationFailure Bytes → CallbackResult
  | .ok text => .text text
  | .error (.document failure) =>
    match failure.status with
    | .invalid => .error "Invalid JSON text in JSON constructor"
    | .unsupported => .error unsupportedJsonValue
  | .error _ => .error "MyLite JSON aggregate failed"

/-- `json_arrayagg_value`, and `json_arrayagg_final` before it frees the state. -/
def jsonArrayaggValue (parsesDouble : Bytes → Bool) (state : Option (List SqlValue)) :
    CallbackResult :=
  match state with
  | none => .null
  | some values =>
    if values.length = 0 then .null
    else jsonAggregateFinishResult (Json.jsonArrayFromSqlValues parsesDouble values)

def jsonObjectaggValue (parsesDouble : Bytes → Bool) (state : Option (List Pair)) :
    CallbackResult :=
  match state with
  | none => .null
  | some pairs =>
    if pairs.length = 0 then .null
    else jsonAggregateFinishResult (Json.jsonObjectFromSqlValues parsesDouble pairs)

def jsonArrayagg : Window.Aggregate (Option (List SqlValue)) ArrayaggRow where
  start := none
  step state row := (jsonArrayaggStep state row).1
  inverse state row := (jsonArrayaggInverse state row).1

def jsonObjectagg : Window.Aggregate (Option (List Pair)) ObjectaggRow where
  start := none
  step state row := (jsonObjectaggStep state row).1
  inverse state row := (jsonObjectaggInverse state row).1

/-! The rows in the state. -/

theorem jsonAggregateTextsEqual_refl (text : Bytes) : jsonAggregateTextsEqual text text = true := by
  simp [jsonAggregateTextsEqual]

theorem jsonAggregateValuesEqual_refl (value : SqlValue) :
    jsonAggregateValuesEqual value value = true := by
  cases value <;> simp [jsonAggregateValuesEqual, jsonAggregateTextsEqual_refl]

theorem jsonAggregatePairsEqual_refl (pair : Pair) : jsonAggregatePairsEqual pair pair = true := by
  simp [jsonAggregatePairsEqual, jsonAggregateValuesEqual_refl]

section Rows

variable {α ρ : Type} (read : ρ → Except String α)

/-- What is read of the rows that are not refused. -/
def acceptedRows (rows : List ρ) : List α :=
  rows.filterMap fun row => (read row).toOption

/-- The state has the rows of the window in order. -/
def KeepsRows (state : Option (List α)) (window : List ρ) : Prop :=
  state.getD [] = acceptedRows read window

variable {read}

theorem KeepsRows.step {state : Option (List α)} {window : List ρ} (row : ρ)
    (held : KeepsRows read state window) :
    KeepsRows read (jsonAggregateStep read state row).1 (window ++ [row]) := by
  simp only [KeepsRows, acceptedRows, List.filterMap_append, jsonAggregateStep] at held ⊢
  rw [← held]
  cases found : read row with
  | error message => simp [found, Except.toOption]
  | ok value => simp [found, Except.toOption]

theorem KeepsRows.inverse {equal : α → α → Bool} (reflexive : ∀ value, equal value value = true)
    (invalidState : String) {state : Option (List α)} {window : List ρ} {row : ρ}
    (held : KeepsRows read state (row :: window)) :
    KeepsRows read (jsonAggregateInverse read equal invalidState state row).1 window := by
  simp only [KeepsRows, acceptedRows, List.filterMap_cons, jsonAggregateInverse] at held ⊢
  cases found : read row with
  | error message => simpa [found, Except.toOption] using held
  | ok value =>
    simp only [found, Except.toOption] at held
    cases state with
    | none => cases held
    | some rows =>
      rw [Option.getD_some] at held
      simp [held, jsonAggregateRemove, reflexive, Except.toOption]

end Rows

theorem jsonArrayagg_tracks : jsonArrayagg.Tracks (KeepsRows readArrayaggRow) where
  start := rfl
  step row held := held.step row
  inverse held := held.inverse jsonAggregateValuesEqual_refl _

theorem jsonObjectagg_tracks : jsonObjectagg.Tracks (KeepsRows readObjectaggRow) where
  start := rfl
  step row held := held.step row
  inverse held := held.inverse jsonAggregatePairsEqual_refl _

/-- The value depends on the rows only: no state is like a state with no rows. -/
theorem jsonArrayaggValue_rows (parsesDouble : Bytes → Bool) (state : Option (List SqlValue)) :
    jsonArrayaggValue parsesDouble state =
      jsonArrayaggValue parsesDouble (some (state.getD [])) := by
  cases state <;> rfl

theorem jsonObjectaggValue_rows (parsesDouble : Bytes → Bool) (state : Option (List Pair)) :
    jsonObjectaggValue parsesDouble state =
      jsonObjectaggValue parsesDouble (some (state.getD [])) := by
  cases state <;> rfl

theorem jsonArrayagg_value (parsesDouble : Bytes → Bool)
    {calls : List (Window.Call ArrayaggRow)} {window : List ArrayaggRow}
    (slides : Window.Slides [] calls window) :
    jsonArrayaggValue parsesDouble (jsonArrayagg.run calls) =
      jsonArrayaggValue parsesDouble (jsonArrayagg.fresh window) := by
  refine jsonArrayagg_tracks.value_fresh ?_ slides
  intro state other rows held same
  rw [jsonArrayaggValue_rows, held, ← same, ← jsonArrayaggValue_rows]

theorem jsonObjectagg_value (parsesDouble : Bytes → Bool)
    {calls : List (Window.Call ObjectaggRow)} {window : List ObjectaggRow}
    (slides : Window.Slides [] calls window) :
    jsonObjectaggValue parsesDouble (jsonObjectagg.run calls) =
      jsonObjectaggValue parsesDouble (jsonObjectagg.fresh window) := by
  refine jsonObjectagg_tracks.value_fresh ?_ slides
  intro state other rows held same
  rw [jsonObjectaggValue_rows, held, ← same, ← jsonObjectaggValue_rows]

/-! The members of an object. -/

/-- The member of one row. -/
def readMember (parsesDouble : Bytes → Bool) (pair : Pair) : Except OperationFailure Member := do
  let key ← Json.jsonObjectKeyFromSqlValue pair.1
  let value ← Json.jsonValueFromSqlValue parsesDouble pair.2
  .ok (key, value)

/-- A key finds the value of its last row, or else what it found before. -/
theorem objectMembersFromSqlValues_last {parsesDouble : Bytes → Bool} {pairs : List Pair}
    {before members : List Member}
    (stored : Json.objectMembersFromSqlValues parsesDouble before pairs = .ok members) :
    ∃ rows, pairs.mapM (readMember parsesDouble) = .ok rows ∧
      ∀ key, Json.objectMemberValue members key =
        Json.objectMemberValue (rows.reverse ++ before) key := by
  induction pairs generalizing before with
  | nil =>
    cases stored
    exact ⟨[], rfl, fun _ => rfl⟩
  | cons pair pairs ih =>
    simp only [Json.objectMembersFromSqlValues] at stored
    split at stored
    · cases stored
    · rename_i key named
      split at stored
      · cases stored
      · rename_i value valued
        obtain ⟨rows, read, last⟩ := ih stored
        have first : readMember parsesDouble pair = .ok (key, value) := by
          simp only [readMember, named, valued]
          rfl
        refine ⟨(key, value) :: rows, ?_, ?_⟩
        · rw [List.mapM_cons, first, read]
          rfl
        · intro name
          rw [last name, List.reverse_cons, List.append_assoc, List.singleton_append]
          simp only [Json.objectMemberValue, List.find?_append, List.find?_cons]
          cases rows.reverse.find? fun member => member.1 = name with
          | some member => rfl
          | none =>
            by_cases same : key = name
            · subst same
              have found := Json.objectMemberValue_append before key value
              simpa [Json.objectMemberValue] using found
            · have found : Json.objectMemberValue (Json.objectAppendMember before key value) name =
                  Json.objectMemberValue before name :=
                Json.objectMemberValue_append_other value (Ne.symm same)
              simpa [Json.objectMemberValue, same] using found

/-- The object that is written has, under each key of the pairs, the value of the key's last
pair. -/
theorem jsonObjectFromSqlValues_last {parsesDouble : Bytes → Bool} {pairs : List Pair}
    {text : Bytes} (written : Json.jsonObjectFromSqlValues parsesDouble pairs = .ok text) :
    ∃ rows members, pairs.mapM (readMember parsesDouble) = .ok rows ∧
      Json.emitValue (.object members) = some text ∧
      ∀ key, Json.objectMemberValue members key = Json.objectMemberValue rows.reverse key := by
  simp only [Json.jsonObjectFromSqlValues, Json.objectFromSqlValues] at written
  cases stored : Json.objectMembersFromSqlValues parsesDouble [] pairs with
  | error failure =>
    rw [stored] at written
    cases written
  | ok members =>
    obtain ⟨rows, read, last⟩ := objectMembersFromSqlValues_last stored
    simp only [stored, Json.emitConstructedJson] at written
    cases emitted : Json.emitValue (.object (Json.sortObjectMembers members)) with
    | none =>
      rw [emitted] at written
      cases written
    | some bytes =>
      rw [emitted] at written
      cases written
      refine ⟨rows, _, read, emitted, fun key => ?_⟩
      rw [Json.objectMemberValue_sort, last, List.append_nil]

theorem jsonObjectaggValue_text {parsesDouble : Bytes → Bool} {state : Option (List Pair)}
    {text : Bytes} (value : jsonObjectaggValue parsesDouble state = .text text) :
    Json.jsonObjectFromSqlValues parsesDouble (state.getD []) = .ok text := by
  cases state with
  | none => cases value
  | some pairs =>
    rw [jsonObjectaggValue] at value
    split at value
    · cases value
    · rw [Option.getD_some]
      cases written : Json.jsonObjectFromSqlValues parsesDouble pairs with
      | ok bytes =>
        rw [written] at value
        cases value
        rfl
      | error failure =>
        rw [written, jsonAggregateFinishResult.eq_def] at value
        split at value
        · rename_i same
          cases same
        · split at value <;> cases value
        · cases value

end MyLite.Aggregate
