import MyLite.Json.Emit
import MyLite.Library.Decimal

/-! Documents from SQL values: the constructors of `mylite_json.c`. -/
namespace MyLite.Json

/-- `mylite_json_sql_value`. -/
inductive SqlValue where
  | null
  | integer (value : Int64)
  | boolean (value : Bool)
  | string (text : Bytes)
  | json (text : Bytes)
  deriving DecidableEq, Repr

def digitByte (digit : Nat) : UInt8 :=
  UInt8.ofNat (0x30 + digit)

/-- The decimal spelling of an integer, as `snprintf` gives it. -/
def copyIntegerText (value : Int64) : Bytes :=
  (if value.toInt < 0 then [0x2d] else []) ++
    (Decimal.digits value.toInt.natAbs).map digitByte

/-- Why an operation on documents gave no text. -/
inductive OperationFailure where
  | document (failure : Failure)
  | path (failure : Failure)
  | pathNotAllowed
  | pathNotArrayCell
  | invalidKey
  | emit
  | misuse
  deriving DecidableEq, Repr

section Construct

variable (parsesDouble : Bytes → Bool)

def jsonValueFromSqlValue : SqlValue → Except OperationFailure Value
  | .null => .ok .null
  | .integer value => .ok (.number .integer (copyIntegerText value))
  | .boolean value => .ok (.bool value)
  | .string text => .ok (.string text)
  | .json text =>
    match parseDocument parsesDouble text with
    | .error failure => .error (.document failure)
    | .ok value => .ok value

def jsonObjectKeyFromSqlValue : SqlValue → Except OperationFailure Bytes
  | .string text => .ok text
  | .integer value => .ok (copyIntegerText value)
  | .boolean value => .ok (if value then [0x31] else [0x30])
  | .null => .error .invalidKey
  | .json _ => .error .invalidKey

/-- The values, appended one after the other. -/
def arrayValuesFromSqlValues (values : List Value) :
    List SqlValue → Except OperationFailure (List Value)
  | [] => .ok values
  | sqlValue :: sqlValues =>
    match jsonValueFromSqlValue parsesDouble sqlValue with
    | .error failure => .error failure
    | .ok value => arrayValuesFromSqlValues (values ++ [value]) sqlValues

/-- The members of the pairs, stored one after the other. -/
def objectMembersFromSqlValues (members : List Member) :
    List (SqlValue × SqlValue) → Except OperationFailure (List Member)
  | [] => .ok members
  | (key, value) :: pairs =>
    match jsonObjectKeyFromSqlValue key with
    | .error failure => .error failure
    | .ok key =>
      match jsonValueFromSqlValue parsesDouble value with
      | .error failure => .error failure
      | .ok value => objectMembersFromSqlValues (objectAppendMember members key value) pairs

/-- The object `mylite_json_object_from_sql_values` writes. -/
def objectFromSqlValues (pairs : List (SqlValue × SqlValue)) : Except OperationFailure Value :=
  match objectMembersFromSqlValues parsesDouble [] pairs with
  | .error failure => .error failure
  | .ok members => .ok (.object (sortObjectMembers members))

def emitConstructedJson (value : Value) : Except OperationFailure Bytes :=
  match emitValue value with
  | none => .error .emit
  | some text => .ok text

/-- `mylite_json_array_from_sql_values`. -/
def jsonArrayFromSqlValues (values : List SqlValue) : Except OperationFailure Bytes :=
  match arrayValuesFromSqlValues parsesDouble [] values with
  | .error failure => .error failure
  | .ok values => emitConstructedJson (.array values)

/-- `mylite_json_object_from_sql_values`. -/
def jsonObjectFromSqlValues (pairs : List (SqlValue × SqlValue)) : Except OperationFailure Bytes :=
  match objectFromSqlValues parsesDouble pairs with
  | .error failure => .error failure
  | .ok value => emitConstructedJson value

end Construct

end MyLite.Json
