import SearchQuery.Entries
import SearchQuery.Number
import SearchQuery.Timestamp

/-! # Document values

  A `Value` is a node of a filter or sort document. It is a JSON value with two
  additions: a date is a value of its own, and an entry of an object may be
  absent, which is something else than null.

  Values are compared as documents: doubles numerically, objects entry by entry
  in order, absent entries included.
-/

namespace SearchQuery

/-- A node of a filter or sort document. -/
inductive Value where
  | null
  | bool (value : Bool)
  | number (value : Number)
  | string (value : String)
  | date (value : Timestamp)
  | array (items : List Value)
  /-- Entries in order; an entry without a value is absent. -/
  | object (fields : List (String × Option Value))

namespace Value

/-! ### Parts -/

/-- The name of a value's type. -/
def typeName : Value → String
  | null => "null"
  | bool _ => "boolean"
  | number _ => "number"
  | string _ => "string"
  | date _ => "date"
  | array _ => "array"
  | object _ => "object"

def isNull : Value → Bool
  | null => true
  | _ => false

def bool? : Value → Option Bool
  | bool b => some b
  | _ => none

def number? : Value → Option Number
  | number n => some n
  | _ => none

/-- The double nearest to a number. -/
def double? (v : Value) : Option Double :=
  v.number?.map Number.toDouble

def string? : Value → Option String
  | string s => some s
  | _ => none

def items? : Value → Option (List Value)
  | array items => some items
  | _ => none

def fields? : Value → Option (Fields Value)
  | object fields => some fields
  | _ => none

/-! ### Equality -/

mutual

/-- Equality of documents. -/
protected def beq : Value → Value → Bool
  | null, null => true
  | bool a, bool b => a == b
  | number a, number b => a == b
  | string a, string b => a == b
  | date a, date b => a == b
  | array a, array b => beqItems a b
  | object a, object b => beqFields a b
  | _, _ => false

def beqItems : List Value → List Value → Bool
  | [], [] => true
  | a :: as, b :: bs => Value.beq a b && beqItems as bs
  | _, _ => false

def beqFields : List (String × Option Value) → List (String × Option Value) → Bool
  | [], [] => true
  | (k, some a) :: as, (l, some b) :: bs => k == l && Value.beq a b && beqFields as bs
  | (k, none) :: as, (l, none) :: bs => k == l && beqFields as bs
  | _, _ => false

end

instance : BEq Value := ⟨Value.beq⟩

end Value

end SearchQuery
