import SearchQuery.Error
import SearchQuery.Json.Basic
import SearchQuery.Value.Basic

/-! # JSON values as documents

  `Value.ofJson` takes a JSON value as a document node. Nothing is lost: integers
  stay integers, and order is kept. An object whose only key is the date key is a
  date marker and becomes a date.
-/

namespace SearchQuery

/-- The number of a JSON number: signed if it fits, else unsigned, else a double. -/
def Number.ofJson : JsonNumber → Number
  | .integer n _ => if n < Int.pow 2 63 then signed (Int64.ofInt n) else unsigned (UInt64.ofNat n.toNat)
  | .fraction negative magnitude => double (.finite negative magnitude)

/-- The date that a marker holds: milliseconds, or an RFC 3339 date-time. -/
def Timestamp.ofJson : Json → Except QueryError Timestamp
  | .number (.integer n _) =>
    if n < Int.pow 2 63 then .ok ⟨Int64.ofInt n⟩ else .error (.invalidDocument .dateMarker)
  | .string text =>
    (Timestamp.ofRfc3339 text).mapError fun fault => .invalidDocument (.dateText fault)
  | _ => .error (.invalidDocument .dateMarker)

namespace Value

mutual

/-- The document node that a JSON value stands for. -/
def ofJson : Json → Except QueryError Value
  | .null => .ok null
  | .bool b => .ok (bool b)
  | .number n => .ok (number (Number.ofJson n))
  | .string s => .ok (string s)
  | .array items => (ofJsonItems items).map array
  | .object [(key, payload)] =>
    if key = dateKey then (Timestamp.ofJson payload).map date
    else (ofJson payload).map fun v => object [(key, some v)]
  | .object members => (ofJsonMembers members).map object

def ofJsonItems : List Json → Except QueryError (List Value)
  | [] => .ok []
  | item :: items => do
    let v ← ofJson item
    let vs ← ofJsonItems items
    return v :: vs

def ofJsonMembers : List (String × Json) → Except QueryError (Fields Value)
  | [] => .ok []
  | (key, member) :: members => do
    let v ← ofJson member
    let fields ← ofJsonMembers members
    return (key, some v) :: fields

end

end Value

end SearchQuery
