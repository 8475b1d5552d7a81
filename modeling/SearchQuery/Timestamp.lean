import SearchQuery.Timestamp.Rfc3339

/-! # Timestamps

  A timestamp is a number of milliseconds since 1970-01-01T00:00:00Z. An
  RFC 3339 date-time becomes one by cutting its instant toward the epoch.
-/

namespace SearchQuery

/-- A number of milliseconds since the epoch. -/
structure Timestamp where
  millis : Int64
deriving DecidableEq

namespace Timestamp

/-- Why a text has no timestamp. -/
inductive Fault where
  /-- The text is no date-time. -/
  | notDateTime (fault : Rfc3339.Fault)
  /-- The instant is too far from the epoch. -/
  | outOfRange
deriving DecidableEq, Repr

def Fault.message : Fault → String
  | notDateTime fault => "is not a valid RFC 3339 date: " ++ fault.message
  | outOfRange => "is out of range"

/-- The last whole millisecond between the epoch and an instant given in
    nanoseconds, if there are not too many. -/
def ofInstant (nanoseconds : Int) : Except Fault Timestamp :=
  let millis := nanoseconds.tdiv 1000000
  if -Int.pow 2 63 ≤ millis ∧ millis < Int.pow 2 63 then .ok ⟨Int64.ofInt millis⟩
  else .error .outOfRange

/-- The timestamp of an RFC 3339 date-time. -/
def ofRfc3339 (text : String) : Except Fault Timestamp := do
  let t ← (Rfc3339.DateTime.ofList text.toList).mapError .notDateTime
  ofInstant t.instant

/-- The decimal digits of the milliseconds. -/
def text (t : Timestamp) : String :=
  String.ofList (integerText t.millis.toInt)

end Timestamp

end SearchQuery
