import SearchQuery.Json.Basic
import SearchQuery.Json.Raw
import SearchQuery.Entries

/-! # JSON documents

  `Json.ofString?` reads a document: a JSON text that is not nested too deeply,
  whose strings are text and whose numbers are finite by the given reading. When an
  object repeats a key, the last value wins and takes the place of the first.
-/

namespace SearchQuery

namespace Json

variable (reading : NumeralReading)

mutual

/-- The value that a written one denotes, if it denotes one. -/
def ofRaw? : RawJson → Option Json
  | .null => some null
  | .bool b => some (bool b)
  | .number numeral => (JsonNumber.ofNumeral? reading numeral).map number
  | .string pieces => (Quoted.Piece.toString? pieces).map string
  | .array items => (ofRawItems? items).map array
  | .object members => (ofRawMembers? members).map fun members => object (Entries.ofPairs members)

def ofRawItems? : List RawJson → Option (List Json)
  | [] => some []
  | item :: items => do
    let item ← ofRaw? item
    let items ← ofRawItems? items
    return item :: items

def ofRawMembers? : List (List Quoted.Piece × RawJson) → Option (Entries Json)
  | [] => some []
  | (key, value) :: members => do
    let key ← Quoted.Piece.toString? key
    let value ← ofRaw? value
    let members ← ofRawMembers? members
    return (key, value) :: members

end

/-- How deeply a document may be nested. -/
def maxDepth : Nat := 127

/-- The value of a JSON document. -/
def ofString? (text : String) : Option Json := do
  let raw ← RawJson.ofString? text
  if raw.depth ≤ maxDepth then ofRaw? reading raw else none

end Json

end SearchQuery
