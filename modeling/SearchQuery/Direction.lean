import SearchQuery.Error
import SearchQuery.Value.Basic

/-! # Sort directions

  A direction is one of a few words in any case, or one of two numbers. A value is
  turned into text first, so a number, a string and a date that read alike mean
  the same.
-/

namespace SearchQuery

/-- A sort direction. -/
inductive Direction where
  /-- Smallest first. -/
  | asc
  /-- Largest first. -/
  | desc
deriving DecidableEq, Repr

namespace Direction

/-- Ascending, unless something else is said. -/
instance : Inhabited Direction := ⟨asc⟩

def text : Direction → String
  | asc => "asc"
  | desc => "desc"

/-- What a value reads like. -/
def valueText : Value → String
  | .string s => s
  | .number n => n.text
  | .bool b => if b then "true" else "false"
  | .date t => t.text
  | v => v.typeName

/-- The spellings of a direction, in lower case. -/
def spellings : Direction → List String
  | asc => ["1", "asc", "ascending"]
  | desc => ["-1", "desc", "descending"]

/-- The direction that a text spells. Only ASCII letters have two cases here: no
    other character has a lower case that stands in a spelling. -/
def ofString? (text : String) : Option Direction :=
  if text.toLower ∈ asc.spellings then some asc
  else if text.toLower ∈ desc.spellings then some desc
  else none

/-- The direction of a value. The error keeps the text as it was. -/
def ofValue (v : Value) : Except QueryError Direction :=
  match ofString? (valueText v) with
  | some direction => .ok direction
  | none => .error (.invalidDirection (valueText v))

end Direction

end SearchQuery
