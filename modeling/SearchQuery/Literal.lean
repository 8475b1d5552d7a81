import SearchQuery.Json.Quoted
import SearchQuery.Value.Basic

/-! # Literals

  A literal is a scalar value as an expression writes it: strings quoted, dates as
  milliseconds, numbers in their shortest form.
-/

namespace SearchQuery

/-- A scalar operand. -/
inductive Literal where
  | null
  | bool (value : Bool)
  | number (value : Number)
  | string (value : String)
  | date (value : Timestamp)
deriving DecidableEq

namespace Literal

/-- The literal of a scalar value; arrays and objects have none. -/
def ofValue? : Value → Option Literal
  | .null => some null
  | .bool b => some (bool b)
  | .number n => some (number n)
  | .string s => some (string s)
  | .date t => some (date t)
  | .array _ => none
  | .object _ => none

/-- A literal as a value. -/
def toValue : Literal → Value
  | null => .null
  | bool b => .bool b
  | number n => .number n
  | string s => .string s
  | date t => .date t

theorem ofValue?_toValue (l : Literal) : ofValue? l.toValue = some l := by
  cases l <;> rfl

def isNull : Literal → Bool
  | null => true
  | _ => false

/-- The text of a literal in an expression. -/
def text : Literal → String
  | null => "null"
  | bool b => if b then "true" else "false"
  | number n => n.text
  | string s => quoted s
  | date t => t.text

/-- A list of literals in brackets. -/
def listText (literals : List Literal) : String :=
  "[" ++ String.intercalate ", " (literals.map text) ++ "]"

end Literal

end SearchQuery
