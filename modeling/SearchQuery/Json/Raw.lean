import SearchQuery.Decimal
import SearchQuery.Json.Quoted

/-! # JSON as it is written

  `RawJson` is the tree of a JSON text before anything is interpreted: numbers are
  numerals, strings are pieces, and objects may repeat a key. `RawJson.ofString?`
  reads a whole text by the grammar of RFC 8259 and accepts nothing else.

  The readers below are given a number of steps. Every step that does not move
  on in the text is followed by one that does, so twice the length of the text
  is enough.
-/

namespace SearchQuery

/-- A JSON value as it is written. -/
inductive RawJson where
  | null
  | bool (value : Bool)
  | number (numeral : Numeral)
  | string (pieces : List Quoted.Piece)
  | array (items : List RawJson)
  | object (members : List (List Quoted.Piece × RawJson))

namespace RawJson

/-! ### Reading -/

/-- The white space of JSON. -/
def isBlank (c : Char) : Bool :=
  c = ' ' || c = '\t' || c = '\n' || c = '\r'

/-- A text without the white space in front. -/
def skipBlank (text : List Char) : List Char :=
  text.dropWhile isBlank

/-- Reads a number, which has no leading zeros. -/
def readNumber (text : List Char) : Option (RawJson × List Char) :=
  match Numeral.read text with
  | some (numeral, rest) => if numeral.hasLeadingZero then none else some (number numeral, rest)
  | none => none

mutual

/-- Reads a value off the front of a text. -/
def readValue : Nat → List Char → Option (RawJson × List Char)
  | 0, _ => none
  | steps + 1, text =>
    match skipBlank text with
    | 'n' :: 'u' :: 'l' :: 'l' :: rest => some (null, rest)
    | 't' :: 'r' :: 'u' :: 'e' :: rest => some (bool true, rest)
    | 'f' :: 'a' :: 'l' :: 's' :: 'e' :: rest => some (bool false, rest)
    | '"' :: rest => do
      let (pieces, rest) ← Quoted.readBody rest
      return (string pieces, rest)
    | '[' :: rest =>
      match skipBlank rest with
      | ']' :: rest => some (array [], rest)
      | rest => do
        let (items, rest) ← readItems steps rest
        return (array items, rest)
    | '{' :: rest =>
      match skipBlank rest with
      | '}' :: rest => some (object [], rest)
      | rest => do
        let (members, rest) ← readMembers steps rest
        return (object members, rest)
    | text => readNumber text

/-- Reads the items of an array that is not empty, and its closing bracket. -/
def readItems : Nat → List Char → Option (List RawJson × List Char)
  | 0, _ => none
  | steps + 1, text => do
    let (item, rest) ← readValue steps text
    match skipBlank rest with
    | ',' :: rest =>
      let (items, rest) ← readItems steps rest
      return (item :: items, rest)
    | ']' :: rest => return ([item], rest)
    | _ => none

/-- Reads the members of an object that is not empty, and its closing brace. -/
def readMembers : Nat → List Char → Option (List (List Quoted.Piece × RawJson) × List Char)
  | 0, _ => none
  | steps + 1, text => do
    let (key, rest) ← Quoted.read (skipBlank text)
    match skipBlank rest with
    | ':' :: rest =>
      let (value, rest) ← readValue steps rest
      match skipBlank rest with
      | ',' :: rest =>
        let (members, rest) ← readMembers steps rest
        return ((key, value) :: members, rest)
      | '}' :: rest => return ([(key, value)], rest)
      | _ => none
    | _ => none

end

/-- Reads a text that is one JSON value with white space around it. -/
def ofList? (text : List Char) : Option RawJson :=
  match readValue (2 * text.length + 2) text with
  | some (value, rest) => if (skipBlank rest).isEmpty then some value else none
  | none => none

/-- Reads a text that is one JSON value with white space around it. -/
def ofString? (text : String) : Option RawJson :=
  ofList? text.toList

/-! ### Nesting -/

mutual

/-- How many arrays and objects lie inside one another. -/
def depth : RawJson → Nat
  | array items => depthOfItems items + 1
  | object members => depthOfMembers members + 1
  | _ => 0

def depthOfItems : List RawJson → Nat
  | [] => 0
  | item :: items => max item.depth (depthOfItems items)

def depthOfMembers : List (List Quoted.Piece × RawJson) → Nat
  | [] => 0
  | (_, value) :: members => max value.depth (depthOfMembers members)

end

end RawJson

end SearchQuery
