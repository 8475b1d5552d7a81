/-! # Quoted strings

  A quoted string stands between double quotes. `quote` escapes what has to be
  escaped and nothing else: the double quote, the backslash and the characters
  below the space. `readQuoted` takes a quoted string off the front of a text and
  understands every escape of the JSON grammar.

  Escapes of the form `\uXXXX` name 16-bit units. Two of them may stand for one
  character as a surrogate pair, and a surrogate without its partner stands for
  none, so reading gives a list of `Piece`s and `Piece.decode?` joins them.
-/

namespace SearchQuery

namespace Quoted

/-! ### Writing -/

/-- A hexadecimal digit in lower case. -/
def hexDigit (n : Nat) : Char := Nat.digitChar n

/-- A character as it stands between the quotes. -/
def escape (c : Char) : List Char :=
  match c with
  | '"' => ['\\', '"']
  | '\\' => ['\\', '\\']
  | '\x08' => ['\\', 'b']
  | '\x0c' => ['\\', 'f']
  | '\n' => ['\\', 'n']
  | '\r' => ['\\', 'r']
  | '\t' => ['\\', 't']
  | c =>
    if c.toNat < 32 then ['\\', 'u', '0', '0', hexDigit (c.toNat / 16), hexDigit (c.toNat % 16)]
    else [c]

/-- A text between quotes. -/
def quote (text : List Char) : List Char :=
  '"' :: text.flatMap escape ++ ['"']

/-! ### Reading -/

/-- A part of a quoted string: a character, or a 16-bit unit given by its number. -/
inductive Piece where
  | char (c : Char)
  | unit (n : Nat)
deriving DecidableEq, Repr

namespace Piece

/-- The first unit of a surrogate pair. -/
def isLeading (n : Nat) : Bool := 0xD800 ≤ n && n < 0xDC00

/-- The second unit of a surrogate pair. -/
def isTrailing (n : Nat) : Bool := 0xDC00 ≤ n && n < 0xE000

/-- The character that a surrogate pair stands for. -/
def pair (leading trailing : Nat) : Char :=
  Char.ofNat (0x10000 + (leading - 0xD800) * 0x400 + (trailing - 0xDC00))

/-- The characters that pieces stand for; none when a surrogate is alone. -/
def decode? : List Piece → Option (List Char)
  | [] => some []
  | char c :: rest => (decode? rest).map (c :: ·)
  | unit m :: unit n :: rest =>
    if isLeading m then
      if isTrailing n then (decode? rest).map (pair m n :: ·) else none
    else if isTrailing m then none
    else (decode? (unit n :: rest)).map (Char.ofNat m :: ·)
  | unit m :: rest =>
    if isLeading m || isTrailing m then none
    else (decode? rest).map (Char.ofNat m :: ·)

/-- The string that pieces stand for. -/
def toString? (pieces : List Piece) : Option String :=
  (decode? pieces).map String.ofList

end Piece

/-- The value of a hexadecimal digit of either case. -/
def hexValue? (c : Char) : Option Nat :=
  if c.isDigit then some (c.toNat - '0'.toNat)
  else if 'a' ≤ c ∧ c ≤ 'f' then some (c.toNat - 'a'.toNat + 10)
  else if 'A' ≤ c ∧ c ≤ 'F' then some (c.toNat - 'A'.toNat + 10)
  else none

/-- The unit that four hexadecimal digits name. -/
def hexUnit? (a b c d : Char) : Option Nat := do
  return (((← hexValue? a) * 16 + (← hexValue? b)) * 16 + (← hexValue? c)) * 16 + (← hexValue? d)

/-- The character that a one-letter escape stands for. -/
def shortEscape? : Char → Option Char
  | '"' => some '"'
  | '\\' => some '\\'
  | '/' => some '/'
  | 'b' => some '\x08'
  | 'f' => some '\x0c'
  | 'n' => some '\n'
  | 'r' => some '\r'
  | 't' => some '\t'
  | _ => none

/-- Reads up to the closing quote. -/
def readBody : List Char → Option (List Piece × List Char)
  | [] => none
  | '"' :: rest => some ([], rest)
  | '\\' :: 'u' :: a :: b :: c :: d :: rest => do
    let n ← hexUnit? a b c d
    let (pieces, rest) ← readBody rest
    return (.unit n :: pieces, rest)
  | '\\' :: c :: rest => do
    let c ← shortEscape? c
    let (pieces, rest) ← readBody rest
    return (.char c :: pieces, rest)
  | c :: rest =>
    if c.toNat < 32 ∨ c = '\\' then none
    else do
      let (pieces, rest) ← readBody rest
      return (.char c :: pieces, rest)

/-- Reads a quoted string off the front of a text. -/
def read : List Char → Option (List Piece × List Char)
  | '"' :: rest => readBody rest
  | _ => none

end Quoted

/-- A string between quotes. -/
def quoted (text : String) : String :=
  String.ofList (Quoted.quote text.toList)

end SearchQuery
