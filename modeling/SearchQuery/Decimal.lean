/-! # Decimal numerals

  A `Decimal` is a natural number scaled by a power of ten. A `Numeral` is
  the way such a number is written down: an optional minus sign, digits,
  digits after a point, and a power of ten after an `e`.

  `Numeral.read` takes a numeral off the front of a text. It never gives
  characters back: once a point or an `e` has been seen, digits must follow.
-/

namespace SearchQuery

/-! ### Runs of digits -/

/-- The number that a run of decimal digits stands for. -/
def digitsValue (digits : List Char) : Nat :=
  Nat.ofDigitChars 10 digits 0

/-- The decimal digits of a number, without leading zeros. -/
def decimalDigits (n : Nat) : List Char :=
  Nat.toDigits 10 n

/-- The text of an integer. -/
def integerText (n : Int) : List Char :=
  if n < 0 then '-' :: decimalDigits n.natAbs else decimalDigits n.natAbs

/-- The longest run of digits at the front of a text, and what follows it.
    There is no reading when the text does not start with a digit. -/
def readDigits (text : List Char) : Option (List Char × List Char) :=
  match text.takeWhile Char.isDigit with
  | [] => none
  | digit :: digits => some (digit :: digits, text.dropWhile Char.isDigit)

/-! ### Decimals -/

/-- The number `digits * 10 ^ exponent`. -/
structure Decimal where
  /-- The digits, read as one natural number. -/
  digits : Nat
  /-- The power of ten that scales them. -/
  exponent : Int
deriving DecidableEq, Repr

/-- A decimal as a quotient of natural numbers. -/
def Decimal.ratio (d : Decimal) : Nat × Nat :=
  match d.exponent with
  | .ofNat e => (d.digits * Nat.pow 10 e, 1)
  | .negSucc e => (d.digits, Nat.pow 10 (e + 1))

/-! ### Numerals -/

/-- A number as it is written. -/
structure Numeral where
  /-- Whether a minus sign stands in front. -/
  negative : Bool
  /-- The digits before the point. -/
  whole : List Char
  /-- The digits after the point, if there is a point. -/
  fraction : Option (List Char)
  /-- The power of ten written after an `e`, if there is one. -/
  power : Option Int
deriving DecidableEq, Repr

namespace Numeral

/-- A numeral without a point and without an `e` is written as an integer. -/
def isInteger (n : Numeral) : Bool :=
  n.fraction.isNone && n.power.isNone

/-- The value of a numeral, its sign left aside. -/
def magnitude (n : Numeral) : Decimal where
  digits := digitsValue (n.whole ++ n.fraction.getD [])
  exponent := n.power.getD 0 - (n.fraction.getD []).length

/-- The integer that the sign and the digits before the point stand for. -/
def toInt (n : Numeral) : Int :=
  if n.negative then -(digitsValue n.whole : Int) else digitsValue n.whole

/-- Whether the digits before the point start with a zero that could be left out. -/
def hasLeadingZero (n : Numeral) : Bool :=
  match n.whole with
  | '0' :: _ :: _ => true
  | _ => false

/-- Takes an optional minus sign off the front of a text. -/
def readMinus : List Char → Bool × List Char
  | '-' :: rest => (true, rest)
  | text => (false, text)

/-- Takes an optional plus or minus sign off the front of a text. -/
def readSign : List Char → Bool × List Char
  | '-' :: rest => (true, rest)
  | '+' :: rest => (false, rest)
  | text => (false, text)

/-- Reads a point and the digits after it, if a point comes next. -/
def readFraction : List Char → Option (Option (List Char) × List Char)
  | '.' :: rest => (readDigits rest).map fun (digits, rest) => (some digits, rest)
  | text => some (none, text)

/-- Reads the digits of a power of ten, after its `e`. -/
def readPowerDigits (text : List Char) : Option (Option Int × List Char) :=
  let (negative, text) := readSign text
  (readDigits text).map fun (digits, rest) =>
    (some (if negative then -(digitsValue digits : Int) else digitsValue digits), rest)

/-- Reads a power of ten, if an `e` of either case comes next. -/
def readPower : List Char → Option (Option Int × List Char)
  | 'e' :: rest => readPowerDigits rest
  | 'E' :: rest => readPowerDigits rest
  | text => some (none, text)

/-- Reads a numeral off the front of a text. -/
def read (text : List Char) : Option (Numeral × List Char) := do
  let (negative, text) := readMinus text
  let (whole, text) ← readDigits text
  let (fraction, text) ← readFraction text
  let (power, text) ← readPower text
  return ({ negative, whole, fraction, power }, text)

/-- Reads a text that is one numeral and nothing else. -/
def ofString? (text : String) : Option Numeral :=
  match read text.toList with
  | some (numeral, []) => some numeral
  | _ => none

end Numeral

end SearchQuery
