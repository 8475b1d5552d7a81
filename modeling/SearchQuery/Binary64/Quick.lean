import SearchQuery.Binary64.Basic

/-! # Quick reading of numerals

  The double nearest to a numeral depends on every digit. The quick reading takes
  only the leading digits that fit into 64 bits and scales them by a power of ten
  in double precision. Each step rounds, so the result may miss the nearest double
  by a few units in its last place, and a number at the upper end of the range may
  come out too large.

  A `NumeralReading` says which of the two is meant.
-/

namespace SearchQuery

/-! ### Double-precision steps -/

namespace Magnitude

/-- The magnitude nearest to a product; none when that is too large. -/
def times? (x y : Magnitude) : Option Magnitude :=
  nearest? (x.units * y.units) unitsPerOne

/-- The magnitude nearest to a quotient; none when that is too large. -/
def over? (x y : Magnitude) : Option Magnitude :=
  nearest? (x.units * unitsPerOne) y.units

/-- The greatest power of ten that a double can hold. -/
def maxPower : Nat := 308

/-- The magnitude nearest to a power of ten. -/
def powerOfTen? (n : Nat) : Option Magnitude :=
  Decimal.magnitude? ⟨1, n⟩

/-- Divides by the greatest power of ten, so many times unless zero is reached, and
    then by `10 ^ places`. -/
def scaleDown? (places : Nat) (x : Magnitude) : Nat → Option Magnitude
  | 0 => do x.over? (← powerOfTen? places)
  | times + 1 =>
    if x.isZero then some x
    else do scaleDown? places (← x.over? (← powerOfTen? maxPower)) times

end Magnitude

/-- Scales the digits of a decimal by its power of ten, in double precision. -/
def Decimal.quickMagnitude? (d : Decimal) : Option Magnitude := do
  let x ← Magnitude.ofNat? d.digits
  match d.exponent with
  | .ofNat n =>
    if n ≤ Magnitude.maxPower then x.times? (← Magnitude.powerOfTen? n)
    else if x.isZero then return x
    else none
  | .negSucc n => x.scaleDown? (n % Magnitude.maxPower + 1) (n / Magnitude.maxPower)

/-! ### Leading digits -/

namespace Numeral

/-- Appends digits to a number as long as it fits into 64 bits. The digits that are
    left over are given back. -/
def appendDigits (n : Nat) : List Char → Nat × List Char
  | [] => (n, [])
  | digit :: digits =>
    let next := Nat.ofDigitChars 10 [digit] n
    if next < Nat.pow 2 64 then appendDigits next digits else (n, digit :: digits)

/-- The value of the leading digits. Digits left over before the point keep their
    places as zeros; those after the point are cut off. -/
def leading (n : Numeral) : Decimal :=
  let fraction := n.fraction.getD []
  let (whole, wholeLeft) := appendDigits 0 n.whole
  let (digits, fractionLeft) := appendDigits whole fraction
  { digits
    exponent := n.power.getD 0 + wholeLeft.length - (fraction.length - fractionLeft.length : Nat) }

end Numeral

/-! ### Readings -/

/-- How a numeral becomes a double. -/
inductive NumeralReading where
  /-- The nearest double. -/
  | nearest
  /-- The leading digits, scaled in double precision. -/
  | quick
deriving DecidableEq, Repr

/-- The magnitude of a numeral; none when it is too large. -/
def NumeralReading.magnitude? : NumeralReading → Numeral → Option Magnitude
  | nearest, n => n.magnitude.magnitude?
  | quick, n => n.leading.quickMagnitude?

end SearchQuery
