import SearchQuery.Binary64.Shortest

/-! # Number notations

  Two ways to lay out the digits of a decimal: `Decimal.plain` puts the point
  where it belongs and pads with zeros, `Decimal.scientific` puts one digit
  before the point and writes a power of ten.

  `Double.text` is the notation of filter and sort expressions. It is plain from
  `10 ^ -6` up to `10 ^ 21` and scientific outside, with the sign of the power
  written out. `Double.scientific` is scientific throughout and keeps the sign of
  zero.
-/

namespace SearchQuery

/-! ### Layouts of a decimal -/

namespace Decimal

/-- The digits with the decimal point in place, without an exponent. -/
def plain (d : Decimal) : List Char :=
  let digits := decimalDigits d.digits
  match d.exponent with
  | .ofNat zeros => digits ++ List.replicate zeros '0'
  | .negSucc p =>
    let places := p + 1
    if places < digits.length then
      digits.take (digits.length - places) ++ '.' :: digits.drop (digits.length - places)
    else
      '0' :: '.' :: List.replicate (places - digits.length) '0' ++ digits

/-- The power of ten of the leading digit. -/
def leadingPower (d : Decimal) : Int :=
  d.exponent + (decimalDigits d.digits).length - 1

/-- The digits with a point after the first; a single digit stands alone. -/
def mantissa : List Char → List Char
  | first :: second :: rest => first :: '.' :: second :: rest
  | digits => digits

/-- One digit before the point and a power of ten, which has `plus` in front
    unless it is negative. -/
def scientific (plus : List Char) (d : Decimal) : List Char :=
  mantissa (decimalDigits d.digits) ++ 'e' ::
    (if d.leadingPower < 0 then [] else plus) ++ integerText d.leadingPower

end Decimal

/-! ### Texts of a double -/

namespace Magnitude

/-- The least magnitude that is written plainly, the double nearest to `10 ^ -6`. -/
def plainFrom : Magnitude where
  significand := 4722366482869645
  exponent := 1002
  significand_lt := by decide
  full := .inl (by decide)
  exponent_le := by decide

/-- The magnitude from which on the notation is scientific, `10 ^ 21`. -/
def plainBelow : Magnitude where
  significand := 7629394531250000
  exponent := 1091
  significand_lt := by decide
  full := .inl (by decide)
  exponent_le := by decide

theorem plainFrom_nearest : Decimal.magnitude? ⟨1, -6⟩ = some plainFrom := by decide +kernel

theorem plainBelow_exact : plainBelow.units = Nat.pow 10 21 * unitsPerOne := by decide +kernel

/-- Whether a magnitude is written without an exponent. -/
def isPlain (x : Magnitude) : Bool :=
  x.isZero || (plainFrom.units ≤ x.units && x.units < plainBelow.units)

/-- The text of a magnitude in an expression. -/
def text (x : Magnitude) : List Char :=
  if x.isPlain then x.shortest.plain else x.shortest.scientific ['+']

end Magnitude

/-- Puts a minus sign in front of the text of a negative number. -/
def withSign (negative : Bool) (text : List Char) : List Char :=
  if negative then '-' :: text else text

namespace Double

/-- The text of a double in an expression. Zero has no sign there, and a double
    that is not finite is written as null. -/
def text : Double → String
  | finite negative x => String.ofList (withSign (negative && !x.isZero) x.text)
  | _ => "null"

/-- The text of a double in scientific notation. -/
def scientific : Double → String
  | nan => "NaN"
  | infinite negative => if negative then "-inf" else "inf"
  | finite negative x => String.ofList (withSign negative (x.shortest.scientific []))

end Double

end SearchQuery
