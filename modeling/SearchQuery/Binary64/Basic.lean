import SearchQuery.Decimal
import SearchQuery.Binary64.Scaled

/-! # Double-precision numbers

  A `Double` is a binary64 number: not a number, an infinity, or a sign with a
  `Magnitude`. Magnitudes are counted in units of `2 ^ -1074`, the least
  positive one, so every finite double is a natural number of units and all
  arithmetic here is exact.

  Decimals and integers become doubles by rounding to nearest, ties to even.
-/

namespace SearchQuery

/-! ### Magnitudes -/

/-- A finite nonnegative double, in units of `2 ^ -1074`. -/
structure Magnitude extends Scaled 53 where
  exponent_le : exponent ≤ 2045
deriving DecidableEq, Repr

namespace Magnitude

/-- The number of units. -/
def units (x : Magnitude) : Nat := x.toScaled.value

/-- How many units make one. -/
def unitsPerOne : Nat := Nat.pow 2 1074

def zero : Magnitude where
  significand := 0
  exponent := 0
  significand_lt := by decide
  full := .inr rfl
  exponent_le := by decide

def isZero (x : Magnitude) : Bool := x.significand == 0

/-- The magnitude nearest to `num / den` units; none when that is too large. -/
def nearest? (num den : Nat) : Option Magnitude :=
  let x : Scaled 53 := Scaled.nearest (by decide) num den
  if h : x.exponent ≤ 2045 then some { x with exponent_le := h } else none

/-- The magnitude nearest to a natural number; none when that is too large. -/
def ofNat? (n : Nat) : Option Magnitude :=
  nearest? (n * unitsPerOne) 1

end Magnitude

/-! ### Decimals to magnitudes -/

namespace Decimal

/-- Where a decimal lies, as far as its exponent alone can tell. The bounds
    keep the powers of ten small; every double lies well between them. -/
inductive Size where
  /-- Zero, or less than `10 ^ -400`. -/
  | tiny
  /-- Anything between. -/
  | ordinary
  /-- At least `10 ^ 400`. -/
  | huge
deriving DecidableEq, Repr

def size (d : Decimal) : Size :=
  if d.digits = 0 ∨ d.exponent + d.digits.log2 + 1 ≤ -400 then .tiny
  else if 400 ≤ d.exponent then .huge
  else .ordinary

/-- The double-precision magnitude nearest to a decimal; none when that is too large. -/
def magnitude? (d : Decimal) : Option Magnitude :=
  match d.size with
  | .tiny => some .zero
  | .huge => none
  | .ordinary => Magnitude.nearest? (d.ratio.1 * Magnitude.unitsPerOne) d.ratio.2

/-- The single-precision magnitude nearest to a decimal, which is a
    double-precision one as well; none when that is too large.
    Single precision counts in units of `2 ^ -149`. -/
def singleMagnitude? (d : Decimal) : Option Magnitude :=
  match d.size with
  | .tiny => some .zero
  | .huge => none
  | .ordinary =>
    let x : Scaled 24 := Scaled.nearest (by decide) (d.ratio.1 * Nat.pow 2 149) d.ratio.2
    if x.exponent ≤ 253 then Magnitude.nearest? (x.value * Nat.pow 2 (1074 - 149)) 1 else none

end Decimal

/-! ### Doubles -/

/-- A double-precision number. -/
inductive Double where
  /-- Not a number. -/
  | nan
  /-- An infinity. -/
  | infinite (negative : Bool)
  /-- A finite number; zero has both signs. -/
  | finite (negative : Bool) (magnitude : Magnitude)
deriving DecidableEq, Repr

namespace Double

/-- A signed magnitude, infinite where the magnitude was too large. -/
def ofMagnitude? (negative : Bool) : Option Magnitude → Double
  | some magnitude => finite negative magnitude
  | none => infinite negative

/-- The double nearest to an integer. -/
def ofInt (n : Int) : Double :=
  ofMagnitude? (n < 0) (Magnitude.ofNat? n.natAbs)

/-- The double nearest to a written number. -/
def ofNumeral (n : Numeral) : Double :=
  ofMagnitude? n.negative n.magnitude.magnitude?

/-- The double equal to the single-precision number nearest to a written number. -/
def singleOfNumeral (n : Numeral) : Double :=
  ofMagnitude? n.negative n.magnitude.singleMagnitude?

def isFinite : Double → Bool
  | finite .. => true
  | _ => false

/-- Numerical equality: the two zeros are equal, and nothing equals `nan`. -/
protected def beq : Double → Double → Bool
  | finite s x, finite t y => x == y && (s == t || x.isZero)
  | infinite s, infinite t => s == t
  | _, _ => false

instance : BEq Double := ⟨Double.beq⟩

end Double

end SearchQuery
