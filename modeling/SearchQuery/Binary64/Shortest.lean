import SearchQuery.Binary64.Basic

/-! # Shortest decimals

  `Magnitude.shortest` is the decimal with the fewest digits among those that
  round to a given magnitude, and the nearest of them. Of two equally near
  decimals it is the upper one.

  Everything is counted in quarters of `10 ^ -1074`, in which a magnitude, both
  ends of the interval that rounds to it, and every decimal of at most 1074
  places are whole numbers. The search goes down from a place above the leading
  digit, and stops at the first place where one of the two decimals that
  enclose the magnitude lies in the interval.
-/

namespace SearchQuery

namespace Magnitude

/-- A magnitude in units of `10 ^ -1074`. -/
def decimalUnits (x : Magnitude) : Nat := x.units * Nat.pow 5 1074

/-- Half the distance to the next magnitude below, in quarter units. Below a
    power of two the magnitudes lie twice as close. -/
def quartersBelow (x : Magnitude) : Nat :=
  if x.significand = Nat.pow 2 52 ∧ x.exponent ≠ 0 then 1 else 2

/-- The lower end of the interval that rounds to a magnitude, in quarters of
    `10 ^ -1074`. -/
def lowerEnd (x : Magnitude) : Nat :=
  (4 * x.significand - x.quartersBelow) * Nat.pow 2 x.exponent * Nat.pow 5 1074

/-- The upper end of the interval that rounds to a magnitude, in quarters of
    `10 ^ -1074`. -/
def upperEnd (x : Magnitude) : Nat :=
  (4 * x.significand + 2) * Nat.pow 2 x.exponent * Nat.pow 5 1074

/-- Whether a number of units of `10 ^ -1074` rounds to a magnitude. Both ends of
    the interval belong to it exactly when the significand is even. -/
def covers (x : Magnitude) (decimal : Nat) : Bool :=
  if x.significand % 2 = 0 then
    x.lowerEnd ≤ 4 * decimal ∧ 4 * decimal ≤ x.upperEnd
  else
    x.lowerEnd < 4 * decimal ∧ 4 * decimal < x.upperEnd

/-- The decimal with `place` dropped places that rounds to a magnitude and is
    nearest to it, given as a multiple of `10 ^ place`. -/
def atPlace? (x : Magnitude) (place : Nat) : Option Nat :=
  let unit := Nat.pow 10 place
  let below := x.decimalUnits / unit
  let above := below + 1
  match x.covers (below * unit), x.covers (above * unit) with
  | true, true =>
    if 2 * x.decimalUnits < (below + above) * unit then some below else some above
  | true, false => some below
  | false, true => some above
  | false, false => none

/-- The first place at or below `place` that has a decimal, and that decimal.
    All places together give the magnitude itself. -/
def searchDown (x : Magnitude) : Nat → Decimal
  | 0 => ⟨x.decimalUnits, -1074⟩
  | place + 1 =>
    match x.atPlace? (place + 1) with
    | some digits => ⟨digits, (place + 1 : Nat) - 1074⟩
    | none => x.searchDown place

/-- A place above the leading digit: `10 ^ (n / 3 + 1)` exceeds `2 ^ (n + 1)`. -/
def topPlace (x : Magnitude) : Nat := x.decimalUnits.log2 / 3 + 1

/-- The decimal of fewest digits that rounds to a magnitude. -/
def shortest (x : Magnitude) : Decimal :=
  if x.isZero then ⟨0, 0⟩ else x.searchDown x.topPlace

end Magnitude

end SearchQuery
