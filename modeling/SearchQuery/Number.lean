import SearchQuery.Binary64.Notation

/-! # Numbers

  A number of a query document is a signed or unsigned 64-bit integer or a
  double. The three kinds stay apart, so that an integer keeps all its digits;
  where a computation needs one kind, `Number.toDouble` rounds to the nearest
  double.
-/

namespace SearchQuery

/-- A number of a query document. -/
inductive Number where
  /-- A signed 64-bit integer. -/
  | signed (value : Int64)
  /-- An unsigned 64-bit integer. -/
  | unsigned (value : UInt64)
  /-- A double-precision number. -/
  | double (value : Double)
deriving DecidableEq

namespace Number

/-- The double nearest to a number. -/
def toDouble : Number → Double
  | signed n => Double.ofInt n.toInt
  | unsigned n => Double.ofInt n.toNat
  | double x => x

/-- The text of a number in an expression: integers digit for digit, doubles in
    their shortest form. -/
def text : Number → String
  | signed n => String.ofList (integerText n.toInt)
  | unsigned n => String.ofList (decimalDigits n.toNat)
  | double x => x.text

/-- Numbers of different kinds differ; doubles are compared numerically. -/
protected def beq : Number → Number → Bool
  | signed m, signed n => m == n
  | unsigned m, unsigned n => m == n
  | double x, double y => x == y
  | _, _ => false

instance : BEq Number := ⟨Number.beq⟩

end Number

end SearchQuery
