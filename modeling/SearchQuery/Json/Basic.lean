import SearchQuery.Binary64.Quick

/-! # JSON values

  The values that a JSON document denotes. Numbers are integers of 64 bits,
  signed or unsigned, or finite doubles; objects keep the order of their members.
-/

namespace SearchQuery

/-- A number of a JSON document. -/
inductive JsonNumber where
  /-- An integer that fits into 64 bits, with or without a sign. -/
  | integer (value : Int) (fits : -Int.pow 2 63 ≤ value ∧ value < Int.pow 2 64)
  /-- A finite double. -/
  | fraction (negative : Bool) (magnitude : Magnitude)
deriving DecidableEq

namespace JsonNumber

/-- The number that a numeral denotes: an integer when it is written as one and
    fits, else a double by the given reading. Minus zero is a double, since no
    integer carries its sign. There is none when the double would be infinite. -/
def ofNumeral? (reading : NumeralReading) (n : Numeral) : Option JsonNumber :=
  if h : n.isInteger ∧ ¬ (n.negative ∧ n.toInt = 0) ∧
      -Int.pow 2 63 ≤ n.toInt ∧ n.toInt < Int.pow 2 64 then
    some (integer n.toInt h.2.2)
  else
    (reading.magnitude? n).map (fraction n.negative)

/-- The JSON number equal to a double; none when the double is not finite. -/
def ofDouble? : Double → Option JsonNumber
  | .finite negative magnitude => some (fraction negative magnitude)
  | _ => none

/-- The double nearest to a JSON number. -/
def toDouble : JsonNumber → Double
  | integer n _ => Double.ofInt n
  | fraction negative magnitude => .finite negative magnitude

end JsonNumber

/-- A JSON value. -/
inductive Json where
  | null
  | bool (value : Bool)
  | number (value : JsonNumber)
  | string (value : String)
  | array (items : List Json)
  /-- Members in document order. -/
  | object (members : List (String × Json))

end SearchQuery
