import SearchQuery.Comparison

/-! # Field conditions

  What a document says about one field: a scalar to be equal to, an array to be a
  member of, or an object of operators that must all hold.
-/

namespace SearchQuery

/-- A condition on a field. -/
inductive Condition where
  /-- The field equals a scalar. -/
  | equals (operand : Literal)
  /-- The field equals one of several scalars. -/
  | oneOf (operands : List Literal)
  /-- All comparisons hold. -/
  | operators (comparisons : List Comparison)
deriving DecidableEq

namespace Condition

/-- The condition of a document value. Absent operators are left out. -/
def ofValue : Value → Except QueryError Condition
  | .array items => oneOf <$> Comparison.literals (.membership .isIn) (.array items)
  | .object fields => operators <$> (Fields.present fields).mapM fun (spelling, operand) =>
      Comparison.ofSpelling spelling operand
  | v => equals <$> Comparison.require (.equality .eq) .scalar (Literal.ofValue? v)

/-- The comparisons that a condition stands for. -/
def comparisons : Condition → List Comparison
  | equals operand => [.equality .eq operand]
  | oneOf operands => [.membership .isIn operands]
  | operators comparisons => comparisons

/-- The text of a condition on a field; empty when there are no operators. -/
def text (field : String) (c : Condition) : String :=
  String.intercalate " AND " (c.comparisons.map (Comparison.text field))

end Condition

/-- The text of the condition on one field. -/
def compileSelector (field : String) (v : Value) : Except QueryError String :=
  (Condition.ofValue v).map (Condition.text field)

end SearchQuery
