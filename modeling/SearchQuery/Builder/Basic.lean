import SearchQuery.Builder.Expression

/-! # Filter builders

  A builder is a filter under construction, given by its fragments. Adding to it
  makes a new builder and leaves it as it was; a builder and those made from it
  share what they have in common.
-/

namespace SearchQuery

/-- The text of a comparison given by a list of arguments: a field, an operator and a
    value. -/
def compileArguments : List Value → Except QueryError String
  | [.string field, .string spelling, operand] => compileComparison field spelling operand
  | _ => .error .invalidArguments

/-- A filter under construction. -/
structure FilterBuilder where
  /-- The fragments, newest first, so that adding one shares all the others. -/
  newestFirst : List String
  /-- The number of fragments, which is kept beside them. -/
  size : Nat
deriving DecidableEq, Repr

namespace FilterBuilder

/-- The builder without fragments. -/
def empty : FilterBuilder := ⟨[], 0⟩

/-- The fragments, oldest first. -/
def fragments (b : FilterBuilder) : List String := b.newestFirst.reverse

/-- Whether nothing was added, however the fragments read. -/
def isEmpty (b : FilterBuilder) : Bool := b.size == 0

/-- Adds a fragment. -/
def push (b : FilterBuilder) (fragment : String) : FilterBuilder :=
  ⟨fragment :: b.newestFirst, b.size + 1⟩

theorem fragments_push (b : FilterBuilder) (fragment : String) :
    (b.push fragment).fragments = b.fragments ++ [fragment] := by
  simp [fragments, push]

/-- Adds a comparison with an operator in either spelling. -/
def compare (b : FilterBuilder) (field spelling : String) (operand : Value) :
    Except QueryError FilterBuilder :=
  (compileComparison field spelling operand).map b.push

/-- Adds an expression. -/
def add (b : FilterBuilder) (e : Expression) : Except QueryError FilterBuilder :=
  e.compile.map b.push

/-- Adds a comparison given by a list of arguments. -/
def compareArguments (b : FilterBuilder) (arguments : List Value) :
    Except QueryError FilterBuilder :=
  (compileArguments arguments).map b.push

/-- The expression: all fragments hold. -/
def build (b : FilterBuilder) : String := joinAnd b.fragments

end FilterBuilder

end SearchQuery
