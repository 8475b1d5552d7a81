import SearchQuery.Filter

/-! # Expression trees

  An expression that is put together by hand instead of being read from a
  document: comparisons, groups and places, and fragments taken as they are.
-/

namespace SearchQuery

/-- An expression put together by hand. -/
inductive Expression where
  /-- A comparison with an operator in either spelling. -/
  | compare (field spelling : String) (operand : Value)
  /-- All members hold. -/
  | and (members : List Expression)
  /-- One of the members holds. -/
  | or (members : List Expression)
  | radius (radius : GeoRadius)
  | box (box : GeoBoundingBox)
  /-- A fragment that is taken as it is. -/
  | fragment (text : String)

namespace Expression

mutual

/-- The fragment of an expression. The first comparison that has no meaning, from
    left to right, is the error. -/
def compile : Expression → Except QueryError String
  | compare field spelling operand => compileComparison field spelling operand
  | and members => joinAnd <$> compileAll members
  | or members => joinOr <$> compileAll members
  | radius r => .ok r.text
  | box b => .ok b.text
  | fragment text => .ok text

def compileAll : List Expression → Except QueryError (List String)
  | [] => .ok []
  | e :: es => do
    let text ← compile e
    let texts ← compileAll es
    return text :: texts

end

end Expression

end SearchQuery
