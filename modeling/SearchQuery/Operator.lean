/-! # Comparison operators

  The closed set of operators that a field may be compared with, grouped by the
  operands they take: any scalar, a number or a date, a list of scalars, a flag,
  two bounds, or a string.

  Each operator has two spellings. A token stands in documents: a dollar sign and
  a word. A symbol stands in builder calls: the bare word, or a sign such as `>=`
  for equality and order. Either spelling is understood everywhere.
-/

namespace SearchQuery

/-! ### The groups -/

/-- Operators that take any scalar. -/
inductive Equality where
  | eq
  | ne
deriving DecidableEq, Repr

/-- Operators that take a number or a date. -/
inductive Order where
  | gt
  | gte
  | lt
  | lte
deriving DecidableEq, Repr

/-- Operators that take a list of scalars. -/
inductive Membership where
  | isIn
  | notIn
deriving DecidableEq, Repr

/-- Operators that take a flag, which is false to ask for the opposite. -/
inductive State where
  | exist
  | empty
deriving DecidableEq, Repr

/-- Operators that take a string. -/
inductive StringTest where
  | contains
  | notContains
  | startsWith
  | notStartsWith
deriving DecidableEq, Repr

/-- A comparison operator. -/
inductive Operator where
  | equality (op : Equality)
  | order (op : Order)
  | membership (op : Membership)
  | state (op : State)
  /-- Takes two bounds, both included in the range. -/
  | between
  | stringTest (op : StringTest)
deriving DecidableEq, Repr

namespace Operator

/-- Every operator. -/
def all : List Operator :=
  [equality .eq, equality .ne,
    order .gt, order .gte, order .lt, order .lte,
    membership .isIn, membership .notIn,
    state .exist, state .empty,
    between,
    stringTest .contains, stringTest .notContains,
    stringTest .startsWith, stringTest .notStartsWith]

theorem mem_all (op : Operator) : op ∈ all := by
  cases op with
  | between => decide
  | _ op => cases op <;> decide

/-! ### Spellings -/

/-- The word that names an operator. -/
def word : Operator → String
  | equality .eq => "eq"
  | equality .ne => "ne"
  | order .gt => "gt"
  | order .gte => "gte"
  | order .lt => "lt"
  | order .lte => "lte"
  | membership .isIn => "in"
  | membership .notIn => "nin"
  | state .exist => "exists"
  | state .empty => "empty"
  | between => "between"
  | stringTest .contains => "contains"
  | stringTest .notContains => "notContains"
  | stringTest .startsWith => "startsWith"
  | stringTest .notStartsWith => "notStartsWith"

/-- The spelling of documents. -/
def token (op : Operator) : String := "$" ++ op.word

/-- The spelling of builder calls. -/
def symbol : Operator → String
  | equality .eq => "="
  | equality .ne => "!="
  | order .gt => ">"
  | order .gte => ">="
  | order .lt => "<"
  | order .lte => "<="
  | op => op.word

/-- The operator with a given spelling. Case matters. -/
def ofString? (spelling : String) : Option Operator :=
  all.find? fun op => spelling = op.token || spelling = op.symbol

end Operator

end SearchQuery
