import SearchQuery.Error
import SearchQuery.Literal

/-! # Comparisons

  A comparison is an operator with an operand that it takes. The type has no room
  for a wrong operand, so every comparison has a text. `Comparison.ofOperand`
  tests a value against the operator, and `Comparison.operand` gives the value
  back.
-/

namespace SearchQuery

/-! ### Operands -/

/-- A number or a date. -/
inductive Quantity where
  | number (value : Number)
  | date (value : Timestamp)
deriving DecidableEq

namespace Quantity

def toLiteral : Quantity → Literal
  | number n => .number n
  | date t => .date t

def ofValue? : Value → Option Quantity
  | .number n => some (number n)
  | .date t => some (date t)
  | _ => none

end Quantity

/-- Two bounds of one type. -/
inductive Range where
  | numbers (lower upper : Number)
  | dates (lower upper : Timestamp)
  | strings (lower upper : String)
deriving DecidableEq

namespace Range

def lower : Range → Literal
  | numbers lo _ => .number lo
  | dates lo _ => .date lo
  | strings lo _ => .string lo

def upper : Range → Literal
  | numbers _ hi => .number hi
  | dates _ hi => .date hi
  | strings _ hi => .string hi

/-- Reads two bounds. Their number is tested before their types. -/
def ofItems : List Value → Except RangeError Range
  | [.number lo, .number hi] => .ok (numbers lo hi)
  | [.date lo, .date hi] => .ok (dates lo hi)
  | [.string lo, .string hi] => .ok (strings lo hi)
  | [_, _] => .error .types
  | _ => .error .length

end Range

/-! ### Comparisons -/

/-- An operator and its operand. -/
inductive Comparison where
  | equality (op : Equality) (operand : Literal)
  | order (op : Order) (operand : Quantity)
  | membership (op : Membership) (operands : List Literal)
  | state (op : State) (flag : Bool)
  | between (range : Range)
  | stringTest (op : StringTest) (operand : String)
deriving DecidableEq

namespace Comparison

def operator : Comparison → Operator
  | equality op _ => .equality op
  | order op _ => .order op
  | membership op _ => .membership op
  | state op _ => .state op
  | between _ => .between
  | stringTest op _ => .stringTest op

/-- The operand as a value. -/
def operand : Comparison → Value
  | equality _ l => l.toValue
  | order _ q => q.toLiteral.toValue
  | membership _ ls => .array (ls.map Literal.toValue)
  | state _ b => .bool b
  | between range => .array [range.lower.toValue, range.upper.toValue]
  | stringTest _ s => .string s

/-! ### Testing operands -/

/-- What an operand must be, or else the error that names its operator. -/
def require {α : Type} (op : Operator) (expected : Requirement) : Option α → Except QueryError α
  | some a => .ok a
  | none => .error (.typeMismatch op expected)

/-- Reads a list of scalars. -/
def literals (op : Operator) (v : Value) : Except QueryError (List Literal) := do
  let items ← require op .array v.items?
  require op .scalarItems (items.mapM Literal.ofValue?)

/-- Reads two bounds. -/
def range (v : Value) : Except QueryError Range := do
  let items ← require .between .array v.items?
  (Range.ofItems items).mapError .invalidRange

/-- The comparison with an operator and an operand, if the operator takes it. -/
def ofOperand (op : Operator) (v : Value) : Except QueryError Comparison :=
  match op with
  | .equality e => (equality e) <$> require op .scalar (Literal.ofValue? v)
  | .order o => (order o) <$> require op .numberOrDate (Quantity.ofValue? v)
  | .membership m => (membership m) <$> literals op v
  | .state s => (state s) <$> require op .flag v.bool?
  | .between => between <$> range v
  | .stringTest t => (stringTest t) <$> require op .string v.string?

/-- The comparison with an operator in either spelling. The operator is tested
    before its operand. -/
def ofSpelling (spelling : String) (v : Value) : Except QueryError Comparison :=
  match Operator.ofString? spelling with
  | some op => ofOperand op v
  | none => .error (.unsupportedOperator spelling)

end Comparison

/-! ### Texts -/

/-- The keyword of a membership test. -/
def Membership.keyword : Membership → String
  | isIn => "IN"
  | notIn => "NOT IN"

/-- The keywords of a state, or of its opposite. -/
def State.keyword : State → Bool → String
  | exist, true => "EXISTS"
  | exist, false => "NOT EXISTS"
  | empty, true => "IS EMPTY"
  | empty, false => "IS NOT EMPTY"

/-- The keywords of a string test. -/
def StringTest.keyword : StringTest → String
  | contains => "CONTAINS"
  | notContains => "NOT CONTAINS"
  | startsWith => "STARTS WITH"
  | notStartsWith => "NOT STARTS WITH"

/-- The keywords of a null test. -/
def Equality.nullKeyword : Equality → String
  | eq => "IS NULL"
  | ne => "IS NOT NULL"

namespace Comparison

/-- What stands after the field. -/
def condition : Comparison → String
  | equality op .null => op.nullKeyword
  | equality op l => (Operator.equality op).symbol ++ " " ++ l.text
  | order op q => (Operator.order op).symbol ++ " " ++ q.toLiteral.text
  | membership op ls => op.keyword ++ " " ++ Literal.listText ls
  | state op flag => op.keyword flag
  | between range => range.lower.text ++ " TO " ++ range.upper.text
  | stringTest op s => op.keyword ++ " " ++ quoted s

/-- The comparison of a field, whose name is written as it is. -/
def text (field : String) (c : Comparison) : String :=
  field ++ " " ++ c.condition

end Comparison

/-- A field and what it is compared with. -/
structure Predicate where
  field : String
  comparison : Comparison
deriving DecidableEq

namespace Predicate

/-- The predicate with an operator in either spelling. -/
def ofSpelling (field spelling : String) (v : Value) : Except QueryError Predicate :=
  (Comparison.ofSpelling spelling v).map (Predicate.mk field)

def text (p : Predicate) : String := p.comparison.text p.field

end Predicate

/-- The text of one comparison. -/
def compileComparison (field spelling : String) (v : Value) : Except QueryError String :=
  (Predicate.ofSpelling field spelling v).map Predicate.text

end SearchQuery
