import SearchQuery.Operator
import SearchQuery.Timestamp

/-! # Errors

  Why a document or a builder call has no meaning. Each error is a cause, and
  `QueryError.message` gives its words.
-/

namespace SearchQuery

/-- The key of the object that marks a date. -/
def dateKey : String := "$date"

/-- How the members of a group are joined. -/
inductive Connective where
  | and
  | or
deriving DecidableEq, Repr

/-- The document key of a group. -/
def Connective.key : Connective → String
  | and => "$and"
  | or => "$or"

/-- Why a document does not have the required shape. -/
inductive DocumentError where
  /-- A document that must be an object is something else. -/
  | notObject
  /-- The value of a group is not an array. -/
  | groupNotArray (connective : Connective)
  /-- A date marker holds neither a number of milliseconds nor a string. -/
  | dateMarker
  /-- A date marker holds a string that has no timestamp. -/
  | dateText (fault : Timestamp.Fault)
deriving DecidableEq, Repr

/-- What an operator requires of its operand. -/
inductive Requirement where
  | scalar
  | numberOrDate
  | array
  | scalarItems
  | flag
  | string
deriving DecidableEq, Repr

/-- Why an operand is no range. -/
inductive RangeError where
  /-- There are not exactly two bounds. -/
  | length
  /-- The bounds are not both numbers, both dates or both strings. -/
  | types
deriving DecidableEq, Repr

/-- Why a value is no place on the map. The path names the part at fault. -/
inductive GeoError where
  | notObject (path : String)
  | notNumber (path : String)
deriving DecidableEq, Repr

/-- Why a document or a builder call has no meaning. -/
inductive QueryError where
  /-- A document, or a group in it, does not have the required shape. -/
  | invalidDocument (cause : DocumentError)
  /-- No operator is spelled like this. -/
  | unsupportedOperator (spelling : String)
  /-- An operand is not what its operator requires. -/
  | typeMismatch (op : Operator) (expected : Requirement)
  /-- An operand is no range. -/
  | invalidRange (cause : RangeError)
  /-- A geo value misses a part or has one of the wrong type. -/
  | invalidGeo (cause : GeoError)
  /-- A text is no sort direction. -/
  | invalidDirection (text : String)
  /-- A list of arguments is not a field, an operator and a value. -/
  | invalidArguments
deriving DecidableEq, Repr

/-! ### Messages -/

def DocumentError.message : DocumentError → String
  | notObject => "Expected an object"
  | groupNotArray connective => connective.key ++ " must be an array"
  | dateMarker => dateKey ++ " must be epoch milliseconds or an RFC 3339 string"
  | dateText fault => dateKey ++ " " ++ fault.message

def Requirement.text : Requirement → String
  | scalar => "a scalar value"
  | numberOrDate => "a number or a date"
  | array => "an array"
  | scalarItems => "an array of scalar values"
  | flag => "a boolean"
  | string => "a string"

def RangeError.message : RangeError → String
  | length => Operator.between.token ++ " must have two elements"
  | types => Operator.between.token ++ " must be an array of numbers, dates or strings"

def GeoError.message : GeoError → String
  | notObject path => path ++ " must be an object"
  | notNumber path => path ++ " must be a number"

def QueryError.message : QueryError → String
  | invalidDocument cause => cause.message
  | unsupportedOperator spelling => "Unsupported operator: " ++ spelling
  | typeMismatch op expected => op.token ++ " must be " ++ expected.text
  | invalidRange cause => cause.message
  | invalidGeo cause => cause.message
  | invalidDirection text => "Invalid direction: " ++ text
  | invalidArguments => "Invalid arguments"

/-! ### Results -/

section Results

variable {ε α β γ : Type}

/-- The error of a result, if it is one. -/
def errorOf? : Except ε α → Option ε
  | .error e => some e
  | .ok _ => none

@[simp] theorem errorOf?_error (e : ε) : errorOf? (.error e : Except ε α) = some e := rfl

@[simp] theorem errorOf?_ok (a : α) : errorOf? (.ok a : Except ε α) = none := rfl

theorem errorOf?_eq_some_iff {r : Except ε α} {e : ε} : errorOf? r = some e ↔ r = .error e := by
  cases r <;> simp

theorem errorOf?_eq_none_iff {r : Except ε α} : errorOf? r = none ↔ ∃ a, r = .ok a := by
  cases r <;> simp

theorem errorOf?_map (f : α → β) (r : Except ε α) : errorOf? (r.map f) = errorOf? r := by
  cases r <;> rfl

theorem errorOf?_mapError {ε' : Type} (f : ε → ε') (r : Except ε α) :
    errorOf? (r.mapError f) = (errorOf? r).map f := by
  cases r <;> rfl

/-- Of two results in a row the first error counts. -/
theorem errorOf?_pair (f : α → β → γ) (r : Except ε α) (r' : Except ε β) :
    errorOf? (do let a ← r; let b ← r'; return f a b) = (errorOf? r).or (errorOf? r') := by
  cases r with
  | error e => rfl
  | ok a => cases r' <;> rfl

theorem map_eq_ok_iff {f : α → β} {r : Except ε α} {b : β} :
    r.map f = .ok b ↔ ∃ a, r = .ok a ∧ f a = b := by
  cases r <;> simp [Except.map]

theorem mapError_eq_ok_iff {ε' : Type} {f : ε → ε'} {r : Except ε α} {a : α} :
    r.mapError f = .ok a ↔ r = .ok a := by
  cases r with
  | error e => constructor <;> (intro h; cases h)
  | ok b => constructor <;> (intro h; cases h; rfl)

/-- One result after another is there if the first is, and the second for it. -/
theorem bind_eq_ok_iff {r : Except ε α} {f : α → Except ε β} {b : β} :
    (r >>= f) = .ok b ↔ ∃ a, r = .ok a ∧ f a = .ok b := by
  cases r <;> simp [bind, Except.bind]

/-- A result behind a guard is there if the guard lets it through. -/
theorem guard_eq_ok_iff {p : Prop} [Decidable p] {e : ε} {r : Except ε α} {a : α} :
    (if p then (do Except.error e; r) else r) = .ok a ↔ ¬ p ∧ r = .ok a := by
  by_cases hp : p <;> simp [hp, bind, Except.bind]

/-- Two results in a row are there if both are. -/
theorem pair_eq_ok_iff {f : α → β → γ} {r : Except ε α} {r' : Except ε β} {c : γ} :
    (do let a ← r; let b ← r'; return f a b) = Except.ok c ↔
      ∃ a b, r = .ok a ∧ r' = .ok b ∧ f a b = c := by
  cases r <;> cases r' <;> simp [bind, Except.bind, pure, Except.pure]

end Results

end SearchQuery
