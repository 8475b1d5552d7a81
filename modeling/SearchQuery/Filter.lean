import SearchQuery.Condition
import SearchQuery.Fragment
import SearchQuery.Geo.Basic

/-! # Filters

  A filter document is an object of clauses or an array of filter documents. All
  of them must hold. The key of a clause tells what it is: a group, a circle, a
  box, or else a condition on the field of that name.

  Reading stops at the first part that is wrong, in document order, so nothing is
  written unless the whole document has a meaning. And-groups have no parentheses:
  AND binds more tightly than OR, and each or-group has its own.
-/

namespace SearchQuery

mutual

/-- A filter document. -/
inductive Filter where
  /-- Every member holds. -/
  | all (members : List Filter)
  /-- Every clause holds. -/
  | clauses (clauses : List Clause)

/-- An entry of a filter document. -/
inductive Clause where
  | group (connective : Connective) (members : List Filter)
  | radius (radius : GeoRadius)
  | box (box : GeoBoundingBox)
  | field (name : String) (condition : Condition)

end

/-! ### Reading documents -/

/-- What the key of a clause announces. -/
inductive ClauseKey where
  | group (connective : Connective)
  | radius
  | box
  | field (name : String)
deriving DecidableEq, Repr

def ClauseKey.ofString (key : String) : ClauseKey :=
  if key = Connective.or.key then group .or
  else if key = Connective.and.key then group .and
  else if key = GeoRadius.key then radius
  else if key ∈ GeoBoundingBox.keys then box
  else field key

/-- The keys that announce something else than a field. -/
def reservedKeys : List String :=
  [Connective.or.key, Connective.and.key, GeoRadius.key] ++ GeoBoundingBox.keys

theorem ClauseKey.ofString_of_not_mem {key : String} (h : key ∉ reservedKeys) :
    ClauseKey.ofString key = .field key := by
  simp only [reservedKeys, List.mem_append, List.mem_cons, List.not_mem_nil, or_false,
    not_or] at h
  obtain ⟨⟨hor, hand, hradius⟩, hbox⟩ := h
  rw [ofString, if_neg hor, if_neg hand, if_neg hradius, if_neg hbox]

mutual

/-- The filter of a document. -/
def Filter.ofValue : Value → Except QueryError Filter
  | .array members => Filter.all <$> Filter.ofItems members
  | .object fields => Filter.clauses <$> Clause.ofFields fields
  | _ => .error (.invalidDocument .notObject)

/-- The filters of several documents. -/
def Filter.ofItems : List Value → Except QueryError (List Filter)
  | [] => .ok []
  | document :: documents => do
    let filter ← Filter.ofValue document
    let filters ← Filter.ofItems documents
    return filter :: filters

/-- The clauses of an object. Absent entries are left out. -/
def Clause.ofFields : List (String × Option Value) → Except QueryError (List Clause)
  | [] => .ok []
  | (_, none) :: fields => Clause.ofFields fields
  | (key, some value) :: fields => do
    let clause ← Clause.ofEntry (ClauseKey.ofString key) value
    let clauses ← Clause.ofFields fields
    return clause :: clauses

/-- The clause of an entry. -/
def Clause.ofEntry (key : ClauseKey) (value : Value) : Except QueryError Clause :=
  match key with
  | .group connective =>
    match value with
    | .array members => Clause.group connective <$> Filter.ofItems members
    | _ => .error (.invalidDocument (.groupNotArray connective))
  | .radius => Clause.radius <$> (GeoRadius.ofValue value).mapError .invalidGeo
  | .box => Clause.box <$> (GeoBoundingBox.ofValue value).mapError .invalidGeo
  | .field name => Clause.field name <$> Condition.ofValue value

end

/-! ### Texts -/

mutual

/-- The expression of a filter. -/
def Filter.text : Filter → String
  | .all members => joinAnd (Filter.texts members)
  | .clauses clauses => joinAnd (Clause.texts clauses)

def Filter.texts : List Filter → List String
  | [] => []
  | filter :: filters => filter.text :: Filter.texts filters

/-- The expression of a clause. -/
def Clause.text : Clause → String
  | .group .and members => joinAnd (Filter.texts members)
  | .group .or members => joinOr (Filter.texts members)
  | .radius radius => radius.text
  | .box box => box.text
  | .field name condition => condition.text name

def Clause.texts : List Clause → List String
  | [] => []
  | clause :: clauses => clause.text :: Clause.texts clauses

end

/-- The expression of a filter document. -/
def compileFilter (document : Value) : Except QueryError String :=
  (Filter.ofValue document).map Filter.text

end SearchQuery
