import SearchQuery.Direction
import SearchQuery.Geo.Basic

/-! # Sort orders

  A sort document maps fields to directions. Each present entry becomes one term,
  in document order; the key for distances maps to a point, which may hold a
  direction of its own.
-/

namespace SearchQuery

/-- A field and the direction to sort it in. -/
structure OrderBy where
  field : String
  direction : Direction
deriving DecidableEq, Repr

namespace OrderBy

def asc (field : String) : OrderBy := ⟨field, .asc⟩

def desc (field : String) : OrderBy := ⟨field, .desc⟩

def text (o : OrderBy) : String := o.field ++ ":" ++ o.direction.text

end OrderBy

/-- A term of a sort order. -/
inductive SortTerm where
  /-- Sorts by a field. -/
  | field (orderBy : OrderBy)
  /-- Sorts by the distance to a point. -/
  | geoPoint (point : GeoPoint) (direction : Direction)
deriving DecidableEq

namespace SortTerm

/-- The key of a sort document that sorts by distance. -/
def geoPointKey : String := "$geoPoint"

/-- Reads a point with the direction beside its coordinates. A direction that is
    absent or null is ascending. -/
def ofPoint (v : Value) : Except QueryError SortTerm := do
  let point ← (GeoPoint.ofValue geoPointKey v).mapError .invalidGeo
  match v.fields?.bind (Fields.get? · "direction") with
  | none | some .null => return geoPoint point .asc
  | some direction => return geoPoint point (← Direction.ofValue direction)

/-- The term of an entry. -/
def ofEntry (key : String) (v : Value) : Except QueryError SortTerm :=
  if key = geoPointKey then ofPoint v
  else (Direction.ofValue v).map fun direction => field ⟨key, direction⟩

/-- The token of a term. -/
def text : SortTerm → String
  | field orderBy => orderBy.text
  | geoPoint point direction => "_geoPoint(" ++ point.text ++ "):" ++ direction.text

end SortTerm

/-- The terms to sort by, the most important first. -/
structure SortOrder where
  terms : List SortTerm
deriving DecidableEq

namespace SortOrder

/-! ### Building -/

def empty : SortOrder := ⟨[]⟩

def isEmpty (s : SortOrder) : Bool := s.terms.isEmpty

/-- Sorts by one more field. -/
def orderBy (s : SortOrder) (field : String) (direction : Direction) : SortOrder :=
  ⟨s.terms ++ [.field ⟨field, direction⟩]⟩

/-- Sorts by one more distance. -/
def geoPoint (s : SortOrder) (point : GeoPoint) (direction : Direction) : SortOrder :=
  ⟨s.terms ++ [.geoPoint point direction]⟩

/-! ### Reading documents -/

/-- The sort order of a document. Null sorts by nothing. -/
def ofValue : Value → Except QueryError SortOrder
  | .null => .ok empty
  | .object fields =>
    SortOrder.mk <$> (Fields.present fields).mapM fun (key, v) => SortTerm.ofEntry key v
  | _ => .error (.invalidDocument .notObject)

/-- One token for each term. -/
def tokens (s : SortOrder) : List String := s.terms.map SortTerm.text

end SortOrder

/-- The tokens of a sort document, if there is one. -/
def compileSort (document? : Option Value) : Except QueryError (List String) :=
  match document? with
  | none => .ok []
  | some document => (SortOrder.ofValue document).map SortOrder.tokens

end SearchQuery
