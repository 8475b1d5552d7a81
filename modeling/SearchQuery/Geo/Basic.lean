import SearchQuery.Error
import SearchQuery.Value.Basic

/-! # Places on the map

  Points, circles and boxes, as they stand in documents and in expressions.

  Objects are read by key: order and further keys have no effect. A message names
  the path of the first part that is missing or has the wrong type. Of a box, both
  corners must be objects before any coordinate is looked at.
-/

namespace SearchQuery

/-- A point, in degrees. -/
structure GeoPoint where
  /-- The latitude. -/
  lat : Double
  /-- The longitude. -/
  lng : Double
deriving DecidableEq

/-- All places within a distance of a point. -/
structure GeoRadius where
  center : GeoPoint
  /-- The distance in meters. -/
  distance : Double
deriving DecidableEq

/-- All places between two corners. -/
structure GeoBoundingBox where
  /-- The north-east corner. -/
  topRight : GeoPoint
  /-- The south-west corner. -/
  bottomLeft : GeoPoint
deriving DecidableEq

/-! ### Reading documents -/

namespace GeoError

/-- The path of a part of what lies at another path. -/
def member (path key : String) : String := path ++ "." ++ key

/-- The fields of an object, or the error that names its path. -/
def fieldsAt (path : String) (v? : Option Value) : Except GeoError (Fields Value) :=
  match v?.bind Value.fields? with
  | some fields => .ok fields
  | none => .error (.notObject path)

/-- The number of a field, or the error that names its path. -/
def numberAt (path : String) (fields : Fields Value) (key : String) : Except GeoError Double :=
  match (fields.get? key).bind Value.double? with
  | some x => .ok x
  | none => .error (.notNumber (member path key))

theorem numberAt_of_number {fields : Fields Value} {key : String} {n : Number} (path : String)
    (h : fields.get? key = some (.number n)) : numberAt path fields key = .ok n.toDouble := by
  rw [numberAt, h]
  rfl

theorem numberAt_of_ne_number {fields : Fields Value} {key : String} (path : String)
    (h : ∀ n, fields.get? key ≠ some (.number n)) :
    numberAt path fields key = .error (.notNumber (member path key)) := by
  unfold numberAt
  cases hv : fields.get? key with
  | none => rfl
  | some v =>
    cases v with
    | number n => exact absurd hv (h n)
    | _ => rfl

end GeoError

open GeoError (fieldsAt numberAt)

namespace GeoPoint

/-- Reads the coordinates of a point from the fields at a path. -/
def ofFields (path : String) (fields : Fields Value) : Except GeoError GeoPoint := do
  let lat ← numberAt path fields "lat"
  let lng ← numberAt path fields "lng"
  return { lat, lng }

/-- Reads a point. -/
def ofValue (path : String) (v : Value) : Except GeoError GeoPoint := do
  ofFields path (← fieldsAt path (some v))

end GeoPoint

namespace GeoRadius

/-- The document key of a circle. -/
def key : String := "$geoRadius"

/-- Reads a circle. -/
def ofValue (v : Value) : Except GeoError GeoRadius := do
  let fields ← fieldsAt key (some v)
  let center ← GeoPoint.ofFields key fields
  let distance ← numberAt key fields "distanceInMeters"
  return { center, distance }

end GeoRadius

namespace GeoBoundingBox

/-- The document keys of a box. -/
def keys : List String := ["$geoRoundingBox", "$geoBoundingBox"]

/-- The path of a box in messages, whichever key it has. -/
def path : String := "$geoBoundingBox"

/-- Reads a box. -/
def ofValue (v : Value) : Except GeoError GeoBoundingBox := do
  let fields ← fieldsAt path (some v)
  let topRight ← fieldsAt (GeoError.member path "topRight") (fields.get? "topRight")
  let bottomLeft ← fieldsAt (GeoError.member path "bottomLeft") (fields.get? "bottomLeft")
  return {
    topRight := ← GeoPoint.ofFields (GeoError.member path "topRight") topRight
    bottomLeft := ← GeoPoint.ofFields (GeoError.member path "bottomLeft") bottomLeft }

end GeoBoundingBox

/-! ### Texts -/

/-- Two coordinates with a comma between them. -/
def GeoPoint.text (p : GeoPoint) : String := p.lat.text ++ ", " ++ p.lng.text

def GeoRadius.text (r : GeoRadius) : String :=
  "_geoRadius(" ++ r.center.text ++ ", " ++ r.distance.text ++ ")"

def GeoBoundingBox.text (b : GeoBoundingBox) : String :=
  "_geoBoundingBox([" ++ b.topRight.text ++ "], [" ++ b.bottomLeft.text ++ "])"

/-! ### Compiling -/

/-- The text of a document circle. -/
def compileGeoRadius (v : Value) : Except QueryError String :=
  ((GeoRadius.ofValue v).map GeoRadius.text).mapError .invalidGeo

/-- The text of a document box. -/
def compileGeoBoundingBox (v : Value) : Except QueryError String :=
  ((GeoBoundingBox.ofValue v).map GeoBoundingBox.text).mapError .invalidGeo

end SearchQuery
