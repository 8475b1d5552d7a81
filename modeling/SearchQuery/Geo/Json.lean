import SearchQuery.Direction
import SearchQuery.Geo.Basic
import SearchQuery.Json.Basic
import SearchQuery.Json.Raw

/-! # Places and directions as JSON

  Places and directions have a JSON form of their own, apart from documents. A
  record is an object with its named members, each exactly once, among any others;
  or an array of the members in order. Coordinates are any finite numbers.

  Reading works on the text as written, so a member that is not asked for may hold
  anything that is well-formed.
-/

namespace SearchQuery

/-! ### Records -/

namespace RawJson

/-- The number that is written here, if it is one and finite. -/
def double? : RawJson → Option Double
  | number numeral => numeral.magnitude.magnitude?.map (Double.finite numeral.negative)
  | _ => none

/-- The string that is written here. -/
def string? : RawJson → Option String
  | string pieces => Quoted.Piece.toString? pieces
  | _ => none

/-- The members of an object, if every key is text. -/
def members? : RawJson → Option (List (String × RawJson))
  | object members => members.mapM fun (key, value) =>
      (Quoted.Piece.toString? key).map (·, value)
  | _ => none

/-- The value of the only member with a name; none when there are several. -/
def onlyMember? (members : List (String × RawJson)) (name : String) : Option RawJson :=
  match members.filter (fun (key, _) => key = name) with
  | [(_, value)] => some value
  | _ => none

/-- The members of a record, in the order of their names. -/
def record? (names : List String) : RawJson → Option (List RawJson)
  | array items => if items.length = names.length then some items else none
  | value => do
    let members ← value.members?
    names.mapM (onlyMember? members)

end RawJson

/-! ### Reading -/

/-- Reads a point. -/
def GeoPoint.ofRaw? (raw : RawJson) : Option GeoPoint := do
  match ← raw.record? ["lat", "lng"] with
  | [lat, lng] => return ⟨← lat.double?, ← lng.double?⟩
  | _ => none

/-- Reads a circle. -/
def GeoRadius.ofRaw? (raw : RawJson) : Option GeoRadius := do
  match ← raw.record? ["lat", "lng", "distanceInMeters"] with
  | [lat, lng, distance] => return ⟨⟨← lat.double?, ← lng.double?⟩, ← distance.double?⟩
  | _ => none

/-- Reads a box. -/
def GeoBoundingBox.ofRaw? (raw : RawJson) : Option GeoBoundingBox := do
  match ← raw.record? ["topRight", "bottomLeft"] with
  | [topRight, bottomLeft] => return ⟨← GeoPoint.ofRaw? topRight, ← GeoPoint.ofRaw? bottomLeft⟩
  | _ => none

/-- The direction with a name. -/
def Direction.ofName? : String → Option Direction
  | "asc" => some .asc
  | "desc" => some .desc
  | _ => none

/-- Reads a direction: its name, or an object with the name as its only key and
    null as the value. -/
def Direction.ofRaw? (raw : RawJson) : Option Direction :=
  match raw with
  | .object [(key, .null)] => (Quoted.Piece.toString? key).bind Direction.ofName?
  | raw => raw.string?.bind Direction.ofName?

/-! ### Writing -/

/-- A coordinate as JSON: null when it is not finite. -/
def Double.toJson (x : Double) : Json :=
  match JsonNumber.ofDouble? x with
  | some n => .number n
  | none => .null

def GeoPoint.toJson (p : GeoPoint) : Json :=
  .object [("lat", p.lat.toJson), ("lng", p.lng.toJson)]

def GeoRadius.toJson (r : GeoRadius) : Json :=
  .object [("lat", r.center.lat.toJson), ("lng", r.center.lng.toJson),
    ("distanceInMeters", r.distance.toJson)]

def GeoBoundingBox.toJson (b : GeoBoundingBox) : Json :=
  .object [("topRight", b.topRight.toJson), ("bottomLeft", b.bottomLeft.toJson)]

def Direction.toJson (d : Direction) : Json := .string d.text

end SearchQuery
