import SearchQuery.Proofs.Geo.Readers
import SearchQuery.Proofs.Json.Written

/-! # Places written and read

  A place that is written as JSON is read back as it was, to the last bit and with the sign
  of zero, in whatever form its coordinates are written. It does not matter whether it is read
  directly or from a document. A coordinate that is not finite is written as null, and then
  neither reader takes the place.

  Each reader is told by the members that it looks at, so it is enough to follow one
  coordinate from the place to the text and back.
-/

namespace SearchQuery

/-! ### Coordinates -/

namespace Double

/-- A coordinate is written as a number or as null, so nothing lies inside it. -/
theorem toJson_cases (x : Double) :
    (∃ negative magnitude, x = finite negative magnitude ∧
      x.toJson = .number (.fraction negative magnitude)) ∨
    x.isFinite = false ∧ x.toJson = .null := by
  cases x with
  | finite negative magnitude => exact .inl ⟨negative, magnitude, rfl, rfl⟩
  | nan => exact .inr ⟨rfl, rfl⟩
  | infinite negative => exact .inr ⟨rfl, rfl⟩

theorem toJson_eq_null_iff {x : Double} : x.toJson = .null ↔ ¬ x.isFinite := by
  obtain ⟨negative, magnitude, rfl, hjson⟩ | ⟨hfinite, hjson⟩ := x.toJson_cases
  · simp [hjson, isFinite]
  · simp [hjson, hfinite]

theorem isPlain_toJson (x : Double) : x.toJson.IsPlain := by
  obtain ⟨negative, magnitude, -, hjson⟩ | ⟨-, hjson⟩ := x.toJson_cases
  all_goals
    rw [hjson]
    constructor
    · simp [Json.HasDistinctKeys, Json.parts, Json.KeysDiffer]
    · simp [Json.HasNoMarker, Json.parts, Json.marker]

@[simp]
theorem depth_toJson (x : Double) : x.toJson.depth = 0 := by
  obtain ⟨_, _, -, hjson⟩ | ⟨-, hjson⟩ := x.toJson_cases
  all_goals rw [hjson]; rfl

/-- A coordinate is read back exactly if it is finite. -/
theorem double?_writtenAs {x y : Double} {raw : RawJson} (h : x.toJson.WrittenAs raw) :
    raw.double? = some y ↔ x.isFinite ∧ y = x := by
  obtain ⟨negative, magnitude, rfl, hjson⟩ | ⟨hfinite, hjson⟩ := x.toJson_cases
  · rw [hjson] at h
    cases h with
    | number h =>
      rw [h.double?_eq, JsonNumber.toDouble, Option.some_inj, eq_comm]
      simp [isFinite]
  · rw [hjson] at h
    cases h
    simp [RawJson.double?, hfinite]

end Double

/-- A coordinate of an object is read back exactly if it is finite. -/
theorem Json.WrittenAs.coordinate?_eq_some_iff {members : Entries Json} {raw : RawJson}
    (h : WrittenAs (.object members) raw) (hplain : IsPlain (.object members)) {name : String}
    {x y : Double} (hmember : members.lookup name = some x.toJson) :
    raw.coordinate? name = some y ↔ x.isFinite ∧ y = x := by
  obtain ⟨value, hvalue, hwritten⟩ := h.exists_member hplain hmember
  rw [RawJson.coordinate?, hvalue]
  exact Double.double?_writtenAs hwritten

/-! ### Points -/

namespace GeoPoint

/-- Both coordinates are finite. -/
def IsFinite (p : GeoPoint) : Prop := p.lat.isFinite ∧ p.lng.isFinite

theorem isPlain_toJson (p : GeoPoint) : p.toJson.IsPlain := by
  have hkeys : ["lat", "lng"].Nodup := by decide
  refine .of_members hkeys (by decide : dateKey ∉ ["lat", "lng"]) ?_
  simp only [List.forall_mem_cons]
  exact ⟨p.lat.isPlain_toJson, p.lng.isPlain_toJson, fun _ hnone => by cases hnone⟩

@[simp]
theorem depth_toJson (p : GeoPoint) : p.toJson.depth = 1 := by
  simp [toJson, Json.depth, Json.depthOfMembers]

theorem isFinite_and_eq_iff {p q : GeoPoint} :
    p.IsFinite ∧ q = p ↔
      (p.lat.isFinite ∧ q.lat = p.lat) ∧ p.lng.isFinite ∧ q.lng = p.lng := by
  obtain ⟨x, y⟩ := q
  obtain ⟨x', y'⟩ := p
  rw [GeoPoint.mk.injEq, and_and_and_comm]
  rfl

theorem ofRaw?_writtenAs {p q : GeoPoint} {raw : RawJson} (h : p.toJson.WrittenAs raw) :
    ofRaw? raw = some q ↔ p.IsFinite ∧ q = p := by
  have hlat : raw.coordinate? "lat" = some q.lat ↔ p.lat.isFinite ∧ q.lat = p.lat :=
    h.coordinate?_eq_some_iff p.isPlain_toJson rfl
  have hlng : raw.coordinate? "lng" = some q.lng ↔ p.lng.isFinite ∧ q.lng = p.lng :=
    h.coordinate?_eq_some_iff p.isPlain_toJson rfl
  obtain ⟨⟨raws, rfl⟩, -, -⟩ := h.object_members p.isPlain_toJson
  rw [ofRaw?_object, hlat, hlng, isFinite_and_eq_iff]

theorem namesDiffer_writtenAs {p : GeoPoint} {raw : RawJson} (h : p.toJson.WrittenAs raw) :
    raw.NamesDiffer :=
  (h.object_members p.isPlain_toJson).2.1

/-- A point is written as an object. -/
theorem ne_array_of_writtenAs {p : GeoPoint} {raw : RawJson} (h : p.toJson.WrittenAs raw)
    (items : List RawJson) : raw ≠ .array items := by
  obtain ⟨⟨raws, rfl⟩, -, -⟩ := h.object_members p.isPlain_toJson
  intro harray
  cases harray

theorem ofValue_writtenAs {p q : GeoPoint} {raw : RawJson} {v : Value}
    (h : p.toJson.WrittenAs raw) (hv : raw.ReadsAs v) (path : String) :
    ofValue path v = .ok q ↔ p.IsFinite ∧ q = p := by
  rw [ofValue_iff_ofRaw? hv (namesDiffer_writtenAs h), ofRaw?_writtenAs h,
    and_iff_left (ne_array_of_writtenAs h)]

end GeoPoint

/-! ### Circles -/

namespace GeoRadius

/-- The center and the distance are finite. -/
def IsFinite (r : GeoRadius) : Prop := r.center.IsFinite ∧ r.distance.isFinite

theorem isPlain_toJson (r : GeoRadius) : r.toJson.IsPlain := by
  have hkeys : ["lat", "lng", "distanceInMeters"].Nodup := by decide
  refine .of_members hkeys (by decide : dateKey ∉ ["lat", "lng", "distanceInMeters"]) ?_
  simp only [List.forall_mem_cons]
  exact ⟨r.center.lat.isPlain_toJson, r.center.lng.isPlain_toJson, r.distance.isPlain_toJson,
    fun _ hnone => by cases hnone⟩

@[simp]
theorem depth_toJson (r : GeoRadius) : r.toJson.depth = 1 := by
  simp [toJson, Json.depth, Json.depthOfMembers]

theorem isFinite_and_eq_iff {r s : GeoRadius} :
    r.IsFinite ∧ s = r ↔
      (r.center.lat.isFinite ∧ s.center.lat = r.center.lat) ∧
      (r.center.lng.isFinite ∧ s.center.lng = r.center.lng) ∧
      r.distance.isFinite ∧ s.distance = r.distance := by
  obtain ⟨center, d⟩ := s
  obtain ⟨center', d'⟩ := r
  rw [GeoRadius.mk.injEq]
  show (center'.IsFinite ∧ d'.isFinite) ∧ center = center' ∧ d = d' ↔ _
  rw [and_and_and_comm, GeoPoint.isFinite_and_eq_iff, and_assoc]

theorem ofRaw?_writtenAs {r s : GeoRadius} {raw : RawJson} (h : r.toJson.WrittenAs raw) :
    ofRaw? raw = some s ↔ r.IsFinite ∧ s = r := by
  have hlat : raw.coordinate? "lat" = some s.center.lat ↔
      r.center.lat.isFinite ∧ s.center.lat = r.center.lat :=
    h.coordinate?_eq_some_iff r.isPlain_toJson rfl
  have hlng : raw.coordinate? "lng" = some s.center.lng ↔
      r.center.lng.isFinite ∧ s.center.lng = r.center.lng :=
    h.coordinate?_eq_some_iff r.isPlain_toJson rfl
  have hdistance : raw.coordinate? "distanceInMeters" = some s.distance ↔
      r.distance.isFinite ∧ s.distance = r.distance :=
    h.coordinate?_eq_some_iff r.isPlain_toJson rfl
  obtain ⟨⟨raws, rfl⟩, -, -⟩ := h.object_members r.isPlain_toJson
  rw [ofRaw?_object, hlat, hlng, hdistance, isFinite_and_eq_iff]

theorem ofValue_writtenAs {r s : GeoRadius} {raw : RawJson} {v : Value}
    (h : r.toJson.WrittenAs raw) (hv : raw.ReadsAs v) :
    ofValue v = .ok s ↔ r.IsFinite ∧ s = r := by
  obtain ⟨hobject, hnames, -⟩ := h.object_members r.isPlain_toJson
  rw [ofValue_iff_ofRaw? ⟨hobject, hnames, hv⟩, ofRaw?_writtenAs h]

end GeoRadius

/-! ### Boxes -/

namespace GeoBoundingBox

/-- Both corners are finite. -/
def IsFinite (b : GeoBoundingBox) : Prop := b.topRight.IsFinite ∧ b.bottomLeft.IsFinite

theorem isPlain_toJson (b : GeoBoundingBox) : b.toJson.IsPlain := by
  have hkeys : ["topRight", "bottomLeft"].Nodup := by decide
  refine .of_members hkeys (by decide : dateKey ∉ ["topRight", "bottomLeft"]) ?_
  simp only [List.forall_mem_cons]
  exact ⟨b.topRight.isPlain_toJson, b.bottomLeft.isPlain_toJson, fun _ hnone => by cases hnone⟩

@[simp]
theorem depth_toJson (b : GeoBoundingBox) : b.toJson.depth = 2 := by
  simp [toJson, Json.depth, Json.depthOfMembers]

theorem isFinite_and_eq_iff {b c : GeoBoundingBox} :
    b.IsFinite ∧ c = b ↔
      (b.topRight.IsFinite ∧ c.topRight = b.topRight) ∧
      b.bottomLeft.IsFinite ∧ c.bottomLeft = b.bottomLeft := by
  obtain ⟨p, q⟩ := c
  obtain ⟨p', q'⟩ := b
  rw [GeoBoundingBox.mk.injEq, and_and_and_comm]
  rfl

/-- The corners of a box are found where they were written. -/
theorem exists_corners {b : GeoBoundingBox} {raw : RawJson} (h : b.toJson.WrittenAs raw) :
    ∃ topRight bottomLeft,
      raw.member? "topRight" = some topRight ∧ b.topRight.toJson.WrittenAs topRight ∧
      raw.member? "bottomLeft" = some bottomLeft ∧ b.bottomLeft.toJson.WrittenAs bottomLeft := by
  obtain ⟨topRight, htopRight, hp⟩ : ∃ corner, raw.member? "topRight" = some corner ∧
      b.topRight.toJson.WrittenAs corner := h.exists_member b.isPlain_toJson rfl
  obtain ⟨bottomLeft, hbottomLeft, hq⟩ : ∃ corner, raw.member? "bottomLeft" = some corner ∧
      b.bottomLeft.toJson.WrittenAs corner := h.exists_member b.isPlain_toJson rfl
  exact ⟨topRight, bottomLeft, htopRight, hp, hbottomLeft, hq⟩

theorem ofRaw?_writtenAs {b c : GeoBoundingBox} {raw : RawJson} (h : b.toJson.WrittenAs raw) :
    ofRaw? raw = some c ↔ b.IsFinite ∧ c = b := by
  obtain ⟨topRight, bottomLeft, htopRight, hp, hbottomLeft, hq⟩ := exists_corners h
  obtain ⟨⟨raws, rfl⟩, -, -⟩ := h.object_members b.isPlain_toJson
  rw [ofRaw?_object, htopRight, hbottomLeft, isFinite_and_eq_iff]
  simp only [Option.some_inj, exists_eq_left', GeoPoint.ofRaw?_writtenAs hp,
    GeoPoint.ofRaw?_writtenAs hq]

/-- A corner is found in the document of a box, and read from there. -/
theorem corner_writtenAs {raw corner : RawJson} {v : Value} (hreads : raw.ObjectReadsAs v)
    {name : String} (hname : name ≠ dateKey) (hcorner : raw.member? name = some corner)
    {p q : GeoPoint} (hp : p.toJson.WrittenAs corner) (path : String) :
    (∃ field, v.member? name = some field ∧ GeoPoint.ofValue path field = .ok q) ↔
      p.IsFinite ∧ q = p := by
  have hrel := hreads.member_rel hname
  rw [hcorner] at hrel
  generalize v.member? name = field? at hrel
  cases hrel with
  | some hfield => simpa using GeoPoint.ofValue_writtenAs hp hfield path

theorem ofValue_writtenAs {b c : GeoBoundingBox} {raw : RawJson} {v : Value}
    (h : b.toJson.WrittenAs raw) (hv : raw.ReadsAs v) :
    ofValue v = .ok c ↔ b.IsFinite ∧ c = b := by
  obtain ⟨hobject, hnames, -⟩ := h.object_members b.isPlain_toJson
  have hreads : raw.ObjectReadsAs v := ⟨hobject, hnames, hv⟩
  obtain ⟨topRight, bottomLeft, htopRight, hp, hbottomLeft, hq⟩ := exists_corners h
  rw [ofValue_eq_ok_iff, corner_writtenAs hreads (by decide) htopRight hp,
    corner_writtenAs hreads (by decide) hbottomLeft hq, isFinite_and_eq_iff]

end GeoBoundingBox

/-! ### Round trips -/

/-- What the JSON of a place gives: the place itself if it is finite, and else nothing. This
    holds for every text of the JSON and for every document, and there are some. -/
structure SurvivesJson {α : Type} (place : α) (finite : Prop) (json : Json)
    (ofRaw? : RawJson → Option α) (ofValue : Value → Except GeoError α) : Prop where
  hasText : ∃ text, json.IsText text
  hasDocument : (∃ v, Value.ofJson json = .ok v) ∧ ∀ text, json.IsText text →
    ∃ j v, Json.ofString? .nearest text = some j ∧ Value.ofJson j = .ok v
  ofText : ∀ text, json.IsText text → ∃ raw, RawJson.ofString? text = some raw ∧
    ∀ other, ofRaw? raw = some other ↔ finite ∧ other = place
  ofDocument : ∀ v, json.HasDocument v →
    ∀ other, ofValue v = .ok other ↔ finite ∧ other = place

theorem SurvivesJson.of_writtenAs {α : Type} {place : α} {finite : Prop} {json : Json}
    {ofRaw? : RawJson → Option α} {ofValue : Value → Except GeoError α} (hplain : json.IsPlain)
    (hdepth : json.depth ≤ Json.maxDepth)
    (hraw : ∀ {other : α} {raw : RawJson}, json.WrittenAs raw →
      (ofRaw? raw = some other ↔ finite ∧ other = place))
    (hvalue : ∀ {other : α} {raw : RawJson} {v : Value}, json.WrittenAs raw → raw.ReadsAs v →
      (ofValue v = .ok other ↔ finite ∧ other = place)) :
    SurvivesJson place finite json ofRaw? ofValue where
  hasText := hplain.exists_isText
  hasDocument := ⟨hplain.noMarker.exists_ofJson, fun _ htext => hplain.exists_document hdepth htext⟩
  ofText := by
    intro text htext
    obtain ⟨raw, hwritten, hdocument⟩ := htext
    exact ⟨raw, hdocument.ofString?_eq, fun _ => hraw hwritten⟩
  ofDocument := by
    intro v hv other
    obtain ⟨raw, hwritten, hreads⟩ := hv.exists_readsAs hplain.distinctKeys
    exact hvalue hwritten hreads

/-- Places survive being written as JSON and read, directly or from a document. Then they
    have the same text in an expression. -/
theorem places_survive_json :
    -- a coordinate is written as null exactly if it is not finite
    (∀ x : Double, x.toJson = .null ↔ ¬ x.isFinite) ∧
    (∀ (p : GeoPoint) (path : String),
      SurvivesJson p p.IsFinite p.toJson GeoPoint.ofRaw? (GeoPoint.ofValue path)) ∧
    (∀ r : GeoRadius,
      SurvivesJson r r.IsFinite r.toJson GeoRadius.ofRaw? GeoRadius.ofValue ∧
      ∀ v, r.toJson.HasDocument v → r.IsFinite → compileGeoRadius v = .ok r.text) ∧
    ∀ b : GeoBoundingBox,
      SurvivesJson b b.IsFinite b.toJson GeoBoundingBox.ofRaw? GeoBoundingBox.ofValue ∧
      ∀ v, b.toJson.HasDocument v → b.IsFinite → compileGeoBoundingBox v = .ok b.text := by
  refine ⟨fun _ => Double.toJson_eq_null_iff, ?_, ?_, ?_⟩
  · intro p path
    have hdepth : p.toJson.depth ≤ Json.maxDepth := by
      rw [p.depth_toJson]
      decide
    exact .of_writtenAs p.isPlain_toJson hdepth GeoPoint.ofRaw?_writtenAs fun h hv =>
      GeoPoint.ofValue_writtenAs h hv path
  · intro r
    have hdepth : r.toJson.depth ≤ Json.maxDepth := by
      rw [r.depth_toJson]
      decide
    have hsurvives : SurvivesJson r r.IsFinite r.toJson GeoRadius.ofRaw? GeoRadius.ofValue :=
      .of_writtenAs r.isPlain_toJson hdepth GeoRadius.ofRaw?_writtenAs GeoRadius.ofValue_writtenAs
    refine ⟨hsurvives, fun v hv hfinite => ?_⟩
    rw [compileGeoRadius, (hsurvives.ofDocument v hv r).mpr ⟨hfinite, rfl⟩]
    rfl
  · intro b
    have hdepth : b.toJson.depth ≤ Json.maxDepth := by
      rw [b.depth_toJson]
      decide
    have hsurvives :
        SurvivesJson b b.IsFinite b.toJson GeoBoundingBox.ofRaw? GeoBoundingBox.ofValue :=
      .of_writtenAs b.isPlain_toJson hdepth GeoBoundingBox.ofRaw?_writtenAs
        GeoBoundingBox.ofValue_writtenAs
    refine ⟨hsurvives, fun v hv hfinite => ?_⟩
    rw [compileGeoBoundingBox, (hsurvives.ofDocument v hv b).mpr ⟨hfinite, rfl⟩]
    rfl

/-- A circle with minus zero, the least positive double and a double that is written like an
    integer; and a point without finite coordinates. -/
theorem places_survive_json_zero :
    let circle : GeoRadius := ⟨⟨.finite true .zero,
        .finite false ⟨⟨1, 0, by decide, .inr rfl⟩, by decide⟩⟩,
      .finite false ⟨⟨8796093022208000, 1031, by decide, .inl (by decide)⟩, by decide⟩⟩
    let nowhere : GeoPoint := ⟨.nan, .infinite true⟩
    let text := "\x7b\"lat\":-0.0, \"lng\":5e-324, \"distanceInMeters\":1000\x7d"
    let text' := "\x7b\"lat\":null,\"lng\":null\x7d"
    circle.toJson.IsText text ∧ nowhere.toJson.IsText text' ∧
      ∃ raw raw' j v, RawJson.ofString? text = some raw ∧ GeoRadius.ofRaw? raw = some circle ∧
        Json.ofString? .nearest text = some j ∧ Value.ofJson j = .ok v ∧
        GeoRadius.ofValue v = .ok circle ∧
        compileGeoRadius v = .ok "_geoRadius(0, 5e-324, 1000)" ∧
        RawJson.ofString? text' = some raw' ∧ GeoPoint.ofRaw? raw' = none := by
  intro circle nowhere text text'
  -- how the coordinates are written
  let zero : NumberToken :=
    ⟨true, .ofNat 0, DigitRun.isMinimal_ofNat 0, some (.ofNat 0), none⟩
  let least : NumberToken := ⟨false, .ofNat 5, DigitRun.isMinimal_ofNat 5, none, some (.ofInt (-324))⟩
  let thousand : NumberToken := .ofInt 1000
  have hwritten : circle.toJson.WrittenAs (.object
      [("lat".toList.map Quoted.pieceOf, .number zero.numeral),
       ("lng".toList.map Quoted.pieceOf, .number least.numeral),
       ("distanceInMeters".toList.map Quoted.pieceOf, .number thousand.numeral)]) :=
    .object (.cons (.number (.fraction zero (by decide +kernel)))
      (.cons (.number (.fraction least (by decide +kernel)))
        (.cons (.number (.fraction thousand (by decide +kernel))) .nil)))
  have hnowhere : nowhere.toJson.WrittenAs (.object
      [("lat".toList.map Quoted.pieceOf, .null), ("lng".toList.map Quoted.pieceOf, .null)]) :=
    .object (.cons .null (.cons .null .nil))
  have hblank : RawJson.AreBlank [' '] := by
    intro c hc
    rw [List.mem_singleton.mp hc]
    rfl
  have htext : circle.toJson.IsText text := by
    refine ⟨_, hwritten, _, [], ?_, .object (.cons (.mk Json.areBlank_nil Json.areBlank_nil)
      (.number zero) Json.areBlank_nil (.cons (.mk hblank Json.areBlank_nil) (.number least)
      Json.areBlank_nil (.last (.mk hblank Json.areBlank_nil) (.number thousand)
      Json.areBlank_nil))), Json.areBlank_nil⟩
    decide +kernel
  have htext' : nowhere.toJson.IsText text' := by
    refine ⟨_, hnowhere, _, [], ?_, .object (.cons (.mk Json.areBlank_nil Json.areBlank_nil)
      .null Json.areBlank_nil (.last (.mk Json.areBlank_nil Json.areBlank_nil) .null
      Json.areBlank_nil)), Json.areBlank_nil⟩
    decide +kernel
  obtain ⟨-, hpoints, hcircles, -⟩ := places_survive_json
  obtain ⟨hcircle, hcompile⟩ := hcircles circle
  have hfinite : circle.IsFinite := ⟨⟨rfl, rfl⟩, rfl⟩
  obtain ⟨raw, hraw, hread⟩ := hcircle.ofText text htext
  obtain ⟨j, v, hj, hv⟩ := hcircle.hasDocument.2 text htext
  have hdocument : circle.toJson.HasDocument v := .text htext hj hv
  have hcompiled := hcompile v hdocument hfinite
  have hprinted : circle.text = "_geoRadius(0, 5e-324, 1000)" := by decide +kernel
  rw [hprinted] at hcompiled
  obtain ⟨raw', hraw', hread'⟩ := (hpoints nowhere "").ofText text' htext'
  have hnone : GeoPoint.ofRaw? raw' = none := by
    refine Option.eq_none_iff_forall_ne_some.mpr fun p hp => ?_
    obtain ⟨⟨hlat, -⟩, -⟩ := (hread' p).mp hp
    cases hlat
  exact ⟨htext, htext', raw, raw', j, v, hraw, (hread circle).mpr ⟨hfinite, rfl⟩, hj, hv,
    (hcircle.ofDocument v hdocument circle).mpr ⟨hfinite, rfl⟩, hcompiled, hraw', hnone⟩

end SearchQuery
