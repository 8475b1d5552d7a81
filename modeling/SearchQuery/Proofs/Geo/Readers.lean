import SearchQuery.Proofs.Json.Members

/-! # Two readers of places

  A circle or a box is read from JSON in two ways: directly from the text, or from the
  document that the text is read to first. An object gives the same place in both ways,
  or none in both. The only exception is a box with a corner that is an array, which a
  document cannot have.

  Each reader is first told by the members that it looks at. These members agree, so the
  readers do, and whatever else an object holds has no effect on either of them.
-/

namespace SearchQuery

/-! ### What the readers look at -/

namespace RawJson

theorem record?_object (members : List (List Quoted.Piece × RawJson)) (name : String)
    (names : List String) :
    (object members).record? (name :: names) =
      (name :: names).mapM (object members).member? := by
  show ((object members).members? >>= fun named => (name :: names).mapM (onlyMember? named)) = _
  unfold member?
  cases (object members).members? with
  | none => rw [List.mapM_cons]; rfl
  | some named => rfl

end RawJson

theorem GeoPoint.ofRaw?_object {members : List (List Quoted.Piece × RawJson)} {p : GeoPoint} :
    GeoPoint.ofRaw? (.object members) = some p ↔
      (RawJson.object members).coordinate? "lat" = some p.lat ∧
      (RawJson.object members).coordinate? "lng" = some p.lng := by
  obtain ⟨x, y⟩ := p
  unfold GeoPoint.ofRaw? RawJson.coordinate?
  rw [RawJson.record?_object]
  simp only [List.mapM_cons, List.mapM_nil]
  cases (RawJson.object members).member? "lat" with
  | none => simp
  | some lat =>
    cases (RawJson.object members).member? "lng" with
    | none => simp
    | some lng => simp [Option.bind_eq_some_iff]

theorem GeoRadius.ofRaw?_object {members : List (List Quoted.Piece × RawJson)} {r : GeoRadius} :
    GeoRadius.ofRaw? (.object members) = some r ↔
      (RawJson.object members).coordinate? "lat" = some r.center.lat ∧
      (RawJson.object members).coordinate? "lng" = some r.center.lng ∧
      (RawJson.object members).coordinate? "distanceInMeters" = some r.distance := by
  obtain ⟨⟨x, y⟩, d⟩ := r
  unfold GeoRadius.ofRaw? RawJson.coordinate?
  rw [RawJson.record?_object]
  simp only [List.mapM_cons, List.mapM_nil]
  cases (RawJson.object members).member? "lat" with
  | none => simp
  | some lat =>
    cases (RawJson.object members).member? "lng" with
    | none => simp
    | some lng =>
      cases (RawJson.object members).member? "distanceInMeters" with
      | none => simp
      | some distance => simp [Option.bind_eq_some_iff, and_assoc]

theorem GeoBoundingBox.ofRaw?_object {members : List (List Quoted.Piece × RawJson)}
    {b : GeoBoundingBox} :
    GeoBoundingBox.ofRaw? (.object members) = some b ↔
      (∃ corner, (RawJson.object members).member? "topRight" = some corner ∧
        GeoPoint.ofRaw? corner = some b.topRight) ∧
      ∃ corner, (RawJson.object members).member? "bottomLeft" = some corner ∧
        GeoPoint.ofRaw? corner = some b.bottomLeft := by
  obtain ⟨p, q⟩ := b
  unfold GeoBoundingBox.ofRaw?
  rw [RawJson.record?_object]
  simp only [List.mapM_cons, List.mapM_nil]
  cases (RawJson.object members).member? "topRight" with
  | none => simp
  | some topRight =>
    cases (RawJson.object members).member? "bottomLeft" with
    | none => simp
    | some bottomLeft => simp [Option.bind_eq_some_iff]

theorem GeoError.numberAt_eq_ok_iff {path : String} {fields : Fields Value} {key : String}
    {x : Double} :
    GeoError.numberAt path fields key = .ok x ↔
      (Value.object fields).coordinate? key = some x := by
  show _ ↔ (Fields.get? fields key).bind Value.double? = some x
  unfold GeoError.numberAt
  cases (Fields.get? fields key).bind Value.double? <;> simp

/-- What is no object has no coordinates. -/
theorem Value.coordinate?_of_not_object {v : Value} (h : v.fields? = none) (name : String) :
    v.coordinate? name = none := by
  rw [coordinate?, member?, h]
  rfl

theorem GeoPoint.ofFields_eq_ok_iff {path : String} {fields : Fields Value} {p : GeoPoint} :
    GeoPoint.ofFields path fields = .ok p ↔
      (Value.object fields).coordinate? "lat" = some p.lat ∧
      (Value.object fields).coordinate? "lng" = some p.lng := by
  obtain ⟨x, y⟩ := p
  unfold GeoPoint.ofFields
  rw [pair_eq_ok_iff]
  simp only [GeoError.numberAt_eq_ok_iff, GeoPoint.mk.injEq]
  constructor
  · rintro ⟨_, _, hlat, hlng, rfl, rfl⟩
    exact ⟨hlat, hlng⟩
  · rintro ⟨hlat, hlng⟩
    exact ⟨x, y, hlat, hlng, rfl, rfl⟩

theorem GeoPoint.ofValue_eq_ok_iff {path : String} {v : Value} {p : GeoPoint} :
    GeoPoint.ofValue path v = .ok p ↔
      v.coordinate? "lat" = some p.lat ∧ v.coordinate? "lng" = some p.lng := by
  cases hfields : v.fields? with
  | none =>
    simp [GeoPoint.ofValue, GeoError.fieldsAt, hfields, Value.coordinate?_of_not_object hfields,
      bind, Except.bind]
  | some fields =>
    cases v with
    | object fields' => exact GeoPoint.ofFields_eq_ok_iff
    | _ => cases hfields

theorem GeoRadius.ofValue_eq_ok_iff {v : Value} {r : GeoRadius} :
    GeoRadius.ofValue v = .ok r ↔
      v.coordinate? "lat" = some r.center.lat ∧ v.coordinate? "lng" = some r.center.lng ∧
      v.coordinate? "distanceInMeters" = some r.distance := by
  cases hfields : v.fields? with
  | none =>
    simp [GeoRadius.ofValue, GeoError.fieldsAt, hfields, Value.coordinate?_of_not_object hfields,
      bind, Except.bind]
  | some fields =>
    cases v with
    | object fields' =>
      obtain ⟨center, d⟩ := r
      show (do
        let center ← GeoPoint.ofFields GeoRadius.key fields'
        let distance ← GeoError.numberAt GeoRadius.key fields' "distanceInMeters"
        return GeoRadius.mk center distance) = .ok ⟨center, d⟩ ↔ _
      rw [pair_eq_ok_iff]
      simp only [GeoPoint.ofFields_eq_ok_iff, GeoError.numberAt_eq_ok_iff, GeoRadius.mk.injEq]
      constructor
      · rintro ⟨_, _, ⟨hlat, hlng⟩, hdistance, rfl, rfl⟩
        exact ⟨hlat, hlng, hdistance⟩
      · rintro ⟨hlat, hlng, hdistance⟩
        exact ⟨center, d, ⟨hlat, hlng⟩, hdistance, rfl, rfl⟩
    | _ => cases hfields

theorem GeoError.fieldsAt_eq_ok_iff {path : String} {v? : Option Value} {fields : Fields Value} :
    GeoError.fieldsAt path v? = .ok fields ↔ v? = some (.object fields) := by
  unfold GeoError.fieldsAt
  cases v? with
  | none => simp
  | some v => cases v <;> simp [Value.fields?]

theorem GeoBoundingBox.ofValue_eq_ok_iff {v : Value} {b : GeoBoundingBox} :
    GeoBoundingBox.ofValue v = .ok b ↔
      (∃ field, v.member? "topRight" = some field ∧
        GeoPoint.ofValue (GeoError.member GeoBoundingBox.path "topRight") field =
          .ok b.topRight) ∧
      ∃ field, v.member? "bottomLeft" = some field ∧
        GeoPoint.ofValue (GeoError.member GeoBoundingBox.path "bottomLeft") field =
          .ok b.bottomLeft := by
  obtain ⟨p, q⟩ := b
  unfold GeoBoundingBox.ofValue GeoPoint.ofValue
  simp only [bind_eq_ok_iff, GeoError.fieldsAt_eq_ok_iff, Option.some_inj]
  constructor
  · rintro ⟨fields, rfl, topRight, htopRight, bottomLeft, hbottomLeft, _, hp, _, hq, hb⟩
    cases hb
    exact ⟨⟨_, htopRight, _, rfl, hp⟩, ⟨_, hbottomLeft, _, rfl, hq⟩⟩
  · rintro ⟨⟨_, htopRight, topRight, rfl, hp⟩, ⟨_, hbottomLeft, bottomLeft, rfl, hq⟩⟩
    obtain ⟨fields, hfields, hget⟩ := Option.bind_eq_some_iff.mp htopRight
    cases v with
    | object fields' =>
      cases hfields
      exact ⟨_, rfl, topRight, hget, bottomLeft, hbottomLeft, p, hp, q, hq, rfl⟩
    | _ => cases hfields

/-! ### Both readers -/

/-- What one of two related options holds has a property if what the other holds has the
    property that corresponds to it. -/
theorem exists_iff_of_rel {α β : Type} {rel : α → β → Prop} {a? : Option α} {b? : Option β}
    (h : Option.Rel rel a? b?) {p : α → Prop} {q : β → Prop}
    (hiff : ∀ a b, a? = some a → b? = some b → rel a b → (p a ↔ q b)) :
    (∃ a, a? = some a ∧ p a) ↔ ∃ b, b? = some b ∧ q b := by
  cases h with
  | none => simp
  | some hrel => simpa using hiff _ _ rfl rfl hrel

/-- A corner is read from its document as it is read from its text, unless it is an array. -/
theorem GeoPoint.ofValue_iff_ofRaw? {corner : RawJson} {v : Value} (h : corner.ReadsAs v)
    (hnames : corner.NamesDiffer) (path : String) (p : GeoPoint) :
    GeoPoint.ofValue path v = .ok p ↔
      GeoPoint.ofRaw? corner = some p ∧ ∀ items, corner ≠ .array items := by
  rw [GeoPoint.ofValue_eq_ok_iff]
  by_cases hobject : ∃ members, corner = .object members
  · have hreads : corner.ObjectReadsAs v := ⟨hobject, hnames, h⟩
    obtain ⟨members, rfl⟩ := hobject
    rw [GeoPoint.ofRaw?_object, hreads.coordinate?_eq (by decide),
      hreads.coordinate?_eq (by decide)]
    simp
  · have hno : ∀ members, corner ≠ .object members := fun members hcorner =>
      hobject ⟨members, hcorner⟩
    have hnone := Value.coordinate?_of_not_object (h.of_not_object hno).1
    rw [hnone, hnone]
    constructor
    · rintro ⟨hlat, -⟩
      cases hlat
    · rintro ⟨hread, harray⟩
      cases corner with
      | array items => exact absurd rfl (harray items)
      | object members => exact absurd rfl (hno members)
      | _ => cases hread

theorem GeoRadius.ofValue_iff_ofRaw? {raw : RawJson} {v : Value} (h : raw.ObjectReadsAs v)
    (r : GeoRadius) : GeoRadius.ofValue v = .ok r ↔ GeoRadius.ofRaw? raw = some r := by
  have hlat := h.coordinate?_eq (by decide : "lat" ≠ dateKey)
  have hlng := h.coordinate?_eq (by decide : "lng" ≠ dateKey)
  have hdistance := h.coordinate?_eq (by decide : "distanceInMeters" ≠ dateKey)
  obtain ⟨⟨members, rfl⟩, -, -⟩ := h
  rw [GeoRadius.ofValue_eq_ok_iff, GeoRadius.ofRaw?_object, hlat, hlng, hdistance]

namespace RawJson

/-- An object that repeats no name and whose members repeat none, and the document that it
    is read to. -/
structure RecordReadsAs (raw : RawJson) (v : Value) : Prop extends ObjectReadsAs raw v where
  membersNamesDiffer : ∀ name value, raw.HasMember name value → value.NamesDiffer

theorem RecordReadsAs.of_members {members : List (List Quoted.Piece × RawJson)} {v : Value}
    (hnames : (object members).NamesDiffer) (hmembers : ∀ member ∈ members, member.2.NamesDiffer)
    (h : ReadsAs (object members) v) : RecordReadsAs (object members) v where
  isObject := ⟨members, rfl⟩
  namesDiffer := hnames
  readsAs := h
  membersNamesDiffer := by
    rintro name value ⟨key, hmem, -⟩
    exact hmembers (key, value) hmem

/-- No corner of a box is given as an array. -/
def HasNoArrayCorner (raw : RawJson) : Prop :=
  ∀ name ∈ ["topRight", "bottomLeft"], ∀ items, ¬ raw.HasMember name (.array items)

/-- A corner of a box and its field: both are there or none is, and they are read alike
    unless the corner is an array. -/
theorem RecordReadsAs.corner_iff {raw : RawJson} {v : Value} (h : raw.RecordReadsAs v)
    {name : String} (hname : name ≠ dateKey) (path : String) (p : GeoPoint) :
    (∃ field, v.member? name = some field ∧ GeoPoint.ofValue path field = .ok p) ↔
      (∃ corner, raw.member? name = some corner ∧ GeoPoint.ofRaw? corner = some p) ∧
      ∀ items, ¬ raw.HasMember name (.array items) := by
  have hparts : (∃ corner, raw.member? name = some corner ∧
        GeoPoint.ofRaw? corner = some p ∧ ∀ items, corner ≠ .array items) ↔
      ∃ field, v.member? name = some field ∧ GeoPoint.ofValue path field = .ok p := by
    refine exists_iff_of_rel (h.member_rel hname) ?_
    intro corner field hcorner _ hreads
    have hnames := h.membersNamesDiffer name corner (h.member?_eq_some_iff.mp hcorner)
    exact (GeoPoint.ofValue_iff_ofRaw? hreads hnames path p).symm
  rw [← hparts]
  simp only [← h.member?_eq_some_iff]
  constructor
  · rintro ⟨corner, hcorner, hread, hno⟩
    refine ⟨⟨corner, hcorner, hread⟩, fun items harray => hno items ?_⟩
    rw [hcorner] at harray
    exact Option.some_inj.mp harray
  · rintro ⟨⟨corner, hcorner, hread⟩, hno⟩
    refine ⟨corner, hcorner, hread, ?_⟩
    rintro items rfl
    exact hno items hcorner

end RawJson

theorem GeoBoundingBox.ofValue_iff_ofRaw? {raw : RawJson} {v : Value} (h : raw.RecordReadsAs v)
    (b : GeoBoundingBox) :
    GeoBoundingBox.ofValue v = .ok b ↔
      GeoBoundingBox.ofRaw? raw = some b ∧ raw.HasNoArrayCorner := by
  have htopRight := h.corner_iff (by decide : "topRight" ≠ dateKey)
    (GeoError.member GeoBoundingBox.path "topRight") b.topRight
  have hbottomLeft := h.corner_iff (by decide : "bottomLeft" ≠ dateKey)
    (GeoError.member GeoBoundingBox.path "bottomLeft") b.bottomLeft
  have hcorners : raw.HasNoArrayCorner ↔
      (∀ items, ¬ raw.HasMember "topRight" (.array items)) ∧
      ∀ items, ¬ raw.HasMember "bottomLeft" (.array items) := by
    unfold RawJson.HasNoArrayCorner
    simp only [List.forall_mem_cons, List.not_mem_nil, false_implies, implies_true, and_true]
  rw [GeoBoundingBox.ofValue_eq_ok_iff, htopRight, hbottomLeft, hcorners]
  obtain ⟨members, rfl⟩ := h.isObject
  rw [GeoBoundingBox.ofRaw?_object]
  exact and_and_and_comm

/-! ### Unknown members and the order of names -/

namespace RawJson

/-- Two objects have the same members under some names, in any order and among any others.
    The values of such members need only be alike. -/
def AgreeOn (alike : RawJson → RawJson → Prop) (names : List String) (raw raw' : RawJson) : Prop :=
  ∀ name ∈ names,
    (∀ value, raw.HasMember name value →
      ∃ value', raw'.HasMember name value' ∧ alike value value') ∧
    ∀ value', raw'.HasMember name value' →
      ∃ value, raw.HasMember name value ∧ alike value value'

/-- Two corners that are the same, or objects with the same coordinates. -/
def CornersAgree (corner corner' : RawJson) : Prop :=
  corner = corner' ∨ ∃ members members', corner = .object members ∧ corner' = .object members' ∧
    AgreeOn Eq ["lat", "lng"] corner corner'

variable {raw raw' : RawJson} {v v' : Value} {names : List String} {name : String}

/-- Names that differ tell the members, so it is enough to look at one member for each name. -/
theorem agreeOn_iff {alike : RawJson → RawJson → Prop} (h : raw.ObjectReadsAs v)
    (h' : raw'.ObjectReadsAs v') :
    AgreeOn alike names raw raw' ↔
      ∀ name ∈ names, Option.Rel alike (raw.member? name) (raw'.member? name) := by
  refine forall₂_congr fun name _ => ?_
  simp only [← h.member?_eq_some_iff, ← h'.member?_eq_some_iff]
  generalize raw.member? name = member?
  generalize raw'.member? name = member?'
  constructor
  · rintro ⟨hto, hfrom⟩
    cases member? with
    | some value =>
      obtain ⟨value', rfl, halike⟩ := hto value rfl
      exact .some halike
    | none =>
      cases member?' with
      | none => exact .none
      | some value' =>
        obtain ⟨value, hvalue, -⟩ := hfrom value' rfl
        cases hvalue
  · rintro (halike | _)
    · constructor
      · rintro value ⟨⟩
        exact ⟨_, rfl, halike⟩
      · rintro value' ⟨⟩
        exact ⟨_, rfl, halike⟩
    · constructor
      · rintro value ⟨⟩
      · rintro value' ⟨⟩

theorem AgreeOn.coordinate?_eq (hagree : AgreeOn Eq names raw raw') (h : raw.ObjectReadsAs v)
    (h' : raw'.ObjectReadsAs v') (hname : name ∈ names) :
    raw'.coordinate? name = raw.coordinate? name := by
  have hrel := (agreeOn_iff h h').mp hagree name hname
  unfold coordinate?
  generalize raw.member? name = member? at hrel
  generalize raw'.member? name = member?' at hrel
  cases hrel with
  | none => rfl
  | some heq => rw [heq]

/-- Corners that agree are read alike, and if one is an array so is the other. -/
theorem CornersAgree.ofRaw?_eq {corner corner' : RawJson} (hagree : CornersAgree corner corner')
    (h : corner.ReadsAs v) (hnames : corner.NamesDiffer) (h' : corner'.ReadsAs v')
    (hnames' : corner'.NamesDiffer) : GeoPoint.ofRaw? corner' = GeoPoint.ofRaw? corner := by
  rcases hagree with rfl | ⟨members, members', rfl, rfl, hagree⟩
  · rfl
  · have hreads : ObjectReadsAs (object members) v := ⟨⟨_, rfl⟩, hnames, h⟩
    have hreads' : ObjectReadsAs (object members') v' := ⟨⟨_, rfl⟩, hnames', h'⟩
    refine Option.ext fun p => ?_
    rw [GeoPoint.ofRaw?_object, GeoPoint.ofRaw?_object,
      hagree.coordinate?_eq hreads hreads' (by decide),
      hagree.coordinate?_eq hreads hreads' (by decide)]

theorem AgreeOn.ofRaw?_radius_eq
    (hagree : AgreeOn Eq ["lat", "lng", "distanceInMeters"] raw raw') (h : raw.ObjectReadsAs v)
    (h' : raw'.ObjectReadsAs v') : GeoRadius.ofRaw? raw' = GeoRadius.ofRaw? raw := by
  have hcoordinate : ∀ name ∈ ["lat", "lng", "distanceInMeters"],
      raw'.coordinate? name = raw.coordinate? name := fun name hname =>
    hagree.coordinate?_eq h h' hname
  simp only [List.forall_mem_cons] at hcoordinate
  obtain ⟨hlat, hlng, hdistance, -⟩ := hcoordinate
  obtain ⟨members, rfl⟩ := h.isObject
  obtain ⟨members', rfl⟩ := h'.isObject
  refine Option.ext fun r => ?_
  rw [GeoRadius.ofRaw?_object, GeoRadius.ofRaw?_object, hlat, hlng, hdistance]

theorem AgreeOn.corner_iff (hagree : AgreeOn CornersAgree names raw raw') (h : raw.RecordReadsAs v)
    (h' : raw'.RecordReadsAs v') (hname : name ∈ names) (hdate : name ≠ dateKey) (p : GeoPoint) :
    (∃ corner, raw'.member? name = some corner ∧ GeoPoint.ofRaw? corner = some p) ↔
      ∃ corner, raw.member? name = some corner ∧ GeoPoint.ofRaw? corner = some p := by
  have hrel := (agreeOn_iff h.toObjectReadsAs h'.toObjectReadsAs).mp hagree name hname
  refine (exists_iff_of_rel hrel ?_).symm
  intro corner corner' hcorner hcorner' halike
  have hnames := h.membersNamesDiffer name corner (h.member?_eq_some_iff.mp hcorner)
  have hnames' := h'.membersNamesDiffer name corner' (h'.member?_eq_some_iff.mp hcorner')
  obtain ⟨_, hreads⟩ := h.exists_readsAs hdate hcorner
  obtain ⟨_, hreads'⟩ := h'.exists_readsAs hdate hcorner'
  rw [halike.ofRaw?_eq hreads hnames hreads' hnames']

theorem AgreeOn.ofRaw?_box_eq (hagree : AgreeOn CornersAgree ["topRight", "bottomLeft"] raw raw')
    (h : raw.RecordReadsAs v) (h' : raw'.RecordReadsAs v') :
    GeoBoundingBox.ofRaw? raw' = GeoBoundingBox.ofRaw? raw := by
  have htopRight := hagree.corner_iff h h'
    (by decide : "topRight" ∈ ["topRight", "bottomLeft"]) (by decide)
  have hbottomLeft := hagree.corner_iff h h'
    (by decide : "bottomLeft" ∈ ["topRight", "bottomLeft"]) (by decide)
  obtain ⟨members, rfl⟩ := h.isObject
  obtain ⟨members', rfl⟩ := h'.isObject
  refine Option.ext fun b => ?_
  rw [GeoBoundingBox.ofRaw?_object, GeoBoundingBox.ofRaw?_object, htopRight, hbottomLeft]

/-- An array agrees with itself only. -/
theorem AgreeOn.hasNoArrayCorner_iff
    (hagree : AgreeOn CornersAgree ["topRight", "bottomLeft"] raw raw') :
    raw'.HasNoArrayCorner ↔ raw.HasNoArrayCorner := by
  constructor
  · intro hno name hname items hmember
    obtain ⟨value', hmember', heq | ⟨_, _, hobject, -⟩⟩ := (hagree name hname).1 _ hmember
    · exact hno name hname items (heq ▸ hmember')
    · cases hobject
  · intro hno name hname items hmember
    obtain ⟨value, hmember', heq | ⟨_, _, -, hobject, -⟩⟩ := (hagree name hname).2 _ hmember
    · exact hno name hname items (heq ▸ hmember')
    · cases hobject

/-- The two readers agree on every object that repeats no name. A circle is read from the
    document exactly if it is read from the text; so is a box, if no corner is an array, and
    else the document has none. Unknown members and the order of names have no effect. -/
theorem RecordReadsAs.readers_agree (h : raw.RecordReadsAs v) :
    (∀ r, GeoRadius.ofValue v = .ok r ↔ GeoRadius.ofRaw? raw = some r) ∧
    (∀ b, GeoBoundingBox.ofValue v = .ok b ↔
      GeoBoundingBox.ofRaw? raw = some b ∧ raw.HasNoArrayCorner) ∧
    ∀ raw' v', RecordReadsAs raw' v' →
      (AgreeOn Eq ["lat", "lng", "distanceInMeters"] raw raw' →
        GeoRadius.ofRaw? raw' = GeoRadius.ofRaw? raw ∧
        ∀ r, GeoRadius.ofValue v' = .ok r ↔ GeoRadius.ofValue v = .ok r) ∧
      (AgreeOn CornersAgree ["topRight", "bottomLeft"] raw raw' →
        GeoBoundingBox.ofRaw? raw' = GeoBoundingBox.ofRaw? raw ∧
        ∀ b, GeoBoundingBox.ofValue v' = .ok b ↔ GeoBoundingBox.ofValue v = .ok b) := by
  refine ⟨GeoRadius.ofValue_iff_ofRaw? h.toObjectReadsAs, GeoBoundingBox.ofValue_iff_ofRaw? h, ?_⟩
  intro raw' v' h'
  constructor
  · intro hagree
    have hraw := hagree.ofRaw?_radius_eq h.toObjectReadsAs h'.toObjectReadsAs
    refine ⟨hraw, fun r => ?_⟩
    rw [GeoRadius.ofValue_iff_ofRaw? h'.toObjectReadsAs, hraw,
      GeoRadius.ofValue_iff_ofRaw? h.toObjectReadsAs]
  · intro hagree
    have hraw := hagree.ofRaw?_box_eq h h'
    refine ⟨hraw, fun b => ?_⟩
    rw [GeoBoundingBox.ofValue_iff_ofRaw? h', hraw, hagree.hasNoArrayCorner_iff,
      GeoBoundingBox.ofValue_iff_ofRaw? h]

/-- A record that is a circle and a box at once, and the same in another order, with a
    further member in the record and in a corner. -/
theorem RecordReadsAs.readers_agree_record :
    let key (name : String) : List Quoted.Piece := name.toList.map .char
    let integer (digit : Char) : RawJson := number ⟨false, [digit], none, none⟩
    let corner : RawJson := object [(key "lat", integer '1'), (key "lng", integer '2')]
    let corner' : RawJson := object [(key "lng", integer '2'), (key "alt", null),
      (key "lat", integer '1')]
    let circle : List (List Quoted.Piece × RawJson) :=
      [(key "lat", integer '1'), (key "lng", integer '2'), (key "distanceInMeters", integer '3')]
    let record := object (circle ++ [(key "topRight", corner), (key "bottomLeft", corner)])
    let record' := object ([(key "bottomLeft", corner), (key "topRight", corner')] ++ circle ++
      [(key "$date", string [])])
    ∃ v v', record.RecordReadsAs v ∧ record'.RecordReadsAs v' ∧
      (GeoRadius.ofRaw? record).isSome ∧ (GeoBoundingBox.ofRaw? record).isSome ∧
      (∀ r, GeoRadius.ofValue v = .ok r ↔ GeoRadius.ofRaw? record = some r) ∧
      (∀ b, GeoBoundingBox.ofValue v = .ok b ↔
        GeoBoundingBox.ofRaw? record = some b ∧ record.HasNoArrayCorner) ∧
      GeoRadius.ofRaw? record' = GeoRadius.ofRaw? record ∧
      GeoBoundingBox.ofRaw? record' = GeoBoundingBox.ofRaw? record := by
  intro key integer corner corner' circle record record'
  obtain ⟨v, hv⟩ : ∃ v, record.ReadsAs v := ⟨_, _, rfl, rfl⟩
  obtain ⟨v', hv'⟩ : ∃ v, record'.ReadsAs v := ⟨_, _, rfl, rfl⟩
  obtain ⟨c, hc⟩ : ∃ c, corner.ReadsAs c := ⟨_, _, rfl, rfl⟩
  obtain ⟨c', hc'⟩ : ∃ c, corner'.ReadsAs c := ⟨_, _, rfl, rfl⟩
  have h : record.RecordReadsAs v := .of_members (by decide) (by decide) hv
  have h' : record'.RecordReadsAs v' := .of_members (by decide) (by decide) hv'
  have hcircle : AgreeOn Eq ["lat", "lng", "distanceInMeters"] record record' := by
    rw [agreeOn_iff h.toObjectReadsAs h'.toObjectReadsAs]
    simp only [List.forall_mem_cons]
    exact ⟨.some rfl, .some rfl, .some rfl, fun _ hnone => by cases hnone⟩
  have hcorner : AgreeOn Eq ["lat", "lng"] corner corner' := by
    rw [agreeOn_iff ⟨⟨_, rfl⟩, by decide, hc⟩ ⟨⟨_, rfl⟩, by decide, hc'⟩]
    simp only [List.forall_mem_cons]
    exact ⟨.some rfl, .some rfl, fun _ hnone => by cases hnone⟩
  have hbox : AgreeOn CornersAgree ["topRight", "bottomLeft"] record record' := by
    rw [agreeOn_iff h.toObjectReadsAs h'.toObjectReadsAs]
    simp only [List.forall_mem_cons]
    exact ⟨.some (.inr ⟨_, _, rfl, rfl, hcorner⟩), .some (.inl rfl), fun _ hnone => by cases hnone⟩
  have hsome : (GeoRadius.ofRaw? record).isSome ∧ (GeoBoundingBox.ofRaw? record).isSome := by
    decide +kernel
  obtain ⟨hradius, hboxes, hothers⟩ := h.readers_agree
  exact ⟨v, v', h, h', hsome.1, hsome.2, hradius, hboxes, ((hothers _ _ h').1 hcircle).1,
    ((hothers _ _ h').2 hbox).1⟩

end RawJson

end SearchQuery
