import SearchQuery.Geo.Basic
import SearchQuery.Proofs.Dictionary

/-! # Places whose entries are rearranged

  A place is an object whose members are looked up by key. So the order of its entries has no
  effect, and neither has an entry under a key that is not asked for; the same holds of the
  corners of a box.

  `Fields.Rearranged` says how objects may differ that are the same to a reader who asks for
  some keys only. Each of its rules keeps what is found under these keys, and so does any
  number of them.
-/

namespace SearchQuery

/-! ### Looking up -/

namespace Fields

theorem get?_eq_some_iff {fields : Fields Value} (h : (Entries.keys fields).Nodup) {key : String}
    {v : Value} : fields.get? key = some v ↔ (key, some v) ∈ fields := by
  rw [get?, ← Entries.mem_iff_lookup (nodup_keys_present h), mem_present_iff]

/-- The order of entries has no effect on what is found. -/
theorem get?_eq_of_perm {fields fields' : Fields Value} (h : List.Perm fields fields')
    (hnodup : (Entries.keys fields).Nodup) (key : String) : fields'.get? key = fields.get? key := by
  have hnodup' : (Entries.keys fields').Nodup := (h.map Prod.fst).nodup_iff.mp hnodup
  refine Option.ext fun v => ?_
  rw [get?_eq_some_iff hnodup', get?_eq_some_iff hnodup, h.mem_iff]

theorem get?_set_of_ne {fields : Fields Value} (hnodup : (Entries.keys fields).Nodup)
    {key name : String} (hne : name ≠ key) (v? : Option Value) :
    get? (Entries.set fields key v?) name = fields.get? name := by
  rw [get?_eq_lookup (Entries.nodup_keys_set hnodup key v?), get?_eq_lookup hnodup,
    Entries.lookup_set, if_neg hne]

theorem get?_append (fields fields' : Fields Value) (name : String) :
    get? (fields ++ fields') name = (fields.get? name).or (fields'.get? name) := by
  unfold get? present
  rw [List.filterMap_append, List.lookup_append]

theorem get?_cons (key : String) (v : Value) (fields : Fields Value) (name : String) :
    get? ((key, some v) :: fields) name = if name = key then some v else fields.get? name := by
  show List.lookup name ((key, v) :: present fields) = _
  by_cases h : name = key
  · simp [h]
  · have hne : (name == key) = false := by simpa using h
    rw [List.lookup_cons, hne, if_neg h]
    rfl

/-! ### Rearranged objects -/

/-- How objects may differ that are the same to a reader who asks for some keys only, and who
    does not tell apart values that are alike. -/
inductive Rearranged (alike : Value → Value → Prop) (names : List String) :
    Fields Value → Fields Value → Prop where
  /-- The entries stand in another order. -/
  | order {fields fields' : Fields Value} (h : List.Perm fields fields') :
      Rearranged alike names fields fields'
  /-- An entry that is not asked for is set, present or absent. -/
  | other {fields : Fields Value} {key : String} (hkey : key ∉ names) (v? : Option Value) :
      Rearranged alike names fields (Entries.set fields key v?)
  /-- A value is replaced by one that is alike. -/
  | value {before after : Fields Value} {key : String} {v v' : Value} (h : alike v v') :
      Rearranged alike names (before ++ (key, some v) :: after) (before ++ (key, some v') :: after)
  | trans {fields fields' fields'' : Fields Value} (h : Rearranged alike names fields fields')
      (h' : Rearranged alike names fields' fields'') : Rearranged alike names fields fields''

/-- What is found under a key that is asked for stays the same, as far as values are told
    apart, and keys are still not repeated. -/
theorem Rearranged.map_get?_eq {alike : Value → Value → Prop} {names : List String} {α : Type}
    {view : Value → α} (hview : ∀ v v', alike v v' → view v' = view v)
    {fields fields' : Fields Value} (h : Rearranged alike names fields fields')
    (hnodup : (Entries.keys fields).Nodup) :
    (Entries.keys fields').Nodup ∧
      ∀ name ∈ names, (fields'.get? name).map view = (fields.get? name).map view := by
  induction h with
  | order h =>
    refine ⟨(h.map Prod.fst).nodup_iff.mp hnodup, fun name _ => ?_⟩
    rw [get?_eq_of_perm h hnodup]
  | @other fields key hkey v? =>
    refine ⟨Entries.nodup_keys_set hnodup key v?, fun name hname => ?_⟩
    have hne : name ≠ key := fun heq => hkey (heq ▸ hname)
    rw [get?_set_of_ne hnodup hne]
  | @value before after key v v' h =>
    refine ⟨?_, fun name _ => ?_⟩
    · simpa [Entries.keys] using hnodup
    · simp only [get?_append, get?_cons, Option.map_or]
      by_cases hname : name = key
      · simp only [if_pos hname, Option.map_some, hview v v' h]
      · simp only [if_neg hname]
  | trans _ _ ih ih' =>
    obtain ⟨hnodup', hget⟩ := ih hnodup
    obtain ⟨hnodup'', hget'⟩ := ih' hnodup'
    exact ⟨hnodup'', fun name hname => (hget' name hname).trans (hget name hname)⟩

/-- If values are told apart, the same is found. -/
theorem Rearranged.get?_eq {names : List String} {fields fields' : Fields Value}
    (h : Rearranged Eq names fields fields') (hnodup : (Entries.keys fields).Nodup) :
    ∀ name ∈ names, fields'.get? name = fields.get? name := by
  have hview : ∀ v v' : Value, v = v' → id v' = id v := fun _ _ heq => heq.symm
  intro name hname
  have hget := (h.map_get?_eq hview hnodup).2 name hname
  simpa only [Option.map_id, id_eq] using hget

end Fields

/-! ### Rearranged places -/

open GeoError (fieldsAt numberAt)

/-- The keys that a point is read by. -/
def GeoPoint.names : List String := ["lat", "lng"]

/-- The keys that a circle is read by. -/
def GeoRadius.names : List String := ["lat", "lng", "distanceInMeters"]

/-- The keys that a box is read by. -/
def GeoBoundingBox.names : List String := ["topRight", "bottomLeft"]

theorem GeoPoint.ofFields_congr {fields fields' : Fields Value}
    (h : ∀ name ∈ GeoPoint.names, fields'.get? name = fields.get? name) (path : String) :
    GeoPoint.ofFields path fields' = GeoPoint.ofFields path fields := by
  simp only [GeoPoint.names, List.forall_mem_cons] at h
  obtain ⟨hlat, hlng, -⟩ := h
  simp only [GeoPoint.ofFields, numberAt, hlat, hlng]

theorem GeoRadius.ofValue_rearranged {fields fields' : Fields Value}
    (h : Fields.Rearranged Eq GeoRadius.names fields fields')
    (hnodup : (Entries.keys fields).Nodup) :
    GeoRadius.ofValue (.object fields') = GeoRadius.ofValue (.object fields) := by
  have hget := h.get?_eq hnodup
  simp only [GeoRadius.names, List.forall_mem_cons] at hget
  obtain ⟨hlat, hlng, hdistance, -⟩ := hget
  have hread : ∀ fields : Fields Value, GeoRadius.ofValue (.object fields) = (do
      let center ← GeoPoint.ofFields GeoRadius.key fields
      let distance ← numberAt GeoRadius.key fields "distanceInMeters"
      return GeoRadius.mk center distance) := fun _ => rfl
  rw [hread, hread]
  simp only [GeoPoint.ofFields, numberAt, hlat, hlng, hdistance]

namespace GeoBoundingBox

/-- Corners that are the same to a reader: objects without a key twice that have the same
    coordinates. -/
def CornersAlike (v v' : Value) : Prop :=
  ∃ corner corner' : Fields Value, v = .object corner ∧ v' = .object corner' ∧
    (Entries.keys corner).Nodup ∧ Fields.Rearranged Eq GeoPoint.names corner corner'

/-- What a box takes from a value as a corner: the point there, or its fault, for any path. -/
def cornerView (v : Value) : Option (String → Except GeoError GeoPoint) :=
  v.fields?.map fun corner path => GeoPoint.ofFields path corner

theorem CornersAlike.cornerView_eq {v v' : Value} (h : CornersAlike v v') :
    cornerView v' = cornerView v := by
  obtain ⟨corner, corner', rfl, rfl, hnodup, h⟩ := h
  refine congrArg some (funext fun path => ?_)
  exact GeoPoint.ofFields_congr (h.get?_eq hnodup) path

/-- The corner at a path, as a box takes it. -/
def cornerAt (path : String) (fields : Fields Value) (name : String) :
    Except GeoError (String → Except GeoError GeoPoint) :=
  match ((fields.get? name).map cornerView).join with
  | some corner => .ok corner
  | none => .error (.notObject path)

theorem cornerAt_eq (path : String) (fields : Fields Value) (name : String) :
    cornerAt path fields name =
      (fieldsAt path (fields.get? name)).map fun corner path => GeoPoint.ofFields path corner := by
  unfold cornerAt
  cases fields.get? name with
  | none => rfl
  | some v => cases v <;> rfl

theorem ofValue_object (fields : Fields Value) :
    ofValue (.object fields) = (do
      let topRight ← cornerAt (GeoError.member path "topRight") fields "topRight"
      let bottomLeft ← cornerAt (GeoError.member path "bottomLeft") fields "bottomLeft"
      let p ← topRight (GeoError.member path "topRight")
      let q ← bottomLeft (GeoError.member path "bottomLeft")
      return ⟨p, q⟩) := by
  rw [cornerAt_eq, cornerAt_eq]
  show (do
    let topRight ← fieldsAt (GeoError.member path "topRight") (fields.get? "topRight")
    let bottomLeft ← fieldsAt (GeoError.member path "bottomLeft") (fields.get? "bottomLeft")
    let p ← GeoPoint.ofFields (GeoError.member path "topRight") topRight
    let q ← GeoPoint.ofFields (GeoError.member path "bottomLeft") bottomLeft
    return GeoBoundingBox.mk p q) = _
  cases fieldsAt (GeoError.member path "topRight") (fields.get? "topRight") with
  | error e => rfl
  | ok topRight =>
    cases fieldsAt (GeoError.member path "bottomLeft") (fields.get? "bottomLeft") with
    | error e => rfl
    | ok bottomLeft => rfl

theorem ofValue_rearranged {fields fields' : Fields Value}
    (h : Fields.Rearranged CornersAlike names fields fields')
    (hnodup : (Entries.keys fields).Nodup) :
    ofValue (.object fields') = ofValue (.object fields) := by
  have hget := (h.map_get?_eq (fun _ _ halike => halike.cornerView_eq) hnodup).2
  simp only [names, List.forall_mem_cons] at hget
  obtain ⟨htopRight, hbottomLeft, -⟩ := hget
  rw [ofValue_object, ofValue_object]
  simp only [cornerAt, htopRight, hbottomLeft]

end GeoBoundingBox

end SearchQuery
