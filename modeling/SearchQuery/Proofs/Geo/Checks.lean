import SearchQuery.Filter
import SearchQuery.Proofs.Geo.Readers
import SearchQuery.Proofs.Geo.Rearranged

/-! # What is checked of a place, and in which order

  `GeoCheck` is one thing that is looked at: whether an object or a number lies at the end of a
  way of keys. Of a circle and of a box the checks are listed in their order. A place is read if
  it passes all of them, and else the error names the path of the first that it does not pass.

  Each part of a reader is told by its own checks, so that a reader has the checks of its parts
  one after the other. Of a box, the objects are checked before all that lies in them.
-/

namespace SearchQuery

open GeoError (fieldsAt numberAt)

/-! ### Checks -/

/-- What lies in a value at the end of a way of keys. -/
def Value.part? : Value → List String → Option Value
  | v, [] => some v
  | v, key :: keys => (v.member? key).bind fun member => member.part? keys

theorem Value.part?_object (fields : Fields Value) (name : String) :
    (Value.object fields).part? [name] = fields.get? name := by
  simp [part?, member?, fields?]

theorem Value.part?_append_singleton (v : Value) (way : List String) (key : String) :
    v.part? (way ++ [key]) = (v.part? way).bind (·.member? key) := by
  induction way generalizing v with
  | nil => simp [part?]
  | cons name way ih =>
    rw [List.cons_append, part?, part?, Option.bind_assoc]
    simp only [ih]

/-- What is looked at of a place: whether an object or a number lies at the end of a way. -/
inductive GeoCheck where
  | object (way : List String)
  | number (way : List String)
deriving DecidableEq, Repr

namespace GeoCheck

/-- Whether a value has what is looked for. -/
def Passes (v : Value) : GeoCheck → Prop
  | object way => ∃ fields, v.part? way = some (.object fields)
  | number way => ∃ n, v.part? way = some (.number n)

/-- The path of a part, from the name of the place on. -/
def pathOf (root : String) (way : List String) : String :=
  String.intercalate "." (root :: way)

/-- The error that names what is not there. -/
def fault (root : String) : GeoCheck → GeoError
  | object way => .notObject (pathOf root way)
  | number way => .notNumber (pathOf root way)

/-- Whether an error is that of the first check that a value does not pass. -/
def IsFirstFault (root : String) (checks : List GeoCheck) (v : Value) (e : GeoError) : Prop :=
  ∃ before check after, checks = before ++ check :: after ∧
    (∀ earlier ∈ before, earlier.Passes v) ∧ ¬ check.Passes v ∧ e = check.fault root

theorem pathOf_append_singleton (root : String) (way : List String) (key : String) :
    pathOf root (way ++ [key]) = GeoError.member (pathOf root way) key := by
  unfold pathOf
  rw [← List.cons_append, String.intercalate_append_of_ne_nil (by simp) (by simp),
    String.intercalate_singleton]
  rfl

/-! ### Checks one after the other -/

/-- What reading the end of a way finds wrong. -/
def fault? (root : String) (v : Value) : GeoCheck → Option GeoError
  | object way => errorOf? (fieldsAt (pathOf root way) (v.part? way))
  | number way =>
    if ((v.part? way).bind Value.double?).isSome then none else some (.notNumber (pathOf root way))

theorem fault?_eq_none_iff {root : String} {v : Value} {check : GeoCheck} :
    check.fault? root v = none ↔ check.Passes v := by
  cases check with
  | object way =>
    rw [fault?, Passes, errorOf?_eq_none_iff]
    simp only [GeoError.fieldsAt_eq_ok_iff]
  | number way =>
    rw [fault?, Passes]
    cases v.part? way with
    | none => simp
    | some part => cases part <;> simp [Value.double?, Value.number?]

theorem fault?_eq_some_iff {root : String} {v : Value} {check : GeoCheck} {e : GeoError} :
    check.fault? root v = some e ↔ ¬ check.Passes v ∧ e = check.fault root := by
  rw [← @fault?_eq_none_iff root]
  cases check with
  | object way =>
    rw [fault?, fault, fieldsAt]
    cases (v.part? way).bind Value.fields? <;> simp [eq_comm]
  | number way =>
    rw [fault?, fault]
    cases (v.part? way).bind Value.double? <;> simp [eq_comm]

/-- The fault of the first check that is not passed. -/
def firstFault? (root : String) (v : Value) (checks : List GeoCheck) : Option GeoError :=
  checks.findSome? (fault? root v)

theorem firstFault?_eq_none_iff {root : String} {v : Value} {checks : List GeoCheck} :
    firstFault? root v checks = none ↔ ∀ check ∈ checks, check.Passes v := by
  rw [firstFault?, List.findSome?_eq_none_iff]
  simp only [fault?_eq_none_iff]

theorem firstFault?_eq_some_iff {root : String} {v : Value} {checks : List GeoCheck}
    {e : GeoError} : firstFault? root v checks = some e ↔ IsFirstFault root checks v e := by
  rw [firstFault?, List.findSome?_eq_some_iff]
  simp only [fault?_eq_none_iff, fault?_eq_some_iff]
  constructor
  · rintro ⟨before, check, after, hchecks, hfault, hbefore⟩
    exact ⟨before, check, after, hchecks, hbefore, hfault⟩
  · rintro ⟨before, check, after, hchecks, hbefore, hfault⟩
    exact ⟨before, check, after, hchecks, hfault, hbefore⟩

/-- What fails for the first fault is there if every check is passed, and only then. -/
theorem outcome_iff {α : Type} {r : Except GeoError α} {root : String} {v : Value}
    {checks : List GeoCheck} (h : errorOf? r = firstFault? root v checks) :
    ((∃ a, r = .ok a) ↔ ∀ check ∈ checks, check.Passes v) ∧
      ∀ e, r = .error e ↔ IsFirstFault root checks v e := by
  constructor
  · rw [← errorOf?_eq_none_iff, h, firstFault?_eq_none_iff]
  · intro e
    rw [← errorOf?_eq_some_iff, h, firstFault?_eq_some_iff]

theorem firstFault?_append (root : String) (v : Value) (checks checks' : List GeoCheck) :
    firstFault? root v (checks ++ checks') =
      (firstFault? root v checks).or (firstFault? root v checks') :=
  List.findSome?_append

theorem firstFault?_singleton (root : String) (v : Value) (check : GeoCheck) :
    firstFault? root v [check] = check.fault? root v := by
  simp [firstFault?]

/-- A check that is passed leaves it to those that follow. -/
theorem firstFault?_cons_of_passes {root : String} {v : Value} {check : GeoCheck}
    (h : check.Passes v) (checks : List GeoCheck) :
    firstFault? root v (check :: checks) = firstFault? root v checks := by
  simp [firstFault?, fault?_eq_none_iff.mpr h]

/-! ### The readers -/

/-- What is checked of a point that lies at the end of a way. -/
def coordinates (way : List String) : List GeoCheck :=
  [.number (way ++ ["lat"]), .number (way ++ ["lng"])]

section

variable {root : String} {v : Value} {way : List String}

/-- An object is checked before what is read from it. -/
theorem errorOf?_fieldsAt_bind {α : Type} {read : Fields Value → Except GeoError α}
    {checks : List GeoCheck}
    (h : ∀ fields, v.part? way = some (.object fields) →
      errorOf? (read fields) = firstFault? root v checks) :
    errorOf? (fieldsAt (pathOf root way) (v.part? way) >>= read) =
      firstFault? root v (.object way :: checks) := by
  cases hfields : fieldsAt (pathOf root way) (v.part? way) with
  | error e => simp [bind, Except.bind, firstFault?, fault?, hfields]
  | ok fields =>
    have hpart := GeoError.fieldsAt_eq_ok_iff.mp hfields
    have hpasses : (object way).Passes v := ⟨fields, hpart⟩
    rw [firstFault?_cons_of_passes hpasses, ← h fields hpart]
    rfl

variable {fields : Fields Value} (h : v.part? way = some (.object fields))
include h

theorem errorOf?_numberAt (root key : String) :
    errorOf? (numberAt (pathOf root way) fields key) =
      fault? root v (.number (way ++ [key])) := by
  have hpart : v.part? (way ++ [key]) = fields.get? key := by
    rw [Value.part?_append_singleton, h]
    rfl
  rw [fault?, hpart, pathOf_append_singleton, numberAt]
  cases (fields.get? key).bind Value.double? <;> rfl

theorem errorOf?_ofFields (root : String) :
    errorOf? (GeoPoint.ofFields (pathOf root way) fields) =
      firstFault? root v (coordinates way) := by
  rw [GeoPoint.ofFields, errorOf?_pair, errorOf?_numberAt h, errorOf?_numberAt h,
    ← firstFault?_singleton, ← firstFault?_singleton, ← firstFault?_append]
  rfl

end

end GeoCheck

open GeoCheck (coordinates errorOf?_fieldsAt_bind errorOf?_ofFields errorOf?_numberAt)

/-- What is checked of a circle, in this order. -/
def GeoRadius.checks : List GeoCheck :=
  [.object [], .number ["lat"], .number ["lng"], .number ["distanceInMeters"]]

theorem GeoRadius.errorOf?_ofValue (v : Value) :
    errorOf? (GeoRadius.ofValue v) = GeoCheck.firstFault? GeoRadius.key v GeoRadius.checks := by
  refine @errorOf?_fieldsAt_bind _ _ [] _ _ _ fun (fields : Fields Value) hfields => ?_
  have hcenter := errorOf?_ofFields hfields key
  have hdistance := errorOf?_numberAt hfields key "distanceInMeters"
  calc errorOf? (do
        let center ← GeoPoint.ofFields key fields
        let distance ← numberAt key fields "distanceInMeters"
        return GeoRadius.mk center distance)
      = (errorOf? (GeoPoint.ofFields key fields)).or
          (errorOf? (numberAt key fields "distanceInMeters")) := errorOf?_pair _ _ _
    _ = (GeoCheck.firstFault? key v (coordinates [])).or
          (GeoCheck.firstFault? key v [.number ["distanceInMeters"]]) := by
        rw [GeoCheck.firstFault?_singleton]
        exact congrArg₂ Option.or hcenter hdistance
    _ = _ := (GeoCheck.firstFault?_append key v _ _).symm

/-- What is checked of a box, in this order: both corners before any coordinate. -/
def GeoBoundingBox.checks : List GeoCheck :=
  [.object [], .object ["topRight"], .object ["bottomLeft"],
    .number ["topRight", "lat"], .number ["topRight", "lng"],
    .number ["bottomLeft", "lat"], .number ["bottomLeft", "lng"]]

theorem GeoBoundingBox.errorOf?_ofValue (v : Value) :
    errorOf? (GeoBoundingBox.ofValue v) =
      GeoCheck.firstFault? GeoBoundingBox.path v GeoBoundingBox.checks := by
  refine @errorOf?_fieldsAt_bind _ _ [] _ _ _ fun (fields : Fields Value) hfields => ?_
  obtain rfl : v = .object fields := Option.some_inj.mp hfields
  rw [← Value.part?_object, ← Value.part?_object]
  refine @errorOf?_fieldsAt_bind _ _ ["topRight"] _ _ _ fun topRight htopRight => ?_
  refine @errorOf?_fieldsAt_bind _ _ ["bottomLeft"] _ _ _ fun bottomLeft hbottomLeft => ?_
  have hp := errorOf?_ofFields htopRight path
  have hq := errorOf?_ofFields hbottomLeft path
  calc errorOf? (do
        let p ← GeoPoint.ofFields (GeoError.member path "topRight") topRight
        let q ← GeoPoint.ofFields (GeoError.member path "bottomLeft") bottomLeft
        return GeoBoundingBox.mk p q)
      = (errorOf? (GeoPoint.ofFields (GeoError.member path "topRight") topRight)).or
          (errorOf? (GeoPoint.ofFields (GeoError.member path "bottomLeft") bottomLeft)) :=
        errorOf?_pair _ _ _
    _ = (GeoCheck.firstFault? path _ (coordinates ["topRight"])).or
          (GeoCheck.firstFault? path _ (coordinates ["bottomLeft"])) := congrArg₂ Option.or hp hq
    _ = _ := (GeoCheck.firstFault?_append path _ _ _).symm

/-- What the checks of a box say, one after the other. -/
example : (GeoBoundingBox.checks.map fun check => (check.fault GeoBoundingBox.path).message) =
    ["$geoBoundingBox must be an object", "$geoBoundingBox.topRight must be an object",
      "$geoBoundingBox.bottomLeft must be an object",
      "$geoBoundingBox.topRight.lat must be a number",
      "$geoBoundingBox.topRight.lng must be a number",
      "$geoBoundingBox.bottomLeft.lat must be a number",
      "$geoBoundingBox.bottomLeft.lng must be a number"] := by decide

/-! ### Places in documents -/

/-- A clause under either key of a box has the faults of the box. -/
theorem Clause.ofEntry_box_eq_error_iff {key : String} (hkey : key ∈ GeoBoundingBox.keys)
    {v : Value} {e : QueryError} :
    Clause.ofEntry (ClauseKey.ofString key) v = .error e ↔
      ∃ fault, GeoBoundingBox.ofValue v = .error fault ∧ e = .invalidGeo fault := by
  have hbox : ClauseKey.ofString key = .box := by
    simp only [GeoBoundingBox.keys, List.mem_cons, List.not_mem_nil, or_false] at hkey
    rcases hkey with rfl | rfl <;> decide
  rw [hbox, Clause.ofEntry]
  cases GeoBoundingBox.ofValue v with
  | ok b => constructor <;> simp [Except.mapError, Functor.map, Except.map]
  | error fault => simp [Except.mapError, Functor.map, Except.map, eq_comm]

/-- Places are read by key, and checked in a fixed order. -/
theorem places_checked_in_order :
    -- the order of entries has no effect, nor have entries that are not asked for
    (∀ fields fields' : Fields Value, (Entries.keys fields).Nodup →
      Fields.Rearranged Eq GeoRadius.names fields fields' →
      GeoRadius.ofValue (.object fields') = GeoRadius.ofValue (.object fields)) ∧
    -- of the corners of a box either
    (∀ fields fields' : Fields Value, (Entries.keys fields).Nodup →
      Fields.Rearranged GeoBoundingBox.CornersAlike GeoBoundingBox.names fields fields' →
      GeoBoundingBox.ofValue (.object fields') = GeoBoundingBox.ofValue (.object fields)) ∧
    -- a place is read if it passes all checks, and else the first that it does not pass is told
    (∀ v, ((∃ r, GeoRadius.ofValue v = .ok r) ↔ ∀ check ∈ GeoRadius.checks, check.Passes v) ∧
      ∀ e, GeoRadius.ofValue v = .error e ↔
        GeoCheck.IsFirstFault "$geoRadius" GeoRadius.checks v e) ∧
    (∀ v, ((∃ b, GeoBoundingBox.ofValue v = .ok b) ↔
        ∀ check ∈ GeoBoundingBox.checks, check.Passes v) ∧
      ∀ e, GeoBoundingBox.ofValue v = .error e ↔
        GeoCheck.IsFirstFault "$geoBoundingBox" GeoBoundingBox.checks v e) ∧
    -- so a corner that is no object is told before the coordinates of the other
    (∀ fields corner : Fields Value, fields.get? "topRight" = some (.object corner) →
      (∀ corner', fields.get? "bottomLeft" ≠ some (.object corner')) →
      GeoBoundingBox.ofValue (.object fields) =
        .error (.notObject "$geoBoundingBox.bottomLeft")) ∧
    -- and the path of a box is the same under either of its keys
    (∀ key ∈ GeoBoundingBox.keys, ∀ v e,
      Clause.ofEntry (ClauseKey.ofString key) v = .error e ↔
        ∃ fault, GeoCheck.IsFirstFault "$geoBoundingBox" GeoBoundingBox.checks v fault ∧
          e = .invalidGeo fault) := by
  have hbox (v : Value) := GeoCheck.outcome_iff (GeoBoundingBox.errorOf?_ofValue v)
  refine ⟨fun _ _ hnodup h => GeoRadius.ofValue_rearranged h hnodup,
    fun _ _ hnodup h => GeoBoundingBox.ofValue_rearranged h hnodup,
    fun v => GeoCheck.outcome_iff (GeoRadius.errorOf?_ofValue v), hbox, ?_, ?_⟩
  · intro fields corner htopRight hbottomLeft
    rw [(hbox _).2]
    refine ⟨[.object [], .object ["topRight"]], .object ["bottomLeft"], _, rfl, ?_, ?_, rfl⟩
    · simp only [List.forall_mem_cons]
      refine ⟨⟨fields, rfl⟩, ⟨corner, ?_⟩, fun _ hnone => by cases hnone⟩
      rw [Value.part?_object, htopRight]
    · rintro ⟨corner', hcorner'⟩
      rw [Value.part?_object] at hcorner'
      exact hbottomLeft corner' hcorner'
  · intro key hkey v e
    rw [Clause.ofEntry_box_eq_error_iff hkey]
    simp only [(hbox v).2]
    rfl

/-- A box with two faults, and the same with its entries and those of a corner in another order
    and with more of them. A circle whose entries are set and then put in another order. -/
theorem places_checked_in_order_faults :
    let number (n : Int64) : Option Value := some (.number (.signed n))
    let corner : Fields Value := [("lat", some (.string "north")), ("lng", number 2)]
    let corner' : Fields Value :=
      [("lng", number 2), ("lat", some (.string "north")), ("alt", none)]
    let box : Fields Value := [("topRight", some (.object corner)), ("bottomLeft", some .null)]
    let box' : Fields Value :=
      [("bottomLeft", some .null), ("topRight", some (.object corner')), ("name", number 0)]
    let circle : Fields Value :=
      [("lat", number 1), ("lng", number 2), ("distanceInMeters", number 3)]
    let circle' : Fields Value :=
      [("topRight", none), ("lat", number 1), ("lng", number 2), ("distanceInMeters", number 3)]
    Fields.Rearranged GeoBoundingBox.CornersAlike GeoBoundingBox.names box box' ∧
      GeoBoundingBox.ofValue (.object box') = GeoBoundingBox.ofValue (.object box) ∧
      GeoBoundingBox.ofValue (.object box) =
        .error (.notObject "$geoBoundingBox.bottomLeft") ∧
      Clause.ofEntry (ClauseKey.ofString "$geoRoundingBox") (.object box) =
        .error (.invalidGeo (.notObject "$geoBoundingBox.bottomLeft")) ∧
      Fields.Rearranged Eq GeoRadius.names circle circle' ∧
      GeoRadius.ofValue (.object circle') = GeoRadius.ofValue (.object circle) ∧
      ∃ r, GeoRadius.ofValue (.object circle) = .ok r := by
  intro number corner corner' box box' circle circle'
  obtain ⟨hcircle, hbox, hcircleChecks, hboxChecks, hcorners, hkeys⟩ := places_checked_in_order
  have hcorner : Fields.Rearranged Eq GeoPoint.names corner corner' :=
    .trans (.order (.swap _ _ _)) (@Fields.Rearranged.other _ _ _ "alt" (by decide) none)
  have halike : GeoBoundingBox.CornersAlike (.object corner) (.object corner') :=
    ⟨corner, corner', rfl, rfl, by decide, hcorner⟩
  have hrearranged : Fields.Rearranged GeoBoundingBox.CornersAlike GeoBoundingBox.names box box' :=
    .trans (@Fields.Rearranged.value _ _ [] _ _ _ _ halike)
      (.trans (.order (.swap _ _ _))
        (@Fields.Rearranged.other _ _ _ "name" (by decide) (number 0)))
  have hset : Fields.Rearranged Eq GeoRadius.names circle (circle ++ [("topRight", none)]) :=
    @Fields.Rearranged.other _ _ _ "topRight" (by decide) none
  have hordered : Fields.Rearranged Eq GeoRadius.names circle circle' :=
    hset.trans (.order (List.perm_append_singleton _ _))
  have hfault : GeoBoundingBox.ofValue (.object box) =
      .error (.notObject "$geoBoundingBox.bottomLeft") :=
    hcorners box corner rfl fun _ hnull => by cases hnull
  refine ⟨hrearranged, hbox _ _ (by decide) hrearranged, hfault, ?_, hordered,
    hcircle _ _ (by decide) hordered, ?_⟩
  · exact (hkeys _ (by decide) _ _).mpr ⟨_, ((hboxChecks _).2 _).mp hfault, rfl⟩
  · rw [(hcircleChecks _).1]
    simp only [GeoRadius.checks, List.forall_mem_cons]
    exact ⟨⟨circle, rfl⟩, ⟨.signed 1, rfl⟩, ⟨.signed 2, rfl⟩, ⟨.signed 3, rfl⟩,
      fun _ hnone => by cases hnone⟩

end SearchQuery
