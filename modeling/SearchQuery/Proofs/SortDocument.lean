import SearchQuery.Proofs.Directions
import SearchQuery.Proofs.Renumbering

/-! # What a sort document means

  Each present entry of a sort document stands for one term: a field with the direction that
  its value gives, or a point with the direction beside its coordinates.
  `SortTerm.IsMeantBy` says so without the reader, and `SortTerm.HasFault` says what is wrong
  with an entry that means nothing.

  The reader is told entry by entry, and a document by its present entries: it means the
  order that is built from their terms, and otherwise it has the fault of the first entry
  that has one. Every order that repeats no key is meant by some document.
-/

namespace SearchQuery

/-! ### Entries -/

namespace SortTerm

/-- The direction beside the coordinates of a point. It is ascending if there is none. -/
inductive DirectionBeside (fields : Fields Value) : Direction → Prop where
  /-- The key is missing, or its entry is absent. -/
  | none (h : fields.get? "direction" = none) : DirectionBeside fields .asc
  | null (h : fields.get? "direction" = some .null) : DirectionBeside fields .asc
  | given {v : Value} {d : Direction} (h : fields.get? "direction" = some v)
      (hd : d.IsGivenBy v) : DirectionBeside fields d

/-- The term that a present entry means. -/
inductive IsMeantBy : SortTerm → String × Value → Prop where
  | field {key : String} {v : Value} {d : Direction} (hkey : key ≠ geoPointKey)
      (hd : d.IsGivenBy v) : IsMeantBy (field ⟨key, d⟩) (key, v)
  | geoPoint {fields : Fields Value} {lat lng : Number} {d : Direction}
      (hlat : fields.get? "lat" = some (.number lat))
      (hlng : fields.get? "lng" = some (.number lng)) (hd : DirectionBeside fields d) :
      IsMeantBy (geoPoint ⟨lat.toDouble, lng.toDouble⟩ d) (geoPointKey, .object fields)

/-- What is wrong with an entry. Of a point, the object, the coordinates and the direction are
    looked at in this order. -/
inductive HasFault : String × Value → QueryError → Prop where
  | direction {key : String} {v : Value} (hkey : key ≠ geoPointKey)
      (hd : ∀ d : Direction, ¬ d.IsGivenBy v) :
      HasFault (key, v) (.invalidDirection (Direction.valueText v))
  | notObject {v : Value} (h : ∀ fields, v ≠ .object fields) :
      HasFault (geoPointKey, v) (.invalidGeo (.notObject "$geoPoint"))
  | lat {fields : Fields Value} (hlat : ∀ n, fields.get? "lat" ≠ some (.number n)) :
      HasFault (geoPointKey, .object fields) (.invalidGeo (.notNumber "$geoPoint.lat"))
  | lng {fields : Fields Value} {lat : Number} (hlat : fields.get? "lat" = some (.number lat))
      (hlng : ∀ n, fields.get? "lng" ≠ some (.number n)) :
      HasFault (geoPointKey, .object fields) (.invalidGeo (.notNumber "$geoPoint.lng"))
  | pointDirection {fields : Fields Value} {lat lng : Number} {v : Value}
      (hlat : fields.get? "lat" = some (.number lat))
      (hlng : fields.get? "lng" = some (.number lng))
      (h : fields.get? "direction" = some v) (hnull : v ≠ .null)
      (hd : ∀ d : Direction, ¬ d.IsGivenBy v) :
      HasFault (geoPointKey, .object fields) (.invalidDirection (Direction.valueText v))

theorem ofPoint_of_coordinates {fields : Fields Value} {lat lng : Number}
    (hlat : fields.get? "lat" = some (.number lat))
    (hlng : fields.get? "lng" = some (.number lng)) :
    ofPoint (.object fields) =
      (pointDirection (.object fields)).map (geoPoint ⟨lat.toDouble, lng.toDouble⟩) := by
  have hpoint : GeoPoint.ofValue geoPointKey (.object fields) =
      .ok ⟨lat.toDouble, lng.toDouble⟩ := by
    show GeoPoint.ofFields geoPointKey fields = _
    rw [GeoPoint.ofFields, GeoError.numberAt_of_number _ hlat, GeoError.numberAt_of_number _ hlng]
    rfl
  rw [ofPoint_eq, hpoint]
  cases pointDirection (.object fields) <;> rfl

theorem pointDirection_of_get? {fields : Fields Value} {v : Value}
    (h : fields.get? "direction" = some v) (hnull : v ≠ .null) :
    pointDirection (.object fields) = Direction.ofValue v := by
  have hbeside : (Value.object fields).fields?.bind (Fields.get? · "direction") = some v := h
  rw [pointDirection, hbeside]
  cases v with
  | null => exact absurd rfl hnull
  | _ => rfl

theorem DirectionBeside.pointDirection_eq {fields : Fields Value} {d : Direction}
    (h : DirectionBeside fields d) : pointDirection (.object fields) = .ok d := by
  have hfields : (Value.object fields).fields?.bind (Fields.get? · "direction") =
      fields.get? "direction" := rfl
  cases h with
  | none h => rw [pointDirection, hfields, h]
  | null h => rw [pointDirection, hfields, h]
  | @given v _ h hd =>
    have hnull : v ≠ .null := by
      rintro rfl
      cases hd
    rw [pointDirection_of_get? h hnull, Direction.ofValue_eq_ok_iff.mpr hd]

/-- An entry is read to the term that it means. -/
theorem IsMeantBy.ofEntry_eq {term : SortTerm} {key : String} {v : Value}
    (h : term.IsMeantBy (key, v)) : ofEntry key v = .ok term := by
  cases h with
  | field hkey hd =>
    rw [ofEntry, if_neg hkey, Direction.ofValue_eq_ok_iff.mpr hd]
    rfl
  | geoPoint hlat hlng hd =>
    rw [ofEntry, if_pos rfl, ofPoint_of_coordinates hlat hlng, hd.pointDirection_eq]
    rfl

/-- An entry that has a fault is not read, for this fault. -/
theorem HasFault.ofEntry_eq {key : String} {v : Value} {e : QueryError}
    (h : HasFault (key, v) e) : ofEntry key v = .error e := by
  cases h with
  | direction hkey hd =>
    rw [ofEntry, if_neg hkey, Direction.ofValue_eq_error_iff.mpr ⟨hd, rfl⟩]
    rfl
  | notObject h =>
    have hobject : GeoPoint.ofValue geoPointKey v = .error (.notObject geoPointKey) := by
      cases v with
      | object fields => exact absurd rfl (h fields)
      | _ => rfl
    rw [ofEntry, if_pos rfl, ofPoint_eq, hobject]
    rfl
  | @lat fields hlat =>
    have hpoint : GeoPoint.ofValue geoPointKey (.object fields) =
        .error (.notNumber "$geoPoint.lat") := by
      show GeoPoint.ofFields geoPointKey fields = _
      rw [GeoPoint.ofFields, GeoError.numberAt_of_ne_number _ hlat]
      rfl
    rw [ofEntry, if_pos rfl, ofPoint_eq, hpoint]
    rfl
  | @lng fields lat hlat hlng =>
    have hpoint : GeoPoint.ofValue geoPointKey (.object fields) =
        .error (.notNumber "$geoPoint.lng") := by
      show GeoPoint.ofFields geoPointKey fields = _
      rw [GeoPoint.ofFields, GeoError.numberAt_of_number _ hlat,
        GeoError.numberAt_of_ne_number _ hlng]
      rfl
    rw [ofEntry, if_pos rfl, ofPoint_eq, hpoint]
    rfl
  | pointDirection hlat hlng h hnull hd =>
    rw [ofEntry, if_pos rfl, ofPoint_of_coordinates hlat hlng, pointDirection_of_get? h hnull,
      Direction.ofValue_eq_error_iff.mpr ⟨hd, rfl⟩]
    rfl

/-- An entry means a term or has a fault. -/
theorem isMeantBy_or_hasFault (entry : String × Value) :
    (∃ term, IsMeantBy term entry) ∨ ∃ e, HasFault entry e := by
  obtain ⟨key, v⟩ := entry
  by_cases hkey : key = geoPointKey
  · -- the cases follow the order in which a point is looked at
    subst hkey
    by_cases hobject : ∀ fields, v ≠ .object fields
    · exact .inr ⟨_, .notObject hobject⟩
    obtain ⟨fields, rfl⟩ : ∃ fields : Fields Value, v = .object fields := by simpa using hobject
    by_cases hlat : ∀ n, fields.get? "lat" ≠ some (.number n)
    · exact .inr ⟨_, .lat hlat⟩
    obtain ⟨lat, hlat⟩ : ∃ n, fields.get? "lat" = some (.number n) := by simpa using hlat
    by_cases hlng : ∀ n, fields.get? "lng" ≠ some (.number n)
    · exact .inr ⟨_, .lng hlat hlng⟩
    obtain ⟨lng, hlng⟩ : ∃ n, fields.get? "lng" = some (.number n) := by simpa using hlng
    cases hv : fields.get? "direction" with
    | none => exact .inl ⟨_, .geoPoint hlat hlng (.none hv)⟩
    | some v =>
      by_cases hnull : v = .null
      · rw [hnull] at hv
        exact .inl ⟨_, .geoPoint hlat hlng (.null hv)⟩
      by_cases hd : ∃ d : Direction, d.IsGivenBy v
      · obtain ⟨d, hd⟩ := hd
        exact .inl ⟨_, .geoPoint hlat hlng (.given hv hd)⟩
      · exact .inr ⟨_, .pointDirection hlat hlng hv hnull (not_exists.mp hd)⟩
  · by_cases hd : ∃ d : Direction, d.IsGivenBy v
    · obtain ⟨d, hd⟩ := hd
      exact .inl ⟨_, .field hkey hd⟩
    · exact .inr ⟨_, .direction hkey (not_exists.mp hd)⟩

theorem ofEntry_eq_ok_iff {term : SortTerm} {entry : String × Value} :
    ofEntry entry.1 entry.2 = .ok term ↔ term.IsMeantBy entry := by
  refine ⟨?_, IsMeantBy.ofEntry_eq⟩
  intro h
  -- the reader gives one answer, so the entry means this term or nothing
  rcases isMeantBy_or_hasFault entry with ⟨term', hmeant⟩ | ⟨e, hfault⟩
  · rw [hmeant.ofEntry_eq] at h
    cases h
    exact hmeant
  · rw [hfault.ofEntry_eq] at h
    cases h

theorem ofEntry_eq_error_iff {entry : String × Value} {e : QueryError} :
    ofEntry entry.1 entry.2 = .error e ↔ HasFault entry e := by
  refine ⟨?_, HasFault.ofEntry_eq⟩
  intro h
  rcases isMeantBy_or_hasFault entry with ⟨term, hmeant⟩ | ⟨e', hfault⟩
  · rw [hmeant.ofEntry_eq] at h
    cases h
  · rw [hfault.ofEntry_eq] at h
    cases h
    exact hfault

/-! ### Entries of terms -/

/-- The name of the field that a term sorts by, if it sorts by a field. -/
def fieldName? : SortTerm → Option String
  | field orderBy => some orderBy.field
  | geoPoint _ _ => none

/-- The key of the entries that mean a term. -/
def key (term : SortTerm) : String := term.fieldName?.getD geoPointKey

/-- The value of an entry that means a term. -/
def value : SortTerm → Value
  | field orderBy => .string orderBy.direction.text
  | geoPoint point direction => .object [
      ("lat", some (.number (.double point.lat))), ("lng", some (.number (.double point.lng))),
      ("direction", some (.string direction.text))]

end SortTerm

/-- The text of a direction is one of its words. -/
theorem Direction.isGivenBy_text (d : Direction) : d.IsGivenBy (.string d.text) := by
  have hword : d.text ∈ d.words := by
    cases d <;> decide
  have hlower : d.text.toList.map Char.toLower = d.text.toList := by
    cases d <;> decide
  exact isGivenBy_of_map_toLower hword hlower

theorem SortTerm.isMeantBy_value {term : SortTerm} (h : term.fieldName? ≠ some geoPointKey) :
    term.IsMeantBy (term.key, term.value) := by
  cases term with
  | field o =>
    have hkey : o.field ≠ geoPointKey := fun heq => h (congrArg some heq)
    exact .field hkey o.direction.isGivenBy_text
  | geoPoint point direction =>
    exact @IsMeantBy.geoPoint _ (.double point.lat) (.double point.lng) _ rfl rfl
      (.given rfl direction.isGivenBy_text)

/-! ### Results in a row -/

section

variable {ε α β : Type} {f : α → Except ε β} {items : List α}

/-- Results in a row are there if all of them are. -/
theorem mapM_eq_ok_iff {bs : List β} :
    items.mapM f = .ok bs ↔ List.Forall₂ (fun a b => f a = .ok b) items bs := by
  induction items generalizing bs with
  | nil => simp [pure, Except.pure, eq_comm]
  | cons a items ih =>
    rw [List.mapM_cons, pair_eq_ok_iff, List.forall₂_cons_left_iff]
    constructor
    · rintro ⟨b, bs, hb, hbs, rfl⟩
      exact ⟨b, bs, hb, ih.mp hbs, rfl⟩
    · rintro ⟨b, bs, hb, hbs, rfl⟩
      exact ⟨b, bs, hb, ih.mpr hbs, rfl⟩

theorem errorOf?_mapM : errorOf? (items.mapM f) = items.findSome? fun a => errorOf? (f a) := by
  induction items with
  | nil => rfl
  | cons a items ih =>
    rw [List.mapM_cons, errorOf?_pair, ih, List.findSome?_cons]
    cases errorOf? (f a) <;> rfl

/-- Otherwise the first error counts. -/
theorem mapM_eq_error_iff {e : ε} :
    items.mapM f = .error e ↔ ∃ before a after, items = before ++ a :: after ∧
      (∀ b ∈ before, ∃ c, f b = .ok c) ∧ f a = .error e := by
  rw [← errorOf?_eq_some_iff, errorOf?_mapM, List.findSome?_eq_some_iff]
  simp only [errorOf?_eq_some_iff, errorOf?_eq_none_iff]
  constructor
  · rintro ⟨before, a, after, hitems, he, hbefore⟩
    exact ⟨before, a, after, hitems, hbefore, he⟩
  · rintro ⟨before, a, after, hitems, hbefore, he⟩
    exact ⟨before, a, after, hitems, he, hbefore⟩

end

/-! ### Documents -/

namespace SortOrder

/-- One more term, by the function that adds it. -/
def add (s : SortOrder) : SortTerm → SortOrder
  | .field o => s.orderBy o.field o.direction
  | .geoPoint point direction => s.geoPoint point direction

theorem foldl_add (terms : List SortTerm) (s : SortOrder) :
    terms.foldl add s = ⟨s.terms ++ terms⟩ := by
  induction terms generalizing s with
  | nil => simp
  | cons term terms ih =>
    have hadd : (s.add term).terms = s.terms ++ [term] := by
      cases term <;> rfl
    rw [List.foldl_cons, ih, hadd, List.append_assoc, List.singleton_append]

theorem foldl_add_empty (terms : List SortTerm) : terms.foldl add empty = ⟨terms⟩ :=
  foldl_add terms empty

/-- A document means the order whose terms its present entries mean. -/
theorem ofValue_object_eq_ok_iff {fields : Fields Value} {order : SortOrder} :
    ofValue (.object fields) = .ok order ↔
      List.Forall₂ (fun entry term => SortTerm.IsMeantBy term entry) (Fields.present fields)
        order.terms := by
  show ((Fields.present fields).mapM fun entry => SortTerm.ofEntry entry.1 entry.2).map mk =
    .ok order ↔ _
  simp only [map_eq_ok_iff, mapM_eq_ok_iff, SortTerm.ofEntry_eq_ok_iff]
  constructor
  · rintro ⟨terms, hterms, rfl⟩
    exact hterms
  · intro hterms
    exact ⟨order.terms, hterms, rfl⟩

theorem ofValue_object_eq_error_iff {fields : Fields Value} {e : QueryError} :
    ofValue (.object fields) = .error e ↔
      ∃ before entry after, Fields.present fields = before ++ entry :: after ∧
        (∀ earlier ∈ before, ∃ term, SortTerm.IsMeantBy term earlier) ∧
        SortTerm.HasFault entry e := by
  show ((Fields.present fields).mapM fun entry => SortTerm.ofEntry entry.1 entry.2).map mk =
    .error e ↔ _
  rw [← errorOf?_eq_some_iff, errorOf?_map, errorOf?_eq_some_iff, mapM_eq_error_iff]
  simp only [SortTerm.ofEntry_eq_ok_iff, SortTerm.ofEntry_eq_error_iff]

/-! ### Orders that repeat nothing -/

/-- The names of the fields to sort by. -/
def fieldNames (s : SortOrder) : List String := s.terms.filterMap SortTerm.fieldName?

/-- Whether an order sorts by each field at most once, by no field with the key of points,
    and by at most one distance. -/
structure RepeatsNothing (s : SortOrder) : Prop where
  nodup : s.fieldNames.Nodup
  not_reserved : SortTerm.geoPointKey ∉ s.fieldNames
  one_point : s.terms.countP (·.fieldName?.isNone) ≤ 1

/-- The document that means an order. -/
def document (s : SortOrder) : Fields Value :=
  s.terms.map fun term => (term.key, some term.value)

theorem present_document (s : SortOrder) :
    Fields.present s.document = s.terms.map fun term => (term.key, term.value) := by
  rw [Fields.present, document, List.filterMap_map]
  exact congrFun List.filterMap_eq_map s.terms

theorem RepeatsNothing.ofValue_document {s : SortOrder} (h : s.RepeatsNothing) :
    ofValue (.object s.document) = .ok s := by
  rw [ofValue_object_eq_ok_iff, present_document, List.forall₂_map_left_iff, List.forall₂_same]
  intro term hterm
  apply SortTerm.isMeantBy_value
  intro hname
  exact h.not_reserved (List.mem_filterMap.mpr ⟨term, hterm, hname⟩)

/-- No two terms sort by the same field, or both by a distance. -/
theorem RepeatsNothing.nodup_fieldName? {s : SortOrder} (h : s.RepeatsNothing) :
    (s.terms.map SortTerm.fieldName?).Nodup := by
  refine List.nodup_iff_count_le_one.mpr ?_
  intro name?
  rw [List.count_eq_countP, List.countP_map]
  -- a distance has no name of a field, so points are counted with `none`
  cases name? with
  | none =>
    have hpoint : (· == none) ∘ SortTerm.fieldName? =
        fun term : SortTerm => term.fieldName?.isNone := by
      funext term
      cases term <;> rfl
    rw [hpoint]
    exact h.one_point
  | some name =>
    have hfields := List.nodup_iff_count_le_one.mp h.nodup name
    rw [fieldNames, List.count_filterMap] at hfields
    exact hfields

/-- Its keys are distinct, since no field has the key of points. -/
theorem RepeatsNothing.nodup_keys {s : SortOrder} (h : s.RepeatsNothing) :
    (Entries.keys s.document).Nodup := by
  have hkeys : Entries.keys s.document =
      (s.terms.map SortTerm.fieldName?).map (·.getD SortTerm.geoPointKey) := by
    rw [Entries.keys, document, List.map_map, List.map_map]
    rfl
  have hreserved : some SortTerm.geoPointKey ∉ s.terms.map SortTerm.fieldName? := by
    intro hmem
    obtain ⟨term, hterm, hname⟩ := List.mem_map.mp hmem
    exact h.not_reserved (List.mem_filterMap.mpr ⟨term, hterm, hname⟩)
  rw [hkeys]
  refine h.nodup_fieldName?.map_on ?_
  -- the key of points comes from points alone, the other keys from the names of fields
  rintro (_ | name) hname (_ | name') hname' heq
  · rfl
  · obtain rfl : SortTerm.geoPointKey = name' := heq
    exact absurd hname' hreserved
  · obtain rfl : name = SortTerm.geoPointKey := heq
    exact absurd hname hreserved
  · exact congrArg some heq

/-- A sort document means an order, entry by entry. -/
theorem ofValue_meaning :
    -- a document compiles just if each of its present entries means a term
    (∀ fields : Fields Value, (∃ tokens, compileSort (some (.object fields)) = .ok tokens) ↔
      ∀ entry ∈ Fields.present fields, ∃ term, SortTerm.IsMeantBy term entry) ∧
    -- it is read to the order that is built from these terms, one after the other
    (∀ (fields : Fields Value) (order : SortOrder), ofValue (.object fields) = .ok order ↔
      ∃ terms, List.Forall₂ (fun entry term => SortTerm.IsMeantBy term entry)
        (Fields.present fields) terms ∧ order = terms.foldl add empty) ∧
    -- and compiles to one token for each of them
    (∀ (fields : Fields Value) (tokens : List String),
      compileSort (some (.object fields)) = .ok tokens ↔
      ∃ terms, List.Forall₂ (fun entry term => SortTerm.IsMeantBy term entry)
        (Fields.present fields) terms ∧ tokens = terms.map SortTerm.text) ∧
    -- otherwise it has the fault of its first entry that has one
    (∀ (fields : Fields Value) (e : QueryError), compileSort (some (.object fields)) = .error e ↔
      ∃ before entry after, Fields.present fields = before ++ entry :: after ∧
        (∀ earlier ∈ before, ∃ term, SortTerm.IsMeantBy term earlier) ∧
        SortTerm.HasFault entry e) ∧
    -- each order that repeats nothing is meant by a document without a key twice
    (∀ order : SortOrder, order.RepeatsNothing → ∃ fields : Fields Value,
      (Entries.keys fields).Nodup ∧ ofValue (.object fields) = .ok order) := by
  have hcompile : ∀ fields, compileSort (some (.object fields)) =
      (ofValue (.object fields)).map tokens := fun _ => rfl
  have htokens : ∀ (fields : Fields Value) (tokens : List String),
      compileSort (some (.object fields)) = .ok tokens ↔
      ∃ terms, List.Forall₂ (fun entry term => SortTerm.IsMeantBy term entry)
        (Fields.present fields) terms ∧ tokens = terms.map SortTerm.text := by
    intro fields tokens
    rw [hcompile, map_eq_ok_iff]
    constructor
    · rintro ⟨order, horder, rfl⟩
      exact ⟨order.terms, ofValue_object_eq_ok_iff.mp horder, rfl⟩
    · rintro ⟨terms, hterms, rfl⟩
      exact ⟨⟨terms⟩, ofValue_object_eq_ok_iff.mpr hterms, rfl⟩
  refine ⟨?_, ?_, htokens, ?_, ?_⟩
  · intro fields
    have hread : errorOf? (compileSort (some (.object fields))) =
        (Fields.present fields).findSome? fun entry =>
          errorOf? (SortTerm.ofEntry entry.1 entry.2) :=
      (errorOf?_map _ _).trans ((errorOf?_map _ _).trans errorOf?_mapM)
    rw [← errorOf?_eq_none_iff, hread, List.findSome?_eq_none_iff]
    simp only [errorOf?_eq_none_iff, SortTerm.ofEntry_eq_ok_iff]
  · intro fields order
    rw [ofValue_object_eq_ok_iff]
    constructor
    · intro hterms
      exact ⟨order.terms, hterms, (foldl_add_empty order.terms).symm⟩
    · rintro ⟨terms, hterms, rfl⟩
      rw [foldl_add_empty]
      exact hterms
  · intro fields e
    rw [hcompile, ← ofValue_object_eq_error_iff, ← errorOf?_eq_some_iff, errorOf?_map,
      errorOf?_eq_some_iff]
  · intro order horder
    exact ⟨order.document, horder.nodup_keys, horder.ofValue_document⟩

/-- An order with a point that has no latitude, and a document with two faults, of which the
    missing longitude comes first. -/
theorem ofValue_meaning_faults :
    let order : SortOrder :=
      ⟨[.field ⟨"name:asc", .desc⟩, .geoPoint ⟨.nan, .finite false .zero⟩ .asc, .field ⟨"", .asc⟩]⟩
    let faulty : Fields Value := [
      ("name", some (.string "ASC")), ("age", none),
      ("$geoPoint", some (.object [
        ("lat", some (.number (.signed 1))), ("direction", some (.string "up"))])),
      ("rank", some (.bool true))]
    (∃ fields : Fields Value,
      (Entries.keys fields).Nodup ∧ ofValue (.object fields) = .ok order) ∧
    compileSort (some (.object faulty)) = .error (.invalidGeo (.notNumber "$geoPoint.lng")) := by
  intro order faulty
  obtain ⟨_, _, _, herror, hdocument⟩ := ofValue_meaning
  refine ⟨hdocument order ⟨by decide, by decide, by decide⟩, ?_⟩
  have hname : Direction.IsGivenBy .asc (.string "ASC") :=
    Direction.isGivenBy_of_map_toLower (w := "asc") (by decide) (by decide)
  refine (herror faulty _).mpr ⟨[("name", .string "ASC")], _, [("rank", .bool true)], rfl, ?_,
    @SortTerm.HasFault.lng _ (.signed 1) rfl ?_⟩
  · intro earlier hearlier
    rw [List.mem_singleton.mp hearlier]
    exact ⟨_, .field (by decide) hname⟩
  · intro n hn
    cases hn

end SortOrder

end SearchQuery
