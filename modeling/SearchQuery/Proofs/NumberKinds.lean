import SearchQuery.Proofs.NumberValue
import SearchQuery.Proofs.Renumbering

/-! # Kinds of numbers

  An integer up to `2 ^ 53` may be a signed integer, an unsigned one or a double of a
  document. All of them are written alike, also as coordinates, so it does not matter for
  a query which of them it is. `Value.SameUpToKinds` says that two documents differ in
  nothing else: both become the same when such numbers are made signed integers.

  Greater integers are rounded where a double is needed. Then the text is not the integer any
  more, but a decimal that is read to the same double.
-/

namespace SearchQuery

/-! ### Interchangeable numbers -/

namespace Number

/-- Whether two numbers have the same value, and it is an integer that every kind of number
    holds as it is. -/
def Interchangeable (m n : Number) : Prop :=
  ∃ k : ℤ, k.natAbs ≤ 2 ^ 53 ∧ m.toRat? = some (k : ℚ) ∧ n.toRat? = some (k : ℚ)

namespace Interchangeable

variable {m n : Number}

theorem text_eq (h : m.Interchangeable n) : m.text = n.text := by
  obtain ⟨k, hk, hm, hn⟩ := h
  rw [text_of_toRat? hm hk, text_of_toRat? hn hk]

theorem text_toDouble_eq (h : m.Interchangeable n) : m.toDouble.text = n.toDouble.text := by
  obtain ⟨k, hk, hm, hn⟩ := h
  rw [Double.text_of_toRat? (toRat?_toDouble hm hk) hk,
    Double.text_of_toRat? (toRat?_toDouble hn hk) hk]

end Interchangeable

/-- A number, as a signed integer if it has a small integer value. -/
def preferSigned (n : Number) : Number :=
  match n.toRat? with
  | some q => if q.den = 1 ∧ q.num.natAbs ≤ 2 ^ 53 then signed (.ofInt q.num) else n
  | none => n

theorem preferSigned_of_toRat? {n : Number} {k : ℤ} (h : n.toRat? = some (k : ℚ))
    (hk : k.natAbs ≤ 2 ^ 53) : n.preferSigned = signed (.ofInt k) := by
  rw [preferSigned, h]
  exact if_pos ⟨Rat.den_intCast k, hk⟩

theorem toRat?_signed_ofInt {k : ℤ} (hk : k.natAbs ≤ 2 ^ 53) :
    (signed (.ofInt k)).toRat? = some (k : ℚ) :=
  toRat?_of_mem_kindsOf hk (by simp [kindsOf])

theorem preferSigned_eq_or_interchangeable (n : Number) :
    n.preferSigned = n ∨ n.preferSigned.Interchangeable n := by
  unfold preferSigned
  cases hvalue : n.toRat? with
  | none => exact .inl rfl
  | some q =>
    by_cases hsmall : q.den = 1 ∧ q.num.natAbs ≤ 2 ^ 53
    · have hq : (q.num : ℚ) = q := Rat.coe_int_num_of_den_eq_one hsmall.1
      right
      simp only [if_pos hsmall]
      exact ⟨q.num, hsmall.2, toRat?_signed_ofInt hsmall.2, by rw [hq, hvalue]⟩
    · left
      simp only [if_neg hsmall]

theorem preferSigned_keepsTexts : KeepsTexts preferSigned where
  text n := by
    rcases n.preferSigned_eq_or_interchangeable with heq | h
    · rw [heq]
    · exact h.text_eq
  text_toDouble n := by
    rcases n.preferSigned_eq_or_interchangeable with heq | h
    · rw [heq]
    · exact h.text_toDouble_eq

theorem Interchangeable.preferSigned_eq {m n : Number} (h : m.Interchangeable n) :
    m.preferSigned = n.preferSigned := by
  obtain ⟨k, hk, hm, hn⟩ := h
  rw [preferSigned_of_toRat? hm hk, preferSigned_of_toRat? hn hk]

end Number

/-! ### Documents -/

namespace Value

mutual

/-- Whether two values are the same but for interchangeable numbers, at any depth. -/
inductive SameUpToKinds : Value → Value → Prop where
  | same (v : Value) : SameUpToKinds v v
  | number {m n : Number} (h : m.Interchangeable n) : SameUpToKinds (number m) (number n)
  | array {as bs : List Value} (h : ItemsSameUpToKinds as bs) : SameUpToKinds (array as) (array bs)
  | object {as bs : List (String × Option Value)} (h : FieldsSameUpToKinds as bs) :
      SameUpToKinds (object as) (object bs)

inductive ItemsSameUpToKinds : List Value → List Value → Prop where
  | nil : ItemsSameUpToKinds [] []
  | cons {a b : Value} {as bs : List Value} (h : SameUpToKinds a b)
      (hs : ItemsSameUpToKinds as bs) : ItemsSameUpToKinds (a :: as) (b :: bs)

inductive FieldsSameUpToKinds :
    List (String × Option Value) → List (String × Option Value) → Prop where
  | nil : FieldsSameUpToKinds [] []
  | absent (key : String) {as bs : List (String × Option Value)}
      (hs : FieldsSameUpToKinds as bs) : FieldsSameUpToKinds ((key, none) :: as) ((key, none) :: bs)
  | present (key : String) {a b : Value} {as bs : List (String × Option Value)}
      (h : SameUpToKinds a b) (hs : FieldsSameUpToKinds as bs) :
      FieldsSameUpToKinds ((key, some a) :: as) ((key, some b) :: bs)

end

mutual

/-- Such values are the same once numbers are made signed. -/
theorem SameUpToKinds.mapNumbers_eq : ∀ {v w : Value}, SameUpToKinds v w →
    v.mapNumbers Number.preferSigned = w.mapNumbers Number.preferSigned
  | _, _, .same _ => rfl
  | _, _, .number h => congrArg number h.preferSigned_eq
  | _, _, .array h => congrArg array h.mapItems_eq
  | _, _, .object h => congrArg object h.mapFields_eq

theorem ItemsSameUpToKinds.mapItems_eq : ∀ {as bs : List Value}, ItemsSameUpToKinds as bs →
    mapItems Number.preferSigned as = mapItems Number.preferSigned bs
  | _, _, .nil => rfl
  | _, _, .cons h hs => congrArg₂ List.cons h.mapNumbers_eq hs.mapItems_eq

theorem FieldsSameUpToKinds.mapFields_eq : ∀ {as bs : List (String × Option Value)},
    FieldsSameUpToKinds as bs →
    mapFields Number.preferSigned as = mapFields Number.preferSigned bs
  | _, _, .nil => rfl
  | _, _, .absent key hs => congrArg ((key, none) :: ·) hs.mapFields_eq
  | _, _, .present key h hs => by rw [mapFields, mapFields, h.mapNumbers_eq, hs.mapFields_eq]

end

end Value

/-! ### Greater integers -/

/-- The numbers of a circle are written as doubles. -/
theorem compileGeoRadius_numbers {fields : Fields Value} {lat lng distance : Number}
    (hlat : fields.get? "lat" = some (.number lat)) (hlng : fields.get? "lng" = some (.number lng))
    (hdistance : fields.get? "distanceInMeters" = some (.number distance)) :
    compileGeoRadius (.object fields) = .ok ("_geoRadius(" ++ (lat.toDouble.text ++ ", " ++
      lng.toDouble.text) ++ ", " ++ distance.toDouble.text ++ ")") := by
  have hread : GeoRadius.ofValue (.object fields) =
      .ok ⟨⟨lat.toDouble, lng.toDouble⟩, distance.toDouble⟩ := by
    show (do
      let center ← GeoPoint.ofFields GeoRadius.key fields
      let distance ← GeoError.numberAt GeoRadius.key fields "distanceInMeters"
      return GeoRadius.mk center distance) = _
    rw [GeoPoint.ofFields, GeoError.numberAt_of_number _ hlat, GeoError.numberAt_of_number _ hlng,
      GeoError.numberAt_of_number _ hdistance]
    rfl
  rw [compileGeoRadius, hread]
  rfl

namespace Number

/-- A number of an integer kind is no greater than the doubles. -/
theorem exists_toDouble_eq {n : Number} {k : ℤ} (h : n.toInt? = some k) :
    ∃ x, n.toDouble = .finite (decide (k < 0)) x ∧ Magnitude.ofNat? k.natAbs = some x := by
  -- no integer of 64 bits is out of the range of doubles
  have hbound : k.natAbs ≤ 2 ^ 64 := by
    cases n with
    | signed n =>
      obtain rfl := Option.some.inj h
      have hlow := n.le_toInt
      have hhigh := n.toInt_lt
      omega
    | unsigned n =>
      obtain rfl := Option.some.inj h
      have hhigh := n.toNat_lt
      omega
    | double x => cases h
  obtain ⟨x, hx⟩ := Magnitude.exists_ofNat? hbound
  refine ⟨x, ?_, hx⟩
  rw [toDouble_of_toInt? h, Double.ofInt, hx]
  rfl

/-- It is rounded to the nearest double, and the text of this double is a decimal that is
    rounded to it as well. -/
theorem toDouble_reads_back {n : Number} {k : ℤ} (h : n.toInt? = some k) :
    ∃ (x : Magnitude) (t : NumberToken), n.toDouble = .finite (decide (k < 0)) x ∧
      x.IsNearest k.natAbs ∧ n.toDouble.text = String.ofList t.text ∧
      x.IsNearest t.numeral.magnitude.toRat ∧ Double.ofNumeral t.numeral = n.toDouble := by
  obtain ⟨x, hx, hround⟩ := exists_toDouble_eq h
  obtain ⟨t, htext, hnearest, hread⟩ := Double.text_reads_back (decide (k < 0)) x
  -- an integer below zero is not rounded to a zero, so the text has its sign
  have hsign : (decide (k < 0) && !x.isZero) = decide (k < 0) := by
    by_cases hk : k = 0
    · rw [hk]
      rfl
    · rw [Magnitude.isZero_of_ofNat? hround (by omega), Bool.not_false, Bool.and_true]
  refine ⟨x, t, hx, Magnitude.isNearest_of_ofNat? hround, ?_, hnearest, ?_⟩
  · rw [hx, htext]
  · rw [hread, hsign, hx]

/-- Kinds of numbers make no difference while the integers are small. -/
theorem kinds_agree :
    -- an integer up to `2 ^ 53` is the value of a number of each kind
    (∀ k : ℤ, k.natAbs ≤ 2 ^ 53 → ∀ n ∈ kindsOf k, n.toRat? = some (k : ℚ)) ∧
    -- and each number with this value is written as its digits
    (∀ (n : Number) (k : ℤ), k.natAbs ≤ 2 ^ 53 → n.toRat? = some (k : ℚ) → n.text = toString k) ∧
    -- so documents compile alike if they differ in nothing but the kinds of such numbers
    (∀ v w : Value, v.SameUpToKinds w → ∀ field spelling : String,
      compileFilter v = compileFilter w ∧
      compileSelector field v = compileSelector field w ∧
      compileComparison field spelling v = compileComparison field spelling w ∧
      compileSort (some v) = compileSort (some w) ∧
      compileGeoRadius v = compileGeoRadius w ∧
      compileGeoBoundingBox v = compileGeoBoundingBox w) ∧
    -- any integer of 64 bits is rounded to the nearest double, or to the even one of two, and
    -- the text of this double is a decimal that is rounded to it as well
    (∀ (n : Number) (k : ℤ), n.toInt? = some k → ∃ (x : Magnitude) (t : NumberToken),
      n.toDouble = .finite (decide (k < 0)) x ∧ x.IsNearest k.natAbs ∧
      n.toDouble.text = String.ofList t.text ∧
      x.IsNearest t.numeral.magnitude.toRat ∧ Double.ofNumeral t.numeral = n.toDouble) ∧
    -- this text stands for the number in a place
    (∀ (fields : Fields Value) (lat lng distance : Number),
      fields.get? "lat" = some (.number lat) → fields.get? "lng" = some (.number lng) →
      fields.get? "distanceInMeters" = some (.number distance) →
      compileGeoRadius (.object fields) = .ok ("_geoRadius(" ++ (lat.toDouble.text ++ ", " ++
        lng.toDouble.text) ++ ", " ++ distance.toDouble.text ++ ")")) := by
  refine ⟨?_, ?_, ?_, ?_, ?_⟩
  · intro k hk n hn
    exact toRat?_of_mem_kindsOf hk hn
  · intro n k hk h
    exact text_of_toRat? h hk
  · intro v w h field spelling
    exact compile_eq_of_mapNumbers_eq preferSigned_keepsTexts h.mapNumbers_eq field spelling
  · intro n k h
    exact toDouble_reads_back h
  · intro fields lat lng distance hlat hlng hdistance
    exact compileGeoRadius_numbers hlat hlng hdistance

/-- The greatest of the small integers, in a list and in a place, and the greatest integer of a
    document, which is rounded up to `2 ^ 64`. -/
theorem kinds_agree_limits :
    let limit : ℤ := 9007199254740992
    let greatest : Number := .unsigned 18446744073709551615
    let circle (lat lng : Number) : Fields Value := [
      ("lat", some (.number lat)), ("note", none), ("lng", some (.number lng)),
      ("distanceInMeters", some (.number lat))]
    let document (m n : Number) : Value := .object [
      ("price", some (.array [.number m, .string "free"])),
      ("note", none),
      ("$geoRadius", some (.object (circle m n)))]
    (∀ m ∈ kindsOf limit, ∀ n ∈ kindsOf limit,
      m.text = "9007199254740992" ∧
      compileFilter (document m n) = compileFilter (document n m) ∧
      compileSort (some (document m n)) = compileSort (some (document n m))) ∧
    (∃ (x : Magnitude) (t : NumberToken), greatest.toDouble = .finite false x ∧
      x.IsNearest (18446744073709551615 : ℕ) ∧
      greatest.toDouble.text = String.ofList t.text ∧
      x.IsNearest t.numeral.magnitude.toRat) ∧
    compileGeoRadius (.object (circle greatest greatest)) =
      .ok "_geoRadius(18446744073709552000, 18446744073709552000, 18446744073709552000)" := by
  intro limit greatest circle document
  obtain ⟨hkinds, htexts, hcompile, hround, hcircle⟩ := kinds_agree
  have hlimit : limit.natAbs ≤ 2 ^ 53 := by decide
  refine ⟨?_, ?_, ?_⟩
  · intro m hm n hn
    have hsame : ∀ {a b : Number}, a ∈ kindsOf limit → b ∈ kindsOf limit →
        Value.SameUpToKinds (.number a) (.number b) := fun ha hb =>
      .number ⟨limit, hlimit, hkinds limit hlimit _ ha, hkinds limit hlimit _ hb⟩
    have hdocument : (document m n).SameUpToKinds (document n m) :=
      .object (.present _ (.array (.cons (hsame hm hn) (.cons (.same _) .nil)))
        (.absent _ (.present _ (.object (.present _ (hsame hm hn) (.absent _
          (.present _ (hsame hn hm) (.present _ (hsame hm hn) .nil))))) .nil)))
    obtain ⟨hfilter, _, _, hsort, _⟩ := hcompile _ _ hdocument "price" "$eq"
    refine ⟨?_, hfilter, hsort⟩
    rw [htexts m limit hlimit (hkinds limit hlimit m hm)]
    decide +kernel
  · obtain ⟨x, t, hdouble, hnearest, htext, hdecimal, _⟩ :=
      hround greatest 18446744073709551615 (by decide +kernel)
    exact ⟨x, t, hdouble, hnearest, htext, hdecimal⟩
  · have htext : greatest.toDouble.text = "18446744073709552000" := by decide +kernel
    rw [hcircle (circle greatest greatest) greatest greatest greatest rfl rfl rfl, htext]
    decide

end Number

end SearchQuery
