import SearchQuery.Proofs.Renumbering

/-! # Equal documents

  Two documents that are equal need not be the same: zero has two signs, and doubles are
  compared numerically. `Number.unsignZero` takes the sign from a zero. Documents that are
  equal are the same when every number in them is changed so, and it is enough that no compiler
  tells a document from the one without signs. It does not, since zero is written without its
  sign.
-/

namespace SearchQuery

/-! ### Zeros without a sign -/

namespace Double

/-- A double, with no sign if it is zero. -/
def unsignZero : Double → Double
  | finite negative x => finite (negative && !x.isZero) x
  | x => x

theorem unsignZero_eq_of_beq {x y : Double} (h : (x == y) = true) :
    x.unsignZero = y.unsignZero := by
  cases x with
  | nan => cases h
  | infinite s =>
    cases y with
    | infinite t =>
      have hsign : s = t := eq_of_beq h
      rw [hsign]
    | _ => cases h
  | finite s x =>
    cases y with
    | finite t y =>
      have hparts : (x == y && (s == t || x.isZero)) = true := h
      rw [Bool.and_eq_true, Bool.or_eq_true, beq_iff_eq, beq_iff_eq] at hparts
      obtain ⟨rfl, hsign | hzero⟩ := hparts
      · rw [hsign]
      · simp [unsignZero, hzero]
    | _ => cases h

/-- A zero is written without its sign. -/
theorem text_unsignZero (x : Double) : x.unsignZero.text = x.text := by
  cases x with
  | finite negative x =>
    show String.ofList (withSign (negative && !x.isZero && !x.isZero) x.text) = _
    rw [Bool.and_assoc, Bool.and_self]
    rfl
  | _ => rfl

end Double

namespace Number

/-- A number, with no sign if it is a zero that has one. -/
def unsignZero : Number → Number
  | double x => double x.unsignZero
  | n => n

theorem unsignZero_eq_of_beq {m n : Number} (h : (m == n) = true) :
    m.unsignZero = n.unsignZero := by
  cases m with
  | signed m =>
    cases n with
    | signed n =>
      have heq : m = n := eq_of_beq h
      rw [heq]
    | _ => cases h
  | unsigned m =>
    cases n with
    | unsigned n =>
      have heq : m = n := eq_of_beq h
      rw [heq]
    | _ => cases h
  | double x =>
    cases n with
    | double y => exact congrArg double (Double.unsignZero_eq_of_beq h)
    | _ => cases h

theorem text_unsignZero (n : Number) : n.unsignZero.text = n.text := by
  cases n with
  | double x => exact x.text_unsignZero
  | _ => rfl

/-- An integer is no zero with a sign, so only a double is another one. -/
theorem text_toDouble_unsignZero (n : Number) : n.unsignZero.toDouble.text = n.toDouble.text := by
  cases n with
  | double x => exact x.text_unsignZero
  | _ => rfl

theorem unsignZero_keepsTexts : KeepsTexts unsignZero :=
  ⟨text_unsignZero, text_toDouble_unsignZero⟩

end Number

/-! ### Equal documents -/

namespace Value

variable {f : Number → Number}

mutual

/-- A change that makes equal numbers the same makes equal documents the same. -/
theorem mapNumbers_eq_of_beq (hf : ∀ {m n : Number}, (m == n) = true → f m = f n) :
    ∀ {a b : Value}, Value.beq a b = true → a.mapNumbers f = b.mapNumbers f
  | .null, b, h => by
    cases b with
    | null => rfl
    | _ => cases h
  | .bool x, b, h => by
    cases b with
    | bool y => exact congrArg bool (eq_of_beq h)
    | _ => cases h
  | .number m, b, h => by
    cases b with
    | number n => exact congrArg number (hf h)
    | _ => cases h
  | .string s, b, h => by
    cases b with
    | string t => exact congrArg string (eq_of_beq h)
    | _ => cases h
  | .date t, b, h => by
    cases b with
    | date u => exact congrArg date (eq_of_beq h)
    | _ => cases h
  | .array as, b, h => by
    cases b with
    | array bs => exact congrArg array (mapItems_eq_of_beq hf h)
    | _ => cases h
  | .object as, b, h => by
    cases b with
    | object bs => exact congrArg object (mapFields_eq_of_beq hf h)
    | _ => cases h

theorem mapItems_eq_of_beq (hf : ∀ {m n : Number}, (m == n) = true → f m = f n) :
    ∀ {as bs : List Value}, beqItems as bs = true → mapItems f as = mapItems f bs
  | [], [], _ => rfl
  | [], _ :: _, h => by cases h
  | _ :: _, [], h => by cases h
  | a :: as, b :: bs, h => by
    rw [beqItems, Bool.and_eq_true] at h
    rw [mapItems, mapItems, mapNumbers_eq_of_beq hf h.1, mapItems_eq_of_beq hf h.2]

theorem mapFields_eq_of_beq (hf : ∀ {m n : Number}, (m == n) = true → f m = f n) :
    ∀ {as bs : List (String × Option Value)}, beqFields as bs = true →
      mapFields f as = mapFields f bs
  | [], [], _ => rfl
  | [], _ :: _, h => by cases h
  | (_, none) :: _, [], h => by cases h
  | (_, some _) :: _, [], h => by cases h
  | (_, none) :: _, (_, some _) :: _, h => by cases h
  | (_, some _) :: _, (_, none) :: _, h => by cases h
  | (_, none) :: as, (_, none) :: bs, h => by
    rw [beqFields, Bool.and_eq_true, beq_iff_eq] at h
    rw [mapFields, mapFields, h.1, mapFields_eq_of_beq hf h.2]
  | (_, some a) :: as, (_, some b) :: bs, h => by
    rw [beqFields, Bool.and_eq_true, Bool.and_eq_true, beq_iff_eq] at h
    rw [mapFields, mapFields, h.1.1, mapNumbers_eq_of_beq hf h.1.2, mapFields_eq_of_beq hf h.2]

end

end Value

/-! ### The compilers -/

/-- Equal documents compile alike: to the same text or the same tokens, or with the same
    error, although their zeros may have different signs. -/
theorem compile_eq_of_beq {a b : Value} (h : (a == b) = true) (field spelling : String) :
    compileFilter a = compileFilter b ∧
    compileSelector field a = compileSelector field b ∧
    compileComparison field spelling a = compileComparison field spelling b ∧
    compileSort (some a) = compileSort (some b) ∧
    compileGeoRadius a = compileGeoRadius b ∧
    compileGeoBoundingBox a = compileGeoBoundingBox b := by
  have hsame : a.mapNumbers Number.unsignZero = b.mapNumbers Number.unsignZero :=
    Value.mapNumbers_eq_of_beq Number.unsignZero_eq_of_beq h
  exact compile_eq_of_mapNumbers_eq Number.unsignZero_keepsTexts hsame field spelling

/-- A document with zeros in a list, in a range and in a place, and the one with the other
    signs. -/
theorem compile_eq_of_beq_other_signs :
    let zero (negative : Bool) : Value := .number (.double (.finite negative .zero))
    let document (s t : Bool) : Value := .object [
      ("$or", some (.array [
        .object [("price", some (.array [zero s, zero t]))],
        .object [("rank", some (.object [("$between", some (.array [zero s, zero t]))]))]])),
      ("$geoRadius", some (.object [
        ("lat", some (zero s)), ("lng", some (zero t)), ("distanceInMeters", some (zero t))])),
      ("note", none)]
    (document true false == document false true) = true ∧
    compileFilter (document true false) = compileFilter (document false true) ∧
    compileSelector "price" (document true false) =
      compileSelector "price" (document false true) ∧
    compileComparison "price" "$eq" (document true false) =
      compileComparison "price" "$eq" (document false true) ∧
    compileSort (some (document true false)) = compileSort (some (document false true)) ∧
    compileGeoRadius (document true false) = compileGeoRadius (document false true) ∧
    compileGeoBoundingBox (document true false) =
      compileGeoBoundingBox (document false true) := by
  intro zero document
  have hbeq : (document true false == document false true) = true := by decide
  exact ⟨hbeq, compile_eq_of_beq hbeq "price" "$eq"⟩

end SearchQuery
