import SearchQuery.Proofs.Binary64.Integers

/-! # Values of numbers

  A number has one value, whichever of the three kinds it has. An integer up to `2 ^ 53` is
  the value of a number of every kind, and each of them is written as the digits of the
  integer. A zero with a sign has the value of zero and is written like it.

  Texts tell these values apart, so a number that is written as such an integer has its
  value.
-/

namespace SearchQuery

namespace Double

/-- The value of a double, if it is finite. -/
def toRat? : Double → Option ℚ
  | finite negative x => some (if negative then -x.toRat else x.toRat)
  | _ => none

theorem toRat?_eq_of_beq {x y : Double} (h : (x == y) = true) : x.toRat? = y.toRat? := by
  cases x with
  | nan => cases h
  | infinite s =>
    cases y with
    | infinite t => rfl
    | _ => cases h
  | finite s x =>
    cases y with
    | finite t y =>
      -- the signs may differ only if both are zero
      have hparts : (x == y && (s == t || x.isZero)) = true := h
      rw [Bool.and_eq_true, Bool.or_eq_true, beq_iff_eq, beq_iff_eq] at hparts
      obtain ⟨rfl, rfl | hzero⟩ := hparts
      · rfl
      · rw [toRat?, toRat?, Magnitude.isZero_iff_toRat.mp hzero, neg_zero, ite_self, ite_self]
    | _ => cases h

/-- A double with an integer value has the magnitude of it, and its sign unless it is zero. -/
theorem exists_of_toRat? {x : Double} {k : ℤ} (h : x.toRat? = some (k : ℚ)) :
    ∃ negative m, x = finite negative m ∧ m.toRat = k.natAbs ∧
      (negative && !m.isZero) = decide (k < 0) := by
  cases x with
  | nan => cases h
  | infinite _ => cases h
  | finite negative m =>
    have hvalue : (if negative then -m.toRat else m.toRat) = k := Option.some.inj h
    have hnonneg := m.toRat_nonneg
    refine ⟨negative, m, rfl, ?_⟩
    cases negative with
    | false =>
      have hk : m.toRat = k := hvalue
      have hpos : 0 ≤ k := by
        rw [hk] at hnonneg
        exact_mod_cast hnonneg
      rw [Bool.false_and, decide_eq_false (not_lt.mpr hpos), hk, ← Int.cast_natCast,
        Int.natAbs_of_nonneg hpos]
      exact ⟨rfl, rfl⟩
    | true =>
      have hk : m.toRat = (-k : ℤ) := by
        rw [Int.cast_neg, ← hvalue]
        exact (neg_neg _).symm
      have hneg : 0 ≤ -k := by
        rw [hk] at hnonneg
        exact_mod_cast hnonneg
      have hzero : m.isZero ↔ k = 0 := by
        rw [Magnitude.isZero_iff_toRat, hk, Int.cast_eq_zero, neg_eq_zero]
      refine ⟨?_, ?_⟩
      · rw [hk, ← Int.natAbs_neg, ← Int.cast_natCast, Int.natAbs_of_nonneg hneg]
      · rw [Bool.true_and, Bool.eq_iff_iff, Bool.not_eq_true', ← Bool.not_eq_true, hzero,
          decide_eq_true_eq]
        omega

/-- Up to the limit an integer is the value of a double. -/
theorem toRat?_ofInt {k : ℤ} (hk : k.natAbs ≤ 2 ^ 53) : (ofInt k).toRat? = some (k : ℚ) := by
  obtain ⟨m, hm⟩ := Magnitude.exists_toRat_eq hk
  rw [ofInt, Magnitude.ofNat?_eq_some_of_toRat hm, ofMagnitude?, toRat?, hm, ← Int.cast_natCast]
  by_cases hneg : k < 0
  · rw [if_pos (decide_eq_true hneg), ← Int.natAbs_neg, Int.natAbs_of_nonneg (by omega),
      Int.cast_neg, neg_neg]
  · rw [if_neg (by simpa using hneg), Int.natAbs_of_nonneg (by omega)]

/-- A double with such a value is written as the integer. -/
theorem text_of_toRat? {x : Double} {k : ℤ} (h : x.toRat? = some (k : ℚ))
    (hk : k.natAbs ≤ 2 ^ 53) : x.text = toString k := by
  obtain ⟨negative, m, rfl, hm, hsign⟩ := exists_of_toRat? h
  rw [text, hsign, Magnitude.text_of_toRat hm hk, ← integerText_eq_toString]
  by_cases hneg : k < 0
  · rw [decide_eq_true hneg, integerText, if_pos hneg]
    rfl
  · rw [decide_eq_false hneg, integerText, if_neg hneg]
    rfl

end Double

/-- No integer is written as a double that is not finite. -/
theorem toString_ne_null (k : ℤ) : toString k ≠ "null" := by
  rw [← integerText_eq_toString, ← NumberToken.text_ofInt]
  intro h
  have hchars : (NumberToken.ofInt k).text ++ [] = ['n', 'u', 'l', 'l'] := by
    rw [List.append_nil, ← String.toList_ofList (l := (NumberToken.ofInt k).text), h]
    rfl
  exact NumberToken.text_append_ne_cons _ (by decide) _ _ hchars

namespace Number

/-- The value of a number, unless it is a double that is not finite. -/
def toRat? : Number → Option ℚ
  | signed n => some n.toInt
  | unsigned n => some n.toNat
  | double x => x.toRat?

/-- The integer that a number of an integer kind is. -/
def toInt? : Number → Option ℤ
  | signed n => some n.toInt
  | unsigned n => some n.toNat
  | double _ => none

/-- The numbers of each kind that is there for an integer. Only integers that are not
    negative are unsigned. -/
def kindsOf (k : ℤ) : List Number :=
  [signed (.ofInt k), double (.ofInt k)] ++ if 0 ≤ k then [unsigned (.ofNat k.toNat)] else []

theorem toRat?_of_mem_kindsOf {n : Number} {k : ℤ} (hk : k.natAbs ≤ 2 ^ 53) (h : n ∈ kindsOf k) :
    n.toRat? = some (k : ℚ) := by
  unfold kindsOf at h
  rw [List.mem_append, List.mem_pair] at h
  rcases h with (rfl | rfl) | h
  · have hint : (Int64.ofInt k).toInt = k := Int64.toInt_ofInt_of_le (by omega) (by omega)
    rw [toRat?, hint]
  · exact Double.toRat?_ofInt hk
  · by_cases hpos : 0 ≤ k
    · rw [if_pos hpos, List.mem_singleton] at h
      have hnat : (UInt64.ofNat k.toNat).toNat = k.toNat := by
        apply UInt64.toNat_ofNat_of_lt'
        rw [UInt64.size]
        omega
      rw [h, toRat?, hnat, ← Int.cast_natCast, Int.toNat_of_nonneg hpos]
    · rw [if_neg hpos] at h
      cases h

theorem text_of_toInt? {n : Number} {k : ℤ} (h : n.toInt? = some k) : n.text = toString k := by
  cases n with
  | signed n =>
    obtain rfl := Option.some.inj h
    exact text_signed n
  | unsigned n =>
    obtain rfl := Option.some.inj h
    exact text_unsigned n
  | double x => cases h

theorem toDouble_of_toInt? {n : Number} {k : ℤ} (h : n.toInt? = some k) :
    n.toDouble = Double.ofInt k := by
  cases n with
  | signed n =>
    obtain rfl := Option.some.inj h
    rfl
  | unsigned n =>
    obtain rfl := Option.some.inj h
    rfl
  | double x => cases h

/-- A number with an integer value is a number of an integer kind or a double. -/
theorem toInt?_or_double {n : Number} {k : ℤ} (h : n.toRat? = some (k : ℚ)) :
    n.toInt? = some k ∨ ∃ x : Double, n = double x ∧ x.toRat? = some (k : ℚ) := by
  cases n with
  | signed n =>
    have hk : (n.toInt : ℚ) = k := Option.some.inj h
    exact .inl (congrArg some (Int.cast_injective hk))
  | unsigned n =>
    have hk : ((n.toNat : ℤ) : ℚ) = k := Option.some.inj h
    exact .inl (congrArg some (Int.cast_injective hk))
  | double x => exact .inr ⟨x, rfl, h⟩

theorem toRat?_toDouble {n : Number} {k : ℤ} (h : n.toRat? = some (k : ℚ))
    (hk : k.natAbs ≤ 2 ^ 53) : n.toDouble.toRat? = some (k : ℚ) := by
  rcases toInt?_or_double h with hint | ⟨x, rfl, hx⟩
  · rw [toDouble_of_toInt? hint, Double.toRat?_ofInt hk]
  · exact hx

/-- A number with an integer value up to the limit is written as the integer, whichever kind
    it has. -/
theorem text_of_toRat? {n : Number} {k : ℤ} (h : n.toRat? = some (k : ℚ))
    (hk : k.natAbs ≤ 2 ^ 53) : n.text = toString k := by
  rcases toInt?_or_double h with hint | ⟨x, rfl, hx⟩
  · exact text_of_toInt? hint
  · exact Double.text_of_toRat? hx hk

/-- Only numbers with this value are written like it. -/
theorem toRat?_of_text {n : Number} {k : ℤ} (h : n.text = toString k) (hk : k.natAbs ≤ 2 ^ 53) :
    n.toRat? = some (k : ℚ) := by
  have hinteger : ∀ {m : ℤ}, toString m = toString k → some (m : ℚ) = some (k : ℚ) := by
    intro m hm
    rw [← integerText_eq_toString, ← integerText_eq_toString, String.ofList_inj] at hm
    rw [integerText_injective hm]
  cases n with
  | signed n => exact hinteger ((text_signed n).symm.trans h)
  | unsigned n => exact hinteger ((text_unsigned n).symm.trans h)
  | double x =>
    cases x with
    | nan => exact absurd h.symm (toString_ne_null k)
    | infinite _ => exact absurd h.symm (toString_ne_null k)
    | finite negative m =>
      -- the double of the integer has the same text, so it is equal up to the sign of zero
      have hvalue := Double.toRat?_ofInt hk
      have htext := Double.text_of_toRat? hvalue hk
      obtain ⟨negative', m', hofInt, _⟩ := Double.exists_of_toRat? hvalue
      rw [hofInt] at hvalue htext
      have hbeq : (Double.finite negative m == .finite negative' m') = true :=
        Double.beq_of_text_eq (h.trans htext.symm)
      exact (Double.toRat?_eq_of_beq hbeq).trans hvalue

theorem toRat?_eq_some_iff_text {n : Number} {k : ℤ} (hk : k.natAbs ≤ 2 ^ 53) :
    n.toRat? = some (k : ℚ) ↔ n.text = toString k :=
  ⟨fun h => text_of_toRat? h hk, fun h => toRat?_of_text h hk⟩

end Number

end SearchQuery
