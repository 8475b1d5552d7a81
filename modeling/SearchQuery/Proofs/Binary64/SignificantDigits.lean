import SearchQuery.Proofs.Binary64.Order
import SearchQuery.Proofs.Text.DigitRun

/-! # Significant digits

  `SignificantDigits` are the digits of a positive number from the first that is not zero,
  and the place of the point among them. They are the shortest for a magnitude if they round
  to it, no fewer digits do, and none of as many is nearer.

  Where two are equally near, this leaves open which of them to take, and everything else is
  determined. The place of the point does not depend on this choice: it is at most `j`
  exactly if the magnitude is below the one nearest to `10 ^ j`.
-/

namespace SearchQuery

/-! ### Significant digits -/

theorem lt_ten_pow_length (n : ℕ) : n < 10 ^ (decimalDigits n).length :=
  (Nat.length_toDigits_le_iff (by decide) Nat.length_toDigits_pos).mp (le_refl _)

theorem ten_pow_length_le {n : ℕ} (h : n ≠ 0) : 10 ^ ((decimalDigits n).length - 1) ≤ n := by
  by_contra hlt
  rcases Nat.eq_zero_or_pos ((decimalDigits n).length - 1) with hone | hmore
  · rw [hone, pow_zero] at hlt
    omega
  · have hle : (decimalDigits n).length ≤ (decimalDigits n).length - 1 :=
      (Nat.length_toDigits_le_iff (by decide) hmore).mpr (Nat.lt_of_not_le hlt)
    omega

/-- The digits of a positive number from the first that is not zero, and where the point
    stands among them. -/
structure SignificantDigits where
  /-- The digits, read as one natural number. -/
  digits : Nat
  /-- How many digits there are. -/
  count : Nat
  /-- How many digits stand before the point. A negative number counts zeros behind it. -/
  point : Int
  count_pos : 1 ≤ count
  le_digits : 10 ^ (count - 1) ≤ digits
  digits_lt : digits < 10 ^ count

namespace SignificantDigits

theorem digits_ne_zero (d : SignificantDigits) : d.digits ≠ 0 :=
  Nat.ne_of_gt (Nat.lt_of_lt_of_le (Nat.pow_pos (by decide)) d.le_digits)

/-- The value of significant digits. -/
def toRat (d : SignificantDigits) : ℚ := d.digits * 10 ^ (d.point - d.count)

theorem toRat_eq (d : SignificantDigits) : d.toRat = Decimal.toRat ⟨d.digits, d.point - d.count⟩ := rfl

theorem toRat_lt (d : SignificantDigits) : d.toRat < 10 ^ d.point := by
  have hlt : (d.digits : ℚ) < 10 ^ (d.count : ℤ) := by exact_mod_cast d.digits_lt
  calc d.toRat < 10 ^ (d.count : ℤ) * 10 ^ (d.point - d.count) :=
        mul_lt_mul_of_pos_right hlt (by positivity)
    _ = 10 ^ d.point := by rw [← zpow_add₀ (by norm_num), add_sub_cancel]

theorem le_toRat (d : SignificantDigits) : 10 ^ (d.point - 1) ≤ d.toRat := by
  have hle : (10 : ℚ) ^ ((d.count : ℤ) - 1) ≤ d.digits := by
    rw [← Nat.cast_one, ← Nat.cast_sub d.count_pos, zpow_natCast]
    exact_mod_cast d.le_digits
  calc (10 : ℚ) ^ (d.point - 1) = 10 ^ ((d.count : ℤ) - 1) * 10 ^ (d.point - d.count) := by
        rw [← zpow_add₀ (by norm_num)]
        congr 1
        ring
    _ ≤ d.toRat := mul_le_mul_of_nonneg_right hle (by positivity)

theorem toRat_pos (d : SignificantDigits) : 0 < d.toRat :=
  lt_of_lt_of_le (by positivity) d.le_toRat

theorem toRat_lt_of_point_le {d : SignificantDigits} {j : ℤ} (h : d.point ≤ j) : d.toRat < 10 ^ j :=
  lt_of_lt_of_le d.toRat_lt (zpow_le_zpow_right₀ (by norm_num) h)

/-- A greater value has no lesser point. -/
theorem point_le_of_toRat_lt {d : SignificantDigits} {j : ℤ} (h : d.toRat < 10 ^ j) : d.point ≤ j := by
  have hlt := (zpow_lt_zpow_iff_right₀ (by norm_num : (1 : ℚ) < 10)).mp (lt_of_le_of_lt d.le_toRat h)
  omega

/-- Digits of the same count and value are the same. -/
theorem eq_of_toRat_eq {d d' : SignificantDigits} (hcount : d.count = d'.count)
    (h : d.toRat = d'.toRat) : d = d' := by
  have hpoint : d.point = d'.point :=
    le_antisymm (point_le_of_toRat_lt (h ▸ d'.toRat_lt)) (point_le_of_toRat_lt (h ▸ d.toRat_lt))
  have hdigits : d.digits = d'.digits := by
    unfold toRat at h
    rw [hcount, hpoint] at h
    exact_mod_cast mul_right_cancel₀ (by positivity) h
  obtain ⟨_, _, _, _, _, _⟩ := d
  obtain ⟨_, _, _, _, _, _⟩ := d'
  simp_all

/-- A single digit below a power of ten is at most nine tenths of it. -/
theorem toRat_le_nine {d : SignificantDigits} (h : d.count = 1) {j : ℤ} (hpoint : d.point ≤ j) :
    d.toRat ≤ 9 * 10 ^ (j - 1) := by
  have hnine : d.digits ≤ 9 := by
    have hlt := d.digits_lt
    rw [h] at hlt
    omega
  have hdigits : (d.digits : ℚ) ≤ 9 := by exact_mod_cast hnine
  have hpower : (10 : ℚ) ^ (d.point - d.count) ≤ 10 ^ (j - 1) :=
    zpow_le_zpow_right₀ (by norm_num) (by omega)
  exact mul_le_mul hdigits hpower (by positivity) (by norm_num)

/-- A power of ten is a single digit. -/
def power (j : ℤ) : SignificantDigits where
  digits := 1
  count := 1
  point := j + 1
  count_pos := le_refl 1
  le_digits := by decide
  digits_lt := by decide

theorem toRat_power (j : ℤ) : (power j).toRat = 10 ^ j := by
  simp [toRat, power]

/-- The significant digits of a decimal. -/
def ofDecimal (d : Decimal) (h : d.digits ≠ 0) : SignificantDigits where
  digits := d.digits
  count := (decimalDigits d.digits).length
  point := d.exponent + (decimalDigits d.digits).length
  count_pos := List.length_pos_of_ne_nil Nat.toDigits_ne_nil
  le_digits := ten_pow_length_le h
  digits_lt := lt_ten_pow_length d.digits

theorem toRat_ofDecimal (d : Decimal) (h : d.digits ≠ 0) : (ofDecimal d h).toRat = d.toRat := by
  simp [toRat, ofDecimal, Decimal.toRat]

end SignificantDigits

/-! ### Powers of ten in an interval -/

theorem ten_zpow_eq (j : ℤ) : (10 : ℚ) ^ j = 10 * 10 ^ (j - 1) := by
  rw [← zpow_one_add₀ (by norm_num), add_sub_cancel]

namespace Magnitude

theorem lowerEnd_ge (x : Magnitude) :
    (x.significand - 1 / 2) * 2 ^ x.exponent ≤ x.toScaled.lowerEnd := by
  have hquarters : (x.toScaled.quartersBelow : ℚ) ≤ 2 := by exact_mod_cast x.toScaled.quartersBelow_le
  exact mul_le_mul_of_nonneg_right (by linarith) (by positivity)

/-- Only few units can have an interval that reaches from nine tenths of a power of ten to
    this power. -/
theorem tenth_le_of_attracts {x : Magnitude} {j : ℤ} (hnine : x.Attracts (9 * 10 ^ (j - 1)))
    (hten : x.Attracts (10 ^ j)) :
    (10 : ℚ) ^ (j - 1) * unitsPerOne ≤ 2 ^ x.exponent ∧
      x.significand ≤ 9 := by
  have hlower := x.lowerEnd_ge
  have hnine' := hnine.lowerEnd_le
  have hten' := hten.le_upperEnd
  have hunit : (0 : ℚ) < 2 ^ x.exponent := by positivity
  rw [ten_zpow_eq] at hten'
  unfold Scaled.upperEnd at hten'
  have htenth : (10 : ℚ) ^ (j - 1) * unitsPerOne ≤ 2 ^ x.exponent := by linarith
  refine ⟨htenth, ?_⟩
  by_contra hmore
  have hmore' : (10 : ℚ) ≤ x.significand := by exact_mod_cast Nat.lt_of_not_le hmore
  have hlarge : (10 - 1 / 2) * 2 ^ x.exponent ≤ (x.significand - 1 / 2 : ℚ) * 2 ^ x.exponent :=
    mul_le_mul_of_nonneg_right (by linarith) hunit.le
  linarith

end Magnitude

/-! ### Shortest digits -/

/-- Whether these are the shortest digits for a magnitude. -/
structure SignificantDigits.IsShortest (d : SignificantDigits) (x : Magnitude) : Prop where
  /-- They round to the magnitude. -/
  rounds : x.IsNearest d.toRat
  /-- No fewer digits do. -/
  fewest : ∀ d' : SignificantDigits, x.IsNearest d'.toRat → d.count ≤ d'.count
  /-- None of as many digits is nearer. -/
  closest : ∀ d' : SignificantDigits, x.IsNearest d'.toRat → d'.count = d.count →
    |x.toRat - d.toRat| ≤ |x.toRat - d'.toRat|

namespace SignificantDigits

variable {d d' : SignificantDigits} {x y : Magnitude}

theorem isNearest_toRat_iff : x.IsNearest d.toRat ↔ x.Attracts d.toRat :=
  Magnitude.isNearest_iff_attracts d.toRat_pos.le

theorem IsShortest.count_eq (h : d.IsShortest x) (h' : d'.IsShortest x) : d'.count = d.count :=
  Nat.le_antisymm (h'.fewest d h.rounds) (h.fewest d' h'.rounds)

/-- The shortest digits are determined, unless a magnitude is in the middle between two that
    are. -/
theorem IsShortest.eq_or_middle (h : d.IsShortest x) (h' : d'.IsShortest x) :
    d' = d ∨ d.toRat + d'.toRat = 2 * x.toRat := by
  have hcount := h.count_eq h'
  have hfar := le_antisymm (h.closest d' h'.rounds hcount) (h'.closest d h.rounds hcount.symm)
  rcases abs_eq_abs.mp hfar with hsame | hopposite
  · left
    exact eq_of_toRat_eq hcount (by linarith)
  · right
    linarith

/-- Where the point stands is told by comparing the magnitude with the one nearest to a power
    of ten. That one is never written with nine tenths of the power, so its own point is
    behind it. -/
theorem IsShortest.point_le_iff (h : d.IsShortest x) {j : ℤ} (hpower : y.Attracts (10 ^ j))
    (hmany : 9 < y.significand) : d.point ≤ j ↔ x.units < y.units := by
  have hrounds := isNearest_toRat_iff.mp h.rounds
  constructor
  · intro hpoint
    refine Nat.lt_of_le_of_ne (hrounds.units_le hpower (toRat_lt_of_point_le hpoint).le) ?_
    intro hunits
    obtain rfl := Magnitude.units_injective hunits
    -- the power of ten is a single digit, so there is only one
    have hfewest : d.count ≤ (power j).count := by
      apply h.fewest
      rw [toRat_power]
      exact hpower.isNearest
    have hone : d.count = 1 := Nat.le_antisymm hfewest d.count_pos
    have hpos : (0 : ℚ) < 10 ^ (j - 1) := by positivity
    have hnine := hrounds.of_between hpower (toRat_le_nine hone hpoint) (by linarith [ten_zpow_eq j])
    exact absurd (Magnitude.tenth_le_of_attracts hnine hpower).2 (Nat.not_le.mpr hmany)
  · intro hlt
    by_contra hpoint
    have hle : 10 ^ j ≤ d.toRat :=
      (zpow_le_zpow_right₀ (by norm_num) (by omega)).trans d.le_toRat
    exact absurd (hpower.units_le hrounds hle) (Nat.not_le.mpr hlt)

end SignificantDigits

end SearchQuery
