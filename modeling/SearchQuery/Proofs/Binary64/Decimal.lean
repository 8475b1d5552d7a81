import Mathlib.Algebra.Order.Field.Power
import SearchQuery.Binary64.Shortest
import SearchQuery.Proofs.Binary64.Nearest

/-! # Decimals and the magnitudes they round to

  A decimal is read to a magnitude exactly if its value lies in the interval of this
  magnitude. So only the value of a decimal counts, not the way it is written, and the
  bounds by which reading tells that a decimal is far too large or too small never change
  the result.

  The shortest decimal of a magnitude lies in its interval, so it is read back to it.
-/

namespace SearchQuery

/-- Three bits are less than a decimal digit. -/
theorem two_pow_le_ten_pow {n k : ℕ} (h : n ≤ 3 * k) : 2 ^ n ≤ 10 ^ k := by
  calc 2 ^ n ≤ 2 ^ (3 * k) := Nat.pow_le_pow_right (by decide) h
    _ = 8 ^ k := Nat.pow_mul 2 3 k
    _ ≤ 10 ^ k := Nat.pow_le_pow_left (by decide) k

/-- The value of a decimal. -/
def Decimal.toRat (d : Decimal) : ℚ := d.digits * 10 ^ d.exponent

namespace Magnitude

/-! ### Intervals of magnitudes -/

/-- The value of a magnitude. -/
def toRat (x : Magnitude) : ℚ := x.units / unitsPerOne

theorem unitsPerOne_eq : unitsPerOne = 2 ^ 1074 := by decide +kernel

theorem unitsPerOne_pos : (0 : ℚ) < unitsPerOne := by
  rw [unitsPerOne_eq]
  positivity

/-- Whether a value lies in the interval that rounds to a magnitude. -/
def Attracts (x : Magnitude) (q : ℚ) : Prop := x.toScaled.Attracts (q * unitsPerOne)

theorem toScaled_injective {x y : Magnitude} (h : x.toScaled = y.toScaled) : x = y := by
  obtain ⟨_, _⟩ := x
  obtain ⟨_, _⟩ := y
  obtain rfl := h
  rfl

theorem Attracts.unique {x y : Magnitude} {q : ℚ} (hx : x.Attracts q) (hy : y.Attracts q) : x = y :=
  toScaled_injective (Scaled.Attracts.unique (by decide) hx hy)

/-- Whether a magnitude is the nearest to a value, an even one of two equally near. It is
    compared with all numbers of this precision, however large: a value beyond the greatest
    magnitude may be nearer to what would come next. -/
def IsNearest (x : Magnitude) (q : ℚ) : Prop :=
  ∀ y : Scaled 53, |x.toRat - q| ≤ |y.value / unitsPerOne - q| ∧
    (|x.toRat - q| = |y.value / unitsPerOne - q| → y = x.toScaled ∨ x.significand % 2 = 0)

/-- Counting in units changes no distance but for the scale. -/
theorem isNearest_iff_scaled {x : Magnitude} {q : ℚ} :
    x.IsNearest q ↔ x.toScaled.IsNearest (q * unitsPerOne) := by
  have hpos := unitsPerOne_pos
  have hscale : ∀ n : ℕ, |(n / unitsPerOne : ℚ) - q| = |n - q * unitsPerOne| / unitsPerOne := by
    intro n
    rw [← abs_of_pos hpos, ← abs_div, abs_of_pos hpos, sub_div, mul_div_cancel_right₀ q hpos.ne']
  have hunits : |x.toRat - q| = |x.toScaled.value - q * unitsPerOne| / unitsPerOne :=
    hscale x.units
  unfold IsNearest Scaled.IsNearest
  simp only [hunits, hscale, div_le_div_iff_of_pos_right hpos, div_left_inj' hpos.ne']

theorem Attracts.isNearest {x : Magnitude} {q : ℚ} (h : x.Attracts q) : x.IsNearest q :=
  isNearest_iff_scaled.mpr (Scaled.Attracts.isNearest (by decide) h)

/-- What is at most half a unit rounds to zero. -/
theorem zero_attracts {q : ℚ} (hnonneg : 0 ≤ q) (h : q * (2 * unitsPerOne) ≤ 1) :
    zero.Attracts q := by
  have hunits : 0 ≤ q * unitsPerOne := mul_nonneg hnonneg unitsPerOne_pos.le
  have hlower : zero.toScaled.lowerEnd = -1 / 2 := by
    simp only [Scaled.lowerEnd, Scaled.quartersBelow, zero]
    norm_num
  have hupper : zero.toScaled.upperEnd = 1 / 2 := by
    simp only [Scaled.upperEnd, zero]
    norm_num
  refine ⟨?_, ?_, fun _ => rfl⟩
  · rw [hlower]
    linarith
  · rw [hupper]
    linarith

theorem zero_attracts_zero : zero.Attracts 0 :=
  zero_attracts (le_refl 0) (by rw [zero_mul]; exact zero_le_one)

/-- Only what is below `10 ^ 400` rounds to a magnitude. -/
theorem Attracts.lt {x : Magnitude} {q : ℚ} (h : x.Attracts q) : q < 10 ^ (400 : ℤ) := by
  have hsignificand : (x.significand + 1 / 2 : ℚ) < 2 ^ 53 := by
    have hlt : ((x.significand + 1 : ℕ) : ℚ) ≤ (2 ^ 53 : ℕ) := Nat.cast_le.mpr x.significand_lt
    push_cast at hlt
    linarith
  have hexponent : (2 : ℚ) ^ x.exponent ≤ 2 ^ 2045 :=
    pow_le_pow_right₀ one_le_two x.exponent_le
  have hnat : 2 ^ 53 * 2 ^ 2045 ≤ 10 ^ 400 * unitsPerOne := by
    rw [unitsPerOne_eq, ← pow_add, show 53 + 2045 = 1024 + 1074 from rfl, pow_add]
    exact Nat.mul_le_mul_right _ (two_pow_le_ten_pow (by decide))
  have hbound : ((2 ^ 53 * 2 ^ 2045 : ℕ) : ℚ) ≤ (10 ^ 400 * unitsPerOne : ℕ) := Nat.cast_le.mpr hnat
  rw [Nat.cast_mul, Nat.cast_mul, Nat.cast_pow, Nat.cast_pow, Nat.cast_pow, Nat.cast_ofNat,
    Nat.cast_ofNat] at hbound
  rw [← mul_lt_mul_iff_left₀ unitsPerOne_pos, zpow_ofNat]
  calc q * unitsPerOne ≤ (x.significand + 1 / 2) * 2 ^ x.exponent := h.le_upperEnd
    _ < 2 ^ 53 * 2 ^ x.exponent := mul_lt_mul_of_pos_right hsignificand (by positivity)
    _ ≤ 2 ^ 53 * 2 ^ 2045 := mul_le_mul_of_nonneg_left hexponent (by positivity)
    _ ≤ 10 ^ 400 * unitsPerOne := hbound

end Magnitude

/-! ### Reading decimals -/

namespace Decimal

theorem toRat_nonneg (d : Decimal) : 0 ≤ d.toRat :=
  mul_nonneg (Nat.cast_nonneg _) (zpow_nonneg (by norm_num) _)

theorem ratio_pos (d : Decimal) : 0 < d.ratio.2 := by
  unfold ratio
  split
  · exact Nat.one_pos
  · exact Nat.pow_pos (by decide)

theorem ratio_eq (d : Decimal) : (d.ratio.1 / d.ratio.2 : ℚ) = d.toRat := by
  unfold ratio toRat
  split
  · next e h =>
    rw [h]
    simp
  · next e h =>
    simp only [h, zpow_negSucc, Nat.pow_eq, Nat.cast_pow, Nat.cast_ofNat, div_eq_mul_inv]

/-- A decimal that is found to be tiny is less than half a unit. -/
theorem toRat_le_of_tiny {d : Decimal} (h : d.size = .tiny) :
    d.toRat * (2 * Magnitude.unitsPerOne) ≤ 1 := by
  have htiny : d.digits = 0 ∨ d.exponent + d.digits.log2 + 1 ≤ -400 := by
    unfold size at h
    split at h
    · assumption
    · split at h <;> cases h
  have hnat : 2 * Magnitude.unitsPerOne ≤ 10 ^ 400 := by
    rw [Magnitude.unitsPerOne_eq, ← pow_succ']
    exact two_pow_le_ten_pow (by decide)
  have hbound : ((2 * Magnitude.unitsPerOne : ℕ) : ℚ) ≤ (10 ^ 400 : ℕ) := Nat.cast_le.mpr hnat
  rw [Nat.cast_mul, Nat.cast_pow, Nat.cast_ofNat, Nat.cast_ofNat] at hbound
  rcases htiny with hzero | hexponent
  · rw [toRat, hzero, Nat.cast_zero, zero_mul, zero_mul]
    exact zero_le_one
  · have hdigits : (d.digits : ℚ) ≤ 10 ^ ((d.digits.log2 : ℤ) + 1) := by
      have hlog : d.digits ≤ 10 ^ (d.digits.log2 + 1) :=
        Nat.le_trans Nat.lt_log2_self.le (Nat.pow_le_pow_left (by decide) _)
      exact_mod_cast hlog
    calc d.toRat * (2 * Magnitude.unitsPerOne)
        ≤ 10 ^ ((d.digits.log2 : ℤ) + 1) * 10 ^ d.exponent * 10 ^ (400 : ℤ) := by
          refine mul_le_mul (mul_le_mul_of_nonneg_right hdigits (by positivity)) hbound ?_ ?_
          · exact (mul_pos two_pos Magnitude.unitsPerOne_pos).le
          · positivity
      _ = 10 ^ (d.exponent + d.digits.log2 + 1 + 400) := by
          rw [← zpow_add₀ (by norm_num), ← zpow_add₀ (by norm_num)]
          congr 1
          ring
      _ ≤ 1 := zpow_le_one_of_nonpos₀ (by norm_num) (by omega)

/-- A decimal that is found to be huge is at least `10 ^ 400`. -/
theorem le_toRat_of_huge {d : Decimal} (h : d.size = .huge) : 10 ^ (400 : ℤ) ≤ d.toRat := by
  obtain ⟨hdigits, hexponent⟩ : d.digits ≠ 0 ∧ 400 ≤ d.exponent := by
    unfold size at h
    split at h
    · cases h
    · split at h
      · exact ⟨by omega, by assumption⟩
      · cases h
  have hone : (1 : ℚ) ≤ d.digits := by exact_mod_cast Nat.pos_of_ne_zero hdigits
  have hpower : (10 : ℚ) ^ (400 : ℤ) ≤ 10 ^ d.exponent := zpow_le_zpow_right₀ (by norm_num) hexponent
  calc (10 : ℚ) ^ (400 : ℤ) ≤ 10 ^ d.exponent := hpower
    _ ≤ d.digits * 10 ^ d.exponent := le_mul_of_one_le_left (by positivity) hone

/-- A decimal is read to the magnitude whose interval its value lies in. -/
theorem magnitude?_eq_some_iff {d : Decimal} {x : Magnitude} :
    d.magnitude? = some x ↔ x.Attracts d.toRat := by
  unfold magnitude?
  split
  · next h =>
    have hzero := Magnitude.zero_attracts d.toRat_nonneg (toRat_le_of_tiny h)
    rw [Option.some_inj]
    constructor
    · rintro rfl
      exact hzero
    · exact hzero.unique
  · next h =>
    have hhuge := le_toRat_of_huge h
    simp only [reduceCtorEq, false_iff]
    intro hx
    exact absurd hx.lt (not_lt.mpr hhuge)
  · rw [Magnitude.nearest?_eq_some_iff d.ratio_pos, Magnitude.Attracts, ← ratio_eq, Nat.cast_mul,
      mul_div_right_comm]

end Decimal

end SearchQuery
