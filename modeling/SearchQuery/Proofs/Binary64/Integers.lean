import SearchQuery.Binary64.Notation
import SearchQuery.Proofs.Binary64.Fewest
import SearchQuery.Proofs.Json.Members
import SearchQuery.Proofs.NumberText

/-! # Integers among the doubles

  Up to `2 ^ 53` every integer is a magnitude, so rounding leaves it as it is. Below this
  limit the magnitudes lie no farther apart than the integers, and an interval of rounding
  holds no integer but its own.

  The shortest decimal of an integer has no place behind the point, because the integer
  needs none. So it is an integer that rounds to this one, which is this one. At the limit
  itself the magnitudes above lie two apart, and the text is computed.
-/

namespace SearchQuery

/-- A number with a greater exponent has more bits than there are to be kept. -/
theorem Scaled.two_pow_le_value {bits : ℕ} (hbits : 0 < bits) {x : Scaled bits} {e : ℕ}
    (h : e < x.exponent) : 2 ^ bits * 2 ^ e ≤ x.value := by
  have hfull : 2 ^ (bits - 1) ≤ x.significand := x.full.resolve_right (by omega)
  calc 2 ^ bits * 2 ^ e = 2 ^ (bits - 1) * 2 ^ (e + 1) := by
        rw [← pow_add, ← pow_add]
        congr 1
        omega
    _ ≤ x.significand * 2 ^ x.exponent :=
        Nat.mul_le_mul hfull (Nat.pow_le_pow_right (by decide) h)

namespace Magnitude

/-! ### Integers are magnitudes -/

theorem toRat_nonneg (x : Magnitude) : 0 ≤ x.toRat :=
  div_nonneg (Nat.cast_nonneg _) unitsPerOne_pos.le

theorem toRat_injective {x y : Magnitude} (h : x.toRat = y.toRat) : x = y := by
  rw [toRat, toRat, div_left_inj' unitsPerOne_pos.ne', Nat.cast_inj] at h
  exact units_injective h

theorem toRat_eq_natCast_iff {x : Magnitude} {n : ℕ} :
    x.toRat = n ↔ x.units = n * unitsPerOne := by
  rw [toRat, div_eq_iff unitsPerOne_pos.ne']
  exact_mod_cast Iff.rfl

theorem isZero_iff_toRat {x : Magnitude} : x.isZero ↔ x.toRat = 0 := by
  constructor
  · intro h
    rw [eq_zero_of_isZero h, toRat, show zero.units = 0 from rfl, Nat.cast_zero, zero_div]
  · intro h
    have hzero : zero.toRat = 0 := by
      rw [toRat, show zero.units = 0 from rfl, Nat.cast_zero, zero_div]
    rw [toRat_injective (h.trans hzero.symm)]
    rfl

/-- The magnitude `2 ^ 53`, up to which every integer is one. -/
def integerLimit : Magnitude where
  significand := 4503599627370496
  exponent := 1075
  significand_lt := by decide
  full := .inl (by decide)
  exponent_le := by decide

theorem toRat_integerLimit : integerLimit.toRat = (2 ^ 53 : ℕ) := by
  rw [toRat_eq_natCast_iff]
  decide +kernel

/-- Every integer up to the limit is a magnitude: its bits, with zeros behind them, are the
    significand. -/
theorem exists_toRat_eq {n : ℕ} (h : n ≤ 2 ^ 53) : ∃ x : Magnitude, x.toRat = n := by
  rcases Nat.eq_or_lt_of_le h with rfl | hlt
  · exact ⟨integerLimit, toRat_integerLimit⟩
  rcases Nat.eq_zero_or_pos n with rfl | hpos
  · exact ⟨zero, by rw [Nat.cast_zero, ← isZero_iff_toRat]; rfl⟩
  · have hlow : 2 ^ n.log2 ≤ n := Nat.log2_self_le hpos.ne'
    have hhigh : n < 2 ^ (n.log2 + 1) := Nat.lt_log2_self
    have hlog : n.log2 ≤ 52 :=
      Nat.le_of_lt_succ ((Nat.pow_lt_pow_iff_right (by decide)).mp (hlow.trans_lt hlt))
    have hfull : 2 ^ 52 ≤ n * 2 ^ (52 - n.log2) := by
      calc 2 ^ 52 = 2 ^ n.log2 * 2 ^ (52 - n.log2) := by rw [← pow_add]; congr 1; omega
        _ ≤ n * 2 ^ (52 - n.log2) := Nat.mul_le_mul_right _ hlow
    have hfits : n * 2 ^ (52 - n.log2) < 2 ^ 53 := by
      calc n * 2 ^ (52 - n.log2) < 2 ^ (n.log2 + 1) * 2 ^ (52 - n.log2) :=
            Nat.mul_lt_mul_of_pos_right hhigh (Nat.two_pow_pos _)
        _ = 2 ^ 53 := by rw [← pow_add]; congr 1; omega
    refine ⟨⟨⟨n * 2 ^ (52 - n.log2), 1022 + n.log2, hfits, .inl hfull⟩, by dsimp only; omega⟩, ?_⟩
    rw [toRat_eq_natCast_iff, unitsPerOne_eq]
    show n * 2 ^ (52 - n.log2) * 2 ^ (1022 + n.log2) = n * 2 ^ 1074
    rw [mul_assoc, ← pow_add]
    congr 2
    omega

/-- Rounding leaves such an integer as it is. -/
theorem ofNat?_eq_some_of_toRat {x : Magnitude} {n : ℕ} (h : x.toRat = n) : ofNat? n = some x := by
  rw [ofNat?_eq, Decimal.magnitude?_eq_some_iff, Decimal.toRat, zpow_zero, mul_one, ← h]
  exact x.attracts_toRat

/-- Any other integer of 64 bits is rounded to the nearest magnitude. -/
theorem isNearest_of_ofNat? {x : Magnitude} {n : ℕ} (h : ofNat? n = some x) : x.IsNearest n := by
  rw [ofNat?_eq, Decimal.magnitude?_eq_some_iff, Decimal.toRat, zpow_zero, mul_one] at h
  exact h.isNearest

/-- Only what is less than one can be rounded to zero. -/
theorem isZero_of_ofNat? {x : Magnitude} {n : ℕ} (h : ofNat? n = some x) (hn : n ≠ 0) :
    x.isZero = false := by
  rw [ofNat?_eq, Decimal.magnitude?_eq_some_iff, Decimal.toRat, zpow_zero, mul_one] at h
  obtain ⟨one, hone⟩ := exists_toRat_eq (n := 1) (by decide)
  have hattracts := one.attracts_toRat
  rw [hone] at hattracts
  have hunits := hattracts.units_le h (by exact_mod_cast Nat.pos_of_ne_zero hn)
  have hone' : one.units = unitsPerOne := by
    have hunit := one.toRat_mul_unitsPerOne
    rw [hone, Nat.cast_one, one_mul] at hunit
    exact Nat.cast_injective hunit.symm
  have hpos : 0 < unitsPerOne := Nat.cast_pos.mp unitsPerOne_pos
  cases hzero : x.isZero with
  | false => rfl
  | true =>
    rw [eq_zero_of_isZero hzero, show zero.units = 0 from rfl] at hunits
    omega

/-! ### Integers in an interval -/

/-- Below the limit the magnitudes lie at most one apart. -/
theorem exponent_le_of_toRat {x : Magnitude} {n : ℕ} (h : x.toRat = n) (hn : n < 2 ^ 53) :
    x.exponent ≤ 1074 := by
  by_contra hlt
  have hmany : 2 ^ 53 * 2 ^ 1074 ≤ x.units :=
    Scaled.two_pow_le_value (by decide) (Nat.lt_of_not_le hlt)
  rw [toRat_eq_natCast_iff.mp h, ← unitsPerOne_eq] at hmany
  have hpos : 0 < unitsPerOne := Nat.cast_pos.mp unitsPerOne_pos
  exact absurd (Nat.le_of_mul_le_mul_right hmany hpos) (Nat.not_le.mpr hn)

/-- No other integer lies in the interval of an integer below the limit. -/
theorem eq_of_attracts_natCast {x : Magnitude} {n m : ℕ} (h : x.toRat = n) (hn : n < 2 ^ 53)
    (hm : x.Attracts m) : m = n := by
  have hpos := unitsPerOne_pos
  have hunit : (2 : ℚ) ^ x.exponent ≤ unitsPerOne := by
    rw [unitsPerOne_eq, Nat.cast_pow, Nat.cast_ofNat]
    exact pow_le_pow_right₀ one_le_two (exponent_le_of_toRat h hn)
  have hvalue : (x.significand * 2 ^ x.exponent : ℚ) = n * unitsPerOne := by
    have hunits : x.significand * 2 ^ x.exponent = n * unitsPerOne := toRat_eq_natCast_iff.mp h
    exact_mod_cast hunits
  have hlower : (n - 1 / 2) * (unitsPerOne : ℚ) ≤ m * unitsPerOne := by
    linarith [x.lowerEnd_ge, hm.lowerEnd_le]
  have hupper : m * (unitsPerOne : ℚ) ≤ (n + 1 / 2) * unitsPerOne := by
    have hend := hm.le_upperEnd
    rw [Scaled.upperEnd] at hend
    linarith
  have hlow := le_of_mul_le_mul_right hlower hpos
  have hhigh := le_of_mul_le_mul_right hupper hpos
  have hless : (m : ℚ) < (n + 1 : ℕ) := by
    push_cast
    linarith
  have hmore : (n : ℚ) < (m + 1 : ℕ) := by
    push_cast
    linarith
  rw [Nat.cast_lt] at hless hmore
  omega

/-! ### Texts of integers -/

/-- The shortest decimal of an integer below the limit is this integer, perhaps with zeros
    cut off. -/
theorem shortest_of_toRat {x : Magnitude} {n : ℕ} (h : x.toRat = n) (hn : n < 2 ^ 53)
    (hx : x.isZero = false) :
    ∃ digits zeros : ℕ, x.shortest = ⟨digits, zeros⟩ ∧ 10 ^ zeros * digits = n := by
  have hself := x.attracts_toRat
  have hwhole : Decimal.toRat ⟨n, 0⟩ = n := by rw [Decimal.toRat, zpow_zero, mul_one]
  -- the integer itself needs no place behind the point
  have hexponent : 0 ≤ x.shortest.exponent := by
    by_contra hneg
    refine not_attracts_of_exponent_lt hx (not_le.mp hneg) n ?_
    rw [hwhole, ← h]
    exact hself
  have hfound := x.shortest_attracts
  generalize x.shortest = d at hexponent hfound
  obtain ⟨digits, e⟩ := d
  obtain ⟨zeros, rfl⟩ := Int.eq_ofNat_of_zero_le hexponent
  refine ⟨digits, zeros, rfl, eq_of_attracts_natCast h hn ?_⟩
  rw [← Decimal.toRat_padEnd, Decimal.toRat, zpow_zero, mul_one] at hfound
  exact hfound

/-- Integers up to the limit are not written in exponent form. -/
theorem isPlain_of_toRat {x : Magnitude} {n : ℕ} (h : x.toRat = n) (hn : n ≤ 2 ^ 53) :
    x.isPlain = true := by
  have hunits := toRat_eq_natCast_iff.mp h
  unfold isPlain
  rw [Bool.or_eq_true]
  rcases Nat.eq_zero_or_pos n with rfl | hpos
  · left
    rw [isZero_iff_toRat, h, Nat.cast_zero]
  · right
    have hone : plainFrom.units ≤ 1 * unitsPerOne := by decide +kernel
    have hlimit : 2 ^ 53 * unitsPerOne < plainBelow.units := by decide +kernel
    have hlow : plainFrom.units ≤ x.units := by
      rw [hunits]
      exact hone.trans (Nat.mul_le_mul_right _ hpos)
    have hhigh : x.units < plainBelow.units := by
      rw [hunits]
      exact (Nat.mul_le_mul_right _ hn).trans_lt hlimit
    rw [Bool.and_eq_true]
    exact ⟨decide_eq_true hlow, decide_eq_true hhigh⟩

/-- An integer up to the limit is written as its digits. -/
theorem text_of_toRat {x : Magnitude} {n : ℕ} (h : x.toRat = n) (hn : n ≤ 2 ^ 53) :
    x.text = decimalDigits n := by
  rcases Nat.eq_or_lt_of_le hn with rfl | hlt
  · obtain rfl := toRat_injective (h.trans toRat_integerLimit.symm)
    decide +kernel
  rw [text, if_pos (isPlain_of_toRat h hn)]
  cases hzero : x.isZero with
  | true =>
    have hvalue : (n : ℚ) = 0 := h.symm.trans (isZero_iff_toRat.mp hzero)
    rw [Nat.cast_eq_zero.mp hvalue, shortest, if_pos hzero]
    rfl
  | false =>
    obtain ⟨digits, zeros, hshortest, rfl⟩ := shortest_of_toRat h hlt hzero
    have hdigits : digits ≠ 0 := by
      have hne := shortest_digits_ne_zero hzero
      rwa [hshortest] at hne
    have hminimal : ((DigitRun.ofNat digits).padEnd zeros).IsMinimal :=
      DigitRun.isMinimal_padEnd_ofNat (.inl hdigits)
    have hvalue : digitsValue ((DigitRun.ofNat digits).padEnd zeros).chars = 10 ^ zeros * digits := by
      simp [DigitRun.padEnd, digitsValue_append]
    rw [hshortest, ← hvalue, hminimal.decimalDigits_digitsValue]
    rfl

end Magnitude

end SearchQuery
