import SearchQuery.Proofs.Binary64.Decimal

/-! # The order of intervals

  The intervals of rounding have no holes, and they lie in the order of their numbers.
  Together they hold every nonnegative rational. So a number that is the nearest to a
  rational has it in its interval, as no other number is the nearest.
-/

namespace SearchQuery

namespace Scaled

variable {bits : Nat}

/-! ### Intervals -/

/-- Every nonnegative rational lies in an interval. -/
theorem exists_attracts (hbits : 1 < bits) {q : ℚ} (hq : 0 ≤ q) : ∃ x : Scaled bits, x.Attracts q := by
  have hnearest := nearest_attracts hbits q.num.toNat q.den_pos
  have hnum : (q.num.toNat : ℚ) = q.num := by
    exact_mod_cast Int.toNat_of_nonneg (Rat.num_nonneg.mpr hq)
  rw [hnum, Rat.num_div_den] at hnearest
  exact ⟨_, hnearest⟩

/-- The nearest number to a rational has it in its interval. -/
theorem IsNearest.attracts (hbits : 1 < bits) {x : Scaled bits} {q : ℚ} (hq : 0 ≤ q)
    (h : x.IsNearest q) : x.Attracts q := by
  obtain ⟨y, hy⟩ := exists_attracts hbits hq
  have hpos : 0 < bits := Nat.lt_of_succ_lt hbits
  rw [h.unique hpos (hy.isNearest hpos)]
  exact hy

/-- An interval has no holes. -/
theorem Attracts.of_between {x : Scaled bits} {a b q : ℚ} (ha : x.Attracts a) (hb : x.Attracts b)
    (haq : a ≤ q) (hqb : q ≤ b) : x.Attracts q := by
  have hlower := ha.lowerEnd_le
  have hupper := hb.le_upperEnd
  refine ⟨hlower.trans haq, hqb.trans hupper, ?_⟩
  rintro (hend | hend)
  · exact ha.even_of_end (.inl (le_antisymm (hend ▸ haq) hlower))
  · exact hb.even_of_end (.inr (le_antisymm hupper (hend ▸ hqb)))

/-- Intervals lie in the order of their numbers. -/
theorem Attracts.value_le (hbits : 0 < bits) {x y : Scaled bits} {a b : ℚ} (hx : x.Attracts a)
    (hy : y.Attracts b) (hab : a ≤ b) : x.value ≤ y.value := by
  by_contra hlt
  have hgt : y.value < x.value := Nat.lt_of_not_le hlt
  have hupper := two_mul_upperEnd_le hbits hgt
  have hlower := le_two_mul_lowerEnd hbits hgt
  have hx' := hx.lowerEnd_le
  have hy' := hy.le_upperEnd
  -- only one value can be left between the two
  have heq : a = b := by linarith
  rw [← heq] at hy
  rw [hx.unique hbits hy] at hgt
  exact Nat.lt_irrefl _ hgt

end Scaled

namespace Magnitude

/-! ### Magnitudes -/

theorem units_injective {x y : Magnitude} (h : x.units = y.units) : x = y :=
  toScaled_injective (Scaled.value_injective (by decide) h)

/-- The interval of a magnitude holds what it is the nearest to. -/
theorem isNearest_iff_attracts {x : Magnitude} {q : ℚ} (hq : 0 ≤ q) :
    x.IsNearest q ↔ x.Attracts q := by
  constructor
  · intro h
    exact Scaled.IsNearest.attracts (by decide) (mul_nonneg hq unitsPerOne_pos.le)
      (isNearest_iff_scaled.mp h)
  · exact Attracts.isNearest

/-- The interval of a magnitude holds the magnitude itself. -/
theorem attracts_toRat (x : Magnitude) : x.Attracts x.toRat := by
  have hnonneg : 0 ≤ x.toRat := div_nonneg (Nat.cast_nonneg _) unitsPerOne_pos.le
  rw [← isNearest_iff_attracts hnonneg]
  intro y
  rw [sub_self, abs_zero]
  refine ⟨abs_nonneg _, ?_⟩
  intro hsame
  left
  rw [eq_comm, abs_eq_zero, sub_eq_zero, toRat, div_left_inj' unitsPerOne_pos.ne', Nat.cast_inj] at hsame
  exact Scaled.value_injective (by decide) hsame

theorem Attracts.of_between {x : Magnitude} {a b q : ℚ} (ha : x.Attracts a) (hb : x.Attracts b)
    (haq : a ≤ q) (hqb : q ≤ b) : x.Attracts q :=
  Scaled.Attracts.of_between ha hb (mul_le_mul_of_nonneg_right haq unitsPerOne_pos.le)
    (mul_le_mul_of_nonneg_right hqb unitsPerOne_pos.le)

theorem Attracts.units_le {x y : Magnitude} {a b : ℚ} (hx : x.Attracts a) (hy : y.Attracts b)
    (hab : a ≤ b) : x.units ≤ y.units :=
  Scaled.Attracts.value_le (by decide) hx hy (mul_le_mul_of_nonneg_right hab unitsPerOne_pos.le)

end Magnitude

end SearchQuery
