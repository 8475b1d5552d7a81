import SearchQuery.Proofs.Binary64.Shortest
import SearchQuery.Proofs.Binary64.SignificantDigits

/-! # The search finds the fewest digits

  Nothing that rounds to a magnitude ends at a higher place than what the search finds, so
  fewer digits could only lie below the power of ten of the first digit found. But then this
  power rounds to the magnitude as well, and as it ends at no lower place it is all that is
  needed: there is only one digit found.

  Nothing nearer ends at the same place. What ends at a lower one is a single digit below a
  power of ten, and the only interval that holds both is that of `2 ^ -1073`. This magnitude is
  nearer to the power.
-/

namespace SearchQuery

/-! ### The unit -/

namespace Magnitude

/-- A unit of `2 ^ -1074` is a little less than five units of `10 ^ -324`. -/
theorem exists_unitsPerOne_eq :
    ∃ unit : ℚ, unitsPerOne = unit * 10 ^ (323 : ℤ) ∧ 2 ≤ unit ∧ unit ≤ 203 / 100 := by
  have hnat : 2 * 10 ^ 323 ≤ unitsPerOne ∧ 100 * unitsPerOne ≤ 203 * 10 ^ 323 := by decide +kernel
  have hlow : ((2 * 10 ^ 323 : ℕ) : ℚ) ≤ unitsPerOne := Nat.cast_le.mpr hnat.1
  have hhigh : ((100 * unitsPerOne : ℕ) : ℚ) ≤ (203 * 10 ^ 323 : ℕ) := Nat.cast_le.mpr hnat.2
  have hpos : (0 : ℚ) < 10 ^ 323 := by positivity
  rw [Nat.cast_mul, Nat.cast_pow, Nat.cast_ofNat, Nat.cast_ofNat] at hlow
  rw [Nat.cast_mul, Nat.cast_mul, Nat.cast_pow, Nat.cast_ofNat, Nat.cast_ofNat, Nat.cast_ofNat] at hhigh
  rw [zpow_ofNat]
  generalize (10 : ℚ) ^ 323 = power at *
  refine ⟨unitsPerOne / power, (div_mul_cancel₀ _ hpos.ne').symm, ?_, ?_⟩
  · rw [le_div_iff₀ hpos]
    exact hlow
  · rw [div_le_iff₀ hpos]
    linarith

theorem toRat_mul_unitsPerOne (x : Magnitude) : x.toRat * unitsPerOne = x.units :=
  div_mul_cancel₀ _ unitsPerOne_pos.ne'

/-- Counted in units, `tenth` is a tenth of a power of ten. If it is at most one, and nine of it
    reach into the interval of `n`, then it is about one fifth and `n` is two. So the middle
    between nine and ten of it is below `n`. -/
theorem nineteen_mul_lt {n : ℕ} {tenth unit : ℚ} {k : ℤ} (hlow : 2 ≤ unit) (hhigh : unit ≤ 203 / 100)
    (htenth : tenth = unit * 10 ^ k) (hle : tenth ≤ 1) (hn : 0 < n) (hnine : (n : ℚ) - 1 / 2 ≤ 9 * tenth)
    (hten : 10 * tenth ≤ n + 1 / 2) (hlt : n < 10 * tenth) : 19 * tenth < 2 * n := by
  have hn' : (1 : ℚ) ≤ n := by exact_mod_cast hn
  rcases lt_trichotomy k (-1) with hless | heq | hmore
  · exfalso
    have hsmall : (10 : ℚ) ^ k ≤ 10 ^ (-2 : ℤ) := zpow_le_zpow_right₀ (by norm_num) (by omega)
    have hproduct := mul_le_mul hhigh hsmall (by positivity) (by norm_num)
    have hhalf : (1 / 2 : ℚ) ≤ 9 * tenth := le_trans (by linarith) hnine
    rw [← htenth] at hproduct
    norm_num at hproduct
    linarith
  · rw [heq, zpow_neg_one] at htenth
    have hmost : (n : ℚ) < 3 := by linarith
    have hleast : (1 : ℚ) < n := by linarith
    have htwo : n = 2 := by
      have hmost' : n < 3 := by exact_mod_cast hmost
      have hleast' : 1 < n := by exact_mod_cast hleast
      omega
    rw [htwo, Nat.cast_ofNat]
    linarith
  · exfalso
    have hlarge : (1 : ℚ) ≤ 10 ^ k := one_le_zpow₀ (by norm_num) (by omega)
    have hproduct := mul_le_mul hlow hlarge zero_le_one (by linarith)
    linarith

/-- There is only one magnitude whose interval reaches so far: `2 ^ -1073`, which is nearer to
    `10 ^ -323` than to anything up to nine tenths of it. -/
theorem middle_lt_of_attracts {x : Magnitude} (hx : x.isZero = false) {j : ℤ}
    (hnine : x.Attracts (9 * 10 ^ (j - 1))) (hten : x.Attracts (10 ^ j)) (hlt : x.toRat < 10 ^ j) :
    9 * 10 ^ (j - 1) + 10 ^ j < 2 * x.toRat := by
  have hpos := unitsPerOne_pos
  obtain ⟨htenth, hfew⟩ := tenth_le_of_attracts hnine hten
  have hexponent : x.exponent = 0 :=
    x.full.resolve_left (Nat.not_le.mpr (Nat.lt_of_le_of_lt hfew (by decide)))
  have hunits : x.toRat * unitsPerOne = x.significand := by
    rw [toRat_mul_unitsPerOne, units, Scaled.value_eq, hexponent, pow_zero, mul_one]
  have hlower := x.lowerEnd_ge.trans hnine.lowerEnd_le
  have hupper := hten.le_upperEnd
  unfold Scaled.upperEnd at hupper
  simp only [hexponent, pow_zero, mul_one] at hlower hupper htenth
  obtain ⟨unit, hunit, hlow, hhigh⟩ := exists_unitsPerOne_eq
  have hshift : (10 : ℚ) ^ (j - 1) * unitsPerOne = unit * 10 ^ (j + 322) := by
    rw [hunit, mul_left_comm, ← zpow_add₀ (by norm_num), show j - 1 + 323 = j + 322 by ring]
  rw [← mul_lt_mul_iff_left₀ hpos, hunits, ten_zpow_eq j, mul_assoc] at hlt
  rw [ten_zpow_eq j, mul_assoc] at hupper
  rw [mul_assoc] at hlower
  have hmiddle := nineteen_mul_lt hlow hhigh hshift htenth (significand_pos hx) hlower hupper hlt
  rw [← mul_lt_mul_iff_left₀ hpos, mul_assoc 2, hunits, ten_zpow_eq j]
  linarith only [hmiddle]

/-! ### What the search finds -/

theorem shortest_eq {x : Magnitude} (hx : x.isZero = false) : x.shortest = x.searchDown x.topPlace := by
  rw [shortest, hx, if_neg Bool.false_ne_true]

/-- Nothing with a greater exponent than the shortest decimal rounds to the magnitude. -/
theorem not_attracts_of_exponent_lt {x : Magnitude} (hx : x.isZero = false) {e : ℤ}
    (h : x.shortest.exponent < e) (digits : ℕ) : ¬ x.Attracts (Decimal.toRat ⟨digits, e⟩) := by
  obtain ⟨_, place, hfound, hsearch⟩ := x.searchDown_isFoundFrom x.topPlace
  rw [shortest_eq hx, hfound] at h
  dsimp only at h
  obtain ⟨higher, rfl⟩ : ∃ higher : ℕ, e = higher - 1074 := ⟨(e + 1074).toNat, by omega⟩
  intro hattracts
  have hcovers := covers_of_attracts hx (toRat_place digits higher) hattracts
  rcases Nat.lt_or_ge x.topPlace higher with hlt | hle
  · exact not_covers_of_topPlace_lt hx hlt digits hcovers
  · exact hsearch.highest higher (by omega) hle digits hcovers

/-- A magnitude in finer units. -/
theorem toRat_mul_pow (x : Magnitude) : x.toRat * 10 ^ (1074 : ℤ) = x.decimalUnits := by
  rw [← refinement_mul_unitsPerOne, mul_left_comm, toRat_mul_unitsPerOne, decimalUnits_eq, mul_comm]
  push_cast
  rfl

/-- What is closest at a place is the nearest that is covered there. -/
theorem IsClosestAt.abs_sub_le {x : Magnitude} {place digits other : ℕ}
    (h : x.IsClosestAt place digits) (hother : x.covers (other * 10 ^ place)) :
    |((digits * 10 ^ place : ℕ) : ℚ) - x.decimalUnits| ≤
      |((other * 10 ^ place : ℕ) : ℚ) - x.decimalUnits| := by
  have hunit : 0 < 10 ^ place := Nat.pow_pos (by decide)
  obtain ⟨habove, hbelow⟩ := h other hother
  rw [Nat.add_mul] at habove hbelow
  rcases Nat.lt_trichotomy digits other with hlt | rfl | hgt
  · have hless := Nat.mul_lt_mul_of_pos_right hlt hunit
    exact (Scaled.abs_sub_le_of_le_middle (Nat.cast_lt.mpr hless)
      (by exact_mod_cast (habove hlt).le)).1
  · exact le_refl _
  · have hless := Nat.mul_lt_mul_of_pos_right hgt hunit
    exact (Scaled.abs_sub_le_of_middle_le (Nat.cast_lt.mpr hless) (by exact_mod_cast hbelow hgt)).1

/-- Nothing with the exponent of the shortest decimal is nearer. -/
theorem shortest_closest {x : Magnitude} (hx : x.isZero = false) {digits : ℕ}
    (h : x.Attracts (Decimal.toRat ⟨digits, x.shortest.exponent⟩)) :
    |x.toRat - x.shortest.toRat| ≤ |x.toRat - Decimal.toRat ⟨digits, x.shortest.exponent⟩| := by
  obtain ⟨found, place, hfound, hsearch⟩ := x.searchDown_isFoundFrom x.topPlace
  rw [shortest_eq hx, hfound] at h ⊢
  have hclosest := hsearch.closest.abs_sub_le (covers_of_attracts hx (toRat_place digits place) h)
  have hpos : (0 : ℚ) < 10 ^ (1074 : ℤ) := by positivity
  rw [← toRat_mul_pow, ← toRat_place, ← toRat_place, ← sub_mul, ← sub_mul, abs_mul, abs_mul] at hclosest
  rw [abs_sub_comm, abs_sub_comm x.toRat]
  exact le_of_mul_le_mul_right hclosest (abs_pos.mpr hpos.ne')

/-- In the middle between two with this exponent the upper one is the shortest. -/
theorem two_mul_lt_of_shortest_lt {x : Magnitude} (hx : x.isZero = false) {digits : ℕ}
    (h : x.Attracts (Decimal.toRat ⟨digits, x.shortest.exponent⟩))
    (hlt : x.shortest.toRat < Decimal.toRat ⟨digits, x.shortest.exponent⟩) :
    2 * x.toRat < x.shortest.toRat + Decimal.toRat ⟨digits, x.shortest.exponent⟩ := by
  obtain ⟨found, place, hfound, hsearch⟩ := x.searchDown_isFoundFrom x.topPlace
  rw [shortest_eq hx, hfound] at h hlt ⊢
  have hpos : (0 : ℚ) < 10 ^ (1074 : ℤ) := by positivity
  have hless : found < digits := by
    have hscaled := mul_lt_mul_of_pos_right hlt hpos
    rw [toRat_place, toRat_place, Nat.cast_lt] at hscaled
    exact Nat.lt_of_mul_lt_mul_right hscaled
  have hmiddle := (hsearch.closest digits (covers_of_attracts hx (toRat_place digits place) h)).1 hless
  have hmiddle' : ((2 * x.decimalUnits : ℕ) : ℚ) < ((found + digits) * 10 ^ place : ℕ) :=
    Nat.cast_lt.mpr hmiddle
  rw [Nat.add_mul, Nat.cast_add, ← toRat_place, ← toRat_place, Nat.cast_mul, ← toRat_mul_pow,
    Nat.cast_ofNat, ← mul_assoc, ← add_mul] at hmiddle'
  exact lt_of_mul_lt_mul_right hmiddle' hpos.le

/-! ### Shortest digits -/

/-- The digits that the search finds. -/
def shortestDigits (x : Magnitude) (hx : x.isZero = false) : SignificantDigits :=
  .ofDecimal x.shortest (shortest_digits_ne_zero hx)

variable {x : Magnitude} (hx : x.isZero = false)

include hx

theorem toRat_shortestDigits : (x.shortestDigits hx).toRat = x.shortest.toRat :=
  SignificantDigits.toRat_ofDecimal _ _

/-- Digits that round to the magnitude have no greater last place than those found. -/
theorem point_sub_count_le {d : SignificantDigits} (h : x.Attracts d.toRat) :
    d.point - d.count ≤ x.shortest.exponent := by
  by_contra hlt
  exact not_attracts_of_exponent_lt hx (not_le.mp hlt) d.digits h

theorem point_shortestDigits :
    (x.shortestDigits hx).point = x.shortest.exponent + (x.shortestDigits hx).count := rfl

/-- Digits whose point is further left lie below the power of ten below the digits found. If
    they round to the magnitude, so does this power. -/
theorem attracts_power_of_point_lt {d : SignificantDigits} (h : x.Attracts d.toRat)
    (hpoint : d.point < (x.shortestDigits hx).point) :
    x.Attracts (10 ^ ((x.shortestDigits hx).point - 1)) := by
  have hfound := x.shortest_attracts
  rw [← toRat_shortestDigits hx] at hfound
  have hless := SignificantDigits.toRat_lt_of_point_le (Int.le_sub_one_of_lt hpoint)
  exact h.of_between hfound hless.le (x.shortestDigits hx).le_toRat

/-- Then there is only one digit found, for the power needs no lower place. -/
theorem count_eq_one_of_point_lt {d : SignificantDigits} (h : x.Attracts d.toRat)
    (hpoint : d.point < (x.shortestDigits hx).point) : (x.shortestDigits hx).count = 1 := by
  have hpower := attracts_power_of_point_lt hx h hpoint
  rw [← SignificantDigits.toRat_power] at hpower
  have hlast := point_sub_count_le hx hpower
  have hpoint := point_shortestDigits hx
  have hcount := (x.shortestDigits hx).count_pos
  simp only [SignificantDigits.power] at hlast
  omega

/-- Nothing of as many digits is nearer than what is found. -/
theorem shortestDigits_closest {d : SignificantDigits} (h : x.Attracts d.toRat)
    (hcount : d.count = (x.shortestDigits hx).count) :
    |x.toRat - x.shortest.toRat| ≤ |x.toRat - d.toRat| := by
  have hlast := point_sub_count_le hx h
  have hpoint := point_shortestDigits hx
  rcases Int.lt_or_eq_of_le hlast with hlower | hsame
  · -- a lower place is left only below a single digit, that of a power of ten
    have hless : d.point < (x.shortestDigits hx).point := by omega
    have hone := count_eq_one_of_point_lt hx h hless
    have hten := attracts_power_of_point_lt hx h hless
    have hexponent : (x.shortestDigits hx).point - 1 = x.shortest.exponent := by omega
    rw [hexponent] at hten
    have hclosest : |x.toRat - x.shortest.toRat| ≤ |x.toRat - 10 ^ x.shortest.exponent| := by
      have hvalue : Decimal.toRat ⟨1, x.shortest.exponent⟩ = 10 ^ x.shortest.exponent := by
        rw [Decimal.toRat, Nat.cast_one, one_mul]
      rw [← hvalue] at hten ⊢
      exact shortest_closest hx hten
    have hnine : d.toRat ≤ 9 * 10 ^ (x.shortest.exponent - 1) :=
      SignificantDigits.toRat_le_nine (hcount.trans hone) (by omega)
    have hshift := ten_zpow_eq x.shortest.exponent
    have hpos : (0 : ℚ) < 10 ^ (x.shortest.exponent - 1) := by positivity
    refine hclosest.trans (le_abs.mpr (.inl ?_))
    rcases le_or_gt (10 ^ x.shortest.exponent) x.toRat with habove | hbelow
    · rw [abs_of_nonneg (by linarith)]
      linarith
    · have hmiddle := middle_lt_of_attracts hx (h.of_between hten hnine (by linarith)) hten hbelow
      rw [abs_of_neg (by linarith)]
      linarith
  · rw [d.toRat_eq, hsame] at h ⊢
    exact shortest_closest hx h

/-- The digits that the search finds are the shortest. -/
theorem shortestDigits_isShortest : (x.shortestDigits hx).IsShortest x := by
  have hfound := x.shortest_attracts
  rw [← toRat_shortestDigits hx] at hfound
  refine ⟨hfound.isNearest, ?_, ?_⟩
  · intro d hd
    rw [SignificantDigits.isNearest_toRat_iff] at hd
    by_contra hfewer
    have hlast := point_sub_count_le hx hd
    have hpoint := point_shortestDigits hx
    have hone := count_eq_one_of_point_lt hx hd (by omega)
    have hcount := d.count_pos
    omega
  · intro d hd hcount
    rw [SignificantDigits.isNearest_toRat_iff] at hd
    rw [toRat_shortestDigits]
    exact shortestDigits_closest hx hd hcount

/-- In the middle between two the search takes the upper one. -/
theorem toRat_le_shortestDigits {d : SignificantDigits} (h : d.IsShortest x) :
    d.toRat ≤ (x.shortestDigits hx).toRat := by
  have hfound := shortestDigits_isShortest hx
  have hrounds := SignificantDigits.isNearest_toRat_iff.mp h.rounds
  have hcount := hfound.count_eq h
  have hpoint := point_shortestDigits hx
  by_contra hlt
  rw [not_le] at hlt
  rcases Int.lt_or_eq_of_le (point_sub_count_le hx hrounds) with hlower | hsame
  · have hless : d.toRat < 10 ^ ((x.shortestDigits hx).point - 1) :=
      SignificantDigits.toRat_lt_of_point_le (by omega)
    exact absurd (hlt.trans hless) (not_lt.mpr (x.shortestDigits hx).le_toRat)
  · rcases hfound.eq_or_middle h with rfl | hmiddle
    · exact absurd hlt (lt_irrefl _)
    · rw [toRat_shortestDigits, d.toRat_eq, hsame] at hlt hmiddle
      rw [d.toRat_eq, hsame] at hrounds
      exact absurd hmiddle (two_mul_lt_of_shortest_lt hx hrounds hlt).ne'

end Magnitude

end SearchQuery
