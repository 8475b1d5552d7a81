import Mathlib.Tactic.Positivity
import SearchQuery.Binary64.Basic
import SearchQuery.Proofs.Binary64.Interval

/-! # Rounding is to nearest

  `Scaled.nearest` finds the number in whose interval a quotient lies. It takes as many
  bits before the point as there are to be kept; what is left is rounded off, and when
  this carries into one bit more the result is a power of two.

  Since intervals do not overlap, rounding gives a number exactly if the quotient lies in
  its interval.
-/

namespace SearchQuery

/-! ### Rounding a quotient -/

/-- Rounding to a natural number misses by at most a half, and by a half only if the
    number is even. -/
theorem nearestQuotient_spec (num : Nat) {den : Nat} (hden : 0 < den) :
    2 * (nearestQuotient num den * den) ≤ 2 * num + den ∧
    2 * num ≤ 2 * (nearestQuotient num den * den) + den ∧
    (2 * (nearestQuotient num den * den) = 2 * num + den ∨
      2 * num = 2 * (nearestQuotient num den * den) + den → nearestQuotient num den % 2 = 0) := by
  have hnum := Nat.div_add_mod num den
  have hrest := Nat.mod_lt num hden
  unfold nearestQuotient
  split
  · next hdown =>
    rw [Nat.mul_comm] at hnum
    refine ⟨by omega, by omega, ?_⟩
    rintro (htie | htie)
    · omega
    · rcases hdown with hless | ⟨_, heven⟩
      · omega
      · exact heven
  · next hup =>
    rw [Nat.mul_comm] at hnum
    rw [Nat.succ_mul (num / den) den]
    refine ⟨by omega, by omega, ?_⟩
    rintro (htie | htie)
    · omega
    · omega

theorem nearestQuotient_rat (num : Nat) {den : Nat} (hden : 0 < den) :
    (nearestQuotient num den : ℚ) - 1 / 2 ≤ num / den ∧
    (num / den : ℚ) ≤ nearestQuotient num den + 1 / 2 ∧
    ((num / den : ℚ) = nearestQuotient num den - 1 / 2 ∨
      (num / den : ℚ) = nearestQuotient num den + 1 / 2 → nearestQuotient num den % 2 = 0) := by
  obtain ⟨hlow, hhigh, heven⟩ := nearestQuotient_spec num hden
  have hpos : (0 : ℚ) < den := by exact_mod_cast hden
  have hlow' : 2 * ((nearestQuotient num den : ℚ) * den) ≤ 2 * num + den := by exact_mod_cast hlow
  have hhigh' : (2 * num : ℚ) ≤ 2 * (nearestQuotient num den * den) + den := by exact_mod_cast hhigh
  refine ⟨?_, ?_, ?_⟩
  · rw [le_div_iff₀ hpos]
    linarith
  · rw [div_le_iff₀ hpos]
    linarith
  · rintro (htie | htie)
    · rw [div_eq_iff hpos.ne'] at htie
      apply heven
      left
      have hcast : (2 * (nearestQuotient num den * den) : ℚ) = 2 * num + den := by linarith
      exact_mod_cast hcast
    · rw [div_eq_iff hpos.ne'] at htie
      apply heven
      right
      have hcast : (2 * num : ℚ) = 2 * (nearestQuotient num den * den) + den := by linarith
      exact_mod_cast hcast

namespace Scaled

variable {bits : Nat}

/-- The exponent leaves at most `bits` bits before the point. -/
theorem lt_two_pow_exponentFor (bits num : Nat) {den : Nat} (hden : 0 < den) :
    (num / den : ℚ) < 2 ^ bits * 2 ^ exponentFor bits num den := by
  have hlog : num / den < 2 ^ (bits + exponentFor bits num den) :=
    Nat.lt_of_lt_of_le Nat.lt_log2_self
      (Nat.pow_le_pow_right (by decide) (by unfold exponentFor; omega))
  have hpos : (0 : ℚ) < den := by exact_mod_cast hden
  rw [Nat.div_lt_iff_lt_mul hden, pow_add] at hlog
  rw [div_lt_iff₀ hpos]
  exact_mod_cast hlog

/-- An exponent that is not zero leaves no fewer. -/
theorem two_pow_exponentFor_le (hbits : 0 < bits) (num : Nat) {den : Nat} (hden : 0 < den)
    (h : exponentFor bits num den ≠ 0) :
    2 ^ (bits - 1) * 2 ^ exponentFor bits num den ≤ (num / den : ℚ) := by
  have hne : num / den ≠ 0 := by
    intro h0
    simp only [exponentFor, h0, Nat.log2_zero] at h
    omega
  have hlog : 2 ^ (bits - 1 + exponentFor bits num den) ≤ num / den :=
    Nat.le_trans (Nat.pow_le_pow_right (by decide) (by unfold exponentFor at *; omega))
      (Nat.log2_self_le hne)
  have hpos : (0 : ℚ) < den := by exact_mod_cast hden
  rw [Nat.le_div_iff_mul_le hden, pow_add] at hlog
  rw [le_div_iff₀ hpos]
  exact_mod_cast hlog

/-- The significand misses the quotient by at most half a unit, and by half a unit only
    if it is even. -/
theorem significandFor_spec (bits num : Nat) {den : Nat} (hden : 0 < den) :
    (significandFor bits num den - 1 / 2) * 2 ^ exponentFor bits num den ≤ (num / den : ℚ) ∧
    (num / den : ℚ) ≤ (significandFor bits num den + 1 / 2) * 2 ^ exponentFor bits num den ∧
    ((num / den : ℚ) = (significandFor bits num den - 1 / 2) * 2 ^ exponentFor bits num den ∨
      (num / den : ℚ) = (significandFor bits num den + 1 / 2) * 2 ^ exponentFor bits num den →
      significandFor bits num den % 2 = 0) := by
  have hspec := nearestQuotient_rat num
    (Nat.mul_pos hden (Nat.two_pow_pos (exponentFor bits num den)))
  have hunit : (0 : ℚ) < 2 ^ exponentFor bits num den := by positivity
  have hscale : (num / (den * 2 ^ exponentFor bits num den : ℕ) : ℚ) =
      num / den / 2 ^ exponentFor bits num den := by
    push_cast
    rw [div_div]
  rw [hscale, le_div_iff₀ hunit, div_le_iff₀ hunit, div_eq_iff hunit.ne', div_eq_iff hunit.ne'] at hspec
  exact hspec

/-- The number with this significand attracts the quotient. -/
theorem attracts_of_significandFor (hbits : 0 < bits) {num den : Nat} (hden : 0 < den)
    {x : Scaled bits} (hsig : x.significand = significandFor bits num den)
    (hexp : x.exponent = exponentFor bits num den) : x.Attracts (num / den) := by
  obtain ⟨hlow, hhigh, heven⟩ := significandFor_spec bits num hden
  rw [← hsig, ← hexp] at hlow hhigh heven
  have hunit : (0 : ℚ) < 2 ^ x.exponent := by positivity
  by_cases hpower : x.significand = 2 ^ (bits - 1) ∧ x.exponent ≠ 0
  · -- at a power of two the quotient is not below the number
    have hquarters : x.quartersBelow = 1 := if_pos hpower
    have hq : x.significand * 2 ^ x.exponent ≤ (num / den : ℚ) := by
      have hfloor := two_pow_exponentFor_le hbits num hden (hexp ▸ hpower.2)
      rw [← hexp] at hfloor
      rw [hpower.1]
      exact_mod_cast hfloor
    refine ⟨?_, hhigh, ?_⟩
    · rw [lowerEnd, hquarters]
      push_cast
      linarith
    · rw [lowerEnd, hquarters]
      rintro (hend | hend)
      · exfalso
        push_cast at hend
        linarith
      · exact heven (.inr hend)
  · have hquarters : x.quartersBelow = 2 := if_neg hpower
    have hlower : x.lowerEnd = (x.significand - 1 / 2) * 2 ^ x.exponent := by
      rw [lowerEnd, hquarters]
      norm_num
    refine ⟨hlower.trans_le hlow, hhigh, ?_⟩
    rw [hlower]
    exact heven

/-- So does the power of two that the significand is rounded up to when it needs one bit
    more. -/
theorem attracts_of_carry (hbits : 1 < bits) {num den : Nat} (hden : 0 < den) {x : Scaled bits}
    (hcarry : significandFor bits num den = 2 ^ bits) (hsig : x.significand = 2 ^ (bits - 1))
    (hexp : x.exponent = exponentFor bits num den + 1) : x.Attracts (num / den) := by
  have hbelow := lt_two_pow_exponentFor bits num hden
  obtain ⟨hlow, _, _⟩ := significandFor_spec bits num hden
  have hbits' : (2 : ℚ) ^ bits = 2 * 2 ^ (bits - 1) := by
    exact_mod_cast (two_mul_two_pow (Nat.lt_of_succ_lt hbits)).symm
  have hcarry' : (significandFor bits num den : ℚ) = 2 * 2 ^ (bits - 1) := by
    rw [hcarry, ← hbits']
    push_cast
    rfl
  have hsig' : (x.significand : ℚ) = 2 ^ (bits - 1) := by
    rw [hsig]
    push_cast
    rfl
  have hunit : (0 : ℚ) < 2 ^ exponentFor bits num den := by positivity
  have hquarters : x.quartersBelow = 1 := if_pos ⟨hsig, by omega⟩
  rw [hcarry'] at hlow
  rw [hbits'] at hbelow
  refine ⟨?_, ?_, fun _ => ?_⟩
  · rw [lowerEnd, hquarters, hsig', hexp, pow_succ]
    push_cast
    linarith
  · rw [upperEnd, hsig', hexp, pow_succ]
    linarith
  · rw [hsig]
    exact Nat.even_iff.mp ((Nat.even_pow' (by omega)).mpr even_two)

/-- Rounding finds the number whose interval a quotient lies in. -/
theorem nearest_attracts (hbits : 1 < bits) (num : Nat) {den : Nat} (hden : 0 < den) :
    (nearest (Nat.lt_of_succ_lt hbits) num den : Scaled bits).Attracts (num / den) := by
  unfold nearest
  split
  · exact attracts_of_significandFor (Nat.lt_of_succ_lt hbits) hden rfl rfl
  · next hge =>
    have hcarry : significandFor bits num den = 2 ^ bits :=
      Nat.le_antisymm (significandFor_le bits num den) (Nat.le_of_not_lt hge)
    exact attracts_of_carry hbits hden hcarry rfl rfl

theorem nearest_eq_iff (hbits : 1 < bits) {num den : Nat} (hden : 0 < den) {x : Scaled bits} :
    nearest (Nat.lt_of_succ_lt hbits) num den = x ↔ x.Attracts (num / den) := by
  have hnearest := nearest_attracts hbits num hden
  constructor
  · rintro rfl
    exact hnearest
  · exact hnearest.unique (Nat.lt_of_succ_lt hbits)

end Scaled

namespace Magnitude

/-- A quotient of units is rounded to the magnitude whose interval it lies in. -/
theorem nearest?_eq_some_iff {num den : Nat} (hden : 0 < den) {x : Magnitude} :
    nearest? num den = some x ↔ x.toScaled.Attracts (num / den) := by
  rw [← Scaled.nearest_eq_iff (by decide) hden]
  unfold nearest?
  dsimp only
  constructor
  · intro h
    split at h
    · cases h
      rfl
    · cases h
  · intro h
    have hle := x.exponent_le
    simp only [h, dif_pos hle]

end Magnitude

end SearchQuery
