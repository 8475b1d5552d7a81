/-! # Rounding to a binary precision

  A `Scaled bits` is a natural number written as `significand * 2 ^ exponent`
  with at most `bits` bits in the significand. All bits are used unless the
  exponent is zero, so each number that has such a form has exactly one.

  `Scaled.nearest` rounds a quotient of natural numbers to this form: to the
  nearest value, and to the even significand when two are equally near.
-/

namespace SearchQuery

/-- The natural number nearest to `num / den`, the even one of two equally near. -/
def nearestQuotient (num den : Nat) : Nat :=
  if 2 * (num % den) < den ∨ (2 * (num % den) = den ∧ num / den % 2 = 0) then
    num / den
  else
    num / den + 1

theorem nearestQuotient_le (num den : Nat) : nearestQuotient num den ≤ num / den + 1 := by
  unfold nearestQuotient; split <;> omega

theorem le_nearestQuotient (num den : Nat) : num / den ≤ nearestQuotient num den := by
  unfold nearestQuotient; split <;> omega

/-- A number `significand * 2 ^ exponent` of at most `bits` significant bits. -/
structure Scaled (bits : Nat) where
  /-- The significant bits, read as one natural number. -/
  significand : Nat
  /-- The power of two that scales them. -/
  exponent : Nat
  significand_lt : significand < Nat.pow 2 bits
  full : Nat.pow 2 (bits - 1) ≤ significand ∨ exponent = 0
deriving DecidableEq, Repr

namespace Scaled

variable {bits : Nat}

/-- The number itself. -/
def value (x : Scaled bits) : Nat := x.significand * Nat.pow 2 x.exponent

/-- The power of two at which a number just below `num / den + 1` has `bits` bits. -/
def exponentFor (bits num den : Nat) : Nat := (num / den).log2 + 1 - bits

/-- The quotient `num / den` in units of `2 ^ exponentFor bits num den`, rounded. -/
def significandFor (bits num den : Nat) : Nat :=
  nearestQuotient num (den * Nat.pow 2 (exponentFor bits num den))

theorem significandFor_le (bits num den : Nat) :
    significandFor bits num den ≤ Nat.pow 2 bits := by
  refine Nat.le_trans (nearestQuotient_le _ _) ?_
  rw [← Nat.div_div_eq_div_mul]
  have hlt : num / den < 2 ^ (exponentFor bits num den + bits) :=
    Nat.lt_of_lt_of_le Nat.lt_log2_self
      (Nat.pow_le_pow_right (by decide) (by unfold exponentFor; omega))
  rw [Nat.pow_add] at hlt
  exact Nat.div_lt_of_lt_mul hlt

theorem le_significandFor {num den : Nat} (pos : 0 < bits) (h : exponentFor bits num den ≠ 0) :
    Nat.pow 2 (bits - 1) ≤ significandFor bits num den := by
  refine Nat.le_trans ?_ (le_nearestQuotient _ _)
  simp only [Nat.pow_eq]
  rw [← Nat.div_div_eq_div_mul, Nat.le_div_iff_mul_le (Nat.two_pow_pos _), ← Nat.pow_add]
  have hne : num / den ≠ 0 := by
    intro h0
    simp only [exponentFor, h0, Nat.log2_zero] at h
    omega
  exact Nat.le_trans (Nat.pow_le_pow_right (by decide) (by unfold exponentFor at *; omega))
    (Nat.log2_self_le hne)

/-- The value nearest to `num / den`, the one with an even significand of two
    equally near. -/
def nearest (pos : 0 < bits) (num den : Nat) : Scaled bits :=
  if h : significandFor bits num den < Nat.pow 2 bits then
    { significand := significandFor bits num den
      exponent := exponentFor bits num den
      significand_lt := h
      full := by
        by_cases h0 : exponentFor bits num den = 0
        · exact .inr h0
        · exact .inl (le_significandFor pos h0) }
  else
    -- rounded up to a power of two that needs one bit more
    { significand := Nat.pow 2 (bits - 1)
      exponent := exponentFor bits num den + 1
      significand_lt := Nat.pow_lt_pow_right (by decide) (by omega)
      full := .inl (Nat.le_refl _) }

end Scaled

end SearchQuery
