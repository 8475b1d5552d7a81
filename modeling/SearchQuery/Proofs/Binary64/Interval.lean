import Mathlib.Algebra.Order.Field.Rat
import Mathlib.Algebra.Order.Ring.Abs
import Mathlib.Tactic.Linarith
import Mathlib.Tactic.Ring
import SearchQuery.Binary64.Scaled

/-! # Intervals of rounding

  Each number of a binary precision has an interval of rationals that round to it: half
  the way to the number below and half the way to the number above. Both ends belong to
  the interval exactly if the significand is even. `Scaled.Attracts` says that a rational
  lies in it.

  Such a number is the nearest to the rational, and an even one of two equally near. Only one
  is, for of two neighbours one is odd, so no two intervals overlap.
-/

namespace SearchQuery

namespace Scaled

variable {bits : Nat}

/-! ### The order of scaled numbers -/

theorem value_eq (x : Scaled bits) : x.value = x.significand * 2 ^ x.exponent := rfl

/-- A number with a greater exponent has all its bits, so it is the greater number. -/
theorem value_lt_of_exponent_lt (hbits : 0 < bits) {x y : Scaled bits}
    (h : x.exponent < y.exponent) : x.value < y.value := by
  have hfull : 2 ^ (bits - 1) ≤ y.significand := y.full.resolve_right (by omega)
  have hlt : x.significand < 2 ^ bits := x.significand_lt
  calc x.value < 2 ^ bits * 2 ^ x.exponent :=
        Nat.mul_lt_mul_of_pos_right hlt (Nat.two_pow_pos _)
    _ = 2 ^ (bits - 1) * 2 ^ (x.exponent + 1) := by
        rw [← pow_add, ← pow_add]
        congr 1
        omega
    _ ≤ y.significand * 2 ^ y.exponent :=
        Nat.mul_le_mul hfull (Nat.pow_le_pow_right (by decide) h)

theorem value_injective (hbits : 0 < bits) {x y : Scaled bits} (h : x.value = y.value) : x = y := by
  rcases Nat.lt_trichotomy x.exponent y.exponent with hlt | heq | hgt
  · exact absurd h (value_lt_of_exponent_lt hbits hlt).ne
  · obtain ⟨s, e, _, _⟩ := x
    obtain ⟨s', e', _, _⟩ := y
    obtain rfl : e = e' := heq
    obtain rfl : s = s' := Nat.eq_of_mul_eq_mul_right (Nat.two_pow_pos e) h
    rfl
  · exact absurd h (value_lt_of_exponent_lt hbits hgt).ne'

/-- In units of the lesser exponent a number is a multiple of a power of two. -/
theorem value_eq_mul_of_le {x y : Scaled bits} (h : x.exponent ≤ y.exponent) :
    y.value = y.significand * 2 ^ (y.exponent - x.exponent) * 2 ^ x.exponent := by
  rw [value_eq, mul_assoc, ← pow_add, Nat.sub_add_cancel h]

/-- The next number above is one unit away. -/
theorem value_add_le (hbits : 0 < bits) {x y : Scaled bits} (h : x.value < y.value) :
    x.value + 2 ^ x.exponent ≤ y.value := by
  rcases Nat.lt_or_ge y.exponent x.exponent with hlt | hle
  · exact absurd h (value_lt_of_exponent_lt hbits hlt).asymm
  · rw [value_eq_mul_of_le hle, value_eq, ← Nat.succ_mul] at *
    exact Nat.mul_le_mul_right _ (Nat.lt_of_mul_lt_mul_right h)

theorem two_mul_two_pow (hbits : 0 < bits) : 2 * 2 ^ (bits - 1) = 2 ^ bits := by
  rw [← pow_succ', Nat.sub_add_cancel hbits]

/-- There is a number one unit above. -/
theorem exists_value_eq_add (hbits : 0 < bits) (x : Scaled bits) :
    ∃ z : Scaled bits, z.value = x.value + 2 ^ x.exponent := by
  by_cases hroom : x.significand + 1 < 2 ^ bits
  · refine ⟨⟨x.significand + 1, x.exponent, hroom, x.full.imp_left Nat.le_succ_of_le⟩, ?_⟩
    exact Nat.succ_mul _ _
  · -- all bits are set, so the next number is a power of two
    have hlast : x.significand + 1 = 2 ^ bits := by
      have hlt : x.significand < 2 ^ bits := x.significand_lt
      omega
    refine ⟨⟨2 ^ (bits - 1), x.exponent + 1, Nat.pow_lt_pow_right (by decide) (by omega),
      .inl (Nat.le_refl _)⟩, ?_⟩
    calc 2 ^ (bits - 1) * 2 ^ (x.exponent + 1) = 2 * 2 ^ (bits - 1) * 2 ^ x.exponent := by ring
      _ = (x.significand + 1) * 2 ^ x.exponent := by rw [two_mul_two_pow hbits, hlast]
      _ = x.value + 2 ^ x.exponent := Nat.succ_mul _ _

/-- Half the distance to the next number below, in quarters of a unit. Below a power of
    two the numbers lie twice as close. -/
def quartersBelow (x : Scaled bits) : Nat :=
  if x.significand = 2 ^ (bits - 1) ∧ x.exponent ≠ 0 then 1 else 2

theorem quartersBelow_le (x : Scaled bits) : x.quartersBelow ≤ 2 := by
  unfold quartersBelow
  split <;> omega

/-- A number with a lesser exponent is at least this many of its own steps below. Of these
    steps a unit of the greater exponent has an even number. -/
theorem significand_add_quartersBelow_le (hbits : 0 < bits) {x y : Scaled bits} {d : Nat}
    (hd : x.exponent = y.exponent + d + 1) :
    y.significand + x.quartersBelow * 2 ^ d ≤ 2 * 2 ^ d * x.significand := by
  have hy : y.significand + 1 ≤ 2 * 2 ^ (bits - 1) := by
    rw [two_mul_two_pow hbits]
    exact y.significand_lt
  have hfull : 2 ^ (bits - 1) ≤ x.significand := x.full.resolve_right (by omega)
  have hone : 1 ≤ 2 ^ d := Nat.two_pow_pos d
  unfold quartersBelow
  split
  · next hx =>
    rw [hx.1]
    nlinarith
  · next hx =>
    have hmore : 2 ^ (bits - 1) + 1 ≤ x.significand := by
      rcases Nat.lt_or_eq_of_le hfull with hmore | heq
      · exact hmore
      · exact absurd ⟨heq.symm, by omega⟩ hx
    nlinarith

/-- The next number below is as far away as its distance says. -/
theorem value_add_quartersBelow_le (hbits : 0 < bits) {x y : Scaled bits} (h : y.value < x.value) :
    2 * y.value + x.quartersBelow * 2 ^ x.exponent ≤ 2 * x.value := by
  rcases Nat.lt_or_ge y.exponent x.exponent with hlt | hle
  · obtain ⟨d, hd⟩ : ∃ d, x.exponent = y.exponent + d + 1 := ⟨x.exponent - y.exponent - 1, by omega⟩
    have hunit : 2 ^ x.exponent = 2 * 2 ^ d * 2 ^ y.exponent := by
      rw [hd]
      ring
    have hsteps := significand_add_quartersBelow_le hbits hd
    rw [value_eq, value_eq, hunit]
    nlinarith [Nat.mul_le_mul_right (2 ^ y.exponent) hsteps]
  · -- both are multiples of the same unit
    rw [value_eq_mul_of_le hle, value_eq] at h ⊢
    have hsucc := Nat.mul_le_mul_right (2 ^ x.exponent) (Nat.lt_of_mul_lt_mul_right h)
    rw [Nat.succ_mul] at hsucc
    nlinarith [Nat.mul_le_mul_right (2 ^ x.exponent) x.quartersBelow_le]

/-- Of two numbers next to one another one is odd. -/
theorem odd_of_value_add_eq (hbits : 0 < bits) {x y : Scaled bits}
    (h : x.value + 2 ^ x.exponent = y.value) :
    x.significand % 2 = 1 ∨ y.significand % 2 = 1 := by
  have hle : x.exponent ≤ y.exponent := by
    by_contra hlt
    have hgt := value_lt_of_exponent_lt hbits (Nat.lt_of_not_le hlt)
    have hpos := Nat.two_pow_pos x.exponent
    omega
  rw [value_eq_mul_of_le hle, value_eq, ← Nat.succ_mul] at h
  have hsucc : x.significand + 1 = y.significand * 2 ^ (y.exponent - x.exponent) :=
    Nat.eq_of_mul_eq_mul_right (Nat.two_pow_pos x.exponent) h
  rcases Nat.lt_or_eq_of_le hle with hlt | heq
  · -- the one below a power of two has all bits set
    obtain ⟨d, hd⟩ : ∃ d, y.exponent - x.exponent = d + 1 := ⟨y.exponent - x.exponent - 1, by omega⟩
    rw [hd, pow_succ, ← mul_assoc] at hsucc
    omega
  · simp only [heq, Nat.sub_self, pow_zero, mul_one] at hsucc
    omega

/-! ### Intervals -/

/-- The lower end of the interval that rounds to a number. -/
def lowerEnd (x : Scaled bits) : ℚ := (x.significand - x.quartersBelow / 4) * 2 ^ x.exponent

/-- The upper end of the interval that rounds to a number. -/
def upperEnd (x : Scaled bits) : ℚ := (x.significand + 1 / 2) * 2 ^ x.exponent

/-- Whether a rational lies in the interval that rounds to a number. -/
structure Attracts (x : Scaled bits) (q : ℚ) : Prop where
  lowerEnd_le : x.lowerEnd ≤ q
  le_upperEnd : q ≤ x.upperEnd
  even_of_end : q = x.lowerEnd ∨ q = x.upperEnd → x.significand % 2 = 0

/-- Whether a number is the nearest to a rational, an even one of two equally near. -/
def IsNearest (x : Scaled bits) (q : ℚ) : Prop :=
  ∀ y : Scaled bits, |x.value - q| ≤ |y.value - q| ∧
    (|x.value - q| = |y.value - q| → y = x ∨ x.significand % 2 = 0)

theorem lowerEnd_eq (x : Scaled bits) :
    x.lowerEnd = x.value - x.quartersBelow / 4 * 2 ^ x.exponent := by
  rw [lowerEnd, value_eq]
  push_cast
  ring

theorem upperEnd_eq (x : Scaled bits) : x.upperEnd = x.value + 2 ^ x.exponent / 2 := by
  rw [upperEnd, value_eq]
  push_cast
  ring

/-- The middle between a number and one above is at or behind the end of its interval. -/
theorem two_mul_upperEnd_le (hbits : 0 < bits) {x y : Scaled bits} (h : x.value < y.value) :
    2 * x.upperEnd ≤ x.value + y.value := by
  have hgap : ((x.value + 2 ^ x.exponent : ℕ) : ℚ) ≤ y.value := by exact_mod_cast value_add_le hbits h
  push_cast at hgap
  rw [upperEnd_eq]
  linarith

/-- The middle between a number and one below is at or before the end of its interval. -/
theorem le_two_mul_lowerEnd (hbits : 0 < bits) {x y : Scaled bits} (h : y.value < x.value) :
    (y.value + x.value : ℚ) ≤ 2 * x.lowerEnd := by
  have hgap : ((2 * y.value + x.quartersBelow * 2 ^ x.exponent : ℕ) : ℚ) ≤ (2 * x.value : ℕ) := by
    exact_mod_cast value_add_quartersBelow_le hbits h
  push_cast at hgap
  rw [lowerEnd_eq]
  linarith

/-- What is not behind the middle of two numbers is not farther from the lower one, and as
    far only in the middle. -/
theorem abs_sub_le_of_le_middle {a b q : ℚ} (hlt : a < b) (h : 2 * q ≤ a + b) :
    |a - q| ≤ |b - q| ∧ (|a - q| = |b - q| → 2 * q = a + b) := by
  have hb : |b - q| = b - q := abs_of_nonneg (by linarith)
  rw [hb]
  refine ⟨abs_le.mpr ⟨by linarith, by linarith⟩, ?_⟩
  intro htie
  rcases abs_cases (a - q) with ⟨hcase, _⟩ | ⟨hcase, _⟩ <;> linarith

/-- What is not before the middle is not farther from the upper one. -/
theorem abs_sub_le_of_middle_le {a b q : ℚ} (hlt : b < a) (h : b + a ≤ 2 * q) :
    |a - q| ≤ |b - q| ∧ (|a - q| = |b - q| → 2 * q = b + a) := by
  have hneg : 2 * -q ≤ -a + -b := by linarith
  have hmirror := abs_sub_le_of_le_middle (neg_lt_neg hlt) hneg
  rw [neg_sub_neg, neg_sub_neg, abs_sub_comm, abs_sub_comm q b] at hmirror
  refine ⟨hmirror.1, ?_⟩
  intro htie
  have hmiddle := hmirror.2 htie
  linarith

/-- A number is the nearest to all of its interval. -/
theorem Attracts.isNearest (hbits : 0 < bits) {x : Scaled bits} {q : ℚ} (h : x.Attracts q) :
    x.IsNearest q := by
  intro y
  have hlower := h.lowerEnd_le
  have hupper := h.le_upperEnd
  rcases Nat.lt_trichotomy x.value y.value with hlt | heq | hgt
  · have hmiddle := two_mul_upperEnd_le hbits hlt
    have hq : 2 * q ≤ x.value + y.value := by linarith
    obtain ⟨hle, htie⟩ := abs_sub_le_of_le_middle (Nat.cast_lt.mpr hlt) hq
    refine ⟨hle, fun hfar => .inr (h.even_of_end (.inr ?_))⟩
    linarith [htie hfar]
  · have hsame := value_injective hbits heq
    subst hsame
    exact ⟨le_refl _, fun _ => .inl rfl⟩
  · have hmiddle := le_two_mul_lowerEnd hbits hgt
    have hq : (y.value + x.value : ℚ) ≤ 2 * q := by linarith
    obtain ⟨hle, htie⟩ := abs_sub_le_of_middle_le (Nat.cast_lt.mpr hgt) hq
    refine ⟨hle, fun hfar => .inr (h.even_of_end (.inl ?_))⟩
    linarith [htie hfar]

/-- Two numbers are not both the nearest: those between them would be nearer, and of two
    neighbours one is odd. -/
theorem IsNearest.not_lt (hbits : 0 < bits) {x y : Scaled bits} {q : ℚ} (hx : x.IsNearest q)
    (hy : y.IsNearest q) : ¬ x.value < y.value := by
  intro hlt
  have hne : y ≠ x := by
    rintro rfl
    exact Nat.lt_irrefl _ hlt
  have hfar : |(x.value : ℚ) - q| = |(y.value : ℚ) - q| := le_antisymm (hx y).1 (hy x).1
  have hxeven := ((hx y).2 hfar).resolve_left hne
  have hyeven := ((hy x).2 hfar.symm).resolve_left hne.symm
  have hlt' : (x.value : ℚ) < y.value := Nat.cast_lt.mpr hlt
  have hmiddle : 2 * q = x.value + y.value := by
    rcases abs_eq_abs.mp hfar with hsame | hopposite <;> linarith
  obtain ⟨z, hz⟩ := exists_value_eq_add hbits x
  have hzy : z.value ≤ y.value := by
    rw [hz]
    exact value_add_le hbits hlt
  rcases Nat.lt_or_eq_of_le hzy with hbetween | hnext
  · have hxz : (x.value : ℚ) < z.value := by
      have hpos := Nat.two_pow_pos x.exponent
      exact Nat.cast_lt.mpr (by omega)
    have hbetween' : (z.value : ℚ) < y.value := Nat.cast_lt.mpr hbetween
    have hle := (hx z).1
    rw [abs_of_neg (by linarith : (x.value : ℚ) - q < 0)] at hle
    rcases le_abs.mp hle with hle | hle <;> linarith
  · rw [hz] at hnext
    rcases odd_of_value_add_eq hbits hnext with hodd | hodd <;> omega

theorem IsNearest.unique (hbits : 0 < bits) {x y : Scaled bits} {q : ℚ} (hx : x.IsNearest q)
    (hy : y.IsNearest q) : x = y := by
  rcases Nat.lt_trichotomy x.value y.value with hlt | heq | hgt
  · exact absurd hlt (hx.not_lt hbits hy)
  · exact value_injective hbits heq
  · exact absurd hgt (hy.not_lt hbits hx)

/-- Intervals do not overlap. -/
theorem Attracts.unique (hbits : 0 < bits) {x y : Scaled bits} {q : ℚ} (hx : x.Attracts q)
    (hy : y.Attracts q) : x = y :=
  (hx.isNearest hbits).unique hbits (hy.isNearest hbits)

end Scaled

end SearchQuery
