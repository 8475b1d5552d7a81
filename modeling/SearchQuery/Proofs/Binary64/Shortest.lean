import SearchQuery.Proofs.Binary64.Decimal

/-! # The search for the shortest decimal

  The search for the shortest decimal of a magnitude counts in units of `10 ^ -1074`, in
  which every unit of `2 ^ -1074` is a whole number. Away from zero a number of these units
  is covered exactly if it lies in the interval of the magnitude.

  What the search finds at some place, and what it falls back to when it finds nothing, is
  covered. So the decimal is read back to the magnitude. Nothing is covered at any higher
  place, and nothing that is covered at the same place is nearer.
-/

namespace SearchQuery

namespace Magnitude

/-! ### Finer units -/

/-- How many units of `10 ^ -1074` make a unit of `2 ^ -1074`. -/
def refinement : Nat := Nat.pow 5 1074

theorem refinement_eq : refinement = 5 ^ 1074 := by decide +kernel

theorem refinement_pos : (0 : ℚ) < refinement := by
  rw [refinement_eq]
  positivity

theorem refinement_mul_unitsPerOne : (refinement * unitsPerOne : ℚ) = 10 ^ (1074 : ℤ) := by
  have hnat : refinement * unitsPerOne = 10 ^ 1074 := by
    rw [refinement_eq, unitsPerOne_eq, show 10 = 5 * 2 from rfl, mul_pow]
  rw [← Nat.cast_mul, hnat, Nat.cast_pow, Nat.cast_ofNat, zpow_ofNat]

theorem decimalUnits_eq (x : Magnitude) : x.decimalUnits = x.units * refinement := by
  unfold decimalUnits refinement
  rfl

theorem lowerEnd_eq (x : Magnitude) :
    x.lowerEnd = (4 * x.significand - x.quartersBelow) * (2 ^ x.exponent * refinement) := by
  unfold lowerEnd refinement
  exact Nat.mul_assoc _ _ _

theorem upperEnd_eq (x : Magnitude) :
    x.upperEnd = (4 * x.significand + 2) * (2 ^ x.exponent * refinement) := by
  unfold upperEnd refinement
  exact Nat.mul_assoc _ _ _

theorem two_pow_mul_refinement_pos (e : ℕ) : 0 < 2 ^ e * refinement :=
  Nat.mul_pos (Nat.two_pow_pos e) (Nat.cast_pos.mp refinement_pos)

theorem quartersBelow_eq (x : Magnitude) : x.quartersBelow = x.toScaled.quartersBelow := rfl

/-- The lower end in finer units. It is the exact one except at zero, where it is cut off. -/
theorem le_lowerEnd (x : Magnitude) : 4 * (x.toScaled.lowerEnd * refinement) ≤ x.lowerEnd := by
  have hcut : ((4 * x.significand : ℕ) : ℚ) ≤
      (4 * x.significand - x.quartersBelow + x.quartersBelow : ℕ) := Nat.cast_le.mpr (by omega)
  rw [Nat.cast_add, Nat.cast_mul, Nat.cast_ofNat] at hcut
  have hunit : (0 : ℚ) ≤ 2 ^ x.exponent * refinement :=
    mul_nonneg (by positivity) refinement_pos.le
  calc 4 * (x.toScaled.lowerEnd * refinement)
      = (4 * x.significand - x.quartersBelow) * (2 ^ x.exponent * refinement) := by
        rw [Scaled.lowerEnd, quartersBelow_eq]
        ring
    _ ≤ (4 * x.significand - x.quartersBelow : ℕ) * (2 ^ x.exponent * refinement) :=
        mul_le_mul_of_nonneg_right (by linarith) hunit
    _ = x.lowerEnd := by
        rw [lowerEnd_eq]
        push_cast
        rfl

/-- The upper end in finer units. -/
theorem upperEnd_exact (x : Magnitude) :
    4 * (x.toScaled.upperEnd * refinement) = (x.upperEnd : ℚ) := by
  rw [upperEnd_eq, Scaled.upperEnd]
  push_cast
  ring

/-- A decimal in finer units. -/
theorem toRat_place (digits place : ℕ) :
    Decimal.toRat ⟨digits, place - 1074⟩ * 10 ^ (1074 : ℤ) = (digits * 10 ^ place : ℕ) := by
  rw [Decimal.toRat, mul_assoc, ← zpow_add₀ (by norm_num), sub_add_cancel, zpow_natCast]
  push_cast
  rfl

theorem cast_eq_mul_refinement {n : ℕ} {q : ℚ} (hq : q * 10 ^ (1074 : ℤ) = n) :
    (n : ℚ) = q * unitsPerOne * refinement := by
  rw [← hq, ← refinement_mul_unitsPerOne]
  ring

/-- A number of finer units that is covered lies in the interval. -/
theorem attracts_of_covers {x : Magnitude} {n : ℕ} {q : ℚ} (hq : q * 10 ^ (1074 : ℤ) = n)
    (h : x.covers n) : x.Attracts q := by
  have hpos := refinement_pos
  have hn := cast_eq_mul_refinement hq
  have hlower := x.le_lowerEnd
  have hupper := x.upperEnd_exact
  unfold covers at h
  split at h
  · next heven =>
    obtain ⟨hlow, hhigh⟩ := of_decide_eq_true h
    have hlow' : (x.lowerEnd : ℚ) ≤ 4 * n := by exact_mod_cast hlow
    have hhigh' : (4 * n : ℚ) ≤ x.upperEnd := by exact_mod_cast hhigh
    rw [hn] at hlow' hhigh'
    exact ⟨le_of_mul_le_mul_right (by linarith) hpos, le_of_mul_le_mul_right (by linarith) hpos,
      fun _ => heven⟩
  · obtain ⟨hlow, hhigh⟩ := of_decide_eq_true h
    have hlow' : (x.lowerEnd : ℚ) < 4 * n := by exact_mod_cast hlow
    have hhigh' : (4 * n : ℚ) < x.upperEnd := by exact_mod_cast hhigh
    rw [hn] at hlow' hhigh'
    have hlt : x.toScaled.lowerEnd < q * unitsPerOne :=
      lt_of_mul_lt_mul_right (by linarith) hpos.le
    have hgt : q * unitsPerOne < x.toScaled.upperEnd :=
      lt_of_mul_lt_mul_right (by linarith) hpos.le
    refine ⟨hlt.le, hgt.le, ?_⟩
    rintro (hend | hend)
    · exact absurd hend hlt.ne'
    · exact absurd hend hgt.ne

theorem significand_pos {x : Magnitude} (h : x.isZero = false) : 0 < x.significand := by
  have hne : x.significand ≠ 0 := by simpa [isZero] using h
  omega

/-- Away from zero nothing is cut off at the lower end. -/
theorem lowerEnd_exact {x : Magnitude} (h : x.isZero = false) :
    4 * (x.toScaled.lowerEnd * refinement) = (x.lowerEnd : ℚ) := by
  have hpos := significand_pos h
  have hquarters : x.quartersBelow ≤ 4 * x.significand :=
    Nat.le_trans x.toScaled.quartersBelow_le (by omega)
  rw [lowerEnd_eq, Scaled.lowerEnd, Nat.cast_mul, Nat.cast_sub hquarters, quartersBelow_eq]
  push_cast
  ring

/-- Away from zero the interval holds nothing that is not covered. -/
theorem covers_of_attracts {x : Magnitude} (hx : x.isZero = false) {n : ℕ} {q : ℚ}
    (hq : q * 10 ^ (1074 : ℤ) = n) (h : x.Attracts q) : x.covers n := by
  have hpos := refinement_pos
  have hn := cast_eq_mul_refinement hq
  have hlower := lowerEnd_exact hx
  have hupper := x.upperEnd_exact
  have hlow := mul_le_mul_of_nonneg_right h.lowerEnd_le hpos.le
  have hhigh := mul_le_mul_of_nonneg_right h.le_upperEnd hpos.le
  unfold covers
  split
  · have hlow' : (x.lowerEnd : ℚ) ≤ 4 * n := by linarith
    have hhigh' : (4 * n : ℚ) ≤ x.upperEnd := by linarith
    exact decide_eq_true ⟨by exact_mod_cast hlow', by exact_mod_cast hhigh'⟩
  · next hodd =>
    have hne : q * unitsPerOne ≠ x.toScaled.lowerEnd := fun hend => hodd (h.even_of_end (.inl hend))
    have hne' : q * unitsPerOne ≠ x.toScaled.upperEnd := fun hend => hodd (h.even_of_end (.inr hend))
    have hlt := mul_lt_mul_of_pos_right (lt_of_le_of_ne h.lowerEnd_le hne.symm) hpos
    have hgt := mul_lt_mul_of_pos_right (lt_of_le_of_ne h.le_upperEnd hne') hpos
    have hlow' : (x.lowerEnd : ℚ) < 4 * n := by linarith
    have hhigh' : (4 * n : ℚ) < x.upperEnd := by linarith
    exact decide_eq_true ⟨by exact_mod_cast hlow', by exact_mod_cast hhigh'⟩

theorem bounds_of_covers {x : Magnitude} {n : ℕ} (h : x.covers n) :
    x.lowerEnd ≤ 4 * n ∧ 4 * n ≤ x.upperEnd := by
  unfold covers at h
  split at h
  · exact of_decide_eq_true h
  · obtain ⟨hlow, hhigh⟩ := of_decide_eq_true h
    exact ⟨hlow.le, hhigh.le⟩

theorem covers_of_between {x : Magnitude} {a b n : ℕ} (ha : x.covers a) (hb : x.covers b)
    (han : a ≤ n) (hnb : n ≤ b) : x.covers n := by
  unfold covers at ha hb ⊢
  split at ha
  · next heven =>
    rw [if_pos heven] at hb ⊢
    simp only [decide_eq_true_eq] at ha hb ⊢
    omega
  · next hodd =>
    rw [if_neg hodd] at hb ⊢
    simp only [decide_eq_true_eq] at ha hb ⊢
    omega

/-! ### The search -/

/-- A magnitude is covered by itself. -/
theorem covers_decimalUnits (x : Magnitude) : x.covers x.decimalUnits := by
  have hunit := two_pow_mul_refinement_pos x.exponent
  have hunits : 4 * x.decimalUnits = 4 * x.significand * (2 ^ x.exponent * refinement) := by
    rw [decimalUnits_eq, units, Scaled.value_eq]
    ring
  have hquarters : 0 < x.quartersBelow := by
    unfold quartersBelow
    split <;> decide
  unfold covers
  rw [hunits, lowerEnd_eq, upperEnd_eq]
  split
  · exact decide_eq_true
      ⟨Nat.mul_le_mul_right _ (Nat.sub_le _ _), Nat.mul_le_mul_right _ (Nat.le_add_right _ _)⟩
  · next hodd =>
    exact decide_eq_true
      ⟨Nat.mul_lt_mul_of_pos_right (by omega) hunit, Nat.mul_lt_mul_of_pos_right (by omega) hunit⟩

/-- What is found at a place is covered. -/
theorem covers_of_atPlace? {x : Magnitude} {place digits : ℕ} (h : x.atPlace? place = some digits) :
    x.covers (digits * 10 ^ place) := by
  unfold atPlace? at h
  dsimp only at h
  split at h
  · next hbelow habove =>
    split at h
    · cases h
      exact hbelow
    · cases h
      exact habove
  · next hbelow _ =>
    cases h
    exact hbelow
  · next _ habove =>
    cases h
    exact habove
  · cases h

/-- The two numbers at a place that a magnitude stands between. -/
theorem decimalUnits_enclosed (x : Magnitude) (place : ℕ) :
    x.decimalUnits / 10 ^ place * 10 ^ place ≤ x.decimalUnits ∧
      x.decimalUnits < (x.decimalUnits / 10 ^ place + 1) * 10 ^ place := by
  have hunit : 0 < 10 ^ place := Nat.pow_pos (by decide)
  refine ⟨Nat.div_mul_le_self _ _, ?_⟩
  rw [Nat.mul_comm]
  exact Nat.lt_mul_div_succ _ hunit

/-- If anything is covered at a place, then so is the one of the two on its side. -/
theorem covers_enclosing {x : Magnitude} {place digits : ℕ} (h : x.covers (digits * 10 ^ place)) :
    (digits ≤ x.decimalUnits / 10 ^ place ∧ x.covers (x.decimalUnits / 10 ^ place * 10 ^ place)) ∨
    (x.decimalUnits / 10 ^ place + 1 ≤ digits ∧
      x.covers ((x.decimalUnits / 10 ^ place + 1) * 10 ^ place)) := by
  have hself := x.covers_decimalUnits
  obtain ⟨hbelow, habove⟩ := x.decimalUnits_enclosed place
  rcases Nat.lt_or_ge (x.decimalUnits / 10 ^ place) digits with hlt | hle
  · right
    exact ⟨hlt, covers_of_between hself h habove.le (Nat.mul_le_mul_right _ hlt)⟩
  · left
    exact ⟨hle, covers_of_between h hself (Nat.mul_le_mul_right _ hle) hbelow⟩

/-- If nothing is found at a place, nothing is covered there. -/
theorem not_covers_of_atPlace? {x : Magnitude} {place : ℕ} (h : x.atPlace? place = none)
    (digits : ℕ) : ¬ x.covers (digits * 10 ^ place) := by
  intro hcovers
  unfold atPlace? at h
  dsimp only at h
  split at h
  · split at h <;> cases h
  · cases h
  · cases h
  · next hbelow habove =>
    rcases covers_enclosing hcovers with ⟨_, hcovered⟩ | ⟨_, hcovered⟩
    · exact absurd hcovered (ne_true_of_eq_false hbelow)
    · exact absurd hcovered (ne_true_of_eq_false habove)

/-- Whether no other number that is covered at a place is nearer: the magnitude is not
    beyond the middle between the two. In the middle the upper one is taken. -/
def IsClosestAt (x : Magnitude) (place digits : ℕ) : Prop :=
  ∀ other, x.covers (other * 10 ^ place) →
    (digits < other → 2 * x.decimalUnits < (digits + other) * 10 ^ place) ∧
    (other < digits → (other + digits) * 10 ^ place ≤ 2 * x.decimalUnits)

/-- The middle of two multiples that are both below. -/
theorem add_mul_le_two_mul {a b unit n : ℕ} (hab : a ≤ b) (hb : b * unit ≤ n) :
    (a + b) * unit ≤ 2 * n := by
  have hmore := Nat.mul_le_mul_right unit hab
  rw [Nat.add_mul]
  omega

/-- The middle of two multiples that are both above. -/
theorem two_mul_lt_add_mul {a b unit n : ℕ} (ha : n < a * unit) (hab : a ≤ b) :
    2 * n < (a + b) * unit := by
  have hmore := Nat.mul_le_mul_right unit hab
  rw [Nat.add_mul]
  omega

/-- What is found at a place is the closest there. -/
theorem isClosestAt_of_atPlace? {x : Magnitude} {place digits : ℕ}
    (h : x.atPlace? place = some digits) : x.IsClosestAt place digits := by
  intro other hother
  have hside := covers_enclosing hother
  obtain ⟨hbelow, habove⟩ := x.decimalUnits_enclosed place
  unfold atPlace? at h
  dsimp only at h
  simp only [Nat.pow_eq] at h
  generalize x.decimalUnits / 10 ^ place = below at *
  split at h
  · split at h
    · next hcloser =>
      obtain rfl := Option.some.inj h
      refine ⟨fun hlt => ?_, fun hlt => add_mul_le_two_mul (Nat.le_of_lt hlt) hbelow⟩
      exact Nat.lt_of_lt_of_le hcloser (Nat.mul_le_mul_right _ (Nat.add_le_add_left hlt below))
    · next hcloser =>
      obtain rfl := Option.some.inj h
      refine ⟨fun hlt => two_mul_lt_add_mul habove (Nat.le_of_lt hlt), fun hlt => ?_⟩
      exact Nat.le_trans (Nat.mul_le_mul_right _ (Nat.add_le_add_right (Nat.le_of_lt_succ hlt) _))
        (Nat.le_of_not_lt hcloser)
  -- if only one of the two is covered, everything that is stands on its side
  · next _ hnotAbove =>
    obtain rfl := Option.some.inj h
    rcases hside with ⟨hle, _⟩ | ⟨_, hcovered⟩
    · exact ⟨fun hlt => absurd hle (Nat.not_le.mpr hlt), fun _ => add_mul_le_two_mul hle hbelow⟩
    · exact absurd hcovered (ne_true_of_eq_false hnotAbove)
  · next hnotBelow _ =>
    obtain rfl := Option.some.inj h
    rcases hside with ⟨_, hcovered⟩ | ⟨hle, _⟩
    · exact absurd hcovered (ne_true_of_eq_false hnotBelow)
    · exact ⟨fun _ => two_mul_lt_add_mul habove hle, fun hlt => absurd hle (Nat.not_le.mpr hlt)⟩
  · cases h

/-- What the search finds from a place on downward: what is covered at the highest place that
    has anything covered, the closest there. -/
structure IsFoundFrom (x : Magnitude) (top digits place : ℕ) : Prop where
  covers : x.covers (digits * 10 ^ place)
  closest : x.IsClosestAt place digits
  highest : ∀ higher, place < higher → higher ≤ top → ∀ other, ¬ x.covers (other * 10 ^ higher)

theorem searchDown_isFoundFrom (x : Magnitude) (top : ℕ) :
    ∃ digits place : ℕ, x.searchDown top = ⟨digits, place - 1074⟩ ∧ x.IsFoundFrom top digits place := by
  induction top with
  | zero =>
    refine ⟨x.decimalUnits, 0, rfl, ?_, ?_, fun _ hlt hle => absurd hlt (Nat.not_lt.mpr hle)⟩
    · rw [pow_zero, mul_one]
      exact x.covers_decimalUnits
    · intro other _
      rw [pow_zero, mul_one, mul_one]
      omega
  | succ top ih =>
    unfold searchDown
    split
    · next digits hfound =>
      exact ⟨digits, top + 1, rfl, covers_of_atPlace? hfound, isClosestAt_of_atPlace? hfound,
        fun _ hlt hle => absurd hlt (Nat.not_lt.mpr hle)⟩
    · next hnone =>
      obtain ⟨digits, place, hfound, hcovers, hclosest, hhighest⟩ := ih
      refine ⟨digits, place, hfound, hcovers, hclosest, ?_⟩
      intro higher hlt hle
      rcases Nat.eq_or_lt_of_le hle with rfl | hless
      · exact not_covers_of_atPlace? hnone
      · exact hhighest higher hlt (Nat.le_of_lt_succ hless)

/-- Above the top place nothing is covered. -/
theorem not_covers_of_topPlace_lt {x : Magnitude} (hx : x.isZero = false) {place : ℕ}
    (h : x.topPlace < place) (digits : ℕ) : ¬ x.covers (digits * 10 ^ place) := by
  have hunit := two_pow_mul_refinement_pos x.exponent
  have hpos := significand_pos hx
  have hquarters := x.toScaled.quartersBelow_le
  rw [← quartersBelow_eq] at hquarters
  have hlower : 0 < x.lowerEnd := by
    rw [lowerEnd_eq]
    exact Nat.mul_pos (by omega) hunit
  have hupper : x.upperEnd ≤ 6 * x.decimalUnits := by
    rw [upperEnd_eq, decimalUnits_eq, units, Scaled.value_eq, Nat.mul_assoc, ← Nat.mul_assoc 6]
    exact Nat.mul_le_mul_right _ (by omega)
  have htop : x.decimalUnits < 10 ^ x.topPlace :=
    Nat.lt_of_lt_of_le Nat.lt_log2_self (two_pow_le_ten_pow (by unfold topPlace; omega))
  have hplace : 10 * 10 ^ x.topPlace ≤ 10 ^ place := by
    rw [← pow_succ']
    exact Nat.pow_le_pow_right (by decide) h
  -- zero is below the interval, and any other multiple of the place is above it
  intro hcovers
  obtain ⟨hlow, hhigh⟩ := bounds_of_covers hcovers
  rcases Nat.eq_zero_or_pos digits with rfl | hdigits
  · omega
  · have hmultiple := Nat.le_mul_of_pos_left (10 ^ place) hdigits
    omega

/-! ### Reading back -/

theorem eq_zero_of_isZero {x : Magnitude} (h : x.isZero) : x = zero := by
  have hsignificand : x.significand = 0 := by simpa [isZero] using h
  have hexponent : x.exponent = 0 := by
    rcases x.full with hfull | hexponent
    · rw [hsignificand] at hfull
      exact absurd hfull (by decide)
    · exact hexponent
  obtain ⟨⟨s, e, _, _⟩, _⟩ := x
  obtain rfl : s = 0 := hsignificand
  obtain rfl : e = 0 := hexponent
  rfl

/-- The shortest decimal of a magnitude lies in its interval. -/
theorem shortest_attracts (x : Magnitude) : x.Attracts x.shortest.toRat := by
  unfold shortest
  split
  · next hzero =>
    rw [eq_zero_of_isZero hzero]
    have hvalue : Decimal.toRat ⟨0, 0⟩ = 0 := by simp [Decimal.toRat]
    rw [hvalue]
    exact zero_attracts_zero
  · obtain ⟨digits, place, hfound, hcovers, _⟩ := x.searchDown_isFoundFrom x.topPlace
    rw [hfound]
    exact attracts_of_covers (toRat_place digits place) hcovers

/-- Only zero has no digits. -/
theorem shortest_digits_ne_zero {x : Magnitude} (h : x.isZero = false) : x.shortest.digits ≠ 0 := by
  intro hdigits
  have hx := x.shortest_attracts
  have hvalue : x.shortest.toRat = 0 := by simp [Decimal.toRat, hdigits]
  rw [hvalue] at hx
  have hzero : x = zero := hx.unique zero_attracts_zero
  rw [hzero] at h
  exact absurd h (by decide)

/-- Every decimal of the same value as the shortest one is read back to the magnitude. -/
theorem magnitude?_of_toRat_eq_shortest {x : Magnitude} {d : Decimal}
    (h : d.toRat = x.shortest.toRat) : d.magnitude? = some x := by
  rw [Decimal.magnitude?_eq_some_iff, h]
  exact x.shortest_attracts

end Magnitude

end SearchQuery
