import SearchQuery.Proofs.Text.DigitRun

/-! # Numbers of fixed width

  A number below `10 ^ count` is written with exactly `count` digits by putting zeros in
  front. Such a run and its value determine each other.
-/

namespace SearchQuery

/-- The last digits of a number, so many as are asked for. -/
def fixedDigits : Nat → Nat → List Char
  | 0, _ => []
  | count + 1, n => fixedDigits count (n / 10) ++ [Nat.digitChar (n % 10)]

@[simp]
theorem length_fixedDigits (count n : Nat) : (fixedDigits count n).length = count := by
  induction count generalizing n with
  | zero => rfl
  | succ count ih => rw [fixedDigits, List.length_append, ih, List.length_singleton]

theorem isDigit_of_mem_fixedDigits {count n : Nat} {c : Char} (h : c ∈ fixedDigits count n) :
    c.isDigit := by
  induction count generalizing n with
  | zero => cases h
  | succ count ih =>
    rcases List.mem_append.mp h with hmem | hmem
    · exact ih hmem
    · rw [List.mem_singleton.mp hmem]
      have hdigit : ∀ k, k < 10 → (Nat.digitChar k).isDigit := by decide
      exact hdigit _ (Nat.mod_lt n (by decide))

theorem digitsValue_fixedDigits {count n : Nat} (h : n < 10 ^ count) :
    digitsValue (fixedDigits count n) = n := by
  induction count generalizing n with
  | zero =>
    have hzero : n = 0 := by omega
    rw [hzero]
    rfl
  | succ count ih =>
    have hinit : n / 10 < 10 ^ count := by
      rw [Nat.pow_succ] at h
      exact Nat.div_lt_of_lt_mul (Nat.mul_comm _ _ ▸ h)
    rw [fixedDigits, digitsValue_append_digitChar _ (Nat.mod_lt n (by decide)), ih hinit]
    exact Nat.div_add_mod n 10

theorem digitsValue_lt {digits : List Char} (h : ∀ c ∈ digits, c.isDigit) :
    digitsValue digits < 10 ^ digits.length := by
  induction digits using List.reverseRecOn with
  | nil => exact Nat.one_pos
  | append_singleton init c ih =>
    obtain ⟨k, hk, rfl⟩ := exists_digitChar (h c (by simp))
    have hinit := ih fun c hc => h c (by simp [hc])
    rw [digitsValue_append_digitChar init hk, List.length_append, List.length_singleton, Nat.pow_succ]
    omega

/-- A run of digits is its value, written with as many digits as it has. -/
theorem fixedDigits_digitsValue {digits : List Char} (h : ∀ c ∈ digits, c.isDigit) :
    fixedDigits digits.length (digitsValue digits) = digits := by
  induction digits using List.reverseRecOn with
  | nil => rfl
  | append_singleton init c ih =>
    obtain ⟨k, hk, rfl⟩ := exists_digitChar (h c (by simp))
    have hinit := ih fun c hc => h c (by simp [hc])
    have hdiv : (10 * digitsValue init + k) / 10 = digitsValue init := by omega
    have hmod : (10 * digitsValue init + k) % 10 = k := by omega
    rw [digitsValue_append_digitChar init hk, List.length_append, List.length_singleton, fixedDigits,
      hdiv, hmod, hinit]

end SearchQuery
