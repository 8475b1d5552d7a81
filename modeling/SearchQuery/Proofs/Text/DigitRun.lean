import Mathlib.Algebra.Group.Nat.Defs
import Mathlib.Data.List.Basic
import Mathlib.Data.List.Induction
import SearchQuery.Decimal

/-! # Runs of digits

  A natural number and its run of decimal digits without a leading zero determine each
  other.
-/

namespace SearchQuery

/-- A run of decimal digits that is not empty. -/
structure DigitRun where
  chars : List Char
  ne_nil : chars ≠ []
  isDigit : ∀ c ∈ chars, c.isDigit

/-- A run that has no zero in front which could be left out. -/
def DigitRun.IsMinimal (run : DigitRun) : Prop := run.chars.head? = some '0' → run.chars = ['0']

/-- A digit is the character of its value. -/
theorem exists_digitChar {c : Char} (h : c.isDigit) : ∃ k < 10, c = Nat.digitChar k := by
  obtain ⟨hlow, hhigh⟩ := Char.isDigit_iff_toNat.mp h
  have hzero : '0'.toNat = 48 := rfl
  have hnine : '9'.toNat = 57 := rfl
  refine ⟨c.toNat - 48, by omega, ?_⟩
  rw [← Char.toNat_inj, Nat.toNat_digitChar_of_lt_ten (by omega)]
  omega

/-- A run of digits starts with one. -/
theorem DigitRun.exists_cons (run : DigitRun) :
    ∃ c cs, run.chars = c :: cs ∧ c.isDigit := by
  obtain ⟨c, cs, hchars⟩ := List.exists_cons_of_ne_nil run.ne_nil
  exact ⟨c, cs, hchars, run.isDigit c (by simp [hchars])⟩

/-- A text that starts with a run of digits starts with no other character. -/
theorem DigitRun.append_ne_cons (run : DigitRun) {c : Char} (hc : c.isDigit = false)
    (rest rest' : List Char) : run.chars ++ rest ≠ c :: rest' := by
  obtain ⟨d, ds, hchars, hd⟩ := run.exists_cons
  intro heq
  rw [hchars] at heq
  obtain rfl := (List.cons.inj heq).1
  rw [hc] at hd
  cases hd

theorem digitsValue_append (digits more : List Char) :
    digitsValue (digits ++ more) = 10 ^ more.length * digitsValue digits + digitsValue more := by
  unfold digitsValue
  rw [Nat.ofDigitChars_append, Nat.ofDigitChars_eq_ofDigitChars_zero]

@[simp]
theorem digitsValue_zero_cons (digits : List Char) :
    digitsValue ('0' :: digits) = digitsValue digits := rfl

@[simp]
theorem digitsValue_replicate_zero (n : Nat) : digitsValue (List.replicate n '0') = 0 := by
  simp [digitsValue]

@[simp]
theorem decimalDigits_zero : decimalDigits 0 = ['0'] := rfl

@[simp]
theorem digitsValue_decimalDigits (n : Nat) : digitsValue (decimalDigits n) = n :=
  Nat.ofDigitChars_ten_toDigits

/-- The digits of a number. -/
def DigitRun.ofNat (n : Nat) : DigitRun where
  chars := decimalDigits n
  ne_nil := Nat.toDigits_ne_nil
  isDigit := fun _ hc => Nat.isDigit_of_mem_toDigits (by decide) (by decide) hc

@[simp]
theorem DigitRun.chars_ofNat (n : Nat) : (DigitRun.ofNat n).chars = decimalDigits n := rfl

theorem decimalDigits_of_lt {n : Nat} (h : n < 10) : decimalDigits n = [n.digitChar] :=
  Nat.toDigits_of_lt_base h

theorem decimalDigits_mul_ten_add {n k : Nat} (hn : 0 < n) (hk : k < 10) :
    decimalDigits (10 * n + k) = decimalDigits n ++ [k.digitChar] := by
  have happend := Nat.toDigits_append_toDigits (by decide : 1 < 10) hn hk
  rw [Nat.toDigits_of_lt_base hk] at happend
  exact happend.symm

theorem head?_decimalDigits {n : Nat} (h : n ≠ 0) : (decimalDigits n).head? ≠ some '0' := by
  induction n using Nat.strongRecOn with
  | _ n ih =>
    rcases Nat.lt_or_ge n 10 with hlt | hge
    · rw [decimalDigits_of_lt hlt]
      simpa using h
    · have hsplit : n = 10 * (n / 10) + n % 10 := by omega
      have hne : decimalDigits (n / 10) ≠ [] := Nat.toDigits_ne_nil
      rw [hsplit, decimalDigits_mul_ten_add (by omega) (by omega), List.head?_append_of_ne_nil _ hne]
      exact ih (n / 10) (by omega) (by omega)

theorem DigitRun.isMinimal_ofNat (n : Nat) : (DigitRun.ofNat n).IsMinimal := by
  intro hhead
  rcases Nat.eq_zero_or_pos n with rfl | hpos
  · rfl
  · exact absurd hhead (head?_decimalDigits (Nat.ne_of_gt hpos))

theorem digitsValue_append_digitChar (init : List Char) {k : Nat} (hk : k < 10) :
    digitsValue (init ++ [k.digitChar]) = 10 * digitsValue init + k := by
  have hlast : digitsValue [k.digitChar] = k := by
    rw [← decimalDigits_of_lt hk, digitsValue_decimalDigits]
  rw [digitsValue_append, hlast, List.length_singleton, Nat.pow_one]

/-- Without its last digit a run has no leading zero either, unless nothing is left. -/
theorem head?_of_append_singleton {init : List Char} {c : Char} (hne : init ≠ [])
    (h : (init ++ [c]).head? = some '0' → init ++ [c] = ['0']) : init.head? ≠ some '0' := by
  intro hzero
  rw [List.head?_append_of_ne_nil _ hne] at h
  have hlength := congrArg List.length (h hzero)
  rw [List.length_append] at hlength
  exact hne (List.eq_nil_of_length_eq_zero (by simpa using hlength))

/-- A run without a leading zero is the digits of its value. -/
theorem DigitRun.IsMinimal.decimalDigits_digitsValue {run : DigitRun} (h : run.IsMinimal) :
    decimalDigits (digitsValue run.chars) = run.chars := by
  obtain ⟨digits, hne, hdigits⟩ := run
  change digits.head? = some '0' → digits = ['0'] at h
  change decimalDigits (digitsValue digits) = digits
  -- the recursion of the digits is at the end of the run
  induction digits using List.reverseRecOn with
  | nil => exact absurd rfl hne
  | append_singleton init c ih =>
    obtain ⟨k, hk, rfl⟩ := exists_digitChar (hdigits c (by simp))
    rw [digitsValue_append_digitChar init hk]
    by_cases hinit : init = []
    · rw [hinit]
      simpa [digitsValue] using decimalDigits_of_lt hk
    · have hhead := head?_of_append_singleton hinit h
      have hdigits' := ih hinit (fun c hc => hdigits c (by simp [hc])) (absurd · hhead)
      have hpos : 0 < digitsValue init := by
        refine Nat.pos_of_ne_zero ?_
        intro hzero
        rw [hzero] at hdigits'
        rw [← hdigits'] at hhead
        exact hhead rfl
      rw [decimalDigits_mul_ten_add hpos hk, hdigits']

/-! ### Parts and padding -/

namespace DigitRun

/-- The first digits of a run. -/
def take (run : DigitRun) (k : Nat) (hk : 0 < k) : DigitRun where
  chars := run.chars.take k
  ne_nil := by simp [run.ne_nil, Nat.ne_of_gt hk]
  isDigit := fun c hc => run.isDigit c (List.mem_of_mem_take hc)

/-- The other digits of a run. -/
def drop (run : DigitRun) (k : Nat) (hk : k < run.chars.length) : DigitRun where
  chars := run.chars.drop k
  ne_nil := by simpa using hk
  isDigit := fun c hc => run.isDigit c (List.mem_of_mem_drop hc)

theorem isDigit_of_mem_replicate {n : Nat} {c : Char} (hc : c ∈ List.replicate n '0') :
    c.isDigit := by
  rw [List.eq_of_mem_replicate hc]
  rfl

/-- A run with zeros behind it. -/
def padEnd (run : DigitRun) (zeros : Nat) : DigitRun where
  chars := run.chars ++ List.replicate zeros '0'
  ne_nil := by simp [run.ne_nil]
  isDigit := by
    intro c hc
    rcases List.mem_append.mp hc with hc | hc
    · exact run.isDigit c hc
    · exact isDigit_of_mem_replicate hc

/-- A run with zeros in front of it. -/
def padStart (zeros : Nat) (run : DigitRun) : DigitRun where
  chars := List.replicate zeros '0' ++ run.chars
  ne_nil := by simp [run.ne_nil]
  isDigit := by
    intro c hc
    rcases List.mem_append.mp hc with hc | hc
    · exact isDigit_of_mem_replicate hc
    · exact run.isDigit c hc

@[simp]
theorem length_padStart (zeros : Nat) (run : DigitRun) :
    (padStart zeros run).chars.length = zeros + run.chars.length := by
  simp [padStart]

@[simp]
theorem digitsValue_padStart (zeros : Nat) (run : DigitRun) :
    digitsValue (padStart zeros run).chars = digitsValue run.chars := by
  simp [padStart, digitsValue_append]

theorem IsMinimal.of_head?_ne {run : DigitRun} (h : run.chars.head? ≠ some '0') : run.IsMinimal :=
  fun hzero => absurd hzero h

/-- The leading digits of a number that is not zero. -/
theorem isMinimal_take_ofNat {n k : Nat} (hn : n ≠ 0) (hk : 0 < k) :
    ((ofNat n).take k hk).IsMinimal := by
  apply IsMinimal.of_head?_ne
  simpa [take, List.head?_take, Nat.ne_of_gt hk] using head?_decimalDigits hn

/-- A number with zeros behind it, unless they stand behind a zero. -/
theorem isMinimal_padEnd_ofNat {n zeros : Nat} (h : n ≠ 0 ∨ zeros = 0) :
    ((ofNat n).padEnd zeros).IsMinimal := by
  by_cases hn : n = 0
  · obtain rfl := h.resolve_left (absurd hn)
    simpa [IsMinimal, padEnd] using isMinimal_ofNat n
  · apply IsMinimal.of_head?_ne
    have hne : decimalDigits n ≠ [] := Nat.toDigits_ne_nil
    simpa [padEnd, List.head?_append_of_ne_nil _ hne] using head?_decimalDigits hn

end DigitRun

end SearchQuery
