import SearchQuery.Proofs.Binary64.Shortest
import SearchQuery.Proofs.Json.Image
import SearchQuery.Proofs.Text.NumberToken

/-! # Texts of numbers

  The text of a number is a number token. An integer is written as its digits, so an
  integer of a JSON document comes through digit for digit. The token of a finite double
  has the value of its shortest decimal, in either notation, so it is read back to the same
  double.
-/

namespace SearchQuery

/-! ### Integers -/

namespace NumberToken

/-- The token of an integer. -/
def ofInt (n : Int) : NumberToken where
  negative := decide (n < 0)
  whole := .ofNat n.natAbs
  whole_minimal := DigitRun.isMinimal_ofNat n.natAbs
  fraction := none
  power := none

theorem text_ofInt (n : Int) : (ofInt n).text = integerText n := by
  simp [text, ofInt, withSign, integerText, fractionText, powerText]

theorem toInt_ofInt (n : Int) : (ofInt n).numeral.toInt = n := by
  simp only [numeral, ofInt, Numeral.toInt, DigitRun.chars_ofNat, digitsValue_decimalDigits,
    decide_eq_true_eq]
  split <;> omega

end NumberToken

@[simp]
theorem integerText_natCast (n : ℕ) : integerText n = decimalDigits n := by
  rw [integerText, if_neg (by omega), Int.natAbs_natCast]

/-- Integers with the same text are the same. -/
theorem integerText_injective {m n : Int} (h : integerText m = integerText n) : m = n := by
  have hnumeral : (NumberToken.ofInt m).numeral = (NumberToken.ofInt n).numeral := by
    apply Option.some.inj
    rw [← NumberToken.ofString?_text, ← NumberToken.ofString?_text, NumberToken.text_ofInt,
      NumberToken.text_ofInt, h]
  rw [← NumberToken.toInt_ofInt m, hnumeral, NumberToken.toInt_ofInt]

theorem integerText_neg_natCast {n : ℕ} (h : n ≠ 0) : integerText (-n) = '-' :: decimalDigits n := by
  rw [integerText, if_pos (by omega), Int.natAbs_neg, Int.natAbs_natCast]

/-- A token that is written as an integer is the text of this integer, unless it is zero
    with a sign. -/
theorem NumberToken.IsInteger.integerText_eq {t : NumberToken} (h : t.IsInteger)
    (hzero : t.text ≠ ['-', '0']) : integerText t.numeral.toInt = t.text := by
  have hdigits := t.whole_minimal.decimalDigits_digitsValue
  have htext : t.text = withSign t.negative t.whole.chars := by
    simp [text, h.1, h.2, fractionText, powerText]
  have hint : t.numeral.toInt =
      if t.negative then -(digitsValue t.whole.chars : Int) else digitsValue t.whole.chars := rfl
  rw [htext] at hzero ⊢
  rw [hint]
  cases hsign : t.negative with
  | true =>
    have hne : digitsValue t.whole.chars ≠ 0 := by
      intro hvalue
      rw [hvalue] at hdigits
      rw [hsign, ← hdigits] at hzero
      exact hzero rfl
    rw [if_pos rfl, integerText_neg_natCast hne, hdigits]
    rfl
  | false =>
    rw [if_neg Bool.false_ne_true, integerText_natCast, hdigits]
    rfl

theorem integerText_eq_toString (n : Int) : String.ofList (integerText n) = toString n := by
  rw [Int.toString_eq_repr, Int.repr_eq_if, ← String.toList_inj, String.toList_ofList]
  by_cases hneg : n < 0
  · have habs : n.natAbs = (-n).toNat := by omega
    rw [integerText, if_pos hneg, if_neg (Int.not_le.mpr hneg), String.toList_append, Nat.toList_repr,
      habs]
    rfl
  · have habs : n.natAbs = n.toNat := by omega
    rw [integerText, if_neg hneg, if_pos (Int.not_lt.mp hneg), Nat.toList_repr, habs]
    rfl

/-- An integer of JSON is written as its digits. -/
theorem JsonNumber.Denotes.text_eq {n : Int} {fits : -Int.pow 2 63 ≤ n ∧ n < Int.pow 2 64}
    {m : Number} (h : (JsonNumber.integer n fits).Denotes m) :
    m.text = String.ofList (integerText n) := by
  cases h with
  | signed m fits => rfl
  | unsigned m fits hmax =>
    rw [integerText_natCast]
    rfl

/-! ### Layouts of a decimal -/

/-- Whether a text is a number token with this sign and this value of its digits. -/
def Spells (text : List Char) (negative : Bool) (q : ℚ) : Prop :=
  ∃ t : NumberToken, t.text = text ∧ t.negative = negative ∧ t.numeral.magnitude.toRat = q

/-- A run of digits with a point among them. -/
theorem spells_point (negative : Bool) (run : DigitRun) {k : ℕ} (hk : 0 < k)
    (hlt : k < run.chars.length) (hminimal : (run.take k hk).IsMinimal) (power : Option PowerPart) :
    Spells (withSign negative (run.chars.take k ++ '.' :: run.chars.drop k ++
        NumberToken.powerText power)) negative
      (Decimal.toRat ⟨digitsValue run.chars,
        (power.map PowerPart.value).getD 0 - (run.chars.length - k : ℕ)⟩) := by
  refine ⟨⟨negative, run.take k hk, hminimal, some (run.drop k hlt), power⟩, ?_, rfl, ?_⟩
  · simp [NumberToken.text, NumberToken.fractionText, DigitRun.take, DigitRun.drop]
  · simp [NumberToken.numeral, Numeral.magnitude, DigitRun.take, DigitRun.drop]

namespace Decimal

theorem plain_pointed {n p k : ℕ} (hlength : (decimalDigits n).length = k + (p + 1)) (hk : 0 < k) :
    plain ⟨n, .negSucc p⟩ = (decimalDigits n).take k ++ '.' :: (decimalDigits n).drop k := by
  have hlt : p + 1 < (decimalDigits n).length := by omega
  simp only [plain, if_pos hlt]
  rw [hlength, Nat.add_sub_cancel]

theorem plain_padded {n p : ℕ} (hle : (decimalDigits n).length ≤ p + 1) :
    plain ⟨n, .negSucc p⟩ = '0' :: '.' ::
      (DigitRun.padStart (p + 1 - (decimalDigits n).length) (.ofNat n)).chars := by
  have hlt : ¬ p + 1 < (decimalDigits n).length := by omega
  simp only [plain, if_neg hlt]
  rfl

theorem mantissa_of_length_eq_one {digits : List Char} (h : digits.length = 1) :
    mantissa digits = digits := by
  obtain ⟨c, rfl⟩ := List.length_eq_one_iff.mp h
  rfl

theorem mantissa_of_one_lt_length {digits : List Char} (h : 1 < digits.length) :
    mantissa digits = digits.take 1 ++ '.' :: digits.drop 1 := by
  match digits, h with
  | first :: second :: rest, _ => rfl

theorem scientific_eq (d : Decimal) :
    d.scientific ['+'] = mantissa (decimalDigits d.digits) ++ (PowerPart.ofInt d.leadingPower).text := by
  rw [PowerPart.text_ofInt, scientific, List.append_assoc]

theorem toRat_padEnd (n zeros : ℕ) : toRat ⟨10 ^ zeros * n, 0⟩ = toRat ⟨n, zeros⟩ := by
  unfold toRat
  rw [zpow_zero, mul_one, zpow_natCast, mul_comm, Nat.cast_mul, Nat.cast_pow, Nat.cast_ofNat]

/-- The plain layout has the value of the decimal. -/
theorem plain_spells (negative : Bool) {d : Decimal} (h : d.digits ≠ 0 ∨ d.exponent = 0) :
    Spells (withSign negative d.plain) negative d.toRat := by
  obtain ⟨n, e⟩ := d
  cases e with
  | ofNat zeros =>
    have hminimal := DigitRun.isMinimal_padEnd_ofNat (h.imp_right Int.ofNat.inj)
    refine ⟨⟨negative, _, hminimal, none, none⟩, ?_, rfl, ?_⟩
    · simp [NumberToken.text, NumberToken.fractionText, NumberToken.powerText, DigitRun.padEnd, plain]
    · rw [Int.ofNat_eq_natCast, ← toRat_padEnd]
      simp [NumberToken.numeral, Numeral.magnitude, DigitRun.padEnd, digitsValue_append]
  | negSucc p =>
    have hn : n ≠ 0 := h.resolve_right (Int.negSucc_ne_zero p)
    rcases Nat.lt_or_ge (p + 1) (decimalDigits n).length with hlt | hle
    · -- the point stands among the digits
      obtain ⟨k, hlength, hk⟩ : ∃ k, (decimalDigits n).length = k + (p + 1) ∧ 0 < k :=
        ⟨(decimalDigits n).length - (p + 1), by omega, by omega⟩
      have hpoint := spells_point negative (DigitRun.ofNat n) hk (by simp [hlength])
        (DigitRun.isMinimal_take_ofNat hn hk) none
      have hexponent : Int.negSucc p = 0 - ((decimalDigits n).length - k : ℕ) := by omega
      rw [plain_pointed hlength hk, hexponent]
      simpa [NumberToken.powerText] using hpoint
    · -- the point stands in front of the digits
      refine ⟨⟨negative, .ofNat 0, DigitRun.isMinimal_ofNat 0,
        some (.padStart (p + 1 - (decimalDigits n).length) (.ofNat n)), none⟩, ?_, rfl, ?_⟩
      · rw [plain_padded hle]
        simp [NumberToken.text, NumberToken.fractionText, NumberToken.powerText]
      · have hlength : p + 1 - (decimalDigits n).length + (decimalDigits n).length = p + 1 :=
          Nat.sub_add_cancel hle
        have hexponent : Int.negSucc p = 0 - (p + 1 : ℕ) := by omega
        simp [NumberToken.numeral, Numeral.magnitude, hlength, hexponent]

/-- The scientific layout has the value of the decimal. -/
theorem scientific_spells (negative : Bool) (d : Decimal) :
    Spells (withSign negative (d.scientific ['+'])) negative d.toRat := by
  obtain ⟨n, e⟩ := d
  have hpos : 0 < (decimalDigits n).length := List.length_pos_of_ne_nil Nat.toDigits_ne_nil
  have hpower : leadingPower ⟨n, e⟩ = e + (decimalDigits n).length - 1 := rfl
  rw [scientific_eq]
  rcases Nat.eq_or_lt_of_le hpos with hone | hmore
  · rw [mantissa_of_length_eq_one hone.symm]
    refine ⟨⟨negative, .ofNat n, DigitRun.isMinimal_ofNat n, none,
      some (.ofInt (leadingPower ⟨n, e⟩))⟩, rfl, rfl, ?_⟩
    have hexponent : leadingPower ⟨n, e⟩ = e := by omega
    simp [NumberToken.numeral, Numeral.magnitude, PowerPart.value_ofInt, hexponent]
  · have hn : n ≠ 0 := by
      rintro rfl
      exact absurd hmore (by decide)
    have hpoint := spells_point negative (DigitRun.ofNat n) Nat.one_pos hmore
      (DigitRun.isMinimal_take_ofNat hn Nat.one_pos) (some (.ofInt (leadingPower ⟨n, e⟩)))
    have hexponent : leadingPower ⟨n, e⟩ - ((decimalDigits n).length - 1 : ℕ) = e := by omega
    rw [mantissa_of_one_lt_length hmore]
    simpa [NumberToken.powerText, PowerPart.value_ofInt, hexponent] using hpoint

end Decimal

/-! ### Doubles -/

theorem Magnitude.text_spells (negative : Bool) (x : Magnitude) :
    Spells (withSign negative x.text) negative x.shortest.toRat := by
  unfold text
  split
  · apply Decimal.plain_spells
    cases hzero : x.isZero with
    | true =>
      right
      rw [shortest, if_pos hzero]
    | false => exact .inl (shortest_digits_ne_zero hzero)
  · exact Decimal.scientific_spells negative x.shortest

namespace Double

theorem text_spells (negative : Bool) (x : Magnitude) :
    ∃ t : NumberToken, (finite negative x).text = String.ofList t.text ∧
      t.negative = (negative && !x.isZero) ∧ t.numeral.magnitude.toRat = x.shortest.toRat := by
  obtain ⟨t, htext, hnegative, hvalue⟩ := x.text_spells (negative && !x.isZero)
  refine ⟨t, ?_, hnegative, hvalue⟩
  rw [htext]
  rfl

/-- The text of a finite double is a token whose value rounds to the double. -/
theorem text_reads_back (negative : Bool) (x : Magnitude) :
    ∃ t : NumberToken, (finite negative x).text = String.ofList t.text ∧
      x.IsNearest t.numeral.magnitude.toRat ∧
      ofNumeral t.numeral = finite (negative && !x.isZero) x := by
  obtain ⟨t, htext, hnegative, hvalue⟩ := text_spells negative x
  refine ⟨t, htext, ?_, ?_⟩
  · rw [hvalue]
    exact x.shortest_attracts.isNearest
  · have hnumeral : t.numeral.negative = (negative && !x.isZero) := hnegative
    rw [ofNumeral, Magnitude.magnitude?_of_toRat_eq_shortest hvalue, hnumeral]
    rfl

/-- The text of a finite double determines it, up to the sign of zero. -/
theorem beq_of_text_eq {negative negative' : Bool} {x x' : Magnitude}
    (h : (finite negative x).text = (finite negative' x').text) :
    finite negative x == finite negative' x' := by
  obtain ⟨t, htext, _, hread⟩ := text_reads_back negative x
  obtain ⟨t', htext', _, hread'⟩ := text_reads_back negative' x'
  have hnumeral : t.numeral = t'.numeral := by
    apply Option.some.inj
    rw [← t.ofString?_text, ← t'.ofString?_text, ← htext, ← htext', h]
  rw [hnumeral, hread'] at hread
  obtain ⟨hsign, rfl⟩ := Double.finite.inj hread
  show Double.beq _ _ = true
  unfold Double.beq
  cases hzero : x'.isZero with
  | true => simp [hzero]
  | false =>
    rw [hzero, Bool.not_false, Bool.and_true, Bool.and_true] at hsign
    simp [hsign]

theorem beq_of_isFinite {x y : Double} (hx : x.isFinite) (hy : y.isFinite)
    (h : x.text = y.text) : (x == y) = true := by
  cases x with
  | finite negative x =>
    cases y with
    | finite negative' y => exact beq_of_text_eq h
    | nan => cases hy
    | infinite _ => cases hy
  | nan => cases hx
  | infinite _ => cases hx

end Double

namespace Number

/-- Whether a number is an integer or a finite double. -/
def IsFinite : Number → Prop
  | double x => x.isFinite
  | _ => True

theorem text_signed (n : Int64) : (signed n).text = toString n.toInt :=
  integerText_eq_toString n.toInt

theorem text_unsigned (n : UInt64) : (unsigned n).text = toString n.toNat :=
  Nat.toString_eq_ofList_toDigits.symm

theorem IsFinite.exists_token {n : Number} (h : n.IsFinite) :
    ∃ t : NumberToken, n.text = String.ofList t.text := by
  cases n with
  | signed n => exact ⟨.ofInt n.toInt, by rw [NumberToken.text_ofInt]; rfl⟩
  | unsigned n => exact ⟨.ofInt n.toNat, by rw [NumberToken.text_ofInt]; rfl⟩
  | double x =>
    cases x with
    | finite negative x =>
      obtain ⟨t, htext, _⟩ := Double.text_spells negative x
      exact ⟨t, htext⟩
    | nan => cases h
    | infinite negative => cases h

/-- An integer token of a document comes through as it is. -/
theorem text_of_integer_token {t : NumberToken} (reading : NumeralReading) (h : t.IsInteger)
    (hzero : t.text ≠ ['-', '0'])
    (fits : -Int.pow 2 63 ≤ t.numeral.toInt ∧ t.numeral.toInt < Int.pow 2 64) :
    ∃ j m, Json.ofString? reading (String.ofList t.text) = some j ∧
      Value.ofJson j = .ok (.number m) ∧ m.text = String.ofList t.text := by
  have hparsed : JsonNumber.ofNumeral? reading t.numeral =
      some (.integer t.numeral.toInt fits) := by
    have hinteger : t.numeral.isInteger := by
      simp [Numeral.isInteger, NumberToken.numeral, h.1, h.2]
    have hsign : ¬ (t.numeral.negative ∧ t.numeral.toInt = 0) := by
      rintro ⟨hnegative, hint⟩
      have htext := h.integerText_eq hzero
      have hminus : t.negative = true := hnegative
      rw [hint, NumberToken.text, hminus] at htext
      exact absurd (List.cons.inj htext).1 (by decide)
    exact dif_pos ⟨hinteger, hsign, fits⟩
  have hdenotes := denotes_ofJson (.integer t.numeral.toInt fits)
  refine ⟨.number (.integer t.numeral.toInt fits), _, ?_, rfl, ?_⟩
  · rw [t.ofString?_document, hparsed]
    rfl
  · rw [hdenotes.text_eq, h.integerText_eq hzero]

/-- The text of a number is faithful to it. -/
theorem text_faithful :
    -- integers and finite doubles are written as number tokens
    (∀ n : Number, n.IsFinite → ∃ t : NumberToken, n.text = String.ofList t.text) ∧
    -- the token of an integer is the decimal integer
    (∀ n : Int64, (signed n).text = toString n.toInt) ∧
    (∀ n : UInt64, (unsigned n).text = toString n.toNat) ∧
    -- so an integer token of a document, other than minus zero, comes through as it is
    (∀ (reading : NumeralReading) (t : NumberToken), t.IsInteger → t.text ≠ ['-', '0'] →
      -Int.pow 2 63 ≤ t.numeral.toInt ∧ t.numeral.toInt < Int.pow 2 64 →
      ∃ j m, Json.ofString? reading (String.ofList t.text) = some j ∧
        Value.ofJson j = .ok (.number m) ∧ m.text = String.ofList t.text) ∧
    -- the value of the token of a finite double rounds to it, to nearest and to even; zero
    -- loses its sign
    (∀ (negative : Bool) (x : Magnitude), ∃ t : NumberToken,
      (double (.finite negative x)).text = String.ofList t.text ∧
      x.IsNearest t.numeral.magnitude.toRat ∧
      Numeral.ofString? (String.ofList t.text) = some t.numeral ∧
      Double.ofNumeral t.numeral = .finite (negative && !x.isZero) x) ∧
    -- so finite doubles with the same text are equal
    (∀ x y : Double, x.isFinite → y.isFinite → (double x).text = (double y).text → x == y) := by
  refine ⟨fun _ h => h.exists_token, text_signed, text_unsigned, ?_, ?_, ?_⟩
  · intro reading t h hzero fits
    exact text_of_integer_token reading h hzero fits
  · intro negative x
    obtain ⟨t, htext, hnearest, hread⟩ := Double.text_reads_back negative x
    exact ⟨t, htext, hnearest, t.ofString?_text, hread⟩
  · intro x y hx hy h
    exact Double.beq_of_isFinite hx hy h

/-- The greatest integer of a document, which no double holds, comes through. -/
theorem text_faithful_greatest :
    ∃ j m, Json.ofString? .quick "18446744073709551615" = some j ∧
      Value.ofJson j = .ok (.number m) ∧ m.text = "18446744073709551615" := by
  have htext : String.ofList (NumberToken.ofInt 18446744073709551615).text =
      "18446744073709551615" := by decide +kernel
  obtain ⟨_, _, _, hthrough, _⟩ := text_faithful
  have hgreatest := hthrough .quick (.ofInt 18446744073709551615) ⟨rfl, rfl⟩ (by decide +kernel)
    (by decide +kernel)
  rw [htext] at hgreatest
  exact hgreatest

end Number

end SearchQuery
