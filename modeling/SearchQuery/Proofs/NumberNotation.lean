import SearchQuery.Proofs.Binary64.Ties
import SearchQuery.Proofs.NumberText

/-! # Numbers beside those that JavaScript prints

  JavaScript lays out the shortest digits of a number by the place of its point. There are
  zeros up to the point, a point among the digits, or zeros behind the point, as long as the
  point is not too far away; otherwise there is a power of ten with its sign. Where two
  decimals are the shortest and equally near, JavaScript takes the even one.

  The text of a finite double is laid out in the same way. Which layout to use is decided by
  comparing the double with those nearest to `10 ^ -6` and `10 ^ 21`. This agrees with the
  place of the point, also next to these two.

  But where two decimals are equally near, the text has the digits of the upper one. So it is
  what JavaScript prints if the upper one is even, and differs from it in the last digit if the
  upper one is odd: `2 ^ 50 + 1 / 4` is written `1125899906842624.3`, and JavaScript prints
  `1125899906842624.2`.
-/

namespace SearchQuery

/-! ### Layouts -/

namespace SignificantDigits

/-- The power of ten behind digits in exponent form. -/
def powerText (d : SignificantDigits) : List Char :=
  'e' :: (if d.point - 1 < 0 then '-' else '+') :: decimalDigits (d.point - 1).natAbs

/-- The digits as JavaScript lays them out. -/
def text (d : SignificantDigits) : List Char :=
  let digits := decimalDigits d.digits
  if d.count ≤ d.point ∧ d.point ≤ 21 then
    digits ++ List.replicate (d.point - d.count).toNat '0'
  else if 0 < d.point ∧ d.point ≤ 21 then
    digits.take d.point.toNat ++ '.' :: digits.drop d.point.toNat
  else if -6 < d.point ∧ d.point ≤ 0 then
    '0' :: '.' :: List.replicate (-d.point).toNat '0' ++ digits
  else if d.count = 1 then
    digits ++ d.powerText
  else
    digits.take 1 ++ '.' :: digits.drop 1 ++ d.powerText

/-- Near enough to the point the digits of a decimal are laid out plainly. -/
theorem text_ofDecimal_plain {d : Decimal} (h : d.digits ≠ 0) (hlow : -6 < (ofDecimal d h).point)
    (hhigh : (ofDecimal d h).point ≤ 21) : (ofDecimal d h).text = d.plain := by
  obtain ⟨n, e⟩ := d
  have hcount : (ofDecimal ⟨n, e⟩ h).count = (decimalDigits n).length := rfl
  have hdigits : (ofDecimal ⟨n, e⟩ h).digits = n := rfl
  unfold text
  dsimp only
  rw [hcount, hdigits]
  cases e with
  | ofNat zeros =>
    have hpoint : (ofDecimal ⟨n, .ofNat zeros⟩ h).point = zeros + (decimalDigits n).length := rfl
    have hzeros :
        ((ofDecimal ⟨n, .ofNat zeros⟩ h).point - (decimalDigits n).length).toNat = zeros := by
      omega
    rw [if_pos (by omega), hzeros]
    rfl
  | negSucc p =>
    have hpoint : (ofDecimal ⟨n, .negSucc p⟩ h).point =
        Int.negSucc p + (decimalDigits n).length := rfl
    rw [if_neg (by omega)]
    rcases Nat.lt_or_ge (p + 1) (decimalDigits n).length with hlt | hle
    · -- the point stands among the digits
      have hplace : (decimalDigits n).length =
          (ofDecimal ⟨n, .negSucc p⟩ h).point.toNat + (p + 1) := by omega
      rw [if_pos (by omega), Decimal.plain_pointed hplace (by omega)]
    · -- the point stands in front of the digits
      have hzeros : (-(ofDecimal ⟨n, .negSucc p⟩ h).point).toNat =
          p + 1 - (decimalDigits n).length := by omega
      rw [if_neg (by omega), if_pos (by omega), Decimal.plain_padded hle, hzeros]
      rfl

theorem powerText_ofDecimal {d : Decimal} (h : d.digits ≠ 0) :
    (ofDecimal d h).powerText =
      'e' :: (if d.leadingPower < 0 then [] else ['+']) ++ integerText d.leadingPower := by
  have hpower : (ofDecimal d h).point - 1 = d.leadingPower := rfl
  unfold powerText integerText
  rw [hpower]
  split <;> rfl

/-- Too far from the point they are laid out in exponent form. -/
theorem text_ofDecimal_scientific {d : Decimal} (h : d.digits ≠ 0)
    (hfar : ¬ (-6 < (ofDecimal d h).point ∧ (ofDecimal d h).point ≤ 21)) :
    (ofDecimal d h).text = d.scientific ['+'] := by
  have hcount : (ofDecimal d h).count = (decimalDigits d.digits).length := rfl
  have hdigits : (ofDecimal d h).digits = d.digits := rfl
  have hpos := (ofDecimal d h).count_pos
  unfold text Decimal.scientific
  dsimp only
  rw [if_neg (by omega), if_neg (by omega), if_neg (by omega), powerText_ofDecimal, hdigits, hcount]
  split
  · next hone =>
    rw [Decimal.mantissa_of_length_eq_one hone, List.append_assoc]
  · next hmore =>
    rw [Decimal.mantissa_of_one_lt_length (by omega)]
    simp only [List.append_assoc, List.cons_append]

/-! ### Reading a layout -/

theorem length_digits (d : SignificantDigits) : (decimalDigits d.digits).length = d.count := by
  have hbelow := lt_ten_pow_length d.digits
  have habove := ten_pow_length_le d.digits_ne_zero
  have hcount := d.count_pos
  have hle := (Nat.pow_lt_pow_iff_right (by decide)).mp (Nat.lt_of_le_of_lt d.le_digits hbelow)
  have hge := (Nat.pow_lt_pow_iff_right (by decide)).mp (Nat.lt_of_le_of_lt habove d.digits_lt)
  omega

/-- Significant digits are those of a decimal. -/
theorem ofDecimal_digits (d : SignificantDigits) :
    ofDecimal ⟨d.digits, d.point - d.count⟩ d.digits_ne_zero = d :=
  eq_of_toRat_eq d.length_digits (toRat_ofDecimal _ _)

/-- The layout of digits has their value. -/
theorem text_spells (negative : Bool) (d : SignificantDigits) :
    Spells (withSign negative d.text) negative d.toRat := by
  have hdecimal := d.ofDecimal_digits
  rw [d.toRat_eq]
  by_cases hnear : -6 < d.point ∧ d.point ≤ 21
  · have htext := text_ofDecimal_plain d.digits_ne_zero (hdecimal.symm ▸ hnear.1)
      (hdecimal.symm ▸ hnear.2)
    rw [hdecimal] at htext
    rw [htext]
    exact Decimal.plain_spells negative (.inl d.digits_ne_zero)
  · have htext := text_ofDecimal_scientific d.digits_ne_zero (hdecimal.symm ▸ hnear)
    rw [hdecimal] at htext
    rw [htext]
    exact Decimal.scientific_spells negative _

/-- Of digits of one count no others have the same layout. -/
theorem eq_of_text_eq {d d' : SignificantDigits} {negative : Bool} (hcount : d.count = d'.count)
    (h : String.ofList (withSign negative d.text) = String.ofList (withSign negative d'.text)) :
    d = d' := by
  obtain ⟨t, htext, -, hvalue⟩ := text_spells negative d
  obtain ⟨t', htext', -, hvalue'⟩ := text_spells negative d'
  have hnumeral : t.numeral = t'.numeral := by
    apply Option.some.inj
    rw [← t.ofString?_text, ← t'.ofString?_text, htext, htext', h]
  rw [hnumeral, hvalue'] at hvalue
  exact eq_of_toRat_eq hcount hvalue.symm

end SignificantDigits

/-! ### Doubles -/

namespace Magnitude

theorem plainFrom_attracts : plainFrom.Attracts (10 ^ (-6 : ℤ)) := by
  have hnearest := Decimal.magnitude?_eq_some_iff.mp plainFrom_nearest
  rw [Decimal.toRat, Nat.cast_one, one_mul] at hnearest
  exact hnearest

theorem toRat_plainBelow : plainBelow.toRat = 10 ^ (21 : ℤ) := by
  rw [toRat, plainBelow_exact, Nat.cast_mul, mul_div_cancel_right₀ _ unitsPerOne_pos.ne']
  norm_num

theorem plainBelow_attracts : plainBelow.Attracts (10 ^ (21 : ℤ)) := by
  rw [← toRat_plainBelow]
  exact plainBelow.attracts_toRat

variable {x : Magnitude} {d : SignificantDigits}

/-- What is below the double nearest to `10 ^ -6` has its point far in front of its shortest
    digits, and nothing else has. -/
theorem lt_plainFrom_iff (h : d.IsShortest x) : x.units < plainFrom.units ↔ d.point ≤ -6 :=
  (h.point_le_iff plainFrom_attracts (by decide)).symm

/-- What is at least `10 ^ 21` has its point far behind its first digit, and nothing else
    has. -/
theorem plainBelow_le_iff (h : d.IsShortest x) : plainBelow.units ≤ x.units ↔ 21 < d.point := by
  rw [← Nat.not_lt, ← h.point_le_iff plainBelow_attracts (by decide), Int.not_le]

/-- The notation is chosen by the place of the point. -/
theorem isPlain_iff (hx : x.isZero = false) (h : d.IsShortest x) :
    x.isPlain ↔ -6 < d.point ∧ d.point ≤ 21 := by
  have hfrom := lt_plainFrom_iff h
  have hbelow := plainBelow_le_iff h
  unfold isPlain
  rw [hx, Bool.false_or, Bool.and_eq_true, decide_eq_true_eq, decide_eq_true_eq]
  omega

/-- A magnitude is laid out by its shortest digits. -/
theorem text_eq (hx : x.isZero = false) : x.text = (x.shortestDigits hx).text := by
  have hchoice := isPlain_iff hx (shortestDigits_isShortest hx)
  unfold text shortestDigits at *
  split
  · next hplain =>
    obtain ⟨hlow, hhigh⟩ := hchoice.mp hplain
    rw [SignificantDigits.text_ofDecimal_plain _ hlow hhigh]
  · next hfar =>
    rw [SignificantDigits.text_ofDecimal_scientific _ (fun hplain => hfar (hchoice.mpr hplain))]

end Magnitude

namespace Double

variable {x : Magnitude} {d d' : SignificantDigits}

theorem text_finite (negative : Bool) (hx : x.isZero = false) :
    (finite negative x).text =
      String.ofList (withSign negative (x.shortestDigits hx).text) := by
  rw [← Magnitude.text_eq hx]
  simp [text, hx]

/-- A double is written as JavaScript prints it, unless it is in the middle below odd digits. -/
theorem text_eq_iff (negative : Bool) (hx : x.isZero = false) (h : d.IsPreferred x) :
    (finite negative x).text = String.ofList (withSign negative d.text) ↔ ¬ x.IsBelowOdd := by
  have hfound := Magnitude.shortestDigits_isShortest hx
  rw [text_finite negative hx, ← Magnitude.isPreferred_shortestDigits_iff hx]
  constructor
  · intro htext
    rw [SignificantDigits.eq_of_text_eq (h.shortest.count_eq hfound) htext]
    exact h
  · intro hpreferred
    rw [h.unique hx hpreferred]

end Double

/-! ### A double in the middle -/

namespace Magnitude

/-- The double `2 ^ 50 + 1 / 4`. -/
def twoPowFiftyAndQuarter : Magnitude where
  significand := 4503599627370497
  exponent := 1072
  significand_lt := by decide
  full := .inl (by decide)
  exponent_le := by decide

theorem toRat_twoPowFiftyAndQuarter : twoPowFiftyAndQuarter.toRat = 4503599627370497 / 4 := by
  have hunits : 4 * twoPowFiftyAndQuarter.units = 4503599627370497 * unitsPerOne := by
    decide +kernel
  have hvalue := toRat_mul_unitsPerOne twoPowFiftyAndQuarter
  have hunits' : (4 * twoPowFiftyAndQuarter.units : ℚ) = 4503599627370497 * unitsPerOne := by
    exact_mod_cast hunits
  rw [← hvalue, ← mul_assoc] at hunits'
  linarith [mul_right_cancel₀ unitsPerOne_pos.ne' hunits']

end Magnitude

namespace SignificantDigits

/-- Seventeen digits just above `2 ^ 50 + 1 / 4`. -/
def aboveQuarter : SignificantDigits := ofDecimal ⟨11258999068426243, -1⟩ (by decide)

/-- Seventeen digits just below `2 ^ 50 + 1 / 4`. -/
def belowQuarter : SignificantDigits := ofDecimal ⟨11258999068426242, -1⟩ (by decide)

theorem toRat_aboveQuarter : aboveQuarter.toRat = 11258999068426243 / 10 := by
  rw [aboveQuarter, toRat_ofDecimal, Decimal.toRat]
  norm_num

theorem toRat_belowQuarter : belowQuarter.toRat = 11258999068426242 / 10 := by
  rw [belowQuarter, toRat_ofDecimal, Decimal.toRat]
  norm_num

theorem belowQuarter_lt : belowQuarter.toRat < aboveQuarter.toRat := by
  rw [toRat_aboveQuarter, toRat_belowQuarter]
  norm_num

theorem aboveQuarter_isShortest : aboveQuarter.IsShortest .twoPowFiftyAndQuarter := by
  have hfound := @Magnitude.shortestDigits_isShortest .twoPowFiftyAndQuarter rfl
  have hdecimal : Magnitude.twoPowFiftyAndQuarter.shortest = ⟨11258999068426243, -1⟩ := by
    decide +kernel
  simp only [Magnitude.shortestDigits, hdecimal] at hfound
  exact hfound

theorem belowQuarter_isShortest : belowQuarter.IsShortest .twoPowFiftyAndQuarter := by
  have hnearest : Decimal.magnitude? ⟨11258999068426242, -1⟩ = some .twoPowFiftyAndQuarter := by
    decide +kernel
  have hrounds := (Decimal.magnitude?_eq_some_iff.mp hnearest).isNearest
  refine aboveQuarter_isShortest.of_middle ?_ (by decide +kernel) ?_
  · rw [belowQuarter, toRat_ofDecimal]
    exact hrounds
  · rw [toRat_aboveQuarter, toRat_belowQuarter, Magnitude.toRat_twoPowFiftyAndQuarter]
    norm_num

end SignificantDigits

namespace Number

/-- Finite doubles are written as JavaScript prints them, unless they are in the middle between
    two shortest decimals of which the upper one is odd. -/
theorem text_notation (negative : Bool) (x : Magnitude) :
    -- both zeros are written without a sign
    (x.isZero → (double (.finite negative x)).text = "0") ∧
    -- for any other double there are the digits that JavaScript takes, and it is written as its
    -- sign and these digits in their layout unless there are two and the upper one is odd
    (x.isZero = false → ∃ d : SignificantDigits,
      d.IsPreferred x ∧ (∀ d' : SignificantDigits, d'.IsPreferred x → d' = d) ∧
      ((double (.finite negative x)).text = String.ofList (withSign negative d.text) ↔
        ¬ x.IsBelowOdd)) ∧
    -- where there are two it is in the middle, they follow one another, and it is written with
    -- the upper one
    (∀ d d' : SignificantDigits, x.isZero = false →
      d.IsShortest x → d'.IsShortest x → d'.toRat < d.toRat →
      d.toRat + d'.toRat = 2 * x.toRat ∧ d.point = d'.point ∧ d.digits = d'.digits + 1 ∧
      (double (.finite negative x)).text = String.ofList (withSign negative d.text)) ∧
    -- the doubles nearest to the two limits tell the place of the point of any shortest digits
    Decimal.magnitude? ⟨1, -6⟩ = some Magnitude.plainFrom ∧
    Decimal.magnitude? ⟨1, 21⟩ = some Magnitude.plainBelow ∧
    (∀ d : SignificantDigits, d.IsShortest x →
      (x.units < Magnitude.plainFrom.units ↔ d.point ≤ -6) ∧
      (Magnitude.plainBelow.units ≤ x.units ↔ 21 < d.point)) := by
  refine ⟨?_, ?_, ?_, Magnitude.plainFrom_nearest, ?_, ?_⟩
  · intro hx
    rw [Magnitude.eq_zero_of_isZero hx]
    cases negative <;> rfl
  · intro hx
    obtain ⟨d, hd⟩ := Magnitude.exists_isPreferred hx
    exact ⟨d, hd, fun _ => hd.unique hx, Double.text_eq_iff negative hx hd⟩
  · intro d d' hx h h' hlt
    refine ⟨h.middle_of_lt h' hlt, (h.point_eq hx h' hlt).symm, h.digits_eq_succ hx h' hlt, ?_⟩
    rw [← Magnitude.shortestDigits_eq_of_lt hx h h' hlt]
    exact Double.text_finite negative hx
  · rw [Decimal.magnitude?_eq_some_iff, Decimal.toRat, Nat.cast_one, one_mul]
    exact Magnitude.plainBelow_attracts
  · intro d h
    exact ⟨Magnitude.lt_plainFrom_iff h, Magnitude.plainBelow_le_iff h⟩

/-- The doubles at the two limits, a zero with a sign, and a double in the middle. -/
theorem text_notation_limits :
    (double (.finite true .zero)).text = "0" ∧
    (∃ d : SignificantDigits, d.IsPreferred Magnitude.plainFrom ∧
      d.IsShortest Magnitude.plainFrom ∧ -6 < d.point) ∧
    (∃ d : SignificantDigits, d.IsPreferred Magnitude.plainBelow ∧
      d.IsShortest Magnitude.plainBelow ∧ 21 < d.point) ∧
    SignificantDigits.aboveQuarter.IsShortest .twoPowFiftyAndQuarter ∧
    SignificantDigits.belowQuarter.IsShortest .twoPowFiftyAndQuarter ∧
    SignificantDigits.belowQuarter.toRat < SignificantDigits.aboveQuarter.toRat ∧
    (double (.finite true .twoPowFiftyAndQuarter)).text =
      String.ofList ('-' :: SignificantDigits.aboveQuarter.text) := by
  obtain ⟨hzero, -⟩ := text_notation true .zero
  obtain ⟨-, hlayout, -, -, -, hchoice⟩ := text_notation false Magnitude.plainFrom
  obtain ⟨-, hlayout', -, -, -, hchoice'⟩ := text_notation true Magnitude.plainBelow
  obtain ⟨-, -, hmiddle, -⟩ := text_notation true .twoPowFiftyAndQuarter
  obtain ⟨d, hd, -, -⟩ := hlayout rfl
  obtain ⟨d', hd', -, -⟩ := hlayout' rfl
  have hpoint := (hchoice d hd.shortest).1
  have hpoint' := (hchoice' d' hd'.shortest).2
  have habove := SignificantDigits.aboveQuarter_isShortest
  have hbelow := SignificantDigits.belowQuarter_isShortest
  have hlt := SignificantDigits.belowQuarter_lt
  obtain ⟨-, -, -, htext⟩ := hmiddle _ _ rfl habove hbelow hlt
  exact ⟨hzero rfl, ⟨d, hd, hd.shortest, by omega⟩, ⟨d', hd', hd'.shortest, by omega⟩,
    habove, hbelow, hlt, htext⟩

/-- A double in the middle below odd digits is not written as JavaScript prints it. -/
theorem text_notation_middle :
    Decimal.magnitude? ⟨112589990684262425, -2⟩ = some .twoPowFiftyAndQuarter ∧
    (double (.finite false .twoPowFiftyAndQuarter)).text = "1125899906842624.3" ∧
    SignificantDigits.belowQuarter.IsPreferred .twoPowFiftyAndQuarter ∧
    String.ofList SignificantDigits.belowQuarter.text = "1125899906842624.2" :=
  ⟨by decide +kernel, by decide +kernel,
    ⟨SignificantDigits.belowQuarter_isShortest, fun _ _ _ => by decide⟩, by decide +kernel⟩

end Number

end SearchQuery
