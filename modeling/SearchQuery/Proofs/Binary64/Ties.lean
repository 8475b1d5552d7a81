import SearchQuery.Proofs.Binary64.Fewest

/-! # Ties of shortest digits

  A magnitude can be in the middle between two decimals that are both the shortest. These
  follow one another, so one of them is even and the other is odd.

  JavaScript takes the even one, and `SignificantDigits.IsPreferred` tells it apart from the
  other. The search takes the upper one, so it finds what JavaScript takes unless the upper one
  is odd.
-/

namespace SearchQuery

namespace SignificantDigits

variable {d d' : SignificantDigits} {x : Magnitude}

/-! ### Digits that follow one another -/

/-- What is as near on the other side is the shortest as well. -/
theorem IsShortest.of_middle (h : d.IsShortest x) (hrounds : x.IsNearest d'.toRat)
    (hcount : d'.count = d.count) (hmiddle : d.toRat + d'.toRat = 2 * x.toRat) :
    d'.IsShortest x := by
  have hfar : |x.toRat - d'.toRat| = |x.toRat - d.toRat| := by
    rw [← abs_neg]
    congr 1
    linarith
  refine ⟨hrounds, ?_, ?_⟩
  · intro other hother
    rw [hcount]
    exact h.fewest other hother
  · intro other hother hsame
    rw [hfar]
    exact h.closest other hother (hsame.trans hcount)

/-- Of two that are the shortest the magnitude is in the middle. -/
theorem IsShortest.middle_of_lt (h : d.IsShortest x) (h' : d'.IsShortest x)
    (hlt : d'.toRat < d.toRat) : d.toRat + d'.toRat = 2 * x.toRat := by
  rcases h.eq_or_middle h' with rfl | hmiddle
  · exact absurd hlt (lt_irrefl _)
  · exact hmiddle

/-- Nothing of as many digits lies between two that are the shortest, for it would be nearer. -/
theorem IsShortest.not_between (h : d.IsShortest x) (h' : d'.IsShortest x)
    {other : SignificantDigits} (hcount : other.count = d.count) (hlow : d'.toRat < other.toRat) :
    ¬ other.toRat < d.toRat := by
  intro hhigh
  have hmiddle := h.middle_of_lt h' (hlow.trans hhigh)
  have hrounds := (isNearest_toRat_iff.mp h'.rounds).of_between (isNearest_toRat_iff.mp h.rounds)
    hlow.le hhigh.le
  have hnearer : |x.toRat - other.toRat| < d.toRat - x.toRat :=
    abs_lt.mpr ⟨by linarith, by linarith⟩
  have hclosest := h.closest other hrounds.isNearest hcount
  rw [abs_sub_comm, abs_of_pos (by linarith)] at hclosest
  linarith

/-- Two that are the shortest have the same point. Else the power of ten between them is the
    upper one and nine tenths of it the lower one, and no magnitude is in the middle of these. -/
theorem IsShortest.point_eq (hx : x.isZero = false) (h : d.IsShortest x) (h' : d'.IsShortest x)
    (hlt : d'.toRat < d.toRat) : d'.point = d.point := by
  have hle : d'.point ≤ d.point := point_le_of_toRat_lt (hlt.trans d.toRat_lt)
  by_contra hne
  have hless : d'.point ≤ d.point - 1 := by omega
  have hbelow : d'.toRat < 10 ^ (d.point - 1) := toRat_lt_of_point_le hless
  have hrounds := isNearest_toRat_iff.mp h.rounds
  have hrounds' := isNearest_toRat_iff.mp h'.rounds
  have hpower := hrounds'.of_between hrounds hbelow.le d.le_toRat
  have hfewest : d.count ≤ (power (d.point - 1)).count := by
    apply h.fewest
    rw [toRat_power]
    exact hpower.isNearest
  have hone : d.count = 1 := Nat.le_antisymm hfewest d.count_pos
  have hupper : d.toRat = 10 ^ (d.point - 1) := by
    have hnot : ¬ (power (d.point - 1)).toRat < d.toRat :=
      h.not_between h' hone.symm (by rwa [toRat_power])
    rw [toRat_power, not_lt] at hnot
    exact le_antisymm hnot d.le_toRat
  have hlower : d'.toRat ≤ 9 * 10 ^ (d.point - 1 - 1) :=
    toRat_le_nine ((h.count_eq h').trans hone) hless
  have hmiddle := h.middle_of_lt h' hlt
  have hnine := hrounds'.of_between hpower hlower
    (by linarith [ten_zpow_eq (d.point - 1), show (0 : ℚ) < 10 ^ (d.point - 1 - 1) by positivity])
  have hfar := Magnitude.middle_lt_of_attracts hx hnine hpower (by linarith)
  linarith

/-- The digits that follow, where there are as many of them. -/
def next (d : SignificantDigits) (h : d.digits + 1 < 10 ^ d.count) : SignificantDigits where
  digits := d.digits + 1
  count := d.count
  point := d.point
  count_pos := d.count_pos
  le_digits := Nat.le_succ_of_le d.le_digits
  digits_lt := h

theorem toRat_lt_iff (hcount : d'.count = d.count) (hpoint : d'.point = d.point) :
    d'.toRat < d.toRat ↔ d'.digits < d.digits := by
  unfold toRat
  rw [hcount, hpoint, mul_lt_mul_iff_left₀ (by positivity), Nat.cast_lt]

/-- Two that are the shortest follow one another. -/
theorem IsShortest.digits_eq_succ (hx : x.isZero = false) (h : d.IsShortest x)
    (h' : d'.IsShortest x) (hlt : d'.toRat < d.toRat) : d.digits = d'.digits + 1 := by
  have hcount := h.count_eq h'
  have hpoint := h.point_eq hx h' hlt
  have hless := (toRat_lt_iff hcount hpoint).mp hlt
  by_contra hne
  have hroom : d'.digits + 1 < 10 ^ d'.count := by
    have hbound := d.digits_lt
    rw [hcount]
    omega
  have hlow : d'.toRat < (d'.next hroom).toRat :=
    (@toRat_lt_iff (d'.next hroom) d' rfl rfl).mpr (Nat.lt_succ_self d'.digits)
  have hhigh : (d'.next hroom).toRat < d.toRat :=
    (@toRat_lt_iff d (d'.next hroom) hcount hpoint).mpr (Nat.lt_of_le_of_ne hless (Ne.symm hne))
  have hsame : (d'.next hroom).count = d.count := hcount
  exact h.not_between h' hsame hlow hhigh

/-! ### The even one -/

/-- Whether these are the digits that JavaScript takes: the shortest, and the even one where
    two are equally near. -/
structure IsPreferred (d : SignificantDigits) (x : Magnitude) : Prop where
  shortest : d.IsShortest x
  even_of_tie : ∀ d' : SignificantDigits, d'.IsShortest x → d' ≠ d → d.digits % 2 = 0

/-- Of two different shortest ones, one is the upper one. -/
theorem IsShortest.lt_or_lt (h : d.IsShortest x) (h' : d'.IsShortest x) (hne : d' ≠ d) :
    d'.toRat < d.toRat ∨ d.toRat < d'.toRat :=
  lt_or_gt_of_ne fun heq => hne (eq_of_toRat_eq (h.count_eq h') heq)

/-- JavaScript takes no other digits. -/
theorem IsPreferred.unique (hx : x.isZero = false) (h : d.IsPreferred x) (h' : d'.IsPreferred x) :
    d' = d := by
  by_contra hne
  have heven := h.even_of_tie d' h'.shortest hne
  have heven' := h'.even_of_tie d h.shortest (Ne.symm hne)
  rcases h.shortest.lt_or_lt h'.shortest hne with hlt | hlt
  · have hsucc := h.shortest.digits_eq_succ hx h'.shortest hlt
    omega
  · have hsucc := h'.shortest.digits_eq_succ hx h.shortest hlt
    omega

end SignificantDigits

namespace Magnitude

/-- Whether a magnitude is in the middle between two shortest ones, of which the upper is odd. -/
def IsBelowOdd (x : Magnitude) : Prop :=
  ∃ d d' : SignificantDigits, d.IsShortest x ∧ d'.IsShortest x ∧ d'.toRat < d.toRat ∧
    d.digits % 2 = 1

variable {x : Magnitude} (hx : x.isZero = false)

include hx

/-- Where two are the shortest, the search finds the upper one. -/
theorem shortestDigits_eq_of_lt {d d' : SignificantDigits} (h : d.IsShortest x)
    (h' : d'.IsShortest x) (hlt : d'.toRat < d.toRat) : x.shortestDigits hx = d := by
  have hfound := shortestDigits_isShortest hx
  have hnot := hfound.not_between h' (hfound.count_eq h) hlt
  exact SignificantDigits.eq_of_toRat_eq (h.count_eq hfound)
    (le_antisymm (not_lt.mp hnot) (toRat_le_shortestDigits hx h))

/-- What the search finds is what JavaScript takes, unless that is the odd one of two. -/
theorem isPreferred_shortestDigits_iff :
    (x.shortestDigits hx).IsPreferred x ↔ ¬ x.IsBelowOdd := by
  have hfound := shortestDigits_isShortest hx
  constructor
  · rintro hpreferred ⟨d, d', h, h', hlt, hodd⟩
    have heven := hpreferred.even_of_tie d' h'
    rw [shortestDigits_eq_of_lt hx h h' hlt] at heven
    have hne : d' ≠ d := by
      rintro rfl
      exact lt_irrefl _ hlt
    have heven' := heven hne
    omega
  · intro hnot
    refine ⟨hfound, fun d' h' hne => ?_⟩
    by_contra hodd
    rcases hfound.lt_or_lt h' hne with hlt | hlt
    · exact hnot ⟨_, d', hfound, h', hlt, by omega⟩
    · exact absurd hlt (not_lt.mpr (toRat_le_shortestDigits hx h'))

/-- There are digits that JavaScript takes: if they are not those found, then the ones below. -/
theorem exists_isPreferred : ∃ d : SignificantDigits, d.IsPreferred x := by
  by_cases hodd : x.IsBelowOdd
  · obtain ⟨d, d', h, h', hlt, hodd⟩ := hodd
    have hsucc := h.digits_eq_succ hx h' hlt
    exact ⟨d', h', fun _ _ _ => by omega⟩
  · exact ⟨_, (isPreferred_shortestDigits_iff hx).mpr hodd⟩

end Magnitude

end SearchQuery
