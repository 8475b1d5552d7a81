import SearchQuery.Timestamp.Calendar

/-! # Counting days

  The dates of the Gregorian calendar follow one another: `Date.next` is the day after a
  date. Counted from the first day of year zero, `Date.after` is the date of a day, and
  `Date.ofDay?` counts from 1970-01-01 instead.

  `Date.daysSinceEpoch` finds the number of a day by counting years and months at once.
  Both agree: a day has a date exactly if this date has the number of the day. So every
  date has one day, and no two dates have the same.
-/

namespace SearchQuery

/-! ### Lengths of years and months -/

namespace Calendar

theorem monthLength_pos (year month : Nat) : 0 < monthLength year month := by
  unfold monthLength
  split
  · split <;> decide
  all_goals decide

theorem monthLength_le (year month : Nat) : monthLength year month ≤ 31 := by
  unfold monthLength
  split
  · split <;> decide
  all_goals decide

theorem daysBeforeMonth_succ (year : Nat) {month : Nat} (h : 1 ≤ month) :
    daysBeforeMonth year (month + 1) = daysBeforeMonth year month + monthLength year month := by
  obtain ⟨m, rfl⟩ : ∃ m, month = m + 1 := ⟨month - 1, by omega⟩
  unfold daysBeforeMonth
  rw [Nat.add_sub_cancel, Nat.add_sub_cancel, List.range'_concat, List.foldl_append, List.foldl_cons,
    List.foldl_nil, Nat.one_mul, Nat.add_comm 1 m]

/-- The length of a year. -/
def yearLength (year : Nat) : Nat := if isLeapYear year then 366 else 365

theorem daysBeforeMonth_thirteen (year : Nat) : daysBeforeMonth year 13 = yearLength year := by
  unfold daysBeforeMonth yearLength
  cases h : isLeapYear year <;> simp [monthLength, h, List.range']

/-- One more of the numbers up to a year is a multiple of `n` if the year is. -/
theorem succ_div_eq (year n : Nat) :
    (year + n + 1) / (n + 1) = (year + n) / (n + 1) + if year % (n + 1) = 0 then 1 else 0 := by
  rw [Nat.succ_div, Nat.add_assoc]
  simp only [Nat.dvd_iff_mod_eq_zero, Nat.add_mod_right]

theorem leapYearsBefore_succ (year : Nat) :
    leapYearsBefore (year + 1) = leapYearsBefore year + if isLeapYear year then 1 else 0 := by
  have hfour := succ_div_eq year 3
  have hcentury := succ_div_eq year 99
  have hfourCenturies := succ_div_eq year 399
  have hfewer : (year + 99) / 100 ≤ (year + 3) / 4 := by omega
  have hleap : isLeapYear year = true ↔
      year % 4 = 0 ∧ (year % 100 ≠ 0 ∨ year % 400 = 0) := by
    simp [isLeapYear]
  unfold leapYearsBefore
  simp only [hleap, Nat.add_right_comm year 1, hfour, hcentury, hfourCenturies, Nat.reduceAdd]
  -- every fourth century is a century, and every century is a fourth year
  have hcentury' : year % 400 = 0 → year % 100 = 0 := by omega
  have hfour' : year % 100 = 0 → year % 4 = 0 := by omega
  generalize (year + 3) / 4 = a at *
  generalize (year + 99) / 100 = b at *
  by_cases h400 : year % 400 = 0
  · have h100 := hcentury' h400
    have h4 := hfour' h100
    simp [h400, h100, h4]
    omega
  · by_cases h100 : year % 100 = 0
    · have h4 := hfour' h100
      simp [h400, h100, h4]
    · by_cases h4 : year % 4 = 0
      · simp [h400, h100, h4]
        omega
      · simp [h4, h100, h400]

theorem daysBeforeYear_succ (year : Nat) :
    daysBeforeYear (year + 1) = daysBeforeYear year + yearLength year := by
  have hleap := leapYearsBefore_succ year
  unfold daysBeforeYear yearLength
  split at hleap <;> simp_all <;> omega

theorem daysBeforeYear_mono {year year' : Nat} (h : year ≤ year') :
    daysBeforeYear year ≤ daysBeforeYear year' := by
  induction h with
  | refl => exact Nat.le_refl _
  | step _ ih =>
    rw [daysBeforeYear_succ]
    exact Nat.le_add_right_of_le ih

theorem daysBeforeMonth_le (year month : Nat) : daysBeforeMonth year month ≤ 31 * month := by
  induction month with
  | zero => exact Nat.le_refl 0
  | succ month ih =>
    rcases Nat.eq_zero_or_pos month with rfl | hpos
    · exact Nat.zero_le _
    · have hlength := monthLength_le year month
      rw [daysBeforeMonth_succ year hpos]
      omega

end Calendar

/-! ### The day after -/

namespace Date

/-- The day after a date. -/
def next (d : Date) : Date :=
  if d.day < Calendar.monthLength d.year d.month then { d with day := d.day + 1 }
  else if d.month < 12 then { d with month := d.month + 1, day := 1 }
  else { year := d.year + 1, month := 1, day := 1 }

/-- The first day of year zero. -/
def first : Date where
  year := 0
  month := 1
  day := 1

/-- The date that comes so many days after the first one. -/
def after : Nat → Date
  | 0 => first
  | days + 1 => (after days).next

/-- The date of a day that is counted from 1970-01-01. There is none before year zero. -/
def ofDay? (day : Int) : Option Date :=
  if 0 ≤ day + Calendar.epochDays then some (after (day + Calendar.epochDays).toNat) else none

/-- Whether a date is the last of its month. -/
def EndsMonth (d : Date) : Prop := d.day = Calendar.monthLength d.year d.month

/-- How many days there are from the first date to this one. -/
def daysSinceFirst (d : Date) : Nat :=
  Calendar.daysBeforeYear d.year + Calendar.daysBeforeMonth d.year d.month + (d.day - 1)

theorem isValid_next {d : Date} (h : d.IsValid) : d.next.IsValid := by
  obtain ⟨hmonth, hmonth', hday, hday'⟩ := h
  unfold next IsValid
  split
  · next hmore => exact ⟨hmonth, hmonth', Nat.le_add_left 1 d.day, hmore⟩
  · split
    · next hmore =>
      exact ⟨Nat.le_add_left 1 d.month, hmore, Nat.le_refl 1, Calendar.monthLength_pos _ _⟩
    · exact ⟨Nat.le_refl 1, Nat.le_add_left 1 11, Nat.le_refl 1, Calendar.monthLength_pos _ _⟩

/-- A month starts after the last day of another and at no other time. -/
theorem day_next_eq_one_iff {d : Date} (h : d.IsValid) : d.next.day = 1 ↔ d.EndsMonth := by
  obtain ⟨_, _, hday, hday'⟩ := h
  unfold next EndsMonth
  split
  · next hmore =>
    constructor
    · intro hone
      exact absurd hone (by simp; omega)
    · intro hend
      exact absurd hend (by omega)
  · next hend =>
    have heq : d.day = Calendar.monthLength d.year d.month := by omega
    split <;> simp [heq]

/-- The day after has the next number. -/
theorem daysSinceFirst_next {d : Date} (h : d.IsValid) :
    d.next.daysSinceFirst = d.daysSinceFirst + 1 := by
  obtain ⟨hmonth, hmonth', hday, hday'⟩ := h
  have hstep := Calendar.daysBeforeMonth_succ d.year hmonth
  unfold next daysSinceFirst
  split
  · simp only
    omega
  · next hend =>
    have hlastDay : d.day = Calendar.monthLength d.year d.month := by omega
    rw [← hlastDay] at hstep
    split
    · simp only
      omega
    · -- the last day of the year
      have hdecember : d.month = 12 := by omega
      have hyear := Calendar.daysBeforeYear_succ d.year
      have hlength := Calendar.daysBeforeMonth_thirteen d.year
      have hjanuary : Calendar.daysBeforeMonth (d.year + 1) 1 = 0 := rfl
      rw [hdecember] at hstep ⊢
      rw [hlength] at hstep
      simp only
      omega

/-! ### Every date is reached -/

theorem isValid_after (days : Nat) : (after days).IsValid := by
  induction days with
  | zero => decide
  | succ days ih => exact isValid_next ih

theorem daysSinceFirst_after (days : Nat) : (after days).daysSinceFirst = days := by
  induction days with
  | zero => rfl
  | succ days ih =>
    rw [after, daysSinceFirst_next (isValid_after days), ih]

/-- Every date but the first is the day after some date. -/
theorem exists_next {d : Date} (h : d.IsValid) : d = first ∨ ∃ e : Date, e.IsValid ∧ e.next = d := by
  obtain ⟨year, month, day⟩ := d
  obtain ⟨hmonth, hmonth', hday, hday'⟩ := h
  simp only at hmonth hmonth' hday hday'
  by_cases hfirst : day = 1
  · by_cases hjanuary : month = 1
    · rcases Nat.eq_zero_or_pos year with hyear | hyear
      · left
        rw [hyear, hjanuary, hfirst]
        rfl
      · -- the last day of the year before
        right
        obtain ⟨y, rfl⟩ : ∃ y, year = y + 1 := ⟨year - 1, by omega⟩
        refine ⟨⟨y, 12, 31⟩, ?_, ?_⟩
        · exact ⟨Nat.le_add_left 1 11, Nat.le_refl 12, Nat.le_add_left 1 30, Nat.le_refl 31⟩
        · rw [hjanuary, hfirst]
          rfl
    · -- the last day of the month before
      right
      obtain ⟨m, rfl⟩ : ∃ m, month = m + 1 := ⟨month - 1, by omega⟩
      refine ⟨⟨year, m, Calendar.monthLength year m⟩,
        ⟨by simp; omega, by simp; omega, Calendar.monthLength_pos _ _, Nat.le_refl _⟩, ?_⟩
      unfold next
      rw [if_neg (Nat.lt_irrefl _), if_pos (by simp; omega), hfirst]
  · right
    obtain ⟨n, rfl⟩ : ∃ n, day = n + 1 := ⟨day - 1, by omega⟩
    refine ⟨⟨year, month, n⟩, ⟨hmonth, hmonth', by simp; omega, by simp; omega⟩, ?_⟩
    unfold next
    rw [if_pos (by simp; omega)]

/-- Counting from the first day reaches every date, at its own number. -/
theorem after_daysSinceFirst {d : Date} (h : d.IsValid) : after d.daysSinceFirst = d := by
  -- the day before has the number before
  induction hn : d.daysSinceFirst generalizing d with
  | zero =>
    rcases exists_next h with rfl | ⟨e, he, rfl⟩
    · rfl
    · rw [daysSinceFirst_next he] at hn
      cases hn
  | succ n ih =>
    rcases exists_next h with rfl | ⟨e, he, rfl⟩
    · cases hn
    · rw [daysSinceFirst_next he] at hn
      rw [after, ih he (Nat.succ.inj hn)]

/-! ### Days from the epoch -/

theorem daysSinceEpoch_eq {d : Date} (h : d.IsValid) :
    d.daysSinceEpoch = d.daysSinceFirst - Calendar.epochDays := by
  have hday : 1 ≤ d.day := h.2.2.1
  unfold daysSinceEpoch daysSinceFirst
  omega

/-- Dates with a year of four digits are within four million days of the epoch. -/
theorem daysSinceEpoch_bounds {d : Date} (h : d.IsValid) (hyear : d.year ≤ 9999) :
    -4000000 < d.daysSinceEpoch ∧ d.daysSinceEpoch < 4000000 := by
  obtain ⟨_, hmonth, _, hday⟩ := h
  have hyears := Calendar.daysBeforeYear_mono hyear
  have hlast : Calendar.daysBeforeYear 9999 = 3652060 := by decide
  have hmonths := Calendar.daysBeforeMonth_le d.year d.month
  have hdays := Calendar.monthLength_le d.year d.month
  unfold daysSinceEpoch Calendar.epochDays
  omega

/-- A day has a date exactly if this date has the number of the day. -/
theorem ofDay?_eq_some_iff {day : Int} {d : Date} :
    ofDay? day = some d ↔ d.IsValid ∧ d.daysSinceEpoch = day := by
  unfold ofDay?
  constructor
  · intro h
    split at h
    · next hle =>
      rw [Option.some_inj] at h
      rw [← h]
      have hvalid := isValid_after (day + Calendar.epochDays).toNat
      refine ⟨hvalid, ?_⟩
      rw [daysSinceEpoch_eq hvalid, daysSinceFirst_after]
      omega
    · cases h
  · rintro ⟨hvalid, rfl⟩
    have hnumber := daysSinceEpoch_eq hvalid
    rw [if_pos (by omega), Option.some_inj]
    have hnat : (d.daysSinceEpoch + Calendar.epochDays).toNat = d.daysSinceFirst := by omega
    rw [hnat, after_daysSinceFirst hvalid]

/-- Day zero is the epoch. -/
theorem ofDay?_zero : ofDay? 0 = some ⟨1970, 1, 1⟩ := by
  rw [ofDay?_eq_some_iff]
  decide

/-- The next day is the day after. -/
theorem ofDay?_succ {day : Int} {d : Date} (h : ofDay? day = some d) :
    ofDay? (day + 1) = some d.next := by
  obtain ⟨hvalid, hday⟩ := ofDay?_eq_some_iff.mp h
  have hnext := isValid_next hvalid
  refine ofDay?_eq_some_iff.mpr ⟨hnext, ?_⟩
  have hnumber := daysSinceFirst_next hvalid
  rw [daysSinceEpoch_eq hnext, hnumber, ← hday, daysSinceEpoch_eq hvalid]
  omega

end Date

end SearchQuery
