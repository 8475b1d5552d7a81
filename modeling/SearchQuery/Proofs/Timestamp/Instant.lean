import SearchQuery.Proofs.Timestamp.Days
import SearchQuery.Proofs.Timestamp.Grammar
import SearchQuery.Timestamp

/-! # The instants of date-times

  The numbers of a date-time are possible if the date is one of the calendar, the time is one
  of the day, and a second of 60 is the last of a month in UTC. `DateTime.ofList` accepts the
  texts that have the form of a date-time and whose numbers are possible, and no others.

  The instant of a date-time is found by counting days along the calendar, and then hours,
  minutes, seconds and nanoseconds from the start of the day, less the offset. It agrees with
  the one that `DateTime.instant` computes.
-/

namespace SearchQuery

namespace Rfc3339

namespace DateTime

/-! ### Possible date-times -/

/-- The second of the minute that is counted: a leap second stands for the one before. -/
def standInSecond (t : DateTime) : Nat := if t.second = 60 then 59 else t.second

/-- The seconds from 1970-01-01T00:00:00Z to a date-time whose date is this day. -/
def secondsFrom (t : DateTime) (day : Int) : Int :=
  ((day * 24 + t.hour) * 60 + t.minute) * 60 + t.standInSecond - t.offset.seconds

/-- Whether a date-time stands at the last second of a month in UTC: it is the last of a
    day, and the day after is the first of a month. -/
def EndsMonth (t : DateTime) : Prop :=
  ∃ day after, Date.ofDay? day = some t.date ∧ t.secondsFrom day % 86400 = 86399 ∧
    Date.ofDay? (t.secondsFrom day / 86400 + 1) = some after ∧ after.day = 1

/-- Whether the numbers of a date-time are possible. -/
structure IsValid (t : DateTime) : Prop where
  year : t.date.year ≤ 9999
  date : t.date.IsValid
  hour : t.hour ≤ 23
  minute : t.minute ≤ 59
  second : t.second ≤ 59 ∨ t.second = 60 ∧ t.EndsMonth
  fraction : ∀ c ∈ t.fraction, c.isDigit
  offsetHours : t.offset.hours ≤ 23
  offsetMinutes : t.offset.minutes ≤ 59

/-- The numbers of a possible date-time have room in a text. -/
theorem IsValid.fits {t : DateTime} (h : t.IsValid) : t.Fits := by
  obtain ⟨hmonth, hmonth', hday, hday'⟩ := h.date
  have hyear := h.year
  have hhour := h.hour
  have hminute := h.minute
  have hsecond : t.second ≤ 60 := by
    rcases h.second with hsecond | ⟨hsecond, _⟩ <;> omega
  have hlength := Calendar.monthLength_le t.date.year t.date.month
  exact ⟨by omega, by omega, by omega, by omega, by omega, by omega, by omega, h.fraction⟩

/-! ### Seconds -/

theorem countedSecond_eq (t : DateTime) : t.countedSecond = t.standInSecond := by
  by_cases h : t.second = 60 <;> simp [countedSecond, standInSecond, isLeap, h]

theorem IsValid.countedSecond_le {t : DateTime} (h : t.IsValid) : t.countedSecond ≤ 59 := by
  rw [countedSecond_eq]
  unfold standInSecond
  rcases h.second with hsecond | ⟨hsecond, _⟩ <;> split <;> omega

theorem utcSecond_eq (t : DateTime) (day : Int) : day * 86400 + t.utcSecond = t.secondsFrom day := by
  unfold utcSecond secondOfDay secondsFrom
  rw [countedSecond_eq]
  omega

/-- By a UTC clock a date-time is less than a day off. -/
theorem utcSecond_bounds {t : DateTime} (hhour : t.hour ≤ 23) (hminute : t.minute ≤ 59)
    (hsecond : t.countedSecond ≤ 59) (hhours : t.offset.hours ≤ 23) (hminutes : t.offset.minutes ≤ 59) :
    -86400 < t.utcSecond ∧ t.utcSecond < 86400 + 86399 := by
  have hoffset : -86400 < t.offset.seconds ∧ t.offset.seconds < 86400 := by
    unfold Offset.seconds
    dsimp only
    split <;> omega
  unfold utcSecond secondOfDay
  omega

/-- The last second of a month in UTC. Only two local days can have it: the last of the
    month, and the first of the next if UTC is still at the day before. -/
theorem endsMonthInUtc_iff {t : DateTime} (hdate : t.date.IsValid) (hhour : t.hour ≤ 23)
    (hminute : t.minute ≤ 59) (hsecond : t.countedSecond ≤ 59) (hhours : t.offset.hours ≤ 23)
    (hminutes : t.offset.minutes ≤ 59) : t.endsMonthInUtc ↔ t.EndsMonth := by
  have hbounds := utcSecond_bounds hhour hminute hsecond hhours hminutes
  have hday : Date.ofDay? t.date.daysSinceEpoch = some t.date :=
    Date.ofDay?_eq_some_iff.mpr ⟨hdate, rfl⟩
  have hnext := Date.ofDay?_succ hday
  have hlast := Date.day_next_eq_one_iff hdate
  have hseconds := t.utcSecond_eq t.date.daysSinceEpoch
  obtain ⟨_, _, hfirst, hmonth⟩ := hdate
  -- the clock shows 23:59:59 on the local day or on the day before
  have hclock : t.utcSecond % 86400 = 86399 ↔ t.utcSecond = -1 ∨ t.utcSecond = 86399 := by omega
  have hutc : t.utcSecond = -1 → t.utcSecond / 86400 = -1 := by omega
  have hlocal : t.utcSecond = 86399 → t.utcSecond / 86400 = 0 := by omega
  unfold endsMonthInUtc EndsMonth
  simp only [Bool.and_eq_true, Bool.or_eq_true, beq_iff_eq, hclock]
  constructor
  · rintro ⟨hsame | hsame, hutcDay⟩
    · rw [hutc hsame] at hutcDay
      have hafter : t.secondsFrom t.date.daysSinceEpoch / 86400 + 1 = t.date.daysSinceEpoch := by
        omega
      exact ⟨_, t.date, hday, by omega, by rw [hafter]; exact hday, by omega⟩
    · rw [hlocal hsame] at hutcDay
      have hafter : t.secondsFrom t.date.daysSinceEpoch / 86400 + 1 = t.date.daysSinceEpoch + 1 := by
        omega
      refine ⟨_, t.date.next, hday, by omega, by rw [hafter]; exact hnext, hlast.mpr ?_⟩
      unfold Date.EndsMonth
      omega
  · rintro ⟨day, after, hday', hcount, hafter, hone⟩
    obtain ⟨_, rfl⟩ := Date.ofDay?_eq_some_iff.mp hday'
    have hsame : t.utcSecond = -1 ∨ t.utcSecond = 86399 := by omega
    refine ⟨hsame, ?_⟩
    rcases hsame with hsame | hsame
    · have hafter' : t.secondsFrom t.date.daysSinceEpoch / 86400 + 1 = t.date.daysSinceEpoch := by
        omega
      rw [hafter', hday, Option.some_inj] at hafter
      rw [hutc hsame, hafter, hone]
      exact .inl rfl
    · have hafter' : t.secondsFrom t.date.daysSinceEpoch / 86400 + 1 =
          t.date.daysSinceEpoch + 1 := by
        omega
      rw [hafter', hnext, Option.some_inj] at hafter
      rw [← hafter, hlast] at hone
      unfold Date.EndsMonth at hone
      rw [hlocal hsame, hone]
      exact .inr (by omega)

/-! ### Acceptance -/

theorem check_eq_ok_iff {t : DateTime} : t.check = .ok () ↔ t.date.IsValid ∧ t.hour ≤ 23 ∧
    t.minute ≤ 59 ∧ t.countedSecond ≤ 59 ∧ (t.isLeap → t.endsMonthInUtc) := by
  unfold check Date.IsValid
  have hleap : (if t.isLeap && !t.endsMonthInUtc then .error (.outOfRange .second) else pure ()) =
      (.ok () : Except Fault Unit) ↔ (t.isLeap → t.endsMonthInUtc) := by
    cases t.isLeap <;> cases t.endsMonthInUtc <;> simp [pure, Except.pure]
  simp only [guard_eq_ok_iff, hleap]
  constructor
  · rintro ⟨hmonth, hday, hhour, hminute, hsecond, hend⟩
    exact ⟨by omega, by omega, by omega, by omega, hend⟩
  · rintro ⟨hdate, hhour, hminute, hsecond, hend⟩
    exact ⟨by omega, by omega, by omega, by omega, by omega, hend⟩

/-- The test of the second lets a leap second through where a month ends. -/
theorem second_iff (t : DateTime) :
    t.countedSecond ≤ 59 ∧ (t.isLeap → t.endsMonthInUtc) ↔
      t.second ≤ 59 ∨ t.second = 60 ∧ t.endsMonthInUtc := by
  unfold countedSecond isLeap
  by_cases hsecond : t.second = 60
  · simp [hsecond]
  · simp [hsecond]

/-- The texts that are accepted are those of valid date-times. -/
theorem ofList_eq_ok_iff {t : DateTime} {text : List Char} :
    ofList text = .ok t ↔ t.IsWritten text ∧ t.IsValid := by
  have hread : ofList text = .ok t ↔ t.IsWritten text ∧ t.check = .ok () := by
    unfold ofList
    simp only [bind_eq_ok_iff, read_eq_ok_iff]
    constructor
    · rintro ⟨_, hwritten, _, hcheck, h⟩
      cases h
      exact ⟨hwritten, hcheck⟩
    · rintro ⟨hwritten, hcheck⟩
      exact ⟨t, hwritten, (), hcheck, rfl⟩
  rw [hread, check_eq_ok_iff]
  apply and_congr_right
  intro hwritten
  obtain ⟨hhours, hminutes⟩ := hwritten.offset_le
  have hfits := hwritten.fits
  constructor
  · rintro ⟨hdate, hhour, hminute, hsecond⟩
    have hyear := hfits.year
    have hend := endsMonthInUtc_iff hdate hhour hminute hsecond.1 hhours hminutes
    rw [second_iff, hend] at hsecond
    exact ⟨by omega, hdate, hhour, hminute, hsecond, hfits.fraction, hhours, hminutes⟩
  · intro hvalid
    have hend := endsMonthInUtc_iff hvalid.date hvalid.hour hvalid.minute hvalid.countedSecond_le
      hhours hminutes
    have hsecond := hvalid.second
    rw [← hend, ← second_iff] at hsecond
    exact ⟨hvalid.date, hvalid.hour, hvalid.minute, hsecond⟩

/-! ### Instants -/

/-- The nanoseconds of the second: the fraction cut after nine digits, or the last one if
    this is a leap second. -/
def nanoseconds (t : DateTime) : Nat :=
  if t.second = 60 then 999999999 else digitsValue t.fraction * 10 ^ 9 / 10 ^ t.fraction.length

/-- Whether a date-time is so many nanoseconds after 1970-01-01T00:00:00Z. -/
def IsAt (t : DateTime) (instant : Int) : Prop :=
  ∃ day, Date.ofDay? day = some t.date ∧
    instant = t.secondsFrom day * 1000000000 + t.nanoseconds

/-- The first nine digits of a fraction are the whole nanoseconds in it. -/
theorem digitsValue_take_nine {digits : List Char} (h : ∀ c ∈ digits, c.isDigit) :
    digitsValue (digits.take 9) * 10 ^ (9 - digits.length) =
      digitsValue digits * 10 ^ 9 / 10 ^ digits.length := by
  rcases Nat.le_total digits.length 9 with hle | hge
  · rw [List.take_of_length_le hle]
    have hpow : 10 ^ 9 = 10 ^ (9 - digits.length) * 10 ^ digits.length := by
      rw [← Nat.pow_add, Nat.sub_add_cancel hle]
    rw [hpow, ← Nat.mul_assoc, Nat.mul_div_cancel _ (Nat.pow_pos (by decide))]
  · -- the digits behind the ninth are less than one in its place
    have hsplit := digitsValue_append (digits.take 9) (digits.drop 9)
    have hrest : digitsValue (digits.drop 9) < 10 ^ (digits.drop 9).length :=
      digitsValue_lt fun c hc => h c (List.mem_of_mem_drop hc)
    rw [List.take_append_drop] at hsplit
    rw [List.length_drop] at hsplit hrest
    have hpow : 10 ^ digits.length = 10 ^ (digits.length - 9) * 10 ^ 9 := by
      rw [← Nat.pow_add, Nat.sub_add_cancel hge]
    rw [Nat.sub_eq_zero_of_le hge, Nat.pow_zero, Nat.mul_one, hpow,
      Nat.mul_div_mul_right _ _ (Nat.pow_pos (by decide)), hsplit, Nat.mul_add_div (Nat.pow_pos (by decide)),
      Nat.div_eq_of_lt hrest, Nat.add_zero]

theorem nanoseconds_lt {t : DateTime} (h : ∀ c ∈ t.fraction, c.isDigit) :
    t.nanoseconds < 1000000000 := by
  unfold nanoseconds
  split
  · decide
  · apply Nat.div_lt_of_lt_mul
    exact Nat.mul_lt_mul_of_pos_right (digitsValue_lt h) (by decide)

theorem nanosecond_eq {t : DateTime} (h : ∀ c ∈ t.fraction, c.isDigit) :
    t.nanosecond = t.nanoseconds := by
  unfold nanosecond nanoseconds isLeap
  by_cases hsecond : t.second = 60
  · simp [hsecond]
  · simpa [hsecond] using digitsValue_take_nine h

/-- A valid date-time is at one instant, the one that is computed. -/
theorem isAt_iff {t : DateTime} (h : t.IsValid) {instant : Int} :
    t.IsAt instant ↔ instant = t.instant := by
  have hnanosecond := nanosecond_eq h.fraction
  have hseconds := t.utcSecond_eq t.date.daysSinceEpoch
  unfold IsAt DateTime.instant
  rw [hseconds, hnanosecond]
  constructor
  · rintro ⟨day, hday, rfl⟩
    obtain ⟨_, rfl⟩ := Date.ofDay?_eq_some_iff.mp hday
    rfl
  · rintro rfl
    exact ⟨_, Date.ofDay?_eq_some_iff.mpr ⟨h.date, rfl⟩, rfl⟩

end DateTime

end Rfc3339

end SearchQuery
