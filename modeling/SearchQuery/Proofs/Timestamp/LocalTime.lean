import Mathlib.Tactic.Ring
import SearchQuery.Proofs.Timestamp.Truncation

/-! # Timestamps as local times

  A clock with some offset from UTC shows a date and a time of day at every timestamp from
  year zero on. Written down with its milliseconds and its offset, this local time has the
  timestamp that it was shown at.

  So the texts of one timestamp all agree, with whatever offset and however many zeros at
  the end of the fraction they are written.
-/

namespace SearchQuery

namespace Rfc3339

/-! ### Fractions -/

/-- Whether the digits of a fraction are these milliseconds: three digits, and zeros behind
    them. There may be none at all for zero. -/
inductive IsMillisFraction : Nat → List Char → Prop where
  | absent : IsMillisFraction 0 []
  | padded (millis zeros : Nat) :
    IsMillisFraction millis (fixedDigits 3 millis ++ List.replicate zeros '0')

theorem IsMillisFraction.isDigit {millis : Nat} {fraction : List Char}
    (h : IsMillisFraction millis fraction) : ∀ c ∈ fraction, c.isDigit := by
  intro c hc
  cases h with
  | absent => cases hc
  | padded millis zeros =>
    rcases List.mem_append.mp hc with hc | hc
    · exact isDigit_of_mem_fixedDigits hc
    · exact DigitRun.isDigit_of_mem_replicate hc

/-- Zeros at the end of a fraction do not change what it is worth. -/
theorem IsMillisFraction.digitsValue_div {millis : Nat} {fraction : List Char}
    (h : IsMillisFraction millis fraction) (hmillis : millis < 1000) :
    digitsValue fraction * 10 ^ 9 / 10 ^ fraction.length = millis * 1000000 := by
  cases h with
  | absent => rfl
  | padded millis zeros =>
    rw [digitsValue_append, digitsValue_fixedDigits hmillis, digitsValue_replicate_zero,
      List.length_append, length_fixedDigits, List.length_replicate, Nat.add_zero]
    have hshift : 10 ^ zeros * millis * 10 ^ 9 = millis * 1000000 * 10 ^ (3 + zeros) := by
      rw [Nat.pow_add]
      ring
    rw [hshift, Nat.mul_div_cancel _ (Nat.pow_pos (by decide))]

namespace DateTime

/-! ### Clocks -/

/-- What a clock shows so many milliseconds after 1970-01-01T00:00:00Z, if it is ahead of
    UTC by this offset. It has no date before year zero. -/
def local? (millis : Int) (offset : Offset) (fraction : List Char) : Option DateTime :=
  let clock := millis / 1000 + offset.seconds
  let second := (clock % 86400).toNat
  (Date.ofDay? (clock / 86400)).map fun date =>
    { date, hour := second / 3600, minute := second / 60 % 60, second := second % 60, fraction, offset }

/-- A clock shows a possible time, and it tells when it shows it. -/
theorem exists_day_of_local? {millis : Int} {offset : Offset} {fraction : List Char} {t : DateTime}
    (h : local? millis offset fraction = some t) :
    t.offset = offset ∧ t.fraction = fraction ∧ t.hour ≤ 23 ∧ t.minute ≤ 59 ∧ t.second ≤ 59 ∧
      ∃ day, Date.ofDay? day = some t.date ∧ t.secondsFrom day = millis / 1000 := by
  obtain ⟨date, hdate, rfl⟩ := Option.map_eq_some_iff.mp h
  refine ⟨rfl, rfl, by simp only; omega, by simp only; omega, by simp only; omega, _, hdate, ?_⟩
  unfold secondsFrom standInSecond
  rw [if_neg (by simp only; omega)]
  simp only
  omega

theorem isValid_of_local? {millis : Int} {offset : Offset} {fraction spelling : List Char} {t : DateTime}
    (h : local? millis offset fraction = some t) (hyear : t.date.year ≤ 9999)
    (hfraction : ∀ c ∈ fraction, c.isDigit) (hspelling : offset.IsSpelled spelling) : t.IsValid := by
  obtain ⟨rfl, rfl, hhour, hminute, hsecond, day, hday, _⟩ := exists_day_of_local? h
  have hdate := (Date.ofDay?_eq_some_iff.mp hday).1
  exact ⟨hyear, hdate, hhour, hminute, .inl hsecond, hfraction, hspelling.le.1, hspelling.le.2⟩

/-- With its milliseconds a local time is at the instant when it is shown. -/
theorem isAt_of_local? {millis : Int} {offset : Offset} {fraction : List Char} {t : DateTime}
    (h : local? millis offset fraction = some t)
    (hfraction : IsMillisFraction (millis % 1000).toNat fraction) : t.IsAt (millis * 1000000) := by
  obtain ⟨_, rfl, _, _, hsecond, day, hday, hclock⟩ := exists_day_of_local? h
  refine ⟨day, hday, ?_⟩
  have hvalue := hfraction.digitsValue_div (by omega)
  unfold nanoseconds
  rw [if_neg (by omega), hvalue, hclock]
  omega

end DateTime

end Rfc3339

namespace Timestamp

open Rfc3339

/-! ### Texts of a timestamp -/

/-- Whether a text is the local time of a timestamp by some clock. The clock has an offset of
    less than a day and shows a year of four digits. -/
def IsLocalText (timestamp : Timestamp) (text : String) : Prop :=
  ∃ (offset : Offset) (spelling fraction : List Char) (separator : Char) (t : DateTime),
    DateTime.local? timestamp.millis.toInt offset fraction = some t ∧ t.date.year ≤ 9999 ∧
      IsMillisFraction (timestamp.millis.toInt % 1000).toNat fraction ∧
      offset.IsSpelled spelling ∧ (separator = 'T' ∨ separator = 't' ∨ separator = ' ') ∧
      text.toList = t.format separator spelling

theorem ofRfc3339_of_isLocalText {timestamp : Timestamp} {text : String}
    (h : timestamp.IsLocalText text) : ofRfc3339 text = .ok timestamp := by
  obtain ⟨offset, spelling, fraction, separator, t, hlocal, hyear, hfraction, hspelling,
    hseparator, htext⟩ := h
  have hvalid := DateTime.isValid_of_local? hlocal hyear hfraction.isDigit hspelling
  have hinstant := (DateTime.isAt_iff hvalid).mp (DateTime.isAt_of_local? hlocal hfraction)
  obtain ⟨rfl, _⟩ := DateTime.exists_day_of_local? hlocal
  have hascii : separator.toNat < 128 := by
    rcases hseparator with rfl | rfl | rfl <;> decide
  refine DateTime.ofRfc3339_eq_ok_iff.mpr
    ⟨t, ⟨hvalid.fits, separator, spelling, hascii, hspelling, htext⟩, hvalid, ?_⟩
  -- the instant is a whole number of milliseconds, so nothing is cut
  rw [ofInstant_eq_ok_iff, ← hinstant, Int.mul_tdiv_cancel _ (by decide)]

/-- Every local time of a timestamp is read as this timestamp, so all of them are read alike. -/
theorem ofRfc3339_local :
    (∀ (timestamp : Timestamp) (text : String), timestamp.IsLocalText text →
      ofRfc3339 text = .ok timestamp) ∧
    (∀ (timestamp : Timestamp) (text text' : String), timestamp.IsLocalText text →
      timestamp.IsLocalText text' → ofRfc3339 text = ofRfc3339 text') := by
  refine ⟨fun timestamp text htext => ofRfc3339_of_isLocalText htext, ?_⟩
  intro timestamp text text' htext htext'
  rw [ofRfc3339_of_isLocalText htext, ofRfc3339_of_isLocalText htext']

/-- Two clocks that already show year zero while it is still the year before in UTC. -/
theorem ofRfc3339_local_first :
    ofRfc3339 "0000-01-01T00:29:30.005+23:59" = .ok ⟨-62167303769995⟩ ∧
      ofRfc3339 "0000-01-01T00:29:30.005+23:59" = ofRfc3339 "0000-01-01t00:00:30.00500+23:30" := by
  have htext : IsLocalText ⟨-62167303769995⟩ "0000-01-01T00:29:30.005+23:59" :=
    ⟨⟨false, 23, 59⟩, _, ['0', '0', '5'], 'T',
      ⟨⟨0, 1, 1⟩, 0, 29, 30, ['0', '0', '5'], ⟨false, 23, 59⟩⟩,
      by decide +kernel, by decide, .padded 5 0, .signed false (by decide) (by decide), .inl rfl,
      by decide +kernel⟩
  have htext' : IsLocalText ⟨-62167303769995⟩ "0000-01-01t00:00:30.00500+23:30" :=
    ⟨⟨false, 23, 30⟩, _, ['0', '0', '5', '0', '0'], 't',
      ⟨⟨0, 1, 1⟩, 0, 0, 30, ['0', '0', '5', '0', '0'], ⟨false, 23, 30⟩⟩,
      by decide +kernel, by decide, .padded 5 2, .signed false (by decide) (by decide),
      .inr (.inl rfl), by decide +kernel⟩
  exact ⟨ofRfc3339_local.1 _ _ htext, ofRfc3339_local.2 _ _ _ htext htext'⟩

end Timestamp

end SearchQuery
