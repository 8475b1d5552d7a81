import SearchQuery.Error
import SearchQuery.Proofs.Text.FixedDigits
import SearchQuery.Proofs.Text.NumberToken
import SearchQuery.Timestamp.Rfc3339

/-! # The grammar of date-times

  `DateTime.format` writes a date-time down, with some character between date and time and
  some spelling of its offset. `DateTime.read` accepts exactly the texts that come from
  this, and it gives the date-time back.

  Each reader of a part has a lemma that says which texts it accepts and what it leaves.
  Digits of a fixed count, single characters and offsets end by themselves; a fraction goes
  on as long as there are digits, so it depends on what follows.
-/

namespace SearchQuery

namespace Rfc3339

/-! ### Parts of fixed form -/

theorem readFixed_eq_ok_iff {component : Component} {count n : Nat} {text rest : List Char} :
    readFixed component count text = .ok (n, rest) ↔
      n < 10 ^ count ∧ text = fixedDigits count n ++ rest := by
  unfold readFixed
  dsimp only
  constructor
  · intro h
    split at h
    · next hdigits =>
      obtain ⟨hlength, hall⟩ := hdigits
      obtain ⟨rfl, rfl⟩ := Prod.mk.inj (Except.ok.inj h)
      have hisDigit := List.all_eq_true.mp hall
      have hlt := digitsValue_lt hisDigit
      have hrun := fixedDigits_digitsValue hisDigit
      rw [hlength] at hlt hrun
      exact ⟨hlt, by rw [hrun, List.take_append_drop]⟩
    · cases h
  · rintro ⟨hlt, rfl⟩
    have htake : (fixedDigits count n ++ rest).take count = fixedDigits count n :=
      List.take_left' (length_fixedDigits count n)
    have hdrop : (fixedDigits count n ++ rest).drop count = rest :=
      List.drop_left' (length_fixedDigits count n)
    have hall : (fixedDigits count n).all Char.isDigit :=
      List.all_eq_true.mpr fun _ => isDigit_of_mem_fixedDigits
    rw [htake, hdrop, if_pos ⟨length_fixedDigits count n, hall⟩, digitsValue_fixedDigits hlt]

theorem readMark_eq_ok_iff {mark : Char} {text rest : List Char} :
    readMark mark text = .ok rest ↔ text = mark :: rest := by
  cases text with
  | nil => simp [readMark]
  | cons c text =>
    by_cases hc : c = mark <;> simp [readMark, hc]

theorem readMonth_eq_ok_iff {n : Nat} {text rest : List Char} :
    readMonth text = .ok (n, rest) ↔ n ≠ 0 ∧ n < 10 ^ 2 ∧ text = fixedDigits 2 n ++ rest := by
  unfold readMonth
  simp only [bind_eq_ok_iff, Prod.exists, readFixed_eq_ok_iff]
  constructor
  · rintro ⟨month, text', hread, h⟩
    split at h
    · cases h
    · next hne =>
      cases h
      exact ⟨hne, hread⟩
  · rintro ⟨hne, hread⟩
    exact ⟨n, rest, hread, if_neg hne⟩

/-- Any one ASCII character separates date and time. -/
theorem readSeparator_eq_ok_iff {text rest : List Char} :
    readSeparator text = .ok rest ↔ ∃ c, c.toNat < 128 ∧ text = c :: rest := by
  cases text with
  | nil => simp [readSeparator]
  | cons c text =>
    by_cases hc : c.toNat < 128
    · simp [readSeparator, hc]
    · simp only [readSeparator, if_neg hc, reduceCtorEq, false_iff]
      rintro ⟨d, hd, heq⟩
      rw [← (List.cons.inj heq).1] at hd
      exact hc hd

/-! ### Fractions -/

/-- The digits of a fraction behind their point, or nothing if there are none. -/
def fractionText : List Char → List Char
  | [] => []
  | digits => '.' :: digits

/-- Whether a fraction is over where this text starts. -/
def EndsFraction (rest : List Char) : Prop :=
  ∀ c ∈ rest.head?, c.isDigit = false ∧ c ≠ '.'

theorem readFraction_fractionText {digits rest : List Char} (hdigits : ∀ c ∈ digits, c.isDigit)
    (hrest : EndsFraction rest) :
    readFraction (fractionText digits ++ rest) = .ok (digits, rest) := by
  cases digits with
  | nil =>
    cases rest with
    | nil => rfl
    | cons c rest =>
      have hc : c ≠ '.' := (hrest c rfl).2
      rw [fractionText, List.nil_append]
      unfold readFraction
      split
      · next heq => exact absurd (List.cons.inj heq).1 hc
      · rfl
  | cons digit digits =>
    have hread := NumberToken.readDigits_append
      ⟨digit :: digits, List.cons_ne_nil digit digits, hdigits⟩ fun c hc => (hrest c hc).1
    simp only [fractionText, readFraction, List.cons_append] at hread ⊢
    rw [hread]

theorem eq_of_readFraction {text digits rest : List Char}
    (h : readFraction text = .ok (digits, rest)) :
    (∀ c ∈ digits, c.isDigit) ∧ text = fractionText digits ++ rest := by
  unfold readFraction at h
  split at h
  · next tail =>
    -- the run of digits behind the point
    unfold readDigits at h
    have hsplit := List.takeWhile_append_dropWhile (p := Char.isDigit) (l := tail)
    cases htake : tail.takeWhile Char.isDigit with
    | nil => simp [htake] at h
    | cons digit run =>
      simp only [htake, Except.ok.injEq, Prod.mk.injEq] at h
      obtain ⟨rfl, rfl⟩ := h
      have hall : (digit :: run).all Char.isDigit := htake ▸ List.all_takeWhile
      rw [htake] at hsplit
      refine ⟨List.all_eq_true.mp hall, ?_⟩
      rw [fractionText, List.cons_append, hsplit]
      exact List.cons_ne_nil digit run
  · cases h
    refine ⟨?_, rfl⟩
    intro c hc
    cases hc

/-! ### Offsets -/

/-- How an offset is written. UTC has a letter, and it may be written as any other offset. -/
inductive Offset.IsSpelled : Offset → List Char → Prop where
  | letter {c : Char} (hc : c = 'Z' ∨ c = 'z') : IsSpelled ⟨false, 0, 0⟩ [c]
  | signed (behind : Bool) {hours minutes : Nat} (hhours : hours ≤ 23) (hminutes : minutes ≤ 59) :
    IsSpelled ⟨behind, hours, minutes⟩
      ((if behind then '-' else '+') :: fixedDigits 2 hours ++ ':' :: fixedDigits 2 minutes)

/-- An offset starts with a letter or a sign. -/
theorem Offset.IsSpelled.endsFraction {offset : Offset} {text : List Char}
    (h : offset.IsSpelled text) (rest : List Char) : EndsFraction (text ++ rest) := by
  intro c hc
  cases h with
  | letter hletter =>
    obtain rfl := Option.some.inj hc
    rcases hletter with rfl | rfl <;> decide
  | signed behind _ _ =>
    obtain rfl := Option.some.inj hc
    cases behind <;> decide

theorem Offset.IsSpelled.le {offset : Offset} {text : List Char} (h : offset.IsSpelled text) :
    offset.hours ≤ 23 ∧ offset.minutes ≤ 59 := by
  cases h with
  | letter _ => exact ⟨Nat.zero_le 23, Nat.zero_le 59⟩
  | signed _ hhours hminutes => exact ⟨hhours, hminutes⟩

theorem Offset.readSigned_eq_ok_iff {behind : Bool} {offset : Offset} {text rest : List Char} :
    Offset.readSigned behind text = .ok (offset, rest) ↔
      ∃ hours minutes, hours ≤ 23 ∧ minutes ≤ 59 ∧ offset = ⟨behind, hours, minutes⟩ ∧
        text = fixedDigits 2 hours ++ ':' :: fixedDigits 2 minutes ++ rest := by
  unfold Offset.readSigned
  simp only [bind_eq_ok_iff, guard_eq_ok_iff, Prod.exists, readFixed_eq_ok_iff, readMark_eq_ok_iff,
    Nat.not_lt]
  constructor
  · rintro ⟨hours, _, ⟨_, rfl⟩, hhours, _, rfl, minutes, _, ⟨_, rfl⟩, hminutes, h⟩
    obtain ⟨rfl, rfl⟩ := Prod.mk.inj (Except.ok.inj h)
    exact ⟨hours, minutes, hhours, hminutes, rfl, by simp⟩
  · rintro ⟨hours, minutes, hhours, hminutes, rfl, rfl⟩
    refine ⟨hours, _, ⟨by omega, List.append_assoc _ _ _⟩, hhours, _, rfl, minutes, _,
      ⟨by omega, rfl⟩, hminutes, rfl⟩

theorem Offset.read_eq_ok_iff {offset : Offset} {text rest : List Char} :
    Offset.read text = .ok (offset, rest) ↔
      ∃ spelling, offset.IsSpelled spelling ∧ text = spelling ++ rest := by
  constructor
  · intro h
    unfold Offset.read at h
    split at h
    · cases h
      exact ⟨['Z'], .letter (.inl rfl), rfl⟩
    · cases h
      exact ⟨['z'], .letter (.inr rfl), rfl⟩
    · obtain ⟨hours, minutes, hhours, hminutes, rfl, rfl⟩ := Offset.readSigned_eq_ok_iff.mp h
      exact ⟨_, .signed false hhours hminutes, rfl⟩
    · obtain ⟨hours, minutes, hhours, hminutes, rfl, rfl⟩ := Offset.readSigned_eq_ok_iff.mp h
      exact ⟨_, .signed true hhours hminutes, rfl⟩
    · cases h
  · rintro ⟨spelling, hspelling, rfl⟩
    cases hspelling with
    | letter hletter => rcases hletter with rfl | rfl <;> rfl
    | signed behind hhours hminutes =>
      cases behind with
      | false => exact Offset.readSigned_eq_ok_iff.mpr ⟨_, _, hhours, hminutes, rfl, rfl⟩
      | true => exact Offset.readSigned_eq_ok_iff.mpr ⟨_, _, hhours, hminutes, rfl, rfl⟩

/-! ### Date-times -/

namespace DateTime

/-- A date-time as a text, with a character between date and time and a spelling of its
    offset. -/
def format (t : DateTime) (separator : Char) (offset : List Char) : List Char :=
  fixedDigits 4 t.date.year ++ '-' :: fixedDigits 2 t.date.month ++ '-' :: fixedDigits 2 t.date.day ++
    separator :: fixedDigits 2 t.hour ++ ':' :: fixedDigits 2 t.minute ++ ':' ::
    fixedDigits 2 t.second ++ fractionText t.fraction ++ offset

/-- Whether the numbers of a date-time have room in a text. -/
structure Fits (t : DateTime) : Prop where
  year : t.date.year < 10 ^ 4
  month_ne_zero : t.date.month ≠ 0
  month : t.date.month < 10 ^ 2
  day : t.date.day < 10 ^ 2
  hour : t.hour < 10 ^ 2
  minute : t.minute < 10 ^ 2
  second : t.second < 10 ^ 2
  fraction : ∀ c ∈ t.fraction, c.isDigit

/-- Whether a text is a date-time by the grammar. -/
structure IsWritten (t : DateTime) (text : List Char) : Prop where
  fits : t.Fits
  form : ∃ separator offset, separator.toNat < 128 ∧ t.offset.IsSpelled offset ∧
    text = t.format separator offset

theorem IsWritten.offset_le {t : DateTime} {text : List Char} (h : t.IsWritten text) :
    t.offset.hours ≤ 23 ∧ t.offset.minutes ≤ 59 := by
  obtain ⟨_, _, _, hoffset, _⟩ := h.form
  exact hoffset.le

theorem readFront_eq_ok_iff {t : DateTime} {text rest : List Char} :
    readFront text = .ok (t, rest) ↔
      t.Fits ∧ ∃ separator offset, separator.toNat < 128 ∧ t.offset.IsSpelled offset ∧
        text = t.format separator offset ++ rest := by
  unfold readFront
  simp only [bind_eq_ok_iff, Prod.exists, readFixed_eq_ok_iff, readMark_eq_ok_iff,
    readMonth_eq_ok_iff, readSeparator_eq_ok_iff, Offset.read_eq_ok_iff]
  constructor
  · rintro ⟨year, _, ⟨hyear, rfl⟩, _, rfl, month, _, ⟨hmonth, hmonth', rfl⟩, _, rfl, day, _,
      ⟨hday, rfl⟩, _, ⟨separator, hseparator, rfl⟩, hour, _, ⟨hhour, rfl⟩, _, rfl, minute, _,
      ⟨hminute, rfl⟩, _, rfl, second, _, ⟨hsecond, rfl⟩, fraction, _, hread, offset, _,
      ⟨spelling, hspelling, rfl⟩, h⟩
    obtain ⟨rfl, rfl⟩ := Prod.mk.inj (Except.ok.inj h)
    obtain ⟨hfraction, rfl⟩ := eq_of_readFraction hread
    refine ⟨⟨hyear, hmonth, hmonth', hday, hhour, hminute, hsecond, hfraction⟩, separator, spelling,
      hseparator, hspelling, ?_⟩
    simp [format]
  · rintro ⟨hfits, separator, spelling, hseparator, hspelling, rfl⟩
    have hfraction := readFraction_fractionText hfits.fraction (hspelling.endsFraction rest)
    refine ⟨t.date.year, _, ⟨hfits.year, ?_⟩, _, rfl, t.date.month, _,
      ⟨hfits.month_ne_zero, hfits.month, rfl⟩, _, rfl, t.date.day, _, ⟨hfits.day, rfl⟩, _,
      ⟨separator, hseparator, rfl⟩, t.hour, _, ⟨hfits.hour, rfl⟩, _, rfl, t.minute, _,
      ⟨hfits.minute, rfl⟩, _, rfl, t.second, _, ⟨hfits.second, rfl⟩, t.fraction, _, hfraction,
      t.offset, rest, ⟨spelling, hspelling, rfl⟩, rfl⟩
    simp [format]

/-- A text is read as a date-time exactly if it is one by the grammar. -/
theorem read_eq_ok_iff {t : DateTime} {text : List Char} :
    read text = .ok t ↔ t.IsWritten text := by
  unfold read
  simp only [bind_eq_ok_iff, Prod.exists, readFront_eq_ok_iff]
  constructor
  · rintro ⟨_, rest, ⟨hfits, separator, offset, hseparator, hoffset, rfl⟩, h⟩
    split at h
    · next hempty =>
      obtain rfl := List.isEmpty_iff.mp hempty
      cases h
      exact ⟨hfits, separator, offset, hseparator, hoffset, by rw [List.append_nil]⟩
    · cases h
  · rintro ⟨hfits, separator, offset, hseparator, hoffset, rfl⟩
    exact ⟨t, [], ⟨hfits, separator, offset, hseparator, hoffset, by rw [List.append_nil]⟩, rfl⟩

end DateTime

end Rfc3339

end SearchQuery
