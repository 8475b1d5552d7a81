import Mathlib.Algebra.Order.Group.Unbundled.Int
import SearchQuery.Proofs.Timestamp.Instant
import SearchQuery.Timestamp

/-! # The timestamps of date-times

  A date-time is accepted exactly if it has the form of one and its numbers are possible.
  Its timestamp is its instant in milliseconds, cut toward the epoch. Every instant of a
  date-time is well within the range of timestamps, so none is refused for being out of range,
  nothing else is lost, and later instants never have earlier timestamps.
-/

namespace SearchQuery

/-! ### Cutting toward the epoch -/

/-- Cutting loses less than one unit. -/
theorem abs_tdiv_mul_sub_lt (n : Int) : |n.tdiv 1000000 * 1000000 - n| < 1000000 := by
  have hdiv := Int.mul_tdiv_add_tmod n 1000000
  have hrest := Int.tmod_lt_of_pos n (by decide : (0 : Int) < 1000000)
  have hrest' := Int.lt_tmod_of_pos n (by decide : (0 : Int) < 1000000)
  rw [abs_lt]
  omega

/-- An instant has the timestamp with the number of its milliseconds, and no other. -/
theorem Timestamp.ofInstant_eq_ok_iff {nanoseconds : Int} {timestamp : Timestamp} :
    ofInstant nanoseconds = .ok timestamp ↔
      timestamp.millis.toInt = nanoseconds.tdiv 1000000 := by
  have hlow : -Int.pow 2 63 ≤ timestamp.millis.toInt := timestamp.millis.le_toInt
  have hhigh : timestamp.millis.toInt < Int.pow 2 63 := timestamp.millis.toInt_lt
  unfold ofInstant
  constructor
  · intro h
    dsimp only at h
    split at h
    · next hfits =>
      rw [← Except.ok.inj h]
      exact Int64.toInt_ofInt_of_le hfits.1 hfits.2
    · cases h
  · intro h
    rw [← h]
    dsimp only
    rw [if_pos ⟨hlow, hhigh⟩, Int64.ofInt_toInt]

namespace Rfc3339

namespace DateTime

/-- The instants of date-times are well within the range of timestamps. -/
theorem IsValid.instant_bounds {t : DateTime} (h : t.IsValid) :
    -2 ^ 63 ≤ t.instant.tdiv 1000000 ∧ t.instant.tdiv 1000000 < 2 ^ 63 := by
  have hday := Date.daysSinceEpoch_bounds h.date h.year
  have hsecond := utcSecond_bounds h.hour h.minute h.countedSecond_le h.offsetHours h.offsetMinutes
  have hnanosecond := nanoseconds_lt h.fraction
  rw [← nanosecond_eq h.fraction] at hnanosecond
  have hinstant : -400000000000000000000 < t.instant ∧ t.instant < 400000000000000000000 := by
    unfold DateTime.instant
    omega
  have hcut := abs_lt.mp (abs_tdiv_mul_sub_lt t.instant)
  omega

/-- So the instant of a date-time always has a timestamp. -/
theorem IsValid.exists_ofInstant {t : DateTime} (h : t.IsValid) :
    ∃ timestamp, Timestamp.ofInstant t.instant = .ok timestamp := by
  obtain ⟨hlow, hhigh⟩ := h.instant_bounds
  exact ⟨_, if_pos ⟨hlow, hhigh⟩⟩

theorem ofRfc3339_eq_ok_iff {text : String} {timestamp : Timestamp} :
    Timestamp.ofRfc3339 text = .ok timestamp ↔
      ∃ t : DateTime, t.IsWritten text.toList ∧ t.IsValid ∧
        Timestamp.ofInstant t.instant = .ok timestamp := by
  unfold Timestamp.ofRfc3339
  simp only [bind_eq_ok_iff, mapError_eq_ok_iff, ofList_eq_ok_iff, and_assoc]

/-- A text is one date-time at most. -/
theorem IsWritten.unique {t t' : DateTime} {text : List Char} (h : t.IsWritten text)
    (h' : t'.IsWritten text) : t = t' := by
  have hread := read_eq_ok_iff.mpr h
  rw [read_eq_ok_iff.mpr h', Except.ok.injEq] at hread
  exact hread.symm

end DateTime

end Rfc3339

namespace Timestamp

open Rfc3339

/-- What has no timestamp is no date-time: the range of timestamps is never left. -/
theorem ofRfc3339_eq_error_iff {text : String} {fault : Fault} :
    ofRfc3339 text = .error fault ↔
      ∃ cause, DateTime.ofList text.toList = .error cause ∧ fault = .notDateTime cause := by
  unfold ofRfc3339
  cases hread : DateTime.ofList text.toList with
  | error cause => simp [Except.mapError, bind, Except.bind, eq_comm]
  | ok t =>
    obtain ⟨timestamp, htimestamp⟩ := (DateTime.ofList_eq_ok_iff.mp hread).2.exists_ofInstant
    simp [Except.mapError, bind, Except.bind, htimestamp]

/-- What is accepted as a date-time, and what its timestamp is. -/
theorem ofRfc3339_truncated :
    -- a text is accepted exactly if it has the form of a date-time and its numbers are possible
    (∀ text : String, (∃ timestamp, ofRfc3339 text = .ok timestamp) ↔
      ∃ t : DateTime, t.IsWritten text.toList ∧ t.IsValid) ∧
    -- no text is refused for being out of range
    (∀ text : String, ofRfc3339 text ≠ .error .outOfRange) ∧
    -- it has one instant then, and its timestamp is this instant in milliseconds, cut toward
    -- the epoch, which is in range
    (∀ (text : String) (t : DateTime), t.IsWritten text.toList → t.IsValid →
      ∃ instant timestamp, t.IsAt instant ∧ (∀ other, t.IsAt other → other = instant) ∧
        ofRfc3339 text = .ok timestamp ∧
        timestamp.millis.toInt = instant.tdiv 1000000 ∧
        -2 ^ 63 ≤ instant.tdiv 1000000 ∧ instant.tdiv 1000000 < 2 ^ 63 ∧
        |timestamp.millis.toInt * 1000000 - instant| < 1000000) ∧
    -- of two date-times the earlier one never has the greater timestamp
    (∀ (text text' : String) (t t' : DateTime) (instant instant' : Int)
      (timestamp timestamp' : Timestamp), t.IsWritten text.toList → t'.IsWritten text'.toList →
      t.IsAt instant → t'.IsAt instant' → instant ≤ instant' →
      ofRfc3339 text = .ok timestamp → ofRfc3339 text' = .ok timestamp' →
      timestamp.millis ≤ timestamp'.millis) := by
  refine ⟨?_, ?_, ?_, ?_⟩
  · intro text
    simp only [DateTime.ofRfc3339_eq_ok_iff]
    constructor
    · rintro ⟨_, t, hwritten, hvalid, -⟩
      exact ⟨t, hwritten, hvalid⟩
    · rintro ⟨t, hwritten, hvalid⟩
      obtain ⟨timestamp, htimestamp⟩ := hvalid.exists_ofInstant
      exact ⟨timestamp, t, hwritten, hvalid, htimestamp⟩
  · intro text hrange
    obtain ⟨cause, -, hcause⟩ := ofRfc3339_eq_error_iff.mp hrange
    cases hcause
  · intro text t hwritten hvalid
    obtain ⟨timestamp, htimestamp⟩ := hvalid.exists_ofInstant
    have hmillis := ofInstant_eq_ok_iff.mp htimestamp
    refine ⟨t.instant, timestamp, (DateTime.isAt_iff hvalid).mpr rfl,
      fun other hother => (DateTime.isAt_iff hvalid).mp hother,
      DateTime.ofRfc3339_eq_ok_iff.mpr ⟨t, hwritten, hvalid, htimestamp⟩, hmillis,
      hvalid.instant_bounds.1, hvalid.instant_bounds.2, ?_⟩
    rw [hmillis]
    exact abs_tdiv_mul_sub_lt t.instant
  · intro text text' t t' instant instant' timestamp timestamp' hwritten hwritten' hat hat' hle
      hread hread'
    obtain ⟨_, hwritten₁, hvalid, htimestamp⟩ := DateTime.ofRfc3339_eq_ok_iff.mp hread
    obtain ⟨_, hwritten₁', hvalid', htimestamp'⟩ := DateTime.ofRfc3339_eq_ok_iff.mp hread'
    obtain rfl := hwritten.unique hwritten₁
    obtain rfl := hwritten'.unique hwritten₁'
    rw [DateTime.isAt_iff hvalid] at hat
    rw [DateTime.isAt_iff hvalid'] at hat'
    rw [Int64.le_iff_toInt_le, ofInstant_eq_ok_iff.mp htimestamp,
      ofInstant_eq_ok_iff.mp htimestamp', ← hat, ← hat']
    exact Int.tdiv_le_tdiv (by decide) hle

/-- The leap second at the end of 2016, by a clock that is an hour ahead of UTC. It comes
    before the first second of 2017, and both lose what they have below a millisecond. -/
theorem ofRfc3339_truncated_leap :
    ofRfc3339 "2017-01-01T00:59:60.25+01:00" = .ok ⟨1483228799999⟩ ∧
      ofRfc3339 "2017-01-01 00:00:00.0009Z" = .ok ⟨1483228800000⟩ ∧
      (1483228799999 : Int64) ≤ 1483228800000 := by
  let leap : DateTime := ⟨⟨2017, 1, 1⟩, 0, 59, 60, ['2', '5'], ⟨false, 1, 0⟩⟩
  let later : DateTime := ⟨⟨2017, 1, 1⟩, 0, 0, 0, ['0', '0', '0', '9'], ⟨false, 0, 0⟩⟩
  have hday : Date.ofDay? 17167 = some ⟨2017, 1, 1⟩ := Date.ofDay?_eq_some_iff.mpr (by decide)
  have hafter : leap.secondsFrom 17167 / 86400 + 1 = 17167 := by decide
  have hleapEnds : leap.EndsMonth :=
    ⟨17167, ⟨2017, 1, 1⟩, hday, by decide, by rw [hafter]; exact hday, rfl⟩
  have hleapValid : leap.IsValid :=
    ⟨by decide, by decide, by decide, by decide, .inr ⟨rfl, hleapEnds⟩,
      List.all_eq_true.mp rfl, by decide, by decide⟩
  have hlaterValid : later.IsValid :=
    ⟨by decide, by decide, by decide, by decide, .inl (by decide),
      List.all_eq_true.mp rfl, by decide, by decide⟩
  have hleapWritten : leap.IsWritten "2017-01-01T00:59:60.25+01:00".toList :=
    ⟨hleapValid.fits, 'T', _, by decide, .signed false (by decide) (by decide), by decide +kernel⟩
  have hlaterWritten : later.IsWritten "2017-01-01 00:00:00.0009Z".toList :=
    ⟨hlaterValid.fits, ' ', _, by decide, .letter (.inl rfl), by decide +kernel⟩
  have hleapAt : leap.IsAt 1483228799999999999 := ⟨17167, hday, by decide⟩
  have hlaterAt : later.IsAt 1483228800000900000 := ⟨17167, hday, by decide⟩
  obtain ⟨_, _, hresult, hordered⟩ := ofRfc3339_truncated
  obtain ⟨_, ⟨millis⟩, _, hunique, hread, hmillis, _⟩ := hresult _ leap hleapWritten hleapValid
  obtain ⟨_, ⟨millis'⟩, _, hunique', hread', hmillis', _⟩ :=
    hresult _ later hlaterWritten hlaterValid
  rw [← hunique _ hleapAt] at hmillis
  rw [← hunique' _ hlaterAt] at hmillis'
  have heq : millis = 1483228799999 := Int64.toInt_inj.mp hmillis
  have heq' : millis' = 1483228800000 := Int64.toInt_inj.mp hmillis'
  rw [heq] at hread
  rw [heq'] at hread'
  exact ⟨hread, hread', hordered _ _ _ _ _ _ _ _ hleapWritten hlaterWritten hleapAt hlaterAt
    (by decide) hread hread'⟩

end Timestamp

end SearchQuery
