/-! # The Gregorian calendar

  Dates of the proleptic Gregorian calendar and their distance in days from
  1970-01-01. Years are counted from year zero, so none is negative.
-/

namespace SearchQuery

namespace Calendar

/-- Every fourth year is a leap year, save three of every four centuries. -/
def isLeapYear (year : Nat) : Bool :=
  year % 4 == 0 && (year % 100 != 0 || year % 400 == 0)

/-- The number of days of a month, which is counted from one. -/
def monthLength (year month : Nat) : Nat :=
  match month with
  | 2 => if isLeapYear year then 29 else 28
  | 4 | 6 | 9 | 11 => 30
  | _ => 31

/-- How many leap years there are before a year. -/
def leapYearsBefore (year : Nat) : Nat :=
  (year + 3) / 4 - (year + 99) / 100 + (year + 399) / 400

/-- How many days there are from the start of year zero to the start of a year. -/
def daysBeforeYear (year : Nat) : Nat :=
  365 * year + leapYearsBefore year

/-- How many days of a year come before one of its months. -/
def daysBeforeMonth (year month : Nat) : Nat :=
  (List.range' 1 (month - 1)).foldl (fun days m => days + monthLength year m) 0

/-- The number of days from the start of year zero to 1970-01-01. -/
def epochDays : Nat := 719528

theorem epochDays_eq : epochDays = daysBeforeYear 1970 := by decide

end Calendar

/-- A date of the Gregorian calendar. -/
structure Date where
  year : Nat
  /-- The month, counted from one. -/
  month : Nat
  /-- The day of the month, counted from one. -/
  day : Nat
deriving DecidableEq, Repr

namespace Date

/-- A date that the calendar has. -/
def IsValid (d : Date) : Prop :=
  1 ≤ d.month ∧ d.month ≤ 12 ∧ 1 ≤ d.day ∧ d.day ≤ Calendar.monthLength d.year d.month

instance (d : Date) : Decidable d.IsValid := by unfold IsValid; infer_instance

/-- The number of days from 1970-01-01 to a date. -/
def daysSinceEpoch (d : Date) : Int :=
  (Calendar.daysBeforeYear d.year + Calendar.daysBeforeMonth d.year d.month + d.day : Int)
    - 1 - Calendar.epochDays

end Date

end SearchQuery
