import SearchQuery.Decimal
import SearchQuery.Timestamp.Calendar

/-! # RFC 3339 date-times

  `DateTime.read` takes a text apart by the grammar
  `YYYY-MM-DD`, a separator, `hh:mm:ss`, an optional fraction, and `Z` or an
  offset. Any one ASCII character separates date and time. `DateTime.check` then
  tests the ranges, and `DateTime.instant` counts the nanoseconds since the epoch.

  A second of 60 is a leap second. It counts as the last nanosecond of second 59,
  and it is real only at the end of the last day of a month in UTC.
-/

namespace SearchQuery

namespace Rfc3339

/-! ### Faults -/

/-- The parts of a date-time. -/
inductive Component where
  | year
  | month
  | day
  | separator
  | hour
  | minute
  | second
  | subsecond
  | offsetHour
  | offsetMinute
deriving DecidableEq, Repr

/-- The name of a part in a message. -/
def Component.name : Component → String
  | year => "year"
  | month => "month"
  | day => "day"
  | separator => "separator"
  | hour => "hour"
  | minute => "minute"
  | second => "second"
  | subsecond => "subsecond"
  | offsetHour => "offset hour"
  | offsetMinute => "offset minute"

/-- Why a text is not a date-time. -/
inductive Fault where
  /-- A part does not have its form. -/
  | unreadable (component : Component)
  /-- A fixed character is missing between two parts. -/
  | wrongMark
  /-- Text follows the date-time. -/
  | trailing
  /-- A part has its form but not a possible value. -/
  | outOfRange (component : Component)
deriving DecidableEq, Repr

def Fault.message : Fault → String
  | unreadable component => "the '" ++ component.name ++ "' component could not be parsed"
  | wrongMark => "a character literal was not valid"
  | trailing => "unexpected trailing characters; the end of input was expected"
  | outOfRange component => component.name ++ " was not in range"

/-! ### Reading parts -/

/-- Reads exactly `count` digits. -/
def readFixed (component : Component) (count : Nat) (text : List Char) :
    Except Fault (Nat × List Char) :=
  let digits := text.take count
  if digits.length = count ∧ digits.all Char.isDigit then
    .ok (digitsValue digits, text.drop count)
  else
    .error (.unreadable component)

/-- Reads one fixed character. -/
def readMark (mark : Char) : List Char → Except Fault (List Char)
  | c :: rest => if c = mark then .ok rest else .error .wrongMark
  | [] => .error .wrongMark

/-- Reads the two digits of a month, which is never `00`. -/
def readMonth (text : List Char) : Except Fault (Nat × List Char) := do
  let (month, rest) ← readFixed .month 2 text
  if month = 0 then .error (.unreadable .month) else .ok (month, rest)

/-- Reads the character between date and time. One that is not ASCII is no
    separator: after its first byte the hour is looked for in vain. -/
def readSeparator : List Char → Except Fault (List Char)
  | [] => .error (.unreadable .separator)
  | c :: rest => if c.toNat < 128 then .ok rest else .error (.unreadable .hour)

/-- Reads the digits of a fraction, if a point comes next. -/
def readFraction : List Char → Except Fault (List Char × List Char)
  | '.' :: rest =>
    match readDigits rest with
    | some (digits, rest) => .ok (digits, rest)
    | none => .error (.unreadable .subsecond)
  | text => .ok ([], text)

/-- A distance from UTC. -/
structure Offset where
  /-- Whether local time lags behind UTC. -/
  behind : Bool
  hours : Nat
  minutes : Nat
deriving DecidableEq, Repr

namespace Offset

/-- The signed number of seconds by which local time is ahead of UTC. -/
def seconds (o : Offset) : Int :=
  let seconds : Int := (o.hours * 3600 + o.minutes * 60 : Nat)
  if o.behind then -seconds else seconds

/-- Reads hours and minutes after the sign. Hours out of range count as
    unreadable. -/
def readSigned (behind : Bool) (text : List Char) : Except Fault (Offset × List Char) := do
  let (hours, text) ← readFixed .offsetHour 2 text
  if 23 < hours then .error (.unreadable .offsetHour)
  let text ← readMark ':' text
  let (minutes, text) ← readFixed .offsetMinute 2 text
  if 59 < minutes then .error (.outOfRange .offsetMinute)
  return ({ behind, hours, minutes }, text)

/-- Reads an offset: `Z` in either case, or a sign with hours and minutes. -/
def read : List Char → Except Fault (Offset × List Char)
  | 'Z' :: rest => .ok (⟨false, 0, 0⟩, rest)
  | 'z' :: rest => .ok (⟨false, 0, 0⟩, rest)
  | '+' :: rest => readSigned false rest
  | '-' :: rest => readSigned true rest
  | _ => .error (.unreadable .offsetHour)

end Offset

/-! ### Date-times -/

/-- A date-time as it is written. -/
structure DateTime where
  date : Date
  hour : Nat
  minute : Nat
  second : Nat
  /-- The digits after the point of the second; none without a point. -/
  fraction : List Char
  offset : Offset
deriving DecidableEq, Repr

namespace DateTime

/-- Takes a date-time off the front of a text. -/
def readFront (text : List Char) : Except Fault (DateTime × List Char) := do
  let (year, text) ← readFixed .year 4 text
  let text ← readMark '-' text
  let (month, text) ← readMonth text
  let text ← readMark '-' text
  let (day, text) ← readFixed .day 2 text
  let text ← readSeparator text
  let (hour, text) ← readFixed .hour 2 text
  let text ← readMark ':' text
  let (minute, text) ← readFixed .minute 2 text
  let text ← readMark ':' text
  let (second, text) ← readFixed .second 2 text
  let (fraction, text) ← readFraction text
  let (offset, text) ← Offset.read text
  return ({ date := { year, month, day }, hour, minute, second, fraction, offset }, text)

/-- Reads a text that is a date-time and nothing else. -/
def read (text : List Char) : Except Fault DateTime := do
  let (dateTime, rest) ← readFront text
  if rest.isEmpty then return dateTime else .error .trailing

/-- Whether the second is a leap second. -/
def isLeap (t : DateTime) : Bool := t.second == 60

/-- The second of the minute, a leap second counted as the one before it. -/
def countedSecond (t : DateTime) : Nat := if t.isLeap then 59 else t.second

/-- The nanosecond of the second. Digits after the ninth have no effect. -/
def nanosecond (t : DateTime) : Nat :=
  if t.isLeap then 999999999
  else digitsValue (t.fraction.take 9) * Nat.pow 10 (9 - t.fraction.length)

/-- The number of seconds of the local day that have passed. -/
def secondOfDay (t : DateTime) : Nat :=
  t.hour * 3600 + t.minute * 60 + t.countedSecond

/-- The number of seconds since the start of the local day, by a UTC clock. It is
    negative when UTC is still at the day before. -/
def utcSecond (t : DateTime) : Int :=
  t.secondOfDay - t.offset.seconds

/-- Whether it is 23:59:59 in UTC on the last day of a month. The UTC date is
    the local one or a neighbour of it. -/
def endsMonthInUtc (t : DateTime) : Bool :=
  let utcDay := t.date.day + t.utcSecond / 86400
  t.utcSecond % 86400 == 86399 &&
    (utcDay == 0 || utcDay == Calendar.monthLength t.date.year t.date.month)

/-- Tests the ranges of all parts, in the order in which they are written, and
    then whether a leap second stands where one can be. -/
def check (t : DateTime) : Except Fault Unit := do
  if t.date.month = 0 ∨ 12 < t.date.month then .error (.outOfRange .month)
  if t.date.day = 0 ∨ Calendar.monthLength t.date.year t.date.month < t.date.day then
    .error (.outOfRange .day)
  if 23 < t.hour then .error (.outOfRange .hour)
  if 59 < t.minute then .error (.outOfRange .minute)
  if 59 < t.countedSecond then .error (.outOfRange .second)
  if t.isLeap && !t.endsMonthInUtc then .error (.outOfRange .second)

/-- The number of nanoseconds from 1970-01-01T00:00:00Z. -/
def instant (t : DateTime) : Int :=
  (t.date.daysSinceEpoch * 86400 + t.utcSecond) * 1000000000 + t.nanosecond

/-- The date-time that a text denotes. -/
def ofList (text : List Char) : Except Fault DateTime := do
  let t ← read text
  t.check
  return t

end DateTime

end Rfc3339

end SearchQuery
