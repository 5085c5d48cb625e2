/-
Days of the calendar, and points in time to the millisecond.

A year is counted here from its first of March, so that a leap day is the last day of its year
and the months before it have fixed lengths. A cycle of 400 years has 146097 days, and each
shorter cycle (100, 4 and 1 years) ends with its longest member, which is why the quotients
below are capped.

A date is a number of milliseconds since 1970-01-01T00:00Z within a hundred million days of it,
or it is invalid: arithmetic that leaves the range, and timestamps with impossible offsets,
give an invalid date, which can be kept and compared but not written.

* `Civil.dayNumber` — days since 1970-01-01;
* `Civil.ofDayNumber` — the day of a day number;
* `Civil.isReal` — whether the month and the day are on the calendar;
* `Date.ofMillis`, `Date.ofRat` — the date of a number of milliseconds, whole or not;
* `Date.iso?` — its text in UTC, none for an invalid date;
* `Date.compare` — the order in time, an invalid date being neither before nor after any other.
-/
import TodoServer.Text.Characters

namespace TodoServer

/-! ### Days -/

/-- A date of the calendar. -/
structure Civil where
  year : Int
  month : Nat
  day : Nat
deriving DecidableEq, Repr

namespace Civil

/-- Whether a year has a 29th of February. -/
def isLeap (year : Int) : Bool := year % 4 = 0 && (year % 100 ≠ 0 || year % 400 = 0)

def daysIn (year : Int) (month : Nat) : Nat :=
  if month = 2 then (if isLeap year then 29 else 28)
  else if month = 4 ∨ month = 6 ∨ month = 9 ∨ month = 11 then 30
  else 31

/-- Whether the month and the day are on the calendar. -/
def isReal (d : Civil) : Bool :=
  1 ≤ d.month && d.month ≤ 12 && 1 ≤ d.day && d.day ≤ daysIn d.year d.month

/-- Days from the first of March of year zero to 1970-01-01. -/
def epochOffset : Int := 719468

/-- Days since 1970-01-01. -/
def dayNumber (d : Civil) : Int :=
  let year := if d.month ≤ 2 then d.year - 1 else d.year
  let month : Int := if d.month ≤ 2 then d.month + 9 else d.month - 3
  year * 365 + year / 4 - year / 100 + year / 400 + (153 * month + 2) / 5 + (d.day - 1)
    - epochOffset

/-- The date of a day number. -/
def ofDayNumber (n : Int) : Civil :=
  let days := n + epochOffset
  let inCycle := days % 146097
  let centuries := min (inCycle / 36524) 3
  let inCentury := inCycle - centuries * 36524
  let fours := inCentury / 1461
  let inFour := inCentury % 1461
  let ones := min (inFour / 365) 3
  let dayOfYear := inFour - ones * 365
  let month := (5 * dayOfYear + 2) / 153
  let day := dayOfYear - (153 * month + 2) / 5 + 1
  let year := days / 146097 * 400 + centuries * 100 + fours * 4 + ones
  if month < 10 then ⟨year, (month + 3).toNat, day.toNat⟩
  else ⟨year + 1, (month - 9).toNat, day.toNat⟩

end Civil

/-! ### Points in time -/

/-- A point in time, or no time at all. -/
inductive Date
  | valid (millis : Int)
  | invalid
deriving DecidableEq, Repr

namespace Date

def dayMillis : Int := 86400000

/-- The greatest distance from the epoch that a date can have. -/
def range : Int := 8640000000000000

/-- The date that lies some milliseconds after the epoch. -/
def ofMillis (millis : Int) : Date :=
  if -range ≤ millis ∧ millis ≤ range then .valid millis else .invalid

/-- The date of a number of milliseconds that need not be whole: it is cut toward zero. -/
def ofRat (millis : Rat) : Date := ofMillis (millis.num.tdiv millis.den)

/-- Milliseconds since the epoch. -/
def millis? : Date → Option Int
  | .valid millis => some millis
  | .invalid => none

def later (d : Date) (millis : Int) : Date :=
  match d with
  | .valid start => ofMillis (start + millis)
  | .invalid => .invalid

/-- The order of two dates in time. -/
def compare : Date → Date → Ordering
  | .valid a, .valid b => Ord.compare a b
  | _, _ => .eq

/-- A year: four digits, or a sign and six outside 0 to 9999. -/
def yearText (year : Int) : List Char :=
  if 0 ≤ year ∧ year ≤ 9999 then padded 4 year.toNat
  else (if year < 0 then '-' else '+') :: padded 6 year.natAbs

def isoMillis (millis : Int) : List Char :=
  let date := Civil.ofDayNumber (millis / dayMillis)
  let time := (millis % dayMillis).toNat
  yearText date.year ++ '-' :: padded 2 date.month ++ '-' :: padded 2 date.day ++
    'T' :: padded 2 (time / 3600000) ++ ':' :: padded 2 (time / 60000 % 60) ++
    ':' :: padded 2 (time / 1000 % 60) ++ '.' :: padded 3 (time % 1000) ++ ['Z']

/-- The text of a date in UTC. -/
def iso? : Date → Option String
  | .valid millis => some (String.ofList (isoMillis millis))
  | .invalid => none

end Date

end TodoServer
