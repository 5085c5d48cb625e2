/-
Timestamps of RFC 3339, with a mandatory offset.

The form is `YYYY-MM-DDTHH:MM`, seconds or none, a fraction or none after seconds, then `Z` or
a signed offset `HH:MM` or `HHMM`; letters are upper case, digits ASCII, and the date must be
on the calendar. An offset may hold any two pairs of digits: one beyond 23 hours or 59 minutes
is well formed but names no time.

* `Timestamp.read?` — the timestamp that a text writes;
* `fractionMillis` — the milliseconds of a fraction, cut and not rounded;
* `Timestamp.date` — the time that a timestamp names.
-/
import TodoServer.Calendar.Date

namespace TodoServer

/-! ### Fractions -/

/-- How many digits of a numeral are read, leading zeros not counted. -/
def significantDigits : Nat := 9

/-- The number of a numeral's leading digits, as many as are read. -/
def leadingNumber (digits : List Char) : Nat :=
  digitsValue ((digits.dropWhile (· = '0')).take significantDigits)

/-- The milliseconds of a fraction with as many digits as given, of which the leading ones make
up the number given. Missing digits count as zero and those after the third are cut; digits
beyond the ninth do not count, so a longer fraction that begins with zeros is taken for more
than it is. -/
def millisOfFraction (number length : Nat) : Nat :=
  if length ≤ 3 then number * Nat.pow 10 (3 - length)
  else number / Nat.pow 10 (min length significantDigits - 3)

/-- The milliseconds of a fraction. -/
def fractionMillis (fraction : List Char) : Nat :=
  millisOfFraction (leadingNumber fraction) fraction.length

/-! ### Offsets -/

/-- What follows the local time of a timestamp. -/
inductive Offset
  | utc
  | ahead (hours minutes : Nat)
  | behind (hours minutes : Nat)
deriving DecidableEq, Repr

/-- How far local time is ahead of UTC, if the offset is one that a day can have. -/
def Offset.millis? : Offset → Option Int
  | .utc => some 0
  | .ahead hours minutes =>
    if hours < 24 ∧ minutes < 60 then some ((hours * 3600000 + minutes * 60000 : Nat) : Int)
    else none
  | .behind hours minutes =>
    if hours < 24 ∧ minutes < 60 then some (-((hours * 3600000 + minutes * 60000 : Nat) : Int))
    else none

/-! ### Timestamps -/

/-- A timestamp as it is written. -/
structure Timestamp where
  day : Civil
  hour : Nat
  minute : Nat
  second : Nat
  /-- The digits of the fraction. -/
  fraction : List Char
  offset : Offset
deriving DecidableEq, Repr

namespace Timestamp

def two? (a b : Char) : Option Nat := numeral? [a, b]

def readOffset? : List Char → Option Offset
  | ['Z'] => some .utc
  | [sign, a, b, ':', c, d] => signed? sign a b c d
  | [sign, a, b, c, d] => signed? sign a b c d
  | _ => none
where
  /-- The offset that a sign and four digits write. -/
  signed? (sign a b c d : Char) : Option Offset := do
    let hours ← two? a b
    let minutes ← two? c d
    if sign = '+' then some (.ahead hours minutes)
    else if sign = '-' then some (.behind hours minutes)
    else none

/-- What follows the seconds: a fraction or none, and the offset. -/
def readFraction? : List Char → Option (List Char × Offset)
  | '.' :: rest =>
    let digits := rest.takeWhile isDecimal
    if digits = [] then none
    else (readOffset? (rest.dropWhile isDecimal)).map fun offset => (digits, offset)
  | rest => (readOffset? rest).map fun offset => ([], offset)

/-- What follows the minutes: seconds or none, a fraction or none, and the offset. -/
def readSeconds? : List Char → Option (Nat × List Char × Offset)
  | ':' :: a :: b :: rest => do
    let second ← two? a b
    let (fraction, offset) ← readFraction? rest
    if second < 60 then some (second, fraction, offset) else none
  | rest => (readOffset? rest).map fun offset => (0, [], offset)

/-- The timestamp that a text writes. -/
def read? : List Char → Option Timestamp
  | y₁ :: y₂ :: y₃ :: y₄ :: '-' :: m₁ :: m₂ :: '-' :: d₁ :: d₂ :: 'T' ::
      h₁ :: h₂ :: ':' :: n₁ :: n₂ :: rest => do
    let year ← numeral? [y₁, y₂, y₃, y₄]
    let month ← two? m₁ m₂
    let date ← two? d₁ d₂
    let hour ← two? h₁ h₂
    let minute ← two? n₁ n₂
    let (second, fraction, offset) ← readSeconds? rest
    let day : Civil := ⟨year, month, date⟩
    if day.isReal ∧ hour < 24 ∧ minute < 60 then
      some ⟨day, hour, minute, second, fraction, offset⟩
    else none
  | _ => none

/-- The local date and time read as if in UTC. -/
def localMillis (t : Timestamp) : Int :=
  let inDay := t.hour * 3600000 + t.minute * 60000 + t.second * 1000 +
    fractionMillis t.fraction
  t.day.dayNumber * Date.dayMillis + inDay

/-- The time that a timestamp names. -/
def date (t : Timestamp) : Date :=
  match t.offset.millis? with
  | some ahead => .ofMillis (t.localMillis - ahead)
  | none => .invalid

end Timestamp

end TodoServer
