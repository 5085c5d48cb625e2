/-
Dates written as texts of any usual form.

Dates that come from outside are texts. One is read by its words, numbers and signs, first as
the standard form: a year, a month and a day with hyphens between them, of which the last two
may be missing, and after a `T` a time and its offset. Once a `T` has followed a date, anything
amiss makes the text no date; elsewhere what does not fit is left to free reading, in which
numbers with colons are times, other numbers and the names of months make up the day, and half
days, zones and offsets may follow. A time without an offset is in UTC. A day up to 31 is taken
in every month, and runs on into the next where the month is shorter.

* `DateText.tokens` — the words, numbers and signs of a text;
* `DateText.readStandard?` — the standard form, with what is left to free reading;
* `DateText.readFree?` — free reading;
* `Date.ofText` — the date that a text writes, invalid where it writes none.
-/
import TodoServer.Text.Characters
import TodoServer.Text.Units
import TodoServer.Calendar.Timestamp

namespace TodoServer.DateText

/-! ### Tokens -/

/-- What a word can mean. -/
inductive Word
  | month (number : Nat)
  /-- The half of a day, by the hour it starts at. -/
  | halfDay (start : Nat)
  /-- A zone, by the hours it is ahead of UTC. -/
  | zone (ahead : Int)
  /-- What sets a time apart from its date. -/
  | timeMark
  | unknown
deriving DecidableEq, Repr

/-- A word, a number or a sign of a text. -/
inductive Token
  /-- A number, and how many digits it is written with. -/
  | number (value length : Nat)
  | word (meaning : Word) (length : Nat)
  | sign (c : Char)
  | blank
  /-- Anything else; it sets the tokens beside it apart. -/
  | other
deriving DecidableEq, Repr

/-- The starts of the names of months, in order. -/
def monthNames : List String :=
  ["jan", "feb", "mar", "apr", "may", "jun", "jul", "aug", "sep", "oct", "nov", "dec"]

def shortWords : List (String × Word) :=
  [("am", .halfDay 0), ("pm", .halfDay 12), ("t", .timeMark), ("z", .zone 0), ("ut", .zone 0),
    ("utc", .zone 0), ("gmt", .zone 0), ("edt", .zone (-4)), ("est", .zone (-5)),
    ("cdt", .zone (-5)), ("cst", .zone (-6)), ("mdt", .zone (-6)), ("mst", .zone (-7)),
    ("pdt", .zone (-7)), ("pst", .zone (-8))]

/-- What a word means: one that begins with the name of a month is that month. -/
def meaning (letters : List Char) : Word :=
  let start := (letters.take 3).map lowerAscii
  match monthNames.findIdx? fun name => name.toList = start with
  | some i => .month (i + 1)
  | none =>
    if 3 < letters.length then .unknown
    else ((shortWords.find? fun w => w.1.toList = start).map (·.2)).getD .unknown

/-- What is being read; digits and letters are kept newest first. -/
inductive Mode
  | between
  | number (digits : List Char)
  | word (letters : List Char)
  /-- A remark in parentheses, which is passed over, and how many are open. -/
  | remark (depth : Nat)

/-- The tokens read, newest first, and what is being read. -/
structure Lexer where
  read : List Token
  mode : Mode

/-- Whether a character can be part of a word: any from the letters on that is no space, a line
separator included. -/
def isWordChar (c : Char) : Bool := 'A' ≤ c && !isSpace c

/-- A character read where a token begins. -/
def start (read : List Token) (c : Char) : Lexer :=
  if isDecimal c then ⟨read, .number [c]⟩
  else if ":-+.)".toList.contains c then ⟨.sign c :: read, .between⟩
  else if isWordChar c then ⟨read, .word [c]⟩
  else if isBlank c then ⟨.blank :: read, .between⟩
  else if c = '(' then ⟨read, .remark 1⟩
  else ⟨.other :: read, .between⟩

/-- The token of digits, newest first. -/
def numberToken (digits : List Char) : Token :=
  .number (leadingNumber digits.reverse) digits.length

/-- The token of a word's letters, newest first. -/
def wordToken (letters : List Char) : Token := .word (meaning letters.reverse) letters.length

def Lexer.step (s : Lexer) (c : Char) : Lexer :=
  match s.mode with
  | .between => start s.read c
  | .number digits =>
    if isDecimal c then ⟨s.read, .number (c :: digits)⟩ else
      start (numberToken digits :: s.read) c
  | .word letters =>
    if isWordChar c then ⟨s.read, .word (c :: letters)⟩ else
      start (wordToken letters :: s.read) c
  | .remark depth =>
    if c = ')' then
      if depth ≤ 1 then ⟨.other :: s.read, .between⟩ else ⟨s.read, .remark (depth - 1)⟩
    else if c = '(' then ⟨s.read, .remark (depth + 1)⟩
    else s

def Lexer.finish (s : Lexer) : List Token :=
  match s.mode with
  | .between => s.read.reverse
  | .number digits => (numberToken digits :: s.read).reverse
  | .word letters => (wordToken letters :: s.read).reverse
  | .remark _ => (.other :: s.read).reverse

/-- The tokens of a text, which a null character ends. -/
def tokens (text : Text) : List Token :=
  ((text.chars.takeWhile (· ≠ '\x00')).foldl Lexer.step ⟨[], .between⟩).finish

/-! ### What has been read -/

/-- How far a time is from UTC; minutes may be still to come. -/
structure Zone where
  behind : Bool
  hours : Nat
  minutes : Option Nat
deriving DecidableEq, Repr

/-- The zone that is some hours ahead of UTC. -/
def Zone.ofHours (ahead : Int) : Zone := ⟨ahead < 0, ahead.natAbs, some 0⟩

def Zone.isUtc (z : Zone) : Bool := z.hours = 0 && z.minutes = some 0

/-- A date as far as it has been read. -/
structure Draft where
  /-- The numbers of the day, in the order they were read in. -/
  day : List Int
  /-- The month, if it was named. -/
  month : Option Nat
  /-- Whether the day is in the standard form, which is year, month, day. -/
  isStandard : Bool
  /-- The numbers of the time: hour, minute, second and millisecond. -/
  time : List Nat
  halfDay : Option Nat
  zone : Option Zone
  /-- Whether a number has been read. -/
  begun : Bool
deriving DecidableEq, Repr

/-- Nothing but numbers of a day has been read. -/
def Draft.ofDay (day : List Int) : Draft :=
  { day, month := none, isStandard := false, time := [], halfDay := none, zone := none,
    begun := !day.isEmpty }

/-! ### The standard form -/

def two? (least greatest : Nat) : List Token → Option (Nat × List Token)
  | .number n 2 :: rest => if least ≤ n ∧ n ≤ greatest then some (n, rest) else none
  | _ => none

/-- A year at the start: four digits, or a sign and six. -/
def year? : List Token → Option (Int × List Token)
  | .number n 4 :: rest => some (n, rest)
  | .sign '+' :: .number n 6 :: rest => some (n, rest)
  | .sign '-' :: .number n 6 :: rest => some (-(n : Int), rest)
  | _ => none

/-- The day at the start. Where it is not of the standard form, the numbers read up to there
and what is left come as an error. A negative year zero is passed over. -/
def readDay (ts : List Token) : Except (List Int × List Token) (List Int × List Token) :=
  match year? ts with
  | none => .error ([], ts)
  | some (year, rest) =>
    if year = 0 ∧ ts.head? = some (.sign '-') then .error ([], rest)
    else
      match rest with
      | .sign '-' :: rest =>
        match two? 1 12 rest with
        | none => .error ([year], rest)
        | some (month, .sign '-' :: rest) =>
          match two? 1 31 rest with
          | none => .error ([year, (month : Int)], rest)
          | some (day, rest) => .ok ([year, (month : Int), (day : Int)], rest)
        | some (month, rest) => .ok ([year, (month : Int)], rest)
      | rest => .ok ([year], rest)

/-- Seconds, a fraction or none, and what follows; none of them where there is no colon. -/
def readSeconds? (greatest : Nat) : List Token → Option (List Nat × List Token)
  | .sign ':' :: rest => do
    let (second, rest) ← two? 0 greatest rest
    match rest with
    | .sign '.' :: .number n length :: rest =>
      if greatest = 0 ∧ n ≠ 0 then none else some ([second, millisOfFraction n length], rest)
    | .sign '.' :: _ => none
    | rest => some ([second], rest)
  | rest => some ([], rest)

/-- Whether an offset is behind UTC, by its sign. -/
def isBehind? (c : Char) : Option Bool :=
  if c = '-' then some true else if c = '+' then some false else none

/-- The offset at the end, or its absence. -/
def readZone? : List Token → Option (Option Zone)
  | [] => some none
  | [.word (.zone _) 1] => some (some (.ofHours 0))
  | [.sign c, .number n 4] => do
    let behind ← isBehind? c
    if n / 100 < 24 ∧ n % 100 < 60 then some (some ⟨behind, n / 100, some (n % 100)⟩) else none
  | [.sign c, .number hours 2, .sign ':', .number minutes 2] => do
    let behind ← isBehind? c
    if hours < 24 ∧ minutes < 60 then some (some ⟨behind, hours, some minutes⟩) else none
  | _ => none

/-- The time after a `T`, up to the end. The hour 24 is the end of the day and nothing
after. -/
def readTime? (ts : List Token) : Option (List Nat × Option Zone) :=
  match two? 0 24 ts with
  | some (hour, .sign ':' :: rest) => do
    let greatest := if hour = 24 then 0 else 59
    let (minute, rest) ← two? 0 greatest rest
    let (seconds, rest) ← readSeconds? greatest rest
    let zone ← readZone? rest
    some (hour :: minute :: seconds, zone)
  | _ => none

/-- The standard form: what has been read, and what is left to free reading. -/
def readStandard? (ts : List Token) : Option (Draft × List Token) :=
  match readDay ts with
  | .error (day, rest) => some (.ofDay day, rest)
  | .ok (day, .word .timeMark _ :: rest) =>
    (readTime? rest).map fun (time, zone) =>
      ({ Draft.ofDay day with isStandard := true, time, zone }, [])
  | .ok (day, []) => some ({ Draft.ofDay day with isStandard := true }, [])
  | .ok (day, rest) => some (.ofDay day, rest)

/-! ### Free reading -/

/-- What is left without a hyphen at its start. -/
def skipHyphen : List Token → List Token
  | .sign '-' :: rest => rest
  | rest => rest

/-- What is left without a point at its start. -/
def skipPoint : List Token → List Token
  | .sign '.' :: rest => rest
  | rest => rest

namespace Draft

/-- Whether a number can be the next one of the time begun. -/
def expectsTime (d : Draft) (n : Nat) : Bool :=
  match d.time.length with
  | 1 | 2 => n < 60
  | 3 => n < 1000
  | _ => false

/-- Whether a number can be the minutes of the zone begun. -/
def expectsMinutes (d : Draft) (n : Nat) : Bool :=
  match d.zone with
  | some z => z.minutes = none && n < 60
  | none => false

def addTime? (d : Draft) (n : Nat) : Option Draft :=
  if d.time.length < 4 then some { d with time := d.time ++ [n] } else none

/-- The last numbers of the time; those missing are zero. -/
def endTime (d : Draft) (ns : List Nat) : Draft :=
  { d with time := (d.time ++ ns ++ [0, 0, 0, 0]).take 4 }

def addDay? (d : Draft) (n : Nat) : Option Draft :=
  if d.day.length < 3 then some { d with day := d.day ++ [(n : Int)] } else none

/-- Whether a zone's offset can follow: after a time, or after UTC. -/
def takesOffset (d : Draft) : Bool := !d.time.isEmpty || d.zone.any Zone.isUtc

end Draft

/-- Whether what is left may follow the end of a time. -/
def mayFollowTime : List Token → Bool
  | [] => true
  | .blank :: _ => true
  | .word (.zone _) 1 :: _ => true
  | .sign c :: _ => c = '+' || c = '-'
  | _ => false

/-- A number that no colon follows. -/
def readPlain? (d : Draft) (n : Nat) (rest : List Token) : Option (Draft × List Token) :=
  if d.expectsMinutes n then
    some ({ d with zone := d.zone.map fun z => { z with minutes := some n } }, rest)
  else if d.expectsTime n then
    if mayFollowTime rest then some (d.endTime [n], rest) else none
  else (d.addDay? n).map fun d => (d, skipHyphen rest)

def readNumber? (d : Draft) (n : Nat) : List Token → Option (Draft × List Token)
  | .sign ':' :: .sign ':' :: rest =>
    if d.time.isEmpty then some ({ d with time := [n, 0] }, rest) else none
  | .sign ':' :: rest => (d.addTime? n).map fun d => (d, skipPoint rest)
  | .sign '.' :: rest =>
    if d.expectsTime n then
      match rest with
      | .number fraction length :: rest =>
        some (d.endTime [n, millisOfFraction fraction length], rest)
      | _ => none
    else readPlain? d n rest
  | rest => readPlain? d n rest

/-- A word. One that means nothing may stand before the first number, if not right before
it. -/
def readWord? (d : Draft) (w : Word) (rest : List Token) : Option (Draft × List Token) :=
  let passedOver :=
    match rest with
    | .number _ _ :: _ => none
    | rest => if d.begun then none else some (d, rest)
  match w with
  | .halfDay start =>
    if d.time.isEmpty then passedOver else some ({ d with halfDay := start }, rest)
  | .month number => some ({ d with month := number }, skipHyphen rest)
  | .zone ahead =>
    if d.begun then some ({ d with zone := Zone.ofHours ahead }, rest) else passedOver
  | _ => passedOver

/-- The offset after its sign: hours, hours and minutes in one number, or hours and a colon. -/
def readOffset? (d : Draft) (behind : Bool) (rest : List Token) :
    Option (Draft × List Token) :=
  let (n, length, rest) :=
    match rest with
    | .number n length :: rest => (n, length, rest)
    | rest => (0, 0, rest)
  let draft (hours : Nat) (minutes : Option Nat) : Draft :=
    { d with zone := some ⟨behind, hours, minutes⟩, begun := true }
  if rest.head? = some (.sign ':') then some (draft n none, rest)
  else if length = 1 ∨ length = 2 then some (draft n (some 0), rest)
  else if length = 3 ∨ length = 4 then some (draft (n / 100) (some (n % 100)), rest)
  else none

def readSign? (d : Draft) (c : Char) (rest : List Token) : Option (Draft × List Token) :=
  match isBehind? c, d.takesOffset with
  | some behind, true => readOffset? d behind rest
  | isOffset, _ => if (isOffset.isSome ∨ c = ')') ∧ d.begun then none else some (d, rest)

def readToken? (d : Draft) (t : Token) (rest : List Token) : Option (Draft × List Token) :=
  match t with
  | .number n _ => readNumber? { d with begun := true } n rest
  | .word w _ => readWord? d w rest
  | .sign c => readSign? d c rest
  | .blank => some (d, rest)
  | .other => some (d, rest)

/-- At most so many tokens with those that belong to them. -/
def readFree? : Nat → Draft → List Token → Option Draft
  | _, d, [] => some d
  | 0, _, _ => none
  | count + 1, d, t :: rest => do
    let (d, rest) ← readToken? d t rest
    readFree? count d rest

/-! ### The date -/

/-- Whether a number can be the day of a month. -/
def isDay (n : Int) : Bool := 1 ≤ n && n ≤ 31

/-- A year of fewer than three digits is one of the hundred from 1950 on. -/
def fullYear (year : Int) : Int :=
  if 0 ≤ year ∧ year ≤ 49 then year + 2000
  else if 50 ≤ year ∧ year ≤ 99 then year + 1900
  else year

namespace Draft

/-- The day: year, month, day if the first number is no day of a month, else month, day, year,
or day and year where the month is named. Numbers missing are one. -/
def civil? (d : Draft) : Option Civil :=
  match d.day ++ [1, 1, 1] with
  | a :: b :: c :: _ =>
    let (year, month, day) : Int × Int × Int :=
      match d.month with
      | some month => if isDay a then (b, (month : Int), a) else (a, (month : Int), b)
      | none => if d.isStandard || !isDay a then (a, b, c) else (c, a, b)
    if d.day ≠ [] ∧ 1 ≤ month ∧ month ≤ 12 ∧ isDay day then
      some ⟨if d.isStandard then year else fullYear year, month.toNat, day.toNat⟩
    else none
  | _ => none

/-- The hour of the day, by the clock of half days if one was named. -/
def hour? (d : Draft) (hour : Nat) : Option Nat :=
  match d.halfDay with
  | none => some hour
  | some start => if hour ≤ 12 then some (hour % 12 + start) else none

/-- The time of day in milliseconds; the hour 24 is the end of the day. -/
def timeMillis? (d : Draft) : Option Nat :=
  match d.time ++ [0, 0, 0, 0] with
  | hour :: minute :: second :: millis :: _ => do
    let hour ← d.hour? hour
    if (hour < 24 ∧ minute < 60 ∧ second < 60 ∧ millis < 1000) ∨
        (hour = 24 ∧ minute = 0 ∧ second = 0 ∧ millis = 0) then
      some (((hour * 60 + minute) * 60 + second) * 1000 + millis)
    else none
  | _ => none

/-- How far ahead of UTC the time is. Seconds are counted in 32 bits, and half of that range is
too far. -/
def ahead? (d : Draft) : Option Int :=
  match d.zone with
  | none => some 0
  | some z =>
    let seconds : Nat := (z.hours * 3600 + z.minutes.getD 0 * 60) % Nat.pow 2 32
    if seconds < Nat.pow 2 31 then some (if z.behind then -(seconds : Int) else seconds)
    else none

def date? (d : Draft) : Option Date := do
  let day ← d.civil?
  let time ← d.timeMillis?
  let ahead ← d.ahead?
  some (.ofMillis (day.dayNumber * Date.dayMillis + (time : Int) - ahead * 1000))

end Draft

def date? (ts : List Token) : Option Date := do
  let (d, rest) ← readStandard? ts
  let d ← readFree? rest.length d rest
  d.date?

end DateText

/-- The date that a text writes. -/
def Date.ofText (text : Text) : Date := (DateText.date? (DateText.tokens text)).getD .invalid

end TodoServer
