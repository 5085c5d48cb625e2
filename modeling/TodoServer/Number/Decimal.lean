/-
Numbers as decimal text.

A decimal is a whole coefficient and a power of ten. Reading rounds its exact value to the
nearest number; writing picks, among the decimals with the fewest digits that read back as the
same number, the one nearest to it, and sets the digits out with or without an exponent by
their size alone.

A text that is to count as a number is read more freely. Blanks around it do not matter, and
an empty one is zero. A decimal may begin with zeros and may lack its digits on one side of the
point; there is a word for the infinite; and digits to base 2, 8 or 16 follow a mark and have
no sign.

* `Decimal.value` — the number nearest to a decimal;
* `Decimal.read?` — the decimal that a text writes, in the grammar of numbers in documents;
* `Decimal.shortest` — the shortest decimal that reads back;
* `Number.text` — its text: plain digits up to 10²¹, a point from 10⁻⁶ on, an exponent beyond;
* `Number.ofText?` — the number that a text counts as, if it does.
-/
import TodoServer.Text.Characters
import TodoServer.Number.Basic

namespace TodoServer

/-- The value `coefficient · 10 ^ exponent`, negated if so marked. -/
structure Decimal where
  negative : Bool
  coefficient : Nat
  exponent : Int
deriving DecidableEq, Repr

namespace Decimal

def length (n : Nat) : Nat := (Nat.toDigits 10 n).length

/-- The exact value of a decimal. -/
def exact (d : Decimal) : Rat :=
  let magnitude : Rat :=
    if 0 ≤ d.exponent then ((d.coefficient * Nat.pow 10 d.exponent.toNat : Nat) : Rat)
    else mkRat d.coefficient (Nat.pow 10 (-d.exponent).toNat)
  if d.negative then -magnitude else magnitude

/-- The number nearest to a decimal. A decimal beyond 10³¹⁰ is infinite and one below 10⁻³³⁰ is
zero whatever its digits are, so powers of ten stay within reach. -/
def value (d : Decimal) : Number :=
  if d.coefficient = 0 then .finite 0
  else if 310 < (length d.coefficient : Int) + d.exponent then .infinite d.negative
  else if (length d.coefficient : Int) + d.exponent < -330 then .finite 0
  else Number.ofRat d.exact

/-- An integer text: a sign or none, and digits. -/
def readInteger? (cs : List Char) : Option Int :=
  match cs with
  | '-' :: digits => (numeral? digits).map fun n => -(n : Int)
  | '+' :: digits => (numeral? digits).map Int.ofNat
  | digits => (numeral? digits).map Int.ofNat

/-- What follows the digits before the point: a fraction or none, and an exponent or none. -/
def readTail? (negative : Bool) (whole : List Char) (fraction tail : List Char) :
    Option Decimal :=
  let digits := whole ++ fraction
  match tail with
  | [] => some ⟨negative, digitsValue digits, -(fraction.length : Int)⟩
  | mark :: power =>
    if mark = 'e' ∨ mark = 'E' then
      (readInteger? power).map fun e =>
        ⟨negative, digitsValue digits, e - (fraction.length : Int)⟩
    else none

/-- An unsigned decimal: digits without a leading zero, a fraction or none, an exponent or
none. -/
def readUnsigned? (negative : Bool) (cs : List Char) : Option Decimal :=
  let whole := cs.takeWhile isDecimal
  if whole = [] ∨ (whole.head? = some '0' ∧ whole ≠ ['0']) then none
  else
    match cs.dropWhile isDecimal with
    | '.' :: rest =>
      let fraction := rest.takeWhile isDecimal
      if fraction = [] then none else
        readTail? negative whole fraction (rest.dropWhile isDecimal)
    | rest => readTail? negative whole [] rest

/-- The decimal that a text writes. -/
def read? (cs : List Char) : Option Decimal :=
  match cs with
  | '-' :: rest => readUnsigned? true rest
  | rest => readUnsigned? false rest

/-- For a positive rational, the `n` with `10 ^ (n - 1) ≤ q < 10 ^ n`. -/
def decimalPoint (q : Rat) : Int :=
  let estimate : Int := (length q.num.natAbs : Int) - (length q.den : Int)
  if q < exact ⟨false, 1, estimate⟩ then estimate else estimate + 1

/-- A coefficient without its trailing zeros, the exponent raised in step. -/
def trim (coefficient : Nat) (exponent : Int) : Nat × Int :=
  let digits := (Nat.toDigits 10 coefficient).reverse
  let zeros := (digits.takeWhile (· = '0')).length
  (coefficient / Nat.pow 10 zeros, exponent + zeros)

/-- The decimals with `count` digits next to a positive rational, the nearer first; of two
equally near the even one is first. -/
def neighbours (q : Rat) (count : Nat) : List Decimal :=
  let e := decimalPoint q - count
  let scaled := q / exact ⟨false, 1, e⟩
  let below := scaled.floor.toNat
  let rest := scaled - below
  let low : Decimal := ⟨false, below, e⟩
  let high : Decimal := ⟨false, below + 1, e⟩
  if rest < 1 / 2 ∨ (rest = 1 / 2 ∧ below % 2 = 0) then [low, high] else [high, low]

/-- All digits of a rational whose denominator is a power of two. -/
def exactDecimal (q : Rat) : Decimal :=
  let places := q.den.log2
  ⟨false, q.num.natAbs * Nat.pow 5 places, -(places : Int)⟩

/-- The shortest decimal that reads back as a positive number, the nearest among those. -/
def shortest (q : Rat) : Decimal :=
  let candidates := (List.range 17).flatMap fun k => neighbours q (k + 1)
  (candidates.find? fun d => d.value = .finite q).getD (exactDecimal q)

/-- The digits set out: without an exponent from 10⁻⁶ up to 10²¹, else with one digit before
the point and a signed exponent. -/
def layout (digits : List Char) (point : Int) : List Char :=
  let count : Int := digits.length
  if count ≤ point ∧ point ≤ 21 then digits ++ List.replicate (point - count).toNat '0'
  else if 0 < point ∧ point ≤ 21 then digits.take point.toNat ++ '.' :: digits.drop point.toNat
  else if -6 < point ∧ point ≤ 0 then '0' :: '.' :: List.replicate (-point).toNat '0' ++ digits
  else
    let power := point - 1
    let exponent := (if power < 0 then '-' else '+') :: Nat.toDigits 10 power.natAbs
    let fraction := if digits.length ≤ 1 then [] else '.' :: digits.drop 1
    digits.take 1 ++ fraction ++ 'e' :: exponent

/-- The text of an unsigned decimal. -/
def text (d : Decimal) : List Char :=
  let (coefficient, exponent) := trim d.coefficient d.exponent
  let digits := Nat.toDigits 10 coefficient
  layout digits (exponent + digits.length)

end Decimal

/-- The text of a finite number; an infinity has none. -/
def Number.text? : Number → Option (List Char)
  | .infinite _ => none
  | .finite value =>
    if value = 0 then some ['0']
    else if value < 0 then some ('-' :: (Decimal.shortest (-value)).text)
    else some (Decimal.shortest value).text

/-! ### Texts that count as numbers -/

namespace Number

def withoutBlanks (cs : List Char) : List Char :=
  ((cs.dropWhile isBlank).reverse.dropWhile isBlank).reverse

def infinityWord : List Char := "Infinity".toList

/-- The number of an unsigned decimal, to be negated if so marked. -/
def ofUnsigned? (negative : Bool) (cs : List Char) : Option Number :=
  if cs = infinityWord then some (.infinite negative)
  else
    let whole := cs.takeWhile isDecimal
    let (fraction, tail) :=
      match cs.dropWhile isDecimal with
      | '.' :: rest => (rest.takeWhile isDecimal, rest.dropWhile isDecimal)
      | rest => ([], rest)
    if whole = [] ∧ fraction = [] then none
    else (Decimal.readTail? negative whole fraction tail).map Decimal.value

/-- The base that a letter after a zero stands for. -/
def baseOf? (mark : Char) : Option Nat :=
  if mark = 'x' ∨ mark = 'X' then some 16
  else if mark = 'o' ∨ mark = 'O' then some 8
  else if mark = 'b' ∨ mark = 'B' then some 2
  else none

def ofDigits? (base : Nat) (digits : List Char) : Option Number :=
  if digits = [] then none else (digitsIn? base digits).map fun n => Number.ofInt n

/-- The number that a text without blanks around it counts as. -/
def ofTrimmed? (cs : List Char) : Option Number :=
  match cs with
  | [] => some (.finite 0)
  | '-' :: rest => ofUnsigned? true rest
  | '+' :: rest => ofUnsigned? false rest
  | '0' :: mark :: digits =>
    match baseOf? mark with
    | some base => ofDigits? base digits
    | none => ofUnsigned? false cs
  | cs => ofUnsigned? false cs

/-- The number that a text counts as. -/
def ofText? (cs : List Char) : Option Number := ofTrimmed? (withoutBlanks cs)

end Number

end TodoServer
