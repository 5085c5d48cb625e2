/-
Numbers of double precision, as values.

A number is an exact rational or an infinity of either sign; arithmetic is done exactly and
rounded once, to the nearest number of 53 significant bits and at least 2⁻¹⁰⁷⁴, a tie going to
the even neighbour. Values and their order are all that is kept: no text, comparison or sum
used here tells a negative zero from zero, and no operation yields a value that is no number.

* `Number.ofRat` — the number nearest to a rational;
* `Number.le`, `Number.lt` — the order, infinities at its ends;
* `Number.integer?` — the integer that a number is, if it is one.
-/
namespace TodoServer

/-- A number of double precision. -/
inductive Number
  | finite (value : Rat)
  | infinite (negative : Bool)
deriving DecidableEq, Repr

namespace Number

/-- The integer nearest to a quotient, a tie going to the even one. -/
def roundQuotient (num den : Nat) : Nat :=
  let q := num / den
  let twice := 2 * (num % den)
  if den < twice ∨ (den = twice ∧ q % 2 = 1) then q + 1 else q

/-- The greatest `e` with `2 ^ e ≤ num / den`, for a positive quotient. -/
def binaryExponent (num den : Nat) : Int :=
  let estimate : Int := (num.log2 : Int) - (den.log2 : Int)
  let reached := if 0 ≤ estimate then den * Nat.pow 2 estimate.toNat ≤ num
    else den ≤ num * Nat.pow 2 (-estimate).toNat
  if reached then estimate else estimate - 1

/-- The weight of the last bit kept of a positive quotient, as an exponent of two. -/
def lastBit (num den : Nat) : Int := max (binaryExponent num den - 52) (-1074)

/-- A positive quotient rounded to a multiple of its last bit. -/
def roundPositive (num den : Nat) : Rat :=
  let e := lastBit num den
  if 0 ≤ e then
    ((roundQuotient num (den * Nat.pow 2 e.toNat) * Nat.pow 2 e.toNat : Nat) : Rat)
  else mkRat (roundQuotient (num * Nat.pow 2 (-e).toNat) den) (Nat.pow 2 (-e).toNat)

/-- The least value too large for a finite number. -/
def bound : Rat := (Nat.pow 2 1024 : Rat)

/-- The number nearest to a rational. -/
def ofRat (q : Rat) : Number :=
  if q.num = 0 then .finite 0
  else
    let rounded := roundPositive q.num.natAbs q.den
    if bound ≤ rounded then .infinite (q.num < 0)
    else .finite (if q.num < 0 then -rounded else rounded)

def ofInt (n : Int) : Number := ofRat n

/-- Whether one number is less than another. -/
def lt : Number → Number → Bool
  | .finite a, .finite b => a < b
  | .finite _, .infinite negative => !negative
  | .infinite negative, .finite _ => negative
  | .infinite a, .infinite b => a && !b

/-- Whether one number is at most another. -/
def le (a b : Number) : Bool := !lt b a

/-- The integer that a number is, if it is one. -/
def integer? : Number → Option Int
  | .finite value => if value.den = 1 then some value.num else none
  | .infinite _ => none

/-- A number times a positive factor. -/
def scale (factor : Nat) : Number → Number
  | .finite value => ofRat (value * factor)
  | .infinite negative => .infinite negative

/-- The difference of two numbers, if it is one. -/
def sub? : Number → Number → Option Number
  | .finite a, .finite b => some (ofRat (a - b))
  | .finite _, .infinite negative => some (.infinite !negative)
  | .infinite negative, .finite _ => some (.infinite negative)
  | .infinite a, .infinite b => if a = b then none else some (.infinite a)

/-- The nearest integer, a half going up. -/
def roundHalfUp : Number → Number
  | .finite value => .finite (((value + 1 / 2).floor : Int) : Rat)
  | .infinite negative => .infinite negative

/-- A number as a rational. The infinite ones lie just beyond all others. -/
def toRat : Number → Rat
  | .finite value => value
  | .infinite negative => if negative then -bound else bound

/-- A finite number cut to the integer nearest to it on the side of zero. -/
def truncate? : Number → Option Int
  | .finite value => some (value.num.tdiv value.den)
  | .infinite _ => none

end Number

end TodoServer
