/-
Labels of domains written in letters, digits and hyphens alone.

The characters of ASCII come first as they are, up to the last hyphen. What follows are
numbers, each saying how far on the next character is, counted through all places of the label
for every character of the alphabet in turn. A number is written in digits to base 36, the
least first; the digit below its threshold is the last, and thresholds follow the size of the
numbers read so far.

* `Punycode.decode?` — the label that a text writes, if it writes one.
-/
import TodoServer.Text.Characters

namespace TodoServer.Punycode

/-- The value of a digit: letters count from zero, then come the decimal digits. -/
def digit? (c : Char) : Option Nat :=
  if 'a' ≤ c ∧ c ≤ 'z' then some (c.toNat - 'a'.toNat)
  else if 'A' ≤ c ∧ c ≤ 'Z' then some (c.toNat - 'A'.toNat)
  else (decimalValue? c).map (· + 26)

/-- The threshold of a digit, which lies a multiple of 36 places after the bias. -/
def threshold (place bias : Nat) : Nat := max 1 (min 26 (place - bias))

/-- The greatest number that may come up. -/
def limit : Nat := Nat.pow 2 31 - 1

/-- A number at the start and what follows it. -/
def number? (bias : Nat) : List Char → Nat → Nat → Nat → Option (Nat × List Char)
  | [], _, _, _ => none
  | c :: rest, place, weight, sum => do
    let digit ← digit? c
    let sum := sum + digit * weight
    let least := threshold place bias
    if limit < sum then none
    else if digit < least then some (sum, rest)
    else if limit < weight * (36 - least) then none
    else number? bias rest (place + 36) (weight * (36 - least)) sum

/-- Reading a number uses up characters. -/
theorem length_lt_of_number? {bias : Nat} {cs : List Char} {place weight sum : Nat}
    {r : Nat × List Char} (h : number? bias cs place weight sum = some r) :
    r.2.length < cs.length := by
  induction cs generalizing place weight sum with
  | nil => simp [number?] at h
  | cons c rest ih =>
    rw [number?] at h
    obtain ⟨digit, _, h⟩ := Option.bind_eq_some_iff.1 h
    dsimp only at h
    split at h
    · cases h
    · split at h
      · cases h; simp
      · split at h
        · cases h
        · exact Nat.lt_succ_of_lt (ih h)

/-- The bias after a number of a certain size: how often it can be divided until it is
small. -/
def scaled (number : Nat) : Nat :=
  if 455 < number then 36 + scaled (number / 35) else 36 * number / (number + 38)
termination_by number

/-- The bias for the next number, after one with which the label has `count` characters. -/
def adapted (number count : Nat) (isFirst : Bool) : Nat :=
  let halved := if isFirst then number / 700 else number / 2
  scaled (halved + halved / count)

/-- Where reading stands. -/
structure Progress where
  label : List Char
  /-- The character of the alphabet that was reached. -/
  code : Nat
  /-- The place in the label that was reached. -/
  place : Nat
  bias : Nat

/-- A number read: the character it leads to stands in its place. -/
def Progress.advance? (p : Progress) (reached : Nat) : Option Progress :=
  let count := p.label.length + 1
  let code := p.code + reached / count
  let place := reached % count
  if code < 0x80 ∨ ¬ code.isValidChar then none
  else
    some
      { label := p.label.take place ++ Char.ofNat code :: p.label.drop place
        code, place := place + 1
        bias := adapted (reached - p.place) count (p.place = 0) }

def extend? (p : Progress) (cs : List Char) : Option (List Char) :=
  if cs = [] then some p.label
  else
    match h : number? p.bias cs 36 1 p.place with
    | none => none
    | some (reached, rest) =>
      have := length_lt_of_number? h
      (p.advance? reached).bind fun p => extend? p rest
termination_by cs.length

/-- The label that a text writes. -/
def decode? (cs : List Char) : Option (List Char) :=
  let digits := cs.reverse.takeWhile (· ≠ '-')
  let plain := (cs.reverse.dropWhile (· ≠ '-')).drop 1
  extend? ⟨plain.reverse, 0x80, 0, 72⟩ digits.reverse

end TodoServer.Punycode
