/-
Names of hosts.

A name is read with its escapes as UTF-8, its characters are put into one form, and the labels
between its full stops are checked one by one. A label of ASCII alone may be anything, unless
it says that it spells another one; any other must not begin with a mark, must join nothing
that does not join, and must run in one direction. A few signs stand in no name, whatever they
come from.

* `Domain.ofEscaped?` — the name that a text writes, if it writes one;
* `Domain.isLabel` — whether a label may stand in a name.
-/
import TodoServer.Text.DomainChar
import TodoServer.Text.Percent
import TodoServer.Text.Punycode

namespace TodoServer.Domain

open DomainChar

def isAscii (c : Char) : Bool := c.toNat ≤ 0x7F

/-- Whether a character joins those beside it, or keeps them apart. -/
def isJoiner (c : Char) : Bool := c.toNat = 0x200C || c.toNat = 0x200D

/-- Whether every joiner of a label follows a virama. -/
def joins (label : List Char) : Bool :=
  !(label.head?.any isJoiner) &&
    (label.zip label.tail).all fun p => !isJoiner p.2 || isVirama p.1

/-- Whether a character may stand among those that run from right to left. -/
def fitsRightToLeft (c : Char) : Bool :=
  isRightToLeft c || isMark c || (isAscii c && (isDecimal c || !isAlphanumeric c))

/-- Whether a label runs in one direction: if it has anything of a script that runs from right
to left, it begins so and has no letters that run the other way. -/
def runsOneWay (label : List Char) : Bool :=
  !label.any isRightToLeft || (label.head?.any isRightToLeft && label.all fitsRightToLeft)

/-- Whether a label that is not of ASCII alone may stand in a name. -/
def isSpelled (label : List Char) : Bool :=
  !(label.head?.any isMark) && joins label && runsOneWay label

/-- What a label begins with that spells another one. -/
def encodedStart : List Char := "xn--".toList

/-- Whether a label spells another one that has to be spelled: it is not of ASCII alone, is in
its one form, and may stand in a name. -/
def isEncoded (code : List Char) : Bool :=
  match Punycode.decode? code with
  | none => false
  | some label =>
    !label.all isAscii && !label.any isBarred && !label.any isIgnored &&
      label.flatMap simplified = label && isSpelled label

/-- Whether a label may stand in a name. -/
def isLabel (label : List Char) : Bool :=
  match dropStart? encodedStart label with
  | some code => label.all isAscii && isEncoded code
  | none => label.all isAscii || isSpelled label

/-- Whether a sign stands in no name. -/
def isForbidden (c : Char) : Bool :=
  c.toNat ≤ 0x20 || c.toNat = 0x7F || "#%/:<>?@[\\]^|".toList.contains c

/-- A name whose characters are in one form, none if one of them stands in no name. -/
def simplified? (cs : List Char) : Option (List Char) :=
  if cs.any isBarred then none else some ((cs.filter (!isIgnored ·)).flatMap simplified)

/-- The bytes that a text with escapes stands for. -/
def bytes (cs : List Char) : List UInt8 :=
  (Percent.pieces cs).flatMap fun
    | .plain c => String.utf8EncodeChar c
    | piece => [piece.byte]

/-- The name that a text writes. -/
def ofEscaped? (cs : List Char) : Option (List Char) := do
  let name ← simplified? (Utf8.decode (bytes cs))
  if name ≠ [] ∧ (name.splitOn '.').all isLabel ∧ !name.any isForbidden then some name
  else none

end TodoServer.Domain
