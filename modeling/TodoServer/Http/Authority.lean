/-
What stands between the scheme of an address and its path: a host, and before it perhaps
credentials, after it perhaps a port.

A host is the name of one, or its number in four or sixteen bytes. A name whose last label is a
number is a number as a whole; sixteen bytes are written between brackets.

* `Authority.isHost` — whether a text is a host;
* `Authority.fault?` — what is wrong with an authority that a request is to be sent to.
-/
import TodoServer.Http.Domain

namespace TodoServer.Authority

/-! ### Numbers of four bytes -/

/-- A number: to base 16 after `0x`, to base 8 after a zero, else to base 10. -/
def part? (cs : List Char) : Option Nat :=
  match cs with
  | [] => none
  | '0' :: 'x' :: digits => digitsIn? 16 digits
  | '0' :: 'X' :: digits => digitsIn? 16 digits
  | '0' :: digits => digitsIn? 8 digits
  | digits => digitsIn? 10 digits

/-- The labels of a name, without the empty one after a full stop at its end. -/
def labels (name : List Char) : List (List Char) :=
  let all := name.splitOn '.'
  if all.getLast? = some [] ∧ 1 < all.length then all.dropLast else all

/-- Whether the last label of a name is a number. -/
def endsInNumber (name : List Char) : Bool :=
  (labels name).getLast?.any fun last => (numeral? last).isSome || (part? last).isSome

/-- Whether numbers make up four bytes: each is one, save that the last fills what is left. -/
def fillsFour : List Nat → Bool
  | parts => parts.length ≤ 4 && parts.dropLast.all (· ≤ 255) &&
    (parts.getLast?.any (· < Nat.pow 256 (5 - parts.length)))

/-- Whether a name is a number of four bytes. -/
def isFour (name : List Char) : Bool := ((labels name).mapM part?).any fillsFour

/-! ### Numbers of sixteen bytes -/

/-- Whether a text is two bytes in hexadecimal digits. -/
def isGroup (cs : List Char) : Bool := 1 ≤ cs.length && cs.length ≤ 4 && cs.all isHex

/-- Whether a text is a byte in decimal digits, without a leading zero. -/
def isByte (cs : List Char) : Bool :=
  (numeral? cs).any (· ≤ 255) && (cs.head? ≠ some '0' || cs = ['0'])

/-- Whether a text is four bytes with points between them. -/
def isDotted (cs : List Char) : Bool :=
  (cs.splitOn '.').length = 4 && (cs.splitOn '.').all isByte

/-- How many groups of two bytes a text writes with colons between them. At the end of a number
the last four bytes may be written with points. -/
def groups? (atEnd : Bool) (cs : List Char) : Option Nat :=
  let parts := cs.splitOn ':'
  if cs = [] then some 0
  else if parts.all isGroup then some parts.length
  else if atEnd ∧ parts.dropLast.all isGroup ∧ parts.getLast?.any isDotted then
    some (parts.length + 1)
  else none

/-- What precedes the first two colons that stand together, and what follows them. -/
def atGap? : List Char → Option (List Char × List Char)
  | [] => none
  | [_] => none
  | c :: d :: rest =>
    if c = ':' ∧ d = ':' then some ([], rest)
    else (atGap? (d :: rest)).map fun (before, after) => (c :: before, after)

/-- Whether a text is a number of sixteen bytes: eight groups, or fewer and a gap for the
rest. -/
def isSixteen (cs : List Char) : Bool :=
  match atGap? cs with
  | none => groups? true cs = some 8
  | some (before, after) =>
    match groups? false before, groups? true after with
    | some m, some n => m + n ≤ 7
    | _, _ => false

/-! ### Hosts -/

/-- Whether a text is a host. -/
def isHost (cs : List Char) : Bool :=
  match cs with
  | '[' :: rest => rest.getLast? = some ']' && isSixteen rest.dropLast
  | cs => (Domain.ofEscaped? cs).any fun name => !endsInNumber name || isFour name

/-- The host, and the port after the first colon that is not between brackets. -/
def splitPort : Bool → List Char → List Char × Option (List Char)
  | _, [] => ([], none)
  | isBracketed, c :: rest =>
    if c = ':' ∧ !isBracketed then ([], some rest)
    else
      let (host, port) := splitPort (c = '[' || (isBracketed && c ≠ ']')) rest
      (c :: host, port)

/-- Whether a text is a port, which may be left out after its colon. -/
def isPort (cs : List Char) : Bool := cs = [] || (numeral? cs).any (· ≤ 65535)

/-- Whether a text is a host with or without a port. -/
def isPlace (cs : List Char) : Bool :=
  let (host, port) := splitPort false cs
  isHost host && port.all isPort

/-- What can be wrong with an authority. -/
inductive Fault
  /-- It names no host, or no port. -/
  | unreadable
  /-- It has credentials, which no request is made with. -/
  | credentials
deriving DecidableEq, Repr

/-- What follows the last at sign. -/
def afterCredentials (cs : List Char) : List Char := (cs.reverse.takeWhile (· ≠ '@')).reverse

/-- What is wrong with an authority. -/
def fault? (cs : List Char) : Option Fault :=
  if !isPlace (afterCredentials cs) then some .unreadable
  else if cs.contains '@' then some .credentials
  else none

end TodoServer.Authority
