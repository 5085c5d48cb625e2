/-
Kinds of characters, and what is written in few of them.

Settings, identifiers, timestamps and percent escapes are all written in ASCII, so a digit here
is one of `0`–`9` and no digit of another script, and letter case is folded within `A`–`Z`
only. Blanks are those of all scripts: they set words and numbers apart and stand for nothing
themselves.

Records are named by the five-group form of 128-bit identifiers, in either letter case; any
other text names nothing. Identifiers that are handed out in sequence keep four groups fixed
and count in the last, so they sort as their numbers do.

* `decimalValue?`, `hexValue?` — what a digit stands for, none for any other character;
* `numeral?` — the number a text of decimal digits writes, none when it is empty or holds
  anything that is not a digit, and `digitsIn?` the same to another base, where no digit at all
  is zero;
* `fixedDigits` — the last digits of a number, always the asked-for many, so that numerals of
  one width sort as the numbers do;
* `isBlank` — the blanks: spaces, and what ends a line;
* `Uuid.isWellFormed` — whether a text has the five-group form;
* `Uuid.ofNumber` — the identifier of a number.
-/
import TodoServer.Text.Units

namespace TodoServer

/-! ### Digits and letters -/

/-- The value of a decimal digit. -/
def decimalValue? (c : Char) : Option Nat :=
  if '0' ≤ c ∧ c ≤ '9' then some (c.toNat - '0'.toNat) else none

/-- Whether the character is one of `0`–`9`. -/
def isDecimal (c : Char) : Bool := (decimalValue? c).isSome

/-- The value of a hexadecimal digit in either case. -/
def hexValue? (c : Char) : Option Nat :=
  if '0' ≤ c ∧ c ≤ '9' then some (c.toNat - '0'.toNat)
  else if 'a' ≤ c ∧ c ≤ 'f' then some (c.toNat - 'a'.toNat + 10)
  else if 'A' ≤ c ∧ c ≤ 'F' then some (c.toNat - 'A'.toNat + 10)
  else none

/-- Whether the character is a hexadecimal digit in either case. -/
def isHex (c : Char) : Bool := (hexValue? c).isSome

/-- The lower-case digit of a value below sixteen. -/
def lowerDigit (n : Nat) : Char :=
  if n < 10 then Char.ofNat ('0'.toNat + n) else Char.ofNat ('a'.toNat + (n - 10))

/-- The upper-case digit of a value below sixteen. -/
def upperDigit (n : Nat) : Char :=
  if n < 10 then Char.ofNat ('0'.toNat + n) else Char.ofNat ('A'.toNat + (n - 10))

/-- Whether the character is an ASCII letter or decimal digit. -/
def isAlphanumeric (c : Char) : Bool :=
  isDecimal c || ('a' ≤ c && c ≤ 'z') || ('A' ≤ c && c ≤ 'Z')

/-- Letters `A`–`Z` in lower case, every other character as it is. -/
def lowerAscii (c : Char) : Char :=
  if 'A' ≤ c ∧ c ≤ 'Z' then Char.ofNat (c.toNat + 32) else c

/-- A text with its letters `A`–`Z` in lower case. -/
def lowerText (s : String) : String := String.ofList (s.toList.map lowerAscii)

/-- A text with its letters `a`–`z` in upper case. -/
def upperText (s : String) : String := String.ofList (s.toList.map Char.toUpper)

/-- The number that digits write, read from the left; any other character counts as zero. -/
def digitsValue (cs : List Char) : Nat :=
  cs.foldl (fun total c => total * 10 + (decimalValue? c).getD 0) 0

/-- The number that a text of decimal digits writes. -/
def numeral? (cs : List Char) : Option Nat :=
  if cs ≠ [] ∧ cs.all isDecimal then some (digitsValue cs) else none

/-- The number that digits to a base up to sixteen write, none if there is any other
character. -/
def digitsIn? (base : Nat) (cs : List Char) : Option Nat :=
  cs.foldlM
    (fun total c => (hexValue? c).bind fun digit =>
      if digit < base then some (total * base + digit) else none) 0

/-- The last `width` digits of `n` in a base up to sixteen, leading zeros included. -/
def fixedDigits (base : Nat) : Nat → Nat → List Char
  | 0, _ => []
  | width + 1, n => fixedDigits base width (n / base) ++ [lowerDigit (n % base)]

/-- The last `width` decimal digits of `n`. -/
def padded (width n : Nat) : List Char := fixedDigits 10 width n

def hexLength (n : Nat) : Nat := n.log2 / 4 + 1

/-- The hexadecimal digits of `n`, at least `width` of them. -/
def paddedHex (width n : Nat) : List Char := fixedDigits 16 (max width (hexLength n)) n

/-- The bytes that pairs of hexadecimal digits write, up to the first pair that is none. -/
def bytesOfHex : List Char → List UInt8
  | high :: low :: rest =>
    match hexValue? high, hexValue? low with
    | some h, some l => UInt8.ofNat (h * 16 + l) :: bytesOfHex rest
    | _, _ => []
  | _ => []

/-- The part of `cs` after `start`, when `cs` begins with it. -/
def dropStart? (start cs : List Char) : Option (List Char) :=
  if start.isPrefixOf cs then some (cs.drop start.length) else none

/-! ### Blanks -/

/-- Whether a character ends a line: line feed, carriage return, line or paragraph
separator. -/
def isLineEnd (c : Char) : Bool :=
  c.toNat = 0x0A || c.toNat = 0x0D || c.toNat = 0x2028 || c.toNat = 0x2029

/-- Whether a character is a space: a tab, a form feed, the spaces of all scripts or the byte
order mark. -/
def isSpace (c : Char) : Bool :=
  c.toNat = 0x09 || c.toNat = 0x0B || c.toNat = 0x0C || c.toNat = 0x20 || c.toNat = 0xA0 ||
    c.toNat = 0x1680 || (0x2000 ≤ c.toNat && c.toNat ≤ 0x200A) || c.toNat = 0x202F ||
    c.toNat = 0x205F || c.toNat = 0x3000 || c.toNat = 0xFEFF

/-- Whether a character is a blank. -/
def isBlank (c : Char) : Bool := isSpace c || isLineEnd c

/-! ### Identifiers -/

namespace Uuid

def groupLengths : List Nat := [8, 4, 4, 4, 12]

/-- Whether a text is five groups of hexadecimal digits with hyphens between them. -/
def isWellFormed (text : Text) : Bool :=
  let groups := text.chars.splitOn '-'
  groups.map List.length = groupLengths && groups.all fun group => group.all isHex

/-- The identifier of the `n`th record of a sequence. -/
def ofNumber (n : Nat) : String :=
  "00000000-0000-4000-8000-" ++ String.ofList (paddedHex 12 n)

end Uuid

end TodoServer
