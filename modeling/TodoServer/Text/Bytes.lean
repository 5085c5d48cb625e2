/-
Texts and bytes: UTF-8 in both directions, and base 64 read leniently.

Reading UTF-8 is a machine over bytes that never fails: a byte that cannot go on the character
begun ends that character as a bad one and is then read afresh, so a broken sequence costs what
was read of it and nothing that follows.

Tokens and keys come from outside, so reading base 64 never fails either: both alphabets count,
a character of neither is skipped, reading ends at the first `=`, a single left-over digit is
dropped and so are left-over bits. Of each unit of a text only the low byte is looked at, so a
unit above 255 reads as the character of its low byte.

* `Utf8.encode` — the bytes of a text, a half of a pair without its partner as `U+FFFD`;
* `Utf8.scan` — the characters of a byte sequence, `none` for each broken sequence in it;
* `Utf8.decode?` — strict reading, for escapes that must spell a text or stay as they are;
* `Utf8.decode` — lenient reading, every broken sequence as `U+FFFD`;
* `Utf8.decodeDocument` — lenient reading after one leading byte order mark, as documents are
  read;
* `Utf8.decodeBody` — reading of the body of a message, which may bear a mark of its own before
  that of the document in it;
* `Base64.decode` — the bytes that a text writes in base 64.
-/
import TodoServer.Text.Units

namespace TodoServer

namespace Utf8

def encodeChars (cs : List Char) : List UInt8 := cs.flatMap String.utf8EncodeChar

/-- The bytes of a text. -/
def encode (t : Text) : List UInt8 := encodeChars t.chars

/-- A character begun: the bits read so far, how many bytes are owed, and the range that the
next one must lie in. -/
structure Pending where
  bits : Nat
  owed : Nat
  least : Nat
  greatest : Nat
deriving DecidableEq, Repr

/-- Where the machine stands: the characters read, newest first, and the character begun. -/
structure State where
  done : List (Option Char)
  pending : Option Pending
deriving DecidableEq, Repr

/-- The state before the first byte. -/
def State.start : State := ⟨[], none⟩

/-- A byte read where a character begins. The ranges of the second byte leave out the forms
that spell a character too long, the surrogates and what lies beyond `U+10FFFF`. -/
def lead (done : List (Option Char)) (b : Nat) : State :=
  if b ≤ 0x7F then ⟨some (Char.ofNat b) :: done, none⟩
  else if 0xC2 ≤ b ∧ b ≤ 0xDF then ⟨done, some ⟨b - 0xC0, 1, 0x80, 0xBF⟩⟩
  else if b = 0xE0 then ⟨done, some ⟨0, 2, 0xA0, 0xBF⟩⟩
  else if b = 0xED then ⟨done, some ⟨0xD, 2, 0x80, 0x9F⟩⟩
  else if 0xE1 ≤ b ∧ b ≤ 0xEF then ⟨done, some ⟨b - 0xE0, 2, 0x80, 0xBF⟩⟩
  else if b = 0xF0 then ⟨done, some ⟨0, 3, 0x90, 0xBF⟩⟩
  else if 0xF1 ≤ b ∧ b ≤ 0xF3 then ⟨done, some ⟨b - 0xF0, 3, 0x80, 0xBF⟩⟩
  else if b = 0xF4 then ⟨done, some ⟨4, 3, 0x80, 0x8F⟩⟩
  else ⟨none :: done, none⟩

def step (s : State) (byte : UInt8) : State :=
  match s.pending with
  | none => lead s.done byte.toNat
  | some p =>
    if p.least ≤ byte.toNat ∧ byte.toNat ≤ p.greatest then
      let bits := p.bits * 64 + (byte.toNat - 0x80)
      if p.owed ≤ 1 then ⟨some (Char.ofNat bits) :: s.done, none⟩
      else ⟨s.done, some ⟨bits, p.owed - 1, 0x80, 0xBF⟩⟩
    else lead (none :: s.done) byte.toNat

/-- The characters read once the bytes have ended; one that is still owed bytes is broken. -/
def State.finish (s : State) : List (Option Char) :=
  match s.pending with
  | none => s.done.reverse
  | some _ => (none :: s.done).reverse

/-- The characters of a byte sequence, `none` for each broken sequence. -/
def scan (bytes : List UInt8) : List (Option Char) := (bytes.foldl step State.start).finish

/-- The characters that the bytes spell, if no sequence is broken. -/
def decode? (bytes : List UInt8) : Option (List Char) := (scan bytes).mapM id

/-- The characters of the bytes, the replacement character for each broken sequence. -/
def decode (bytes : List UInt8) : List Char := (scan bytes).map (·.getD Text.replacement)

/-- The bytes without one leading byte order mark. -/
def dropMark : List UInt8 → List UInt8
  | 0xEF :: 0xBB :: 0xBF :: rest => rest
  | bytes => bytes

/-- The characters of a document's bytes. -/
def decodeDocument (bytes : List UInt8) : List Char := decode (dropMark bytes)

/-- The characters of a message body's bytes. -/
def decodeBody (bytes : List UInt8) : List Char := decodeDocument (dropMark bytes)

end Utf8

namespace Base64

/-- The value of a digit in either alphabet. -/
def digitValue? (c : Char) : Option Nat :=
  if 'A' ≤ c ∧ c ≤ 'Z' then some (c.toNat - 'A'.toNat)
  else if 'a' ≤ c ∧ c ≤ 'z' then some (c.toNat - 'a'.toNat + 26)
  else if '0' ≤ c ∧ c ≤ '9' then some (c.toNat - '0'.toNat + 52)
  else if c = '-' ∨ c = '+' then some 62
  else if c = '_' ∨ c = '/' then some 63
  else none

/-- The bytes of a sequence of digits, four digits to three bytes. -/
def bytes : List Nat → List UInt8
  | a :: b :: c :: d :: rest =>
    UInt8.ofNat (a * 4 + b / 16) :: UInt8.ofNat (b % 16 * 16 + c / 4) ::
      UInt8.ofNat (c % 4 * 64 + d) :: bytes rest
  | [a, b, c] => [UInt8.ofNat (a * 4 + b / 16), UInt8.ofNat (b % 16 * 16 + c / 4)]
  | [a, b] => [UInt8.ofNat (a * 4 + b / 16)]
  | _ => []

/-- The character of a unit's low byte. -/
def lowCharacter (unit : UInt16) : Char := Char.ofNat (unit.toNat % 256)

def decode (t : Text) : List UInt8 :=
  bytes (((t.units.map lowCharacter).takeWhile (· ≠ '=')).filterMap digitValue?)

end Base64

end TodoServer
