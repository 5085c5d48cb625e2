/-
Percent escapes.

Writing keeps a set of characters and spells every other one as the escapes of its UTF-8 bytes.
Reading is tolerant: a run of escapes either spells a text as a whole and is replaced by it, or
it stays as it is written; what is no escape stays too. Some readers keep certain characters
escaped (a path keeps its reserved characters), so reading takes the bytes that stay.

* `Percent.encode` — every character outside the kept set becomes escapes;
* `Percent.encodeComponent` — the kept set is that of one component of an address;
* `Percent.decodeExcept`, `Percent.decode` — tolerant reading.
-/
import TodoServer.Text.Characters
import TodoServer.Text.Bytes

namespace TodoServer.Percent

/-- The escape of a byte, digits in upper case. -/
def escape (byte : UInt8) : List Char :=
  ['%', upperDigit (byte.toNat / 16), upperDigit (byte.toNat % 16)]

/-- A character as itself if kept, else as the escapes of its bytes. -/
def encodeChar (keep : Char → Bool) (c : Char) : List Char :=
  if keep c then [c] else (String.utf8EncodeChar c).flatMap escape

/-- A text with every character outside `keep` escaped. -/
def encode (keep : Char → Bool) (cs : List Char) : List Char := cs.flatMap (encodeChar keep)

/-- The characters that a component of an address holds unescaped. -/
def isUnreserved (c : Char) : Bool := isAlphanumeric c || "-_.!~*'()".toList.contains c

/-- A text written as one component of an address. -/
def encodeComponent (s : String) : String := String.ofList (encode isUnreserved s.toList)

/-- A piece of a text with escapes: a character by itself, or an escape by its two digits. -/
inductive Piece
  | plain (c : Char)
  | escaped (high low : Char)
deriving DecidableEq, Repr

def Piece.written : Piece → List Char
  | .plain c => [c]
  | .escaped high low => ['%', high, low]

def Piece.isEscape : Piece → Bool
  | .plain _ => false
  | .escaped _ _ => true

def Piece.byte : Piece → UInt8
  | .plain _ => 0
  | .escaped high low =>
    UInt8.ofNat ((hexValue? high).getD 0 * 16 + (hexValue? low).getD 0)

/-- The pieces of a text: a percent sign with two hexadecimal digits after it is an escape. -/
def pieces : List Char → List Piece
  | [] => []
  | [c] => [.plain c]
  | [c, d] => [.plain c, .plain d]
  | c :: high :: low :: rest =>
    if c = '%' ∧ isHex high ∧ isHex low then .escaped high low :: pieces rest
    else .plain c :: pieces (high :: low :: rest)

/-- A run of escapes read: those of the kept bytes stay as written, the others spell
characters. -/
def readRun (kept : UInt8 → Bool) (run : List Piece) : List Char :=
  match Utf8.decode? (run.map Piece.byte) with
  | none => run.flatMap Piece.written
  | some _ =>
    (run.splitBy fun a b => !kept a.byte && !kept b.byte).flatMap fun group =>
      if group.any (kept ·.byte) then group.flatMap Piece.written
      else (Utf8.decode? (group.map Piece.byte)).getD []

/-- A text with its escapes read, those of the kept bytes and undecodable runs left as they
are. -/
def decodeExcept (kept : UInt8 → Bool) (cs : List Char) : List Char :=
  ((pieces cs).splitBy fun a b => a.isEscape && b.isEscape).flatMap fun run =>
    if run.all Piece.isEscape then readRun kept run else run.flatMap Piece.written

/-- A text with all its decodable escapes read. -/
def decode (cs : List Char) : List Char := decodeExcept (fun _ => false) cs

end TodoServer.Percent
