/-
Texts as sequences of units of sixteen bits.

A text that comes from outside need not be well formed: an escape in a document can write half
of a surrogate pair. So a text is kept as its units, by which it is compared, ordered and
measured; it has characters only up to replacing the halves that have no partner.

* `Text` — texts, and `Text.ofString` those that are sequences of characters;
* `Text.pieces` — the characters of a text and the halves left over;
* `Text.chars`, `Text.toString` — its characters, `U+FFFD` for each half left over.
-/
namespace TodoServer

/-- A text, by its units. -/
structure Text where
  units : List UInt16
deriving DecidableEq, Repr

namespace Text

/-! ### Texts of characters -/

/-- The units of a character: one, or a surrogate pair. -/
def charUnits (c : Char) : List UInt16 :=
  if c.toNat ≤ 0xFFFF then [UInt16.ofNat c.toNat]
  else
    [UInt16.ofNat (0xD800 + (c.toNat - 0x10000) / 0x400),
      UInt16.ofNat (0xDC00 + (c.toNat - 0x10000) % 0x400)]

def ofChars (cs : List Char) : Text := ⟨cs.flatMap charUnits⟩

/-- The text of a string. -/
def ofString (s : String) : Text := ofChars s.toList

instance : Coe String Text := ⟨ofString⟩

instance : Append Text := ⟨fun a b => ⟨a.units ++ b.units⟩⟩

/-- The order of texts, unit by unit. -/
instance : LT Text := ⟨fun a b => a.units < b.units⟩

instance (a b : Text) : Decidable (a < b) := inferInstanceAs (Decidable (a.units < b.units))

/-- The length of a text, in units. -/
def length (t : Text) : Nat := t.units.length

def isEmpty (t : Text) : Bool := t.units.isEmpty

/-- Texts joined, a separator between each two. -/
def join (separator : Text) : List Text → Text
  | [] => ⟨[]⟩
  | [t] => t
  | t :: rest => t ++ separator ++ join separator rest

/-! ### The characters of a text -/

/-- Whether a unit is the first half of a pair. -/
def isHigh (unit : UInt16) : Bool := 0xD800 ≤ unit.toNat && unit.toNat ≤ 0xDBFF

/-- Whether a unit is the second half of a pair. -/
def isLow (unit : UInt16) : Bool := 0xDC00 ≤ unit.toNat && unit.toNat ≤ 0xDFFF

def paired (high low : UInt16) : Char :=
  Char.ofNat (0x10000 + (high.toNat - 0xD800) * 0x400 + (low.toNat - 0xDC00))

/-- What a text consists of: characters, and halves of pairs that have no partner. -/
inductive Piece
  | char (c : Char)
  | half (unit : UInt16)
deriving DecidableEq, Repr

/-- The pieces read, newest first, and a first half that waits for the second. -/
structure Reading where
  done : List Piece
  high : Option UInt16

/-- A unit where no half waits. -/
def Reading.start (done : List Piece) (unit : UInt16) : Reading :=
  if isHigh unit then ⟨done, some unit⟩
  else if isLow unit then ⟨.half unit :: done, none⟩
  else ⟨.char (Char.ofNat unit.toNat) :: done, none⟩

def Reading.step (s : Reading) (unit : UInt16) : Reading :=
  match s.high with
  | none => .start s.done unit
  | some high =>
    if isLow unit then ⟨.char (paired high unit) :: s.done, none⟩
    else .start (.half high :: s.done) unit

def Reading.finish (s : Reading) : List Piece :=
  match s.high with
  | none => s.done.reverse
  | some high => (.half high :: s.done).reverse

/-- The pieces of a text. -/
def pieces (t : Text) : List Piece := (t.units.foldl Reading.step ⟨[], none⟩).finish

/-- What stands for a half without its partner. -/
def replacement : Char := '\uFFFD'

def Piece.toChar : Piece → Char
  | .char c => c
  | .half _ => replacement

/-- The characters of a text, the replacement character for each half left over. -/
def chars (t : Text) : List Char := t.pieces.map Piece.toChar

/-- The characters of a text as a string. -/
def toString (t : Text) : String := String.ofList t.chars

/-- The character that a piece is, if it is one. -/
def Piece.char? : Piece → Option Char
  | .char c => some c
  | .half _ => none

/-- The string that a text is, if no half is left over in it. -/
def string? (t : Text) : Option String := (t.pieces.mapM Piece.char?).map String.ofList

end Text

end TodoServer
