/-
The tokens of a JSON text.

Splitting a text into tokens is one pass of a machine over its characters. Outside texts a
token is a punctuation character or a word, a run of the characters that numbers and names are
made of; a text is read up to its closing quote, its escapes becoming units, so halves of
surrogate pairs are read and written by themselves. Words are judged when they end, so the
grammar of numbers is stated once, for whole words.

* `Json.Token` — the tokens;
* `Json.Token.written` — how each is written;
* `Json.tokens?` — the tokens of a text, none where some character cannot belong to any.
-/
import TodoServer.Text.Units
import TodoServer.Number.Decimal

namespace TodoServer.Json

/-- A token of a JSON text. -/
inductive Token
  | openObject
  | closeObject
  | openArray
  | closeArray
  | colon
  | comma
  | null
  | bool (value : Bool)
  | number (value : Number)
  | text (value : Text)
deriving DecidableEq, Repr

/-! ### Reading -/

/-- What is being read. Units and characters are kept newest first. -/
inductive Mode
  | between
  | word (seen : List Char)
  | inText (seen : List UInt16)
  | escape (seen : List UInt16)
  | unicode (seen : List UInt16) (code : Nat) (left : Nat)

/-- The tokens read, newest first, and what is being read. -/
structure Lexer where
  read : List Token
  mode : Mode

def isSpace (c : Char) : Bool := c = ' ' || c = '\t' || c = '\n' || c = '\r'

def isWordChar (c : Char) : Bool := isAlphanumeric c || c = '+' || c = '-' || c = '.'

/-- The token of a word. -/
def word? (cs : List Char) : Option Token :=
  if cs = "null".toList then some .null
  else if cs = "true".toList then some (.bool true)
  else if cs = "false".toList then some (.bool false)
  else (Decimal.read? cs).map fun d => .number d.value

def punctuation? : Char → Option Token
  | '\x7b' => some .openObject
  | '\x7d' => some .closeObject
  | '[' => some .openArray
  | ']' => some .closeArray
  | ':' => some .colon
  | ',' => some .comma
  | _ => none

/-- The character that a short escape stands for. -/
def shortEscape? : Char → Option Char
  | '"' => some '"'
  | '\\' => some '\\'
  | '/' => some '/'
  | 'b' => some '\x08'
  | 'f' => some '\x0c'
  | 'n' => some '\n'
  | 'r' => some '\r'
  | 't' => some '\t'
  | _ => none

/-- Units read, newest first, with those of one more character. -/
def pushUnits (seen : List UInt16) (c : Char) : List UInt16 :=
  (Text.charUnits c).reverse ++ seen

def start (read : List Token) (c : Char) : Option Lexer :=
  if isSpace c then some ⟨read, .between⟩
  else if c = '"' then some ⟨read, .inText []⟩
  else if isWordChar c then some ⟨read, .word [c]⟩
  else (punctuation? c).map fun t => ⟨t :: read, .between⟩

def lexStep (s : Lexer) (c : Char) : Option Lexer :=
  match s.mode with
  | .between => start s.read c
  | .word seen =>
    if isWordChar c then some ⟨s.read, .word (c :: seen)⟩
    else (word? seen.reverse).bind fun t => start (t :: s.read) c
  | .inText seen =>
    if c = '"' then some ⟨.text ⟨seen.reverse⟩ :: s.read, .between⟩
    else if c = '\\' then some ⟨s.read, .escape seen⟩
    else if c.toNat < 0x20 then none
    else some ⟨s.read, .inText (pushUnits seen c)⟩
  | .escape seen =>
    if c = 'u' then some ⟨s.read, .unicode seen 0 4⟩
    else (shortEscape? c).map fun e => ⟨s.read, .inText (pushUnits seen e)⟩
  | .unicode seen code left =>
    (hexValue? c).map fun d =>
      if left ≤ 1 then ⟨s.read, .inText (UInt16.ofNat (code * 16 + d) :: seen)⟩
      else ⟨s.read, .unicode seen (code * 16 + d) (left - 1)⟩

/-- The tokens once the text has ended; a text literal may not be left open. -/
def Lexer.finish? (s : Lexer) : Option (List Token) :=
  match s.mode with
  | .between => some s.read.reverse
  | .word seen => (word? seen.reverse).map fun t => (t :: s.read).reverse
  | _ => none

/-- The tokens of a JSON text. -/
def tokens? (cs : List Char) : Option (List Token) :=
  (cs.foldlM lexStep ⟨[], .between⟩).bind Lexer.finish?

/-! ### Writing -/

/-- A character inside a written text: quotes, backslashes and control characters are
escaped. -/
def escaped (c : Char) : List Char :=
  if c = '"' then ['\\', '"']
  else if c = '\\' then ['\\', '\\']
  else if c = '\x08' then ['\\', 'b']
  else if c = '\t' then ['\\', 't']
  else if c = '\n' then ['\\', 'n']
  else if c = '\x0c' then ['\\', 'f']
  else if c = '\r' then ['\\', 'r']
  else if c.toNat < 0x20 then '\\' :: 'u' :: fixedDigits 16 4 c.toNat
  else [c]

/-- A piece inside a written text: a half of a pair without its partner is escaped. -/
def writtenPiece : Text.Piece → List Char
  | .char c => escaped c
  | .half unit => '\\' :: 'u' :: fixedDigits 16 4 unit.toNat

def quoted (t : Text) : List Char := '"' :: t.pieces.flatMap writtenPiece ++ ['"']

/-- How a token is written. An infinite number has no form of its own and is written as
null. -/
def Token.written : Token → List Char
  | .openObject => ['\x7b']
  | .closeObject => ['\x7d']
  | .openArray => ['[']
  | .closeArray => [']']
  | .colon => [':']
  | .comma => [',']
  | .null => "null".toList
  | .bool true => "true".toList
  | .bool false => "false".toList
  | .number value => value.text?.getD "null".toList
  | .text value => quoted value

end TodoServer.Json
