/-
The target of a request: from what follows the host to a path and a query.

Blanks at the end and line breaks anywhere are dropped, a backslash is a slash, segments `.`
and `..` are resolved even when their dots are escaped, and characters that an address cannot
hold are escaped; a fragment is dropped. The path that routes are matched on then has its
escapes read, save for those of reserved characters and of the percent sign, and where a run of
escapes spells no text. A path read is one that, written again, reads as itself: where a stray
percent sign would make up an escape with what was read after it, the stray signs are escaped
first.

* `Target.ofText` — the target that a text writes, and `Target.hostRest` what precedes it
  there;
* `Target.path` — the path that routes are matched on;
* `Target.parameters` — the names and values of the query.
-/
import TodoServer.Text.Percent

namespace TodoServer

/-- A target: the segments of its path and its query without question mark, both escaped. -/
structure Target where
  segments : List (List Char)
  query : List Char
deriving DecidableEq, Repr

namespace Target

/-! ### Reading -/

/-- Whether a segment names the place itself. -/
def isSelf (segment : List Char) : Bool :=
  let text := segment.map lowerAscii
  text = ".".toList || text = "%2e".toList

/-- Whether a segment names the place above. -/
def isParent (segment : List Char) : Bool :=
  let text := segment.map lowerAscii
  text = "..".toList || text = ".%2e".toList || text = "%2e.".toList || text = "%2e%2e".toList

/-- Segments with their dots resolved; those already passed are given last first. Dots at the
end leave an empty segment, so the path ends in a slash. -/
def resolve : List (List Char) → List (List Char) → List (List Char)
  | passed, [] => passed.reverse
  | passed, [segment] =>
    if isParent segment then ([] :: passed.tail).reverse
    else if isSelf segment then ([] :: passed).reverse
    else (segment :: passed).reverse
  | passed, segment :: rest =>
    if isParent segment then resolve passed.tail rest
    else if isSelf segment then resolve passed rest
    else resolve (segment :: passed) rest

/-- Whether every part of an address holds the character unescaped. -/
def isPlain (c : Char) : Bool := 0x20 < c.toNat && c.toNat ≤ 0x7E && !"\"#<>".toList.contains c

/-- Whether a path holds the character unescaped. -/
def isPathChar (c : Char) : Bool := isPlain c && !"?`\x7b\x7d".toList.contains c

/-- Whether a query holds the character unescaped. -/
def isQueryChar (c : Char) : Bool := isPlain c && c ≠ '\x27'

/-- A text without the blanks at its end and without line breaks and tabs. -/
def cleaned (cs : List Char) : List Char :=
  (cs.reverse.dropWhile fun c => c.toNat ≤ 0x20).reverse.filter fun c =>
    c ≠ '\t' && c ≠ '\n' && c ≠ '\r'

/-- Whether a character ends the host. -/
def endsHost (c : Char) : Bool := c = '/' || c = '\\' || c = '?' || c = '#'

/-- What of a text written after a host still belongs to it: all that precedes a delimiter. -/
def hostRest (text : String) : List Char :=
  (cleaned text.toList).takeWhile fun c => !endsHost c

/-- The target written after a host. -/
def ofText (text : String) : Target :=
  let cs := (cleaned text.toList).dropWhile fun c => !endsHost c
  let path := (cs.takeWhile fun c => c ≠ '?' && c ≠ '#').map fun c =>
    if c = '\\' then '/' else c
  let query :=
    match cs.dropWhile fun c => c ≠ '?' && c ≠ '#' with
    | '?' :: rest => rest.takeWhile (· ≠ '#')
    | _ => []
  ⟨(resolve [] (path.tail.splitOn '/')).map (Percent.encode isPathChar),
    Percent.encode isQueryChar query⟩

/-! ### The path -/

/-- Whether a byte stays escaped in a path: a reserved character, or the percent sign. -/
def staysEscaped (byte : UInt8) : Bool := (Utf8.encode ";/?:@&=+$,#%").contains byte

/-- A path with its escapes read. -/
def read (cs : List Char) : List Char := Percent.decodeExcept staysEscaped cs

/-- Whether a path that has been read is written with the character as it is. -/
def isWritten (c : Char) : Bool :=
  Percent.isUnreserved c || ";/?:@&=+$,#%".toList.contains c

/-- A path that has been read, written again. -/
def respelled (cs : List Char) : List Char := Percent.encode isWritten cs

/-- A path with its stray percent signs escaped, which begin no escape. -/
def escapeStray (cs : List Char) : List Char :=
  (Percent.pieces cs).flatMap fun
    | .plain '%' => "%25".toList
    | piece => piece.written

/-- A path read so that, written again, it reads as itself. -/
def readOnce (cs : List Char) : List Char :=
  if read (respelled (read cs)) = read cs then read cs else read (escapeStray cs)

/-- The path as it is written. -/
def written (t : Target) : List Char := t.segments.flatMap fun segment => '/' :: segment

/-- The path that routes are matched on. -/
def path (t : Target) : Text := .ofChars (readOnce t.written)

/-! ### The query -/

/-- A name or value of a query: a plus sign is a blank, then escapes are read. -/
def queryText (cs : List Char) : String :=
  String.ofList (Percent.decode (cs.map fun c => if c = '+' then ' ' else c))

/-- A name and its value; a name without an equals sign has the empty value. -/
def parameter (cs : List Char) : String × String :=
  (queryText (cs.takeWhile (· ≠ '=')), queryText ((cs.dropWhile (· ≠ '=')).drop 1))

/-- The names and values of the query, in order; values without a name are left out. -/
def parameters (t : Target) : List (String × String) :=
  ((t.query.splitOn '&').map parameter).filter fun p => p.1 ≠ ""

end Target

end TodoServer
