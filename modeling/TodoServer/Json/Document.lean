/-
JSON texts and the values they write.

A text is read by its tokens with a stack of the arrays and objects begun, so nesting of any
depth is read in one pass; a value is written as its tokens, one after the other, without white
space.

* `Json.Value.tokens` — the tokens of a value;
* `Json.Value.render` — its text;
* `Json.ofTokens?`, `Json.parse?` — the value that tokens, or a text, write;
* `Json.ofBytes?`, `Json.ofBody?` — the value of a document given as bytes, or as the body of a
  message.
-/
import TodoServer.Text.Bytes
import TodoServer.Json.Basic
import TodoServer.Json.Token

namespace TodoServer.Json

/-! ### Writing -/

mutual

/-- The tokens of a value. -/
def Value.tokens : Value → List Token
  | .null => [.null]
  | .bool value => [.bool value]
  | .number value => [.number value]
  | .text value => [.text value]
  | .array items => .openArray :: itemTokens items ++ [.closeArray]
  | .object members => .openObject :: memberTokens members ++ [.closeObject]

/-- The tokens of items, a comma between each two. -/
def itemTokens : List Value → List Token
  | [] => []
  | [item] => item.tokens
  | item :: rest => item.tokens ++ .comma :: itemTokens rest

/-- The tokens of members, a comma between each two. -/
def memberTokens : List Member → List Token
  | [] => []
  | [(name, value)] => .text name :: .colon :: value.tokens
  | (name, value) :: rest =>
    .text name :: .colon :: value.tokens ++ .comma :: memberTokens rest

end

def Value.written (value : Value) : List Char := value.tokens.flatMap Token.written

/-- The text of a value. -/
def Value.render (value : Value) : String := String.ofList value.written

/-! ### Reading -/

/-- An array or object begun; items and members are kept newest first. -/
inductive Frame
  | array (items : List Value)
  | object (members : List Member) (name : Text)

/-- What may come next. -/
inductive Expected
  /-- A value. -/
  | value
  /-- A first item, or the end of the array begun. -/
  | firstItem
  /-- A first member's name, or the end of the object begun. -/
  | firstName
  /-- A member's name, after these members. -/
  | name (members : List Member)
  /-- The colon after a member's name. -/
  | colon (members : List Member) (name : Text)
  /-- A comma or the end of the array or object begun. -/
  | separator
  /-- Nothing: the value is complete. -/
  | nothing (value : Value)

/-- The arrays and objects begun, innermost first, and what may come next. -/
structure Parser where
  stack : List Frame
  expected : Expected

/-- A value has been read in full. -/
def complete (stack : List Frame) (value : Value) : Parser :=
  match stack with
  | [] => ⟨[], .nothing value⟩
  | .array items :: rest => ⟨.array (value :: items) :: rest, .separator⟩
  | .object members name :: rest =>
    ⟨.object ((name, value) :: members) name :: rest, .separator⟩

/-- A token where a value is expected. -/
def beginValue (stack : List Frame) : Token → Option Parser
  | .null => some (complete stack .null)
  | .bool value => some (complete stack (.bool value))
  | .number value => some (complete stack (.number value))
  | .text value => some (complete stack (.text value))
  | .openArray => some ⟨.array [] :: stack, .firstItem⟩
  | .openObject => some ⟨stack, .firstName⟩
  | _ => none

def parseStep (s : Parser) (t : Token) : Option Parser :=
  match s.expected, t, s.stack with
  | .value, t, stack => beginValue stack t
  | .firstItem, .closeArray, .array _ :: rest => some (complete rest (.array []))
  | .firstItem, t, stack => beginValue stack t
  | .firstName, .closeObject, stack => some (complete stack (.object []))
  | .firstName, .text name, stack => some ⟨stack, .colon [] name⟩
  | .name members, .text name, stack => some ⟨stack, .colon members name⟩
  | .colon members name, .colon, stack => some ⟨.object members name :: stack, .value⟩
  | .separator, .comma, .array items :: rest => some ⟨.array items :: rest, .value⟩
  | .separator, .closeArray, .array items :: rest =>
    some (complete rest (.array items.reverse))
  | .separator, .comma, .object members _ :: rest => some ⟨rest, .name members⟩
  | .separator, .closeObject, .object members _ :: rest =>
    some (complete rest (.object members.reverse))
  | _, _, _ => none

/-- The value read once the tokens have ended. -/
def Parser.finish? (s : Parser) : Option Value :=
  match s.expected with
  | .nothing value => some value
  | _ => none

/-- The value that tokens write. -/
def ofTokens? (ts : List Token) : Option Value :=
  (ts.foldlM parseStep ⟨[], .value⟩).bind Parser.finish?

/-- The value that a text writes. -/
def parse? (cs : List Char) : Option Value := (tokens? cs).bind ofTokens?

/-- The value that a document writes. -/
def ofBytes? (bytes : List UInt8) : Option Value := parse? (Utf8.decodeDocument bytes)

/-- The value that a message's body writes. -/
def ofBody? (bytes : List UInt8) : Option Value := parse? (Utf8.decodeBody bytes)

end TodoServer.Json
