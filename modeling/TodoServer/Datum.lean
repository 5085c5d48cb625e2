/-
Values that nobody has checked.

What a caller asks for and what a database row holds need not be of the type that was meant: a
cell can be missing, null or a number where a text is expected. Such a value is passed on as it
is, and looked into only where a rule is about it. Rules ask whether it is missing or blank,
whether it is the same as another, what it says in words, what number it counts as, and what is
written for it in a document. Nearly every value has words; an object that keeps a member under
the name of their wording has none, and neither has an array that such an object is in.

* `Datum` — nothing, a JSON value or a date, and `Datum.dated` the date that a text writes;
* `Datum.isMissing`, `Datum.isBlank` — absent or null; or false, zero or empty as well;
* `Datum.same` — sameness, which arrays, objects and dates share with nothing;
* `Datum.words`, `Datum.hasWords` — the value in words, and whether it has them;
* `Datum.number?` — the number that it counts as;
* `Datum.value?`, `Datum.member` — what is written for it, and its member of an object.
-/
import TodoServer.Calendar.DateText
import TodoServer.Json.Basic
import TodoServer.Number.Decimal

namespace TodoServer

/-- A value that nobody has checked. -/
inductive Datum
  | absent
  | json (value : Json.Value)
  | date (date : Date)
deriving DecidableEq

namespace Datum

/-- A text. -/
abbrev text (t : Text) : Datum := .json (.text t)

/-- A number. -/
abbrev number (n : Number) : Datum := .json (.number n)

/-- Null, which unlike an absent value is written. -/
abbrev null : Datum := .json .null

def ofInt (n : Int) : Datum := .json (.ofInt n)

/-- A value that may be absent. -/
def ofOption : Option Json.Value → Datum
  | none => .absent
  | some value => .json value

/-- A text that may be absent. -/
def ofText? (t : Option Text) : Datum := .ofOption (t.map .text)

instance : Coe Text Datum := ⟨text⟩

instance : Coe Date Datum := ⟨date⟩

/-- The value, or the date that it writes where it is a text. -/
def dated : Datum → Datum
  | .json (.text t) => .date (.ofText t)
  | d => d

/-! ### What the rules ask -/

def isAbsent : Datum → Bool
  | .absent => true
  | _ => false

/-- Whether there is no value or null. -/
def isMissing : Datum → Bool
  | .absent => true
  | .json .null => true
  | _ => false

/-- The value, or another where it is missing. -/
def orElse (d other : Datum) : Datum := if d.isMissing then other else d

/-- Whether the value is missing, false, zero or empty, and so counts as not given. -/
def isBlank : Datum → Bool
  | .absent => true
  | .json .null => true
  | .json (.bool value) => !value
  | .json (.number n) => n = .finite 0
  | .json (.text t) => t.isEmpty
  | _ => false

/-- The value, or nothing where it is blank. -/
def unlessBlank (d : Datum) : Datum := if d.isBlank then .absent else d

/-- Whether a value is a simple one: it has no parts and is known by what it is. -/
def isSimple : Datum → Bool
  | .json (.array _) => false
  | .json (.object _) => false
  | .date _ => false
  | _ => true

/-- Whether two values are the same. Those with parts are told apart by where they are kept, so
one that comes from outside is the same as no other. -/
def same (a b : Datum) : Bool := a.isSimple && a = b

/-- The text that a value is, if it is one. -/
def text? : Datum → Option Text
  | .json (.text t) => some t
  | _ => none

/-- The date that a value is, if it is one. -/
def date? : Datum → Option Date
  | .date d => some d
  | _ => none

end Datum

/-! ### Words -/

/-- The words of a number, infinite ones included. -/
def Number.words : Number → Text
  | .infinite false => "Infinity"
  | .infinite true => "-Infinity"
  | .finite value => Text.ofChars ((Number.finite value).text?.getD [])

/-- The name under which an object would say how it is worded. A member there is no wording,
and the usual one is not looked for any more. -/
def wordingName : Text := "toString"

mutual

/-- Whether a JSON value has words. -/
def Json.Value.hasWords : Json.Value → Bool
  | .array items => Json.haveWords items
  | .object members => !members.any (·.1 = wordingName)
  | _ => true

/-- Whether all items of an array have words. -/
def Json.haveWords : List Json.Value → Bool
  | [] => true
  | item :: rest => item.hasWords && Json.haveWords rest

end

mutual

/-- The words of a JSON value. Items are set with commas between them. -/
def Json.Value.words : Json.Value → Text
  | .null => "null"
  | .bool true => "true"
  | .bool false => "false"
  | .number n => n.words
  | .text t => t
  | .array items => Text.join "," (Json.itemWords items)
  | .object _ => "[object Object]"

/-- The words of the items of an array, of which null says nothing. -/
def Json.itemWords : List Json.Value → List Text
  | [] => []
  | .null :: rest => "" :: Json.itemWords rest
  | item :: rest => item.words :: Json.itemWords rest

end

namespace Datum

/-- Whether a value has words. -/
def hasWords : Datum → Bool
  | .json value => value.hasWords
  | _ => true

/-- The words of a value. -/
def words : Datum → Text
  | .absent => "undefined"
  | .json value => value.words
  | .date d => d.iso?.getD "Invalid Date"

/-- The number that a value counts as, if it does: null is zero, and texts and what has parts
count by their words. -/
def number? : Datum → Option Number
  | .absent => none
  | .json .null => some (.finite 0)
  | .json (.bool value) => some (.finite (if value then 1 else 0))
  | .json (.number n) => some n
  | d => Number.ofText? d.words.chars

/-! ### Writing -/

/-- What is written for a value: nothing for an absent one, null for an invalid date. -/
def value? : Datum → Option Json.Value
  | .absent => none
  | .json value => some value
  | .date d => some (match d.iso? with
    | some text => .text text
    | none => .null)

/-- The member of an object that holds a value: none if the value is absent. -/
def member (name : Text) (d : Datum) : List Json.Member :=
  (d.value?.map fun value => (name, value)).toList

end Datum

end TodoServer
