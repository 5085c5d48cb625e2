/-
Values of JSON documents.

An object is the list of its members as they were written, repeated names included: a look-up
takes the last member of a name, and a writer sets members down in the order they are kept in.

* `Json.Value` — the values, whose equality is decidable;
* `Json.Value.entries` — what a value holds by name;
* `Json.Value.member?` — the value under a name, the last one if the name is repeated;
* `Json.optional?` — what a member that may be absent holds;
* `Json.memberOrder` — the order in which a record of named values lists its members: names
  that are array indices first, ascending, then the others by first appearance, each with its
  last value.
-/
import TodoServer.Text.Characters
import TodoServer.Text.Units
import TodoServer.Number.Basic

namespace TodoServer.Json

/-- A JSON value. -/
inductive Value
  | null
  | bool (value : Bool)
  | number (value : Number)
  | text (value : Text)
  | array (items : List Value)
  | object (members : List (Text × Value))

abbrev Member := Text × Value

namespace Value

def ofInt (n : Int) : Value := .number (.ofInt n)

/-- The text that a value is, if it is one. -/
def text? : Value → Option Text
  | .text value => some value
  | _ => none

def members? : Value → Option (List Member)
  | .object members => some members
  | _ => none

def items? : Value → Option (List Value)
  | .array items => some items
  | _ => none

/-- The number that a value is, if it is one. -/
def number? : Value → Option Number
  | .number value => some value
  | _ => none

end Value

/-- What a value holds by name: the members of an object, and the items of an array and the
units of a text by their places. -/
def Value.entries : Value → List Member
  | .object members => members
  | .array items => items.zipIdx.map fun p => (Text.ofString (toString p.2), p.1)
  | .text t => t.units.zipIdx.map fun p => (Text.ofString (toString p.2), .text ⟨[p.1]⟩)
  | _ => []

/-! ### Equality -/

mutual

/-- Equality of values is decided part by part. -/
def Value.decEq : (a b : Value) → Decidable (a = b)
  | .null, .null => isTrue rfl
  | .bool a, .bool b => decidable_of_iff (a = b) (by simp)
  | .number a, .number b => decidable_of_iff (a = b) (by simp)
  | .text a, .text b => decidable_of_iff (a = b) (by simp)
  | .array as, .array bs =>
    have := decEqItems as bs
    decidable_of_iff (as = bs) (by simp)
  | .object as, .object bs =>
    have := decEqMembers as bs
    decidable_of_iff (as = bs) (by simp)
  | .null, .bool _ | .null, .number _ | .null, .text _ | .null, .array _ | .null, .object _
  | .bool _, .null | .bool _, .number _ | .bool _, .text _ | .bool _, .array _
  | .bool _, .object _ | .number _, .null | .number _, .bool _ | .number _, .text _
  | .number _, .array _ | .number _, .object _ | .text _, .null | .text _, .bool _
  | .text _, .number _ | .text _, .array _ | .text _, .object _ | .array _, .null
  | .array _, .bool _ | .array _, .number _ | .array _, .text _ | .array _, .object _
  | .object _, .null | .object _, .bool _ | .object _, .number _ | .object _, .text _
  | .object _, .array _ =>
    isFalse nofun

def decEqItems : (as bs : List Value) → Decidable (as = bs)
  | [], [] => isTrue rfl
  | [], _ :: _ => isFalse nofun
  | _ :: _, [] => isFalse nofun
  | a :: as, b :: bs =>
    have := a.decEq b
    have := decEqItems as bs
    decidable_of_iff (a = b ∧ as = bs) (by simp)

def decEqMembers : (as bs : List (Text × Value)) → Decidable (as = bs)
  | [], [] => isTrue rfl
  | [], _ :: _ => isFalse nofun
  | _ :: _, [] => isFalse nofun
  | (m, a) :: as, (n, b) :: bs =>
    have := a.decEq b
    have := decEqMembers as bs
    decidable_of_iff (m = n ∧ a = b ∧ as = bs) (by simp [and_assoc])

end

instance : DecidableEq Value := Value.decEq

/-! ### Members -/

/-- The value under a name among members, the last one if the name is repeated. -/
def lookup (members : List Member) (name : Text) : Option Value :=
  (members.reverse.find? fun m => m.1 = name).map (·.2)

/-- The value under a name of an object; other values have none. -/
def Value.member? (value : Value) (name : Text) : Option Value :=
  value.members?.bind (lookup · name)

/-- What a member that may be absent holds: none where it is there and cannot be read. -/
def optional? {α : Type} (read : Value → Option α) (members : List Member) (name : Text) :
    Option (Option α) :=
  match lookup members name with
  | none => some none
  | some value => (read value).map some

/-- Named values with one more set: a name already there takes the value in its place, a new
one comes last. -/
def put {α : Type} (members : List (Text × α)) (member : Text × α) : List (Text × α) :=
  if members.any (·.1 = member.1) then
    members.map fun m => if m.1 = member.1 then member else m
  else members ++ [member]

/-- The array index that a name writes: a numeral without leading zeros, below `2 ^ 32 - 1`. -/
def index? (name : Text) : Option Nat :=
  match numeral? name.chars with
  | some n =>
    if n < 4294967295 ∧ (name.chars.head? ≠ some '0' ∨ name = "0") then some n else none
  | none => none

/-- The values of a record in the order it lists them. -/
def memberOrder {α : Type} (members : List (Text × α)) : List (Text × α) :=
  let single := members.foldl put []
  let indexed := single.filterMap fun m => (index? m.1).map fun n => (n, m)
  (indexed.mergeSort fun a b => a.1 ≤ b.1).map (·.2) ++
    single.filter fun m => (index? m.1).isNone

mutual

/-- A value with the members of every object in it in record order. -/
def Value.ordered : Value → Value
  | .array items => .array (orderedItems items)
  | .object members => .object (memberOrder (orderedMembers members))
  | value => value

/-- The items of an array, each ordered. -/
def orderedItems : List Value → List Value
  | [] => []
  | item :: rest => item.ordered :: orderedItems rest

/-- The members of an object, the value of each ordered. -/
def orderedMembers : List Member → List Member
  | [] => []
  | (name, value) :: rest => (name, value.ordered) :: orderedMembers rest

end

end TodoServer.Json
