/-
Todos, and what is asked for when they are made and listed.

A store gives back what it was given, and the rows of a database hold what they hold; so the
fields of a todo are kept unchecked, and a rule that is about one of them says what it makes of
each value. Of a row the status alone is checked. Whatever else came with a todo stays with it
and means nothing.

* `Status` — pending or completed, and no third;
* `Todo`, `NewTodo` — a stored todo, and one to be stored;
* `Todo.fields` — the fields of a todo by name;
* `Todo.listingOrder` — newest first, by creation time and then by id;
* `Todo.response` — the wire form, which has no way to write an invalid date.
-/
import TodoServer.Fault

namespace TodoServer

/-- Whether a todo is done. -/
inductive Status
  | pending
  | completed
deriving DecidableEq, Repr

namespace Status

/-- The name of a status. -/
def name : Status → Text
  | .pending => "pending"
  | .completed => "completed"

def ofDatum? (value : Datum) : Option Status :=
  if value = pending.name then some .pending
  else if value = completed.name then some .completed
  else none

end Status

/-- A stored todo. -/
structure Todo where
  id : Datum
  userId : Datum
  title : Datum
  description : Datum
  status : Datum
  dueAt : Datum
  createdAt : Datum
  updatedAt : Datum
  /-- What else came with it. -/
  others : List Json.Member := []
deriving DecidableEq

/-- A todo to be stored: the store gives it an id and its times. -/
structure NewTodo where
  userId : Datum
  title : Datum
  description : Datum
  status : Datum
  dueAt : Datum
  /-- What else comes with it. -/
  others : List Json.Member := []
deriving DecidableEq

namespace Todo

/-- The fields of a todo that mean something, by name. -/
def fields (todo : Todo) : List (Text × Datum) :=
  [("id", todo.id), ("userId", todo.userId), ("title", todo.title),
    ("description", todo.description), ("status", todo.status), ("dueAt", todo.dueAt),
    ("createdAt", todo.createdAt), ("updatedAt", todo.updatedAt)]

/-- When a todo was created, if its creation time is one. -/
def created (todo : Todo) : Date := todo.createdAt.date?.getD .invalid

/-- The order of listings: newest first, and among todos of one time the greatest id first. -/
def listingOrder (a b : Todo) : Ordering :=
  match Date.compare b.created a.created with
  | .eq =>
    if a.id.words = b.id.words then .eq else if b.id.words < a.id.words then .lt else .gt
  | order => order

/-- Whether one todo comes before another in listings, or level with it. -/
def precedes (a b : Todo) : Bool := listingOrder a b ≠ .gt

/-- A field for the wire that must hold a date. -/
def wireDate (field : Text) : Datum → Except Fault Json.Value
  | .date d =>
    match d.iso? with
    | some text => .ok (.text text)
    | none => .error .invalidTime
  | value => .error (.noMember ("todo." ++ field) value "toISOString")

/-- The member of a due date, none where there is no due date. -/
def dueMember (due : Datum) : Except Fault (List Json.Member) :=
  if due.isBlank then .ok [] else (wireDate "dueAt" due).map fun value => [("due_at", value)]

/-- The wire form of a todo. -/
def response (todo : Todo) : Except Fault Json.Value := do
  let created ← wireDate "createdAt" todo.createdAt
  let updated ← wireDate "updatedAt" todo.updatedAt
  let due ← dueMember todo.dueAt
  return .object
    (Datum.member "id" todo.id ++ Datum.member "user_id" todo.userId ++
      Datum.member "title" todo.title ++ Datum.member "description" todo.description ++
      Datum.member "status" todo.status ++ Datum.member "created_at" (.json created) ++
      Datum.member "updated_at" (.json updated) ++ due)

end Todo

end TodoServer
