/-
What users do with their todos, and the rules for it.

Each operation is a program of store calls made on behalf of one user. Input that breaks a rule
is refused before anything is written; a todo that is not there, or belongs to someone else, is
not found; an owner that the store does not know is not authorised; any other failure of the
store goes on as it is.

* `dueDate?` — the date of a due date as it is given;
* `TodoInput`, `TodoChanges` — what a user says of a new todo, and of one to change;
* `Operation.create`, `Operation.find`, `Operation.update`, `Operation.updateStatus`,
  `Operation.delete`, `Operation.list` — the operations.
-/
import TodoServer.Calendar.Timestamp
import TodoServer.Todo.Store

namespace TodoServer

/-- The date of a due date as it is given, which must be a timestamp with an offset. -/
def dueDate? (given : Datum) : Except ClientError Date :=
  match given.text?.bind fun text => Timestamp.read? text.chars with
  | some timestamp => .ok timestamp.date
  | none => .error (.invalidInput "due_at must be an RFC 3339 timestamp")

/-- What a user says of a new todo. -/
structure TodoInput where
  title : Datum
  description : Datum
  dueAt : Datum
deriving DecidableEq

/-- What a user says of a todo to be changed. What they do not mention is absent, and stays; a
due date of null is taken away. -/
structure TodoChanges where
  title : Datum
  description : Datum
  dueAt : Datum
deriving DecidableEq

/-- Which todos a user asks for. -/
structure ListInput where
  status : Datum
  cursor : Datum
  size : Datum
deriving DecidableEq

/-- The due date of a new todo, null if it has none. -/
def TodoInput.due (input : TodoInput) : Except ClientError Datum :=
  if input.dueAt.isMissing then .ok .null else (dueDate? input.dueAt).map .date

def TodoInput.newTodo (input : TodoInput) (userId : Datum) : Except ClientError NewTodo :=
  if input.title = .text "" then .error (.invalidInput "title is required")
  else input.due.map fun dueAt =>
    { userId, title := input.title, description := input.description.orElse (.text ""),
      status := Status.pending.name, dueAt }

def TodoChanges.due (changes : TodoChanges) (old : Datum) : Except ClientError Datum :=
  match changes.dueAt with
  | .absent => .ok old
  | .json .null => .ok .null
  | given => (dueDate? given).map .date

def changed (new old : Datum) : Datum := if new.isAbsent then old else new

def TodoChanges.apply (changes : TodoChanges) (todo : Todo) : Except ClientError Todo :=
  if changes.title = .text "" then .error (.invalidInput "title cannot be empty")
  else (changes.due todo.dueAt).map fun dueAt =>
    { todo with
      title := changed changes.title todo.title
      description := changed changes.description todo.description
      dueAt }

/-- How a status that no todo has is refused. -/
def statusRule : Text := "status must be 'pending' or 'completed'"

namespace Operation

open Store

/-- No todo of the user has the id. -/
def todoNotFound : ClientError := .notFound "todo not found"

/-- Store a new todo. -/
def create (userId : Datum) (input : TodoInput) : Program (Except Fault Todo) :=
  match input.newTodo userId with
  | .error e => .refuse e
  | .ok todo =>
    .call (.create todo) fun
      | .ok todo => .done (.ok todo)
      | .error (.unknownOwner _) => .refuse (.unauthorized "unknown user")
      | .error fault => .done (.error fault)

def withTodo {α : Type} (userId id : Datum) (next : Todo → Program (Except Fault α)) :
    Program (Except Fault α) :=
  .ask (.find userId id) fun
    | none => .refuse todoNotFound
    | some todo => next todo

/-- Write back a todo that has been read; it may have been deleted since. -/
def save (todo : Todo) : Program (Except Fault Todo) :=
  .ask (.update todo) fun
    | none => .refuse todoNotFound
    | some todo => .done (.ok todo)

/-- Find a todo. -/
def find (userId id : Datum) : Program (Except Fault Todo) :=
  withTodo userId id fun todo => .done (.ok todo)

/-- Change a todo. -/
def update (userId id : Datum) (changes : TodoChanges) : Program (Except Fault Todo) :=
  withTodo userId id fun todo =>
    match changes.apply todo with
    | .error e => .refuse e
    | .ok todo => save todo

/-- Set the status of a todo. -/
def updateStatus (userId id status : Datum) : Program (Except Fault Todo) :=
  match Status.ofDatum? status with
  | none => .refuse (.invalidInput statusRule)
  | some _ => withTodo userId id fun todo => save { todo with status }

/-- Delete a todo. -/
def delete (userId id : Datum) : Program (Except Fault Unit) :=
  .ask (.delete userId id) fun deleted =>
    if deleted then .done (.ok ()) else .refuse todoNotFound

/-- List todos. -/
def list (userId : Datum) (input : ListInput) : Program (Except Fault (Page Todo)) :=
  match askedSize input.size with
  | .error fault => .done (.error fault)
  | .ok size =>
    .ask (.list ⟨userId, input.status, input.cursor, .ofInt size⟩) fun page => .done (.ok page)

end Operation

end TodoServer
