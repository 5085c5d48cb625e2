/-
The store of todos in the database.

Every statement names the owner among its conditions or values. Owners and todos are keyed by
identifiers of the five-group form, so a text of any other form is answered without a query: it
owns nothing and names nothing.

* `TodoTable.listQuery`, `TodoTable.askedQuery` — the query of a listing, of a size and of the
  size asked for;
* `Todo.ofRow` — the todo of a row, which the database could have given a status that none has;
* `TodoTable.answer` — the answers to all calls.
-/
import TodoServer.Text.Characters
import TodoServer.Todo.Store
import TodoServer.Sql.Session

namespace TodoServer

open Sql

/-- The fault in a row with a status that no todo has: the status is named, if it can be. -/
def statusFault (status : Datum) : Fault :=
  if status.hasWords then .unknownStatus status else .noWords

/-- The todo of a row. -/
def Todo.ofRow (row : Row) : Except Fault Todo :=
  match Status.ofDatum? (row.get .status) with
  | none => .error (statusFault (row.get .status))
  | some _ =>
    .ok
      { id := row.get .id, userId := row.get .userId, title := row.get .title,
        description := row.get .description, status := row.get .status,
        dueAt := row.get .dueAt, createdAt := row.get .createdAt,
        updatedAt := row.get .updatedAt }

namespace TodoTable

/-- Whether a value is an identifier of the five-group form. -/
def isKey (value : Datum) : Bool := Uuid.isWellFormed value.words

/-- Whether values are all such identifiers. Each is put in words until one is none. -/
def areKeys : List Datum → Except Fault Bool
  | [] => .ok true
  | value :: rest =>
    if !value.hasWords then .error .noWords
    else if isKey value then areKeys rest
    else .ok false

/-- An answer that takes identifiers to ask for, and another where one is none. -/
def withKeys {α : Type} (keys : List Datum) (otherwise : Except Fault α)
    (ask : Session → Except Fault α × Session) (s : Session) : Except Fault α × Session :=
  match areKeys keys with
  | .error fault => (.error fault, s)
  | .ok false => (otherwise, s)
  | .ok true => ask s

/-! ### The queries -/

def insertQuery (todo : NewTodo) : Query :=
  ⟨.insert [.userId, .title, .description, .status, .dueAt],
    [todo.userId, todo.title, todo.description, todo.status, todo.dueAt]⟩

def findQuery (userId id : Datum) : Query :=
  ⟨.select .todos todoColumns [.equals .id 1, .equals .userId 2], [id, userId]⟩

/-- What users can change of a todo of theirs. -/
def updateQuery (todo : Todo) : Query :=
  ⟨.update [(.title, 1), (.description, 2), (.status, 3), (.dueAt, 4)]
      [.equals .id 5, .equals .userId 6],
    [todo.title, todo.description, todo.status, todo.dueAt, todo.id, todo.userId]⟩

def deleteQuery (userId id : Datum) : Query :=
  ⟨.delete [.equals .id 1, .equals .userId 2], [id, userId]⟩

/-- A page of a user's todos and one more. The owner is the first condition of every
listing. -/
def listQuery (params : ListParams) (size : Nat) : Query :=
  let owner : List Condition × List Datum := ([.equals .userId 1], [params.userId])
  let withStatus : List Condition × List Datum :=
    if params.status.isBlank then owner
    else (owner.1 ++ [.equals .status (owner.2.length + 1)], owner.2 ++ [params.status])
  let withCursor : List Condition × List Datum :=
    if params.cursor.isBlank then withStatus
    else
      (withStatus.1 ++ [.below (withStatus.2.length + 1) 1], withStatus.2 ++ [params.cursor])
  ⟨.page todoColumns withCursor.1 (withCursor.2.length + 1),
    withCursor.2 ++ [.ofInt (size + 1)]⟩

/-- The query of a listing, if its size has words. -/
def askedQuery (params : ListParams) : Except Fault Query :=
  (askedSize params.size).map (listQuery params)

/-! ### The answers -/

/-- The code by which the database says that a referenced row is missing. -/
def missingReference : Datum := .text "23503"

/-- A failed query as a failure of the store. -/
def queryFault (message : Text) : Fault := .raised message

/-- The first row of an answer as a todo, if there is one. -/
def firstTodo : Outcome → Except Fault (Option Todo)
  | .failed message _ => .error (queryFault message)
  | .rows [] _ => .ok none
  | .rows (row :: _) _ => (Todo.ofRow row).map some

/-- A new todo is stored. Only a missing reference says that the owner is unknown. -/
def create (todo : NewTodo) : Session → Except Fault Todo × Session :=
  withKeys [todo.userId] (.error (.unknownOwner todo.userId)) fun s =>
    match s.send (insertQuery todo) with
    | (.failed message code, s) =>
      (.error (if code = missingReference then .unknownOwner todo.userId
        else queryFault message), s)
    | (.rows [] _, s) => (.error .noRowInserted, s)
    | (.rows (row :: _) _, s) => (Todo.ofRow row, s)

def find (userId id : Datum) : Session → Except Fault (Option Todo) × Session :=
  withKeys [userId, id] (.ok none) fun s =>
    let (outcome, s) := s.send (findQuery userId id)
    (firstTodo outcome, s)

/-- A todo takes the place of the one with its id and owner. -/
def update (todo : Todo) : Session → Except Fault (Option Todo) × Session :=
  withKeys [todo.userId, todo.id] (.ok none) fun s =>
    let (outcome, s) := s.send (updateQuery todo)
    (firstTodo outcome, s)

/-- A user's todo is removed, which it was if the statement touched a row. -/
def delete (userId id : Datum) : Session → Except Fault Bool × Session :=
  withKeys [userId, id] (.ok false) fun s =>
    match s.send (deleteQuery userId id) with
    | (.failed message _, s) => (.error (queryFault message), s)
    | (.rows _ touched, s) => (.ok (touched.any (Number.finite 0).lt), s)

/-- The page that the rows fetched make. Rows beyond the page are not looked into. -/
def pageOfRows (size : Nat) (rows : List Row) : Except Fault (Page Todo) :=
  let page := (Page.take (fun row => row.get .id) size rows).withoutBlankCursor
  (page.items.mapM Todo.ofRow).map fun todos => ⟨todos, page.next⟩

/-- The identifiers that a listing asks for: the owner, and the cursor if there is one. -/
def listKeys (params : ListParams) : List Datum :=
  if params.cursor.isBlank then [params.userId] else [params.userId, params.cursor]

/-- A page of a user's todos. -/
def list (params : ListParams) : Session → Except Fault (Page Todo) × Session :=
  withKeys (listKeys params) (.ok .empty) fun s =>
    match askedSize params.size with
    | .error fault => (.error fault, s)
    | .ok size =>
      match s.send (listQuery params size) with
      | (.failed message _, s) => (.error (queryFault message), s)
      | (.rows rows _, s) => (pageOfRows size rows, s)

/-- The answers to all calls. -/
def answer : Store.Answers Session
  | .create todo, s => create todo s
  | .find userId id, s => find userId id s
  | .update todo, s => update todo s
  | .delete userId id, s => delete userId id s
  | .list params, s => list params s

end TodoTable

end TodoServer
