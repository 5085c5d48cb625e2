/-
Statements to the database, and the conversation that they are part of.

A statement is kept as its structure: which columns it reads or writes, and to which of the
values sent beside it each column is compared or set. Values are only ever named by their
position, so no value can become part of a statement's text.

The answers that the database will give are taken as known, in order, so that a run is a
function of them; every query sent is kept. Once the answers have run out, a query finds no
rows. What the cells of a row hold is not checked: a column may be missing, or of another type
than was meant.

* `Sql.Statement` — the statements;
* `Sql.Statement.text` — their text;
* `Sql.Query` — a statement with its values, the `n`th of which stands for `$n`;
* `Sql.Row` — a row by its columns, and `Sql.Row.ofValue` the row that an object writes;
* `Sql.Outcome` — the answer to a query;
* `Sql.Session.send` — the next query and its answer.
-/
import TodoServer.Datum

namespace TodoServer.Sql

/-! ### Statements -/

/-- The tables. -/
inductive Table
  | todos
  | users
deriving DecidableEq, Repr

def Table.name : Table → String
  | .todos => "todos"
  | .users => "users"

/-- The columns of both tables. -/
inductive Column
  | id
  | userId
  | title
  | description
  | status
  | dueAt
  | createdAt
  | updatedAt
  | externalSubject
  | email
  | nickname
  | profileImageUrl
deriving DecidableEq, Repr

def Column.name : Column → String
  | .id => "id"
  | .userId => "user_id"
  | .title => "title"
  | .description => "description"
  | .status => "status"
  | .dueAt => "due_at"
  | .createdAt => "created_at"
  | .updatedAt => "updated_at"
  | .externalSubject => "external_subject"
  | .email => "email"
  | .nickname => "nickname"
  | .profileImageUrl => "profile_image_url"

/-- The columns of a todo, in the order that statements list them. -/
def todoColumns : List Column :=
  [.id, .userId, .title, .description, .status, .dueAt, .createdAt, .updatedAt]

/-- The columns of a user, in the order that statements list them. -/
def userColumns : List Column :=
  [.id, .externalSubject, .email, .nickname, .profileImageUrl, .createdAt, .updatedAt]

def Column.isDate (column : Column) : Bool :=
  column = .dueAt || column = .createdAt || column = .updatedAt

/-- A condition on the rows of a statement. Values are named by their positions. -/
inductive Condition
  /-- The column equals a value. -/
  | equals (column : Column) (value : Nat)
  /-- The row's creation time and id are below those of the row with one value as its id and
  another as its owner. -/
  | below (id owner : Nat)
deriving DecidableEq, Repr

/-- A statement. Values are named by their positions. -/
inductive Statement
  /-- The rows that meet the conditions. -/
  | select (table : Table) (columns : List Column) (conditions : List Condition)
  /-- The first rows that meet the conditions, newest first. -/
  | page (columns : List Column) (conditions : List Condition) (limit : Nat)
  /-- A new todo: the columns take the values in order. -/
  | insert (columns : List Column)
  /-- Columns of the todos that meet the conditions take values, and their update time is
  set. -/
  | update (columns : List (Column × Nat)) (conditions : List Condition)
  /-- The todos that meet the conditions are removed. -/
  | delete (conditions : List Condition)
deriving DecidableEq, Repr

def placeholder (n : Nat) : String := "$" ++ toString n

def columnList (columns : List Column) : String := ", ".intercalate (columns.map Column.name)

def assigned (column : Column) (value : Nat) : String :=
  column.name ++ " = " ++ placeholder value

/-- The text of a condition. -/
def Condition.text : Condition → String
  | .equals column value => assigned column value
  | .below id owner =>
    "(created_at, id) < (SELECT c.created_at, c.id FROM todos c WHERE c.id = " ++
      placeholder id ++ " AND c.user_id = " ++ placeholder owner ++ ")"

/-- The text of conditions that all must hold. -/
def whereText (conditions : List Condition) : String :=
  " WHERE " ++ " AND ".intercalate (conditions.map Condition.text)

/-- The text of a statement's request for the rows it wrote. -/
def returningText : String := " RETURNING " ++ columnList todoColumns

/-- The text of a statement. -/
def Statement.text : Statement → String
  | .select table columns conditions =>
    "SELECT " ++ columnList columns ++ " FROM " ++ table.name ++ whereText conditions
  | .page columns conditions limit =>
    "SELECT " ++ columnList columns ++ " FROM todos" ++ whereText conditions ++
      " ORDER BY created_at DESC, id DESC LIMIT " ++ placeholder limit
  | .insert columns =>
    "INSERT INTO todos (" ++ columnList columns ++ ") VALUES (" ++
      ", ".intercalate ((List.range columns.length).map fun i => placeholder (i + 1)) ++ ")" ++
      returningText
  | .update columns conditions =>
    "UPDATE todos SET " ++ ", ".intercalate (columns.map fun c => assigned c.1 c.2) ++
      ", updated_at = now()" ++ whereText conditions ++ returningText
  | .delete conditions => "DELETE FROM todos" ++ whereText conditions

/-- A statement with its values. -/
structure Query where
  statement : Statement
  values : List Datum
deriving DecidableEq

/-- The text of a query. -/
def Query.text (q : Query) : String := q.statement.text

/-! ### Answers -/

/-- A row: its columns and their values. -/
structure Row where
  cells : List (Column × Datum)
deriving DecidableEq

/-- The value of a column, absent where the row does not have it. -/
def Row.get (row : Row) (column : Column) : Datum :=
  ((row.cells.find? fun cell => cell.1 = column).map (·.2)).getD .absent

/-- What an object says of a column; texts in columns of dates are dates. -/
def Column.ofValue (value : Json.Value) (column : Column) : Datum :=
  let cell : Datum := .ofOption (value.member? column.name)
  if column.isDate then cell.dated else cell

/-- The row that an object writes. -/
def Row.ofValue (value : Json.Value) : Row :=
  ⟨(todoColumns ++ userColumns).map fun column => (column, column.ofValue value)⟩

/-- The answer to a query. -/
inductive Outcome
  /-- The rows found or written, and how many the statement touched, if that is known. -/
  | rows (rows : List Row) (touched : Option Number)
  /-- A failure, with the database's message and code. -/
  | failed (message : Text) (code : Datum)
deriving DecidableEq

/-- The answers to come, and the queries sent so far. -/
structure Session where
  answers : List Outcome
  sent : List Query
deriving DecidableEq

namespace Session

/-- A session without answers in which nothing has been sent. -/
def empty : Session := ⟨[], []⟩

/-- The next query and its answer. -/
def send (s : Session) (q : Query) : Outcome × Session :=
  match s.answers with
  | [] => (.rows [] (some (.finite 0)), { s with sent := s.sent ++ [q] })
  | answer :: rest => (answer, ⟨rest, s.sent ++ [q]⟩)

end Session

end TodoServer.Sql
