/-
What is done on the routes.

Each handler of todos reads what it needs of the request, runs one operation of the service on
behalf of the caller, and writes the result. Nothing but the gate's answer says who the caller
is. The health check says to anyone that the server is up. A path without a route is not found,
and a route asked with a method that it does not have says so.

A body is a JSON object. Members that are recognised must be texts, and only a due date may be
null; others are passed over. A title or status that is missing is left to the rules of the
service, so it is reported as bad input and not as a bad body.

* `TodoInput.ofBody?`, `TodoChanges.ofBody?`, `statusOfBody?` — what a body says, none where it
  is no such object;
* `StoreKind`, `World.store` — where todos are kept, and the store's answers with a record of
  the calls made;
* `Todos.create`, `Todos.list`, `Todos.find`, `Todos.update`, `Todos.delete`,
  `Todos.updateStatus` — the handlers;
* `Todos.onTodos`, `Todos.onTodo`, `Todos.onStatus` — the routes with the methods they have;
* `Health.response` — the answer on the route of the health check;
* `Route.dispatch` — the answer on any path.
-/
import TodoServer.Server.Route
import TodoServer.Todo.Operation
import TodoServer.Todo.Table

namespace TodoServer

open Http

/-! ### Bodies -/

/-- The members of the object that a body writes. -/
def bodyMembers? (bytes : List UInt8) : Option (List Json.Member) :=
  (Json.ofBody? bytes).bind Json.Value.members?

/-- A text under a name, if the name is there. -/
def optionalText? (members : List Json.Member) (name : Text) : Option (Option Text) :=
  Json.optional? Json.Value.text? members name

/-- What a body says of a due date: a text, null or nothing. -/
def dueOfBody? (members : List Json.Member) : Option Datum :=
  match Json.lookup members "due_at" with
  | none => some .absent
  | some .null => some .null
  | some value => value.text?.map Datum.text

/-- A new todo. -/
def TodoInput.ofBody? (bytes : List UInt8) : Option TodoInput := do
  let members ← bodyMembers? bytes
  let title ← optionalText? members "title"
  let description ← optionalText? members "description"
  let due ← dueOfBody? members
  some ⟨.text (title.getD ""), .ofText? description, due⟩

/-- Changes of a todo. -/
def TodoChanges.ofBody? (bytes : List UInt8) : Option TodoChanges := do
  let members ← bodyMembers? bytes
  let title ← optionalText? members "title"
  let description ← optionalText? members "description"
  let due ← dueOfBody? members
  some ⟨.ofText? title, .ofText? description, due⟩

/-- The status that a todo is to have. -/
def statusOfBody? (bytes : List UInt8) : Option Datum := do
  let members ← bodyMembers? bytes
  let status ← optionalText? members "status"
  some (.text (status.getD ""))

/-! ### Stores -/

/-- Where todos are kept. -/
inductive StoreKind
  | memory
  | database
deriving DecidableEq, Repr

/-- The answers of a store, each call noted. -/
def World.store (kind : StoreKind) : Store.Answers World := fun call w =>
  let w := { w with calls := w.calls ++ [call] }
  match kind with
  | .memory =>
    let (reply, memory) := Memory.answer call w.memory
    (reply, { w with memory })
  | .database =>
    let (reply, database) := TodoTable.answer call w.database
    (reply, { w with database })

namespace Todos

/-- The answer to a body that cannot be read. -/
def invalidBody : Response := .error 400 .invalidJson "invalid request body"

/-- The answer to a listing by a status that no todo has. -/
def invalidStatus : Response := .error 400 .invalidStatus statusRule

/-- An operation run for the caller, its result written. -/
def perform {α : Type} (kind : StoreKind) (caller : Datum)
    (operation : Datum → Store.Program (Except Fault α)) (write : α → Except Fault Response)
    (w : World) : Except Fault Response × World :=
  match callerId caller with
  | .error fault => (.error fault, w)
  | .ok userId =>
    let (result, w) := (operation userId).run (World.store kind) w
    (result.bind write, w)

def todoResponse (status : Int) (todo : Todo) : Except Fault Response :=
  todo.response.map fun value => .json status value

def pageValue (page : Page Todo) : Except Fault Json.Value :=
  (page.items.mapM Todo.response).map fun todos =>
    .object (Datum.member "todos" (.json (.array todos)) ++
      Datum.member "next_cursor" page.next.unlessBlank)

def pageResponse (page : Page Todo) : Except Fault Response :=
  (pageValue page).map fun value => .json 200 value

/-- A new todo. -/
def create (kind : StoreKind) : Handler := fun r caller w =>
  match TodoInput.ofBody? r.bytes with
  | none => (.ok invalidBody, w)
  | some input => perform kind caller (Operation.create · input) (todoResponse 201) w

/-- What a listing says of one of its parameters, absent where it does not name it. -/
def parameter (r : Request) (name : String) : Datum :=
  .ofText? ((r.parameter? name).map Text.ofString)

/-- The status that a listing asks for: none if it asks for none, an error if no todo has
it. -/
def requestedStatus (r : Request) : Except Response Datum :=
  let asked := (parameter r "status").unlessBlank
  if asked.isAbsent ∨ (Status.ofDatum? asked).isSome then .ok asked else .error invalidStatus

/-- A page of the caller's todos. -/
def list (kind : StoreKind) : Handler := fun r caller w =>
  match requestedStatus r with
  | .error response => (.ok response, w)
  | .ok status =>
    let input : ListInput :=
      ⟨status, (parameter r "cursor").unlessBlank, .ofInt (pageSize (parameter r "limit"))⟩
    perform kind caller (Operation.list · input) pageResponse w

/-- One todo. -/
def find (kind : StoreKind) (id : Text) : Handler := fun _ caller w =>
  perform kind caller (Operation.find · id) (todoResponse 200) w

/-- Changes of one todo. -/
def update (kind : StoreKind) (id : Text) : Handler := fun r caller w =>
  match TodoChanges.ofBody? r.bytes with
  | none => (.ok invalidBody, w)
  | some changes => perform kind caller (Operation.update · id changes) (todoResponse 200) w

/-- The removal of one todo. -/
def delete (kind : StoreKind) (id : Text) : Handler := fun _ caller w =>
  perform kind caller (Operation.delete · id) (fun () => .ok (.empty 204)) w

/-- A status for one todo. -/
def updateStatus (kind : StoreKind) (id : Text) : Handler := fun r caller w =>
  match statusOfBody? r.bytes with
  | none => (.ok invalidBody, w)
  | some status =>
    perform kind caller (Operation.updateStatus · id status) (todoResponse 200) w

/-- The answer where the method is not one of the route's. -/
def refuse : Handler := fun _ _ w => (.ok .methodNotAllowed, w)

/-- The answers on the route of all todos. -/
def onTodos (kind : StoreKind) (method : String) : Handler :=
  if method = "POST" then create kind else if method = "GET" then list kind else refuse

/-- The answers on the route of one todo. -/
def onTodo (kind : StoreKind) (id : Text) (method : String) : Handler :=
  if method = "GET" then find kind id
  else if method = "PUT" then update kind id
  else if method = "DELETE" then delete kind id
  else refuse

/-- The answers on the route of a todo's status. -/
def onStatus (kind : StoreKind) (id : Text) (method : String) : Handler :=
  if method = "PATCH" then updateStatus kind id else refuse

end Todos

namespace Health

def status : Json.Value := .object [("status", .text "ok")]

/-- The answer on the route of the health check. -/
def response (r : Request) : Response :=
  if r.routedMethod = "GET" then .json 200 status else .methodNotAllowed

end Health

/-- The answer of the route that a request's path names. -/
def Route.dispatch (kind : StoreKind) : Handler := fun r caller w =>
  match Route.ofPath? r.path with
  | none => (.ok .notFound, w)
  | some .health => (.ok (Health.response r), w)
  | some .todos => Todos.onTodos kind r.routedMethod r caller w
  | some (.todo id) => Todos.onTodo kind id r.routedMethod r caller w
  | some (.todoStatus id) => Todos.onStatus kind id r.routedMethod r caller w

end TodoServer
