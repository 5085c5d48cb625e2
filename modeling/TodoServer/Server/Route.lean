/-
The routes of the server.

A path is matched exactly, segment by segment: a slash at the end makes another path, and the
id of a todo is one segment that is not empty, whatever else it is. Escapes left in it are read
once more.

* `Route.ofPath?` — the route of a path;
* `Handler` — how a request on a route is answered.
-/
import TodoServer.Http.Message
import TodoServer.World

namespace TodoServer

open Http

/-- The routes. -/
inductive Route
  /-- The health check. -/
  | health
  /-- All todos of the caller. -/
  | todos
  /-- One todo. -/
  | todo (id : Text)
  /-- The status of one todo. -/
  | todoStatus (id : Text)
deriving DecidableEq, Repr

namespace Route

def idOfSegment (segment : List UInt16) : Text :=
  .ofChars (Percent.decode (Text.chars ⟨segment⟩))

/-- The segments of the path of all todos, which come before those that tell todos apart. -/
def todosStart : List Text := ["", "api", "v1", "todos"]

/-- The segment of the path of the health check. -/
def healthSegment : Text := "health"

/-- The last segment of the path of a todo's status. -/
def statusSegment : Text := "status"

/-- The route of a path. -/
def ofPath? (path : Text) : Option Route :=
  let segments := path.units.splitOn Path.slash
  let start := todosStart.map Text.units
  if segments = [[], healthSegment.units] then some .health
  else if start.isPrefixOf segments then
    match segments.drop start.length with
    | [] => some .todos
    | [id] => if id = [] then none else some (.todo (idOfSegment id))
    | [id, last] =>
      if id ≠ [] ∧ last = statusSegment.units then some (.todoStatus (idOfSegment id))
      else none
    | _ => none
  else none

end Route

/-- How a request is answered once its caller is known, absent where none was established: with
a response, or a failure that is still to be turned into one. -/
abbrev Handler := Request → Datum → World → Except Fault Response × World

/-- The caller of a request, which some handlers cannot do without. -/
def callerId (caller : Datum) : Except Fault Datum :=
  if caller.isBlank then .error .missingIdentity else .ok caller

end TodoServer
