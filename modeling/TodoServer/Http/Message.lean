/-
Requests, the canonical form of their paths, and responses.

Access is decided on the path a request would have if nobody had played with slashes and dots:
repeated slashes are one, `.` names the place itself and `..` the place above, which at the
root is the root, and no slash stands at the end. The form is found in one pass over the units.

* `Path.canonical` — the canonical form of a path;
* `Path.segments` — the segments it consists of, found by splitting at the slashes first;
* `Http.Request` — a request as handlers see it: its path and query read, its body in the
  chunks it came in, absent where the request has none;
* `Http.Request.header?` — a header's value, several of one name joined;
* `Http.Response` — a status, headers and a body;
* `Http.Response.json`, `Http.Response.error` — responses with a JSON body, and error answers;
* `RequestId.choose` — the id of a request. Ids end up in log lines, so one that a client sends
  is kept only if it is short and of harmless characters; otherwise a fresh one is given.
-/
import TodoServer.Http.Target
import TodoServer.Json.Document
import TodoServer.Fault

namespace TodoServer

namespace Path

/-- The slash, which divides segments. -/
def slash : UInt16 := 0x2F

/-- The dot. -/
def dot : UInt16 := 0x2E

/-- The segments read so far, last first, and the one being read, its last unit first. -/
structure Walk where
  above : List (List UInt16)
  current : List UInt16
deriving DecidableEq, Repr

/-- The segments once the one being read is complete. -/
def Walk.close (w : Walk) : List (List UInt16) :=
  if w.current = [] ∨ w.current = [dot] then w.above
  else if w.current = [dot, dot] then w.above.tail
  else w.current.reverse :: w.above

def Walk.step (w : Walk) (unit : UInt16) : Walk :=
  if unit = slash then ⟨w.close, []⟩ else ⟨w.above, unit :: w.current⟩

/-- A path of segments, given last first. -/
def rendered (segments : List (List UInt16)) : List UInt16 :=
  match segments with
  | [] => [slash]
  | _ => segments.reverse.flatMap fun segment => slash :: segment

/-- The canonical form of a path. -/
def canonical (path : Text) : Text :=
  ⟨rendered (path.units.foldl Walk.step ⟨[], []⟩).close⟩

/-- The effect of a segment on those before it. -/
def descend (above : List (List UInt16)) (segment : List UInt16) : List (List UInt16) :=
  if segment = [] ∨ segment = [dot] then above
  else if segment = [dot, dot] then above.tail
  else segment :: above

/-- The segments of a path's canonical form, in order. -/
def segments (path : Text) : List (List UInt16) :=
  ((path.units.splitOn slash).foldl descend []).reverse

end Path

namespace Http

/-- A request as handlers see it. -/
structure Request where
  method : String
  path : Text
  query : List (String × String)
  headers : List (String × String)
  body : Option (List (List UInt8))
deriving DecidableEq, Repr

def isHeaderSpace (c : Char) : Bool := c = ' ' || c = '\t' || c = '\n' || c = '\r'

def trimmed (s : String) : String :=
  String.ofList ((s.toList.dropWhile isHeaderSpace).reverse.dropWhile isHeaderSpace).reverse

namespace Request

def ofTarget (method target : String) (headers : List (String × String))
    (body : Option (List (List UInt8))) : Request :=
  let target := Target.ofText target
  { method, path := target.path, query := target.parameters, headers, body }

/-- The value of a header, its name in any letter case; several of one name are joined. -/
def header? (r : Request) (name : String) : Option String :=
  match r.headers.filter fun h => lowerText h.1 = lowerText name with
  | [] => none
  | found => some (", ".intercalate (found.map fun h => trimmed h.2))

/-- The value of a query parameter, the first of its name. -/
def parameter? (r : Request) (name : String) : Option String :=
  (r.query.find? fun p => p.1 = name).map (·.2)

/-- The bytes of the body; an absent body has none. -/
def bytes (r : Request) : List UInt8 := (r.body.getD []).flatten

/-- The method that routes are matched on: the header of a resource is asked for like
itself. -/
def routedMethod (r : Request) : String := if r.method = "HEAD" then "GET" else r.method

end Request

/-- A response. -/
structure Response where
  status : Int
  headers : List (String × String)
  body : String
deriving DecidableEq, Repr

namespace Response

def empty (status : Int) : Response := ⟨status, [], ""⟩

/-- A response with a JSON body. -/
def json (status : Int) (value : Json.Value) : Response :=
  ⟨status, [("content-type", "application/json")], value.render⟩

def text (status : Int) (body : String) : Response :=
  ⟨status, [("content-type", "text/plain;charset=UTF-8")], body⟩

/-- An error answer. -/
def error (status : Int) (code : ErrorCode) (message : Text) : Response :=
  json status (errorEnvelope code message)

def withHeaders (r : Response) (headers : List (String × String)) : Response :=
  { r with headers := r.headers ++ headers }

/-- The response as it is sent for a request: one for the header alone has no body. -/
def sentFor (r : Response) (request : Request) : Response :=
  if request.method = "HEAD" then { r with body := "" } else r

/-- The answer where no route matches. -/
def notFound : Response := error 404 .notFound ClientError.resourceNotFound

/-- The answer where a route matches but not its method. -/
def methodNotAllowed : Response := error 405 .methodNotAllowed "method not allowed"

/-- The status that a number counts as: it is cut to an integer and taken in sixteen bits, its
sign kept. What is no number, or has no end, is zero. -/
def statusOf (n : Option Number) : Int :=
  match n.bind Number.truncate? with
  | some asked => asked.tmod 65536
  | none => 0

def isStatus (status : Int) : Bool := 200 ≤ status && status ≤ 599

/-- Whether a response of a status has no body. -/
def isBodiless (status : Int) : Bool := status = 204 || status = 205 || status = 304

/-- Whether there are responses of a status that have a body. -/
def canHaveBody (status : Int) : Bool := isStatus status && !isBodiless status

/-- An answer that nobody has put into the form of the others. -/
def bare (status : Int) (body : String) : Response :=
  ⟨status, [("content-type", "text/plain; charset=UTF-8")], body⟩

/-- The answer to a failure that nothing else has turned into one. -/
def uncaught : Response := bare 500 "Internal Server Error"

/-- The answer where no route matches and nothing is said about that. -/
def unrouted : Response := bare 404 "404 Not Found"

/-- The answer to a failure that is none of the client's business. -/
def internalError : Response := error 500 .internalError "internal server error"

/-- The answer to a caller who is not who they need to be. -/
def unauthorized (message : Text) : Response := error 401 .unauthorized message

end Response

end Http

namespace RequestId

open Http

/-- The header that carries the id, in requests and responses. -/
def header : String := "x-request-id"

def isIdChar (c : Char) : Bool := isAlphanumeric c || c = '.' || c = '_' || c = '-'

def isAcceptable (id : String) : Bool :=
  1 ≤ id.toList.length && id.toList.length ≤ 128 && id.toList.all isIdChar

/-- The id of a request: the one it brings, if that may be kept, else the fresh one. -/
def choose (r : Request) (fresh : String) : String :=
  match (r.header? header).filter isAcceptable with
  | some id => id
  | none => fresh

def needsFresh (r : Request) : Bool := ((r.header? header).filter isAcceptable).isNone

end RequestId

end TodoServer
