/-
The stages that a request passes on its way to a handler and back.

Each stage wraps the ones inside it: the gate runs the handler if it lets the request in; a
failure of either becomes an answer; the request is logged with the status it was answered
with; a body over the limit is answered before any of this; and every answer carries the id of
its request.

* `Stage.guarded` — behind the gate;
* `Stage.recovered` — failures turned into answers;
* `Stage.logged` — one log entry for the request;
* `Stage.limited` — bodies over the limit refused;
* `Stage.identified` — an id for the request, on its answer too.
-/
import TodoServer.Identity.Gate
import TodoServer.Http.BodyLimit
import TodoServer.Server.Route

namespace TodoServer

open Http

/-- What has come of a request: an answer, the caller if the gate established one, and the
world. -/
structure Exchange (α : Type) where
  answer : α
  caller : Datum
  world : World

namespace Stage

/-! ### The gate -/

/-- A handler behind the gate. -/
def guarded (mode : Gate.Mode) (clock : Option Date) (handler : Handler) (requestId : String)
    (r : Request) (w : World) : Exchange (Except Fault Response) :=
  match Gate.screen mode clock r requestId w with
  | (.exempt, w) => let (answer, w) := handler r .absent w; ⟨answer, .absent, w⟩
  | (.caller userId, w) => let (answer, w) := handler r userId w; ⟨answer, userId, w⟩
  | (.refused response, w) => ⟨.ok response, .absent, w⟩
  | (.failed fault, w) => ⟨.error fault, .absent, w⟩

/-! ### Failures -/

def errorStatuses : List Int := [400, 401, 403, 404, 405, 409, 413, 429, 500, 503]

/-- The status of an error answer, 500 where the one asked for is none. -/
def errorStatus (asked : Datum) : Int :=
  (errorStatuses.find? fun status => Datum.ofInt status = asked).getD 500

/-- The answer to a failure that the client is told. -/
def apiResponse (e : ClientError) : Response := .json (errorStatus e.status) e.body

/-- Where a failure arose, as far as it is known. -/
def trace (fault : Fault) : Text := "Error: " ++ fault.message

/-- The entry about a failure that the client is not told. -/
def faultEntry (requestId : String) (r : Request) (fault : Fault) : Log.Entry :=
  ⟨.error, [("event", .text "unhandled_error"), ("request_id", .text requestId),
    ("method", .text r.method), ("path", .text r.path), ("message", .text fault.message),
    ("stack", .text (trace fault))]⟩

/-- Failures turned into answers; those that the client is not told are logged. -/
def recovered (requestId : String) (r : Request) (e : Exchange (Except Fault Response)) :
    Exchange Response :=
  match e.answer with
  | .ok response => ⟨response, e.caller, e.world⟩
  | .error (.api error) => ⟨apiResponse error, e.caller, e.world⟩
  | .error fault => ⟨.internalError, e.caller, e.world.note (faultEntry requestId r fault)⟩

/-! ### The request log -/

/-- The level of a request's entry, by the status it was answered with. -/
def levelOf (status : Int) : Log.Level :=
  if 500 ≤ status then .error else if 400 ≤ status then .warn else .info

/-- The time between two readings of the stopwatch in whole milliseconds. -/
def elapsed (start stop : Number) : Json.Value :=
  match stop.sub? start with
  | some difference => .number difference.roundHalfUp
  | none => .null

def requestEntry (requestId : String) (r : Request) (status : Int) (start stop : Number)
    (caller : Datum) : Log.Entry :=
  ⟨levelOf status,
    ("event", .text "request") :: ("request_id", .text requestId) ::
      ("method", .text r.method) :: ("path", .text r.path) :: ("status", .ofInt status) ::
      ("duration_ms", elapsed start stop) :: caller.unlessBlank.member "user_id"⟩

/-- One log entry for a request, made when its answer is known. -/
def logged (requestId : String) (r : Request) (inner : World → Exchange Response) (w : World) :
    Exchange Response :=
  let (start, w) := w.reading
  let e := inner w
  let (stop, w) := e.world.reading
  ⟨e.answer, e.caller, w.note (requestEntry requestId r e.answer.status start stop e.caller)⟩

/-! ### The outermost stages -/

/-- Bodies over the limit refused. -/
def limited (max : Datum) (r : Request) (inner : World → Response × World) (w : World) :
    Response × World :=
  if BodyLimit.isChecked r && !max.hasWords then (.uncaught, w)
  else if BodyLimit.exceeds max r then (BodyLimit.refusal max, w)
  else inner w

def requestId (r : Request) (w : World) : String × World :=
  if RequestId.needsFresh r then
    let (fresh, w) := w.freshId
    (RequestId.choose r fresh, w)
  else (RequestId.choose r "", w)

/-- An id for a request, on its answer too. -/
def identified (r : Request) (inner : String → World → Response × World) (w : World) :
    Response × World :=
  let (id, w) := requestId r w
  let (response, w) := inner id w
  (response.withHeaders [(RequestId.header, id)], w)

/-- An id for a request where one is asked for. -/
def identifiedIf (asked : Bool) (r : Request) (inner : String → World → Response × World)
    (w : World) : Response × World :=
  if asked then identified r inner w else inner "" w

end Stage

end TodoServer
