/-
The gate that establishes who is calling.

Health checks and the paths under `/api/v1/auth/` pass without identity; every other request
must establish one before a handler runs. In development the id is taken from a header on
trust. Otherwise it is the id that the resolver gives for the subject of a verified bearer
token. All failures of a token look the same to the client, and only a failed resolution is
logged.

* `Gate.isExempt` — whether a canonical path passes without identity;
* `Gate.Mode.ofSetup` — the mode of a gate, or the collaborator that it lacks;
* `Gate.screen` — what becomes of a request at the gate.
-/
import TodoServer.Http.Message
import TodoServer.Identity.Resolver
import TodoServer.KeySet.Source

namespace TodoServer.Gate

open Http

/-! ### Paths -/

def healthPath : Text := "/health"

/-- What the paths of authentication itself begin with. -/
def authPathStart : Text := "/api/v1/auth/"

/-- Whether a canonical path passes without identity. -/
def isExempt (path : Text) : Bool :=
  path = healthPath || authPathStart.units.isPrefixOf path.units

/-! ### Modes -/

/-- How callers are identified. -/
inductive Mode
  /-- By a header, on trust. -/
  | devBypass
  /-- By a bearer token signed with one of the keys, meant for this audience. -/
  | verified (keys : KeySource) (expected : Token.Expected) (resolver : Identity.Resolver)

/-- The setup of a gate before it is known to be complete. -/
structure Setup where
  kind : Datum
  keys : Option KeySource
  resolver : Option Identity.Resolver
  issuer : Datum
  audience : Datum

/-- Why a gate cannot be set up. -/
inductive SetupFault
  | unknownKind
  | noKeySet
  | noResolver
  | noIssuer
  | noAudience
deriving DecidableEq, Repr

def SetupFault.message : SetupFault → String
  | .unknownKind => "unknown auth mode"
  | .noKeySet => "verified-token mode requires a key set"
  | .noResolver => "verified-token mode requires an identity resolver"
  | .noIssuer => "verified-token mode requires an issuer"
  | .noAudience => "verified-token mode requires an audience"

/-- The name of the mode that trusts a header. -/
def devBypassKind : Text := "dev-bypass"

/-- The name of the mode that verifies tokens. -/
def verifiedKind : Text := "verified-token"

/-- The mode of a setup; the first thing missing is the fault. -/
def Mode.ofSetup (setup : Setup) : Except SetupFault Mode :=
  if setup.kind = devBypassKind then .ok .devBypass
  else if setup.kind ≠ verifiedKind then .error .unknownKind
  else
    match setup.keys, setup.resolver with
    | none, _ => .error .noKeySet
    | some _, none => .error .noResolver
    | some keys, some resolver =>
      if setup.issuer.isBlank then .error .noIssuer
      else if setup.audience.isBlank then .error .noAudience
      else .ok (.verified keys ⟨setup.issuer, setup.audience⟩ resolver)

/-! ### Requests -/

/-- What becomes of a request at the gate. -/
inductive Admission
  /-- It goes on without identity. -/
  | exempt
  /-- It goes on as a user's, under the id that was found. -/
  | caller (userId : Datum)
  /-- It is answered at the gate. -/
  | refused (response : Response)
  /-- The gate itself failed. -/
  | failed (fault : Fault)

/-- The header that names the caller in development. -/
def devUserHeader : String := "x-user-id"

/-- What the authorization header begins with. -/
def bearerStart : String := "Bearer "

/-- What a client is told of any token that is not accepted. -/
def invalidToken : Text := "invalid or expired token"

def resolutionEntry (requestId message : Text) : Log.Entry :=
  ⟨.error, [("event", .text "identity_resolution_failed"), ("request_id", .text requestId),
    ("message", .text message)]⟩

def screenTrusted (r : Request) : Admission :=
  match (r.header? devUserHeader).filter (· ≠ "") with
  | none => .refused (.unauthorized "X-User-ID header required in dev mode")
  | some userId => .caller (.text userId)

/-- The bearer token of a request, or what the client is told of its absence. -/
def bearerToken (r : Request) : Except Text Text :=
  match (r.header? "authorization").filter (· ≠ "") with
  | none => .error "authorization header required"
  | some value =>
    match dropStart? bearerStart.toList value.toList with
    | none => .error "invalid authorization header format"
    | some token => .ok (.ofChars token)

/-- The caller behind the subject of a verified token. -/
def screenSubject (resolver : Identity.Resolver) (subject requestId : Text) (w : World) :
    Admission × World :=
  let (resolution, database) := resolver.resolve subject w.database
  let w := { w with database }
  match resolution with
  | .user userId => (.caller userId, w)
  | .unregistered => (.refused (.unauthorized invalidToken), w)
  | .failed message => (.refused .internalError, w.note (resolutionEntry requestId message))

def screenToken (keys : KeySource) (expected : Token.Expected) (resolver : Identity.Resolver)
    (clock : Option Date) (token requestId : Text) (w : World) : Admission × World :=
  match Token.verify keys.lookup token expected (clock.getD w.time) w with
  | (.error message, w) => (.failed (.raised message), w)
  | (.ok (.error _), w) => (.refused (.unauthorized invalidToken), w)
  | (.ok (.ok verified), w) => screenSubject resolver verified.subject requestId w

/-- What becomes of a request at the gate. A clock may be given to judge tokens by. -/
def screen (mode : Mode) (clock : Option Date) (r : Request) (requestId : Text) (w : World) :
    Admission × World :=
  if isExempt (Path.canonical r.path) then (.exempt, w)
  else
    match mode with
    | .devBypass => (screenTrusted r, w)
    | .verified keys expected resolver =>
      match bearerToken r with
      | .error message => (.refused (.unauthorized message), w)
      | .ok token => screenToken keys expected resolver clock token requestId w

end TodoServer.Gate
