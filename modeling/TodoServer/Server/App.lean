/-
The server.

A configuration, and collaborators that may replace the usual ones, make an app; the app
answers requests. Outside in, a request gets its id and the security headers of its answer, has
its body measured, is logged, passes the gate, and is answered on its route.

* `App.build` — the app of a configuration, with what is logged and opened at its start;
* `App.serve` — the answer to a request and the world after it;
* `App.lines` — what is written of log entries.
-/
import TodoServer.Config
import TodoServer.Server.Handlers
import TodoServer.Server.Stages

namespace TodoServer

open Http

/-- The name of the service in its log and towards the database. -/
def serviceName : Text := "todo-api"

/-- An app: how callers are identified, where todos are kept, what is logged. -/
structure App where
  mode : Gate.Mode
  store : StoreKind
  threshold : Log.Level

/-- Collaborators that replace the usual ones. Where the lines of the log go is none of them: a
writer takes each line that it is handed, and does not fail. -/
structure Overrides where
  /-- Keep todos in memory instead of the database. -/
  memoryStore : Bool
  resolver : Option Identity.Resolver
  keys : Option KeySource

/-- An app at its start. -/
structure Startup where
  app : App
  /-- What was logged while it was built. -/
  entries : List Log.Entry
  /-- The pool that was opened, if a collaborator needs the database. -/
  pool : Option PoolSettings
  /-- Whether signing keys come from the cache. -/
  hasKeySetCache : Bool

namespace App

/-- The entry about an app that trusts a header. -/
def devModeEntry : Log.Entry :=
  ⟨.warn, [("event", .text "auth_dev_mode"),
    ("message", .text "X-User-ID is trusted without verification")]⟩

def poolSettings (config : Config) : PoolSettings :=
  PoolOptions.settings
    { address := config.databaseUrl, applicationName := serviceName,
      statementTimeout := .absent, maxConnections := .absent, idleTimeout := .absent,
      connectionTimeout := .absent }

def gateSetup (auth : Authentication) (overrides : Overrides) : Gate.Setup :=
  match auth with
  | .devBypass => ⟨Gate.devBypassKind, none, none, .absent, .absent⟩
  | .verifiedToken issuer audience url cooldown =>
    { kind := Gate.verifiedKind
      keys := some (overrides.keys.getD (.cached ⟨url, cooldown, true⟩))
      resolver := some (overrides.resolver.getD .registered)
      issuer := issuer
      audience := audience }

/-- Whether callers are identified by tokens. -/
def isVerified : Authentication → Bool
  | .devBypass => false
  | .verifiedToken .. => true

/-- Whether a collaborator needs the database. -/
def needsDatabase (auth : Authentication) (overrides : Overrides) : Bool :=
  !overrides.memoryStore || (isVerified auth && overrides.resolver.isNone)

/-- The app of a configuration. -/
def build (config : Config) (overrides : Overrides) : Except Gate.SetupFault Startup :=
  (Gate.Mode.ofSetup (gateSetup config.auth overrides)).map fun mode =>
    { app := ⟨mode, if overrides.memoryStore then .memory else .database, config.logLevel⟩
      entries := if isVerified config.auth then [] else [devModeEntry]
      pool := if needsDatabase config.auth overrides then some (poolSettings config) else none
      hasKeySetCache := isVerified config.auth && overrides.keys.isNone }

/-- The headers that every answer carries for the security of its reader. -/
def securityHeaders : List (String × String) :=
  [("cross-origin-resource-policy", "same-origin"),
    ("cross-origin-opener-policy", "same-origin"),
    ("origin-agent-cluster", "?1"), ("referrer-policy", "no-referrer"),
    ("strict-transport-security", "max-age=15552000; includeSubDomains"),
    ("x-content-type-options", "nosniff"), ("x-dns-prefetch-control", "off"),
    ("x-download-options", "noopen"), ("x-frame-options", "SAMEORIGIN"),
    ("x-permitted-cross-domain-policies", "none"), ("x-xss-protection", "0")]

/-- A request within the limit: logged, guarded, and answered on its route. -/
def handle (app : App) (r : Request) (requestId : String) (w : World) : Response × World :=
  let e := Stage.logged requestId r
    (fun w => Stage.recovered requestId r
      (Stage.guarded app.mode none (Route.dispatch app.store) requestId r w)) w
  (e.answer, e.world)

/-- The answer to a request and the world after it. The stages are on the way of every path, be
it that of a route or not. -/
def serve (app : App) (r : Request) (w : World) : Response × World :=
  let (response, w) := Stage.identified r
    (fun requestId w => Stage.limited BodyLimit.defaultMax r (app.handle r requestId) w) w
  ((response.withHeaders securityHeaders).sentFor r, w)

/-- The lines written of log entries made at a time. -/
def lines (app : App) (now : Date) (entries : List Log.Entry) : Except Fault (List String) :=
  (entries.mapM (Log.write serviceName app.threshold now)).map fun lines => lines.filterMap id

end App

end TodoServer
