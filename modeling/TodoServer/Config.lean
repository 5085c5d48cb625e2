/-
The configuration of the server, read from environment variables.

An empty variable counts as unset. Variables are read in a fixed order and the first fault ends
the reading. Trusting a header for the caller's identity is possible in local development only.

* `Config` — the configuration;
* `Config.ofEnvironment` — the configuration that an environment describes, or its first fault;
* `ConfigFault.message` — the wording of the faults.
-/
import TodoServer.Sql.Pool

namespace TodoServer

/-- The environments that the server runs in. -/
inductive Deployment
  | localhost
  | alpha
  | beta
  | prod
deriving DecidableEq, Repr

namespace Deployment

def name : Deployment → String
  | .localhost => "local"
  | .alpha => "alpha"
  | .beta => "beta"
  | .prod => "prod"

/-- Every environment. -/
def all : List Deployment := [.localhost, .alpha, .beta, .prod]

def ofName? (text : String) : Option Deployment := all.find? fun env => env.name = text

end Deployment

/-- How callers are to be identified. -/
inductive Authentication
  /-- By a header, on trust. -/
  | devBypass
  /-- By tokens of an issuer for an audience, with the keys found at an address and not
  refreshed more often than the cooldown, in milliseconds, allows. -/
  | verifiedToken (issuer audience keySetUrl : Text) (cooldown : Number)
deriving DecidableEq, Repr

/-- The configuration of the server. -/
structure Config where
  port : Nat
  env : Deployment
  logLevel : Log.Level
  databaseUrl : Text
  auth : Authentication
deriving DecidableEq

/-- What can be wrong with an environment. -/
inductive ConfigFault
  | port (text : String)
  | env (text : String)
  | devMode (env : Deployment)
  | noIssuer
  | noAudience
  | cooldown (text : String)
  /-- A variable that is read in any letter case, and is `fallback` unless set, is no text. -/
  | noText (fallback : String)
deriving DecidableEq, Repr

/-- The wording of a fault. -/
def ConfigFault.message : ConfigFault → String
  | .port text =>
    "invalid SERVER_PORT \"" ++ text ++ "\": must be an integer between 1 and 65535"
  | .env text =>
    "invalid APP_ENV \"" ++ text ++ "\": must be one of " ++
      ", ".intercalate (Deployment.all.map Deployment.name)
  | .devMode place =>
    "AUTH_DEV_MODE must not be enabled in the " ++ place.name ++ " environment"
  | .noIssuer => "AUTH_ISSUER or COGNITO_USER_POOL_ID is required when AUTH_DEV_MODE is off"
  | .noAudience =>
    "AUTH_AUDIENCE or COGNITO_APP_CLIENT_ID is required when AUTH_DEV_MODE is off"
  | .cooldown text =>
    "invalid JWKS_REFRESH_COOLDOWN_SEC \"" ++ text ++ "\": must be a positive integer"
  | .noText fallback => "(env(...) ?? \"" ++ fallback ++ "\").toLowerCase is not a function"

/-- Variables by their names. -/
abbrev Environment := List (String × String)

/-- A variable that is set and not empty. -/
def Environment.get? (e : Environment) (name : String) : Option String :=
  ((e.find? fun v => v.1 = name).map (·.2)).filter (· ≠ "")

def hostedPoolIssuer (region pool : String) : String :=
  "https://cognito-idp." ++ region ++ ".amazonaws.com/" ++ pool

def withoutSlashes (text : String) : String :=
  String.ofList (text.toList.reverse.dropWhile (· = '/')).reverse

/-- Where an issuer publishes its keys. -/
def defaultKeySetUrl (issuer : String) : String :=
  withoutSlashes issuer ++ "/.well-known/jwks.json"

namespace Config

/-- A port that the server can listen on. -/
def readPort (text : String) : Except ConfigFault Nat :=
  match numeral? text.toList with
  | some n => if 1 ≤ n ∧ n ≤ 65535 then .ok n else .error (.port text)
  | none => .error (.port text)

/-- A whole number of seconds, in milliseconds. -/
def readCooldown (text : String) : Except ConfigFault Number :=
  match numeral? text.toList with
  | none => .error (.cooldown text)
  | some n =>
    match Number.ofInt n with
    | .infinite _ => .error (.cooldown text)
    | seconds => if n = 0 then .error (.cooldown text) else .ok (seconds.scale 1000)

def readDatabaseUrl (e : Environment) : String :=
  (e.get? "DATABASE_URL").getD
    (Dsn.text
      { host := (e.get? "DB_HOST").getD "localhost"
        port := (e.get? "DB_PORT").getD "5432"
        user := (e.get? "DB_USER").getD "todo"
        password := (e.get? "DB_PASSWORD").getD "todo"
        database := (e.get? "DB_NAME").getD "todo"
        sslmode := (e.get? "DB_SSLMODE").getD "disable" })

/-- The issuer of tokens: named itself, or through its user pool. -/
def readIssuer (e : Environment) : Option String :=
  match e.get? "AUTH_ISSUER" with
  | some issuer => some issuer
  | none =>
    (e.get? "COGNITO_USER_POOL_ID").map
      (hostedPoolIssuer ((e.get? "COGNITO_REGION").getD "ap-northeast-1"))

def readAudience (e : Environment) : Option String :=
  (e.get? "AUTH_AUDIENCE").or (e.get? "COGNITO_APP_CLIENT_ID")

def readKeySetUrl (e : Environment) (issuer : String) : String :=
  (e.get? "AUTH_JWKS_URL").getD (defaultKeySetUrl issuer)

/-- How callers are to be identified outside development mode. -/
def readVerifiedToken (e : Environment) : Except ConfigFault Authentication :=
  match readIssuer e with
  | none => .error .noIssuer
  | some issuer =>
    match readAudience e with
    | none => .error .noAudience
    | some audience =>
      (readCooldown ((e.get? "JWKS_REFRESH_COOLDOWN_SEC").getD "300")).map
        (.verifiedToken issuer audience (readKeySetUrl e issuer))

def readDevMode (e : Environment) : Bool :=
  lowerText ((e.get? "AUTH_DEV_MODE").getD "false") = "true"

def readAuth (e : Environment) (env : Deployment) : Except ConfigFault Authentication :=
  if readDevMode e then
    if env = .localhost then .ok .devBypass else .error (.devMode env)
  else readVerifiedToken e

def readEnv (e : Environment) : Except ConfigFault Deployment :=
  let text := (e.get? "APP_ENV").getD "local"
  match Deployment.ofName? text with
  | some env => .ok env
  | none => .error (.env text)

/-- The threshold of the log; an unknown level means the default. -/
def readLogLevel (e : Environment) : Log.Level :=
  (Log.Level.ofName? (lowerText ((e.get? "LOG_LEVEL").getD "info"))).getD .info

/-- The configuration that an environment describes. -/
def ofEnvironment (e : Environment) : Except ConfigFault Config := do
  let port ← readPort ((e.get? "SERVER_PORT").getD "8080")
  let env ← readEnv e
  let auth ← readAuth e env
  return ⟨port, env, readLogLevel e, readDatabaseUrl e, auth⟩

/-- The variables that are read in any letter case, in order, and what they are unless set. -/
def foldedVariables : List (String × String) :=
  [("LOG_LEVEL", "info"), ("AUTH_DEV_MODE", "false")]

/-- The configuration that an environment describes where some variables are given in words for
what is no text. -/
def ofWorded (e : Environment) (worded : List String) : Except ConfigFault Config := do
  let _ ← readPort ((e.get? "SERVER_PORT").getD "8080")
  let _ ← readEnv e
  match foldedVariables.find? fun v => worded.contains v.1 with
  | some v => .error (.noText v.2)
  | none => ofEnvironment e

end Config

end TodoServer
