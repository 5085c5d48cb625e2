/-
The pool of database connections.

* `Dsn.text` — the address of a database, its parts escaped where they could be mistaken for
  delimiters;
* `PoolOptions`, `PoolSettings` — what is asked of a pool, and what it is opened with;
* `PoolSettings.failureEntry` — the log entry about a connection that failed while idle.
-/
import TodoServer.Text.Percent
import TodoServer.Log

namespace TodoServer

/-- The parts of a database's address. -/
structure Dsn where
  host : String
  port : String
  user : String
  password : String
  database : String
  sslmode : String
deriving DecidableEq, Repr

/-- The address of a database. -/
def Dsn.text (d : Dsn) : String :=
  "postgres://" ++ Percent.encodeComponent d.user ++ ":" ++
    Percent.encodeComponent d.password ++ "@" ++ d.host ++ ":" ++ d.port ++ "/" ++
    Percent.encodeComponent d.database ++ "?sslmode=" ++ Percent.encodeComponent d.sslmode

/-- What is asked of a pool; times are in milliseconds. -/
structure PoolOptions where
  address : Datum
  applicationName : Datum
  statementTimeout : Datum
  maxConnections : Datum
  idleTimeout : Datum
  connectionTimeout : Datum
deriving DecidableEq

/-- What a pool is opened with. -/
structure PoolSettings where
  address : Datum
  applicationName : Datum
  /-- Without one the database's own limit holds. -/
  statementTimeout : Datum
  maxConnections : Datum
  idleTimeout : Datum
  connectionTimeout : Datum
deriving DecidableEq

/-- How many connections a pool has unless told otherwise. -/
def defaultConnections : Datum := .ofInt 10

/-- The settings that options stand for: ten connections, also where none are asked for, closed
after half a minute without use, and five seconds to open one. -/
def PoolOptions.settings (o : PoolOptions) : PoolSettings :=
  { address := o.address, applicationName := o.applicationName,
    statementTimeout := o.statementTimeout,
    maxConnections :=
      if o.maxConnections.isBlank then defaultConnections else o.maxConnections,
    idleTimeout := o.idleTimeout.orElse (.ofInt 30000),
    connectionTimeout := o.connectionTimeout.orElse (.ofInt 5000) }

/-- The entry about a connection that failed while idle. -/
def PoolSettings.failureEntry (message : Text) : Log.Entry :=
  ⟨.error, [("event", .text "pg_pool_error"), ("message", .text message)]⟩

end TodoServer
