/-
What a request meets outside its own text, and what it leaves behind.

Serving is a function: the clock, the stopwatch, fresh ids, what the key-set endpoint answers
and what the database will answer all stand in the world that goes in, and log entries, fetches
and store calls are added to the world that comes out. Only `now` and the answers change from
outside.

* `World` — all of it;
* `World.initial` — a world in which nothing has happened;
* `World.reading`, `World.freshId`, `World.note` — a stopwatch reading, a fresh id, a log
  entry.
-/
import TodoServer.Text.Characters
import TodoServer.KeySet.Cache
import TodoServer.Todo.Memory
import TodoServer.Sql.Session

namespace TodoServer

/-- A fetch of the key-set document: where from, and what form was asked for. -/
structure Fetch where
  url : Text
  accept : String
deriving DecidableEq, Repr

/-- What a request meets and leaves behind. -/
structure World where
  /-- Milliseconds since the epoch, not always whole. -/
  now : Rat
  /-- The readings of the stopwatch still to come; after them it shows zero. -/
  readings : List Number
  /-- How many fresh ids have been given out. -/
  idsGiven : Nat
  /-- What the key-set endpoint answers at present. -/
  endpoint : FetchOutcome
  /-- The cache of signing keys. -/
  cache : Cache
  /-- The conversation with the database. -/
  database : Sql.Session
  /-- The store in memory. -/
  memory : Memory
  /-- The log entries made. -/
  journal : List Log.Entry
  /-- The fetches made. -/
  fetches : List Fetch
  /-- The calls made to the store of todos. -/
  calls : List Store.Call

namespace World

/-- A world in which nothing has happened. -/
def initial (now : Rat) (endpoint : FetchOutcome) : World :=
  { now, readings := [], idsGiven := 0, endpoint, cache := .empty, database := .empty,
    memory := .empty, journal := [], fetches := [], calls := [] }

def time (w : World) : Date := .ofRat w.now

/-- What a clock shows some milliseconds after a time: the number next to their sum. -/
def clockAfter (now : Rat) (millis : Number) : Rat := (Number.ofRat (now + millis.toRat)).toRat

/-- The next reading of the stopwatch. -/
def reading (w : World) : Number × World :=
  match w.readings with
  | [] => (.finite 0, w)
  | first :: rest => (first, { w with readings := rest })

/-- A fresh id. -/
def freshId (w : World) : String × World :=
  (Uuid.ofNumber (w.idsGiven + 1), { w with idsGiven := w.idsGiven + 1 })

/-- One more log entry. -/
def note (w : World) (entry : Log.Entry) : World := { w with journal := w.journal ++ [entry] }

/-- The world without what earlier requests left behind for others to read. -/
def cleared (w : World) : World :=
  { w with
    journal := []
    fetches := []
    calls := []
    database := { w.database with sent := [] } }

end World

end TodoServer
