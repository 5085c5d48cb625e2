/-
A store of todos in memory.

Todos are numbered as they are created, one second apart, so the order of creation, of ids and
of times is one. An update keeps the creation time and moves the update time on by a second,
whatever the todo handed in says. A todo of another owner is as good as absent.

* `Memory` — the todos and how many have been created;
* `Memory.list` — a page of a user's todos, newest first, after the cursor if one is given;
* `Memory.answer` — the answers to all calls.
-/
import TodoServer.Text.Characters
import TodoServer.Todo.Store

namespace TodoServer

/-- The todos in the order of their creation, and how many have been created so far. -/
structure Memory where
  todos : List Todo
  created : Nat
deriving DecidableEq

namespace Memory

/-- The store before the first todo. -/
def empty : Memory := ⟨[], 0⟩

/-- The time that todos are dated from: 2026-01-01T00:00:00Z. -/
def baseTime : Int := 1767225600000

def creationTime (n : Nat) : Date := .ofMillis (baseTime + n * 1000)

def get? (m : Memory) (id : Datum) : Option Todo := m.todos.find? fun todo => todo.id.same id

def find (m : Memory) (userId id : Datum) : Option Todo :=
  (m.get? id).filter fun todo => todo.userId.same userId

/-- The `n`th todo, as it is stored. -/
def stored (n : Nat) (todo : NewTodo) : Todo :=
  { id := .text (Uuid.ofNumber n), userId := todo.userId, title := todo.title,
    description := todo.description, status := todo.status, dueAt := todo.dueAt,
    createdAt := .date (creationTime n), updatedAt := .date (creationTime n),
    others := todo.others }

/-- A new todo is stored. -/
def create (m : Memory) (todo : NewTodo) : Todo × Memory :=
  let n := m.created + 1
  (stored n todo, ⟨m.todos ++ [stored n todo], n⟩)

def secondLater (time : Datum) : Datum := .date ((time.date?.getD .invalid).later 1000)

/-- A todo takes the place of the one with its id and owner. -/
def update (m : Memory) (todo : Todo) : Option Todo × Memory :=
  match m.find todo.userId todo.id with
  | none => (none, m)
  | some old =>
    let new := { todo with createdAt := old.createdAt, updatedAt := secondLater old.updatedAt }
    (some new, { m with todos := m.todos.map fun t => if t.id.same new.id then new else t })

/-- A user's todo is removed, if there is one. -/
def delete (m : Memory) (userId id : Datum) : Bool × Memory :=
  match m.find userId id with
  | none => (false, m)
  | some _ => (true, { m with todos := m.todos.filter fun t => !t.id.same id })

/-- A user's todos, of one status if asked for, in the order of listings. -/
def listing (m : Memory) (userId status : Datum) : List Todo :=
  (m.todos.filter fun t =>
    t.userId.same userId && (status.isBlank || t.status.same status)).mergeSort Todo.precedes

/-- The page of at most `size` items of a listing. -/
def pageOf (size : Nat) (listing : List Todo) : Page Todo :=
  (Page.take Todo.id size (listing.take (size + 1))).withoutBlankCursor

/-- The part of a listing that a page is to begin, none where the cursor is not the id of a
todo of the user. The todo that it names need not have the status asked for. -/
def listingAfter (m : Memory) (userId status cursor : Datum) :
    Except Fault (Option (List Todo)) :=
  let listing := m.listing userId status
  if cursor.isBlank then .ok (some listing)
  else if !cursor.hasWords then .error .noWords
  else if !Uuid.isWellFormed cursor.words then .ok none
  else
    .ok ((m.find userId cursor).map fun anchor =>
      listing.filter fun t => anchor.listingOrder t = .lt)

/-- A page of a user's todos, empty after a cursor that names none of theirs. -/
def list (m : Memory) (params : ListParams) : Except Fault (Page Todo) :=
  match m.listingAfter params.userId params.status params.cursor with
  | .error fault => .error fault
  | .ok none => .ok .empty
  | .ok (some listing) => (askedSize params.size).map fun size => pageOf size listing

/-- The answers to all calls. None fails, save a listing whose cursor or size has no words. -/
def answer : Store.Answers Memory
  | .create todo, m => let (todo, m) := m.create todo; (.ok todo, m)
  | .find userId id, m => (.ok (m.find userId id), m)
  | .update todo, m => let (todo, m) := m.update todo; (.ok todo, m)
  | .delete userId id, m => let (deleted, m) := m.delete userId id; (.ok deleted, m)
  | .list params, m => (m.list params, m)

end Memory

end TodoServer
