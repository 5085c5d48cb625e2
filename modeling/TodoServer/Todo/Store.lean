/-
Calls to a store of todos, and programs made of them.

A store answers one call at a time, each as a whole; what happens between two calls of one
operation is open to every other operation. So an operation is a program: a tree of calls, each
with what to do on its reply. The tree says nothing of the store, and is run here from start to
end on one; any other schedule of the same calls is a walk through the same trees.

* `Store.Call`, `Store.Call.Reply` — the calls and what they reply with;
* `Store.Call.owner` — the user on whose behalf a call is made;
* `Store.Program` — operations;
* `Store.Program.run` — an operation run without interruption.
-/
import TodoServer.Todo.Page

namespace TodoServer.Store

/-- A call to a store. -/
inductive Call
  /-- Store a new todo. -/
  | create (todo : NewTodo)
  /-- Find a user's todo. -/
  | find (userId id : Datum)
  /-- Put a todo in the place of the stored one with its id and owner. -/
  | update (todo : Todo)
  /-- Remove a user's todo. -/
  | delete (userId id : Datum)
  /-- List a user's todos. -/
  | list (params : ListParams)
deriving DecidableEq

/-- What a store replies with. -/
abbrev Call.Reply : Call → Type
  | .create _ => Todo
  | .find _ _ => Option Todo
  | .update _ => Option Todo
  | .delete _ _ => Bool
  | .list _ => Page Todo

/-- The user on whose behalf a call is made. -/
def Call.owner : Call → Datum
  | .create todo => todo.userId
  | .find userId _ => userId
  | .update todo => todo.userId
  | .delete userId _ => userId
  | .list params => params.userId

/-- A store: how it answers a call, on a state of its own. -/
abbrev Answers (σ : Type) := (call : Call) → σ → Except Fault call.Reply × σ

/-- An operation: a result, or a call and what to do on its reply. -/
inductive Program (α : Type)
  | done (result : α)
  | call (call : Call) (next : Except Fault call.Reply → Program α)

namespace Program

def ask {α : Type} (c : Call) (next : c.Reply → Program (Except Fault α)) :
    Program (Except Fault α) :=
  .call c fun
    | .ok reply => next reply
    | .error fault => .done (.error fault)

/-- An operation that ends with a failure the client is told. -/
def refuse {α : Type} (e : ClientError) : Program (Except Fault α) := .done (.error (.api e))

/-- An operation run from start to end. -/
def run {α σ : Type} (store : Answers σ) : Program α → σ → α × σ
  | .done result, s => (result, s)
  | .call c next, s =>
    let (reply, s) := store c s
    (next reply).run store s

end Program

end TodoServer.Store
