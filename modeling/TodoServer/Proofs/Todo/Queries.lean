/-
What a call comes down to in the database.

Whatever call is made, the table goes the same way about it. Some of the call's values must be
identifiers; if one is none, there is an answer without a query. Otherwise there is one query,
and the reply is read off what the database says to it. So a call is told by four things: its
keys, its answer without them, its query, and how the outcome is read. What is proved about
each of these holds of the table.

* `Store.Call.keys`, `Call.unanswered`, `Call.query`, `Call.read` — the four things;
* `TodoTable.answer_eq` — the table goes by them;
* `TodoTable.answer_cases` — a call leaves the conversation as it is, or adds its query to it.
-/
import TodoServer.Todo.Table
import TodoServer.Proofs.Identity.Screening

namespace TodoServer

open Sql

theorem map_eq_ok_iff {ε α β : Type} {f : α → β} {x : Except ε α} {b : β} :
    x.map f = .ok b ↔ ∃ a, x = .ok a ∧ f a = b := by
  cases x <;> simp [Except.map]

/-- A conversation after some queries. -/
def Sql.Session.after (s : Session) (queries : List Query) : Session :=
  ⟨s.answers.drop queries.length, s.sent ++ queries⟩

theorem Sql.Session.after_nil (s : Session) : s.after [] = s := by
  simp [Session.after]

theorem Sql.Session.send_snd (s : Session) (q : Query) : (s.send q).2 = s.after [q] := by
  rcases hanswers : s.answers with _ | ⟨first, rest⟩ <;>
    simp [Session.send, Session.after, hanswers]

namespace Store.Call

/-- The values of a call that must be identifiers, in the order in which they are looked at. -/
def keys : Call → List Datum
  | .create todo => [todo.userId]
  | .find userId id => [userId, id]
  | .update todo => [todo.userId, todo.id]
  | .delete userId id => [userId, id]
  | .list params => TodoTable.listKeys params

/-- The answer to a call where one of these is none. -/
def unanswered : (c : Call) → Except Fault c.Reply
  | .create todo => .error (.unknownOwner todo.userId)
  | .find _ _ => .ok none
  | .update _ => .ok none
  | .delete _ _ => .ok false
  | .list _ => .ok .empty

/-- The query that a call is answered by, if it has one. -/
def query : Call → Except Fault Query
  | .create todo => .ok (TodoTable.insertQuery todo)
  | .find userId id => .ok (TodoTable.findQuery userId id)
  | .update todo => .ok (TodoTable.updateQuery todo)
  | .delete userId id => .ok (TodoTable.deleteQuery userId id)
  | .list params => TodoTable.askedQuery params

/-- What the database says to the query, read as a reply. -/
def read : (c : Call) → Outcome → Except Fault c.Reply
  | .create todo, .failed message code =>
    .error (if code = TodoTable.missingReference then .unknownOwner todo.userId
      else TodoTable.queryFault message)
  | .create _, .rows [] _ => .error .noRowInserted
  | .create _, .rows (row :: _) _ => Todo.ofRow row
  | .find _ _, outcome => TodoTable.firstTodo outcome
  | .update _, outcome => TodoTable.firstTodo outcome
  | .delete _ _, .failed message _ => .error (TodoTable.queryFault message)
  | .delete _ _, .rows _ touched => .ok (touched.any (Number.finite 0).lt)
  | .list _, .failed message _ => .error (TodoTable.queryFault message)
  | .list params, .rows rows _ =>
    (askedSize params.size).bind fun size => TodoTable.pageOfRows size rows

/-- A call as it is answered where its keys are identifiers. -/
def ask (c : Call) (s : Session) : Except Fault c.Reply × Session :=
  match c.query with
  | .error fault => (.error fault, s)
  | .ok q => (c.read (s.send q).1, (s.send q).2)

end Store.Call

namespace TodoTable

theorem withKeys_congr {α : Type} {keys : List Datum} {otherwise : Except Fault α}
    {ask ask' : Session → Except Fault α × Session} (h : ∀ s, ask s = ask' s) (s : Session) :
    withKeys keys otherwise ask s = withKeys keys otherwise ask' s := by
  rw [funext h]

/-- The table goes by what a call comes down to. -/
theorem answer_eq (c : Store.Call) (s : Session) :
    answer c s = withKeys c.keys c.unanswered c.ask s := by
  cases c with
  | create todo =>
    rw [answer, create]
    refine withKeys_congr (fun s => ?_) s
    simp only [Store.Call.ask, Store.Call.query]
    rcases s.send (insertQuery todo) with ⟨⟨_ | ⟨row, rest⟩, touched⟩ | ⟨message, code⟩, t⟩ <;>
      rfl
  | find userId id => rfl
  | update todo => rfl
  | delete userId id =>
    rw [answer, delete]
    refine withKeys_congr (fun s => ?_) s
    simp only [Store.Call.ask, Store.Call.query]
    rcases s.send (deleteQuery userId id) with ⟨⟨rows, touched⟩ | ⟨message, code⟩, t⟩ <;> rfl
  | list params =>
    rw [answer, list]
    refine withKeys_congr (fun s => ?_) s
    simp only [Store.Call.ask, Store.Call.query, askedQuery]
    rcases hsize : askedSize params.size with fault | size
    · rfl
    · simp only [Except.map]
      rcases s.send (listQuery params size) with ⟨⟨rows, touched⟩ | ⟨message, code⟩, t⟩
      · show (_, t) = ((askedSize params.size).bind fun size => pageOfRows size rows, t)
        rw [hsize]
        rfl
      · rfl

/-- A call leaves the conversation as it is, or its keys are identifiers and its query is
added. -/
theorem answer_cases (c : Store.Call) (s : Session) :
    (answer c s).2 = s ∨
      ∃ q, areKeys c.keys = .ok true ∧ c.query = .ok q ∧
        answer c s = (c.read s.next, s.after [q]) := by
  rw [answer_eq]
  unfold withKeys Store.Call.ask
  rcases areKeys c.keys with fault | (_ | _)
  · exact Or.inl rfl
  · exact Or.inl rfl
  · rcases c.query with fault | q
    · exact Or.inl rfl
    · refine Or.inr ⟨q, rfl, rfl, ?_⟩
      show (c.read (s.send q).1, (s.send q).2) = _
      rw [Session.send_fst, Session.send_snd]

end TodoTable

end TodoServer
