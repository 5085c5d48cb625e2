/-
What operations say to the database, and what they make of the answers.

Run over the table, an operation is a conversation: in each turn a call sends its query and the
database says something to it. What it says is read as the reply to the call, and an operation
ends with the first reply that is a failure, or says that there is no such todo. So the outcome
of one query decides what comes of the whole operation, wherever in it the query stands. Nobody
takes more than two turns, and only what changes a todo takes two: it looks for the todo first,
and writes it back if it is there and the changes break no rule.

* `Turn`, `Store.Program.turns` — the turns of an operation;
* `Store.Program.run_snd_eq`, `Store.Program.outcome_turns` — they are all that is sent, and
  answered in the order of the answers;
* `Store.Call.ends`, `Store.Program.run_of_turn` — the replies that an operation ends with;
* `Action.Takes`, `Action.takes_turns` — the turns that an action can take;
* `Store.Call.ends_failed` and its like — what comes of an outcome, by the form of the
  statement.
-/
import TodoServer.Proofs.Todo.Failures
import TodoServer.Proofs.Todo.Pages
import TodoServer.Proofs.Todo.Queries
import TodoServer.Proofs.Todo.Rules

namespace TodoServer

open Sql Store

/-! ### Statements -/

namespace Sql.Statement

/-- The forms of statements. -/
inductive Form
  | select
  | page
  | insert
  | update
  | delete
deriving DecidableEq, Repr

def form : Statement → Form
  | .select _ _ _ => .select
  | .page _ _ _ => .page
  | .insert _ => .insert
  | .update _ _ => .update
  | .delete _ => .delete

/-- A statement that changes the todos. -/
def isWrite (statement : Statement) : Bool := statement.form ≠ .select ∧ statement.form ≠ .page

end Sql.Statement

/-! ### Turns -/

/-- A turn in a conversation with the database: a call, the query that it sends, and what the
database says to it. -/
structure Turn where
  call : Call
  query : Query
  outcome : Outcome

/-- The turn that a call takes, if it sends a query. -/
def Store.Call.turns (c : Call) (s : Session) : List Turn :=
  match TodoTable.areKeys c.keys, c.query with
  | .ok true, .ok q => [⟨c, q, s.next⟩]
  | _, _ => []

/-- The turns of an operation. -/
def Store.Program.turns {α : Type} : Program α → Session → List Turn
  | .done _, _ => []
  | .call c next, s =>
    c.turns s ++ (next (TodoTable.answer c s).1).turns (TodoTable.answer c s).2

/-- A call takes a turn, and its reply is read off the outcome, or it is answered without
one. -/
theorem TodoTable.answer_turns (c : Call) (s : Session) :
    (∃ q, areKeys c.keys = .ok true ∧ c.query = .ok q ∧ c.turns s = [⟨c, q, s.next⟩] ∧
        answer c s = (c.read s.next, s.after [q])) ∨
      (areKeys c.keys = .ok true → ∃ fault, c.query = .error fault) ∧ c.turns s = [] ∧
        (answer c s).2 = s ∧
          ((answer c s).1 = c.unanswered ∨ ∃ fault, (answer c s).1 = .error fault) := by
  have hanswer := answer_eq c s
  unfold withKeys at hanswer
  unfold Call.turns
  rcases hkeys : areKeys c.keys with fault | (_ | _) <;> simp only [hkeys] at hanswer
  · exact Or.inr ⟨nofun, rfl, by rw [hanswer], Or.inr ⟨fault, by rw [hanswer]⟩⟩
  · exact Or.inr ⟨nofun, rfl, by rw [hanswer], Or.inl (by rw [hanswer])⟩
  · unfold Call.ask at hanswer
    rcases hquery : c.query with fault | q <;> simp only [hquery] at hanswer
    · exact Or.inr ⟨fun _ => ⟨fault, rfl⟩,
        rfl, by rw [hanswer], Or.inr ⟨fault, by rw [hanswer]⟩⟩
    · rw [Session.send_fst, Session.send_snd] at hanswer
      exact Or.inl ⟨q, rfl, rfl, rfl, hanswer⟩

/-- Nothing is asked for where what is to be an identifier is none. -/
theorem TodoTable.answer_of_areKeys_eq_false {c : Call} (hkeys : areKeys c.keys = .ok false)
    (s : Session) : c.turns s = [] ∧ (answer c s).1 = c.unanswered := by
  rw [Call.turns, answer_eq, withKeys, hkeys]
  exact ⟨rfl, rfl⟩

theorem TodoTable.answer_of_areKeys_eq_error {c : Call} {fault : Fault}
    (hkeys : areKeys c.keys = .error fault) (s : Session) :
    c.turns s = [] ∧ (answer c s).1 = .error fault := by
  rw [Call.turns, answer_eq, withKeys, hkeys]
  exact ⟨rfl, rfl⟩

namespace Store.Program

variable {α β : Type} {s : Session}

theorem turns_call (c : Call) (next : Except Fault c.Reply → Program α) (s : Session) :
    (Program.call c next).turns s =
      c.turns s ++ (next (TodoTable.answer c s).1).turns (TodoTable.answer c s).2 := rfl

/-- The last call of an operation takes the last turn. -/
theorem turns_last {c : Call} {next : Except Fault c.Reply → Program α}
    (hlast : ∀ reply t, (next reply).turns t = []) (s : Session) :
    (Program.call c next).turns s = c.turns s := by
  rw [turns_call, hlast, List.append_nil]

theorem turns_map (f : α → β) (p : Program α) (s : Session) :
    (p.map f).turns s = p.turns s := by
  induction p generalizing s with
  | done result => rfl
  | call c next ih => exact congrArg (c.turns s ++ ·) (ih _ _)

/-- What an operation sends are the queries of its turns. -/
theorem run_snd_eq (p : Program α) (s : Session) :
    (p.run TodoTable.answer s).2 = s.after ((p.turns s).map Turn.query) := by
  induction p generalizing s with
  | done result => exact s.after_nil.symm
  | call c next ih =>
    rw [run_call, turns_call, ih, List.map_append]
    rcases TodoTable.answer_turns c s with ⟨q, -, -, hturns, hanswer⟩ | ⟨-, hturns, hafter, -⟩
    · rw [hturns, hanswer]
      simp [Session.after]
    · rw [hturns, hafter]
      rfl

theorem query_turns {p : Program α} {t : Turn} (ht : t ∈ p.turns s) :
    t.call.query = .ok t.query := by
  induction p generalizing s with
  | done result => exact absurd ht List.not_mem_nil
  | call c next ih =>
    rw [turns_call] at ht
    rcases List.mem_append.1 ht with hfirst | hlater
    · rcases TodoTable.answer_turns c s with ⟨q, -, hquery, hturns, -⟩ | ⟨-, hturns, -⟩ <;>
        rw [hturns] at hfirst
      · rw [List.mem_singleton.1 hfirst]
        exact hquery
      · exact absurd hfirst List.not_mem_nil
    · exact ih _ hlater

/-- The turns are answered in the order of the answers, and once these have run out no rows are
found. -/
theorem outcome_turns {p : Program α} {i : Nat} {t : Turn} (ht : (p.turns s)[i]? = some t) :
    t.outcome = s.answers.getD i (.rows [] (some (.finite 0))) := by
  induction p generalizing s i with
  | done result => cases ht
  | call c next ih =>
    rw [turns_call] at ht
    rcases TodoTable.answer_turns c s with ⟨q, -, -, hturns, hanswer⟩ | ⟨-, hturns, hafter, -⟩
    · rw [hturns, hanswer] at ht
      rcases i with _ | i
      · obtain rfl : (⟨c, q, s.next⟩ : Turn) = t := Option.some_inj.1 ht
        show s.next = _
        rw [Session.next, List.head?_eq_getElem?, List.getD_eq_getElem?_getD]
      · rw [ih _ ht, List.getD_eq_getElem?_getD, List.getD_eq_getElem?_getD]
        show ((s.answers.drop 1)[i]?).getD _ = _
        rw [List.getElem?_drop, Nat.add_comm]
    · rw [hturns, hafter] at ht
      exact ih _ ht

end Store.Program

/-! ### Replies that end an operation -/

/-- A reply says that there is no such todo. -/
def Store.Call.misses : (c : Call) → c.Reply → Bool
  | .create _, _ => false
  | .find _ _, reply => Option.isNone reply
  | .update _, reply => Option.isNone reply
  | .delete _ _, deleted => !deleted
  | .list _, _ => false

/-- The failure that an operation ends with on a reply, if it ends there. -/
def Store.Call.ends (c : Call) : Except Fault c.Reply → Option Fault
  | .error fault => some (c.reported fault)
  | .ok reply => if c.misses reply then some (.api Operation.todoNotFound) else none

namespace Store.Program

variable {α β : Type}

/-- The program ends with a todo not found, as soon as a reply says that there is none. -/
def Misses : Program (Except Fault α) → Prop
  | .done _ => True
  | .call c next =>
    (∀ reply, c.misses reply = true → next (.ok reply) = .refuse Operation.todoNotFound) ∧
      ∀ reply, (next (.ok reply)).Misses

theorem misses_done (result : Except Fault α) : (Program.done result).Misses := trivial

theorem misses_map {p : Program (Except Fault α)} (hp : p.Misses) (f : α → β) :
    (p.map (Except.map f)).Misses := by
  induction p with
  | done result => trivial
  | call c next ih =>
    obtain ⟨hends, hnext⟩ := hp
    refine ⟨fun reply hmisses => ?_, fun reply => ih _ (hnext reply)⟩
    show (next (.ok reply)).map (Except.map f) = _
    rw [hends reply hmisses]
    rfl

/-- An operation ends with what one of its turns ends it with. -/
theorem run_of_turn {p : Program (Except Fault α)} (hreports : p.Reports) (hmisses : p.Misses)
    {s : Session} {t : Turn} (ht : t ∈ p.turns s) {fault : Fault}
    (hends : t.call.ends (t.call.read t.outcome) = some fault) :
    (p.run TodoTable.answer s).1 = .error fault := by
  induction p generalizing s with
  | done result => exact absurd ht List.not_mem_nil
  | call c next ih =>
    rw [turns_call] at ht
    rw [run_call]
    rcases List.mem_append.1 ht with hfirst | hlater
    · -- the turn of this call, whose reply has been read off the outcome
      rcases TodoTable.answer_turns c s with ⟨q, -, -, hturns, hanswer⟩ | ⟨-, hturns, -⟩ <;>
        rw [hturns] at hfirst
      · obtain rfl := List.mem_singleton.1 hfirst
        simp only at hends
        rw [hanswer]
        rcases hread : c.read s.next with failure | reply
        · rw [hread] at hends
          rw [hreports.1 failure]
          exact congrArg Except.error (Option.some_inj.1 hends)
        · rw [hread, Call.ends] at hends
          split_ifs at hends with hmiss
          rw [hmisses.1 reply hmiss]
          exact congrArg Except.error (Option.some_inj.1 hends)
      · exact absurd hfirst List.not_mem_nil
    · -- a later turn, so this call has not failed
      rcases hreply : (TodoTable.answer c s).1 with failure | reply
      · rw [hreply, hreports.1 failure] at hlater
        exact absurd hlater List.not_mem_nil
      · rw [hreply] at hlater
        exact ih _ (hreports.2 reply) (hmisses.2 reply) hlater

end Store.Program

namespace Operation

open Program

theorem create_misses (u : Datum) (input : TodoInput) : (create u input).Misses := by
  rw [create]
  rcases input.newTodo u with e | todo
  · exact misses_done _
  · exact ⟨fun _ h => absurd h Bool.false_ne_true, fun _ => misses_done _⟩

theorem withTodo_misses {α : Type} {u id : Datum} {next : Todo → Program (Except Fault α)}
    (hnext : ∀ todo, (next todo).Misses) : (withTodo u id next).Misses := by
  constructor
  · rintro (_ | todo) hmiss
    · rfl
    · cases hmiss
  · rintro (_ | todo)
    · exact misses_done _
    · exact hnext todo

theorem save_misses (todo : Todo) : (save todo).Misses := by
  constructor
  · rintro (_ | stored) hmiss
    · rfl
    · cases hmiss
  · rintro (_ | stored) <;> exact misses_done _

theorem update_misses (u id : Datum) (changes : TodoChanges) :
    (update u id changes).Misses := by
  refine withTodo_misses fun todo => ?_
  rcases changes.apply todo with e | new
  · exact misses_done _
  · exact save_misses new

theorem updateStatus_misses (u id status : Datum) : (updateStatus u id status).Misses := by
  rw [updateStatus]
  rcases Status.ofDatum? status with _ | known
  · exact misses_done _
  · exact withTodo_misses fun _ => save_misses _

theorem delete_misses (u id : Datum) : (delete u id).Misses := by
  constructor
  · rintro (_ | _) hmiss
    · rfl
    · cases hmiss
  · rintro (_ | _) <;> exact misses_done _

theorem list_misses (u : Datum) (input : ListInput) : (list u input).Misses := by
  rw [list]
  rcases askedSize input.size with fault | size
  · exact misses_done _
  · exact ⟨fun _ h => absurd h Bool.false_ne_true, fun _ => misses_done _⟩

end Operation

theorem Action.program_misses (a : Action) (u : Datum) : (a.program u).Misses := by
  cases a with
  | create input => exact Program.misses_map (Operation.create_misses u input) _
  | find id =>
    exact Program.misses_map (Operation.withTodo_misses fun _ => Program.misses_done _) _
  | update id changes => exact Program.misses_map (Operation.update_misses u id changes) _
  | updateStatus id status =>
    exact Program.misses_map (Operation.updateStatus_misses u id status) _
  | delete id => exact Program.misses_map (Operation.delete_misses u id) _
  | list input => exact Program.misses_map (Operation.list_misses u input) _

/-! ### The turns of an action -/

/-- The values that an action needs to be identifiers before it asks the database for
anything. -/
def Action.keys (u : Datum) : Action → List Datum
  | .create _ => [u]
  | .find id | .update id _ | .updateStatus id _ | .delete id => [u, id]
  | .list input => if input.cursor.isBlank then [u] else [u, input.cursor]

theorem Action.mem_keys (u : Datum) (a : Action) : u ∈ a.keys u := by
  cases a with
  | list input =>
    rw [keys]
    split_ifs <;> exact List.mem_cons_self
  | _ => exact List.mem_cons_self

/-- An action takes no turn: a value that is to be an identifier is none, a rule is broken that
is judged beforehand, or the size of a page has no words. -/
inductive Action.Silent (u : Datum) : Action → Prop
  | keys {a : Action} (h : TodoTable.areKeys (a.keys u) ≠ .ok true) : Silent u a
  | breaks {a : Action} {message : Text} (h : a.Breaks (fun _ => False) message) : Silent u a
  | size {input : ListInput} (h : input.size.hasWords = false) : Silent u (.list input)

/-- The turns that an action can take. A todo is written back in a second turn, after the row
found in the first one, and with the changes made that were asked for. -/
inductive Action.Takes (u : Datum) : Action → List Turn → Prop
  | nothing {a : Action} (h : a.Silent u) : Takes u a []
  | create {input : TodoInput} {new : NewTodo} {outcome : Outcome}
    (hnew : input.newTodo u = .ok new) :
    Takes u (.create input) [⟨.create new, TodoTable.insertQuery new, outcome⟩]
  | find {id : Datum} {outcome : Outcome} :
    Takes u (.find id) [⟨.find u id, TodoTable.findQuery u id, outcome⟩]
  | delete {id : Datum} {outcome : Outcome} :
    Takes u (.delete id) [⟨.delete u id, TodoTable.deleteQuery u id, outcome⟩]
  | list {input : ListInput} {params : ListParams} {outcome : Outcome}
    (hparams : params = ⟨u, input.status, input.cursor, .ofInt (pageSize input.size)⟩) :
    Takes u (.list input)
      [⟨.list params, TodoTable.listQuery params (pageSize params.size), outcome⟩]
  | notUpdated {id : Datum} {changes : TodoChanges} {outcome : Outcome} :
    Takes u (.update id changes) [⟨.find u id, TodoTable.findQuery u id, outcome⟩]
  | updated {id : Datum} {changes : TodoChanges} {row : Row} {rest : List Row}
    {touched : Option Number} {todo new : Todo} {outcome : Outcome}
    (hrow : Todo.ofRow row = .ok todo) (hnew : changes.apply todo = .ok new) :
    Takes u (.update id changes)
      [⟨.find u id, TodoTable.findQuery u id, .rows (row :: rest) touched⟩,
        ⟨.update new, TodoTable.updateQuery new, outcome⟩]
  | statusNotUpdated {id status : Datum} {outcome : Outcome} :
    Takes u (.updateStatus id status) [⟨.find u id, TodoTable.findQuery u id, outcome⟩]
  | statusUpdated {id status : Datum} {known : Status} {row : Row} {rest : List Row}
    {touched : Option Number} {todo new : Todo} {outcome : Outcome}
    (hrow : Todo.ofRow row = .ok todo) (hstatus : Status.ofDatum? status = some known)
    (hnew : new = { todo with status }) :
    Takes u (.updateStatus id status)
      [⟨.find u id, TodoTable.findQuery u id, .rows (row :: rest) touched⟩,
        ⟨.update new, TodoTable.updateQuery new, outcome⟩]

/-- A listing asks for a page of the size that was made out. -/
theorem Store.Call.query_list (u : Datum) (input : ListInput) :
    let params : ListParams := ⟨u, input.status, input.cursor, .ofInt (pageSize input.size)⟩
    (Call.list params).query = .ok (TodoTable.listQuery params (pageSize params.size)) := rfl

/-- A call of one query takes one turn if its keys are identifiers, and none otherwise. -/
theorem Store.Call.turns_cases {c : Call} {q : Query} (hquery : c.query = .ok q)
    (s : Session) :
    (TodoTable.areKeys c.keys ≠ .ok true ∧ c.turns s = []) ∨ c.turns s = [⟨c, q, s.next⟩] := by
  rcases TodoTable.answer_turns c s with ⟨q', -, hquery', hturns, -⟩ | ⟨hkeys, hturns, -⟩
  · obtain rfl : q' = q := Except.ok.inj (hquery'.symm.trans hquery)
    exact Or.inr hturns
  · refine Or.inl ⟨fun h => ?_, hturns⟩
    obtain ⟨fault, hfault⟩ := hkeys h
    rw [hfault] at hquery
    cases hquery

/-- A todo that is found has been read off the first row that the database has found. -/
theorem Store.Call.turns_of_found {u id : Datum} {s : Session} {todo : Todo}
    (h : (TodoTable.answer (.find u id) s).1 = .ok (some todo)) :
    ∃ row rest touched, Todo.ofRow row = .ok todo ∧
      (Call.find u id).turns s =
        [⟨.find u id, TodoTable.findQuery u id, .rows (row :: rest) touched⟩] := by
  rcases TodoTable.answer_turns (.find u id) s with
    ⟨q, -, hquery, hturns, hanswer⟩ | ⟨-, -, -, hnone | ⟨fault, hfault⟩⟩
  · obtain rfl : TodoTable.findQuery u id = q := Except.ok.inj hquery
    rw [hanswer] at h
    rcases hnext : s.next with ⟨_ | ⟨row, rest⟩, touched⟩ | ⟨message, code⟩ <;>
      simp only [hnext, Call.read, TodoTable.firstTodo] at h
    · cases h
    · obtain ⟨found, hrow, hfound⟩ := map_eq_ok_iff.1 h
      obtain rfl := Option.some_inj.1 hfound
      exact ⟨row, rest, touched, hrow, by rw [hturns, hnext]⟩
    · cases h
  · rw [hnone] at h
    cases h
  · rw [hfault] at h
    cases h

namespace Operation

open Program

variable {u id : Datum} {s : Session}

/-- Looking for a todo takes a turn, and what is done with it takes the others. -/
theorem turns_withTodo {α : Type} (next : Todo → Program (Except Fault α)) :
    (∃ row rest touched todo, Todo.ofRow row = .ok todo ∧ (withTodo u id next).turns s =
        ⟨.find u id, TodoTable.findQuery u id, .rows (row :: rest) touched⟩ ::
          (next todo).turns (TodoTable.answer (.find u id) s).2) ∨
      (withTodo u id next).turns s = (Call.find u id).turns s := by
  rw [withTodo, ask, turns_call]
  rcases hreply : (TodoTable.answer (.find u id) s).1 with fault | _ | todo
  · exact Or.inr (List.append_nil _)
  · exact Or.inr (List.append_nil _)
  · obtain ⟨row, rest, touched, hrow, hturns⟩ := Call.turns_of_found hreply
    rw [hturns]
    exact Or.inl ⟨row, rest, touched, todo, hrow, rfl⟩

/-- Writing a todo back takes one turn at most. -/
theorem turns_save (todo : Todo) :
    (save todo).turns s = [] ∨
      (save todo).turns s = [⟨.update todo, TodoTable.updateQuery todo, s.next⟩] := by
  have hsave : (save todo).turns s = (Call.update todo).turns s := by
    refine turns_last (fun reply t => ?_) s
    rcases reply with fault | _ | stored <;> rfl
  rw [hsave]
  exact (Call.turns_cases rfl s).imp_left And.right

/-- A listing takes the turn of its one call. -/
theorem turns_list {input : ListInput} (hwords : input.size.hasWords = true) :
    (list u input).turns s =
      (Call.list ⟨u, input.status, input.cursor, .ofInt (pageSize input.size)⟩).turns s := by
  rw [list, askedSize_of_hasWords hwords]
  exact turns_last (fun reply t => by rcases reply with fault | page <;> rfl) s

end Operation

namespace Action

variable {u : Datum} {s : Session}

/-- Where a call needs the identifiers that an action needs, and its turn is one that the
action can take, the action takes it, or no turn for want of an identifier. -/
theorem takes_call {a : Action} {c : Call} {q : Query} (hquery : c.query = .ok q)
    (hkeys : c.keys = a.keys u) (hturn : ∀ outcome, a.Takes u [⟨c, q, outcome⟩]) :
    a.Takes u (c.turns s) := by
  rcases Call.turns_cases hquery s with ⟨hnone, hturns⟩ | hturns <;> rw [hturns]
  · rw [hkeys] at hnone
    exact .nothing (.keys hnone)
  · exact hturn _

theorem takes_create (input : TodoInput) :
    (Action.create input).Takes u ((Operation.create u input).turns s) := by
  rw [Operation.create]
  rcases hnew : input.newTodo u with e | new
  · -- a new todo is judged before the database is asked
    obtain ⟨message, hbreaks, -⟩ := TodoInput.newTodo_eq_error_iff.1 hnew
    exact .nothing (.breaks hbreaks)
  · have howner : new.userId = u := by
      obtain ⟨-, dueAt, -, rfl⟩ := TodoInput.newTodo_eq_ok_iff.1 hnew
      rfl
    simp only
    rw [Program.turns_last fun reply t => by rcases reply with (_ | _) | stored <;> rfl]
    exact takes_call rfl (congrArg (fun owner => [owner]) howner) fun _ => .create hnew

theorem takes_find (id : Datum) :
    (Action.find id).Takes u ((Operation.find u id).turns s) := by
  rcases @Operation.turns_withTodo u id s _ fun todo => .done (.ok todo) with
    ⟨row, rest, touched, todo, -, hturns⟩ | hturns <;> rw [Operation.find, hturns]
  · exact .find
  · exact takes_call rfl rfl fun _ => .find

theorem takes_update (id : Datum) (changes : TodoChanges) :
    (Action.update id changes).Takes u ((Operation.update u id changes).turns s) := by
  rw [Operation.update]
  rcases @Operation.turns_withTodo u id s _ _ with
    ⟨row, rest, touched, todo, hrow, hturns⟩ | hturns <;> rw [hturns]
  · -- the todo is there, so there is a second turn unless the changes break a rule
    rcases hnew : changes.apply todo with e | new
    · exact .notUpdated
    · simp only
      rcases @Operation.turns_save _ new with hsave | hsave <;> rw [hsave]
      · exact .notUpdated
      · exact .updated hrow hnew
  · exact takes_call rfl rfl fun _ => .notUpdated

theorem takes_updateStatus (id status : Datum) :
    (Action.updateStatus id status).Takes u
      ((Operation.updateStatus u id status).turns s) := by
  rw [Operation.updateStatus]
  rcases hstatus : Status.ofDatum? status with _ | known
  · -- and so is a status, unlike other changes
    exact .nothing (.breaks (.noStatus (Status.ofDatum?_eq_none_iff.1 hstatus)))
  · simp only
    rcases @Operation.turns_withTodo u id s _ _ with
      ⟨row, rest, touched, todo, hrow, hturns⟩ | hturns <;> rw [hturns]
    · rcases @Operation.turns_save _ { todo with status } with hsave | hsave <;> rw [hsave]
      · exact .statusNotUpdated
      · exact .statusUpdated hrow hstatus rfl
    · exact takes_call rfl rfl fun _ => .statusNotUpdated

theorem takes_delete (id : Datum) :
    (Action.delete id).Takes u ((Operation.delete u id).turns s) := by
  rw [Operation.delete, Program.ask]
  rw [Program.turns_last fun reply t => by rcases reply with fault | _ | _ <;> rfl]
  exact takes_call rfl rfl fun _ => .delete

theorem takes_list (input : ListInput) :
    (Action.list input).Takes u ((Operation.list u input).turns s) := by
  by_cases hwords : input.size.hasWords = true
  · rw [Operation.turns_list hwords]
    exact takes_call (Call.query_list u input) rfl fun _ => .list rfl
  · rw [Operation.list, askedSize, Datum.demand, if_neg hwords]
    exact .nothing (.size (Bool.eq_false_iff.2 hwords))

/-- An action takes the turns that it can take, and keeps silent only for a reason. -/
theorem takes_turns (a : Action) (u : Datum) (s : Session) :
    a.Takes u ((a.program u).turns s) := by
  cases a <;> rw [program, Program.turns_map]
  · exact takes_create _
  · exact takes_find _
  · exact takes_update _ _
  · exact takes_updateStatus _ _
  · exact takes_delete _
  · exact takes_list _

namespace Takes

variable {a : Action} {turns : List Turn}

theorem length_le (h : a.Takes u turns) : turns.length ≤ 2 := by
  cases h <;> simp

/-- Todos are changed in one turn at most. -/
theorem countP_isWrite_le (h : a.Takes u turns) :
    turns.countP (fun t => t.query.statement.isWrite) ≤ 1 := by
  cases h <;> exact Nat.le_of_ble_eq_true rfl

/-- A todo is written back after it has been found, and for an action that breaks no rule. -/
theorem of_update (h : a.Takes u turns) {t : Turn} (ht : t ∈ turns)
    (hupdate : t.query.statement.form = .update) :
    ∃ id row rest touched todo, a.keys u = [u, id] ∧
      turns = [⟨.find u id, TodoTable.findQuery u id, .rows (row :: rest) touched⟩, t] ∧
      Todo.ofRow row = .ok todo ∧ ∀ message, ¬a.Breaks (fun _ => True) message := by
  cases h with
  | @updated id changes row rest touched todo new outcome hrow hnew =>
    rcases List.mem_pair.1 ht with rfl | rfl
    · cases hupdate
    · refine ⟨id, row, rest, touched, todo, rfl, rfl, hrow, fun message hbreaks => ?_⟩
      rw [(TodoChanges.apply_eq_error_iff trivial).2 ⟨message, hbreaks, rfl⟩] at hnew
      cases hnew
  | @statusUpdated id status known row rest touched todo new outcome hrow hstatus hnew =>
    rcases List.mem_pair.1 ht with rfl | rfl
    · cases hupdate
    · refine ⟨id, row, rest, touched, todo, rfl, rfl, hrow, fun message hbreaks => ?_⟩
      cases hbreaks with
      | noStatus hnone =>
        rw [Status.ofDatum?_eq_none_iff.2 hnone] at hstatus
        cases hstatus
  | nothing => cases ht
  | _ =>
    obtain rfl := List.mem_singleton.1 ht
    cases hupdate

/-- Nothing is asked of the database for a reason only. -/
theorem silent (h : a.Takes u []) : a.Silent u := by
  cases h with
  | nothing hsilent => exact hsilent

end Takes

end Action

/-! ### What comes of an outcome -/

/-- The rows that a call looks into: those that make the page, for any other call the first
one, and none where a todo is removed. -/
def Store.Call.rowsRead : Call → List Row → List Row
  | .list params, rows => rows.take (pageSize params.size)
  | .delete _ _, _ => []
  | _, rows => rows.take 1

theorem Todo.ofRow_eq_error_iff {row : Row} {fault : Fault} :
    ofRow row = .error fault ↔
      Status.ofDatum? (row.get .status) = none ∧ fault = statusFault (row.get .status) := by
  rw [ofRow]
  rcases Status.ofDatum? (row.get .status) with _ | known <;> simp [eq_comm]

theorem statusFault_ne_api (status : Datum) (e : ClientError) :
    statusFault status ≠ .api e := by
  unfold statusFault
  split_ifs <;> exact Fault.noConfusion

/-- Where something fails for one of some items, that or something before it is what comes of
them all. -/
theorem exists_error_of_mapM {ε α β : Type} {f : α → Except ε β} {items : List α}
    {a : α} {e : ε} (ha : a ∈ items) (h : f a = .error e) :
    ∃ b ∈ items, ∃ e', f b = .error e' ∧ items.mapM f = .error e' := by
  induction items with
  | nil => exact absurd ha List.not_mem_nil
  | cons b rest ih =>
    rw [List.mapM_cons]
    rcases hfirst : f b with e' | c
    · exact ⟨b, List.mem_cons_self, e', hfirst, rfl⟩
    · rcases List.mem_cons.1 ha with rfl | hrest
      · rw [hfirst] at h
        cases h
      · obtain ⟨b', hb', e', hfails, hmap⟩ := ih hrest
        exact ⟨b', List.mem_cons_of_mem _ hb', e', hfails, by rw [hmap]; rfl⟩

/-- The items of a page are the first ones. -/
theorem Page.items_take {α : Type} (id : α → Datum) (size : Nat) (fetched : List α) :
    (take id size fetched).items = fetched.take size := by
  rw [take]
  split_ifs with hfits hnonneg
  · exact (List.take_of_length_le (Int.ofNat_le.1 hfits)).symm
  · rfl
  · exact absurd (Int.natCast_nonneg size) hnonneg

theorem pageSize_of_askedSize {asked : Datum} {size : Nat} (h : askedSize asked = .ok size) :
    pageSize asked = size := by
  obtain ⟨given, hgiven, rfl⟩ := map_eq_ok_iff.1 h
  rw [Datum.demand] at hgiven
  split_ifs at hgiven
  exact congrArg pageSize (Except.ok.inj hgiven)

namespace Store.Call

variable {c : Call} {q : Query} {message : Text} {code : Datum} {rows : List Row}
  {touched : Option Number} {row : Row}

/-- The form of the statement by which a call is answered. -/
def form : Call → Statement.Form
  | .create _ => .insert
  | .find _ _ => .select
  | .update _ => .update
  | .delete _ _ => .delete
  | .list _ => .page

theorem form_query (h : c.query = .ok q) : q.statement.form = c.form := by
  cases c with
  | list params =>
    obtain ⟨size, -, rfl⟩ := map_eq_ok_iff.1 h
    rfl
  | _ =>
    cases h
    rfl

/-- An insertion that fails for a missing reference says that the user is unknown. -/
theorem ends_unknownOwner (hform : c.form = .insert) :
    c.ends (c.read (.failed message TodoTable.missingReference)) =
      some (.api (.unauthorized "unknown user")) := by
  cases c with
  | create new => rfl
  | _ => cases hform

/-- Any other failure goes on as it is. -/
theorem ends_failed (h : c.form = .insert → code ≠ TodoTable.missingReference) :
    c.ends (c.read (.failed message code)) = some (.raised message) := by
  cases c with
  | create new =>
    rw [read, if_neg (h rfl)]
    rfl
  | _ => rfl

theorem ends_notInserted (hform : c.form = .insert) :
    c.ends (c.read (.rows [] touched)) = some .noRowInserted := by
  cases c with
  | create new => rfl
  | _ => cases hform

theorem ends_notFound (hform : c.form = .select ∨ c.form = .update) :
    c.ends (c.read (.rows [] touched)) = some (.api Operation.todoNotFound) := by
  cases c with
  | find u id => rfl
  | update todo => rfl
  | _ => rcases hform with h | h <;> cases h

theorem ends_notDeleted (hform : c.form = .delete)
    (hnone : ∀ n, touched = some n → (Number.finite 0).lt n = false) :
    c.ends (c.read (.rows rows touched)) = some (.api Operation.todoNotFound) := by
  have huntouched : touched.any (Number.finite 0).lt = false := by
    rcases touched with _ | n
    · rfl
    · exact hnone n rfl
  cases c with
  | delete u id =>
    rw [read, huntouched]
    rfl
  | _ => cases hform

theorem reported_statusFault (c : Call) (status : Datum) :
    c.reported (statusFault status) = statusFault status := by
  unfold statusFault
  cases c <;> split_ifs <;> rfl

theorem exists_firstTodo_eq_statusFault (hrow : row ∈ rows.take 1)
    (hstatus : Status.ofDatum? (row.get .status) = none) :
    ∃ bad ∈ rows.take 1, Status.ofDatum? (bad.get .status) = none ∧
      TodoTable.firstTodo (.rows rows touched) = .error (statusFault (bad.get .status)) := by
  rcases rows with _ | ⟨first, rest⟩
  · cases hrow
  · obtain rfl : row = first := List.mem_singleton.1 hrow
    refine ⟨row, hrow, hstatus, ?_⟩
    rw [TodoTable.firstTodo, Todo.ofRow_eq_error_iff.2 ⟨hstatus, rfl⟩]
    rfl

/-- A row with a status that no todo has cannot be read, if it is looked into. -/
theorem exists_read_eq_statusFault (hquery : c.query = .ok q) (hrow : row ∈ c.rowsRead rows)
    (hstatus : Status.ofDatum? (row.get .status) = none) :
    ∃ bad ∈ c.rowsRead rows, Status.ofDatum? (bad.get .status) = none ∧
      c.read (.rows rows touched) = .error (statusFault (bad.get .status)) := by
  have hfails := Todo.ofRow_eq_error_iff.2 ⟨hstatus, rfl⟩
  cases c with
  | create new =>
    rcases rows with _ | ⟨first, rest⟩
    · cases hrow
    · obtain rfl : row = first := List.mem_singleton.1 hrow
      exact ⟨row, hrow, hstatus, hfails⟩
  | find u id => exact exists_firstTodo_eq_statusFault hrow hstatus
  | update todo => exact exists_firstTodo_eq_statusFault hrow hstatus
  | delete u id => cases hrow
  | list params =>
    obtain ⟨size, hsize, -⟩ := map_eq_ok_iff.1 hquery
    obtain rfl := pageSize_of_askedSize hsize
    obtain ⟨bad, hbad, fault, hfault, hmap⟩ := exists_error_of_mapM hrow hfails
    obtain ⟨hnone, rfl⟩ := Todo.ofRow_eq_error_iff.1 hfault
    refine ⟨bad, hbad, hnone, ?_⟩
    rw [rowsRead, ← Page.items_take fun row => row.get .id] at hmap
    show ((askedSize params.size).bind fun size => TodoTable.pageOfRows size rows) = _
    rw [hsize]
    show (((Page.take _ _ rows).items.mapM Todo.ofRow).map _) = _
    rw [hmap]
    rfl

theorem exists_ends_eq_statusFault (hquery : c.query = .ok q) (hrow : row ∈ c.rowsRead rows)
    (hstatus : Status.ofDatum? (row.get .status) = none) :
    ∃ bad ∈ c.rowsRead rows, Status.ofDatum? (bad.get .status) = none ∧
      c.ends (c.read (.rows rows touched)) = some (statusFault (bad.get .status)) := by
  obtain ⟨bad, hbad, hnone, hread⟩ :=
    @exists_read_eq_statusFault c q rows touched row hquery hrow hstatus
  refine ⟨bad, hbad, hnone, ?_⟩
  rw [hread, ends, reported_statusFault]

end Store.Call

end TodoServer
