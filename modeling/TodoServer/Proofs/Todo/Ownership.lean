/-
On whose behalf the store is called.

An operation makes its calls for the user it is given. The one exception is a todo that is
written back: it names the owner that it was read with. In memory that is the user again. In
the database it is what the row said that was found for the user, and so the user in the
spelling of the database.

* `Sql.Query.owner?` — the owner that a query about todos is held to;
* `Store.Program.MadeFor` — programs whose calls are made for a user;
* `Operation.create_madeFor` and its like — all operations are;
* `TodoTable.answer_sendsFor` — a call to the table sends one query at most, held to the call's
  owner;
* `Spells` — the database names the owner of a user's todo;
* `Store.Program.run_adds` — what a run adds to the world, and whose it is.
-/
import TodoServer.Server.Handlers
import TodoServer.Proofs.Todo.Queries

namespace TodoServer

/-! ### Queries -/

namespace Sql

/-- The place of the value that conditions hold the owner to. -/
def ownerPlace? (conditions : List Condition) : Option Nat :=
  conditions.findSome? fun
    | .equals .userId place => some place
    | _ => none

/-- The place of the value that a statement about todos takes for the owner. -/
def Statement.ownerPlace? : Statement → Option Nat
  | .select .todos _ conditions => Sql.ownerPlace? conditions
  | .select .users _ _ => none
  | .page _ conditions _ => Sql.ownerPlace? conditions
  | .insert columns => (columns.idxOf? .userId).map (· + 1)
  | .update _ conditions => Sql.ownerPlace? conditions
  | .delete conditions => Sql.ownerPlace? conditions

/-- The owner that a query about todos is held to. -/
def Query.owner? (q : Query) : Option Datum :=
  q.statement.ownerPlace?.bind fun place => q.values[place - 1]?

end Sql

open Sql

/-- What is added of queries is what the conversation with the database goes on by. -/
theorem World.Adds.database_eq {w w' : World} {calls : List Store.Call} {queries : List Query}
    (h : w.Adds w' calls queries) : w'.database = w.database.after queries := by
  have hsent := h.sent_eq
  have hanswers := h.answers_eq
  rcases hdatabase : w'.database with ⟨answers, sent⟩
  rw [hdatabase] at hsent hanswers
  rw [Session.after, ← hsent, ← hanswers]

/-! ### Operations -/

namespace Store

/-- The owner of a todo that a call has found is one of some. -/
def Reads (owners : Datum → Prop) : (c : Call) → Except Fault c.Reply → Prop
  | .find _ _, .ok (some todo) => owners todo.userId
  | _, _ => True

/-- A call is made for a user, or writes back a todo whose owner is one of some. -/
def Call.IsFor (userId : Datum) (owners : Datum → Prop) (c : Call) : Prop :=
  c.owner = userId ∨ (∃ todo, c = .update todo) ∧ owners c.owner

namespace Program

/-- The calls of a program are made for a user, where the todos that it finds have owners among
some. -/
def MadeFor {α : Type} (userId : Datum) (owners : Datum → Prop) : Program α → Prop
  | .done _ => True
  | .call c next =>
    c.IsFor userId owners ∧ ∀ reply, Reads owners c reply → (next reply).MadeFor userId owners

variable {α : Type} {userId : Datum} {owners : Datum → Prop}

theorem madeFor_done (result : α) : (Program.done result).MadeFor userId owners := trivial

theorem madeFor_ask {c : Call} {next : c.Reply → Program (Except Fault α)}
    (hcall : c.IsFor userId owners)
    (hnext : ∀ reply, Reads owners c (.ok reply) → (next reply).MadeFor userId owners) :
    (Program.ask c next).MadeFor userId owners := by
  refine ⟨hcall, ?_⟩
  rintro (fault | reply) hreads
  · exact madeFor_done _
  · exact hnext reply hreads

end Program

end Store

namespace Operation

open Store

variable {userId : Datum} {owners : Datum → Prop}

theorem create_madeFor (input : TodoInput) : (create userId input).MadeFor userId owners := by
  unfold create
  rcases hinput : input.newTodo userId with e | todo
  · exact Program.madeFor_done _
  · have howner : todo.userId = userId := by
      unfold TodoInput.newTodo at hinput
      split_ifs at hinput
      rcases hdue : input.due with e | dueAt
      · rw [hdue] at hinput
        cases hinput
      · rw [hdue] at hinput
        cases hinput
        rfl
    refine ⟨Or.inl howner, ?_⟩
    rintro (fault | stored) -
    · cases fault <;> exact Program.madeFor_done _
    · exact Program.madeFor_done _

theorem withTodo_madeFor {α : Type} {id : Datum} {next : Todo → Program (Except Fault α)}
    (hnext : ∀ todo, owners todo.userId → (next todo).MadeFor userId owners) :
    (withTodo userId id next).MadeFor userId owners := by
  refine Program.madeFor_ask (Or.inl rfl) ?_
  rintro (_ | todo) hreads
  · exact Program.madeFor_done _
  · exact hnext todo hreads

theorem save_madeFor {todo : Todo} (h : owners todo.userId) :
    (save todo).MadeFor userId owners := by
  refine Program.madeFor_ask (Or.inr ⟨⟨todo, rfl⟩, h⟩) ?_
  rintro (_ | stored) - <;> exact Program.madeFor_done _

theorem find_madeFor (id : Datum) : (find userId id).MadeFor userId owners :=
  withTodo_madeFor fun _ _ => Program.madeFor_done _

theorem update_madeFor (id : Datum) (changes : TodoChanges) :
    (update userId id changes).MadeFor userId owners := by
  refine withTodo_madeFor fun todo howner => ?_
  rcases hchanged : changes.apply todo with e | new
  · exact Program.madeFor_done _
  · have hsame : new.userId = todo.userId := by
      unfold TodoChanges.apply at hchanged
      split_ifs at hchanged
      rcases hdue : changes.due todo.dueAt with e | dueAt
      · rw [hdue] at hchanged
        cases hchanged
      · rw [hdue] at hchanged
        cases hchanged
        rfl
    exact save_madeFor (hsame ▸ howner)

theorem updateStatus_madeFor (id status : Datum) :
    (updateStatus userId id status).MadeFor userId owners := by
  unfold updateStatus
  split
  · exact Program.madeFor_done _
  · exact withTodo_madeFor fun _ howner => save_madeFor howner

theorem delete_madeFor (id : Datum) : (delete userId id).MadeFor userId owners := by
  refine Program.madeFor_ask (Or.inl rfl) ?_
  rintro (_ | _) - <;> exact Program.madeFor_done _

theorem list_madeFor (input : ListInput) : (list userId input).MadeFor userId owners := by
  unfold list
  split
  · exact Program.madeFor_done _
  · exact Program.madeFor_ask (Or.inl rfl) fun _ _ => Program.madeFor_done _

end Operation

/-! ### Stores -/

namespace TodoTable

/-- One query at most has been sent, about todos and held to an owner. -/
def SendsFor (owner : Datum) (s s' : Session) : Prop :=
  s' = s ∨ ∃ q, s' = s.after [q] ∧ q.statement.table = .todos ∧ q.owner? = some owner

/-- The owner of a listing is its first value, whatever else it asks for. -/
theorem listQuery_owner? (params : ListParams) (size : Nat) :
    (listQuery params size).owner? = some params.userId ∧
      (listQuery params size).statement.table = .todos := by
  unfold listQuery
  by_cases hstatus : params.status.isBlank = true <;>
    by_cases hcursor : params.cursor.isBlank = true <;>
    simp [hstatus, hcursor, Query.owner?, Statement.ownerPlace?, Sql.ownerPlace?,
      Statement.table]

/-- The query of a call is about todos and held to the call's owner. -/
theorem query_owner? {c : Store.Call} {q : Query} (h : c.query = .ok q) :
    q.statement.table = .todos ∧ q.owner? = some c.owner := by
  cases c with
  | list params =>
    obtain ⟨size, -, rfl⟩ := map_eq_ok_iff.1 h
    exact (listQuery_owner? params size).symm
  | _ =>
    cases h
    exact ⟨rfl, rfl⟩

/-- A call to the table sends one query at most, which is about todos and held to the call's
owner. -/
theorem answer_sendsFor (c : Store.Call) (s : Session) :
    SendsFor c.owner s (answer c s).2 := by
  rcases answer_cases c s with h | ⟨q, -, hquery, h⟩
  · exact Or.inl h
  · obtain ⟨htable, howner⟩ := query_owner? hquery
    exact Or.inr ⟨q, congrArg Prod.snd h, htable, howner⟩

theorem firstTodo_eq_ok_some {outcome : Outcome} {todo : Todo}
    (h : firstTodo outcome = .ok (some todo)) :
    ∃ row rest touched, outcome = .rows (row :: rest) touched ∧
      todo.userId = row.get .userId := by
  rcases outcome with ⟨_ | ⟨row, rest⟩, touched⟩ | _
  · cases h
  · refine ⟨row, rest, touched, rfl, ?_⟩
    unfold firstTodo Todo.ofRow at h
    rcases hstatus : Status.ofDatum? (row.get .status) with _ | status <;>
      simp only [hstatus] at h <;> cases h
    rfl
  · cases h

/-- A todo that is found in the table is the first row of the answer to the query for it. -/
theorem find_eq_ok_some {userId id : Datum} {s : Session} {todo : Todo}
    (h : (find userId id s).1 = .ok (some todo)) :
    ∃ row rest touched, s.next = .rows (row :: rest) touched ∧ todo.userId = row.get .userId ∧
      (find userId id s).2 = s.after [findQuery userId id] := by
  unfold find withKeys at h ⊢
  rcases hkeys : areKeys [userId, id] with fault | (_ | _) <;> simp only [hkeys] at h ⊢
  · cases h
  · cases h
  · rw [Session.send_fst] at h
    obtain ⟨row, rest, touched, hnext, howner⟩ := firstTodo_eq_ok_some h
    exact ⟨row, rest, touched, hnext, howner, Session.send_snd s _⟩

end TodoTable

/-- A query for one of a user's todos is answered first with a row that names an owner. -/
def Spells (userId owner : Datum) (exchange : Query × Outcome) : Prop :=
  ∃ id, exchange.1 = TodoTable.findQuery userId id ∧
    ∃ row rest touched, exchange.2 = .rows (row :: rest) touched ∧ row.get .userId = owner

/-- A todo found in the table has the owner that a row has in the answer to the query for
it. -/
theorem TodoTable.reads_find {userId id : Datum} {owners : Datum → Prop} {s : Session}
    {queries : List Query} (hafter : (find userId id s).2 = s.after queries)
    (hseen : ∀ exchange ∈ queries.zip s.answers, ∀ owner,
      Spells userId owner exchange → owners owner) :
    Store.Reads owners (.find userId id) (find userId id s).1 := by
  rcases hreply : (find userId id s).1 with fault | (_ | todo)
  · trivial
  · trivial
  · obtain ⟨row, rest, touched, hnext, howner, hsent⟩ := find_eq_ok_some hreply
    -- the one query sent is the one for the todo
    have hqueries : queries = [findQuery userId id] := by
      have hsame := congrArg Session.sent (hafter.symm.trans hsent)
      exact List.append_cancel_left hsame
    subst hqueries
    rcases hanswers : s.answers with _ | ⟨first, others⟩
    · rw [Session.next, hanswers] at hnext
      cases hnext
    · obtain rfl : first = .rows (row :: rest) touched := by
        rw [Session.next, hanswers] at hnext
        exact hnext
      show owners todo.userId
      rw [howner]
      rw [hanswers] at hseen
      exact hseen (findQuery userId id, .rows (row :: rest) touched) (by simp) _
        ⟨id, rfl, row, rest, touched, rfl, rfl⟩

/-- A todo found in memory has the owner that was asked for. -/
theorem Memory.userId_of_find {m : Memory} {userId id : Datum} {todo : Todo}
    (h : m.find userId id = some todo) : todo.userId = userId := by
  obtain ⟨-, hsame⟩ := Option.filter_eq_some_iff.1 h
  unfold Datum.same at hsame
  rw [Bool.and_eq_true, decide_eq_true_iff] at hsame
  exact hsame.2

/-! ### Runs -/

theorem append_zip {α β : Type} (first more : List α) (answers : List β) :
    (first ++ more).zip answers =
      first.zip answers ++ more.zip (answers.drop first.length) := by
  induction first generalizing answers with
  | nil => rfl
  | cons a rest ih =>
    cases answers with
    | nil => simp
    | cons b others => simp [ih]

namespace Store

theorem Call.IsFor.of_find {userId owner id : Datum} {owners : Datum → Prop}
    (h : (Call.find owner id).IsFor userId owners) : owner = userId := by
  rcases h with h | ⟨⟨todo, htodo⟩, -⟩
  · exact h
  · cases htodo

/-- What one call adds to the world. -/
theorem store_adds (kind : StoreKind) (c : Call) (w : World) :
    ∃ queries, w.Adds (World.store kind c w).2 [c] queries ∧
      (∀ q ∈ queries, q.statement.table = .todos ∧ q.owner? = some c.owner) ∧
      (kind = .memory → queries = []) ∧
      ∀ userId owners, c.IsFor userId owners → owners userId →
        (∀ exchange ∈ queries.zip w.database.answers, ∀ owner,
          Spells userId owner exchange → owners owner) →
        Reads owners c (World.store kind c w).1 := by
  cases kind with
  | memory =>
    refine ⟨[], ⟨rfl, (List.append_nil _).symm, rfl⟩, by simp, fun _ => rfl, ?_⟩
    rintro userId owners hfor howner -
    cases c with
    | find owner id =>
      obtain rfl := hfor.of_find
      show Reads owners (.find owner id) (.ok (w.memory.find owner id))
      rcases hfind : w.memory.find owner id with _ | todo
      · trivial
      · show owners todo.userId
        rw [Memory.userId_of_find hfind]
        exact howner
    | _ => trivial
  | database =>
    obtain ⟨queries, hafter, hqueries⟩ : ∃ queries, (TodoTable.answer c w.database).2 =
        w.database.after queries ∧
        ∀ q ∈ queries, q.statement.table = .todos ∧ q.owner? = some c.owner := by
      rcases TodoTable.answer_sendsFor c w.database with h | ⟨q, h, htable, howner⟩
      · exact ⟨[], h.trans w.database.after_nil.symm, by simp⟩
      · exact ⟨[q], h, by simp [htable, howner]⟩
    refine ⟨queries, ⟨rfl, ?_, ?_⟩, hqueries, by simp, ?_⟩
    · exact congrArg Session.sent hafter
    · exact congrArg Session.answers hafter
    · rintro userId owners hfor - hseen
      cases c with
      | find owner id =>
        obtain rfl := hfor.of_find
        exact TodoTable.reads_find hafter hseen
      | _ => trivial

/-- What a run of a program adds to the world: its queries are those of its calls, and its
calls are made for a user where the program is and nothing that it reads says otherwise. -/
theorem Program.run_adds {α : Type} (kind : StoreKind) (p : Program α) (w : World) :
    ∃ calls queries, w.Adds (p.run (World.store kind) w).2 calls queries ∧
      (∀ q ∈ queries, q.statement.table = .todos ∧ ∃ c ∈ calls, q.owner? = some c.owner) ∧
      (kind = .memory → queries = []) ∧
      ∀ userId owners, p.MadeFor userId owners → owners userId →
        (∀ exchange ∈ queries.zip w.database.answers, ∀ owner,
          Spells userId owner exchange → owners owner) →
        ∀ c ∈ calls, c.IsFor userId owners := by
  -- by the calls of the program, each of them in the world that the one before has left
  induction p generalizing w with
  | done result => exact ⟨[], [], .refl w, by simp, fun _ => rfl, by simp⟩
  | call c next ih =>
    obtain ⟨queries, hadds, hqueries, hmemory, hreads⟩ := store_adds kind c w
    obtain ⟨calls, more, hadds', hmore, hmemory', hcalls⟩ :=
      ih (World.store kind c w).1 (World.store kind c w).2
    refine ⟨c :: calls, queries ++ more, hadds.trans hadds', ?_, ?_, ?_⟩
    · intro q hq
      rcases List.mem_append.1 hq with hq | hq
      · exact ⟨(hqueries q hq).1, c, List.mem_cons_self, (hqueries q hq).2⟩
      · obtain ⟨htable, other, hother, howner⟩ := hmore q hq
        exact ⟨htable, other, List.mem_cons_of_mem _ hother, howner⟩
    · intro hkind
      rw [hmemory hkind, hmemory' hkind, List.append_nil]
    · intro userId owners hmade howner hseen
      -- the answers to the first queries come before those to the others
      have hzip : (queries ++ more).zip w.database.answers =
          queries.zip w.database.answers ++
            more.zip (World.store kind c w).2.database.answers := by
        rw [hadds.answers_eq, append_zip]
      rw [hzip] at hseen
      have hfirst := hreads userId owners hmade.1 howner fun exchange hexchange =>
        hseen exchange (List.mem_append_left _ hexchange)
      have hrest := hcalls userId owners (hmade.2 _ hfirst) howner fun exchange hexchange =>
        hseen exchange (List.mem_append_right _ hexchange)
      intro other hother
      rcases List.mem_cons.1 hother with rfl | hother
      · exact hmade.1
      · exact hrest other hother

end Store

end TodoServer
