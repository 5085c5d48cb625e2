/-
What comes of an operation in memory.

In memory an operation that runs without interruption either leaves the todos as they were or
does to them what one call does. Its outcome is written down once for each operation, as a
function of the state that it begins in. What writes back a todo that has just been read finds
it still there, so an operation that fails has changed nothing.

* `Store.Program.step?`, `Store.Program.map` — one call of an operation, and its result seen
  otherwise;
* `Memory.find_update` — a todo that has been written back is found as it was written;
* `Operation.run_create` and its like — the outcomes;
* `Action`, `Action.run` — what a user does, and what comes of it;
* `Action.does` — the four things that an action can do to the todos;
* `Action.memory_of_error` — what fails leaves the todos as they were.
-/
import TodoServer.Proofs.Todo.Ownership
import TodoServer.Proofs.Todo.Numbering

namespace TodoServer

open Store

/-! ### Programs, call by call -/

namespace Store.Program

variable {α β σ : Type}

/-- One call of an operation made. -/
def step? (store : Answers σ) : Program α → σ → Option (Program α × σ)
  | .done _, _ => none
  | .call c next, s => some (next (store c s).1, (store c s).2)

/-- The result of an operation that has ended. -/
def result? : Program α → Option α
  | .done result => some result
  | .call _ _ => none

/-- An operation whose result is seen otherwise. -/
def map (f : α → β) : Program α → Program β
  | .done result => .done (f result)
  | .call c next => .call c fun reply => (next reply).map f

theorem run_call (store : Answers σ) (c : Call) (next : Except Fault c.Reply → Program α)
    (s : σ) :
    (Program.call c next).run store s = (next (store c s).1).run store (store c s).2 := rfl

theorem run_map (store : Answers σ) (f : α → β) (p : Program α) (s : σ) :
    (p.map f).run store s = (f (p.run store s).1, (p.run store s).2) := by
  induction p generalizing s with
  | done result => rfl
  | call c next ih => exact ih _ _

theorem madeFor_map {userId : Datum} {owners : Datum → Prop} {p : Program α} (f : α → β)
    (h : p.MadeFor userId owners) : (p.map f).MadeFor userId owners := by
  induction p with
  | done result => trivial
  | call c next ih => exact ⟨h.1, fun reply hreads => ih reply (h.2 reply hreads)⟩

end Store.Program

variable {m : Memory} {u id : Datum} {old new todo : Todo}

/-! ### Rules -/

/-- What changes make of a todo: they have a say in three of its fields. -/
theorem TodoChanges.apply_eq_ok {changes : TodoChanges} (h : changes.apply todo = .ok new) :
    ∃ dueAt, changes.due todo.dueAt = .ok dueAt ∧
      new = { todo with
        title := changed changes.title todo.title
        description := changed changes.description todo.description
        dueAt := dueAt } := by
  rw [apply] at h
  split_ifs at h
  obtain ⟨dueAt, hdue, rfl⟩ := map_eq_ok_iff.1 h
  exact ⟨dueAt, hdue, rfl⟩

theorem TodoInput.due_eq_ok {input : TodoInput} {due : Datum} (h : input.due = .ok due) :
    due = .null ∨ ∃ date, dueDate? input.dueAt = .ok date ∧ due = .date date := by
  rw [TodoInput.due] at h
  split_ifs at h
  · cases h
    exact Or.inl rfl
  · obtain ⟨date, hdate, rfl⟩ := map_eq_ok_iff.1 h
    exact Or.inr ⟨date, hdate, rfl⟩

theorem TodoInput.due_of_newTodo {input : TodoInput} {new : NewTodo}
    (h : input.newTodo u = .ok new) : input.due = .ok new.dueAt := by
  rw [newTodo] at h
  split_ifs at h
  obtain ⟨dueAt, hdue, rfl⟩ := map_eq_ok_iff.1 h
  exact hdue

theorem TodoChanges.due_eq_ok {changes : TodoChanges} {oldDue due : Datum}
    (h : changes.due oldDue = .ok due) :
    due = oldDue ∨ due = .null ∨ ∃ date, dueDate? changes.dueAt = .ok date ∧
      due = .date date := by
  rw [TodoChanges.due] at h
  split at h
  · cases h
    exact Or.inl rfl
  · cases h
    exact Or.inr (Or.inl rfl)
  · obtain ⟨date, hdate, rfl⟩ := map_eq_ok_iff.1 h
    exact Or.inr (Or.inr ⟨date, hdate, rfl⟩)

/-! ### Todos read and written back -/

namespace Memory

/-- A todo as it is stored in the place of an old one. -/
def replacing (old new : Todo) : Todo :=
  { new with createdAt := old.createdAt, updatedAt := secondLater old.updatedAt }

theorem mem_of_find (h : m.find u id = some todo) : todo ∈ m.todos :=
  List.mem_of_find?_eq_some (Option.filter_eq_some_iff.1 h).1

theorem id_of_find (h : m.find u id = some todo) : todo.id = id := by
  obtain ⟨hget, -⟩ := Option.filter_eq_some_iff.1 h
  have hsame := List.find?_some hget
  exact Datum.eq_of_same hsame

/-- A todo that is found is found under its own id and owner. -/
theorem find_self (h : m.find u id = some todo) : m.find todo.userId todo.id = some todo := by
  rw [userId_of_find h, id_of_find h]
  exact h

theorem create_fst (m : Memory) (new : NewTodo) :
    (m.create new).1 = stored (m.created + 1) new := rfl

theorem update_fst (h : m.find new.userId new.id = some old) :
    (m.update new).1 = some (replacing old new) := by
  rw [update, h]
  rfl

theorem delete_of_not (h : (m.delete u id).1 = false) : (m.delete u id).2 = m := by
  rw [delete] at h ⊢
  split at h
  · rfl
  · cases h

/-- A todo that has been written back is found as it was written. -/
theorem find_update (h : m.find new.userId new.id = some old) :
    (m.update new).2.find new.userId new.id = some (replacing old new) := by
  obtain ⟨hget, howner⟩ := Option.filter_eq_some_iff.1 h
  have hid := id_of_find h
  have hsame : new.id.same new.id = true := by
    have hfound := List.find?_some hget
    rwa [hid] at hfound
  have howner' : new.userId.same new.userId = true := by
    rwa [userId_of_find h] at howner
  -- a todo has the id after the replacement where it had it before
  have hplaces : ((fun t : Todo => t.id.same new.id) ∘ fun t =>
      if t.id.same new.id then replacing old new else t) = fun t => t.id.same new.id := by
    funext t
    by_cases ht : t.id.same new.id = true
    · simp only [Function.comp_apply, ht, if_true]
      exact hsame
    · simp only [Function.comp_apply, ht, Bool.false_eq_true, if_false]
  have hafter : (m.update new).2.get? new.id = some (replacing old new) := by
    rw [update, h, get?]
    show List.find? _ (List.map (fun t => if t.id.same new.id then replacing old new else t)
      m.todos) = _
    rw [List.find?_map, hplaces, show m.todos.find? _ = some old from hget, Option.map_some]
    rw [hid, if_pos hsame]
  rw [find, hafter, Option.filter_some]
  exact if_pos howner'

end Memory

/-! ### Outcomes -/

namespace Operation

theorem run_create (input : TodoInput) :
    (create u input).run Memory.answer m =
      match input.newTodo u with
      | .error e => (.error (.api e), m)
      | .ok new => (.ok (m.create new).1, (m.create new).2) := by
  rw [create]
  cases input.newTodo u <;> rfl

theorem run_withTodo {α : Type} (next : Todo → Program (Except Fault α)) :
    (withTodo u id next).run Memory.answer m =
      match m.find u id with
      | none => (.error (.api todoNotFound), m)
      | some todo => (next todo).run Memory.answer m := by
  rw [withTodo, Program.ask, Program.run, Memory.answer]
  cases m.find u id <;> rfl

/-- What has just been read is still there to be written back. -/
theorem run_save (h : m.find new.userId new.id = some old) :
    (save new).run Memory.answer m = (.ok (Memory.replacing old new), (m.update new).2) := by
  rw [save, Program.ask, Program.run, Memory.answer]
  simp only [Memory.update_fst h]
  rfl

theorem run_find : (find u id).run Memory.answer m =
    match m.find u id with
    | none => (.error (.api todoNotFound), m)
    | some todo => (.ok todo, m) := by
  rw [find, run_withTodo]
  rfl

theorem run_update (changes : TodoChanges) :
    (update u id changes).run Memory.answer m =
      match m.find u id with
      | none => (.error (.api todoNotFound), m)
      | some todo =>
        match changes.apply todo with
        | .error e => (.error (.api e), m)
        | .ok new => (.ok (Memory.replacing todo new), (m.update new).2) := by
  rw [update, run_withTodo]
  rcases hfind : m.find u id with _ | todo
  · rfl
  · rcases happly : changes.apply todo with e | new
    · simp only [happly]
      rfl
    · have hsave : m.find new.userId new.id = some todo := by
        obtain ⟨dueAt, -, rfl⟩ := TodoChanges.apply_eq_ok happly
        exact Memory.find_self hfind
      simp only [happly]
      exact run_save hsave

theorem run_updateStatus (status : Datum) :
    (updateStatus u id status).run Memory.answer m =
      match Status.ofDatum? status with
      | none => (.error (.api (.invalidInput statusRule)), m)
      | some _ =>
        match m.find u id with
        | none => (.error (.api todoNotFound), m)
        | some todo =>
          (.ok (Memory.replacing todo { todo with status }),
            (m.update { todo with status }).2) := by
  rw [updateStatus]
  rcases Status.ofDatum? status with _ | known
  · rfl
  · simp only [run_withTodo]
    rcases hfind : m.find u id with _ | todo
    · rfl
    · have hself : m.find { todo with status }.userId { todo with status }.id = some todo :=
        Memory.find_self hfind
      exact run_save hself

theorem run_delete : (delete u id).run Memory.answer m =
    (if (m.delete u id).1 then .ok () else .error (.api todoNotFound), (m.delete u id).2) := by
  rw [delete, Program.ask, Program.run, Memory.answer]
  rcases hdelete : m.delete u id with ⟨_ | _, after⟩ <;> rfl

theorem run_list (input : ListInput) :
    (list u input).run Memory.answer m =
      ((askedSize input.size).bind fun size =>
        m.list ⟨u, input.status, input.cursor, .ofInt size⟩, m) := by
  rw [list]
  rcases askedSize input.size with fault | size
  · rfl
  · simp only [Program.ask, Program.run, Memory.answer]
    cases hpage : m.list ⟨u, input.status, input.cursor, .ofInt size⟩ <;>
      simp [Except.bind, hpage, Program.run]

end Operation

/-! ### What users do -/

/-- Something that a user does with todos. -/
inductive Action
  | create (input : TodoInput)
  | find (id : Datum)
  | update (id : Datum) (changes : TodoChanges)
  | updateStatus (id status : Datum)
  | delete (id : Datum)
  | list (input : ListInput)

/-- What a user gets to see of it. -/
inductive Action.Result
  | todo (todo : Todo)
  | deleted
  | page (page : Page Todo)

namespace Action

/-- The operation that an action of a user is. -/
def program (u : Datum) : Action → Program (Except Fault Result)
  | .create input => (Operation.create u input).map (Except.map .todo)
  | .find id => (Operation.find u id).map (Except.map .todo)
  | .update id changes => (Operation.update u id changes).map (Except.map .todo)
  | .updateStatus id status => (Operation.updateStatus u id status).map (Except.map .todo)
  | .delete id => (Operation.delete u id).map (Except.map fun () => .deleted)
  | .list input => (Operation.list u input).map (Except.map .page)

/-- What comes of an action of a user, and the state after it. -/
def run (u : Datum) (m : Memory) (a : Action) : Except Fault Result × Memory :=
  (a.program u).run Memory.answer m

/-- An action makes its calls for the user, or writes back what it has read. -/
theorem program_madeFor (a : Action) (u : Datum) {owners : Datum → Prop} :
    (a.program u).MadeFor u owners := by
  cases a with
  | create input => exact Program.madeFor_map _ (Operation.create_madeFor input)
  | find id => exact Program.madeFor_map _ (Operation.find_madeFor id)
  | update id changes => exact Program.madeFor_map _ (Operation.update_madeFor id changes)
  | updateStatus id status =>
    exact Program.madeFor_map _ (Operation.updateStatus_madeFor id status)
  | delete id => exact Program.madeFor_map _ (Operation.delete_madeFor id)
  | list input => exact Program.madeFor_map _ (Operation.list_madeFor input)

/-- What an action says of a due date. -/
def due : Action → Datum
  | .create input => input.dueAt
  | .update _ changes => changes.dueAt
  | _ => .absent

/-- A due date that an action can put into a todo. -/
def Puts (a : Action) (dueAt : Datum) : Prop :=
  dueAt = .null ∨ ∃ date, dueDate? a.due = .ok date ∧ dueAt = .date date

/-- What an action does to the todos, if anything. -/
inductive Does (a : Action) (u : Datum) (m : Memory) : Prop
  | nothing (hrun : (a.run u m).2 = m)
  | stores (new : NewTodo) (hdue : a.Puts new.dueAt)
    (hrun : a.run u m = (.ok (.todo (m.create new).1), (m.create new).2))
  | replaces (old new : Todo) (hold : m.find new.userId new.id = some old)
    (hdue : new.dueAt = old.dueAt ∨ a.Puts new.dueAt)
    (hrun : a.run u m = (.ok (.todo (Memory.replacing old new)), (m.update new).2))
  | removes (id : Datum) (hrun : a.run u m = (.ok .deleted, (m.delete u id).2))

theorem does (a : Action) (u : Datum) (m : Memory) : a.Does u m := by
  cases a with
  | create input =>
    rcases hnew : input.newTodo u with e | new
    · refine .nothing ?_
      rw [run, program, Program.run_map, Operation.run_create, hnew]
    · have hdue := TodoInput.due_eq_ok (TodoInput.due_of_newTodo hnew)
      refine .stores new hdue ?_
      rw [run, program, Program.run_map, Operation.run_create, hnew]
      rfl
  | find id =>
    refine .nothing ?_
    rw [run, program, Program.run_map, Operation.run_find]
    cases m.find u id <;> rfl
  | update id changes =>
    rcases hfind : m.find u id with _ | todo
    · refine .nothing ?_
      rw [run, program, Program.run_map, Operation.run_update, hfind]
    · rcases happly : changes.apply todo with e | new
      · refine .nothing ?_
        rw [run, program, Program.run_map, Operation.run_update, hfind]
        simp only [happly]
      · obtain ⟨dueAt, hdue, hnew⟩ := TodoChanges.apply_eq_ok happly
        refine .replaces todo new ?_ ?_ ?_
        · rw [hnew]
          exact Memory.find_self hfind
        · rw [hnew]
          exact TodoChanges.due_eq_ok hdue
        · rw [run, program, Program.run_map, Operation.run_update, hfind]
          simp only [happly]
          rfl
  | updateStatus id status =>
    -- the status is judged before the todo is looked for
    rcases hstatus : Status.ofDatum? status with _ | known
    · refine .nothing ?_
      rw [run, program, Program.run_map, Operation.run_updateStatus, hstatus]
    · rcases hfind : m.find u id with _ | todo
      · refine .nothing ?_
        rw [run, program, Program.run_map, Operation.run_updateStatus, hstatus, hfind]
      · refine .replaces todo { todo with status } (Memory.find_self hfind) (Or.inl rfl) ?_
        rw [run, program, Program.run_map, Operation.run_updateStatus, hstatus, hfind]
        rfl
  | delete id =>
    rcases hdeleted : (m.delete u id).1
    · refine .nothing ?_
      rw [run, program, Program.run_map, Operation.run_delete]
      exact Memory.delete_of_not hdeleted
    · refine .removes id ?_
      rw [run, program, Program.run_map, Operation.run_delete, hdeleted]
      rfl
  | list input =>
    refine .nothing ?_
    rw [run, program, Program.run_map, Operation.run_list]

/-- What fails leaves the todos as they were. -/
theorem memory_of_error {a : Action} {fault : Fault} (h : (a.run u m).1 = .error fault) :
    (a.run u m).2 = m := by
  rcases a.does u m with hrun | ⟨new, -, hrun⟩ | ⟨old, new, -, -, hrun⟩ | ⟨id, hrun⟩
  · exact hrun
  all_goals
    rw [hrun] at h
    cases h

end Action

end TodoServer
