/-
Actions that run at the same time.

Any number of actions of any users can be under way, and their calls reach the store in any
order: a run is told by which action begins or makes its next call. An action makes at most two
calls, and has settled what the second is when it makes the first: it writes back the todo that
it has read, under the id that it was asked to change. So what an action can still do is known
from three stages.

* `Task`, `Run`, `Run.Event` — actions under way, and runs of them;
* `Run.memory_next` — what an event does to the todos, which is what its call does;
* `Operation.step?_withTodo` and its like — the first call of each operation;
* `Task.Stage` — an action that has not made a call, is about to write, or has ended;
* `Task.Step` — all that a call can come to, which takes an action from one stage to a later
  one.
-/
import TodoServer.Proofs.Todo.Outcomes

namespace TodoServer

open Store

/-- An action that a user has begun, and what is left of it. -/
structure Task where
  user : Datum
  action : Action
  rest : Program (Except Fault Action.Result)

/-- The call that the action makes next. -/
def Task.call? (task : Task) : Option Call :=
  match task.rest with
  | .call c _ => some c
  | .done _ => none

/-- A run: the todos in memory, and the actions begun so far. -/
structure Run where
  memory : Memory
  tasks : List Task

/-- What happens in a run. -/
inductive Run.Event
  /-- A user begins an action. -/
  | begins (u : Datum) (a : Action)
  /-- The action at a place makes its next call. -/
  | proceeds (place : Nat)

namespace Run

/-- The run before the first todo and the first action. -/
def start : Run := ⟨.empty, []⟩

def next (r : Run) : Event → Run
  | .begins u a => { r with tasks := r.tasks ++ [⟨u, a, a.program u⟩] }
  | .proceeds place =>
    match r.tasks[place]? with
    | none => r
    | some task =>
      match task.rest.step? Memory.answer r.memory with
      | none => r
      | some (rest, memory) => ⟨memory, r.tasks.set place { task with rest }⟩

/-- The run after some events. -/
def after (r : Run) (events : List Event) : Run := events.foldl next r

/-- The call that reaches the store with an event, if any. -/
def call? (r : Run) : Event → Option Call
  | .begins _ _ => none
  | .proceeds place => r.tasks[place]?.bind Task.call?

variable {r : Run} {task : Task} {place : Nat} {m m' : Memory}
  {rest : Program (Except Fault Action.Result)}

theorem next_proceeds (htask : r.tasks[place]? = some task)
    (hstep : task.rest.step? Memory.answer r.memory = some (rest, m')) :
    r.next (.proceeds place) = ⟨m', r.tasks.set place { task with rest }⟩ := by
  rw [next, htask]
  simp only [hstep]

/-- An event does nothing, begins an action, or takes one a call further. -/
theorem next_cases (r : Run) (event : Event) :
    (r.call? event = none ∧ r.next event = r) ∨
      (∃ u a, event = .begins u a ∧
        r.next event = ⟨r.memory, r.tasks ++ [⟨u, a, a.program u⟩]⟩) ∨
      ∃ place task c rest, event = .proceeds place ∧ r.tasks[place]? = some task ∧
        r.call? event = some c ∧
        task.rest.step? Memory.answer r.memory = some (rest, (Memory.answer c r.memory).2) ∧
        r.next event =
          ⟨(Memory.answer c r.memory).2, r.tasks.set place { task with rest }⟩ := by
  cases event with
  | begins u a => exact Or.inr (Or.inl ⟨u, a, rfl, rfl⟩)
  | proceeds place =>
    rcases htask : r.tasks[place]? with _ | ⟨u, a, program⟩
    · left
      rw [call?, next, htask]
      exact ⟨rfl, rfl⟩
    · cases program with
      | done result =>
        left
        rw [call?, next, htask]
        exact ⟨rfl, rfl⟩
      | call c rest =>
        right
        right
        have hcall : r.call? (.proceeds place) = some c := by
          rw [call?, htask]
          rfl
        exact ⟨place, _, c, _, rfl, htask, hcall, rfl, next_proceeds htask rfl⟩

/-- What an event does to the todos is what its call does. -/
theorem memory_next (r : Run) (event : Event) :
    (r.next event).memory =
      match r.call? event with
      | none => r.memory
      | some c => (Memory.answer c r.memory).2 := by
  rcases r.next_cases event with ⟨hcall, hnext⟩ | ⟨u, a, rfl, hnext⟩ |
    ⟨place, task, c, rest, -, -, hcall, -, hnext⟩
  · rw [hcall, hnext]
  · rw [hnext]
    rfl
  · rw [hcall, hnext]

theorem reachable_next (h : r.memory.Reachable) (event : Event) :
    (r.next event).memory.Reachable := by
  rw [memory_next]
  rcases r.call? event with _ | c
  · exact h
  · exact h.answer c

end Run

/-! ### The calls of an operation -/

theorem Store.Program.step?_map {α β σ : Type} (store : Answers σ) (f : α → β) (p : Program α)
    (s : σ) : (p.map f).step? store s = (p.step? store s).map fun (p, s) => (p.map f, s) := by
  cases p <;> rfl

namespace Operation

variable {m : Memory} {u id status : Datum}

theorem step?_create (input : TodoInput) :
    (create u input).step? Memory.answer m =
      match input.newTodo u with
      | .error _ => none
      | .ok new => some (.done (.ok (m.create new).1), (m.create new).2) := by
  rw [create]
  rcases input.newTodo u with e | new <;> rfl

theorem step?_withTodo {α : Type} (next : Todo → Program (Except Fault α)) :
    (withTodo u id next).step? Memory.answer m =
      match m.find u id with
      | none => some (.done (.error (.api todoNotFound)), m)
      | some todo => some (next todo, m) := by
  rw [withTodo, Program.ask, Program.step?, Memory.answer]
  rcases m.find u id with _ | todo <;> rfl

theorem step?_save (todo : Todo) :
    (save todo).step? Memory.answer m =
      match (m.update todo).1 with
      | none => some (.done (.error (.api todoNotFound)), (m.update todo).2)
      | some new => some (.done (.ok new), (m.update todo).2) := by
  rw [save, Program.ask, Program.step?, Memory.answer]
  rcases m.update todo with ⟨_ | new, after⟩ <;> rfl

theorem step?_delete :
    (delete u id).step? Memory.answer m =
      some (.done (if (m.delete u id).1 then .ok () else .error (.api todoNotFound)),
        (m.delete u id).2) := by
  rw [delete, Program.ask, Program.step?, Memory.answer]
  rcases m.delete u id with ⟨_ | _, after⟩ <;> rfl

theorem step?_list (input : ListInput) :
    (list u input).step? Memory.answer m =
      match askedSize input.size with
      | .error _ => none
      | .ok size => some (.done (m.list ⟨u, input.status, input.cursor, .ofInt size⟩), m) := by
  rw [list]
  rcases askedSize input.size with fault | size
  · rfl
  · simp only [Program.ask, Program.step?, Memory.answer]
    rcases m.list ⟨u, input.status, input.cursor, .ofInt size⟩ with fault | page <;> rfl

end Operation

/-! ### Stages -/

/-- The todo that an action is about, if it is about one. -/
def Action.target? : Action → Option Datum
  | .find id => some id
  | .update id _ => some id
  | .updateStatus id _ => some id
  | .delete id => some id
  | _ => none

/-- How far an action has come. -/
inductive Task.Stage (task : Task) : Prop
  | begun (hrest : task.rest = task.action.program task.user)
  | writing (new : Todo) (htarget : task.action.target? = some new.id)
    (hrest : task.rest = (Operation.save new).map (Except.map .todo))
  | ended (result : Except Fault Action.Result) (hrest : task.rest = .done result)

/-- What a call of an action can come to: what is left of the action, and the todos. -/
inductive Task.Step (task : Task) (m : Memory) :
    Program (Except Fault Action.Result) → Memory → Prop
  | creates (new : NewTodo) (htarget : task.action.target? = none) :
    Step task m (.done (.ok (.todo (m.create new).1))) (m.create new).2
  | misses {id : Datum} (htarget : task.action.target? = some id) :
    Step task m (.done (.error (.api Operation.todoNotFound))) m
  | finds {u id : Datum} {todo : Todo} (hfind : m.find u id = some todo)
    (htarget : task.action.target? = some id) : Step task m (.done (.ok (.todo todo))) m
  | refuses {u id : Datum} {todo : Todo} (e : ClientError) (hfind : m.find u id = some todo)
    (htarget : task.action.target? = some id) : Step task m (.done (.error (.api e))) m
  | reads {u : Datum} {todo new : Todo} (hfind : m.find u new.id = some todo)
    (htarget : task.action.target? = some new.id) :
    Step task m ((Operation.save new).map (Except.map .todo)) m
  | writes {old new : Todo} (hfind : m.find new.userId new.id = some old)
    (htarget : task.action.target? = some new.id) :
    Step task m (.done (.ok (.todo (Memory.replacing old new)))) (m.update new).2
  | deletes {u id : Datum} {todo : Todo} (hfind : m.find u id = some todo)
    (haction : task.action = .delete id) :
    Step task m (.done (.ok .deleted)) (m.delete u id).2
  | lists (params : ListParams) (htarget : task.action.target? = none) :
    Step task m (.done ((m.list params).map .page)) m

namespace Task

variable {task : Task} {m m' : Memory} {rest : Program (Except Fault Action.Result)}

/-- What the first call of an action can come to. -/
theorem step_of_begun (hrest : task.rest = task.action.program task.user)
    (hstep : task.rest.step? Memory.answer m = some (rest, m')) : task.Step m rest m' := by
  obtain ⟨u, a, program⟩ := task
  obtain rfl : program = a.program u := hrest
  cases a with
  | create input =>
    rw [Action.program, Program.step?_map, Operation.step?_create] at hstep
    rcases hnew : input.newTodo u with e | new
    · rw [hnew] at hstep
      cases hstep
    · rw [hnew] at hstep
      cases hstep
      exact .creates new rfl
  | find id =>
    rw [Action.program, Program.step?_map, Operation.find, Operation.step?_withTodo] at hstep
    rcases hfind : m.find u id with _ | todo
    · rw [hfind] at hstep
      cases hstep
      exact .misses rfl
    · rw [hfind] at hstep
      cases hstep
      exact .finds hfind rfl
  | update id changes =>
    rw [Action.program, Program.step?_map, Operation.update, Operation.step?_withTodo] at hstep
    rcases hfind : m.find u id with _ | todo
    · rw [hfind] at hstep
      cases hstep
      exact .misses rfl
    · rcases happly : changes.apply todo with e | new
      · rw [hfind] at hstep
        simp only [happly] at hstep
        cases hstep
        exact .refuses e hfind rfl
      · rw [hfind] at hstep
        simp only [happly] at hstep
        cases hstep
        -- changes leave the id as it was read
        have hid : new.id = id := by
          obtain ⟨dueAt, -, rfl⟩ := TodoChanges.apply_eq_ok happly
          show todo.id = id
          exact Memory.id_of_find hfind
        exact .reads (hid ▸ hfind) (congrArg some hid.symm)
  | updateStatus id status =>
    rw [Action.program, Program.step?_map, Operation.updateStatus] at hstep
    rcases hstatus : Status.ofDatum? status with _ | known
    · rw [hstatus] at hstep
      cases hstep
    · rw [hstatus, Operation.step?_withTodo] at hstep
      rcases hfind : m.find u id with _ | todo
      · rw [hfind] at hstep
        cases hstep
        exact .misses rfl
      · rw [hfind] at hstep
        cases hstep
        have hid : todo.id = id := Memory.id_of_find hfind
        exact .reads (hid ▸ hfind) (congrArg some hid.symm)
  | delete id =>
    rw [Action.program, Program.step?_map, Operation.step?_delete] at hstep
    rcases hfind : m.find u id with _ | todo
    · rw [Memory.delete, hfind] at hstep
      cases hstep
      exact .misses rfl
    · have hdeleted : (m.delete u id).1 = true := by rw [Memory.delete, hfind]
      rw [hdeleted] at hstep
      cases hstep
      exact .deletes hfind rfl
  | list input =>
    rw [Action.program, Program.step?_map, Operation.step?_list] at hstep
    rcases hsize : askedSize input.size with fault | size
    · rw [hsize] at hstep
      cases hstep
    · rw [hsize] at hstep
      cases hstep
      exact .lists _ rfl

/-- What a call of an action can come to, however far the action has come. -/
theorem Stage.step (h : task.Stage)
    (hstep : task.rest.step? Memory.answer m = some (rest, m')) : task.Step m rest m' := by
  cases h with
  | begun hrest => exact step_of_begun hrest hstep
  | writing new htarget hrest =>
    rw [hrest, Program.step?_map, Operation.step?_save] at hstep
    rcases hfind : m.find new.userId new.id with _ | old
    · rw [Memory.update, hfind] at hstep
      cases hstep
      exact .misses htarget
    · rw [Memory.update_fst hfind] at hstep
      cases hstep
      exact .writes hfind htarget
  | ended result hrest =>
    rw [hrest] at hstep
    cases hstep

theorem Step.stage (h : task.Step m rest m') : Stage { task with rest } := by
  cases h with
  | reads hfind htarget => exact .writing _ htarget rfl
  | _ => exact .ended _ rfl

end Task

end TodoServer
