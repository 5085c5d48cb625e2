/-
The calls of an action, and what they keep.

What an action calls the store with is told by the action and by the todos that it has found: a
new todo is one that its input makes, and what it writes back is what it makes of a todo that
it found. So a condition on todos that holds of all that is made in these ways holds of every
todo there is, in every run, and also of what an action has read and not yet written back.

* `Store.Program.Keeps` — programs that make calls of some kind only, by the todos that they
  find;
* `Action.Makes`, `Action.program_keeps` — the calls that an action can make;
* `Memory.KeptBy` — conditions that calls of some kind keep;
* `Run.Keeps`, `Run.Keeps.after` — what all actions of a run keep, the run keeps.
-/
import TodoServer.Proofs.Todo.Concurrency

namespace TodoServer

open Store

/-! ### Programs -/

namespace Store

/-- The todo that a call has found, if any, meets a condition. -/
def Finds (found : Todo → Prop) : (c : Call) → Except Fault c.Reply → Prop
  | .find _ _, .ok (some todo) => found todo
  | _, _ => True

namespace Program

variable {α β : Type} {calls calls' : Call → Prop} {found : Todo → Prop}

/-- A program makes calls of some kind only, where the todos that it finds meet a condition. -/
def Keeps (calls : Call → Prop) (found : Todo → Prop) : Program α → Prop
  | .done _ => True
  | .call c next => calls c ∧ ∀ reply, Finds found c reply → (next reply).Keeps calls found

theorem keeps_done (result : α) : (Program.done result).Keeps calls found := trivial

theorem keeps_ask {c : Call} {next : c.Reply → Program (Except Fault α)} (hcall : calls c)
    (hnext : ∀ reply, Finds found c (.ok reply) → (next reply).Keeps calls found) :
    (Program.ask c next).Keeps calls found := by
  refine ⟨hcall, ?_⟩
  rintro (fault | reply) hfinds
  · exact keeps_done _
  · exact hnext reply hfinds

theorem keeps_map (f : α → β) {p : Program α} (h : p.Keeps calls found) :
    (p.map f).Keeps calls found := by
  induction p with
  | done result => trivial
  | call c next ih => exact ⟨h.1, fun reply hfinds => ih reply (h.2 reply hfinds)⟩

theorem Keeps.mono {p : Program α} (h : p.Keeps calls found)
    (hcalls : ∀ c, calls c → calls' c) : p.Keeps calls' found := by
  induction p with
  | done result => trivial
  | call c next ih => exact ⟨hcalls c h.1, fun reply hfinds => ih reply (h.2 reply hfinds)⟩

end Program

end Store

/-! ### Actions -/

namespace Operation

variable {calls : Call → Prop} {found : Todo → Prop} {u id : Datum}

theorem withTodo_keeps {α : Type} {next : Todo → Program (Except Fault α)}
    (hcall : calls (.find u id)) (hnext : ∀ todo, found todo → (next todo).Keeps calls found) :
    (withTodo u id next).Keeps calls found := by
  refine Program.keeps_ask hcall ?_
  rintro (_ | todo) hfinds
  · exact Program.keeps_done _
  · exact hnext todo hfinds

theorem save_keeps {todo : Todo} (hcall : calls (.update todo)) :
    (save todo).Keeps calls found := by
  refine Program.keeps_ask hcall ?_
  rintro (_ | stored) - <;> exact Program.keeps_done _

end Operation

namespace Action

variable {found : Todo → Prop}

/-- The calls that an action of a user can make, where the todos that it finds meet a
condition. -/
inductive Makes (found : Todo → Prop) (u : Datum) : Action → Call → Prop
  | stores {input : TodoInput} {new : NewTodo} (hnew : input.newTodo u = .ok new) :
    Makes found u (.create input) (.create new)
  | looks {a : Action} {id : Datum} (htarget : a.target? = some id) :
    Makes found u a (.find u id)
  | changes {id : Datum} {changes : TodoChanges} {old new : Todo} (hold : found old)
    (happly : changes.apply old = .ok new) : Makes found u (.update id changes) (.update new)
  | marks {id status : Datum} {old : Todo} {known : Status} (hold : found old)
    (hstatus : Status.ofDatum? status = some known) :
    Makes found u (.updateStatus id status) (.update { old with status })
  | removes {id : Datum} : Makes found u (.delete id) (.delete u id)
  | lists {input : ListInput} {size : Nat} (hsize : askedSize input.size = .ok size) :
    Makes found u (.list input) (.list ⟨u, input.status, input.cursor, .ofInt size⟩)

/-- An action makes no other calls. -/
theorem program_keeps (a : Action) (u : Datum) :
    (a.program u).Keeps (a.Makes found u) found := by
  cases a with
  | create input =>
    refine Program.keeps_map _ ?_
    rw [Operation.create]
    rcases hnew : input.newTodo u with e | new
    · exact Program.keeps_done _
    · refine ⟨.stores hnew, ?_⟩
      rintro (fault | stored) -
      · cases fault <;> exact Program.keeps_done _
      · exact Program.keeps_done _
  | find id =>
    exact Program.keeps_map _ (Operation.withTodo_keeps (.looks rfl) fun _ _ =>
      Program.keeps_done _)
  | update id changes =>
    refine Program.keeps_map _ (Operation.withTodo_keeps (.looks rfl) fun old hold => ?_)
    rcases happly : changes.apply old with e | new
    · exact Program.keeps_done _
    · exact Operation.save_keeps (.changes hold happly)
  | updateStatus id status =>
    refine Program.keeps_map _ ?_
    rw [Operation.updateStatus]
    rcases hstatus : Status.ofDatum? status with _ | known
    · exact Program.keeps_done _
    · exact Operation.withTodo_keeps (.looks rfl) fun old hold =>
        Operation.save_keeps (.marks hold hstatus)
  | delete id =>
    refine Program.keeps_map _ (Program.keeps_ask .removes ?_)
    rintro (_ | _) - <;> exact Program.keeps_done _
  | list input =>
    refine Program.keeps_map _ ?_
    rw [Operation.list]
    rcases hsize : askedSize input.size with fault | size
    · exact Program.keeps_done _
    · exact Program.keeps_ask (.lists hsize) fun _ _ => Program.keeps_done _

end Action

/-! ### Todos in memory -/

namespace Memory

variable {m : Memory} {calls : Call → Prop} {found : Todo → Prop}

/-- Calls of some kind keep a condition: what they store meets it, under whatever number from
one on, and what they put in the place of a todo that meets it. -/
structure KeptBy (calls : Call → Prop) (found : Todo → Prop) : Prop where
  stored : ∀ n new, 0 < n → calls (.create new) → found (stored n new)
  replacing : ∀ old new, found old → old.id = new.id → calls (.update new) →
    found (replacing old new)

/-- After a call of the kind all todos still meet the condition, and so does what it has
found. -/
theorem KeptBy.answer (h : KeptBy calls found) (hm : ∀ todo ∈ m.todos, found todo) {c : Call}
    (hcall : calls c) :
    (∀ todo ∈ (Memory.answer c m).2.todos, found todo) ∧
      Finds found c (Memory.answer c m).1 := by
  cases c with
  | create new =>
    refine ⟨fun todo hmem => ?_, trivial⟩
    rcases (Numbered.mem_create_iff new).1 hmem with hmem | rfl
    · exact hm todo hmem
    · exact h.stored _ new (Nat.succ_pos _) hcall
  | find u id =>
    refine ⟨hm, ?_⟩
    show Finds found (.find u id) (.ok (m.find u id))
    rcases hfind : m.find u id with _ | todo
    · trivial
    · exact hm todo (mem_of_find hfind)
  | update new =>
    refine ⟨fun todo hmem => ?_, trivial⟩
    have hmem : todo ∈ (m.update new).2.todos := hmem
    rcases hfind : m.find new.userId new.id with _ | old
    · rw [Memory.update, hfind] at hmem
      exact hm todo hmem
    · rw [Memory.update, hfind] at hmem
      obtain ⟨other, hother, rfl⟩ := List.mem_map.1 hmem
      split_ifs
      · exact h.replacing old new (hm old (mem_of_find hfind)) (id_of_find hfind) hcall
      · exact hm other hother
  | delete u id =>
    refine ⟨fun todo hmem => ?_, trivial⟩
    have hmem : todo ∈ (m.delete u id).2.todos := hmem
    rw [Memory.delete] at hmem
    split at hmem
    · exact hm todo hmem
    · exact hm todo (List.mem_of_mem_filter hmem)
  | list params => exact ⟨hm, trivial⟩

end Memory

/-! ### Runs -/

namespace Run

variable {r : Run} {calls : Call → Prop} {found : Todo → Prop}

/-- All todos meet a condition, and what the actions under way have yet to call is of some kind
as long as the todos that they find meet it too. -/
structure Keeps (calls : Call → Prop) (found : Todo → Prop) (r : Run) : Prop where
  stored : ∀ todo ∈ r.memory.todos, found todo
  making : ∀ task ∈ r.tasks, task.rest.Keeps calls found

theorem keeps_start (calls : Call → Prop) (found : Todo → Prop) :
    Run.start.Keeps calls found :=
  ⟨fun _ hmem => absurd hmem List.not_mem_nil, fun _ hmem => absurd hmem List.not_mem_nil⟩

namespace Keeps

theorem next (h : r.Keeps calls found) (hkept : Memory.KeptBy calls found) {event : Event}
    (hevent : ∀ u a, event = .begins u a → ∀ c, a.Makes found u c → calls c) :
    (r.next event).Keeps calls found := by
  cases event with
  | begins u a =>
    refine ⟨h.stored, fun task htask => ?_⟩
    rcases List.mem_append.1 htask with hold | hnew
    · exact h.making task hold
    · obtain rfl := List.mem_singleton.1 hnew
      exact (a.program_keeps u).mono (hevent u a rfl)
  | proceeds place =>
    rw [Run.next]
    rcases htask : r.tasks[place]? with _ | ⟨u, a, rest⟩
    · exact h
    · have hrest := h.making _ (List.mem_of_getElem? htask)
      cases rest with
      | done result => exact h
      | call c rest =>
        obtain ⟨hstored, hfinds⟩ := hkept.answer h.stored hrest.1
        refine ⟨hstored, fun task hmem => ?_⟩
        rcases List.mem_or_eq_of_mem_set hmem with hold | rfl
        · exact h.making task hold
        · exact hrest.2 _ hfinds

/-- A condition that the actions of a run keep is kept by the run. -/
theorem after (h : r.Keeps calls found) (hkept : Memory.KeptBy calls found)
    {events : List Event}
    (hevents : ∀ u a, .begins u a ∈ events → ∀ c, a.Makes found u c → calls c) :
    (r.after events).Keeps calls found := by
  induction events generalizing r with
  | nil => exact h
  | cons event rest ih =>
    refine ih (h.next hkept fun u a heq => hevents u a (heq ▸ List.mem_cons_self))
      fun u a hmem => ?_
    exact hevents u a (List.mem_cons_of_mem _ hmem)

end Keeps

end Run

end TodoServer
