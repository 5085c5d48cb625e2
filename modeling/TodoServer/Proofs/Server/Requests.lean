/-
What a request asks for.

Whatever its path and method, a request is one of two things to the handlers: it asks for one
of the actions that users do with their todos, or it is answered without any, in the same way
for everyone. Which of the two it is stands in its path, method, query and body. An action is
done for the caller by the operation that it is, on whatever store there is, and its result is
written.

So the handlers come down to one equation, and what holds of all operations holds of all
requests.

* `Action.write`, `Action.handle` — an action done for a caller, and its result written;
* `Route.asked` — the action that a request asks for, or its answer;
* `Route.dispatch_eq` — the handlers do what is asked.
-/
import TodoServer.Server.Handlers
import TodoServer.Proofs.Todo.Outcomes

namespace TodoServer

open Http

namespace Action

/-- How the result of an action is written. -/
def write : Action → Result → Except Fault Response
  | .create _, .todo todo => Todos.todoResponse 201 todo
  | _, .todo todo => Todos.todoResponse 200 todo
  | _, .deleted => .ok (.empty 204)
  | _, .page page => Todos.pageResponse page

/-- An action done for the caller of a request, and its result written. -/
def handle {σ : Type} (a : Action) (store : Store.Answers σ) (caller : Datum) (s : σ) :
    Except Fault Response × σ :=
  match callerId caller with
  | .error fault => (.error fault, s)
  | .ok userId =>
    let (result, s) := (a.program userId).run store s
    (result.bind a.write, s)

variable {σ : Type} {a : Action} {store : Store.Answers σ} {caller : Datum} {s : σ}

theorem handle_of_blank (h : caller.isBlank = true) :
    a.handle store caller s = (.error .missingIdentity, s) := by
  rw [handle, callerId, if_pos h]

theorem handle_of_not_blank (h : caller.isBlank = false) :
    a.handle store caller s =
      (((a.program caller).run store s).1.bind a.write,
        ((a.program caller).run store s).2) := by
  rw [handle, callerId, if_neg (Bool.eq_false_iff.1 h)]

end Action

namespace Todos

/-- A new todo is asked for by a body that says what it is. -/
def creation (r : Request) : Except Response Action :=
  match TodoInput.ofBody? r.bytes with
  | none => .error invalidBody
  | some input => .ok (.create input)

/-- A listing is asked for by parameters, of which the status must be one. -/
def listing (r : Request) : Except Response Action :=
  (requestedStatus r).map fun status =>
    .list ⟨status, (parameter r "cursor").unlessBlank, .ofInt (pageSize (parameter r "limit"))⟩

/-- Changes of a todo are asked for by a body that says what they are. -/
def change (id : Text) (r : Request) : Except Response Action :=
  match TodoChanges.ofBody? r.bytes with
  | none => .error invalidBody
  | some changes => .ok (.update id changes)

/-- A status is asked for by a body that names it. -/
def statusChange (id : Text) (r : Request) : Except Response Action :=
  match statusOfBody? r.bytes with
  | none => .error invalidBody
  | some status => .ok (.updateStatus id status)

end Todos

/-- The action that a request asks for, or the answer that it gets without one. -/
def Route.asked (r : Request) : Except Response Action :=
  match Route.ofPath? r.path with
  | none => .error .notFound
  | some .health => .error (Health.response r)
  | some .todos =>
    if r.routedMethod = "POST" then Todos.creation r
    else if r.routedMethod = "GET" then Todos.listing r
    else .error .methodNotAllowed
  | some (.todo id) =>
    if r.routedMethod = "GET" then .ok (.find id)
    else if r.routedMethod = "PUT" then Todos.change id r
    else if r.routedMethod = "DELETE" then .ok (.delete id)
    else .error .methodNotAllowed
  | some (.todoStatus id) =>
    if r.routedMethod = "PATCH" then Todos.statusChange id r else .error .methodNotAllowed

/-- A request asks for an action, as far as its body has a say in it. -/
def Action.AskedBy (r : Request) : Action → Prop
  | .create input => TodoInput.ofBody? r.bytes = some input
  | .update _ changes => TodoChanges.ofBody? r.bytes = some changes
  | _ => True

theorem Route.askedBy_of_asked {r : Request} {a : Action} (h : asked r = .ok a) :
    a.AskedBy r := by
  unfold asked at h
  rcases hroute : Route.ofPath? r.path with _ | _ | _ | id | id <;> simp only [hroute] at h
  · cases h
  · cases h
  · split_ifs at h
    · unfold Todos.creation at h
      rcases hinput : TodoInput.ofBody? r.bytes with _ | input <;> rw [hinput] at h <;> cases h
      exact hinput
    · obtain ⟨status, -, rfl⟩ := map_eq_ok_iff.1 h
      trivial
  · split_ifs at h
    · cases h
      trivial
    · unfold Todos.change at h
      rcases hchanges : TodoChanges.ofBody? r.bytes with _ | changes <;> rw [hchanges] at h <;>
        cases h
      exact hchanges
    · cases h
      trivial
  · split_ifs at h
    unfold Todos.statusChange at h
    rcases hstatus : statusOfBody? r.bytes with _ | status <;> rw [hstatus] at h <;> cases h
    trivial

/-- What is asked for, done: the answer that is given without an action, or the action for the
caller. -/
def Route.perform (store : Store.Answers World) (caller : Datum) (w : World) :
    Except Response Action → Except Fault Response × World
  | .error response => (.ok response, w)
  | .ok a => a.handle store caller w

namespace Todos

variable {kind : StoreKind} {r : Request} {caller : Datum} {w : World}

/-- An operation whose result is written is the action that it is. -/
theorem perform_eq_handle {α : Type} {operation : Datum → Store.Program (Except Fault α)}
    {write : α → Except Fault Response} {view : α → Action.Result} (a : Action)
    (hprogram : ∀ u, a.program u = (operation u).map (Except.map view))
    (hwrite : ∀ result, a.write (view result) = write result) :
    perform kind caller operation write w = a.handle (World.store kind) caller w := by
  unfold perform Action.handle
  rcases callerId caller with fault | userId
  · rfl
  · simp only [hprogram, Store.Program.run_map]
    rcases ((operation userId).run (World.store kind) w).1 with fault | result
    · rfl
    · simp only [Except.map, Except.bind, hwrite]

theorem create_eq : create kind r caller w =
    Route.perform (World.store kind) caller w (creation r) := by
  unfold create creation
  rcases TodoInput.ofBody? r.bytes with _ | input
  · rfl
  · exact perform_eq_handle (.create input) (fun _ => rfl) fun _ => rfl

theorem list_eq :
    list kind r caller w = Route.perform (World.store kind) caller w (listing r) := by
  unfold list listing
  rcases requestedStatus r with response | status
  · rfl
  · exact perform_eq_handle (.list _) (fun _ => rfl) fun _ => rfl

theorem update_eq (id : Text) :
    update kind id r caller w = Route.perform (World.store kind) caller w (change id r) := by
  unfold update change
  rcases TodoChanges.ofBody? r.bytes with _ | changes
  · rfl
  · exact perform_eq_handle (.update id changes) (fun _ => rfl) fun _ => rfl

theorem updateStatus_eq (id : Text) :
    updateStatus kind id r caller w = Route.perform (World.store kind) caller w
      (statusChange id r) := by
  unfold updateStatus statusChange
  rcases statusOfBody? r.bytes with _ | status
  · rfl
  · exact perform_eq_handle (.updateStatus id status) (fun _ => rfl) fun _ => rfl

theorem find_eq (id : Text) :
    find kind id r caller w = Route.perform (World.store kind) caller w (.ok (.find id)) :=
  perform_eq_handle (.find id) (fun _ => rfl) fun _ => rfl

theorem delete_eq (id : Text) :
    delete kind id r caller w = Route.perform (World.store kind) caller w (.ok (.delete id)) :=
  perform_eq_handle (.delete id) (fun _ => rfl) fun _ => rfl

end Todos

/-- The handlers do what a request asks for. -/
theorem Route.dispatch_eq (kind : StoreKind) (r : Request) (caller : Datum) (w : World) :
    Route.dispatch kind r caller w = perform (World.store kind) caller w (asked r) := by
  unfold Route.dispatch asked
  rcases Route.ofPath? r.path with _ | _ | _ | id | id
  · rfl
  · rfl
  · simp only [Todos.onTodos]
    split_ifs
    · exact Todos.create_eq
    · exact Todos.list_eq
    · rfl
  · simp only [Todos.onTodo]
    split_ifs
    · exact Todos.find_eq id
    · exact Todos.update_eq id
    · exact Todos.delete_eq id
    · rfl
  · simp only [Todos.onStatus]
    split_ifs
    · exact Todos.updateStatus_eq id
    · rfl

end TodoServer
