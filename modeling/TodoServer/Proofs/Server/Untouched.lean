/-
What an error answer leaves behind.

Whatever refuses a request does so before anything is written: the stages around the handlers,
the reading of bodies and parameters, the rules of the service and the store. What can fail
after a write is the answer itself, for a todo may be stored that has no wire form: its due
date was asked for with an offset that no day has, or its times have been moved past the last
of all dates. Such a todo is stored, and the client is told that nothing was done.

So an error answer leaves the todos as they were, or is the failure to write a todo that has
just been stored; and the second does not happen as long as no such due date is offered and the
dates last.

* `Action.status_of_write` — what is written of a result is no error answer;
* `Performs`, `Route.dispatch_performs` — a handler leaves the todos alone or performs an
  action;
* `App.memory_of_error_status` — one request in any state of the server;
* `errors_leave_todos` — every request of every run;
* `impossible_offset_stored` — a refused request whose todo is stored.
-/
import TodoServer.Proofs.Server.Requests
import TodoServer.Proofs.Server.Serving
import TodoServer.Proofs.Todo.Dated

namespace TodoServer

open Http

/-! ### Operations on the server's store -/

theorem Store.Program.run_memory {α : Type} (p : Store.Program α) (w : World) :
    (p.run (World.store .memory) w).1 = (p.run Memory.answer w.memory).1 ∧
      (p.run (World.store .memory) w).2.memory = (p.run Memory.answer w.memory).2 := by
  induction p generalizing w with
  | done result => exact ⟨rfl, rfl⟩
  | call c next ih => exact ih _ _

/-! ### Actions of requests -/

namespace Action

theorem status_of_write {a : Action} {result : Result} {response : Response}
    (h : a.write result = .ok response) : response.status < 400 := by
  have htodo : ∀ {status : Int} {todo : Todo}, status < 400 →
      Todos.todoResponse status todo = .ok response → response.status < 400 := by
    intro status todo hstatus hresponse
    obtain ⟨value, -, rfl⟩ := map_eq_ok_iff.1 hresponse
    exact hstatus
  cases result with
  | todo todo => cases a <;> exact htodo (by decide) h
  | deleted =>
    cases a <;> cases h <;> decide
  | page page =>
    have hpage : Todos.pageResponse page = .ok response := by cases a <;> exact h
    obtain ⟨value, -, rfl⟩ := map_eq_ok_iff.1 hpage
    show (200 : Int) < 400
    decide

theorem write_todo (a : Action) (todo : Todo) :
    ∃ status, a.write (.todo todo) = Todos.todoResponse status todo := by
  cases a <;> exact ⟨_, rfl⟩

end Action

/-- A handler leaves the todos as they are, or performs an action that the request asks for and
writes its result. -/
def Performs (r : Request) (caller : Datum) (w : World)
    (outcome : Except Fault Response × World) : Prop :=
  outcome.2.memory = w.memory ∨ ∃ a : Action, a.AskedBy r ∧
    outcome.1 = (a.run caller w.memory).1.bind a.write ∧
    outcome.2.memory = (a.run caller w.memory).2

theorem Action.handle_performs {a : Action} {r : Request} (hasked : a.AskedBy r)
    (caller : Datum)
    (w : World) : Performs r caller w (a.handle (World.store .memory) caller w) := by
  by_cases hblank : caller.isBlank = true
  · rw [handle_of_blank hblank]
    exact Or.inl rfl
  · obtain ⟨hresult, hmemory⟩ := (a.program caller).run_memory w
    rw [handle_of_not_blank (Bool.eq_false_iff.2 hblank), hresult]
    exact Or.inr ⟨a, hasked, rfl, hmemory⟩

/-- Whatever its path and method, a request leaves the todos alone or performs an action. -/
theorem Route.dispatch_performs (r : Request) (caller : Datum) (w : World) :
    Performs r caller w (Route.dispatch .memory r caller w) := by
  rw [Route.dispatch_eq]
  rcases hasked : Route.asked r with response | a
  · exact Or.inl rfl
  · exact Action.handle_performs (Route.askedBy_of_asked hasked) caller w

/-! ### Answers -/

/-- The status that a handler's result is answered with. -/
def answeredStatus : Except Fault Response → Int
  | .ok response => response.status
  | .error (.api error) => Stage.errorStatus error.status
  | .error _ => 500

theorem status_recovered (requestId : String) (r : Request)
    (e : Exchange (Except Fault Response)) :
    (Stage.recovered requestId r e).answer.status = answeredStatus e.answer := by
  rw [Stage.recovered]
  rcases e.answer with fault | response
  · cases fault <;> rfl
  · rfl

/-- In development the gate lets a request in or answers it itself, and changes nothing. -/
theorem guarded_devBypass (handler : Handler) (requestId : String) (r : Request) (w : World) :
    (Stage.guarded .devBypass none handler requestId r w).world = w ∨ ∃ caller,
      (Stage.guarded .devBypass none handler requestId r w).answer = (handler r caller w).1 ∧
        (Stage.guarded .devBypass none handler requestId r w).world =
          (handler r caller w).2 := by
  rw [Stage.guarded, Gate.screen]
  by_cases hexempt : Gate.isExempt (Path.canonical r.path) = true
  · rw [if_pos hexempt]
    exact Or.inr ⟨.absent, rfl, rfl⟩
  · rw [if_neg hexempt]
    cases Gate.screenTrusted r with
    | exempt => exact Or.inr ⟨.absent, rfl, rfl⟩
    | caller userId => exact Or.inr ⟨userId, rfl, rfl⟩
    | refused response => exact Or.inl rfl
    | failed fault => exact Or.inl rfl

/-- A request has stored a todo that has no wire form. -/
def StoresUnwritable (r : Request) (m m' : Memory) : Prop :=
  ∃ (u : Datum) (a : Action) (todo : Todo), a.AskedBy r ∧
    a.run u m = (.ok (.todo todo), m') ∧ ¬todo.Presentable

namespace Performs

variable {r : Request} {caller : Datum} {w : World} {outcome : Except Fault Response × World}

/-- What a request is told went wrong has not been done, or has been stored without a wire
form. -/
theorem memory_of_status (h : Performs r caller w outcome)
    (hstatus : 400 ≤ answeredStatus outcome.1) : outcome.2.memory = w.memory ∨
      answeredStatus outcome.1 = 500 ∧ StoresUnwritable r w.memory outcome.2.memory := by
  rcases h with hsame | ⟨a, hasked, hresult, hmemory⟩
  · exact Or.inl hsame
  rw [hmemory]
  -- the action itself may fail, or the writing of its result
  rcases hrun : (a.run caller w.memory).1 with fault | result
  · exact Or.inl (Action.memory_of_error hrun)
  rw [hrun] at hresult
  rcases hwrite : a.write result with fault | response
  · have hanswered : outcome.1 = .error fault := hresult.trans hwrite
    cases result with
    | todo todo =>
      obtain ⟨status, hwritten⟩ := a.write_todo todo
      have hfails : todo.response = .error fault := by
        rw [hwritten, Todos.todoResponse] at hwrite
        rcases hresponse : todo.response with cause | value <;> rw [hresponse] at hwrite <;>
          cases hwrite
        rfl
      refine Or.inr ⟨?_, caller, a, todo, hasked, Prod.ext hrun rfl, ?_⟩
      · rw [hanswered]
        cases fault with
        | api e => exact absurd hfails Todo.response_ne_api
        | _ => rfl
      · rintro ⟨value, hvalue⟩
        rw [hfails] at hvalue
        cases hvalue
    | deleted => cases a <;> cases hwrite
    | page page =>
      -- what lists todos writes none
      left
      rcases a.does caller w.memory with hsame | ⟨new, -, hdone⟩ | ⟨old, new, -, -, hdone⟩ |
        ⟨id, hdone⟩
      · exact hsame
      all_goals
        rw [hdone] at hrun
        cases hrun
  · have hsmall := Action.status_of_write hwrite
    have hanswered : outcome.1 = .ok response := hresult.trans hwrite
    rw [hanswered, answeredStatus] at hstatus
    omega

theorem memory_cases (h : Performs r caller w outcome) :
    outcome.2.memory = w.memory ∨ ∃ (u : Datum) (a : Action), a.AskedBy r ∧
      outcome.2.memory = (a.run u w.memory).2 := by
  rcases h with hsame | ⟨a, hasked, -, hmemory⟩
  · exact Or.inl hsame
  · exact Or.inr ⟨caller, a, hasked, hmemory⟩

end Performs

/-! ### Servers in development -/

/-- An app that trusts the header of development and keeps todos in memory. -/
def App.inDevelopment (threshold : Log.Level) : App := ⟨.devBypass, .memory, threshold⟩

namespace App

variable {threshold : Log.Level} {r : Request} {w : World}

/-- A request to such an app changes nothing in memory, or has the handlers run for a caller,
whose result it is answered with. -/
theorem serve_inDevelopment (threshold : Log.Level) (r : Request) (w : World) :
    ((inDevelopment threshold).serve r w).2.memory = w.memory ∨
      ∃ (caller : Datum) (w' : World) (outcome : Except Fault Response × World),
        w'.memory = w.memory ∧ Performs r caller w' outcome ∧
          ((inDevelopment threshold).serve r w).1.status = answeredStatus outcome.1 ∧
          ((inDevelopment threshold).serve r w).2.memory = outcome.2.memory := by
  by_cases hsize : BodyLimit.exceeds BodyLimit.defaultMax r = true
  · exact Or.inl ((inDevelopment threshold).serve_aside r w hsize).memory_eq
  obtain ⟨requestId, w', haside, hanswer, hafter⟩ :=
    (inDevelopment threshold).serve_within r w (Bool.eq_false_iff.2 hsize)
  let e := Stage.guarded .devBypass none (Route.dispatch .memory) requestId r w'
  have hstatus : ((inDevelopment threshold).serve r w).1.status = answeredStatus e.answer := by
    rw [hanswer, ← status_recovered requestId r e, sent, Response.sentFor]
    split_ifs <;> rfl
  have hmemory : ((inDevelopment threshold).serve r w).2.memory = e.world.memory :=
    hafter.memory_eq.trans (recovered_aside r e).memory_eq
  rcases guarded_devBypass (Route.dispatch .memory) requestId r w' with
    hworld | ⟨caller, hresult, hworld⟩
  · left
    rw [hmemory, show e.world = w' from hworld]
    exact haside.memory_eq
  · refine Or.inr ⟨caller, w', Route.dispatch .memory r caller w', haside.memory_eq,
      Route.dispatch_performs r caller w', ?_, ?_⟩
    · rw [hstatus, ← hresult]
    · rw [hmemory, ← hworld]

/-- One request: what it is told went wrong has not been done, or has been stored without a
wire form. -/
theorem memory_of_error_status
    (hstatus : 400 ≤ ((inDevelopment threshold).serve r w).1.status) :
    ((inDevelopment threshold).serve r w).2.memory = w.memory ∨
      ((inDevelopment threshold).serve r w).1.status = 500 ∧
        StoresUnwritable r w.memory ((inDevelopment threshold).serve r w).2.memory := by
  rcases serve_inDevelopment threshold r w with
    hsame | ⟨caller, w', outcome, hbefore, hperforms, hanswered, hafter⟩
  · exact Or.inl hsame
  · rw [hanswered] at hstatus ⊢
    rw [hafter, ← hbefore]
    exact hperforms.memory_of_status hstatus

theorem memory_serve_cases (threshold : Log.Level) (r : Request) (w : World) :
    ((inDevelopment threshold).serve r w).2.memory = w.memory ∨ ∃ (u : Datum) (a : Action),
      a.AskedBy r ∧ ((inDevelopment threshold).serve r w).2.memory = (a.run u w.memory).2 := by
  rcases serve_inDevelopment threshold r w with
    hsame | ⟨caller, w', outcome, hbefore, hperforms, -, hafter⟩
  · exact Or.inl hsame
  · rw [hafter, ← hbefore]
    exact hperforms.memory_cases

end App

/-! ### Due dates of requests -/

/-- The timestamp that the body of a request gives for a due date. -/
def dueTimestamp? (r : Request) : Option Timestamp := do
  let members ← bodyMembers? r.bytes
  let value ← Json.lookup members "due_at"
  let text ← value.text?
  Timestamp.read? text.chars

/-- Where a request gives a due date, its offset is one that a day can have. -/
def OffersDates (r : Request) : Prop :=
  ∀ timestamp ∈ dueTimestamp? r, timestamp.offset.millis?.isSome = true

instance (r : Request) : Decidable (OffersDates r) :=
  inferInstanceAs (Decidable (∀ timestamp ∈ dueTimestamp? r, _))

theorem lookup_of_dueOfBody? {members : List Json.Member} {text : Text}
    (h : dueOfBody? members = some (.text text)) :
    Json.lookup members "due_at" = some (.text text) := by
  rw [dueOfBody?] at h
  split at h
  · cases h
  · cases h
  · next value _ hvalue =>
    rw [hvalue]
    cases value with
    | text t => cases h; rfl
    | _ => cases h

theorem dueOffered_of_dueOfBody? {r : Request} (hr : OffersDates r)
    {members : List Json.Member} {due : Datum} (hmembers : bodyMembers? r.bytes = some members)
    (hdue : dueOfBody? members = some due) : DueOffered due := by
  intro date hdate
  rw [dueDate?] at hdate
  rcases hread : due.text?.bind fun text => Timestamp.read? text.chars with _ | timestamp
  · rw [hread] at hdate
    cases hdate
  · rw [hread] at hdate
    cases hdate
    obtain ⟨text, htext, hread⟩ := Option.bind_eq_some_iff.1 hread
    obtain rfl : due = .text text := by
      rcases due with _ | ⟨_ | _ | _ | _ | _ | _⟩ | _ <;> cases htext
      rfl
    have hgiven : dueTimestamp? r = some timestamp := by
      rw [dueTimestamp?, hmembers, Option.bind_eq_bind, Option.bind_some,
        lookup_of_dueOfBody? hdue]
      exact hread
    exact Timestamp.exists_millis_of_read? hread (hr timestamp hgiven)

theorem dueOffered_absent : DueOffered .absent := fun _ hdate => by cases hdate

/-- What a request asks for offers no impossible due date if the request does not. -/
theorem Action.AskedBy.dueOffered {r : Request} {a : Action} (h : a.AskedBy r)
    (hr : OffersDates r) : DueOffered a.due := by
  cases a with
  | create input =>
    rw [AskedBy, TodoInput.ofBody?] at h
    simp only [Option.bind_eq_bind, Option.bind_eq_some_iff] at h
    obtain ⟨members, hmembers, title, -, description, -, due, hdue, h⟩ := h
    cases h
    exact dueOffered_of_dueOfBody? hr hmembers hdue
  | update id changes =>
    rw [AskedBy, TodoChanges.ofBody?] at h
    simp only [Option.bind_eq_bind, Option.bind_eq_some_iff] at h
    obtain ⟨members, hmembers, title, -, description, -, due, hdue, h⟩ := h
    cases h
    exact dueOffered_of_dueOfBody? hr hmembers hdue
  | _ => exact dueOffered_absent

/-! ### Runs -/

namespace App

variable {threshold : Log.Level} {r : Request} {w : World} {n : Nat}

/-- One request that offers no impossible due date, while dates last. -/
theorem serve_datedBy (threshold : Log.Level) (hw : w.memory.DatedBy n)
    (htime : Memory.InTime (n + 1)) (hr : OffersDates r) :
    ((inDevelopment threshold).serve r w).2.memory.DatedBy (n + 1) ∧
      (400 ≤ ((inDevelopment threshold).serve r w).1.status →
        ((inDevelopment threshold).serve r w).2.memory = w.memory) := by
  constructor
  · rcases memory_serve_cases threshold r w with hsame | ⟨u, a, hasked, hrun⟩
    · rw [hsame]
      exact hw.succ
    · rw [hrun]
      exact (Action.datedBy_run u (hasked.dueOffered hr) hw htime).1
  · intro hstatus
    rcases memory_of_error_status hstatus with
      hsame | ⟨-, u, a, todo, hasked, hrun, hunwritable⟩
    · exact hsame
    · have hdated := (Action.datedBy_run u (hasked.dueOffered hr) hw htime).2
      rw [hrun] at hdated
      rcases hdated with hsame | hpresentable
      · exact hsame
      · exact absurd (hpresentable todo rfl) hunwritable

/-- A run of requests that offer no impossible due dates, no longer than dates last. -/
theorem memory_of_history {events : List Event} (hw : w.memory.DatedBy n)
    (htime : Memory.InTime (n + events.length))
    (hevents : ∀ e ∈ events, OffersDates e.request) :
    ∀ s ∈ (inDevelopment threshold).history w events,
      400 ≤ s.response.status → s.after.memory = s.before.memory := by
  induction events generalizing w n with
  | nil => exact fun s hs => absurd hs List.not_mem_nil
  | cons e rest ih =>
    rw [List.length_cons] at htime
    have hoffers := hevents e List.mem_cons_self
    have hbefore : ((inDevelopment threshold).meet w e).before.memory.DatedBy n := hw
    obtain ⟨hafter, hkept⟩ := serve_datedBy threshold hbefore (htime.mono (by omega)) hoffers
    intro s hs
    rcases List.mem_cons.1 hs with rfl | hs
    · exact hkept
    · refine ih hafter ?_ (fun e' he' => hevents e' (List.mem_cons_of_mem _ he')) s hs
      rwa [Nat.add_assoc, Nat.add_comm 1]

end App

/-- A refused request leaves the todos as they were, or it is one whose todo has been stored
without a wire form; and none is while the requests offer no impossible due dates and the dates
last. -/
theorem errors_leave_todos {config : Config} {overrides : Overrides} {startup : Startup}
    (hbuild : App.build config overrides = .ok startup) (hauth : config.auth = .devBypass)
    (hstore : overrides.memoryStore = true) :
    (∀ (r : Request) (w : World), 400 ≤ (startup.app.serve r w).1.status →
      (startup.app.serve r w).2.memory = w.memory ∨
        (startup.app.serve r w).1.status = 500 ∧
          StoresUnwritable r w.memory (startup.app.serve r w).2.memory) ∧
    ∀ (w : World) (events : List App.Event), w.memory = .empty →
      (∀ e ∈ events, OffersDates e.request) → Memory.creationTime events.length ≠ .invalid →
        ∀ s ∈ startup.app.history w events,
          400 ≤ s.response.status → s.after.memory = s.before.memory := by
  have happ : startup.app = App.inDevelopment config.logLevel := by
    rw [App.build, hauth] at hbuild
    cases hbuild
    rw [App.inDevelopment, if_pos hstore]
  rw [happ]
  refine ⟨fun r w => App.memory_of_error_status, ?_⟩
  intro w events hempty hevents htime
  -- no request before the first, no write and no todo
  have hdated : w.memory.DatedBy 0 := by
    rw [hempty]
    exact Memory.datedBy_empty
  refine App.memory_of_history hdated ?_ hevents
  rw [Nat.zero_add]
  exact Memory.inTime_iff.2 htime

/-! ### A todo stored and not written -/

def developmentConfig : Config := ⟨8080, .localhost, .info, "", .devBypass⟩

def developmentStartup : Startup where
  app := App.inDevelopment .info
  entries := [App.devModeEntry]
  pool := none
  hasKeySetCache := false

/-- A new todo asked for. -/
def posting (body : String) : App.Event where
  request :=
    { method := "POST"
      path := "/api/v1/todos"
      query := []
      headers := [("X-User-ID", "alice")]
      body := some [Utf8.encode body] }
  now := 0
  readings := []
  endpoint := .rejected ""
  answers := []
  keys := fun _ => .error (.broken "")
  users := fun _ => .unregistered

/-- A todo is stored, and another refused because it has no title. -/
def storedAndRefused : List App.Event :=
  [posting "\x7b\"title\":\"t\",\"due_at\":\"2026-01-01T00:00:00Z\"\x7d",
    posting "\x7b\"title\":\"\"\x7d"]

theorem errors_leave_todos_storedAndRefused :
    App.build developmentConfig ⟨true, none, none⟩ = .ok developmentStartup ∧
      ∃ first second : Served,
        developmentStartup.app.history (.initial 0 (.rejected "")) storedAndRefused =
          [first, second] ∧
        first.response.status = 201 ∧ second.response.status = 400 ∧
        first.after.memory ≠ first.before.memory ∧
          second.after.memory = second.before.memory := by
  have hbuild : App.build developmentConfig ⟨true, none, none⟩ = .ok developmentStartup := rfl
  obtain ⟨-, hruns⟩ := errors_leave_todos hbuild rfl rfl
  let first := developmentStartup.app.meet (.initial 0 (.rejected "")) storedAndRefused[0]
  let second := developmentStartup.app.meet first.after storedAndRefused[1]
  have hhistory : developmentStartup.app.history (.initial 0 (.rejected "")) storedAndRefused =
      [first, second] := rfl
  have hmem : second ∈ developmentStartup.app.history (.initial 0 (.rejected ""))
      storedAndRefused := by
    rw [hhistory]
    exact List.mem_cons_of_mem _ List.mem_cons_self
  have hrefused : second.response.status = 400 := by decide +kernel
  have hoffers : ∀ e ∈ storedAndRefused, OffersDates e.request := by decide +kernel
  refine ⟨hbuild, first, second, hhistory, by decide +kernel, hrefused, by decide +kernel, ?_⟩
  exact hruns _ _ rfl hoffers (by decide) second hmem hrefused.ge

/-- An offset of ninety-nine hours passes as one, and the todo is stored before its due date
turns out to be no time. -/
theorem impossible_offset_stored :
    App.build developmentConfig ⟨true, none, none⟩ = .ok developmentStartup ∧
      ∃ s ∈ developmentStartup.app.history (.initial 0 (.rejected ""))
          [posting "\x7b\"title\":\"t\",\"due_at\":\"2026-01-01T00:00:00+99:00\"\x7d"],
        s.response.status = 500 ∧ s.before.memory = .empty ∧ s.after.memory.todos.length = 1 ∧
          s.after.memory.created = 1 := by
  refine ⟨rfl, _, List.mem_cons_self, ?_, rfl, ?_, ?_⟩ <;> decide +kernel

end TodoServer
