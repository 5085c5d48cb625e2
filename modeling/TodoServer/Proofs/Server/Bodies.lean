/-
What becomes of a body.

A request of a caller who is known comes to its handler in a world that is as it was but for
what the gate has asked. If its body asks for nothing, it is told that the body cannot be read.
Otherwise the operation that it asks for is run once, and what comes of that is what comes of
the request: it is told that its input is invalid exactly if that breaks a rule. Neither answer
leaves anything behind.

* `Http.Response.Refuses` — an answer that refuses a request, with a code and a message;
* `Served.admitted` — the world in which a request comes to its handler;
* `Served.response_of_establishes` — what it is answered, and what is left, behind the gate;
* `Stage.refuses_responseTo_iff` — the only answer of an operation with the status of bad
  requests;
* `bodies_classified` — what becomes of every body;
* `bodies_taken_otherwise` — a body that begins with two byte order marks, and one of a caller
  without an id.
-/
import TodoServer.Proofs.Server.Asking
import TodoServer.Proofs.Server.Likeness
import TodoServer.Proofs.Server.RequestLog
import TodoServer.Proofs.Todo.Rules

namespace TodoServer

open Http

/-! ### Answers -/

/-- An answer that refuses a request, with a code and a message. -/
structure Http.Response.Refuses (response : Response) (status : Int) (code message : Text) :
    Prop where
  status_eq : response.status = status
  body_eq : Json.parse? response.body.toList = some (errorBody code message)

namespace Http.Response.Refuses

variable {response : Response} {status status' : Int} {code code' message message' : Text}

/-- An answer refuses in one way. -/
theorem unique (h : response.Refuses status code message)
    (h' : response.Refuses status' code' message') :
    status = status' ∧ code = code' ∧ message = message' := by
  have hbody := h.body_eq.symm.trans h'.body_eq
  simp only [errorBody, Option.some.injEq, Json.Value.object.injEq, List.cons.injEq,
    Prod.mk.injEq, Json.Value.text.injEq, true_and, and_true] at hbody
  exact ⟨h.status_eq.symm.trans h'.status_eq, hbody⟩

end Http.Response.Refuses

theorem Http.Response.refuses_error {code : ErrorCode} {name : Text} (status : Int)
    (message : Text) (hname : code.name = .text name) :
    (Response.error status code message).Refuses status name message :=
  ⟨rfl, parse?_body_error status message hname⟩

/-- What is sent refuses as the answer does. -/
theorem App.refuses_sent_iff {r : Request} {requestId : String} {response : Response}
    (hmethod : r.method ≠ "HEAD") {status : Int} {code message : Text} :
    (App.sent r requestId response).Refuses status code message ↔
      response.Refuses status code message := by
  rw [App.sent, Response.sentFor, if_neg hmethod]
  exact ⟨fun h => ⟨h.status_eq, h.body_eq⟩, fun h => ⟨h.status_eq, h.body_eq⟩⟩

namespace Stage

/-- The answer to what comes of a handler. -/
def responseTo : Except Fault Response → Response
  | .ok response => response
  | .error fault => answerTo fault.kind

theorem answer_recovered {requestId : String} {r : Request}
    (e : Exchange (Except Fault Response)) :
    (recovered requestId r e).answer = responseTo e.answer := by
  obtain ⟨answer, caller, w⟩ := e
  rcases answer with fault | response
  · exact recovered_error fault caller w
  · rfl

theorem responseTo_invalidInput (message : Text) :
    (responseTo (.error (.api (.invalidInput message)))).Refuses 400 "INVALID_INPUT"
      message := by
  show (apiResponse (.invalidInput message)).Refuses 400 "INVALID_INPUT" message
  rw [apiResponse_invalidInput]
  exact Response.refuses_error 400 message rfl

variable {x : Except Fault Response} (htells : Tells x)
  (hok : ∀ response, x = .ok response → response.status < 400)

include htells hok

/-- The only answer of an operation with the status of bad requests is that its input is
invalid. -/
theorem exists_invalidInput_of_status (hstatus : (responseTo x).status = 400) :
    ∃ message, x = .error (.api (.invalidInput message)) := by
  have hother : ∀ {status : Int} {code : ErrorCode} {message : Text}, status ≠ 400 →
      responseTo x ≠ .error status code message := by
    intro status code message hne heq
    rw [heq] at hstatus
    exact hne hstatus
  rcases x with fault | response
  · cases fault with
    | api e =>
      cases htells e rfl with
      | invalidInput message => exact ⟨message, rfl⟩
      | notFound message => exact absurd (apiResponse_notFound message) (hother (by decide))
      | unauthorized message =>
        exact absurd (apiResponse_unauthorized message) (hother (by decide))
    | _ => exact absurd rfl (hother (show (500 : Int) ≠ 400 by decide))
  · have hsmall := hok response rfl
    have hstatus : response.status = 400 := hstatus
    omega

theorem refuses_responseTo_iff {code message : Text} :
    (responseTo x).Refuses 400 code message ↔
      code = "INVALID_INPUT" ∧ x = .error (.api (.invalidInput message)) := by
  constructor
  · intro h
    obtain ⟨given, rfl⟩ := exists_invalidInput_of_status htells hok h.status_eq
    obtain ⟨-, rfl, rfl⟩ := (responseTo_invalidInput given).unique h
    exact ⟨rfl, rfl⟩
  · rintro ⟨rfl, rfl⟩
    exact responseTo_invalidInput message

end Stage

/-! ### Behind the gate -/

namespace Served

variable (s : Served)

/-- The id of the request. -/
def requestId : String := (Stage.requestId s.request s.before).1

/-- The world in which the request comes to its handler. -/
def admitted : World :=
  (Gate.screen s.app.mode none s.request s.requestId (s.before.entered s.request)).2

variable {s} {caller : Datum}

theorem screen_of_establishes (hguarded : s.request.IsGuarded)
    (hcaller : s.Establishes caller) :
    (Gate.screen s.app.mode none s.request s.requestId (s.before.entered s.request)).1 =
      .caller caller :=
  Gate.screen_fst_eq_caller_iff.2
    ⟨hguarded.guarded, (World.Aside.entered s.before s.request).establishes_iff.2 hcaller⟩

/-- The gate has no say in the todos and makes no calls to the store. -/
theorem admitted_eq (hguarded : s.request.IsGuarded) (hcaller : s.Establishes caller) :
    s.admitted.memory = s.before.memory ∧ s.admitted.calls = s.before.calls := by
  have hscreen := screen_of_establishes hguarded hcaller
  have haside := World.Aside.entered s.before s.request
  have hother :
      (Gate.screen s.app.mode none s.request s.requestId (s.before.entered s.request)).1 ≠
      .refused .internalError := by
    rw [hscreen]
    exact Gate.Admission.noConfusion
  obtain ⟨cache, fetches, database, refreshes, -, hworld⟩ := Gate.screen_world hother
  rw [admitted, hworld]
  exact ⟨haside.memory_eq, haside.calls_eq⟩

/-- What has become of a request of a caller who is known, behind the outer stages. -/
theorem exchange_of_establishes (hguarded : s.request.IsGuarded)
    (hcaller : s.Establishes caller) :
    let outcome :=
      Route.perform (World.store s.app.store) caller s.admitted (Route.asked s.request)
    s.exchange = Stage.recovered s.requestId s.request ⟨outcome.1, caller, outcome.2⟩ := by
  have hexchange : s.exchange = Stage.recovered s.requestId s.request
      ⟨(Route.dispatch s.app.store s.request caller s.admitted).1, caller,
        (Route.dispatch s.app.store s.request caller s.admitted).2⟩ :=
    congrArg (Stage.recovered s.requestId s.request)
      (Stage.guarded_of_caller (screen_of_establishes hguarded hcaller))
  rwa [Route.dispatch_eq] at hexchange

/-- A request of a caller who is known is answered as its handler says, and leaves what that
leaves. -/
theorem response_of_establishes (hguarded : s.request.IsGuarded)
    (hcaller : s.Establishes caller) :
    let outcome :=
      Route.perform (World.store s.app.store) caller s.admitted (Route.asked s.request)
    s.response = App.sent s.request s.requestId (Stage.responseTo outcome.1) ∧
      outcome.2.Aside s.after := by
  have hexchange := exchange_of_establishes hguarded hcaller
  intro outcome
  constructor
  · rw [response_of_small hguarded.small, hexchange, Stage.answer_recovered]
    rfl
  · have hafter : s.after = s.exchange.world.reading.2.note s.entry :=
      congrArg Prod.snd (s.app.serve_of_small s.before hguarded.small)
    have hrecovered : outcome.2.Aside s.exchange.world := by
      rw [hexchange]
      exact App.recovered_aside s.request ⟨outcome.1, caller, outcome.2⟩
    rw [hafter]
    exact (hrecovered.trans (.reading _)).note _

variable {a : Action}

/-- A body that asks for nothing cannot be read. -/
theorem response_of_not_asks (hguarded : s.request.IsGuarded) (hcaller : s.Establishes caller)
    (hbody : s.request.TakesBody) (hasks : ∀ a, ¬s.request.Asks a) :
    s.response = App.sent s.request s.requestId Todos.invalidBody ∧
      s.admitted.Aside s.after := by
  obtain ⟨hresponse, hafter⟩ := response_of_establishes hguarded hcaller
  rcases hasked : Route.asked s.request with given | a
  · rw [hasked] at hresponse hafter
    rw [Route.asked_eq_error hbody hasked] at hresponse
    exact ⟨hresponse, hafter⟩
  · exact absurd (Route.asks_of_asked hbody hasked) (hasks a)

/-- What a body asks for is done once. -/
theorem response_of_asks (hguarded : s.request.IsGuarded) (hcaller : s.Establishes caller)
    (hblank : caller.isBlank = false) (hasks : s.request.Asks a) :
    let run := (a.program caller).run (World.store s.app.store) s.admitted
    s.response = App.sent s.request s.requestId (Stage.responseTo (run.1.bind a.write)) ∧
      run.2.Aside s.after := by
  have hresponse := response_of_establishes hguarded hcaller
  rwa [Route.asked_of_asks hasks, Route.perform, Action.handle_of_not_blank hblank]
    at hresponse

/-- A caller without an id is nobody to do it for. -/
theorem response_of_blank (hguarded : s.request.IsGuarded) (hcaller : s.Establishes caller)
    (hblank : caller.isBlank = true) (hasks : s.request.Asks a) :
    s.response = App.sent s.request s.requestId .internalError ∧ s.admitted.Aside s.after := by
  have hresponse := response_of_establishes hguarded hcaller
  rwa [Route.asked_of_asks hasks, Route.perform, Action.handle_of_blank hblank] at hresponse

theorem status_of_blank (hguarded : s.request.IsGuarded) (hcaller : s.Establishes caller)
    (hblank : caller.isBlank = true) (hasks : s.request.Asks a) : s.response.status ≠ 400 := by
  rw [(response_of_blank hguarded hcaller hblank hasks).1, App.status_sent]
  show (500 : Int) ≠ 400
  decide

end Served

/-- Writing a result does not blame the input. -/
theorem Action.bind_write_eq_invalidInput_iff {a : Action} {x : Except Fault Result}
    {message : Text} : x.bind a.write = .error (.api (.invalidInput message)) ↔
      x = .error (.api (.invalidInput message)) := by
  rcases x with fault | result
  · rw [Except.bind, Except.error.injEq, Except.error.injEq]
  · exact iff_of_false (a.discreet_write result _) nofun

theorem Action.status_of_bind_write {a : Action} {x : Except Fault Result}
    {response : Response} (h : x.bind a.write = .ok response) : response.status < 400 := by
  rcases x with fault | result
  · cases h
  · exact status_of_write h

/-- The store is asked for a todo. -/
theorem World.store_find (kind : StoreKind) (u id : Datum) (w : World) :
    (World.store kind (.find u id) w).2.memory = w.memory ∧
      (World.store kind (.find u id) w).2.calls = w.calls ++ [.find u id] := by
  cases kind <;> exact ⟨rfl, rfl⟩

namespace Served

variable {s : Served} {caller : Datum} {a : Action}

section asks

variable (hguarded : s.request.IsGuarded) (hmethod : s.request.method ≠ "HEAD")
  (hcaller : s.Establishes caller) (hblank : caller.isBlank = false) (hasks : s.request.Asks a)

include hguarded hmethod hcaller hblank hasks

/-- Of the answers with the status of bad requests, an operation gives one, and that for
breaking a rule. -/
theorem refuses_iff_breaks {code message : Text} :
    s.response.Refuses 400 code message ↔ code = "INVALID_INPUT" ∧
      a.Breaks (Action.Finds (World.store s.app.store) caller s.admitted) message := by
  obtain ⟨hresponse, -⟩ := response_of_asks hguarded hcaller hblank hasks
  have hstore := World.discreet_store s.app.store
  have htells := a.handle_tells s.app.store caller s.admitted
  rw [Action.handle_of_not_blank hblank] at htells
  rw [hresponse, App.refuses_sent_iff hmethod,
    Stage.refuses_responseTo_iff htells fun _ => Action.status_of_bind_write,
    Action.bind_write_eq_invalidInput_iff]
  exact and_congr_right fun _ =>
    ⟨Action.breaks_of_run hstore, fun h => (Action.run_of_breaks h).1⟩

omit hmethod in
theorem exists_breaks_of_status (hstatus : s.response.status = 400) :
    ∃ message, a.Breaks (Action.Finds (World.store s.app.store) caller s.admitted)
      message := by
  obtain ⟨hresponse, -⟩ := response_of_asks hguarded hcaller hblank hasks
  have htells := a.handle_tells s.app.store caller s.admitted
  rw [Action.handle_of_not_blank hblank] at htells
  rw [hresponse, App.status_sent] at hstatus
  obtain ⟨message, hmessage⟩ :=
    Stage.exists_invalidInput_of_status htells (fun _ => Action.status_of_bind_write) hstatus
  exact ⟨message, Action.breaks_of_run (World.discreet_store s.app.store)
    (Action.bind_write_eq_invalidInput_iff.1 hmessage)⟩

end asks

/-- An answer with the status of bad requests has changed no todo. -/
theorem calls_of_status (hguarded : s.request.IsGuarded) (hcaller : s.Establishes caller)
    (hbody : s.request.TakesBody) (hstatus : s.response.status = 400) :
    s.after.memory = s.admitted.memory ∧ ∃ finds, s.after.calls = s.admitted.calls ++ finds ∧
      ∀ c ∈ finds, ∃ id, c = Store.Call.find caller id := by
  have hsame : ∀ {w : World}, s.admitted = w → w.Aside s.after →
      s.after.memory = s.admitted.memory ∧ ∃ finds, s.after.calls = s.admitted.calls ++ finds ∧
        ∀ c ∈ finds, ∃ id, c = Store.Call.find caller id := by
    intro w hw hafter
    rw [hw]
    exact ⟨hafter.memory_eq, [], hafter.calls_eq.trans (List.append_nil _).symm,
      fun c hc => absurd hc List.not_mem_nil⟩
  by_cases hasked : ∃ a, s.request.Asks a
  · obtain ⟨a, hasks⟩ := hasked
    by_cases hblank : caller.isBlank = true
    · exact absurd hstatus (status_of_blank hguarded hcaller hblank hasks)
    · have hblank := Bool.eq_false_iff.2 hblank
      obtain ⟨-, hafter⟩ := response_of_asks hguarded hcaller hblank hasks
      obtain ⟨message, hbreaks⟩ :=
        exists_breaks_of_status hguarded hcaller hblank hasks hstatus
      rcases (Action.run_of_breaks hbreaks).2 with hstate | ⟨id, hstate⟩
      · exact hsame hstate.symm hafter
      · obtain ⟨hmemory, hcalls⟩ := World.store_find s.app.store caller id s.admitted
        rw [hstate] at hafter
        refine ⟨hafter.memory_eq.trans hmemory, [.find caller id],
          hafter.calls_eq.trans hcalls, ?_⟩
        intro c hc
        exact ⟨id, List.mem_singleton.1 hc⟩
  · push Not at hasked
    exact hsame rfl (response_of_not_asks hguarded hcaller hbody hasked).2

/-- The answer is that the body cannot be read exactly if nothing is asked for in it. -/
theorem refuses_iff_not_asks (hguarded : s.request.IsGuarded) (hcaller : s.Establishes caller)
    (hbody : s.request.TakesBody) {message : Text} :
    s.response.Refuses 400 "INVALID_JSON" message ↔
      message = "invalid request body" ∧ ∀ a, ¬s.request.Asks a := by
  have hmethod := hbody.method_ne_head
  by_cases hasked : ∃ a, s.request.Asks a
  · refine iff_of_false (fun hrefuses => ?_) fun h => hasked.elim h.2
    obtain ⟨a, hasks⟩ := hasked
    by_cases hblank : caller.isBlank = true
    · exact absurd hrefuses.status_eq (status_of_blank hguarded hcaller hblank hasks)
    · have hcode := ((refuses_iff_breaks hguarded hmethod hcaller (Bool.eq_false_iff.2 hblank)
        hasks).1 hrefuses).1
      exact absurd hcode (by decide)
  · push Not at hasked
    rw [(response_of_not_asks hguarded hcaller hbody hasked).1, App.refuses_sent_iff hmethod]
    have hinvalid : Todos.invalidBody.Refuses 400 "INVALID_JSON" "invalid request body" :=
      Response.refuses_error 400 _ rfl
    constructor
    · exact fun h => ⟨(h.unique hinvalid).2.2, hasked⟩
    · rintro ⟨rfl, -⟩
      exact hinvalid

end Served

/-- A request of a caller who is known, for which a body is taken that is not too large. The
gate leaves the todos alone. The answer is that the body cannot be read exactly if nothing is
asked for in it. Whatever is asked for is the only thing that is, and is done once for the
caller; a caller without an id is told that something has failed. The answer is that the input
is invalid exactly if it breaks a rule. And an answer of either kind has changed no todo: if
the store has been called, a todo has been looked for. -/
theorem bodies_classified {s : Served} {caller : Datum} (hcaller : s.Establishes caller)
    (hbody : s.request.TakesBody)
    (hsmall : BodyLimit.exceeds BodyLimit.defaultMax s.request = false) :
    (s.admitted.memory = s.before.memory ∧ s.admitted.calls = s.before.calls) ∧
    (∀ message, s.response.Refuses 400 "INVALID_JSON" message ↔
      message = "invalid request body" ∧ ∀ a, ¬s.request.Asks a) ∧
    (∀ a, s.request.Asks a → (∀ a', s.request.Asks a' → a' = a) ∧
      (caller.isBlank = true →
        s.response.Refuses 500 "INTERNAL_ERROR" "internal server error" ∧
          s.admitted.Aside s.after) ∧
      (caller.isBlank = false →
        let run := (a.program caller).run (World.store s.app.store) s.admitted
        s.response = App.sent s.request s.requestId (Stage.responseTo (run.1.bind a.write)) ∧
          run.2.Aside s.after ∧
          ∀ message, s.response.Refuses 400 "INVALID_INPUT" message ↔
            a.Breaks (Action.Finds (World.store s.app.store) caller s.admitted) message)) ∧
    (s.response.status = 400 → s.after.memory = s.before.memory ∧
      ∃ finds, s.after.calls = s.before.calls ++ finds ∧
        ∀ c ∈ finds, ∃ id, c = Store.Call.find caller id) := by
  have hguarded := hbody.isGuarded hsmall
  have hmethod := hbody.method_ne_head
  have hadmitted := Served.admitted_eq hguarded hcaller
  refine ⟨hadmitted, fun _ => Served.refuses_iff_not_asks hguarded hcaller hbody,
    fun a hasks => ⟨fun _ => hasks.unique, fun hblank => ?_, fun hblank => ?_⟩, ?_⟩
  · obtain ⟨hresponse, hafter⟩ := Served.response_of_blank hguarded hcaller hblank hasks
    rw [hresponse, App.refuses_sent_iff hmethod]
    exact ⟨Response.refuses_error 500 _ rfl, hafter⟩
  · obtain ⟨hresponse, hafter⟩ := Served.response_of_asks hguarded hcaller hblank hasks
    refine ⟨hresponse, hafter, fun message => ?_⟩
    exact (Served.refuses_iff_breaks hguarded hmethod hcaller hblank hasks).trans
      (and_iff_right rfl)
  · intro hstatus
    obtain ⟨hmemory, hcalls⟩ := Served.calls_of_status hguarded hcaller hbody hstatus
    rw [hadmitted.1] at hmemory
    rw [hadmitted.2] at hcalls
    exact ⟨hmemory, hcalls⟩

/-! ### Bodies that are refused, and others -/

/-- A new todo asked for in a body, as it is served. -/
def posted (bytes : List UInt8) : Served :=
  let e := posting ""
  developmentStartup.app.meet (.initial 0 (.rejected ""))
    { e with request := { e.request with body := some [bytes] } }

theorem posted_establishes (bytes : List UInt8) :
    (posted bytes).Establishes (.text "alice") := by
  have hheader : (posted []).request.header? Gate.devUserHeader =
      some "alice" := by decide +kernel
  exact .trusted hheader (by decide)

/-- An object whose last title is empty is one of a todo without a title; a list is no
object. -/
theorem bodies_classified_untitled :
    let untitled :=
      posted (Utf8.encode "\x7b\"title\":\"t\",\"x\":[1,null],\"title\":\"\"\x7d")
    let listed := posted (Utf8.encode "[]")
    (untitled.response.Refuses 400 "INVALID_INPUT" "title is required" ∧
      untitled.after.memory = untitled.before.memory) ∧
    listed.response.Refuses 400 "INVALID_JSON" "invalid request body" ∧
      listed.after.memory = listed.before.memory := by
  intro untitled listed
  have huntitled : untitled.request.TakesBody := .create .todos rfl
  have hlisted : listed.request.TakesBody := .create .todos rfl
  obtain ⟨-, -, hasked, hunchanged⟩ :=
    bodies_classified (posted_establishes _) huntitled (by decide +kernel)
  obtain ⟨-, hunread, -, hunchanged'⟩ :=
    bodies_classified (posted_establishes _) hlisted (by decide +kernel)
  constructor
  · have hinput : TodoInput.ofBody? untitled.request.bytes =
        some ⟨.text "", .absent, .absent⟩ := by
      decide +kernel
    have hasks : untitled.request.Asks (.create ⟨.text "", .absent, .absent⟩) := by
      refine Route.asks_of_asked huntitled ?_
      rw [Route.asked_of_create .todos rfl, Todos.creation, hinput]
    have hrefused : untitled.response.Refuses 400 "INVALID_INPUT" "title is required" :=
      (((hasked _ hasks).2.2 (by decide)).2.2 _).2 (.untitled rfl)
    exact ⟨hrefused, (hunchanged hrefused.status_eq).1⟩
  · have hnone : TodoInput.ofBody? listed.request.bytes = none := by decide +kernel
    have hasks : ∀ a, ¬listed.request.Asks a := by
      intro a hasks
      have hasked := Route.asked_of_asks hasks
      rw [Route.asked_of_create .todos rfl, Todos.creation, hnone] at hasked
      cases hasked
    have hrefused := (hunread "invalid request body").2 ⟨rfl, hasks⟩
    exact ⟨hrefused, (hunchanged' hrefused.status_eq).1⟩

/-- The body of a new todo. -/
def titledBody : List UInt8 := Utf8.encode "\x7b\"title\":\"t\"\x7d"

/-- A new todo asked for in a body that begins with two byte order marks. -/
def twiceMarked : Served := posted ([0xEF, 0xBB, 0xBF, 0xEF, 0xBB, 0xBF] ++ titledBody)

/-- A new todo asked for with a token, for whose subject the resolver gives an empty id. -/
def namelessPosted : Served :=
  let e := namelessListing
  tokenStartup.app.meet (.initial 0 (.rejected ""))
    { e with request := { e.request with method := "POST", body := some [titledBody] } }

theorem namelessPosted_establishes : namelessPosted.Establishes (.text "") := by
  have hnameless : Gate.Establishes (.verified (.rule listing.keys) ⟨.text "i", .text "a"⟩
      (.rule namelessListing.users)) namelessListed.request namelessListed.before (.text "") :=
    namelessListed_establishes
  cases hnameless with
  | verified hheader hverify hresolve => exact .verified hheader hverify hresolve

/-- There are two ways in which a body is taken for something else. A todo is made from a body
that begins with two byte order marks, which is no value whether one of them is left out or
none; and a caller without an id is told that something has failed, with nothing asked of the
store, whatever the body asks for. -/
theorem bodies_taken_otherwise :
    (twiceMarked.Establishes (.text "alice") ∧ twiceMarked.request.TakesBody ∧
      BodyLimit.exceeds BodyLimit.defaultMax twiceMarked.request = false ∧
      (∀ value : Json.Value,
        ¬Json.Spelled value.tokens (Utf8.decode twiceMarked.request.bytes) ∧
        ¬Json.Spelled value.tokens (Utf8.decodeDocument twiceMarked.request.bytes)) ∧
      twiceMarked.response.status = 201) ∧
    namelessPosted.Establishes (.text "") ∧ namelessPosted.request.TakesBody ∧
      BodyLimit.exceeds BodyLimit.defaultMax namelessPosted.request = false ∧
      namelessPosted.request.Asks (.create ⟨.text "t", .absent, .absent⟩) ∧
      namelessPosted.response.status = 500 ∧ namelessPosted.after.calls =
        namelessPosted.before.calls := by
  have hunread : ∀ chars : List Char, Json.parse? chars = none →
      ∀ value : Json.Value, ¬Json.Spelled value.tokens chars := by
    intro chars hnone value hspelled
    rw [Json.parse?_eq_some_iff.2 hspelled] at hnone
    cases hnone
  have htakes : namelessPosted.request.TakesBody := .create .todos rfl
  have hinput : TodoInput.ofBody? namelessPosted.request.bytes =
      some ⟨.text "t", .absent, .absent⟩ := by
    decide +kernel
  have hasks : namelessPosted.request.Asks (.create ⟨.text "t", .absent, .absent⟩) := by
    refine Route.asks_of_asked htakes ?_
    rw [Route.asked_of_create .todos rfl, Todos.creation, hinput]
  have hguarded := htakes.isGuarded (by decide +kernel)
  obtain ⟨hresponse, hafter⟩ :=
    Served.response_of_blank hguarded namelessPosted_establishes (by decide) hasks
  refine ⟨⟨posted_establishes _, .create .todos rfl, by decide +kernel,
      fun value => ⟨?_, ?_⟩, by decide +kernel⟩, namelessPosted_establishes, htakes,
    by decide +kernel, hasks, ?_, ?_⟩
  · exact hunread _ (by decide +kernel) value
  · exact hunread _ (by decide +kernel) value
  · rw [hresponse, App.status_sent]
    rfl
  · exact hafter.calls_eq.trans (Served.admitted_eq hguarded namelessPosted_establishes).2

end TodoServer
