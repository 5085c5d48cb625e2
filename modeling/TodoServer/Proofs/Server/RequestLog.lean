/-
The log of a request and its answer.

The entry about a request is made where its answer is known: after the gate has said who is
calling, after the handlers have used the store, and after a failure has been turned into an
answer. So the entry and the answer agree in the status and the id, and the user named in the
entry is the one for whom the store was used. What has failed in a way that the client is not
told is logged before, once, under the same id, and nothing else is logged like that.

A user whose id is empty is nobody: no todo is kept for them, and no entry names them.

* `Gate.screen_journal` — what the gate logs;
* `Stage.LogsFailure`, `Stage.guarded_journal` — what is logged behind the outer stages, and
  the status that goes with it;
* `Served.Logs` — an entry that says what is to be said of a request;
* `Served.CallsFor` — the calls to the store are made for the user who is named;
* `requests_logged_once` — every request of every run.
-/
import TodoServer.Proofs.Server.Envelope
import TodoServer.Proofs.Server.Ownership
import TodoServer.Proofs.Server.Rejection

namespace TodoServer

open Http

/-! ### Entries -/

/-- What an entry says under a name. -/
def Log.Entry.value? (entry : Log.Entry) (name : Text) : Option Json.Value :=
  Json.lookup entry.data name

/-- Whether an entry is about an event. -/
def Log.Entry.isAbout (entry : Log.Entry) (event : Text) : Bool :=
  entry.value? "event" = some (.text event)

/-- Whether an entry is about a failure that the client is not told. -/
def Log.Entry.isFailure (entry : Log.Entry) : Bool :=
  entry.isAbout "unhandled_error" || entry.isAbout "identity_resolution_failed"

theorem Log.Entry.isAbout_eq {entry : Log.Entry} {value : Json.Value}
    (h : entry.value? "event" = some value) (event : Text) :
    entry.isAbout event = decide (value = .text event) := by
  unfold isAbout
  simp only [h, Option.some.injEq]

theorem Log.Entry.IsRefresh.not_about {entry : Log.Entry} (h : entry.IsRefresh) :
    entry.isAbout "request" = false ∧ entry.isFailure = false := by
  rcases h with h | h <;> rw [isFailure, isAbout_eq h, isAbout_eq h, isAbout_eq h] <;>
    decide +kernel

/-- Entries about refreshes of the keys are about no request and no failure. -/
theorem Log.Entry.filter_of_isRefresh {entries : List Log.Entry}
    (h : ∀ e ∈ entries, e.IsRefresh) :
    entries.filter (·.isAbout "request") = [] ∧ entries.filter (·.isFailure) = [] := by
  rw [List.filter_eq_nil_iff, List.filter_eq_nil_iff]
  exact ⟨fun e he => Bool.eq_false_iff.1 (h e he).not_about.1,
    fun e he => Bool.eq_false_iff.1 (h e he).not_about.2⟩

/-- An entry about a failure under an id, and no entry about a request. -/
structure Log.Entry.Reports (entry : Log.Entry) (requestId : String) : Prop where
  isFailure : entry.isFailure = true
  not_request : entry.isAbout "request" = false
  requestId : entry.value? "request_id" = some (.text requestId)

/-! ### The gate -/

/-- What the gate logs: the end of a refresh at most, and that the user could not be looked up
exactly where it says that something has failed. -/
theorem Gate.screen_journal (mode : Mode) (r : Request) (requestId : Text) (w : World) :
    ∃ refreshes, refreshes.Sublist [w.endpoint.refreshEntry] ∧
      (((screen mode none r requestId w).1 ≠ .refused .internalError ∧
          (screen mode none r requestId w).2.journal = w.journal ++ refreshes) ∨
        (screen mode none r requestId w).1 = .refused .internalError ∧ ∃ message,
          (screen mode none r requestId w).2.journal =
            w.journal ++ refreshes ++ [resolutionEntry requestId message]) := by
  by_cases hfailed : (screen mode none r requestId w).1 = .refused .internalError
  · have hunauthorized : ∀ message : Text, Response.unauthorized message ≠ .internalError :=
      fun message h => absurd (congrArg Response.status h) (show (401 : Int) ≠ 500 by decide)
    unfold screen at hfailed ⊢
    split_ifs at hfailed ⊢ with hexempt
    cases mode with
    | devBypass =>
      simp only [screenTrusted] at hfailed
      split at hfailed
      · exact absurd (Admission.refused.inj hfailed) (hunauthorized _)
      · cases hfailed
    | verified keys expected resolver =>
      rcases hbearer : bearerToken r with message | token <;> simp only [hbearer] at hfailed ⊢
      · exact absurd (Admission.refused.inj hfailed) (hunauthorized _)
      · obtain ⟨cache, fetches, refreshes, hrefreshes, hworld⟩ :=
          Token.verify_world keys token expected w.time w
        refine ⟨refreshes, hrefreshes, Or.inr ⟨hfailed, ?_⟩⟩
        unfold screenToken at hfailed ⊢
        rw [Option.getD_none] at hfailed ⊢
        rcases hverify : Token.verify keys.lookup token expected w.time w with
          ⟨message | failure | verified, w'⟩ <;> rw [hverify] at hfailed hworld
        · cases hfailed
        · exact absurd (Admission.refused.inj hfailed) (hunauthorized _)
        · -- the token is good, and the look-up of its subject has failed
          simp only at hworld hfailed ⊢
          subst hworld
          unfold screenSubject at hfailed ⊢
          rcases hresolve : resolver.resolve verified.subject w.database with
            ⟨user | _ | message, database⟩ <;> simp only [hresolve] at hfailed ⊢
          · cases hfailed
          · exact absurd (Admission.refused.inj hfailed) (hunauthorized _)
          · exact ⟨message, rfl⟩
  · obtain ⟨cache, fetches, database, refreshes, hrefreshes, hworld⟩ := screen_world hfailed
    refine ⟨refreshes, hrefreshes, Or.inl ⟨hfailed, ?_⟩⟩
    rw [hworld]

/-! ### Handlers -/

theorem World.store_journal (kind : StoreKind) (c : Store.Call) (w : World) :
    (World.store kind c w).2.journal = w.journal := by
  cases kind <;> rfl

theorem Store.Program.run_journal {α : Type} (kind : StoreKind) (p : Store.Program α)
    (w : World) : (p.run (World.store kind) w).2.journal = w.journal := by
  induction p generalizing w with
  | done result => rfl
  | call c next ih => rw [run_call, ih, World.store_journal]

/-- Handlers log nothing. -/
theorem Route.dispatch_journal (kind : StoreKind) (r : Request) (caller : Datum) (w : World) :
    (Route.dispatch kind r caller w).2.journal = w.journal := by
  rw [Route.dispatch_eq]
  rcases Route.asked r with response | a
  · rfl
  · show (a.handle (World.store kind) caller w).2.journal = w.journal
    by_cases hblank : caller.isBlank = true
    · rw [Action.handle_of_blank hblank]
    · rw [Action.handle_of_not_blank (Bool.eq_false_iff.2 hblank)]
      exact Store.Program.run_journal kind _ w

/-- An answer of a handler is one that is given without an action, or tells of a success. -/
theorem Route.mem_or_lt_of_dispatch {kind : StoreKind} {r : Request} {caller : Datum}
    {w : World} {response : Response} (h : (Route.dispatch kind r caller w).1 = .ok response) :
    response ∈ givenAnswers ∨ response.status < 400 := by
  rw [Route.dispatch_eq] at h
  rcases hasked : Route.asked r with given | a <;> rw [hasked] at h
  · cases h
    exact Or.inl (Route.mem_of_asked hasked)
  · have hhandle : (a.handle (World.store kind) caller w).1 = .ok response := h
    by_cases hblank : caller.isBlank = true
    · rw [Action.handle_of_blank hblank] at hhandle
      cases hhandle
    · rw [Action.handle_of_not_blank (Bool.eq_false_iff.2 hblank)] at hhandle
      rcases hrun : ((a.program caller).run (World.store kind) w).1 with fault | result <;>
        rw [hrun] at hhandle
      · cases hhandle
      · exact Or.inr (Action.status_of_write hhandle)

/-- No handler answers that something has failed. -/
theorem Route.status_of_dispatch {kind : StoreKind} {r : Request} {caller : Datum} {w : World}
    {response : Response} (h : (Route.dispatch kind r caller w).1 = .ok response) :
    response.status ≠ 500 := by
  have hgiven : ∀ given ∈ Route.givenAnswers, given.status ≠ 500 := by decide +kernel
  rcases Route.mem_or_lt_of_dispatch h with hmem | hlt
  · exact hgiven response hmem
  · omega

/-! ### Failures -/

namespace Stage

variable {requestId : String} {r : Request}

theorem status_apiResponse {e : ClientError} (h : e.IsRefusal) :
    (apiResponse e).status ≠ 500 := by
  obtain ⟨message, h | h | h⟩ := h.apiResponse_cases <;> rw [h]
  · show (400 : Int) ≠ 500
    decide
  · show (404 : Int) ≠ 500
    decide
  · show (401 : Int) ≠ 500
    decide

/-- An answer says that something has failed exactly if a failure has been logged, which is
then the one entry after a journal. -/
def LogsFailure (requestId : String) (e : Exchange Response)
    (journal : List Log.Entry) : Prop :=
  (e.answer.status ≠ 500 ∧ e.world.journal = journal) ∨
    e.answer.status = 500 ∧ ∃ failure : Log.Entry, failure.Reports requestId ∧
      e.world.journal = journal ++ [failure]

/-- A result is answered as a failure exactly if it is a failure that the client is not told,
and then that is logged. -/
theorem recovered_logsFailure {x : Except Fault Response} (htells : Tells x)
    (hok : ∀ response, x = .ok response → response.status ≠ 500) (caller : Datum) (w : World) :
    LogsFailure requestId (recovered requestId r ⟨x, caller, w⟩) w.journal := by
  rcases x with fault | response
  · cases fault with
    | api e => exact Or.inl ⟨status_apiResponse (htells e rfl), rfl⟩
    | _ => exact Or.inr ⟨rfl, _, ⟨by rfl, by rfl, by rfl⟩, rfl⟩
  · exact Or.inl ⟨hok response rfl, rfl⟩

/-- A request that goes on without identity. -/
theorem guarded_of_exempt {mode : Gate.Mode} {handler : Handler} {w : World}
    (h : (Gate.screen mode none r requestId w).1 = .exempt) :
    guarded mode none handler requestId r w =
      ⟨(handler r .absent (Gate.screen mode none r requestId w).2).1, .absent,
        (handler r .absent (Gate.screen mode none r requestId w).2).2⟩ := by
  unfold guarded
  rw [← @Prod.mk.eta _ _ (Gate.screen mode none r requestId w), h]

/-- What is logged behind the outer stages: the end of a refresh at most, and after it one
failure exactly if the answer says that something has failed. -/
theorem guarded_journal (mode : Gate.Mode) (kind : StoreKind) (requestId : String)
    (r : Request) (w : World) :
    ∃ refreshes, refreshes.Sublist [w.endpoint.refreshEntry] ∧
      LogsFailure requestId
        (recovered requestId r (guarded mode none (Route.dispatch kind) requestId r w))
        (w.journal ++ refreshes) := by
  obtain ⟨refreshes, hrefreshes, hgate⟩ := Gate.screen_journal mode r requestId w
  refine ⟨refreshes, hrefreshes, ?_⟩
  rcases hgate with ⟨hscreen, hjournal⟩ | ⟨hfailed, message, hjournal⟩
  · -- the gate has logged a refresh at most, so what fails after it is logged on its own
    have hdispatch : ∀ caller w', LogsFailure requestId (recovered requestId r
        ⟨(Route.dispatch kind r caller w').1, caller, (Route.dispatch kind r caller w').2⟩)
          w'.journal := by
      intro caller w'
      rw [← Route.dispatch_journal kind r caller w']
      exact recovered_logsFailure (Route.dispatch_answerable kind r caller w').tells
        (fun _ => Route.status_of_dispatch) _ _
    rw [← hjournal]
    rcases Gate.screen_fst_cases mode r requestId w with
      h | ⟨caller, h⟩ | ⟨message, h⟩ | h | ⟨message, h⟩
    · rw [guarded_of_exempt h]
      exact hdispatch _ _
    · rw [guarded_of_caller h]
      exact hdispatch _ _
    · rw [guarded_of_refused h]
      refine recovered_logsFailure (Discreet.ok _).tells (fun response hresponse => ?_) _ _
      cases hresponse
      show (401 : Int) ≠ 500
      decide
    · exact absurd h hscreen
    · rw [guarded_of_failed h]
      exact recovered_logsFailure (Discreet.error fun _ => Fault.noConfusion).tells nofun _ _
  · -- the look-up of the user has failed, which the gate has logged itself
    rw [guarded_of_refused hfailed]
    exact Or.inr ⟨rfl, Gate.resolutionEntry requestId message, ⟨by rfl, by rfl, by rfl⟩,
      hjournal⟩

end Stage

/-! ### Users -/

/-- Nobody else is named than who is there and not blank. -/
theorem Datum.value?_unlessBlank_eq_some_iff {d : Datum} {value : Json.Value} :
    d.unlessBlank.value? = some value ↔ d.isBlank = false ∧ d.value? = some value := by
  unfold unlessBlank
  split_ifs with hblank <;> simp [hblank, Datum.value?]

/-- The caller that a request is bound to, who is not blank: one that its evidence establishes,
where identity is asked for. -/
structure Served.Binds (s : Served) (caller : Datum) : Prop where
  guarded : Gate.isExempt (Path.canonical s.request.path) = false
  establishes : s.Establishes caller
  not_blank : caller.isBlank = false

namespace Stage

/-- Who is named in the log is the caller that the gate has let in. -/
theorem caller_guarded {mode : Gate.Mode} {handler : Handler} {requestId : String}
    {r : Request} {w : World} {caller : Datum} (hblank : caller.isBlank = false) :
    (guarded mode none handler requestId r w).caller = caller ↔
      Gate.isExempt (Path.canonical r.path) = false ∧ Gate.Establishes mode r w caller := by
  rw [← @Gate.screen_fst_eq_caller_iff _ _ requestId]
  have habsent : Datum.absent ≠ caller := by
    rintro rfl
    exact absurd hblank (by decide)
  unfold guarded
  rcases Gate.screen mode none r requestId w with ⟨_ | userId | response | fault, w'⟩
  · exact iff_of_false habsent Gate.Admission.noConfusion
  · exact ⟨congrArg _, Gate.Admission.caller.inj⟩
  · exact iff_of_false habsent Gate.Admission.noConfusion
  · exact iff_of_false habsent Gate.Admission.noConfusion

end Stage

/-- A request that goes on without identity does not use the store. -/
theorem App.calls_of_isExempt (app : App) {r : Request} (w : World)
    (hexempt : Gate.isExempt (Path.canonical r.path) = true) :
    (app.serve r w).2.calls = w.calls := by
  rcases app.serve_cases r w with haside | ⟨requestId, w', haside, hserve⟩
  · exact haside.calls_eq
  · have hguarded : (app.guarded r w' requestId).world.calls = w'.calls := by
      refine (App.recovered_aside r _).calls_eq.trans ?_
      rw [Stage.guarded_of_isExempt hexempt]
      rcases Route.dispatch_runsFor app.store r .absent w' with hsame | ⟨hblank, -⟩
      · rw [hsame]
      · exact absurd hblank (by decide)
    rw [hserve.calls_eq, hguarded, haside.calls_eq]

/-! ### The entry -/

theorem Stage.level_mem (status : Int) : levelOf status ∈ Log.Level.all := by
  unfold levelOf
  split_ifs <;> decide

/-- What is written of an entry, under a threshold that is one of the levels. -/
theorem Log.write_eq {service : Datum} {threshold : Level} {now : Date} {entry : Entry}
    {time : String}
    (htime : now.iso? = some time) (hlevel : entry.level ∈ Level.all)
    (hthreshold : threshold ∈ Level.all) :
    write service threshold now entry =
      .ok (if Level.all.idxOf entry.level ≤ Level.all.idxOf threshold then
        some (entry.line service time) else none) := by
  have hall : ∀ level ∈ Level.all, ∀ threshold ∈ Level.all, level.isComparable = true ∧
      level.passes threshold = decide (Level.all.idxOf level ≤ Level.all.idxOf threshold) := by
    decide +kernel
  obtain ⟨hcomparable, hpasses⟩ := hall _ hlevel _ hthreshold
  have hcomparable' := (hall _ hthreshold _ hthreshold).1
  unfold write
  rw [hcomparable, hcomparable', hpasses, htime]
  simp only [Bool.not_true, Bool.or_self, Bool.false_eq_true, if_false, decide_eq_true_eq]
  split_ifs <;> rfl

/-! ### Requests -/

/-- An entry says of a request what is to be said of it. -/
structure Served.Logs (s : Served) (requestId : String) (entry : Log.Entry) : Prop where
  event : entry.isAbout "request" = true
  level_eq : entry.level =
    if 500 ≤ s.response.status then .error
    else if 400 ≤ s.response.status then .warn else .info
  requestId : entry.value? "request_id" = some (.text requestId)
  method : entry.value? "method" = some (.text s.request.method)
  path : entry.value? "path" = some (.text s.request.path)
  status : entry.value? "status" = some (.ofInt s.response.status)
  user : ∀ value, entry.value? "user_id" = some value ↔
    ∃ caller, s.Binds caller ∧ caller.value? = some value

/-- What is logged of a request before the entry about it: no other such entry, and a failure,
under the id of the request, exactly if the answer says that something has failed. -/
structure Served.LogsBefore (s : Served) (requestId : String) (earlier : List Log.Entry) :
    Prop where
  no_request : earlier.filter (·.isAbout "request") = []
  failure : s.response.status = 500 → ∃ failure, earlier.filter (·.isFailure) = [failure] ∧
    failure.value? "request_id" = some (.text requestId)
  no_failure : s.response.status ≠ 500 → earlier.filter (·.isFailure) = []

/-- The calls to the store that a request makes are made for the user that an entry names. A
call that writes a todo back may name the user as the database has done in this request. -/
structure Served.CallsFor (s : Served) (entry : Log.Entry) (calls : List Store.Call)
    (queries : List Sql.Query) : Prop where
  adds : AddsFor s.app.mode s.app.store s.request s.before s.after calls queries
  user : ∀ c ∈ calls, ∃ caller, s.Binds caller ∧ entry.value? "user_id" = caller.value? ∧
    c.IsFor caller fun owner =>
      ∃ exchange ∈ queries.zip s.before.database.answers, Spells caller owner exchange
  memory : s.app.store = .memory → ∀ c ∈ calls, entry.value? "user_id" = c.owner.value?

namespace Served

variable (s : Served)

/-- What has become of a request behind the outer stages. -/
def exchange : Exchange Response :=
  s.app.guarded s.request (s.before.entered s.request) (Stage.requestId s.request s.before).1

/-- The entry about a request. -/
def entry : Log.Entry :=
  Stage.requestEntry (Stage.requestId s.request s.before).1 s.request s.exchange.answer.status
    (Stage.requestId s.request s.before).2.reading.1 s.exchange.world.reading.1
      s.exchange.caller

variable {s}

theorem value?_entry : s.entry.value? "event" = some (.text "request") ∧
    s.entry.value? "request_id" = some (.text (Stage.requestId s.request s.before).1) ∧
    s.entry.value? "method" = some (.text s.request.method) ∧
    s.entry.value? "path" = some (.text s.request.path) ∧
    s.entry.value? "status" = some (.ofInt s.exchange.answer.status) ∧
    s.entry.value? "user_id" = s.exchange.caller.unlessBlank.value? := by
  have hdata : s.entry.data = ([("event", .text "request"),
      ("request_id", .text (Stage.requestId s.request s.before).1),
      ("method", .text s.request.method), ("path", .text s.request.path),
      ("status", .ofInt s.exchange.answer.status),
      ("duration_ms", Stage.elapsed (Stage.requestId s.request s.before).2.reading.1
        s.exchange.world.reading.1)] : List Json.Member) ++
        s.exchange.caller.unlessBlank.member "user_id" := rfl
  simp only [Log.Entry.value?, hdata, Datum.member]
  -- no name is given twice
  rcases s.exchange.caller.unlessBlank.value? with _ | value
  · exact ⟨by rfl, by rfl, by rfl, by rfl, by rfl, by rfl⟩
  · exact ⟨by rfl, by rfl, by rfl, by rfl, by rfl, by rfl⟩

/-- The user named in the entry about a request is the caller that it is bound to. -/
theorem caller_exchange {caller : Datum} (hblank : caller.isBlank = false) :
    s.exchange.caller = caller ↔ s.Binds caller := by
  have hcaller : s.exchange.caller =
      (Stage.guarded s.app.mode none (Route.dispatch s.app.store) _ s.request
        (s.before.entered s.request)).caller := Stage.caller_recovered _
  rw [hcaller, Stage.caller_guarded hblank, (World.Aside.entered _ _).establishes_iff]
  exact ⟨fun ⟨hguarded, hestablishes⟩ => ⟨hguarded, hestablishes, hblank⟩,
    fun h => ⟨h.guarded, h.establishes⟩⟩

variable (hsmall : BodyLimit.exceeds BodyLimit.defaultMax s.request = false)

include hsmall

theorem response_of_small : s.response =
    App.sent s.request (Stage.requestId s.request s.before).1 s.exchange.answer :=
  congrArg Prod.fst (s.app.serve_of_small s.before hsmall)

theorem status_of_small : s.response.status = s.exchange.answer.status := by
  rw [response_of_small hsmall, App.status_sent]

theorem filter_id_of_small : s.response.headers.filter (·.1 = RequestId.header) =
    [(RequestId.header, (Stage.requestId s.request s.before).1)] := by
  rw [response_of_small hsmall]
  exact App.filter_id_sent
    (Stage.plain_recovered (Stage.guarded_answerable s.app.mode s.app.store _ s.request _)) _

theorem journal_of_small : s.after.journal = s.exchange.world.journal ++ [s.entry] := by
  have hafter : s.after = s.exchange.world.reading.2.note s.entry :=
    congrArg Prod.snd (s.app.serve_of_small s.before hsmall)
  rw [hafter, World.note, World.reading_snd]

/-- What a request logs before the entry about it. -/
theorem exists_logsBefore : ∃ earlier,
    s.after.journal = s.before.journal ++ earlier ++ [s.entry] ∧
      s.LogsBefore (Stage.requestId s.request s.before).1 earlier := by
  have hstatus := status_of_small hsmall
  obtain ⟨idsGiven, hentered⟩ := s.before.entered_eq s.request
  have hbefore : (s.before.entered s.request).journal = s.before.journal := by rw [hentered]
  obtain ⟨refreshes, hrefreshes, hlogged⟩ := Stage.guarded_journal s.app.mode s.app.store
    (Stage.requestId s.request s.before).1 s.request (s.before.entered s.request)
  obtain ⟨hnoRequest, hnoFailure⟩ := @Log.Entry.filter_of_isRefresh refreshes fun e he => by
    rw [List.mem_singleton.1 (hrefreshes.subset he)]
    exact FetchOutcome.isRefresh_refreshEntry _
  rw [journal_of_small hsmall]
  rw [hbefore] at hlogged
  rcases hlogged with ⟨hanswer, hworld⟩ | ⟨hanswer, failure, hreports, hworld⟩
  · have hother : s.response.status ≠ 500 := hstatus ▸ hanswer
    refine ⟨refreshes, congrArg (· ++ [s.entry]) hworld, hnoRequest, fun h => absurd h hother,
      fun _ => hnoFailure⟩
  · have hfailed : s.response.status = 500 := hstatus.trans hanswer
    refine ⟨refreshes ++ [failure], ?_, ?_, fun _ => ⟨failure, ?_, hreports.requestId⟩,
      fun h => absurd hfailed h⟩
    · rw [← List.append_assoc]
      exact congrArg (· ++ [s.entry]) hworld
    · rw [List.filter_append, hnoRequest,
        List.filter_cons_of_neg (by simp [hreports.not_request])]
      rfl
    · rw [List.filter_append, hnoFailure,
        List.filter_cons_of_pos (by simp [hreports.isFailure])]
      rfl

/-- The entry about a request says what is to be said of it. -/
theorem logs_entry : s.Logs (Stage.requestId s.request s.before).1 s.entry := by
  have hstatus := status_of_small hsmall
  obtain ⟨hevent, hid, hmethod, hpath, hlogged, huser⟩ := s.value?_entry
  refine ⟨?_, ?_, hid, hmethod, hpath, ?_, fun value => ?_⟩
  · rw [Log.Entry.isAbout_eq hevent]
    exact decide_eq_true rfl
  · rw [hstatus]
    rfl
  · rw [hstatus]
    exact hlogged
  · rw [huser, Datum.value?_unlessBlank_eq_some_iff]
    constructor
    · rintro ⟨hblank, hvalue⟩
      exact ⟨s.exchange.caller, (caller_exchange hblank).1 rfl, hvalue⟩
    · rintro ⟨caller, hbinds, hvalue⟩
      rw [(caller_exchange hbinds.not_blank).2 hbinds]
      exact ⟨hbinds.not_blank, hvalue⟩

omit hsmall in
/-- The calls of a request are made for the user named in the entry about it. -/
theorem callsFor_entry : ∃ calls queries, s.CallsFor s.entry calls queries := by
  obtain ⟨calls, queries, hadds⟩ := s.app.serve_addsFor s.request s.before
  have huser : ∀ c ∈ calls, ∃ caller, s.Binds caller ∧
      s.entry.value? "user_id" = caller.value? ∧ c.IsFor caller fun owner =>
        ∃ exchange ∈ queries.zip s.before.database.answers, Spells caller owner exchange := by
    intro c hc
    obtain ⟨caller, hestablishes, hblank, hfor⟩ := hadds.calls c hc
    have hguarded : Gate.isExempt (Path.canonical s.request.path) = false := by
      by_contra hexempt
      have hcalls := s.app.calls_of_isExempt s.before (Bool.eq_true_of_not_eq_false hexempt)
      rw [hadds.adds.calls_eq, List.append_right_eq_self] at hcalls
      rw [hcalls] at hc
      exact List.not_mem_nil hc
    have hbinds : s.Binds caller := ⟨hguarded, hestablishes, hblank⟩
    obtain ⟨-, -, -, -, -, hnamed⟩ := s.value?_entry
    refine ⟨caller, hbinds, ?_, hfor⟩
    rw [hnamed, (caller_exchange hblank).2 hbinds, Datum.unlessBlank,
      if_neg (Bool.eq_false_iff.1 hblank)]
  refine ⟨calls, queries, hadds, huser, fun hmemory c hc => ?_⟩
  obtain ⟨caller, -, hnamed, howner | ⟨-, exchange, hexchange, id, hquery, -⟩⟩ := huser c hc
  · rw [howner, hnamed]
  · -- in memory no todo is asked of the database
    have hmem : exchange.1 ∈ queries := (List.of_mem_zip hexchange).1
    refine absurd ?_ (hadds.memory hmemory exchange.1 hmem)
    rw [hquery]
    rfl

end Served

/-- Whatever a server is asked and whatever happens to it, what it logs of a request agrees
with what it answers. A request that is too large is not logged. Of any other request there is
one entry, the last that it brings, with the status and the id of the answer and the user for
whom the store was used, and it is written exactly if its level is no less severe than the
threshold. And where the answer says that something has failed, and nowhere else, there is one
entry about that before it, under the same id. -/
theorem requests_logged_once (app : App) (w : World) (events : List App.Event) :
    ∀ s ∈ app.history w events,
      (BodyLimit.exceeds BodyLimit.defaultMax s.request = true →
        s.response.status = 413 ∧ s.after.journal = s.before.journal) ∧
      (BodyLimit.exceeds BodyLimit.defaultMax s.request = false →
        ∃ requestId earlier entry,
          s.response.headers.filter (·.1 = RequestId.header) =
            [(RequestId.header, requestId)] ∧
          s.after.journal = s.before.journal ++ earlier ++ [entry] ∧
          s.LogsBefore requestId earlier ∧ s.Logs requestId entry ∧
          (∃ calls queries, s.CallsFor entry calls queries) ∧
          ∀ (now : Date) (time : String), now.iso? = some time →
            s.app.threshold ∈ Log.Level.all →
            Log.write serviceName s.app.threshold now entry =
              .ok (if Log.Level.all.idxOf entry.level ≤
                Log.Level.all.idxOf s.app.threshold then
                some (entry.line serviceName time) else none)) := by
  intro s _
  refine ⟨fun hlarge => ?_, fun hsmall => ?_⟩
  · have hserve := s.app.serve_of_large s.before hlarge
    have hresponse : s.response =
        App.sent s.request _ (BodyLimit.refusal BodyLimit.defaultMax) :=
      congrArg Prod.fst hserve
    have hafter : s.after = (Stage.requestId s.request s.before).2 := congrArg Prod.snd hserve
    rw [hresponse, App.status_sent, hafter]
    refine ⟨rfl, ?_⟩
    unfold Stage.requestId
    split_ifs <;> rfl
  · obtain ⟨earlier, hjournal, hbefore⟩ := Served.exists_logsBefore hsmall
    have hlevel : s.entry.level ∈ Log.Level.all := Stage.level_mem _
    refine ⟨_, earlier, s.entry, Served.filter_id_of_small hsmall, hjournal, hbefore,
      Served.logs_entry hsmall, Served.callsFor_entry, fun now time htime hthreshold => ?_⟩
    exact @Log.write_eq serviceName s.app.threshold now s.entry time htime hlevel hthreshold

/-! ### Requests and their entries -/

/-- A new todo asked for in a body that is said to be over the limit. -/
def oversized : App.Event :=
  let e := posting "\x7b\x7d"
  { e with
    request := { e.request with headers := ("Content-Length", "65537") :: e.request.headers } }

/-- A new todo asked for whose due date has an offset that no day has. -/
def misdated : App.Event :=
  posting "\x7b\"title\":\"t\",\"due_at\":\"2026-01-01T00:00:00+99:00\"\x7d"

/-- A request that is too large is not logged; one that fails is, after its failure. -/
theorem requests_logged_once_misdated :
    ∃ first second : Served,
      developmentStartup.app.history (.initial 0 (.rejected "")) [oversized, misdated] =
        [first, second] ∧
      first.response.status = 413 ∧ first.after.journal = first.before.journal ∧
      second.response.status = 500 ∧ ∃ requestId earlier entry,
        second.response.headers.filter (·.1 = RequestId.header) =
          [(RequestId.header, requestId)] ∧
        second.after.journal = second.before.journal ++ earlier ++ [entry] ∧
        (∃ failure, earlier.filter (·.isFailure) = [failure] ∧
          failure.value? "request_id" = some (.text requestId)) ∧
        entry.level = .error ∧ entry.value? "user_id" = some (.text "alice") ∧
        Log.write serviceName .info (.ofMillis 0) entry =
          .ok (some (entry.line serviceName "1970-01-01T00:00:00.000Z")) := by
  let first := developmentStartup.app.meet (.initial 0 (.rejected "")) oversized
  let second := developmentStartup.app.meet first.after misdated
  have hhistory : developmentStartup.app.history (.initial 0 (.rejected ""))
      [oversized, misdated] = [first, second] := rfl
  have hfirst : first ∈ developmentStartup.app.history (.initial 0 (.rejected ""))
      [oversized, misdated] := List.mem_cons_self
  have hsecond : second ∈ developmentStartup.app.history (.initial 0 (.rejected ""))
      [oversized, misdated] := List.mem_cons_of_mem _ List.mem_cons_self
  have hfailed : second.response.status = 500 := by decide +kernel
  obtain ⟨hrefused, hunlogged⟩ :=
    (requests_logged_once developmentStartup.app _ _ first hfirst).1 (by decide +kernel)
  obtain ⟨requestId, earlier, entry, hsent, hjournal, hbefore, hlogs, -, hwritten⟩ :=
    (requests_logged_once developmentStartup.app _ _ second hsecond).2 (by decide +kernel)
  have hlevel : entry.level = .error := by rw [hlogs.level_eq, hfailed, if_pos (by decide)]
  have hheader : second.request.header? Gate.devUserHeader = some "alice" := by decide +kernel
  have hbinds : second.Binds (.text "alice") :=
    ⟨by decide +kernel, .trusted hheader (by decide), by decide⟩
  refine ⟨first, second, hhistory, hrefused, hunlogged, hfailed, requestId, earlier, entry,
    hsent, hjournal, hbefore.failure hfailed, hlevel, (hlogs.user _).2 ⟨_, hbinds, rfl⟩, ?_⟩
  have hline :=
    hwritten (.ofMillis 0) "1970-01-01T00:00:00.000Z" (by decide +kernel) (by decide)
  rw [hlevel, if_pos (by decide)] at hline
  exact hline

/-- A listing asked for with a token, for whose subject the resolver gives an empty id. -/
def namelessListing : App.Event := { listing with users := fun _ => .user (.text "") }

/-- The listing as it is served. -/
def namelessListed : Served :=
  tokenStartup.app.meet (.initial 0 (.rejected "")) namelessListing

theorem namelessListed_establishes : namelessListed.Establishes (.text "") := by
  have hlisted : Gate.Establishes (.verified (.rule listing.keys) ⟨.text "i", .text "a"⟩
      (.rule listing.users)) listed.request listed.before (.text "u") := listed_establishes
  cases hlisted with
  | verified hheader hverify hresolve => exact .verified hheader hverify rfl

/-- There are two ways in which the log says something else. A todo that is written back names
its owner as its row does, and not as the log does; and a caller with an empty id is bound and
not named. -/
theorem request_log_differs :
    (∃ s ∈ trustingStartup.app.history (.initial 0 (.rejected "")) [retitling],
      (s.after.journal.filter (·.isAbout "request")).map (·.value? "user_id") =
          [some (.text capitalId)] ∧
        s.after.calls.map Store.Call.owner = [.text capitalId, .text smallId] ∧
        smallId ≠ capitalId) ∧
    ∃ s ∈ tokenStartup.app.history (.initial 0 (.rejected "")) [namelessListing],
      Gate.isExempt (Path.canonical s.request.path) = false ∧ s.Establishes (.text "") ∧
        ∃ earlier entry, s.after.journal = s.before.journal ++ earlier ++ [entry] ∧
          entry.isAbout "request" = true ∧ entry.value? "user_id" = none := by
  refine ⟨⟨_, List.mem_cons_self, ?_, ?_, ?_⟩,
    ⟨namelessListed, List.mem_cons_self, ?_, namelessListed_establishes, ?_⟩⟩
  · decide +kernel
  · decide +kernel
  · decide +kernel
  · decide +kernel
  · have hsmall : BodyLimit.exceeds BodyLimit.defaultMax namelessListed.request = false := rfl
    obtain ⟨earlier, hjournal, -⟩ := Served.exists_logsBefore hsmall
    have hlogs := Served.logs_entry hsmall
    refine ⟨earlier, _, hjournal, hlogs.event, ?_⟩
    rw [Option.eq_none_iff_forall_ne_some]
    intro value hvalue
    obtain ⟨caller, hbinds, -⟩ := (hlogs.user value).1 hvalue
    -- the only caller is the one whose id is empty
    have hscreen : (Gate.screen namelessListed.app.mode none namelessListed.request ""
        namelessListed.before).1 = .caller caller :=
      Gate.screen_fst_eq_caller_iff.2 ⟨hbinds.guarded, hbinds.establishes⟩
    rw [Gate.screen_fst_eq_caller_iff.2 ⟨hbinds.guarded, namelessListed_establishes⟩]
      at hscreen
    have hblank := hbinds.not_blank
    rw [← Gate.Admission.caller.inj hscreen] at hblank
    exact absurd hblank (by decide)

end TodoServer
