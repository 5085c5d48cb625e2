/-
What comes of a request by what the database says.

A request of a caller who is known takes the turns of the action that it asks for, after what
the gate has asked about users. What the database says in one of these turns can end the
request, and it ends alike whatever the action and whatever the turn: what the client can be
told, the client is told and nothing is logged of it; of anything else the client is told that
something has failed, and the database's message is logged, once.

* `Store.Program.run_database` — an operation over the database is a conversation with it;
* `Served.turns`, `Served.Sends` — the turns of a request, and that they are what is sent about
  todos;
* `Served.IsTold`, `Served.FailsWith` — the two ways in which a request ends that goes wrong;
* `Served.Heeds` — what comes of what the database says, statement by statement;
* `database_outcomes_heeded` — every request of a known caller, and every sequence of outcomes.
-/
import TodoServer.Proofs.Server.Bodies
import TodoServer.Proofs.Sql.Parameters
import TodoServer.Proofs.Todo.Conversations

namespace TodoServer

open Http Sql

/-! ### The database -/

namespace Store.Program

variable {α : Type}

/-- An operation over the database has the result that it has over the table, and leaves the
conversation as it does there. -/
theorem run_database (p : Program α) (w : World) :
    (p.run (World.store .database) w).1 = (p.run TodoTable.answer w.database).1 ∧
      (p.run (World.store .database) w).2.database =
        (p.run TodoTable.answer w.database).2 := by
  induction p generalizing w with
  | done result => exact ⟨rfl, rfl⟩
  | call c next ih => exact ih _ _

end Store.Program

/-- An identifier is not blank. -/
theorem TodoTable.isBlank_of_isKey {d : Datum} (h : isKey d = true) : d.isBlank = false := by
  rw [← Bool.not_eq_true]
  intro hblank
  have hother : isKey d = false := by
    rcases d with _ | (_ | value | n | t | items | members) | date
    · decide +kernel
    · decide +kernel
    · obtain rfl : value = false := by simpa [Datum.isBlank] using hblank
      decide +kernel
    · obtain rfl : n = .finite 0 := of_decide_eq_true hblank
      decide +kernel
    · obtain rfl : t = "" := Text.isEmpty_iff.1 hblank
      decide +kernel
    · cases hblank
    · cases hblank
    · cases hblank
  rw [hother] at h
  cases h

/-- A listing is asked for by the parameters of a request. -/
theorem Route.listing_of_asked {r : Request} {input : ListInput}
    (h : asked r = .ok (.list input)) : Todos.listing r = .ok (.list input) := by
  unfold asked at h
  rcases hroute : Route.ofPath? r.path with _ | _ | _ | id | id <;> simp only [hroute] at h
  · cases h
  · cases h
  · split_ifs at h
    · unfold Todos.creation at h
      split at h <;> cases h
    · exact h
  · split_ifs at h
    · cases h
    · unfold Todos.change at h
      split at h <;> cases h
    · cases h
  · split_ifs at h
    unfold Todos.statusChange at h
    split at h <;> cases h

/-- A listing that is asked for has a size that is a number. -/
theorem Route.hasWords_of_asked {r : Request} {input : ListInput}
    (h : asked r = .ok (.list input)) : input.size.hasWords = true := by
  obtain ⟨status, -, hinput⟩ := map_eq_ok_iff.1 (listing_of_asked h)
  cases hinput
  rfl

namespace Served

variable (s : Served) (caller : Datum)

/-- The turns of a request, in the conversation that the gate has left. -/
def turns : List Turn :=
  match Route.asked s.request with
  | .error _ => []
  | .ok a => if caller.isBlank then [] else (a.program caller).turns s.admitted.database

/-- What a request sends are questions about users and then the queries of its turns, which are
about todos. They are answered in the order of the answers to come. -/
structure Sends (users : List Query) : Prop where
  ofUsers : ∀ q ∈ users, q.statement.table = .users
  ofTodos : ∀ t ∈ s.turns caller, t.query.statement.table = .todos
  sent : s.after.database.sent =
    s.before.database.sent ++ users ++ (s.turns caller).map Turn.query
  answered : ∀ (i : ℕ) (t : Turn), (s.turns caller)[i]? = some t →
    t.outcome = s.before.database.answers.getD (users.length + i) (.rows [] (some (.finite 0)))

/-- The client is told what is wrong, and nothing has failed: but for the entry about the
request, nothing is logged other than refreshes of the keys. -/
structure IsTold (status : Int) (code : ErrorCode) (message : Text) : Prop where
  response_eq : s.response = App.sent s.request s.requestId (.error status code message)
  journal_eq : ∃ refreshes : List Log.Entry, (∀ e ∈ refreshes, e.IsRefresh) ∧
    s.after.journal = s.before.journal ++ refreshes ++ [s.entry]

/-- The client is told that something has failed, and what has failed is logged, in one entry
before that about the request. -/
structure FailsWith (message : Text) : Prop where
  response_eq : s.response =
    App.sent s.request s.requestId (.error 500 .internalError "internal server error")
  journal_eq : ∃ (refreshes : List Log.Entry) (failure : Log.Entry),
    (∀ e ∈ refreshes, e.IsRefresh) ∧
    failure.level = .error ∧ failure.value? "event" = some (.text "unhandled_error") ∧
    failure.value? "message" = some (.text message) ∧
    s.after.journal = s.before.journal ++ refreshes ++ [failure, s.entry]

/-- What comes of a request by what the database says in one of its turns. -/
structure Heeds (t : Turn) : Prop where
  unknownOwner {message : Text} : t.query.statement.form = .insert →
    t.outcome = .failed message (.text "23503") → s.IsTold 401 .unauthorized "unknown user"
  /-- A code of another kind, or that code where nothing is inserted, means nothing. -/
  failed {message : Text} {code : Datum} : t.outcome = .failed message code →
    (t.query.statement.form = .insert → code ≠ .text "23503") → s.FailsWith message
  notInserted {touched : Option Number} : t.query.statement.form = .insert →
    t.outcome = .rows [] touched → s.FailsWith "insert into todos returned no row"
  notFound {touched : Option Number} :
    t.query.statement.form = .select ∨ t.query.statement.form = .update →
    t.outcome = .rows [] touched → s.IsTold 404 .notFound "todo not found"
  /-- No row has been touched, or nothing is known of that. -/
  notDeleted {rows : List Row} {touched : Option Number} : t.query.statement.form = .delete →
    t.outcome = .rows rows touched → (∀ n, touched = some n → (Number.finite 0).lt n = false) →
    s.IsTold 404 .notFound "todo not found"
  /-- The message names the status of one such row. -/
  unknownStatus {rows : List Row} {touched : Option Number} {row : Row} :
    t.outcome = .rows rows touched → row ∈ t.call.rowsRead rows →
    (∀ known : Status, row.get .status ≠ .text known.name) →
    ∃ bad ∈ t.call.rowsRead rows, (∀ known : Status, bad.get .status ≠ .text known.name) ∧
      s.FailsWith (statusFault (bad.get .status)).message

/-! ### What is sent -/

/-- The gate asks about users at most. -/
theorem admitted_database :
    ∃ users, s.admitted.database = s.before.database.after users ∧
      ∀ q ∈ users, q.statement.table = .users := by
  obtain ⟨users, hadds, husers⟩ :=
    Gate.screen_adds s.app.mode none s.request s.requestId (s.before.entered s.request)
  refine ⟨users, ?_, husers⟩
  rw [admitted, hadds.database_eq, (World.Aside.entered s.before s.request).database_eq]

variable {s caller} {a : Action} {t : Turn}

theorem turns_of_given {given : Response} (hasked : Route.asked s.request = .error given) :
    s.turns caller = [] := by
  rw [turns, hasked]

theorem turns_of_asked (hasked : Route.asked s.request = .ok a)
    (hblank : caller.isBlank = false) :
    s.turns caller = (a.program caller).turns s.admitted.database := by
  rw [turns, hasked]
  exact if_neg (Bool.eq_false_iff.1 hblank)

/-- Where there is a turn, an action is asked for, and there is somebody to do it for. -/
theorem exists_asked_of_mem (ht : t ∈ s.turns caller) :
    ∃ a, Route.asked s.request = .ok a ∧ caller.isBlank = false ∧
      s.turns caller = (a.program caller).turns s.admitted.database := by
  have hturns := ht
  rw [turns] at hturns
  rcases hasked : Route.asked s.request with given | a <;> simp only [hasked] at hturns
  · cases hturns
  · have hblank : caller.isBlank = false := by
      rw [Bool.eq_false_iff]
      intro hblank
      rw [if_pos hblank] at hturns
      cases hturns
    exact ⟨a, rfl, hblank, turns_of_asked hasked hblank⟩

/-- A request of a caller takes the turns that its action can take. -/
theorem takes_turns (hasked : Route.asked s.request = .ok a) :
    a.Takes caller (s.turns caller) := by
  by_cases hblank : caller.isBlank = true
  · -- somebody without an id has no identifier
    have hkeys : TodoTable.areKeys (a.keys caller) ≠ .ok true := by
      intro hkeys
      have hkey := (TodoTable.areKeys_eq_true_iff.1 hkeys caller (a.mem_keys caller)).2
      rw [TodoTable.isBlank_of_isKey hkey] at hblank
      cases hblank
    rw [turns, hasked]
    simp only [hblank, if_true]
    exact .nothing (.keys hkeys)
  · rw [turns_of_asked hasked (Bool.eq_false_iff.2 hblank)]
    exact a.takes_turns caller _

variable (hguarded : s.request.IsGuarded) (hcaller : s.Establishes caller)

include hguarded hcaller

theorem after_database (hstore : s.app.store = .database) :
    s.after.database = s.admitted.database.after ((s.turns caller).map Turn.query) := by
  have hafter := (response_of_establishes hguarded hcaller).2.database_eq
  rw [hstore] at hafter
  rw [hafter, turns]
  rcases Route.asked s.request with given | a
  · exact (Session.after_nil _).symm
  · simp only [Route.perform]
    by_cases hblank : caller.isBlank = true
    · rw [Action.handle_of_blank hblank, if_pos hblank]
      exact (Session.after_nil _).symm
    · rw [Action.handle_of_not_blank (Bool.eq_false_iff.2 hblank), if_neg hblank,
        ← Store.Program.run_snd_eq]
      exact (Store.Program.run_database _ _).2

/-- What is sent of a request are the queries of its turns, after those of the gate. -/
theorem exists_sends (hstore : s.app.store = .database) : ∃ users, s.Sends caller users := by
  obtain ⟨users, hadmitted, husers⟩ := s.admitted_database
  have hafter := after_database hguarded hcaller hstore
  rw [hadmitted] at hafter
  refine ⟨users, husers, fun t ht => ?_, congrArg Session.sent hafter, fun i t ht => ?_⟩
  · obtain ⟨a, -, -, hturns⟩ := exists_asked_of_mem ht
    rw [hturns] at ht
    exact (TodoTable.query_owner? (Store.Program.query_turns ht)).1
  · -- the questions of the gate have used up the first answers
    obtain ⟨a, -, -, hturns⟩ := exists_asked_of_mem (List.mem_of_getElem? ht)
    rw [hturns] at ht
    rw [Store.Program.outcome_turns ht, hadmitted]
    simp only [Session.after, List.getD_eq_getElem?_getD, List.getElem?_drop]

/-! ### How a request ends -/

omit hguarded hcaller in
theorem perform_journal :
    (Route.perform (World.store s.app.store) caller s.admitted
      (Route.asked s.request)).2.journal = s.admitted.journal := by
  rw [← Route.dispatch_eq]
  exact Route.dispatch_journal s.app.store s.request caller s.admitted

theorem admitted_journal :
    ∃ refreshes : List Log.Entry, (∀ e ∈ refreshes, e.IsRefresh) ∧
      s.admitted.journal = s.before.journal ++ refreshes := by
  obtain ⟨idsGiven, hentered⟩ := s.before.entered_eq s.request
  obtain ⟨refreshes, hrefreshes, ⟨-, hjournal⟩ | ⟨hfailed, -⟩⟩ :=
    Gate.screen_journal s.app.mode s.request s.requestId (s.before.entered s.request)
  · refine ⟨refreshes, fun e he => ?_, ?_⟩
    · rw [List.mem_singleton.1 (hrefreshes.subset he)]
      exact FetchOutcome.isRefresh_refreshEntry _
    · rw [admitted, hjournal, hentered]
  · rw [screen_of_establishes hguarded hcaller] at hfailed
    cases hfailed

section

variable {fault : Fault} (hfails : (Route.perform (World.store s.app.store) caller s.admitted
  (Route.asked s.request)).1 = .error fault)

include hfails

theorem isTold_of_perform {e : ClientError} (he : fault = .api e) {status : Int}
    {code : ErrorCode} {message : Text}
    (hanswer : Stage.apiResponse e = .error status code message) :
    s.IsTold status code message := by
  subst he
  obtain ⟨refreshes, hrefreshes, hjournal⟩ := admitted_journal hguarded hcaller
  constructor
  · rw [(response_of_establishes hguarded hcaller).1, hfails, ← hanswer]
    rfl
  · refine ⟨refreshes, hrefreshes, ?_⟩
    rw [journal_of_small hguarded.small, exchange_of_establishes hguarded hcaller, hfails,
      ← hjournal, ← perform_journal]
    rfl

theorem failsWith_of_perform (hother : ∀ e, fault ≠ .api e) : s.FailsWith fault.message := by
  obtain ⟨refreshes, hrefreshes, hjournal⟩ := admitted_journal hguarded hcaller
  have hrecovered : ∀ w, Stage.recovered s.requestId s.request ⟨.error fault, caller, w⟩ =
      ⟨.internalError, caller, w.note (Stage.faultEntry s.requestId s.request fault)⟩ := by
    intro w
    cases fault with
    | api e => exact absurd rfl (hother e)
    | _ => rfl
  constructor
  · rw [response_of_small hguarded.small, exchange_of_establishes hguarded hcaller, hfails,
      hrecovered]
    rfl
  · refine ⟨refreshes, Stage.faultEntry s.requestId s.request fault, hrefreshes, rfl, rfl,
      rfl, ?_⟩
    rw [journal_of_small hguarded.small, exchange_of_establishes hguarded hcaller, hfails,
      hrecovered, World.note, perform_journal, hjournal]
    exact List.append_assoc _ _ _

end

/-! ### What comes of an outcome -/

omit hguarded hcaller in
/-- A request comes to what one of its turns ends it with. -/
theorem perform_of_turn (hstore : s.app.store = .database) {t : Turn} (ht : t ∈ s.turns caller)
    {fault : Fault} (hends : t.call.ends (t.call.read t.outcome) = some fault) :
    (Route.perform (World.store s.app.store) caller s.admitted (Route.asked s.request)).1 =
      .error fault := by
  obtain ⟨a, hasked, hblank, hturns⟩ := exists_asked_of_mem ht
  rw [hturns] at ht
  have hrun :=
    Store.Program.run_of_turn (a.program_reports caller) (a.program_misses caller) ht hends
  rw [hasked, hstore, Route.perform, Action.handle_of_not_blank hblank]
  simp only [(Store.Program.run_database _ _).1, hrun]
  rfl

theorem heeds (hstore : s.app.store = .database) {t : Turn} (ht : t ∈ s.turns caller) :
    s.Heeds t := by
  -- whichever way the turn ends the request, the request ends that way
  have htold : ∀ e, t.call.ends (t.call.read t.outcome) = some (.api e) →
      ∀ {status : Int} {code : ErrorCode} {message : Text},
        Stage.apiResponse e = .error status code message → s.IsTold status code message :=
    fun _ hends => isTold_of_perform hguarded hcaller (perform_of_turn hstore ht hends) rfl
  have hfails : ∀ fault, t.call.ends (t.call.read t.outcome) = some fault →
      (∀ e, fault ≠ .api e) → s.FailsWith fault.message :=
    fun _ hends => failsWith_of_perform hguarded hcaller (perform_of_turn hstore ht hends)
  obtain ⟨a, -, -, hturns⟩ := exists_asked_of_mem ht
  rw [hturns] at ht
  have hquery := Store.Program.query_turns ht
  have hform := Store.Call.form_query hquery
  constructor
  case unknownOwner =>
    intro message hinsert houtcome
    rw [hform] at hinsert
    refine htold _ ?_ (Stage.apiResponse_unauthorized _)
    rw [houtcome]
    exact Store.Call.ends_unknownOwner hinsert
  case failed =>
    intro message code houtcome hother
    rw [hform] at hother
    refine hfails (.raised message) ?_ fun _ => Fault.noConfusion
    rw [houtcome]
    exact Store.Call.ends_failed hother
  case notInserted =>
    intro touched hinsert houtcome
    rw [hform] at hinsert
    refine hfails .noRowInserted ?_ fun _ => Fault.noConfusion
    rw [houtcome]
    exact Store.Call.ends_notInserted hinsert
  case notFound =>
    intro touched hasks houtcome
    rw [hform] at hasks
    refine htold _ ?_ (Stage.apiResponse_notFound _)
    rw [houtcome]
    exact Store.Call.ends_notFound hasks
  case notDeleted =>
    intro rows touched hdelete houtcome hnone
    rw [hform] at hdelete
    refine htold _ ?_ (Stage.apiResponse_notFound _)
    rw [houtcome]
    exact Store.Call.ends_notDeleted hdelete hnone
  case unknownStatus =>
    intro rows touched row houtcome hrow hstatus
    obtain ⟨bad, hbad, hnone, hends⟩ :=
      @Store.Call.exists_ends_eq_statusFault _ _ rows touched row hquery
      hrow (Status.ofDatum?_eq_none_iff.2 hstatus)
    refine ⟨bad, hbad, Status.ofDatum?_eq_none_iff.1 hnone, hfails _ ?_ (statusFault_ne_api _)⟩
    rw [houtcome]
    exact hends

end Served

/-- A request of a caller who is known, to an app that keeps its todos in the database,
whatever the database says. What it sends about todos are the queries of its turns, which are
turns that its action can take: two at most, and one at most that changes a todo. What the
database says in any of them comes to what it is to come to, whatever the action. A todo is
written back only after it has been found, and for input that breaks no rule. And an action
does ask the database whose values are identifiers where they have to be, and that breaks no
rule beforehand. -/
theorem database_outcomes_heeded {s : Served} {caller : Datum}
    (hstore : s.app.store = .database) (hguarded : s.request.IsGuarded)
    (hcaller : s.Establishes caller) :
    let turns := s.turns caller
    (∃ users, s.Sends caller users) ∧
    (∀ a, Route.asked s.request = .ok a → a.Takes caller turns) ∧
    (∀ t ∈ turns, s.Heeds t) ∧
    (∀ t ∈ turns, t.query.statement.form = .update →
      ∃ a id row rest touched todo, Route.asked s.request = .ok a ∧
        a.keys caller = [caller, id] ∧
        turns = [⟨.find caller id, TodoTable.findQuery caller id, .rows (row :: rest) touched⟩,
          t] ∧
        Todo.ofRow row = .ok todo ∧ ∀ message, ¬a.Breaks (fun _ => True) message) ∧
    turns.length ≤ 2 ∧ turns.countP (fun t => t.query.statement.isWrite) ≤ 1 ∧
    ∀ a, Route.asked s.request = .ok a → TodoTable.areKeys (a.keys caller) = .ok true →
      (∀ message, ¬a.Breaks (fun _ => False) message) → turns ≠ [] := by
  intro turns
  have htakes : ∀ a, Route.asked s.request = .ok a → a.Takes caller turns :=
    fun a => Served.takes_turns
  refine ⟨Served.exists_sends hguarded hcaller hstore, htakes,
    fun t => Served.heeds hguarded hcaller hstore,
    fun t ht hupdate => ?_, ?_, ?_, fun a hasked hkeys hbreaks hnone => ?_⟩
  · obtain ⟨a, hasked, -, -⟩ := Served.exists_asked_of_mem ht
    obtain ⟨id, row, rest, touched, todo, h⟩ := (htakes a hasked).of_update ht hupdate
    exact ⟨a, id, row, rest, touched, todo, hasked, h⟩
  · rcases hasked : Route.asked s.request with given | a
    · rw [show turns = [] from Served.turns_of_given hasked]
      exact Nat.zero_le 2
    · exact (htakes a hasked).length_le
  · rcases hasked : Route.asked s.request with given | a
    · rw [show turns = [] from Served.turns_of_given hasked]
      exact Nat.zero_le 1
    · exact (htakes a hasked).countP_isWrite_le
  · -- nothing is sent only where the ids are no keys, a rule is broken before the store is
    -- asked, or the page size is nothing that a number says
    have hsilent := htakes a hasked
    rw [hnone] at hsilent
    cases hsilent.silent with
    | keys h => exact h hkeys
    | breaks h => exact hbreaks _ h
    | size h =>
      rw [Route.hasWords_of_asked hasked] at h
      cases h

/-! ### Three requests -/

/-- A request of a user, and what the database says to it. -/
def outcomesServed (method : String) (path : Text) (body : Option (List (List UInt8)))
    (answers : List Outcome) : Served :=
  trustingStartup.app.meet (.initial 0 (.rejected ""))
    { posting "" with
      request := { method, path, query := [], headers := [("X-User-ID", smallId)], body }
      answers }

theorem outcomesServed_establishes (method : String) (path : Text)
    (body : Option (List (List UInt8)))
    (answers : List Outcome) : (outcomesServed method path body answers).Establishes
      (.text smallId) := by
  have hheader : (outcomesServed "" "" none []).request.header? Gate.devUserHeader =
      some smallId := by
    decide +kernel
  exact .trusted hheader (by decide)

/-- The path of a todo. -/
def someTodoPath : Text := "/api/v1/todos/aaaaaaaa-aaaa-4aaa-8aaa-aaaaaaaaaaaa"

/-- An owner is missing where a todo is inserted; the same code, as a number, comes where a
todo that has been found is written back; and of a removal nothing is known. -/
theorem database_outcomes_heeded_failures :
    let inserted :=
      outcomesServed "POST" "/api/v1/todos" (some [titledBody]) [.failed "m" (.text "23503")]
    let updated := outcomesServed "PUT" someTodoPath (some [titledBody])
      [.rows [smallRow] none, .failed "m" (.ofInt 23503)]
    let deleted := outcomesServed "DELETE" someTodoPath none [.rows [] none]
    inserted.IsTold 401 .unauthorized "unknown user" ∧ updated.FailsWith "m" ∧
      (updated.turns (.text smallId)).length = 2 ∧
        deleted.IsTold 404 .notFound "todo not found" := by
  intro inserted updated deleted
  have hinserted : inserted.request.IsGuarded := ⟨by decide +kernel, by decide +kernel⟩
  have hupdated : updated.request.IsGuarded := ⟨by decide +kernel, by decide +kernel⟩
  have hdeleted : deleted.request.IsGuarded := ⟨by decide +kernel, by decide +kernel⟩
  obtain ⟨-, -, hinserts, -⟩ :=
    database_outcomes_heeded rfl hinserted (outcomesServed_establishes ..)
  obtain ⟨-, -, hupdates, -⟩ :=
    database_outcomes_heeded rfl hupdated (outcomesServed_establishes ..)
  obtain ⟨-, -, hdeletes, -⟩ :=
    database_outcomes_heeded rfl hdeleted (outcomesServed_establishes ..)
  refine ⟨?_, ?_, by decide +kernel, ?_⟩
  · obtain ⟨t, ht, hform, houtcome⟩ : ∃ t ∈ inserted.turns (.text smallId),
        t.query.statement.form = .insert ∧
          t.outcome = .failed "m" (.text "23503") := by decide +kernel
    exact (hinserts t ht).unknownOwner hform houtcome
  · obtain ⟨t, ht, hform, houtcome⟩ : ∃ t ∈ updated.turns (.text smallId),
        t.query.statement.form = .update ∧
          t.outcome = .failed "m" (.ofInt 23503) := by decide +kernel
    refine (hupdates t ht).failed houtcome fun hinsert => ?_
    rw [hform] at hinsert
    cases hinsert
  · obtain ⟨t, ht, hform, houtcome⟩ : ∃ t ∈ deleted.turns (.text smallId),
        t.query.statement.form = .delete ∧ t.outcome = .rows [] none := by decide +kernel
    exact (hdeletes t ht).notDeleted hform houtcome nofun

end TodoServer
