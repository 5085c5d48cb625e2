/-
Whose todos a request is about.

Whatever is asked of a server and whatever happens between, a request reaches the store only on
behalf of a caller that its own evidence establishes at that moment: the header that is trusted
in development, or the subject of its verified bearer token. Where there is such evidence, the
handler of the route runs for that caller. What else is in the request has no say in it, and
neither have the requests before.

The owner of a call is the caller as established, with one exception that the database makes: a
todo that is written back names the owner in the spelling of the row that it was read from.

* `Route.dispatch_runsFor` — what the handlers do to the world, they do for their caller;
* `AddsFor`, `App.serve_addsFor` — what a request adds to the world, and the evidence for it;
* `Served.AnsweredFor`, `Served.answeredFor` — a request that is answered for a caller;
* `calls_made_for_established_caller` — both for every request of every run of every app.
-/
import TodoServer.Proofs.Path.Guarded
import TodoServer.Proofs.Server.Requests
import TodoServer.Proofs.Server.Serving
import TodoServer.Proofs.Token.Decision

namespace TodoServer

open Http

/-! ### Handlers -/

/-- A world is left as it is, or has an operation run in it for a caller who is not blank. -/
def RunsFor (kind : StoreKind) (caller : Datum) (w w' : World) : Prop :=
  w' = w ∨ caller.isBlank = false ∧ ∃ (α : Type) (p : Store.Program α),
    (∀ owners, p.MadeFor caller owners) ∧ w' = (p.run (World.store kind) w).2

/-- Whatever its path and method, a request is handled without the store or for its caller. -/
theorem Route.dispatch_runsFor (kind : StoreKind) (r : Request) (caller : Datum) (w : World) :
    RunsFor kind caller w (Route.dispatch kind r caller w).2 := by
  rw [Route.dispatch_eq]
  rcases Route.asked r with response | a
  · exact Or.inl rfl
  · by_cases hblank : caller.isBlank = true
    · show RunsFor kind caller w (a.handle (World.store kind) caller w).2
      rw [Action.handle_of_blank hblank]
      exact Or.inl rfl
    · have hsome := Bool.eq_false_iff.2 hblank
      show RunsFor kind caller w (a.handle (World.store kind) caller w).2
      rw [Action.handle_of_not_blank hsome]
      exact Or.inr ⟨hsome, _, a.program caller, fun _ => a.program_madeFor caller, rfl⟩

/-- What is done for a caller: the queries are those of the calls, and the calls are made for
the caller. -/
theorem RunsFor.adds {kind : StoreKind} {caller : Datum} {w w' : World}
    (h : RunsFor kind caller w w') :
    ∃ calls queries, w.Adds w' calls queries ∧
      (∀ q ∈ queries, q.statement.table = .todos ∧ ∃ c ∈ calls, q.owner? = some c.owner) ∧
      (kind = .memory → queries = []) ∧
      ∀ c ∈ calls, caller.isBlank = false ∧ c.IsFor caller fun owner =>
        ∃ exchange ∈ queries.zip w.database.answers, Spells caller owner exchange := by
  rcases h with rfl | ⟨hblank, α, p, hmade, rfl⟩
  · exact ⟨[], [], .refl w', by simp, fun _ => rfl, by simp⟩
  · obtain ⟨calls, queries, hadds, hqueries, hmemory, hcalls⟩ :=
      Store.Program.run_adds kind p w
    refine ⟨calls, queries, hadds, hqueries, hmemory, fun c hc => ⟨hblank, ?_⟩⟩
    -- the owners that the program can come to know: its caller, and what the database calls it
    have howners := hcalls caller
      (fun owner => owner = caller ∨
        ∃ exchange ∈ queries.zip w.database.answers, Spells caller owner exchange)
      (hmade _) (Or.inl rfl) fun exchange hexchange owner hspells =>
        Or.inr ⟨exchange, hexchange, hspells⟩
    rcases howners c hc with howner | ⟨hupdate, howner | hspelled⟩
    · exact Or.inl howner
    · exact Or.inl howner
    · exact Or.inr ⟨hupdate, hspelled⟩

/-! ### What requests add -/

/-- What a request adds to the world: the queries about todos are those of the calls to the
store, and the calls are made for a caller that there is evidence for. A call that writes a
todo back may name the caller as the database has done in this request. -/
structure AddsFor (mode : Gate.Mode) (kind : StoreKind) (r : Request) (w w' : World)
    (calls : List Store.Call) (queries : List Sql.Query) : Prop where
  adds : w.Adds w' calls queries
  todos : ∀ q ∈ queries, q.statement.table = .todos → ∃ c ∈ calls, q.owner? = some c.owner
  memory : kind = .memory → ∀ q ∈ queries, q.statement.table ≠ .todos
  calls : ∀ c ∈ calls, ∃ caller, Gate.Establishes mode r w caller ∧ caller.isBlank = false ∧
    c.IsFor caller fun owner =>
      ∃ exchange ∈ queries.zip w.database.answers, Spells caller owner exchange

namespace AddsFor

variable {mode : Gate.Mode} {kind : StoreKind} {r : Request} {w w' w₁ w₂ : World}
  {calls : List Store.Call} {queries : List Sql.Query}

/-- Without calls there are no queries about todos. -/
theorem of_adds (hadds : w.Adds w' [] queries)
    (husers : ∀ q ∈ queries, q.statement.table ≠ .todos) :
    AddsFor mode kind r w w' [] queries :=
  ⟨hadds, fun q hq htable => absurd htable (husers q hq), fun _ => husers, by simp⟩

/-- What the stopwatch, the ids and the log have changed before and after is not counted. -/
theorem of_aside (haside : w.Aside w₁) (h : AddsFor mode kind r w₁ w₂ calls queries)
    (haside' : w₂.Aside w') : AddsFor mode kind r w w' calls queries := by
  refine ⟨?_, h.todos, h.memory, ?_⟩
  · have hadds := (haside.adds.trans h.adds).trans haside'.adds
    simpa using hadds
  · intro c hc
    obtain ⟨caller, hcaller, hblank, hfor⟩ := h.calls c hc
    rw [haside.establishes_iff] at hcaller
    rw [haside.database_eq] at hfor
    exact ⟨caller, hcaller, hblank, hfor⟩

/-- What is done for a caller, after the gate has asked about users. -/
theorem of_runsFor {caller : Datum} {asked : List Sql.Query} (hasked : w.Adds w₁ [] asked)
    (husers : ∀ q ∈ asked, q.statement.table ≠ .todos)
    (hcaller : caller.isBlank = false → Gate.Establishes mode r w caller)
    (h : RunsFor kind caller w₁ w') : ∃ calls queries,
      AddsFor mode kind r w w' calls queries := by
  obtain ⟨calls, queries, hadds, hqueries, hmemory, hcalls⟩ := h.adds
  refine ⟨calls, asked ++ queries, ?_, ?_, ?_, ?_⟩
  · exact hasked.trans hadds
  · intro q hq htable
    rcases List.mem_append.1 hq with hq | hq
    · exact absurd htable (husers q hq)
    · exact (hqueries q hq).2
  · intro hkind q hq
    rw [hmemory hkind, List.append_nil] at hq
    exact husers q hq
  · intro c hc
    obtain ⟨hblank, hfor⟩ := hcalls c hc
    refine ⟨caller, hcaller hblank, hblank, ?_⟩
    rcases hfor with howner | ⟨hupdate, exchange, hexchange, hspells⟩
    · exact Or.inl howner
    · refine Or.inr ⟨hupdate, exchange, ?_, hspells⟩
      -- the gate's queries have been answered first
      rw [append_zip, ← hasked.answers_eq]
      exact List.mem_append_right _ hexchange

end AddsFor

/-- What a request adds at the gate and behind it. -/
theorem Stage.guarded_addsFor (mode : Gate.Mode) (kind : StoreKind) (requestId : String)
    (r : Request) (w : World) :
    ∃ calls queries, AddsFor mode kind r w
      (Stage.guarded mode none (Route.dispatch kind) requestId r w).world calls queries := by
  obtain ⟨asked, hasked, husers⟩ := Gate.screen_adds mode none r requestId w
  have htodos : ∀ q ∈ asked, q.statement.table ≠ .todos := fun q hq => by
    rw [husers q hq]
    exact Sql.Table.noConfusion
  unfold Stage.guarded
  rcases hresult : Gate.screen mode none r requestId w with
    ⟨_ | caller | response | fault, w'⟩ <;>
    rw [hresult] at hasked
  · -- no caller, and nobody is blank
    exact AddsFor.of_runsFor hasked htodos (fun hblank => absurd hblank (by decide))
      (Route.dispatch_runsFor kind r .absent w')
  · have hcaller := (Gate.screen_fst_eq_caller_iff.1 (congrArg Prod.fst hresult)).2
    exact AddsFor.of_runsFor hasked htodos (fun _ => hcaller)
      (Route.dispatch_runsFor kind r caller w')
  · exact ⟨[], asked, .of_adds hasked htodos⟩
  · exact ⟨[], asked, .of_adds hasked htodos⟩

/-- What a request adds to the world, it adds for the caller that there is evidence for. -/
theorem App.serve_addsFor (app : App) (r : Request) (w : World) :
    ∃ calls queries, AddsFor app.mode app.store r w (app.serve r w).2 calls queries := by
  rcases app.serve_cases r w with hserve | ⟨requestId, w', haside, hserve⟩
  · exact ⟨[], [], .of_adds hserve.adds (by simp)⟩
  · obtain ⟨calls, queries, hadds⟩ :=
      Stage.guarded_addsFor app.mode app.store requestId r w'
    exact ⟨calls, queries, hadds.of_aside haside ((App.recovered_aside r _).trans hserve)⟩

/-! ### Answers -/

namespace Served

variable (s : Served)

/-- The request is answered on its route for a caller: the handlers run for the caller in the
world that the gate leaves, and the answer and the world after it are theirs. -/
def AnsweredFor (caller : Datum) : Prop :=
  ∃ (requestId : String) (w : World), s.before.Aside w ∧
    let asked := (Gate.screen s.app.mode none s.request requestId w).2
    let handled := Route.dispatch s.app.store s.request caller asked
    let e := Stage.recovered requestId s.request ⟨handled.1, caller, handled.2⟩
    s.response = App.sent s.request requestId e.answer ∧ e.world.Aside s.after

/-- Where there is evidence for a caller, a request on a route about todos is answered for
it. -/
theorem answeredFor {caller : Datum} {route : Route} (hcaller : s.Establishes caller)
    (hroute : Route.ofPath? s.request.path = some route) (htodo : route ≠ .health)
    (hsize : BodyLimit.exceeds BodyLimit.defaultMax s.request = false) :
    s.AnsweredFor caller := by
  have hregistered := Route.ofPath?_eq_some_iff.1 hroute
  obtain ⟨requestId, w, haside, hanswer, hafter⟩ :=
    s.app.serve_within s.request s.before hsize
  have hscreen : (Gate.screen s.app.mode none s.request requestId w).1 = .caller caller :=
    Gate.screen_fst_eq_caller_iff.2
      ⟨hregistered.not_isExempt htodo, haside.establishes_iff.2 hcaller⟩
  have hguarded : s.app.guarded s.request w requestId =
      Stage.recovered requestId s.request
        ⟨(Route.dispatch s.app.store s.request caller
            (Gate.screen s.app.mode none s.request requestId w).2).1, caller,
          (Route.dispatch s.app.store s.request caller
            (Gate.screen s.app.mode none s.request requestId w).2).2⟩ := by
    unfold App.guarded Stage.guarded
    rcases hresult : Gate.screen s.app.mode none s.request requestId w with ⟨admission, asked⟩
    rw [hresult] at hscreen
    simp only at hscreen
    rw [hscreen]
  rw [hguarded] at hanswer hafter
  exact ⟨requestId, w, haside, hanswer, hafter⟩

end Served

/-! ### Runs -/

/-- Whatever a server is asked and whatever happens in between, it uses the store for nobody
but the caller that the request's own evidence establishes at that moment, and where there is
such evidence it answers for that caller. Who that is depends on nothing but the identity that
is claimed: in another request at another time, after any other history, the same claim never
establishes another caller. -/
theorem calls_made_for_established_caller {config : Config} {overrides : Overrides}
    {startup : Startup} (hbuild : App.build config overrides = .ok startup) (w : World)
    (events : List App.Event) :
    ∀ s ∈ startup.app.history w events,
      Gate.Mode.IsOf config.auth s.app.mode ∧
      (∃ calls queries,
        AddsFor s.app.mode s.app.store s.request s.before s.after calls queries) ∧
      (∀ caller route, s.Establishes caller → Route.ofPath? s.request.path = some route →
        route ≠ .health → BodyLimit.exceeds BodyLimit.defaultMax s.request = false →
        s.AnsweredFor caller) ∧
      ∀ (w' : World) (others : List App.Event), ∀ s' ∈ startup.app.history w' others,
        Gate.SameIdentity s.app.mode s'.app.mode s.request s'.request s.before s'.before →
        ∀ caller other, s.Establishes caller → s'.Establishes other → caller = other := by
  intro s hs
  refine ⟨?_, s.app.serve_addsFor s.request s.before, ?_, ?_⟩
  · obtain ⟨w', e, rfl⟩ := App.mem_history hs
    exact (App.build_isOf hbuild).answering e
  · intro caller route hcaller hroute htodo hsize
    exact s.answeredFor hcaller hroute htodo hsize
  · intro w' others s' _ hsame caller other hcaller hother
    exact hsame.unique hcaller hother

/-! ### A listing with a token -/

/-- A token of the subject `s`, under a key whose signatures are their own power. -/
def subjectToken : String :=
  String.ofList
    (("eyJhbGciOiJSUzI1NiIsImtpZCI6ImsifQ." ++
        "eyJzdWIiOiJzIiwiaXNzIjoiaSIsImF1ZCI6ImEiLCJleHAiOjl9." ++
        "AAH_").toList ++ List.replicate 268 '_' ++
      "ADAxMA0GCWCGSAFlAwQCAQUABCDQXJp0sKOUnR-54NcDKGFiM6zVG5dW-deSikmHvPIi6A".toList)

/-- A listing asked for with that token, and with the name of another user besides. -/
def listing : App.Event where
  request :=
    { method := "GET"
      path := "/api/v1/todos"
      query := []
      headers := [("Authorization", Gate.bearerStart ++ subjectToken), ("X-User-ID", "other")]
      body := none }
  now := 0
  readings := []
  endpoint := .rejected ""
  answers := []
  keys := fun keyId => .ok ⟨keyId, Token.firstPowerKey⟩
  users := fun subject => if subject = .text "s" then .user (.text "u") else .unregistered

/-- A configuration that asks for tokens. -/
def tokenConfig : Config :=
  ⟨8080, .localhost, .info, "", .verifiedToken "i" "a" "" (.finite 0)⟩

/-- Collaborators that go by the rules of that moment. -/
def tokenOverrides : Overrides := ⟨true, some (.rule listing.users), some (.rule listing.keys)⟩

/-- The start of an app of theirs. -/
def tokenStartup : Startup where
  app :=
    ⟨.verified (.rule listing.keys) ⟨.text "i", .text "a"⟩ (.rule listing.users),
      .memory, .info⟩
  entries := []
  pool := none
  hasKeySetCache := false

/-- The listing as it is served. -/
def listed : Served := tokenStartup.app.meet (.initial 0 (.rejected "")) listing

theorem listed_header? :
    listed.request.header? "authorization" = some (Gate.bearerStart ++ subjectToken) := by
  have htrimmed :
      trimmed (Gate.bearerStart ++ subjectToken) = Gate.bearerStart ++ subjectToken := by
    rw [← String.toList_inj]
    unfold trimmed subjectToken
    rw [String.toList_ofList, String.toList_append, String.toList_ofList]
    decide +kernel
  have hfound : listed.request.headers.filter
      (fun h => lowerText h.1 = lowerText "authorization") =
        [("Authorization", Gate.bearerStart ++ subjectToken)] := by
    have hname : lowerText "Authorization" = lowerText "authorization" := by decide +kernel
    have hother : lowerText "X-User-ID" ≠ lowerText "authorization" := by decide +kernel
    show [("Authorization", Gate.bearerStart ++ subjectToken),
      ("X-User-ID", "other")].filter _ = _
    simp [hname, hother]
  unfold Request.header?
  rw [hfound]
  simp only [List.map_cons, List.map_nil, htrimmed]
  rfl

/-- The token is evidence for the user behind its subject. -/
theorem listed_establishes : listed.Establishes (.text "u") := by
  have hverify : (Token.verify (KeySource.rule listing.keys).lookup subjectToken
      ⟨.text "i", .text "a"⟩ listed.before.time listed.before).1 =
        .ok (.ok ⟨"s", .text "i", .text "a", .ofMillis 9000, none, .text "k"⟩) := by
    unfold subjectToken Text.ofString
    rw [String.toList_ofList]
    decide +kernel
  exact .verified listed_header? hverify rfl

/-- The listing is answered for the user behind the token, and not for the other one. -/
theorem calls_made_for_established_caller_listed :
    App.build tokenConfig tokenOverrides = .ok tokenStartup ∧
      listed ∈ tokenStartup.app.history (.initial 0 (.rejected "")) [listing] ∧
      listed.AnsweredFor (.text "u") ∧
      ∃ calls queries, AddsFor listed.app.mode listed.app.store listed.request listed.before
        listed.after calls queries := by
  have hbuild : App.build tokenConfig tokenOverrides = .ok tokenStartup := rfl
  have hmem : listed ∈ tokenStartup.app.history (.initial 0 (.rejected "")) [listing] :=
    List.mem_cons_self
  obtain ⟨-, hadds, hanswered, -⟩ := calls_made_for_established_caller hbuild _ _ listed hmem
  refine ⟨hbuild, hmem, ?_, hadds⟩
  exact hanswered _ .todos listed_establishes (Route.ofPath?_eq_some_iff.2 .todos)
    Route.noConfusion rfl

/-! ### A todo written back -/

/-- A user's id in capitals, as a client may write it. -/
def capitalId : String := "AAAAAAAA-AAAA-4AAA-8AAA-AAAAAAAAAAAA"

/-- The same id as the database writes it. -/
def smallId : String := "aaaaaaaa-aaaa-4aaa-8aaa-aaaaaaaaaaaa"

/-- The row of a todo of that user's. -/
def smallRow : Sql.Row :=
  ⟨[(.id, .text smallId), (.userId, .text smallId), (.title, .text "old"),
    (.status, .text "pending")]⟩

/-- The todo gets another title, asked for under the id in capitals. -/
def retitling : App.Event :=
  { listing with
    request :=
      { method := "PUT"
        path := "/api/v1/todos/aaaaaaaa-aaaa-4aaa-8aaa-aaaaaaaaaaaa"
        query := []
        headers := [("X-User-ID", capitalId)]
        body := some [Utf8.encode "\x7b\"title\":\"new\"\x7d"] }
    answers := [.rows [smallRow] none, .rows [smallRow] none] }

/-- A configuration that trusts the header of development. -/
def trustingConfig : Config := ⟨8080, .localhost, .info, "", .devBypass⟩

/-- The start of an app of its own. -/
def trustingStartup : Startup where
  app := ⟨.devBypass, .database, .info⟩
  entries := [App.devModeEntry]
  pool := some (App.poolSettings trustingConfig)
  hasKeySetCache := false

/-- The todo is read under the id in the header and written back under that in its row, which
is written otherwise. -/
theorem owner_written_as_in_row :
    App.build trustingConfig ⟨false, none, none⟩ = .ok trustingStartup ∧
      ∃ s ∈ trustingStartup.app.history (.initial 0 (.rejected "")) [retitling],
        s.request.header? Gate.devUserHeader = some capitalId ∧
          s.Establishes (.text capitalId) ∧ s.before.calls = [] ∧
          s.after.calls.map Store.Call.owner = [.text capitalId, .text smallId] ∧
          s.after.database.sent.map Sql.Query.owner? =
            [some (.text capitalId), some (.text smallId)] ∧
          smallId ≠ capitalId := by
  have hheader : (trustingStartup.app.meet (.initial 0 (.rejected ""))
      retitling).request.header? Gate.devUserHeader = some capitalId := by decide +kernel
  refine ⟨rfl, _, List.mem_cons_self, hheader, .trusted hheader (by decide), rfl,
    ?_, ?_, ?_⟩ <;> decide +kernel

end TodoServer
