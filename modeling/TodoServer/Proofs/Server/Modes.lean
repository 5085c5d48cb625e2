/-
One service behind either gate.

In development the caller is named by a header, in production by a token. Once the gate has let
a request in, nothing of this matters any more: the handlers get the caller and nothing else
from the gate, and with todos in memory they neither look at what the gate has used nor change
it. So a request whose token belongs to a user is served as it would be in development under
that user's name. What the gates leave behind differs, and is kept apart here: the keys, their
fetches, the conversation about users, and what had been logged before the handlers came to
run.

* `Setting` — what a gate uses and handlers do not;
* `App.serveBy_inSetting` — an app in development serves alike in any setting;
* `App.serveBy_of_establishes` — an app that asks for tokens serves as one in development does,
  in the setting that its gate has left;
* `modes_serve_alike` — both, for apps as they are built.
-/
import TodoServer.Proofs.Server.Exchanges
import TodoServer.Proofs.Server.Ownership
import TodoServer.Proofs.Server.Untouched

namespace TodoServer

open Http

/-! ### Headers -/

namespace Http.Request

/-- The request with a header of one value in the place of all of that name. -/
def withHeader (name value : String) (r : Request) : Request :=
  { r with headers := r.headers.filter (fun h => lowerText h.1 ≠ lowerText name) ++
    [(name, value)] }

theorem sameBut_withHeader (name value : String) (r : Request) :
    r.SameBut name (r.withHeader name value) :=
  ⟨rfl, rfl, rfl, rfl, by simp [withHeader, List.filter_filter]⟩

theorem header?_withHeader (name : String) {value : String} (htrimmed : trimmed value = value)
    (r : Request) :
    (r.withHeader name value).header? name = some value := by
  have hfound : (r.withHeader name value).headers.filter
      (fun h => lowerText h.1 = lowerText name) = [(name, value)] := by
    simp [withHeader, List.filter_append, List.filter_filter]
  unfold header?
  rw [hfound]
  simp only [List.map_cons, List.map_nil, htrimmed]
  rfl

end Http.Request

/-! ### Settings -/

/-- What a gate uses and handlers do not: the keys and their fetches, the conversation about
users, and what has been logged so far. -/
structure Setting where
  cache : Cache
  fetches : List Fetch
  database : Sql.Session
  logged : List Log.Entry

/-- A world in another setting. What the world has logged comes after what the setting has. -/
def World.inSetting (s : Setting) (w : World) : World :=
  { w with
    cache := s.cache
    fetches := s.fetches
    database := s.database
    journal := s.logged ++ w.journal }

/-- The setting of a world. -/
def World.setting (w : World) : Setting := ⟨w.cache, w.fetches, w.database, w.journal⟩

/-- A world before anything was logged in it. -/
def World.unlogged (w : World) : World := { w with journal := [] }

theorem World.inSetting_setting (w : World) : w.unlogged.inSetting w.setting = w := by
  simp [inSetting, setting, unlogged]

variable {s : Setting} {r : Request} {w : World} {caller : Datum} {requestId : String}

theorem World.store_inSetting (c : Store.Call) :
    World.store .memory c (w.inSetting s) =
      ((World.store .memory c w).1, (World.store .memory c w).2.inSetting s) := rfl

theorem Store.Program.run_inSetting {α : Type} (p : Store.Program α) (s : Setting)
    (w : World) : p.run (World.store .memory) (w.inSetting s) =
      ((p.run (World.store .memory) w).1, (p.run (World.store .memory) w).2.inSetting s) := by
  induction p generalizing w with
  | done result => rfl
  | call c next ih => rw [run_call, run_call, World.store_inSetting, ih]

theorem Action.handle_inSetting (a : Action) :
    a.handle (World.store .memory) caller (w.inSetting s) =
      ((a.handle (World.store .memory) caller w).1,
        (a.handle (World.store .memory) caller w).2.inSetting s) := by
  by_cases hblank : caller.isBlank = true
  · rw [handle_of_blank hblank, handle_of_blank hblank]
  · have hsome := Bool.eq_false_iff.2 hblank
    rw [handle_of_not_blank hsome, handle_of_not_blank hsome, Store.Program.run_inSetting]

theorem Route.dispatch_inSetting :
    Route.dispatch .memory r caller (w.inSetting s) =
      ((Route.dispatch .memory r caller w).1,
        (Route.dispatch .memory r caller w).2.inSetting s) := by
  rw [Route.dispatch_eq, Route.dispatch_eq]
  rcases Route.asked r with response | a
  · rfl
  · exact a.handle_inSetting

namespace World

theorem requestId_inSetting (s : Setting) (w : World) :
    Stage.requestId r (w.inSetting s) =
      ((Stage.requestId r w).1, (Stage.requestId r w).2.inSetting s) := by
  unfold Stage.requestId
  split_ifs <;> rfl

/-- What has been logged before has no say in the id of a request. -/
theorem requestId_eq_inSetting (w : World) :
    Stage.requestId r w =
      ((Stage.requestId r w.unlogged).1,
        (Stage.requestId r w.unlogged).2.inSetting w.setting) := by
  rw [← requestId_inSetting, inSetting_setting]

theorem entered_eq_inSetting (w : World) :
    w.entered r = (w.unlogged.entered r).inSetting w.setting := by
  rw [entered, entered, requestId_eq_inSetting, reading_snd, reading_snd]
  rfl

end World

namespace App

/-- What comes of a request once the gate has let it in for a caller. -/
def answerFor (caller : Datum) (r : Request) (requestId : String) (start : Number)
    (w : World) : Response × World :=
  leave r requestId start (Stage.recovered requestId r
    ⟨(Route.dispatch .memory r caller w).1, caller, (Route.dispatch .memory r caller w).2⟩)

theorem recovered_inSetting (answer : Except Fault Response) :
    Stage.recovered requestId r ⟨answer, caller, w.inSetting s⟩ =
      ⟨(Stage.recovered requestId r ⟨answer, caller, w⟩).answer,
        (Stage.recovered requestId r ⟨answer, caller, w⟩).caller,
        (Stage.recovered requestId r ⟨answer, caller, w⟩).world.inSetting s⟩ := by
  unfold Stage.recovered
  rcases answer with fault | response
  · cases fault with
    | api e => rfl
    | _ => simp only [World.note, World.inSetting, List.append_assoc]
  · rfl

theorem leave_inSetting {start : Number} (answer : Response) :
    leave r requestId start ⟨answer, caller, w.inSetting s⟩ =
      ((leave r requestId start ⟨answer, caller, w⟩).1,
        (leave r requestId start ⟨answer, caller, w⟩).2.inSetting s) := by
  simp only [leave, World.reading_fst, World.reading_snd, World.note, World.inSetting,
    List.append_assoc]

theorem answerFor_inSetting {start : Number} :
    answerFor caller r requestId start (w.inSetting s) =
      ((answerFor caller r requestId start w).1,
        (answerFor caller r requestId start w).2.inSetting s) := by
  unfold answerFor
  rw [Route.dispatch_inSetting, recovered_inSetting, leave_inSetting]

theorem guarded_inSetting :
    let e := Stage.recovered requestId r
      (Stage.guarded .devBypass none (Route.dispatch .memory) requestId r w)
    Stage.recovered requestId r
        (Stage.guarded .devBypass none (Route.dispatch .memory) requestId r (w.inSetting s)) =
      ⟨e.answer, e.caller, e.world.inSetting s⟩ := by
  unfold Stage.guarded Gate.screen
  by_cases hexempt : Gate.isExempt (Path.canonical r.path) = true
  · simp only [hexempt, if_true, Route.dispatch_inSetting, recovered_inSetting]
  · simp only [hexempt, Bool.false_eq_true, if_false]
    rcases Gate.screenTrusted r with _ | userId | response | fault
    · simp only [Route.dispatch_inSetting, recovered_inSetting]
    · simp only [Route.dispatch_inSetting, recovered_inSetting]
    · exact recovered_inSetting (.ok response)
    · exact recovered_inSetting (.error fault)

/-- An app in development serves alike in any setting, and leaves it as it is but for the
log. -/
theorem serveBy_inSetting :
    serveBy .devBypass (Route.dispatch .memory) r (w.inSetting s) =
      ((serveBy .devBypass (Route.dispatch .memory) r w).1,
        (serveBy .devBypass (Route.dispatch .memory) r w).2.inSetting s) := by
  unfold serveBy
  rw [World.requestId_inSetting]
  by_cases hsize : BodyLimit.exceeds BodyLimit.defaultMax r = true
  · simp only [hsize, if_true]
  · simp only [hsize, Bool.false_eq_true, if_false, World.reading_fst, World.reading_snd]
    have hreadings : ∀ w : World, { w.inSetting s with
        readings := (w.inSetting s).readings.tail } =
        ({ w with readings := w.readings.tail } : World).inSetting s := fun _ => rfl
    rw [hreadings, guarded_inSetting, leave_inSetting]
    rfl

/-! ### The two gates -/

theorem serveBy_of_caller {mode : Gate.Mode} (hguarded : r.IsGuarded)
    (hcaller : (Gate.screen mode none r (Stage.requestId r w).1 (w.entered r)).1 =
      .caller caller) :
    serveBy mode (Route.dispatch .memory) r w =
      answerFor caller r (Stage.requestId r w).1 (Stage.requestId r w).2.reading.1
        (Gate.screen mode none r (Stage.requestId r w).1 (w.entered r)).2 := by
  rw [serveBy_of_guarded hguarded, Stage.guarded_of_caller hcaller]
  rfl

/-- In development the gate leaves nothing behind. -/
theorem screen_snd_devBypass (requestId : Text) :
    (Gate.screen .devBypass none r requestId w).2 = w := by
  unfold Gate.screen
  split_ifs <;> rfl

/-- Where there is evidence for a caller, the gate leaves a setting behind and changes nothing
else. -/
theorem screen_of_establishes {mode : Gate.Mode} (hguarded : r.IsGuarded)
    (h : Gate.Establishes mode r w caller) (requestId : Text) :
    ∃ cache fetches queries refreshes, (∀ q ∈ queries, q.statement.table = .users) ∧
      refreshes.Sublist [w.endpoint.refreshEntry] ∧
      Gate.screen mode none r requestId (w.entered r) =
        (.caller caller, (w.unlogged.entered r).inSetting
          ⟨cache, fetches, w.database.after queries, w.journal ++ refreshes⟩) := by
  have haside := World.Aside.entered w r
  have hcaller : (Gate.screen mode none r requestId (w.entered r)).1 = .caller caller :=
    Gate.screen_fst_eq_caller_iff.2 ⟨hguarded.guarded, haside.establishes_iff.2 h⟩
  have hother : (Gate.screen mode none r requestId (w.entered r)).1 ≠
      .refused .internalError := by
    rw [hcaller]
    exact Gate.Admission.noConfusion
  obtain ⟨cache, fetches, database, refreshes, hrefreshes, hworld⟩ := Gate.screen_world hother
  obtain ⟨queries, hadds, husers⟩ := Gate.screen_adds mode none r requestId (w.entered r)
  have hdatabase : database = w.database.after queries := by
    rw [hworld] at hadds
    rw [← haside.database_eq]
    exact hadds.database_eq
  refine ⟨cache, fetches, queries, refreshes, husers, ?_, Prod.ext hcaller ?_⟩
  · rwa [haside.endpoint_eq] at hrefreshes
  · obtain ⟨idsGiven, hunlogged⟩ := w.unlogged.entered_eq r
    rw [hworld, w.entered_eq_inSetting, hunlogged, hdatabase]
    simp [World.inSetting, World.setting, World.unlogged]

variable {r' : Request} {name : String}

theorem answerFor_congr (hsame : r.SameBut name r') (start : Number) :
    answerFor caller r' requestId start w = answerFor caller r requestId start w := by
  unfold answerFor leave
  simp only [hsame.dispatch_eq, hsame.recovered_eq, hsame.sent_eq, hsame.requestEntry_eq]

/-- A request that is handled for a caller is logged last, with the status that it is answered
with. -/
theorem journal_answerFor (r : Request) (caller : Datum) (requestId : String) (w : World)
    (start : Number) :
    ∃ earlier stop, (answerFor caller r requestId start w).2.journal = earlier ++
      [Stage.requestEntry requestId r (answerFor caller r requestId start w).1.status
        start stop caller] := by
  let e := Stage.recovered requestId r
    ⟨(Route.dispatch .memory r caller w).1, caller, (Route.dispatch .memory r caller w).2⟩
  have hcaller : e.caller = caller := Stage.caller_recovered _
  refine ⟨e.world.journal, e.world.reading.1, ?_⟩
  have hstatus : (answerFor caller r requestId start w).1.status = e.answer.status :=
    status_sent r requestId e.answer
  rw [hstatus]
  show (e.world.reading.2.note
    (Stage.requestEntry requestId r e.answer.status start e.world.reading.1
      e.caller)).journal = _
  rw [hcaller, World.reading_snd]
  rfl

/-- In development a request is answered for the user that its header names. -/
theorem serveBy_devBypass {u : String} (hguarded : r.IsGuarded)
    (hsame : r.SameBut Gate.devUserHeader r')
    (hheader : r'.header? Gate.devUserHeader = some u)
    (hne : u ≠ "") :
    serveBy .devBypass (Route.dispatch .memory) r' w =
      answerFor (.text u) r (Stage.requestId r w).1 (Stage.requestId r w).2.reading.1
        (w.entered r) := by
  have hname := Request.isGateHeader_devUserHeader
  have hguarded' := hsame.isGuarded hname hguarded
  have hnamed : (Gate.screen .devBypass none r' (Stage.requestId r' w).1 (w.entered r')).1 =
      .caller (.text u) :=
    Gate.screen_fst_eq_caller_iff.2 ⟨hguarded'.guarded, .trusted hheader hne⟩
  rw [serveBy_of_caller hguarded' hnamed, screen_snd_devBypass, answerFor_congr hsame,
    World.entered, hsame.requestId_eq hname]
  rfl

/-- An app in development leaves the setting of a world as it is, but for the log. -/
theorem serveBy_devBypass_eq (r : Request) (w : World) :
    let trusted := serveBy .devBypass (Route.dispatch .memory) r w.unlogged
    serveBy .devBypass (Route.dispatch .memory) r w =
      (trusted.1, trusted.2.inSetting w.setting) := by
  intro trusted
  rw [← serveBy_inSetting, w.inSetting_setting]

/-- Where there is evidence for a user, an app that asks for tokens does what an app in
development does under the user's name, in the setting that the gate has left. -/
theorem serveBy_of_establishes {mode : Gate.Mode} {u : String}
    (hestablished : Gate.Establishes mode r w (.text u))
    (hsame : r.SameBut Gate.devUserHeader r')
    (hheader : r'.header? Gate.devUserHeader = some u) (hne : u ≠ "") :
    ∃ cache fetches queries refreshes, (∀ q ∈ queries, q.statement.table = .users) ∧
      refreshes.Sublist [w.endpoint.refreshEntry] ∧
      let trusted := serveBy .devBypass (Route.dispatch .memory) r' w.unlogged
      serveBy mode (Route.dispatch .memory) r w =
        (trusted.1, trusted.2.inSetting
          ⟨cache, fetches, w.database.after queries, w.journal ++ refreshes⟩) := by
  by_cases hguarded : r.IsGuarded
  case neg =>
    -- no gate is asked, and nothing is left by one
    refine ⟨w.cache, w.fetches, [], [], by simp, List.nil_sublist _, ?_⟩
    intro trusted
    rw [← serveBy_of_not_guarded hsame Request.isGateHeader_devUserHeader
      (hsame.dispatch_eq .memory .absent) hguarded .devBypass, serveBy_devBypass_eq,
      Sql.Session.after_nil, List.append_nil]
    rfl
  obtain ⟨cache, fetches, queries, refreshes, husers, hrefreshes, hscreen⟩ :=
    screen_of_establishes hguarded hestablished (Stage.requestId r w).1
  refine ⟨cache, fetches, queries, refreshes, husers, hrefreshes, ?_⟩
  have hstart : (Stage.requestId r w).2.reading.1 =
      (Stage.requestId r w.unlogged).2.reading.1 := by
    rw [w.requestId_eq_inSetting, World.reading_fst, World.reading_fst]
    rfl
  rw [serveBy_devBypass hguarded hsame hheader hne,
    serveBy_of_caller hguarded (congrArg Prod.fst hscreen), hscreen, answerFor_inSetting,
    hstart, w.requestId_eq_inSetting]

end App

/-- Two apps of one configuration, but that one of them asks for tokens and the other trusts a
header. A request whose token is evidence for a user is answered by the first as it is answered
by the second under the user's name. What has become of the world is the same as well, and so
is what is logged, with these exceptions: the keys may have been fetched, the database may have
been asked about users, and the end of the fetch may have been logged; and the second app has
logged at its start that it trusts a header. -/
theorem modes_serve_alike {config : Config} {overrides overrides' : Overrides}
    {verified trusting : Startup} (hverified : App.build config overrides = .ok verified)
    (hauth : App.isVerified config.auth = true)
    (htrusting : App.build { config with auth := .devBypass } overrides' = .ok trusting)
    (hstore : overrides.memoryStore = true) (hstore' : overrides'.memoryStore = true)
    {r : Request} {u : String} (hne : u ≠ "") (htrimmed : trimmed u = u) {w : World}
    (hestablished : Gate.Establishes verified.app.mode r w (.text u)) :
    (verified.entries = [] ∧ trusting.entries = [App.devModeEntry] ∧
      verified.app.threshold = trusting.app.threshold) ∧
    let served := verified.app.serve r w
    let trusted := trusting.app.serve (r.withHeader Gate.devUserHeader u) w
    served.1 = trusted.1 ∧ served.2.memory = trusted.2.memory ∧
      ∃ cache fetches queries refreshes entries, (∀ q ∈ queries, q.statement.table = .users) ∧
        refreshes.Sublist [w.endpoint.refreshEntry] ∧
        trusted.2.setting = ⟨w.cache, w.fetches, w.database, w.journal ++ entries⟩ ∧
        served.2 =
          { trusted.2 with
            cache := cache
            fetches := fetches
            database := w.database.after queries
            journal := w.journal ++ refreshes ++ entries } ∧
        (r.IsGuarded → ∃ earlier requestId start stop, entries = earlier ++
          [Stage.requestEntry requestId r served.1.status start stop (.text u)]) := by
  obtain ⟨mode, -, rfl⟩ := map_eq_ok_iff.1 hverified
  cases htrusting
  refine ⟨⟨if_pos hauth, rfl, rfl⟩, ?_⟩
  simp only [hstore, hstore', if_true, App.serve_eq] at hestablished ⊢
  have hsame := r.sameBut_withHeader Gate.devUserHeader u
  have hheader := r.header?_withHeader Gate.devUserHeader htrimmed
  let r' := r.withHeader Gate.devUserHeader u
  let o := App.serveBy .devBypass (Route.dispatch .memory) r' w.unlogged
  obtain ⟨cache, fetches, queries, refreshes, husers, hrefreshes, hserved⟩ :=
    App.serveBy_of_establishes hestablished hsame hheader hne
  have htrusted : App.serveBy .devBypass (Route.dispatch .memory) r' w =
      (o.1, o.2.inSetting w.setting) := App.serveBy_devBypass_eq r' w
  rw [hserved, htrusted]
  refine ⟨rfl, rfl, cache, fetches, queries, refreshes, o.2.journal, husers, hrefreshes, rfl,
    rfl, ?_⟩
  intro hguarded
  have ho := App.serveBy_devBypass (w := w.unlogged) hguarded hsame hheader hne
  obtain ⟨earlier, stop, hjournal⟩ := App.journal_answerFor r (.text u)
    (Stage.requestId r w.unlogged).1 (w.unlogged.entered r)
    (Stage.requestId r w.unlogged).2.reading.1
  rw [← ho] at hjournal
  exact ⟨earlier, _, _, stop, hjournal⟩

/-! ### A listing in both modes -/

/-- A state of the server in which the user behind the token has a todo. -/
def withTodo : World :=
  { listed.before with
    memory :=
      (Memory.empty.create
        { userId := .text "u", title := .text "t", description := .text "",
          status := .text "pending", dueAt := .null }).2 }

/-- The user's todo is listed on the token as it is in development on the name. -/
theorem modes_serve_alike_listed :
    App.build tokenConfig tokenOverrides = .ok tokenStartup ∧
      Gate.Establishes tokenStartup.app.mode listed.request withTodo (.text "u") ∧
      (tokenStartup.app.serve listed.request withTodo).1 =
        ((App.inDevelopment .info).serve
          (listed.request.withHeader Gate.devUserHeader "u") withTodo).1 ∧
      (tokenStartup.app.serve listed.request withTodo).1.status = 200 := by
  have hbuild : App.build tokenConfig tokenOverrides = .ok tokenStartup := rfl
  have hestablished :
      Gate.Establishes tokenStartup.app.mode listed.request withTodo (.text "u") :=
    listed_establishes.congr ⟨rfl, ⟨rfl, rfl, rfl⟩, fun _ => rfl⟩
  have htrusting : App.build { tokenConfig with auth := .devBypass } ⟨true, none, none⟩ =
      .ok developmentStartup := rfl
  obtain ⟨-, hanswer, -⟩ := modes_serve_alike hbuild rfl htrusting rfl rfl (u := "u")
    (by decide) (by decide +kernel) hestablished
  refine ⟨hbuild, hestablished, hanswer, ?_⟩
  rw [hanswer]
  decide +kernel

end TodoServer
