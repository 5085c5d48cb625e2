/-
What clients do not learn.

What a collaborator says about its failure goes to the log and nowhere else. Two runs in which
the same things fail at the same time, and are only said to have failed for other reasons, are
one run to all clients. That holds of any app, and of any store of todos that may be put in the
place of the two that there are. And when a collaborator has failed, then what the client is
told is one of three things, which were written down before.

* `App.Moment`, `App.run` — runs, with a store in the place of the usual ones if there is one;
* `App.respond_alike`, `App.run_alike` — one request, and a run of them;
* `App.Fails`, `App.serveBy_of_fails` — a collaborator fails, and what is answered;
* `error_texts_unseen` — both for every run of every app.
-/
import TodoServer.Proofs.Server.Likeness
import TodoServer.Proofs.Server.Ownership

namespace TodoServer

open Http

/-! ### Runs -/

/-- What a store of its own kind answers to a call, after the calls that it has had. -/
abbrev Store.Rule := List Store.Call → (c : Store.Call) → Except Fault c.Reply

/-- Stores that differ in the wording of failures at most. -/
def Store.Rule.Alike (rule rule' : Store.Rule) : Prop :=
  ∀ calls c, SameUpTo Fault.Alike (rule calls c) (rule' calls c)

/-- A store that goes by a rule, each call noted. -/
def World.ruled (rule : Store.Rule) : Store.Answers World := fun c w =>
  (rule w.calls c, { w with calls := w.calls ++ [c] })

theorem World.ruled_alike {rule rule' : Store.Rule} (h : rule.Alike rule') :
    Store.Alike (World.ruled rule) (World.ruled rule') := by
  intro c w w' hw
  refine ⟨?_, hw.now, hw.readings, hw.idsGiven, hw.endpoint, hw.cache, hw.database, hw.memory,
    hw.fetches, congrArg (· ++ [c]) hw.calls⟩
  show SameUpTo _ (rule w.calls c) (rule' w'.calls c)
  rw [hw.calls]
  exact h w'.calls c

namespace App

/-- What happens to a server until it answers a request, and the store that is in the place of
its own then, if there is one. -/
structure Moment extends Event where
  replacement : Option Store.Rule

/-- The store of a moment. -/
def Moment.store (m : Moment) (kind : StoreKind) : Store.Answers World :=
  match m.replacement with
  | none => World.store kind
  | some rule => World.ruled rule

/-- The answer to the request of a moment, and the world after it. -/
def respond (app : App) (w : World) (m : Moment) : Response × World :=
  let s := app.meet w m.toEvent
  match m.replacement with
  | none => (s.response, s.after)
  | some rule =>
    serveBy s.app.mode
      (fun r caller w => Route.perform (World.ruled rule) caller w (Route.asked r))
      s.request s.before

/-- The answers that an app gives as things happen, one after the other. -/
def run (app : App) : World → List Moment → List Response
  | _, [] => []
  | w, m :: rest => (app.respond w m).1 :: app.run (app.respond w m).2 rest

/-- A moment is the app's gate and the store of the moment with the stages around them. -/
theorem respond_eq (app : App) (w : World) (m : Moment) :
    app.respond w m =
      serveBy (app.meet w m.toEvent).app.mode
        (fun r caller w => Route.perform (m.store app.store) caller w (Route.asked r))
        (app.meet w m.toEvent).request (app.meet w m.toEvent).before := by
  unfold respond Moment.store
  rcases m.replacement with _ | rule
  · have hhandler : Route.dispatch app.store =
        fun r caller w => Route.perform (World.store app.store) caller w (Route.asked r) := by
      funext r caller w
      exact Route.dispatch_eq app.store r caller w
    simp only [← hhandler]
    exact serve_eq _ _ _
  · rfl

/-! ### Runs that are alike -/

/-- Events that differ in the wording of failures at most. -/
structure Event.Alike (e e' : Event) : Prop where
  request : e.request = e'.request
  now : e.now = e'.now
  readings : e.readings = e'.readings
  endpoint : e.endpoint.Alike e'.endpoint
  answers : List.Forall₂ Sql.Outcome.Alike e.answers e'.answers
  keys : ∀ keyId, SameUpTo Token.SourceFault.Alike (e.keys keyId) (e'.keys keyId)
  users : ∀ subject, (e.users subject).Alike (e'.users subject)

/-- Moments that differ in the wording of failures at most. -/
structure Moment.Alike (m m' : Moment) : Prop where
  event : m.toEvent.Alike m'.toEvent
  replacement : Option.Rel Store.Rule.Alike m.replacement m'.replacement

theorem Moment.Alike.store {m m' : Moment} (h : m.Alike m') (kind : StoreKind) :
    Store.Alike (m.store kind) (m'.store kind) := by
  unfold Moment.store
  have hreplacement := h.replacement
  generalize m.replacement = replacement, m'.replacement = replacement' at hreplacement ⊢
  cases hreplacement with
  | none => exact World.store_alike kind
  | some hrule => exact World.ruled_alike hrule

end App

/-- The gate's collaborators go by the rules of the moment, and these are alike. -/
theorem Gate.Mode.answering_alike (mode : Gate.Mode) {e e' : App.Event} (h : e.Alike e') :
    (mode.answering e).Alike (mode.answering e') := by
  cases mode with
  | devBypass => exact .devBypass
  | verified keys expected resolver =>
    refine .verified expected ?_ ?_
    · cases keys with
      | cached settings => exact .cached settings
      | rule _ => exact .rule h.keys
    · cases resolver with
      | registered => exact .registered
      | rule _ => exact .rule h.users

namespace App

theorem respond_alike (app : App) {w w' : World} (hw : w.Alike w') {m m' : Moment}
    (hm : m.Alike m') :
    (app.respond w m).1 = (app.respond w' m').1 ∧
      (app.respond w m).2.Alike (app.respond w' m').2 := by
  rw [respond_eq, respond_eq]
  have hrequest : m'.request = m.request := hm.event.request.symm
  have hbefore : (app.meet w m.toEvent).before.Alike (app.meet w' m'.toEvent).before :=
    ⟨hm.event.now, hm.event.readings, hw.idsGiven, hm.event.endpoint, hw.cache,
      ⟨hm.event.answers, hw.database.sent⟩, hw.memory, hw.fetches, hw.calls⟩
  show (serveBy _ _ m.request _).1 = (serveBy _ _ m'.request _).1 ∧
    (serveBy _ _ m.request _).2.Alike (serveBy _ _ m'.request _).2
  rw [hrequest]
  exact serveBy_alike (app.mode.answering_alike hm.event)
    (fun caller v v' hv => Route.perform_alike (hm.store app.store) caller _ hv) hbefore

theorem run_alike (app : App) {w w' : World} (hw : w.Alike w') {moments moments' : List Moment}
    (h : List.Forall₂ Moment.Alike moments moments') :
    app.run w moments = app.run w' moments' := by
  -- each moment leaves worlds behind that are alike again
  induction h generalizing w w' with
  | nil => rfl
  | cons hm _ ih =>
    obtain ⟨hanswer, hafter⟩ := app.respond_alike hw hm
    rw [run, run, hanswer, ih hafter]

end App

/-! ### Collaborators that fail -/

/-- The world that a request has come to behind the gate. -/
def World.admitted (w : World) (mode : Gate.Mode) (r : Request) : World :=
  (Gate.screen mode none r (Stage.requestId r w).1 (w.entered r)).2

namespace App

/-- A collaborator fails while a request is served: the key that a token names is not found, or
the user behind its subject cannot be looked up, or the store fails at a call. -/
inductive Fails (mode : Gate.Mode) (store : Store.Answers World) (r : Request)
    (w : World) : Prop
  | keys {keys : KeySource} {expected : Token.Expected} {resolver : Identity.Resolver}
    {token : String} {header : Token.Header} {fault : Token.SourceFault}
    (hmode : mode = .verified keys expected resolver)
    (hheader : r.header? "authorization" = some (Gate.bearerStart ++ token))
    (hread : Token.Header.read token = .ok header)
    (hlookup : (keys.lookup header.keyId w).1 = .error fault)
  | users {keys : KeySource} {expected : Token.Expected} {resolver : Identity.Resolver}
    {token : String} {verified : Token.Verified} {message : Text}
    (hmode : mode = .verified keys expected resolver)
    (hheader : r.header? "authorization" = some (Gate.bearerStart ++ token))
    (hverify : (Token.verify keys.lookup token expected w.time w).1 = .ok (.ok verified))
    (hresolve : (resolver.resolve verified.subject w.database).1 = .failed message)
  | todos {caller : Datum} {a : Action}
    (hcaller : Gate.Establishes mode r w caller) (hblank : caller.isBlank = false)
    (hasked : Route.asked r = .ok a)
    (hfails : (a.program caller).FailsOn store (w.admitted mode r))

/-- What a client is told where a collaborator has failed. -/
def failureAnswers : List Response :=
  [.internalError, .unauthorized Gate.invalidToken, .unauthorized "unknown user"]

end App

namespace Gate

variable {keys : KeySource} {expected : Token.Expected} {resolver : Identity.Resolver}
  {r : Request} {requestId : Text} {w w' : World} {token : String}

/-- At the gate a token whose key is not found is turned away, or the failure of the source
goes on. -/
theorem screen_of_lookup_error {header : Token.Header} {fault : Token.SourceFault}
    (hguarded : isExempt (Path.canonical r.path) = false)
    (hheader : r.header? "authorization" = some (bearerStart ++ token))
    (hread : Token.Header.read token = .ok header)
    (hlookup : (keys.lookup header.keyId w).1 = .error fault) :
    (screen (.verified keys expected resolver) none r requestId w).1 =
        .refused (.unauthorized invalidToken) ∨
      ∃ message, (screen (.verified keys expected resolver) none r requestId w).1 =
        .failed (.raised message) := by
  rw [screen_fst_of_bearer hguarded hheader]
  unfold Token.verify
  rcases hresult : keys.lookup header.keyId w with ⟨answer, v⟩
  rw [hresult] at hlookup
  simp only at hlookup
  subst hlookup
  simp only [hread, hresult]
  cases fault with
  | keySet cause => exact Or.inl rfl
  | broken message => exact Or.inr ⟨message, rfl⟩

/-- Where the user cannot be looked up, the gate answers in general terms. -/
theorem screen_of_resolve_failed {verified : Token.Verified} {message : Text}
    (hguarded : isExempt (Path.canonical r.path) = false)
    (hheader : r.header? "authorization" = some (bearerStart ++ token))
    (hverify : (Token.verify keys.lookup token expected w.time w).1 = .ok (.ok verified))
    (hresolve : (resolver.resolve verified.subject w.database).1 = .failed message) :
    (screen (.verified keys expected resolver) none r requestId w).1 =
      .refused .internalError := by
  rw [screen_fst_of_bearer hguarded hheader, hverify]
  show Admission.ofResolution (resolver.resolve verified.subject w.database).1 = _
  rw [hresolve]
  rfl

end Gate

namespace App

variable {mode : Gate.Mode} {store : Store.Answers World} {r : Request} {w : World}

/-- A failure of the store that is not for the client to be told is one of the three things to
it. -/
theorem answerTo_reported (c : Store.Call) {fault : Fault} (h : ∀ e, fault ≠ .api e) :
    Stage.answerTo (c.reported fault).kind ∈ failureAnswers := by
  have hgeneral : Stage.answerTo .other ∈ failureAnswers := List.mem_cons_self
  cases fault with
  | api e => exact absurd rfl (h e)
  | unknownOwner user =>
    cases c with
    | create todo =>
      show Stage.answerTo (.told (.unauthorized "unknown user")) ∈ failureAnswers
      rw [Stage.answerTo_unauthorized]
      exact List.mem_cons_of_mem _ (List.mem_cons_of_mem _ List.mem_cons_self)
    | _ => exact hgeneral
  | _ => cases c <;> exact hgeneral

/-- Where a collaborator fails, the client is told one of the three things that it may be
told. -/
theorem serveBy_of_fails (hguarded : r.IsGuarded) (hstore : ∀ c w, Discreet (store c w).1)
    (h : Fails mode store r w) :
    ∃ answer ∈ failureAnswers,
      (serveBy mode (fun r caller w => Route.perform store caller w (Route.asked r)) r w).1 =
        sent r (Stage.requestId r w).1 answer := by
  -- at the gate, keys and users are as they were when the request came in
  have haside := World.Aside.entered w r
  rw [serveBy_of_guarded hguarded]
  refine ⟨_, ?_, rfl⟩
  cases h with
  | @keys keys expected resolver token header fault hmode hheader hread hlookup =>
    subst hmode
    rcases Gate.screen_of_lookup_error hguarded.guarded hheader hread
      ((keys.lookup_fst_congr header.keyId haside.sameKeys).trans hlookup) with
        h | ⟨message, h⟩
    · rw [Stage.guarded_of_refused h]
      exact List.mem_cons_of_mem _ List.mem_cons_self
    · rw [Stage.guarded_of_failed h, Stage.recovered_error]
      exact List.mem_cons_self
  | @users keys expected resolver token verified message hmode hheader hverify hresolve =>
    subst hmode
    have hresolve' : (resolver.resolve verified.subject (w.entered r).database).1 =
        .failed message := by
      rw [haside.database_eq]
      exact hresolve
    have h : (Gate.screen (.verified keys expected resolver) none r (Stage.requestId r w).1
        (w.entered r)).1 = .refused .internalError :=
      Gate.screen_of_resolve_failed hguarded.guarded hheader
        ((haside.sameKeys.verify_fst keys token expected).trans hverify) hresolve'
    rw [Stage.guarded_of_refused h]
    exact List.mem_cons_self
  | @todos caller a hcaller hblank hasked hfails =>
    have h : (Gate.screen mode none r (Stage.requestId r w).1 (w.entered r)).1 =
        .caller caller :=
      Gate.screen_fst_eq_caller_iff.2 ⟨hguarded.guarded, haside.establishes_iff.2 hcaller⟩
    obtain ⟨c, v, fault, hfault, hrun⟩ :=
      Store.Program.run_of_failsOn (a.program_reports caller) hfails
    have hanswer : (Route.perform store caller (w.admitted mode r) (Route.asked r)).1 =
        .error (c.reported fault) := by
      rw [hasked]
      show (a.handle store caller (w.admitted mode r)).1 = _
      rw [Action.handle_of_not_blank hblank, hrun]
      rfl
    have htold : Stage.answerTo (c.reported fault).kind ∈ failureAnswers := by
      refine answerTo_reported c fun e he => ?_
      rw [he] at hfault
      exact hstore c v e hfault
    rw [Stage.guarded_of_caller h]
    show (Stage.recovered _ r ⟨(Route.perform store caller (w.admitted mode r)
      (Route.asked r)).1, caller, _⟩).answer ∈ failureAnswers
    rw [hanswer, Stage.recovered_error]
    exact htold

end App

/-! ### Error texts -/

/-- What is said about failures reaches no client. Take two runs of an app that differ in the
wording of failures at most, of its own stores or of any that take their place: request by
request the answers are the same. And whenever a collaborator fails while a request is served,
and not in words that it means for clients, the answer is one of three that were written down
before. -/
theorem error_texts_unseen (app : App) {w w' : World} (hw : w.Alike w')
    {moments moments' : List App.Moment} (h : List.Forall₂ App.Moment.Alike moments moments') :
    app.run w moments = app.run w' moments' ∧
    ∀ (v : World) (m : App.Moment),
      let s := app.meet v m.toEvent
      s.request.IsGuarded → (∀ c u, Discreet (m.store app.store c u).1) →
        App.Fails s.app.mode (m.store app.store) s.request s.before →
        ∃ requestId, ∃ answer ∈ App.failureAnswers,
          (app.respond v m).1 = App.sent s.request requestId answer := by
  refine ⟨app.run_alike hw h, ?_⟩
  intro v m s hguarded hstore hfails
  obtain ⟨answer, hmem, hanswer⟩ := App.serveBy_of_fails hguarded hstore hfails
  rw [App.respond_eq]
  exact ⟨_, answer, hmem, hanswer⟩

/-! ### A todo that is not read -/

/-- A todo is asked for, and the database fails with a message. -/
def unreadable (message : Text) : App.Moment where
  request :=
    { method := "GET"
      path := "/api/v1/todos/aaaaaaaa-aaaa-4aaa-8aaa-aaaaaaaaaaaa"
      query := []
      headers := [("X-User-ID", smallId)]
      body := none }
  now := 0
  readings := []
  endpoint := .rejected ""
  answers := [.failed message .absent]
  keys := retitling.keys
  users := retitling.users
  replacement := none

theorem unreadable_alike (message message' : Text) :
    (unreadable message).Alike (unreadable message') where
  event :=
    { request := rfl
      now := rfl
      readings := rfl
      endpoint := .rejected _ _
      answers := .cons (.failed _ _ _) .nil
      keys := fun _ => .ok _
      users := fun subject => by
        show (retitling.users subject).Alike (retitling.users subject)
        rcases retitling.users subject with user | _ | text
        · exact .user user
        · exact .unregistered
        · exact .failed text text }
  replacement := .none

/-- The client is told the same whatever the database says, and it is that something went
wrong. The log says what the database does. -/
theorem error_texts_unseen_unreadable :
    let app := trustingStartup.app
    let w := World.initial 0 (.rejected "")
    app.run w [unreadable "a"] = app.run w [unreadable "b"] ∧
      (∃ requestId, ∃ answer ∈ App.failureAnswers, (app.respond w (unreadable "a")).1 =
        App.sent (unreadable "a").request requestId answer) ∧
      (app.run w [unreadable "a"]).map Response.status = [500] ∧
      (app.respond w (unreadable "a")).2.journal.filterMap
        (fun entry => (Json.lookup entry.data "message").bind Json.Value.text?) = ["a"] := by
  intro app w
  have hworld : w.Alike w :=
    ⟨rfl, rfl, rfl, .rejected _ _, rfl, ⟨.nil, rfl⟩, rfl, rfl, rfl⟩
  have hsame := error_texts_unseen app hworld (.cons (unreadable_alike "a" "b") .nil)
  let s := app.meet w (unreadable "a").toEvent
  have hguarded : s.request.IsGuarded := ⟨by decide +kernel, by decide +kernel⟩
  have hheader : s.request.header? Gate.devUserHeader = some smallId := by decide +kernel
  have hasked : Route.asked s.request = .ok (.find (.text smallId)) := rfl
  have hfails : App.Fails s.app.mode ((unreadable "a").store app.store) s.request
      s.before := by
    refine .todos (.trusted hheader (by decide)) (by decide) hasked (Or.inl ⟨.raised "a", ?_⟩)
    decide +kernel
  refine ⟨hsame.1, ?_, ?_, ?_⟩
  · exact hsame.2 w (unreadable "a") hguarded (World.discreet_store app.store) hfails
  · decide +kernel
  · decide +kernel

end TodoServer
