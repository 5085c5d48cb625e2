/-
How a server serves, one request after the other.

Around the gate there are stages that only log, put headers on answers, or refuse a body for
its size. What they change of the world is set aside here, so that facts about the gate and the
handlers are facts about the server. A run is the list of the requests that it serves while the
world changes around it.

* `World.Aside` — worlds that differ by what those stages change;
* `App.serve_within`, `App.serve_aside`, `App.serve_cases` — a request is guarded, or leaves
  nothing but log entries;
* `App.Event`, `App.history` — what happens to a server, and the requests it has served by
  then;
* `App.build_isOf` — the mode of an app is that of its configuration.
-/
import TodoServer.Server.App
import TodoServer.Proofs.Identity.Screening

namespace TodoServer

open Http

/-! ### Stages -/

/-- Two worlds that differ by readings of the stopwatch, ids given out and log entries at
most. -/
structure World.Aside (w w' : World) : Prop where
  now_eq : w'.now = w.now
  endpoint_eq : w'.endpoint = w.endpoint
  cache_eq : w'.cache = w.cache
  database_eq : w'.database = w.database
  memory_eq : w'.memory = w.memory
  fetches_eq : w'.fetches = w.fetches
  calls_eq : w'.calls = w.calls

namespace World.Aside

variable {w w' w'' : World}

theorem refl (w : World) : w.Aside w := ⟨rfl, rfl, rfl, rfl, rfl, rfl, rfl⟩

theorem trans (h : w.Aside w') (h' : w'.Aside w'') : w.Aside w'' :=
  ⟨h'.now_eq.trans h.now_eq, h'.endpoint_eq.trans h.endpoint_eq, h'.cache_eq.trans h.cache_eq,
    h'.database_eq.trans h.database_eq, h'.memory_eq.trans h.memory_eq,
    h'.fetches_eq.trans h.fetches_eq, h'.calls_eq.trans h.calls_eq⟩

theorem note (h : w.Aside w') (entry : Log.Entry) : w.Aside (w'.note entry) :=
  h.trans ⟨rfl, rfl, rfl, rfl, rfl, rfl, rfl⟩

theorem reading (w : World) : w.Aside w.reading.2 := by
  unfold World.reading
  split
  · exact .refl w
  · exact ⟨rfl, rfl, rfl, rfl, rfl, rfl, rfl⟩

theorem requestId (r : Request) (w : World) : w.Aside (Stage.requestId r w).2 := by
  unfold Stage.requestId
  split_ifs
  · exact ⟨rfl, rfl, rfl, rfl, rfl, rfl, rfl⟩
  · exact .refl w

theorem adds (h : w.Aside w') : w.Adds w' [] [] := .of_eq h.calls_eq h.database_eq

theorem sameKeys (h : w.Aside w') : w.SameKeys w' := ⟨h.now_eq, h.endpoint_eq, h.cache_eq⟩

/-- Evidence is the same in both worlds. -/
theorem establishes_iff (h : w.Aside w') {mode : Gate.Mode} {r : Request} {userId : Datum} :
    Gate.Establishes mode r w' userId ↔ Gate.Establishes mode r w userId := by
  constructor
  · intro hw'
    refine hw'.congr ?_
    cases mode with
    | devBypass => exact rfl
    | verified keys expected resolver =>
      exact ⟨rfl, ⟨h.now_eq.symm, h.endpoint_eq.symm, h.cache_eq.symm⟩, fun subject => by
        rw [h.database_eq]⟩
  · intro hw
    refine hw.congr ?_
    cases mode with
    | devBypass => exact rfl
    | verified keys expected resolver =>
      exact ⟨rfl, h.sameKeys, fun subject => by rw [h.database_eq]⟩

end World.Aside

namespace App

variable (app : App) (r : Request) (w : World)

/-- A request at the gate and behind it, its failures turned into answers. -/
def guarded (requestId : String) : Exchange Response :=
  Stage.recovered requestId r
    (Stage.guarded app.mode none (Route.dispatch app.store) requestId r w)

/-- An answer as it leaves the server. -/
def sent (requestId : String) (response : Response) : Response :=
  ((response.withHeaders [(RequestId.header, requestId)]).withHeaders
    securityHeaders).sentFor r

/-- A failure that is turned into an answer is logged at most. -/
theorem recovered_aside {requestId : String} (e : Exchange (Except Fault Response)) :
    e.world.Aside (Stage.recovered requestId r e).world := by
  unfold Stage.recovered
  split
  · exact .refl _
  · exact .refl _
  · exact (World.Aside.refl _).note _

/-- What the stages do to a request that is not refused for its size: they see to it that it is
guarded, and otherwise only log it and put headers on its answer. -/
theorem serve_within (hsize : BodyLimit.exceeds BodyLimit.defaultMax r = false) :
    ∃ requestId w', w.Aside w' ∧
      (app.serve r w).1 = sent r requestId (app.guarded r w' requestId).answer ∧
      (app.guarded r w' requestId).world.Aside (app.serve r w).2 := by
  have hwords : BodyLimit.defaultMax.hasWords = true := rfl
  unfold serve Stage.identified Stage.limited handle Stage.logged
  simp only [hsize, hwords, Bool.not_true, Bool.and_false, Bool.false_eq_true, if_false]
  refine ⟨(Stage.requestId r w).1, (Stage.requestId r w).2.reading.2,
    (World.Aside.requestId r w).trans (.reading _), rfl, ?_⟩
  -- the stopwatch is read once more, and then the request is logged
  exact (World.Aside.reading _).note _

/-- A request that is refused for its size leaves the world as it is but for its id. -/
theorem serve_aside (hsize : BodyLimit.exceeds BodyLimit.defaultMax r = true) :
    w.Aside (app.serve r w).2 := by
  have hwords : BodyLimit.defaultMax.hasWords = true := rfl
  unfold serve Stage.identified Stage.limited
  simp only [hsize, hwords, if_true, Bool.not_true, Bool.and_false, Bool.false_eq_true,
    if_false]
  exact .requestId r w

/-- A request is guarded, or leaves the world as it is but for the log. -/
theorem serve_cases :
    w.Aside (app.serve r w).2 ∨ ∃ requestId w', w.Aside w' ∧
      (app.guarded r w' requestId).world.Aside (app.serve r w).2 := by
  by_cases hsize : BodyLimit.exceeds BodyLimit.defaultMax r = true
  · exact Or.inl (app.serve_aside r w hsize)
  · obtain ⟨requestId, w', haside, -, hserve⟩ :=
      app.serve_within r w (Bool.eq_false_iff.2 hsize)
    exact Or.inr ⟨requestId, w', haside, hserve⟩

end App

/-! ### Runs -/

/-- What happens to a server until it answers a request: the clock, the stopwatch, the endpoint
and the database have come to say something else, and so have a source of keys and a resolver
that go by rules of their own. -/
structure App.Event where
  request : Request
  now : Rat
  readings : List Number
  endpoint : FetchOutcome
  answers : List Sql.Outcome
  keys : Text → Except Token.SourceFault SigningKey
  users : Datum → Identity.Resolution

/-- A source of keys whose own rule, if it has one, is another now. -/
def KeySource.answering (answer : Text → Except Token.SourceFault SigningKey) :
    KeySource → KeySource
  | .cached settings => .cached settings
  | .rule _ => .rule answer

/-- A resolver whose own rule, if it has one, is another now. -/
def Identity.Resolver.answering (answer : Datum → Resolution) : Resolver → Resolver
  | .registered => .registered
  | .rule _ => .rule answer

/-- A mode whose collaborators go by other rules now. -/
def Gate.Mode.answering (e : App.Event) : Mode → Mode
  | .devBypass => .devBypass
  | .verified keys expected resolver =>
    .verified (keys.answering e.keys) expected (resolver.answering e.users)

/-- A request, the app that it comes to and the world that it comes in. -/
structure Served where
  app : App
  request : Request
  before : World

/-- An app meets a request. -/
def App.meet (app : App) (w : World) (e : Event) : Served where
  app := { app with mode := app.mode.answering e }
  request := e.request
  before :=
    { w with
      now := e.now
      readings := e.readings
      endpoint := e.endpoint
      database := { w.database with answers := e.answers } }

namespace Served

variable (s : Served)

/-- The answer to the request. -/
def response : Response := (s.app.serve s.request s.before).1

/-- The world after it. -/
def after : World := (s.app.serve s.request s.before).2

/-- There is evidence for a caller. -/
def Establishes (caller : Datum) : Prop :=
  Gate.Establishes s.app.mode s.request s.before caller

end Served

/-- The requests that an app serves as things happen, one after the other. -/
def App.history (app : App) : World → List Event → List Served
  | _, [] => []
  | w, e :: rest => app.meet w e :: app.history (app.meet w e).after rest

theorem App.mem_history {app : App} {w : World} {events : List Event} {s : Served}
    (h : s ∈ app.history w events) : ∃ w' e, s = app.meet w' e := by
  induction events generalizing w with
  | nil => cases h
  | cons e rest ih =>
    rcases List.mem_cons.1 h with h | h
    · exact ⟨w, e, h⟩
    · exact ih h

/-- The modes of an app with a way to identify callers. -/
inductive Gate.Mode.IsOf : Authentication → Mode → Prop
  | devBypass : IsOf .devBypass .devBypass
  | verifiedToken {issuer audience keySetUrl : Text} {cooldown : Number} {keys : KeySource}
    {resolver : Identity.Resolver} :
    IsOf (.verifiedToken issuer audience keySetUrl cooldown)
      (.verified keys ⟨.text issuer, .text audience⟩ resolver)

theorem Gate.Mode.IsOf.answering {auth : Authentication} {mode : Mode} (h : IsOf auth mode)
    (e : App.Event) : IsOf auth (mode.answering e) := by
  cases h with
  | devBypass => exact .devBypass
  | verifiedToken => exact .verifiedToken

/-- The mode of an app is that of its configuration. -/
theorem App.build_isOf {config : Config} {overrides : Overrides} {startup : Startup}
    (h : App.build config overrides = .ok startup) :
    Gate.Mode.IsOf config.auth startup.app.mode := by
  unfold App.build at h
  rcases hmode : Gate.Mode.ofSetup (gateSetup config.auth overrides) with fault | mode
  · rw [hmode] at h
    cases h
  · rw [hmode] at h
    cases h
    rcases hauth : config.auth with _ | ⟨issuer, audience, url, cooldown⟩
    · rw [hauth] at hmode
      cases hmode
      exact .devBypass
    · rw [hauth] at hmode
      unfold Gate.Mode.ofSetup gateSetup at hmode
      have hkind : (Gate.verifiedKind : Datum) ≠ Gate.devBypassKind := by decide
      simp only [hkind, if_false, ne_eq, not_true_eq_false] at hmode
      split_ifs at hmode
      cases hmode
      exact .verifiedToken

end TodoServer
