/-
Requests served alike where failures are only worded otherwise.

A collaborator that fails says why: the database, the endpoint of the keys, a resolver, a
store. Here two worlds are compared in which the same things fail and differ in nothing but
what is said about that. Each part of the way of a request is taken by itself: it takes such
worlds to such worlds, and comes to the same answer, or to failures that differ in their
wording again. At the end of the way stands the part that turns failures into answers, and it
asks for their kind only.

* `World.Alike` and its like — what differs in the wording of failures, or in the log, at most;
* `TodoTable.answer_alike`, `KeySource.Alike.lookup`, `Identity.Resolver.Alike.resolve` — the
  collaborators;
* `Gate.screen_alike`, `Action.handle_alike` — the gate and the handlers;
* `Stage.recovered_alike` — the answers to failures;
* `App.serveBy_alike` — a request.
-/
import TodoServer.Proofs.Todo.Failures
import TodoServer.Proofs.Server.Exchanges
import TodoServer.Proofs.Server.Ownership

namespace TodoServer

open Http

/-! ### Likeness -/

/-- Outcomes of a fetch that differ in the wording of a failure at most. -/
inductive FetchOutcome.Alike : FetchOutcome → FetchOutcome → Prop
  | rejected (message message' : Text) : Alike (.rejected message) (.rejected message')
  | answered (status : Nat) (body : List UInt8) :
    Alike (.answered status body) (.answered status body)

/-- Answers of the database that differ in the wording of a failure at most; its code is the
same. -/
inductive Sql.Outcome.Alike : Sql.Outcome → Sql.Outcome → Prop
  | rows (rows : List Row) (touched : Option Number) :
    Alike (.rows rows touched) (.rows rows touched)
  | failed (message message' : Text) (code : Datum) :
    Alike (.failed message code) (.failed message' code)

/-- Conversations with the database in which the same has been sent, and answers that are alike
are to come. -/
structure Sql.Session.Alike (s s' : Sql.Session) : Prop where
  answers : List.Forall₂ Sql.Outcome.Alike s.answers s'.answers
  sent : s.sent = s'.sent

/-- What resolvers come back with, but for the wording of a failure. -/
inductive Identity.Resolution.Alike : Identity.Resolution → Identity.Resolution → Prop
  | user (id : Datum) : Alike (.user id) (.user id)
  | unregistered : Alike .unregistered .unregistered
  | failed (message message' : Text) : Alike (.failed message) (.failed message')

/-- Why a source gave no key, but for the wording. -/
inductive Token.SourceFault.Alike : Token.SourceFault → Token.SourceFault → Prop
  | keySet (fault fault' : KeyFault) : Alike (.keySet fault) (.keySet fault')
  | broken (message message' : Text) : Alike (.broken message) (.broken message')

/-- Sources of keys that differ in the wording of failures at most. -/
inductive KeySource.Alike : KeySource → KeySource → Prop
  | cached (settings : KeySetSettings) : Alike (.cached settings) (.cached settings)
  | rule {answer answer' : Text → Except Token.SourceFault SigningKey}
    (h : ∀ keyId, SameUpTo Token.SourceFault.Alike (answer keyId) (answer' keyId)) :
    Alike (.rule answer) (.rule answer')

/-- Resolvers that differ in the wording of failures at most. -/
inductive Identity.Resolver.Alike : Identity.Resolver → Identity.Resolver → Prop
  | registered : Alike .registered .registered
  | rule {answer answer' : Datum → Identity.Resolution}
    (h : ∀ subject, (answer subject).Alike (answer' subject)) :
    Alike (.rule answer) (.rule answer')

/-- Modes whose collaborators differ in the wording of failures at most. -/
inductive Gate.Mode.Alike : Gate.Mode → Gate.Mode → Prop
  | devBypass : Alike .devBypass .devBypass
  | verified {keys keys' : KeySource} {resolver resolver' : Identity.Resolver}
    (expected : Token.Expected) (hkeys : keys.Alike keys')
    (hresolver : resolver.Alike resolver') :
    Alike (.verified keys expected resolver) (.verified keys' expected resolver')

/-- Worlds that differ in the wording of failures and in the log at most. -/
structure World.Alike (w w' : World) : Prop where
  now : w.now = w'.now
  readings : w.readings = w'.readings
  idsGiven : w.idsGiven = w'.idsGiven
  endpoint : w.endpoint.Alike w'.endpoint
  cache : w.cache = w'.cache
  database : w.database.Alike w'.database
  memory : w.memory = w'.memory
  fetches : w.fetches = w'.fetches
  calls : w.calls = w'.calls

/-- Stores that answer alike on the world. -/
def Store.Alike (store store' : Store.Answers World) : Prop :=
  ∀ c w w', w.Alike w' →
    SameUpTo Fault.Alike (store c w).1 (store' c w').1 ∧ (store c w).2.Alike (store' c w').2

/-! ### The database -/

namespace Sql.Session.Alike

variable {s s' : Sql.Session}

theorem send (h : s.Alike s') (q : Query) :
    (s.send q).1.Alike (s'.send q).1 ∧ (s.send q).2.Alike (s'.send q).2 := by
  obtain ⟨answers, sent⟩ := s
  obtain ⟨answers', sent'⟩ := s'
  obtain ⟨hanswers, hsent⟩ := h
  simp only at hanswers hsent
  subst hsent
  cases hanswers with
  | nil => exact ⟨.rows _ _, .nil, rfl⟩
  | cons hfirst hrest => exact ⟨hfirst, hrest, rfl⟩

end Sql.Session.Alike

namespace TodoTable

open Sql

variable {α : Type} {s s' : Session} {outcome outcome' : Outcome}

theorem withKeys_alike {keys : List Datum} {otherwise : Except Fault α}
    {ask : Session → Except Fault α × Session} (h : s.Alike s')
    (hask : SameUpTo Fault.Alike (ask s).1 (ask s').1 ∧ (ask s).2.Alike (ask s').2) :
    SameUpTo Fault.Alike (withKeys keys otherwise ask s).1 (withKeys keys otherwise ask s').1 ∧
      (withKeys keys otherwise ask s).2.Alike (withKeys keys otherwise ask s').2 := by
  unfold withKeys
  rcases areKeys keys with fault | (_ | _)
  · exact ⟨.error (.refl fault), h⟩
  · exact ⟨.refl Fault.Alike.refl otherwise, h⟩
  · exact hask

theorem read_alike (c : Store.Call) (h : outcome.Alike outcome') :
    SameUpTo Fault.Alike (c.read outcome) (c.read outcome') := by
  cases h with
  | rows rows touched => exact .refl Fault.Alike.refl _
  | failed message message' code =>
    cases c with
    | create todo =>
      -- the code decides whether the owner is unknown
      refine .error ?_
      split_ifs <;> rfl
    | _ => exact .error rfl

/-- A call to the table is answered alike where the database answers alike. -/
theorem answer_alike (c : Store.Call) (h : s.Alike s') :
    SameUpTo Fault.Alike (answer c s).1 (answer c s').1 ∧
      (answer c s).2.Alike (answer c s').2 := by
  rw [answer_eq, answer_eq]
  refine withKeys_alike h ?_
  unfold Store.Call.ask
  rcases c.query with fault | q
  · exact ⟨.error (.refl fault), h⟩
  · obtain ⟨houtcome, hafter⟩ := h.send q
    exact ⟨read_alike c houtcome, hafter⟩

end TodoTable

/-- A resolver answers alike where the database does. -/
theorem Identity.Resolver.Alike.resolve {resolver resolver' : Identity.Resolver}
    (h : resolver.Alike resolver') (subject : Datum) {s s' : Sql.Session} (hs : s.Alike s') :
    (resolver.resolve subject s).1.Alike (resolver'.resolve subject s').1 ∧
      (resolver.resolve subject s).2.Alike (resolver'.resolve subject s').2 := by
  cases h with
  | rule h => exact ⟨h subject, hs⟩
  | registered =>
    obtain ⟨houtcome, hafter⟩ := hs.send (Users.findQuery subject)
    unfold Identity.Resolver.resolve Users.find
    rcases hsend : s.send (Users.findQuery subject) with ⟨outcome, t⟩
    rcases hsend' : s'.send (Users.findQuery subject) with ⟨outcome', t'⟩
    rw [hsend, hsend'] at houtcome hafter
    cases houtcome with
    | rows rows touched =>
      rcases rows with _ | ⟨row, rest⟩
      · exact ⟨.unregistered, hafter⟩
      · exact ⟨.user _, hafter⟩
    | failed message message' code => exact ⟨.failed _ _, hafter⟩

/-! ### Keys -/

namespace Cache

/-- The end of a fetch leaves the cache the same, and is a success in both cases or in none. -/
theorem arrive_alike {outcome outcome' : FetchOutcome} (h : outcome.Alike outcome') (now : Rat)
    (c : Cache) :
    SameUpTo (fun _ _ => True) (c.arrive now outcome).1 (c.arrive now outcome').1 ∧
      (c.arrive now outcome).2 = (c.arrive now outcome').2 := by
  cases h with
  | rejected message message' => exact ⟨.error trivial, rfl⟩
  | answered status body => exact ⟨.refl (fun _ => trivial) _, rfl⟩

theorem get_alike {outcome outcome' : FetchOutcome} (h : outcome.Alike outcome')
    (cooldown : Number) (now : Rat) (keyId : Text) (c : Cache) :
    SameUpTo (fun _ _ => True) (c.get cooldown now outcome keyId).answer
        (c.get cooldown now outcome' keyId).answer ∧
      (c.get cooldown now outcome keyId).cache = (c.get cooldown now outcome' keyId).cache ∧
      (c.get cooldown now outcome keyId).fetches =
        (c.get cooldown now outcome' keyId).fetches := by
  unfold get
  rcases c.start cooldown now keyId with ⟨key | _ | started, c'⟩
  · exact ⟨.ok key, rfl, rfl⟩
  · exact ⟨.error trivial, rfl, rfl⟩
  · obtain ⟨hrefreshed, hcache⟩ := arrive_alike h now c'
    rcases harrive : c'.arrive now outcome with ⟨refreshed, d⟩
    rcases harrive' : c'.arrive now outcome' with ⟨refreshed', d'⟩
    rw [harrive, harrive'] at hrefreshed hcache
    simp only at hcache
    subst hcache
    simp only [harrive, harrive']
    refine ⟨?_, trivial, trivial⟩
    cases hrefreshed with
    | ok _ => exact .refl (fun _ => trivial) _
    | error _ => exact .error trivial

end Cache

variable {w w' : World}

/-- A log entry makes no difference. -/
theorem World.Alike.note (h : w.Alike w') (entry entry' : Log.Entry) :
    (w.note entry).Alike (w'.note entry') :=
  ⟨h.now, h.readings, h.idsGiven, h.endpoint, h.cache, h.database, h.memory, h.fetches,
    h.calls⟩

theorem KeySource.Alike.lookup {keys keys' : KeySource} (h : keys.Alike keys') (keyId : Text)
    (hw : w.Alike w') :
    SameUpTo Token.SourceFault.Alike (keys.lookup keyId w).1 (keys'.lookup keyId w').1 ∧
      (keys.lookup keyId w).2.Alike (keys'.lookup keyId w').2 := by
  cases h with
  | rule h => exact ⟨h keyId, hw⟩
  | cached settings =>
    obtain ⟨hanswer, hcache, hfetches⟩ :=
      Cache.get_alike hw.endpoint settings.cooldown w.now keyId w.cache
    rw [KeySource.lookup_cached, KeySource.lookup_cached]
    unfold cachedOne
    rw [← hw.now, ← hw.cache, ← hw.fetches]
    refine ⟨?_, rfl, hw.readings, hw.idsGiven, hw.endpoint, hcache, hw.database, hw.memory, ?_,
      hw.calls⟩
    · show SameUpTo _
        ((w.cache.get settings.cooldown w.now w.endpoint keyId).answer.mapError
          Token.SourceFault.keySet)
        ((w.cache.get settings.cooldown w.now w'.endpoint keyId).answer.mapError
          Token.SourceFault.keySet)
      generalize (w.cache.get settings.cooldown w.now w.endpoint keyId).answer = answer,
        (w.cache.get settings.cooldown w.now w'.endpoint keyId).answer = answer' at hanswer ⊢
      cases hanswer with
      | ok key => exact .ok key
      | error _ => exact .error (.keySet _ _)
    · show w.fetches ++ _ = w.fetches ++ _
      rw [hfetches]

theorem Token.verify_alike {keys keys' : KeySource} (h : keys.Alike keys') (token : Text)
    (expected : Token.Expected) (now : Date) (hw : w.Alike w') :
    SameUpTo (fun _ _ => True) (Token.verify keys.lookup token expected now w).1
        (Token.verify keys'.lookup token expected now w').1 ∧
      (Token.verify keys.lookup token expected now w).2.Alike
        (Token.verify keys'.lookup token expected now w').2 := by
  unfold Token.verify
  rcases Token.Header.read token with failure | header
  · exact ⟨.ok _, hw⟩
  · obtain ⟨hanswer, hafter⟩ := h.lookup header.keyId hw
    rcases hlookup : keys.lookup header.keyId w with ⟨answer, v⟩
    rcases hlookup' : keys'.lookup header.keyId w' with ⟨answer', v'⟩
    rw [hlookup, hlookup'] at hanswer hafter
    simp only [hlookup, hlookup']
    cases hanswer with
    | ok key => exact ⟨.ok _, hafter⟩
    | error hfault =>
      cases hfault with
      | keySet fault fault' => exact ⟨.ok _, hafter⟩
      | broken message message' => exact ⟨.error trivial, hafter⟩

/-! ### The gate -/

namespace Gate

/-- What becomes of a request at the gate, but for the wording of a failure. -/
inductive Admission.Alike : Admission → Admission → Prop
  | refl (admission : Admission) : Alike admission admission
  | failed {fault fault' : Fault} (h : fault.Alike fault') :
    Alike (.failed fault) (.failed fault')

theorem screenSubject_alike {resolver resolver' : Identity.Resolver}
    (h : resolver.Alike resolver') (subject requestId : Text) (hw : w.Alike w') :
    (screenSubject resolver subject requestId w).1 =
        (screenSubject resolver' subject requestId w').1 ∧
      (screenSubject resolver subject requestId w).2.Alike
        (screenSubject resolver' subject requestId w').2 := by
  obtain ⟨hresolution, hdatabase⟩ := h.resolve subject hw.database
  unfold screenSubject
  rcases hresolve : resolver.resolve subject w.database with ⟨resolution, database⟩
  rcases hresolve' : resolver'.resolve subject w'.database with ⟨resolution', database'⟩
  rw [hresolve, hresolve'] at hresolution hdatabase
  have hafter : World.Alike { w with database } { w' with database := database' } :=
    ⟨hw.now, hw.readings, hw.idsGiven, hw.endpoint, hw.cache, hdatabase, hw.memory, hw.fetches,
      hw.calls⟩
  cases hresolution with
  | user id => exact ⟨rfl, hafter⟩
  | unregistered => exact ⟨rfl, hafter⟩
  | failed message message' => exact ⟨rfl, hafter.note _ _⟩

theorem screen_alike {mode mode' : Mode} (h : mode.Alike mode') (r : Request)
    (requestId : Text) (hw : w.Alike w') :
    (screen mode none r requestId w).1.Alike (screen mode' none r requestId w').1 ∧
      (screen mode none r requestId w).2.Alike (screen mode' none r requestId w').2 := by
  unfold screen
  by_cases hexempt : isExempt (Path.canonical r.path) = true
  · rw [if_pos hexempt, if_pos hexempt]
    exact ⟨.refl _, hw⟩
  rw [if_neg hexempt, if_neg hexempt]
  cases h with
  | devBypass => exact ⟨.refl _, hw⟩
  | @verified keys keys' resolver resolver' expected hkeys hresolver =>
    rcases bearerToken r with message | token
    · exact ⟨.refl _, hw⟩
    have htime : w.time = w'.time := by rw [World.time, World.time, hw.now]
    obtain ⟨hverdict, hafter⟩ := Token.verify_alike hkeys token expected w.time hw
    simp only [screenToken, Option.getD_none, ← htime]
    rcases hverify : Token.verify keys.lookup token expected w.time w with ⟨verdict, v⟩
    rcases hverify' : Token.verify keys'.lookup token expected w.time w' with ⟨verdict', v'⟩
    rw [hverify, hverify'] at hverdict hafter
    simp only at hverdict hafter
    cases hverdict with
    | error _ => exact ⟨.failed rfl, hafter⟩
    | ok verdict =>
      rcases verdict with failure | verified
      · exact ⟨.refl _, hafter⟩
      · obtain ⟨hadmission, hleft⟩ :=
          screenSubject_alike hresolver verified.subject requestId hafter
        refine ⟨?_, hleft⟩
        simp only [hadmission]
        exact .refl _

end Gate

/-! ### Handlers -/

theorem World.store_alike (kind : StoreKind) :
    Store.Alike (World.store kind) (World.store kind) := by
  intro c w w' hw
  have hcalls : w.calls ++ [c] = w'.calls ++ [c] := by rw [hw.calls]
  cases kind with
  | memory =>
    have hreply : Memory.answer c w.memory = Memory.answer c w'.memory := by rw [hw.memory]
    refine ⟨?_, hw.now, hw.readings, hw.idsGiven, hw.endpoint, hw.cache, hw.database, ?_,
      hw.fetches, hcalls⟩
    · show SameUpTo _ (Memory.answer c w.memory).1 (Memory.answer c w'.memory).1
      rw [hreply]
      exact .refl Fault.Alike.refl _
    · exact congrArg Prod.snd hreply
  | database =>
    obtain ⟨hreply, hdatabase⟩ := TodoTable.answer_alike c hw.database
    exact ⟨hreply, hw.now, hw.readings, hw.idsGiven, hw.endpoint, hw.cache, hdatabase,
      hw.memory, hw.fetches, hcalls⟩

theorem Action.handle_alike {store store' : Store.Answers World}
    (hstore : Store.Alike store store') (a : Action) (caller : Datum) (hw : w.Alike w') :
    SameUpTo Fault.Alike (a.handle store caller w).1 (a.handle store' caller w').1 ∧
      (a.handle store caller w).2.Alike (a.handle store' caller w').2 := by
  by_cases hblank : caller.isBlank = true
  · rw [handle_of_blank hblank, handle_of_blank hblank]
    exact ⟨.error (.refl _), hw⟩
  · have hsome := Bool.eq_false_iff.2 hblank
    obtain ⟨hresult, hafter⟩ := Store.Program.run_alike hstore (a.program_reports caller) hw
    rw [handle_of_not_blank hsome, handle_of_not_blank hsome]
    exact ⟨hresult.bind Fault.Alike.refl a.write, hafter⟩

theorem Route.perform_alike {store store' : Store.Answers World}
    (hstore : Store.Alike store store') (caller : Datum) (asked : Except Response Action)
    (hw : w.Alike w') :
    SameUpTo Fault.Alike (perform store caller w asked).1 (perform store' caller w' asked).1 ∧
      (perform store caller w asked).2.Alike (perform store' caller w' asked).2 := by
  rcases asked with response | a
  · exact ⟨.ok response, hw⟩
  · exact a.handle_alike hstore caller hw

/-! ### Stages -/

/-- Exchanges that differ in the wording of failures at most. -/
structure Exchange.Alike (e e' : Exchange (Except Fault Response)) : Prop where
  answer : SameUpTo Fault.Alike e.answer e'.answer
  caller : e.caller = e'.caller
  world : e.world.Alike e'.world

namespace Stage

/-- The answer to a failure, by what is gone by in it. -/
def answerTo : Fault.Kind → Response
  | .told error => apiResponse error
  | _ => .internalError

variable {requestId : String} {r : Request} {caller : Datum}

theorem recovered_error (fault : Fault) (caller : Datum) (w : World) :
    (recovered requestId r ⟨.error fault, caller, w⟩).answer = answerTo fault.kind := by
  cases fault <;> rfl

theorem answerTo_unauthorized (message : Text) :
    answerTo (.told (.unauthorized message)) = .unauthorized message := by
  have hstatus : errorStatus (.ofInt 401) = 401 := by decide +kernel
  show Response.json (errorStatus (.ofInt 401)) _ = _
  rw [hstatus]
  rfl

theorem world_recovered (requestId : String) (r : Request)
    (e : Exchange (Except Fault Response)) : (recovered requestId r e).world = e.world ∨
      ∃ entry, (recovered requestId r e).world = e.world.note entry := by
  unfold recovered
  split
  · exact Or.inl rfl
  · exact Or.inl rfl
  · exact Or.inr ⟨_, rfl⟩

/-- Failures are answered by their kind, whatever they say. -/
theorem recovered_alike (requestId : String) (r : Request)
    {e e' : Exchange (Except Fault Response)} (h : e.Alike e') :
    (recovered requestId r e).answer = (recovered requestId r e').answer ∧
      (recovered requestId r e).caller = (recovered requestId r e').caller ∧
      (recovered requestId r e).world.Alike (recovered requestId r e').world := by
  refine ⟨?_, ?_, ?_⟩
  · obtain ⟨answer, caller, w⟩ := e
    obtain ⟨answer', caller', w'⟩ := e'
    obtain ⟨hanswer, -, -⟩ := h
    simp only at hanswer
    cases hanswer with
    | ok response => rfl
    | error hfault =>
      rw [recovered_error, recovered_error]
      exact congrArg answerTo hfault
  · rw [caller_recovered, caller_recovered, h.caller]
  · obtain ⟨hnow, hreadings, hids, hendpoint, hcache, hdatabase, hmemory, hfetches, hcalls⟩ :=
      h.world
    rcases world_recovered requestId r e with hworld | ⟨entry, hworld⟩ <;>
      rcases world_recovered requestId r e' with hworld' | ⟨entry', hworld'⟩ <;>
      rw [hworld, hworld'] <;>
      exact ⟨hnow, hreadings, hids, hendpoint, hcache, hdatabase, hmemory, hfetches, hcalls⟩

theorem guarded_alike {mode mode' : Gate.Mode} (hmode : mode.Alike mode')
    {handler handler' : Handler} (hhandler : ∀ caller w w', w.Alike w' →
      SameUpTo Fault.Alike (handler r caller w).1 (handler' r caller w').1 ∧
        (handler r caller w).2.Alike (handler' r caller w').2)
    (hw : w.Alike w') :
    (guarded mode none handler requestId r w).Alike
      (guarded mode' none handler' requestId r w') := by
  obtain ⟨hadmission, hafter⟩ := Gate.screen_alike hmode r requestId hw
  unfold guarded
  rcases hscreen : Gate.screen mode none r requestId w with ⟨admission, v⟩
  rcases hscreen' : Gate.screen mode' none r requestId w' with ⟨admission', v'⟩
  rw [hscreen, hscreen'] at hadmission hafter
  simp only at hadmission hafter
  cases hadmission with
  | refl =>
    cases admission with
    | exempt =>
      obtain ⟨hanswer, hleft⟩ := hhandler .absent v v' hafter
      exact ⟨hanswer, rfl, hleft⟩
    | caller userId =>
      obtain ⟨hanswer, hleft⟩ := hhandler userId v v' hafter
      exact ⟨hanswer, rfl, hleft⟩
    | refused response => exact ⟨.ok response, rfl, hafter⟩
    | failed fault => exact ⟨.error (.refl fault), rfl, hafter⟩
  | failed hfault => exact ⟨.error hfault, rfl, hafter⟩

end Stage

/-! ### Requests -/

namespace World.Alike

theorem requestId (hw : w.Alike w') (r : Request) :
    (Stage.requestId r w).1 = (Stage.requestId r w').1 ∧
      (Stage.requestId r w).2.Alike (Stage.requestId r w').2 := by
  unfold Stage.requestId World.freshId
  rw [hw.idsGiven]
  split_ifs
  · exact ⟨rfl, hw.now, hw.readings, rfl, hw.endpoint, hw.cache, hw.database, hw.memory,
      hw.fetches, hw.calls⟩
  · exact ⟨rfl, hw⟩

theorem reading (hw : w.Alike w') :
    w.reading.1 = w'.reading.1 ∧ w.reading.2.Alike w'.reading.2 := by
  rw [World.reading_fst, World.reading_fst, World.reading_snd, World.reading_snd, hw.readings]
  exact ⟨rfl, hw.now, rfl, hw.idsGiven, hw.endpoint, hw.cache, hw.database, hw.memory,
    hw.fetches, hw.calls⟩

end World.Alike

namespace App

theorem leave_alike {e e' : Exchange Response} (r : Request) (requestId : String)
    (start : Number) (hanswer : e.answer = e'.answer) (hworld : e.world.Alike e'.world) :
    (leave r requestId start e).1 = (leave r requestId start e').1 ∧
      (leave r requestId start e).2.Alike (leave r requestId start e').2 := by
  refine ⟨congrArg (sent r requestId) hanswer, ?_⟩
  exact hworld.reading.2.note _ _

/-- A request is answered alike where its gate and its handlers do alike. -/
theorem serveBy_alike {mode mode' : Gate.Mode} (hmode : mode.Alike mode')
    {handler handler' : Handler} {r : Request}
    (hhandler : ∀ caller w w', w.Alike w' →
      SameUpTo Fault.Alike (handler r caller w).1 (handler' r caller w').1 ∧
        (handler r caller w).2.Alike (handler' r caller w').2)
    (hw : w.Alike w') :
    (serveBy mode handler r w).1 = (serveBy mode' handler' r w').1 ∧
      (serveBy mode handler r w).2.Alike (serveBy mode' handler' r w').2 := by
  -- the answer carries the id, and what is measured before the gate is read off the request
  -- alone
  obtain ⟨hid, hidentified⟩ := hw.requestId r
  unfold serveBy
  split_ifs with hsize
  · simp only [hid]
    exact ⟨trivial, hidentified⟩
  · obtain ⟨hstart, hstarted⟩ := hidentified.reading
    obtain ⟨hanswer, -, hworld⟩ := Stage.recovered_alike (Stage.requestId r w).1 r
      (Stage.guarded_alike hmode hhandler hstarted)
    simp only [← hid, ← hstart]
    exact leave_alike _ _ _ hanswer hworld

end App

end TodoServer
