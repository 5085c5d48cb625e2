/-
Tokens that anyone can make up.

Whoever makes up tokens can have them verified, and verification may fetch keys. But a
verification has a verdict in any case, begins one fetch at most, and leaves behind what the
key id in the header of the token makes it leave, whatever else the token says. So made-up
tokens are look-ups like any others to the cache, which limits how often it refreshes; and a
request with such a token is told that it is not authorized, and never that something has
failed.

* `Token.Frugal` — how a verification over the cache behaves;
* `App.status_of_not_guarded` — nothing fails where no identity is asked for;
* `App.serve_of_unverified` — what comes of a request whose token is not verified;
* `verification_frugal` — all tokens, caches, endpoints and clocks, alone and among others, and
  requests.
-/
import TodoServer.Proofs.Server.Bodies
import TodoServer.Proofs.Server.Rejection
import TodoServer.Proofs.Token.Lookups

namespace TodoServer

open Http

/-! ### Verification -/

/-- A verification over the cache has a verdict, begins a fetch only for a key that is not
known, where a refresh is allowed and no fetch is under way, and then one, and says that the
key is unknown exactly if the header is accepted and the look-up fails. What it leaves behind
is the same for all tokens that ask for the same key. -/
structure Token.Frugal (settings : KeySetSettings) (token : Text) (expected : Token.Expected)
    (now : Date) (w : World) (done : Except Text Token.Verdict × World) : Prop where
  total : ∃ verdict, done.1 = .ok verdict
  fetches : ∃ begun, done.2.fetches = w.fetches ++ begun ∧ begun.length ≤ 1 ∧
    (begun ≠ [] ↔ ∃ keyId, Token.keyAsked? token = some keyId ∧
      w.cache.snapshot.get? keyId = none ∧ w.cache.mayRefresh settings.cooldown w.now = true ∧
        w.cache.inFlight = false)
  unknownKey_iff : done.1 = .ok (.error .unknownKey) ↔ ∃ keyId fault,
    Token.keyAsked? token = some keyId ∧
      (w.cache.get settings.cooldown w.now w.endpoint keyId).answer = .error fault
  same : ∀ (other : Text) (expected' : Token.Expected) (now' : Date),
    Token.keyAsked? other = Token.keyAsked? token →
      (Token.verify (KeySource.cached settings).lookup other expected' now' w).2 = done.2

theorem Token.frugal_verify (settings : KeySetSettings) (token : Text)
    (expected : Token.Expected) (now : Date) (w : World) :
    Frugal settings token expected now w
      (verify (KeySource.cached settings).lookup token expected now w) where
  total := exists_verdict
  fetches := by
    obtain ⟨begun, hfetches, hone, hbegun⟩ :=
      @exists_fetches_verify token expected now settings w
    refine ⟨begun, hfetches, hone, hbegun.trans ?_⟩
    simp only [Cache.Waits, and_assoc]
  unknownKey_iff := verify_eq_unknownKey_iff
  same _ _ _ hsame := verify_snd_congr hsame

/-- What is outside the keys and the clock has no say in what a verification does to the
cache. -/
theorem World.Aside.verify_snd {w w' : World} (h : w.Aside w') (settings : KeySetSettings)
    (token : Text) (expected expected' : Token.Expected) (now now' : Date) :
    (Token.verify (KeySource.cached settings).lookup token expected' now' w').2.cache =
        (Token.verify (KeySource.cached settings).lookup token expected now w).2.cache ∧
      (Token.verify (KeySource.cached settings).lookup token expected' now' w').2.fetches =
        (Token.verify (KeySource.cached settings).lookup token expected now w).2.fetches := by
  rw [Token.verify_snd_eq, Token.verify_snd_eq]
  rcases Token.keyAsked? token with _ | keyId
  · exact ⟨h.cache_eq, h.fetches_eq⟩
  · simp only [KeySource.cachedOne, h.cache_eq, h.now_eq, h.endpoint_eq, h.fetches_eq,
      and_self]

/-! ### Requests -/

/-- A request with a token that is not verified leaves behind what the verification does. -/
theorem Gate.screen_snd_of_unverified {keys : KeySource} {expected : Token.Expected}
    {resolver : Identity.Resolver} {r : Request} {requestId : Text} {w : World}
    {token : String} {failure : Token.Failure}
    (hguarded : isExempt (Path.canonical r.path) = false)
    (hheader : r.header? "authorization" = some (bearerStart ++ token))
    (hverify : (Token.verify keys.lookup token expected w.time w).1 = .ok (.error failure)) :
    (screen (.verified keys expected resolver) none r requestId w).2 =
      (Token.verify keys.lookup token expected w.time w).2 := by
  unfold screen
  rw [if_neg (Bool.eq_false_iff.1 hguarded)]
  simp only [bearerToken_eq_ok_iff.2 ⟨token, hheader, rfl⟩, screenToken, Option.getD_none]
  rcases hresult : Token.verify keys.lookup token expected w.time w with ⟨verdict, w'⟩
  rw [hresult] at hverify
  obtain rfl : verdict = .ok (.error failure) := hverify
  rfl

/-- No action is asked for where a path passes without identity. -/
theorem Route.exists_given_of_isExempt {r : Request}
    (hexempt : Gate.isExempt (Path.canonical r.path) = true) :
    ∃ given, asked r = .error given := by
  unfold asked
  rcases hroute : Route.ofPath? r.path with _ | route
  · exact ⟨_, rfl⟩
  · by_cases hhealth : route = .health
    · subst hhealth
      exact ⟨_, rfl⟩
    · rw [(Route.ofPath?_eq_some_iff.1 hroute).not_isExempt hhealth] at hexempt
      exact absurd hexempt Bool.false_ne_true

namespace App

/-- Where no identity is asked for, nothing fails: there is no route but that of the health
check. -/
theorem status_of_not_guarded (app : App) {r : Request} (w : World) (h : ¬r.IsGuarded) :
    (app.serve r w).1.status ≠ 500 := by
  by_cases hlarge : BodyLimit.exceeds BodyLimit.defaultMax r = true
  · rw [app.serve_of_large w hlarge, status_sent]
    show (413 : Int) ≠ 500
    decide
  · -- the gate lets the path through, so it is that of the health check, or of nothing
    have hsmall := Bool.eq_false_iff.2 hlarge
    have hexempt : Gate.isExempt (Path.canonical r.path) = true := by
      by_contra hguarded
      exact h ⟨hsmall, Bool.eq_false_iff.2 hguarded⟩
    rw [app.serve_of_small w hsmall]
    show (sent r _ (app.guarded r (w.entered r) _).answer).status ≠ 500
    rw [status_sent, App.guarded, Stage.guarded_of_isExempt hexempt, Stage.answer_recovered]
    obtain ⟨given, hasked⟩ := Route.exists_given_of_isExempt hexempt
    have hdispatch : (Route.dispatch app.store r .absent (w.entered r)).1 = .ok given := by
      rw [Route.dispatch_eq, hasked]
      rfl
    rw [hdispatch]
    exact Route.status_of_dispatch hdispatch

variable {app : App} {settings : KeySetSettings} {expected : Token.Expected}
  {resolver : Identity.Resolver} {r : Request} {w : World} {token : String}
  {failure : Token.Failure}

section

variable (hmode : app.mode = .verified (.cached settings) expected resolver)
  (hheader : r.header? "authorization" = some (Gate.bearerStart ++ token))
  (hverify : (Token.verify (KeySource.cached settings).lookup token expected w.time w).1 =
    .ok (.error failure))

include hmode hheader hverify

/-- A request whose token is not verified is told so, and leaves the cache and the fetches as
the verification does. -/
theorem serve_of_unverified (hguarded : r.IsGuarded) :
    (app.serve r w).1 = sent r (Stage.requestId r w).1 (.unauthorized Gate.invalidToken) ∧
      (app.serve r w).2.cache =
        (Token.verify (KeySource.cached settings).lookup token expected w.time w).2.cache ∧
      (app.serve r w).2.fetches =
        (Token.verify (KeySource.cached settings).lookup token expected w.time
          w).2.fetches := by
  -- the gate reads the token when the request has been let in, which has changed neither keys
  -- nor clock
  have haside := World.Aside.entered w r
  have hentered : (Token.verify (KeySource.cached settings).lookup token expected
      (w.entered r).time (w.entered r)).1 = .ok (.error failure) :=
    (haside.sameKeys.verify_fst _ token expected).trans hverify
  have hrejects : Gate.Rejects app.mode r (w.entered r) := by
    rw [hmode]
    exact .unverified hheader hentered
  have hscreen := hrejects.screen_fst hguarded.guarded (Stage.requestId r w).1
  have hleft : (Gate.screen app.mode none r (Stage.requestId r w).1 (w.entered r)).2 =
      (Token.verify (KeySource.cached settings).lookup token expected (w.entered r).time
        (w.entered r)).2 := by
    rw [hmode]
    exact Gate.screen_snd_of_unverified hguarded.guarded hheader hentered
  obtain ⟨hcache, hfetches⟩ := haside.verify_snd settings token expected expected w.time
    (w.entered r).time
  rw [serve_eq, serveBy_of_guarded hguarded, Stage.guarded_of_refused hscreen]
  refine ⟨rfl, ?_, ?_⟩
  · rw [← hcache, ← hleft]
    simp only [leave, Stage.recovered, World.note, World.reading_snd]
  · rw [← hfetches, ← hleft]
    simp only [leave, Stage.recovered, World.note, World.reading_snd]

/-- No request whose token is not verified is told that something has failed. -/
theorem status_of_unverified : (app.serve r w).1.status ≠ 500 := by
  by_cases hguarded : r.IsGuarded
  · rw [(serve_of_unverified hmode hheader hverify hguarded).1, status_sent]
    show (401 : Int) ≠ 500
    decide
  · exact app.status_of_not_guarded w hguarded

end

end App

/-! ### All tokens -/

/-- Verification over the cache, for every token, cache, endpoint and clock. It has a verdict,
and fetches and forgets no more than the header of the token makes it. A token asks for a key
exactly if its header is accepted and names that key. Where no fetch is under way, a
verification is a look-up that starts and goes on to its end among the events of the cache,
with the verdict on its answer; and whatever tokens come between all other events, the limit on
refreshes is kept. A request whose token is not verified never says that something has failed;
where identity is asked for, it says that the token is not valid. -/
theorem verification_frugal (settings : KeySetSettings) :
    (∀ (token : Text) (expected : Token.Expected) (now : Date) (w : World),
      Token.Frugal settings token expected now w
        (Token.verify (KeySource.cached settings).lookup token expected now w)) ∧
    (∀ token keyId, Token.keyAsked? token = some keyId ↔
      ∃ parts members, Token.Named token parts members keyId) ∧
    (∀ (s : Cache.Flow) (w : World) (token : Text) (expected : Token.Expected) (now : Date),
      s.Meets w →
      let done := Token.verify (KeySource.cached settings).lookup token expected now w
      ∃ events s', (∀ event ∈ events, event.GoesOn w.endpoint) ∧
        Cache.Flow.run settings.cooldown s ((Cache.Arrival.token token).events ++ events) =
          some s' ∧
        s'.Meets done.2 ∧
        s'.fetches.length + w.fetches.length = s.fetches.length + done.2.fetches.length ∧
        ∀ keyId, Token.keyAsked? token = some keyId → ∃ answer,
          s'.lookups = s.lookups ++ [(keyId, .answered answer)] ∧
            done.1 = .ok (Token.verdictOn token keyId expected now answer)) ∧
    (∀ cooldown : ℕ, settings.cooldown = .finite cooldown →
      Number.ofInt cooldown = .finite cooldown →
      ∀ (now : ℤ) (arrivals : List Cache.Arrival) (s : Cache.Flow),
        Cache.Flow.run settings.cooldown (.initial now)
          (arrivals.flatMap Cache.Arrival.events) = some s →
          s.KeepsLimit cooldown) ∧
    ∀ (app : App) (expected : Token.Expected) (resolver : Identity.Resolver) (r : Request)
      (w : World) (token : String) (failure : Token.Failure),
      app.mode = .verified (.cached settings) expected resolver →
      r.header? "authorization" = some (Gate.bearerStart ++ token) →
      (Token.verify (KeySource.cached settings).lookup token expected w.time w).1 =
        .ok (.error failure) →
        (app.serve r w).1.status ≠ 500 ∧ (r.IsGuarded →
          (app.serve r w).1 =
              App.sent r (Stage.requestId r w).1 (.unauthorized Gate.invalidToken) ∧
            (app.serve r w).2.cache =
              (Token.verify (KeySource.cached settings).lookup token expected w.time
                w).2.cache ∧
            (app.serve r w).2.fetches =
              (Token.verify (KeySource.cached settings).lookup token expected w.time
                w).2.fetches) := by
  refine ⟨Token.frugal_verify settings, fun _ _ => Token.keyAsked?_eq_some_iff,
    fun s w token expected now hmeets =>
      hmeets.exists_run_of_verify settings token expected now, ?_, ?_⟩
  · intro cooldown hcooldown hexact now arrivals s hrun
    rw [hcooldown] at hrun
    exact Cache.Flow.keepsLimit_of_run hexact hrun
  · intro app expected resolver r w token failure hmode hheader hverify
    exact ⟨App.status_of_unverified hmode hheader hverify,
      App.serve_of_unverified hmode hheader hverify⟩

/-- Made-up tokens that come while a fetch is under way, one of them for another key. -/
def madeUpArrivals : List Cache.Arrival :=
  [.token unknownKeyToken, .token "nonsense",
    .token "eyJhbGciOiJSUzI1NiIsImtpZCI6ImoifQ.e30.AA",
    .other (.finish 0 (.answered 200 (Utf8.encode "\x7b\"keys\":[]\x7d"))), .other (.reset 0),
    .token unknownKeyToken, .other (.resume 0), .other (.resume 1)]

/-- Of four tokens that nobody has signed one begins a fetch. The verification of one of them
on its own is a run with one fetch, and a request with it is told that it is not valid. -/
theorem verification_frugal_madeUp :
    (∃ s : Cache.Flow, Cache.Flow.run (.finite 0) (.initial 0)
        (madeUpArrivals.flatMap Cache.Arrival.events) = some s ∧
      s.lookups.length = 3 ∧ s.fetches.length = 1 ∧ s.KeepsLimit 0) ∧
    let w := World.initial 0 (.rejected "offline")
    (∃ events s', Cache.Flow.run (.finite 0) (.initial 0)
        ((Cache.Arrival.token unknownKeyToken).events ++ events) = some s' ∧
          s'.fetches.length = 1) ∧
      (cachingApp.serve (presenting unknownKeyToken) w).1.status = 401 ∧
      (cachingApp.serve (presenting unknownKeyToken) w).2.fetches.length = 1 ∧
      (cachingApp.serve (presenting unknownKeyToken) w).1.status ≠ 500 := by
  obtain ⟨-, -, halone, hlimit, hrequest⟩ := verification_frugal ⟨"", .finite 0, true⟩
  constructor
  · obtain ⟨s, hs⟩ := Option.isSome_iff_exists.1
      (show (Cache.Flow.run (.finite 0) (.initial 0)
        (madeUpArrivals.flatMap Cache.Arrival.events)).isSome = true by decide +kernel)
    have hlengths : (Cache.Flow.run (.finite 0) (.initial 0)
        (madeUpArrivals.flatMap Cache.Arrival.events)).map
          (fun s => (s.lookups.length, s.fetches.length)) = some (3, 1) := by decide +kernel
    rw [hs, Option.map_some, Option.some_inj, Prod.mk.injEq] at hlengths
    exact ⟨s, hs, hlengths.1, hlengths.2,
      hlimit 0 rfl (by decide +kernel) 0 madeUpArrivals s hs⟩
  · intro w
    have hheader : (presenting unknownKeyToken).header? "authorization" =
        some (Gate.bearerStart ++ unknownKeyToken) := by decide +kernel
    have hverify :
        (Token.verify (KeySource.cached ⟨"", .finite 0, true⟩).lookup unknownKeyToken
        ⟨.text "i", .text "a"⟩ w.time w).1 = .ok (.error .unknownKey) := by decide +kernel
    obtain ⟨hstatus, -⟩ := hrequest cachingApp ⟨.text "i", .text "a"⟩ .registered
      (presenting unknownKeyToken) w unknownKeyToken .unknownKey rfl hheader hverify
    have hmeets : (Cache.Flow.initial 0).Meets w := ⟨rfl, rfl, rfl⟩
    obtain ⟨events, s', -, hrun, -, hfetches, -⟩ :=
      halone (.initial 0) w unknownKeyToken ⟨.text "i", .text "a"⟩ w.time hmeets
    have hbegun : (Token.verify (KeySource.cached ⟨"", .finite 0, true⟩).lookup unknownKeyToken
        ⟨.text "i", .text "a"⟩ w.time w).2.fetches.length = 1 := by decide +kernel
    rw [hbegun] at hfetches
    exact ⟨⟨events, s', hrun, hfetches⟩, by decide +kernel, by decide +kernel, hstatus⟩

end TodoServer
