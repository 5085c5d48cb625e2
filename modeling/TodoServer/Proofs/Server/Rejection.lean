/-
Tokens that are turned away.

There are many reasons to turn a token away: it has no form, it names no key, its signature or
a claim does not hold, or nobody is registered for its subject. They come up at different
stages, some of them after the keys have been fetched or the users asked. A client learns none
of this. Whatever is wrong with two tokens, the same request is answered the same with either,
and logged the same; and the fetch of the keys, if there was one, is logged in words that are
known before any token is read.

* `Gate.Rejects` — a token is turned away;
* `Gate.Rejects.screen_fst` — the gate says the same of all that are;
* `App.serveBy_of_rejects` — all that comes of such a request;
* `rejections_indistinguishable` — two requests that differ in their tokens.
-/
import TodoServer.Proofs.Server.Exchanges

namespace TodoServer

open Http

/-! ### Rejections -/

/-- An entry about a refresh of the keys, be it that it has been done or that it has failed. -/
def Log.Entry.IsRefresh (entry : Log.Entry) : Prop :=
  Json.lookup entry.data "event" = some (.text "key_set_refreshed") ∨
    Json.lookup entry.data "event" = some (.text "key_set_refresh_failed")

theorem FetchOutcome.isRefresh_refreshEntry (outcome : FetchOutcome) :
    outcome.refreshEntry.IsRefresh := by
  unfold refreshEntry Cache.arrive
  rcases outcome.entries with failure | entries
  · exact Or.inr rfl
  · exact Or.inl rfl

namespace Gate

/-- A bearer token is turned away: it is not verified, or it is and nobody is registered for
its subject. -/
inductive Rejects : Mode → Request → World → Prop
  | unverified {keys : KeySource} {expected : Token.Expected} {resolver : Identity.Resolver}
    {r : Request} {w : World} {token : String} {failure : Token.Failure}
    (hheader : r.header? "authorization" = some (bearerStart ++ token))
    (hverify : (Token.verify keys.lookup token expected w.time w).1 = .ok (.error failure)) :
    Rejects (.verified keys expected resolver) r w
  | unregistered {keys : KeySource} {expected : Token.Expected} {resolver : Identity.Resolver}
    {r : Request} {w : World} {token : String} {verified : Token.Verified}
    (hheader : r.header? "authorization" = some (bearerStart ++ token))
    (hverify : (Token.verify keys.lookup token expected w.time w).1 = .ok (.ok verified))
    (hresolve : (resolver.resolve verified.subject w.database).1 = .unregistered) :
    Rejects (.verified keys expected resolver) r w

variable {mode : Mode} {r : Request} {w w' : World}

/-- Stopwatch, ids and log have no say in it. -/
theorem Rejects.of_aside (h : Rejects mode r w) (haside : w.Aside w') : Rejects mode r w' := by
  cases h with
  | @unverified keys expected resolver _ _ token failure hheader hverify =>
    exact .unverified hheader ((haside.sameKeys.verify_fst keys token expected).trans hverify)
  | @unregistered keys expected resolver _ _ token verified hheader hverify hresolve =>
    refine .unregistered hheader
      ((haside.sameKeys.verify_fst keys token expected).trans hverify) ?_
    rw [haside.database_eq]
    exact hresolve

/-- The gate says the same of all tokens that are turned away. -/
theorem Rejects.screen_fst (h : Rejects mode r w)
    (hguarded : isExempt (Path.canonical r.path) = false) (requestId : Text) :
    (screen mode none r requestId w).1 = .refused (.unauthorized invalidToken) := by
  cases h with
  | @unverified keys expected resolver _ _ token failure hheader hverify =>
    rw [screen_fst_of_bearer hguarded hheader, hverify]
    rfl
  | @unregistered keys expected resolver _ _ token verified hheader hverify hresolve =>
    rw [screen_fst_of_bearer hguarded hheader, hverify]
    show Admission.ofResolution (resolver.resolve verified.subject w.database).1 = _
    rw [hresolve]
    rfl

end Gate

/-! ### Requests -/

/-- What comes of a request whose token is turned away. The log entries are that of the
request, which names no user, and before it that of a refresh at most. -/
theorem App.serveBy_of_rejects {mode : Gate.Mode} (handler : Handler) {r : Request} {w : World}
    (hguarded : r.IsGuarded) (hrejects : Gate.Rejects mode r w) :
    ∃ refreshes, refreshes.Sublist [w.endpoint.refreshEntry] ∧
      (serveBy mode handler r w).1 =
        sent r (Stage.requestId r w).1 (.unauthorized Gate.invalidToken) ∧
      (serveBy mode handler r w).2.journal = w.journal ++ refreshes ++
        [Stage.requestEntry (Stage.requestId r w).1 r 401 (Stage.requestId r w).2.reading.1
          (w.entered r).reading.1 .absent] := by
  let requestId := (Stage.requestId r w).1
  have hscreen := (hrejects.of_aside (.entered w r)).screen_fst hguarded.guarded requestId
  have hother : (Gate.screen mode none r requestId (w.entered r)).1 ≠
      .refused .internalError := by
    rw [hscreen]
    intro h
    have hstatus := congrArg Response.status (Gate.Admission.refused.inj h)
    exact absurd hstatus (by decide)
  obtain ⟨cache, fetches, database, refreshes, hrefreshes, hworld⟩ := Gate.screen_world hother
  obtain ⟨idsGiven, hentered⟩ := w.entered_eq r
  refine ⟨refreshes, ?_, ?_, ?_⟩
  · rw [hentered] at hrefreshes
    exact hrefreshes
  · rw [serveBy_of_guarded hguarded, Stage.guarded_of_refused hscreen]
    rfl
  · rw [serveBy_of_guarded hguarded, Stage.guarded_of_refused hscreen, hworld, hentered]
    simp only [Stage.recovered, leave, World.note, World.reading_fst, World.reading_snd]
    rfl

/-- Two requests that differ in their tokens, each as it is served in one and the same state of
the server. If both tokens are turned away, for whatever reason each, the answers are one
answer, and so are the log entries but for one about a refresh of the keys, which does not
depend on the token. A request that does not come to be screened is served the same with any
token. -/
theorem rejections_indistinguishable {app : App} {r r' : Request}
    (hsame : r.SameBut "authorization" r') (w : World) :
    (¬r.IsGuarded → app.serve r' w = app.serve r w) ∧
    (r.IsGuarded → Gate.Rejects app.mode r w → Gate.Rejects app.mode r' w →
      ∃ answer : Response, answer.status = 401 ∧
        (app.serve r w).1 = answer ∧ (app.serve r' w).1 = answer ∧
      ∃ (requestId : String) (start stop : Number) (refreshes refreshes' : List Log.Entry),
        refreshes.Sublist [w.endpoint.refreshEntry] ∧
          refreshes'.Sublist [w.endpoint.refreshEntry] ∧
        w.endpoint.refreshEntry.IsRefresh ∧
        (app.serve r w).2.journal = w.journal ++ refreshes ++
          [Stage.requestEntry requestId r 401 start stop .absent] ∧
        (app.serve r' w).2.journal = w.journal ++ refreshes' ++
          [Stage.requestEntry requestId r 401 start stop .absent]) := by
  have hname := Request.isGateHeader_authorization
  rw [App.serve_eq, App.serve_eq]
  constructor
  · intro hpassed
    exact App.serveBy_of_not_guarded hsame hname (hsame.dispatch_eq app.store .absent)
      hpassed _
  · intro hguarded hrejects hrejects'
    obtain ⟨refreshes, hrefreshes, hanswer, hjournal⟩ :=
      App.serveBy_of_rejects (Route.dispatch app.store) hguarded hrejects
    obtain ⟨refreshes', hrefreshes', hanswer', hjournal'⟩ :=
      App.serveBy_of_rejects (Route.dispatch app.store) (hsame.isGuarded hname hguarded)
        hrejects'
    -- the stages see one request
    have hentered : w.entered r' = w.entered r := by
      rw [World.entered, World.entered, hsame.requestId_eq hname]
    rw [hsame.requestId_eq hname, hsame.sent_eq] at hanswer'
    rw [hsame.requestId_eq hname, hsame.requestEntry_eq, hentered] at hjournal'
    exact ⟨_, App.status_sent r _ _, hanswer, hanswer', _, _, _, refreshes, refreshes',
      hrefreshes, hrefreshes', w.endpoint.isRefresh_refreshEntry, hjournal, hjournal'⟩

/-! ### Two tokens -/

/-- A listing asked for with a token. -/
def presenting (token : String) : Request where
  method := "GET"
  path := "/api/v1/todos"
  query := []
  headers := [("Authorization", Gate.bearerStart ++ token)]
  body := none

/-- A token under a key that is to be fetched first. -/
def unknownKeyToken : String := "eyJhbGciOiJSUzI1NiIsImtpZCI6ImsifQ.e30.AA"

/-- An app with a cache of keys. -/
def cachingApp : App where
  mode := .verified (.cached ⟨"", .finite 0, true⟩) ⟨.text "i", .text "a"⟩ .registered
  store := .memory
  threshold := .info

/-- A text that is no token is turned away at once, and a token under an unknown key after a
fetch that fails. The answer is the same, and the fetch is all that the log has more. -/
theorem rejections_indistinguishable_unknownKey :
    let w := World.initial 0 (.rejected "offline")
    (presenting "nonsense").SameBut "authorization" (presenting unknownKeyToken) ∧
      (presenting "nonsense").IsGuarded ∧
      Gate.Rejects cachingApp.mode (presenting "nonsense") w ∧
      Gate.Rejects cachingApp.mode (presenting unknownKeyToken) w ∧
      (cachingApp.serve (presenting "nonsense") w).1 =
        (cachingApp.serve (presenting unknownKeyToken) w).1 ∧
      (cachingApp.serve (presenting "nonsense") w).2.journal.length = 1 ∧
      (cachingApp.serve (presenting unknownKeyToken) w).2.journal.length = 2 := by
  intro w
  have hsame : (presenting "nonsense").SameBut "authorization" (presenting unknownKeyToken) :=
    ⟨rfl, rfl, rfl, rfl, by decide +kernel⟩
  have hguarded : (presenting "nonsense").IsGuarded :=
    ⟨by decide +kernel, by decide +kernel⟩
  have hheader : (presenting "nonsense").header? "authorization" =
      some (Gate.bearerStart ++ "nonsense") := by decide +kernel
  have hheader' : (presenting unknownKeyToken).header? "authorization" =
      some (Gate.bearerStart ++ unknownKeyToken) := by decide +kernel
  have hverify : (Token.verify (KeySource.cached ⟨"", .finite 0, true⟩).lookup "nonsense"
      ⟨.text "i", .text "a"⟩ w.time w).1 = .ok (.error .malformed) := by decide +kernel
  have hverify' : (Token.verify (KeySource.cached ⟨"", .finite 0, true⟩).lookup unknownKeyToken
      ⟨.text "i", .text "a"⟩ w.time w).1 = .ok (.error .unknownKey) := by decide +kernel
  have hrejects : Gate.Rejects cachingApp.mode (presenting "nonsense") w :=
    .unverified hheader hverify
  have hrejects' : Gate.Rejects cachingApp.mode (presenting unknownKeyToken) w :=
    .unverified hheader' hverify'
  obtain ⟨answer, -, hanswer, hanswer', -⟩ :=
    (@rejections_indistinguishable cachingApp _ _ hsame w).2 hguarded hrejects hrejects'
  exact ⟨hsame, hguarded, hrejects, hrejects', hanswer.trans hanswer'.symm, by decide +kernel,
    by decide +kernel⟩

end TodoServer
