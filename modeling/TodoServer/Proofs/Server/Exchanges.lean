/-
How a request comes to the gate, and how its answer leaves.

The stages before the gate look at two things only: the size of the body, and the id that a
request may bring. The headers that say who is calling are read at the gate and nowhere else.
So two requests that differ in such a header are one request to everything but the gate; where
the gate is not asked, they are served alike, whatever mode it is in.

* `Http.Request.SameBut` — requests that differ in the headers of one name at most;
* `Http.Request.IsGuarded` — a request that comes to be screened;
* `App.serveBy`, `App.serve_eq` — the stages around a gate and any handlers;
* `App.serveBy_of_guarded` — what is left of them for a request that is screened;
* `App.serveBy_of_not_guarded` — what is read at the gate has no say in any other request.
-/
import TodoServer.Proofs.Server.Requests
import TodoServer.Proofs.Server.Serving

namespace TodoServer

open Http

/-! ### Requests -/

namespace Http.Request

/-- Requests that differ in the headers of one name at most. -/
structure SameBut (name : String) (r r' : Request) : Prop where
  method_eq : r'.method = r.method
  path_eq : r'.path = r.path
  query_eq : r'.query = r.query
  body_eq : r'.body = r.body
  headers_eq : r'.headers.filter (fun h => lowerText h.1 ≠ lowerText name) =
    r.headers.filter fun h => lowerText h.1 ≠ lowerText name

/-- A request that comes to be screened. -/
structure IsGuarded (r : Request) : Prop where
  small : BodyLimit.exceeds BodyLimit.defaultMax r = false
  guarded : Gate.isExempt (Path.canonical r.path) = false

/-- The headers that are read before a request comes to the gate. -/
def stageHeaders : List String := [RequestId.header, "content-length", "transfer-encoding"]

/-- A header that is read at the gate only. -/
def IsGateHeader (name : String) : Prop :=
  ∀ other ∈ stageHeaders, lowerText other ≠ lowerText name

instance (name : String) : Decidable (IsGateHeader name) :=
  inferInstanceAs (Decidable (∀ other ∈ stageHeaders, _))

theorem isGateHeader_authorization : IsGateHeader "authorization" := by decide +kernel

theorem isGateHeader_devUserHeader : IsGateHeader Gate.devUserHeader := by decide +kernel

namespace SameBut

variable {name : String} {r r' : Request} {w : World}

theorem header?_eq (h : SameBut name r r') {other : String}
    (hother : lowerText other ≠ lowerText name) : r'.header? other = r.header? other := by
  -- headers of the other name stay where those of the first are taken out
  have hfilter : ∀ headers : List (String × String),
      headers.filter (fun h => lowerText h.1 = lowerText other) =
        (headers.filter fun h => lowerText h.1 ≠ lowerText name).filter
          fun h => lowerText h.1 = lowerText other := by
    intro headers
    rw [List.filter_filter]
    refine List.filter_congr fun h _ => ?_
    by_cases hh : lowerText h.1 = lowerText other
    · simp [hh, hother]
    · simp [hh]
  unfold header?
  rw [hfilter r'.headers, hfilter r.headers, h.headers_eq]

/-- Such requests are one up to their headers. -/
theorem eq_withHeaders (h : SameBut name r r') : r' = { r with headers := r'.headers } := by
  obtain ⟨method, path, query, headers, body⟩ := r'
  obtain ⟨rfl, rfl, rfl, rfl, -⟩ := h
  rfl

theorem asked_eq (h : SameBut name r r') : Route.asked r' = Route.asked r := by
  rw [h.eq_withHeaders]
  rfl

theorem sent_eq (h : SameBut name r r') (requestId : String) (response : Response) :
    App.sent r' requestId response = App.sent r requestId response := by
  rw [h.eq_withHeaders]
  rfl

theorem requestEntry_eq (h : SameBut name r r') (requestId : String) (status : Int)
    (start stop : Number) (caller : Datum) :
    Stage.requestEntry requestId r' status start stop caller =
      Stage.requestEntry requestId r status start stop caller := by
  rw [h.eq_withHeaders]
  rfl

theorem recovered_eq (h : SameBut name r r') (requestId : String)
    (e : Exchange (Except Fault Response)) :
    Stage.recovered requestId r' e = Stage.recovered requestId r e := by
  rw [h.eq_withHeaders]
  rfl

theorem requestId_eq (h : SameBut name r r') (hname : IsGateHeader name) :
    Stage.requestId r' w = Stage.requestId r w := by
  have hid := h.header?_eq (hname RequestId.header (by decide))
  unfold Stage.requestId RequestId.needsFresh RequestId.choose
  rw [hid]

theorem exceeds_eq (h : SameBut name r r') (hname : IsGateHeader name) (max : Datum) :
    BodyLimit.exceeds max r' = BodyLimit.exceeds max r := by
  have hlength := h.header?_eq (hname "content-length" (by decide))
  have hcoding := h.header?_eq (hname "transfer-encoding" (by decide))
  unfold BodyLimit.exceeds
  rw [h.body_eq, hlength, hcoding]

theorem isGuarded (h : SameBut name r r') (hname : IsGateHeader name) (hr : r.IsGuarded) :
    r'.IsGuarded := by
  refine ⟨?_, ?_⟩
  · rw [h.exceeds_eq hname]
    exact hr.small
  · rw [h.path_eq]
    exact hr.guarded

end SameBut

end Http.Request

namespace World

/-- The world in which a request comes to the gate: it has its id, and the stopwatch has been
read. -/
def entered (w : World) (r : Request) : World := (Stage.requestId r w).2.reading.2

variable (w : World) (r : Request)

theorem reading_fst : w.reading.1 = w.readings.headD (.finite 0) := by
  unfold reading
  rcases w.readings with _ | ⟨first, rest⟩ <;> rfl

theorem reading_snd : w.reading.2 = { w with readings := w.readings.tail } := by
  obtain ⟨now, readings, idsGiven, endpoint, cache, database, memory, journal, fetches,
    calls⟩ := w
  rcases readings with _ | ⟨first, rest⟩ <;> rfl

theorem entered_eq :
    ∃ idsGiven, w.entered r = { w with idsGiven, readings := w.readings.tail } := by
  unfold entered Stage.requestId
  split_ifs
  · exact ⟨w.idsGiven + 1, by rw [reading_snd]; rfl⟩
  · exact ⟨w.idsGiven, by rw [reading_snd]⟩

theorem Aside.entered : w.Aside (w.entered r) := (Aside.requestId r w).trans (.reading _)

end World

/-! ### Stages -/

namespace Stage

variable {mode : Gate.Mode} {handler : Handler} {requestId : String} {r : Request} {w : World}

theorem caller_recovered (e : Exchange (Except Fault Response)) :
    (recovered requestId r e).caller = e.caller := by
  unfold recovered
  split <;> rfl

theorem guarded_of_isExempt (h : Gate.isExempt (Path.canonical r.path) = true) :
    guarded mode none handler requestId r w =
      ⟨(handler r .absent w).1, .absent, (handler r .absent w).2⟩ := by
  unfold guarded Gate.screen
  rw [if_pos h]

/-- A request that is let in is handled for its caller. -/
theorem guarded_of_caller {caller : Datum}
    (h : (Gate.screen mode none r requestId w).1 = .caller caller) :
    guarded mode none handler requestId r w =
      ⟨(handler r caller (Gate.screen mode none r requestId w).2).1, caller,
        (handler r caller (Gate.screen mode none r requestId w).2).2⟩ := by
  unfold guarded
  rw [← @Prod.mk.eta _ _ (Gate.screen mode none r requestId w), h]

theorem guarded_of_refused {response : Response}
    (h : (Gate.screen mode none r requestId w).1 = .refused response) :
    guarded mode none handler requestId r w =
      ⟨.ok response, .absent, (Gate.screen mode none r requestId w).2⟩ := by
  unfold guarded
  rw [← @Prod.mk.eta _ _ (Gate.screen mode none r requestId w), h]

theorem guarded_of_failed {fault : Fault}
    (h : (Gate.screen mode none r requestId w).1 = .failed fault) :
    guarded mode none handler requestId r w =
      ⟨.error fault, .absent, (Gate.screen mode none r requestId w).2⟩ := by
  unfold guarded
  rw [← @Prod.mk.eta _ _ (Gate.screen mode none r requestId w), h]

end Stage

namespace App

theorem status_sent (r : Request) (requestId : String) (response : Response) :
    (sent r requestId response).status = response.status := by
  unfold sent Response.sentFor
  split_ifs <;> rfl

/-- An answer on its way out: the request is logged, and headers are put on its answer. -/
def leave (r : Request) (requestId : String) (start : Number) (e : Exchange Response) :
    Response × World :=
  let (stop, w) := e.world.reading
  (sent r requestId e.answer,
    w.note (Stage.requestEntry requestId r e.answer.status start stop e.caller))

/-- The answer to a request and the world after it, whatever handlers stand behind the gate. -/
def serveBy (mode : Gate.Mode) (handler : Handler) (r : Request) (w : World) :
    Response × World :=
  let (requestId, w) := Stage.requestId r w
  if BodyLimit.exceeds BodyLimit.defaultMax r then
    (sent r requestId (BodyLimit.refusal BodyLimit.defaultMax), w)
  else
    let (start, w) := w.reading
    leave r requestId start
      (Stage.recovered requestId r (Stage.guarded mode none handler requestId r w))

/-- An app is its gate and the handlers of its store with the stages around them. -/
theorem serve_eq (app : App) (r : Request) (w : World) :
    app.serve r w = serveBy app.mode (Route.dispatch app.store) r w := by
  have hwords : BodyLimit.defaultMax.hasWords = true := rfl
  unfold serve serveBy Stage.identified Stage.limited handle Stage.logged
  by_cases hsize : BodyLimit.exceeds BodyLimit.defaultMax r = true
  · simp only [hsize, hwords, if_true, Bool.not_true, Bool.and_false, Bool.false_eq_true,
      if_false]
    rfl
  · simp only [hsize, hwords, Bool.not_true, Bool.and_false, Bool.false_eq_true, if_false]
    rfl

variable {mode : Gate.Mode} {handler : Handler} {r r' : Request} {w : World}

theorem serveBy_of_guarded (h : r.IsGuarded) :
    serveBy mode handler r w =
      leave r (Stage.requestId r w).1 (Stage.requestId r w).2.reading.1
        (Stage.recovered (Stage.requestId r w).1 r
          (Stage.guarded mode none handler (Stage.requestId r w).1 r (w.entered r))) := by
  unfold serveBy
  simp only [h.small, Bool.false_eq_true, if_false]
  rfl

/-- What is read at the gate, and the mode that it is in, have no say in a request that is not
screened. -/
theorem serveBy_of_not_guarded {name : String} (hsame : r.SameBut name r')
    (hname : Request.IsGateHeader name)
    (hhandler : ∀ w, handler r' .absent w = handler r .absent w)
    (h : ¬r.IsGuarded) (mode' : Gate.Mode) :
    serveBy mode' handler r' w = serveBy mode handler r w := by
  unfold serveBy
  rw [hsame.requestId_eq hname, hsame.exceeds_eq hname]
  by_cases hsize : BodyLimit.exceeds BodyLimit.defaultMax r = true
  · simp only [hsize, if_true, hsame.sent_eq]
  · -- the request comes to the gate, and can only be exempt there
    have hexempt : Gate.isExempt (Path.canonical r.path) = true := by
      by_contra hguarded
      exact h ⟨Bool.eq_false_iff.2 hsize, Bool.eq_false_iff.2 hguarded⟩
    have hexempt' : Gate.isExempt (Path.canonical r'.path) = true := by
      rw [hsame.path_eq]
      exact hexempt
    simp only [hsize, Bool.false_eq_true, if_false, Stage.guarded_of_isExempt hexempt,
      Stage.guarded_of_isExempt hexempt', hhandler, hsame.recovered_eq, leave, hsame.sent_eq,
      hsame.requestEntry_eq]

end App

/-- Handlers do not read the headers of a request. -/
theorem Http.Request.SameBut.dispatch_eq {name : String} {r r' : Request}
    (h : r.SameBut name r') (kind : StoreKind) (caller : Datum) (w : World) :
    Route.dispatch kind r' caller w = Route.dispatch kind r caller w := by
  rw [Route.dispatch_eq, Route.dispatch_eq, h.asked_eq]

end TodoServer
