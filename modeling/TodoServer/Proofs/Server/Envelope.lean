/-
The form of every answer.

An answer comes from one of many places: it is the result of an action, or the request was too
large, had no caller, no route, a method that its route does not have or a body that cannot be
read, broke a rule, or something failed. Whichever it is, it is given before the outer stages
put their headers on it, so all of them do; and what is not a success is put in one form, an
object that holds a code and a message, the code going with the status.

* `Http.Response.IsError` — an answer in that form, with one of eight pairs of a status and a
  code;
* `Http.Response.Plain` — an answer that the outer stages have not touched yet;
* `App.exists_serve_plain` — every answer is such an answer, with their headers on it;
* `RequestId.HasShape` — the ids that a client may choose;
* `answers_keep_form` — every answer of every run.
-/
import TodoServer.Proofs.Json.Reading
import TodoServer.Proofs.Server.Exchanges
import TodoServer.Proofs.Server.Untouched
import TodoServer.Proofs.Todo.Refusals

namespace TodoServer

open Http

/-! ### Error answers -/

/-- The kinds of error answers: a status, and the code that is given with it. -/
def errorKinds : List (Int × Text) :=
  [(400, "INVALID_INPUT"), (400, "INVALID_JSON"), (400, "INVALID_STATUS"),
    (401, "UNAUTHORIZED"), (404, "NOT_FOUND"), (405, "METHOD_NOT_ALLOWED"),
    (413, "PAYLOAD_TOO_LARGE"), (500, "INTERNAL_ERROR")]

/-- The body of an error answer: one member, which holds a code and a message and nothing
else. -/
def errorBody (code message : Text) : Json.Value :=
  .object [("error", .object [("code", .text code), ("message", .text message)])]

/-- An answer whose body reads as that of an error of a kind. -/
def Http.Response.IsError (response : Response) : Prop :=
  ∃ code message, (response.status, code) ∈ errorKinds ∧
    Json.parse? response.body.toList = some (errorBody code message)

theorem readable_errorBody (code message : Text) : (errorBody code message).Readable := by
  -- an error has no numbers
  rintro t ht n rfl
  simp [errorBody, Json.Value.tokens, Json.memberTokens] at ht

/-- The body of an error answer reads as that of an error. -/
theorem Http.Response.parse?_body_error {code : ErrorCode} {name : Text} (status : Int)
    (message : Text) (hname : code.name = .text name) :
    Json.parse? (error status code message).body.toList = some (errorBody name message) := by
  have hbody : errorEnvelope code message = errorBody name message := by
    rw [errorEnvelope, hname]
    rfl
  show Json.parse? (errorEnvelope code message).render.toList = _
  rw [hbody, Json.Value.render, String.toList_ofList,
    Json.parse?_written (readable_errorBody _ _)]

theorem Http.Response.isError_error {status : Int} {code : ErrorCode} {name : Text}
    (message : Text) (hname : code.name = .text name) (hkind : (status, name) ∈ errorKinds) :
    (error status code message).IsError :=
  ⟨name, message, hkind, parse?_body_error status message hname⟩

/-! ### Actions -/

namespace Action

theorem discreet_write (a : Action) (result : Result) : Discreet (a.write result) := by
  have htodo : ∀ todo : Todo, Discreet todo.response := fun todo e => Todo.response_ne_api
  cases result with
  | todo todo =>
    obtain ⟨status, hwrite⟩ := a.write_todo todo
    rw [hwrite]
    exact (htodo todo).map _
  | deleted => cases a <;> exact .ok _
  | page page =>
    have hpage : Discreet (Todos.pageResponse page) :=
      ((Discreet.mapM htodo page.items).map _).map _
    cases a <;> exact hpage

theorem handle_tells (a : Action) (kind : StoreKind) (caller : Datum) (w : World) :
    Tells (a.handle (World.store kind) caller w).1 := by
  by_cases hblank : caller.isBlank = true
  · rw [handle_of_blank hblank]
    exact (Discreet.error fun _ => Fault.noConfusion).tells
  · rw [handle_of_not_blank (Bool.eq_false_iff.2 hblank)]
    have hrun :=
      (a.program_tells caller).run (World.discreet_store kind) (a.program_reports caller) w
    exact hrun.bind fun result => (a.discreet_write result).tells

end Action

/-! ### Answers behind the outer stages -/

/-- An answer that the outer stages have not touched: what it has of headers says what kind of
body it has, and what is no success is in the form of errors. -/
structure Http.Response.Plain (response : Response) : Prop where
  headers : ∀ h ∈ response.headers, h.1 = "content-type"
  isError : 400 ≤ response.status → response.IsError

namespace Http.Response

theorem plain_error {status : Int} {code : ErrorCode} {name : Text} (message : Text)
    (hname : code.name = .text name) (hkind : (status, name) ∈ errorKinds) :
    (error status code message).Plain where
  headers h hmem := by
    cases List.mem_singleton.1 hmem
    rfl
  isError _ := isError_error message hname hkind

theorem plain_unauthorized (message : Text) : (unauthorized message).Plain :=
  plain_error message rfl (by decide +kernel)

theorem plain_internalError : internalError.Plain := plain_error _ rfl (by decide +kernel)

theorem plain_notFound : notFound.Plain := plain_error _ rfl (by decide +kernel)

theorem plain_methodNotAllowed : methodNotAllowed.Plain :=
  plain_error _ rfl (by decide +kernel)

theorem plain_refusal (max : Datum) : (BodyLimit.refusal max).Plain :=
  plain_error _ rfl (by decide +kernel)

theorem plain_invalidBody : Todos.invalidBody.Plain := plain_error _ rfl (by decide +kernel)

theorem plain_invalidStatus : Todos.invalidStatus.Plain :=
  plain_error _ rfl (by decide +kernel)

theorem plain_json {status : Int} (hstatus : status < 400) (value : Json.Value) :
    (json status value).Plain where
  headers h hmem := by
    cases List.mem_singleton.1 hmem
    rfl
  isError h := absurd h (not_le.2 hstatus)

theorem plain_empty {status : Int} (hstatus : status < 400) : (empty status).Plain where
  headers _ hmem := absurd hmem List.not_mem_nil
  isError h := absurd h (not_le.2 hstatus)

end Http.Response

/-- A status that is one of those of error answers is kept. -/
theorem Stage.errorStatus_ofInt {status : Int} (h : status ∈ errorStatuses) :
    errorStatus (.ofInt status) = status := by
  revert h status
  decide +kernel

theorem Stage.apiResponse_invalidInput (message : Text) :
    apiResponse (.invalidInput message) = .error 400 .invalidInput message := by
  rw [apiResponse, ClientError.invalidInput, errorStatus_ofInt (by decide)]
  rfl

theorem Stage.apiResponse_notFound (message : Text) :
    apiResponse (.notFound message) = .error 404 .notFound message := by
  rw [apiResponse, ClientError.notFound, errorStatus_ofInt (by decide)]
  rfl

theorem Stage.apiResponse_unauthorized (message : Text) :
    apiResponse (.unauthorized message) = .error 401 .unauthorized message := by
  rw [apiResponse, ClientError.unauthorized, errorStatus_ofInt (by decide)]
  rfl

/-- The answers to the failures that operations have for a client. -/
theorem ClientError.IsRefusal.apiResponse_cases {e : ClientError} (h : e.IsRefusal) :
    ∃ message, Stage.apiResponse e = .error 400 .invalidInput message ∨
      Stage.apiResponse e = .error 404 .notFound message ∨
      Stage.apiResponse e = .error 401 .unauthorized message := by
  cases h with
  | invalidInput message => exact ⟨message, Or.inl (Stage.apiResponse_invalidInput message)⟩
  | notFound message => exact ⟨message, Or.inr (Or.inl (Stage.apiResponse_notFound message))⟩
  | unauthorized message =>
    exact ⟨message, Or.inr (Or.inr (Stage.apiResponse_unauthorized message))⟩

theorem ClientError.IsRefusal.plain {e : ClientError} (h : e.IsRefusal) :
    (Stage.apiResponse e).Plain := by
  obtain ⟨message, h | h | h⟩ := h.apiResponse_cases <;> rw [h]
  · exact Response.plain_error message rfl (by decide +kernel)
  · exact Response.plain_error message rfl (by decide +kernel)
  · exact Response.plain_error message rfl (by decide +kernel)

/-- A result that comes to an answer of that kind. -/
structure Answerable (x : Except Fault Response) : Prop where
  plain : ∀ response, x = .ok response → response.Plain
  tells : Tells x

theorem answerable_ok {response : Response} (h : response.Plain) :
    Answerable (.ok response) where
  plain _ hresponse := by
    cases hresponse
    exact h
  tells := (Discreet.ok _).tells

theorem answerable_error {fault : Fault} (h : ∀ e, fault ≠ .api e) :
    Answerable (.error fault) where
  plain _ hresponse := nomatch hresponse
  tells := (Discreet.error h).tells

theorem Action.plain_of_write {a : Action} {result : Result} {response : Response}
    (h : a.write result = .ok response) : response.Plain := by
  have htodo : ∀ {status : Int} {todo : Todo}, status < 400 →
      Todos.todoResponse status todo = .ok response → response.Plain := by
    intro status todo hstatus hresponse
    obtain ⟨value, -, rfl⟩ := map_eq_ok_iff.1 hresponse
    exact Response.plain_json hstatus value
  cases result with
  | todo todo => cases a <;> exact htodo (by decide) h
  | deleted => cases a <;> cases h <;> exact Response.plain_empty (by decide)
  | page page =>
    have hpage : Todos.pageResponse page = .ok response := by cases a <;> exact h
    obtain ⟨value, -, rfl⟩ := map_eq_ok_iff.1 hpage
    exact Response.plain_json (by decide) value

/-- The answers that are given without an action. -/
def Route.givenAnswers : List Response :=
  [.notFound, .json 200 Health.status, .methodNotAllowed, Todos.invalidBody,
    Todos.invalidStatus]

theorem Route.mem_of_asked {r : Request} {response : Response}
    (h : asked r = .error response) : response ∈ givenAnswers := by
  have hnoMethod : Response.methodNotAllowed ∈ givenAnswers := by simp [givenAnswers]
  have hnoBody : Todos.invalidBody ∈ givenAnswers := by simp [givenAnswers]
  unfold asked at h
  rcases hroute : Route.ofPath? r.path with _ | _ | _ | id | id <;> simp only [hroute] at h
  · cases h
    simp [givenAnswers]
  · cases h
    rw [Health.response]
    split_ifs
    · simp [givenAnswers]
    · exact hnoMethod
  · split_ifs at h
    · rw [Todos.creation] at h
      split at h <;> cases h
      exact hnoBody
    · rw [Todos.listing, Todos.requestedStatus] at h
      split_ifs at h <;> cases h
      simp [givenAnswers]
    · cases h
      exact hnoMethod
  · split_ifs at h
    · rw [Todos.change] at h
      split at h <;> cases h
      exact hnoBody
    · cases h
      exact hnoMethod
  · split_ifs at h
    · rw [Todos.statusChange] at h
      split at h <;> cases h
      exact hnoBody
    · cases h
      exact hnoMethod

theorem Route.plain_of_asked {r : Request} {response : Response}
    (h : asked r = .error response) : response.Plain := by
  have hmem := mem_of_asked h
  simp only [givenAnswers, List.mem_cons, List.not_mem_nil, or_false] at hmem
  rcases hmem with rfl | rfl | rfl | rfl | rfl
  · exact Response.plain_notFound
  · exact Response.plain_json (by decide) _
  · exact Response.plain_methodNotAllowed
  · exact Response.plain_invalidBody
  · exact Response.plain_invalidStatus

/-- Whatever its path and method, a request has an answer of that kind. -/
theorem Route.dispatch_answerable (kind : StoreKind) (r : Request) (caller : Datum)
    (w : World) : Answerable (Route.dispatch kind r caller w).1 := by
  rw [Route.dispatch_eq]
  rcases hasked : Route.asked r with response | a
  · exact answerable_ok (Route.plain_of_asked hasked)
  · refine ⟨fun response hresponse => ?_, a.handle_tells kind caller w⟩
    have hhandle : (a.handle (World.store kind) caller w).1 = .ok response := hresponse
    by_cases hblank : caller.isBlank = true
    · rw [Action.handle_of_blank hblank] at hhandle
      cases hhandle
    · rw [Action.handle_of_not_blank (Bool.eq_false_iff.2 hblank)] at hhandle
      rcases hrun : ((a.program caller).run (World.store kind) w).1 with fault | result <;>
        rw [hrun] at hhandle
      · cases hhandle
      · exact Action.plain_of_write hhandle

/-- What can become of a request at the gate. -/
theorem Gate.screen_fst_cases (mode : Mode) (r : Request) (requestId : Text) (w : World) :
    (screen mode none r requestId w).1 = .exempt ∨
      (∃ caller, (screen mode none r requestId w).1 = .caller caller) ∨
      (∃ message, (screen mode none r requestId w).1 = .refused (.unauthorized message)) ∨
      (screen mode none r requestId w).1 = .refused .internalError ∨
      ∃ message, (screen mode none r requestId w).1 = .failed (.raised message) := by
  have hresolution : ∀ resolution : Identity.Resolution,
      (∃ caller, Admission.ofResolution resolution = .caller caller) ∨
        (∃ message, Admission.ofResolution resolution = .refused (.unauthorized message)) ∨
        Admission.ofResolution resolution = .refused .internalError := by
    rintro (caller | _ | message)
    · exact Or.inl ⟨caller, rfl⟩
    · exact Or.inr (Or.inl ⟨_, rfl⟩)
    · exact Or.inr (Or.inr rfl)
  unfold screen
  split_ifs
  · exact Or.inl rfl
  · right
    cases mode with
    | devBypass =>
      simp only [screenTrusted]
      split
      · exact Or.inr (Or.inl ⟨_, rfl⟩)
      · exact Or.inl ⟨_, rfl⟩
    | verified keys expected resolver =>
      rcases bearerToken r with message | token
      · exact Or.inr (Or.inl ⟨message, rfl⟩)
      · simp only [screenToken_fst]
        rcases (Token.verify keys.lookup token expected _ w).1 with
          message | failure | verified
        · exact Or.inr (Or.inr (Or.inr ⟨message, rfl⟩))
        · exact Or.inr (Or.inl ⟨_, rfl⟩)
        · rcases hresolution (resolver.resolve verified.subject w.database).1 with h | h | h
          · exact Or.inl h
          · exact Or.inr (Or.inl h)
          · exact Or.inr (Or.inr (Or.inl h))

theorem Stage.guarded_answerable (mode : Gate.Mode) (kind : StoreKind) (requestId : String)
    (r : Request) (w : World) :
    Answerable (guarded mode none (Route.dispatch kind) requestId r w).answer := by
  rcases Gate.screen_fst_cases mode r requestId w with
    h | ⟨caller, h⟩ | ⟨message, h⟩ | h | ⟨message, h⟩
  · rw [guarded_of_isExempt (Gate.screen_fst_eq_exempt_iff.1 h)]
    exact Route.dispatch_answerable kind r _ _
  · rw [guarded_of_caller h]
    exact Route.dispatch_answerable kind r _ _
  · rw [guarded_of_refused h]
    exact answerable_ok (Response.plain_unauthorized message)
  · rw [guarded_of_refused h]
    exact answerable_ok Response.plain_internalError
  · rw [guarded_of_failed h]
    exact answerable_error fun _ => Fault.noConfusion

theorem Stage.plain_recovered {requestId : String} {r : Request}
    {e : Exchange (Except Fault Response)} (h : Answerable e.answer) :
    (recovered requestId r e).answer.Plain := by
  obtain ⟨answer, caller, w⟩ := e
  rcases answer with fault | response
  · cases fault with
    | api error => exact (h.tells error rfl).plain
    | _ => exact Response.plain_internalError
  · exact h.plain response rfl

/-! ### Ids -/

namespace RequestId

/-- The shape of an id: letters, digits, points, low lines and hyphens, one to 128 of them. -/
def HasShape (id : String) : Prop :=
  (1 ≤ id.toList.length ∧ id.toList.length ≤ 128) ∧
    ∀ c ∈ id.toList, ('A' ≤ c ∧ c ≤ 'Z') ∨ ('a' ≤ c ∧ c ≤ 'z') ∨ ('0' ≤ c ∧ c ≤ '9') ∨
      c = '.' ∨ c = '_' ∨ c = '-'

theorem isIdChar_iff {c : Char} :
    isIdChar c = true ↔ ('A' ≤ c ∧ c ≤ 'Z') ∨ ('a' ≤ c ∧ c ≤ 'z') ∨ ('0' ≤ c ∧ c ≤ '9') ∨
      c = '.' ∨ c = '_' ∨ c = '-' := by
  simp only [isIdChar, isAlphanumeric, Bool.or_eq_true, Bool.and_eq_true, decide_eq_true_eq,
    isDecimal_iff]
  tauto

theorem isAcceptable_iff {id : String} : isAcceptable id = true ↔ HasShape id := by
  simp only [isAcceptable, HasShape, Bool.and_eq_true, decide_eq_true_eq, List.all_eq_true,
    isIdChar_iff]

instance (id : String) : Decidable (HasShape id) := decidable_of_iff _ isAcceptable_iff

/-- Fresh ids, being in the five-group form, are in the shape of ids. -/
theorem hasShape_of_isWellFormed {id : String} (h : Uuid.isWellFormed id = true) :
    HasShape id := by
  rw [Uuid.isWellFormed, Bool.and_eq_true, decide_eq_true_eq, List.all_eq_true] at h
  obtain ⟨hlengths, hhex⟩ := h
  have hchars : (id : Text).chars = id.toList := Text.chars_ofChars _
  rw [hchars] at hlengths hhex
  have hjoined : id.toList = ['-'].intercalate (id.toList.splitOn '-') :=
    eq_intercalate_of_splitOn rfl
  generalize id.toList.splitOn '-' = groups at hlengths hhex hjoined
  have hidChar : ∀ c, isHex c = true → isIdChar c = true := by
    intro c hc
    rw [isIdChar_iff]
    rw [isHex, hexValue?] at hc
    split_ifs at hc with hdigit hsmall hcapital
    · exact Or.inr (Or.inr (Or.inl hdigit))
    · exact Or.inr (Or.inl ⟨hsmall.1, Char.le_trans hsmall.2 (by decide)⟩)
    · exact Or.inl ⟨hcapital.1, Char.le_trans hcapital.2 (by decide)⟩
    · cases hc
  rcases groups with _ | ⟨first, rest⟩
  · exact absurd hlengths (by decide)
  rw [intercalate_cons] at hjoined
  rw [← isAcceptable_iff, isAcceptable, Bool.and_eq_true, Bool.and_eq_true, decide_eq_true_eq,
    decide_eq_true_eq, List.all_eq_true]
  -- thirty-two digits, and four hyphens between them
  have hlength : id.toList.length = 36 := by
    obtain ⟨hfirst, hrest⟩ := List.cons.inj hlengths
    have hparts : rest.map (fun part => ('-' :: part).length) = [5, 5, 5, 13] := by
      have hsucc := congrArg (List.map (· + 1)) hrest
      rw [List.map_map] at hsucc
      exact hsucc
    rw [hjoined, List.length_append, List.length_flatMap, hfirst, hparts]
    rfl
  refine ⟨by omega, fun c hc => ?_⟩
  rw [hjoined, List.mem_append, List.mem_flatMap] at hc
  rcases hc with hc | ⟨group, hgroup, hc⟩
  · exact hidChar c (List.all_eq_true.1 (hhex first List.mem_cons_self) c hc)
  · rcases List.mem_cons.1 hc with rfl | hc
    · decide
    · exact hidChar c (List.all_eq_true.1 (hhex group (List.mem_cons_of_mem _ hgroup)) c hc)

end RequestId

/-- The id that would be given next. -/
def World.nextId (w : World) : String := Uuid.ofNumber (w.idsGiven + 1)

theorem Stage.requestId_fst (r : Request) (w : World) :
    (requestId r w).1 =
      ((r.header? RequestId.header).filter RequestId.isAcceptable).getD w.nextId := by
  unfold requestId RequestId.needsFresh RequestId.choose
  rcases (r.header? RequestId.header).filter RequestId.isAcceptable with _ | id <;> rfl

/-- The id of a request is the one that it brings exactly if that is in the shape of ids, and
is in that shape whichever it is. -/
theorem Stage.requestId_shape {r : Request} {w : World}
    (hfresh : Uuid.isWellFormed w.nextId = true) :
    RequestId.HasShape (requestId r w).1 ∧ ∀ value, r.header? RequestId.header = some value →
      ((requestId r w).1 = value ↔ RequestId.HasShape value) := by
  have hnext := RequestId.hasShape_of_isWellFormed hfresh
  rw [requestId_fst]
  rcases hheader : r.header? RequestId.header with _ | value
  · exact ⟨hnext, nofun⟩
  · by_cases hshape : RequestId.HasShape value
    · rw [Option.filter_some, if_pos (RequestId.isAcceptable_iff.2 hshape)]
      refine ⟨hshape, ?_⟩
      rintro _ ⟨⟩
      exact iff_of_true rfl hshape
    · rw [Option.filter_some, if_neg (mt RequestId.isAcceptable_iff.1 hshape)]
      refine ⟨hnext, ?_⟩
      rintro _ ⟨⟩
      refine iff_of_false (fun heq => hshape ?_) hshape
      rw [← heq]
      exact hnext

/-! ### Answers as they are sent -/

namespace App

variable {app : App} {r : Request} {w : World}

/-- A request whose body is over the limit. -/
theorem serve_of_large (app : App) (w : World)
    (hlarge : BodyLimit.exceeds BodyLimit.defaultMax r = true) :
    app.serve r w = (sent r (Stage.requestId r w).1 (BodyLimit.refusal BodyLimit.defaultMax),
      (Stage.requestId r w).2) := by
  rw [serve_eq, serveBy]
  simp only [hlarge, if_true]

/-- A request that comes to the gate, be it to be screened or not. -/
theorem serve_of_small (app : App) (w : World)
    (hsmall : BodyLimit.exceeds BodyLimit.defaultMax r = false) :
    app.serve r w = leave r (Stage.requestId r w).1 (Stage.requestId r w).2.reading.1
      (app.guarded r (w.entered r) (Stage.requestId r w).1) := by
  rw [serve_eq, serveBy]
  simp only [hsmall, Bool.false_eq_true, if_false]
  rfl

/-- Behind the outer stages every request has a plain answer, and this is what is sent. -/
theorem exists_serve_plain (app : App) (r : Request) (w : World) :
    ∃ answer : Response, answer.Plain ∧
      (app.serve r w).1 = sent r (Stage.requestId r w).1 answer := by
  by_cases hsize : BodyLimit.exceeds BodyLimit.defaultMax r = true
  · rw [app.serve_of_large w hsize]
    exact ⟨_, Response.plain_refusal _, rfl⟩
  · rw [app.serve_of_small w (Bool.eq_false_iff.2 hsize)]
    exact ⟨_, Stage.plain_recovered (Stage.guarded_answerable app.mode app.store _ r _), rfl⟩

theorem headers_sent (requestId : String) (response : Response) :
    (sent r requestId response).headers =
      response.headers ++ (RequestId.header, requestId) :: securityHeaders := by
  unfold sent Response.sentFor
  split_ifs <;> simp [Response.withHeaders]

/-- What is sent has the headers of the outer stages, and no others of their names. -/
theorem filter_headers_sent {answer : Response} (hanswer : answer.Plain) (requestId : String)
    {name : String} (hname : name ≠ "content-type") :
    (sent r requestId answer).headers.filter (·.1 = name) =
      ((RequestId.header, requestId) :: securityHeaders).filter (·.1 = name) := by
  have hnone : answer.headers.filter (·.1 = name) = [] := by
    rw [List.filter_eq_nil_iff]
    intro h hmem
    rw [hanswer.headers h hmem, decide_eq_true_eq]
    exact hname.symm
  rw [headers_sent, List.filter_append, hnone, List.nil_append]

/-- What is sent has one id. -/
theorem filter_id_sent {answer : Response} (hanswer : answer.Plain) (requestId : String) :
    (sent r requestId answer).headers.filter (·.1 = RequestId.header) =
      [(RequestId.header, requestId)] := by
  have hnone : securityHeaders.filter (·.1 = RequestId.header) = [] := by decide +kernel
  rw [filter_headers_sent hanswer _ (by decide), List.filter_cons_of_pos (by simp), hnone]

theorem isError_sent {requestId : String} {answer : Response} (h : answer.IsError)
    (hmethod : r.method ≠ "HEAD") : (sent r requestId answer).IsError := by
  rw [sent, Response.sentFor, if_neg hmethod]
  exact h

end App

/-- The answers of a server have one form, whatever it is asked and whatever happens to it. An
answer has each security header once, and one id: the one that the request brings if and only
if that is in the shape of ids, and one in that shape in any case, as long as the fresh ones
are. And an answer that is no success says so in the one form of errors, with a code that goes
with its status. -/
theorem answers_keep_form (app : App) (w : World) (events : List App.Event) :
    ∀ s ∈ app.history w events,
      (∀ h ∈ App.securityHeaders, s.response.headers.filter (·.1 = h.1) = [h]) ∧
      (∃ id, s.response.headers.filter (·.1 = RequestId.header) = [(RequestId.header, id)] ∧
        (Uuid.isWellFormed s.before.nextId = true →
          RequestId.HasShape id ∧ ∀ value, s.request.header? RequestId.header = some value →
            (id = value ↔ RequestId.HasShape value))) ∧
      (400 ≤ s.response.status → s.request.method ≠ "HEAD" → s.response.IsError) := by
  rintro ⟨app, r, w⟩ -
  obtain ⟨answer, hplain, hsent⟩ := app.exists_serve_plain r w
  have hresponse : (Served.mk app r w).response = App.sent r (Stage.requestId r w).1 answer :=
    hsent
  rw [hresponse]
  refine ⟨fun h hmem => ?_,
    ⟨(Stage.requestId r w).1, App.filter_id_sent hplain _, Stage.requestId_shape⟩,
    fun hstatus hmethod => ?_⟩
  · obtain ⟨hcontent, hid, honce⟩ : h.1 ≠ "content-type" ∧ RequestId.header ≠ h.1 ∧
        App.securityHeaders.filter (·.1 = h.1) = [h] := by
      revert h
      decide +kernel
    rw [App.filter_headers_sent hplain _ hcontent,
      List.filter_cons_of_neg (by simpa using hid), honce]
  · rw [App.status_sent] at hstatus
    exact App.isError_sent (hplain.isError hstatus) hmethod

/-- A new todo without a title asked for, under an id of the client's. -/
def untitledUnder (id : String) : App.Event :=
  let e := posting "\x7b\"title\":\"\"\x7d"
  { e with request := { e.request with headers := ("X-Request-Id", id) :: e.request.headers } }

theorem answers_keep_form_untitled :
    ∃ s ∈ developmentStartup.app.history (.initial 0 (.rejected ""))
      [untitledUnder "two words"], s.response.status = 400 ∧ s.request.method ≠ "HEAD" ∧
        Uuid.isWellFormed s.before.nextId = true ∧
        s.request.header? RequestId.header = some "two words" ∧
        s.response.headers.filter (·.1 = "x-frame-options") =
          [("x-frame-options", "SAMEORIGIN")] ∧
        s.response.IsError ∧
        ∃ id, s.response.headers.filter (·.1 = RequestId.header) = [(RequestId.header, id)] ∧
          RequestId.HasShape id ∧ id ≠ "two words" := by
  let s := developmentStartup.app.meet (.initial 0 (.rejected "")) (untitledUnder "two words")
  have hs : s ∈ developmentStartup.app.history (.initial 0 (.rejected ""))
      [untitledUnder "two words"] :=
    List.mem_cons_self
  obtain ⟨hsecurity, ⟨id, hid, hshape⟩, herror⟩ := answers_keep_form _ _ _ s hs
  have hstatus : s.response.status = 400 := by decide +kernel
  have hmethod : s.request.method ≠ "HEAD" := by decide
  have hfresh : Uuid.isWellFormed s.before.nextId = true := by decide +kernel
  have hbrings : s.request.header? RequestId.header = some "two words" := by decide +kernel
  obtain ⟨hshape, hiff⟩ := hshape hfresh
  refine ⟨s, hs, hstatus, hmethod, hfresh, hbrings,
    hsecurity ("x-frame-options", "SAMEORIGIN") (by decide), herror hstatus.ge hmethod,
    id, hid, hshape, fun heq => ?_⟩
  exact absurd ((hiff _ hbrings).1 heq) (by decide +kernel)

end TodoServer
