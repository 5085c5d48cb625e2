/-
The limit on bodies.

A body is measured in one of two ways. Where its length is declared, and not sent in a transfer
coding, the declaration decides; otherwise the bytes are counted chunk by chunk until they are
too many. Both compare numbers of double precision, which keep every integer as far as the
limit and the order of all of them. So where a declaration is true, both ways decide by the
number of bytes alone. A body over the limit is answered before anything else is done with its
request: only an id has been given out. One within the limit goes through as if there were
none.

* `Http.Request.HasTrueLength` — a length that is declared as it is, or not at all, or that
  does not count;
* `BodyLimit.exceeds_iff` — both ways of measuring decide by the number of bytes;
* `App.serveUnlimited` — the app without a limit;
* `App.status_ne_413_of_small` — no other stage answers that a body is too large;
* `body_limit_exact` — which requests are refused, what becomes of them and of the others.
-/
import TodoServer.Proofs.Number.Written
import TodoServer.Proofs.Server.Bodies

namespace TodoServer

open Http

/-! ### Measuring -/

/-- The length of a body is not declared, or is declared as it is, or the declaration does not
count because the body is sent in a transfer coding. -/
inductive Http.Request.HasTrueLength (r : Request) : Prop
  | undeclared (habsent : r.header? "content-length" = none)
  | coded (hcoding : (r.header? "transfer-encoding").isSome = true)
  | declared {text : String} (hheader : r.header? "content-length" = some text)
    (hlength : numeral? text.toList = some r.bytes.length)

namespace BodyLimit

/-- How many bytes are within the limit. -/
def limit : Nat := 65536

/-- A count is over the limit as a number of double precision exactly if it is over it. -/
theorem isOver_ofInt (count : Nat) : isOver defaultMax (.ofInt count) =
    decide (limit < count) := by
  have hlimit : Number.ofRat 65536 = .finite 65536 :=
    Number.ofInt_eq_finite (n := 65536) (by decide)
  have hover : isOver defaultMax (.ofInt count) = (Number.finite 65536).lt (.ofInt count) :=
    rfl
  rw [hover, Bool.eq_iff_iff, decide_eq_true_iff]
  constructor
  · intro h
    have hlt : (65536 : Rat) < (count : Int) := Number.lt_of_finite_lt_ofRat hlimit h
    exact_mod_cast hlt
  · intro h
    -- the next integer is held exactly as well, and no greater one is rounded below it
    have hnext : Number.ofRat 65537 = .finite 65537 :=
      Number.ofInt_eq_finite (n := 65537) (by decide)
    have hcount : (65537 : Rat) ≤ (count : Int) := by
      have hle : limit + 1 ≤ count := h
      exact_mod_cast hle
    have hle := Number.ofRat_le_ofRat hcount
    rw [hnext] at hle
    rw [Number.ofInt]
    generalize Number.ofRat (count : Int) = number at hle ⊢
    rcases number with value | negative
    · have hvalue : ¬value < 65537 := by simpa [Number.le, Number.lt] using hle
      simp only [Number.lt, decide_eq_true_eq]
      linarith
    · simpa [Number.le, Number.lt] using hle

/-- Chunks are counted to their end, or until they are too many. -/
theorem overflows_iff {counted : Nat} (h : counted ≤ limit) (chunks : List (List UInt8)) :
    overflows defaultMax counted chunks = true ↔ limit < counted + chunks.flatten.length := by
  induction chunks generalizing counted with
  | nil => exact iff_of_false Bool.false_ne_true (Nat.not_lt.2 h)
  | cons chunk rest ih =>
    rw [overflows, List.flatten_cons, List.length_append, ← Nat.add_assoc]
    simp only [isOver_ofInt, Bool.or_eq_true, decide_eq_true_eq]
    by_cases hover : limit < counted + chunk.length
    · exact iff_of_true (Or.inl hover) (hover.trans_le (Nat.le_add_right _ _))
    · rw [ih (Nat.not_lt.1 hover)]
      exact or_iff_right hover

theorem isBlank_of_isDecimal {c : Char} (h : isDecimal c = true) : isBlank c = false := by
  have hrange := isDecimal_iff.1 h
  have hlow : 48 ≤ c.toNat := hrange.1
  have hhigh : c.toNat ≤ 57 := hrange.2
  simp only [isBlank, isSpace, isLineEnd, Bool.or_eq_false_iff, Bool.and_eq_false_iff,
    decide_eq_false_iff_not]
  omega

/-- A numeral declares the number that it writes. -/
theorem declaredLength?_of_numeral {text : String} {n : Nat}
    (h : numeral? text.toList = some n) : declaredLength? text = some (.ofInt n) := by
  obtain ⟨⟨hne, hdigits⟩, -⟩ := numeral?_eq_some_iff_digits.1 h
  have hempty : text ≠ "" := fun heq => hne (by rw [heq]; rfl)
  have hleading : leadingNumber? text.toList = some (n : Int) := by
    have hall : text.toList.takeWhile isDecimal = text.toList := by
      simpa using @List.takeWhile_append_of_pos _ isDecimal text.toList [] hdigits
    rw [leadingNumber?, hall, h]
    rfl
  rcases hlist : text.toList with _ | ⟨c, rest⟩
  · exact absurd hlist hne
  have hc : isDecimal c = true := hdigits c (hlist ▸ List.mem_cons_self)
  rw [hlist] at hleading
  rw [declaredLength?, declaredInteger?, if_neg hempty, hlist,
    List.dropWhile_cons_of_neg (by simp [isBlank_of_isDecimal hc])]
  split
  · next heq =>
    cases heq
    exact absurd hc (by decide)
  · next heq =>
    cases heq
    exact absurd hc (by decide)
  · rw [hleading]
    rfl

variable {r : Request}

/-- Both ways of measuring decide by the number of bytes. -/
theorem exceeds_iff (h : r.HasTrueLength) : exceeds defaultMax r = true ↔
    limit < r.bytes.length := by
  unfold exceeds
  rcases hbody : r.body with _ | chunks
  · -- no body, no bytes
    have hbytes : r.bytes = [] := by rw [Request.bytes, hbody]; rfl
    rw [hbytes]
    exact iff_of_false Bool.false_ne_true (Nat.not_lt_zero _)
  have hbytes : r.bytes = chunks.flatten := by rw [Request.bytes, hbody]; rfl
  have hcounted : overflows defaultMax 0 chunks = true ↔ limit < r.bytes.length := by
    rw [overflows_iff (Nat.zero_le _), Nat.zero_add, hbytes]
  cases h with
  | undeclared habsent => simpa only [habsent] using hcounted
  | coded hcoding =>
    obtain ⟨coding, hcoding⟩ := Option.isSome_iff_exists.1 hcoding
    simp only [hcoding]
    split
    · next h => cases h
    · exact hcounted
  | declared hheader hlength =>
    rcases hcoding : r.header? "transfer-encoding" with _ | coding
    · simp only [hheader, declaredLength?_of_numeral hlength, Option.any_some, isOver_ofInt,
        decide_eq_true_eq]
    · simpa only [hheader] using hcounted

theorem refusal_defaultMax :
    refusal defaultMax = .error 413 .payloadTooLarge "body exceeds 65536 bytes" := by
  decide +kernel

end BodyLimit

/-! ### The other stages -/

namespace Stage

/-- No failure is answered as if a body were too large. -/
theorem status_responseTo {x : Except Fault Response} (htells : Tells x)
    (hok : ∀ response, x = .ok response → response.status ≠ 413) :
    (responseTo x).status ≠ 413 := by
  rcases x with fault | response
  · cases fault with
    | api e =>
      show (apiResponse e).status ≠ 413
      obtain ⟨message, h | h | h⟩ := (htells e rfl).apiResponse_cases <;> rw [h]
      · exact (by decide : (400 : Int) ≠ 413)
      · exact (by decide : (404 : Int) ≠ 413)
      · exact (by decide : (401 : Int) ≠ 413)
    | _ => exact (by decide : (500 : Int) ≠ 413)
  · exact hok response rfl

theorem status_ne_413_of_dispatch {kind : StoreKind} {r : Request} {caller : Datum} {w : World}
    {response : Response} (h : (Route.dispatch kind r caller w).1 = .ok response) :
    response.status ≠ 413 := by
  have hgiven : ∀ given ∈ Route.givenAnswers, given.status ≠ 413 := by decide +kernel
  rcases Route.mem_or_lt_of_dispatch h with hmem | hlt
  · exact hgiven response hmem
  · omega

/-- Neither does the gate, nor what is behind it. -/
theorem status_guarded {mode : Gate.Mode} {kind : StoreKind} {requestId : String} {r : Request}
    {w : World} {response : Response}
    (h : (guarded mode none (Route.dispatch kind) requestId r w).answer = .ok response) :
    response.status ≠ 413 := by
  rcases Gate.screen_fst_cases mode r requestId w with
    hscreen | ⟨caller, hscreen⟩ | ⟨message, hscreen⟩ | hscreen | ⟨message, hscreen⟩
  · rw [guarded_of_exempt hscreen] at h
    exact status_ne_413_of_dispatch h
  · rw [guarded_of_caller hscreen] at h
    exact status_ne_413_of_dispatch h
  · rw [guarded_of_refused hscreen] at h
    cases h
    exact (by decide : (401 : Int) ≠ 413)
  · rw [guarded_of_refused hscreen] at h
    cases h
    exact (by decide : (500 : Int) ≠ 413)
  · rw [guarded_of_failed hscreen] at h
    cases h

end Stage

namespace App

variable {app : App} {r : Request} {w : World}

/-- The app without a limit on bodies. -/
def serveUnlimited (app : App) (r : Request) (w : World) : Response × World :=
  let (response, w) := Stage.identified r (fun requestId w => app.handle r requestId w) w
  ((response.withHeaders securityHeaders).sentFor r, w)

/-- A body within the limit is not measured for anything else. -/
theorem serve_eq_serveUnlimited (app : App) (w : World)
    (hsmall : BodyLimit.exceeds BodyLimit.defaultMax r = false) :
    app.serve r w = app.serveUnlimited r w := by
  have hwords : BodyLimit.defaultMax.hasWords = true := rfl
  unfold serve serveUnlimited Stage.identified Stage.limited
  simp only [hsmall, hwords, Bool.not_true, Bool.and_false, Bool.false_eq_true, if_false]

theorem status_ne_413_of_small (app : App) (w : World)
    (hsmall : BodyLimit.exceeds BodyLimit.defaultMax r = false) :
    (app.serve r w).1.status ≠ 413 := by
  have hanswerable :=
    Stage.guarded_answerable app.mode app.store (Stage.requestId r w).1 r (w.entered r)
  rw [app.serve_of_small w hsmall]
  show (sent r (Stage.requestId r w).1 _).status ≠ 413
  rw [status_sent, guarded, Stage.answer_recovered]
  exact Stage.status_responseTo hanswerable.tells fun _ => Stage.status_guarded

/-- A request gets an id, and nothing else changes. -/
theorem requestId_snd (r : Request) (w : World) :
    (Stage.requestId r w).2 = { w with idsGiven := (Stage.requestId r w).2.idsGiven } := by
  unfold Stage.requestId
  split_ifs <;> rfl

end App

/-- The limit on bodies is exact and refuses without effect. Whatever its method, its path, its
caller, the mode and the chunks that its body comes in, a request whose length is true is
answered as too large exactly if it has more bytes than the limit. Then this is all that
happens: neither the store nor the database nor the endpoint is asked for anything, and nothing
is logged. Otherwise it is answered, with all that comes of it, as by the app without a
limit. -/
theorem body_limit_exact (app : App) (r : Request) (w : World) (hlength : r.HasTrueLength) :
    ((app.serve r w).1.status = 413 ↔ 65536 < r.bytes.length) ∧
    (65536 < r.bytes.length →
      (∃ requestId idsGiven, app.serve r w =
        (App.sent r requestId (.error 413 .payloadTooLarge "body exceeds 65536 bytes"),
          { w with idsGiven })) ∧
      (r.method ≠ "HEAD" →
        (app.serve r w).1.Refuses 413 "PAYLOAD_TOO_LARGE" "body exceeds 65536 bytes")) ∧
    (r.bytes.length ≤ 65536 → app.serve r w = app.serveUnlimited r w) := by
  have hexceeds : BodyLimit.exceeds BodyLimit.defaultMax r = true ↔ 65536 < r.bytes.length :=
    BodyLimit.exceeds_iff hlength
  have hrefused : 65536 < r.bytes.length → app.serve r w =
      (App.sent r (Stage.requestId r w).1
        (.error 413 .payloadTooLarge "body exceeds 65536 bytes"),
        { w with idsGiven := (Stage.requestId r w).2.idsGiven }) := fun hlarge => by
    rw [app.serve_of_large w (hexceeds.2 hlarge), BodyLimit.refusal_defaultMax]
    exact congrArg _ (App.requestId_snd r w)
  refine ⟨⟨fun hstatus => ?_, fun hlarge => ?_⟩,
    fun hlarge => ⟨⟨_, _, hrefused hlarge⟩, fun hmethod => ?_⟩, fun hsmall => ?_⟩
  · by_contra hsmall
    exact app.status_ne_413_of_small w (Bool.eq_false_iff.2 (mt hexceeds.1 hsmall)) hstatus
  · rw [hrefused hlarge]
    exact App.status_sent r _ _
  · rw [hrefused hlarge, App.refuses_sent_iff hmethod]
    exact Response.refuses_error 413 _ rfl
  · exact app.serve_eq_serveUnlimited w (Bool.eq_false_iff.2 fun h =>
      Nat.not_lt.2 hsmall (hexceeds.1 h))

/-- A new todo asked for on a path, in a body of zero bytes that comes in two chunks. -/
def zeros (path : Text) (first second : Nat) : Request :=
  { (posting "").request with
    path, body := some [List.replicate first 0, List.replicate second 0] }

theorem length_bytes_zeros (path : Text) (first second : Nat) :
    (zeros path first second).bytes.length = first + second := by
  have hbytes : (zeros path first second).bytes =
      [List.replicate first 0, List.replicate second 0].flatten := rfl
  simp [hbytes]

theorem zeros_hasTrueLength (path : Text) (first second : Nat) :
    (zeros path first second).HasTrueLength := by
  have hheader : (posting "").request.header? "content-length" = none := by decide +kernel
  exact .undeclared hheader

/-- One byte more than the limit is refused, also on a path that a line end runs through and
that is no route, and a body of the limit is not. -/
theorem body_limit_exact_boundary :
    let app := developmentStartup.app
    let w := World.initial 0 (.rejected "")
    ((app.serve (zeros "/x\ny" 65536 1) w).1.Refuses 413 "PAYLOAD_TOO_LARGE"
        "body exceeds 65536 bytes" ∧
      (app.serve (zeros "/x\ny" 65536 1) w).2.calls = w.calls) ∧
    (app.serve (zeros "/api/v1/todos" 30000 35536) w).1.status ≠ 413 ∧
      app.serve (zeros "/api/v1/todos" 30000 35536) w =
        app.serveUnlimited (zeros "/api/v1/todos" 30000 35536) w := by
  intro app w
  obtain ⟨-, hlarge, -⟩ := body_limit_exact app (zeros "/x\ny" 65536 1) w
    (zeros_hasTrueLength _ _ _)
  obtain ⟨⟨requestId, idsGiven, hserve⟩, hrefuses⟩ :=
    hlarge (by rw [length_bytes_zeros]; decide)
  obtain ⟨hstatus, -, hsmall⟩ := body_limit_exact app (zeros "/api/v1/todos" 30000 35536) w
    (zeros_hasTrueLength _ _ _)
  refine ⟨⟨hrefuses (by decide), by rw [hserve]⟩, fun h => ?_,
    hsmall (by rw [length_bytes_zeros])⟩
  have hmore := hstatus.1 h
  rw [length_bytes_zeros] at hmore
  exact absurd hmore (by decide)

end TodoServer
