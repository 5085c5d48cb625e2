/-
What the gate lets in, and what it leaves behind.

A gate that goes on with a caller has established who it is, and the evidence is in the request
and in the world at that moment: the header that is trusted, or a verified token and a user
found for its subject. Nothing else about the request or the world is looked at, so requests
with one and the same evidence have one and the same caller.

* `World.Adds` — what one world has on top of another, of calls to the store and of queries;
* `Gate.Establishes` — the evidence for a caller;
* `Gate.screen_fst_of_bearer` — what becomes of a token at the gate, by its verdict and its
  user;
* `Gate.screen_fst_eq_caller_iff` — the gate goes on with a caller exactly on evidence for it;
* `Gate.screen_adds` — the gate calls no store, and its queries are about users;
* `Token.subject?_of_verify` — the subject of a verified token is known from the token alone;
* `Gate.SameIdentity.unique` — requests that claim the same identity have the same caller, if
  any.
-/
import TodoServer.Identity.Gate
import Mathlib.Data.List.Basic

namespace TodoServer

open Http

/-! ### Worlds -/

/-- A world has some calls to the store and some queries on top of another, and the queries
have been answered from what the other was going to answer. -/
structure World.Adds (w w' : World) (calls : List Store.Call) (queries : List Sql.Query) :
    Prop where
  calls_eq : w'.calls = w.calls ++ calls
  sent_eq : w'.database.sent = w.database.sent ++ queries
  answers_eq : w'.database.answers = w.database.answers.drop queries.length

theorem World.Adds.refl (w : World) : w.Adds w [] [] :=
  ⟨(List.append_nil _).symm, (List.append_nil _).symm, rfl⟩

theorem World.Adds.of_eq {w w' : World} (hcalls : w'.calls = w.calls)
    (hdatabase : w'.database = w.database) : w.Adds w' [] [] := by
  refine ⟨?_, ?_, ?_⟩
  · rw [hcalls, List.append_nil]
  · rw [hdatabase, List.append_nil]
  · rw [hdatabase, List.length_nil, List.drop_zero]

theorem World.Adds.trans {w w' w'' : World} {calls calls' : List Store.Call}
    {queries queries' : List Sql.Query} (h : w.Adds w' calls queries)
    (h' : w'.Adds w'' calls' queries') :
    w.Adds w'' (calls ++ calls') (queries ++ queries') := by
  refine ⟨?_, ?_, ?_⟩
  · rw [h'.calls_eq, h.calls_eq, List.append_assoc]
  · rw [h'.sent_eq, h.sent_eq, List.append_assoc]
  · rw [h'.answers_eq, h.answers_eq, List.drop_drop, List.length_append]

theorem World.Adds.note {w w' : World} {calls : List Store.Call} {queries : List Sql.Query}
    (h : w.Adds w' calls queries) (entry : Log.Entry) : w.Adds (w'.note entry) calls queries :=
  ⟨h.calls_eq, h.sent_eq, h.answers_eq⟩

/-- A query is sent: it is added, and one answer is used up. -/
theorem World.Adds.send (w : World) (q : Sql.Query) :
    w.Adds { w with database := (w.database.send q).2 } [] [q] := by
  rcases hanswers : w.database.answers with _ | ⟨first, rest⟩ <;>
  · refine ⟨(List.append_nil _).symm, ?_, ?_⟩ <;> simp [Sql.Session.send, hanswers]

/-- What a conversation with the database says next. -/
def Sql.Session.next (s : Sql.Session) : Sql.Outcome :=
  s.answers.head?.getD (.rows [] (some (.finite 0)))

@[simp] theorem Sql.Session.send_fst (s : Sql.Session) (q : Sql.Query) :
    (s.send q).1 = s.next := by
  rcases hanswers : s.answers with _ | ⟨first, rest⟩ <;>
    simp [Sql.Session.send, Sql.Session.next, hanswers]

/-- What a statement is about. -/
def Sql.Statement.table : Sql.Statement → Sql.Table
  | .select table _ _ => table
  | .page .. => .todos
  | .insert _ => .todos
  | .update .. => .todos
  | .delete _ => .todos

/-! ### Look-ups of keys -/

/-- Two worlds in which a look-up of a key goes the same way. -/
structure World.SameKeys (w w' : World) : Prop where
  now_eq : w'.now = w.now
  endpoint_eq : w'.endpoint = w.endpoint
  cache_eq : w'.cache = w.cache

theorem KeySource.lookup_cached (settings : KeySetSettings) (keyId : Text) (w : World) :
    (KeySource.cached settings).lookup keyId w =
      ((cachedOne settings keyId w).1.mapError .keySet, (cachedOne settings keyId w).2) := by
  rcases hl : cachedOne settings keyId w with ⟨_ | _, w'⟩ <;> simp only [lookup, hl] <;> rfl

/-- What is logged of a refresh that a fetch brings to an end. -/
def FetchOutcome.refreshEntry (outcome : FetchOutcome) : Log.Entry :=
  let (refreshed, c) := Cache.empty.arrive 0 outcome
  Cache.refreshEntry refreshed c

/-- The cache and the clock have no say in what is logged of a refresh. -/
theorem Cache.refreshEntry_arrive (now : Rat) (outcome : FetchOutcome) (c : Cache) :
    Cache.refreshEntry (c.arrive now outcome).1 (c.arrive now outcome).2 =
      outcome.refreshEntry := by
  unfold FetchOutcome.refreshEntry Cache.arrive
  rcases outcome.entries with failure | entries <;> rfl

/-- A look-up logs the end of a refresh at most. -/
theorem Cache.entries_get (cooldown : Number) (now : Rat) (outcome : FetchOutcome)
    (keyId : Text) (c : Cache) : (c.get cooldown now outcome keyId).entries.Sublist
      [outcome.refreshEntry] := by
  unfold Cache.get
  rcases c.start cooldown now keyId with ⟨key | _ | started, c'⟩
  · exact List.nil_sublist _
  · exact List.nil_sublist _
  · show [Cache.refreshEntry (c'.arrive now outcome).1 (c'.arrive now outcome).2].Sublist _
    rw [refreshEntry_arrive]

/-- A look-up changes nothing but the cache, the fetches and the log, to which it adds the end
of a refresh at most. -/
theorem KeySource.lookup_snd (source : KeySource) (keyId : Text) (w : World) :
    ∃ cache fetches refreshes, refreshes.Sublist [w.endpoint.refreshEntry] ∧
      (source.lookup keyId w).2 = { w with
        cache, fetches, journal := w.journal ++ refreshes } := by
  cases source with
  | rule answer =>
    exact ⟨w.cache, w.fetches, [], List.nil_sublist _, by rw [List.append_nil]; rfl⟩
  | cached settings =>
    rw [lookup_cached]
    refine ⟨_, _, _, ?_, rfl⟩
    split_ifs
    · exact Cache.entries_get _ _ _ _ _
    · exact List.nil_sublist _

/-- The key that a look-up finds depends on the clock, the endpoint and the cache only. -/
theorem KeySource.lookup_fst_congr (source : KeySource) (keyId : Text) {w w' : World}
    (h : w.SameKeys w') : (source.lookup keyId w').1 = (source.lookup keyId w).1 := by
  cases source with
  | rule answer => rfl
  | cached settings =>
    rw [lookup_cached, lookup_cached]
    unfold cachedOne
    rw [h.now_eq, h.endpoint_eq, h.cache_eq]

/-- Verification changes the state of the key source at most by one look-up. -/
theorem Token.verify_snd {σ : Type} (keys : Token.KeyLookup σ) (token : Text)
    (expected : Token.Expected) (now : Date) (s : σ) :
    (Token.verify keys token expected now s).2 = s ∨
      ∃ keyId, (Token.verify keys token expected now s).2 = (keys keyId s).2 := by
  unfold Token.verify
  rcases Token.Header.read token with failure | header
  · exact Or.inl rfl
  · refine Or.inr ⟨header.keyId, ?_⟩
    rcases hkey : keys header.keyId s with ⟨(_ | _) | _, s'⟩ <;> simp only [hkey]

theorem Token.verify_world (source : KeySource) (token : Text) (expected : Token.Expected)
    (now : Date) (w : World) :
    ∃ cache fetches refreshes, refreshes.Sublist [w.endpoint.refreshEntry] ∧
      (Token.verify source.lookup token expected now w).2 =
        { w with cache, fetches, journal := w.journal ++ refreshes } := by
  rcases Token.verify_snd source.lookup token expected now w with h | ⟨keyId, h⟩
  · refine ⟨w.cache, w.fetches, [], List.nil_sublist _, ?_⟩
    rw [h, List.append_nil]
  · rw [h]
    exact source.lookup_snd keyId w

/-- The verdict depends on the state of the key source by what look-ups give only. -/
theorem Token.verify_fst_congr {σ : Type} (keys : Token.KeyLookup σ) (token : Text)
    (expected : Token.Expected) (now : Date) {s s' : σ}
    (h : ∀ keyId, (keys keyId s').1 = (keys keyId s).1) :
    (Token.verify keys token expected now s').1 =
      (Token.verify keys token expected now s).1 := by
  unfold Token.verify
  rcases Token.Header.read token with failure | header
  · rfl
  · have hkey := h header.keyId
    rcases hl : keys header.keyId s with ⟨(_ | _) | _, v⟩ <;>
      rcases hl' : keys header.keyId s' with ⟨(_ | _) | _, v'⟩ <;>
      rw [hl, hl'] at hkey <;> simp_all

/-- A token is judged alike where look-ups of keys go the same way. -/
theorem World.SameKeys.verify_fst {w w' : World} (h : w.SameKeys w') (source : KeySource)
    (token : Text) (expected : Token.Expected) :
    (Token.verify source.lookup token expected w'.time w').1 =
      (Token.verify source.lookup token expected w.time w).1 := by
  have htime : w'.time = w.time := by rw [World.time, World.time, h.now_eq]
  rw [htime]
  exact Token.verify_fst_congr source.lookup token expected w.time fun keyId =>
    source.lookup_fst_congr keyId h

/-! ### Subjects -/

namespace Token

/-- The subject that a token names, whoever signed it. -/
def subject? (token : Text) : Option Text := do
  let parts ← Parts.ofToken? token
  let members ← headerMembers? parts.header
  let encoded ← payloadEncoded? members
  let claims ← Claims.ofPayload?
    (if encoded then Base64.decode parts.payload else Utf8.encode parts.payload)
  claims.subject

theorem Claims.subject_of_check {c : Claims} {expected : Expected} {keyId : Datum} {now : Date}
    {verified : Verified} (h : c.check expected keyId now = .ok verified) :
    c.subject = some verified.subject := by
  unfold Claims.check at h
  split at h
  · cases h
  split at h
  · cases h
  rcases hexpiry : c.expiry with _ | expiry <;> simp only [hexpiry] at h
  · cases h
  split at h
  · cases h
  split at h
  · cases h
  rcases hsubject : c.subject with _ | subject <;> simp only [hsubject] at h
  · cases h
  · split_ifs at h
    cases h
    rfl

/-- The payload that a signature vouches for is one and the same under any key. -/
theorem subject?_eq_of_verifiedPayload? {token : Text} {key : Rsa.Key} {payload : List UInt8}
    (h : verifiedPayload? token key = some payload) :
    subject? token = (Claims.ofPayload? payload).bind Claims.subject := by
  unfold verifiedPayload? at h
  simp only [Option.bind_eq_bind, Option.bind_eq_some_iff] at h
  obtain ⟨parts, hparts, members, hmembers, encoded, hencoded, h⟩ := h
  obtain ⟨-, hpayload⟩ := Option.ite_none_right_eq_some.1 h
  rw [Option.some_inj] at hpayload
  simp only [subject?, Option.bind_eq_bind, hparts, hmembers, hencoded, Option.bind_some]
  rw [hpayload]

/-- A token that is verified names the subject in itself. -/
theorem subject?_of_verify {σ : Type} {keys : KeyLookup σ} {token : Text} {expected : Expected}
    {now : Date} {s : σ} {verified : Verified}
    (h : (verify keys token expected now s).1 = .ok (.ok verified)) :
    subject? token = some verified.subject := by
  unfold verify at h
  rcases hread : Header.read token with failure | header <;> simp only [hread] at h
  · cases h
  · rcases hkey : keys header.keyId s with ⟨(_ | _) | key, s'⟩ <;> simp only [hkey] at h
    · cases h
    · cases h
    · rw [Except.ok.injEq] at h
      unfold judge at h
      rcases hpayload : verifiedPayload? token key.key with _ | payload <;>
        simp only [hpayload] at h
      · cases h
      · unfold checkPayload at h
        rcases hclaims : Claims.ofPayload? payload with _ | claims <;> simp only [hclaims] at h
        · cases h
        · rw [subject?_eq_of_verifiedPayload? hpayload, hclaims, Option.bind_some]
          exact Claims.subject_of_check h

end Token

/-! ### Evidence -/

/-- A resolver adds queries about users, and changes nothing else. -/
theorem Identity.Resolver.resolve_adds (resolver : Identity.Resolver) (subject : Datum)
    (w : World) :
    ∃ queries,
      w.Adds { w with database := (resolver.resolve subject w.database).2 } [] queries ∧
        ∀ q ∈ queries, q.statement.table = .users := by
  cases resolver with
  | rule answer => exact ⟨[], .refl w, by simp⟩
  | registered =>
    have hdatabase : (Identity.Resolver.registered.resolve subject w.database).2 =
        (w.database.send (Users.findQuery subject)).2 := by
      unfold Identity.Resolver.resolve Users.find
      rcases w.database.send (Users.findQuery subject) with ⟨⟨_ | _, _⟩ | _, s⟩ <;> rfl
    rw [hdatabase]
    exact ⟨[Users.findQuery subject],
      .send w _, by simp [Users.findQuery, Sql.Statement.table]⟩

namespace Gate

/-- The evidence for a caller. -/
inductive Establishes : Mode → Request → World → Datum → Prop
  /-- The header of development names the caller. -/
  | trusted {r : Request} {w : World} {name : String}
    (hheader : r.header? devUserHeader = some name) (hne : name ≠ "") :
    Establishes .devBypass r w (.text name)
  /-- A token is verified by the keys and the clock of the moment, and the resolver knows the
  user behind its subject. -/
  | verified {keys : KeySource} {expected : Token.Expected} {resolver : Identity.Resolver}
    {r : Request} {w : World} {token : String} {verified : Token.Verified} {userId : Datum}
    (hheader : r.header? "authorization" = some (bearerStart ++ token))
    (hverify : (Token.verify keys.lookup token expected w.time w).1 = .ok (.ok verified))
    (hresolve : (resolver.resolve verified.subject w.database).1 = .user userId) :
    Establishes (.verified keys expected resolver) r w userId

theorem dropStart?_eq_some_iff {start cs rest : List Char} :
    dropStart? start cs = some rest ↔ cs = start ++ rest := by
  unfold dropStart?
  constructor
  · intro h
    split_ifs at h with hprefix
    obtain ⟨more, rfl⟩ := List.isPrefixOf_iff_prefix.1 hprefix
    rw [Option.some_inj, List.drop_left] at h
    rw [h]
  · rintro rfl
    rw [if_pos (List.isPrefixOf_iff_prefix.2 (List.prefix_append _ _)), List.drop_left]

theorem filter_ne_empty_eq_some_iff {header : Option String} {value : String} :
    header.filter (· ≠ "") = some value ↔ header = some value ∧ value ≠ "" := by
  rw [Option.filter_eq_some_iff, decide_eq_true_iff]

/-- The bearer token of a request is what follows the start of its authorization header. -/
theorem bearerToken_eq_ok_iff {r : Request} {token : Text} :
    bearerToken r = .ok token ↔
      ∃ rest : String, r.header? "authorization" = some (bearerStart ++ rest) ∧
        token = rest := by
  unfold bearerToken
  constructor
  · intro h
    rcases hheader : (r.header? "authorization").filter (· ≠ "") with _ | value
    · simp only [hheader] at h
      cases h
    · rcases hrest : dropStart? bearerStart.toList value.toList with _ | rest
      · simp only [hheader, hrest] at h
        cases h
      · simp only [hheader, hrest, Except.ok.injEq] at h
        refine ⟨String.ofList rest, ?_, ?_⟩
        · rw [(filter_ne_empty_eq_some_iff.1 hheader).1, ← @String.ofList_toList value,
            dropStart?_eq_some_iff.1 hrest, String.ofList_append, String.ofList_toList]
        · rw [← h]
          show Text.ofChars rest = Text.ofChars (String.ofList rest).toList
          rw [String.toList_ofList]
  · rintro ⟨rest, hheader, rfl⟩
    -- the start of the header alone makes it more than an empty one
    have hne : bearerStart ++ rest ≠ "" := by
      intro h
      have hchars := congrArg String.toList h
      rw [String.toList_append] at hchars
      exact absurd (List.append_eq_nil_iff.1 hchars).1 (by decide)
    have hrest : dropStart? bearerStart.toList (bearerStart ++ rest).toList =
        some rest.toList :=
      dropStart?_eq_some_iff.2 String.toList_append
    have hgiven := filter_ne_empty_eq_some_iff.2 ⟨hheader, hne⟩
    simp only [hgiven, hrest]
    rfl

theorem screenTrusted_eq_caller_iff {r : Request} {userId : Datum} :
    screenTrusted r = .caller userId ↔
      ∃ name : String, r.header? devUserHeader = some name ∧ name ≠ "" ∧
        userId = .text (.ofString name) := by
  unfold screenTrusted
  constructor
  · intro h
    rcases hheader : (r.header? devUserHeader).filter (· ≠ "") with _ | name
    · simp only [hheader] at h
      cases h
    · obtain ⟨hname, hne⟩ := filter_ne_empty_eq_some_iff.1 hheader
      simp only [hheader, Admission.caller.injEq] at h
      exact ⟨name, hname, hne, h.symm⟩
  · rintro ⟨name, hname, hne, rfl⟩
    have hgiven := filter_ne_empty_eq_some_iff.2 ⟨hname, hne⟩
    simp only [hgiven]

/-- Two requests that bring the same evidence, each in its world: the header that the mode
reads says the same, and keys and users are found alike. -/
def SameEvidence (mode : Mode) (r r' : Request) (w w' : World) : Prop :=
  match mode with
  | .devBypass => r'.header? devUserHeader = r.header? devUserHeader
  | .verified _ _ resolver =>
    r'.header? "authorization" = r.header? "authorization" ∧ w.SameKeys w' ∧
      ∀ subject, (resolver.resolve subject w'.database).1 =
        (resolver.resolve subject w.database).1

/-- The same evidence is evidence for the same caller, whatever else the requests and worlds
are. -/
theorem Establishes.congr {mode : Mode} {r r' : Request} {w w' : World} {userId : Datum}
    (h : Establishes mode r w userId) (hsame : SameEvidence mode r r' w w') :
    Establishes mode r' w' userId := by
  cases h with
  | trusted hheader hne =>
    have hheader' : r'.header? devUserHeader = r.header? devUserHeader := hsame
    exact .trusted (hheader'.trans hheader) hne
  | @verified keys expected resolver _ _ token verified _ hheader hverify hresolve =>
    obtain ⟨hheader', hkeys, husers⟩ := hsame
    exact .verified (hheader'.trans hheader)
      ((hkeys.verify_fst keys token expected).trans hverify) ((husers _).trans hresolve)

theorem bearerStart_append_inj {a b : String} (h : bearerStart ++ a = bearerStart ++ b) :
    a = b := by
  have hchars := congrArg String.toList h
  rw [String.toList_append, String.toList_append, List.append_cancel_left_eq] at hchars
  exact String.toList_inj.1 hchars

/-- Two requests that claim the same identity, each at its gate and in its world: the header
that is read says the same, and the same users are behind subjects. Keys, clocks and what is
expected of tokens may differ. -/
inductive SameIdentity : Mode → Mode → Request → Request → World → World → Prop
  | trusted {r r' : Request} {w w' : World}
    (hheader : r'.header? devUserHeader = r.header? devUserHeader) :
    SameIdentity .devBypass .devBypass r r' w w'
  | verified {keys keys' : KeySource} {expected expected' : Token.Expected}
    {resolver resolver' : Identity.Resolver} {r r' : Request} {w w' : World}
    (hheader : r'.header? "authorization" = r.header? "authorization")
    (husers : ∀ subject,
      (resolver'.resolve subject w'.database).1 = (resolver.resolve subject w.database).1) :
    SameIdentity (.verified keys expected resolver) (.verified keys' expected' resolver')
      r r' w w'

/-- The same identity is that of one caller at most: what has become of keys and clocks in
between decides whether there is evidence, but not for whom. -/
theorem SameIdentity.unique {mode mode' : Mode} {r r' : Request} {w w' : World}
    {userId other : Datum} (hsame : SameIdentity mode mode' r r' w w')
    (h : Establishes mode r w userId) (h' : Establishes mode' r' w' other) :
    userId = other := by
  cases hsame with
  | trusted hheader =>
    cases h with
    | trusted hname _ =>
      cases h' with
      | trusted hname' _ =>
        rw [hheader, hname, Option.some_inj] at hname'
        rw [hname']
  | verified hheader husers =>
    cases h with
    | @verified _ _ _ _ _ token verified _ htoken hverify hresolve =>
      cases h' with
      | @verified _ _ _ _ _ token' verified' _ htoken' hverify' hresolve' =>
        rw [hheader, htoken, Option.some_inj] at htoken'
        obtain rfl := bearerStart_append_inj htoken'
        -- the subject stands in the token itself
        have hsubject : verified'.subject = verified.subject := by
          have hnames := Token.subject?_of_verify hverify
          rw [Token.subject?_of_verify hverify', Option.some_inj] at hnames
          exact hnames
        rw [hsubject, husers, hresolve, Identity.Resolution.user.injEq] at hresolve'
        exact hresolve'

/-! ### The caller -/

/-- What the gate says where a subject comes back from a resolver. -/
def Admission.ofResolution : Identity.Resolution → Admission
  | .user userId => .caller userId
  | .unregistered => .refused (.unauthorized invalidToken)
  | .failed _ => .refused .internalError

/-- What the gate says of a token, by its verdict and the users behind subjects. -/
def Admission.ofVerdict (users : Text → Identity.Resolution) :
    Except Text Token.Verdict → Admission
  | .error message => .failed (.raised message)
  | .ok (.error _) => .refused (.unauthorized invalidToken)
  | .ok (.ok verified) => .ofResolution (users verified.subject)

section

variable {resolver : Identity.Resolver} {requestId : Text} {w : World} {userId : Datum}

/-- The gate goes by what the resolver comes back with. -/
theorem screenSubject_fst {subject : Text} :
    (screenSubject resolver subject requestId w).1 =
      .ofResolution (resolver.resolve subject w.database).1 := by
  unfold screenSubject
  rcases resolver.resolve subject w.database with ⟨user | _ | message, database⟩ <;> rfl

variable {keys : KeySource} {expected : Token.Expected} {clock : Option Date}

/-- The gate goes by the verdict and the resolver. The look-up of the key is over by the time
that the resolver is asked, and has not touched the database. -/
theorem screenToken_fst {token : Text} :
    (screenToken keys expected resolver clock token requestId w).1 =
      .ofVerdict (fun subject => (resolver.resolve subject w.database).1)
        (Token.verify keys.lookup token expected (clock.getD w.time) w).1 := by
  obtain ⟨cache, fetches, refreshes, -, hworld⟩ :=
    Token.verify_world keys token expected (clock.getD w.time) w
  unfold screenToken
  rcases hverify : Token.verify keys.lookup token expected (clock.getD w.time) w with
    ⟨message | failure | verified, w'⟩
  · rfl
  · rfl
  · -- the database stands as it did before the look-up
    rw [hverify] at hworld
    simp only at hworld
    subst hworld
    exact screenSubject_fst

/-- What becomes of a request with a token. -/
theorem screen_fst_of_bearer {r : Request} {token : String}
    (hguarded : isExempt (Path.canonical r.path) = false)
    (hheader : r.header? "authorization" = some (bearerStart ++ token)) :
    (screen (.verified keys expected resolver) none r requestId w).1 =
      .ofVerdict (fun subject => (resolver.resolve subject w.database).1)
        (Token.verify keys.lookup token expected w.time w).1 := by
  unfold screen
  rw [if_neg (Bool.eq_false_iff.1 hguarded)]
  simp only [bearerToken_eq_ok_iff.2 ⟨token, hheader, rfl⟩]
  exact screenToken_fst

/-- The caller behind a token is the user found for the subject of the verified token. -/
theorem screenToken_fst_eq_caller_iff {token : Text} :
    (screenToken keys expected resolver clock token requestId w).1 = .caller userId ↔
      ∃ verified, (Token.verify keys.lookup token expected (clock.getD w.time) w).1 =
          .ok (.ok verified) ∧
        (resolver.resolve verified.subject w.database).1 = .user userId := by
  rw [screenToken_fst]
  rcases (Token.verify keys.lookup token expected (clock.getD w.time) w).1 with
    message | failure | verified
  · simp [Admission.ofVerdict]
  · simp [Admission.ofVerdict]
  · simp only [Admission.ofVerdict, Except.ok.injEq, exists_eq_left']
    rcases (resolver.resolve verified.subject w.database).1 with user | _ | message <;>
      simp [Admission.ofResolution]

theorem screenToken_fst_ne_exempt {token : Text} :
    (screenToken keys expected resolver clock token requestId w).1 ≠ .exempt := by
  rw [screenToken_fst]
  rcases (Token.verify keys.lookup token expected (clock.getD w.time) w).1 with
    message | failure | verified
  · exact Admission.noConfusion
  · exact Admission.noConfusion
  · simp only [Admission.ofVerdict]
    rcases (resolver.resolve verified.subject w.database).1 with user | _ | message <;>
      exact Admission.noConfusion

end

/-- The gate goes on with a caller exactly where identity is asked for and there is evidence
for the caller. -/
theorem screen_fst_eq_caller_iff {mode : Mode} {r : Request} {requestId : Text} {w : World}
    {userId : Datum} :
    (screen mode none r requestId w).1 = .caller userId ↔
      isExempt (Path.canonical r.path) = false ∧ Establishes mode r w userId := by
  unfold screen
  cases isExempt (Path.canonical r.path)
  · rw [if_neg Bool.false_ne_true, eq_self_iff_true, true_and]
    cases mode with
    | devBypass =>
      simp only [screenTrusted_eq_caller_iff]
      constructor
      · rintro ⟨name, hheader, hne, rfl⟩
        exact .trusted hheader hne
      · intro h
        cases h with
        | trusted hheader hne => exact ⟨_, hheader, hne, rfl⟩
    | verified keys expected resolver =>
      constructor
      · intro h
        rcases htoken : bearerToken r with message | token
        · simp [htoken] at h
        · simp only [htoken] at h
          obtain ⟨rest, hheader, rfl⟩ := bearerToken_eq_ok_iff.1 htoken
          obtain ⟨verified, hverify, hresolve⟩ := screenToken_fst_eq_caller_iff.1 h
          exact .verified hheader hverify hresolve
      · intro h
        cases h with
        | verified hheader hverify hresolve =>
          simp only [bearerToken_eq_ok_iff.2 ⟨_, hheader, rfl⟩]
          exact screenToken_fst_eq_caller_iff.2 ⟨_, hverify, hresolve⟩
  · simp

/-- A path passes without identity exactly if it is exempt. -/
theorem screen_fst_eq_exempt_iff {mode : Mode} {clock : Option Date} {r : Request}
    {requestId : Text} {w : World} :
    (screen mode clock r requestId w).1 = .exempt ↔
      isExempt (Path.canonical r.path) = true := by
  unfold screen
  cases isExempt (Path.canonical r.path)
  · rw [if_neg Bool.false_ne_true]
    simp only [Bool.false_eq_true, iff_false]
    cases mode with
    | devBypass =>
      unfold screenTrusted
      rcases (r.header? devUserHeader).filter (· ≠ "") with _ | name <;>
        exact Admission.noConfusion
    | verified keys expected resolver =>
      rcases bearerToken r with message | token
      · simp
      · exact screenToken_fst_ne_exempt
  · simp

/-! ### What the gate leaves behind -/

theorem screenSubject_adds (resolver : Identity.Resolver) (subject requestId : Text)
    (w : World) : ∃ queries, w.Adds (screenSubject resolver subject requestId w).2 [] queries ∧
      ∀ q ∈ queries, q.statement.table = .users := by
  obtain ⟨queries, hadds, husers⟩ := resolver.resolve_adds subject w
  refine ⟨queries, ?_, husers⟩
  unfold screenSubject
  rcases hresult : resolver.resolve subject w.database with ⟨user | _ | message, database⟩ <;>
    rw [hresult] at hadds
  · exact hadds
  · exact hadds
  · exact hadds.note _

theorem screenToken_adds (keys : KeySource) (expected : Token.Expected)
    (resolver : Identity.Resolver) (clock : Option Date) (token requestId : Text) (w : World) :
    ∃ queries,
      w.Adds (screenToken keys expected resolver clock token requestId w).2 [] queries ∧
        ∀ q ∈ queries, q.statement.table = .users := by
  obtain ⟨cache, fetches, refreshes, -, hworld⟩ :=
    Token.verify_world keys token expected (clock.getD w.time) w
  have hverified :
      w.Adds { w with cache, fetches, journal := w.journal ++ refreshes } [] [] :=
        .of_eq rfl rfl
  rw [← hworld] at hverified
  unfold screenToken
  rcases hverify : Token.verify keys.lookup token expected (clock.getD w.time) w with
    ⟨message | failure | verified, w'⟩ <;> rw [hverify] at hverified
  · exact ⟨[], hverified, by simp⟩
  · exact ⟨[], hverified, by simp⟩
  · obtain ⟨queries, hadds, husers⟩ :=
      screenSubject_adds resolver verified.subject requestId w'
    exact ⟨queries, by simpa using hverified.trans hadds, husers⟩

theorem screenSubject_snd {resolver : Identity.Resolver} {subject requestId : Text} {w : World}
    (h : (screenSubject resolver subject requestId w).1 ≠ .refused .internalError) :
    (screenSubject resolver subject requestId w).2 =
      { w with database := (resolver.resolve subject w.database).2 } := by
  unfold screenSubject at h ⊢
  rcases hresult : resolver.resolve subject w.database with ⟨user | _ | message, database⟩
  · rfl
  · rfl
  · rw [hresult] at h
    exact absurd rfl h

/-- Where no look-up of a user fails, nothing but the end of a refresh is logged at the gate,
and the todos are as they were. -/
theorem screenToken_world {keys : KeySource} {expected : Token.Expected}
    {resolver : Identity.Resolver} {clock : Option Date} {token requestId : Text} {w : World}
    (h : (screenToken keys expected resolver clock token requestId w).1 ≠
      .refused .internalError) :
    ∃ cache fetches database refreshes, refreshes.Sublist [w.endpoint.refreshEntry] ∧
      (screenToken keys expected resolver clock token requestId w).2 =
        { w with cache, fetches, database, journal := w.journal ++ refreshes } := by
  obtain ⟨cache, fetches, refreshes, hrefreshes, hworld⟩ :=
    Token.verify_world keys token expected (clock.getD w.time) w
  unfold screenToken at h ⊢
  rcases hverify : Token.verify keys.lookup token expected (clock.getD w.time) w with
    ⟨message | failure | verified, w'⟩ <;> rw [hverify] at hworld <;> simp only at hworld <;>
    subst hworld
  · exact ⟨cache, fetches, w.database, refreshes, hrefreshes, rfl⟩
  · exact ⟨cache, fetches, w.database, refreshes, hrefreshes, rfl⟩
  · rw [hverify] at h
    exact ⟨cache, fetches, _, refreshes, hrefreshes, screenSubject_snd h⟩

theorem screen_world {mode : Mode} {clock : Option Date} {r : Request} {requestId : Text}
    {w : World} (h : (screen mode clock r requestId w).1 ≠ .refused .internalError) :
    ∃ cache fetches database refreshes, refreshes.Sublist [w.endpoint.refreshEntry] ∧
      (screen mode clock r requestId w).2 =
        { w with cache, fetches, database, journal := w.journal ++ refreshes } := by
  have hnothing : ∃ cache fetches database refreshes,
      refreshes.Sublist [w.endpoint.refreshEntry] ∧
      w = { w with cache, fetches, database, journal := w.journal ++ refreshes } :=
    ⟨w.cache, w.fetches, w.database, [], List.nil_sublist _, by rw [List.append_nil]⟩
  unfold screen at h ⊢
  split_ifs at h ⊢
  · exact hnothing
  · cases mode with
    | devBypass => exact hnothing
    | verified keys expected resolver =>
      rcases htoken : bearerToken r with message | token <;> simp only [htoken] at h ⊢
      · exact hnothing
      · exact screenToken_world h

/-- The gate makes no call to the store, and its queries are about users. -/
theorem screen_adds (mode : Mode) (clock : Option Date) (r : Request) (requestId : Text)
    (w : World) :
    ∃ queries, w.Adds (screen mode clock r requestId w).2 [] queries ∧
      ∀ q ∈ queries, q.statement.table = .users := by
  have hnothing : ∃ queries, w.Adds w [] queries ∧ ∀ q ∈ queries, q.statement.table = .users :=
    ⟨[], .refl w, by simp⟩
  unfold screen
  split_ifs
  · exact hnothing
  · cases mode with
    | devBypass => exact hnothing
    | verified keys expected resolver =>
      rcases bearerToken r with message | token
      · exact hnothing
      · exact screenToken_adds keys expected resolver clock token requestId w

end Gate

end TodoServer
