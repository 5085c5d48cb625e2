/-
What verification asks of the keys.

A token is read by its header first, and by nothing else until the look-up of the key that the
header names has ended. Over the cache of keys a look-up always ends with a key or a fault of
the cache, so every token comes to a verdict; and what the look-up leaves in the cache, and
whether it begins a fetch, is settled before the rest of the token is read. However many tokens
come, and whatever happens in between, they are look-ups among others, and refreshes keep their
distance.

* `Token.keyAsked?` — the key that a token asks for;
* `Token.verify_cached` — verification over the cache: a look-up, and the verdict on its
  answer;
* `Cache.get_eq` — what one look-up comes to;
* `Cache.Arrival`, `Cache.Flow.keepsLimit_of_run` — tokens among all else that happens to the
  cache;
* `Cache.Flow.Meets.exists_run_of_verify` — a verification on its own is one of those runs.
-/
import TodoServer.Proofs.KeySet.Together
import TodoServer.Proofs.Token.Decision

namespace TodoServer

/-! ### Look-ups -/

namespace Cache

variable {cooldown : Number} {now : ℚ} {outcome : FetchOutcome} {keyId : Text} {c : Cache}

/-- Whether a fetch is under way is no part of what the cache knows. -/
theorem clear_refreshedBy (busy : Bool) :
    (({ c with inFlight := busy } : Cache).refreshedBy now outcome).clear =
      (c.refreshedBy now outcome).clear := by
  unfold refreshedBy
  rcases outcome.entries with failure | entries <;> rfl

/-- What one look-up comes to: the answer that it has among others, and a fetch if it has to
wait and none is under way. -/
theorem get_eq (cooldown : Number) (now : ℚ) (outcome : FetchOutcome) (keyId : Text)
    (c : Cache) : c.get cooldown now outcome keyId =
      if c.Waits cooldown now keyId then
        ⟨c.answerTogether cooldown now outcome keyId, (c.refreshedBy now outcome).clear,
          if c.inFlight then 0 else 1, [outcome.refreshEntry]⟩
      else ⟨c.answerTogether cooldown now outcome keyId, c, 0, []⟩ := by
  rcases hkey : c.snapshot.get? keyId with _ | key
  · rcases hmay : c.mayRefresh cooldown now
    · simp [get, start, answerTogether, Waits, hkey, hmay]
    · -- the look-up waits, and the fetch settles whether it has begun it or found it under way
      have hwaits : c.Waits cooldown now keyId := ⟨hkey, hmay⟩
      have hentry := refreshEntry_arrive now outcome ({ c with inFlight := true } : Cache)
      rw [arrive_fst, arrive_snd] at hentry
      rw [if_pos hwaits, ← resume_refreshedBy hwaits]
      simp only [get, start, hkey, hmay, if_true, arrive_fst, arrive_snd,
        clear_refreshedBy, hentry]
      cases c.inFlight <;> rfl
  · simp [get, start, answerTogether, Waits, hkey]

/-- A look-up begins one fetch at most: if it has to wait and no fetch is under way. -/
theorem fetches_get (cooldown : Number) (now : ℚ) (outcome : FetchOutcome) (keyId : Text)
    (c : Cache) : (c.get cooldown now outcome keyId).fetches =
      if c.Waits cooldown now keyId ∧ c.inFlight = false then 1 else 0 := by
  rw [get_eq]
  by_cases hwaits : c.Waits cooldown now keyId <;> rcases hflight :
    c.inFlight <;> simp [hwaits]

theorem inFlight_get (hidle : c.inFlight = false) :
    (c.get cooldown now outcome keyId).cache.inFlight = false := by
  rw [get_eq]
  by_cases hwaits : c.Waits cooldown now keyId
  · rw [if_pos hwaits]
    rfl
  · rw [if_neg hwaits]
    exact hidle

end Cache

namespace Token

variable {token token' keyId : Text} {expected expected' : Expected} {now now' : Date}

/-! ### Verdicts -/

/-- The key that a token asks for: the one that its header names, if that is accepted. -/
def keyAsked? (token : Text) : Option Text := (Header.read token).toOption.map Header.keyId

theorem keyAsked?_eq_some_iff :
    keyAsked? token = some keyId ↔ ∃ parts members, Named token parts members keyId := by
  constructor
  · intro h
    rcases named_cases token with ⟨parts, members, named, hnamed⟩ | hformed |
      ⟨parts, members, hformed, halgorithm⟩ | ⟨parts, members, hformed, halgorithm, hkeyId⟩
    · rw [keyAsked?, hnamed.read_eq] at h
      obtain rfl : named = keyId := Option.some_inj.1 h
      exact ⟨parts, members, hnamed⟩
    · rw [keyAsked?, read_of_not_formed hformed] at h
      cases h
    · rw [keyAsked?, hformed.read_of_algorithm halgorithm] at h
      cases h
    · rw [keyAsked?, hformed.read_of_keyId halgorithm hkeyId] at h
      cases h
  · rintro ⟨parts, members, hnamed⟩
    rw [keyAsked?, hnamed.read_eq]
    rfl

/-- The verdict on a token once the look-up of its key has ended. -/
def verdictOn (token keyId : Text) (expected : Expected) (now : Date) :
    Except KeyFault SigningKey → Verdict
  | .error _ => .error .unknownKey
  | .ok key => judge token keyId key expected now

/-- The checks of a header do not ask for keys. -/
theorem Header.read_ne_unknownKey : Header.read token ≠ .error .unknownKey := by
  intro h
  rcases named_cases token with ⟨parts, members, keyId, hnamed⟩ | hformed |
    ⟨parts, members, hformed, halgorithm⟩ | ⟨parts, members, hformed, halgorithm, hkeyId⟩
  · cases hnamed.read_eq.symm.trans h
  · cases (read_of_not_formed hformed).symm.trans h
  · cases (hformed.read_of_algorithm halgorithm).symm.trans h
  · cases (hformed.read_of_keyId halgorithm hkeyId).symm.trans h

/-- The checks of the claims do not ask for keys. -/
theorem check_ne_unknownKey {claims : Claims} {signedBy : Datum} :
    claims.check expected signedBy now ≠ .error .unknownKey := by
  intro h
  unfold Claims.check at h
  split at h
  · cases h
  split at h
  · cases h
  rcases hexpiry : claims.expiry with _ | expiry <;> simp only [hexpiry] at h
  · cases h
  split at h
  · cases h
  split at h
  · cases h
  rcases hsubject : claims.subject with _ | subject <;> simp only [hsubject] at h
  · cases h
  split at h <;> cases h

/-- A key that has been found is not unknown. -/
theorem judge_ne_unknownKey {key : SigningKey} :
    judge token keyId key expected now ≠ .error .unknownKey := by
  intro h
  unfold judge checkPayload at h
  rcases hpayload : verifiedPayload? token key.key with _ | payload <;>
    simp only [hpayload] at h
  · cases h
  rcases hclaims : Claims.ofPayload? payload with _ | claims <;> simp only [hclaims] at h
  · cases h
  exact check_ne_unknownKey h

theorem verdictOn_eq_unknownKey_iff {answer : Except KeyFault SigningKey} :
    verdictOn token keyId expected now answer = .error .unknownKey ↔
      ∃ fault, answer = .error fault := by
  rcases answer with fault | key
  · exact iff_of_true rfl ⟨fault, rfl⟩
  · refine iff_of_false judge_ne_unknownKey ?_
    rintro ⟨_, h⟩
    cases h

variable {settings : KeySetSettings} {w : World}

/-- Over the cache, verification is a look-up and the verdict on its answer. -/
theorem verify_cached (h : keyAsked? token = some keyId) :
    verify (KeySource.cached settings).lookup token expected now w =
      (.ok (verdictOn token keyId expected now (KeySource.cachedOne settings keyId w).1),
        (KeySource.cachedOne settings keyId w).2) := by
  obtain ⟨parts, members, hnamed⟩ := keyAsked?_eq_some_iff.1 h
  unfold verify
  rw [hnamed.read_eq]
  simp only [KeySource.lookup_cached]
  rcases (KeySource.cachedOne settings keyId w).1 with fault | key <;> rfl

/-- A token without an acceptable header is judged by it alone. -/
theorem verify_of_not_asked {σ : Type} {keys : KeyLookup σ} {s : σ}
    (h : keyAsked? token = none) : ∃ failure, failure ≠ .unknownKey ∧
      verify keys token expected now s = (.ok (.error failure), s) := by
  unfold verify
  rcases hread : Header.read token with failure | header
  · refine ⟨failure, ?_, rfl⟩
    rintro rfl
    exact Header.read_ne_unknownKey hread
  · rw [keyAsked?, hread] at h
    cases h

/-- Every token has a verdict. -/
theorem exists_verdict :
    ∃ verdict, (verify (KeySource.cached settings).lookup token expected now w).1 =
      .ok verdict := by
  rcases hasked : keyAsked? token with _ | keyId
  · obtain ⟨failure, -, hverify⟩ := verify_of_not_asked hasked
    exact ⟨_, congrArg Prod.fst hverify⟩
  · exact ⟨_, congrArg Prod.fst (verify_cached hasked)⟩

/-- The verdict is that the key is unknown exactly if the header is accepted and the look-up
fails. -/
theorem verify_eq_unknownKey_iff :
    (verify (KeySource.cached settings).lookup token expected now w).1 =
      .ok (.error .unknownKey) ↔ ∃ keyId fault, keyAsked? token = some keyId ∧
        (w.cache.get settings.cooldown w.now w.endpoint keyId).answer = .error fault := by
  rcases hasked : keyAsked? token with _ | keyId
  · obtain ⟨failure, hfailure, hverify⟩ := verify_of_not_asked hasked
    rw [hverify]
    refine iff_of_false (fun h => hfailure (Except.error.inj (Except.ok.inj h))) ?_
    rintro ⟨_, _, h, -⟩
    cases h
  · rw [verify_cached hasked, Except.ok.injEq, verdictOn_eq_unknownKey_iff]
    constructor
    · rintro ⟨fault, hfault⟩
      exact ⟨keyId, fault, rfl, hfault⟩
    · rintro ⟨_, fault, hsame, hfault⟩
      obtain rfl := Option.some_inj.1 hsame
      exact ⟨fault, hfault⟩

/-- What a verification leaves behind is what the look-up of the key that the token asks for
does. -/
theorem verify_snd_eq :
    (verify (KeySource.cached settings).lookup token expected now w).2 =
      match keyAsked? token with
      | none => w
      | some keyId => (KeySource.cachedOne settings keyId w).2 := by
  rcases hasked : keyAsked? token with _ | keyId
  · obtain ⟨failure, -, hverify⟩ := verify_of_not_asked hasked
    rw [hverify]
  · rw [verify_cached hasked]

/-- Tokens that ask for the same key leave the same behind. -/
theorem verify_snd_congr (h : keyAsked? token' = keyAsked? token) :
    (verify (KeySource.cached settings).lookup token' expected' now' w).2 =
      (verify (KeySource.cached settings).lookup token expected now w).2 := by
  rw [verify_snd_eq, verify_snd_eq, h]

/-- A verification begins one fetch at most, and one exactly if the key that the token asks for
is not known, a refresh is allowed, and no fetch is under way. -/
theorem exists_fetches_verify :
    ∃ begun, (verify (KeySource.cached settings).lookup token expected now w).2.fetches =
        w.fetches ++ begun ∧ begun.length ≤ 1 ∧
      (begun ≠ [] ↔ ∃ keyId, keyAsked? token = some keyId ∧
        w.cache.Waits settings.cooldown w.now keyId ∧ w.cache.inFlight = false) := by
  rw [verify_snd_eq]
  rcases keyAsked? token with _ | keyId
  · refine ⟨[], (List.append_nil _).symm, Nat.zero_le 1, iff_of_false (fun h => h rfl) ?_⟩
    rintro ⟨_, h, -⟩
    cases h
  · refine ⟨_, rfl, ?_⟩
    rw [Cache.fetches_get]
    split_ifs with hbegins
    · exact ⟨le_refl 1, iff_of_true (List.cons_ne_nil _ _) ⟨keyId, rfl, hbegins⟩⟩
    · refine ⟨Nat.zero_le 1, iff_of_false (fun h => h rfl) ?_⟩
      rintro ⟨_, hsame, h⟩
      obtain rfl := Option.some_inj.1 hsame
      exact hbegins h

end Token

/-! ### Tokens that come -/

namespace Cache

/-- What comes to the cache: a token that is to be verified, or anything else. -/
inductive Arrival
  | token (text : Text)
  | other (event : Event)

/-- What an arrival makes happen at once. A token starts a look-up, if it asks for a key. -/
def Arrival.events : Arrival → List Event
  | .token text => (Token.keyAsked? text).toList.map .start
  | .other event => [event]

namespace Flow

/-- The fetches of look-ups keep a limit: they come one at a time, an arrival begins one only
if none is under way and the last refresh is further back than the cooldown, and refreshes are
so far apart that only so many have room in a window. -/
structure KeepsLimit (cooldown : ℕ) (s : Flow) : Prop where
  one : s.fetches.countP Phase.isSent ≤ 1
  begins : ∀ (arrival : Arrival) (s' : Flow),
    run (.finite cooldown) s arrival.events = some s' →
    s'.fetches.length ≠ s.fetches.length → s.fetches.countP Phase.isSent = 0 ∧
      ∀ last ∈ s.refreshes.head?, (cooldown : ℤ) < s.now - last.time
  spaced : s.refreshes.IsChain fun newer older => (cooldown : ℤ) < newer.time - older.time
  window : ∀ (first : ℤ) (window : ℕ),
    ((s.refreshes.countP fun r => first ≤ r.time ∧ r.time ≤ first + window : ℕ) - 1 : ℤ) *
      (cooldown + 1) ≤ window

/-- An arrival is one event at most. -/
theorem step_of_run_arrival {cooldown : Number} {s s' : Flow} {arrival : Arrival}
    (h : run cooldown s arrival.events = some s') :
    s' = s ∨ ∃ event, step cooldown s event = some s' := by
  have hone : ∀ event : Event, arrival.events = [event] → ∃ event,
      step cooldown s event = some s' := by
    intro event hevents
    rw [hevents] at h
    obtain ⟨last, hlast, hrest⟩ := run_cons.1 h
    obtain rfl : last = s' := Option.some_inj.1 hrest
    exact ⟨event, hlast⟩
  rcases arrival with text | event
  · rcases hasked : Token.keyAsked? text with _ | keyId
    · rw [Arrival.events, hasked] at h
      exact Or.inl (Option.some_inj.1 h).symm
    · exact Or.inr (hone (.start keyId) (by rw [Arrival.events, hasked]; rfl))
  · exact Or.inr (hone event rfl)

/-- However tokens come, the limit is kept. -/
theorem keepsLimit_of_run {cooldown : ℕ} (hexact : Number.ofInt cooldown = .finite cooldown)
    {now : ℤ} {arrivals : List Arrival} {s : Flow}
    (h : run (.finite cooldown) (initial now) (arrivals.flatMap Arrival.events) = some s) :
    s.KeepsLimit cooldown := by
  have hs : Inv cooldown s := inv_of_run hexact (inv_initial cooldown now) h
  have hopen := hs.open_eq
  have hone : (if s.cache.inFlight then 1 else 0) ≤ 1 := by split_ifs <;> omega
  refine ⟨by omega, fun arrival s' hrun hbegun => ?_, hs.spaced,
    hs.countP_mul_le (Int.natCast_nonneg cooldown)⟩
  rcases step_of_run_arrival hrun with rfl | ⟨event, hstep⟩
  · exact absurd rfl hbegun
  · obtain ⟨hflight, hmay⟩ := (Step.of_step_eq hstep).of_length_ne hbegun
    rw [hflight, if_neg Bool.false_ne_true] at hopen
    exact ⟨by omega, far_of_mayRefresh hs hexact hflight hmay⟩

variable {cooldown : Number} {s : Flow} {fetches : List Phase}
  {lookups : List (Text × Progress)} {keyId : Text}

/-- A look-up that has begun a fetch goes on to its end. -/
theorem run_waiting (hfetches : s.fetches = fetches ++ [.sent])
    (hlookups : s.lookups = lookups ++ [(keyId, .waiting fetches.length)])
    (outcome : FetchOutcome) :
    run cooldown s [.finish fetches.length outcome, .reset fetches.length,
      .resume lookups.length] = some { s with
        cache := (s.cache.refreshedBy s.now outcome).clear
        fetches := fetches ++ [.settled (outcome.entries.map fun _ => ())]
        refreshes := withRefresh s.now s.refreshes outcome
        lookups := lookups ++ [(keyId, .answered
          ((s.cache.refreshedBy s.now outcome).clear.resume keyId
            (outcome.entries.map fun _ => ())))] } := by
  simp [run, step, hfetches, hlookups, arrive_fst, arrive_snd]

/-- One look-up on its own, where no fetch is under way, is a run. -/
theorem exists_run_get (hidle : s.cache.inFlight = false) (outcome : FetchOutcome)
    (keyId : Text) :
    let done := s.cache.get cooldown s.now outcome keyId
    ∃ events s', (∀ event ∈ events, event.GoesOn outcome) ∧
      run cooldown s (.start keyId :: events) = some s' ∧ s'.cache = done.cache ∧
        s'.now = s.now ∧
      s'.lookups = s.lookups ++ [(keyId, .answered done.answer)] ∧
      s'.fetches.length = s.fetches.length + done.fetches := by
  intro done
  have hstart := @step_start cooldown keyId s s.fetches.length
    (by rw [hidle, if_neg Bool.false_ne_true])
  have hdone : done = _ := get_eq cooldown s.now outcome keyId s.cache
  by_cases hwaits : s.cache.Waits cooldown s.now keyId
  · -- the fetch that it begins comes back, is done with, and wakes it
    rw [if_pos hwaits, hidle, if_neg Bool.false_ne_true] at hdone
    rw [start_snd, begun_of_waits hwaits, if_pos ⟨hidle, hwaits⟩] at hstart
    refine ⟨[.finish s.fetches.length outcome, .reset s.fetches.length,
        .resume s.lookups.length], _, ?_,
      run_cons.2 ⟨_, hstart, run_waiting rfl rfl outcome⟩, ?_⟩
    · simp only [List.mem_cons, List.not_mem_nil, or_false]
      rintro event (rfl | rfl | rfl) <;> constructor
    · rw [hdone]
      refine ⟨clear_refreshedBy _, rfl, ?_, List.length_append⟩
      rw [← resume_refreshedBy hwaits]
      simp only [clear_refreshedBy]
      rfl
  · have hbegun : begun cooldown s s.fetches.length keyId =
        .answered (s.cache.answerTogether cooldown s.now outcome keyId) :=
          begun_of_not_waits hwaits
    rw [if_neg hwaits] at hdone
    rw [start_snd, hbegun, if_neg fun h => hwaits h.2, decide_eq_false hwaits, Bool.or_false]
      at hstart
    refine ⟨[], _, nofun, run_cons.2 ⟨_, hstart, rfl⟩, ?_⟩
    rw [hdone]
    exact ⟨rfl, rfl, rfl, rfl⟩

/-- A world and a state of the look-ups know the same, and no fetch is under way. -/
structure Meets (s : Flow) (w : World) : Prop where
  cache_eq : w.cache = s.cache
  now_eq : w.now = s.now
  idle : s.cache.inFlight = false

variable {settings : KeySetSettings} {w : World}

/-- A verification on its own, where no fetch is under way, is a run. The token comes, what it
has begun goes on to its end, and the verdict is the one on the answer of the look-up. -/
theorem Meets.exists_run_of_verify (h : s.Meets w) (settings : KeySetSettings) (token : Text)
    (expected : Token.Expected) (now : Date) :
    let done := Token.verify (KeySource.cached settings).lookup token expected now w
    ∃ events s', (∀ event ∈ events, event.GoesOn w.endpoint) ∧
      run settings.cooldown s ((Arrival.token token).events ++ events) = some s' ∧
        s'.Meets done.2 ∧
      s'.fetches.length + w.fetches.length = s.fetches.length + done.2.fetches.length ∧
      ∀ keyId, Token.keyAsked? token = some keyId → ∃ answer,
        s'.lookups = s.lookups ++ [(keyId, .answered answer)] ∧
          done.1 = .ok (Token.verdictOn token keyId expected now answer) := by
  intro done
  rcases hasked : Token.keyAsked? token with _ | keyId
  · obtain ⟨failure, -, hverify⟩ := Token.verify_of_not_asked hasked
    have hdone : done = (.ok (.error failure), w) := hverify
    refine ⟨[], s, nofun, ?_, ?_, ?_, nofun⟩
    · rw [Arrival.events, hasked]
      rfl
    · rw [hdone]
      exact h
    · rw [hdone]
  · have hdone : done = _ := Token.verify_cached hasked
    obtain ⟨events, s', hgoesOn, hrun, hcache, hnow, hlookups, hfetches⟩ :=
      exists_run_get h.idle w.endpoint keyId
    have hlookup : (KeySource.cachedOne settings keyId w).2.cache = s'.cache ∧
        (KeySource.cachedOne settings keyId w).1 =
          (s.cache.get settings.cooldown s.now w.endpoint keyId).answer := by
      rw [hcache, ← h.cache_eq, ← h.now_eq]
      exact ⟨rfl, rfl⟩
    have hidle : s'.cache.inFlight = false := by
      rw [hcache]
      exact inFlight_get h.idle
    rw [hdone]
    refine ⟨events, s', hgoesOn, ?_, ⟨hlookup.1, ?_, hidle⟩, ?_, ?_⟩
    · rw [Arrival.events, hasked]
      exact hrun
    · rw [hnow]
      exact h.now_eq
    · show s'.fetches.length + w.fetches.length = s.fetches.length + (w.fetches ++ _).length
      rw [hfetches, List.length_append, List.length_replicate, h.cache_eq, h.now_eq]
      omega
    · intro other hother
      obtain rfl := Option.some_inj.1 hother
      exact ⟨_, hlookups, by rw [hlookup.2]⟩

end Flow

end Cache

end TodoServer
