/-
Look-ups that start together.

Of look-ups that start together some are answered at once from what the cache knows, and the
others wait for one fetch and are answered from what that brings. So the answers mix two states
of the cache, and yet each of them depends on its own key id alone: whether a look-up has to
wait, and whether it may, is the same for all and at every place in the list, for the first
that waits changes neither what the cache knows nor that a refresh is allowed. The order of the
list and the order in which those that wait go on have no say in anything.

* `Cache.answerTogether` — the answer of a look-up, told without the others;
* `Cache.getAll_eq` — what look-ups that start together come to;
* `Flow.Going` — where they stand after any events that go on with them;
* `Flow.lookups_independent` — their answers, in every order of the list and of the events.
-/
import TodoServer.Proofs.Identity.Screening
import TodoServer.Proofs.KeySet.Rotation

namespace TodoServer.Cache

variable {cooldown : Number} {now : Rat} {outcome : FetchOutcome} {c : Cache} {keyId : Text}
  {keyIds : List Text}

/-! ### One look-up -/

/-- A look-up misses, and may wait for a refresh. -/
def Waits (cooldown : Number) (now : Rat) (c : Cache) (keyId : Text) : Prop :=
  c.snapshot.get? keyId = none ∧ c.mayRefresh cooldown now = true

instance : Decidable (c.Waits cooldown now keyId) := inferInstanceAs (Decidable (_ ∧ _))

/-- The answer of a look-up among others that start together: the key that the cache knows; if
there is none and no refresh is allowed, that it is not found; else the failure of the fetch,
or what the document has to say. -/
def answerTogether (cooldown : Number) (now : Rat) (outcome : FetchOutcome) (c : Cache)
    (keyId : Text) : Except KeyFault SigningKey :=
  match c.snapshot.get? keyId with
  | some key => .ok key
  | none =>
    if c.mayRefresh cooldown now then
      match outcome.entries with
      | .error failure => .error (.refresh failure)
      | .ok entries =>
        match (Snapshot.ofEntries entries).get? keyId with
        | some key => .ok key
        | none => .error (.notFound keyId)
    else .error (.notFound keyId)

/-- The cache after a fetch: a document takes the place of what it knew. -/
def refreshedBy (now : Rat) (outcome : FetchOutcome) (c : Cache) : Cache :=
  match outcome.entries with
  | .error _ => c
  | .ok entries => { c with snapshot := .ofEntries entries, refreshedAt := some now }

theorem arrive_fst : (c.arrive now outcome).1 = outcome.entries.map fun _ => () := by
  unfold arrive
  rcases outcome.entries with failure | entries <;> rfl

theorem arrive_snd : (c.arrive now outcome).2 = c.refreshedBy now outcome := by
  unfold arrive refreshedBy
  rcases outcome.entries with failure | entries <;> rfl

theorem refreshedBy_inFlight : (c.refreshedBy now outcome).inFlight = c.inFlight := by
  unfold refreshedBy
  rcases outcome.entries with failure | entries <;> rfl

theorem start_snd (cooldown : Number) (now : Rat) (keyId : Text) (c : Cache) :
    (c.start cooldown now keyId).2 =
      { c with inFlight := c.inFlight || decide (c.Waits cooldown now keyId) } := by
  unfold start
  rcases hkey : c.snapshot.get? keyId with _ | key
  · by_cases hmay : c.mayRefresh cooldown now = true <;> simp [Waits, hkey, hmay]
  · simp [Waits, hkey]

/-- A look-up that starts leaves what the cache knows as it is. -/
theorem snapshot_start : (c.start cooldown now keyId).2.snapshot = c.snapshot := by
  rw [start_snd]

/-- A look-up that starts leaves it open to the others whether they may wait. -/
theorem mayRefresh_start :
    (c.start cooldown now keyId).2.mayRefresh cooldown now = c.mayRefresh cooldown now := by
  rw [start_snd]
  by_cases hwaits : c.Waits cooldown now keyId
  · -- one waits, so all may
    rw [hwaits.2, mayRefresh, decide_eq_true hwaits, Bool.or_true, Bool.true_or]
  · rw [decide_eq_false hwaits, Bool.or_false]

theorem waits_start {other : Text} :
    (c.start cooldown now keyId).2.Waits cooldown now other ↔ c.Waits cooldown now other := by
  rw [Waits, snapshot_start, mayRefresh_start, Waits]

theorem answerTogether_start {other : Text} :
    (c.start cooldown now keyId).2.answerTogether cooldown now outcome other =
      c.answerTogether cooldown now outcome other := by
  rw [answerTogether, snapshot_start, mayRefresh_start, answerTogether]

/-- A look-up that does not wait is answered where it starts, and one that waits is answered as
it goes on. -/
theorem answer_start {refreshed : Except RefreshFailure Unit} {c' : Cache}
    (hwaits : c.Waits cooldown now keyId →
      c'.resume keyId refreshed = c.answerTogether cooldown now outcome keyId) :
    answer refreshed c' (keyId, (c.start cooldown now keyId).1) =
      c.answerTogether cooldown now outcome keyId := by
  rcases hkey : c.snapshot.get? keyId with _ | key
  · by_cases hmay : c.mayRefresh cooldown now = true
    · rw [← hwaits ⟨hkey, hmay⟩]
      simp only [start, hkey, hmay, if_true, answer]
    · simp only [start, hkey, hmay, Bool.false_eq_true, if_false, answer, answerTogether]
  · simp only [start, hkey, answer, answerTogether]

/-- A look-up that waited goes on with what the fetch has brought. -/
theorem resume_refreshedBy (hwaits : c.Waits cooldown now keyId) :
    (c.refreshedBy now outcome).resume keyId (outcome.entries.map fun _ => ()) =
      c.answerTogether cooldown now outcome keyId := by
  obtain ⟨hkey, hmay⟩ := hwaits
  unfold refreshedBy resume answerTogether
  simp only [hkey, hmay, if_true]
  rcases outcome.entries with failure | entries <;> rfl

/-! ### All of them -/

theorem startAll_cons (first : Text) (rest : List Text) :
    startAll cooldown now (first :: rest) c =
      ((first, (c.start cooldown now first).1) ::
        (startAll cooldown now rest (c.start cooldown now first).2).1,
        (startAll cooldown now rest (c.start cooldown now first).2).2) := rfl

theorem startAll_snd (cooldown : Number) (now : Rat) (keyIds : List Text) (c : Cache) :
    (startAll cooldown now keyIds c).2 =
      { c with
        inFlight := c.inFlight || decide (∃ keyId ∈ keyIds, c.Waits cooldown now keyId) } := by
  induction keyIds generalizing c with
  | nil => simp [startAll]
  | cons first rest ih =>
    rw [startAll_cons, ih]
    simp only [waits_start]
    simp only [start_snd, List.exists_mem_cons_iff, Bool.decide_or, Bool.or_assoc]

theorem answers_startAll (refreshed : Except RefreshFailure Unit) (c' : Cache)
    (hwaits : ∀ keyId ∈ keyIds, c.Waits cooldown now keyId →
      c'.resume keyId refreshed = c.answerTogether cooldown now outcome keyId) :
    (startAll cooldown now keyIds c).1.map (answer refreshed c') =
      keyIds.map (c.answerTogether cooldown now outcome) := by
  induction keyIds generalizing c with
  | nil => rfl
  | cons first rest ih =>
    have hrest := ih (c := (c.start cooldown now first).2) fun keyId hmem hkey => by
      rw [answerTogether_start]
      exact hwaits keyId (List.mem_cons_of_mem _ hmem) (waits_start.1 hkey)
    rw [startAll_cons, List.map_cons, List.map_cons, hrest,
      answer_start (hwaits first List.mem_cons_self)]
    exact congrArg _ (List.map_congr_left fun keyId _ => answerTogether_start)

/-- Only the first that waits begins a fetch, and only where none is under way. -/
theorem countP_startAll (cooldown : Number) (now : Rat) (keyIds : List Text) (c : Cache) :
    ((startAll cooldown now keyIds c).1.countP fun b => b.2 = .waiting true) =
      if c.inFlight = false ∧ ∃ keyId ∈ keyIds, c.Waits cooldown now keyId then 1 else 0 := by
  induction keyIds generalizing c with
  | nil => simp [startAll]
  | cons first rest ih =>
    rw [startAll_cons, List.countP_cons, ih]
    simp only [waits_start]
    simp only [start_snd, List.exists_mem_cons_iff]
    by_cases hwaits : c.Waits cooldown now first
    · have hstart : (c.start cooldown now first).1 = .waiting !c.inFlight := by
        simp only [start, hwaits.1, hwaits.2, if_true]
      rcases hflight : c.inFlight <;> simp [hstart, hwaits, hflight]
    · have hstart : (c.start cooldown now first).1 ≠ .waiting true := by
        unfold start
        rcases hkey : c.snapshot.get? first with _ | key
        · have hmay : c.mayRefresh cooldown now ≠ true := fun hmay => hwaits ⟨hkey, hmay⟩
          simp [hmay]
        · simp
      simp [hstart, hwaits]

/-- What look-ups come to where no fetch is under way at their start: each to what it would
come to without the others, and a fetch if one of them waits. -/
theorem getAll_eq (hidle : c.inFlight = false) :
    c.getAll cooldown now outcome keyIds =
      if ∃ keyId ∈ keyIds, c.Waits cooldown now keyId then
        ⟨keyIds.map (c.answerTogether cooldown now outcome), c.refreshedBy now outcome, 1,
          [outcome.refreshEntry]⟩
      else ⟨keyIds.map (c.answerTogether cooldown now outcome), c, 0, []⟩ := by
  have hcount := countP_startAll cooldown now keyIds c
  have hafter := startAll_snd cooldown now keyIds c
  have hanswers := @answers_startAll cooldown now outcome c keyIds
  unfold getAll
  rcases hstart : startAll cooldown now keyIds c with ⟨starts, c'⟩
  rw [hstart] at hcount hafter
  simp only [hidle, Bool.false_or, true_and, hstart] at hcount hafter hanswers
  by_cases hwaits : ∃ keyId ∈ keyIds, c.Waits cooldown now keyId
  · have hcache : (c'.arrive now outcome).2.clear = c.refreshedBy now outcome := by
      rw [arrive_snd, hafter]
      unfold refreshedBy clear
      rcases outcome.entries with failure | entries
      · simp [← hidle]
      · simp [hidle]
    have hflight : c'.inFlight = true := by rw [hafter, decide_eq_true hwaits]
    have hgiven := hanswers (c'.arrive now outcome).1 (c.refreshedBy now outcome)
      fun keyId _ hkey => by rw [arrive_fst, resume_refreshedBy hkey]
    rw [if_pos hwaits] at hcount ⊢
    simp only [hflight, if_true, hcount, hgiven, hcache, refreshEntry_arrive]
  · have hgiven := hanswers (.ok ()) c' fun keyId hmem hkey =>
      absurd ⟨keyId, hmem, hkey⟩ hwaits
    have hcache : c' = c := by
      rw [hafter, decide_eq_false hwaits, ← hidle]
    rw [hcache] at hgiven
    rw [if_neg hwaits] at hcount ⊢
    simp only [hcache, hidle, Bool.false_eq_true, if_false, hcount, hgiven]

/-! ### In any order of events -/

/-- An event that goes on with what has been begun: the fetch ends in the way given, its end is
dealt with, or a look-up that waited is answered. -/
inductive Event.GoesOn (outcome : FetchOutcome) : Event → Prop
  | finish (fetch : Nat) : GoesOn outcome (.finish fetch outcome)
  | reset (fetch : Nat) : GoesOn outcome (.reset fetch)
  | resume (lookup : Nat) : GoesOn outcome (.resume lookup)

namespace Flow

variable {old s s' : Flow} {fetch : Nat}

/-- Where a look-up stands once it has started: it waits for a fetch, if it has to wait. -/
def begun (cooldown : Number) (s : Flow) (fetch : Nat) (keyId : Text) : Progress :=
  match s.cache.snapshot.get? keyId with
  | some key => .answered (.ok key)
  | none =>
    if s.cache.mayRefresh cooldown s.now then .waiting fetch
    else .answered (.error (.notFound keyId))

/-- A look-up that starts, where the fetch under way, or else the next one, has the place
given. -/
theorem step_start
    (hfetch : s.fetches.length = if s.cache.inFlight then fetch + 1 else fetch) :
    step cooldown s (.start keyId) = some { s with
      cache := (s.cache.start cooldown s.now keyId).2
      fetches :=
        if s.cache.inFlight = false ∧ s.cache.Waits cooldown s.now keyId then
          s.fetches ++ [.sent]
        else s.fetches
      lookups := s.lookups ++ [(keyId, begun cooldown s fetch keyId)] } := by
  rcases hkey : s.cache.snapshot.get? keyId with _ | key
  · by_cases hmay : s.cache.mayRefresh cooldown s.now = true
    · have hwaits : s.cache.Waits cooldown s.now keyId := ⟨hkey, hmay⟩
      rcases hflight : s.cache.inFlight
      · rw [hflight, if_neg Bool.false_ne_true] at hfetch
        simp [step, start, begun, hkey, hmay, hflight, hwaits, hfetch]
      · rw [hflight, if_pos rfl] at hfetch
        simp [step, start, begun, hkey, hmay, hflight, hfetch]
    · simp [step, start, begun, Waits, hkey, hmay]
  · simp [step, start, begun, Waits, hkey]

/-- A look-up that starts has no say in where the others will stand. -/
theorem begun_start {other : Text} {fetches : List Phase} {lookups : List (Text × Progress)} :
    begun cooldown { s with
        cache := (s.cache.start cooldown s.now keyId).2
        fetches := fetches
        lookups := lookups } fetch other = begun cooldown s fetch other := by
  simp only [begun, snapshot_start, mayRefresh_start]

/-- Look-ups that start one after the other. -/
theorem run_starts
    (hfetch : s.fetches.length = if s.cache.inFlight then fetch + 1 else fetch) :
    run cooldown s (keyIds.map .start) = some { s with
      cache := (startAll cooldown s.now keyIds s.cache).2
      fetches :=
        if s.cache.inFlight = false ∧ ∃ keyId ∈ keyIds, s.cache.Waits cooldown s.now keyId then
          s.fetches ++ [.sent]
        else s.fetches
      lookups := s.lookups ++ keyIds.map fun keyId =>
        (keyId, begun cooldown s fetch keyId) } := by
  induction keyIds generalizing s with
  | nil => simp [run, startAll]
  | cons first rest ih =>
    have hnext := @step_start cooldown first s fetch hfetch
    rw [List.map_cons, run, List.foldlM_cons, hnext, Option.bind_eq_bind, Option.bind_some]
    have hplace : (if s.cache.inFlight = false ∧ s.cache.Waits cooldown s.now first then
        s.fetches ++ [.sent] else s.fetches).length =
          if (s.cache.start cooldown s.now first).2.inFlight then fetch + 1 else fetch := by
      rw [start_snd]
      by_cases hwaits : s.cache.Waits cooldown s.now first <;>
        rcases hflight : s.cache.inFlight <;> simp [hflight, hwaits] at hfetch ⊢ <;> omega
    rw [← run, ih hplace]
    simp only [begun_start, waits_start]
    simp only [startAll_cons, start_snd, List.exists_mem_cons_iff, List.map_cons,
      List.append_assoc, List.singleton_append]
    by_cases hwaits : s.cache.Waits cooldown s.now first <;>
      rcases hflight : s.cache.inFlight <;> simp [hwaits]

/-- How far the one fetch of look-ups that have started together has come. -/
inductive Stage (cooldown : Number) (keyIds : List Text) (outcome : FetchOutcome)
    (old s : Flow) : Prop
  /-- No look-up waits, so there is none. -/
  | none (hnobody : ∀ keyId ∈ keyIds, ¬old.cache.Waits cooldown old.now keyId)
    (hcache : s.cache = old.cache) (hfetches : s.fetches = old.fetches)
  /-- It has not ended. -/
  | sent (hsome : ∃ keyId ∈ keyIds, old.cache.Waits cooldown old.now keyId)
    (hcache : s.cache = { old.cache with inFlight := true })
    (hfetches : s.fetches = old.fetches ++ [.sent])
  /-- It has ended. -/
  | ended (hsome : ∃ keyId ∈ keyIds, old.cache.Waits cooldown old.now keyId)
    (hcache : s.cache = { old.cache.refreshedBy old.now outcome with inFlight := true })
    (hfetches : s.fetches = old.fetches ++ [.ended (outcome.entries.map fun _ => ())])
  /-- Its end has been dealt with. -/
  | settled (hsome : ∃ keyId ∈ keyIds, old.cache.Waits cooldown old.now keyId)
    (hcache : s.cache = old.cache.refreshedBy old.now outcome)
    (hfetches : s.fetches = old.fetches ++ [.settled (outcome.entries.map fun _ => ())])

/-- What look-ups that have started together stand at: the stage of their fetch, and of each of
them that it is as it has started, or has waited and been answered. -/
structure Going (cooldown : Number) (keyIds : List Text) (outcome : FetchOutcome)
    (old s : Flow) : Prop where
  now_eq : s.now = old.now
  stage : Stage cooldown keyIds outcome old s
  length_eq : s.lookups.length = old.lookups.length + keyIds.length
  stands : ∀ i keyId, keyIds[i]? = some keyId → ∃ progress,
    s.lookups[old.lookups.length + i]? = some (keyId, progress) ∧
      (progress = begun cooldown old old.fetches.length keyId ∨
        s.cache = old.cache.refreshedBy old.now outcome ∧
          progress = .answered (old.cache.answerTogether cooldown old.now outcome keyId))

/-- No fetch is under way, and none that has been begun is still open. -/
structure Idle (s : Flow) : Prop where
  inFlight_eq : s.cache.inFlight = false
  isOpen_eq : ∀ phase ∈ s.fetches, phase.isOpen = false

/-- Look-ups that have started together stand where they have started. -/
theorem going_starts (cooldown : Number) (keyIds : List Text) (outcome : FetchOutcome)
    (hold : old.Idle) :
    ∃ s, run cooldown old (keyIds.map .start) = some s ∧
      Going cooldown keyIds outcome old s := by
  have hfetch : old.fetches.length =
      if old.cache.inFlight then old.fetches.length + 1 else old.fetches.length := by
    rw [hold.inFlight_eq, if_neg Bool.false_ne_true]
  refine ⟨_, run_starts hfetch, rfl, ?_, ?_, ?_⟩
  · by_cases hwaits : ∃ keyId ∈ keyIds, old.cache.Waits cooldown old.now keyId
    · refine .sent hwaits ?_ ?_
      · rw [startAll_snd, decide_eq_true hwaits, Bool.or_true]
      · exact if_pos ⟨hold.inFlight_eq, hwaits⟩
    · refine .none (fun keyId hmem hkey => hwaits ⟨keyId, hmem, hkey⟩) ?_ ?_
      · rw [startAll_snd, decide_eq_false hwaits, Bool.or_false]
      · exact if_neg fun h => hwaits h.2
  · rw [List.length_append, List.length_map]
  · intro i keyId hkey
    refine ⟨_, ?_, Or.inl rfl⟩
    rw [List.getElem?_append_right (Nat.le_add_right _ _), Nat.add_sub_cancel_left,
      List.getElem?_map, hkey]
    rfl

/-- The fetch of look-ups that have started together is the only one that can be in a phase
that none of the others is in. -/
theorem eq_of_getElem?_append {phases : List Phase} {last phase : Phase} {i : Nat}
    (h : (phases ++ [last])[i]? = some phase) (hother : phase ∉ phases) :
    i = phases.length ∧ phase = last := by
  rcases lt_trichotomy i phases.length with hlt | rfl | hgt
  · rw [List.getElem?_append_left hlt] at h
    exact absurd (List.mem_of_getElem? h) hother
  · rw [List.getElem?_concat_length, Option.some_inj] at h
    exact ⟨rfl, h.symm⟩
  · rw [List.getElem?_eq_none (by simp; omega)] at h
    cases h

namespace Idle

theorem not_mem_sent (h : s.Idle) : Phase.sent ∉ s.fetches := fun hmem =>
  absurd (h.isOpen_eq _ hmem) (by decide)

theorem not_mem_ended (h : s.Idle) (refreshed : Except RefreshFailure Unit) :
    Phase.ended refreshed ∉ s.fetches := fun hmem =>
  absurd (h.isOpen_eq _ hmem) (by rw [Phase.isOpen]; simp [Phase.isSent, Phase.isEnded])

end Idle

theorem Stage.congr (h : Stage cooldown keyIds outcome old s) (hcache : s'.cache = s.cache)
    (hfetches : s'.fetches = s.fetches) : Stage cooldown keyIds outcome old s' := by
  cases h with
  | none hnobody hc hf => exact .none hnobody (hcache.trans hc) (hfetches.trans hf)
  | sent hsome hc hf => exact .sent hsome (hcache.trans hc) (hfetches.trans hf)
  | ended hsome hc hf => exact .ended hsome (hcache.trans hc) (hfetches.trans hf)
  | settled hsome hc hf => exact .settled hsome (hcache.trans hc) (hfetches.trans hf)

theorem waits_of_begun {place : Nat} (h : begun cooldown s fetch keyId = .waiting place) :
    s.cache.Waits cooldown s.now keyId ∧ place = fetch := by
  unfold begun at h
  rcases hkey : s.cache.snapshot.get? keyId with _ | key <;> simp only [hkey] at h
  · split_ifs at h with hmay
    · exact ⟨⟨hkey, hmay⟩, (Progress.waiting.inj h).symm⟩
  · cases h

/-- A look-up that does not wait is answered as it starts. -/
theorem begun_of_not_waits (hwaits : ¬s.cache.Waits cooldown s.now keyId) :
    begun cooldown s fetch keyId =
      .answered (s.cache.answerTogether cooldown s.now outcome keyId) := by
  unfold begun answerTogether
  rcases hkey : s.cache.snapshot.get? keyId with _ | key
  · have hmay : s.cache.mayRefresh cooldown s.now ≠ true := fun hmay => hwaits ⟨hkey, hmay⟩
    simp [hmay]
  · rfl

section

variable (hold : old.Idle) (h : Going cooldown keyIds outcome old s)

include hold h

/-- While the fetch is open, all look-ups stand where they have started. -/
theorem Going.stands_of_busy (hbusy : s.cache.inFlight = true) {i : Nat}
    (hkey : keyIds[i]? = some keyId) : s.lookups[old.lookups.length + i]? =
      some (keyId, begun cooldown old old.fetches.length keyId) := by
  obtain ⟨progress, hlookup, rfl | ⟨hcache, -⟩⟩ := h.stands i keyId hkey
  · exact hlookup
  · rw [hcache, refreshedBy_inFlight, hold.inFlight_eq] at hbusy
    exact absurd hbusy Bool.false_ne_true

theorem Going.finish {fetch : Nat}
    (hstep : step cooldown s (.finish fetch outcome) = some s') :
    Going cooldown keyIds outcome old s' := by
  unfold Flow.step at hstep
  rcases hphase : s.fetches[fetch]? with _ | _ | _ | _ <;>
    simp only [hphase, reduceCtorEq] at hstep
  cases hstep
  cases h.stage with
  | none _ _ hfetches =>
    rw [hfetches] at hphase
    exact absurd (List.mem_of_getElem? hphase) hold.not_mem_sent
  | sent hsome hcache hfetches =>
    rw [hfetches] at hphase
    obtain ⟨rfl, -⟩ := eq_of_getElem?_append hphase hold.not_mem_sent
    refine ⟨h.now_eq, .ended hsome ?_ ?_, h.length_eq, fun i keyId hkey =>
      ⟨_, h.stands_of_busy hold (by rw [hcache]) hkey, Or.inl rfl⟩⟩
    · show (s.cache.arrive s.now outcome).2 = _
      rw [arrive_snd, h.now_eq, hcache]
      unfold refreshedBy
      rcases outcome.entries with failure | entries <;> rfl
    · show s.fetches.set old.fetches.length (.ended (s.cache.arrive s.now outcome).1) = _
      rw [hfetches, arrive_fst, List.set_append_right _ _ le_rfl, Nat.sub_self,
        List.set_cons_zero]
  | ended _ _ hfetches =>
    rw [hfetches] at hphase
    exact absurd (eq_of_getElem?_append hphase hold.not_mem_sent).2 nofun
  | settled _ _ hfetches =>
    rw [hfetches] at hphase
    exact absurd (eq_of_getElem?_append hphase hold.not_mem_sent).2 nofun

theorem Going.reset {fetch : Nat} (hstep : step cooldown s (.reset fetch) = some s') :
    Going cooldown keyIds outcome old s' := by
  unfold Flow.step at hstep
  rcases hphase : s.fetches[fetch]? with _ | _ | refreshed | _ <;>
    simp only [hphase, reduceCtorEq] at hstep
  cases hstep
  have hother := hold.not_mem_ended refreshed
  cases h.stage with
  | none _ _ hfetches =>
    rw [hfetches] at hphase
    exact absurd (List.mem_of_getElem? hphase) hother
  | sent _ _ hfetches =>
    rw [hfetches] at hphase
    exact absurd (eq_of_getElem?_append hphase hother).2 nofun
  | ended hsome hcache hfetches =>
    rw [hfetches] at hphase
    obtain ⟨rfl, hlast⟩ := eq_of_getElem?_append hphase hother
    refine ⟨h.now_eq, .settled hsome ?_ ?_, h.length_eq, fun i keyId hkey =>
      ⟨_, h.stands_of_busy hold (by rw [hcache]) hkey, Or.inl rfl⟩⟩
    · have hidle := @refreshedBy_inFlight old.now outcome old.cache
      rw [hold.inFlight_eq] at hidle
      show s.cache.clear = _
      rw [hcache, clear, ← hidle]
    · show s.fetches.set old.fetches.length (.settled refreshed) = _
      rw [hfetches, List.set_append_right _ _ le_rfl, Nat.sub_self, List.set_cons_zero]
      cases hlast
      rfl
  | settled _ _ hfetches =>
    rw [hfetches] at hphase
    exact absurd (eq_of_getElem?_append hphase hother).2 nofun

omit hold in
theorem Going.resume {lookup : Nat} (hstep : step cooldown s (.resume lookup) = some s') :
    Going cooldown keyIds outcome old s' := by
  unfold Flow.step at hstep
  rcases hlookup : s.lookups[lookup]? with _ | ⟨otherId, fetch | answer⟩ <;>
    simp only [hlookup, reduceCtorEq] at hstep
  rcases hphase : s.fetches[fetch]? with _ | _ | _ | refreshed <;>
    simp only [hphase, reduceCtorEq] at hstep
  cases hstep
  refine ⟨h.now_eq, h.stage.congr rfl rfl, by rw [← h.length_eq, List.length_set], ?_⟩
  intro i keyId hkey
  obtain ⟨progress, hstands, hprogress⟩ := h.stands i keyId hkey
  by_cases hsame : lookup = old.lookups.length + i
  · subst hsame
    rw [hlookup, Option.some_inj, Prod.mk.injEq] at hstands
    obtain ⟨rfl, rfl⟩ := hstands
    -- a look-up that still waits is as it has started, so it waits for the one fetch
    obtain ⟨hwaits, rfl⟩ : old.cache.Waits cooldown old.now otherId ∧
      fetch = old.fetches.length := by
      rcases hprogress with hbegun | ⟨-, hanswered⟩
      · exact waits_of_begun hbegun.symm
      · cases hanswered
    cases h.stage with
    | none hnobody => exact absurd hwaits (hnobody _ (List.mem_of_getElem? hkey))
    | sent _ _ hfetches =>
      rw [hfetches, List.getElem?_concat_length] at hphase
      cases hphase
    | ended _ _ hfetches =>
      rw [hfetches, List.getElem?_concat_length] at hphase
      cases hphase
    | settled _ hcache hfetches =>
      rw [hfetches, List.getElem?_concat_length] at hphase
      cases hphase
      obtain ⟨hlt, -⟩ := List.getElem?_eq_some_iff.1 hlookup
      refine ⟨_, List.getElem?_set_self hlt, Or.inr ⟨hcache, ?_⟩⟩
      rw [hcache, resume_refreshedBy hwaits]
  · exact ⟨progress, (List.getElem?_set_ne hsame).trans hstands, hprogress⟩

theorem Going.step {event : Event} (hevent : event.GoesOn outcome)
    (hstep : step cooldown s event = some s') : Going cooldown keyIds outcome old s' := by
  cases hevent with
  | finish fetch => exact h.finish hold hstep
  | reset fetch => exact h.reset hold hstep
  | resume lookup => exact h.resume hstep

theorem Going.run {events : List Event} (hevents : ∀ event ∈ events, event.GoesOn outcome)
    (hrun : run cooldown s events = some s') : Going cooldown keyIds outcome old s' := by
  induction events generalizing s with
  | nil =>
    obtain rfl : s = s' := Option.some_inj.1 hrun
    exact h
  | cons event rest ih =>
    obtain ⟨next, hnext, hrest⟩ := run_cons.1 hrun
    exact ih (h.step hold (hevents event List.mem_cons_self) hnext)
      (fun event hmem => hevents event (List.mem_cons_of_mem _ hmem)) hrest

end

/-- A look-up that has to wait waits where it starts. -/
theorem begun_of_waits (hwaits : s.cache.Waits cooldown s.now keyId) :
    begun cooldown s fetch keyId = .waiting fetch := by
  simp only [begun, hwaits.1, hwaits.2, if_true]

/-! ### At the end -/

/-- Of the look-ups that have been made since a state none waits any more. -/
def Ended (old s : Flow) : Prop :=
  ∀ b ∈ s.lookups.drop old.lookups.length, ∀ fetch, b.2 ≠ .waiting fetch

namespace Going

variable (h : Going cooldown keyIds outcome old s)

include h

/-- A look-up that had to wait and does not wait any more has been answered from what the fetch
has brought. -/
theorem answered_of_ended (hended : Ended old s) {i : Nat} (hkey : keyIds[i]? = some keyId) :
    s.lookups[old.lookups.length + i]? = some
        (keyId, .answered (old.cache.answerTogether cooldown old.now outcome keyId)) ∧
      (old.cache.Waits cooldown old.now keyId →
        s.cache = old.cache.refreshedBy old.now outcome) := by
  obtain ⟨progress, hstands, hprogress⟩ := h.stands i keyId hkey
  have hmem : (keyId, progress) ∈ s.lookups.drop old.lookups.length :=
    List.mem_of_getElem? ((List.getElem?_drop).trans hstands)
  rcases hprogress with rfl | ⟨hcache, rfl⟩
  · have hwaits : ¬old.cache.Waits cooldown old.now keyId := fun hwaits =>
      hended _ hmem _ (begun_of_waits hwaits)
    rw [begun_of_not_waits hwaits] at hstands
    exact ⟨hstands, fun hkey => absurd hkey hwaits⟩
  · exact ⟨hstands, fun _ => hcache⟩

/-- Look-ups that have started together and do not wait any more have come to what they come to
at once. -/
theorem lookups_eq (hended : Ended old s) :
    s.lookups.drop old.lookups.length = keyIds.map fun keyId =>
      (keyId, .answered (old.cache.answerTogether cooldown old.now outcome keyId)) := by
  refine List.ext_getElem? fun i => ?_
  rw [List.getElem?_drop, List.getElem?_map]
  rcases hkey : keyIds[i]? with _ | keyId
  · rw [List.getElem?_eq_none_iff] at hkey
    rw [Option.map_none, List.getElem?_eq_none_iff, h.length_eq]
    omega
  · exact (h.answered_of_ended hended hkey).1

theorem cache_eq (hended : Ended old s) :
    s.cache = if ∃ keyId ∈ keyIds, old.cache.Waits cooldown old.now keyId then
      old.cache.refreshedBy old.now outcome else old.cache := by
  by_cases hwaits : ∃ keyId ∈ keyIds, old.cache.Waits cooldown old.now keyId
  · obtain ⟨keyId, hmem, hkey⟩ := hwaits
    obtain ⟨i, hi⟩ := List.getElem?_of_mem hmem
    rw [if_pos ⟨keyId, hmem, hkey⟩]
    exact (h.answered_of_ended hended hi).2 hkey
  · rw [if_neg hwaits]
    cases h.stage with
    | none _ hcache _ => exact hcache
    | sent hsome _ _ => exact absurd hsome hwaits
    | ended hsome _ _ => exact absurd hsome hwaits
    | settled hsome _ _ => exact absurd hsome hwaits

theorem fetches_length :
    s.fetches.length = old.fetches.length +
      if ∃ keyId ∈ keyIds, old.cache.Waits cooldown old.now keyId then 1 else 0 := by
  cases h.stage with
  | none hnobody _ hfetches =>
    rw [hfetches, if_neg fun ⟨keyId, hmem, hkey⟩ => hnobody keyId hmem hkey, Nat.add_zero]
  | sent hsome _ hfetches => simp [hfetches, hsome]
  | ended hsome _ hfetches => simp [hfetches, hsome]
  | settled hsome _ hfetches => simp [hfetches, hsome]

end Going

/-- Look-ups that start together where no fetch is under way, at any time, and whatever the
answer to a fetch. At most one fetch is made, and one is made exactly if one of the key ids is
unknown and a refresh is allowed. What each of them is answered depends on its own key id
alone. So the same look-ups in another order bring the same answers, each to its key id, and
the same cache, fetches and log. The order in which the look-ups that wait go on does not
matter either: after all events that bring them to their end, they have been answered the same,
and the cache is the same. -/
theorem lookups_independent {c : Cache} (hidle : c.inFlight = false) (cooldown : Number)
    (now : Rat) (outcome : FetchOutcome) (keyIds : List Text) :
    let done := c.getAll cooldown now outcome keyIds
    (done.fetches ≤ 1 ∧ (done.fetches = 1 ↔
      ∃ keyId ∈ keyIds, c.snapshot.get? keyId = none ∧ c.mayRefresh cooldown now = true)) ∧
    done.answers = keyIds.map (c.answerTogether cooldown now outcome) ∧
    (done.fetches = 1 →
      done.cache = c.refreshedBy now outcome ∧ done.entries = [outcome.refreshEntry]) ∧
    (done.fetches = 0 → done.cache = c ∧ done.entries = []) ∧
    (∀ others : List Text, others.Perm keyIds →
      let other := c.getAll cooldown now outcome others
      (others.zip other.answers).Perm (keyIds.zip done.answers) ∧
        other.cache = done.cache ∧ other.fetches = done.fetches ∧
          other.entries = done.entries) ∧
    ∀ (old s : Flow) (events : List Event), old.Idle → old.cache = c → (old.now : Rat) = now →
      (∀ event ∈ events, event.GoesOn outcome) →
      run cooldown old (keyIds.map .start ++ events) = some s → Ended old s →
        s.lookups.drop old.lookups.length = keyIds.zip (done.answers.map .answered) ∧
          s.cache = done.cache ∧ s.fetches.length = old.fetches.length + done.fetches := by
  refine ⟨?_, ?_, ?_, ?_, fun others hperm => ?_, ?_⟩
  · rw [getAll_eq hidle]
    split_ifs with hwaits
    · exact ⟨le_rfl, iff_of_true rfl hwaits⟩
    · exact ⟨Nat.zero_le _, iff_of_false (by decide) hwaits⟩
  · rw [getAll_eq hidle]
    split_ifs <;> rfl
  · rw [getAll_eq hidle]
    split_ifs
    · exact fun _ => ⟨rfl, rfl⟩
    · exact fun h => absurd h (by decide)
  · rw [getAll_eq hidle]
    split_ifs
    · exact fun h => absurd h (by decide)
    · exact fun _ => ⟨rfl, rfl⟩
  · have hsame : (∃ keyId ∈ others, c.Waits cooldown now keyId) ↔
        ∃ keyId ∈ keyIds, c.Waits cooldown now keyId := by
      simp only [hperm.mem_iff]
    rw [getAll_eq hidle, getAll_eq hidle]
    simp only [hsame]
    split_ifs
    · exact ⟨by simpa only [← List.map_prod_left_eq_zip] using hperm.map _, rfl, rfl, rfl⟩
    · exact ⟨by simpa only [← List.map_prod_left_eq_zip] using hperm.map _, rfl, rfl, rfl⟩
  · rintro old s events hold rfl rfl hevents hrun hended
    obtain ⟨started, hstarted, hrest⟩ := run_append.1 hrun
    obtain ⟨first, hfirst, hgoing⟩ := going_starts cooldown keyIds outcome hold
    obtain rfl : started = first := Option.some_inj.1 (hstarted.symm.trans hfirst)
    have hlast := hgoing.run hold hevents hrest
    refine ⟨(hlast.lookups_eq hended).trans ?_, (hlast.cache_eq hended).trans ?_,
      hlast.fetches_length.trans ?_⟩
    · rw [getAll_eq hidle]
      split_ifs <;> rw [List.map_map, ← List.map_prod_left_eq_zip] <;> rfl
    · rw [getAll_eq hidle]
      split_ifs <;> rfl
    · rw [getAll_eq hidle]
      split_ifs <;> rfl

/-- Nothing has been begun, and the cache knows one key. -/
def knowsOld : Flow := { initial 6 with cache := ⟨[oneKey "old"], some 0, false⟩ }

/-- What happens once the look-ups have started; those that wait go on in the opposite
order. -/
def goingOn : List Event :=
  [.finish 0 (.answered 200 (oneKeyDocument "new")), .reset 0, .resume 3, .resume 2, .resume 0]

theorem lookups_independent_rotation :
    let done := knowsOld.cache.getAll (.finite 5) 6 (.answered 200 (oneKeyDocument "new"))
      ["new", "old", "missing", "new"]
    let reordered := knowsOld.cache.getAll (.finite 5) 6 (.answered 200 (oneKeyDocument "new"))
      ["old", "new", "new", "missing"]
    done.fetches = 1 ∧
      done.answers =
        [.ok (oneKey "new"), .ok (oneKey "old"), .error (.notFound "missing"),
          .ok (oneKey "new")] ∧
      reordered.cache = done.cache ∧
      ∃ s : Flow, run (.finite 5) knowsOld
          ((["new", "old", "missing", "new"] : List Text).map .start ++ goingOn) = some s ∧
        s.lookups.map Prod.snd = done.answers.map .answered ∧ s.cache = done.cache := by
  obtain ⟨s, hs⟩ := Option.isSome_iff_exists.1
    (show (run (.finite 5) knowsOld
      ((["new", "old", "missing", "new"] : List Text).map .start ++ goingOn)).isSome = true by
        decide +kernel)
  have hended : (run (.finite 5) knowsOld
      ((["new", "old", "missing", "new"] : List Text).map .start ++ goingOn)).all
        (fun s => s.lookups.all fun b => b.2.isAnswered) = true := by
    decide +kernel
  rw [hs, Option.all_some, List.all_eq_true] at hended
  obtain ⟨⟨-, hfetches⟩, hanswers, -, -, hpermuted, hflow⟩ :=
    lookups_independent (c := knowsOld.cache) rfl (.finite 5) 6
      (.answered 200 (oneKeyDocument "new")) ["new", "old", "missing", "new"]
  obtain ⟨hlookups, hcache, -⟩ := hflow knowsOld s goingOn ⟨rfl, nofun⟩ rfl rfl
    (by
      intro event hevent
      simp only [goingOn, List.mem_cons, List.not_mem_nil, or_false] at hevent
      rcases hevent with rfl | rfl | rfl | rfl | rfl <;> constructor)
    hs fun b hmem fetch hwaiting => by
      have := hended b hmem
      rw [hwaiting] at this
      cases this
  refine ⟨hfetches.2 ⟨"new", by simp, by decide +kernel, by decide +kernel⟩, ?_,
    (hpermuted ["old", "new", "new", "missing"] (by decide)).2.1, s, hs, ?_, hcache⟩
  · rw [hanswers]
    decide +kernel
  · have hall : s.lookups.drop knowsOld.lookups.length = s.lookups := rfl
    rw [← hall, hlookups, List.map_snd_zip]
    rw [List.length_map, hanswers, List.length_map]

end Flow

end TodoServer.Cache
