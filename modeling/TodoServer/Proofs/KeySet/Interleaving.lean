/-
Look-ups of keys that overlap.

The cache splits a look-up where it waits, so any number of them can be under way at once, and
the parts of each come between those of the others in any order. Here a state holds the cache,
the clock and everything begun so far, and an event is one part of one look-up or fetch, or the
passing of time. Whatever the order of events, no fetch is begun while one is open, and none
sooner after a refresh than the cooldown allows, so refreshes keep their distance.

* `Flow`, `Flow.step`, `Flow.run` — the state, and what events make of it;
* `Flow.Step` — what one event can do, case by case;
* `Flow.Inv`, `Flow.Step.inv`, `Flow.inv_of_run` — the invariant, for one event and for all
  runs;
* `refreshes_rate_limited` — one fetch at a time, and refreshes more than the cooldown apart.
-/
import TodoServer.KeySet.Cache
import TodoServer.Proofs.Number.Rounding
import Mathlib.Data.List.Chain

namespace TodoServer.Cache

/-! ### Events -/

/-- Where a fetch stands. -/
inductive Phase
  /-- It has not ended. -/
  | sent
  /-- It has ended, which has not been dealt with. -/
  | ended (refreshed : Except RefreshFailure Unit)
  /-- Its end has been dealt with. -/
  | settled (refreshed : Except RefreshFailure Unit)
deriving DecidableEq

/-- Whether a fetch has not ended. -/
def Phase.isSent : Phase → Bool
  | .sent => true
  | _ => false

/-- Whether a fetch has ended and that has not been dealt with. -/
def Phase.isEnded : Phase → Bool
  | .ended _ => true
  | _ => false

/-- Where a look-up stands. -/
inductive Progress
  /-- It waits for a fetch. -/
  | waiting (fetch : Nat)
  | answered (answer : Except KeyFault SigningKey)
deriving DecidableEq

/-- Whether a look-up has been answered. -/
def Progress.isAnswered : Progress → Bool
  | .answered _ => true
  | .waiting _ => false

/-- A refresh that has succeeded: when, and with what entries. -/
structure Refresh where
  time : Int
  entries : List Json.Value
deriving DecidableEq

/-- The cache and the clock, and what has been begun: fetches and look-ups in the order of
their beginning, and refreshes, the last one first. -/
structure Flow where
  cache : Cache
  now : Int
  fetches : List Phase
  refreshes : List Refresh
  lookups : List (Text × Progress)
deriving DecidableEq

/-- What can happen next. -/
inductive Event
  /-- A look-up starts. -/
  | start (keyId : Text)
  /-- A fetch ends. -/
  | finish (fetch : Nat) (outcome : FetchOutcome)
  /-- The end of a fetch is dealt with. -/
  | reset (fetch : Nat)
  /-- A look-up that waited is answered. -/
  | resume (lookup : Nat)
  /-- Time passes. -/
  | advance (millis : Nat)

namespace Flow

/-- A state in which nothing has been begun. -/
def initial (now : Int) : Flow := ⟨.empty, now, [], [], []⟩

/-- A refresh added, where an outcome brings one. -/
def withRefresh (now : Int) (refreshes : List Refresh) (outcome : FetchOutcome) :
    List Refresh :=
  match outcome.entries with
  | .error _ => refreshes
  | .ok entries => ⟨now, entries⟩ :: refreshes

/-- One event, if it can happen. A look-up that waits does so for the fetch begun last. -/
def step (cooldown : Number) (s : Flow) : Event → Option Flow
  | .start keyId =>
    match s.cache.start cooldown s.now keyId with
    | (.found key, cache) =>
      some { s with cache, lookups := s.lookups ++ [(keyId, .answered (.ok key))] }
    | (.refused, cache) =>
      some { s with
        cache, lookups := s.lookups ++ [(keyId, .answered (.error (.notFound keyId)))] }
    | (.waiting started, cache) =>
      let fetches := if started then s.fetches ++ [.sent] else s.fetches
      some { s with
        cache, fetches, lookups := s.lookups ++ [(keyId, .waiting (fetches.length - 1))] }
  | .finish fetch outcome =>
    match s.fetches[fetch]? with
    | some .sent =>
      let (refreshed, cache) := s.cache.arrive s.now outcome
      some { s with
        cache
        fetches := s.fetches.set fetch (.ended refreshed)
        refreshes := withRefresh s.now s.refreshes outcome }
    | _ => none
  | .reset fetch =>
    match s.fetches[fetch]? with
    | some (.ended refreshed) =>
      some { s with
        cache := s.cache.clear
        fetches := s.fetches.set fetch (.settled refreshed) }
    | _ => none
  | .resume lookup =>
    match s.lookups[lookup]? with
    | some (keyId, .waiting fetch) =>
      match s.fetches[fetch]? with
      | some (.settled refreshed) =>
        some { s with
          lookups := s.lookups.set lookup (keyId, .answered (s.cache.resume keyId refreshed)) }
      | _ => none
    | _ => none
  | .advance millis => some { s with now := s.now + millis }

/-- Events one after the other, if each of them can happen in its turn. -/
def run (cooldown : Number) (s : Flow) (events : List Event) : Option Flow :=
  events.foldlM (step cooldown) s

/-! ### What one event can do -/

/-- What one event can do. -/
inductive Step (cooldown : Number) (s : Flow) : Flow → Prop
  /-- A look-up finds its key where it starts. -/
  | found {keyId : Text} {key : SigningKey} (hkey : s.cache.snapshot.get? keyId = some key) :
    Step cooldown s { s with lookups := s.lookups ++ [(keyId, .answered (.ok key))] }
  /-- A look-up is refused where it starts. -/
  | refused {keyId : Text} (hkey : s.cache.snapshot.get? keyId = none)
    (hmay : s.cache.mayRefresh cooldown s.now = false) :
    Step cooldown s
      { s with lookups := s.lookups ++ [(keyId, .answered (.error (.notFound keyId)))] }
  /-- A look-up waits for the fetch under way. -/
  | joined {keyId : Text} (hkey : s.cache.snapshot.get? keyId = none)
    (hflight : s.cache.inFlight = true) :
    Step cooldown s { s with
      lookups := s.lookups ++ [(keyId, .waiting (s.fetches.length - 1))] }
  /-- A look-up begins a fetch. -/
  | fetched {keyId : Text} (hkey : s.cache.snapshot.get? keyId = none)
    (hflight : s.cache.inFlight = false) (hmay : s.cache.mayRefresh cooldown s.now = true) :
    Step cooldown s
      { s with
        cache := { s.cache with inFlight := true }
        fetches := s.fetches ++ [.sent]
        lookups := s.lookups ++ [(keyId, .waiting s.fetches.length)] }
  /-- A fetch ends without a refresh. -/
  | failed {fetch : Nat} {failure : RefreshFailure} (hsent : s.fetches[fetch]? = some .sent) :
    Step cooldown s { s with fetches := s.fetches.set fetch (.ended (.error failure)) }
  /-- A fetch ends with a refresh. -/
  | refreshed {fetch : Nat} {entries : List Json.Value}
    (hsent : s.fetches[fetch]? = some .sent) : Step cooldown s
      { s with
        cache :=
          { s.cache with snapshot := .ofEntries entries, refreshedAt := some (s.now : ℚ) }
        fetches := s.fetches.set fetch (.ended (.ok ()))
        refreshes := ⟨s.now, entries⟩ :: s.refreshes }
  /-- The end of a fetch is dealt with. -/
  | settled {fetch : Nat} {refreshed : Except RefreshFailure Unit}
    (hended : s.fetches[fetch]? = some (.ended refreshed)) :
    Step cooldown s
      { s with cache := s.cache.clear, fetches := s.fetches.set fetch (.settled refreshed) }
  /-- A look-up that waited is answered. -/
  | resumed {lookup fetch : Nat} {keyId : Text} {refreshed : Except RefreshFailure Unit}
    (hwaiting : s.lookups[lookup]? = some (keyId, .waiting fetch))
    (hsettled : s.fetches[fetch]? = some (.settled refreshed)) :
    Step cooldown s
      { s with
        lookups := s.lookups.set lookup (keyId, .answered (s.cache.resume keyId refreshed)) }
  /-- Time passes. -/
  | advanced (millis : Nat) : Step cooldown s { s with now := s.now + millis }

/-- Every event that can happen does one of these things. -/
theorem Step.of_step_eq {cooldown : Number} {s s' : Flow} {event : Event}
    (h : step cooldown s event = some s') : Step cooldown s s' := by
  cases event with
  | start keyId =>
    unfold step Cache.start at h
    rcases hkey : s.cache.snapshot.get? keyId with _ | key
    · by_cases hmay : s.cache.mayRefresh cooldown s.now = true
      · -- a refresh is allowed, and begun unless one is in flight, which is joined
        rcases hflight : s.cache.inFlight
        · simp only [hkey, hmay, hflight, Bool.not_false, if_true, Option.some.injEq] at h
          subst h
          simpa using Step.fetched hkey hflight hmay
        · have hcache : { s.cache with inFlight := true } = s.cache := by rw [← hflight]
          simp only [hkey, hmay, hflight, Bool.not_true, if_true, Bool.false_eq_true, if_false,
            Option.some.injEq, hcache] at h
          subst h
          exact .joined hkey hflight
      · simp only [hkey, hmay, Bool.false_eq_true, if_false, Option.some.injEq] at h
        subst h
        exact .refused hkey (Bool.eq_false_iff.2 hmay)
    · simp only [hkey, Option.some.injEq] at h
      subst h
      exact .found hkey
  | finish fetch outcome =>
    unfold step at h
    rcases hphase : s.fetches[fetch]? with _ | _ | _ | _ <;>
      simp only [hphase, reduceCtorEq] at h
    unfold Cache.arrive withRefresh at h
    rcases hentries : outcome.entries with failure | entries <;>
      simp only [hentries, Option.some.injEq] at h <;> subst h
    · exact .failed hphase
    · exact .refreshed hphase
  | reset fetch =>
    unfold step at h
    rcases hphase : s.fetches[fetch]? with _ | _ | refreshed | _ <;>
      simp only [hphase, reduceCtorEq, Option.some.injEq] at h
    subst h
    exact .settled hphase
  | resume lookup =>
    unfold step at h
    rcases hlookup : s.lookups[lookup]? with _ | ⟨keyId, fetch | answer⟩ <;>
      simp only [hlookup, reduceCtorEq] at h
    rcases hphase : s.fetches[fetch]? with _ | _ | _ | refreshed <;>
      simp only [hphase, reduceCtorEq, Option.some.injEq] at h
    subst h
    exact .resumed hlookup hphase
  | advance millis =>
    rw [step, Option.some_inj] at h
    subst h
    exact .advanced millis

/-! ### The invariant -/

/-- What holds whatever the order of events, for a cooldown of some milliseconds. -/
structure Inv (cooldown : ℤ) (s : Flow) : Prop where
  /-- One fetch is open while one is in flight, and none otherwise. -/
  open_eq : s.fetches.countP Phase.isSent + s.fetches.countP Phase.isEnded =
    if s.cache.inFlight then 1 else 0
  /-- The cache knows when the last refresh was. -/
  last_eq : s.cache.refreshedAt = s.refreshes.head?.map fun r => (r.time : ℚ)
  /-- While a fetch has not ended, the last refresh is further back than the cooldown. -/
  sent_far : 0 < s.fetches.countP Phase.isSent →
    ∀ last ∈ s.refreshes.head?, cooldown < s.now - last.time
  /-- Every refresh is further from the one before than the cooldown. -/
  spaced : s.refreshes.IsChain fun newer older => cooldown < newer.time - older.time

theorem inv_initial (cooldown now : ℤ) : Inv cooldown (initial now) := by
  refine ⟨rfl, rfl, ?_, List.isChain_nil⟩
  intro hsent
  exact absurd hsent (lt_irrefl 0)

/-- Counting after one item has been replaced. -/
theorem countP_set_add {α : Type} {items : List α} {i : Nat} {old : α} (p : α → Bool) (new : α)
    (h : items[i]? = some old) :
    (items.set i new).countP p + (if p old then 1 else 0) =
      items.countP p + if p new then 1 else 0 := by
  obtain ⟨hi, rfl⟩ := List.getElem?_eq_some_iff.1 h
  rw [List.countP_set hi]
  by_cases hold : p items[i] = true
  · have hpos : 0 < items.countP p := List.countP_pos_iff.2 ⟨_, List.getElem_mem hi, hold⟩
    rw [if_pos hold]
    omega
  · rw [if_neg hold]
    omega

theorem countP_set_ended {fetches : List Phase} {fetch : Nat}
    (h : fetches[fetch]? = some .sent) (refreshed : Except RefreshFailure Unit) :
    (fetches.set fetch (.ended refreshed)).countP Phase.isSent + 1 =
        fetches.countP Phase.isSent ∧
      (fetches.set fetch (.ended refreshed)).countP Phase.isEnded =
        fetches.countP Phase.isEnded + 1 :=
  ⟨countP_set_add Phase.isSent (.ended refreshed) h,
    countP_set_add Phase.isEnded (.ended refreshed) h⟩

theorem countP_set_settled {fetches : List Phase} {fetch : Nat}
    {refreshed : Except RefreshFailure Unit} (h : fetches[fetch]? = some (.ended refreshed)) :
    (fetches.set fetch (.settled refreshed)).countP Phase.isSent =
      fetches.countP Phase.isSent ∧
      (fetches.set fetch (.settled refreshed)).countP Phase.isEnded + 1 =
        fetches.countP Phase.isEnded :=
  ⟨countP_set_add Phase.isSent (.settled refreshed) h,
    countP_set_add Phase.isEnded (.settled refreshed) h⟩

/-- Where a refresh may begin, the last one is further back than the cooldown. -/
theorem far_of_mayRefresh {cooldown : ℤ} {s : Flow} (hs : Inv cooldown s)
    (hexact : Number.ofInt cooldown = .finite cooldown) (hflight : s.cache.inFlight = false)
    (hmay : s.cache.mayRefresh (.finite cooldown) s.now = true) :
    ∀ last ∈ s.refreshes.head?, cooldown < s.now - last.time := by
  intro last hlast
  have htime := hs.last_eq
  rw [hlast, Option.map_some] at htime
  rw [mayRefresh, hflight, Bool.false_or, htime] at hmay
  have hlt := Number.lt_of_finite_lt_ofRat hexact hmay
  exact_mod_cast hlt

/-- One event keeps the invariant. -/
theorem Step.inv {cooldown : ℤ} {s s' : Flow}
    (hexact : Number.ofInt cooldown = .finite cooldown) (h : Step (.finite cooldown) s s')
    (hs : Inv cooldown s) : Inv cooldown s' := by
  cases h with
  | found | refused | joined | resumed =>
    exact ⟨hs.open_eq, hs.last_eq, hs.sent_far, hs.spaced⟩
  | fetched _ hflight hmay =>
    have hfar := far_of_mayRefresh hs hexact hflight hmay
    -- none was open, so this one is the only one
    refine ⟨?_, hs.last_eq, fun _ => hfar, hs.spaced⟩
    have hopen := hs.open_eq
    rw [hflight, if_neg Bool.false_ne_true] at hopen
    dsimp only
    rw [List.countP_append, List.countP_append, if_pos rfl]
    show s.fetches.countP Phase.isSent + 1 + (s.fetches.countP Phase.isEnded + 0) = 1
    omega
  | @failed fetch failure hsent =>
    obtain ⟨hsents, hendeds⟩ := countP_set_ended hsent (.error failure)
    refine ⟨?_, hs.last_eq, ?_, hs.spaced⟩ <;> dsimp only
    · rw [← hs.open_eq]
      omega
    · intro hpos
      exact hs.sent_far (by omega)
  | @refreshed fetch entries hsent =>
    obtain ⟨hsents, hendeds⟩ := countP_set_ended hsent (.ok ())
    have hopen := hs.open_eq
    have hone : (if s.cache.inFlight then 1 else 0) ≤ 1 := by split_ifs <;> omega
    refine ⟨?_, rfl, ?_, ?_⟩ <;> dsimp only
    · rw [← hopen]
      omega
    · -- the one fetch that was open has just ended
      intro hpos
      omega
    · rw [List.isChain_cons]
      exact ⟨fun last hlast => hs.sent_far (by omega) last hlast, hs.spaced⟩
  | @settled fetch refreshed hended =>
    obtain ⟨hsents, hendeds⟩ := countP_set_settled hended
    have hopen := hs.open_eq
    have hone : (if s.cache.inFlight then 1 else 0) ≤ 1 := by split_ifs <;> omega
    refine ⟨?_, hs.last_eq, ?_, hs.spaced⟩ <;> dsimp only
    · show _ + _ = 0
      omega
    · intro hpos
      exact hs.sent_far (by omega)
  | advanced millis =>
    refine ⟨hs.open_eq, hs.last_eq, ?_, hs.spaced⟩
    -- the clock of look-ups does not go back
    intro hsent last hlast
    have hfar := hs.sent_far hsent last hlast
    show cooldown < s.now + millis - last.time
    omega

/-! ### Runs -/

theorem inv_of_run {cooldown : ℤ} {s s' : Flow} {events : List Event}
    (hexact : Number.ofInt cooldown = .finite cooldown) (hs : Inv cooldown s)
    (h : run (.finite cooldown) s events = some s') : Inv cooldown s' := by
  induction events generalizing s with
  | nil =>
    obtain rfl : s = s' := Option.some_inj.1 h
    exact hs
  | cons event rest ih =>
    rw [run, List.foldlM_cons, Option.bind_eq_bind, Option.bind_eq_some_iff] at h
    obtain ⟨next, hnext, hrest⟩ := h
    exact ih ((Step.of_step_eq hnext).inv hexact hs) hrest

/-- Times that keep their distance, the last one first, do not crowd into a window. -/
theorem length_mul_le_of_pairwise {distance low high : ℤ} {times : List ℤ}
    (hspaced : times.Pairwise fun newer older => distance < newer - older)
    (hlow : ∀ time ∈ times, low ≤ time) (hhigh : ∀ time ∈ times, time ≤ high)
    (hwindow : low ≤ high + (distance + 1)) :
    ((times.length : ℤ) - 1) * (distance + 1) ≤ high - low := by
  induction times generalizing high with
  | nil =>
    simp only [List.length_nil, Nat.cast_zero]
    omega
  | cons newest rest ih =>
    obtain ⟨hfar, hrest⟩ := List.pairwise_cons.1 hspaced
    have hnewest := hlow newest List.mem_cons_self
    have hbelow : ∀ time ∈ rest, time ≤ newest - (distance + 1) := by
      intro time htime
      have hdistance := hfar time htime
      omega
    -- the others end a distance before the newest one, and so crowd into the rest of the
    -- window
    have hcrowd := ih hrest (fun time htime => hlow time (List.mem_cons_of_mem _ htime)) hbelow
      (by omega)
    have htop := hhigh newest List.mem_cons_self
    rw [List.length_cons, Nat.cast_succ]
    linarith

theorem Inv.pairwise {cooldown : ℤ} {s : Flow} (hs : Inv cooldown s)
    (hcooldown : 0 ≤ cooldown) :
    s.refreshes.Pairwise fun newer older => cooldown < newer.time - older.time := by
  have htrans : IsTrans Refresh fun newer older => cooldown < newer.time - older.time :=
    ⟨fun a b c hab hbc => by omega⟩
  exact List.isChain_iff_pairwise.1 hs.spaced

/-- In a window there is room for so many refreshes as can keep their distance in it. -/
theorem Inv.countP_mul_le {cooldown : ℤ} {s : Flow} (hs : Inv cooldown s)
    (hcooldown : 0 ≤ cooldown) (first : ℤ) (window : ℕ) :
    ((s.refreshes.countP fun r => first ≤ r.time ∧ r.time ≤ first + window : ℕ) - 1 : ℤ) *
      (cooldown + 1) ≤ window := by
  rw [List.countP_eq_length_filter, ← List.length_map Refresh.time]
  have hspaced :=
    ((hs.pairwise hcooldown).filter fun r => first ≤ r.time ∧ r.time ≤ first + window)
  have hmem : ∀ time ∈ (s.refreshes.filter fun r =>
      first ≤ r.time ∧ r.time ≤ first + window).map Refresh.time,
      first ≤ time ∧ time ≤ first + window := by
    intro time htime
    obtain ⟨r, hr, rfl⟩ := List.mem_map.1 htime
    simpa using (List.mem_filter.1 hr).2
  have hcrowd := length_mul_le_of_pairwise (List.pairwise_map.2 hspaced)
    (fun time htime => (hmem time htime).1) (fun time htime => (hmem time htime).2) (by omega)
  rw [add_sub_cancel_left] at hcrowd
  exact hcrowd

/-- A fetch begins only where none is in flight and a refresh is allowed. -/
theorem Step.of_length_ne {cooldown : Number} {s s' : Flow} (h : Step cooldown s s')
    (hbegun : s'.fetches.length ≠ s.fetches.length) :
    s.cache.inFlight = false ∧ s.cache.mayRefresh cooldown s.now = true := by
  cases h with
  | fetched _ hflight hmay => exact ⟨hflight, hmay⟩
  | found | refused | joined | resumed | advanced => exact absurd rfl hbegun
  | failed | refreshed | settled => exact absurd List.length_set hbegun

/-- Fetches come one at a time and refreshes keep the cooldown, in whatever order look-ups
start, fetches end and are dealt with, look-ups go on, and time passes. At most one fetch has
not ended. One begins only while none is in flight, and if a refresh has succeeded before,
which the cache knows by its time, only when that is longer ago than the cooldown. So refreshes
are more than the cooldown apart, and in any window there is room for so many and no more. -/
theorem refreshes_rate_limited {cooldown : ℕ}
    (hexact : Number.ofInt cooldown = .finite cooldown)
    {now : ℤ} {events : List Event} {s : Flow}
    (h : run (.finite cooldown) (initial now) events = some s) :
    s.fetches.countP Phase.isSent ≤ 1 ∧
      s.cache.refreshedAt = (s.refreshes.head?.map fun last => (last.time : ℚ)) ∧
      (∀ event s', step (.finite cooldown) s event = some s' →
        s'.fetches.length ≠ s.fetches.length →
          s.cache.inFlight = false ∧ s.fetches.countP Phase.isSent = 0 ∧
            ∀ last ∈ s.refreshes.head?, (cooldown : ℤ) < s.now - last.time) ∧
      (s.refreshes.IsChain fun newer older => (cooldown : ℤ) < newer.time - older.time) ∧
      ∀ (first : ℤ) (window : ℕ),
        ((s.refreshes.countP fun r => first ≤ r.time ∧ r.time ≤ first + window : ℕ) - 1 : ℤ) *
          (cooldown + 1) ≤ window := by
  have hs : Inv cooldown s := inv_of_run hexact (inv_initial cooldown now) h
  have hopen := hs.open_eq
  have hone : (if s.cache.inFlight then 1 else 0) ≤ 1 := by split_ifs <;> omega
  refine ⟨by omega, hs.last_eq, ?_, hs.spaced, ?_⟩
  · intro event s' hstep hbegun
    obtain ⟨hflight, hmay⟩ := (Step.of_step_eq hstep).of_length_ne hbegun
    rw [hflight, if_neg Bool.false_ne_true] at hopen
    exact ⟨hflight, by omega, far_of_mayRefresh hs hexact hflight hmay⟩
  · exact hs.countP_mul_le (Int.natCast_nonneg cooldown)

/-- A run in which two refreshes come as close as they can: a look-up begins the first, one is
refused while the cooldown lasts, and as soon as it is over one begins the second and another
joins. -/
def closeRun : List Event :=
  [.start "a", .finish 0 (.answered 200 (Utf8.encode "\x7b\"keys\":[]\x7d")), .reset 0,
    .resume 0, .advance 5, .start "b", .advance 1, .start "b", .start "a",
    .finish 1 (.answered 200 (Utf8.encode "\x7b\"keys\":[]\x7d")), .reset 1, .resume 2,
    .resume 3]

theorem refreshes_rate_limited_closeRun :
    Number.ofInt (5 : ℕ) = .finite (5 : ℕ) ∧
      ∃ s, run (.finite (5 : ℕ)) (initial 0) closeRun = some s ∧
        s.refreshes.map Refresh.time = [6, 0] ∧ s.fetches.countP Phase.isSent ≤ 1 ∧
        s.refreshes.IsChain fun newer older => ((5 : ℕ) : ℤ) < newer.time - older.time := by
  have hexact : Number.ofInt (5 : ℕ) = .finite (5 : ℕ) := by decide +kernel
  obtain ⟨s, hs⟩ := Option.isSome_iff_exists.1
    (show (run (.finite (5 : ℕ)) (initial 0) closeRun).isSome = true by decide +kernel)
  have htimes : (run (.finite (5 : ℕ)) (initial 0) closeRun).map
      (fun s => s.refreshes.map Refresh.time) = some [6, 0] := by decide +kernel
  rw [hs, Option.map_some, Option.some_inj] at htimes
  obtain ⟨hone, -, -, hspaced, -⟩ := refreshes_rate_limited hexact hs
  exact ⟨hexact, s, hs, htimes, hone, hspaced⟩

end Flow

end TodoServer.Cache
