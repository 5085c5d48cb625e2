/-
What look-ups are served while keys rotate.

The issuer may put other keys into its document at any time, and fetches may fail in between.
Whatever the order of events, the cache knows the document of the last refresh and nothing
else, a fetch that fails leaves no trace, and a look-up is served the key that the cache knows
at the moment where it ends. So a key that the last document does not list is served to nobody
who asks after that, until another document lists it.

* `FetchOutcome.Brings` — the documents that refresh the cache, all other outcomes being
  failures;
* `Flow.Current`, `Step.current` — the cache knows the last document, and is busy only while a
  fetch is;
* `Flow.exists_end` — a look-up that is answered has been answered at some moment of the run;
* `snapshot_follows_documents` — all of it, for every run.
-/
import TodoServer.Proofs.KeySet.Interleaving

namespace TodoServer

/-! ### Documents -/

/-- A fetch has brought a document with these entries under `keys`. -/
inductive FetchOutcome.Brings : FetchOutcome → List Json.Value → Prop
  | document {body : List UInt8} {document : Json.Value} {entries : List Json.Value}
    (hbody : Json.ofBody? body = some document)
    (hkeys : document.member? "keys" = some (.array entries)) :
    Brings (.answered 200 body) entries

theorem Json.Value.items?_eq_some_iff {value : Json.Value} {items : List Json.Value} :
    value.items? = some items ↔ value = .array items := by
  cases value <;> simp [Json.Value.items?]

theorem FetchOutcome.entries_eq_ok_iff {outcome : FetchOutcome} {entries : List Json.Value} :
    outcome.entries = .ok entries ↔ outcome.Brings entries := by
  constructor
  · intro h
    unfold FetchOutcome.entries at h
    rcases outcome with message | ⟨status, body⟩
    · cases h
    simp only at h
    split_ifs at h with hstatus
    rcases hbody : Json.ofBody? body with _ | document <;> simp only [hbody] at h
    · cases h
    rcases hkeys : (document.member? "keys").bind Json.Value.items? with _ | items <;>
      simp only [hkeys] at h
    · cases h
    obtain rfl : items = entries := Except.ok.inj h
    obtain ⟨value, hvalue, hitems⟩ := Option.bind_eq_some_iff.1 hkeys
    obtain rfl := Json.Value.items?_eq_some_iff.1 hitems
    obtain rfl : status = 200 := not_not.1 hstatus
    exact .document hbody hvalue
  · rintro ⟨hbody, hkeys⟩
    simp [FetchOutcome.entries, hbody, hkeys, Json.Value.items?]

namespace Snapshot

/-- Among the entries of a document a usable one names the key id. -/
def Lists (entries : List Json.Value) (keyId : Text) : Prop :=
  ∃ entry ∈ entries, ∃ key, SigningKey.ofJson? entry = some key ∧ key.keyId = keyId

theorem keyId_of_get? {keys : Snapshot} {keyId : Text} {key : SigningKey}
    (h : keys.get? keyId = some key) : key.keyId = keyId := by
  simpa using List.find?_some h

theorem mem_of_mem_foldl_insert {found : List SigningKey} {keys : Snapshot} {key : SigningKey}
    (h : key ∈ found.foldl insert keys) : key ∈ keys ∨ key ∈ found := by
  induction found generalizing keys with
  | nil => exact Or.inl h
  | cons first rest ih =>
    rcases ih h with hkeys | hrest
    · rcases List.mem_append.1 hkeys with hold | hnew
      · exact Or.inl (List.mem_filter.1 hold).1
      · exact Or.inr (List.mem_cons.2 (Or.inl (List.mem_singleton.1 hnew)))
    · exact Or.inr (List.mem_cons_of_mem _ hrest)

/-- A key that a document gives stands in one of its entries. -/
theorem lists_of_get?_ofEntries {entries : List Json.Value} {keyId : Text} {key : SigningKey}
    (h : (ofEntries entries).get? keyId = some key) : Lists entries keyId := by
  have hmem : key ∈ ofEntries entries := List.mem_of_find?_eq_some h
  rcases mem_of_mem_foldl_insert hmem with hnil | hfound
  · cases hnil
  · obtain ⟨entry, hentry, hkey⟩ := List.mem_filterMap.1 hfound
    exact ⟨entry, hentry, key, hkey, keyId_of_get? h⟩

end Snapshot

namespace Cache

/-- Whether the end of a fetch is still to come or to be dealt with. -/
def Phase.isOpen (phase : Phase) : Bool := phase.isSent || phase.isEnded

namespace Flow

/-! ### What the cache knows -/

/-- The cache knows the last refresh, and it is busy only while a fetch is open. -/
structure Current (s : Flow) : Prop where
  snapshot_eq : s.cache.snapshot = .ofEntries ((s.refreshes.head?.map Refresh.entries).getD [])
  refreshedAt_eq : s.cache.refreshedAt = s.refreshes.head?.map fun last => (last.time : ℚ)
  exists_open : s.cache.inFlight = true → ∃ phase ∈ s.fetches, phase.isOpen = true

theorem current_initial (now : ℤ) : Current (initial now) :=
  ⟨rfl, rfl, fun h => absurd h Bool.false_ne_true⟩

/-- A fetch that ends is open still: its end is to be dealt with. -/
theorem exists_open_set_ended {fetches : List Phase} {fetch : Nat}
    (h : fetches[fetch]? = some .sent) (refreshed : Except RefreshFailure Unit) :
    ∃ phase ∈ fetches.set fetch (.ended refreshed), phase.isOpen = true := by
  obtain ⟨hfetch, -⟩ := List.getElem?_eq_some_iff.1 h
  exact ⟨_, List.mem_set hfetch _, rfl⟩

/-- One event keeps what the cache knows up to date. -/
theorem Step.current {cooldown : Number} {s s' : Flow} (h : Step cooldown s s')
    (hs : Current s) : Current s' := by
  cases h with
  | found | refused | joined | resumed | advanced =>
    exact ⟨hs.snapshot_eq, hs.refreshedAt_eq, hs.exists_open⟩
  | fetched =>
    refine ⟨hs.snapshot_eq, hs.refreshedAt_eq, fun _ => ?_⟩
    exact ⟨.sent, List.mem_append_right _ (List.mem_singleton_self _), rfl⟩
  | failed hsent =>
    exact ⟨hs.snapshot_eq, hs.refreshedAt_eq, fun _ => exists_open_set_ended hsent _⟩
  | refreshed hsent =>
    exact ⟨rfl, rfl, fun _ => exists_open_set_ended hsent _⟩
  | settled =>
    exact ⟨hs.snapshot_eq, hs.refreshedAt_eq, fun hflight => absurd hflight Bool.false_ne_true⟩

theorem run_cons {cooldown : Number} {s s' : Flow} {event : Event} {rest : List Event} :
    run cooldown s (event :: rest) = some s' ↔
      ∃ next, step cooldown s event = some next ∧ run cooldown next rest = some s' := by
  rw [run, List.foldlM_cons, Option.bind_eq_bind, Option.bind_eq_some_iff]
  exact Iff.rfl

theorem run_append {cooldown : Number} {s s' : Flow} {first rest : List Event} :
    run cooldown s (first ++ rest) = some s' ↔
      ∃ middle, run cooldown s first = some middle ∧ run cooldown middle rest = some s' := by
  rw [run, List.foldlM_append, Option.bind_eq_bind, Option.bind_eq_some_iff]
  exact Iff.rfl

theorem current_of_run {cooldown : Number} {s s' : Flow} {events : List Event} (hs : Current s)
    (h : run cooldown s events = some s') : Current s' := by
  induction events generalizing s with
  | nil =>
    obtain rfl : s = s' := Option.some_inj.1 h
    exact hs
  | cons event rest ih =>
    obtain ⟨next, hnext, hrest⟩ := run_cons.1 h
    exact ih ((Step.of_step_eq hnext).current hs) hrest

/-- Refreshes are only added. -/
theorem Step.refreshes_eq {cooldown : Number} {s s' : Flow} (h : Step cooldown s s') :
    ∃ newer, s'.refreshes = newer ++ s.refreshes := by
  cases h with
  | @refreshed fetch entries => exact ⟨[⟨s.now, entries⟩], rfl⟩
  | found | refused | joined | fetched | failed | settled | resumed | advanced =>
    exact ⟨[], rfl⟩

theorem refreshes_of_run {cooldown : Number} {s s' : Flow} {events : List Event}
    (h : run cooldown s events = some s') : ∃ newer, s'.refreshes = newer ++ s.refreshes := by
  induction events generalizing s with
  | nil =>
    obtain rfl : s = s' := Option.some_inj.1 h
    exact ⟨[], rfl⟩
  | cons event rest ih =>
    obtain ⟨next, hnext, hrest⟩ := run_cons.1 h
    obtain ⟨added, hadded⟩ := (Step.of_step_eq hnext).refreshes_eq
    obtain ⟨newer, hnewer⟩ := ih hrest
    exact ⟨newer ++ added, by rw [hnewer, hadded, List.append_assoc]⟩

/-- How a fetch ends: a document refreshes what the cache knows, and nothing else touches
it. -/
theorem step_finish {s : Flow} {fetch : Nat} (cooldown : Number)
    (hsent : s.fetches[fetch]? = some .sent) (outcome : FetchOutcome) :
    ∃ s', step cooldown s (.finish fetch outcome) = some s' ∧
      (∀ entries, outcome.Brings entries →
        s'.refreshes = ⟨s.now, entries⟩ :: s.refreshes ∧
          s'.cache = ⟨.ofEntries entries, some (s.now : ℚ), s.cache.inFlight⟩) ∧
      ((∀ entries, ¬ outcome.Brings entries) → s'.refreshes = s.refreshes ∧
        s'.cache = s.cache) := by
  unfold step
  simp only [hsent, arrive, withRefresh]
  rcases hentries : outcome.entries with failure | entries
  · refine ⟨_, rfl, ?_, fun _ => ⟨rfl, rfl⟩⟩
    intro entries hbrings
    rw [FetchOutcome.entries_eq_ok_iff.2 hbrings] at hentries
    cases hentries
  · refine ⟨_, rfl, ?_, ?_⟩
    · intro others hbrings
      rw [FetchOutcome.entries_eq_ok_iff.2 hbrings] at hentries
      obtain rfl : others = entries := Except.ok.inj hentries
      exact ⟨rfl, rfl⟩
    · intro hnone
      exact absurd (FetchOutcome.entries_eq_ok_iff.1 hentries) (hnone entries)

/-- Once the end of a fetch has been dealt with, the next look-up that misses and may refresh
begins another fetch. -/
theorem step_reset {s : Flow} {fetch : Nat} {refreshed : Except RefreshFailure Unit}
    (cooldown : Number) (hended : s.fetches[fetch]? = some (.ended refreshed)) :
    ∃ s', step cooldown s (.reset fetch) = some s' ∧
      s'.cache = { s.cache with inFlight := false } ∧
      ∀ keyId, s.cache.snapshot.get? keyId = none → s'.cache.mayRefresh cooldown s.now = true →
        ∃ s'', step cooldown s' (.start keyId) = some s'' ∧
          s''.fetches = s'.fetches ++ [.sent] := by
  refine ⟨{ s with
      cache := s.cache.clear
      fetches := s.fetches.set fetch (.settled refreshed) }, ?_, rfl, ?_⟩
  · simp only [step, hended]
  · intro keyId hkey hmay
    have hmiss : s.cache.clear.snapshot.get? keyId = none := hkey
    have hmay' : s.cache.clear.mayRefresh cooldown s.now = true := hmay
    have hidle : s.cache.clear.inFlight = false := rfl
    refine ⟨_, by simp only [step, start, hmiss, hmay', if_true]; rfl, ?_⟩
    simp [hidle]

/-! ### Where a look-up ends -/

/-- A look-up has not been answered: it waits, or has not begun. -/
def Pending (s : Flow) (lookup : Nat) : Prop :=
  ∀ keyId answer, s.lookups[lookup]? ≠ some (keyId, .answered answer)

/-- What has been answered stays so. -/
theorem Step.answered {cooldown : Number} {s s' : Flow} (h : Step cooldown s s') {lookup : Nat}
    {keyId : Text} {answer : Except KeyFault SigningKey}
    (hanswered : s.lookups[lookup]? = some (keyId, .answered answer)) :
    s'.lookups[lookup]? = some (keyId, .answered answer) := by
  obtain ⟨hlt, -⟩ := List.getElem?_eq_some_iff.1 hanswered
  cases h with
  | found | refused | joined | fetched => exact (List.getElem?_append_left hlt).trans hanswered
  | failed | refreshed | settled | advanced => exact hanswered
  | @resumed other fetch otherId refreshed hwaiting =>
    -- the look-up that goes on is another one, for it was waiting
    have hne : other ≠ lookup := by
      rintro rfl
      rw [hanswered] at hwaiting
      cases hwaiting
    exact (List.getElem?_set_ne hne).trans hanswered

theorem answered_of_run {cooldown : Number} {s s' : Flow} {events : List Event}
    (h : run cooldown s events = some s') {lookup : Nat} {keyId : Text}
    {answer : Except KeyFault SigningKey}
    (hanswered : s.lookups[lookup]? = some (keyId, .answered answer)) :
    s'.lookups[lookup]? = some (keyId, .answered answer) := by
  induction events generalizing s with
  | nil =>
    obtain rfl : s = s' := Option.some_inj.1 h
    exact hanswered
  | cons event rest ih =>
    obtain ⟨next, hnext, hrest⟩ := run_cons.1 h
    exact ih hrest ((Step.of_step_eq hnext).answered hanswered)

/-- An item of a list with one more is an item of the list, or that one. -/
theorem getElem?_append_singleton {α : Type} {items : List α} {last item : α} {i : Nat}
    (h : (items ++ [last])[i]? = some item) : items[i]? = some item ∨ item = last := by
  rcases lt_or_ge i items.length with hlt | hge
  · exact Or.inl ((List.getElem?_append_left hlt).symm.trans h)
  · rw [List.getElem?_append_right hge] at h
    obtain ⟨_, hlast⟩ := List.getElem?_eq_some_iff.1 h
    exact Or.inr (by simpa using hlast.symm)

/-- A look-up that one event answers with a key is served what the cache knows at that
event. -/
theorem Step.get?_of_served {cooldown : Number} {s s' : Flow} (h : Step cooldown s s')
    {lookup : Nat} {keyId : Text} {key : SigningKey} (hpending : s.Pending lookup)
    (hserved : s'.lookups[lookup]? = some (keyId, .answered (.ok key))) :
    s.cache.snapshot.get? keyId = some key := by
  cases h with
  | failed | refreshed | settled | advanced => exact absurd hserved (hpending _ _)
  | joined | fetched =>
    rcases getElem?_append_singleton hserved with hold | hnew
    · exact absurd hold (hpending _ _)
    · cases hnew
  | refused =>
    rcases getElem?_append_singleton hserved with hold | hnew
    · exact absurd hold (hpending _ _)
    · cases hnew
  | found hkey =>
    rcases getElem?_append_singleton hserved with hold | hnew
    · exact absurd hold (hpending _ _)
    · cases hnew
      exact hkey
  | @resumed other fetch otherId refreshed hwaiting hsettled =>
    by_cases hsame : other = lookup
    · subst hsame
      obtain ⟨hlt, -⟩ := List.getElem?_eq_some_iff.1 hwaiting
      rw [List.getElem?_set_self hlt, Option.some_inj, Prod.mk.injEq, Progress.answered.injEq]
        at hserved
      obtain ⟨rfl, hresume⟩ := hserved
      -- of the ways to go on only one ends with a key
      unfold resume at hresume
      rcases refreshed with failure | _
      · cases hresume
      · rcases hkey : s.cache.snapshot.get? otherId with _ | found <;>
          simp only [hkey] at hresume
        · cases hresume
        · rw [Except.ok.inj hresume]
    · rw [List.getElem?_set_ne hsame] at hserved
      exact absurd hserved (hpending _ _)

/-- A look-up that is answered in a run has been answered by one event of it. -/
theorem exists_end {cooldown : Number} {s s' : Flow} {events : List Event}
    (h : run cooldown s events = some s') {lookup : Nat} {keyId : Text} {key : SigningKey}
    (hpending : s.Pending lookup)
    (hserved : s'.lookups[lookup]? = some (keyId, .answered (.ok key))) :
    ∃ earlier event later s₁ s₂, events = earlier ++ event :: later ∧
      run cooldown s earlier = some s₁ ∧ step cooldown s₁ event = some s₂ ∧ s₁.Pending lookup ∧
      s₂.lookups[lookup]? = some (keyId, .answered (.ok key)) := by
  induction events generalizing s with
  | nil =>
    obtain rfl : s = s' := Option.some_inj.1 h
    exact absurd hserved (hpending _ _)
  | cons event rest ih =>
    obtain ⟨next, hnext, hrest⟩ := run_cons.1 h
    by_cases hstill : next.Pending lookup
    · obtain ⟨earlier, last, later, s₁, s₂, rfl, hearlier, hlast, hlookup, hkey⟩ :=
        ih hrest hstill
      exact ⟨event :: earlier, last, later, s₁, s₂, rfl,
        run_cons.2 ⟨next, hnext, hearlier⟩, hlast, hlookup, hkey⟩
    · -- this is the event, and its answer is the one that stays
      unfold Pending at hstill
      push Not at hstill
      obtain ⟨otherId, answer, hanswered⟩ := hstill
      have hstays := answered_of_run hrest hanswered
      rw [hserved] at hstays
      rw [← hstays] at hanswered
      exact ⟨[], event, rest, s, next, rfl, rfl, hnext, hpending, hanswered⟩

/-- A look-up that begins where the last document does not list its key is served only what a
newer document lists. -/
theorem lists_of_served {cooldown : Number} {s s' : Flow} {events : List Event}
    (hs : Current s) (h : run cooldown s events = some s') {last : Refresh}
    (hlast : s.refreshes.head? = some last) {keyId : Text}
    (hunlisted : ¬ Snapshot.Lists last.entries keyId) {lookup : Nat} {key : SigningKey}
    (hpending : s.Pending lookup)
    (hserved : s'.lookups[lookup]? = some (keyId, .answered (.ok key))) :
    ∃ newer, s'.refreshes = newer ++ s.refreshes ∧
      ∃ refresh ∈ newer, Snapshot.Lists refresh.entries keyId := by
  obtain ⟨earlier, event, later, s₁, s₂, rfl, hearlier, hevent, hlookup, hkey⟩ :=
    exists_end h hpending hserved
  have hs₁ := current_of_run hs hearlier
  have hget := (Step.of_step_eq hevent).get?_of_served hlookup hkey
  rw [hs₁.snapshot_eq] at hget
  have hlisted := Snapshot.lists_of_get?_ofEntries hget
  -- the document known at the end of the look-up is newer than the one known before its start
  obtain ⟨between, hbetween⟩ := refreshes_of_run hearlier
  rcases between with _ | ⟨refresh, others⟩
  · rw [hbetween, List.nil_append, hlast, Option.map_some, Option.getD_some] at hlisted
    exact absurd hlisted hunlisted
  · rw [hbetween, List.cons_append, List.head?_cons, Option.map_some, Option.getD_some]
      at hlisted
    obtain ⟨middle, hmiddle, hrest⟩ := run_append.1 h
    obtain rfl : s₁ = middle := Option.some_inj.1 (hearlier.symm.trans hmiddle)
    obtain ⟨newer, hnewer⟩ := refreshes_of_run hrest
    refine ⟨newer ++ refresh :: others, ?_, refresh, by simp, hlisted⟩
    rw [hnewer, hbetween, List.append_assoc]

/-! ### Every run -/

/-- Whatever look-ups ask for and however fetches end, the cache knows the last document that
came and when it came, and nothing before the first. A fetch that ends otherwise changes
nothing of that, and once its end has been dealt with the next one may begin: the cache is busy
only while a fetch is open. A look-up that is served gets the key of its own key id, as the
cache knew it when the look-up ended. So a key that the last document does not list is not
served to a look-up that begins later, unless a newer document lists it. -/
theorem snapshot_follows_documents {cooldown : Number} {now : ℤ} {events : List Event}
    {s : Flow} (h : run cooldown (initial now) events = some s) :
    (s.refreshes = [] → s.cache.snapshot = [] ∧ s.cache.refreshedAt = none) ∧
      (∀ last older, s.refreshes = last :: older →
        s.cache.snapshot = .ofEntries last.entries ∧
          s.cache.refreshedAt = some (last.time : ℚ)) ∧
      (∀ fetch outcome, s.fetches[fetch]? = some .sent →
        ∃ s', step cooldown s (.finish fetch outcome) = some s' ∧
          (∀ entries, outcome.Brings entries →
            s'.refreshes = ⟨s.now, entries⟩ :: s.refreshes ∧
              s'.cache = ⟨.ofEntries entries, some (s.now : ℚ), s.cache.inFlight⟩) ∧
          ((∀ entries, ¬ outcome.Brings entries) →
            s'.refreshes = s.refreshes ∧ s'.cache = s.cache)) ∧
      (∀ fetch refreshed, s.fetches[fetch]? = some (.ended refreshed) →
        ∃ s', step cooldown s (.reset fetch) = some s' ∧
          s'.cache = { s.cache with inFlight := false } ∧
          ∀ keyId, s.cache.snapshot.get? keyId = none →
            s'.cache.mayRefresh cooldown s.now = true →
              ∃ s'', step cooldown s' (.start keyId) = some s'' ∧
                s''.fetches = s'.fetches ++ [.sent]) ∧
      (s.cache.inFlight = true → ∃ phase ∈ s.fetches, phase.isOpen = true) ∧
      (∀ lookup keyId key, s.lookups[lookup]? = some (keyId, .answered (.ok key)) →
        key.keyId = keyId ∧
          ∃ earlier event later s₁ s₂, events = earlier ++ event :: later ∧
            run cooldown (initial now) earlier = some s₁ ∧ step cooldown s₁ event = some s₂ ∧
            s₁.Pending lookup ∧ s₂.lookups[lookup]? = some (keyId, .answered (.ok key)) ∧
            s₁.cache.snapshot.get? keyId = some key) ∧
      ∀ earlier later s₁ last keyId, events = earlier ++ later →
        run cooldown (initial now) earlier = some s₁ → s₁.refreshes.head? = some last →
        ¬ Snapshot.Lists last.entries keyId →
        ∀ lookup key, s₁.lookups.length ≤ lookup →
          s.lookups[lookup]? = some (keyId, .answered (.ok key)) →
            ∃ newer, s.refreshes = newer ++ s₁.refreshes ∧
              ∃ refresh ∈ newer, Snapshot.Lists refresh.entries keyId := by
  have hs := current_of_run (current_initial now) h
  refine ⟨?_, ?_, fun fetch outcome hsent => step_finish cooldown hsent outcome,
    fun fetch refreshed hended => step_reset cooldown hended, hs.exists_open, ?_, ?_⟩
  · intro hnone
    have hsnapshot := hs.snapshot_eq
    have htime := hs.refreshedAt_eq
    rw [hnone] at hsnapshot htime
    exact ⟨hsnapshot, htime⟩
  · intro last older hlast
    have hsnapshot := hs.snapshot_eq
    have htime := hs.refreshedAt_eq
    rw [hlast] at hsnapshot htime
    exact ⟨hsnapshot, htime⟩
  · intro lookup keyId key hserved
    -- nobody had asked at first, so some event gave the answer, out of what the snapshot
    -- held then
    have hpending : (initial now).Pending lookup := fun _ _ => nofun
    obtain ⟨earlier, event, later, s₁, s₂, hevents, hearlier, hevent, hlookup, hkey⟩ :=
      exists_end h hpending hserved
    have hget := (Step.of_step_eq hevent).get?_of_served hlookup hkey
    exact ⟨Snapshot.keyId_of_get? hget, earlier, event, later, s₁, s₂, hevents,
      hearlier, hevent, hlookup, hkey, hget⟩
  · intro earlier later s₁ last keyId hevents hearlier hlast hunlisted lookup key hlate hserved
    subst hevents
    obtain ⟨middle, hmiddle, hrest⟩ := run_append.1 h
    obtain rfl : s₁ = middle := Option.some_inj.1 (hearlier.symm.trans hmiddle)
    -- the look-up begins among the later events, so it had no answer then
    have hpending : s₁.Pending lookup := by
      intro otherId answer hanswered
      rw [List.getElem?_eq_none hlate] at hanswered
      cases hanswered
    exact lists_of_served (current_of_run (current_initial now) hearlier) hrest hlast hunlisted
      hpending hserved

/-- A document that lists one key. -/
def oneKeyDocument (keyId : String) : List UInt8 :=
  Utf8.encode (Text.ofString ("\x7b\"keys\":[\x7b\"kty\":\"RSA\",\"kid\":\"" ++ keyId ++
    "\",\"n\":\"AQAB\",\"e\":\"AQAB\"\x7d]\x7d"))

/-- The key of that document. -/
def oneKey (keyId : String) : SigningKey :=
  ⟨keyId, Base64.decode (Text.ofString "AQAB"), Base64.decode (Text.ofString "AQAB")⟩

/-- A run in which the issuer rotates from one key to another. The first fetch fails, the
second brings the old key, and the third the new one. The old key is asked for once more after
that. -/
def rotatingRun : List Event :=
  [.start "old", .finish 0 (.rejected "down"), .reset 0, .resume 0,
    .start "old", .finish 1 (.answered 200 (oneKeyDocument "old")), .reset 1, .resume 1,
    .advance 6, .start "new", .finish 2 (.answered 200 (oneKeyDocument "new")), .reset 2,
    .resume 2, .start "old"]

theorem snapshot_follows_documents_rotatingRun :
    ∃ s : Flow, run (.finite 5) (initial 0) rotatingRun = some s ∧
      s.refreshes.map Refresh.time = [6, 0] ∧ s.cache.refreshedAt = some 6 ∧
      s.lookups.map Prod.snd =
        [.answered (.error (.refresh (.unreachable "down"))), .answered (.ok (oneKey "old")),
          .answered (.ok (oneKey "new")), .answered (.error (.notFound "old"))] ∧
      ∀ (lookup : ℕ) (keyId : Text) (key : SigningKey),
        s.lookups[lookup]? = some (keyId, .answered (.ok key)) → key.keyId = keyId := by
  obtain ⟨s, hs⟩ := Option.isSome_iff_exists.1
    (show (run (.finite 5) (initial 0) rotatingRun).isSome = true by decide +kernel)
  have hfacts : (run (.finite 5) (initial 0) rotatingRun).map
      (fun s => (s.refreshes.map Refresh.time, s.lookups.map Prod.snd)) =
        some ([6, 0],
          [.answered (.error (.refresh (.unreachable "down"))), .answered (.ok (oneKey "old")),
            .answered (.ok (oneKey "new")), .answered (.error (.notFound "old"))]) := by
    decide +kernel
  rw [hs, Option.map_some, Option.some_inj, Prod.mk.injEq] at hfacts
  obtain ⟨htimes, hanswers⟩ := hfacts
  obtain ⟨-, hlast, -, -, -, hserved, -⟩ := snapshot_follows_documents hs
  obtain ⟨last, older, hrefreshes⟩ : ∃ last older, s.refreshes = last :: older :=
    List.exists_cons_of_ne_nil fun hnil => by simp [hnil] at htimes
  have hsix : last.time = 6 := by
    rw [hrefreshes] at htimes
    exact (List.cons.inj htimes).1
  refine ⟨s, hs, htimes, ?_, hanswers, fun lookup keyId key h =>
    (hserved lookup keyId key h).1⟩
  rw [(hlast last older hrefreshes).2, hsix]
  rfl

end Flow

end Cache

end TodoServer
