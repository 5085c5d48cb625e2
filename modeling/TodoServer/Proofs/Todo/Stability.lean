/-
Listings while todos change.

Between the pages of a traversal anything may happen to the todos, save that the user deletes
the todo that the cursor names. What carries the traversal through is that a todo keeps its
number whatever is done to it: the todos that a page shows are those asked for whose numbers
lie below the cursor's and not below the next one's, so the pages take up ranges of numbers one
under the other. What is there all along is shown in the range that its number is in, and no
range is taken up twice. That a todo leaves the status asked for takes it off the pages and
leaves its number where it was, so it is as good a cursor as before.

* `Walk` — pages fetched in the course of a run;
* `Memory.Shows` — a page is the todos of a range of numbers;
* `Memory.Numbered.find_answer` — a todo is found after any call but its deletion;
* `Walk.Sound` — what holds in the course of a traversal, kept by events and by pages;
* `listing_stable` — no todo twice, none left out that was there all along, none that is new.
-/
import TodoServer.Proofs.Todo.Deletion
import TodoServer.Proofs.Todo.Traversal

namespace TodoServer

open Store

/-! ### Traversals -/

/-- A page of a traversal, and the todos in memory when it was requested. -/
structure Visit where
  memory : Memory
  page : Page Todo

/-- The cursor that the page after some pages is requested with. -/
def cursorAfter (visits : List Visit) : Datum :=
  (visits.getLast?.map fun visit => visit.page.next).getD .absent

/-- The ids of the todos on some pages. -/
def shown (visits : List Visit) : List Datum :=
  visits.flatMap fun visit => visit.page.items.map Todo.id

/-- A user fetches page after page in the course of a run. Nobody deletes the todo of the user
that the cursor names as long as another page is to come. -/
inductive Walk (u status : Datum) (start : Run) : List Visit → Run → Prop
  | start : Walk u status start [] start
  | event {visits : List Visit} {r : Run} (event : Run.Event)
    (h : Walk u status start visits r) (hspares : cursorAfter visits ≠ .absent →
      r.call? event ≠ some (.delete u (cursorAfter visits))) :
    Walk u status start visits (r.next event)
  | visit {visits : List Visit} {r : Run} {size : Datum} {page : Page Todo}
    (h : Walk u status start visits r) (hopen : visits ≠ [] → cursorAfter visits ≠ .absent)
    (hpage : r.memory.ListsPage u status size (cursorAfter visits) page) :
    Walk u status start (visits ++ [⟨r.memory, page⟩]) r

variable {visits : List Visit} {v : Visit} {u status size cursor : Datum} {k n : Nat}
  {page : Page Todo}

theorem cursorAfter_concat : cursorAfter (visits ++ [v]) = v.page.next := by
  rw [cursorAfter, List.getLast?_concat]
  rfl

theorem shown_concat :
    shown (visits ++ [v]) = shown visits ++ v.page.items.map Todo.id := by
  rw [shown, List.flatMap_append, List.flatMap_singleton]
  rfl

theorem ne_nil_of_mem_shown {id : Datum} (h : id ∈ shown visits) : visits ≠ [] := by
  rintro rfl
  exact absurd h List.not_mem_nil

/-! ### Ranges of numbers -/

/-- A number lies below the cursor's. Where there is no cursor, every number does. -/
def Below (cursor : Datum) (k : Nat) : Prop := ∀ n, cursor = .text (Uuid.ofNumber n) → k < n

/-- A number lies at the cursor's or above it. -/
def Reached (cursor : Datum) (k : Nat) : Prop := ∀ n, cursor = .text (Uuid.ofNumber n) → n ≤ k

theorem reached_of_not_below (h : ¬Below cursor k) : Reached cursor k := by
  intro n hn
  by_contra hlt
  refine h fun n' hn' => ?_
  have hsame : n = n' := Datum.ofNumber_inj.1 (hn.symm.trans hn')
  omega

theorem reached_ofNumber : Reached (.text (Uuid.ofNumber n)) k ↔ n ≤ k := by
  constructor
  · intro h
    exact h n rfl
  · intro h n' hn'
    rw [← Datum.ofNumber_inj.1 hn']
    exact h

namespace Memory

variable {m : Memory} {todo : Todo}

/-- Among the todos that calls lead to, the newer is the one with the greater number. -/
theorem Reachable.newer_iff (hm : m.Reachable) (hcount : m.created < 10 ^ 12) {a b : Todo}
    (ha : a ∈ m.todos) (hb : b ∈ m.todos) (hn : a.HasNumber n) (hk : b.HasNumber k) :
    a.Newer b ↔ k < n := by
  obtain ⟨n', hn', -, hkeyed⟩ := hm.exists_keyed hcount ha
  obtain ⟨k', hk', -, hkeyed'⟩ := hm.exists_keyed hcount hb
  obtain rfl := hn.unique hn'
  obtain rfl := hk.unique hk'
  rw [Todo.newer_iff_of_keyed hkeyed hkeyed']
  constructor
  · rintro (htime | ⟨htime, hid⟩)
    · omega
    · have hsame : k = n := by omega
      rw [hsame] at hid
      exact absurd hid (by rw [Text.lt_iff_codes_lt]; exact lt_irrefl _)
  · intro hlt
    left
    omega

/-- A page is the todos asked for whose numbers lie below its cursor and reach the next one. -/
structure Shows (m : Memory) (u status cursor : Datum) (page : Page Todo) : Prop where
  sorted : page.items.Pairwise Todo.Newer
  mem_iff : ∀ todo, todo ∈ page.items ↔ (todo ∈ m.todos ∧ todo.ListedFor u status) ∧
    ∃ k, todo.HasNumber k ∧ Below cursor k ∧ Reached page.next k
  next : page.next = .absent ∨ ∃ last ∈ page.items, page.next = last.id

theorem Reachable.shows_first (hm : m.Reachable) (hcount : m.created < 10 ^ 12)
    {todos : List Todo} {size : Nat} (hpos : 0 < size) (hsorted : todos.Pairwise Todo.Newer)
    (hmem : ∀ todo, todo ∈ todos ↔ (todo ∈ m.todos ∧ todo.ListedFor u status) ∧
      ∃ k, todo.HasNumber k ∧ Below cursor k) :
    m.Shows u status cursor (Page.first size todos) := by
  by_cases hle : todos.length ≤ size
  · rw [Page.first_of_length_le hle]
    have hall : ∀ k, Reached .absent k := fun k n hn => by cases hn
    refine ⟨hsorted, ?_, Or.inl rfl⟩
    intro todo
    rw [hmem]
    refine and_congr_right fun _ => exists_congr fun k => and_congr_right fun _ => ?_
    rw [and_iff_left (hall k)]
  · obtain ⟨before, last, after, rfl, -, -, hfirst⟩ := Page.first_of_lt hpos (not_le.1 hle)
    rw [hfirst]
    have hstored : ∀ todo ∈ before ++ last :: after, todo ∈ m.todos :=
      fun todo htodo => ((hmem todo).1 htodo).1.1
    have hlast : last ∈ before ++ last :: after := by simp
    obtain ⟨-, n, hn, -⟩ := (hmem last).1 hlast
    have hnext : ∀ k, Reached last.id k ↔ n ≤ k := by
      intro k
      rw [show last.id = .text (Uuid.ofNumber n) from hn]
      exact reached_ofNumber
    obtain ⟨hbefore, hrest, hcross⟩ := List.pairwise_append.1 hsorted
    obtain ⟨hafter, -⟩ := List.pairwise_cons.1 hrest
    refine ⟨?_, ?_, Or.inr ⟨last, by simp, rfl⟩⟩
    · refine List.pairwise_append.2 ⟨hbefore, List.pairwise_singleton _ _, ?_⟩
      intro a ha b hb
      rw [List.mem_singleton.1 hb]
      exact hcross a ha last List.mem_cons_self
    · -- of the listing, the page has what does not come after its last todo
      intro todo
      constructor
      · intro htodo
        have hlisted : todo ∈ before ++ last :: after := by
          rcases List.mem_append.1 htodo with htodo | htodo
          · exact List.mem_append_left _ htodo
          · rwa [List.mem_singleton.1 htodo]
        obtain ⟨hasked, k, hk, hbelow⟩ := (hmem todo).1 hlisted
        refine ⟨hasked, k, hk, hbelow, (hnext k).2 ?_⟩
        rcases List.mem_append.1 htodo with htodo | htodo
        · have hnewer := hcross todo htodo last List.mem_cons_self
          exact ((hm.newer_iff hcount hasked.1 (hstored _ hlast) hk hn).1 hnewer).le
        · rw [List.mem_singleton.1 htodo] at hk
          exact (hn.unique hk).le
      · rintro ⟨hasked, k, hk, hbelow, hreached⟩
        have hle := (hnext k).1 hreached
        rcases List.mem_append.1 ((hmem todo).2 ⟨hasked, k, hk, hbelow⟩) with htodo | htodo
        · exact List.mem_append_left _ htodo
        · rcases List.mem_cons.1 htodo with rfl | htodo
          · simp
          · have hnewer := hafter todo htodo
            have hlt := (hm.newer_iff hcount (hstored _ hlast) hasked.1 hn hk).1 hnewer
            omega

theorem Reachable.shows (hm : m.Reachable) (hcount : m.created < 10 ^ 12)
    (hcursor : cursor = .absent ∨ ∃ anchor, m.find u cursor = some anchor)
    (hpage : m.ListsPage u status size cursor page) : m.Shows u status cursor page := by
  have hlistable := hm.listable hcount
  obtain ⟨todos, hsorted, hmem, hfirst⟩ :=
    hlistable.exists_listsPage u status hpage.hasWords hcursor
  rw [hpage.unique hfirst]
  refine hm.shows_first hcount (pageSize_bounds size).1 hsorted ?_
  intro todo
  rw [hmem]
  refine and_congr_right fun hasked => ?_
  obtain ⟨k, hk, -⟩ := hm.numbered.counted todo hasked.1
  constructor
  · intro hnewer
    refine ⟨k, hk, fun n hn => ?_⟩
    rcases hcursor with rfl | ⟨anchor, hfind⟩
    · cases hn
    · obtain ⟨hanchor, hid, -⟩ := hm.numbered.find_eq_some_iff.1 hfind
      exact (hm.newer_iff hcount hanchor hasked.1 (hid.trans hn) hk).1 (hnewer anchor hfind)
  · rintro ⟨k, hk, hbelow⟩ anchor hfind
    obtain ⟨hanchor, hid, -⟩ := hm.numbered.find_eq_some_iff.1 hfind
    obtain ⟨n, hn, -⟩ := hm.numbered.counted anchor hanchor
    exact (hm.newer_iff hcount hanchor hasked.1 hn hk).2 (hbelow n (hid.symm.trans hn))

/-- A todo that is found is found after any call but its deletion. -/
theorem Numbered.find_answer (hm : m.Numbered) {id : Datum} {c : Call}
    (hfind : m.find u id = some todo) (hc : c ≠ .delete u id) :
    ∃ new, (Memory.answer c m).2.find u id = some new := by
  obtain ⟨hmem, hid, howner⟩ := hm.find_eq_some_iff.1 hfind
  have hafter := hm.answer c
  -- it is enough that a todo of the id and the owner is there
  have hfound : ∀ new ∈ (Memory.answer c m).2.todos, new.id = id → new.userId.same u = true →
      ∃ new, (Memory.answer c m).2.find u id = some new :=
    fun new hnew hid howner => ⟨new, hafter.find_eq_some_iff.2 ⟨hnew, hid, howner⟩⟩
  cases c with
  | create new => exact hfound todo ((mem_create_iff new).2 (Or.inl hmem)) hid howner
  | find u' id' => exact ⟨todo, hfind⟩
  | list params => exact ⟨todo, hfind⟩
  | update new =>
    rcases hold : m.find new.userId new.id with _ | old
    · refine ⟨todo, ?_⟩
      show (m.update new).2.find u id = some todo
      rw [Memory.update, hold]
      exact hfind
    · by_cases hsame : todo.id = new.id
      · obtain ⟨hstored, hid', howner'⟩ := hm.find_eq_some_iff.1 hold
        have heq : old = todo := hm.eq_of_id_eq hstored hmem (hid'.trans hsame.symm)
        have huser : new.userId = todo.userId := by
          rw [← heq]
          exact (Datum.eq_of_same howner').symm
        refine hfound _ ((hm.mem_update_iff hold).2 (Or.inr rfl)) (hsame.symm.trans hid) ?_
        show new.userId.same u = true
        rw [huser]
        exact howner
      · exact hfound todo ((hm.mem_update_iff hold).2 (Or.inl ⟨hmem, hsame⟩)) hid howner
  | delete u' id' =>
    rcases hold : m.find u' id' with _ | old
    · refine ⟨todo, ?_⟩
      show (m.delete u' id').2.find u id = some todo
      rw [Memory.delete, hold]
      exact hfind
    · obtain ⟨hstored, hid', howner'⟩ := hm.find_eq_some_iff.1 hold
      have hne : todo.id ≠ id' := by
        intro hsame
        have heq : old = todo := hm.eq_of_id_eq hstored hmem (hid'.trans hsame.symm)
        have huser : u' = u := by
          rw [← Datum.eq_of_same howner', heq]
          exact Datum.eq_of_same howner
        exact hc (by rw [huser, ← hsame, hid])
      exact hfound todo ((hm.mem_delete_iff hold).2 ⟨hmem, hne⟩) hid howner

end Memory

/-! ### In the course of a traversal -/

theorem Run.created_le_next (r : Run) (event : Run.Event) :
    r.memory.created ≤ (r.next event).memory.created := by
  rw [memory_next]
  rcases r.call? event with _ | c
  · exact le_rfl
  · show _ ≤ (Memory.answer c r.memory).2.created
    rw [Memory.created_answer]
    exact Nat.le_add_right _ _

namespace Walk

variable {start r : Run}

/-- What holds in the course of a traversal: the cursor's todo is there, each todo shown was
there before the first page was, and those shown are the ones from the cursor's number up. -/
structure Sound (u status : Datum) (start : Run) (visits : List Visit) (r : Run) : Prop where
  reachable : r.memory.Reachable
  cursor : cursorAfter visits = .absent ∨ cursorAfter visits ∈ shown visits ∧
    ∃ anchor, r.memory.find u (cursorAfter visits) = some anchor
  nodup : (shown visits).Nodup
  reached : ∀ id ∈ shown visits, ∃ k, id = .text (Uuid.ofNumber k) ∧
    Reached (cursorAfter visits) k
  complete : visits ≠ [] → ∀ k, Reached (cursorAfter visits) k →
    (∀ visit ∈ visits, ∃ todo ∈ visit.memory.todos, todo.HasNumber k ∧
      todo.ListedFor u status) →
    .text (Uuid.ofNumber k) ∈ shown visits
  old : ∀ first rest, visits = first :: rest → first.memory.Reachable ∧
    (∀ id ∈ shown visits, ∃ todo ∈ first.memory.todos, todo.id = id) ∧
    ∀ id, first.memory.Spent id → r.memory.Spent id

namespace Sound

theorem event (h : Sound u status start visits r) (event : Run.Event)
    (hspares : cursorAfter visits ≠ .absent →
      r.call? event ≠ some (.delete u (cursorAfter visits))) :
    Sound u status start visits (r.next event) := by
  have hmemory := r.memory_next event
  have hnumbered := h.reachable.numbered
  refine ⟨Run.reachable_next h.reachable event, ?_, h.nodup, h.reached, h.complete, ?_⟩
  · by_cases hopen : cursorAfter visits = .absent
    · exact Or.inl hopen
    · obtain ⟨hshown, anchor, hfind⟩ := h.cursor.resolve_left hopen
      refine Or.inr ⟨hshown, ?_⟩
      rw [hmemory]
      rcases hcall : r.call? event with _ | c
      · exact ⟨anchor, hfind⟩
      · have hc : c ≠ .delete u (cursorAfter visits) := by
          rintro rfl
          exact hspares hopen hcall
        exact hnumbered.find_answer hfind hc
  · intro first rest hvisits
    obtain ⟨hfirst, hitems, hspent⟩ := h.old first rest hvisits
    refine ⟨hfirst, hitems, fun id hid => ?_⟩
    rw [hmemory]
    rcases r.call? event with _ | c
    · exact hspent id hid
    · exact (hspent id hid).answer hnumbered c

theorem exists_cursor (h : Sound u status start visits r)
    (hopen : cursorAfter visits ≠ .absent) :
    ∃ n, cursorAfter visits = .text (Uuid.ofNumber n) := by
  obtain ⟨hshown, -⟩ := h.cursor.resolve_left hopen
  obtain ⟨n, hn, -⟩ := h.reached _ hshown
  exact ⟨n, hn⟩

/-- A todo whose number lies below the cursor's was there when the first page was requested. -/
theorem exists_old (h : Sound u status start visits r) (hopen : cursorAfter visits ≠ .absent)
    {first : Visit} {rest : List Visit} (hvisits : visits = first :: rest) {todo : Todo}
    (htodo : todo ∈ r.memory.todos) (hk : todo.HasNumber k)
    (hbelow : Below (cursorAfter visits) k) :
    ∃ old ∈ first.memory.todos, old.id = todo.id := by
  obtain ⟨hfirst, hshown, hspent⟩ := h.old first rest hvisits
  obtain ⟨hcursor, -⟩ := h.cursor.resolve_left hopen
  obtain ⟨old, hold, hid⟩ := hshown _ hcursor
  obtain ⟨n, hn, hle⟩ := hfirst.numbered.counted old hold
  have hlt := hbelow n (hid.symm.trans hn)
  -- its number was given out by then, so it would have been spent
  by_contra hnone
  push Not at hnone
  have hgone : first.memory.Spent todo.id := ⟨⟨k, hk, by omega⟩, hnone⟩
  exact (hspent _ hgone).2 todo htodo rfl

theorem exists_stored (hshows : r.memory.Shows u status cursor page) {id : Datum}
    (hid : id ∈ page.items.map Todo.id) :
    ∃ todo ∈ r.memory.todos, todo.id = id ∧
      ∃ k, id = .text (Uuid.ofNumber k) ∧ Below cursor k ∧ Reached page.next k := by
  obtain ⟨todo, htodo, rfl⟩ := List.mem_map.1 hid
  obtain ⟨⟨hstored, -⟩, hk⟩ := (hshows.mem_iff todo).1 htodo
  exact ⟨todo, hstored, rfl, hk⟩

/-- What has reached the cursor has reached the next one. -/
theorem reached_next (h : Sound u status start visits r)
    (hshows : r.memory.Shows u status (cursorAfter visits) page)
    (hopen : cursorAfter visits ≠ .absent) (hreached : Reached (cursorAfter visits) k) :
    Reached page.next k := by
  intro n hn
  obtain ⟨c, hc⟩ := h.exists_cursor hopen
  rcases hshows.next with habsent | ⟨last, hlast, hid⟩
  · cases habsent.symm.trans hn
  · obtain ⟨-, n', hn', hbelow, -⟩ := (hshows.mem_iff last).1 hlast
    obtain rfl := hn'.unique (hid.symm.trans hn)
    have hlt := hbelow c hc
    have hle := hreached c hc
    omega

/-- A page shows no todo twice, and none that has been shown. -/
theorem nodup_visit (h : Sound u status start visits r)
    (hshows : r.memory.Shows u status (cursorAfter visits) page)
    (hopen : visits ≠ [] → cursorAfter visits ≠ .absent) :
    (shown visits ++ page.items.map Todo.id).Nodup := by
  refine List.Nodup.append h.nodup ?_ ?_
  · refine List.pairwise_map.2 (hshows.sorted.imp_of_mem fun {a b} ha hb hnewer hid => ?_)
    have hstored : ∀ todo ∈ page.items, todo ∈ r.memory.todos :=
      fun todo htodo => ((hshows.mem_iff todo).1 htodo).1.1
    exact hnewer.ne (h.reachable.numbered.eq_of_id_eq (hstored a ha) (hstored b hb) hid)
  · -- what has been shown has reached the cursor, and what the page shows lies below it
    intro id hid hitem
    obtain ⟨-, -, -, k, rfl, hbelow, -⟩ := exists_stored hshows hitem
    obtain ⟨k', hk', hreached⟩ := h.reached _ hid
    obtain rfl := Datum.ofNumber_inj.1 hk'
    obtain ⟨c, hc⟩ := h.exists_cursor (hopen (ne_nil_of_mem_shown hid))
    have hlt := hbelow c hc
    have hle := hreached c hc
    omega

theorem reached_visit (h : Sound u status start visits r)
    (hshows : r.memory.Shows u status (cursorAfter visits) page)
    (hopen : visits ≠ [] → cursorAfter visits ≠ .absent) {id : Datum}
    (hid : id ∈ shown visits ++ page.items.map Todo.id) :
    ∃ k, id = .text (Uuid.ofNumber k) ∧ Reached page.next k := by
  rcases List.mem_append.1 hid with hid | hid
  · obtain ⟨k, hk, hreached⟩ := h.reached id hid
    exact ⟨k, hk, h.reached_next hshows (hopen (ne_nil_of_mem_shown hid)) hreached⟩
  · obtain ⟨-, -, -, k, hk, -, hreached⟩ := exists_stored hshows hid
    exact ⟨k, hk, hreached⟩

/-- A number that has reached the next cursor lies on the page, or has reached the cursor
before. -/
theorem complete_visit (h : Sound u status start visits r)
    (hshows : r.memory.Shows u status (cursorAfter visits) page)
    (hreached : Reached page.next k)
    (hall : ∀ visit ∈ visits ++ [⟨r.memory, page⟩],
      ∃ todo ∈ visit.memory.todos, todo.HasNumber k ∧ todo.ListedFor u status) :
    .text (Uuid.ofNumber k) ∈ shown visits ++ page.items.map Todo.id := by
  by_cases hbelow : Below (cursorAfter visits) k
  · obtain ⟨todo, hstored, hk, hlisted⟩ := hall ⟨r.memory, page⟩ (by simp)
    have hitem : todo ∈ page.items :=
      (hshows.mem_iff todo).2 ⟨⟨hstored, hlisted⟩, k, hk, hbelow, hreached⟩
    rw [← show todo.id = .text (Uuid.ofNumber k) from hk]
    exact List.mem_append_right _ (List.mem_map_of_mem hitem)
  · have hne : visits ≠ [] := by
      rintro rfl
      exact hbelow fun n hn => by cases hn
    refine List.mem_append_left _ (h.complete hne k (reached_of_not_below hbelow) ?_)
    exact fun v hv => hall v (List.mem_append_left _ hv)

/-- What a later page shows was there when the first page was requested. -/
theorem old_visit (h : Sound u status start visits r)
    (hshows : r.memory.Shows u status (cursorAfter visits) page)
    (hopen : visits ≠ [] → cursorAfter visits ≠ .absent) {first : Visit} {rest : List Visit}
    (hvisits : visits ++ [⟨r.memory, page⟩] = first :: rest) :
    first.memory.Reachable ∧
      (∀ id ∈ shown visits ++ page.items.map Todo.id, ∃ todo ∈ first.memory.todos,
        todo.id = id) ∧
      ∀ id, first.memory.Spent id → r.memory.Spent id := by
  cases visits with
  | nil =>
    obtain ⟨rfl, -⟩ := List.cons.inj hvisits
    refine ⟨h.reachable, fun id hid => ?_, fun id hid => hid⟩
    obtain ⟨todo, hstored, hsame, -⟩ := exists_stored hshows hid
    exact ⟨todo, hstored, hsame⟩
  | cons first' rest' =>
    obtain ⟨rfl, -⟩ := List.cons.inj hvisits
    obtain ⟨hfirst, hshown, hspent⟩ := h.old _ _ rfl
    refine ⟨hfirst, fun id hid => ?_, hspent⟩
    rcases List.mem_append.1 hid with hid | hid
    · exact hshown id hid
    · obtain ⟨todo, hmem, rfl, k, hk, hbelow, -⟩ := exists_stored hshows hid
      exact h.exists_old (hopen (List.cons_ne_nil _ _)) rfl hmem hk hbelow

theorem visit (h : Sound u status start visits r) (hcount : r.memory.created < 10 ^ 12)
    (hopen : visits ≠ [] → cursorAfter visits ≠ .absent)
    (hpage : r.memory.ListsPage u status size (cursorAfter visits) page) :
    Sound u status start (visits ++ [⟨r.memory, page⟩]) r := by
  have hshows := h.reachable.shows hcount (h.cursor.imp_right And.right) hpage
  have hcursor : page.next = .absent ∨ page.next ∈ shown visits ++ page.items.map Todo.id ∧
      ∃ anchor, r.memory.find u page.next = some anchor := by
    rcases hshows.next with habsent | ⟨last, hlast, hid⟩
    · exact Or.inl habsent
    · obtain ⟨⟨hstored, howner, -⟩, -⟩ := (hshows.mem_iff last).1 hlast
      rw [hid]
      refine Or.inr ⟨List.mem_append_right _ (List.mem_map_of_mem hlast), last, ?_⟩
      exact h.reachable.numbered.find_eq_some_iff.2 ⟨hstored, rfl, howner⟩
  refine ⟨h.reachable, ?_, ?_, ?_, ?_, ?_⟩
  · rw [cursorAfter_concat, shown_concat]
    exact hcursor
  · rw [shown_concat]
    exact h.nodup_visit hshows hopen
  · rw [cursorAfter_concat, shown_concat]
    exact fun id hid => h.reached_visit hshows hopen hid
  · rw [cursorAfter_concat, shown_concat]
    exact fun _ k hreached hall => h.complete_visit hshows hreached hall
  · rw [shown_concat]
    exact fun first rest hvisits => h.old_visit hshows hopen hvisits

end Sound

theorem sound (hstart : start.memory.Reachable) (hwalk : Walk u status start visits r)
    (hcount : r.memory.created < 10 ^ 12) : Sound u status start visits r := by
  induction hwalk with
  | start =>
    refine ⟨hstart, Or.inl rfl, List.nodup_nil, ?_, fun hne => absurd rfl hne, ?_⟩
    · intro id hid
      exact absurd hid List.not_mem_nil
    · intro first rest hnil
      cases hnil
  | event event _ hspares ih =>
    exact (ih ((Run.created_le_next _ event).trans_lt hcount)).event event hspares
  | visit _ hopen hpage ih => exact (ih hcount).visit hcount hopen hpage

end Walk

/-- A traversal shows no todo twice. Once it has come to a page without a cursor it has shown
all todos that were asked for on each page's request, and at no time one that was created after
the first page's. The todo of the cursor is there for the next page to be continued from,
whether or not it has kept the status asked for. -/
theorem listing_stable {u status : Datum} {start r : Run} {visits : List Visit}
    (hstart : start.memory.Reachable) (hwalk : Walk u status start visits r)
    (hcount : r.memory.created < 10 ^ 12) :
    (shown visits).Nodup ∧
      (visits ≠ [] → cursorAfter visits = .absent → ∀ id,
        (∀ visit ∈ visits, ∃ todo ∈ visit.memory.todos, todo.id = id ∧
          todo.ListedFor u status) →
        (shown visits).count id = 1) ∧
      (∀ first rest, visits = first :: rest → ∀ visit ∈ rest, ∀ todo ∈ visit.page.items,
        ∃ old ∈ first.memory.todos, old.id = todo.id) ∧
      (cursorAfter visits ≠ .absent → ∀ size, size.hasWords = true →
        ∃ (anchor : Todo) (todos : List Todo),
          r.memory.find u (cursorAfter visits) = some anchor ∧
          (todos.Pairwise Todo.Newer ∧ ∀ todo, todo ∈ todos ↔
            (todo ∈ r.memory.todos ∧ todo.ListedFor u status) ∧ anchor.Newer todo) ∧
          r.memory.ListsPage u status size (cursorAfter visits)
            (Page.first (pageSize size) todos)) := by
  have hsound := Walk.sound hstart hwalk hcount
  refine ⟨hsound.nodup, ?_, ?_, ?_⟩
  · intro hne hended id hall
    refine List.count_eq_one_of_mem hsound.nodup ?_
    obtain ⟨first, rest, hvisits⟩ := List.exists_cons_of_ne_nil hne
    obtain ⟨hfirst, -⟩ := hsound.old first rest hvisits
    obtain ⟨todo, hmem, rfl, -⟩ := hall first (by rw [hvisits]; exact List.mem_cons_self)
    -- a walk is complete in the numbers that ids are made of
    obtain ⟨k, hk, -⟩ := hfirst.numbered.counted todo hmem
    have hk : todo.id = .text (Uuid.ofNumber k) := hk
    rw [hk] at hall ⊢
    refine hsound.complete hne k ?_ hall
    rw [hended]
    exact fun n hn => by cases hn
  · intro first rest hvisits visit hvisit todo htodo
    obtain ⟨-, hshown, -⟩ := hsound.old first rest hvisits
    refine hshown todo.id (List.mem_flatMap.2 ⟨visit, ?_, List.mem_map_of_mem htodo⟩)
    rw [hvisits]
    exact List.mem_cons_of_mem _ hvisit
  · intro hopen size hsize
    obtain ⟨-, anchor, hfind⟩ := hsound.cursor.resolve_left hopen
    obtain ⟨todos, hsorted, hmem, hpage⟩ := (hsound.reachable.listable hcount).exists_listsPage
      u status hsize (Or.inr ⟨anchor, hfind⟩)
    refine ⟨anchor, todos, hfind, ⟨hsorted, fun todo => ?_⟩, hpage⟩
    rw [hmem, hfind]
    simp

/-! Two pending todos, of which the newer is completed once it has been shown. -/

def secondId : Datum := .text (Uuid.ofNumber 2)

def older : Todo := Memory.stored 1 (titled alice "a")

def newer : Todo := Memory.stored 2 (titled alice "b")

def newerCompleted : Todo :=
  Memory.replacing newer { newer with status := Status.completed.name }

def twoPending : Run :=
  ⟨(Memory.answer (.create (titled alice "b"))
    (Memory.answer (.create (titled alice "a")) .empty).2).2, []⟩

def completing : List Run.Event :=
  [.begins alice (.updateStatus secondId Status.completed.name), .proceeds 0, .proceeds 0]

theorem newer_older : newer.Newer older := ⟨_, _, _, _, ⟨rfl, rfl⟩, ⟨rfl, rfl⟩, by decide⟩

theorem older_listed : older.ListedFor alice Status.pending.name :=
  ⟨by decide, Or.inr (by decide)⟩

/-- The first page shows the newer todo, and gives it as the cursor. -/
theorem listsPage_twoPending :
    twoPending.memory.ListsPage alice Status.pending.name (.ofInt 1) .absent
      ⟨[newer], secondId⟩ := by
  have hm : twoPending.memory.Reachable := (Memory.Reachable.empty.answer _).answer _
  have hlisted : newer.ListedFor alice Status.pending.name := ⟨by decide, Or.inr (by decide)⟩
  have htodos : twoPending.memory.todos = [older, newer] := rfl
  have hnone : twoPending.memory.find alice .absent = none := by decide +kernel
  have hsize : (Datum.ofInt 1).hasWords = true := rfl
  have hone : pageSize (.ofInt 1) = 1 := pageSize_ofInt (by decide)
  obtain ⟨todos, hsorted, hmem, hpage⟩ := (hm.listable (by decide)).exists_listsPage alice
    Status.pending.name hsize (Or.inl rfl)
  have hboth : todos = [newer, older] := by
    refine hsorted.eq_of_mem_iff (by simpa using newer_older) fun todo => ?_
    rw [hmem, htodos, hnone]
    constructor
    · rintro ⟨⟨htodo, -⟩, -⟩
      simpa [or_comm] using htodo
    · intro htodo
      have htodo : todo = newer ∨ todo = older := by simpa using htodo
      rcases htodo with rfl | rfl
      · exact ⟨⟨by simp, hlisted⟩, fun _ h => by cases h⟩
      · exact ⟨⟨by simp, older_listed⟩, fun _ h => by cases h⟩
  rw [hone, hboth] at hpage
  exact hpage

theorem listing_stable_completing :
    twoPending.memory.Reachable ∧ (twoPending.after completing).memory.created < 10 ^ 12 ∧
      ∃ visits, Walk alice Status.pending.name twoPending visits
        (twoPending.after completing) ∧
        visits.map Visit.page = [⟨[newer], secondId⟩, ⟨[older], .absent⟩] ∧
        newerCompleted ∈ (twoPending.after completing).memory.todos ∧
        ¬newerCompleted.ListedFor alice Status.pending.name ∧
        (shown visits).Nodup ∧ (shown visits).count older.id = 1 := by
  have hm : twoPending.memory.Reachable := (Memory.Reachable.empty.answer _).answer _
  have hcount : (twoPending.after completing).memory.created < 10 ^ 12 := by decide +kernel
  have hsize : (Datum.ofInt 1).hasWords = true := rfl
  have hone : pageSize (.ofInt 1) = 1 := pageSize_ofInt (by decide)
  have hnewer : newerCompleted.Newer older := ⟨_, _, _, _, ⟨rfl, rfl⟩, ⟨rfl, rfl⟩, by decide⟩
  have hgone : ¬newerCompleted.ListedFor alice Status.pending.name := by
    rintro ⟨-, h | h⟩
    · exact absurd h (by decide)
    · exact absurd h (by decide)
  have htodos : twoPending.memory.todos = [older, newer] := rfl
  have htodos' : (twoPending.after completing).memory.todos = [older, newerCompleted] := rfl
  have hwalk : Walk alice Status.pending.name twoPending
      [⟨twoPending.memory, ⟨[newer], secondId⟩⟩] (twoPending.after completing) := by
    have hvisited := Walk.start.visit (fun hne => absurd rfl hne) listsPage_twoPending
    have hbegun :=
      hvisited.event (.begins alice (.updateStatus secondId Status.completed.name))
      fun _ h => by cases h
    have hread := hbegun.event (.proceeds 0) fun _ h => by cases h
    exact hread.event (.proceeds 0) fun _ h => by cases h
  -- the second page goes on from it although it is not pending any more
  obtain ⟨-, -, -, hnext⟩ := listing_stable hm hwalk hcount
  obtain ⟨anchor, todos, hfind, ⟨hsorted, hmem⟩, hpage⟩ := hnext (by decide) _ hsize
  have hanchor : anchor = newerCompleted := by
    have hfound : (twoPending.after completing).memory.find alice secondId =
        some newerCompleted := by
      decide +kernel
    exact Option.some.inj (hfind.symm.trans hfound)
  have honly : todos = [older] := by
    refine hsorted.eq_of_mem_iff (List.pairwise_singleton _ _) fun todo => ?_
    rw [hmem, htodos', hanchor]
    constructor
    · rintro ⟨⟨htodo, hpending⟩, -⟩
      have htodo : todo = older ∨ todo = newerCompleted := by simpa using htodo
      rcases htodo with rfl | rfl
      · simp
      · exact absurd hpending hgone
    · intro htodo
      rw [List.mem_singleton.1 htodo]
      exact ⟨⟨by simp, older_listed⟩, hnewer⟩
  rw [hone, honly] at hpage
  have hsecond := hwalk.visit (fun _ => by decide) hpage
  obtain ⟨hnodup, hcomplete, -⟩ := listing_stable hm hsecond hcount
  refine ⟨hm, hcount, _, hsecond, rfl, ?_, hgone, hnodup, ?_⟩
  · rw [htodos']
    simp
  · refine hcomplete (by simp) rfl older.id ?_
    intro visit hvisit
    have hvisit : visit.memory.todos = [older, newer] ∨
        visit.memory.todos = [older, newerCompleted] := by
      simp only [List.nil_append, List.cons_append, List.mem_cons, List.not_mem_nil, or_false]
        at hvisit
      rcases hvisit with rfl | rfl
      · exact Or.inl htodos
      · exact Or.inr htodos'
    refine ⟨older, ?_, rfl, older_listed⟩
    rcases hvisit with h | h
    · rw [h]
      simp
    · rw [h]
      simp

end TodoServer
