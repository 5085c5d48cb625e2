/-
Following cursors.

Whoever passes the cursor of each page to the request for the next comes to an end, and has
then seen the whole listing: every todo once, in order, on pages that are full but for the
last. That is so for anything that answers with the first so many of a listing and, after a
todo of it, with the first so many of what follows there; it is shown for such answers, and
then for the store in memory.

The induction is on what is left of the listing. A page that is not the last takes some of it
away, so the requests end, and its cursor is the todo that the rest follows.

* `Traverses` — pages fetched one after the other until one has no cursor;
* `Divides` — a list cut into pages of a size;
* `exists_traverses` — fetching cuts a listing into pages;
* `cursors_list_everything_once` — the listings of every state that calls lead to.
-/
import TodoServer.Proofs.Todo.Isolation
import TodoServer.Proofs.Todo.Pages

namespace TodoServer

/-- Pages fetched one after the other, each from the cursor of the one before it, until one
comes without a cursor. -/
inductive Traverses (Fetches : Datum → Page Todo → Prop) : Datum → List (Page Todo) → Prop
  | ended {cursor : Datum} {page : Page Todo} (hpage : Fetches cursor page)
    (hlast : page.next = .absent) : Traverses Fetches cursor [page]
  | continued {cursor : Datum} {page : Page Todo} {rest : List (Page Todo)}
    (hpage : Fetches cursor page) (hnext : page.next ≠ .absent)
    (hrest : Traverses Fetches page.next rest) : Traverses Fetches cursor (page :: rest)

/-- A list cut into pages of a size: nothing is lost or repeated, all pages but the last are
full, and a page has a cursor exactly if something is left after it. -/
structure Divides (size : Nat) (todos : List Todo) (pages : List (Page Todo)) : Prop where
  items_eq : pages.flatMap Page.items = todos
  page_of_split : ∀ before page after, pages = before ++ page :: after →
    page.items.length ≤ size ∧ (after ≠ [] → page.items.length = size) ∧
      (page.next ≠ .absent ↔ after.flatMap Page.items ≠ [])

variable {Fetches : Datum → Page Todo → Prop} {cursor : Datum} {size : Nat}

/-- Where a cursor fetches one page at most, there is one way at most to fetch them all. -/
theorem Traverses.unique
    (hfetch : ∀ cursor page page', Fetches cursor page → Fetches cursor page' → page = page')
    {pages pages' : List (Page Todo)} (h : Traverses Fetches cursor pages)
    (h' : Traverses Fetches cursor pages') : pages = pages' := by
  induction h generalizing pages' with
  | ended hpage hlast =>
    cases h' with
    | ended hpage' hlast' => rw [hfetch _ _ _ hpage hpage']
    | continued hpage' hnext' hrest' =>
      rw [hfetch _ _ _ hpage hpage'] at hlast
      exact absurd hlast hnext'
  | continued hpage hnext hrest ih =>
    cases h' with
    | ended hpage' hlast' =>
      rw [hfetch _ _ _ hpage hpage'] at hnext
      exact absurd hlast' hnext
    | continued hpage' hnext' hrest' =>
      obtain rfl := hfetch _ _ _ hpage hpage'
      rw [ih hrest']

namespace Divides

theorem last {todos : List Todo} (h : todos.length ≤ size) :
    Divides size todos [⟨todos, .absent⟩] := by
  refine ⟨by simp, ?_⟩
  intro before page after hsplit
  obtain ⟨rfl, hpages⟩ | ⟨rest, -, hrest⟩ := List.cons_eq_append_iff.1 hsplit
  · obtain ⟨rfl, rfl⟩ := List.cons.inj hpages
    exact ⟨h, fun hne => absurd rfl hne, by simp⟩
  · simp at hrest

theorem cons {items after : List Todo} {next : Datum} {pages : List (Page Todo)}
    (hitems : items.length = size) (hnext : next ≠ .absent) (hafter : after ≠ [])
    (h : Divides size after pages) :
    Divides size (items ++ after) (⟨items, next⟩ :: pages) := by
  refine ⟨by rw [List.flatMap_cons, h.items_eq], ?_⟩
  intro before page rest hsplit
  obtain ⟨rfl, hpages⟩ | ⟨before', rfl, hpages⟩ := List.cons_eq_append_iff.1 hsplit
  · obtain ⟨rfl, rfl⟩ := List.cons.inj hpages
    refine ⟨hitems.le, fun _ => hitems, ?_⟩
    rw [h.items_eq]
    exact iff_of_true hnext hafter
  · exact h.page_of_split before' page rest hpages

end Divides

/-- Fetching cuts what is left of a listing into pages. -/
theorem exists_traverses {todos : List Todo} (hpos : 0 < size)
    (hids : ∀ todo ∈ todos, todo.id ≠ .absent)
    (hafter : ∀ before last after, todos = before ++ last :: after →
      Fetches last.id (Page.first size after))
    (before rest : List Todo) (hsplit : todos = before ++ rest)
    (hpage : Fetches cursor (Page.first size rest)) :
    ∃ pages, Traverses Fetches cursor pages ∧ Divides size rest pages := by
  induction hlength : rest.length using Nat.strong_induction_on
    generalizing before rest cursor with
  | _ length ih =>
    by_cases hle : rest.length ≤ size
    · rw [Page.first_of_length_le hle] at hpage
      exact ⟨_, .ended hpage rfl, .last hle⟩
    · obtain ⟨items, last, after, rfl, hsize, hne, hfirst⟩ :=
        Page.first_of_lt hpos (not_le.1 hle)
      rw [hfirst] at hpage
      have htodos : todos = (before ++ items) ++ last :: after := by
        rw [hsplit, List.append_assoc]
      have hshorter : after.length < length := by
        rw [← hlength, List.length_append, List.length_cons]
        omega
      -- the rest follows the last todo of the page
      obtain ⟨pages, hpages, hdivides⟩ :=
        ih after.length hshorter (before ++ items ++ [last]) after
        (by rw [htodos]; simp) (hafter _ _ _ htodos) rfl
      have hid : last.id ≠ .absent := hids last (by rw [htodos]; simp)
      refine ⟨_, .continued hpage hid hpages, ?_⟩
      have hfull : (items ++ [last]).length = size := by
        rw [List.length_append, List.length_singleton, hsize]
      have hcons := Divides.cons hfull hid hne hdivides
      rwa [List.append_assoc, List.singleton_append] at hcons

namespace Memory

variable {m : Memory} {u status size : Datum}

/-- A user's request for the page after a cursor is answered with a page, and changes
nothing. -/
def ListsPage (m : Memory) (u status size cursor : Datum) (page : Page Todo) : Prop :=
  (Operation.list u ⟨status, cursor, size⟩).run Memory.answer m = (.ok page, m)

theorem ListsPage.unique {cursor : Datum} {page page' : Page Todo}
    (h : m.ListsPage u status size cursor page) (h' : m.ListsPage u status size cursor page') :
    page = page' := by
  have heq := h.symm.trans h'
  injection heq with hpage
  injection hpage

/-- A request that is answered with a page has a size to tell. -/
theorem ListsPage.hasWords {cursor : Datum} {page : Page Todo}
    (h : m.ListsPage u status size cursor page) : size.hasWords = true := by
  by_contra hnone
  have hasked : askedSize size = .error .noWords := by
    rw [askedSize, Datum.demand, if_neg hnone]
    rfl
  rw [ListsPage, Operation.run_list] at h
  simp only [hasked] at h
  cases congrArg Prod.fst h

namespace Listable

theorem listsPage_iff (hsize : size.hasWords = true) {cursor : Datum} {page : Page Todo} :
    m.ListsPage u status size cursor page ↔
      m.list ⟨u, status, cursor, .ofInt (pageSize size)⟩ = .ok page := by
  rw [ListsPage, Operation.run_list_of_hasWords hsize, Prod.mk.injEq]
  simp

theorem listsPage_start (h : m.Listable) (hsize : size.hasWords = true) :
    m.ListsPage u status size .absent (Page.first (pageSize size) (m.listing u status)) := by
  rw [listsPage_iff hsize, h.list_start u status rfl, pageSize_ofInt_pageSize]

theorem listsPage_after (h : m.Listable) (status : Datum) (hsize : size.hasWords = true)
    {cursor : Datum} {anchor : Todo} (hfind : m.find u cursor = some anchor) :
    m.ListsPage u status size cursor (Page.first (pageSize size)
      ((m.listing u status).filter fun t => anchor.listingOrder t = .lt)) := by
  rw [listsPage_iff hsize, h.list_after status rfl hfind, pageSize_ofInt_pageSize]

/-- A page begins with the newest of the todos asked for, of those that come after the cursor's
if there is one. That one need not be among the todos asked for. -/
theorem exists_listsPage (h : m.Listable) (u status : Datum) (hsize : size.hasWords = true)
    {cursor : Datum} (hcursor : cursor = .absent ∨ ∃ anchor, m.find u cursor = some anchor) :
    ∃ todos : List Todo, todos.Pairwise Todo.Newer ∧
      (∀ todo, todo ∈ todos ↔ (todo ∈ m.todos ∧ todo.ListedFor u status) ∧
        ∀ anchor, m.find u cursor = some anchor → anchor.Newer todo) ∧
      m.ListsPage u status size cursor (Page.first (pageSize size) todos) := by
  rcases hcursor with rfl | ⟨anchor, hfind⟩
  · have hnone : m.find u .absent = none := by
      refine h.distinct.find_eq_none_iff.2 fun todo hmem hid => ?_
      have hblank := (h.cursor_of_mem hmem).1
      rw [hid] at hblank
      cases hblank
    refine ⟨m.listing u status, h.pairwise_listing u status, ?_, h.listsPage_start hsize⟩
    intro todo
    rw [mem_listing_iff, hnone]
    simp
  · obtain ⟨hanchor, -, -⟩ := h.distinct.find_eq_some_iff.1 hfind
    refine ⟨_, (h.pairwise_listing u status).filter _, ?_,
      h.listsPage_after status hsize hfind⟩
    intro todo
    rw [h.mem_filter_after_iff hanchor, hfind]
    simp

/-- A page after a todo of the listing begins with what follows it there. -/
theorem filter_listing (h : m.Listable) {before after : List Todo} {anchor : Todo}
    (hsplit : m.listing u status = before ++ anchor :: after) :
    m.find u anchor.id = some anchor ∧
      ((m.listing u status).filter fun t => anchor.listingOrder t = .lt) = after := by
  have hmem : anchor ∈ m.listing u status := by
    rw [hsplit]
    simp
  obtain ⟨hstored, howner, -⟩ := mem_listing_iff.1 hmem
  have hsorted : (before ++ anchor :: after).Pairwise Todo.Newer := by
    rw [← hsplit]
    exact h.pairwise_listing u status
  have hafter : after.Pairwise Todo.Newer := Todo.pairwise_after hsorted
  refine ⟨h.distinct.find_eq_some_iff.2 ⟨hstored, rfl, howner⟩, ?_⟩
  refine ((h.pairwise_listing u status).filter _).eq_of_mem_iff hafter fun todo => ?_
  rw [h.mem_filter_after_iff hstored, ← mem_listing_iff, hsplit, Todo.mem_after_iff hsorted]

theorem exists_traverses (h : m.Listable) (u status : Datum) (hsize : size.hasWords = true) :
    ∃ pages, Traverses (m.ListsPage u status size) .absent pages ∧
      Divides (pageSize size) (m.listing u status) pages := by
  refine TodoServer.exists_traverses (pageSize_bounds size).1 ?_ ?_ [] _ rfl
    (h.listsPage_start hsize)
  · intro todo hmem habsent
    have hblank := (h.cursor_of_mem (mem_listing_iff.1 hmem).1).1
    rw [habsent] at hblank
    cases hblank
  · intro before last after hsplit
    obtain ⟨hfind, hfilter⟩ := h.filter_listing hsplit
    have hpage := h.listsPage_after status hsize hfind
    rwa [hfilter] at hpage

end Listable

end Memory

/-- Following cursors over an unchanged store ends, and gives every todo asked for once, from
the newest to the oldest. Any size will do that has words, as every number and every text
has. -/
theorem cursors_list_everything_once {m : Memory} (hm : m.Reachable)
    (hcount : m.created < 10 ^ 12) (u status size : Datum) (hsize : size.hasWords = true) :
    ∃ (todos : List Todo) (pages : List (Page Todo)),
      (todos.Pairwise Todo.Newer ∧
        ∀ todo, todo ∈ todos ↔ todo ∈ m.todos ∧ todo.ListedFor u status) ∧
      (Traverses (m.ListsPage u status size) .absent pages ∧
        ∀ pages', Traverses (m.ListsPage u status size) .absent pages' → pages' = pages) ∧
      Divides (pageSize size) todos pages := by
  have hlistable := hm.listable hcount
  obtain ⟨pages, hpages, hdivides⟩ := hlistable.exists_traverses u status hsize
  refine ⟨m.listing u status, pages, ?_, ⟨hpages, ?_⟩, hdivides⟩
  · exact ⟨hlistable.pairwise_listing u status, fun _ => Memory.mem_listing_iff⟩
  · intro pages' hpages'
    exact hpages'.unique (fun _ _ _ h h' => h.unique h') hpages

/-- Four todos of one user, and one of another in the middle. -/
def fourAndOne : Memory :=
  [titled alice "a", titled alice "b", titled bob "x", titled alice "c",
    titled alice "d"].foldl (fun m new => (Memory.answer (.create new) m).2) .empty

/-- The listing of four todos cut into pages of two. -/
theorem cursors_list_everything_once_fourAndOne :
    fourAndOne.Reachable ∧ fourAndOne.created < 10 ^ 12 ∧ (Datum.ofInt 2).hasWords = true ∧
      ∃ (todos : List Todo) (pages : List (Page Todo)),
        todos.length = 4 ∧ todos.Pairwise Todo.Newer ∧
        Traverses (fourAndOne.ListsPage alice .absent (.ofInt 2)) .absent pages ∧
        Divides 2 todos pages := by
  have hm : fourAndOne.Reachable :=
    ((((Memory.Reachable.empty.answer _).answer _).answer _).answer _).answer _
  have hcount : fourAndOne.created < 10 ^ 12 := by decide
  obtain ⟨todos, pages, ⟨hsorted, hmem⟩, ⟨hpages, -⟩, hdivides⟩ :=
    cursors_list_everything_once hm hcount alice .absent (.ofInt 2) rfl
  rw [show pageSize (.ofInt 2) = 2 from pageSize_ofInt (by decide)] at hdivides
  -- the listing has the four todos of the user, in another order
  have hperm : todos.Perm (fourAndOne.todos.filter fun t => t.userId.same alice) := by
    have hstored : fourAndOne.todos.Nodup := hm.numbered.distinct.nodup.of_map
    have hlisted : todos.Nodup := hsorted.imp Todo.Newer.ne
    refine (List.perm_ext_iff_of_nodup hlisted (hstored.filter _)).2 fun todo => ?_
    rw [hmem, List.mem_filter]
    exact and_congr_right fun _ => and_iff_left (Or.inl rfl)
  have hlength : todos.length = 4 := by
    rw [hperm.length_eq]
    decide +kernel
  exact ⟨hm, hcount, rfl, todos, pages, hlength, hsorted, hpages, hdivides⟩

end TodoServer
