/-
Pages of the listings in memory.

A page is cut from the front of a listing: the first page from the listing itself, every other
from what comes after the cursor's todo. One todo more than the page holds is looked at, and
its being there is all that decides whether a cursor is given. The size is put in range by each
layer that a request passes through, which changes nothing after the first.

* `pageSize_ofInt` — a size in range means itself;
* `Page.first` — the first so many of a listing, and the cursor if more follow;
* `Memory.list_eq_ok` — what a page shows is there;
* `Memory.Listable` — todos that a listing can be ordered and continued by;
* `Memory.Listable.list_start`, `Memory.Listable.list_after` — the page without and with a
  cursor;
* `Memory.Reachable.listable` — the states that calls lead to, while dates and ids last.
-/
import TodoServer.Proofs.Number.Rounding
import TodoServer.Proofs.Todo.Dated
import TodoServer.Proofs.Todo.Order

namespace TodoServer

/-! ### Sizes -/

theorem clampSize_bounds (n : Int) : 1 ≤ clampSize n ∧ clampSize n ≤ maxPageSize := by
  rw [clampSize]
  split_ifs with h
  · obtain ⟨hlow, hhigh⟩ := h
    omega
  · decide

theorem pageSize_bounds (asked : Datum) :
    1 ≤ pageSize asked ∧ pageSize asked ≤ maxPageSize := by
  have hdefault : 1 ≤ defaultPageSize ∧ defaultPageSize ≤ maxPageSize := by decide
  rw [pageSize.eq_def]
  split
  · exact hdefault
  · split
    · exact clampSize_bounds _
    · exact hdefault
  · split
    · exact clampSize_bounds _
    · exact hdefault

/-- A size in range means itself. -/
theorem pageSize_ofInt {n : Nat} (h : 1 ≤ n ∧ n ≤ maxPageSize) : pageSize (.ofInt n) = n := by
  have hmax : maxPageSize = 100 := rfl
  have hinteger : (Number.ofInt n).integer? = some (n : Int) :=
    Number.integer?_ofInt (by omega)
  rw [show Datum.ofInt n = .json (.number (.ofInt n)) from rfl, pageSize]
  simp only [hinteger]
  rw [clampSize, if_pos (by omega), Int.toNat_natCast]

theorem askedSize_of_hasWords {asked : Datum} (h : asked.hasWords = true) :
    askedSize asked = .ok (pageSize asked) := by
  rw [askedSize, Datum.demand, if_pos h]
  rfl

/-- The size that a request stands for is asked of the store, and is the size that the store
takes. -/
theorem pageSize_ofInt_pageSize (asked : Datum) :
    pageSize (.ofInt (pageSize asked)) = pageSize asked :=
  pageSize_ofInt (pageSize_bounds asked)

/-! ### Pages -/

namespace Page

variable {size : Nat} {todos : List Todo}

/-- The first todos of a listing, and the last one's id as the cursor if more follow. -/
def first (size : Nat) (todos : List Todo) : Page Todo :=
  ⟨todos.take size, if size < todos.length then lastId Todo.id (todos.take size) else .absent⟩

theorem first_of_length_le (h : todos.length ≤ size) :
    first size todos = ⟨todos, .absent⟩ := by
  rw [first, List.take_of_length_le h, if_neg (by omega)]

theorem mem_of_mem_take {α : Type} {id : α → Datum} {limit : Int} {fetched : List α} {a : α}
    (h : a ∈ (take id limit fetched).items) : a ∈ fetched := by
  rw [take] at h
  split_ifs at h
  · exact h
  · exact List.mem_of_mem_take h
  · exact List.mem_of_mem_take h

/-- Items may be read before or after a page is made of them. -/
theorem take_map {α β : Type} (f : α → β) (id : β → Datum) (limit : Int) (fetched : List α) :
    take id limit (fetched.map f) =
      ⟨(take (fun a => id (f a)) limit fetched).items.map f,
        (take (fun a => id (f a)) limit fetched).next⟩ := by
  rw [take, take, List.length_map]
  split_ifs with hfits
  · rfl
  · simp only [lastId, ← List.map_take, List.getLast?_map, Option.map_map]
    rfl
  · simp only [lastId, ← List.map_take, List.getLast?_map, Option.map_map]
    rfl

/-- Where more follow, the page is full and the cursor is the id of its last todo. -/
theorem first_of_lt (hpos : 0 < size) (h : size < todos.length) :
    ∃ before last after, todos = before ++ last :: after ∧ before.length + 1 = size ∧
      after ≠ [] ∧ first size todos = ⟨before ++ [last], last.id⟩ := by
  have hlength : (todos.take size).length = size := List.length_take_of_le h.le
  have hne : todos.take size ≠ [] := by
    intro hnil
    rw [hnil, List.length_nil] at hlength
    omega
  have hsplit := List.dropLast_append_getLast hne
  have hlast : lastId Todo.id (todos.take size) = ((todos.take size).getLast hne).id := by
    rw [lastId, List.getLast?_eq_some_getLast hne]
    rfl
  refine ⟨(todos.take size).dropLast, (todos.take size).getLast hne, todos.drop size, ?_,
    ?_, ?_, ?_⟩
  · rw [← List.singleton_append, ← List.append_assoc, hsplit, List.take_append_drop]
  · rw [List.length_dropLast, hlength]
    omega
  · rw [Ne, List.drop_eq_nil_iff]
    omega
  · rw [hsplit, first, if_pos h, hlast]

end Page

/-- A todo is one of those that a user asks for: the user's own, and of one status if one is
asked for. -/
def Todo.ListedFor (todo : Todo) (u status : Datum) : Prop :=
  todo.userId.same u = true ∧ (status.isBlank = true ∨ todo.status.same status = true)

namespace Memory

variable {m : Memory} {u status cursor size : Datum} {todo : Todo}

/-- Listing one todo more than the page holds, and dropping it again, is listing the page. -/
theorem pageOf_eq_first {size : Nat} {todos : List Todo} (hpos : 0 < size)
    (hids : ∀ todo ∈ todos, todo.id.isBlank = false) :
    pageOf size todos = Page.first size todos := by
  rw [pageOf, Page.take, Page.withoutBlankCursor]
  by_cases h : size < todos.length
  · obtain ⟨before, last, after, hsplit, hsize, -, hfirst⟩ := Page.first_of_lt hpos h
    have hmore : ¬((todos.take (size + 1)).length : Int) ≤ size := by
      rw [List.length_take]
      omega
    have hitems : (todos.take (size + 1)).take size = before ++ [last] := by
      rw [List.take_take, min_eq_left (Nat.le_succ size)]
      exact congrArg Page.items hfirst
    have hcursor : Page.lastId Todo.id (before ++ [last]) = last.id := by
      rw [Page.lastId, List.getLast?_append]
      rfl
    have hlast : last.id.isBlank = false := hids last (by rw [hsplit]; simp)
    rw [if_neg hmore, if_pos (Int.natCast_nonneg size), Int.toNat_natCast, hitems, hfirst]
    simp only [hcursor, Datum.unlessBlank, hlast, Bool.false_eq_true, if_false]
  · have hall : todos.take (size + 1) = todos := List.take_of_length_le (by omega)
    rw [hall, if_pos (by omega), Page.first_of_length_le (by omega)]
    rfl

/-! ### Listings -/

/-- Todos that a listing can be ordered and continued by: each has a time and a well-formed id,
and no two have the same. -/
structure Listable (m : Memory) : Prop where
  keyed : ∀ todo ∈ m.todos, ∃ millis id, todo.Keyed millis id ∧ Uuid.isWellFormed id = true
  nodup : (m.todos.map Todo.id).Nodup

theorem mem_listing_iff :
    todo ∈ m.listing u status ↔ todo ∈ m.todos ∧ todo.ListedFor u status := by
  rw [listing, List.mem_mergeSort, List.mem_filter, Bool.and_eq_true, Bool.or_eq_true]
  rfl

theorem pageOf_shows (size : Nat) (todos : List Todo) :
    (∀ todo ∈ (pageOf size todos).items, todo ∈ todos) ∧
      ((pageOf size todos).next = .absent ∨
        ∃ todo ∈ (pageOf size todos).items, (pageOf size todos).next = todo.id) := by
  refine ⟨fun todo hmem => List.mem_of_mem_take (Page.mem_of_mem_take hmem), ?_⟩
  rw [pageOf, Page.take, Page.withoutBlankCursor]
  by_cases h : ((todos.take (size + 1)).length : Int) ≤ size
  · rw [if_pos h]
    exact Or.inl rfl
  · rw [if_neg h]
    set items := (todos.take (size + 1)).take
      (if 0 ≤ (size : Int) then (size : Int) else (todos.take (size + 1)).length + size).toNat
    show (Page.lastId Todo.id items).unlessBlank = .absent ∨
      ∃ todo ∈ items, (Page.lastId Todo.id items).unlessBlank = todo.id
    rw [Datum.unlessBlank]
    split_ifs with hblank
    · exact Or.inl rfl
    · rcases hlast : items.getLast? with _ | last
      · left
        rw [Page.lastId, hlast]
        rfl
      · right
        refine ⟨last, List.mem_of_getLast? hlast, ?_⟩
        rw [Page.lastId, hlast]
        rfl

theorem mem_of_listingAfter {todos : List Todo}
    (hafter : m.listingAfter u status cursor = .ok (some todos)) (hmem : todo ∈ todos) :
    todo ∈ m.todos := by
  have hlisted : todo ∈ m.listing u status := by
    rw [listingAfter] at hafter
    split_ifs at hafter
    · cases hafter
      exact hmem
    · cases hafter
    · rcases hfind : m.find u cursor with _ | anchor
      · rw [hfind] at hafter
        cases hafter
      · rw [hfind] at hafter
        cases hafter
        exact List.mem_of_mem_filter hmem
  exact (mem_listing_iff.1 hlisted).1

/-- A page shows todos that are there, and its cursor is the id of one of them. -/
theorem list_eq_ok {params : ListParams} {page : Page Todo} (h : m.list params = .ok page) :
    (∀ todo ∈ page.items, todo ∈ m.todos) ∧
      (page.next = .absent ∨ ∃ todo ∈ page.items, page.next = todo.id) := by
  rw [list] at h
  rcases hafter : m.listingAfter params.userId params.status params.cursor with
    fault | _ | todos
  · rw [hafter] at h
    cases h
  · rw [hafter] at h
    cases h
    exact ⟨fun todo hmem => absurd hmem List.not_mem_nil, Or.inl rfl⟩
  · rw [hafter] at h
    obtain ⟨size, -, rfl⟩ := map_eq_ok_iff.1 h
    obtain ⟨hitems, hnext⟩ := pageOf_shows size todos
    exact ⟨fun todo hmem => mem_of_listingAfter hafter (hitems todo hmem), hnext⟩

namespace Listable

theorem distinct (h : m.Listable) : m.Distinct := by
  refine ⟨?_, h.nodup⟩
  intro todo hmem
  obtain ⟨millis, id, ⟨-, hid⟩, -⟩ := h.keyed todo hmem
  rw [hid]
  rfl

/-- The id of a todo is a cursor that can be looked for. -/
theorem cursor_of_mem (h : m.Listable) (hmem : todo ∈ m.todos) :
    todo.id.isBlank = false ∧ todo.id.hasWords = true ∧
      Uuid.isWellFormed todo.id.words = true := by
  obtain ⟨millis, id, ⟨-, hid⟩, hformed⟩ := h.keyed todo hmem
  have hne : id ≠ "" := by
    rintro rfl
    exact absurd hformed (by decide)
  rw [hid]
  exact ⟨Datum.isBlank_text hne, rfl, hformed⟩

theorem pairwise_listing (h : m.Listable) (u status : Datum) :
    (m.listing u status).Pairwise Todo.Newer := by
  refine Todo.pairwise_newer_mergeSort ?_ ?_
  · intro todo hmem
    obtain ⟨millis, id, hkeyed, -⟩ := h.keyed todo (List.mem_of_mem_filter hmem)
    exact ⟨millis, id, hkeyed⟩
  · exact h.nodup.sublist (List.filter_sublist.map Todo.id)

theorem list_of_listingAfter (h : m.Listable) (hsize : size.hasWords = true)
    {todos : List Todo} (hafter : m.listingAfter u status cursor = .ok (some todos))
    (hsub : ∀ todo ∈ todos, todo ∈ m.todos) :
    m.list ⟨u, status, cursor, size⟩ = .ok (Page.first (pageSize size) todos) := by
  rw [list]
  simp only [hafter, askedSize_of_hasWords hsize]
  have hids : ∀ todo ∈ todos, todo.id.isBlank = false :=
    fun todo hmem => (h.cursor_of_mem (hsub todo hmem)).1
  exact congrArg Except.ok (pageOf_eq_first (pageSize_bounds size).1 hids)

/-- The first page of a listing. -/
theorem list_start (h : m.Listable) (u status : Datum) (hsize : size.hasWords = true) :
    m.list ⟨u, status, .absent, size⟩ =
      .ok (Page.first (pageSize size) (m.listing u status)) :=
  h.list_of_listingAfter hsize rfl fun _ hmem => (mem_listing_iff.1 hmem).1

/-- The page after a todo of the user, which need not have the status asked for. -/
theorem list_after (h : m.Listable) (status : Datum) (hsize : size.hasWords = true)
    {anchor : Todo} (hfind : m.find u cursor = some anchor) :
    m.list ⟨u, status, cursor, size⟩ =
      .ok (Page.first (pageSize size)
        ((m.listing u status).filter fun t => anchor.listingOrder t = .lt)) := by
  obtain ⟨hmem, hid, -⟩ := h.distinct.find_eq_some_iff.1 hfind
  obtain ⟨hblank, hwords, hformed⟩ := h.cursor_of_mem hmem
  rw [hid] at hblank hwords hformed
  refine h.list_of_listingAfter hsize ?_ fun t ht => ?_
  · rw [listingAfter, hblank, hwords, hformed, hfind]
    rfl
  · exact (mem_listing_iff.1 (List.mem_of_mem_filter ht)).1

/-- What comes after a todo in the listing is what it is newer than. -/
theorem mem_filter_after_iff (h : m.Listable) {anchor : Todo} (hanchor : anchor ∈ m.todos) :
    todo ∈ (m.listing u status).filter (fun t => anchor.listingOrder t = .lt) ↔
      (todo ∈ m.todos ∧ todo.ListedFor u status) ∧ anchor.Newer todo := by
  obtain ⟨s, x, hkeyed, -⟩ := h.keyed anchor hanchor
  rw [List.mem_filter, mem_listing_iff, decide_eq_true_iff]
  refine and_congr_right fun hlisted => ?_
  obtain ⟨t, y, hkeyed', -⟩ := h.keyed todo hlisted.1
  exact Todo.listingOrder_eq_lt_iff hkeyed hkeyed'

end Listable

/-! ### The states that calls lead to -/

theorem inTime_of_lt {n : Nat} (h : n < 10 ^ 12) : InTime n := by
  rw [InTime, baseTime, Date.range]
  omega

/-- A todo has the time and the id of its number. -/
theorem Reachable.exists_keyed (hm : m.Reachable) (hcount : m.created < 10 ^ 12)
    (hmem : todo ∈ m.todos) :
    ∃ n, todo.HasNumber n ∧ n ≤ m.created ∧
      todo.Keyed (baseTime + n * 1000) (Uuid.ofNumber n) := by
  obtain ⟨n, hnumber, hle, hcreated⟩ := hm.timed todo hmem
  have htime : creationTime n = .valid (baseTime + n * 1000) :=
    (inTime_of_lt (hle.trans_lt hcount)).creationTime_eq
  refine ⟨n, hnumber, hle, ?_, hnumber⟩
  rw [hcreated, htime]

theorem Reachable.listable (hm : m.Reachable) (hcount : m.created < 10 ^ 12) : m.Listable := by
  refine ⟨?_, hm.numbered.distinct.nodup⟩
  intro todo hmem
  obtain ⟨n, -, hle, hkeyed⟩ := hm.exists_keyed hcount hmem
  refine ⟨_, _, hkeyed, Uuid.isWellFormed_ofNumber ?_⟩
  omega

end Memory

/-- A request for a page is one to the store, for the size that it stands for. -/
theorem Operation.run_list_of_hasWords {m : Memory} {u status cursor size : Datum}
    (hsize : size.hasWords = true) :
    (list u ⟨status, cursor, size⟩).run Memory.answer m =
      (m.list ⟨u, status, cursor, .ofInt (pageSize size)⟩, m) := by
  rw [run_list, askedSize_of_hasWords hsize]
  rfl

end TodoServer
