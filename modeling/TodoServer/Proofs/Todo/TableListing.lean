/-
Listings from the database.

A listing is asked of the database by one of four queries, as a status and a cursor are given
or not, each of which numbers its values in the order in which they come up. Where the database
answers them by what they mean, the store answers with the first of the owner's todos that are
asked for, from the newest to the oldest, after the cursor's if there is one: just what the
store in memory answers when it has the same todos. Todos of one time are told apart by their
ids on both sides, so it makes no difference where among them a page ends.

* `TodoTable.listQuery_request` — the four queries;
* `TodoTable.listed?_listQuery` — the rows that they find;
* `TodoTable.pageOfRows_eq` — the page made of rows is the page made of their todos;
* `TodoTable.Gives` — a page that the store answers with while the database answers its query;
* `table_lists_as_memory` — the page of a listing, from the database and from memory, and all
  pages.
-/
import TodoServer.Proofs.Sql.Meaning
import TodoServer.Proofs.Todo.Traversal

namespace TodoServer

open Sql

theorem Sql.Session.send_of_head? (s : Session) {q : Query} {outcome : Outcome}
    (h : s.answers.head? = some outcome) : s.send q = (outcome, s.after [q]) := by
  rcases hanswers : s.answers with _ | ⟨first, rest⟩
  · rw [hanswers] at h
    cases h
  · rw [hanswers] at h
    cases h
    simp [Session.send, Session.after, hanswers]

namespace TodoTable

variable {table : List Row} {owner : Text} {status : Option Status} {cursor : Option Text}
  {asked : Datum} {size : Nat}

/-! ### The queries -/

/-- What is asked for of a user's todos, all of it of the kind that is meant. -/
def request (owner : Text) (status : Option Status) (cursor : Option Text) (size : Datum) :
    ListParams :=
  ⟨.text owner, .ofText? (status.map Status.name), .ofText? cursor, size⟩

theorem ne_empty_of_isLower {t : Text} (h : Uuid.IsLower t) : t ≠ "" := by
  rintro rfl
  exact absurd h.1 (by decide)

theorem name_ne_empty (status : Status) : status.name ≠ "" := by
  cases status <;> decide

/-- The queries of listings. The values are numbered as they come up, the owner's first. -/
theorem listQuery_request (hcursor : ∀ c ∈ cursor, Uuid.IsLower c) :
    listQuery (request owner status cursor asked) size =
      match status, cursor with
      | none, none => ⟨.page todoColumns [.equals .userId 1] 2,
        [.text owner, .ofInt (size + 1)]⟩
      | some s, none =>
        ⟨.page todoColumns [.equals .userId 1, .equals .status 2] 3,
          [.text owner, .text s.name, .ofInt (size + 1)]⟩
      | none, some c =>
        ⟨.page todoColumns [.equals .userId 1, .below 2 1] 3,
          [.text owner, .text c, .ofInt (size + 1)]⟩
      | some s, some c =>
        ⟨.page todoColumns [.equals .userId 1, .equals .status 2, .below 3 1] 4,
          [.text owner, .text s.name, .text c, .ofInt (size + 1)]⟩ := by
  have hstatus : ∀ s : Status, (Datum.ofText? (some s.name)).isBlank = false :=
    fun s => Datum.isBlank_text (name_ne_empty s)
  have hblank : ∀ c, cursor = some c → (Datum.ofText? (some c)).isBlank = false := by
    rintro c rfl
    exact Datum.isBlank_text (ne_empty_of_isLower (hcursor c rfl))
  have hnone : (Datum.ofText? none).isBlank = true := rfl
  rcases status with _ | s <;> rcases cursor with _ | c
  · simp only [listQuery, request, Option.map_none, hnone, if_true]
    rfl
  · simp only [listQuery, request, Option.map_none, hnone, hblank c rfl, Bool.false_eq_true,
      if_true, if_false]
    rfl
  · simp only [listQuery, request, Option.map_some, hnone, hstatus s, Bool.false_eq_true,
      if_true, if_false]
    rfl
  · simp only [listQuery, request, Option.map_some, hblank c rfl, hstatus s,
      Bool.false_eq_true, if_false]
    rfl

/-- A todo is one of those that are asked for: the owner's, of the status if one is given, and
after the owner's todo of the cursor if one is given. -/
structure Asked (todos : List Todo) (owner : Text) (status : Option Status)
    (cursor : Option Text) (todo : Todo) : Prop where
  owned : todo.userId = .text owner
  ofStatus : ∀ s ∈ status, todo.status = .text s.name
  afterCursor : ∀ c ∈ cursor, ∃ anchor ∈ todos, anchor.id = .text c ∧
    anchor.userId = .text owner ∧ anchor.Newer todo

/-- The rows that the query of a listing finds. -/
theorem listed?_listQuery (status : Option Status) (asked : Datum) (htable : IsTodoTable table)
    (howner : Uuid.IsLower owner) (hcursor : ∀ c ∈ cursor, Uuid.IsLower c)
    (hsize : size ≤ maxPageSize) :
    ∃ rows : List Row,
      (listQuery (request owner status cursor asked) size).listed? table =
        some ((rows.take (size + 1)).map (Row.only todoColumns)) ∧
      (rows.map Row.todo).Pairwise Todo.Newer ∧
      ∀ row, row ∈ rows ↔ row ∈ table ∧
        Asked (table.map Row.todo) owner status cursor row.todo := by
  have hcount : size + 1 ≤ 2 ^ 53 := by
    have hmax : maxPageSize = 100 := rfl
    omega
  -- what is asked for, said of the cells of a row, as the conditions of the query are
  have hasked : ∀ row : Row, Asked (table.map Row.todo) owner status cursor row.todo ↔
      row.get .userId = .text owner ∧ (∀ s ∈ status, row.get .status = .text s.name) ∧
        ∀ c ∈ cursor, ∃ anchor ∈ table, anchor.get .id = .text c ∧
          anchor.get .userId = .text owner ∧ anchor.todo.Newer row.todo := by
    intro row
    constructor
    · rintro ⟨howned, hstatus, hafter⟩
      refine ⟨howned, hstatus, fun c hc => ?_⟩
      obtain ⟨_, hmem, hfound⟩ := hafter c hc
      obtain ⟨anchor, hanchor, rfl⟩ := List.mem_map.1 hmem
      exact ⟨anchor, hanchor, hfound⟩
    · rintro ⟨howned, hstatus, hafter⟩
      refine ⟨howned, hstatus, fun c hc => ?_⟩
      obtain ⟨anchor, hanchor, hfound⟩ := hafter c hc
      exact ⟨anchor.todo, List.mem_map_of_mem hanchor, hfound⟩
  rw [listQuery_request hcursor]
  rcases status with _ | s <;> rcases cursor with _ | c
  · refine htable.listed?_page rfl hcount fun row hrow => ?_
    rw [hasked, List.forall_mem_singleton, htable.holds?_owner hrow howner]
    · simp
    · rfl
  · refine htable.listed?_page rfl hcount fun row hrow => ?_
    rw [hasked, List.forall_mem_cons, List.forall_mem_singleton,
      htable.holds?_owner hrow howner, htable.holds?_below hrow howner (hcursor c rfl)]
    · simp
    · rfl
    · rfl
    · rfl
  · refine htable.listed?_page rfl hcount fun row hrow => ?_
    rw [hasked, List.forall_mem_cons, List.forall_mem_singleton,
      htable.holds?_owner hrow howner, htable.holds?_status hrow s]
    · simp
    · rfl
    · rfl
  · refine htable.listed?_page rfl hcount fun row hrow => ?_
    rw [hasked, List.forall_mem_cons, List.forall_mem_cons, List.forall_mem_singleton,
      htable.holds?_owner hrow howner, htable.holds?_status hrow s,
      htable.holds?_below hrow howner (hcursor c rfl)]
    · simp
    · rfl
    · rfl
    · rfl
    · rfl

/-! ### The pages -/

theorem ofRow_only (htable : IsTodoTable table) {row : Row} (hrow : row ∈ table) :
    Todo.ofRow (row.only todoColumns) = .ok (row.only todoColumns).todo := by
  obtain ⟨status, hstatus⟩ := htable.statuses row hrow
  have hknown : Status.ofDatum? (.text status.name) = some status := by
    cases status <;> decide
  have hget : (row.only todoColumns).get .status = .text status.name := hstatus
  rw [Todo.ofRow, hget, hknown, ← hstatus]
  rfl

theorem mapM_eq_ok {ε α β : Type} {f : α → Except ε β} {g : α → β} {l : List α}
    (h : ∀ a ∈ l, f a = .ok (g a)) : l.mapM f = .ok (l.map g) := by
  induction l with
  | nil => rfl
  | cons a rest ih =>
    rw [List.mapM_cons, h a List.mem_cons_self, ih fun b hb => h b (List.mem_cons_of_mem _ hb)]
    rfl

/-- The page made of the rows fetched is the first page of their todos. -/
theorem pageOfRows_eq (htable : IsTodoTable table) {rows : List Row}
    (hrows : ∀ row ∈ rows, row ∈ table) (hpos : 0 < size) :
    pageOfRows size ((rows.take (size + 1)).map (Row.only todoColumns)) =
      .ok (Page.first size (rows.map Row.todo)) := by
  have hids : ∀ todo ∈ rows.map Row.todo, todo.id.isBlank = false := by
    intro todo htodo
    obtain ⟨row, hrow, rfl⟩ := List.mem_map.1 htodo
    obtain ⟨id, hid, hlower⟩ := htable.ids row (hrows row hrow)
    rw [show row.todo.id = .text id from hid]
    exact Datum.isBlank_text (ne_empty_of_isLower hlower)
  rw [← Memory.pageOf_eq_first hpos hids, Memory.pageOf, ← List.map_take, Page.take_map,
    pageOfRows, Page.take_map]
  have hread : ∀ fetched : List Row, (∀ row ∈ fetched, row ∈ rows) →
      (fetched.map (Row.only todoColumns)).mapM Todo.ofRow = .ok (fetched.map Row.todo) := by
    intro fetched hfetched
    have hall : ∀ row ∈ fetched.map (Row.only todoColumns), Todo.ofRow row = .ok row.todo := by
      intro _ hmem
      obtain ⟨row, hrow, rfl⟩ := List.mem_map.1 hmem
      exact ofRow_only htable (hrows row (hfetched row hrow))
    rw [mapM_eq_ok hall, List.map_map]
    rfl
  simp only [Page.withoutBlankCursor]
  rw [hread _ fun row hrow => List.mem_of_mem_take (Page.mem_of_mem_take hrow)]
  rfl

/-! ### The answers -/

/-- The store answers with a page, having sent the query of the listing, if the database
answers that query. -/
def Gives (db : String → List Datum → Outcome) (params : ListParams)
    (page : Page Todo) : Prop :=
  ∀ s : Session,
    let q := listQuery params (pageSize params.size)
    s.answers.head? = some (db q.text q.values) → list params s = (.ok page, s.after [q])

/-- A database answers the queries of listings by what they mean. -/
def AnswersListings (db : String → List Datum → Outcome) (table : List Row) : Prop :=
  ∀ owner status cursor asked size, Uuid.IsLower owner → (∀ c ∈ cursor, Uuid.IsLower c) →
    1 ≤ size → size ≤ maxPageSize →
    let q := listQuery (request owner status cursor asked) size
    ∃ rows touched, q.listed? table = some rows ∧ db q.text q.values = .rows rows touched

/-- The statements of listings. -/
def listStatements : List Statement :=
  [.page todoColumns [.equals .userId 1] 2,
    .page todoColumns [.equals .userId 1, .equals .status 2] 3,
    .page todoColumns [.equals .userId 1, .below 2 1] 3,
    .page todoColumns [.equals .userId 1, .equals .status 2, .below 3 1] 4]

/-- A database that goes by the texts of the statements. -/
def answering (table : List Row) (text : String) (values : List Datum) : Outcome :=
  let statement? := listStatements.find? fun statement => statement.text = text
  match statement?.bind fun statement => (⟨statement, values⟩ : Query).listed? table with
  | some rows => .rows rows none
  | none => .failed "syntax error" .absent

/-- The text of a listing says which statement it is. -/
theorem find?_listStatements : ∀ statement ∈ listStatements,
    (listStatements.find? fun other => other.text = statement.text) = some statement := by
  decide +kernel

theorem answersListings_answering (table : List Row) :
    AnswersListings (answering table) table := by
  intro owner status cursor asked size _ hcursor _ _
  have hstatement : (listQuery (request owner status cursor asked) size).statement ∈
      listStatements := by
    rw [listQuery_request hcursor]
    rcases status with _ | s <;> rcases cursor with _ | c <;> simp [listStatements]
  have hlisted : ∃ rows, (listQuery (request owner status cursor asked) size).listed? table =
      some rows := by
    rw [listQuery_request hcursor]
    rcases status with _ | s <;> rcases cursor with _ | c <;> exact ⟨_, rfl⟩
  obtain ⟨rows, hrows⟩ := hlisted
  refine ⟨rows, none, hrows, ?_⟩
  rw [answering, Query.text, find?_listStatements _ hstatement]
  simp only [Option.bind_some, hrows]

variable {db : String → List Datum → Outcome}

theorem Gives.unique {params : ListParams} {page page' : Page Todo} (h : Gives db params page)
    (h' : Gives db params page') : page = page' := by
  have heq := (h ⟨[_], []⟩ rfl).symm.trans (h' ⟨[_], []⟩ rfl)
  injection heq with hpage
  injection hpage

theorem areKeys_listKeys (howner : Uuid.IsLower owner)
    (hcursor : ∀ c ∈ cursor, Uuid.IsLower c) :
    areKeys (listKeys (request owner status cursor asked)) = .ok true := by
  have hkey : ∀ t, Uuid.IsLower t → isKey (.text t) = true := fun t ht => ht.1
  rcases cursor with _ | c
  · show areKeys [.text owner] = .ok true
    rw [areKeys, hkey owner howner]
    rfl
  · have hblank : (Datum.text c).isBlank = false :=
      Datum.isBlank_text (ne_empty_of_isLower (hcursor c rfl))
    have hkeys : listKeys (request owner status (some c) asked) = [.text owner, .text c] := by
      show (if (Datum.text c).isBlank then _ else _) = _
      rw [hblank]
      rfl
    rw [hkeys, areKeys, areKeys, hkey owner howner, hkey c (hcursor c rfl)]
    rfl

theorem exists_listed (status : Option Status) (asked : Datum) (htable : IsTodoTable table)
    (howner : Uuid.IsLower owner) (hcursor : ∀ c ∈ cursor, Uuid.IsLower c)
    (hsize : size ≤ maxPageSize) :
    ∃ rows : List Row, (∀ row ∈ rows, row ∈ table) ∧ (rows.map Row.todo).Pairwise Todo.Newer ∧
      (∀ todo, todo ∈ rows.map Row.todo ↔
        todo ∈ table.map Row.todo ∧ Asked (table.map Row.todo) owner status cursor todo) ∧
      (listQuery (request owner status cursor asked) size).listed? table =
        some ((rows.take (size + 1)).map (Row.only todoColumns)) := by
  obtain ⟨rows, hlisted, hsorted, hrow⟩ :=
    listed?_listQuery status asked htable howner hcursor hsize
  refine ⟨rows, fun row h => ((hrow row).1 h).1, hsorted, fun todo => ?_, hlisted⟩
  rw [List.mem_map, List.mem_map]
  constructor
  · rintro ⟨row, h, rfl⟩
    obtain ⟨htab, hasked⟩ := (hrow row).1 h
    exact ⟨⟨row, htab, rfl⟩, hasked⟩
  · rintro ⟨⟨row, htab, rfl⟩, hasked⟩
    exact ⟨row, (hrow row).2 ⟨htab, hasked⟩, rfl⟩

/-- The store answers a listing with the first page of the todos that are asked for. -/
theorem gives_first (htable : IsTodoTable table) (hdb : AnswersListings db table)
    (howner : Uuid.IsLower owner) (hcursor : ∀ c ∈ cursor, Uuid.IsLower c)
    (hasked : asked.hasWords = true) {todos : List Todo} (hsorted : todos.Pairwise Todo.Newer)
    (hmem : ∀ todo, todo ∈ todos ↔
      todo ∈ table.map Row.todo ∧ Asked (table.map Row.todo) owner status cursor todo) :
    Gives db (request owner status cursor asked) (Page.first (pageSize asked) todos) := by
  obtain ⟨hpos, hmax⟩ := pageSize_bounds asked
  obtain ⟨rows, hrows, hrowsSorted, hrowsMem, hlisted⟩ :=
    exists_listed status asked htable howner hcursor hmax
  have htodos : rows.map Row.todo = todos :=
    hrowsSorted.eq_of_mem_iff hsorted fun todo => (hrowsMem todo).trans (hmem todo).symm
  rw [← htodos]
  intro s q hanswer
  obtain ⟨found, touched, hfound, hrowsOf⟩ :=
    hdb owner status cursor asked (pageSize asked) howner hcursor hpos hmax
  have hsend : s.send (listQuery (request owner status cursor asked) (pageSize asked)) =
      (db q.text q.values, s.after [q]) := s.send_of_head? hanswer
  have hpage := pageOfRows_eq htable hrows hpos
  rw [hlisted, Option.some.injEq] at hfound
  rw [← hfound] at hrowsOf
  rw [show db q.text q.values = _ from hrowsOf] at hsend
  have hsize : askedSize (request owner status cursor asked).size = .ok (pageSize asked) :=
    askedSize_of_hasWords hasked
  rw [list, withKeys, areKeys_listKeys howner hcursor]
  simp only [hsize]
  rw [hsend]
  simp only [hpage]

end TodoTable

theorem Todo.listedFor_iff {todo : Todo} {owner : Text} {status : Option Status} :
    todo.ListedFor (.text owner) (.ofText? (status.map Status.name)) ↔
      todo.userId = .text owner ∧ ∀ s ∈ status, todo.status = .text s.name := by
  rw [ListedFor, Datum.same_text_iff]
  refine and_congr_right fun _ => ?_
  rcases status with _ | s
  · simp [Datum.ofText?, Datum.ofOption, Datum.isBlank]
  · have hblank : (Datum.text s.name).isBlank = false :=
      Datum.isBlank_text (TodoTable.name_ne_empty s)
    show (Datum.text s.name).isBlank = true ∨ todo.status.same (.text s.name) = true ↔ _
    rw [hblank, Datum.same_text_iff]
    simp

namespace Memory

open TodoTable

variable {m : Memory} {table : List Row} {owner : Text} {status : Option Status}
  {cursor : Option Text} {asked : Datum}

/-- The store in memory can list the todos of a table. -/
theorem listable_of_perm (htable : IsTodoTable table)
    (hm : m.todos.Perm (table.map Row.todo)) : m.Listable := by
  refine ⟨fun todo htodo => ?_, ?_⟩
  · obtain ⟨row, hrow, rfl⟩ := List.mem_map.1 (hm.mem_iff.1 htodo)
    obtain ⟨millis, id, hlower, hkeyed, -⟩ := htable.exists_key hrow
    exact ⟨millis, id, hkeyed, hlower.1⟩
  · refine ((hm.map Todo.id).nodup_iff).2 ?_
    rw [List.map_map]
    exact htable.distinct

/-- A cursor that is none of the user's todos leaves nothing to list. -/
theorem list_of_find_eq_none {u status cursor size : Datum} (hfind : m.find u cursor = none)
    (hblank : cursor.isBlank = false) (hwords : cursor.hasWords = true) :
    m.list ⟨u, status, cursor, size⟩ = .ok .empty := by
  rw [list]
  simp only [Action.listingAfter_of_find_eq_none hfind hblank hwords]

/-- What comes of a listing in memory, told by which todos are found before it. -/
theorem asked_iff (htable : IsTodoTable table) (hm : m.todos.Perm (table.map Row.todo))
    {todo : Todo} :
    todo ∈ table.map Row.todo ∧ Asked (table.map Row.todo) owner status cursor todo ↔
      (todo ∈ m.todos ∧ todo.ListedFor (.text owner) (.ofText? (status.map Status.name))) ∧
        ∀ c ∈ cursor, ∃ anchor, m.find (.text owner) (.text c) = some anchor ∧
          anchor.Newer todo := by
  have hdistinct := (listable_of_perm htable hm).distinct
  have hfind : ∀ c anchor, m.find (.text owner) (.text c) = some anchor ↔
      anchor ∈ table.map Row.todo ∧ anchor.id = .text c ∧ anchor.userId = .text owner := by
    intro c anchor
    rw [hdistinct.find_eq_some_iff, hm.mem_iff, Datum.same_text_iff]
  rw [Todo.listedFor_iff, hm.mem_iff]
  constructor
  · rintro ⟨hmem, howned, hstatus, hafter⟩
    refine ⟨⟨hmem, howned, hstatus⟩, fun c hc => ?_⟩
    obtain ⟨anchor, hanchor, hid, howner, hnewer⟩ := hafter c hc
    exact ⟨anchor, (hfind c anchor).2 ⟨hanchor, hid, howner⟩, hnewer⟩
  · rintro ⟨⟨hmem, howned, hstatus⟩, hafter⟩
    refine ⟨hmem, howned, hstatus, fun c hc => ?_⟩
    obtain ⟨anchor, hanchor, hnewer⟩ := hafter c hc
    obtain ⟨hstored, hid, howner⟩ := (hfind c anchor).1 hanchor
    exact ⟨anchor, hstored, hid, howner, hnewer⟩

/-- The store in memory answers a listing with the first page of the todos that are asked
for. -/
theorem list_eq_first (htable : IsTodoTable table) (hm : m.todos.Perm (table.map Row.todo))
    (hcursor : ∀ c ∈ cursor, Uuid.IsLower c) (hasked : asked.hasWords = true)
    {todos : List Todo} (hsorted : todos.Pairwise Todo.Newer)
    (hmem : ∀ todo, todo ∈ todos ↔
      todo ∈ table.map Row.todo ∧ Asked (table.map Row.todo) owner status cursor todo) :
    m.list (request owner status cursor asked) = .ok (Page.first (pageSize asked) todos) := by
  have hlistable := listable_of_perm htable hm
  rcases cursor with _ | c
  · have hlisting : m.listing (.text owner) (.ofText? (status.map Status.name)) = todos := by
      refine (hlistable.pairwise_listing _ _).eq_of_mem_iff hsorted fun todo => ?_
      rw [mem_listing_iff, hmem, asked_iff htable hm]
      simp
    rw [← hlisting]
    exact hlistable.list_start _ _ hasked
  · rcases hfind : m.find (.text owner) (.text c) with _ | anchor
    · -- nothing comes after a cursor that names none of the owner's todos
      have hnone : todos = [] := by
        refine List.eq_nil_iff_forall_not_mem.2 fun todo htodo => ?_
        obtain ⟨-, hafter⟩ := (asked_iff htable hm).1 ((hmem todo).1 htodo)
        obtain ⟨anchor, hanchor, -⟩ := hafter c rfl
        rw [hfind] at hanchor
        cases hanchor
      have hblank : (Datum.text c).isBlank = false :=
        Datum.isBlank_text (ne_empty_of_isLower (hcursor c rfl))
      rw [hnone, Page.first_of_length_le (Nat.zero_le _)]
      exact list_of_find_eq_none hfind hblank rfl
    · have hanchor : anchor ∈ m.todos := (hlistable.distinct.find_eq_some_iff.1 hfind).1
      have hrest : (m.listing (.text owner) (.ofText? (status.map Status.name))).filter
          (fun t => anchor.listingOrder t = .lt) = todos := by
        refine ((hlistable.pairwise_listing _ _).filter _).eq_of_mem_iff hsorted fun todo => ?_
        rw [hlistable.mem_filter_after_iff hanchor, hmem, asked_iff htable hm]
        simp [hfind]
      rw [← hrest]
      exact hlistable.list_after _ hasked hfind

end Memory

namespace TodoTable

variable {table : List Row} {owner : Text} {status : Option Status} {asked : Datum}
  {db : String → List Datum → Outcome}

/-- A request for the page after a cursor, whatever the cursor is. -/
def requestAfter (owner : Text) (status : Option Status) (asked cursor : Datum) : ListParams :=
  { request owner status none asked with cursor }

theorem requestAfter_text (c : Text) :
    requestAfter owner status asked (.text c) = request owner status (some c) asked := rfl

theorem exists_asked (htable : IsTodoTable table) (howner : Uuid.IsLower owner)
    (status : Option Status) {cursor : Option Text} (hcursor : ∀ c ∈ cursor, Uuid.IsLower c) :
    ∃ todos : List Todo, todos.Pairwise Todo.Newer ∧ ∀ todo, todo ∈ todos ↔
      todo ∈ table.map Row.todo ∧ Asked (table.map Row.todo) owner status cursor todo := by
  obtain ⟨rows, -, hsorted, hmem, -⟩ :=
    exists_listed status .absent htable howner hcursor (by decide : 1 ≤ maxPageSize)
  exact ⟨rows.map Row.todo, hsorted, hmem⟩

/-- After a todo of a listing come the todos that are asked for with it as the cursor. -/
theorem asked_after_iff (htable : IsTodoTable table) {last todo : Todo} {c : Text}
    (hlast : last ∈ table.map Row.todo) (hc : last.id = .text c)
    (howned : last.userId = .text owner) :
    Asked (table.map Row.todo) owner status (some c) todo ↔
      Asked (table.map Row.todo) owner status none todo ∧ last.Newer todo := by
  have hunique : ∀ anchor ∈ table.map Row.todo, anchor.id = .text c → anchor = last := by
    intro anchor hanchor hid
    obtain ⟨row, hrow, rfl⟩ := List.mem_map.1 hanchor
    obtain ⟨row', hrow', rfl⟩ := List.mem_map.1 hlast
    rw [htable.eq_of_id_eq hrow hrow' (hid.trans hc.symm)]
  constructor
  · rintro ⟨howner, hstatus, hafter⟩
    obtain ⟨anchor, hanchor, hid, -, hnewer⟩ := hafter c rfl
    rw [hunique anchor hanchor hid] at hnewer
    exact ⟨⟨howner, hstatus, fun _ h => by cases h⟩, hnewer⟩
  · rintro ⟨⟨howner, hstatus, -⟩, hnewer⟩
    refine ⟨howner, hstatus, ?_⟩
    rintro _ ⟨⟩
    exact ⟨last, hlast, hc, howned, hnewer⟩

/-- Following cursors cuts the todos that are asked for into pages. -/
theorem exists_traverses (htable : IsTodoTable table) (hdb : AnswersListings db table)
    (howner : Uuid.IsLower owner) (hasked : asked.hasWords = true) {todos : List Todo}
    (hsorted : todos.Pairwise Todo.Newer) (hmem : ∀ todo, todo ∈ todos ↔
      todo ∈ table.map Row.todo ∧ Asked (table.map Row.todo) owner status none todo) :
    ∃ pages, Traverses (fun cursor => Gives db (requestAfter owner status asked cursor))
      .absent pages ∧ Divides (pageSize asked) todos pages := by
  have hids : ∀ todo ∈ todos, ∃ id, todo.id = .text id ∧ Uuid.IsLower id := by
    intro todo htodo
    obtain ⟨row, hrow, rfl⟩ := List.mem_map.1 ((hmem todo).1 htodo).1
    exact htable.ids row hrow
  have hnone : ∀ c ∈ (none : Option Text), Uuid.IsLower c := fun _ h => by cases h
  have hstart : Gives db (requestAfter owner status asked .absent)
      (Page.first (pageSize asked) todos) :=
    gives_first htable hdb howner hnone hasked hsorted hmem
  have hwhole : todos = [] ++ todos := rfl
  refine TodoServer.exists_traverses (pageSize_bounds asked).1 ?_ ?_ [] todos hwhole hstart
  · intro todo htodo habsent
    obtain ⟨id, hid, -⟩ := hids todo htodo
    cases habsent.symm.trans hid
  · intro before last after hsplit
    have hlast : last ∈ todos := by
      rw [hsplit]
      simp
    obtain ⟨c, hc, hlower⟩ := hids last hlast
    obtain ⟨hstored, howned, -⟩ := (hmem last).1 hlast
    have hcursor : ∀ c' ∈ some c, Uuid.IsLower c' := by
      rintro _ ⟨⟩
      exact hlower
    rw [hsplit] at hsorted
    have hafter : after.Pairwise Todo.Newer := Todo.pairwise_after hsorted
    rw [hc, requestAfter_text]
    refine gives_first htable hdb howner hcursor hasked hafter fun todo => ?_
    rw [asked_after_iff htable hstored hc howned, ← and_assoc, ← hmem, hsplit]
    exact Todo.mem_after_iff hsorted

end TodoTable

open TodoTable

/-- From a database that answers the queries of listings by what they mean, the store answers a
listing with the first of the owner's todos of the status that come after the owner's todo of
the cursor, from the newest to the oldest, and with a cursor exactly if there are more of them.
The store in memory with the same todos answers with the same page. Following cursors cuts all
that is asked for into pages. The size asked for is any that has words, as every number and
every text has. -/
theorem table_lists_as_memory {table : List Row} (htable : IsTodoTable table)
    {db : String → List Datum → Outcome} (hdb : AnswersListings db table) {owner : Text}
    (howner : Uuid.IsLower owner) (status : Option Status) {cursor : Option Text}
    (hcursor : ∀ c ∈ cursor, Uuid.IsLower c) {asked : Datum} (hasked : asked.hasWords = true) :
    (∃ todos : List Todo,
      (todos.Pairwise Todo.Newer ∧ ∀ todo, todo ∈ todos ↔
        todo ∈ table.map Row.todo ∧ Asked (table.map Row.todo) owner status cursor todo) ∧
      Gives db (request owner status cursor asked) (Page.first (pageSize asked) todos) ∧
      ∀ m : Memory, m.todos.Perm (table.map Row.todo) →
        m.list (request owner status cursor asked) = .ok (Page.first (pageSize asked) todos)) ∧
    ∃ (todos : List Todo) (pages : List (Page Todo)),
      (todos.Pairwise Todo.Newer ∧ ∀ todo, todo ∈ todos ↔ todo ∈ table.map Row.todo ∧
        todo.userId = .text owner ∧ ∀ s ∈ status, todo.status = .text s.name) ∧
      (Traverses (fun next => Gives db (requestAfter owner status asked next)) .absent pages ∧
        ∀ pages', Traverses (fun next => Gives db (requestAfter owner status asked next))
          .absent pages' →
          pages' = pages) ∧
      Divides (pageSize asked) todos pages := by
  have hnone : ∀ c ∈ (none : Option Text), Uuid.IsLower c := fun _ h => by cases h
  constructor
  · obtain ⟨todos, hsorted, hmem⟩ := exists_asked htable howner status hcursor
    refine ⟨todos, ⟨hsorted, hmem⟩, gives_first htable hdb howner hcursor hasked hsorted hmem,
      ?_⟩
    intro m hm
    exact Memory.list_eq_first htable hm hcursor hasked hsorted hmem
  · obtain ⟨todos, hsorted, hmem⟩ := exists_asked htable howner status hnone
    obtain ⟨pages, hpages, hdivides⟩ :=
      TodoTable.exists_traverses htable hdb howner hasked hsorted hmem
    refine ⟨todos, pages, ⟨hsorted, fun todo => ?_⟩, ⟨hpages, fun pages' hpages' => ?_⟩,
      hdivides⟩
    · rw [hmem]
      refine and_congr_right fun _ => ⟨fun h => ⟨h.owned, h.ofStatus⟩, fun h => ?_⟩
      exact ⟨h.1, h.2, fun _ hc => by cases hc⟩
    · exact hpages'.unique (fun _ _ _ h h' => h.unique h') hpages

/-! Three todos of one owner, of which two were created at the same time, and a newer one of
another owner. -/

def tiedOwner : String := "11111111-1111-4111-8111-111111111111"

def otherOwner : String := "22222222-2222-4222-8222-222222222222"

def tiedId (digit : String) : String := digit ++ "0000000-0000-4000-8000-000000000000"

def tiedRow (entry : String × String × Int) : Row :=
  ⟨[(.id, .text entry.1), (.userId, .text entry.2.1), (.status, .text Status.pending.name),
    (.createdAt, .date (.valid entry.2.2))]⟩

def tiedEntries : List (String × String × Int) :=
  [(tiedId "9", tiedOwner, 5), (tiedId "a", tiedOwner, 5), (tiedId "b", tiedOwner, 3),
    (tiedId "c", otherOwner, 7)]

/-- A string is an identifier in lower case, which can be computed. -/
def isLowerString (s : String) : Bool :=
  Uuid.isWellFormed s && s.toList.all fun c => lowerAscii c = c

theorem isLower_of_isLowerString {s : String} (h : isLowerString s = true) :
    Uuid.IsLower s := by
  rw [isLowerString, Bool.and_eq_true, List.all_eq_true] at h
  exact ⟨h.1, s.toList, rfl, fun c hc => of_decide_eq_true (h.2 c hc)⟩

theorem isTodoTable_tied : IsTodoTable (tiedEntries.map tiedRow) := by
  have hlower : ∀ entry ∈ tiedEntries, isLowerString entry.1 = true ∧
      isLowerString entry.2.1 = true := by
    decide +kernel
  have hentry : ∀ row ∈ tiedEntries.map tiedRow, ∃ entry ∈ tiedEntries, tiedRow entry = row :=
    fun row hrow => List.mem_map.1 hrow
  constructor
  · intro row hrow
    obtain ⟨entry, hmem, rfl⟩ := hentry row hrow
    exact ⟨entry.1, rfl, isLower_of_isLowerString (hlower entry hmem).1⟩
  · intro row hrow
    obtain ⟨entry, hmem, rfl⟩ := hentry row hrow
    exact ⟨entry.2.1, rfl, isLower_of_isLowerString (hlower entry hmem).2⟩
  · intro row hrow
    obtain ⟨entry, hmem, rfl⟩ := hentry row hrow
    exact ⟨.pending, rfl⟩
  · intro row hrow
    obtain ⟨entry, hmem, rfl⟩ := hentry row hrow
    exact ⟨entry.2.2, rfl⟩
  · decide +kernel

def tiedTodo (digit owner : String) (created : Int) : Todo :=
  (tiedRow (tiedId digit, owner, created)).todo

/-- After the greater of the two ids of one time comes the other of them, and then the older
todo. -/
theorem asked_tied {todos : List Todo} (hsorted : todos.Pairwise Todo.Newer)
    (hmem : ∀ todo, todo ∈ todos ↔ todo ∈ (tiedEntries.map tiedRow).map Row.todo ∧
      Asked ((tiedEntries.map tiedRow).map Row.todo) tiedOwner none (some (tiedId "a")) todo) :
    todos = [tiedTodo "9" tiedOwner 5, tiedTodo "b" tiedOwner 3] := by
  have htable : (tiedEntries.map tiedRow).map Row.todo = [tiedTodo "9" tiedOwner 5,
      tiedTodo "a" tiedOwner 5, tiedTodo "b" tiedOwner 3, tiedTodo "c" otherOwner 7] := rfl
  have hfirst : (tiedTodo "a" tiedOwner 5).Newer (tiedTodo "9" tiedOwner 5) :=
    ⟨_, _, _, _, ⟨rfl, rfl⟩, ⟨rfl, rfl⟩, by decide +kernel⟩
  have hsecond : (tiedTodo "9" tiedOwner 5).Newer (tiedTodo "b" tiedOwner 3) :=
    ⟨_, _, _, _, ⟨rfl, rfl⟩, ⟨rfl, rfl⟩, by decide⟩
  have hanchor : tiedTodo "a" tiedOwner 5 ∈ (tiedEntries.map tiedRow).map Row.todo := by
    rw [htable]
    simp
  refine hsorted.eq_of_mem_iff (by simpa using hsecond) fun todo => ?_
  rw [hmem, asked_after_iff isTodoTable_tied hanchor rfl rfl, htable]
  constructor
  · rintro ⟨htodo, hasked, hnewer⟩
    have howner : tiedTodo "c" otherOwner 7 ≠ todo := by
      rintro rfl
      exact absurd hasked.owned (by decide +kernel)
    have hother : tiedTodo "a" tiedOwner 5 ≠ todo := hnewer.ne
    simp only [List.mem_cons, List.not_mem_nil, or_false] at htodo ⊢
    rcases htodo with h | rfl | h | rfl
    · exact Or.inl h
    · exact absurd rfl hother
    · exact Or.inr h
    · exact absurd rfl howner
  · intro htodo
    have hasked : ∀ todo : Todo, todo.userId = .text tiedOwner →
        Asked ((tiedEntries.map tiedRow).map Row.todo) tiedOwner none none todo :=
      fun todo howned => ⟨howned, by simp, by simp⟩
    rw [← htable]
    simp only [List.mem_cons, List.not_mem_nil, or_false] at htodo
    rcases htodo with rfl | rfl
    · exact ⟨by simp [htable], hasked _ rfl, hfirst⟩
    · exact ⟨by simp [htable], hasked _ rfl, hfirst.trans hsecond⟩

theorem table_lists_as_memory_tied :
    IsTodoTable (tiedEntries.map tiedRow) ∧
      AnswersListings (answering (tiedEntries.map tiedRow)) (tiedEntries.map tiedRow) ∧
      Uuid.IsLower tiedOwner ∧ Uuid.IsLower (tiedId "a") ∧ (Datum.ofInt 1).hasWords = true ∧
      Gives (answering (tiedEntries.map tiedRow))
        (request tiedOwner none (some (tiedId "a")) (.ofInt 1))
        ⟨[tiedTodo "9" tiedOwner 5], .text (tiedId "9")⟩ ∧
      ∀ m : Memory, m.todos.Perm ((tiedEntries.map tiedRow).map Row.todo) →
        m.list (request tiedOwner none (some (tiedId "a")) (.ofInt 1)) =
          .ok ⟨[tiedTodo "9" tiedOwner 5], .text (tiedId "9")⟩ := by
  have howner : Uuid.IsLower tiedOwner := isLower_of_isLowerString (by decide +kernel)
  have hid : Uuid.IsLower (tiedId "a") := isLower_of_isLowerString (by decide +kernel)
  have hcursor : ∀ c ∈ some (tiedId "a" : Text), Uuid.IsLower c := by
    rintro _ ⟨⟩
    exact hid
  have hwords : (Datum.ofInt 1).hasWords = true := rfl
  have hone : pageSize (.ofInt 1) = 1 := pageSize_ofInt (by decide)
  have hdb := answersListings_answering (tiedEntries.map tiedRow)
  obtain ⟨⟨todos, ⟨hsorted, hmem⟩, hgives, hmemory⟩, -⟩ :=
    table_lists_as_memory isTodoTable_tied hdb howner none hcursor hwords
  rw [hone, asked_tied hsorted hmem] at hgives hmemory
  exact ⟨isTodoTable_tied, hdb, howner, hid, hwords, hgives, hmemory⟩

end TodoServer
