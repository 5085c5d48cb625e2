/-
What a listing shows.

A page is made of what has been found for a listing: the first todos of it, as many as the page
holds, each in its wire form, and a cursor if there are more. One more than the page holds is
all that is looked at for that, so it makes no difference whether more has been fetched. It is
the same page whether the todos are in memory or have to be read from rows first; and if one of
them has no wire form, or its row cannot be read, there is none.

* `Finding` — what a listing finds, with its wire form;
* `ShowsFirst` — a page of what has been found, or what is wrong with it;
* `showsFirst_take` — the page that is made of what has been fetched;
* `Memory.showsFirst_list`, `TodoTable.showsFirst_rows` — the pages of the two stores.
-/
import TodoServer.Proofs.Todo.Conversations

namespace TodoServer

open Http Sql

/-! ### Each of many -/

/-- Where something fails for some of the items, it fails for one of them with what comes of
them all. -/
theorem exists_of_mapM_eq_error {ε α β : Type} {f : α → Except ε β} {items : List α} {e : ε}
    (h : items.mapM f = .error e) : ∃ a ∈ items, f a = .error e := by
  induction items with
  | nil => cases h
  | cons a rest ih =>
    rw [List.mapM_cons] at h
    rcases hfirst : f a with e' | b
    · rw [hfirst] at h
      cases h
      exact ⟨a, List.mem_cons_self, hfirst⟩
    · rcases hrest : rest.mapM f with e' | bs
      · rw [hfirst, hrest] at h
        cases h
        obtain ⟨b', hb', hfails⟩ := ih hrest
        exact ⟨b', List.mem_cons_of_mem _ hb', hfails⟩
      · rw [hfirst, hrest] at h
        cases h

/-- Where nothing fails, what comes of the items is what comes of each. -/
theorem map_eq_of_mapM_eq_ok {ε α β : Type} {f : α → Except ε β} {items : List α}
    {values : List β} (h : items.mapM f = .ok values) : items.map f = values.map .ok := by
  induction items generalizing values with
  | nil =>
    cases h
    rfl
  | cons a rest ih =>
    rw [List.mapM_cons] at h
    rcases hfirst : f a with e | b
    · rw [hfirst] at h
      cases h
    · rcases hrest : rest.mapM f with e | bs
      · rw [hfirst, hrest] at h
        cases h
      · rw [hfirst, hrest] at h
        cases h
        rw [List.map_cons, List.map_cons, hfirst, ih hrest]

/-- Items that are put through two steps, each step for all of them: either that is what comes
of each, or one of them fails with what comes of them all. -/
theorem bind_mapM_cases {ε α β γ : Type} (f : α → Except ε β) (g : β → Except ε γ)
    (items : List α) : (∃ values, (items.mapM f).bind (fun bs => bs.mapM g) = .ok values ∧
        items.map (fun a => (f a).bind g) = values.map .ok) ∨
      ∃ e, (items.mapM f).bind (fun bs => bs.mapM g) = .error e ∧
        ∃ a ∈ items, (f a).bind g = .error e := by
  rcases hfirst : items.mapM f with e | bs
  · obtain ⟨a, ha, hfails⟩ := exists_of_mapM_eq_error hfirst
    refine Or.inr ⟨e, rfl, a, ha, ?_⟩
    rw [hfails]
    rfl
  · have hmap : items.map (fun a => (f a).bind g) = bs.map g := by
      have hbind := congrArg (List.map fun x => Except.bind x g) (map_eq_of_mapM_eq_ok hfirst)
      rwa [List.map_map, List.map_map] at hbind
    rcases hsecond : bs.mapM g with e | values
    · obtain ⟨b, hb, hfails⟩ := exists_of_mapM_eq_error hsecond
      have hmem : Except.error e ∈ items.map fun a => (f a).bind g := by
        rw [hmap, ← hfails]
        exact List.mem_map_of_mem hb
      obtain ⟨a, ha, hvalue⟩ := List.mem_map.1 hmem
      exact Or.inr ⟨e, hsecond, a, ha, hvalue⟩
    · exact Or.inl ⟨values, hsecond, hmap.trans (map_eq_of_mapM_eq_ok hsecond)⟩

/-! ### Cursors -/

namespace Page

variable {α : Type} {id : α → Datum} {size : ℕ} {fetched : List α}

theorem lastId_isBlank {items : List α} (hne : items ≠ [])
    (hids : ∀ a ∈ items, (id a).isBlank = false) : (lastId id items).isBlank = false := by
  rw [lastId, List.getLast?_eq_some_getLast hne]
  exact hids _ (List.getLast_mem hne)

/-- A page has a cursor exactly if more has been fetched than it holds. -/
theorem next_take_isBlank (hpos : 0 < size)
    (hids : ∀ a ∈ fetched.take size, (id a).isBlank = false) :
    (take id size fetched).next.isBlank = false ↔ size < fetched.length := by
  by_cases hfits : (fetched.length : ℤ) ≤ size
  · rw [take, if_pos hfits]
    exact iff_of_false (show ¬Datum.absent.isBlank = false by decide) (by omega)
  · have hne : fetched.take size ≠ [] := by
      rw [Ne, List.take_eq_nil_iff]
      rintro (hsize | rfl)
      · omega
      · exact hfits (Int.natCast_nonneg size)
    rw [take, if_neg hfits, if_pos (Int.natCast_nonneg size), Int.toNat_natCast]
    exact iff_of_true (lastId_isBlank hne hids) (by omega)

end Page

theorem Datum.isBlank_unlessBlank (d : Datum) : d.unlessBlank.isBlank = d.isBlank := by
  rw [unlessBlank]
  split_ifs with hblank
  · exact hblank.symm
  · rfl

/-- A value has a member of its own exactly if it is not blank, where blank ones are left
out. -/
theorem Datum.isSome_value?_unlessBlank (d : Datum) :
    d.unlessBlank.value?.isSome = true ↔ d.isBlank = false := by
  rw [unlessBlank]
  rcases hblank : d.isBlank
  · refine iff_of_true ?_ rfl
    rcases d with _ | value | date
    · cases hblank
    · rfl
    · rfl
  · rw [if_pos rfl]
    exact iff_of_false (by decide) (by decide)

/-! ### What is shown -/

/-- Something that a listing finds: its id, and its wire form or what is wrong with it. -/
structure Finding where
  id : Datum
  value : Except Fault Json.Value

def Todo.finding (todo : Todo) : Finding := ⟨todo.id, todo.response⟩

def Sql.Row.finding (row : Row) : Finding := ⟨row.get .id, (Todo.ofRow row).bind Todo.response⟩

/-- What comes of a listing shows the first of what has been found, as many as the page holds,
and a cursor if more has been found; or else one of these cannot be shown. -/
inductive ShowsFirst (size : ℕ) (found : List Finding) : Except Fault Response → Prop
  | page {values : List Json.Value} {cursor : Option Json.Value}
    (hvalues : (found.take size).map Finding.value = values.map .ok)
    (hlength : values.length ≤ size)
    (hcursor : (∀ f ∈ found.take size, f.id.isBlank = false) →
      (cursor.isSome ↔ size < found.length)) :
    ShowsFirst size found (.ok (.json 200 (.object
      (("todos", .array values) ::
        (cursor.map fun value => (("next_cursor" : Text), value)).toList))))
  | fails {f : Finding} {fault : Fault} (hmem : f ∈ found.take size)
    (hvalue : f.value = .error fault) : ShowsFirst size found (.error fault)

namespace ShowsFirst

variable {size : ℕ} {found found' : List Finding} {x : Except Fault Response}

/-- One more than the page holds is all that is looked at. -/
theorem of_take_eq (h : ShowsFirst size found x)
    (htake : found'.take (size + 1) = found.take (size + 1)) : ShowsFirst size found' x := by
  have hfirst : found'.take size = found.take size := by
    have hcut := congrArg (List.take size) htake
    rwa [List.take_take, List.take_take, min_eq_left (Nat.le_succ size)] at hcut
  have hmore : size < found'.length ↔ size < found.length := by
    have hlength := congrArg List.length htake
    rw [List.length_take, List.length_take] at hlength
    omega
  cases h with
  | page hvalues hlength hcursor =>
    rw [← hfirst] at hvalues hcursor
    exact .page hvalues hlength fun hids => (hcursor hids).trans hmore.symm
  | fails hmem hvalue => exact .fails (hfirst ▸ hmem) hvalue

end ShowsFirst

/-- A page made of what has been fetched shows the first of it. -/
theorem showsFirst_take {α : Type} {id : α → Datum} {read : α → Except Fault Todo} {size : ℕ}
    (hpos : 0 < size) (fetched : List α) :
    let page := (Page.take id size fetched).withoutBlankCursor
    ShowsFirst size (fetched.map fun a => ⟨id a, (read a).bind Todo.response⟩)
      (((page.items.mapM read).map fun todos =>
        ⟨todos, page.next⟩).bind Todos.pageResponse) := by
  intro page
  have hwritten :
      ((page.items.mapM read).map fun todos => (⟨todos, page.next⟩ : Page Todo)).bind
        Todos.pageResponse =
      ((page.items.mapM read).bind fun todos => todos.mapM Todo.response).map fun values =>
        .json 200 (.object (Datum.member "todos" (.json (.array values)) ++
          Datum.member "next_cursor" page.next.unlessBlank)) := by
    rcases page.items.mapM read with fault | todos
    · rfl
    · show Todos.pageResponse ⟨todos, page.next⟩ = (todos.mapM Todo.response).map _
      rw [Todos.pageResponse, Todos.pageValue]
      rcases todos.mapM Todo.response with fault | values <;> rfl
  have hitems : page.items = fetched.take size := Page.items_take id size fetched
  rw [hwritten, hitems]
  rcases bind_mapM_cases read Todo.response (fetched.take size) with
    ⟨values, hvalues, hshown⟩ | ⟨fault, hfault, a, ha, hfails⟩
  · rw [hvalues]
    refine @ShowsFirst.page size _ values page.next.unlessBlank.value? ?_ ?_ fun hids => ?_
    · rw [← List.map_take, List.map_map]
      exact hshown
    · have hlength := congrArg List.length hshown
      rw [List.length_map, List.length_map] at hlength
      exact hlength ▸ List.length_take_le size fetched
    · rw [← List.map_take, List.forall_mem_map] at hids
      have hnext : page.next.isBlank = (Page.take id size fetched).next.isBlank :=
        Datum.isBlank_unlessBlank _
      rw [List.length_map, Datum.isSome_value?_unlessBlank, hnext]
      exact Page.next_take_isBlank hpos hids
  · rw [hfault]
    refine .fails (f := ⟨id a, (read a).bind Todo.response⟩) ?_ hfails
    rw [← List.map_take]
    exact List.mem_map_of_mem ha

theorem showsFirst_empty (size : ℕ) : ShowsFirst size [] (Todos.pageResponse .empty) := by
  refine @ShowsFirst.page size [] [] none (congrArg _ List.take_nil)
    (Nat.zero_le size) fun _ => ?_
  exact iff_of_false (by decide) (Nat.not_lt_zero size)

/-- The page of the todos in memory that are in the part of a listing asked for. -/
theorem Memory.showsFirst_list {m : Memory} {params : ListParams} {size : ℕ}
    (hsize : askedSize params.size = .ok size) {part : Option (List Todo)}
    (hpart : m.listingAfter params.userId params.status params.cursor = .ok part) :
    ShowsFirst size ((part.getD []).map Todo.finding)
      ((m.list params).bind Todos.pageResponse) := by
  obtain rfl := pageSize_of_askedSize hsize
  rw [list, hpart]
  rcases part with _ | todos
  · exact showsFirst_empty _
  · rw [hsize]
    have hread : ∀ todos : List Todo, todos.mapM (fun todo => (.ok todo : Except Fault Todo)) =
        .ok todos := by
      intro todos
      refine List.mapM_pure.trans ?_
      rw [List.map_id']
      rfl
    have hshows := @showsFirst_take Todo Todo.id .ok _ (pageSize_bounds params.size).1
      (todos.take (pageSize params.size + 1))
    simp only [hread] at hshows
    refine hshows.of_take_eq ?_
    rw [← List.map_take, ← List.map_take, List.take_take, min_self]
    rfl

/-- The page of the rows that are there, of which the database has given those that a page is
made of. -/
theorem TodoTable.showsFirst_rows {params : ListParams} {size : ℕ}
    (hsize : askedSize params.size = .ok size) {rows there : List Row}
    (touched : Option Number) (hthere : there.take (size + 1) = rows.take (size + 1)) :
    ShowsFirst size (there.map Row.finding)
      (((Store.Call.list params).read (.rows rows touched)).bind Todos.pageResponse) := by
  obtain rfl := pageSize_of_askedSize hsize
  have hshows := @showsFirst_take Row (fun row => row.get .id) Todo.ofRow _
    (pageSize_bounds params.size).1 rows
  rw [Store.Call.read, hsize]
  refine ShowsFirst.of_take_eq hshows ?_
  rw [← List.map_take, ← List.map_take, hthere]
  rfl

end TodoServer
