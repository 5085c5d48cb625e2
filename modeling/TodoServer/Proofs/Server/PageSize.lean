/-
The size of a page.

A request for a listing may name the size of the page in a text. Only a text of digits, with a
sign before them or none, names one, and only from one to a hundred; for any other text, as for
none, the size is twenty. The size is put in range again by the service, by the store and for
the query, which changes it no more. So one size governs a listing from the request to the
answer: the database is asked for one row more, no more todos are shown than the size allows,
and a cursor is given exactly if more are there.

* `WritesInteger`, `readInteger?_eq_some_iff` — the texts that are read as integers;
* `PageSizeOf`, `pageSizeOf_pageSize` — the size that a text stands for, or none;
* `Sql.Query.limit?` — the number of rows that a query asks for at most;
* `Served.ListsBy` — a listing by one page size, from either store;
* `one_page_size` — every text, and every request for a listing.
-/
import TodoServer.Proofs.Config.Environment
import TodoServer.Proofs.Server.Conversations
import TodoServer.Proofs.Server.Showing

namespace TodoServer

open Http Sql

/-! ### Sizes -/

/-- A text of digits, with a sign before them or none, and the integer that it writes. -/
inductive WritesInteger : List Char → ℤ → Prop
  | unsigned {digits : String} {n : ℕ} (h : WritesNumber digits n) :
    WritesInteger digits.toList n
  | plus {digits : String} {n : ℕ} (h : WritesNumber digits n) :
    WritesInteger ('+' :: digits.toList) n
  | minus {digits : String} {n : ℕ} (h : WritesNumber digits n) :
    WritesInteger ('-' :: digits.toList) (-n)

/-- The size of the page that is meant by a text, or by none: the integer that the text writes,
if it is one from one to a hundred, and twenty otherwise. -/
inductive PageSizeOf (given : Option Text) : ℕ → Prop
  | written {text : Text} {n : ℕ} (hgiven : given = some text)
    (hwrites : WritesInteger text.chars n) (hrange : 1 ≤ n ∧ n ≤ 100) : PageSizeOf given n
  | other (hnone : ∀ (text : Text) (n : ℤ), given = some text → WritesInteger text.chars n →
    ¬(1 ≤ n ∧ n ≤ 100)) : PageSizeOf given 20

/-- Digits do not begin with a sign. -/
theorem WritesNumber.readInteger? {digits : String} {n : ℕ} (h : WritesNumber digits n) :
    Decimal.readInteger? digits.toList = some (n : ℤ) := by
  have hnumeral := numeral?_eq_some_iff.2 h
  obtain ⟨-, hdigits, -⟩ := h
  unfold Decimal.readInteger?
  split
  · next rest heq =>
    exact absurd (hdigits '-' (heq ▸ List.mem_cons_self)) (by decide)
  · next rest heq =>
    exact absurd (hdigits '+' (heq ▸ List.mem_cons_self)) (by decide)
  · rw [hnumeral]
    rfl

theorem exists_writesNumber {digits : List Char} {k : ℕ} (h : numeral? digits = some k) :
    ∃ text : String, digits = text.toList ∧ WritesNumber text k := by
  have htext : digits = (String.ofList digits).toList := String.toList_ofList.symm
  exact ⟨_, htext, numeral?_eq_some_iff.1 (htext ▸ h)⟩

theorem readInteger?_eq_some_iff {cs : List Char} {n : ℤ} :
    Decimal.readInteger? cs = some n ↔ WritesInteger cs n := by
  constructor
  · intro h
    unfold Decimal.readInteger? at h
    split at h
    · next digits =>
      rcases hnumeral : numeral? digits with _ | k <;> rw [hnumeral] at h <;> cases h
      obtain ⟨text, rfl, hwrites⟩ := exists_writesNumber hnumeral
      exact .minus hwrites
    · next digits =>
      rcases hnumeral : numeral? digits with _ | k <;> rw [hnumeral] at h <;> cases h
      obtain ⟨text, rfl, hwrites⟩ := exists_writesNumber hnumeral
      exact .plus hwrites
    · rcases hnumeral : numeral? cs with _ | k <;> rw [hnumeral] at h <;> cases h
      obtain ⟨text, rfl, hwrites⟩ := exists_writesNumber hnumeral
      exact .unsigned hwrites
  · intro h
    cases h with
    | unsigned h => exact h.readInteger?
    | plus h =>
      rw [Decimal.readInteger?, numeral?_eq_some_iff.2 h]
      rfl
    | minus h =>
      rw [Decimal.readInteger?, numeral?_eq_some_iff.2 h]
      rfl

theorem pageSize_text (t : Text) :
    pageSize (.text t) =
      match Decimal.readInteger? t.chars with
      | some n => clampSize n
      | none => defaultPageSize := rfl

theorem pageSizeOf_pageSize (given : Option Text) :
    PageSizeOf given (pageSize (.ofText? given)) := by
  rcases given with _ | t
  · exact .other nofun
  · show PageSizeOf (some t) (pageSize (.text t))
    rw [pageSize_text]
    rcases hread : Decimal.readInteger? t.chars with _ | n
    · refine .other ?_
      rintro _ n ⟨⟩ hwrites
      rw [readInteger?_eq_some_iff.2 hwrites] at hread
      cases hread
    · show PageSizeOf (some t) (clampSize n)
      rw [clampSize]
      split_ifs with hrange
      · have hmax : (maxPageSize : ℤ) = 100 := rfl
        have hnat : (n.toNat : ℤ) = n := Int.toNat_of_nonneg (by omega)
        refine .written rfl ?_ (by omega)
        rw [hnat]
        exact readInteger?_eq_some_iff.1 hread
      · refine .other ?_
        rintro _ k ⟨⟩ hwrites
        rw [readInteger?_eq_some_iff.2 hwrites] at hread
        exact Option.some_inj.1 hread ▸ hrange

/-! ### Queries -/

/-- The value by which a query says how many rows it asks for at most. -/
def Sql.Query.limit? (q : Query) : Option Datum :=
  match q.statement with
  | .page _ _ place => q.values[place - 1]?
  | _ => none

/-- One row more is asked for than the page holds. -/
theorem TodoTable.limit?_listQuery (params : ListParams) (size : ℕ) :
    (listQuery params size).limit? = some (.ofInt (size + 1)) :=
  List.getElem?_concat_length

/-! ### Listings -/

/-- A listing makes one call to the store, and what comes of that is written. -/
theorem Action.handle_list {σ : Type} {store : Store.Answers σ} {caller : Datum}
    {input : ListInput} (st : σ) (hblank : caller.isBlank = false)
    (hwords : input.size.hasWords = true) :
    let c : Store.Call :=
      .list ⟨caller, input.status, input.cursor, .ofInt (pageSize input.size)⟩
    (Action.list input).handle store caller st =
      ((store c st).1.bind Todos.pageResponse, (store c st).2) := by
  intro c
  rw [handle_of_not_blank hblank, program, Operation.list, askedSize_of_hasWords hwords]
  simp only [Store.Program.ask, Store.Program.map, Store.Program.run]
  rcases (store c st).1 with fault | page <;> rfl

/-- What a client is not told of is answered alike. -/
theorem Stage.responseTo_of_discreet {x : Except Fault Response} (h : Discreet x) :
    responseTo x = x.toOption.getD .internalError := by
  rcases x with fault | response
  · cases fault with
    | api e => exact absurd rfl (h e)
    | _ => rfl
  · rfl

/-- The parameters of a request are texts, which have words. -/
theorem Route.cursor_hasWords {r : Request} {input : ListInput}
    (h : asked r = .ok (.list input)) : input.cursor.hasWords = true := by
  obtain ⟨status, -, hinput⟩ := map_eq_ok_iff.1 (listing_of_asked h)
  cases hinput
  show (Todos.parameter r "cursor").unlessBlank.hasWords = true
  rw [Todos.parameter, Datum.unlessBlank]
  split_ifs
  · rfl
  · cases r.parameter? "cursor" <;> rfl

theorem Route.size_of_asked {r : Request} {input : ListInput}
    (h : asked r = .ok (.list input)) :
    input.size = .ofInt (pageSize (.ofText? ((r.parameter? "limit").map Text.ofString))) := by
  obtain ⟨status, -, hinput⟩ := map_eq_ok_iff.1 (listing_of_asked h)
  cases hinput
  rfl

namespace Memory

/-- There is a part of a listing after every cursor that has words. -/
theorem exists_listingAfter (m : Memory) (u status : Datum) {cursor : Datum}
    (hwords : cursor.hasWords = true) : ∃ part, m.listingAfter u status cursor = .ok part := by
  rw [listingAfter, hwords]
  by_cases hblank : cursor.isBlank = true
  · exact ⟨_, if_pos hblank⟩
  · rw [if_neg hblank, Bool.not_true, if_neg Bool.false_ne_true]
    split_ifs
    · exact ⟨_, rfl⟩
    · exact ⟨_, rfl⟩

end Memory

namespace Served

/-- A request is answered with the first of what has been found, or with a failure where these
cannot be shown. -/
def Shows (s : Served) (size : ℕ) (found : List Finding) : Prop :=
  ∃ x, ShowsFirst size found x ∧
    s.response = App.sent s.request s.requestId (x.toOption.getD .internalError)

/-- A request is a listing by one page size. The store is called once, for pages of the size.
What is in memory for the listing is shown by it, and what is in the database, of which one row
more is asked for. -/
structure ListsBy (s : Served) (params : ListParams) (size : ℕ) : Prop where
  size_eq : params.size = .ofInt size
  called : s.after.calls = s.before.calls ++ [.list params]
  memory : s.app.store = .memory →
    ∃ part, s.before.memory.listingAfter params.userId params.status params.cursor = .ok part ∧
      s.Shows size ((part.getD []).map Todo.finding)
  /-- The rows answered are those that are there, as far as the query asks for them. -/
  database : s.app.store = .database → TodoTable.areKeys (TodoTable.listKeys params) =
    .ok true →
    ∃ q outcome users, s.turns params.userId = [⟨.list params, q, outcome⟩] ∧
      s.Sends params.userId users ∧ TodoTable.askedQuery params = .ok q ∧
      q.limit? = some (.ofInt (size + 1)) ∧
      (∀ rows touched, outcome = .rows rows touched → ∀ there : List Row,
        there.take (size + 1) = rows.take (size + 1) → s.Shows size (there.map Row.finding)) ∧
      ∀ message code, outcome = .failed message code →
        s.response = App.sent s.request s.requestId .internalError
  /-- What is no identifier owns nothing and names nothing, so nothing is asked for. -/
  unasked : s.app.store = .database → TodoTable.areKeys (TodoTable.listKeys params) =
    .ok false →
    s.turns params.userId = [] ∧ s.Shows size []
  wordless : s.app.store = .database → ∀ fault,
    TodoTable.areKeys (TodoTable.listKeys params) = .error fault →
    s.turns params.userId = [] ∧ s.response = App.sent s.request s.requestId .internalError

variable {s : Served} {caller : Datum} {input : ListInput} {params : ListParams} {size : ℕ}

/-- A listing takes the turn of its one call. -/
theorem turns_of_list (hasked : Route.asked s.request = .ok (.list input))
    (hblank : caller.isBlank = false)
    (hparams : params = ⟨caller, input.status, input.cursor, .ofInt (pageSize input.size)⟩) :
    s.turns caller = (Store.Call.list params).turns s.admitted.database := by
  rw [hparams, turns_of_asked hasked hblank, Action.program, Store.Program.turns_map,
    Operation.turns_list (Route.hasWords_of_asked hasked)]

variable (hguarded : s.request.IsGuarded) (hcaller : s.Establishes caller)
  (hasked : Route.asked s.request = .ok (.list input)) (hblank : caller.isBlank = false)
  (hparams : params = ⟨caller, input.status, input.cursor, .ofInt (pageSize input.size)⟩)

include hguarded hcaller hasked hblank hparams

/-- A listing is answered by what its one call to the store comes to. -/
theorem response_of_list :
    s.response = App.sent s.request s.requestId
        (((World.store s.app.store (.list params) s.admitted).1.bind
          Todos.pageResponse).toOption.getD .internalError) ∧
      s.after.calls = s.before.calls ++ [.list params] := by
  subst hparams
  obtain ⟨hresponse, haside⟩ := response_of_establishes hguarded hcaller
  rw [hasked, Route.perform,
    Action.handle_list s.admitted hblank (Route.hasWords_of_asked hasked)] at hresponse haside
  constructor
  · rw [hresponse, Stage.responseTo_of_discreet]
    exact (World.discreet_store _ _ _).bind fun page =>
      Action.discreet_write (.list input) (.page page)
  · rw [haside.calls_eq, ← (admitted_eq hguarded hcaller).2]
    cases s.app.store <;> rfl

theorem response_of_memory (hstore : s.app.store = .memory) :
    s.response = App.sent s.request s.requestId
      (((s.before.memory.list params).bind Todos.pageResponse).toOption.getD
        .internalError) := by
  rw [(response_of_list hguarded hcaller hasked hblank hparams).1, hstore,
    ← (admitted_eq hguarded hcaller).1]
  rfl

theorem response_of_table (hstore : s.app.store = .database) :
    s.response = App.sent s.request s.requestId
      (((TodoTable.answer (.list params) s.admitted.database).1.bind
        Todos.pageResponse).toOption.getD .internalError) := by
  rw [(response_of_list hguarded hcaller hasked hblank hparams).1, hstore]
  rfl

theorem listsBy (hsize : input.size = .ofInt size) (hmeant : pageSize (.ofInt size) = size) :
    s.ListsBy params size := by
  have haskedSize : askedSize params.size = .ok size := by
    rw [hparams, hsize, hmeant, askedSize_of_hasWords rfl]
    exact congrArg Except.ok hmeant
  have hquery : TodoTable.askedQuery params = .ok (TodoTable.listQuery params size) := by
    rw [TodoTable.askedQuery, haskedSize]
    rfl
  have hturns := turns_of_list hasked hblank hparams
  have htable := response_of_table hguarded hcaller hasked hblank hparams
  have huser : params.userId = caller := by rw [hparams]
  constructor
  case size_eq => rw [hparams, hsize, hmeant]
  case called => exact (response_of_list hguarded hcaller hasked hblank hparams).2
  case memory =>
    intro hstore
    have hwords : params.cursor.hasWords = true := by
      rw [hparams]
      exact Route.cursor_hasWords hasked
    obtain ⟨part, hpart⟩ := Memory.exists_listingAfter s.before.memory params.userId
      params.status hwords
    exact ⟨part, hpart, _, Memory.showsFirst_list haskedSize hpart,
      response_of_memory hguarded hcaller hasked hblank hparams hstore⟩
  case database =>
    intro hstore hkeys
    obtain ⟨users, hsends⟩ := exists_sends hguarded hcaller hstore
    rcases TodoTable.answer_turns (.list params) s.admitted.database with
      ⟨q, -, hq, hturn, hanswer⟩ | ⟨hnone, -⟩
    · obtain rfl : TodoTable.listQuery params size = q := Except.ok.inj (hquery.symm.trans hq)
      have hresponse := htable hstore
      rw [hanswer] at hresponse
      rw [huser]
      refine ⟨_, _, users, hturns.trans hturn, hsends, hquery,
        TodoTable.limit?_listQuery params size,
        fun rows touched hrows there hthere => ?_, fun message code hfailed => ?_⟩
      · rw [hrows] at hresponse
        exact ⟨_, TodoTable.showsFirst_rows haskedSize touched hthere, hresponse⟩
      · rw [hfailed] at hresponse
        exact hresponse
    · obtain ⟨fault, hfault⟩ := hnone hkeys
      cases hquery.symm.trans hfault
  case unasked =>
    intro hstore hkeys
    obtain ⟨hnone, hanswer⟩ := @TodoTable.answer_of_areKeys_eq_false (.list params) hkeys
      s.admitted.database
    have hresponse := htable hstore
    rw [hanswer] at hresponse
    exact ⟨huser ▸ hturns.trans hnone, _, showsFirst_empty size, hresponse⟩
  case wordless =>
    intro hstore fault hkeys
    obtain ⟨hnone, hanswer⟩ := @TodoTable.answer_of_areKeys_eq_error (.list params) _ hkeys
      s.admitted.database
    have hresponse := htable hstore
    rw [hanswer] at hresponse
    exact ⟨huser ▸ hturns.trans hnone, hresponse⟩

end Served

/-- A text stands for the size that it writes if that is one from one to a hundred, and any
other, or none, for twenty; put in range once more, a size is what it was. So a listing goes by
the size that its request stands for, from either store: it asks the database for one row more,
and it shows no more todos than that, with a cursor exactly if there are more. Nothing is
listed for a caller without an id. -/
theorem one_page_size :
    (∀ given : Option Text, PageSizeOf given (pageSize (.ofText? given))) ∧
    (∀ asked : Datum, pageSize (.ofInt (pageSize asked)) = pageSize asked) ∧
    ∀ (s : Served) (caller : Datum) (input : ListInput), s.request.IsGuarded →
      s.Establishes caller →
      Route.asked s.request = .ok (.list input) →
      let size := pageSize (.ofText? ((s.request.parameter? "limit").map Text.ofString))
      input.size = .ofInt size ∧
      (caller.isBlank = false →
        s.ListsBy ⟨caller, input.status, input.cursor, .ofInt size⟩ size) ∧
      (caller.isBlank = true →
        s.response = App.sent s.request s.requestId .internalError) := by
  refine ⟨pageSizeOf_pageSize, pageSize_ofInt_pageSize,
    fun s caller input hguarded hcaller hasked => ?_⟩
  intro size
  have hsize : input.size = .ofInt size := Route.size_of_asked hasked
  have hmeant : pageSize (.ofInt size) = size := pageSize_ofInt_pageSize _
  refine ⟨hsize, fun hblank => ?_, fun hblank => ?_⟩
  · refine Served.listsBy hguarded hcaller hasked hblank ?_ hsize hmeant
    rw [hsize, hmeant]
  · have hresponse := (Served.response_of_establishes hguarded hcaller).1
    rw [hasked, Route.perform, Action.handle_of_blank hblank] at hresponse
    exact hresponse

/-- A row of a todo of a user's. -/
def plainRow (digit : String) : Row :=
  ⟨[(.id, .text (digit ++ "aaaaaaa-aaaa-4aaa-8aaa-aaaaaaaaaaaa")), (.userId, .text smallId),
    (.title, .text "t"), (.description, .text ""), (.status, .text "pending"), (.dueAt, .null),
    (.createdAt, .date (.valid 0)), (.updatedAt, .date (.valid 0))]⟩

def threeRows : List Row := [plainRow "3", plainRow "2", plainRow "1"]

/-- A listing is asked for by pages of two, and the database has three rows. -/
def twoOfThree : Served :=
  trustingStartup.app.meet (.initial 0 (.rejected ""))
    { posting "" with
      request :=
        { method := "GET"
          path := "/api/v1/todos"
          query := [("limit", "+002")]
          headers := [("X-User-ID", smallId)]
          body := none }
      answers := [.rows threeRows none] }

/-- Three rows are asked for, and two todos are shown with a cursor. -/
theorem one_page_size_twoOfThree :
    PageSizeOf (some "+002") 2 ∧
      ∃ t values cursor, twoOfThree.turns (.text smallId) = [t] ∧
        t.query.limit? = some (.ofInt 3) ∧ values.length = 2 ∧
        twoOfThree.response = App.sent twoOfThree.request twoOfThree.requestId
          (.json 200 (.object [("todos", .array values), ("next_cursor", cursor)])) := by
  have hguarded : twoOfThree.request.IsGuarded := ⟨by decide +kernel, by decide +kernel⟩
  have hcaller : twoOfThree.Establishes (.text smallId) := by
    have hheader : twoOfThree.request.header? Gate.devUserHeader =
        some smallId := by decide +kernel
    exact .trusted hheader (by decide)
  have hasked : Route.asked twoOfThree.request = .ok (.list ⟨.absent, .absent, .ofInt 2⟩) :=
    rfl
  obtain ⟨hsizes, -, hlists⟩ := one_page_size
  obtain ⟨-, hlists, -⟩ := hlists twoOfThree _ _ hguarded hcaller hasked
  have hsize :
      pageSize (.ofText? ((twoOfThree.request.parameter? "limit").map Text.ofString)) = 2 := by
    decide +kernel
  rw [hsize] at hlists
  obtain ⟨q, outcome, users, hturns, -, -, hlimit, hrows, -⟩ :=
    (hlists (by decide)).database rfl (by decide +kernel)
  have houtcome : outcome = .rows threeRows none := by
    have hanswered : (twoOfThree.turns (.text smallId)).map Turn.outcome =
        [.rows threeRows none] := by
      decide +kernel
    rw [hturns] at hanswered
    exact (List.cons.inj hanswered).1
  have hids : ∀ f ∈ (threeRows.map Row.finding).take 2,
      f.id.isBlank = false := by decide +kernel
  have hshown : ∀ f ∈ (threeRows.map Row.finding).take 2, f.value.toOption.isSome = true := by
    decide +kernel
  obtain ⟨x, hshows, hresponse⟩ := hrows _ _ houtcome threeRows rfl
  refine ⟨hsizes (some "+002"), ?_⟩
  cases hshows with
  | fails hmem hvalue =>
    have hsome := hshown _ hmem
    rw [hvalue] at hsome
    cases hsome
  | @page values cursor hvalues hlength hcursor =>
    obtain ⟨next, rfl⟩ := Option.isSome_iff_exists.1 ((hcursor hids).2 (by decide))
    have hcount := congrArg List.length hvalues
    rw [List.length_map, List.length_map] at hcount
    exact ⟨_, values, next, hturns, hlimit, hcount.symm, hresponse⟩

end TodoServer
