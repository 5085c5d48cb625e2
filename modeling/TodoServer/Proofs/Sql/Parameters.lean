/-
What is sent to the database, and in whose name.

The texts that are sent are few. Which one it is, is decided by the call that is made, and in a
listing by whether a status and a cursor are asked for; nothing that a caller says is part of a
text. So what a text says of its placeholders is found by reading these few, and what is left
to be shown of all calls is which values go with them: the owner of the call where a text says
whose rows it is about, each other value in its own column's place, and identifiers where
columns hold identifiers. A call that has something else for an identifier is answered without
a query.

* `Sql.Query.Parameterised`, `Sql.Query.HeldTo` — what is proved of queries;
* `Sql.Fits.parameterised`, `Sql.Fits.heldTo` — it follows from the text and the values in
  their order;
* `Store.Call.Kind`, `Store.Call.query_eq_ok` — the statements that there are, and when they
  are sent;
* `Store.Call.Kind.fits` — their texts, read;
* `TodoTable.answer_of_not_isKey` — calls that are answered without a query;
* `queries_parameterised` — whatever is called, and whichever user is looked up.
-/
import TodoServer.Identity.Resolver
import TodoServer.Proofs.Sql.Meaning
import TodoServer.Proofs.Sql.Reading
import TodoServer.Proofs.Todo.Queries

namespace TodoServer

namespace Sql

/-! ### Queries -/

/-- The placeholders of a query stand for its values, all of them, and each for the value that
belongs where it is. Where an identifier belongs there is one. -/
structure Query.Parameterised (q : Query) (argument : Slot → Option Datum) : Prop where
  placeholders_iff : ∀ n, n ∈ placeholders q.text.toList ↔ 1 ≤ n ∧ n ≤ q.values.length
  bound : (bindings q.text.toList).map Prod.snd = placeholders q.text.toList
  own : ∀ binding ∈ bindings q.text.toList, ∃ slot value, Slot.ofWord? binding.1 = some slot ∧
    argument slot = some value ∧ placed q.values binding.2 = some value
  keyed : ∀ binding ∈ bindings q.text.toList, ∀ column value,
    Slot.ofWord? binding.1 = some (.column column) → column.isKey = true →
      placed q.values binding.2 = some value → TodoTable.isKey value = true

/-- A query inserts a todo of a user's, or all rows that it is about must be the user's. -/
structure Query.HeldTo (q : Query) (owner : Datum) : Prop where
  named : ∃ n, (Column.userId.name, n) ∈ scope q.text.toList ∧ placed q.values n = some owner
  conjunctive : "OR" ∉ words q.text.toList

theorem placed_of_pos {values : List Datum} {n : Nat} (h : 1 ≤ n) :
    placed values n = values[n - 1]? := by
  obtain ⟨m, rfl⟩ := Nat.exists_eq_add_of_le' h
  rfl

namespace Fits

variable {q : Query} {slots : List Slot} {argument : Slot → Option Datum}
  {binding : String × Nat}

theorem one_le (h : Fits q.text.toList slots) (hbinding : binding ∈ bindings q.text.toList) :
    1 ≤ binding.2 := by
  have hmem : binding.2 ∈ placeholders q.text.toList := by
    rw [← h.bound]
    exact List.mem_map_of_mem hbinding
  have hrange := h.within hmem
  rw [List.mem_range'_1] at hrange
  exact hrange.1

/-- The value of a placeholder is what is said of its slot. -/
theorem placed_eq (h : Fits q.text.toList slots)
    (hvalues : q.values.map some = slots.map argument)
    (hbinding : binding ∈ bindings q.text.toList) :
    ∃ slot ∈ slots, ∃ value, Slot.ofWord? binding.1 = some slot ∧ argument slot = some value ∧
      placed q.values binding.2 = some value := by
  obtain ⟨slot, hslot, hword, hplace⟩ := h.own binding hbinding
  -- slots and values go in the same order
  have hvalue : (q.values.map some)[binding.2 - 1]? = some (argument slot) := by
    rw [hvalues, List.getElem?_map, hplace, Option.map_some]
  rw [List.getElem?_map, Option.map_eq_some_iff] at hvalue
  obtain ⟨value, hget, hargument⟩ := hvalue
  refine ⟨slot, hslot, value, hword, hargument.symm, ?_⟩
  rw [placed_of_pos (h.one_le hbinding), hget]

/-- A text that fits its values makes a query what it should be. -/
theorem parameterised (h : Fits q.text.toList slots)
    (hvalues : q.values.map some = slots.map argument)
    (hkeys : ∀ column value, .column column ∈ slots → column.isKey = true →
      argument (.column column) = some value → TodoTable.isKey value = true) :
    q.Parameterised argument := by
  have hlength : slots.length = q.values.length := by
    rw [← @List.length_map _ _ q.values some, hvalues, List.length_map]
  refine ⟨fun n => ?_, h.bound, fun binding hbinding => ?_, ?_⟩
  · have hrange : n ∈ List.range' 1 slots.length ↔ 1 ≤ n ∧ n ≤ q.values.length := by
      rw [List.mem_range'_1, hlength]
      omega
    rw [← hrange]
    exact ⟨fun hn => h.within hn, fun hn => h.all hn⟩
  · obtain ⟨slot, -, value, hword, hargument, hplaced⟩ := h.placed_eq hvalues hbinding
    exact ⟨slot, value, hword, hargument, hplaced⟩
  · intro binding hbinding column value hcolumn hkey hvalue
    obtain ⟨slot, hslot, other, hword, hargument, hplaced⟩ := h.placed_eq hvalues hbinding
    obtain rfl : slot = .column column := Option.some.inj (hword.symm.trans hcolumn)
    obtain rfl : other = value := Option.some.inj (hplaced.symm.trans hvalue)
    exact hkeys column other hslot hkey hargument

/-- A query whose text has the owner in its scope is held to the owner that is said. -/
theorem heldTo {owner : Datum} (h : Fits q.text.toList slots) (hscoped : Scoped q.text.toList)
    (hvalues : q.values.map some = slots.map argument)
    (howner : argument (.column .userId) = some owner) : q.HeldTo owner := by
  obtain ⟨⟨word, n⟩, hscope, hbinding, rfl⟩ := hscoped.named
  refine ⟨⟨n, hscope, ?_⟩, hscoped.conjunctive⟩
  obtain ⟨slot, -, value, hword, hargument, hplaced⟩ := h.placed_eq hvalues hbinding
  have hslot : Slot.ofWord? Column.userId.name = some (.column .userId) := by decide +kernel
  obtain rfl : slot = .column .userId := Option.some.inj (hword.symm.trans hslot)
  rw [hplaced, ← hargument, howner]

end Fits

end Sql

open Sql

namespace Store.Call

/-! ### The statements that there are -/

/-- Calls that send one text. -/
inductive Kind
  | create
  | find
  | update
  | delete
  | list (byStatus fromCursor : Bool)
deriving DecidableEq

/-- What decides the text that a call sends. -/
def kind : Call → Kind
  | .create _ => .create
  | .find _ _ => .find
  | .update _ => .update
  | .delete _ _ => .delete
  | .list params => .list (!params.status.isBlank) (!params.cursor.isBlank)

/-- What the values that are sent are for, in their order. -/
def Kind.slots : Kind → List Slot
  | .create => [.column .userId, .column .title, .column .description, .column .status,
    .column .dueAt]
  | .find => [.column .id, .column .userId]
  | .update =>
    [.column .title, .column .description, .column .status, .column .dueAt, .column .id,
      .column .userId]
  | .delete => [.column .id, .column .userId]
  | .list byStatus fromCursor =>
    [.column .userId] ++ (if byStatus then [.column .status] else []) ++
      (if fromCursor then [.column .id] else []) ++ [.limit]

/-- The statement of a kind of calls. -/
def Kind.statement : Kind → Statement
  | .create => .insert [.userId, .title, .description, .status, .dueAt]
  | .find => .select .todos todoColumns [.equals .id 1, .equals .userId 2]
  | .update =>
    .update [(.title, 1), (.description, 2), (.status, 3), (.dueAt, 4)]
      [.equals .id 5, .equals .userId 6]
  | .delete => .delete [.equals .id 1, .equals .userId 2]
  | .list false false => .page todoColumns [.equals .userId 1] 2
  | .list true false => .page todoColumns [.equals .userId 1, .equals .status 2] 3
  | .list false true => .page todoColumns [.equals .userId 1, .below 2 1] 3
  | .list true true => .page todoColumns [.equals .userId 1, .equals .status 2, .below 3 1] 4

/-- What a call says of what a value can be for. -/
def argument : Call → Slot → Option Datum
  | .create todo, .column .userId => some todo.userId
  | .create todo, .column .title => some todo.title
  | .create todo, .column .description => some todo.description
  | .create todo, .column .status => some todo.status
  | .create todo, .column .dueAt => some todo.dueAt
  | .find userId _, .column .userId => some userId
  | .find _ id, .column .id => some id
  | .update todo, .column .id => some todo.id
  | .update todo, .column .userId => some todo.userId
  | .update todo, .column .title => some todo.title
  | .update todo, .column .description => some todo.description
  | .update todo, .column .status => some todo.status
  | .update todo, .column .dueAt => some todo.dueAt
  | .delete userId _, .column .userId => some userId
  | .delete _ id, .column .id => some id
  | .list params, .column .userId => some params.userId
  | .list params, .column .status => some params.status
  | .list params, .column .id => some params.cursor
  | .list params, .limit => (askedSize params.size).toOption.map fun size => .ofInt (size + 1)
  | _, _ => none

variable {c : Call} {q : Query}

theorem argument_userId (c : Call) : c.argument (.column .userId) = some c.owner := by
  cases c <;> rfl

/-- A call sends the statement of its kind, with the values that it says. -/
theorem query_eq_ok (h : c.query = .ok q) :
    q.statement = c.kind.statement ∧ q.values.map some = c.kind.slots.map c.argument := by
  cases c with
  | list params =>
    obtain ⟨size, hsize, rfl⟩ := map_eq_ok_iff.1 h
    unfold TodoTable.listQuery kind
    rcases hstatus : params.status.isBlank <;> rcases hcursor : params.cursor.isBlank <;>
      simp [hstatus, hcursor, Kind.statement, Kind.slots, argument, hsize, Except.toOption]
  | _ =>
    cases h
    exact ⟨rfl, rfl⟩

/-- What a call says of columns of identifiers is among its keys. -/
theorem mem_keys {column : Column} {value : Datum} (hslot : .column column ∈ c.kind.slots)
    (hkey : column.isKey = true) (hvalue : c.argument (.column column) = some value) :
    value ∈ c.keys := by
  have hcolumn : column = .id ∨ column = .userId := by
    rw [Column.isKey, Bool.or_eq_true, decide_eq_true_iff, decide_eq_true_iff] at hkey
    exact hkey
  rcases hcolumn with rfl | rfl
  · cases c with
    | create todo => cases hvalue
    | list params =>
      cases hvalue
      rcases hcursor : params.cursor.isBlank
      · simp [keys, TodoTable.listKeys, hcursor]
      · -- no cursor is asked for, and none is sent
        exfalso
        rcases hstatus : params.status.isBlank <;>
          simp [kind, Kind.slots, hcursor, hstatus] at hslot
    | _ =>
      cases hvalue
      simp [keys]
  · rw [argument_userId] at hvalue
    cases hvalue
    cases c with
    | list params =>
      rcases hcursor : params.cursor.isBlank <;>
        simp [keys, TodoTable.listKeys, hcursor, owner]
    | _ => simp [keys, owner]

/-- The texts, read: each has a place for each of its values, where it belongs, and the owner
where it says which rows it is about. -/
theorem Kind.fits (kind : Kind) :
    Fits kind.statement.text.toList kind.slots ∧ Scoped kind.statement.text.toList := by
  rw [Statement.toList_text]
  rcases kind with _ | _ | _ | _ | ⟨_ | _, _ | _⟩ <;> decide +kernel

end Store.Call

/-! ### What is sent -/

namespace TodoTable

/-- A call sends a query. -/
def Sends (c : Store.Call) (s : Session) (q : Query) : Prop :=
  (answer c s).2.sent = s.sent ++ [q]

variable {c : Store.Call} {s : Session} {q : Query}

theorem Sends.query_eq (h : Sends c s q) : areKeys c.keys = .ok true ∧ c.query = .ok q := by
  unfold Sends at h
  rcases answer_cases c s with hnone | ⟨q', hkeys, hquery, hanswer⟩
  · rw [hnone] at h
    simp at h
  · rw [hanswer] at h
    obtain rfl : q' = q := by simpa [Session.after] using h
    exact ⟨hkeys, hquery⟩

theorem sends_of_areKeys (hkeys : areKeys c.keys = .ok true) (hquery : c.query = .ok q)
    (s : Session) : Sends c s q := by
  have hask : answer c s = c.ask s := by rw [answer_eq, withKeys, hkeys]
  rw [Sends, hask, Store.Call.ask, hquery, Session.send_snd]
  rfl

theorem areKeys_eq_true_iff {keys : List Datum} :
    areKeys keys = .ok true ↔ ∀ key ∈ keys, key.hasWords = true ∧ isKey key = true := by
  induction keys with
  | nil => simp [areKeys]
  | cons first rest ih =>
    unfold areKeys
    rw [List.forall_mem_cons, ← ih]
    by_cases hwords : first.hasWords = true <;> by_cases hkey : isKey first = true <;>
      simp [hwords, hkey]

theorem areKeys_of_not_isKey {keys : List Datum} (hwords : ∀ key ∈ keys, key.hasWords = true)
    (h : ∃ key ∈ keys, isKey key = false) : areKeys keys = .ok false := by
  induction keys with
  | nil => simp at h
  | cons first rest ih =>
    have hfirst := hwords first List.mem_cons_self
    unfold areKeys
    rw [hfirst, Bool.not_true, if_neg Bool.false_ne_true]
    by_cases hkey : isKey first = true
    · rw [if_pos hkey]
      refine ih (fun key hmem => hwords key (List.mem_cons_of_mem _ hmem)) ?_
      obtain ⟨key, hmem, hother⟩ := h
      rcases List.mem_cons.1 hmem with rfl | hmem
      · rw [hkey] at hother
        cases hother
      · exact ⟨key, hmem, hother⟩
    · rw [if_neg hkey]

/-- A call that has something else for an identifier is answered without a query. -/
theorem answer_of_not_isKey (h : ∃ key ∈ c.keys, isKey key = false) (s : Session) :
    (answer c s).2 = s ∧
      ((∀ key ∈ c.keys, key.hasWords = true) → (answer c s).1 = c.unanswered) := by
  constructor
  · rcases answer_cases c s with hnone | ⟨q, hkeys, -⟩
    · exact hnone
    · obtain ⟨key, hmem, hother⟩ := h
      rw [(areKeys_eq_true_iff.1 hkeys key hmem).2] at hother
      cases hother
  · intro hwords
    rw [answer_eq, withKeys, areKeys_of_not_isKey hwords h]

end TodoTable

namespace Users

theorem find_snd (subject : Datum) (s : Session) :
    (find subject s).2 = s.after [findQuery subject] := by
  rw [← Session.send_snd]
  unfold find
  rcases s.send (findQuery subject) with ⟨⟨rows, touched⟩ | ⟨message, code⟩, t⟩ <;> rfl

/-- What is said of a user who is looked up. -/
def argument (subject : Datum) : Slot → Option Datum
  | .column .externalSubject => some subject
  | _ => none

theorem findQuery_parameterised (subject : Datum) :
    (findQuery subject).Parameterised (argument subject) := by
  have hfits : Fits (findQuery subject).text.toList [.column .externalSubject] := by
    show Fits (Statement.select .users userColumns [.equals .externalSubject 1]).text.toList _
    rw [Statement.toList_text]
    decide +kernel
  refine hfits.parameterised rfl fun column value hslot hkey _ => ?_
  rw [List.mem_singleton] at hslot
  cases hslot
  cases hkey

end Users

/-- What is sent to the database, whatever is called. One query is sent at most, and it is
where the call has identifiers. Nothing that is said in a call is part of a text: two calls of
one kind that send anything send one text. The values stand for its placeholders, each where it
belongs, the owner where the text says whose rows it is about, and identifiers where
identifiers belong. Where a call has something else for an identifier, nothing is sent, and the
answer is that there is nothing, or no such owner. Of a user who is looked up, the same
holds. -/
theorem queries_parameterised (c : Store.Call) (subject : Datum) (s : Session) :
    ((TodoTable.answer c s).2 = s ∨ ∃ q, TodoTable.Sends c s q) ∧
    ((∀ key ∈ c.keys, key.hasWords = true ∧ TodoTable.isKey key = true) →
      ∀ q, c.query = .ok q → TodoTable.Sends c s q) ∧
    (∀ q, TodoTable.Sends c s q →
      (∀ c' s' q', c'.kind = c.kind → TodoTable.Sends c' s' q' → q'.text = q.text) ∧
      q.Parameterised c.argument ∧ q.HeldTo c.owner) ∧
    ((∃ key ∈ c.keys, TodoTable.isKey key = false) →
      (TodoTable.answer c s).2 = s ∧
        ((∀ key ∈ c.keys, key.hasWords = true) → (TodoTable.answer c s).1 = c.unanswered)) ∧
    ∃ q, (Users.find subject s).2.sent = s.sent ++ [q] ∧
      (∀ subject' s' q', (Users.find subject' s').2.sent = s'.sent ++ [q'] →
        q'.text = q.text) ∧
      q.Parameterised (Users.argument subject) := by
  refine ⟨?_, ?_, ?_, fun h => TodoTable.answer_of_not_isKey h s, ?_⟩
  · rcases TodoTable.answer_cases c s with h | ⟨q, -, -, h⟩
    · exact Or.inl h
    · refine Or.inr ⟨q, ?_⟩
      rw [TodoTable.Sends, h]
      rfl
  · intro hkeys q hquery
    exact TodoTable.sends_of_areKeys (TodoTable.areKeys_eq_true_iff.2 hkeys) hquery s
  · -- the text is that of the kind of the call, which has been read
    intro q hsends
    obtain ⟨hkeys, hquery⟩ := hsends.query_eq
    obtain ⟨hstatement, hvalues⟩ := Store.Call.query_eq_ok hquery
    have hkind := c.kind.fits
    rw [← hstatement] at hkind
    obtain ⟨hfits, hscoped⟩ : Fits q.text.toList c.kind.slots ∧ Scoped q.text.toList := hkind
    refine ⟨?_, ?_, hfits.heldTo hscoped hvalues c.argument_userId⟩
    · intro c' s' q' hsame hsends'
      obtain ⟨hstatement', -⟩ := Store.Call.query_eq_ok hsends'.query_eq.2
      rw [Query.text, Query.text, hstatement', hsame, hstatement]
    · refine hfits.parameterised hvalues fun column value hslot hkey hvalue => ?_
      exact (TodoTable.areKeys_eq_true_iff.1 hkeys value
        (Store.Call.mem_keys hslot hkey hvalue)).2
  · refine ⟨Users.findQuery subject, ?_, ?_, Users.findQuery_parameterised subject⟩
    · rw [Users.find_snd]
      rfl
    · intro subject' s' q' hsent
      rw [Users.find_snd] at hsent
      obtain rfl : Users.findQuery subject' = q' := by simpa [Session.after] using hsent
      rfl

/-! ### A todo that is looked for -/

/-- An identifier, which may be an owner's or a todo's. -/
def someKey : Text := "aaaaaaaa-aaaa-4aaa-8aaa-aaaaaaaaaaaa"

/-- A todo is looked for with one query, held to its owner; where the todo is called `1`, there
is none and no query. -/
theorem queries_parameterised_find :
    let c := Store.Call.find (.text someKey) (.text someKey)
    let q := TodoTable.findQuery (.text someKey) (.text someKey)
    TodoTable.Sends c .empty q ∧ q.Parameterised c.argument ∧ q.HeldTo (.text someKey) ∧
      TodoTable.answer (.find (.text someKey) (.text "1")) .empty = (.ok none, .empty) := by
  intro c q
  obtain ⟨-, hasked, hsent, -, -⟩ := queries_parameterised c .absent .empty
  have hsends : TodoTable.Sends c .empty q := hasked (by decide +kernel) q rfl
  obtain ⟨-, hparameterised, hheld⟩ := hsent q hsends
  obtain ⟨-, -, -, hunanswered, -⟩ :=
    queries_parameterised (.find (.text someKey) (.text "1")) .absent .empty
  obtain ⟨hstate, hreply⟩ :=
    hunanswered ⟨.text "1", List.mem_cons_of_mem _ List.mem_cons_self, by decide +kernel⟩
  refine ⟨hsends, hparameterised, hheld, Prod.ext ?_ hstate⟩
  exact hreply (by decide)

end TodoServer
