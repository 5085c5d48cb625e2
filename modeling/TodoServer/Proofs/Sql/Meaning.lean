/-
What listings mean to the database.

A statement for a page is read as the database reads it: `$n` stands for the `n`th value; a
condition on a null is neither true nor false, and only rows on which all conditions are true
are kept; identifiers are compared by what they stand for, and pairs of columns by the first
and then by the second. A comparison with a row that a sub-select does not find is one with
nulls, so no row is kept.

On a table whose identifiers are in lower case and whose columns hold what they are declared to
hold, the conditions come down to equations between texts, and the order to that of creation
times and of ids as texts.

* `Sql.Condition.holds?`, `Sql.Query.listed?` — conditions and pages, as the database reads
  them;
* `Sql.IsTodoTable` — rows as the columns of todos are declared;
* `Sql.IsTodoTable.holds?_owner` and its like — the conditions of listings on such rows;
* `Sql.IsTodoTable.newer_iff` — the order of such rows is that of the todos that they are of.
-/
import TodoServer.Proofs.Text.Order
import TodoServer.Proofs.Number.Rounding
import TodoServer.Proofs.Todo.Numbering
import TodoServer.Proofs.Todo.Order
import TodoServer.Todo.Table

namespace TodoServer

namespace Sql

/-- What `$n` stands for. -/
def placed (values : List Datum) : Nat → Option Datum
  | 0 => none
  | n + 1 => values[n]?

/-- Whether a column holds identifiers. -/
def Column.isKey (column : Column) : Bool := column = .id || column = .userId

/-- Whether a cell of a column equals a value, unknown where one is null. -/
def Column.equals? (column : Column) (cell value : Datum) : Option Bool :=
  if cell.isMissing || value.isMissing then none
  else if column.isKey then some (Uuid.digits cell.words = Uuid.digits value.words)
  else some (cell = value)

/-- A row's creation time and id, in the order in which the database compares them. -/
def Row.key? (row : Row) : Option (Int ×ₗ List ℕ) :=
  match row.get .createdAt, row.get .id with
  | .date (.valid millis), .json (.text id) => some (toLex (millis, Uuid.digits id))
  | _, _ => none

/-- The same pair, where a row has both. -/
def Row.sortKey (row : Row) : Int ×ₗ List ℕ := row.key?.getD (toLex (0, []))

/-- Whether a row comes before another, or level with it, by descending time and then id. -/
def Row.newestFirst (a b : Row) : Bool := b.sortKey ≤ a.sortKey

/-- Whether a row has a value in a column, if that is known. -/
def Row.equals? (values : List Datum) (row : Row) (column : Column) (n : Nat) : Option Bool :=
  (placed values n).bind fun value => column.equals? (row.get column) value

/-- Whether the sub-select of an anchor selects a row. -/
def selects (values : List Datum) (id owner : Nat) (c : Row) : Bool :=
  c.equals? values .id id = some true && c.equals? values .userId owner = some true

/-- Whether a row meets a condition, if that is known. -/
def Condition.holds? (table : List Row) (values : List Datum) (row : Row) :
    Condition → Option Bool
  | .equals column n => row.equals? values column n
  | .below id owner => (table.find? (selects values id owner)).bind fun anchor =>
    row.key?.bind fun key => anchor.key?.map fun bound => key < bound

/-- The first rows, as many as a limit says. Without a limit there are all of them. -/
def limited (rows : List Row) : Option Datum → List Row
  | some (.json (.number n)) => rows.take (n.integer?.getD 0).toNat
  | _ => rows

/-- A row with some columns only. -/
def Row.only (columns : List Column) (row : Row) : Row :=
  ⟨columns.map fun column => (column, row.get column)⟩

/-- The rows on which all conditions are true. -/
def kept (table : List Row) (values : List Datum) (conditions : List Condition) : List Row :=
  table.filter fun row =>
    conditions.all fun condition => condition.holds? table values row = some true

/-- The rows that a query for a page finds. -/
def Query.listed? (table : List Row) (q : Query) : Option (List Row) :=
  match q.statement with
  | .page columns conditions limit =>
    let sorted := (kept table q.values conditions).mergeSort Row.newestFirst
    some ((limited sorted (placed q.values limit)).map (Row.only columns))
  | _ => none

/-! ### Tables of todos -/

/-- The rows of a table of todos, identifiers written in lower case. -/
structure IsTodoTable (table : List Row) : Prop where
  ids : ∀ row ∈ table, ∃ id, row.get .id = .text id ∧ Uuid.IsLower id
  owners : ∀ row ∈ table, ∃ owner, row.get .userId = .text owner ∧ Uuid.IsLower owner
  statuses : ∀ row ∈ table, ∃ status : Status, row.get .status = .text status.name
  times : ∀ row ∈ table, ∃ millis, row.get .createdAt = .date (.valid millis)
  distinct : (table.map fun row => row.get .id).Nodup

/-- The todo that a row is of. -/
def Row.todo (row : Row) : Todo :=
  { id := row.get .id, userId := row.get .userId, title := row.get .title,
    description := row.get .description, status := row.get .status, dueAt := row.get .dueAt,
    createdAt := row.get .createdAt, updatedAt := row.get .updatedAt }

variable {table : List Row} {row anchor : Row} {values : List Datum} {owner cursor : Text}
  {n : Nat}

/-- Identifiers in lower case are the same to the database if they are the same text. -/
theorem Column.equals?_key {column : Column} (hkey : column.isKey = true) {a b : Text}
    (ha : Uuid.IsLower a) (hb : Uuid.IsLower b) :
    column.equals? (.text a) (.text b) = some true ↔ Datum.text a = .text b := by
  have hnull : ¬((Datum.text a).isMissing || (Datum.text b).isMissing) = true := by
    simp [Datum.isMissing]
  rw [equals?, if_neg hnull, if_pos hkey, Option.some.injEq, decide_eq_true_iff]
  constructor
  · intro h
    rw [(Uuid.IsLower.digits_inj ha hb).1 h]
  · intro h
    exact congrArg (fun d => Uuid.digits (Datum.words d)) h

namespace IsTodoTable

theorem eq_of_id_eq (h : IsTodoTable table) (hrow : row ∈ table) (hanchor : anchor ∈ table)
    (hid : row.get .id = anchor.get .id) : row = anchor :=
  List.inj_on_of_nodup_map h.distinct hrow hanchor hid

theorem exists_key (h : IsTodoTable table) (hrow : row ∈ table) :
    ∃ millis id, Uuid.IsLower id ∧ row.todo.Keyed millis id ∧
      row.key? = some (toLex (millis, Uuid.digits id)) := by
  obtain ⟨id, hid, hlower⟩ := h.ids row hrow
  obtain ⟨millis, hcreated⟩ := h.times row hrow
  refine ⟨millis, id, hlower, ⟨hcreated, hid⟩, ?_⟩
  rw [Row.key?, hcreated, hid]

theorem key?_eq (h : IsTodoTable table) (hrow : row ∈ table) :
    row.key? = some row.sortKey := by
  obtain ⟨millis, id, -, -, hkey⟩ := h.exists_key hrow
  rw [Row.sortKey, hkey]
  rfl

/-- The order of the database is the order of listings. -/
theorem newer_iff (h : IsTodoTable table) (hanchor : anchor ∈ table) (hrow : row ∈ table) :
    anchor.todo.Newer row.todo ↔ row.sortKey < anchor.sortKey := by
  obtain ⟨s, x, hx, hkeyed, hkey⟩ := h.exists_key hrow
  obtain ⟨t, y, hy, hkeyed', hkey'⟩ := h.exists_key hanchor
  rw [Row.sortKey, Row.sortKey, hkey, hkey', Option.getD_some, Option.getD_some,
    Todo.newer_iff_of_keyed hkeyed' hkeyed, Uuid.IsLower.lt_iff_digits_lt hx hy,
    Prod.Lex.toLex_lt_toLex]

/-- No two rows are level with each other. -/
theorem eq_of_sortKey_eq (h : IsTodoTable table) (hanchor : anchor ∈ table)
    (hrow : row ∈ table) (heq : anchor.sortKey = row.sortKey) : anchor = row := by
  obtain ⟨s, x, hx, hkeyed, hkey⟩ := h.exists_key hrow
  obtain ⟨t, y, hy, hkeyed', hkey'⟩ := h.exists_key hanchor
  rw [Row.sortKey, Row.sortKey, hkey, hkey', Option.getD_some, Option.getD_some] at heq
  have hid : y = x := (Uuid.IsLower.digits_inj hy hx).1 (congrArg (fun k => (ofLex k).2) heq)
  refine h.eq_of_id_eq hanchor hrow ?_
  rw [show anchor.get .id = .text y from hkeyed'.2,
    show row.get .id = .text x from hkeyed.2, hid]

theorem holds?_owner (h : IsTodoTable table) (hrow : row ∈ table) (howner : Uuid.IsLower owner)
    (hplaced : placed values n = some (.text owner)) :
    (Condition.equals .userId n).holds? table values row = some true ↔
      row.get .userId = .text owner := by
  obtain ⟨other, hother, hlower⟩ := h.owners row hrow
  rw [Condition.holds?, Row.equals?, hplaced, Option.bind_some, hother]
  exact Column.equals?_key rfl hlower howner

theorem holds?_status (h : IsTodoTable table) (hrow : row ∈ table) (status : Status)
    (hplaced : placed values n = some (.text status.name)) :
    (Condition.equals .status n).holds? table values row = some true ↔
      row.get .status = .text status.name := by
  obtain ⟨other, hother⟩ := h.statuses row hrow
  have hnull : ¬((Datum.text other.name).isMissing || (Datum.text status.name).isMissing) =
      true := by
    simp [Datum.isMissing]
  rw [Condition.holds?, Row.equals?, hplaced, Option.bind_some, hother, Column.equals?,
    if_neg hnull, if_neg (by decide), Option.some.injEq, decide_eq_true_iff]

/-- A row is below the cursor's if the owner has one of that id, and that one is the newer. -/
theorem holds?_below (h : IsTodoTable table) (hrow : row ∈ table) (howner : Uuid.IsLower owner)
    (hcursor : Uuid.IsLower cursor) {k : Nat} (hplaced : placed values k = some (.text cursor))
    (hplaced' : placed values n = some (.text owner)) :
    (Condition.below k n).holds? table values row = some true ↔
      ∃ anchor ∈ table, anchor.get .id = .text cursor ∧ anchor.get .userId = .text owner ∧
        anchor.todo.Newer row.todo := by
  have hselected : ∀ anchor ∈ table, selects values k n anchor = true ↔
      anchor.get .id = .text cursor ∧ anchor.get .userId = .text owner := by
    intro anchor hanchor
    obtain ⟨other, hother, hlower⟩ := h.ids anchor hanchor
    obtain ⟨user, huser, hlower'⟩ := h.owners anchor hanchor
    rw [selects, Bool.and_eq_true, decide_eq_true_iff, decide_eq_true_iff, Row.equals?,
      Row.equals?, hplaced, hplaced', Option.bind_some, Option.bind_some, hother, huser,
      Column.equals?_key rfl hlower hcursor, Column.equals?_key rfl hlower' howner]
  -- the sub-select finds one row at most, identifiers being distinct
  have hunique : ∀ a ∈ table, ∀ b ∈ table, selects values k n a = true →
      selects values k n b = true →
      a = b := by
    intro a ha b hb hselects hselects'
    have hid := ((hselected a ha).1 hselects).1.trans ((hselected b hb).1 hselects').1.symm
    exact h.eq_of_id_eq ha hb hid
  have hbelow : ∀ anchor ∈ table, (row.key?.bind fun key => anchor.key?.map fun bound =>
      decide (key < bound)) = some true ↔ anchor.todo.Newer row.todo := by
    intro anchor hanchor
    rw [h.key?_eq hrow, h.key?_eq hanchor, h.newer_iff hanchor hrow]
    simp
  rw [Condition.holds?, Option.bind_eq_some_iff]
  constructor
  · rintro ⟨anchor, hfind, hholds⟩
    obtain ⟨hanchor, hselects⟩ := (find?_eq_some_iff_of_unique hunique).1 hfind
    obtain ⟨hid, huser⟩ := (hselected anchor hanchor).1 hselects
    exact ⟨anchor, hanchor, hid, huser, (hbelow anchor hanchor).1 hholds⟩
  · rintro ⟨anchor, hanchor, hid, huser, hnewer⟩
    have hselects := (hselected anchor hanchor).2 ⟨hid, huser⟩
    exact ⟨anchor, (find?_eq_some_iff_of_unique hunique).2 ⟨hanchor, hselects⟩,
      (hbelow anchor hanchor).2 hnewer⟩

/-- Rows go strictly from newer to older once they are sorted. -/
theorem pairwise_mergeSort (h : IsTodoTable table) {kept : List Row}
    (hkept : kept.Sublist table) :
    ((kept.mergeSort Row.newestFirst).map Row.todo).Pairwise Todo.Newer := by
  have hsorted : (kept.mergeSort Row.newestFirst).Pairwise fun a b => b.sortKey ≤ a.sortKey :=
    pairwise_mergeSort_of_key Row.sortKey fun _ _ _ _ => rfl
  have hperm := List.mergeSort_perm kept Row.newestFirst
  have hne : (kept.mergeSort Row.newestFirst).Nodup :=
    hperm.nodup_iff.2 ((List.Nodup.of_map _ h.distinct).sublist hkept)
  refine List.pairwise_map.2 ((hsorted.and hne).imp_of_mem fun {a b} ha hb hab => ?_)
  have ha' : a ∈ table := hkept.subset (hperm.mem_iff.1 ha)
  have hb' : b ∈ table := hkept.subset (hperm.mem_iff.1 hb)
  rw [h.newer_iff ha' hb']
  refine lt_of_le_of_ne hab.1 fun heq => hab.2 ?_
  exact (h.eq_of_sortKey_eq hb' ha' heq).symm

/-- What a query for a page finds: the first of the rows that meet its conditions. -/
theorem listed?_page (h : IsTodoTable table) {columns : List Column}
    {conditions : List Condition} {limit count : Nat}
    (hlimit : placed values limit = some (.ofInt count)) (hcount : count ≤ 2 ^ 53)
    {p : Row → Prop} (hp : ∀ row ∈ table,
      (∀ condition ∈ conditions, condition.holds? table values row = some true) ↔ p row) :
    ∃ rows : List Row,
      (⟨.page columns conditions limit, values⟩ : Query).listed? table =
        some ((rows.take count).map (Row.only columns)) ∧
      (rows.map Row.todo).Pairwise Todo.Newer ∧ ∀ row, row ∈ rows ↔ row ∈ table ∧ p row := by
  have hsorted :
      (((kept table values conditions).mergeSort Row.newestFirst).map Row.todo).Pairwise
      Todo.Newer := h.pairwise_mergeSort List.filter_sublist
  refine ⟨(kept table values conditions).mergeSort Row.newestFirst, ?_, hsorted, ?_⟩
  · have hlimited : ∀ rows, limited rows (some (.ofInt count)) = rows.take count := by
      intro rows
      show rows.take ((Number.ofInt count).integer?.getD 0).toNat = rows.take count
      rw [Number.integer?_ofInt hcount, Option.getD_some, Int.toNat_natCast]
    rw [Query.listed?]
    simp only [hlimit, hlimited]
  · intro row
    rw [List.mem_mergeSort, kept, List.mem_filter, List.all_eq_true]
    refine and_congr_right fun hrow => ?_
    rw [← hp row hrow]
    exact forall₂_congr fun _ _ => decide_eq_true_iff

end IsTodoTable

end Sql

end TodoServer
