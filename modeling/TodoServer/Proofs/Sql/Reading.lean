/-
Texts of statements, read.

Texts are read here as the database reads them. Each `$n` in a text stands for the `n`th value,
and the words around it say what for: a column that it is compared with or assigned to, a
column that it is inserted into, or the limit of a page. The readers know nothing of how
statements are put together; a column in another's place or a number too many would show.

* `Sql.placeholders`, `Sql.bindings`, `Sql.scope` — what a text says of its placeholders;
* `Sql.Slot` — what a placeholder can stand for;
* `Sql.Fits`, `Sql.Scoped` — a text with a place for each of some values, where it belongs, and
  one about an owner's rows only;
* `Sql.Statement.toList_text` — the text of a statement from those of its parts.
-/
import TodoServer.Sql.Session
import Mathlib.Data.List.Basic

namespace TodoServer.Sql

/-! ### Placeholders and words -/

/-- The number that digits at the start of a text write. -/
def leadingNumber (cs : List Char) : Nat :=
  (cs.takeWhile Char.isDigit).foldl (fun n c => 10 * n + (c.toNat - 48)) 0

/-- The placeholders in a text, in the order in which they occur. -/
def placeholders : List Char → List Nat
  | [] => []
  | c :: rest =>
    if c = '$' then leadingNumber rest :: placeholders rest else placeholders rest

/-- The words of a text. -/
def words (cs : List Char) : List String :=
  ((cs.splitOnP fun c => c = ' ' || c = ',' || c = '(' || c = ')').filter (· ≠ [])).map
    String.ofList

/-- The placeholder that a word is, if it is one. -/
def placeholder? (word : String) : Option Nat :=
  match word.toList with
  | '$' :: digits => some (leadingNumber digits)
  | _ => none

/-- The words between two words. -/
def between (first last : String) (words : List String) : List String :=
  ((words.dropWhile (· ≠ first)).drop 1).takeWhile (· ≠ last)

/-- Columns and the placeholders that are inserted into them. -/
def inserted (words : List String) : List (String × Nat) :=
  ((between "todos" "VALUES" words).zip (between "VALUES" "RETURNING" words)).filterMap
    fun (column, word) => (placeholder? word).map fun n => (column, n)

/-- What placeholders are compared with or assigned to, and the limit that one is. -/
def equated (words : List String) : List (String × Nat) :=
  (words.zip ((words.drop 1).zip (words.drop 2))).filterMap fun (left, middle, right) =>
    if middle = "=" then (placeholder? right).map fun n => (left, n)
    else if middle = "LIMIT" then (placeholder? right).map fun n => (middle, n)
    else none

/-- What a text says of its placeholders. -/
def bindings (cs : List Char) : List (String × Nat) :=
  inserted (words cs) ++ equated (words cs)

/-- What a text says of its placeholders where it says which rows it is about. -/
def scope (cs : List Char) : List (String × Nat) :=
  inserted (words cs) ++ equated ((words cs).dropWhile (· ≠ "WHERE"))

/-! ### Places -/

/-- What a placeholder can stand for. -/
inductive Slot
  | column (column : Column)
  | limit
deriving DecidableEq

/-- The name of a column without that of the row that it is of. -/
def unqualified (word : String) : List Char := (word.toList.splitOnP (· = '.')).getLastD []

/-- What a word that a placeholder is bound to says of it. -/
def Slot.ofWord? (word : String) : Option Slot :=
  if word = "LIMIT" then some .limit
  else ((todoColumns ++ userColumns).find? fun column =>
    column.name.toList = unqualified word).map .column

/-- A text has a placeholder for each of some slots, in their order, and each is where its slot
is. -/
structure Fits (cs : List Char) (slots : List Slot) : Prop where
  within : placeholders cs ⊆ List.range' 1 slots.length
  all : List.range' 1 slots.length ⊆ placeholders cs
  bound : (bindings cs).map Prod.snd = placeholders cs
  own : ∀ binding ∈ bindings cs, ∃ slot ∈ slots,
    Slot.ofWord? binding.1 = some slot ∧ slots[binding.2 - 1]? = some slot

instance (cs : List Char) (slots : List Slot) : Decidable (Fits cs slots) :=
  decidable_of_iff
    (placeholders cs ⊆ List.range' 1 slots.length ∧
      List.range' 1 slots.length ⊆ placeholders cs ∧
      (bindings cs).map Prod.snd = placeholders cs ∧
      ∀ binding ∈ bindings cs, ∃ slot ∈ slots,
        Slot.ofWord? binding.1 = some slot ∧ slots[binding.2 - 1]? = some slot)
    ⟨fun ⟨within, all, bound, own⟩ => ⟨within, all, bound, own⟩,
      fun h => ⟨h.within, h.all, h.bound, h.own⟩⟩

/-- The owner stands where a text says which rows it is about, as the owner of those rows, and
a row must meet all that is said there. -/
structure Scoped (cs : List Char) : Prop where
  named : ∃ binding ∈ scope cs, binding ∈ bindings cs ∧ binding.1 = Column.userId.name
  conjunctive : "OR" ∉ words cs

instance (cs : List Char) : Decidable (Scoped cs) :=
  decidable_of_iff
    ((∃ binding ∈ scope cs, binding ∈ bindings cs ∧ binding.1 = Column.userId.name) ∧
      "OR" ∉ words cs)
    ⟨fun ⟨named, conjunctive⟩ => ⟨named, conjunctive⟩, fun h => ⟨h.named, h.conjunctive⟩⟩

/-! ### Texts from their parts -/

def columnChars (columns : List Column) : List Char :=
  ", ".toList.intercalate (columns.map fun column => column.name.toList)

def Condition.chars : Condition → List Char
  | .equals column value => (assigned column value).toList
  | .below id owner =>
    "(created_at, id) < (SELECT c.created_at, c.id FROM todos c WHERE c.id = ".toList ++
      (placeholder id).toList ++ " AND c.user_id = ".toList ++ (placeholder owner).toList ++
        ")".toList

def whereChars (conditions : List Condition) : List Char :=
  " WHERE ".toList ++ " AND ".toList.intercalate (conditions.map Condition.chars)

def returningChars : List Char := " RETURNING ".toList ++ columnChars todoColumns

/-- The characters of a statement's text, put together from those of its parts. -/
def Statement.chars : Statement → List Char
  | .select table columns conditions =>
    "SELECT ".toList ++ columnChars columns ++ " FROM ".toList ++ table.name.toList ++
      whereChars conditions
  | .page columns conditions limit =>
    "SELECT ".toList ++ columnChars columns ++ " FROM todos".toList ++ whereChars conditions ++
      " ORDER BY created_at DESC, id DESC LIMIT ".toList ++ (placeholder limit).toList
  | .insert columns =>
    "INSERT INTO todos (".toList ++ columnChars columns ++ ") VALUES (".toList ++
      ", ".toList.intercalate
        ((List.range columns.length).map fun i => (placeholder (i + 1)).toList) ++
      ")".toList ++ returningChars
  | .update columns conditions =>
    "UPDATE todos SET ".toList ++
      ", ".toList.intercalate (columns.map fun c => (assigned c.1 c.2).toList) ++
      ", updated_at = now()".toList ++ whereChars conditions ++ returningChars
  | .delete conditions => "DELETE FROM todos".toList ++ whereChars conditions

theorem toList_columnList (columns : List Column) :
    (columnList columns).toList = columnChars columns := by
  rw [columnList, columnChars, String.toList_intercalate, List.map_map]
  rfl

theorem Condition.toList_text (condition : Condition) :
    condition.text.toList = condition.chars := by
  cases condition with
  | equals column value => rfl
  | below id owner =>
    delta text chars
    simp only [String.toList_append]

theorem toList_whereText (conditions : List Condition) :
    (whereText conditions).toList = whereChars conditions := by
  delta whereText whereChars
  simp only [String.toList_append, String.toList_intercalate, List.map_map, Function.comp_def,
    Condition.toList_text]

theorem toList_returningText : returningText.toList = returningChars := by
  delta returningText returningChars
  rw [String.toList_append, toList_columnList]

/-- The text of a statement is evaluated part by part. -/
theorem Statement.toList_text (statement : Statement) :
    statement.text.toList = statement.chars := by
  delta text chars
  cases statement <;>
    simp only [String.toList_append, String.toList_intercalate, toList_columnList,
      toList_whereText, toList_returningText, List.map_map, Function.comp_def]

end TodoServer.Sql
