/-
Pages of a listing.

A page holds at most a hundred items, twenty unless a size is asked for; what is asked for
comes from query texts and callers, so anything that is no whole number in that range means the
default. One item more than the size is fetched, and if it is there the id of the page's last
item is the cursor of the next page.

* `pageSize`, `askedSize` — the size that a request for one stands for, the latter with a fault
  where the request has no words;
* `Page.take` — the page made of the items fetched.
-/
import TodoServer.Number.Decimal
import TodoServer.Todo.Basic

namespace TodoServer

/-- The page size unless another is asked for. -/
def defaultPageSize : Nat := 20

/-- The greatest page size. -/
def maxPageSize : Nat := 100

/-- An integer in the range of page sizes, the default for any other. -/
def clampSize (n : Int) : Nat :=
  if 1 ≤ n ∧ n ≤ maxPageSize then n.toNat else defaultPageSize

/-- The page size that is meant. -/
def pageSize : Datum → Nat
  | .absent => defaultPageSize
  | .json (.number n) =>
    match n.integer? with
    | some n => clampSize n
    | none => defaultPageSize
  | asked =>
    match Decimal.readInteger? asked.words.chars with
    | some n => clampSize n
    | none => defaultPageSize

/-- The page size that is meant, if what is asked for has words to tell it by. -/
def askedSize (asked : Datum) : Except Fault Nat := asked.demand.map pageSize

/-- Which todos to list. -/
structure ListParams where
  userId : Datum
  /-- The status that they have, blank for any. -/
  status : Datum
  /-- The id of the last item of the page before, blank for the first page. -/
  cursor : Datum
  size : Datum
deriving DecidableEq

/-- A page of items, and the cursor of the next page if one follows. -/
structure Page (α : Type) where
  items : List α
  next : Datum
deriving DecidableEq

namespace Page

def empty {α : Type} : Page α := ⟨[], .absent⟩

/-- The id of the last of some items. -/
def lastId {α : Type} (id : α → Datum) (items : List α) : Datum :=
  (items.getLast?.map id).getD .absent

/-- The page of at most `limit` items made of those fetched. A negative limit leaves out as
many items at the end. -/
def take {α : Type} (id : α → Datum) (limit : Int) (fetched : List α) : Page α :=
  if (fetched.length : Int) ≤ limit then ⟨fetched, .absent⟩
  else
    let items := fetched.take (if 0 ≤ limit then limit else fetched.length + limit).toNat
    ⟨items, lastId id items⟩

/-- The page for a limit that may be anything: a number is cut to an integer, what counts as no
number leaves no item, and without a limit every item is there, as if more were to follow. -/
def takeUpTo {α : Type} (id : α → Datum) (limit : Datum) (fetched : List α) : Page α :=
  if limit.isAbsent then ⟨fetched, lastId id fetched⟩
  else
    match limit.number? with
    | none => empty
    | some (.infinite negative) => if negative then empty else ⟨fetched, .absent⟩
    | some (.finite value) => take id (value.num.tdiv value.den) fetched

/-- The page for a limit that may be anything, if the limit can be counted. -/
def takeAsked {α : Type} (id : α → Datum) (limit : Datum) (fetched : List α) :
    Except Fault (Page α) :=
  limit.demand.map fun limit => takeUpTo id limit fetched

/-- A page without a blank cursor, which would name nothing. -/
def withoutBlankCursor {α : Type} (page : Page α) : Page α :=
  { page with next := page.next.unlessBlank }

end Page

end TodoServer
