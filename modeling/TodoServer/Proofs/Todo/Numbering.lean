/-
The todos in memory by their numbers.

Every todo has the identifier of the number that it was created under, and stands in the order
of the numbers; no call changes that, whoever makes it. So an id names one todo at most, and
the todos of a state are known by which they are: two states that have the same todos of some
kind have the same list of them.

* `Memory.Reachable` — the states that calls lead to;
* `Memory.Reachable.numbered` — all of them are numbered;
* `Memory.Distinct.find_eq_some_iff` — what is found is the todo with the id and owner asked
  for;
* `Memory.Numbered.mem_update_iff` and its like — the todos after a call;
* `Memory.Numbered.filter_eq` — the todos of some kind, told by which they are;
* `Memory.Reachable.timed` — a todo has the creation time of its number, whatever has become of
  it.
-/
import Mathlib.Data.List.Sort
import TodoServer.Proofs.Text.Identifiers
import TodoServer.Todo.Memory

namespace TodoServer

/-- Where one at most is wanted, it is found if it is there. -/
theorem find?_eq_some_iff_of_unique {α : Type} {l : List α} {p : α → Bool} {a : α}
    (hunique : ∀ b ∈ l, ∀ c ∈ l, p b = true → p c = true → b = c) :
    l.find? p = some a ↔ a ∈ l ∧ p a = true := by
  constructor
  · intro hfind
    exact ⟨List.mem_of_find?_eq_some hfind, List.find?_some hfind⟩
  · rintro ⟨hmem, hp⟩
    have hsome : (l.find? p).isSome := List.find?_isSome.2 ⟨a, hmem, hp⟩
    obtain ⟨found, hfound⟩ := Option.isSome_iff_exists.1 hsome
    rw [hfound, hunique found (List.mem_of_find?_eq_some hfound) a hmem
      (List.find?_some hfound) hp]

theorem Datum.isBlank_text {t : Text} (h : t ≠ "") : (Datum.text t).isBlank = false := by
  rw [← Bool.not_eq_true]
  intro hblank
  exact h (congrArg Text.mk (List.isEmpty_iff.1 hblank))

/-- A value that is the same as another is equal to it. -/
theorem Datum.eq_of_same {a b : Datum} (h : a.same b = true) : a = b := by
  rw [Datum.same, Bool.and_eq_true, decide_eq_true_iff] at h
  exact h.2

theorem Datum.same_text_iff {d : Datum} {t : Text} : d.same (.text t) = true ↔
    d = .text t := by
  constructor
  · exact eq_of_same
  · rintro rfl
    simp [same, isSimple]

theorem Datum.ofNumber_inj {i j : Nat} :
    Datum.text (Uuid.ofNumber i) = Datum.text (Uuid.ofNumber j) ↔ i = j := by
  constructor
  · intro htext
    injection htext with htext
    injection htext with htext
    exact Uuid.ofNumber_inj.1 htext
  · rintro rfl
    rfl

namespace Todo

def HasNumber (todo : Todo) (n : Nat) : Prop := todo.id = .text (Uuid.ofNumber n)

/-- One todo was created before another, as far as their ids tell. -/
def Before (a b : Todo) : Prop := ∃ i j, a.HasNumber i ∧ b.HasNumber j ∧ i < j

variable {a b : Todo} {i j : Nat}

theorem HasNumber.unique (hi : a.HasNumber i) (hj : a.HasNumber j) : i = j :=
  Datum.ofNumber_inj.1 (hi.symm.trans hj)

theorem Before.asymm (h : a.Before b) : ¬b.Before a := by
  rintro ⟨k, l, hb, ha, hlt⟩
  obtain ⟨i, j, ha', hb', hlt'⟩ := h
  have hil := ha.unique ha'
  have hkj := hb.unique hb'
  omega

theorem Before.id_ne (h : a.Before b) : a.id ≠ b.id := by
  intro hid
  obtain ⟨i, j, ha, hb, hlt⟩ := h
  have hij : i = j := HasNumber.unique (hid.symm.trans ha) hb
  omega

instance : Std.Antisymm Before := ⟨fun _ _ h h' => absurd h' h.asymm⟩

instance : Std.Irrefl Before := ⟨fun _ h => h.asymm h⟩

end Todo

namespace Memory

/-- The states that calls lead to from the store before the first todo. -/
inductive Reachable : Memory → Prop
  | empty : Reachable .empty
  | answer {m : Memory} (c : Store.Call) (h : Reachable m) : Reachable (Memory.answer c m).2

/-- Every todo has a number, none above the count, and they stand in the order of their
numbers. -/
structure Numbered (m : Memory) : Prop where
  counted : ∀ todo ∈ m.todos, ∃ n, todo.HasNumber n ∧ n ≤ m.created
  ordered : m.todos.Pairwise Todo.Before

/-- Todos are told apart by their ids, which are simple values. -/
structure Distinct (m : Memory) : Prop where
  simple : ∀ todo ∈ m.todos, todo.id.isSimple = true
  nodup : (m.todos.map Todo.id).Nodup

variable {m m' : Memory} {u id : Datum} {todo : Todo}

namespace Distinct

theorem eq_of_id_eq (h : m.Distinct) {a b : Todo} (ha : a ∈ m.todos) (hb : b ∈ m.todos)
    (hid : a.id = b.id) : a = b :=
  List.inj_on_of_nodup_map h.nodup ha hb hid

theorem same_id_iff (h : m.Distinct) (hmem : todo ∈ m.todos) :
    todo.id.same id = true ↔ todo.id = id := by
  rw [Datum.same, h.simple todo hmem, Bool.true_and, decide_eq_true_iff]

/-- What stands under an id is the todo with the id. -/
theorem get?_eq_some_iff (h : m.Distinct) : m.get? id = some todo ↔
    todo ∈ m.todos ∧ todo.id = id := by
  have hunique : ∀ a ∈ m.todos, ∀ b ∈ m.todos, a.id.same id = true → b.id.same id = true →
      a = b := by
    intro a ha b hb hida hidb
    exact h.eq_of_id_eq ha hb ((Datum.eq_of_same hida).trans (Datum.eq_of_same hidb).symm)
  rw [get?, find?_eq_some_iff_of_unique hunique]
  exact and_congr_right fun hmem => h.same_id_iff hmem

/-- What is found is the todo with the id and the owner that were asked for. -/
theorem find_eq_some_iff (h : m.Distinct) :
    m.find u id = some todo ↔
      todo ∈ m.todos ∧ todo.id = id ∧ todo.userId.same u = true := by
  rw [find, Option.filter_eq_some_iff, h.get?_eq_some_iff, and_assoc]

theorem find_eq_none_iff (h : m.Distinct) :
    m.find u id = none ↔
      ∀ todo ∈ m.todos, todo.id = id → todo.userId.same u = false := by
  rw [Option.eq_none_iff_forall_ne_some]
  constructor
  · intro hnone todo hmem hid
    rw [← Bool.not_eq_true]
    intro howner
    exact hnone todo (h.find_eq_some_iff.2 ⟨hmem, hid, howner⟩)
  · intro hnone todo hfind
    obtain ⟨hmem, hid, howner⟩ := h.find_eq_some_iff.1 hfind
    rw [hnone todo hmem hid] at howner
    cases howner

end Distinct

namespace Numbered

theorem distinct (h : m.Numbered) : m.Distinct := by
  refine ⟨?_, List.pairwise_map.2 (h.ordered.imp Todo.Before.id_ne)⟩
  intro todo hmem
  obtain ⟨n, hn, -⟩ := h.counted todo hmem
  rw [show todo.id = .text (Uuid.ofNumber n) from hn]
  rfl

theorem eq_of_id_eq (h : m.Numbered) {a b : Todo} (ha : a ∈ m.todos) (hb : b ∈ m.todos)
    (hid : a.id = b.id) : a = b :=
  h.distinct.eq_of_id_eq ha hb hid

theorem same_id_iff (h : m.Numbered) (hmem : todo ∈ m.todos) :
    todo.id.same id = true ↔ todo.id = id :=
  h.distinct.same_id_iff hmem

theorem find_eq_some_iff (h : m.Numbered) :
    m.find u id = some todo ↔
      todo ∈ m.todos ∧ todo.id = id ∧ todo.userId.same u = true :=
  h.distinct.find_eq_some_iff

theorem find_eq_none_iff (h : m.Numbered) :
    m.find u id = none ↔
      ∀ todo ∈ m.todos, todo.id = id → todo.userId.same u = false :=
  h.distinct.find_eq_none_iff

/-! ### The todos after a call -/

theorem mem_create_iff (new : NewTodo) :
    todo ∈ (m.create new).2.todos ↔ todo ∈ m.todos ∨ todo = stored (m.created + 1) new := by
  rw [create, List.mem_append, List.mem_singleton]

theorem mem_update_iff (h : m.Numbered) {new old : Todo}
    (hfind : m.find new.userId new.id = some old) :
    todo ∈ (m.update new).2.todos ↔
      todo ∈ m.todos ∧ todo.id ≠ new.id ∨
        todo = { new with
          createdAt := old.createdAt, updatedAt := secondLater old.updatedAt } := by
  obtain ⟨hold, hid, -⟩ := h.find_eq_some_iff.1 hfind
  rw [update, hfind]
  simp only [List.mem_map]
  constructor
  · rintro ⟨t, hmem, ht⟩
    split_ifs at ht with hsame
    · exact Or.inr ht.symm
    · subst ht
      exact Or.inl ⟨hmem, fun heq => hsame ((h.same_id_iff hmem).2 heq)⟩
  · rintro (⟨hmem, hne⟩ | rfl)
    · refine ⟨todo, hmem, if_neg fun hsame => hne ((h.same_id_iff hmem).1 hsame)⟩
    · exact ⟨old, hold, if_pos ((h.same_id_iff hold).2 hid)⟩

theorem mem_delete_iff (h : m.Numbered) {found : Todo} (hfind : m.find u id = some found) :
    todo ∈ (m.delete u id).2.todos ↔ todo ∈ m.todos ∧ todo.id ≠ id := by
  rw [delete, hfind]
  simp only [List.mem_filter, Bool.not_eq_true']
  refine and_congr_right fun hmem => ?_
  rw [← Bool.not_eq_true, h.same_id_iff hmem]

/-! ### Every call keeps the numbers -/

theorem create (h : m.Numbered) (new : NewTodo) : (m.create new).2.Numbered := by
  have hnumber : (stored (m.created + 1) new).HasNumber (m.created + 1) := rfl
  refine ⟨?_, ?_⟩
  · intro todo hmem
    rcases (mem_create_iff new).1 hmem with hmem | rfl
    · obtain ⟨n, hn, hle⟩ := h.counted todo hmem
      exact ⟨n, hn, hle.trans (Nat.le_succ _)⟩
    · exact ⟨_, hnumber, le_rfl⟩
  · refine List.pairwise_append.2 ⟨h.ordered, List.pairwise_singleton _ _, ?_⟩
    intro todo hmem last hlast
    obtain ⟨n, hn, hle⟩ := h.counted todo hmem
    rw [List.mem_singleton.1 hlast]
    exact ⟨n, _, hn, hnumber, Nat.lt_succ_of_le hle⟩

theorem update (h : m.Numbered) (new : Todo) : (m.update new).2.Numbered := by
  rcases hfind : m.find new.userId new.id with _ | old
  · rw [Memory.update, hfind]
    exact h
  · obtain ⟨hold, hid, -⟩ := h.find_eq_some_iff.1 hfind
    refine ⟨?_, ?_⟩
    · intro todo hmem
      rw [Memory.update, hfind]
      rcases (h.mem_update_iff hfind).1 hmem with ⟨hmem, -⟩ | rfl
      · exact h.counted todo hmem
      · obtain ⟨n, hn, hle⟩ := h.counted old hold
        exact ⟨n, hid.symm.trans hn, hle⟩
    · -- a todo is replaced by one with its id, and the order is one of ids
      rw [Memory.update, hfind]
      refine List.pairwise_map.2 (h.ordered.imp ?_)
      rintro a b ⟨i, j, ha, hb, hlt⟩
      refine ⟨i, j, ?_, ?_, hlt⟩
      · split_ifs with hsame
        · exact (Datum.eq_of_same hsame).symm.trans ha
        · exact ha
      · split_ifs with hsame
        · exact (Datum.eq_of_same hsame).symm.trans hb
        · exact hb

theorem delete (h : m.Numbered) (u id : Datum) : (m.delete u id).2.Numbered := by
  rcases hfind : m.find u id with _ | found
  · rw [Memory.delete, hfind]
    exact h
  · refine ⟨?_, ?_⟩
    · intro todo hmem
      rw [Memory.delete, hfind]
      exact h.counted todo ((h.mem_delete_iff hfind).1 hmem).1
    · rw [Memory.delete, hfind]
      exact h.ordered.filter _

theorem answer (h : m.Numbered) (c : Store.Call) : (Memory.answer c m).2.Numbered := by
  cases c with
  | create new => exact h.create new
  | find u id => exact h
  | update new => exact h.update new
  | delete u id => exact h.delete u id
  | list params => exact h

/-! ### States with the same todos -/

/-- Two states that have the same todos of some kind have the same list of them. -/
theorem filter_eq (h : m.Numbered) (h' : m'.Numbered) {p : Todo → Bool}
    (hsame : ∀ todo, p todo = true → (todo ∈ m.todos ↔ todo ∈ m'.todos)) :
    m.todos.filter p = m'.todos.filter p := by
  -- both lists stand in the order of the numbers, so their members tell them apart
  refine (h.ordered.filter p).eq_of_mem_iff (h'.ordered.filter p) fun todo => ?_
  rw [List.mem_filter, List.mem_filter]
  exact and_congr_left fun hp => hsame todo hp

end Numbered

theorem Reachable.numbered (h : m.Reachable) : m.Numbered := by
  induction h with
  | empty => exact ⟨fun _ hmem => absurd hmem List.not_mem_nil, List.Pairwise.nil⟩
  | answer c _ ih => exact ih.answer c

/-! ### Times -/

/-- The todos were created when their numbers say, the last of them under the count. -/
def Timed (m : Memory) : Prop :=
  ∀ todo ∈ m.todos, ∃ n, todo.HasNumber n ∧ n ≤ m.created ∧
    todo.createdAt = .date (creationTime n)

theorem created_update (m : Memory) (new : Todo) : (m.update new).2.created = m.created := by
  rw [update]
  split <;> rfl

theorem created_delete (m : Memory) (u id : Datum) :
    (m.delete u id).2.created = m.created := by
  rw [delete]
  split <;> rfl

/-- No call changes when a todo was created. -/
theorem Timed.answer (h : m.Timed) (hn : m.Numbered) (c : Store.Call) :
    (Memory.answer c m).2.Timed := by
  intro todo hmem
  cases c with
  | create new =>
    rcases (Numbered.mem_create_iff new).1 hmem with hmem | rfl
    · obtain ⟨n, hnumber, hle, hcreated⟩ := h todo hmem
      exact ⟨n, hnumber, Nat.le_succ_of_le hle, hcreated⟩
    · exact ⟨m.created + 1, rfl, le_rfl, rfl⟩
  | find u id => exact h todo hmem
  | update new =>
    have hmem : todo ∈ (m.update new).2.todos := hmem
    show ∃ n, todo.HasNumber n ∧ n ≤ (m.update new).2.created ∧ _
    rw [created_update]
    rcases hfind : m.find new.userId new.id with _ | old
    · rw [update, hfind] at hmem
      exact h todo hmem
    · rcases (hn.mem_update_iff hfind).1 hmem with ⟨hmem, -⟩ | rfl
      · exact h todo hmem
      · -- the new todo keeps the id and the time of the old one
        obtain ⟨hold, hid, -⟩ := hn.find_eq_some_iff.1 hfind
        obtain ⟨n, hnumber, hle, htime⟩ := h old hold
        exact ⟨n, hid.symm.trans hnumber, hle, htime⟩
  | delete u id =>
    have hmem : todo ∈ (m.delete u id).2.todos := hmem
    show ∃ n, todo.HasNumber n ∧ n ≤ (m.delete u id).2.created ∧ _
    rw [created_delete]
    rcases hfind : m.find u id with _ | found
    · rw [delete, hfind] at hmem
      exact h todo hmem
    · exact h todo ((hn.mem_delete_iff hfind).1 hmem).1
  | list params => exact h todo hmem

theorem Reachable.timed (h : m.Reachable) : m.Timed := by
  induction h with
  | empty => exact fun _ hmem => absurd hmem List.not_mem_nil
  | answer c h ih => exact ih.answer h.numbered c

theorem Reachable.run {α : Type} (h : m.Reachable) (p : Store.Program α) :
    (p.run Memory.answer m).2.Reachable := by
  induction p generalizing m with
  | done result => exact h
  | call c next ih => exact ih _ (h.answer c)

end Memory

end TodoServer
