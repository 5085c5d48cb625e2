/-
Deletion is final.

An id that has been given out and is in no todo any more is spent: the count of todos has
passed its number, so no new todo gets it, and a todo is written back only where one with its
id still stands. So no call brings a spent id back, and that holds of the calls that actions
under way have yet to make as much as of any other: what an action read before the deletion, it
cannot write after it.

* `Memory.Spent` — an id that has been given out, and that no todo has;
* `Memory.Spent.answer` — it stays spent, whatever calls come;
* `Task.Step.fails_or_finds`, `Task.Step.not_names_of_spent` — what comes of an action that
  makes a call then;
* `Run.Sound` — what holds in all runs, kept by every event;
* `deletion_final` — after a deletion, in every run, however the calls are interleaved.
-/
import TodoServer.Proofs.Todo.Concurrency
import TodoServer.Proofs.Todo.Isolation
import TodoServer.Proofs.Todo.Pages

namespace TodoServer

open Store

namespace Memory

variable {m : Memory} {id : Datum}

/-! ### Spent ids -/

/-- The id has been given out, and no todo has it. -/
def Spent (m : Memory) (id : Datum) : Prop :=
  (∃ n, id = .text (Uuid.ofNumber n) ∧ n ≤ m.created) ∧ ∀ todo ∈ m.todos, todo.id ≠ id

/-- A todo has the id of one that was there before the call, or the next number. -/
theorem Numbered.id_of_mem_answer (hm : m.Numbered) (c : Call) {todo : Todo}
    (hmem : todo ∈ (Memory.answer c m).2.todos) :
    (∃ old ∈ m.todos, old.id = todo.id) ∨ todo.HasNumber (m.created + 1) := by
  cases c with
  | create new =>
    rcases (mem_create_iff new).1 hmem with hmem | rfl
    · exact Or.inl ⟨todo, hmem, rfl⟩
    · exact Or.inr rfl
  | find u id => exact Or.inl ⟨todo, hmem, rfl⟩
  | update new =>
    left
    have hmem : todo ∈ (m.update new).2.todos := hmem
    rcases hfind : m.find new.userId new.id with _ | old
    · rw [Memory.update, hfind] at hmem
      exact ⟨todo, hmem, rfl⟩
    · rcases (hm.mem_update_iff hfind).1 hmem with ⟨hmem, -⟩ | rfl
      · exact ⟨todo, hmem, rfl⟩
      · exact ⟨old, mem_of_find hfind, id_of_find hfind⟩
  | delete u id =>
    left
    have hmem : todo ∈ (m.delete u id).2.todos := hmem
    rcases hfind : m.find u id with _ | found
    · rw [Memory.delete, hfind] at hmem
      exact ⟨todo, hmem, rfl⟩
    · exact ⟨todo, ((hm.mem_delete_iff hfind).1 hmem).1, rfl⟩
  | list params => exact Or.inl ⟨todo, hmem, rfl⟩

namespace Spent

theorem ne_next (h : m.Spent id) {todo : Todo} (hnumber : todo.HasNumber (m.created + 1)) :
    todo.id ≠ id := by
  obtain ⟨⟨n, hid, hle⟩, -⟩ := h
  intro heq
  have hn : todo.HasNumber n := heq.trans hid
  have hsame := hnumber.unique hn
  omega

theorem answer (h : m.Spent id) (hm : m.Numbered) (c : Call) :
    (Memory.answer c m).2.Spent id := by
  obtain ⟨⟨n, hid, hle⟩, hgone⟩ := h
  refine ⟨⟨n, hid, ?_⟩, ?_⟩
  · rw [created_answer]
    exact hle.trans (Nat.le_add_right _ _)
  · intro todo hmem
    rcases hm.id_of_mem_answer c hmem with ⟨old, hold, hsame⟩ | hnumber
    · rw [← hsame]
      exact hgone old hold
    · exact ne_next ⟨⟨n, hid, hle⟩, hgone⟩ hnumber

/-- What is found is another todo. -/
theorem ne_of_find (h : m.Spent id) {u other : Datum} {todo : Todo}
    (hfind : m.find u other = some todo) : other ≠ id := by
  rintro rfl
  exact h.2 todo (mem_of_find hfind) (id_of_find hfind)

end Spent

/-- The id of a todo is spent once the todo has been deleted. -/
theorem Numbered.spent_delete (hm : m.Numbered) {u : Datum} {todo : Todo}
    (hfind : m.find u id = some todo) : (m.delete u id).2.Spent id := by
  obtain ⟨hmem, hid, -⟩ := hm.find_eq_some_iff.1 hfind
  obtain ⟨n, hnumber, hle⟩ := hm.counted todo hmem
  refine ⟨⟨n, hid.symm.trans hnumber, ?_⟩, ?_⟩
  · rw [created_delete]
    exact hle
  · intro other hother
    exact ((hm.mem_delete_iff hfind).1 hother).2

end Memory

/-! ### Actions under way -/

/-- What a user gets to see names an id. -/
def Action.Result.Names (result : Action.Result) (id : Datum) : Prop :=
  match result with
  | .todo t => t.id = id
  | .deleted => False
  | .page p => p.next = id ∨ ∃ t ∈ p.items, t.id = id

namespace Task

variable {task : Task} {m m' : Memory} {id : Datum}
  {rest : Program (Except Fault Action.Result)}

/-- The action has deleted the todo of an id. -/
def Deleted (task : Task) (id : Datum) : Prop :=
  task.action = .delete id ∧ task.rest = .done (.ok .deleted)

namespace Step

/-- An action that makes a call fails for want of its todo, or the todo is there. -/
theorem fails_or_finds (h : task.Step m rest m') (htarget : task.action.target? = some id) :
    rest = .done (.error (.api Operation.todoNotFound)) ∨ ∃ u todo,
      m.find u id = some todo := by
  have heq : ∀ {other : Datum}, task.action.target? = some other → other = id :=
    fun h => Option.some.inj (h.symm.trans htarget)
  cases h with
  | misses hother => exact Or.inl rfl
  | creates new hnone => cases hnone.symm.trans htarget
  | lists params hnone => cases hnone.symm.trans htarget
  | finds hfind hother => exact Or.inr ⟨_, _, heq hother ▸ hfind⟩
  | refuses e hfind hother => exact Or.inr ⟨_, _, heq hother ▸ hfind⟩
  | reads hfind hother => exact Or.inr ⟨_, _, heq hother ▸ hfind⟩
  | writes hfind hother => exact Or.inr ⟨_, _, heq hother ▸ hfind⟩
  | deletes hfind haction => exact Or.inr ⟨_, _, heq (congrArg Action.target? haction) ▸ hfind⟩

/-- What an action is shown when an id is spent does not name it. -/
theorem not_names_of_spent (h : task.Step m rest m') (hid : m.Spent id)
    {result : Action.Result} (hresult : rest = .done (.ok result)) : ¬result.Names id := by
  cases h with
  | creates new htarget =>
    cases hresult
    have hnumber : (m.create new).1.HasNumber (m.created + 1) := rfl
    exact hid.ne_next hnumber
  | finds hfind htarget =>
    cases hresult
    intro hname
    exact hid.ne_of_find hfind ((Memory.id_of_find hfind).symm.trans hname)
  | writes hfind htarget =>
    cases hresult
    intro hname
    exact hid.ne_of_find hfind hname
  | deletes hfind haction =>
    cases hresult
    exact not_false
  | lists params htarget =>
    rcases hpage : m.list params with fault | page
    · rw [hpage] at hresult
      cases hresult
    · rw [hpage] at hresult
      cases hresult
      obtain ⟨hitems, hnext⟩ := Memory.list_eq_ok hpage
      have hgone : ∀ todo ∈ page.items, todo.id ≠ id :=
        fun todo hmem => hid.2 todo (hitems todo hmem)
      rintro (hcursor | ⟨todo, hmem, hsame⟩)
      · rcases hnext with hnone | ⟨todo, hmem, hlast⟩
        · obtain ⟨⟨n, htext, -⟩, -⟩ := hid
          cases hnone.symm.trans (hcursor.trans htext)
        · exact hgone todo hmem (hlast.symm.trans hcursor)
      · exact hgone todo hmem hsame
  | _ => cases hresult

/-- An action ends as a deletion by the call that deletes. -/
theorem deletes_of_deleted (h : task.Step m rest m')
    (hdeleted : Deleted { task with rest } id) :
    ∃ u todo, m.find u id = some todo ∧ m' = (m.delete u id).2 := by
  obtain ⟨haction, hrest⟩ := hdeleted
  have hrest : rest = .done (.ok .deleted) := hrest
  cases h with
  | deletes hfind hother =>
    cases hother.symm.trans haction
    exact ⟨_, _, hfind, rfl⟩
  | lists params htarget =>
    rcases hpage : m.list params with fault | page
    all_goals
      rw [hpage] at hrest
      cases hrest
  | reads hfind htarget => cases hrest
  | _ => cases hrest

end Step

theorem not_deleted_of_begun (u : Datum) (a : Action) : ¬Deleted ⟨u, a, a.program u⟩ id := by
  rintro ⟨haction, hrest⟩
  obtain rfl : a = .delete id := haction
  cases hrest

end Task

/-! ### Runs -/

namespace Run

variable {r : Run} {id : Datum}

/-- What holds in all runs: actions have come as far as actions do, and what has been deleted
is spent and was deleted once. -/
structure Sound (r : Run) : Prop where
  reachable : r.memory.Reachable
  staged : ∀ task ∈ r.tasks, task.Stage
  spent : ∀ task ∈ r.tasks, ∀ id, task.Deleted id → r.memory.Spent id
  once : ∀ (i j : Nat) (first second : Task) (id : Datum), r.tasks[i]? = some first →
    r.tasks[j]? = some second → first.Deleted id → second.Deleted id → i = j

namespace Sound

theorem start : Run.start.Sound where
  reachable := .empty
  staged := fun _ hmem => absurd hmem List.not_mem_nil
  spent := fun _ hmem => absurd hmem List.not_mem_nil
  once := fun _ _ _ _ _ hfirst => by cases hfirst

theorem begins (h : r.Sound) (u : Datum) (a : Action) : (r.next (.begins u a)).Sound := by
  have hmem : ∀ task ∈ (r.next (.begins u a)).tasks, task ∈ r.tasks ∨
      task = ⟨u, a, a.program u⟩ := by
    intro task htask
    rcases List.mem_append.1 htask with hold | hnew
    · exact Or.inl hold
    · exact Or.inr (List.mem_singleton.1 hnew)
  -- what has deleted something was there before
  have hold : ∀ (i : Nat) (task : Task) (id : Datum),
      (r.next (.begins u a)).tasks[i]? = some task →
      task.Deleted id → r.tasks[i]? = some task := by
    intro i task id htask hdeleted
    have htask : (r.tasks ++ [⟨u, a, a.program u⟩])[i]? = some task := htask
    rw [List.getElem?_append] at htask
    split_ifs at htask with hlt
    · exact htask
    · obtain rfl := List.mem_singleton.1 (List.mem_of_getElem? htask)
      exact absurd hdeleted (Task.not_deleted_of_begun u a)
  refine ⟨h.reachable, ?_, ?_, ?_⟩
  · intro task htask
    rcases hmem task htask with hbefore | rfl
    · exact h.staged task hbefore
    · exact .begun rfl
  · intro task htask id hdeleted
    rcases hmem task htask with hbefore | rfl
    · exact h.spent task hbefore id hdeleted
    · exact absurd hdeleted (Task.not_deleted_of_begun u a)
  · intro i j first second id hfirst hsecond hdeleted hdeleted'
    exact h.once i j first second id (hold i first id hfirst hdeleted)
      (hold j second id hsecond hdeleted') hdeleted hdeleted'

theorem proceeds (h : r.Sound) {place : Nat} {task : Task} {c : Call}
    {rest : Program (Except Fault Action.Result)} (htask : r.tasks[place]? = some task)
    (hstep : task.Step r.memory rest (Memory.answer c r.memory).2) :
    Sound ⟨(Memory.answer c r.memory).2, r.tasks.set place { task with rest }⟩ := by
  have hdeletes : ∀ id, Task.Deleted { task with rest } id →
      (Memory.answer c r.memory).2.Spent id ∧ ¬r.memory.Spent id := by
    intro id hdeleted
    obtain ⟨u, todo, hfind, hmemory⟩ := hstep.deletes_of_deleted hdeleted
    rw [hmemory]
    exact ⟨h.reachable.numbered.spent_delete hfind, fun hid => hid.ne_of_find hfind rfl⟩
  refine ⟨h.reachable.answer c, ?_, ?_, ?_⟩
  · intro other hother
    rcases List.mem_or_eq_of_mem_set hother with hold | rfl
    · exact h.staged other hold
    · exact hstep.stage
  · intro other hother id hdeleted
    rcases List.mem_or_eq_of_mem_set hother with hold | rfl
    · exact (h.spent other hold id hdeleted).answer h.reachable.numbered c
    · exact (hdeletes id hdeleted).1
  · -- what deletes now deletes what is not spent, so no other action has deleted it
    have hset : ∀ (i : Nat) (other : Task), (r.tasks.set place { task with rest })[i]? =
        some other →
        i = place ∧ other = { task with rest } ∨ i ≠ place ∧ r.tasks[i]? = some other := by
      intro i other hother
      rw [List.getElem?_set] at hother
      split_ifs at hother with hplace hlt
      · exact Or.inl ⟨hplace.symm, (Option.some.inj hother).symm⟩
      · exact Or.inr ⟨Ne.symm hplace, hother⟩
    intro i j first second id hfirst hsecond hdeleted hdeleted'
    rcases hset i first hfirst with ⟨rfl, rfl⟩ | ⟨-, hfirst'⟩
    · rcases hset j second hsecond with ⟨rfl, rfl⟩ | ⟨-, hsecond'⟩
      · rfl
      · have hid := h.spent second (List.mem_of_getElem? hsecond') id hdeleted'
        exact absurd hid (hdeletes id hdeleted).2
    · rcases hset j second hsecond with ⟨rfl, rfl⟩ | ⟨-, hsecond'⟩
      · have hid := h.spent first (List.mem_of_getElem? hfirst') id hdeleted
        exact absurd hid (hdeletes id hdeleted').2
      · exact h.once i j first second id hfirst' hsecond' hdeleted hdeleted'

theorem next (h : r.Sound) (event : Event) : (r.next event).Sound := by
  rcases r.next_cases event with ⟨-, hnext⟩ | ⟨u, a, rfl, -⟩ |
    ⟨place, task, c, rest, -, htask, -, hstep, hnext⟩
  · rw [hnext]
    exact h
  · exact h.begins u a
  · rw [hnext]
    exact h.proceeds htask ((h.staged task (List.mem_of_getElem? htask)).step hstep)

theorem after (h : r.Sound) (events : List Event) : (r.after events).Sound := by
  induction events generalizing r with
  | nil => exact h
  | cons event rest ih => exact ih (h.next event)

end Sound

/-- What is spent stays spent in all that follows. -/
theorem spent_after (h : r.Sound) (hid : r.memory.Spent id) (later : List Event) :
    (r.after later).memory.Spent id := by
  induction later generalizing r with
  | nil => exact hid
  | cons event rest ih =>
    refine ih (h.next event) ?_
    rw [memory_next]
    rcases r.call? event with _ | c
    · exact hid
    · exact hid.answer h.reachable.numbered c

/-- In a run there is nothing of an id, nor will the next call of any action find or show
it. -/
structure Without (r : Run) (id : Datum) : Prop where
  gone : ∀ todo ∈ r.memory.todos, todo.id ≠ id
  call : ∀ (place : Nat) (task : Task) (c : Call), r.tasks[place]? = some task →
    task.call? = some c →
    ∃ rest, (r.next (.proceeds place)).tasks[place]? = some { task with rest } ∧
      (task.action.target? = some id →
        rest = .done (.error (.api ⟨.ofInt 404, .notFound, "todo not found"⟩))) ∧
      ∀ result, rest = .done (.ok result) → ¬result.Names id
  /-- One action at most has deleted the todo of the id. -/
  once : ∀ (i j : Nat) (first second : Task), r.tasks[i]? = some first →
    r.tasks[j]? = some second → first.Deleted id → second.Deleted id → i = j

theorem Sound.without (h : r.Sound) (hid : r.memory.Spent id) : r.Without id := by
  refine ⟨hid.2, ?_, fun i j first second => h.once i j first second id⟩
  rintro place ⟨user, action, program⟩ _ htask hcall
  cases program with
  | done result => cases hcall
  | call c next =>
    have hstep : Task.Step _ r.memory (next (Memory.answer c r.memory).1) _ :=
      (h.staged _ (List.mem_of_getElem? htask)).step rfl
    have hplace : place < r.tasks.length := (List.getElem?_eq_some_iff.1 htask).1
    refine ⟨next (Memory.answer c r.memory).1, ?_, ?_,
      fun result => hstep.not_names_of_spent hid⟩
    · rw [next_proceeds htask rfl]
      exact List.getElem?_set_self hplace
    · intro htarget
      rcases hstep.fails_or_finds htarget with hfails | ⟨u, todo, hfind⟩
      · exact hfails
      · exact absurd rfl (hid.ne_of_find hfind)

end Run

/-- Once an action has deleted a todo, nothing brings its id back, whatever is begun later or
is under way, and however the calls are interleaved. -/
theorem deletion_final {events : List Run.Event} {task : Task} {id : Datum}
    (htask : task ∈ (Run.start.after events).tasks) (haction : task.action = .delete id)
    (hdone : task.rest = .done (.ok .deleted)) (later : List Run.Event) :
    ((Run.start.after events).after later).Without id := by
  have hsound := Run.Sound.start.after events
  have hid : (Run.start.after events).memory.Spent id :=
    hsound.spent task htask id ⟨haction, hdone⟩
  exact (hsound.after later).without (Run.spent_after hsound hid later)

def firstId : Datum := .text (Uuid.ofNumber 1)

/-- A todo is deleted after an update of it has read it, and before the update writes. -/
def deletedMeanwhile : List Run.Event :=
  [.begins alice (.create (titleOnly "old")), .proceeds 0,
    .begins alice (.update firstId ⟨.text "new", .absent, .absent⟩), .proceeds 1,
    .begins alice (.delete firstId), .proceeds 2]

/-- The update then fails, and the todo stays deleted. -/
theorem deletion_final_deletedMeanwhile :
    (∃ task ∈ (Run.start.after deletedMeanwhile).tasks, task.action = .delete firstId ∧
      task.rest = .done (.ok .deleted)) ∧
    ((Run.start.after deletedMeanwhile).after [.proceeds 1]).Without firstId ∧
    ∃ task, ((Run.start.after deletedMeanwhile).after [.proceeds 1]).tasks[1]? = some task ∧
      task.rest = .done (.error (.api ⟨.ofInt 404, .notFound, "todo not found"⟩)) := by
  have hplace : (Run.start.after deletedMeanwhile).tasks[2]? =
      some ⟨alice, .delete firstId, .done (.ok .deleted)⟩ := rfl
  have htask := List.mem_of_getElem? hplace
  refine ⟨⟨_, htask, rfl, rfl⟩, deletion_final htask rfl rfl [.proceeds 1], ?_⟩
  -- the update is about to write
  have hupdate : ∃ task new, (Run.start.after deletedMeanwhile).tasks[1]? = some task ∧
      task.action.target? = some firstId ∧ task.call? = some (.update new) :=
        ⟨_, _, rfl, rfl, rfl⟩
  obtain ⟨task, new, hread, htarget, hcall⟩ := hupdate
  have hwithout := deletion_final htask rfl rfl []
  obtain ⟨rest, hrest, hfails, -⟩ := hwithout.call 1 task _ hread hcall
  exact ⟨_, hrest, hfails htarget⟩

end TodoServer
