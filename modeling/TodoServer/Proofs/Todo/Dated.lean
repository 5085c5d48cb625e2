/-
How long todos can be written.

A todo goes on the wire if its times are times. Those that the store gives are, until they have
been moved past the last of all dates, a second with every write; the due date is one if the
offset that it was asked for with is one. A todo without a wire form stays stored, but no
request can be answered with it.

* `Todo.Presentable` — a todo that has a wire form;
* `Todo.DatedBy`, `Memory.DatedBy` — times that some many writes can have come to;
* `Action.datedBy_run` — an action that offers no impossible due date is one write more at
  most.
-/
import TodoServer.Proofs.Calendar.Instants
import TodoServer.Proofs.Todo.Outcomes

namespace TodoServer

namespace Todo

/-- The todo has a wire form. -/
def Presentable (todo : Todo) : Prop := ∃ value, todo.response = .ok value

/-- The times of a todo are such as a number of writes can have left. -/
structure DatedBy (n : Nat) (todo : Todo) : Prop where
  created : ∃ millis, todo.createdAt = .date (.valid millis)
  updated : ∃ millis, todo.updatedAt = .date (.valid millis) ∧ 0 ≤ millis ∧
    millis ≤ Memory.baseTime + n * 1000
  due : todo.dueAt = .null ∨ ∃ millis, todo.dueAt = .date (.valid millis)

variable {todo : Todo} {n : Nat}

theorem DatedBy.succ (h : todo.DatedBy n) : todo.DatedBy (n + 1) := by
  obtain ⟨millis, hupdated, hlow, hhigh⟩ := h.updated
  refine ⟨h.created, ⟨millis, hupdated, hlow, ?_⟩, h.due⟩
  push_cast
  omega

theorem DatedBy.presentable (h : todo.DatedBy n) : todo.Presentable := by
  obtain ⟨created, hcreated⟩ := h.created
  obtain ⟨updated, hupdated, -⟩ := h.updated
  rw [Presentable, response, hcreated, hupdated]
  rcases h.due with hdue | ⟨due, hdue⟩ <;> rw [hdue] <;> exact ⟨_, rfl⟩

/-- A todo without a wire form is none of the failures that the client is told. -/
theorem response_ne_api {e : ClientError} : todo.response ≠ .error (.api e) := by
  have hwire : ∀ field (d : Datum), wireDate field d ≠ .error (.api e) := by
    intro field d
    rw [wireDate.eq_def]
    split
    · split <;> simp
    · simp
  intro h
  rw [response] at h
  rcases hcreated : wireDate "createdAt" todo.createdAt with fault | created
  · rw [hcreated] at h
    cases h
    exact hwire _ _ hcreated
  · rcases hupdated : wireDate "updatedAt" todo.updatedAt with fault | updated
    · rw [hcreated, hupdated] at h
      cases h
      exact hwire _ _ hupdated
    · rcases hdue : dueMember todo.dueAt with fault | due
      · rw [hcreated, hupdated, hdue] at h
        cases h
        rw [dueMember] at hdue
        split_ifs at hdue
        rcases hdate : wireDate "dueAt" todo.dueAt with fault | value
        · rw [hdate] at hdue
          cases hdue
          exact hwire _ _ hdate
        · rw [hdate] at hdue
          cases hdue
      · rw [hcreated, hupdated, hdue] at h
        cases h

end Todo

/-- A due date names a time, if it is one at all. -/
def DueOffered (due : Datum) : Prop :=
  ∀ date, dueDate? due = .ok date → ∃ millis, date = .valid millis

namespace Memory

/-- The store's own times are dates, after a number of writes. -/
def InTime (n : Nat) : Prop := baseTime + n * 1000 ≤ Date.range

/-- A state that a number of writes can have led to. -/
structure DatedBy (n : Nat) (m : Memory) : Prop where
  created_le : m.created ≤ n
  todos : ∀ todo ∈ m.todos, todo.DatedBy n

variable {m : Memory} {u id : Datum} {n : Nat} {todo : Todo}

theorem inTime_iff : InTime n ↔ creationTime n ≠ .invalid := by
  rw [InTime, creationTime, Date.ofMillis, baseTime, Date.range]
  constructor
  · intro htime
    rw [if_pos (by omega)]
    intro h
    cases h
  · intro hvalid
    by_contra htime
    exact hvalid (if_neg (by omega))

theorem InTime.creationTime_eq (h : InTime n) :
    creationTime n = .valid (baseTime + n * 1000) := by
  rw [InTime] at h
  refine if_pos ⟨?_, h⟩
  rw [baseTime, Date.range]
  omega

theorem InTime.mono {k : Nat} (h : InTime n) (hle : k ≤ n) : InTime k := by
  rw [InTime] at h ⊢
  omega

theorem datedBy_empty : Memory.empty.DatedBy 0 :=
  ⟨le_rfl, fun _ hmem => absurd hmem List.not_mem_nil⟩

namespace DatedBy

theorem succ (h : m.DatedBy n) : m.DatedBy (n + 1) :=
  ⟨Nat.le_succ_of_le h.created_le, fun todo hmem => (h.todos todo hmem).succ⟩

theorem stored (h : m.DatedBy n) (htime : InTime (n + 1)) {new : NewTodo}
    (hdue : new.dueAt = .null ∨ ∃ millis, new.dueAt = .date (.valid millis)) :
    (Memory.stored (m.created + 1) new).DatedBy (n + 1) := by
  have hle : m.created + 1 ≤ n + 1 := Nat.succ_le_succ h.created_le
  have hcreated : Datum.date (creationTime (m.created + 1)) =
      .date (.valid (baseTime + (m.created + 1 : Nat) * 1000)) :=
    congrArg Datum.date (htime.mono hle).creationTime_eq
  refine ⟨⟨_, hcreated⟩, ⟨_, hcreated, ?_, ?_⟩, hdue⟩
  · rw [baseTime]
    omega
  · omega

theorem replacing {old new : Todo} (h : old.DatedBy n) (htime : InTime (n + 1))
    (hdue : new.dueAt = .null ∨ ∃ millis, new.dueAt = .date (.valid millis)) :
    (Memory.replacing old new).DatedBy (n + 1) := by
  obtain ⟨millis, hupdated, hlow, hhigh⟩ := h.updated
  rw [InTime] at htime
  have hrange : -Date.range ≤ millis + 1000 ∧ millis + 1000 ≤ Date.range := by
    rw [Date.range] at htime ⊢
    omega
  have hlater : secondLater old.updatedAt = .date (.valid (millis + 1000)) := by
    rw [secondLater, hupdated]
    exact congrArg Datum.date (if_pos hrange)
  refine ⟨h.created, ⟨_, hlater, ?_, ?_⟩, hdue⟩ <;> omega

theorem create (h : m.DatedBy n) (htime : InTime (n + 1)) {new : NewTodo}
    (hdue : new.dueAt = .null ∨ ∃ millis, new.dueAt = .date (.valid millis)) :
    (m.create new).2.DatedBy (n + 1) := by
  refine ⟨Nat.succ_le_succ h.created_le, fun todo hmem => ?_⟩
  rcases (Numbered.mem_create_iff new).1 hmem with hmem | rfl
  · exact (h.todos todo hmem).succ
  · exact h.stored htime hdue

theorem update (h : m.DatedBy n) (htime : InTime (n + 1)) {old new : Todo}
    (hold : m.find new.userId new.id = some old)
    (hdue : new.dueAt = .null ∨ ∃ millis, new.dueAt = .date (.valid millis)) :
    (m.update new).2.DatedBy (n + 1) := by
  refine ⟨?_, fun todo hmem => ?_⟩
  · rw [created_update]
    exact Nat.le_succ_of_le h.created_le
  · rw [Memory.update, hold] at hmem
    obtain ⟨t, ht, rfl⟩ := List.mem_map.1 hmem
    split_ifs
    · exact replacing (h.todos old (mem_of_find hold)) htime hdue
    · exact (h.todos t ht).succ

theorem delete (h : m.DatedBy n) (u id : Datum) : (m.delete u id).2.DatedBy n := by
  refine ⟨(created_delete m u id).trans_le h.created_le, fun todo hmem => h.todos todo ?_⟩
  rw [Memory.delete] at hmem
  split at hmem
  · exact hmem
  · exact List.mem_of_mem_filter hmem

end DatedBy

end Memory

namespace Action

variable {a : Action} {m : Memory} {n : Nat}

theorem Puts.dated {dueAt : Datum} (h : a.Puts dueAt) (hdue : DueOffered a.due) :
    dueAt = .null ∨ ∃ millis, dueAt = .date (.valid millis) := by
  rcases h with h | ⟨date, hdate, h⟩
  · exact Or.inl h
  · obtain ⟨millis, rfl⟩ := hdue date hdate
    exact Or.inr ⟨millis, h⟩

/-- An action that offers no impossible due date leaves the times of one write more, and what
it writes has a wire form. -/
theorem datedBy_run (u : Datum) (hdue : DueOffered a.due) (hm : m.DatedBy n)
    (htime : Memory.InTime (n + 1)) :
    (a.run u m).2.DatedBy (n + 1) ∧
      ((a.run u m).2 = m ∨ ∀ todo, (a.run u m).1 = .ok (.todo todo) → todo.Presentable) := by
  rcases a.does u m with hrun | ⟨new, hputs, hrun⟩ | ⟨old, new, hold, hputs, hrun⟩ | ⟨id, hrun⟩
  · rw [hrun]
    exact ⟨hm.succ, Or.inl rfl⟩
  · have hdated := hputs.dated hdue
    rw [hrun]
    refine ⟨hm.create htime hdated, Or.inr fun todo htodo => ?_⟩
    injection htodo with htodo
    injection htodo with htodo
    rw [← htodo, Memory.create_fst]
    exact (hm.stored htime hdated).presentable
  · have hdated : new.dueAt = .null ∨ ∃ millis, new.dueAt = .date (.valid millis) := by
      rcases hputs with hsame | hputs
      · rw [hsame]
        exact (hm.todos old (Memory.mem_of_find hold)).due
      · exact hputs.dated hdue
    rw [hrun]
    refine ⟨hm.update htime hold hdated, Or.inr fun todo htodo => ?_⟩
    cases htodo
    exact (Memory.DatedBy.replacing (hm.todos old (Memory.mem_of_find hold)) htime
      hdated).presentable
  · rw [hrun]
    refine ⟨(hm.delete u id).succ, Or.inr fun todo htodo => ?_⟩
    injection htodo with htodo
    injection htodo

end Action

end TodoServer
