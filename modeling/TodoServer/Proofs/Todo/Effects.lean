/-
What operations do to the todos, and what they leave alone.

An operation that fails leaves the store as it was. One that succeeds puts one todo at the end,
under an id that no todo has; or puts a todo that differs in what was asked for in the place of
the one with the id and owner; or takes that one away; or does nothing. All other todos stay as
they are, and where they are. What may be asked for is told apart field by field: absent, null,
or given.

* `DueAfter` — the due date that is left by what is given;
* `Effect` — all that a successful operation can come to, one case for each operation;
* `Action.run_eq_ok_iff` — an operation succeeds with an effect exactly if the effect is its
  own;
* `Memory.find_after_run` — what has just been written is found;
* `Memory.ClockedBy`, `Memory.clockedBy_after` — the update time moves on as long as dates
  last;
* `operations_effects` — all of it together, in every state that calls lead to.
-/
import TodoServer.Proofs.Todo.DueDates

namespace TodoServer

open Store

/-- The due date that is left by what is given: the old one where nothing is, none where that
is null, and the date of a text. -/
inductive DueAfter (given old : Datum) : Datum → Prop
  | kept (hgiven : given = .absent) : DueAfter given old old
  | cleared (hgiven : given = .null) : DueAfter given old .null
  | set {raw : Text} {date : Date} (hgiven : given = .text raw)
    (hdate : dueDate? given = .ok date) : DueAfter given old (.date date)

/-- All that a successful operation of a user can come to: what they get, and the store after
it. -/
inductive Effect (u : Text) (m : Memory) : Action → Action.Result → Memory → Prop
  /-- A todo is added, with both its times the same. -/
  | create {input : TodoInput} {dueAt : Datum} {todo : Todo} (htitle : input.title ≠ .text "")
    (hdue : DueAfter input.dueAt .null dueAt)
    (htodo : todo =
      { id := .text (Uuid.ofNumber (m.created + 1)), userId := .text u, title := input.title,
        description := if input.description.isMissing then .text "" else input.description,
        status := Status.pending.name, dueAt,
        createdAt := .date (Memory.creationTime (m.created + 1)),
        updatedAt := .date (Memory.creationTime (m.created + 1)) }) :
    Effect u m (.create input) (.todo todo) ⟨m.todos ++ [todo], m.created + 1⟩
  | find {id : Datum} {todo : Todo} (hmem : todo ∈ m.todos) (hid : todo.id = id)
    (howner : todo.userId = .text u) : Effect u m (.find id) (.todo todo) m
  /-- A todo takes the place of the one that it was made from. -/
  | update {id : Datum} {changes : TodoChanges} {old new : Todo} {dueAt : Datum}
    (hmem : old ∈ m.todos) (hid : old.id = id) (howner : old.userId = .text u)
    (htitle : changes.title ≠ .text "")
    (hdue : DueAfter changes.dueAt old.dueAt dueAt)
    (hnew : new =
      { old with
        title := if changes.title = .absent then old.title else changes.title
        description :=
          if changes.description = .absent then old.description else changes.description
        dueAt
        updatedAt := Memory.secondLater old.updatedAt }) :
    Effect u m (.update id changes) (.todo new)
      ⟨m.todos.map fun t => if t = old then new else t, m.created⟩
  | updateStatus {id : Datum} {status : Status} {old new : Todo} (hmem : old ∈ m.todos)
    (hid : old.id = id) (howner : old.userId = .text u)
    (hnew : new =
      { old with status := status.name, updatedAt := Memory.secondLater old.updatedAt }) :
    Effect u m (.updateStatus id status.name) (.todo new)
      ⟨m.todos.map fun t => if t = old then new else t, m.created⟩
  /-- A todo is taken away. -/
  | delete {id : Datum} {old : Todo} (hmem : old ∈ m.todos) (hid : old.id = id)
    (howner : old.userId = .text u) :
    Effect u m (.delete id) .deleted ⟨m.todos.filter fun t => t ≠ old, m.created⟩
  | list {input : ListInput} {size : Nat} {page : Page Todo}
    (hsize : askedSize input.size = .ok size)
    (hpage : m.list ⟨.text u, input.status, input.cursor, .ofInt size⟩ = .ok page) :
    Effect u m (.list input) (.page page) m

/-! ### Input -/

theorem Datum.isAbsent_iff {d : Datum} : d.isAbsent = true ↔ d = .absent := by
  cases d <;> simp [isAbsent]

theorem Datum.isMissing_iff {d : Datum} : d.isMissing = true ↔ d = .absent ∨ d = .null := by
  rcases d with _ | ⟨_ | _ | _ | _ | _ | _⟩ | _ <;> simp [isMissing, null]

theorem changed_eq (new old : Datum) :
    changed new old = if new = .absent then old else new := by
  rw [changed]
  simp only [Datum.isAbsent_iff]

theorem Status.ofDatum?_eq_some_iff {status : Status} {value : Datum} :
    ofDatum? value = some status ↔ value = status.name := by
  constructor
  · intro h
    rw [ofDatum?] at h
    split_ifs at h with hpending hcompleted
    · cases h
      exact hpending
    · cases h
      exact hcompleted
  · rintro rfl
    cases status <;> decide

theorem TodoChanges.due_eq_ok_iff {changes : TodoChanges} {old dueAt : Datum} :
    changes.due old = .ok dueAt ↔ DueAfter changes.dueAt old dueAt := by
  rw [TodoChanges.due]
  constructor
  · intro h
    split at h
    · next habsent =>
      cases h
      exact .kept habsent
    · next hnull =>
      cases h
      exact .cleared hnull
    · obtain ⟨date, hdate, rfl⟩ := map_eq_ok_iff.1 h
      obtain ⟨raw, -, hraw, -⟩ := exists_writes_of_dueDate? hdate
      exact .set hraw hdate
  · intro h
    cases h with
    | kept hgiven => rw [hgiven]
    | cleared hgiven => rw [hgiven]
    | set hgiven hdate =>
      rw [hgiven] at hdate ⊢
      simp only [hdate, Except.map]

theorem TodoInput.due_eq_ok_iff {input : TodoInput} {dueAt : Datum} :
    input.due = .ok dueAt ↔ DueAfter input.dueAt .null dueAt := by
  rw [TodoInput.due]
  constructor
  · intro h
    split_ifs at h with hmissing
    · cases h
      rcases Datum.isMissing_iff.1 hmissing with habsent | hnull
      · exact .kept habsent
      · exact .cleared hnull
    · obtain ⟨date, hdate, rfl⟩ := map_eq_ok_iff.1 h
      obtain ⟨raw, -, hraw, -⟩ := exists_writes_of_dueDate? hdate
      exact .set hraw hdate
  · intro h
    cases h with
    | kept hgiven => rw [if_pos (Datum.isMissing_iff.2 (Or.inl hgiven))]
    | cleared hgiven => rw [if_pos (Datum.isMissing_iff.2 (Or.inr hgiven))]
    | set hgiven hdate =>
      rw [hgiven] at hdate ⊢
      rw [if_neg (show (Datum.text _).isMissing ≠ true by simp [Datum.isMissing]), hdate]
      rfl

theorem TodoInput.newTodo_eq_ok_iff {input : TodoInput} {u : Datum} {new : NewTodo} :
    input.newTodo u = .ok new ↔ input.title ≠ .text "" ∧ ∃ dueAt,
      DueAfter input.dueAt .null dueAt ∧ new =
        { userId := u, title := input.title,
          description := if input.description.isMissing then .text "" else input.description,
          status := Status.pending.name, dueAt } := by
  rw [newTodo]
  by_cases htitle : input.title = .text ""
  · rw [if_pos htitle]
    exact iff_of_false (fun h => by cases h) fun h => h.1 htitle
  · rw [if_neg htitle, map_eq_ok_iff]
    simp only [due_eq_ok_iff, Datum.orElse, htitle, not_false_eq_true, true_and, ne_eq,
      eq_comm (b := new)]

theorem TodoChanges.apply_eq_ok_iff {changes : TodoChanges} {old new : Todo} :
    changes.apply old = .ok new ↔
      changes.title ≠ .text "" ∧ ∃ dueAt, DueAfter changes.dueAt old.dueAt dueAt ∧
        new = { old with
          title := if changes.title = .absent then old.title else changes.title
          description :=
            if changes.description = .absent then old.description else changes.description
          dueAt := dueAt } := by
  rw [apply]
  by_cases htitle : changes.title = .text ""
  · rw [if_pos htitle]
    exact iff_of_false (fun h => by cases h) fun h => h.1 htitle
  · rw [if_neg htitle, map_eq_ok_iff]
    simp only [due_eq_ok_iff, changed_eq, htitle, not_false_eq_true, true_and, ne_eq,
      eq_comm (b := new)]

/-! ### The store -/

namespace Memory

variable {m : Memory} {u : Text} {id : Datum} {old new : Todo}

theorem Numbered.find_text_iff (h : m.Numbered) :
    m.find (.text u) id = some old ↔ old ∈ m.todos ∧ old.id = id ∧ old.userId = .text u := by
  rw [h.find_eq_some_iff, Datum.same_text_iff]

/-- The todo with the id of another is that other. -/
theorem Numbered.same_id_iff_eq (h : m.Numbered) (hmem : old ∈ m.todos) {t : Todo}
    (ht : t ∈ m.todos) : t.id.same old.id = true ↔ t = old := by
  rw [h.same_id_iff ht]
  exact ⟨h.eq_of_id_eq ht hmem, congrArg Todo.id⟩

/-- What is written back takes the place of the todo that it was made from, and of no other. -/
theorem Numbered.update_snd (h : m.Numbered) (hfind : m.find new.userId new.id = some old) :
    (m.update new).2 =
      ⟨m.todos.map fun t => if t = old then replacing old new else t, m.created⟩ := by
  obtain ⟨hmem, hid, -⟩ := h.find_eq_some_iff.1 hfind
  rw [Memory.update, hfind]
  refine congrArg (Memory.mk · m.created) (List.map_congr_left fun t ht => ?_)
  exact ite_congr (propext (hid ▸ h.same_id_iff_eq hmem ht)) (fun _ => rfl) fun _ => rfl

/-- What is deleted is the todo that was found, and no other. -/
theorem Numbered.delete_eq (h : m.Numbered) (hfind : m.find (.text u) id = some old) :
    m.delete (.text u) id = (true, ⟨m.todos.filter fun t => t ≠ old, m.created⟩) := by
  obtain ⟨hmem, rfl, -⟩ := h.find_text_iff.1 hfind
  rw [Memory.delete, hfind]
  refine congrArg (fun todos => (true, Memory.mk todos m.created))
    (List.filter_congr fun t ht => ?_)
  rw [decide_not, Bool.eq_iff_iff, Bool.not_eq_true', Bool.not_eq_true', ← Bool.not_eq_true,
    h.same_id_iff_eq hmem ht, decide_eq_false_iff_not]

end Memory

/-! ### Effects -/

namespace Action

variable {u : Text} {m m' : Memory} {a : Action} {result : Result}

/-- A successful operation comes to its effect. -/
theorem effect_of_run (hm : m.Numbered) (h : a.run (.text u) m = (.ok result, m')) :
    Effect u m a result m' := by
  cases a with
  | create input =>
    rw [run, program, Program.run_map, Operation.run_create] at h
    rcases hnew : input.newTodo (.text u) with e | new <;> simp only [hnew] at h <;> cases h
    obtain ⟨htitle, dueAt, hdue, rfl⟩ := TodoInput.newTodo_eq_ok_iff.1 hnew
    exact .create htitle hdue rfl
  | find id =>
    rw [run, program, Program.run_map, Operation.run_find] at h
    rcases hfind : m.find (.text u) id with _ | todo <;> simp only [hfind] at h <;> cases h
    obtain ⟨hmem, hid, howner⟩ := hm.find_text_iff.1 hfind
    exact .find hmem hid howner
  | update id changes =>
    rw [run, program, Program.run_map, Operation.run_update] at h
    rcases hfind : m.find (.text u) id with _ | old <;> simp only [hfind] at h
    · cases h
    · rcases happly : changes.apply old with e | new <;> simp only [happly] at h
      · cases h
      · obtain ⟨hmem, hid, howner⟩ := hm.find_text_iff.1 hfind
        obtain ⟨htitle, dueAt, hdue, hnew⟩ := TodoChanges.apply_eq_ok_iff.1 happly
        -- the store finds the todo once more before it sets the time
        have hself : m.find new.userId new.id = some old := hnew ▸ Memory.find_self hfind
        rw [hm.update_snd hself] at h
        cases h
        exact .update hmem hid howner htitle hdue (hnew ▸ rfl)
  | updateStatus id status =>
    rw [run, program, Program.run_map, Operation.run_updateStatus] at h
    rcases hstatus : Status.ofDatum? status with _ | known <;> simp only [hstatus] at h
    · cases h
    · rcases hfind : m.find (.text u) id with _ | old <;> simp only [hfind] at h
      · cases h
      · obtain ⟨hmem, hid, howner⟩ := hm.find_text_iff.1 hfind
        obtain rfl := Status.ofDatum?_eq_some_iff.1 hstatus
        have hself : m.find { old with status := .text known.name }.userId
            { old with status := .text known.name }.id = some old := Memory.find_self hfind
        rw [hm.update_snd hself] at h
        cases h
        exact .updateStatus hmem hid howner rfl
  | delete id =>
    rw [run, program, Program.run_map, Operation.run_delete] at h
    rcases hfind : m.find (.text u) id with _ | old
    · rw [Memory.delete, hfind] at h
      cases h
    · obtain ⟨hmem, hid, howner⟩ := hm.find_text_iff.1 hfind
      rw [hm.delete_eq hfind] at h
      cases h
      exact .delete hmem hid howner
  | list input =>
    rw [run, program, Program.run_map, Operation.run_list] at h
    rcases hsize : askedSize input.size with fault | size <;> rw [hsize] at h
    · cases h
    · rcases hpage : m.list ⟨.text u, input.status, input.cursor, .ofInt size⟩ with
        fault | page
      · simp only [Except.bind, hpage] at h
        cases h
      · simp only [Except.bind, hpage] at h
        cases h
        exact .list hsize hpage

/-- An operation comes to its effect wherever that is one. -/
theorem run_of_effect (hm : m.Numbered) (h : Effect u m a result m') :
    a.run (.text u) m = (.ok result, m') := by
  cases h with
  | create htitle hdue htodo =>
    have hnew := (TodoInput.newTodo_eq_ok_iff (u := .text u)).2 ⟨htitle, _, hdue, rfl⟩
    rw [run, program, Program.run_map, Operation.run_create, hnew, htodo]
    rfl
  | find hmem hid howner =>
    have hfind := hm.find_text_iff.2 ⟨hmem, hid, howner⟩
    rw [run, program, Program.run_map, Operation.run_find, hfind]
    rfl
  | @update id changes old new dueAt hmem hid howner htitle hdue hnew =>
    have hfind := hm.find_text_iff.2 ⟨hmem, hid, howner⟩
    -- the todo as the store is given it, before its time is set
    obtain ⟨given, hgiven⟩ : ∃ given, given = { old with
        title := if changes.title = Datum.absent then old.title else changes.title
        description :=
          if changes.description = Datum.absent then old.description else changes.description
        dueAt := dueAt } := ⟨_, rfl⟩
    have happly := TodoChanges.apply_eq_ok_iff.2 ⟨htitle, dueAt, hdue, hgiven⟩
    have hself : m.find given.userId given.id = some old := hgiven ▸ Memory.find_self hfind
    have hreplaced : Memory.replacing old given = new := by
      rw [hnew, hgiven]
      rfl
    rw [run, program, Program.run_map, Operation.run_update, hfind]
    simp only [happly]
    rw [hm.update_snd hself, hreplaced]
    rfl
  | @updateStatus id status old new hmem hid howner hnew =>
    have hfind := hm.find_text_iff.2 ⟨hmem, hid, howner⟩
    have hstatus : Status.ofDatum? (.text status.name) = some status :=
      Status.ofDatum?_eq_some_iff.2 rfl
    have hself : m.find { old with status := .text status.name }.userId
        { old with status := .text status.name }.id = some old := Memory.find_self hfind
    rw [run, program, Program.run_map, Operation.run_updateStatus, hstatus]
    simp only [hfind]
    rw [hm.update_snd hself, hnew]
    rfl
  | delete hmem hid howner =>
    have hfind := hm.find_text_iff.2 ⟨hmem, hid, howner⟩
    rw [run, program, Program.run_map, Operation.run_delete, hm.delete_eq hfind]
    rfl
  | list hsize hpage =>
    rw [run, program, Program.run_map, Operation.run_list, hsize]
    simp only [Except.bind, hpage]
    rfl

/-- An operation succeeds with an effect exactly if the effect is its own. -/
theorem run_eq_ok_iff (hm : m.Numbered) :
    a.run (.text u) m = (.ok result, m') ↔ Effect u m a result m' :=
  ⟨effect_of_run hm, run_of_effect hm⟩

end Action

namespace Memory

variable {u : Text} {m : Memory} {a : Action} {todo : Todo}

/-- A todo that an action has returned is found straight after it. -/
theorem find_after_run (hm : m.Reachable) (h : (a.run (.text u) m).1 = .ok (.todo todo)) :
    (Action.find todo.id).run (.text u) (a.run (.text u) m).2 =
      (.ok (.todo todo), (a.run (.text u) m).2) := by
  have hafter : (a.run (.text u) m).2.Numbered := (hm.run (a.program (.text u))).numbered
  rcases hrun : a.run (.text u) m with ⟨outcome, m'⟩
  rw [hrun] at h hafter
  obtain rfl : outcome = .ok (.todo todo) := h
  refine Action.run_of_effect hafter ?_
  cases Action.effect_of_run hm.numbered hrun with
  | create htitle hdue htodo => exact .find (by simp) rfl (by rw [htodo])
  | find hmem hid howner => exact .find hmem rfl howner
  | update hmem hid howner htitle hdue hnew =>
    refine .find (List.mem_map.2 ⟨_, hmem, if_pos rfl⟩) rfl ?_
    rw [hnew]
    exact howner
  | updateStatus hmem hid howner hnew =>
    refine .find (List.mem_map.2 ⟨_, hmem, if_pos rfl⟩) rfl ?_
    rw [hnew]
    exact howner

/-- No todo has the id that the next one gets. -/
theorem Numbered.id_ne_next (h : m.Numbered) (hmem : todo ∈ m.todos) :
    todo.id ≠ .text (Uuid.ofNumber (m.created + 1)) := by
  obtain ⟨n, hn, hle⟩ := h.counted todo hmem
  intro hnext
  have := Todo.HasNumber.unique hn hnext
  omega

/-! ### The time of the last update -/

/-- The update times of todos are such as a number of calls can have left. -/
structure ClockedBy (n : Nat) (m : Memory) : Prop where
  created_le : m.created ≤ n
  updated : ∀ todo ∈ m.todos, ∃ millis, todo.updatedAt = .date (.valid millis) ∧ 0 ≤ millis ∧
    millis ≤ baseTime + n * 1000

theorem ClockedBy.mono {n k : Nat} (h : m.ClockedBy n) (hle : n ≤ k) : m.ClockedBy k := by
  refine ⟨h.created_le.trans hle, fun todo hmem => ?_⟩
  obtain ⟨millis, hupdated, hlow, hhigh⟩ := h.updated todo hmem
  exact ⟨millis, hupdated, hlow, by omega⟩

/-- A second later is a second later, as long as dates last. -/
theorem secondLater_valid {millis : Int} (hlow : 0 ≤ millis)
    (hhigh : millis + 1000 ≤ Date.range) :
    secondLater (.date (.valid millis)) = .date (.valid (millis + 1000)) := by
  refine congrArg Datum.date (if_pos ⟨?_, hhigh⟩)
  rw [Date.range]
  omega

theorem ClockedBy.answer {n : Nat} (h : m.ClockedBy n) (htime : InTime (n + 1)) (c : Call) :
    (Memory.answer c m).2.ClockedBy (n + 1) := by
  have hold := (h.mono (Nat.le_succ n)).updated
  have hle := h.created_le
  rw [InTime] at htime
  cases c with
  | create new =>
    refine ⟨Nat.succ_le_succ hle, fun todo hmem => ?_⟩
    rcases (Numbered.mem_create_iff new).1 hmem with hmem | rfl
    · exact hold todo hmem
    · have hintime : InTime (m.created + 1) := by
        rw [InTime]
        omega
      refine ⟨_, congrArg Datum.date hintime.creationTime_eq, ?_, ?_⟩
      · rw [baseTime]
        omega
      · omega
  | find u id => exact ⟨Nat.le_succ_of_le hle, hold⟩
  | update new =>
    refine ⟨(created_update m new).trans_le (Nat.le_succ_of_le hle), fun todo hmem => ?_⟩
    have hmem : todo ∈ (m.update new).2.todos := hmem
    rcases hfind : m.find new.userId new.id with _ | old
    · rw [Memory.update, hfind] at hmem
      exact hold todo hmem
    · rw [Memory.update, hfind] at hmem
      obtain ⟨t, ht, rfl⟩ := List.mem_map.1 hmem
      split_ifs
      · obtain ⟨millis, hupdated, hlow, hhigh⟩ := h.updated old (mem_of_find hfind)
        have hlater := secondLater_valid hlow (by omega)
        exact ⟨millis + 1000, hupdated ▸ hlater, by omega, by omega⟩
      · exact hold t ht
  | delete u id =>
    refine ⟨(created_delete m u id).trans_le (Nat.le_succ_of_le hle), fun todo hmem => ?_⟩
    have hmem : todo ∈ (m.delete u id).2.todos := hmem
    rw [Memory.delete] at hmem
    split at hmem
    · exact hold todo hmem
    · exact hold todo (List.mem_of_mem_filter hmem)
  | list params => exact ⟨Nat.le_succ_of_le hle, hold⟩

/-- The store after some calls. -/
def after (m : Memory) (calls : List Call) : Memory :=
  calls.foldl (fun m c => (Memory.answer c m).2) m

theorem Reachable.after (h : m.Reachable) (calls : List Call) : (m.after calls).Reachable := by
  induction calls generalizing m with
  | nil => exact h
  | cons c rest ih => exact ih (h.answer c)

theorem clockedBy_after {n : Nat} (h : m.ClockedBy n) {calls : List Call}
    (htime : InTime (n + calls.length)) : (m.after calls).ClockedBy (n + calls.length) := by
  induction calls generalizing m n with
  | nil => exact h
  | cons c rest ih =>
    rw [List.length_cons, Nat.add_comm rest.length, ← Nat.add_assoc] at htime ⊢
    exact ih (h.answer (htime.mono (Nat.le_add_right _ _)) c) htime

/-- The update time of every todo is a time that moves on by a second with the next update, as
long as there are dates for a second for each call. -/
theorem updatedAt_advances {calls : List Call} (htime : InTime (calls.length + 1))
    (hmem : todo ∈ (Memory.empty.after calls).todos) :
    ∃ millis, todo.updatedAt = .date (.valid millis) ∧
      secondLater todo.updatedAt = .date (.valid (millis + 1000)) := by
  have hempty : Memory.empty.ClockedBy 0 :=
    ⟨le_rfl, fun _ hmem => absurd hmem List.not_mem_nil⟩
  have hclocked : (Memory.empty.after calls).ClockedBy (0 + calls.length) :=
    clockedBy_after hempty (by rw [Nat.zero_add]; exact htime.mono (Nat.le_succ _))
  obtain ⟨millis, hupdated, hlow, hhigh⟩ := hclocked.updated todo hmem
  rw [InTime] at htime
  refine ⟨millis, hupdated, ?_⟩
  rw [hupdated]
  exact secondLater_valid hlow (by omega)

end Memory

/-- An operation of a user, in any state that calls lead to. If it fails, it leaves the store
as it was. It succeeds exactly if it has an effect, which is then what it returns and leaves: a
todo is added under an id that none has, changed in what was asked for and in its update time,
or taken away, and every other todo stays as it is. A todo that it returns is found straight
after it. And an update moves the update time on by a second, as long as there are dates for a
second for each call. -/
theorem operations_effects (calls : List Call) (u : Text) (a : Action) :
    let m := Memory.empty.after calls
    (∀ fault, (a.run (.text u) m).1 = .error fault → (a.run (.text u) m).2 = m) ∧
    (∀ result m', a.run (.text u) m = (.ok result, m') ↔ Effect u m a result m') ∧
    (∀ todo ∈ m.todos, todo.id ≠ .text (Uuid.ofNumber (m.created + 1))) ∧
    (∀ todo, (a.run (.text u) m).1 = .ok (.todo todo) →
      (Action.find todo.id).run (.text u) (a.run (.text u) m).2 =
        (.ok (.todo todo), (a.run (.text u) m).2)) ∧
    (Memory.InTime (calls.length + 1) → ∀ todo ∈ m.todos, ∃ millis,
      todo.updatedAt = .date (.valid millis) ∧
        Memory.secondLater todo.updatedAt = .date (.valid (millis + 1000))) := by
  have hm := Memory.Reachable.empty.after calls
  exact ⟨fun _ => Action.memory_of_error, fun _ _ => Action.run_eq_ok_iff hm.numbered,
    fun _ => hm.numbered.id_ne_next, fun _ => Memory.find_after_run hm,
    fun htime _ => Memory.updatedAt_advances htime⟩

/-- The title of the todo that an action has come to, if it has come to one. -/
def Action.Result.title? : Action.Result → Option Datum
  | .todo found => some found.title
  | .deleted => none
  | .page _ => none

/-- Two users have a todo each. -/
def twoCreated : List Call :=
  [.create ⟨"alice", "a", "", Status.pending.name, .null, []⟩,
    .create ⟨"bob", "b", "", Status.pending.name, .null, []⟩]

theorem operations_effects_rename :
    let m := Memory.empty.after twoCreated
    let rename : Action := .update (.text (Uuid.ofNumber 1)) ⟨"new", .absent, .null⟩
    let misdate : Action := .update (.text (Uuid.ofNumber 1)) ⟨"new", .absent, "tomorrow"⟩
    (misdate.run "alice" m).2 = m ∧
      ∃ todo m', rename.run "alice" m = (.ok (.todo todo), m') ∧ todo.title = "new" ∧
        Effect "alice" m rename (.todo todo) m' ∧ m'.todos[1]? = m.todos[1]? ∧
        (Action.find todo.id).run "alice" m' = (.ok (.todo todo), m') := by
  intro m rename misdate
  obtain ⟨hfails, -⟩ := operations_effects twoCreated "alice" misdate
  obtain ⟨-, heffect, -, hfound, -⟩ := operations_effects twoCreated "alice" rename
  constructor
  · rcases hmisdate : (misdate.run "alice" m).1 with fault | result
    · exact hfails fault hmisdate
    · have hrefused : (misdate.run "alice" m).1.toOption.isNone = true := by decide +kernel
      rw [hmisdate] at hrefused
      cases hrefused
  · have htitle : (rename.run "alice" m).1.toOption.bind Action.Result.title? =
        some (Datum.text "new") := by decide +kernel
    have hother : (rename.run "alice" m).2.todos[1]? = m.todos[1]? := by decide +kernel
    rcases hrename : rename.run "alice" m with ⟨fault | todo | _ | page, m'⟩ <;>
      rw [hrename] at htitle hother
    case ok.todo =>
      have htodo : (rename.run "alice" m).1 = .ok (.todo todo) := congrArg Prod.fst hrename
      have hafter := hfound todo htodo
      rw [hrename] at hafter
      exact ⟨todo, m', rfl, Option.some_inj.1 htitle, (heffect _ _).1 hrename, hother, hafter⟩
    all_goals cases htitle

end TodoServer
