/-
What holds of the todos in every run.

However the calls of many actions come between one another, a todo stands under its own id,
which is that of a number given out; its times are those of its number and of a later second;
it has a title that some action gave, and not an empty one, and a status that todos have. A
copy that was read long ago and is written back breaks none of this, for such a copy is of a
todo that was there, and the store gives what it writes the id and the creation time of what it
replaces. As numbers are to one another, so are times, ids and places in listings.

Times are dates as long as there are any. The store moves a time on by a second at most with
every write, and an action writes once at most, with its last call; so it is by the actions
that have ended that one can tell how far times have come.

* `Labelled`, `Todo.Aged` — what is asked of the title and the status, and of the id and the
  times;
* `Action.Makes.labels`, `Memory.keptBy_labels` — actions and the store keep it;
* `Run.clockedBy_after` — the update times after a run;
* `Todo.Older` — one todo is older than another by every measure;
* `todos_intact` — all of it together, in every run of fewer than a trillion actions.
-/
import TodoServer.Proofs.Todo.Calls
import TodoServer.Proofs.Todo.Deletion
import TodoServer.Proofs.Todo.Effects

namespace TodoServer

open Store

/-! ### Titles and statuses -/

/-- The title that an action gives to a todo, if it gives one. -/
def Action.title? : Action → Option Datum
  | .create input => some input.title
  | .update _ changes => if changes.title.isAbsent then none else some changes.title
  | _ => none

/-- A title is one of some and not empty, and a status is the name of one. -/
structure Labelled (given : Datum → Prop) (title status : Datum) : Prop where
  given : given title
  title_ne : title ≠ .text ""
  status : ∃ known : Status, status = .text known.name

/-- The todo of a call, if it has one, is labelled as it should be. -/
def Store.Call.Labels (given : Datum → Prop) : Call → Prop
  | .create todo => Labelled given todo.title todo.status
  | .update todo => Labelled given todo.title todo.status
  | _ => True

theorem TodoInput.newTodo_labelled {input : TodoInput} {u : Datum} {new : NewTodo}
    (h : input.newTodo u = .ok new) : Labelled (· = input.title) new.title new.status := by
  rw [newTodo] at h
  split_ifs at h with htitle
  obtain ⟨dueAt, -, rfl⟩ := map_eq_ok_iff.1 h
  exact ⟨rfl, htitle, .pending, rfl⟩

/-- Changes keep a title or give one that is not empty. -/
theorem TodoChanges.title_of_apply {changes : TodoChanges} {old new : Todo}
    (h : changes.apply old = .ok new) :
    new.title = old.title ∨
      changes.title.isAbsent = false ∧ new.title = changes.title ∧
        changes.title ≠ .text "" := by
  have hne : changes.title ≠ .text "" := by
    intro hempty
    rw [apply, if_pos hempty] at h
    cases h
  obtain ⟨dueAt, -, rfl⟩ := TodoChanges.apply_eq_ok h
  show changed changes.title old.title = old.title ∨
    _ ∧ changed changes.title old.title = changes.title ∧ _
  rw [changed]
  rcases changes.title.isAbsent
  · exact Or.inr ⟨rfl, rfl, hne⟩
  · exact Or.inl rfl

/-- An action writes labels that it was given or has found. -/
theorem Action.Makes.labels {a : Action} {u : Datum} {found : Todo → Prop}
    {given : Datum → Prop} {c : Call} (h : a.Makes found u c)
    (hgiven : ∀ title, a.title? = some title → given title)
    (hfound : ∀ todo, found todo → Labelled given todo.title todo.status) :
    c.Labels given := by
  cases h with
  | stores hnew =>
    obtain ⟨htitle, hne, hstatus⟩ := TodoInput.newTodo_labelled hnew
    exact ⟨hgiven _ (congrArg some htitle.symm), hne, hstatus⟩
  | @changes id changes old new hold happly =>
    obtain ⟨hgivenOld, hneOld, hstatusOld⟩ := hfound old hold
    have hstatus : new.status = old.status := by
      obtain ⟨dueAt, -, rfl⟩ := TodoChanges.apply_eq_ok happly
      rfl
    rw [Call.Labels, hstatus]
    rcases TodoChanges.title_of_apply happly with hsame | ⟨hpresent, hnew, hne⟩
    · rw [hsame]
      exact ⟨hgivenOld, hneOld, hstatusOld⟩
    · rw [hnew]
      refine ⟨hgiven _ ?_, hne, hstatusOld⟩
      rw [title?, hpresent]
      rfl
  | @marks id status old known hold hstatus =>
    obtain ⟨hgivenOld, hneOld, -⟩ := hfound old hold
    exact ⟨hgivenOld, hneOld, known, Status.ofDatum?_eq_some_iff.1 hstatus⟩
  | _ => trivial

/-! ### Ids and times -/

namespace Memory

/-- A second after the time of a number is the time of the next, also where neither is a
date. -/
theorem secondLater_creationTime (n : Nat) :
    secondLater (.date (creationTime n)) = .date (creationTime (n + 1)) := by
  have hnext : baseTime + (n + 1 : Nat) * 1000 = baseTime + n * 1000 + 1000 := by
    push_cast
    omega
  refine congrArg Datum.date ?_
  show (creationTime n).later 1000 = creationTime (n + 1)
  rw [creationTime, creationTime, Date.ofMillis, hnext]
  split_ifs with hrange
  · rfl
  · refine (if_neg ?_).symm
    rw [baseTime, Date.range] at hrange ⊢
    omega

end Memory

/-- A todo has the id and the creation time of a number from one on, and was last updated as
many seconds later as it may be. -/
def Todo.Aged (todo : Todo) : Prop :=
  ∃ k later, 0 < k ∧ todo.HasNumber k ∧ todo.createdAt = .date (Memory.creationTime k) ∧
    todo.updatedAt = .date (Memory.creationTime (k + later))

/-- The store keeps ids and times by itself, whatever it is called with, and labels if the
calls do. -/
theorem Memory.keptBy_labels (given : Datum → Prop) :
    KeptBy (Call.Labels given) fun todo => Labelled given todo.title todo.status ∧
      todo.Aged where
  stored n new hpos hcall := ⟨hcall, n, 0, hpos, rfl, rfl, rfl⟩
  replacing old new hold hid hcall := by
    obtain ⟨-, k, later, hpos, hnumber, hcreated, hupdated⟩ := hold
    refine ⟨hcall, k, later + 1, hpos, hid.symm.trans hnumber, hcreated, ?_⟩
    show secondLater old.updatedAt = _
    rw [hupdated, secondLater_creationTime, Nat.add_assoc]

/-! ### How far times have come -/

/-- An action changes the todos with its last call only. -/
theorem Task.Step.same_or_ended {task : Task} {m m' : Memory}
    {rest : Program (Except Fault Action.Result)} (h : task.Step m rest m') :
    m' = m ∨ ∃ result, rest = .done result := by
  cases h with
  | reads hfind htarget => exact Or.inl rfl
  | _ => exact Or.inr ⟨_, rfl⟩

namespace Run

variable {r : Run}

/-- How many of the actions begun have ended. -/
def ended (r : Run) : Nat := r.tasks.countP fun task => task.rest.result?.isSome

theorem ended_le_length (r : Run) : r.ended ≤ r.tasks.length := List.countP_le_length

theorem ended_set {m : Memory} {place : Nat} {task : Task} {c : Call}
    {next : Except Fault c.Reply → Program (Except Fault Action.Result)}
    (htask : r.tasks[place]? = some task) (hrest : task.rest = .call c next)
    (rest : Program (Except Fault Action.Result)) :
    ended ⟨m, r.tasks.set place { task with rest }⟩ =
      r.ended + if rest.result?.isSome then 1 else 0 := by
  obtain ⟨hplace, htask⟩ := List.getElem?_eq_some_iff.1 htask
  have hwaits : task.rest.result?.isSome = false := by
    rw [hrest]
    rfl
  rw [ended, ended, List.countP_set hplace, htask, hwaits]
  rfl

theorem length_le_next (r : Run) (event : Event) :
    r.tasks.length ≤ (r.next event).tasks.length := by
  rcases r.next_cases event with
    ⟨-, hnext⟩ | ⟨u, a, -, hnext⟩ | ⟨place, task, c, rest, -, -, -, -, hnext⟩
  · rw [hnext]
  · rw [hnext, List.length_append]
    exact Nat.le_add_right _ _
  · rw [hnext, List.length_set]

theorem length_le_after (r : Run) (events : List Event) :
    r.tasks.length ≤ (r.after events).tasks.length := by
  induction events generalizing r with
  | nil => exact le_rfl
  | cons event rest ih => exact (r.length_le_next event).trans (ih _)

/-- The todos have been written as often at most as actions have ended. -/
theorem Sound.clockedBy_next (hr : r.Sound) (h : r.memory.ClockedBy r.ended) {event : Event}
    (htime : Memory.InTime (r.next event).tasks.length) :
    (r.next event).memory.ClockedBy (r.next event).ended := by
  have hended := (r.next event).ended_le_length
  rcases r.next_cases event with ⟨-, hnext⟩ | ⟨u, a, -, hnext⟩ |
    ⟨place, ⟨u, a, program⟩, c, rest, -, htask, -, hcall, hnext⟩
  · rw [hnext]
    exact h
  · rw [hnext]
    refine h.mono ?_
    rw [ended, ended, List.countP_append]
    exact Nat.le_add_right _ _
  · cases program with
    | done result => cases hcall
    | call c' next =>
      have hset : (r.next event).ended = r.ended + if rest.result?.isSome then 1 else 0 := by
        rw [hnext]
        exact ended_set htask rfl rest
      have hstep := (hr.staged _ (List.mem_of_getElem? htask)).step hcall
      rcases hstep.same_or_ended with hsame | ⟨result, rfl⟩
      · rw [hnext] at hset ⊢
        rw [show (Memory.answer c r.memory).2 = r.memory from hsame] at hset ⊢
        exact h.mono (by omega)
      · have hone : (r.next event).ended = r.ended + 1 := hset
        rw [hone]
        rw [hone] at hended
        rw [hnext]
        exact h.answer (htime.mono hended) c

theorem Sound.clockedBy_after (hr : r.Sound) (h : r.memory.ClockedBy r.ended)
    {events : List Event} (htime : Memory.InTime (r.after events).tasks.length) :
    (r.after events).memory.ClockedBy (r.after events).ended := by
  induction events generalizing r with
  | nil => exact h
  | cons event rest ih =>
    have hnext : Memory.InTime (r.next event).tasks.length :=
      htime.mono (length_le_after _ rest)
    exact ih (hr.next event) (hr.clockedBy_next h hnext) htime

end Run

/-! ### The order of todos -/

/-- One todo is older than another by every measure: its number and id are less, its time is
earlier, and listings have it behind the other. -/
structure Todo.Older (a b : Todo) : Prop where
  number : a.Before b
  time : ∃ s t, a.createdAt = .date (.valid s) ∧ b.createdAt = .date (.valid t) ∧ s < t
  id : a.id.words < b.id.words
  listing : b.listingOrder a = .lt

namespace Memory

variable {m : Memory}

/-- As numbers are to one another, so are times, ids and places in listings. -/
theorem Reachable.older (hm : m.Reachable) (hcount : m.created < 10 ^ 12) {a b : Todo}
    (ha : a ∈ m.todos) (hb : b ∈ m.todos) (h : a.Before b) : a.Older b := by
  obtain ⟨i, hi, hile, hkeyed⟩ := hm.exists_keyed hcount ha
  obtain ⟨j, hj, hjle, hkeyed'⟩ := hm.exists_keyed hcount hb
  have hlt : i < j := by
    obtain ⟨k, l, hk, hl, hlt⟩ := h
    rwa [hi.unique hk, hj.unique hl]
  have htime : baseTime + (i : Int) * 1000 < baseTime + (j : Int) * 1000 := by omega
  refine ⟨h, ⟨_, _, hkeyed.1, hkeyed'.1, htime⟩, ?_, ?_⟩
  · rw [hkeyed.2, hkeyed'.2]
    exact Uuid.ofNumber_lt_ofNumber hlt (by omega)
  · rw [Todo.listingOrder_eq_lt_iff hkeyed' hkeyed, Todo.newer_iff_of_keyed hkeyed' hkeyed]
    exact Or.inl htime

/-- A listing has the todos asked for in the order against that of their numbers. -/
theorem Reachable.listing_eq_reverse (hm : m.Reachable) (hcount : m.created < 10 ^ 12)
    (u status : Datum) :
    m.listing u status = (m.todos.filter fun todo =>
      todo.userId.same u && (status.isBlank || todo.status.same status)).reverse := by
  have hnewer : m.todos.Pairwise fun a b => b.Newer a := by
    refine hm.numbered.ordered.imp_of_mem fun ha hb h => ?_
    obtain ⟨i, -, -, hkeyed⟩ := hm.exists_keyed hcount ha
    obtain ⟨j, -, -, hkeyed'⟩ := hm.exists_keyed hcount hb
    exact (Todo.listingOrder_eq_lt_iff hkeyed' hkeyed).1 (hm.older hcount ha hb h).listing
  refine ((hm.listable hcount).pairwise_listing u status).eq_of_mem_iff
    (List.pairwise_reverse.2 (hnewer.filter _)) fun todo => ?_
  rw [listing, List.mem_mergeSort, List.mem_reverse]

/-- The todos of a store are as they should be, with titles among some. -/
structure Intact (given : Datum → Prop) (m : Memory) : Prop where
  /-- A todo stands under its own id. -/
  own : ∀ todo ∈ m.todos, m.get? todo.id = some todo
  /-- Its id and creation time are those of a number given out, and it was last updated no
  earlier. -/
  numbered : ∀ todo ∈ m.todos, ∃ k, todo.HasNumber k ∧ 1 ≤ k ∧ k ≤ m.created ∧
    todo.createdAt = .date (.valid (baseTime + k * 1000)) ∧
    ∃ millis, todo.updatedAt = .date (.valid millis) ∧ baseTime + k * 1000 ≤ millis
  /-- No two have the same number. -/
  distinct : ∀ a ∈ m.todos, ∀ b ∈ m.todos, ∀ k, a.HasNumber k → b.HasNumber k → a = b
  /-- All measures agree on which of two is older. -/
  older : m.todos.Pairwise Todo.Older
  /-- Listings go from the newest to the oldest. -/
  listing : ∀ u status, m.listing u status = (m.todos.filter fun todo =>
    todo.userId.same u && (status.isBlank || todo.status.same status)).reverse
  /-- The title is not empty, and the status is one that todos have. -/
  labelled : ∀ todo ∈ m.todos, Labelled given todo.title todo.status

end Memory

/-- In every run of fewer than a trillion actions the todos are as they should be, with titles
that actions of the run gave, however the calls of the actions come between one another. -/
theorem todos_intact (events : List Run.Event)
    (hcount : (Run.start.after events).tasks.length < 10 ^ 12) :
    (Run.start.after events).memory.Intact fun title =>
      ∃ u a, .begins u a ∈ events ∧ a.title? = some title := by
  have hsound := Run.Sound.start.after events
  have hempty : Run.start.memory.ClockedBy Run.start.ended :=
    ⟨le_rfl, fun _ hmem => absurd hmem List.not_mem_nil⟩
  have hclocked := Run.Sound.start.clockedBy_after hempty (Memory.inTime_of_lt hcount)
  have hkeeps := (Run.keeps_start _ _).after (Memory.keptBy_labels fun title =>
    ∃ u a, .begins u a ∈ events ∧ a.title? = some title) fun u a hbegins c hmakes =>
      hmakes.labels (fun title htitle => ⟨u, a, hbegins, htitle⟩) fun todo h => h.1
  set m := (Run.start.after events).memory with hm
  have hreachable : m.Reachable := hsound.reachable
  have hcreated : m.created < 10 ^ 12 :=
    (hclocked.created_le.trans (Run.ended_le_length _)).trans_lt hcount
  refine ⟨?_, ?_, ?_, ?_, hreachable.listing_eq_reverse hcreated, fun todo hmem =>
    (hkeeps.stored todo hmem).1⟩
  · intro todo hmem
    exact hreachable.numbered.distinct.get?_eq_some_iff.2 ⟨hmem, rfl⟩
  · intro todo hmem
    obtain ⟨k, hnumber, hle, hkeyed⟩ := hreachable.exists_keyed hcreated hmem
    obtain ⟨-, k', later, hpos, hnumber', -, hupdated⟩ := hkeeps.stored todo hmem
    obtain rfl := hnumber.unique hnumber'
    obtain ⟨millis, hvalid, -, -⟩ := hclocked.updated todo hmem
    refine ⟨k, hnumber, hpos, hle, hkeyed.1, millis, hvalid, ?_⟩
    -- the update time is one, so it is that of the number it was moved on to
    have htime : Memory.creationTime (k + later) = .valid millis :=
      Datum.date.inj (hupdated.symm.trans hvalid)
    have hintime : Memory.InTime (k + later) := Memory.inTime_iff.2 (by simp [htime])
    rw [hintime.creationTime_eq, Date.valid.injEq] at htime
    omega
  · intro a ha b hb k hka hkb
    exact hreachable.numbered.eq_of_id_eq ha hb (hka.trans hkb.symm)
  · exact hreachable.numbered.ordered.imp_of_mem fun ha hb h =>
      hreachable.older hcreated ha hb h

/-- A title is changed by a copy that was read before the todo was completed, and written
after. -/
def copyWrittenBack : List Run.Event :=
  [.begins alice (.create (titleOnly "old")), .proceeds 0,
    .begins bob (.create (titleOnly "other")), .proceeds 1,
    .begins alice (.update firstId ⟨.text "new", .absent, .absent⟩), .proceeds 2,
    .begins alice (.updateStatus firstId Status.completed.name), .proceeds 3, .proceeds 3,
    .proceeds 2]

/-- The completion is lost, and the todos are as they should be. -/
theorem todos_intact_copyWrittenBack :
    (Run.start.after copyWrittenBack).tasks.length < 10 ^ 12 ∧
      ((Run.start.after copyWrittenBack).memory.Intact fun title =>
        ∃ u a, .begins u a ∈ copyWrittenBack ∧ a.title? = some title) ∧
      (Run.start.after copyWrittenBack).memory.todos.map
          (fun todo => (todo.title, todo.status, todo.updatedAt)) =
        [(.text "new", .text "pending", .date (.valid (Memory.baseTime + 3000))),
          (.text "other", .text "pending", .date (.valid (Memory.baseTime + 2000)))] := by
  have hcount : (Run.start.after copyWrittenBack).tasks.length < 10 ^ 12 := by decide +kernel
  exact ⟨hcount, todos_intact copyWrittenBack hcount, by decide +kernel⟩

end TodoServer
