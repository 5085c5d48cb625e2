/-
Where due dates come from.

A due date is given as a text, which is refused if it is no timestamp. What is accepted is a
date, and it is a time as long as the offset is one that a clock can show; the check of the
form does not ask for that, and the date is then no time at all. Todos are due when they were
asked to be: every due date in the store was brought there by an action that had it given in a
text, however the calls of many actions come between one another. So it can be written unless
that text had an offset that is none.

* `Store.Program.Brings` — programs that bring due dates of some kind to the store;
* `Action.Makes.brings` — an action brings the due date that it was given;
* `Run.Due`, `Run.due_after` — the due dates of a run;
* `due_dates_given` — what becomes of every text, and of every due date in every run;
* `impossible_offset_accepted` — an offset of ninety-nine hours.
-/
import TodoServer.Proofs.Calendar.Written
import TodoServer.Proofs.Todo.Calls

namespace TodoServer

open Store

/-! ### Texts -/

theorem dueDate?_text (raw : Text) :
    dueDate? (.text raw) =
      match Timestamp.read? raw.chars with
      | some timestamp => .ok timestamp.date
      | none => .error dueDateRule := rfl

/-- A due date that is accepted is given in a text, which writes a timestamp. -/
theorem exists_writes_of_dueDate? {given : Datum} {date : Date}
    (h : dueDate? given = .ok date) :
    ∃ (raw : Text) (t : Timestamp), given = .text raw ∧ t.Writes raw.chars ∧
      date = t.date := by
  rw [dueDate?] at h
  rcases hread : given.text?.bind fun text => Timestamp.read? text.chars with _ | t
  · rw [hread] at h
    cases h
  · rw [hread, Except.ok.injEq] at h
    obtain ⟨raw, htext, hread⟩ := Option.bind_eq_some_iff.1 hread
    obtain rfl : given = .text raw := by
      rcases given with _ | ⟨_ | _ | _ | _ | _ | _⟩ | _ <;> cases htext
      rfl
    exact ⟨raw, t, rfl, Timestamp.read?_eq_some_iff.1 hread, h.symm⟩

theorem dueDate?_of_writes {raw : Text} {t : Timestamp} (h : t.Writes raw.chars) :
    dueDate? (.text raw) = .ok t.date := by
  rw [dueDate?_text, Timestamp.read?_eq_some_iff.2 h]

theorem dueDate?_of_not_writes {raw : Text} (h : ∀ t : Timestamp, ¬t.Writes raw.chars) :
    dueDate? (.text raw) = .error dueDateRule := by
  have hread : Timestamp.read? raw.chars = none :=
    Option.eq_none_iff_forall_ne_some.2 fun t ht => h t (Timestamp.read?_eq_some_iff.1 ht)
  rw [dueDate?_text, hread]

/-- The member of a due date is the text of its time, if it has one. -/
theorem Todo.dueMember_valid (millis : Int) :
    Todo.dueMember (.date (.valid millis)) =
      .ok [("due_at", .text (Date.wireText millis))] := rfl

theorem Todo.dueMember_invalid : Todo.dueMember (.date .invalid) = .error .invalidTime := rfl

/-! ### What programs bring to the store -/

namespace Store

/-- The todo of a call, if it has one, is due when some condition allows. -/
def Call.Brings (dues : Datum → Prop) : Call → Prop
  | .create todo => dues todo.dueAt
  | .update todo => dues todo.dueAt
  | _ => True

/-- The todo that a call has found, if any, is due when some condition allows. -/
def FindsDue (dues : Datum → Prop) : (c : Call) → Except Fault c.Reply → Prop
  | .find _ _, .ok (some todo) => dues todo.dueAt
  | _, _ => True

namespace Program

variable {α : Type} {dues : Datum → Prop}

/-- The calls of a program bring due dates that some condition allows, where the todos that it
finds have such. -/
def Brings (dues : Datum → Prop) : Program α → Prop
  | .done _ => True
  | .call c next => c.Brings dues ∧ ∀ reply, FindsDue dues c reply → (next reply).Brings dues

theorem Keeps.brings {p : Program α}
    (h : p.Keeps (Call.Brings dues) fun todo => dues todo.dueAt) : p.Brings dues := by
  have hfinds : ∀ (c : Call) (reply : Except Fault c.Reply), FindsDue dues c reply →
      Finds (fun todo => dues todo.dueAt) c reply := by
    rintro (new | ⟨u, id⟩ | new | ⟨u, id⟩ | params) (fault | reply) h
    case find.ok => cases reply <;> exact h
    all_goals trivial
  induction p with
  | done result => trivial
  | call c next ih => exact ⟨h.1, fun reply hdue => ih reply (h.2 reply (hfinds c reply hdue))⟩

end Program

end Store

/-- An action brings no other due date to the store than what it can put into a todo. -/
theorem Action.Makes.brings {a : Action} {u : Datum} {found : Todo → Prop}
    {dues : Datum → Prop} {c : Call} (h : a.Makes found u c)
    (hputs : ∀ dueAt, a.Puts dueAt → dues dueAt)
    (hfound : ∀ todo, found todo → dues todo.dueAt) : c.Brings dues := by
  cases h with
  | stores hnew => exact hputs _ (TodoInput.due_eq_ok (TodoInput.due_of_newTodo hnew))
  | @changes id changes old new hold happly =>
    obtain ⟨dueAt, hchange, rfl⟩ := TodoChanges.apply_eq_ok happly
    rcases TodoChanges.due_eq_ok hchange with hsame | hput
    · exact hsame ▸ hfound old hold
    · exact hputs dueAt hput
  | @marks id status old known hold hstatus =>
    -- a status leaves the due date as it was found
    exact hfound old hold
  | _ => trivial

/-! ### Runs -/

/-- Todos keep the due date that they were brought with. -/
theorem Memory.keptBy_brings (dues : Datum → Prop) :
    KeptBy (Call.Brings dues) fun todo => dues todo.dueAt where
  stored _ _ _ hcall := hcall
  replacing _ _ _ _ hcall := hcall

namespace Run

/-- Todos are due when some condition allows, and actions under way keep it so. -/
structure Due (dues : Datum → Prop) (r : Run) : Prop where
  stored : ∀ todo ∈ r.memory.todos, dues todo.dueAt
  brought : ∀ task ∈ r.tasks, task.rest.Brings dues

/-- Every due date in a run is one that an action of the run can put into a todo. -/
theorem due_after (dues : Datum → Prop) {events : List Event}
    (hevents : ∀ u a, .begins u a ∈ events → ∀ dueAt, a.Puts dueAt → dues dueAt) :
    (Run.start.after events).Due dues := by
  have hkeeps :=
    (keeps_start _ _).after (Memory.keptBy_brings dues) fun u a hbegins c hmakes =>
    hmakes.brings (hevents u a hbegins) fun _ hdue => hdue
  exact ⟨hkeeps.stored, fun task hmem => (hkeeps.making task hmem).brings⟩

end Run

/-- A text that is given as a due date is refused if it is no timestamp. If it is one with an
offset that a clock can show, it is accepted and names a time, and otherwise it is accepted and
names none. And in every run of actions, in whatever order their calls are made, a todo has no
due date or that of a text which an action of the run was given; it can be written in the first
case, and in the second exactly if the offset of the text is one that a clock can show. -/
theorem due_dates_given (events : List Run.Event) :
    (∀ raw : Text,
      ((∀ t : Timestamp, ¬t.Writes raw.chars) → dueDate? (.text raw) = .error dueDateRule) ∧
      ∀ t : Timestamp, t.Writes raw.chars →
        (t.offset.IsOnClock →
          dueDate? (.text raw) = .ok (.valid (t.localMillis - t.offset.millis))) ∧
        (¬t.offset.IsOnClock → dueDate? (.text raw) = .ok .invalid)) ∧
    ∀ todo ∈ (Run.start.after events).memory.todos,
      todo.dueAt = .null ∧ Todo.dueMember todo.dueAt = .ok [] ∨
      ∃ u a raw, ∃ t : Timestamp, .begins u a ∈ events ∧ a.due = .text raw ∧
        t.Writes raw.chars ∧
        (t.offset.IsOnClock → Todo.dueMember todo.dueAt =
          .ok [("due_at", .text (Date.wireText (t.localMillis - t.offset.millis)))]) ∧
        (¬t.offset.IsOnClock → Todo.dueMember todo.dueAt = .error .invalidTime) := by
  refine ⟨fun raw => ⟨dueDate?_of_not_writes,
    fun t ht => ⟨fun hoffset => ?_, fun hoffset => ?_⟩⟩, ?_⟩
  · rw [dueDate?_of_writes ht, Timestamp.date_of_writes ht hoffset]
  · rw [dueDate?_of_writes ht, Timestamp.date_of_not_isOnClock hoffset]
  · intro todo hmem
    let given (dueAt : Datum) : Prop := ∃ u a, .begins u a ∈ events ∧ a.Puts dueAt
    have hdue : todo.dueAt = .null ∨ given todo.dueAt :=
      (Run.due_after (fun dueAt => dueAt = .null ∨ given dueAt)
        fun u a hbegins dueAt hputs => Or.inr ⟨u, a, hbegins, hputs⟩).stored todo hmem
    rcases hdue with hnull | ⟨u, a, hbegins, hnull | ⟨date, hdate, hdue⟩⟩
    · exact Or.inl ⟨hnull, by rw [hnull]; rfl⟩
    · exact Or.inl ⟨hnull, by rw [hnull]; rfl⟩
    · obtain ⟨raw, t, hraw, ht, rfl⟩ := exists_writes_of_dueDate? hdate
      refine Or.inr ⟨u, a, raw, t, hbegins, hraw, ht, fun hoffset => ?_, fun hoffset => ?_⟩
      · rw [hdue, Timestamp.date_of_writes ht hoffset, Todo.dueMember_valid]
      · rw [hdue, Timestamp.date_of_not_isOnClock hoffset, Todo.dueMember_invalid]

/-- Two due dates are given at the same time, of which the second is no timestamp. -/
def leapDayAndTomorrow : List Run.Event :=
  [.begins "alice" (.create ⟨"t", .absent, "2028-02-29T23:59:59.5-0930"⟩),
    .begins "bob" (.create ⟨"t", .absent, "tomorrow"⟩), .proceeds 1, .proceeds 0]

theorem due_dates_given_leap_day :
    dueDate? (.text "2028-02-29T23:59:59.5-0930") = .ok (.valid 1835515799500) ∧
      dueDate? (.text "tomorrow") = .error dueDateRule ∧
      (Run.start.after leapDayAndTomorrow).memory.todos.map (fun todo => todo.dueAt) =
        [.date (.valid 1835515799500)] ∧
      ∀ todo ∈ (Run.start.after leapDayAndTomorrow).memory.todos,
        todo.dueAt = .null ∨ ∃ u a, .begins u a ∈ leapDayAndTomorrow ∧
          a.due.text?.isSome = true := by
  obtain ⟨htexts, hruns⟩ := due_dates_given leapDayAndTomorrow
  let leapDay : Timestamp := ⟨⟨2028, 2, 29⟩, 23, 59, 59, ['5'], .behind 9 30⟩
  have hwrites : leapDay.Writes (Text.chars "2028-02-29T23:59:59.5-0930") :=
    Timestamp.read?_eq_some_iff.1 (by decide +kernel)
  have hmillis : leapDay.localMillis - leapDay.offset.millis =
      1835515799500 := by decide +kernel
  refine ⟨?_, (htexts _).1 ?_, by decide +kernel, ?_⟩
  · rw [← hmillis]
    exact ((htexts _).2 leapDay hwrites).1 (by decide)
  · intro t ht
    have hread := Timestamp.read?_eq_some_iff.2 ht
    rw [show Timestamp.read? (Text.chars "tomorrow") = none by decide +kernel] at hread
    cases hread
  · intro todo hmem
    rcases hruns todo hmem with ⟨hnull, -⟩ | ⟨u, a, raw, t, hbegins, hdue, -⟩
    · exact Or.inl hnull
    · exact Or.inr ⟨u, a, hbegins, by rw [hdue]; rfl⟩

/-- An offset of ninety-nine hours is accepted, and the todo that is due then cannot be
written. -/
theorem impossible_offset_accepted :
    dueDate? (.text "2026-01-01T00:00:00+99:00") = .ok .invalid ∧
      (Run.start.after
        [.begins "alice" (.create ⟨"t", .absent, "2026-01-01T00:00:00+99:00"⟩),
        .proceeds 0]).memory.todos.map
          (fun todo => Todo.dueMember todo.dueAt) = [.error .invalidTime] := by
  decide +kernel

end TodoServer
