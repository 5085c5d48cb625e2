/-
The rules that input is held to.

A new todo needs a title, a title is not taken away, a due date is a timestamp, and a status is
one of two. What is asked for is refused for breaking a rule exactly if it breaks one, whatever
store there is; nothing else that can go wrong is put down to the input. Changes are judged
once the todo is found that they are of, everything else before the store is asked. So nothing
is written for input that is refused: the store has been asked for a todo at most.

* `Action.Breaks` — an action breaks a rule, and what it is told;
* `Blameless`, `Store.Program.Blameless` — what goes wrong otherwise;
* `Action.run_of_breaks` — what breaks a rule is refused, and has been written nowhere;
* `Action.breaks_of_run` — what is refused breaks a rule.
-/
import TodoServer.Proofs.Todo.Effects
import TodoServer.Proofs.Todo.Refusals

namespace TodoServer

open Store

/-! ### Rules -/

/-- A due date is given that is no timestamp. -/
def Datum.IsNoTimestamp (given : Datum) : Prop :=
  given.isMissing = false ∧ ∀ (raw : Text) (t : Timestamp), given = .text raw →
    ¬t.Writes raw.chars

/-- An action breaks a rule, and is told so in these words. Changes can do so only where the
todo is found that they are of, and a title is judged before a due date. -/
inductive Action.Breaks (found : Datum → Prop) : Action → Text → Prop
  | untitled {input : TodoInput} (htitle : input.title = .text "") :
    Breaks found (.create input) "title is required"
  | misdated {input : TodoInput} (htitle : input.title ≠ .text "")
    (hdue : input.dueAt.IsNoTimestamp) :
    Breaks found (.create input) "due_at must be an RFC 3339 timestamp"
  | titleTaken {id : Datum} {changes : TodoChanges} (hfound : found id)
    (htitle : changes.title = .text "") :
    Breaks found (.update id changes) "title cannot be empty"
  | dateChanged {id : Datum} {changes : TodoChanges} (hfound : found id)
    (htitle : changes.title ≠ .text "") (hdue : changes.dueAt.IsNoTimestamp) :
    Breaks found (.update id changes) "due_at must be an RFC 3339 timestamp"
  | noStatus {id status : Datum} (hstatus : ∀ known : Status, status ≠ .text known.name) :
    Breaks found (.updateStatus id status) "status must be 'pending' or 'completed'"

variable {found : Datum → Prop} {message : Text} {e : ClientError} {u id : Datum}

theorem map_eq_error_iff {ε α β : Type} {f : α → β} {x : Except ε α} {e : ε} :
    x.map f = .error e ↔ x = .error e := by
  cases x <;> simp [Except.map]

theorem dueDate?_eq_error_iff {given : Datum} :
    dueDate? given = .error e ↔
      e = dueDateRule ∧ ∀ (raw : Text) (t : Timestamp), given = .text raw →
        ¬t.Writes raw.chars := by
  rcases hdue : dueDate? given with fault | date
  · -- the reader has failed, so there is nothing that the text writes
    have hnone : ∀ (raw : Text) (t : Timestamp), given = .text raw → ¬t.Writes raw.chars := by
      rintro raw t rfl ht
      rw [dueDate?_of_writes ht] at hdue
      cases hdue
    have hrule : fault = dueDateRule := by
      rw [dueDate?] at hdue
      split at hdue <;> cases hdue
      rfl
    rw [hrule, Except.error.injEq, eq_comm]
    exact ⟨fun h => ⟨h, hnone⟩, fun h => h.1⟩
  · obtain ⟨raw, t, hgiven, ht, -⟩ := exists_writes_of_dueDate? hdue
    exact iff_of_false (fun h => by cases h) fun h => h.2 raw t hgiven ht

theorem TodoInput.due_eq_error_iff {input : TodoInput} :
    input.due = .error e ↔ e = dueDateRule ∧ input.dueAt.IsNoTimestamp := by
  rw [TodoInput.due, Datum.IsNoTimestamp]
  split_ifs with hmissing
  · exact iff_of_false (fun h => by cases h) fun h =>
      absurd hmissing (Bool.eq_false_iff.1 h.2.1)
  · rw [map_eq_error_iff, dueDate?_eq_error_iff]
    simp [hmissing]

theorem TodoChanges.due_eq_error_iff {changes : TodoChanges} {old : Datum} :
    changes.due old = .error e ↔ e = dueDateRule ∧ changes.dueAt.IsNoTimestamp := by
  rw [TodoChanges.due, Datum.IsNoTimestamp]
  split
  · next hdue => simp [hdue, Datum.isMissing]
  · next hdue => simp [hdue, Datum.isMissing]
  · next habsent hnull =>
    have hmissing : changes.dueAt.isMissing = false := by
      rw [Bool.eq_false_iff, Ne, Datum.isMissing_iff]
      exact not_or.2 ⟨habsent, hnull⟩
    rw [map_eq_error_iff, dueDate?_eq_error_iff]
    simp [hmissing]

/-- What a new todo is refused for. -/
theorem TodoInput.newTodo_eq_error_iff {input : TodoInput} :
    input.newTodo u = .error e ↔
      ∃ message, Action.Breaks found (.create input) message ∧ e = .invalidInput message := by
  rw [newTodo]
  constructor
  · intro h
    split_ifs at h with htitle
    · cases h
      exact ⟨_, .untitled htitle, rfl⟩
    · obtain ⟨rfl, hdue⟩ := due_eq_error_iff.1 (map_eq_error_iff.1 h)
      exact ⟨_, .misdated htitle hdue, rfl⟩
  · rintro ⟨message, hbreaks, rfl⟩
    cases hbreaks with
    | untitled htitle => rw [if_pos htitle]
    | misdated htitle hdue =>
      rw [if_neg htitle, map_eq_error_iff]
      exact due_eq_error_iff.2 ⟨rfl, hdue⟩

/-- What changes are refused for, of a todo that is found. -/
theorem TodoChanges.apply_eq_error_iff {changes : TodoChanges} {todo : Todo}
    (hfound : found id) : changes.apply todo = .error e ↔
      ∃ message, Action.Breaks found (.update id changes) message ∧
        e = .invalidInput message := by
  rw [apply]
  constructor
  · intro h
    split_ifs at h with htitle
    · cases h
      exact ⟨_, .titleTaken hfound htitle, rfl⟩
    · obtain ⟨rfl, hdue⟩ := due_eq_error_iff.1 (map_eq_error_iff.1 h)
      exact ⟨_, .dateChanged hfound htitle hdue, rfl⟩
  · rintro ⟨message, hbreaks, rfl⟩
    cases hbreaks with
    | titleTaken _ htitle => rw [if_pos htitle]
    | dateChanged _ htitle hdue =>
      rw [if_neg htitle, map_eq_error_iff]
      exact due_eq_error_iff.2 ⟨rfl, hdue⟩

theorem Status.ofDatum?_eq_none_iff {value : Datum} :
    ofDatum? value = none ↔ ∀ known : Status, value ≠ .text known.name := by
  rw [Option.eq_none_iff_forall_ne_some]
  exact forall_congr' fun known => not_congr ofDatum?_eq_some_iff

/-! ### Other failures -/

/-- A result that does not put a failure down to the input. -/
def Blameless {α : Type} (x : Except Fault α) : Prop :=
  ∀ message, x ≠ .error (.api (.invalidInput message))

theorem Discreet.blameless {α : Type} {x : Except Fault α} (h : Discreet x) : Blameless x :=
  fun _ => h _

theorem blameless_of_status_ne {α : Type} (h : e.status ≠ .ofInt 400) :
    Blameless (.error (.api e) : Except Fault α) := by
  rintro message heq
  cases heq
  exact h rfl

theorem Blameless.map {α β : Type} {x : Except Fault α} (h : Blameless x) (f : α → β) :
    Blameless (x.map f) := fun message heq => h message (map_eq_error_iff.1 heq)

namespace Store.Program

variable {α β σ : Type}

/-- A program that does not put a failure down to the input, on stores that have nothing for
clients. -/
def Blameless : Program (Except Fault α) → Prop
  | .done result => TodoServer.Blameless result
  | .call c next => ∀ reply : Except Fault c.Reply, Discreet reply → (next reply).Blameless

theorem Blameless.run {store : Answers σ} (hstore : ∀ c s, Discreet (store c s).1)
    {p : Program (Except Fault α)} (h : p.Blameless) (s : σ) :
    TodoServer.Blameless (p.run store s).1 := by
  induction p generalizing s with
  | done result => exact h
  | call c next ih => exact ih _ (h _ (hstore c s)) _

theorem blameless_ask {c : Call} {next : c.Reply → Program (Except Fault α)}
    (h : ∀ reply, (next reply).Blameless) : (Program.ask c next).Blameless := by
  rintro (fault | reply) hreply
  · exact (Discreet.error fun e he => hreply e (he ▸ rfl)).blameless
  · exact h reply

end Store.Program

namespace Operation

theorem blameless_todoNotFound {α : Type} :
    (Program.refuse todoNotFound : Program (Except Fault α)).Blameless :=
  blameless_of_status_ne (by decide +kernel)

theorem withTodo_blameless {α : Type} {next : Todo → Program (Except Fault α)}
    (h : ∀ todo, (next todo).Blameless) : (withTodo u id next).Blameless := by
  refine Program.blameless_ask ?_
  rintro (_ | todo)
  · exact blameless_todoNotFound
  · exact h todo

theorem save_blameless (todo : Todo) : (save todo).Blameless := by
  refine Program.blameless_ask ?_
  rintro (_ | stored)
  · exact blameless_todoNotFound
  · exact (Discreet.ok stored).blameless

end Operation

/-! ### What is refused -/

namespace Action

variable {σ : Type} {store : Answers σ} {s : σ} {a : Action} {message : Text} {u : Datum}

/-- The todo of an id is found by a user. -/
def Finds (store : Answers σ) (u : Datum) (s : σ) (id : Datum) : Prop :=
  ∃ todo, (store (.find u id) s).1 = .ok (some todo)

/-- Input that breaks a rule is refused for it, and has been written nowhere: the store is as
it was, or has been asked for a todo. -/
theorem run_of_breaks (h : a.Breaks (Finds store u s) message) :
    ((a.program u).run store s).1 = .error (.api (.invalidInput message)) ∧
      (((a.program u).run store s).2 = s ∨
        ∃ id, ((a.program u).run store s).2 = (store (.find u id) s).2) := by
  cases a with
  | create input =>
    have hnew : input.newTodo u = .error (.invalidInput message) :=
      TodoInput.newTodo_eq_error_iff.2 ⟨message, h, rfl⟩
    rw [program, Program.run_map, Operation.create, hnew]
    exact ⟨rfl, Or.inl rfl⟩
  | update id changes =>
    have hfound : Finds store u s id := by cases h <;> assumption
    obtain ⟨todo, hreply⟩ := hfound
    have happly : changes.apply todo = .error (.invalidInput message) :=
      (TodoChanges.apply_eq_error_iff ⟨todo, hreply⟩).2 ⟨message, h, rfl⟩
    rw [program, Program.run_map, Operation.update, Operation.withTodo, Program.ask,
      Program.run_call, hreply]
    simp only [happly]
    exact ⟨rfl, Or.inr ⟨id, rfl⟩⟩
  | updateStatus id status =>
    cases h with
    | noStatus hstatus =>
      rw [program, Program.run_map, Operation.updateStatus,
        Status.ofDatum?_eq_none_iff.2 hstatus]
      exact ⟨rfl, Or.inl rfl⟩
  | find id => cases h
  | delete id => cases h
  | list input => cases h

/-- What is refused breaks a rule. -/
theorem breaks_of_run (hstore : ∀ c s, Discreet (store c s).1)
    (h : ((a.program u).run store s).1 = .error (.api (.invalidInput message))) :
    a.Breaks (Finds store u s) message := by
  -- a program that never puts a failure down to what was given has not failed like this,
  -- which leaves the checks that are made before the store is asked to write
  have hblameless : ∀ {α : Type} {p : Program (Except Fault α)} {f : α → Result}, p.Blameless →
      ((p.map (Except.map f)).run store s).1 ≠ .error (.api (.invalidInput message)) := by
    intro α p f hp
    rw [Program.run_map]
    exact (hp.run hstore s).map f message
  cases a with
  | create input =>
    rcases hnew : input.newTodo u with e | new
    · rw [program, Program.run_map, Operation.create, hnew] at h
      cases h
      obtain ⟨given, hbreaks, heq⟩ := TodoInput.newTodo_eq_error_iff.1 hnew
      cases heq
      exact hbreaks
    · refine absurd h (hblameless ?_)
      rw [Operation.create, hnew]
      rintro (fault | stored) hreply
      · cases fault with
        | api e => exact absurd rfl (hreply e)
        | unknownOwner user => exact blameless_of_status_ne (by decide +kernel)
        | _ => exact (Discreet.error fun _ => Fault.noConfusion).blameless
      · exact (Discreet.ok stored).blameless
  | update id changes =>
    rw [program, Program.run_map, Operation.update, Operation.withTodo, Program.ask,
      Program.run_call] at h
    rcases hreply : (store (.find u id) s).1 with fault | _ | todo <;> simp only [hreply] at h
    · have hfault : fault = .api (.invalidInput message) := Except.error.inj h
      exact absurd (hreply.trans (congrArg _ hfault)) (hstore _ s _)
    · exact absurd h ((Operation.blameless_todoNotFound.run hstore s).map _ message)
    · rcases happly : changes.apply todo with e | new <;> simp only [happly] at h
      · cases h
        have hfound : Finds store u s id := ⟨todo, hreply⟩
        obtain ⟨given, hbreaks, heq⟩ := (TodoChanges.apply_eq_error_iff hfound).1 happly
        cases heq
        exact hbreaks
      · exact absurd h (((Operation.save_blameless new).run hstore _).map _ message)
  | updateStatus id status =>
    rcases hstatus : Status.ofDatum? status with _ | known
    · rw [program, Program.run_map, Operation.updateStatus, hstatus] at h
      cases h
      exact .noStatus (Status.ofDatum?_eq_none_iff.1 hstatus)
    · refine absurd h (hblameless ?_)
      rw [Operation.updateStatus, hstatus]
      exact Operation.withTodo_blameless fun _ => Operation.save_blameless _
  | find id =>
    exact absurd h
      (hblameless (Operation.withTodo_blameless fun todo => (Discreet.ok todo).blameless))
  | delete id =>
    refine absurd h (hblameless (Program.blameless_ask ?_))
    rintro (_ | _)
    · exact Operation.blameless_todoNotFound
    · exact (Discreet.ok ()).blameless
  | list input =>
    refine absurd h (hblameless ?_)
    rw [Operation.list]
    have hsize := discreet_askedSize input.size
    generalize askedSize input.size = asked at hsize ⊢
    rcases asked with fault | size
    · exact hsize.fails.blameless
    · exact Program.blameless_ask fun page => (Discreet.ok page).blameless

end Action

end TodoServer
