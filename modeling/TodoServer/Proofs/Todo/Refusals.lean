/-
What operations have for a client to be told.

An operation that ends in a failure either gives up on a rule of its own, or reports the
failure of a call. Its own failures are of three kinds: the input breaks a rule, there is no
such todo, or the owner is not known. Stores have nothing for clients, so that is all that a
client is ever told of an operation.

* `Tells` — a result that tells a client nothing but failures of these kinds;
* `Store.Program.Tells.run` — what comes of an operation that tells nothing else;
* `Action.program_tells` — all operations are such.
-/
import TodoServer.Proofs.Todo.Failures

namespace TodoServer

/-! ### Failures for clients -/

/-- A failure of one of the kinds that operations have for a client. -/
inductive ClientError.IsRefusal : ClientError → Prop
  | invalidInput (message : Text) : IsRefusal (.invalidInput message)
  | notFound (message : Text) : IsRefusal (.notFound message)
  | unauthorized (message : Text) : IsRefusal (.unauthorized message)

/-- A result that tells a client nothing but such failures. -/
def Tells {α : Type} (x : Except Fault α) : Prop := ∀ e, x = .error (.api e) → e.IsRefusal

section

variable {α β : Type} {x : Except Fault α}

theorem Discreet.tells (h : Discreet x) : Tells x := fun e he => absurd he (h e)

theorem tells_refusal {e : ClientError} (h : e.IsRefusal) :
    Tells (.error (.api e) : Except Fault α) := by
  intro e' he
  cases he
  exact h

theorem Tells.bind {f : α → Except Fault β} (h : Tells x) (hf : ∀ a, Tells (f a)) :
    Tells (x.bind f) := by
  rcases x with fault | a
  · intro e he
    cases he
    exact h e rfl
  · exact hf a

end

namespace Store

/-- What an operation tells of a call that has failed, in words not meant for clients. -/
theorem Call.tells_reported {α : Type} (c : Call) {fault : Fault} (h : ∀ e, fault ≠ .api e) :
    Tells (.error (c.reported fault) : Except Fault α) := by
  have hother : Tells (.error fault : Except Fault α) := (Discreet.error h).tells
  cases c with
  | create todo =>
    cases fault with
    | unknownOwner user => exact tells_refusal (.unauthorized _)
    | _ => exact hother
  | _ => exact hother

namespace Program

variable {α β σ : Type}

/-- An operation tells a client nothing but such failures, as long as its calls are
answered. -/
def Tells : Program (Except Fault α) → Prop
  | .done result => TodoServer.Tells result
  | .call _ next => ∀ reply, (next (.ok reply)).Tells

theorem tells_refuse {e : ClientError} (h : e.IsRefusal) :
    (refuse e : Program (Except Fault α)).Tells := tells_refusal h

theorem tells_ok (a : α) : (Program.done (.ok a : Except Fault α)).Tells :=
  (Discreet.ok a).tells

theorem Tells.map {p : Program (Except Fault α)} (h : p.Tells) (f : α → β) :
    (p.map (Except.map f)).Tells := by
  induction p with
  | done result =>
    show TodoServer.Tells (Except.map f result)
    rcases result with fault | a
    · intro e he
      cases he
      exact h e rfl
    · exact (Discreet.ok _).tells
  | call c next ih => exact fun reply => ih _ (h reply)

/-- What comes of an operation on a store that has nothing for clients. -/
theorem Tells.run {store : Answers σ} (hstore : ∀ c s, Discreet (store c s).1)
    {p : Program (Except Fault α)} (hreports : p.Reports) (h : p.Tells) (s : σ) :
    TodoServer.Tells (p.run store s).1 := by
  induction p generalizing s with
  | done result => exact h
  | call c next ih =>
    obtain ⟨hfails, hnext⟩ := hreports
    rw [run_call]
    rcases hreply : (store c s).1 with fault | reply
    · rw [hfails]
      refine c.tells_reported fun e he => hstore c s e ?_
      rw [hreply, he]
    · exact ih _ (hnext reply) (h reply) _

end Program

end Store

/-! ### Operations -/

theorem isRefusal_of_dueDate? {given : Datum} {e : ClientError}
    (h : dueDate? given = .error e) : e.IsRefusal := by
  rw [dueDate?] at h
  split at h <;> cases h
  exact .invalidInput _

theorem TodoInput.isRefusal_of_newTodo {input : TodoInput} {u : Datum} {e : ClientError}
    (h : input.newTodo u = .error e) : e.IsRefusal := by
  rw [newTodo] at h
  split_ifs at h
  · cases h
    exact .invalidInput _
  · rcases hdue : input.due with fault | due <;> rw [hdue] at h <;> cases h
    rw [due] at hdue
    split_ifs at hdue
    rcases hdate : dueDate? input.dueAt with fault | date <;> rw [hdate] at hdue <;> cases hdue
    exact isRefusal_of_dueDate? hdate

theorem TodoChanges.isRefusal_of_apply {changes : TodoChanges} {todo : Todo} {e : ClientError}
    (h : changes.apply todo = .error e) : e.IsRefusal := by
  rw [apply] at h
  split_ifs at h
  · cases h
    exact .invalidInput _
  · rcases hdue : changes.due todo.dueAt with fault | due <;> rw [hdue] at h <;> cases h
    rw [due] at hdue
    split at hdue
    · cases hdue
    · cases hdue
    · rcases hdate : dueDate? changes.dueAt with fault | date <;> rw [hdate] at hdue <;>
        cases hdue
      exact isRefusal_of_dueDate? hdate

namespace Operation

open Store

variable {u id : Datum}

theorem create_tells (input : TodoInput) : (create u input).Tells := by
  rw [create]
  rcases hnew : input.newTodo u with e | todo
  · exact Program.tells_refuse (input.isRefusal_of_newTodo hnew)
  · exact fun todo => Program.tells_ok todo

theorem withTodo_tells {α : Type} {next : Todo → Program (Except Fault α)}
    (hnext : ∀ todo, (next todo).Tells) : (withTodo u id next).Tells := by
  rintro (_ | todo)
  · exact Program.tells_refuse (.notFound _)
  · exact hnext todo

theorem save_tells (todo : Todo) : (save todo).Tells := by
  rintro (_ | stored)
  · exact Program.tells_refuse (.notFound _)
  · exact Program.tells_ok stored

theorem update_tells (changes : TodoChanges) : (update u id changes).Tells := by
  refine withTodo_tells fun todo => ?_
  rcases happly : changes.apply todo with e | new
  · exact Program.tells_refuse (changes.isRefusal_of_apply happly)
  · exact save_tells new

theorem updateStatus_tells (status : Datum) : (updateStatus u id status).Tells := by
  rw [updateStatus]
  rcases Status.ofDatum? status with _ | known
  · exact Program.tells_refuse (.invalidInput _)
  · exact withTodo_tells fun _ => save_tells _

theorem delete_tells : (delete u id).Tells := by
  rintro (_ | _)
  · exact Program.tells_refuse (.notFound _)
  · exact Program.tells_ok ()

theorem list_tells (input : ListInput) : (list u input).Tells := by
  rw [list]
  have hsize := discreet_askedSize input.size
  generalize askedSize input.size = asked at hsize ⊢
  rcases asked with fault | size
  · exact hsize.fails.tells
  · exact fun page => Program.tells_ok page

end Operation

/-- Whatever a user does, these are the failures that they are told. -/
theorem Action.program_tells (a : Action) (u : Datum) : (a.program u).Tells := by
  cases a with
  | create input => exact (Operation.create_tells input).map _
  | find id => exact (Operation.withTodo_tells fun todo => Store.Program.tells_ok todo).map _
  | update id changes => exact (Operation.update_tells changes).map _
  | updateStatus id status => exact (Operation.updateStatus_tells status).map _
  | delete id => exact Operation.delete_tells.map _
  | list input => exact (Operation.list_tells input).map _

end TodoServer
