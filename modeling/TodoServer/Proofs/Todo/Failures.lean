/-
What the failure of a store comes to.

An operation that has a call fail ends with that failure. It looks at a failure once: whether
it is that of an owner that the store does not know, which a client that creates a todo is told
in words of the service's own. So how a store words its failures has no say in what an
operation does next, and two stores that answer alike, but for the wording of what fails, are
left alike by every operation, and make it end alike.

* `Fault.kind`, `SameUpTo` — what is gone by in a failure; results that are the same or fail
  alike;
* `Store.Program.Reports`, `Action.program_reports` — operations that end with the failure of a
  call;
* `Store.Program.run_alike` — an operation on two stores that answer alike;
* `Store.Program.FailsOn`, `Store.Program.run_of_failsOn` — what comes of an operation that a
  call fails.
-/
import TodoServer.Proofs.Todo.Outcomes

namespace TodoServer

open Store

/-! ### Failures -/

/-- What is gone by in a failure: everything in one that the client is told, that an owner is
not known, and of any other failure that it is one. -/
inductive Fault.Kind
  | told (error : ClientError)
  | unknownOwner
  | other
deriving DecidableEq

/-- What is gone by in a failure. -/
def Fault.kind : Fault → Kind
  | .api error => .told error
  | .unknownOwner _ => .unknownOwner
  | _ => .other

/-- Failures that differ in their wording at most. -/
def Fault.Alike (fault fault' : Fault) : Prop := fault.kind = fault'.kind

theorem Fault.Alike.refl (fault : Fault) : fault.Alike fault := rfl

/-- Results that are the same, or failures that are related. -/
inductive SameUpTo {ε α : Type} (related : ε → ε → Prop) : Except ε α → Except ε α → Prop
  | ok (a : α) : SameUpTo related (.ok a) (.ok a)
  | error {e e' : ε} (h : related e e') : SameUpTo related (.error e) (.error e')

namespace SameUpTo

variable {ε α β : Type} {related : ε → ε → Prop} {x x' : Except ε α}

theorem refl (hrelated : ∀ e, related e e) (x : Except ε α) : SameUpTo related x x := by
  cases x with
  | error e => exact .error (hrelated e)
  | ok a => exact .ok a

theorem bind (h : SameUpTo related x x') (hrelated : ∀ e, related e e) (f : α → Except ε β) :
    SameUpTo related (x.bind f) (x'.bind f) := by
  cases h with
  | ok a => exact .refl hrelated (f a)
  | error h => exact .error h

end SameUpTo

namespace Store

/-- The failure that an operation ends with when a call fails. -/
def Call.reported : Call → Fault → Fault
  | .create _, .unknownOwner _ => .api (.unauthorized "unknown user")
  | _, fault => fault

/-- What is gone by in a failure decides what is gone by in the one that the operation ends
with. -/
theorem Call.kind_reported (c : Call) :
    ∃ reported : Fault.Kind → Fault.Kind, ∀ fault,
      (c.reported fault).kind = reported fault.kind := by
  cases c with
  | create todo =>
    refine ⟨fun kind =>
      if kind = .unknownOwner then .told (.unauthorized "unknown user") else kind,
      fun fault => ?_⟩
    cases fault <;> rfl
  | _ => exact ⟨id, fun _ => rfl⟩

theorem Call.alike_reported {fault fault' : Fault} (c : Call) (h : fault.Alike fault') :
    (c.reported fault).Alike (c.reported fault') := by
  obtain ⟨reported, hreported⟩ := c.kind_reported
  rw [Fault.Alike, hreported, hreported, h]

namespace Program

variable {α β σ τ : Type}

/-- The program ends with the failure of a call, as soon as one fails. -/
def Reports : Program (Except Fault α) → Prop
  | .done _ => True
  | .call c next =>
    (∀ fault, next (.error fault) = .done (.error (c.reported fault))) ∧
      ∀ reply, (next (.ok reply)).Reports

theorem reports_done (result : Except Fault α) : (Program.done result).Reports := trivial

theorem reports_ask {c : Call} {next : c.Reply → Program (Except Fault α)}
    (hreported : ∀ fault, c.reported fault = fault) (hnext : ∀ reply, (next reply).Reports) :
    (ask c next).Reports := by
  refine ⟨fun fault => ?_, hnext⟩
  rw [hreported]

theorem reports_map {p : Program (Except Fault α)} (hp : p.Reports) (f : α → β) :
    (p.map (Except.map f)).Reports := by
  induction p with
  | done result => trivial
  | call c next ih =>
    obtain ⟨hfails, hnext⟩ := hp
    refine ⟨fun fault => ?_, fun reply => ih _ (hnext reply)⟩
    show (next (.error fault)).map (Except.map f) = _
    rw [hfails]
    rfl

/-- A call of the program fails as it runs. -/
def FailsOn (store : Answers σ) : Program α → σ → Prop
  | .done _, _ => False
  | .call c next, s =>
    (∃ fault, (store c s).1 = .error fault) ∨ (next (store c s).1).FailsOn store (store c s).2

/-- What comes of a program that a call fails is the failure of that call. -/
theorem run_of_failsOn {store : Answers σ} {p : Program (Except Fault α)}
    (hp : p.Reports) {s : σ} (h : p.FailsOn store s) :
    ∃ c s' fault, (store c s').1 = .error fault ∧
      (p.run store s).1 = .error (c.reported fault) := by
  induction p generalizing s with
  | done result => exact absurd h id
  | call c next ih =>
    obtain ⟨hfails, hnext⟩ := hp
    rw [run_call]
    rcases hreply : (store c s).1 with fault | reply
    · -- the first call to fail decides, and there are no calls after it
      refine ⟨c, s, fault, hreply, ?_⟩
      rw [hfails]
      rfl
    · rcases h with ⟨fault, hfault⟩ | hlater
      · rw [hreply] at hfault
        cases hfault
      · rw [hreply] at hlater
        exact ih _ (hnext reply) hlater

/-- A program on two stores that answer alike, in states that they take to related states. -/
theorem run_alike {store : Answers σ} {store' : Answers τ} {related : σ → τ → Prop}
    (hstore : ∀ c s s', related s s' →
      SameUpTo Fault.Alike (store c s).1 (store' c s').1 ∧
        related (store c s).2 (store' c s').2)
    {p : Program (Except Fault α)} (hp : p.Reports) {s : σ} {s' : τ} (hs : related s s') :
    SameUpTo Fault.Alike (p.run store s).1 (p.run store' s').1 ∧
      related (p.run store s).2 (p.run store' s').2 := by
  -- by the calls of the program: as long as they are answered, both go on alike from related
  -- states
  induction p generalizing s s' with
  | done result => exact ⟨.refl Fault.Alike.refl result, hs⟩
  | call c next ih =>
    obtain ⟨hfails, hnext⟩ := hp
    obtain ⟨hreply, hafter⟩ := hstore c s s' hs
    rw [run_call, run_call]
    rcases hanswer : store c s with ⟨reply, t⟩
    rcases hanswer' : store' c s' with ⟨reply', t'⟩
    rw [hanswer, hanswer'] at hreply hafter
    simp only at hreply hafter
    cases hreply with
    | ok reply => exact ih _ (hnext reply) hafter
    | error halike =>
      -- both programs end here
      simp only [hfails]
      exact ⟨.error (c.alike_reported halike), hafter⟩

end Program

end Store

/-! ### Operations -/

namespace Operation

theorem create_reports (u : Datum) (input : TodoInput) : (create u input).Reports := by
  rw [create]
  rcases input.newTodo u with e | todo
  · exact Program.reports_done _
  · refine ⟨fun fault => ?_, fun reply => Program.reports_done _⟩
    cases fault <;> rfl

theorem withTodo_reports {α : Type} {u id : Datum} {next : Todo → Program (Except Fault α)}
    (hnext : ∀ todo, (next todo).Reports) : (withTodo u id next).Reports := by
  refine Program.reports_ask (fun _ => rfl) ?_
  rintro (_ | todo)
  · exact Program.reports_done _
  · exact hnext todo

theorem save_reports (todo : Todo) : (save todo).Reports := by
  refine Program.reports_ask (fun _ => rfl) ?_
  rintro (_ | stored) <;> exact Program.reports_done _

theorem find_reports (u id : Datum) : (find u id).Reports :=
  withTodo_reports fun _ => Program.reports_done _

theorem update_reports (u id : Datum) (changes : TodoChanges) :
    (update u id changes).Reports := by
  refine withTodo_reports fun todo => ?_
  rcases changes.apply todo with e | new
  · exact Program.reports_done _
  · exact save_reports new

theorem updateStatus_reports (u id status : Datum) : (updateStatus u id status).Reports := by
  rw [updateStatus]
  rcases Status.ofDatum? status with _ | known
  · exact Program.reports_done _
  · exact withTodo_reports fun _ => save_reports _

theorem delete_reports (u id : Datum) : (delete u id).Reports := by
  refine Program.reports_ask (fun _ => rfl) ?_
  rintro (_ | _) <;> exact Program.reports_done _

theorem list_reports (u : Datum) (input : ListInput) : (list u input).Reports := by
  rw [list]
  rcases askedSize input.size with fault | size
  · exact Program.reports_done _
  · exact Program.reports_ask (fun _ => rfl) fun _ => Program.reports_done _

end Operation

/-- Whatever a user does, the failure of a call is what comes of it. -/
theorem Action.program_reports (a : Action) (u : Datum) : (a.program u).Reports := by
  cases a with
  | create input => exact Program.reports_map (Operation.create_reports u input) _
  | find id => exact Program.reports_map (Operation.find_reports u id) _
  | update id changes => exact Program.reports_map (Operation.update_reports u id changes) _
  | updateStatus id status =>
    exact Program.reports_map (Operation.updateStatus_reports u id status) _
  | delete id => exact Program.reports_map (Operation.delete_reports u id) _
  | list input => exact Program.reports_map (Operation.list_reports u input) _

/-! ### Stores -/

/-- A result that is no failure for the client to be told. -/
def Discreet {α : Type} (x : Except Fault α) : Prop := ∀ e, x ≠ .error (.api e)

namespace Discreet

variable {α β : Type} {x : Except Fault α}

theorem ok (a : α) : Discreet (.ok a : Except Fault α) := fun _ h => by cases h

theorem error {fault : Fault} (h : ∀ e, fault ≠ .api e) :
    Discreet (.error fault : Except Fault α) := by
  intro e hfault
  cases hfault
  exact h e rfl

/-- A failure is one for the client to be told or not, whatever it is the failure of. -/
theorem fails {fault : Fault} (h : Discreet (.error fault : Except Fault α)) :
    Discreet (.error fault : Except Fault β) :=
  .error fun e hfault => h e (congrArg Except.error hfault)

theorem map (h : Discreet x) (f : α → β) : Discreet (x.map f) := by
  rcases x with fault | a
  · exact h.fails
  · exact .ok (f a)

theorem bind {f : α → Except Fault β} (h : Discreet x) (hf : ∀ a, Discreet (f a)) :
    Discreet (x.bind f) := by
  rcases x with fault | a
  · exact h.fails
  · exact hf a

theorem mapM {f : α → Except Fault β} (h : ∀ a, Discreet (f a)) (items : List α) :
    Discreet (items.mapM f) := by
  induction items with
  | nil => exact .ok []
  | cons a rest ih =>
    rw [List.mapM_cons]
    have hfirst := h a
    generalize f a = first at hfirst ⊢
    rcases first with fault | b
    · exact hfirst.fails
    · exact ih.map (b :: ·)

end Discreet

theorem discreet_demand (d : Datum) : Discreet d.demand := by
  unfold Datum.demand
  split_ifs
  · exact .ok d
  · exact .error fun _ => Fault.noConfusion

theorem discreet_askedSize (size : Datum) : Discreet (askedSize size) :=
  (discreet_demand size).map pageSize

/-- The store in memory fails where something has no words, and not otherwise. -/
theorem Memory.discreet_answer (c : Call) (m : Memory) : Discreet (answer c m).1 := by
  cases c with
  | list params =>
    show Discreet (m.list params)
    unfold list listingAfter
    simp only
    split_ifs
    · exact (discreet_askedSize _).map _
    · exact .error fun _ => Fault.noConfusion
    · exact .ok _
    · rcases m.find params.userId params.cursor with _ | anchor
      · exact .ok _
      · exact (discreet_askedSize _).map _
  | _ => exact .ok _

namespace TodoTable

open Sql

variable {α : Type}

theorem discreet_areKeys (keys : List Datum) : Discreet (areKeys keys) := by
  induction keys with
  | nil => exact .ok true
  | cons value rest ih =>
    unfold areKeys
    split_ifs
    · exact .error fun _ => Fault.noConfusion
    · exact ih
    · exact .ok false

theorem discreet_withKeys {keys : List Datum} {otherwise : Except Fault α}
    {ask : Session → Except Fault α × Session} {s : Session} (hotherwise : Discreet otherwise)
    (hask : Discreet (ask s).1) : Discreet (withKeys keys otherwise ask s).1 := by
  have hkeys := discreet_areKeys keys
  unfold withKeys
  generalize areKeys keys = known at hkeys ⊢
  rcases known with fault | (_ | _)
  · exact hkeys.fails
  · exact hotherwise
  · exact hask

theorem discreet_ofRow (row : Row) : Discreet (Todo.ofRow row) := by
  unfold Todo.ofRow statusFault
  split
  · split_ifs
    · exact .error fun _ => Fault.noConfusion
    · exact .error fun _ => Fault.noConfusion
  · exact .ok _

theorem discreet_firstTodo (outcome : Outcome) : Discreet (firstTodo outcome) := by
  rcases outcome with ⟨_ | ⟨row, rest⟩, touched⟩ | ⟨message, code⟩
  · exact .ok none
  · exact (discreet_ofRow row).map some
  · exact .error fun _ => Fault.noConfusion

theorem discreet_query (c : Call) : Discreet c.query := by
  cases c with
  | list params => exact (discreet_askedSize params.size).map _
  | _ => exact .ok _

theorem discreet_read (c : Call) (outcome : Outcome) : Discreet (c.read outcome) := by
  cases c with
  | create todo =>
    rcases outcome with ⟨_ | ⟨row, rest⟩, touched⟩ | ⟨message, code⟩
    · exact .error fun _ => Fault.noConfusion
    · exact discreet_ofRow row
    · refine .error fun e => ?_
      split_ifs <;> exact Fault.noConfusion
  | find userId id => exact discreet_firstTodo outcome
  | update todo => exact discreet_firstTodo outcome
  | delete userId id =>
    rcases outcome with ⟨rows, touched⟩ | ⟨message, code⟩
    · exact .ok _
    · exact .error fun _ => Fault.noConfusion
  | list params =>
    rcases outcome with ⟨rows, touched⟩ | ⟨message, code⟩
    · exact (discreet_askedSize params.size).bind fun size =>
        (Discreet.mapM discreet_ofRow _).map _
    · exact .error fun _ => Fault.noConfusion

theorem discreet_unanswered (c : Call) : Discreet c.unanswered := by
  cases c with
  | create todo => exact .error fun _ => Fault.noConfusion
  | _ => exact .ok _

/-- The table says nothing that a client is to be told. -/
theorem discreet_answer (c : Call) (s : Session) : Discreet (answer c s).1 := by
  rw [answer_eq]
  refine discreet_withKeys (discreet_unanswered c) ?_
  have hquery := discreet_query c
  unfold Call.ask
  generalize c.query = query at hquery ⊢
  rcases query with fault | q
  · exact hquery.fails
  · exact discreet_read c _

end TodoTable

/-- Neither store says anything that a client is to be told. -/
theorem World.discreet_store (kind : StoreKind) (c : Call) (w : World) :
    Discreet (World.store kind c w).1 := by
  cases kind with
  | memory => exact Memory.discreet_answer c w.memory
  | database => exact TodoTable.discreet_answer c w.database

end TodoServer
