/-
Users do not see each other.

Two states of the store in memory look alike to a user if the same number of todos has been
created and the user's own todos are the same. Whatever the user does in the one and in the
other, the user gets the same answers, the states look alike afterwards, and nobody else's
todos have changed. So over a whole run, with the calls of all users in any order, a user
learns nothing of what others have stored but how many todos there have been, which the ids
tell. The todo of someone else is to a user as one that does not exist.

The law is about pairs of states, and is proved call by call: a call made for a user reads the
user's todos and the count, and writes the user's todos only.

* `Memory.AgreesFor` — states that look alike to a user;
* `Memory.SparesOthers` — states between which nothing has changed for anyone else;
* `Memory.AgreesFor.answer`, `Memory.sparesOthers_answer` — the law for one call;
* `Action.run_agreesFor`, `Action.run_sparesOthers` — for whatever a user does;
* `UserRun`, `UserRun.exists_arrivals` — runs in which others make calls between those of a
  user;
* `UserRun.Alike.next`, `UserRun.Alike.after` — the law for an event of a run, and for the run;
* `tenants_isolated` — for actions, for runs, and for ids and cursors of others.
-/
import TodoServer.Proofs.Todo.Outcomes

namespace TodoServer

open Store

namespace Memory

/-- Two states that look alike to a user. -/
structure AgreesFor (u : Datum) (m m' : Memory) : Prop where
  created_eq : m.created = m'.created
  own_iff : ∀ todo, todo.userId = u → (todo ∈ m.todos ↔ todo ∈ m'.todos)

/-- Nothing changes between two states but a user's own todos. -/
def SparesOthers (u : Datum) (m m' : Memory) : Prop :=
  ∀ todo, todo.userId ≠ u → (todo ∈ m'.todos ↔ todo ∈ m.todos)

variable {u id : Datum} {m m' m'' : Memory}

namespace AgreesFor

theorem refl (u : Datum) (m : Memory) : m.AgreesFor u m := ⟨rfl, fun _ _ => Iff.rfl⟩

theorem symm (h : m.AgreesFor u m') : m'.AgreesFor u m :=
  ⟨h.created_eq.symm, fun todo hu => (h.own_iff todo hu).symm⟩

theorem trans (h : m.AgreesFor u m') (h' : m'.AgreesFor u m'') : m.AgreesFor u m'' :=
  ⟨h.created_eq.trans h'.created_eq, fun todo hu =>
    (h.own_iff todo hu).trans (h'.own_iff todo hu)⟩

theorem find_eq (hm : m.Numbered) (hm' : m'.Numbered) (h : m.AgreesFor u m') :
    m.find u id = m'.find u id := by
  refine Option.ext fun todo => ?_
  rw [hm.find_eq_some_iff, hm'.find_eq_some_iff]
  constructor
  · rintro ⟨hmem, hid, howner⟩
    exact ⟨(h.own_iff todo (Datum.eq_of_same howner)).1 hmem, hid, howner⟩
  · rintro ⟨hmem, hid, howner⟩
    exact ⟨(h.own_iff todo (Datum.eq_of_same howner)).2 hmem, hid, howner⟩

theorem listing_eq (hm : m.Numbered) (hm' : m'.Numbered) (h : m.AgreesFor u m')
    (status : Datum) : m.listing u status = m'.listing u status := by
  rw [listing, listing, hm.filter_eq hm']
  intro todo hp
  rw [Bool.and_eq_true] at hp
  exact h.own_iff todo (Datum.eq_of_same hp.1)

theorem list_eq (hm : m.Numbered) (hm' : m'.Numbered) {params : ListParams}
    (h : m.AgreesFor params.userId m') : m.list params = m'.list params := by
  rw [list, list, listingAfter, listingAfter, h.listing_eq hm hm', h.find_eq hm hm']

/-- A call made for a user has the same reply in states that look alike to the user, and they
look alike after it. -/
theorem answer (hm : m.Numbered) (hm' : m'.Numbered) (h : m.AgreesFor u m') {c : Call}
    (hc : c.owner = u) :
    (Memory.answer c m).1 = (Memory.answer c m').1 ∧
      (Memory.answer c m).2.AgreesFor u (Memory.answer c m').2 := by
  subst hc
  cases c with
  | create new =>
    -- the count is the same, so the new todo has the same id and the same times
    refine ⟨?_, ?_, fun todo hu => ?_⟩
    · rw [Memory.answer, Memory.answer, create, create, h.created_eq]
    · exact congrArg (· + 1) h.created_eq
    · show todo ∈ (m.create new).2.todos ↔ todo ∈ (m'.create new).2.todos
      rw [Numbered.mem_create_iff, Numbered.mem_create_iff, h.own_iff todo hu, h.created_eq]
  | find u id => exact ⟨congrArg Except.ok (h.find_eq hm hm'), h⟩
  | update new =>
    have hfind : m.find new.userId new.id = m'.find new.userId new.id := h.find_eq hm hm'
    rcases hold : m'.find new.userId new.id with _ | old
    · have hnone : m.find new.userId new.id = none := hfind.trans hold
      rw [Memory.answer, Memory.answer, update, update, hnone, hold]
      exact ⟨rfl, h⟩
    · have hsome : m.find new.userId new.id = some old := hfind.trans hold
      refine ⟨?_, ?_, fun todo hu => ?_⟩
      · exact congrArg Except.ok ((update_fst hsome).trans (update_fst hold).symm)
      · exact (created_update m new).trans (h.created_eq.trans (created_update m' new).symm)
      · show todo ∈ (m.update new).2.todos ↔ todo ∈ (m'.update new).2.todos
        rw [hm.mem_update_iff hsome, hm'.mem_update_iff hold, h.own_iff todo hu]
  | delete u id =>
    have hfind : m.find u id = m'.find u id := h.find_eq hm hm'
    rcases hfound : m'.find u id with _ | found
    · have hnone : m.find u id = none := hfind.trans hfound
      rw [Memory.answer, Memory.answer, delete, delete, hnone, hfound]
      exact ⟨rfl, h⟩
    · have hsome : m.find u id = some found := hfind.trans hfound
      refine ⟨?_, ?_, fun todo hu => ?_⟩
      · rw [Memory.answer, Memory.answer, delete, delete, hsome, hfound]
      · exact (created_delete m u id).trans (h.created_eq.trans (created_delete m' u id).symm)
      · show todo ∈ (m.delete u id).2.todos ↔ todo ∈ (m'.delete u id).2.todos
        rw [hm.mem_delete_iff hsome, hm'.mem_delete_iff hfound, h.own_iff todo hu]
  | list params => exact ⟨h.list_eq hm hm', h⟩

end AgreesFor

namespace SparesOthers

theorem refl (u : Datum) (m : Memory) : m.SparesOthers u m := fun _ _ => Iff.rfl

theorem trans (h : m.SparesOthers u m') (h' : m'.SparesOthers u m'') : m.SparesOthers u m'' :=
  fun todo hu => (h' todo hu).trans (h todo hu)

end SparesOthers

/-- A call made for a user changes nobody else's todos. -/
theorem sparesOthers_answer (hm : m.Numbered) (c : Call) :
    m.SparesOthers c.owner (answer c m).2 := by
  intro todo hu
  -- a todo that is found has the owner of the call, and no other todo has its id
  have hne : ∀ {id : Datum} {found : Todo}, m.find c.owner id = some found → todo ∈ m.todos →
      todo.id ≠ id := by
    intro id found hfound hmem hid
    obtain ⟨hmem', hid', howner⟩ := hm.find_eq_some_iff.1 hfound
    rw [hm.eq_of_id_eq hmem hmem' (hid.trans hid'.symm)] at hu
    exact hu (Datum.eq_of_same howner)
  cases c with
  | create new =>
    refine (Numbered.mem_create_iff new).trans (or_iff_left ?_)
    rintro rfl
    exact hu rfl
  | find u id => exact Iff.rfl
  | update new =>
    show todo ∈ (m.update new).2.todos ↔ todo ∈ m.todos
    rcases hold : m.find new.userId new.id with _ | old
    · rw [update, hold]
    · rw [hm.mem_update_iff hold]
      constructor
      · rintro (⟨hmem, -⟩ | rfl)
        · exact hmem
        · exact absurd rfl hu
      · exact fun hmem => Or.inl ⟨hmem, hne hold hmem⟩
  | delete u id =>
    show todo ∈ (m.delete u id).2.todos ↔ todo ∈ m.todos
    rcases hfound : m.find u id with _ | found
    · rw [delete, hfound]
    · rw [hm.mem_delete_iff hfound]
      exact ⟨And.left, fun hmem => ⟨hmem, hne hfound hmem⟩⟩
  | list params => exact Iff.rfl

theorem reads_answer {c : Call} (hc : c.owner = u) : Reads (· = u) c (answer c m).1 := by
  cases c with
  | find owner id =>
    show Reads (· = u) (.find owner id) (.ok (m.find owner id))
    rcases hfind : m.find owner id with _ | todo
    · trivial
    · exact (userId_of_find hfind).trans hc
  | _ => trivial

end Memory

/-! ### Programs -/

namespace Store

theorem Call.IsFor.owner_eq {u : Datum} {c : Call} (h : c.IsFor u (· = u)) : c.owner = u := by
  rcases h with h | ⟨-, h⟩ <;> exact h

namespace Program

variable {α : Type} {u : Datum} {p : Program α} {m m' : Memory}

/-- A program made for a user has the same result in states that look alike to the user. -/
theorem run_agreesFor (hm : m.Reachable) (hm' : m'.Reachable) (h : m.AgreesFor u m')
    (hp : p.MadeFor u (· = u)) :
    (p.run Memory.answer m).1 = (p.run Memory.answer m').1 ∧
      (p.run Memory.answer m).2.AgreesFor u (p.run Memory.answer m').2 := by
  -- by the calls of the program: the same reply leads to the same rest in both states
  induction p generalizing m m' with
  | done result => exact ⟨rfl, h⟩
  | call c next ih =>
    have hc : c.owner = u := hp.1.owner_eq
    obtain ⟨hreply, hafter⟩ := h.answer hm.numbered hm'.numbered hc
    have hnext : (next (Memory.answer c m).1).MadeFor u (· = u) :=
      hp.2 _ (Memory.reads_answer hc)
    have hrest := ih (Memory.answer c m).1 (hm.answer c) (hm'.answer c) hafter hnext
    rw [run_call, run_call, ← hreply]
    exact hrest

theorem run_sparesOthers (hm : m.Reachable) (hp : p.MadeFor u (· = u)) :
    m.SparesOthers u (p.run Memory.answer m).2 := by
  induction p generalizing m with
  | done result => exact .refl u m
  | call c next ih =>
    have hc : c.owner = u := hp.1.owner_eq
    have hfirst := Memory.sparesOthers_answer hm.numbered c
    rw [hc] at hfirst
    have hnext : (next (Memory.answer c m).1).MadeFor u (· = u) :=
      hp.2 _ (Memory.reads_answer hc)
    exact hfirst.trans (ih _ (hm.answer c) hnext)

end Program

end Store

namespace Action

variable {u : Datum} {m m' : Memory}

theorem run_agreesFor (hm : m.Reachable) (hm' : m'.Reachable) (h : m.AgreesFor u m')
    (a : Action) :
    (a.run u m).1 = (a.run u m').1 ∧ (a.run u m).2.AgreesFor u (a.run u m').2 :=
  Program.run_agreesFor hm hm' h (a.program_madeFor u)

theorem run_sparesOthers (hm : m.Reachable) (a : Action) (u : Datum) :
    m.SparesOthers u (a.run u m).2 :=
  Program.run_sparesOthers hm (a.program_madeFor u)

/-! ### Ids and cursors of others -/

/-- The same action on another todo, or after another cursor. -/
def naming (d : Datum) : Action → Action
  | .create input => .create input
  | .find _ => .find d
  | .update _ changes => .update d changes
  | .updateStatus _ status => .updateStatus d status
  | .delete _ => .delete d
  | .list input => .list { input with cursor := d }

/-- A cursor that is none of the user's todos leaves nothing to list. -/
theorem listingAfter_of_find_eq_none {status cursor : Datum} (hfind : m.find u cursor = none)
    (hblank : cursor.isBlank = false) (hwords : cursor.hasWords = true) :
    m.listingAfter u status cursor = .ok none := by
  rw [Memory.listingAfter, hblank, hwords, hfind]
  simp

/-- Two values that are none of the user's todos are the same to the user. -/
theorem run_naming_congr (a : Action) {x y : Datum} (hx : m.find u x = none)
    (hy : m.find u y = none) (hblank : x.isBlank = false ∧ y.isBlank = false)
    (hwords : x.hasWords = true ∧ y.hasWords = true) :
    (a.naming x).run u m = (a.naming y).run u m := by
  cases a with
  | create input => rfl
  | find id => simp only [naming, run, program, Program.run_map, Operation.run_find, hx, hy]
  | update id changes =>
    simp only [naming, run, program, Program.run_map, Operation.run_update, hx, hy]
  | updateStatus id status =>
    simp only [naming, run, program, Program.run_map, Operation.run_updateStatus, hx, hy]
  | delete id =>
    simp only [naming, run, program, Program.run_map, Operation.run_delete,
      Memory.delete, hx, hy]
  | list input =>
    have hafter : ∀ status, m.listingAfter u status x = m.listingAfter u status y :=
      fun status =>
      (listingAfter_of_find_eq_none hx hblank.1 hwords.1).trans
        (listingAfter_of_find_eq_none hy hblank.2 hwords.2).symm
    simp only [naming, run, program, Program.run_map, Operation.run_list, Memory.list, hafter]

end Action

/-! ### Runs -/

/-- The call is for a new todo. -/
def Store.Call.creates : Call → Bool
  | .create _ => true
  | _ => false

namespace Memory

/-- Only a new todo takes a number. -/
theorem created_answer (c : Call) (m : Memory) :
    (answer c m).2.created = m.created + if c.creates then 1 else 0 := by
  cases c with
  | create new => rfl
  | update new => exact created_update m new
  | delete u id => exact created_delete m u id
  | _ => rfl

end Memory

/-- A run as it is to one user: the todos in memory, and the actions that the user has
begun. -/
structure UserRun where
  memory : Memory
  begun : List (Program (Except Fault Action.Result))

/-- What happens in a run. The actions of others come to the user as the calls that they
make. -/
inductive UserRun.Event
  /-- The user begins an action. -/
  | begins (a : Action)
  /-- An action that the user has begun makes its next call. -/
  | proceeds (place : Nat)
  /-- A call reaches the store that is none of these. -/
  | arrives (c : Call)

/-- What a user can tell of an event by its place in a run. -/
inductive UserRun.Trace
  | own (event : Event)
  /-- Somebody else stored a new todo. -/
  | creation

namespace UserRun

/-- What a user can tell of an event, if anything. -/
def Event.trace? (u : Datum) : Event → Option Trace
  | .arrives c =>
    if c.owner = u then some (.own (.arrives c))
    else if c.creates then some .creation
    else none
  | event => some (.own event)

def next (u : Datum) (r : UserRun) : Event → UserRun
  | .begins a => { r with begun := r.begun ++ [a.program u] }
  | .proceeds place =>
    match r.begun[place]?.bind fun p => p.step? Memory.answer r.memory with
    | some (p, memory) => ⟨memory, r.begun.set place p⟩
    | none => r
  | .arrives c => { r with memory := (Memory.answer c r.memory).2 }

/-- The run after some events. -/
def after (u : Datum) (r : UserRun) (events : List Event) : UserRun := events.foldl (next u) r

/-- What the user gets to see of the actions begun: the results of those that have ended. -/
def observed (r : UserRun) : List (Option (Except Fault Action.Result)) :=
  r.begun.map Program.result?

/-- The store has come about, and the actions under way are the user's. -/
structure Sound (u : Datum) (r : UserRun) : Prop where
  reachable : r.memory.Reachable
  madeFor : ∀ p ∈ r.begun, p.MadeFor u (· = u)

/-- Two runs that look alike to a user. -/
structure Alike (u : Datum) (r r' : UserRun) : Prop where
  memory : r.memory.AgreesFor u r'.memory
  begun_eq : r.begun = r'.begun

variable {u : Datum} {r r' r'' : UserRun} {event event' : Event} {events events' : List Event}

theorem Event.eq_of_own (h : event.trace? u = some (.own event')) : event = event' := by
  cases event with
  | begins a => cases h; rfl
  | proceeds place => cases h; rfl
  | arrives c =>
    rw [trace?] at h
    split_ifs at h <;> injection h with h <;> injection h

theorem Event.eq_arrives_of_creation (h : event.trace? u = some .creation) :
    ∃ c, event = .arrives c ∧ c.owner ≠ u ∧ c.creates = true := by
  cases event with
  | begins a => cases h
  | proceeds place => cases h
  | arrives c =>
    rw [trace?] at h
    split_ifs at h with howner hcreates
    · cases h
    · exact ⟨c, rfl, howner, hcreates⟩

theorem Alike.refl (u : Datum) (r : UserRun) : r.Alike u r := ⟨.refl u r.memory, rfl⟩

theorem Alike.symm (h : r.Alike u r') : r'.Alike u r := ⟨h.memory.symm, h.begun_eq.symm⟩

theorem Alike.trans (h : r.Alike u r') (h' : r'.Alike u r'') : r.Alike u r'' :=
  ⟨h.memory.trans h'.memory, h.begun_eq.trans h'.begun_eq⟩

theorem next_proceeds_of_call {place : Nat} {c : Call}
    {rest : Except Fault c.Reply → Program (Except Fault Action.Result)}
    (hcall : r.begun[place]? = some (.call c rest)) :
    r.next u (.proceeds place) =
      ⟨(Memory.answer c r.memory).2,
        r.begun.set place (rest (Memory.answer c r.memory).1)⟩ := by
  rw [next, hcall]
  rfl

theorem next_proceeds_of_not_call {place : Nat}
    (hcall : ∀ c rest, r.begun[place]? ≠ some (.call c rest)) :
    r.next u (.proceeds place) = r := by
  rw [next]
  rcases hplace : r.begun[place]? with _ | p
  · rfl
  · cases p with
    | done result => rfl
    | call c rest => exact absurd hplace (hcall c rest)

namespace Sound

/-- The next call of an action begun is made for the user. -/
theorem of_call (h : r.Sound u) {place : Nat} {c : Call}
    {rest : Except Fault c.Reply → Program (Except Fault Action.Result)}
    (hcall : r.begun[place]? = some (.call c rest)) :
    c.owner = u ∧ (rest (Memory.answer c r.memory).1).MadeFor u (· = u) := by
  obtain ⟨hfor, hrest⟩ := h.madeFor _ (List.mem_of_getElem? hcall)
  exact ⟨hfor.owner_eq, hrest _ (Memory.reads_answer hfor.owner_eq)⟩

theorem next (h : r.Sound u) (event : Event) : (r.next u event).Sound u := by
  cases event with
  | begins a =>
    refine ⟨h.reachable, fun p hp => ?_⟩
    rcases List.mem_append.1 hp with hold | hnew
    · exact h.madeFor p hold
    · rw [List.mem_singleton.1 hnew]
      exact a.program_madeFor u
  | proceeds place =>
    by_cases hcall : ∃ c rest, r.begun[place]? = some (.call c rest)
    · obtain ⟨c, rest, hcall⟩ := hcall
      rw [next_proceeds_of_call hcall]
      refine ⟨h.reachable.answer c, fun p hp => ?_⟩
      rcases List.mem_or_eq_of_mem_set hp with hold | rfl
      · exact h.madeFor p hold
      · exact (h.of_call hcall).2
    · push Not at hcall
      rwa [next_proceeds_of_not_call hcall]
  | arrives c => exact ⟨h.reachable.answer c, h.madeFor⟩

theorem after (h : r.Sound u) (events : List Event) : (r.after u events).Sound u := by
  induction events generalizing r with
  | nil => exact h
  | cons event rest ih => exact ih (h.next event)

end Sound

/-- An event that a user cannot tell anything of leaves the run looking the same to the
user. -/
theorem alike_of_trace?_eq_none (hr : r.Sound u) (hnone : event.trace? u = none) :
    r.Alike u (r.next u event) := by
  cases event with
  | begins a => cases hnone
  | proceeds place => cases hnone
  | arrives c =>
    rw [Event.trace?] at hnone
    split_ifs at hnone with howner hcreates
    refine ⟨⟨?_, fun todo hu => ?_⟩, rfl⟩
    · show r.memory.created = (Memory.answer c r.memory).2.created
      rw [Memory.created_answer, if_neg hcreates, Nat.add_zero]
    · have hne : todo.userId ≠ c.owner := fun h => howner (h.symm.trans hu)
      exact (Memory.sparesOthers_answer hr.reachable.numbered c todo hne).symm

namespace Alike

/-- One of the user's own events leaves runs looking the same to the user that do so before. -/
theorem next_own (hr : r.Sound u) (hr' : r'.Sound u) (h : r.Alike u r')
    (hown : event.trace? u = some (.own event)) :
    (r.next u event).Alike u (r'.next u event) := by
  obtain ⟨hmemory, hbegun⟩ := h
  have hn := hr.reachable.numbered
  have hn' := hr'.reachable.numbered
  cases event with
  | begins a => exact ⟨hmemory, congrArg (· ++ [a.program u]) hbegun⟩
  | proceeds place =>
    by_cases hcall : ∃ c rest, r.begun[place]? = some (.call c rest)
    · obtain ⟨c, rest, hcall⟩ := hcall
      obtain ⟨hreply, hafter⟩ := hmemory.answer hn hn' (hr.of_call hcall).1
      rw [next_proceeds_of_call hcall, next_proceeds_of_call (hbegun ▸ hcall)]
      refine ⟨hafter, ?_⟩
      show r.begun.set place _ = r'.begun.set place _
      rw [hbegun, hreply]
    · push Not at hcall
      rw [next_proceeds_of_not_call hcall, next_proceeds_of_not_call (hbegun ▸ hcall)]
      exact ⟨hmemory, hbegun⟩
  | arrives c =>
    rw [Event.trace?] at hown
    split_ifs at hown with howner
    · exact ⟨(hmemory.answer hn hn' howner).2, hbegun⟩
    · injection hown with hown
      cases hown

/-- New todos of others leave runs looking the same to the user that do so before. -/
theorem next_creation (hr : r.Sound u) (hr' : r'.Sound u) (h : r.Alike u r')
    (hcreation : event.trace? u = some .creation)
    (hcreation' : event'.trace? u = some .creation) :
    (r.next u event).Alike u (r'.next u event') := by
  obtain ⟨c, rfl, hne, hcreates⟩ := Event.eq_arrives_of_creation hcreation
  obtain ⟨c', rfl, hne', hcreates'⟩ := Event.eq_arrives_of_creation hcreation'
  refine ⟨⟨?_, fun todo hu => ?_⟩, h.begun_eq⟩
  · show (Memory.answer c r.memory).2.created = (Memory.answer c' r'.memory).2.created
    rw [Memory.created_answer, Memory.created_answer, if_pos hcreates, if_pos hcreates',
      h.memory.created_eq]
  · have hspares := Memory.sparesOthers_answer hr.reachable.numbered c todo
      fun howner => hne (howner.symm.trans hu)
    have hspares' := Memory.sparesOthers_answer hr'.reachable.numbered c' todo
      fun howner => hne' (howner.symm.trans hu)
    exact hspares.trans ((h.memory.own_iff todo hu).trans hspares'.symm)

/-- Events that a user cannot tell apart leave runs looking the same to the user that do so
before. -/
theorem next (hr : r.Sound u) (hr' : r'.Sound u) (h : r.Alike u r') {trace : Trace}
    (htrace : event.trace? u = some trace) (htrace' : event'.trace? u = some trace) :
    (r.next u event).Alike u (r'.next u event') := by
  cases trace with
  | own known =>
    obtain rfl := Event.eq_of_own htrace
    obtain rfl := Event.eq_of_own htrace'
    exact next_own hr hr' h htrace
  | creation => exact next_creation hr hr' h htrace htrace'

end Alike

theorem after_append (r : UserRun) (first rest : List Event) :
    r.after u (first ++ rest) = (r.after u first).after u rest := List.foldl_append

theorem alike_after_of_trace?_eq_none (hr : r.Sound u)
    (hnone : ∀ event ∈ events, event.trace? u = none) : r.Alike u (r.after u events) := by
  induction events generalizing r with
  | nil => exact .refl u r
  | cons event rest ih =>
    have hfirst := alike_of_trace?_eq_none hr (hnone event List.mem_cons_self)
    exact hfirst.trans (ih (hr.next event) fun later hlater =>
      hnone later (List.mem_cons_of_mem _ hlater))

/-- Runs that a user cannot tell apart by what happens in them show the user the same. -/
theorem Alike.after (hr : r.Sound u) (hr' : r'.Sound u) (h : r.Alike u r')
    (htraces : events.filterMap (Event.trace? u) = events'.filterMap (Event.trace? u)) :
    (r.after u events).Alike u (r'.after u events') := by
  -- by the events of the first run, each matched with the next that can be told of in the
  -- second
  induction events generalizing r r' events' with
  | nil =>
    have hnone : ∀ event ∈ events', event.trace? u = none :=
      List.filterMap_eq_nil_iff.1 htraces.symm
    exact h.trans (alike_after_of_trace?_eq_none hr' hnone)
  | cons event rest ih =>
    rcases htrace : event.trace? u with _ | trace
    · rw [List.filterMap_cons_none htrace] at htraces
      have hsame := alike_of_trace?_eq_none hr htrace
      exact ih (hr.next event) hr' (hsame.symm.trans h) htraces
    · rw [List.filterMap_cons_some htrace] at htraces
      obtain ⟨before, event', rest', rfl, hbefore, htrace', hrest⟩ :=
        List.filterMap_eq_cons_iff.1 htraces.symm
      have hsame := alike_after_of_trace?_eq_none hr' hbefore
      have hmatched := (h.trans hsame).next hr (hr'.after before) htrace htrace'
      have hlast := ih (hr.next event) ((hr'.after before).next event') hmatched hrest.symm
      rw [after_append]
      exact hlast

/-- What another does comes to the user as some calls. -/
theorem exists_arrivals (r : UserRun) (a : Action) (other : Datum) :
    ∃ calls : List Call, (∀ c ∈ calls, c.owner = other) ∧
      r.after u (calls.map .arrives) = { r with memory := (a.run other r.memory).2 } := by
  rw [Action.run]
  have hmade : (a.program other).MadeFor other (· = other) := a.program_madeFor other
  generalize a.program other = p at hmade ⊢
  induction p generalizing r with
  | done result => exact ⟨[], fun c hc => absurd hc List.not_mem_nil, rfl⟩
  | call c rest ih =>
    have howner : c.owner = other := hmade.1.owner_eq
    obtain ⟨calls, howners, hafter⟩ := ih (Memory.answer c r.memory).1 (r.next u (.arrives c))
      (hmade.2 _ (Memory.reads_answer howner))
    refine ⟨c :: calls, fun d hd => ?_, hafter⟩
    rcases List.mem_cons.1 hd with rfl | hd
    · exact howner
    · exact howners d hd

end UserRun

/-- Users do not see each other. -/
theorem tenants_isolated (u : Datum) {m m' : Memory} (hm : m.Reachable) (hm' : m'.Reachable)
    (h : m.AgreesFor u m') :
    (∀ a : Action,
      (a.run u m).1 = (a.run u m').1 ∧ (a.run u m).2.AgreesFor u (a.run u m').2 ∧
        m.SparesOthers u (a.run u m).2 ∧ m'.SparesOthers u (a.run u m').2) ∧
    (∀ events events' : List UserRun.Event,
      events.filterMap (UserRun.Event.trace? u) = events'.filterMap (UserRun.Event.trace? u) →
        (UserRun.after u ⟨m, []⟩ events).observed =
          (UserRun.after u ⟨m', []⟩ events').observed ∧
          (UserRun.after u ⟨m, []⟩ events).memory.AgreesFor u
            (UserRun.after u ⟨m', []⟩ events').memory) ∧
    ∀ (a : Action) (foreign : Todo) (missing : Text), foreign ∈ m.todos → foreign.userId ≠ u →
      (∀ todo ∈ m.todos, todo.id ≠ .text missing) → missing ≠ "" →
        (a.naming foreign.id).run u m = (a.naming missing).run u m := by
  -- one action, whole runs, and what stands for nothing of the user's
  refine ⟨fun a => ?_, fun events events' htraces => ?_, ?_⟩
  · obtain ⟨hresult, hafter⟩ := a.run_agreesFor hm hm' h
    exact ⟨hresult, hafter, a.run_sparesOthers hm u, a.run_sparesOthers hm' u⟩
  · have hsound : ∀ {memory : Memory}, memory.Reachable → UserRun.Sound u ⟨memory, []⟩ :=
      fun hmemory => ⟨hmemory, fun p hp => absurd hp List.not_mem_nil⟩
    have hstart : UserRun.Alike u ⟨m, []⟩ ⟨m', []⟩ := ⟨h, rfl⟩
    obtain ⟨hmemory, hbegun⟩ := hstart.after (hsound hm) (hsound hm') htraces
    exact ⟨congrArg (List.map Program.result?) hbegun, hmemory⟩
  · intro a foreign missing hmem hforeign hmissing hne
    obtain ⟨n, hn, -⟩ := hm.numbered.counted foreign hmem
    have hx : m.find u foreign.id = none := by
      refine hm.numbered.find_eq_none_iff.2 fun todo htodo hid => ?_
      rw [hm.numbered.eq_of_id_eq htodo hmem hid, ← Bool.not_eq_true]
      exact fun hsame => hforeign (Datum.eq_of_same hsame)
    have hy : m.find u missing = none :=
      hm.numbered.find_eq_none_iff.2 fun todo htodo hid => absurd hid (hmissing todo htodo)
    rw [show foreign.id = .text (Uuid.ofNumber n) from hn] at hx ⊢
    exact a.run_naming_congr hx hy
      ⟨Datum.isBlank_text (Uuid.ofNumber_ne_empty n), Datum.isBlank_text hne⟩ ⟨rfl, rfl⟩

/-! Two states that tell apart what one user has stored, before another stored the same in
both. -/

def alice : Datum := .text "alice"

def bob : Datum := .text "bob"

def titleOnly (title : Text) : TodoInput := ⟨.text title, .absent, .absent⟩

def titled (userId : Datum) (title : Text) : NewTodo :=
  ⟨userId, .text title, .text "", Status.pending.name, .null, []⟩

/-- A todo of one user, and then one of the other. -/
def beside (title : Text) : Memory :=
  (Memory.answer (.create (titled alice "own"))
    (Memory.answer (.create (titled bob title)) .empty).2).2

theorem tenants_isolated_beside :
    (beside "mail").Reachable ∧ (beside "call").Reachable ∧
      (beside "mail").AgreesFor alice (beside "call") ∧ beside "mail" ≠ beside "call" ∧
      ((Action.list ⟨.absent, .absent, .absent⟩).run alice (beside "mail")).1 =
        ((Action.list ⟨.absent, .absent, .absent⟩).run alice (beside "call")).1 ∧
      (UserRun.after alice ⟨beside "mail", []⟩
          [.begins (.create (titleOnly "next")), .arrives (.create (titled bob "more")),
            .proceeds 0]).observed =
        (UserRun.after alice ⟨beside "call", []⟩
          [.arrives (.find bob (.text "x")), .begins (.create (titleOnly "next")),
            .arrives (.create (titled bob "less")), .proceeds 0]).observed ∧
      (Action.find (.text (Uuid.ofNumber 1))).run alice (beside "mail") =
        (Action.find (.text "nothing")).run alice (beside "mail") := by
  have hm : ∀ title, (beside title).Reachable := fun title =>
    (Memory.Reachable.empty.answer _).answer _
  have hagrees : (beside "mail").AgreesFor alice (beside "call") := by
    refine ⟨rfl, fun todo howner => ?_⟩
    have hmail : todo ≠ Memory.stored 1 (titled bob "mail") := by
      rintro rfl
      exact absurd howner (by decide)
    have hcall : todo ≠ Memory.stored 1 (titled bob "call") := by
      rintro rfl
      exact absurd howner (by decide)
    simp [beside, Memory.answer, Memory.create, Memory.empty, hmail, hcall]
  have htraces : [UserRun.Event.begins (.create (titleOnly "next")),
      .arrives (.create (titled bob "more")), .proceeds 0].filterMap
        (UserRun.Event.trace? alice) =
        [UserRun.Event.arrives (.find bob (.text "x")), .begins (.create (titleOnly "next")),
          .arrives (.create (titled bob "less")), .proceeds 0].filterMap
            (UserRun.Event.trace? alice) := by
    have hother : bob ≠ alice := by decide
    simp [List.filterMap, UserRun.Event.trace?, Call.owner, Call.creates, titled, hother]
  obtain ⟨hactions, hruns, hforeign⟩ := tenants_isolated alice (hm "mail") (hm "call") hagrees
  refine ⟨hm _, hm _, hagrees, by decide +kernel, (hactions _).1, (hruns _ _ htraces).1, ?_⟩
  exact hforeign (.find .absent) (Memory.stored 1 (titled bob "mail")) "nothing"
    (by decide +kernel) (by decide) (by decide +kernel) (by decide)

end TodoServer
