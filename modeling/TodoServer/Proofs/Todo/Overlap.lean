/-
Edits of one todo at a time.

An edit reads a todo and writes the whole of it back, the fields it does not change as it has
read them. Nothing tells the store whether the todo is still the one that was read. So two
edits of one todo come out as one after the other if the first has written before the second
reads; if both have read before either writes, the later write undoes the earlier one, however
little the two have to do with each other, and both are reported as done.

* `Store.interleave` — two operations, their calls made in the order of a schedule;
* `Edit`, `Edit.sets` — the edits, and the values that they give to fields;
* `Edit.read_step`, `Edit.write_step` — an edit that succeeds in two steps of a schedule;
* `final_of_overlap` — what is left of two edits, for every schedule;
* `title_undone_by_status` — two edits of different fields, one of which is lost.
-/
import TodoServer.Proofs.Todo.Outcomes

namespace TodoServer

/-! ### Schedules -/

/-- One of two operations that are under way. -/
inductive Side
  | left
  | right
deriving DecidableEq, Repr

def Side.other : Side → Side
  | .left => .right
  | .right => .left

theorem Side.map_other_map_other (schedule : List Side) :
    (schedule.map Side.other).map Side.other = schedule := by
  induction schedule with
  | nil => rfl
  | cons side rest ih => cases side <;> rw [List.map_cons, List.map_cons, ih] <;> rfl

namespace Store

/-- Two operations, their calls made in the order of a schedule that runs both to the end. -/
def interleave {α β σ : Type} (store : Answers σ) :
    List Side → Program α → Program β → σ → Option ((α × β) × σ)
  | [], p, q, s => p.result?.bind fun a => q.result?.map fun b => ((a, b), s)
  | .left :: rest, p, q, s =>
    (p.step? store s).bind fun (p, s) => interleave store rest p q s
  | .right :: rest, p, q, s =>
    (q.step? store s).bind fun (q, s) => interleave store rest p q s

variable {α β σ : Type} {store : Answers σ} {schedule rest : List Side} {p : Program α}
  {q : Program β} {a result : α} {b : β} {s s' : σ}

theorem results_of_interleave_nil (h : interleave store [] p q s = some ((a, b), s')) :
    p.result? = some a ∧ q.result? = some b := by
  rw [interleave] at h
  rcases hp : p.result? with _ | a' <;> rcases hq : q.result? with _ | b' <;>
    rw [hp, hq] at h <;>
    cases h
  exact ⟨rfl, rfl⟩

/-- It does not matter which of the two operations is called the left one. -/
theorem interleave_swap (schedule : List Side) (p : Program α) (q : Program β) (s : σ) :
    interleave store (schedule.map Side.other) q p s =
      (interleave store schedule p q s).map fun (results, s) => (results.swap, s) := by
  induction schedule generalizing p q s with
  | nil =>
    rw [List.map_nil, interleave, interleave]
    cases p.result? <;> cases q.result? <;> rfl
  | cons side rest ih =>
    cases side with
    | left =>
      rw [List.map_cons, Side.other, interleave, interleave]
      rcases p.step? store s with _ | ⟨p', s'⟩
      · rfl
      · exact ih p' q s'
    | right =>
      rw [List.map_cons, Side.other, interleave, interleave]
      rcases q.step? store s with _ | ⟨q', s'⟩
      · rfl
      · exact ih p q' s'

theorem interleave_eq_some_swap :
    interleave store schedule p q s = some ((a, b), s') ↔
      interleave store (schedule.map Side.other) q p s = some ((b, a), s') := by
  rw [interleave_swap]
  constructor
  · intro h
    rw [h]
    rfl
  · intro h
    rw [Option.map_eq_some_iff] at h
    obtain ⟨⟨⟨a', b'⟩, s''⟩, hrun, heq⟩ := h
    cases heq
    exact hrun

/-- An operation that has ended keeps its result. -/
theorem eq_of_interleave_done
    (h : interleave store schedule (.done result) q s = some ((a, b), s')) : a = result := by
  induction schedule generalizing q s with
  | nil => exact (Option.some.inj (results_of_interleave_nil h).1).symm
  | cons side rest ih =>
    cases side with
    | left => cases h
    | right =>
      rw [interleave] at h
      rcases hq : q.step? store s with _ | ⟨q', s''⟩
      · rw [hq] at h
        cases h
      · rw [hq] at h
        exact ih h

theorem eq_of_interleave_done_done {result' : β}
    (h : interleave store schedule (.done result) (.done result') s = some ((a, b), s')) :
    schedule = [] ∧ a = result ∧ b = result' ∧ s' = s := by
  cases schedule with
  | nil => cases h; exact ⟨rfl, rfl, rfl, rfl⟩
  | cons side rest => cases side <;> cases h

end Store

open Store

/-! ### Edits -/

/-- What an edit is of: some fields of a todo, or its status. -/
inductive Edit
  | change (changes : TodoChanges)
  | setStatus (status : Datum)

/-- The fields that edits give values to. -/
inductive Field
  | title
  | description
  | status
  | dueAt
deriving DecidableEq, Repr

namespace Todo

def get (todo : Todo) : Field → Datum
  | .title => todo.title
  | .description => todo.description
  | .status => todo.status
  | .dueAt => todo.dueAt

/-- A todo with other values in some fields. -/
def put (todo : Todo) (values : Field → Option Datum) : Todo :=
  { todo with
    title := (values .title).getD todo.title
    description := (values .description).getD todo.description
    status := (values .status).getD todo.status
    dueAt := (values .dueAt).getD todo.dueAt }

/-- What no edit changes of a todo. -/
def frame (todo : Todo) : Datum × Datum × Datum × List Json.Member :=
  (todo.id, todo.userId, todo.createdAt, todo.others)

/-- Two todos that are the same but for the time of their update. -/
def Matches (a b : Todo) : Prop := a = { b with updatedAt := a.updatedAt }

instance (a b : Todo) : Decidable (a.Matches b) := inferInstanceAs (Decidable (a = _))

variable {a b : Todo}

theorem matches_iff :
    a.Matches b ↔ a.frame = b.frame ∧ ∀ field, a.get field = b.get field := by
  constructor
  · intro h
    rw [Matches] at h
    rw [h]
    exact ⟨rfl, fun field => by cases field <;> rfl⟩
  · rintro ⟨hframe, hget⟩
    obtain ⟨hid, howner, hcreated, hothers⟩ : a.id = b.id ∧ a.userId = b.userId ∧
        a.createdAt = b.createdAt ∧ a.others = b.others := by simpa [frame] using hframe
    have htitle : a.title = b.title := hget .title
    have hdescription : a.description = b.description := hget .description
    have hstatus : a.status = b.status := hget .status
    have hdue : a.dueAt = b.dueAt := hget .dueAt
    rw [Matches, ← hid, ← howner, ← hcreated, ← hothers, ← htitle, ← hdescription,
      ← hstatus, ← hdue]

theorem get_put (todo : Todo) (values : Field → Option Datum) (field : Field) :
    (todo.put values).get field = (values field).getD (todo.get field) := by
  cases field <;> rfl

theorem get_replacing (old new : Todo) (field : Field) :
    (Memory.replacing old new).get field = new.get field := by
  cases field <;> rfl

end Todo

namespace Edit

/-- The operation that an edit of a user's todo is. -/
def operation (userId id : Datum) : Edit → Program (Except Fault Todo)
  | .change changes => Operation.update userId id changes
  | .setStatus status => Operation.updateStatus userId id status

/-- The values that an edit gives to fields. -/
def sets : Edit → Field → Option Datum
  | .change changes, .title => if changes.title.isAbsent then none else some changes.title
  | .change changes, .description =>
    if changes.description.isAbsent then none else some changes.description
  | .change changes, .dueAt =>
    if changes.dueAt.isAbsent then none else (changes.due .absent).toOption
  | .change _, .status => none
  | .setStatus status, .status => some status
  | .setStatus _, _ => none

/-- The rules let an edit pass. They look at the edit alone. -/
def Accepted : Edit → Prop
  | .change changes => changes.title ≠ .text "" ∧ ∃ dueAt, changes.due .absent = .ok dueAt
  | .setStatus status => (Status.ofDatum? status).isSome = true

theorem due_eq_iff {changes : TodoChanges} {old : Datum} :
    (∃ dueAt, changes.due old = .ok dueAt) ↔ ∃ dueAt, changes.due .absent = .ok dueAt := by
  rw [TodoChanges.due, TodoChanges.due]
  split <;> simp

theorem accepted_of_apply {changes : TodoChanges} {todo new : Todo}
    (h : changes.apply todo = .ok new) : (Edit.change changes).Accepted := by
  obtain ⟨dueAt, hdue, -⟩ := TodoChanges.apply_eq_ok h
  refine ⟨?_, due_eq_iff.1 ⟨dueAt, hdue⟩⟩
  intro htitle
  rw [TodoChanges.apply, if_pos htitle] at h
  cases h

theorem apply_eq_put {changes : TodoChanges} (h : (Edit.change changes).Accepted)
    (todo : Todo) : changes.apply todo = .ok (todo.put (Edit.change changes).sets) := by
  obtain ⟨htitle, dueAt, hdue⟩ := h
  have hput : changes.due todo.dueAt =
      .ok (((Edit.change changes).sets .dueAt).getD todo.dueAt) := by
    rw [sets, hdue]
    rw [TodoChanges.due] at hdue ⊢
    split at hdue
    next habsent => simp [habsent, Datum.isAbsent]
    next hnull => cases hdue; simp [hnull, Datum.isAbsent, Except.toOption]
    next habsent hnull =>
      have hgiven : changes.dueAt.isAbsent = false := by
        rcases hdueAt : changes.dueAt with _ | value | date
        · exact absurd hdueAt habsent
        · rfl
        · rfl
      simpa [hgiven, Except.toOption] using hdue
  have hchanged : ∀ new old : Datum,
      changed new old = (if new.isAbsent then none else some new : Option Datum).getD old := by
    intro new old
    rw [changed]
    split_ifs <;> rfl
  rw [TodoChanges.apply, if_neg htitle, hput, hchanged, hchanged]
  rfl

/-! ### The two calls of an edit -/

variable {m : Memory} {userId id : Datum}

/-- The first call of an edit reads the todo. Whatever it then writes back, it has made of
that. -/
theorem read_step (e : Edit) (userId id : Datum) (m : Memory) :
    (∃ fault, e.operation userId id = .done (.error fault)) ∨
      (∃ fault, (e.operation userId id).step? Memory.answer m =
        some (.done (.error fault), m)) ∨
      (e.Accepted ∧ ∃ old, m.find userId id = some old ∧
        (e.operation userId id).step? Memory.answer m =
          some (Operation.save (old.put e.sets), m)) := by
  cases e with
  | change changes =>
    right
    rcases hfind : m.find userId id with _ | old
    · left
      refine ⟨.api Operation.todoNotFound, ?_⟩
      rw [operation, Operation.update, Operation.withTodo, Program.ask, Program.step?,
        Memory.answer, hfind]
      rfl
    · rcases happly : changes.apply old with e | new
      · left
        refine ⟨.api e, ?_⟩
        rw [operation, Operation.update, Operation.withTodo, Program.ask, Program.step?,
          Memory.answer, hfind]
        simp only [happly]
        rfl
      · right
        have haccepted := accepted_of_apply happly
        refine ⟨haccepted, old, rfl, ?_⟩
        rw [operation, Operation.update, Operation.withTodo, Program.ask, Program.step?,
          Memory.answer, hfind]
        simp only [apply_eq_put haccepted old]
  | setStatus status =>
    -- a status that no todo has is refused without a call
    rcases hstatus : Status.ofDatum? status with _ | known
    · left
      refine ⟨.api (.invalidInput statusRule), ?_⟩
      rw [operation, Operation.updateStatus, hstatus]
      rfl
    · right
      rcases hfind : m.find userId id with _ | old
      · left
        refine ⟨.api Operation.todoNotFound, ?_⟩
        rw [operation, Operation.updateStatus, hstatus]
        simp only [Operation.withTodo, Program.ask, Program.step?, Memory.answer, hfind]
        rfl
      · right
        refine ⟨by rw [Accepted, hstatus]; rfl, old, rfl, ?_⟩
        rw [operation, Operation.updateStatus, hstatus]
        simp only [Operation.withTodo, Program.ask, Program.step?, Memory.answer, hfind]
        rfl

/-- An edit that has made no call has not succeeded. -/
theorem result?_operation_ne (e : Edit) (userId id : Datum) (todo : Todo) :
    (e.operation userId id).result? ≠ some (.ok todo) := by
  cases e with
  | change changes => exact Option.some_ne_none _ ∘ Eq.symm
  | setStatus status =>
    rw [operation, Operation.updateStatus]
    cases Status.ofDatum? status with
    | none =>
      intro h
      cases h
    | some known => exact Option.some_ne_none _ ∘ Eq.symm

/-- The second call writes it back, in the place of whatever is stored by then. -/
theorem write_step {new current : Todo} (h : m.find new.userId new.id = some current) :
    (Operation.save new).step? Memory.answer m =
      some (.done (.ok (Memory.replacing current new)), (m.update new).2) := by
  rw [Operation.save, Program.ask, Program.step?, Memory.answer]
  simp only [Memory.update_fst h]

/-- An edit that succeeds, and whose call is the next, has found the todo. -/
theorem interleave_read {β : Type} {e : Edit} {rest : List Side} {q : Program β}
    {a : Todo} {b : β} {m' : Memory}
    (h : interleave Memory.answer (.left :: rest) (e.operation userId id) q m =
      some ((.ok a, b), m')) :
    e.Accepted ∧ ∃ old, m.find userId id = some old ∧
      interleave Memory.answer rest (Operation.save (old.put e.sets)) q m =
        some ((.ok a, b), m') := by
  rcases e.read_step userId id m with
    ⟨fault, hdone⟩ | ⟨fault, hstep⟩ | ⟨haccepted, old, hold, hstep⟩
  · rw [hdone] at h
    cases eq_of_interleave_done h
  · rw [interleave, hstep] at h
    cases eq_of_interleave_done h
  · rw [interleave, hstep] at h
    exact ⟨haccepted, old, hold, h⟩

theorem interleave_read_right {α : Type} {e : Edit} {rest : List Side} {p : Program α} {a : α}
    {b : Todo} {m' : Memory}
    (h : interleave Memory.answer (.right :: rest) p (e.operation userId id) m =
      some ((a, .ok b), m')) :
    e.Accepted ∧ ∃ old, m.find userId id = some old ∧
      interleave Memory.answer rest p (Operation.save (old.put e.sets)) m =
        some ((a, .ok b), m') := by
  obtain ⟨haccepted, old, hold, hrest⟩ := interleave_read (interleave_eq_some_swap.1 h)
  exact ⟨haccepted, old, hold, interleave_eq_some_swap.2 hrest⟩

/-- The todo that an edit writes in the place of a stored one, having read another. -/
def written (stored read : Todo) (e : Edit) : Todo := Memory.replacing stored (read.put e.sets)

theorem find_written {stored read : Todo} (e : Edit) (hstored : m.find userId id = some stored)
    (howner : read.userId = userId) (hid : read.id = id) :
    m.find (read.put e.sets).userId (read.put e.sets).id = some stored ∧
      (m.update (read.put e.sets)).2.find userId id = some (written stored read e) := by
  subst howner hid
  have hnew : m.find (read.put e.sets).userId (read.put e.sets).id = some stored := hstored
  exact ⟨hnew, Memory.find_update hnew⟩

/-- What two edits leave behind if both succeed and the left one reads first. -/
theorem find_of_left_first {left right : Edit} {rest : List Side} {a b : Todo} {m' : Memory}
    (h : interleave Memory.answer (.left :: rest) (left.operation userId id)
      (right.operation userId id) m = some ((.ok a, .ok b), m')) :
    left.Accepted ∧ right.Accepted ∧ ∃ old, m.find userId id = some old ∧
      (rest = [.left, .right, .right] ∧ m'.find userId id =
          some (written (written old old left) (written old old left) right) ∨
        rest = [.right, .left, .right] ∧
          m'.find userId id = some (written (written old old left) old right) ∨
        rest = [.right, .right, .left] ∧
          m'.find userId id = some (written (written old old right) old left)) := by
  obtain ⟨hleft, old, hold, h⟩ := interleave_read h
  have howner := Memory.userId_of_find hold
  have hid := Memory.id_of_find hold
  obtain ⟨hstored, hwritten⟩ := find_written left hold howner hid
  -- two calls of each are left to make, and no third: the schedule is followed call by call
  rcases rest with _ | ⟨_ | _, rest⟩
  · cases h
  · rw [interleave, write_step hstored] at h
    rcases rest with _ | ⟨_ | _, rest⟩
    · simp only [Option.bind_some] at h
      exact absurd (results_of_interleave_nil h).2 (right.result?_operation_ne userId id b)
    · cases h
    · obtain ⟨hright, read, hread, h⟩ := interleave_read_right h
      obtain rfl : read = written old old left := Option.some.inj (hread.symm.trans hwritten)
      obtain ⟨hstored', hwritten'⟩ :=
        find_written right hwritten (Memory.userId_of_find hwritten)
          (Memory.id_of_find hwritten)
      rcases rest with _ | ⟨_ | _, rest⟩
      · cases h
      · cases h
      · rw [interleave, write_step hstored'] at h
        obtain ⟨rfl, -, -, rfl⟩ := eq_of_interleave_done_done h
        exact ⟨hleft, hright, old, hold, Or.inl ⟨rfl, hwritten'⟩⟩
  · obtain ⟨hright, read, hread, h⟩ := interleave_read_right h
    obtain rfl : read = old := Option.some.inj (hread.symm.trans hold)
    refine ⟨hleft, hright, read, hold, Or.inr ?_⟩
    rcases rest with _ | ⟨_ | _, rest⟩
    · cases h
    · rw [interleave, write_step hstored] at h
      obtain ⟨hstored', hwritten'⟩ := find_written right hwritten howner hid
      rcases rest with _ | ⟨_ | _, rest⟩
      · cases h
      · cases h
      · simp only [Option.bind_some] at h
        rw [interleave, write_step hstored'] at h
        obtain ⟨rfl, -, -, rfl⟩ := eq_of_interleave_done_done h
        exact Or.inl ⟨rfl, hwritten'⟩
    · obtain ⟨hstored', hwritten'⟩ := find_written right hold howner hid
      rw [interleave, write_step hstored'] at h
      obtain ⟨hstored'', hwritten''⟩ := find_written left hwritten' howner hid
      rcases rest with _ | ⟨_ | _, rest⟩
      · cases h
      · simp only [Option.bind_some] at h
        rw [interleave, write_step hstored''] at h
        obtain ⟨rfl, -, -, rfl⟩ := eq_of_interleave_done_done h
        exact Or.inr ⟨rfl, hwritten''⟩
      · cases h

/-! ### One edit after the other -/

/-- The todo after an edit that nothing comes between. -/
def alone (e : Edit) (userId id : Datum) (m : Memory) : Option Todo :=
  ((e.operation userId id).run Memory.answer m).2.find userId id

/-- The todo after two edits, the second begun when the first has ended. -/
def oneByOne (first second : Edit) (userId id : Datum) (m : Memory) : Option Todo :=
  second.alone userId id ((first.operation userId id).run Memory.answer m).2

variable {old : Todo} {first last : Edit}

theorem run_operation {e : Edit} (haccepted : e.Accepted)
    (hold : m.find userId id = some old) :
    ((e.operation userId id).run Memory.answer m).2 = (m.update (old.put e.sets)).2 := by
  cases e with
  | change changes =>
    rw [operation, Operation.run_update, hold]
    simp only [apply_eq_put haccepted old]
  | setStatus status =>
    obtain ⟨known, hknown⟩ := Option.isSome_iff_exists.1 haccepted
    rw [operation, Operation.run_updateStatus, hknown, hold]
    rfl

theorem alone_eq {e : Edit} (haccepted : e.Accepted) (hold : m.find userId id = some old) :
    e.alone userId id m = some (written old old e) := by
  rw [alone, run_operation haccepted hold]
  exact (find_written e hold (Memory.userId_of_find hold) (Memory.id_of_find hold)).2

theorem oneByOne_eq (hfirst : first.Accepted) (hlast : last.Accepted)
    (hold : m.find userId id = some old) :
    oneByOne first last userId id m =
      some (written (written old old first) (written old old first) last) := by
  rw [oneByOne, run_operation hfirst hold]
  exact alone_eq hlast
    (find_written first hold (Memory.userId_of_find hold) (Memory.id_of_find hold)).2

theorem get_written (stored read : Todo) (e : Edit) (field : Field) :
    (written stored read e).get field = (e.sets field).getD (read.get field) := by
  rw [written, Todo.get_replacing, Todo.get_put]

/-- What is left where both edits have read the todo before the first has written it: what the
last one makes of it alone. That is what one after the other would have made of it only if the
first has changed nothing that the last does not set. -/
theorem matches_of_overlap (hfirst : first.Accepted) (hlast : last.Accepted)
    (hold : m.find userId id = some old) {final : Todo}
    (hfinal : final = written (written old old first) old last) :
    (∃ todo, last.alone userId id m = some todo ∧ final.Matches todo) ∧
      ((∃ todo, (oneByOne first last userId id m = some todo ∨
          oneByOne last first userId id m = some todo) ∧ final.Matches todo) ↔
        ∀ field value, first.sets field = some value → last.sets field = none →
          old.get field = value) := by
  subst hfinal
  rw [alone_eq hlast hold, oneByOne_eq hfirst hlast hold, oneByOne_eq hlast hfirst hold]
  refine ⟨⟨_, rfl, Todo.matches_iff.2 ⟨rfl, fun field => ?_⟩⟩, ?_, ?_⟩
  · rw [get_written, get_written]
  · -- in either order the first edit's value stands in a field that the last does not set
    rintro ⟨todo, htodo, hmatches⟩ field value hvalue hnone
    have hget := (Todo.matches_iff.1 hmatches).2 field
    rw [get_written, hnone, Option.getD_none] at hget
    rw [hget]
    rcases htodo with htodo | htodo <;> cases htodo <;>
      simp only [get_written, hvalue, hnone] <;> rfl
  · -- the order that the edits have written in will do
    intro hmoot
    refine ⟨_, Or.inl rfl, Todo.matches_iff.2 ⟨rfl, fun field => ?_⟩⟩
    rw [get_written, get_written, get_written]
    rcases hlast : last.sets field with _ | value
    · rcases hfirst : first.sets field with _ | value
      · rfl
      · exact hmoot field value hfirst hlast
    · rfl

end Edit

/-- Both operations have made their first call before either makes its second. -/
def BothReadFirst (schedule : List Side) : Prop :=
  .left ∈ schedule.take 2 ∧ .right ∈ schedule.take 2

instance (schedule : List Side) : Decidable (BothReadFirst schedule) :=
  inferInstanceAs (Decidable (_ ∧ _))

/-- Two edits of one todo under every schedule of their calls that lets both succeed. -/
theorem final_of_overlap {m m' : Memory} {userId id : Datum} {left right : Edit}
    {schedule : List Side} {a b : Todo}
    (h : interleave Memory.answer schedule (left.operation userId id)
        (right.operation userId id) m = some ((.ok a, .ok b), m')) :
    ∃ (first last : Edit) (old final : Todo),
      (first, last) =
        (if schedule.getLast? = some .right then (left, right) else (right, left)) ∧
      m.find userId id = some old ∧ m'.find userId id = some final ∧
      (¬BothReadFirst schedule → Edit.oneByOne first last userId id m = some final) ∧
      (BothReadFirst schedule →
        (∃ todo, last.alone userId id m = some todo ∧ final.Matches todo) ∧
        ((∃ todo, (Edit.oneByOne first last userId id m = some todo ∨
            Edit.oneByOne last first userId id m = some todo) ∧ final.Matches todo) ↔
          ∀ field value, first.sets field = some value → last.sets field = none →
            old.get field = value)) := by
  rcases schedule with _ | ⟨_ | _, rest⟩
  · exact absurd (results_of_interleave_nil h).1 (left.result?_operation_ne userId id a)
  · obtain ⟨hleft, hright, old, hold, hcases⟩ := Edit.find_of_left_first h
    rcases hcases with ⟨rfl, hfinal⟩ | ⟨rfl, hfinal⟩ | ⟨rfl, hfinal⟩
    · exact ⟨left, right, old, _, rfl, hold, hfinal,
        fun _ => Edit.oneByOne_eq hleft hright hold, fun h => absurd h (by decide)⟩
    · exact ⟨left, right, old, _, rfl, hold, hfinal, fun h => absurd (by decide) h,
        fun _ => Edit.matches_of_overlap hleft hright hold rfl⟩
    · exact ⟨right, left, old, _, rfl, hold, hfinal, fun h => absurd (by decide) h,
        fun _ => Edit.matches_of_overlap hright hleft hold rfl⟩
  · -- the same with the operations named the other way round
    obtain ⟨hright, hleft, old, hold, hcases⟩ :=
      Edit.find_of_left_first (interleave_eq_some_swap.1 h)
    have hrest := (Side.map_other_map_other rest).symm
    rcases hcases with ⟨heq, hfinal⟩ | ⟨heq, hfinal⟩ | ⟨heq, hfinal⟩ <;> rw [heq] at hrest <;>
      subst hrest
    · exact ⟨right, left, old, _, rfl, hold, hfinal,
        fun _ => Edit.oneByOne_eq hright hleft hold, fun h => absurd h (by decide)⟩
    · exact ⟨right, left, old, _, rfl, hold, hfinal, fun h => absurd (by decide) h,
        fun _ => Edit.matches_of_overlap hright hleft hold rfl⟩
    · exact ⟨left, right, old, _, rfl, hold, hfinal, fun h => absurd (by decide) h,
        fun _ => Edit.matches_of_overlap hleft hright hold rfl⟩

/-- The todo of a user who is alone. -/
def onlyTodo : Todo :=
  Memory.stored 1 ⟨.text "alice", .text "old", .text "", Status.pending.name, .null, []⟩

def onlyMemory : Memory := ⟨[onlyTodo], 1⟩

def retitle : Edit := .change ⟨.text "new", .absent, .absent⟩

def complete : Edit := .setStatus Status.completed.name

/-- One after the other, both edits leave their mark. -/
theorem oneByOne_retitle_complete :
    (Edit.oneByOne retitle complete onlyTodo.userId onlyTodo.id onlyMemory).map
        (fun todo => (todo.title, todo.status)) =
          some (Datum.text "new", Datum.text Status.completed.name) ∧
      (Edit.oneByOne complete retitle onlyTodo.userId onlyTodo.id onlyMemory).map
        (fun todo => (todo.title, todo.status)) =
          some (Datum.text "new", Datum.text Status.completed.name) := by
  decide +kernel

/-- Both edits succeed, and the title is the old one again. -/
theorem title_undone_by_status :
    onlyMemory.Reachable ∧ ∃ (a b final : Todo) (after : Memory),
      interleave Memory.answer [.left, .right, .left, .right]
          (retitle.operation onlyTodo.userId onlyTodo.id)
          (complete.operation onlyTodo.userId onlyTodo.id) onlyMemory =
            some ((.ok a, .ok b), after) ∧
        after.find onlyTodo.userId onlyTodo.id = some final ∧ final.title = .text "old" ∧
        ∀ todo, (Edit.oneByOne retitle complete onlyTodo.userId onlyTodo.id onlyMemory =
          some todo ∨
          Edit.oneByOne complete retitle onlyTodo.userId onlyTodo.id onlyMemory = some todo) →
            ¬final.Matches todo := by
  refine ⟨Memory.Reachable.empty.answer (.create _), Edit.written onlyTodo onlyTodo retitle,
    Edit.written (Edit.written onlyTodo onlyTodo retitle) onlyTodo complete,
    Edit.written (Edit.written onlyTodo onlyTodo retitle) onlyTodo complete,
    ⟨[Edit.written (Edit.written onlyTodo onlyTodo retitle) onlyTodo complete], 1⟩,
    rfl, rfl, rfl, ?_⟩
  intro todo htodo hmatches
  have htitle : todo.title = .text "new" := by
    obtain ⟨hfirst, hsecond⟩ := oneByOne_retitle_complete
    rcases htodo with htodo | htodo
    · rw [htodo] at hfirst
      exact congrArg Prod.fst (Option.some.inj hfirst)
    · rw [htodo] at hsecond
      exact congrArg Prod.fst (Option.some.inj hsecond)
  have hold : (Edit.written (Edit.written onlyTodo onlyTodo retitle) onlyTodo complete).title =
      .text "new" := ((Todo.matches_iff.1 hmatches).2 .title).trans htitle
  exact absurd hold (by decide)

theorem final_of_overlap_statusLast :
    ∃ (a b final : Todo) (after : Memory),
      interleave Memory.answer [.left, .right, .left, .right]
          (retitle.operation onlyTodo.userId onlyTodo.id)
          (complete.operation onlyTodo.userId onlyTodo.id) onlyMemory =
            some ((.ok a, .ok b), after) ∧
        after.find onlyTodo.userId onlyTodo.id = some final ∧
        ∃ todo, complete.alone onlyTodo.userId onlyTodo.id onlyMemory = some todo ∧
          final.Matches todo := by
  have hrun : interleave Memory.answer [.left, .right, .left, .right]
      (retitle.operation onlyTodo.userId onlyTodo.id)
      (complete.operation onlyTodo.userId onlyTodo.id) onlyMemory =
        some ((.ok (Edit.written onlyTodo onlyTodo retitle),
          .ok (Edit.written (Edit.written onlyTodo onlyTodo retitle) onlyTodo complete)),
          ⟨[Edit.written (Edit.written onlyTodo onlyTodo retitle) onlyTodo complete], 1⟩) :=
            rfl
  obtain ⟨first, last, old, final, hlast, -, hfinal, -, hoverlap⟩ := final_of_overlap hrun
  cases hlast
  exact ⟨_, _, final, _, hrun, hfinal, (hoverlap (by decide)).1⟩

end TodoServer
