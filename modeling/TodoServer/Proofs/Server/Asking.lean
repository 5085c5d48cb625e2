/-
What a request asks for in its body.

Three kinds of requests take a body: for a new todo, for changes of one, and for the status of
one. The body has to write an object in which the members that are recognised are what they
have to be, the last one of a name being the one that counts: a title, a description or a
status is a text, a due date a text or null. Other members do not matter. What such an object
does not give is empty in a new todo's title and in a status, and absent elsewhere.

* `Json.LastUnder`, `GivesText`, `GivesDue` — what the members of an object give under a name;
* `Http.Request.Asks` — an action that a request asks for by what is written in its body;
* `Route.asks_of_asked`, `Route.asked_of_asks` — a request is taken for what its body asks for;
* `Route.asked_eq_error` — and told that its body cannot be read, if that is nothing.
-/
import TodoServer.Proofs.Json.Parsing
import TodoServer.Proofs.Path.Guarded
import TodoServer.Proofs.Server.Exchanges

namespace TodoServer

open Http

/-! ### Members -/

namespace Json

/-- The value of the last member of a name, if there is one. -/
inductive LastUnder (name : Text) : List Member → Option Value → Prop
  | missing {members : List Member} (h : ∀ m ∈ members, m.1 ≠ name) :
    LastUnder name members none
  | last {before after : List Member} {value : Value} (hafter : ∀ m ∈ after, m.1 ≠ name) :
    LastUnder name (before ++ (name, value) :: after) (some value)

variable {members : List Member} {name : Text}

theorem lookup_eq_iff {found : Option Value} :
    lookup members name = found ↔ LastUnder name members found := by
  constructor
  · rintro rfl
    rw [lookup]
    rcases hfind : members.reverse.find? fun m => m.1 = name with _ | ⟨key, value⟩
    · rw [hfind]
      refine .missing fun m hm => ?_
      simpa using List.find?_eq_none.1 hfind m (List.mem_reverse.2 hm)
    · obtain ⟨hkey, after, before, hmembers, hafter⟩ := List.find?_eq_some_iff_append.1 hfind
      obtain rfl : key = name := of_decide_eq_true hkey
      rw [hfind]
      rw [List.reverse_eq_iff, List.reverse_append, List.reverse_cons, List.append_assoc,
        List.singleton_append] at hmembers
      rw [hmembers]
      exact .last fun m hm => by simpa using hafter m (List.mem_reverse.1 hm)
  · intro h
    cases h with
    | missing h =>
      rw [lookup, List.find?_eq_none.2 fun m hm => by simpa using h m (List.mem_reverse.1 hm)]
      rfl
    | @last before after value hafter =>
      have hfind : (before ++ (name, value) :: after).reverse.find? (fun m => m.1 = name) =
          some (name, value) := by
        refine List.find?_eq_some_iff_append.2
          ⟨decide_eq_true rfl, after.reverse, before.reverse, by simp, fun m hm => ?_⟩
        simpa using hafter m (List.mem_reverse.1 hm)
      rw [lookup, hfind]
      rfl

end Json

variable {members : List Json.Member} {name : Text} {given : Option Text} {due : Datum}

/-- A text or nothing is given under a name. -/
def GivesText (members : List Json.Member) (name : Text) (given : Option Text) : Prop :=
  Json.LastUnder name members (given.map .text)

/-- A due date is given: nothing, null or a text. -/
inductive GivesDue (members : List Json.Member) : Datum → Prop
  | missing (h : Json.LastUnder "due_at" members none) : GivesDue members .absent
  | null (h : Json.LastUnder "due_at" members (some .null)) : GivesDue members .null
  | text {raw : Text} (h : Json.LastUnder "due_at" members (some (.text raw))) :
    GivesDue members (.text raw)

theorem optionalText?_eq_some_iff :
    optionalText? members name = some given ↔ GivesText members name given := by
  rw [GivesText, ← Json.lookup_eq_iff, optionalText?, Json.optional?.eq_def]
  rcases Json.lookup members name with _ | value
  · cases given <;> simp
  · cases value <;> cases given <;> simp [Json.Value.text?]

theorem dueOfBody?_eq_some_iff : dueOfBody? members = some due ↔ GivesDue members due := by
  rw [dueOfBody?.eq_def]
  constructor
  · intro h
    split at h
    · next hlookup =>
      cases h
      exact .missing (Json.lookup_eq_iff.1 hlookup)
    · next hlookup =>
      cases h
      exact .null (Json.lookup_eq_iff.1 hlookup)
    · next value _ hlookup =>
      cases value with
      | text raw =>
        cases h
        exact .text (Json.lookup_eq_iff.1 hlookup)
      | _ => cases h
  · intro h
    cases h with
    | missing h => rw [Json.lookup_eq_iff.2 h]
    | null h => rw [Json.lookup_eq_iff.2 h]
    | text h => rw [Json.lookup_eq_iff.2 h]; rfl

/-! ### Bodies -/

/-- The body of a request writes an object of some members. -/
def Http.Request.WritesObject (r : Request) (members : List Json.Member) : Prop :=
  Json.Spelled (Json.Value.object members).tokens (Utf8.decodeBody r.bytes)

variable {r : Request}

theorem bodyMembers?_eq_some_iff : bodyMembers? r.bytes = some members ↔
    r.WritesObject members := by
  rw [Request.WritesObject, ← Json.parse?_eq_some_iff, bodyMembers?, Json.ofBody?,
    Option.bind_eq_some_iff]
  constructor
  · rintro ⟨value, hvalue, hmembers⟩
    cases value <;> cases hmembers
    exact hvalue
  · exact fun h => ⟨_, h, rfl⟩

/-- A request asks for an action by what is written in its body. -/
inductive Http.Request.Asks (r : Request) : Action → Prop
  /-- What a new todo is not given is an empty title. -/
  | create {members : List Json.Member} {title description : Option Text} {due : Datum}
    (hroute : Route.Registered r.path .todos) (hmethod : r.method = "POST")
    (hbody : r.WritesObject members) (htitle : GivesText members "title" title)
    (hdescription : GivesText members "description" description)
    (hdue : GivesDue members due) :
    Asks r (.create ⟨.text (title.getD ""), .ofText? description, due⟩)
  | update {id : Text} {members : List Json.Member} {title description : Option Text}
    {due : Datum} (hroute : Route.Registered r.path (.todo id)) (hmethod : r.method = "PUT")
    (hbody : r.WritesObject members) (htitle : GivesText members "title" title)
    (hdescription : GivesText members "description" description)
    (hdue : GivesDue members due) :
    Asks r (.update (.text id) ⟨.ofText? title, .ofText? description, due⟩)
  | updateStatus {id : Text} {members : List Json.Member} {status : Option Text}
    (hroute : Route.Registered r.path (.todoStatus id)) (hmethod : r.method = "PATCH")
    (hbody : r.WritesObject members) (hstatus : GivesText members "status" status) :
    Asks r (.updateStatus (.text id) (.text (status.getD "")))

/-- A request that takes a body. -/
inductive Http.Request.TakesBody (r : Request) : Prop
  | create (hroute : Route.Registered r.path .todos) (hmethod : r.method = "POST")
  | update {id : Text} (hroute : Route.Registered r.path (.todo id))
    (hmethod : r.method = "PUT")
  | updateStatus {id : Text} (hroute : Route.Registered r.path (.todoStatus id))
    (hmethod : r.method = "PATCH")

theorem TodoInput.ofBody?_eq_some_iff {input : TodoInput} :
    ofBody? r.bytes = some input ↔ ∃ members, r.WritesObject members ∧
      ∃ title, GivesText members "title" title ∧
      ∃ description, GivesText members "description" description ∧
      ∃ due, GivesDue members due ∧
        ⟨.text (title.getD ""), .ofText? description, due⟩ = input := by
  simp only [ofBody?, Option.bind_eq_bind, Option.bind_eq_some_iff, Option.some_inj,
    bodyMembers?_eq_some_iff, optionalText?_eq_some_iff, dueOfBody?_eq_some_iff]

theorem TodoChanges.ofBody?_eq_some_iff {changes : TodoChanges} :
    ofBody? r.bytes = some changes ↔ ∃ members, r.WritesObject members ∧
      ∃ title, GivesText members "title" title ∧
      ∃ description, GivesText members "description" description ∧
      ∃ due, GivesDue members due ∧
        ⟨.ofText? title, .ofText? description, due⟩ = changes := by
  simp only [ofBody?, Option.bind_eq_bind, Option.bind_eq_some_iff, Option.some_inj,
    bodyMembers?_eq_some_iff, optionalText?_eq_some_iff, dueOfBody?_eq_some_iff]

theorem statusOfBody?_eq_some_iff {status : Datum} :
    statusOfBody? r.bytes = some status ↔ ∃ members, r.WritesObject members ∧
      ∃ given, GivesText members "status" given ∧ .text (given.getD "") = status := by
  simp only [statusOfBody?, Option.bind_eq_bind, Option.bind_eq_some_iff, Option.some_inj,
    bodyMembers?_eq_some_iff, optionalText?_eq_some_iff]

/-! ### What is asked -/

namespace Route

variable {a : Action} {response : Response} {id : Text}

theorem asked_of_create (hroute : Registered r.path .todos) (hmethod : r.method = "POST") :
    asked r = Todos.creation r := by
  simp [asked, ofPath?_eq_some_iff.2 hroute, Request.routedMethod, hmethod]

theorem asked_of_update (hroute : Registered r.path (.todo id)) (hmethod : r.method = "PUT") :
    asked r = Todos.change id r := by
  simp [asked, ofPath?_eq_some_iff.2 hroute, Request.routedMethod, hmethod]

theorem asked_of_updateStatus (hroute : Registered r.path (.todoStatus id))
    (hmethod : r.method = "PATCH") :
    asked r = Todos.statusChange id r := by
  simp [asked, ofPath?_eq_some_iff.2 hroute, Request.routedMethod, hmethod]

/-- What is asked for is written in the body. -/
theorem asks_of_asked (h : r.TakesBody) (hasked : asked r = .ok a) : r.Asks a := by
  cases h with
  | create hroute hmethod =>
    rw [asked_of_create hroute hmethod, Todos.creation] at hasked
    rcases hinput : TodoInput.ofBody? r.bytes with _ | input <;> rw [hinput] at hasked <;>
      cases hasked
    obtain ⟨members, hbody, title, htitle, description, hdescription, due, hdue, rfl⟩ :=
      TodoInput.ofBody?_eq_some_iff.1 hinput
    exact .create hroute hmethod hbody htitle hdescription hdue
  | update hroute hmethod =>
    rw [asked_of_update hroute hmethod, Todos.change] at hasked
    rcases hchanges : TodoChanges.ofBody? r.bytes with _ | changes <;>
      rw [hchanges] at hasked <;>
      cases hasked
    obtain ⟨members, hbody, title, htitle, description, hdescription, due, hdue, rfl⟩ :=
      TodoChanges.ofBody?_eq_some_iff.1 hchanges
    exact .update hroute hmethod hbody htitle hdescription hdue
  | updateStatus hroute hmethod =>
    rw [asked_of_updateStatus hroute hmethod, Todos.statusChange] at hasked
    rcases hstatus : statusOfBody? r.bytes with _ | status <;> rw [hstatus] at hasked <;>
      cases hasked
    obtain ⟨members, hbody, status, hgiven, rfl⟩ := statusOfBody?_eq_some_iff.1 hstatus
    exact .updateStatus hroute hmethod hbody hgiven

/-- What is written in the body is asked for. -/
theorem asked_of_asks (h : r.Asks a) : asked r = .ok a := by
  cases h with
  | create hroute hmethod hbody htitle hdescription hdue =>
    rw [asked_of_create hroute hmethod, Todos.creation, TodoInput.ofBody?_eq_some_iff.2
      ⟨_, hbody, _, htitle, _, hdescription, _, hdue, rfl⟩]
  | update hroute hmethod hbody htitle hdescription hdue =>
    rw [asked_of_update hroute hmethod, Todos.change, TodoChanges.ofBody?_eq_some_iff.2
      ⟨_, hbody, _, htitle, _, hdescription, _, hdue, rfl⟩]
  | updateStatus hroute hmethod hbody hgiven =>
    rw [asked_of_updateStatus hroute hmethod, Todos.statusChange,
      statusOfBody?_eq_some_iff.2 ⟨_, hbody, _, hgiven, rfl⟩]

/-- The only other answer is that the body cannot be read. -/
theorem asked_eq_error (h : r.TakesBody) (herror : asked r = .error response) :
    response = Todos.invalidBody := by
  cases h with
  | create hroute hmethod =>
    rw [asked_of_create hroute hmethod, Todos.creation] at herror
    split at herror <;> cases herror
    rfl
  | update hroute hmethod =>
    rw [asked_of_update hroute hmethod, Todos.change] at herror
    split at herror <;> cases herror
    rfl
  | updateStatus hroute hmethod =>
    rw [asked_of_updateStatus hroute hmethod, Todos.statusChange] at herror
    split at herror <;> cases herror
    rfl

end Route

/-- What is asked for in a body is the only thing that is. -/
theorem Http.Request.Asks.unique {a a' : Action} (h : r.Asks a) (h' : r.Asks a') : a' = a :=
  Except.ok.inj ((Route.asked_of_asks h').symm.trans (Route.asked_of_asks h))

/-- A request that takes a body comes to be screened, if it is not too large. -/
theorem Http.Request.TakesBody.isGuarded (h : r.TakesBody)
    (hsmall : BodyLimit.exceeds BodyLimit.defaultMax r = false) : r.IsGuarded := by
  cases h with
  | create hroute => exact ⟨hsmall, hroute.not_isExempt nofun⟩
  | update hroute => exact ⟨hsmall, hroute.not_isExempt nofun⟩
  | updateStatus hroute => exact ⟨hsmall, hroute.not_isExempt nofun⟩

theorem Http.Request.TakesBody.method_ne_head (h : r.TakesBody) : r.method ≠ "HEAD" := by
  cases h with
  | create _ hmethod => rw [hmethod]; decide
  | update _ hmethod => rw [hmethod]; decide
  | updateStatus _ hmethod => rw [hmethod]; decide

end TodoServer
