/-
Lines of a log that cannot be forged.

A line is the document of an object: the level, the time and the service, and over these what a
component has to say. No text in it can end the line, since a control character is escaped
wherever it comes from, and none can say what it does not say as a text, since the line is read
back as a record of what was put. So a log that has been written by any calls splits into the
lines of those that are severe enough, one each and in their order, whatever texts they were
given.

* `Log.Call` — a component asks for something to be logged;
* `Log.Entry.lookup_members` — the members of a line are the last values of the entry under
  their names;
* `Log.Call.Tells`, `Log.Call.exists_line` — the line of a call;
* `Log.lines_tell` — the lines of all calls.
-/
import TodoServer.Proofs.Calendar.RoundTrip
import TodoServer.Proofs.Json.Plain
import TodoServer.Proofs.Server.RequestLog

namespace TodoServer

/-! ### The members of a line -/

section members

variable {members : List (Text × Datum)} {name : Text} {value : Json.Value}

theorem mem_flatMap_member : (name, value) ∈ members.flatMap (fun m => m.2.member m.1) ↔
    ∃ d, (name, d) ∈ members ∧ d.value? = some value := by
  rw [List.mem_flatMap]
  constructor
  · rintro ⟨⟨key, d⟩, hd, hvalue⟩
    obtain ⟨v, hv, heq⟩ := Option.map_eq_some_iff.1 (Option.mem_toList.1 hvalue)
    cases heq
    exact ⟨d, hd, hv⟩
  · rintro ⟨d, hd, hvalue⟩
    exact ⟨_, hd, Option.mem_toList.2 (Option.map_eq_some_iff.2 ⟨value, hvalue, rfl⟩)⟩

/-- Each value has one member or none. -/
theorem sublist_flatMap_member (members : List (Text × Datum)) :
    ((members.flatMap fun m => m.2.member m.1).map (·.1)).Sublist (members.map (·.1)) := by
  induction members with
  | nil => exact .slnil
  | cons m rest ih =>
    rw [List.flatMap_cons, List.map_append, List.map_cons, Datum.member]
    cases m.2.value? with
    | none => exact ih.cons m.1
    | some value => exact ih.cons_cons m.1

end members

namespace Log

theorem Entry.mem_members {service : Datum} {time name : Text} {entry : Entry}
    {value : Json.Value} : (name, value) ∈ entry.members service time ↔
    ∃ d, Json.held (entry.values service time) name = some d ∧ d.value? = some value := by
  simp only [members, mem_flatMap_member, Json.mem_memberOrder]

/-- What a line says under a name is the last value of the entry under it. -/
theorem Entry.lookup_members (service : Datum) (time : Text) (entry : Entry) (name : Text) :
    Json.lookup (entry.members service time) name =
      (Json.held (entry.values service time) name).bind Datum.value? := by
  have hnodup : ((entry.members service time).map (·.1)).Nodup :=
    (sublist_flatMap_member _).nodup (Json.nodup_memberOrder _)
  refine Option.ext fun value => ?_
  rw [Json.lookup_eq_held, Json.held_eq_some_iff hnodup, mem_members, Option.bind_eq_some_iff]

/-! ### Calls -/

/-- What a component asks to be logged at a time: a level of known severity, and data. -/
structure Call where
  level : Level
  known : level ∈ Level.all := by decide
  millis : Int
  data : List Json.Member

namespace Call

/-- The entry of a call. -/
def entry (call : Call) : Entry := ⟨call.level, call.data⟩

/-- A call is no less severe than a threshold. -/
def isSevere (threshold : Level) (call : Call) : Bool :=
  Level.all.idxOf call.level ≤ Level.all.idxOf threshold

/-- What is written for a call under a threshold, or the fault that it fails with. -/
def written (service : Text) (threshold : Level) (call : Call) :
    Except Fault (Option String) :=
  Log.write service threshold (.valid call.millis) call.entry

/-- What a line has to say of a call: the level, the time and the service, and the data over
these. -/
def said (service : Text) (call : Call) : List Json.Member :=
  ("level", .text call.level.name.words) :: ("timestamp", .text (Date.wireText call.millis)) ::
    ("service", .text service) :: call.data

/-- The data of a call are plain values. -/
def IsPlain (call : Call) : Prop := ∀ m ∈ call.data, m.2.IsPlain

/-- A text without control characters that is read as an object: a record of what is to be said
of a call. -/
structure Tells (service : Text) (call : Call) (text : List Char) : Prop where
  printable : ∀ c ∈ text, Json.isPrintable c = true
  reads : ∃ members, Json.parse? text = some (.object members) ∧
    (Json.Value.object (call.said service)).Recorded (.object members)

end Call

variable {service : Text} {threshold : Level} {call : Call}

/-- A level is the one that is given by its name. -/
theorem Level.ofName_name : ∀ level ∈ all, ofName level.name = level := by
  decide +kernel

theorem Level.name_eq_text : ∀ level ∈ all, level.name = .text level.name.words := by
  decide +kernel

/-- A call is written if it is severe enough. -/
theorem Call.written_eq (service : Text) (hthreshold : threshold ∈ Level.all) (call : Call) :
    call.written service threshold =
      .ok (if call.isSevere threshold then
        some (call.entry.line service (Date.wireText call.millis)) else none) := by
  rw [written, @write_eq service threshold _ call.entry _ rfl call.known hthreshold, isSevere]
  simp only [decide_eq_true_eq]
  rfl

/-- What is put into the object of a line. -/
theorem Call.values_entry (service : Text) (call : Call) :
    call.entry.values service (Date.wireText call.millis) =
      (call.said service).map fun m => (m.1, .json m.2) := by
  have hlevel : call.entry.level.name = .text call.level.name.words :=
    Level.name_eq_text call.level call.known
  have hvalues : call.entry.values service (Date.wireText call.millis) =
      (("level" : Text), call.entry.level.name) ::
        (call.said service).tail.map fun m => (m.1, .json m.2) := rfl
  rw [hvalues, hlevel]
  rfl

/-- The members of a line are what is said of a call. -/
theorem Call.lookup_members (service : Text) (call : Call) (name : Text) :
    Json.lookup (call.entry.members service (Date.wireText call.millis)) name =
      Json.lookup (call.said service) name := by
  rw [Entry.lookup_members, values_entry, Json.held_map, Json.lookup_eq_held]
  cases Json.held (call.said service) name <;> rfl

theorem Call.IsPlain.said (h : call.IsPlain) : ∀ m ∈ call.said service, m.2.IsPlain :=
  List.forall_mem_cons.2 ⟨.text _, List.forall_mem_cons.2 ⟨.text _,
    List.forall_mem_cons.2 ⟨.text _, h⟩⟩⟩

theorem Call.IsPlain.members (service : Text) (h : call.IsPlain) :
    (Json.Value.object (call.entry.members service (Date.wireText call.millis))).IsPlain := by
  refine .object fun m hm => ?_
  obtain ⟨d, hd, hvalue⟩ := Entry.mem_members.1 hm
  rw [values_entry, Json.held_map] at hd
  obtain ⟨value, hheld, rfl⟩ := Option.map_eq_some_iff.1 hd
  cases hvalue
  exact h.said _ (Json.mem_of_held hheld)

/-- The line of a call whose data are plain values tells of the call. -/
theorem Call.exists_line (service : Text) (h : call.IsPlain) : ∃ text : List Char,
    call.entry.line service (Date.wireText call.millis) = String.ofList (text ++ ['\n']) ∧
      call.Tells service text := by
  obtain ⟨hprintable, record, hparse, hrecorded⟩ := (h.members service).document
  refine ⟨_, ?_, hprintable, ?_⟩
  · rw [String.ofList_append]
    rfl
  · cases hrecorded with
    | object hnames hmembers =>
      refine ⟨_, hparse, .object hnames fun name => ?_⟩
      rw [← lookup_members]
      exact hmembers name

/-- No line of a call is two lines. -/
theorem Call.Tells.newline_not_mem {text : List Char} (h : call.Tells service text) :
    '\n' ∉ text :=
  fun hmem => absurd (h.printable '\n' hmem) (by decide)

/-! ### The log -/

/-- What is written for calls splits into the lines of those that are severe enough, in their
order. -/
theorem exists_lines (service : Text) (hthreshold : threshold ∈ Level.all) {calls : List Call}
    (h : ∀ call ∈ calls, call.IsPlain) : ∃ lines texts,
      calls.mapM (·.written service threshold) = .ok lines ∧
        ((lines.filterMap id).flatMap String.toList).splitOn '\n' = texts ++ [[]] ∧
        List.Forall₂ (·.Tells service) (calls.filter (·.isSevere threshold)) texts := by
  induction calls with
  | nil => exact ⟨[], [], rfl, rfl, .nil⟩
  | cons call rest ih =>
    obtain ⟨hcall, hrest⟩ := List.forall_mem_cons.1 h
    obtain ⟨lines, texts, hlines, hsplit, htell⟩ := ih hrest
    have hwritten := call.written_eq service hthreshold
    by_cases hlevel : call.isSevere threshold = true
    · obtain ⟨text, hline, htells⟩ := call.exists_line service hcall
      rw [if_pos hlevel, hline] at hwritten
      refine ⟨some (String.ofList (text ++ ['\n'])) :: lines, text :: texts, ?_, ?_, ?_⟩
      · rw [List.mapM_cons, hwritten, hlines]
        rfl
      · -- the first newline of the log is the one that ends the line
        have hnewline : ∀ c ∈ text, (c == '\n') = false := fun c hc =>
          beq_eq_false_iff_ne.2 fun heq => htells.newline_not_mem (heq ▸ hc)
        have hlines : ((some (String.ofList (text ++ ['\n'])) :: lines).filterMap id).flatMap
            String.toList = text ++ '\n' :: (lines.filterMap id).flatMap String.toList := by
          rw [List.filterMap_cons_some (f := id) rfl, List.flatMap_cons, String.toList_ofList,
            List.append_assoc, List.singleton_append]
        rw [hlines, List.splitOn,
          List.splitOnP_append_cons_of_forall_mem hnewline _ (beq_self_eq_true _)]
        exact congrArg (text :: ·) hsplit
      · rw [List.filter_cons_of_pos hlevel]
        exact .cons htells htell
    · rw [if_neg hlevel] at hwritten
      refine ⟨none :: lines, texts, ?_, hsplit, ?_⟩
      · rw [List.mapM_cons, hwritten, hlines]
        rfl
      · rw [List.filter_cons_of_neg hlevel]
        exact htell

/-- Log lines cannot be forged or split. Levels are given by their names. Whatever the service
is called and whatever texts, truth values, null, numbers and nestings of these are to be
logged, nothing is written for what is less severe than the threshold; for anything else there
is written one line, which ends in its only newline, has no other control character, and says
as a document what is to be said: the level, the time and the service, and the data over these.
So a log splits at its newlines into what its calls said, one line for each. -/
theorem lines_tell (service : Text) {threshold : Level} (hthreshold : threshold ∈ Level.all) :
    (∀ level ∈ Level.all, Level.ofName level.name = level) ∧
    (∀ call : Call,
      (call.isSevere threshold = false → call.written service threshold = .ok none) ∧
      (call.isSevere threshold = true → call.IsPlain → ∃ text,
        call.written service threshold = .ok (some (String.ofList (text ++ ['\n']))) ∧
          call.Tells service text)) ∧
    ∀ calls : List Call, (∀ call ∈ calls, call.IsPlain) → ∃ lines texts,
      calls.mapM (·.written service threshold) = .ok lines ∧
        ((lines.filterMap id).flatMap String.toList).splitOn '\n' = texts ++ [[]] ∧
        List.Forall₂ (·.Tells service) (calls.filter (·.isSevere threshold)) texts := by
  refine ⟨Level.ofName_name, fun call => ⟨fun hless => ?_, fun hlevel hplain => ?_⟩,
    fun calls hplain => exists_lines service hthreshold hplain⟩
  · rw [call.written_eq service hthreshold, if_neg (Bool.eq_false_iff.1 hless)]
  · obtain ⟨text, hline, htells⟩ := call.exists_line service hplain
    exact ⟨text, by rw [call.written_eq service hthreshold, if_pos hlevel, hline], htells⟩

/-- An error whose texts try to end the line and to begin another, with names that come in
another order and one that takes the place of the level. -/
def hostile : Call where
  level := .error
  millis := 1772355600123
  data :=
    [("level", .text "debug"), ("10", .ofInt (-12)),
      ("2", .array [.null, .bool true, .text ⟨[0xD800]⟩]),
      ("message", .text "\n\x7b\"level\":\"error\"\x7d\n\"\\\x00"),
      ("nested", .object [("b", .text "\r"), ("1", .ofInt 0), ("b", .text "\t")])]

/-- A call that says nothing of importance. -/
def quiet : Call where
  level := .debug
  millis := 0
  data := []

/-- Nothing of this splits the line or is lost, and calls that are not severe enough leave no
line. -/
theorem lines_tell_hostile : hostile.IsPlain ∧ quiet.IsPlain ∧
    quiet.written "a\"b\n" .info = .ok none ∧
    ∃ lines text, [quiet, hostile, quiet].mapM (·.written "a\"b\n" .info) = .ok lines ∧
      ((lines.filterMap id).flatMap String.toList).splitOn '\n' = [text, []] ∧
      hostile.Tells "a\"b\n" text := by
  have hquiet : quiet.IsPlain := nofun
  have hitems : ∀ item ∈ [Json.Value.null, .bool true, .text ⟨[0xD800]⟩], item.IsPlain :=
    List.forall_mem_cons.2 ⟨.null, List.forall_mem_cons.2
      ⟨.bool true, List.forall_mem_singleton.2 (.text _)⟩⟩
  have hnested : ∀ m ∈ [(("b" : Text), Json.Value.text "\r"), ("1", .ofInt 0),
      ("b", .text "\t")], m.2.IsPlain :=
    List.forall_mem_cons.2 ⟨.text _, List.forall_mem_cons.2
      ⟨Json.Value.isPlain_ofInt (by decide), List.forall_mem_singleton.2 (.text _)⟩⟩
  have hhostile : hostile.IsPlain :=
    List.forall_mem_cons.2 ⟨.text _,
      List.forall_mem_cons.2 ⟨Json.Value.isPlain_ofInt (by decide),
      List.forall_mem_cons.2 ⟨.array hitems, List.forall_mem_cons.2
        ⟨.text _, List.forall_mem_singleton.2 (.object hnested)⟩⟩⟩⟩
  obtain ⟨-, heach, hall⟩ := @lines_tell "a\"b\n" .info (by decide)
  have hplain : ∀ call ∈ [quiet, hostile, quiet], call.IsPlain := by
    simp [hquiet, hhostile]
  obtain ⟨lines, texts, hlines, hsplit, htell⟩ := hall [quiet, hostile, quiet] hplain
  have hsevere : [quiet, hostile, quiet].filter (·.isSevere .info) = [hostile] := rfl
  rw [hsevere] at htell
  cases htell with
  | @cons _ text _ _ htells hrest =>
    cases hrest
    exact ⟨hhostile, hquiet, (heach quiet).1 (by decide), lines, text, hlines, hsplit, htells⟩

end Log

end TodoServer
