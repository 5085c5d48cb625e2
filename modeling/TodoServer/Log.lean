/-
Structured log entries and the lines they are written as.

An entry has a level and named values. A line is one JSON object, its level, time and service
first and the entry's values after them, so a value named like one of these three takes its
place; it ends in a newline, and texts inside it are escaped, so no text can end a line or
begin another.

* `Log.Level` — the levels, most severe first;
* `Log.Entry` — what a component has to say;
* `Log.write` — the line of an entry, none when its level is below the threshold, and a fault
  when the levels cannot be compared or the clock shows no time to write on the line.
-/
import TodoServer.Fault
import TodoServer.Json.Document

namespace TodoServer.Log

/-- The levels of entries. -/
inductive Level
  | error
  | warn
  | info
  | debug
  /-- A level given in another way. If it is not worded like one of known severity, no
  comparison holds it back. -/
  | other (name : Datum)
deriving DecidableEq

namespace Level

/-- The name of a level. -/
def name : Level → Datum
  | .error => "error"
  | .warn => "warn"
  | .info => "info"
  | .debug => "debug"
  | .other name => name

def all : List Level := [.error, .warn, .info, .debug]

/-- The level of a name, if its severity is known. -/
def ofName? (name : Text) : Option Level := all.find? fun level => level.name = name

def ofName (name : Datum) : Level := (name.text?.bind ofName?).getD (.other name)

/-- How far the level of a name is from the most severe. -/
def severity? (name : Text) : Option Nat := all.findIdx? fun level => level.name = .text name

/-- How far a level is from the most severe, by the words of its name. -/
def rank? : Level → Option Nat
  | .error => some 0
  | .warn => some 1
  | .info => some 2
  | .debug => some 3
  | .other name => severity? name.words

/-- Whether a level can be compared with others, which is done by the words of its name. -/
def isComparable (level : Level) : Bool := level.name.hasWords

/-- Whether entries of a level are written under a threshold. -/
def passes (level threshold : Level) : Bool :=
  match level.rank?, threshold.rank? with
  | some rank, some limit => rank ≤ limit
  | _, _ => true

end Level

/-- What a component has to say: a level and named values. -/
structure Entry where
  level : Level
  data : List Json.Member

/-- What the object that a line writes is made of, in the order that values are put into it. -/
def Entry.values (service : Datum) (time : Text) (entry : Entry) : List (Text × Datum) :=
  ("level", entry.level.name) :: ("timestamp", .text time) :: ("service", service) ::
    entry.data.map fun m => (m.1, .json m.2)

/-- The members of the object that a line writes. -/
def Entry.members (service : Datum) (time : Text) (entry : Entry) : List Json.Member :=
  (Json.memberOrder (entry.values service time)).flatMap fun m => m.2.member m.1

def Entry.line (service : Datum) (time : Text) (entry : Entry) : String :=
  (Json.Value.object (entry.members service time)).ordered.render ++ "\n"

/-- What is written for an entry under a threshold. -/
def write (service : Datum) (threshold : Level) (now : Date) (entry : Entry) :
    Except Fault (Option String) :=
  if !entry.level.isComparable || !threshold.isComparable then .error .noWords
  else if entry.level.passes threshold then
    match now.iso? with
    | some time => .ok (some (entry.line service time))
    | none => .error .invalidTime
  else .ok none

end TodoServer.Log
