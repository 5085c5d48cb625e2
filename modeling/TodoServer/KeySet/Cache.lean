/-
Signing keys, the documents that list them, and the cache of these.

A key-set document is an object with an array of entries under `keys`. An entry is usable when
it is an object of key type `RSA` with a non-empty key id, modulus and exponent; every other
entry is passed over. Of the usable entries with one key id the last counts.

Look-ups are answered from a snapshot, the keys of one document, which is replaced as a whole
by every successful refresh. A look-up that misses may refresh, once per cooldown, so that
tokens naming made-up keys cannot drive the traffic to the endpoint; look-ups that miss while a
refresh is under way wait for that one.

* `SigningKey.ofJson?` — the key of an entry;
* `Snapshot.ofEntries` — the keys that the entries of a document give, at most one to a key id.

Look-ups overlap, so what happens to one is split where it waits, and each part is a step of
its own on the state of the cache:

* `Cache.start` — a look-up starts: it is answered, refused, or waits, starting a fetch if none
  is under way;
* `Cache.arrive` — the fetch ends, well or not;
* `Cache.clear` — the end of the fetch has been dealt with, so a next one may start;
* `Cache.resume` — a waiting look-up is answered.

`Cache.getAll` runs look-ups that start together, and `Cache.get` a single one.
-/
import TodoServer.Log
import TodoServer.Crypto.Rsa

namespace TodoServer

/-! ### Keys -/

/-- A key that signs tokens, under the id that tokens name it by. -/
structure SigningKey where
  keyId : Text
  key : Rsa.Key
deriving DecidableEq, Repr

namespace SigningKey

/-- A non-empty text under a name. -/
def textUnder? (members : List Json.Member) (name : Text) : Option Text :=
  ((Json.lookup members name).bind Json.Value.text?).filter (· ≠ "")

/-- The key of a document's entry, if the entry is usable. -/
def ofJson? (entry : Json.Value) : Option SigningKey := do
  let members ← entry.members?
  let keyType ← textUnder? members "kty"
  let keyId ← textUnder? members "kid"
  let modulus ← textUnder? members "n"
  let exponent ← textUnder? members "e"
  if keyType = "RSA" then
    some ⟨keyId, Base64.decode modulus, Base64.decode exponent⟩
  else none

end SigningKey

/-- The keys of one document. -/
abbrev Snapshot := List SigningKey

namespace Snapshot

def get? (keys : Snapshot) (keyId : Text) : Option SigningKey :=
  keys.find? fun key => key.keyId = keyId

/-- The keys with one more, which takes the place of one with its id. -/
def insert (keys : Snapshot) (key : SigningKey) : Snapshot :=
  keys.filter (fun other => other.keyId ≠ key.keyId) ++ [key]

/-- The keys of the usable entries. -/
def ofEntries (entries : List Json.Value) : Snapshot :=
  (entries.filterMap SigningKey.ofJson?).foldl insert []

def size (keys : Snapshot) : Nat := keys.length

end Snapshot

/-! ### Fetches -/

/-- How a fetch of the key-set document ended. -/
inductive FetchOutcome
  /-- There was no answer: an error, or the wait was too long. -/
  | rejected (message : Text)
  /-- An answer with a status and a body. -/
  | answered (status : Nat) (body : List UInt8)
deriving DecidableEq, Repr

/-- Why a refresh failed. -/
inductive RefreshFailure
  | unreachable (message : Text)
  | badStatus (status : Nat)
  | notJson
  | noKeys
deriving DecidableEq, Repr

def RefreshFailure.message : RefreshFailure → Text
  | .unreachable message => "failed to fetch key set: " ++ message
  | .badStatus status => "key set endpoint returned status " ++ Text.ofString (toString status)
  | .notJson => "failed to decode key set: not a JSON document"
  | .noKeys => "failed to decode key set: missing keys array"

/-- Why a look-up failed. -/
inductive KeyFault
  /-- The key is not there and a refresh is not allowed or did not bring it. -/
  | notFound (keyId : Text)
  | refresh (failure : RefreshFailure)
deriving DecidableEq, Repr

def KeyFault.message : KeyFault → Text
  | .notFound keyId => "key with kid \"" ++ keyId ++ "\" not found in key set"
  | .refresh failure => failure.message

/-- The entries of the document that a fetch brought. -/
def FetchOutcome.entries : FetchOutcome → Except RefreshFailure (List Json.Value)
  | .rejected message => .error (.unreachable message)
  | .answered status body =>
    if status ≠ 200 then .error (.badStatus status)
    else match Json.ofBody? body with
      | none => .error .notJson
      | some document =>
        match (document.member? "keys").bind Json.Value.items? with
        | none => .error .noKeys
        | some entries => .ok entries

/-- What the cache knows, and whether a fetch is under way. -/
structure Cache where
  snapshot : Snapshot
  /-- When the last successful refresh ended. -/
  refreshedAt : Option Rat
  inFlight : Bool
deriving DecidableEq, Repr

namespace Cache

/-- The cache before the first look-up. -/
def empty : Cache := ⟨[], none, false⟩

/-- How long after a refresh a miss may start the next, unless set otherwise: five minutes. -/
def defaultCooldown : Number := .finite 300000

/-- Whether a miss may wait for a refresh: one is under way, none has succeeded yet, or the
last one is further back than the cooldown; how far is a number, so rounded as one. -/
def mayRefresh (cooldown : Number) (now : Rat) (c : Cache) : Bool :=
  c.inFlight ||
    match c.refreshedAt with
    | none => true
    | some time => cooldown.lt (.ofRat (now - time))

/-- How a look-up goes on from its start. -/
inductive Start
  | found (key : SigningKey)
  | refused
  /-- It waits for a fetch, and started it if none was under way. -/
  | waiting (started : Bool)
deriving DecidableEq, Repr

/-- A look-up starts. -/
def start (cooldown : Number) (now : Rat) (keyId : Text) (c : Cache) : Start × Cache :=
  match c.snapshot.get? keyId with
  | some key => (.found key, c)
  | none =>
    if c.mayRefresh cooldown now then (.waiting !c.inFlight, { c with inFlight := true })
    else (.refused, c)

/-- The fetch ends. Only a document with entries changes what the cache knows. -/
def arrive (now : Rat) (outcome : FetchOutcome) (c : Cache) :
    Except RefreshFailure Unit × Cache :=
  match outcome.entries with
  | .error failure => (.error failure, c)
  | .ok entries => (.ok (), { c with snapshot := .ofEntries entries, refreshedAt := some now })

/-- The end of the fetch has been dealt with. -/
def clear (c : Cache) : Cache := { c with inFlight := false }

/-- A look-up that waited is answered. -/
def resume (keyId : Text) (refreshed : Except RefreshFailure Unit) (c : Cache) :
    Except KeyFault SigningKey :=
  match refreshed with
  | .error failure => .error (.refresh failure)
  | .ok () =>
    match c.snapshot.get? keyId with
    | some key => .ok key
    | none => .error (.notFound keyId)

def refreshEntry (refreshed : Except RefreshFailure Unit) (c : Cache) : Log.Entry :=
  match refreshed with
  | .error failure =>
    ⟨.warn, [("event", .text "key_set_refresh_failed"), ("message", .text failure.message)]⟩
  | .ok () =>
    ⟨.info, [("event", .text "key_set_refreshed"), ("key_count", .ofInt c.snapshot.size)]⟩

/-! ### Look-ups that start together -/

/-- Look-ups start one after the other. -/
def startAll (cooldown : Number) (now : Rat) : List Text → Cache → List (Text × Start) × Cache
  | [], c => ([], c)
  | keyId :: rest, c =>
    let (start, c) := c.start cooldown now keyId
    let (others, c) := startAll cooldown now rest c
    ((keyId, start) :: others, c)

/-- The answer of a look-up by its start, given how the fetch ended and the cache after it. -/
def answer (refreshed : Except RefreshFailure Unit) (c : Cache) :
    Text × Start → Except KeyFault SigningKey
  | (_, .found key) => .ok key
  | (keyId, .refused) => .error (.notFound keyId)
  | (keyId, .waiting _) => c.resume keyId refreshed

/-- What came of look-ups: their answers in order, the cache after them, how many fetches they
started and what was logged. -/
structure Lookups where
  answers : List (Except KeyFault SigningKey)
  cache : Cache
  fetches : Nat
  entries : List Log.Entry

/-- Look-ups that start together. If one of them has to wait, the fetch ends with the outcome
given, and then all that wait are answered. -/
def getAll (cooldown : Number) (now : Rat) (outcome : FetchOutcome) (keyIds : List Text)
    (c : Cache) : Lookups :=
  let (starts, c) := startAll cooldown now keyIds c
  let fetches := starts.countP fun b => b.2 = .waiting true
  if c.inFlight then
    let (refreshed, c) := c.arrive now outcome
    ⟨starts.map (answer refreshed c.clear), c.clear, fetches, [refreshEntry refreshed c]⟩
  else ⟨starts.map (answer (.ok ()) c), c, fetches, []⟩

/-- What came of one look-up. -/
structure Lookup where
  answer : Except KeyFault SigningKey
  cache : Cache
  fetches : Nat
  entries : List Log.Entry

/-- One look-up. -/
def get (cooldown : Number) (now : Rat) (outcome : FetchOutcome) (keyId : Text) (c : Cache) :
    Lookup :=
  match c.start cooldown now keyId with
  | (.found key, c) => ⟨.ok key, c, 0, []⟩
  | (.refused, c) => ⟨.error (.notFound keyId), c, 0, []⟩
  | (.waiting started, c) =>
    let (refreshed, c) := c.arrive now outcome
    ⟨c.clear.resume keyId refreshed, c.clear, if started then 1 else 0,
      [refreshEntry refreshed c]⟩

end Cache

end TodoServer
