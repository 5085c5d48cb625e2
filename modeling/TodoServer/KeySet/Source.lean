/-
Where the gate gets its signing keys.

* `FetchOutcome.ofAnswer` — what comes of an answer of the endpoint;
* `KeySource` — the cache over the endpoint of the issuer, or a rule of its own;
* `KeySource.lookup` — a look-up, with its fetches and log entries added to the world.
-/
import TodoServer.World
import TodoServer.Http.Message
import TodoServer.Token.Verification

namespace TodoServer

/-- The status of an answer, 200 unless another is given. -/
def FetchOutcome.statusOf (status : Datum) : Int :=
  if status.isAbsent then 200 else Http.Response.statusOf status.number?

/-- What comes of an answer with a status, and a body or none. One that no response can be is
as good as none. -/
def FetchOutcome.ofAnswer (status : Datum) (body : Option (List UInt8)) : FetchOutcome :=
  let given := statusOf status
  if !status.hasWords then .rejected Fault.noWords.message
  else if !Http.Response.isStatus given then
    .rejected "init[\"status\"] must be in the range of 200 to 599, inclusive."
  else if body.isSome ∧ Http.Response.isBodiless given then
    .rejected ("Response constructor: Invalid response status code " ++ toString given)
  else .answered given.toNat (body.getD [])

/-- How the cache is set up. -/
structure KeySetSettings where
  url : Text
  cooldown : Number
  /-- Whether refreshes are logged. -/
  logged : Bool
deriving DecidableEq, Repr

/-- The cooldown that a setting stands for: five minutes if it is missing. One that counts as
no number is never over. -/
def KeySetSettings.cooldownOf (setting : Datum) : Number :=
  if setting.isMissing then Cache.defaultCooldown else setting.number?.getD (.infinite false)

/-- A source of signing keys. -/
inductive KeySource
  | cached (settings : KeySetSettings)
  | rule (answer : Text → Except Token.SourceFault SigningKey)

namespace KeySource

/-- What is sent with every fetch to say that a JSON document is wanted. -/
def acceptedForm : String := "application/json"

/-- Look-ups in the cache that start together. -/
def cachedAll (settings : KeySetSettings) (keyIds : List Text) (w : World) :
    List (Except KeyFault SigningKey) × World :=
  let l := w.cache.getAll settings.cooldown w.now w.endpoint keyIds
  (l.answers,
    { w with
      cache := l.cache
      fetches := w.fetches ++ List.replicate l.fetches ⟨settings.url, acceptedForm⟩
      journal := w.journal ++ if settings.logged then l.entries else [] })

def cachedOne (settings : KeySetSettings) (keyId : Text) (w : World) :
    Except KeyFault SigningKey × World :=
  let l := w.cache.get settings.cooldown w.now w.endpoint keyId
  (l.answer,
    { w with
      cache := l.cache
      fetches := w.fetches ++ List.replicate l.fetches ⟨settings.url, acceptedForm⟩
      journal := w.journal ++ if settings.logged then l.entries else [] })

/-- A look-up. -/
def lookup (source : KeySource) : Token.KeyLookup World := fun keyId w =>
  match source with
  | .rule answer => (answer keyId, w)
  | .cached settings =>
    match cachedOne settings keyId w with
    | (.ok key, w) => (.ok key, w)
    | (.error fault, w) => (.error (.keySet fault), w)

end KeySource

end TodoServer
