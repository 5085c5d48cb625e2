/-
The claims of a token.

Claims are read from the payload once its signature has been verified. Those that are used must
have their types wherever they are present; the checks then run in a fixed order against the
issuer and audience expected and the second of the clock, with no tolerance.

* `Token.Claims.ofPayload?` — the claims of a payload, none where one has the wrong type;
* `Token.Claims.check` — the verified claims, or the first reason against them.
-/
import TodoServer.Datum
import TodoServer.Json.Document
import TodoServer.Token.Header

namespace TodoServer.Token

/-- The claims of a payload. -/
structure Claims where
  subject : Option Text
  issuer : Option Text
  /-- The audiences named, one or several. -/
  audience : Option (List Text)
  expiry : Option Number
  notBefore : Option Number
  tokenUse : Option Text

def audiences? : Json.Value → Option (List Text)
  | .text name => some [name]
  | .array names => names.mapM Json.Value.text?
  | _ => none

namespace Claims

/-- The claims that an object's members make. -/
def ofMembers? (members : List Json.Member) : Option Claims := do
  let subject ← Json.optional? Json.Value.text? members "sub"
  let issuer ← Json.optional? Json.Value.text? members "iss"
  let audience ← Json.optional? audiences? members "aud"
  let expiry ← Json.optional? Json.Value.number? members "exp"
  let notBefore ← Json.optional? Json.Value.number? members "nbf"
  let tokenUse ← Json.optional? Json.Value.text? members "token_use"
  some ⟨subject, issuer, audience, expiry, notBefore, tokenUse⟩

/-- The claims of a payload. -/
def ofPayload? (payload : List UInt8) : Option Claims :=
  ((Json.ofBytes? payload).bind Json.Value.members?).bind ofMembers?

end Claims

/-- What a token is expected to say. -/
structure Expected where
  issuer : Datum
  audience : Datum
deriving DecidableEq

/-- What a verified token says. -/
structure Verified where
  subject : Text
  issuer : Datum
  /-- The audience that matched. -/
  audience : Datum
  expiresAt : Date
  tokenUse : Option Text
  keyId : Datum
deriving DecidableEq

/-- The second that a clock shows; an invalid time shows none. -/
def clockSecond? (now : Date) : Option Int := now.millis?.map (· / 1000)

def isExpired (expiry : Number) (now : Date) : Bool :=
  match clockSecond? now with
  | some second => expiry.le (.ofInt second)
  | none => false

def isEarly (start : Number) (now : Date) : Bool :=
  match clockSecond? now with
  | some second => (Number.ofInt second).lt start
  | none => false

def dateOfSeconds (seconds : Number) : Date :=
  match (seconds.scale 1000).truncate? with
  | some millis => .ofMillis millis
  | none => .invalid

/-- The claims checked, for a token signed with a key. -/
def Claims.check (c : Claims) (expected : Expected) (keyId : Datum) (now : Date) :
    Except Failure Verified :=
  if ¬ (Datum.ofText? c.issuer).same expected.issuer then .error .issuerMismatch
  else if ¬ (c.audience.getD []).any (Datum.text · |>.same expected.audience) then
    .error .audienceMismatch
  else
    match c.expiry with
    | none => .error .invalidClaims
    | some expiry =>
      if isExpired expiry now then .error .expired
      else if c.notBefore.any (isEarly · now) then .error .notYetValid
      else
        match c.subject with
        | none => .error .missingSubject
        | some subject =>
          if subject = "" then .error .missingSubject
          else .ok
            { subject, issuer := expected.issuer, audience := expected.audience,
              expiresAt := dateOfSeconds expiry, tokenUse := c.tokenUse, keyId }

/-- The claims of a verified payload checked. -/
def checkPayload (payload : List UInt8) (expected : Expected) (keyId : Datum) (now : Date) :
    Except Failure Verified :=
  match Claims.ofPayload? payload with
  | none => .error .invalidClaims
  | some claims => claims.check expected keyId now

end TodoServer.Token
