/-
Verification of access tokens.

The header is read, the key it names is looked up, the signature is verified under that key,
and then the claims are checked; the first failure decides. Only the look-up touches anything
outside the token, so it is given as a function on whatever state it has.

What is signed is the text of the first two parts with the point between them. A header may
list extensions that a verifier must understand under `crit`; the one understood here is `b64`,
which, when false, says that the payload part is the payload itself and not its base 64.

* `Token.payloadEncoded?` — whether the payload part is base 64, none where an extension is not
  understood or the list is not well formed;
* `Token.verifiedPayload?` — the payload of a token whose signature verifies under a key;
* `Token.judge` — signature and claims, once the key is known;
* `Token.verify` — the whole.
-/
import TodoServer.Crypto.Rsa
import TodoServer.KeySet.Cache
import TodoServer.Token.Claims

namespace TodoServer.Token

/-! ### Signatures -/

/-- The one extension understood. -/
def unencodedPayload : Text := "b64"

/-- Whether a list of extensions is not empty and holds nothing but the one understood. -/
def listsExtension (extensions : Json.Value) : Bool :=
  match extensions with
  | .array (first :: rest) => (first :: rest).all fun item =>
    item.text? = some unencodedPayload
  | _ => false

/-- Whether the payload part is base 64, as a header says. -/
def payloadEncoded? (members : List Json.Member) : Option Bool :=
  match Json.lookup members "crit" with
  | none => some true
  | some extensions =>
    if listsExtension extensions then
      match Json.lookup members unencodedPayload with
      | some (.bool encoded) => some encoded
      | _ => none
    else none

def signedBytes (parts : Parts) : List UInt8 :=
  Utf8.encode (parts.header ++ "." ++ parts.payload)

/-- The payload of a token whose signature verifies under a key. -/
def verifiedPayload? (token : Text) (key : Rsa.Key) : Option (List UInt8) := do
  let parts ← Parts.ofToken? token
  let members ← headerMembers? parts.header
  let encoded ← payloadEncoded? members
  if (Json.lookup members "alg").bind Json.Value.text? = some allowedAlgorithm ∧
      Rsa.verifies key (signedBytes parts) (Base64.decode parts.signature) then
    some (if encoded then Base64.decode parts.payload else Utf8.encode parts.payload)
  else none

/-! ### Verdicts -/

/-- Why a key source gave no key. -/
inductive SourceFault
  /-- The key set has no such key or could not be refreshed. -/
  | keySet (fault : KeyFault)
  /-- The source itself failed. -/
  | broken (message : Text)
deriving DecidableEq, Repr

/-- Where keys come from: a look-up by key id on a state of its own. -/
abbrev KeyLookup (σ : Type) := Text → σ → Except SourceFault SigningKey × σ

abbrev Verdict := Except Failure Verified

/-- The verdict on a token whose header named a key. -/
def judge (token : Text) (keyId : Text) (key : SigningKey) (expected : Expected) (now : Date) :
    Verdict :=
  match verifiedPayload? token key.key with
  | none => .error .invalidSignature
  | some payload => checkPayload payload expected keyId now

/-- The verdict on a token. A source that fails by itself gives no verdict but its failure. -/
def verify {σ : Type} (keys : KeyLookup σ) (token : Text) (expected : Expected) (now : Date)
    (s : σ) : Except Text Verdict × σ :=
  match Header.read token with
  | .error failure => (.ok (.error failure), s)
  | .ok header =>
    match keys header.keyId s with
    | (.error (.keySet _), s) => (.ok (.error .unknownKey), s)
    | (.error (.broken message), s) => (.error message, s)
    | (.ok key, s) => (.ok (judge token header.keyId key expected now), s)

end TodoServer.Token
