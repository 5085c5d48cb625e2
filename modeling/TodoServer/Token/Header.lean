/-
The compact form of a token and its header.

A token is three parts with points between them: a header, a payload and a signature. The
header is read before anything is verified, to pin the algorithm and to learn which key to
verify with. The reasons not to accept a token are told apart for logs and tests only; a client
gets one and the same answer for all.

* `Token.Failure` — why a token is not accepted;
* `Token.Parts.ofToken?` — the three parts;
* `Token.headerMembers?` — the members of the object that a header part writes;
* `Token.Header.read` — the header, or the first reason why it is not acceptable.
-/
import TodoServer.Text.Bytes
import TodoServer.Json.Document

namespace TodoServer.Token

/-- Why a token is not accepted. -/
inductive Failure
  | malformed
  | algorithmNotAllowed
  | missingKeyId
  | unknownKey
  | invalidSignature
  | invalidClaims
  | issuerMismatch
  | audienceMismatch
  | expired
  | notYetValid
  | missingSubject
deriving DecidableEq, Repr

def Failure.name : Failure → String
  | .malformed => "malformed"
  | .algorithmNotAllowed => "algorithm_not_allowed"
  | .missingKeyId => "missing_key_id"
  | .unknownKey => "unknown_key"
  | .invalidSignature => "invalid_signature"
  | .invalidClaims => "invalid_claims"
  | .issuerMismatch => "issuer_mismatch"
  | .audienceMismatch => "audience_mismatch"
  | .expired => "expired"
  | .notYetValid => "not_yet_valid"
  | .missingSubject => "missing_subject"

/-- The three parts of a token as they are written. -/
structure Parts where
  header : Text
  payload : Text
  signature : Text
deriving DecidableEq, Repr

/-- The unit of the point between parts. -/
def point : UInt16 := 0x2E

/-- The parts of a token. -/
def Parts.ofToken? (token : Text) : Option Parts :=
  match token.units.splitOn point with
  | [header, payload, signature] => some ⟨⟨header⟩, ⟨payload⟩, ⟨signature⟩⟩
  | _ => none

/-- The members of the object that a header part writes. -/
def headerMembers? (part : Text) : Option (List Json.Member) :=
  if part.isEmpty then none else (Json.ofBytes? (Base64.decode part)).bind Json.Value.members?

/-- The only algorithm that signatures are accepted from. -/
def allowedAlgorithm : Text := "RS256"

/-- What an acceptable header says. -/
structure Header where
  keyId : Text
  algorithm : Text
deriving DecidableEq, Repr

/-- The header of a token. -/
def Header.read (token : Text) : Except Failure Header :=
  match (Parts.ofToken? token).bind fun parts => headerMembers? parts.header with
  | none => .error .malformed
  | some members =>
    if (Json.lookup members "alg").bind Json.Value.text? ≠ some allowedAlgorithm then
      .error .algorithmNotAllowed
    else
      match (Json.lookup members "kid").bind Json.Value.text? with
      | none => .error .missingKeyId
      | some keyId =>
        if keyId = "" then .error .missingKeyId else .ok ⟨keyId, allowedAlgorithm⟩

end TodoServer.Token
