/-
Requests that cannot be made.

What a request is to consist of is checked before anything is sent. Its method and headers are
written in bytes; its address names a host, and no credentials; methods and the names of
headers are tokens; three methods are for proxies and are never sent; a header is a name and a
value, and the value stands on one line; and a request that only asks for a resource has no
body. Of several faults the first in this order is reported.

* `Http.RequestFault` — the faults, and `Http.RequestFault.message` their wording;
* `Http.Request.make` — a request, or the first fault in what it is to consist of.
-/
import TodoServer.Http.Authority
import TodoServer.Http.Message

namespace TodoServer.Http

/-- The host that requests are sent to, unless their targets name more of it. -/
def localHost : String := "localhost"

/-- The address that a target is part of. -/
def address (target : Text) : Text := "http://" ++ Text.ofString (localHost ++ target.toString)

/-- Why a request cannot be made. -/
inductive RequestFault
  /-- A text has a unit that no byte holds. -/
  | wideUnit (place : Nat) (unit : UInt16)
  /-- An address names no host. -/
  | badAddress (address : Text)
  /-- An address has credentials. -/
  | credentials (address : Text)
  /-- A method is no token. -/
  | badMethod (method : Text)
  /-- A method is never sent. -/
  | unsupportedMethod (method : Text)
  /-- A header is not made of two texts. -/
  | badHeader (count : Nat)
  /-- The name of a header is no token. -/
  | badHeaderName (name : Text)
  /-- The value of a header runs over a line or ends a text. -/
  | badHeaderValue (value : Text)
  /-- A request that has no body was to have one. -/
  | bodyNotAllowed
deriving DecidableEq, Repr

/-- The wording of a fault. -/
def RequestFault.message : RequestFault → Text
  | .wideUnit place unit =>
    "Cannot convert argument to a ByteString because the character at index " ++
      Text.ofString (toString place) ++ " has a value of " ++
      Text.ofString (toString unit.toNat) ++ " which is greater than 255."
  | .badAddress address => "Failed to parse URL from " ++ address
  | .credentials address =>
    "Request cannot be constructed from a URL that includes credentials: " ++ address
  | .badMethod method => "'" ++ method ++ "' is not a valid HTTP method."
  | .unsupportedMethod method => "'" ++ method ++ "' HTTP method is unsupported."
  | .badHeader count =>
    "Headers constructor: expected name/value pair to be length 2, found " ++
      Text.ofString (toString count) ++ "."
  | .badHeaderName name => "Headers.append: \"" ++ name ++ "\" is an invalid header name."
  | .badHeaderValue value => "Headers.append: \"" ++ value ++ "\" is an invalid header value."
  | .bodyNotAllowed => "Request with GET/HEAD method cannot have body."

/-! ### The parts of a request -/

def byteText (t : Text) : Except RequestFault String :=
  match t.units.findIdx? fun unit => 255 < unit.toNat with
  | some place => .error (.wideUnit place (t.units.getD place 0))
  | none => .ok t.toString

/-- Whether a character can be part of a token. -/
def isTokenChar (c : Char) : Bool := isAlphanumeric c || "!#$%&'*+-.^_`|~".toList.contains c

def isToken (s : String) : Bool := s ≠ "" && s.toList.all isTokenChar

/-- The methods that stand for the same in any letter case. -/
def foldedMethods : List String := ["DELETE", "GET", "HEAD", "OPTIONS", "POST", "PUT"]

/-- The methods that are never sent. -/
def unsupportedMethods : List String := ["CONNECT", "TRACE", "TRACK"]

/-- The method as it is sent. -/
def sentMethod (method : String) : Except RequestFault String :=
  if foldedMethods.contains (upperText method) then .ok (upperText method)
  else if !isToken method then .error (.badMethod method)
  else if unsupportedMethods.contains (upperText method) then
    .error (.unsupportedMethod method)
  else .ok method

/-- Whether a request can be sent to the address of a target. -/
def checkAddress (target : Text) : Except RequestFault Unit :=
  match Authority.fault? (localHost.toList ++ Target.hostRest target.toString) with
  | some .unreadable => .error (.badAddress (address target))
  | some .credentials => .error (.credentials (address target))
  | none => .ok ()

/-- A header as it is sent, without white space around its value. -/
def sentHeader : List String → Except RequestFault (String × String)
  | [name, value] =>
    let value := trimmed value
    if !isToken name then .error (.badHeaderName name)
    else if value.toList.any fun c => c = '\x00' || c = '\n' || c = '\r' then
      .error (.badHeaderValue value)
    else .ok (name, value)
  | texts => .error (.badHeader texts.length)

def sentBody (method : String) (body : Option (List (List UInt8))) :
    Except RequestFault (Option (List (List UInt8))) :=
  if body.isSome ∧ (method = "GET" ∨ method = "HEAD") then .error .bodyNotAllowed else .ok body

/-- The request for a target, with headers that are each given as texts. -/
def Request.make (method target : Text) (headers : List (List Text))
    (body : Option (List (List UInt8))) : Except RequestFault Request := do
  let method ← byteText method
  let headers ← headers.mapM fun texts => texts.mapM byteText
  checkAddress target
  let method ← sentMethod method
  let headers ← headers.mapM sentHeader
  let body ← sentBody method body
  return .ofTarget method target.toString headers body

end TodoServer.Http
