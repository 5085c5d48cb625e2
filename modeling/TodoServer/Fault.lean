/-
What can go wrong while a request is served.

A failure is kept as its cause, and its wording is given in one place. Only a `ClientError` is
meant for the client; every other cause is logged and answered in general terms.

* `ErrorCode`, `ClientError` — failures that the client is told;
* `Fault` — every cause, and `Fault.message` its wording;
* `Datum.demand`, `Datum.demandWords` — a value that is to be put in words, and its words, a
  fault if it has none;
* `Datum.repeated` — a text as often as a value says.
-/
import TodoServer.Datum

namespace TodoServer

/-- The codes of error answers. -/
inductive ErrorCode
  | unauthorized
  | internalError
  | notFound
  | invalidInput
  | invalidJson
  | invalidStatus
  | methodNotAllowed
  | payloadTooLarge
  /-- One that the server gives no answer of its own under. -/
  | other (code : Datum)
deriving DecidableEq

/-- The code as clients see it. -/
def ErrorCode.name : ErrorCode → Datum
  | .unauthorized => "UNAUTHORIZED"
  | .internalError => "INTERNAL_ERROR"
  | .notFound => "NOT_FOUND"
  | .invalidInput => "INVALID_INPUT"
  | .invalidJson => "INVALID_JSON"
  | .invalidStatus => "INVALID_STATUS"
  | .methodNotAllowed => "METHOD_NOT_ALLOWED"
  | .payloadTooLarge => "PAYLOAD_TOO_LARGE"
  | .other code => code

def ErrorCode.all : List ErrorCode :=
  [.unauthorized, .internalError, .notFound, .invalidInput, .invalidJson, .invalidStatus,
    .methodNotAllowed, .payloadTooLarge]

def ErrorCode.ofName (name : Datum) : ErrorCode :=
  (ErrorCode.all.find? fun code => code.name = name).getD (.other name)

def errorEnvelope (code : ErrorCode) (message : Text) : Json.Value :=
  .object [("error", .object (code.name.member "code" ++ Datum.member "message" message))]

/-- A failure that the client is told, with the status of its answer. -/
structure ClientError where
  status : Datum
  code : ErrorCode
  message : Text
deriving DecidableEq

namespace ClientError

def unauthorized (message : Text) : ClientError := ⟨.ofInt 401, .unauthorized, message⟩

/-- The request asks for something the rules do not allow. -/
def invalidInput (message : Text) : ClientError := ⟨.ofInt 400, .invalidInput, message⟩

def notFound (message : Text) : ClientError := ⟨.ofInt 404, .notFound, message⟩

/-- What a missing resource is called when nothing more is known of it. -/
def resourceNotFound : Text := "resource not found"

def body (e : ClientError) : Json.Value := errorEnvelope e.code e.message

end ClientError

/-- The causes of a failure. -/
inductive Fault
  /-- One that the client is told. -/
  | api (error : ClientError)
  /-- A todo was to be created for a user that is not registered. -/
  | unknownOwner (user : Datum)
  /-- No user is registered for the subject of a token. -/
  | unknownSubject (subject : Datum)
  /-- An invalid date was to be written. -/
  | invalidTime
  /-- A value, named by where it stands, was asked for something that it does not have. -/
  | noMember (place : Text) (value : Datum) (member : Text)
  /-- A handler that needs the caller ran without one. -/
  | missingIdentity
  /-- The database confirmed an insertion without the row inserted. -/
  | noRowInserted
  /-- A value was to be put in words and has none. -/
  | noWords
  /-- A text was to be repeated less often than never, or without end. -/
  | invalidCount (count : Datum)
  /-- A text would have been longer than texts can be. -/
  | tooLong
  /-- The database holds a status that no todo has. -/
  | unknownStatus (status : Datum)
  /-- A collaborator failed with this message. -/
  | raised (message : Text)
deriving DecidableEq

/-- The wording of a failure. -/
def Fault.message : Fault → Text
  | .api error => error.message
  | .unknownOwner user => "no user with id \"" ++ user.words ++ "\""
  | .unknownSubject _ => "no user registered for token subject"
  | .invalidTime => "Invalid time value"
  | .noMember place value member =>
    if value.isMissing then
      "Cannot read properties of " ++ value.words ++ " (reading '" ++ member ++ "')"
    else place ++ "." ++ member ++ " is not a function"
  | .noWords => "Cannot convert object to primitive value"
  | .invalidCount count => "Invalid count value: " ++ count.words
  | .tooLong => "Invalid string length"
  | .missingIdentity => "user id missing from request context"
  | .noRowInserted => "insert into todos returned no row"
  | .unknownStatus status => "unexpected todo status in database: " ++ status.words
  | .raised message => message

namespace Datum

/-- A value that is to be put in words. -/
def demand (d : Datum) : Except Fault Datum := if d.hasWords then .ok d else .error .noWords

/-- The words of a value. -/
def demandWords (d : Datum) : Except Fault Text := d.demand.map words

/-- The greatest length of a text. -/
def maxLength : Nat := 536870888

/-- A text as often as a value says. -/
def repeated (count : Datum) (t : Text) : Except Fault Text := do
  match ((← count.demand).number?.getD (.finite 0)).truncate? with
  | none => .error (.invalidCount count)
  | some times =>
    if times < 0 then .error (.invalidCount count)
    else if maxLength < t.length * times.toNat then .error .tooLong
    else if t.isEmpty then .ok t
    else .ok ⟨(List.replicate times.toNat t.units).flatten⟩

end Datum

end TodoServer
