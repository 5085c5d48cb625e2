/-
The limit on the size of a request body.

A length declared in a header decides by itself, unless the body is sent in a transfer coding,
when a declared length means nothing; without one the bytes are counted as they come. A
declaration that is no number lets the request pass, and so do a limit that counts as none and
the absence of a body.

* `BodyLimit.declaredLength?` — the length that a header declares;
* `BodyLimit.exceeds` — whether a request is over the limit;
* `BodyLimit.refusal` — the answer to one that is.
-/
import TodoServer.Text.Characters
import TodoServer.Http.Message

namespace TodoServer.BodyLimit

open Http

/-- The limit unless another is set: 64 KiB. -/
def defaultMax : Datum := .number (.finite 65536)

/-- Whether a number of bytes is over a limit. -/
def isOver (max : Datum) (count : Number) : Bool := max.number?.any (·.lt count)

/-- The digits at the start of a text as a number. -/
def leadingNumber? (cs : List Char) : Option Int :=
  (numeral? (cs.takeWhile isDecimal)).map Int.ofNat

/-- The number at the start of a text, after blanks and a sign; what follows is not read, and
an empty text is zero. -/
def declaredInteger? (text : String) : Option Int :=
  if text = "" then some 0
  else
    match text.toList.dropWhile isBlank with
    | '-' :: rest => (leadingNumber? rest).map fun n => -n
    | '+' :: rest => leadingNumber? rest
    | cs => leadingNumber? cs

/-- The length that a header declares: the number next to the integer it begins with. -/
def declaredLength? (text : String) : Option Number := (declaredInteger? text).map Number.ofInt

/-- Whether chunks, counted one after the other, come to more than the limit. -/
def overflows (max : Datum) : Nat → List (List UInt8) → Bool
  | _, [] => false
  | counted, chunk :: rest =>
    let counted := counted + chunk.length
    isOver max (.ofInt counted) || overflows max counted rest

/-- Whether there is anything in a request to hold against the limit. -/
def isChecked (r : Request) : Bool :=
  match r.body with
  | none => false
  | some chunks =>
    chunks ≠ [] ||
      ((r.header? "content-length").isSome && (r.header? "transfer-encoding").isNone)

/-- Whether the body of a request is over the limit. -/
def exceeds (max : Datum) (r : Request) : Bool :=
  match r.body with
  | none => false
  | some chunks =>
    match r.header? "content-length", r.header? "transfer-encoding" with
    | some declared, none => (declaredLength? declared).any (isOver max)
    | _, _ => overflows max 0 chunks

/-- The answer to a request whose body is over the limit. -/
def refusal (max : Datum) : Response :=
  .error 413 .payloadTooLarge ("body exceeds " ++ max.words ++ " bytes")

end TodoServer.BodyLimit
