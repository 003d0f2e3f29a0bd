import ChatSession.Schema.Check

/-!
Errors of backend calls.

The backend reports a failure either as a structured `ApiError` (an id, a
message, the request id and an HTTP status) or as plain text. `CallError`
holds either; its text is the message of the structured error, or the text.
-/

namespace ChatSession

/-- A structured backend failure. -/
structure ApiError where
  id : String := ""
  message : String
  requestId : String := ""
  statusCode : Int := 0
deriving Repr, BEq, DecidableEq, Inhabited

namespace ApiError

def check : Check ApiError :=
  Check.fields "ApiError" fun kvs =>
    ApiError.mk <$> Check.field kvs "id" "" Check.str
      <*> Check.need kvs "message" Check.str
      <*> Check.field kvs "request_id" "" Check.str
      <*> Check.field kvs "status_code" 0 Check.int

/-- The record as data, fields in declaration order. -/
def toValue (e : ApiError) : Value :=
  .obj [("id", .str e.id), ("message", .str e.message), ("request_id", .str e.requestId),
    ("status_code", .int e.statusCode)]

end ApiError

/-- The error of a backend call: structured, or plain text. -/
inductive CallError where
  | api (e : ApiError)
  | text (s : String)
deriving Repr, BEq, DecidableEq, Inhabited

namespace CallError

/-- What the error says. -/
def message : CallError → String
  | .api e => e.message
  | .text s => s

/-- The error as data: the structured record, or the text. -/
def toValue : CallError → Value
  | .api e => e.toValue
  | .text s => .str s

/-- Check a value that is either a structured error or text. Text is taken as
text at once; otherwise the structured form is tried, and when both fail the
issues of each form are reported, under the form's name. -/
def check : Check CallError
  | .str s => .ok (.text s)
  | v =>
    match ApiError.check v, Check.str v with
    | .ok e, _ => .ok (.api e)
    | .halted h, _ => .halted h
    | _, .ok s => .ok (.text s)
    | .invalid is, .invalid js =>
      .invalid (is.map (Issue.under (.key "ApiError")) ++ js.map (Issue.under (.key "str")))
    | .invalid is, .halted _ => .invalid is

end CallError

end ChatSession
