import ChatSession.Data.Json
import ChatSession.Record.ApiError

/-!
Rejections: what the backend sends when it refuses a command, and the
`CallError` read from it.

A rejection carries a payload. A structured error passes as it is. Text and
bytes are read as JSON: a dictionary with a true `message` that checks as an
`ApiError` is that error. A dictionary payload with a true `message` is
checked the same way. Every other payload, and every payload whose reading or
check fails, becomes its plain text; an object that cannot be shown becomes
`<unprintable T>` for its type name `T`. Only JSON text that nests deeper
than the reader goes makes reading a rejection fail as a whole. How deep that
is depends on the room left to the reader: less while a session runs
(`nestingInSession`) than when a rejection is read on its own
(`nestingAlone`).
-/

namespace ChatSession

/-- What a rejection carries. -/
inductive Payload where
  | data (v : Value)
  | apiError (e : ApiError)
  | object (typeName : String) (text : Option String)
deriving Inhabited

/-- Reading a rejection failed as a whole: its JSON text nests deeper than
the reader goes, and the reader stopped in an object or in an array. -/
structure ReadFault where
  inObject : Bool
deriving Repr, DecidableEq, Inhabited

def ReadFault.message (f : ReadFault) : String := JsonError.nestingMessage f.inObject

namespace Payload

/-- A structured error from the fields of a dictionary with a true message. -/
def structured? (kvs : List (Value × Value)) : Option ApiError :=
  match Value.field? kvs "message" with
  | some m => if m.truthy then (ApiError.check (.dict kvs)).toOption else none
  | none => none

/-- A structured error from a JSON reading: a dictionary is checked, anything
else is no structured error, and only nesting too deep fails. -/
def fromJson : Except JsonError Value → Except ReadFault (Option ApiError)
  | .ok (.dict kvs) => .ok (structured? kvs)
  | .error (.nestedTooDeep inObject) => .error ⟨inObject⟩
  | _ => .ok none

def text : Payload → String
  | .data v => v.text?.getD ("<unprintable " ++ v.typeName ++ ">")
  | .apiError e => e.message
  | .object _ (some s) => s
  | .object t none => "<unprintable " ++ t ++ ">"

end Payload

/-- How deep a rejection's JSON text may nest when it is read on its own. -/
def Payload.nestingAlone : Nat := 990

/-- How deep a rejection's JSON text may nest when it is read while a session
runs, which keeps some of the room for itself. -/
def Payload.nestingInSession : Nat := 980

/-- The error a rejection stands for, its JSON text nesting at most `limit`
deep. -/
def CallError.ofPayload (limit : Nat) (p : Payload) : Except ReadFault CallError := do
  let found ← match p with
    | .apiError e => pure (some e)
    | .data (.str s) => Payload.fromJson (Value.ofJsonWithin limit s)
    | .data (.bytes b) => Payload.fromJson (Value.ofJsonBytes limit b)
    | .data (.dict kvs) => pure (Payload.structured? kvs)
    | _ => pure none
  return match found with
    | some e => .api e
    | none => .text p.text

/-- An exception raised by a call: a transport rejection, or another exception
of type `typeName`, shown as `text`, with its arguments. -/
inductive Raised where
  | rejected (p : Payload)
  | other (typeName text : String) (args : List Payload)
deriving Inhabited

/-- The payload of an exception: a rejection's payload, another exception's
first argument, or the exception itself when it has none. -/
def Raised.payload : Raised → Payload
  | .rejected p => p
  | .other _ _ (a :: _) => a
  | .other typeName text [] => .object typeName (some text)

/-- The error an exception stands for. -/
def CallError.ofRaised (limit : Nat) (r : Raised) : Except ReadFault CallError :=
  CallError.ofPayload limit r.payload

end ChatSession
