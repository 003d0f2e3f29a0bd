import ChatSession.Schema.Check

/-!
Servers: the backend instances a client can talk to.

A `Server` has a name, unique within the server list, and a base URL; an
empty URL means that no server is selected. The URL is taken as the plain
text of whatever the backend sends (null is empty), so it fails a check only
when that value has no text. Switching servers answers with the new current server and the whole
list (`Switch`), which the backend may send under `list` or `servers`.
-/

namespace ChatSession

/-- A reachable backend instance. -/
structure Server where
  name : String := ""
  url : String := ""
deriving Repr, BEq, DecidableEq, Inhabited

namespace Server

/-- The URL as text: null is empty, any other value its plain text, and a
value that cannot be shown is refused. -/
def urlText : Check String
  | .null => .ok ""
  | v =>
    match v.text? with
    | some t => .ok t
    | none => Check.fail (.valueError Literal.digitLimitMessage) v

def check : Check Server :=
  Check.fields "Server" fun kvs =>
    Server.mk <$> Check.field kvs "name" "" Check.str <*> Check.field kvs "url" "" urlText

/-- The record as data, fields in declaration order. -/
def toValue (s : Server) : Value :=
  .obj [("name", .str s.name), ("url", .str s.url)]

end Server

/-- The answer to a server switch: the new current server and the server list. -/
structure Switch where
  current : Server
  servers : List Server := []
deriving Repr, BEq, Inhabited

namespace Switch

/-- Check a switch answer; the list may come as `list` or as `servers`, and
`list` wins when both are there. -/
def check : Check Switch :=
  Check.fields "ChangeServerResult" fun kvs =>
    let servers : Checked (List Server) :=
      match Value.field? kvs "list" with
      | some v => (Check.list Server.check v).under (.key "list")
      | none => Check.field kvs "servers" [] (Check.list Server.check)
    Switch.mk <$> Check.need kvs "current" Server.check <*> servers

def toValue (r : Switch) : Value :=
  .obj [("current", r.current.toValue), ("servers", .list (r.servers.map Server.toValue))]

end Switch

end ChatSession
