import ChatSession.Backend.Rejection
import ChatSession.Record.Server
import ChatSession.Record.User
import ChatSession.Record.Team
import ChatSession.Record.Channel
import ChatSession.Record.PostThread

/-!
Backend commands: their requests, and how their answers are read.

A call sends a `Request` (a command name and named arguments). The backend
either answers with data or rejects the command with a payload. A rejection
becomes the `CallError` read from its payload; an answer is read as the
command's record or list of records. An answer that does not read becomes the
text error `Unexpected response from <command>: <reason>`, where the command's
underscores are spaces and the reason is the record check's report.

A list answer is read item by item and stops at the first item that fails.
A false answer (null, zero, empty) is the empty list; text is read character
by character and a dictionary key by key, while any other single value is no
list at all.
-/

namespace ChatSession

/-- A backend command with its arguments. -/
structure Request where
  command : String
  args : List (String × Value) := []
deriving Inhabited

namespace Request

/-- The request as data: `[command, args]`. -/
def toValue (r : Request) : Value := .list [.str r.command, Value.obj r.args]

end Request

/-- How an answer is turned into a typed value, or the reason it cannot be. -/
abbrev Projection (α : Type) := Value → Except String α

namespace Projection

def record {α : Type} (title : String) (c : Check α) : Projection α := fun v =>
  match c v with
  | .ok a => .ok a
  | .invalid is => .error (Report.text ⟨title, is⟩)
  | .halted h => .error h.message

/-- Read every item with `p`, stopping at the first that fails. -/
def each {α : Type} (p : Projection α) : List Value → Except String (List α)
  | [] => .ok []
  | x :: xs => do
    let a ← p x
    let rest ← each p xs
    return a :: rest

/-- The items an answer stands for when a list is expected. -/
def items : Value → Except String (List Value)
  | v =>
    if !v.truthy then .ok []
    else match v with
      | .list xs | .tuple xs | .set xs => .ok xs
      | .str s => .ok (s.toList.map fun c => .str (String.singleton c))
      | .dict kvs => .ok (kvs.map (·.1))
      | .bytes bs => .ok (bs.map fun b => .int b.toNat)
      | other => .error ("'" ++ other.qualifiedTypeName ++ "' object is not iterable")

def listOf {α : Type} (title : String) (c : Check α) : Projection (List α) := fun v => do
  each (record title c) (← items v)

def nothing : Projection Unit := fun _ => .ok ()

end Projection

/-- The label of a command in messages: underscores become spaces. -/
def commandLabel (command : String) : String :=
  String.ofList (command.toList.map fun c => if c == '_' then ' ' else c)

/-- The outcome of a call: its error, or the answer read with the projection. -/
def callOutcome {α : Type} (command : String) (p : Projection α) :
    Except CallError Value → Except CallError α
  | .error e => .error e
  | .ok v =>
    match p v with
    | .ok a => .ok a
    | .error reason => .error (.text ("Unexpected response from " ++ commandLabel command ++ ": " ++ reason))

/-- What a command's answer is read as. -/
inductive Reading where
  | server
  | switch
  | servers
  | user
  | nothing
  | teams
  | members
  | channels
  | thread
  | users
deriving Repr, DecidableEq, Inhabited

inductive Answer where
  | server (s : Server)
  | switch (r : Switch)
  | servers (l : List Server)
  | user (u : User)
  | nothing
  | teams (l : List Team)
  | members (l : List TeamMember)
  | channels (l : List Channel)
  | thread (t : PostThread)
  | users (l : List User)
  | directory (d : List (String × User))
deriving Inhabited

namespace Answer

def toValue : Answer → Value
  | .server s => s.toValue
  | .switch r => r.toValue
  | .servers l => .list (l.map Server.toValue)
  | .user u => u.toValue
  | .nothing => .null
  | .teams l => .list (l.map Team.toValue)
  | .members l => .list (l.map TeamMember.toValue)
  | .channels l => .list (l.map Channel.toValue)
  | .thread t => t.toValue
  | .users l => .list (l.map User.toValue)
  | .directory d => Value.obj (d.map fun (k, u) => (k, u.toValue))

end Answer

def Reading.project : Reading → Projection Answer
  | .server => fun v => Answer.server <$> Projection.record "Server" Server.check v
  | .switch => fun v => Answer.switch <$> Projection.record "ChangeServerResult" Switch.check v
  | .servers => fun v => Answer.servers <$> Projection.listOf "Server" Server.check v
  | .user => fun v => Answer.user <$> Projection.record "User" User.check v
  | .nothing => fun _ => .ok .nothing
  | .teams => fun v => Answer.teams <$> Projection.listOf "Team" Team.check v
  | .members => fun v => Answer.members <$> Projection.listOf "TeamMember" TeamMember.check v
  | .channels => fun v => Answer.channels <$> Projection.listOf "Channel" Channel.check v
  | .thread => fun v => Answer.thread <$> Projection.record "PostThread" PostThread.check v
  | .users => fun v => Answer.users <$> Projection.listOf "User" User.check v

/-- A command of the backend API: its name in calls, how its answer is read,
its positional parameters (the last ones may have defaults), and the argument
names it sends with the parameter each carries. -/
structure CommandSpec where
  name : String
  command : String
  reading : Reading
  params : List String := []
  defaults : List Value := []
  sent : List (String × Nat) := []
deriving Inhabited

def CommandSpec.all : List CommandSpec :=
  [⟨"get_current_server", "get_current_server", .server, [], [], []⟩,
   ⟨"change_server", "change_server", .switch, ["server_name"], [], [("serverName", 0)]⟩,
   ⟨"get_all_servers", "get_all_servers", .servers, [], [], []⟩,
   ⟨"add_server", "add_server", .server, ["name", "url"], [], [("name", 0), ("url", 1)]⟩,
   ⟨"login", "login", .user, ["login_id", "password"], [], [("login", 0), ("password", 1)]⟩,
   ⟨"logout", "logout", .nothing, [], [], []⟩,
   ⟨"my_teams", "my_teams", .teams, [], [], []⟩,
   ⟨"my_team_members", "my_team_members", .members, [], [], []⟩,
   ⟨"my_channels", "my_channels", .channels, [], [], []⟩,
   ⟨"channel_posts", "channel_posts", .thread, ["channel_id"], [], [("channel", 0)]⟩,
   ⟨"post_thread", "post_threads", .thread, ["post_id"], [], [("postId", 0)]⟩,
   ⟨"user_unread", "user_unread", .thread, ["user_id", "channel_id"], [],
     [("channelId", 1), ("userId", 0)]⟩,
   ⟨"users", "users", .users, ["page", "per_page"], [.int 100], [("page", 0), ("perPage", 1)]⟩]

/-- Names joined as a list in prose: `'a'`, `'a' and 'b'`, `'a', 'b', and 'c'`. -/
def quotedList (names : List String) : String :=
  let q := names.map fun n => "'" ++ n ++ "'"
  match q with
  | [] => ""
  | [a] => a
  | [a, b] => a ++ " and " ++ b
  | _ => ", ".intercalate q.dropLast ++ ", and " ++ String.join (q.drop (q.length - 1))

/-- "1 positional argument", "2 positional arguments". -/
def argumentCount (n : Nat) : String :=
  toString n ++ " positional argument" ++ (if n == 1 then "" else "s")

namespace CommandSpec

/-- The request for positional arguments, or why they do not fit the
parameters. The client handle counts as the first parameter in messages. -/
def request (spec : CommandSpec) (args : List Value) : Except String Request :=
  let total := spec.params.length
  let required := total - spec.defaults.length
  if args.length > total then
    let takes :=
      if required == total then argumentCount (total + 1)
      else "from " ++ toString (required + 1) ++ " to " ++ argumentCount (total + 1)
    .error (spec.name ++ "() takes " ++ takes ++ " but " ++ toString (args.length + 1) ++
      " were given")
  else if args.length < required then
    let missing := (spec.params.take required).drop args.length
    .error (spec.name ++ "() missing " ++ toString missing.length ++
      " required positional argument" ++ (if missing.length == 1 then "" else "s") ++ ": " ++
      quotedList missing)
  else
    let values := args ++ spec.defaults.drop (args.length - required)
    .ok ⟨spec.command, spec.sent.map fun (key, i) => (key, (values[i]?).getD .null)⟩

def find? (name : String) : Option CommandSpec := all.find? (·.name == name)

end CommandSpec

end ChatSession
