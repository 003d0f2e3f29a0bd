import ChatSession.Record.Server
import ChatSession.Record.User
import ChatSession.Record.Team
import ChatSession.Record.Channel
import ChatSession.Record.ApiError
import ChatSession.Record.PostThread

/-!
The session snapshot: everything a client session knows at one moment.

A `PageState` has ten fields. A write replaces some of them (`Change`) and
keeps the others. The session fields (user, directory, teams, memberships,
channels, the selected channel, its posts and the errors) belong to a
logged-in session and go back to their defaults when the session is reset;
the current server and the server list survive a reset.

Writing by field name (`mergeNamed`) checks the given values as the
snapshot's fields and refuses names that are no field, listing them sorted.
-/

namespace ChatSession

/-- The complete in-memory state of a client session. -/
structure PageState where
  currentServer : Server := {}
  user : Option User := none
  users : List (String × User) := []
  teams : List Team := []
  teamMembers : List TeamMember := []
  channels : List Channel := []
  currentChannel : Option Channel := none
  channelPosts : Option PostThread := none
  servers : List Server := []
  errors : List CallError := []
deriving BEq, Inhabited

/-- The fields of the snapshot, in declaration order. -/
inductive StateField where
  | currentServer
  | user
  | users
  | teams
  | teamMembers
  | channels
  | currentChannel
  | channelPosts
  | servers
  | errors
deriving Repr, DecidableEq, Inhabited

namespace StateField

def all : List StateField :=
  [.currentServer, .user, .users, .teams, .teamMembers, .channels, .currentChannel,
    .channelPosts, .servers, .errors]

def name : StateField → String
  | .currentServer => "current_server"
  | .user => "user"
  | .users => "users"
  | .teams => "teams"
  | .teamMembers => "team_members"
  | .channels => "channels"
  | .currentChannel => "current_channel"
  | .channelPosts => "channel_posts"
  | .servers => "servers"
  | .errors => "errors"

def ofName? (s : String) : Option StateField := all.find? (·.name == s)

/-- The fields that a session reset clears. -/
def session : List StateField :=
  [.user, .users, .teams, .teamMembers, .channels, .currentChannel, .channelPosts, .errors]

end StateField

/-- A new value for one field of the snapshot. -/
inductive Change where
  | currentServer (s : Server)
  | user (u : Option User)
  | users (d : List (String × User))
  | teams (ts : List Team)
  | teamMembers (ms : List TeamMember)
  | channels (cs : List Channel)
  | currentChannel (c : Option Channel)
  | channelPosts (t : Option PostThread)
  | servers (ss : List Server)
  | errors (es : List CallError)
deriving Inhabited

namespace Change

def field : Change → StateField
  | .currentServer _ => .currentServer
  | .user _ => .user
  | .users _ => .users
  | .teams _ => .teams
  | .teamMembers _ => .teamMembers
  | .channels _ => .channels
  | .currentChannel _ => .currentChannel
  | .channelPosts _ => .channelPosts
  | .servers _ => .servers
  | .errors _ => .errors

/-- Check a value as the new value of a field. -/
def check : StateField → Check Change
  | .currentServer => fun v => Change.currentServer <$> Server.check v
  | .user => fun v => Change.user <$> Check.optional User.check v
  | .users => fun v => Change.users <$> Check.dict User.check v
  | .teams => fun v => Change.teams <$> Check.list Team.check v
  | .teamMembers => fun v => Change.teamMembers <$> Check.list TeamMember.check v
  | .channels => fun v => Change.channels <$> Check.list Channel.check v
  | .currentChannel => fun v => Change.currentChannel <$> Check.optional Channel.check v
  | .channelPosts => fun v => Change.channelPosts <$> Check.optional PostThread.check v
  | .servers => fun v => Change.servers <$> Check.list Server.check v
  | .errors => fun v => Change.errors <$> Check.list CallError.check v

/-- The change that puts a field back to its default. -/
def reset : StateField → Change
  | .currentServer => .currentServer {}
  | .user => .user none
  | .users => .users []
  | .teams => .teams []
  | .teamMembers => .teamMembers []
  | .channels => .channels []
  | .currentChannel => .currentChannel none
  | .channelPosts => .channelPosts none
  | .servers => .servers []
  | .errors => .errors []

end Change

namespace PageState

def apply (s : PageState) : Change → PageState
  | .currentServer v => { s with currentServer := v }
  | .user v => { s with user := v }
  | .users v => { s with users := v }
  | .teams v => { s with teams := v }
  | .teamMembers v => { s with teamMembers := v }
  | .channels v => { s with channels := v }
  | .currentChannel v => { s with currentChannel := v }
  | .channelPosts v => { s with channelPosts := v }
  | .servers v => { s with servers := v }
  | .errors v => { s with errors := v }

/-- The snapshot with the changes applied in order. -/
def update (s : PageState) (cs : List Change) : PageState := cs.foldl apply s

/-- The snapshot with the session fields at their defaults. -/
def resetSession (s : PageState) : PageState := s.update (StateField.session.map Change.reset)

def isAuthenticated (s : PageState) : Bool := s.user.isSome

/-- Check a whole snapshot; fields left out keep their defaults. -/
def check : Check PageState :=
  Check.fields "PageState" fun kvs =>
    PageState.mk <$> Check.field kvs "current_server" {} Server.check
      <*> Check.field kvs "user" none (Check.optional User.check)
      <*> Check.field kvs "users" [] (Check.dict User.check)
      <*> Check.field kvs "teams" [] (Check.list Team.check)
      <*> Check.field kvs "team_members" [] (Check.list TeamMember.check)
      <*> Check.field kvs "channels" [] (Check.list Channel.check)
      <*> Check.field kvs "current_channel" none (Check.optional Channel.check)
      <*> Check.field kvs "channel_posts" none (Check.optional PostThread.check)
      <*> Check.field kvs "servers" [] (Check.list Server.check)
      <*> Check.field kvs "errors" [] (Check.list CallError.check)

def optValue {α : Type} (f : α → Value) : Option α → Value
  | some a => f a
  | none => .null

/-- The snapshot as data, fields in declaration order. -/
def toValue (s : PageState) : Value :=
  .obj [("current_server", s.currentServer.toValue),
    ("user", optValue User.toValue s.user),
    ("users", Value.obj (s.users.map fun (k, u) => (k, u.toValue))),
    ("teams", .list (s.teams.map Team.toValue)),
    ("team_members", .list (s.teamMembers.map TeamMember.toValue)),
    ("channels", .list (s.channels.map Channel.toValue)),
    ("current_channel", optValue Channel.toValue s.currentChannel),
    ("channel_posts", optValue PostThread.toValue s.channelPosts),
    ("servers", .list (s.servers.map Server.toValue)),
    ("errors", .list (s.errors.map CallError.toValue))]

end PageState

/-- Why a write by field names was refused. -/
inductive MergeError where
  | invalid (r : Report)
  | unknownFields (names : List String)
  | halted (h : Halt)
deriving Inhabited

def MergeError.message : MergeError → String
  | .invalid r => r.text
  | .unknownFields names => "Unknown state field(s): " ++ ", ".intercalate names
  | .halted h => h.message

/-- The changes that named values stand for: known names are checked in the
snapshot's field order, all their issues reported together. -/
def Change.ofNamed (fields : List (String × Value)) : Except MergeError (List Change) :=
  let known := StateField.all.filterMap fun f =>
    (fields.find? (·.1 == f.name)).map fun (_, v) => (Change.check f v).under (.key f.name)
  match known.foldr (fun c acc => List.cons <$> c <*> acc) (.ok []) with
  | .ok cs => .ok cs
  | .invalid is => .error (.invalid ⟨"PageState", is⟩)
  | .halted h => .error (.halted h)

/-- Names that are no field of the snapshot, without repetition, sorted. -/
def unknownNames (fields : List (String × Value)) : List String :=
  let names := (fields.map (·.1)).filter fun n => (StateField.ofName? n).isNone
  (names.eraseDups).mergeSort fun a b => decide (a ≤ b)

/-- Write named values: check the known ones, then refuse unknown names. -/
def PageState.mergeNamed (s : PageState) (fields : List (String × Value)) :
    Except MergeError PageState :=
  match Change.ofNamed fields with
  | .error e => .error e
  | .ok cs =>
    match unknownNames fields with
    | [] => .ok (s.update cs)
    | names => .error (.unknownFields names)

end ChatSession
