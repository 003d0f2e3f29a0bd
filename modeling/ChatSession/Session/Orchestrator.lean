import ChatSession.Session.Store
import ChatSession.Session.Steps
import ChatSession.Config.Client
import ChatSession.Backend.Command
import ChatSession.Thread.System

/-!
Keeping the snapshot current: refreshes, logins, server switches and thread loads.

An operation runs until it needs the backend. It then stops with the
`Request` it sends and a `Pending` that says what it will do with the answer;
`Pending.resume` continues it once the answer is there. Between the two,
anything else may happen to the session, which is why two generation
counters decide whether a late answer may still be written:

* every refresh takes a new refresh token; a refresh writes a step's result,
  and its final error list, only while its token is the newest, and stops
  before its next step once it is not;
* every thread load takes a new thread token and writes the channel's posts
  only while its token is the newest;
* a session reset (a successful logout, or a server switch) renews both, so
  nothing begun before it writes afterwards.

A refresh runs the steps of `RefreshStep.all` in order, skipping the steps
that need a login when nobody is logged in. A failed step leaves its fields
as they are and adds its error to the refresh's list; the refresh goes on.
When nobody is logged in at the start, the client's `Reaction` to that runs.
-/

namespace ChatSession

/-- What the client does when a refresh finds nobody logged in: nothing, react
at once, or schedule a reaction for the scheduler to run; a failing reaction's
failure is ignored. -/
inductive Reaction where
  | ignore
  | immediate
  | immediateFailing
  | deferred
  | deferredFailing
deriving Repr, DecidableEq, Inhabited

/-- Everything the operations share: the store, the two generation counters,
the settings, and the reactions to being logged out. -/
structure Session where
  store : Store := {}
  refreshGen : Nat := 0
  threadGen : Nat := 0
  config : ClientConfig := {}
  reactions : Nat := 0
  scheduled : List Reaction := []
deriving Inhabited

/-- Operations on the session, one atomic stretch at a time. -/
abbrev SessionM := StateM Session

structure RefreshRun where
  token : Nat
  user : Option User
  errors : List CallError := []
deriving Inhabited

/-- What a finished refresh answers: the snapshot, or the answer of the server
switch that started it. -/
inductive AfterRefresh where
  | reply
  | switched (r : Switch)
deriving Inhabited

/-- Who receives the user directory once paging ends: the caller, the store and
then the caller, or the users step of a refresh with the steps after it. -/
inductive DirectoryUse where
  | reply
  | store
  | refresh (run : RefreshRun) (rest : List RefreshStep) (after : AfterRefresh)
deriving Inhabited

/-- What an operation does with the answer to its request. A refresh step
below the users step carries the thread token of the unread step; a page
carries the directory so far; a server switch waits first for the switch and
then for the logout from the old server. -/
inductive Pending where
  | step (run : RefreshRun) (step : RefreshStep) (rest : List RefreshStep)
      (threadToken : Option Nat) (after : AfterRefresh)
  | page (n : Nat) (dir : List (String × User)) (use : DirectoryUse)
  | login
  | logout
  | addServer
  | postThread
  | thread (token : Nat) (command : String)
  | switch (reaction : Reaction)
  | switchLogout (r : Switch) (reaction : Reaction)
  | command (spec : CommandSpec)
deriving Inhabited

inductive Outcome where
  | state (s : PageState)
  | answer (r : Except CallError Answer)
deriving Inhabited

/-- Where an atomic stretch ends: at a request, with the operation's outcome,
or with a rejection that could not be read at all. -/
inductive Next where
  | ask (req : Request) (k : Pending)
  | done (o : Outcome)
  | fault (f : ReadFault)
deriving Inhabited

inductive Operation where
  | refresh (reaction : Reaction)
  | login (loginId password : Value)
  | logout
  | changeServer (name : Value) (reaction : Reaction)
  | addServer (name url : Value)
  | selectChannel (c : Channel)
  | loadChannelPosts (c : Channel)
  | userUnread (u : User) (c : Channel)
  | postThread (postId : Value)
  | updateUsers
  | fetchDirectory
  | command (spec : CommandSpec) (req : Request)
deriving Inhabited

namespace Session

def snapshot : SessionM PageState := return (← get).store.value

/-- Write changes computed from the snapshot at the moment of writing. -/
def writeWith (f : PageState → List Change) : SessionM Unit :=
  modify fun s => { s with store := s.store.write fun st => st.update (f st) }

def merge (cs : List Change) : SessionM Unit := writeWith fun _ => cs

def nextRefresh : SessionM Nat :=
  modifyGet fun s => (s.refreshGen + 1, { s with refreshGen := s.refreshGen + 1 })

def nextThread : SessionM Nat :=
  modifyGet fun s => (s.threadGen + 1, { s with threadGen := s.threadGen + 1 })

def refreshCurrent (t : Nat) : SessionM Bool := return (← get).refreshGen == t

def threadCurrent (t : Nat) : SessionM Bool := return (← get).threadGen == t

/-- End the logged-in session: renew both tokens and clear the session fields. -/
def resetSession : SessionM Unit :=
  modify fun s => { s with refreshGen := s.refreshGen + 1, threadGen := s.threadGen + 1,
                           store := s.store.resetSession }

def react : Reaction → SessionM Unit
  | .ignore => pure ()
  | .immediate | .immediateFailing => modify fun s => { s with reactions := s.reactions + 1 }
  | r => modify fun s => { s with scheduled := s.scheduled ++ [r] }

end Session

/-- The first membership of every (team, user) pair, in order. -/
def uniqueMembers (ms : List TeamMember) : List TeamMember :=
  ms.foldl (fun acc m => if acc.any (·.key == m.key) then acc else acc ++ [m]) []

/-- Add a user to a directory under its id: a known id keeps its place. -/
def addToDirectory (dir : List (String × User)) (u : User) : List (String × User) :=
  if dir.any (·.1 == u.userId) then dir.map fun e => if e.1 == u.userId then (e.1, u) else e
  else dir ++ [(u.userId, u)]

/-- The server list after adding a server: others of that name go, it goes last. -/
def withServer (servers : List Server) (s : Server) : List Server :=
  servers.filter (·.name != s.name) ++ [s]

/-- The request for page `n` of the user directory. -/
def usersRequest (n perPage : Nat) : Request :=
  ⟨"users", [("page", .int n), ("perPage", .int perPage)]⟩

/-- The request for a channel's unread posts, as a user sees them. -/
def unreadRequest (c : Channel) (u : User) : Request :=
  ⟨"user_unread", [("channelId", .str c.id), ("userId", .str u.userId)]⟩

/-- The thread with system posts flagged by the snapshot's directory. -/
def threadChanges (st : PageState) (t : PostThread) : List Change :=
  [.channelPosts (some (Thread.tagSystemPosts st.users t))]

namespace Orchestrator

open Session

/-- Write a refresh step's result, or record its error, unless the refresh (or,
for the unread step, the thread load) is no longer the newest. -/
def applyStep {α : Type} (run : RefreshRun) (threadToken : Option Nat) (r : Except CallError α)
    (changes : PageState → α → List Change) : SessionM RefreshRun := do
  let current ← refreshCurrent run.token
  let threadOk ← match threadToken with
    | some t => threadCurrent t
    | none => pure true
  if !(current && threadOk) then return run
  match r with
  | .error e => return { run with errors := run.errors ++ [e] }
  | .ok a =>
    writeWith fun st => changes st a
    return run

/-- End a refresh: write its errors if it is still the newest, then answer. -/
def finishRefresh (run : RefreshRun) (after : AfterRefresh) : SessionM Next := do
  if ← refreshCurrent run.token then merge [.errors run.errors]
  let st ← snapshot
  match after with
  | .reply => return .done (.state st)
  | .switched r => return .done (.answer (.ok (.switch r)))

def continueRefresh (run : RefreshRun) (after : AfterRefresh) :
    List RefreshStep → SessionM Next
  | [] => finishRefresh run after
  | step :: rest => do
    if !(← refreshCurrent run.token) then finishRefresh run after
    else if step.authenticated && run.user.isNone then continueRefresh run after rest
    else match step with
      | .teams => return .ask ⟨"my_teams", []⟩ (.step run .teams rest none after)
      | .teamMembers => return .ask ⟨"my_team_members", []⟩ (.step run .teamMembers rest none after)
      | .channels => return .ask ⟨"my_channels", []⟩ (.step run .channels rest none after)
      | .users =>
        let cfg := (← get).config
        return .ask (usersRequest 0 cfg.usersPerPage) (.page 0 [] (.refresh run rest after))
      | .unread =>
        match (← snapshot).currentChannel, run.user with
        | some c, some u =>
          let token ← nextThread
          return .ask (unreadRequest c u) (.step run .unread rest (some token) after)
        | _, _ => continueRefresh run after rest
      | .servers => return .ask ⟨"get_all_servers", []⟩ (.step run .servers rest none after)
      | .currentServer =>
        return .ask ⟨"get_current_server", []⟩ (.step run .currentServer rest none after)

def startRefresh (reaction : Reaction) (after : AfterRefresh) : SessionM Next := do
  let st ← snapshot
  let token ← nextRefresh
  if st.user.isNone then react reaction
  continueRefresh { token, user := st.user } after RefreshStep.all

def resumeStep (run : RefreshRun) (step : RefreshStep) (rest : List RefreshStep)
    (threadToken : Option Nat) (after : AfterRefresh) (raw : Except CallError Value) :
    SessionM Next := do
  let run ← match step with
    | .teams =>
      applyStep run threadToken (callOutcome "my_teams" (Projection.listOf "Team" Team.check) raw)
        fun _ ts => [.teams ts]
    | .teamMembers =>
      applyStep run threadToken
        (callOutcome "my_team_members" (Projection.listOf "TeamMember" TeamMember.check) raw)
        fun _ ms => [.teamMembers (uniqueMembers ms)]
    | .channels =>
      applyStep run threadToken
        (callOutcome "my_channels" (Projection.listOf "Channel" Channel.check) raw)
        fun _ cs => [.channels cs, .currentChannel cs.head?]
    | .users =>
      applyStep run threadToken (callOutcome "users" (Projection.listOf "User" User.check) raw)
        fun _ us => [.users (us.foldl addToDirectory [])]
    | .unread =>
      applyStep run threadToken
        (callOutcome "user_unread" (Projection.record "PostThread" PostThread.check) raw)
        threadChanges
    | .servers =>
      applyStep run threadToken
        (callOutcome "get_all_servers" (Projection.listOf "Server" Server.check) raw)
        fun _ ss => [.servers ss]
    | .currentServer =>
      applyStep run threadToken
        (callOutcome "get_current_server" (Projection.record "Server" Server.check) raw)
        fun _ s => [.currentServer s]
  continueRefresh run after rest

/-- Hand over the user directory, or the error that ended the paging. -/
def directoryDone (use : DirectoryUse) (r : Except CallError (List (String × User))) :
    SessionM Next :=
  match use with
  | .reply => return .done (.answer (r.map .directory))
  | .store => do
    if let .ok d := r then merge [.users d]
    return .done (.answer (r.map .directory))
  | .refresh run rest after => do
    let run ← applyStep run none r fun _ d => [.users d]
    continueRefresh run after rest

/-- Take a directory page: stop at an error, a short page or the last page. -/
def resumePage (n : Nat) (dir : List (String × User)) (use : DirectoryUse)
    (raw : Except CallError Value) : SessionM Next := do
  let cfg := (← get).config
  match callOutcome "users" (Projection.listOf "User" User.check) raw with
  | .error e => directoryDone use (.error e)
  | .ok users =>
    let dir := users.foldl addToDirectory dir
    if users.length < cfg.usersPerPage || n + 1 ≥ cfg.usersMaxPages then
      directoryDone use (.ok dir)
    else return .ask (usersRequest (n + 1) cfg.usersPerPage) (.page (n + 1) dir use)

def resumeWith (k : Pending) (raw : Except CallError Value) : SessionM Next :=
  match k with
  | .step run step rest tt after => resumeStep run step rest tt after raw
  | .page n dir use => resumePage n dir use raw
  | .login => do
    let r := callOutcome "login" (Projection.record "User" User.check) raw
    if let .ok u := r then merge [.user (some u)]
    return .done (.answer (r.map .user))
  | .logout => do
    let r := callOutcome "logout" Projection.nothing raw
    if r.toBool then resetSession
    return .done (.answer (r.map fun _ => .nothing))
  | .addServer => do
    let r := callOutcome "add_server" (Projection.record "Server" Server.check) raw
    if let .ok s := r then writeWith fun st => [.servers (withServer st.servers s), .currentServer s]
    return .done (.answer (r.map .server))
  | .postThread =>
    return .done (.answer ((callOutcome "post_threads"
      (Projection.record "PostThread" PostThread.check) raw).map .thread))
  | .thread token command => do
    let r := callOutcome command (Projection.record "PostThread" PostThread.check) raw
    if ← threadCurrent token then
      if let .ok t := r then writeWith fun st => threadChanges st t
    return .done (.answer (r.map .thread))
  | .switch reaction =>
    match callOutcome "change_server" (Projection.record "ChangeServerResult" Switch.check) raw with
    | .error e => return .done (.answer (.error e))
    | .ok sw => return .ask ⟨"logout", []⟩ (.switchLogout sw reaction)
  | .switchLogout sw reaction => do
    resetSession
    merge [.currentServer sw.current, .servers sw.servers]
    startRefresh reaction (.switched sw)
  | .command spec => return .done (.answer (callOutcome spec.command spec.reading.project raw))

/-- Continue an operation with the answer to its request; a rejection is read
first, and one that cannot be read ends the operation. -/
def resume (k : Pending) : Except Payload Value → SessionM Next
  | .ok v => resumeWith k (.ok v)
  | .error p =>
    match CallError.ofPayload Payload.nestingInSession p with
    | .ok e => resumeWith k (.error e)
    | .error f => return .fault f

/-- Load a thread as the selected channel's posts, under a new thread token. -/
def loadThread (req : Request) : SessionM Next := do
  let token ← nextThread
  return .ask req (.thread token req.command)

def start : Operation → SessionM Next
  | .refresh reaction => startRefresh reaction .reply
  | .login l p => return .ask ⟨"login", [("login", l), ("password", p)]⟩ .login
  | .logout => return .ask ⟨"logout", []⟩ .logout
  | .changeServer name reaction =>
    return .ask ⟨"change_server", [("serverName", name)]⟩ (.switch reaction)
  | .addServer name url => return .ask ⟨"add_server", [("name", name), ("url", url)]⟩ .addServer
  | .selectChannel c => do
    merge [.currentChannel (some c)]
    match (← snapshot).user with
    | none => return .done (.answer (.error (.text "Not logged in")))
    | some u => loadThread (unreadRequest c u)
  | .loadChannelPosts c => loadThread ⟨"channel_posts", [("channel", .str c.id)]⟩
  | .userUnread u c => loadThread (unreadRequest c u)
  | .postThread pid => return .ask ⟨"post_threads", [("postId", pid)]⟩ .postThread
  | .updateUsers => do
    let cfg := (← get).config
    return .ask (usersRequest 0 cfg.usersPerPage) (.page 0 [] .store)
  | .fetchDirectory => do
    let cfg := (← get).config
    return .ask (usersRequest 0 cfg.usersPerPage) (.page 0 [] .reply)
  | .command spec req => return .ask req (.command spec)

end Orchestrator

end ChatSession
