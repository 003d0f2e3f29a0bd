import ChatSession.Session.Orchestrator
import ChatSession.Backend.Replay

/-!
Session scripts: operations run one after another against a recorded
backend, with tasks running beside them on one thread.

A script is a list of `Action`s for the main actor. Besides the session's
operations and direct store actions, an action may spawn a task (another
actor running one action), let the scheduler run for some turns (`tick`),
wait for a task, or hold the next call of a command behind a gate until the
gate is released.

The scheduler is a first-in first-out queue of actors. An actor runs until it
has to wait; every backend call is recorded and then gives up one turn
before it is answered; a released gate, a finished task and a new task each
put the actor concerned at the end of the queue. The main actor's action
ends a step; the step's record says what happened meanwhile: the calls made
by all actors, the writes published, the reactions run.
-/

namespace ChatSession

/-- One step of a session script. -/
inductive Action where
  | refresh (reaction : Reaction)
  | login (loginId password : Value)
  | logout
  | changeServer (name : Value) (reaction : Reaction)
  | addServer (name url : Value)
  | selectChannel (channel : Value)
  | loadChannelPosts (channel : Value)
  | userUnread (user channel : Value)
  | postThread (postId : Value)
  | updateUsers
  | fetchDirectory
  | command (name : String) (args : List Value)
  | merge (fields : List (String × Value))
  | resetSession
  | threadGroups
  | get
  | subscribe
  | unsubscribe (id : Int)
  | hold (command : String)
  | release (gate : Int)
  | spawn (a : Action)
  | tick (n : Nat)
  | wait (task : Int)
deriving Inhabited

/-- Why an action failed. -/
inductive Failure where
  | invalid (r : Report)
  | halted (h : Halt)
  | unknownFields (names : List String)
  | arguments (message : String)
  | noCommand (name : String)
  | noSuchEntry
  | unreadable (f : ReadFault)
deriving Inhabited

def Failure.message : Failure → String
  | .invalid r => r.text
  | .halted h => h.message
  | .unknownFields names => (MergeError.unknownFields names).message
  | .arguments m => m
  | .noCommand name => "no command named " ++ name
  | .noSuchEntry => "list index out of range"
  | .unreadable f => f.message

inductive StepResult where
  | outcome (o : Outcome)
  | state (s : PageState)
  | groups (gs : List ThreadGroup)
  | nothing
  | subscription (id : Nat)
  | gate (id : Nat)
  | task (id : Nat)
  | failed (f : Failure)
deriving Inhabited

inductive Actor where
  | main
  | task (id : Nat)
  | reaction
deriving Repr, DecidableEq, Inhabited

/-- Where an actor stands: not started, held at a gate before its call, with its
call recorded and the answer due on its next turn, asleep for some turns,
waiting for a task, or finished. -/
inductive Activity where
  | start (a : Action)
  | gated (req : Request) (k : Pending)
  | called (req : Request) (k : Pending)
  | ticking (n : Nat)
  | waiting (task : Nat)
  | finished (r : StepResult)
deriving Inhabited

/-- A gate for the next call of a command. -/
structure Gate where
  command : String
  released : Bool := false
  used : Bool := false
  waiter : Option Actor := none
deriving Inhabited

/-- The whole world of a script: the session, the backend, the scheduler. -/
structure Machine where
  session : Session
  replay : Replay
  calls : Array Request := #[]
  gates : Array Gate := #[]
  tasks : Array Activity := #[]
  main : Activity := .finished .nothing
  ready : List Actor := []
  waiters : List (Nat × Actor) := []
deriving Inhabited

/-- A position counted from the front, or from the back when negative. -/
def entryIndex (size : Nat) (i : Int) : Option Nat :=
  if 0 ≤ i ∧ i < size then some i.toNat
  else if -(size : Int) ≤ i ∧ i < 0 then some (size - i.natAbs)
  else none

namespace Machine

/-- An actor's activity; a deferred reaction has none of its own. -/
def activity (m : Machine) : Actor → Activity
  | .main => m.main
  | .task i => m.tasks.getD i (.finished .nothing)
  | .reaction => .finished .nothing

def setActivity (m : Machine) (who : Actor) (a : Activity) : Machine :=
  match who with
  | .main => { m with main := a }
  | .task i => { m with tasks := m.tasks.modify i fun _ => a }
  | .reaction => m

def enqueue (m : Machine) (who : Actor) : Machine := { m with ready := m.ready ++ [who] }

/-- An actor is done; actors waiting for it are woken in the order they began waiting. -/
def finish (m : Machine) (who : Actor) (r : StepResult) : Machine :=
  let m := m.setActivity who (.finished r)
  match who with
  | .task i =>
    let (woken, rest) := m.waiters.partition (·.1 == i)
    { m with waiters := rest, ready := m.ready ++ woken.map (·.2) }
  | _ => m

/-- Record a call; it is answered on the actor's next turn. -/
def record (m : Machine) (who : Actor) (req : Request) (k : Pending) : Machine :=
  let m := { m with calls := m.calls.push req }
  (m.setActivity who (.called req k)).enqueue who

/-- Issue a call: the first unused gate of its command holds it until released. -/
def issue (m : Machine) (who : Actor) (req : Request) (k : Pending) : Machine :=
  match m.gates.toList.zipIdx.find? (fun (g, _) => g.command == req.command && !g.used) with
  | none => m.record who req k
  | some (g, i) =>
    if g.released then { m with gates := m.gates.modify i fun g => { g with used := true } }.record who req k
    else
      let m := { m with gates := m.gates.modify i fun g => { g with used := true, waiter := some who } }
      m.setActivity who (.gated req k)

/-- Take over the session after an atomic stretch: queue its deferred
reactions, then follow where the operation stopped. -/
def follow (m : Machine) (who : Actor) : Next × Session → Machine
  | (next, s) =>
    let m := { m with session := { s with scheduled := [] } }
    let m := s.scheduled.foldl (fun m _ => m.enqueue .reaction) m
    match next with
    | .ask req k => m.issue who req k
    | .done o => m.finish who (.outcome o)
    | .fault f => m.finish who (.failed (.unreadable f))

def operate (m : Machine) (who : Actor) (op : Operation) : Machine :=
  m.follow who ((Orchestrator.start op).run m.session)

def checkedAs {α : Type} (title : String) : Checked α → Except Failure α
  | .ok a => .ok a
  | .invalid is => .error (.invalid ⟨title, is⟩)
  | .halted h => .error (.halted h)

/-- The operation of an action, its arguments checked. -/
def operationOf : Action → Option (Except Failure Operation)
  | .refresh r => some (.ok (.refresh r))
  | .login l p => some (.ok (.login l p))
  | .logout => some (.ok .logout)
  | .changeServer n r => some (.ok (.changeServer n r))
  | .addServer n u => some (.ok (.addServer n u))
  | .selectChannel c => some (Operation.selectChannel <$> checkedAs "Channel" (Channel.check c))
  | .loadChannelPosts c =>
    some (Operation.loadChannelPosts <$> checkedAs "Channel" (Channel.check c))
  | .userUnread u c => some do
    let user ← checkedAs "User" (User.check u)
    let channel ← checkedAs "Channel" (Channel.check c)
    return .userUnread user channel
  | .postThread p => some (.ok (.postThread p))
  | .updateUsers => some (.ok .updateUsers)
  | .fetchDirectory => some (.ok .fetchDirectory)
  | .command name args => some <|
    match CommandSpec.find? name with
    | none => .error (.noCommand name)
    | some spec =>
      match spec.request args with
      | .ok req => .ok (.command spec req)
      | .error msg => .error (.arguments msg)
  | _ => none

/-- Start an action for an actor and run it until it has to wait. -/
def begin (m : Machine) (who : Actor) (a : Action) : Machine :=
  match operationOf a with
  | some (.ok op) => m.operate who op
  | some (.error f) => m.finish who (.failed f)
  | none =>
    let store := m.session.store
    let withStore (s : Store) : Machine := { m with session := { m.session with store := s } }
    match a with
    | .merge fields =>
      match store.value.mergeNamed fields with
      | .ok st => (withStore (store.write fun _ => st)).finish who (.state st)
      | .error (.invalid r) => m.finish who (.failed (.invalid r))
      | .error (.halted h) => m.finish who (.failed (.halted h))
      | .error (.unknownFields ns) => m.finish who (.failed (.unknownFields ns))
    | .resetSession =>
      let s := store.resetSession
      (withStore s).finish who (.state s.value)
    | .threadGroups => m.finish who (.groups store.threadGroups)
    | .get => m.finish who .nothing
    | .subscribe =>
      let (id, s) := store.subscribe
      (withStore s).finish who (.subscription id)
    | .unsubscribe i =>
      match entryIndex store.subscriptions.length i with
      | some id => (withStore (store.unsubscribe id)).finish who .nothing
      | none => m.finish who (.failed .noSuchEntry)
    | .hold command =>
      let id := m.gates.size
      { m with gates := m.gates.push { command } }.finish who (.gate id)
    | .release g =>
      match entryIndex m.gates.size g with
      | none => m.finish who (.failed .noSuchEntry)
      | some i =>
        let waiter := (m.gates[i]?.bind (·.waiter))
        let m := { m with gates := m.gates.modify i fun g => { g with released := true, waiter := none } }
        let m := match waiter with
          | some w => m.enqueue w
          | none => m
        m.finish who .nothing
    | .spawn b =>
      let id := m.tasks.size
      let m := { m with tasks := m.tasks.push (.start b) }
      (m.enqueue (.task id)).finish who (.task id)
    | .tick n =>
      if n == 0 then m.finish who .nothing
      else (m.setActivity who (.ticking n)).enqueue who
    | .wait t =>
      match entryIndex m.tasks.size t with
      | none => m.finish who (.failed .noSuchEntry)
      | some i =>
        match m.tasks[i]? with
        | some (.finished r) => m.finish who r
        | _ => { (m.setActivity who (.waiting i)) with waiters := m.waiters ++ [(i, who)] }
    | _ => m

def turn (m : Machine) (who : Actor) : Machine :=
  match who with
  | .reaction =>
    { m with session := { m.session with reactions := m.session.reactions + 1 } }
  | _ =>
    match m.activity who with
    | .start a => m.begin who a
    | .gated req k => m.record who req k
    | .called req k =>
      let (replay, raw) := m.replay.answer req.command
      { m with replay }.follow who ((Orchestrator.resume k raw).run m.session)
    | .ticking n =>
      if n ≤ 1 then m.finish who .nothing else (m.setActivity who (.ticking (n - 1))).enqueue who
    | .waiting t =>
      match m.tasks[t]? with
      | some (.finished r) => m.finish who r
      | _ => m
    | .finished _ => m

def mainDone (m : Machine) : Bool :=
  match m.main with
  | .finished _ => true
  | _ => false

/-- Run turns until the main actor is done; `none` when the queue runs dry
first, or the turns run out. -/
def settle : Nat → Machine → Option Machine
  | 0, _ => none
  | fuel + 1, m =>
    if m.mainDone then some m
    else match m.ready with
      | [] => none
      | who :: rest => settle fuel ({ m with ready := rest }.turn who)

end Machine

/-- What one step of a script did. -/
structure StepRecord where
  result : StepResult
  calls : List Request
  published : Nat
  reactions : Nat
  deliveries : List Nat
  state : PageState
deriving Inhabited

namespace Machine

def turnBudget : Nat := 1000000

def step (m : Machine) (a : Action) : Option (StepRecord × Machine) := do
  let callsBefore := m.calls.size
  let publishedBefore := m.session.store.published
  let m ← settle turnBudget (m.begin .main a)
  let result := match m.main with
    | .finished r => r
    | _ => .nothing
  let store := m.session.store
  return ({ result
            calls := (m.calls.toList.drop callsBefore)
            published := store.published - publishedBefore
            reactions := m.session.reactions
            deliveries := store.subscriptions.map (·.delivered)
            state := store.value }, m)

/-- Run a script; stops early, with the steps so far, if a step cannot end. -/
def run (m : Machine) : List Action → List StepRecord × Bool
  | [] => ([], true)
  | a :: rest =>
    match m.step a with
    | none => ([], false)
    | some (r, m') =>
      let (rs, ok) := run m' rest
      (r :: rs, ok)

end Machine

end ChatSession
