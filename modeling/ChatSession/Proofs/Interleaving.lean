import ChatSession.Session.Orchestrator

/-!
Interleavings of a session's operations.

An operation runs in atomic stretches: from its start to its first backend
call, and from each answer to its next call or to its end. A `World` holds the
session and the calls that wait for their answers. An `Event` either starts an
operation or answers one of the waiting calls, in whatever order; so every
interleaving of operations, with every order in which the backend answers, is
a list of events.

Beside the session, a world keeps a short history read off the events rather
than off the session: when the newest refresh began, when the session was last
reset, when the newest thread load was issued, which thread loads wrote the
channel's posts, and every call made so far. Each waiting call remembers when
it was issued and when the work it serves began. A refresh begins when a
refresh is started and when a server switch goes on after its logout; the
session is reset by a logout that succeeds and by that same step of a server
switch; a thread load is a call for the unread step of a refresh or for the
posts of a selected channel.
-/

namespace ChatSession

/-- A backend call that waits for its answer, with when it was issued and when
the work it serves began: its operation's start, or the event at which a
server switch began it. -/
structure Call where
  origin : Nat
  issued : Nat
  req : Request
  k : Pending

/-- Something that happens to a session. -/
inductive Event where
  | start (op : Operation)
  | answer (i : Nat) (raw : Except Payload Value)

/-- An answer as the orchestrator reads it: data, or the error a rejection stands
for; a rejection it cannot read at all stops the operation. -/
def readAnswer : Except Payload Value → Except ReadFault (Except CallError Value)
  | .ok v => .ok (.ok v)
  | .error p => (CallError.ofPayload Payload.nestingInSession p).map .error

/-- The orchestrator can read the answer. -/
def readable (raw : Except Payload Value) : Bool := (readAnswer raw).toBool

namespace Pending

/-- The refresh a continuation is part of. -/
def refreshRun? : Pending → Option RefreshRun
  | .step run _ _ _ _ => some run
  | .page _ _ (.refresh run _ _) => some run
  | _ => none

/-- The continuation takes the answer to a thread load: the unread step of a
refresh, or a load of a channel's posts. -/
def isThreadLoad : Pending → Bool
  | .step _ .unread _ _ _ => true
  | .thread _ _ => true
  | _ => false

/-- The thread token the continuation checks before it writes. -/
def threadToken? : Pending → Option Nat
  | .step _ _ _ tt _ => tt
  | .thread t _ => some t
  | _ => none

/-- Taking this answer begins a refresh: a server switch going on after its logout. -/
def beginsRefresh (k : Pending) (raw : Except Payload Value) : Bool :=
  match k with
  | .switchLogout _ _ => readable raw
  | _ => false

/-- Taking this answer resets the session: a logout that succeeds, or a server
switch going on after its logout. -/
def resets (k : Pending) (raw : Except Payload Value) : Bool :=
  match k with
  | .logout => raw.toBool
  | .switchLogout _ _ => readable raw
  | _ => false

end Pending

/-- Starting this operation begins a refresh. -/
def Operation.beginsRefresh : Operation → Bool
  | .refresh _ => true
  | _ => false

/-- A session, the calls waiting for their answers (oldest first), and what has
happened so far: the number of events, when the newest refresh began, when the
session was last reset, when the newest thread load was issued, when the loads
that wrote the channel's posts were issued (in the order they wrote), and every
call made with the origin of the work it serves. -/
structure World where
  session : Session
  calls : List Call := []
  clock : Nat := 0
  lastRefresh : Option Nat := none
  lastReset : Option Nat := none
  lastThreadLoad : Option Nat := none
  threadWrites : List Nat := []
  made : List (Nat × Request) := []

namespace World

/-- A world where nothing has happened yet. -/
def init (s : Session) : World := { session := s }

def snapshot (w : World) : PageState := w.session.store.value

/-- Take over the session after a stretch of work from `origin`: record what
began and what was reset, and queue the call the stretch ends with. -/
def settle (w : World) (origin : Nat) (began reset : Bool) : Next × Session → World
  | (next, s) =>
    let w' := { w with
      session := s
      clock := w.clock + 1
      lastRefresh := if began then some w.clock else w.lastRefresh
      lastReset := if reset then some w.clock else w.lastReset }
    match next with
    | .ask req k =>
      { w' with
        calls := w.calls ++ [⟨origin, w.clock, req, k⟩]
        lastThreadLoad := if k.isThreadLoad then some w.clock else w.lastThreadLoad
        made := w.made ++ [(origin, req)] }
    | _ => w'

/-- One event. Answering a call that is not waiting changes nothing. -/
def step (w : World) : Event → World
  | .start op =>
    w.settle w.clock op.beginsRefresh false ((Orchestrator.start op).run w.session)
  | .answer i raw =>
    match w.calls[i]? with
    | none => w
    | some c =>
      let r := (Orchestrator.resume c.k raw).run w.session
      let began := c.k.beginsRefresh raw
      let wrote := c.k.isThreadLoad && r.2.store.published != w.session.store.published
      let w' := { w with
        calls := w.calls.eraseIdx i
        threadWrites := if wrote then w.threadWrites ++ [c.issued] else w.threadWrites }
      w'.settle (if began then w.clock else c.origin) began (c.k.resets raw) r

/-- A run of events, one after another. -/
def runAll (w : World) (evs : List Event) : World := evs.foldl step w

@[simp] theorem runAll_nil (w : World) : w.runAll [] = w := rfl

@[simp] theorem runAll_cons (w : World) (e : Event) (evs : List Event) :
    w.runAll (e :: evs) = (w.step e).runAll evs := rfl

theorem runAll_append (w : World) (evs evs' : List Event) :
    w.runAll (evs ++ evs') = (w.runAll evs).runAll evs' := by
  simp [runAll, List.foldl_append]

end World

/-- A backend that answers each call by the command and its arguments alone. -/
abbrev Backend := Request → Except Payload Value

namespace World

/-- The event answers its call as the backend does. -/
def Answers (b : Backend) (w : World) : Event → Prop
  | .start _ => True
  | .answer i raw => ∀ c, w.calls[i]? = some c → raw = b c.req

/-- Every answer of a run is the backend's answer to the call it answers. -/
def Served (b : Backend) : World → List Event → Prop
  | _, [] => True
  | w, e :: evs => w.Answers b e ∧ Served b (w.step e) evs

end World

end ChatSession
