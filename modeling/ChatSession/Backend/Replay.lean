import ChatSession.Backend.Rejection

/-!
A recorded backend: answers replayed from a fixture.

A fixture maps each command to an entry or to a list of entries. An entry is
a dictionary with a `result` (the answer) or an `error` (a rejection payload;
it wins when both are there). A command's entries are used in order and the
last one is used again for every later call. A command with no entries in the
fixture is rejected with the text `command <name> not found`.

A fixture is refused, naming the first bad command in fixture order, when
one of its entries is no such dictionary or its list of entries is empty; a
command that cannot be named (an integer of more than 4300 digits) gives the
error of that integer's text instead.
-/

namespace ChatSession

/-- One recorded answer of a command. -/
inductive Reply where
  | result (v : Value)
  | error (payload : Value)
deriving Inhabited

/-- Why a fixture cannot be replayed. -/
inductive FixtureError where
  | badEntry (command : String)
  | noEntries (command : String)
  | unprintableCommand
deriving Repr, DecidableEq, Inhabited

def FixtureError.message : FixtureError → String
  | .badEntry c => "Fixture entry for '" ++ c ++ "' needs a 'result' or 'error' key"
  | .noEntries c => "Fixture for '" ++ c ++ "' has no entries"
  | .unprintableCommand => Literal.digitLimitMessage

/-- A recorded backend: the remaining entries of each command, in fixture order. -/
structure Replay where
  queues : List (Value × List Reply) := []
deriving Inhabited

namespace Replay

/-- The reply an entry stands for, if it is one. -/
def reply? : Value → Option Reply
  | .dict kvs =>
    match Value.field? kvs "error", Value.field? kvs "result" with
    | some p, _ => some (.error p)
    | none, some v => some (.result v)
    | none, none => none
  | _ => none

/-- The entries of one command: a list, or a single entry. -/
def entries (command : Value) (raw : Value) : Except FixtureError (List Reply) :=
  let items := match raw with
    | .list xs => xs
    | v => [v]
  let named (e : String → FixtureError) : FixtureError :=
    match command.text? with
    | some c => e c
    | none => .unprintableCommand
  match items.mapM reply? with
  | none => .error (named .badEntry)
  | some [] => .error (named .noEntries)
  | some rs => .ok rs

/-- The recorded backend of a fixture's commands. -/
def ofFixture (commands : List (Value × Value)) : Except FixtureError Replay := do
  let queues ← commands.mapM fun (c, raw) => do return (c, ← entries c raw)
  return ⟨queues⟩

/-- Answer a command: the next entry of its queue (the last one stays), or a
rejection when the command has no entries. -/
def answer (r : Replay) (command : String) : Replay × Except Payload Value :=
  match r.queues.find? (fun e => Value.eqv e.1 (.str command)) with
  | none | some (_, []) => (r, .error (.data (.str ("command " ++ command ++ " not found"))))
  | some (_, first :: rest) =>
    let r' := if rest.isEmpty then r
      else ⟨r.queues.map fun e => if Value.eqv e.1 (.str command) then (e.1, rest) else e⟩
    match first with
    | .error p => (r', .error (.data p))
    | .result v => (r', .ok v)

end Replay

end ChatSession
