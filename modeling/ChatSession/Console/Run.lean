import ChatSession.Console.Arguments
import ChatSession.Console.Overview
import ChatSession.Config.Settings
import ChatSession.Session.Script
import ChatSession.Data.UpperCase

/-!
One run of the command line, as a function of its arguments, the files it
can read and its environment.

The run reads its options, then its settings; it checks the log level, finds
the recorded backend (the option, else the settings), reads it, and replays
a session against it: a switch of server if one is named, a login if one is
named (with an empty password if none is given), and a refresh. It prints
the overview of the snapshot the refresh returns, and the threads when asked.

A recorded backend is a YAML (or JSON) document; its `commands` mapping
holds the entries of each command. A document that is empty or no mapping
has no commands; a `commands` value must be a mapping.
-/

namespace ChatSession

/-- Why a run stops. -/
inductive RunError where
  | settings (e : SettingsError)
  | unknownLevel (level : String)
  | missingFile (path : String)
  | notAPath
  | yaml (e : YamlError)
  | commandsWithoutSize (typeName : String)
  | commandsNotMapping (typeName : String)
  | fixture (e : FixtureError)
  | unreadable (f : ReadFault)
  | stalled
deriving Inhabited

def RunError.message : RunError → String
  | .settings e => e.message
  | .unknownLevel l => "Unknown level: " ++ Literal.quote l
  | .missingFile p => "[Errno 2] No such file or directory: " ++ Literal.quote p
  | .notAPath => "expected str, bytes or os.PathLike object, not list"
  | .yaml e => e.message
  | .commandsWithoutSize t => "object of type '" ++ t ++ "' has no len()"
  | .commandsNotMapping t => "'" ++ t ++ "' object has no attribute 'items'"
  | .fixture e => e.message
  | .unreadable f => f.message
  | .stalled => "the session replay did not finish"

namespace LogLevel

def upper (s : String) : String := UpperCase.ofString s

def names : List String :=
  ["CRITICAL", "FATAL", "ERROR", "WARN", "WARNING", "INFO", "DEBUG", "NOTSET"]

/-- Check a log level, whatever its case. -/
def check (level : String) : Except RunError Unit :=
  if names.contains (upper level) then .ok () else .error (.unknownLevel (upper level))

end LogLevel

/-- What a run of the command line gives: its printed text, its exit code if
it ends early, and the error that stopped it if any. -/
structure Transcript where
  stdout : String := ""
  exit : Option Nat := none
  error : Option RunError := none
deriving Inhabited

namespace Console

/-- The commands of a recorded backend. -/
def commands (text : String) : Except RunError (List (Value × Value)) := do
  let doc ← (Value.ofYaml text).mapError RunError.yaml
  let doc := if doc.truthy then doc else .dict []
  let cmds := match doc with
    | .dict kvs => (Value.field? kvs "commands").getD (.dict [])
    | _ => .dict []
  match cmds with
  | .dict kvs => return kvs
  | .str _ | .bytes _ | .list _ | .tuple _ | .set _ => throw (.commandsNotMapping cmds.typeName)
  | v => throw (.commandsWithoutSize v.qualifiedTypeName)

/-- The session the command line replays. -/
def script (o : Options) : List Action :=
  let nonEmpty : Option String → Option String
    | some s => if s.isEmpty then none else some s
    | none => none
  (match nonEmpty o.server with
    | some s => [Action.changeServer (.str s) .ignore]
    | none => []) ++
  (match nonEmpty o.login with
    | some l => [Action.login (.str l) (.str (o.password.getD ""))]
    | none => []) ++
  [Action.refresh .immediate]

/-- Replay the session against a recorded backend; the snapshot the refresh returns. -/
def replay (cfg : ClientConfig) (o : Options) (fixture : String) : Except RunError PageState := do
  let replay ← (Replay.ofFixture (← commands fixture)).mapError RunError.fixture
  let machine : Machine := { session := { config := cfg }, replay }
  match machine.run (script o) with
  | (records, true) =>
    let fault? := records.findSome? fun r => match r.result with
      | .failed (.unreadable f) => some f
      | _ => none
    if let some f := fault? then throw (.unreadable f)
    match records.getLast? with
    | some r => return r.state
    | none => throw .stalled
  | (_, false) => throw .stalled

/-- Run the command line. `file` reads a file and `env` a variable of the
environment, in any monad: the run itself decides everything else. -/
def run {m : Type → Type} [Monad m] (args : List String) (file : String → m (Option String))
    (env : String → m (Option String)) : m Transcript := do
  match Options.parse args with
  | .error _ => return { exit := some 2 }
  | .ok o =>
    if o.help then return { stdout := usageText, exit := some 0 }
    let some path := o.config | return { error := some .notAPath }
    let settings ← file path
    let vars ← Settings.overrides.mapM fun (name, _) => do return (name, ← env name)
    let lookup (name : String) : Option String := (vars.find? (·.1 == name)).bind (·.2)
    match Settings.clientConfig settings lookup with
    | .error e => return { error := some (.settings e) }
    | .ok cfg =>
      match LogLevel.check cfg.logLevel with
      | .error e => return { error := some e }
      | .ok () =>
        let fixture := match o.fixture with
          | some f => if f.isEmpty then cfg.fixture else some f
          | none => cfg.fixture
        match fixture with
        | none | some "" => return { exit := some 2 }
        | some path =>
          match ← file path with
          | none => return { error := some (.missingFile path) }
          | some text =>
            match replay cfg o text with
            | .error e => return { error := some e }
            | .ok s =>
              return { stdout := Overview.print (Overview.lines s ++
                (if o.threads then Overview.threadLines s else [])) }

end Console

end ChatSession
