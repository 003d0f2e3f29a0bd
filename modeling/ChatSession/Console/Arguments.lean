import ChatSession.Data.Literal
import ChatSession.Data.Digit

/-!
The command line's options.

`--fixture F` names the recorded backend, `--config C` the settings file,
`--login L` and `--password P` a login before the refresh, `--server S` a
server to switch to first, and `--threads` asks for the threads of the
active channel; `-h` or `--help` asks for the usage text. A value may follow
its option as the next argument or after `=`; a long option may be shortened
to any prefix that names it alone. An argument that is no option, or an option that is unknown, is refused
once all others are read, and so are `--` and every argument after it; an
option without its value (`--` is none), or a switch given a value, is
refused at once. `--opt=--` gives the option an empty list of values.
An argument that looks like a negative number or holds a space is a value,
not an option.
-/

namespace ChatSession

/-- An option of the command line. -/
inductive Flag where
  | fixture
  | config
  | login
  | password
  | server
  | threads
  | help
deriving Repr, DecidableEq, Inhabited

namespace Flag

/-- Every option, in the order the usage text lists them. -/
def all : List Flag := [.help, .fixture, .config, .login, .password, .server, .threads]

def long : Flag → String
  | .fixture => "--fixture"
  | .config => "--config"
  | .login => "--login"
  | .password => "--password"
  | .server => "--server"
  | .threads => "--threads"
  | .help => "--help"

def takesValue : Flag → Bool
  | .threads | .help => false
  | _ => true

/-- How the option is named in messages. -/
def label : Flag → String
  | .help => "-h/--help"
  | f => f.long

end Flag

/-- The settings file read when no other is named. -/
def defaultConfigPath : String := "config/config.yaml"

/-- The options given on the command line. The settings file is none when its
option was given an empty list of values (`--config=--`). -/
structure Options where
  fixture : Option String := none
  config : Option String := some defaultConfigPath
  login : Option String := none
  password : Option String := none
  server : Option String := none
  threads : Bool := false
  help : Bool := false
deriving Repr, DecidableEq, Inhabited

/-- Why a command line is refused. -/
inductive UsageError where
  | unrecognized (args : List String)
  | ambiguous (arg : String) (candidates : List Flag)
  | missingValue (flag : Flag)
  | ignoredValue (flag : Flag) (value : String)
  | noFixture
deriving Repr, DecidableEq, Inhabited

def UsageError.message : UsageError → String
  | .unrecognized args => "unrecognized arguments: " ++ " ".intercalate args
  | .ambiguous arg ms =>
    "ambiguous option: " ++ arg ++ " could match " ++ ", ".intercalate (ms.map Flag.long)
  | .missingValue f => "argument " ++ f.label ++ ": expected one argument"
  | .ignoredValue f v => "argument " ++ f.label ++ ": ignored explicit argument " ++
      (Value.str v).literal
  | .noFixture => "a fixture is required (--fixture or client.fixture in config)"

def usageText : String :=
  "usage: chat-session [-h] [--fixture FIXTURE] [--config CONFIG] [--login LOGIN]\n" ++
  "                    [--password PASSWORD] [--server SERVER] [--threads]\n"

namespace Arguments

/-- How an argument reads: an option (perhaps with a value after `=`), an
unknown option, or a plain value. -/
inductive Token where
  | flag (f : Flag) (value : Option String)
  | unknown (arg : String)
  | plain (arg : String)
deriving Repr, DecidableEq, Inhabited

/-- Text that reads as a negative number: `-1`, `-1.5`, `-.5`, with decimal
digits of any script, and perhaps one line feed at the end. -/
def isNegativeNumber (s : String) : Bool :=
  let cs := s.toList
  let cs := if cs.getLast? == some '\n' then cs.dropLast else cs
  match cs with
  | '-' :: rest =>
    let whole := rest.takeWhile Digit.isDecimal
    match rest.drop whole.length with
    | [] => !whole.isEmpty
    | '.' :: frac => !frac.isEmpty && frac.all Digit.isDecimal
    | _ => false
  | _ => false

/-- Read one argument. -/
def classify (arg : String) : Except UsageError Token :=
  let cs := arg.toList
  match cs with
  | '-' :: c :: rest =>
    match Flag.all.find? (·.long == arg) with
    | some f => .ok (.flag f none)
    | none =>
      if arg == "-h" then .ok (.flag .help none) else
      let name := String.ofList (cs.takeWhile (· != '='))
      let value := if cs.contains '=' then some (String.ofList ((cs.dropWhile (· != '=')).drop 1))
        else none
      match Flag.all.find? (·.long == name), value with
      | some f, some v => .ok (.flag f (some v))
      | _, _ =>
        if c == '-' then
          match Flag.all.filter (·.long.startsWith name) with
          | [f] => .ok (.flag f value)
          | [] =>
            if isNegativeNumber arg || cs.contains ' ' then .ok (.plain arg) else .ok (.unknown arg)
          | fs => .error (.ambiguous arg fs)
        else if c == 'h' then .ok (.flag .help (some (String.ofList rest)))
        else if isNegativeNumber arg || cs.contains ' ' then .ok (.plain arg)
        else .ok (.unknown arg)
  | _ => .ok (.plain arg)

/-- Record an option's value; `none` is an empty list of values, which
`--opt=--` gives, and which reads as an empty value everywhere but as the
settings file. -/
def Options.set (o : Options) : Flag → Option String → Options
  | .fixture, v => { o with fixture := some (v.getD "") }
  | .config, v => { o with config := v }
  | .login, v => { o with login := some (v.getD "") }
  | .password, v => { o with password := some (v.getD "") }
  | .server, v => { o with server := some (v.getD "") }
  | .threads, _ => { o with threads := true }
  | .help, _ => { o with help := true }

/-- The options read, unless arguments named no option (`extra`, last first). -/
def finish (o : Options) (extra : List String) : Except UsageError Options :=
  if extra.isEmpty then .ok o else .error (.unrecognized extra.reverse)

/-- Read the arguments in order; `extra` collects what names no option.
After `--` nothing is an option, and nothing is a value of one either. -/
def parseFrom (o : Options) (extra : List String) : List String → Except UsageError Options
  | [] => finish o extra
  | "--" :: rest => finish o (rest.reverse ++ "--" :: extra)
  | arg :: rest => do
    match ← classify arg with
    | .plain a => parseFrom o (a :: extra) rest
    | .unknown a => parseFrom o (a :: extra) rest
    | .flag f (some v) =>
      if f.takesValue then parseFrom (Options.set o f (if v == "--" then none else some v)) extra rest
      else .error (.ignoredValue f v)
    | .flag .help none => return { o with help := true }
    | .flag f none =>
      if !f.takesValue then parseFrom (Options.set o f none) extra rest
      else match rest with
        | "--" :: _ => .error (.missingValue f)
        | v :: more =>
          match classify v with
          | .ok (.plain _) => parseFrom (Options.set o f (some v)) extra more
          | _ => .error (.missingValue f)
        | [] => .error (.missingValue f)

end Arguments

def Options.parse (args : List String) : Except UsageError Options :=
  Arguments.parseFrom {} [] args

end ChatSession
